/-
# `CfgComments` — comments in a profile

The test for a comment looks at a chunk, not at a line.  The first chunk of a
comment is skipped; what is longer than the buffer comes back as chunks that
the loop takes for lines of their own.  A comment whose further chunks are
skipped too changes nothing in any file, and any other comment changes the
result of some file.
-/
import CtcSai.AppCfgParse

namespace CtcSai

open LineReader

/-! ## Lines and comments -/

def lineChunks (l : List Byte) : List (List Byte) := chunks Byte.newline bufferSize l

def stripComments (file : List Byte) : List Byte :=
  ((lines Byte.newline file).filter fun l => !commentLine l).flatten

/-- All chunks of the line are skipped. -/
def Harmless (l : List Byte) : Prop := ∀ c ∈ lineChunks l, readChunk c = .skip

def WholeLine (l : List Byte) : Prop := ∃ a, Byte.newline ∉ a ∧ l = a ++ [Byte.newline]

/-! ## Skipped chunks -/

variable {func : CStr → AppParse → ParseRet × AppParse}
variable {c : List Byte} {ls : List (List Byte)} {name : Byte}

theorem doParseLoop_cons (c : List Byte) (cs : List (List Byte)) (ret : ParseRet) (p : AppParse) :
    doParseLoop func (c :: cs) ret p = match readChunk c with
      | .skip => doParseLoop func cs ret p
      | .unterminated => none
      | .line text =>
        match func text p with
        | (.continue, p) => doParseLoop func cs .continue p
        | (ret, p) => some (ret, p) := rfl

@[simp] theorem doParseLoop_skip (h : readChunk c = .skip) (cs : List (List Byte)) (ret : ParseRet)
    (p : AppParse) :
    doParseLoop func (c :: cs) ret p = doParseLoop func cs ret p := by
  rw [doParseLoop_cons, h]

theorem doParseLoop_skips {skipped : List (List Byte)} (h : ∀ c ∈ skipped, readChunk c = .skip)
    (cs : List (List Byte)) (ret : ParseRet) (p : AppParse) :
    doParseLoop func (skipped ++ cs) ret p = doParseLoop func cs ret p := by
  induction skipped with
  | nil => rfl
  | cons c skipped ih =>
    rw [List.cons_append, doParseLoop_skip (h c (List.mem_cons_self ..))]
    exact ih (fun c hc => h c (List.mem_cons_of_mem _ hc))

theorem doParseLoop_congr {cs cs' : List (List Byte)}
    (h : ∀ ret p, doParseLoop func cs ret p = doParseLoop func cs' ret p)
    (pre : List (List Byte)) (ret : ParseRet) (p : AppParse) :
    doParseLoop func (pre ++ cs) ret p = doParseLoop func (pre ++ cs') ret p := by
  induction pre generalizing ret p with
  | nil => exact h ret p
  | cons c pre ih =>
    rw [List.cons_append, List.cons_append, doParseLoop_cons, doParseLoop_cons]
    split
    · exact ih ret p
    · rfl
    · split
      · exact ih _ _
      · rfl

theorem doParseLoop_filter {q : List Byte → Bool} (h : ∀ l ∈ ls, q l = false → Harmless l)
    (ret : ParseRet) (p : AppParse) :
    doParseLoop func ((ls.filter q).flatMap lineChunks) ret p =
      doParseLoop func (ls.flatMap lineChunks) ret p := by
  induction ls generalizing ret p with
  | nil => rfl
  | cons l ls ih =>
    have ih' := ih (fun l hl => h l (List.mem_cons_of_mem _ hl))
    cases hq : q l with
    | true =>
      rw [List.filter_cons_of_pos hq, List.flatMap_cons]
      exact doParseLoop_congr ih' _ ret p
    | false =>
      rw [List.filter_cons_of_neg (by simp [hq]), List.flatMap_cons,
        doParseLoop_skips (h l (List.mem_cons_self ..) hq)]
      exact ih' ret p

/-! ## Whole files -/

theorem chunks_lines (h : IsLines Byte.newline ls) :
    chunks Byte.newline bufferSize ls.flatten = ls.flatMap lineChunks :=
  chunks_flatten (by decide) h

theorem doParse_stripComments {file : List Byte}
    (h : ∀ l ∈ lines Byte.newline file, commentLine l → Harmless l) (p : AppParse) :
    doParse func p (stripComments file) = doParse func p file := by
  have hl := isLines_lines (e := Byte.newline) file
  have hfile : chunks Byte.newline bufferSize file =
      (lines Byte.newline file).flatMap lineChunks := by
    rw [← chunks_lines hl, flatten_lines]
  have hq : ∀ l ∈ lines Byte.newline file, (!commentLine l) = false → Harmless l := by
    intro l hmem hc
    exact h l hmem (by simpa using hc)
  rw [doParse, doParse, stripComments, chunks_lines (hl.filter _), hfile, doParseLoop_filter hq]

theorem parseFile_congr {file file' : List Byte}
    (h : ∀ func p, doParse func p file = doParse func p file') (r : ParseRequest) :
    parseFile r file = parseFile r file' := by
  unfold parseFile
  split
  · exact h _ _
  · split
    · exact h _ _
    · exact h _ _

theorem doParseLoop_unterminated {cs : List (List Byte)}
    (h : ∀ c ∈ cs, readChunk c = .skip ∨ readChunk c = .unterminated)
    (hu : ∃ c ∈ cs, readChunk c = .unterminated) (more : List (List Byte)) (ret : ParseRet)
    (p : AppParse) : doParseLoop func (cs ++ more) ret p = none := by
  induction cs with
  | nil =>
    obtain ⟨c, hc, _⟩ := hu
    cases hc
  | cons c cs ih =>
    rw [List.cons_append]
    rcases h c (List.mem_cons_self ..) with hs | hc
    · rw [doParseLoop_skip hs]
      obtain ⟨d, hd, hdu⟩ := hu
      rcases List.mem_cons.mp hd with rfl | hd
      · rw [hs] at hdu
        cases hdu
      · exact ih (fun c hc => h c (List.mem_cons_of_mem _ hc)) ⟨d, hd, hdu⟩
    · rw [doParseLoop_cons, hc]

/-- A full buffer without a NUL is never a line. -/
theorem readChunk_full (hlen : c.length = bufferSize) (h0 : 0 ∉ c) :
    readChunk c = .skip ∨ readChunk c = .unterminated := by
  have hn : terminated c = none := by
    rw [terminated, if_neg]
    rintro (h | h)
    · omega
    · exact h0 h
  rw [readChunk, hn]
  split
  · exact .inl rfl
  · split
    · exact .inl rfl
    · exact .inr rfl

/-! ## A file that a comment changes -/

def tableOpening : List Byte := tableOpen ++ [Byte.newline]

/-- The lines of a table of `name` in which `s` is 1. -/
def tableBody (name : Byte) : List (List Byte) :=
  [bracketed [name] ++ [Byte.newline], bracketed [0x73] ++ [Byte.equals, 0x31, Byte.newline],
    tableClose ++ [Byte.newline]]

/-- The call for `s` in that table. -/
def tableRequest (name : Byte) : ParseRequest := ⟨[name], some [0x73], 1, fun _ => 0, fun _ => 0⟩

/-- The record of that call in a state of the parser. -/
def tableState (name : Byte) (flag : ParseFlag) : AppParse :=
  ⟨bracketed [name], bracketed [0x73], 0, 1, flag, fun _ => 0, fun _ => 0⟩

/-- Two names: no line begins with both. -/
def tableNames : List Byte := [0x61, 0x62]

theorem exists_name (text : CStr) :
    ∃ name ∈ tableNames, startsWith text (bracketed [name]) = false := by
  by_cases h : startsWith text (bracketed [0x61]) = false
  · exact ⟨0x61, by decide, h⟩
  refine ⟨0x62, by decide, ?_⟩
  rcases text with _ | ⟨x, _ | ⟨y, rest⟩⟩
  · rfl
  · simp [startsWith, bracketed, List.isPrefixOf]
  -- the second character is that of the first name
  have hy : y = 0x61 := by
    simp [startsWith, bracketed] at h
    exact h.2.1.symm
  subst hy
  simp [startsWith, bracketed, List.isPrefixOf]

theorem tableBody_left (h : name ∈ tableNames) (ret : ParseRet) :
    (doParseLoop doTableCfgFile ((tableBody name).flatMap lineChunks) ret
      (tableState name .tableLeave)).map (fun r => r.2.curEntryNum) = some 0 := by
  simp only [tableNames, List.mem_cons, List.not_mem_nil, or_false] at h
  rcases h with rfl | rfl
  · rfl
  · rfl

theorem tableBody_entered (h : name ∈ tableNames) (ret : ParseRet) :
    (doParseLoop doTableCfgFile ((tableBody name).flatMap lineChunks) ret
      (tableState name .tableEnter)).map (fun r => r.2.curEntryNum) = some 1 := by
  simp only [tableNames, List.mem_cons, List.not_mem_nil, or_false] at h
  rcases h with rfl | rfl
  · rfl
  · rfl

theorem stripComments_flatten (h : IsLines Byte.newline ls) :
    stripComments ls.flatten = (ls.filter fun l => !commentLine l).flatten := by
  rw [stripComments, lines_flatten h]

theorem parseFile_table (name : Byte) (h : IsLines Byte.newline ls) :
    (parseFile (tableRequest name) ls.flatten).map (fun r => r.entryNum) =
      (doParseLoop doTableCfgFile (ls.flatMap lineChunks) .notFind
        (tableState name .global)).map (fun r => r.2.curEntryNum) := by
  have hmix : startsWith letterNumberMix [0x73] = false := by decide
  simp only [parseFile, tableRequest, hmix, doParse, chunks_lines h, Bool.false_eq_true, if_false,
    Option.map_map]
  rfl

theorem wholeLine_tableBody (h : name ∈ tableNames) :
    ∀ l ∈ tableBody name, WholeLine l ∧ commentLine l = false := by
  simp only [tableNames, List.mem_cons, List.not_mem_nil, or_false] at h
  intro l hl
  simp only [tableBody, List.mem_cons, List.not_mem_nil, or_false] at hl
  rcases hl with rfl | rfl | rfl
  · refine ⟨⟨bracketed [name], ?_, rfl⟩, rfl⟩
    rcases h with rfl | rfl
    · decide
    · decide
  · exact ⟨⟨bracketed [0x73] ++ [Byte.equals, 0x31], by decide, rfl⟩, rfl⟩
  · exact ⟨⟨tableClose, by decide, rfl⟩, rfl⟩

/-- The lines of the file have no comment but `c`, and to leave it out changes
the result of a call. -/
def Changes (c : List Byte) : Prop :=
  ∃ file, (∀ l ∈ lines Byte.newline file, commentLine l → l = c) ∧
    ∃ r, parseFile r (stripComments file) ≠ parseFile r file

theorem changes_of_unterminated (hw : WholeLine c) (hc : commentLine c)
    (hnone : ∀ func ret p, doParseLoop func (lineChunks c) ret p = none) : Changes c := by
  obtain ⟨a, ha, rfl⟩ := hw
  have hone : IsLines Byte.newline [a ++ [Byte.newline]] := .cons ha .nil
  refine ⟨[a ++ [Byte.newline]].flatten, ?_, tableRequest 0x61, ?_⟩
  · intro l hl _
    rw [lines_flatten hone] at hl
    simpa using hl
  · intro heq
    have hempty : [a ++ [Byte.newline]].filter (fun l => !commentLine l) = [] := by simp [hc]
    have hmap := congrArg (Option.map ParseResult.entryNum) heq
    rw [parseFile_table _ hone, stripComments_flatten hone, hempty, List.flatMap_cons,
      List.flatMap_nil, List.append_nil, hnone] at hmap
    cases hmap

/-- A comment whose last chunk is read as a line is taken for the name of the
table that it stands in. -/
theorem changes_of_line {text : List Byte} {full : List (List Byte)} {rest : List Byte}
    (hw : WholeLine c) (hc : commentLine c) (hch : lineChunks c = full ++ [rest])
    (hskip : ∀ b ∈ full, readChunk b = .skip) (hrest : readChunk rest = .line text) :
    Changes c := by
  obtain ⟨name, hname, hstart⟩ := exists_name text
  have hbody := wholeLine_tableBody hname
  have hopen : WholeLine tableOpening := ⟨tableOpen, by decide, rfl⟩
  have hbodyLines : IsLines Byte.newline (tableBody name) := by
    have happ := IsLines.append (fun l hl => (hbody l hl).1) (.nil)
    simpa using happ
  have hwith : IsLines Byte.newline ([tableOpening, c] ++ tableBody name) := by
    refine IsLines.append ?_ hbodyLines
    intro l hl
    simp only [List.mem_cons, List.not_mem_nil, or_false] at hl
    rcases hl with rfl | rfl
    · exact hopen
    · exact hw
  have hwithout : IsLines Byte.newline ([tableOpening] ++ tableBody name) := by
    refine IsLines.append ?_ hbodyLines
    intro l hl
    rw [List.mem_singleton] at hl
    exact hl ▸ hopen
  have hstrip : ([tableOpening, c] ++ tableBody name).filter (fun l => !commentLine l) =
      [tableOpening] ++ tableBody name := by
    have hself : (tableBody name).filter (fun l => !commentLine l) = tableBody name := by
      apply List.filter_eq_self.mpr
      intro l hl
      simp [(hbody l hl).2]
    have hopening : commentLine tableOpening = false := by decide
    rw [List.filter_append, hself]
    simp [hopening, hc]
  refine ⟨([tableOpening, c] ++ tableBody name).flatten, ?_, tableRequest name, ?_⟩
  · intro l hl hcl
    rw [lines_flatten hwith] at hl
    simp only [List.mem_append, List.mem_cons, List.not_mem_nil, or_false] at hl
    rcases hl with (rfl | rfl) | hl
    · cases hcl
    · rfl
    · rw [(hbody l hl).2] at hcl
      cases hcl
  · intro heq
    have hmap := congrArg (Option.map ParseResult.entryNum) heq
    rw [stripComments_flatten hwith, hstrip] at hmap
    have hfound : (parseFile (tableRequest name) ([tableOpening] ++ tableBody name).flatten).map
        ParseResult.entryNum = some 1 := by
      rw [parseFile_table name hwithout]
      exact tableBody_entered hname .continue
    have hlost : (parseFile (tableRequest name) ([tableOpening, c] ++ tableBody name).flatten).map
        ParseResult.entryNum = some 0 := by
      have hstep : ∀ cs ret, doParseLoop doTableCfgFile (rest :: cs) ret
          (tableState name .tableEnter) =
            doParseLoop doTableCfgFile cs .continue (tableState name .tableLeave) := by
        intro cs ret
        have hfunc : doTableCfgFile text (tableState name .tableEnter) =
            (.continue, tableState name .tableLeave) := by
          simp [doTableCfgFile, tableState, hstart]
        rw [doParseLoop_cons, hrest]
        simp only [hfunc]
      have hloop : ∀ cs, doParseLoop doTableCfgFile
          (lineChunks tableOpening ++ (full ++ [rest]) ++ cs) .notFind (tableState name .global) =
            doParseLoop doTableCfgFile cs .continue (tableState name .tableLeave) := by
        intro cs
        calc doParseLoop doTableCfgFile (lineChunks tableOpening ++ (full ++ [rest]) ++ cs)
              .notFind (tableState name .global)
            _ = doParseLoop doTableCfgFile (lineChunks tableOpening ++ (full ++ (rest :: cs)))
                .notFind (tableState name .global) := by simp
            _ = doParseLoop doTableCfgFile (full ++ (rest :: cs)) .continue
                (tableState name .tableEnter) := rfl
            _ = doParseLoop doTableCfgFile cs .continue (tableState name .tableLeave) := by
                rw [doParseLoop_skips hskip, hstep]
      rw [parseFile_table name hwith, List.flatMap_append, List.flatMap_cons, List.flatMap_cons,
        List.flatMap_nil, List.append_nil, hch, hloop]
      exact tableBody_left hname .continue
    rw [hfound, hlost] at hmap
    cases hmap

/-- A comment with a chunk that is not skipped changes the result of a file
that has no other. -/
theorem changes_of_not_harmless (hw : WholeLine c) (h0 : 0 ∉ c) (hc : commentLine c)
    (h : ¬ Harmless c) : Changes c := by
  obtain ⟨a, ha, hca⟩ := hw
  obtain ⟨full, rest, hch, hfull, hflat⟩ := chunks_line (n := bufferSize) (by decide) ha
  rw [← hca] at hch hflat
  have hread : ∀ b ∈ full, readChunk b = .skip ∨ readChunk b = .unterminated := by
    intro b hb
    refine readChunk_full (hfull b hb) (fun hmem => h0 ?_)
    rw [hflat]
    exact List.mem_append_left _ (List.mem_flatten_of_mem hb hmem)
  by_cases hu : ∃ b ∈ full, readChunk b = .unterminated
  · refine changes_of_unterminated ⟨a, ha, hca⟩ hc ?_
    intro func ret p
    rw [lineChunks, hch]
    exact doParseLoop_unterminated hread hu _ ret p
  have hskip : ∀ b ∈ full, readChunk b = .skip := by
    intro b hb
    rcases hread b hb with hs | hs
    · exact hs
    · exact absurd ⟨b, hb, hs⟩ hu
  cases hrest : readChunk rest with
  | skip =>
    refine absurd ?_ h
    intro b hb
    rw [lineChunks, hch, List.mem_append, List.mem_singleton] at hb
    rcases hb with hb | rfl
    · exact hskip b hb
    · exact hrest
  | unterminated =>
    refine changes_of_unterminated ⟨a, ha, hca⟩ hc ?_
    intro func ret p
    rw [lineChunks, hch, doParseLoop_skips hskip, doParseLoop_cons, hrest]
  | line text => exact changes_of_line ⟨a, ha, hca⟩ hc hch hskip hrest

/-- Comments of which every chunk is skipped can be left out of any file, for
any field and in any mode; and these are the only comments of which that is
true. -/
theorem stripComments_iff (c : List Byte) :
    (∀ file, (∀ l ∈ lines Byte.newline file, commentLine l → Harmless l) →
      ∀ r, parseFile r (stripComments file) = parseFile r file) ∧
    (WholeLine c → 0 ∉ c → commentLine c →
      ((∀ file, (∀ l ∈ lines Byte.newline file, commentLine l → l = c) →
        ∀ r, parseFile r (stripComments file) = parseFile r file) ↔ Harmless c)) := by
  have hstrip : ∀ file, (∀ l ∈ lines Byte.newline file, commentLine l → Harmless l) →
      ∀ r, parseFile r (stripComments file) = parseFile r file := by
    intro file h r
    exact parseFile_congr (fun func p => doParse_stripComments h p) r
  refine ⟨hstrip, ?_⟩
  intro hw h0 hc
  constructor
  · intro hall
    by_contra hharm
    obtain ⟨file, hfile, r, hne⟩ := changes_of_not_harmless hw h0 hc hharm
    exact hne (hall file hfile r)
  · intro hharm file hfile r
    refine hstrip file ?_ r
    intro l hl hcl
    exact hfile l hl hcl ▸ hharm

theorem harmless_of_length (hw : WholeLine c) (hc : commentLine c) (hlen : c.length ≤ bufferSize) :
    Harmless c := by
  obtain ⟨a, ha, rfl⟩ := hw
  have hshort : a.length < bufferSize := by
    rw [List.length_append, List.length_singleton] at hlen
    omega
  have hone : lineChunks (a ++ [Byte.newline]) = [a ++ [Byte.newline]] := by
    rw [lineChunks, chunks_eq (by decide) (by simp), fgets_short ha hshort]
    rfl
  intro b hb
  rw [hone, List.mem_singleton] at hb
  rw [hb, readChunk, if_pos hc]

/-! ## Two comments -/

/-- A comment of 64 characters, then `text`. -/
def longComment (text : List Byte) : List Byte :=
  Byte.hash :: List.replicate 63 Byte.minus ++ text ++ [Byte.newline]

/-- `# a`, before a field. -/
def shortComment : List Byte := [Byte.hash, Byte.space, 0x61, Byte.newline]

/-- `[a]=1`. -/
def fieldA : List Byte := bracketed [0x61] ++ [Byte.equals, 0x31]

/-- The call for the global field `a`. -/
def requestA : ParseRequest := ⟨[0x61], none, 1, fun _ => 0, fun _ => 0⟩

/-- Without the short comment the file says the same. -/
theorem stripComments_short : parseFile requestA (stripComments (shortComment ++ fieldA)) =
      parseFile requestA (shortComment ++ fieldA) ∧ Harmless shortComment := by
  have hw : WholeLine shortComment := ⟨[Byte.hash, Byte.space, 0x61], by decide, rfl⟩
  have hharm : Harmless shortComment := harmless_of_length hw rfl (by decide)
  refine ⟨(stripComments_iff shortComment).1 _ ?_ requestA, ?_⟩
  · intro l hl hcl
    have hlines : lines Byte.newline (shortComment ++ fieldA) = [shortComment, fieldA] := by decide
    rw [hlines, List.mem_cons, List.mem_singleton] at hl
    rcases hl with rfl | rfl
    · exact hharm
    · cases hcl
  · refine ((stripComments_iff shortComment).2 hw (by decide) rfl).mp ?_
    intro file hfile r
    refine (stripComments_iff shortComment).1 file ?_ r
    intro l hl hcl
    exact hfile l hl hcl ▸ hharm

/-- The end of a long comment sets the field. -/
theorem stripComments_not_always :
    ¬ ∀ file r, parseFile r (stripComments file) = parseFile r file := by
  intro h
  have hcount := congrArg (Option.map ParseResult.entryNum) (h (longComment fieldA) requestA)
  revert hcount
  decide

end CtcSai
