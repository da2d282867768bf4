/-
# `AppCfgLines` — are lines read whole

`_ctc_app_parse_file_fgets` copies up to the end of a line or of its buffer,
and writes no terminator: the buffer was zeroed, and a line that fills it
leaves no zero.  The loop of `_ctc_app_do_parse` takes every buffer for a
line.  So the parse functions are handed the lines of the file, all of them
and nothing else, exactly for files whose lines leave room for a terminator
and hold none of the bytes that the loop takes for an end.
-/
import CtcSai.CfgComments
import Mathlib.Data.List.TakeWhile

namespace CtcSai

open LineReader

/-! ## One call of the reader -/

/-- `ctc_app_parse_file_t`: the mapped bytes, `len` of them, and the position. -/
structure ParseFile where
  mem : List Byte
  pos : Nat
deriving DecidableEq, Repr

/-- The bytes from a pointer on. -/
abbrev Memory := Nat → Byte

/-- The loop of `_ctc_app_parse_file_fgets`; `room` is `n - copy_len`. -/
def fgetsLoop : (room copyLen : Nat) → Memory → ParseFile → Memory × ParseFile
  | 0, _, s, f => (s, f)
  | room + 1, copyLen, s, f =>
    if f.pos = f.mem.length then (s, f)
    else
      let c := f.mem.getD f.pos 0
      let s := Function.update s copyLen c
      let f := { f with pos := f.pos + 1 }
      if c = Byte.newline then (s, f) else fgetsLoop room (copyLen + 1) s f

/-- `_ctc_app_parse_file_fgets`; `none` is NULL. -/
def parseFileFgets (s : Memory) (n : Nat) (f : ParseFile) : Option (Memory × ParseFile) :=
  if f.mem.length ≤ f.pos then none else some (fgetsLoop n 0 s f)

/-- The bytes `l` written from place `k` on. -/
def written (s : Memory) (k : Nat) (l : List Byte) : Memory :=
  fun i => if k ≤ i then l.getD (i - k) (s i) else s i

@[simp] theorem written_nil (s : Memory) (k : Nat) : written s k [] = s := by
  funext i
  simp [written]

theorem written_cons (s : Memory) (k : Nat) (c : Byte) (l : List Byte) :
    written s k (c :: l) = written (Function.update s k c) (k + 1) l := by
  funext i
  simp only [written]
  rcases Nat.lt_trichotomy i k with h | h | h
  · simp [Nat.not_le.mpr h, Nat.not_le.mpr (Nat.lt_succ_of_lt h), Nat.ne_of_lt h]
  · subst h
    simp
  · obtain ⟨j, rfl⟩ : ∃ j, i = k + 1 + j := ⟨i - (k + 1), by omega⟩
    have hsub : k + 1 + j - k = j + 1 := by omega
    have hne : k + 1 + j ≠ k := by omega
    simp [hsub, hne, Nat.le_of_lt h]

theorem fgetsLoop_eq (room copyLen : Nat) (s : Memory) (mem : List Byte) (pos : Nat)
    (h : pos ≤ mem.length) :
    fgetsLoop room copyLen s ⟨mem, pos⟩ =
      (written s copyLen (fgets Byte.newline room (mem.drop pos)).1,
        ⟨mem, pos + (fgets Byte.newline room (mem.drop pos)).1.length⟩) := by
  induction room generalizing copyLen s pos with
  | zero => simp [fgetsLoop]
  | succ room ih =>
    by_cases hend : pos = mem.length
    · subst hend
      simp [fgetsLoop]
    · have hlt : pos < mem.length := by omega
      have hdrop : mem.drop pos = mem.getD pos 0 :: mem.drop (pos + 1) := by
        simp [hlt]
      rw [fgetsLoop, if_neg hend, hdrop, fgets_cons]
      by_cases hc : mem.getD pos 0 = Byte.newline
      · rw [if_pos hc, if_pos hc, written_cons, written_nil, List.length_singleton]
      · rw [if_neg hc, if_neg hc, ih _ _ _ hlt, written_cons, List.length_cons,
          Nat.succ_add_eq_add_succ]

/-- A call before the end of the file copies what `fgets` does. -/
theorem parseFileFgets_eq {mem : List Byte} {pos : Nat} (h : pos < mem.length) (s : Memory)
    (n : Nat) :
    parseFileFgets s n ⟨mem, pos⟩ = some (written s 0 (fgets Byte.newline n (mem.drop pos)).1,
        ⟨mem, pos + (fgets Byte.newline n (mem.drop pos)).1.length⟩) := by
  simp only [parseFileFgets, Nat.not_le.mpr h, if_false, fgetsLoop_eq n 0 s mem pos (Nat.le_of_lt h)]

/-- The first `n` bytes. -/
def Memory.buffer (s : Memory) (n : Nat) : List Byte := (List.range n).map s

/-- The call that reads a line from its start, into `n` bytes that were zeroed,
writes no byte behind them and leaves a terminator among them. -/
def EndsInBuffer (n : Nat) (file : List Byte) : Prop :=
  ∀ before l after, lines Byte.newline file = before ++ l :: after →
    ∀ s : Memory, (∀ i < n, s i = 0) →
      ∃ s' f, parseFileFgets s n ⟨file, before.flatten.length⟩ = some (s', f) ∧
        (∀ i, n ≤ i → s' i = s i) ∧ 0 ∈ s'.buffer n

theorem written_ge {s : Memory} {l : List Byte} {i : Nat} (h : l.length ≤ i) :
    written s 0 l i = s i := by
  simp [written, h]

theorem written_lt {s : Memory} {l : List Byte} {i : Nat} (h : i < l.length) :
    written s 0 l i = l[i] := by
  simp [written, h]

theorem zero_mem_buffer {s : Memory} {n : Nat} (h : ∀ i < n, s i = 0) {l : List Byte}
    (hl : l.length ≤ n) : 0 ∈ (written s 0 l).buffer n ↔ l.length < n ∨ 0 ∈ l := by
  simp only [Memory.buffer, List.mem_map, List.mem_range]
  constructor
  · rintro ⟨i, hi, h0⟩
    by_cases hil : i < l.length
    · rw [written_lt hil] at h0
      exact .inr (h0 ▸ List.getElem_mem hil)
    · exact .inl (by omega)
  · rintro (hlt | hmem)
    · exact ⟨l.length, hlt, by rw [written_ge (Nat.le_refl _), h _ hlt]⟩
    · obtain ⟨i, hi, h0⟩ := List.getElem_of_mem hmem
      exact ⟨i, by omega, by rw [written_lt hi, h0]⟩

theorem flatten_take_lines {file l : List Byte} {before after : List (List Byte)}
    (h : lines Byte.newline file = before ++ l :: after) :
    file.drop before.flatten.length = l ++ after.flatten := by
  have hflat := flatten_lines (e := Byte.newline) file
  rw [h, List.flatten_append, List.flatten_cons] at hflat
  rw [← hflat, List.drop_left]

/-- The first chunk of a line. -/
theorem fgets_line {file l : List Byte} {before after : List (List Byte)}
    (h : lines Byte.newline file = before ++ l :: after) (n : Nat) :
    (fgets Byte.newline n (l ++ after.flatten)).1 = l.take n := by
  have hl := isLines_lines (e := Byte.newline) file
  rw [h] at hl
  exact hl.fgets_eq before after n

theorem endsInBuffer_iff (n : Nat) (file : List Byte) :
    EndsInBuffer n file ↔ ∀ l ∈ lines Byte.newline file, l.length < n ∨ 0 ∈ l.take n := by
  have hcall : ∀ {before : List (List Byte)} {l : List Byte} {after : List (List Byte)},
      lines Byte.newline file = before ++ l :: after → ∀ s : Memory, ∃ f,
        parseFileFgets s n ⟨file, before.flatten.length⟩ = some (written s 0 (l.take n), f) := by
    intro before l after h s
    have hne : l ≠ [] := (isLines_lines file).ne_nil (by rw [h]; simp)
    have hdrop := flatten_take_lines h
    have hpos : before.flatten.length < file.length := by
      by_contra hle
      rw [List.drop_eq_nil_of_le (Nat.not_lt.mp hle)] at hdrop
      exact hne (List.append_eq_nil_iff.mp hdrop.symm).1
    have hread := parseFileFgets_eq hpos s n
    rw [hdrop, fgets_line h] at hread
    exact ⟨_, hread⟩
  have htake : ∀ l : List Byte, (l.take n).length ≤ n := fun l => by simp
  have hfit : ∀ l : List Byte, (l.take n).length < n ↔ l.length < n := fun l => by simp
  constructor
  · intro h l hl
    obtain ⟨before, after, hsplit⟩ := List.append_of_mem hl
    obtain ⟨s', f, hcalled, _, hzero⟩ := h before l after hsplit (fun _ => 0) (fun _ _ => rfl)
    obtain ⟨f', hread⟩ := hcall hsplit (fun _ => 0)
    rw [hread] at hcalled
    cases hcalled
    rw [zero_mem_buffer (fun _ _ => rfl) (htake l), hfit] at hzero
    exact hzero
  · intro h before l after hsplit s hs
    obtain ⟨f, hread⟩ := hcall hsplit s
    refine ⟨_, f, hread, ?_, ?_⟩
    · intro i hi
      exact written_ge (Nat.le_trans (htake l) hi)
    · rw [zero_mem_buffer hs (htake l), hfit]
      exact h l (by rw [hsplit]; simp)

/-! ## The strings that are handed on -/

variable (func : CStr → AppParse → ParseRet × AppParse)

/-- The loop of `_ctc_app_do_parse` with the strings that it hands to `func`;
`none` is a read past the buffer. -/
def handedLoop : (fuel : Nat) → ParseFile → AppParse → Option (List CStr)
  | 0, _, _ => some []
  | fuel + 1, f, p =>
    match parseFileFgets (fun _ => 0) bufferSize f with
    | none => some []
    | some (s, f) =>
      match readChunk (s.buffer bufferSize) with
      | .skip => handedLoop fuel f p
      | .unterminated => none
      | .line text =>
        match func text p with
        | (.continue, p) => (handedLoop fuel f p).map (text :: ·)
        | _ => some [text]

/-- The strings handed to `func` for a file.  A call moves the position on, so
there are no more calls than bytes. -/
def handed (file : List Byte) (p : AppParse) : Option (List CStr) :=
  handedLoop func file.length ⟨file, 0⟩ p

/-- Of some strings those that `func` sees: up to the one it stops at. -/
def seen : List CStr → AppParse → List CStr
  | [], _ => []
  | text :: rest, p =>
    match func text p with
    | (.continue, p) => text :: seen rest p
    | _ => [text]

/-- The blanks and ends of lines. -/
def blankChar (c : Byte) : Bool :=
  whiteSpace c || c = Byte.carriageReturn || c = Byte.newline

/-- A line of blanks. -/
def blankLine (l : List Byte) : Bool := l.all blankChar

/-- A line as it is to be handed on: trimmed, and only if it is neither a
comment nor blank. -/
def lineText (l : List Byte) : Option CStr :=
  if commentLine l || blankLine l then none else some (stringAtrim l)

/-- The lines of the file are handed on, one string for one line. -/
def HandsLines (file : List Byte) : Prop :=
  ∀ func p, handed func file p =
    some (seen func ((lines Byte.newline file).filterMap lineText) p)

/-- Lines end in the buffer and are handed on. -/
structure ReadsWhole (file : List Byte) : Prop where
  ends : EndsInBuffer bufferSize file
  hands : HandsLines file

/-! ## Calls and chunks -/

theorem buffer_written {l : List Byte} {n : Nat} (h : l.length ≤ n) :
    (written (fun _ => 0) 0 l).buffer n = l ++ List.replicate (n - l.length) 0 := by
  apply List.ext_getElem
  · simp [Memory.buffer, h]
  · intro i hi hi'
    simp only [Memory.buffer, List.getElem_map, List.getElem_range]
    by_cases hil : i < l.length
    · rw [written_lt hil, List.getElem_append_left hil]
    · rw [written_ge (Nat.not_lt.mp hil), List.getElem_append_right (Nat.not_lt.mp hil),
        List.getElem_replicate]

/-- The zeros behind a chunk end it, and are no part of it. -/
theorem readChunk_buffer {l : List Byte} (h : l.length ≤ bufferSize) :
    readChunk ((written (fun _ => 0) 0 l).buffer bufferSize) = readChunk l := by
  rw [buffer_written h]
  have hget : ∀ i, (l ++ List.replicate (bufferSize - l.length) 0).getD i 0 = l.getD i 0 := by
    intro i
    by_cases hi : i < l.length
    · simp [List.getElem?_append_left hi]
    · simp only [List.getD_eq_getElem?_getD, List.getElem?_append_right (Nat.not_lt.mp hi),
        List.getElem?_replicate, List.getElem?_eq_none (Nat.not_lt.mp hi)]
      split <;> rfl
  have hterm : terminated (l ++ List.replicate (bufferSize - l.length) 0) = terminated l := by
    have hpad : (List.replicate (bufferSize - l.length) (0 : Byte)).takeWhile (· ≠ 0) = [] := by
      cases bufferSize - l.length <;> simp [List.replicate_succ]
    have htake : (l ++ List.replicate (bufferSize - l.length) 0).takeWhile (· ≠ 0) =
        l.takeWhile (· ≠ 0) := by
      rw [List.takeWhile_append]
      split
      · next hall =>
        rw [hpad, List.append_nil]
        exact ((List.takeWhile_prefix _).eq_of_length hall).symm
      · rfl
    have hzero : 0 ∈ l ++ List.replicate (bufferSize - l.length) 0 ↔
        l.length < bufferSize ∨ 0 ∈ l := by
      rw [List.mem_append, List.mem_replicate]
      constructor
      · rintro (hm | ⟨hne, _⟩)
        · exact .inr hm
        · exact .inl (by omega)
      · rintro (hlt | hm)
        · exact .inr ⟨by omega, rfl⟩
        · exact .inl hm
    have hlen : ¬(l ++ List.replicate (bufferSize - l.length) (0 : Byte)).length < bufferSize := by
      simp [h]
    simp only [terminated, htake, hzero, hlen, false_or]
  simp only [readChunk, commentLine, hget, hterm]

/-- The loop over the chunks of a file. -/
def handedChunks : List (List Byte) → AppParse → Option (List CStr)
  | [], _ => some []
  | string :: rest, p =>
    match readChunk string with
    | .skip => handedChunks rest p
    | .unterminated => none
    | .line text =>
      match func text p with
      | (.continue, p) => (handedChunks rest p).map (text :: ·)
      | _ => some [text]

variable {func}

theorem handedChunks_cons (c : List Byte) (cs : List (List Byte)) (p : AppParse) :
    handedChunks func (c :: cs) p = match readChunk c with
      | .skip => handedChunks func cs p
      | .unterminated => none
      | .line text =>
        match func text p with
        | (.continue, p) => (handedChunks func cs p).map (text :: ·)
        | _ => some [text] := rfl

theorem handedLoop_eq {fuel : Nat} {mem : List Byte} {pos : Nat} (h : mem.length ≤ pos + fuel)
    (p : AppParse) : handedLoop func fuel ⟨mem, pos⟩ p =
      handedChunks func (chunks Byte.newline bufferSize (mem.drop pos)) p := by
  induction fuel generalizing pos p with
  | zero =>
    have hnil : mem.drop pos = [] := List.drop_eq_nil_of_le h
    rw [hnil]
    rfl
  | succ fuel ih =>
    by_cases hpos : mem.length ≤ pos
    · have hnil : mem.drop pos = [] := List.drop_eq_nil_of_le hpos
      rw [handedLoop, parseFileFgets, if_pos hpos, hnil]
      rfl
    · have hlt : pos < mem.length := Nat.not_le.mp hpos
      have hne : mem.drop pos ≠ [] := by simp [hlt]
      have hone : (fgets Byte.newline bufferSize (mem.drop pos)).1 ≠ [] := by
        cases hd : mem.drop pos with
        | nil => exact absurd hd hne
        | cons c s => exact fgets_ne_nil c s
      have hlen : 0 < (fgets Byte.newline bufferSize (mem.drop pos)).1.length :=
        List.length_pos_iff.mpr hone
      have hrest := @ih (pos + (fgets Byte.newline bufferSize (mem.drop pos)).1.length) (by omega)
      rw [← List.drop_drop, drop_length_fgets] at hrest
      rw [handedLoop, parseFileFgets_eq hlt, chunks_eq (by decide) hne, handedChunks_cons]
      simp only [readChunk_buffer (length_fgets_le _ _), hrest]

theorem handed_eq (file : List Byte) (p : AppParse) :
    handed func file p = handedChunks func (chunks Byte.newline bufferSize file) p :=
  handedLoop_eq (Nat.le_of_eq (Nat.zero_add _).symm) p

/-- The loop applies `func` to the strings that it hands on, one by one. -/
theorem doParseLoop_handed (cs : List (List Byte)) (ret : ParseRet) (p : AppParse) :
    doParseLoop func cs ret p =
      (handedChunks func cs p).map fun ts => ts.foldl (fun r text => func text r.2) (ret, p) := by
  induction cs generalizing ret p with
  | nil => rfl
  | cons c cs ih =>
    rw [doParseLoop_cons, handedChunks_cons]
    cases readChunk c with
    | skip => exact ih ret p
    | unterminated => rfl
    | line text =>
      cases hf : func text p with
      | mk r p' =>
        cases r with
        | «continue» => simp [ih, hf, Function.comp_def]
        | find => simp [hf]
        | notFind => simp [hf]

/-! ## Texts of chunks -/

/-- The string of a chunk that is taken for a line. -/
def chunkText (string : List Byte) : Option CStr :=
  match readChunk string with
  | .line text => some text
  | _ => none

/-- The chunks before the first that has no terminator. -/
def readable (cs : List (List Byte)) : List (List Byte) :=
  cs.takeWhile fun c => readChunk c ≠ .unterminated

/-- What the loop can hand on. -/
def texts (cs : List (List Byte)) : List CStr := (readable cs).filterMap chunkText

/-- `func` stops the loop at one of the strings. -/
def stops (func : CStr → AppParse → ParseRet × AppParse) : List CStr → AppParse → Bool
  | [], _ => false
  | text :: rest, p =>
    match func text p with
    | (.continue, p) => stops func rest p
    | _ => true

/-- A chunk without a terminator does no harm behind the string that ends the
loop. -/
theorem handedChunks_eq (cs : List (List Byte)) (p : AppParse) : handedChunks func cs p =
      if (∃ c ∈ cs, readChunk c = .unterminated) ∧ stops func (texts cs) p = false then none
      else some (seen func (texts cs) p) := by
  induction cs generalizing p with
  | nil => rfl
  | cons c cs ih =>
    rw [handedChunks_cons]
    cases hc : readChunk c with
    | skip =>
      have htexts : texts (c :: cs) = texts cs := by simp [texts, readable, hc, chunkText]
      simp [ih, htexts, hc]
    | unterminated =>
      have htexts : texts (c :: cs) = [] := by simp [texts, readable, hc]
      simp [htexts, stops, hc]
    | line text =>
      have htexts : texts (c :: cs) = text :: texts cs := by
        simp [texts, readable, hc, chunkText]
      cases hf : func text p with
      | mk r p' =>
        cases r with
        | «continue» =>
          simp only [ih, htexts, stops, seen, hf, List.mem_cons, exists_eq_or_imp, hc,
            reduceCtorEq, false_or]
          split <;> rfl
        | find => simp [htexts, stops, seen, hf]
        | notFind => simp [htexts, stops, seen, hf]

/-- The function that reads every line. -/
def readsOn : CStr → AppParse → ParseRet × AppParse := fun _ p => (.continue, p)

theorem readsOn_all (ts : List CStr) (p : AppParse) :
    stops readsOn ts p = false ∧ seen readsOn ts p = ts := by
  induction ts with
  | nil => exact ⟨rfl, rfl⟩
  | cons t ts ih => exact ⟨ih.1, congrArg (t :: ·) ih.2⟩

theorem readable_eq {cs : List (List Byte)} (h : ∀ c ∈ cs, readChunk c ≠ .unterminated) :
    readable cs = cs := by
  simpa [readable] using h

theorem handsLines_iff (file : List Byte) : HandsLines file ↔
      (∀ c ∈ chunks Byte.newline bufferSize file, readChunk c ≠ .unterminated) ∧
      (chunks Byte.newline bufferSize file).filterMap chunkText =
        (lines Byte.newline file).filterMap lineText := by
  constructor
  · intro h
    have hall := h readsOn ⟨[], [], 0, 0, .global, fun _ => 0, fun _ => 0⟩
    obtain ⟨hgo, hseen⟩ := readsOn_all (texts (chunks Byte.newline bufferSize file))
      ⟨[], [], 0, 0, .global, fun _ => 0, fun _ => 0⟩
    obtain ⟨_, hseen'⟩ := readsOn_all ((lines Byte.newline file).filterMap lineText)
      ⟨[], [], 0, 0, .global, fun _ => 0, fun _ => 0⟩
    rw [handed_eq, handedChunks_eq, hseen, hseen'] at hall
    have hno : ∀ c ∈ chunks Byte.newline bufferSize file, readChunk c ≠ .unterminated := by
      intro c hc hun
      rw [if_pos ⟨⟨c, hc, hun⟩, hgo⟩] at hall
      cases hall
    refine ⟨hno, ?_⟩
    rw [if_neg (by rintro ⟨⟨c, hc, hun⟩, _⟩; exact hno c hc hun), texts, readable_eq hno] at hall
    exact Option.some.inj hall
  · rintro ⟨hno, htexts⟩ func p
    rw [handed_eq, handedChunks_eq, texts, readable_eq hno, htexts]
    exact if_neg (by rintro ⟨⟨c, hc, hun⟩, _⟩; exact hno c hc hun)

/-! ## Trimming -/

theorem mem_dropWhile {α : Type} {q : α → Bool} {l : List α} {c : α} (hc : c ∈ l)
    (hq : q c = false) : c ∈ l.dropWhile q := by
  rw [← List.takeWhile_append_dropWhile (p := q) (l := l)] at hc
  rcases List.mem_append.mp hc with hc | hc
  · rw [List.mem_takeWhile_imp hc] at hq
    cases hq
  · exact hc

theorem mem_stringAtrim {l : CStr} {c : Byte} (hc : c ∈ l) (hq : blankChar c = false) :
    c ∈ stringAtrim l := by
  have hw : whiteSpace c = false := by
    simp only [blankChar, Bool.or_eq_false_iff] at hq
    exact hq.1.1
  have hleft : c ∈ (l.dropWhile whiteSpace).reverse := List.mem_reverse.mpr (mem_dropWhile hc hw)
  exact List.mem_reverse.mpr (mem_dropWhile hleft hq)

theorem blankLine_iff (l : List Byte) : blankLine l = true ↔ ∀ c ∈ l, blankChar c = true :=
  List.all_eq_true

theorem stringAtrim_blank {l : CStr} (h : blankLine l = true) : stringAtrim l = [] := by
  rw [blankLine_iff] at h
  have hall : ∀ c ∈ (l.dropWhile whiteSpace).reverse, blankChar c = true := by
    intro c hc
    exact h c ((List.dropWhile_sublist _).subset (List.mem_reverse.mp hc))
  have hnil := List.dropWhile_eq_nil_iff.mpr hall
  exact List.reverse_eq_nil_iff.mpr hnil

theorem stringAtrim_ne_nil {l : CStr} (h : blankLine l = false) : stringAtrim l ≠ [] := by
  intro hnil
  have hall : blankLine l = true := by
    rw [blankLine_iff]
    intro c hc
    by_contra hq
    have hmem := mem_stringAtrim hc (by simpa using hq)
    rw [hnil] at hmem
    cases hmem
  rw [h] at hall
  cases hall

/-- Trimming on the right leaves the first character. -/
theorem head_stringAtrim {l : CStr} (h : stringAtrim l ≠ []) :
    (stringAtrim l).getD 0 0 = (l.dropWhile whiteSpace).getD 0 0 := by
  have hpre : stringAtrim l <+: l.dropWhile whiteSpace := by
    have hsuf := List.dropWhile_suffix (l := (l.dropWhile whiteSpace).reverse) fun c =>
      whiteSpace c || decide (c = Byte.carriageReturn) || decide (c = Byte.newline)
    simpa [stringAtrim] using List.reverse_prefix.mpr hsuf
  obtain ⟨rest, hrest⟩ := hpre
  rw [← hrest]
  cases ht : stringAtrim l with
  | nil => exact absurd ht h
  | cons c t => rfl

/-! ## One line -/

/-- The strings read from one line. -/
def lineTexts (l : List Byte) : List CStr := (lineChunks l).filterMap chunkText

/-- The first character that is no blank is a carriage return. -/
def startsReturn (l : List Byte) : Bool :=
  (l.dropWhile whiteSpace).getD 0 0 = Byte.carriageReturn

/-- The line is handed on as it is.  A comment has to be skipped to its end;
another line needs room for a terminator, must not hold one, and is not taken
for an empty one. -/
def KeptWhole (l : List Byte) : Prop :=
  if commentLine l then (l.length < bufferSize ∨ 0 ∈ l.take bufferSize) ∧ Harmless l
  else l.length < bufferSize ∧ 0 ∉ l ∧ (blankLine l ∨ startsReturn l = false)

section Line

variable {l : List Byte} (hl : IsLines Byte.newline [l])
include hl

/-- Only a blank line begins with its end. -/
theorem head_ne_newline (hb : blankLine l = false) :
    (l.dropWhile whiteSpace).getD 0 0 ≠ Byte.newline := by
  obtain ⟨a, ha, hla⟩ := IsLines.line [] [] hl
  have hsplit : ∀ rest, l = a ++ rest → (∀ c ∈ rest, blankChar c = true) →
      (l.dropWhile whiteSpace).getD 0 0 ≠ Byte.newline := by
    intro rest heq hrest hhead
    cases hd : a.dropWhile whiteSpace with
    | nil =>
      have hall : blankLine l = true := by
        rw [blankLine_iff, heq]
        intro c hc
        rcases List.mem_append.mp hc with hc | hc
        · have hw := List.dropWhile_eq_nil_iff.mp hd c hc
          simp [blankChar, hw]
        · exact hrest c hc
      rw [hb] at hall
      cases hall
    | cons d t =>
      have hdrop : l.dropWhile whiteSpace = d :: t ++ rest := by
        rw [heq, List.dropWhile_append, hd]
        rfl
      rw [hdrop] at hhead
      have hmem : d ∈ a := (List.dropWhile_sublist _).subset (hd ▸ List.mem_cons_self ..)
      exact ha ((show d = Byte.newline from hhead) ▸ hmem)
  rcases hla with rfl | ⟨rfl, _⟩
  · exact hsplit [Byte.newline] rfl (by decide)
  · exact hsplit [] (List.append_nil _).symm (by simp)

/-- The chunk of a short line without a terminator in it. -/
theorem readChunk_short (hc : commentLine l = false) (hlen : l.length < bufferSize) (h0 : 0 ∉ l)
    (hr : blankLine l = true ∨ startsReturn l = false) :
    readChunk l = if blankLine l then .skip else .line (stringAtrim l) := by
  have hne : l ≠ [] := hl.ne_nil (List.mem_singleton_self l)
  have hterm : terminated l = some l := by
    have hself : l.takeWhile (· ≠ 0) = l := by
      rw [List.takeWhile_eq_self_iff]
      intro c hcl
      exact decide_eq_true (fun he => h0 (he ▸ hcl))
    rw [terminated, if_pos (.inl hlen), hself]
  rw [readChunk, hc, hterm]
  cases hb : blankLine l with
  | true =>
    have htrim : emptyLine ((stringAtrim l).getD 0 0) = true := by
      rw [stringAtrim_blank hb]
      rfl
    simp only [htrim, Bool.false_eq_true, if_true, ite_self]
  | false =>
    have hret : startsReturn l = false := hr.resolve_left (by simp [hb])
    have hmem : ∀ {c t}, l.dropWhile whiteSpace = c :: t → c ≠ 0#8 := by
      rintro c t hd rfl
      have hin : 0#8 ∈ l.dropWhile whiteSpace := by simp [hd]
      exact h0 ((List.dropWhile_sublist _).subset hin)
    have hhead : emptyLine ((l.dropWhile whiteSpace).getD 0 0) = false := by
      have hnil : l.dropWhile whiteSpace ≠ [] := by
        intro hnil
        have hall : blankLine l = true := by
          rw [blankLine_iff]
          intro c hcl
          simp [blankChar, List.dropWhile_eq_nil_iff.mp hnil c hcl]
        rw [hb] at hall
        cases hall
      cases hd : l.dropWhile whiteSpace with
      | nil => exact absurd hd hnil
      | cons c t =>
        have hnl := head_ne_newline hl hb
        rw [hd] at hnl
        rw [startsReturn, hd] at hret
        simp only [List.getD_cons_zero, decide_eq_false_iff_not] at hnl hret
        simp [emptyLine, hmem hd, hret, hnl]
    have hfirst : emptyLine (l.getD 0 0) = false := by
      cases l with
      | nil => exact absurd rfl hne
      | cons c t =>
        by_cases hw : whiteSpace c = true
        · simp only [whiteSpace, Bool.or_eq_true, decide_eq_true_eq] at hw
          rcases hw with rfl | rfl
          · rfl
          · rfl
        · have hd : (c :: t).dropWhile whiteSpace = c :: t := by
            rw [List.dropWhile_cons, if_neg hw]
          rwa [hd] at hhead
    have htrim : emptyLine ((stringAtrim l).getD 0 0) = false := by
      rw [head_stringAtrim (stringAtrim_ne_nil hb)]
      exact hhead
    simp only [hfirst, htrim, Bool.false_eq_true, if_false]

/-- A line that is kept is read as one string, or as none. -/
theorem lineTexts_kept (h : KeptWhole l) : (∀ c ∈ lineChunks l, readChunk c ≠ .unterminated) ∧
      lineTexts l = (lineText l).toList := by
  rw [KeptWhole] at h
  split at h
  · next hc =>
    refine ⟨?_, ?_⟩
    · intro c hcl hun
      rw [h.2 c hcl] at hun
      cases hun
    · have hnil : lineTexts l = [] := by
        rw [lineTexts, List.filterMap_eq_nil_iff]
        intro c hcl
        rw [chunkText, h.2 c hcl]
      rw [hnil, lineText, hc]
      rfl
  next hc =>
  have hc : commentLine l = false := by simpa using hc
  have hone : lineChunks l = [l] := chunks_single hl (Nat.le_of_lt h.1)
  have hread := readChunk_short hl hc h.1 h.2.1 h.2.2
  rw [lineTexts, hone, lineText, hc]
  cases hb : blankLine l with
  | true => simp [hread, hb, chunkText]
  | false => simp [hread, hb, chunkText]

/-- The string of a line that the loop could read at all is read, and only a
line that is kept is read as nothing more. -/
theorem kept_of_lineTexts (hends : l.length < bufferSize ∨ 0 ∈ l.take bufferSize)
    (hno : ∀ c ∈ lineChunks l, readChunk c ≠ .unterminated)
    (hclean : ∀ t, lineText l = some t → 0 ∉ t ∧ t.getD 0 0 ≠ Byte.carriageReturn) :
    (lineText l).toList.length ≤ (lineTexts l).length ∧
      ((lineTexts l).length = (lineText l).toList.length → KeptWhole l) := by
  cases hc : commentLine l with
  | true =>
    have hnone : lineText l = none := by simp [lineText, hc]
    rw [hnone, KeptWhole, if_pos hc]
    refine ⟨Nat.zero_le _, ?_⟩
    intro hlen
    refine ⟨hends, ?_⟩
    intro c hcl
    have hnil := List.eq_nil_of_length_eq_zero hlen
    rw [lineTexts, List.filterMap_eq_nil_iff] at hnil
    have hskip := hnil c hcl
    rw [chunkText] at hskip
    cases hr : readChunk c with
    | skip => rfl
    | unterminated => exact absurd hr (hno c hcl)
    | line t =>
      rw [hr] at hskip
      cases hskip
  | false =>
    have h0 : 0 ∉ l := by
      intro hmem
      have hb : blankLine l = false := by
        by_contra hb
        have hall := (blankLine_iff l).mp (by simpa using hb) 0 hmem
        revert hall
        decide
      have htext : lineText l = some (stringAtrim l) := by simp [lineText, hc, hb]
      exact (hclean _ htext).1 (mem_stringAtrim hmem (by decide))
    have hlen : l.length < bufferSize :=
      hends.resolve_right (fun hmem => h0 (List.mem_of_mem_take hmem))
    have hret : blankLine l = true ∨ startsReturn l = false := by
      cases hb : blankLine l with
      | true => exact .inl rfl
      | false =>
        have htext : lineText l = some (stringAtrim l) := by simp [lineText, hc, hb]
        have hhead := (hclean _ htext).2
        rw [head_stringAtrim (stringAtrim_ne_nil hb)] at hhead
        exact .inr (decide_eq_false hhead)
    have hkept : KeptWhole l := by
      rw [KeptWhole, if_neg (by simp [hc])]
      exact ⟨hlen, h0, hret⟩
    rw [(lineTexts_kept hl hkept).2]
    exact ⟨Nat.le_refl _, fun _ => hkept⟩

end Line

/-- A string that is handed on is not empty for the loop. -/
theorem clean_of_chunkText {c : List Byte} {t : CStr} (h : chunkText c = some t) :
    0 ∉ t ∧ t.getD 0 0 ≠ Byte.carriageReturn := by
  rw [chunkText] at h
  split at h
  · next text hr =>
    cases h
    rw [readChunk] at hr
    split at hr
    · cases hr
    · split at hr
      · cases hr
      · cases hterm : terminated c with
        | none =>
          rw [hterm] at hr
          cases hr
        | some s =>
          rw [hterm] at hr
          dsimp only at hr
          split at hr
          · cases hr
          next hempty =>
          cases hr
          have hs : s = c.takeWhile (· ≠ 0) := by
            rw [terminated] at hterm
            split at hterm
            · exact (Option.some.inj hterm).symm
            · cases hterm
          refine ⟨?_, ?_⟩
          · intro hmem
            have hin : 0 ∈ s := by
              have hleft := (List.dropWhile_sublist _).subset (List.mem_reverse.mp hmem)
              exact (List.dropWhile_sublist _).subset (List.mem_reverse.mp hleft)
            rw [hs] at hin
            have hne := List.mem_takeWhile_imp hin
            simp at hne
          · intro hcr
            rw [hcr] at hempty
            exact hempty (by decide)
  · cases h

theorem length_eq_of_flatMap {α β : Type} {f g : α → List β} {ls : List α}
    (h : ls.flatMap f = ls.flatMap g) (hle : ∀ l ∈ ls, (g l).length ≤ (f l).length) :
    ∀ l ∈ ls, (f l).length = (g l).length := by
  have hsum : ∀ ls : List α, (∀ l ∈ ls, (g l).length ≤ (f l).length) →
      (ls.flatMap g).length ≤ (ls.flatMap f).length := by
    intro ls hle
    induction ls with
    | nil => simp
    | cons l ls ih =>
      have hl := hle l (List.mem_cons_self ..)
      have hls := ih (fun x hx => hle x (List.mem_cons_of_mem _ hx))
      simp only [List.flatMap_cons, List.length_append]
      omega
  have hlen := congrArg List.length h
  clear h
  induction ls with
  | nil => simp
  | cons l ls ih =>
    have hl := hle l (List.mem_cons_self ..)
    have hrest := fun x hx => hle x (List.mem_cons_of_mem l hx)
    have hls := hsum ls hrest
    simp only [List.flatMap_cons, List.length_append] at hlen
    intro x hx
    rcases List.mem_cons.mp hx with rfl | hx
    · omega
    · exact ih hrest (by omega) x hx

theorem chunks_file (file : List Byte) :
    chunks Byte.newline bufferSize file = (lines Byte.newline file).flatMap lineChunks := by
  rw [← chunks_lines (isLines_lines file), flatten_lines]

/-- Lines end in a buffer of `n` bytes exactly if each leaves room for a
terminator or has one among its first `n` bytes.  The loop hands on the lines of
a file, whole and each once, exactly if every line is kept: a comment is skipped
to its end, and another line has fewer than 64 bytes, no NUL, and no carriage
return before its text. -/
theorem readsWhole_iff (file : List Byte) : (∀ n, EndsInBuffer n file ↔
      ∀ l ∈ lines Byte.newline file, l.length < n ∨ 0 ∈ l.take n) ∧
    (ReadsWhole file ↔ ∀ l ∈ lines Byte.newline file, KeptWhole l) := by
  refine ⟨fun n => endsInBuffer_iff n file, ?_⟩
  have hsingle : ∀ {l}, l ∈ lines Byte.newline file → IsLines Byte.newline [l] :=
    fun hl => (isLines_lines file).single hl
  have htexts : (chunks Byte.newline bufferSize file).filterMap chunkText =
      (lines Byte.newline file).flatMap lineTexts := by
    rw [chunks_file, List.filterMap_flatMap]
    rfl
  have hlines : (lines Byte.newline file).filterMap lineText =
      (lines Byte.newline file).flatMap fun l => (lineText l).toList :=
    List.filterMap_eq_flatMap_toList _ _
  constructor
  · intro h l hl
    have hends := (endsInBuffer_iff _ _).mp h.ends
    obtain ⟨hno, heq⟩ := (handsLines_iff file).mp h.hands
    have hclean : ∀ l ∈ lines Byte.newline file, ∀ t, lineText l = some t →
        0 ∉ t ∧ t.getD 0 0 ≠ Byte.carriageReturn := by
      intro l hl t ht
      have hmem : t ∈ (lines Byte.newline file).filterMap lineText :=
        List.mem_filterMap.mpr ⟨l, hl, ht⟩
      rw [← heq] at hmem
      obtain ⟨c, _, hc⟩ := List.mem_filterMap.mp hmem
      exact clean_of_chunkText hc
    have hnoline : ∀ l ∈ lines Byte.newline file, ∀ c ∈ lineChunks l,
        readChunk c ≠ .unterminated := by
      intro l hl c hc
      refine hno c ?_
      rw [chunks_file, List.mem_flatMap]
      exact ⟨l, hl, hc⟩
    have hkept := fun l hl => kept_of_lineTexts (hsingle hl) (hends l hl) (hnoline l hl)
      (hclean l hl)
    rw [htexts, hlines] at heq
    exact (hkept l hl).2 (length_eq_of_flatMap heq (fun l hl => (hkept l hl).1) l hl)
  · intro h
    refine ⟨(endsInBuffer_iff _ _).mpr ?_, (handsLines_iff file).mpr ⟨?_, ?_⟩⟩
    · intro l hl
      have hk := h l hl
      rw [KeptWhole] at hk
      split at hk
      · exact hk.1
      · exact .inl hk.1
    · intro c hc
      rw [chunks_file, List.mem_flatMap] at hc
      obtain ⟨l, hl, hc⟩ := hc
      exact (lineTexts_kept (hsingle hl) (h l hl)).1 c hc
    · rw [htexts, hlines]
      exact List.flatMap_congr fun l hl => (lineTexts_kept (hsingle hl) (h l hl)).2

/-- In a text without NUL and carriage return it is the length that counts. -/
theorem keptWhole_text {l : List Byte} (hl : IsLines Byte.newline [l]) (h0 : 0 ∉ l)
    (hcr : Byte.carriageReturn ∉ l) : KeptWhole l ↔ l.length < bufferSize := by
  have hret : startsReturn l = false := by
    cases hd : l.dropWhile whiteSpace with
    | nil => simp [startsReturn, hd, Byte.carriageReturn]
    | cons c t =>
      have hmem : c ∈ l := (List.dropWhile_sublist _).subset (hd ▸ List.mem_cons_self ..)
      have hne : c ≠ Byte.carriageReturn := fun he => hcr (he ▸ hmem)
      simp [startsReturn, hd, hne]
  have htake : 0 ∉ l.take bufferSize := fun hmem => h0 (List.mem_of_mem_take hmem)
  rw [KeptWhole]
  split
  · next hc =>
    constructor
    · intro h
      exact h.1.resolve_right htake
    · intro hlen
      refine ⟨.inl hlen, ?_⟩
      intro c hcl
      have hone : lineChunks l = [l] := chunks_single hl (Nat.le_of_lt hlen)
      rw [hone, List.mem_singleton] at hcl
      rw [hcl, readChunk, if_pos hc]
  · exact ⟨fun h => h.1, fun hlen => ⟨hlen, h0, .inr hret⟩⟩

/-! ## A line of 64 bytes -/

/-- A line that fills the buffer leaves no terminator. -/
theorem readsWhole_not_always : ¬ ∀ file, ReadsWhole file := by
  intro h
  have hends := (endsInBuffer_iff bufferSize (List.replicate 64 0x61)).mp (h _).ends
    (List.replicate 64 0x61) (by decide)
  revert hends
  decide

end CtcSai
