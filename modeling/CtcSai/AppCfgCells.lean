/-
# `AppCfgCells` — the cells that a parse assigns

`ctc_app_parse_file` gets an array and the number of its entries, and returns
how many it assigned.  Each of the three parse functions counts in its own
way: the one for a global field never looks at the number, the one for a
table counts a line without a value, and the one for the letter-number mix
takes the place of an entry from the text.  What a call assigns is a list of
writes that depends on the text only; the count is right exactly if these
writes are to different cells of the array, one for each line counted.
-/
import CtcSai.AppCfgLines
import CtcSai.Lib.WriteLog
import Mathlib.Data.Set.Card

namespace CtcSai

open LineReader WriteLogs

/-! ## What should hold -/

/-- The call on an array of other contents. -/
def ParseRequest.on (r : ParseRequest) (value : Nat → BitVec 32) (valueByte : Nat → BitVec 8) :
    ParseRequest :=
  { r with value := value, valueByte := valueByte }

/-- The call assigns entry `i`: what it holds afterwards does not depend on
what the array held. -/
def Assigned (r : ParseRequest) (file : List Byte) (i : Nat) : Prop :=
  ∃ v, ∀ value valueByte, ∃ res, parseFile (r.on value valueByte) file = some res ∧
    res.value i = v

/-- The same of an entry of 8 bits. -/
def AssignedByte (r : ParseRequest) (file : List Byte) (i : Nat) : Prop :=
  ∃ v, ∀ value valueByte, ∃ res, parseFile (r.on value valueByte) file = some res ∧
    res.valueByte i = v

/-- The call returns, leaves alone what is behind the array, and returns the
number of entries that it assigned. -/
def InArray (r : ParseRequest) (file : List Byte) : Prop :=
  ∀ value valueByte, ∃ res, parseFile (r.on value valueByte) file = some res ∧
    (∀ i, r.maxEntryNum.toNat ≤ i → res.value i = value i ∧ res.valueByte i = valueByte i) ∧
    res.entryNum ≤ r.maxEntryNum ∧
    res.entryNum.toNat = {i | Assigned r file i}.ncard + {i | AssignedByte r file i}.ncard

/-! ## The condition -/

/-- The lines of the table that begin with the sub-field, `room` of them at
most, and whether the reading ends with them: at the end of the table, or at
one line too many. -/
def tableRead (field sub : CStr) : ParseFlag → (room : Nat) → List CStr → List CStr × Bool
  | _, _, [] => ([], false)
  | .global, room, t :: ts =>
    tableRead field sub (if startsWith t tableOpen then .tableEnter else .global) room ts
  | .tableEnter, room, t :: ts =>
    tableRead field sub (if startsWith t field then .table else .tableLeave) room ts
  | .tableLeave, room, t :: ts =>
    tableRead field sub (if startsWith t tableClose then .global else .tableLeave) room ts
  | .table, room, t :: ts =>
    if startsWith t tableClose then ([], true)
    else if startsWith t sub then
      match room with
      | 0 => ([], true)
      | room + 1 =>
        let rest := tableRead field sub .table room ts
        (t :: rest.1, rest.2)
    else tableRead field sub .table room ts
  | .mix, room, _ :: ts => tableRead field sub .mix room ts

/-- The place and the value of a line of the mix; a line without a value stores
the number of its field. -/
def mixCell (field t : CStr) : Option (Nat × BitVec 8) :=
  let val := (getFieldInterage t field).getD 0
  if startsWith t (Byte.leftBracket :: field ++ printDec val ++ [Byte.rightBracket]) then
    some (val.toNat, ((getInterage t).getD val).setWidth 8)
  else none

/-- The lines of the mix that are counted. -/
def mixCells (r : ParseRequest) (ts : List CStr) : List (Nat × BitVec 8) :=
  (ts.filterMap (mixCell r.field)).take r.maxEntryNum.toNat

/-- No chunk of the file lacks a terminator. -/
def Terminates (file : List Byte) : Prop :=
  ∀ c ∈ chunks Byte.newline bufferSize file, readChunk c ≠ .unterminated

/-- The lines that are counted assign one entry each, within the array. -/
def CellsFit (r : ParseRequest) (file : List Byte) : Prop :=
  let ts := texts (chunks Byte.newline bufferSize file)
  match r.fieldSub with
  | none =>
    match ts.find? (startsWith · (bracketed r.field)) with
    | some t => 0 < r.maxEntryNum ∧ (getInterage t).isSome
    | none => Terminates file
  | some sub =>
    if startsWith letterNumberMix sub then
      Terminates file ∧ ((mixCells r ts).map Prod.fst).Nodup ∧
        ∀ w ∈ mixCells r ts, w.1 < r.maxEntryNum.toNat
    else
      let rd := tableRead (bracketed r.field) (bracketed sub) .global r.maxEntryNum.toNat ts
      (rd.2 ∨ Terminates file) ∧ ∀ t ∈ rd.1, (getInterage t).isSome

/-! ## A run over strings -/

/-- The parse function applied to strings up to the one it stops at. -/
def runTexts (func : CStr → AppParse → ParseRet × AppParse) :
    List CStr → ParseRet → AppParse → ParseRet × AppParse
  | [], ret, p => (ret, p)
  | t :: ts, _, p =>
    match func t p with
    | (.continue, p) => runTexts func ts .continue p
    | r => r

theorem foldl_seen (func : CStr → AppParse → ParseRet × AppParse) (ts : List CStr) (ret : ParseRet)
    (p : AppParse) :
    (seen func ts p).foldl (fun r t => func t r.2) (ret, p) = runTexts func ts ret p := by
  induction ts generalizing ret p with
  | nil => rfl
  | cons t ts ih =>
    cases hf : func t p with
    | mk r p' =>
      cases r with
      | «continue» => simp [seen, runTexts, hf, ih]
      | find => simp [seen, runTexts, hf]
      | notFind => simp [seen, runTexts, hf]

/-- A call returns unless it comes to a chunk without a terminator. -/
theorem doParse_eq (func : CStr → AppParse → ParseRet × AppParse) (p : AppParse)
    (file : List Byte) (ts : List CStr)
    (hts : texts (chunks Byte.newline bufferSize file) = ts) :
    (stops func ts p = true ∨ Terminates file → ∃ code, doParse func p file =
      some ⟨code, (runTexts func ts .notFind p).2.curEntryNum,
        (runTexts func ts .notFind p).2.value, (runTexts func ts .notFind p).2.valueByte⟩) ∧
    (¬(stops func ts p = true ∨ Terminates file) → doParse func p file = none) := by
  have hun : (∃ c ∈ chunks Byte.newline bufferSize file, readChunk c = .unterminated) ↔
      ¬Terminates file := by
    simp [Terminates]
  rw [doParse, doParseLoop_handed, handedChunks_eq, hts]
  constructor
  · intro h
    rw [if_neg (by rintro ⟨hn, hs⟩; exact h.elim (by simp [hs]) (hun.mp hn))]
    rw [Option.map_some, foldl_seen]
    exact ⟨_, rfl⟩
  · intro h
    rw [not_or] at h
    rw [if_pos ⟨hun.mpr h.2, by simpa using h.1⟩]
    rfl

/-! ## The three modes -/

/-- The writes of lines that are counted from `k` on. -/
def lineWrites (k : Nat) : List CStr → List (Nat × BitVec 32)
  | [] => []
  | t :: ts => (getInterage t).toList.map (k, ·) ++ lineWrites (k + 1) ts

theorem record_eq (p : AppParse) (t : CStr) (i : Nat) : p.record t i = { p with
      value := replay p.value ((getInterage t).toList.map (i, ·))
      curEntryNum := p.curEntryNum + 1 } := by
  rw [AppParse.record]
  cases getInterage t with
  | none => rfl
  | some v => rfl

/-- The global mode takes the first line of the field. -/
theorem runTexts_global (ts : List CStr) (ret : ParseRet) (p : AppParse)
    (hp : p.parseFlag = .global) :
    stops doCfgFile ts p = (ts.find? (startsWith · p.field)).isSome ∧
      (runTexts doCfgFile ts ret p).2 = match ts.find? (startsWith · p.field) with
        | some t => p.record t 0
        | none => p := by
  induction ts generalizing ret with
  | nil => exact ⟨rfl, rfl⟩
  | cons t ts ih =>
    cases ht : startsWith t p.field with
    | true => simp [stops, runTexts, doCfgFile, hp, ht]
    | false => simpa [stops, runTexts, doCfgFile, ht] using ih .continue

theorem count_succ (c : BitVec 8) (n : Nat) :
    c + 1 + BitVec.ofNat 8 n = c + BitVec.ofNat 8 (n + 1) := by
  rw [BitVec.add_assoc, BitVec.ofNat_add, BitVec.add_comm 1]
  rfl

/-- The table mode counts the lines that it reads. -/
theorem runTexts_table (ts : List CStr) (ret : ParseRet) (p : AppParse)
    (hle : p.curEntryNum.toNat ≤ p.maxEntryNum.toNat) :
    let rd := tableRead p.field p.fieldSub p.parseFlag
      (p.maxEntryNum.toNat - p.curEntryNum.toNat) ts
    stops doTableCfgFile ts p = rd.2 ∧ ∃ flag, (runTexts doTableCfgFile ts ret p).2 = { p with
        parseFlag := flag
        value := replay p.value (lineWrites p.curEntryNum.toNat rd.1)
        curEntryNum := p.curEntryNum + BitVec.ofNat 8 rd.1.length } := by
  induction ts generalizing ret p with
  | nil =>
    cases hf : p.parseFlag <;> exact ⟨rfl, p.parseFlag, by simp [runTexts, tableRead, lineWrites]⟩
  | cons t ts ih =>
    -- a line that only changes the flag, or nothing
    have hgo : ∀ f, doTableCfgFile t p = (.continue, { p with parseFlag := f }) →
        (∀ room, tableRead p.field p.fieldSub p.parseFlag room (t :: ts) =
          tableRead p.field p.fieldSub f room ts) →
        (let rd := tableRead p.field p.fieldSub p.parseFlag
          (p.maxEntryNum.toNat - p.curEntryNum.toNat) (t :: ts)
        stops doTableCfgFile (t :: ts) p = rd.2 ∧
          ∃ flag, (runTexts doTableCfgFile (t :: ts) ret p).2 = { p with
              parseFlag := flag
              value := replay p.value (lineWrites p.curEntryNum.toNat rd.1)
              curEntryNum := p.curEntryNum + BitVec.ofNat 8 rd.1.length }) := by
      intro f hstep hread
      rw [hread, stops, runTexts, hstep]
      exact ih .continue { p with parseFlag := f } hle
    cases hf : p.parseFlag with
    | tableLeave =>
      rw [hf] at hgo
      refine hgo (if startsWith t tableClose then .global else .tableLeave) ?_ (fun _ => rfl)
      rw [doTableCfgFile, hf]
      cases startsWith t tableClose <;> simp [← hf]
    | tableEnter =>
      rw [hf] at hgo
      refine hgo (if startsWith t p.field then .table else .tableLeave) ?_ (fun _ => rfl)
      rw [doTableCfgFile, hf]
    | global =>
      rw [hf] at hgo
      refine hgo (if startsWith t tableOpen then .tableEnter else .global) ?_ (fun _ => rfl)
      rw [doTableCfgFile, hf]
      cases startsWith t tableOpen <;> simp [← hf]
    | mix =>
      rw [hf] at hgo
      refine hgo .mix ?_ (fun _ => rfl)
      rw [doTableCfgFile, hf]
      simp [← hf]
    | table =>
      cases hc : startsWith t tableClose with
      | true =>
        refine ⟨by simp [stops, doTableCfgFile, hf, hc, tableRead], .global, ?_⟩
        simp [runTexts, doTableCfgFile, hf, hc, tableRead, lineWrites]
      | false =>
        cases hs : startsWith t p.fieldSub with
        | false =>
          rw [hf] at hgo
          refine hgo .table ?_ (fun _ => by simp [tableRead, hc, hs])
          have hstep : doTableCfgFile t p = (.continue, p) := by
            simp [doTableCfgFile, hf, hc, hs]
          rw [hstep, ← hf]
        | true =>
          by_cases hfull : p.curEntryNum ≥ p.maxEntryNum
          · have hroom : p.maxEntryNum.toNat - p.curEntryNum.toNat = 0 := by
              have hle' := BitVec.le_def.mp hfull
              omega
            have hstep : doTableCfgFile t p = (.notFind, p) := by
              simp [doTableCfgFile, hf, hc, hs, hfull]
            refine ⟨by simp [stops, hstep, tableRead, hc, hs, hroom], p.parseFlag, ?_⟩
            simp [runTexts, hstep, tableRead, hc, hs, hroom, lineWrites]
          · have hlt : p.curEntryNum.toNat < p.maxEntryNum.toNat := by
              have hle' := mt BitVec.le_def.mpr hfull
              omega
            have hnext : (p.curEntryNum + 1).toNat = p.curEntryNum.toNat + 1 := by
              bv_omega
            have hroom : p.maxEntryNum.toNat - p.curEntryNum.toNat =
                p.maxEntryNum.toNat - (p.curEntryNum + 1).toNat + 1 := by omega
            have hstep : doTableCfgFile t p = (.continue, p.record t p.curEntryNum.toNat) := by
              simp [doTableCfgFile, hf, hc, hs, hfull]
            obtain ⟨hstop, flag, hrun⟩ := ih .continue (p.record t p.curEntryNum.toNat)
              (by rw [record_eq]; dsimp only; omega)
            rw [record_eq] at hstop hrun
            rw [hf] at hstop hrun
            have hread : tableRead p.field p.fieldSub .table
                (p.maxEntryNum.toNat - p.curEntryNum.toNat) (t :: ts) =
                (t :: (tableRead p.field p.fieldSub .table
                    (p.maxEntryNum.toNat - (p.curEntryNum + 1).toNat) ts).1,
                  (tableRead p.field p.fieldSub .table
                    (p.maxEntryNum.toNat - (p.curEntryNum + 1).toNat) ts).2) := by
              simp [tableRead, hc, hs, hroom]
            rw [hread]
            refine ⟨?_, flag, ?_⟩
            · rw [stops, hstep]
              rw [record_eq, hf]
              exact hstop
            · rw [runTexts, hstep]
              rw [record_eq, hf, hrun, hnext, lineWrites, replay_append, List.length_cons,
                count_succ]

/-- The mix reads to the end, and counts while there is room. -/
theorem runTexts_mix (ts : List CStr) (ret : ParseRet) (p : AppParse) (hp : p.parseFlag = .mix)
    (hle : p.curEntryNum.toNat ≤ p.maxEntryNum.toNat) :
    let ws := (ts.filterMap (mixCell p.field)).take (p.maxEntryNum.toNat - p.curEntryNum.toNat)
    stops doMixCfgFile ts p = false ∧ (runTexts doMixCfgFile ts ret p).2 = { p with
        valueByte := replay p.valueByte ws
        curEntryNum := p.curEntryNum + BitVec.ofNat 8 ws.length } := by
  induction ts generalizing ret p with
  | nil => simp [stops, runTexts]
  | cons t ts ih =>
    by_cases hroom : p.curEntryNum < p.maxEntryNum
    · have hlt := BitVec.lt_def.mp hroom
      cases hcell : mixCell p.field t with
      | none =>
        have hstep : doMixCfgFile t p = (.continue, p) := by
          rw [mixCell] at hcell
          split at hcell
          · cases hcell
          next hno =>
          rw [doMixCfgFile, if_pos ⟨hp, hroom⟩]
          exact if_neg hno
        simpa [stops, runTexts, hstep, hcell] using ih .continue p hp hle
      | some w =>
        have hstep : doMixCfgFile t p = (.continue, { p with
            valueByte := Function.update p.valueByte w.1 w.2
            curEntryNum := p.curEntryNum + 1 }) := by
          rw [mixCell] at hcell
          split at hcell
          · next hyes =>
            cases hcell
            rw [doMixCfgFile, if_pos ⟨hp, hroom⟩]
            exact if_pos hyes
          · cases hcell
        have hnext : (p.curEntryNum + 1).toNat = p.curEntryNum.toNat + 1 := by
          bv_omega
        have hleft : p.maxEntryNum.toNat - p.curEntryNum.toNat =
            p.maxEntryNum.toNat - (p.curEntryNum + 1).toNat + 1 := by omega
        obtain ⟨hstop, hrun⟩ := ih .continue { p with
            valueByte := Function.update p.valueByte w.1 w.2
            curEntryNum := p.curEntryNum + 1 } hp (by dsimp only; omega)
        rw [List.filterMap_cons_some hcell, hleft, List.take_succ_cons]
        refine ⟨?_, ?_⟩
        · rw [stops, hstep]
          exact hstop
        · rw [runTexts, hstep]
          rw [hrun, replay_cons, List.length_cons, count_succ]
    · have hstep : doMixCfgFile t p = (.continue, p) := by
        rw [doMixCfgFile, if_neg (fun h => hroom h.2)]
      have hfull : p.maxEntryNum.toNat - p.curEntryNum.toNat = 0 := by
        have hge := mt BitVec.lt_def.mpr hroom
        omega
      simpa [stops, runTexts, hstep, hfull] using ih .continue p hp hle

/-! ## The entries of the writes -/

/-- Whatever the array holds, the call returns `n` and makes the writes. -/
def MakesWrites (r : ParseRequest) (file : List Byte) (n : BitVec 8)
    (ws : List (Nat × BitVec 32)) (wsByte : List (Nat × BitVec 8)) : Prop :=
  ∀ value valueByte, ∃ code, parseFile (r.on value valueByte) file =
    some ⟨code, n, replay value ws, replay valueByte wsByte⟩

section Entries

variable {r : ParseRequest} {file : List Byte} {n : BitVec 8} {ws : List (Nat × BitVec 32)}
  {wsByte : List (Nat × BitVec 8)}

theorem MakesWrites.assigned_iff (h : MakesWrites r file n ws wsByte) (i : Nat) :
    Assigned r file i ↔ i ∈ keys ws := by
  constructor
  · rintro ⟨v, hv⟩
    by_contra hi
    obtain ⟨res, hres, hri⟩ := hv (fun _ => v + 1) (fun _ => 0)
    obtain ⟨code, hcode⟩ := h (fun _ => v + 1) (fun _ => 0)
    rw [hcode] at hres
    cases hres
    dsimp only at hri
    rw [replay_of_not_mem hi] at hri
    bv_omega
  · intro hi
    refine ⟨replay (fun _ => 0) ws i, ?_⟩
    intro value valueByte
    obtain ⟨code, hcode⟩ := h value valueByte
    exact ⟨_, hcode, replay_congr hi⟩

theorem MakesWrites.assignedByte_iff (h : MakesWrites r file n ws wsByte) (i : Nat) :
    AssignedByte r file i ↔ i ∈ keys wsByte := by
  constructor
  · rintro ⟨v, hv⟩
    by_contra hi
    obtain ⟨res, hres, hri⟩ := hv (fun _ => 0) (fun _ => v + 1)
    obtain ⟨code, hcode⟩ := h (fun _ => 0) (fun _ => v + 1)
    rw [hcode] at hres
    cases hres
    dsimp only at hri
    rw [replay_of_not_mem hi] at hri
    bv_omega
  · intro hi
    refine ⟨replay (fun _ => 0) wsByte i, ?_⟩
    intro value valueByte
    obtain ⟨code, hcode⟩ := h value valueByte
    exact ⟨_, hcode, replay_congr hi⟩

theorem MakesWrites.within_iff (h : MakesWrites r file n ws wsByte) :
    InArray r file ↔ (∀ i ∈ keys ws, i < r.maxEntryNum.toNat) ∧
      (∀ i ∈ keys wsByte, i < r.maxEntryNum.toNat) ∧ n ≤ r.maxEntryNum ∧
      n.toNat = (keys ws).toFinset.card + (keys wsByte).toFinset.card := by
  have hset : {i | Assigned r file i} = ((keys ws).toFinset : Set Nat) := by
    ext i
    simp [h.assigned_iff]
  have hsetByte : {i | AssignedByte r file i} = ((keys wsByte).toFinset : Set Nat) := by
    ext i
    simp [h.assignedByte_iff]
  rw [InArray, hset, hsetByte, Set.ncard_coe_finset, Set.ncard_coe_finset]
  constructor
  · intro hin
    obtain ⟨res, hres, _, hle, hcard⟩ := hin (fun _ => 0) (fun _ => 0)
    obtain ⟨code, hcode⟩ := h (fun _ => 0) (fun _ => 0)
    rw [hcode] at hres
    cases hres
    refine ⟨?_, ?_, hle, hcard⟩
    · intro i hi
      by_contra hge
      obtain ⟨v, hv⟩ := (h.assigned_iff i).mpr hi
      obtain ⟨res, hres, hout, _⟩ := hin (fun _ => v + 1) (fun _ => 0)
      obtain ⟨res', hres', hri⟩ := hv (fun _ => v + 1) (fun _ => 0)
      rw [hres] at hres'
      cases hres'
      rw [(hout i (Nat.not_lt.mp hge)).1] at hri
      bv_omega
    · intro i hi
      by_contra hge
      obtain ⟨v, hv⟩ := (h.assignedByte_iff i).mpr hi
      obtain ⟨res, hres, hout, _⟩ := hin (fun _ => 0) (fun _ => v + 1)
      obtain ⟨res', hres', hri⟩ := hv (fun _ => 0) (fun _ => v + 1)
      rw [hres] at hres'
      cases hres'
      rw [(hout i (Nat.not_lt.mp hge)).2] at hri
      bv_omega
  · rintro ⟨hws, hwsByte, hle, hcard⟩ value valueByte
    obtain ⟨code, hcode⟩ := h value valueByte
    refine ⟨_, hcode, ?_, hle, hcard⟩
    intro i hi
    exact ⟨replay_of_not_mem fun hm => Nat.not_lt.mpr hi (hws i hm),
      replay_of_not_mem fun hm => Nat.not_lt.mpr hi (hwsByte i hm)⟩

end Entries

/-! ## The writes of a table -/

theorem mem_keys_lineWrites {k i : Nat} {ts : List CStr} (h : i ∈ keys (lineWrites k ts)) :
    k ≤ i ∧ i < k + ts.length := by
  induction ts generalizing k with
  | nil => cases h
  | cons t ts ih =>
    rw [lineWrites, mem_keys_append] at h
    rcases h with h | h
    · have hi : i = k := by
        cases ht : getInterage t with
        | none => simp [ht] at h
        | some v => simpa [ht] using h
      subst hi
      simp
    · obtain ⟨hge, hlt⟩ := ih h
      simp only [List.length_cons]
      omega

theorem card_keys_lineWrites (k : Nat) (ts : List CStr) :
    (keys (lineWrites k ts)).toFinset.card = ts.countP fun t => (getInterage t).isSome := by
  induction ts generalizing k with
  | nil => rfl
  | cons t ts ih =>
    cases ht : getInterage t with
    | none => simp [lineWrites, ht, ih]
    | some v =>
      have hk : k ∉ (keys (lineWrites (k + 1) ts)).toFinset := by
        intro hm
        have hge := (mem_keys_lineWrites (List.mem_toFinset.mp hm)).1
        omega
      have hkeys : (keys (lineWrites k (t :: ts))).toFinset =
          insert k (keys (lineWrites (k + 1) ts)).toFinset := by
        ext i
        simp [lineWrites, ht]
      rw [hkeys, Finset.card_insert_of_notMem hk, ih]
      simp [ht]

theorem length_tableRead (field sub : CStr) (flag : ParseFlag) (room : Nat) (ts : List CStr) :
    (tableRead field sub flag room ts).1.length ≤ room := by
  induction ts generalizing flag room with
  | nil => simp [tableRead]
  | cons t ts ih =>
    cases flag with
    | table =>
      simp only [tableRead]
      split
      · simp
      · split
        · cases room with
          | zero => simp
          | succ room => simpa using ih .table room
        · exact ih .table room
    | tableLeave => exact ih _ room
    | tableEnter => exact ih _ room
    | global => exact ih _ room
    | mix => exact ih _ room

/-! ## The three modes of a call -/

section Modes

variable {r : ParseRequest} {file : List Byte} {ts : List CStr}

/-- Where a run over the texts, whatever the array holds, counts `n` and makes the writes, the call
returns if the run stops or comes to the end of the file. -/
theorem inArray_of_run {func : CStr → AppParse → ParseRet × AppParse}
    {start : (Nat → BitVec 32) → (Nat → BitVec 8) → AppParse} (stop : Bool) (n : BitVec 8)
    (ws : List (Nat × BitVec 32)) (wsByte : List (Nat × BitVec 8))
    (hts : texts (chunks Byte.newline bufferSize file) = ts)
    (hcall : ∀ value valueByte,
      parseFile (r.on value valueByte) file = doParse func (start value valueByte) file)
    (hrun : ∀ value valueByte, stops func ts (start value valueByte) = stop ∧
      (runTexts func ts .notFind (start value valueByte)).2.curEntryNum = n ∧
      (runTexts func ts .notFind (start value valueByte)).2.value = replay value ws ∧
      (runTexts func ts .notFind (start value valueByte)).2.valueByte = replay valueByte wsByte) :
    InArray r file ↔ (stop = true ∨ Terminates file) ∧ (∀ i ∈ keys ws, i < r.maxEntryNum.toNat) ∧
      (∀ i ∈ keys wsByte, i < r.maxEntryNum.toNat) ∧ n ≤ r.maxEntryNum ∧
      n.toNat = (keys ws).toFinset.card + (keys wsByte).toFinset.card := by
  have hparse := fun value valueByte => doParse_eq func (start value valueByte) file ts hts
  by_cases hgo : stop = true ∨ Terminates file
  · have hw : MakesWrites r file n ws wsByte := by
      intro value valueByte
      obtain ⟨hstop, hn, hv, hb⟩ := hrun value valueByte
      obtain ⟨code, hcode⟩ := (hparse value valueByte).1 (by rwa [hstop])
      exact ⟨code, by rw [hcall, hcode, hn, hv, hb]⟩
    rw [hw.within_iff, and_iff_right hgo]
  · refine iff_of_false ?_ (fun h => hgo h.1)
    intro hin
    obtain ⟨res, hres, _⟩ := hin (fun _ => 0) (fun _ => 0)
    rw [hcall, (hparse _ _).2 (by rwa [(hrun _ _).1])] at hres
    cases hres

theorem inArray_global (hts : texts (chunks Byte.newline bufferSize file) = ts)
    (hsub : r.fieldSub = none) :
    InArray r file ↔ match ts.find? (startsWith · (bracketed r.field)) with
      | some t => 0 < r.maxEntryNum ∧ (getInterage t).isSome
      | none => Terminates file := by
  have hcall : ∀ value valueByte, parseFile (r.on value valueByte) file = doParse doCfgFile
      ⟨bracketed r.field, [], 0, r.maxEntryNum, .global, value, valueByte⟩ file := by
    intro value valueByte
    simp only [parseFile, ParseRequest.on, hsub]
  have hrun := fun value valueByte => runTexts_global ts .notFind
    ⟨bracketed r.field, [], 0, r.maxEntryNum, .global, value, valueByte⟩ rfl
  cases hfind : ts.find? (startsWith · (bracketed r.field)) with
  | some t =>
    simp only [hfind, record_eq] at hrun
    have hall := inArray_of_run true 1 ((getInterage t).toList.map (0, ·)) [] hts hcall fun _ _ => by
      rw [(hrun _ _).2]
      exact ⟨(hrun _ _).1, rfl, rfl, rfl⟩
    rw [hall]
    cases ht : getInterage t with
    | none => simp [keys, ht]
    | some v =>
      have hle : 1#8 ≤ r.maxEntryNum ↔ 0 < r.maxEntryNum.toNat := by bv_omega
      simp [keys, ht, hle, BitVec.lt_def]
  | none =>
    simp only [hfind] at hrun
    have hall := inArray_of_run false 0 [] [] hts hcall fun _ _ => by
      rw [(hrun _ _).2]
      exact ⟨(hrun _ _).1, rfl, rfl, rfl⟩
    rw [hall]
    simp [keys, BitVec.le_def]

theorem inArray_table (hts : texts (chunks Byte.newline bufferSize file) = ts) {sub : CStr}
    (hsub : r.fieldSub = some sub) (hmix : startsWith letterNumberMix sub = false) :
    let rd := tableRead (bracketed r.field) (bracketed sub) .global r.maxEntryNum.toNat ts
    InArray r file ↔ (rd.2 ∨ Terminates file) ∧ ∀ t ∈ rd.1, (getInterage t).isSome := by
  intro rd
  have hcall : ∀ value valueByte, parseFile (r.on value valueByte) file = doParse doTableCfgFile
      ⟨bracketed r.field, bracketed sub, 0, r.maxEntryNum, .global, value, valueByte⟩ file := by
    intro value valueByte
    simp only [parseFile, ParseRequest.on, hsub, hmix, Bool.false_eq_true, if_false]
  have hlen : rd.1.length ≤ r.maxEntryNum.toNat := length_tableRead _ _ _ _ _
  have hcount : (BitVec.ofNat 8 rd.1.length).toNat = rd.1.length := by
    exact Nat.mod_eq_of_lt (by omega)
  have hall := inArray_of_run rd.2 (BitVec.ofNat 8 rd.1.length) (lineWrites 0 rd.1) [] hts hcall
    fun value valueByte => by
      obtain ⟨hstop, flag, hend⟩ := runTexts_table ts .notFind
        ⟨bracketed r.field, bracketed sub, 0, r.maxEntryNum, .global, value, valueByte⟩
        (Nat.zero_le _)
      rw [hend]
      exact ⟨hstop, BitVec.zero_add _, rfl, rfl⟩
  rw [hall, card_keys_lineWrites, hcount]
  refine and_congr_right fun _ => ?_
  constructor
  · rintro ⟨_, _, _, hcard⟩
    exact List.countP_eq_length.mp (by simpa using hcard.symm)
  · intro hvals
    refine ⟨?_, ?_, ?_, ?_⟩
    · intro i hi
      have hlt := (mem_keys_lineWrites hi).2
      omega
    · intro i hi
      cases hi
    · rw [BitVec.le_def, hcount]
      exact hlen
    · simpa using (List.countP_eq_length.mpr hvals).symm

theorem inArray_mix (hts : texts (chunks Byte.newline bufferSize file) = ts) {sub : CStr}
    (hsub : r.fieldSub = some sub) (hmix : startsWith letterNumberMix sub = true) :
    InArray r file ↔ Terminates file ∧ ((mixCells r ts).map Prod.fst).Nodup ∧
      ∀ w ∈ mixCells r ts, w.1 < r.maxEntryNum.toNat := by
  have hcall : ∀ value valueByte, parseFile (r.on value valueByte) file = doParse doMixCfgFile
      ⟨r.field, [], 0, r.maxEntryNum, .mix, value, valueByte⟩ file := by
    intro value valueByte
    simp only [parseFile, ParseRequest.on, hsub, hmix, if_true]
  have hlen : (mixCells r ts).length ≤ r.maxEntryNum.toNat := by
    rw [mixCells, List.length_take]
    exact Nat.min_le_left _ _
  have hcount : (BitVec.ofNat 8 (mixCells r ts).length).toNat = (mixCells r ts).length := by
    exact Nat.mod_eq_of_lt (by omega)
  have hall := inArray_of_run false (BitVec.ofNat 8 (mixCells r ts).length) [] (mixCells r ts) hts
    hcall fun value valueByte => by
      obtain ⟨hstop, hend⟩ := runTexts_mix ts .notFind
        ⟨r.field, [], 0, r.maxEntryNum, .mix, value, valueByte⟩ rfl (Nat.zero_le _)
      rw [hend]
      exact ⟨hstop, BitVec.zero_add _, rfl, rfl⟩
  have hle : BitVec.ofNat 8 (mixCells r ts).length ≤ r.maxEntryNum := by
    rw [BitVec.le_def, hcount]
    exact hlen
  have hin : (∀ i ∈ keys (mixCells r ts), i < r.maxEntryNum.toNat) ↔
      ∀ w ∈ mixCells r ts, w.1 < r.maxEntryNum.toNat := List.forall_mem_map
  have hcard : (mixCells r ts).length = (keys ([] : List (Nat × BitVec 32))).toFinset.card +
      (keys (mixCells r ts)).toFinset.card ↔ (keys (mixCells r ts)).Nodup := by
    have hlist := @Multiset.toFinset_card_eq_card_iff_nodup Nat _ ↑(keys (mixCells r ts))
    simpa [keys, eq_comm] using hlist
  rw [hall, hcount, hin, hcard]
  constructor
  · rintro ⟨hterm, _, hlt, _, hnd⟩
    exact ⟨by simpa using hterm, hnd, hlt⟩
  · rintro ⟨hterm, hnd, hlt⟩
    exact ⟨.inr hterm, (fun i hi => by cases hi), hlt, hle, hnd⟩

end Modes

/-- A call stays within the array and returns the number of entries that it
assigned exactly if the lines it counts assign one entry each: a global field
has a value and room for it, every line of a table that is counted has a value,
and the lines of a mix that are counted name different entries of the array. -/
theorem inArray_iff (r : ParseRequest) (file : List Byte) : InArray r file ↔ CellsFit r file := by
  unfold CellsFit
  dsimp only
  split
  · next hsub => exact inArray_global rfl hsub
  next sub hsub =>
  split
  · next hmix => exact inArray_mix rfl hsub hmix
  · next hmix => exact inArray_table rfl hsub (by simpa using hmix)

/-! ## A file that assigns behind the array -/

/-- `[a7]=1`. -/
def seventhLine : List Byte :=
  [Byte.leftBracket, 0x61, 0x37, Byte.rightBracket, Byte.equals, 0x31, Byte.newline]

/-- The call for the mix of `a`, with an array of one entry. -/
def mixRequest : ParseRequest := ⟨[0x61], some letterNumberMix, 1, fun _ => 0, fun _ => 0⟩

/-- The place in an array of one entry is 7. -/
theorem inArray_not_always : ¬ ∀ r file, InArray r file := by
  intro h
  obtain ⟨res, hres, hin, _⟩ := h mixRequest seventhLine (fun _ => 0) (fun _ => 0)
  have hseven : (parseFile (mixRequest.on (fun _ => 0) (fun _ => 0)) seventhLine).map
      (fun res => res.valueByte 7) = some 0 := by
    rw [hres, Option.map_some, (hin 7 (by decide)).2]
  revert hseven
  decide

end CtcSai
