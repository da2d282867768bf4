/-
# `WarmbootQuery` — how a record is looked up and how a list is paged through

`_ctc_sai_wb_func_query_entry_by_key` reads a list element by element under an
index of eight bits, `ctc_sai_wb_func_query_entry` reads it page by page under
a cursor of 32 bits that is handed to LRANGE as a signed number, and
`ctc_redis_client_lrange_binary` copies what comes back from the last element
to the first.  Both loops are settled for every list: the lookup by the first
256 elements, the pages by where the cursor first leaves the signed numbers.
The lists are those of redis, which does not fail.
-/
import CtcSai.WarmbootRoundTrip
import Mathlib.Data.List.Find
import Mathlib.Data.Nat.Prime.Basic

namespace CtcSai

open Buffer

/-! ## The redis client -/

/-- What `ctc_redis_client_lrange_binary` leaves: `rc`, `out_buf`, `*buf_len`
and `*count`. -/
structure LrangeReply where
  rc : Int
  outBuf : Nat → BitVec 8
  bufLen : Nat
  count : Nat

/-- The copying of elements behind each other, as long as they fit. -/
def copyElements (bufferLen : Nat) :
    List Blob → Nat → (Nat → BitVec 8) → Option Nat × (Nat → BitVec 8)
  | [], bufferPos, buf => (some bufferPos, buf)
  | element :: elements, bufferPos, buf =>
    if bufferLen < bufferPos + element.length then (none, buf)
    else copyElements bufferLen elements (bufferPos + element.length)
      (memcpy buf bufferPos element)

/-- `ctc_redis_client_lrange_binary`: the elements of the reply are copied
from the last to the first. -/
def lrangeBinary (l : List Blob) (start stop : Int) (outBuf : Nat → BitVec 8) (bufLen : Nat) :
    LrangeReply :=
  let reply := lrange l start stop
  match copyElements bufLen reply.reverse 0 outBuf with
  | (some bufferPos, buf) => ⟨0, buf, bufferPos, reply.length⟩
  | (none, buf) => ⟨-1, buf, 0, 0⟩

/-- `ctc_redis_client_llen_binary`: a `uint32`. -/
def llenBinary (l : List Blob) : BitVec 32 := BitVec.ofNat 32 l.length

/-! ## A query -/

/-- `ctc_wb_query_t`. -/
structure WbQuery where
  /-- `query_type` is 1. -/
  byKey : Bool
  key : Nat → BitVec 8
  keyLen : BitVec 32
  dataLen : BitVec 32
  cursor : BitVec 32
  bufferLen : BitVec 32
  buffer : Nat → BitVec 8
  validCnt : BitVec 32
  isEnd : Bool

def WbQuery.keyBytes (query : WbQuery) : Blob := slice query.key 0 query.keyLen.toNat

/-- The loop of a lookup from an index on; `none` is a loop that goes on. -/
def queryByKeyLoop (l : List Blob) (query : WbQuery) :
    Nat → BitVec 8 → (Nat → BitVec 8) → Option (Int × WbQuery)
  | 0, _, _ => none
  | fuel + 1, i, buffer =>
    if i.toNat < (llenBinary l).toNat then
      let reply := lrangeBinary l i.toNat i.toNat buffer query.bufferLen.toNat
      if reply.bufLen = 0 ∨ reply.count = 0 then
        queryByKeyLoop l query fuel (i + 1) reply.outBuf
      else if query.keyBytes = slice reply.outBuf 0 query.keyLen.toNat then
        some (0, { query with buffer := reply.outBuf, validCnt := 1 })
      else queryByKeyLoop l query fuel (i + 1) reply.outBuf
    else some (-1, { query with buffer := buffer })

/-- `_ctc_sai_wb_func_query_entry_by_key`. -/
def wbQueryEntryByKey (fuel : Nat) (l : List Blob) (query : WbQuery) : Option (Int × WbQuery) :=
  queryByKeyLoop l { query with validCnt := 0, isEnd := true } fuel 0 query.buffer

/-- `query_cnt`: how many records the buffer holds. -/
def WbQuery.queryCnt (query : WbQuery) : BitVec 32 :=
  query.bufferLen / (query.keyLen + query.dataLen)

/-- `ctc_sai_wb_func_query_entry` of a page. -/
def wbQueryPage (l : List Blob) (query : WbQuery) : Int × WbQuery :=
  let queryCnt := query.queryCnt
  let reply := lrangeBinary l query.cursor.toInt (query.cursor + queryCnt - 1#32).toInt
    query.buffer query.bufferLen.toNat
  let returnCnt := BitVec.ofNat 32 reply.count
  let query := { query with buffer := reply.outBuf, validCnt := returnCnt }
  if returnCnt < queryCnt then (reply.rc, { query with cursor := 0, isEnd := true })
  else (reply.rc, { query with cursor := query.cursor + returnCnt, isEnd := false })

/-- `ctc_sai_wb_func_query_entry`. -/
def wbQueryEntry (fuel : Nat) (l : List Blob) (query : WbQuery) : Option (Int × WbQuery) :=
  let query := { query with validCnt := 0, isEnd := true }
  if query.keyLen = 0 ∨ query.bufferLen = 0 then some (-1, query)
  else if query.byKey then wbQueryEntryByKey fuel l query
  else some (wbQueryPage l query)

/-- The calls of a query until `is_end` is reported or one fails: the status,
and the records of each page as they lie in the buffer. -/
def queryPages (l : List Blob) : Nat → WbQuery → Option (Int × List (List Blob))
  | 0, _ => none
  | fuel + 1, query =>
    match wbQueryEntry fuel l query with
    | none => none
    | some (ret, query) =>
      if ret ≠ 0 then some (ret, [])
      else
        let page := records query.buffer (query.keyLen + query.dataLen).toNat query.validCnt.toNat
        if query.isEnd then some (0, [page])
        else (queryPages l fuel query).map fun result => (result.1, page :: result.2)

/-! ## Ranges of a list -/

@[simp] theorem lrange_nil (start stop : Int) : lrange [] start stop = [] := by
  simp [lrange]

theorem lrange_single (l : List Blob) (i : Nat) : lrange l i i = (l.drop i).take 1 := by
  have hpage := lrange_page l i Nat.one_pos
  have hstop : ((i : Int) + (1 : Nat) - 1) = i := by omega
  rwa [hstop] at hpage

theorem length_lrange_nonneg (l : List Blob) {start stop : Int} (h : 0 ≤ start) (h' : 0 ≤ stop) :
    (lrange l start stop).length = min (stop + 1 - start).toNat (l.length - start.toNat) := by
  have h1 : ¬ start < 0 := by omega
  have h2 : ¬ stop < 0 := by omega
  simp only [lrange, if_neg h1, if_neg h2, List.length_take, List.length_drop]
  omega

theorem length_lrange_mixed (l : List Blob) {start stop : Int} (h : 0 ≤ start) (h' : stop < 0) :
    (lrange l start stop).length =
      min (stop + l.length + 1 - start).toNat (l.length - start.toNat) := by
  have h1 : ¬ start < 0 := by omega
  simp only [lrange, if_neg h1, if_pos h', List.length_take, List.length_drop]
  omega

theorem length_lrange_neg (l : List Blob) {start stop : Int} (h : start < 0) (h' : stop < 0)
    (hstart : 0 ≤ start + l.length) :
    (lrange l start stop).length = min (stop + 1 - start).toNat (-start).toNat := by
  simp only [lrange, if_pos h, if_pos h', List.length_take, List.length_drop]
  congr 1 <;> omega

/-! ## The copy of a reply -/

theorem copyElements_fits {bufferLen : Nat} {elements : List Blob} {pos : Nat}
    (h : pos + elements.flatten.length ≤ bufferLen) (buf : Nat → BitVec 8) :
    copyElements bufferLen elements pos buf =
      (some (pos + elements.flatten.length), memcpy buf pos elements.flatten) := by
  induction elements generalizing pos buf with
  | nil => simp [copyElements]
  | cons element elements ih =>
    rw [List.flatten_cons, List.length_append] at h
    have hfit : ¬ bufferLen < pos + element.length := by omega
    rw [copyElements, if_neg hfit, ih (by omega), List.flatten_cons, List.length_append,
      memcpy_append, Nat.add_assoc]

theorem copyElements_long {bufferLen : Nat} {element : Blob} (h : bufferLen < element.length)
    (elements : List Blob) (pos : Nat) (buf : Nat → BitVec 8) :
    copyElements bufferLen (element :: elements) pos buf = (none, buf) := by
  have hlong : bufferLen < pos + element.length := by omega
  rw [copyElements, if_pos hlong]

theorem length_flatten_of_length {n : Nat} {elements : List Blob}
    (h : ∀ element ∈ elements, element.length = n) :
    elements.flatten.length = elements.length * n := by
  induction elements with
  | nil => simp
  | cons element elements ih =>
    rw [List.flatten_cons, List.length_append, h element (List.mem_cons_self ..),
      ih fun e he => h e (List.mem_cons_of_mem _ he), List.length_cons, Nat.add_mul, Nat.one_mul,
      Nat.add_comm]

/-! ## The lookup by key -/

/-- A record can be found: it fits the buffer, and starts with the key. -/
def WbQuery.Hits (query : WbQuery) (value : Blob) : Prop :=
  value.length ≤ query.bufferLen.toNat ∧ query.keyBytes <+: value

instance (query : WbQuery) (value : Blob) : Decidable (query.Hits value) :=
  inferInstanceAs (Decidable (_ ∧ _))

/-- How many elements the index of a lookup reaches. -/
def keyReach (l : List Blob) : Nat := min 256 (llenBinary l).toNat

/-- The lookup ends, with a record that starts with the key in the buffer when
there is one, and with an error when there is none. -/
def LooksUp (l : List Blob) (query : WbQuery) : Prop :=
  ∃ fuel ret query', wbQueryEntryByKey fuel l query = some (ret, query') ∧
    ((∃ value ∈ l, query.keyBytes <+: value) → ret = 0 ∧ query'.validCnt = 1 ∧
      ∃ value ∈ l, query.keyBytes <+: value ∧ slice query'.buffer 0 value.length = value) ∧
    ((∀ value ∈ l, ¬ query.keyBytes <+: value) → ret ≠ 0 ∧ query'.validCnt = 0)

/-- What the index reaches decides: one of its elements can be found, or there
is nothing to be found and the list is shorter than the index is wide. -/
def WithinReach (l : List Blob) (query : WbQuery) : Prop :=
  ((∃ value ∈ l, query.keyBytes <+: value) → ∃ value ∈ l.take (keyReach l), query.Hits value) ∧
    ((∀ value ∈ l, ¬ query.keyBytes <+: value) → (llenBinary l).toNat < 256)

theorem length_keyBytes (query : WbQuery) : query.keyBytes.length = query.keyLen.toNat :=
  length_slice ..

theorem llenBinary_le (l : List Blob) : (llenBinary l).toNat ≤ l.length := by
  exact Nat.mod_le _ _

theorem lrangeBinary_single {l : List Blob} {i : Nat} {value : Blob} (h : l[i]? = some value)
    {bufLen : Nat} (hfit : value.length ≤ bufLen) (buf : Nat → BitVec 8) :
    lrangeBinary l i i buf bufLen = ⟨0, memcpy buf 0 value, value.length, 1⟩ := by
  have hdrop : (l.drop i).take 1 = [value] := by
    rw [List.take_one, List.head?_drop, h, Option.toList_some]
  have hlen : 0 + [value].flatten.length ≤ bufLen := by simpa using hfit
  have hcopy := copyElements_fits hlen buf
  simp only [List.flatten_singleton, Nat.zero_add] at hcopy
  simp only [lrangeBinary, lrange_single, hdrop, List.reverse_singleton, hcopy,
    List.length_singleton]

theorem lrangeBinary_long {l : List Blob} {i : Nat} {value : Blob} (h : l[i]? = some value)
    {bufLen : Nat} (hlong : bufLen < value.length) (buf : Nat → BitVec 8) :
    lrangeBinary l i i buf bufLen = ⟨-1, buf, 0, 0⟩ := by
  have hdrop : (l.drop i).take 1 = [value] := by
    rw [List.take_one, List.head?_drop, h, Option.toList_some]
  simp only [lrangeBinary, lrange_single, hdrop, List.reverse_singleton, copyElements_long hlong]

theorem toNat_succ_of_lt {i : BitVec 8} (h : i.toNat + 1 < 256) : (i + 1).toNat = i.toNat + 1 := by
  exact Nat.mod_eq_of_lt h

section Lookup

variable {l : List Blob} {query : WbQuery} (hkey : 0 < query.keyLen.toNat)
  (hl : ∀ value ∈ l, query.keyLen.toNat ≤ value.length)
include hkey hl

omit hkey in
theorem compare_iff {value : Blob} (hv : value ∈ l) (buf : Nat → BitVec 8) :
    query.keyBytes = slice (memcpy buf 0 value) 0 query.keyLen.toNat ↔
      query.keyBytes <+: value := by
  rw [slice_memcpy_take buf 0 (hl value hv), List.prefix_iff_eq_take, length_keyBytes]

theorem queryByKeyLoop_hit {i : BitVec 8} (hi : i.toNat < (llenBinary l).toNat) {value : Blob}
    (hv : l[i.toNat]? = some value) (hhit : query.Hits value) (fuel : Nat)
    (buffer : Nat → BitVec 8) :
    queryByKeyLoop l query (fuel + 1) i buffer =
      some (0, { query with buffer := memcpy buffer 0 value, validCnt := 1 }) := by
  have hmem : value ∈ l := List.mem_of_getElem? hv
  have hpos := hl value hmem
  have hread : ¬ (value.length = 0 ∨ 1 = 0) := by omega
  simp only [queryByKeyLoop, if_pos hi, lrangeBinary_single hv hhit.1]
  rw [if_neg hread, if_pos ((compare_iff hl hmem buffer).mpr hhit.2)]

theorem queryByKeyLoop_pass {i : BitVec 8} (hi : i.toNat < (llenBinary l).toNat) {value : Blob}
    (hv : l[i.toNat]? = some value) (hmiss : ¬ query.Hits value) (buffer : Nat → BitVec 8) :
    ∃ buffer', ∀ fuel, queryByKeyLoop l query (fuel + 1) i buffer =
      queryByKeyLoop l query fuel (i + 1) buffer' := by
  have hmem : value ∈ l := List.mem_of_getElem? hv
  have hpos := hl value hmem
  by_cases hfit : value.length ≤ query.bufferLen.toNat
  · have hread : ¬ (value.length = 0 ∨ 1 = 0) := by omega
    have hcmp : ¬ query.keyBytes = slice (memcpy buffer 0 value) 0 query.keyLen.toNat :=
      fun heq => hmiss ⟨hfit, (compare_iff hl hmem buffer).mp heq⟩
    refine ⟨memcpy buffer 0 value, fun fuel => ?_⟩
    simp only [queryByKeyLoop, if_pos hi, lrangeBinary_single hv hfit]
    rw [if_neg hread, if_neg hcmp]
  · refine ⟨buffer, fun fuel => ?_⟩
    simp only [queryByKeyLoop, if_pos hi, lrangeBinary_long hv (Nat.lt_of_not_le hfit)]
    rw [if_pos (.inl trivial)]

/-- The first record within reach that can be found is found.  The induction is
on the elements that are left. -/
theorem queryByKeyLoop_finds {left : List Blob} {i : BitVec 8}
    (hleft : (l.take (keyReach l)).drop i.toNat = left) {found : Blob}
    (hfind : left.find? (fun value => decide (query.Hits value)) = some found)
    (buffer : Nat → BitVec 8) :
    ∃ fuel buffer', queryByKeyLoop l query fuel i buffer =
      some (0, { query with buffer := memcpy buffer' 0 found, validCnt := 1 }) := by
  induction left generalizing i buffer with
  | nil => exact nomatch hfind
  | cons value left ih =>
    have hbound : keyReach l ≤ 256 ∧ keyReach l ≤ (llenBinary l).toNat :=
      ⟨Nat.min_le_left .., Nat.min_le_right ..⟩
    have hlen := congrArg List.length hleft
    simp only [List.length_drop, List.length_take, List.length_cons] at hlen
    have hi : i.toNat < (llenBinary l).toNat := by omega
    have hv : l[i.toNat]? = some value := by
      have hhead := congrArg List.head? hleft
      rwa [List.head?_drop, List.getElem?_take_of_lt (by omega)] at hhead
    by_cases hnow : query.Hits value
    · rw [List.find?_cons_of_pos (by simpa using hnow)] at hfind
      cases hfind
      exact ⟨1, buffer, queryByKeyLoop_hit hkey hl hi hv hnow 0 buffer⟩
    rw [List.find?_cons_of_neg (by simpa using hnow)] at hfind
    have hmore : left ≠ [] := by
      rintro rfl
      exact nomatch hfind
    have hpos := List.length_pos_of_ne_nil hmore
    have hnext : (i + 1).toNat = i.toNat + 1 := toNat_succ_of_lt (by omega)
    have htail : (l.take (keyReach l)).drop (i + 1).toNat = left := by
      rw [hnext, ← List.drop_drop, hleft, List.drop_one, List.tail_cons]
    obtain ⟨passed, hpass⟩ := queryByKeyLoop_pass hkey hl hi hv hnow buffer
    obtain ⟨fuel, buffer', hrest⟩ := ih htail hfind passed
    exact ⟨fuel + 1, buffer', (hpass fuel).trans hrest⟩

omit hkey hl in
theorem not_hits_of_take (hnone : ∀ value ∈ l.take (keyReach l), ¬ query.Hits value) {i : BitVec 8}
    (hi : i.toNat < (llenBinary l).toNat) :
    ∃ value, l[i.toNat]? = some value ∧ ¬ query.Hits value := by
  have hle := llenBinary_le l
  have hwide := i.isLt
  have hreach : i.toNat < keyReach l := Nat.lt_min.mpr ⟨hwide, hi⟩
  refine ⟨l[i.toNat], List.getElem?_eq_getElem (by omega), hnone _ ?_⟩
  exact List.mem_take_iff_getElem.mpr ⟨i.toNat, by omega, rfl⟩

theorem queryByKeyLoop_ends (hnone : ∀ value ∈ l.take (keyReach l), ¬ query.Hits value)
    (hshort : (llenBinary l).toNat < 256) (left : Nat) {i : BitVec 8}
    (hleft : i.toNat + left = (llenBinary l).toNat) (buffer : Nat → BitVec 8) :
    ∃ fuel buffer', queryByKeyLoop l query fuel i buffer =
      some (-1, { query with buffer := buffer' }) := by
  induction left generalizing i buffer with
  | zero =>
    have hend : ¬ i.toNat < (llenBinary l).toNat := by omega
    exact ⟨1, buffer, by rw [queryByKeyLoop, if_neg hend]⟩
  | succ left ih =>
    have hi : i.toNat < (llenBinary l).toNat := by omega
    obtain ⟨value, hv, hmiss⟩ := not_hits_of_take hnone hi
    obtain ⟨passed, hpass⟩ := queryByKeyLoop_pass hkey hl hi hv hmiss buffer
    have hnext : (i + 1).toNat = i.toNat + 1 := toNat_succ_of_lt (by omega)
    obtain ⟨fuel, buffer', hrest⟩ := ih (i := i + 1) (by omega) passed
    exact ⟨fuel + 1, buffer', (hpass fuel).trans hrest⟩

theorem queryByKeyLoop_runs (hnone : ∀ value ∈ l.take (keyReach l), ¬ query.Hits value)
    (hlong : 256 ≤ (llenBinary l).toNat) (fuel : Nat) (i : BitVec 8) (buffer : Nat → BitVec 8) :
    queryByKeyLoop l query fuel i buffer = none := by
  induction fuel generalizing i buffer with
  | zero => rfl
  | succ fuel ih =>
    have hi : i.toNat < (llenBinary l).toNat := Nat.lt_of_lt_of_le i.isLt hlong
    obtain ⟨value, hv, hmiss⟩ := not_hits_of_take hnone hi
    obtain ⟨passed, hpass⟩ := queryByKeyLoop_pass hkey hl hi hv hmiss buffer
    rw [hpass fuel]
    exact ih (i + 1) passed

theorem queryByKeyLoop_missing (hnone : ∀ value ∈ l.take (keyReach l), ¬ query.Hits value)
    {fuel : Nat} {i : BitVec 8} {buffer : Nat → BitVec 8} {ret : Int} {query' : WbQuery}
    (h : queryByKeyLoop l query fuel i buffer = some (ret, query')) : ret = -1 := by
  induction fuel generalizing i buffer with
  | zero => exact nomatch h
  | succ fuel ih =>
    by_cases hi : i.toNat < (llenBinary l).toNat
    · obtain ⟨value, hv, hmiss⟩ := not_hits_of_take hnone hi
      obtain ⟨passed, hpass⟩ := queryByKeyLoop_pass hkey hl hi hv hmiss buffer
      rw [hpass fuel] at h
      exact ih h
    · rw [queryByKeyLoop, if_neg hi] at h
      cases h
      rfl

end Lookup

/-- A lookup meets its purpose exactly when what the index reaches decides it. -/
theorem looksUp_iff {l : List Blob} {query : WbQuery} (hkey : 0 < query.keyLen.toNat)
    (hl : ∀ value ∈ l, query.keyLen.toNat ≤ value.length) :
    LooksUp l query ↔ WithinReach l query := by
  -- the loop starts from a query that has the key of the given one
  have hkey' : 0 < ({ query with validCnt := 0, isEnd := true } : WbQuery).keyLen.toNat := hkey
  have hl' : ∀ value ∈ l,
      ({ query with validCnt := 0, isEnd := true } : WbQuery).keyLen.toNat ≤ value.length := hl
  constructor
  · rintro ⟨fuel, ret, query', hrun, hfound, -⟩
    constructor
    · intro hex
      by_contra hout
      have hnone : ∀ value ∈ l.take (keyReach l), ¬ query.Hits value :=
        fun value hv hhit => hout ⟨value, hv, hhit⟩
      have hret := queryByKeyLoop_missing hkey' hl' hnone hrun
      obtain ⟨hzero, -⟩ := hfound hex
      omega
    · intro hmiss
      by_contra hlong
      have hnone : ∀ value ∈ l.take (keyReach l), ¬ query.Hits value :=
        fun value hv hhit => hmiss value (List.mem_of_mem_take hv) hhit.2
      have hruns := queryByKeyLoop_runs hkey' hl' hnone (Nat.le_of_not_lt hlong) fuel 0 query.buffer
      exact nomatch hruns.symm.trans hrun
  · rintro ⟨hin, hshort⟩
    by_cases hhit : ∃ value ∈ l.take (keyReach l), query.Hits value
    · obtain ⟨value, hv, hhit⟩ := hhit
      have hsome : ((l.take (keyReach l)).find? fun v => decide (query.Hits v)).isSome :=
        List.find?_isSome.mpr ⟨value, hv, decide_eq_true hhit⟩
      obtain ⟨found, hfind⟩ := Option.isSome_iff_exists.mp hsome
      have hfound : query.Hits found := by simpa using List.find?_some hfind
      have hmem : found ∈ l := List.mem_of_mem_take (List.mem_of_find?_eq_some hfind)
      obtain ⟨fuel, buffer, hrun⟩ :=
        queryByKeyLoop_finds hkey' hl' (by rfl : (l.take (keyReach l)).drop (0 : BitVec 8).toNat =
          l.take (keyReach l)) hfind query.buffer
      refine ⟨fuel, 0, _, hrun, fun _ => ⟨rfl, rfl, found, hmem, hfound.2, ?_⟩, fun hmiss => ?_⟩
      · exact slice_memcpy_self buffer 0 found
      · exact absurd hfound.2 (hmiss found hmem)
    have hnone : ∀ value ∈ l.take (keyReach l), ¬ query.Hits value :=
      fun value hv h => hhit ⟨value, hv, h⟩
    have hmiss : ∀ value ∈ l, ¬ query.keyBytes <+: value :=
      fun value hv h => hhit (hin ⟨value, hv, h⟩)
    obtain ⟨fuel, buffer, hrun⟩ := queryByKeyLoop_ends hkey' hl' hnone (hshort hmiss)
      (llenBinary l).toNat (i := 0) (by simp) query.buffer
    refine ⟨fuel, -1, _, hrun, fun ⟨value, hv, h⟩ => ?_, fun _ => ⟨by decide, rfl⟩⟩
    exact absurd h (hmiss value hv)

/-- A query with a buffer of eight bytes for the version of the switch
objects, as `ctc_sai_warmboot_reload_version_check` makes it. -/
def versionQuery : WbQuery where
  byKey := true
  key i := if i = 0 then 33 else 0
  keyLen := 4
  dataLen := 4
  cursor := 0
  bufferLen := 8
  buffer _ := 0
  validCnt := 0
  isEnd := false

theorem looksUp_version :
    LooksUp [[7, 0, 0, 0, 1, 0, 0, 0], [33, 0, 0, 0, 1, 0, 0, 0]] versionQuery :=
  (looksUp_iff (by decide) (by decide)).mpr
    ⟨fun _ => ⟨[33, 0, 0, 0, 1, 0, 0, 0], by decide, by decide⟩,
      fun h => absurd (h [33, 0, 0, 0, 1, 0, 0, 0] (by decide)) (by decide)⟩

/-- A list of 256 other records is never left. -/
theorem looksUp_not_always : ¬ ∀ (l : List Blob) (query : WbQuery), 0 < query.keyLen.toNat →
    (∀ value ∈ l, query.keyLen.toNat ≤ value.length) → LooksUp l query := by
  intro h
  have hrec : ∀ value ∈ List.replicate 256 ([7, 0, 0, 0, 1, 0, 0, 0] : Blob),
      value = [7, 0, 0, 0, 1, 0, 0, 0] := fun value hv => List.eq_of_mem_replicate hv
  have hl : ∀ value ∈ List.replicate 256 ([7, 0, 0, 0, 1, 0, 0, 0] : Blob),
      versionQuery.keyLen.toNat ≤ value.length := by
    intro value hv
    rw [hrec value hv]
    decide
  have hmiss : ∀ value ∈ List.replicate 256 ([7, 0, 0, 0, 1, 0, 0, 0] : Blob),
      ¬ versionQuery.keyBytes <+: value := by
    intro value hv
    rw [hrec value hv]
    decide
  obtain ⟨fuel, ret, query', hrun, -, hends⟩ := h _ versionQuery (by decide) hl
  have hlong : 256 ≤ (llenBinary (List.replicate 256 ([7, 0, 0, 0, 1, 0, 0, 0] : Blob))).toNat := by
    rw [llenBinary, List.length_replicate]
    decide
  have hruns := @queryByKeyLoop_runs _ { versionQuery with validCnt := 0, isEnd := true }
    (by decide) hl (fun value hv hhit => hmiss value (List.mem_of_mem_take hv) hhit.2) hlong fuel 0
    versionQuery.buffer
  exact nomatch hruns.symm.trans hrun

/-- The lookup of a reload is this one, where the records fit the buffer. -/
theorem queryEntryByKey_refines {l : List Blob} {query : WbQuery} (hkey : 0 < query.keyLen.toNat)
    (hl : ∀ value ∈ l, query.keyLen.toNat ≤ value.length)
    (hfit : ∀ value ∈ l, value.length ≤ query.bufferLen.toNat) (hlen : l.length < 2 ^ 32) :
    match queryEntryByKey l query.keyBytes with
    | some (some found) => ∃ fuel buffer, wbQueryEntryByKey fuel l query =
        some (0, { query with buffer := memcpy buffer 0 found, validCnt := 1, isEnd := true })
    | some none => ∃ fuel buffer, wbQueryEntryByKey fuel l query =
        some (-1, { query with buffer := buffer, validCnt := 0, isEnd := true })
    | none => ∀ fuel, wbQueryEntryByKey fuel l query = none := by
  have hkey' : 0 < ({ query with validCnt := 0, isEnd := true } : WbQuery).keyLen.toNat := hkey
  have hl' : ∀ value ∈ l,
      ({ query with validCnt := 0, isEnd := true } : WbQuery).keyLen.toNat ≤ value.length := hl
  have htotal : (llenBinary l).toNat = l.length := by
    rw [llenBinary, BitVec.toNat_ofNat, Nat.mod_eq_of_lt hlen]
  have htake : l.take 256 = l.take (keyReach l) := by
    rw [keyReach, htotal, ← List.take_eq_take_min]
  have hhits : ∀ value ∈ l, value.take query.keyBytes.length = query.keyBytes ↔
      query.Hits value := by
    intro value hv
    rw [WbQuery.Hits, List.prefix_iff_eq_take, and_iff_right (hfit value hv)]
    exact eq_comm
  have hfind : (l.take 256).find? (fun value => decide (value.take query.keyBytes.length =
      query.keyBytes)) = (l.take (keyReach l)).find? fun value => decide (query.Hits value) := by
    rw [htake]
    exact List.find?_congr fun value hv =>
      decide_eq_decide.mpr (hhits value (List.mem_of_mem_take hv))
  rw [queryEntryByKey, hfind]
  cases h : (l.take (keyReach l)).find? fun value => decide (query.Hits value) with
  | some found =>
    have hleft : (l.take (keyReach l)).drop (0 : BitVec 8).toNat = l.take (keyReach l) := rfl
    exact queryByKeyLoop_finds hkey' hl' hleft h query.buffer
  | none =>
    have hnone : ∀ value ∈ l.take (keyReach l), ¬ query.Hits value := by
      simpa using List.find?_eq_none.mp h
    by_cases hshort : l.length < 256
    · simp only [if_pos hshort]
      exact queryByKeyLoop_ends hkey' hl' hnone (by omega) (llenBinary l).toNat (by simp)
        query.buffer
    · simp only [if_neg hshort]
      exact fun fuel => queryByKeyLoop_runs hkey' hl' hnone (by omega) fuel 0 query.buffer

theorem queryEntryByKey_refines_version : ∃ fuel buffer,
    wbQueryEntryByKey fuel [[7, 0, 0, 0], [33, 0, 0, 0, 1]] versionQuery = some (0,
      { versionQuery with
        buffer := memcpy buffer 0 [33, 0, 0, 0, 1], validCnt := 1, isEnd := true }) :=
  @queryEntryByKey_refines [[7, 0, 0, 0], [33, 0, 0, 0, 1]] versionQuery (by decide) (by decide)
    (by decide) (by decide)

/-! ## A page -/

def WbQuery.page (query : WbQuery) (l : List Blob) : List Blob :=
  lrange l query.cursor.toInt (query.cursor + query.queryCnt - 1#32).toInt

/-- A query for pages of `q` records of length `len`. -/
structure Paging (len q : Nat) (query : WbQuery) : Prop where
  byKey : query.byKey = false
  keyLen : query.keyLen ≠ 0
  bufferLen : query.bufferLen ≠ 0
  len_eq : (query.keyLen + query.dataLen).toNat = len
  cnt_eq : query.queryCnt.toNat = q
  fits : q * len ≤ query.bufferLen.toNat

section Page

variable {l : List Blob} {len q : Nat} {query : WbQuery}

theorem Paging.entry (h : Paging len q query) (hl : ∀ value ∈ l, value.length = len)
    (hle : (query.page l).length ≤ q) :
    ∃ buffer, records buffer len (query.page l).length = (query.page l).reverse ∧
      ∀ fuel, wbQueryEntry fuel l query = some (0, if (query.page l).length < q
        then { query with
          buffer := buffer, validCnt := BitVec.ofNat 32 (query.page l).length,
          cursor := 0, isEnd := true }
        else { query with
          buffer := buffer, validCnt := BitVec.ofNat 32 (query.page l).length,
          cursor := query.cursor + BitVec.ofNat 32 (query.page l).length, isEnd := false }) := by
  have hmem : ∀ value ∈ (query.page l).reverse, value.length = len := by
    intro value hv
    have hpage : value ∈ lrange l query.cursor.toInt (query.cursor + query.queryCnt - 1#32).toInt :=
      List.mem_reverse.mp hv
    exact hl value (List.mem_of_mem_drop (List.mem_of_mem_take hpage))
  have hlen : 0 + (query.page l).reverse.flatten.length ≤ query.bufferLen.toNat := by
    have hmul := Nat.mul_le_mul_right len hle
    have hfits := h.fits
    rw [length_flatten_of_length hmem, List.length_reverse]
    omega
  have hcopy := copyElements_fits hlen query.buffer
  have hrec := records_memcpy_flatten query.buffer hmem
  rw [List.length_reverse] at hrec
  refine ⟨_, hrec, fun fuel => ?_⟩
  have hcnt : (BitVec.ofNat 32 (query.page l).length).toNat = (query.page l).length := by
    rw [BitVec.toNat_ofNat, Nat.mod_eq_of_lt (by have := h.cnt_eq; omega)]
  have hcond : BitVec.ofNat 32 (query.page l).length < query.queryCnt ↔
      (query.page l).length < q := by
    rw [BitVec.lt_def, hcnt, h.cnt_eq]
  have hreply : lrangeBinary l query.cursor.toInt (query.cursor + query.queryCnt - 1#32).toInt
      query.buffer query.bufferLen.toNat = ⟨0, memcpy query.buffer 0 (query.page l).reverse.flatten,
        0 + (query.page l).reverse.flatten.length, (query.page l).length⟩ := by
    simp only [lrangeBinary]
    rw [← WbQuery.page, hcopy]
  have hstart : ¬ (query.keyLen = 0 ∨ query.bufferLen = 0) := by
    rintro (hk | hb)
    · exact h.keyLen hk
    · exact h.bufferLen hb
  have hkind : ¬ query.byKey = true := by
    rw [h.byKey]
    decide
  simp only [wbQueryEntry]
  rw [if_neg hstart, if_neg hkind]
  simp only [wbQueryPage]
  rw [WbQuery.queryCnt] at hreply hcond
  simp only [WbQuery.queryCnt, hreply, hcond, Option.some.injEq]
  split <;> rfl

theorem Paging.last (h : Paging len q query) (hl : ∀ value ∈ l, value.length = len)
    (hlt : (query.page l).length < q) (fuel : Nat) :
    queryPages l (fuel + 1) query = some (0, [(query.page l).reverse]) := by
  obtain ⟨buffer, hrec, hentry⟩ := h.entry hl (Nat.le_of_lt hlt)
  have hcnt : (BitVec.ofNat 32 (query.page l).length).toNat = (query.page l).length := by
    rw [BitVec.toNat_ofNat, Nat.mod_eq_of_lt (by have := h.cnt_eq; omega)]
  rw [if_pos hlt] at hentry
  simp only [queryPages, hentry, h.len_eq, hcnt, hrec]
  rfl

theorem Paging.more (h : Paging len q query) (hl : ∀ value ∈ l, value.length = len)
    (hfull : (query.page l).length = q) :
    ∃ query', Paging len q query' ∧ query'.cursor = query.cursor + query.queryCnt ∧
      ∀ fuel, queryPages l (fuel + 1) query =
        (queryPages l fuel query').map fun result =>
          (result.1, (query.page l).reverse :: result.2) := by
  obtain ⟨buffer, hrec, hentry⟩ := h.entry hl (Nat.le_of_eq hfull)
  have hcnt : BitVec.ofNat 32 (query.page l).length = query.queryCnt := by
    rw [hfull, ← h.cnt_eq, BitVec.ofNat_toNat, BitVec.setWidth_eq]
  have hnat : query.queryCnt.toNat = (query.page l).length := h.cnt_eq.trans hfull.symm
  refine ⟨{ query with
      buffer := buffer, validCnt := query.queryCnt, cursor := query.cursor + query.queryCnt,
      isEnd := false }, ⟨h.byKey, h.keyLen, h.bufferLen, h.len_eq, h.cnt_eq, h.fits⟩, rfl,
    fun fuel => ?_⟩
  simp only [queryPages, hentry]
  rw [if_neg (Nat.not_lt_of_le (Nat.le_of_eq hfull.symm)), hcnt]
  simp only [h.len_eq, hnat, hrec]
  rfl

/-! ## Where the cursor stands -/

theorem Paging.stop (h : Paging len q query) (hq : 0 < q) :
    (query.cursor + query.queryCnt - 1#32).toNat = (query.cursor.toNat + q - 1) % 2 ^ 32 := by
  have hcnt := h.cnt_eq
  rw [BitVec.toNat_sub, BitVec.toNat_add]
  have hone : (1#32).toNat = 1 := rfl
  omega

/-- Where both bounds are signed numbers, or the list is at its end, a page is
the next part of the list. -/
theorem Paging.page_good (h : Paging len q query) (hq : 0 < q) (hc : query.cursor.toNat < 2 ^ 31)
    (hgood : query.cursor.toNat + q ≤ 2 ^ 31 ∨ l.length ≤ query.cursor.toNat) :
    query.page l = (l.drop query.cursor.toNat).take q := by
  have hstart : query.cursor.toInt = query.cursor.toNat := by
    rw [BitVec.toInt_eq_toNat_cond, if_pos (by omega)]
  rcases hgood with hle | hend
  · have hstop : (query.cursor + query.queryCnt - 1#32).toInt = query.cursor.toNat + q - 1 := by
      have hnat := h.stop hq
      rw [BitVec.toInt_eq_toNat_cond, hnat]
      omega
    rw [WbQuery.page, hstart, hstop, lrange_page l query.cursor.toNat hq]
  · have hpos : ¬ ((query.cursor.toNat : Int) < 0) := by omega
    rw [WbQuery.page, hstart, List.drop_eq_nil_of_le hend, List.take_nil, lrange, if_neg hpos,
      Int.toNat_natCast, List.drop_eq_nil_of_le hend, List.take_nil]

/-- Where only the first bound is a signed number, a page ends too early. -/
theorem Paging.page_short (h : Paging len q query) (hq : 0 < q)
    (hc : query.cursor.toNat < 2 ^ 31) (hover : 2 ^ 31 < query.cursor.toNat + q)
    (hne : query.cursor.toNat + q ≠ 2 ^ 32) (hin : query.cursor.toNat < l.length)
    (hlen : l.length < 2 ^ 32) :
    (query.page l).length < q ∧ query.cursor.toNat + (query.page l).length < l.length := by
  have hcnt := h.cnt_eq
  have hnat := h.stop hq
  have hstart : query.cursor.toInt = query.cursor.toNat := by
    rw [BitVec.toInt_eq_toNat_cond, if_pos (by omega)]
  by_cases hwrap : query.cursor.toNat + q - 1 < 2 ^ 32
  · -- the bound is negative, and counted from the back
    have hstop : (query.cursor + query.queryCnt - 1#32).toInt =
        query.cursor.toNat + q - 1 - 2 ^ 32 := by
      rw [BitVec.toInt_eq_toNat_cond, hnat]
      omega
    rw [WbQuery.page, length_lrange_mixed l (by omega) (by omega)]
    omega
  -- the sum wraps around to a bound before the cursor
  have hstop : (query.cursor + query.queryCnt - 1#32).toInt =
      query.cursor.toNat + q - 1 - 2 ^ 32 := by
    rw [BitVec.toInt_eq_toNat_cond, hnat]
    omega
  rw [WbQuery.page, length_lrange_nonneg l (by omega) (by omega)]
  omega

theorem Paging.page_wrapped (h : Paging len q query) (hq : 0 < q)
    (hc : 2 ^ 31 ≤ query.cursor.toNat) (hle : query.cursor.toNat + q ≤ 2 ^ 32)
    (hlen : 2 ^ 31 ≤ l.length) : (query.page l).length = q := by
  have hnat := h.stop hq
  have hstart : query.cursor.toInt = query.cursor.toNat - 2 ^ 32 := by
    rw [BitVec.toInt_eq_toNat_cond]
    omega
  have hstop : (query.cursor + query.queryCnt - 1#32).toInt =
      query.cursor.toNat + q - 1 - 2 ^ 32 := by
    rw [BitVec.toInt_eq_toNat_cond, hnat]
    omega
  rw [WbQuery.page, length_lrange_neg l (by omega) (by omega) (by omega)]
  omega

end Page

/-! ## The pages of a list -/

def WbQuery.recordLen (query : WbQuery) : Nat := query.keyLen.toNat + query.dataLen.toNat

/-- From the start of a list the calls end: with every record once where a
record fits the buffer, and with an error where none does. -/
def PagesThrough (l : List Blob) (query : WbQuery) : Prop :=
  if query.recordLen ≤ query.bufferLen.toNat then
    ∃ fuel pages, queryPages l fuel query = some (0, pages) ∧ pages.flatten.Perm l
  else ∃ fuel ret pages, queryPages l fuel query = some (ret, pages) ∧ ret ≠ 0

/-- No page has a bound beyond the signed numbers before the list ends. -/
def CursorStays (n q : Nat) : Prop :=
  (q ∣ n ∧ n < 2 ^ 31) ∨ (¬ q ∣ n ∧ q * (n / q + 1) ≤ 2 ^ 31)

/-- The cursor stays among the signed numbers; a buffer too short for a record
is one of no bytes, or is tried on a list that is not empty. -/
def PagesFit (l : List Blob) (query : WbQuery) : Prop :=
  if query.recordLen ≤ query.bufferLen.toNat then
    CursorStays l.length (query.bufferLen.toNat / query.recordLen)
  else query.bufferLen = 0 ∨ l ≠ []

theorem CursorStays.good {n q c : Nat} (h : CursorStays n q) (hq : 0 < q) (hdvd : q ∣ c)
    (hle : c ≤ n) : c < 2 ^ 31 ∧ (c + q ≤ 2 ^ 31 ∨ n ≤ c) := by
  obtain ⟨k, rfl⟩ := hdvd
  rcases h with ⟨⟨m, rfl⟩, hn⟩ | ⟨hdvd, hn⟩
  · refine ⟨by omega, ?_⟩
    rcases Nat.lt_or_ge k m with hkm | hmk
    · have hmul := Nat.mul_le_mul_left q hkm
      rw [Nat.mul_succ] at hmul
      exact .inl (by omega)
    · exact .inr (Nat.mul_le_mul_left q hmk)
  have hk : k ≤ n / q := (Nat.le_div_iff_mul_le hq).mpr (by rw [Nat.mul_comm]; exact hle)
  have hmul := Nat.mul_le_mul_left q (Nat.add_le_add_right hk 1)
  rw [Nat.mul_succ] at hmul
  exact ⟨by omega, .inl (by omega)⟩

/-- A cursor of a list that does not meet the condition, where it still has a
page of signed bounds, has another page behind it. -/
theorem next_lt_of_not_stays {n q c : Nat} (h : ¬ CursorStays n q) (hq : 0 < q)
    (hpow : ¬ q ∣ 2 ^ 31) (hdvd : q ∣ c) (hle : c + q ≤ 2 ^ 31) : c + q < n ∧ c + q < 2 ^ 31 := by
  have hstep : q ∣ c + q := Nat.dvd_add hdvd (Nat.dvd_refl q)
  have hlt : c + q < 2 ^ 31 := by
    refine Nat.lt_of_le_of_ne hle fun heq => hpow ?_
    rw [← heq]
    exact hstep
  by_cases hn : q ∣ n
  · have hbig : ¬ n < 2 ^ 31 := fun hlt => h (.inl ⟨hn, hlt⟩)
    omega
  have hbig : ¬ q * (n / q + 1) ≤ 2 ^ 31 := fun hle => h (.inr ⟨hn, hle⟩)
  by_contra hge
  obtain ⟨k, hk⟩ := hstep
  have hkn : n / q + 1 ≤ k := by
    by_contra hlt'
    have hmul := Nat.mul_le_mul_left q (Nat.le_of_lt_succ (Nat.lt_of_not_le hlt'))
    have hdiv := Nat.mul_div_le n q
    have hne : c + q ≠ n := fun heq => hn (heq ▸ ⟨k, hk⟩)
    omega
  have hmul := Nat.mul_le_mul_left q hkn
  omega

theorem length_of_not_stays {n q : Nat} (h : ¬ CursorStays n q) (hpow : q ∣ 2 ^ 31) :
    2 ^ 31 ≤ n := by
  by_cases hn : q ∣ n
  · exact Nat.le_of_not_lt fun hlt => h (.inl ⟨hn, hlt⟩)
  have hbig : ¬ q * (n / q + 1) ≤ 2 ^ 31 := fun hle => h (.inr ⟨hn, hle⟩)
  obtain ⟨k, hk⟩ := hpow
  rw [hk] at hbig ⊢
  have hlt : k < n / q + 1 := Nat.lt_of_mul_lt_mul_left (Nat.lt_of_not_le hbig)
  exact Nat.le_trans (Nat.mul_le_mul_left q (Nat.le_of_lt_succ hlt)) (Nat.mul_div_le n q)

section Run

variable {l : List Blob} {len q : Nat} {query : WbQuery}

theorem Paging.reads (h : Paging len q query) (hl : ∀ value ∈ l, value.length = len) (hq : 0 < q)
    (hstays : CursorStays l.length q) {left : Nat}
    (hleft : query.cursor.toNat + left = l.length) (hdvd : q ∣ query.cursor.toNat) :
    ∃ fuel pages, queryPages l fuel query = some (0, pages) ∧
      pages.flatten.Perm (l.drop query.cursor.toNat) := by
  induction left using Nat.strong_induction_on generalizing query with
  | _ left ih =>
    obtain ⟨hc, hgood⟩ := hstays.good hq hdvd (by omega)
    have hpage := h.page_good hq hc hgood
    have hlen := congrArg List.length hpage
    rw [List.length_take, List.length_drop] at hlen
    by_cases hlast : (query.page l).length < q
    · refine ⟨1, _, h.last hl hlast 0, ?_⟩
      rw [List.flatten_singleton, hpage, List.take_of_length_le (by rw [List.length_drop]; omega)]
      exact List.reverse_perm _
    have hfull : (query.page l).length = q := by omega
    obtain ⟨query', h', hcursor, hmore⟩ := h.more hl hfull
    have hnext : query'.cursor.toNat = query.cursor.toNat + q := by
      rw [hcursor, BitVec.toNat_add, h.cnt_eq]
      omega
    obtain ⟨fuel, pages, hrun, hperm⟩ := ih (left - q) (by omega) h' (by omega)
      (by rw [hnext]; exact Nat.dvd_add hdvd (Nat.dvd_refl q))
    refine ⟨fuel + 1, _, by rw [hmore, hrun, Option.map_some], ?_⟩
    rw [← List.take_append_drop q (l.drop query.cursor.toNat), List.drop_drop, ← hnext, ← hpage]
    exact (List.reverse_perm _).append hperm

/-- When the pages meet the first cursor that is no signed number exactly, they
never end. -/
theorem Paging.runs (h : Paging len q query) (hl : ∀ value ∈ l, value.length = len) (hq : 0 < q)
    (hpow : q ∣ 2 ^ 31) (hlen : 2 ^ 31 ≤ l.length) (hdvd : q ∣ query.cursor.toNat) (fuel : Nat) :
    queryPages l fuel query = none := by
  induction fuel generalizing query with
  | zero => rfl
  | succ fuel ih =>
    have hwide : q ∣ 2 ^ 32 := Nat.dvd_trans hpow (by decide)
    have hroom : ∀ m, q ∣ m → query.cursor.toNat < m → query.cursor.toNat + q ≤ m := by
      intro m hm hlt
      have hsub := Nat.le_of_dvd (Nat.sub_pos_of_lt hlt) (Nat.dvd_sub hm hdvd)
      omega
    have hfull : (query.page l).length = q := by
      by_cases hc : query.cursor.toNat < 2 ^ 31
      · have hle := hroom _ hpow hc
        rw [h.page_good hq hc (.inl hle), List.length_take, List.length_drop]
        omega
      · exact h.page_wrapped hq (by omega) (hroom _ hwide query.cursor.isLt) hlen
    obtain ⟨query', h', hcursor, hmore⟩ := h.more hl hfull
    have hnext : q ∣ query'.cursor.toNat := by
      rw [hcursor, BitVec.toNat_add, h.cnt_eq]
      exact (Nat.dvd_mod_iff hwide).mpr (Nat.dvd_add hdvd (Nat.dvd_refl q))
    rw [hmore, ih h' hnext, Option.map_none]

theorem Paging.loses (h : Paging len q query) (hl : ∀ value ∈ l, value.length = len) (hq : 0 < q)
    (hpow : ¬ q ∣ 2 ^ 31) (hlen : l.length < 2 ^ 32) (hover : ¬ CursorStays l.length q)
    (hdvd : q ∣ query.cursor.toNat) (hc : query.cursor.toNat < 2 ^ 31)
    (hin : query.cursor.toNat < l.length) {fuel : Nat} {ret : Int} {pages : List (List Blob)}
    (hrun : queryPages l fuel query = some (ret, pages)) :
    query.cursor.toNat + pages.flatten.length < l.length := by
  induction fuel generalizing query ret pages with
  | zero => exact nomatch hrun
  | succ fuel ih =>
    by_cases hle : query.cursor.toNat + q ≤ 2 ^ 31
    · obtain ⟨hlt, hlt'⟩ := next_lt_of_not_stays hover hq hpow hdvd hle
      have hfull : (query.page l).length = q := by
        rw [h.page_good hq hc (.inl hle), List.length_take, List.length_drop]
        omega
      obtain ⟨query', h', hcursor, hmore⟩ := h.more hl hfull
      have hnext : query'.cursor.toNat = query.cursor.toNat + q := by
        rw [hcursor, BitVec.toNat_add, h.cnt_eq]
        omega
      rw [hmore] at hrun
      obtain ⟨⟨ret', pages'⟩, hrest, heq⟩ := Option.map_eq_some_iff.mp hrun
      cases heq
      have hloses := ih h' (by rw [hnext]; exact Nat.dvd_add hdvd (Nat.dvd_refl q)) (by omega)
        (by omega) hrest
      simp only [List.flatten_cons, List.length_append, List.length_reverse, hfull]
      omega
    · have hne : query.cursor.toNat + q ≠ 2 ^ 32 := by
        intro heq
        have hwide : q ∣ 2 ^ 32 := heq ▸ Nat.dvd_add hdvd (Nat.dvd_refl q)
        obtain ⟨a, ha, hpow'⟩ := (Nat.dvd_prime_pow Nat.prime_two).mp hwide
        have hcnt := h.cnt_eq
        rcases Nat.lt_or_ge a 32 with hlt32 | hge
        · exact hpow (hpow' ▸ Nat.pow_dvd_pow 2 (Nat.le_of_lt_succ hlt32))
        · have h32 : a = 32 := by omega
          rw [h32] at hpow'
          omega
      obtain ⟨hlast, hloses⟩ := h.page_short hq hc (by omega) hne hin hlen
      rw [h.last hl hlast] at hrun
      cases hrun
      rw [List.flatten_singleton, List.length_reverse]
      exact hloses

end Run

/-- A list that is not empty is read as a whole, and its last record does not
fit. -/
theorem wbQueryEntry_long {l : List Blob} {query : WbQuery} (hkind : query.byKey = false)
    (hcursor : query.cursor = 0) (hcnt : query.queryCnt = 0)
    (hl : ∀ value ∈ l, query.bufferLen.toNat < value.length) (hne : l ≠ []) (fuel : Nat) :
    ∃ query', wbQueryEntry fuel l query = some (-1, query') := by
  by_cases hstart : query.keyLen = 0 ∨ query.bufferLen = 0
  · exact ⟨_, by simp only [wbQueryEntry]; rw [if_pos hstart]⟩
  have hall : lrange l 0 (-1) = l := by
    have hlast : ¬ ((0 : Int) < 0) := by omega
    have hneg : ((-1 : Int) < 0) := by omega
    have hcount : ((-1 : Int) + l.length + 1 - max 0 0).toNat = l.length := by omega
    simp only [lrange, if_neg hlast, if_pos hneg, hcount, Int.toNat_zero, List.drop_zero,
      List.take_length]
  have hback : l.reverse ≠ [] := fun h => hne (List.reverse_eq_nil_iff.mp h)
  obtain ⟨value, values, hrev⟩ := List.exists_cons_of_ne_nil hback
  have hv : value ∈ l := by
    rw [← List.mem_reverse, hrev]
    exact List.mem_cons_self ..
  have hreply : lrangeBinary l query.cursor.toInt (query.cursor + query.queryCnt - 1#32).toInt
      query.buffer query.bufferLen.toNat = ⟨-1, query.buffer, 0, 0⟩ := by
    have hbounds : query.cursor.toInt = 0 ∧
        (query.cursor + query.queryCnt - 1#32).toInt = -1 := by
      rw [hcursor, hcnt]
      decide
    simp only [lrangeBinary, hbounds.1, hbounds.2, hall]
    rw [hrev, copyElements_long (hl value hv)]
  have hkind' : ¬ query.byKey = true := by
    rw [hkind]
    decide
  simp only [wbQueryEntry]
  rw [if_neg hstart, if_neg hkind']
  rw [WbQuery.queryCnt] at hreply
  simp only [wbQueryPage, WbQuery.queryCnt, hreply]
  split <;> exact ⟨_, rfl⟩

/-- A page of no records never is the last one of an empty list. -/
theorem queryPages_nil {query : WbQuery} (hkind : query.byKey = false) (hkey : query.keyLen ≠ 0)
    (hbuf : query.bufferLen ≠ 0) (hcnt : query.queryCnt = 0) (fuel : Nat) :
    queryPages [] fuel query = none := by
  induction fuel generalizing query with
  | zero => rfl
  | succ fuel ih =>
    have hstart : ¬ (query.keyLen = 0 ∨ query.bufferLen = 0) := by
      rintro (h | h)
      · exact hkey h
      · exact hbuf h
    have hkind' : ¬ query.byKey = true := by
      rw [hkind]
      decide
    have hentry : wbQueryEntry fuel [] query = some (0, { query with
        validCnt := 0, cursor := query.cursor + 0, isEnd := false }) := by
      simp only [wbQueryEntry]
      rw [if_neg hstart, if_neg hkind']
      rw [WbQuery.queryCnt] at hcnt
      simp only [wbQueryPage, WbQuery.queryCnt, hcnt, lrangeBinary, lrange_nil]
      rfl
    simp only [queryPages, hentry]
    rw [ih (by exact hkind) (by exact hkey) (by exact hbuf) (by exact hcnt)]
    rfl

/-- The calls read a list, or end with an error, exactly when the cursor stays
among the signed numbers, or the error has something to come from. -/
theorem pagesThrough_iff {l : List Blob} {query : WbQuery} (hkind : query.byKey = false)
    (hkey : query.keyLen ≠ 0) (hstart : query.cursor = 0) (hrec : query.recordLen < 2 ^ 32)
    (hl : ∀ value ∈ l, value.length = query.recordLen) (hlen : l.length < 2 ^ 32) :
    PagesThrough l query ↔ PagesFit l query := by
  have hpos : 0 < query.keyLen.toNat := Nat.pos_of_ne_zero fun h =>
    hkey (BitVec.eq_of_toNat_eq h)
  have hsum : (query.keyLen + query.dataLen).toNat = query.recordLen := by
    rw [BitVec.toNat_add]
    exact Nat.mod_eq_of_lt hrec
  have hrecord : 0 < query.recordLen := Nat.add_pos_left hpos _
  have hcnt : query.queryCnt.toNat = query.bufferLen.toNat / query.recordLen := by
    rw [WbQuery.queryCnt, BitVec.toNat_udiv, hsum]
  have hcursor : query.cursor.toNat = 0 := by
    rw [hstart]
    rfl
  rw [PagesThrough, PagesFit]
  split
  · next hfit =>
    have hq : 0 < query.bufferLen.toNat / query.recordLen := Nat.div_pos hfit hrecord
    have hbuf : query.bufferLen ≠ 0 := by
      intro h
      rw [h] at hfit
      exact absurd (Nat.lt_of_lt_of_le hrecord hfit) (by decide)
    have hpaging : Paging query.recordLen (query.bufferLen.toNat / query.recordLen) query :=
      ⟨hkind, hkey, hbuf, hsum, hcnt, Nat.div_mul_le_self ..⟩
    have hdvd : query.bufferLen.toNat / query.recordLen ∣ query.cursor.toNat := by
      rw [hcursor]
      exact Nat.dvd_zero _
    constructor
    · rintro ⟨fuel, pages, hrun, hperm⟩
      by_contra hover
      have hne : 0 < l.length := Nat.pos_of_ne_zero fun h => hover (.inl (by simp [h]))
      by_cases hpow : query.bufferLen.toNat / query.recordLen ∣ 2 ^ 31
      · have hbig := length_of_not_stays hover hpow
        exact nomatch (hpaging.runs hl hq hpow hbig hdvd fuel).symm.trans hrun
      · have hloses := hpaging.loses hl hq hpow hlen hover hdvd (by omega) (by omega) hrun
        have heq := hperm.length_eq
        omega
    · intro hstays
      obtain ⟨fuel, pages, hrun, hperm⟩ := hpaging.reads hl hq hstays
        (by rw [hcursor, Nat.zero_add]) hdvd
      rw [hcursor, List.drop_zero] at hperm
      exact ⟨fuel, pages, hrun, hperm⟩
  · next hshort =>
    have hzero : query.queryCnt = 0 := by
      apply BitVec.eq_of_toNat_eq
      rw [hcnt, Nat.div_eq_of_lt (Nat.lt_of_not_le hshort)]
      rfl
    constructor
    · rintro ⟨fuel, ret, pages, hrun, -⟩
      by_contra hnot
      obtain ⟨hbuf, hnil⟩ := not_or.mp hnot
      obtain rfl : l = [] := not_not.mp hnil
      exact nomatch (queryPages_nil hkind hkey hbuf hzero fuel).symm.trans hrun
    · rintro (hbuf | hne)
      · refine ⟨1, -1, [], ?_, by decide⟩
        simp only [queryPages, wbQueryEntry]
        rw [if_pos (.inr hbuf)]
        rfl
      · obtain ⟨query', hentry⟩ := wbQueryEntry_long hkind hstart hzero
          (fun value hv => by rw [hl value hv]; omega) hne 0
        refine ⟨1, -1, [], ?_, by decide⟩
        simp only [queryPages, hentry]
        rfl

/-- A query from the start of a list of records of four bytes of key and four
of data. -/
def pageQuery (bufferLen : BitVec 32) : WbQuery :=
  { versionQuery with byKey := false, bufferLen := bufferLen }

theorem pagesThrough_three : PagesThrough [[1, 0, 0, 0, 1, 0, 0, 0], [2, 0, 0, 0, 1, 0, 0, 0],
    [3, 0, 0, 0, 1, 0, 0, 0]] (pageQuery 16) :=
  (pagesThrough_iff rfl (by decide) rfl (by decide) (by decide) (by decide)).mpr
    (.inr ⟨by decide, by decide⟩)

/-- With a buffer shorter than a record an empty list is never left. -/
theorem pagesThrough_not_always : ¬ ∀ (l : List Blob) (query : WbQuery), query.byKey = false →
    query.keyLen ≠ 0 → query.cursor = 0 → query.recordLen < 2 ^ 32 →
    (∀ value ∈ l, value.length = query.recordLen) → l.length < 2 ^ 32 → PagesThrough l query := by
  intro h
  have hends : ∃ fuel ret pages, queryPages [] fuel (pageQuery 4) = some (ret, pages) ∧ ret ≠ 0 :=
    h [] (pageQuery 4) rfl (by decide) rfl (by decide) (fun _ hv => nomatch hv) (by decide)
  obtain ⟨fuel, ret, pages, hrun, -⟩ := hends
  have hruns := queryPages_nil (by rfl : (pageQuery 4).byKey = false) (by decide) (by decide)
    (by decide) fuel
  exact nomatch hruns.symm.trans hrun

end CtcSai
