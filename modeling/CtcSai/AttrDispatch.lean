/-
# `AttrDispatch` — the attribute tables, ctc_sai.c

Every get and set looks its attribute up in a table of the module.  The scan
has no length: it ends at an entry with the id CTC_SAI_FUNC_ATTR_END_ID, and
four of the tables have none.  A read behind the last entry is `none`.
-/
import CtcSai.Saitypes

namespace CtcSai

/-- CTC_SAI_FUNC_ATTR_END_ID. -/
def funcAttrEndId : BitVec 32 := 0xFFFFFFFF

/-- The loop of `_ctc_sai_find_attribute_fn` over the ids of the entries; the
index is what it writes. -/
def findAttributeLoop (id : BitVec 32) : List (BitVec 32) → Nat → Option (Status × Option Nat)
  | [], _ => none
  | e :: rest, loop =>
    if e = funcAttrEndId then some (.itemNotFound, none)
    else if id = e then some (.success, some loop)
    else findAttributeLoop id rest (loop + 1)

/-- `_ctc_sai_find_attribute_fn`. -/
def findAttributeFn (table : List (BitVec 32)) (id : BitVec 32) : Option (Status × Option Nat) :=
  findAttributeLoop id table 0

/-- The tables, `acl_table_group_attr_fn_entries` to `y1731_rmep_attr_fn_entries`. -/
inductive AttrTable where
  | aclTableGroup | aclTableGroupMember | aclTable | aclEntry | aclRange | aclCounter | bfd
  | brgPort | brg | bufferProfile | ingressPg | counter | debugCounter | es | fdb | hostif
  | hostifTable | hostifTrapGroup | hostifTrap | hostifUserDefinedTrap | isolationGroup
  | isolationGroupMember | lag | lagMember | hash | l2mcGroup | l2mcMember | l2mc | mcastFdb
  | ipmcGroup | ipmcMember | rpfGroup | rpfMember | ipmc | mirrSession | mpls | nat | neighbor
  | nextHop | nhGrp | nhGrpMember | npm | policer | port | ptp | qosMap | queue | route | rif
  | samplepacket | scheduler | schedulerGroup | stp | stpPort | switch | synce | tam | mathFunc
  | tamReport | tamEventThreshold | tamTelType | tamTransport | tamTelemetry | tamCollector
  | tamEventAction | tamEvent | tunnelMapEntry | tunnelMap | tunnel | tunnelTerm | twamp
  | udfGroup | udfMatch | udf | vr | vlan | vlanMember | wred | y1731Meg | y1731Session
  | y1731Rmep
deriving DecidableEq, Repr

namespace AttrTable

/-- The ids of the entries in their order, as runs of so many from a first one
on. -/
def runs : AttrTable → List (Nat × Nat)
  | .counter | .es | .mathFunc => [(0, 1)]
  | .aclRange | .isolationGroup | .isolationGroupMember | .hash | .l2mcGroup | .l2mc
  | .ipmcGroup | .ipmcMember | .rpfGroup | .rpfMember | .qosMap | .tamEventAction
  | .tunnelMap => [(0, 2)]
  | .aclTableGroupMember | .hostifTrapGroup | .hostifUserDefinedTrap | .l2mcMember | .mcastFdb
  | .ipmc | .samplepacket | .stpPort | .tamReport | .udfGroup | .vlanMember | .y1731Meg => [(0, 3)]
  | .aclTableGroup | .lagMember | .mpls | .tamTelemetry | .udfMatch | .y1731Rmep => [(0, 4)]
  | .aclCounter | .debugCounter | .hostifTable | .nhGrp | .tamTransport | .tamEvent | .udf => [(0, 5)]
  | .hostif | .hostifTrap | .neighbor | .nhGrpMember | .route | .tamEventThreshold
  | .tunnelTerm | .vr => [(0, 6)]
  | .scheduler | .schedulerGroup | .tamCollector => [(0, 7)]
  | .bufferProfile | .lag => [(0, 8)]
  | .queue => [(0, 9)]
  | .brg => [(0, 10)]
  | .policer => [(0, 11)]
  | .nat | .tunnelMapEntry | .wred => [(0, 14)]
  | .y1731Session => [(0, 21)]
  | .tunnel => [(0, 29)]
  | .bfd => [(0, 51)]
  | .switch => [(0, 161)]
  | .aclTable => [(0, 4), (0x1000, 6), (0x1008, 45), (0x1039, 1), (0x1036, 4), (0x1039, 25),
    (0x1150, 7)]
  | .aclEntry => [(0, 3), (0x1000, 23), (0x1019, 1), (0x101b, 1), (0x101d, 51), (0x114e, 3),
    (0x2000, 1), (0x2002, 30)]
  | .brgPort => [(0, 2), (3, 8), (2, 1), (11, 4)]
  | .ingressPg => [(1, 1), (3, 1), (0, 1)]
  | .fdb => [(0, 1), (3, 1), (1, 1), (5, 1), (4, 1), (2, 1), (6, 1)]
  | .mirrSession => [(0, 4), (5, 15), (4, 1), (20, 2)]
  | .nextHop => [(0, 4), (6, 8)]
  | .npm => [(1, 10), (12, 5)]
  | .port => [(0, 92), (97, 2), (92, 1), (99, 3), (93, 4)]
  | .ptp => [(0, 4), (8, 1), (7, 1), (4, 3), (9, 2)]
  | .rif => [(0, 6), (7, 9), (0x10000001, 1), (6, 1), (17, 2)]
  | .stp => [(0, 1), (2, 1), (1, 1)]
  | .synce => [(1, 2)]
  | .tam => [(0, 2), (3, 1)]
  | .tamTelType => [(0, 1), (2, 14)]
  | .twamp => [(1, 20)]
  | .vlan => [(0, 5), (11, 4), (5, 2), (16, 1), (18, 1), (0x10000001, 2), (20, 1)]

/-- The table ends with CTC_SAI_FUNC_ATTR_END_ID. -/
def ended : AttrTable → Bool
  | .counter | .debugCounter | .npm | .twamp => false
  | _ => true

variable (t : AttrTable)

def ids : List (BitVec 32) :=
  t.runs.flatMap fun r => (List.range r.2).map fun i => BitVec.ofNat 32 (r.1 + i)

def entries : List (BitVec 32) := t.ids ++ if t.ended then [funcAttrEndId] else []

/-- The scan ends within the table, at the entry of the id or without one. -/
def Dispatches (id : BitVec 32) : Prop :=
  (∃ i, findAttributeFn t.entries id = some (.success, some i) ∧ t.entries[i]? = some id) ∨
    (findAttributeFn t.entries id = some (.itemNotFound, none) ∧ id ∉ t.ids)

theorem runs_lt : ∀ r ∈ t.runs, r.1 + r.2 < 2 ^ 32 := by
  cases t <;> decide

theorem end_notMem : funcAttrEndId ∉ t.ids := by
  intro h
  obtain ⟨r, hr, hmem⟩ := List.mem_flatMap.mp h
  obtain ⟨i, hi, he⟩ := List.mem_map.mp hmem
  have hlt := t.runs_lt r hr
  have hrange := List.mem_range.mp hi
  have hval := congrArg BitVec.toNat he
  rw [BitVec.toNat_ofNat, Nat.mod_eq_of_lt (by omega)] at hval
  have hend : funcAttrEndId.toNat = 2 ^ 32 - 1 := rfl
  omega

end AttrTable

section Scan

variable {id : BitVec 32} {ids : List (BitVec 32)}

theorem findAttributeLoop_mem (hend : funcAttrEndId ∉ ids) (h : id ∈ ids)
    (tail : List (BitVec 32)) (loop : Nat) :
    ∃ i, findAttributeLoop id (ids ++ tail) loop = some (.success, some (loop + i)) ∧
      (ids ++ tail)[i]? = some id := by
  induction ids generalizing loop with
  | nil => cases h
  | cons e rest ih =>
    obtain ⟨hne, hend⟩ := List.ne_and_not_mem_of_not_mem_cons hend
    rw [List.cons_append, findAttributeLoop, if_neg (Ne.symm hne)]
    by_cases he : id = e
    · exact ⟨0, if_pos he, by rw [he]; rfl⟩
    · obtain ⟨i, hloop, hi⟩ := ih hend (List.mem_of_ne_of_mem he h) (loop + 1)
      refine ⟨i + 1, ?_, hi⟩
      rw [if_neg he, hloop, Nat.add_assoc, Nat.add_comm 1]

theorem findAttributeLoop_notMem (hend : funcAttrEndId ∉ ids) (h : id ∉ ids)
    (tail : List (BitVec 32)) (loop : Nat) :
    findAttributeLoop id (ids ++ tail) loop = findAttributeLoop id tail (loop + ids.length) := by
  induction ids generalizing loop with
  | nil => rfl
  | cons e rest ih =>
    obtain ⟨hne, hend⟩ := List.ne_and_not_mem_of_not_mem_cons hend
    obtain ⟨he, h⟩ := List.ne_and_not_mem_of_not_mem_cons h
    rw [List.cons_append, findAttributeLoop, if_neg (Ne.symm hne), if_neg he, ih hend h,
      List.length_cons, Nat.add_assoc, Nat.add_comm 1]

end Scan

/-- An id is looked up within its table where the table has an end or the id
an entry. -/
theorem dispatches_iff (t : AttrTable) (id : BitVec 32) :
    t.Dispatches id ↔ t.ended = true ∨ id ∈ t.ids := by
  by_cases h : id ∈ t.ids
  · refine iff_of_true (.inl ?_) (.inr h)
    obtain ⟨i, hloop, hi⟩ := findAttributeLoop_mem t.end_notMem h
      (if t.ended then [funcAttrEndId] else []) 0
    rw [Nat.zero_add] at hloop
    exact ⟨i, hloop, hi⟩
  have hloop := findAttributeLoop_notMem t.end_notMem h (if t.ended then [funcAttrEndId] else []) 0
  rw [AttrTable.Dispatches, AttrTable.entries, findAttributeFn, hloop]
  cases t.ended with
  | true => simp [findAttributeLoop, h]
  | false => simp [findAttributeLoop, h]

/-- COUNTER has one attribute and no end: the scan for another reads on. -/
theorem dispatches_not_always : ¬ ∀ (t : AttrTable) (id : BitVec 32), t.Dispatches id := by
  intro h
  have hpast : findAttributeFn AttrTable.counter.entries 1 = none := by decide
  rcases h .counter 1 with ⟨i, hfound, -⟩ | ⟨hmissed, -⟩
  · rw [hpast] at hfound
    cases hfound
  · rw [hpast] at hmissed
    cases hmissed

end CtcSai
