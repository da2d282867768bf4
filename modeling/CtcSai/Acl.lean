/-
# `Acl` — ctc_sai_acl.c, the records and the two words built from them

Tables hold entries, groups hold tables, and both are bound to ports, LAGs, VLANs
and the switch.  Each table has one SDK group at every place where it is bound, each
entry one SDK rule: the adapter finds them again by a 64-bit key, and the SDK orders
the rules by a 32-bit priority.  Both words are packed from fields by shifts.
-/
import CtcSai.Saitypes
import CtcSai.Lib.IdPool

namespace CtcSai

open IdPool

/-! ## Records -/

/-- `sai_acl_stage_t`. -/
inductive AclStage where
  | ingress | egress
deriving DecidableEq, Repr

/-- `sai_acl_bind_point_type_t`. -/
inductive BindPointType where
  | port | lag | vlan | routerInterface | switch
deriving DecidableEq, Repr

def BindPointType.toNat : BindPointType → Nat
  | .port => 0
  | .lag => 1
  | .vlan => 2
  | .routerInterface => 3
  | .switch => 4

theorem BindPointType.toNat_le (t : BindPointType) : t.toNat ≤ 4 := by
  cases t <;> decide

theorem BindPointType.toNat_inj {t u : BindPointType} : t.toNat = u.toNat ↔ t = u := by
  cases t <;> cases u <;> simp [toNat]

/-- SAI_ACL_TABLE_GROUP_TYPE_SEQUENTIAL and _PARALLEL. -/
def groupTypeSequential : BitVec 8 := 0
def groupTypeParallel : BitVec 8 := 1

/-- `ctc_sai_acl_bind_point_info_t`. -/
structure BindPointInfo where
  bindType : BindPointType
  bindIndex : Oid
deriving DecidableEq, Repr

/-- `ctc_sai_acl_group_member_t`. -/
structure AclGroupMember where
  tableId : Oid
  membersPrio : BitVec 16
deriving DecidableEq, Repr

/-- `ctc_sai_acl_group_t`. -/
structure AclGroup where
  groupStage : AclStage
  groupType : BitVec 8
  bindPointList : BitVec 8
  lookupType : BitVec 32
  memberList : List AclGroupMember
  bindPoints : List BindPointInfo
deriving DecidableEq, Repr

/-- `ctc_sai_acl_table_member_t`. -/
structure AclTableMember where
  entryId : Oid
  priority : BitVec 16
deriving DecidableEq, Repr

/-- `ctc_sai_acl_table_t`; the match fields are the bits of `table_key_bmp`. -/
structure AclTable where
  tableStage : AclStage
  bindPointList : BitVec 8
  tableSize : BitVec 32
  lookupType : BitVec 32
  createdEntryCount : BitVec 32
  tableKeyBmp : BitVec 352
  rangeTypeBmp : BitVec 8
  entryList : List AclTableMember
  groupList : List Oid
  bindPoints : List BindPointInfo
deriving DecidableEq, Repr

/-- `ctc_sai_acl_table_group_member_t`. -/
structure AclTableGroupMember where
  groupId : Oid
  tableId : Oid
  memberPriority : BitVec 32
deriving DecidableEq, Repr

/-! ## Id pools -/

/-- The pools of object numbers, as `ctc_sai_db_init` sizes them. -/
structure AclPools where
  groupIndices : Allocator
  tableIndices : Allocator
  entryIndices : Allocator
  groupMemberIndices : Allocator
  rangeIndices : Allocator
  counterIndices : Allocator
  groupIndices_range : groupIndices.lo = 1 ∧ groupIndices.size = 1024
  tableIndices_range : tableIndices.lo = 1 ∧ tableIndices.size = 32 * 1024
  entryIndices_range : entryIndices.lo = 1 ∧ entryIndices.size = 64 * 1024
  groupMemberIndices_range : groupMemberIndices.lo = 1 ∧ groupMemberIndices.size = 1024
  rangeIndices_range : rangeIndices.lo = 1 ∧ rangeIndices.size = 12
  counterIndices_range : counterIndices.lo = 1 ∧ counterIndices.size = 1024

/-- Pools that hand out the lowest free number. -/
def AclPools.firstFit : AclPools where
  groupIndices := .firstFit 1 1024
  tableIndices := .firstFit 1 (32 * 1024)
  entryIndices := .firstFit 1 (64 * 1024)
  groupMemberIndices := .firstFit 1 1024
  rangeIndices := .firstFit 1 12
  counterIndices := .firstFit 1 1024
  groupIndices_range := ⟨rfl, rfl⟩
  tableIndices_range := ⟨rfl, rfl⟩
  entryIndices_range := ⟨rfl, rfl⟩
  groupMemberIndices_range := ⟨rfl, rfl⟩
  rangeIndices_range := ⟨rfl, rfl⟩
  counterIndices_range := ⟨rfl, rfl⟩

/-! ## The keys of SDK groups and rules -/

/-- `hw_table_id`: only the type is widened before it is shifted. -/
def hwTableId (bindPointType : BindPointType) (bindPointValue tableIndex : BitVec 32) : BitVec 64 :=
  BitVec.ofNat 64 bindPointType.toNat <<< 60 ||| (bindPointValue <<< 28).setWidth 64 |||
    tableIndex.setWidth 64

/-- `hw_entry_id`. -/
def hwEntryId (bindPointType : BindPointType) (bindPointValue entryIndex : BitVec 32) : BitVec 64 :=
  1#64 <<< 63 ||| BitVec.ofNat 64 bindPointType.toNat <<< 60 |||
    (bindPointValue <<< 28).setWidth 64 ||| entryIndex.setWidth 64

/-! ## Rule priorities -/

/-- ACL_MIN_ENTRY_PRIORITY, ACL_MAX_ENTRY_PRIORITY and ACL_DEFAULT_ENTRY_PRIORITY. -/
def aclMinEntryPriority : BitVec 32 := 1
def aclMaxEntryPriority : BitVec 32 := 65535
def aclDefaultEntryPriority : BitVec 32 := 1

/-- The numbers of TCAM blocks a group may use. -/
def aclIngressSequentTcamBlockNum : Nat := 2
def aclIngressParaellTcamBlockNum : Nat := 4
def aclEgressParaellTcamBlockNum : Nat := 3

/-- `_ctc_sai_acl_get_entry_combined_priority`; `old` is what the caller's variable
held, which a group of neither type leaves there. -/
def getEntryCombinedPriority (groupType : BitVec 8) (groupMemPriority entryPriority : BitVec 16)
    (pipelineStage : BitVec 16) (tableId old : BitVec 32) : BitVec 32 :=
  if groupType = groupTypeSequential then
    (4#32 - pipelineStage.setWidth 32) <<< 28 ||| groupMemPriority.setWidth 32 <<< 16 |||
      entryPriority.setWidth 32
  else if groupType = groupTypeParallel then
    0x80000000#32 ||| (4#32 - pipelineStage.setWidth 32) <<< 28 ||| tableId <<< 16 |||
      entryPriority.setWidth 32
  else old

/-- `_ctc_sai_acl_mapping_tcam_block_base`. -/
def mappingTcamBlockBase (stage : AclStage) (bindPointType : BindPointType) (groupType : BitVec 8) :
    BitVec 8 :=
  match stage with
  | .ingress =>
    if bindPointType = .switch then 7 else if groupType = groupTypeSequential then 5 else 1
  | .egress => 0

/-- `priority` of `_ctc_sai_acl_sort_member_priority`, in list order. -/
def memberPriorities (g : AclGroup) : List (BitVec 32) :=
  g.memberList.zipIdx.map fun m =>
    if g.groupType = groupTypeSequential then m.1.membersPrio.setWidth 32 else BitVec.ofNat 32 m.2

/-- `_ctc_sai_acl_sort_member_priority`. -/
def sortMemberPriority (g : AclGroup) : List (BitVec 32) :=
  if g.groupType = groupTypeParallel then (memberPriorities g).reverse else memberPriorities g

/-- `member_priority[ii]`; the array is zero behind the members. -/
def memberPriorityAt (g : AclGroup) (ii : Nat) : BitVec 32 := (sortMemberPriority g).getD ii 0

/-- `_ctc_sai_acl_check_member_priority`. -/
def checkMemberPriority (g : AclGroup) (memberPriority : BitVec 32) : Status :=
  if g.groupType = groupTypeSequential then
    match g.groupStage with
    | .ingress =>
      if g.memberList.length = aclIngressSequentTcamBlockNum then .notSupported
      else if aclIngressSequentTcamBlockNum ≤ memberPriority.toNat then .invalidParameter
      else if ∃ m ∈ g.memberList, m.membersPrio.setWidth 32 = memberPriority then
        .invalidParameter
      else .success
    | .egress => .invalidParameter
  else
    match g.groupStage with
    | .ingress =>
      if g.memberList.length = aclIngressParaellTcamBlockNum then .notSupported else .success
    | .egress =>
      if g.memberList.length = aclEgressParaellTcamBlockNum then .notSupported else .success

end CtcSai
