/-
# `AclRules` — ctc_sai_acl.c, the SDK groups and rules of one bind point

A table bound somewhere has one SDK group there, an entry of it one SDK rule, or eight
ids in a row when IN_PORTS is enabled: a rule for each 16-port word that is not empty.
Of the eight only the first is recorded.

A result of `none` stands for a NULL pointer that the code follows.  The answers of the
SDK come in lists that the state carries; behind their ends every call succeeds.
-/
import CtcSai.AclPriority

namespace CtcSai

open KeyedTable IdPool

/-! ## Entries -/

/-- The match fields, by their attribute ids. -/
inductive AclKeyField where
  | srcIpv6 | dstIpv6 | srcIp | dstIp | inPorts | ipv6FlowLabel | ipv6NextHeader
  | aclRangeType | other (id : Nat)
deriving DecidableEq, Repr

/-- A match field: `sai_acl_field_data_t`, the object list for the fields that hold one. -/
structure AclKeyAttr where
  field : AclKeyField
  enable : Bool
  objlist : List Oid
  data : BitVec 128
  mask : BitVec 128
deriving DecidableEq, Repr

/-- The actions, by their attribute ids. -/
inductive AclActionField where
  | counter | other (id : Nat)
deriving DecidableEq, Repr

/-- An action: `sai_acl_action_data_t`. -/
structure AclActionAttr where
  action : AclActionField
  enable : Bool
  oid : Oid
  parameter : BitVec 64
deriving DecidableEq, Repr

/-- `ctc_acl_key_type_t`, the types an entry can get. -/
inductive AclKeyType where
  | mac | macIpv4 | macIpv4Ext | macIpv6 | ipv4 | ipv4Ext | ipv6 | ipv6Ext
deriving DecidableEq, Repr

/-- `ctc_sai_acl_entry_t`; a slot that was never written is not in its list. -/
structure AclEntry where
  tableId : Oid
  priority : BitVec 16
  entryValid : Bool
  keyType : AclKeyType
  keyAttrList : List AclKeyAttr
  actionAttrList : List AclActionAttr
deriving DecidableEq, Repr

def AclEntry.keyAttr (e : AclEntry) (f : AclKeyField) : Option AclKeyAttr :=
  e.keyAttrList.find? (fun a => a.field = f)

/-- IN_PORTS is enabled; a zeroed slot is not. -/
def AclEntry.inPorts (e : AclEntry) : Bool :=
  match e.keyAttr .inPorts with
  | some a => a.enable
  | none => false

/-- How many rule ids the adapter takes for an entry. -/
def AclEntry.copies (e : AclEntry) : Nat := if e.inPorts then 8 else 1

/-- `ctc_sai_acl_range_t`. -/
structure AclRange where
  rangeType : BitVec 8
  rangeMin : BitVec 32
  rangeMax : BitVec 32
  refCnt : BitVec 32
deriving DecidableEq, Repr

/-- `ctc_sai_acl_counter_t`. -/
structure AclCounter where
  tableId : Oid
  enablePktCnt : Bool
  enableByteCnt : Bool
  refCnt : BitVec 32
deriving DecidableEq, Repr

inductive AclEntryAttr where
  | tableId (oid : Oid)
  | priority (n : BitVec 32)
  | adminState (b : Bool)
  | key (a : AclKeyAttr)
  | action (a : AclActionAttr)
deriving DecidableEq, Repr

/-! ## The chip and its SDK -/

/-- `ctc_acl_tcam_lkup_type_t`, the types that decide the key of an entry. -/
inductive TcamLkupType where
  | l2 | l2L3 | l3 | l3Ext | l2L3Ext
deriving DecidableEq, Repr

/-- A rule of the SDK: where it stands, what it matches and does, and at which bind
point; `word` is its 16-port word. -/
structure SdkRule where
  group : BitVec 32
  priority : BitVec 32
  keyType : AclKeyType
  keys : List AclKeyAttr
  actions : List AclActionAttr
  point : Oid
  word : Option (Fin 8)
  installed : Bool
deriving DecidableEq

/-- What stays fixed while the ACL module runs on one chip. -/
structure AclChip extends AclPools where
  sdkGroupIds : Allocator
  sdkEntryIds : Allocator
  sdkGroupIds_range : sdkGroupIds.lo = 1 ∧ sdkGroupIds.size = 0xFFFF0000
  sdkEntryIds_range : sdkEntryIds.lo = 8 ∧ sdkEntryIds.size = 0xFFFFFFFF - 8
  /-- `ctcs_linkagg_get_member_ports`. -/
  lagMemberPorts : BitVec 32 → List (BitVec 32)
  /-- CTC_GLOBAL_PANEL_PORTS, with the global number of the chip. -/
  panelPorts : List (BitVec 32)
  /-- The 16-port word of a port, CTC_MAP_GPORT_TO_LPORT divided by 16. -/
  portWord : Oid → Fin 8
  /-- The number of a lookup type. -/
  lkupType : BitVec 32 → Option TcamLkupType
  /-- CTC_ACL_TCAM_LKUP_TYPE_L2. -/
  lkupTypeL2 : BitVec 32
  /-- `_ctc_sai_acl_mapping_fields_lookup_type` for the fields of some tables. -/
  fieldsLookupType : List AclTable → BitVec 32
  /-- What stands in the first node of a member list where a table has its IN_PORTS bit. -/
  nodeUsesPortBitmap : List AclGroupMember → Bool
  lchip : BitVec 8
  /-- The key type with number zero. -/
  keyTypeZero : AclKeyType
  /-- What the field and action calls of an update make of a rule. -/
  updateRule : AclEntry → AclEntryAttr → SdkRule → SdkRule

/-- A chip of two panel ports without LAGs whose pools hand out the lowest free number. -/
def AclChip.plain : AclChip where
  toAclPools := .firstFit
  sdkGroupIds := .firstFit 1 0xFFFF0000
  sdkEntryIds := .firstFit 8 (0xFFFFFFFF - 8)
  sdkGroupIds_range := ⟨rfl, rfl⟩
  sdkEntryIds_range := ⟨rfl, rfl⟩
  lagMemberPorts _ := []
  panelPorts := [0, 1]
  portWord p := ⟨(p.value.toNat / 16) % 8, Nat.mod_lt _ (by decide)⟩
  lkupType _ := some .l2
  lkupTypeL2 := 1
  fieldsLookupType _ := 1
  nodeUsesPortBitmap _ := false
  lchip := 0
  keyTypeZero := .mac
  updateRule _ _ r := r

/-- `ctc_acl_group_info_t`. -/
structure SdkGroup where
  dir : AclStage
  priority : BitVec 8
deriving DecidableEq

/-- A lookup that the SDK can switch: of a port or of a VLAN, by priority and
direction. -/
inductive LookupReg where
  | port (gport : BitVec 32) (priority : BitVec 8) (dir : AclStage)
  | vlan (vlan : BitVec 32) (priority : BitVec 8) (dir : AclStage)
deriving DecidableEq

/-- `ctc_acl_property_t`, but for what names the lookup. -/
structure AclProperty where
  aclEn : Bool
  tcamLkupType : BitVec 32
  usePortBitmap : Bool
deriving DecidableEq

/-- The SDK: groups, rules and lookups, and what its next calls return. -/
structure AclHw where
  groups : Table (BitVec 32) SdkGroup
  rules : Table (BitVec 32) SdkRule
  lookups : LookupReg → AclProperty
  answers : List CtcE
  /-- The answers of the calls that create groups. -/
  groupAnswers : List CtcE
  /-- The answers of the calls that switch lookups. -/
  lookupAnswers : List CtcE

namespace AclHw

variable (hw : AclHw)

def call : CtcE × AclHw :=
  match hw.answers with
  | [] => (.none, hw)
  | rc :: rest => (rc, { hw with answers := rest })

def attempt (f : AclHw → AclHw) : AclHw :=
  match hw.call with
  | (.none, hw) => f hw
  | (_, hw) => hw

/-- `ctcs_acl_add_entry` with the calls that fill it; an id in use is refused. -/
def addEntry (id : BitVec 32) (rule : SdkRule) : AclHw :=
  match hw.rules.lookup id with
  | some _ => hw
  | none => { hw with rules := hw.rules.insert id rule }

/-- `ctcs_acl_install_entry` and `ctcs_acl_uninstall_entry`. -/
def setInstalled (id : BitVec 32) (b : Bool) : AclHw :=
  match hw.rules.lookup id with
  | some r => { hw with rules := hw.rules.insert id { r with installed := b } }
  | none => hw

/-- `ctcs_acl_remove_entry`. -/
def removeEntry (id : BitVec 32) : AclHw := { hw with rules := hw.rules.erase id }

/-- The next answer of a call that creates a group. -/
def groupCall : CtcE × AclHw :=
  match hw.groupAnswers with
  | [] => (.none, hw)
  | rc :: rest => (rc, { hw with groupAnswers := rest })

/-- `ctcs_acl_create_group`; the SDK's code is its status. -/
def createGroup (id : BitVec 32) (info : SdkGroup) : Status × AclHw :=
  match hw.groupCall with
  | (.none, hw) => (.success, { hw with groups := hw.groups.insert id info })
  | (e, hw) => (e.raw, hw)

/-- `ctcs_acl_destroy_group`. -/
def destroyGroup (id : BitVec 32) : AclHw := { hw with groups := hw.groups.erase id }

end AclHw

/-- An entry at a bind point, which takes rule ids for itself. -/
structure RuleHolder where
  point : Oid
  entry : Oid
deriving DecidableEq, Repr

inductive Deed (K : Type) where
  | take (k : K) (i : Nat)
  | use (k : K) (i : Nat)
  | give (k : K) (i : Nat)
deriving DecidableEq, Repr

/-- The ACL part of the database of one chip, its SDK, and the log of the rule ids that
entries took from the pool, named to the SDK and gave back. -/
structure AclDb (ac : AclChip) where
  groups : Table Oid AclGroup
  tables : Table Oid AclTable
  members : Table Oid AclTableGroupMember
  entries : Table Oid AclEntry
  ranges : Table Oid AclRange
  counters : Table Oid AclCounter
  /-- CTC_SAI_DB_ENTRY_TYPE_ACL_BIND. -/
  bound : Table Oid Oid
  /-- CTC_SAI_DB_ENTRY_TYPE_ACL. -/
  hwIds : Table (BitVec 64) (BitVec 32)
  groupIndices : Pool ac.groupIndices
  tableIndices : Pool ac.tableIndices
  entryIndices : Pool ac.entryIndices
  groupMemberIndices : Pool ac.groupMemberIndices
  rangeIndices : Pool ac.rangeIndices
  counterIndices : Pool ac.counterIndices
  sdkGroupIds : Pool ac.sdkGroupIds
  sdkEntryIds : Pool ac.sdkEntryIds
  hw : AclHw
  calls : List (Deed RuleHolder)

/-- The database of a chip without ACL objects. -/
def AclDb.initial (ac : AclChip) : AclDb ac where
  groups := ∅
  tables := ∅
  members := ∅
  entries := ∅
  ranges := ∅
  counters := ∅
  bound := ∅
  hwIds := ∅
  groupIndices := Pool.empty _
  tableIndices := Pool.empty _
  entryIndices := Pool.empty _
  groupMemberIndices := Pool.empty _
  rangeIndices := Pool.empty _
  counterIndices := Pool.empty _
  sdkGroupIds := Pool.empty _
  sdkEntryIds := Pool.empty _
  hw := ⟨∅, ∅, fun _ => ⟨false, ac.lkupTypeL2, false⟩, [], [], []⟩
  calls := []

variable {ac : AclChip}

/-! ## The keys of a bind point -/

/-- The bind point that the keys are built from. -/
def BindPointInfo.point (o : BindPointInfo) : AclBindPoint := ⟨o.bindType, o.bindIndex.value⟩

/-- `hw_table_id` of a table at a bind point. -/
def BindPointInfo.hwTable (o : BindPointInfo) (tableId : Oid) : BitVec 64 :=
  hwTableId o.bindType o.bindIndex.value tableId.value

/-- `hw_entry_id` of an entry at a bind point. -/
def BindPointInfo.hwEntry (o : BindPointInfo) (entryId : Oid) : BitVec 64 :=
  hwEntryId o.bindType o.bindIndex.value entryId.value

/-! ## Rules -/

/-- The 16-port words of a port list that are not empty, in order. -/
def portWords (ac : AclChip) (ports : List Oid) : List (Fin 8) :=
  (List.finRange 8).filter (fun w => ∃ p ∈ ports, ac.portWord p = w)

/-- The words of an entry; `bmp_count` is their number. -/
def AclEntry.words (ac : AclChip) (e : AclEntry) : List (Fin 8) :=
  match e.keyAttr .inPorts with
  | some a => if a.enable then portWords ac a.objlist else []
  | none => []

/-- The rule that an entry becomes at a bind point, for one of its words. -/
def AclEntry.rule (e : AclEntry) (o : BindPointInfo) (ctcGroupId priority : BitVec 32)
    (word : Option (Fin 8)) : SdkRule :=
  ⟨ctcGroupId, priority, e.keyType, e.keyAttrList.filter (·.enable),
    e.actionAttrList.filter (·.enable), o.bindIndex, word, false⟩

section Rules

variable (db : AclDb ac)

/-- A call of the SDK for a rule id. -/
def AclDb.ruleCall (o : BindPointInfo) (entryId : Oid) (id : BitVec 32)
    (f : AclHw → AclHw) : AclDb ac :=
  { db with
    hw := db.hw.attempt f
    calls := .use ⟨o.bindIndex, entryId⟩ id.toNat :: db.calls }

/-- `ctc_sai_db_alloc_id` gave a rule id. -/
def AclDb.takeRuleId (o : BindPointInfo) (entryId : Oid) (i : Nat) (pool : Pool ac.sdkEntryIds) :
    AclDb ac :=
  { db with sdkEntryIds := pool, calls := .take ⟨o.bindIndex, entryId⟩ i :: db.calls }

/-- `ctc_sai_db_free_id` for a rule id. -/
def AclDb.freeRuleId (o : BindPointInfo) (entryId : Oid) (id : BitVec 32) : AclDb ac :=
  { db with
    sdkEntryIds := db.sdkEntryIds.free id.toNat
    calls := .give ⟨o.bindIndex, entryId⟩ id.toNat :: db.calls }

/-- Uninstall, remove and give back one rule id. -/
def removeCopy (o : BindPointInfo) (entryId : Oid) (id : BitVec 32) : AclDb ac :=
  let db := db.ruleCall o entryId id (fun hw => hw.setInstalled id false)
  let db := db.ruleCall o entryId id (fun hw => hw.removeEntry id)
  db.freeRuleId o entryId id

/-- `_ctc_sai_acl_bind_point_acl_entry_remove`. -/
def bindPointAclEntryRemove (o : BindPointInfo) (entryId : Oid) : Status × AclDb ac :=
  match db.entries.lookup entryId with
  | none => (.itemNotFound, db)
  | some e =>
    match db.hwIds.lookup (o.hwEntry entryId) with
    | none => (.success, db)
    | some id =>
      let db := (List.range e.copies).foldl
        (fun db n => removeCopy db o entryId (id + BitVec.ofNat 32 n)) db
      (.success, { db with hwIds := db.hwIds.erase (o.hwEntry entryId) })

/-- `_ctc_sai_acl_add_acl_entry_to_sdk_usw` without an update: all entries first, then
they are installed. -/
def addAclEntryToSdk (o : BindPointInfo) (ctcGroupId : BitVec 32) (entryId : Oid)
    (ctcEntryId priority : BitVec 32) (e : AclEntry) : AclDb ac :=
  let words := e.words ac
  -- the first copy is there also when there is no word
  let copies := if e.inPorts then max 1 words.length else 1
  let db := (List.range copies).foldl (fun db n =>
    let id := ctcEntryId + BitVec.ofNat 32 n
    db.ruleCall o entryId id (fun hw => hw.addEntry id (e.rule o ctcGroupId priority words[n]?))) db
  if e.entryValid then
    (List.range copies).foldl (fun db n =>
      let id := ctcEntryId + BitVec.ofNat 32 n
      db.ruleCall o entryId id (fun hw => hw.setInstalled id true)) db
  else db

/-- The further ids of an entry with IN_PORTS, whose numbers are not looked at, and
whether there were enough. -/
def takeFurther (o : BindPointInfo) (entryId : Oid) : Nat → AclDb ac → Bool × AclDb ac
  | 0, db => (true, db)
  | n + 1, db =>
    match db.sdkEntryIds.alloc with
    | none => (false, db)
    | some (i, pool) => takeFurther o entryId n (db.takeRuleId o entryId i pool)

/-- `error1` of `_ctc_sai_acl_bind_point_acl_entry_add`. -/
def freeBlock (o : BindPointInfo) (entryId : Oid) (ctcEntryId : BitVec 32) (e : AclEntry) :
    AclDb ac :=
  let db := if e.inPorts then
      (List.range 7).foldl
        (fun db n => db.freeRuleId o entryId (ctcEntryId + BitVec.ofNat 32 (n + 1))) db
    else db
  db.freeRuleId o entryId ctcEntryId

/-- `_ctc_sai_acl_bind_point_acl_entry_add`. -/
def bindPointAclEntryAdd (o : BindPointInfo) (ctcGroupId : BitVec 32) (entryId : Oid)
    (priority : BitVec 32) : Status × AclDb ac :=
  match db.entries.lookup entryId with
  | none => (.itemNotFound, db)
  | some e =>
    match db.sdkEntryIds.alloc with
    | none => (.insufficientResources, db)
    | some (i, pool) =>
      let ctcEntryId := BitVec.ofNat 32 i
      let db := db.takeRuleId o entryId i pool
      match (if e.inPorts then takeFurther o entryId 7 db else (true, db)) with
      | (false, db) => (.insufficientResources, freeBlock db o entryId ctcEntryId e)
      | (true, db) =>
        let db := addAclEntryToSdk db o ctcGroupId entryId ctcEntryId priority e
        match db.hwIds.lookup (o.hwEntry entryId) with
        | some _ =>
          let db := db.ruleCall o entryId ctcEntryId (fun hw => hw.setInstalled ctcEntryId false)
          let db := db.ruleCall o entryId ctcEntryId (fun hw => hw.removeEntry ctcEntryId)
          (.itemAlreadyExists, freeBlock db o entryId ctcEntryId e)
        | none =>
          (.success, { db with hwIds := db.hwIds.insert (o.hwEntry entryId) ctcEntryId })

/-! ## Groups -/

/-- The rules of a table's entries leave a bind point. -/
def removeEntries (o : BindPointInfo) (entryList : List AclTableMember) : AclDb ac :=
  entryList.foldl (fun db m => (bindPointAclEntryRemove db o m.entryId).2) db

/-- A table leaves a bind point; nothing happens where no group is recorded for it. -/
def removeTableAt (o : BindPointInfo) (tableId : Oid) : Option (AclDb ac) :=
  match db.hwIds.lookup (o.hwTable tableId) with
  | none => some db
  | some gid =>
    match db.tables.lookup tableId with
    | none => none
    | some t =>
      let db := removeEntries db o t.entryList
      some { db with
        hw := db.hw.attempt (fun hw => hw.destroyGroup gid)
        sdkGroupIds := db.sdkGroupIds.free gid.toNat
        hwIds := db.hwIds.erase (o.hwTable tableId) }

/-- Tables leave a bind point one after another. -/
def removeTables (o : BindPointInfo) : List Oid → AclDb ac → Option (AclDb ac)
  | [], db => some db
  | tableId :: rest, db => (removeTableAt db o tableId).bind (removeTables o rest)

/-- `_ctc_sai_acl_bind_point_acl_remove`, which always returns SUCCESS. -/
def bindPointAclRemove (o : BindPointInfo) (object : Oid) : Option (AclDb ac) :=
  if object.type = ObjectType.aclTableGroup.bits then
    match db.groups.lookup object with
    | none => none
    | some g => removeTables o (g.memberList.map (·.tableId)) db
  else if object.type = ObjectType.aclTable.bits then removeTableAt db o object
  else some db

/-- The rules of a table's entries come to a bind point; the first that fails ends it. -/
def addEntries (o : BindPointInfo) (ctcGroupId : BitVec 32) (priority : BitVec 16 → BitVec 32) :
    List AclTableMember → AclDb ac → Status × AclDb ac
  | [], db => (.success, db)
  | m :: rest, db =>
    match bindPointAclEntryAdd db o ctcGroupId m.entryId (priority m.priority) with
    | (.success, db) => addEntries o ctcGroupId priority rest db
    | r => r

/-- A table comes to a bind point: its SDK group, the record of it, its rules. -/
def addTableAt (o : BindPointInfo) (tableId : Oid) (info : SdkGroup)
    (priority : BitVec 16 → BitVec 32) : Option (Status × AclDb ac) :=
  match db.sdkGroupIds.alloc with
  | none => some (.insufficientResources, db)
  | some (i, pool) =>
    let db := { db with sdkGroupIds := pool }
    let gid := BitVec.ofNat 32 i
    match db.hw.createGroup gid info with
    | (.success, hw) =>
      let db := { db with hw := hw }
      match db.hwIds.lookup (o.hwTable tableId) with
      | some _ => some (.itemAlreadyExists, db)
      | none =>
        let db := { db with hwIds := db.hwIds.insert (o.hwTable tableId) gid }
        match db.tables.lookup tableId with
        | none => none
        | some t => some (addEntries o gid priority t.entryList db)
    | (st, hw) => some (st, { db with hw := hw })

/-- The members of a group from number `ii` on come to a bind point. -/
def addMembers (o : BindPointInfo) (g : AclGroup) : List AclGroupMember → Nat → AclDb ac →
    Option (Status × AclDb ac)
  | [], _, db => some (.success, db)
  | m :: rest, ii, db =>
    let blockBase := mappingTcamBlockBase g.groupStage o.bindType g.groupType
    let blockPriority := if g.groupType = groupTypeParallel then
        blockBase + (memberPriorityAt g ii).setWidth 8
      else blockBase
    match addTableAt db o m.tableId ⟨g.groupStage, blockPriority⟩
        (fun p => bindPriority (.member g ii) o.point m.tableId.value p 0) with
    | some (.success, db) => addMembers o g rest (ii + 1) db
    | r => r

/-- The rules of a bound object come to a bind point, before anything is undone. -/
def addObject (o : BindPointInfo) (object : Oid) : Option (Status × AclDb ac) :=
  if object.type = ObjectType.aclTableGroup.bits then
    match db.groups.lookup object with
    | none => none
    | some g => addMembers o g g.memberList 0 db
  else if object.type = ObjectType.aclTable.bits then
    match db.tables.lookup object with
    | none => none
    | some t =>
      addTableAt db o object
        ⟨t.tableStage, mappingTcamBlockBase t.tableStage o.bindType groupTypeSequential⟩
        (fun p => bindPriority (.table t.tableStage) o.point object.value p 0)
  else some (.success, db)

/-- `_ctc_sai_acl_bind_point_acl_add`: a failure removes the object from the bind point. -/
def bindPointAclAdd (o : BindPointInfo) (object : Oid) : Option (Status × AclDb ac) :=
  match addObject db o object with
  | some (.success, db) => some (.success, db)
  | some (st, db) => (bindPointAclRemove db o object).map (fun db => (st, db))
  | none => none

end Rules

end CtcSai
