/-
# `AclObjects` — ctc_sai_acl.c, tables, groups, ranges and counters

Creates and removals of the objects that entries and bindings are made of.  A create
returns its status and what it wrote to the caller's object id.

A result of `none` stands for a NULL pointer that the code follows, or for a loop that
never ends.
-/
import CtcSai.AclBind

namespace CtcSai

variable {ac : AclChip}

/-! ## Attributes -/

/-- The attributes of a table; a match field comes with its number from
SAI_ACL_TABLE_ATTR_FIELD_START on. -/
inductive AclTableAttr where
  | stage (v : BitVec 32)
  | bindPointTypeList (l : List (BitVec 32))
  | size (n : BitVec 32)
  | field (n : Nat) (booldata : Bool) (objlist : List Oid)
deriving DecidableEq, Repr

namespace AclTableAttr

def stage? : AclTableAttr → Option (BitVec 32)
  | .stage v => some v
  | _ => none

def bindPointTypeList? : AclTableAttr → Option (List (BitVec 32))
  | .bindPointTypeList l => some l
  | _ => none

def size? : AclTableAttr → Option (BitVec 32)
  | .size n => some n
  | _ => none

def field? (n : Nat) : AclTableAttr → Option (Bool × List Oid)
  | .field m b l => if m = n then some (b, l) else none
  | _ => none

end AclTableAttr

inductive AclGroupAttr where
  | type (v : BitVec 32)
  | stage (v : BitVec 32)
  | bindPointTypeList (l : List (BitVec 32))
deriving DecidableEq, Repr

namespace AclGroupAttr

def type? : AclGroupAttr → Option (BitVec 32)
  | .type v => some v
  | _ => none

def stage? : AclGroupAttr → Option (BitVec 32)
  | .stage v => some v
  | _ => none

def bindPointTypeList? : AclGroupAttr → Option (List (BitVec 32))
  | .bindPointTypeList l => some l
  | _ => none

end AclGroupAttr

inductive AclRangeAttr where
  | type (v : BitVec 32)
  | limit (min max : BitVec 32)
deriving DecidableEq, Repr

namespace AclRangeAttr

def type? : AclRangeAttr → Option (BitVec 32)
  | .type v => some v
  | _ => none

def limit? : AclRangeAttr → Option (BitVec 32 × BitVec 32)
  | .limit min max => some (min, max)
  | _ => none

end AclRangeAttr

inductive AclCounterAttr where
  | tableId (oid : Oid)
  | enablePacketCount (b : Bool)
  | enableByteCount (b : Bool)
  | packets (n : BitVec 64)
  | bytes (n : BitVec 64)
deriving DecidableEq, Repr

namespace AclCounterAttr

def tableId? : AclCounterAttr → Option Oid
  | .tableId oid => some oid
  | _ => none

def enablePacketCount? : AclCounterAttr → Option Bool
  | .enablePacketCount b => some b
  | _ => none

def enableByteCount? : AclCounterAttr → Option Bool
  | .enableByteCount b => some b
  | _ => none

end AclCounterAttr

/-- SAI_ACL_STAGE_INGRESS and _EGRESS. -/
def aclStageOf (b : BitVec 8) : Option AclStage :=
  if b = 0 then some .ingress else if b = 1 then some .egress else none

/-- The bits of a list of bind point types, cut to eight. -/
def bindPointBits (l : List (BitVec 32)) : BitVec 8 :=
  l.foldl (fun bmp v => bmp ||| (1#32 <<< v).setWidth 8) 0

/-- ACL_DEFAULT_TABLE_SIZE. -/
def aclDefaultTableSize : BitVec 32 := 128

/-! ## The match fields of a table -/

/-- The number of SAI_ACL_TABLE_ATTR_FIELD_ACL_RANGE_TYPE, and how many fields there are. -/
def aclRangeTypeField : Nat := 337
def aclTableFieldNum : Nat := 340

def keyBit (bmp : BitVec 352) (n : Nat) : Nat := if bmp.getLsbD n then 1 else 0

/-- The fields that tell ports: for what comes in IN_PORTS, IN_PORT and SRC_PORT, for
what goes out OUT_PORTS and OUT_PORT; and the ids of the outer and the inner VLAN. -/
def inPortsField : Nat := 12
def outPortsField : Nat := 13
def inPortField : Nat := 14
def outPortField : Nat := 15
def srcPortField : Nat := 16
def outerVlanIdField : Nat := 17
def innerVlanIdField : Nat := 20

/-- `_ctc_sai_acl_check_master_key_field` from some types on; the count of one type goes
on to the next. -/
def checkMasterFrom (bmp : BitVec 352) (stage : AclStage) (bindPointList : BitVec 8) :
    List BindPointType → Nat → Status
  | [], _ => .success
  | type :: rest, count =>
    if ¬ allows bindPointList type then checkMasterFrom bmp stage bindPointList rest count
    else
      match type with
      | .port =>
        let inCount := count + keyBit bmp inPortsField + keyBit bmp inPortField +
          keyBit bmp srcPortField
        let outCount := keyBit bmp outPortsField + keyBit bmp outPortField
        if stage = .ingress ∧ inCount = 0 then .invalidParameter
        else if stage = .egress ∧ inCount ≠ 0 then .invalidParameter
        else if stage = .ingress ∧ outCount ≠ 0 then .invalidParameter
        else if stage = .egress ∧ 1 < outCount then .invalidParameter
        else checkMasterFrom bmp stage bindPointList rest outCount
      | .lag =>
        let inCount := count + keyBit bmp inPortField + keyBit bmp srcPortField
        let outCount := keyBit bmp outPortField + keyBit bmp outPortsField
        if stage = .ingress ∧ 1 < inCount then .invalidParameter
        else if stage = .egress ∧ inCount ≠ 0 then .invalidParameter
        else if stage = .ingress ∧ outCount ≠ 0 then .invalidParameter
        else if stage = .egress ∧ 1 < outCount then .invalidParameter
        else checkMasterFrom bmp stage bindPointList rest outCount
      | .vlan =>
        let vlanCount := count + keyBit bmp outerVlanIdField + keyBit bmp innerVlanIdField
        if vlanCount = 0 then .invalidParameter
        else checkMasterFrom bmp stage bindPointList rest vlanCount
      | .routerInterface => .notSupported
      | .switch => checkMasterFrom bmp stage bindPointList rest count

/-- `_ctc_sai_acl_check_master_key_field`. -/
def checkMasterKeyField (bmp : BitVec 352) (stage : AclStage) (bindPointList : BitVec 8) :
    Status :=
  checkMasterFrom bmp stage bindPointList [.port, .lag, .vlan, .routerInterface, .switch] 0

/-! ## The master fields of one type and of a list -/

section MasterFields

variable (bmp : BitVec 352) (stage : AclStage) (bindPointList : BitVec 8)

/-- The fields a turn of the loop counts. -/
def portFields : Nat := keyBit bmp inPortField + keyBit bmp srcPortField
def outFields : Nat := keyBit bmp outPortsField + keyBit bmp outPortField
def vlanFields : Nat := keyBit bmp outerVlanIdField + keyBit bmp innerVlanIdField

/-- A list of one type. -/
def onlyType (type : BindPointType) : BitVec 8 := 1#8 <<< type.toNat

/-- On egress the one OUT field of a port or a LAG that is accepted is still counted when the
next type is looked at: a LAG after a port is refused, and a VLAN without a field is accepted. -/
@[mk_iff]
structure OutFieldCarried : Prop where
  egress : stage = .egress
  out : outFields bmp = 1
  ports : portFields bmp = 0
  inPorts : allows bindPointList .port → keyBit bmp inPortsField = 0
  noRouter : ¬ allows bindPointList .routerInterface
  next : allows bindPointList .port ∧ allows bindPointList .lag ∧
      (allows bindPointList .vlan → vlanFields bmp ≠ 0) ∨
    (allows bindPointList .port ↔ ¬ allows bindPointList .lag) ∧
      allows bindPointList .vlan ∧ vlanFields bmp = 0

variable {bmp stage bindPointList}

@[simp]
theorem allows_onlyType {type type' : BindPointType} :
    allows (onlyType type) type' = decide (type = type') := by
  cases type <;> cases type' <;> rfl

/-- What the loop asks for, the count of a port going on to the LAG and the last of the two to
the VLAN. -/
theorem checkMasterKeyField_iff : checkMasterKeyField bmp stage bindPointList = .success ↔
      (allows bindPointList .port →
        (if stage = .ingress then portFields bmp + keyBit bmp inPortsField ≠ 0 ∧ outFields bmp = 0
        else portFields bmp + keyBit bmp inPortsField = 0 ∧ outFields bmp ≤ 1)) ∧
      (allows bindPointList .lag →
        let count := if allows bindPointList .port then outFields bmp else 0
        if stage = .ingress then count + portFields bmp ≤ 1 ∧ outFields bmp = 0
        else count + portFields bmp = 0 ∧ outFields bmp ≤ 1) ∧
      (allows bindPointList .vlan →
        (if allows bindPointList .port ∨ allows bindPointList .lag then outFields bmp else 0) +
          vlanFields bmp ≠ 0) ∧
      ¬ allows bindPointList .routerInterface := by
  simp only [checkMasterKeyField, checkMasterFrom, portFields, outFields, vlanFields]
  cases stage <;> cases allows bindPointList .port <;> cases allows bindPointList .lag <;>
    cases allows bindPointList .vlan <;> cases allows bindPointList .routerInterface <;>
    simp <;> grind

/-- A type on its own. -/
theorem checkMasterKeyField_onlyType {type : BindPointType} :
    checkMasterKeyField bmp stage (onlyType type) = .success ↔
      match type, stage with
      | .port, .ingress => portFields bmp + keyBit bmp inPortsField ≠ 0 ∧ outFields bmp = 0
      | .port, .egress => portFields bmp + keyBit bmp inPortsField = 0 ∧ outFields bmp ≤ 1
      | .lag, .ingress => portFields bmp ≤ 1 ∧ outFields bmp = 0
      | .lag, .egress => portFields bmp = 0 ∧ outFields bmp ≤ 1
      | .vlan, _ => vlanFields bmp ≠ 0
      | .routerInterface, _ => False
      | .switch, _ => True := by
  rw [checkMasterKeyField_iff]
  cases type <;> cases stage <;> simp

/-- The check of a list is that of its types exactly where no count is carried. -/
theorem checkMasterKeyField_types_iff :
    (checkMasterKeyField bmp stage bindPointList = .success ↔ ∀ type, allows bindPointList type →
      checkMasterKeyField bmp stage (onlyType type) = .success) ↔
      ¬ OutFieldCarried bmp stage bindPointList := by
  have htypes : (∀ type, allows bindPointList type →
      checkMasterKeyField bmp stage (onlyType type) = .success) ↔
      ∀ type ∈ [BindPointType.port, .lag, .vlan, .routerInterface, .switch],
        allows bindPointList type → checkMasterKeyField bmp stage (onlyType type) = .success :=
    ⟨fun h type _ => h type, fun h type => h type (by cases type <;> simp)⟩
  rw [htypes, checkMasterKeyField_iff, outFieldCarried_iff]
  simp only [List.forall_mem_cons, List.not_mem_nil, false_imp_iff, implies_true, and_true,
    checkMasterKeyField_onlyType]
  cases stage <;> cases allows bindPointList .port <;> cases allows bindPointList .lag <;>
    cases allows bindPointList .vlan <;> cases allows bindPointList .routerInterface <;>
    simp <;> grind

/-- A port and a LAG, and OUT_PORT on egress: each is accepted, and both are not. -/
theorem checkMasterKeyField_not_types : ¬ ∀ (bmp : BitVec 352) (stage : AclStage)
    (bindPointList : BitVec 8), checkMasterKeyField bmp stage bindPointList = .success ↔
      ∀ type, allows bindPointList type →
        checkMasterKeyField bmp stage (onlyType type) = .success := by
  intro h
  refine absurd ((h (1 <<< outPortField) .egress 3).mpr fun type htype => ?_) (by decide)
  revert htype
  cases type <;> decide

end MasterFields

/-- `_ctc_sai_acl_mapping_table_lookup_type`. -/
def mappingTableLookupType (ac : AclChip) (t : AclTable) : Status × AclTable :=
  match checkMasterKeyField t.tableKeyBmp t.tableStage t.bindPointList with
  | .success => (.success, { t with lookupType := ac.fieldsLookupType [t] })
  | st => (st, t)

section Objects

variable (db : AclDb ac)

/-- `_ctc_sai_acl_check_group_key_field` for some members. -/
def checkGroupKeyField (g : AclGroup) : List AclGroupMember → Status
  | [] => .success
  | m :: rest =>
    match db.tables.lookup m.tableId with
    | none => .itemNotFound
    | some t =>
      match checkMasterKeyField t.tableKeyBmp g.groupStage g.bindPointList with
      | .success => checkGroupKeyField g rest
      | st => st

/-- `_ctc_sai_acl_mapping_group_lookup_type`; what the check says about all fields
together is only logged. -/
def mappingGroupLookupType (g : AclGroup) : Status × AclGroup :=
  if g.memberList = [] then (.success, { g with lookupType := ac.lkupTypeL2 })
  else
    match checkGroupKeyField db g g.memberList with
    | .success =>
      (.success, { g with lookupType :=
        ac.fieldsLookupType (g.memberList.filterMap fun m => db.tables.lookup m.tableId) })
    | st => (st, g)

/-- The types of the ranges that a table's RANGE field names. -/
def addRangeTypes : List Oid → BitVec 8 → Option (Except Status (BitVec 8))
  | [], bmp => some (.ok bmp)
  | rangeId :: rest, bmp =>
    match db.ranges.lookup rangeId with
    | none => none
    | some r =>
      if r.rangeType.toNat ≤ 4 then addRangeTypes rest (bmp ||| 1#8 <<< r.rangeType)
      else some (.error .invalidParameter)

/-- The match fields of a new table, one number after another. -/
def tableFields (attrs : List AclTableAttr) : List Nat → BitVec 352 × BitVec 8 →
    Option (Except Status (BitVec 352 × BitVec 8))
  | [], acc => some (.ok acc)
  | n :: rest, (bmp, rangeBmp) =>
    match findAttribInList (AclTableAttr.field? n) attrs with
    | some (true, objlist) =>
      let bmp := bmp ||| 1#352 <<< n
      if n = aclRangeTypeField then
        match addRangeTypes db objlist rangeBmp with
        | none => none
        | some (.error st) => some (.error st)
        | some (.ok rangeBmp) => tableFields attrs rest (bmp, rangeBmp)
      else tableFields attrs rest (bmp, rangeBmp)
    | _ => tableFields attrs rest (bmp, rangeBmp)

/-! ## Tables -/

/-- The id of table number `i`. -/
def aclTableOid (ac : AclChip) (i : Nat) : Oid :=
  createObjectId .aclTable ac.lchip 0 0 (BitVec.ofNat 32 i)

/-- The bind point list of a new table; without the attribute it is 0x07. -/
def tableBindPointList (attrs : List AclTableAttr) : BitVec 8 :=
  ((findAttribInList AclTableAttr.bindPointTypeList? attrs).map bindPointBits).getD 7

/-- The size of a new table; zero and no attribute are the default. -/
def tableSizeOf (attrs : List AclTableAttr) : BitVec 32 :=
  match findAttribInList AclTableAttr.size? attrs with
  | some n => if n = 0 then aclDefaultTableSize else n
  | none => aclDefaultTableSize

/-- `ctc_sai_acl_create_acl_table` once the id is there. -/
def addAclTable (attrs : List AclTableAttr) (stage : AclStage) (i : Nat) :
    Option (Status × Option Oid × AclDb ac) :=
  let oid := aclTableOid ac i
  let back : AclDb ac := { db with tableIndices := db.tableIndices.free i }
  match tableFields db attrs (List.range aclTableFieldNum) (0, 0) with
  | none => none
  -- the code returns at once and keeps the id
  | some (.error st) => some (st, some oid, db)
  | some (.ok (bmp, rangeBmp)) =>
    let t : AclTable := ⟨stage, tableBindPointList attrs, tableSizeOf attrs, 0, 0, bmp, rangeBmp,
      [], [], []⟩
    match mappingTableLookupType ac t with
    | (.success, t) =>
      match db.tables.lookup oid with
      | some _ => some (.itemAlreadyExists, some oid, back)
      | none => some (.success, some oid, { db with tables := db.tables.insert oid t })
    | (st, _) => some (st, some oid, back)

/-- `ctc_sai_acl_create_acl_table`. -/
def createAclTable (attrs : List AclTableAttr) : Option (Status × Option Oid × AclDb ac) :=
  if attrs = [] then some (.invalidParameter, none, db)
  else
    match findAttribInList AclTableAttr.stage? attrs with
    | none => some (.itemNotFound, none, db)
    | some v =>
      match aclStageOf (v.setWidth 8) with
      | none => some (.invalidParameter, none, db)
      | some stage =>
        -- `status` is still that of the search
        if tableBindPointList attrs = 0 then some (.success, none, db)
        else
          match db.tableIndices.alloc with
          | none => some (.insufficientResources, none, db)
          | some (i, pool) => addAclTable { db with tableIndices := pool } attrs stage i

/-- `ctc_sai_acl_remove_acl_table`. -/
def removeAclTable (oid : Oid) : Status × AclDb ac :=
  match db.tables.lookup oid with
  | none => (.itemNotFound, db)
  | some t =>
    if t.entryList ≠ [] ∨ t.groupList ≠ [] ∨ t.bindPoints ≠ [] then (.objectInUse, db)
    else
      (.success, { db with
        tableIndices := db.tableIndices.free oid.value.toNat
        tables := db.tables.erase oid })

/-! ## Groups -/

/-- The id of group number `i`. -/
def aclGroupOid (ac : AclChip) (i : Nat) : Oid :=
  createObjectId .aclTableGroup ac.lchip 0 0 (BitVec.ofNat 32 i)

/-- `ctc_sai_acl_create_acl_table_group`; the loop over the bind points counts in eight
bits. -/
def createAclTableGroup (attrs : List AclGroupAttr) : Option (Status × Option Oid × AclDb ac) :=
  if attrs = [] then some (.invalidParameter, none, db)
  else
    let type := ((findAttribInList AclGroupAttr.type? attrs).map (·.setWidth 8)).getD
      groupTypeSequential
    match findAttribInList AclGroupAttr.stage? attrs with
    | none => some (.itemNotFound, none, db)
    | some v =>
      match aclStageOf (v.setWidth 8) with
      | none => some (.invalidParameter, none, db)
      | some stage =>
        if type = groupTypeSequential ∧ stage = .egress then some (.notSupported, none, db)
        else
          let list := findAttribInList AclGroupAttr.bindPointTypeList? attrs
          if list.any (fun l => 255 < l.length) then none
          else
            match db.groupIndices.alloc with
            | none => some (.insufficientResources, none, db)
            | some (i, pool) =>
              let db := { db with groupIndices := pool }
              let oid := aclGroupOid ac i
              let g : AclGroup := ⟨stage, type, (list.map bindPointBits).getD 7, 0, [], []⟩
              match db.groups.lookup oid with
              | some _ => some (.itemAlreadyExists, some oid,
                  { db with groupIndices := db.groupIndices.free i })
              | none => some (.success, some oid, { db with groups := db.groups.insert oid g })

/-- `ctc_sai_acl_remove_acl_table_group`. -/
def removeAclTableGroup (oid : Oid) : Status × AclDb ac :=
  match db.groups.lookup oid with
  | none => (.itemNotFound, db)
  | some g =>
    if g.memberList ≠ [] ∨ g.bindPoints ≠ [] then (.objectInUse, db)
    else
      (.success, { db with
        groupIndices := db.groupIndices.free oid.value.toNat
        groups := db.groups.erase oid })

/-! ## Ranges -/

/-- The id of range number `i`. -/
def aclRangeOid (ac : AclChip) (i : Nat) : Oid :=
  createObjectId .aclRange ac.lchip 0 0 (BitVec.ofNat 32 i)

/-- `ctc_sai_acl_create_acl_range`. -/
def createAclRange (attrs : List AclRangeAttr) : Status × Option Oid × AclDb ac :=
  if attrs = [] then (.invalidParameter, none, db)
  else
    match findAttribInList AclRangeAttr.type? attrs with
    | none => (.itemNotFound, none, db)
    | some type =>
      match findAttribInList AclRangeAttr.limit? attrs with
      | none => (.itemNotFound, none, db)
      | some (min, max) =>
        -- `status` is still that of the search
        if max < min then (.success, none, db)
        else
          match db.rangeIndices.alloc with
          | none => (.insufficientResources, none, db)
          | some (i, pool) =>
            let db := { db with rangeIndices := pool }
            let oid := aclRangeOid ac i
            match db.ranges.lookup oid with
            | some _ => (.itemAlreadyExists, some oid,
                { db with rangeIndices := db.rangeIndices.free i })
            | none => (.success, some oid,
                { db with ranges := db.ranges.insert oid ⟨type.setWidth 8, min, max, 0⟩ })

/-- `ctc_sai_acl_remove_acl_range`; the refusals leave `status` as it was. -/
def removeAclRange (oid : Oid) : Status × AclDb ac :=
  match db.ranges.lookup oid with
  | none => (.success, db)
  | some r =>
    if r.refCnt ≠ 0 then (.success, db)
    else
      (.success, { db with
        rangeIndices := db.rangeIndices.free oid.value.toNat
        ranges := db.ranges.erase oid })

/-! ## Counters -/

/-- The id of counter number `i`. -/
def aclCounterOid (ac : AclChip) (i : Nat) : Oid :=
  createObjectId .aclCounter ac.lchip 0 0 (BitVec.ofNat 32 i)

/-- `ctc_sai_acl_create_acl_counter`. -/
def createAclCounter (attrs : List AclCounterAttr) : Status × Option Oid × AclDb ac :=
  if attrs = [] then (.invalidParameter, none, db)
  else
    match findAttribInList AclCounterAttr.tableId? attrs with
    | none => (.itemNotFound, none, db)
    | some tableId =>
      match db.tables.lookup tableId with
      | none => (.itemNotFound, none, db)
      | some _ =>
        let pkt := (findAttribInList AclCounterAttr.enablePacketCount? attrs).getD false
        let byte := (findAttribInList AclCounterAttr.enableByteCount? attrs).getD false
        if !pkt && !byte then (.failure, none, db)
        else
          match db.counterIndices.alloc with
          | none => (.insufficientResources, none, db)
          | some (i, pool) =>
            let back (db : AclDb ac) := { db with counterIndices := pool.free i }
            let oid := aclCounterOid ac i
            match db.counters.lookup oid with
            | some _ => (.itemAlreadyExists, some oid, back db)
            | none =>
              match db.hw.call with
              | (.none, hw) => (.success, some oid, { db with
                  hw := hw
                  counterIndices := pool
                  counters := db.counters.insert oid ⟨tableId, pkt, byte, 0⟩ })
              | (e, hw) => (e.raw, some oid, back { db with hw := hw })

/-- `ctc_sai_acl_remove_acl_counter`; the refusals leave `status` as it was. -/
def removeAclCounter (oid : Oid) : Status × AclDb ac :=
  match db.counters.lookup oid with
  | none => (.success, db)
  | some c =>
    if c.refCnt ≠ 0 then (.success, db)
    else
      (.success, { db with
        counterIndices := db.counterIndices.free oid.value.toNat
        counters := db.counters.erase oid
        hw := db.hw.call.2 })

/-- `ctc_sai_acl_set_acl_counter_attribute`: only the statistics can be cleared. -/
def setAclCounterAttribute (oid : Oid) (attr : AclCounterAttr) : Option (Status × AclDb ac) :=
  match attr with
  | .packets n | .bytes n =>
    if n = 0 then
      match db.counters.lookup oid with
      | none => none
      | some _ => some (mappingErrorCtc db.hw.call.1, { db with hw := db.hw.call.2 })
    else some (.success, db)
  | _ => some (.invalidAttribute 0, db)

/-- Setting an attribute of a table, a group, a member or a range: none has a function
for it, and an attribute outside the list is not found. -/
def setReadOnlyAttribute (known : Bool) : Status × AclDb ac :=
  (if known then .invalidAttribute 0 else .itemNotFound, db)

end Objects

end CtcSai
