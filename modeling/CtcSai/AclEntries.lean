/-
# `AclEntries` — ctc_sai_acl.c, members and entries

A member joins a table to a group, an entry belongs to a table; both are also nodes in
lists of what they join, and both act on every bind point of what they belong to.

An object list in an attribute is a pointer to memory of the caller; it is taken here
for what it points to.  The index of a node is the first that fits; a result of `none`
stands for a NULL pointer that the code follows, or for a node that is not there.
-/
import CtcSai.AclObjects

namespace CtcSai

open KeyedTable

variable {ac : AclChip}

/-! ## Members -/

inductive AclMemberAttr where
  | groupId (oid : Oid)
  | tableId (oid : Oid)
  | priority (n : BitVec 32)
deriving DecidableEq, Repr

namespace AclMemberAttr

def groupId? : AclMemberAttr → Option Oid
  | .groupId oid => some oid
  | _ => none

def tableId? : AclMemberAttr → Option Oid
  | .tableId oid => some oid
  | _ => none

def priority? : AclMemberAttr → Option (BitVec 32)
  | .priority n => some n
  | _ => none

end AclMemberAttr

/-- The first four bytes of an object id, which `u32` reads. -/
def Oid.firstWord (oid : Oid) : BitVec 32 :=
  oid.value2 ++ oid.subType ++ oid.lchip ++ oid.type

/-- The id of member number `i`. -/
def aclMemberOid (ac : AclChip) (i : Nat) : Oid :=
  createObjectId .aclTableGroupMember ac.lchip 0 0 (BitVec.ofNat 32 i)

/-- What a new member does at a bind point of its group; the case of a LAG has no
`break` and goes on into that of a VLAN. -/
def BindPointInfo.memberPoints (o : BindPointInfo) : List BindPointInfo :=
  match o.bindType with
  | .lag => [o, ⟨.vlan, o.bindIndex⟩]
  | .routerInterface => []
  | _ => [o]

section Members

variable (db : AclDb ac)

/-- A group comes to some bind points; the first failure ends it. -/
def addObjectEverywhere (object : Oid) : List BindPointInfo → AclDb ac → Option (Status × AclDb ac)
  | [], db => some (.success, db)
  | o :: rest, db =>
    match bindPointAclAdd db o object with
    | some (.success, db) => addObjectEverywhere object rest db
    | r => r

/-- The checks of `ctc_sai_acl_create_acl_table_group_member` on its group and table. -/
def checkMember (g : AclGroup) (t : AclTable) (tableId : Oid) (memberPriority : BitVec 32) :
    Status :=
  if t.tableStage ≠ g.groupStage then .failure
  else
    match checkMemberPriority g memberPriority with
    | .success =>
      if ∃ m ∈ g.memberList, m.tableId = tableId then .itemAlreadyExists
      else if ∃ type ∈ [BindPointType.port, .lag, .vlan, .routerInterface],
          allows g.bindPointList type ∧ ¬ allows t.bindPointList type then .failure
      else .success
    | st => st

/-- The way back of a member create: the new nodes are the first of their lists. -/
def undoMember (oid groupId tableId : Oid) (i : Nat) : AclDb ac :=
  let groups := match db.groups.lookup groupId with
    | some g => db.groups.insert groupId { g with memberList := g.memberList.tail }
    | none => db.groups
  let tables := match db.tables.lookup tableId with
    | some t => db.tables.insert tableId { t with groupList := t.groupList.tail }
    | none => db.tables
  { db with
    groups := groups
    tables := tables
    members := db.members.erase oid
    groupMemberIndices := db.groupMemberIndices.free i }

/-- `ctc_sai_acl_create_acl_table_group_member` once its checks are passed. -/
def addMember (g : AclGroup) (t : AclTable) (groupId tableId : Oid) (memberPriority : BitVec 32) :
    Option (Status × Option Oid × AclDb ac) :=
  match db.groupMemberIndices.alloc with
  | none => some (.insufficientResources, none, db)
  | some (i, pool) =>
    let oid := aclMemberOid ac i
    match db.members.lookup oid with
    | some _ => some (.itemAlreadyExists, some oid, { db with groupMemberIndices := pool.free i })
    | none =>
      let g := { g with memberList := ⟨tableId, memberPriority.setWidth 16⟩ :: g.memberList }
      let t := { t with groupList := groupId :: t.groupList }
      let tables := db.tables.insert tableId t
      match mappingGroupLookupType { db with tables := tables } g with
      | (.success, g) =>
        let db := { db with
          groups := db.groups.insert groupId g
          tables := tables
          members := db.members.insert oid ⟨groupId, tableId, memberPriority⟩
          groupMemberIndices := pool }
        match addObjectEverywhere groupId (g.bindPoints.flatMap (·.memberPoints)) db with
        | none => none
        | some (.success, db) => some (.success, some oid, db)
        | some (st, db) => some (st, some oid, undoMember db oid groupId tableId i)
      | (st, _) => some (st, some oid, { db with groupMemberIndices := pool.free i })

/-- `ctc_sai_acl_create_acl_table_group_member`; a group that is not SEQUENTIAL takes
what is left in `attr_value`, the table, for the priority. -/
def createAclTableGroupMember (attrs : List AclMemberAttr) :
    Option (Status × Option Oid × AclDb ac) :=
  if attrs = [] then some (.invalidParameter, none, db)
  else
    match findAttribInList AclMemberAttr.groupId? attrs with
    | none => some (.itemNotFound, none, db)
    | some groupId =>
      match db.groups.lookup groupId with
      | none => some (.itemNotFound, none, db)
      | some g =>
        match findAttribInList AclMemberAttr.tableId? attrs with
        | none => some (.itemNotFound, none, db)
        | some tableId =>
          match db.tables.lookup tableId with
          | none => some (.itemNotFound, none, db)
          | some t =>
            match (if g.groupType = groupTypeSequential then
                findAttribInList AclMemberAttr.priority? attrs else some tableId.firstWord) with
            | none => some (.itemNotFound, none, db)
            | some memberPriority =>
              match checkMember g t tableId memberPriority with
              | .success => addMember db g t groupId tableId memberPriority
              | st => some (st, none, db)

/-- A table leaves the bind points of a group. -/
def removeTableEverywhere (tableId : Oid) : List BindPointInfo → AclDb ac → Option (AclDb ac)
  | [], db => some db
  | o :: rest, db =>
    if o.bindType = .routerInterface then removeTableEverywhere tableId rest db
    else (bindPointAclRemove db o tableId).bind (removeTableEverywhere tableId rest)

/-- `ctc_sai_acl_remove_acl_table_group_member`. -/
def removeAclTableGroupMember (oid : Oid) : Option (Status × AclDb ac) :=
  match db.members.lookup oid with
  | none => some (.itemNotFound, db)
  | some m =>
    match db.groups.lookup m.groupId with
    | none => some (.itemNotFound, db)
    | some g =>
      match db.tables.lookup m.tableId with
      | none => some (.itemNotFound, db)
      | some t =>
        match removeTableEverywhere m.tableId g.bindPoints db with
        | none => none
        | some db =>
          if (∃ n ∈ g.memberList, n.tableId = m.tableId) ∧ m.groupId ∈ t.groupList then
            let g := { g with memberList := g.memberList.eraseP (fun n => n.tableId = m.tableId) }
            let t := { t with groupList := t.groupList.erase m.groupId }
            let db := { db with
              groups := db.groups.insert m.groupId g
              tables := db.tables.insert m.tableId t
              members := db.members.erase oid
              groupMemberIndices := db.groupMemberIndices.free oid.value.toNat }
            let (st, g) := mappingGroupLookupType db g
            some (st, { db with groups := db.groups.insert m.groupId g })
          else none

end Members

/-! ## What an entry names -/

namespace AclEntryAttr

def tableId? : AclEntryAttr → Option Oid
  | .tableId oid => some oid
  | _ => none

def priority? : AclEntryAttr → Option (BitVec 32)
  | .priority n => some n
  | _ => none

def adminState? : AclEntryAttr → Option Bool
  | .adminState b => some b
  | _ => none

def key? (f : AclKeyField) : AclEntryAttr → Option AclKeyAttr
  | .key a => if a.field = f then some a else none
  | _ => none

def action? (f : AclActionField) : AclEntryAttr → Option AclActionAttr
  | .action a => if a.action = f then some a else none
  | _ => none

end AclEntryAttr

def rangesOf (a : Option AclKeyAttr) : List Oid :=
  match a with
  | some a => if a.enable then a.objlist else []
  | none => []

def counterOf (a : Option AclActionAttr) : Option Oid :=
  match a with
  | some a => if a.enable then some a.oid else none
  | none => none

namespace AclEntry

variable (e : AclEntry)

def ranges : List Oid := rangesOf (e.keyAttr .aclRangeType)

def counter : Option Oid := counterOf (e.actionAttrList.find? fun a => a.action = .counter)

def store : AclEntryAttr → AclEntry
  | .tableId _ => e
  | .priority n => { e with priority := n.setWidth 16 }
  | .adminState b => { e with entryValid := b }
  | .key a => { e with keyAttrList := a :: e.keyAttrList.filter (fun x => x.field ≠ a.field) }
  | .action a =>
    { e with actionAttrList := a :: e.actionAttrList.filter (fun x => x.action ≠ a.action) }

/-- `_ctc_sai_acl_store_entry_key_and_action_attributes`: of two attributes with one id
the last stays. -/
def storeAll (attrs : List AclEntryAttr) : AclEntry :=
  attrs.foldl (fun e a =>
    match a with
    | .key _ | .action _ => e.store a
    | _ => e) e

end AclEntry

def enabledIn (attrs : List AclEntryAttr) (f : AclKeyField) : Bool :=
  match findAttribInList (AclEntryAttr.key? f) attrs with
  | some a => a.enable
  | none => false

/-- `_ctc_sai_acl_mapping_entry_tcam_type`; a lookup type without a key leaves zero. -/
def mappingEntryTcamType (ac : AclChip) (attrs : List AclEntryAttr) (lookupType : BitVec 32) :
    Except Status AclKeyType :=
  let isIpv6 := enabledIn attrs .srcIpv6 || enabledIn attrs .dstIpv6 ||
    enabledIn attrs .ipv6FlowLabel || enabledIn attrs .ipv6NextHeader
  if isIpv6 ∧ (enabledIn attrs .srcIp ∨ enabledIn attrs .dstIp) then .error .invalidParameter
  else
    match ac.lkupType lookupType with
    | some .l2 => .ok .mac
    | some .l2L3 => .ok (if isIpv6 then .macIpv6 else .macIpv4)
    | some .l3 => .ok (if isIpv6 then .ipv6 else .ipv4)
    | some .l3Ext => .ok (if isIpv6 then .ipv6Ext else .ipv4Ext)
    | some .l2L3Ext => .ok (if isIpv6 then .macIpv6 else .macIpv4Ext)
    | none => .ok ac.keyTypeZero

/-! ## Creating and removing entries -/

/-- The id of entry number `i`. -/
def aclEntryOid (ac : AclChip) (i : Nat) : Oid :=
  createObjectId .aclEntry ac.lchip 0 0 (BitVec.ofNat 32 i)

/-- The number of a table's node in a member list, or that of the nodes. -/
def AclGroup.indexOf (g : AclGroup) (tableId : Oid) : Nat :=
  g.memberList.findIdx (fun m => m.tableId = tableId)

/-- The database with the local variables `bind_point_type` and `combined_priority` of
`ctc_sai_acl_create_acl_entry`. -/
structure EntryWalk (ac : AclChip) where
  db : AclDb ac
  bindPointType : BindPointType
  combinedPriority : BitVec 32

section Entries

variable (db : AclDb ac)

/-- A new entry comes to a bind point; what the call returns is dropped. -/
def addEntryAt (tableId entryId : Oid) (priority : BitVec 16) (unit : AclUnit)
    (w : EntryWalk ac) (o : BindPointInfo) : Option (EntryWalk ac) :=
  if o.bindType = .routerInterface then some w
  else
    match w.db.hwIds.lookup (o.hwTable tableId) with
    | none => none
    | some gid =>
      let combined := entryCreatePriority w.bindPointType unit o.point tableId.value priority
        w.combinedPriority
      some ⟨(bindPointAclEntryAdd w.db o gid entryId combined).2, o.bindType, combined⟩

/-- A new entry comes to the bind points of the groups that its table is in. -/
def addEntryAtGroups (tableId entryId : Oid) (priority : BitVec 16) :
    List Oid → EntryWalk ac → Option (EntryWalk ac)
  | [], w => some w
  | groupId :: rest, w =>
    match w.db.groups.lookup groupId with
    | none => none
    | some g =>
      (g.bindPoints.foldlM (addEntryAt tableId entryId priority (.member g (g.indexOf tableId)))
        w).bind (addEntryAtGroups tableId entryId priority rest)

/-- A new entry comes to all bind points. -/
def addEntryEverywhere (t : AclTable) (tableId entryId : Oid) (priority : BitVec 16) :
    Option (AclDb ac) :=
  match addEntryAtGroups tableId entryId priority t.groupList ⟨db, .port, 0⟩ with
  | none => none
  | some w =>
    (t.bindPoints.foldlM (addEntryAt tableId entryId priority (.table t.tableStage)) w).map (·.db)

/-- The reference counts of ranges go up or down. -/
def mapRangeRefs (f : BitVec 32 → BitVec 32) : List Oid → Table Oid AclRange →
    Option (Table Oid AclRange)
  | [], ranges => some ranges
  | rangeId :: rest, ranges =>
    match ranges.lookup rangeId with
    | none => none
    | some r => mapRangeRefs f rest (ranges.insert rangeId { r with refCnt := f r.refCnt })

/-- The reference count of a counter goes up. -/
def addCounterRef (counter : Option Oid) (counters : Table Oid AclCounter) :
    Option (Table Oid AclCounter) :=
  match counter with
  | none => some counters
  | some counterId =>
    match counters.lookup counterId with
    | none => none
    | some c => some (counters.insert counterId { c with refCnt := c.refCnt + 1 })

/-- The ranges and the counter in an attribute list, each of the first attribute. -/
def rangesIn (attrs : List AclEntryAttr) : List Oid :=
  rangesOf (findAttribInList (AclEntryAttr.key? .aclRangeType) attrs)

def counterIn (attrs : List AclEntryAttr) : Option Oid :=
  counterOf (findAttribInList (AclEntryAttr.action? .counter) attrs)

/-- `ctc_sai_acl_create_acl_entry` once its checks are passed: the node comes first in the
entry list, and the references are counted at the end. -/
def addAclEntry (attrs : List AclEntryAttr) (t : AclTable) (e : AclEntry) :
    Option (Status × Option Oid × AclDb ac) :=
  match db.entryIndices.alloc with
  | none => some (.insufficientResources, none, db)
  | some (i, pool) =>
    let oid := aclEntryOid ac i
    match db.entries.lookup oid with
    | some _ => some (.itemAlreadyExists, some oid, { db with entryIndices := pool.free i })
    | none =>
      let db := { db with
        entryIndices := pool
        entries := db.entries.insert oid e
        tables := db.tables.insert e.tableId { t with
          entryList := ⟨oid, e.priority⟩ :: t.entryList
          createdEntryCount := t.createdEntryCount + 1 } }
      match addEntryEverywhere db t e.tableId oid e.priority with
      | none => none
      | some db =>
        match mapRangeRefs (· + 1) (rangesIn attrs) db.ranges,
            addCounterRef (counterIn attrs) db.counters with
        | some ranges, some counters =>
          some (.success, some oid, { db with ranges := ranges, counters := counters })
        | _, _ => none

/-- `ctc_sai_acl_create_acl_entry`. -/
def createAclEntry (attrs : List AclEntryAttr) : Option (Status × Option Oid × AclDb ac) :=
  if attrs = [] then some (.invalidParameter, none, db)
  else
    match findAttribInList AclEntryAttr.tableId? attrs with
    | none => some (.itemNotFound, none, db)
    | some tableId =>
      match db.tables.lookup tableId with
      | none => some (.itemNotFound, none, db)
      | some t =>
        let priority := (findAttribInList AclEntryAttr.priority? attrs).getD
          aclDefaultEntryPriority
        if t.tableSize = t.createdEntryCount then some (.tableFull, none, db)
        else if priority < aclMinEntryPriority ∨ aclMaxEntryPriority < priority then
          some (.invalidParameter, none, db)
        else
          match mappingEntryTcamType ac attrs t.lookupType with
          | .error st => some (st, none, db)
          | .ok keyType =>
            if ∃ rangeId ∈ rangesIn attrs, db.ranges.lookup rangeId = none then
              some (.itemNotFound, none, db)
            else if ∃ counterId ∈ counterIn attrs, db.counters.lookup counterId = none then
              some (.itemNotFound, none, db)
            else
              let valid := (findAttribInList AclEntryAttr.adminState? attrs).getD true
              let e : AclEntry := ⟨tableId, priority.setWidth 16, valid, keyType, [], []⟩
              addAclEntry db attrs t (e.storeAll attrs)

/-- The rules of an entry leave some bind points. -/
def removeEntryAt (entryId : Oid) (points : List BindPointInfo) : AclDb ac :=
  points.foldl (fun db o =>
    if o.bindType = .routerInterface then db else (bindPointAclEntryRemove db o entryId).2) db

/-- The rules of an entry leave the bind points of groups. -/
def removeEntryAtGroups (entryId : Oid) : List Oid → AclDb ac → Option (AclDb ac)
  | [], db => some db
  | groupId :: rest, db =>
    match db.groups.lookup groupId with
    | none => none
    | some g => removeEntryAtGroups entryId rest (removeEntryAt db entryId g.bindPoints)

/-- `ctc_sai_acl_remove_acl_entry`: the counter is looked for among the fields, where it
never is, and keeps its reference. -/
def removeAclEntry (oid : Oid) : Option (Status × AclDb ac) :=
  match db.entries.lookup oid with
  | none => some (.itemNotFound, db)
  | some e =>
    match db.tables.lookup e.tableId with
    | none => some (.itemNotFound, db)
    | some t =>
      match removeEntryAtGroups oid t.groupList db with
      | none => none
      | some db =>
        let db := removeEntryAt db oid t.bindPoints
        if ∃ m ∈ t.entryList, m.entryId = oid then
          match mapRangeRefs (· - 1) e.ranges db.ranges with
          | none => none
          | some ranges =>
            some (.success, { db with
              entryIndices := db.entryIndices.free oid.value.toNat
              ranges := ranges
              entries := db.entries.erase oid
              tables := db.tables.insert e.tableId { t with
                entryList := t.entryList.eraseP (fun m => m.entryId = oid)
                createdEntryCount := t.createdEntryCount - 1 } })
        else none

end Entries

/-! ## Setting an attribute of an entry -/

/-- The further fields of `acl_entry_attr_fn_entries` with a set function, and the fields
that are not in it, by their numbers from SAI_ACL_ENTRY_ATTR_FIELD_START on. -/
def settableFields : List Nat :=
  [4, 5, 15, 16, 17, 18, 19, 20, 21, 22, 25, 27, 30, 31, 32, 35, 40, 41, 42, 43, 44,
    48, 49, 50, 51, 52, 53, 54, 55, 56, 57, 58, 59]
def unlistedField (n : Nat) : Bool := n ∈ [23, 24, 26, 28] ∨ 79 < n ∧ n ∉ [334, 335, 336]

/-- The further actions with a set function, and those that are not in the list, from
SAI_ACL_ENTRY_ATTR_ACTION_START on. -/
def settableActions : List Nat := [0, 3, 4, 6, 7, 8, 11, 12, 13, 14, 15, 22, 23, 26, 30, 31]
def unlistedAction (n : Nat) : Bool := n = 1 ∨ 31 < n

/-- What `ctc_sai_set_attribute` finds for an attribute of an entry: SUCCESS for a set
function. -/
def AclEntryAttr.setFunction : AclEntryAttr → Status
  | .tableId _ => .invalidAttribute 0
  | .priority _ | .adminState _ => .success
  | .key a =>
    match a.field with
    | .ipv6FlowLabel => .invalidAttribute 0
    | .other n =>
      if n ∈ settableFields then .success
      else if unlistedField n then .itemNotFound
      else .invalidAttribute 0
    | _ => .success
  | .action a =>
    match a.action with
    | .counter => .success
    | .other n =>
      if n ∈ settableActions then .success
      else if unlistedAction n then .itemNotFound
      else .invalidAttribute 0

def AclKeyType.isIpv6 : AclKeyType → Bool
  | .macIpv6 | .ipv6 | .ipv6Ext => true
  | _ => false

/-- An enabled field of the other IP version than the entry's key. -/
def AclEntry.mismatch (e : AclEntry) : AclEntryAttr → Bool
  | .key a =>
    match a.field with
    | .srcIpv6 | .dstIpv6 | .ipv6FlowLabel | .ipv6NextHeader => a.enable && !e.keyType.isIpv6
    | .srcIp | .dstIp => a.enable && e.keyType.isIpv6
    | _ => false
  | _ => false

/-- A call that changes a rule of the SDK. -/
def AclHw.modify (hw : AclHw) (id : BitVec 32) (f : SdkRule → SdkRule) : AclHw :=
  match hw.rules.lookup id with
  | some r => { hw with rules := hw.rules.insert id (f r) }
  | none => hw

section Set

variable (db : AclDb ac)

/-- The update of IN_PORTS: eight ids are taken out whatever the entry has, and one rule
for each word is put in again. -/
def updateInPorts (o : BindPointInfo) (ctcGroupId : BitVec 32) (entryId : Oid)
    (ctcEntryId priority : BitVec 32) (e : AclEntry) : AclDb ac :=
  let words := e.words ac
  let db := (List.range 8).foldl (fun db n =>
    let id := ctcEntryId + BitVec.ofNat 32 n
    (db.ruleCall o entryId id (fun hw => hw.setInstalled id false)).ruleCall o entryId id
      (fun hw => hw.removeEntry id)) db
  let db := (List.range words.length).foldl (fun db n =>
    let id := ctcEntryId + BitVec.ofNat 32 n
    db.ruleCall o entryId id (fun hw => hw.addEntry id (e.rule o ctcGroupId priority words[n]?))) db
  if e.entryValid then
    (List.range words.length).foldl (fun db n =>
      let id := ctcEntryId + BitVec.ofNat 32 n
      db.ruleCall o entryId id (fun hw => hw.setInstalled id true)) db
  else db

/-- `_ctc_sai_acl_add_acl_entry_to_sdk_usw` for an update: but for IN_PORTS only the
recorded rule changes. -/
def updateAclEntryInSdk (o : BindPointInfo) (ctcGroupId : BitVec 32) (entryId : Oid)
    (ctcEntryId priority : BitVec 32) (e : AclEntry) (attr : AclEntryAttr) : AclDb ac :=
  let change (f : SdkRule → SdkRule) := db.ruleCall o entryId ctcEntryId
    (fun hw => hw.modify ctcEntryId f)
  match attr with
  | .key a =>
    if a.field = .inPorts then
      updateInPorts db o ctcGroupId entryId ctcEntryId priority (e.store attr)
    else change (ac.updateRule e attr)
  | .action _ => change (ac.updateRule e attr)
  | .priority _ => change (fun r => { r with priority := priority })
  | .adminState b => db.ruleCall o entryId ctcEntryId (fun hw => hw.setInstalled ctcEntryId b)
  | .tableId _ => db

/-- The rule of an entry at a bind point is updated; `new_priority` goes on to the next
bind point. -/
def updateEntryAt (entryId : Oid) (e : AclEntry) (attr : AclEntryAttr) (unit : AclUnit)
    (w : AclDb ac × BitVec 32) (o : BindPointInfo) : Option (AclDb ac × BitVec 32) :=
  match w.1.hwIds.lookup (o.hwTable e.tableId), w.1.hwIds.lookup (o.hwEntry entryId) with
  | some gid, some id =>
    let priority := match attr with
      | .priority n => entrySetPriority unit o.point e.tableId.value (n.setWidth 16) w.2
      | _ => w.2
    some (updateAclEntryInSdk w.1 o gid entryId id priority e attr, priority)
  | _, _ => none

/-- The rules of an entry are updated at the bind points of the groups its table is in. -/
def updateEntryAtGroups (entryId : Oid) (e : AclEntry) (attr : AclEntryAttr) :
    List Oid → AclDb ac × BitVec 32 → Option (AclDb ac × BitVec 32)
  | [], w => some w
  | groupId :: rest, w =>
    match w.1.groups.lookup groupId with
    | none => none
    | some g =>
      (g.bindPoints.foldlM (updateEntryAt entryId e attr (.member g (g.indexOf e.tableId)))
        w).bind (updateEntryAtGroups entryId e attr rest)

/-- `ctc_sai_acl_set_acl_entry_info`. -/
def setAclEntryInfo (oid : Oid) (e : AclEntry) (attr : AclEntryAttr) :
    Option (Status × AclDb ac) :=
  match db.tables.lookup e.tableId with
  | none => some (.itemNotFound, db)
  | some t =>
    match updateEntryAtGroups oid e attr t.groupList (db, 0) with
    | none => none
    | some w =>
      (t.bindPoints.foldlM (updateEntryAt oid e attr (.table t.tableStage)) w).map
        (fun w => (.success, { w.1 with entries := w.1.entries.insert oid (e.store attr) }))

/-- `ctc_sai_acl_set_acl_entry_attribute`. -/
def setAclEntryAttribute (oid : Oid) (attr : AclEntryAttr) : Option (Status × AclDb ac) :=
  match db.entries.lookup oid with
  | none => some (.itemNotFound, db)
  | some e =>
    if e.mismatch attr then some (.invalidParameter, db)
    else
      match attr.setFunction with
      | .success => setAclEntryInfo db oid e attr
      | st => some (st, db)

end Set

end CtcSai
