/-
# `AclBind` — ctc_sai_acl.c, binding tables and groups

An object keeps the id of the ACL bound to it in one record, and the ACL keeps the
object in its list of bind points.  Binding switches the lookups of the object's ports
(or of its VLAN) on in the SDK and puts the rules there.

A result of `none` stands for a NULL pointer that the code follows, or for a write
behind an array or a list node that is not there.
-/
import CtcSai.AclRules

namespace CtcSai

variable {ac : AclChip}

/-! ## Lookups -/

/-- One lookup of a bound object: `ctc_acl_property_t` with its priority and
direction. -/
structure AclLookup where
  priority : BitVec 8
  dir : AclStage
  property : AclProperty
deriving DecidableEq

/-- The lookup of a table that is bound itself. -/
def tableLookup (ac : AclChip) (t : AclTable) (type : BindPointType) (stage : AclStage)
    (en : Bool) : AclLookup where
  priority := mappingTcamBlockBase t.tableStage type groupTypeSequential
  dir := stage
  property := ⟨en, if en then t.lookupType else ac.lkupTypeL2, t.tableKeyBmp.getLsbD 12⟩

/-- The lookups of a group, one for each member. -/
def groupLookups (ac : AclChip) (g : AclGroup) (type : BindPointType) (stage : AclStage)
    (en : Bool) : List AclLookup :=
  if g.groupType = groupTypeSequential ∨ g.groupType = groupTypeParallel then
    (List.range g.memberList.length).map fun n =>
      { priority := mappingTcamBlockBase g.groupStage type g.groupType +
          (memberPriorityAt g n).setWidth 8
        dir := stage
        property := ⟨en, if en then g.lookupType else ac.lkupTypeL2, ac.nodeUsesPortBitmap g.memberList⟩ }
  else []

namespace AclHw

/-- The next answer of a call that switches a lookup. -/
def lookupCall (hw : AclHw) : CtcE × AclHw :=
  match hw.lookupAnswers with
  | [] => (.none, hw)
  | rc :: rest => (rc, { hw with lookupAnswers := rest })

/-- `ctcs_port_set_acl_property` and `ctcs_vlan_set_acl_property`. -/
def setProperty (hw : AclHw) (reg : LookupReg) (p : AclProperty) : Status × AclHw :=
  match hw.lookupCall with
  | (.none, hw) => (.success, { hw with lookups := Function.update hw.lookups reg p })
  | (e, hw) => (mappingErrorCtc e, hw)

/-- Properties are set one after another; the first failure is returned. -/
def setProperties : List (LookupReg × AclProperty) → AclHw → Status × AclHw
  | [], hw => (.success, hw)
  | (reg, p) :: rest, hw =>
    match hw.setProperty reg p with
    | (.success, hw) => setProperties rest hw
    | r => r

/-- Properties are set one after another, whatever the calls return. -/
def setPropertiesAll (writes : List (LookupReg × AclProperty)) (hw : AclHw) : AclHw :=
  writes.foldl (fun hw w => (hw.setProperty w.1 w.2).2) hw

end AclHw

/-- The writes of `_ctc_sai_acl_sdk_lookup_enable_set`, in its order: a LAG and the
switch go port by port. -/
def lookupWrites (ac : AclChip) (o : BindPointInfo) (lookups : List AclLookup) :
    List (LookupReg × AclProperty) :=
  match o.bindType with
  | .port => lookups.map fun l => (.port o.bindIndex.value l.priority l.dir, l.property)
  | .lag => (ac.lagMemberPorts (o.bindIndex.value &&& 0xFF)).flatMap fun gport =>
    lookups.map fun l => (.port gport l.priority l.dir, l.property)
  | .vlan => lookups.map fun l => (.vlan o.bindIndex.value l.priority l.dir, l.property)
  | .switch => ac.panelPorts.flatMap fun gport =>
    lookups.map fun l => (.port gport l.priority l.dir, l.property)
  | .routerInterface => []

/-- The bit of a bind point type in a bind point list. -/
def allows (bindPointList : BitVec 8) (type : BindPointType) : Bool :=
  bindPointList.getLsbD type.toNat

section Bind

variable (db : AclDb ac)

/-- The end of `_ctc_sai_acl_sdk_lookup_enable_set`: only a LAG ignores the SDK. -/
def writeLookups (o : BindPointInfo) (lookups : List AclLookup) : Status × AclDb ac :=
  let writes := lookupWrites ac o lookups
  if o.bindType = .lag then (.success, { db with hw := db.hw.setPropertiesAll writes })
  else
    let (st, hw) := db.hw.setProperties writes
    (st, { db with hw := hw })

/-- `_ctc_sai_acl_sdk_lookup_enable_set`; `acl_prop` has room for two lookups. -/
def sdkLookupEnableSet (o : BindPointInfo) (stage : AclStage) (object : Oid) (en : Bool) :
    Option (Status × AclDb ac) :=
  if object.type = ObjectType.aclTable.bits then
    match db.tables.lookup object with
    | none => some (.itemNotFound, db)
    | some t =>
      if stage ≠ t.tableStage ∨ ¬ allows t.bindPointList o.bindType then some (.notSupported, db)
      else some (writeLookups db o [tableLookup ac t o.bindType stage en])
  else if object.type = ObjectType.aclTableGroup.bits then
    match db.groups.lookup object with
    | none => none
    | some g =>
      if stage ≠ g.groupStage ∨ ¬ allows g.bindPointList o.bindType then some (.notSupported, db)
      else
        let lookups := groupLookups ac g o.bindType stage en
        if 2 < lookups.length then none else some (writeLookups db o lookups)
  else some (writeLookups db o [])

/-- `_ctc_sai_acl_bound_oid_check`. -/
def boundOidCheck (o : BindPointInfo) (stage : AclStage) (object : Oid) : Status :=
  if object.type = ObjectType.aclTableGroup.bits then
    match db.groups.lookup object with
    | none => .itemNotFound
    | some g =>
      if ¬ allows g.bindPointList o.bindType then .notSupported
      else if g.groupStage ≠ stage then .notSupported
      else .success
  else if object.type = ObjectType.aclTable.bits then
    match db.tables.lookup object with
    | none => .itemNotFound
    | some t =>
      if ¬ allows t.bindPointList o.bindType then .notSupported
      else if t.tableStage ≠ stage then .notSupported
      else .success
  else if object.type = ObjectType.null.bits then .success
  else .invalidParameter

/-! ## Bind and unbind -/

/-- The list of bind points of a table or group is rewritten. -/
def AclDb.mapBindPoints (object : Oid) (f : List BindPointInfo → List BindPointInfo) : AclDb ac :=
  if object.type = ObjectType.aclTableGroup.bits then
    match db.groups.lookup object with
    | some g =>
      { db with groups := db.groups.insert object { g with bindPoints := f g.bindPoints } }
    | none => db
  else if object.type = ObjectType.aclTable.bits then
    match db.tables.lookup object with
    | some t =>
      { db with tables := db.tables.insert object { t with bindPoints := f t.bindPoints } }
    | none => db
  else db

/-- The bind points of a table or group. -/
def AclDb.bindPoints (object : Oid) : List BindPointInfo :=
  if object.type = ObjectType.aclTableGroup.bits then
    match db.groups.lookup object with
    | some g => g.bindPoints
    | none => []
  else if object.type = ObjectType.aclTable.bits then
    match db.tables.lookup object with
    | some t => t.bindPoints
    | none => []
  else []

/-- `ctc_sai_db_entry_property_add` of the record of an object: it does not replace. -/
def AclDb.addBound (o : BindPointInfo) (object : Oid) : AclDb ac :=
  match db.bound.lookup o.bindIndex with
  | some _ => db
  | none => { db with bound := db.bound.insert o.bindIndex object }

/-- `_ctc_sai_acl_add_bind`. -/
def addBind (o : BindPointInfo) (stage : AclStage) (object : Oid) : Option (Status × AclDb ac) :=
  match boundOidCheck db o stage object with
  | .success =>
    if o.bindType = .routerInterface then some (.notSupported, db)
    else
      match sdkLookupEnableSet db o stage object true with
      | some (.success, db) =>
        match bindPointAclAdd db o object with
        | some (.success, db) =>
          some (.success, (db.mapBindPoints object (o :: ·)).addBound o object)
        | some (st, db) =>
          (sdkLookupEnableSet db o stage object false).map (fun r => (st, r.2))
        | none => none
      | r => r
  | st => some (st, db)

/-- `_ctc_sai_acl_remove_bind` of the object `old` in the record: the node of the first
bind point with this object goes, and there has to be one. -/
def removeBind (o : BindPointInfo) (stage : AclStage) (old : Oid) : Option (Status × AclDb ac) :=
  match sdkLookupEnableSet db o stage old false with
  | some (.success, db) =>
    match bindPointAclRemove db o old with
    | none => none
    | some db =>
      if (old.type = ObjectType.aclTableGroup.bits ∨ old.type = ObjectType.aclTable.bits) ∧
          ¬ ∃ b ∈ db.bindPoints old, b.bindIndex = o.bindIndex then none
      else
        let db := db.mapBindPoints old (·.eraseP (fun b => b.bindIndex = o.bindIndex))
        some (.success, { db with bound := db.bound.erase o.bindIndex })
  | r => r

/-- `_ctc_sai_acl_update_bind`: both results are dropped. -/
def updateBind (o : BindPointInfo) (stage : AclStage) (old object : Oid) :
    Option (Status × AclDb ac) :=
  match removeBind db o stage old with
  | none => none
  | some (_, db) => (addBind db o stage object).map (fun r => (.success, r.2))

/-- `ctc_sai_acl_bind_point_set`. -/
def bindPointSet (o : BindPointInfo) (stage : AclStage) (object : Oid) :
    Option (Status × AclDb ac) :=
  match db.bound.lookup o.bindIndex with
  | none => if object = Oid.null then some (.success, db) else addBind db o stage object
  | some old =>
    if object = Oid.null then removeBind db o stage old
    else if old = object then some (.success, db)
    else updateBind db o stage old object

end Bind

end CtcSai
