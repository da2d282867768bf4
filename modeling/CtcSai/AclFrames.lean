/-
# `AclFrames` — what the rules of a bind point leave alone

Putting rules somewhere and taking them away changes the SDK's groups and rules, their
ids and the records of them.  The objects of the API, the bindings and the lookups stay
as they are; and a removal goes through as long as the tables it walks exist.
-/
import CtcSai.AclBind

namespace CtcSai

open KeyedTable IdPool

variable {ac : AclChip}

/-! ## The objects -/

/-- What an API call sees of the database, and the lookups. -/
@[ext]
structure AclObjects (ac : AclChip) where
  groups : Table Oid AclGroup
  tables : Table Oid AclTable
  members : Table Oid AclTableGroupMember
  entries : Table Oid AclEntry
  ranges : Table Oid AclRange
  counters : Table Oid AclCounter
  bound : Table Oid Oid
  groupIndices : Pool ac.groupIndices
  tableIndices : Pool ac.tableIndices
  entryIndices : Pool ac.entryIndices
  groupMemberIndices : Pool ac.groupMemberIndices
  rangeIndices : Pool ac.rangeIndices
  counterIndices : Pool ac.counterIndices
  lookups : LookupReg → AclProperty
  lookupAnswers : List CtcE

def AclDb.objects (db : AclDb ac) : AclObjects ac where
  groups := db.groups
  tables := db.tables
  members := db.members
  entries := db.entries
  ranges := db.ranges
  counters := db.counters
  bound := db.bound
  groupIndices := db.groupIndices
  tableIndices := db.tableIndices
  entryIndices := db.entryIndices
  groupMemberIndices := db.groupMemberIndices
  rangeIndices := db.rangeIndices
  counterIndices := db.counterIndices
  lookups := db.hw.lookups
  lookupAnswers := db.hw.lookupAnswers

section Parts

variable {db db' : AclDb ac} (h : db'.objects = db.objects)

include h

theorem groups_of_objects : db'.groups = db.groups := congrArg AclObjects.groups h

theorem tables_of_objects : db'.tables = db.tables := congrArg AclObjects.tables h

theorem bound_of_objects : db'.bound = db.bound := congrArg AclObjects.bound h

theorem lookups_of_objects : db'.hw.lookups = db.hw.lookups := congrArg AclObjects.lookups h

theorem lookupAnswers_of_objects : db'.hw.lookupAnswers = db.hw.lookupAnswers :=
  congrArg AclObjects.lookupAnswers h

end Parts

/-- A call of the SDK that does not switch lookups. -/
def KeepsLookups (f : AclHw → AclHw) : Prop :=
  ∀ hw, (f hw).lookups = hw.lookups ∧ (f hw).lookupAnswers = hw.lookupAnswers

theorem AclHw.keepsLookups_addEntry (id : BitVec 32) (r : SdkRule) :
    KeepsLookups (·.addEntry id r) := by
  intro hw
  simp only [addEntry]
  split <;> exact ⟨rfl, rfl⟩

theorem AclHw.keepsLookups_setInstalled (id : BitVec 32) (b : Bool) :
    KeepsLookups (·.setInstalled id b) := by
  intro hw
  simp only [setInstalled]
  split <;> exact ⟨rfl, rfl⟩

theorem AclHw.keepsLookups_removeEntry (id : BitVec 32) : KeepsLookups (·.removeEntry id) :=
  fun _ => ⟨rfl, rfl⟩

theorem AclHw.keepsLookups_destroyGroup (id : BitVec 32) : KeepsLookups (·.destroyGroup id) :=
  fun _ => ⟨rfl, rfl⟩

theorem AclHw.call_lookups (hw : AclHw) :
    hw.call.2.lookups = hw.lookups ∧ hw.call.2.lookupAnswers = hw.lookupAnswers := by
  simp only [call]
  split <;> exact ⟨rfl, rfl⟩

theorem AclHw.groupCall_lookups (hw : AclHw) :
    hw.groupCall.2.lookups = hw.lookups ∧ hw.groupCall.2.lookupAnswers = hw.lookupAnswers := by
  simp only [groupCall]
  split <;> exact ⟨rfl, rfl⟩

theorem AclHw.attempt_lookups (hw : AclHw) {f : AclHw → AclHw} (hf : KeepsLookups f) :
    (hw.attempt f).lookups = hw.lookups ∧ (hw.attempt f).lookupAnswers = hw.lookupAnswers := by
  have hcall := hw.call_lookups
  simp only [attempt]
  split
  · next hw' he =>
    rw [he] at hcall
    exact ⟨(hf hw').1.trans hcall.1, (hf hw').2.trans hcall.2⟩
  · next hw' _ he =>
    rw [he] at hcall
    exact hcall

theorem AclHw.createGroup_lookups (hw : AclHw) (id : BitVec 32) (info : SdkGroup) :
    (hw.createGroup id info).2.lookups = hw.lookups ∧
      (hw.createGroup id info).2.lookupAnswers = hw.lookupAnswers := by
  have hcall := hw.groupCall_lookups
  simp only [createGroup]
  split
  · next he => rw [he] at hcall; exact hcall
  · next he => rw [he] at hcall; exact hcall

section Frames

variable (db : AclDb ac) (o : BindPointInfo)
variable {object : Oid} {r : Status × AclDb ac}

theorem objects_ruleCall (entryId : Oid) (id : BitVec 32) {f : AclHw → AclHw}
    (hf : KeepsLookups f) : (db.ruleCall o entryId id f).objects = db.objects := by
  obtain ⟨h, h'⟩ := db.hw.attempt_lookups hf
  simp only [AclDb.ruleCall, AclDb.objects, h, h']

theorem objects_freeRuleId (entryId : Oid) (id : BitVec 32) :
    (db.freeRuleId o entryId id).objects = db.objects := rfl

theorem objects_removeCopy (entryId : Oid) (id : BitVec 32) :
    (removeCopy db o entryId id).objects = db.objects := by
  rw [removeCopy, objects_freeRuleId, objects_ruleCall _ _ _ _ (AclHw.keepsLookups_removeEntry _),
    objects_ruleCall _ _ _ _ (AclHw.keepsLookups_setInstalled _ _)]

theorem objects_foldl {α : Type} {f : AclDb ac → α → AclDb ac}
    (hf : ∀ db a, (f db a).objects = db.objects) (l : List α) (db : AclDb ac) :
    (l.foldl f db).objects = db.objects := by
  induction l generalizing db with
  | nil => rfl
  | cons a l ih => exact (ih (f db a)).trans (hf db a)

theorem objects_entryRemove (entryId : Oid) :
    (bindPointAclEntryRemove db o entryId).2.objects = db.objects := by
  simp only [bindPointAclEntryRemove]
  split
  · rfl
  · split
    · rfl
    · exact objects_foldl (fun db n => objects_removeCopy db o entryId _) _ db

theorem objects_addAclEntryToSdk (gid : BitVec 32) (entryId : Oid) (id priority : BitVec 32)
    (e : AclEntry) : (addAclEntryToSdk db o gid entryId id priority e).objects = db.objects := by
  have hadd := objects_foldl (fun (db : AclDb ac) (n : Nat) => objects_ruleCall db o entryId
    (id + BitVec.ofNat 32 n) (AclHw.keepsLookups_addEntry (id + BitVec.ofNat 32 n)
      (e.rule o gid priority (e.words ac)[n]?)))
  have hinst := objects_foldl (fun (db : AclDb ac) (n : Nat) => objects_ruleCall db o entryId
    (id + BitVec.ofNat 32 n) (AclHw.keepsLookups_setInstalled (id + BitVec.ofNat 32 n) true))
  simp only [addAclEntryToSdk]
  split
  · rw [hinst, hadd]
  · rw [hadd]

theorem objects_freeBlock (entryId : Oid) (id : BitVec 32) (e : AclEntry) :
    (freeBlock db o entryId id e).objects = db.objects := by
  simp only [freeBlock]
  rw [objects_freeRuleId]
  split
  · exact objects_foldl (fun db n => objects_freeRuleId db o entryId _) _ db
  · rfl

theorem objects_takeFurther (entryId : Oid) (n : Nat) (db : AclDb ac) :
    (takeFurther o entryId n db).2.objects = db.objects := by
  induction n generalizing db with
  | zero => rfl
  | succ n ih =>
    rw [takeFurther]
    split
    · rfl
    · exact (ih _).trans rfl

theorem objects_entryAdd (gid : BitVec 32) (entryId : Oid) (priority : BitVec 32) :
    (bindPointAclEntryAdd db o gid entryId priority).2.objects = db.objects := by
  simp only [bindPointAclEntryAdd]
  split
  · rfl
  next e _ =>
  split
  · rfl
  next i pool _ =>
  have htake : ∀ r, (if e.inPorts then takeFurther o entryId 7
      (db.takeRuleId o entryId i pool) else (true, db.takeRuleId o entryId i pool)) = r →
      r.2.objects = db.objects := by
    rintro r rfl
    split
    · exact objects_takeFurther o entryId 7 _
    · rfl
  split
  · next db' he => exact (objects_freeBlock _ o entryId _ e).trans (htake _ he)
  next db' he =>
  split
  · rw [objects_freeBlock, objects_ruleCall _ _ _ _ (AclHw.keepsLookups_removeEntry _),
      objects_ruleCall _ _ _ _ (AclHw.keepsLookups_setInstalled _ _),
      objects_addAclEntryToSdk]
    exact htake _ he
  · exact (objects_addAclEntryToSdk _ o gid entryId _ priority e).trans (htake _ he)

theorem objects_removeEntries (entryList : List AclTableMember) :
    (removeEntries db o entryList).objects = db.objects :=
  objects_foldl (fun db (m : AclTableMember) => objects_entryRemove db o m.entryId) entryList db

theorem objects_removeTableAt {db' : AclDb ac} {tableId : Oid}
    (h : removeTableAt db o tableId = some db') : db'.objects = db.objects := by
  simp only [removeTableAt] at h
  split at h
  · cases h; rfl
  split at h
  · cases h
  next gid _ _ t _ =>
  cases h
  have hrest := objects_removeEntries db o t.entryList
  obtain ⟨hl, ha⟩ := (removeEntries db o t.entryList).hw.attempt_lookups
    (AclHw.keepsLookups_destroyGroup gid)
  rw [← hrest]
  simp only [AclDb.objects, hl, ha]

theorem objects_removeTables {tables : List Oid} :
    ∀ {db db' : AclDb ac}, removeTables o tables db = some db' → db'.objects = db.objects := by
  induction tables with
  | nil => intro db db' h; cases h; rfl
  | cons tableId rest ih =>
    intro db db' h
    rw [removeTables, Option.bind_eq_some_iff] at h
    obtain ⟨mid, hmid, h⟩ := h
    exact (ih h).trans (objects_removeTableAt db o hmid)

theorem objects_bindPointAclRemove {db' : AclDb ac} {object : Oid}
    (h : bindPointAclRemove db o object = some db') : db'.objects = db.objects := by
  simp only [bindPointAclRemove] at h
  split at h
  · split at h
    · cases h
    · exact objects_removeTables o h
  · split at h
    · exact objects_removeTableAt db o h
    · cases h; rfl

theorem objects_addEntries {gid : BitVec 32} {priority : BitVec 16 → BitVec 32}
    {entryList : List AclTableMember} :
    ∀ {db : AclDb ac}, (addEntries o gid priority entryList db).2.objects = db.objects := by
  induction entryList with
  | nil => intro db; rfl
  | cons m rest ih =>
    intro db
    have hone := objects_entryAdd db o gid m.entryId (priority m.priority)
    rw [addEntries]
    split
    · next db' he =>
      rw [he] at hone
      exact ih.trans hone
    · exact hone

theorem objects_addTableAt {tableId : Oid} {info : SdkGroup} {priority : BitVec 16 → BitVec 32}
    (h : addTableAt db o tableId info priority = some r) :
    r.2.objects = db.objects := by
  simp only [addTableAt] at h
  split at h
  · cases h; rfl
  next i pool _ =>
  have hgroup := db.hw.createGroup_lookups (BitVec.ofNat 32 i) info
  split at h
  · next hw he =>
    rw [he] at hgroup
    have hmade : ({ db with sdkGroupIds := pool, hw := hw }).objects = db.objects := by
      obtain ⟨hl, ha⟩ := hgroup
      dsimp only at hl ha
      simp only [AclDb.objects, hl, ha]
    split at h
    · cases h; exact hmade
    split at h
    · cases h
    · cases h
      rw [objects_addEntries]
      exact hmade
  · next hw _ he =>
    rw [he] at hgroup
    obtain ⟨hl, ha⟩ := hgroup
    cases h
    dsimp only at hl ha
    simp only [AclDb.objects, hl, ha]

theorem objects_addMembers {g : AclGroup} {l : List AclGroupMember} :
    ∀ {ii : Nat} {db : AclDb ac} {r : Status × AclDb ac}, addMembers o g l ii db = some r →
      r.2.objects = db.objects := by
  induction l with
  | nil => intro ii db r h; cases h; rfl
  | cons m rest ih =>
    intro ii db r h
    simp only [addMembers] at h
    split at h
    · next db' he => exact (ih h).trans (objects_addTableAt db o he)
    · exact objects_addTableAt db o h

theorem objects_addObject (h : addObject db o object = some r) : r.2.objects = db.objects := by
  simp only [addObject] at h
  split at h
  · split at h
    · cases h
    · exact objects_addMembers o h
  split at h
  · split at h
    · cases h
    · exact objects_addTableAt db o h
  · cases h; rfl

theorem objects_bindPointAclAdd (h : bindPointAclAdd db o object = some r) :
    r.2.objects = db.objects := by
  simp only [bindPointAclAdd] at h
  split at h
  · next db' he => cases h; exact objects_addObject db o he
  · next st db' _ he =>
    rw [Option.map_eq_some_iff] at h
    obtain ⟨db'', hrem, rfl⟩ := h
    exact (objects_bindPointAclRemove db' o hrem).trans (objects_addObject db o he)
  · cases h

end Frames

end CtcSai
