/-
# `AclBindView` — tables and groups as what can be bound

Binding treats tables and groups alike: both have a stage, a list of bind point types,
bind points, and lookups to switch.  With an SDK that switches what it is asked to, the
lookups are written as asked; and with the tables of a group all there, its rules can be
walked.
-/
import CtcSai.AclFrames

namespace CtcSai

open Function KeyedTable

variable {ac : AclChip}

/-! ## Tables and groups alike -/

inductive Acl where
  | table (t : AclTable)
  | group (g : AclGroup)

namespace Acl

/-- `table_stage` and `group_stage`. -/
def stage : Acl → AclStage
  | .table t => t.tableStage
  | .group g => g.groupStage

/-- `bind_point_list`. -/
def bindPointList : Acl → BitVec 8
  | .table t => t.bindPointList
  | .group g => g.bindPointList

/-- `bind_points`. -/
def bindPoints : Acl → List BindPointInfo
  | .table t => t.bindPoints
  | .group g => g.bindPoints

def withBindPoints : Acl → List BindPointInfo → Acl
  | .table t, l => .table { t with bindPoints := l }
  | .group g, l => .group { g with bindPoints := l }

def memberTables : Acl → List Oid
  | .table _ => []
  | .group g => g.memberList.map (·.tableId)

/-- The lookups that binding switches. -/
def lookups (ac : AclChip) (type : BindPointType) (stage : AclStage) (en : Bool) :
    Acl → List AclLookup
  | .table t => [tableLookup ac t type stage en]
  | .group g => groupLookups ac g type stage en

@[simp] theorem bindPoints_withBindPoints (a : Acl) (l) : (a.withBindPoints l).bindPoints = l := by
  cases a <;> rfl

theorem lookups_switch (ac : AclChip) (a : Acl) (type : BindPointType) (stage : AclStage) (en en' : Bool) :
    (a.lookups ac type stage en).map (fun l => (l.priority, l.dir)) =
      (a.lookups ac type stage en').map (fun l => (l.priority, l.dir)) := by
  cases a with
  | table t => rfl
  | group g =>
    simp only [lookups, groupLookups]
    split
    · rw [List.map_map, List.map_map]; rfl
    · rfl

theorem aclEn_lookups (a : Acl) (type : BindPointType) (stage : AclStage) (en : Bool) :
    ∀ l ∈ a.lookups ac type stage en, l.property.aclEn = en := by
  intro l hl
  cases a with
  | table t => rw [List.mem_singleton.mp hl]; rfl
  | group g =>
    simp only [lookups, groupLookups] at hl
    split at hl
    · obtain ⟨n, -, rfl⟩ := List.mem_map.mp hl; rfl
    · cases hl

end Acl

def AclDb.acl (db : AclDb ac) (object : Oid) : Option Acl :=
  if object.type = ObjectType.aclTableGroup.bits then (db.groups.lookup object).map .group
  else if object.type = ObjectType.aclTable.bits then (db.tables.lookup object).map .table
  else none

section View

variable (db : AclDb ac)

theorem acl_of_objects {db db' : AclDb ac} (h : db'.objects = db.objects) (X : Oid) :
    db'.acl X = db.acl X := by
  rw [AclDb.acl, AclDb.acl, groups_of_objects h, tables_of_objects h]

theorem acl_congr {db db' : AclDb ac} (hg : db'.groups = db.groups) (ht : db'.tables = db.tables)
    (X : Oid) : db'.acl X = db.acl X := by
  rw [AclDb.acl, AclDb.acl, hg, ht]

theorem group_ne_table : ObjectType.aclTable.bits ≠ ObjectType.aclTableGroup.bits := by decide

theorem bindPoints_eq (X : Oid) :
    db.bindPoints X = match db.acl X with | some a => a.bindPoints | none => [] := by
  simp only [AclDb.bindPoints, AclDb.acl]
  split
  · cases db.groups.lookup X <;> rfl
  · split
    · cases db.tables.lookup X <;> rfl
    · rfl

theorem acl_mapBindPoints (X : Oid) (f : List BindPointInfo → List BindPointInfo) (Z : Oid) :
    (db.mapBindPoints X f).acl Z =
      if Z = X then (db.acl X).map (fun a => a.withBindPoints (f a.bindPoints)) else db.acl Z := by
  simp only [AclDb.mapBindPoints]
  split
  · next hX =>
    split
    · next g hg =>
      simp only [AclDb.acl]
      by_cases hZ : Z = X
      · subst hZ
        rw [if_pos hX, if_pos hX, if_pos rfl, AList.lookup_insert, hg]
        rfl
      · rw [if_neg hZ, AList.lookup_insert_ne hZ]
    next hg =>
    split
    · next hZ => subst hZ; simp [AclDb.acl, hX, hg]
    · rfl
  · next hX =>
    split
    · next hT =>
      split
      · next t ht =>
        simp only [AclDb.acl]
        by_cases hZ : Z = X
        · subst hZ
          rw [if_neg hX, if_neg hX, if_pos hT, if_pos hT, if_pos rfl, AList.lookup_insert, ht]
          rfl
        · rw [if_neg hZ, AList.lookup_insert_ne hZ]
      next ht =>
      split
      · next hZ =>
        subst hZ
        simp only [AclDb.acl, if_neg hX, if_pos hT, ht, Option.map_none]
      · rfl
    · next hT =>
      split
      · next hZ => subst hZ; simp [AclDb.acl, hX, hT]
      · rfl

theorem tables_isSome_mapBindPoints (X : Oid) (f : List BindPointInfo → List BindPointInfo)
    (Z : Oid) : ((db.mapBindPoints X f).tables.lookup Z).isSome = (db.tables.lookup Z).isSome := by
  simp only [AclDb.mapBindPoints]
  split
  · split <;> rfl
  split
  · split
    · next t ht =>
      rw [Table.lookup_insert_ite]
      split
      · next hZ => rw [hZ, ht]; rfl
      · rfl
    · rfl
  · rfl

theorem mapBindPoints_rest (X : Oid) (f : List BindPointInfo → List BindPointInfo) :
    (db.mapBindPoints X f).bound = db.bound ∧ (db.mapBindPoints X f).hw = db.hw := by
  simp only [AclDb.mapBindPoints]
  split
  · split <;> exact ⟨rfl, rfl⟩
  · split
    · split <;> exact ⟨rfl, rfl⟩
    · exact ⟨rfl, rfl⟩

/-- The check lets a table or group through that is there, allows the type and has the
stage. -/
theorem boundOidCheck_success {o : BindPointInfo} {stage : AclStage} {X : Oid}
    (hX : X.type = ObjectType.aclTable.bits ∨ X.type = ObjectType.aclTableGroup.bits) :
    boundOidCheck db o stage X = .success ↔
      ∃ a, db.acl X = some a ∧ allows a.bindPointList o.bindType = true ∧ a.stage = stage := by
  rcases hX with hX | hX
  · have hne : X.type ≠ ObjectType.aclTableGroup.bits := by rw [hX]; exact group_ne_table
    simp only [boundOidCheck, AclDb.acl, if_neg hne, if_pos hX]
    cases db.tables.lookup X with
    | none => simp
    | some t =>
      cases hA : allows t.bindPointList o.bindType <;>
        by_cases hs : t.tableStage = stage <;> simp [Acl.bindPointList, Acl.stage, hA, hs]
  simp only [boundOidCheck, AclDb.acl, if_pos hX]
  cases db.groups.lookup X with
  | none => simp
  | some g =>
    cases hA : allows g.bindPointList o.bindType <;>
      by_cases hs : g.groupStage = stage <;> simp [Acl.bindPointList, Acl.stage, hA, hs]

theorem sdkLookupEnableSet_eq {o : BindPointInfo} {stage : AclStage} {X : Oid} {a : Acl}
    (ha : db.acl X = some a) (hallow : allows a.bindPointList o.bindType = true)
    (hstage : a.stage = stage) (en : Bool)
    (hfit : (a.lookups ac o.bindType stage en).length ≤ 2) :
    sdkLookupEnableSet db o stage X en =
      some (writeLookups db o (a.lookups ac o.bindType stage en)) := by
  simp only [AclDb.acl] at ha
  split at ha
  · next hX =>
    obtain ⟨g, hg, rfl⟩ := Option.map_eq_some_iff.mp ha
    have hne : X.type ≠ ObjectType.aclTable.bits := by rw [hX]; exact group_ne_table.symm
    simp only [Acl.bindPointList, Acl.stage, Acl.lookups] at hallow hstage hfit ⊢
    simp only [sdkLookupEnableSet, if_neg hne, if_pos hX, hg, hstage, hallow]
    rw [if_neg (by simp), if_neg (by omega)]
  split at ha
  · next hX =>
    obtain ⟨t, ht, rfl⟩ := Option.map_eq_some_iff.mp ha
    simp only [Acl.bindPointList, Acl.stage, Acl.lookups] at hallow hstage hfit ⊢
    simp only [sdkLookupEnableSet, if_pos hX, ht, hstage, hallow]
    rw [if_neg (by simp)]
  · cases ha

theorem acl_type {X : Oid} {a : Acl} (ha : db.acl X = some a) :
    X.type = ObjectType.aclTable.bits ∨ X.type = ObjectType.aclTableGroup.bits := by
  simp only [AclDb.acl] at ha
  split at ha
  · next h => exact Or.inr h
  · split at ha
    · next h => exact Or.inl h
    · cases ha

end View

/-! ## Switching lookups -/

def setAll (lookups : LookupReg → AclProperty) (writes : List (LookupReg × AclProperty)) :
    LookupReg → AclProperty :=
  writes.foldl (fun l w => update l w.1 w.2) lookups

theorem aclEn_setAll {writes : List (LookupReg × AclProperty)} {en : Bool}
    (hen : ∀ w ∈ writes, w.2.aclEn = en) (lookups : LookupReg → AclProperty) (reg : LookupReg) :
    (setAll lookups writes reg).aclEn =
      if reg ∈ writes.map (·.1) then en else (lookups reg).aclEn := by
  induction writes generalizing lookups with
  | nil => rfl
  | cons w rest ih =>
    have hrest := ih (fun w' hw' => hen w' (List.mem_cons_of_mem _ hw')) (update lookups w.1 w.2)
    rw [setAll, List.foldl_cons, ← setAll, hrest, List.map_cons]
    by_cases hr : reg ∈ rest.map (·.1)
    · rw [if_pos hr, if_pos (List.mem_cons_of_mem _ hr)]
    rw [if_neg hr, update_apply]
    by_cases hw : reg = w.1
    · rw [if_pos hw, if_pos (hw ▸ List.mem_cons_self ..), hen w (List.mem_cons_self ..)]
    rw [if_neg hw, if_neg]
    intro hmem
    rcases List.mem_cons.mp hmem with h | h
    · exact hw h
    · exact hr h

namespace AclHw

theorem setProperty_eq {hw : AclHw} (h : hw.lookupAnswers = []) (reg : LookupReg)
    (p : AclProperty) :
    hw.setProperty reg p = (.success, { hw with lookups := update hw.lookups reg p }) := by
  simp only [setProperty, lookupCall, h]

theorem setProperties_eq {writes : List (LookupReg × AclProperty)} {hw : AclHw}
    (h : hw.lookupAnswers = []) :
    hw.setProperties writes = (.success, { hw with lookups := setAll hw.lookups writes }) := by
  induction writes generalizing hw with
  | nil => rfl
  | cons w rest ih =>
    rw [setProperties, setProperty_eq h]
    dsimp only
    rw [ih (by exact h)]
    rfl

theorem setPropertiesAll_eq {writes : List (LookupReg × AclProperty)} {hw : AclHw}
    (h : hw.lookupAnswers = []) :
    hw.setPropertiesAll writes = { hw with lookups := setAll hw.lookups writes } := by
  induction writes generalizing hw with
  | nil => rfl
  | cons w rest ih =>
    rw [setPropertiesAll, List.foldl_cons, setProperty_eq h, ← setPropertiesAll, ih (by exact h)]
    rfl

end AclHw

/-- The database with lookups written. -/
def AclDb.withLookups (db : AclDb ac) (writes : List (LookupReg × AclProperty)) : AclDb ac :=
  { db with hw := { db.hw with lookups := setAll db.hw.lookups writes } }

theorem writeLookups_eq {db : AclDb ac} (h : db.hw.lookupAnswers = []) (o : BindPointInfo)
    (lookups : List AclLookup) :
    writeLookups db o lookups = (.success, db.withLookups (lookupWrites ac o lookups)) := by
  simp only [writeLookups]
  split
  · rw [AclHw.setPropertiesAll_eq h]; rfl
  · rw [AclHw.setProperties_eq h]; rfl

theorem lookupWrites_regs {o : BindPointInfo} {l l' : List AclLookup}
    (h : l.map (fun l => (l.priority, l.dir)) = l'.map (fun l => (l.priority, l.dir))) :
    (lookupWrites ac o l).map (·.1) = (lookupWrites ac o l').map (·.1) := by
  have hport : ∀ mk : BitVec 8 → AclStage → LookupReg,
      (l.map fun l => (mk l.priority l.dir, l.property)).map (·.1) =
        (l'.map fun l => (mk l.priority l.dir, l.property)).map (·.1) := by
    intro mk
    have hmk := congrArg (List.map fun x => mk x.1 x.2) h
    rw [List.map_map, List.map_map] at hmk ⊢
    exact hmk
  cases ho : o.bindType with
  | port => simp only [lookupWrites, ho]; exact hport fun p d => .port o.bindIndex.value p d
  | lag =>
    simp only [lookupWrites, ho]
    rw [List.map_flatMap, List.map_flatMap]
    exact congrArg (fun f => List.flatMap f _) (funext fun g => hport fun p d => .port g p d)
  | vlan => simp only [lookupWrites, ho]; exact hport fun p d => .vlan o.bindIndex.value p d
  | routerInterface => simp only [lookupWrites, ho]
  | switch =>
    simp only [lookupWrites, ho]
    rw [List.map_flatMap, List.map_flatMap]
    exact congrArg (fun f => List.flatMap f _) (funext fun g => hport fun p d => .port g p d)

theorem aclEn_lookupWrites {o : BindPointInfo} {l : List AclLookup} {en : Bool}
    (h : ∀ x ∈ l, x.property.aclEn = en) : ∀ w ∈ lookupWrites ac o l, w.2.aclEn = en := by
  have hmap : ∀ (mk : BitVec 8 → AclStage → LookupReg),
      ∀ w ∈ l.map (fun l => (mk l.priority l.dir, l.property)), w.2.aclEn = en := by
    intro mk w hw
    obtain ⟨x, hx, rfl⟩ := List.mem_map.mp hw
    exact h x hx
  intro w hw
  cases ho : o.bindType with
  | port => rw [lookupWrites, ho] at hw; exact hmap (fun p d => .port o.bindIndex.value p d) w hw
  | lag =>
    rw [lookupWrites, ho] at hw
    obtain ⟨g, -, hw⟩ := List.mem_flatMap.mp hw
    exact hmap (fun p d => .port g p d) w hw
  | vlan => rw [lookupWrites, ho] at hw; exact hmap (fun p d => .vlan o.bindIndex.value p d) w hw
  | routerInterface => rw [lookupWrites, ho] at hw; cases hw
  | switch =>
    rw [lookupWrites, ho] at hw
    obtain ⟨g, -, hw⟩ := List.mem_flatMap.mp hw
    exact hmap (fun p d => .port g p d) w hw

/-! ## Walks that go through -/

section Walks

variable {db : AclDb ac} {o : BindPointInfo}

theorem removeTableAt_isSome {tableId : Oid} (h : (db.tables.lookup tableId).isSome) :
    (removeTableAt db o tableId).isSome := by
  obtain ⟨t, ht⟩ := Option.isSome_iff_exists.mp h
  simp only [removeTableAt, ht]
  split <;> rfl

theorem removeTables_isSome {tables : List Oid} :
    ∀ {db : AclDb ac}, (∀ T ∈ tables, (db.tables.lookup T).isSome) →
      (removeTables o tables db).isSome := by
  induction tables with
  | nil => intro db _; rfl
  | cons T rest ih =>
    intro db h
    obtain ⟨mid, hmid⟩ := Option.isSome_iff_exists.mp
      (removeTableAt_isSome (h T (List.mem_cons_self ..)))
    rw [removeTables, hmid]
    refine ih fun T' hT' => ?_
    rw [tables_of_objects (objects_removeTableAt db o hmid)]
    exact h T' (List.mem_cons_of_mem _ hT')

/-- The tables that rules of an object walk are there. -/
def WalkOk (db : AclDb ac) (object : Oid) : Prop :=
  ∃ a, db.acl object = some a ∧ ∀ T ∈ a.memberTables, (db.tables.lookup T).isSome

theorem bindPointAclRemove_isSome {object : Oid} (h : WalkOk db object) :
    (bindPointAclRemove db o object).isSome := by
  obtain ⟨a, ha, htables⟩ := h
  simp only [AclDb.acl] at ha
  simp only [bindPointAclRemove]
  split at ha
  · next hX =>
    obtain ⟨g, hg, rfl⟩ := Option.map_eq_some_iff.mp ha
    rw [if_pos hX, hg]
    exact removeTables_isSome htables
  next hX =>
  split at ha
  · next hT =>
    obtain ⟨t, ht, rfl⟩ := Option.map_eq_some_iff.mp ha
    rw [if_neg hX, if_pos hT]
    exact removeTableAt_isSome (by rw [ht]; rfl)
  · cases ha

theorem addTableAt_isSome {tableId : Oid} {info : SdkGroup} {priority : BitVec 16 → BitVec 32}
    (h : (db.tables.lookup tableId).isSome) : (addTableAt db o tableId info priority).isSome := by
  obtain ⟨t, ht⟩ := Option.isSome_iff_exists.mp h
  simp only [addTableAt]
  split
  · rfl
  split
  · split
    · rfl
    · simp only [ht]; rfl
  · rfl

theorem addMembers_isSome {g : AclGroup} {l : List AclGroupMember} :
    ∀ {ii : Nat} {db : AclDb ac}, (∀ m ∈ l, (db.tables.lookup m.tableId).isSome) →
      (addMembers o g l ii db).isSome := by
  induction l with
  | nil => intro ii db _; rfl
  | cons m rest ih =>
    intro ii db h
    simp only [addMembers]
    split
    · next db' he =>
      refine ih fun m' hm' => ?_
      rw [tables_of_objects (objects_addTableAt db o he)]
      exact h m' (List.mem_cons_of_mem _ hm')
    · exact addTableAt_isSome (h m (List.mem_cons_self ..))

theorem bindPointAclAdd_isSome {object : Oid} (h : WalkOk db object) :
    (bindPointAclAdd db o object).isSome := by
  have hadd : (addObject db o object).isSome := by
    obtain ⟨a, ha, htables⟩ := h
    simp only [AclDb.acl] at ha
    simp only [addObject]
    split at ha
    · next hX =>
      obtain ⟨g, hg, rfl⟩ := Option.map_eq_some_iff.mp ha
      rw [if_pos hX, hg]
      exact addMembers_isSome fun m hm => htables _ (List.mem_map_of_mem hm)
    next hX =>
    split at ha
    · next hT =>
      obtain ⟨t, ht, rfl⟩ := Option.map_eq_some_iff.mp ha
      simp only [if_neg hX, if_pos hT, ht]
      exact addTableAt_isSome (by rw [ht]; rfl)
    · cases ha
  obtain ⟨⟨st, mid⟩, hmid⟩ := Option.isSome_iff_exists.mp hadd
  have hobj := objects_addObject db o hmid
  simp only [bindPointAclAdd, hmid]
  split
  · rfl
  · next he =>
    obtain rfl : _ = mid := (congrArg Prod.snd (Option.some.inj he)).symm
    rw [Option.isSome_map]
    refine bindPointAclRemove_isSome ?_
    obtain ⟨a, ha, htables⟩ := h
    refine ⟨a, (acl_of_objects hobj object).trans ha, fun T hT => ?_⟩
    rw [tables_of_objects hobj]
    exact htables T hT
  · next he => cases he

end Walks

end CtcSai
