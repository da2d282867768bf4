/-
# `AclBindRuns` — bindings over whole runs

The record of an object holds one ACL and does not say for which stage; the bind points
of tables and groups and the lookups of the SDK repeat it.  `BindInv` keeps the three
together.  It survives a call as long as the object is used with one stage, a
replacement goes through, and no other bound object needs a lookup that is switched
off.
-/
import CtcSai.AclBindView
import CtcSai.Lib.Run

namespace CtcSai

open Function KeyedTable Runs Table

variable {ac : AclChip}

/-! ## Runs of `ctc_sai_acl_bind_point_set` -/

/-- A call: the attribute of a stage, of a port, LAG, VLAN or the switch, is set to a
table, a group or to nothing. -/
structure BindCall where
  oid : Oid
  stage : AclStage
  object : Oid
  isPoint : oid.type = ObjectType.port.bits ∨ oid.type = ObjectType.lag.bits ∨
    oid.type = ObjectType.vlan.bits ∨ oid.type = ObjectType.switch.bits
  isAcl : object = Oid.null ∨ object.type = ObjectType.aclTable.bits ∨
    object.type = ObjectType.aclTableGroup.bits

/-- The bind point of an object: the attribute sets of ports, LAGs, VLANs and the switch
have their own attribute ids. -/
def pointOf (oid : Oid) : BindPointInfo where
  bindType :=
    if oid.type = ObjectType.port.bits then .port
    else if oid.type = ObjectType.lag.bits then .lag
    else if oid.type = ObjectType.vlan.bits then .vlan
    else .switch
  bindIndex := oid

theorem pointOf_type (oid : Oid) : (pointOf oid).bindType ≠ .routerInterface := by
  simp only [pointOf]
  repeat' split
  all_goals nofun

/-- The database, and what calls that returned SUCCESS asked for last. -/
structure BindSys (ac : AclChip) where
  db : AclDb ac
  asked : Oid → AclStage → Oid

def bindStep (s : BindSys ac) (c : BindCall) : Option (BindSys ac) :=
  match bindPointSet s.db (pointOf c.oid) c.stage c.object with
  | none => none
  | some (st, db) =>
    if st = .success then
      some ⟨db, update s.asked c.oid (update (s.asked c.oid) c.stage c.object)⟩
    else some ⟨db, s.asked⟩

/-- The ACL that is bound to an object at a stage. -/
def boundAt (db : AclDb ac) (oid : Oid) (stage : AclStage) : Oid :=
  match db.bound.lookup oid with
  | none => Oid.null
  | some X =>
    match db.acl X with
    | some a => if a.stage = stage then X else Oid.null
    | none => Oid.null

/-- The registers of the lookups that binding `X` to an object switches on. -/
def boundRegs (db : AclDb ac) (oid X : Oid) : List LookupReg :=
  match db.acl X with
  | some a =>
    (lookupWrites ac (pointOf oid) (a.lookups ac (pointOf oid).bindType a.stage true)).map (·.1)
  | none => []

/-- Bindings are a function.  Each object and stage has the ACL asked for last; the bind
points of an ACL are the objects bound to it, once each; and a lookup is on exactly when
an object bound to something has it, with at least one lookup for what is bound. -/
structure BindingsAgree (s : BindSys ac) : Prop where
  asked : ∀ oid stage, boundAt s.db oid stage = s.asked oid stage
  listed : ∀ X oid, ((s.db.bindPoints X).map (·.bindIndex)).count oid =
    if s.db.bound.lookup oid = some X then 1 else 0
  lookups : ∀ reg, (s.db.hw.lookups reg).aclEn = true ↔
    ∃ oid X, s.db.bound.lookup oid = some X ∧ reg ∈ boundRegs s.db oid X
  served : ∀ oid X, s.db.bound.lookup oid = some X → ∃ a, s.db.acl X = some a ∧
    a.lookups ac (pointOf oid).bindType a.stage true ≠ []

/-- Nothing is bound, no lookup is on, and the members of groups are tables. -/
structure BindStart (s : BindSys ac) : Prop where
  bound : s.db.bound = ∅
  asked : ∀ oid stage, s.asked oid stage = Oid.null
  bindPoints : ∀ X, s.db.bindPoints X = []
  lookups : ∀ reg, (s.db.hw.lookups reg).aclEn = false
  members : ∀ X a, s.db.acl X = some a → ∀ T ∈ a.memberTables, (s.db.tables.lookup T).isSome

/-- With the lookups on, the rules of the object can be put to the bind point. -/
def RulesGo (db : AclDb ac) (o : BindPointInfo) (stage : AclStage) (object : Oid) : Prop :=
  ∃ db₁ db₂, sdkLookupEnableSet db o stage object true = some (.success, db₁) ∧
    bindPointAclAdd db₁ o object = some (.success, db₂)

/-- No other bound object has a lookup that binding `X` to this one has. -/
def LookupsApart (db : AclDb ac) (oid X : Oid) : Prop :=
  ∀ oid' Z, oid' ≠ oid → db.bound.lookup oid' = some Z → ∀ reg ∈ boundRegs db oid X,
    reg ∉ boundRegs db oid' Z

/-- The calls that keep the copies together. -/
structure BindOk (s : BindSys ac) (c : BindCall) : Prop where
  /-- The SDK switches lookups. -/
  sdk : s.db.hw.lookupAnswers = []
  /-- An admissible group has one or two members. -/
  fits : boundOidCheck s.db (pointOf c.oid) c.stage c.object = .success →
    ∀ a, s.db.acl c.object = some a →
      1 ≤ (a.lookups ac (pointOf c.oid).bindType a.stage true).length ∧
        (a.lookups ac (pointOf c.oid).bindType a.stage true).length ≤ 2
  /-- An ACL is only set where none of the other stage is bound. -/
  oneStage : c.object ≠ Oid.null → ∀ Y a, s.db.bound.lookup c.oid = some Y →
    s.db.acl Y = some a → a.stage = c.stage
  /-- The lookups that an unbind switches off are needed by nothing else. -/
  apart : ∀ Y a, s.db.bound.lookup c.oid = some Y → s.db.acl Y = some a → a.stage = c.stage →
    Y ≠ c.object → LookupsApart s.db c.oid Y
  /-- An admissible first bind goes through, or its lookups are needed by nothing else. -/
  first : s.db.bound.lookup c.oid = none → c.object ≠ Oid.null →
    boundOidCheck s.db (pointOf c.oid) c.stage c.object = .success →
      RulesGo s.db (pointOf c.oid) c.stage c.object ∨ LookupsApart s.db c.oid c.object
  /-- A replacement is admissible and goes through. -/
  replace : ∀ Y, s.db.bound.lookup c.oid = some Y → Y ≠ c.object → c.object ≠ Oid.null →
    boundOidCheck s.db (pointOf c.oid) c.stage c.object = .success ∧
      ∀ db, removeBind s.db (pointOf c.oid) c.stage Y = some (.success, db) →
        RulesGo db (pointOf c.oid) c.stage c.object

/-- What a run of such calls keeps. -/
structure BindInv (s : BindSys ac) : Prop extends BindingsAgree s where
  members : ∀ X a, s.db.acl X = some a → ∀ T ∈ a.memberTables, (s.db.tables.lookup T).isSome
  points : ∀ X, ∀ b ∈ s.db.bindPoints X, b = pointOf b.bindIndex
  allowed : ∀ oid X a, s.db.bound.lookup oid = some X → s.db.acl X = some a →
    allows a.bindPointList (pointOf oid).bindType = true ∧
      (a.lookups ac (pointOf oid).bindType a.stage true).length ≤ 2

/-! ## What binding leaves alone -/

/-- An ACL without its bind points. -/
def Acl.core (a : Acl) : Acl := a.withBindPoints []

theorem Acl.core_withBindPoints (a : Acl) (l : List BindPointInfo) :
    (a.withBindPoints l).core = a.core := by
  cases a <;> rfl

theorem Acl.of_core (ac : AclChip) {a a' : Acl} (h : a.core = a'.core) :
    a.stage = a'.stage ∧ a.bindPointList = a'.bindPointList ∧ a.memberTables = a'.memberTables ∧
      ∀ type stage en, a.lookups ac type stage en = a'.lookups ac type stage en := by
  have hself : ∀ b : Acl, b.core.stage = b.stage ∧ b.core.bindPointList = b.bindPointList ∧
      b.core.memberTables = b.memberTables ∧
      ∀ type stage en, b.core.lookups ac type stage en = b.lookups ac type stage en := by
    intro b
    cases b <;> exact ⟨rfl, rfl, rfl, fun _ _ _ => rfl⟩
  obtain ⟨h1, h2, h3, h4⟩ := hself a
  obtain ⟨k1, k2, k3, k4⟩ := hself a'
  rw [h] at h1 h2 h3 h4
  exact ⟨h1.symm.trans k1, h2.symm.trans k2, h3.symm.trans k3,
    fun t st en => (h4 t st en).symm.trans (k4 t st en)⟩

/-- The same tables and groups, but for their bind points. -/
structure SameAcls (db db' : AclDb ac) : Prop where
  core : ∀ Z, (db'.acl Z).map Acl.core = (db.acl Z).map Acl.core
  tables : ∀ Z, (db'.tables.lookup Z).isSome = (db.tables.lookup Z).isSome

namespace SameAcls

variable {db db' : AclDb ac}

theorem of_objects (h : db'.objects = db.objects) : SameAcls db db' where
  core Z := by rw [acl_of_objects h]
  tables Z := by rw [tables_of_objects h]

theorem of_eq (hg : db'.groups = db.groups) (ht : db'.tables = db.tables) : SameAcls db db' where
  core Z := by rw [acl_congr hg ht]
  tables Z := by rw [ht]

theorem trans {db'' : AclDb ac} (h : SameAcls db db') (h' : SameAcls db' db'') :
    SameAcls db db'' where
  core Z := (h'.core Z).trans (h.core Z)
  tables Z := (h'.tables Z).trans (h.tables Z)

theorem mapBindPoints (X : Oid) (f : List BindPointInfo → List BindPointInfo) :
    SameAcls db (db.mapBindPoints X f) where
  core Z := by
    rw [acl_mapBindPoints]
    split
    · next h =>
      rw [h]
      cases db.acl X with
      | none => rfl
      | some a => exact congrArg some (a.core_withBindPoints _)
    · rfl
  tables Z := tables_isSome_mapBindPoints db X f Z

theorem acl (h : SameAcls db db') {X : Oid} {a' : Acl} (ha : db'.acl X = some a') :
    ∃ a, db.acl X = some a ∧ a.core = a'.core := by
  have hcore := h.core X
  rw [ha] at hcore
  exact Option.map_eq_some_iff.mp hcore.symm

theorem boundRegs (h : SameAcls db db') (oid X : Oid) :
    boundRegs db' oid X = CtcSai.boundRegs db oid X := by
  have hcore := h.core X
  simp only [CtcSai.boundRegs]
  cases ha : db.acl X with
  | none =>
    rw [ha, Option.map_none, Option.map_eq_none_iff] at hcore
    rw [hcore]
  | some a =>
    rw [ha] at hcore
    obtain ⟨a', ha', hcore⟩ := Option.map_eq_some_iff.mp hcore
    obtain ⟨hstage, -, -, hlookups⟩ := Acl.of_core ac hcore
    rw [ha']
    dsimp only
    rw [hstage, hlookups]

end SameAcls

section Switch

variable {db : AclDb ac} {oid X : Oid} {a : Acl} {stage : AclStage}

theorem switchLookups (hsdk : db.hw.lookupAnswers = []) (ha : db.acl X = some a)
    (hallow : allows a.bindPointList (pointOf oid).bindType = true) (hstage : a.stage = stage)
    (hfit : (a.lookups ac (pointOf oid).bindType a.stage true).length ≤ 2) (en : Bool) :
    ∃ writes, sdkLookupEnableSet db (pointOf oid) stage X en =
        some (.success, db.withLookups writes) ∧
      ∀ reg, (setAll db.hw.lookups writes reg).aclEn =
        if reg ∈ boundRegs db oid X then en else (db.hw.lookups reg).aclEn := by
  have hswitch := Acl.lookups_switch ac a (pointOf oid).bindType a.stage en true
  have hlen : (a.lookups ac (pointOf oid).bindType stage en).length ≤ 2 := by
    have heq := congrArg List.length hswitch
    rw [List.length_map, List.length_map] at heq
    rw [← hstage, heq]
    exact hfit
  refine ⟨lookupWrites ac (pointOf oid) (a.lookups ac (pointOf oid).bindType stage en), ?_, ?_⟩
  · rw [sdkLookupEnableSet_eq db ha hallow hstage en hlen, writeLookups_eq hsdk]
  · intro reg
    rw [aclEn_setAll (aclEn_lookupWrites (a.aclEn_lookups _ stage en)), ← hstage,
      lookupWrites_regs hswitch, boundRegs, ha]

end Switch

/-! ## One call -/

section Calls

variable {s : BindSys ac}
variable {db db' : AclDb ac} {oid X Y : Oid} {a : Acl} {stage : AclStage} {c : BindCall}

theorem boundAt_of_bound (hb : db.bound.lookup oid = some X) (ha : db.acl X = some a)
    (stage : AclStage) :
    boundAt db oid stage = if a.stage = stage then X else Oid.null := by
  simp only [boundAt, hb, ha]

theorem boundAt_of_none (hb : db.bound.lookup oid = none) (stage : AclStage) :
    boundAt db oid stage = Oid.null := by
  rw [boundAt, hb]

theorem boundAt_congr (h : SameAcls db db') (hb : db'.bound.lookup oid = db.bound.lookup oid)
    (stage : AclStage) :
    boundAt db' oid stage = boundAt db oid stage := by
  rw [boundAt, boundAt, hb]
  cases db.bound.lookup oid with
  | none => rfl
  | some X =>
    have hcore := h.core X
    dsimp only
    cases ha : db.acl X with
    | none =>
      rw [ha, Option.map_none, Option.map_eq_none_iff] at hcore
      rw [hcore]
    | some a =>
      rw [ha] at hcore
      obtain ⟨a', ha', hcore⟩ := Option.map_eq_some_iff.mp hcore
      rw [ha']
      dsimp only
      rw [(Acl.of_core ac hcore).1]

/-- The parts of the invariant that only read tables and groups. -/
theorem BindInv.transfer (h : BindInv s) (hsame : SameAcls s.db db') :
    (∀ X a, db'.acl X = some a → ∀ T ∈ a.memberTables, (db'.tables.lookup T).isSome) ∧
      ∀ oid X, s.db.bound.lookup oid = some X →
        (∃ a, db'.acl X = some a ∧ a.lookups ac (pointOf oid).bindType a.stage true ≠ []) ∧
        ∀ a, db'.acl X = some a → allows a.bindPointList (pointOf oid).bindType = true ∧
          (a.lookups ac (pointOf oid).bindType a.stage true).length ≤ 2 := by
  constructor
  · intro X a' ha' T hT
    obtain ⟨a, ha, hcore⟩ := hsame.acl ha'
    rw [hsame.tables]
    exact h.members X a ha T ((Acl.of_core ac hcore).2.2.1 ▸ hT)
  · intro oid X hb
    constructor
    · obtain ⟨a, ha, hne⟩ := h.served oid X hb
      have hcore := hsame.core X
      rw [ha] at hcore
      obtain ⟨a', ha', hcore⟩ := Option.map_eq_some_iff.mp hcore
      obtain ⟨hstage, -, -, hlookups⟩ := Acl.of_core ac hcore
      refine ⟨a', ha', ?_⟩
      rw [hstage, hlookups]
      exact hne
    · intro a' ha'
      obtain ⟨a, ha, hcore⟩ := hsame.acl ha'
      obtain ⟨hstage, hlist, -, hlookups⟩ := Acl.of_core ac hcore
      rw [← hstage, ← hlist, ← hlookups]
      exact h.allowed oid X a hb ha

/-- What unbinding an object changes. -/
structure Unbound (db db' : AclDb ac) (oid Y : Oid) : Prop where
  same : SameAcls db db'
  bound : db'.bound = db.bound.erase oid
  points : ∀ Z, db'.bindPoints Z = if Z = Y then
    (db.bindPoints Y).eraseP (fun b => b.bindIndex = oid) else db.bindPoints Z
  lookups : ∀ reg, (db'.hw.lookups reg).aclEn =
    if reg ∈ boundRegs db oid Y then false else (db.hw.lookups reg).aclEn
  sdk : db'.hw.lookupAnswers = []

/-- What binding an object changes. -/
structure NewlyBound (db db' : AclDb ac) (oid X : Oid) : Prop where
  same : SameAcls db db'
  bound : db'.bound = db.bound.insert oid X
  points : ∀ Z, db'.bindPoints Z = if Z = X then pointOf oid :: db.bindPoints X else db.bindPoints Z
  lookups : ∀ reg, (db'.hw.lookups reg).aclEn =
    if reg ∈ boundRegs db oid X then true else (db.hw.lookups reg).aclEn

theorem bindPoints_mapBindPoints (ha : db.acl X = some a)
    (f : List BindPointInfo → List BindPointInfo) (Z : Oid) :
    (db.mapBindPoints X f).bindPoints Z =
      if Z = X then f (db.bindPoints X) else db.bindPoints Z := by
  rw [bindPoints_eq, acl_mapBindPoints, bindPoints_eq db, ha]
  by_cases h : Z = X
  · rw [if_pos h, if_pos h]
    exact a.bindPoints_withBindPoints _
  · rw [if_neg h, if_neg h]
    exact (bindPoints_eq db Z).symm

theorem bindIndex_eraseP (l : List BindPointInfo) (oid : Oid) :
    (l.eraseP (fun b => b.bindIndex = oid)).map (·.bindIndex) =
      (l.map (·.bindIndex)).erase oid := by
  rw [List.erase_eq_eraseP', List.eraseP_map]
  rfl

theorem bindPoints_congr (h : ∀ Z, db'.acl Z = db.acl Z) (Z : Oid) :
    db'.bindPoints Z = db.bindPoints Z := by
  rw [bindPoints_eq, bindPoints_eq, h]

theorem removeBind_unbound (hinv : BindInv s) (hsdk : s.db.hw.lookupAnswers = [])
    (hb : s.db.bound.lookup oid = some Y) (ha : s.db.acl Y = some a) :
    ∃ db', removeBind s.db (pointOf oid) a.stage Y = some (.success, db') ∧
      Unbound s.db db' oid Y := by
  obtain ⟨hallow, hlen⟩ := hinv.allowed oid Y a hb ha
  obtain ⟨writes, hoff, hregs⟩ := switchLookups hsdk ha hallow rfl hlen false
  have hwalk : WalkOk (s.db.withLookups writes) Y := ⟨a, ha, hinv.members Y a ha⟩
  obtain ⟨mid, hmid⟩ := Option.isSome_iff_exists.mp
    (bindPointAclRemove_isSome (o := pointOf oid) hwalk)
  have hobj := objects_bindPointAclRemove _ _ hmid
  have hacl : ∀ Z, mid.acl Z = s.db.acl Z := fun Z => acl_of_objects hobj Z
  have hpoints := bindPoints_congr hacl
  have hmem : ∃ b ∈ mid.bindPoints Y, b.bindIndex = oid := by
    have hcount := hinv.listed Y oid
    rw [if_pos hb] at hcount
    have hin : oid ∈ (s.db.bindPoints Y).map (·.bindIndex) :=
      List.count_pos_iff.mp (by omega)
    obtain ⟨b, hb', hbi⟩ := List.mem_map.mp hin
    exact ⟨b, hpoints Y ▸ hb', hbi⟩
  let f : List BindPointInfo → List BindPointInfo := (·.eraseP (fun b => b.bindIndex = oid))
  obtain ⟨hrest, hhw⟩ := mapBindPoints_rest mid Y f
  refine ⟨{ mid.mapBindPoints Y f with bound := (mid.mapBindPoints Y f).bound.erase oid }, ?_, ?_⟩
  · simp only [removeBind, hoff, hmid]
    rw [if_neg fun h => h.2 hmem]
    rfl
  · refine ⟨?_, ?_, ?_, ?_, ?_⟩
    · exact ((SameAcls.of_eq rfl rfl : SameAcls s.db (s.db.withLookups writes)).trans
        (.of_objects hobj)).trans ((SameAcls.mapBindPoints Y f).trans (.of_eq rfl rfl))
    · rw [hrest, bound_of_objects hobj]
      rfl
    · intro Z
      have hmap := bindPoints_mapBindPoints ((hacl Y).trans ha) f Z
      rw [hpoints, hpoints] at hmap
      exact hmap
    · intro reg
      rw [hhw, lookups_of_objects hobj]
      exact hregs reg
    · rw [hhw, lookupAnswers_of_objects hobj]
      exact hsdk

/-- The invariant after an object has lost its ACL. -/
theorem BindInv.unbound (hinv : BindInv s) (hb : s.db.bound.lookup oid = some Y)
    (ha : s.db.acl Y = some a) (hun : Unbound s.db db' oid Y) (hapart : LookupsApart s.db oid Y) :
    BindInv ⟨db', update s.asked oid (update (s.asked oid) a.stage Oid.null)⟩ := by
  obtain ⟨hmembers, hserved⟩ := hinv.transfer hun.same
  have hbound : ∀ oid', db'.bound.lookup oid' =
      if oid' = oid then none else s.db.bound.lookup oid' := by
    intro oid'
    rw [hun.bound, lookup_erase_ite]
  have hstill : ∀ {oid' X}, db'.bound.lookup oid' = some X →
      oid' ≠ oid ∧ s.db.bound.lookup oid' = some X := by
    intro oid' X h
    rw [hbound] at h
    split at h
    · cases h
    · next hne => exact ⟨hne, h⟩
  refine ⟨⟨?_, ?_, ?_, ?_⟩, hmembers, ?_, ?_⟩
  · intro oid' stage
    dsimp only
    by_cases hoid : oid' = oid
    · subst hoid
      rw [update_self, boundAt_of_none (by rw [hbound, if_pos rfl])]
      by_cases hst : stage = a.stage
      · rw [hst, update_self]
      · rw [update_of_ne hst, ← hinv.asked, boundAt_of_bound hb ha, if_neg fun h => hst h.symm]
    · rw [update_of_ne hoid, ← hinv.asked]
      exact boundAt_congr hun.same (by rw [hbound, if_neg hoid]) stage
  · intro X oid'
    have hold := hinv.listed X oid'
    rw [hun.points, hbound]
    by_cases hX : X = Y
    · subst hX
      rw [if_pos rfl, bindIndex_eraseP, List.count_erase, hold]
      by_cases hoid : oid' = oid
      · subst hoid
        simp [hb]
      · have hbeq : (oid == oid') = false := beq_false_of_ne fun h => hoid h.symm
        simp [hoid, hbeq]
    rw [if_neg hX, hold]
    by_cases hoid : oid' = oid
    · subst hoid
      have hother : ¬ s.db.bound.lookup oid' = some X := by
        intro h
        rw [hb] at h
        exact hX (Option.some.inj h).symm
      rw [if_neg hother]
      simp
    · rw [if_neg hoid]
  · intro reg
    rw [hun.lookups]
    split
    · next hreg =>
      constructor
      · nofun
      · rintro ⟨oid', X, hb', hreg'⟩
        obtain ⟨hne, hb'⟩ := hstill hb'
        rw [hun.same.boundRegs] at hreg'
        exact absurd hreg' (hapart oid' X hne hb' reg hreg)
    next hreg =>
    rw [hinv.lookups]
    constructor
    · rintro ⟨oid', X, hb', hreg'⟩
      have hne : oid' ≠ oid := by
        intro h
        subst h
        rw [hb] at hb'
        cases hb'
        exact hreg hreg'
      exact ⟨oid', X, by rw [hbound, if_neg hne, hb'], by rwa [hun.same.boundRegs]⟩
    · rintro ⟨oid', X, hb', hreg'⟩
      exact ⟨oid', X, (hstill hb').2, by rwa [← hun.same.boundRegs]⟩
  · intro oid' X hb'
    exact (hserved oid' X (hstill hb').2).1
  · intro X b hbp
    refine hinv.points X b ?_
    rw [hun.points] at hbp
    split at hbp
    · next h => rw [h]; exact List.mem_of_mem_eraseP hbp
    · exact hbp
  · intro oid' X a' hb' ha'
    exact (hserved oid' X (hstill hb').2).2 a' ha'

/-- The invariant after an object without ACL has got one. -/
theorem BindInv.bound (hinv : BindInv s) (hb : s.db.bound.lookup oid = none)
    (ha : s.db.acl X = some a) (hallow : allows a.bindPointList (pointOf oid).bindType = true)
    (hsome : 1 ≤ (a.lookups ac (pointOf oid).bindType a.stage true).length)
    (hfit : (a.lookups ac (pointOf oid).bindType a.stage true).length ≤ 2)
    (hnew : NewlyBound s.db db' oid X) :
    BindInv ⟨db', update s.asked oid (update (s.asked oid) a.stage X)⟩ := by
  obtain ⟨hmembers, hserved⟩ := hinv.transfer hnew.same
  have hbound : ∀ oid', db'.bound.lookup oid' =
      if oid' = oid then some X else s.db.bound.lookup oid' := by
    intro oid'
    rw [hnew.bound, lookup_insert_ite]
  have hsplit : ∀ {oid' Z}, db'.bound.lookup oid' = some Z →
      (oid' = oid ∧ Z = X) ∨ (oid' ≠ oid ∧ s.db.bound.lookup oid' = some Z) := by
    intro oid' Z h
    rw [hbound] at h
    split at h
    · next heq => exact .inl ⟨heq, (Option.some.inj h).symm⟩
    · next hne => exact .inr ⟨hne, h⟩
  obtain ⟨a', ha', hcore⟩ : ∃ a', db'.acl X = some a' ∧ a'.core = a.core := by
    have hcore := hnew.same.core X
    rw [ha] at hcore
    exact Option.map_eq_some_iff.mp hcore
  obtain ⟨hstage, hlist, -, hlookups⟩ := Acl.of_core ac hcore
  refine ⟨⟨?_, ?_, ?_, ?_⟩, hmembers, ?_, ?_⟩
  · intro oid' stage
    dsimp only
    by_cases hoid : oid' = oid
    · subst hoid
      rw [update_self, boundAt_of_bound (by rw [hbound, if_pos rfl]) ha', hstage]
      by_cases hst : stage = a.stage
      · rw [hst, if_pos rfl, update_self]
      · rw [if_neg fun h => hst h.symm, update_of_ne hst, ← hinv.asked, boundAt_of_none hb]
    · rw [update_of_ne hoid, ← hinv.asked]
      exact boundAt_congr hnew.same (by rw [hbound, if_neg hoid]) stage
  · intro Z oid'
    have hold := hinv.listed Z oid'
    rw [hnew.points, hbound]
    by_cases hZ : Z = X
    · subst hZ
      rw [if_pos rfl, List.map_cons, List.count_cons, hold]
      by_cases hoid : oid' = oid
      · subst hoid
        simp [hb, pointOf]
      · have hbeq : ((pointOf oid).bindIndex == oid') = false :=
          beq_false_of_ne fun h => hoid h.symm
        simp [hoid, hbeq]
    rw [if_neg hZ, hold]
    by_cases hoid : oid' = oid
    · subst hoid
      have hother : ¬ some X = some Z := fun h => hZ (Option.some.inj h).symm
      rw [if_pos rfl, if_neg hother, hb]
      rfl
    · rw [if_neg hoid]
  · intro reg
    rw [hnew.lookups]
    split
    · next hreg =>
      exact iff_of_true rfl ⟨oid, X, by rw [hbound, if_pos rfl], by rwa [hnew.same.boundRegs]⟩
    next hreg =>
    rw [hinv.lookups]
    constructor
    · rintro ⟨oid', Z, hb', hreg'⟩
      have hne : oid' ≠ oid := by
        intro h
        rw [h, hb] at hb'
        cases hb'
      exact ⟨oid', Z, by rw [hbound, if_neg hne, hb'], by rwa [hnew.same.boundRegs]⟩
    · rintro ⟨oid', Z, hb', hreg'⟩
      rw [hnew.same.boundRegs] at hreg'
      rcases hsplit hb' with ⟨rfl, rfl⟩ | ⟨-, hb'⟩
      · exact absurd hreg' hreg
      · exact ⟨oid', Z, hb', hreg'⟩
  · intro oid' Z hb'
    rcases hsplit hb' with ⟨rfl, rfl⟩ | ⟨-, hb'⟩
    · refine ⟨a', ha', ?_⟩
      rw [hstage, hlookups]
      exact List.ne_nil_of_length_pos (by omega)
    · exact (hserved oid' Z hb').1
  · intro Z b hbp
    rw [hnew.points] at hbp
    split at hbp
    · rcases List.mem_cons.mp hbp with rfl | hbp
      · rfl
      · exact hinv.points X b hbp
    · exact hinv.points Z b hbp
  · intro oid' Z b hb' hZ
    rcases hsplit hb' with ⟨rfl, rfl⟩ | ⟨-, hb'⟩
    · rw [ha'] at hZ
      cases hZ
      rw [hstage, hlist, hlookups]
      exact ⟨hallow, hfit⟩
    · exact (hserved oid' Z hb').2 b hZ

/-- What a failed bind leaves: the lookups of the object are off. -/
structure GivenUp (db db' : AclDb ac) (oid X : Oid) : Prop where
  same : SameAcls db db'
  bound : db'.bound = db.bound
  points : ∀ Z, db'.bindPoints Z = db.bindPoints Z
  lookups : ∀ reg, (db'.hw.lookups reg).aclEn =
    if reg ∈ boundRegs db oid X then false else (db.hw.lookups reg).aclEn

/-- The invariant after a failed bind whose lookups nothing else needs. -/
theorem BindInv.givenUp (hinv : BindInv s) (hb : s.db.bound.lookup oid = none)
    (hup : GivenUp s.db db' oid X) (hapart : LookupsApart s.db oid X) : BindInv ⟨db', s.asked⟩ := by
  obtain ⟨hmembers, hserved⟩ := hinv.transfer hup.same
  have hbound : ∀ oid', db'.bound.lookup oid' = s.db.bound.lookup oid' := by
    intro oid'
    rw [hup.bound]
  refine ⟨⟨?_, ?_, ?_, ?_⟩, hmembers, ?_, ?_⟩
  · intro oid' stage
    rw [← hinv.asked]
    exact boundAt_congr hup.same (hbound oid') stage
  · intro Z oid'
    rw [hup.points, hup.bound]
    exact hinv.listed Z oid'
  · intro reg
    simp only [hup.lookups, hup.bound, hup.same.boundRegs]
    split
    · next hreg =>
      refine iff_of_false nofun ?_
      rintro ⟨oid', Z, hb', hreg'⟩
      refine hapart oid' Z ?_ hb' reg hreg hreg'
      intro h
      rw [h, hb] at hb'
      cases hb'
    · exact hinv.lookups reg
  · intro oid' Z hb'
    exact (hserved oid' Z ((hbound oid').symm.trans hb')).1
  · intro Z b hbp
    exact hinv.points Z b (hup.points Z ▸ hbp)
  · intro oid' Z b hb' hZ
    exact (hserved oid' Z ((hbound oid').symm.trans hb')).2 b hZ

/-- Binding a table or group to an object without ACL: it is refused, or goes through, or
is given up because the rules cannot be put there. -/
theorem addBind_result (hinv : BindInv s) (hsdk : s.db.hw.lookupAnswers = []) {oid X : Oid}
    {stage : AclStage} (hb : s.db.bound.lookup oid = none)
    (hX : X.type = ObjectType.aclTable.bits ∨ X.type = ObjectType.aclTableGroup.bits)
    (hfit : boundOidCheck s.db (pointOf oid) stage X = .success → ∀ a, s.db.acl X = some a →
      (a.lookups ac (pointOf oid).bindType a.stage true).length ≤ 2) :
    (∃ st, st ≠ .success ∧ addBind s.db (pointOf oid) stage X = some (st, s.db)) ∨
    (∃ db' a, addBind s.db (pointOf oid) stage X = some (.success, db') ∧
      s.db.acl X = some a ∧ a.stage = stage ∧
      allows a.bindPointList (pointOf oid).bindType = true ∧ NewlyBound s.db db' oid X) ∨
    (∃ st db', st ≠ .success ∧ addBind s.db (pointOf oid) stage X = some (st, db') ∧
      boundOidCheck s.db (pointOf oid) stage X = .success ∧ ¬ RulesGo s.db (pointOf oid) stage X ∧ GivenUp s.db db' oid X) := by
  by_cases hcheck : boundOidCheck s.db (pointOf oid) stage X = .success
  swap
  · left
    refine ⟨_, hcheck, ?_⟩
    simp only [addBind]
  right
  obtain ⟨a, ha, hallow, rfl⟩ := (boundOidCheck_success s.db hX).mp hcheck
  have hlen := hfit hcheck a ha
  obtain ⟨writes, hon, hregs⟩ := switchLookups hsdk ha hallow rfl hlen true
  have hwalk : WalkOk (s.db.withLookups writes) X := ⟨a, ha, hinv.members X a ha⟩
  obtain ⟨⟨st, mid⟩, hmid⟩ := Option.isSome_iff_exists.mp
    (bindPointAclAdd_isSome (o := pointOf oid) hwalk)
  have hobj : mid.objects = (s.db.withLookups writes).objects := objects_bindPointAclAdd _ _ hmid
  have hacl : ∀ Z, mid.acl Z = s.db.acl Z := fun Z => acl_of_objects hobj Z
  have hpoints := bindPoints_congr hacl
  have hsame : SameAcls s.db mid :=
    (SameAcls.of_eq rfl rfl : SameAcls s.db (s.db.withLookups writes)).trans (.of_objects hobj)
  have hbound : mid.bound = (s.db.withLookups writes).bound := bound_of_objects hobj
  by_cases hst : st = .success
  · left
    subst hst
    obtain ⟨hrest, hhw⟩ := mapBindPoints_rest mid X (pointOf oid :: ·)
    refine ⟨{ mid.mapBindPoints X (pointOf oid :: ·) with bound := s.db.bound.insert oid X }, a, ?_,
      ha, rfl, hallow, ?_⟩
    · have hnone : (mid.mapBindPoints X (pointOf oid :: ·)).bound.lookup (pointOf oid).bindIndex =
          none := by
        rw [hrest, hbound]
        exact hb
      simp only [addBind, hcheck, if_neg (pointOf_type oid), hon, hmid, AclDb.addBound, hnone]
      rw [hrest, hbound]
      rfl
    · refine ⟨?_, rfl, ?_, ?_⟩
      · exact hsame.trans ((SameAcls.mapBindPoints X _).trans (.of_eq rfl rfl))
      · intro Z
        have hmap := bindPoints_mapBindPoints ((hacl X).trans ha) (pointOf oid :: ·) Z
        rw [hpoints, hpoints] at hmap
        exact hmap
      · intro reg
        rw [hhw, lookups_of_objects hobj]
        exact hregs reg
  · right
    have hsdk' : mid.hw.lookupAnswers = [] := (lookupAnswers_of_objects hobj).trans hsdk
    obtain ⟨writes', hoff, hregs'⟩ := switchLookups hsdk' ((hacl X).trans ha) hallow rfl hlen false
    refine ⟨st, mid.withLookups writes', hst, ?_, hcheck, ?_, ?_⟩
    · simp only [addBind, hcheck, if_neg (pointOf_type oid), hon, hmid]
      rw [hoff]
      rfl
    · rintro ⟨db₁, db₂, h₁, h₂⟩
      rw [hon] at h₁
      cases h₁
      rw [hmid] at h₂
      cases h₂
      exact hst rfl
    · refine ⟨hsame.trans (.of_eq rfl rfl), hbound, ?_, ?_⟩
      · exact bindPoints_congr hacl
      · intro reg
        have hoffreg := hregs' reg
        rw [hsame.boundRegs] at hoffreg
        refine hoffreg.trans ?_
        rw [lookups_of_objects hobj]
        split
        · rfl
        · next hreg => exact (hregs reg).trans (if_neg hreg)

theorem addBind_success (hcheck : boundOidCheck db (pointOf oid) stage X = .success)
    (hgo : RulesGo db (pointOf oid) stage X) :
    ∃ db', addBind db (pointOf oid) stage X = some (.success, db') := by
  obtain ⟨db₁, db₂, h₁, h₂⟩ := hgo
  exact ⟨_, by simp only [addBind, hcheck, if_neg (pointOf_type oid), h₁, h₂]; rfl⟩

theorem boundOidCheck_of_same (h : SameAcls db db') {o : BindPointInfo}
    (hX : X.type = ObjectType.aclTable.bits ∨ X.type = ObjectType.aclTableGroup.bits)
    (hcheck : boundOidCheck db o stage X = .success) : boundOidCheck db' o stage X = .success := by
  obtain ⟨a, ha, hallow, hstage⟩ := (boundOidCheck_success db hX).mp hcheck
  have hcore := h.core X
  rw [ha] at hcore
  obtain ⟨a', ha', hcore⟩ := Option.map_eq_some_iff.mp hcore
  obtain ⟨hs, hl, -, -⟩ := Acl.of_core ac hcore
  exact (boundOidCheck_success db' hX).mpr ⟨a', ha', hl ▸ hallow, hs.trans hstage⟩

theorem asked_again {asked : Oid → AclStage → Oid} (h : asked oid stage = X) :
    update asked oid (update (asked oid) stage X) = asked := by
  rw [← h, update_eq_self, update_eq_self]

theorem BindInv.first_bind (hinv : BindInv s) (hok : BindOk s c)
    (hb : s.db.bound.lookup c.oid = none) (hX : c.object.type = ObjectType.aclTable.bits ∨
      c.object.type = ObjectType.aclTableGroup.bits) (hne : c.object ≠ Oid.null) :
    ∃ st db', addBind s.db (pointOf c.oid) c.stage c.object = some (st, db') ∧
      (st = .success → BindInv ⟨db', update s.asked c.oid
        (update (s.asked c.oid) c.stage c.object)⟩) ∧
      (st ≠ .success → BindInv ⟨db', s.asked⟩) := by
  rcases @addBind_result _ s hinv hok.sdk c.oid c.object c.stage hb hX
      fun hcheck a ha => (hok.fits hcheck a ha).2 with
    ⟨st, hst, hadd⟩ | ⟨db', a, hadd, ha, hstage, hallow, hnew⟩ |
    ⟨st, db', hst, hadd, hcheck, hgo, hup⟩
  · exact ⟨st, s.db, hadd, fun h => absurd h hst, fun _ => hinv⟩
  · refine ⟨.success, db', hadd, fun _ => ?_, fun h => absurd rfl h⟩
    have hcheck := (boundOidCheck_success s.db hX).mpr ⟨a, ha, hallow, hstage⟩
    obtain ⟨hsome, hfit⟩ := hok.fits hcheck a ha
    rw [← hstage]
    exact hinv.bound hb ha hallow hsome hfit hnew
  refine ⟨st, db', hadd, fun h => absurd h hst, fun _ => ?_⟩
  rcases hok.first hb hne hcheck with h | h
  · exact absurd h hgo
  · exact hinv.givenUp hb hup h

theorem BindInv.replace (hinv : BindInv s) (hok : BindOk s c)
    (hb : s.db.bound.lookup c.oid = some Y) (hY : Y ≠ c.object)
    (hX : c.object.type = ObjectType.aclTable.bits ∨
      c.object.type = ObjectType.aclTableGroup.bits) (hne : c.object ≠ Oid.null) :
    ∃ db', updateBind s.db (pointOf c.oid) c.stage Y c.object = some (.success, db') ∧
      BindInv ⟨db', update s.asked c.oid (update (s.asked c.oid) c.stage c.object)⟩ := by
  obtain ⟨b, hbY, -⟩ := hinv.served c.oid Y hb
  have hstage := hok.oneStage hne Y b hb hbY
  obtain ⟨mid, hremove, hun⟩ := removeBind_unbound hinv hok.sdk hb hbY
  have hmid := hinv.unbound hb hbY hun (hok.apart Y b hb hbY hstage hY)
  rw [hstage] at hremove hmid
  obtain ⟨hcheck, hgo⟩ := hok.replace Y hb hY hne
  obtain ⟨db', hadd⟩ := addBind_success (boundOidCheck_of_same hun.same hX hcheck) (hgo mid hremove)
  have hnone : mid.bound.lookup c.oid = none := by
    rw [hun.bound, lookup_erase_ite, if_pos rfl]
  have hlookups : ∀ a, mid.acl c.object = some a →
      1 ≤ (a.lookups ac (pointOf c.oid).bindType a.stage true).length ∧
        (a.lookups ac (pointOf c.oid).bindType a.stage true).length ≤ 2 := by
    intro a ha
    obtain ⟨a', ha', hcore⟩ := hun.same.acl ha
    obtain ⟨hs, -, -, hl⟩ := Acl.of_core ac hcore
    rw [← hs, ← hl]
    exact hok.fits hcheck a' ha'
  refine ⟨db', by rw [updateBind, hremove]; simp only [hadd]; rfl, ?_⟩
  rcases @addBind_result _ ⟨mid, _⟩ hmid hun.sdk c.oid c.object c.stage hnone hX
      fun _ a ha => (hlookups a ha).2 with
    ⟨st, hst, hadd'⟩ | ⟨db₁, a, hadd', ha, hs, hallow, hnew⟩ | ⟨st, db₁, hst, hadd', -, -, -⟩
  · rw [hadd] at hadd'
    cases hadd'
    exact absurd rfl hst
  · rw [hadd] at hadd'
    cases hadd'
    have hnow := hmid.bound hnone ha hallow (hlookups a ha).1 (hlookups a ha).2 hnew
    dsimp only at hnow
    rw [hs, update_idem, update_self, update_idem] at hnow
    exact hnow
  · rw [hadd] at hadd'
    cases hadd'
    exact absurd rfl hst

theorem removeBind_otherStage {o : BindPointInfo} (ha : db.acl Y = some a)
    (hstage : a.stage ≠ stage) :
    removeBind db o stage Y = some (.notSupported, db) := by
  have hoff : sdkLookupEnableSet db o stage Y false = some (.notSupported, db) := by
    simp only [AclDb.acl] at ha
    split at ha
    · next hY =>
      obtain ⟨g, hg, rfl⟩ := Option.map_eq_some_iff.mp ha
      have hne : Y.type ≠ ObjectType.aclTable.bits := by rw [hY]; exact group_ne_table.symm
      simp only [sdkLookupEnableSet, if_neg hne, if_pos hY, hg]
      exact if_pos (.inl fun h => hstage h.symm)
    split at ha
    · next hY =>
      obtain ⟨t, ht, rfl⟩ := Option.map_eq_some_iff.mp ha
      simp only [sdkLookupEnableSet, if_pos hY, ht]
      exact if_pos (.inl fun h => hstage h.symm)
    · cases ha
  simp only [removeBind, hoff]

/-- Each admitted call returns, and keeps the invariant. -/
theorem BindInv.step (hinv : BindInv s) (hok : BindOk s c) :
    ∃ s', bindStep s c = some s' ∧ BindInv s' := by
  have hacl : c.object ≠ Oid.null → c.object.type = ObjectType.aclTable.bits ∨
      c.object.type = ObjectType.aclTableGroup.bits := fun h => c.isAcl.resolve_left h
  cases hb : s.db.bound.lookup c.oid with
  | none =>
    by_cases hnull : c.object = Oid.null
    · have hset : bindPointSet s.db (pointOf c.oid) c.stage c.object = some (.success, s.db) := by
        rw [bindPointSet, show (pointOf c.oid).bindIndex = c.oid from rfl, hb]
        exact if_pos hnull
      refine ⟨s, ?_, hinv⟩
      have hasked : s.asked c.oid c.stage = c.object := by
        rw [← hinv.asked, boundAt_of_none hb, hnull]
      rw [bindStep, hset]
      simp only [asked_again hasked, if_true]
    obtain ⟨st, db', hadd, hgood, hbad⟩ := hinv.first_bind hok hb (hacl hnull) hnull
    have hset : bindPointSet s.db (pointOf c.oid) c.stage c.object = some (st, db') := by
      rw [bindPointSet, show (pointOf c.oid).bindIndex = c.oid from rfl, hb]
      exact (if_neg hnull).trans hadd
    by_cases hst : st = .success
    · exact ⟨_, by rw [bindStep, hset]; exact if_pos hst, hgood hst⟩
    · exact ⟨_, by rw [bindStep, hset]; exact if_neg hst, hbad hst⟩
  | some Y =>
    obtain ⟨a, ha, -⟩ := hinv.served c.oid Y hb
    by_cases hnull : c.object = Oid.null
    · have hY : Y ≠ c.object := by
        intro h
        have htype := acl_type s.db ha
        rw [h, hnull] at htype
        revert htype
        decide
      have hset : bindPointSet s.db (pointOf c.oid) c.stage c.object =
          removeBind s.db (pointOf c.oid) c.stage Y := by
        rw [bindPointSet, show (pointOf c.oid).bindIndex = c.oid from rfl, hb]
        exact if_pos hnull
      by_cases hstage : a.stage = c.stage
      · obtain ⟨db', hremove, hun⟩ := removeBind_unbound hinv hok.sdk hb ha
        have hafter := hinv.unbound hb ha hun (hok.apart Y a hb ha hstage hY)
        rw [hstage] at hremove hafter
        refine ⟨_, by rw [bindStep, hset, hremove]; exact if_pos rfl, ?_⟩
        rw [hnull]
        exact hafter
      · refine ⟨s, ?_, hinv⟩
        rw [bindStep, hset, removeBind_otherStage ha hstage]
        exact if_neg (by nofun)
    · have hstage := hok.oneStage hnull Y a hb ha
      by_cases hsame : Y = c.object
      · have hset : bindPointSet s.db (pointOf c.oid) c.stage c.object = some (.success, s.db) := by
          rw [bindPointSet, show (pointOf c.oid).bindIndex = c.oid from rfl, hb]
          exact (if_neg hnull).trans (if_pos hsame)
        refine ⟨s, ?_, hinv⟩
        have hasked : s.asked c.oid c.stage = c.object := by
          rw [← hinv.asked, boundAt_of_bound hb ha, if_pos hstage, hsame]
        rw [bindStep, hset]
        simp only [asked_again hasked, if_true]
      obtain ⟨db', hupdate, hafter⟩ := hinv.replace hok hb hsame (hacl hnull) hnull
      have hset : bindPointSet s.db (pointOf c.oid) c.stage c.object = some (.success, db') := by
        rw [bindPointSet, show (pointOf c.oid).bindIndex = c.oid from rfl, hb]
        exact ((if_neg hnull).trans (if_neg hsame)).trans hupdate
      exact ⟨_, by rw [bindStep, hset]; exact if_pos rfl, hafter⟩

end Calls

/-! ## Whole runs -/

theorem BindStart.inv {s : BindSys ac} (h : BindStart s) : BindInv s := by
  have hnone : ∀ oid, s.db.bound.lookup oid = none := by
    intro oid
    rw [h.bound]
    exact AList.lookup_empty oid
  have hnever : ∀ {oid X}, ¬ s.db.bound.lookup oid = some X := by
    intro oid X hb
    rw [hnone] at hb
    cases hb
  refine ⟨⟨?_, ?_, ?_, ?_⟩, h.members, ?_, ?_⟩
  · intro oid stage
    rw [boundAt_of_none (hnone oid), h.asked]
  · intro X oid
    rw [h.bindPoints, if_neg hnever]
    rfl
  · intro reg
    refine iff_of_false (by rw [h.lookups]; nofun) ?_
    rintro ⟨oid, X, hb, -⟩
    exact hnever hb
  · intro oid X hb
    exact absurd hb hnever
  · intro X b hb
    rw [h.bindPoints] at hb
    cases hb
  · intro oid X a hb
    exact absurd hb hnever

/-- In a run of such calls the bindings agree everywhere, and the next call returns. -/
theorem bindings_of_run {s : BindSys ac} (h : Reachable BindStart BindOk bindStep s) :
    BindingsAgree s ∧ ∀ c, BindOk s c → ∃ s', bindStep s c = some s' := by
  have hinv : BindInv s := by
    refine Reachable.inv (fun _ hs => hs.inv) ?_ h
    intro s c s' hs hok hst
    obtain ⟨s'', hst', hs''⟩ := hs.step hok
    rw [hst] at hst'
    cases hst'
    exact hs''
  exact ⟨hinv.toBindingsAgree, fun c hok => (hinv.step hok).imp fun _ hs => hs.1⟩

def bindPort : Oid := createObjectId .port 0 0 0 1

/-- Two tables, for ingress and for egress. -/
def ingressTable : Oid := createObjectId .aclTable 0 0 0 1
def egressTable : Oid := createObjectId .aclTable 0 0 0 2

/-- A table without entries that every type of bind point may have. -/
def emptyTable (stage : AclStage) : AclTable where
  tableStage := stage
  bindPointList := 0x1F
  tableSize := 128
  lookupType := 1
  createdEntryCount := 0
  tableKeyBmp := 0
  rangeTypeBmp := 0
  entryList := []
  groupList := []
  bindPoints := []

/-- The two tables are there and nothing is bound. -/
def twoTables : BindSys .plain where
  db := { AclDb.initial .plain with
    tables := ((∅ : Table Oid AclTable).insert ingressTable (emptyTable .ingress)).insert
      egressTable (emptyTable .egress) }
  asked _ _ := Oid.null

/-- A table is set for a stage of the port. -/
def setTable (stage : AclStage) (table : Oid)
    (h : table = Oid.null ∨ table.type = ObjectType.aclTable.bits ∨
      table.type = ObjectType.aclTableGroup.bits) : BindCall :=
  ⟨bindPort, stage, table, by decide, h⟩

theorem twoTables_acl (X : Oid) : twoTables.db.acl X =
    if X = egressTable then some (.table (emptyTable .egress))
    else if X = ingressTable then some (.table (emptyTable .ingress)) else none := by
  simp only [twoTables, AclDb.acl, AclDb.initial]
  rw [lookup_insert_ite, lookup_insert_ite, AList.lookup_empty]
  by_cases hE : X = egressTable
  · subst hE
    rfl
  by_cases hI : X = ingressTable
  · subst hI
    rfl
  · split
    · rfl
    · split <;> rfl

theorem twoTables_start : BindStart twoTables where
  bound := rfl
  asked _ _ := rfl
  bindPoints X := by
    rw [bindPoints_eq, twoTables_acl]
    split
    · next a h =>
      split at h
      · cases h; rfl
      · split at h
        · cases h; rfl
        · cases h
    · rfl
  lookups _ := rfl
  members X a h := by
    rw [twoTables_acl] at h
    split at h
    · cases h; nofun
    · split at h
      · cases h; nofun
      · cases h

/-- A table bound to a port is replaced by nothing, and another one bound through egress. -/
theorem bindings_of_run_replaced : ∃ s : BindSys .plain, BindingsAgree s ∧
    boundAt s.db bindPort .egress = egressTable ∧ boundAt s.db bindPort .ingress = Oid.null := by
  have r₀ : Reachable BindStart BindOk bindStep twoTables := .start twoTables_start
  have r₁ := r₀.next (setTable .ingress ingressTable (by decide)) (by
    refine ⟨rfl, ?_, nofun, nofun, fun _ _ _ => .inl ⟨_, _, rfl, rfl⟩, nofun⟩
    intro _ a ha
    cases ha
    decide) rfl
  have r₂ := r₁.next (setTable .ingress Oid.null (by decide)) (by
    refine ⟨rfl, ?_, fun h => absurd rfl h, ?_, fun _ h => absurd rfl h,
      fun _ _ _ h => absurd rfl h⟩
    · intro _ a ha
      cases ha
    · intro Y a _ _ _ _ oid' Z hne hb
      -- the port is the only object with a record
      change oid' ≠ bindPort at hne
      change ((∅ : Table Oid Oid).insert bindPort ingressTable).lookup oid' = some Z at hb
      rw [lookup_insert_ite, if_neg hne, AList.lookup_empty] at hb
      cases hb) rfl
  have r₃ := r₂.next (setTable .egress egressTable (by decide)) (by
    refine ⟨rfl, ?_, nofun, nofun, fun _ _ _ => .inl ⟨_, _, rfl, rfl⟩, nofun⟩
    intro _ a ha
    cases ha
    decide) rfl
  exact ⟨_, (bindings_of_run r₃).1, by decide, by decide⟩

/-- A table is set for egress where one is bound through ingress: SUCCESS, and it is not
bound. -/
theorem other_stage_not_bound : ∃ s : BindSys .plain,
    Reachable BindStart anyStep bindStep s ∧ ¬ BindingsAgree s ∧
      s.asked bindPort .egress = egressTable ∧ boundAt s.db bindPort .egress = Oid.null := by
  have r₀ : Reachable BindStart anyStep bindStep twoTables := .start twoTables_start
  have r₁ := r₀.next (setTable .ingress ingressTable (by decide)) trivial rfl
  have r₂ := r₁.next (setTable .egress egressTable (by decide)) trivial rfl
  refine ⟨_, r₂, ?_, rfl, by decide⟩
  intro h
  exact absurd (h.asked bindPort .egress) (by decide)

end CtcSai
