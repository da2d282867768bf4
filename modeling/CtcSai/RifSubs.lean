/-
# `RifSubs` — sub-interfaces of ports and LAGs, and the PORT_SVLAN hash

A port counts its sub-interfaces in its record, a LAG in its own, and the hash
of a port is on while the port, or the LAG it is a member of, has any.  The
number that both counts stand for is read off the interface records.  What a
step does is then a step on the two counts, the flag of the LAG and the hash;
whatever else creation and removal write leaves them alone.
-/
import CtcSai.Lib.SharedSwitch
import CtcSai.RifStatsCreate

namespace CtcSai

open KeyedTable SharedSwitch

variable {rc : RifChip}
variable {db : RifDb rc}

/-! ## What is counted -/

/-- A sub-interface that is not virtual, on `g`. -/
def isSubOn (g : BitVec 32) (oid : Oid) (r : Rif) : Bool :=
  rifTypeOf oid = some .subPort && !r.isVirtual && r.gport = g

namespace RifDb

variable (db : RifDb rc)

/-- The sub-interfaces that live on a port or a LAG. -/
def subs (g : BitVec 32) : Nat := Table.count (isSubOn g) db.rifs

/-- `sub_if_ref_cnt` of a port; without a record it is 0. -/
def subIfRefCnt (g : BitVec 32) : BitVec 32 := (db.ports (portOid rc.lchip g)).getD 0

/-- `binding_sub_rif_count` of a LAG. -/
def bindingSubRifCount (g : BitVec 32) : BitVec 16 := db.subRifCount (lagOid rc.lchip g)

/-- `is_binding_sub_rif` of a LAG that has a record. -/
def isBindingSubRif (oid : Oid) : Option Bool :=
  (db.lag.lag rc.lchip oid).map LagInfo.isBindingSubRif

/-- The bits of the members of a LAG. -/
def lagMembers (oid : Oid) : Finset Nat :=
  ((db.lag.lag rc.lchip oid).map LagInfo.memberPorts).getD ∅

/-- The PORT_SVLAN hash of a port. -/
def hash (g : BitVec 32) : Bool := ((db.lag.hw rc.lchip).port g).sclPortSvlan

/-- A port is a member of a LAG. -/
def IsMember (lag g : BitVec 32) : Prop :=
  rc.pm.isPort rc.lchip g ∧ rc.pm.lport g ∈ db.lagMembers (lagOid rc.lchip lag)

/-- Whose sub-interfaces a port's hash is for: those of its LAG, or its own. -/
def HashFor (g h : BitVec 32) : Prop :=
  isLinkaggPort h = true ∧ db.IsMember h g ∨
    h = g ∧ isLinkaggPort g = false ∧
      ∀ lag, isLinkaggPort lag = true → ¬ db.IsMember lag g

end RifDb

theorem portOid_inj {c : Lchip} {g g' : BitVec 32} (h : portOid c g = portOid c g') : g = g' :=
  congrArg Oid.value h

theorem lagOid_inj {c : Lchip} {g g' : BitVec 32} (h : lagOid c g = lagOid c g') : g = g' :=
  congrArg Oid.value h

theorem bindingSubRifCount_update (db : RifDb rc) (lag : LagDb) (g : BitVec 32) (c : BitVec 16)
    (x : BitVec 32) :
    ({ db with
      lag := lag
      subRifCount := Function.update db.subRifCount (lagOid rc.lchip g) c } :
        RifDb rc).bindingSubRifCount x = if x = g then c else db.bindingSubRifCount x := by
  unfold RifDb.bindingSubRifCount
  dsimp only
  by_cases hx : x = g
  · rw [hx, Function.update_self, if_pos rfl]
  · rw [Function.update_of_ne (fun he => hx (lagOid_inj he)), if_neg hx]

/-! ## What leaves the counts alone -/

/-- Two states in which the counts, the flags, the members and the hashes are
the same. -/
structure SameSubs (db db' : RifDb rc) : Prop where
  ports : db'.ports = db.ports
  counts : db'.subRifCount = db.subRifCount
  flags : ∀ o, db'.isBindingSubRif o = db.isBindingSubRif o
  members : ∀ o, db'.lagMembers o = db.lagMembers o
  hash : ∀ g, db'.hash g = db.hash g

theorem SameSubs.refl (db : RifDb rc) : SameSubs db db :=
  ⟨rfl, rfl, fun _ => rfl, fun _ => rfl, fun _ => rfl⟩

theorem SameSubs.trans {a b c : RifDb rc} (h : SameSubs a b) (h' : SameSubs b c) :
    SameSubs a c where
  ports := h'.ports.trans h.ports
  counts := h'.counts.trans h.counts
  flags o := (h'.flags o).trans (h.flags o)
  members o := (h'.members o).trans (h.members o)
  hash g := (h'.hash g).trans (h.hash g)

/-- Whose a port's hash is depends on the members only. -/
theorem hashFor_congr {db' : RifDb rc} (h : ∀ o, db'.lagMembers o = db.lagMembers o)
    (g x : BitVec 32) : db'.HashFor g x ↔ db.HashFor g x := by
  unfold RifDb.HashFor RifDb.IsMember
  simp only [h]

theorem SameSubs.of_eq {db' : RifDb rc} (hp : db'.ports = db.ports)
    (hc : db'.subRifCount = db.subRifCount) (hl : db'.lag = db.lag) : SameSubs db db' where
  ports := hp
  counts := hc
  flags o := by
    unfold RifDb.isBindingSubRif
    rw [hl]
  members o := by
    unfold RifDb.lagMembers
    rw [hl]
  hash g := by
    unfold RifDb.hash
    rw [hl]

/-- What a step on one interface leaves alone: the counts, the interfaces that
the hardware has, the records of the others, and of its own what it is counted
by. -/
structure SameRif (oid : Oid) (db db' : RifDb rc) : Prop where
  subs : SameSubs db db'
  hw : ∀ k, (db'.l3ifs k).isSome = (db.l3ifs k).isSome
  others : ∀ o, o ≠ oid → db'.rifs.lookup o = db.rifs.lookup o
  own : (db'.rifs.lookup oid).map (fun r => (r.isVirtual, r.gport)) =
    (db.rifs.lookup oid).map (fun r => (r.isVirtual, r.gport))

section Frames

variable {oid : Oid} {db db' db'' : RifDb rc}

theorem SameRif.refl (oid : Oid) (db : RifDb rc) : SameRif oid db db :=
  ⟨.refl db, fun _ => rfl, fun _ _ => rfl, rfl⟩

theorem SameRif.trans (h : SameRif oid db db') (h' : SameRif oid db' db'') :
    SameRif oid db db'' where
  subs := h.subs.trans h'.subs
  hw k := (h'.hw k).trans (h.hw k)
  others o ho := (h'.others o ho).trans (h.others o ho)
  own := h'.own.trans h.own

theorem SameSubs.sameRif (h : SameSubs db db') (hr : db'.rifs = db.rifs)
    (hw : ∀ k, (db'.l3ifs k).isSome = (db.l3ifs k).isSome) : SameRif oid db db' where
  subs := h
  hw := hw
  others o _ := by rw [hr]
  own := by rw [hr]

variable {r : Rif}

theorem setRif_sameRif {r' : Rif} (hl : db.rifs.lookup oid = some r)
    (hv : r'.isVirtual = r.isVirtual) (hg : r'.gport = r.gport) :
    SameRif oid db (db.setRif oid r') where
  subs := .of_eq rfl rfl rfl
  hw _ := rfl
  others o ho := by
    unfold RifDb.setRif
    rw [Table.lookup_insert_ite, if_neg ho]
  own := by
    rw [lookup_setRif, hl]
    simp [hv, hg]

variable (sdk : RifSdk)

theorem isSome_setL3if {id : Nat} {hw : L3ifHw} (hl : db.l3ifs id = some hw) (hw' : L3ifHw)
    (k : Nat) : ((db.setL3if id (some hw')).l3ifs k).isSome = (db.l3ifs k).isSome := by
  unfold RifDb.setL3if
  dsimp only
  rw [Function.update_apply]
  split
  · next hk =>
    rw [hk, hl]
    rfl
  · rfl

theorem setProperty_sameRif (site : RifSite) (id : Nat) (p : L3ifProperty) (v : Nat) :
    SameRif oid db (db.setProperty sdk site id p v).2 := by
  unfold RifDb.setProperty
  split
  · next hl => exact SameSubs.sameRif (.of_eq rfl rfl rfl) rfl (isSome_setL3if hl _)
  · exact .refl oid db
  · exact .refl oid db

theorem setRouterMac_sameRif (site : RifSite) (id : Nat) (f : List Mac → List Mac) :
    SameRif oid db (db.setRouterMac sdk site id f).2 := by
  unfold RifDb.setRouterMac
  split
  · next hl => exact SameSubs.sameRif (.of_eq rfl rfl rfl) rfl (isSome_setL3if hl _)
  · exact .refl oid db
  · exact .refl oid db

theorem destroyStats_sameRif (id : Nat) : SameRif oid db (db.destroyStats sdk id) := by
  unfold RifDb.destroyStats
  split
  · exact SameSubs.sameRif (.of_eq rfl rfl rfl) rfl fun _ => rfl
  · exact .refl oid db

theorem createStats_sameRif {site : RifSite} {id : Nat} (h : db.createStats sdk site = some (id, db')) :
    SameRif oid db db' := by
  unfold RifDb.createStats at h
  split at h
  · obtain ⟨p, _, he⟩ := Option.map_eq_some_iff.mp h
    cases he
    exact SameSubs.sameRif (.of_eq rfl rfl rfl) rfl fun _ => rfl
  · cases h

theorem setProperties_sameRif (id : Nat) (ps : List (L3ifProperty × Nat)) :
    SameRif oid db (setProperties sdk id db ps).2 := by
  induction ps generalizing db with
  | nil => exact .refl oid db
  | cons x ps ih =>
    have h := @setProperty_sameRif rc oid db sdk (.hwProp x.1) id x.1 x.2
    unfold setProperties
    generalize db.setProperty sdk (.hwProp x.1) id x.1 x.2 = y at h
    obtain ⟨e, db'⟩ := y
    cases e <;> first | exact h.trans ih | exact h

theorem setDomains_sameRif (id : Nat)
    (xs : List (BitVec 32 × PortQosProp × L3ifProperty × (BitVec 32 → Option Nat))) :
    SameRif oid db (setDomains sdk id db xs).2 := by
  induction xs generalizing db with
  | nil => exact .refl oid db
  | cons x xs ih =>
    obtain ⟨g, ask, p, value⟩ := x
    have h : SameRif oid db (setDomainStep sdk db id g ask p value).2 := by
      unfold setDomainStep
      split
      · split
        · exact .refl oid db
        · exact setProperty_sameRif sdk _ _ _ _
      · exact .refl oid db
    unfold setDomains
    generalize setDomainStep sdk db id g ask p value = y at h
    obtain ⟨status, db'⟩ := y
    split
    · next hx =>
      cases hx
      exact h.trans ih
    · next hx =>
      cases hx
      exact h

theorem hwRouterMac_sameRif (o : Oid) (r : Rif) : SameRif oid db (hwRouterMac sdk db o r).2 := by
  unfold hwRouterMac
  split
  · split
    · exact setRouterMac_sameRif sdk _ _ _
    · have h := @setRouterMac_sameRif rc oid db sdk .hwZeroRouterMac r.actualL3ifId (fun _ => [0])
      generalize db.setRouterMac sdk .hwZeroRouterMac r.actualL3ifId (fun _ => [0]) = x at h
      obtain ⟨e, db'⟩ := x
      cases e <;> first | exact h.trans (setRouterMac_sameRif sdk _ _ _) | exact h
  · exact setRouterMac_sameRif sdk _ _ _

theorem SameRif.setRif (h : SameRif oid db db') {r' : Rif} (hl : db.rifs.lookup oid = some r)
    (hv : r'.isVirtual = r.isVirtual) (hg : r'.gport = r.gport) :
    SameRif oid db (db'.setRif oid r') := by
  have hown := h.own
  rw [hl] at hown
  obtain ⟨x, hx, he⟩ := Option.map_eq_some_iff.mp hown
  rw [Prod.mk.injEq] at he
  exact h.trans (setRif_sameRif hx (hv.trans he.1.symm) (hg.trans he.2.symm))

theorem hwStatsOn_sameRif (h : SameRif oid db db') (hl : db.rifs.lookup oid = some r) (id : Nat) :
    SameRif oid db (hwStatsOn sdk db' oid r id).2 := by
  -- the label `error3`, from any state of the call
  have herror3 : ∀ d : RifDb rc, SameRif oid db d →
      SameRif oid db (((d.setRif oid { r with ingStatsid := 0 }).setProperty sdk
        (.hwClearStats false) id .stats 0).2.destroyStats sdk 0) := by
    intro d hd
    have hset : SameRif oid db (d.setRif oid { r with ingStatsid := 0 }) := hd.setRif hl rfl rfl
    exact (hset.trans (setProperty_sameRif sdk _ _ _ _)).trans (destroyStats_sameRif sdk 0)
  unfold hwStatsOn
  split
  · exact h
  next ing d₁ h₁ =>
  have h₂ := (h.trans (createStats_sameRif sdk h₁)).trans
    (setProperty_sameRif sdk (.hwPropStats false) id .stats ing)
  split
  · next d₂ hx =>
    rw [hx] at h₂
    have h₃ : SameRif oid db (d₂.setRif oid { r with ingStatsid := ing }) :=
      h₂.setRif hl rfl rfl
    dsimp only
    split
    · exact herror3 _ h₃
    next eg d₄ h₄ =>
    have h₅ := (h₃.trans (createStats_sameRif sdk h₄)).trans
      (setProperty_sameRif sdk (.hwPropStats true) id .egsStats eg)
    split
    · next hy =>
      rw [hy] at h₅
      exact h₅.setRif hl rfl rfl
    · next hy =>
      rw [hy] at h₅
      exact herror3 _ (h₅.trans (destroyStats_sameRif sdk _))
  · next hx =>
    rw [hx] at h₂
    exact h₂.trans (destroyStats_sameRif sdk _)

theorem hwStatsOff_sameRif (h : SameRif oid db db') (hl : db.rifs.lookup oid = some r) (id : Nat) :
    SameRif oid db (hwStatsOff sdk db' oid r id) := by
  have h₁ := (h.trans (destroyStats_sameRif sdk r.ingStatsid)).trans
    (destroyStats_sameRif sdk r.egsStatsid)
  have h₂ := (h₁.trans (setProperty_sameRif sdk (.hwClearStats false) id .stats 0)).trans
    (setProperty_sameRif sdk (.hwClearStats true) id .egsStats 0)
  exact h₂.setRif hl rfl rfl

theorem hwStats_sameRif (h : SameRif oid db db') (hl : db.rifs.lookup oid = some r) (id : Nat) :
    SameRif oid db (hwStats sdk db' oid r id).2 := by
  unfold hwStats
  split
  · exact hwStatsOn_sameRif sdk h hl id
  · split
    · exact hwStatsOff_sameRif sdk h hl id
    · exact h

theorem setAttrHw_sameRif : SameRif oid db (setAttrHw sdk db oid).2 := by
  unfold setAttrHw
  split
  · exact .refl oid db
  next r hl =>
  split
  · exact .refl oid db
  split
  · exact .refl oid db
  split
  · exact hwRouterMac_sameRif sdk oid r
  have h := @setProperties_sameRif rc oid db sdk (rifNumber oid) r.hwProps
  generalize setProperties sdk (rifNumber oid) db r.hwProps = x at h
  obtain ⟨status, d⟩ := x
  split
  · next d' hx =>
    cases hx
    have h' := hwStats_sameRif sdk h hl (rifNumber oid)
    generalize hwStats sdk d oid r (rifNumber oid) = y at h'
    obtain ⟨status, d'⟩ := y
    split
    · next hy =>
      cases hy
      exact h'.trans (hwRouterMac_sameRif sdk oid r)
    · next hy =>
      cases hy
      exact h'
  · next hx =>
    cases hx
    exact h

end Frames

/-! ## Writes to ports and LAGs -/

theorem hash_setPort (db : RifDb rc) (g : BitVec 32) (f : PortRegs → PortRegs) (x : BitVec 32) :
    (db.setPort g f).hash x =
      if x = g then (f ((db.lag.hw rc.lchip).port g)).sclPortSvlan else db.hash x := by
  unfold RifDb.hash RifDb.setPort LagDb.setPort LagDb.setHw LagHw.setPort
  dsimp only
  rw [Function.update_self]
  dsimp only
  rw [Function.update_apply]
  split <;> rfl

theorem setPort_sameRif {oid : Oid} {f : PortRegs → PortRegs}
    (hf : ∀ x, (f x).sclPortSvlan = x.sclPortSvlan) (g : BitVec 32) :
    SameRif oid db (db.setPort g f) := by
  refine SameSubs.sameRif ⟨rfl, rfl, fun _ => rfl, fun _ => rfl, fun x => ?_⟩ rfl fun _ => rfl
  rw [hash_setPort]
  split
  · next hx =>
    rw [hf, hx]
    rfl
  · rfl

section Writes

variable {oid : Oid} {db : RifDb rc} (sdk : RifSdk)
variable {l : LagInfo} {g : BitVec 32}

theorem portWritesAll_sameRif {f : PortRegs → PortRegs}
    (hf : ∀ x, (f x).sclPortSvlan = x.sclPortSvlan) (site : BitVec 32 → RifSite)
    (gs : List (BitVec 32)) : SameRif oid db (portWritesAll sdk site f db gs) := by
  induction gs generalizing db with
  | nil => exact .refl oid db
  | cons g gs ih =>
    unfold portWritesAll
    split
    · exact (setPort_sameRif hf g).trans ih
    · exact ih

theorem portWrites_sameRif {f : PortRegs → PortRegs}
    (hf : ∀ x, (f x).sclPortSvlan = x.sclPortSvlan) (site : BitVec 32 → RifSite)
    (gs : List (BitVec 32)) : SameRif oid db (portWrites sdk site f db gs).2 := by
  induction gs generalizing db with
  | nil => exact .refl oid db
  | cons g gs ih =>
    unfold portWrites
    split
    · exact (setPort_sameRif hf g).trans ih
    · exact .refl oid db

theorem lag_setLag_map {A : Type} (f : LagInfo → A) {o : Oid} {l₀ : LagInfo}
    (h : db.lag.lag rc.lchip o = some l₀) (l : LagInfo) (x : Oid) :
    ((db.lag.setLag o l).lag rc.lchip x).map f =
      if x = o then some (f l) else (db.lag.lag rc.lchip x).map f := by
  have hc : o.lchip = rc.lchip := by
    unfold LagDb.lag at h
    split at h
    · assumption
    · cases h
  unfold LagDb.lag LagDb.setLag
  by_cases hx : x = o
  · subst hx
    rw [if_pos hc, if_pos rfl, AList.lookup_insert]
    rfl
  · rw [if_neg hx, Table.lookup_insert_ite, if_neg hx]

theorem setLag_sameRif {o : Oid} {l₀ : LagInfo} (h : db.lag.lag rc.lchip o = some l₀)
    (hb : l.isBindingSubRif = l₀.isBindingSubRif) (hm : l.memberPorts = l₀.memberPorts) :
    SameRif oid db { db with lag := db.lag.setLag o l } := by
  refine SameSubs.sameRif ⟨rfl, rfl, fun x => ?_, fun x => ?_, fun _ => rfl⟩ rfl fun _ => rfl
  · show ((db.lag.setLag o l).lag rc.lchip x).map _ = (db.lag.lag rc.lchip x).map _
    rw [lag_setLag_map _ h]
    split
    · next hx => rw [hx, h, hb]; rfl
    · rfl
  · show (((db.lag.setLag o l).lag rc.lchip x).map _).getD ∅ = ((db.lag.lag rc.lchip x).map _).getD ∅
    rw [lag_setLag_map _ h]
    split
    · next hx => rw [hx, h, hm]; rfl
    · rfl

theorem lagBindingRif_none (h : db.lag.lag rc.lchip (lagOid rc.lchip g) = none) (bind : Bool)
    (t : L3ifType) : lagBindingRif db g bind t = db := by
  unfold lagBindingRif
  dsimp only
  rw [h]

theorem lagBindingRif_phyIf_sameRif (g : BitVec 32) (bind : Bool) :
    SameRif oid db (lagBindingRif db g bind .phyIf) := by
  cases hl : db.lag.lag rc.lchip (lagOid rc.lchip g) with
  | none =>
    rw [lagBindingRif_none hl]
    exact .refl oid db
  | some l =>
    unfold lagBindingRif
    dsimp only
    rw [hl]
    exact setLag_sameRif hl rfl rfl

/-- The hash of some ports is written, and nothing else. -/
structure HashWritten (W : List (BitVec 32)) (v : Bool) (db db' : RifDb rc) : Prop where
  rifs : db'.rifs = db.rifs
  ports : db'.ports = db.ports
  counts : db'.subRifCount = db.subRifCount
  flags : ∀ o, db'.isBindingSubRif o = db.isBindingSubRif o
  members : ∀ o, db'.lagMembers o = db.lagMembers o
  on : ∀ g ∈ W, db'.hash g = v
  out : ∀ g, g ∉ W → db'.hash g = db.hash g

theorem HashWritten.nil (v : Bool) (db : RifDb rc) : HashWritten [] v db db :=
  ⟨rfl, rfl, rfl, fun _ => rfl, fun _ => rfl, nofun, fun _ _ => rfl⟩

theorem HashWritten.cons {g : BitVec 32} {W : List (BitVec 32)} {v : Bool} {db' : RifDb rc}
    {f : PortRegs → PortRegs} (hf : ∀ x, (f x).sclPortSvlan = v)
    (h : HashWritten W v (db.setPort g f) db') : HashWritten (g :: W) v db db' where
  rifs := h.rifs
  ports := h.ports
  counts := h.counts
  flags := h.flags
  members := h.members
  on x hx := by
    by_cases hW : x ∈ W
    · exact h.on x hW
    · have hxg : x = g := by simpa [hW] using hx
      rw [h.out x hW, hash_setPort, if_pos hxg, hf]
  out x hx := by
    rw [List.mem_cons, not_or] at hx
    rw [h.out x hx.2, hash_setPort, if_neg hx.1]

theorem portWrites_hash {f : PortRegs → PortRegs} {v : Bool}
    (hf : ∀ x, (f x).sclPortSvlan = v) {site : BitVec 32 → RifSite} (W : List (BitVec 32))
    (hs : ∀ g ∈ W, sdk.rc (site g) = .none) :
    ∃ db', portWrites sdk site f db W = (.success, db') ∧ HashWritten W v db db' := by
  induction W generalizing db with
  | nil => exact ⟨db, rfl, .nil v db⟩
  | cons g W ih =>
    obtain ⟨db', hr, hw⟩ := @ih (db.setPort g f) fun x hx => hs x (List.mem_cons_of_mem g hx)
    unfold portWrites
    rw [hs g List.mem_cons_self]
    exact ⟨db', hr, hw.cons hf⟩

theorem portWritesAll_hash {f : PortRegs → PortRegs} {v : Bool}
    (hf : ∀ x, (f x).sclPortSvlan = v) {site : BitVec 32 → RifSite} (W : List (BitVec 32))
    (hs : ∀ g ∈ W, sdk.rc (site g) = .none) :
    HashWritten W v db (portWritesAll sdk site f db W) := by
  induction W generalizing db with
  | nil => exact .nil v db
  | cons g W ih =>
    unfold portWritesAll
    rw [if_pos (hs g List.mem_cons_self)]
    exact (@ih (db.setPort g f) fun x hx => hs x (List.mem_cons_of_mem g hx)).cons hf

/-- The count and the flag of one LAG are written, and nothing else. -/
structure LagCounted (g : BitVec 32) (c : BitVec 16) (b : Option Bool) (db db' : RifDb rc) :
    Prop where
  rifs : db'.rifs = db.rifs
  ports : db'.ports = db.ports
  members : ∀ o, db'.lagMembers o = db.lagMembers o
  hash : ∀ x, db'.hash x = db.hash x
  counts : ∀ x, db'.bindingSubRifCount x = if x = g then c else db.bindingSubRifCount x
  flags : ∀ o, db'.isBindingSubRif o = if o = lagOid rc.lchip g then b else db.isBindingSubRif o

theorem LagCounted.unrecorded (h : db.lag.lag rc.lchip (lagOid rc.lchip g) = none) :
    LagCounted g (db.bindingSubRifCount g) none db db where
  rifs := rfl
  ports := rfl
  members _ := rfl
  hash _ := rfl
  counts x := by
    split
    · next hx => rw [hx]
    · rfl
  flags o := by
    split
    · next ho =>
      rw [ho]
      unfold RifDb.isBindingSubRif
      rw [h]
      rfl
    · rfl

theorem LagCounted.recorded (h : db.lag.lag rc.lchip (lagOid rc.lchip g) = some l) (c : BitVec 16)
    (b : Bool) :
    LagCounted g c (some b) db { db with
      lag := db.lag.setLag (lagOid rc.lchip g) { l with isBindingSubRif := b }
      subRifCount := Function.update db.subRifCount (lagOid rc.lchip g) c } where
  rifs := rfl
  ports := rfl
  members o := by
    unfold RifDb.lagMembers
    rw [lag_setLag_map _ h]
    split
    · next ho =>
      rw [ho, h]
      rfl
    · rfl
  hash _ := rfl
  counts := bindingSubRifCount_update db _ g c
  flags o := by
    unfold RifDb.isBindingSubRif
    rw [lag_setLag_map _ h]

theorem LagCounted.counted (h : db.lag.lag rc.lchip (lagOid rc.lchip g) = some l) (c : BitVec 16) :
    LagCounted g c (some l.isBindingSubRif) db { db with
      subRifCount := Function.update db.subRifCount (lagOid rc.lchip g) c } where
  rifs := rfl
  ports := rfl
  members _ := rfl
  hash _ := rfl
  counts := bindingSubRifCount_update db _ g c
  flags o := by
    split
    · next ho =>
      rw [ho]
      unfold RifDb.isBindingSubRif
      rw [h]
      rfl
    · rfl

theorem lagBindingRif_bind {k : Nat} (hk : k + 1 < 2 ^ 16)
    (hlag : ∀ b, db.isBindingSubRif (lagOid rc.lchip g) = some b →
      (db.bindingSubRifCount g).toNat = k ∧ (b = true ↔ 0 < k)) :
    ∃ c b, LagCounted g c b db (lagBindingRif db g true .subIf) ∧
      ∀ x, b = some x → c.toNat = k + 1 ∧ (x = true ↔ 0 < k + 1) := by
  cases hl : db.lag.lag rc.lchip (lagOid rc.lchip g) with
  | none =>
    rw [lagBindingRif_none hl]
    exact ⟨_, _, .unrecorded hl, nofun⟩
  | some l =>
    have hcount := (hlag l.isBindingSubRif (by unfold RifDb.isBindingSubRif; rw [hl]; rfl)).1
    refine ⟨db.bindingSubRifCount g + 1, some true, ?_, ?_⟩
    · have hbind : lagBindingRif db g true .subIf = { db with
          lag := db.lag.setLag (lagOid rc.lchip g) { l with isBindingSubRif := true }
          subRifCount := Function.update db.subRifCount (lagOid rc.lchip g)
            (db.bindingSubRifCount g + 1) } := by
        unfold lagBindingRif
        dsimp only
        rw [hl]
        rfl
      rw [hbind]
      exact .recorded hl _ true
    · rintro x ⟨⟩
      refine ⟨?_, by simp⟩
      rw [BitVec.toNat_add, hcount]
      exact Nat.mod_eq_of_lt hk

theorem lagBindingRif_unbind {g : BitVec 32} {k : Nat}
    (hlag : ∀ b, db.isBindingSubRif (lagOid rc.lchip g) = some b →
      (db.bindingSubRifCount g).toNat = k + 1 ∧ (b = true ↔ 0 < k + 1)) :
    ∃ c b, LagCounted g c b db (lagBindingRif db g false .subIf) ∧
      ∀ x, b = some x → c.toNat = k ∧ (x = true ↔ 0 < k) := by
  cases hl : db.lag.lag rc.lchip (lagOid rc.lchip g) with
  | none =>
    rw [lagBindingRif_none hl]
    exact ⟨_, _, .unrecorded hl, nofun⟩
  | some l =>
    obtain ⟨hcount, hflag⟩ := hlag l.isBindingSubRif (by
      unfold RifDb.isBindingSubRif
      rw [hl]
      rfl)
    have hk : (db.bindingSubRifCount g - 1).toNat = k := by
      have hone : (1 : BitVec 16).toNat = 1 := rfl
      rw [BitVec.toNat_sub, hcount]
      omega
    have hzero : db.bindingSubRifCount g - 1 = 0 ↔ k = 0 := by
      rw [← hk]
      exact ⟨fun h => by rw [h]; rfl, fun h => BitVec.eq_of_toNat_eq h⟩
    have hbind : lagBindingRif db g false .subIf = { db with
        lag := if db.bindingSubRifCount g - 1 = 0 then
          db.lag.setLag (lagOid rc.lchip g) { l with isBindingSubRif := false } else db.lag
        subRifCount := Function.update db.subRifCount (lagOid rc.lchip g)
          (db.bindingSubRifCount g - 1) } := by
      unfold lagBindingRif
      dsimp only
      rw [hl]
      rfl
    rw [hbind]
    by_cases hz : k = 0
    · rw [if_pos (hzero.mpr hz)]
      refine ⟨_, _, .recorded hl (db.bindingSubRifCount g - 1) false, ?_⟩
      rintro x ⟨⟩
      exact ⟨hk, by simp [hz]⟩
    rw [if_neg (mt hzero.mp hz)]
    refine ⟨_, _, .counted hl (db.bindingSubRifCount g - 1), ?_⟩
    rintro x ⟨⟩
    exact ⟨hk, by simp [hflag]; omega⟩

end Writes

/-! ## The invariant -/

/-- The counts, the flags and the hashes say that there are `n g`
sub-interfaces on `g`. -/
structure SubsOk (db : RifDb rc) (n : BitVec 32 → Nat) : Prop where
  port : ∀ g, isLinkaggPort g = false → (db.subIfRefCnt g).toNat = n g
  lag : ∀ g b, db.isBindingSubRif (lagOid rc.lchip g) = some b →
    (db.bindingSubRifCount g).toNat = n g ∧ (b = true ↔ 0 < n g)
  hash : Agrees db.HashFor n db.hash
  named : ∀ o b, db.isBindingSubRif o = some b →
    ∃ g, isLinkaggPort g = true ∧ o = lagOid rc.lchip g
  one : ∀ b o o', b ∈ db.lagMembers o → b ∈ db.lagMembers o' → o = o'

section Inv

variable {db db' : RifDb rc} {n : BitVec 32 → Nat}
variable {g : BitVec 32} {k : Nat} {W : List (BitVec 32)} {v : Bool}

theorem SubsOk.same (h : SubsOk db n) (hs : SameSubs db db') : SubsOk db' n where
  port g hg := by
    unfold RifDb.subIfRefCnt
    rw [hs.ports]
    exact h.port g hg
  lag g b hl := by
    rw [hs.flags] at hl
    unfold RifDb.bindingSubRifCount
    rw [hs.counts]
    exact h.lag g b hl
  hash := h.hash.congr (fun g x => (hashFor_congr hs.members g x).mp) hs.hash
  named o b hb := h.named o b (by rw [← hs.flags]; exact hb)
  one b o o' hb hb' := h.one b o o' (by rw [← hs.members]; exact hb)
    (by rw [← hs.members]; exact hb')

theorem SubsOk.atPort (h : SubsOk db n) (hg : isLinkaggPort g = false)
    (hp : ∀ x, db'.subIfRefCnt x = if x = g then BitVec.ofNat 32 k else db.subIfRefCnt x)
    (hk : k < 2 ^ 32) (hc : db'.subRifCount = db.subRifCount)
    (hf : ∀ o, db'.isBindingSubRif o = db.isBindingSubRif o)
    (hm : ∀ o, db'.lagMembers o = db.lagMembers o)
    (hash : Agrees db'.HashFor (Function.update n g k) db'.hash) :
    SubsOk db' (Function.update n g k) where
  port x hx := by
    rw [hp]
    by_cases he : x = g
    · rw [if_pos he, he, Function.update_self, BitVec.toNat_ofNat, Nat.mod_eq_of_lt hk]
    · rw [if_neg he, Function.update_of_ne he]
      exact h.port x hx
  lag x b hb := by
    rw [hf] at hb
    have hx : x ≠ g := by
      rintro rfl
      obtain ⟨y, hy, he⟩ := h.named _ b hb
      rw [lagOid_inj he, hy] at hg
      cases hg
    unfold RifDb.bindingSubRifCount
    rw [Function.update_of_ne hx, hc]
    exact h.lag x b hb
  hash := hash
  named o b hb := h.named o b (by rw [← hf]; exact hb)
  one b o o' hb hb' := h.one b o o' (by rw [← hm]; exact hb) (by rw [← hm]; exact hb')

/-- The number on a LAG changes, and with it the count and the flag of a LAG
that has a record. -/
theorem SubsOk.atLag (h : SubsOk db n) (hg : isLinkaggPort g = true) (hp : db'.ports = db.ports)
    (hc : ∀ b, db'.isBindingSubRif (lagOid rc.lchip g) = some b →
      (db'.bindingSubRifCount g).toNat = k ∧ (b = true ↔ 0 < k))
    (hne : ∀ x, x ≠ g → db'.bindingSubRifCount x = db.bindingSubRifCount x)
    (hf : ∀ o, o ≠ lagOid rc.lchip g → db'.isBindingSubRif o = db.isBindingSubRif o)
    (hm : ∀ o, db'.lagMembers o = db.lagMembers o)
    (hash : Agrees db'.HashFor (Function.update n g k) db'.hash) :
    SubsOk db' (Function.update n g k) where
  port x hx := by
    have he : x ≠ g := by
      rintro rfl
      rw [hg] at hx
      cases hx
    unfold RifDb.subIfRefCnt
    rw [Function.update_of_ne he, hp]
    exact h.port x hx
  lag x b hb := by
    by_cases he : x = g
    · subst he
      rw [Function.update_self]
      exact hc b hb
    have ho : lagOid rc.lchip x ≠ lagOid rc.lchip g := fun ho => he (lagOid_inj ho)
    rw [hf _ ho] at hb
    rw [Function.update_of_ne he, hne x he]
    exact h.lag x b hb
  hash := hash
  named o b hb := by
    by_cases ho : o = lagOid rc.lchip g
    · exact ⟨g, hg, ho⟩
    · exact h.named o b (by rw [← hf o ho]; exact hb)
  one b o o' hb hb' := h.one b o o' (by rw [← hm]; exact hb) (by rw [← hm]; exact hb')

theorem SubsOk.lag_own (h : SubsOk db n) (hg : isLinkaggPort g = true)
    (hW : ∀ x, x ∈ W ↔ db.IsMember g x) :
    (∀ x, db.HashFor x g → x ∈ W) ∧ ∀ x ∈ W, ∀ y, db.HashFor x y → y = g := by
  refine ⟨?_, ?_⟩
  · rintro x (⟨_, hmem⟩ | ⟨rfl, hx, _⟩)
    · exact (hW x).mpr hmem
    · rw [hg] at hx
      cases hx
  · intro x hx y hy
    have hmem := (hW x).mp hx
    rcases hy with ⟨_, hy⟩ | ⟨rfl, _, hno⟩
    · exact lagOid_inj (h.one _ _ _ hy.2 hmem.2)
    · exact absurd hmem (hno g hg)

theorem port_own (hg : isLinkaggPort g = false)
    (hno : ∀ lag, isLinkaggPort lag = true → ¬ db.IsMember lag g) :
    (∀ x, db.HashFor x g → x ∈ [g]) ∧ ∀ x ∈ [g], ∀ y, db.HashFor x y → y = g := by
  refine ⟨?_, ?_⟩
  · rintro x (⟨hlag, _⟩ | ⟨rfl, _, _⟩)
    · rw [hg] at hlag
      cases hlag
    · exact List.mem_singleton.mpr rfl
  · intro x hx y hy
    rw [List.mem_singleton] at hx
    subst hx
    rcases hy with ⟨hlag, hmem⟩ | ⟨rfl, _⟩
    · exact absurd hmem (hno y hlag)
    · rfl

theorem SubsOk.agrees (h : SubsOk db n) (hm : ∀ o, db'.lagMembers o = db.lagMembers o)
    (hv : v = true ↔ 0 < k)
    (hown : (∀ x, db.HashFor x g → x ∈ W) ∧ ∀ x ∈ W, ∀ y, db.HashFor x y → y = g)
    (hon : ∀ x ∈ W, db'.hash x = v) (hout : ∀ x, x ∉ W → db'.hash x = db.hash x) :
    Agrees db'.HashFor (Function.update n g k) db'.hash := by
  have hfor := hashFor_congr hm
  have ha : Agrees db'.HashFor n db.hash := h.hash.congr (fun x y => (hfor x y).mp) fun _ => rfl
  refine ha.write hv (fun x hx => hown.1 x ((hfor x g).mp hx)) ?_ hon hout
  intro x hx y hy
  exact hown.2 x hx y ((hfor x y).mp hy)

theorem SubsOk.agrees_keep (h : SubsOk db n) (hm : ∀ o, db'.lagMembers o = db.lagMembers o)
    (hk : 0 < k ↔ 0 < n g) (hash : ∀ x, db'.hash x = db.hash x) :
    Agrees db'.HashFor (Function.update n g k) db'.hash := by
  have ha : Agrees db'.HashFor n db'.hash :=
    h.hash.congr (fun x y => (hashFor_congr hm x y).mp) hash
  exact ha.keep hk

theorem HashWritten.count_eq (hw : HashWritten W v db db') (g : BitVec 32) :
    db'.bindingSubRifCount g = db.bindingSubRifCount g := by
  unfold RifDb.bindingSubRifCount
  rw [hw.counts]

/-- The LAG is counted, and the hash keys of its members are written. -/
theorem SubsOk.lag_walk {db₁ : RifDb rc} {c : BitVec 16} {b : Option Bool} (h : SubsOk db n)
    (hg : isLinkaggPort g = true) (hc : LagCounted g c b db db₁)
    (hb : ∀ x, b = some x → c.toNat = k ∧ (x = true ↔ 0 < k)) (hv : v = true ↔ 0 < k)
    (hW : ∀ x, x ∈ W ↔ db.IsMember g x) (hw : HashWritten W v db₁ db') :
    SubsOk db' (Function.update n g k) := by
  have hm : ∀ o, db'.lagMembers o = db.lagMembers o := fun o =>
    (hw.members o).trans (hc.members o)
  refine h.atLag hg (hw.ports.trans hc.ports) ?_ ?_ ?_ hm ?_
  · intro x hx
    rw [hw.flags, hc.flags, if_pos rfl] at hx
    rw [hw.count_eq, hc.counts, if_pos rfl]
    exact hb x hx
  · intro x hx
    rw [hw.count_eq, hc.counts, if_neg hx]
  · intro o ho
    rw [hw.flags, hc.flags, if_neg ho]
  · refine h.agrees hm hv (h.lag_own hg hW) hw.on fun x hx => ?_
    rw [hw.out x hx, hc.hash]

theorem SubsOk.lag_up (h : SubsOk db n) (hg : isLinkaggPort g = true) (hk : n g + 1 < 2 ^ 16)
    (hW : ∀ x, x ∈ W ↔ db.IsMember g x)
    (hw : HashWritten W true (lagBindingRif db g true .subIf) db') :
    SubsOk db' (Function.update n g (n g + 1)) := by
  obtain ⟨c, b, hc, hb⟩ := lagBindingRif_bind hk (h.lag g)
  exact h.lag_walk hg hc hb (by simp) hW hw

theorem SubsOk.lag_down (h : SubsOk db n) (hg : isLinkaggPort g = true) (hn : n g = k + 2) :
    SubsOk (lagBindingRif db g false .subIf) (Function.update n g (k + 1)) := by
  obtain ⟨c, b, hc, hb⟩ := @lagBindingRif_unbind rc db g (k + 1) (by rw [← hn]; exact h.lag g)
  refine h.atLag hg hc.ports ?_ ?_ ?_ hc.members ?_
  · intro x hx
    rw [hc.flags, if_pos rfl] at hx
    rw [hc.counts, if_pos rfl]
    exact hb x hx
  · intro x hx
    rw [hc.counts, if_neg hx]
  · intro o ho
    rw [hc.flags, if_neg ho]
  · exact h.agrees_keep hc.members (by omega) hc.hash

theorem SubsOk.lag_last (h : SubsOk db n) (hg : isLinkaggPort g = true) (hn : n g = 1)
    (hW : ∀ x, x ∈ W ↔ db.IsMember g x)
    (hw : HashWritten W false (lagBindingRif db g false .subIf) db') :
    SubsOk db' (Function.update n g 0) := by
  obtain ⟨c, b, hc, hb⟩ := @lagBindingRif_unbind rc db g 0 (by rw [Nat.zero_add, ← hn]; exact h.lag g)
  exact h.lag_walk hg hc hb (by simp) hW hw

theorem SubsOk.lag_undo (h : SubsOk db n) (hg : isLinkaggPort g = true) (hn : n g = 1)
    (hW : ∀ x, x ∈ W ↔ db.IsMember g x) (hw : HashWritten W false db db') :
    SubsOk (lagBindingRif db' g false .subIf) (Function.update n g 0) := by
  obtain ⟨c, b, hc, hb⟩ := @lagBindingRif_unbind rc db' g 0 (by
    intro b hb
    rw [hw.flags] at hb
    rw [hw.count_eq, Nat.zero_add, ← hn]
    exact h.lag g b hb)
  have hm : ∀ o, (lagBindingRif db' g false .subIf).lagMembers o = db.lagMembers o := fun o =>
    (hc.members o).trans (hw.members o)
  refine h.atLag hg (hc.ports.trans hw.ports) ?_ ?_ ?_ hm ?_
  · intro x hx
    rw [hc.flags, if_pos rfl] at hx
    rw [hc.counts, if_pos rfl]
    exact hb x hx
  · intro x hx
    rw [hc.counts, if_neg hx, hw.count_eq]
  · intro o ho
    rw [hc.flags, if_neg ho, hw.flags]
  · refine h.agrees (v := false) hm (by simp) (h.lag_own hg hW) (fun x hx => ?_) fun x hx => ?_
    · rw [hc.hash, hw.on x hx]
    · rw [hc.hash, hw.out x hx]

theorem subIfRefCnt_set (db : RifDb rc) (g cnt x : BitVec 32) :
    (db.setSubIfRefCnt g cnt).subIfRefCnt x = if x = g then cnt else db.subIfRefCnt x := by
  unfold RifDb.subIfRefCnt RifDb.setSubIfRefCnt
  dsimp only
  by_cases hx : x = g
  · rw [hx, Function.update_self, if_pos rfl]
    rfl
  · rw [Function.update_of_ne (fun he => hx (portOid_inj he)), if_neg hx]

theorem SubsOk.port_count (h : SubsOk db n) (hg : isLinkaggPort g = false) {cnt : BitVec 32}
    (hk : 0 < cnt.toNat ↔ 0 < n g) :
    SubsOk (db.setSubIfRefCnt g cnt) (Function.update n g cnt.toNat) := by
  refine h.atPort hg (fun x => ?_) cnt.isLt rfl (fun _ => rfl) (fun _ => rfl) ?_
  · rw [subIfRefCnt_set, BitVec.ofNat_toNat, BitVec.setWidth_eq]
  · exact h.agrees_keep (fun _ => rfl) hk fun _ => rfl

theorem SubsOk.port_hash (h : SubsOk db n) (hg : isLinkaggPort g = false)
    (hno : ∀ lag, isLinkaggPort lag = true → ¬ db.IsMember lag g) {cnt : BitVec 32}
    (hv : v = true ↔ 0 < cnt.toNat) (hw : HashWritten [g] v (db.setSubIfRefCnt g cnt) db') :
    SubsOk db' (Function.update n g cnt.toNat) := by
  refine h.atPort hg (fun x => ?_) cnt.isLt hw.counts hw.flags hw.members ?_
  · have hp : db'.subIfRefCnt x = (db.setSubIfRefCnt g cnt).subIfRefCnt x := by
      unfold RifDb.subIfRefCnt
      rw [hw.ports]
    rw [hp, subIfRefCnt_set, BitVec.ofNat_toNat, BitVec.setWidth_eq]
  · exact h.agrees hw.members hv (port_own hg hno) hw.on hw.out

end Inv

end CtcSai
