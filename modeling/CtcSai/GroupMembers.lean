/-
# `GroupMembers` — who belongs to a next-hop group

Membership is written down twice: a member object points at its group, and
the group keeps its members in two slots (PROTECTION) or in hardware (ECMP).
Creation and removal of members and groups change the one without consulting
the other, so the two agree in runs in which no group is removed under its
members and no filled slot is written again.
-/
import CtcSai.Lib.KeyIds
import CtcSai.Lib.Run
import CtcSai.NextHopGroup

namespace CtcSai

open Function IdPool KeyedTable Runs Table

variable {ch : Chip} {σ : Type}

/-! ## The system -/

/-- The database, and beside it the next hop each member was created with:
the member object keeps no more of it than its number. -/
structure GroupState (ch : Chip) (σ : Type) where
  db : GroupDb ch σ
  given : Oid → Oid

/-- The calls of the next-hop-group API that change membership. -/
inductive GroupOp where
  | createGroup (sdk : Sdk) (attrs : List GroupAttr)
  | removeGroup (sdk : Sdk) (oid : Oid)
  | createMember (object : Sdk × List MemberAttr)
  | removeMember (oid : Oid)
  | bulkCreateMembers (mode : BulkOpErrorMode) (objects : List (Sdk × List MemberAttr))
  | bulkRemoveMembers (mode : BulkOpErrorMode) (oids : List Oid)

/-- The next hops of members after one creation. -/
def noteMember (given : Oid → Oid) (attrs : List MemberAttr) (oid : Option Oid) : Oid → Oid :=
  match oid, findAttribInList MemberAttr.nextHopId? attrs with
  | some o, some nhOid => update given o nhOid
  | _, _ => given

def memberCreateStep (m : GroupSdk σ) (s : GroupState ch σ) (object : Sdk × List MemberAttr) :
    Option (Status × Option Oid × GroupState ch σ) :=
  (createMember m object.1 s.db object.2).map fun r =>
    (r.1, r.2.1, ⟨r.2.2, noteMember s.given object.2 r.2.1⟩)

def memberRemoveStep (m : GroupSdk σ) (s : GroupState ch σ) (oid : Oid) :
    Option (Status × Unit × GroupState ch σ) :=
  (removeMember m s.db oid).map fun r => (r.1, (), ⟨r.2, s.given⟩)

def groupStep (m : GroupSdk σ) (s : GroupState ch σ) : GroupOp → Option (GroupState ch σ)
  | .createGroup sdk attrs => some ⟨(createNextHopGroup m sdk s.db attrs).2.2, s.given⟩
  | .removeGroup sdk oid =>
    (removeNextHopGroup m sdk s.db oid).map fun r => ⟨r.2, s.given⟩
  | .createMember object => (memberCreateStep m s object).map fun r => r.2.2
  | .removeMember oid => (memberRemoveStep m s oid).map fun r => r.2.2
  | .bulkCreateMembers mode objects =>
    (bulkLoop (memberCreateStep m) mode s objects).map Prod.snd
  | .bulkRemoveMembers mode oids => (bulkLoop (memberRemoveStep m) mode s oids).map Prod.snd

/-- The start: no group, no member; whatever else there is. -/
def GroupState.Start (s : GroupState ch σ) : Prop :=
  s.db.groups = ∅ ∧ s.db.members = ∅ ∧ s.db.nexthopMember = .empty _

/-! ## What should hold -/

/-- How many members point at a group. -/
def GroupDb.memberCount (db : GroupDb ch σ) (grp : Oid) : Nat :=
  Table.count (fun _ r => decide (r.nhGrpOid = grp)) db.members

/-- The two records of membership agree. -/
structure MembershipOk (m : GroupSdk σ) (s : GroupState ch σ) : Prop where
  live : ∀ o r, s.db.members.lookup o = some r → (s.db.groups.lookup r.nhGrpOid).isSome
  filled : ∀ grp g, s.db.groups.lookup grp = some g →
    grp.subType = NextHopGroupType.protection.bits → ∀ role,
      (g.slot role ≠ Oid.null ↔ ∃ o r, s.db.members.lookup o = some r ∧ r.nhGrpOid = grp ∧
        memberRole o = role)
  slot : ∀ grp g, s.db.groups.lookup grp = some g →
    grp.subType = NextHopGroupType.protection.bits → ∀ o r, s.db.members.lookup o = some r →
      r.nhGrpOid = grp → g.slot (memberRole o) = s.given o
  count : ∀ grp g, s.db.groups.lookup grp = some g →
    getNextHopCount m s.db grp = some (.success, some (s.db.memberCount grp))

/-- The SDK accepts every call. -/
structure GroupSdk.Succeeds (m : GroupSdk σ) : Prop where
  call : ∀ c s, (m.call c s).1 = .none
  nhInfo : ∀ s n, ∃ info, m.nhInfo s n = .ok info

theorem GroupSdk.Succeeds.run {m : GroupSdk σ} (hm : m.Succeeds) (db : GroupDb ch σ)
    (c : GroupCall) : (db.run m c).1 = .none :=
  hm.call c db.hw

theorem GroupSdk.Succeeds.status {m : GroupSdk σ} (hm : m.Succeeds) (db : GroupDb ch σ)
    (c : GroupCall) : mappingErrorCtc (db.run m c).1 = .success := by
  rw [hm.run]
  rfl

/-- The call concerns an ECMP group. -/
def GroupCall.isEcmp : GroupCall → Bool
  | .nhAddEcmp .. | .nhUpdateEcmpAdd .. | .nhUpdateEcmpRemove .. | .nhRemoveEcmp _ => true
  | _ => false

/-- The SDK counts the members of its ECMP groups: `ecmp` is the count it
holds, none where there is no ECMP group. -/
structure GroupSdk.Counts (m : GroupSdk σ) (ecmp : σ → Nat → Option Nat) : Prop where
  info : ∀ {s n k}, ecmp s n = some k → ∃ gport, m.nhInfo s n = .ok ⟨gport, true, k⟩
  add : ∀ s n d, ecmp (m.call (.nhAddEcmp n d) s).2 = update (ecmp s) n (some 1)
  updateAdd : ∀ s n d, ecmp (m.call (.nhUpdateEcmpAdd n d) s).2 =
    update (ecmp s) n ((ecmp s n).map (· + 1))
  updateRemove : ∀ s n d, ecmp (m.call (.nhUpdateEcmpRemove n d) s).2 =
    update (ecmp s) n ((ecmp s n).map (· - 1))
  remove : ∀ s n, ecmp (m.call (.nhRemoveEcmp n) s).2 = update (ecmp s) n none
  other : ∀ s c, c.isEcmp = false → ecmp (m.call c s).2 = ecmp s

/-! ## The condition -/

/-- Two filled slots can be put into hardware. -/
def HwTakes (m : GroupSdk σ) (db : GroupDb ch σ) (grp : Oid) (g : NextHopGrp) : Prop :=
  g.full → ∃ db', createApsNh m db grp.value2.toNat grp.value.toNat g.wNhOid g.pNhOid =
    some (.success, db')

/-- A member may be created: into an ECMP group, or, where it gets as far as
the slot of a PROTECTION group, into an empty one and with a next hop. -/
def MemberCreateSafe (m : GroupSdk σ) (s : GroupState ch σ) (object : Sdk × List MemberAttr) :
    Prop :=
  object.1.Succeeds ∧ ∀ grp g nhOid role i pool,
    findAttribInList MemberAttr.nextHopGroupId? object.2 = some grp →
    s.db.groups.lookup grp = some g → grp.subType ≠ NextHopGroupType.ecmp.bits →
    findAttribInList MemberAttr.nextHopId? object.2 = some nhOid →
    findAttribInList MemberAttr.configuredRole? object.2 = some role →
    s.db.nexthopMember.alloc = some (i, pool) →
    HwTakes m { s.db with nexthopMember := pool } grp (g.setSlot role nhOid) →
    g.slot role = Oid.null ∧ nhOid ≠ Oid.null

/-- The state before a call, where the two records keep agreeing. -/
def GroupSafe (m : GroupSdk σ) (s : GroupState ch σ) : GroupOp → Prop
  | .createGroup sdk _ => sdk.Succeeds
  | .removeGroup sdk oid =>
    sdk.Succeeds ∧ ∀ o r, s.db.members.lookup o = some r → r.nhGrpOid ≠ oid
  | .createMember object => MemberCreateSafe m s object
  | .removeMember _ => True
  | .bulkCreateMembers mode objects =>
    BulkAdmitted (memberCreateStep m) mode (MemberCreateSafe m) s objects
  | .bulkRemoveMembers .. => True

/-! ## Object ids -/

theorem NextHopGroupType.bits_ne : NextHopGroupType.ecmp.bits ≠ NextHopGroupType.protection.bits := by
  decide

@[simp] theorem subType_nextHopGroupOid (lchip : BitVec 8) (t : NextHopGroupType) (aps nhId : Nat) :
    (nextHopGroupOid lchip t aps nhId).subType = t.bits := by
  cases t <;> rfl

theorem value_nextHopGroupOid {lchip : BitVec 8} {t : NextHopGroupType} {aps nhId : Nat}
    (h : nhId < 2 ^ 32) : (nextHopGroupOid lchip t aps nhId).value.toNat = nhId :=
  (BitVec.toNat_ofNat _ _).trans (Nat.mod_eq_of_lt h)

theorem value2_memberOid {lchip : BitVec 8} {w : Bool} {i : Nat} {nhId : BitVec 32}
    (h : i < 2 ^ 16) : (memberOid lchip w i nhId).value2.toNat = i :=
  (BitVec.toNat_ofNat _ _).trans (Nat.mod_eq_of_lt h)

theorem memberRole_role (lchip : BitVec 8) (role : MemberRole) (i : Nat) (nhId : BitVec 32) :
    memberRole (memberOid lchip (role = .primary) i nhId) = role := by
  cases role <;> rfl

/-! ## The hardware of a protection group leaves the records alone -/

section Hardware

variable {m : GroupSdk σ} {P : σ → Prop}

/-- Only what the SDK holds changes, and that keeps `P`. -/
def HwStep (P : σ → Prop) (db db' : GroupDb ch σ) : Prop :=
  ∃ hw, db' = { db with hw := hw } ∧ (P db.hw → P hw)

theorem HwStep.refl (db : GroupDb ch σ) : HwStep P db db := ⟨db.hw, rfl, id⟩

theorem HwStep.trans {db db₁ db₂ : GroupDb ch σ} (h : HwStep P db db₁) (h' : HwStep P db₁ db₂) :
    HwStep P db db₂ := by
  obtain ⟨hw₁, rfl, h₁⟩ := h
  obtain ⟨hw₂, rfl, h₂⟩ := h'
  exact ⟨hw₂, rfl, h₂ ∘ h₁⟩

variable (hP : ∀ c s, c.isEcmp = false → P s → P (m.call c s).2)
include hP

theorem hwStep_run {c : GroupCall} (hc : c.isEcmp = false) (db : GroupDb ch σ) :
    HwStep P db (db.run m c).2 :=
  ⟨_, rfl, hP c _ hc⟩

theorem createApsNhAdd_step (db : GroupDb ch σ) (aps nhId : Nat) (subType : BitVec 3)
    (w p : NextHop) : HwStep P db (createApsNhAdd m db aps nhId subType w p).2 := by
  unfold createApsNhAdd
  split
  · dsimp only
    split
    · exact hwStep_run hP rfl db
    · exact (hwStep_run hP rfl db).trans (hwStep_run hP rfl _)
  split
  · split
    · exact hwStep_run hP rfl db
    · dsimp only
      split
      · exact hwStep_run hP rfl db
      · exact (hwStep_run hP rfl db).trans (hwStep_run hP rfl _)
  · exact .refl db

theorem createApsNh_step {db : GroupDb ch σ} {aps nhId : Nat} {w p : Oid}
    {r : Status × GroupDb ch σ} (h : createApsNh m db aps nhId w p = some r) :
    HwStep P db r.2 := by
  unfold createApsNh at h
  split at h
  · cases h; exact .refl db
  split at h
  · cases h; exact .refl db
  split at h
  · cases h
  · cases h; exact .refl db
  split at h
  · cases h
  · cases h; exact .refl db
  dsimp only at h
  split at h
  · cases h
    exact (hwStep_run hP rfl db).trans (createApsNhAdd_step hP _ _ _ _ _ _)
  · cases h
    exact hwStep_run hP rfl db

theorem removeApsNh_step (db : GroupDb ch σ) (aps nhId : Nat) (nhOid : Oid) :
    HwStep P db (removeApsNh m db aps nhId nhOid) := by
  unfold removeApsNh
  split
  · exact (hwStep_run hP rfl db).trans (hwStep_run hP rfl _)
  · exact hwStep_run hP rfl db

end Hardware

/-! ## The invariant -/

def memberOf (grp : Oid) (role : MemberRole) (o : Oid) (r : NextHopGrpMember) : Bool :=
  decide (r.nhGrpOid = grp) && decide (memberRole o = role)

/-- What holds in every state of an admitted run, `ecmp` being the counts the
SDK holds. -/
structure GroupInv (ecmp : σ → Nat → Option Nat) (s : GroupState ch σ) : Prop where
  groupIds : KeyIds (fun o => o.value.toNat) s.db.groups s.db.hop.nbr.nexthop.used
  memberIds : KeyIds (fun o => o.value2.toNat) s.db.members s.db.nexthopMember.used
  kind : ∀ grp g, s.db.groups.lookup grp = some g →
    grp.subType = NextHopGroupType.ecmp.bits ∨ grp.subType = NextHopGroupType.protection.bits
  counter : ∀ grp g, s.db.groups.lookup grp = some g →
    grp.subType = NextHopGroupType.ecmp.bits → g.counterOid ≠ Oid.null →
      (s.db.hop.ctr.table.lookup g.counterOid).isSome
  live : ∀ o r, s.db.members.lookup o = some r → (s.db.groups.lookup r.nhGrpOid).isSome
  ecmp : ∀ grp g, s.db.groups.lookup grp = some g → grp.subType = NextHopGroupType.ecmp.bits →
    ecmp s.db.hw grp.value.toNat = some (s.db.memberCount grp)
  slots : ∀ grp g, s.db.groups.lookup grp = some g →
    grp.subType = NextHopGroupType.protection.bits → ∀ role,
      Table.count (memberOf grp role) s.db.members = if g.slot role = Oid.null then 0 else 1
  given : ∀ grp g, s.db.groups.lookup grp = some g →
    grp.subType = NextHopGroupType.protection.bits → ∀ o r, s.db.members.lookup o = some r →
      r.nhGrpOid = grp → g.slot (memberRole o) = s.given o

section Groups

variable {ecmp : σ → Nat → Option Nat} {s : GroupState ch σ}

/-- Nothing that the invariant speaks of changed; ids may have been taken and
counters written. -/
structure SameMembership (ecmp : σ → Nat → Option Nat) (db db' : GroupDb ch σ) : Prop where
  groups : db'.groups = db.groups
  members : db'.members = db.members
  nexthop : db.hop.nbr.nexthop.used ⊆ db'.hop.nbr.nexthop.used
  counter : ∀ o, (db.hop.ctr.table.lookup o).isSome → (db'.hop.ctr.table.lookup o).isSome
  memberUsed : db'.nexthopMember.used = db.nexthopMember.used
  ecmp : ecmp db'.hw = ecmp db.hw

theorem GroupInv.same (h : GroupInv ecmp s) {db' : GroupDb ch σ}
    (hs : SameMembership ecmp s.db db') : GroupInv ecmp ⟨db', s.given⟩ where
  groupIds := by rw [hs.groups]; exact h.groupIds.mono hs.nexthop
  memberIds := by rw [hs.members, hs.memberUsed]; exact h.memberIds
  kind := by rw [hs.groups]; exact h.kind
  counter := by
    rw [hs.groups]
    exact fun grp g hg hsub hc => hs.counter _ (h.counter grp g hg hsub hc)
  live := by rw [hs.groups, hs.members]; exact h.live
  ecmp := by
    unfold GroupDb.memberCount
    rw [hs.groups, hs.members, hs.ecmp]
    exact h.ecmp
  slots := by rw [hs.groups, hs.members]; exact h.slots
  given := by rw [hs.groups, hs.members]; exact h.given

end Groups

/-! ## A member comes or goes -/

@[simp] theorem slot_setSlot (g : NextHopGrp) (role role' : MemberRole) (o : Oid) :
    (g.setSlot role o).slot role' = if role' = role then o else g.slot role' := by
  cases role <;> cases role' <;> rfl

theorem unit_memberCount (grp grp' o : Oid) :
    Table.unit (fun _ (r : NextHopGrpMember) => decide (r.nhGrpOid = grp)) o ⟨grp'⟩ =
      if grp' = grp then 1 else 0 := by
  unfold Table.unit
  simp only [decide_eq_true_eq]

theorem memberOf_true {grp o : Oid} {role : MemberRole} {r : NextHopGrpMember}
    (hg : r.nhGrpOid = grp) (hr : memberRole o = role) : memberOf grp role o r = true := by
  rw [memberOf, decide_eq_true hg, decide_eq_true hr]
  rfl

theorem unit_memberOf (grp grp' o : Oid) (role : MemberRole) :
    Table.unit (memberOf grp role) o ⟨grp'⟩ =
      if grp' = grp ∧ memberRole o = role then 1 else 0 := by
  unfold Table.unit memberOf
  simp only [Bool.and_eq_true, decide_eq_true_eq]

section Change

variable {ecmp : σ → Nat → Option Nat} {s : GroupState ch σ} {db' : GroupDb ch σ} {grp : Oid}
  {g : NextHopGrp}
variable {o : Oid}

theorem GroupInv.addEcmp (h : GroupInv ecmp s) (hg : s.db.groups.lookup grp = some g)
    (hsub : grp.subType = NextHopGroupType.ecmp.bits) (hnew : s.db.members.lookup o = none)
    (hgr : db'.groups = s.db.groups) (hm : db'.members = s.db.members.insert o ⟨grp⟩)
    (hhop : db'.hop = s.db.hop)
    (hids : KeyIds (fun o => o.value2.toNat) db'.members db'.nexthopMember.used)
    (he : ecmp db'.hw = update (ecmp s.db.hw) grp.value.toNat
      ((ecmp s.db.hw grp.value.toNat).map (· + 1))) {given' : Oid → Oid}
    (hgiven : ∀ a, a ≠ o → given' a = s.given a) : GroupInv ecmp ⟨db', given'⟩ where
  groupIds := by rw [hgr, hhop]; exact h.groupIds
  memberIds := hids
  kind := by rw [hgr]; exact h.kind
  counter := by rw [hgr, hhop]; exact h.counter
  live := by rw [hgr, hm]; exact forall_insert (by rw [hg]; rfl) h.live
  ecmp grp' x hx hs := by
    rw [hgr] at hx
    unfold GroupDb.memberCount
    rw [he, hm, count_insert_new hnew, unit_memberCount]
    by_cases hgrp : grp' = grp
    · rw [hgrp, update_self, h.ecmp grp g hg hsub, if_pos rfl]
      rfl
    have hv : grp'.value.toNat ≠ grp.value.toNat :=
      fun hv => hgrp (h.groupIds.inj grp' grp x g hx hg hv)
    rw [update_of_ne hv, if_neg (Ne.symm hgrp)]
    exact h.ecmp grp' x hx hs
  slots grp' x hx hs role := by
    rw [hgr] at hx
    have hgrp : grp ≠ grp' := by
      rintro rfl
      exact NextHopGroupType.bits_ne (hsub.symm.trans hs)
    rw [hm, count_insert_new hnew, unit_memberOf, if_neg (fun hc => hgrp hc.1)]
    exact h.slots grp' x hx hs role
  given grp' x hx hs a r hr hrg := by
    rw [hgr] at hx
    rw [hm] at hr
    rcases of_lookup_insert hr with ⟨-, rfl⟩ | ⟨hne, hr⟩
    · rw [← hrg] at hs
      exact absurd (hsub.symm.trans hs) NextHopGroupType.bits_ne
    · exact (h.given grp' x hx hs a r hr hrg).trans (hgiven a hne).symm

/-- A member takes an empty slot of a PROTECTION group. -/
theorem GroupInv.addAlt (h : GroupInv ecmp s) (hg : s.db.groups.lookup grp = some g)
    (hsub : grp.subType ≠ NextHopGroupType.ecmp.bits) {role : MemberRole} {nhOid : Oid}
    (hrole : memberRole o = role) (hempty : g.slot role = Oid.null) (hnull : nhOid ≠ Oid.null)
    (hnew : s.db.members.lookup o = none)
    (hgr : db'.groups = s.db.groups.insert grp (g.setSlot role nhOid))
    (hm : db'.members = s.db.members.insert o ⟨grp⟩) (hhop : db'.hop = s.db.hop)
    (hids : KeyIds (fun o => o.value2.toNat) db'.members db'.nexthopMember.used)
    (he : ecmp db'.hw = ecmp s.db.hw) :
    GroupInv ecmp ⟨db', update s.given o nhOid⟩ where
  groupIds := by rw [hgr, hhop]; exact h.groupIds.replace hg _
  memberIds := hids
  kind := by rw [hgr]; exact forall_insert (h.kind grp g hg) h.kind
  counter := by rw [hgr, hhop]; exact forall_insert (fun hs => absurd hs hsub) h.counter
  live := by
    rw [hgr, hm]
    exact forall_insert (by rw [AList.lookup_insert]; rfl) fun a r hr =>
      isSome_insert (h.live a r hr) _ _
  ecmp grp' x hx hs := by
    rw [hgr] at hx
    unfold GroupDb.memberCount
    rw [he, hm, count_insert_new hnew, unit_memberCount]
    rcases of_lookup_insert hx with ⟨rfl, -⟩ | ⟨hne, hx⟩
    · exact absurd hs hsub
    · rw [if_neg (Ne.symm hne)]
      exact h.ecmp grp' x hx hs
  slots grp' x hx hs role' := by
    rw [hgr] at hx
    rw [hm, count_insert_new hnew, unit_memberOf, hrole]
    rcases of_lookup_insert hx with ⟨rfl, rfl⟩ | ⟨hne, hx⟩
    · rw [h.slots grp' g hg hs role', slot_setSlot]
      by_cases hr : role' = role
      · rw [hr, if_pos hempty, if_pos rfl, if_pos ⟨rfl, rfl⟩, if_neg hnull]
      · have hno : ¬ (grp' = grp' ∧ role = role') := fun hc => hr hc.2.symm
        rw [if_neg hno, if_neg hr, Nat.add_zero]
    · rw [if_neg (fun hc => hne hc.1.symm)]
      exact h.slots grp' x hx hs role'
  given grp' x hx hs a r hr hrg := by
    rw [hgr] at hx
    rw [hm] at hr
    dsimp only
    rw [update_apply]
    rcases of_lookup_insert hr with ⟨ha, rfl⟩ | ⟨ha, hold⟩
    · rw [← hrg, AList.lookup_insert] at hx
      cases hx
      rw [ha, hrole, slot_setSlot, if_pos rfl, if_pos rfl]
    rw [if_neg ha]
    rcases of_lookup_insert hx with ⟨rfl, rfl⟩ | ⟨-, hx⟩
    · -- the slot was empty, so no member of the group had the role
      have hne : memberRole a ≠ role := by
        intro hc
        have hcount := h.slots grp' g hg hs role
        rw [if_pos hempty] at hcount
        have hpos := count_pos (p := memberOf grp' role) hold (memberOf_true hrg hc)
        omega
      rw [slot_setSlot, if_neg hne]
      exact h.given grp' g hg hs a r hold hrg
    · exact h.given grp' x hx hs a r hold hrg

theorem GroupInv.dropEcmp (h : GroupInv ecmp s) (hg : s.db.groups.lookup grp = some g)
    (hsub : grp.subType = NextHopGroupType.ecmp.bits) (ho : s.db.members.lookup o = some ⟨grp⟩)
    (hgr : db'.groups = s.db.groups) (hm : db'.members = s.db.members.erase o)
    (hhop : db'.hop = s.db.hop)
    (hused : db'.nexthopMember.used = s.db.nexthopMember.used.erase o.value2.toNat)
    (he : ecmp db'.hw = update (ecmp s.db.hw) grp.value.toNat
      ((ecmp s.db.hw grp.value.toNat).map (· - 1))) : GroupInv ecmp ⟨db', s.given⟩ where
  groupIds := by rw [hgr, hhop]; exact h.groupIds
  memberIds := by rw [hm, hused]; exact h.memberIds.erase ho
  kind := by rw [hgr]; exact h.kind
  counter := by rw [hgr, hhop]; exact h.counter
  live := by rw [hgr, hm]; exact forall_erase h.live
  ecmp grp' x hx hs := by
    rw [hgr] at hx
    have hold := h.ecmp grp' x hx hs
    unfold GroupDb.memberCount at hold ⊢
    rw [count_erase ho, unit_memberCount] at hold
    rw [he, hm]
    by_cases hgrp : grp' = grp
    · subst hgrp
      rw [if_pos rfl] at hold
      rw [update_self, hold]
      rfl
    have hv : grp'.value.toNat ≠ grp.value.toNat :=
      fun hv => hgrp (h.groupIds.inj grp' grp x g hx hg hv)
    rw [if_neg (Ne.symm hgrp)] at hold
    rw [update_of_ne hv]
    exact hold
  slots grp' x hx hs role := by
    rw [hgr] at hx
    have hgrp : grp ≠ grp' := by
      rintro rfl
      exact NextHopGroupType.bits_ne (hsub.symm.trans hs)
    have hold := h.slots grp' x hx hs role
    rw [count_erase ho, unit_memberOf, if_neg (fun hc => hgrp hc.1)] at hold
    rw [hm]
    exact hold
  given := by
    rw [hgr, hm]
    exact fun grp' x hx hs => forall_erase (h.given grp' x hx hs)

/-- A member of a PROTECTION group leaves, and its slot is cleared. -/
theorem GroupInv.dropAlt (h : GroupInv ecmp s) (hg : s.db.groups.lookup grp = some g)
    (hsub : grp.subType ≠ NextHopGroupType.ecmp.bits) (ho : s.db.members.lookup o = some ⟨grp⟩)
    (hgr : db'.groups = s.db.groups.insert grp (g.setSlot (memberRole o) Oid.null))
    (hm : db'.members = s.db.members.erase o) (hhop : db'.hop = s.db.hop)
    (hused : db'.nexthopMember.used = s.db.nexthopMember.used.erase o.value2.toNat)
    (he : ecmp db'.hw = ecmp s.db.hw) : GroupInv ecmp ⟨db', s.given⟩ where
  groupIds := by rw [hgr, hhop]; exact h.groupIds.replace hg _
  memberIds := by rw [hm, hused]; exact h.memberIds.erase ho
  kind := by rw [hgr]; exact forall_insert (h.kind grp g hg) h.kind
  counter := by rw [hgr, hhop]; exact forall_insert (fun hs => absurd hs hsub) h.counter
  live := by
    rw [hgr, hm]
    exact forall_erase fun a r hr => isSome_insert (h.live a r hr) _ _
  ecmp grp' x hx hs := by
    rw [hgr] at hx
    unfold GroupDb.memberCount
    rw [he, hm]
    rcases of_lookup_insert hx with ⟨rfl, -⟩ | ⟨hne, hx⟩
    · exact absurd hs hsub
    have hold := h.ecmp grp' x hx hs
    unfold GroupDb.memberCount at hold
    rw [count_erase ho, unit_memberCount, if_neg (Ne.symm hne)] at hold
    exact hold
  slots grp' x hx hs role := by
    rw [hgr] at hx
    rw [hm]
    rcases of_lookup_insert hx with ⟨rfl, rfl⟩ | ⟨hne, hx⟩
    · have hold := h.slots grp' g hg hs role
      rw [count_erase ho, unit_memberOf] at hold
      rw [slot_setSlot]
      by_cases hr : role = memberRole o
      · rw [if_pos ⟨rfl, hr.symm⟩] at hold
        rw [if_pos hr, if_pos rfl]
        split at hold
        · omega
        · omega
      have hno : ¬ (grp' = grp' ∧ memberRole o = role) := fun hc => hr hc.2.symm
      rw [if_neg hno] at hold
      rw [if_neg hr]
      exact hold
    · have hold := h.slots grp' x hx hs role
      rw [count_erase ho, unit_memberOf, if_neg (fun hc => hne hc.1.symm)] at hold
      exact hold
  given grp' x hx hs a r hr hrg := by
    rw [hgr] at hx
    rw [hm] at hr
    have hold := (of_lookup_erase hr).2
    rcases of_lookup_insert hx with ⟨rfl, rfl⟩ | ⟨-, hx⟩
    · -- the group had one member in the role that was cleared
      have hrole : memberRole a ≠ memberRole o := by
        intro hc
        have hcount := h.slots grp' g hg hs (memberRole o)
        have hpos := count_pos (p := memberOf grp' (memberRole o)) hr (memberOf_true hrg hc)
        rw [count_erase ho, unit_memberOf, if_pos ⟨rfl, rfl⟩] at hcount
        split at hcount <;> omega
      rw [slot_setSlot, if_neg hrole]
      exact h.given grp' g hg hs a r hold hrg
    · exact h.given grp' x hx hs a r hold hrg

end Change

/-! ## A group comes or goes -/

section GroupChange

variable {ecmp : σ → Nat → Option Nat} {s : GroupState ch σ} {db' : GroupDb ch σ}

/-- A group with a fresh number and nothing in it. -/
theorem GroupInv.addGroup (h : GroupInv ecmp s) (t : NextHopGroupType) (aps : Nat)
    (counterOid : Oid) {nhId : Nat} (hlt : nhId < 2 ^ 32) (hf : nhId ∉ s.db.hop.nbr.nexthop.used)
    (hu : db'.hop.nbr.nexthop.used = insert nhId s.db.hop.nbr.nexthop.used)
    (hgr : db'.groups = s.db.groups.insert (nextHopGroupOid ch.lchip t aps nhId)
      ⟨Oid.null, Oid.null, counterOid⟩)
    (hm : db'.members = s.db.members)
    (hpool : db'.nexthopMember.used = s.db.nexthopMember.used)
    (hc : ∀ o, (s.db.hop.ctr.table.lookup o).isSome → (db'.hop.ctr.table.lookup o).isSome)
    (hnew : t = .ecmp → counterOid ≠ Oid.null → (db'.hop.ctr.table.lookup counterOid).isSome)
    (he : ecmp db'.hw = if t = .ecmp then update (ecmp s.db.hw) nhId (some 0)
      else ecmp s.db.hw) : GroupInv ecmp ⟨db', s.given⟩ := by
  generalize hgrp : nextHopGroupOid ch.lchip t aps nhId = grp at hgr
  have hval : grp.value.toNat = nhId := by rw [← hgrp]; exact value_nextHopGroupOid hlt
  have hsub : grp.subType = t.bits := by rw [← hgrp, subType_nextHopGroupOid]
  have habs : s.db.groups.lookup grp = none :=
    h.groupIds.absent (fun hin => hf (by rw [← hval]; exact hin))
  have htype : grp.subType = NextHopGroupType.ecmp.bits → t = .ecmp := by
    intro hs
    rw [hsub] at hs
    cases t with
    | ecmp => rfl
    | protection => exact absurd hs.symm NextHopGroupType.bits_ne
  -- nothing points at a group that was not there
  have hfree : ∀ o r, s.db.members.lookup o = some r → r.nhGrpOid ≠ grp := by
    intro o r hr he
    have hl := h.live o r hr
    rw [he, habs] at hl
    cases hl
  have hzero : ∀ p : Oid → NextHopGrpMember → Bool, (∀ o r, p o r = true → r.nhGrpOid = grp) →
      Table.count p s.db.members = 0 := by
    intro p hp
    refine List.countP_eq_zero.mpr ?_
    rintro ⟨o, r⟩ hmem hpo
    exact hfree o r (mem_entries_iff.mp hmem) (hp o r hpo)
  refine ⟨?_, ?_, ?_, ?_, ?_, ?_, ?_, ?_⟩
  · rw [hgr, hu]
    refine h.groupIds.insert ?_ (Finset.subset_insert _ _) ?_ _
    · rw [hval]; exact hf
    · rw [hval]; exact Finset.mem_insert_self _ _
  · rw [hm, hpool]
    exact h.memberIds
  · rw [hgr]
    refine forall_insert ?_ h.kind
    rw [hsub]
    cases t with
    | ecmp => exact .inl rfl
    | protection => exact .inr rfl
  · rw [hgr]
    exact forall_insert (fun hs => hnew (htype hs)) fun grp' x hx hs hcx =>
      hc _ (h.counter grp' x hx hs hcx)
  · intro o r hr
    rw [hm] at hr
    rw [hgr, lookup_insert_ite, if_neg (hfree o r hr)]
    exact h.live o r hr
  · intro grp' x hx hs
    rw [hgr, lookup_insert_ite] at hx
    show ecmp db'.hw _ = some (Table.count _ db'.members)
    rw [hm, he]
    split at hx
    · next heq =>
      rw [heq] at hs
      rw [if_pos (htype hs), heq, hval, update_self, hzero _ (fun _ _ hp => of_decide_eq_true hp)]
    have hne : grp'.value.toNat ≠ nhId := by
      intro hv
      exact hf (by rw [← hv]; exact h.groupIds.held grp' x hx)
    have hold := h.ecmp grp' x hx hs
    split
    · rw [update_of_ne hne]
      exact hold
    · exact hold
  · intro grp' x hx hs role
    rw [hgr, lookup_insert_ite] at hx
    rw [hm]
    split at hx
    · next heq =>
      cases hx
      have hslot : (⟨Oid.null, Oid.null, counterOid⟩ : NextHopGrp).slot role = Oid.null := by
        cases role <;> rfl
      rw [hslot, heq]
      refine hzero _ (fun o r hp => ?_)
      unfold memberOf at hp
      rw [Bool.and_eq_true] at hp
      exact of_decide_eq_true hp.1
    · exact h.slots grp' x hx hs role
  · intro grp' x hx hs o r hr hrg
    rw [hm] at hr
    rw [hgr, lookup_insert_ite, if_neg (by rw [← hrg]; exact hfree o r hr)] at hx
    exact h.given grp' x hx hs o r hr hrg

theorem GroupInv.dropGroup (h : GroupInv ecmp s) {grp : Oid} {g : NextHopGrp}
    (hg : s.db.groups.lookup grp = some g)
    (hfree : ∀ o r, s.db.members.lookup o = some r → r.nhGrpOid ≠ grp)
    (hu : db'.hop.nbr.nexthop.used = s.db.hop.nbr.nexthop.used.erase grp.value.toNat)
    (hgr : db'.groups = s.db.groups.erase grp) (hm : db'.members = s.db.members)
    (hpool : db'.nexthopMember.used = s.db.nexthopMember.used)
    (hc : ∀ o, (s.db.hop.ctr.table.lookup o).isSome → (db'.hop.ctr.table.lookup o).isSome)
    (he : ∀ n, n ≠ grp.value.toNat → ecmp db'.hw n = ecmp s.db.hw n) :
    GroupInv ecmp ⟨db', s.given⟩ := by
  refine ⟨?_, ?_, ?_, ?_, ?_, ?_, ?_, ?_⟩
  · rw [hgr, hu]
    exact h.groupIds.erase hg
  · rw [hm, hpool]
    exact h.memberIds
  · rw [hgr]
    exact forall_erase h.kind
  · rw [hgr]
    exact forall_erase fun grp' x hx hs hcx => hc _ (h.counter grp' x hx hs hcx)
  · intro o r hr
    rw [hm] at hr
    rw [hgr, lookup_erase_ite, if_neg (hfree o r hr)]
    exact h.live o r hr
  · intro grp' x hx hs
    rw [hgr] at hx
    obtain ⟨hne, hx⟩ := of_lookup_erase hx
    show ecmp db'.hw _ = some (Table.count _ db'.members)
    rw [hm, he _ (fun hv => hne (h.groupIds.inj grp' grp x g hx hg hv))]
    exact h.ecmp grp' x hx hs
  · rw [hgr, hm]
    exact forall_erase h.slots
  · rw [hgr, hm]
    exact forall_erase h.given

end GroupChange

/-! ## The calls -/

section Calls

variable {m : GroupSdk σ} {ecmp : σ → Nat → Option Nat} {sdk : Sdk} {s : GroupState ch σ}

variable {db : GroupDb ch σ} {i : Nat} {pool : Pool ch.nexthopMember}

theorem SameMembership.freed (hal : db.nexthopMember.alloc = some (i, pool)) {hw : σ}
    (he : ecmp hw = ecmp db.hw) :
    SameMembership ecmp db (GroupDb.freeMember { db with nexthopMember := pool, hw := hw } i) where
  groups := rfl
  members := rfl
  nexthop := Finset.Subset.refl _
  counter _ h := h
  memberUsed := by
    obtain ⟨hf, _, _, hu, _⟩ := Pool.alloc_some hal
    show (pool.free i).used = _
    rw [Pool.used_free, hu, Finset.erase_insert hf]
  ecmp := he

theorem newMember (h : KeyIds (fun o => o.value2.toNat) db.members db.nexthopMember.used)
    (hal : db.nexthopMember.alloc = some (i, pool)) (w : Bool) (nhId : BitVec 32) (grp : Oid) :
    db.members.lookup (memberOid ch.lchip w i nhId) = none ∧
      KeyIds (fun o => o.value2.toNat)
        (db.members.insert (memberOid ch.lchip w i nhId) ⟨grp⟩) pool.used := by
  obtain ⟨hf, _, _, hu, _⟩ := Pool.alloc_some hal
  have hin : i ∈ pool.used := by rw [hu]; exact Finset.mem_insert_self _ _
  have hval : (memberOid ch.lchip w i nhId).value2.toNat = i :=
    value2_memberOid (ch.nexthopMember_lt hin)
  refine ⟨h.absent (by rw [hval]; exact hf), h.insert ?_ ?_ ?_ _⟩
  · rw [hval]; exact hf
  · rw [hu]; exact Finset.subset_insert _ _
  · rw [hval]; exact hin

theorem memberStored_new (hs : sdk.mem .oidNode = true) {o : Oid}
    (hnew : db.members.lookup o = none) : memberStored sdk db o = .success := by
  unfold memberStored
  rw [hnew, hs]
  rfl

theorem createAltFinish_stored (hs : sdk.mem .oidNode = true) {role : MemberRole} {nhId : BitVec 32}
    (grp : Oid) (g : NextHopGrp)
    (hnew : db.members.lookup (memberOid ch.lchip (role = .primary) i nhId) = none) :
    createAltFinish m sdk db grp g role nhId i =
      (.success, some (memberOid ch.lchip (role = .primary) i nhId), { db.setGroup grp g with
          members := db.members.insert (memberOid ch.lchip (role = .primary) i nhId) ⟨grp⟩ }) := by
  have hst : memberStored sdk (db.setGroup grp g)
      (memberOid ch.lchip (role = .primary) i nhId) = .success := memberStored_new hs hnew
  unfold createAltFinish
  dsimp only
  rw [hst]
  rfl

variable (hc : m.Counts ecmp)
variable {grp : Oid}
include hc

theorem GroupInv.createEcmpMember (hm : m.Succeeds) (h : GroupInv ecmp s) (hs : sdk.Succeeds)
    {g : NextHopGrp} (hg : s.db.groups.lookup grp = some g)
    (hsub : grp.subType = NextHopGroupType.ecmp.bits)
    (hal : s.db.nexthopMember.alloc = some (i, pool)) (nhId : BitVec 32) (attrs : List MemberAttr) :
    let r := createEcmpMember m sdk { s.db with nexthopMember := pool } grp nhId i
    GroupInv ecmp ⟨r.2.2, noteMember s.given attrs r.2.1⟩ := by
  obtain ⟨hnew, hids⟩ := newMember h.memberIds hal false nhId grp
  have hstored : memberStored sdk
      (({ s.db with nexthopMember := pool } : GroupDb ch σ).run m
        (.nhUpdateEcmpAdd grp.value.toNat nhId.toNat)).2
      (memberOid ch.lchip false i nhId) = .success := memberStored_new (hs.mem _) hnew
  unfold CtcSai.createEcmpMember
  dsimp only
  rw [if_neg (fun hne => hne (hm.status _ _)), hstored]
  refine h.addEcmp hg hsub hnew ?_ ?_ ?_ ?_ ?_ ?_
  · rfl
  · rfl
  · rfl
  · exact hids
  · exact hc.updateAdd _ _ _
  · intro a ha
    unfold noteMember
    cases findAttribInList MemberAttr.nextHopId? attrs with
    | none => rfl
    | some nhOid => exact update_of_ne ha _ _

theorem GroupInv.createAltMember (h : GroupInv ecmp s) (hs : sdk.Succeeds) {nhOid : Oid}
    {g : NextHopGrp} (hg : s.db.groups.lookup grp = some g)
    (hsub : grp.subType ≠ NextHopGroupType.ecmp.bits)
    (hal : s.db.nexthopMember.alloc = some (i, pool)) (nhId : BitVec 32) {attrs : List MemberAttr}
    (hnh : findAttribInList MemberAttr.nextHopId? attrs = some nhOid)
    (hsafe : ∀ role, findAttribInList MemberAttr.configuredRole? attrs = some role →
      HwTakes m { s.db with nexthopMember := pool } grp (g.setSlot role nhOid) →
      g.slot role = Oid.null ∧ nhOid ≠ Oid.null) {r : MemberResult ch σ}
    (hr : createAltMember m sdk { s.db with nexthopMember := pool } attrs grp g nhOid nhId i =
      some r) : GroupInv ecmp ⟨r.2.2, noteMember s.given attrs r.2.1⟩ := by
  unfold CtcSai.createAltMember at hr
  split at hr
  · cases hr
    exact h.same (.freed hal rfl)
  next role hrole =>
  have hfinish : ∀ {hw : σ}, ecmp hw = ecmp s.db.hw →
      HwTakes m { s.db with nexthopMember := pool } grp (g.setSlot role nhOid) → ∀ q,
      createAltFinish m sdk { s.db with nexthopMember := pool, hw := hw } grp
        (g.setSlot role nhOid) role nhId i = q →
      GroupInv ecmp ⟨q.2.2, noteMember s.given attrs q.2.1⟩ := by
    intro hw hhw htakes q hq
    obtain ⟨hempty, hnull⟩ := hsafe role hrole htakes
    obtain ⟨hnew, hids⟩ := newMember h.memberIds hal (role = .primary) nhId grp
    rw [createAltFinish_stored (hs.mem _)] at hq
    · cases hq
      have hnote : noteMember s.given attrs (some (memberOid ch.lchip (role = .primary) i nhId)) =
          update s.given (memberOid ch.lchip (role = .primary) i nhId) nhOid := by
        unfold noteMember
        rw [hnh]
      rw [hnote]
      exact h.addAlt hg hsub (memberRole_role _ _ _ _) hempty hnull hnew rfl rfl rfl hids hhw
    · exact hnew
  dsimp only at hr
  split at hr
  · split at hr
    · cases hr
    · next db₁ haps =>
      obtain ⟨hw, hdb, hhw⟩ := createApsNh_step (fun c x hx hp => (hc.other x c hx).trans hp) haps
      cases hr
      subst hdb
      exact hfinish (hhw rfl) (fun _ => ⟨_, haps⟩) _ rfl
    · next st db₁ hne haps =>
      obtain ⟨hw, hdb, hhw⟩ := createApsNh_step (fun c x hx hp => (hc.other x c hx).trans hp) haps
      cases hr
      subst hdb
      exact h.same (.freed hal (hhw rfl))
  · next hfull =>
    cases hr
    exact hfinish rfl (fun hf => absurd hf hfull) _ rfl

theorem GroupInv.memberCreate (hm : m.Succeeds) (h : GroupInv ecmp s) {object : Sdk × List MemberAttr}
    (hsafe : MemberCreateSafe m s object) {r : Status × Option Oid × GroupState ch σ}
    (hr : memberCreateStep m s object = some r) : GroupInv ecmp r.2.2 := by
  obtain ⟨q, hq, rfl⟩ := Option.map_eq_some_iff.mp hr
  obtain ⟨hs, hslot⟩ := hsafe
  unfold createMember at hq
  split at hq
  · cases hq; exact h
  next grp hgrp =>
  split at hq
  · split at hq
    · cases hq
    · cases hq; exact h
  next g hg =>
  split at hq
  · cases hq; exact h
  next nhOid hnh =>
  split at hq
  · cases hq; exact h
  split at hq
  · cases hq; exact h
  next i pool hal =>
  split at hq
  · next hsub =>
    cases hq
    exact GroupInv.createEcmpMember hc hm h hs hg hsub hal _ _
  · next hsub =>
    exact GroupInv.createAltMember hc h hs hg hsub hal _ hnh
      (fun role hrole => hslot grp g nhOid role i pool hgrp hg hsub hnh hrole hal) hq

theorem GroupInv.memberRemove (hm : m.Succeeds) (h : GroupInv ecmp s) {o : Oid} {r : Status × Unit × GroupState ch σ}
    (hr : memberRemoveStep m s o = some r) : GroupInv ecmp r.2.2 := by
  obtain ⟨q, hq, rfl⟩ := Option.map_eq_some_iff.mp hr
  unfold removeMember at hq
  split at hq
  · split at hq
    · cases hq
    · cases hq; exact h
  next x hx =>
  split at hq
  · cases hq; exact h
  next g hg =>
  split at hq
  · next hsub =>
    rw [if_pos (hm.run _ _)] at hq
    cases hq
    exact h.dropEcmp hg hsub hx rfl rfl rfl rfl (hc.updateRemove _ _ _)
  next hsub =>
  cases hq
  have hstep : HwStep (fun y => ecmp y = ecmp s.db.hw)
      (s.db.setGroup x.nhGrpOid (g.setSlot (memberRole o) Oid.null))
      (removeAltMember m s.db x.nhGrpOid g o) := by
    unfold removeAltMember
    dsimp only
    split
    · exact removeApsNh_step (fun c y hy hp => (hc.other y c hy).trans hp) _ _ _ _
    · exact .refl _
  obtain ⟨hw, hdb, hhw⟩ := hstep
  rw [hdb]
  exact h.dropAlt hg hsub hx rfl rfl rfl rfl (hhw rfl)

/-! ### Groups -/

omit hc in
theorem createGrpFinish_success (hs : sdk.Succeeds) {t : NextHopGroupType} {aps nhId : Nat}
    (counterOid : Oid) (hfree : db.groups.lookup (nextHopGroupOid ch.lchip t aps nhId) = none) :
    (createGrpFinish m sdk db t counterOid nhId aps).2.2 =
      db.setGroup (nextHopGroupOid ch.lchip t aps nhId) ⟨Oid.null, Oid.null, counterOid⟩ := by
  unfold createGrpFinish
  dsimp only
  rw [hs.mem, hs.mem, hfree]
  rfl

/-- One creation of a group. -/
theorem GroupInv.groupCreate (hm : m.Succeeds) (h : GroupInv ecmp s) (hs : sdk.Succeeds)
    (attrs : List GroupAttr) :
    GroupInv ecmp ⟨(createNextHopGroup m sdk s.db attrs).2.2, s.given⟩ := by
  unfold createNextHopGroup
  split
  · exact h
  next t _ =>
  dsimp only
  generalize (findAttribInList GroupAttr.counterId? attrs).getD Oid.null = counterOid
  split
  · exact h
  next nhId pool hal =>
  obtain ⟨hf, _, _, hu, _⟩ := Pool.alloc_some hal
  have hlt : nhId < 2 ^ 32 := ch.nexthop_lt (by
    rw [hu]; exact Finset.mem_insert_self _ _ : nhId ∈ pool.used)
  have habs : ∀ t aps, s.db.groups.lookup (nextHopGroupOid ch.lchip t aps nhId) = none := by
    intro t aps
    refine h.groupIds.absent (fun hin => hf ?_)
    rwa [value_nextHopGroupOid hlt] at hin
  split
  · -- ECMP: the group counts one member, then none
    obtain ⟨ctr, hctr', hkeys⟩ := counterCreateIf_same sdk { s.db.hop with
      nbr := { s.db.hop.nbr with nexthop := pool } } true counterOid .ecmp
    have hctr : ∀ o, (s.db.hop.ctr.table.lookup o).isSome → (ctr.table.lookup o).isSome :=
      fun o ho => (hkeys o).trans ho
    split
    · next hop heq =>
      rw [heq] at hctr'
      subst hctr'
      rw [if_pos (hm.status _ _), createGrpFinish_success hs]
      · refine h.addGroup .ecmp 0 counterOid hlt hf ?_ ?_ ?_ ?_ hctr ?_ ?_
        · exact hu
        · rfl
        · rfl
        · rfl
        · intro _ hnull
          refine hctr _ (@isSome_of_counterIdCreate ch sdk _ _ .ecmp ?_)
          unfold counterCreateIf at heq
          rw [decide_eq_true hnull] at heq
          exact congrArg Prod.fst heq
        · show ecmp (m.call (.nhUpdateEcmpRemove nhId m.dropNhId)
            (m.call (.nhAddEcmp nhId m.dropNhId) s.db.hw).2).2 = _
          rw [hc.updateRemove, hc.add, update_self, update_idem]
          rfl
      · exact habs _ _
    · next st hop _ heq =>
      rw [heq] at hctr'
      subst hctr'
      exact h.same ⟨rfl, rfl, by rw [hu]; exact Finset.subset_insert _ _, hctr, rfl, rfl⟩
  · -- PROTECTION: nothing in hardware yet
    split
    · refine h.same ⟨rfl, rfl, ?_, fun _ ho => ho, rfl, rfl⟩
      show s.db.hop.nbr.nexthop.used ⊆ (pool.free nhId).used
      rw [Pool.used_free, hu, Finset.erase_insert hf]
    next aps apsPool _ =>
    rw [createGrpFinish_success hs]
    · refine h.addGroup .protection aps counterOid hlt hf ?_ ?_ ?_ ?_ (fun _ ho => ho) nofun ?_
      · exact hu
      · rfl
      · rfl
      · rfl
      · rfl
    · exact habs _ _

theorem GroupInv.groupRemove (hm : m.Succeeds) (h : GroupInv ecmp s) (hs : sdk.Succeeds)
    (hfree : ∀ o r, s.db.members.lookup o = some r → r.nhGrpOid ≠ grp) {r : Status × GroupDb ch σ}
    (hr : removeNextHopGroup m sdk s.db grp = some r) :
    GroupInv ecmp ⟨r.2, s.given⟩ := by
  unfold removeNextHopGroup at hr
  split at hr
  · split at hr
    · cases hr
    · cases hr; exact h
  next g hg =>
  split at hr
  · next hsub =>
    have hecmp : ∀ n, n ≠ grp.value.toNat →
        ecmp (m.call (.nhRemoveEcmp grp.value.toNat) s.db.hw).2 n = ecmp s.db.hw n := by
      intro n hn
      rw [hc.remove, update_of_ne hn]
    rw [if_neg (fun hne => hne (hm.status _ _))] at hr
    split at hr
    · cases hr
      exact h.dropGroup hg hfree rfl rfl rfl rfl (fun _ ho => ho) hecmp
    next hnull =>
    have hctr := counterIdRemove_keys sdk s.db.hop.ctr g.counterOid
    have hok := counterIdRemove_success hs (h.counter grp g hg hsub hnull)
    split at hr
    · next ctr heq =>
      rw [show (s.db.run m (.nhRemoveEcmp grp.value.toNat)).2.hop = s.db.hop from rfl] at heq
      rw [heq] at hctr
      cases hr
      exact h.dropGroup hg hfree rfl rfl rfl rfl (fun o ho => (hctr o).trans ho) hecmp
    next st ctr hne heq =>
    rw [show (s.db.run m (.nhRemoveEcmp grp.value.toNat)).2.hop = s.db.hop from rfl] at heq
    rw [heq] at hok
    exact absurd hok hne
  · next hsub =>
    split at hr
    · cases hr
      refine h.dropGroup hg hfree rfl rfl rfl rfl (fun _ ho => ho) (fun n _ => ?_)
      show ecmp (m.call _ (m.call _ s.db.hw).2).2 n = _
      rw [hc.other _ _ rfl, hc.other _ _ rfl]
    · cases hr
      exact h.dropGroup hg hfree rfl rfl rfl rfl (fun _ ho => ho) (fun _ _ => rfl)

theorem groupStep_inv (hm : m.Succeeds) {s' : GroupState ch σ} {op : GroupOp}
    (h : GroupInv ecmp s) (hsafe : GroupSafe m s op) (hst : groupStep m s op = some s') :
    GroupInv ecmp s' := by
  cases op with
  | createGroup sdk attrs =>
    cases hst
    exact h.groupCreate hc hm hsafe attrs
  | removeGroup sdk oid =>
    obtain ⟨r, hr, rfl⟩ := Option.map_eq_some_iff.mp hst
    exact h.groupRemove hc hm hsafe.1 hsafe.2 hr
  | createMember object =>
    obtain ⟨r, hr, rfl⟩ := Option.map_eq_some_iff.mp hst
    exact h.memberCreate hc hm hsafe hr
  | removeMember oid =>
    obtain ⟨r, hr, rfl⟩ := Option.map_eq_some_iff.mp hst
    exact h.memberRemove hc hm hr
  | bulkCreateMembers mode objects =>
    obtain ⟨r, hr, rfl⟩ := Option.map_eq_some_iff.mp hst
    exact bulkLoop_inv (fun s a _ _ _ hs hok hf => hs.memberCreate hc hm hok hf) h hsafe hr
  | bulkRemoveMembers mode oids =>
    obtain ⟨r, hr, rfl⟩ := Option.map_eq_some_iff.mp hst
    exact bulkLoop_inv (fun s a _ _ _ hs _ hf => hs.memberRemove hc hm hf) h
      (bulkAdmitted_true oids s) hr

end Calls

/-! ## Every run -/

section Runs

variable {m : GroupSdk σ} {ecmp : σ → Nat → Option Nat} {s : GroupState ch σ}

theorem GroupState.Start.inv (h : s.Start) : GroupInv ecmp s := by
  obtain ⟨hg, hm, hp⟩ := h
  have hno : ∀ {grp g}, s.db.groups.lookup grp ≠ some g := by
    rw [hg]
    exact nofun
  refine ⟨?_, ?_, fun _ _ hx => absurd hx hno, fun _ _ hx => absurd hx hno, ?_,
    fun _ _ hx => absurd hx hno, fun _ _ hx => absurd hx hno, fun _ _ hx => absurd hx hno⟩
  · rw [hg]; exact .empty _ _
  · rw [hm]; exact .empty _ _
  · rw [hm]
    intro o r hr
    cases hr

theorem GroupInv.memberCount_protection (h : GroupInv ecmp s) {grp : Oid} {g : NextHopGrp}
    (hg : s.db.groups.lookup grp = some g) (hsub : grp.subType = NextHopGroupType.protection.bits) :
    s.db.memberCount grp = (decide (g.wNhOid ≠ Oid.null)).toNat +
      (decide (g.pNhOid ≠ Oid.null)).toNat := by
  have hw := h.slots grp g hg hsub .primary
  have hp := h.slots grp g hg hsub .standby
  have hstandby : (fun o (r : NextHopGrpMember) => decide (r.nhGrpOid = grp) &&
      !decide (memberRole o = .primary)) = memberOf grp .standby := by
    funext o r
    unfold memberOf
    cases memberRole o with
    | primary => rfl
    | standby => rfl
  unfold GroupDb.memberCount
  rw [count_split _ (fun o _ => decide (memberRole o = .primary)), hstandby]
  show Table.count (memberOf grp .primary) _ + _ = _
  rw [hw, hp]
  show (if g.wNhOid = _ then 0 else 1) + (if g.pNhOid = _ then 0 else 1) = _
  by_cases h1 : g.wNhOid = Oid.null <;> by_cases h2 : g.pNhOid = Oid.null <;> simp [h1, h2]

theorem GroupInv.membershipOk (hc : m.Counts ecmp) (h : GroupInv ecmp s) : MembershipOk m s where
  live := h.live
  filled grp g hg hsub role := by
    have hcount := h.slots grp g hg hsub role
    constructor
    · intro hne
      rw [if_neg hne] at hcount
      obtain ⟨o, r, hr, hp⟩ := exists_of_count_pos (by rw [hcount]; exact Nat.one_pos)
      unfold memberOf at hp
      rw [Bool.and_eq_true] at hp
      exact ⟨o, r, hr, of_decide_eq_true hp.1, of_decide_eq_true hp.2⟩
    · rintro ⟨o, r, hr, hgrp, hrole⟩ hnull
      rw [if_pos hnull] at hcount
      have hpos := count_pos (p := memberOf grp role) hr (by
        unfold memberOf
        rw [decide_eq_true hgrp, decide_eq_true hrole]
        rfl)
      omega
  slot := h.given
  count grp g hg := by
    unfold getNextHopCount
    rcases h.kind grp g hg with hsub | hsub
    · obtain ⟨gport, hinfo⟩ := hc.info (h.ecmp grp g hg hsub)
      rw [if_pos hsub, hinfo]
      rfl
    · rw [if_neg (by rw [hsub]; exact NextHopGroupType.bits_ne.symm), if_pos hsub, hg,
        h.memberCount_protection hg hsub]

/-- In every run in which groups are removed without members and members go
into empty slots, the two records of membership agree. -/
theorem membership_of_run (hm : m.Succeeds) (hc : m.Counts ecmp)
    (h : Reachable GroupState.Start (GroupSafe m) (groupStep m) s) : MembershipOk m s := by
  refine GroupInv.membershipOk hc (Reachable.inv (I := GroupInv ecmp) ?_ ?_ h)
  · exact fun _ hs => hs.inv
  · exact fun _ _ _ hi hok hst => groupStep_inv hc hm hi hok hst

end Runs

/-! ## Two runs with an SDK that counts -/

/-- The SDK of a run: every call succeeds, and the members of ECMP groups are
counted. -/
def GroupSdk.counting : GroupSdk (Nat → Option Nat) where
  call c f := (.none, match c with
    | .nhAddEcmp n _ => update f n (some 1)
    | .nhUpdateEcmpAdd n _ => update f n ((f n).map (· + 1))
    | .nhUpdateEcmpRemove n _ => update f n ((f n).map (· - 1))
    | .nhRemoveEcmp n => update f n none
    | _ => f)
  nhInfo f n := .ok ⟨0, (f n).isSome, (f n).getD 0⟩
  dropNhId := 1
  orCode s t e := if s = .success ∧ t = .success then e else .other
  orCode_success _ := rfl
  orCode_none h := by
    split at h
    · next hs => exact ⟨hs.1, hs.2, h⟩
    · cases h

theorem GroupSdk.counting_succeeds : GroupSdk.counting.Succeeds := ⟨fun _ _ => rfl, fun _ _ => ⟨_, rfl⟩⟩

theorem GroupSdk.counting_counts : GroupSdk.counting.Counts (fun f => f) where
  info h := by
    refine ⟨0, ?_⟩
    show Except.ok (NhInfo.mk 0 _ _) = _
    rw [h]
    rfl
  add _ _ _ := rfl
  updateAdd _ _ _ := rfl
  updateRemove _ _ _ := rfl
  remove _ _ := rfl
  other _ c hc := by
    cases c with
    | nhAddEcmp | nhUpdateEcmpAdd | nhUpdateEcmpRemove | nhRemoveEcmp => cases hc
    | apsCreate | apsDestroy | nhAddIpuc | nhAddMpls | nhRemoveIpuc => rfl

def GroupState.start (ch : Chip) : GroupState ch (Nat → Option Nat) where
  db := { hop := .empty ch, groups := ∅, members := ∅, nexthopMember := .empty _, aps := .empty _,
          hw := fun _ => none }
  given _ := Oid.null

/-- The calls of a run succeed as far as the SDK is concerned. -/
def GroupAssumed (_ : GroupState ch σ) : GroupOp → Prop
  | .createGroup sdk _ | .removeGroup sdk _ => sdk.Succeeds
  | .createMember object => object.1.Succeeds
  | .bulkCreateMembers _ objects => ∀ object ∈ objects, object.1.Succeeds
  | .removeMember _ | .bulkRemoveMembers .. => True

/-- The object id of a next hop of type IP. -/
def ipNextHopOid (nhId : BitVec 32) : Oid := createObjectId .nextHop 0 0 0 nhId

def createRoleMember (grp : Oid) (nhId : BitVec 32) (role : MemberRole) : GroupOp :=
  .createMember (.ok,
    [.nextHopGroupId grp, .nextHopId (ipNextHopOid nhId), .configuredRole role])

/-- The first group of a run on the small chip. -/
def firstGroup (t : NextHopGroupType) : Oid := nextHopGroupOid 0 t 0 3

/-- An ECMP group with two members. -/
theorem membership_of_run_small : ∃ s : GroupState Chip.small (Nat → Option Nat),
    MembershipOk GroupSdk.counting s ∧ s.db.memberCount (firstGroup .ecmp) = 2 := by
  have r₀ : Reachable GroupState.Start (GroupSafe GroupSdk.counting) (groupStep GroupSdk.counting)
      (.start Chip.small) := .start ⟨rfl, rfl, rfl⟩
  have r₁ := r₀.next (.createGroup .ok [.type .ecmp]) (by exact Sdk.ok_succeeds) rfl
  have r₂ := r₁.next (createRoleMember (firstGroup .ecmp) 7 .primary)
    ⟨Sdk.ok_succeeds, by rintro _ _ _ _ _ _ ⟨⟩ _ h; exact absurd rfl h⟩ rfl
  have r₃ := r₂.next (createRoleMember (firstGroup .ecmp) 8 .primary)
    ⟨Sdk.ok_succeeds, by rintro _ _ _ _ _ _ ⟨⟩ _ h; exact absurd rfl h⟩ rfl
  exact ⟨_, membership_of_run GroupSdk.counting_succeeds GroupSdk.counting_counts r₃, by decide⟩

/-- A second primary member is counted once. -/
theorem membership_not_every_run :
    ¬ ∀ (ch : Chip) (σ : Type) (m : GroupSdk σ) (ecmp : σ → Nat → Option Nat)
      (s : GroupState ch σ), m.Succeeds → m.Counts ecmp →
      Reachable GroupState.Start GroupAssumed (groupStep m) s → MembershipOk m s := by
  intro h
  have r₀ : Reachable GroupState.Start GroupAssumed (groupStep GroupSdk.counting)
      (.start Chip.small) := .start ⟨rfl, rfl, rfl⟩
  have r₁ := r₀.next (.createGroup .ok [.type .protection]) (by exact Sdk.ok_succeeds) rfl
  have r₂ := r₁.next (createRoleMember (firstGroup .protection) 7 .primary) Sdk.ok_succeeds rfl
  have r₃ := r₂.next (createRoleMember (firstGroup .protection) 8 .primary) Sdk.ok_succeeds rfl
  have hcount := (h _ _ _ _ _ GroupSdk.counting_succeeds GroupSdk.counting_counts r₃).count
    (firstGroup .protection) _ rfl
  revert hcount
  decide

end CtcSai
