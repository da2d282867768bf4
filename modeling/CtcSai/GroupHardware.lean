/-
# `GroupHardware` — a protection group and its APS bridge group

The bridge group of a PROTECTION group, and its next hop, are made when the
second slot fills and unmade when the last slot is cleared.  In between the
hardware stays, with one slot empty: the two agree in runs in which no member
of a full group is removed, and in which the hardware of a group that fills is
either refused at once or made whole.
-/
import CtcSai.GroupMembers

namespace CtcSai

open IdPool KeyedTable Runs

variable {ch : Chip}

/-! ## The system -/

/-- What the SDK holds: APS bridge groups and next hops. -/
structure ApsHw where
  aps : Finset Nat
  nexthops : Finset Nat
deriving DecidableEq

/-- Add a next hop, which must not be there yet. -/
def ApsHw.addNextHop (hw : ApsHw) (n : Nat) : CtcE × ApsHw :=
  if n ∈ hw.nexthops then (.exist, hw) else (.none, { hw with nexthops := insert n hw.nexthops })

/-- The SDK is a set of bridge groups and a set of next hops. -/
structure GroupSdk.IsSets (m : GroupSdk ApsHw) : Prop where
  apsCreate : ∀ hw a p, m.call (.apsCreate a p) hw =
    if a ∈ hw.aps then (.exist, hw) else (.none, { hw with aps := insert a hw.aps })
  apsDestroy : ∀ hw a, (m.call (.apsDestroy a) hw).2 = { hw with aps := hw.aps.erase a }
  nhAddIpuc : ∀ hw n a x y, m.call (.nhAddIpuc n a x y) hw = hw.addNextHop n
  nhAddMpls : ∀ hw n a x y, m.call (.nhAddMpls n a x y) hw = hw.addNextHop n
  nhRemoveIpuc : ∀ hw n, (m.call (.nhRemoveIpuc n) hw).2 =
    { hw with nexthops := hw.nexthops.erase n }

/-- The calls that create and remove members. -/
inductive MemberOp where
  | create (object : Sdk × List MemberAttr)
  | remove (oid : Oid)
  | bulkCreate (mode : BulkOpErrorMode) (objects : List (Sdk × List MemberAttr))
  | bulkRemove (mode : BulkOpErrorMode) (oids : List Oid)

def memberStep (m : GroupSdk ApsHw) (s : GroupState ch ApsHw) :
    MemberOp → Option (GroupState ch ApsHw)
  | .create object => (memberCreateStep m s object).map fun r => r.2.2
  | .remove oid => (memberRemoveStep m s oid).map fun r => r.2.2
  | .bulkCreate mode objects => (bulkLoop (memberCreateStep m) mode s objects).map Prod.snd
  | .bulkRemove mode oids => (bulkLoop (memberRemoveStep m) mode s oids).map Prod.snd

/-- The start: any PROTECTION groups, told apart by their bridge group and by
their next hop, with empty slots, no hardware and no members. -/
structure ApsStart (s : GroupState ch ApsHw) : Prop where
  members : s.db.members = ∅
  kind : ∀ grp g, s.db.groups.lookup grp = some g →
    grp.subType = NextHopGroupType.protection.bits
  empty : ∀ grp g, s.db.groups.lookup grp = some g → g.wNhOid = Oid.null ∧ g.pNhOid = Oid.null
  aps : ∀ grp grp' g g', s.db.groups.lookup grp = some g → s.db.groups.lookup grp' = some g' →
    grp.value2.toNat = grp'.value2.toNat → grp = grp'
  nexthop : ∀ grp grp' g g', s.db.groups.lookup grp = some g → s.db.groups.lookup grp' = some g' →
    grp.value.toNat = grp'.value.toNat → grp = grp'
  absent : ∀ grp g, s.db.groups.lookup grp = some g →
    grp.value2.toNat ∉ s.db.hw.aps ∧ grp.value.toNat ∉ s.db.hw.nexthops

/-! ## What should hold -/

/-- The hardware of a group is there exactly when its slots are filled. -/
def ApsOk (db : GroupDb ch ApsHw) : Prop :=
  ∀ grp g, db.groups.lookup grp = some g →
    (grp.value2.toNat ∈ db.hw.aps ↔ g.full = true) ∧
      (grp.value.toNat ∈ db.hw.nexthops ↔ g.full = true)

def memberAttrs (grp nhOid : Oid) (role : MemberRole) : List MemberAttr :=
  [.nextHopGroupId grp, .nextHopId nhOid, .configuredRole role]

@[simp] theorem memberAttrs_group (grp nhOid : Oid) (role : MemberRole) :
    findAttribInList MemberAttr.nextHopGroupId? (memberAttrs grp nhOid role) = some grp := rfl

@[simp] theorem memberAttrs_nextHop (grp nhOid : Oid) (role : MemberRole) :
    findAttribInList MemberAttr.nextHopId? (memberAttrs grp nhOid role) = some nhOid := rfl

@[simp] theorem memberAttrs_role (grp nhOid : Oid) (role : MemberRole) :
    findAttribInList MemberAttr.configuredRole? (memberAttrs grp nhOid role) = some role := rfl

/-- The member can be added again after it was removed. -/
def AddedAgain (m : GroupSdk ApsHw) (s : GroupState ch ApsHw) (o : Oid) : Prop :=
  ∀ r s', s.db.members.lookup o = some r → memberRemoveStep m s o = some (.success, (), s') →
    ∀ sdk : Sdk, sdk.Succeeds → ∃ o' db', createMember m sdk s'.db
      (memberAttrs r.nhGrpOid (s.given o) (memberRole o)) = some (.success, some o', db')

/-! ## The condition -/

section Condition

variable (m : GroupSdk ApsHw) (db : GroupDb ch ApsHw)

/-- A next hop with a record and a router interface. -/
def apsRecord (nhOid : Oid) : Option NextHop :=
  (db.hop.nextHops.lookup nhOid).filter fun nh => (oidGetL3ifId nh.rifId).isSome

/-- The members pass the checks made before the bridge group is created; their
records. -/
def apsChecked (wNhOid pNhOid : Oid) : Option (NextHop × NextHop) :=
  if wNhOid.subType = pNhOid.subType ∧ (apsGports m db wNhOid pNhOid).isOk then
    match apsRecord db wNhOid, apsRecord db pNhOid with
    | some w, some p => some (w, p)
    | _, _ => none
  else none

/-- Both members have a neighbor record. -/
def apsArps (w p : NextHop) : Prop :=
  (neighborGetArpId db.hop.nbr w.rifId w.ipAddress).isSome ∧
    (neighborGetArpId db.hop.nbr p.rifId p.ipAddress).isSome

/-- Members that pass the checks are of type IP with neighbor records, or of
type MPLS. -/
def ApsHandled (wNhOid pNhOid : Oid) : Prop :=
  ∀ w p, apsChecked m db wNhOid pNhOid = some (w, p) →
    (wNhOid.subType = NextHopType.ip.bits ∧ apsArps db w p) ∨
      wNhOid.subType = NextHopType.mpls.bits

/-- The members can be put into hardware. -/
def ApsAcceptable (wNhOid pNhOid : Oid) : Prop :=
  ∃ w p, apsChecked m db wNhOid pNhOid = some (w, p) ∧
    ((wNhOid.subType = NextHopType.ip.bits ∧ apsArps db w p) ∨
      (wNhOid.subType = NextHopType.mpls.bits ∧ w.labelCount = p.labelCount))

/-- The slot of a group may be written: a full group's only with a next hop,
which the SDK then refuses; and when the group becomes full its hardware is
made whole or refused at once, and its object stored. -/
def SlotSafe (sdk : Sdk) (g : NextHopGrp) (role : MemberRole) (nhOid : Oid) : Prop :=
  if g.full then nhOid ≠ Oid.null
  else (g.setSlot role nhOid).full →
    ApsHandled m db (g.setSlot role nhOid).wNhOid (g.setSlot role nhOid).pNhOid ∧
      (ApsAcceptable m db (g.setSlot role nhOid).wNhOid (g.setSlot role nhOid).pNhOid →
        sdk.mem .oidNode = true)

end Condition

/-- A member may be created, where it gets as far as its slot. -/
def ApsCreateSafe (m : GroupSdk ApsHw) (s : GroupState ch ApsHw)
    (object : Sdk × List MemberAttr) : Prop :=
  ∀ grp g nhOid role,
    findAttribInList MemberAttr.nextHopGroupId? object.2 = some grp →
    s.db.groups.lookup grp = some g →
    findAttribInList MemberAttr.nextHopId? object.2 = some nhOid →
    findAttribInList MemberAttr.configuredRole? object.2 = some role →
    object.1.mem .nextHopGroupMember = true → s.db.nexthopMember.alloc.isSome →
    SlotSafe m s.db object.1 g role nhOid

/-- A member of a group that is not full. -/
def ApsRemoveSafe (s : GroupState ch ApsHw) (o : Oid) : Prop :=
  ∀ r g, s.db.members.lookup o = some r → s.db.groups.lookup r.nhGrpOid = some g →
    g.full = false

def ApsSafe (m : GroupSdk ApsHw) (s : GroupState ch ApsHw) : MemberOp → Prop
  | .create object => ApsCreateSafe m s object
  | .remove oid => ApsRemoveSafe s oid
  | .bulkCreate mode objects => BulkAdmitted (memberCreateStep m) mode (ApsCreateSafe m) s objects
  | .bulkRemove mode oids => BulkAdmitted (memberRemoveStep m) mode ApsRemoveSafe s oids

/-- Putting the member back fills no group that the hardware would refuse. -/
def AgainSafe (m : GroupSdk ApsHw) (s : GroupState ch ApsHw) (o : Oid) : Prop :=
  ∀ r g, s.db.members.lookup o = some r → s.db.groups.lookup r.nhGrpOid = some g →
    g.full = false ∧ ((g.setSlot (memberRole o) (s.given o)).full →
      ApsAcceptable m s.db (g.setSlot (memberRole o) (s.given o)).wNhOid
        (g.setSlot (memberRole o) (s.given o)).pNhOid)

/-! ## What `create_aps_nh` does -/

section CreateApsNh

variable {m : GroupSdk ApsHw} {db : GroupDb ch ApsHw} {a n : Nat} {wNhOid pNhOid : Oid}

theorem apsRecord_some {nhOid : Oid} {nh : NextHop} (h : apsRecord db nhOid = some nh) :
    ∃ l3ifId, apsNextHop db nhOid = some (.ok (nh, l3ifId)) := by
  obtain ⟨hl, hif⟩ := Option.filter_eq_some_iff.mp h
  obtain ⟨l3ifId, hl3⟩ := Option.isSome_iff_exists.mp hif
  refine ⟨l3ifId, ?_⟩
  unfold apsNextHop
  rw [hl]
  dsimp only
  rw [hl3]

/-- The call stopped without a success and changed nothing. -/
def ApsRefused (db : GroupDb ch ApsHw) (r : Option (Status × GroupDb ch ApsHw)) : Prop :=
  r = none ∨ ∃ status, status ≠ .success ∧ r = some (status, db)

theorem apsRecord_none {nhOid : Oid} (h : apsRecord db nhOid = none) : apsNextHop db nhOid = none ∨
      ∃ status, status ≠ .success ∧ apsNextHop db nhOid = some (.error status) := by
  unfold apsNextHop
  split
  · split
    · exact .inl rfl
    · exact .inr ⟨.itemNotFound, nofun, rfl⟩
  next nh hl =>
  split
  · exact .inr ⟨.invalidObjectId, nofun, rfl⟩
  next l3ifId hl3 =>
  have hsome : apsRecord db nhOid = some nh :=
    Option.filter_eq_some_iff.mpr ⟨hl, by rw [hl3]; rfl⟩
  rw [h] at hsome
  cases hsome

theorem apsGports_error {status : Status} (h : apsGports m db wNhOid pNhOid = .error status) :
    status ≠ .success := by
  unfold apsGports at h
  repeat' split at h
  all_goals cases h
  all_goals exact nofun

theorem createApsNh_unchecked (h : apsChecked m db wNhOid pNhOid = none) :
    ApsRefused db (createApsNh m db a n wNhOid pNhOid) := by
  unfold createApsNh
  split
  · exact .inr ⟨.invalidParameter, nofun, rfl⟩
  next hsub =>
  split
  · next status hg => exact .inr ⟨_, apsGports_error hg, rfl⟩
  next gports hg =>
  have hpre : wNhOid.subType = pNhOid.subType ∧
      (apsGports m db wNhOid pNhOid).isOk = true :=
    ⟨Decidable.not_not.mp hsub, by rw [hg]; rfl⟩
  unfold apsChecked at h
  rw [if_pos hpre] at h
  cases hw : apsRecord db wNhOid with
  | none =>
    rcases apsRecord_none hw with hn | ⟨status, hne, hn⟩
    · rw [hn]; exact .inl rfl
    · rw [hn]; exact .inr ⟨_, hne, rfl⟩
  | some w =>
    cases hp : apsRecord db pNhOid with
    | some p =>
      rw [hw, hp] at h
      cases h
    | none =>
      obtain ⟨l3ifId, hok⟩ := apsRecord_some hw
      rw [hok]
      rcases apsRecord_none hp with hn | ⟨status, hne, hn⟩
      · rw [hn]; exact .inl rfl
      · rw [hn]; exact .inr ⟨_, hne, rfl⟩

variable {w p : NextHop}

theorem createApsNh_checked (h : apsChecked m db wNhOid pNhOid = some (w, p)) :
    ∃ param, createApsNh m db a n wNhOid pNhOid =
      if mappingErrorCtc (db.run m (.apsCreate a param)).1 = .success then
        some (createApsNhAdd m (db.run m (.apsCreate a param)).2 a n wNhOid.subType w p)
      else some (mappingErrorCtc (db.run m (.apsCreate a param)).1,
        (db.run m (.apsCreate a param)).2) := by
  unfold apsChecked at h
  split at h
  · next hpre =>
    split at h
    · next w' p' hw hp =>
      cases h
      obtain ⟨lw, hw⟩ := apsRecord_some hw
      obtain ⟨lp, hp⟩ := apsRecord_some hp
      unfold createApsNh
      rw [if_neg (not_not.mpr hpre.1)]
      cases hg : apsGports m db wNhOid pNhOid with
      | error status =>
        rw [hg] at hpre
        cases hpre.2
      | ok gports =>
        rw [hw, hp]
        exact ⟨⟨gports.1, gports.2, lw, lp⟩, rfl⟩
    · cases h
  · cases h

variable (hm : m.IsSets)
include hm

theorem createApsNh_present (ha : a ∈ db.hw.aps) :
    ApsRefused db (createApsNh m db a n wNhOid pNhOid) := by
  cases hc : apsChecked m db wNhOid pNhOid with
  | none => exact createApsNh_unchecked hc
  | some q =>
    obtain ⟨param, heq⟩ := createApsNh_checked hc
    have hrun : db.run m (.apsCreate a param) = (.exist, db) := by
      unfold GroupDb.run
      rw [hm.apsCreate, if_pos ha]
    rw [heq, hrun]
    exact .inr ⟨.itemAlreadyExists, nofun, rfl⟩

theorem createApsNh_made (hc : apsChecked m db wNhOid pNhOid = some (w, p)) (ha : a ∉ db.hw.aps) :
    createApsNh m db a n wNhOid pNhOid = some (createApsNhAdd m
      { db with hw := ⟨insert a db.hw.aps, db.hw.nexthops⟩ } a n wNhOid.subType w p) := by
  obtain ⟨param, heq⟩ := createApsNh_checked hc
  have hrun : db.run m (.apsCreate a param) =
      (.none, { db with hw := ⟨insert a db.hw.aps, db.hw.nexthops⟩ }) := by
    unfold GroupDb.run
    rw [hm.apsCreate, if_neg ha]
  rw [heq, hrun]
  exact if_pos rfl

def GroupDb.withAps (db : GroupDb ch ApsHw) (a n : Nat) : GroupDb ch ApsHw :=
  { db with hw := ⟨insert a db.hw.aps, insert n db.hw.nexthops⟩ }

theorem createApsNhAdd_ip (hn : n ∉ db.hw.nexthops) (harp : apsArps db w p) :
    createApsNhAdd m { db with hw := ⟨insert a db.hw.aps, db.hw.nexthops⟩ } a n
      NextHopType.ip.bits w p = (.success, db.withAps a n) := by
  obtain ⟨wArp, hw⟩ := Option.isSome_iff_exists.mp harp.1
  obtain ⟨pArp, hp⟩ := Option.isSome_iff_exists.mp harp.2
  unfold createApsNhAdd nextHopGetArpId GroupDb.run
  dsimp only
  rw [hw, hp]
  rw [hm.nhAddIpuc, ApsHw.addNextHop, if_neg hn, m.orCode_success]
  exact if_pos rfl

theorem createApsNhAdd_mpls (ha : a ∉ db.hw.aps) (hn : n ∉ db.hw.nexthops) (w p : NextHop) :
    createApsNhAdd m { db with hw := ⟨insert a db.hw.aps, db.hw.nexthops⟩ } a n
      NextHopType.mpls.bits w p = if w.labelCount = p.labelCount then (.success, db.withAps a n)
        else (.invalidParameter, db) := by
  unfold createApsNhAdd GroupDb.runIgnored GroupDb.run
  rw [if_neg (by decide), if_pos rfl]
  by_cases hl : w.labelCount = p.labelCount
  · rw [if_neg (not_not.mpr hl), if_pos hl]
    rw [hm.nhAddMpls, ApsHw.addNextHop, if_neg hn]
    exact if_pos rfl
  · rw [if_pos hl, if_neg hl]
    rw [hm.apsDestroy]
    rw [Finset.erase_insert ha]

theorem createApsNh_accepted (ha : a ∉ db.hw.aps) (hn : n ∉ db.hw.nexthops)
    (h : ApsAcceptable m db wNhOid pNhOid) :
    createApsNh m db a n wNhOid pNhOid = some (.success, db.withAps a n) := by
  obtain ⟨w, p, hc, ⟨hip, harp⟩ | ⟨hmpls, hl⟩⟩ := h
  · rw [createApsNh_made hm hc ha, hip, createApsNhAdd_ip hm hn harp]
  · rw [createApsNh_made hm hc ha, hmpls, createApsNhAdd_mpls hm ha hn, if_pos hl]

theorem createApsNh_refused (ha : a ∉ db.hw.aps) (hn : n ∉ db.hw.nexthops)
    (hh : ApsHandled m db wNhOid pNhOid) (h : ¬ ApsAcceptable m db wNhOid pNhOid) :
    ApsRefused db (createApsNh m db a n wNhOid pNhOid) := by
  cases hc : apsChecked m db wNhOid pNhOid with
  | none => exact createApsNh_unchecked hc
  | some q =>
    obtain ⟨w, p⟩ := q
    rcases hh w p hc with hip | hmpls
    · exact absurd ⟨w, p, hc, .inl hip⟩ h
    · have hl : w.labelCount ≠ p.labelCount := fun hl => h ⟨w, p, hc, .inr ⟨hmpls, hl⟩⟩
      rw [createApsNh_made hm hc ha, hmpls, createApsNhAdd_mpls hm ha hn, if_neg hl]
      exact .inr ⟨.invalidParameter, nofun, rfl⟩

theorem removeApsNh_absent (ha : a ∉ db.hw.aps) (hn : n ∉ db.hw.nexthops) (nhOid : Oid) :
    removeApsNh m db a n nhOid = db := by
  unfold removeApsNh GroupDb.runIgnored GroupDb.run
  dsimp only
  rw [hm.apsDestroy, hm.nhRemoveIpuc]
  split
  · rw [Finset.erase_eq_of_notMem ha, Finset.erase_eq_of_notMem hn]
  · rw [Finset.erase_eq_of_notMem ha]

end CreateApsNh

/-! ## The invariant -/

@[simp] theorem setSlot_setSlot (g : NextHopGrp) (role : MemberRole) (a b : Oid) :
    (g.setSlot role a).setSlot role b = g.setSlot role b := by
  cases role <;> rfl

theorem full_setSlot_null (g : NextHopGrp) (role : MemberRole) :
    (g.setSlot role Oid.null).full = false := by
  unfold NextHopGrp.full NextHopGrp.setSlot
  cases role <;> simp

theorem full_setSlot {g : NextHopGrp} (h : g.full = true) (role : MemberRole) {o : Oid}
    (ho : o ≠ Oid.null) : (g.setSlot role o).full = true := by
  unfold NextHopGrp.full NextHopGrp.setSlot at *
  rw [Bool.and_eq_true, decide_eq_true_eq] at h
  cases role
  · simp [ho, h.2]
  · simp [ho, h.1]

/-- What holds in every state of an admitted run. -/
structure ApsInv (db : GroupDb ch ApsHw) : Prop where
  memberIds : KeyIds (fun o => o.value2.toNat) db.members db.nexthopMember.used
  kind : ∀ grp g, db.groups.lookup grp = some g → grp.subType ≠ NextHopGroupType.ecmp.bits
  aps : ∀ grp grp' g g', db.groups.lookup grp = some g → db.groups.lookup grp' = some g' →
    grp.value2.toNat = grp'.value2.toNat → grp = grp'
  nexthop : ∀ grp grp' g g', db.groups.lookup grp = some g → db.groups.lookup grp' = some g' →
    grp.value.toNat = grp'.value.toNat → grp = grp'
  hw : ApsOk db

section Inv

variable {db db' : GroupDb ch ApsHw} {grp : Oid} {g g' : NextHopGrp}

theorem ApsInv.absent (h : ApsInv db) (hg : db.groups.lookup grp = some g) (hf : g.full = false) :
    grp.value2.toNat ∉ db.hw.aps ∧ grp.value.toNat ∉ db.hw.nexthops := by
  have hok := h.hw grp g hg
  rw [hf] at hok
  exact ⟨fun ha => (nomatch hok.1.mp ha), fun hn => (nomatch hok.2.mp hn)⟩

/-- The slots of one group are written, and its hardware alone with them. -/
theorem ApsInv.write (h : ApsInv db) (hg : db.groups.lookup grp = some g)
    (hgr : db'.groups = db.groups.insert grp g')
    (hids : KeyIds (fun o => o.value2.toNat) db'.members db'.nexthopMember.used)
    (haps : ∀ b, b ≠ grp.value2.toNat → (b ∈ db'.hw.aps ↔ b ∈ db.hw.aps))
    (hnh : ∀ b, b ≠ grp.value.toNat → (b ∈ db'.hw.nexthops ↔ b ∈ db.hw.nexthops))
    (hself : (grp.value2.toNat ∈ db'.hw.aps ↔ g'.full = true) ∧
      (grp.value.toNat ∈ db'.hw.nexthops ↔ g'.full = true)) : ApsInv db' := by
  have hold : ∀ {o x}, db'.groups.lookup o = some x → ∃ y, db.groups.lookup o = some y := by
    rw [hgr]
    exact fun {o x} => Table.exists_lookup_of_insert hg g' o x
  refine ⟨hids, ?_, ?_, ?_, ?_⟩
  · rw [hgr]
    exact Table.forall_insert (h.kind grp g hg) h.kind
  · intro o o' x x' hx hx' he
    obtain ⟨y, hy⟩ := hold hx
    obtain ⟨y', hy'⟩ := hold hx'
    exact h.aps o o' y y' hy hy' he
  · intro o o' x x' hx hx' he
    obtain ⟨y, hy⟩ := hold hx
    obtain ⟨y', hy'⟩ := hold hx'
    exact h.nexthop o o' y y' hy hy' he
  · intro o x hx
    rw [hgr] at hx
    rcases Table.of_lookup_insert hx with ⟨rfl, rfl⟩ | ⟨hne, hx⟩
    · exact hself
    · rw [haps _ (fun he => hne (h.aps o grp x g hx hg he)),
        hnh _ (fun he => hne (h.nexthop o grp x g hx hg he))]
      exact h.hw o x hx

theorem ApsInv.freed (h : ApsInv db) {i : Nat} {pool : Pool ch.nexthopMember}
    (hal : db.nexthopMember.alloc = some (i, pool)) :
    ApsInv (GroupDb.freeMember { db with nexthopMember := pool } i) where
  memberIds := by
    obtain ⟨hf, _, _, hu, _⟩ := Pool.alloc_some hal
    show KeyIds _ db.members (pool.free i).used
    rw [Pool.used_free, hu, Finset.erase_insert hf]
    exact h.memberIds
  kind := h.kind
  aps := h.aps
  nexthop := h.nexthop
  hw := h.hw

end Inv

/-! ## The calls -/

section Calls

variable {m : GroupSdk ApsHw} {db : GroupDb ch ApsHw} {sdk : Sdk} {grp nhOid : Oid}
  {g : NextHopGrp} {i : Nat} {pool : Pool ch.nexthopMember}

theorem ApsInv.finish (h : ApsInv db) (hg : db.groups.lookup grp = some g)
    (hal : db.nexthopMember.alloc = some (i, pool)) {role : MemberRole} (hf : g.full = false)
    (hf' : (g.setSlot role nhOid).full = false) (nhId : BitVec 32) :
    ApsInv (createAltFinish m sdk { db with nexthopMember := pool } grp (g.setSlot role nhOid) role
      nhId i).2.2 := by
  obtain ⟨hnew, hids⟩ := newMember h.memberIds hal (role = .primary) nhId grp
  obtain ⟨ha, hn⟩ := h.absent hg hf
  have hself : (grp.value2.toNat ∈ db.hw.aps ↔ (g.setSlot role nhOid).full = true) ∧
      (grp.value.toNat ∈ db.hw.nexthops ↔ (g.setSlot role nhOid).full = true) := by
    rw [hf']
    exact ⟨iff_of_false ha nofun, iff_of_false hn nofun⟩
  by_cases hs : sdk.mem .oidNode = true
  · rw [createAltFinish_stored hs]
    · exact h.write hg rfl hids (fun _ _ => .rfl) (fun _ _ => .rfl) hself
    · exact hnew
  -- the object is not stored: the slot stays set, and the id goes back
  have hst : memberStored sdk
      (({ db with nexthopMember := pool } : GroupDb ch ApsHw).setGroup grp
        (g.setSlot role nhOid)) (memberOid ch.lchip (role = .primary) i nhId) = .noMemory := by
    show (if (db.members.lookup _).isSome = true then _ else _) = _
    rw [hnew, if_neg hs]
    rfl
  unfold createAltFinish
  dsimp only
  rw [hst, hf']
  exact (h.freed hal).write hg rfl (h.freed hal).memberIds (fun _ _ => .rfl) (fun _ _ => .rfl) hself

variable {o : Oid}

theorem ApsInv.removed (h : ApsInv db) (hg : db.groups.lookup grp = some g) (hf : g.full = false)
    {x : NextHopGrpMember} (hx : db.members.lookup o = some x) :
    ApsInv (removeMemberFinish (db.setGroup grp (g.setSlot (memberRole o) Oid.null)) o) := by
  obtain ⟨ha, hn⟩ := h.absent hg hf
  refine h.write hg rfl (h.memberIds.erase hx) (fun _ _ => .rfl) (fun _ _ => .rfl) ?_
  rw [full_setSlot_null]
  exact ⟨iff_of_false ha nofun, iff_of_false hn nofun⟩

variable (hm : m.IsSets)
variable {s : GroupState ch ApsHw}
include hm

theorem ApsInv.createAlt (h : ApsInv db) (hg : db.groups.lookup grp = some g)
    (hal : db.nexthopMember.alloc = some (i, pool)) {attrs : List MemberAttr} (nhId : BitVec 32)
    (hsafe : ∀ role, findAttribInList MemberAttr.configuredRole? attrs = some role →
      SlotSafe m db sdk g role nhOid) {r : MemberResult ch ApsHw}
    (hr : createAltMember m sdk { db with nexthopMember := pool } attrs grp g nhOid nhId i =
      some r) : ApsInv r.2.2 := by
  unfold createAltMember at hr
  split at hr
  · cases hr
    exact h.freed hal
  next role hrole =>
  have hslot := hsafe role hrole
  have hstop : ApsRefused { db with nexthopMember := pool }
      (createApsNh m { db with nexthopMember := pool } grp.value2.toNat grp.value.toNat
        (g.setSlot role nhOid).wNhOid (g.setSlot role nhOid).pNhOid) →
      (g.setSlot role nhOid).full = true → ApsInv r.2.2 := by
    intro hst hfull
    rw [if_pos hfull] at hr
    rcases hst with hst | ⟨status, hne, hst⟩
    · rw [hst] at hr
      cases hr
    rw [hst] at hr
    cases status with
    | success => exact absurd rfl hne
    | _ => cases hr; exact h.freed hal
  unfold SlotSafe at hslot
  by_cases hf : g.full = true
  · -- the bridge group is there already
    rw [if_pos hf] at hslot
    exact hstop (createApsNh_present hm ((h.hw grp g hg).1.mpr hf)) (full_setSlot hf role hslot)
  rw [if_neg hf] at hslot
  have hff : g.full = false := Bool.eq_false_iff.mpr hf
  obtain ⟨ha, hn⟩ := h.absent hg hff
  by_cases hf' : (g.setSlot role nhOid).full = true
  · obtain ⟨hh, hmem⟩ := hslot hf'
    by_cases hacc : ApsAcceptable m db (g.setSlot role nhOid).wNhOid (g.setSlot role nhOid).pNhOid
    · -- both slots filled: the hardware is made, and the object stored
      obtain ⟨hnew, hids⟩ := newMember h.memberIds hal (role = .primary) nhId grp
      have hmade := @createApsNh_accepted _ m { db with nexthopMember := pool } _ _ _ _ hm ha
        hn hacc
      rw [if_pos hf', hmade] at hr
      dsimp only at hr
      rw [createAltFinish_stored (hmem hacc)] at hr
      · cases hr
        refine h.write hg rfl hids ?_ ?_ ?_
        · intro b hb
          exact Finset.mem_insert.trans (or_iff_right hb)
        · intro b hb
          exact Finset.mem_insert.trans (or_iff_right hb)
        · exact ⟨iff_of_true (Finset.mem_insert_self _ _) hf',
            iff_of_true (Finset.mem_insert_self _ _) hf'⟩
      · exact hnew
    · exact hstop (createApsNh_refused hm ha hn hh hacc) hf'
  · rw [if_neg hf'] at hr
    cases hr
    exact h.finish hg hal hff (Bool.eq_false_iff.mpr hf') nhId

theorem ApsInv.create (h : ApsInv s.db) {object : Sdk × List MemberAttr}
    (hsafe : ApsCreateSafe m s object) {r : Status × Option Oid × GroupState ch ApsHw}
    (hr : memberCreateStep m s object = some r) :
    ApsInv r.2.2.db := by
  obtain ⟨q, hq, rfl⟩ := Option.map_eq_some_iff.mp hr
  unfold createMember at hq
  split at hq
  · cases hq; exact h
  next grp hgrp =>
  split at hq
  · split at hq
    · cases hq
    · cases hq; exact h
  next g hg =>
  split at hq
  · cases hq; exact h
  next nhOid hnh =>
  split at hq
  · cases hq; exact h
  next hmem =>
  split at hq
  · cases hq; exact h
  next i pool hal =>
  rw [if_neg (h.kind grp g hg)] at hq
  refine h.createAlt hm hg hal _ (fun role hrole => ?_) hq
  exact hsafe grp g nhOid role hgrp hg hnh hrole (by simpa using hmem) (by rw [hal]; rfl)

theorem removeAltMember_absent (h : ApsInv db) (hg : db.groups.lookup grp = some g)
    (hf : g.full = false) (o : Oid) :
    removeAltMember m db grp g o = db.setGroup grp (g.setSlot (memberRole o) Oid.null) := by
  obtain ⟨ha, hn⟩ := h.absent hg hf
  unfold removeAltMember
  dsimp only
  split
  · exact @removeApsNh_absent _ m (db.setGroup grp _) _ _ hm ha hn _
  · rfl

theorem removeMember_notFull (h : ApsInv db) {r : Status × GroupDb ch ApsHw}
    (hr : removeMember m db o = some r) :
    r = (.itemNotFound, db) ∨ ∃ x g, db.members.lookup o = some x ∧
      db.groups.lookup x.nhGrpOid = some g ∧ (g.full = false → r = (.success,
        removeMemberFinish (db.setGroup x.nhGrpOid (g.setSlot (memberRole o) Oid.null)) o)) := by
  unfold removeMember at hr
  split at hr
  · split at hr
    · cases hr
    · cases hr; exact .inl rfl
  next x hx =>
  split at hr
  · cases hr; exact .inl rfl
  next g hg =>
  rw [if_neg (h.kind _ g hg)] at hr
  cases hr
  refine .inr ⟨x, g, hx, hg, fun hf => ?_⟩
  rw [removeAltMember_absent hm h hg hf]

theorem ApsInv.remove (h : ApsInv s.db) (hsafe : ApsRemoveSafe s o)
    {r : Status × Unit × GroupState ch ApsHw} (hr : memberRemoveStep m s o = some r) :
    ApsInv r.2.2.db := by
  obtain ⟨q, hq, rfl⟩ := Option.map_eq_some_iff.mp hr
  rcases removeMember_notFull hm h hq with rfl | ⟨x, g, hx, hg, hq⟩
  · exact h
  · have hf := hsafe x g hx hg
    rw [hq hf]
    exact h.removed hg hf hx

/-- A member goes into a group without hardware, if the hardware takes it. -/
theorem createAltMember_success (hs : ∀ site, sdk.mem site = true) {attrs : List MemberAttr}
    {role : MemberRole} (hrole : findAttribInList MemberAttr.configuredRole? attrs = some role)
    (ha : grp.value2.toNat ∉ db.hw.aps) (hn : grp.value.toNat ∉ db.hw.nexthops)
    {nhId : BitVec 32}
    (hnew : db.members.lookup (memberOid ch.lchip (role = .primary) i nhId) = none)
    (hacc : (g.setSlot role nhOid).full = true → ApsAcceptable m db
      (g.setSlot role nhOid).wNhOid (g.setSlot role nhOid).pNhOid) :
    ∃ o' db', createAltMember m sdk { db with nexthopMember := pool } attrs grp g nhOid nhId i =
      some (.success, some o', db') := by
  unfold createAltMember
  rw [hrole]
  dsimp only
  split
  · next hfull =>
    have hmade := @createApsNh_accepted _ m { db with nexthopMember := pool } _ _ _ _ hm ha hn
      (hacc hfull)
    rw [hmade]
    dsimp only
    rw [createAltFinish_stored (hs _)]
    · exact ⟨_, _, rfl⟩
    · exact hnew
  · rw [createAltFinish_stored (hs _)]
    · exact ⟨_, _, rfl⟩
    · exact hnew

theorem ApsInv.addedAgain (hcomplete : ch.nexthopMember.Complete) (h : ApsInv s.db)
    (hsafe : AgainSafe m s o) : AddedAgain m s o := by
  intro x s' hx hstep sdk hs
  obtain ⟨q, hq, heq⟩ := Option.map_eq_some_iff.mp hstep
  rcases removeMember_notFull hm h hq with rfl | ⟨x', g, hx', hg, hq⟩
  · cases heq
  rw [hx] at hx'
  cases hx'
  obtain ⟨hf, hagain⟩ := hsafe x g hx hg
  have hinv := h.removed hg hf hx
  have hdb : s'.db = removeMemberFinish
      (s.db.setGroup x.nhGrpOid (g.setSlot (memberRole o) Oid.null)) o := by
    rw [hq hf] at heq
    cases heq
    rfl
  rw [← hdb] at hinv
  have hg' : s'.db.groups.lookup x.nhGrpOid = some (g.setSlot (memberRole o) Oid.null) := by
    rw [hdb]
    exact AList.lookup_insert _
  -- the id that was given back can be handed out
  have hal : s'.db.nexthopMember.alloc.isSome := by
    have hin := s.db.nexthopMember.inRange (h.memberIds.held o x hx)
    refine Pool.alloc_isSome hcomplete hin ?_
    rw [hdb]
    exact Finset.notMem_erase _ _
  obtain ⟨⟨i, pool⟩, hal⟩ := Option.isSome_iff_exists.mp hal
  obtain ⟨ha, hn⟩ := hinv.absent hg' (full_setSlot_null _ _)
  unfold createMember
  rw [memberAttrs_group]
  dsimp only
  rw [hg', memberAttrs_nextHop]
  rw [hs.mem, hal]
  dsimp only
  rw [if_neg (h.kind _ g hg)]
  refine createAltMember_success hm hs.mem (memberAttrs_role x.nhGrpOid (s.given o) _) ha hn
    (newMember hinv.memberIds hal _ _ x.nhGrpOid).1 (fun hfull => ?_)
  rw [setSlot_setSlot] at hfull ⊢
  have hacc := hagain hfull
  rw [hdb]
  exact hacc

end Calls

/-! ## Every run -/

section Runs

variable {m : GroupSdk ApsHw} {s : GroupState ch ApsHw}

theorem ApsStart.inv (h : ApsStart s) : ApsInv s.db where
  memberIds := by rw [h.members]; exact .empty _ _
  kind grp g hg := by rw [h.kind grp g hg]; exact NextHopGroupType.bits_ne.symm
  aps := h.aps
  nexthop := h.nexthop
  hw grp g hg := by
    have hf : g.full = false := by
      unfold NextHopGrp.full
      rw [(h.empty grp g hg).1]
      rfl
    obtain ⟨ha, hn⟩ := h.absent grp g hg
    rw [hf]
    exact ⟨iff_of_false ha nofun, iff_of_false hn nofun⟩

theorem memberStep_inv (hm : m.IsSets) {s' : GroupState ch ApsHw} {op : MemberOp}
    (h : ApsInv s.db) (hsafe : ApsSafe m s op) (hst : memberStep m s op = some s') :
    ApsInv s'.db := by
  cases op with
  | create object =>
    obtain ⟨r, hr, rfl⟩ := Option.map_eq_some_iff.mp hst
    exact h.create hm hsafe hr
  | remove oid =>
    obtain ⟨r, hr, rfl⟩ := Option.map_eq_some_iff.mp hst
    exact h.remove hm hsafe hr
  | bulkCreate mode objects =>
    obtain ⟨r, hr, rfl⟩ := Option.map_eq_some_iff.mp hst
    exact bulkLoop_inv (P := fun s => ApsInv s.db)
      (fun s a _ _ _ hs hok hf => hs.create hm hok hf) h hsafe hr
  | bulkRemove mode oids =>
    obtain ⟨r, hr, rfl⟩ := Option.map_eq_some_iff.mp hst
    exact bulkLoop_inv (P := fun s => ApsInv s.db)
      (fun s a _ _ _ hs hok hf => hs.remove hm hok hf) h hsafe hr

/-- In every admitted run the hardware of a group is there exactly when both
of its slots are filled, and a member that may be put back can be. -/
theorem apsHardware_of_run (hm : m.IsSets) (hcomplete : ch.nexthopMember.Complete)
    (h : Reachable ApsStart (ApsSafe m) (memberStep m) s) :
    ApsOk s.db ∧ ∀ o, AgainSafe m s o → AddedAgain m s o := by
  have hi : ApsInv s.db := Reachable.inv (I := fun s => ApsInv s.db) (fun _ hs => hs.inv)
    (fun _ _ _ hs hok hst => memberStep_inv hm hs hok hst) h
  exact ⟨hi.hw, fun o ho => hi.addedAgain hm hcomplete ho⟩

end Runs

/-! ## Two runs with MPLS members -/

/-- The SDK of a run: two sets, and a gport for every next hop that is there. -/
def GroupSdk.sets : GroupSdk ApsHw where
  call c hw := match c with
    | .apsCreate a _ =>
      if a ∈ hw.aps then (.exist, hw) else (.none, { hw with aps := insert a hw.aps })
    | .apsDestroy a =>
      (if a ∈ hw.aps then .none else .notExist, { hw with aps := hw.aps.erase a })
    | .nhAddIpuc n _ _ _ | .nhAddMpls n _ _ _ => hw.addNextHop n
    | .nhRemoveIpuc n =>
      (if n ∈ hw.nexthops then .none else .nhNotExist,
        { hw with nexthops := hw.nexthops.erase n })
    | _ => (.none, hw)
  nhInfo hw n := if n ∈ hw.nexthops then .ok ⟨0, false, 0⟩ else .error .nhNotExist
  dropNhId := 1
  orCode s t e := if s = .success ∧ t = .success then e else .other
  orCode_success := GroupSdk.counting.orCode_success
  orCode_none := GroupSdk.counting.orCode_none

theorem GroupSdk.sets_isSets : GroupSdk.sets.IsSets where
  apsCreate _ _ _ := rfl
  apsDestroy _ _ := rfl
  nhAddIpuc _ _ _ _ _ := rfl
  nhAddMpls _ _ _ _ _ := rfl
  nhRemoveIpuc _ _ := rfl

/-- The object id of a next hop of type MPLS. -/
def mplsNextHopOid (nhId : BitVec 32) : Oid :=
  createObjectId .nextHop 0 (NextHopType.mpls.bits.setWidth 8) 0 nhId

/-- One group of type PROTECTION, and two next hops with one label each. -/
def GroupState.startAps : GroupState Chip.small ApsHw where
  db :=
    { hop := { NextHopDb.empty Chip.small with
        nextHops := ((∅ : Table Oid NextHop).insert (mplsNextHopOid 7)
          { NextHop.zero with rifId := Chip.portRif, label := some [5] }).insert (mplsNextHopOid 8)
            { NextHop.zero with rifId := Chip.portRif, label := some [6] } }
      groups := (∅ : Table Oid NextHopGrp).insert (firstGroup .protection)
        ⟨Oid.null, Oid.null, Oid.null⟩
      members := ∅
      nexthopMember := .empty _
      aps := .empty _
      hw := ⟨∅, {7, 8}⟩ }
  given _ := Oid.null

theorem GroupState.startAps_isStart : ApsStart GroupState.startAps := by
  have hlook : ∀ grp g, GroupState.startAps.db.groups.lookup grp = some g →
      grp = firstGroup .protection ∧ g = ⟨Oid.null, Oid.null, Oid.null⟩ := by
    intro grp g hg
    have hg' : ((∅ : Table Oid NextHopGrp).insert (firstGroup .protection)
      ⟨Oid.null, Oid.null, Oid.null⟩).lookup grp = some g := hg
    rcases Table.of_lookup_insert hg' with ⟨he, rfl⟩ | ⟨-, hg'⟩
    · exact ⟨he, rfl⟩
    · cases hg'
  refine ⟨rfl, ?_, ?_, ?_, ?_, ?_⟩
  · intro grp g hg
    rw [(hlook grp g hg).1]
    rfl
  · intro grp g hg
    rw [(hlook grp g hg).2]
    exact ⟨rfl, rfl⟩
  · intro grp grp' g g' hg hg' _
    rw [(hlook grp g hg).1, (hlook grp' g' hg').1]
  · intro grp grp' g g' hg hg' _
    rw [(hlook grp g hg).1, (hlook grp' g' hg').1]
  · intro grp g hg
    rw [(hlook grp g hg).1]
    decide

/-- Creation of a member of the group. -/
def createMplsMember (nhId : BitVec 32) (role : MemberRole) : MemberOp :=
  .create (.ok, memberAttrs (firstGroup .protection) (mplsNextHopOid nhId) role)

def MemberAssumed (_ : GroupState ch ApsHw) : MemberOp → Prop
  | .create object => object.1.Succeeds
  | .bulkCreate _ objects => ∀ object ∈ objects, object.1.Succeeds
  | .remove _ | .bulkRemove .. => True

/-- Both slots are filled, and the hardware is there. -/
theorem apsHardware_of_run_small : ∃ s : GroupState Chip.small ApsHw,
    (ApsOk s.db ∧ ∀ o, AgainSafe GroupSdk.sets s o → AddedAgain GroupSdk.sets s o) ∧
      s.db.hw.aps = {0} := by
  have r₀ : Reachable ApsStart (ApsSafe GroupSdk.sets) (memberStep GroupSdk.sets) GroupState.startAps :=
    .start GroupState.startAps_isStart
  have r₁ := r₀.next (createMplsMember 7 .primary) (by
    rintro _ _ _ _ ⟨⟩ ⟨⟩ ⟨⟩ ⟨⟩ - -
    exact nofun) rfl
  have r₂ := r₁.next (createMplsMember 8 .standby) (by
    rintro _ _ _ _ ⟨⟩ ⟨⟩ ⟨⟩ ⟨⟩ - - -
    exact ⟨fun _ _ _ => .inr rfl, fun _ => rfl⟩) rfl
  exact ⟨_, apsHardware_of_run GroupSdk.sets_isSets (Allocator.firstFit_complete 0 8) r₂, by decide⟩

/-- A member of a full group is removed, and the hardware stays. -/
theorem apsHardware_not_every_run :
    ¬ ∀ (ch : Chip) (m : GroupSdk ApsHw) (s : GroupState ch ApsHw), m.IsSets →
      ch.nexthopMember.Complete → Reachable ApsStart MemberAssumed (memberStep m) s →
        ApsOk s.db ∧ ∀ o, AddedAgain m s o := by
  intro h
  have r₀ : Reachable ApsStart MemberAssumed (memberStep GroupSdk.sets) GroupState.startAps :=
    .start GroupState.startAps_isStart
  have r₁ := r₀.next (createMplsMember 7 .primary) (by exact Sdk.ok_succeeds) rfl
  have r₂ := r₁.next (createMplsMember 8 .standby) (by exact Sdk.ok_succeeds) rfl
  have r₃ := r₂.next (.remove (memberOid 0 true 0 7)) (by trivial) rfl
  have hok := (h _ _ _ GroupSdk.sets_isSets (Allocator.firstFit_complete 0 8) r₃).1
    (firstGroup .protection) _ rfl
  revert hok
  decide

end CtcSai
