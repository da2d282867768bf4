/-
# `GroupGetters` — what a group and its members answer

A member object stores its group and nothing else: its next hop and its role
are put together again from its object id and from the slots of the group.
The members of a group are collected into the caller's list by a traversal
that uses slot 0 of that list for its parameter.
-/
import CtcSai.GroupMembers
import CtcSai.NextHopGet

namespace CtcSai

open Function

variable {ch : Chip} {σ : Type}

/-! ## Reading a member -/

/-- `sai_next_hop_group_member_attr_t`. -/
inductive MemberAttrId where
  | nextHopGroupId | nextHopId | weight | configuredRole | observedRole | monitoredObject
deriving DecidableEq, Repr

/-- `sai_attribute_value_t` as a get call on a member leaves it; an observed
role is `true` where it is ACTIVE. -/
inductive MemberValue where
  | untouched
  | oid (o : Oid)
  | configuredRole (role : MemberRole)
  | observedRole (active : Bool)
deriving DecidableEq, Repr

/-- `_ctc_sai_next_hop_group_get_member_attr`; `apsBridge` is what
`ctcs_aps_get_aps_bridge` writes. -/
def getMemberAttr (apsBridge : σ → Nat → Bool) (db : GroupDb ch σ) (oid : Oid) (id : MemberAttrId)
    (value : MemberValue) (attrIdx : Nat) : Option (Status × MemberValue) :=
  match db.members.lookup oid with
  | none => if db.notMember oid then none else some (.itemNotFound, value)
  | some r =>
    match db.groups.lookup r.nhGrpOid with
    | none => if db.notGroup r.nhGrpOid then none else some (.itemNotFound, value)
    | some g =>
      let nhOid := createObjectId .nextHop ch.lchip 0 0 oid.value
      let protection := decide (r.nhGrpOid.subType = NextHopGroupType.protection.bits)
      let apsBridgeId := if protection then r.nhGrpOid.value2.toNat else 0
      let isWorking := protection && decide (nhOid = g.wNhOid)
      match id with
      | .nextHopGroupId => some (.success, .oid r.nhGrpOid)
      | .nextHopId => some (.success, .oid nhOid)
      | .configuredRole =>
        if r.nhGrpOid.subType = NextHopGroupType.ecmp.bits then some (.invalidParameter, value)
        else some (.success, .configuredRole (if isWorking then .primary else .standby))
      | .observedRole =>
        if r.nhGrpOid.subType = NextHopGroupType.ecmp.bits then some (.invalidParameter, value)
        else some (.success, .observedRole (isWorking != apsBridge db.hw apsBridgeId))
      | .weight | .monitoredObject => some (.attrNotSupported attrIdx, value)

/-- The member `oid` answers with the group, the next hop and, in a PROTECTION
group, the role it was made with. -/
structure MemberReadsBack (apsBridge : σ → Nat → Bool) (db : GroupDb ch σ) (oid : Oid)
    (attrs : List MemberAttr) (nhGrpOid nhOid : Oid) : Prop where
  group : ∀ value i,
    getMemberAttr apsBridge db oid .nextHopGroupId value i = some (.success, .oid nhGrpOid)
  nextHop : ∀ value i,
    getMemberAttr apsBridge db oid .nextHopId value i = some (.success, .oid nhOid)
  role : nhGrpOid.subType = NextHopGroupType.protection.bits → ∀ role,
    findAttribInList MemberAttr.configuredRole? attrs = some role → ∀ value i,
    getMemberAttr apsBridge db oid .configuredRole value i = some (.success, .configuredRole role)

section ReadBack

variable {m : GroupSdk σ} {sdk : Sdk} {db db' : GroupDb ch σ} {attrs : List MemberAttr}
  {oid nhGrpOid nhOid : Oid}
variable {nhId : BitVec 32} {i : Nat} {g : NextHopGrp}

/-- What a new member finds of itself and of its group `g`. -/
structure MemberMade (db db' : GroupDb ch σ) (oid nhGrpOid : Oid) (nhId : BitVec 32)
    (g : NextHopGrp) : Prop where
  value : oid.value = nhId
  record : db'.members.lookup oid = some ⟨nhGrpOid⟩
  group : db'.groups.lookup nhGrpOid = some g

theorem createEcmpMember_made
    (h : createEcmpMember m sdk db nhGrpOid nhId i = (.success, some oid, db'))
    (hg : db.groups.lookup nhGrpOid = some g) :
    MemberMade db db' oid nhGrpOid nhId g := by
  unfold createEcmpMember at h
  dsimp only at h
  split at h
  · cases congrArg (fun r : MemberResult ch σ => r.2.1) h
  split at h
  · cases h
    exact ⟨rfl, AList.lookup_insert _, hg⟩
  · cases congrArg (fun r : MemberResult ch σ => r.2.1) h

theorem createAltFinish_made {role : MemberRole}
    (h : createAltFinish m sdk db nhGrpOid g role nhId i = (.success, some oid, db')) :
    MemberMade db db' oid nhGrpOid nhId g := by
  unfold createAltFinish at h
  dsimp only at h
  split at h
  · cases h
    exact ⟨rfl, AList.lookup_insert _, AList.lookup_insert _⟩
  · cases congrArg (fun r : MemberResult ch σ => r.2.1) h

theorem createAltMember_made
    (h : createAltMember m sdk db attrs nhGrpOid g nhOid nhId i = some (.success, some oid, db')) :
    ∃ role, findAttribInList MemberAttr.configuredRole? attrs = some role ∧
      MemberMade db db' oid nhGrpOid nhId (g.setSlot role nhOid) := by
  unfold createAltMember at h
  split at h
  · cases h
  next role hrole =>
  refine ⟨role, hrole, ?_⟩
  dsimp only at h
  split at h
  · split at h
    · cases h
    · have hm := createAltFinish_made (Option.some.inj h)
      exact ⟨hm.value, hm.record, hm.group⟩
    · cases h
  · exact createAltFinish_made (Option.some.inj h)

/-- A member that was made keeps the id of its next hop, and its group's slot
of its role holds that next hop. -/
theorem createMember_made (hg : findAttribInList MemberAttr.nextHopGroupId? attrs = some nhGrpOid)
    (hx : findAttribInList MemberAttr.nextHopId? attrs = some nhOid)
    (h : createMember m sdk db attrs = some (.success, some oid, db')) :
    ∃ g, db.groups.lookup nhGrpOid = some g ∧
      if nhGrpOid.subType = NextHopGroupType.ecmp.bits then
        MemberMade db db' oid nhGrpOid ((oidGetNexthopId nhOid).getD 0) g
      else ∃ role, findAttribInList MemberAttr.configuredRole? attrs = some role ∧
        MemberMade db db' oid nhGrpOid ((oidGetNexthopId nhOid).getD 0) (g.setSlot role nhOid) := by
  unfold createMember at h
  rw [hg] at h
  dsimp only at h
  split at h
  · split at h <;> cases h
  next g hlook =>
  refine ⟨g, hlook, ?_⟩
  rw [hx] at h
  dsimp only at h
  split at h
  · cases h
  split at h
  · cases h
  split at h
  · next hsub =>
    rw [if_pos hsub]
    have hm := createEcmpMember_made (Option.some.inj h) hlook
    exact ⟨hm.value, hm.record, hm.group⟩
  next hsub =>
  rw [if_neg hsub]
  obtain ⟨role, hrole, hm⟩ := createAltMember_made h
  exact ⟨role, hrole, hm.value, hm.record, hm.group⟩

/-- The object id of an IP next hop of this chip is all of that next hop. -/
theorem rebuilt_iff :
    createObjectId .nextHop ch.lchip 0 0 ((oidGetNexthopId nhOid).getD 0) = nhOid ↔
      nhOid = createObjectId .nextHop ch.lchip 0 0 nhOid.value := by
  constructor
  · intro h
    have hv : (oidGetNexthopId nhOid).getD 0 = nhOid.value := congrArg Oid.value h
    rw [← hv]
    exact h.symm
  · intro h
    have htype : nhOid.type = ObjectType.nextHop.bits := congrArg Oid.type h
    have hid : oidGetNexthopId nhOid = some nhOid.value := if_pos (Or.inl htype)
    rw [hid]
    exact h.symm

theorem MemberMade.getMemberAttr (h : MemberMade db db' oid nhGrpOid nhId g)
    (apsBridge : σ → Nat → Bool) (value : MemberValue) (i : Nat) :
    getMemberAttr apsBridge db' oid .nextHopGroupId value i = some (.success, .oid nhGrpOid) ∧
      getMemberAttr apsBridge db' oid .nextHopId value i =
        some (.success, .oid (createObjectId .nextHop ch.lchip 0 0 nhId)) ∧
      (nhGrpOid.subType = NextHopGroupType.protection.bits →
        getMemberAttr apsBridge db' oid .configuredRole value i = some (.success, .configuredRole
            (if createObjectId .nextHop ch.lchip 0 0 nhId = g.wNhOid then .primary else .standby))) := by
  unfold CtcSai.getMemberAttr
  rw [h.record, ← h.value]
  dsimp only
  rw [h.group]
  refine ⟨rfl, rfl, fun hsub => ?_⟩
  have hne : nhGrpOid.subType ≠ NextHopGroupType.ecmp.bits := by
    rw [hsub]
    exact NextHopGroupType.bits_ne.symm
  dsimp only
  rw [if_neg hne, decide_eq_true hsub, Bool.true_and]
  simp only [decide_eq_true_eq]

/-- A member reads back as it was made exactly if its next hop is an IP next
hop of the chip and, for a STANDBY member of a PROTECTION group, another one
than the group's PRIMARY. -/
theorem memberReadsBack_iff (apsBridge : σ → Nat → Bool)
    (hg : findAttribInList MemberAttr.nextHopGroupId? attrs = some nhGrpOid)
    (hx : findAttribInList MemberAttr.nextHopId? attrs = some nhOid)
    (h : createMember m sdk db attrs = some (.success, some oid, db')) :
    MemberReadsBack apsBridge db' oid attrs nhGrpOid nhOid ↔
      nhOid = createObjectId .nextHop ch.lchip 0 0 nhOid.value ∧
      (nhGrpOid.subType = NextHopGroupType.protection.bits →
        findAttribInList MemberAttr.configuredRole? attrs = some .standby →
        ∀ g, db.groups.lookup nhGrpOid = some g → g.wNhOid ≠ nhOid) := by
  obtain ⟨g, hlook, hmade⟩ := createMember_made hg hx h
  split at hmade
  · next hsub =>
    have hne : nhGrpOid.subType ≠ NextHopGroupType.protection.bits := by
      rw [hsub]
      exact NextHopGroupType.bits_ne
    have ha := hmade.getMemberAttr apsBridge
    constructor
    · intro hr
      refine ⟨rebuilt_iff.mp ?_, fun hp => absurd hp hne⟩
      have hn := (ha .untouched 0).2.1.symm.trans (hr.nextHop .untouched 0)
      injection hn with hn
      injection hn with _ hn
      injection hn
    · rintro ⟨hnh, -⟩
      refine ⟨fun value i => (ha value i).1, fun value i => ?_, fun hp => absurd hp hne⟩
      rw [(ha value i).2.1, rebuilt_iff.mpr hnh]
  · obtain ⟨role, hrole, hmade⟩ := hmade
    have ha := hmade.getMemberAttr apsBridge
    have hrebuilt : MemberReadsBack apsBridge db' oid attrs nhGrpOid nhOid →
        nhOid = createObjectId .nextHop ch.lchip 0 0 nhOid.value := by
      intro hr
      have hn := (ha .untouched 0).2.1.symm.trans (hr.nextHop .untouched 0)
      injection hn with hn
      injection hn with _ hn
      injection hn with hn
      exact rebuilt_iff.mp hn
    constructor
    · intro hr
      refine ⟨hrebuilt hr, ?_⟩
      intro hp hstandby g' hg' hw
      obtain rfl := Option.some.inj (hlook.symm.trans hg')
      obtain rfl := Option.some.inj (hrole.symm.trans hstandby)
      have hn := ((ha .untouched 0).2.2 hp).symm.trans (hr.role hp _ hrole .untouched 0)
      rw [rebuilt_iff.mpr (hrebuilt hr)] at hn
      have hsame : nhOid = (g.setSlot .standby nhOid).wNhOid := hw.symm
      rw [if_pos hsame] at hn
      cases hn
    · rintro ⟨hnh, hother⟩
      refine ⟨fun value i => (ha value i).1, fun value i => ?_, fun hp role' hrole' value i => ?_⟩
      · rw [(ha value i).2.1, rebuilt_iff.mpr hnh]
      · obtain rfl := Option.some.inj (hrole.symm.trans hrole')
        rw [(ha value i).2.2 hp, rebuilt_iff.mpr hnh]
        cases role with
        | primary => rw [if_pos (show nhOid = (g.setSlot .primary nhOid).wNhOid from rfl)]
        | standby =>
          have hne : nhOid ≠ (g.setSlot .standby nhOid).wNhOid :=
            fun he => hother hp hrole g hlook he.symm
          rw [if_neg hne]

end ReadBack

/-! ## Reading a group -/

/-- `sai_object_list_t` in the caller's memory: the elements from `list` on,
and the slots that were stored to. -/
structure ObjectList where
  count : Nat
  list : Nat → Oid
  stored : List Nat

/-- `list[i] = o`. -/
def ObjectList.store (l : ObjectList) (i : Nat) (o : Oid) : ObjectList :=
  { l with list := update l.list i o, stored := l.stored ++ [i] }

/-- `list[count++] = o`. -/
def ObjectList.push (l : ObjectList) (o : Oid) : ObjectList :=
  { l.store l.count o with count := l.count + 1 }

def ObjectList.elems (l : ObjectList) : List Oid := (List.range l.count).map l.list

/-- `_ctc_sai_next_hop_group_get_members_from_db`: slot 0 of the list names
the group. -/
def getMembersFromDb (l : ObjectList) (bucket : (_ : Oid) × NextHopGrpMember) : ObjectList :=
  if bucket.2.nhGrpOid = l.list 0 then l.push bucket.1 else l

section GetGroup

variable (m : GroupSdk σ)

/-- The NEXT_HOP_MEMBER_LIST branch of `_ctc_sai_next_hop_group_get_grp_attr`.
The count the caller passes in is not read. -/
def getNextHopMemberList (db : GroupDb ch σ) (oid : Oid) (l : ObjectList) :
    Option (Status × ObjectList) :=
  if oid.subType = NextHopGroupType.ecmp.bits then
    match m.nhInfo db.hw oid.value.toNat with
    | .error e => some (mappingErrorCtc e, l)
    | .ok info =>
      if !info.isEcmp then some (.failure, l)
      else
        let l := { l with count := 1 }.store 0 oid
        let l := db.members.entries.foldl getMembersFromDb l
        if 1 < l.count then
          some (.success, { l with count := l.count - 1 }.store 0 (l.list (l.count - 1)))
        else some (.success, { l with count := 0 }.store 0 Oid.null)
  else if oid.subType = NextHopGroupType.protection.bits then
    match db.groups.lookup oid with
    | none => if db.notGroup oid then none else some (.itemNotFound, l)
    | some g =>
      let l := { l with count := 0 }
      let l := if g.wNhOid ≠ Oid.null then l.push g.wNhOid else l
      some (.success, if g.pNhOid ≠ Oid.null then l.push g.pNhOid else l)
  else some (.success, l)

end GetGroup

/-- The members of the group `grp`. -/
def GroupDb.membersOf (db : GroupDb ch σ) (grp : Oid) : List Oid :=
  (db.members.entries.filter fun e => decide (e.2.nhGrpOid = grp)).map Sigma.fst

/-- A caller with room for `capacity` gets what it has room for. -/
structure BufferRespected (members : List Oid) (capacity : Nat) (r : Status × ObjectList) :
    Prop where
  inside : ∀ i ∈ r.2.stored, i < capacity
  overflow : capacity < members.length → r.1 = .bufferOverflow ∧ r.2.count = members.length
  filled : members.length ≤ capacity → r.1 = .success ∧ r.2.count = members.length ∧
    r.2.elems.Perm members

/-- The slots of a PROTECTION group that are filled. -/
def NextHopGrp.filled (g : NextHopGrp) : List Oid :=
  [g.wNhOid, g.pNhOid].filter fun o => decide (o ≠ Oid.null)

section MemberList

theorem foldl_push_count (os : List Oid) (l : ObjectList) :
    (os.foldl ObjectList.push l).count = l.count + os.length := by
  induction os generalizing l with
  | nil => rfl
  | cons o os ih =>
    rw [List.foldl_cons, ih]
    show l.count + 1 + os.length = _
    rw [List.length_cons]
    omega

theorem foldl_push_stored (os : List Oid) (l : ObjectList) :
    (os.foldl ObjectList.push l).stored = l.stored ++ List.range' l.count os.length := by
  induction os generalizing l with
  | nil => exact (List.append_nil _).symm
  | cons o os ih =>
    rw [List.foldl_cons, ih]
    show (l.stored ++ [l.count]) ++ List.range' (l.count + 1) os.length = _
    rw [List.append_assoc]
    rfl

theorem foldl_push_below (os : List Oid) (l : ObjectList) {i : Nat} (h : i < l.count) :
    (os.foldl ObjectList.push l).list i = l.list i := by
  induction os generalizing l with
  | nil => rfl
  | cons o os ih =>
    rw [List.foldl_cons, ih _ (show i < l.count + 1 by omega)]
    exact update_of_ne (by omega) _ _

theorem foldl_push_list (os : List Oid) (l : ObjectList) :
    (List.range os.length).map (fun i => (os.foldl ObjectList.push l).list (l.count + i)) = os := by
  induction os generalizing l with
  | nil => rfl
  | cons o os ih =>
    rw [List.length_cons, List.range_succ_eq_map, List.map_cons, List.map_map]
    have hfirst : ((o :: os).foldl ObjectList.push l).list (l.count + 0) = o := by
      rw [List.foldl_cons, foldl_push_below os _ (show l.count + 0 < l.count + 1 by omega)]
      exact update_self _ _ _
    have hrest := ih (l.push o)
    rw [hfirst]
    refine congrArg (o :: ·) (Eq.trans ?_ hrest)
    refine List.map_congr_left fun i _ => ?_
    show (os.foldl ObjectList.push (l.push o)).list (l.count + (i + 1)) =
      (os.foldl ObjectList.push (l.push o)).list (l.count + 1 + i)
    rw [Nat.add_assoc l.count 1 i, Nat.add_comm 1 i]

/-- The traversal never stores to slot 0, so it goes on looking for the same
group. -/
theorem foldl_getMembersFromDb (grp : Oid) (es : List ((_ : Oid) × NextHopGrpMember))
    (l : ObjectList) (h : l.list 0 = grp) (hpos : 0 < l.count) :
    es.foldl getMembersFromDb l =
      ((es.filter fun e => decide (e.2.nhGrpOid = grp)).map Sigma.fst).foldl ObjectList.push l := by
  induction es generalizing l with
  | nil => rfl
  | cons e es ih =>
    rw [List.foldl_cons]
    by_cases hin : e.2.nhGrpOid = grp
    · have hstep : getMembersFromDb l e = l.push e.1 := if_pos (hin.trans h.symm)
      have hkept : (l.push e.1).list 0 = grp :=
        (update_of_ne (by omega) _ _).trans h
      rw [hstep, ih _ hkept (Nat.succ_pos _), List.filter_cons, if_pos (decide_eq_true hin)]
      rfl
    · have hstep : getMembersFromDb l e = l := if_neg fun he => hin (he.trans h)
      rw [hstep, ih _ h hpos, List.filter_cons, if_neg (by simpa using hin)]

variable {m : GroupSdk σ} {db : GroupDb ch σ} {oid : Oid} {l : ObjectList}

/-- An ECMP group writes slot 0 and one slot a member, and answers with all
its members whatever the room. -/
theorem getNextHopMemberList_ecmp (hsub : oid.subType = NextHopGroupType.ecmp.bits)
    {info : NhInfo} (hinfo : m.nhInfo db.hw oid.value.toNat = .ok info)
    (hecmp : info.isEcmp = true) (hl : l.stored = []) :
    ∃ l', getNextHopMemberList m db oid l = some (.success, l') ∧
      l'.count = (db.membersOf oid).length ∧ l'.elems.Perm (db.membersOf oid) ∧
      l'.stored = List.range' 0 ((db.membersOf oid).length + 1) ++ [0] := by
  set l₀ := { l with count := 1 }.store 0 oid with hl₀
  set ms := db.membersOf oid with hms
  have hslot : l₀.list 0 = oid := by
    exact update_self 0 oid l.list
  have hwalk : db.members.entries.foldl getMembersFromDb l₀ = ms.foldl ObjectList.push l₀ :=
    foldl_getMembersFromDb oid _ l₀ hslot Nat.one_pos
  set l₁ := ms.foldl ObjectList.push l₀ with hl₁
  have hcount : l₁.count = 1 + ms.length := foldl_push_count ms l₀
  have hstored : l₁.stored = List.range' 0 (ms.length + 1) := by
    rw [foldl_push_stored, hl₀]
    rw [hl]
    rfl
  have hlist : (List.range ms.length).map (fun i => l₁.list (1 + i)) = ms := foldl_push_list ms l₀
  have hres : getNextHopMemberList m db oid l =
      if 1 < l₁.count then
        some (.success, { l₁ with count := l₁.count - 1 }.store 0 (l₁.list (l₁.count - 1)))
      else some (.success, { l₁ with count := 0 }.store 0 Oid.null) := by
    unfold getNextHopMemberList
    rw [if_pos hsub, hinfo]
    dsimp only
    rw [hecmp, hwalk]
    rfl
  rw [hres]
  rcases List.eq_nil_or_concat ms with hnil | ⟨init, last, hsnoc⟩
  · have hzero : ms.length = 0 := by rw [hnil]; rfl
    rw [if_neg (by omega)]
    refine ⟨_, rfl, hzero.symm, ?_, ?_⟩
    · rw [hnil]
      exact List.Perm.refl _
    · show l₁.stored ++ [0] = _
      rw [hstored]
  have hlen : ms.length = init.length + 1 := by rw [hsnoc]; simp
  rw [if_pos (by omega)]
  refine ⟨_, rfl, ?_, ?_, ?_⟩
  · show l₁.count - 1 = _
    omega
  · -- the last member goes first, the others keep their slots
    rw [hlen, hsnoc, List.range_succ, List.map_append, List.concat_eq_append] at hlist
    obtain ⟨hinit, hlast⟩ := List.append_inj hlist (by simp)
    have hlast : l₁.list (1 + init.length) = last := List.singleton_inj.mp hlast
    have helems : ({ l₁ with count := l₁.count - 1 }.store 0
        (l₁.list (l₁.count - 1)) : ObjectList).elems = last :: init := by
      show (List.range (l₁.count - 1)).map (update l₁.list 0 _) = _
      rw [hcount, hlen, show 1 + (init.length + 1) - 1 = init.length + 1 by omega,
        List.range_succ_eq_map, List.map_cons, List.map_map, Nat.add_comm, hlast]
      refine congrArg (last :: ·) (Eq.trans ?_ hinit)
      refine List.map_congr_left fun i _ => ?_
      rw [Function.comp, update_of_ne (by omega), Nat.succ_eq_one_add]
    rw [helems, hsnoc, List.concat_eq_append]
    exact (List.perm_append_singleton last init).symm
  · show l₁.stored ++ [0] = _
    rw [hstored]

theorem getNextHopMemberList_protection (hsub : oid.subType = NextHopGroupType.protection.bits)
    {g : NextHopGrp} (hg : db.groups.lookup oid = some g) (hl : l.stored = []) :
    ∃ l', getNextHopMemberList m db oid l = some (.success, l') ∧
      l'.count = g.filled.length ∧ l'.elems = g.filled ∧
      l'.stored = List.range' 0 g.filled.length := by
  set l₀ : ObjectList := { l with count := 0 } with hl₀
  have hres : getNextHopMemberList m db oid l =
      some (.success, g.filled.foldl ObjectList.push l₀) := by
    have hne : oid.subType ≠ NextHopGroupType.ecmp.bits := by
      rw [hsub]
      exact NextHopGroupType.bits_ne.symm
    unfold getNextHopMemberList NextHopGrp.filled
    rw [if_neg hne, if_pos hsub, hg]
    by_cases hw : g.wNhOid = Oid.null <;> by_cases hp : g.pNhOid = Oid.null <;> simp [hw, hp, hl₀]
  have hcount : (g.filled.foldl ObjectList.push l₀).count = g.filled.length :=
    (foldl_push_count _ _).trans (Nat.zero_add _)
  refine ⟨_, hres, hcount, ?_, ?_⟩
  · unfold ObjectList.elems
    rw [hcount]
    have hlist := foldl_push_list g.filled l₀
    simpa only [hl₀, Nat.zero_add] using hlist
  · rw [foldl_push_stored]
    rw [hl, List.nil_append]

theorem answered_of_ecmp (herr : ∀ s n, m.nhInfo s n ≠ .error .none)
    (hsub : oid.subType = NextHopGroupType.ecmp.bits) {capacity : Nat}
    {r : Status × ObjectList} (hr : getNextHopMemberList m db oid l = some r)
    (hresp : BufferRespected (db.membersOf oid) capacity r) :
    ∃ info, m.nhInfo db.hw oid.value.toNat = .ok info ∧ info.isEcmp = true := by
  have hstatus : r.1 = .success ∨ r.1 = .bufferOverflow := by
    rcases Nat.lt_or_ge capacity (db.membersOf oid).length with h | h
    · exact .inr (hresp.overflow h).1
    · exact .inl (hresp.filled h).1
  unfold getNextHopMemberList at hr
  rw [if_pos hsub] at hr
  split at hr
  · next e he =>
    obtain rfl := Option.some.inj hr
    have hfails : mappingErrorCtc e ≠ .success := fun h =>
      herr _ _ (by rw [he, mappingErrorCtc_eq_success.mp h])
    rcases hstatus with h | h
    · exact absurd h hfails
    · cases e <;> cases h
  next info hinfo =>
  refine ⟨info, hinfo, ?_⟩
  split at hr
  · obtain rfl := Option.some.inj hr
    rcases hstatus with h | h <;> cases h
  · next h => simpa using h

/-- The list of a group is read as promised exactly if an ECMP group, which
the SDK still knows, has fewer members than the caller has room, and if the
slots of a PROTECTION group hold its members, of which there is room for
all. -/
theorem memberList_iff (herr : ∀ s n, m.nhInfo s n ≠ .error .none) {g : NextHopGrp}
    (hg : db.groups.lookup oid = some g)
    (hsub : oid.subType = NextHopGroupType.ecmp.bits ∨
      oid.subType = NextHopGroupType.protection.bits) (capacity : Nat) (list : Nat → Oid) :
    (∃ r, getNextHopMemberList m db oid ⟨capacity, list, []⟩ = some r ∧
        BufferRespected (db.membersOf oid) capacity r) ↔
      (oid.subType = NextHopGroupType.ecmp.bits →
        (∃ info, m.nhInfo db.hw oid.value.toNat = .ok info ∧ info.isEcmp = true) ∧
          (db.membersOf oid).length < capacity) ∧
      (oid.subType = NextHopGroupType.protection.bits →
        g.filled.Perm (db.membersOf oid) ∧ (db.membersOf oid).length ≤ capacity) := by
  rcases hsub with hsub | hsub
  · have hne : oid.subType ≠ NextHopGroupType.protection.bits := by
      rw [hsub]
      exact NextHopGroupType.bits_ne
    constructor
    · rintro ⟨r, hr, hresp⟩
      refine ⟨fun _ => ?_, fun hp => absurd hp hne⟩
      obtain ⟨info, hinfo, hecmp⟩ := answered_of_ecmp herr hsub hr hresp
      refine ⟨⟨info, hinfo, hecmp⟩, ?_⟩
      obtain ⟨l', hl', -, -, hstored⟩ := getNextHopMemberList_ecmp (l := ⟨capacity, list, []⟩)
        hsub hinfo hecmp rfl
      obtain rfl := Option.some.inj (hl'.symm.trans hr)
      refine hresp.inside _ ?_
      rw [hstored]
      exact List.mem_append_left _ (List.mem_range'_1.mpr ⟨Nat.zero_le _, by omega⟩)
    · rintro ⟨hok, -⟩
      obtain ⟨⟨info, hinfo, hecmp⟩, hroom⟩ := hok hsub
      obtain ⟨l', hl', hcount, hperm, hstored⟩ := getNextHopMemberList_ecmp
        (l := ⟨capacity, list, []⟩) hsub hinfo hecmp rfl
      refine ⟨_, hl', fun i hi => ?_, fun hover => absurd hover (by omega),
        fun _ => ⟨rfl, hcount, hperm⟩⟩
      rw [hstored] at hi
      rcases List.mem_append.mp hi with hi | hi
      · have := List.mem_range'_1.mp hi
        omega
      · have := List.mem_singleton.mp hi
        omega
  · have hne : oid.subType ≠ NextHopGroupType.ecmp.bits := by
      rw [hsub]
      exact NextHopGroupType.bits_ne.symm
    obtain ⟨l', hl', hcount, helems, hstored⟩ := getNextHopMemberList_protection (m := m)
      (l := ⟨capacity, list, []⟩) hsub hg rfl
    constructor
    · rintro ⟨r, hr, hresp⟩
      obtain rfl := Option.some.inj (hl'.symm.trans hr)
      refine ⟨fun he => absurd he hne, fun _ => ?_⟩
      have hroom : (db.membersOf oid).length ≤ capacity := by
        by_contra hover
        cases (hresp.overflow (by omega)).1
      have hperm := (hresp.filled hroom).2.2
      rw [helems] at hperm
      exact ⟨hperm, hroom⟩
    · rintro ⟨-, hok⟩
      obtain ⟨hperm, hroom⟩ := hok hsub
      have hlen := hperm.length_eq
      refine ⟨_, hl', fun i hi => ?_, fun hover => absurd hover (by omega),
        fun _ => ⟨rfl, hcount.trans hlen, ?_⟩⟩
      · rw [hstored] at hi
        have := List.mem_range'_1.mp hi
        omega
      · rw [helems]
        exact hperm

end MemberList

/-! ## Groups of a chip with an MPLS next hop -/

theorem GroupSdk.counting_answers (f : Nat → Option Nat) (n : Nat) :
    GroupSdk.counting.nhInfo f n ≠ .error .none :=
  fun h => by cases h

/-- The MPLS next hop 4, and one group. -/
def GroupDb.hopAndGroup (type : NextHopGroupType) : GroupDb Chip.small (Nat → Option Nat) :=
  (createNextHopGroup GroupSdk.counting .ok
    { GroupState.start Chip.small |>.db with
      hop := ((createNextHop (fun _ => Oid.null) .ok NextHopDb.withNeighbor twoLabels).map
        fun r => r.2.2).getD .withNeighbor } [.type type]).2.2

def groupFive (type : NextHopGroupType) : Oid := nextHopGroupOid 0 type 0 5

/-- A STANDBY member that comes before the PRIMARY reads back. -/
theorem memberReadsBack_standby : ∃ oid db',
    createMember GroupSdk.counting .ok (GroupDb.hopAndGroup .protection)
      [.nextHopGroupId (groupFive .protection), .nextHopId (ipNextHopOid 7),
        .configuredRole .standby] = some (.success, some oid, db') ∧
      MemberReadsBack (fun _ _ => false) db' oid
        [.nextHopGroupId (groupFive .protection), .nextHopId (ipNextHopOid 7),
          .configuredRole .standby] (groupFive .protection) (ipNextHopOid 7) := by
  have hmade : ∃ oid db', createMember GroupSdk.counting .ok (GroupDb.hopAndGroup .protection)
      [.nextHopGroupId (groupFive .protection), .nextHopId (ipNextHopOid 7),
        .configuredRole .standby] = some (.success, some oid, db') := ⟨_, _, rfl⟩
  obtain ⟨oid, db', hmade⟩ := hmade
  refine ⟨oid, db', hmade, (memberReadsBack_iff _ rfl rfl hmade).mpr ⟨rfl, fun _ _ g hg => ?_⟩⟩
  obtain rfl := Option.some.inj hg
  decide

/-- The MPLS next hop 4 reads back as the IP next hop 4. -/
theorem memberReadsBack_not_always :
    ¬ ∀ (ch : Chip) (σ : Type) (apsBridge : σ → Nat → Bool) (m : GroupSdk σ) (sdk : Sdk)
      (db db' : GroupDb ch σ) (attrs : List MemberAttr) (oid nhGrpOid nhOid : Oid),
      findAttribInList MemberAttr.nextHopGroupId? attrs = some nhGrpOid →
      findAttribInList MemberAttr.nextHopId? attrs = some nhOid →
      createMember m sdk db attrs = some (.success, some oid, db') →
      MemberReadsBack apsBridge db' oid attrs nhGrpOid nhOid := by
  intro h
  have hback := (h Chip.small _ (fun _ _ => false) GroupSdk.counting .ok
    (GroupDb.hopAndGroup .ecmp) _
    [.nextHopGroupId (groupFive .ecmp), .nextHopId (nextHopOid Chip.small .mpls 4)] _ _ _
    rfl rfl rfl).nextHop .untouched 0
  revert hback
  decide

/-- The ECMP group with one member. -/
def GroupDb.oneMember : GroupDb Chip.small (Nat → Option Nat) :=
  ((createMember GroupSdk.counting .ok (GroupDb.hopAndGroup .ecmp)
    [.nextHopGroupId (groupFive .ecmp), .nextHopId (ipNextHopOid 7)]).map fun r => r.2.2).getD
      (GroupDb.hopAndGroup .ecmp)

/-- There is room for one more than the one member. -/
theorem memberList_two : ∃ r, getNextHopMemberList GroupSdk.counting GroupDb.oneMember
      (groupFive .ecmp) ⟨2, fun _ => Oid.null, []⟩ = some r ∧
    BufferRespected (GroupDb.oneMember.membersOf (groupFive .ecmp)) 2 r :=
  (memberList_iff GroupSdk.counting_answers rfl (Or.inl rfl) 2 _).mpr
    ⟨fun _ => ⟨⟨_, rfl, rfl⟩, by decide⟩, fun h => absurd h (by decide)⟩

/-- With room for the one member and no more, the slot behind the list is
written. -/
theorem memberList_not_always :
    ¬ ∀ (ch : Chip) (σ : Type) (m : GroupSdk σ) (db : GroupDb ch σ) (oid : Oid) (g : NextHopGrp)
      (capacity : Nat) (list : Nat → Oid), (∀ s n, m.nhInfo s n ≠ .error .none) →
      db.groups.lookup oid = some g →
      oid.subType = NextHopGroupType.ecmp.bits ∨ oid.subType = NextHopGroupType.protection.bits →
      ∃ r, getNextHopMemberList m db oid ⟨capacity, list, []⟩ = some r ∧
        BufferRespected (db.membersOf oid) capacity r := by
  intro h
  obtain ⟨r, hr, hresp⟩ := h Chip.small _ GroupSdk.counting GroupDb.oneMember (groupFive .ecmp) _ 1
    (fun _ => Oid.null) GroupSdk.counting_answers rfl (Or.inl rfl)
  have hwrites : (getNextHopMemberList GroupSdk.counting GroupDb.oneMember (groupFive .ecmp)
      ⟨1, fun _ => Oid.null, []⟩).map (fun r => r.2.stored) = some [0, 1, 0] := rfl
  rw [hr] at hwrites
  have hstored : r.2.stored = [0, 1, 0] := Option.some.inj hwrites
  exact absurd (hresp.inside 1 (by rw [hstored]; decide)) (by decide)

end CtcSai
