/-
# `IsolationGroup` — ctc_sai_isolation_group.c

A group keeps its members on an intrusive list whose nodes are the member
records themselves, which the object table owns.  Removing a group frees the
nodes of its list; the table goes on pointing at them.  The list and the table
agree in runs that remove empty groups only.
-/
import CtcSai.Lag
import CtcSai.Chip
import CtcSai.Lib.Run

namespace CtcSai

open Function IdPool KeyedTable Runs Table

/-! ## The records -/

/-- `ctc_sai_isolation_group_member_t`. -/
structure IsolationMember where
  istGrpMemId : BitVec 32
  portId : Oid
  istGrpId : Oid
deriving DecidableEq, Repr

/-- `ctc_sai_isolation_group_t`.  A node of `port_list` is the record of a
member, and is named by the object id of that member. -/
structure IsolationGroup where
  istGrpId : BitVec 32
  istType : BitVec 32
  portList : List Oid
deriving DecidableEq, Repr

/-- SAI_ISOLATION_GROUP_TYPE_PORT. -/
def isolationTypePort : BitVec 32 := 0

/-- SAI_ISOLATION_GROUP_TYPE_BRIDGE_PORT. -/
def isolationTypeBridgePort : BitVec 32 := 1

/-- The attributes of an isolation group and of a member. -/
inductive IsolationAttr where
  | type (t : BitVec 32)
  | groupId (oid : Oid)
  | object (oid : Oid)
deriving DecidableEq, Repr

def IsolationAttr.type? : IsolationAttr → Option (BitVec 32)
  | type t => some t
  | _ => none

def IsolationAttr.groupId? : IsolationAttr → Option Oid
  | groupId o => some o
  | _ => none

def IsolationAttr.object? : IsolationAttr → Option Oid
  | object o => some o
  | _ => none

/-- The `mem_malloc` calls of the module and of the object table. -/
inductive IsolationMem where
  | group | portList | groupNode | member | memberNode
deriving DecidableEq, Repr

/-- What the SDK and the memory answer during one API call. -/
structure IsolationSdk where
  setIsolation : CtcE
  setRestriction : CtcE
  mem : IsolationMem → Bool

/-- Every SDK call succeeds. -/
def IsolationSdk.Succeeds (sdk : IsolationSdk) : Prop :=
  sdk.setIsolation = .none ∧ sdk.setRestriction = .none

/-- The pool of group ids: 31 from 1 on. -/
structure IsolationIds where
  ids : Allocator
  lo : ids.lo = 1
  size : ids.size = 31

/-- The objects of all chips, and what the SDK of each chip holds. -/
structure IsolationDb (A : IsolationIds) where
  groups : Table Oid IsolationGroup
  members : Table Oid IsolationMember
  /-- The members whose record is freed while the table points at it. -/
  freed : Finset Oid
  pool : Lchip → Pool A.ids
  /-- `pbm[0]` of each isolation id. -/
  pbm : Lchip → BitVec 32 → BitVec 32
  /-- The egress `isolated_id` of each port. -/
  isolatedId : Lchip → BitVec 32 → BitVec 32

def isolationGroupOid (c : Lchip) (id : BitVec 32) : Oid :=
  createObjectId .isolationGroup (c.setWidth 8) 0 0 id

/-- The object id of a member: that of its port's number. -/
def isolationMemberOid (c : Lchip) (port : BitVec 32) : Oid :=
  createObjectId .isolationGroupMember (c.setWidth 8) 0 0 port

section Calls

variable {A : IsolationIds} (sdk : IsolationSdk) (db : IsolationDb A)

/-- `ctc_sai_db_get_object_property` of a group in the database of a chip. -/
def IsolationDb.group (c : Lchip) (oid : Oid) : Option IsolationGroup :=
  if oid.lchip = c then db.groups.lookup oid else none

/-- A write to one of the SDK's tables of a chip. -/
def setAt (f : Lchip → BitVec 32 → BitVec 32) (c : Lchip) (k v : BitVec 32) :
    Lchip → BitVec 32 → BitVec 32 :=
  update f c (update (f c) k v)

/-- `ctc_sai_isolation_group_create_group` on chip `c`. -/
def createIsolationGroup (c : Lchip) (attrs : List IsolationAttr) :
    Status × Option Oid × IsolationDb A :=
  match findAttribInList IsolationAttr.type? attrs with
  | none => (.mandatoryAttributeMissing, none, db)
  | some istType =>
    if !(sdk.mem .group && sdk.mem .portList) then (.noMemory, none, db)
    else
      match (db.pool c).alloc with
      | none => (.insufficientResources, none, db)
      | some (i, pool) =>
        let id := BitVec.ofNat 32 i
        let oid := isolationGroupOid c id
        -- what is done to the pool when the object cannot be kept
        let back := { db with pool := update db.pool c (pool.free i) }
        if (db.groups.lookup oid).isSome then (.itemAlreadyExists, some oid, back)
        else if !sdk.mem .groupNode then (.noMemory, some oid, back)
        else
          match mappingErrorCtc sdk.setIsolation with
          | .success => (.success, some oid, { db with
              pool := update db.pool c pool
              groups := db.groups.insert oid ⟨id, istType, []⟩
              pbm := setAt db.pbm c id (1#32 <<< id.toNat) })
          | status => (status, some oid, back)

/-- `ctc_sai_isolation_group_remove_group`. -/
def removeIsolationGroup (oid : Oid) : Status × IsolationDb A :=
  match db.groups.lookup oid with
  | none => (.invalidObjectId, db)
  | some g =>
    let c := oid.lchip
    (.success, { db with
      groups := db.groups.erase oid
      -- whether the SDK took the empty mask is not asked
      pbm := if mappingErrorCtc sdk.setIsolation = .success then setAt db.pbm c g.istGrpId 0
        else db.pbm
      pool := update db.pool c ((db.pool c).free g.istGrpId.toNat)
      freed := db.freed ∪ g.portList.toFinset })

/-- `ctc_sai_isolation_group_create_member` on chip `c`.  The member is in the
table before its group is looked up, and leaves it when there is none. -/
def createIsolationMember (c : Lchip) (attrs : List IsolationAttr) :
    Status × Option Oid × IsolationDb A :=
  match findAttribInList IsolationAttr.groupId? attrs, findAttribInList IsolationAttr.object? attrs with
  | some grp, some port =>
    if port.type ≠ ObjectType.port.bits ∧ port.type ≠ ObjectType.bridgePort.bits then
      (.invalidParameter, none, db)
    else if port.type = ObjectType.bridgePort.bits ∧ port.subType ≠ 0 then
      (.notSupported, none, db)
    else if !sdk.mem .member then (.noMemory, none, db)
    else
      let oid := isolationMemberOid c port.value
      if (db.members.lookup oid).isSome then (.itemAlreadyExists, some oid, db)
      else if !sdk.mem .memberNode then (.noMemory, some oid, db)
      else
        match db.group c grp with
        | none => (.failure, some oid, db)
        | some g =>
          if (g.istType = isolationTypePort ∧ port.type ≠ ObjectType.port.bits) ∨
              (g.istType = isolationTypeBridgePort ∧ port.type ≠ ObjectType.bridgePort.bits) then
            (.invalidAttrValue (attrs.findIdx fun a => a.groupId?.isSome), some oid, db)
          else
            match mappingErrorCtc sdk.setRestriction with
            | .success => (.success, some oid, { db with
                members := db.members.insert oid ⟨port.value, port, grp⟩
                groups := db.groups.insert grp { g with portList := g.portList ++ [oid] }
                isolatedId := setAt db.isolatedId c port.value grp.value })
            | status => (status, some oid, db)
  | _, _ => (.mandatoryAttributeMissing, none, db)

/-- `ctc_sai_isolation_group_remove_member`.  A record that is freed is read all
the same: the call has no meaning. -/
def removeIsolationMember (oid : Oid) : Option (Status × IsolationDb A) :=
  match db.members.lookup oid with
  | none => some (.invalidObjectId, db)
  | some m =>
    if oid ∈ db.freed then none
    else
      match db.group oid.lchip m.istGrpId with
      | none => some (.invalidObjectId, db)
      | some g => some (.success, { db with
          groups := db.groups.insert m.istGrpId { g with portList := g.portList.erase oid }
          members := db.members.erase oid
          isolatedId := if mappingErrorCtc sdk.setRestriction = .success then
              setAt db.isolatedId oid.lchip oid.value 0
            else db.isolatedId })

end Calls

/-! ## The system -/

inductive IsolationOp where
  | createGroup (sdk : IsolationSdk) (c : Lchip) (attrs : List IsolationAttr)
  | removeGroup (sdk : IsolationSdk) (oid : Oid)
  | createMember (sdk : IsolationSdk) (c : Lchip) (attrs : List IsolationAttr)
  | removeMember (sdk : IsolationSdk) (oid : Oid)

variable {A : IsolationIds}

def isolationStep (db : IsolationDb A) : IsolationOp → Option (IsolationDb A)
  | .createGroup sdk c attrs => some (createIsolationGroup sdk db c attrs).2.2
  | .removeGroup sdk oid => some (removeIsolationGroup sdk db oid).2
  | .createMember sdk c attrs => some (createIsolationMember sdk db c attrs).2.2
  | .removeMember sdk oid => (removeIsolationMember sdk db oid).map Prod.snd

/-- Nothing is there yet. -/
structure IsolationStart (db : IsolationDb A) : Prop where
  groups : db.groups = ∅
  members : db.members = ∅
  freed : db.freed = ∅
  pool : ∀ c, db.pool c = .empty _
  pbm : ∀ c i, db.pbm c i = 0
  isolatedId : ∀ c p, db.isolatedId c p = 0

/-- The SDK accepts every call. -/
def IsolationAssumed : IsolationOp → Prop
  | .createGroup sdk .. | .removeGroup sdk _ | .createMember sdk .. | .removeMember sdk _ =>
    sdk.Succeeds

/-- A group is removed once its list is empty. -/
def IsolationSafe (db : IsolationDb A) : IsolationOp → Prop
  | .removeGroup _ oid => ∀ g, db.groups.lookup oid = some g → g.portList = []
  | _ => True

/-! ## What should hold -/

/-- A member object whose record is there. -/
def IsolationDb.Live (db : IsolationDb A) (oid : Oid) : Prop :=
  (db.members.lookup oid).isSome ∧ oid ∉ db.freed

/-- Lists, members and hardware agree. -/
structure IsolationOk (db : IsolationDb A) : Prop where
  /-- A member is on the list of exactly the group that it names. -/
  on_list : ∀ o m, db.members.lookup o = some m →
    (∃ g, db.groups.lookup m.istGrpId = some g) ∧
      ∀ grp g, db.groups.lookup grp = some g → (o ∈ g.portList ↔ grp = m.istGrpId)
  once : ∀ grp g, db.groups.lookup grp = some g → g.portList.Nodup
  nodes : ∀ grp g, db.groups.lookup grp = some g → ∀ n ∈ g.portList, db.Live n
  live : ∀ o m, db.members.lookup o = some m → db.Live o
  /-- The isolation id of a port is that of its member's group. -/
  isolated : ∀ o m, db.members.lookup o = some m →
    ∃ g, db.groups.lookup m.istGrpId = some g ∧
      db.isolatedId o.lchip m.portId.value = g.istGrpId
  isolated_none : ∀ c p, (∀ o m, db.members.lookup o = some m → o.lchip = c →
    m.portId.value ≠ p) → db.isolatedId c p = 0
  /-- A creation returns an id that no live member has. -/
  fresh : ∀ sdk c attrs oid, (createIsolationMember sdk db c attrs).1 = .success →
    (createIsolationMember sdk db c attrs).2.1 = some oid → ¬ db.Live oid
  mask : ∀ grp g, db.groups.lookup grp = some g → ∀ k,
    (db.pbm grp.lchip g.istGrpId).getLsbD k = decide (k = g.istGrpId.toNat)

/-! ## The invariant -/

/-- What holds in every state of an admitted run. -/
structure IsolationInv (db : IsolationDb A) : Prop where
  freed : db.freed = ∅
  group_id : ∀ grp g, db.groups.lookup grp = some g →
    grp = isolationGroupOid grp.lchip g.istGrpId ∧ g.istGrpId.toNat ∈ (db.pool grp.lchip).used
  member_id : ∀ o m, db.members.lookup o = some m →
    o = isolationMemberOid o.lchip m.portId.value ∧ m.istGrpId.lchip = o.lchip
  named : ∀ o m, db.members.lookup o = some m → (db.groups.lookup m.istGrpId).isSome
  on_list : ∀ o m, db.members.lookup o = some m → ∀ grp g, db.groups.lookup grp = some g →
    (o ∈ g.portList ↔ grp = m.istGrpId)
  once : ∀ grp g, db.groups.lookup grp = some g → g.portList.Nodup
  nodes : ∀ grp g, db.groups.lookup grp = some g → ∀ n ∈ g.portList,
    (db.members.lookup n).isSome
  isolated : ∀ c p, db.isolatedId c p =
    ((db.members.lookup (isolationMemberOid c p)).map fun m => m.istGrpId.value).getD 0
  mask : ∀ grp g, db.groups.lookup grp = some g →
    db.pbm grp.lchip g.istGrpId = 1#32 <<< g.istGrpId.toNat

theorem setAt_apply (f : Lchip → BitVec 32 → BitVec 32) (c : Lchip) (k v : BitVec 32)
    (c' : Lchip) (k' : BitVec 32) :
    setAt f c k v c' k' = if c' = c ∧ k' = k then v else f c' k' := by
  unfold setAt
  by_cases hc : c' = c
  · by_cases hk : k' = k
    · simp [hc, hk]
    · simp [hc, hk]
  · simp [hc]

theorem IsolationIds.lt_of_mem {p : Pool A.ids} {i : Nat} (h : i ∈ p.used) : i < 32 := by
  have hr := Finset.mem_Ico.mp (p.inRange h)
  have hlo := A.lo
  have hsize := A.size
  omega

theorem isolationMemberOid_inj {c c' : Lchip} {p p' : BitVec 32}
    (h : isolationMemberOid c p = isolationMemberOid c' p') : c = c' ∧ p = p' := by
  refine ⟨?_, congrArg Oid.value h⟩
  have hc := congrArg Oid.lchip h
  unfold isolationMemberOid at hc
  rwa [lchip_createObjectId, lchip_createObjectId] at hc

theorem lchip_isolationMemberOid (c : Lchip) (p : BitVec 32) :
    (isolationMemberOid c p).lchip = c := lchip_createObjectId ..

theorem lchip_isolationGroupOid (c : Lchip) (i : BitVec 32) :
    (isolationGroupOid c i).lchip = c := lchip_createObjectId ..

theorem group_eq_some {db : IsolationDb A} {c : Lchip} {grp : Oid} {g : IsolationGroup}
    (h : db.group c grp = some g) : grp.lchip = c ∧ db.groups.lookup grp = some g := by
  unfold IsolationDb.group at h
  split at h
  · next hc => exact ⟨hc, h⟩
  · cases h

section Inv

variable {db : IsolationDb A}
variable {c : Lchip} {oid : Oid} {g₀ : IsolationGroup}

theorem IsolationInv.setPool (h : IsolationInv db) {pool : Lchip → Pool A.ids}
    (hp : ∀ c, (pool c).used = (db.pool c).used) : IsolationInv { db with pool := pool } where
  freed := h.freed
  group_id grp g hg := by
    obtain ⟨hid, hu⟩ := h.group_id grp g hg
    exact ⟨hid, by rw [hp]; exact hu⟩
  member_id := h.member_id
  named := h.named
  on_list := h.on_list
  once := h.once
  nodes := h.nodes
  isolated := h.isolated
  mask := h.mask

theorem IsolationInv.group_inj (h : IsolationInv db) {grp grp' : Oid} {g g' : IsolationGroup}
    (hg : db.groups.lookup grp = some g) (hg' : db.groups.lookup grp' = some g')
    (hc : grp.lchip = grp'.lchip) (hi : g.istGrpId = g'.istGrpId) : grp = grp' := by
  rw [(h.group_id grp g hg).1, (h.group_id grp' g' hg').1, hc, hi]

/-- A new group. -/
theorem IsolationInv.addGroup (h : IsolationInv db) {i : Nat} {pool : Pool A.ids}
    (ha : (db.pool c).alloc = some (i, pool)) (istType : BitVec 32) :
    IsolationInv { db with
      pool := update db.pool c pool
      groups := db.groups.insert (isolationGroupOid c (BitVec.ofNat 32 i))
        ⟨BitVec.ofNat 32 i, istType, []⟩
      pbm := setAt db.pbm c (BitVec.ofNat 32 i) (1#32 <<< (BitVec.ofNat 32 i).toNat) } := by
  obtain ⟨hfree, hlo, htop, hused, -⟩ := Pool.alloc_some ha
  have hi : (BitVec.ofNat 32 i).toNat = i := by
    have hlo := A.lo
    have hsize := A.size
    rw [BitVec.toNat_ofNat, Nat.mod_eq_of_lt (by omega)]
  -- a group that was there has another number on this chip
  have hold : ∀ grp g, db.groups.lookup grp = some g → grp.lchip = c →
      g.istGrpId ≠ BitVec.ofNat 32 i := by
    intro grp g hg hc he
    have hu := (h.group_id grp g hg).2
    rw [he, hi, hc] at hu
    exact hfree hu
  have hnew : ∀ grp g, db.groups.lookup grp = some g →
      grp ≠ isolationGroupOid c (BitVec.ofNat 32 i) := by
    intro grp g hg he
    have hid := (h.group_id grp g hg).1
    rw [he] at hid
    exact hold grp g hg (by rw [he]; exact lchip_isolationGroupOid _ _)
      (congrArg Oid.value hid).symm
  refine ⟨h.freed, ?_, h.member_id, fun o m hm => isSome_insert (h.named o m hm) _ _, ?_,
    forall_insert List.nodup_nil h.once, forall_insert nofun h.nodes, h.isolated, ?_⟩
  · refine forall_insert ⟨by rw [lchip_isolationGroupOid], ?_⟩ fun grp g hg => ?_
    · dsimp only
      rw [lchip_isolationGroupOid, update_self, hi, hused]
      exact Finset.mem_insert_self _ _
    · obtain ⟨hid, hu⟩ := h.group_id grp g hg
      refine ⟨hid, ?_⟩
      dsimp only
      rw [update_apply]
      split
      · next hc =>
        rw [hused]
        exact Finset.mem_insert_of_mem (hc ▸ hu)
      · exact hu
  · intro o m hm
    refine forall_insert ?_ (h.on_list o m hm)
    obtain ⟨g', hg'⟩ := Option.isSome_iff_exists.mp (h.named o m hm)
    exact iff_of_false List.not_mem_nil (fun he => hnew _ g' hg' he.symm)
  · refine forall_insert ?_ fun grp g hg => ?_
    · dsimp only
      rw [setAt_apply]
      exact if_pos ⟨lchip_isolationGroupOid _ _, rfl⟩
    · dsimp only
      rw [setAt_apply, if_neg (fun hc => hold grp g hg hc.1 hc.2)]
      exact h.mask grp g hg

theorem IsolationInv.dropGroup (h : IsolationInv db) (hg₀ : db.groups.lookup oid = some g₀)
    (hempty : g₀.portList = []) :
    IsolationInv { db with
      groups := db.groups.erase oid
      pbm := setAt db.pbm oid.lchip g₀.istGrpId 0
      pool := update db.pool oid.lchip ((db.pool oid.lchip).free g₀.istGrpId.toNat) } := by
  have hother : ∀ {grp g}, grp ≠ oid → db.groups.lookup grp = some g → grp.lchip = oid.lchip →
      g.istGrpId ≠ g₀.istGrpId := by
    intro grp g hne hg hc hi
    exact hne (h.group_inj hg hg₀ hc hi)
  refine ⟨h.freed, ?_, h.member_id, ?_, fun o m hm => forall_erase (h.on_list o m hm),
    forall_erase h.once, forall_erase h.nodes, h.isolated, ?_⟩
  · intro grp g hg
    obtain ⟨hne, hg⟩ := of_lookup_erase hg
    obtain ⟨hid, hu⟩ := h.group_id grp g hg
    refine ⟨hid, ?_⟩
    dsimp only
    rw [update_apply]
    split
    · next hc =>
      refine Finset.mem_erase.mpr ⟨fun he => hother hne hg hc (BitVec.eq_of_toNat_eq he), ?_⟩
      exact hc ▸ hu
    · exact hu
  · intro o m hm
    have hs := h.named o m hm
    rw [lookup_erase_ite]
    split
    · next he =>
      -- no member names a group whose list is empty
      have hin := (h.on_list o m hm oid g₀ hg₀).mpr he.symm
      rw [hempty] at hin
      cases hin
    · exact hs
  · intro grp g hg
    obtain ⟨hne, hg⟩ := of_lookup_erase hg
    dsimp only
    rw [setAt_apply, if_neg (fun hc => hother hne hg hc.1 hc.2)]
    exact h.mask grp g hg

/-- A new member. -/
theorem IsolationInv.addMember (h : IsolationInv db) {grp port : Oid}
    (hg₀ : db.groups.lookup grp = some g₀) (hc : grp.lchip = c)
    (hnew : db.members.lookup (isolationMemberOid c port.value) = none) :
    IsolationInv { db with
      members := db.members.insert (isolationMemberOid c port.value) ⟨port.value, port, grp⟩
      groups := db.groups.insert grp
        { g₀ with portList := g₀.portList ++ [isolationMemberOid c port.value] }
      isolatedId := setAt db.isolatedId c port.value grp.value } := by
  -- the new id is on no list yet
  have habsent : ∀ grp' g, db.groups.lookup grp' = some g →
      isolationMemberOid c port.value ∉ g.portList := by
    intro grp' g hg hin
    have hs := h.nodes grp' g hg _ hin
    rw [hnew] at hs
    cases hs
  refine ⟨h.freed, forall_insert (h.group_id grp g₀ hg₀) h.group_id, ?_,
    forall_insert (by rw [AList.lookup_insert]; rfl) fun o m hm => isSome_insert (h.named o m hm) _ _,
    ?_, ?_, ?_, ?_, forall_insert (h.mask grp g₀ hg₀) h.mask⟩
  · refine forall_insert ?_ h.member_id
    rw [lchip_isolationMemberOid]
    exact ⟨rfl, hc⟩
  · intro o m hm grp' g hg
    rcases of_lookup_insert hm with ⟨rfl, rfl⟩ | ⟨hne, hold⟩
    · rcases of_lookup_insert hg with ⟨rfl, rfl⟩ | ⟨hne', hg'⟩
      · exact iff_of_true (List.mem_append_right _ (List.mem_singleton_self _)) rfl
      · exact iff_of_false (habsent grp' g hg') hne'
    rcases of_lookup_insert hg with ⟨rfl, rfl⟩ | ⟨-, hg'⟩
    · rw [← h.on_list o m hold grp' g₀ hg₀]
      exact List.mem_append.trans (or_iff_left fun hin => hne (List.mem_singleton.mp hin))
    · exact h.on_list o m hold grp' g hg'
  · refine forall_insert (List.nodup_append.mpr ⟨h.once grp g₀ hg₀, List.nodup_singleton _, ?_⟩)
      h.once
    rintro a ha b hb rfl
    rw [List.mem_singleton.mp hb] at ha
    exact habsent grp g₀ hg₀ ha
  · refine forall_insert (fun n hn => ?_) fun grp' g hg n hn =>
      isSome_insert (h.nodes grp' g hg n hn) _ _
    rcases List.mem_append.mp hn with hn | hn
    · exact isSome_insert (h.nodes grp g₀ hg₀ n hn) _ _
    · rw [List.mem_singleton.mp hn, AList.lookup_insert]
      rfl
  · intro c' p
    dsimp only
    rw [setAt_apply, lookup_insert_ite]
    by_cases hcp : c' = c ∧ p = port.value
    · rw [if_pos hcp, if_pos (by rw [hcp.1, hcp.2])]
      rfl
    · rw [if_neg hcp, if_neg (fun he => hcp (isolationMemberOid_inj he))]
      exact h.isolated c' p

/-- A member leaves its group. -/
theorem IsolationInv.dropMember (h : IsolationInv db) {m₀ : IsolationMember}
    (hm₀ : db.members.lookup oid = some m₀) (hg₀ : db.groups.lookup m₀.istGrpId = some g₀) :
    IsolationInv { db with
      groups := db.groups.insert m₀.istGrpId { g₀ with portList := g₀.portList.erase oid }
      members := db.members.erase oid
      isolatedId := setAt db.isolatedId oid.lchip oid.value 0 } := by
  have hnodup := h.once _ g₀ hg₀
  refine ⟨h.freed, forall_insert (h.group_id _ g₀ hg₀) h.group_id, forall_erase h.member_id,
    forall_erase fun o m hm => isSome_insert (h.named o m hm) _ _, ?_,
    forall_insert (hnodup.erase oid) h.once, ?_, ?_, forall_insert (h.mask _ g₀ hg₀) h.mask⟩
  · intro o m hm
    obtain ⟨hne, hm⟩ := of_lookup_erase hm
    refine forall_insert ?_ (h.on_list o m hm)
    rw [← h.on_list o m hm _ g₀ hg₀]
    exact List.mem_erase_of_ne hne
  · intro grp g hg n hn
    have hn' : n ≠ oid ∧ (db.members.lookup n).isSome := by
      rcases of_lookup_insert hg with ⟨rfl, rfl⟩ | ⟨hne, hg'⟩
      · obtain ⟨hno, hin⟩ := hnodup.mem_erase_iff.mp hn
        exact ⟨hno, h.nodes _ g₀ hg₀ n hin⟩
      · refine ⟨?_, h.nodes grp g hg' n hn⟩
        rintro rfl
        exact hne ((h.on_list n m₀ hm₀ grp g hg').mp hn)
    rw [lookup_erase_ite, if_neg hn'.1]
    exact hn'.2
  · intro c p
    have hid := (h.member_id oid m₀ hm₀).1
    dsimp only
    rw [setAt_apply, lookup_erase_ite]
    by_cases hcp : c = oid.lchip ∧ p = oid.value
    · have hmem : isolationMemberOid c p = oid := by
        rw [hcp.1, hcp.2]
        exact (congrArg (fun o => isolationMemberOid oid.lchip o.value) hid).trans hid.symm
      rw [if_pos hcp, if_pos hmem]
      rfl
    have hne : isolationMemberOid c p ≠ oid := by
      rintro rfl
      exact hcp ⟨(lchip_isolationMemberOid c p).symm, rfl⟩
    rw [if_neg hcp, if_neg hne]
    exact h.isolated c p

/-- One call. -/
theorem isolationStep_inv (h : IsolationInv db) {op : IsolationOp} (hop : IsolationAssumed op)
    (hsafe : IsolationSafe db op) {db' : IsolationDb A} (hst : isolationStep db op = some db') :
    IsolationInv db' := by
  cases op with
  | createGroup sdk c attrs =>
    cases hst
    unfold createIsolationGroup
    split
    · exact h
    split
    · exact h
    split
    · exact h
    next i pool ha =>
    have hback : IsolationInv { db with pool := update db.pool c (pool.free i) } := by
      obtain ⟨hfree, -, -, hused, -⟩ := Pool.alloc_some ha
      refine h.setPool fun c' => ?_
      rw [update_apply]
      split
      · next hc => rw [Pool.used_free, hused, hc, Finset.erase_insert hfree]
      · rfl
    dsimp only
    split
    · exact hback
    split
    · exact hback
    · split
      · exact h.addGroup ha _
      · exact hback
  | removeGroup sdk oid =>
    cases hst
    unfold removeIsolationGroup
    split
    · exact h
    next g hg =>
    have hempty := hsafe g hg
    have hok : mappingErrorCtc sdk.setIsolation = .success :=
      mappingErrorCtc_eq_success.mpr hop.1
    dsimp only
    rw [if_pos hok, hempty, List.toFinset_nil, Finset.union_empty]
    exact h.dropGroup hg hempty
  | createMember sdk c attrs =>
    cases hst
    unfold createIsolationMember
    split
    · next grp port hgrp hport =>
      split
      · exact h
      split
      · exact h
      split
      · exact h
      dsimp only
      split
      · exact h
      next hnew =>
      split
      · exact h
      split
      · exact h
      next g hg =>
      obtain ⟨hc, hg⟩ := group_eq_some hg
      split
      · exact h
      split
      · refine h.addMember hg hc ?_
        exact Option.not_isSome_iff_eq_none.mp hnew
      · exact h
    · exact h
  | removeMember sdk oid =>
    unfold isolationStep removeIsolationMember at hst
    dsimp only at hst
    split at hst
    · cases hst; exact h
    next m hm =>
    split at hst
    · cases hst
    split at hst
    · cases hst; exact h
    next g hg =>
    have hok : mappingErrorCtc sdk.setRestriction = .success :=
      mappingErrorCtc_eq_success.mpr hop.2
    cases hst
    rw [if_pos hok]
    exact h.dropMember hm (group_eq_some hg).2

theorem createIsolationMember_new {sdk : IsolationSdk} {attrs : List IsolationAttr}
    (hok : (createIsolationMember sdk db c attrs).1 = .success)
    (hid : (createIsolationMember sdk db c attrs).2.1 = some oid) :
    db.members.lookup oid = none := by
  generalize hr : createIsolationMember sdk db c attrs = r at hok hid
  unfold createIsolationMember at hr
  split at hr
  · split at hr
    · subst hr; cases hok
    · split at hr
      · subst hr; cases hok
      · split at hr
        · subst hr; cases hok
        · dsimp only at hr
          split at hr
          · subst hr; cases hok
          next hnew =>
          split at hr
          · subst hr; cases hok
          split at hr
          · subst hr; cases hok
          split at hr
          · subst hr; cases hok
          split at hr
          · subst hr
            cases hid
            exact Option.not_isSome_iff_eq_none.mp hnew
          · next hne =>
            subst hr
            exact absurd hok hne
  · subst hr; cases hok

theorem IsolationStart.inv (h : IsolationStart db) : IsolationInv db := by
  obtain ⟨hg, hm, hf, -, -, hi⟩ := h
  refine ⟨hf, ?_, ?_, ?_, ?_, ?_, ?_, ?_, ?_⟩
  all_goals simp [hg, hm, hi, AList.lookup_empty]

/-- What the invariant says of lists, members and hardware. -/
theorem IsolationInv.ok (h : IsolationInv db) : IsolationOk db := by
  have hfreed : ∀ o, o ∉ db.freed := fun o => by simp [h.freed]
  refine ⟨fun o m hm => ?_, h.once, fun grp g hg n hn => ⟨h.nodes grp g hg n hn, hfreed n⟩,
    fun o m hm => ⟨by simp [hm], hfreed o⟩, fun o m hm => ?_, fun c p hno => ?_, ?_, ?_⟩
  · obtain ⟨g, hg⟩ := Option.isSome_iff_exists.mp (h.named o m hm)
    exact ⟨⟨g, hg⟩, h.on_list o m hm⟩
  · obtain ⟨g, hg⟩ := Option.isSome_iff_exists.mp (h.named o m hm)
    refine ⟨g, hg, ?_⟩
    have hid := (h.member_id o m hm).1
    rw [h.isolated, ← hid, hm]
    exact congrArg Oid.value (h.group_id _ g hg).1
  · cases hm : db.members.lookup (isolationMemberOid c p) with
    | none => rw [h.isolated, hm]; rfl
    | some m =>
      have hp : p = m.portId.value := congrArg Oid.value (h.member_id _ m hm).1
      exact absurd hp.symm (hno _ m hm (lchip_isolationMemberOid c p))
  · intro sdk c attrs oid hok hid hlive
    have hnone := createIsolationMember_new hok hid
    have hsome := hlive.1
    rw [hnone] at hsome
    cases hsome
  · intro grp g hg k
    have hlt := IsolationIds.lt_of_mem (h.group_id grp g hg).2
    rw [h.mask grp g hg]
    refine (BitVec.getLsbD_twoPow g.istGrpId.toNat k).trans ?_
    rw [decide_eq_true hlt]
    exact decide_eq_decide.mpr eq_comm

end Inv

/-- In a run that removes empty groups only, each member is on the list of
exactly its group, each node is a live member, and the isolation ids and masks
are those of the groups. -/
theorem isolation_of_run {db : IsolationDb A} (h : Reachable IsolationStart
    (fun db op => IsolationAssumed op ∧ IsolationSafe db op) isolationStep db) :
    IsolationOk db := by
  have hi : IsolationInv db := Reachable.inv (fun _ hs => hs.inv)
    (fun _ _ _ hs hop hst => isolationStep_inv hs hop.1 hop.2 hst) h
  exact hi.ok

/-! ## Two runs -/

def IsolationIds.firstFit : IsolationIds := ⟨.firstFit 1 31, rfl, rfl⟩

def IsolationDb.empty : IsolationDb .firstFit :=
  ⟨∅, ∅, ∅, fun _ => .empty _, fun _ _ => 0, fun _ _ => 0⟩

theorem IsolationDb.empty_start : IsolationStart IsolationDb.empty :=
  ⟨rfl, rfl, rfl, fun _ => rfl, fun _ _ => rfl, fun _ _ => rfl⟩

/-- The SDK and the memory that give all they are asked for. -/
def IsolationSdk.ok : IsolationSdk := ⟨.none, .none, fun _ => true⟩

theorem IsolationSdk.ok_succeeds : IsolationSdk.ok.Succeeds := ⟨rfl, rfl⟩

/-- The group that a first creation on chip 0 makes. -/
def firstIsolationGroup : Oid := isolationGroupOid 0 1

/-- Port 5 of chip 0 becomes a member of it. -/
def isolateFifth : IsolationOp :=
  .createMember .ok 0 [.groupId firstIsolationGroup, .object (createObjectId .port 0 0 0 5)]

/-- A group with one member. -/
theorem isolation_of_run_one : ∃ db : IsolationDb .firstFit, IsolationOk db ∧
    db.isolatedId 0 5 = 1 ∧ db.pbm 0 1 = 2 := by
  have r₀ : Reachable IsolationStart (fun db op => IsolationAssumed op ∧ IsolationSafe db op)
      isolationStep IsolationDb.empty := .start IsolationDb.empty_start
  have r₁ := r₀.next (.createGroup .ok 0 [.type isolationTypePort])
    (by exact ⟨IsolationSdk.ok_succeeds, trivial⟩) rfl
  have r₂ := r₁.next isolateFifth (by exact ⟨IsolationSdk.ok_succeeds, trivial⟩) rfl
  exact ⟨_, isolation_of_run r₂, by decide, by decide⟩

/-- A group is removed while it has a member. -/
theorem isolation_not_every_run : ¬ ∀ (A : IsolationIds) (db : IsolationDb A),
    Reachable IsolationStart (fun _ op => IsolationAssumed op) isolationStep db →
      IsolationOk db := by
  intro h
  have r₀ : Reachable IsolationStart (fun _ op => IsolationAssumed op) isolationStep
      IsolationDb.empty := .start IsolationDb.empty_start
  have r₁ := r₀.next (.createGroup .ok 0 [.type isolationTypePort])
    (by exact IsolationSdk.ok_succeeds) rfl
  have r₂ := r₁.next isolateFifth (by exact IsolationSdk.ok_succeeds) rfl
  have r₃ := r₂.next (.removeGroup .ok firstIsolationGroup) (by exact IsolationSdk.ok_succeeds) rfl
  have hlive := ((h _ _ r₃).live (isolationMemberOid 0 5) _ rfl).2
  revert hlive
  decide

end CtcSai
