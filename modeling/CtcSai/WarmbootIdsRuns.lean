/-
# `WarmbootIdsRuns` — every id has its holder in every run

Calls on neighbors, next hops and next-hop groups, under an SDK that may
fail.  The ledgers of the five pools stay balanced through a run, as long as
no call loses an id (`PoolSafe`); with `reload_restores` the ids then survive
a reload.  Besides, the calls are kept from the two kinds of records that a
reload gets wrong: an ECMP group where APS id 0 is free, and a next hop in a
tunnel with a tunnel id of its own.
-/
import CtcSai.WarmbootLedger

namespace CtcSai

open IdPool KeyedTable Runs Table

variable {ch : Chip} {σ : Type}

/-! ## The system -/

/-- The calls on neighbors, next hops and groups, with what the SDK answers,
and any change outside them. -/
inductive PoolCall (ch : Chip) (σ : Type) where
  | createNeighbor (sdk : Sdk) (rif : Oid) (ip : IpAddress) (attrs : List NeighborAttr)
  | removeNeighbor (sdk : Sdk) (rif : Oid) (ip : IpAddress)
  | removeAllNeighbor (sdk : Sdk)
  | setNeighborAttr (sdk : Sdk) (rif : Oid) (ip : IpAddress) (attr : NeighborAttr)
  | createNextHop (sdk : Sdk) (raw : NextHopAttr → Oid) (attrs : List NextHopAttr)
  | removeNextHop (sdk : Sdk) (oid : Oid)
  | group (op : GroupOp)
  | other (ctr : CounterDb ch) (tunnels : Table Oid Tunnel) (others : Oid → Bool) (hw : σ)

def poolStep (m : GroupSdk σ) (db : GroupDb ch σ) : PoolCall ch σ → Option (GroupDb ch σ)
  | .createNeighbor sdk rif ip attrs =>
    some (db.withNbr (createNeighbor sdk db.hop.nbr rif ip attrs).2)
  | .removeNeighbor sdk rif ip => some (db.withNbr (removeNeighbor sdk db.hop.nbr rif ip).2)
  | .removeAllNeighbor sdk => some (db.withNbr (removeAllNeighbor sdk db.hop.nbr).2)
  | .setNeighborAttr sdk rif ip attr =>
    some (db.withNbr (setNeighborAttr sdk db.hop.nbr rif ip attr).2)
  | .createNextHop sdk raw attrs =>
    (createNextHop raw sdk db.hop attrs).map fun r => db.withHop r.2.2
  | .removeNextHop sdk oid => (removeNextHop sdk db.hop oid).map fun r => db.withHop r.2
  | .group op => (groupStep m ⟨db, fun _ => Oid.null⟩ op).map GroupState.db
  | .other ctr tunnels others hw =>
    some { db.withHop { db.hop with ctr := ctr, tunnels := tunnels, others := others } with hw := hw }

/-- The start: no record, and no id in use. -/
structure GroupDb.NoIds (db : GroupDb ch σ) : Prop where
  neighbors : db.hop.nbr.table = ∅
  nextHops : db.hop.nextHops = ∅
  groups : db.groups = ∅
  members : db.members = ∅
  pools : ∀ t, db.idPools t = .empty _

/-! ## The condition -/

/-- An ECMP group gets its counter, and where it comes to be, APS id 0 is in
use. -/
def CreateGroupSafe (m : GroupSdk σ) (sdk : Sdk) (db : GroupDb ch σ) (attrs : List GroupAttr) :
    Prop :=
  findAttribInList GroupAttr.type? attrs = some .ecmp → ∀ nhId pool,
    db.hop.nbr.nexthop.alloc = some (nhId, pool) →
    (counterCreateIf sdk { db.hop with nbr := { db.hop.nbr with nexthop := pool } } true
      ((findAttribInList GroupAttr.counterId? attrs).getD Oid.null) .ecmp).1 = .success ∧
    (mappingErrorCtc (m.call (.nhAddEcmp nhId m.dropNhId) db.hw).1 = .success →
      sdk.mem .nextHopGroup = true → sdk.mem .oidNode = true → 0 ∈ db.aps.used)

/-- No call loses an id, and every record will ask for what it holds. -/
def PoolSafe (m : GroupSdk σ) (db : GroupDb ch σ) : PoolCall ch σ → Prop
  | .createNeighbor sdk rif ip attrs => CreateNeighborSafe sdk db.hop.nbr rif ip attrs
  | .removeNeighbor sdk rif ip => RemoveNeighborSafe sdk db.hop.nbr rif ip
  | .removeAllNeighbor sdk => RemoveAllSafe sdk db.hop.nbr.table.keys db.hop.nbr
  | .setNeighborAttr sdk rif ip attr => SetNeighborSafe sdk db.hop.nbr rif ip attr
  | .createNextHop sdk raw attrs => CreateHopSafe raw sdk db.hop attrs
  | .removeNextHop sdk oid => RemoveHopSafe sdk db.hop oid
  | .group (.createGroup sdk attrs) => CreateGroupSafe m sdk db attrs
  | .group (.removeGroup _ oid) => RemoveGroupSafe db oid
  | .group _ | .other .. => True

/-! ## Next hops -/

theorem GroupDb.NoIds.inv {db : GroupDb ch σ} (h : db.NoIds) : IdsInv db where
  accounted t := by
    have hhold : db.hold t = fun _ => none := by
      funext x
      cases x with
      | neighbor k =>
        have hl : db.hop.nbr.table.lookup k = none := by rw [h.neighbors]; rfl
        cases t <;> first | rfl | (show (db.hop.nbr.table.lookup k).bind _ = _; rw [hl]; rfl)
      | nextHop o =>
        have hl : db.hop.nextHops.lookup o = none := by rw [h.nextHops]; rfl
        cases t <;> first | rfl | (show (db.hop.nextHops.lookup o).bind _ = _; rw [hl]; rfl)
      | group o =>
        have hl : db.groups.lookup o = none := by rw [h.groups]; rfl
        cases t <;> first
          | rfl
          | (show (db.groups.lookup o).bind _ = _; rw [hl]; rfl)
          | (show (db.groups.lookup o).map _ = _; rw [hl]; rfl)
      | member o =>
        have hl : db.members.lookup o = none := by rw [h.members]; rfl
        cases t <;> first | rfl | (show (db.members.lookup o).map _ = _; rw [hl]; rfl)
    rw [hhold, h.pools t]
    exact .empty
  placed k p hp := by
    rw [NeighborDb.record_eq, h.neighbors] at hp
    cases hp
  reloadable := by
    refine ⟨fun o nh hl => ?_, fun grp g hg => ?_⟩
    · rw [h.nextHops] at hl; cases hl
    · rw [h.groups] at hg; cases hg

section Calls

variable {db : GroupDb ch σ}
variable {sdk : Sdk} {r : Status × GroupDb ch σ} {oid : Oid} {nhId i : Nat} {md : GroupDb ch σ}

theorem IdsInv.createNhIp (h : IdsInv db) {nh : NextHop} (h0 : nh.ctcMplsTunnelId = 0)
    (hsafe : CreateIpSafe sdk db.hop nh) :
    IdsInv (db.withHop (createNhIp sdk db.hop nh).2.2) := by
  have halloc := neighborAllocIpucNexthop_rewrote h.placed hsafe.1
  unfold CtcSai.createNhIp
  split
  · next nhId nbr hal =>
    rw [hal] at halloc
    have hrec : IdsInv (db.withHop { db.hop with nbr := nbr }) := h.rewrote halloc rfl rfl
    dsimp only
    split
    · next hop hadd =>
      obtain ⟨_, rfl⟩ := nextHopAddObject_some hadd
      exact hrec.ipHop (subType_nextHopOid_bits .ip nhId) rfl (get_insert ..) h0 rfl
    next hadd =>
    -- the record lets go of the next hop again
    have hfree := neighborFreeIpucNexthop_rewrote hrec.placed (hsafe.2 nhId nbr hal hadd)
    exact hrec.rewrote hfree rfl rfl
  · next status nhId nbr hne hal =>
    rw [hal] at halloc
    exact h.rewrote halloc rfl rfl

theorem IdsInv.createNextHop (h : IdsInv db) {raw : NextHopAttr → Oid} {attrs : List NextHopAttr}
    (hsafe : CreateHopSafe raw sdk db.hop attrs) {r : CreateResult ch}
    (hr : createNextHop raw sdk db.hop attrs = some r) :
    IdsInv (db.withHop r.2.2) := by
  cases createNextHop_end hr with
  | refused => exact h
  | ip hadm ht =>
    have hs := hsafe hadm.1 hadm.2
    rw [ht] at hs
    exact h.createNhIp rfl hs
  | full _ ht htype | locked _ ht htype | made _ ht htype =>
    refine h.hopStep (createNextHop_step hsafe ?_ hr)
    rw [ht]
    rcases htype with rfl | rfl <;> decide

theorem IdsInv.removeNextHop (h : IdsInv db) (hsafe : RemoveHopSafe sdk db.hop oid)
    {r : Status × NextHopDb ch} (hr : removeNextHop sdk db.hop oid = some r) :
    IdsInv (db.withHop r.2) := by
  by_cases hip : oid.subType = NextHopType.ip.bits
  · unfold CtcSai.removeNextHop at hr
    split at hr
    · cases hr; exact h
    next nh hl =>
    have hs := hsafe nh hl
    rw [if_pos hip] at hs
    rw [if_pos hip] at hr
    cases hr
    have hfree := neighborFreeIpucNexthop_rewrote h.placed hs
    have hrec : IdsInv (db.withHop { db.hop with nbr := (neighborFreeIpucNexthop sdk
        db.hop.nbr nh.rifId nh.ipAddress oid.value.toNat).2 }) := h.rewrote hfree rfl rfl
    exact hrec.ipHop hip rfl (get_erase ..) rfl rfl
  · exact h.hopStep (removeNextHop_step hip hsafe hr)

/-! ## Groups -/

/-- What `create` of a group has taken before the group is stored. -/
structure GroupDrawn (db m : GroupDb ch σ) (nhId : Nat) : Prop where
  hop : HopsSame db.hop m.hop
  lt : nhId < 2 ^ 32
  fresh : nhId ∉ db.hop.nbr.nexthop.used
  nexthop : m.hop.nbr.nexthop.used = insert nhId db.hop.nbr.nexthop.used
  groups : m.groups = db.groups
  members : m.members = db.members
  nexthopMember : m.nexthopMember = db.nexthopMember

theorem groupDrawn_alloc {pool : Pool ch.nexthop}
    (hal : db.hop.nbr.nexthop.alloc = some (nhId, pool)) :
    GroupDrawn db (db.withNbr { db.hop.nbr with nexthop := pool }) nhId := by
  obtain ⟨hf, _, _, hu, _⟩ := Pool.alloc_some hal
  have hin : nhId ∈ pool.used := by rw [hu]; exact Finset.mem_insert_self _ _
  exact ⟨⟨.ofNexthop _ _, rfl, rfl⟩, ch.nexthop_lt hin, hf, hu, rfl, rfl, rfl⟩

theorem createGrpError1_inv (h : IdsInv db) {m : GroupDb ch σ} (sdk : Sdk) (t : NextHopGroupType)
    (counterOid : Oid) (hd : GroupDrawn db m nhId) (haps : m.aps.used = db.aps.used) :
    IdsInv (createGrpError1 sdk m t counterOid nhId) := by
  have hback : m.hop.nbr.nexthop.used.erase nhId = db.hop.nbr.nexthop.used := by
    rw [hd.nexthop, Finset.erase_insert hd.fresh]
  have hkeep : ∀ ctr, IdsInv ((m.withCtr ctr).freeNexthop nhId) := fun ctr =>
    h.groupsSame ⟨hd.hop.nbr.trans (.ofNexthop _ _), hd.hop.nextHops, hd.hop.tunnelId⟩ hback
      ⟨fun o => by rw [← hd.groups]; rfl, fun o => by rw [← hd.members]; rfl,
        congrArg Pool.used hd.nexthopMember, haps⟩
  unfold createGrpError1
  split
  · exact hkeep _
  · exact hkeep m.hop.ctr

theorem createGrpFinish_inv (h : IdsInv db) (m : GroupSdk σ) {aps : Nat} {t : NextHopGroupType}
    (counterOid : Oid) (hd : GroupDrawn db md nhId) (hecmp : t = .ecmp → md.aps = db.aps ∧ aps = 0 ∧
      (sdk.mem .nextHopGroup = true → sdk.mem .oidNode = true → 0 ∈ db.aps.used))
    (hprot : t = .protection → aps < 2 ^ 16 ∧ aps ∉ db.aps.used ∧
      md.aps.used = insert aps db.aps.used) :
    IdsInv (createGrpFinish m sdk md t counterOid nhId aps).2.2 := by
  have hundo : IdsInv (createGrpError2 m sdk md t counterOid nhId aps) := by
    cases t with
    | ecmp =>
      exact createGrpError1_inv h sdk .ecmp counterOid
        ⟨hd.hop, hd.lt, hd.fresh, hd.nexthop, hd.groups, hd.members, hd.nexthopMember⟩
        (congrArg Pool.used (hecmp rfl).1)
    | protection =>
      refine createGrpError1_inv h sdk .protection counterOid
        ⟨hd.hop, hd.lt, hd.fresh, hd.nexthop, hd.groups, hd.members, hd.nexthopMember⟩ ?_
      show md.aps.used.erase aps = _
      rw [(hprot rfl).2.2, Finset.erase_insert (hprot rfl).2.1]
  unfold createGrpFinish
  dsimp only
  split
  · exact hundo
  next hgrp =>
  split
  · exact hundo
  next hnone =>
  split
  · exact hundo
  next hnode =>
  rw [Bool.not_eq_true', Bool.not_eq_false] at hgrp hnode
  rw [Option.not_isSome_iff_eq_none, hd.groups] at hnone
  refine h.groupCame (g := ⟨Oid.null, Oid.null, counterOid⟩) hd.hop hd.lt hd.fresh
    hd.nexthop hnone ?_ hd.members hd.nexthopMember ?_
  · show Table.get (md.groups.insert _ _) = _
    rw [get_insert, hd.groups]
  · cases t with
    | ecmp =>
      exact ⟨(hecmp rfl).2.1, congrArg Pool.used (hecmp rfl).1, (hecmp rfl).2.2 hgrp hnode⟩
    | protection => exact hprot rfl

theorem IdsInv.createNextHopGroup (h : IdsInv db) (m : GroupSdk σ) {attrs : List GroupAttr}
    (hsafe : CreateGroupSafe m sdk db attrs) :
    IdsInv (createNextHopGroup m sdk db attrs).2.2 := by
  unfold CtcSai.createNextHopGroup
  split
  · exact h
  next t htype =>
  split
  · exact h
  next nhId pool hal =>
  have hdrawn : GroupDrawn db (db.withNbr { db.hop.nbr with nexthop := pool }) nhId :=
    groupDrawn_alloc hal
  cases t with
  | ecmp =>
    obtain ⟨hctr, hzero⟩ := hsafe htype nhId pool hal
    dsimp only
    obtain ⟨ctr, hsame, _⟩ := counterCreateIf_same sdk { db.hop with
      nbr := { db.hop.nbr with nexthop := pool } } true
      ((findAttribInList GroupAttr.counterId? attrs).getD Oid.null) .ecmp
    have hd : ∀ hw : σ, GroupDrawn db { db with
        hop := { db.hop with nbr := { db.hop.nbr with nexthop := pool }, ctr := ctr },
        hw := hw } nhId := fun hw =>
      ⟨⟨.ofNexthop _ _, rfl, rfl⟩, hdrawn.lt, hdrawn.fresh, hdrawn.nexthop, rfl, rfl, rfl⟩
    split
    · next hop heq =>
      rw [heq] at hsame
      cases hsame
      split
      · next hadd =>
        exact createGrpFinish_inv h m _ (hd _) (fun _ => ⟨rfl, rfl, hzero hadd⟩) nofun
      · exact createGrpError1_inv h sdk .ecmp _ (hd _) rfl
    · next hne heq =>
      rw [heq] at hctr
      exact absurd hctr hne
  | protection =>
    dsimp only
    split
    · exact createGrpError1_inv h sdk .protection _ hdrawn rfl
    next aps apsPool hapsAl =>
    obtain ⟨hf, _, hlt, hu, _⟩ := Pool.alloc_some hapsAl
    refine createGrpFinish_inv h m _
      ⟨hdrawn.hop, hdrawn.lt, hdrawn.fresh, hdrawn.nexthop, rfl, rfl, rfl⟩ nofun
      (fun _ => ⟨Nat.lt_of_lt_of_le hlt ch.aps_top, hf, hu⟩)

theorem IdsInv.removeNextHopGroup (h : IdsInv db) (m : GroupSdk σ) (hsafe : RemoveGroupSafe db oid)
    (hr : removeNextHopGroup m sdk db oid = some r) : IdsInv r.2 := by
  unfold CtcSai.removeNextHopGroup at hr
  split at hr
  · split at hr
    · cases hr
    · cases hr; exact h
  next g hl =>
  have hkeep : ∀ (hw : σ) (ctr : CounterDb ch),
      IdsInv ({ db with hw := hw } : GroupDb ch σ) ∧
        IdsInv (GroupDb.withCtr { db with hw := hw } ctr) := fun hw ctr =>
    ⟨h.groupsSame (.refl _) rfl ⟨fun _ => rfl, fun _ => rfl, rfl, rfl⟩,
      h.groupsSame ⟨.refl _, rfl, rfl⟩ rfl ⟨fun _ => rfl, fun _ => rfl, rfl, rfl⟩⟩
  have hgone : ∀ (md : GroupDb ch σ), HopsSame db.hop md.hop → md.hop.nbr.nexthop =
      db.hop.nbr.nexthop → md.groups = db.groups → md.members = db.members →
      md.nexthopMember = db.nexthopMember →
      md.aps.used = (if oid.subType = NextHopGroupType.protection.bits then
        db.aps.used.erase oid.value2.toNat else db.aps.used) →
      IdsInv (removeGrpFinish md oid) := by
    intro md hhop hpool hg hmem hmp haps
    refine h.groupWent hl hsafe ⟨hhop.nbr.trans (.ofNexthop _ _), hhop.nextHops, hhop.tunnelId⟩
      ?_ ?_ hmem hmp haps
    · show (md.hop.nbr.nexthop.free _).used = _
      rw [hpool, Pool.used_free]
    · show Table.get (md.groups.erase oid) = _
      rw [get_erase, hg]
  split at hr
  · next hecmp =>
    have hne : oid.subType ≠ NextHopGroupType.protection.bits := by
      rw [hecmp]
      exact NextHopGroupType.bits_ne
    have haps : db.aps.used = if oid.subType = NextHopGroupType.protection.bits then
        db.aps.used.erase oid.value2.toNat else db.aps.used := (if_neg hne).symm
    dsimp only at hr
    split at hr
    · cases hr
      exact (hkeep _ db.hop.ctr).1
    split at hr
    · cases hr
      exact hgone _ (.refl _) rfl rfl rfl rfl haps
    split at hr
    · cases hr
      exact hgone _ ⟨.refl _, rfl, rfl⟩ rfl rfl rfl rfl haps
    · cases hr
      exact (hkeep _ _).2
  · split at hr
    · next hprot =>
      cases hr
      exact hgone _ (.refl _) rfl rfl rfl rfl (if_pos hprot).symm
    · next hprot =>
      cases hr
      exact hgone _ (.refl _) rfl rfl rfl rfl (if_neg hprot).symm

/-! ## Members -/

/-- What `create` of a member has done before the member is stored: its id is
taken, and a slot of a group may be set. -/
structure MemberDrawn (db md : GroupDb ch σ) (i : Nat) : Prop where
  hop : md.hop = db.hop
  groups : ∀ o, (md.groups.lookup o).isSome = (db.groups.lookup o).isSome
  members : md.members = db.members
  aps : md.aps = db.aps
  fresh : i ∉ db.nexthopMember.used
  lt : i < 2 ^ 16
  used : md.nexthopMember.used = insert i db.nexthopMember.used

theorem MemberDrawn.freed (h : IdsInv db) (hd : MemberDrawn db md i) :
    IdsInv (md.freeMember i) := by
  have hhop : HopsSame db.hop md.hop := by rw [hd.hop]; exact .refl _
  refine h.groupsSame hhop ?_ ⟨hd.groups, fun o => ?_, ?_, congrArg Pool.used hd.aps⟩
  · show md.hop.nbr.nexthop.used = _
    rw [hd.hop]
  · show (md.members.lookup o).isSome = _
    rw [hd.members]
  · show md.nexthopMember.used.erase i = _
    rw [hd.used, Finset.erase_insert hd.fresh]

theorem MemberDrawn.stored (h : IdsInv db) {md : GroupDb ch σ} {i : Nat} (hd : MemberDrawn db md i)
    {sdk : Sdk} {w : Bool} {nhId : BitVec 32} (r : NextHopGrpMember)
    (hok : memberStored sdk md (memberOid ch.lchip w i nhId) = .success) :
    IdsInv { md with members := md.members.insert (memberOid ch.lchip w i nhId) r } := by
  have hnone : md.members.lookup (memberOid ch.lchip w i nhId) = none := by
    unfold memberStored at hok
    split at hok
    · cases hok
    · next hno => exact Option.not_isSome_iff_eq_none.mp hno
  rw [hd.members] at hnone
  exact h.memberCame hd.hop hd.groups hd.aps hnone (by rw [hd.members]) (value2_memberOid hd.lt)
    hd.fresh hd.used

theorem createEcmpMember_inv (h : IdsInv db) (m : GroupSdk σ) (hd : MemberDrawn db md i) (grp : Oid)
    (nhId : BitVec 32) :
    IdsInv (createEcmpMember m sdk md grp nhId i).2.2 := by
  have hrun : ∀ hw : σ, MemberDrawn db { md with hw := hw } i := fun _ =>
    ⟨hd.hop, hd.groups, hd.members, hd.aps, hd.fresh, hd.lt, hd.used⟩
  unfold createEcmpMember
  dsimp only
  split
  · exact (hrun _).freed h
  · split
    · next hok => exact (hrun _).stored h _ hok
    · exact (hrun _).freed h

theorem createAltFinish_inv (h : IdsInv db) (m : GroupSdk σ) (hd : MemberDrawn db md i) {grp : Oid}
    (hl : (md.groups.lookup grp).isSome) (g : NextHopGrp) (role : MemberRole) (nhId : BitVec 32) :
    IdsInv (createAltFinish m sdk md grp g role nhId i).2.2 := by
  have hset : ∀ hw : σ, MemberDrawn db { md.setGroup grp g with hw := hw } i := by
    intro hw
    refine ⟨hd.hop, fun o => ?_, hd.members, hd.aps, hd.fresh, hd.lt, hd.used⟩
    rw [← hd.groups o]
    show ((md.groups.insert grp g).lookup o).isSome = _
    rw [lookup_insert_ite]
    split
    · next ho => rw [ho, hl]; rfl
    · rfl
  unfold createAltFinish
  dsimp only
  split
  · next hok => exact (hset md.hw).stored h _ hok
  split
  · unfold removeApsNh
    split
    · exact (hset _).freed h
    · exact (hset _).freed h
  · exact (hset md.hw).freed h

theorem createApsNh_hw {m : GroupSdk σ} {aps : Nat} {w p : Oid}
    (hr : createApsNh m md aps nhId w p = some r) :
    ∃ hw, r.2 = { md with hw := hw } := by
  have hadd : ∀ (md : GroupDb ch σ) (b : BitVec 3) (w p : NextHop),
      ∃ hw, (createApsNhAdd m md aps nhId b w p).2 = { md with hw := hw } := by
    intro md b w p
    unfold createApsNhAdd
    dsimp only
    split
    · split <;> exact ⟨_, rfl⟩
    split
    · split
      · exact ⟨_, rfl⟩
      · split <;> exact ⟨_, rfl⟩
    · exact ⟨md.hw, rfl⟩
  unfold createApsNh at hr
  split at hr
  · cases hr; exact ⟨md.hw, rfl⟩
  split at hr
  · cases hr; exact ⟨md.hw, rfl⟩
  split at hr
  · cases hr
  · cases hr; exact ⟨md.hw, rfl⟩
  split at hr
  · cases hr
  · cases hr; exact ⟨md.hw, rfl⟩
  dsimp only at hr
  split at hr
  · cases hr
    obtain ⟨hw, he⟩ := hadd (md.run m _).2 w.subType _ _
    exact ⟨hw, he⟩
  · cases hr; exact ⟨_, rfl⟩

theorem IdsInv.createMember (h : IdsInv db) (m : GroupSdk σ) {attrs : List MemberAttr}
    {r : MemberResult ch σ} (hr : createMember m sdk db attrs = some r) : IdsInv r.2.2 := by
  unfold CtcSai.createMember at hr
  split at hr
  · cases hr; exact h
  next grp hgrp =>
  split at hr
  · split at hr
    · cases hr
    · cases hr; exact h
  next g hl =>
  split at hr
  · cases hr; exact h
  next nhOid hnh =>
  split at hr
  · cases hr; exact h
  split at hr
  · cases hr; exact h
  next i pool hal =>
  obtain ⟨hf, _, hlt, hu, _⟩ := Pool.alloc_some hal
  have hd : ∀ hw : σ, MemberDrawn db { db with nexthopMember := pool, hw := hw } i :=
    fun _ => ⟨rfl, fun _ => rfl, rfl, rfl, hf, Nat.lt_of_lt_of_le hlt ch.nexthopMember_top, hu⟩
  have hsome : (db.groups.lookup grp).isSome := by rw [hl]; rfl
  split at hr
  · cases hr
    exact createEcmpMember_inv h m (hd db.hw) grp _
  unfold createAltMember at hr
  split at hr
  · cases hr
    exact (hd db.hw).freed h
  dsimp only at hr
  split at hr
  · split at hr
    · cases hr
    · next md haps =>
      obtain ⟨hw, he⟩ := createApsNh_hw haps
      cases hr
      rw [show md = _ from he]
      exact createAltFinish_inv h m (hd hw) hsome _ _ _
    · next st md hne haps =>
      obtain ⟨hw, he⟩ := createApsNh_hw haps
      cases hr
      rw [show md = _ from he]
      exact (hd hw).freed h
  · cases hr
    exact createAltFinish_inv h m (hd db.hw) hsome _ _ _

theorem IdsInv.removeMember (h : IdsInv db) (m : GroupSdk σ) (hr : removeMember m db oid = some r) :
    IdsInv r.2 := by
  unfold CtcSai.removeMember at hr
  split at hr
  · split at hr
    · cases hr
    · cases hr; exact h
  next x hx =>
  split at hr
  · cases hr; exact h
  next g hg =>
  have hgone : ∀ (groups : Table Oid NextHopGrp) (hw : σ),
      (∀ o, (groups.lookup o).isSome = (db.groups.lookup o).isSome) →
      IdsInv (removeMemberFinish { db with groups := groups, hw := hw } oid) :=
    fun groups hw hsame => h.memberWent hx rfl hsame rfl rfl rfl
  split at hr
  · dsimp only at hr
    split at hr
    · cases hr
      exact hgone db.groups _ fun _ => rfl
    split at hr
    · cases hr
      exact hgone db.groups _ fun _ => rfl
    · cases hr
      exact h.groupsSame (.refl _) rfl ⟨fun _ => rfl, fun _ => rfl, rfl, rfl⟩
  cases hr
  have hset : ∀ g', ∀ o, ((db.groups.insert x.nhGrpOid g').lookup o).isSome =
      (db.groups.lookup o).isSome := by
    intro g' o
    rw [lookup_insert_ite]
    split
    · next ho => rw [ho, hg]; rfl
    · rfl
  unfold removeAltMember
  dsimp only
  split
  · unfold removeApsNh
    split
    · exact hgone _ _ (hset _)
    · exact hgone _ _ (hset _)
  · exact hgone _ db.hw (hset _)

end Calls

/-! ## Runs -/

section Runs

variable {m : GroupSdk σ} {db db' : GroupDb ch σ}

theorem groupStep_idsInv (h : IdsInv db) {op : GroupOp} (hsafe : PoolSafe m db (.group op))
    {given : Oid → Oid} {s : GroupState ch σ} (hst : groupStep m ⟨db, given⟩ op = some s) :
    IdsInv s.db := by
  have hcreate : ∀ (s : GroupState ch σ) (object : Sdk × List MemberAttr) r, IdsInv s.db →
      memberCreateStep m s object = some r → IdsInv r.2.2.db := by
    intro s object r hs hr
    obtain ⟨q, hq, rfl⟩ := Option.map_eq_some_iff.mp hr
    exact hs.createMember m hq
  have hremove : ∀ (s : GroupState ch σ) (oid : Oid) r, IdsInv s.db →
      memberRemoveStep m s oid = some r → IdsInv r.2.2.db := by
    intro s oid r hs hr
    obtain ⟨q, hq, rfl⟩ := Option.map_eq_some_iff.mp hr
    exact hs.removeMember m hq
  cases op with
  | createGroup sdk attrs =>
    cases hst
    exact h.createNextHopGroup m hsafe
  | removeGroup sdk oid =>
    obtain ⟨r, hr, rfl⟩ := Option.map_eq_some_iff.mp hst
    exact h.removeNextHopGroup m hsafe hr
  | createMember object =>
    obtain ⟨r, hr, rfl⟩ := Option.map_eq_some_iff.mp hst
    exact hcreate _ object r h hr
  | removeMember oid =>
    obtain ⟨r, hr, rfl⟩ := Option.map_eq_some_iff.mp hst
    exact hremove _ oid r h hr
  | bulkCreateMembers mode objects =>
    obtain ⟨r, hr, rfl⟩ := Option.map_eq_some_iff.mp hst
    have hall := @bulkLoop_inv _ _ _ (memberCreateStep m) mode (fun s => IdsInv s.db)
      (fun _ _ => True) (fun s a _ _ _ hs _ hq => hcreate s a _ hs hq)
    exact hall h (bulkAdmitted_true objects _) hr
  | bulkRemoveMembers mode oids =>
    obtain ⟨r, hr, rfl⟩ := Option.map_eq_some_iff.mp hst
    have hall := @bulkLoop_inv _ _ _ (memberRemoveStep m) mode (fun s => IdsInv s.db)
      (fun _ _ => True) (fun s a _ _ _ hs _ hq => hremove s a _ hs hq)
    exact hall h (bulkAdmitted_true oids _) hr

theorem poolStep_inv (h : IdsInv db) {call : PoolCall ch σ} (hsafe : PoolSafe m db call)
    (hst : poolStep m db call = some db') : IdsInv db' := by
  cases call with
  | createNeighbor sdk rif ip attrs =>
    cases hst
    exact h.rewrote (createNeighbor_rewrote h.placed hsafe) rfl rfl
  | removeNeighbor sdk rif ip =>
    cases hst
    exact h.rewrote (removeNeighbor_rewrote h.placed hsafe) rfl rfl
  | removeAllNeighbor sdk =>
    cases hst
    exact removeAllNeighbor_rewrote (I := fun nbr => IdsInv (db.withNbr nbr))
      (fun _ _ _ hI _ hw => hI.rewrote hw rfl rfl) h.placed h hsafe
  | setNeighborAttr sdk rif ip attr =>
    cases hst
    exact h.rewrote (setNeighborAttr_rewrote h.placed hsafe) rfl rfl
  | createNextHop sdk raw attrs =>
    obtain ⟨r, hr, rfl⟩ := Option.map_eq_some_iff.mp hst
    exact h.createNextHop hsafe hr
  | removeNextHop sdk oid =>
    obtain ⟨r, hr, rfl⟩ := Option.map_eq_some_iff.mp hst
    exact h.removeNextHop hsafe hr
  | group op =>
    obtain ⟨s, hs, rfl⟩ := Option.map_eq_some_iff.mp hst
    exact groupStep_idsInv h hsafe hs
  | other ctr tunnels others hw =>
    cases hst
    exact h.groupsSame ⟨.refl _, rfl, rfl⟩ rfl ⟨fun _ => rfl, fun _ => rfl, rfl, rfl⟩

/-- In a run that loses no id, a reload takes all ids again. -/
theorem idsSurvive_of_run (h : Reachable GroupDb.NoIds (PoolSafe m) (poolStep m) db) :
    IdsSurvive db := by
  have hinv : IdsInv db := h.inv (fun _ hs => hs.inv) fun _ _ _ hi hok hst => poolStep_inv hi hok hst
  exact reload_restores hinv.accounted hinv.reloadable

end Runs

theorem noIds_start (ch : Chip) : (GroupState.start ch).db.NoIds where
  neighbors := rfl
  nextHops := rfl
  groups := rfl
  members := rfl
  pools t := by cases t <;> rfl

/-- A PROTECTION group, then an ECMP group. -/
theorem idsSurvive_of_run_small : ∃ db : GroupDb Chip.small (Nat → Option Nat),
    IdsSurvive db ∧ db.groups.keys.length = 2 := by
  have r₀ : Reachable GroupDb.NoIds (PoolSafe GroupSdk.counting) (poolStep GroupSdk.counting)
      (GroupState.start Chip.small).db := .start (noIds_start _)
  have r₁ := r₀.next (.group (.createGroup .ok [.type .protection])) (by rintro ⟨⟩) rfl
  have r₂ := r₁.next (.group (.createGroup .ok [.type .ecmp]))
    (by intro _ nhId pool _; exact ⟨rfl, fun _ _ _ => by decide⟩) rfl
  exact ⟨_, idsSurvive_of_run r₂, by decide⟩

/-- What a run of the adapter may assume: the SDK does what it is asked. -/
def PoolAssumed (db : GroupDb ch σ) : PoolCall ch σ → Prop
  | .createNeighbor sdk .. | .removeNeighbor sdk .. | .removeAllNeighbor sdk
  | .setNeighborAttr sdk .. | .createNextHop sdk .. | .removeNextHop sdk _ => sdk.Succeeds
  | .group op => GroupAssumed ⟨db, fun _ => Oid.null⟩ op
  | .other .. => True

/-- An ECMP group takes APS id 0 at the reload. -/
theorem idsSurvive_not_every_run :
    ¬ ∀ (ch : Chip) (σ : Type) (m : GroupSdk σ) (db : GroupDb ch σ), m.Succeeds →
      Reachable GroupDb.NoIds PoolAssumed (poolStep m) db → IdsSurvive db := by
  intro h
  have r₀ : Reachable GroupDb.NoIds PoolAssumed (poolStep GroupSdk.counting)
      (GroupState.start Chip.small).db := .start (noIds_start _)
  have r₁ := r₀.next (.group (.createGroup .ok [.type .ecmp])) (by exact Sdk.ok_succeeds) rfl
  have haps := (h _ _ _ _ GroupSdk.counting_succeeds r₁ _ (List.Perm.refl _)).2 .aps
  revert haps
  decide

end CtcSai
