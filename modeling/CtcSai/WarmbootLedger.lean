/-
# `WarmbootLedger` — what a call does to the ledgers of ids

A call on neighbors, next hops or next-hop groups changes what at most one
record at a time holds (`Traded`), and that keeps the ledger of every pool
balanced.  `IdsInv` adds what a reload needs besides; there is one rule for
each way in which a record comes, changes or goes.
-/
import CtcSai.GroupMembers
import CtcSai.NextHopIds
import CtcSai.WarmbootIds

namespace CtcSai

open Function IdPool KeyedTable Ledger Ownership

variable {ch : Chip} {σ : Type}

/-! ## One holder at a time -/

/-- One holder traded its ids, and all others have what they had. -/
structure Traded (db db' : GroupDb ch σ) (x : Holder) : Prop where
  other : ∀ a, a ≠ x → ∀ t, db'.hold t a = db.hold t a
  trades : ∀ t, Trades (db.hold t x) (db'.hold t x) (db.idPools t).used (db'.idPools t).used

theorem GroupDb.Accounted.traded {db db' : GroupDb ch σ} {x : Holder} (h : db.Accounted)
    (ht : Traded db db' x) : db'.Accounted := fun t =>
  (h t).trade x (fun a ha => ht.other a ha t) (ht.trades t)

section Holders

variable {db db' : GroupDb ch σ}
variable {o : Oid}

theorem hold_neighbor_arp (db : GroupDb ch σ) (k : NeighborKey) :
    db.hold .arp (.neighbor k) = idAt (idOf Neighbor.arpId (db.hop.nbr.record k)) := by
  show (db.hop.nbr.record k).bind _ = _
  cases db.hop.nbr.record k <;> rfl

theorem hold_neighbor_nexthop (db : GroupDb ch σ) (k : NeighborKey) :
    db.hold .nexthop (.neighbor k) = idAt (idOf Neighbor.nhId (db.hop.nbr.record k)) := by
  show (db.hop.nbr.record k).bind _ = _
  cases db.hop.nbr.record k <;> rfl

theorem hold_nextHop_tunnelId (db : GroupDb ch σ) (o : Oid) : db.hold .tunnelId (.nextHop o) =
      idAt (idOf NextHop.ctcMplsTunnelId (db.hop.nextHops.lookup o)) := by
  show (db.hop.nextHops.lookup o).bind _ = _
  cases db.hop.nextHops.lookup o <;> rfl

theorem hold_neighbor {k : NeighborKey}
    (hnh : idOf Neighbor.nhId (db'.hop.nbr.record k) = idOf Neighbor.nhId (db.hop.nbr.record k))
    (harp : idOf Neighbor.arpId (db'.hop.nbr.record k) =
      idOf Neighbor.arpId (db.hop.nbr.record k)) (t : DbIdType) :
    db'.hold t (.neighbor k) = db.hold t (.neighbor k) := by
  cases t with
  | arp => rw [hold_neighbor_arp, hold_neighbor_arp, harp]
  | nexthop => rw [hold_neighbor_nexthop, hold_neighbor_nexthop, hnh]
  | nexthopMember => rfl
  | aps => rfl
  | tunnelId => rfl

theorem hold_nextHop (h : db'.hop.nextHops.lookup o = db.hop.nextHops.lookup o) (t : DbIdType) :
    db'.hold t (.nextHop o) = db.hold t (.nextHop o) := by
  cases t with
  | nexthop =>
    show (db'.hop.nextHops.lookup o).bind _ = _
    rw [h]
    rfl
  | tunnelId => rw [hold_nextHop_tunnelId, hold_nextHop_tunnelId, h]
  | arp => rfl
  | nexthopMember => rfl
  | aps => rfl

theorem hold_group (h : (db'.groups.lookup o).isSome = (db.groups.lookup o).isSome) (t : DbIdType) :
    db'.hold t (.group o) = db.hold t (.group o) := by
  have hmap : ∀ {β : Type} (f : Option β), (db'.groups.lookup o).bind (fun _ => f) =
      (db.groups.lookup o).bind (fun _ => f) := by
    intro β f
    cases hold : db.groups.lookup o <;> cases hnew : db'.groups.lookup o <;>
      rw [hold, hnew] at h <;> first | rfl | cases h
  cases t with
  | nexthop =>
    show (db'.groups.lookup o).map (fun _ => _) = (db.groups.lookup o).map (fun _ => _)
    rw [Option.map_eq_bind, Option.map_eq_bind]
    exact hmap _
  | aps => exact hmap _
  | arp => rfl
  | nexthopMember => rfl
  | tunnelId => rfl

theorem hold_member (h : (db'.members.lookup o).isSome = (db.members.lookup o).isSome)
    (t : DbIdType) : db'.hold t (.member o) = db.hold t (.member o) := by
  cases t with
  | nexthopMember =>
    show (db'.members.lookup o).map (fun _ => _) = (db.members.lookup o).map (fun _ => _)
    cases hold : db.members.lookup o <;> cases hnew : db'.members.lookup o <;>
      rw [hold, hnew] at h <;> first | rfl | cases h
  | arp => rfl
  | nexthop => rfl
  | aps => rfl
  | tunnelId => rfl

end Holders

/-! ## What stays -/

/-- Groups and members are those there were, with their ids. -/
structure GroupsSame (db db' : GroupDb ch σ) : Prop where
  groups : ∀ o, (db'.groups.lookup o).isSome = (db.groups.lookup o).isSome
  members : ∀ o, (db'.members.lookup o).isSome = (db.members.lookup o).isSome
  nexthopMember : db'.nexthopMember.used = db.nexthopMember.used
  aps : db'.aps.used = db.aps.used

/-- Neighbors and next hops have the ids they had; the pool of next hops is
left open. -/
structure HopsSame (db db' : NextHopDb ch) : Prop where
  nbr : NbrSame db.nbr db'.nbr
  nextHops : Table.get db'.nextHops = Table.get db.nextHops
  tunnelId : db'.tunnelId.used = db.tunnelId.used

theorem HopsSame.refl (db : NextHopDb ch) : HopsSame db db := ⟨.refl _, rfl, rfl⟩

theorem groupsSame_hop (db : GroupDb ch σ) (hop : NextHopDb ch) :
    GroupsSame db { db with hop := hop } :=
  ⟨fun _ => rfl, fun _ => rfl, rfl, rfl⟩

theorem lookup_eq_of_get {K V : Type} [DecidableEq K] {t t' : Table K V}
    (h : Table.get t' = Table.get t) (k : K) : t'.lookup k = t.lookup k := congrFun h k

theorem Reloadable.same {db db' : GroupDb ch σ} (h : Reloadable db)
    (hhop : Table.get db'.hop.nextHops = Table.get db.hop.nextHops)
    (hgroups : ∀ o, (db'.groups.lookup o).isSome = (db.groups.lookup o).isSome)
    (haps : db'.aps.used = db.aps.used) : Reloadable db' where
  tunnel o nh hl := by
    rw [lookup_eq_of_get hhop] at hl
    exact h.tunnel o nh hl
  kind grp g hg := by
    rw [haps]
    have hsome := hgroups grp
    rw [hg] at hsome
    obtain ⟨g', hg'⟩ := Option.isSome_iff_exists.mp hsome.symm
    exact h.kind grp g' hg'

/-! ## Trades -/

section TradeRules

variable {db db' : GroupDb ch σ}

theorem Rewrote.traded {k : NeighborKey} (h : Rewrote db.hop.nbr db'.hop.nbr k)
    (hnh : Table.get db'.hop.nextHops = Table.get db.hop.nextHops)
    (htun : db'.hop.tunnelId.used = db.hop.tunnelId.used) (hg : GroupsSame db db') :
    Traded db db' (.neighbor k) := by
  obtain ⟨x, hw, _⟩ := h
  have hrec : ∀ a, a ≠ k → db'.hop.nbr.record a = db.hop.nbr.record a := fun a ha => by
    rw [hw.record, update_of_ne ha]
  have hself : db'.hop.nbr.record k = x := by rw [hw.record, update_self]
  constructor
  · intro a ha
    cases a with
    | neighbor k' =>
      have hk : k' ≠ k := fun he => ha (by rw [he])
      exact hold_neighbor (by rw [hrec k' hk]) (by rw [hrec k' hk])
    | nextHop o => exact hold_nextHop (lookup_eq_of_get hnh o)
    | group o => exact hold_group (hg.groups o)
    | member o => exact hold_member (hg.members o)
  · intro t
    cases t with
    | arp =>
      rw [hold_neighbor_arp, hold_neighbor_arp, hself]
      exact trades_of_moves (zero_notMem_arp _) hw.arp
    | nexthop =>
      rw [hold_neighbor_nexthop, hold_neighbor_nexthop, hself]
      exact trades_of_moves (zero_notMem_nexthop _) hw.nh
    | nexthopMember => exact .keep rfl hg.nexthopMember
    | aps => exact .keep rfl hg.aps
    | tunnelId => exact .keep rfl htun

theorem traded_nextHop {o : Oid} {x : Option NextHop} (hnbr : NbrSame db.hop.nbr db'.hop.nbr)
    (hget : Table.get db'.hop.nextHops = update (Table.get db.hop.nextHops) o x)
    (hg : GroupsSame db db')
    (hnh : Trades (db.hold .nexthop (.nextHop o)) (db'.hold .nexthop (.nextHop o))
      db.hop.nbr.nexthop.used db'.hop.nbr.nexthop.used)
    (htun : Moves (idOf NextHop.ctcMplsTunnelId (db.hop.nextHops.lookup o))
      (idOf NextHop.ctcMplsTunnelId x) db.hop.tunnelId.used db'.hop.tunnelId.used) :
    Traded db db' (.nextHop o) := by
  have hlook : ∀ a, db'.hop.nextHops.lookup a =
      update (Table.get db.hop.nextHops) o x a := fun a => congrFun hget a
  constructor
  · intro a ha
    cases a with
    | neighbor k => exact hold_neighbor (hnbr.nhId k) (hnbr.arpId k)
    | nextHop o' =>
      have ho : o' ≠ o := fun he => ha (by rw [he])
      exact hold_nextHop (by rw [hlook, update_of_ne ho]; rfl)
    | group o' => exact hold_group (hg.groups o')
    | member o' => exact hold_member (hg.members o')
  · intro t
    cases t with
    | arp => exact .keep rfl hnbr.arp
    | nexthop => exact hnh
    | nexthopMember => exact .keep rfl hg.nexthopMember
    | aps => exact .keep rfl hg.aps
    | tunnelId =>
      rw [hold_nextHop_tunnelId, hold_nextHop_tunnelId, hlook, update_self]
      exact trades_of_moves (zero_notMem_tunnelId _) htun

theorem traded_group {grp : Oid} (hhop : HopsSame db.hop db'.hop)
    (hgroups : ∀ o, o ≠ grp → (db'.groups.lookup o).isSome = (db.groups.lookup o).isSome)
    (hmem : ∀ o, (db'.members.lookup o).isSome = (db.members.lookup o).isSome)
    (hpool : db'.nexthopMember.used = db.nexthopMember.used)
    (hnh : Trades (db.hold .nexthop (.group grp)) (db'.hold .nexthop (.group grp))
      db.hop.nbr.nexthop.used db'.hop.nbr.nexthop.used)
    (haps : Trades (db.hold .aps (.group grp)) (db'.hold .aps (.group grp))
      db.aps.used db'.aps.used) : Traded db db' (.group grp) := by
  constructor
  · intro a ha
    cases a with
    | neighbor k => exact hold_neighbor (hhop.nbr.nhId k) (hhop.nbr.arpId k)
    | nextHop o => exact hold_nextHop (lookup_eq_of_get hhop.nextHops o)
    | group o => exact hold_group (hgroups o fun he => ha (by rw [he]))
    | member o => exact hold_member (hmem o)
  · intro t
    cases t with
    | arp => exact .keep rfl hhop.nbr.arp
    | nexthop => exact hnh
    | nexthopMember => exact .keep rfl hpool
    | aps => exact haps
    | tunnelId => exact .keep rfl hhop.tunnelId

theorem traded_member {mem : Oid} (hhop : HopsSame db.hop db'.hop)
    (hnh : db'.hop.nbr.nexthop.used = db.hop.nbr.nexthop.used)
    (hgroups : ∀ o, (db'.groups.lookup o).isSome = (db.groups.lookup o).isSome)
    (haps : db'.aps.used = db.aps.used)
    (hmem : ∀ o, o ≠ mem → (db'.members.lookup o).isSome = (db.members.lookup o).isSome)
    (hid : Trades (db.hold .nexthopMember (.member mem)) (db'.hold .nexthopMember (.member mem))
      db.nexthopMember.used db'.nexthopMember.used) : Traded db db' (.member mem) := by
  constructor
  · intro a ha
    cases a with
    | neighbor k => exact hold_neighbor (hhop.nbr.nhId k) (hhop.nbr.arpId k)
    | nextHop o => exact hold_nextHop (lookup_eq_of_get hhop.nextHops o)
    | group o => exact hold_group (hgroups o)
    | member o => exact hold_member (hmem o fun he => ha (by rw [he]))
  · intro t
    cases t with
    | arp => exact .keep rfl hhop.nbr.arp
    | nexthop => exact .keep rfl hnh
    | nexthopMember => exact hid
    | aps => exact .keep rfl haps
    | tunnelId => exact .keep rfl hhop.tunnelId

end TradeRules

/-! ## The invariant -/

/-- The ledgers balance, and a reload asks for what is held. -/
structure IdsInv (db : GroupDb ch σ) : Prop where
  accounted : db.Accounted
  placed : AllPlaced db.hop.nbr
  reloadable : Reloadable db

/-- A call on the next hops of a database. -/
def GroupDb.withHop (db : GroupDb ch σ) (hop : NextHopDb ch) : GroupDb ch σ := { db with hop := hop }

def GroupDb.withNbr (db : GroupDb ch σ) (nbr : NeighborDb ch) : GroupDb ch σ :=
  db.withHop { db.hop with nbr := nbr }

/-- The PROTECTION group with APS id 0 stays while there is an ECMP group. -/
def RemoveGroupSafe (db : GroupDb ch σ) (oid : Oid) : Prop :=
  (db.groups.lookup oid).isSome → oid.subType = NextHopGroupType.protection.bits →
    oid.value2.toNat = 0 → ∀ grp g, db.groups.lookup grp = some g →
      grp.subType ≠ NextHopGroupType.ecmp.bits

section Rules

variable {db : GroupDb ch σ}
variable {hop : NextHopDb ch} {db' : GroupDb ch σ}

theorem IdsInv.rewrote (h : IdsInv db) {k : NeighborKey} (hw : Rewrote db.hop.nbr hop.nbr k)
    (hnh : hop.nextHops = db.hop.nextHops) (htun : hop.tunnelId = db.hop.tunnelId) :
    IdsInv (db.withHop hop) where
  accounted := by
    have ht : Traded db (db.withHop hop) (.neighbor k) :=
      hw.traded (congrArg Table.get hnh) (congrArg Pool.used htun) (groupsSame_hop db hop)
    exact h.accounted.traded ht
  placed := hw.allPlaced h.placed
  reloadable := h.reloadable.same (congrArg Table.get hnh) (fun _ => rfl) rfl

theorem IdsInv.ipHop (h : IdsInv db) {o : Oid} {x : Option NextHop}
    (hip : o.subType = NextHopType.ip.bits) (hnbr : hop.nbr = db.hop.nbr)
    (hget : Table.get hop.nextHops = update (Table.get db.hop.nextHops) o x)
    (hx : idOf NextHop.ctcMplsTunnelId x = 0) (htun : hop.tunnelId = db.hop.tunnelId) :
    IdsInv (db.withHop hop) := by
  have hne : o.subType ≠ NextHopType.mpls.bits := by rw [hip]; decide
  have hold : idOf NextHop.ctcMplsTunnelId (db.hop.nextHops.lookup o) = 0 := by
    cases hl : db.hop.nextHops.lookup o with
    | none => rfl
    | some nh =>
      by_contra hid
      exact hne (h.reloadable.tunnel o nh hl hid)
  have hnone : ∀ db' : GroupDb ch σ, db'.hold .nexthop (.nextHop o) = none := by
    intro db'
    show (db'.hop.nextHops.lookup o).bind _ = none
    cases db'.hop.nextHops.lookup o with
    | none => rfl
    | some nh => exact if_pos hip
  have ht : Traded db (db.withHop hop) (.nextHop o) := by
    refine traded_nextHop (by show NbrSame _ hop.nbr; rw [hnbr]; exact .refl _) hget
      (groupsSame_hop db hop) ?_ ?_
    · rw [hnone, hnone]
      exact .keep rfl (by show hop.nbr.nexthop.used = _; rw [hnbr])
    · rw [hold, hx]
      exact .keep rfl (congrArg Pool.used htun)
  refine ⟨h.accounted.traded ht, ?_, fun o' nh hl hid => ?_, h.reloadable.kind⟩
  · show AllPlaced hop.nbr
    rw [hnbr]
    exact h.placed
  · have hl' : update (Table.get db.hop.nextHops) o x o' = some nh :=
      (congrFun hget o').symm.trans hl
    by_cases ho : o' = o
    · subst ho
      rw [update_self] at hl'
      rw [hl'] at hx
      exact absurd hx hid
    · rw [update_of_ne ho] at hl'
      exact h.reloadable.tunnel o' nh hl' hid

theorem IdsInv.hopStep (h : IdsInv db) (hs : HopStep db.hop hop) : IdsInv (db.withHop hop) := by
  cases hs with
  | same hnbr hget hnh htun =>
    have ht : Traded db (db.withHop hop) (.nextHop Oid.null) := by
      refine traded_nextHop hnbr ?_ (groupsSame_hop db hop) (.keep ?_ hnh) (.keep rfl htun)
      · rw [show (db.withHop hop).hop = hop from rfl, hget]
        exact (update_eq_self_iff.mpr rfl).symm
      · exact hold_nextHop (lookup_eq_of_get hget _) _
    exact ⟨h.accounted.traded ht, hnbr.placed h.placed, h.reloadable.same hget (fun _ => rfl) rfl⟩
  | came oid nh hnbr hfree hget hip hmpls hfresh hnh htun =>
    have hl : ∀ o, hop.nextHops.lookup o =
        update (Table.get db.hop.nextHops) oid (some nh) o := fun o => congrFun hget o
    have ht : Traded db (db.withHop hop) (.nextHop oid) := by
      refine traded_nextHop hnbr hget (groupsSame_hop db hop) ?_ ?_
      · refine .take oid.value.toNat ?_ ?_ hfresh hnh
        · show (db.hop.nextHops.lookup oid).bind _ = none
          rw [hfree]
          rfl
        · show (hop.nextHops.lookup oid).bind _ = _
          rw [hl, update_self]
          exact if_neg hip
      · rw [hfree]
        exact htun
    refine ⟨h.accounted.traded ht, hnbr.placed h.placed, fun o nh' hl' hid => ?_, h.reloadable.kind⟩
    replace hl' := (hl o).symm.trans hl'
    by_cases ho : o = oid
    · subst ho
      rw [update_self] at hl'
      cases hl'
      exact hmpls hid
    · rw [update_of_ne ho] at hl'
      exact h.reloadable.tunnel o nh' hl' hid
  | went oid nh hnbr hl hget hip hnh htun =>
    have hl' : ∀ o, hop.nextHops.lookup o =
        update (Table.get db.hop.nextHops) oid none o := fun o => congrFun hget o
    have ht : Traded db (db.withHop hop) (.nextHop oid) := by
      refine traded_nextHop hnbr hget (groupsSame_hop db hop) ?_ ?_
      · refine .give oid.value.toNat ?_ ?_ hnh
        · show (db.hop.nextHops.lookup oid).bind _ = _
          rw [hl]
          exact if_neg hip
        · show (hop.nextHops.lookup oid).bind _ = none
          rw [hl', update_self]
          rfl
      · rw [hl]
        exact htun
    refine ⟨h.accounted.traded ht, hnbr.placed h.placed, fun o nh' ho hid => ?_, h.reloadable.kind⟩
    replace ho := (hl' o).symm.trans ho
    by_cases he : o = oid
    · subst he
      rw [update_self] at ho
      cases ho
    · rw [update_of_ne he] at ho
      exact h.reloadable.tunnel o nh' ho hid

theorem IdsInv.groupsSame (h : IdsInv db) (hhop : HopsSame db.hop db'.hop)
    (hnh : db'.hop.nbr.nexthop.used = db.hop.nbr.nexthop.used) (hg : GroupsSame db db') :
    IdsInv db' where
  accounted := by
    have ht : Traded db db' (.member Oid.null) :=
      traded_member hhop hnh hg.groups hg.aps (fun o _ => hg.members o)
        (.keep (hold_member (hg.members _) _) hg.nexthopMember)
    exact h.accounted.traded ht
  placed := hhop.nbr.placed h.placed
  reloadable := h.reloadable.same hhop.nextHops hg.groups hg.aps

theorem value2_nextHopGroupOid {lchip : BitVec 8} {t : NextHopGroupType} {aps nhId : Nat}
    (h : aps < 2 ^ 16) : (nextHopGroupOid lchip t aps nhId).value2.toNat = aps :=
  (BitVec.toNat_ofNat _ _).trans (Nat.mod_eq_of_lt h)

/-- The APS id that a new group takes: none for ECMP, whose reload asks for
id 0. -/
def ApsTaken (t : NextHopGroupType) (aps : Nat) (used used' : Finset Nat) : Prop :=
  match t with
  | .ecmp => aps = 0 ∧ used' = used ∧ 0 ∈ used
  | .protection => aps < 2 ^ 16 ∧ aps ∉ used ∧ used' = insert aps used

/-- A group came. -/
theorem IdsInv.groupCame (h : IdsInv db) {t : NextHopGroupType} {aps nhId : Nat} {g : NextHopGrp}
    (hhop : HopsSame db.hop db'.hop) (hlt : nhId < 2 ^ 32) (hfresh : nhId ∉ db.hop.nbr.nexthop.used)
    (hnh : db'.hop.nbr.nexthop.used = insert nhId db.hop.nbr.nexthop.used)
    (hnone : db.groups.lookup (nextHopGroupOid ch.lchip t aps nhId) = none)
    (hgroups : Table.get db'.groups =
      update (Table.get db.groups) (nextHopGroupOid ch.lchip t aps nhId) (some g))
    (hmem : db'.members = db.members) (hpool : db'.nexthopMember = db.nexthopMember)
    (haps : ApsTaken t aps db.aps.used db'.aps.used) : IdsInv db' := by
  have hsub : (nextHopGroupOid ch.lchip t aps nhId).subType = t.bits :=
    subType_nextHopGroupOid _ _ _ _
  have hval : (nextHopGroupOid ch.lchip t aps nhId).value.toNat = nhId := value_nextHopGroupOid hlt
  have hval2 : aps < 2 ^ 16 → (nextHopGroupOid ch.lchip t aps nhId).value2.toNat = aps :=
    value2_nextHopGroupOid
  generalize nextHopGroupOid ch.lchip t aps nhId = grp at *
  have hl : ∀ o, db'.groups.lookup o = update (Table.get db.groups) grp (some g) o :=
    fun o => congrFun hgroups o
  have hself : db'.groups.lookup grp = some g := by rw [hl, update_self]
  have hother : ∀ o, o ≠ grp → db'.groups.lookup o = db.groups.lookup o := by
    intro o ho
    rw [hl, update_of_ne ho]
    rfl
  have hmono : db.aps.used ⊆ db'.aps.used := by
    cases t with
    | ecmp => rw [haps.2.1]
    | protection => rw [haps.2.2]; exact Finset.subset_insert _ _
  have hnexthop : Trades (db.hold .nexthop (.group grp)) (db'.hold .nexthop (.group grp))
      db.hop.nbr.nexthop.used db'.hop.nbr.nexthop.used := by
    refine .take nhId ?_ ?_ hfresh hnh
    · show (db.groups.lookup grp).map _ = none
      rw [hnone]
      rfl
    · show (db'.groups.lookup grp).map _ = _
      rw [hself, Option.map_some, hval]
  have hold : db.hold .aps (.group grp) = none := by
    show (db.groups.lookup grp).bind _ = none
    rw [hnone]
    rfl
  have hnew : db'.hold .aps (.group grp) =
      if grp.subType = NextHopGroupType.protection.bits then some grp.value2.toNat else none := by
    show (db'.groups.lookup grp).bind _ = _
    rw [hself]
    rfl
  have htrade : Trades (db.hold .aps (.group grp)) (db'.hold .aps (.group grp))
      db.aps.used db'.aps.used := by
    rw [hold, hnew, hsub]
    cases t with
    | ecmp =>
      exact .keep rfl haps.2.1
    | protection =>
      rw [hval2 haps.1]
      exact .take aps rfl rfl haps.2.1 haps.2.2
  refine ⟨h.accounted.traded (traded_group hhop (fun o ho => by rw [hother o ho])
    (fun o => by rw [hmem]) (by rw [hpool]) hnexthop htrade), hhop.nbr.placed h.placed,
    fun o nh ho => h.reloadable.tunnel o nh ((lookup_eq_of_get hhop.nextHops o).symm.trans ho),
    fun o g' ho => ?_⟩
  by_cases he : o = grp
  · subst he
    cases t with
    | ecmp =>
      have hzero : o.value2.toNat = 0 := (hval2 (by rw [haps.1]; decide)).trans haps.1
      exact .inr ⟨hsub, BitVec.eq_of_toNat_eq hzero, hmono haps.2.2⟩
    | protection => exact .inl hsub
  · rcases h.reloadable.kind o g' ((hother o he).symm.trans ho) with hp | ⟨he', hv, h0⟩
    · exact .inl hp
    · exact .inr ⟨he', hv, hmono h0⟩

theorem IdsInv.groupWent (h : IdsInv db) {grp : Oid} {g : NextHopGrp}
    (hl : db.groups.lookup grp = some g) (hsafe : RemoveGroupSafe db grp)
    (hhop : HopsSame db.hop db'.hop)
    (hnh : db'.hop.nbr.nexthop.used = db.hop.nbr.nexthop.used.erase grp.value.toNat)
    (hgroups : Table.get db'.groups = update (Table.get db.groups) grp none)
    (hmem : db'.members = db.members) (hpool : db'.nexthopMember = db.nexthopMember)
    (haps : db'.aps.used = if grp.subType = NextHopGroupType.protection.bits then
      db.aps.used.erase grp.value2.toNat else db.aps.used) : IdsInv db' := by
  have hself : db'.groups.lookup grp = none := (congrFun hgroups grp).trans (update_self ..)
  have hother : ∀ o, o ≠ grp → db'.groups.lookup o = db.groups.lookup o :=
    fun o ho => (congrFun hgroups o).trans (update_of_ne ho ..)
  have hnexthop : Trades (db.hold .nexthop (.group grp)) (db'.hold .nexthop (.group grp))
      db.hop.nbr.nexthop.used db'.hop.nbr.nexthop.used := by
    refine .give grp.value.toNat ?_ ?_ hnh
    · show (db.groups.lookup grp).map _ = _
      rw [hl]
      rfl
    · show (db'.groups.lookup grp).map _ = none
      rw [hself]
      rfl
  have hold : db.hold .aps (.group grp) =
      if grp.subType = NextHopGroupType.protection.bits then some grp.value2.toNat else none := by
    show (db.groups.lookup grp).bind _ = _
    rw [hl]
    rfl
  have hnew : db'.hold .aps (.group grp) = none := by
    show (db'.groups.lookup grp).bind _ = none
    rw [hself]
    rfl
  have htrade : Trades (db.hold .aps (.group grp)) (db'.hold .aps (.group grp))
      db.aps.used db'.aps.used := by
    rw [hold, hnew, haps]
    split
    · exact .give _ rfl rfl rfl
    · exact .keep rfl rfl
  refine ⟨h.accounted.traded (traded_group hhop (fun o ho => by rw [hother o ho])
    (fun o => by rw [hmem]) (by rw [hpool]) hnexthop htrade), hhop.nbr.placed h.placed,
    fun o nh ho => h.reloadable.tunnel o nh ((lookup_eq_of_get hhop.nextHops o).symm.trans ho),
    fun o g' ho => ?_⟩
  have he : o ≠ grp := by
    rintro rfl
    rw [hself] at ho
    cases ho
  have ho' := (hother o he).symm.trans ho
  rcases h.reloadable.kind o g' ho' with hp | ⟨hec, hv, h0⟩
  · exact .inl hp
  refine .inr ⟨hec, hv, ?_⟩
  rw [haps]
  split
  · next hp =>
    -- APS id 0 is not the one that goes
    refine Finset.mem_erase.mpr ⟨fun hz => ?_, h0⟩
    exact hsafe (by rw [hl]; rfl) hp hz.symm o g' ho' hec
  · exact h0

/-- A member comes or goes, and its id with it. -/
theorem IdsInv.memberTraded (h : IdsInv db) {mem : Oid} (hhop : db'.hop = db.hop)
    (hgroups : ∀ o, (db'.groups.lookup o).isSome = (db.groups.lookup o).isSome)
    (haps : db'.aps = db.aps)
    (hother : ∀ o, o ≠ mem → db'.members.lookup o = db.members.lookup o)
    (htrade : Trades (db.hold .nexthopMember (.member mem))
      (db'.hold .nexthopMember (.member mem)) db.nexthopMember.used db'.nexthopMember.used) :
    IdsInv db' := by
  have hsame : HopsSame db.hop db'.hop := by rw [hhop]; exact .refl _
  exact ⟨h.accounted.traded (traded_member hsame (by rw [hhop]) hgroups (by rw [haps])
    (fun o ho => by rw [hother o ho]) htrade), hsame.nbr.placed h.placed,
    h.reloadable.same hsame.nextHops hgroups (by rw [haps])⟩

theorem IdsInv.memberCame (h : IdsInv db) {mem : Oid} {r : NextHopGrpMember} {i : Nat}
    (hhop : db'.hop = db.hop)
    (hgroups : ∀ o, (db'.groups.lookup o).isSome = (db.groups.lookup o).isSome)
    (haps : db'.aps = db.aps) (hnone : db.members.lookup mem = none)
    (hmem : db'.members = db.members.insert mem r) (hval : mem.value2.toNat = i)
    (hfresh : i ∉ db.nexthopMember.used)
    (hu : db'.nexthopMember.used = insert i db.nexthopMember.used) : IdsInv db' := by
  have hl : ∀ o, db'.members.lookup o = if o = mem then some r else db.members.lookup o := by
    intro o
    rw [hmem]
    exact Table.lookup_insert_ite _ _ _ _
  refine h.memberTraded hhop hgroups haps (fun o ho => by rw [hl, if_neg ho])
    (.take i ?_ ?_ hfresh hu)
  · show (db.members.lookup mem).map _ = none
    rw [hnone]
    rfl
  · show (db'.members.lookup mem).map _ = _
    rw [hl, if_pos rfl, Option.map_some, hval]

theorem IdsInv.memberWent (h : IdsInv db) {mem : Oid} {r : NextHopGrpMember}
    (hl : db.members.lookup mem = some r) (hhop : db'.hop = db.hop)
    (hgroups : ∀ o, (db'.groups.lookup o).isSome = (db.groups.lookup o).isSome)
    (haps : db'.aps = db.aps) (hmem : db'.members = db.members.erase mem)
    (hu : db'.nexthopMember.used = db.nexthopMember.used.erase mem.value2.toNat) :
    IdsInv db' := by
  have hl' : ∀ o, db'.members.lookup o = if o = mem then none else db.members.lookup o := by
    intro o
    rw [hmem]
    exact Table.lookup_erase_ite _ _ _
  refine h.memberTraded hhop hgroups haps (fun o ho => by rw [hl', if_neg ho])
    (.give mem.value2.toNat ?_ ?_ hu)
  · show (db.members.lookup mem).map _ = _
    rw [hl]
    rfl
  · show (db'.members.lookup mem).map _ = none
    rw [hl', if_pos rfl]
    rfl

end Rules

end CtcSai
