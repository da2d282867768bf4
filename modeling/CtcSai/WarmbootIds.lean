/-
# `WarmbootIds` — ids taken again by a reload

The pools of a chip are not stored: after a warm boot they are empty, and the
reload callback of each record takes the record's ids again by number, from
the bits of its object id or from its data.  A callback returns at the first
id that is not free, and nobody looks at what it returns.

`reload_restores` says what a reload needs: every id in use has one holder,
and two kinds of records ask for something else than what they hold.  An ECMP
group asks for APS id 0, and a next hop in a tunnel does not ask for the
tunnel id it holds.  That records come back at all is `Warmboot`'s matter.
-/
import CtcSai.Lib.Ledger
import CtcSai.NextHopGroup

namespace CtcSai

open IdPool KeyedTable Ledger

variable {ch : Chip} {σ : Type}

/-! ## The pools -/

/-- `ctc_sai_db_id_type_t`: the pools of neighbors, next hops and groups. -/
inductive DbIdType where
  | arp | nexthop | nexthopMember | aps | tunnelId
deriving DecidableEq, Repr

def Chip.idRange (ch : Chip) : DbIdType → Allocator
  | .arp => ch.arp
  | .nexthop => ch.nexthop
  | .nexthopMember => ch.nexthopMember
  | .aps => ch.aps
  | .tunnelId => ch.tunnelId

def GroupDb.idPools (db : GroupDb ch σ) : Pools ch.idRange
  | .arp => db.hop.nbr.arp
  | .nexthop => db.hop.nbr.nexthop
  | .nexthopMember => db.nexthopMember
  | .aps => db.aps
  | .tunnelId => db.hop.tunnelId

/-! ## The reload -/

/-- A record as it is stored, with its key. -/
inductive WbRecord where
  | nextHop (oid : Oid) (nh : NextHop)
  | group (oid : Oid) (g : NextHopGrp)
  | member (oid : Oid) (r : NextHopGrpMember)
  | neighbor (k : NeighborKey) (p : Neighbor)
deriving DecidableEq, Repr

/-- The ids that `_ctc_sai_next_hop_wb_reload_cb` takes. -/
def nextHopWbReloadIds (oid : Oid) (nh : NextHop) : List (DbIdType × Nat) :=
  if oid.subType = NextHopType.ip.bits then []
  else
    (.nexthop, oid.value.toNat) ::
      if oid.subType = NextHopType.mpls.bits then [(.tunnelId, nh.ctcMplsTunnelId)] else []

/-- The ids that `_ctc_sai_next_hop_group_wb_reload_cb` takes. -/
def nextHopGroupWbReloadIds (oid : Oid) : List (DbIdType × Nat) :=
  [(.nexthop, oid.value.toNat), (.aps, oid.value2.toNat)]

/-- The ids that `_ctc_sai_next_hop_group_member_wb_reload_cb` takes. -/
def nextHopGroupMemberWbReloadIds (oid : Oid) : List (DbIdType × Nat) :=
  [(.nexthopMember, oid.value2.toNat)]

/-- The ids that `_ctc_sai_neighbor_wb_reload_cb` takes. -/
def neighborWbReloadIds (p : Neighbor) : List (DbIdType × Nat) :=
  (if p.arpId = 0 then [] else [(.arp, p.arpId)]) ++
    if p.nhId = 0 then [] else [(.nexthop, p.nhId)]

/-- The ids that the callback of a record takes, in their order. -/
def WbRecord.ids : WbRecord → List (DbIdType × Nat)
  | .nextHop oid nh => nextHopWbReloadIds oid nh
  | .group oid _ => nextHopGroupWbReloadIds oid
  | .member oid _ => nextHopGroupMemberWbReloadIds oid
  | .neighbor _ p => neighborWbReloadIds p

/-- The records of a database, in the order in which a reload takes their
kinds; those of one kind come in any order. -/
def GroupDb.wbRecords (db : GroupDb ch σ) : List WbRecord :=
  db.hop.nextHops.entries.map (fun e => .nextHop e.1 e.2) ++
    db.groups.entries.map (fun e => .group e.1 e.2) ++
    db.members.entries.map (fun e => .member e.1 e.2) ++
    db.hop.nbr.table.entries.map (fun e => .neighbor e.1 e.2)

variable (ch) in
/-- `ctc_sai_warmboot_reload` of stored records, as far as ids go: the ids
that callbacks left out, and the pools. -/
def warmbootReloadIds (stored : List WbRecord) : List (DbIdType × Nat) × Pools ch.idRange :=
  reserveEach (Pools.empty ch.idRange) (stored.map WbRecord.ids)

/-- A reload gives every pool the ids it had, and no callback leaves an id
out. -/
def IdsSurvive (db : GroupDb ch σ) : Prop :=
  ∀ stored : List WbRecord, stored.Perm db.wbRecords →
    (warmbootReloadIds ch stored).1 = [] ∧
      ∀ t, ((warmbootReloadIds ch stored).2 t).used = (db.idPools t).used

/-! ## Who holds an id -/

inductive Holder where
  | nextHop (oid : Oid)
  | group (oid : Oid)
  | member (oid : Oid)
  | neighbor (k : NeighborKey)
deriving DecidableEq, Repr

/-- The id a holder has of a pool.  A next hop of type IP uses the id of its
neighbor's record, and an ECMP group has no APS id. -/
def GroupDb.hold (db : GroupDb ch σ) : DbIdType → Holder → Option Nat
  | .arp, .neighbor k => (db.hop.nbr.table.lookup k).bind fun p => idAt p.arpId
  | .nexthop, .neighbor k => (db.hop.nbr.table.lookup k).bind fun p => idAt p.nhId
  | .nexthop, .nextHop o => (db.hop.nextHops.lookup o).bind fun _ =>
    if o.subType = NextHopType.ip.bits then none else some o.value.toNat
  | .nexthop, .group o => (db.groups.lookup o).map fun _ => o.value.toNat
  | .nexthopMember, .member o => (db.members.lookup o).map fun _ => o.value2.toNat
  | .aps, .group o => (db.groups.lookup o).bind fun _ =>
    if o.subType = NextHopGroupType.protection.bits then some o.value2.toNat else none
  | .tunnelId, .nextHop o => (db.hop.nextHops.lookup o).bind fun nh => idAt nh.ctcMplsTunnelId
  | _, _ => none

def GroupDb.Accounted (db : GroupDb ch σ) : Prop :=
  ∀ t, Balanced (db.hold t) (db.idPools t).used

/-- What a reload needs besides: a tunnel id is held by a next hop of type
MPLS, and APS id 0 is in use where there is an ECMP group. -/
structure Reloadable (db : GroupDb ch σ) : Prop where
  tunnel : ∀ oid nh, db.hop.nextHops.lookup oid = some nh → nh.ctcMplsTunnelId ≠ 0 →
    oid.subType = NextHopType.mpls.bits
  kind : ∀ grp g, db.groups.lookup grp = some g →
    grp.subType = NextHopGroupType.protection.bits ∨
      grp.subType = NextHopGroupType.ecmp.bits ∧ grp.value2 = 0 ∧ 0 ∈ db.aps.used

/-! ## What the callbacks ask for -/

def WbRecord.holder : WbRecord → Holder
  | .nextHop oid _ => .nextHop oid
  | .group oid _ => .group oid
  | .member oid _ => .member oid
  | .neighbor k _ => .neighbor k

section Records

variable {db : GroupDb ch σ}

def GroupDb.HasRecord (db : GroupDb ch σ) : WbRecord → Prop
  | .nextHop oid nh => db.hop.nextHops.lookup oid = some nh
  | .group oid g => db.groups.lookup oid = some g
  | .member oid r => db.members.lookup oid = some r
  | .neighbor k p => db.hop.nbr.table.lookup k = some p

theorem mem_wbRecords {r : WbRecord} : r ∈ db.wbRecords ↔ db.HasRecord r := by
  unfold GroupDb.wbRecords
  cases r <;> simp [GroupDb.HasRecord, ← Table.mem_entries_iff]

theorem nodup_wbRecords : db.wbRecords.Nodup := by
  have hmap : ∀ {K V : Type} [DecidableEq K] (t : Table K V) (f : ((_ : K) × V) → WbRecord),
      Function.Injective f → (t.entries.map f).Nodup := fun t f hf =>
    t.nodupKeys.nodup.map hf
  refine List.Nodup.append (List.Nodup.append (List.Nodup.append (hmap _ _ ?_) (hmap _ _ ?_) ?_)
    (hmap _ _ ?_) ?_) (hmap _ _ ?_) ?_
  all_goals first
    | (rintro ⟨k, v⟩ ⟨k', v'⟩ h; cases h; rfl)
    | (intro r h h'; simp only [List.mem_append, List.mem_map] at h h'; grind)

theorem record_eq_of_holder {r r' : WbRecord} (h : db.HasRecord r) (h' : db.HasRecord r')
    (he : r.holder = r'.holder) : r = r' := by
  cases r <;> cases r' <;> cases he <;> exact congrArg _ (Option.some.inj (h.symm.trans h'))

theorem WbRecord.ids_nodup (r : WbRecord) : r.ids.Nodup := by
  cases r with
  | nextHop oid nh =>
    show (nextHopWbReloadIds oid nh).Nodup
    unfold nextHopWbReloadIds
    split
    · exact List.nodup_nil
    · split <;> simp
  | group oid g => simp [ids, nextHopGroupWbReloadIds]
  | member oid r => simp [ids, nextHopGroupMemberWbReloadIds]
  | neighbor k p =>
    show (neighborWbReloadIds p).Nodup
    unfold neighborWbReloadIds
    split <;> split <;> simp

/-- What a record asks for is what its holder has, but for APS id 0 and
tunnel id 0. -/
theorem hold_of_mem_ids (hok : Reloadable db) {r : WbRecord} (hr : db.HasRecord r) {t : DbIdType}
    {i : Nat} (h : (t, i) ∈ r.ids) : db.hold t r.holder = some i ∨
      t = .aps ∧ i = 0 ∧ 0 ∈ db.aps.used ∨ t = .tunnelId ∧ i = 0 := by
  cases r with
  | nextHop oid nh =>
    have hl : db.hop.nextHops.lookup oid = some nh := hr
    rw [WbRecord.ids, nextHopWbReloadIds] at h
    split at h
    · cases h
    next hip =>
    rcases List.mem_cons.mp h with he | h
    · cases he
      left
      simp only [GroupDb.hold, WbRecord.holder, hl, Option.bind_some, if_neg hip]
    split at h
    · rw [List.mem_singleton] at h
      cases h
      by_cases h0 : nh.ctcMplsTunnelId = 0
      · exact .inr (.inr ⟨rfl, h0⟩)
      · left
        simp only [GroupDb.hold, WbRecord.holder, hl, Option.bind_some, idAt, if_neg h0]
    · cases h
  | group oid g =>
    have hl : db.groups.lookup oid = some g := hr
    rcases List.mem_cons.mp h with he | h
    · cases he
      left
      simp only [GroupDb.hold, WbRecord.holder, hl, Option.map_some]
    rw [List.mem_singleton] at h
    cases h
    rcases hok.kind oid g hl with hp | ⟨_, h0, hin⟩
    · left
      simp only [GroupDb.hold, WbRecord.holder, hl, Option.bind_some, if_pos hp]
    · exact .inr (.inl ⟨rfl, by rw [h0]; rfl, hin⟩)
  | member oid x =>
    have hl : db.members.lookup oid = some x := hr
    rw [WbRecord.ids, nextHopGroupMemberWbReloadIds, List.mem_singleton] at h
    cases h
    left
    simp only [GroupDb.hold, WbRecord.holder, hl, Option.map_some]
  | neighbor k p =>
    have hl : db.hop.nbr.table.lookup k = some p := hr
    left
    rcases List.mem_append.mp h with h | h
    · split at h
      · cases h
      · next h0 =>
        rw [List.mem_singleton] at h
        cases h
        simp only [GroupDb.hold, WbRecord.holder, hl, Option.bind_some, idAt, if_neg h0]
    split at h
    · cases h
    · next h0 =>
      rw [List.mem_singleton] at h
      cases h
      simp only [GroupDb.hold, WbRecord.holder, hl, Option.bind_some, idAt, if_neg h0]

theorem mem_ids_of_hold (hok : Reloadable db) {t : DbIdType} {x : Holder} {i : Nat}
    (h : db.hold t x = some i) : ∃ r, db.HasRecord r ∧ (t, i) ∈ r.ids := by
  unfold GroupDb.hold at h
  split at h
  · obtain ⟨p, hp, hi⟩ := Option.bind_eq_some_iff.mp h
    obtain ⟨rfl, h0⟩ := idAt_eq_some.mp hi
    exact ⟨.neighbor _ p, hp, by simp [WbRecord.ids, neighborWbReloadIds, h0]⟩
  · obtain ⟨p, hp, hi⟩ := Option.bind_eq_some_iff.mp h
    obtain ⟨rfl, h0⟩ := idAt_eq_some.mp hi
    exact ⟨.neighbor _ p, hp, by simp [WbRecord.ids, neighborWbReloadIds, h0]⟩
  · obtain ⟨nh, hnh, hi⟩ := Option.bind_eq_some_iff.mp h
    split at hi
    · cases hi
    · next hip =>
      cases hi
      exact ⟨.nextHop _ nh, hnh, by simp [WbRecord.ids, nextHopWbReloadIds, hip]⟩
  · obtain ⟨g, hg, rfl⟩ := Option.map_eq_some_iff.mp h
    exact ⟨.group _ g, hg, List.mem_cons_self ..⟩
  · obtain ⟨x, hx, rfl⟩ := Option.map_eq_some_iff.mp h
    exact ⟨.member _ x, hx, List.mem_cons_self ..⟩
  · obtain ⟨g, hg, hi⟩ := Option.bind_eq_some_iff.mp h
    split at hi
    · cases hi
      exact ⟨.group _ g, hg, List.mem_cons_of_mem _ (List.mem_cons_self ..)⟩
    · cases hi
  · obtain ⟨nh, hnh, hi⟩ := Option.bind_eq_some_iff.mp h
    obtain ⟨rfl, h0⟩ := idAt_eq_some.mp hi
    have hmpls := hok.tunnel _ nh hnh h0
    have hip : ¬ NextHopType.mpls.bits = NextHopType.ip.bits := by decide
    exact ⟨.nextHop _ nh, hnh, by simp [WbRecord.ids, nextHopWbReloadIds, hmpls, hip]⟩
  · cases h

theorem early_type {r : WbRecord} {c : DbIdType × Nat} (h : c ∈ r.ids.dropLast) :
    c.1 = .arp ∨ c.1 = .nexthop := by
  cases r with
  | nextHop oid nh =>
    rw [WbRecord.ids, nextHopWbReloadIds] at h
    split at h
    · cases h
    split at h
    · rw [List.dropLast_cons_cons, List.dropLast_singleton, List.mem_singleton] at h
      exact .inr (congrArg Prod.fst h)
    · cases h
  | group oid g =>
    rw [WbRecord.ids, nextHopGroupWbReloadIds, List.dropLast_cons_cons, List.dropLast_singleton,
      List.mem_singleton] at h
    exact .inr (congrArg Prod.fst h)
  | member oid x => cases h
  | neighbor k p =>
    have hin := List.mem_of_mem_dropLast h
    rcases List.mem_append.mp hin with hin | hin
    · split at hin
      · cases hin
      · exact .inl (congrArg Prod.fst (List.mem_singleton.mp hin))
    · split at hin
      · cases hin
      · exact .inr (congrArg Prod.fst (List.mem_singleton.mp hin))

/-- Where every id in use has its holder, and every record asks for what it
holds, a reload restores the pools. -/
theorem reload_restores (hb : db.Accounted) (hok : Reloadable db) : IdsSurvive db := by
  intro stored hperm
  have hmem : ∀ r, r ∈ stored ↔ db.HasRecord r := fun r => hperm.mem_iff.trans mem_wbRecords
  have hearly : ∀ cs ∈ stored.map WbRecord.ids, ∀ c ∈ cs.dropLast,
      InRange ch.idRange c ∧ c.2 ∉ (Pools.empty ch.idRange c.1).used ∧
        (stored.map WbRecord.ids).flatten.count c = 1 := by
    intro cs hcs c hc
    obtain ⟨r, hr, rfl⟩ := List.mem_map.mp hcs
    have hheld : ∀ x ∈ stored, c ∈ x.ids → db.hold c.1 x.holder = some c.2 := by
      intro x hx hcx
      rcases hold_of_mem_ids hok ((hmem x).mp hx) hcx with hh | ⟨ht, _⟩ | ⟨ht, _⟩
      · exact hh
      · rcases early_type hc with h | h <;> rw [ht] at h <;> cases h
      · rcases early_type hc with h | h <;> rw [ht] at h <;> cases h
    have hin := List.mem_of_mem_dropLast hc
    refine ⟨(db.idPools c.1).inRange ((hb c.1).held _ _ (hheld r hr hin)), Finset.notMem_empty _, ?_⟩
    refine count_flatten_eq_one (List.count_eq_one_of_mem r.ids_nodup hin)
      (hperm.nodup_iff.mpr nodup_wbRecords) hr (fun x hx hcx => ?_)
    exact record_eq_of_holder ((hmem x).mp hx) ((hmem r).mp hr)
      ((hb c.1).inj _ _ _ (hheld x hx hcx) (hheld r hr hin))
  obtain ⟨hnone, hall⟩ := reserveEach_restores (stored.map WbRecord.ids) (Pools.empty ch.idRange)
    hearly
  refine ⟨hnone, fun t => Finset.ext fun i => ?_⟩
  rw [warmbootReloadIds, hall]
  constructor
  · rintro (h | ⟨h, hrange⟩)
    · exact absurd h (Finset.notMem_empty i)
    · obtain ⟨_, hids, hi⟩ := List.mem_flatten.mp h
      obtain ⟨r, hr, rfl⟩ := List.mem_map.mp hids
      rcases hold_of_mem_ids hok ((hmem r).mp hr) hi with hh | ⟨rfl, rfl, h0⟩ | ⟨rfl, rfl⟩
      · exact (hb t).held _ _ hh
      · exact h0
      · have hlo := (Finset.mem_Ico.mp hrange).1
        rw [show ch.idRange .tunnelId = ch.tunnelId from rfl, ch.tunnelId_lo] at hlo
        exact absurd hlo (by decide)
  · intro hi
    obtain ⟨x, hx⟩ := (hb t).owned i hi
    obtain ⟨r, hr, hin⟩ := mem_ids_of_hold hok hx
    exact .inr ⟨List.mem_flatten.mpr ⟨r.ids, List.mem_map.mpr ⟨r, (hmem r).mpr hr, rfl⟩, hin⟩,
      (db.idPools t).inRange hi⟩

end Records

end CtcSai
