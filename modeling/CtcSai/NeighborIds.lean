/-
# `NeighborIds` — no id of a neighbor's record is lost

Under an SDK that may fail, a call of the neighbor module may leave an id in
use that no record has: a next hop that cannot be added after its ARP entry
was, a record dropped with its ids.  For each call this module says in terms
of the state before it when that cannot happen (`AddSafe`, `RemoveGives` and
what is built from them), and proves that the call then rewrites one record
whose ids moved (`Rewrote`).
-/
import CtcSai.NeighborCount

namespace CtcSai

open IdPool KeyedTable Ownership

variable {ch : Chip} {sdk : Sdk} {rif : Oid}
variable {w w' : NeighborCtx ch} {isAdd : Bool} {db : NeighborDb ch} {k : NeighborKey}

/-! ## When no id is lost -/

/-- Adding the next hop of a worked-on record succeeds, or gives back what it
took, and the record that is then dropped has no ids. -/
def AddSafe (sdk : Sdk) (rif : Oid) (old : Option Neighbor) (w : NeighborCtx ch) (f : IpFamily) :
    Prop :=
  (neighborAddNexthop sdk rif w f).1 = .success ∨
    match old with
    | none => isBridgeRif rif = true ∨ (neighborAddArpEntry sdk rif w).1 ≠ .success
    | some p => 2 ≤ p.refCnt ∧ HasIds rif p

/-- Adding the next hop again succeeds, or the record has its ids. -/
def AgainAddable (sdk : Sdk) (rif : Oid) (w : NeighborCtx ch) (f : IpFamily) : Prop :=
  (neighborAddNexthop sdk rif w f).1 = .success ∨ HasIds rif w.p

variable (ch) in
/-- Removing the next hop of a record gives both its ids back. -/
def RemoveGives (sdk : Sdk) (rif : Oid) (p : Neighbor) : Prop :=
  (ch.rif rif).isSome ∧ (isBridgeRif rif = true ∨
    (p.nhId = 0 ∨ sdk.rc (.nhRemoveIpuc p.nhId) = .none) ∧
      (p.arpId = 0 ∨ sdk.rc (.nhRemoveNexthopMac p.arpId) = .none))

/-- `create` of a neighbor loses no id. -/
def CreateNeighborSafe (sdk : Sdk) (db : NeighborDb ch) (rif : Oid) (ip : IpAddress)
    (attrs : List NeighborAttr) : Prop :=
  let k := neighborKey rif ip
  ∀ p m, neighborBuildDb sdk db k false = (.success, p, m) →
    match findAttribInList NeighborAttr.dstMacAddress? attrs with
    | none => db.record k = none ∨ 2 ≤ p.refCnt
    | some mac =>
      let w := m.ctx (createNeighborFill p mac attrs)
      AddSafe sdk rif (db.record k) w ip.addrFamily ∧
        ∀ w', neighborAddNexthop sdk rif w ip.addrFamily = (.success, w') →
          let q := { w'.p with noHostRoute := createNoHostRoute attrs w'.p }
          q.noHostRoute = true ∨ createHostRoute ch sdk rif ip attrs q = .success ∨
            2 ≤ p.refCnt ∨ RemoveGives ch sdk rif w'.p

/-- The removal of a neighbor loses no id. -/
def RemoveNeighborSafe (sdk : Sdk) (db : NeighborDb ch) (rif : Oid) (ip : IpAddress) : Prop :=
  ∀ p, db.record (neighborKey rif ip) = some p → p.neighborExists = true →
    if p.refCnt ≤ 1 then RemoveGives ch sdk rif p
    else
      let action := ((ch.rif rif).map (·.neighborMissAction)).getD p.action
      AgainAddable sdk rif (db.ctx { p with action := action, destMac := 0 }) ip.addrFamily

/-- The same of each step of a traversal. -/
def RemoveAllSafe (sdk : Sdk) : List NeighborKey → NeighborDb ch → Prop
  | [], _ => True
  | k :: ks, db =>
    RemoveNeighborSafe sdk db (k.rif ch.lchip) k.ip ∧ RemoveAllSafe sdk ks (removeAllStep sdk db k)

/-- The record that setting an attribute programs hardware with. -/
def NeighborAttr.reprograms (p : Neighbor) : NeighborAttr → Option Neighbor
  | .dstMacAddress mac => some { p with destMac := mac }
  | .packetAction action => some { p with action := action }
  | _ => none

/-- Setting an attribute of a neighbor loses no id. -/
def SetNeighborSafe (sdk : Sdk) (db : NeighborDb ch) (rif : Oid) (ip : IpAddress)
    (attr : NeighborAttr) : Prop :=
  ∀ p q, db.record (neighborKey rif ip) = some p → p.neighborExists = true →
    attr.reprograms p = some q → AgainAddable sdk rif (db.ctx q) ip.addrFamily

/-- A next hop of type IP can be put on a record without losing an id. -/
def AllocIpucSafe (sdk : Sdk) (db : NeighborDb ch) (rif : Oid) (ip : IpAddress) : Prop :=
  let k := neighborKey rif ip
  ∀ p m action, neighborBuildDb sdk db k true = (.success, p, m) →
    (if p.refCnt = 0 then (ch.rif rif).map (·.neighborMissAction) else some p.action) =
      some action →
    AddSafe sdk rif (db.record k) (m.ctx { p with action := action }) ip.addrFamily

/-- A next hop of type IP can let go of a record without losing an id. -/
def FreeIpucSafe (sdk : Sdk) (db : NeighborDb ch) (rif : Oid) (ip : IpAddress) (nhId : Nat) :
    Prop :=
  ∀ p, db.record (neighborKey rif ip) = some p → p.nhId = nhId → p.refCnt = 1 →
    RemoveGives ch sdk rif p

/-! ## The ids of a worked-on record -/

/-- Both ids moved; on a bridge interface there is no ARP id. -/
structure IdsMoved (rif : Oid) (w w' : NeighborCtx ch) : Prop where
  nh : Moves w.p.nhId w'.p.nhId w.nexthop.used w'.nexthop.used
  arp : Moves w.p.arpId w'.p.arpId w.arp.used w'.arp.used
  bridge : isBridgeRif rif = true → w'.p.arpId = w.p.arpId

theorem IdsMoved.refl (w : NeighborCtx ch) : IdsMoved rif w w := ⟨.refl _ _, .refl _ _, fun _ => rfl⟩

theorem neighborAllocArp_moves {w₁ : NeighborCtx ch} (h : neighborAllocArp w = some (isAdd, w₁)) :
    Moves w.p.arpId w₁.p.arpId w.arp.used w₁.arp.used ∧
      (w.p.arpId = 0 → isAdd = true ∧ (w₁.arp.free w₁.p.arpId).used = w.arp.used) := by
  unfold neighborAllocArp at h
  split at h
  · next h0 =>
    obtain ⟨⟨i, q⟩, hq, he⟩ := Option.map_eq_some_iff.mp h
    cases he
    obtain ⟨hf, _, _, hu, _⟩ := Pool.alloc_some hq
    refine ⟨?_, fun _ => ⟨rfl, by rw [Pool.used_free, hu, Finset.erase_insert hf]⟩⟩
    rw [h0]
    exact (moves_alloc (arp_lo_pos ch) hq).2
  · next h0 => cases h; exact ⟨.refl _ _, fun hc => absurd hc h0⟩

variable (sdk rif) in
/-- `_ctc_sai_neighbor_add_arp_entry` once the record has its ARP id. -/
theorem neighborAddArpEntry_cases {w w₁ : NeighborCtx ch} {isAdd : Bool}
    (h : neighborAllocArp w = some (isAdd, w₁)) :
    ∃ g, neighborAddArpEntry sdk rif w =
        (.success, false, { w₁ with p := { w₁.p with gport := g } }) ∨
      ∃ status, status ≠ .success ∧ neighborAddArpEntry sdk rif w =
        addArpError1 isAdd status { w₁ with p := { w₁.p with gport := g } } := by
  unfold neighborAddArpEntry
  rw [h]
  dsimp only
  cases ch.rif rif with
  | none => exact ⟨w₁.p.gport, .inr ⟨_, by decide, rfl⟩⟩
  | some ri =>
    cases arpActionFlags w₁.p.action with
    | none => exact ⟨w₁.p.gport, .inr ⟨_, by decide, rfl⟩⟩
    | some flags =>
      dsimp only
      generalize mappingErrorCtc (sdk.rc _) = status
      by_cases hst : status = .success
      · rw [if_pos hst]
        exact ⟨_, .inl rfl⟩
      · rw [if_neg hst]
        exact ⟨_, .inr ⟨status, hst, rfl⟩⟩

theorem neighborAddArpEntry_moves (h : neighborAddArpEntry sdk rif w = (.success, isAdd, w')) :
    Moves w.p.arpId w'.p.arpId w.arp.used w'.arp.used := by
  cases hal : neighborAllocArp w with
  | none =>
    unfold neighborAddArpEntry at h
    rw [hal] at h
    cases h
  | some r =>
    obtain ⟨g, he | ⟨status, hne, he⟩⟩ := neighborAddArpEntry_cases sdk rif hal
    · rw [he] at h
      cases h
      exact (neighborAllocArp_moves hal).1
    · rw [he] at h
      exact absurd (congrArg Prod.fst h) hne

theorem neighborAddArpEntry_failed (h : (neighborAddArpEntry sdk rif w).1 ≠ .success)
    (h0 : w.p.arpId = 0) :
    (neighborAddArpEntry sdk rif w).2.2.arp.used = w.arp.used := by
  cases hal : neighborAllocArp w with
  | none =>
    unfold neighborAddArpEntry
    rw [hal]
  | some r =>
    obtain ⟨hadd, hused⟩ := (neighborAllocArp_moves hal).2 h0
    obtain ⟨g, he | ⟨status, _, he⟩⟩ := neighborAddArpEntry_cases sdk rif hal
    · rw [he] at h
      exact absurd rfl h
    · rw [he, hadd]
      exact hused

section Nexthop

variable {r : Status × NeighborCtx ch} {lost : Bool}

theorem NexthopAdd.arp (h : NexthopAdd w lost r) : r.2.arp = w.arp := by
  cases h <;> rfl

theorem NexthopAdd.moves (h : NexthopAdd w lost (.success, w')) : IdsMoved rif w w' := by
  cases h with
  | added h0 hal =>
    refine ⟨?_, .refl _ _, fun _ => rfl⟩
    rw [h0]
    exact (moves_alloc (nexthop_lo_pos ch) hal).2
  | refused _ _ hne => exact absurd rfl hne
  | updated => exact .refl _

/-- A next hop that is not added, where no id is lost. -/
theorem NexthopAdd.undone (h : NexthopAdd w false r) (hfail : r.1 ≠ .success) :
    r.2.p = w.p ∧ r.2.nexthop.used = w.nexthop.used := by
  cases h with
  | full | updated => exact ⟨rfl, rfl⟩
  | added => exact absurd rfl hfail
  | refused _ hal =>
    obtain ⟨hf, -, -, hu, -⟩ := Pool.alloc_some hal
    refine ⟨rfl, (Pool.used_free ..).trans ?_⟩
    rw [hu]
    exact Finset.erase_insert hf

end Nexthop

/-- `_ctc_sai_neighbor_add_nexthop` where it succeeds. -/
theorem neighborAddNexthop_moves {f : IpFamily}
    (h : neighborAddNexthop sdk rif w f = (.success, w')) : IdsMoved rif w w' := by
  unfold neighborAddNexthop at h
  split at h
  · cases h
  next ri _ =>
  split at h
  · have hadd := neighborAddMiscNexthop_cases sdk ri w f
    rw [h] at hadd
    exact hadd.moves
  next hb =>
  split at h
  · next isAdd w₁ harp =>
    have hstep := (neighborAddArpEntry_step sdk rif w).1
    rw [harp] at hstep
    split at h
    · next w₂ hip =>
      cases h
      have hadd := neighborAddIpucNexthop_cases sdk ri w₁
      rw [hip] at hadd
      obtain ⟨hnh, _, _⟩ : IdsMoved rif w₁ w' := hadd.moves
      have hmv := neighborAddArpEntry_moves harp
      have hsame : w'.p.arpId = w₁.p.arpId := hadd.step.2.1
      have hpool : w'.arp = w₁.arp := hadd.arp
      rw [hstep.nhId, hstep.nexthop] at hnh
      refine ⟨hnh, ?_, fun hc => absurd hc hb⟩
      rw [hsame, hpool]
      exact hmv
    · next hne _ => exact absurd (congrArg Prod.fst h) hne
  · next hne _ => exact absurd (congrArg Prod.fst h) hne

/-- `_ctc_sai_neighbor_add_nexthop` on a new record, where it fails before the
next hop is touched. -/
theorem neighborAddNexthop_failed {w : NeighborCtx ch} {f : IpFamily}
    (h : (neighborAddNexthop sdk rif w f).1 ≠ .success)
    (hs : isBridgeRif rif = true ∨ (neighborAddArpEntry sdk rif w).1 ≠ .success)
    (harp : w.p.arpId = 0) :
    (neighborAddNexthop sdk rif w f).2.nexthop.used = w.nexthop.used ∧
      (neighborAddNexthop sdk rif w f).2.arp.used = w.arp.used := by
  unfold neighborAddNexthop at h ⊢
  cases hr : ch.rif rif with
  | none => exact ⟨rfl, rfl⟩
  | some ri =>
    rw [hr] at h
    dsimp only at h ⊢
    cases hb : isBridgeRif rif with
    | true =>
      rw [hb, if_pos rfl] at h
      rw [if_pos rfl]
      have hadd := neighborAddMiscNexthop_cases sdk ri w f
      exact ⟨(hadd.undone h).2, congrArg Pool.used hadd.arp⟩
    | false =>
      have hfail := hs.resolve_left (by rw [hb]; decide)
      have hused := neighborAddArpEntry_failed hfail harp
      have hstep := (neighborAddArpEntry_step sdk rif w).1
      rw [if_neg (by decide)]
      split
      · next heq => rw [heq] at hfail; exact absurd rfl hfail
      · next status isAdd w₁ _ heq =>
        rw [heq] at hused hstep
        exact ⟨congrArg Pool.used hstep.nexthop, hused⟩

/-- Both ids are kept or given back. -/
structure IdsGo (rif : Oid) (w w' : NeighborCtx ch) : Prop where
  nh : LetsGo w.p.nhId w'.p.nhId w.nexthop.used w'.nexthop.used
  arp : LetsGo w.p.arpId w'.p.arpId w.arp.used w'.arp.used
  bridge : isBridgeRif rif = true → w'.p.arpId = w.p.arpId

theorem IdsGo.refl (w : NeighborCtx ch) : IdsGo rif w w := ⟨.refl _ _, .refl _ _, fun _ => rfl⟩

theorem neighborRemoveIpucNexthop_go (sdk : Sdk) (w : NeighborCtx ch) :
    LetsGo w.p.nhId (neighborRemoveIpucNexthop sdk w).2.p.nhId w.nexthop.used
        (neighborRemoveIpucNexthop sdk w).2.nexthop.used ∧
      (neighborRemoveIpucNexthop sdk w).2.p.arpId = w.p.arpId ∧
      (neighborRemoveIpucNexthop sdk w).2.arp = w.arp := by
  unfold neighborRemoveIpucNexthop
  dsimp only
  split
  · exact ⟨.refl _ _, rfl, rfl⟩
  · split
    · exact ⟨.inr ⟨rfl, rfl⟩, rfl, rfl⟩
    · exact ⟨.refl _ _, rfl, rfl⟩

/-- `_ctc_sai_neighbor_remove_nexthop`, whatever the SDK answers. -/
theorem neighborRemoveNexthop_go (sdk : Sdk) (rif : Oid) (w : NeighborCtx ch) :
    IdsGo rif w (neighborRemoveNexthop sdk rif w).2 := by
  unfold neighborRemoveNexthop
  cases ch.rif rif with
  | none => exact .refl w
  | some ri =>
    dsimp only
    split
    · exact ⟨.inr ⟨rfl, rfl⟩, .refl _ _, fun _ => rfl⟩
    next hb =>
    obtain ⟨hgo, harpId, harp⟩ := neighborRemoveIpucNexthop_go sdk w
    have hstep := @neighborRemoveArpEntry_step ch sdk (neighborRemoveIpucNexthop sdk w).2
    refine ⟨?_, ?_, fun hc => absurd hc hb⟩
    · rw [hstep.nhId, hstep.nexthop]
      exact hgo
    · rw [← harpId, ← harp]
      unfold neighborRemoveArpEntry
      dsimp only
      split
      · exact .inr ⟨rfl, rfl⟩
      · exact .refl _ _

theorem neighborRemoveNexthop_gives {w : NeighborCtx ch} (h : RemoveGives ch sdk rif w.p)
    (hb : isBridgeRif rif = true → w.p.arpId = 0) :
    (neighborRemoveNexthop sdk rif w).2.p.nhId = 0 ∧
      (neighborRemoveNexthop sdk rif w).2.p.arpId = 0 := by
  obtain ⟨hr, h⟩ := h
  obtain ⟨ri, hri⟩ := Option.isSome_iff_exists.mp hr
  unfold neighborRemoveNexthop
  rw [hri]
  cases hbr : isBridgeRif rif with
  | true => exact ⟨rfl, hb hbr⟩
  | false =>
    obtain ⟨hnh, harp⟩ := h.resolve_left (by rw [hbr]; decide)
    have hip : (neighborRemoveIpucNexthop sdk w).2.p.nhId = 0 ∧
        (neighborRemoveIpucNexthop sdk w).2.p.arpId = w.p.arpId := by
      unfold neighborRemoveIpucNexthop
      split
      · next h0 => exact ⟨h0, rfl⟩
      · next h0 =>
        rw [hnh.resolve_left h0]
        exact ⟨rfl, rfl⟩
    rw [if_neg (by decide)]
    rw [(neighborRemoveArpEntry_step _).nhId]
    refine ⟨hip.1, ?_⟩
    unfold neighborRemoveArpEntry
    dsimp only
    rw [hip.2]
    split
    · rfl
    next hne =>
    rcases harp with h0 | hrc
    · exact hip.2.trans h0
    · rw [hrc] at hne
      exact absurd rfl hne

/-! ## One record of the table -/

/-- A record counts a user, and has no ARP id on a bridge interface. -/
def Placed (k : NeighborKey) (x : Option Neighbor) : Prop :=
  ∀ p, x = some p → 1 ≤ p.refCnt ∧ (k.saiRifType = RifType.bridge.bits → p.arpId = 0)

def AllPlaced (db : NeighborDb ch) : Prop := ∀ k, Placed k (db.record k)

/-- A call rewrote the record at `k`, and its ids moved. -/
def Rewrote (db db' : NeighborDb ch) (k : NeighborKey) : Prop :=
  ∃ x, Wrote db db' k x ∧ Placed k x

theorem Rewrote.refl {db : NeighborDb ch} (h : AllPlaced db) (k : NeighborKey) : Rewrote db db k :=
  ⟨_, .refl db k, h k⟩

theorem Rewrote.allPlaced {db' : NeighborDb ch} (h : Rewrote db db' k) (hp : AllPlaced db) :
    AllPlaced db' := by
  obtain ⟨x, hw, hx⟩ := h
  intro a
  rw [hw.record]
  by_cases ha : a = k
  · subst ha
    rw [Function.update_self]
    exact hx
  · rw [Function.update_of_ne ha]
    exact hp a

theorem Rewrote.congr {m m' : NeighborDb ch} (h : Rewrote db m k) (ht : m'.table = m.table)
    (hn : m'.nexthop = m.nexthop) (ha : m'.arp = m.arp) :
    Rewrote db m' k := by
  obtain ⟨x, hw, hx⟩ := h
  refine ⟨x, ⟨?_, by rw [hn]; exact hw.nh, by rw [ha]; exact hw.arp⟩, hx⟩
  show Table.get m'.table = _
  rw [ht]
  exact hw.record

theorem put_put (db : NeighborDb ch) (k : NeighborKey) (w w' : NeighborCtx ch) :
    (db.put k w).put k w' = db.put k w' := by
  simp only [NeighborDb.put, AList.insert_insert]

theorem put_rewrote
    (hnh : Moves (idOf Neighbor.nhId (db.record k)) w.p.nhId db.nexthop.used w.nexthop.used)
    (harp : Moves (idOf Neighbor.arpId (db.record k)) w.p.arpId db.arp.used w.arp.used)
    (hx : Placed k (some w.p)) : Rewrote db (db.put k w) k :=
  ⟨some w.p, ⟨record_put db k w, hnh, harp⟩, hx⟩

/-- A worked-on record dropped: with its last reference it has let go of its
ids, else they are its own. -/
theorem drop_rewrote {byNextHop : Bool} (hb : (w.p.neighborExists || byNextHop) = true)
    (hlast : w.p.refCnt ≤ 1 →
      Moves (idOf Neighbor.nhId (db.record k)) 0 db.nexthop.used w.nexthop.used ∧
        Moves (idOf Neighbor.arpId (db.record k)) 0 db.arp.used w.arp.used)
    (hkeep : 2 ≤ w.p.refCnt →
      Moves (idOf Neighbor.nhId (db.record k)) w.p.nhId db.nexthop.used w.nexthop.used ∧
        Moves (idOf Neighbor.arpId (db.record k)) w.p.arpId db.arp.used w.arp.used ∧
        (k.saiRifType = RifType.bridge.bits → w.p.arpId = 0)) :
    Rewrote db (neighborRemoveDb (db.put k w) k byNextHop).2 k := by
  by_cases href : w.p.refCnt ≤ 1
  · obtain ⟨hnh, harp⟩ := hlast href
    exact ⟨none, wrote_drop hb href hnh harp, nofun⟩
  obtain ⟨hnh, harp, hbr⟩ := hkeep (by omega)
  have he : (neighborRemoveDb (db.put k w) k byNextHop).2 = db.put k { w with p := { w.p with
      neighborExists := byNextHop && w.p.neighborExists, refCnt := w.p.refCnt - 1 } } := by
    unfold neighborRemoveDb
    cases byNextHop with
    | false =>
      rw [Bool.or_false] at hb
      simp [hb, href, NeighborDb.put]
    | true => simp [href, NeighborDb.put]
  rw [he]
  refine put_rewrote hnh harp (fun p hp => ?_)
  cases hp
  exact ⟨by dsimp only; omega, hbr⟩

theorem zero_notMem_arp (pool : Pool ch.arp) : 0 ∉ pool.used :=
  fun h => absurd (ch.arp_pos h) (Nat.lt_irrefl 0)

/-! ## The neighbor API -/

section Ops

variable {db : NeighborDb ch} {ip : IpAddress}
variable {k : NeighborKey} {w : NeighborCtx ch}

/-- The context a call starts from: the ids of the record, and the pools. -/
structure StartsAt (db : NeighborDb ch) (k : NeighborKey) (w : NeighborCtx ch) : Prop where
  nhId : w.p.nhId = idOf Neighbor.nhId (db.record k)
  arpId : w.p.arpId = idOf Neighbor.arpId (db.record k)
  nexthop : w.nexthop = db.nexthop
  arp : w.arp = db.arp

theorem StartsAt.moves {w' : NeighborCtx ch} (h : StartsAt db k w) (hm : IdsMoved rif w w') :
    Moves (idOf Neighbor.nhId (db.record k)) w'.p.nhId db.nexthop.used w'.nexthop.used ∧
      Moves (idOf Neighbor.arpId (db.record k)) w'.p.arpId db.arp.used w'.arp.used := by
  rw [← h.nhId, ← h.arpId, ← h.nexthop, ← h.arp]
  exact ⟨hm.nh, hm.arp⟩

theorem bridge_arpId (hp : AllPlaced db) (hk : k.saiRifType = RifType.bridge.bits) :
    idOf Neighbor.arpId (db.record k) = 0 := by
  cases hr : db.record k with
  | none => rfl
  | some p => exact (hp k p hr).2 hk

theorem addFailed_rewrote (hp : AllPlaced db) {w' : NeighborCtx ch} {f : IpFamily} {st : Status}
    (hstart : StartsAt db (neighborKey rif ip) w)
    (href : w.p.refCnt = idOf Neighbor.refCnt (db.record (neighborKey rif ip)))
    (hadd : neighborAddNexthop sdk rif w f = (st, w')) (hst : st ≠ .success)
    (hsafe : AddSafe sdk rif (db.record (neighborKey rif ip)) w f) {byNextHop : Bool}
    (hb : (w.p.neighborExists || byNextHop) = true) :
    Rewrote db (neighborRemoveDb (db.put (neighborKey rif ip) w') (neighborKey rif ip)
      byNextHop).2 (neighborKey rif ip) := by
  have hstep := (neighborAddNexthop_step sdk rif w f).1
  rw [hadd] at hstep
  unfold AddSafe at hsafe
  rw [hadd] at hsafe
  replace hsafe := hsafe.resolve_left hst
  cases hr : db.record (neighborKey rif ip) with
  | none =>
    rw [hr] at hsafe href
    have h0 : w'.p.refCnt = 0 := hstep.refCnt.trans href
    have hids := hstart.nhId
    have harpId := hstart.arpId
    rw [hr] at hids harpId
    obtain ⟨hnh, harp⟩ := neighborAddNexthop_failed (by rw [hadd]; exact hst) hsafe harpId
    rw [hadd] at hnh harp
    refine drop_rewrote (by rw [hstep.exists_]; exact hb) (fun _ => ?_) (fun hc => by omega)
    rw [hr, ← hstart.nexthop, ← hstart.arp]
    exact ⟨.keep rfl hnh, .keep rfl harp⟩
  | some p =>
    rw [hr] at hsafe href
    have hids : HasIds rif w.p := by
      have hn := hstart.nhId
      have ha := hstart.arpId
      rw [hr] at hn ha
      exact ⟨by rw [hn]; exact hsafe.2.nh, fun hbr => by rw [ha]; exact hsafe.2.arp hbr⟩
    obtain ⟨g, hg⟩ := neighborAddNexthop_held sdk hids f
    rw [hadd] at hg
    have hw : w' = { w with p := { w.p with gport := g } } := hg
    have hcnt : 2 ≤ w'.p.refCnt := by
      rw [hstep.refCnt, href]
      exact hsafe.1
    obtain ⟨hnh, harp⟩ := hstart.moves (@IdsMoved.refl ch rif w)
    refine drop_rewrote (by rw [hstep.exists_]; exact hb) (fun hc => by omega) (fun _ => ?_)
    rw [hw]
    refine ⟨hnh, harp, fun hk => ?_⟩
    exact hstart.arpId.trans (bridge_arpId hp hk)

theorem createNeighborFinish_rewrote {m : NeighborDb ch} (attrs : List NeighborAttr)
    (hm : ∀ w', m.put (neighborKey rif ip) w' = db.put (neighborKey rif ip) w')
    (hnh : Moves (idOf Neighbor.nhId (db.record (neighborKey rif ip))) w.p.nhId
      db.nexthop.used w.nexthop.used)
    (harp : Moves (idOf Neighbor.arpId (db.record (neighborKey rif ip))) w.p.arpId
      db.arp.used w.arp.used) (hbr : isBridgeRif rif = true → w.p.arpId = 0)
    (hex : w.p.neighborExists = true) (hsafe : createNoHostRoute attrs w.p = true ∨
      createHostRoute ch sdk rif ip attrs
        { w.p with noHostRoute := createNoHostRoute attrs w.p } = .success ∨
      2 ≤ w.p.refCnt ∨ RemoveGives ch sdk rif w.p) :
    Rewrote db (createNeighborFinish sdk m rif ip attrs w).2 (neighborKey rif ip) := by
  have hkey : (neighborKey rif ip).saiRifType = RifType.bridge.bits → isBridgeRif rif = true :=
    fun hk => decide_eq_true hk
  unfold createNeighborFinish
  dsimp only
  split
  · next hfail =>
    -- error2: the next hop goes, then the record
    have hgo := neighborRemoveNexthop_go sdk rif
      { w with p := { w.p with noHostRoute := createNoHostRoute attrs w.p } }
    have hstep := neighborRemoveNexthop_step sdk rif
      { w with p := { w.p with noHostRoute := createNoHostRoute attrs w.p } }
    have hgives := @neighborRemoveNexthop_gives ch sdk rif
      { w with p := { w.p with noHostRoute := createNoHostRoute attrs w.p } }
    have hnh' := hnh.letsGo (zero_notMem_nexthop _) hgo.nh
    have harp' := harp.letsGo (zero_notMem_arp _) hgo.arp
    rw [hm]
    refine drop_rewrote (by rw [hstep.exists_, hex]; rfl) (fun hlast => ?_) (fun _ => ?_)
    · rw [hstep.refCnt] at hlast
      rcases hsafe with h | h | h | h
      · rw [h] at hfail; cases hfail.1
      · exact absurd h hfail.2
      · exact absurd hlast (by dsimp only; omega)
      obtain ⟨h1, h2⟩ := hgives h hbr
      rw [h1] at hnh'
      rw [h2] at harp'
      exact ⟨hnh', harp'⟩
    · exact ⟨hnh', harp', fun hk => (hgo.bridge (hkey hk)).trans (hbr (hkey hk))⟩
  · rw [hm]
    have hput : Rewrote db (db.put (neighborKey rif ip) { w with p := { w.p with
        noHostRoute := createNoHostRoute attrs w.p, refCnt := w.p.refCnt + 1 } })
        (neighborKey rif ip) := by
      refine put_rewrote hnh harp (fun q hq => ?_)
      cases hq
      exact ⟨Nat.le_add_left 1 _, fun hk => hbr (hkey hk)⟩
    exact hput.congr rfl rfl rfl

/-- `_ctc_sai_neighbor_add_nexthop` where it succeeds, or the record has its
ids. -/
theorem addNexthop_again {f : IpFamily} (h : AgainAddable sdk rif w f) :
    IdsMoved rif w (neighborAddNexthop sdk rif w f).2 := by
  rcases h with h | h
  · exact neighborAddNexthop_moves (Prod.ext h rfl)
  · obtain ⟨g, hg⟩ := neighborAddNexthop_held sdk h f
    rw [hg]
    exact ⟨.refl _ _, .refl _ _, fun _ => rfl⟩

theorem createBase_ids (o : Option Neighbor) :
    (createBase o).nhId = idOf Neighbor.nhId o ∧ (createBase o).arpId = idOf Neighbor.arpId o ∧
      (createBase o).refCnt = idOf Neighbor.refCnt o ∧ (createBase o).neighborExists = true := by
  cases o <;> exact ⟨rfl, rfl, rfl, rfl⟩

theorem createNeighbor_rewrote (hp : AllPlaced db) {attrs : List NeighborAttr}
    (hsafe : CreateNeighborSafe sdk db rif ip attrs) :
    Rewrote db (createNeighbor sdk db rif ip attrs).2 (neighborKey rif ip) := by
  unfold createNeighbor
  dsimp only
  rcases neighborBuildDb_create_any sdk db (neighborKey rif ip) with
    ⟨status, p, hne, he⟩ | ⟨_, he⟩
  · rw [he]
    split
    · next heq => cases heq; exact absurd rfl hne
    · next heq => cases heq; exact .refl hp _
  have hs := hsafe _ _ he
  rw [he]
  obtain ⟨hnhId, harpId, href, hex⟩ := createBase_ids (db.record (neighborKey rif ip))
  generalize hbase : createBase (db.record (neighborKey rif ip)) = base at *
  cases hmac : findAttribInList NeighborAttr.dstMacAddress? attrs with
  | none =>
    rw [hmac] at hs
    refine drop_rewrote (by rw [show (db.ctx base).p = base from rfl, hex]; rfl)
      (fun hlast => ?_) (fun _ => ?_)
    · have hnone := hs.resolve_right (fun h2 => absurd hlast (by
        rw [show (db.ctx base).p = base from rfl]; omega))
      rw [hnone]
      exact ⟨.refl _ _, .refl _ _⟩
    · show Moves _ base.nhId _ _ ∧ Moves _ base.arpId _ _ ∧ _
      rw [hnhId, harpId]
      exact ⟨.refl _ _, .refl _ _, fun hk => harpId.trans (bridge_arpId hp hk)⟩
  | some mac =>
    rw [hmac] at hs
    dsimp only at hs ⊢
    obtain ⟨hadd, hroute⟩ := hs
    have hstart : StartsAt db (neighborKey rif ip)
        ((db.put (neighborKey rif ip) (db.ctx base)).ctx (createNeighborFill base mac attrs)) :=
      ⟨hnhId, harpId, rfl, rfl⟩
    have hstep := (neighborAddNexthop_step sdk rif
      ((db.put (neighborKey rif ip) (db.ctx base)).ctx (createNeighborFill base mac attrs))
      ip.addrFamily).1
    split
    · next w hw =>
      rw [hw] at hstep
      have hmv := neighborAddNexthop_moves hw
      obtain ⟨hnh, harp⟩ := hstart.moves hmv
      refine createNeighborFinish_rewrote attrs (fun w' => put_put _ _ _ _) hnh harp
        (fun hb => ?_) (hstep.exists_.trans hex) ?_
      · exact (hmv.bridge hb).trans (hstart.arpId.trans (bridge_arpId hp (of_decide_eq_true hb)))
      · have hr := hroute w hw
        rw [hstep.refCnt]
        exact hr
    · next status w hne hw =>
      rw [put_put]
      exact addFailed_rewrote hp hstart href hw hne hadd ((Bool.or_false _).trans hex)

theorem neighborRemoveNeighbor_rewrote (hp : AllPlaced db)
    (hsafe : RemoveNeighborSafe sdk db rif ip) :
    Rewrote db (neighborRemoveNeighbor sdk db rif ip).2 (neighborKey rif ip) := by
  have habsent : (∀ p, db.record (neighborKey rif ip) = some p → p.neighborExists = false) →
      Rewrote db (neighborRemoveNeighbor sdk db rif ip).2 (neighborKey rif ip) := by
    intro h
    rw [neighborRemoveNeighbor_absent h]
    exact .refl hp _
  cases hr : db.record (neighborKey rif ip) with
  | none => exact habsent (by rw [hr]; nofun)
  | some p =>
    cases hex : p.neighborExists with
    | false => exact habsent (by rw [hr]; rintro _ ⟨⟩; exact hex)
    | true =>
      have hs := hsafe p hr hex
      have hbr : isBridgeRif rif = true → p.arpId = 0 :=
        fun hb => (hp _ p hr).2 (of_decide_eq_true hb)
      rw [neighborRemoveNeighbor_eq hr hex]
      by_cases href : p.refCnt ≤ 1
      · rw [if_pos href] at hs
        have hgo := neighborRemoveNexthop_go sdk rif (db.ctx p)
        have hstep := neighborRemoveNexthop_step sdk rif (db.ctx p)
        obtain ⟨h1, h2⟩ := @neighborRemoveNexthop_gives ch sdk rif (db.ctx p) hs hbr
        unfold neighborRelease
        rw [if_pos href]
        refine drop_rewrote (by rw [hstep.exists_]; exact (Bool.or_false _).trans hex)
          (fun _ => ?_) (fun hc => ?_)
        · have hnh := hgo.nh.moves
          have harp := hgo.arp.moves
          rw [h1] at hnh
          rw [h2] at harp
          rw [hr]
          exact ⟨hnh, harp⟩
        · rw [hstep.refCnt] at hc
          exact absurd hc (by change ¬ 2 ≤ p.refCnt; omega)
      · -- a next hop still uses the record, which is programmed again
        rw [if_neg href] at hs
        unfold neighborRelease
        rw [if_neg href]
        generalize ((ch.rif rif).map (·.neighborMissAction)).getD p.action = action at hs ⊢
        have hstart : StartsAt db (neighborKey rif ip)
            (db.ctx { p with action := action, destMac := 0 }) := by
          constructor <;> first | rfl | (rw [hr]; rfl)
        have hmv : IdsMoved rif (db.ctx { p with action := action, destMac := 0 })
            (neighborAddNexthop sdk rif (db.ctx { p with action := action, destMac := 0 })
              ip.addrFamily).2 :=
          addNexthop_again hs
        have hstep := (neighborAddNexthop_step sdk rif
          (db.ctx { p with action := action, destMac := 0 }) ip.addrFamily).1
        obtain ⟨hnh, harp⟩ := hstart.moves hmv
        refine drop_rewrote (by rw [hstep.exists_]; exact (Bool.or_false _).trans hex)
          (fun hc => ?_) (fun _ => ⟨hnh, harp, fun hk => ?_⟩)
        · rw [hstep.refCnt] at hc
          exact absurd hc href
        · exact (hmv.bridge (decide_eq_true hk)).trans (hbr (decide_eq_true hk))

theorem removeNeighbor_rewrote (hp : AllPlaced db) (hsafe : RemoveNeighborSafe sdk db rif ip) :
    Rewrote db (removeNeighbor sdk db rif ip).2 (neighborKey rif ip) := by
  have h := neighborRemoveNeighbor_rewrote hp hsafe
  by_cases hst : (neighborRemoveNeighbor sdk db rif ip).1 = .success
  · rw [removeNeighbor_success hst]
    exact h.congr rfl rfl rfl
  · rw [removeNeighbor_failure hst]
    exact h

theorem removeAllStep_rewrote (hp : AllPlaced db)
    (hsafe : RemoveNeighborSafe sdk db (k.rif ch.lchip) k.ip) :
    Rewrote db (removeAllStep sdk db k) k := by
  have h := neighborRemoveNeighbor_rewrote hp hsafe
  rw [neighborKey_rif] at h
  exact h.congr rfl rfl rfl

theorem setNeighborReprogram_rewrote (hp : AllPlaced db) {p q : Neighbor}
    (hr : db.record (neighborKey rif ip) = some p) (hnh : q.nhId = p.nhId)
    (harp : q.arpId = p.arpId) (href : q.refCnt = p.refCnt)
    (hsafe : AgainAddable sdk rif (db.ctx q) ip.addrFamily) :
    Rewrote db (setNeighborReprogram sdk db rif ip p q).2 (neighborKey rif ip) := by
  have hstart : StartsAt db (neighborKey rif ip) (db.ctx q) := by
    refine ⟨?_, ?_, rfl, rfl⟩
    · rw [hr]; exact hnh
    · rw [hr]; exact harp
  have hstep := (neighborAddNexthop_step sdk rif (db.ctx q) ip.addrFamily).1
  unfold setNeighborReprogram
  split
  · next w hw =>
    rw [hw] at hstep
    have hmv := neighborAddNexthop_moves hw
    obtain ⟨hm, ha⟩ := hstart.moves hmv
    refine put_rewrote hm ha (fun x hx => ?_)
    cases hx
    refine ⟨?_, fun hk => ?_⟩
    · rw [hstep.refCnt]
      exact (hp _ p hr).1.trans (Nat.le_of_eq href.symm)
    · exact (hmv.bridge (decide_eq_true hk)).trans (harp.trans ((hp _ p hr).2 hk))
  next status w hne hw =>
  have hids := hsafe.resolve_left (by rw [hw]; exact hne)
  obtain ⟨g, hg⟩ := neighborAddNexthop_held sdk hids ip.addrFamily
  rw [hw] at hg
  have he : w = { db.ctx q with p := { (db.ctx q).p with gport := g } } := hg
  rw [he]
  refine put_rewrote ?_ ?_ ?_
  · rw [hr]; exact .refl _ _
  · rw [hr]; exact .refl _ _
  · rw [← hr]
    exact hp _

theorem setNeighborAttr_rewrote (hp : AllPlaced db) {attr : NeighborAttr}
    (hsafe : SetNeighborSafe sdk db rif ip attr) :
    Rewrote db (setNeighborAttr sdk db rif ip attr).2 (neighborKey rif ip) := by
  unfold setNeighborAttr
  split
  · exact .refl hp _
  split
  · exact .refl hp _
  next p hl =>
  split
  · exact .refl hp _
  next hex =>
  rw [Bool.not_eq_true', Bool.not_eq_false] at hex
  cases attr with
  | dstMacAddress _ | packetAction _ =>
    exact setNeighborReprogram_rewrote hp hl rfl rfl rfl (hsafe p _ hl hex rfl)
  | noHostRoute b =>
    unfold setNeighborRecord
    dsimp only
    split
    · have hput : Rewrote db (db.put (neighborKey rif ip)
          (db.ctx { p with noHostRoute := b })) (neighborKey rif ip) := by
        refine put_rewrote ?_ ?_ (fun x hx => ?_)
        · rw [NeighborDb.record_eq, hl]; exact .refl _ _
        · rw [NeighborDb.record_eq, hl]; exact .refl _ _
        · cases hx
          exact hp _ p hl
      exact hput
    · exact .refl hp _
  | userTrapId => exact .refl hp _
  | metaData => exact .refl hp _
  | counterId => exact .refl hp _

theorem removeAllNeighbor_rewrote {I : NeighborDb ch → Prop}
    (hI : ∀ db db' k, I db → AllPlaced db → Rewrote db db' k → I db') (hp : AllPlaced db)
    (h0 : I db) (hsafe : RemoveAllSafe sdk db.table.keys db) :
    I (removeAllNeighbor sdk db).2 := by
  show I (db.table.keys.foldl (removeAllStep sdk) db)
  generalize db.table.keys = ks at hsafe
  induction ks generalizing db with
  | nil => exact h0
  | cons k ks ih =>
    have hk := removeAllStep_rewrote hp hsafe.1
    exact ih (hk.allPlaced hp) (hI _ _ k h0 hp hk) hsafe.2

/-! ## Next hops of type IP -/

theorem allocFinish_rewrote (hp : AllPlaced db) {m : NeighborDb ch} {p : Neighbor}
    (hm : ∀ w, m.put (neighborKey rif ip) w = db.put (neighborKey rif ip) w)
    (hstart : StartsAt db (neighborKey rif ip) (m.ctx p))
    (href : p.refCnt = idOf Neighbor.refCnt (db.record (neighborKey rif ip)))
    (hsafe : AddSafe sdk rif (db.record (neighborKey rif ip)) (m.ctx p) ip.addrFamily) :
    Rewrote db (allocFinish sdk rif ip m p).2.2 (neighborKey rif ip) := by
  unfold allocFinish
  split
  · next w hw =>
    have hmv := neighborAddNexthop_moves hw
    obtain ⟨hnh, harp⟩ := hstart.moves hmv
    rw [hm]
    refine put_rewrote hnh harp (fun q hq => ?_)
    cases hq
    refine ⟨Nat.le_add_left 1 _, fun hk => ?_⟩
    exact (hmv.bridge (decide_eq_true hk)).trans (hstart.arpId.trans (bridge_arpId hp hk))
  · next status w hne hw =>
    rw [hm]
    exact addFailed_rewrote hp hstart href hw hne hsafe (Bool.or_true _)

theorem neighborAllocIpucNexthop_rewrote (hp : AllPlaced db) (hsafe : AllocIpucSafe sdk db rif ip) :
    Rewrote db (neighborAllocIpucNexthop sdk db rif ip).2.2 (neighborKey rif ip) := by
  cases hr : db.record (neighborKey rif ip) with
  | some p =>
    have hpos : p.refCnt ≠ 0 := Nat.ne_of_gt (hp _ p hr).1
    have hbuild := @neighborBuildDb_nextHop_some ch sdk db p (neighborKey rif ip) hr
    have he : neighborAllocIpucNexthop sdk db rif ip = allocFinish sdk rif ip db p := by
      unfold neighborAllocIpucNexthop
      dsimp only
      rw [hbuild]
      dsimp only
      rw [if_neg hpos]
      rfl
    rw [he]
    refine allocFinish_rewrote hp (fun _ => rfl) ?_ ?_ (hsafe p db p.action hbuild (if_neg hpos))
    · constructor <;> first | rfl | (rw [hr]; rfl)
    · rw [hr]; rfl
  | none =>
    have hl := hr
    rw [NeighborDb.record_eq] at hl
    have hs : ∀ p m action, _ → _ → _ := hsafe
    unfold neighborBuildDb neighborPropertyAdd at hs
    unfold neighborAllocIpucNexthop neighborBuildDb neighborPropertyAdd
    simp only [hl] at hs ⊢
    cases hm1 : sdk.mem .neighbor with
    | false => exact .refl hp _
    | true =>
      cases hm2 : sdk.mem .entryNode with
      | false => exact .refl hp _
      | true =>
        simp only [hm1, hm2, if_true] at hs ⊢
        cases hri : ch.rif rif with
        | none =>
          have hdrop : Rewrote db (neighborRemoveDb (db.put (neighborKey rif ip)
              (db.ctx (.new true))) (neighborKey rif ip) true).2 (neighborKey rif ip) := by
            refine drop_rewrote (Bool.or_true _) (fun _ => ?_) (fun hc => ?_)
            · rw [hr]
              exact ⟨.refl _ _, .refl _ _⟩
            · exact absurd hc (by change ¬ 2 ≤ 0; decide)
          exact hdrop
        | some ri =>
          have hadd := hs (.new true) _ ri.neighborMissAction rfl (by rw [hri]; rfl)
          refine allocFinish_rewrote (m := db.put (neighborKey rif ip)
            (db.ctx (.new true))) hp (fun w => put_put _ _ _ _) ?_ ?_ hadd
          · constructor <;> first | rfl | (rw [hr]; rfl)
          · rw [hr]; rfl

theorem neighborFreeIpucNexthop_rewrote (hp : AllPlaced db) {nhId : Nat}
    (hsafe : FreeIpucSafe sdk db rif ip nhId) :
    Rewrote db (neighborFreeIpucNexthop sdk db rif ip nhId).2 (neighborKey rif ip) := by
  unfold neighborFreeIpucNexthop
  dsimp only
  cases hl : db.table.lookup (neighborKey rif ip) with
  | none => exact .refl hp _
  | some p =>
    have hpos := (hp _ p hl).1
    have hbr : isBridgeRif rif = true → p.arpId = 0 :=
      fun hb => (hp _ p hl).2 (of_decide_eq_true hb)
    dsimp only
    split
    · exact .refl hp _
    next hid =>
    rw [not_not] at hid
    split
    · next href =>
      have hgo := neighborRemoveNexthop_go sdk rif (db.ctx p)
      have hstep := neighborRemoveNexthop_step sdk rif (db.ctx p)
      obtain ⟨h1, h2⟩ :=
        @neighborRemoveNexthop_gives ch sdk rif (db.ctx p) (hsafe p hl hid href) hbr
      refine drop_rewrote (Bool.or_true _) (fun _ => ?_) (fun hc => ?_)
      · have hnh := hgo.nh.moves
        have harp := hgo.arp.moves
        rw [h1] at hnh
        rw [h2] at harp
        rw [NeighborDb.record_eq, hl]
        exact ⟨hnh, harp⟩
      · rw [hstep.refCnt] at hc
        exact absurd hc (by change ¬ 2 ≤ p.refCnt; omega)
    · next href =>
      have hput : Rewrote db (db.put (neighborKey rif ip)
          (db.ctx { p with refCnt := p.refCnt - 1 })) (neighborKey rif ip) := by
        refine put_rewrote ?_ ?_ (fun x hx => ?_)
        · rw [NeighborDb.record_eq, hl]; exact .refl _ _
        · rw [NeighborDb.record_eq, hl]; exact .refl _ _
        · cases hx
          exact ⟨(by omega : 1 ≤ p.refCnt - 1), (hp _ p hl).2⟩
      exact hput

end Ops

end CtcSai
