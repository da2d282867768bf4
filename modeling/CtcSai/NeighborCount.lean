/-
# `NeighborCount` — the neighbor counters of the switch

`neighbor_cnt[f]` against the records of family `f` that a neighbor holds, in
runs under an SDK that may fail at any call.  Nothing is known then of what
hardware holds; of the table this much is: every operation rewrites one record
(`Touched`), a record is counted at least once and a neighbor's record has its
ids (`Counted`), and ids in use stay in use unless their record lets go of them
(`Ownership.Shifts`).  The last bounds the records of neighbors by the pool, so
the 32 bits of a counter suffice.

Each operation is then one equation between the counter and the record before
and after (`Tallied`), which counting carries to the whole table.
-/
import CtcSai.SharedRecord

namespace CtcSai

open Function IdPool KeyedTable Ownership Runs Table

variable {ch : Chip} {sdk : Sdk} {rif : Oid}
variable {w : NeighborCtx ch} {db db' nbr : NeighborDb ch} {k : NeighborKey} {x : Option Neighbor}

/-! ## One record, under any SDK -/

/-- What an operation does to a record it works on: its place among the users
stays, and its next-hop id shifts. -/
structure CtxStep (w w' : NeighborCtx ch) : Prop where
  nh : Shifts w.p.nhId w'.p.nhId w.nexthop.used w'.nexthop.used
  exists_ : w'.p.neighborExists = w.p.neighborExists
  refCnt : w'.p.refCnt = w.p.refCnt

theorem CtxStep.refl (w : NeighborCtx ch) : CtxStep w w := ⟨.refl _ _, rfl, rfl⟩

theorem zero_notMem_nexthop (pool : Pool ch.nexthop) : 0 ∉ pool.used :=
  fun h => absurd (ch.nexthop_pos h) (Nat.lt_irrefl 0)

theorem CtxStep.trans {w₁ w₂ : NeighborCtx ch} (h : CtxStep w w₁) (h' : CtxStep w₁ w₂) :
    CtxStep w w₂ where
  nh := h.nh.trans (zero_notMem_nexthop _) h'.nh
  exists_ := h'.exists_.trans h.exists_
  refCnt := h'.refCnt.trans h.refCnt

/-- An operation on the ARP id leaves the next hop alone. -/
structure ArpStep (w w' : NeighborCtx ch) : Prop where
  nhId : w'.p.nhId = w.p.nhId
  nexthop : w'.nexthop = w.nexthop
  exists_ : w'.p.neighborExists = w.p.neighborExists
  refCnt : w'.p.refCnt = w.p.refCnt

theorem ArpStep.refl (w : NeighborCtx ch) : ArpStep w w := ⟨rfl, rfl, rfl, rfl⟩

theorem ArpStep.ctx {w' : NeighborCtx ch} (h : ArpStep w w') : CtxStep w w' :=
  ⟨by rw [h.nhId, h.nexthop]; exact .refl _ _, h.exists_, h.refCnt⟩

theorem neighborAllocArp_step {w' : NeighborCtx ch} {isAdd : Bool}
    (h : neighborAllocArp w = some (isAdd, w')) : ArpStep w w' ∧ w'.p.arpId ≠ 0 := by
  unfold neighborAllocArp at h
  split at h
  · rw [Option.map_eq_some_iff] at h
    obtain ⟨⟨i, q⟩, hq, he⟩ := h
    cases he
    exact ⟨⟨rfl, rfl, rfl, rfl⟩, (moves_alloc (arp_lo_pos ch) hq).1⟩
  · next h0 => cases h; exact ⟨.refl w, h0⟩

theorem addArpError1_step (isAdd : Bool) (status : Status) (w : NeighborCtx ch) :
    ArpStep w (addArpError1 isAdd status w).2.2 := by
  unfold addArpError1
  cases isAdd <;> exact ⟨rfl, rfl, rfl, rfl⟩

variable (sdk rif) in
theorem neighborAddArpEntry_step (w : NeighborCtx ch) :
    ArpStep w (neighborAddArpEntry sdk rif w).2.2 ∧
      ((neighborAddArpEntry sdk rif w).1 = .success →
        (neighborAddArpEntry sdk rif w).2.2.p.arpId ≠ 0) := by
  unfold neighborAddArpEntry
  cases hal : neighborAllocArp w with
  | none => exact ⟨.refl w, fun h => by cases h⟩
  | some r =>
    obtain ⟨isAdd, w₁⟩ := r
    obtain ⟨hstep, hid⟩ := neighborAllocArp_step hal
    have herr : ∀ status (w₂ : NeighborCtx ch), ArpStep w₁ w₂ → status ≠ .success →
        ArpStep w (addArpError1 isAdd status w₂).2.2 ∧
          ((addArpError1 isAdd status w₂).1 = .success →
            (addArpError1 isAdd status w₂).2.2.p.arpId ≠ 0) := by
      intro status w₂ h₂ hne
      have h₃ := addArpError1_step isAdd status w₂
      exact ⟨⟨h₃.nhId.trans (h₂.nhId.trans hstep.nhId),
        h₃.nexthop.trans (h₂.nexthop.trans hstep.nexthop),
        h₃.exists_.trans (h₂.exists_.trans hstep.exists_),
        h₃.refCnt.trans (h₂.refCnt.trans hstep.refCnt)⟩, fun h => absurd h hne⟩
    dsimp only
    cases ch.rif rif with
    | none => exact herr _ _ (.refl _) (by decide)
    | some ri =>
      cases arpActionFlags w₁.p.action with
      | none => exact herr _ _ (.refl _) (by decide)
      | some flags =>
        dsimp only
        generalize mappingErrorCtc (sdk.rc _) = status
        split
        · exact ⟨⟨hstep.nhId, hstep.nexthop, hstep.exists_, hstep.refCnt⟩, fun _ => hid⟩
        · next hne => exact herr _ _ ⟨rfl, rfl, rfl, rfl⟩ hne

theorem neighborRemoveArpEntry_step (w : NeighborCtx ch) :
    ArpStep w (neighborRemoveArpEntry sdk w).2 := by
  unfold neighborRemoveArpEntry
  dsimp only
  split
  · exact ⟨rfl, rfl, rfl, rfl⟩
  · exact .refl w

/-- A failure after an allocation: the id is lost or given back, and the record
has none, as before. -/
theorem shifts_failed {p q r : Pool ch.nexthop} {i : Nat} (h : p.alloc = some (i, q))
    (hr : q.used.erase i ⊆ r.used) : Shifts 0 0 p.used r.used := by
  obtain ⟨hfresh, _, _, hused, _⟩ := Pool.alloc_some h
  rw [hused, Finset.erase_insert hfresh] at hr
  exact ⟨(Finset.erase_subset _ _).trans hr, .inl rfl⟩

theorem NexthopAdd.step {r : Status × NeighborCtx ch} {lost : Bool} (h : NexthopAdd w lost r) :
    CtxStep w r.2 ∧ r.2.p.arpId = w.p.arpId ∧ (r.1 = .success → r.2.p.nhId ≠ 0) := by
  cases h with
  | full => exact ⟨.refl w, rfl, nofun⟩
  | added h0 hal =>
    obtain ⟨hi, hm⟩ := moves_alloc (nexthop_lo_pos ch) hal
    exact ⟨⟨by rw [h0]; exact hm.shifts, rfl, rfl⟩, rfl, fun _ => hi⟩
  | @refused i q _ h0 hal hne =>
    refine ⟨⟨?_, rfl, rfl⟩, rfl, fun h => absurd h hne⟩
    show Shifts w.p.nhId w.p.nhId w.nexthop.used (q.free (cond lost 0 i)).used
    rw [h0]
    refine shifts_failed hal ?_
    cases lost with
    | false => exact Finset.Subset.refl _
    | true =>
      -- zero is freed, so the id just taken is lost
      rw [Pool.used_free]
      intro a ha
      rw [Finset.mem_erase] at ha ⊢
      refine ⟨?_, ha.2⟩
      rintro rfl
      exact zero_notMem_nexthop q ha.2
  | updated h0 => exact ⟨.refl w, rfl, fun _ => h0⟩

variable (sdk rif) in
/-- `_ctc_sai_neighbor_add_nexthop`, whatever the SDK answers. -/
theorem neighborAddNexthop_step (w : NeighborCtx ch) (f : IpFamily) :
    CtxStep w (neighborAddNexthop sdk rif w f).2 ∧
      ((neighborAddNexthop sdk rif w f).1 = .success →
        HasIds rif (neighborAddNexthop sdk rif w f).2.p) := by
  unfold neighborAddNexthop
  cases hr : ch.rif rif with
  | none => exact ⟨.refl w, fun h => by cases h⟩
  | some ri =>
    dsimp only
    split
    · next hb =>
      obtain ⟨hstep, -, hid⟩ := (neighborAddMiscNexthop_cases sdk ri w f).step
      exact ⟨hstep, fun h => ⟨hid h, fun hf => by rw [hb] at hf; cases hf⟩⟩
    next hb =>
    obtain ⟨harp, harpId⟩ := neighborAddArpEntry_step sdk rif w
    cases he : neighborAddArpEntry sdk rif w with
    | mk status r =>
      obtain ⟨isAdd, w₁⟩ := r
      rw [he] at harp harpId
      by_cases hst : status = .success
      · subst hst
        obtain ⟨hstep, hsame, hid⟩ := (neighborAddIpucNexthop_cases sdk ri w₁).step
        dsimp only
        split
        · next w₂ heq =>
          rw [heq] at hstep hsame hid
          refine ⟨harp.ctx.trans hstep, fun _ => ⟨hid rfl, fun _ => ?_⟩⟩
          rw [hsame]
          exact harpId rfl
        next status w₂ hne heq =>
        rw [heq] at hstep
        refine ⟨?_, fun h => absurd h hne⟩
        split
        · exact harp.ctx.trans (hstep.trans (neighborRemoveArpEntry_step w₂).ctx)
        · exact harp.ctx.trans hstep
      · split
        · next heq => cases heq; exact absurd rfl hst
        · next heq => cases heq; exact ⟨harp.ctx, fun h => absurd h hst⟩

theorem neighborRemoveIpucNexthop_step (w : NeighborCtx ch) :
    CtxStep w (neighborRemoveIpucNexthop sdk w).2 := by
  unfold neighborRemoveIpucNexthop
  dsimp only
  split
  · exact .refl w
  · split
    · exact ⟨⟨Finset.Subset.refl _, .inl rfl⟩, rfl, rfl⟩
    · exact .refl w

variable (sdk rif) in
/-- `_ctc_sai_neighbor_remove_nexthop`, whatever the SDK answers. -/
theorem neighborRemoveNexthop_step (w : NeighborCtx ch) :
    CtxStep w (neighborRemoveNexthop sdk rif w).2 := by
  unfold neighborRemoveNexthop
  cases ch.rif rif with
  | none => exact .refl w
  | some ri =>
    dsimp only
    split
    · exact ⟨⟨Finset.Subset.refl _, .inl rfl⟩, rfl, rfl⟩
    · exact (neighborRemoveIpucNexthop_step w).trans (neighborRemoveArpEntry_step _).ctx

/-! ## One record of the table, under any SDK -/

/-- The database after a call that rewrote the record at `k`. -/
structure Touched (db db' : NeighborDb ch) (k : NeighborKey) (x : Option Neighbor) : Prop where
  record : db'.record = update db.record k x
  nh : Shifts (idOf Neighbor.nhId (db.record k)) (idOf Neighbor.nhId x)
    db.nexthop.used db'.nexthop.used

/-- A record that a neighbor of family `f` holds. -/
def heldBy (f : IpFamily) (k : NeighborKey) (p : Neighbor) : Bool :=
  p.neighborExists && decide (k.ip.addrFamily = f)

/-- What the record at `k` adds to the counter of `f`. -/
def tally (f : IpFamily) (k : NeighborKey) (o : Option Neighbor) : BitVec 32 :=
  BitVec.ofNat 32 (unitAt (heldBy f) k o)

/-- A record counts at least one user, and one of a neighbor has its ids. -/
def Counted (rif : Oid) (o : Option Neighbor) : Prop :=
  ∀ p, o = some p → 1 ≤ p.refCnt ∧ (p.neighborExists = true → HasIds rif p)

/-- Besides, the counters moved as the record did. -/
structure Effect (rif : Oid) (db db' : NeighborDb ch) (k : NeighborKey) (x : Option Neighbor) : Prop
    extends Touched db db' k x where
  counted : Counted rif x
  tallied : ∀ f, db'.neighborCnt f + tally f k (db.record k) = db.neighborCnt f + tally f k x

/-- Whether a neighbor holds the record at a place. -/
def existsAt (o : Option Neighbor) : Bool := (o.map Neighbor.neighborExists).getD false

theorem tally_eq (f : IpFamily) (k : NeighborKey) (o : Option Neighbor) :
    tally f k o = if existsAt o = true ∧ k.ip.addrFamily = f then 1 else 0 := by
  cases o with
  | none => rfl
  | some p =>
    show BitVec.ofNat 32 (if heldBy f k p then 1 else 0) = _
    have hb : heldBy f k p = true ↔ existsAt (some p) = true ∧ k.ip.addrFamily = f := by
      rw [heldBy, Bool.and_eq_true, decide_eq_true_eq]
      rfl
    by_cases h : heldBy f k p = true
    · rw [if_pos h, if_pos (hb.mp h)]; rfl
    · rw [if_neg h, if_neg (fun h' => h (hb.mpr h'))]; rfl

theorem tallied_same (hc : db'.neighborCnt = db.neighborCnt)
    (he : existsAt x = existsAt (db.record k)) (f : IpFamily) :
    db'.neighborCnt f + tally f k (db.record k) = db.neighborCnt f + tally f k x := by
  rw [tally_eq, tally_eq, he, hc]

theorem tallied_add (hc : db'.neighborCnt = update db.neighborCnt k.ip.addrFamily
      (db.neighborCnt k.ip.addrFamily + 1)) (hold : existsAt (db.record k) = false)
    (hnew : existsAt x = true) (f : IpFamily) :
    db'.neighborCnt f + tally f k (db.record k) = db.neighborCnt f + tally f k x := by
  rw [tally_eq, tally_eq, hold, hnew, hc, update_apply]
  by_cases hf : f = k.ip.addrFamily
  · subst hf; simp
  · simp [hf, Ne.symm hf]

theorem tallied_sub (hc : db'.neighborCnt = update db.neighborCnt k.ip.addrFamily
      (db.neighborCnt k.ip.addrFamily - 1)) (hold : existsAt (db.record k) = true)
    (hnew : existsAt x = false) (f : IpFamily) :
    db'.neighborCnt f + tally f k (db.record k) = db.neighborCnt f + tally f k x := by
  rw [tally_eq, tally_eq, hold, hnew, hc, update_apply]
  by_cases hf : f = k.ip.addrFamily
  · subst hf
    rw [if_pos rfl, if_pos ⟨rfl, rfl⟩, if_neg (fun h => Bool.noConfusion h.1)]
    exact (BitVec.sub_add_cancel _ 1).trans (BitVec.add_zero _).symm
  · simp [hf, Ne.symm hf]

theorem Effect.refl {db : NeighborDb ch} {k : NeighborKey} (h : Counted rif (db.record k)) :
    Effect rif db db k (db.record k) :=
  ⟨⟨(update_eq_self k _).symm, .refl _ _⟩, h, fun _ => rfl⟩

theorem Effect.trans {db₁ db₂ : NeighborDb ch} {y : Option Neighbor} (h : Effect rif db db₁ k x)
    (h' : Effect rif db₁ db₂ k y) : Effect rif db db₂ k y := by
  have hx : db₁.record k = x := by rw [h.record, update_self]
  have hnh := h'.nh
  have ht := h'.tallied
  rw [hx] at hnh ht
  refine ⟨⟨?_, h.nh.trans (zero_notMem_nexthop _) hnh⟩, h'.counted, fun f => ?_⟩
  · rw [h'.record, h.record, update_idem]
  · have h₁ := h.tallied f
    have h₂ := ht f
    bv_omega

theorem Wrote.touched (h : Wrote db db' k x) : Touched db db' k x :=
  ⟨h.record, h.nh.shifts⟩

theorem put_touched {m : NeighborDb ch} {y : Option Neighbor} (hm : m.record = update db.record k y)
    (hw : Shifts (idOf Neighbor.nhId (db.record k)) w.p.nhId db.nexthop.used w.nexthop.used) :
    Touched db (m.put k w) k (some w.p) :=
  ⟨by rw [record_put, hm, update_idem], hw⟩

/-- What `_ctc_sai_neighbor_remove_db` leaves of a record. -/
def dropRef (p : Neighbor) (byNextHop : Bool) : Option Neighbor :=
  if p.refCnt ≤ 1 then none
  else some { p with neighborExists := byNextHop && p.neighborExists, refCnt := p.refCnt - 1 }

theorem neighborRemoveDb_touched {m : NeighborDb ch} {p : Neighbor} (byNextHop : Bool)
    (h : Touched db m k (some p)) (hb : (p.neighborExists || byNextHop) = true) :
    Touched db (neighborRemoveDb m k byNextHop).2 k (dropRef p byNextHop) ∧
      (neighborRemoveDb m k byNextHop).2.neighborCnt = m.neighborCnt := by
  have hl : m.table.lookup k = some p := by
    rw [← NeighborDb.record_eq, h.record, update_self]
  unfold dropRef
  by_cases href : p.refCnt ≤ 1
  · rw [neighborRemoveDb_erase hl hb href, if_pos href]
    refine ⟨⟨?_, h.nh.rest, .inl rfl⟩, rfl⟩
    show Table.get (m.table.erase k) = _
    rw [get_erase]
    show update m.record k none = _
    rw [h.record, update_idem]
  have hput : (neighborRemoveDb m k byNextHop).2 = { m with
      table := m.table.insert k
        { p with neighborExists := byNextHop && p.neighborExists, refCnt := p.refCnt - 1 } } := by
    cases byNextHop with
    | false =>
      rw [neighborRemoveDb_keep hl (by rwa [Bool.or_false] at hb) (by omega)]
      rfl
    | true =>
      unfold neighborRemoveDb
      simp [hl, href]
  rw [hput, if_neg href]
  refine ⟨⟨?_, h.nh⟩, rfl⟩
  show Table.get (m.table.insert k _) = _
  rw [get_insert]
  show update m.record k _ = _
  rw [h.record, update_idem]

theorem dropRef_false (rif : Oid) (p : Neighbor) :
    existsAt (dropRef p false) = false ∧ Counted rif (dropRef p false) := by
  unfold dropRef
  split
  · exact ⟨rfl, fun q hq => by cases hq⟩
  · refine ⟨rfl, fun q hq => ?_⟩
    cases hq
    exact ⟨by dsimp only; omega, fun h => by cases h⟩

/-! ## The neighbor API, under any SDK -/

section Ops

variable {db : NeighborDb ch} {ip : IpAddress}
variable {m : NeighborDb ch} {p : Neighbor}

/-- A call that ends with `_ctc_sai_neighbor_remove_db` of a record that no
neighbor held before it. -/
theorem effect_drop {k : NeighborKey} (h : Touched db m k (some p))
    (hc : m.neighborCnt = db.neighborCnt) (hex : p.neighborExists = true)
    (hold : existsAt (db.record k) = false) :
    Effect rif db (neighborRemoveDb m k false).2 k (dropRef p false) := by
  obtain ⟨ht, hcnt⟩ := neighborRemoveDb_touched false h (by rw [hex]; rfl)
  obtain ⟨he, hcounted⟩ := dropRef_false rif p
  exact ⟨ht, hcounted, tallied_same (hcnt.trans hc) (he.trans hold.symm)⟩

variable (sdk db) in
theorem neighborBuildDb_create_any (k : NeighborKey) :
    (∃ status p, status ≠ .success ∧ neighborBuildDb sdk db k false = (status, p, db)) ∨
    existsAt (db.record k) = false ∧ neighborBuildDb sdk db k false =
      (.success, createBase (db.record k), db.put k (db.ctx (createBase (db.record k)))) := by
  unfold neighborBuildDb neighborPropertyAdd
  rw [NeighborDb.record_eq]
  cases db.table.lookup k with
  | some p =>
    cases hex : p.neighborExists with
    | true => exact .inl ⟨.itemAlreadyExists, p, by decide, by simp [hex]⟩
    | false =>
      refine .inr ⟨hex, ?_⟩
      simp only [hex, Bool.false_and, Bool.false_eq_true, if_false]
      rfl
  | none =>
    dsimp only
    split
    · split
      · exact .inr ⟨rfl, rfl⟩
      · exact .inl ⟨.noMemory, _, by decide, rfl⟩
    · exact .inl ⟨.noMemory, _, by decide, rfl⟩

theorem createBase_fields (o : Option Neighbor) :
    (createBase o).neighborExists = true ∧ (createBase o).nhId = idOf Neighbor.nhId o := by
  cases o <;> exact ⟨rfl, rfl⟩

theorem createNeighborFinish_any {w : NeighborCtx ch} (attrs : List NeighborAttr)
    {y : Option Neighbor} (hm : m.record = update db.record (neighborKey rif ip) y)
    (hc : m.neighborCnt = db.neighborCnt)
    (hw : Shifts (idOf Neighbor.nhId (db.record (neighborKey rif ip))) w.p.nhId
      db.nexthop.used w.nexthop.used) (hex : w.p.neighborExists = true) (hids : HasIds rif w.p)
    (hold : existsAt (db.record (neighborKey rif ip)) = false) :
    ∃ x, Effect rif db (createNeighborFinish sdk m rif ip attrs w).2 (neighborKey rif ip) x := by
  unfold createNeighborFinish
  dsimp only
  split
  · -- error2
    have hstep := neighborRemoveNexthop_step sdk rif
      { w with p := { w.p with noHostRoute := createNoHostRoute attrs w.p } }
    refine ⟨_, effect_drop (put_touched hm (hw.trans (zero_notMem_nexthop _) hstep.nh)) hc ?_ hold⟩
    rw [hstep.exists_]
    exact hex
  have hput := put_touched (w := { w with p := { w.p with
      noHostRoute := createNoHostRoute attrs w.p, refCnt := w.p.refCnt + 1 } }) hm hw
  refine ⟨_, ⟨⟨hput.record, hput.nh⟩, fun q hq => ?_, tallied_add ?_ hold hex⟩⟩
  · cases hq
    exact ⟨Nat.le_add_left 1 _, fun _ => ⟨hids.nh, hids.arp⟩⟩
  · show update m.neighborCnt _ (m.neighborCnt _ + 1) = _
    rw [hc]
    rfl

variable (sdk) in
theorem createNeighbor_any (attrs : List NeighborAttr)
    (h : Counted rif (db.record (neighborKey rif ip))) :
    ∃ x, Effect rif db (createNeighbor sdk db rif ip attrs).2 (neighborKey rif ip) x := by
  unfold createNeighbor
  dsimp only
  rcases neighborBuildDb_create_any sdk db (neighborKey rif ip) with
    ⟨status, p, hne, he⟩ | ⟨hold, he⟩
  · rw [he]
    split
    · next heq => cases heq; exact absurd rfl hne
    · next heq => cases heq; exact ⟨_, .refl h⟩
  rw [he]
  obtain ⟨hbex, hbid⟩ := createBase_fields (db.record (neighborKey rif ip))
  have hput : Touched db (db.put (neighborKey rif ip) (db.ctx (createBase _)))
      (neighborKey rif ip) (some (createBase _)) :=
    put_touched (update_eq_self _ _).symm (by rw [← hbid]; exact .refl _ _)
  cases findAttribInList NeighborAttr.dstMacAddress? attrs with
  | none => exact ⟨_, effect_drop hput rfl hbex hold⟩
  | some mac =>
    dsimp only
    obtain ⟨hstep, hids⟩ := neighborAddNexthop_step sdk rif
      ((db.put (neighborKey rif ip) (db.ctx (createBase (db.record (neighborKey rif ip))))).ctx
        (createNeighborFill (createBase (db.record (neighborKey rif ip))) mac attrs))
      ip.addrFamily
    have hsh := hstep.nh
    rw [show (NeighborDb.ctx _ (createNeighborFill _ mac attrs)).p.nhId = _ from hbid] at hsh
    have hex := hstep.exists_.trans hbex
    split
    · next w heq =>
      rw [heq] at hsh hids hex
      exact createNeighborFinish_any attrs hput.record rfl hsh hex (hids rfl) hold
    · next status w hne heq =>
      rw [heq] at hsh hex
      exact ⟨_, effect_drop (put_touched hput.record hsh) rfl hex hold⟩

variable (sdk rif db ip) in
/-- The body of a removal: nothing there, or the record let go and to be
uncounted. -/
theorem neighborRemoveNeighbor_any : (existsAt (db.record (neighborKey rif ip)) = false ∧
      neighborRemoveNeighbor sdk db rif ip = (.itemNotFound, db)) ∨
    (neighborRemoveNeighbor sdk db rif ip).1 = .success ∧
      ∃ x, Effect rif db (neighborCntDec (neighborRemoveNeighbor sdk db rif ip).2 ip.addrFamily)
        (neighborKey rif ip) x := by
  cases hp : db.record (neighborKey rif ip) with
  | none => exact .inl ⟨rfl, neighborRemoveNeighbor_absent (by rw [hp]; simp)⟩
  | some p =>
    cases hex : p.neighborExists with
    | false =>
      exact .inl ⟨hex, neighborRemoveNeighbor_absent (by rw [hp]; rintro _ ⟨⟩; exact hex)⟩
    | true =>
      refine .inr ?_
      rw [neighborRemoveNeighbor_eq hp hex]
      refine ⟨rfl, ?_⟩
      have hstep : ∃ w₀ : NeighborCtx ch, w₀.p.nhId = p.nhId ∧ w₀.nexthop = db.nexthop ∧
          w₀.p.neighborExists = true ∧ CtxStep w₀ (neighborRelease sdk db rif ip p) := by
        unfold neighborRelease
        split
        · exact ⟨_, rfl, rfl, hex, neighborRemoveNexthop_step sdk rif _⟩
        · refine ⟨_, ?_, ?_, ?_, (neighborAddNexthop_step sdk rif _ _).1⟩ <;>
            first | rfl | exact hex
      obtain ⟨w₀, hid, hpool, hex₀, hstep⟩ := hstep
      have hput : Touched db (db.put (neighborKey rif ip) (neighborRelease sdk db rif ip p))
          (neighborKey rif ip) (some (neighborRelease sdk db rif ip p).p) := by
        refine put_touched (update_eq_self _ _).symm ?_
        rw [hp, idOf_some, ← hid, ← hpool]
        exact hstep.nh
      obtain ⟨ht, hcnt⟩ := neighborRemoveDb_touched false hput (by rw [hstep.exists_, hex₀]; rfl)
      obtain ⟨he, hcounted⟩ := dropRef_false rif (neighborRelease sdk db rif ip p).p
      refine ⟨_, ⟨⟨ht.record, ht.nh⟩, hcounted, tallied_sub ?_ (by rw [hp]; exact hex) he⟩⟩
      show update _ _ (_ - 1) = _
      rw [hcnt]
      rfl

variable (sdk) in
theorem removeNeighbor_any (h : Counted rif (db.record (neighborKey rif ip))) :
    ∃ x, Effect rif db (removeNeighbor sdk db rif ip).2 (neighborKey rif ip) x := by
  rcases neighborRemoveNeighbor_any sdk rif db ip with ⟨_, he⟩ | ⟨hst, x, hx⟩
  · rw [removeNeighbor_failure (by rw [he]; intro h; cases h), he]
    exact ⟨_, .refl h⟩
  · rw [removeNeighbor_success hst]
    exact ⟨x, hx⟩

variable (sdk rif db ip) in
theorem setNeighborAttr_cnt (attr : NeighborAttr) :
    (setNeighborAttr sdk db rif ip attr).2.neighborCnt = db.neighborCnt := by
  unfold setNeighborAttr
  split
  · rfl
  split
  · rfl
  split
  · rfl
  cases attr with
  | dstMacAddress mac => unfold setNeighborRecord setNeighborReprogram; dsimp only; split <;> rfl
  | packetAction action =>
    unfold setNeighborRecord setNeighborReprogram; dsimp only; split <;> rfl
  | noHostRoute b => unfold setNeighborRecord; dsimp only; split <;> rfl
  | userTrapId => rfl
  | metaData => rfl
  | counterId => rfl

variable (sdk) in
theorem setNeighborAttr_any (attr : NeighborAttr)
    (h : Counted rif (db.record (neighborKey rif ip))) :
    ∃ x, Effect rif db (setNeighborAttr sdk db rif ip attr).2 (neighborKey rif ip) x := by
  cases hp : db.record (neighborKey rif ip) with
  | none =>
    have he : (setNeighborAttr sdk db rif ip attr).2 = db := by
      rw [NeighborDb.record_eq] at hp
      unfold setNeighborAttr
      rw [hp]
      split <;> rfl
    rw [he]
    exact ⟨_, .refl h⟩
  | some p =>
    cases hex : p.neighborExists with
    | false =>
      have he : (setNeighborAttr sdk db rif ip attr).2 = db := by
        rw [NeighborDb.record_eq] at hp
        unfold setNeighborAttr
        simp only [hp, hex]
        split <;> rfl
      rw [he]
      exact ⟨_, .refl h⟩
    | true =>
      have hids : ∀ q, db.record (neighborKey rif ip) = some q → HasIds rif q := by
        intro q hq
        have := (h q hq).2
        rw [hp] at hq
        cases hq
        exact this hex
      rcases setNeighborAttr_held sdk hids attr with he | ⟨p', q, hp', hw, hk⟩
      · rw [he]
        exact ⟨_, .refl h⟩
      obtain ⟨href, hids'⟩ := h p' hp'
      have hcnt := setNeighborAttr_cnt sdk rif db ip attr
      refine ⟨_, ⟨hw.touched, fun r hr => ?_, tallied_same hcnt (by rw [hp']; exact hk.exists_)⟩⟩
      cases hr
      refine ⟨by rw [hk.refCnt]; exact href, fun hqex => ?_⟩
      have hold := hids' (hk.exists_.symm.trans hqex)
      exact ⟨by rw [hk.nhId]; exact hold.nh, fun hb => by rw [hk.arpId]; exact hold.arp hb⟩

/-! ## Next hops of type IP, under any SDK -/

/-- The interface exists, the record's action can be programmed, and the SDK
accepts the update of what the record has in hardware. -/
def Reprograms (ch : Chip) (sdk : Sdk) (rif : Oid) (p : Neighbor) : Prop :=
  (ch.rif rif).isSome ∧
    if isBridgeRif rif then ∀ param, sdk.rc (.nhUpdateMisc p.nhId param) = .none
    else (arpActionFlags p.action).isSome ∧
      (∀ param, sdk.rc (.nhUpdateNexthopMac p.arpId param) = .none) ∧
      ∀ param, sdk.rc (.nhUpdateIpuc p.nhId param) = .none

theorem neighborAddNexthop_reprograms {w : NeighborCtx ch} (hids : HasIds rif w.p)
    (h : Reprograms ch sdk rif w.p) (f : IpFamily) :
    (neighborAddNexthop sdk rif w f).1 = .success := by
  obtain ⟨hr, h⟩ := h
  obtain ⟨ri, hri⟩ := Option.isSome_iff_exists.mp hr
  unfold neighborAddNexthop
  simp only [hri]
  cases hb : isBridgeRif rif with
  | true =>
    rw [if_pos hb] at h
    unfold neighborAddMiscNexthop
    simp only [if_true, if_neg hids.nh, h]
    rfl
  | false =>
    simp only [hb, Bool.false_eq_true, if_false] at h
    obtain ⟨hact, hmac, hipuc⟩ := h
    obtain ⟨flags, hflags⟩ := Option.isSome_iff_exists.mp hact
    unfold neighborAddArpEntry neighborAllocArp neighborAddIpucNexthop
    simp only [if_neg (hids.arp hb), if_neg hids.nh, hri, hflags, hmac, hipuc,
      Bool.false_eq_true, if_false, mappingErrorCtc, if_true]

theorem existsAt_record {k : NeighborKey} (hp : db.record k = some p) :
    existsAt (db.record k) = p.neighborExists := by rw [hp]; rfl

/-- The database after `add_nexthop` for a next hop: one more reference, or
one less. -/
def allocFinish (sdk : Sdk) (rif : Oid) (ip : IpAddress) (m : NeighborDb ch) (p : Neighbor) :
    Status × Nat × NeighborDb ch :=
  match neighborAddNexthop sdk rif (m.ctx p) ip.addrFamily with
  | (.success, w) => (.success, w.p.nhId,
      m.put (neighborKey rif ip) { w with p := { w.p with refCnt := w.p.refCnt + 1 } })
  | (status, w) =>
    (status, 0, (neighborRemoveDb (m.put (neighborKey rif ip) w) (neighborKey rif ip) true).2)

theorem allocFinish_any {y : Option Neighbor}
    (hm : m.record = update db.record (neighborKey rif ip) y)
    (hnh : Shifts (idOf Neighbor.nhId (db.record (neighborKey rif ip))) p.nhId
      db.nexthop.used m.nexthop.used) (hc : m.neighborCnt = db.neighborCnt)
    (hold : existsAt (db.record (neighborKey rif ip)) = p.neighborExists)
    (hex : p.neighborExists = true →
      HasIds rif p ∧ 1 ≤ p.refCnt ∧ (p.refCnt ≤ 1 → Reprograms ch sdk rif p)) :
    ∃ x, Effect rif db (allocFinish sdk rif ip m p).2.2 (neighborKey rif ip) x ∧
      ((allocFinish sdk rif ip m p).1 = .success → ∃ q, x = some q ∧
        (q.neighborExists = true → 1 < q.refCnt)) := by
  obtain ⟨hstep, hids⟩ := neighborAddNexthop_step sdk rif (m.ctx p) ip.addrFamily
  have hsh := hnh.trans (zero_notMem_nexthop _) hstep.nh
  unfold allocFinish
  split
  · next w heq =>
    rw [heq] at hstep hsh hids
    have hput := put_touched (w := { w with p := { w.p with refCnt := w.p.refCnt + 1 } }) hm hsh
    refine ⟨_, ⟨hput, fun q hq => ?_, tallied_same hc ?_⟩, fun _ => ⟨_, rfl, fun he => ?_⟩⟩
    · cases hq
      exact ⟨Nat.le_add_left 1 _, fun _ => ⟨(hids rfl).nh, (hids rfl).arp⟩⟩
    · rw [hold]
      exact hstep.exists_
    · show 1 < w.p.refCnt + 1
      rw [hstep.refCnt]
      exact Nat.succ_le_succ (hex (hstep.exists_.symm.trans he)).2.1
  next status w hne heq =>
  have hheld := @neighborAddNexthop_held ch sdk rif (m.ctx p)
  have hrep := @neighborAddNexthop_reprograms ch sdk rif (m.ctx p)
  rw [heq] at hstep hsh
  obtain ⟨ht, hcnt⟩ := neighborRemoveDb_touched true (put_touched (w := w) hm hsh) (Bool.or_true _)
  refine ⟨_, ⟨ht, ?_, tallied_same (hcnt.trans hc) ?_⟩, fun h => absurd h hne⟩
  · intro q hq
    unfold dropRef at hq
    split at hq
    · cases hq
    cases hq
    refine ⟨by dsimp only; omega, fun he => ?_⟩
    obtain ⟨hpids, _, _⟩ := hex (hstep.exists_.symm.trans he)
    obtain ⟨g, hg⟩ := hheld hpids ip.addrFamily
    rw [heq] at hg
    cases hg
    exact ⟨hpids.nh, hpids.arp⟩
  · rw [hold]
    unfold dropRef
    split
    · next href =>
      cases hpe : p.neighborExists with
      | false => rfl
      | true =>
        -- a neighbor's last reference: the call cannot have failed
        obtain ⟨hpids, _, hsafe⟩ := hex hpe
        rw [hstep.refCnt] at href
        have hok := hrep hpids (hsafe href) ip.addrFamily
        rw [heq] at hok
        exact absurd hok hne
    · exact hstep.exists_

variable (sdk) in
/-- `ctc_sai_neighbor_alloc_ipuc_nexthop`: it fails, or one more reference is
on the record. -/
theorem neighborAllocIpucNexthop_any (h : Counted rif (db.record (neighborKey rif ip)))
    (hsafe : ∀ p, db.record (neighborKey rif ip) = some p → p.neighborExists = true →
      p.refCnt ≤ 1 → Reprograms ch sdk rif p) :
    ∃ x, Effect rif db (neighborAllocIpucNexthop sdk db rif ip).2.2 (neighborKey rif ip) x ∧
      ((neighborAllocIpucNexthop sdk db rif ip).1 = .success → ∃ q, x = some q ∧
        (q.neighborExists = true → 1 < q.refCnt)) := by
  cases hp : db.record (neighborKey rif ip) with
  | some p =>
    obtain ⟨hpos, hids⟩ := h p hp
    have he : neighborAllocIpucNexthop sdk db rif ip = allocFinish sdk rif ip db p := by
      unfold neighborAllocIpucNexthop
      dsimp only
      rw [neighborBuildDb_nextHop_some _ hp]
      dsimp only
      rw [if_neg (Nat.ne_of_gt hpos)]
      rfl
    rw [he]
    refine allocFinish_any (update_eq_self _ _).symm ?_ rfl (existsAt_record hp)
      (fun hex => ⟨hids hex, hpos, hsafe p hp hex⟩)
    rw [hp]
    exact .refl _ _
  | none =>
    have hsame : ∀ status, status ≠ .success →
        ∃ x, Effect rif db ((status, 0, db) : Status × Nat × NeighborDb ch).2.2
          (neighborKey rif ip) x ∧ (status = .success → ∃ q, x = some q ∧
            (q.neighborExists = true → 1 < q.refCnt)) :=
      fun status hne => ⟨_, .refl h, fun he => absurd he hne⟩
    have hput : Touched db (db.put (neighborKey rif ip) (db.ctx (.new true)))
        (neighborKey rif ip) (some (.new true)) :=
      put_touched (update_eq_self _ _).symm (by rw [hp]; exact .refl _ _)
    rw [NeighborDb.record_eq] at hp
    unfold neighborAllocIpucNexthop neighborBuildDb neighborPropertyAdd
    simp only [hp]
    cases sdk.mem .neighbor with
    | false => exact hsame .noMemory (by decide)
    | true =>
      cases sdk.mem .entryNode with
      | false => exact hsame .noMemory (by decide)
      | true =>
        simp only [if_true]
        rw [if_pos (show (Neighbor.new true).refCnt = 0 from rfl)]
        cases hr : ch.rif rif with
        | none =>
          obtain ⟨ht, hcnt⟩ := neighborRemoveDb_touched true hput rfl
          refine ⟨_, ⟨ht, (fun q hq => by cases hq), tallied_same hcnt ?_⟩, fun hf => by cases hf⟩
          rw [NeighborDb.record_eq, hp]
          rfl
        | some ri =>
          exact allocFinish_any (p := { Neighbor.new true with action := ri.neighborMissAction })
            hput.record hput.nh rfl (by rw [NeighborDb.record_eq, hp]; rfl)
            (fun hf => by cases hf)

variable (sdk) in
theorem neighborFreeIpucNexthop_any (nhId : Nat) (h : Counted rif (db.record (neighborKey rif ip)))
    (hsafe : ∀ p, db.record (neighborKey rif ip) = some p → p.nhId = nhId →
      p.neighborExists = true → p.refCnt ≠ 1) :
    ∃ x, Effect rif db (neighborFreeIpucNexthop sdk db rif ip nhId).2 (neighborKey rif ip) x := by
  unfold neighborFreeIpucNexthop
  dsimp only
  cases hp : db.table.lookup (neighborKey rif ip) with
  | none => exact ⟨_, .refl h⟩
  | some p =>
    dsimp only
    split
    · exact ⟨_, .refl h⟩
    next hid =>
    rw [ne_eq, not_not] at hid
    split
    · next href =>
      have hex : p.neighborExists = false := by
        by_contra hne
        exact hsafe p hp hid (by simpa using hne) href
      have hstep := neighborRemoveNexthop_step sdk rif (db.ctx p)
      have hput : Touched db (db.put (neighborKey rif ip)
          (neighborRemoveNexthop sdk rif (db.ctx p)).2) (neighborKey rif ip)
          (some (neighborRemoveNexthop sdk rif (db.ctx p)).2.p) := by
        refine put_touched (update_eq_self _ _).symm ?_
        rw [NeighborDb.record_eq, hp]
        exact hstep.nh
      obtain ⟨ht, hcnt⟩ := neighborRemoveDb_touched true hput (Bool.or_true _)
      have hdrop : dropRef (neighborRemoveNexthop sdk rif (db.ctx p)).2.p true = none := by
        unfold dropRef
        rw [if_pos (by rw [hstep.refCnt]; exact Nat.le_of_eq href)]
      rw [hdrop] at ht
      refine ⟨none, ⟨ht, (fun q hq => by cases hq), tallied_same hcnt ?_⟩⟩
      rw [existsAt_record hp, hex]
      rfl
    · next href =>
      obtain ⟨hpos, hids⟩ := h p hp
      refine ⟨_, ⟨⟨get_insert _ _ _, ?_⟩, fun q hq => ?_, tallied_same rfl ?_⟩⟩
      · rw [NeighborDb.record_eq, hp]
        exact .refl _ _
      · cases hq
        exact ⟨by show 1 ≤ p.refCnt - 1; omega, fun he => ⟨(hids he).nh, (hids he).arp⟩⟩
      · rw [existsAt_record hp]
        rfl

variable (sdk) in
theorem createNhIp_any {db : NextHopDb ch} {nh : NextHop}
    (h : Counted nh.rifId (db.nbr.record nh.key))
    (hsafe : ∀ p, db.nbr.record nh.key = some p → p.neighborExists = true →
      p.refCnt ≤ 1 → Reprograms ch sdk nh.rifId p) :
    (∃ x, Effect nh.rifId db.nbr (createNhIp sdk db nh).2.2.nbr nh.key x) ∧
      ∀ o y, (createNhIp sdk db nh).2.2.nextHops.lookup o = some y →
        db.nextHops.lookup o = some y ∨ o.subType = NextHopType.ip.bits := by
  obtain ⟨x, hx, hok⟩ := neighborAllocIpucNexthop_any sdk h hsafe
  unfold createNhIp
  split
  · next nhId nbr heq =>
    rw [heq] at hx hok
    obtain ⟨q, hq, href⟩ := hok rfl
    have hrec : nbr.record nh.key = some q := by
      rw [hx.record, NextHop.key_eq, update_self, hq]
    dsimp only
    split
    · next db' hadd =>
      unfold nextHopAddObject at hadd
      split at hadd
      · cases hadd
        refine ⟨⟨x, hx⟩, fun o y hy => ?_⟩
        rw [show (nexthopCntAdd _ _ _).nextHops = db.nextHops.insert _ nh from rfl,
          lookup_insert_ite] at hy
        split at hy
        · next ho =>
          right
          rw [ho]
          exact setWidth_back (w := 3) (v := 8) (by decide) _
        · exact .inl hy
      · cases hadd
    · refine ⟨?_, fun o y hy => .inl hy⟩
      obtain ⟨y, hy⟩ := neighborFreeIpucNexthop_any sdk nhId (by rw [NextHop.key_eq, hrec, ← hq]; exact hx.counted)
        (by
          intro p hp _ hex h1
          rw [NextHop.key_eq, hrec] at hp
          cases hp
          exact absurd h1 (Nat.ne_of_gt (href hex)))
      exact ⟨y, hx.trans hy⟩
  · next heq =>
    rw [heq] at hx
    exact ⟨⟨x, hx⟩, fun o y hy => .inl hy⟩

end Ops

/-! ## Runs -/

/-- The invariant of the neighbor table under any SDK. -/
structure CountInv (nbr : NeighborDb ch) : Prop where
  counted : ∀ k, Counted (k.rif ch.lchip) (nbr.record k)
  holds : Holds Neighbor.nhId nbr.record nbr.nexthop.used
  cnt : ∀ f, nbr.neighborCnt f = BitVec.ofNat 32 (Table.count (heldBy f) nbr.table)

theorem isBridgeRif_key (lchip : BitVec 8) (rif : Oid) (ip : IpAddress) :
    isBridgeRif ((neighborKey rif ip).rif lchip) = isBridgeRif rif := by
  show decide (((rif.subType.setWidth 8).setWidth 3) = _) = _
  rw [setWidth_back (by decide) rif.subType]
  rfl

theorem Counted.congr {a b : Oid} {o : Option Neighbor} (h : Counted a o)
    (hb : isBridgeRif a = isBridgeRif b) : Counted b o := by
  intro p hp
  obtain ⟨href, hids⟩ := h p hp
  exact ⟨href, fun hex => ⟨(hids hex).nh, fun hf => (hids hex).arp (hb.trans hf)⟩⟩

theorem CountInv.at (h : CountInv nbr) (rif : Oid) (ip : IpAddress) :
    Counted rif (nbr.record (neighborKey rif ip)) :=
  (h.counted _).congr (isBridgeRif_key _ _ _)

/-- The rule for the counters: what an operation does to one record, counting
does to the table. -/
theorem CountInv.effect {nbr' : NeighborDb ch} {ip : IpAddress} (h : CountInv nbr)
    (he : Effect rif nbr nbr' (neighborKey rif ip) x) : CountInv nbr' where
  counted k := by
    rw [he.record, update_apply]
    split
    · next hk => rw [hk]; exact he.counted.congr (isBridgeRif_key _ _ _).symm
    · exact h.counted k
  holds := by
    rw [he.record]
    exact h.holds.write _ _ he.nh
  cnt f := by
    have hcount := count_update (p := heldBy f) he.record
    have htally := he.tallied f
    rw [h.cnt f] at htally
    unfold tally at htally
    rw [← BitVec.ofNat_add, ← hcount, BitVec.ofNat_add] at htally
    exact (BitVec.add_left_inj _).mp htally

theorem countInv_empty : CountInv (NeighborDb.empty ch) where
  counted k p hp := by cases hp
  holds := (owns_empty Neighbor.nhId).toHolds
  cnt f := rfl

theorem CountInv.removeAllKeys (h : CountInv nbr) (ks : List NeighborKey) (hnd : ks.Nodup)
    (hex : ∀ k ∈ ks, existsAt (nbr.record k) = true) :
    CountInv (ks.foldl (removeAllStep sdk) nbr) := by
  induction ks generalizing nbr with
  | nil => exact h
  | cons k ks ih =>
    obtain ⟨hk, hnd⟩ := List.nodup_cons.mp hnd
    rcases neighborRemoveNeighbor_any sdk (k.rif ch.lchip) nbr k.ip with ⟨hno, _⟩ | ⟨_, x, hx⟩
    · rw [neighborKey_rif, hex k List.mem_cons_self] at hno
      cases hno
    refine ih (h.effect hx) hnd (fun a ha => ?_)
    show existsAt (NeighborDb.record (neighborCntDec _ _) a) = true
    rw [hx.record, neighborKey_rif, update_of_ne (fun hak : a = k => hk (hak ▸ ha))]
    exact hex a (List.mem_cons_of_mem k ha)

def SharedCall.IpOnly : SharedCall → Prop
  | .createNextHop _ attrs => findAttribInList NextHopAttr.type? attrs = some .ip
  | _ => True

/-- The state before a step, where the counters stay right. -/
def CountSafe (s : SharedState ch) (a : Sdk × SharedCall) : Prop :=
  match a.2 with
  | .removeAllNeighbor => ∀ k p, s.db.nbr.record k = some p → p.neighborExists = true
  | .createNextHop _ attrs =>
    ∀ rif ip p, findAttribInList NextHopAttr.routerInterfaceId? attrs = some rif →
      findAttribInList NextHopAttr.ip? attrs = some ip →
      s.db.nbr.record (neighborKey rif ip) = some p → p.neighborExists = true → p.refCnt ≤ 1 →
      Reprograms ch a.1 rif p
  | .removeNextHop oid =>
    ∀ x p, s.db.nextHops.lookup oid = some x → s.db.nbr.record x.key = some p →
      p.nhId = oid.value.toNat → p.neighborExists = true → p.refCnt ≠ 1
  | _ => True

/-- The invariant of a state: that of the table, and next hops of type IP only. -/
def CountStateInv (s : SharedState ch) : Prop :=
  CountInv s.db.nbr ∧
    ∀ oid x, s.db.nextHops.lookup oid = some x → oid.subType = NextHopType.ip.bits

theorem countStep_inv {s s' : SharedState ch} {a : Sdk × SharedCall} (h : CountStateInv s)
    (hip : a.2.IpOnly) (hsafe : CountSafe s a) (hst : sharedStep s a = some s') :
    CountStateInv s' := by
  obtain ⟨sdk, call⟩ := a
  obtain ⟨hinv, hhops⟩ := h
  cases call with
  | createNeighbor rif ip attrs =>
    cases hst
    obtain ⟨x, hx⟩ := createNeighbor_any sdk attrs (hinv.at rif ip)
    exact ⟨hinv.effect hx, hhops⟩
  | removeNeighbor rif ip =>
    cases hst
    obtain ⟨x, hx⟩ := removeNeighbor_any sdk (hinv.at rif ip)
    exact ⟨hinv.effect hx, hhops⟩
  | removeAllNeighbor =>
    cases hst
    refine ⟨hinv.removeAllKeys _ s.db.nbr.table.keys_nodup (fun k hk => ?_), hhops⟩
    obtain ⟨p, hp⟩ := Option.isSome_iff_exists.mp (AList.lookup_isSome.mpr (AList.mem_keys.mpr hk))
    rw [existsAt_record hp]
    exact hsafe k p hp
  | setNeighborAttr rif ip attr =>
    cases hst
    obtain ⟨x, hx⟩ := setNeighborAttr_any sdk attr (hinv.at rif ip)
    exact ⟨hinv.effect hx, hhops⟩
  | createNextHop raw attrs =>
    rcases createNextHop_ip sdk hip with
      ⟨status, he⟩ | ⟨rif, ip, hrif, hi, he⟩
    · rw [sharedStep_createNextHop, he] at hst
      cases hst
      exact ⟨hinv, hhops⟩
    rw [sharedStep_createNextHop, he] at hst
    cases hst
    obtain ⟨hfr, hfi⟩ := nextHopFill_fields hrif hi
    obtain ⟨⟨x, hx⟩, hnew⟩ := createNhIp_any sdk (hinv.at _ _)
      (by rw [NextHop.key, hfr, hfi]; exact fun p hp hex href => hsafe rif ip p hrif hi hp hex href)
    refine ⟨hinv.effect hx, fun o y hy => ?_⟩
    rcases hnew o y hy with hold | hsub
    · exact hhops o y hold
    · exact hsub
  | removeNextHop oid =>
    cases hx : s.db.nextHops.lookup oid with
    | none =>
      rw [sharedStep_removeNextHop, removeNextHop_absent hx] at hst
      cases hst
      exact ⟨hinv, hhops⟩
    | some x =>
      rw [sharedStep_removeNextHop, removeNextHop_ip hx (hhops oid x hx)] at hst
      cases hst
      obtain ⟨y, hy⟩ := neighborFreeIpucNexthop_any sdk oid.value.toNat
        (hinv.at x.rifId x.ipAddress) (hsafe x · hx)
      refine ⟨hinv.effect hy, fun o z hz => ?_⟩
      rw [show (removedIp sdk s.db oid x).nextHops = s.db.nextHops.erase oid from rfl,
        lookup_erase_ite] at hz
      split at hz
      · cases hz
      · exact hhops o z hz

/-- The records of neighbors own distinct ids, so a counter never overflows. -/
theorem CountInv.toNat_cnt (h : CountInv nbr) (f : IpFamily) :
    (nbr.neighborCnt f).toNat = Table.count (heldBy f) nbr.table := by
  have hid : ∀ k p, nbr.table.lookup k = some p → heldBy f k p = true →
      idOf Neighbor.nhId (nbr.record k) = p.nhId ∧ p.nhId ≠ 0 := by
    intro k p hp hh
    rw [heldBy, Bool.and_eq_true] at hh
    exact ⟨by rw [NeighborDb.record_eq, hp]; rfl, (((h.counted k) p hp).2 hh.1).nh⟩
  have hcard : Table.count (heldBy f) nbr.table ≤ nbr.nexthop.used.card := by
    refine count_le_card (fun _ => Neighbor.nhId) (fun k p hp hh => ?_) (fun k k' p p' hp hp' hh hh' he => ?_)
    · obtain ⟨he, h0⟩ := hid k p hp hh
      rw [← he] at h0 ⊢
      exact h.holds.held k h0
    · obtain ⟨hk, h0⟩ := hid k p hp hh
      obtain ⟨hk', _⟩ := hid k' p' hp' hh'
      exact h.holds.inj k k' (by rw [hk]; exact h0) (by rw [hk, hk']; exact he)
  have hsize := nbr.nexthop.card_used_le
  have htop := ch.nexthop_top
  have hlo := ch.nexthop_lo
  rw [h.cnt f, BitVec.toNat_ofNat]
  exact Nat.mod_eq_of_lt (by omega)

/-- In every run in which `remove_all` meets neighbors only and no next hop
takes a neighbor's record with it, the counters are the numbers of neighbors. -/
theorem neighborCnt_of_run {s : SharedState ch}
    (h : Reachable SharedState.Init (fun s a => a.2.IpOnly ∧ CountSafe s a) sharedStep s)
    (f : IpFamily) :
    (s.db.nbr.neighborCnt f).toNat = Table.count (heldBy f) s.db.nbr.table := by
  have hinv : CountStateInv s := by
    refine h.inv ?_ (fun s a s' hi hok hst => countStep_inv hi hok.1 hok.2 hst)
    rintro s ⟨hnbr, hnh, _⟩
    refine ⟨by rw [hnbr]; exact countInv_empty, fun oid x hx => ?_⟩
    rw [hnh, AList.lookup_empty] at hx
    cases hx
  exact hinv.1.toNat_cnt f

/-- Two neighbors, a next hop on one of them, and the other removed. -/
theorem neighborCnt_of_run_small : ∃ s : SharedState Chip.small,
    (s.db.nbr.neighborCnt .ipv4).toNat = Table.count (heldBy .ipv4) s.db.nbr.table ∧
      s.db.nbr.neighborCnt .ipv4 = 1 := by
  have r₀ : Reachable SharedState.Init (fun s a => a.2.IpOnly ∧ CountSafe s a) sharedStep
      (.start Chip.small) := .start ⟨rfl, rfl, rfl⟩
  have r₁ := r₀.next (createPortNeighbor (.ip4 0x0A000001) .forward) ⟨trivial, trivial⟩ rfl
  have r₂ := r₁.next (createPortNeighbor (.ip4 0x0A000002) .forward) ⟨trivial, trivial⟩ rfl
  have r₃ := r₂.next (createIpNextHop (.ip4 0x0A000001)) ⟨rfl, by
    rintro _ _ p ⟨⟩ ⟨⟩ hp _ _
    cases hp
    exact ⟨by decide, by decide, fun _ => rfl, fun _ => rfl⟩⟩ rfl
  have r₄ := r₃.next ((.ok, .removeNeighbor Chip.portRif (.ip4 0x0A000002)) : Sdk × SharedCall)
    ⟨trivial, trivial⟩ rfl
  exact ⟨_, neighborCnt_of_run r₄ .ipv4, by decide⟩

/-- `remove_all` counts down for a record that only a next hop uses. -/
theorem neighborCnt_not_every_run : ¬ ∀ (ch : Chip) (s : SharedState ch) (f : IpFamily),
      Reachable SharedState.Init (fun _ a => a.2.IpOnly) sharedStep s →
        (s.db.nbr.neighborCnt f).toNat = Table.count (heldBy f) s.db.nbr.table := by
  intro h
  have r₀ : Reachable SharedState.Init (fun _ a => a.2.IpOnly) sharedStep
      (.start Chip.small) := .start ⟨rfl, rfl, rfl⟩
  have r₁ := r₀.next (createIpNextHop (.ip4 0x0A000001)) rfl rfl
  have r₂ := r₁.next ((.ok, .removeAllNeighbor) : Sdk × SharedCall) trivial rfl
  have hcnt := h _ _ .ipv4 r₂
  revert hcnt
  decide

end CtcSai
