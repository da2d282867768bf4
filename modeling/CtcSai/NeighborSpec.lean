/-
# `NeighborSpec` — what the neighbor operations do to one record

One lemma per operation, so that the invariants never unfold them.  The
first half assumes that the SDK does what it is asked: an operation then
writes one record, and the ids of that record move as `Ownership.Moves`
allows.  The second half assumes nothing of the SDK and says the little
that survives: which fields are touched, and that ids in use stay in use.
-/
import CtcSai.Lib.Ownership
import CtcSai.Neighbor

namespace CtcSai

open Function IdPool KeyedTable Ownership Table

variable {ch : Chip} {sdk : Sdk} {rif : Oid}
variable {w : NeighborCtx ch} {db : NeighborDb ch} {k : NeighborKey} {p : Neighbor} {ip : IpAddress}
  {attrs : List NeighborAttr}

/-! ## Hardware, when the SDK succeeds -/

theorem Sdk.Succeeds.status (h : sdk.Succeeds) (c : SdkCall) :
    mappingErrorCtc (sdk.rc c) = .success := by
  rw [h.rc c]
  rfl

/-- The action is one that the record's interface can be programmed with. -/
def programmable (rif : Oid) (action : PacketAction) : Bool :=
  isBridgeRif rif || (arpActionFlags action).isSome

/-- What a context becomes when its record got its next hop: only the ids and
the port changed, and the ids are there. -/
structure Programmed (rif : Oid) (w w' : NeighborCtx ch) : Prop where
  record : w'.p = { w.p with gport := w'.p.gport, arpId := w'.p.arpId, nhId := w'.p.nhId }
  nh : w'.p.nhId ≠ 0
  nhMoves : Moves w.p.nhId w'.p.nhId w.nexthop.used w'.nexthop.used
  arp : if isBridgeRif rif then w'.p.arpId = w.p.arpId else w'.p.arpId ≠ 0
  arpMoves : Moves w.p.arpId w'.p.arpId w.arp.used w'.arp.used

/-- What a context becomes when its action is not supported: the pools are as
before, and so are the ids of a record that had them. -/
structure Refused (w w' : NeighborCtx ch) : Prop where
  record : w'.p = { w.p with arpId := w'.p.arpId }
  nhUsed : w'.nexthop.used = w.nexthop.used
  arpUsed : w'.arp.used = w.arp.used
  arp : w.p.arpId ≠ 0 → w'.p.arpId = w.p.arpId

theorem arp_lo_pos (ch : Chip) : 0 < ch.arp.lo := by rw [ch.arp_lo]; decide

theorem nexthop_lo_pos (ch : Chip) : 0 < ch.nexthop.lo := by rw [ch.nexthop_lo]; decide

theorem neighborAllocArp_ok (ha : w.arp.alloc ≠ none) :
    ∃ isAdd w', neighborAllocArp w = some (isAdd, w') ∧
      w'.nexthop = w.nexthop ∧ w'.p = { w.p with arpId := w'.p.arpId } ∧ w'.p.arpId ≠ 0 ∧
      Moves w.p.arpId w'.p.arpId w.arp.used w'.arp.used ∧
      (isAdd = true → (w'.arp.free w'.p.arpId).used = w.arp.used) ∧
      (isAdd = false → w' = w) := by
  unfold neighborAllocArp
  by_cases h0 : w.p.arpId = 0
  · obtain ⟨⟨i, q⟩, hq⟩ := Option.ne_none_iff_exists'.mp ha
    obtain ⟨hi, hm⟩ := moves_alloc (arp_lo_pos ch) hq
    obtain ⟨hfresh, _, _, hused, _⟩ := Pool.alloc_some hq
    rw [if_pos h0, hq]
    refine ⟨true, _, rfl, rfl, rfl, hi, ?_, ?_, ?_⟩
    · rw [h0]; exact hm
    · intro _
      rw [Pool.used_free, hused, Finset.erase_insert hfresh]
    · intro h; cases h
  · rw [if_neg h0]
    refine ⟨false, w, rfl, rfl, rfl, h0, .refl _ _, ?_, fun _ => rfl⟩
    intro h; cases h

theorem neighborAddArpEntry_ok (hs : sdk.Succeeds) {ri : RouterInterface}
    (hr : ch.rif rif = some ri) {w : NeighborCtx ch} (ha : w.arp.alloc ≠ none)
    (hf : (arpActionFlags w.p.action).isSome) :
    ∃ w', neighborAddArpEntry sdk rif w = (.success, false, w') ∧
      w'.nexthop = w.nexthop ∧
      w'.p = { w.p with gport := w'.p.gport, arpId := w'.p.arpId } ∧ w'.p.arpId ≠ 0 ∧
      Moves w.p.arpId w'.p.arpId w.arp.used w'.arp.used := by
  obtain ⟨isAdd, w₁, hal, hnh, hp, hid, hm, _, _⟩ := neighborAllocArp_ok ha
  obtain ⟨flags, hflags⟩ := Option.isSome_iff_exists.mp hf
  have hact : arpActionFlags w₁.p.action = some flags := by rw [hp]; exact hflags
  unfold neighborAddArpEntry
  simp only [hal, hr, hact, hs.status, if_true]
  exact ⟨_, rfl, hnh, by rw [hp], hid, hm⟩

variable (sdk) in
theorem neighborAddArpEntry_refused {ri : RouterInterface} (hr : ch.rif rif = some ri)
    (ha : w.arp.alloc ≠ none) (hf : arpActionFlags w.p.action = none) :
    ∃ isAdd w', neighborAddArpEntry sdk rif w = (.notSupported, isAdd, w') ∧ Refused w w' := by
  obtain ⟨isAdd, w₁, hal, hnh, hp, hid, _, hadd, hsame⟩ := neighborAllocArp_ok ha
  have hact : arpActionFlags w₁.p.action = none := by rw [hp]; exact hf
  unfold neighborAddArpEntry
  simp only [hal, hr, hact, addArpError1]
  refine ⟨isAdd, _, rfl, ?_⟩
  cases isAdd with
  | true =>
    refine ⟨hp, by rw [if_pos rfl, hnh], hadd rfl, ?_⟩
    intro h0
    -- an id is only added to a record that has none
    unfold neighborAllocArp at hal
    rw [if_neg h0] at hal
    cases hal
  | false =>
    cases hsame rfl
    exact ⟨rfl, rfl, rfl, fun _ => rfl⟩

/-- What adding a next hop returns; an id taken in vain may be `lost`, zero being freed. -/
inductive NexthopAdd (w : NeighborCtx ch) (lost : Bool) : Status × NeighborCtx ch → Prop where
  | full (h0 : w.p.nhId = 0) (hal : w.nexthop.alloc = none) :
      NexthopAdd w lost (.insufficientResources, w)
  | added {i : Nat} {q : Pool ch.nexthop} (h0 : w.p.nhId = 0)
      (hal : w.nexthop.alloc = some (i, q)) :
      NexthopAdd w lost (.success, { w with p := { w.p with nhId := i }, nexthop := q })
  | refused {i : Nat} {q : Pool ch.nexthop} {status : Status} (h0 : w.p.nhId = 0)
      (hal : w.nexthop.alloc = some (i, q)) (hne : status ≠ .success) :
      NexthopAdd w lost (status, { w with nexthop := q.free (cond lost 0 i) })
  | updated (h0 : w.p.nhId ≠ 0) (status : Status) : NexthopAdd w lost (status, w)

variable (sdk) in
theorem neighborAddIpucNexthop_cases (ri : RouterInterface) (w : NeighborCtx ch) :
    NexthopAdd w true (neighborAddIpucNexthop sdk ri w) := by
  unfold neighborAddIpucNexthop
  dsimp only
  split
  · next h0 =>
    split
    · next hal => exact .full h0 hal
    next hal =>
    split
    · exact .added h0 hal
    · next hne =>
      rw [h0]
      exact .refused h0 hal hne
  · next h0 => exact .updated h0 _

variable (sdk) in
theorem neighborAddMiscNexthop_cases (ri : RouterInterface) (w : NeighborCtx ch) (f : IpFamily) :
    NexthopAdd w false (neighborAddMiscNexthop sdk ri w f) := by
  unfold neighborAddMiscNexthop
  dsimp only
  split
  · next h0 =>
    split
    · next hal => exact .full h0 hal
    next hal =>
    split
    · exact .added h0 hal
    · next hne => exact .refused h0 hal hne
  · next h0 => exact .updated h0 _

theorem neighborAddIpucNexthop_ok (hs : sdk.Succeeds) (ri : RouterInterface)
    (hn : w.nexthop.alloc ≠ none) :
    ∃ w', neighborAddIpucNexthop sdk ri w = (.success, w') ∧
      w'.arp = w.arp ∧ w'.p = { w.p with nhId := w'.p.nhId } ∧ w'.p.nhId ≠ 0 ∧
      Moves w.p.nhId w'.p.nhId w.nexthop.used w'.nexthop.used := by
  unfold neighborAddIpucNexthop
  by_cases h0 : w.p.nhId = 0
  · obtain ⟨⟨i, q⟩, hq⟩ := Option.ne_none_iff_exists'.mp hn
    obtain ⟨hi, hm⟩ := moves_alloc (nexthop_lo_pos ch) hq
    simp only [if_pos h0, hq, hs.status, if_true]
    exact ⟨_, rfl, rfl, rfl, hi, h0.symm ▸ hm⟩
  · simp only [if_neg h0, hs.status]
    exact ⟨w, rfl, rfl, rfl, h0, .refl _ _⟩

theorem neighborAddMiscNexthop_ok (hs : sdk.Succeeds) (ri : RouterInterface) (f : IpFamily)
    (hn : w.nexthop.alloc ≠ none) :
    ∃ w', neighborAddMiscNexthop sdk ri w f = (.success, w') ∧
      w'.arp = w.arp ∧ w'.p = { w.p with nhId := w'.p.nhId } ∧ w'.p.nhId ≠ 0 ∧
      Moves w.p.nhId w'.p.nhId w.nexthop.used w'.nexthop.used := by
  unfold neighborAddMiscNexthop
  by_cases h0 : w.p.nhId = 0
  · obtain ⟨⟨i, q⟩, hq⟩ := Option.ne_none_iff_exists'.mp hn
    obtain ⟨hi, hm⟩ := moves_alloc (nexthop_lo_pos ch) hq
    simp only [if_pos h0, hq, hs.status, if_true]
    exact ⟨_, rfl, rfl, rfl, hi, h0.symm ▸ hm⟩
  · simp only [if_neg h0, hs.status]
    exact ⟨w, rfl, rfl, rfl, h0, .refl _ _⟩

/-- `_ctc_sai_neighbor_add_nexthop` on a supported action. -/
theorem neighborAddNexthop_ok (hs : sdk.Succeeds) (hr : (ch.rif rif).isSome)
    (ha : w.arp.alloc ≠ none) (hn : w.nexthop.alloc ≠ none) (hp : programmable rif w.p.action)
    (f : IpFamily) :
    ∃ w', neighborAddNexthop sdk rif w f = (.success, w') ∧ Programmed rif w w' := by
  obtain ⟨ri, hri⟩ := Option.isSome_iff_exists.mp hr
  unfold neighborAddNexthop
  simp only [hri]
  by_cases hb : isBridgeRif rif
  · obtain ⟨w', he, harp, hrec, hnh, hm⟩ := neighborAddMiscNexthop_ok hs ri f hn
    rw [if_pos hb, he]
    refine ⟨w', rfl, by rw [hrec], hnh, hm, ?_, ?_⟩
    · rw [if_pos hb, hrec]
    · rw [harp, hrec]; exact .refl _ _
  have hf : (arpActionFlags w.p.action).isSome := by
    rw [programmable, Bool.or_eq_true] at hp
    exact hp.resolve_left hb
  obtain ⟨w₁, he₁, hnh₁, hrec₁, hid, hm₁⟩ := neighborAddArpEntry_ok hs hri ha hf
  obtain ⟨w', he, harp, hrec, hnh, hm⟩ :=
    neighborAddIpucNexthop_ok hs ri (by rw [hnh₁]; exact hn)
  simp only [hb, he₁, he]
  have hid₁ : w₁.p.nhId = w.p.nhId := by rw [hrec₁]
  have harpId : w'.p.arpId = w₁.p.arpId := by rw [hrec]
  refine ⟨w', rfl, by rw [hrec, hrec₁], hnh, ?_, ?_, ?_⟩
  · rw [← hid₁, ← hnh₁]; exact hm
  · simp only [hb, harpId]; exact hid
  · rw [harp, harpId]; exact hm₁

variable (sdk) in
/-- `_ctc_sai_neighbor_add_nexthop` on an action that is not supported. -/
theorem neighborAddNexthop_refused (hr : (ch.rif rif).isSome) (ha : w.arp.alloc ≠ none)
    (hp : programmable rif w.p.action = false) (f : IpFamily) :
    ∃ w', neighborAddNexthop sdk rif w f = (.notSupported, w') ∧ Refused w w' := by
  obtain ⟨ri, hri⟩ := Option.isSome_iff_exists.mp hr
  rw [programmable, Bool.or_eq_false_iff] at hp
  obtain ⟨isAdd, w', he, href⟩ :=
    neighborAddArpEntry_refused sdk hri ha (Option.not_isSome_iff_eq_none.mp (by rw [hp.2]; decide))
  unfold neighborAddNexthop
  simp only [hri, hp.1, he]
  exact ⟨w', rfl, href⟩

/-- `_ctc_sai_neighbor_remove_nexthop`: both ids are given back. -/
theorem neighborRemoveNexthop_ok (hs : sdk.Succeeds) (hr : (ch.rif rif).isSome)
    (hb : isBridgeRif rif → w.p.arpId = 0) :
    ∃ w', neighborRemoveNexthop sdk rif w = (.success, w') ∧
      w'.p = { w.p with arpId := 0, nhId := 0 } ∧
      Moves w.p.nhId 0 w.nexthop.used w'.nexthop.used ∧
      Moves w.p.arpId 0 w.arp.used w'.arp.used := by
  obtain ⟨ri, hri⟩ := Option.isSome_iff_exists.mp hr
  unfold neighborRemoveNexthop
  simp only [hri]
  by_cases hbr : isBridgeRif rif
  · simp only [if_pos hbr]
    refine ⟨_, rfl, ?_, .give rfl rfl, ?_⟩
    · rw [← hb hbr]
    · rw [hb hbr]; exact .refl _ _
  simp only [hbr, neighborRemoveIpucNexthop, neighborRemoveArpEntry, hs.status]
  by_cases h0 : w.p.nhId = 0
  · simp only [if_pos h0, if_true]
    refine ⟨_, rfl, ?_, ?_, .give rfl rfl⟩
    · rw [← h0]
    · rw [h0]; exact .refl _ _
  · simp only [if_neg h0, if_true]
    exact ⟨_, rfl, rfl, .give rfl rfl, .give rfl rfl⟩

/-! ## One record of the table -/

def NeighborDb.record (db : NeighborDb ch) (k : NeighborKey) : Option Neighbor :=
  Table.get db.table k

/-- The database after a write of `x` at `k`, with the ids of that record moved. -/
structure Wrote (db db' : NeighborDb ch) (k : NeighborKey) (x : Option Neighbor) : Prop where
  record : db'.record = update db.record k x
  nh : Moves (idOf Neighbor.nhId (db.record k)) (idOf Neighbor.nhId x)
    db.nexthop.used db'.nexthop.used
  arp : Moves (idOf Neighbor.arpId (db.record k)) (idOf Neighbor.arpId x)
    db.arp.used db'.arp.used

theorem NeighborDb.record_eq (db : NeighborDb ch) (k : NeighborKey) :
    db.record k = db.table.lookup k := rfl

theorem record_put (db : NeighborDb ch) (k : NeighborKey) (w : NeighborCtx ch) :
    (db.put k w).record = update db.record k (some w.p) :=
  get_insert _ _ _

theorem lookup_put (db : NeighborDb ch) (k : NeighborKey) (w : NeighborCtx ch) :
    (db.put k w).table.lookup k = some w.p :=
  AList.lookup_insert _

theorem Wrote.refl (db : NeighborDb ch) (k : NeighborKey) : Wrote db db k (db.record k) where
  record := (update_eq_self k db.record).symm
  nh := .refl _ _
  arp := .refl _ _

/-- `_ctc_sai_neighbor_remove_db` on a record with at most one reference. -/
theorem neighborRemoveDb_erase {db : NeighborDb ch} {k : NeighborKey} {p : Neighbor}
    {byNextHop : Bool} (hl : db.table.lookup k = some p)
    (hb : (p.neighborExists || byNextHop) = true) (href : p.refCnt ≤ 1) :
    neighborRemoveDb db k byNextHop = (.success, { db with table := db.table.erase k }) := by
  unfold neighborRemoveDb
  rw [hl]
  cases byNextHop with
  | true => simp [href]
  | false =>
    rw [Bool.or_false] at hb
    simp [hb, href]

/-- `_ctc_sai_neighbor_remove_db` by the neighbor module on a record that a
next hop still uses. -/
theorem neighborRemoveDb_keep (hl : db.table.lookup k = some p) (hb : p.neighborExists = true)
    (href : 1 < p.refCnt) :
    neighborRemoveDb db k false = (.success, { db with
      table := db.table.insert k { p with neighborExists := false, refCnt := p.refCnt - 1 } }) := by
  unfold neighborRemoveDb
  have hlt : ¬ p.refCnt ≤ 1 := by omega
  simp [hl, hb, hlt]

/-- A context whose record is dropped: the table loses the record, and the ids
the context gave back are gone from the pools. -/
theorem wrote_drop {byNextHop : Bool} (hb : (w.p.neighborExists || byNextHop) = true)
    (href : w.p.refCnt ≤ 1)
    (hnh : Moves (idOf Neighbor.nhId (db.record k)) 0 db.nexthop.used w.nexthop.used)
    (harp : Moves (idOf Neighbor.arpId (db.record k)) 0 db.arp.used w.arp.used) :
    Wrote db (neighborRemoveDb (db.put k w) k byNextHop).2 k none := by
  rw [neighborRemoveDb_erase (lookup_put db k w) hb href]
  refine ⟨?_, hnh, harp⟩
  show Table.get ((db.put k w).table.erase k) = _
  rw [get_erase]
  show update (db.put k w).record k none = _
  rw [record_put, update_idem]

/-! ## Creating a neighbor, when the SDK succeeds -/

/-- The record `create` starts from: the one a next hop made, or a new one. -/
def createBase (o : Option Neighbor) : Neighbor :=
  match o with
  | some p => { p with neighborExists := true }
  | none => Neighbor.new false

theorem neighborBuildDb_create (hs : sdk.Succeeds)
    (hex : ∀ p, db.record k = some p → p.neighborExists = false) :
    neighborBuildDb sdk db k false = (.success, createBase (db.record k),
      { db with table := db.table.insert k (createBase (db.record k)) }) := by
  unfold neighborBuildDb
  rw [NeighborDb.record_eq] at hex ⊢
  cases h : db.table.lookup k with
  | some p => simp [createBase, hex p h]
  | none => simp [createBase, neighborPropertyAdd, hs.mem]

/-- The action `create` stores. -/
def createAction (attrs : List NeighborAttr) : PacketAction :=
  (findAttribInList NeighborAttr.packetAction? attrs).getD .forward

/-- `create` on a record that no neighbor holds, with an action the interface
supports: success, and the record counts one more reference. -/
theorem createNeighbor_ok (hs : sdk.Succeeds) (hr : (ch.rif rif).isSome) (ha : db.arp.alloc ≠ none)
    (hn : db.nexthop.alloc ≠ none)
    (hex : ∀ p, db.record (neighborKey rif ip) = some p → p.neighborExists = false)
    (hmac : (findAttribInList NeighborAttr.dstMacAddress? attrs).isSome)
    (hact : programmable rif (createAction attrs))
    (hflag : (findAttribInList NeighborAttr.noHostRoute? attrs).isSome ∨
      (createBase (db.record (neighborKey rif ip))).noHostRoute = false)
    (harp : isBridgeRif rif → (createBase (db.record (neighborKey rif ip))).arpId = 0) :
    ∃ db' q, createNeighbor sdk db rif ip attrs = (.success, db') ∧
      Wrote db db' (neighborKey rif ip) (some q) ∧ q.neighborExists = true ∧
      q.refCnt = (createBase (db.record (neighborKey rif ip))).refCnt + 1 ∧ q.nhId ≠ 0 ∧
      (if isBridgeRif rif then q.arpId = 0 else q.arpId ≠ 0) ∧
      q.action = createAction attrs := by
  obtain ⟨mac, hmac⟩ := Option.isSome_iff_exists.mp hmac
  obtain ⟨ri, hri⟩ := Option.isSome_iff_exists.mp hr
  generalize hk : neighborKey rif ip = k at *
  generalize hb : createBase (db.record k) = base at *
  have hids : base.nhId = idOf Neighbor.nhId (db.record k) ∧
      base.arpId = idOf Neighbor.arpId (db.record k) ∧ base.neighborExists = true := by
    subst hb
    cases db.record k <;> exact ⟨rfl, rfl, rfl⟩
  obtain ⟨w, hw, hprog⟩ := neighborAddNexthop_ok hs hr
    (w := ⟨createNeighborFill base mac attrs, db.arp, db.nexthop⟩) ha hn hact ip.addrFamily
  -- a host route is added, or the flag was given and is set
  have hstat : createHostRoute ch sdk rif ip attrs
      { w.p with noHostRoute := createNoHostRoute attrs w.p } = .success := by
    have hnone : w.p.noHostRoute = base.noHostRoute := by rw [hprog.record]; rfl
    unfold createHostRoute neighborAddHostRoute createNoHostRoute
    rw [hnone]
    rcases hflag with hf | hf
    · simp [hf, hri, hprog.nh, hs.status]
    · cases findAttribInList NeighborAttr.noHostRoute? attrs <;> simp [hf, hri, hprog.nh, hs.status]
  unfold createNeighbor
  simp only [hk, neighborBuildDb_create hs hex, hb, hmac, NeighborDb.ctx, hw]
  unfold createNeighborFinish
  simp only [hk, hstat, ne_eq, not_true_eq_false, and_false, if_false]
  let q : Neighbor :=
    { w.p with noHostRoute := createNoHostRoute attrs w.p, refCnt := w.p.refCnt + 1 }
  refine ⟨_, q, rfl, ⟨?_, hids.1 ▸ hprog.nhMoves, hids.2.1 ▸ hprog.arpMoves⟩, ?_, ?_,
    hprog.nh, ?_, ?_⟩
  · show Table.get ((db.table.insert k base).insert k q) = _
    rw [get_insert, get_insert, update_idem]
    rfl
  · show w.p.neighborExists = true
    rw [hprog.record]; exact hids.2.2
  · show w.p.refCnt + 1 = base.refCnt + 1
    rw [hprog.record]; rfl
  · have := hprog.arp
    split at this
    · next h => rw [if_pos h]; exact this.trans (harp h)
    · next h => rw [if_neg h]; exact this
  · show w.p.action = createAction attrs
    rw [hprog.record]; rfl

/-- `create` with an action the interface does not support, where no record
was: nothing stays behind. -/
theorem createNeighbor_refused (hs : sdk.Succeeds) (hr : (ch.rif rif).isSome)
    (ha : db.arp.alloc ≠ none) (hnone : db.record (neighborKey rif ip) = none)
    (hmac : (findAttribInList NeighborAttr.dstMacAddress? attrs).isSome)
    (hact : programmable rif (createAction attrs) = false) :
    ∃ db', createNeighbor sdk db rif ip attrs = (.notSupported, db') ∧
      Wrote db db' (neighborKey rif ip) none := by
  obtain ⟨mac, hmac⟩ := Option.isSome_iff_exists.mp hmac
  generalize hk : neighborKey rif ip = k at *
  obtain ⟨w, hw, href⟩ := neighborAddNexthop_refused sdk hr
    (w := ⟨createNeighborFill (createBase none) mac attrs, db.arp, db.nexthop⟩) ha hact
    ip.addrFamily
  have hex : ∀ p, db.record k = some p → p.neighborExists = false := by
    intro p hp
    rw [hnone] at hp
    cases hp
  unfold createNeighbor
  simp only [hk, neighborBuildDb_create hs hex, hnone, hmac, NeighborDb.ctx, hw]
  refine ⟨_, rfl, ?_⟩
  -- the write is dropped again before `create` returns
  have hput : ∀ (t : Table NeighborKey Neighbor), (NeighborDb.put
      { db with table := t.insert k (createBase none) } k w) =
      NeighborDb.put { db with table := t } k w := by
    intro t
    simp only [NeighborDb.put, AList.insert_insert]
  have hexists : (w.p.neighborExists || false) = true := by rw [href.record]; rfl
  have hcnt : w.p.refCnt ≤ 1 := by rw [href.record]; exact Nat.zero_le 1
  rw [hput]
  refine wrote_drop hexists hcnt ?_ ?_
  · rw [hnone]; exact .keep rfl href.nhUsed
  · rw [hnone]; exact .keep rfl href.arpUsed

theorem createNeighbor_exists (hp : db.record (neighborKey rif ip) = some p)
    (hex : p.neighborExists = true) :
    createNeighbor sdk db rif ip attrs = (.itemAlreadyExists, db) := by
  unfold createNeighbor neighborBuildDb
  rw [NeighborDb.record_eq] at hp
  simp only [hp, hex]
  rfl

/-! ## A record that has its ids -/

/-- The record holds what hardware needs on its interface. -/
structure HasIds (rif : Oid) (p : Neighbor) : Prop where
  nh : p.nhId ≠ 0
  arp : isBridgeRif rif = false → p.arpId ≠ 0

variable (sdk rif) in
theorem neighborAddArpEntry_held (h : w.p.arpId ≠ 0) : ∃ st g, neighborAddArpEntry sdk rif w =
      (st, false, { w with p := { w.p with gport := g } }) := by
  unfold neighborAddArpEntry neighborAllocArp addArpError1
  simp only [if_neg h]
  cases ch.rif rif with
  | none => exact ⟨_, w.p.gport, rfl⟩
  | some ri =>
    cases arpActionFlags w.p.action with
    | none => exact ⟨_, w.p.gport, rfl⟩
    | some flags =>
      simp only [Bool.false_eq_true, if_false]
      split
      · exact ⟨_, _, rfl⟩
      · exact ⟨_, _, rfl⟩

theorem NexthopAdd.held {r : Status × NeighborCtx ch} {lost : Bool} (h : NexthopAdd w lost r)
    (h0 : w.p.nhId ≠ 0) : ∃ st, r = (st, w) := by
  cases h with
  | updated => exact ⟨_, rfl⟩
  | full h | added h | refused h => exact absurd h h0

variable (sdk) in
/-- On a record that has its ids, programming hardware takes and gives back
nothing, whatever the SDK answers. -/
theorem neighborAddNexthop_held {w : NeighborCtx ch} (h : HasIds rif w.p) (f : IpFamily) :
    ∃ g, (neighborAddNexthop sdk rif w f).2 = { w with p := { w.p with gport := g } } := by
  unfold neighborAddNexthop
  cases hr : ch.rif rif with
  | none => exact ⟨w.p.gport, rfl⟩
  | some ri =>
    cases hb : isBridgeRif rif with
    | true =>
      obtain ⟨st, he⟩ := (neighborAddMiscNexthop_cases sdk ri w f).held h.nh
      simp only [if_true, he]
      exact ⟨w.p.gport, rfl⟩
    | false =>
      obtain ⟨st, g, he⟩ := neighborAddArpEntry_held sdk rif (h.arp hb)
      have hnh : ({ w with p := { w.p with gport := g } } : NeighborCtx ch).p.nhId ≠ 0 := h.nh
      obtain ⟨st', he'⟩ := (neighborAddIpucNexthop_cases sdk ri _).held hnh
      simp only [Bool.false_eq_true, if_false, he]
      split
      · next heq =>
        cases heq
        rw [he']
        exact ⟨g, by split <;> simp_all⟩
      · next heq => cases heq; exact ⟨g, rfl⟩

/-- Hardware is only programmed for an action the interface supports. -/
theorem programmable_of_success {f : IpFamily} (h : (neighborAddNexthop sdk rif w f).1 = .success) :
    programmable rif w.p.action := by
  unfold programmable
  by_cases hb : isBridgeRif rif
  · rw [hb]; rfl
  unfold neighborAddNexthop neighborAddArpEntry at h
  cases hf : arpActionFlags w.p.action with
  | some flags => simp
  | none =>
    cases hr : ch.rif rif with
    | none => simp [hr] at h
    | some ri =>
      have hact : ∀ {isAdd w'}, neighborAllocArp w = some (isAdd, w') →
          w'.p.action = w.p.action := by
        intro isAdd w' he
        unfold neighborAllocArp at he
        split at he
        · cases hal : w.arp.alloc with
          | none => simp [hal] at he
          | some q => simp [hal] at he; rw [← he.2]
        · simp only [Option.some.injEq, Prod.mk.injEq] at he
          rw [← he.2]
      cases hal : neighborAllocArp w with
      | none => simp [hr, hb, hal] at h
      | some q =>
        simp [hr, hb, hal, hact hal, hf, addArpError1] at h

theorem wrote_same {db' : NeighborDb ch} {q : Neighbor} (hp : db.record k = some p)
    (ht : db'.record = update db.record k (some q)) (hnh : q.nhId = p.nhId)
    (harp : q.arpId = p.arpId) (hn : db'.nexthop = db.nexthop) (ha : db'.arp = db.arp) :
    Wrote db db' k (some q) where
  record := ht
  nh := by rw [hp, hn]; exact .keep hnh rfl
  arp := by rw [hp, ha]; exact .keep harp rfl

/-! ## Removing a neighbor -/

section Ops

variable {db : NeighborDb ch} {ip : IpAddress} {p : Neighbor}

theorem neighborRemoveNeighbor_absent
    (h : ∀ p, db.record (neighborKey rif ip) = some p → p.neighborExists = false) :
    neighborRemoveNeighbor sdk db rif ip = (.itemNotFound, db) := by
  unfold neighborRemoveNeighbor
  cases hl : db.table.lookup (neighborKey rif ip) with
  | none => simp only [hl]
  | some p => simp only [hl, h p hl, Bool.not_false, if_true]

theorem neighborRemoveNeighbor_eq (hp : db.record (neighborKey rif ip) = some p)
    (hex : p.neighborExists = true) :
    neighborRemoveNeighbor sdk db rif ip = (.success,
      (neighborRemoveDb (db.put (neighborKey rif ip) (neighborRelease sdk db rif ip p))
        (neighborKey rif ip) false).2) := by
  rw [NeighborDb.record_eq] at hp
  unfold neighborRemoveNeighbor
  simp only [hp]
  rw [if_neg (by rw [hex]; decide)]

variable (ip) in
theorem neighborRemoveNeighbor_last (hs : sdk.Succeeds) (hr : (ch.rif rif).isSome)
    (hp : db.record (neighborKey rif ip) = some p) (hex : p.neighborExists = true)
    (href : p.refCnt ≤ 1) (hb : isBridgeRif rif → p.arpId = 0) :
    ∃ db', neighborRemoveNeighbor sdk db rif ip = (.success, db') ∧
      Wrote db db' (neighborKey rif ip) none := by
  obtain ⟨w, hw, hrec, hnh, harp⟩ := neighborRemoveNexthop_ok hs hr (w := db.ctx p) hb
  rw [neighborRemoveNeighbor_eq hp hex, neighborRelease, if_pos href, hw]
  refine ⟨_, rfl, wrote_drop ?_ ?_ ?_ ?_⟩
  · rw [hrec]; simp [NeighborDb.ctx, hex]
  · rw [hrec]; exact href
  · rw [hp]; exact hnh
  · rw [hp]; exact harp

variable (sdk ip) in
theorem neighborRemoveNeighbor_shared
    (hp : db.record (neighborKey rif ip) = some p) (hex : p.neighborExists = true)
    (href : 1 < p.refCnt) (hids : HasIds rif p) :
    ∃ db' q, neighborRemoveNeighbor sdk db rif ip = (.success, db') ∧
      Wrote db db' (neighborKey rif ip) (some q) ∧ q.neighborExists = false ∧
      q.refCnt = p.refCnt - 1 ∧ q.nhId = p.nhId ∧ q.arpId = p.arpId := by
  have hlt : ¬ p.refCnt ≤ 1 := by omega
  rw [neighborRemoveNeighbor_eq hp hex, neighborRelease, if_neg hlt]
  dsimp only
  generalize ((ch.rif rif).map (·.neighborMissAction)).getD p.action = action
  obtain ⟨g, hg⟩ := neighborAddNexthop_held sdk (w := db.ctx { p with action := action, destMac := 0 }) ⟨hids.nh, hids.arp⟩ ip.addrFamily
  rw [hg, neighborRemoveDb_keep (lookup_put _ _ _) (by exact hex) (by exact href)]
  refine ⟨_, { p with
      action := action, destMac := 0, gport := g, neighborExists := false, refCnt := p.refCnt - 1 },
    rfl, wrote_same hp ?_ rfl rfl rfl rfl, rfl, rfl, rfl, rfl⟩
  show Table.get ((db.put _ _).table.insert _ _) = _
  rw [get_insert]
  show update (db.put _ _).record _ _ = _
  rw [record_put, update_idem]
  rfl

theorem removeNeighbor_success (h : (neighborRemoveNeighbor sdk db rif ip).1 = .success) :
    removeNeighbor sdk db rif ip =
      (.success, neighborCntDec (neighborRemoveNeighbor sdk db rif ip).2 ip.addrFamily) := by
  unfold removeNeighbor
  split
  · next heq => rw [heq]
  · next hne heq => rw [heq] at h; exact absurd h hne

theorem removeNeighbor_failure (h : (neighborRemoveNeighbor sdk db rif ip).1 ≠ .success) :
    removeNeighbor sdk db rif ip = neighborRemoveNeighbor sdk db rif ip := by
  unfold removeNeighbor
  split
  · next heq => rw [heq] at h; exact absurd rfl h
  · next heq => exact heq.symm

/-! ## Setting an attribute -/

/-- What `set` may change: not existence, references or ids, and the action
only to one the interface supports. -/
structure SetKeeps (rif : Oid) (p q : Neighbor) : Prop where
  exists_ : q.neighborExists = p.neighborExists
  refCnt : q.refCnt = p.refCnt
  nhId : q.nhId = p.nhId
  arpId : q.arpId = p.arpId
  action : q.action = p.action ∨ programmable rif q.action

theorem SetKeeps.refl (rif : Oid) (p : Neighbor) : SetKeeps rif p p :=
  ⟨rfl, rfl, rfl, rfl, .inl rfl⟩

variable (sdk) in
theorem setNeighborReprogram_held (p' : Neighbor) (hids : HasIds rif p)
    (hp : db.record (neighborKey rif ip) = some p) (hex : p'.neighborExists = p.neighborExists)
    (href : p'.refCnt = p.refCnt) (hnh : p'.nhId = p.nhId) (harp : p'.arpId = p.arpId) :
    ∃ q, Wrote db (setNeighborReprogram sdk db rif ip p p').2 (neighborKey rif ip) (some q) ∧
      SetKeeps rif p q := by
  have h' : HasIds rif p' :=
    ⟨hnh ▸ hids.nh, fun hb => harp ▸ hids.arp hb⟩
  obtain ⟨g, hg⟩ := neighborAddNexthop_held sdk (w := db.ctx p') h' ip.addrFamily
  unfold setNeighborReprogram
  split
  · next w heq =>
    have hsupp : programmable rif p'.action :=
      programmable_of_success (w := db.ctx p') (by rw [heq])
    rw [heq] at hg
    cases hg
    exact ⟨_, wrote_same hp (record_put _ _ _) hnh harp rfl rfl, ⟨hex, href, hnh, harp, .inr hsupp⟩⟩
  next w _ heq =>
  rw [heq] at hg
  cases hg
  exact ⟨p, wrote_same hp (record_put _ _ _) rfl rfl rfl rfl, .refl rif p⟩

variable (sdk) in
theorem setNeighborAttr_held (hids : ∀ p, db.record (neighborKey rif ip) = some p → HasIds rif p)
    (attr : NeighborAttr) :
    (setNeighborAttr sdk db rif ip attr).2 = db ∨
    ∃ p q, db.record (neighborKey rif ip) = some p ∧
      Wrote db (setNeighborAttr sdk db rif ip attr).2 (neighborKey rif ip) (some q) ∧
      SetKeeps rif p q := by
  unfold setNeighborAttr
  cases hset : attr.settable with
  | false => exact .inl rfl
  | true =>
    simp only [Bool.not_true, Bool.false_eq_true, if_false]
    cases hl : db.table.lookup (neighborKey rif ip) with
    | none => exact .inl rfl
    | some p =>
      dsimp only
      split
      · exact .inl rfl
      right
      refine ⟨p, ?_⟩
      cases attr with
      | dstMacAddress mac =>
        obtain ⟨q, hq⟩ := setNeighborReprogram_held sdk
          { p with destMac := mac } (hids p hl) hl rfl rfl rfl rfl
        exact ⟨q, hl, hq⟩
      | packetAction action =>
        obtain ⟨q, hq⟩ := setNeighborReprogram_held sdk
          { p with action := action } (hids p hl) hl rfl rfl rfl rfl
        exact ⟨q, hl, hq⟩
      | noHostRoute b =>
        simp only [setNeighborRecord]
        split
        · refine ⟨{ p with noHostRoute := b }, hl, wrote_same hl ?_ rfl rfl rfl rfl, ?_⟩
          · exact get_insert _ _ _
          · exact ⟨rfl, rfl, rfl, rfl, .inl rfl⟩
        refine ⟨p, hl, ?_, .refl rif p⟩
        have h := Wrote.refl db (neighborKey rif ip)
        rw [NeighborDb.record_eq, hl] at h
        exact h
      | userTrapId => cases hset
      | metaData => cases hset
      | counterId => cases hset

/-! ## Next hops of type IP -/

theorem neighborBuildDb_nextHop_some (k : NeighborKey) (hp : db.record k = some p) :
    neighborBuildDb sdk db k true = (.success, p, db) := by
  rw [NeighborDb.record_eq] at hp
  unfold neighborBuildDb
  simp only [hp, Bool.not_true, Bool.and_false, Bool.false_eq_true, if_false, if_true]

theorem neighborBuildDb_nextHop_none (hs : sdk.Succeeds) (k : NeighborKey)
    (hp : db.record k = none) :
    neighborBuildDb sdk db k true =
      (.success, .new true, { db with table := db.table.insert k (.new true) }) := by
  rw [NeighborDb.record_eq] at hp
  unfold neighborBuildDb
  simp only [hp, neighborPropertyAdd, hs.mem, if_true]

def missAction (ch : Chip) (rif : Oid) : PacketAction :=
  ((ch.rif rif).map (·.neighborMissAction)).getD .drop

/-- A next hop that makes its record, under a miss action the interface
supports. -/
theorem neighborAllocIpucNexthop_new (hs : sdk.Succeeds) (hr : (ch.rif rif).isSome)
    (ha : db.arp.alloc ≠ none) (hn : db.nexthop.alloc ≠ none)
    (hp : db.record (neighborKey rif ip) = none) (hact : programmable rif (missAction ch rif)) :
    ∃ db' q, neighborAllocIpucNexthop sdk db rif ip = (.success, q.nhId, db') ∧
      Wrote db db' (neighborKey rif ip) (some q) ∧ q.neighborExists = false ∧ q.refCnt = 1 ∧
      q.nhId ≠ 0 ∧ (if isBridgeRif rif then q.arpId = 0 else q.arpId ≠ 0) := by
  obtain ⟨ri, hri⟩ := Option.isSome_iff_exists.mp hr
  have hmiss : missAction ch rif = ri.neighborMissAction := by rw [missAction, hri]; rfl
  rw [hmiss] at hact
  obtain ⟨w, hw, hprog⟩ := neighborAddNexthop_ok hs hr
    (w := ⟨{ Neighbor.new true with action := ri.neighborMissAction }, db.arp, db.nexthop⟩)
    ha hn hact ip.addrFamily
  unfold neighborAllocIpucNexthop
  simp only [neighborBuildDb_nextHop_none hs _ hp]
  have h0 : (Neighbor.new true).refCnt = 0 := rfl
  rw [if_pos h0, hri]
  simp only [Option.map_some, NeighborDb.ctx, hw]
  refine ⟨_, { w.p with refCnt := w.p.refCnt + 1 }, rfl, ⟨?_, ?_, ?_⟩, ?_, ?_, hprog.nh, ?_⟩
  · show Table.get ((db.table.insert _ _).insert _ _) = _
    rw [get_insert, get_insert, update_idem]
    rfl
  · rw [hp]; exact hprog.nhMoves
  · rw [hp]; exact hprog.arpMoves
  · rw [hprog.record]; rfl
  · rw [hprog.record]; rfl
  · exact hprog.arp

/-- A next hop that makes its record, under a miss action the interface does
not support: nothing stays behind. -/
theorem neighborAllocIpucNexthop_refused (hs : sdk.Succeeds) (hr : (ch.rif rif).isSome)
    (ha : db.arp.alloc ≠ none) (hp : db.record (neighborKey rif ip) = none)
    (hact : programmable rif (missAction ch rif) = false) :
    ∃ db', neighborAllocIpucNexthop sdk db rif ip = (.notSupported, 0, db') ∧
      Wrote db db' (neighborKey rif ip) none := by
  obtain ⟨ri, hri⟩ := Option.isSome_iff_exists.mp hr
  have hmiss : missAction ch rif = ri.neighborMissAction := by rw [missAction, hri]; rfl
  rw [hmiss] at hact
  obtain ⟨w, hw, href⟩ := neighborAddNexthop_refused sdk hr
    (w := ⟨{ Neighbor.new true with action := ri.neighborMissAction }, db.arp, db.nexthop⟩)
    ha hact ip.addrFamily
  unfold neighborAllocIpucNexthop
  simp only [neighborBuildDb_nextHop_none hs _ hp]
  have h0 : (Neighbor.new true).refCnt = 0 := rfl
  rw [if_pos h0, hri]
  simp only [Option.map_some, NeighborDb.ctx, hw]
  refine ⟨_, rfl, ?_⟩
  have hput : NeighborDb.put
      { db with table := db.table.insert (neighborKey rif ip) (.new true) } (neighborKey rif ip) w =
      db.put (neighborKey rif ip) w := by
    simp only [NeighborDb.put, AList.insert_insert]
  rw [hput]
  refine wrote_drop ?_ ?_ ?_ ?_
  · rw [Bool.or_true]
  · rw [href.record]; exact Nat.zero_le 1
  · rw [hp]; exact .keep rfl href.nhUsed
  · rw [hp]; exact .keep rfl href.arpUsed

/-- A next hop on a record that has its ids, under an action the interface
supports. -/
theorem neighborAllocIpucNexthop_shared (hs : sdk.Succeeds) (hr : (ch.rif rif).isSome)
    (ha : db.arp.alloc ≠ none) (hn : db.nexthop.alloc ≠ none)
    (hp : db.record (neighborKey rif ip) = some p) (hids : HasIds rif p) (href : p.refCnt ≠ 0)
    (hact : programmable rif p.action) :
    ∃ db' q, neighborAllocIpucNexthop sdk db rif ip = (.success, p.nhId, db') ∧
      Wrote db db' (neighborKey rif ip) (some q) ∧ q.neighborExists = p.neighborExists ∧
      q.refCnt = p.refCnt + 1 ∧ q.nhId = p.nhId ∧ q.arpId = p.arpId ∧ q.action = p.action := by
  obtain ⟨w, hw, _⟩ := neighborAddNexthop_ok hs hr (w := ⟨p, db.arp, db.nexthop⟩) ha hn hact
    ip.addrFamily
  obtain ⟨g, hg⟩ := neighborAddNexthop_held sdk (w := db.ctx p) hids ip.addrFamily
  have hw' : w = { db.ctx p with p := { p with gport := g } } := by
    rw [NeighborDb.ctx, hw] at hg
    exact hg
  subst hw'
  unfold neighborAllocIpucNexthop
  simp only [neighborBuildDb_nextHop_some _ hp, if_neg href, NeighborDb.ctx]
  rw [hw]
  refine ⟨_, { p with gport := g, refCnt := p.refCnt + 1 }, rfl,
    wrote_same hp (record_put _ _ _) rfl rfl rfl rfl, rfl, rfl, rfl, rfl, rfl⟩

theorem neighborFreeIpucNexthop_last (hs : sdk.Succeeds) (hr : (ch.rif rif).isSome)
    (hp : db.record (neighborKey rif ip) = some p) (href : p.refCnt = 1)
    (hb : isBridgeRif rif → p.arpId = 0) :
    Wrote db (neighborFreeIpucNexthop sdk db rif ip p.nhId).2 (neighborKey rif ip) none := by
  obtain ⟨w, hw, hrec, hnh, harp⟩ := neighborRemoveNexthop_ok hs hr (w := db.ctx p) hb
  have hl := hp
  rw [NeighborDb.record_eq] at hl
  unfold neighborFreeIpucNexthop
  simp only [hl, ne_eq, not_true_eq_false, if_false, if_pos href, hw]
  refine wrote_drop ?_ ?_ ?_ ?_
  · rw [Bool.or_true]
  · rw [hrec]; exact Nat.le_of_eq href
  · rw [hp]; exact hnh
  · rw [hp]; exact harp

variable (sdk) in
/-- Another reference remains: the record stays, with its ids. -/
theorem neighborFreeIpucNexthop_shared
    (hp : db.record (neighborKey rif ip) = some p) (href : p.refCnt ≠ 1) :
    neighborFreeIpucNexthop sdk db rif ip p.nhId = (.success, { db with
      table := db.table.insert (neighborKey rif ip) { p with refCnt := p.refCnt - 1 } }) := by
  rw [NeighborDb.record_eq] at hp
  unfold neighborFreeIpucNexthop
  simp only [hp, ne_eq, not_true_eq_false, if_false, if_neg href]

theorem Wrote.again {db' : NeighborDb ch} {k : NeighborKey} {q r : Neighbor}
    (h : Wrote db db' k (some q)) (hnh : r.nhId = q.nhId) (harp : r.arpId = q.arpId) :
    Wrote db { db' with table := db'.table.insert k r } k (some r) where
  record := by
    show Table.get (db'.table.insert k r) = _
    rw [get_insert]
    show update db'.record k (some r) = _
    rw [h.record, update_idem]
  nh := h.nh.trans_keep hnh rfl
  arp := h.arp.trans_keep harp rfl

end Ops

end CtcSai
