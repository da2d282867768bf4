/-
# `SharedRecord` — one record for a neighbor and its IP next hop

A NEIGHBOR record serves a neighbor, a next hop of type IP, or both.  Runs of
the two modules are modelled as one system whose steps are API calls, with one
ghost field: at which places a neighbor was created and not removed, as the
returned statuses tell.

What is proved is an invariant of each place of the table (`PlaceInv`) and of
the two id pools (`Ownership.Owns`).  Every operation writes one record
(`Wrote`), so one rule (`SharedInv.write`) carries the invariant through all of
them; `remove_all` is that rule once for every record.

The invariant does not survive two calls: creating a neighbor over a next
hop's record with an action the interface cannot be programmed with, and
creating a next hop again on a record that holds such an action.  Both take
the failure path of the call, which drops a record it did not make.
-/
import CtcSai.Lib.Run
import CtcSai.NeighborSpec
import CtcSai.NextHop

namespace CtcSai

open Function KeyedTable Ownership Runs Table

variable {ch : Chip}
variable {live : NeighborKey → Bool}

/-! ## The system -/

/-- The calls of the neighbor API and of next hops of type IP. -/
inductive SharedCall where
  | createNeighbor (rif : Oid) (ip : IpAddress) (attrs : List NeighborAttr)
  | removeNeighbor (rif : Oid) (ip : IpAddress)
  | removeAllNeighbor
  | setNeighborAttr (rif : Oid) (ip : IpAddress) (attr : NeighborAttr)
  | createNextHop (raw : NextHopAttr → Oid) (attrs : List NextHopAttr)
  | removeNextHop (oid : Oid)

/-- The database, and where a neighbor was created and not removed. -/
structure SharedState (ch : Chip) where
  db : NextHopDb ch
  created : NeighborKey → Bool

/-- The start: no neighbor and no next hop, and both pools unused. -/
def SharedState.Init (s : SharedState ch) : Prop :=
  s.db.nbr = .empty ch ∧ s.db.nextHops = ∅ ∧ s.created = fun _ => false

/-- A call of the neighbor module on the whole database. -/
def SharedState.withNbr (s : SharedState ch) (nbr : NeighborDb ch) (created : NeighborKey → Bool) :
    SharedState ch :=
  ⟨{ s.db with nbr := nbr }, created⟩

/-- Where a neighbor is, after a call that made or removed the one at `k`. -/
def noteAt (created : NeighborKey → Bool) (k : NeighborKey) (b : Bool) (status : Status) :
    NeighborKey → Bool :=
  if status = .success then update created k b else created

/-- One API call, under what the SDK answers during it. -/
def sharedStep (s : SharedState ch) (a : Sdk × SharedCall) : Option (SharedState ch) :=
  match a.2 with
  | .createNeighbor rif ip attrs =>
    let r := createNeighbor a.1 s.db.nbr rif ip attrs
    some (s.withNbr r.2 (noteAt s.created (neighborKey rif ip) true r.1))
  | .removeNeighbor rif ip =>
    let r := removeNeighbor a.1 s.db.nbr rif ip
    some (s.withNbr r.2 (noteAt s.created (neighborKey rif ip) false r.1))
  | .removeAllNeighbor => some (s.withNbr (removeAllNeighbor a.1 s.db.nbr).2 fun _ => false)
  | .setNeighborAttr rif ip attr =>
    some (s.withNbr (setNeighborAttr a.1 s.db.nbr rif ip attr).2 s.created)
  | .createNextHop raw attrs => (createNextHop raw a.1 s.db attrs).map fun r => ⟨r.2.2, s.created⟩
  | .removeNextHop oid => (removeNextHop a.1 s.db oid).map fun r => ⟨r.2, s.created⟩

theorem sharedStep_createNextHop (s : SharedState ch) (sdk : Sdk) (raw : NextHopAttr → Oid)
    (attrs : List NextHopAttr) : sharedStep s (sdk, .createNextHop raw attrs) =
      (createNextHop raw sdk s.db attrs).map fun r => ⟨r.2.2, s.created⟩ := rfl

theorem sharedStep_removeNextHop (s : SharedState ch) (sdk : Sdk) (oid : Oid) :
    sharedStep s (sdk, .removeNextHop oid) =
      (removeNextHop sdk s.db oid).map fun r => ⟨r.2, s.created⟩ := rfl

/-- The arguments of a call are valid: the interface exists, a neighbor has an
address, and a next hop is of type IP. -/
def SharedCall.Valid (ch : Chip) : SharedCall → Prop
  | .createNeighbor rif _ attrs =>
    (ch.rif rif).isSome ∧ (findAttribInList NeighborAttr.dstMacAddress? attrs).isSome
  | .removeNeighbor rif _ => (ch.rif rif).isSome
  | .removeAllNeighbor => True
  | .setNeighborAttr rif _ _ => (ch.rif rif).isSome
  | .createNextHop _ attrs =>
    findAttribInList NextHopAttr.type? attrs = some .ip ∧
      ∀ rif, findAttribInList NextHopAttr.routerInterfaceId? attrs = some rif → (ch.rif rif).isSome
  | .removeNextHop _ => True

/-- SDK calls, allocations and interface lookups of a step succeed, and its
arguments are valid. -/
structure SharedAssumed (s : SharedState ch) (a : Sdk × SharedCall) : Prop where
  sdk : a.1.Succeeds
  arp : s.db.nbr.arp.alloc ≠ none
  nexthop : s.db.nbr.nexthop.alloc ≠ none
  valid : a.2.Valid ch

/-- The state before a step, where the two modules do not undo each other. -/
def SharedSafe (s : SharedState ch) : SharedCall → Prop
  | .createNeighbor rif ip attrs =>
    ∀ p, s.db.nbr.record (neighborKey rif ip) = some p → p.neighborExists = false →
      programmable rif (createAction attrs) ∧
        (p.noHostRoute = false ∨ (findAttribInList NeighborAttr.noHostRoute? attrs).isSome)
  | .createNextHop _ attrs =>
    ∀ rif ip p, findAttribInList NextHopAttr.routerInterfaceId? attrs = some rif →
      findAttribInList NextHopAttr.ip? attrs = some ip →
      s.db.nbr.record (neighborKey rif ip) = some p → p.neighborExists = false →
      programmable rif p.action
  | _ => True

/-! ## What is claimed of a state -/

/-- The place of the record that a next hop of type IP uses. -/
def NextHop.key (nh : NextHop) : NeighborKey := neighborKey nh.rifId nh.ipAddress

theorem NextHop.key_eq (nh : NextHop) : neighborKey nh.rifId nh.ipAddress = nh.key := rfl

/-- A next hop of type IP at `k` is alive. -/
def ipNextHopLive (db : NextHopDb ch) (k : NeighborKey) : Bool :=
  db.nextHops.entries.any fun e => decide (e.1.subType = NextHopType.ip.bits ∧ e.2.key = k)

theorem ipNextHopLive_iff {db : NextHopDb ch} {k : NeighborKey} : ipNextHopLive db k = true ↔
      ∃ oid nh, db.nextHops.lookup oid = some nh ∧ oid.subType = NextHopType.ip.bits ∧ nh.key = k := by
  rw [ipNextHopLive, List.any_eq_true]
  constructor
  · rintro ⟨⟨oid, nh⟩, hmem, h⟩
    exact ⟨oid, nh, mem_entries_iff.mp hmem, of_decide_eq_true h⟩
  · rintro ⟨oid, nh, hl, h⟩
    exact ⟨⟨oid, nh⟩, mem_entries_iff.mpr hl, decide_eq_true h⟩

/-- The shared records of a state are what their users say. -/
structure SharedRecordsOk (s : SharedState ch) : Prop where
  exists_ : ∀ k, (s.db.nbr.record k).isSome = (s.created k || ipNextHopLive s.db k)
  refCnt : ∀ k p, s.db.nbr.record k = some p →
    p.refCnt = p.neighborExists.toNat + (ipNextHopLive s.db k).toNat
  nhId : ∀ k p, s.db.nbr.record k = some p → p.nhId ≠ 0 ∧ p.nhId ∈ s.db.nbr.nexthop.used
  nhIdOnce : ∀ k k' p p', s.db.nbr.record k = some p → s.db.nbr.record k' = some p' →
    p.nhId = p'.nhId → k = k'
  arpId : ∀ k p, s.db.nbr.record k = some p → isBridgeRif (k.rif ch.lchip) = false →
    p.arpId ≠ 0 ∧ p.arpId ∈ s.db.nbr.arp.used
  arpIdOnce : ∀ k k' p p', s.db.nbr.record k = some p → s.db.nbr.record k' = some p' →
    isBridgeRif (k.rif ch.lchip) = false → p.arpId = p'.arpId → k = k'
  nhFreed : ∀ i ∈ s.db.nbr.nexthop.used, ∃ k p, s.db.nbr.record k = some p ∧ p.nhId = i
  arpFreed : ∀ i ∈ s.db.nbr.arp.used, ∃ k p, s.db.nbr.record k = some p ∧ p.arpId = i

/-! ## Keys and interfaces -/

theorem setWidth_back {w v : Nat} (h : w ≤ v) (x : BitVec w) : (x.setWidth v).setWidth w = x := by
  rw [BitVec.setWidth_setWidth (by omega), BitVec.setWidth_eq]

theorem neighborKey_rif (lchip : BitVec 8) (k : NeighborKey) :
    neighborKey (k.rif lchip) k.ip = k := by
  obtain ⟨l3if, t, ip⟩ := k
  show NeighborKey.mk ((l3if.setWidth 32).setWidth 16) ((t.setWidth 8).setWidth 3) ip = _
  rw [setWidth_back (by decide), setWidth_back (by decide)]

theorem rif_neighborKey {rif : Oid} (h : (ch.rif rif).isSome) (ip : IpAddress) :
    (neighborKey rif ip).rif ch.lchip = rif := by
  obtain ⟨r, hr⟩ := Option.isSome_iff_exists.mp h
  obtain ⟨t, l3if, rfl⟩ := ch.rif_id hr
  show createObjectId _ _ (((t.bits.setWidth 8).setWidth 3).setWidth 8) _
    (((l3if.setWidth 32).setWidth 16).setWidth 32) = _
  rw [setWidth_back (by decide) t.bits, setWidth_back (by decide) l3if]

/-! ## The invariant -/

/-- A record that a neighbor (`created`) or a next hop (`live`) uses. -/
structure RecordInv (ch : Chip) (rif : Oid) (created live : Bool) (p : Neighbor) : Prop where
  iface : (ch.rif rif).isSome
  used : (created || live) = true
  neighborExists : p.neighborExists = created
  refCnt : p.refCnt = created.toNat + live.toNat
  ids : HasIds rif p
  bridge : isBridgeRif rif → p.arpId = 0
  action : created = true → programmable rif p.action

/-- One place of the table: it holds a record exactly when it is used. -/
def PlaceInv (ch : Chip) (rif : Oid) (created live : Bool) : Option Neighbor → Prop
  | none => created = false ∧ live = false
  | some p => RecordInv ch rif created live p

/-- The invariant of the neighbor table; `live` is where a next hop is. -/
structure Places (nbr : NeighborDb ch) (created live : NeighborKey → Bool) : Prop where
  place : ∀ k, PlaceInv ch (k.rif ch.lchip) (created k) (live k) (nbr.record k)
  nh : Owns Neighbor.nhId nbr.record nbr.nexthop.used
  arp : Owns Neighbor.arpId nbr.record nbr.arp.used

/-- The next hops are those of the places in `live`, one at each, and go by the
next-hop id of the record there. -/
structure Hops (ch : Chip) (nextHops : Table Oid NextHop) (record : NeighborKey → Option Neighbor)
    (live : NeighborKey → Bool) : Prop where
  hop : ∀ oid x, nextHops.lookup oid = some x → live x.key = true ∧ (ch.rif x.rifId).isSome ∧
    oid = nextHopOid ch .ip (idOf Neighbor.nhId (record x.key))
  live : ∀ k, live k = true → ∃ oid x, nextHops.lookup oid = some x ∧ x.key = k

/-- The invariant of a state. -/
structure SharedInv (s : SharedState ch) (live : NeighborKey → Bool) : Prop where
  places : Places s.db.nbr s.created live
  hops : Hops ch s.db.nextHops s.db.nbr.record live

/-! ## What one write keeps -/

theorem PlaceInv.isSome_eq {rif : Oid} {created live : Bool} {o : Option Neighbor}
    (h : PlaceInv ch rif created live o) : o.isSome = (created || live) := by
  cases o with
  | none => rw [h.1, h.2]; rfl
  | some p => exact h.used.symm

/-- The rule for the table: a write of `x` at `k` that fits what uses the
place from now on. -/
theorem Places.write {nbr nbr' : NeighborDb ch} {created live : NeighborKey → Bool}
    (h : Places nbr created live) {k : NeighborKey} {x : Option Neighbor} {c l : Bool}
    (hw : Wrote nbr nbr' k x) (hx : PlaceInv ch (k.rif ch.lchip) c l x) :
    Places nbr' (update created k c) (update live k l) where
  place a := by
    rw [hw.record]
    by_cases hak : a = k
    · subst hak
      rw [update_self, update_self, update_self]
      exact hx
    · rw [update_of_ne hak, update_of_ne hak, update_of_ne hak]
      exact h.place a
  nh := by
    rw [hw.record]
    exact h.nh.write k x hw.nh
  arp := by
    rw [hw.record]
    exact h.arp.write k x hw.arp

theorem Hops.write {nextHops : Table Oid NextHop} {record : NeighborKey → Option Neighbor}
    {live : NeighborKey → Bool} (h : Hops ch nextHops record live) {k : NeighborKey}
    {x : Option Neighbor}
    (hid : live k = true → idOf Neighbor.nhId x = idOf Neighbor.nhId (record k)) :
    Hops ch nextHops (update record k x) live where
  hop oid y hy := by
    obtain ⟨hl, hr, ho⟩ := h.hop oid y hy
    refine ⟨hl, hr, ho.trans (congrArg _ ?_)⟩
    rw [idOf_update]
    split
    · next hk => rw [hk] at hl ⊢; exact (hid hl).symm
    · rfl
  live := h.live

theorem SharedInv.write {s : SharedState ch} {live : NeighborKey → Bool} (h : SharedInv s live)
    {nbr : NeighborDb ch} {k : NeighborKey} {x : Option Neighbor} {c : Bool}
    (hw : Wrote s.db.nbr nbr k x) (hx : PlaceInv ch (k.rif ch.lchip) c (live k) x)
    (hid : live k = true → idOf Neighbor.nhId x = idOf Neighbor.nhId (s.db.nbr.record k)) :
    SharedInv (s.withNbr nbr (update s.created k c)) live where
  places := by
    have hp := h.places.write hw hx
    rw [update_eq_self] at hp
    exact hp
  hops := by
    show Hops ch s.db.nextHops nbr.record live
    rw [hw.record]
    exact h.hops.write hid

/-! ## The neighbor API -/

section Neighbors

variable {s : SharedState ch} {live : NeighborKey → Bool} {sdk : Sdk} {rif : Oid} {ip : IpAddress}

theorem SharedInv.at (h : SharedInv s live) (hr : (ch.rif rif).isSome) (ip : IpAddress) :
    PlaceInv ch rif (s.created (neighborKey rif ip)) (live (neighborKey rif ip))
      (s.db.nbr.record (neighborKey rif ip)) := by
  have hp := h.places.place (neighborKey rif ip)
  rw [rif_neighborKey hr ip] at hp
  exact hp

theorem SharedInv.writeAt (h : SharedInv s live) (hr : (ch.rif rif).isSome) {nbr : NeighborDb ch}
    {x : Option Neighbor} {c : Bool} (hw : Wrote s.db.nbr nbr (neighborKey rif ip) x)
    (hx : PlaceInv ch rif c (live (neighborKey rif ip)) x)
    (hid : live (neighborKey rif ip) = true →
      idOf Neighbor.nhId x = idOf Neighbor.nhId (s.db.nbr.record (neighborKey rif ip))) :
    SharedInv (s.withNbr nbr (update s.created (neighborKey rif ip) c)) live := by
  refine h.write hw ?_ hid
  rw [rif_neighborKey hr ip]
  exact hx

theorem SharedInv.writeKeep (h : SharedInv s live) (hr : (ch.rif rif).isSome) {nbr : NeighborDb ch}
    {x : Option Neighbor} (hw : Wrote s.db.nbr nbr (neighborKey rif ip) x)
    (hx : PlaceInv ch rif (s.created (neighborKey rif ip)) (live (neighborKey rif ip)) x)
    (hid : live (neighborKey rif ip) = true →
      idOf Neighbor.nhId x = idOf Neighbor.nhId (s.db.nbr.record (neighborKey rif ip))) :
    SharedInv (s.withNbr nbr s.created) live := by
  have h' := h.writeAt hr hw hx hid
  rw [update_eq_self] at h'
  exact h'

theorem SharedInv.createNeighbor (h : SharedInv s live) (hs : sdk.Succeeds)
    (hr : (ch.rif rif).isSome) (ha : s.db.nbr.arp.alloc ≠ none)
    (hn : s.db.nbr.nexthop.alloc ≠ none) {attrs : List NeighborAttr}
    (hmac : (findAttribInList NeighborAttr.dstMacAddress? attrs).isSome)
    (hsafe : SharedSafe s (.createNeighbor rif ip attrs)) :
    SharedInv (s.withNbr (createNeighbor sdk s.db.nbr rif ip attrs).2
      (noteAt s.created (neighborKey rif ip) true
        (createNeighbor sdk s.db.nbr rif ip attrs).1)) live := by
  have hat := h.at hr ip
  cases hp : s.db.nbr.record (neighborKey rif ip) with
  | none =>
    rw [hp] at hat
    by_cases hact : programmable rif (createAction attrs)
    · obtain ⟨db', q, he, hw, hex, href, hnh, harp, hq⟩ :=
        createNeighbor_ok hs hr ha hn (by rw [hp]; simp) hmac hact
          (.inr (by rw [hp]; rfl)) (by rw [hp]; intro _; rfl)
      rw [he]
      refine h.writeAt hr hw ⟨hr, rfl, hex, ?_, ⟨hnh, ?_⟩, ?_, ?_⟩ ?_
      · rw [href, hp, hat.2]; rfl
      · intro hb; rw [hb] at harp; exact harp
      · intro hb; rw [if_pos hb] at harp; exact harp
      · intro _; rw [hq]; exact hact
      · intro hl; rw [hat.2] at hl; cases hl
    rw [Bool.not_eq_true] at hact
    obtain ⟨db', he, hw⟩ := createNeighbor_refused hs hr ha hp hmac hact
    rw [he]
    exact h.writeKeep hr hw hat (fun hl => by rw [hat.2] at hl; cases hl)
  | some p =>
    rw [hp] at hat
    cases hex : p.neighborExists with
    | true =>
      rw [createNeighbor_exists hp hex]
      exact h
    | false =>
      -- only a next hop uses the record
      have hc : s.created (neighborKey rif ip) = false := hat.neighborExists.symm.trans hex
      have hl : live (neighborKey rif ip) = true := by
        have := hat.used
        rw [hc] at this
        exact this
      obtain ⟨hact, hflag⟩ := hsafe p hp hex
      obtain ⟨db', q, he, hw, hex', href, hnh, harp, hq⟩ :=
        createNeighbor_ok hs hr ha hn (by rw [hp]; rintro _ ⟨⟩; exact hex) hmac hact
          (by rw [hp]; exact hflag.symm) (by rw [hp]; exact hat.bridge)
      have hsame : q.nhId = p.nhId := by
        have hm := hw.nh
        rw [hp] at hm
        exact hm.eq_of_ne hat.ids.nh hnh
      rw [he]
      refine h.writeAt hr hw ⟨hr, rfl, hex', ?_, ⟨hnh, ?_⟩, ?_, ?_⟩ ?_
      · rw [href, hp]
        show p.refCnt + 1 = _
        rw [hat.refCnt, hc, hl]; rfl
      · intro hb; rw [hb] at harp; exact harp
      · intro hb; rw [if_pos hb] at harp; exact harp
      · intro _; rw [hq]; exact hact
      · intro _; rw [hp]; exact hsame

variable (ip) in
theorem SharedInv.neighborRemove (h : SharedInv s live) (hs : sdk.Succeeds)
    (hr : (ch.rif rif).isSome) :
    SharedInv (s.withNbr (neighborRemoveNeighbor sdk s.db.nbr rif ip).2
      (update s.created (neighborKey rif ip) false)) live ∧
    ((neighborRemoveNeighbor sdk s.db.nbr rif ip).1 ≠ .success →
      s.created (neighborKey rif ip) = false) := by
  have hat := h.at hr ip
  cases hp : s.db.nbr.record (neighborKey rif ip) with
  | none =>
    rw [hp] at hat
    rw [neighborRemoveNeighbor_absent (by rw [hp]; simp)]
    refine ⟨?_, fun _ => hat.1⟩
    rw [← hat.1, update_eq_self]
    exact h
  | some p =>
    rw [hp] at hat
    cases hc : s.created (neighborKey rif ip) with
    | false =>
      have hex : p.neighborExists = false := hat.neighborExists.trans hc
      rw [neighborRemoveNeighbor_absent (by rw [hp]; rintro _ ⟨⟩; exact hex)]
      refine ⟨?_, fun _ => rfl⟩
      rw [← hc, update_eq_self]
      exact h
    | true =>
      have hex : p.neighborExists = true := hat.neighborExists.trans hc
      have href := hat.refCnt
      rw [hc] at href
      cases hl : live (neighborKey rif ip) with
      | false =>
        -- the neighbor was the only user
        rw [hl] at href
        obtain ⟨db', he, hw⟩ := neighborRemoveNeighbor_last ip hs hr hp hex
          (Nat.le_of_eq href) hat.bridge
        rw [he]
        refine ⟨h.writeAt hr hw ⟨rfl, hl⟩ ?_, fun hne => absurd rfl hne⟩
        intro hl'
        rw [hl] at hl'
        cases hl'
      | true =>
        rw [hl] at href
        obtain ⟨db', q, he, hw, hqex, hqref, hqnh, hqarp⟩ :=
          neighborRemoveNeighbor_shared sdk ip hp hex (by rw [href]; decide) hat.ids
        rw [he]
        refine ⟨h.writeAt hr hw ⟨hr, by rw [hl]; rfl, hqex, ?_, ⟨?_, ?_⟩, ?_, ?_⟩ ?_,
          fun hne => absurd rfl hne⟩
        · rw [hqref, href, hl]; rfl
        · rw [hqnh]; exact hat.ids.nh
        · intro hb; rw [hqarp]; exact hat.ids.arp hb
        · intro hb; rw [hqarp]; exact hat.bridge hb
        · intro hf; cases hf
        · intro _; rw [hp]; exact hqnh

theorem SharedInv.removeNeighbor (h : SharedInv s live) (hs : sdk.Succeeds)
    (hr : (ch.rif rif).isSome) :
    SharedInv (s.withNbr (removeNeighbor sdk s.db.nbr rif ip).2
      (noteAt s.created (neighborKey rif ip) false (removeNeighbor sdk s.db.nbr rif ip).1)) live := by
  obtain ⟨h', hfail⟩ := h.neighborRemove ip hs hr
  by_cases hst : (neighborRemoveNeighbor sdk s.db.nbr rif ip).1 = .success
  · rw [removeNeighbor_success hst]
    exact ⟨⟨h'.places.place, h'.places.nh, h'.places.arp⟩, h'.hops⟩
  · rw [← hfail hst, update_eq_self] at h'
    rw [removeNeighbor_failure hst, noteAt, if_neg hst]
    exact h'

theorem SharedInv.removeAllStep (h : SharedInv s live) (hs : sdk.Succeeds) (k : NeighborKey) :
    SharedInv (s.withNbr (removeAllStep sdk s.db.nbr k) (update s.created k false)) live := by
  by_cases hr : (ch.rif (k.rif ch.lchip)).isSome
  · obtain ⟨h', _⟩ := h.neighborRemove k.ip hs hr
    rw [neighborKey_rif] at h'
    exact ⟨⟨h'.places.place, h'.places.nh, h'.places.arp⟩, h'.hops⟩
  -- no interface, no record
  have hat := h.places.place k
  cases hp : s.db.nbr.record k with
  | some p => rw [hp] at hat; exact absurd hat.iface hr
  | none =>
    rw [hp] at hat
    unfold CtcSai.removeAllStep
    rw [neighborRemoveNeighbor_absent (by rw [neighborKey_rif, hp]; simp), ← hat.1, update_eq_self]
    exact ⟨⟨h.places.place, h.places.nh, h.places.arp⟩, h.hops⟩

theorem SharedInv.removeAllKeys (h : SharedInv s live) (hs : sdk.Succeeds) (ks : List NeighborKey) :
    SharedInv (s.withNbr (ks.foldl (CtcSai.removeAllStep sdk) s.db.nbr)
      (fun k => s.created k && !decide (k ∈ ks))) live := by
  induction ks generalizing s with
  | nil => simpa [SharedState.withNbr] using h
  | cons k ks ih =>
    have hstep := ih (h.removeAllStep hs k)
    have hc : (fun a => s.created a && !decide (a ∈ k :: ks)) =
        fun a => update s.created k false a && !decide (a ∈ ks) := by
      funext a
      by_cases hak : a = k
      · subst hak
        simp
      · simp [hak]
    rw [hc]
    exact hstep

theorem SharedInv.removeAllNeighbor (h : SharedInv s live) (hs : sdk.Succeeds) :
    SharedInv (s.withNbr (removeAllNeighbor sdk s.db.nbr).2 fun _ => false) live := by
  have hall := h.removeAllKeys hs s.db.nbr.table.keys
  have hc : (fun k => s.created k && !decide (k ∈ s.db.nbr.table.keys)) = fun _ => false := by
    funext k
    by_cases hk : k ∈ s.db.nbr.table.keys
    · simp [hk]
    -- a neighbor has a record
    have hat := h.places.place k
    have hnone : s.db.nbr.record k = none :=
      AList.lookup_eq_none.mpr (fun hm => hk (AList.mem_keys.mp hm))
    rw [hnone] at hat
    rw [hat.1, Bool.false_and]
  rw [hc] at hall
  exact hall

theorem SharedInv.setNeighborAttr (h : SharedInv s live) (hr : (ch.rif rif).isSome)
    (attr : NeighborAttr) :
    SharedInv (s.withNbr (setNeighborAttr sdk s.db.nbr rif ip attr).2 s.created) live := by
  have hat := h.at hr ip
  have hids : ∀ p, s.db.nbr.record (neighborKey rif ip) = some p → HasIds rif p := by
    intro p hp
    rw [hp] at hat
    exact hat.ids
  rcases setNeighborAttr_held sdk hids attr with he | ⟨p, q, hp, hw, hk⟩
  · rw [he]
    exact h
  rw [hp] at hat
  refine h.writeKeep hr hw ⟨hr, hat.used, ?_, ?_, ⟨?_, ?_⟩, ?_, ?_⟩ ?_
  · rw [hk.exists_]; exact hat.neighborExists
  · rw [hk.refCnt]; exact hat.refCnt
  · rw [hk.nhId]; exact hat.ids.nh
  · intro hb; rw [hk.arpId]; exact hat.ids.arp hb
  · intro hb; rw [hk.arpId]; exact hat.bridge hb
  · intro hc
    rcases hk.action with ha | ha
    · rw [ha]; exact hat.action hc
    · exact ha
  · intro _; rw [hp]; exact hk.nhId

end Neighbors

/-! ## Next hops -/

section NextHops

variable {s : SharedState ch} {live : NeighborKey → Bool} {sdk : Sdk}
variable {nbr : NeighborDb ch} {created l : NeighborKey → Bool} {x : NextHop} {oid : Oid}
  {db : NextHopDb ch}

theorem nextHopOid_inj {t : NextHopType} {i j : Nat} (hi : i < 2 ^ 32) (hj : j < 2 ^ 32)
    (h : nextHopOid ch t i = nextHopOid ch t j) : i = j := by
  have hv : BitVec.ofNat 32 i = BitVec.ofNat 32 j := congrArg Oid.value h
  have hn := congrArg BitVec.toNat hv
  rwa [BitVec.toNat_ofNat, BitVec.toNat_ofNat, Nat.mod_eq_of_lt hi, Nat.mod_eq_of_lt hj] at hn

theorem Places.nhId_lt (h : Places nbr created l) (k : NeighborKey) :
    idOf Neighbor.nhId (nbr.record k) < 2 ^ 32 := by
  by_cases h0 : idOf Neighbor.nhId (nbr.record k) = 0
  · rw [h0]; decide
  · exact ch.nexthop_lt (h.nh.held k h0)

theorem Places.nhId_ne (h : Places nbr created l) {k : NeighborKey} (hl : l k = true) :
    idOf Neighbor.nhId (nbr.record k) ≠ 0 := by
  have hk := h.place k
  cases hp : nbr.record k with
  | none => rw [hp] at hk; rw [hk.2] at hl; cases hl
  | some p => rw [hp] at hk; exact hk.ids.nh

theorem Hops.absent {nextHops : Table Oid NextHop} (hp : Places nbr created l)
    (h : Hops ch nextHops nbr.record live) (hsub : ∀ k, live k = true → l k = true)
    {k : NeighborKey} (hk : live k = false) :
    nextHops.lookup (nextHopOid ch .ip (idOf Neighbor.nhId (nbr.record k))) = none := by
  cases hx : nextHops.lookup (nextHopOid ch .ip (idOf Neighbor.nhId (nbr.record k))) with
  | none => rfl
  | some x =>
    obtain ⟨hl, _, ho⟩ := h.hop _ x hx
    have hid := nextHopOid_inj (hp.nhId_lt k) (hp.nhId_lt x.key) ho
    have heq := hp.nh.inj x.key k (hp.nhId_ne (hsub _ hl)) hid.symm
    rw [heq, hk] at hl
    cases hl

theorem Hops.insert {nextHops : Table Oid NextHop} {record : NeighborKey → Option Neighbor}
    (h : Hops ch nextHops record live) {x : NextHop} {oid : Oid} (hr : (ch.rif x.rifId).isSome)
    (ho : oid = nextHopOid ch .ip (idOf Neighbor.nhId (record x.key)))
    (hnone : nextHops.lookup oid = none) :
    Hops ch (nextHops.insert oid x) record (update live x.key true) where
  hop o y hy := by
    rcases of_lookup_insert hy with ⟨he, rfl⟩ | ⟨-, hy⟩
    · rw [update_self]
      exact ⟨rfl, hr, he.trans ho⟩
    obtain ⟨hl, hry, hoy⟩ := h.hop o y hy
    refine ⟨?_, hry, hoy⟩
    rw [update_apply]
    split
    · rfl
    · exact hl
  live k hk := by
    by_cases hkx : k = x.key
    · exact ⟨oid, x, AList.lookup_insert _, hkx.symm⟩
    rw [update_of_ne hkx] at hk
    obtain ⟨o, y, hy, hyk⟩ := h.live k hk
    refine ⟨o, y, ?_, hyk⟩
    rw [lookup_insert_ite, if_neg]
    · exact hy
    · rintro rfl
      rw [hnone] at hy
      cases hy

/-- A next hop goes, and with it the only one at its place. -/
theorem Hops.erase {nextHops : Table Oid NextHop} {record : NeighborKey → Option Neighbor}
    (h : Hops ch nextHops record live) (hx : nextHops.lookup oid = some x) :
    Hops ch (nextHops.erase oid) record (update live x.key false) where
  hop o y hy := by
    obtain ⟨hne, hy⟩ := of_lookup_erase hy
    obtain ⟨hl, hr, ho⟩ := h.hop o y hy
    refine ⟨?_, hr, ho⟩
    rw [update_of_ne]
    · exact hl
    · -- another next hop at the same place would have the same object id
      intro hk
      obtain ⟨_, _, hox⟩ := h.hop oid x hx
      exact hne (by rw [ho, hox, hk])
  live k hk := by
    by_cases hkx : k = x.key
    · rw [hkx, update_self] at hk
      cases hk
    rw [update_of_ne hkx] at hk
    obtain ⟨o, y, hy, hyk⟩ := h.live k hk
    refine ⟨o, y, ?_, hyk⟩
    rw [lookup_erase_ite, if_neg]
    · exact hy
    · rintro rfl
      rw [hx] at hy
      cases hy
      exact hkx hyk.symm

variable (sdk) in
/-- `create` of a next hop of type IP: rejected, or the IP branch on the
interface and the address given. -/
theorem createNextHop_ip {raw : NextHopAttr → Oid} {attrs : List NextHopAttr}
    (ht : findAttribInList NextHopAttr.type? attrs = some .ip) :
    (∃ status, createNextHop raw sdk db attrs = some (status, none, db)) ∨
    ∃ rif ip, findAttribInList NextHopAttr.routerInterfaceId? attrs = some rif ∧
      findAttribInList NextHopAttr.ip? attrs = some ip ∧
      createNextHop raw sdk db attrs = some (createNhIp sdk db (nextHopFill attrs)) := by
  unfold createNextHop
  split
  · next hok =>
    cases hmem : sdk.mem .nextHop with
    | false => exact .inl ⟨.noMemory, rfl⟩
    | true =>
      right
      have hgiven : ∃ ip rif, findAttribInList NextHopAttr.ip? attrs = some ip ∧
          findAttribInList NextHopAttr.routerInterfaceId? attrs = some rif := by
        unfold nextHopCreateAttrCheck at hok
        simp only [ht] at hok
        split at hok
        · next ip rif hi hr => exact ⟨ip, rif, hi, hr⟩
        · cases hok
      obtain ⟨ip, rif, hi, hr⟩ := hgiven
      refine ⟨rif, ip, hr, hi, ?_⟩
      simp [tunnelConfused, ht]
  · exact .inl ⟨_, rfl⟩

theorem nextHopFill_fields {attrs : List NextHopAttr} {rif : Oid} {ip : IpAddress}
    (hr : findAttribInList NextHopAttr.routerInterfaceId? attrs = some rif)
    (hi : findAttribInList NextHopAttr.ip? attrs = some ip) :
    (nextHopFill attrs).rifId = rif ∧ (nextHopFill attrs).ipAddress = ip := by
  unfold nextHopFill
  rw [hr, hi]
  exact ⟨rfl, rfl⟩

theorem nextHopAddObject_taken {nh : NextHop} (h : db.nextHops.lookup oid = some x) :
    nextHopAddObject sdk db oid nh = none := by
  unfold nextHopAddObject
  rw [h]
  rfl

theorem nextHopAddObject_free (hs : sdk.Succeeds) {db : NextHopDb ch} (nh : NextHop) {oid : Oid}
    (h : db.nextHops.lookup oid = none) :
    nextHopAddObject sdk db oid nh = some { db with nextHops := db.nextHops.insert oid nh } := by
  unfold nextHopAddObject
  rw [h, hs.mem]
  rfl

/-- The step of a next hop that its neighbor side accepted, at a place without
a next hop: `q` is the record with the new reference. -/
theorem SharedInv.addHop (h : SharedInv s live) (hs : sdk.Succeeds) {nh : NextHop}
    (hr : (ch.rif nh.rifId).isSome) (hfree : live nh.key = false) {q : Neighbor}
    (hw : Wrote s.db.nbr nbr nh.key (some q)) (hq : RecordInv ch nh.rifId (s.created nh.key) true q)
    (he : neighborAllocIpucNexthop sdk s.db.nbr nh.rifId nh.ipAddress = (.success, q.nhId, nbr)) :
    SharedInv ⟨(createNhIp sdk s.db nh).2.2, s.created⟩ (update live nh.key true) := by
  have hplaces : Places nbr s.created (update live nh.key true) := by
    have hp := h.places.write hw (by rw [NextHop.key, rif_neighborKey hr]; exact hq)
    rw [update_eq_self] at hp
    exact hp
  have hhops : Hops ch s.db.nextHops nbr.record live := by
    rw [hw.record]
    exact h.hops.write (fun hl => by rw [hfree] at hl; cases hl)
  have hid : idOf Neighbor.nhId (nbr.record nh.key) = q.nhId := by
    rw [hw.record, update_self]
    rfl
  have habs := hhops.absent hplaces
    (fun k hk => by rw [update_apply]; split <;> first | rfl | exact hk) hfree
  rw [hid] at habs
  have hadd := @nextHopAddObject_free _ sdk hs { s.db with nbr := nbr } nh _ habs
  unfold createNhIp
  simp only [he, hadd]
  exact ⟨hplaces, hhops.insert hr (by rw [hid]) habs⟩

theorem SharedInv.createNhIp (h : SharedInv s live) (hs : sdk.Succeeds)
    (ha : s.db.nbr.arp.alloc ≠ none) (hn : s.db.nbr.nexthop.alloc ≠ none) (nh : NextHop)
    (hr : (ch.rif nh.rifId).isSome)
    (hsafe : ∀ p, s.db.nbr.record nh.key = some p → p.neighborExists = false →
      programmable nh.rifId p.action) :
    ∃ live', SharedInv ⟨(createNhIp sdk s.db nh).2.2, s.created⟩ live' := by
  have hat := h.at hr nh.ipAddress
  rw [NextHop.key_eq] at hat
  cases hp : s.db.nbr.record nh.key with
  | none =>
    rw [hp] at hat
    by_cases hact : programmable nh.rifId (missAction ch nh.rifId)
    · obtain ⟨db', q, he, hw, hex, href, hnh, harp⟩ :=
        neighborAllocIpucNexthop_new hs hr ha hn hp hact
      refine ⟨_, h.addHop hs hr hat.2 hw ⟨hr, ?_, ?_, ?_, ⟨hnh, ?_⟩, ?_, ?_⟩ he⟩
      · rw [Bool.or_true]
      · rw [hex]; exact hat.1.symm
      · rw [href, hat.1]; rfl
      · intro hb; rw [hb] at harp; exact harp
      · intro hb; rw [if_pos hb] at harp; exact harp
      · intro hc; rw [hat.1] at hc; cases hc
    rw [Bool.not_eq_true] at hact
    obtain ⟨db', he, hw⟩ := neighborAllocIpucNexthop_refused hs hr ha hp hact
    refine ⟨live, ?_⟩
    have hkeep := h.writeKeep hr hw hat (fun hl => by rw [NextHop.key_eq, hat.2] at hl; cases hl)
    unfold CtcSai.createNhIp
    simp only [he]
    exact hkeep
  | some p =>
    rw [hp] at hat
    have hact : programmable nh.rifId p.action := by
      cases hex : p.neighborExists with
      | true => exact hat.action (hat.neighborExists.symm.trans hex)
      | false => exact hsafe p hp hex
    have href : p.refCnt ≠ 0 := by
      have := hat.used
      rw [hat.refCnt]
      revert this
      cases s.created nh.key <;> cases live nh.key <;> decide
    obtain ⟨db', q, he, hw, hqex, hqref, hqnh, hqarp, hqact⟩ :=
      neighborAllocIpucNexthop_shared hs hr ha hn hp hat.ids href hact
    have hqids : HasIds nh.rifId q :=
      ⟨by rw [hqnh]; exact hat.ids.nh, fun hb => by rw [hqarp]; exact hat.ids.arp hb⟩
    have hbridge : isBridgeRif nh.rifId → q.arpId = 0 := by
      intro hb
      rw [hqarp]
      exact hat.bridge hb
    cases hl : live nh.key with
    | false =>
      refine ⟨_, h.addHop hs hr hl hw ⟨hr, ?_, ?_, ?_, hqids, hbridge, ?_⟩ (by rw [he, hqnh])⟩
      · rw [Bool.or_true]
      · rw [hqex]; exact hat.neighborExists
      · rw [hqref, hat.refCnt, hl]; rfl
      · intro hc; rw [hqact]; exact hat.action hc
    | true =>
      -- the object is taken: the reference just added is given back
      refine ⟨live, ?_⟩
      obtain ⟨oid, x, hx, hxk⟩ := h.hops.live _ hl
      obtain ⟨_, _, ho⟩ := h.hops.hop oid x hx
      rw [hxk, hp] at ho
      have htaken : nextHopAddObject sdk { s.db with nbr := db' }
          (nextHopOid ch .ip p.nhId) nh = none :=
        nextHopAddObject_taken (by rw [← idOf_some Neighbor.nhId p, ← ho]; exact hx)
      have hq : db'.record (neighborKey nh.rifId nh.ipAddress) = some q := by
        rw [hw.record, update_self]
      have hfree := neighborFreeIpucNexthop_shared sdk hq (by rw [hqref]; omega)
      have hplace : PlaceInv ch nh.rifId (s.created (neighborKey nh.rifId nh.ipAddress))
          (live (neighborKey nh.rifId nh.ipAddress))
          (some { q with refCnt := q.refCnt - 1 }) := by
        refine ⟨hr, hat.used, hqex.trans hat.neighborExists, ?_, ⟨hqids.nh, hqids.arp⟩,
          hbridge, fun hc => ?_⟩
        · rw [hqref]
          exact hat.refCnt
        · rw [hqact]
          exact hat.action hc
      have hback := h.writeKeep hr (hw.again (r := { q with refCnt := q.refCnt - 1 }) rfl rfl)
        hplace (fun _ => by rw [NextHop.key_eq, hp]; exact hqnh)
      unfold CtcSai.createNhIp
      simp only [he, htaken]
      rw [← hqnh, hfree]
      exact hback

theorem removeNextHop_absent (h : db.nextHops.lookup oid = none) :
    removeNextHop sdk db oid = some (.itemNotFound, db) := by
  unfold removeNextHop
  rw [h]

/-- The database after the removal of a next hop of type IP. -/
def removedIp (sdk : Sdk) (db : NextHopDb ch) (oid : Oid) (x : NextHop) : NextHopDb ch :=
  { nexthopCntAdd db x.ipAddress.addrFamily (-1) with
    nbr := (neighborFreeIpucNexthop sdk db.nbr x.rifId x.ipAddress oid.value.toNat).2
    nextHops := db.nextHops.erase oid }

theorem removeNextHop_ip (hx : db.nextHops.lookup oid = some x)
    (hsub : oid.subType = NextHopType.ip.bits) :
    removeNextHop sdk db oid = some (.success, removedIp sdk db oid x) := by
  unfold removeNextHop
  simp only [hx, hsub, if_true]
  rfl

theorem SharedInv.removeNextHop (h : SharedInv s live) (hs : sdk.Succeeds) (oid : Oid) :
    ∃ live' r, removeNextHop sdk s.db oid = some r ∧ SharedInv ⟨r.2, s.created⟩ live' := by
  cases hx : s.db.nextHops.lookup oid with
  | none =>
    exact ⟨live, _, removeNextHop_absent hx, h⟩
  | some x =>
    obtain ⟨hl, hr, ho⟩ := h.hops.hop oid x hx
    have hat := h.at hr x.ipAddress
    rw [NextHop.key_eq] at hat
    cases hp : s.db.nbr.record x.key with
    | none =>
      rw [hp] at hat
      rw [hat.2] at hl
      cases hl
    | some p =>
      rw [hp] at hat ho
      have hval : oid.value.toNat = p.nhId := by
        have hlt := h.places.nhId_lt x.key
        rw [hp] at hlt
        rw [ho]
        exact (BitVec.toNat_ofNat _ _).trans (Nat.mod_eq_of_lt hlt)
      have hsub : oid.subType = NextHopType.ip.bits := by
        rw [ho]
        exact setWidth_back (v := 8) (by decide) _
      have hcount := hat.refCnt
      rw [hl] at hcount
      have herase := h.hops.erase hx
      refine ⟨update live x.key false, _, removeNextHop_ip hx hsub, ?_⟩
      unfold removedIp
      rw [hval]
      cases hc : s.created x.key with
      | false =>
        rw [hc] at hcount
        have hw := neighborFreeIpucNexthop_last hs hr hp hcount hat.bridge
        have hplaces := h.places.write hw ⟨rfl, rfl⟩
        have hcr : update s.created x.key false = s.created := by
          rw [← hc, update_eq_self]
        rw [NextHop.key_eq, hcr] at hplaces
        refine ⟨hplaces, ?_⟩
        rw [hw.record]
        refine herase.write (fun hl' => ?_)
        rw [NextHop.key_eq, update_self] at hl'
        cases hl'
      | true =>
        rw [hc] at hcount
        have hne : p.refCnt ≠ 1 := by rw [hcount]; decide
        rw [neighborFreeIpucNexthop_shared sdk hp hne]
        have hw : Wrote s.db.nbr { s.db.nbr with
            table := s.db.nbr.table.insert (neighborKey x.rifId x.ipAddress)
              { p with refCnt := p.refCnt - 1 } } x.key
            (some { p with refCnt := p.refCnt - 1 }) :=
          wrote_same hp (get_insert _ _ _) rfl rfl rfl rfl
        have hplaces := h.places.write (l := false) hw
          (by
            rw [NextHop.key, rif_neighborKey hr]
            refine ⟨hr, rfl, hat.neighborExists.trans hc, ?_, ⟨hat.ids.nh, hat.ids.arp⟩,
              hat.bridge, fun _ => hat.action hc⟩
            rw [hcount]; rfl)
        have hcr : update s.created x.key true = s.created := by
          rw [← hc, update_eq_self]
        rw [hcr] at hplaces
        refine ⟨hplaces, ?_⟩
        rw [hw.record]
        exact herase.write (fun _ => by rw [hp]; rfl)

end NextHops

/-! ## Runs -/

variable {s : SharedState ch}

theorem sharedInv_init (h : s.Init) : SharedInv s fun _ => false := by
  obtain ⟨hnbr, hnh, hc⟩ := h
  have hrec : s.db.nbr.record = fun _ => none := by
    rw [hnbr]
    rfl
  have hnhUsed : s.db.nbr.nexthop.used = ∅ := by rw [hnbr]; rfl
  have harpUsed : s.db.nbr.arp.used = ∅ := by rw [hnbr]; rfl
  refine ⟨⟨fun k => ?_, ?_, ?_⟩, ⟨fun oid x hx => ?_, fun k hk => ?_⟩⟩
  · rw [hrec, hc]; exact ⟨rfl, rfl⟩
  · rw [hrec, hnhUsed]; exact owns_empty _
  · rw [hrec, harpUsed]; exact owns_empty _
  · rw [hnh] at hx; cases hx
  · cases hk

/-- Every admitted call returns, and keeps the invariant. -/
theorem sharedStep_inv (h : SharedInv s live) {a : Sdk × SharedCall} (ha : SharedAssumed s a)
    (hsafe : SharedSafe s a.2) :
    ∃ s' live', sharedStep s a = some s' ∧ SharedInv s' live' := by
  obtain ⟨sdk, call⟩ := a
  obtain ⟨hs, harp, hnh, hvalid⟩ := ha
  cases call with
  | createNeighbor rif ip attrs =>
    exact ⟨_, live, rfl, h.createNeighbor hs hvalid.1 harp hnh hvalid.2 hsafe⟩
  | removeNeighbor rif ip => exact ⟨_, live, rfl, h.removeNeighbor hs hvalid⟩
  | removeAllNeighbor => exact ⟨_, live, rfl, h.removeAllNeighbor hs⟩
  | setNeighborAttr rif ip attr => exact ⟨_, live, rfl, h.setNeighborAttr hvalid attr⟩
  | createNextHop raw attrs =>
    rcases createNextHop_ip sdk hvalid.1 with
      ⟨status, he⟩ | ⟨rif, ip, hrif, hip, he⟩
    · refine ⟨s, live, ?_, h⟩
      rw [sharedStep_createNextHop, he]
      rfl
    obtain ⟨hfr, hfi⟩ := nextHopFill_fields hrif hip
    obtain ⟨live', h'⟩ := h.createNhIp hs harp hnh (nextHopFill attrs)
      (by rw [hfr]; exact hvalid.2 rif hrif)
      (by rw [NextHop.key, hfr, hfi]; intro p hp hex; exact hsafe rif ip p hrif hip hp hex)
    refine ⟨_, live', ?_, h'⟩
    rw [sharedStep_createNextHop, he]
    rfl
  | removeNextHop oid =>
    obtain ⟨live', r, he, h'⟩ := h.removeNextHop hs oid
    refine ⟨_, live', ?_, h'⟩
    rw [sharedStep_removeNextHop, he]
    rfl

/-- The invariant holds after every run of admitted calls. -/
theorem sharedInv_of_run {s : SharedState ch}
    (h : Reachable SharedState.Init (fun s a => SharedAssumed s a ∧ SharedSafe s a.2) sharedStep s) :
    ∃ live, SharedInv s live := by
  refine h.inv (I := fun s => ∃ live, SharedInv s live) (fun s hs => ⟨_, sharedInv_init hs⟩) ?_
  intro s a s' ⟨live, hi⟩ hok hst
  obtain ⟨t, live', ht, hi'⟩ := sharedStep_inv hi hok.1 hok.2
  rw [hst] at ht
  cases ht
  exact ⟨live', hi'⟩

theorem SharedInv.live_eq (h : SharedInv s live) (k : NeighborKey) :
    ipNextHopLive s.db k = live k := by
  rw [Bool.eq_iff_iff, ipNextHopLive_iff]
  constructor
  · rintro ⟨oid, x, hx, _, rfl⟩
    exact (h.hops.hop oid x hx).1
  · intro hk
    obtain ⟨oid, x, hx, hxk⟩ := h.hops.live k hk
    refine ⟨oid, x, hx, ?_, hxk⟩
    rw [(h.hops.hop oid x hx).2.2]
    exact setWidth_back (v := 8) (by decide) _

theorem SharedInv.recordsOk (h : SharedInv s live) : SharedRecordsOk s := by
  have hrec : ∀ k p, s.db.nbr.record k = some p →
      RecordInv ch (k.rif ch.lchip) (s.created k) (live k) p := by
    intro k p hp
    have hk := h.places.place k
    rw [hp] at hk
    exact hk
  have hnh : ∀ k p, s.db.nbr.record k = some p → idOf Neighbor.nhId (s.db.nbr.record k) = p.nhId :=
    fun k p hp => by rw [hp]; rfl
  have harp : ∀ k p, s.db.nbr.record k = some p →
      idOf Neighbor.arpId (s.db.nbr.record k) = p.arpId := fun k p hp => by rw [hp]; rfl
  constructor
  · intro k
    rw [h.live_eq]
    exact (h.places.place k).isSome_eq
  · intro k p hp
    rw [h.live_eq, (hrec k p hp).neighborExists]
    exact (hrec k p hp).refCnt
  · intro k p hp
    have h0 := (hrec k p hp).ids.nh
    rw [← hnh k p hp] at h0 ⊢
    exact ⟨h0, h.places.nh.held k h0⟩
  · intro k k' p p' hp hp' he
    rw [← hnh k p hp, ← hnh k' p' hp'] at he
    exact h.places.nh.inj k k' (by rw [hnh k p hp]; exact (hrec k p hp).ids.nh) he
  · intro k p hp hb
    have h0 := (hrec k p hp).ids.arp hb
    rw [← harp k p hp] at h0 ⊢
    exact ⟨h0, h.places.arp.held k h0⟩
  · intro k k' p p' hp hp' hb he
    rw [← harp k p hp, ← harp k' p' hp'] at he
    exact h.places.arp.inj k k' (by rw [harp k p hp]; exact (hrec k p hp).ids.arp hb) he
  · intro i hi
    obtain ⟨k, hk⟩ := h.places.nh.owned i hi
    cases hp : s.db.nbr.record k with
    | none => rw [hp] at hk; subst hk; exact absurd hi h.places.nh.zero
    | some p => rw [hp] at hk; exact ⟨k, p, hp, hk⟩
  · intro i hi
    obtain ⟨k, hk⟩ := h.places.arp.owned i hi
    cases hp : s.db.nbr.record k with
    | none => rw [hp] at hk; subst hk; exact absurd hi h.places.arp.zero
    | some p => rw [hp] at hk; exact ⟨k, p, hp, hk⟩

/-- In every run of calls that do not undo each other, the records are what
their users say. -/
theorem sharedRecords_of_run {s : SharedState ch}
    (h : Reachable SharedState.Init (fun s a => SharedAssumed s a ∧ SharedSafe s a.2) sharedStep s) :
    SharedRecordsOk s := by
  obtain ⟨live, hi⟩ := sharedInv_of_run h
  exact hi.recordsOk

/-! ## Two runs on the small chip -/

def SharedState.start (ch : Chip) : SharedState ch := ⟨.empty ch, fun _ => false⟩

/-- Creation of a next hop of type IP on the port interface. -/
def createIpNextHop (ip : IpAddress) : Sdk × SharedCall :=
  (.ok, .createNextHop (fun _ => Oid.null) [.type .ip, .ip ip, .routerInterfaceId Chip.portRif])

def createPortNeighbor (ip : IpAddress) (action : PacketAction) : Sdk × SharedCall :=
  (.ok, .createNeighbor Chip.portRif ip [.dstMacAddress 0x1, .packetAction action])

theorem createIpNextHop_assumed {s : SharedState Chip.small} {ip : IpAddress}
    (ha : s.db.nbr.arp.alloc.isSome) (hn : s.db.nbr.nexthop.alloc.isSome) :
    SharedAssumed s (createIpNextHop ip) where
  sdk := Sdk.ok_succeeds
  arp := Option.isSome_iff_ne_none.mp ha
  nexthop := Option.isSome_iff_ne_none.mp hn
  valid := ⟨rfl, fun _ h => by cases h; decide⟩

theorem createPortNeighbor_assumed {s : SharedState Chip.small} {ip : IpAddress}
    {action : PacketAction} (ha : s.db.nbr.arp.alloc.isSome) (hn : s.db.nbr.nexthop.alloc.isSome) :
    SharedAssumed s (createPortNeighbor ip action) where
  sdk := Sdk.ok_succeeds
  arp := Option.isSome_iff_ne_none.mp ha
  nexthop := Option.isSome_iff_ne_none.mp hn
  valid := ⟨by decide, rfl⟩

/-- A next hop, a neighbor over it, and the next hop once more: the record
counts both and no third. -/
theorem sharedRecords_of_run_small : ∃ s : SharedState Chip.small, SharedRecordsOk s ∧
    (s.db.nbr.record (neighborKey Chip.portRif (.ip4 0x0A000001))).map Neighbor.refCnt = some 2 := by
  have r₀ : Reachable SharedState.Init (fun s a => SharedAssumed s a ∧ SharedSafe s a.2) sharedStep
      (.start Chip.small) := .start ⟨rfl, rfl, rfl⟩
  have r₁ := r₀.next (createIpNextHop (.ip4 0x0A000001))
    ⟨createIpNextHop_assumed (by decide) (by decide), by rintro _ _ p ⟨⟩ ⟨⟩ ⟨⟩⟩ rfl
  have r₂ := r₁.next (createPortNeighbor (.ip4 0x0A000001) .forward)
    ⟨createPortNeighbor_assumed (by decide) (by decide), by
      intro p hp _; cases hp; exact ⟨by decide, .inl rfl⟩⟩ rfl
  have r₃ := r₂.next (createIpNextHop (.ip4 0x0A000001))
    ⟨createIpNextHop_assumed (by decide) (by decide), by
      rintro _ _ p ⟨⟩ ⟨⟩ hp _; cases hp; decide⟩ rfl
  exact ⟨_, sharedRecords_of_run r₃, by decide⟩

/-- A neighbor with an action that is not supported takes the record of a live
next hop with it. -/
theorem sharedRecords_not_every_run : ¬ ∀ (ch : Chip) (s : SharedState ch),
      Reachable SharedState.Init SharedAssumed sharedStep s → SharedRecordsOk s := by
  intro h
  have r₀ : Reachable SharedState.Init SharedAssumed sharedStep (.start Chip.small) :=
    .start ⟨rfl, rfl, rfl⟩
  have r₁ := r₀.next (createIpNextHop (.ip4 0x0A000001))
    (createIpNextHop_assumed (by decide) (by decide)) rfl
  have r₂ := r₁.next (createPortNeighbor (.ip4 0x0A000001) .log)
    (createPortNeighbor_assumed (by decide) (by decide)) rfl
  have hex := (h _ _ r₂).exists_ (neighborKey Chip.portRif (.ip4 0x0A000001))
  revert hex
  decide

end CtcSai
