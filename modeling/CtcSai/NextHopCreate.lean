/-
# `NextHopCreate` — how the creation of a next hop ends

A next hop with an id of its own goes one way whatever its type: an id of the
NEXTHOP pool, the next hop in hardware with its label stack or on its IP
tunnel, the object, and the neighbor it is bound to.  `HopAdded` says what the
hardware half leaves, `HopMade` how the rest can end, and `HopEnd` how a whole
call can.
-/
import CtcSai.NextHop

namespace CtcSai

open IdPool KeyedTable

variable {ch : Chip} {sdk : Sdk}

/-! ## What the attributes give -/

def noNextLevel (attrs : List NextHopAttr) : Bool :=
  (findAttribInList NextHopAttr.nextLevelNextHopId? attrs).getD Oid.null = Oid.null

/-- The tunnel that the TUNNEL_ENCAP branch of `create` ends up with. -/
def encapTunnel (raw : NextHopAttr → Oid) (db : NextHopDb ch) (attrs : List NextHopAttr) :
    Option Tunnel :=
  let given := (findAttribInList NextHopAttr.tunnelId? attrs).getD (raw (.type .tunnelEncap))
  match db.tunnels.lookup given with
  | some t => some t
  | none => db.tunnels.lookup ((findAttribInList NextHopAttr.mplsEncapTunnelId? attrs).getD given)

/-- The TUNNEL_ENCAP branch finds its tunnel. -/
def EncapFound (raw : NextHopAttr → Oid) (db : NextHopDb ch) (attrs : List NextHopAttr) : Prop :=
  let given := (findAttribInList NextHopAttr.tunnelId? attrs).getD (raw (.type .tunnelEncap))
  (db.tunnels.lookup given).isSome ∨
    ∃ t, encapTunnel raw db attrs = some t ∧ t.tunnelType = .mplsL2

/-- The tunnel of a TUNNEL_ENCAP next hop. -/
def encapTunnelId (raw : NextHopAttr → Oid) (db : NextHopDb ch) (attrs : List NextHopAttr) : Oid :=
  let given := (findAttribInList NextHopAttr.tunnelId? attrs).getD (raw (.type .tunnelEncap))
  if (db.tunnels.lookup given).isSome then given
  else (findAttribInList NextHopAttr.mplsEncapTunnelId? attrs).getD given

def tunnelStored (raw : NextHopAttr → Oid) (db : NextHopDb ch) (attrs : List NextHopAttr) : Oid :=
  match findAttribInList NextHopAttr.type? attrs with
  | some .mpls => (mplsTunnel db attrs).1
  | some .tunnelEncap => encapTunnelId raw db attrs
  | _ => Oid.null

/-- The creation builds a label stack: an MPLS next hop, or one on a tunnel of
type MPLS_L2. -/
def buildsMpls (raw : NextHopAttr → Oid) (db : NextHopDb ch) (attrs : List NextHopAttr) : Bool :=
  match findAttribInList NextHopAttr.type? attrs with
  | some .mpls => true
  | some .tunnelEncap => (encapTunnel raw db attrs).any fun t => t.tunnelType = .mplsL2
  | _ => false

/-- The next level given, null if there is none. -/
def nextLevelGiven (attrs : List NextHopAttr) : Oid :=
  (findAttribInList NextHopAttr.nextLevelNextHopId? attrs).getD Oid.null

/-- A next hop that has no tunnel id, and so cannot carry a label stack. -/
def bareNextHop (db : NextHopDb ch) (o : Oid) : Bool :=
  decide (o ≠ Oid.null) && (db.nextHops.lookup o).any fun nh => nh.ctcMplsTunnelId = 0

/-- The label stack that a creation builds. -/
def stackOf (raw : NextHopAttr → Oid) (db : NextHopDb ch) (attrs : List NextHopAttr) :
    Option (List (BitVec 32)) :=
  if buildsMpls raw db attrs then findAttribInList NextHopAttr.labelstack? attrs else none

/-- The record before the next hop is put into hardware. -/
def hopFilled (raw : NextHopAttr → Oid) (db : NextHopDb ch) (attrs : List NextHopAttr) : NextHop :=
  let vni := findAttribInList NextHopAttr.tunnelVni? attrs
  let filled := { nextHopFill attrs with tunnelId := tunnelStored raw db attrs }
  if buildsMpls raw db attrs then { filled with nextLevelNexthopId := nextLevelGiven attrs }
  else { filled with
    destVni := vni.getD 0
    tunnelMac :=
      if vni.isSome then (findAttribInList NextHopAttr.tunnelMac? attrs).getD 0 else 0 }

/-- A tunnel that makes `create` return with the database locked. -/
def WrongTunnel (raw : NextHopAttr → Oid) (db : NextHopDb ch) (attrs : List NextHopAttr) : Prop :=
  match findAttribInList NextHopAttr.type? attrs with
  | some .mpls => (mplsTunnel db attrs).2 = true
  | _ => ¬ EncapFound raw db attrs

/-! ## What stays -/

/-- Neighbors and next hops are as they were, and no object came or went. -/
structure HopKept (db db' : NextHopDb ch) : Prop where
  nbr : db'.nbr = db.nbr
  nextHops : db'.nextHops = db.nextHops
  counters : Table.SameKeys db.ctr.table db'.ctr.table
  tunnels : Table.SameKeys db.tunnels db'.tunnels
  others : db'.others = db.others
  nexthopCnt : db'.nexthopCnt = db.nexthopCnt
  lockLeft : db'.lockLeft = db.lockLeft

namespace HopKept

variable {a b c : NextHopDb ch}

theorem refl (a : NextHopDb ch) : HopKept a a := ⟨rfl, rfl, .refl _, .refl _, rfl, rfl, rfl⟩

theorem trans (h : HopKept a b) (h' : HopKept b c) : HopKept a c where
  nbr := h'.nbr.trans h.nbr
  nextHops := h'.nextHops.trans h.nextHops
  counters := h.counters.trans h'.counters
  tunnels := h.tunnels.trans h'.tunnels
  others := h'.others.trans h.others
  nexthopCnt := h'.nexthopCnt.trans h.nexthopCnt
  lockLeft := h'.lockLeft.trans h.lockLeft

theorem withCtr {ctr : CounterDb ch} (h : Table.SameKeys a.ctr.table ctr.table) :
    HopKept a { a with ctr := ctr } := ⟨rfl, rfl, h, .refl _, rfl, rfl, rfl⟩

theorem withTunnelId (a : NextHopDb ch) (pool : Pool ch.tunnelId) :
    HopKept a { a with tunnelId := pool } := ⟨rfl, rfl, .refl _, .refl _, rfl, rfl, rfl⟩

/-- Neighbors and next hops written alike on both sides. -/
theorem write (h : HopKept a b) (nbr : NeighborDb ch) (nextHops : Table Oid NextHop) :
    HopKept { a with nbr := nbr, nextHops := nextHops }
      { b with nbr := nbr, nextHops := nextHops } :=
  ⟨rfl, rfl, h.counters, h.tunnels, h.others, h.nexthopCnt, h.lockLeft⟩

theorem free (h : HopKept a b) (nhId : Nat) :
    HopKept (freeNexthop a nhId) (freeNexthop b nhId) where
  nbr := by unfold freeNexthop; rw [h.nbr]
  nextHops := h.nextHops
  counters := h.counters
  tunnels := h.tunnels
  others := h.others
  nexthopCnt := h.nexthopCnt
  lockLeft := h.lockLeft

end HopKept

section Hardware

variable (sdk : Sdk) (db : NextHopDb ch) (nhId : Nat) (nh : NextHop)

theorem nextHopRemoveMpls_kept : HopKept db (nextHopRemoveMpls sdk db nh) ∧
    (nextHopRemoveMpls sdk db nh).tunnelId =
      if nh.labelCount = 0 then db.tunnelId else db.tunnelId.free nh.ctcMplsTunnelId := by
  have hctr := HopKept.withCtr (counterIdRemove_keys sdk db.ctr nh.counterObjId)
  unfold nextHopRemoveMpls
  split
  · exact ⟨hctr, rfl⟩
  · exact ⟨hctr.trans (.withTunnelId _ _), rfl⟩

theorem tunnelMapToNhIpTunnel_kept (tunnelId : Oid) (ip : IpAddress) :
    HopKept db (tunnelMapToNhIpTunnel sdk db tunnelId nhId ip).2 ∧
      (tunnelMapToNhIpTunnel sdk db tunnelId nhId ip).2.tunnelId = db.tunnelId := by
  unfold tunnelMapToNhIpTunnel
  split
  · exact ⟨.refl db, rfl⟩
  next t ht =>
  split
  · exact ⟨.refl db, rfl⟩
  split
  · exact ⟨.refl db, rfl⟩
  · refine ⟨⟨rfl, rfl, ?_, .insert (by rw [ht]; rfl) _, rfl, rfl, rfl⟩, rfl⟩
    rw [statsCreate_table]
    exact .refl _

theorem nextHopAddIpTunnel_kept : HopKept db (nextHopAddIpTunnel sdk db nhId nh).2 ∧
    (nextHopAddIpTunnel sdk db nhId nh).2.tunnelId = db.tunnelId ∧
    ((nextHopAddIpTunnel sdk db nhId nh).1 = .success →
      sdk.rc (.nhAddIpTunnel nhId) = .none) := by
  obtain ⟨hmap, hid⟩ := tunnelMapToNhIpTunnel_kept sdk db nhId nh.tunnelId nh.ipAddress
  unfold nextHopAddIpTunnel
  split
  · next db₁ heq =>
    rw [heq] at hmap hid
    obtain ⟨ctr, hctr, hkeys⟩ := counterCreateIf_same sdk db₁ true nh.counterObjId .tunnelEgs
    split
    · next db₂ heq₂ =>
      rw [heq₂] at hctr
      cases hctr
      have hkept := hmap.trans (.withCtr hkeys)
      dsimp only
      split
      · next hrc => exact ⟨hkept, hid, fun _ => mappingErrorCtc_eq_success.mp hrc⟩
      · next hne =>
        exact ⟨hkept.trans (.withCtr (counterIdRemove_keys sdk ctr _)), hid,
          fun hs => absurd hs hne⟩
    next hne heq₂ =>
    rw [heq₂] at hctr
    cases hctr
    exact ⟨hmap.trans (.withCtr hkeys), hid, fun hs => absurd hs hne⟩
  · next hne heq =>
    rw [heq] at hmap hid
    exact ⟨hmap, hid, fun hs => absurd hs hne⟩

theorem nextHopRemoveIpTunnel_kept : HopKept db (nextHopRemoveIpTunnel sdk db nhId nh) ∧
    (nextHopRemoveIpTunnel sdk db nhId nh).tunnelId = db.tunnelId := by
  have hctr := counterIdRemove_keys sdk db.ctr nh.counterObjId
  unfold nextHopRemoveIpTunnel tunnelUnmapToNhIpTunnel
  split
  · next ctr heq =>
    rw [heq] at hctr
    split
    · exact ⟨.withCtr hctr, rfl⟩
    next t ht =>
    refine ⟨⟨rfl, rfl, ?_, .insert (by rw [ht]; rfl) _, rfl, rfl, rfl⟩, rfl⟩
    split
    · exact hctr
    · rw [statsDestroy_table]
      exact hctr
  · next ctr _ heq =>
    rw [heq] at hctr
    exact ⟨.withCtr hctr, rfl⟩

end Hardware

/-! ## A next hop in hardware -/

section Label

variable {db db' : NextHopDb ch} {nhId id : Nat} {labels : List (BitVec 32)} {nh nh' : NextHop}
  {status : Status}

/-- What the label half of `_ctc_sai_next_hop_add_mpls` does: it stores the
list and keeps the tunnel id, stops without a word, or undoes what was taken. -/
inductive LabelResult (sdk : Sdk) (db : NextHopDb ch) (nhId id : Nat) (labels : List (BitVec 32))
    (nh : NextHop) : Status → NextHop → NextHopDb ch → Prop where
  | stored (ctr) : Table.SameKeys db.ctr.table ctr.table → sdk.rc (.nhAddMpls nhId) = .none →
      (nh.ownsTunnel = false → labels ≠ [] ∧ bareNextHop db nh.nextLevelNexthopId = false) →
      LabelResult sdk db nhId id labels nh .success { nh with
        label := some labels
        ctcMplsTunnelId := if nh.ownsTunnel then id else nh.ctcMplsTunnelId }
        { db with ctr := ctr }
  | silent (ctr) : Table.SameKeys db.ctr.table ctr.table → nh.ownsTunnel = false →
      (labels = [] ∨ bareNextHop db nh.nextLevelNexthopId = true) →
      LabelResult sdk db nhId id labels nh .success { nh with label := some [] }
        { db with ctr := ctr }
  | undone (status label ctr) : Table.SameKeys db.ctr.table ctr.table → status ≠ .success →
      (label.getD []).length = 0 → LabelResult sdk db nhId id labels nh status
        { nh with label := label } (addMplsUndo nh id { db with ctr := ctr })

theorem LabelResult.weaken {label : Option (List (BitVec 32))} {ctr : CounterDb ch}
    (hk : Table.SameKeys db.ctr.table ctr.table)
    (h : LabelResult sdk { db with ctr := ctr } nhId id labels { nh with label := label } status
      nh' db') : LabelResult sdk db nhId id labels nh status nh' db' := by
  cases h with
  | stored ctr hk' hrc hcarry => exact .stored ctr (hk.trans hk') hrc hcarry
  | silent ctr hk' hown hcarry => exact .silent ctr (hk.trans hk') hown hcarry
  | undone status label ctr hk' hne hl => exact .undone status label ctr (hk.trans hk') hne hl

theorem addMplsTail_result (hl : nh.label = some [])
    (hcarry : nh.ownsTunnel = false → labels ≠ [] ∧ bareNextHop db nh.nextLevelNexthopId = false)
    (h : addMplsTail sdk db nhId id labels nh = (status, nh', db')) :
    LabelResult sdk db nhId id labels nh status nh' db' := by
  have hlen : (nh.label.getD []).length = 0 := by rw [hl]; rfl
  obtain ⟨ctr, hctr, hkeys⟩ := counterCreateIf_same sdk db (labelStatsLate ch labels)
    nh.counterObjId .nexthopMplsPw
  unfold addMplsTail at h
  split at h
  · next heq =>
    rw [heq] at hctr
    cases hctr
    dsimp only at h
    split at h
    · next hrc =>
      cases h
      exact .stored ctr hkeys (mappingErrorCtc_eq_success.mp hrc) hcarry
    · next hne =>
      cases h
      exact .undone _ nh.label _ (hkeys.trans (counterIdRemove_keys sdk ctr _)) hne hlen
  next st db₁ hne heq =>
  rw [heq] at hctr
  cases hctr
  cases h
  exact .undone status nh.label ctr hkeys hne hlen

theorem addMplsLabel_result (hl : nh.label = some []) (hlab : nh.ownsTunnel = false → labels ≠ [])
    (h : addMplsLabel sdk db nhId id labels nh = some (status, nh', db')) :
    LabelResult sdk db nhId id labels nh status nh' db' := by
  have hlen : (nh.label.getD []).length = 0 := by rw [hl]; rfl
  unfold addMplsLabel at h
  split at h
  · next hown =>
    have hcarry : nh.ownsTunnel = false → labels ≠ [] ∧
        bareNextHop db nh.nextLevelNexthopId = false := fun hno => by rw [hown] at hno; cases hno
    dsimp only at h
    split at h
    · exact addMplsTail_result hl hcarry (Option.some_inj.mp h)
    · next hne =>
      cases h
      exact .undone _ nh.label db.ctr (.refl _) hne hlen
  next hown =>
  rw [Bool.not_eq_true] at hown
  split at h
  · cases h
  next nextLevel hnext =>
  have hbare : bareNextHop db nh.nextLevelNexthopId = decide (nextLevel.ctcMplsTunnelId = 0) := by
    rw [bareNextHop, hnext, decide_eq_true (of_decide_eq_false hown)]
    rfl
  split at h
  · next hz =>
    cases h
    have hsil : LabelResult sdk db nhId id labels nh .success { nh with label := some [] } db :=
      .silent db.ctr (.refl _) hown (.inr (hbare.trans (decide_eq_true hz)))
    rw [← hl] at hsil
    exact hsil
  next hz =>
  refine addMplsTail_result hl (fun _ => ⟨hlab hown, ?_⟩) (Option.some_inj.mp h)
  rw [hbare]
  exact decide_eq_false hz

theorem addMplsList_result (hl : nh.label = none)
    (h : addMplsList sdk db nhId id labels nh = some (status, nh', db')) :
    LabelResult sdk db nhId id labels nh status nh' db' := by
  unfold addMplsList at h
  split at h
  · dsimp only at h
    split at h
    · next hcond =>
      cases h
      rw [Bool.and_eq_true, Bool.not_eq_true', List.isEmpty_iff] at hcond
      exact .silent db.ctr (.refl _) hcond.1 (.inl hcond.2)
    next hcond =>
    obtain ⟨ctr, hctr, hkeys⟩ := counterCreateIf_same sdk db
      (labelStatsEarly { nh with label := some [] } labels).1 nh.counterObjId
      (labelStatsEarly { nh with label := some [] } labels).2
    split at h
    · next heq =>
      rw [heq] at hctr
      cases hctr
      refine (addMplsLabel_result rfl (fun hown hnil => hcond ?_) h).weaken hkeys
      rw [show NextHop.ownsTunnel { nh with label := some [] } = false from hown, hnil]
      rfl
    next st db₁ hne heq =>
    rw [heq] at hctr
    cases hctr
    cases h
    exact .undone status (some []) ctr hkeys hne rfl
  · cases h
    exact .undone .noMemory nh.label db.ctr (.refl _) (by decide) (by rw [hl]; rfl)

end Label

/-- The next hop is put into hardware, with its label stack or on its tunnel. -/
def hopAdd (sdk : Sdk) (db : NextHopDb ch) (nhId : Nat) (stack : Option (List (BitVec 32)))
    (nh : NextHop) : Option (Status × NextHop × NextHopDb ch) :=
  match stack with
  | some labels => nextHopAddMpls sdk db nhId labels nh
  | none => some ((nextHopAddIpTunnel sdk db nhId nh).1, nh, (nextHopAddIpTunnel sdk db nhId nh).2)

/-- What that leaves: a failure leaves the tunnel ids and no labels; a success
is a stack on a tunnel of its own, one on a next level, a stack that is never
added, or an IP tunnel. -/
inductive HopAdded (sdk : Sdk) (db : NextHopDb ch) (nhId : Nat) (nh : NextHop) :
    Option (List (BitVec 32)) → Status → NextHop → NextHopDb ch → Prop where
  | failed {stack status nh' m} : status ≠ .success → nh'.labelCount = 0 → HopKept db m →
      m.tunnelId.used = db.tunnelId.used → m.tunnelId.stray = db.tunnelId.stray →
      HopAdded sdk db nhId nh stack status nh' m
  | own {labels i pool m} : nh.ownsTunnel = true →
      (neighborGetArpId db.nbr nh.rifId nh.ipAddress).isSome →
      db.tunnelId.alloc = some (i, pool) → sdk.rc (.nhAddMpls nhId) = .none → HopKept db m →
      m.tunnelId = pool → HopAdded sdk db nhId nh (some labels) .success
        { nh with label := some labels, ctcMplsTunnelId := i } m
  | nested {labels m} : nh.ownsTunnel = false → labels ≠ [] →
      bareNextHop db nh.nextLevelNexthopId = false → sdk.rc (.nhAddMpls nhId) = .none →
      HopKept db m → m.tunnelId = db.tunnelId →
      HopAdded sdk db nhId nh (some labels) .success { nh with label := some labels } m
  | silent {labels m} : nh.ownsTunnel = false →
      (labels = [] ∨ bareNextHop db nh.nextLevelNexthopId = true) → HopKept db m →
      m.tunnelId = db.tunnelId →
      HopAdded sdk db nhId nh (some labels) .success { nh with label := some [] } m
  | ipTunnel {m} : sdk.rc (.nhAddIpTunnel nhId) = .none → HopKept db m →
      m.tunnelId = db.tunnelId → HopAdded sdk db nhId nh none .success nh m

section Added

variable {db m : NextHopDb ch} {nhId : Nat} {labels : List (BitVec 32)} {nh nh' : NextHop}
  {status : Status} {stack : Option (List (BitVec 32))}
variable {t : NextHopType}

theorem HopAdded.ofOwn (hown : nh.ownsTunnel = true)
    (harp : (neighborGetArpId db.nbr nh.rifId nh.ipAddress).isSome) {i : Nat}
    {pool : Pool ch.tunnelId} (hal : db.tunnelId.alloc = some (i, pool))
    (h : LabelResult sdk { db with tunnelId := pool } nhId i labels nh status nh' m) :
    HopAdded sdk db nhId nh (some labels) status nh' m := by
  cases h with
  | stored ctr hk hrc _ =>
    rw [if_pos hown]
    exact .own hown harp hal hrc ((HopKept.withTunnelId db pool).trans (.withCtr hk)) rfl
  | silent ctr _ hno _ => rw [hown] at hno; cases hno
  | undone _ label ctr hk hne hlen =>
    obtain ⟨hfresh, _, _, hused, hstray⟩ := Pool.alloc_some hal
    unfold addMplsUndo
    rw [if_pos hown]
    refine .failed hne hlen (((HopKept.withTunnelId db pool).trans (.withCtr hk)).trans
      (.withTunnelId _ _)) ?_ ?_
    · rw [Pool.used_free, hused, Finset.erase_insert hfresh]
    · refine (Pool.stray_free_of_mem ?_).trans hstray
      rw [hused]
      exact Finset.mem_insert_self _ _

theorem HopAdded.ofNested (hown : nh.ownsTunnel = false) {i : Nat}
    (h : LabelResult sdk db nhId i labels nh status nh' m) :
    HopAdded sdk db nhId nh (some labels) status nh' m := by
  have hno : nh.ownsTunnel ≠ true := by rw [hown]; decide
  cases h with
  | stored ctr hk hrc hcarry =>
    rw [if_neg hno]
    exact .nested hown (hcarry hown).1 (hcarry hown).2 hrc (.withCtr hk) rfl
  | silent ctr hk _ hcarry => exact .silent hown hcarry (.withCtr hk) rfl
  | undone _ label ctr hk hne hlen =>
    unfold addMplsUndo
    rw [if_neg hno]
    exact .failed hne hlen (.withCtr hk) rfl rfl

theorem nextHopAddMpls_added (hl : nh.label = none)
    (h : nextHopAddMpls sdk db nhId labels nh = some (status, nh', m)) :
    HopAdded sdk db nhId nh (some labels) status nh' m := by
  have hrejected : ∀ {st : Status}, st ≠ .success → HopAdded sdk db nhId nh (some labels) st nh db :=
    fun hne => .failed hne (by rw [NextHop.labelCount, hl]; rfl) (.refl db) rfl rfl
  unfold nextHopAddMpls at h
  cases hown : nh.ownsTunnel with
  | true =>
    rw [if_pos hown] at h
    split at h
    · next harp _ =>
      cases hal : db.tunnelId.alloc with
      | none =>
        simp only [hal] at h
        cases h
        exact hrejected (by decide)
      | some r =>
        simp only [hal] at h
        exact .ofOwn hown (by rw [harp]; rfl) hal (addMplsList_result hl h)
    · cases h
      exact hrejected (by decide)
  | false =>
    rw [if_neg (by rw [hown]; decide)] at h
    split at h
    · exact .ofNested hown (addMplsList_result hl h)
    · cases h
      exact hrejected (by decide)

theorem hopAdd_added (hl : nh.label = none) (h : hopAdd sdk db nhId stack nh = some (status, nh', m)) :
    HopAdded sdk db nhId nh stack status nh' m := by
  cases stack with
  | some labels => exact nextHopAddMpls_added hl h
  | none =>
    obtain ⟨hkept, hid, hrc⟩ := nextHopAddIpTunnel_kept sdk db nhId nh
    cases h
    by_cases hs : (nextHopAddIpTunnel sdk db nhId nh).1 = .success
    · rw [hs]
      exact .ipTunnel (hrc hs) hkept hid
    · exact .failed hs (by rw [NextHop.labelCount, hl]; rfl) hkept (by rw [hid]) (by rw [hid])

theorem HopAdded.kept (h : HopAdded sdk db nhId nh stack status nh' m) : HopKept db m := by
  cases h <;> assumption

theorem HopAdded.place (h : HopAdded sdk db nhId nh stack .success nh' m) :
    nh'.ownsTunnel = nh.ownsTunnel ∧ nh'.rifId = nh.rifId ∧ nh'.ipAddress = nh.ipAddress := by
  cases h with
  | failed hne => exact absurd rfl hne
  | _ => exact ⟨rfl, rfl, rfl⟩

/-- Only a next hop on a tunnel of its own has a tunnel id. -/
theorem HopAdded.own_of_id (h : HopAdded sdk db nhId nh stack .success nh' m)
    (h0 : nh.ctcMplsTunnelId = 0) (hid : nh'.ctcMplsTunnelId ≠ 0) :
    nh.ownsTunnel = true ∧ ∃ labels, stack = some labels := by
  cases h with
  | failed hne => exact absurd rfl hne
  | own hown => exact ⟨hown, _, rfl⟩
  | _ => exact absurd h0 hid

/-- The tunnel ids after the roll-back of a next hop: one of type MPLS with
labels frees its own. -/
def undoTunnelId (t : NextHopType) (nh : NextHop) (pool : Pool ch.tunnelId) : Pool ch.tunnelId :=
  if t = .mpls ∧ nh.labelCount ≠ 0 then pool.free nh.ctcMplsTunnelId else pool

theorem undoTunnelId_unlabelled (h : nh.labelCount = 0) (pool : Pool ch.tunnelId) :
    undoTunnelId t nh pool = pool := if_neg fun hc => hc.2 h

theorem zero_notMem_tunnelId (pool : Pool ch.tunnelId) : 0 ∉ pool.used := by
  intro h
  have hlo := Pool.lo_le_of_mem h
  rw [ch.tunnelId_lo] at hlo
  exact absurd hlo (by decide)

theorem labelCount_some {nh : NextHop} {labels : List (BitVec 32)} (h : nh.label = some labels) :
    nh.labelCount ≠ 0 ↔ labels ≠ [] := by
  rw [NextHop.labelCount, h, Option.getD_some, ne_eq, List.length_eq_zero_iff]

/-- The roll-back gives the tunnel id back, except that of an own tunnel when
the type is not MPLS or there are no labels. -/
theorem HopAdded.undo_used (h : HopAdded sdk db nhId nh stack status nh' m) (hl : nh.label = none)
    (h0 : nh.ctcMplsTunnelId = 0) :
    (undoTunnelId t nh' m.tunnelId).used = db.tunnelId.used ↔ (status = .success →
      ∀ labels, stack = some labels → nh.ownsTunnel = true → t = .mpls ∧ labels ≠ []) := by
  cases h with
  | failed hne hc _ hu _ =>
    rw [undoTunnelId_unlabelled hc]
    exact iff_of_true hu fun hs => absurd hs hne
  | @own labels i pool m hown _ hal _ _ hid =>
    obtain ⟨hfresh, _, _, hused, _⟩ := Pool.alloc_some hal
    have hlab : NextHop.labelCount { nh with label := some labels, ctcMplsTunnelId := i } ≠ 0 ↔
        labels ≠ [] := labelCount_some rfl
    rw [hid, undoTunnelId]
    split
    · next hc =>
      rw [Pool.used_free, hused]
      exact iff_of_true (Finset.erase_insert hfresh) fun _ _ hs _ => by
        cases hs
        exact ⟨hc.1, hlab.mp hc.2⟩
    next hc =>
    refine iff_of_false (fun he => hfresh ?_) fun hall => hc ?_
    · rw [← he, hused]
      exact Finset.mem_insert_self _ _
    · obtain ⟨ht, hne⟩ := hall rfl labels rfl hown
      exact ⟨ht, hlab.mpr hne⟩
  | nested hno _ _ _ _ hid =>
    refine iff_of_true ?_ fun _ _ _ hown => by rw [hno] at hown; cases hown
    rw [undoTunnelId, hid]
    split
    · rw [h0, Pool.used_free, Finset.erase_eq_of_notMem (zero_notMem_tunnelId _)]
    · rfl
  | silent hno _ _ hid =>
    rw [undoTunnelId_unlabelled rfl, hid]
    exact iff_of_true rfl fun _ _ _ hown => by rw [hno] at hown; cases hown
  | ipTunnel _ _ hid =>
    rw [undoTunnelId_unlabelled (by rw [NextHop.labelCount, hl]; rfl), hid]
    exact iff_of_true rfl nofun

/-- It frees no id that is not in use, except under a next level. -/
theorem HopAdded.undo_stray (h : HopAdded sdk db nhId nh stack status nh' m) (hl : nh.label = none)
    (hok : status = .success → t = .mpls → ∀ labels, stack = some labels →
      labels ≠ [] → nh.ownsTunnel = true) :
    (undoTunnelId t nh' m.tunnelId).stray = db.tunnelId.stray := by
  cases h with
  | failed _ hc _ _ hs => rw [undoTunnelId_unlabelled hc, hs]
  | own _ _ hal _ _ hid =>
    obtain ⟨_, _, _, hused, hstray⟩ := Pool.alloc_some hal
    rw [hid, undoTunnelId]
    split
    · refine (Pool.stray_free_of_mem ?_).trans hstray
      rw [hused]
      exact Finset.mem_insert_self _ _
    · exact hstray
  | nested hno hne _ _ _ hid =>
    rw [undoTunnelId, hid]
    split
    · next hc =>
      have hown := hok rfl hc.1 _ rfl hne
      rw [hno] at hown
      cases hown
    · rfl
  | silent _ _ _ hid => rw [undoTunnelId_unlabelled rfl, hid]
  | ipTunnel _ _ hid => rw [undoTunnelId_unlabelled (by rw [NextHop.labelCount, hl]; rfl), hid]

end Added

/-! ## The ends of a creation -/

/-- The object can be stored: its id is free, and there is memory for it. -/
def ObjectFree (sdk : Sdk) (db : NextHopDb ch) (oid : Oid) : Prop :=
  db.nextHops.lookup oid = none ∧ sdk.mem .oidNode = true

/-- How `create` ends for a next hop that has the id `nhId`: it cannot be put
into hardware, it cannot be stored, it cannot be bound to its neighbor, or it
is there. -/
inductive HopMade (sdk : Sdk) (t : NextHopType) (db : NextHopDb ch) (nhId : Nat)
    (stack : Option (List (BitVec 32))) (nh : NextHop) : CreateResult ch → Prop where
  | refused {status nh' m db'} : hopAdd sdk db nhId stack nh = some (status, nh', m) →
      status ≠ .success → HopKept (freeNexthop db nhId) db' →
      db'.tunnelId = undoTunnelId t nh' m.tunnelId →
      HopMade sdk t db nhId stack nh (status, none, db')
  | unstored {nh' m db'} : hopAdd sdk db nhId stack nh = some (.success, nh', m) →
      ¬ ObjectFree sdk db (nextHopOid ch t nhId) → HopKept (freeNexthop db nhId) db' →
      db'.tunnelId = undoTunnelId t nh' m.tunnelId →
      HopMade sdk t db nhId stack nh (.noMemory, none, db')
  | unbound {nh' m status nbr db'} : hopAdd sdk db nhId stack nh = some (.success, nh', m) →
      ObjectFree sdk db (nextHopOid ch t nhId) → t = .mpls → nh.ownsTunnel = true →
      neighborBindingNextHop sdk db.nbr nh.rifId nh.ipAddress (nextHopOid ch t nhId) =
        (status, nbr) → status ≠ .success →
      HopKept (freeNexthop { db with nbr := nbr } nhId) db' →
      db'.tunnelId = undoTunnelId t nh' m.tunnelId →
      HopMade sdk t db nhId stack nh (status, none, db')
  | stored {nh' m db'} (nbr) : hopAdd sdk db nhId stack nh = some (.success, nh', m) →
      ObjectFree sdk db (nextHopOid ch t nhId) →
      (if t = .mpls ∧ nh.ownsTunnel = true then
        neighborBindingNextHop sdk db.nbr nh.rifId nh.ipAddress (nextHopOid ch t nhId) =
          (.success, nbr)
      else nbr = db.nbr) →
      HopKept { db with nbr := nbr, nextHops := db.nextHops.insert (nextHopOid ch t nhId) nh' }
        db' → db'.tunnelId = m.tunnelId →
      HopMade sdk t db nhId stack nh (.success, some (nextHopOid ch t nhId), db')

section Made

variable {db : NextHopDb ch} {nhId : Nat} {nh : NextHop} {r : CreateResult ch}
variable {m : NextHopDb ch}

theorem nextHopAddObject_some {oid : Oid} {db' : NextHopDb ch}
    (h : nextHopAddObject sdk db oid nh = some db') :
    ObjectFree sdk db oid ∧ db' = { db with nextHops := db.nextHops.insert oid nh } := by
  unfold nextHopAddObject at h
  split at h
  · next hc =>
    cases h
    rw [Bool.and_eq_true, Option.isNone_iff_eq_none] at hc
    exact ⟨hc, rfl⟩
  · cases h

theorem nextHopAddObject_none {oid : Oid} (h : nextHopAddObject sdk db oid nh = none) :
    ¬ ObjectFree sdk db oid := by
  unfold nextHopAddObject at h
  split at h
  · cases h
  · next hc =>
    rw [Bool.and_eq_true, Option.isNone_iff_eq_none] at hc
    exact hc

theorem createNhMplsError2_kept (h : HopKept db m) (nhId : Nat) (nh : NextHop) (status : Status) :
    HopKept (freeNexthop db nhId) (createNhMplsError2 sdk status m nhId nh).2.2 ∧
      (createNhMplsError2 sdk status m nhId nh).2.2.tunnelId =
        undoTunnelId .mpls nh m.tunnelId := by
  obtain ⟨hkept, hid⟩ := nextHopRemoveMpls_kept sdk m nh
  refine ⟨(h.trans hkept).free nhId, hid.trans ?_⟩
  unfold undoTunnelId
  by_cases hc : nh.labelCount = 0 <;> simp [hc]

theorem createNhTunnelError2_kept (h : HopKept db m) (nhId : Nat) (nh : NextHop) (status : Status) :
    HopKept (freeNexthop db nhId) (createNhTunnelError2 sdk status m nhId nh).2.2 ∧
      (createNhTunnelError2 sdk status m nhId nh).2.2.tunnelId =
        undoTunnelId .tunnelEncap nh m.tunnelId := by
  obtain ⟨hkept, hid⟩ := nextHopRemoveIpTunnel_kept sdk m nhId nh
  exact ⟨(h.trans hkept).free nhId, hid.trans (if_neg nofun).symm⟩

/-- The MPLS branch. -/
theorem createNhMplsBody_made {labels : List (BitVec 32)} (hl : nh.label = none)
    (h : createNhMplsBody sdk db nhId labels nh = some r) :
    HopMade sdk .mpls db nhId (some labels) nh r := by
  unfold createNhMplsBody at h
  split at h
  · cases h
  · next nh' m hadd =>
    have hadded := nextHopAddMpls_added hl hadd
    have hkept := hadded.kept
    obtain ⟨hown, hrif, hip⟩ := hadded.place
    dsimp only at h
    split at h
    · next hnone =>
      cases h
      obtain ⟨hk, hid⟩ := createNhMplsError2_kept hkept nhId nh' .noMemory
      refine .unstored hadd (fun hfree => nextHopAddObject_none hnone ?_) hk hid
      exact ⟨by rw [hkept.nextHops]; exact hfree.1, hfree.2⟩
    next hsome =>
    obtain ⟨⟨hfree, hmem⟩, rfl⟩ := nextHopAddObject_some hsome
    rw [hkept.nextHops] at hfree
    rw [hown] at h
    split at h
    · next ho =>
      rw [hkept.nbr, hkept.nextHops, hrif, hip] at h
      split at h
      · next nbr hbind =>
        cases h
        refine .stored nbr hadd ⟨hfree, hmem⟩ ?_ (hkept.write nbr _) rfl
        rw [if_pos ⟨rfl, ho⟩]
        exact hbind
      next status nbr hne hbind =>
      cases h
      have hk' := hkept.write nbr db.nextHops
      obtain ⟨hk, hid⟩ := createNhMplsError2_kept hk' nhId nh' status
      rw [Table.erase_insert hfree]
      exact .unbound hadd ⟨hfree, hmem⟩ rfl ho hbind hne hk hid
    · next ho =>
      cases h
      refine .stored db.nbr hadd ⟨hfree, hmem⟩ ?_ ?_ rfl
      · rw [if_neg fun hc => ho hc.2]
      · have hk := hkept.write db.nbr (db.nextHops.insert (nextHopOid ch .mpls nhId) nh')
        rw [← hkept.nbr, ← hkept.nextHops] at hk ⊢
        exact hk
  · next status nh' m hne hadd =>
    cases h
    obtain ⟨hk, hid⟩ := createNhMplsError2_kept (nextHopAddMpls_added hl hadd).kept nhId nh' status
    exact .refused hadd hne hk hid

theorem createNhTunnelFinish_made {stack : Option (List (BitVec 32))} {nh' : NextHop}
    (hl : nh.label = none) (hadd : hopAdd sdk db nhId stack nh = some (.success, nh', m)) :
    HopMade sdk .tunnelEncap db nhId stack nh (createNhTunnelFinish sdk m nhId nh') := by
  have hkept := (hopAdd_added hl hadd).kept
  unfold createNhTunnelFinish
  dsimp only
  split
  · next hnone =>
    obtain ⟨hk, hid⟩ := createNhTunnelError2_kept hkept nhId nh' .noMemory
    refine .unstored hadd (fun hfree => nextHopAddObject_none hnone ?_) hk hid
    exact ⟨by rw [hkept.nextHops]; exact hfree.1, hfree.2⟩
  next hsome =>
  obtain ⟨⟨hfree, hmem⟩, rfl⟩ := nextHopAddObject_some hsome
  rw [hkept.nextHops] at hfree
  refine .stored db.nbr hadd ⟨hfree, hmem⟩ (by rw [if_neg nofun]) ?_ rfl
  refine ⟨hkept.nbr, congrArg (AList.insert _ _) hkept.nextHops, hkept.counters, ?_,
    hkept.others, hkept.nexthopCnt, hkept.lockLeft⟩
  split
  · next t ht => exact hkept.tunnels.trans (.insert (by rw [ht]; rfl) _)
  · exact hkept.tunnels

/-- The TUNNEL_ENCAP branch, by the type of its tunnel. -/
theorem createNhTunnelBody_made {attrs : List NextHopAttr} {tunnel : Tunnel} (hl : nh.label = none)
    (h : createNhTunnelBody sdk db attrs nhId tunnel nh = some r) :
    if tunnel.tunnelType = .mplsL2 then
      (findAttribInList NextHopAttr.labelstack? attrs).isSome ∧
        HopMade sdk .tunnelEncap db nhId (findAttribInList NextHopAttr.labelstack? attrs)
          { nh with nextLevelNexthopId := nextLevelGiven attrs } r
    else
      HopMade sdk .tunnelEncap db nhId none { nh with
        destVni := (findAttribInList NextHopAttr.tunnelVni? attrs).getD 0
        tunnelMac := if (findAttribInList NextHopAttr.tunnelVni? attrs).isSome then
          (findAttribInList NextHopAttr.tunnelMac? attrs).getD 0 else 0 } r := by
  unfold createNhTunnelBody at h
  split at h
  · next hl2 =>
    rw [if_pos hl2]
    cases hlab : findAttribInList NextHopAttr.labelstack? attrs with
    | none => rw [hlab] at h; cases h
    | some labels =>
      rw [hlab] at h
      refine ⟨rfl, ?_⟩
      dsimp only at h
      split at h
      · cases h
      · next nh' m hadd =>
        cases h
        exact createNhTunnelFinish_made hl hadd
      next status nh' m hne hadd =>
      cases h
      have hkept : HopKept db m := (nextHopAddMpls_added (by exact hl) hadd).kept
      obtain ⟨hk, hid⟩ := createNhTunnelError2_kept hkept nhId nh' status
      exact .refused hadd hne hk hid
  · next hl2 =>
    rw [if_neg hl2]
    dsimp only at h
    split at h
    · cases h
    split at h
    · next m hadd =>
      cases h
      refine createNhTunnelFinish_made hl ?_
      rw [hopAdd, hadd]
    next status m hne hadd =>
    cases h
    have hkept := nextHopAddIpTunnel_kept sdk db nhId { nh with
      destVni := (findAttribInList NextHopAttr.tunnelVni? attrs).getD 0
      tunnelMac := if (findAttribInList NextHopAttr.tunnelVni? attrs).isSome then
        (findAttribInList NextHopAttr.tunnelMac? attrs).getD 0 else 0 }
    rw [hadd] at hkept
    obtain ⟨hk, hid⟩ := createNhTunnelError2_kept hkept.1 nhId _ status
    exact .refused (by rw [hopAdd, hadd]) hne hk hid

end Made

/-- The checks of `create` pass, and there is memory for the record. -/
def Admitted (raw : NextHopAttr → Oid) (sdk : Sdk) (db : NextHopDb ch)
    (attrs : List NextHopAttr) : Prop :=
  nextHopCreateAttrCheck raw db attrs = .success ∧ sdk.mem .nextHop = true

/-- The state once the id of the NEXTHOP pool is taken. -/
def withNexthop (db : NextHopDb ch) (pool : Pool ch.nexthop) : NextHopDb ch :=
  { db with nbr := { db.nbr with nexthop := pool } }

/-- How `create` ends. -/
inductive HopEnd (raw : NextHopAttr → Oid) (sdk : Sdk) (db : NextHopDb ch)
    (attrs : List NextHopAttr) : CreateResult ch → Prop where
  | refused {status} : status ≠ .success → ¬ Admitted raw sdk db attrs →
      HopEnd raw sdk db attrs (status, none, db)
  | ip : Admitted raw sdk db attrs → findAttribInList NextHopAttr.type? attrs = some .ip →
      HopEnd raw sdk db attrs (createNhIp sdk db (nextHopFill attrs))
  | full {t} : Admitted raw sdk db attrs → findAttribInList NextHopAttr.type? attrs = some t →
      t = .mpls ∨ t = .tunnelEncap → db.nbr.nexthop.alloc = none →
      HopEnd raw sdk db attrs (.insufficientResources, none, db)
  | locked {t nhId pool} : Admitted raw sdk db attrs →
      findAttribInList NextHopAttr.type? attrs = some t → t = .mpls ∨ t = .tunnelEncap →
      db.nbr.nexthop.alloc = some (nhId, pool) → WrongTunnel raw db attrs →
      HopEnd raw sdk db attrs
        (.invalidObjectId, none, { withNexthop db pool with lockLeft := true })
  | made {t nhId pool r} : Admitted raw sdk db attrs →
      findAttribInList NextHopAttr.type? attrs = some t → t = .mpls ∨ t = .tunnelEncap →
      db.nbr.nexthop.alloc = some (nhId, pool) → ¬ WrongTunnel raw db attrs →
      (stackOf raw db attrs).isSome = buildsMpls raw db attrs →
      HopMade sdk t (withNexthop db pool) nhId (stackOf raw db attrs) (hopFilled raw db attrs) r →
      HopEnd raw sdk db attrs r

/-- A blank record has neither labels nor a tunnel id. -/
theorem hopFilled_blank (raw : NextHopAttr → Oid) (db : NextHopDb ch) (attrs : List NextHopAttr) :
    (hopFilled raw db attrs).label = none ∧ (hopFilled raw db attrs).ctcMplsTunnelId = 0 := by
  unfold hopFilled
  split <;> exact ⟨rfl, rfl⟩

theorem hopFilled_ownsTunnel {raw : NextHopAttr → Oid} {db : NextHopDb ch}
    {attrs : List NextHopAttr} (hb : buildsMpls raw db attrs = true) :
    (hopFilled raw db attrs).ownsTunnel = noNextLevel attrs := by
  rw [hopFilled, hb]
  rfl

theorem stackOf_some {raw : NextHopAttr → Oid} {db : NextHopDb ch} {attrs : List NextHopAttr}
    {labels : List (BitVec 32)} (h : stackOf raw db attrs = some labels) :
    buildsMpls raw db attrs = true ∧
      findAttribInList NextHopAttr.labelstack? attrs = some labels := by
  unfold stackOf at h
  split at h
  · next hb => exact ⟨hb, h⟩
  · cases h

section End

variable {raw : NextHopAttr → Oid} {db : NextHopDb ch} {attrs : List NextHopAttr}
  {r : CreateResult ch}

theorem createNhMpls_end (hadm : Admitted raw sdk db attrs)
    (ht : findAttribInList NextHopAttr.type? attrs = some .mpls)
    (h : createNhMpls sdk db attrs (nextHopFill attrs) = some r) :
    HopEnd raw sdk db attrs r := by
  have hb : buildsMpls raw db attrs = true := by rw [buildsMpls, ht]
  unfold createNhMpls at h
  split at h
  · next hal => cases h; exact .full hadm ht (.inl rfl) hal
  next nhId pool hal =>
  dsimp only at h
  split at h
  · next hwrong =>
    cases h
    exact .locked hadm ht (.inl rfl) hal (by rw [WrongTunnel, ht]; exact hwrong)
  next hright =>
  split at h
  · cases h
  next labels hlab =>
  refine .made hadm ht (.inl rfl) hal (by rw [WrongTunnel, ht]; exact hright)
    (by rw [stackOf, hb, hlab]; rfl) ?_
  rw [stackOf, hopFilled, hb, hlab, tunnelStored, ht]
  exact createNhMplsBody_made rfl h

theorem createNhTunnelBody_end (hadm : Admitted raw sdk db attrs)
    (ht : findAttribInList NextHopAttr.type? attrs = some .tunnelEncap) {nhId : Nat}
    {pool : Pool ch.nexthop} (hal : db.nbr.nexthop.alloc = some (nhId, pool)) {tunnel : Tunnel}
    (hencap : encapTunnel raw db attrs = some tunnel) (hfound : EncapFound raw db attrs)
    (h : createNhTunnelBody sdk (withNexthop db pool) attrs nhId tunnel
      { nextHopFill attrs with tunnelId := encapTunnelId raw db attrs } = some r) :
    HopEnd raw sdk db attrs r := by
  have hb : buildsMpls raw db attrs = decide (tunnel.tunnelType = .mplsL2) := by
    rw [buildsMpls, ht, hencap]
    rfl
  have hright : ¬ WrongTunnel raw db attrs := by
    rw [WrongTunnel, ht]
    exact fun hn => hn hfound
  have hmade := createNhTunnelBody_made (by rfl) h
  split at hmade
  · next hl2 =>
    rw [decide_eq_true hl2] at hb
    refine .made hadm ht (.inr rfl) hal hright (by rw [stackOf, hb]; exact hmade.1) ?_
    rw [stackOf, hopFilled, tunnelStored, hb, ht]
    exact hmade.2
  next hl2 =>
  rw [decide_eq_false hl2] at hb
  refine .made hadm ht (.inr rfl) hal hright (by rw [stackOf, hb]; rfl) ?_
  rw [stackOf, hopFilled, tunnelStored, hb, ht]
  exact hmade

theorem createNhTunnel_end (hadm : Admitted raw sdk db attrs)
    (ht : findAttribInList NextHopAttr.type? attrs = some .tunnelEncap)
    (h : createNhTunnel raw sdk db attrs (nextHopFill attrs) = some r) :
    HopEnd raw sdk db attrs r := by
  unfold createNhTunnel at h
  split at h
  · next hal => cases h; exact .full hadm ht (.inr rfl) hal
  next nhId pool hal =>
  dsimp only at h
  split at h
  · next t hgiven =>
    have hencap : encapTunnel raw db attrs = some t := by rw [encapTunnel, hgiven]
    refine createNhTunnelBody_end hadm ht hal hencap (.inl (by rw [hgiven]; rfl)) ?_
    · rw [encapTunnelId, hgiven]
      exact h
  next hgiven =>
  have hlocked : (∀ t, encapTunnel raw db attrs = some t → t.tunnelType ≠ .mplsL2) →
      HopEnd raw sdk db attrs
        (.invalidObjectId, none, { withNexthop db pool with lockLeft := true }) := by
    intro hno
    refine .locked hadm ht (.inr rfl) hal ?_
    rw [WrongTunnel, ht]
    rintro (hs | ⟨t, htn, hl2⟩)
    · rw [hgiven] at hs; cases hs
    · exact hno t htn hl2
  have hencap : encapTunnel raw db attrs = db.tunnels.lookup
      ((findAttribInList NextHopAttr.mplsEncapTunnelId? attrs).getD
        ((findAttribInList NextHopAttr.tunnelId? attrs).getD (raw (.type .tunnelEncap)))) := by
    rw [encapTunnel, hgiven]
  split at h
  · next t htn =>
    rw [htn] at hencap
    split at h
    · next hl2 =>
      refine createNhTunnelBody_end hadm ht hal hencap (.inr ⟨t, hencap, hl2⟩) ?_
      rw [encapTunnelId, hgiven]
      exact h
    next hl2 =>
    cases h
    refine hlocked fun t' ht' => ?_
    rw [hencap] at ht'
    cases ht'
    exact hl2
  · next htn =>
    cases h
    refine hlocked fun t' ht' => ?_
    rw [hencap, htn] at ht'
    cases ht'

theorem createNextHop_end (h : createNextHop raw sdk db attrs = some r) :
    HopEnd raw sdk db attrs r := by
  unfold createNextHop at h
  split at h
  · next hcheck =>
    split at h
    · next hmem =>
      cases h
      exact .refused (by decide) fun ha => by rw [ha.2] at hmem; cases hmem
    next hmem =>
    rw [Bool.not_eq_true', Bool.not_eq_false] at hmem
    have hadm : Admitted raw sdk db attrs := ⟨hcheck, hmem⟩
    split at h
    · cases h
    split at h
    · next ht => cases h; exact .ip hadm ht
    · next ht => exact createNhMpls_end hadm ht h
    · next ht => exact createNhTunnel_end hadm ht h
    · cases h
  · next hne => cases h; exact .refused hne fun ha => hne ha.1

end End

end CtcSai
