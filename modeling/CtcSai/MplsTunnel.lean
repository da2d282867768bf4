/-
# `MplsTunnel` — who owns the ids of the TUNNEL_ID pool

A next hop with a label list that sits on no other next hop
(`next_level_nexthop_id = 0`) owns the tunnel id it was built with.  Creation
allocates by the level, removal frees by the length of the label list, so the
two agree only where these coincide: on a next hop of its own with at least one
label, or on a nested one with none.

Runs are those of `create` and `remove` of next hops of all types; `other`
stands for any change to the rest of the database in between.  Nothing is
assumed of the SDK: every failure path of `_ctc_sai_next_hop_add_mpls` gives
back what it took (`HopAdded`), and what remains is the object that could not
be stored after it.
-/
import CtcSai.Lib.Ownership
import CtcSai.Lib.Run
import CtcSai.NextHopCreate

namespace CtcSai

open IdPool KeyedTable Ownership Runs

variable {ch : Chip}
variable {db db' : NextHopDb ch} {oid : Oid}

/-! ## The system -/

/-- The calls of the next-hop API, and any change outside it. -/
inductive HopCall (ch : Chip) where
  | createNextHop (raw : NextHopAttr → Oid) (attrs : List NextHopAttr)
  | removeNextHop (oid : Oid)
  | other (nbr : NeighborDb ch) (ctr : CounterDb ch) (tunnels : Table Oid Tunnel)
      (others : Oid → Bool)

/-- One step, under what the SDK answers during it. -/
def hopStep (db : NextHopDb ch) (a : Sdk × HopCall ch) : Option (NextHopDb ch) :=
  match a.2 with
  | .createNextHop raw attrs => (createNextHop raw a.1 db attrs).map fun r => r.2.2
  | .removeNextHop oid => (removeNextHop a.1 db oid).map Prod.snd
  | .other nbr ctr tunnels others =>
    some { db with nbr := nbr, ctr := ctr, tunnels := tunnels, others := others }

/-- The start: no next hop, and no tunnel id in use. -/
def NextHopDb.NoHops (db : NextHopDb ch) : Prop :=
  db.nextHops = ∅ ∧ db.tunnelId = .empty _

/-- The next hop owns a tunnel: it has a label list and no next level. -/
def NextHop.tunnelOwner (nh : NextHop) : Bool := nh.label.isSome && nh.ownsTunnel

/-- The TUNNEL_ID pool is what the live next hops say. -/
structure TunnelIdsOk (db : NextHopDb ch) : Prop where
  ids : ∀ i, i ∈ db.tunnelId.used ↔ ∃ oid nh, db.nextHops.lookup oid = some nh ∧
    nh.tunnelOwner = true ∧ nh.ctcMplsTunnelId = i
  once : ∀ oid oid' nh nh', db.nextHops.lookup oid = some nh → db.nextHops.lookup oid' = some nh' →
    nh.tunnelOwner = true → nh'.tunnelOwner = true → nh.ctcMplsTunnelId = nh'.ctcMplsTunnelId →
    oid = oid'
  noStray : db.tunnelId.stray = []

/-- Whether the removal of `nh` frees its tunnel id. -/
def removeFreesTunnel (db : NextHopDb ch) (oid : Oid) (nh : NextHop) : Bool :=
  (decide (oid.subType = NextHopType.mpls.bits) ||
      decide (oid.subType = NextHopType.tunnelEncap.bits) &&
        (db.tunnels.lookup nh.tunnelId).any (fun t => t.tunnelType = .mplsL2)) &&
    decide (nh.labelCount ≠ 0)

/-- The object of a next hop of type `t` can be stored: its id is free, and
there is memory for it. -/
def Storable (sdk : Sdk) (db : NextHopDb ch) (t : NextHopType) : Prop :=
  sdk.mem .oidNode = true ∧
    ∀ nhId pool, db.nbr.nexthop.alloc = some (nhId, pool) →
      db.nextHops.lookup (nextHopOid ch t nhId) = none

/-- The state before a step, where creation and removal agree. -/
def TunnelSafe (db : NextHopDb ch) (a : Sdk × HopCall ch) : Prop :=
  match a.2 with
  | .createNextHop raw attrs =>
    match findAttribInList NextHopAttr.type? attrs with
    | some .mpls => (Storable a.1 db .mpls ∧ a.1.mem .neighborNhNode = true) ∨
        (noNextLevel attrs = true ↔ findAttribInList NextHopAttr.labelstack? attrs ≠ some [])
    | some .tunnelEncap => Storable a.1 db .tunnelEncap ∨ noNextLevel attrs = false ∨
        ∀ t, encapTunnel raw db attrs = some t → t.tunnelType ≠ .mplsL2
    | _ => True
  | .removeNextHop oid =>
    ∀ nh, db.nextHops.lookup oid = some nh → removeFreesTunnel db oid nh = nh.tunnelOwner
  | .other .. => True

/-! ## What one step does to the ids -/

/-- The next hops and the pool are as before. -/
structure HopSame (db db' : NextHopDb ch) : Prop where
  record : Table.get db'.nextHops = Table.get db.nextHops
  used : db'.tunnelId.used = db.tunnelId.used
  stray : db'.tunnelId.stray = db.tunnelId.stray

theorem HopSame.refl (db : NextHopDb ch) : HopSame db db := ⟨rfl, rfl, rfl⟩

/-- One next hop is written, and its tunnel id moves. -/
structure HopWrote (db db' : NextHopDb ch) (oid : Oid) (x : Option NextHop) : Prop where
  record : Table.get db'.nextHops = Function.update (Table.get db.nextHops) oid x
  ids : Moves (idOf NextHop.ctcMplsTunnelId (db.nextHops.lookup oid))
    (idOf NextHop.ctcMplsTunnelId x) db.tunnelId.used db'.tunnelId.used
  stray : db'.tunnelId.stray = db.tunnelId.stray
  owner : ∀ nh, x = some nh → (nh.tunnelOwner = true ↔ nh.ctcMplsTunnelId ≠ 0)

theorem tunnelId_lo_pos (ch : Chip) : 0 < ch.tunnelId.lo := by rw [ch.tunnelId_lo]; decide

/-! ## Creation -/

section Create

variable {sdk : Sdk} {db m : NextHopDb ch} {nh nh' : NextHop} {nhId : Nat}
  {stack : Option (List (BitVec 32))} {status : Status} {attrs : List NextHopAttr}
  {raw : NextHopAttr → Oid}

/-- A next hop in hardware took a fresh tunnel id, or none. -/
theorem HopAdded.moves (h : HopAdded sdk db nhId nh stack .success nh' m)
    (h0 : nh.ctcMplsTunnelId = 0) :
    Moves 0 nh'.ctcMplsTunnelId db.tunnelId.used m.tunnelId.used := by
  cases h with
  | failed hne => exact absurd rfl hne
  | own _ _ hal _ _ hid => rw [hid]; exact (moves_alloc (tunnelId_lo_pos ch) hal).2
  | nested _ _ _ _ _ hid | silent _ _ _ hid | ipTunnel _ _ hid =>
    exact .keep h0 (by rw [hid])

theorem HopAdded.stray (h : HopAdded sdk db nhId nh stack status nh' m) :
    m.tunnelId.stray = db.tunnelId.stray := by
  cases h with
  | failed _ _ _ _ hs => exact hs
  | own _ _ hal _ _ hid => rw [hid]; exact (Pool.alloc_some hal).2.2.2.2
  | nested _ _ _ _ _ hid | silent _ _ _ hid | ipTunnel _ _ hid => rw [hid]

/-- Its record owns a tunnel where it has an id. -/
theorem HopAdded.owner (h : HopAdded sdk db nhId nh stack .success nh' m) (hl : nh.label = none)
    (h0 : nh.ctcMplsTunnelId = 0) : nh'.tunnelOwner = true ↔ nh'.ctcMplsTunnelId ≠ 0 := by
  have hown := h.place.1
  rw [NextHop.tunnelOwner, Bool.and_eq_true, hown]
  cases h with
  | failed hne => exact absurd rfl hne
  | own ho _ hal =>
    have hi := (moves_alloc (tunnelId_lo_pos ch) hal).1
    exact iff_of_true ⟨rfl, ho⟩ hi
  | nested hno | silent hno =>
    exact iff_of_false (fun hc => by rw [hno] at hc; exact absurd hc.2 (by decide)) (fun hc => hc h0)
  | ipTunnel =>
    exact iff_of_false (fun hc => by rw [hl] at hc; exact absurd hc.1 (by decide)) (fun hc => hc h0)

/-- A step over the next hops: nothing, or one next hop at a free id. -/
def HopCreated (db db' : NextHopDb ch) : Prop :=
  HopSame db db' ∨ ∃ oid nh, HopWrote db db' oid (some nh)

/-- The roll-back of a next hop that is not there after all. -/
theorem HopSame.ofUndo {t : NextHopType} {db' : NextHopDb ch} (hl : nh.label = none)
    (h0 : nh.ctcMplsTunnelId = 0) (hadd : hopAdd sdk db nhId stack nh = some (status, nh', m))
    (hrec : db'.nextHops = db.nextHops) (hid : db'.tunnelId = undoTunnelId t nh' m.tunnelId)
    (hok : status = .success → ∀ labels, stack = some labels →
      if t = .mpls then nh.ownsTunnel = true ↔ labels ≠ [] else nh.ownsTunnel = false) :
    HopSame db db' := by
  have hadded := hopAdd_added hl hadd
  refine ⟨by rw [hrec], ?_, ?_⟩
  · rw [hid]
    refine (hadded.undo_used hl h0).mpr fun hs labels hlab hown => ?_
    have hag := hok hs labels hlab
    split at hag
    · next ht => exact ⟨ht, hag.mp hown⟩
    · rw [hown] at hag; cases hag
  · rw [hid]
    refine hadded.undo_stray hl fun hs ht labels hlab hne => ?_
    have hag := hok hs labels hlab
    rw [if_pos ht] at hag
    exact hag.mpr hne

theorem createNhIp_ids (hl : nh.label = none) (h0 : nh.ctcMplsTunnelId = 0) :
    HopCreated db (createNhIp sdk db nh).2.2 := by
  unfold createNhIp
  split
  · dsimp only
    split
    · next db' hadd =>
      obtain ⟨⟨hfree, _⟩, rfl⟩ := nextHopAddObject_some hadd
      refine .inr ⟨_, nh, Table.get_insert _ _ _, ?_, rfl, fun x hx => ?_⟩
      · rw [show db.nextHops.lookup _ = none from hfree]
        exact .keep h0 rfl
      · cases hx
        simp [NextHop.tunnelOwner, hl, h0]
    · exact .inl ⟨rfl, rfl, rfl⟩
  · exact .inl ⟨rfl, rfl, rfl⟩

/-- Binding to a neighbor that is there only needs memory. -/
theorem neighborBindingNextHop_success (hmem : sdk.mem .neighborNhNode = true)
    {nbr : NeighborDb ch} {rif : Oid} {ip : IpAddress} (oid : Oid)
    (harp : (neighborGetArpId nbr rif ip).isSome) :
    (neighborBindingNextHop sdk nbr rif ip oid).1 = .success := by
  unfold neighborGetArpId at harp
  rw [Option.isSome_map] at harp
  obtain ⟨p, hp⟩ := Option.isSome_iff_exists.mp harp
  unfold neighborBindingNextHop
  dsimp only
  split
  · rfl
  · rw [hp]
    dsimp only
    split <;> rfl

/-- A next hop that cannot be bound to its neighbor lacks the memory for it. -/
theorem HopAdded.unbound_mem {oid : Oid} {nbr : NeighborDb ch}
    (h : HopAdded sdk db nhId nh stack .success nh' m) (hstack : stack.isSome)
    (hown : nh.ownsTunnel = true)
    (hbind : neighborBindingNextHop sdk db.nbr nh.rifId nh.ipAddress oid = (status, nbr))
    (hne : status ≠ .success) : sdk.mem .neighborNhNode = false := by
  cases h with
  | failed hne => exact absurd rfl hne
  | own _ harp =>
    by_contra hmem
    have hs := neighborBindingNextHop_success ((Bool.not_eq_false _).mp hmem) oid harp
    rw [hbind] at hs
    exact hne hs
  | nested hno | silent hno => rw [hown] at hno; cases hno
  | ipTunnel => cases hstack

theorem createNextHop_ids (hsafe : TunnelSafe db (sdk, .createNextHop raw attrs))
    {r : CreateResult ch} (h : createNextHop raw sdk db attrs = some r) :
    HopCreated db r.2.2 := by
  cases createNextHop_end h with
  | refused | full => exact .inl (.refl db)
  | ip => exact createNhIp_ids rfl rfl
  | locked => exact .inl ⟨rfl, rfl, rfl⟩
  | @made t nhId pool _ _ ht htype hal _ hstack hmade =>
    obtain ⟨hl, h0⟩ := hopFilled_blank raw db attrs
    -- the object can be stored and bound, or the level and the labels agree
    have hok : ¬ (ObjectFree sdk db (nextHopOid ch t nhId) ∧
          (t = .mpls → sdk.mem .neighborNhNode = true)) →
        ∀ labels, stackOf raw db attrs = some labels → if t = .mpls then
          (hopFilled raw db attrs).ownsTunnel = true ↔ labels ≠ []
          else (hopFilled raw db attrs).ownsTunnel = false := by
      intro hno labels hlab
      obtain ⟨hb, hgiven⟩ := stackOf_some hlab
      rw [hopFilled_ownsTunnel hb]
      unfold TunnelSafe at hsafe
      dsimp only at hsafe
      rw [ht] at hsafe
      rcases htype with rfl | rfl
      · rcases hsafe with ⟨hst, hnode⟩ | hag
        · exact absurd ⟨⟨hst.2 nhId _ hal, hst.1⟩, fun _ => hnode⟩ hno
        · rw [hgiven, ne_eq, Option.some_inj] at hag
          exact hag
      rcases hsafe with hst | hnest | hnl2
      · exact absurd ⟨⟨hst.2 nhId _ hal, hst.1⟩, nofun⟩ hno
      · exact hnest
      · rw [buildsMpls, ht] at hb
        obtain ⟨tn, htn, hl2⟩ := (Option.any_eq_true _ _).mp hb
        exact absurd (of_decide_eq_true hl2) (hnl2 tn htn)
    have hsame : ∀ {db'}, HopSame (withNexthop db pool) db' → HopCreated db db' :=
      fun hs => .inl ⟨hs.record, hs.used, hs.stray⟩
    cases hmade with
    | refused hadd hne hk hid =>
      exact hsame (.ofUndo hl h0 hadd hk.nextHops hid fun hs => absurd hs hne)
    | unstored hadd hfree hk hid =>
      exact hsame (.ofUndo hl h0 hadd hk.nextHops hid fun _ => hok fun hc => hfree hc.1)
    | unbound hadd hfree htm ho hbind hne hk hid =>
      refine hsame (.ofUndo hl h0 hadd hk.nextHops hid fun _ => hok fun hc => ?_)
      have hsome : (stackOf raw db attrs).isSome := by
        rw [hstack, buildsMpls, ht, htm]
      have hmem := (hopAdd_added hl hadd).unbound_mem hsome ho hbind hne
      rw [hc.2 htm] at hmem
      cases hmem
    | @stored nh' m db' nbr hadd hfree hbind hk hid =>
      have hadded := hopAdd_added hl hadd
      refine .inr ⟨nextHopOid ch t nhId, nh', ?_, ?_, ?_, fun x hx => ?_⟩
      · rw [hk.nextHops]
        exact Table.get_insert _ _ _
      · rw [show db.nextHops.lookup (nextHopOid ch t nhId) = none from hfree.1, hid]
        exact hadded.moves h0
      · rw [hid]
        exact hadded.stray
      · cases hx
        exact hadded.owner hl h0

end Create

/-! ## Removal and runs -/

/-- The invariant: the live next hops own exactly the ids in use. -/
structure TunnelInv (db : NextHopDb ch) : Prop where
  owns : Owns NextHop.ctcMplsTunnelId (Table.get db.nextHops) db.tunnelId.used
  owner : ∀ oid nh, db.nextHops.lookup oid = some nh →
    (nh.tunnelOwner = true ↔ nh.ctcMplsTunnelId ≠ 0)
  stray : db.tunnelId.stray = []

theorem TunnelInv.same (h : TunnelInv db) (hs : HopSame db db') : TunnelInv db' where
  owns := by rw [hs.record, hs.used]; exact h.owns
  owner oid nh hnh := h.owner oid nh ((congrFun hs.record oid).symm.trans hnh)
  stray := hs.stray.trans h.stray

theorem TunnelInv.wrote {x : Option NextHop} (h : TunnelInv db) (hw : HopWrote db db' oid x) :
    TunnelInv db' where
  owns := by
    rw [hw.record]
    exact h.owns.write oid x hw.ids
  owner o nh hnh := by
    have hget := congrFun hw.record o
    rw [Function.update_apply] at hget
    split at hget
    · exact hw.owner nh (hget.symm.trans hnh)
    · exact h.owner o nh (hget.symm.trans hnh)
  stray := hw.stray.trans h.stray

/-- What `remove` does: nothing, or the next hop goes, its tunnel id is freed
as `removeFreesTunnel` says, and so is an id of its own. -/
theorem removeNextHop_ids {sdk : Sdk} {r : Status × NextHopDb ch}
    (h : removeNextHop sdk db oid = some r) :
    (db.nextHops.lookup oid = none ∧ r.2 = db) ∨
    ∃ nh, db.nextHops.lookup oid = some nh ∧ r.2.nextHops = db.nextHops.erase oid ∧
      (r.2.tunnelId = if removeFreesTunnel db oid nh then db.tunnelId.free nh.ctcMplsTunnelId
        else db.tunnelId) ∧
      (oid.subType ≠ NextHopType.ip.bits → ∃ nbr, (nbr = db.nbr ∨
          nbr = (neighborUnbindingNextHop db.nbr nh.rifId nh.ipAddress oid).2) ∧
        r.2.nbr = { nbr with nexthop := nbr.nexthop.free oid.value.toNat }) := by
  -- the roll-back of a label stack, at the end of the call
  have hmpls : ∀ (nbr : NeighborDb ch) (nh : NextHop),
      (nextHopRemoveMpls sdk { db with nbr := nbr } nh).tunnelId = (if decide (nh.labelCount ≠ 0)
        then db.tunnelId.free nh.ctcMplsTunnelId else db.tunnelId) ∧
      HopKept { db with nbr := nbr } (nextHopRemoveMpls sdk { db with nbr := nbr } nh) := by
    intro nbr nh
    obtain ⟨hk, hid⟩ := nextHopRemoveMpls_kept sdk { db with nbr := nbr } nh
    refine ⟨hid.trans ?_, hk⟩
    by_cases hc : nh.labelCount = 0 <;> simp [hc]
  unfold removeNextHop at h
  cases hx : db.nextHops.lookup oid with
  | none => rw [hx] at h; cases h; exact .inl ⟨rfl, rfl⟩
  | some nh =>
    rw [hx] at h
    refine .inr ⟨nh, rfl, ?_⟩
    dsimp only at h
    unfold removeFreesTunnel
    split at h
    · next hip =>
      cases h
      refine ⟨rfl, ?_, fun hno => absurd hip hno⟩
      rw [hip]
      rfl
    split at h
    · next hm =>
      cases h
      obtain ⟨hid, hk⟩ := hmpls (neighborUnbindingNextHop db.nbr nh.rifId nh.ipAddress oid).2 nh
      refine ⟨congrArg (AList.erase oid) hk.nextHops, ?_,
        fun _ => ⟨_, .inr rfl, (hk.free oid.value.toNat).nbr⟩⟩
      rw [hm]
      exact hid
    next hm =>
    split at h
    · next henc =>
      cases ht : db.tunnels.lookup nh.tunnelId with
      | none => rw [ht] at h; cases h
      | some t =>
        rw [ht] at h
        cases h
        rw [decide_eq_false hm, decide_eq_true henc, Option.any_some]
        by_cases hl2 : t.tunnelType = .mplsL2
        · obtain ⟨hid, hk⟩ := hmpls db.nbr nh
          simp only [hl2, if_true]
          refine ⟨congrArg (AList.erase oid) hk.nextHops, ?_,
            fun _ => ⟨_, .inl rfl, (hk.free oid.value.toNat).nbr⟩⟩
          exact hid
        obtain ⟨hk, hid⟩ := nextHopRemoveIpTunnel_kept sdk db oid.value.toNat nh
        simp only [if_neg hl2]
        refine ⟨congrArg (AList.erase oid) hk.nextHops, ?_,
          fun _ => ⟨_, .inl rfl, (hk.free oid.value.toNat).nbr⟩⟩
        rw [decide_eq_false hl2]
        exact hid
    · next henc =>
      cases h
      refine ⟨rfl, ?_, fun _ => ⟨_, .inl rfl, rfl⟩⟩
      simp [hm, henc]
      rfl

theorem TunnelInv.removed {sdk : Sdk} (h : TunnelInv db)
    (hsafe : TunnelSafe db (sdk, .removeNextHop oid)) {r : Status × NextHopDb ch}
    (hr : removeNextHop sdk db oid = some r) : TunnelInv r.2 := by
  rcases removeNextHop_ids hr with ⟨_, he⟩ | ⟨nh, hnh, hrec, htun, _⟩
  · rw [he]
    exact h
  rw [hsafe nh hnh] at htun
  have hget : idOf NextHop.ctcMplsTunnelId (db.nextHops.lookup oid) = nh.ctcMplsTunnelId := by
    rw [hnh]; rfl
  have hwrote : HopWrote db r.2 oid none := by
    refine ⟨?_, ?_, ?_, fun x hx => by cases hx⟩
    · rw [hrec]
      exact Table.get_erase _ _
    · rw [hget, htun]
      by_cases ho : nh.tunnelOwner = true
      · rw [if_pos ho]
        exact .give rfl rfl
      rw [if_neg ho]
      have hz : nh.ctcMplsTunnelId = 0 := by
        by_contra hid
        exact ho ((h.owner oid nh hnh).mpr hid)
      exact .keep hz.symm rfl
    · rw [htun]
      by_cases ho : nh.tunnelOwner = true
      · -- an owner's id is in use, so its free is not a stray one
        rw [if_pos ho]
        refine Pool.stray_free_of_mem ?_
        rw [← hget]
        refine h.owns.held oid ?_
        show idOf _ (db.nextHops.lookup oid) ≠ 0
        rw [hget]
        exact (h.owner oid nh hnh).mp ho
      · rw [if_neg ho]
  exact h.wrote hwrote

theorem hopStep_inv {a : Sdk × HopCall ch} (h : TunnelInv db) (hsafe : TunnelSafe db a)
    (hst : hopStep db a = some db') : TunnelInv db' := by
  obtain ⟨sdk, call⟩ := a
  cases call with
  | createNextHop raw attrs =>
    obtain ⟨r, hr, rfl⟩ := Option.map_eq_some_iff.mp hst
    rcases createNextHop_ids hsafe hr with hs | ⟨oid, nh, hw⟩
    · exact h.same hs
    · exact h.wrote hw
  | removeNextHop oid =>
    obtain ⟨r, hr, rfl⟩ := Option.map_eq_some_iff.mp hst
    exact h.removed hsafe hr
  | other nbr ctr tunnels others =>
    cases hst
    exact ⟨h.owns, h.owner, h.stray⟩

theorem tunnelInv_init (h : db.NoHops) : TunnelInv db where
  owns := by
    have hget : Table.get db.nextHops = fun _ => none := by rw [h.1]; rfl
    rw [hget, h.2]
    exact owns_empty _
  owner oid nh hnh := by rw [h.1] at hnh; cases hnh
  stray := by rw [h.2]; rfl

theorem TunnelInv.idsOk (h : TunnelInv db) : TunnelIdsOk db where
  ids i := by
    constructor
    · intro hi
      obtain ⟨oid, hoid⟩ := h.owns.owned i hi
      cases hnh : db.nextHops.lookup oid with
      | none =>
        rw [show Table.get db.nextHops oid = none from hnh] at hoid
        rw [← hoid] at hi
        exact absurd hi h.owns.zero
      | some nh =>
        rw [show Table.get db.nextHops oid = some nh from hnh, idOf_some] at hoid
        refine ⟨oid, nh, hnh, (h.owner oid nh hnh).mpr ?_, hoid⟩
        rw [hoid]
        exact fun hz => h.owns.zero (hz ▸ hi)
    · rintro ⟨oid, nh, hnh, ho, rfl⟩
      have hheld := h.owns.held oid
      rw [show Table.get db.nextHops oid = some nh from hnh] at hheld
      exact hheld ((h.owner oid nh hnh).mp ho)
  once oid oid' nh nh' hnh hnh' ho _ he := by
    refine h.owns.inj oid oid' ?_ ?_
    · rw [show Table.get db.nextHops oid = some nh from hnh]
      exact (h.owner oid nh hnh).mp ho
    · rw [show Table.get db.nextHops oid = some nh from hnh,
        show Table.get db.nextHops oid' = some nh' from hnh']
      exact he
  noStray := h.stray

/-- In every run in which levels and label lists agree where it counts, the
pool is what the live next hops say. -/
theorem tunnelIds_of_run {db : NextHopDb ch}
    (h : Reachable NextHopDb.NoHops TunnelSafe hopStep db) : TunnelIdsOk db := by
  have hinv : TunnelInv db :=
    h.inv (fun _ hs => tunnelInv_init hs) (fun _ _ _ hi hok hst => hopStep_inv hi hok hst)
  exact hinv.idsOk

/-! ## Two runs on the small chip -/

/-- A database with one neighbor on the port interface and no next hop. -/
def NextHopDb.withNeighbor : NextHopDb Chip.small :=
  { NextHopDb.empty Chip.small with
    nbr := (createNeighbor .ok (.empty Chip.small) Chip.portRif (.ip4 0x0A000001)
      [.dstMacAddress 0x1]).2 }

/-- Creation of an MPLS next hop over that neighbor. -/
def createMplsNextHop (labels : List (BitVec 32)) : Sdk × HopCall Chip.small :=
  (.ok, .createNextHop (fun _ => Oid.null) [.type .mpls, .ip (.ip4 0x0A000001),
    .routerInterfaceId Chip.portRif, .labelstack labels])

/-- Two next hops with labels, and the first of them removed. -/
theorem tunnelIds_of_run_small : ∃ db : NextHopDb Chip.small,
    TunnelIdsOk db ∧ db.tunnelId.used = {2} := by
  have r₀ : Reachable NextHopDb.NoHops TunnelSafe hopStep NextHopDb.withNeighbor :=
    .start ⟨rfl, rfl⟩
  have r₁ := r₀.next (createMplsNextHop [100]) (.inr (by decide)) rfl
  have r₂ := r₁.next (createMplsNextHop [200, 300]) (.inr (by decide)) rfl
  have r₃ := r₂.next ((.ok, .removeNextHop (nextHopOid Chip.small .mpls 4)) :
    Sdk × HopCall Chip.small) (by intro nh hnh; cases hnh; decide) rfl
  exact ⟨_, tunnelIds_of_run r₃, by decide⟩

/-- An MPLS next hop without labels takes its tunnel id with it. -/
theorem tunnelIds_not_every_run : ¬ ∀ (ch : Chip) (db : NextHopDb ch),
      Reachable NextHopDb.NoHops (fun _ a => a.1.Succeeds) hopStep db → TunnelIdsOk db := by
  intro h
  have r₀ : Reachable NextHopDb.NoHops (fun _ a => a.1.Succeeds) hopStep
      NextHopDb.withNeighbor := .start ⟨rfl, rfl⟩
  have r₁ := r₀.next (createMplsNextHop []) Sdk.ok_succeeds rfl
  have r₂ := r₁.next ((.ok, .removeNextHop (nextHopOid Chip.small .mpls 4)) :
    Sdk × HopCall Chip.small) Sdk.ok_succeeds rfl
  obtain ⟨oid, nh, hnh, _⟩ := ((h _ _ r₂).ids 1).mp (by decide)
  cases hnh

end CtcSai
