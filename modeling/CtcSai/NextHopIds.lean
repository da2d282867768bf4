/-
# `NextHopIds` — no id of a next hop is lost

The next-hop API under an SDK that may fail: for each call, when it loses
neither the next-hop id nor the tunnel id that it takes, or that the next hop
it removes has (`CreateHopSafe`, `RemoveHopSafe`), and what it then does to
the pools (`HopStep` for a next hop with an id of its own, `Rewrote` for the
neighbor's record of one of type IP).
-/
import CtcSai.MplsTunnel
import CtcSai.NeighborIds

namespace CtcSai

open Function IdPool KeyedTable Ownership

variable {ch : Chip} {sdk : Sdk}

/-! ## When no id is lost -/

/-- The object of a next hop of type IP can be stored, or the record lets go
of it again. -/
def CreateIpSafe (sdk : Sdk) (db : NextHopDb ch) (nh : NextHop) : Prop :=
  AllocIpucSafe sdk db.nbr nh.rifId nh.ipAddress ∧
    ∀ nhId nbr, neighborAllocIpucNexthop sdk db.nbr nh.rifId nh.ipAddress =
        (.success, nhId, nbr) →
      nextHopAddObject sdk { db with nbr := nbr } (nextHopOid ch .ip nhId) nh = none →
      FreeIpucSafe sdk nbr nh.rifId nh.ipAddress nhId

/-- An MPLS next hop without a next level has labels, or its object can be
stored. -/
def CreateMplsSafe (sdk : Sdk) (db : NextHopDb ch) (attrs : List NextHopAttr) : Prop :=
  Storable sdk db .mpls ∧ sdk.mem .neighborNhNode = true ∨ noNextLevel attrs = false ∨
    findAttribInList NextHopAttr.labelstack? attrs ≠ some []

/-- `create` loses no id, and no next hop in a tunnel gets a tunnel id. -/
def CreateHopSafe (raw : NextHopAttr → Oid) (sdk : Sdk) (db : NextHopDb ch)
    (attrs : List NextHopAttr) : Prop :=
  nextHopCreateAttrCheck raw db attrs = .success → sdk.mem .nextHop = true →
    match findAttribInList NextHopAttr.type? attrs with
    | some .ip => CreateIpSafe sdk db (nextHopFill attrs)
    | some .mpls => (mplsTunnel db attrs).2 = false ∧ CreateMplsSafe sdk db attrs
    | some .tunnelEncap => EncapFound raw db attrs ∧ (noNextLevel attrs = false ∨
        ∀ t, encapTunnel raw db attrs = some t → t.tunnelType ≠ .mplsL2)
    | _ => True

/-- `remove` loses no id: the record of an IP next hop lets go of it, and a
tunnel id is freed. -/
def RemoveHopSafe (sdk : Sdk) (db : NextHopDb ch) (oid : Oid) : Prop :=
  ∀ nh, db.nextHops.lookup oid = some nh →
    if oid.subType = NextHopType.ip.bits then
      FreeIpucSafe sdk db.nbr nh.rifId nh.ipAddress oid.value.toNat
    else nh.ctcMplsTunnelId ≠ 0 → removeFreesTunnel db oid nh = true

/-! ## What stays -/

/-- The records of neighbors have the ids they had. -/
structure NbrSame (nbr nbr' : NeighborDb ch) : Prop where
  nhId : ∀ k, idOf Neighbor.nhId (nbr'.record k) = idOf Neighbor.nhId (nbr.record k)
  arpId : ∀ k, idOf Neighbor.arpId (nbr'.record k) = idOf Neighbor.arpId (nbr.record k)
  placed : AllPlaced nbr → AllPlaced nbr'
  arp : nbr'.arp.used = nbr.arp.used

theorem NbrSame.refl (nbr : NeighborDb ch) : NbrSame nbr nbr := ⟨fun _ => rfl, fun _ => rfl, id, rfl⟩

theorem NbrSame.trans {a b c : NeighborDb ch} (h : NbrSame a b) (h' : NbrSame b c) :
    NbrSame a c where
  nhId k := (h'.nhId k).trans (h.nhId k)
  arpId k := (h'.arpId k).trans (h.arpId k)
  placed hp := h'.placed (h.placed hp)
  arp := h'.arp.trans h.arp

theorem NbrSame.ofNexthop (nbr : NeighborDb ch) (pool : Pool ch.nexthop) :
    NbrSame nbr { nbr with nexthop := pool } := ⟨fun _ => rfl, fun _ => rfl, id, rfl⟩

/-- A record of which only the list of next hops is written. -/
theorem nbrSame_nhList {nbr : NeighborDb ch} {k : NeighborKey} {p : Neighbor}
    (hl : nbr.table.lookup k = some p) (l : List Oid) :
    NbrSame nbr { nbr with table := nbr.table.insert k { p with nhList := l } } := by
  have hrec : ∀ a, NeighborDb.record { nbr with
      table := nbr.table.insert k { p with nhList := l } } a =
        if a = k then some { p with nhList := l } else nbr.record a :=
    fun a => Table.lookup_insert_ite _ _ _ _
  have hold : nbr.record k = some p := hl
  refine ⟨fun a => ?_, fun a => ?_, fun hp a => ?_, rfl⟩
  · rw [hrec]
    split
    · next ha => rw [ha, hold]; rfl
    · rfl
  · rw [hrec]
    split
    · next ha => rw [ha, hold]; rfl
    · rfl
  · rw [hrec]
    split
    · next ha =>
      intro q hq
      cases hq
      rw [ha]
      exact hp k p hold
    · exact hp a

theorem neighborBindingNextHop_nbr (nbr : NeighborDb ch) (rif : Oid) (ip : IpAddress) (oid : Oid) :
    NbrSame nbr (neighborBindingNextHop sdk nbr rif ip oid).2 ∧
      (neighborBindingNextHop sdk nbr rif ip oid).2.nexthop = nbr.nexthop := by
  unfold neighborBindingNextHop
  dsimp only
  split
  · exact ⟨.refl nbr, rfl⟩
  split
  · exact ⟨.refl nbr, rfl⟩
  next p hl =>
  split
  · exact ⟨.refl nbr, rfl⟩
  · split
    · exact ⟨nbrSame_nhList hl _, rfl⟩
    · exact ⟨nbrSame_nhList hl _, rfl⟩

theorem neighborUnbindingNextHop_nbr (nbr : NeighborDb ch) (rif : Oid) (ip : IpAddress)
    (oid : Oid) : NbrSame nbr (neighborUnbindingNextHop nbr rif ip oid).2 ∧
      (neighborUnbindingNextHop nbr rif ip oid).2.nexthop = nbr.nexthop := by
  unfold neighborUnbindingNextHop
  dsimp only
  split
  · exact ⟨.refl nbr, rfl⟩
  · split
    · exact ⟨.refl nbr, rfl⟩
    · next p hl => exact ⟨nbrSame_nhList hl _, rfl⟩

/-! ## A call as one step -/

/-- A call on a next hop with an id of its own: nothing, or the next hop came
or went with its ids. -/
inductive HopStep (db db' : NextHopDb ch) : Prop where
  | same : NbrSame db.nbr db'.nbr → Table.get db'.nextHops = Table.get db.nextHops →
      db'.nbr.nexthop.used = db.nbr.nexthop.used → db'.tunnelId.used = db.tunnelId.used →
      HopStep db db'
  | came (oid : Oid) (nh : NextHop) : NbrSame db.nbr db'.nbr →
      db.nextHops.lookup oid = none →
      Table.get db'.nextHops = update (Table.get db.nextHops) oid (some nh) →
      oid.subType ≠ NextHopType.ip.bits →
      (nh.ctcMplsTunnelId ≠ 0 → oid.subType = NextHopType.mpls.bits) →
      oid.value.toNat ∉ db.nbr.nexthop.used →
      db'.nbr.nexthop.used = insert oid.value.toNat db.nbr.nexthop.used →
      Moves 0 nh.ctcMplsTunnelId db.tunnelId.used db'.tunnelId.used → HopStep db db'
  | went (oid : Oid) (nh : NextHop) : NbrSame db.nbr db'.nbr →
      db.nextHops.lookup oid = some nh →
      Table.get db'.nextHops = update (Table.get db.nextHops) oid none →
      oid.subType ≠ NextHopType.ip.bits →
      db'.nbr.nexthop.used = db.nbr.nexthop.used.erase oid.value.toNat →
      Moves nh.ctcMplsTunnelId 0 db.tunnelId.used db'.tunnelId.used → HopStep db db'

theorem HopStep.refl (db : NextHopDb ch) : HopStep db db := .same (.refl _) rfl rfl rfl

theorem value_nextHopOid {t : NextHopType} {nhId : Nat} (h : nhId < 2 ^ 32) :
    (nextHopOid ch t nhId).value.toNat = nhId :=
  (BitVec.toNat_ofNat _ _).trans (Nat.mod_eq_of_lt h)

theorem subType_nextHopOid_bits (t : NextHopType) (nhId : Nat) :
    (nextHopOid ch t nhId).subType = t.bits :=
  setWidth_back (v := 8) (by decide) _

section Calls

variable {db : NextHopDb ch} {attrs : List NextHopAttr}

/-- The creation of a next hop with an id of its own. -/
theorem createNextHop_step {raw : NextHopAttr → Oid} (hsafe : CreateHopSafe raw sdk db attrs)
    (hip : findAttribInList NextHopAttr.type? attrs ≠ some .ip) {r : CreateResult ch}
    (h : createNextHop raw sdk db attrs = some r) : HopStep db r.2.2 := by
  cases createNextHop_end h with
  | refused | full => exact .refl db
  | ip _ ht => exact absurd ht hip
  | locked hadm ht htype hal hwrong =>
    have hs := hsafe hadm.1 hadm.2
    rw [ht] at hs
    unfold WrongTunnel at hwrong
    rw [ht] at hwrong
    rcases htype with rfl | rfl
    · rw [hs.1] at hwrong; cases hwrong
    · exact absurd hs.1 hwrong
  | @made t nhId pool _ hadm ht htype hal _ hstack hmade =>
    obtain ⟨hl, h0⟩ := hopFilled_blank raw db attrs
    obtain ⟨hf, _, _, hu, _⟩ := Pool.alloc_some hal
    have hs := hsafe hadm.1 hadm.2
    rw [ht] at hs
    have hnest : t = .tunnelEncap → ∀ labels, stackOf raw db attrs = some labels →
        (hopFilled raw db attrs).ownsTunnel = false := by
      rintro rfl labels hlab
      have hb := (stackOf_some hlab).1
      rw [hopFilled_ownsTunnel hb]
      refine hs.2.resolve_right fun hnl2 => ?_
      rw [buildsMpls, ht] at hb
      obtain ⟨tn, htn, hl2⟩ := (Option.any_eq_true _ _).mp hb
      exact absurd (of_decide_eq_true hl2) (hnl2 tn htn)
    -- an own tunnel goes back, unless the object can be stored and bound
    have hok : ¬ (ObjectFree sdk db (nextHopOid ch t nhId) ∧
          (t = .mpls → sdk.mem .neighborNhNode = true)) →
        ∀ labels, stackOf raw db attrs = some labels →
          (hopFilled raw db attrs).ownsTunnel = true → t = .mpls ∧ labels ≠ [] := by
      intro hno labels hlab hown
      rcases htype with rfl | rfl
      · obtain ⟨hb, hgiven⟩ := stackOf_some hlab
        rw [hopFilled_ownsTunnel hb] at hown
        refine ⟨rfl, ?_⟩
        rcases hs.2 with ⟨hst, hnode⟩ | hnest | hne
        · exact absurd ⟨⟨hst.2 nhId _ hal, hst.1⟩, fun _ => hnode⟩ hno
        · rw [hown] at hnest; cases hnest
        · rintro rfl
          exact hne hgiven
      · rw [hnest rfl labels hlab] at hown
        cases hown
    have hundo : ∀ {status nh' m db' nbr}, hopAdd sdk (withNexthop db pool) nhId
          (stackOf raw db attrs) (hopFilled raw db attrs) = some (status, nh', m) →
        NbrSame db.nbr nbr → nbr.nexthop = pool →
        HopKept (freeNexthop { withNexthop db pool with nbr := nbr } nhId) db' →
        db'.tunnelId = undoTunnelId t nh' m.tunnelId →
        (status = .success → ∀ labels, stackOf raw db attrs = some labels →
          (hopFilled raw db attrs).ownsTunnel = true → t = .mpls ∧ labels ≠ []) →
        HopStep db db' := by
      intro status nh' m db' nbr hadd hnbr hpool hk hid hback
      refine .same ?_ (by rw [hk.nextHops]; rfl) ?_ ?_
      · rw [hk.nbr]
        exact hnbr.trans (.ofNexthop _ _)
      · rw [hk.nbr]
        show (nbr.nexthop.free nhId).used = _
        rw [hpool, Pool.used_free, hu, Finset.erase_insert hf]
      · rw [hid]
        exact ((hopAdd_added hl hadd).undo_used hl h0).mpr hback
    cases hmade with
    | refused hadd hne hk hid =>
      exact hundo hadd (.ofNexthop _ _) rfl hk hid fun hs => absurd hs hne
    | unstored hadd hfree hk hid =>
      exact hundo hadd (.ofNexthop _ _) rfl hk hid fun _ => hok fun hc => hfree hc.1
    | unbound hadd hfree htm ho hbind hne hk hid =>
      obtain ⟨hsame, hpool⟩ := @neighborBindingNextHop_nbr ch sdk (withNexthop db pool).nbr
        (hopFilled raw db attrs).rifId (hopFilled raw db attrs).ipAddress
        (nextHopOid ch t nhId)
      rw [hbind] at hsame hpool
      refine hundo hadd ((NbrSame.ofNexthop _ _).trans hsame) hpool hk hid fun _ => hok fun hc => ?_
      have hsome : (stackOf raw db attrs).isSome := by
        rw [hstack, buildsMpls, ht, htm]
      have hmem := (hopAdd_added hl hadd).unbound_mem hsome ho hbind hne
      rw [hc.2 htm] at hmem
      cases hmem
    | @stored nh' m db' nbr hadd hfree hbind hk hid =>
      have hadded := hopAdd_added hl hadd
      have hval : (nextHopOid ch t nhId).value.toNat = nhId :=
        value_nextHopOid (ch.nexthop_lt (hu ▸ Finset.mem_insert_self _ _))
      have hnbr : NbrSame db.nbr nbr ∧ nbr.nexthop = pool := by
        split at hbind
        · obtain ⟨hsame, hpool⟩ := @neighborBindingNextHop_nbr ch sdk (withNexthop db pool).nbr
            (hopFilled raw db attrs).rifId (hopFilled raw db attrs).ipAddress
            (nextHopOid ch t nhId)
          rw [hbind] at hsame hpool
          exact ⟨(NbrSame.ofNexthop _ _).trans hsame, hpool⟩
        · rw [hbind]
          exact ⟨.ofNexthop _ _, rfl⟩
      refine .came (nextHopOid ch t nhId) nh' ?_ hfree.1 ?_ ?_ (fun hne => ?_)
        (by rw [hval]; exact hf) ?_ ?_
      · rw [hk.nbr]
        exact hnbr.1
      · rw [hk.nextHops]
        exact Table.get_insert _ _ _
      · rw [subType_nextHopOid_bits]
        rcases htype with rfl | rfl <;> decide
      · obtain ⟨hown, labels, hlab⟩ := hadded.own_of_id h0 hne
        rcases htype with rfl | rfl
        · exact subType_nextHopOid_bits _ _
        · rw [hnest rfl labels hlab] at hown
          cases hown
      · rw [hk.nbr, hval]
        exact (congrArg Pool.used hnbr.2).trans hu
      · rw [hid]
        exact hadded.moves h0

theorem removeNextHop_step {oid : Oid} (hip : oid.subType ≠ NextHopType.ip.bits)
    (hsafe : RemoveHopSafe sdk db oid) {r : Status × NextHopDb ch}
    (h : removeNextHop sdk db oid = some r) : HopStep db r.2 := by
  rcases removeNextHop_ids h with ⟨_, he⟩ | ⟨nh, hnh, hrec, htun, hnbr⟩
  · rw [he]
    exact .refl db
  have hs := hsafe nh hnh
  rw [if_neg hip] at hs
  have hmoves : Moves nh.ctcMplsTunnelId 0 db.tunnelId.used r.2.tunnelId.used := by
    rw [htun]
    by_cases hfree : removeFreesTunnel db oid nh = true
    · rw [if_pos hfree]
      exact .give rfl rfl
    rw [if_neg hfree]
    have h0 : nh.ctcMplsTunnelId = 0 := by
      by_contra hne
      exact hfree (hs hne)
    rw [h0]
    exact .refl _ _
  have hget : Table.get r.2.nextHops = update (Table.get db.nextHops) oid none := by
    rw [hrec, Table.get_erase]
  obtain ⟨nbr, hold, hnew⟩ := hnbr hip
  have hsame : NbrSame db.nbr nbr ∧ nbr.nexthop = db.nbr.nexthop := by
    rcases hold with rfl | rfl
    · exact ⟨.refl _, rfl⟩
    · exact neighborUnbindingNextHop_nbr db.nbr nh.rifId nh.ipAddress oid
  refine .went oid nh ?_ hnh hget hip ?_ hmoves
  · rw [hnew]
    exact hsame.1.trans (.ofNexthop _ _)
  · rw [hnew]
    exact congrArg (fun p => (Pool.used p).erase _) hsame.2

end Calls

end CtcSai
