/-
# `NeighborRecreate` — a neighbor at an address that had one before

Removing a neighbor whose record a next hop still uses leaves the record in the
table, and a later `create` takes it up again.  The module compares that
`create` with the same one at an address without a record: what
`get_neighbor_attribute` answers afterwards, and whether the host route is in
hardware, which is followed here as a set of addresses.
-/
import CtcSai.NeighborIds

namespace CtcSai

open Function Runs

variable {ch : Chip} {sdk sdk' : Sdk} {rif : Oid}

/-! ## Reading attributes -/

/-- The attributes of `neighbor_attr_fn_entries`. -/
inductive NeighborAttrId where
  | dstMacAddress | packetAction | userTrapId | noHostRoute | metaData | counterId
deriving DecidableEq, Repr

def NeighborAttrId.gettable : NeighborAttrId → Bool
  | .dstMacAddress | .packetAction | .noHostRoute => true
  | .userTrapId | .metaData | .counterId => false

/-- `_ctc_sai_neighbor_get_attr` on the record it found. -/
def neighborRecordAttr (p : Neighbor) : NeighborAttrId → Except Status NeighborAttr
  | .dstMacAddress => .ok (.dstMacAddress p.destMac)
  | .packetAction => .ok (.packetAction p.action)
  | .noHostRoute => .ok (.noHostRoute p.noHostRoute)
  | .userTrapId | .metaData | .counterId => .error .notSupported

/-- `_ctc_sai_neighbor_get_attr`. -/
def neighborGetAttr (db : NeighborDb ch) (rif : Oid) (ip : IpAddress) (id : NeighborAttrId) :
    Except Status NeighborAttr :=
  match db.table.lookup (neighborKey rif ip) with
  | none => .error .itemNotFound
  | some p => if !p.neighborExists then .error .itemNotFound else neighborRecordAttr p id

/-- `ctc_sai_neighbor_get_neighbor_attr` at the attribute of index `loop`. -/
def getNeighborAttr (db : NeighborDb ch) (rif : Oid) (ip : IpAddress) (loop : Nat)
    (id : NeighborAttrId) : Except Status NeighborAttr :=
  if id.gettable then neighborGetAttr db rif ip id else .error (.invalidAttribute loop)

/-! ## Host routes -/

/-- The neighbor database, and the neighbors whose host route is in hardware. -/
structure RoutedDb (ch : Chip) where
  db : NeighborDb ch
  routes : NeighborKey → Bool

/-- `create` comes to add the host route, and the SDK takes it. -/
def createAddsRoute (sdk : Sdk) (db : NeighborDb ch) (rif : Oid) (ip : IpAddress)
    (attrs : List NeighborAttr) : Bool :=
  match neighborBuildDb sdk db (neighborKey rif ip) false with
  | (.success, p, db) =>
    match findAttribInList NeighborAttr.dstMacAddress? attrs with
    | none => false
    | some mac =>
      match neighborAddNexthop sdk rif (db.ctx (createNeighborFill p mac attrs)) ip.addrFamily with
      | (.success, w) =>
        let p := { w.p with noHostRoute := createNoHostRoute attrs w.p }
        !p.noHostRoute && decide (neighborAddHostRoute ch sdk rif ip p = .success)
      | _ => false
  | _ => false

/-- `remove` comes to take the host route out, and the SDK does it. -/
def removeTakesRoute (sdk : Sdk) (db : NeighborDb ch) (rif : Oid) (ip : IpAddress) : Bool :=
  match db.table.lookup (neighborKey rif ip) with
  | none => false
  | some p => p.neighborExists && !p.noHostRoute &&
      decide (neighborRemoveHostRoute ch sdk rif ip p = .success)

namespace RoutedDb

/-- `ctc_sai_neighbor_create_neighbor` with its effect on the host routes. -/
def create (sdk : Sdk) (s : RoutedDb ch) (rif : Oid) (ip : IpAddress) (attrs : List NeighborAttr) :
    Status × RoutedDb ch :=
  let r := createNeighbor sdk s.db rif ip attrs
  (r.1, ⟨r.2, if createAddsRoute sdk s.db rif ip attrs
    then update s.routes (neighborKey rif ip) true else s.routes⟩)

/-- `ctc_sai_neighbor_remove_neighbor` with its effect on the host routes. -/
def remove (sdk : Sdk) (s : RoutedDb ch) (rif : Oid) (ip : IpAddress) : Status × RoutedDb ch :=
  let r := removeNeighbor sdk s.db rif ip
  (r.1, ⟨r.2, if removeTakesRoute sdk s.db rif ip
    then update s.routes (neighborKey rif ip) false else s.routes⟩)

/-- The same answers to every read, and the same host route. -/
def SameNeighbor (s s' : RoutedDb ch) (rif : Oid) (ip : IpAddress) : Prop :=
  (∀ loop id, getNeighborAttr s.db rif ip loop id = getNeighborAttr s'.db rif ip loop id) ∧
    s.routes (neighborKey rif ip) = s'.routes (neighborKey rif ip)

/-- Nothing is at the address. -/
structure Fresh (s : RoutedDb ch) (rif : Oid) (ip : IpAddress) : Prop where
  record : s.db.record (neighborKey rif ip) = none
  route : s.routes (neighborKey rif ip) = false

/-- An id is there for the record on its interface, or one is free. -/
structure IdsAtHand (rif : Oid) (w : NeighborCtx ch) : Prop where
  nh : w.p.nhId = 0 → w.nexthop.alloc ≠ none
  arp : isBridgeRif rif = false → w.p.arpId = 0 → w.arp.alloc ≠ none

/-- A record without a neighbor is at the address, and its host route is out. -/
structure LeftBehind (s : RoutedDb ch) (rif : Oid) (ip : IpAddress) (p : Neighbor) : Prop where
  record : s.db.record (neighborKey rif ip) = some p
  absent : p.neighborExists = false
  ids : IdsAtHand rif (s.db.ctx p)
  route : s.routes (neighborKey rif ip) = false

end RoutedDb

/-! ## What adding the next hop leaves alone -/

/-- What a reader of the record can see. -/
def Neighbor.view (p : Neighbor) : Mac × PacketAction × Bool × Bool :=
  (p.destMac, p.action, p.noHostRoute, p.neighborExists)

theorem neighborAllocArp_view {w w' : NeighborCtx ch} {isAdd : Bool}
    (h : neighborAllocArp w = some (isAdd, w')) : w'.p.view = w.p.view := by
  rw [neighborAllocArp] at h
  split at h
  · obtain ⟨q, -, he⟩ := Option.map_eq_some_iff.mp h
    cases he
    rfl
  · cases h
    rfl

variable (sdk rif) in
theorem neighborAddArpEntry_view (w : NeighborCtx ch) :
    (neighborAddArpEntry sdk rif w).2.2.p.view = w.p.view := by
  rw [neighborAddArpEntry]
  cases hal : neighborAllocArp w with
  | none => rfl
  | some r =>
    obtain ⟨isAdd, w₁⟩ := r
    have hview := neighborAllocArp_view hal
    have herr : ∀ status (w₂ : NeighborCtx ch), w₂.p.view = w.p.view →
        (addArpError1 isAdd status w₂).2.2.p.view = w.p.view := by
      intro status w₂ h
      rw [addArpError1]
      cases isAdd <;> exact h
    dsimp only
    split
    · exact herr _ _ hview
    split
    · exact herr _ _ hview
    generalize mappingErrorCtc (sdk.rc _) = status
    split
    · exact hview
    · exact herr _ _ hview

theorem NexthopAdd.view {w : NeighborCtx ch} {r : Status × NeighborCtx ch} {lost : Bool}
    (h : NexthopAdd w lost r) : r.2.p.view = w.p.view := by
  cases h <;> rfl

variable (sdk) in
theorem neighborRemoveArpEntry_view (w : NeighborCtx ch) :
    (neighborRemoveArpEntry sdk w).2.p.view = w.p.view := by
  rw [neighborRemoveArpEntry]
  dsimp only
  split <;> rfl

variable (sdk rif) in
/-- `_ctc_sai_neighbor_add_nexthop` writes ids and the port only. -/
theorem neighborAddNexthop_view (w : NeighborCtx ch) (f : IpFamily) :
    (neighborAddNexthop sdk rif w f).2.p.view = w.p.view := by
  rw [neighborAddNexthop]
  cases ch.rif rif with
  | none => rfl
  | some ri =>
    dsimp only
    split
    · exact (neighborAddMiscNexthop_cases sdk ri w f).view
    have harp := neighborAddArpEntry_view sdk rif w
    generalize neighborAddArpEntry sdk rif w = r at harp ⊢
    obtain ⟨status, isAdd, w₁⟩ := r
    split
    · next heq =>
      cases heq
      have hip := (neighborAddIpucNexthop_cases sdk ri w₁).view.trans harp
      generalize neighborAddIpucNexthop sdk ri w₁ = r₂ at hip ⊢
      obtain ⟨status₂, w₂⟩ := r₂
      split
      · next heq => cases heq; exact hip
      next heq =>
      cases heq
      dsimp only
      split
      · exact (neighborRemoveArpEntry_view sdk w₂).trans hip
      · exact hip
    · next heq => cases heq; exact harp

namespace RoutedDb

/-- With an SDK that succeeds and the ids at hand, the next hop of a record comes in
under an action the interface supports. -/
theorem IdsAtHand.added (hs : sdk.Succeeds) (hr : (ch.rif rif).isSome) {w : NeighborCtx ch}
    (h : IdsAtHand rif w) (hp : programmable rif w.p.action) (f : IpFamily) :
    (neighborAddNexthop sdk rif w f).1 = .success := by
  obtain ⟨ri, hri⟩ := Option.isSome_iff_exists.mp hr
  rw [neighborAddNexthop, hri]
  dsimp only
  split
  · rw [neighborAddMiscNexthop]
    split
    · next h0 =>
      split
      · next hnone => exact absurd hnone (h.nh h0)
      · rw [if_pos (hs.status _)]
    · exact hs.status _
  next hb =>
  have hflags : (arpActionFlags w.p.action).isSome := by
    rw [programmable, Bool.or_eq_true] at hp
    exact hp.resolve_left hb
  have harp : ∃ isAdd w₁, neighborAllocArp w = some (isAdd, w₁) := by
    rw [neighborAllocArp]
    split
    · next h0 =>
      obtain ⟨r, hr⟩ := Option.ne_none_iff_exists'.mp (h.arp (by simpa using hb) h0)
      exact ⟨true, _, by rw [hr]; rfl⟩
    · exact ⟨false, w, rfl⟩
  obtain ⟨isAdd, w₁, hal⟩ := harp
  obtain ⟨flags, hfl⟩ := Option.isSome_iff_exists.mp hflags
  have hact : arpActionFlags w₁.p.action = some flags := by
    rw [← hfl]
    exact congrArg (fun v => arpActionFlags v.2.1) (neighborAllocArp_view hal)
  have hstep := (neighborAllocArp_step hal).1
  have hadd : neighborAddArpEntry sdk rif w = (.success, false, { w₁ with p := { w₁.p with
      gport := (nexthopMacParam sdk rif ri w₁.p flags).gport } }) := by
    rw [neighborAddArpEntry, hal, hri]
    dsimp only
    rw [hact]
    dsimp only
    rw [if_pos (hs.status _)]
  have hip : (neighborAddIpucNexthop sdk ri { w₁ with p := { w₁.p with
      gport := (nexthopMacParam sdk rif ri w₁.p flags).gport } }).1 = .success := by
    rw [neighborAddIpucNexthop]
    split
    · next h0 =>
      split
      · next hnone =>
        rw [hstep.nexthop] at hnone
        exact absurd hnone (h.nh (hstep.nhId ▸ h0))
      · rw [if_pos (hs.status _)]
    · exact hs.status _
  rw [hadd]
  dsimp only
  split
  · rfl
  · next hne heq => exact absurd ((congrArg Prod.fst heq).symm.trans hip) hne

/-! ## Both creations -/

section Create

variable {ip : IpAddress} {attrs : List NeighborAttr}

theorem neighborAddHostRoute_congr {p q : Neighbor} (h : q.nhId = p.nhId) :
    neighborAddHostRoute ch sdk rif ip q = neighborAddHostRoute ch sdk rif ip p := by
  rw [neighborAddHostRoute, neighborAddHostRoute]
  simp only [hostRouteParam, h]

/-- `create` once the next hop is there, when the host route is not wanted or comes in. -/
theorem create_added {s : RoutedDb ch} {base : Neighbor} {m : NeighborDb ch} {mac : Mac}
    {w : NeighborCtx ch}
    (hbuild : neighborBuildDb sdk s.db (neighborKey rif ip) false = (.success, base, m))
    (hmac : findAttribInList NeighborAttr.dstMacAddress? attrs = some mac)
    (hadd : neighborAddNexthop sdk rif (m.ctx (createNeighborFill base mac attrs)) ip.addrFamily =
      (.success, w))
    (hroute : createNoHostRoute attrs base = true ∨
      neighborAddHostRoute ch sdk rif ip w.p = .success) :
    ((s.create sdk rif ip attrs).2.db.record (neighborKey rif ip)).map Neighbor.view =
        some (mac, createAction attrs, createNoHostRoute attrs base, base.neighborExists) ∧
      (s.create sdk rif ip attrs).2.routes (neighborKey rif ip) =
        (!createNoHostRoute attrs base || s.routes (neighborKey rif ip)) := by
  have hview : w.p.view = (mac, createAction attrs, base.noHostRoute, base.neighborExists) := by
    have hkeep := neighborAddNexthop_view sdk rif (m.ctx (createNeighborFill base mac attrs))
      ip.addrFamily
    rw [hadd] at hkeep
    exact hkeep
  have hflag : createNoHostRoute attrs w.p = createNoHostRoute attrs base := by
    have h : w.p.noHostRoute = base.noHostRoute := congrArg (fun v => v.2.2.1) hview
    rw [createNoHostRoute, createNoHostRoute, h]
  have hsame : neighborAddHostRoute ch sdk rif ip
      { w.p with noHostRoute := createNoHostRoute attrs w.p } =
        neighborAddHostRoute ch sdk rif ip w.p := neighborAddHostRoute_congr rfl
  have hok : createNoHostRoute attrs w.p = false →
      neighborAddHostRoute ch sdk rif ip w.p = .success := by
    rw [hflag]
    intro h
    exact hroute.resolve_left (by rw [h]; decide)
  constructor
  · have hstays : (createNeighborFinish sdk m rif ip attrs w).2.record (neighborKey rif ip) =
        some { w.p with
          noHostRoute := createNoHostRoute attrs w.p, refCnt := w.p.refCnt + 1 } := by
      rw [createNeighborFinish]
      rw [if_neg]
      · exact lookup_put m (neighborKey rif ip) { w with p := { w.p with
          noHostRoute := createNoHostRoute attrs w.p, refCnt := w.p.refCnt + 1 } }
      · rintro ⟨hno, hne⟩
        rw [createHostRoute, if_neg (by rw [hno]; exact nofun)] at hne
        exact hne (hok hno)
    have hcreate : createNeighbor sdk s.db rif ip attrs =
        createNeighborFinish sdk m rif ip attrs w := by
      rw [createNeighbor, hbuild]
      rw [hmac]
      dsimp only
      rw [hadd]
    show ((createNeighbor sdk s.db rif ip attrs).2.record _).map _ = _
    rw [hcreate, hstays, ← hflag]
    exact congrArg (fun v : Mac × PacketAction × Bool × Bool =>
      some (v.1, v.2.1, createNoHostRoute attrs w.p, v.2.2.2)) hview
  · have hadds : createAddsRoute sdk s.db rif ip attrs = !createNoHostRoute attrs base := by
      rw [createAddsRoute, hbuild]
      rw [hmac]
      dsimp only
      rw [hadd]
      dsimp only
      rw [hsame, ← hflag]
      cases hno : createNoHostRoute attrs w.p with
      | true => rfl
      | false =>
        rw [hok hno]
        rfl
    show (if createAddsRoute sdk s.db rif ip attrs
      then update s.routes (neighborKey rif ip) true else s.routes) _ = _
    rw [hadds]
    cases createNoHostRoute attrs base with
    | true => rfl
    | false => exact update_self ..

theorem create_success {s : RoutedDb ch} (hfresh : s.Fresh rif ip)
    (hok : (s.create sdk rif ip attrs).1 = .success) :
    ∃ m mac w,
      neighborBuildDb sdk s.db (neighborKey rif ip) false = (.success, Neighbor.new false, m) ∧
      findAttribInList NeighborAttr.dstMacAddress? attrs = some mac ∧
      neighborAddNexthop sdk rif (m.ctx (createNeighborFill (Neighbor.new false) mac attrs))
        ip.addrFamily = (.success, w) ∧
      (createNoHostRoute attrs (Neighbor.new false) = true ∨
        neighborAddHostRoute ch sdk rif ip w.p = .success) := by
  have hcreate : (createNeighbor sdk s.db rif ip attrs).1 = .success := hok
  rcases neighborBuildDb_create_any sdk s.db (neighborKey rif ip) with ⟨st, q, hne, he⟩ | ⟨-, he⟩
  · rw [createNeighbor, he] at hcreate
    split at hcreate
    · next heq => exact absurd (congrArg Prod.fst heq) hne
    · next heq => exact absurd ((congrArg Prod.fst heq).trans hcreate) hne
  rw [hfresh.record] at he
  rw [createNeighbor, he] at hcreate
  dsimp only [createBase] at he hcreate
  cases hmac : findAttribInList NeighborAttr.dstMacAddress? attrs with
  | none => rw [hmac] at hcreate; cases hcreate
  | some mac =>
    rw [hmac] at hcreate
    dsimp only at hcreate
    have hview := neighborAddNexthop_view sdk rif (NeighborDb.ctx (s.db.put (neighborKey rif ip)
      (s.db.ctx (Neighbor.new false))) (createNeighborFill (Neighbor.new false) mac attrs))
      ip.addrFamily
    split at hcreate
    · next w heq =>
      rw [heq] at hview
      have hno : w.p.noHostRoute = false := congrArg (fun v => v.2.2.1) hview
      refine ⟨_, mac, w, he, rfl, heq, ?_⟩
      rw [createNeighborFinish] at hcreate
      cases hflag : createNoHostRoute attrs (Neighbor.new false) with
      | true => exact .inl rfl
      | false =>
        right
        have hflag' : createNoHostRoute attrs w.p = false := by
          rw [← hflag, createNoHostRoute, hno]
          rfl
        have hstatus : createHostRoute ch sdk rif ip attrs { w.p with
            noHostRoute := createNoHostRoute attrs w.p } =
              neighborAddHostRoute ch sdk rif ip w.p := by
          rw [createHostRoute, if_neg (by rw [hflag']; exact nofun)]
          exact neighborAddHostRoute_congr rfl
        rw [hstatus] at hcreate
        split at hcreate
        · exact hcreate
        · exact hcreate
    · next hne _ => exact absurd hcreate hne

theorem neighborGetAttr_view {db : NeighborDb ch} {mac : Mac} {action : PacketAction} {b : Bool}
    (h : (db.record (neighborKey rif ip)).map Neighbor.view = some (mac, action, b, true))
    (id : NeighborAttrId) : neighborGetAttr db rif ip id = match id with
      | .dstMacAddress => .ok (.dstMacAddress mac)
      | .packetAction => .ok (.packetAction action)
      | .noHostRoute => .ok (.noHostRoute b)
      | _ => .error .notSupported := by
  obtain ⟨p, hp, hview⟩ := Option.map_eq_some_iff.mp h
  rw [NeighborDb.record_eq] at hp
  simp only [Neighbor.view, Prod.mk.injEq] at hview
  obtain ⟨rfl, rfl, rfl, hex⟩ := hview
  rw [neighborGetAttr, hp]
  dsimp only
  rw [hex]
  cases id <;> rfl

theorem sameNeighbor_iff {s s' : RoutedDb ch} {mac : Mac} {action : PacketAction} {b b' : Bool}
    (h : (s.db.record (neighborKey rif ip)).map Neighbor.view = some (mac, action, b, true))
    (h' : (s'.db.record (neighborKey rif ip)).map Neighbor.view = some (mac, action, b', true))
    (hr : s.routes (neighborKey rif ip) = !b) (hr' : s'.routes (neighborKey rif ip) = !b') :
    SameNeighbor s s' rif ip ↔ b = b' := by
  constructor
  · rintro ⟨-, hsame⟩
    rw [hr, hr'] at hsame
    exact Bool.not_inj hsame
  · rintro rfl
    refine ⟨fun loop id => ?_, hr.trans hr'.symm⟩
    rw [getNeighborAttr, getNeighborAttr, neighborGetAttr_view h, neighborGetAttr_view h']

/-- A neighbor comes out the same at an address with a record left behind and at one without,
exactly when NO_HOST_ROUTE is given or the record left behind has a host route. -/
theorem create_same_iff {s s' : RoutedDb ch} {p : Neighbor} (hfresh : s.Fresh rif ip)
    (hleft : s'.LeftBehind rif ip p) (hs : sdk'.Succeeds)
    (hok : (s.create sdk rif ip attrs).1 = .success) :
    SameNeighbor (s.create sdk rif ip attrs).2 (s'.create sdk' rif ip attrs).2 rif ip ↔
      (findAttribInList NeighborAttr.noHostRoute? attrs).isSome ∨ p.noHostRoute = false := by
  obtain ⟨m, mac, w, hbuild, hmac, hadd, hroute⟩ := create_success hfresh hok
  have hr : (ch.rif rif).isSome := by
    rw [Option.isSome_iff_ne_none]
    intro hnone
    rw [neighborAddNexthop, hnone] at hadd
    cases hadd
  have hact : programmable rif (createAction attrs) := programmable_of_success (by rw [hadd])
  -- the record left behind gets its next hop again, and its host route
  generalize hq : { p with neighborExists := true } = q
  have hbuild' : neighborBuildDb sdk' s'.db (neighborKey rif ip) false = (.success, q,
      { s'.db with table := s'.db.table.insert (neighborKey rif ip) q }) := by
    have hbase : createBase (some p) = q := hq
    rw [neighborBuildDb_create hs fun _ hp => by
      rw [hleft.record] at hp; cases hp; exact hleft.absent, hleft.record, hbase]
  generalize hm' : { s'.db with table := s'.db.table.insert (neighborKey rif ip) q } = m' at hbuild'
  have hids : IdsAtHand rif (m'.ctx (createNeighborFill q mac attrs)) := by
    rw [← hm', ← hq]
    exact ⟨hleft.ids.nh, hleft.ids.arp⟩
  have hok' := hids.added hs hr hact ip.addrFamily
  have hheld := (neighborAddNexthop_step sdk' rif (m'.ctx (createNeighborFill q mac attrs))
    ip.addrFamily).2 hok'
  cases hadd' : neighborAddNexthop sdk' rif (m'.ctx (createNeighborFill q mac attrs))
    ip.addrFamily with
  | mk st w' =>
    rw [hadd'] at hok' hheld
    cases hok'
    have hroute' : neighborAddHostRoute ch sdk' rif ip w'.p = .success := by
      obtain ⟨ri, hri⟩ := Option.isSome_iff_exists.mp hr
      rw [neighborAddHostRoute, if_neg hheld.nh, hri]
      exact hs.status _
    obtain ⟨hview, hin⟩ := create_added hbuild hmac hadd hroute
    obtain ⟨hview', hin'⟩ := create_added hbuild' hmac hadd' (.inr hroute')
    rw [hfresh.route, Bool.or_false] at hin
    rw [hleft.route, Bool.or_false] at hin'
    have hex : q.neighborExists = true := by rw [← hq]
    rw [hex] at hview'
    rw [sameNeighbor_iff hview hview' hin hin', createNoHostRoute, createNoHostRoute, ← hq]
    cases findAttribInList NeighborAttr.noHostRoute? attrs with
    | some b => exact iff_of_true rfl (.inl rfl)
    | none => exact ⟨fun h => .inr h.symm, fun h => (h.resolve_left nofun).symm⟩

end Create

/-- Removing a neighbor whose record a next hop still uses leaves such a record, with its
ids and the flag of the neighbor that was there. -/
theorem remove_leftBehind {s : RoutedDb ch} {ip : IpAddress} {p : Neighbor} (hs : sdk.Succeeds)
    (hr : (ch.rif rif).isSome) (hp : s.db.record (neighborKey rif ip) = some p)
    (hex : p.neighborExists = true) (href : 1 < p.refCnt) (hids : HasIds rif p)
    (hroute : s.routes (neighborKey rif ip) = !p.noHostRoute) :
    ∃ q, (s.remove sdk rif ip).2.LeftBehind rif ip q ∧ HasIds rif q ∧
      q.noHostRoute = p.noHostRoute := by
  obtain ⟨ri, hri⟩ := Option.isSome_iff_exists.mp hr
  have hlt : ¬ p.refCnt ≤ 1 := by omega
  -- the record that `remove` works on has the miss action of the interface
  generalize hmiss : ((ch.rif rif).map (·.neighborMissAction)).getD p.action = action
  obtain ⟨g, hg⟩ := @neighborAddNexthop_held ch sdk rif
    (s.db.ctx { p with action := action, destMac := 0 }) ⟨hids.nh, hids.arp⟩ ip.addrFamily
  generalize hq : ({ p with action := action, destMac := 0, gport := g } : Neighbor) = q
  have hrelease : neighborRelease sdk s.db rif ip p = s.db.ctx q := by
    rw [neighborRelease, if_neg hlt]
    rw [hmiss, hg, ← hq]
    rfl
  have hdrop := @neighborRemoveNeighbor_eq ch sdk rif s.db ip p hp hex
  rw [hrelease, neighborRemoveDb_keep (lookup_put s.db (neighborKey rif ip) (s.db.ctx q))
    (by rw [← hq]; exact hex) (by rw [← hq]; exact href)] at hdrop
  have hremove := removeNeighbor_success (by rw [hdrop])
  rw [hdrop] at hremove
  have hleft : HasIds rif { q with neighborExists := false, refCnt := q.refCnt - 1 } := by
    rw [← hq]
    exact ⟨hids.nh, hids.arp⟩
  refine ⟨_, ⟨?_, rfl, ?_, ?_⟩, hleft, ?_⟩
  · show (removeNeighbor sdk s.db rif ip).2.record _ = _
    rw [hremove]
    exact AList.lookup_insert _
  · exact ⟨fun h => absurd h hleft.nh, fun hb h => absurd h (hleft.arp hb)⟩
  · show (if removeTakesRoute sdk s.db rif ip
      then update s.routes (neighborKey rif ip) false else s.routes) _ = _
    rw [NeighborDb.record_eq] at hp
    have hgone : neighborRemoveHostRoute ch sdk rif ip p = .success := by
      rw [neighborRemoveHostRoute, hri]
      exact hs.status _
    have htakes : removeTakesRoute sdk s.db rif ip = !p.noHostRoute := by
      simp only [removeTakesRoute, hp, hex, hgone, decide_true, Bool.and_true, Bool.true_and]
    rw [htakes]
    cases hno : p.noHostRoute with
    | true => rw [hno] at hroute; exact hroute
    | false => exact update_self ..
  · rw [← hq]

/-! ## On the small chip -/

def empty (ch : Chip) : RoutedDb ch := ⟨.empty ch, fun _ => false⟩

/-- A record that one next hop keeps, without a host route. -/
def keptByNextHop (ip : IpAddress) : RoutedDb .small :=
  let p := { Neighbor.new true with refCnt := 1, nhId := 3, arpId := 1, noHostRoute := true }
  ⟨(NeighborDb.empty .small).put (neighborKey Chip.portRif ip) ((NeighborDb.empty .small).ctx p),
    fun _ => false⟩

/-- A record of a neighbor and a next hop. -/
def ofBoth : RoutedDb .small :=
  let p := { Neighbor.new true with neighborExists := true, refCnt := 2, nhId := 3, arpId := 1 }
  ⟨(NeighborDb.empty .small).put (neighborKey Chip.portRif (.ip4 1))
    ((NeighborDb.empty .small).ctx p), fun _ => true⟩

theorem remove_leftBehind_ofBoth : ∃ q, (ofBoth.remove .ok Chip.portRif (.ip4 1)).2.LeftBehind
    Chip.portRif (.ip4 1) q ∧ HasIds Chip.portRif q ∧ q.noHostRoute = false :=
  @remove_leftBehind .small .ok Chip.portRif ofBoth (.ip4 1) _ Sdk.ok_succeeds (by decide) rfl
    rfl (by decide) ⟨by decide, by decide⟩ rfl

/-- With NO_HOST_ROUTE in the list, the record left behind makes no difference. -/
theorem create_same_given : SameNeighbor ((empty .small).create .ok Chip.portRif (.ip4 0x0A000001)
      [.dstMacAddress 0x1, .noHostRoute false]).2
    ((keptByNextHop (.ip4 0x0A000001)).create .ok Chip.portRif (.ip4 0x0A000001)
      [.dstMacAddress 0x1, .noHostRoute false]).2
    Chip.portRif (.ip4 0x0A000001) :=
  (create_same_iff ⟨rfl, rfl⟩
    ⟨rfl, rfl, ⟨fun _ => by decide, fun _ _ => by decide⟩, rfl⟩ Sdk.ok_succeeds (by decide)).mpr
    (.inl rfl)

/-- A neighbor without a host route is removed while a next hop of type IP keeps its record:
the next `create` there reports ITEM_NOT_FOUND, and its neighbor has no host route, which the
same call at an address without a record gives it. -/
theorem create_not_same : ∃ s : SharedState Chip.small,
    Reachable SharedState.Init anyStep sharedStep s ∧
    let fresh := (empty .small).create .ok Chip.portRif (.ip4 0x0A000001) [.dstMacAddress 0x1]
    let again := ((remove .ok ⟨s.db.nbr, fun _ => false⟩ Chip.portRif (.ip4 0x0A000001)).2).create
      .ok Chip.portRif (.ip4 0x0A000001) [.dstMacAddress 0x1]
    fresh.1 = .success ∧ again.1 = .itemNotFound ∧
      getNeighborAttr fresh.2.db Chip.portRif (.ip4 0x0A000001) 0 .noHostRoute =
        .ok (.noHostRoute false) ∧
      getNeighborAttr again.2.db Chip.portRif (.ip4 0x0A000001) 0 .noHostRoute =
        .ok (.noHostRoute true) ∧
      fresh.2.routes (neighborKey Chip.portRif (.ip4 0x0A000001)) = true ∧
      again.2.routes (neighborKey Chip.portRif (.ip4 0x0A000001)) = false := by
  have r₀ : Reachable SharedState.Init anyStep sharedStep (.start Chip.small) :=
    .start ⟨rfl, rfl, rfl⟩
  have r₁ := r₀.next (createIpNextHop (.ip4 0x0A000001)) trivial rfl
  have r₂ := r₁.next (.ok, .createNeighbor Chip.portRif (.ip4 0x0A000001)
    [.dstMacAddress 0x1, .noHostRoute true]) trivial rfl
  exact ⟨_, r₂, by decide, by decide, rfl, rfl, by decide, by decide⟩

end RoutedDb

end CtcSai
