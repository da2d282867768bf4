/-
# `RouteCount` — the count of routes beside their table

The switch keeps a number of routes for each address family, apart from the
records: the calls of the API, single and bulk, move it after the record was
made or removed.  A call that fails leaves both alone, and a call that
succeeds moves both by one, so the number is the count of the records in every
state; it is one of 32 bits, and does not wrap while the memory holds fewer
records than that.
-/
import CtcSai.BulkApi
import CtcSai.RouteKeys

namespace CtcSai

open Function KeyedTable Runs Table

/-- The number of route records of a family. -/
def familyCount (f : IpFamily) (routes : Table RouteKey RouteInfo) : Nat :=
  Table.count (fun k _ => decide (k.ipVer = f)) routes

def recordCount (routes : Table RouteKey RouteInfo) : Nat :=
  Table.count (fun _ _ => true) routes

theorem familyCount_le (f : IpFamily) (routes : Table RouteKey RouteInfo) :
    familyCount f routes ≤ recordCount routes := by
  have hsplit := count_split (fun _ _ => true) (fun k _ => decide (k.ipVer = f)) routes
  simp only [Bool.true_and] at hsplit
  unfold familyCount recordCount
  omega

theorem mappingRouteKey_ipVer (m : MaskToLen) (e : RouteEntry) :
    (mappingRouteKey m e).ipVer = e.destination.addrFamily := by
  unfold mappingRouteKey
  cases e.destination.addrFamily <;> rfl

/-- `mem_malloc` gives a route record only while there are fewer than
`cap`. -/
def MemoryLeft {ch : Chip} (cap : Nat) (sdk : RouteSdk) (db : RouteDb ch) : Prop :=
  sdk.routeMem = true → recordCount db.routes < cap

section Chip

variable {ch : Chip} {m : MaskToLen} {sdk : RouteSdk} {cap : Nat}
variable {db db' : RouteDb ch}

/-! ## What a call does to the table -/

/-- A create makes the record or fails, and the count is not its business. -/
theorem routeCreate_routes (db : RouteDb ch) (e : RouteEntry) (attrs : List RouteAttr) :
    (routeCreate m sdk db e attrs).2.routeCnt = db.routeCnt ∧
    ((routeCreate m sdk db e attrs).1 ≠ .success ∧
        (routeCreate m sdk db e attrs).2.routes = db.routes ∨
      (routeCreate m sdk db e attrs).1 = .success ∧ sdk.routeMem = true ∧
        db.routes.lookup (mappingRouteKey m e) = none ∧
        ∃ r, (routeCreate m sdk db e attrs).2.routes =
          db.routes.insert (mappingRouteKey m e) r) := by
  unfold routeCreate
  split
  · exact ⟨rfl, .inl ⟨nofun, rfl⟩⟩
  next hnone =>
  dsimp only
  split
  · exact ⟨rfl, .inl ⟨nofun, rfl⟩⟩
  generalize mappingIpucAction sdk db.counters .zero _ = a
  obtain ⟨status, info, counters⟩ := a
  cases status
  case success =>
    generalize mappingErrorCtc sdk.ipucAdd = b
    cases b
    case success =>
      unfold routeBuildDb
      rw [if_neg hnone]
      cases hmem : sdk.routeMem with
      | false => exact ⟨by simp only [Bool.not_false, if_true]; split <;> rfl,
          .inl ⟨nofun, by simp only [Bool.not_false, if_true]; split <;> rfl⟩⟩
      | true =>
        cases hnode : sdk.mem .entryNode with
        | false => exact ⟨by simp; split <;> rfl, .inl ⟨by simp, by simp; split <;> rfl⟩⟩
        | true =>
          have hl : db.routes.lookup (mappingRouteKey m e) = none := by
            simpa using hnone
          exact ⟨rfl, .inr ⟨rfl, rfl, hl, _, rfl⟩⟩
    all_goals exact ⟨rfl, .inl ⟨nofun, rfl⟩⟩
  all_goals exact ⟨rfl, .inl ⟨nofun, rfl⟩⟩

theorem routeRemove_routes (db : RouteDb ch) (e : RouteEntry) :
    (routeRemove m sdk db e).2.routeCnt = db.routeCnt ∧
    ((routeRemove m sdk db e).1 ≠ .success ∧ (routeRemove m sdk db e).2.routes = db.routes ∨
      (routeRemove m sdk db e).1 = .success ∧
        (∃ r, db.routes.lookup (mappingRouteKey m e) = some r) ∧
        (routeRemove m sdk db e).2.routes = db.routes.erase (mappingRouteKey m e)) := by
  unfold routeRemove
  cases hl : db.routes.lookup (mappingRouteKey m e) with
  | none => exact ⟨rfl, .inl ⟨nofun, rfl⟩⟩
  | some r =>
    dsimp only
    generalize mappingIpucAction sdk db.counters .zero r = a
    obtain ⟨status, info, counters⟩ := a
    cases status
    case success =>
      dsimp only
      generalize mappingErrorCtc sdk.ipucRemove = b
      cases b
      case success =>
        generalize counterIdRemove sdk.toSdk counters r.counterObjId = c
        obtain ⟨removed, counters⟩ := c
        cases removed
        case success => exact ⟨rfl, .inr ⟨rfl, ⟨r, rfl⟩, rfl⟩⟩
        all_goals exact ⟨rfl, .inl ⟨nofun, rfl⟩⟩
      all_goals exact ⟨rfl, .inl ⟨nofun, rfl⟩⟩
    all_goals exact ⟨rfl, .inl ⟨nofun, rfl⟩⟩

theorem setRouteAttr_routes (db : RouteDb ch) (e : RouteEntry) (attr : RouteAttr) :
    (setRouteAttr m sdk db e attr).2.routeCnt = db.routeCnt ∧
    ((setRouteAttr m sdk db e attr).2.routes = db.routes ∨
      ∃ r r', db.routes.lookup (mappingRouteKey m e) = some r ∧
        (setRouteAttr m sdk db e attr).2.routes = db.routes.insert (mappingRouteKey m e) r') := by
  have hset : (routeSetAttr m sdk db e attr).2.routeCnt = db.routeCnt ∧
      ((routeSetAttr m sdk db e attr).2.routes = db.routes ∨
        ∃ r r', db.routes.lookup (mappingRouteKey m e) = some r ∧
          (routeSetAttr m sdk db e attr).2.routes = db.routes.insert (mappingRouteKey m e) r') := by
    unfold routeSetAttr
    cases hl : db.routes.lookup (mappingRouteKey m e) with
    | none => exact ⟨rfl, .inl rfl⟩
    | some r =>
      dsimp only
      generalize ipucGet sdk db.ipuc _ = g
      cases g with
      | error code => exact ⟨rfl, .inl rfl⟩
      | ok info =>
        generalize r.setAttr attr = o
        cases o with
        | none => exact ⟨rfl, .inl rfl⟩
        | some r' =>
          dsimp only
          generalize (if r.counterObjId ≠ Oid.null ∧ r.counterObjId ≠ r'.counterObjId then
            counterIdRemove sdk.toSdk db.counters r.counterObjId
            else (.success, db.counters)) = removed
          obtain ⟨status, counters⟩ := removed
          cases status
          case success =>
            generalize mappingIpucAction sdk counters info r' = act
            obtain ⟨mapped, info, counters⟩ := act
            cases mapped
            case success =>
              generalize mappingErrorCtc sdk.ipucAdd = added
              cases added
              case success => exact ⟨rfl, .inr ⟨r, r', rfl, rfl⟩⟩
              all_goals exact ⟨rfl, .inl rfl⟩
            all_goals exact ⟨rfl, .inl rfl⟩
          all_goals exact ⟨rfl, .inl rfl⟩
  cases attr
  case ipAddrFamily => exact ⟨rfl, .inl rfl⟩
  all_goals exact hset

/-! ## The count is that of the records -/

/-- The number of each family is that of its records, in 32 bits, and there
are no more than `cap` records. -/
structure RouteTally (cap : Nat) (db : RouteDb ch) : Prop where
  counted : ∀ f, db.routeCnt f = BitVec.ofNat 32 (familyCount f db.routes)
  bounded : recordCount db.routes ≤ cap

theorem RouteTally.add {r : RouteInfo} {e : RouteEntry} (h : RouteTally cap db)
    (hleft : recordCount db.routes < cap) (hnone : db.routes.lookup (mappingRouteKey m e) = none)
    (hroutes : db'.routes = db.routes.insert (mappingRouteKey m e) r)
    (hcnt : db'.routeCnt = db.routeCnt) : RouteTally cap (db'.count e 1) := by
  constructor
  · intro f
    show update db'.routeCnt e.destination.addrFamily _ f = _
    rw [count_routes, hroutes, familyCount, count_insert_new hnone, Table.unit,
      mappingRouteKey_ipVer, hcnt]
    by_cases hf : f = e.destination.addrFamily
    · subst hf
      rw [h.counted, BitVec.ofNat_add]
      simp [familyCount]
    · rw [update_of_ne hf, h.counted]
      simp [familyCount, Ne.symm hf]
  · rw [count_routes, hroutes, recordCount, count_insert_new hnone]
    exact hleft

theorem RouteTally.drop {r : RouteInfo} {e : RouteEntry} (h : RouteTally cap db)
    (hsome : db.routes.lookup (mappingRouteKey m e) = some r)
    (hroutes : db'.routes = db.routes.erase (mappingRouteKey m e))
    (hcnt : db'.routeCnt = db.routeCnt) : RouteTally cap (db'.count e (-1)) := by
  constructor
  · intro f
    have hf := h.counted f
    rw [familyCount, count_erase hsome, Table.unit, mappingRouteKey_ipVer] at hf
    show update db'.routeCnt e.destination.addrFamily _ f = _
    rw [count_routes, hroutes, hcnt, familyCount]
    by_cases hfam : f = e.destination.addrFamily
    · subst hfam
      rw [update_self, hf, decide_eq_true rfl, BitVec.ofNat_add]
      rw [BitVec.add_assoc]
      exact BitVec.add_zero _
    · rw [update_of_ne hfam, hf, decide_eq_false (Ne.symm hfam),
        if_neg Bool.false_ne_true, Nat.add_zero]
  · have hcount : recordCount db.routes =
        recordCount (db.routes.erase (mappingRouteKey m e)) + 1 := count_erase hsome
    have hle := h.bounded
    rw [count_routes, hroutes]
    omega

theorem RouteTally.same (h : RouteTally cap db) (hroutes : db'.routes = db.routes)
    (hcnt : db'.routeCnt = db.routeCnt) :
    RouteTally cap db' where
  counted := by rw [hroutes, hcnt]; exact h.counted
  bounded := by rw [hroutes]; exact h.bounded

theorem RouteTally.create (h : RouteTally cap db) (hleft : MemoryLeft cap sdk db) (e : RouteEntry)
    (attrs : List RouteAttr) :
    RouteTally cap (createRoute m sdk db e attrs).2 := by
  have hcall := @routeCreate_routes ch m sdk db e attrs
  unfold createRoute
  split
  · next db' heq =>
    rw [heq] at hcall
    obtain ⟨hcnt, ⟨hfail, _⟩ | ⟨_, hmem, hnone, r, hroutes⟩⟩ := hcall
    · exact absurd rfl hfail
    · exact h.add (hleft hmem) hnone hroutes hcnt
  next status db' hne heq =>
  rw [heq] at hcall
  obtain ⟨hcnt, ⟨_, hroutes⟩ | ⟨hok, _⟩⟩ := hcall
  · exact h.same hroutes hcnt
  · cases hok
    exact (hne rfl).elim

theorem RouteTally.remove (h : RouteTally cap db) (e : RouteEntry) :
    RouteTally cap (removeRoute m sdk db e).2 := by
  have hcall := @routeRemove_routes ch m sdk db e
  unfold removeRoute
  split
  · next db' heq =>
    rw [heq] at hcall
    obtain ⟨hcnt, ⟨hfail, _⟩ | ⟨_, ⟨r, hsome⟩, hroutes⟩⟩ := hcall
    · exact absurd rfl hfail
    · exact h.drop hsome hroutes hcnt
  next status db' hne heq =>
  rw [heq] at hcall
  obtain ⟨hcnt, ⟨_, hroutes⟩ | ⟨hok, _⟩⟩ := hcall
  · exact h.same hroutes hcnt
  · cases hok
    exact (hne rfl).elim

theorem RouteTally.set (h : RouteTally cap db) (e : RouteEntry) (attr : RouteAttr) :
    RouteTally cap (setRouteAttr m sdk db e attr).2 := by
  obtain ⟨hcnt, hroutes | ⟨r, r', hsome, hroutes⟩⟩ := @setRouteAttr_routes ch m sdk db e attr
  · exact h.same hroutes hcnt
  have hkeys : ∀ p : RouteKey → RouteInfo → Bool, (∀ k v w, p k v = p k w) →
      Table.count p (setRouteAttr m sdk db e attr).2.routes = Table.count p db.routes := by
    intro p hp
    have hrep := count_replace (p := p) (w := r') hsome
    rw [Table.unit, Table.unit, hp _ r r'] at hrep
    rw [hroutes]
    omega
  constructor
  · intro f
    rw [hcnt, h.counted f]
    exact congrArg _ (hkeys _ fun _ _ _ => rfl).symm
  · exact (hkeys _ fun _ _ _ => rfl).le.trans h.bounded

end Chip

/-! ## Bulk calls -/

section Bulk

variable {S α : Type} {chipKnown : α → Bool} {f : S → α → Status × S} {mode : BulkOpErrorMode}

/-- Every element that the loop gets to meets `ok` in the state it finds. -/
def RouteBulkAdmitted (chipKnown : α → Bool) (f : S → α → Status × S) (mode : BulkOpErrorMode)
    (ok : S → α → Prop) : S → List α → Prop
  | _, [] => True
  | s, a :: rest => chipKnown a = true → ok s a ∧
      (¬ ((f s a).1 ≠ .success ∧ mode = .stopOnError) →
        RouteBulkAdmitted chipKnown f mode ok (f s a).2 rest)

theorem routeBulkAdmitted_true (objects : List α) (s : S) :
    RouteBulkAdmitted chipKnown f mode (fun _ _ => True) s objects := by
  induction objects generalizing s with
  | nil => trivial
  | cons a rest ih => exact fun _ => ⟨trivial, fun _ => ih _⟩

theorem routeBulkLoop_inv {P : S → Prop} {ok : S → α → Prop}
    (h : ∀ s a, P s → ok s a → P (f s a).2) {s : S} {objects : List α} (hs : P s)
    (hok : RouteBulkAdmitted chipKnown f mode ok s objects) :
    P (routeBulkLoop chipKnown f mode s objects).state := by
  induction objects generalizing s with
  | nil => exact hs
  | cons a rest ih =>
    unfold routeBulkLoop
    by_cases hk : chipKnown a = true
    · rw [if_pos hk]
      obtain ⟨hhead, hrest⟩ := hok hk
      have hnext : P (f s a).2 := h s a hs hhead
      by_cases hstop : (f s a).1 ≠ .success ∧ mode = .stopOnError
      · rw [if_pos hstop]
        exact hnext
      · rw [if_neg hstop]
        exact ih hnext (hrest hstop)
    · rw [if_neg hk]
      exact hs

end Bulk

/-! ## Runs -/

section Runs

variable {chips : Lchip → Chip} {known : Lchip → Bool} {m : MaskToLen} {cap : Nat}
variable {dbs : RouteChips chips}

/-- The calls on routes, and what other modules do to the counters. -/
inductive RouteCall (chips : Lchip → Chip) where
  | create (o : RouteSdk × RouteEntry × List RouteAttr)
  | remove (o : RouteSdk × RouteEntry)
  | bulkCreate (mode : BulkOpErrorMode) (objects : List (RouteSdk × RouteEntry × List RouteAttr))
  | bulkRemove (mode : BulkOpErrorMode) (objects : List (RouteSdk × RouteEntry))
  | set (sdk : RouteSdk) (e : RouteEntry) (attr : RouteAttr)
  | counters (c : Lchip) (counters : CounterDb (chips c))

def routeCallStep (known : Lchip → Bool) (m : MaskToLen) (dbs : RouteChips chips) :
    RouteCall chips → Option (RouteChips chips)
  | .create o => some (routeCreateRoute known m dbs o).2
  | .remove o => some (routeRemoveRoute known m dbs o).2
  | .bulkCreate mode objects => some (routeBulkCreateRoute known m dbs mode objects).state
  | .bulkRemove mode objects => some (routeBulkRemoveRoute known m dbs mode objects).state
  | .set sdk e attr => some (if known e.switchId.lchip then
      (onRouteChip dbs e fun db => setRouteAttr m sdk db e attr).2 else dbs)
  | .counters c counters =>
    some (update dbs c { dbs c with counters := counters })

/-- No route on any chip, and none counted. -/
def NoRoutes (dbs : RouteChips chips) : Prop :=
  ∀ c, (dbs c).routes = ∅ ∧ ∀ f, (dbs c).routeCnt f = 0

/-- No chip gets memory for more than `cap` route records. -/
def RouteMemory (known : Lchip → Bool) (m : MaskToLen) (cap : Nat) (dbs : RouteChips chips) :
    RouteCall chips → Prop
  | .create o => MemoryLeft cap o.1 (dbs o.2.1.switchId.lchip)
  | .bulkCreate mode objects =>
    RouteBulkAdmitted (fun o => known o.2.1.switchId.lchip)
      (fun dbs o => onRouteChip dbs o.2.1 fun db => createRoute m o.1 db o.2.1 o.2.2) mode
      (fun dbs o => MemoryLeft cap o.1 (dbs o.2.1.switchId.lchip)) dbs objects
  | .remove _ | .bulkRemove _ _ | .set _ _ _ | .counters _ _ => True

def RouteTallies (cap : Nat) (dbs : RouteChips chips) : Prop := ∀ c, RouteTally cap (dbs c)

theorem RouteTallies.update (h : RouteTallies cap dbs) (c : Lchip) {db : RouteDb (chips c)}
    (hdb : RouteTally cap db) :
    RouteTallies cap (update dbs c db) := by
  intro d
  by_cases hd : d = c
  · subst hd
    rw [update_self]
    exact hdb
  · rw [update_of_ne hd]
    exact h d

theorem RouteTallies.start (h : NoRoutes dbs) : RouteTallies cap dbs := by
  intro c
  obtain ⟨hroutes, hcnt⟩ := h c
  constructor
  · intro f
    rw [hcnt f, hroutes]
    rfl
  · rw [hroutes]
    exact Nat.zero_le cap

theorem RouteTallies.step {dbs' : RouteChips chips} {op : RouteCall chips}
    (h : RouteTallies cap dbs) (hok : RouteMemory known m cap dbs op)
    (hst : routeCallStep known m dbs op = some dbs') : RouteTallies cap dbs' := by
  cases op with
  | create o =>
    cases hst
    unfold routeCreateRoute
    split
    · exact h.update _ ((h _).create hok _ _)
    · exact h
  | remove o =>
    cases hst
    unfold routeRemoveRoute
    split
    · exact h.update _ ((h _).remove _)
    · exact h
  | bulkCreate mode objects =>
    cases hst
    refine routeBulkLoop_inv ?_ h hok
    intro dbs o hdbs hleft
    exact hdbs.update _ ((hdbs _).create hleft _ _)
  | bulkRemove mode objects =>
    cases hst
    refine routeBulkLoop_inv ?_ h (routeBulkAdmitted_true objects dbs)
    intro dbs o hdbs _
    exact hdbs.update _ ((hdbs _).remove _)
  | set sdk e attr =>
    cases hst
    split
    · exact h.update _ ((h _).set e attr)
    · exact h
  | counters c counters =>
    cases hst
    exact h.update c ((h c).same rfl rfl)

/-- In every state of every run the number of each family is that of its
records. -/
theorem routeCnt_of_run (hcap : cap < 2 ^ 32) {dbs : RouteChips chips}
    (h : Reachable NoRoutes (RouteMemory known m cap) (routeCallStep known m) dbs) (c : Lchip)
    (f : IpFamily) : ((dbs c).routeCnt f).toNat = familyCount f (dbs c).routes := by
  have hall : RouteTallies cap dbs :=
    h.inv (fun _ hs => .start hs) fun _ _ _ hi hok hst => hi.step hok hst
  have hle : familyCount f (dbs c).routes ≤ cap :=
    (familyCount_le f _).trans (hall c).bounded
  rw [(hall c).counted f, BitVec.toNat_ofNat]
  exact Nat.mod_eq_of_lt (hle.trans_lt hcap)

/-- A route made twice in a bulk call that goes on, a second one, and the
first removed: one route is left, and one counted. -/
theorem routeCnt_of_run_two : ∃ dbs : RouteChips fun _ => .small,
    ((dbs 0).routeCnt .ipv4).toNat = familyCount .ipv4 (dbs 0).routes ∧
      familyCount .ipv4 (dbs 0).routes = 1 := by
  have r₀ : Reachable NoRoutes (RouteMemory (fun _ => true) .ones 8)
      (routeCallStep (fun _ => true) .ones) (fun _ => RouteDb.empty .small) :=
    .start fun _ => ⟨rfl, fun _ => rfl⟩
  have r₁ := r₀.next (.bulkCreate .ignoreError [(.ok, route24 0x0a000000, dropRoute),
      (.ok, route24 0x0a000000, dropRoute), (.ok, route24 0x0a000100, dropRoute)])
    (by exact fun _ => ⟨fun _ => by decide, fun _ _ => ⟨fun _ => by decide, fun _ _ =>
      ⟨fun _ => by decide, fun _ => trivial⟩⟩⟩) rfl
  have r₂ := r₁.next (.remove (.ok, route24 0x0a000000)) (by trivial) rfl
  exact ⟨_, routeCnt_of_run (by decide) r₂ 0 .ipv4, by decide⟩

end Runs

end CtcSai
