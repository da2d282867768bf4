/-
# `RouteSet` — a route attribute that cannot be set

`_ctc_sai_route_set_attr` tears the statistics of the old counter down before
it looks at anything else of a new one.  All other failures come before the
record and the hardware are written, so a route that agreed with its counter
goes on doing so unless the tear-down went through and what follows it did
not.
-/
import CtcSai.RouteKeys

namespace CtcSai

open IdPool

variable {ch : Chip} {m : MaskToLen} {sdk : RouteSdk} {e : RouteEntry} {r : RouteInfo}

/-! ## Routes that agree -/

/-- The counter of a route is counting. -/
def CounterLive (counters : CounterDb ch) (o : Oid) (statsId : Nat) : Prop :=
  ∃ c, counters.table.lookup o = some c ∧ c.ctcSaiCounterType = .route ∧ c.statsId = statsId ∧
    statsId ∈ counters.stats.used

/-- The parameters of the hardware are those of the record. -/
structure HwAgrees (counters : CounterDb ch) (info : IpucInfo) (r : RouteInfo) : Prop where
  action : ∃ nhId ip2me, mappingNexthop r.action r.nhObjId = some (nhId, ip2me) ∧
    mappingAction r.action nhId = some (info.nhId, info.cpu) ∧
    (ip2me = true → info.protocolEntry = true)
  cid : info.cid = r.cid
  stats : info.statsEn = decide (r.counterObjId ≠ Oid.null)
  counter : r.counterObjId ≠ Oid.null → CounterLive counters r.counterObjId info.statsId

/-- The route `e` has the record `r`, and the hardware and its counter agree
with it. -/
def RouteAgrees (m : MaskToLen) (db : RouteDb ch) (e : RouteEntry) (r : RouteInfo) : Prop :=
  db.routes.lookup (mappingRouteKey m e) = some r ∧
    ∃ info, db.ipuc.lookup (mappingIpucKey m e).tableKey = some info ∧
      HwAgrees db.counters info r

/-- A call that fails leaves every record and the hardware as they were, and
the route in agreement with them. -/
def FailsCleanly (m : MaskToLen) (db : RouteDb ch) (e : RouteEntry) (r : RouteInfo)
    (res : Status × RouteDb ch) : Prop :=
  res.1 ≠ .success → res.2.routes = db.routes ∧ res.2.ipuc = db.ipuc ∧ RouteAgrees m res.2 e r

/-- A counter that a route can be given. -/
def TakesCounter (sdk : RouteSdk) (counters : CounterDb ch) (o : Oid) : Prop :=
  o = Oid.null ∨ ∃ c, counters.table.lookup o = some c ∧
    (c.ctcSaiCounterType = .route ∨
      c.ctcSaiCounterType = .max ∧ (statsCreate sdk.toSdk counters .route).1 = .success)

/-! ## The statistics of the new record -/

section Stats

variable {counters : CounterDb ch} {o : Oid}

theorem statsCreate_used (sdk : Sdk) (counters : CounterDb ch) (type : CounterType) :
    counters.stats.used ⊆ (statsCreate sdk counters type).2.2.stats.used := by
  unfold statsCreate
  dsimp only
  split
  · split
    · exact Finset.Subset.refl _
    · next hal =>
      obtain ⟨-, -, -, hu, -⟩ := Pool.alloc_some hal
      rw [hu]
      exact Finset.subset_insert _ _
  · exact Finset.Subset.refl _

theorem counterIdCreate_other {sdk : Sdk} {type : CounterType} {o' : Oid} (hne : o ≠ o') :
    (counterIdCreate sdk counters o' type).2.2.table.lookup o = counters.table.lookup o ∧
      counters.stats.used ⊆ (counterIdCreate sdk counters o' type).2.2.stats.used := by
  have ht := statsCreate_table sdk counters type
  have hu := statsCreate_used sdk counters type
  unfold counterIdCreate
  split
  · exact ⟨rfl, Finset.Subset.refl _⟩
  split
  · next heq =>
    rw [heq] at ht hu
    exact ⟨(AList.lookup_insert_ne hne).trans (by rw [ht]), hu⟩
  · next heq =>
    rw [heq] at ht hu
    exact ⟨by rw [ht], hu⟩

theorem mappingRouteStats_other {o' : Oid} (hne : o ≠ o') :
    (mappingRouteStats sdk counters o').2.2.table.lookup o = counters.table.lookup o ∧
      counters.stats.used ⊆ (mappingRouteStats sdk counters o').2.2.stats.used := by
  unfold mappingRouteStats
  split
  · next hnull =>
    rw [counterIdRemove, if_pos hnull]
    exact ⟨rfl, Finset.Subset.refl _⟩
  split
  · exact ⟨rfl, Finset.Subset.refl _⟩
  next c _ =>
  have hcreate : (if c.ctcSaiCounterType = .max then
      counterIdCreate sdk.toSdk counters o' .route
      else (.success, 0, counters)).2.2.table.lookup o = counters.table.lookup o ∧
      counters.stats.used ⊆ (if c.ctcSaiCounterType = .max then
        counterIdCreate sdk.toSdk counters o' .route
        else (.success, 0, counters)).2.2.stats.used := by
    split
    · exact counterIdCreate_other hne
    · exact ⟨rfl, Finset.Subset.refl _⟩
  dsimp only
  split
  · split
    · exact hcreate
    · split <;> exact hcreate
  · exact hcreate

/-- A counter that is counting is taken as it is, and any other leaves it
alone. -/
theorem mappingRouteStats_live {o' : Oid} {statsId : Nat} (h : CounterLive counters o statsId) :
    CounterLive (mappingRouteStats sdk counters o').2.2 o statsId := by
  obtain ⟨c, hc, htype, hid, hused⟩ := h
  by_cases hne : o = o'
  · subst hne
    unfold mappingRouteStats
    split
    · next hnull =>
      rw [counterIdRemove, if_pos hnull]
      exact ⟨c, hc, htype, hid, hused⟩
    rw [hc]
    dsimp only
    rw [if_neg (by rw [htype]; decide)]
    rw [hc]
    dsimp only
    rw [if_pos htype]
    exact ⟨c, hc, htype, hid, hused⟩
  · obtain ⟨hl, hu⟩ := @mappingRouteStats_other ch sdk counters o o' hne
    exact ⟨c, hl.trans hc, htype, hid, hu hused⟩

theorem counterIdCreate_route {sdk : Sdk} {c : Counter} (hc : counters.table.lookup o = some c) :
    (counterIdCreate sdk counters o .route).1 = (statsCreate sdk counters .route).1 ∧
      ((statsCreate sdk counters .route).1 = .success → ∃ c',
        (counterIdCreate sdk counters o .route).2.2.table.lookup o = some c' ∧
          c'.ctcSaiCounterType = .route) := by
  unfold counterIdCreate
  rw [hc]
  dsimp only
  split
  · next heq =>
    rw [heq]
    exact ⟨rfl, fun _ => ⟨_, AList.lookup_insert _, rfl⟩⟩
  · next status _ _ hne heq =>
    rw [heq]
    exact ⟨rfl, fun h => absurd h hne⟩

theorem mappingRouteStats_success_iff :
    (mappingRouteStats sdk counters o).1 = .success ↔ TakesCounter sdk counters o := by
  unfold mappingRouteStats TakesCounter
  by_cases hnull : o = Oid.null
  · rw [if_pos hnull, counterIdRemove, if_pos hnull]
    exact iff_of_true rfl (.inl hnull)
  rw [if_neg hnull, or_iff_right hnull]
  cases hc : counters.table.lookup o with
  | none => exact iff_of_false (fun h => by cases h) (by rintro ⟨c, hc', -⟩; cases hc')
  | some c =>
    have hex : ∀ {P : Counter → Prop}, (∃ c', some c = some c' ∧ P c') ↔ P c :=
      ⟨fun ⟨_, he, hp⟩ => Option.some.inj he ▸ hp, fun hp => ⟨c, rfl, hp⟩⟩
    rw [hex]
    dsimp only
    by_cases hmax : c.ctcSaiCounterType = .max
    · obtain ⟨hst, hnew⟩ := @counterIdCreate_route ch counters o sdk.toSdk c hc
      rw [if_pos hmax, hmax, hst]
      split
      · next hok =>
        obtain ⟨c', hc', htype⟩ := hnew hok
        rw [hc']
        dsimp only
        rw [if_pos htype]
        exact iff_of_true rfl (.inr ⟨rfl, hok⟩)
      · next hfail =>
        exact iff_of_false hfail fun h => h.elim nofun fun h => hfail h.2
    rw [if_neg hmax]
    rw [hc]
    dsimp only
    split
    · next hroute => exact iff_of_true rfl (.inl hroute)
    next hroute =>
    refine iff_of_false (fun h => by cases h) ?_
    rintro (h | ⟨h, -⟩)
    · exact hroute h
    · exact hmax h

end Stats

/-! ## When a failure is clean -/

section Set

variable {db : RouteDb ch} {attr : RouteAttr}
variable {counters : CounterDb ch} {o : Oid}

theorem mappingIpucAction_live {info : IpucInfo} {r' : RouteInfo} {statsId : Nat}
    (h : CounterLive counters o statsId) :
    CounterLive (mappingIpucAction sdk counters info r').2.2 o statsId := by
  have hlive := @mappingRouteStats_live ch sdk counters o r'.counterObjId statsId h
  unfold mappingIpucAction
  split
  · exact h
  split
  · exact h
  split
  · next heq =>
    rw [heq] at hlive
    exact hlive
  · next heq =>
    rw [heq] at hlive
    exact hlive

/-- Where the action and the next hop can be mapped, the statistics decide. -/
theorem mappingIpucAction_eq {counters : CounterDb ch} {info : IpucInfo} {r' : RouteInfo}
    {nhId : BitVec 32} {ip2me : Bool} {act : BitVec 32 × Bool}
    (hn : mappingNexthop r'.action r'.nhObjId = some (nhId, ip2me))
    (ha : mappingAction r'.action nhId = some act) :
    (mappingIpucAction sdk counters info r').1 =
        (mappingRouteStats sdk counters r'.counterObjId).1 ∧
      (mappingIpucAction sdk counters info r').2.2 =
        (mappingRouteStats sdk counters r'.counterObjId).2.2 := by
  unfold mappingIpucAction
  rw [hn]
  dsimp only
  rw [ha]
  dsimp only
  split
  · next heq =>
    rw [heq]
    exact ⟨rfl, rfl⟩
  · next heq =>
    rw [heq]
    exact ⟨rfl, rfl⟩

theorem RouteAgrees.withCounters (h : RouteAgrees m db e r)
    (hl : ∀ statsId, CounterLive db.counters r.counterObjId statsId →
      CounterLive counters r.counterObjId statsId) :
    RouteAgrees m { db with counters := counters } e r := by
  obtain ⟨hrec, info, hinfo, hag⟩ := h
  exact ⟨hrec, info, hinfo, hag.action, hag.cid, hag.stats, fun hc => hl _ (hag.counter hc)⟩

theorem counterIdRemove_torn {counters : CounterDb ch} {o : Oid} {c : Counter}
    (hnull : o ≠ Oid.null) (hc : counters.table.lookup o = some c)
    (hok : sdk.rc (.statsDestroyStatsid c.statsId) = .none) :
    counterIdRemove sdk.toSdk counters o = (.success,
      { table := counters.table.insert o { c with statsId := 0, ctcSaiCounterType := .max }
        pool := counters.pool
        stats := counters.stats.free c.statsId }) := by
  have hd : statsDestroy sdk.toSdk counters c.statsId =
      (.success, { counters with stats := counters.stats.free c.statsId }) := by
    unfold statsDestroy
    rw [hok]
    rfl
  unfold counterIdRemove
  rw [if_neg hnull, hc]
  dsimp only
  rw [hd]

theorem counterIdRemove_failed {c : Counter} (hnull : o ≠ Oid.null)
    (hc : counters.table.lookup o = some c)
    (hfail : sdk.rc (.statsDestroyStatsid c.statsId) ≠ .none) :
    ∃ status, status ≠ .success ∧
      counterIdRemove sdk.toSdk counters o = (status, counters) := by
  have hst : mappingErrorCtc (sdk.rc (.statsDestroyStatsid c.statsId)) ≠ .success :=
    fun h => hfail (mappingErrorCtc_eq_success.mp h)
  refine ⟨_, hst, ?_⟩
  have hd : statsDestroy sdk.toSdk counters c.statsId =
      (mappingErrorCtc (sdk.rc (.statsDestroyStatsid c.statsId)), counters) := if_neg hst
  unfold counterIdRemove
  rw [if_neg hnull, hc]
  dsimp only
  rw [hd]
  split
  · next heq => exact absurd (congrArg Prod.fst heq) hst
  · next heq => exact heq.symm

/-- An attribute that is written does not fail after a counter was torn
down. -/
def SetSafe (sdk : RouteSdk) (counters : CounterDb ch) (r : RouteInfo) (attr : RouteAttr) : Prop :=
  ∀ o, attr = .counterId o → r.counterObjId ≠ Oid.null → r.counterObjId ≠ o →
    sdk.ipucGet = .none → ∀ c, counters.table.lookup r.counterObjId = some c →
      sdk.rc (.statsDestroyStatsid c.statsId) = .none →
        sdk.ipucAdd = .none ∧
          TakesCounter sdk { counters with stats := counters.stats.free c.statsId } o

theorem takesCounter_torn {old : Oid} (hne : old ≠ o) (c : Counter) (stats : Pool ch.stats) :
    TakesCounter sdk ⟨counters.table.insert old c, counters.pool, stats⟩ o ↔
      TakesCounter sdk { counters with stats := stats } o := by
  have hst : (statsCreate sdk.toSdk (⟨counters.table.insert old c, counters.pool, stats⟩ :
      CounterDb ch) .route).1 =
        (statsCreate sdk.toSdk { counters with stats := stats } .route).1 := by
    unfold statsCreate
    dsimp only
    split
    · cases stats.alloc <;> rfl
    · rfl
  unfold TakesCounter
  rw [hst]
  rw [AList.lookup_insert_ne hne.symm]

theorem routeSetAttr_eq (hrec : db.routes.lookup (mappingRouteKey m e) = some r) {info : IpucInfo}
    (hget : ipucGet sdk db.ipuc (mappingIpucKey m e).tableKey = .ok info) {r' : RouteInfo}
    (hset : r.setAttr attr = some r')
    (hremoved : (if r.counterObjId ≠ Oid.null ∧ r.counterObjId ≠ r'.counterObjId then
      counterIdRemove sdk.toSdk db.counters r.counterObjId else (.success, db.counters)) =
        (.success, counters)) :
    let act := mappingIpucAction sdk counters info r'
    ((routeSetAttr m sdk db e attr).1 = .success ↔ act.1 = .success ∧ sdk.ipucAdd = .none) ∧
      ((routeSetAttr m sdk db e attr).1 ≠ .success →
        (routeSetAttr m sdk db e attr).2 = { db with counters := act.2.2 }) := by
  unfold routeSetAttr
  rw [hrec]
  dsimp only
  rw [hget]
  rw [hset]
  dsimp only
  rw [hremoved]
  dsimp only
  split
  · next heq =>
    rw [heq]
    split
    · next hadd =>
      exact ⟨iff_of_true rfl ⟨rfl, mappingErrorCtc_eq_success.mp hadd⟩, fun h => absurd rfl h⟩
    next hadd =>
    refine ⟨iff_of_false hadd fun h => hadd ?_, fun _ => rfl⟩
    rw [h.2]
    rfl
  · next hne heq =>
    rw [heq]
    exact ⟨iff_of_false hne fun h => hne h.1, fun _ => rfl⟩

/-- A set call that fails leaves an agreeing route as it was exactly if it
does not replace a counter, or the tear-down of the old one fails, or the SDK
has no such route, or nothing after the tear-down fails. -/
theorem failsCleanly_iff (h : RouteAgrees m db e r) :
    FailsCleanly m db e r (routeSetAttr m sdk db e attr) ↔ SetSafe sdk db.counters r attr := by
  obtain ⟨hrec, info, hinfo, hag⟩ := id h
  have hkept : ∀ {res : Status × RouteDb ch} {counters : CounterDb ch},
      (res.1 ≠ .success → res.2 = { db with counters := counters }) →
      (∀ s, CounterLive db.counters r.counterObjId s → CounterLive counters r.counterObjId s) →
      FailsCleanly m db e r res := by
    intro res counters hres hl hfail
    rw [hres hfail]
    exact ⟨rfl, rfl, h.withCounters hl⟩
  by_cases hget : sdk.ipucGet = .none
  · have hok : ipucGet sdk db.ipuc (mappingIpucKey m e).tableKey = .ok info := by
      unfold ipucGet
      rw [if_neg (fun hne => hne hget), hinfo]
    cases hset : r.setAttr attr with
    | none =>
      refine iff_of_true (hkept (fun _ => ?_) fun _ hl => hl) fun o ho => ?_
      · unfold routeSetAttr
        rw [hrec]
        dsimp only
        rw [hok]
        dsimp only
        rw [hset]
      · subst ho
        cases hset
    | some r' =>
      by_cases hrep : r.counterObjId ≠ Oid.null ∧ r.counterObjId ≠ r'.counterObjId
      · obtain ⟨o, rfl, rfl⟩ : ∃ o, attr = .counterId o ∧ r' = { r with counterObjId := o } := by
          cases attr <;> cases hset
          case counterId o => exact ⟨o, rfl, rfl⟩
          all_goals exact absurd rfl hrep.2
        obtain ⟨c, hc, -⟩ := hag.counter hrep.1
        by_cases hdestroy : sdk.rc (.statsDestroyStatsid c.statsId) = .none
        · obtain ⟨hiff, hres⟩ := routeSetAttr_eq hrec hok hset
            ((if_pos hrep).trans (counterIdRemove_torn hrep.1 hc hdestroy))
          obtain ⟨nhId, ip2me, hn, ha, -⟩ := hag.action
          obtain ⟨hst, hctr⟩ := @mappingIpucAction_eq ch sdk _ info { r with counterObjId := o }
            _ _ _ hn ha
          rw [hst, mappingRouteStats_success_iff, takesCounter_torn hrep.2] at hiff
          constructor
          · intro hclean o' ho' _ _ _ c' hc' _
            obtain rfl := RouteAttr.counterId.inj ho'
            obtain rfl := Option.some.inj (hc.symm.trans hc')
            by_contra hnot
            have hfail : (routeSetAttr m sdk db e (.counterId o)).1 ≠ .success :=
              fun hs => hnot (hiff.mp hs).symm
            obtain ⟨-, -, -, info', -, hag'⟩ := hclean hfail
            obtain ⟨c', hc', htype, -⟩ := hag'.counter hrep.1
            -- the old counter still has what the tear-down left of it
            rw [hres hfail] at hc'
            dsimp only at hc'
            rw [hctr, (mappingRouteStats_other hrep.2).1, AList.lookup_insert] at hc'
            obtain rfl := Option.some.inj hc'
            cases htype
          · intro hsafe hfail
            exact absurd (hiff.mpr (hsafe o rfl hrep.1 hrep.2 hget c hc hdestroy).symm) hfail
        · obtain ⟨status, hne, hremove⟩ := counterIdRemove_failed hrep.1 hc hdestroy
          refine iff_of_true (hkept (fun _ => ?_) fun _ hl => hl) ?_
          · unfold routeSetAttr
            rw [hrec]
            dsimp only
            rw [hok]
            dsimp only
            rw [hset]
            dsimp only
            rw [if_pos hrep, hremove]
            split
            · next hs => exact absurd hs hne
            · rfl
          · intro o' ho' _ _ _ c' hc' hd
            obtain rfl := Option.some.inj (hc.symm.trans hc')
            exact absurd hd hdestroy
      · obtain ⟨-, hres⟩ := routeSetAttr_eq hrec hok hset (if_neg hrep)
        refine iff_of_true (hkept hres fun s hl => mappingIpucAction_live hl) ?_
        intro o ho hnull hne
        subst ho
        obtain rfl := Option.some.inj hset
        exact absurd ⟨hnull, hne⟩ hrep
  · refine iff_of_true (hkept (fun _ => ?_) fun _ hl => hl) fun _ _ _ _ hg => absurd hg hget
    have herr : ipucGet sdk db.ipuc (mappingIpucKey m e).tableKey = .error sdk.ipucGet :=
      if_pos hget
    unfold routeSetAttr
    rw [hrec]
    dsimp only
    rw [herr]

end Set

/-! ## A route that counts -/

def routeCounter : Oid := createObjectId .counter 0 0 0 1

/-- A chip with a counter and a route that drops and counts. -/
def RouteDb.counting : RouteDb .small :=
  (createRoute .ones .ok
    { RouteDb.empty .small with
      counters := (createCounter .ok (.empty .small) (some .regular)).2.2 }
    (route24 0x0a000000) [.packetAction .drop, .counterId routeCounter]).2

def RouteInfo.counting : RouteInfo := ⟨.drop, Oid.null, 0, routeCounter⟩

theorem RouteDb.counting_agrees :
    RouteAgrees .ones RouteDb.counting (route24 0x0a000000) .counting :=
  ⟨rfl, _, rfl, ⟨_, _, rfl, rfl, nofun⟩, rfl, rfl, fun _ => ⟨_, rfl, rfl, rfl, by decide⟩⟩

theorem failsCleanly_metaData : FailsCleanly .ones RouteDb.counting (route24 0x0a000000) .counting
      (routeSetAttr .ones { RouteSdk.ok with ipucAdd := .noResource } RouteDb.counting
        (route24 0x0a000000) (.metaData 5)) :=
  (failsCleanly_iff RouteDb.counting_agrees).mpr fun _ ho => by cases ho

/-- A counter that does not exist is refused after the old one was torn
down. -/
theorem failsCleanly_not_always :
    ¬ ∀ (ch : Chip) (m : MaskToLen) (sdk : RouteSdk) (db : RouteDb ch) (e : RouteEntry)
      (r : RouteInfo) (attr : RouteAttr), RouteAgrees m db e r →
      FailsCleanly m db e r (routeSetAttr m sdk db e attr) := by
  intro h
  have hclean := h .small .ones .ok RouteDb.counting (route24 0x0a000000) .counting
    (.counterId (createObjectId .counter 0 0 0 9)) RouteDb.counting_agrees
  obtain ⟨-, -, -, info, -, hag⟩ := hclean (by decide)
  obtain ⟨c, hc, htype, -⟩ := hag.counter (by decide)
  obtain rfl : c = ⟨.regular, .max, 0⟩ := (Option.some.inj hc).symm
  cases htype

end CtcSai
