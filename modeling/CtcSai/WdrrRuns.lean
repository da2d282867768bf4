/-
# `WdrrRuns` — the exceed classes of the queues of a port in every run

Profiles are set on the queues of the ports and cleared again, and change their type and their
weight.  In every run that stays clear of two slips the queues with a DWRR profile have one
class, the others their own.  The slips: clearing the queue whose index is the common class
moves nobody out of it, and a DWRR profile of weight 0 leaves the weight a queue had.
-/
import CtcSai.WdrrClasses
import CtcSai.SchedulerRuns

namespace CtcSai

open Function IdPool KeyedTable Runs Table

attribute [local instance] bitVecLinearOrder

variable {sc : SchedulerChip} {pq : Lchip → BitVec 8} {db db' : SchedDb sc} {hw hw' : SchedHw}
  {c : Lchip} {gport : BitVec 32} {i : BitVec 8}
variable {p k : Oid} {s : Scheduler} {attr : SchedulerAttr}

/-! ## The runs -/

/-- The scheduling types of the profiles are STRICT and DWRR. -/
def SchedulerAttr.strictOrDwrr : SchedulerAttr → Bool
  | .schedulingType t =>
    t == schedulingTypeStrict.setWidth 32 || t == schedulingTypeDwrr.setWidth 32
  | _ => true

/-- The calls: a profile is set on a queue of a port or cleared, and an attribute of a profile
is set. -/
inductive WdrrCall where
  | setQueue (mem : RecordMem) (c : Lchip) (port : Nat) (i : BitVec 8) (oid : Oid)
  | setAttribute (foreign : ForeignNodes) (fuel : Nat) (oid : Oid) (attr : SchedulerAttr)

/-- One call, on a basic queue of a physical port or on a profile that stays STRICT or DWRR. -/
def wdrrStep (pq : Lchip → BitVec 8) (db : SchedDb sc) : WdrrCall → Option (SchedDb sc)
  | .setQueue mem c port i oid =>
    if port < sc.maxPhyPortNum c ∧ i ∈ queueIndexes then
      some (setQueueScheduler db mem (portQueue pq c (sc.gport c port) i) oid).2
    else none
  | .setAttribute foreign fuel oid attr =>
    if attr.strictOrDwrr then (setSchedulerAttribute foreign fuel oid attr db).map Prod.snd
    else none

/-- The profiles: their ids are those of the module, and they are STRICT or DWRR. -/
structure StrictOrDwrr (db : SchedDb sc) : Prop where
  form : ∀ p s, db.schedulers.lookup p = some s →
    p = schedulerOid p.lchip p.value ∧ p.value ≠ 0 ∧ sc.known p.lchip = true
  types : ∀ p s, db.schedulers.lookup p = some s →
    s.schType = schedulingTypeStrict ∨ s.schType = schedulingTypeDwrr

/-- The start of a run: no queue has a profile or a group, every queue is in the class of its own
index with weight 1, and every call of the SDK will succeed. -/
structure WdrrStart (db : SchedDb sc) : Prop where
  profiles : StrictOrDwrr db
  queues : ∀ k q, db.queues.lookup k = some q → q.schId = 0 ∧ q.schGrp = Oid.null
  ports : ∀ k n, db.ports.lookup k = some n → n ≠ 0 → k.lchip = 0
  quiet : db.hw.answers = []
  regs : ∀ c, ∀ port < sc.maxPhyPortNum c, ∀ i ∈ queueIndexes,
    db.hw.regs (.queueExceedClass c (sc.gport c port) i) = i ∧
      db.hw.regs (.queueExceedWeight c (sc.gport c port) i) = 1

/-- A call that stays clear of the slips. -/
def WdrrSafe (pq : Lchip → BitVec 8) (db : SchedDb sc) : WdrrCall → Prop
  | .setQueue _ c port i oid =>
    let wdrr := weightedQueues (db.wdrrWeight pq c (sc.gport c port))
    if oid = Oid.null then i ∈ wdrr → (∃ j ∈ wdrr, j < i) ∨ ∀ j ∈ wdrr, j = i
    else ∀ s, db.schedulers.lookup oid = some s → s.wdrrWeight ≠ some 0
  | .setAttribute _ _ oid attr =>
    (∃ k, db.ptr (.queue k) = some oid) →
      ∀ s s', db.schedulers.lookup oid = some s → s.changed attr = some s' → s'.wdrrWeight ≠ some 0

/-- What is promised of a port. -/
structure WdrrPort (pq : Lchip → BitVec 8) (db : SchedDb sc) (c : Lchip) (gport : BitVec 32) :
    Prop where
  common : ∀ i ∈ queueIndexes, ∀ j ∈ queueIndexes, (db.wdrrWeight pq c gport i).isSome →
    (db.wdrrWeight pq c gport j).isSome →
    db.hw.regs (.queueExceedClass c gport i) = db.hw.regs (.queueExceedClass c gport j)
  apart : ∀ i ∈ queueIndexes, ∀ j ∈ queueIndexes, (db.wdrrWeight pq c gport i).isSome →
    db.wdrrWeight pq c gport j = none →
    db.hw.regs (.queueExceedClass c gport j) ≠ db.hw.regs (.queueExceedClass c gport i)
  alone : ∀ i ∈ queueIndexes, db.wdrrWeight pq c gport i = none →
    db.hw.regs (.queueExceedClass c gport i) = i ∧ db.hw.regs (.queueExceedWeight c gport i) = 1
  weight : ∀ i ∈ queueIndexes, ∀ v, db.wdrrWeight pq c gport i = some v →
    db.hw.regs (.queueExceedWeight c gport i) = v

/-! ## The invariant -/

/-- What is known of the objects. -/
structure WdrrObjects (pq : Lchip → BitVec 8) (db : SchedDb sc) : Prop where
  profiles : StrictOrDwrr db
  queues : BasicQueues pq db
  alone : ∀ k q, db.queues.lookup k = some q → q.schGrp = Oid.null
  ports : ∀ k n, db.ports.lookup k = some n → n ≠ 0 → k.lchip = 0
  nonzero : ∀ c gport i, db.wdrrWeight pq c gport i ≠ some 0

/-- The invariant: every port has the shape of the weights of its queues. -/
structure WdrrInv (pq : Lchip → BitVec 8) (db : SchedDb sc) : Prop where
  objects : WdrrObjects pq db
  quiet : db.hw.answers = []
  shaped : ∀ c, ∀ port < sc.maxPhyPortNum c,
    Shaped (db.wdrrWeight pq c (sc.gport c port)) (db.hw.queueRegs c (sc.gport c port))

theorem WdrrStart.ptr (h : WdrrStart db) (k : Oid) : db.ptr (.queue k) = none := by
  rw [SchedDb.ptr, Option.bind_eq_none_iff]
  intro q hq
  rw [queueSchedPtr, numberPtr, if_pos (h.queues k q hq).1]

theorem WdrrStart.inv (h : WdrrStart db) : WdrrInv pq db := by
  have hnone : ∀ c gport i, db.wdrrWeight pq c gport i = none :=
    fun c gport i => wdrrWeight_of_none (h.ptr _)
  refine ⟨⟨h.profiles, ⟨fun k q hq hz => ?_, fun k p hp => ?_⟩, fun k q hq => (h.queues k q hq).2,
    h.ports, fun c gport i => by rw [hnone]; nofun⟩, h.quiet, fun c port hport => ⟨?_, fun i hi => ?_⟩⟩
  · exact absurd (h.queues k q hq).1 hz
  · rw [h.ptr] at hp
    cases hp
  · have hempty : weightedQueues (db.wdrrWeight pq c (sc.gport c port)) = ∅ := by
      simp [weightedQueues, hnone]
    rw [hempty]
    exact .of_alone fun i hi => (h.regs c port hport i hi).1
  · rw [hnone]
    exact (h.regs c port hport i hi).2

/-- The invariant says what is promised. -/
theorem WdrrInv.port (h : WdrrInv pq db) {port : Nat} (hport : port < sc.maxPhyPortNum c) :
    WdrrPort pq db c (sc.gport c port) := by
  have hs := h.shaped c port hport
  have hout : ∀ i, db.wdrrWeight pq c (sc.gport c port) i = none →
      i ∉ weightedQueues (db.wdrrWeight pq c (sc.gport c port)) := by
    intro i hn hi
    have hsome := hi.2
    rw [hn] at hsome
    cases hsome
  exact {
    common := fun i hi j hj hwi hwj => hs.classes.common ⟨hi, hwi⟩ ⟨hj, hwj⟩
    apart := fun i hi j hj hwi hwj => hs.classes.apart ⟨hi, hwi⟩ hj (hout j hwj)
    alone := fun i hi hn => ⟨hs.classes.alone i hi (hout i hn), by
      have hweight := hs.weights i hi
      rwa [hn] at hweight⟩
    weight := fun i hi v hv => by
      have hweight := hs.weights i hi
      rwa [hv] at hweight }

/-! ## Steps of the calls -/

theorem Shaped.congr {w w' : BitVec 8 → Option (BitVec 8)} {r : QueueRegs} (h : Shaped w r)
    (he : ∀ j ∈ queueIndexes, w j = w' j) : Shaped w' r := by
  have hset : weightedQueues w' = weightedQueues w := by
    ext j
    refine and_congr_right fun hj => ?_
    rw [he j hj]
  exact ⟨hset ▸ h.classes, fun j hj => he j hj ▸ h.weights j hj⟩

/-- A queue is mapped once its profile is stored: it gets what the profile says, and a queue that
has this by now keeps it.  When the profile is DWRR, nobody is taken for DWRR who is not. -/
theorem WdrrObjects.map (h : WdrrObjects pq db) (hi : i ∈ queueIndexes)
    (hptr : db.ptr (.queue (portQueue pq c gport i)) = some p)
    (hs : db.schedulers.lookup p = some s) {w : BitVec 8 → Option (BitVec 8)}
    (hshape : Shaped w (hw.queueRegs c gport)) (hquiet : hw.answers = [])
    (hsub : s.wdrrWeight.isSome → ∀ j ∈ queueIndexes, (w j).isSome →
      (db.wdrrWeight pq c gport j).isSome) :
    ∃ w', Shapes c gport w' hw (queueMapScheduler db c gport i (some s) hw) ∧
      w' i = db.wdrrWeight pq c gport i ∧
      ∀ j ∈ queueIndexes, w j = db.wdrrWeight pq c gport j → w' j = db.wdrrWeight pq c gport j := by
  have hd := wdrrWeight_of_ptr hptr hs
  cases hv : s.wdrrWeight with
  | none =>
    have htype : s.schType = schedulingTypeStrict := by
      refine (h.profiles.types p s hs).resolve_right fun hdwrr => ?_
      have hsome := Scheduler.wdrrWeight_isSome.mpr hdwrr
      rw [hv] at hsome
      cases hsome
    refine ⟨_, hshape.strict hquiet db hi htype, ?_, fun j _ hj => ?_⟩
    · rw [hd, hv, update_self]
    · rw [update_apply]
      split
      · next he => rw [he, hd, hv]
      · exact hj
  | some v =>
    have hv0 : v ≠ 0 := by
      rintro rfl
      exact h.nonzero c gport i (hd.trans hv)
    have hsome : (db.wdrrWeight pq c gport i).isSome := by rw [hd, hv]; rfl
    refine ⟨_, hshape.wdrr hquiet h.queues hi hv hv0 hsome (hsub (by rw [hv]; rfl)), ?_, fun j _ hj => ?_⟩
    · rw [wdrrMapped, if_pos rfl, hd, hv]
    · rw [wdrrMapped]
      split
      · next he => rw [he, hd, hv]
      rw [hj]
      cases db.wdrrWeight pq c gport j with
      | none => rfl
      | some v => rfl

/-- The registers of one port are written, and what the profiles say changes there only. -/
theorem WdrrInv.shapes (h : WdrrInv pq db) (ho : WdrrObjects pq db') {r : Status × SchedHw}
    (hs : Shapes c gport (db'.wdrrWeight pq c gport) db.hw r) (hr : db'.hw = r.2)
    (hother : ∀ c' gport', (c', gport') ≠ (c, gport) →
      db'.wdrrWeight pq c' gport' = db.wdrrWeight pq c' gport') : WdrrInv pq db' := by
  refine ⟨ho, hr ▸ hs.quiet, fun c' port hport => ?_⟩
  rw [hr]
  by_cases he : (c', sc.gport c' port) = (c, gport)
  · obtain ⟨rfl, rfl⟩ := Prod.mk.inj he
    exact hs.shaped
  · rw [hs.others _ _ he, hother _ _ he]
    exact h.shaped c' port hport

/-! ### Records -/

theorem wdrrWeight_setQueue (db : SchedDb sc) (q : Queue) (c' : Lchip) (gport' : BitVec 32)
    (j : BitVec 8) :
    ({ db with queues := db.queues.insert (portQueue pq c gport i) q } : SchedDb sc).wdrrWeight
        pq c' gport' j =
      if c' = c ∧ gport' = gport ∧ j = i then
        (queueSchedPtr (portQueue pq c gport i) q).bind fun p =>
          (db.schedulers.lookup p).bind Scheduler.wdrrWeight
      else db.wdrrWeight pq c' gport' j := by
  rw [SchedDb.wdrrWeight, ptr_setQueue, update_apply]
  simp only [SchedUser.queue.injEq, portQueue_inj]
  split
  · rfl
  · rfl

theorem WdrrObjects.setQueue (h : WdrrObjects pq db) {port : Nat} (hport : port < sc.maxPhyPortNum c)
    (hi : i ∈ queueIndexes) {q : Queue} (hgrp : q.schGrp = Oid.null)
    (hq : q.schId = 0 ∨ ∃ s, db.schedulers.lookup (schedulerOid c q.schId) = some s ∧
      s.wdrrWeight ≠ some 0) :
    WdrrObjects pq { db with
      queues := db.queues.insert (portQueue pq c (sc.gport c port) i) q } := by
  have hptr : q.schId ≠ 0 → queueSchedPtr (portQueue pq c (sc.gport c port) i) q =
      some (schedulerOid c q.schId) := by
    intro hz
    rw [queueSchedPtr, numberPtr, if_neg hz, lchip_portQueue]
  refine ⟨⟨h.profiles.form, h.profiles.types⟩,
    ⟨forall_insert (fun _ => ⟨c, port, hport, i, hi, rfl⟩) h.queues.bound, fun k p hp => ?_⟩,
    forall_insert hgrp h.alone, h.ports, fun c' gport' j => ?_⟩
  · rw [ptr_setQueue, update_apply] at hp
    split at hp
    · cases hq with
      | inl hz =>
        rw [queueSchedPtr, numberPtr, if_pos hz] at hp
        cases hp
      | inr hex =>
        obtain ⟨s, hs, -⟩ := hex
        by_cases hz : q.schId = 0
        · rw [queueSchedPtr, numberPtr, if_pos hz] at hp
          cases hp
        · rw [hptr hz] at hp
          cases hp
          exact ⟨s, hs⟩
    · exact h.queues.live k p hp
  · rw [wdrrWeight_setQueue]
    split
    · by_cases hz : q.schId = 0
      · rw [queueSchedPtr, numberPtr, if_pos hz]
        rintro ⟨⟩
      · obtain ⟨s, hs, hw0⟩ := hq.resolve_left hz
        rw [hptr hz, Option.bind_some, hs]
        exact hw0
    · exact h.nonzero c' gport' j

theorem wdrrWeight_recount {s' : Scheduler} (hl : db.schedulers.lookup p = some s)
    (hs : s'.wdrrWeight = s.wdrrWeight) (c : Lchip) (gport : BitVec 32) (j : BitVec 8) :
    ({ db with schedulers := db.schedulers.insert p s' } : SchedDb sc).wdrrWeight pq c gport j =
      db.wdrrWeight pq c gport j := by
  refine congrArg _ (funext fun p' => ?_)
  rw [lookup_insert_ite]
  split
  · next he =>
    rw [he, hl]
    exact hs
  · rfl

theorem WdrrObjects.recount (h : WdrrObjects pq db) {p : Oid} {s s' : Scheduler}
    (hl : db.schedulers.lookup p = some s) (ht : s'.schType = s.schType)
    (hw : s'.weight = s.weight) :
    WdrrObjects pq { db with schedulers := db.schedulers.insert p s' } := by
  have hs : s'.wdrrWeight = s.wdrrWeight := by rw [Scheduler.wdrrWeight, ht, hw]; rfl
  refine ⟨⟨forall_insert (h.profiles.form p s hl) h.profiles.form, ?_⟩,
    ⟨h.queues.bound, fun k p' hp => exists_insert (h.queues.live k p' hp) _ _⟩, h.alone, h.ports,
    fun c gport j => ?_⟩
  · refine forall_insert ?_ h.profiles.types
    rw [ht]
    exact h.profiles.types p s hl
  · rw [wdrrWeight_recount hl hs]
    exact h.nonzero c gport j

theorem WdrrInv.recount (h : WdrrInv pq db) {p : Oid} {s s' : Scheduler}
    (hl : db.schedulers.lookup p = some s) (ht : s'.schType = s.schType)
    (hw : s'.weight = s.weight) :
    WdrrInv pq { db with schedulers := db.schedulers.insert p s' } := by
  have hs : s'.wdrrWeight = s.wdrrWeight := by rw [Scheduler.wdrrWeight, ht, hw]; rfl
  refine ⟨h.objects.recount hl ht hw, h.quiet, fun c port hport => ?_⟩
  exact (h.shaped c port hport).congr fun j _ => (wdrrWeight_recount hl hs _ _ _).symm

theorem Scheduler.release_type (s : Scheduler) : s.release.schType = s.schType := by
  rw [Scheduler.release]
  split
  · rfl
  · rfl

theorem Scheduler.release_weight (s : Scheduler) : s.release.weight = s.weight := by
  rw [Scheduler.release]
  split
  · rfl
  · rfl

theorem WdrrInv.releaseOld (h : WdrrInv pq db) (old : Oid) :
    WdrrInv pq (db.releaseOld c old).2 := by
  rw [SchedDb.releaseOld]
  split
  · exact h
  · next s hs => exact h.recount (lookup_of_scheduler hs).2 s.release_type s.release_weight

/-! ### Setting a queue -/

theorem ptr_makeQueue (hn : db.queues.lookup k = none) :
    ({ db with queues := db.queues.insert k .zero } : SchedDb sc).ptr = db.ptr := by
  have hk : db.ptr (.queue k) = none := by rw [SchedDb.ptr, hn, Option.bind_none]
  rw [ptr_setQueue, update_eq_self_iff, hk]
  rfl

theorem wdrrWeight_makeQueue {k : Oid} (hn : db.queues.lookup k = none) :
    ({ db with queues := db.queues.insert k .zero } : SchedDb sc).wdrrWeight pq =
      db.wdrrWeight pq := by
  funext c gport j
  rw [SchedDb.wdrrWeight, ptr_makeQueue hn]
  rfl

theorem WdrrInv.make (h : WdrrInv pq db) (hn : db.queues.lookup k = none) :
    WdrrInv pq { db with queues := db.queues.insert k .zero } := by
  have hptr := ptr_makeQueue hn
  have hw := @wdrrWeight_makeQueue sc pq db k hn
  refine ⟨⟨⟨h.objects.profiles.form, h.objects.profiles.types⟩,
    ⟨forall_insert (fun hz => absurd rfl hz) h.objects.queues.bound, fun k' p hp => ?_⟩,
    forall_insert rfl h.objects.alone, h.objects.ports, fun c gport j => ?_⟩, h.quiet,
    fun c port hport => ?_⟩
  · rw [hptr] at hp
    exact h.objects.queues.live k' p hp
  · rw [hw]
    exact h.objects.nonzero c gport j
  · rw [hw]
    exact h.shaped c port hport

section SetQueue

variable {port : Nat} {oid : Oid} {q : Queue}

/-- A queue is set to a profile: the number is stored, and the queue is mapped. -/
theorem WdrrInv.enable (h : WdrrInv pq db) (hport : port < sc.maxPhyPortNum c)
    (hi : i ∈ queueIndexes)
    (hq : db.queues.lookup (portQueue pq c (sc.gport c port) i) = some q) {s : Scheduler}
    (hs : db.schedulers.lookup oid = some s) (hc : oid.lchip = c) (hw0 : s.wdrrWeight ≠ some 0)
    {stored : SchedDb sc}
    (hstored : stored = if q.schId ≠ oid.value then
      db.setSchId (portQueue pq c (sc.gport c port) i) q oid.value else db) :
    (queueMapScheduler stored c (sc.gport c port) i (some s) stored.hw).1 = .success ∧
      WdrrInv pq (stored.withHw
        (queueMapScheduler stored c (sc.gport c port) i (some s) stored.hw)).2 := by
  have hgrp : q.schGrp = Oid.null := h.objects.alone _ _ hq
  have hform := h.objects.profiles.form oid s hs
  have hnumber : numberPtr (portQueue pq c (sc.gport c port) i) oid.value = some oid :=
    numberPtr_of_value (by rw [lchip_portQueue, hc]) ⟨hform.1, hform.2.1⟩
  -- what is stored: the objects, the pointer of the queue, and nothing of any other queue
  have hfacts : WdrrObjects pq stored ∧ stored.hw = db.hw ∧ stored.schedulers = db.schedulers ∧
      stored.ptr (.queue (portQueue pq c (sc.gport c port) i)) = some oid ∧
      ∀ c' gport' j, ¬ (c' = c ∧ gport' = sc.gport c port ∧ j = i) →
        stored.wdrrWeight pq c' gport' j = db.wdrrWeight pq c' gport' j := by
    by_cases hne : q.schId ≠ oid.value
    · rw [if_pos hne] at hstored
      subst hstored
      refine ⟨h.objects.setQueue hport hi hgrp (.inr ⟨s, ?_, hw0⟩), rfl, rfl, ?_,
        fun c' gport' j hnot => ?_⟩
      · rw [← hc, ← hform.1]
        exact hs
      · rw [SchedDb.setSchId, ptr_setQueue, update_self]
        exact hnumber
      · rw [SchedDb.setSchId, wdrrWeight_setQueue, if_neg hnot]
    rw [if_neg hne] at hstored
    subst hstored
    refine ⟨h.objects, rfl, rfl, ?_, fun _ _ _ _ => rfl⟩
    rw [ptr_queue_of hq, queueSchedPtr, not_not.mp hne]
    exact hnumber
  obtain ⟨ho, hhw, hsch, hptr, hother⟩ := hfacts
  have hs' : stored.schedulers.lookup oid = some s := hsch ▸ hs
  obtain ⟨w', hmap, hwi, hkeep⟩ := ho.map hi hptr hs' (hhw ▸ h.shaped c port hport)
    (hhw ▸ h.quiet) (fun hsome j _ hj => by
      by_cases hji : j = i
      · rw [hji, wdrrWeight_of_ptr hptr hs']
        exact hsome
      · rwa [hother c _ j fun hand => hji hand.2.2])
  have hshape : Shapes c (sc.gport c port) (stored.wdrrWeight pq c (sc.gport c port)) db.hw
      (queueMapScheduler stored c (sc.gport c port) i (some s) stored.hw) := by
    rw [hhw] at hmap ⊢
    refine ⟨hmap.success, hmap.quiet, hmap.shaped.congr fun j hj => ?_, hmap.others⟩
    by_cases hji : j = i
    · rw [hji, hwi]
    · exact hkeep j hj (hother c _ j fun hand => hji hand.2.2).symm
  refine ⟨hmap.success, h.shapes ?_ hshape rfl fun c' gport' hne => funext fun j => ?_⟩
  · exact ⟨⟨ho.profiles.form, ho.profiles.types⟩, ⟨ho.queues.bound, ho.queues.live⟩, ho.alone,
      ho.ports, ho.nonzero⟩
  · exact hother c' gport' j fun hand => hne (Prod.ext hand.1 hand.2.1)

/-- A queue loses its profile, when nobody else is in the class of its index. -/
theorem WdrrInv.disable (h : WdrrInv pq db) (hport : port < sc.maxPhyPortNum c)
    (hi : i ∈ queueIndexes)
    (hq : db.queues.lookup (portQueue pq c (sc.gport c port) i) = some q)
    (hfree : i ∈ weightedQueues (db.wdrrWeight pq c (sc.gport c port)) →
      (∃ j ∈ weightedQueues (db.wdrrWeight pq c (sc.gport c port)), j < i) ∨
        ∀ j ∈ weightedQueues (db.wdrrWeight pq c (sc.gport c port)), j = i) :
    (queueMapScheduler db c (sc.gport c port) i none db.hw).1 = .success ∧
      WdrrInv pq { db with
        hw := (queueMapScheduler db c (sc.gport c port) i none db.hw).2
        queues := db.queues.insert (portQueue pq c (sc.gport c port) i) { q with schId := 0 } } := by
  have hshape := (h.shaped c port hport).clear h.quiet db hfree
  have hgrp : q.schGrp = Oid.null := h.objects.alone _ _ hq
  have ho := h.objects.setQueue hport hi (q := { q with schId := 0 }) hgrp (.inl rfl)
  have hother := @wdrrWeight_setQueue sc pq c (sc.gport c port) i db { q with schId := 0 }
  have ho' : WdrrObjects pq { db with
      hw := (queueMapScheduler db c (sc.gport c port) i none db.hw).2
      queues := db.queues.insert (portQueue pq c (sc.gport c port) i) { q with schId := 0 } } :=
    ⟨⟨ho.profiles.form, ho.profiles.types⟩, ⟨ho.queues.bound, ho.queues.live⟩, ho.alone, ho.ports,
      ho.nonzero⟩
  refine ⟨hshape.success, h.shapes ho' ⟨hshape.success, hshape.quiet,
    hshape.shaped.congr fun j _ => ?_, hshape.others⟩ rfl fun c' gport' hne => funext fun j => ?_⟩
  · refine Eq.trans ?_ (hother c (sc.gport c port) j).symm
    rw [update_apply]
    by_cases hji : j = i
    · rw [if_pos hji, if_pos ⟨rfl, rfl, hji⟩, queueSchedPtr, numberPtr, if_pos rfl, Option.bind_none]
    · rw [if_neg hji, if_neg fun hand => hji hand.2.2]
  · exact (hother c' gport' j).trans (if_neg fun hand => hne (Prod.ext hand.1 hand.2.1))

theorem WdrrInv.queueSet (h : WdrrInv pq db) (hport : port < sc.maxPhyPortNum c)
    (hi : i ∈ queueIndexes)
    (hq : db.queues.lookup (portQueue pq c (sc.gport c port) i) = some q)
    (hnew : oid ≠ Oid.null → ∀ s, db.schedulers.lookup oid = some s → s.wdrrWeight ≠ some 0)
    (hfree : oid = Oid.null → i ∈ weightedQueues (db.wdrrWeight pq c (sc.gport c port)) →
      (∃ j ∈ weightedQueues (db.wdrrWeight pq c (sc.gport c port)), j < i) ∨
        ∀ j ∈ weightedQueues (db.wdrrWeight pq c (sc.gport c port)), j = i) :
    WdrrInv pq (queueSetScheduler db (portQueue pq c (sc.gport c port) i) oid).2 := by
  rw [queueSetScheduler]
  rw [if_neg (by rw [subType_portQueue]; exact basicQueueType_ne _), hq]
  simp only [lchip_portQueue, value_portQueue, index_portQueue]
  split
  · next hnull =>
    split
    · exact h
    split
    · exact h
    next hc _ s hs =>
    obtain ⟨hlc, hl⟩ := lookup_of_scheduler hs
    obtain ⟨hsuccess, hinv⟩ := h.enable hport hi hq hl hlc (hnew hnull s hl) rfl
    have hl' : (if q.schId ≠ oid.value then
        db.setSchId (portQueue pq c (sc.gport c port) i) q oid.value
        else db).schedulers.lookup oid = some s := by
      split
      · exact hl
      · exact hl
    generalize (if q.schId ≠ oid.value then
      db.setSchId (portQueue pq c (sc.gport c port) i) q oid.value else db) = stored at *
    generalize queueMapScheduler stored c (sc.gport c port) i (some s) stored.hw = r at *
    obtain ⟨st, hw'⟩ := r
    obtain rfl : st = .success := hsuccess
    have hbound := @WdrrInv.recount _ _ _ hinv _ s s.hold hl' rfl rfl
    dsimp only [SchedDb.withHw] at hinv hbound ⊢
    split
    · split
      · exact hbound
      · exact hbound.releaseOld _
    · exact hinv
  · next hnull =>
    split
    · exact h
    next hz =>
    obtain ⟨hsuccess, hinv⟩ := h.disable hport hi hq (hfree (not_not.mp hnull))
    generalize queueMapScheduler db c (sc.gport c port) i none db.hw = r at *
    obtain ⟨st, hw'⟩ := r
    obtain rfl : st = .success := hsuccess
    dsimp only [SchedDb.withHw] at hinv ⊢
    split
    · next hn =>
      have hptr := ptr_queue_of hq
      rw [queueSchedPtr, numberPtr, if_neg hz, lchip_portQueue] at hptr
      obtain ⟨s, hs⟩ := h.objects.queues.live _ _ hptr
      cases (scheduler_of_lookup (lchip_schedulerOid _ _) hs).symm.trans hn
    · next s hs =>
      have hl := (lookup_of_scheduler hs).2
      exact hinv.recount hl s.release_type s.release_weight

theorem WdrrInv.setQueueScheduler (h : WdrrInv pq db) (mem : RecordMem)
    (hport : port < sc.maxPhyPortNum c) (hi : i ∈ queueIndexes)
    (hsafe : WdrrSafe pq db (.setQueue mem c port i oid)) :
    WdrrInv pq (CtcSai.setQueueScheduler db mem (portQueue pq c (sc.gport c port) i) oid).2 := by
  have hnew : oid ≠ Oid.null → ∀ s, db.schedulers.lookup oid = some s → s.wdrrWeight ≠ some 0 := by
    intro hn
    simp only [WdrrSafe, if_neg hn] at hsafe
    exact hsafe
  have hfree : oid = Oid.null → i ∈ weightedQueues (db.wdrrWeight pq c (sc.gport c port)) →
      (∃ j ∈ weightedQueues (db.wdrrWeight pq c (sc.gport c port)), j < i) ∨
        ∀ j ∈ weightedQueues (db.wdrrWeight pq c (sc.gport c port)), j = i := by
    intro hn
    simp only [WdrrSafe, if_pos hn] at hsafe
    exact hsafe
  rw [CtcSai.setQueueScheduler]
  split
  · exact h
  split
  · exact h
  split
  · exact h
  next r queues hg =>
  rcases getQueueDb_cases hg with ⟨hl, rfl⟩ | ⟨hn, rfl, rfl⟩
  · exact h.queueSet hport hi hl hnew hfree
  have hmade := h.make hn
  refine hmade.queueSet hport hi (AList.lookup_insert _) hnew ?_
  rw [wdrrWeight_makeQueue hn]
  exact hfree

end SetQueue

/-! ### Changing a profile -/

theorem WdrrObjects.withHw (h : WdrrObjects pq db) (hw : SchedHw) :
    WdrrObjects pq { db with hw := hw } :=
  ⟨⟨h.profiles.form, h.profiles.types⟩, ⟨h.queues.bound, h.queues.live⟩, h.alone, h.ports, h.nonzero⟩

section Change

variable {p : Oid} {s : Scheduler} {q : Queue} {w : BitVec 8 → Option (BitVec 8)}

theorem queueSetScheduler_again (hq : db.queues.lookup (portQueue pq c gport i) = some q)
    (hs : db.scheduler c p = some s) (hp : p ≠ Oid.null) (hsame : q.schId = p.value)
    (hmap : (queueMapScheduler db c gport i (some s) db.hw).1 = .success) :
    queueSetScheduler db (portQueue pq c gport i) p =
      (.success, { db with hw := (queueMapScheduler db c gport i (some s) db.hw).2 }) := by
  have hc : c = p.lchip := (lookup_of_scheduler hs).1.symm
  rw [queueSetScheduler, if_neg (by rw [subType_portQueue]; exact basicQueueType_ne _), hq]
  dsimp only
  rw [if_pos hp, lchip_portQueue, if_neg (not_not.mpr hc), hs]
  simp only [index_portQueue, value_portQueue, hsame, ne_eq, not_true, if_false]
  generalize queueMapScheduler db c gport i (some s) db.hw = r at *
  obtain ⟨st, hw'⟩ := r
  obtain rfl : st = .success := hmap
  rfl

/-- What the loop has still to do: queues of the profile `p` that are in `l`. -/
def PendingIn (pq : Lchip → BitVec 8) (db : SchedDb sc) (c : Lchip) (gport : BitVec 32) (p : Oid)
    (l : List (BitVec 8)) (w : BitVec 8 → Option (BitVec 8)) : Prop :=
  ∀ j ∈ queueIndexes, (db.ptr (.queue (portQueue pq c gport j)) = some p ∧ j ∈ l) ∨
    w j = db.wdrrWeight pq c gport j

theorem WdrrObjects.applyToQueue (h : WdrrObjects pq db) (hs : db.schedulers.lookup p = some s)
    (hc : p.lchip = c) (hi : i ∈ queueIndexes) {l : List (BitVec 8)}
    (hq : db.queues.lookup (portQueue pq c gport i) = some q)
    (hptr : db.ptr (.queue (portQueue pq c gport i)) = some (schedulerOid c q.schId))
    (hshape : Shaped w (hw.queueRegs c gport)) (hquiet : hw.answers = [])
    (hpend : PendingIn pq db c gport p (i :: l) w) (foreign : ForeignNodes) (fuel : Nat)
    (attr : SchedulerAttr) :
    ∃ hw' w', CtcSai.applyToQueue foreign fuel c p attr (portQueue pq c gport i) q
        { db with hw := hw } = some (.success, { db with hw := hw' }) ∧
      Shapes c gport w' hw (.success, hw') ∧ PendingIn pq db c gport p l w' := by
  have hform := h.profiles.form p s hs
  have hp : p ≠ Oid.null := by
    intro he
    exact hform.2.1 (congrArg Oid.value he)
  have hgrp : q.schGrp = Oid.null := h.alone _ _ hq
  by_cases hsame : q.schId = p.value
  · have hpi : db.ptr (.queue (portQueue pq c gport i)) = some p := by
      rw [hptr, hsame, ← hc, ← hform.1]
    obtain ⟨w', hmap, hwi, hkeep⟩ := (h.withHw hw).map hi hpi hs hshape hquiet
      (fun hsome j hj hwj => by
        rcases hpend j hj with ⟨hpj, -⟩ | he
        · have hwj' : db.wdrrWeight pq c gport j = s.wdrrWeight := wdrrWeight_of_ptr hpj hs
          exact hwj' ▸ hsome
        · exact he ▸ hwj)
    have hagain := @queueSetScheduler_again sc pq { db with hw := hw } _ _ _ _ _ _ hq
      (scheduler_of_lookup hc hs) hp hsame hmap.success
    refine ⟨_, w', ?_, ⟨rfl, hmap.quiet, hmap.shaped, hmap.others⟩, fun j hj => ?_⟩
    · rw [CtcSai.applyToQueue, if_pos hsame, hagain]
      -- the queue has no group, so nothing is attached once more
      simp [hq, hgrp]
    · by_cases hji : j = i
      · exact .inr (hji ▸ hwi)
      · rcases hpend j hj with ⟨hpj, hmem⟩ | he
        · exact .inl ⟨hpj, (List.mem_cons.mp hmem).resolve_left hji⟩
        · exact .inr (hkeep j hj he)
  · refine ⟨hw, w, ?_, ⟨rfl, hquiet, hshape, fun _ _ _ => rfl⟩, fun j hj => ?_⟩
    · rw [CtcSai.applyToQueue, if_neg hsame]
      simp [hq, hgrp]
    · rcases hpend j hj with ⟨hpj, hmem⟩ | he
      · refine .inl ⟨hpj, (List.mem_cons.mp hmem).resolve_left fun hji => hsame ?_⟩
        rw [hji, hptr] at hpj
        exact congrArg Oid.value (Option.some.inj hpj)
      · exact .inr he

theorem WdrrObjects.applyToQueues (h : WdrrObjects pq db) (hs : db.schedulers.lookup p = some s)
    (hc : p.lchip = c) (foreign : ForeignNodes) (fuel : Nat) (attr : SchedulerAttr)
    (l : List (BitVec 8)) (hl : ∀ i ∈ l, i ∈ queueIndexes) :
    ∀ (hw : SchedHw) (w : BitVec 8 → Option (BitVec 8)), Shaped w (hw.queueRegs c gport) →
      hw.answers = [] → PendingIn pq db c gport p l w →
      ∃ hw', CtcSai.applyToQueues foreign fuel c p attr gport l { db with hw := hw } =
          some (.success, { db with hw := hw' }) ∧
        Shapes c gport (db.wdrrWeight pq c gport) hw (.success, hw') := by
  induction l with
  | nil =>
    intro hw w hshape hquiet hpend
    have hall : ∀ j ∈ queueIndexes, w j = db.wdrrWeight pq c gport j := fun j hj =>
      (hpend j hj).resolve_left fun hin => List.not_mem_nil hin.2
    exact ⟨hw, rfl, ⟨rfl, hquiet, hshape.congr hall, fun _ _ _ => rfl⟩⟩
  | cons i rest ih =>
    intro hw w hshape hquiet hpend
    have hi := hl i List.mem_cons_self
    have ih := ih fun j hj => hl j (List.mem_cons_of_mem _ hj)
    rw [CtcSai.applyToQueues]
    rcases (h.withHw hw).queues.queueOf_cases c gport i with ⟨hn, hptr⟩ | ⟨q, t, hq, hl, hptr, -⟩
    · rw [hn]
      refine ih hw w hshape hquiet fun j hj => ?_
      rcases hpend j hj with ⟨hpj, hmem⟩ | he
      · refine .inl ⟨hpj, (List.mem_cons.mp hmem).resolve_left fun hji => ?_⟩
        subst hji
        cases hptr.symm.trans hpj
      · exact .inr he
    rw [hq]
    obtain ⟨hw₁, w₁, happly, hshapes, hpend₁⟩ := h.applyToQueue hs hc hi hl hptr hshape hquiet
      hpend foreign fuel attr
    obtain ⟨hw₂, hrest, hshapes₂⟩ := ih hw₁ w₁ hshapes.shaped hshapes.quiet hpend₁
    refine ⟨hw₂, ?_, ⟨rfl, hshapes₂.quiet, hshapes₂.shaped, fun c' g' hne =>
      (hshapes₂.others c' g' hne).trans (hshapes.others c' g' hne)⟩⟩
    dsimp only
    rw [happly]
    exact hrest

theorem WdrrObjects.applyToPort (h : WdrrObjects pq db) (hs : db.schedulers.lookup p = some s)
    (hc : p.lchip = c) (hquiet : hw.answers = []) :
    ∃ hw', CtcSai.applyToPort c p gport { db with hw := hw } =
        (.success, { db with hw := hw' }) ∧ hw'.answers = [] ∧ hw'.queueRegs = hw.queueRegs := by
  have hform := h.profiles.form p s hs
  have hlc : (physicalPortOid c gport).lchip = c := lchip_createObjectId _ _ _ _ _
  rw [CtcSai.applyToPort]
  split
  · exact ⟨hw, rfl, hquiet, rfl⟩
  next n hn =>
  split
  · next hsame =>
    -- a port with a profile is one of chip 0, the only one whose record is found
    have h0 := h.ports _ _ hn (hsame ▸ hform.2.1)
    have hknown : sc.known 0 = true := by
      rw [← h0, hlc, ← hc]
      exact hform.2.2
    have hp : p ≠ Oid.null := fun he => hform.2.1 (congrArg Oid.value he)
    rw [hlc] at h0
    have hfound : (if (physicalPortOid c gport).lchip = 0 then
        db.ports.lookup (physicalPortOid c gport) else none) = some n := by
      rw [if_pos (hlc.trans h0)]
      exact hn
    rw [portSetScheduler]
    rw [hfound]
    dsimp only
    rw [if_pos hp, hlc, h0, hknown, if_neg (not_not.mpr (hc.trans h0).symm)]
    have hfirst : ({ db with hw := hw } : SchedDb sc).scheduler 0 p = some s :=
      scheduler_of_lookup (hc.trans h0) hs
    rw [hfirst]
    dsimp only
    rw [SchedHw.setShape_quiet hquiet]
    dsimp only [SchedDb.withHw]
    rw [if_pos hsame]
    exact ⟨_, rfl, hquiet, rfl⟩
  · exact ⟨hw, rfl, hquiet, rfl⟩

/-- Before and after the change of a profile the queues that do not have it have one weight. -/
def SameElsewhere (pq : Lchip → BitVec 8) (db₀ db : SchedDb sc) (p : Oid) : Prop :=
  ∀ c gport j, db.ptr (.queue (portQueue pq c gport j)) = some p ∨
    db₀.wdrrWeight pq c gport j = db.wdrrWeight pq c gport j

/-- The loop over the physical ports.  A port has the old shape or the new one, those the loop
has been at have the new one. -/
theorem WdrrObjects.applyToPorts (h : WdrrObjects pq db) (hs : db.schedulers.lookup p = some s)
    (hc : p.lchip = c) {db₀ : SchedDb sc} (helse : SameElsewhere pq db₀ db p)
    (foreign : ForeignNodes) (fuel : Nat) (attr : SchedulerAttr) (ports : List (BitVec 32)) :
    ∀ hw : SchedHw, hw.answers = [] →
      (∀ gport ∈ ports, Shaped (db₀.wdrrWeight pq c gport) (hw.queueRegs c gport) ∨
        Shaped (db.wdrrWeight pq c gport) (hw.queueRegs c gport)) →
      ∃ hw', CtcSai.applyToPorts foreign fuel c p attr ports { db with hw := hw } =
          some (.success, { db with hw := hw' }) ∧ hw'.answers = [] ∧
        (∀ gport ∈ ports, Shaped (db.wdrrWeight pq c gport) (hw'.queueRegs c gport)) ∧
        ∀ c' gport', (c' = c → gport' ∉ ports) →
          hw'.queueRegs c' gport' = hw.queueRegs c' gport' := by
  induction ports with
  | nil =>
    intro hw hquiet _
    exact ⟨hw, rfl, hquiet, fun _ hg => absurd hg List.not_mem_nil, fun _ _ _ => rfl⟩
  | cons g rest ih =>
    intro hw hquiet hold
    rw [CtcSai.applyToPorts]
    obtain ⟨hw₁, hport, hquiet₁, hregs₁⟩ :=
      @WdrrObjects.applyToPort sc pq db hw c g p s h hs hc hquiet
    rw [hport]
    dsimp only
    -- whichever shape the port has, what is not new is pending
    have hstart : ∃ w, Shaped w (hw₁.queueRegs c g) ∧ PendingIn pq db c g p queueIndexes w := by
      rw [hregs₁]
      cases hold g List.mem_cons_self with
      | inl hshape =>
        exact ⟨_, hshape, fun j hj => (helse c g j).imp_left fun hp => ⟨hp, hj⟩⟩
      | inr hshape => exact ⟨_, hshape, fun j _ => .inr rfl⟩
    obtain ⟨w, hshape, hpend⟩ := hstart
    obtain ⟨hw₂, hqueues, hshapes⟩ := h.applyToQueues hs hc foreign fuel attr queueIndexes
      (fun _ hj => hj) hw₁ w hshape hquiet₁ hpend
    rw [hqueues]
    have hkept : ∀ c' g', (c', g') ≠ (c, g) → hw₂.queueRegs c' g' = hw.queueRegs c' g' := by
      intro c' g' hne
      rw [hshapes.others c' g' hne, hregs₁]
    obtain ⟨hw₃, hrest, hquiet₃, hnew, hother⟩ := ih hw₂ hshapes.quiet fun g' hg' => by
      by_cases hgg : g' = g
      · subst hgg
        exact .inr hshapes.shaped
      · rw [hkept c g' fun he => hgg (Prod.mk.inj he).2]
        exact hold g' (List.mem_cons_of_mem _ hg')
    refine ⟨hw₃, hrest, hquiet₃, fun g' hg' => ?_, fun c' g' hnot => ?_⟩
    · by_cases hin : g' ∈ rest
      · exact hnew g' hin
      · have hgg : g' = g := (List.mem_cons.mp hg').resolve_right hin
        rw [hother c g' fun _ => hin, hgg]
        exact hshapes.shaped
    · rw [hother c' g' fun he hin => hnot he (List.mem_cons_of_mem _ hin)]
      exact hkept c' g' fun he => hnot (Prod.mk.inj he).1 ((Prod.mk.inj he).2 ▸ List.mem_cons_self)

end Change

theorem Scheduler.changed_type {s' : Scheduler} (h : s.changed attr = some s')
    (hattr : attr.strictOrDwrr = true)
    (hs : s.schType = schedulingTypeStrict ∨ s.schType = schedulingTypeDwrr) :
    s'.schType = schedulingTypeStrict ∨ s'.schType = schedulingTypeDwrr := by
  cases attr with
  | schedulingType t =>
    simp only [Scheduler.changed] at h
    split at h
    · cases h
    cases h
    simp only [SchedulerAttr.strictOrDwrr, Bool.or_eq_true, beq_iff_eq] at hattr
    rcases hattr with rfl | rfl
    · exact .inl (by show (schedulingTypeStrict.setWidth 32).setWidth 8 = _; decide)
    · exact .inr (by show (schedulingTypeDwrr.setWidth 32).setWidth 8 = _; decide)
  | meterType t => cases h
  | schedulingWeight _ | minBandwidthRate _ | minBandwidthBurstRate _ | maxBandwidthRate _
  | maxBandwidthBurstRate _ =>
    simp only [Scheduler.changed] at h
    split at h
    · cases h
    · cases h
      exact hs

section Insert

variable {oid : Oid} {s s' : Scheduler}

theorem wdrrWeight_change (db : SchedDb sc) (oid : Oid) (s' : Scheduler) (c : Lchip)
    (gport : BitVec 32) (j : BitVec 8) :
    ({ db with schedulers := db.schedulers.insert oid s' } : SchedDb sc).wdrrWeight pq c gport j =
      if db.ptr (.queue (portQueue pq c gport j)) = some oid then s'.wdrrWeight
      else db.wdrrWeight pq c gport j := by
  have hptr : ({ db with schedulers := db.schedulers.insert oid s' } : SchedDb sc).ptr
      (.queue (portQueue pq c gport j)) = db.ptr (.queue (portQueue pq c gport j)) := rfl
  rw [SchedDb.wdrrWeight, hptr, SchedDb.wdrrWeight]
  cases hp : db.ptr (.queue (portQueue pq c gport j)) with
  | none => rfl
  | some p =>
    simp only [Option.bind_some, lookup_insert_ite, Option.some.injEq]
    split
    · rfl
    · rfl

theorem WdrrObjects.change (h : WdrrObjects pq db) (hs : db.schedulers.lookup oid = some s)
    (htype : s'.schType = schedulingTypeStrict ∨ s'.schType = schedulingTypeDwrr)
    (hsafe : (∃ k, db.ptr (.queue k) = some oid) → s'.wdrrWeight ≠ some 0) :
    WdrrObjects pq { db with schedulers := db.schedulers.insert oid s' } := by
  refine ⟨⟨forall_insert (h.profiles.form oid s hs) h.profiles.form,
    forall_insert htype h.profiles.types⟩,
    ⟨h.queues.bound, fun k p hp => exists_insert (h.queues.live k p hp) _ _⟩, h.alone, h.ports,
    fun c gport j => ?_⟩
  rw [wdrrWeight_change]
  split
  · next hp => exact hsafe ⟨_, hp⟩
  · exact h.nonzero c gport j

end Insert

theorem lchip_of_ptr (h : db.ptr (.queue k) = some p) : p.lchip = k.lchip := by
  obtain ⟨q, -, hq⟩ := Option.bind_eq_some_iff.mp h
  rw [queueSchedPtr, numberPtr] at hq
  split at hq
  · cases hq
  · cases hq
    exact lchip_schedulerOid _ _

theorem WdrrInv.setAttr (h : WdrrInv pq db) {foreign : ForeignNodes} {fuel : Nat} {oid : Oid}
    (htype : attr.strictOrDwrr = true)
    (hsafe : WdrrSafe pq db (.setAttribute foreign fuel oid attr)) {r : Status × SchedDb sc}
    (hr : schedulerSetAttr foreign fuel oid attr db = some r) : WdrrInv pq r.2 := by
  rw [schedulerSetAttr] at hr
  split at hr
  · cases hr
    exact h
  next s hs =>
  split at hr
  · cases hr
    exact h
  next s' hchanged =>
  have hobjects := h.objects.change hs
    (Scheduler.changed_type hchanged htype (h.objects.profiles.types oid s hs))
    fun hex => hsafe hex s s' hs hchanged
  have helse : SameElsewhere pq db { db with schedulers := db.schedulers.insert oid s' } oid := by
    intro c gport j
    rw [wdrrWeight_change]
    split
    · next hp => exact .inl hp
    · exact .inr rfl
  have hcalls : hwThen db.hw.call SchedHw.call = (.success, db.hw) := by
    rw [SchedHw.call_quiet h.quiet]
    exact SchedHw.call_quiet h.quiet
  dsimp only at hr
  rw [hcalls] at hr
  obtain ⟨hw', happly, hquiet', hnew, hother⟩ := hobjects.applyToPorts (AList.lookup_insert _) rfl
    helse foreign fuel attr ((List.range (sc.maxPhyPortNum oid.lchip)).map (sc.gport oid.lchip))
    db.hw h.quiet fun gport hg => by
      obtain ⟨port, hport, rfl⟩ := List.mem_map.mp hg
      exact .inl (h.shaped _ port (List.mem_range.mp hport))
  cases happly.symm.trans hr
  refine ⟨hobjects.withHw hw', hquiet', fun c port hport => ?_⟩
  by_cases hc : c = oid.lchip
  · subst hc
    exact hnew _ (List.mem_map.mpr ⟨port, List.mem_range.mpr hport, rfl⟩)
  have hsame := hother c (sc.gport c port) fun he => absurd he hc
  refine Shaped.congr (hsame ▸ h.shaped c port hport) fun j _ => ?_
  refine (helse c _ j).resolve_left fun hp => hc ?_
  have hlc := lchip_of_ptr hp
  rw [lchip_portQueue] at hlc
  exact hlc.symm

theorem WdrrInv.setAttribute (h : WdrrInv pq db) {foreign : ForeignNodes} {fuel : Nat} {oid : Oid}
    (htype : attr.strictOrDwrr = true)
    (hsafe : WdrrSafe pq db (.setAttribute foreign fuel oid attr)) {r : Status × SchedDb sc}
    (hr : setSchedulerAttribute foreign fuel oid attr db = some r) : WdrrInv pq r.2 := by
  rw [setSchedulerAttribute.eq_def] at hr
  split at hr
  · cases hr
    exact h
  split at hr
  · cases hr
    exact h
  · exact h.setAttr htype hsafe hr

/-! ## Every run -/

theorem WdrrInv.step (h : WdrrInv pq db) {op : WdrrCall} (hsafe : WdrrSafe pq db op)
    (hst : wdrrStep pq db op = some db') : WdrrInv pq db' := by
  cases op with
  | setQueue mem c port i oid =>
    simp only [wdrrStep] at hst
    split at hst
    · next hin =>
      cases hst
      exact h.setQueueScheduler mem hin.1 hin.2 hsafe
    · cases hst
  | setAttribute foreign fuel oid attr =>
    simp only [wdrrStep] at hst
    split at hst
    · next htype =>
      obtain ⟨r, hr, rfl⟩ := Option.map_eq_some_iff.mp hst
      exact h.setAttribute htype hsafe hr
    · cases hst

/-- In every run that stays clear of the slips the queues of a port with a DWRR profile have one
exceed class and their weights, and every other queue the class of its own index and weight 1. -/
theorem wdrr_of_run (h : Reachable WdrrStart (WdrrSafe pq) (wdrrStep pq) db) {c : Lchip}
    {port : Nat} (hport : port < sc.maxPhyPortNum c) : WdrrPort pq db c (sc.gport c port) := by
  have hinv : WdrrInv pq db :=
    h.inv (fun _ hs => hs.inv) fun _ _ _ hs hsafe hst => hs.step hsafe hst
  exact hinv.port hport

/-! ## Two runs -/

/-- The number of a profile of chip 0. -/
def wdrrProfile (n : BitVec 32) : Oid := schedulerOid 0 n

/-- A profile with a type and a weight. -/
def plainScheduler (type weight : BitVec 8) : Scheduler := ⟨type, weight, 0, 0, 0, 0, 0⟩

/-- Every queue in the class of its own index, with weight 1. -/
def ownClasses : SchedReg → BitVec 8
  | .queueExceedClass _ _ i => i
  | .queueExceedWeight _ _ _ => 1
  | _ => 0

/-- The profiles of the runs: DWRR with weight 20, STRICT, and DWRR with weight 0. -/
def wdrrProfiles : Table Oid Scheduler :=
  (((∅ : Table Oid Scheduler).insert (wdrrProfile 1) (plainScheduler schedulingTypeDwrr 20)).insert
    (wdrrProfile 2) (plainScheduler schedulingTypeStrict 1)).insert
    (wdrrProfile 3) (plainScheduler schedulingTypeDwrr 0)

def wdrrInitial : SchedDb .plain :=
  ⟨wdrrProfiles, ∅, ∅, ∅, fun _ => Pool.empty _, ⟨ownClasses, fun _ => none, []⟩⟩

theorem wdrrInitial_start : WdrrStart wdrrInitial where
  profiles := by
    have hkeys : ∀ p s, wdrrProfiles.lookup p = some s →
        (p = wdrrProfile 1 ∨ p = wdrrProfile 2 ∨ p = wdrrProfile 3) ∧
          (s.schType = schedulingTypeStrict ∨ s.schType = schedulingTypeDwrr) := by
      intro p s hp
      simp only [wdrrProfiles, lookup_insert_ite] at hp
      split at hp
      · next he =>
        cases hp
        exact ⟨.inr (.inr he), .inr rfl⟩
      split at hp
      · next he =>
        cases hp
        exact ⟨.inr (.inl he), .inl rfl⟩
      split at hp
      · next he =>
        cases hp
        exact ⟨.inl he, .inr rfl⟩
      · cases hp
    refine ⟨fun p s hp => ?_, fun p s hp => (hkeys p s hp).2⟩
    rcases (hkeys p s hp).1 with rfl | rfl | rfl
    · decide
    · decide
    · decide
  queues _ _ h := by cases h
  ports _ _ h := by cases h
  quiet := rfl
  regs _ _ _ _ _ := ⟨rfl, rfl⟩

def eightQueues : Lchip → BitVec 8 := fun _ => 8

/-- Queues 2 and 5 of port 3 get the DWRR profile; queue 2 becomes STRICT, and the weight of the
profile changes. -/
theorem wdrr_of_run_strict : ∃ db : SchedDb .plain, WdrrPort eightQueues db 0 3 ∧
    db.hw.regs (.queueExceedClass 0 3 5) = 5 ∧ db.hw.regs (.queueExceedWeight 0 3 5) = 30 := by
  have hsafe : ∀ (db : SchedDb .plain) (mem : RecordMem) (i : BitVec 8) (n : BitVec 32),
      wdrrProfile n ≠ Oid.null →
      (∀ s, db.schedulers.lookup (wdrrProfile n) = some s → s.wdrrWeight ≠ some 0) →
      WdrrSafe eightQueues db (.setQueue mem 0 3 i (wdrrProfile n)) := by
    intro db mem i n hn hs
    rw [WdrrSafe, if_neg hn]
    exact hs
  have r₀ : Reachable WdrrStart (WdrrSafe eightQueues) (wdrrStep eightQueues) wdrrInitial :=
    .start wdrrInitial_start
  have r₁ := r₀.next (.setQueue .ok 0 3 2 (wdrrProfile 1)) (by
    refine hsafe _ _ _ _ (by decide) fun s hs => ?_
    cases hs
    decide) rfl
  have r₂ := r₁.next (.setQueue .ok 0 3 5 (wdrrProfile 1)) (by
    refine hsafe _ _ _ _ (by decide) fun s hs => ?_
    cases hs
    decide) rfl
  have r₃ := r₂.next (.setQueue .ok 0 3 2 (wdrrProfile 2)) (by
    refine hsafe _ _ _ _ (by decide) fun s hs => ?_
    cases hs
    decide) rfl
  have r₄ := r₃.next (.setAttribute (fun _ => none) 0 (wdrrProfile 1) (.schedulingWeight 30)) (by
    intro _ s s' hs hc
    cases hs
    cases hc
    decide) rfl
  exact ⟨_, wdrr_of_run r₄ (by decide), by decide, by decide⟩

/-- Queues 2 and 5 of port 3 get the DWRR profile and queue 2 loses it: both are in class 2.  A
queue with a DWRR profile of weight 0 keeps weight 1. -/
theorem wdrr_not_every_run :
    (∃ db : SchedDb .plain, Reachable WdrrStart anyStep (wdrrStep eightQueues) db ∧
      db.wdrrWeight eightQueues 0 3 2 = none ∧ (db.wdrrWeight eightQueues 0 3 5).isSome ∧
      db.hw.regs (.queueExceedClass 0 3 2) = db.hw.regs (.queueExceedClass 0 3 5)) ∧
    (∃ db : SchedDb .plain, Reachable WdrrStart anyStep (wdrrStep eightQueues) db ∧
      db.wdrrWeight eightQueues 0 3 2 = some 0 ∧ db.hw.regs (.queueExceedWeight 0 3 2) = 1) := by
  have r₀ : Reachable WdrrStart anyStep (wdrrStep eightQueues) wdrrInitial :=
    .start wdrrInitial_start
  have r₁ := r₀.next (.setQueue .ok 0 3 2 (wdrrProfile 1)) trivial rfl
  have r₂ := r₁.next (.setQueue .ok 0 3 5 (wdrrProfile 1)) trivial rfl
  have r₃ := r₂.next (.setQueue .ok 0 3 2 Oid.null) trivial rfl
  have s₁ := r₀.next (.setQueue .ok 0 3 2 (wdrrProfile 3)) trivial rfl
  exact ⟨⟨_, r₃, by decide, by decide, by decide⟩, ⟨_, s₁, by decide, by decide⟩⟩

end CtcSai
