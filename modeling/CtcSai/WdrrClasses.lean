/-
# `WdrrClasses` — the classes of the queues of a port

The queues of a port that have a DWRR profile share an exceed class, the index of the first of
them; every other queue is in the class of its own index.  The class of a queue changes in two
loops: one asks the hardware which queues are in the class of a queue that has become STRICT,
the other asks the database which queues have a DWRR profile.  Here is what each of them writes
when the calls of the SDK succeed.
-/
import CtcSai.SchedulerSets
import CtcSai.Lib.LeastClass

namespace CtcSai

open Function LeastClasses

variable {sc : SchedulerChip} {db : SchedDb sc} {hw hw' : SchedHw} {c : Lchip} {gport : BitVec 32}
  {queue classId weight : BitVec 8}

/-- Indexes are ordered as the loops count them. -/
abbrev bitVecLinearOrder (w : Nat) : LinearOrder (BitVec w) where
  le_refl := BitVec.le_refl
  le_trans _ _ _ := BitVec.le_trans
  le_antisymm _ _ := BitVec.le_antisymm
  lt_iff_le_not_ge x y := by simp only [BitVec.lt_def, BitVec.le_def]; omega
  le_total := BitVec.le_total
  toDecidableLE := inferInstance
  toDecidableLT := inferInstance
  toDecidableEq := inferInstance

attribute [local instance] bitVecLinearOrder

/-! ## The registers of a port -/

/-- The exceed classes and weights of the queues of a port. -/
structure QueueRegs where
  cls : BitVec 8 → BitVec 8
  weight : BitVec 8 → BitVec 8

/-- The registers of the queues of a port. -/
def SchedHw.queueRegs (hw : SchedHw) (c : Lchip) (gport : BitVec 32) : QueueRegs where
  cls i := hw.regs (.queueExceedClass c gport i)
  weight i := hw.regs (.queueExceedWeight c gport i)

/-- A queue gets a class, and a weight that is not 0. -/
def QueueRegs.set (r : QueueRegs) (i cls weight : BitVec 8) : QueueRegs where
  cls := update r.cls i cls
  weight := if weight ≠ 0 then update r.weight i weight else r.weight

/-- A step that succeeds, and of all classes and weights writes those of one port. -/
structure WritesQueues (c : Lchip) (gport : BitVec 32) (new : QueueRegs) (hw : SchedHw)
    (r : Status × SchedHw) : Prop where
  success : r.1 = .success
  quiet : r.2.answers = []
  regs : r.2.queueRegs c gport = new
  others : ∀ c' gport', (c', gport') ≠ (c, gport) →
    r.2.queueRegs c' gport' = hw.queueRegs c' gport'

namespace WritesQueues

variable {new new' : QueueRegs} {r : Status × SchedHw}

theorem done (hquiet : hw.answers = []) :
    WritesQueues c gport (hw.queueRegs c gport) hw (.success, hw) :=
  ⟨rfl, hquiet, rfl, fun _ _ _ => rfl⟩

theorem append {f : SchedHw → Status × SchedHw} (h : WritesQueues c gport new hw r)
    (h' : WritesQueues c gport new' r.2 (f r.2)) : WritesQueues c gport new' hw (hwThen r f) := by
  obtain ⟨st, hw'⟩ := r
  obtain rfl : st = .success := h.success
  exact ⟨h'.success, h'.quiet, h'.regs, fun c' g' hne =>
    (h'.others c' g' hne).trans (h.others c' g' hne)⟩

theorem andThen {f : SchedHw → Status × SchedHw} (h : WritesQueues c gport new hw r)
    (hf : ∀ hw', hw'.answers = [] → hw'.queueRegs c gport = new →
      WritesQueues c gport new' hw' (f hw')) : WritesQueues c gport new' hw (hwThen r f) :=
  h.append (hf r.2 h.quiet h.regs)

end WritesQueues

theorem WritesQueues.setShape (hquiet : hw.answers = []) (reg : ShapeReg) (s : Shape) :
    WritesQueues c gport (hw.queueRegs c gport) hw (hw.setShape reg s) := by
  rw [SchedHw.setShape_quiet hquiet]
  exact ⟨rfl, hquiet, rfl, fun _ _ _ => rfl⟩

theorem WritesQueues.confirmClass (hquiet : hw.answers = []) (v : BitVec 8) :
    WritesQueues c gport (hw.queueRegs c gport) hw
      (hw.write (.queueConfirmClass c gport queue) v) := by
  rw [SchedHw.write_quiet hquiet]
  refine ⟨rfl, hquiet, ?_, fun c' g' _ => ?_⟩
  · simp [SchedHw.queueRegs]
  · simp [SchedHw.queueRegs]

theorem WritesQueues.exceedClass (hquiet : hw.answers = []) (v : BitVec 8) :
    WritesQueues c gport ⟨update (hw.queueRegs c gport).cls queue v,
      (hw.queueRegs c gport).weight⟩ hw (hw.write (.queueExceedClass c gport queue) v) := by
  rw [SchedHw.write_quiet hquiet]
  refine ⟨rfl, hquiet, ?_, fun c' g' hne => ?_⟩
  · simp only [SchedHw.queueRegs, QueueRegs.mk.injEq]
    refine ⟨funext fun i => ?_, funext fun i => ?_⟩
    · simp [update_apply]
    · simp
  · simp only [SchedHw.queueRegs, QueueRegs.mk.injEq]
    refine ⟨funext fun i => ?_, funext fun i => ?_⟩
    · rw [update_of_ne]
      rintro ⟨⟩
      exact hne rfl
    · simp

theorem WritesQueues.exceedWeight (hquiet : hw.answers = []) (v : BitVec 8) :
    WritesQueues c gport ⟨(hw.queueRegs c gport).cls,
      update (hw.queueRegs c gport).weight queue v⟩ hw
      (hw.write (.queueExceedWeight c gport queue) v) := by
  rw [SchedHw.write_quiet hquiet]
  refine ⟨rfl, hquiet, ?_, fun c' g' hne => ?_⟩
  · simp only [SchedHw.queueRegs, QueueRegs.mk.injEq]
    refine ⟨funext fun i => ?_, funext fun i => ?_⟩
    · simp
    · simp [update_apply]
  · simp only [SchedHw.queueRegs, QueueRegs.mk.injEq]
    refine ⟨funext fun i => ?_, funext fun i => ?_⟩
    · simp
    · rw [update_of_ne]
      rintro ⟨⟩
      exact hne rfl

theorem WritesQueues.confirm (hquiet : hw.answers = []) (v : BitVec 8) :
    WritesQueues c gport (hw.queueRegs c gport) hw (match sc.chipType c with
      | .duet2 | .tsingma => (.success, hw)
      | .greatbelt | .goldengate => hw.write (.queueConfirmClass c gport queue) v) := by
  cases sc.chipType c with
  | greatbelt => exact .confirmClass hquiet _
  | goldengate => exact .confirmClass hquiet _
  | duet2 => exact .done hquiet
  | tsingma => exact .done hquiet

theorem WritesQueues.queueSetCtcSched (hquiet : hw.answers = []) :
    WritesQueues c gport ((hw.queueRegs c gport).set queue classId weight) hw
      (CtcSai.queueSetCtcSched sc c gport queue classId weight hw) := by
  refine (WritesQueues.confirm hquiet classId).andThen fun hw₁ hq₁ hr₁ =>
    (WritesQueues.exceedClass hq₁ _).andThen fun hw₂ hq₂ hr₂ => ?_
  rw [hr₁] at hr₂
  by_cases hz : weight = 0
  · have h : WritesQueues c gport (hw₂.queueRegs c gport) hw₂ (.success, hw₂) := .done hq₂
    rw [hr₂] at h
    simpa [QueueRegs.set, hz] using h
  rw [if_pos hz]
  have h := @WritesQueues.exceedWeight hw₂ c gport queue hq₂ weight
  rw [hr₂] at h
  rwa [QueueRegs.set, if_pos hz]

/-! ## The loops -/

section Loops

variable {l : List (BitVec 8)} {i v : BitVec 8} {P Q : BitVec 8 → Prop}

theorem isLeast_cons (hfirst : ∀ k ∈ l, i < k) (hi : P i) : IsLeast {j | j ∈ i :: l ∧ P j} i := by
  refine ⟨⟨List.mem_cons_self, hi⟩, ?_⟩
  rintro k ⟨hk, -⟩
  cases List.mem_cons.mp hk with
  | inl he => exact he ▸ le_refl _
  | inr hmem => exact le_of_lt (hfirst k hmem)

theorem mem_cons_and (hi : ¬ P i) (j : BitVec 8) : (j ∈ i :: l ∧ P j) ↔ (j ∈ l ∧ P j) := by
  refine ⟨fun hj => ⟨?_, hj.2⟩, fun hj => ⟨List.mem_cons_of_mem _ hj.1, hj.2⟩⟩
  cases List.mem_cons.mp hj.1 with
  | inl he => exact absurd (he ▸ hj.2) hi
  | inr hmem => exact hmem

/-- A loop that puts the head of the list into the class `v`, and the rest of what it finds. -/
theorem WritesQueues.cons [DecidablePred P] [DecidablePred Q] {f : SchedHw → Status × SchedHw}
    (hquiet : hw.answers = []) (hnot : i ∉ l) (hi : P i) (hrest : ∀ j, j ≠ i → (Q j ↔ P j))
    (hm : WritesQueues c gport
      ⟨fun j => if j ∈ l ∧ Q j then v else ((hw.queueRegs c gport).set i v 0).cls j,
        (hw.queueRegs c gport).weight⟩
      (CtcSai.queueSetCtcSched sc c gport i v 0 hw).2
      (f (CtcSai.queueSetCtcSched sc c gport i v 0 hw).2)) :
    WritesQueues c gport
      ⟨fun j => if j ∈ i :: l ∧ P j then v else (hw.queueRegs c gport).cls j,
        (hw.queueRegs c gport).weight⟩ hw
      (hwThen (CtcSai.queueSetCtcSched sc c gport i v 0 hw) f) := by
  have hset := @WritesQueues.queueSetCtcSched sc hw c gport i v 0 hquiet
  have h := hset.append hm
  refine ⟨h.success, h.quiet, h.regs.trans ?_, h.others⟩
  rw [QueueRegs.mk.injEq]
  refine ⟨funext fun j => ?_, rfl⟩
  simp only [QueueRegs.set]
  by_cases hj : j = i
  · subst hj
    simp [hnot, hi]
  · simp [hj, hrest j hj]

end Loops

/-- The queues in the class of `queue` go into the class of the first of them. -/
theorem strictClasses_writes {l : List (BitVec 8)} (hl : l.Pairwise (· < ·)) :
    ∀ (new : Option (BitVec 8)) (hw : SchedHw), hw.answers = [] →
      ∃ m, WritesQueues c gport
          ⟨fun i => if i ∈ l ∧ (hw.queueRegs c gport).cls i = queue then m
            else (hw.queueRegs c gport).cls i, (hw.queueRegs c gport).weight⟩ hw
          (strictClasses sc c gport queue new l hw) ∧
        (∀ v, new = some v → m = v) ∧
        (new = none → ∀ i ∈ l, (hw.queueRegs c gport).cls i = queue →
          IsLeast {j | j ∈ l ∧ (hw.queueRegs c gport).cls j = queue} m) := by
  induction l with
  | nil =>
    intro new hw hquiet
    refine ⟨new.getD 0, ?_, ?_, fun _ i hi => absurd hi List.not_mem_nil⟩
    · have h : WritesQueues c gport (hw.queueRegs c gport) hw (.success, hw) := .done hquiet
      simpa [strictClasses] using h
    · rintro v rfl
      rfl
  | cons i rest ih =>
    intro new hw hquiet
    obtain ⟨hfirst, hrest⟩ := List.pairwise_cons.mp hl
    have hnot : i ∉ rest := fun hi => absurd (hfirst i hi) (lt_irrefl i)
    have hstep : strictClasses sc c gport queue new (i :: rest) hw =
        if (hw.queueRegs c gport).cls i ≠ queue then strictClasses sc c gport queue new rest hw
        else hwThen (queueSetCtcSched sc c gport i (new.getD i) 0 hw) fun hw =>
          strictClasses sc c gport queue (some (new.getD i)) rest hw := by
      rw [strictClasses, SchedHw.call_quiet hquiet]
      rfl
    rw [hstep]
    by_cases hc : (hw.queueRegs c gport).cls i = queue
    · -- the first one found keeps its own index, the later ones get it too
      rw [if_neg (not_not.mpr hc)]
      have hset := @WritesQueues.queueSetCtcSched sc hw c gport i (new.getD i) 0 hquiet
      obtain ⟨m, hm, hsome, -⟩ := ih hrest (some (new.getD i))
        (queueSetCtcSched sc c gport i (new.getD i) 0 hw).2 hset.quiet
      obtain rfl : m = new.getD i := hsome _ rfl
      rw [hset.regs] at hm
      refine ⟨new.getD i, .cons hquiet hnot hc (fun j hj => ?_) hm, fun v hv => by rw [hv]; rfl, ?_⟩
      · simp only [QueueRegs.set, update_of_ne hj]
      · rintro rfl j hj hcj
        exact isLeast_cons hfirst hc
    rw [if_pos hc]
    obtain ⟨m, hm, hsome, hnone⟩ := ih hrest new hw hquiet
    have hcons := @mem_cons_and rest i (fun j => (hw.queueRegs c gport).cls j = queue) hc
    simp only [hcons]
    exact ⟨m, hm, hsome, fun hn j hj hcj => hnone hn j ((hcons j).mp ⟨hj, hcj⟩).1 hcj⟩

/-! ## The profiles of the queues of a port -/

/-- The type of the first CTC_QOS_BASIC_Q_NUM queues of a port, by `port_queues` of the switch. -/
def basicQueueType (portQueues : BitVec 8) : BitVec 3 :=
  if portQueues = 8 then queueTypeAll else queueTypeUnicast

/-- A queue of a port, as `ctc_sai_queue.c` lists it. -/
def portQueue (portQueues : Lchip → BitVec 8) (c : Lchip) (gport : BitVec 32) (i : BitVec 8) : Oid :=
  queueOid c ((basicQueueType (portQueues c)).setWidth 8) (i.setWidth 16) gport

/-- The weight of a DWRR profile. -/
def Scheduler.wdrrWeight (s : Scheduler) : Option (BitVec 8) :=
  if s.schType = schedulingTypeDwrr then some s.weight else none

variable {pq : Lchip → BitVec 8} {i : BitVec 8}

/-- The weight of a queue by its profile, when that is a DWRR profile. -/
def SchedDb.wdrrWeight (db : SchedDb sc) (pq : Lchip → BitVec 8) (c : Lchip) (gport : BitVec 32)
    (i : BitVec 8) : Option (BitVec 8) :=
  (db.ptr (.queue (portQueue pq c gport i))).bind fun p =>
    (db.schedulers.lookup p).bind Scheduler.wdrrWeight

@[simp] theorem lchip_portQueue : (portQueue pq c gport i).lchip = c :=
  lchip_createObjectId _ _ _ _ _

@[simp] theorem value_portQueue : (portQueue pq c gport i).value = gport := rfl

@[simp] theorem type_portQueue : (portQueue pq c gport i).type = ObjectType.queue.bits := rfl

theorem index_portQueue : (portQueue pq c gport i).value2.setWidth 8 = i := by
  show (i.setWidth 16).setWidth 8 = i
  rw [BitVec.setWidth_setWidth_of_le i (by decide : 8 ≤ 16), BitVec.setWidth_eq]

theorem subType_portQueue : (portQueue pq c gport i).subType = basicQueueType (pq c) := by
  show ((basicQueueType (pq c)).setWidth 8).setWidth 3 = _
  rw [BitVec.setWidth_setWidth_of_le _ (by decide : 3 ≤ 8), BitVec.setWidth_eq]

theorem basicQueueType_ne (n : BitVec 8) : basicQueueType n ≠ queueTypeMulticast := by
  rw [basicQueueType]
  split
  · decide
  · decide

theorem portQueue_inj {c' : Lchip} {gport' : BitVec 32} {i' : BitVec 8} :
    portQueue pq c gport i = portQueue pq c' gport' i' ↔ c = c' ∧ gport = gport' ∧ i = i' := by
  refine ⟨fun h => ?_, by rintro ⟨rfl, rfl, rfl⟩; rfl⟩
  have hc := congrArg Oid.lchip h
  have hg := congrArg Oid.value h
  have hi := congrArg (fun k : Oid => k.value2.setWidth 8) h
  rw [lchip_portQueue, lchip_portQueue] at hc
  simp only [index_portQueue] at hi
  exact ⟨hc, hg, hi⟩

def IsPortQueue (sc : SchedulerChip) (pq : Lchip → BitVec 8) (k : Oid) : Prop :=
  ∃ c, ∃ p < sc.maxPhyPortNum c, ∃ i ∈ queueIndexes, k = portQueue pq c (sc.gport c p) i

theorem queueOf_portQueue {sel : Queue → Bool}
    (h : ∀ k q, db.queues.lookup k = some q → sel q = true → IsPortQueue sc pq k) :
    db.queueOf sel c gport i = ((db.queues.lookup (portQueue pq c gport i)).filter sel).map
      fun q => (portQueue pq c gport i, q) := by
  have hother : ∀ type : BitVec 3, type ≠ basicQueueType (pq c) →
      (db.queues.lookup (queueOid c (type.setWidth 8) (i.setWidth 16) gport)).filter sel = none := by
    intro type htype
    rw [Option.filter_eq_none_iff]
    intro q hq hz
    obtain ⟨c', p, -, i', -, hk⟩ := h _ q hq hz
    have hc : c = c' := by
      have := congrArg Oid.lchip hk
      rwa [lchip_portQueue, queueOid, lchip_createObjectId] at this
    have hsub := congrArg Oid.subType hk
    rw [subType_portQueue, ← hc] at hsub
    refine htype (Eq.trans ?_ hsub)
    show type = (type.setWidth 8).setWidth 3
    rw [BitVec.setWidth_setWidth_of_le _ (by decide : 3 ≤ 8), BitVec.setWidth_eq]
  simp only [SchedDb.queueOf]
  by_cases h8 : pq c = 8
  · have hp : portQueue pq c gport i =
        queueOid c (queueTypeAll.setWidth 8) (i.setWidth 16) gport := by
      rw [portQueue, basicQueueType, if_pos h8]
    have hnone := hother queueTypeUnicast (by rw [basicQueueType, if_pos h8]; decide)
    rw [hp, hnone]
    cases (db.queues.lookup (queueOid c (queueTypeAll.setWidth 8) (i.setWidth 16) gport)).filter
      sel with
    | none => rfl
    | some q => rfl
  have hp : portQueue pq c gport i =
      queueOid c (queueTypeUnicast.setWidth 8) (i.setWidth 16) gport := by
    rw [portQueue, basicQueueType, if_neg h8]
  have hnone := hother queueTypeAll (by rw [basicQueueType, if_neg h8]; decide)
  rw [hp, hnone]

/-- Only the basic queues of the physical ports have a profile, and it is there. -/
structure BasicQueues (pq : Lchip → BitVec 8) (db : SchedDb sc) : Prop where
  bound : ∀ k q, db.queues.lookup k = some q → q.schId ≠ 0 → IsPortQueue sc pq k
  live : ∀ k p, db.ptr (.queue k) = some p → ∃ s, db.schedulers.lookup p = some s

theorem BasicQueues.queueOf (h : BasicQueues pq db) :
    db.queueOf (fun q => q.schId ≠ 0) c gport i =
      ((db.queues.lookup (portQueue pq c gport i)).filter (fun q => q.schId ≠ 0)).map
        fun q => (portQueue pq c gport i, q) :=
  queueOf_portQueue fun k q hq hz => h.bound k q hq (of_decide_eq_true hz)

theorem wdrrWeight_of_ptr {p : Oid} {s : Scheduler}
    (hptr : db.ptr (.queue (portQueue pq c gport i)) = some p)
    (hs : db.schedulers.lookup p = some s) : db.wdrrWeight pq c gport i = s.wdrrWeight := by
  rw [SchedDb.wdrrWeight, hptr, Option.bind_some, hs, Option.bind_some]

theorem wdrrWeight_of_none (hptr : db.ptr (.queue (portQueue pq c gport i)) = none) :
    db.wdrrWeight pq c gport i = none := by
  rw [SchedDb.wdrrWeight, hptr, Option.bind_none]

theorem BasicQueues.queueOf_cases (h : BasicQueues pq db) (c : Lchip) (gport : BitVec 32)
    (i : BitVec 8) :
    (db.queueOf (fun q => q.schId ≠ 0) c gport i = none ∧
      db.ptr (.queue (portQueue pq c gport i)) = none) ∨
      ∃ q s, db.queueOf (fun q => q.schId ≠ 0) c gport i = some (portQueue pq c gport i, q) ∧
        db.queues.lookup (portQueue pq c gport i) = some q ∧
        db.ptr (.queue (portQueue pq c gport i)) = some (schedulerOid c q.schId) ∧
        db.schedulers.lookup (schedulerOid c q.schId) = some s := by
  rw [h.queueOf]
  cases hq : db.queues.lookup (portQueue pq c gport i) with
  | none =>
    refine .inl ⟨rfl, ?_⟩
    rw [SchedDb.ptr, hq, Option.bind_none]
  | some q =>
    have hptr := ptr_queue_of hq
    by_cases hz : q.schId = 0
    · refine .inl ⟨by simp [hz], ?_⟩
      rw [hptr, queueSchedPtr, numberPtr, if_pos hz]
    · rw [queueSchedPtr, numberPtr, if_neg hz, lchip_portQueue] at hptr
      obtain ⟨s, hs⟩ := h.live _ _ hptr
      exact .inr ⟨q, s, by simpa using hz, rfl, hptr, hs⟩

theorem Scheduler.wdrrWeight_isSome {s : Scheduler} :
    s.wdrrWeight.isSome ↔ s.schType = schedulingTypeDwrr := by
  rw [Scheduler.wdrrWeight]
  split
  · next h => simp [h]
  · next h => simp [h]

/-! ## The loop over the database -/

/-- The queues with a DWRR profile go into the class of the first of them. -/
theorem wdrrClasses_writes (hdb : BasicQueues pq db) {l : List (BitVec 8)}
    (hl : l.Pairwise (· < ·)) :
    ∀ (new : Option (BitVec 8)) (hw : SchedHw), hw.answers = [] →
      ∃ m, WritesQueues c gport
          ⟨fun i => if i ∈ l ∧ (db.wdrrWeight pq c gport i).isSome then m
            else (hw.queueRegs c gport).cls i, (hw.queueRegs c gport).weight⟩ hw
          (wdrrClasses db c gport queue new l hw) ∧
        (∀ v, new = some v → m = v) ∧
        (new = none → queue ∈ l → (db.wdrrWeight pq c gport queue).isSome →
          IsLeast {j | j ∈ l ∧ (db.wdrrWeight pq c gport j).isSome} m) := by
  induction l with
  | nil =>
    intro new hw hquiet
    refine ⟨new.getD 0, ?_, ?_, fun _ hi => absurd hi List.not_mem_nil⟩
    · have h : WritesQueues c gport (hw.queueRegs c gport) hw (.success, hw) := .done hquiet
      simpa [wdrrClasses] using h
    · rintro v rfl
      rfl
  | cons i rest ih =>
    intro new hw hquiet
    obtain ⟨hfirst, hrest⟩ := List.pairwise_cons.mp hl
    have hnot : i ∉ rest := fun hi => absurd (hfirst i hi) (lt_irrefl i)
    by_cases hd : (db.wdrrWeight pq c gport i).isSome
    · have hstep : wdrrClasses db c gport queue new (i :: rest) hw =
          hwThen (queueSetCtcSched sc c gport i (new.getD (if queue < i then queue else i)) 0 hw)
            fun hw => wdrrClasses db c gport queue
              (some (new.getD (if queue < i then queue else i))) rest hw := by
        rw [wdrrClasses]
        rcases hdb.queueOf_cases c gport i with ⟨-, hn⟩ | ⟨q, s, hq, -, hptr, hs⟩
        · rw [wdrrWeight_of_none hn] at hd
          cases hd
        rw [wdrrWeight_of_ptr hptr hs, Scheduler.wdrrWeight_isSome] at hd
        rw [hq]
        dsimp only
        rw [scheduler_of_lookup (lchip_schedulerOid _ _) hs]
        dsimp only
        rw [if_neg (not_not.mpr hd)]
      rw [hstep]
      generalize hv : new.getD (if queue < i then queue else i) = v
      have hset := @WritesQueues.queueSetCtcSched sc hw c gport i v 0 hquiet
      obtain ⟨m, hm, hsome, -⟩ := ih hrest (some v)
        (queueSetCtcSched sc c gport i v 0 hw).2 hset.quiet
      obtain rfl : m = v := hsome _ rfl
      rw [hset.regs] at hm
      refine ⟨m, .cons hquiet hnot hd (fun j _ => Iff.rfl) hm, fun v' hv' => by rw [← hv, hv']; rfl,
        ?_⟩
      · rintro rfl hmem hdq
        -- the queue of the call is not before the first one found
        have hle : i ≤ queue := by
          cases List.mem_cons.mp hmem with
          | inl he => exact he ▸ le_refl _
          | inr hin => exact le_of_lt (hfirst queue hin)
        obtain rfl : m = i := by
          rw [← hv]
          exact if_neg (not_lt_of_ge hle)
        exact isLeast_cons hfirst hd
    · have hstep : wdrrClasses db c gport queue new (i :: rest) hw =
          wdrrClasses db c gport queue new rest hw := by
        rw [wdrrClasses]
        rcases hdb.queueOf_cases c gport i with ⟨hq, -⟩ | ⟨q, s, hq, -, hptr, hs⟩
        · rw [hq]
        rw [wdrrWeight_of_ptr hptr hs, Scheduler.wdrrWeight_isSome] at hd
        rw [hq]
        dsimp only
        rw [scheduler_of_lookup (lchip_schedulerOid _ _) hs]
        dsimp only
        rw [if_pos hd]
      rw [hstep]
      obtain ⟨m, hm, hsome, hnone⟩ := ih hrest new hw hquiet
      have hcons := @mem_cons_and rest i (fun j => (db.wdrrWeight pq c gport j).isSome) hd
      simp only [hcons]
      exact ⟨m, hm, hsome, fun hn hmem hdq => hnone hn ((hcons queue).mp ⟨hmem, hdq⟩).1 hdq⟩

/-! ## Mapping a queue -/

def weightedQueues (w : BitVec 8 → Option (BitVec 8)) : Set (BitVec 8) :=
  {i | i ∈ queueIndexes ∧ (w i).isSome}

/-- The registers of a port as they should be when `w` has the weights of the DWRR queues: these
have the first of them as their class, every other queue its own index and weight 1. -/
structure Shaped (w : BitVec 8 → Option (BitVec 8)) (r : QueueRegs) : Prop where
  classes : LeastClass {i | i ∈ queueIndexes} (weightedQueues w) r.cls
  weights : ∀ i ∈ queueIndexes, r.weight i = (w i).getD 1

/-- A step that succeeds and leaves the registers of one port in the shape of `w`. -/
structure Shapes (c : Lchip) (gport : BitVec 32) (w : BitVec 8 → Option (BitVec 8)) (hw : SchedHw)
    (r : Status × SchedHw) : Prop where
  success : r.1 = .success
  quiet : r.2.answers = []
  shaped : Shaped w (r.2.queueRegs c gport)
  others : ∀ c' gport', (c', gport') ≠ (c, gport) →
    r.2.queueRegs c' gport' = hw.queueRegs c' gport'

theorem WritesQueues.shapes {new : QueueRegs} {r : Status × SchedHw}
    {w : BitVec 8 → Option (BitVec 8)} (h : WritesQueues c gport new hw r) (hs : Shaped w new) :
    Shapes c gport w hw r :=
  ⟨h.success, h.quiet, h.regs ▸ hs, h.others⟩

theorem WritesQueues.thenShape {new : QueueRegs} {r : Status × SchedHw}
    (h : WritesQueues c gport new hw r) (reg : ShapeReg) (s : Shape) :
    WritesQueues c gport new hw (hwThen r fun hw => hw.setShape reg s) :=
  h.andThen fun _ hq₁ hr₁ => hr₁ ▸ .setShape hq₁ reg s

theorem queueIndexes_sorted : queueIndexes.Pairwise (· < ·) := by decide

theorem mem_queueIndexes {i : BitVec 8} : i ∈ queueIndexes ↔ i < 8 := by
  revert i
  decide

theorem mem_behind {q i : BitVec 8} (hq : q ∈ queueIndexes) :
    i ∈ queueIndexes.filter (q + 1 ≤ ·) ↔ i ∈ queueIndexes ∧ q < i := by
  rw [List.mem_filter, decide_eq_true_eq]
  rw [mem_queueIndexes] at hq
  have hsucc : (q + 1).toNat = q.toNat + 1 := by
    exact Nat.mod_eq_of_lt (Nat.lt_of_le_of_lt hq (by decide))
  rw [BitVec.le_def, hsucc]
  rfl

section Map

variable {w : BitVec 8 → Option (BitVec 8)}

theorem weightedQueues_none (w : BitVec 8 → Option (BitVec 8)) (q : BitVec 8) :
    weightedQueues (update w q none) = weightedQueues w \ {q} := by
  ext i
  by_cases hi : i = q
  · subst hi
    simp [weightedQueues]
  · simp [weightedQueues, hi]

theorem weights_none {r : QueueRegs} (h : Shaped w r) (i : BitVec 8) (hi : i ∈ queueIndexes) :
    update r.weight queue 1 i = (update w queue none i).getD 1 := by
  rw [update_apply, update_apply]
  split
  · rfl
  · exact h.weights i hi

theorem Shaped.clear (h : Shaped w (hw.queueRegs c gport)) (hquiet : hw.answers = [])
    (db : SchedDb sc)
    (hfree : queue ∈ weightedQueues w →
      (∃ j ∈ weightedQueues w, j < queue) ∨ ∀ j ∈ weightedQueues w, j = queue) :
    Shapes c gport (update w queue none) hw (queueMapScheduler db c gport queue none hw) := by
  have hset := @WritesQueues.queueSetCtcSched sc hw c gport queue queue 1 hquiet
  refine (hset.thenShape _ _).shapes ⟨?_, fun i hi => ?_⟩
  · rw [weightedQueues_none]
    refine h.classes.leave_alone (fun i hi => hi.1) ?_ (fun i _ hi => ?_) hfree
    · exact update_self _ _ _
    · exact update_of_ne hi _ _
  · exact weights_none h i hi

theorem Shaped.strict (h : Shaped w (hw.queueRegs c gport)) (hquiet : hw.answers = [])
    (db : SchedDb sc) (hqueue : queue ∈ queueIndexes) {s : Scheduler}
    (hs : s.schType = schedulingTypeStrict) :
    Shapes c gport (update w queue none) hw (queueMapScheduler db c gport queue (some s) hw) := by
  have hset := @WritesQueues.queueSetCtcSched sc hw c gport queue queue 1 hquiet
  have hsorted := queueIndexes_sorted.filter (fun i => queue + 1 ≤ i)
  obtain ⟨m, hm, -, hleast⟩ := @strictClasses_writes sc c gport queue _ hsorted none
    (queueSetCtcSched sc c gport queue queue 1 hw).2 hset.quiet
  have hleast := hleast rfl
  rw [hset.regs] at hm hleast
  have hmap : queueMapScheduler db c gport queue (some s) hw =
      hwThen (hwThen (queueSetCtcSched sc c gport queue queue 1 hw)
        (strictClasses sc c gport queue none (queueIndexes.filter (queue + 1 ≤ ·))))
        fun hw => hw.setShape (.queue c gport queue) s.queueShape := by
    simp only [queueMapScheduler, hs, if_true]
  rw [hmap]
  refine ((hset.append hm).thenShape _ _).shapes ⟨?_, fun i hi => ?_⟩
  · rw [weightedQueues_none]
    have hset_of_ne : ∀ i, i ≠ queue →
        ((hw.queueRegs c gport).set queue queue 1).cls i = (hw.queueRegs c gport).cls i :=
      fun i hne => update_of_ne hne _ _
    -- in the class of the queue are only queues behind it
    have hfound : ∀ i, (i ∈ queueIndexes.filter (queue + 1 ≤ ·) ∧
        ((hw.queueRegs c gport).set queue queue 1).cls i = queue) ↔
        (i ∈ queueIndexes ∧ i ≠ queue ∧ (hw.queueRegs c gport).cls i = queue) := by
      intro i
      rw [mem_behind hqueue]
      constructor
      · rintro ⟨⟨hi, hlt⟩, hc⟩
        rw [hset_of_ne i (ne_of_gt hlt)] at hc
        exact ⟨hi, ne_of_gt hlt, hc⟩
      · rintro ⟨hi, hne, hc⟩
        obtain ⟨hE, hl⟩ := h.classes.of_class hi hne hc
        exact ⟨⟨hi, lt_of_le_of_ne (hl.2 hE) (Ne.symm hne)⟩, (hset_of_ne i hne).trans hc⟩
    simp only [hfound] at hleast ⊢
    refine h.classes.leave (fun i hi => hi.1) ?_ (fun i hi hne hc => ?_) fun i hi hne hc => ?_
    · rw [if_neg fun hf => hf.2.1 rfl]
      exact update_self _ _ _
    · rw [if_pos ⟨hi, hne, hc⟩]
      obtain ⟨hin, hcls⟩ := (hfound i).mpr ⟨hi, hne, hc⟩
      exact hleast i hin hcls
    · rw [if_neg fun hf => hc hf.2.2, hset_of_ne i hne]
  · exact weights_none h i hi

/-- The weights after a queue with a DWRR profile of weight `v` has been mapped, when `d` has
the weights by the profiles. -/
def wdrrMapped (w d : BitVec 8 → Option (BitVec 8)) (queue v i : BitVec 8) : Option (BitVec 8) :=
  if i = queue then some v else if (d i).isSome then some ((w i).getD 1) else none

/-- A queue that gets a DWRR profile.  Those that are counted as DWRR by now are so by their
profiles. -/
theorem Shaped.wdrr (h : Shaped w (hw.queueRegs c gport)) (hquiet : hw.answers = [])
    (hdb : BasicQueues pq db) (hqueue : queue ∈ queueIndexes) {s : Scheduler} {v : BitVec 8}
    (hs : s.wdrrWeight = some v) (hv : v ≠ 0)
    (hd : (db.wdrrWeight pq c gport queue).isSome)
    (hsub : ∀ i ∈ queueIndexes, (w i).isSome → (db.wdrrWeight pq c gport i).isSome) :
    Shapes c gport (wdrrMapped w (db.wdrrWeight pq c gport) queue v) hw
      (queueMapScheduler db c gport queue (some s) hw) := by
  obtain ⟨htype, hweight⟩ : s.schType = schedulingTypeDwrr ∧ s.weight = v := by
    rw [Scheduler.wdrrWeight] at hs
    split at hs
    · next ht => exact ⟨ht, Option.some.inj hs⟩
    · cases hs
  have hset := @WritesQueues.queueSetCtcSched sc hw c gport queue queue v hquiet
  obtain ⟨m, hm, -, hleast⟩ := @wdrrClasses_writes sc db c gport queue pq hdb _ queueIndexes_sorted
    none (queueSetCtcSched sc c gport queue queue v hw).2 hset.quiet
  have hleast := hleast rfl hqueue hd
  rw [hset.regs] at hm
  have hmap : queueMapScheduler db c gport queue (some s) hw =
      hwThen (hwThen (queueSetCtcSched sc c gport queue queue v hw)
        (wdrrClasses db c gport queue none queueIndexes))
        fun hw => hw.setShape (.queue c gport queue) s.queueShape := by
    have hne : schedulingTypeDwrr ≠ schedulingTypeStrict := by decide
    simp only [queueMapScheduler, htype, hweight, if_neg hne]
  have hmembers : ∀ i, i ∈ weightedQueues (wdrrMapped w (db.wdrrWeight pq c gport) queue v) ↔
      i ∈ queueIndexes ∧ (db.wdrrWeight pq c gport i).isSome := by
    intro i
    refine and_congr_right fun _ => ?_
    rw [wdrrMapped]
    split
    · next he => simp [he, hd]
    · split
      · next hsome => simp [hsome]
      · next hnone => simp [hnone]
  rw [hmap]
  refine ((hset.append hm).thenShape _ _).shapes ⟨?_, fun i hi => ?_⟩
  · refine h.classes.join (fun i hi => (hmembers i).mpr ⟨hi.1, hsub i hi.1 hi.2⟩) ?_
      (fun i hi => if_pos ((hmembers i).mp hi)) fun i hi hnot => ?_
    · have hset : weightedQueues (wdrrMapped w (db.wdrrWeight pq c gport) queue v) =
          {j | j ∈ queueIndexes ∧ (db.wdrrWeight pq c gport j).isSome} := Set.ext hmembers
      rw [hset]
      exact hleast
    · have hout : ¬ (i ∈ queueIndexes ∧ (db.wdrrWeight pq c gport i).isSome) :=
        fun hin => hnot ((hmembers i).mpr hin)
      have hne : i ≠ queue := fun he => hout ⟨hi, he ▸ hd⟩
      exact (if_neg hout).trans (update_of_ne hne _ _)
  · simp only [QueueRegs.set, if_pos hv, wdrrMapped, update_apply]
    split
    · rfl
    rw [h.weights i hi]
    split
    · rfl
    next hnone =>
    have hw : w i = none := by
      rw [← Option.not_isSome_iff_eq_none]
      exact fun hsome => hnone (hsub i hi hsome)
    rw [hw]

end Map

end CtcSai
