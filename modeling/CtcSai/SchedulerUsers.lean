/-
# `SchedulerUsers` — who points at a scheduler profile

Ports, queues and groups are one kind of user here: each has at most one pointer, read
as the object id of a profile.  The invariant says that the counts of the profiles are
the numbers of pointers at them.  What a call may do is either `Still`, where no pointer
and no profile changes, or `Bound`, where one pointer is set.
-/
import CtcSai.Scheduler
import CtcSai.Lib.RefCount

namespace CtcSai

open Function KeyedTable RefCounts Table

variable {sc : SchedulerChip} {db db' db'' : SchedDb sc}

/-! ## Pointers -/

/-- A port, a queue or a scheduler group. -/
inductive SchedUser where
  | port (k : Oid)
  | queue (k : Oid)
  | group (k : Oid)
deriving DecidableEq, Repr

/-- The profile a number names on the chip of its user; 0 is none. -/
def numberPtr (k : Oid) (n : BitVec 32) : Option Oid :=
  if n = 0 then none else some (schedulerOid k.lchip n)

def portSchedPtr (k : Oid) (n : BitVec 32) : Option Oid := numberPtr k n

def queueSchedPtr (k : Oid) (q : Queue) : Option Oid := numberPtr k q.schId

def groupSchedPtr (_ : Oid) (g : SchedGroup) : Option Oid :=
  if g.schedId = Oid.null then none else some g.schedId

def SchedDb.ptr (db : SchedDb sc) : SchedUser → Option Oid
  | .port k => (db.ports.lookup k).bind (portSchedPtr k)
  | .queue k => (db.queues.lookup k).bind (queueSchedPtr k)
  | .group k => (db.groups.lookup k).bind (groupSchedPtr k)

/-- The ports, queues and groups whose stored profile is `p`. -/
def SchedDb.users (db : SchedDb sc) (p : Oid) : Nat :=
  RefCounts.users portSchedPtr db.ports p + RefCounts.users queueSchedPtr db.queues p +
    RefCounts.users groupSchedPtr db.groups p

/-- The count of a profile, zero where there is no profile. -/
def SchedDb.counts (db : SchedDb sc) : Oid → Nat :=
  kept (fun s => s.refCnt.toNat) db.schedulers

@[simp] theorem lchip_schedulerOid (c : Lchip) (i : BitVec 32) : (schedulerOid c i).lchip = c :=
  lchip_createObjectId _ _ _ _ _

theorem ptr_pos {u : SchedUser} {p : Oid} (h : db.ptr u = some p) : 0 < db.users p := by
  cases u with
  | port k =>
    obtain ⟨v, hl, hr⟩ := Option.bind_eq_some_iff.mp h
    exact Nat.add_pos_left (Nat.add_pos_left (users_pos hl hr) _) _
  | queue k =>
    obtain ⟨v, hl, hr⟩ := Option.bind_eq_some_iff.mp h
    exact Nat.add_pos_left (Nat.add_pos_right _ (users_pos hl hr)) _
  | group k =>
    obtain ⟨v, hl, hr⟩ := Option.bind_eq_some_iff.mp h
    exact Nat.add_pos_right _ (users_pos hl hr)

theorem users_of_ptr (h : db'.ptr = db.ptr) : db'.users = db.users := by
  have hp : RefCounts.users portSchedPtr db'.ports = RefCounts.users portSchedPtr db.ports :=
    users_congr fun k => congrFun h (.port k)
  have hq : RefCounts.users queueSchedPtr db'.queues = RefCounts.users queueSchedPtr db.queues :=
    users_congr fun k => congrFun h (.queue k)
  have hg : RefCounts.users groupSchedPtr db'.groups = RefCounts.users groupSchedPtr db.groups :=
    users_congr fun k => congrFun h (.group k)
  funext p
  simp only [SchedDb.users, hp, hq, hg]

/-! ## The invariant -/

/-- What is known of a user that has a profile. -/
def UserForm (sc : SchedulerChip) (p : Oid) : SchedUser → Prop
  | .port k => k.type = ObjectType.port.bits ∧ sc.known k.lchip = true ∧ k.lchip = 0
  | .queue k => k.type = ObjectType.queue.bits ∧ sc.known k.lchip = true ∧
      k.subType ≠ queueTypeMulticast
  | .group k => p.lchip = k.lchip

/-- What a queue is attached to is a group of its port, or the port. -/
def SamePort (k : Oid) (q : Queue) : Prop :=
  q.schGrp ≠ Oid.null → k.lchip = q.schGrp.lchip ∧ k.value = q.schGrp.value ∧
    (q.schGrp.type = ObjectType.schedulerGroup.bits ∨ q.schGrp.type = ObjectType.port.bits)

/-- The invariant. -/
structure SchedInv (db : SchedDb sc) : Prop where
  balanced : db.users = db.counts
  form : ∀ p s, db.schedulers.lookup p = some s → p = schedulerOid p.lchip p.value ∧ p.value ≠ 0
  user : ∀ u p, db.ptr u = some p → UserForm sc p u
  samePort : ∀ k q, db.queues.lookup k = some q → SamePort k q

theorem SchedInv.counted (h : SchedInv db) {u : SchedUser} {p : Oid} (hu : db.ptr u = some p) :
    ∃ s, db.schedulers.lookup p = some s ∧ s.refCnt ≠ 0 := by
  have hpos := ptr_pos hu
  rw [h.balanced] at hpos
  exact exists_of_kept hpos

theorem scheduler_of_lookup {p : Oid} {s : Scheduler} {c : Lchip} (hc : p.lchip = c)
    (h : db.schedulers.lookup p = some s) : db.scheduler c p = some s := by
  rw [SchedDb.scheduler, if_pos hc, h]

theorem lookup_of_scheduler {p : Oid} {s : Scheduler} {c : Lchip}
    (h : db.scheduler c p = some s) : p.lchip = c ∧ db.schedulers.lookup p = some s := by
  simp only [SchedDb.scheduler] at h
  split at h
  · next hc => exact ⟨hc, h⟩
  · cases h

theorem lookup_of_group {k : Oid} {g : SchedGroup} {c : Lchip} (h : db.group c k = some g) :
    k.lchip = c ∧ db.groups.lookup k = some g := by
  simp only [SchedDb.group] at h
  split at h
  · next hc => exact ⟨hc, h⟩
  · cases h

/-! ## What a call may do -/

/-- The groups of the queues are those they had, or of their port. -/
def QueueGroups (db db' : SchedDb sc) : Prop :=
  ∀ k q, db'.queues.lookup k = some q → SamePort k q ∨
    ∃ q', db.queues.lookup k = some q' ∧ q'.schGrp = q.schGrp

/-- No pointer and no profile changes. -/
structure Still (db db' : SchedDb sc) : Prop where
  ptr : db'.ptr = db.ptr
  schedulers : db'.schedulers = db.schedulers
  groups : QueueGroups db db'

theorem QueueGroups.refl (db : SchedDb sc) : QueueGroups db db := fun _ q h => .inr ⟨q, h, rfl⟩

theorem QueueGroups.trans (h : QueueGroups db db') (h' : QueueGroups db' db'') :
    QueueGroups db db'' := by
  intro k q hq
  cases h' k q hq with
  | inl hs => exact .inl hs
  | inr hex =>
    obtain ⟨q', hq', he⟩ := hex
    cases h k q' hq' with
    | inl hs =>
      left
      intro hn
      rw [← he] at hn ⊢
      exact hs hn
    | inr hex' =>
      obtain ⟨q₀, hq₀, he₀⟩ := hex'
      exact .inr ⟨q₀, hq₀, he₀.trans he⟩

theorem QueueGroups.of_queues (h : db'.queues = db.queues) : QueueGroups db db' := by
  intro k q hq
  rw [h] at hq
  exact .inr ⟨q, hq, rfl⟩

theorem QueueGroups.insert {k : Oid} {q q' : Queue} (hq : db.queues.lookup k = some q)
    (he : q'.schGrp = q.schGrp) (h : db'.queues = db.queues.insert k q') : QueueGroups db db' := by
  intro a w ha
  rw [h] at ha
  rcases of_lookup_insert ha with ⟨hk, rfl⟩ | ⟨-, ha⟩
  · exact .inr ⟨q, hk ▸ hq, he.symm⟩
  · exact .inr ⟨w, ha, rfl⟩

theorem Still.refl (db : SchedDb sc) : Still db db := ⟨rfl, rfl, .refl db⟩

theorem Still.trans (h : Still db db') (h' : Still db' db'') : Still db db'' :=
  ⟨h'.ptr.trans h.ptr, h'.schedulers.trans h.schedulers, h.groups.trans h'.groups⟩

theorem Still.withHw (db : SchedDb sc) (r : Status × SchedHw) : Still db (db.withHw r).2 :=
  ⟨rfl, rfl, .of_queues rfl⟩

theorem SchedInv.still (h : SchedInv db) (hs : Still db db') : SchedInv db' := by
  refine ⟨?_, ?_, ?_, ?_⟩
  · rw [users_of_ptr hs.ptr, h.balanced, SchedDb.counts, SchedDb.counts, hs.schedulers]
  · rw [hs.schedulers]
    exact h.form
  · rw [hs.ptr]
    exact h.user
  · intro k q hq
    cases hs.groups k q hq with
    | inl hsame => exact hsame
    | inr hex =>
      obtain ⟨q', hq', he⟩ := hex
      have hsame := h.samePort k q' hq'
      intro hn
      rw [← he] at hn ⊢
      exact hsame hn

/-- The pointer of one user is set to `n`. -/
structure Bound (u : SchedUser) (n : Option Oid) (db db' : SchedDb sc) : Prop where
  users : Moves (db.ptr u) n db.users db'.users
  ptr : db'.ptr = update db.ptr u n
  groups : QueueGroups db db'

/-- A set keeps the invariant when the counts follow the pointer. -/
theorem SchedInv.bound (h : SchedInv db) {u : SchedUser} {n : Option Oid} (hb : Bound u n db db')
    (hcounts : Moves (db.ptr u) n db.counts db'.counts)
    (hnamed : ∀ p s, db'.schedulers.lookup p = some s → ∃ s', db.schedulers.lookup p = some s')
    (hform : ∀ p, n = some p → UserForm sc p u) : SchedInv db' := by
  refine ⟨hb.users.agree hcounts h.balanced, ?_, ?_, ?_⟩
  · intro p s hl
    obtain ⟨s', hl'⟩ := hnamed p s hl
    exact h.form p s' hl'
  · intro v p hp
    rw [hb.ptr, update_apply] at hp
    split at hp
    · next hv => exact hv ▸ hform p hp
    · exact h.user v p hp
  · intro k q hq
    cases hb.groups k q hq with
    | inl hsame => exact hsame
    | inr hex =>
      obtain ⟨q', hq', he⟩ := hex
      have hsame := h.samePort k q' hq'
      intro hn
      rw [← he] at hn ⊢
      exact hsame hn

/-! ## One record is written -/

section Writes

variable {k : Oid}

theorem ptr_setPort (db : SchedDb sc) (k : Oid) (n : BitVec 32) :
    ({ db with ports := db.ports.insert k n } : SchedDb sc).ptr =
      update db.ptr (.port k) (portSchedPtr k n) := by
  funext u
  rw [update_apply]
  cases u with
  | port a =>
    simp only [SchedDb.ptr, lookup_insert_ite, SchedUser.port.injEq]
    split
    · next he => rw [he]; rfl
    · rfl
  | queue a => rfl
  | group a => rfl

theorem ptr_setQueue (db : SchedDb sc) (k : Oid) (q : Queue) :
    ({ db with queues := db.queues.insert k q } : SchedDb sc).ptr =
      update db.ptr (.queue k) (queueSchedPtr k q) := by
  funext u
  rw [update_apply]
  cases u with
  | port a => rfl
  | queue a =>
    simp only [SchedDb.ptr, lookup_insert_ite, SchedUser.queue.injEq]
    split
    · next he => rw [he]; rfl
    · rfl
  | group a => rfl

theorem ptr_setGroup (db : SchedDb sc) (k : Oid) (g : SchedGroup) :
    ({ db with groups := db.groups.insert k g } : SchedDb sc).ptr =
      update db.ptr (.group k) (groupSchedPtr k g) := by
  funext u
  rw [update_apply]
  cases u with
  | port a => rfl
  | queue a => rfl
  | group a =>
    simp only [SchedDb.ptr, lookup_insert_ite, SchedUser.group.injEq]
    split
    · next he => rw [he]; rfl
    · rfl

theorem ptr_eraseGroup (db : SchedDb sc) (k : Oid) :
    ({ db with groups := db.groups.erase k } : SchedDb sc).ptr = update db.ptr (.group k) none := by
  funext u
  rw [update_apply]
  cases u with
  | port a => rfl
  | queue a => rfl
  | group a =>
    simp only [SchedDb.ptr, lookup_erase_ite, SchedUser.group.injEq]
    split
    · rfl
    · rfl

theorem Bound.setPort (db : SchedDb sc) (k : Oid) (n : BitVec 32) :
    Bound (.port k) (portSchedPtr k n) db { db with ports := db.ports.insert k n } :=
  ⟨((users_insert portSchedPtr db.ports k n).add_right _).add_right _, ptr_setPort db k n,
    .of_queues rfl⟩

theorem Bound.setQueue {q q' : Queue} (hq : db.queues.lookup k = some q)
    (he : q'.schGrp = q.schGrp) :
    Bound (.queue k) (queueSchedPtr k q') db { db with queues := db.queues.insert k q' } :=
  ⟨((users_insert queueSchedPtr db.queues k q').add_left _).add_right _, ptr_setQueue db k q',
    .insert hq he rfl⟩

theorem Bound.setGroup (db : SchedDb sc) (k : Oid) (g : SchedGroup) :
    Bound (.group k) (groupSchedPtr k g) db { db with groups := db.groups.insert k g } :=
  ⟨(users_insert groupSchedPtr db.groups k g).add_left _, ptr_setGroup db k g, .of_queues rfl⟩

theorem Still.setGroup {g : SchedGroup} (h : groupSchedPtr k g = db.ptr (.group k)) :
    Still db { db with groups := db.groups.insert k g } := by
  refine ⟨?_, rfl, .of_queues rfl⟩
  rw [ptr_setGroup, h, update_eq_self]

theorem Still.eraseGroup (h : db.ptr (.group k) = none) :
    Still db { db with groups := db.groups.erase k } := by
  refine ⟨?_, rfl, .of_queues rfl⟩
  rw [ptr_eraseGroup, ← h, update_eq_self]

theorem Still.setPort {n : BitVec 32} (h : portSchedPtr k n = db.ptr (.port k)) :
    Still db { db with ports := db.ports.insert k n } := by
  refine ⟨?_, rfl, .of_queues rfl⟩
  rw [ptr_setPort, h, update_eq_self]

theorem Still.setQueue {q : Queue} (h : queueSchedPtr k q = db.ptr (.queue k))
    (hg : SamePort k q ∨ ∃ q', db.queues.lookup k = some q' ∧ q'.schGrp = q.schGrp) :
    Still db { db with queues := db.queues.insert k q } := by
  refine ⟨?_, rfl, ?_⟩
  · rw [ptr_setQueue, h, update_eq_self]
  · intro a w ha
    rcases of_lookup_insert ha with ⟨he, rfl⟩ | ⟨-, ha⟩
    · exact he ▸ hg
    · exact .inr ⟨w, ha, rfl⟩

theorem ptr_port_of {n : BitVec 32} (h : db.ports.lookup k = some n) :
    db.ptr (.port k) = portSchedPtr k n := by
  simp only [SchedDb.ptr, h]
  rfl

theorem ptr_queue_of {q : Queue} (h : db.queues.lookup k = some q) :
    db.ptr (.queue k) = queueSchedPtr k q := by
  simp only [SchedDb.ptr, h]
  rfl

theorem ptr_group_of {g : SchedGroup} (h : db.groups.lookup k = some g) :
    db.ptr (.group k) = groupSchedPtr k g := by
  simp only [SchedDb.ptr, h]
  rfl

end Writes

/-! ## Counts -/

section Counts

variable {p q : Oid} {s old : Scheduler}

theorem sched_refCnt_hold (s : Scheduler) : s.hold.refCnt = s.refCnt + 1 := rfl

theorem sched_refCnt_release (h : s.refCnt ≠ 0) : s.release.refCnt = s.refCnt - 1 := by
  rw [Scheduler.release, if_pos h]

/-- A user gets a profile: what is left when it had none, and what is left to do when it
had one. -/
theorem SchedInv.bind (h : SchedInv db) {u : SchedUser} (hl : db.schedulers.lookup p = some s)
    (hne : db.ptr u ≠ some p) (hroom : s.refCnt ≠ 65535) (hb : Bound u (some p) db db')
    (hs : db'.schedulers = db.schedulers.insert p s.hold) (hform : UserForm sc p u) :
    (db.ptr u = none → SchedInv db') ∧
      ∀ q, db.ptr u = some q → ∃ old, db'.schedulers.lookup q = some old ∧
        SchedInv { db' with schedulers := db'.schedulers.insert q old.release } := by
  constructor
  · intro hu
    refine h.bound hb ?_ ?_ ?_
    · rw [hu, SchedDb.counts, SchedDb.counts, hs]
      exact kept_hold hl (sched_refCnt_hold s) hroom
    · rw [hs]
      exact exists_lookup_of_insert hl _
    · intro p' hp
      cases hp
      exact hform
  · intro q hu
    obtain ⟨old, hlo, hpos⟩ := h.counted hu
    have hdiff : q ≠ p := fun he => hne (hu.trans (congrArg some he))
    have hlo' : db'.schedulers.lookup q = some old := by
      rw [hs, lookup_insert_ite, if_neg hdiff, hlo]
    refine ⟨old, hlo', h.bound ⟨hb.users, hb.ptr, hb.groups⟩ ?_ ?_ ?_⟩
    · rw [hu]
      simp only [SchedDb.counts, hs]
      exact kept_replace hdiff hl (sched_refCnt_hold s) hroom hlo (sched_refCnt_release hpos) hpos
    · intro a w ha
      obtain ⟨v, hv⟩ := exists_lookup_of_insert hlo' _ a w ha
      rw [hs] at hv
      exact exists_lookup_of_insert hl _ a v hv
    · intro p' hp
      cases hp
      exact hform

theorem SchedInv.unbind (h : SchedInv db) {u : SchedUser} (hu : db.ptr u = some p)
    (hl : db.schedulers.lookup p = some s) (hb : Bound u none db db')
    (hs : db'.schedulers = db.schedulers.insert p s.release) : SchedInv db' := by
  obtain ⟨s', hl', hpos⟩ := h.counted hu
  rw [hl] at hl'
  cases hl'
  refine h.bound hb ?_ ?_ ?_
  · rw [hu, SchedDb.counts, SchedDb.counts, hs]
    exact kept_release hl (sched_refCnt_release hpos) hpos
  · rw [hs]
    exact exists_lookup_of_insert hl _
  · intro p' hp
    cases hp

theorem releaseOld_of {c : Lchip} (hc : q.lchip = c) (hl : db.schedulers.lookup q = some old) :
    db.releaseOld c q =
      (.success, { db with schedulers := db.schedulers.insert q old.release }) := by
  rw [SchedDb.releaseOld, scheduler_of_lookup hc hl]

end Counts

end CtcSai
