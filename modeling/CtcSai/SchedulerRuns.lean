/-
# `SchedulerRuns` — the reference counts of scheduler profiles

In every run that stays clear of four slips the count of a profile is the number of its
users.  The slips: a group is created or removed with a profile that does not count it;
replacing the profile of a group looks the old one up by half of its id; a group counts
itself before the queues below it are attached once more, and a failure of that is not
undone; a queue whose mapping fails forgets the profile it had.
-/
import CtcSai.SchedulerSets
import CtcSai.Lib.Run

namespace CtcSai

open Function IdPool KeyedTable RefCounts Runs Table

variable {sc : SchedulerChip} {db db' : SchedDb sc}
variable {r : Status × SchedDb sc}

/-! ## The outcome of a set -/

/-- The balance is kept, and a failure leaves every user and every profile as it was. -/
structure SetOutcome (db : SchedDb sc) (r : Status × SchedDb sc) : Prop where
  inv : SchedInv r.2
  failed : r.1 ≠ .success → Still db r.2

theorem SetOutcome.of_still (h : SchedInv db) (hs : Still db r.2) : SetOutcome db r :=
  ⟨h.still hs, fun _ => hs⟩

theorem SetOutcome.of_inv {s : SchedDb sc} (h : SchedInv s) : SetOutcome db (.success, s) :=
  ⟨h, fun hn => absurd rfl hn⟩

theorem SetOutcome.of_made (hs : Still db db') (h : SetOutcome db' r) : SetOutcome db r :=
  ⟨h.inv, fun hn => hs.trans (h.failed hn)⟩

theorem SetOutcome.releaseOld {c : Lchip} {q : Oid} {old : Scheduler} (hc : q.lchip = c)
    (hl : db'.schedulers.lookup q = some old)
    (h : SchedInv { db' with schedulers := db'.schedulers.insert q old.release }) :
    SetOutcome db (db'.releaseOld c q) := by
  rw [releaseOld_of hc hl]
  exact .of_inv h

/-- A profile that would be counted once more has room for that. -/
def SchedRoom (db : SchedDb sc) (u : SchedUser) (oid : Oid) : Prop :=
  db.ptr u = some oid ∨ ∀ s, db.schedulers.lookup oid = some s → s.refCnt ≠ 65535

theorem numberPtr_of_value {k p : Oid} (hc : k.lchip = p.lchip)
    (hf : p = schedulerOid p.lchip p.value ∧ p.value ≠ 0) : numberPtr k p.value = some p := by
  rw [numberPtr, if_neg hf.2, hc, ← hf.1]

theorem numberPtr_ne {k p : Oid} {n : BitVec 32} (hn : n ≠ p.value) : numberPtr k n ≠ some p := by
  rw [numberPtr]
  split
  · rintro ⟨⟩
  · intro he
    exact hn (congrArg Oid.value (Option.some.inj he))

section Ports

variable {k oid : Oid}

/-- A set of a port. -/
theorem SchedInv.portSet (h : SchedInv db) (htype : k.type = ObjectType.port.bits)
    (hknown : sc.known k.lchip = true) (hroom : SchedRoom db (.port k) oid) :
    SetOutcome db (portSetScheduler db k oid) := by
  have hsame : SetOutcome db (Status.failure, db) := .of_still h (.refl db)
  simp only [portSetScheduler]
  split
  · exact hsame
  next n hn =>
  have hchip : k.lchip = 0 := by
    by_contra hc
    rw [if_neg hc] at hn
    cases hn
  rw [if_pos hchip] at hn
  split
  · split
    · exact .of_still h (.refl db)
    split
    · exact .of_still h (.refl db)
    next hlc =>
    split
    · exact .of_still h (.refl db)
    next s hs =>
    obtain ⟨_, hl⟩ := lookup_of_scheduler hs
    split
    · next db₁ he =>
      obtain rfl := (congrArg Prod.snd he).symm
      have h₁ := h.still (Still.withHw db (db.hw.setShape (.port k.lchip k.value) s.portShape))
      split
      · exact .of_inv h₁
      next hne =>
      have hptr : db.ptr (.port k) ≠ some oid := by
        rw [ptr_port_of hn]
        exact numberPtr_ne hne
      have hnew : portSchedPtr k oid.value = some oid :=
        numberPtr_of_value (not_not.mp hlc) (h.form oid s hl)
      have hb := Bound.setPort db k oid.value
      rw [hnew] at hb
      have hb' : Bound (.port k) (some oid) db
          { (db.withHw (db.hw.setShape (.port k.lchip k.value) s.portShape)).2 with
            ports := db.ports.insert k oid.value
            schedulers := db.schedulers.insert oid s.hold } := ⟨hb.users, hb.ptr, hb.groups⟩
      obtain ⟨hfirst, hold⟩ :=
        h.bind hl hptr ((hroom.resolve_left hptr) s hl) hb' rfl ⟨htype, hknown, hchip⟩
      split
      · next hz =>
        refine .of_inv (hfirst ?_)
        refine (ptr_port_of hn).trans ?_
        rw [portSchedPtr, numberPtr, if_pos hz]
      next hz =>
      have hu : db.ptr (.port k) = some (schedulerOid k.lchip n) := by
        rw [ptr_port_of hn, portSchedPtr, numberPtr, if_neg hz]
      obtain ⟨old, hlo, hinv⟩ := hold _ hu
      exact .releaseOld (lchip_schedulerOid _ _) hlo hinv
    · exact .of_still h (.withHw db _)
  · split
    · exact .of_still h (.refl db)
    next hz =>
    have hu : db.ptr (.port k) = some (schedulerOid k.lchip n) := by
      rw [ptr_port_of hn, portSchedPtr, numberPtr, if_neg hz]
    rw [hchip] at hu
    split
    · exact .of_still h (.refl db)
    next s hs =>
    obtain ⟨_, hl⟩ := lookup_of_scheduler hs
    split
    · next db₁ he =>
      obtain rfl := (congrArg Prod.snd he).symm
      have hb := Bound.setPort db k 0
      have hb' : Bound (.port k) none db
          { (db.withHw (db.hw.setShape (.port 0 k.value) .off)).2 with
            ports := db.ports.insert k 0
            schedulers := db.schedulers.insert (schedulerOid 0 n) s.release } :=
        ⟨hb.users, hb.ptr, hb.groups⟩
      exact .of_inv (h.unbind hu hl hb' rfl)
    · exact .of_still h (.withHw db _)

theorem portSet_success (h : SchedInv db) (hcalm : db.hw.Calm) {old : Oid} {s : Scheduler}
    (hold : db.ptr (.port k) = some old) (hl : db.scheduler k.lchip oid = some s)
    (hn : oid ≠ Oid.null) : (portSetScheduler db k oid).1 = .success := by
  obtain ⟨_, hknown, hchip⟩ := h.user _ _ hold
  obtain ⟨n, hp, hr⟩ := Option.bind_eq_some_iff.mp hold
  obtain ⟨hlc, hls⟩ := lookup_of_scheduler hl
  obtain ⟨hs, _⟩ := FineHw.setShape (.port k.lchip k.value) s.portShape db.hw hcalm
  simp only [portSetScheduler, if_pos hchip, hp, ne_eq, hn, not_false_eq_true, if_true, hknown,
    Bool.not_true, Bool.false_eq_true, if_false, hlc, not_true, hl]
  split
  · next db₁ he =>
    obtain rfl := (congrArg Prod.snd he).symm
    split
    · rfl
    next hne =>
    split
    · rfl
    next hz =>
    have hu : db.ptr (.port k) = some (schedulerOid k.lchip n) := by
      rw [ptr_port_of hp, portSchedPtr, numberPtr, if_neg hz]
    obtain ⟨s', hls', _⟩ := h.counted hu
    have hdiff : schedulerOid k.lchip n ≠ oid := fun he => hne (congrArg Oid.value he)
    rw [releaseOld_of (lchip_schedulerOid _ _)
      ((lookup_insert_ite _ _ _ _).trans ((if_neg hdiff).trans hls'))]
  · next hne => exact (hne _ (Prod.ext hs rfl)).elim

end Ports

/-! ## Queues -/

section Queues

variable {k oid : Oid}

/-- A set of a queue; when it would replace a profile, the SDK does what it is asked. -/
theorem SchedInv.queueSet (h : SchedInv db) (htype : k.type = ObjectType.queue.bits)
    (hknown : sc.known k.lchip = true) (hroom : SchedRoom db (.queue k) oid)
    (hcalm : (∃ old, db.ptr (.queue k) = some old ∧ old ≠ oid) → db.hw.Calm) :
    SetOutcome db (queueSetScheduler db k oid) := by
  simp only [queueSetScheduler]
  split
  · exact .of_still h (.refl db)
  next hmul =>
  split
  · exact .of_still h (.refl db)
  next q hq =>
  split
  · split
    · exact .of_still h (.refl db)
    next hlc =>
    split
    · exact .of_still h (.refl db)
    next s hs =>
    obtain ⟨_, hl⟩ := lookup_of_scheduler hs
    have hnew : numberPtr k oid.value = some oid :=
      numberPtr_of_value (not_not.mp hlc) (h.form oid s hl)
    by_cases hup : q.schId ≠ oid.value
    · simp only [hup, ne_eq, not_false_eq_true, if_true]
      have hptr : db.ptr (.queue k) ≠ some oid := by
        rw [ptr_queue_of hq]
        exact numberPtr_ne hup
      have hb : Bound (.queue k) (queueSchedPtr k { q with schId := oid.value }) db
          { db with queues := db.queues.insert k { q with schId := oid.value } } :=
        .setQueue hq rfl
      rw [queueSchedPtr, hnew] at hb
      split
      · next db₁ he =>
        obtain rfl := (congrArg Prod.snd he).symm
        have hb' : Bound (.queue k) (some oid) db
            { ((db.setSchId k q oid.value).withHw (queueMapScheduler
                (db.setSchId k q oid.value) k.lchip k.value (k.value2.setWidth 8) (some s)
                (db.setSchId k q oid.value).hw)).2 with
              schedulers := db.schedulers.insert oid s.hold } := ⟨hb.users, hb.ptr, hb.groups⟩
        obtain ⟨hfirst, hold⟩ :=
          h.bind hl hptr ((hroom.resolve_left hptr) s hl) hb' rfl ⟨htype, hknown, hmul⟩
        split
        · next hz =>
          refine .of_inv (hfirst ?_)
          rw [ptr_queue_of hq, queueSchedPtr, numberPtr, if_pos hz]
        next hz =>
        have hu : db.ptr (.queue k) = some (schedulerOid k.lchip q.schId) := by
          rw [ptr_queue_of hq, queueSchedPtr, numberPtr, if_neg hz]
        obtain ⟨old, hlo, hinv⟩ := hold _ hu
        exact .releaseOld (lchip_schedulerOid _ _) hlo hinv
      · next status db₁ hfail he =>
        obtain rfl := (congrArg Prod.snd he).symm
        have hz : q.schId = 0 := by
          by_contra hz
          have hu : db.ptr (.queue k) = some (schedulerOid k.lchip q.schId) := by
            rw [ptr_queue_of hq, queueSchedPtr, numberPtr, if_neg hz]
          have hc := hcalm ⟨_, hu, fun hn => hptr (hu.trans (congrArg some hn))⟩
          have hlive : LivePtrs (db.setSchId k q oid.value) := by
            intro u p hp
            rw [SchedDb.setSchId, hb.ptr] at hp
            rcases of_update_some hp with ⟨-, rfl⟩ | ⟨-, hp⟩
            · exact ⟨s, hl⟩
            · exact h.live u p hp
          have hfine : FineHw (queueMapScheduler (db.setSchId k q oid.value) k.lchip k.value
              (k.value2.setWidth 8) (some s)) := .queueMapScheduler hlive _
          exact hfail ((congrArg Prod.fst he).symm.trans (hfine db.hw hc).1)
        have hnone : db.ptr (.queue k) = none := by
          rw [ptr_queue_of hq, queueSchedPtr, numberPtr, if_pos hz]
        have hmid : (db.setSchId k q oid.value).queues.lookup k =
            some { q with schId := oid.value } := by
          rw [SchedDb.setSchId, lookup_insert_ite, if_pos rfl]
        have hlast : QueueGroups (db.setSchId k q oid.value)
            ((db.setSchId k q oid.value).setSchId k { q with schId := oid.value } 0) :=
          @QueueGroups.insert sc _ _ k _ { q with schId := 0 } hmid rfl rfl
        refine .of_still h ⟨?_, rfl, hb.groups.trans hlast⟩
        refine (ptr_setQueue (db.setSchId k q oid.value) k { q with schId := 0 }).trans ?_
        have hp : (db.setSchId k q oid.value).ptr = _ := hb.ptr
        rw [hp, update_idem]
        exact (update_eq_self_iff).mpr hnone.symm
    · simp only [hup, if_false]
      split
      · next db₁ he =>
        obtain rfl := (congrArg Prod.snd he).symm
        exact .of_inv (h.still (.withHw db _))
      · next status db₁ _ he =>
        obtain rfl := (congrArg Prod.snd he).symm
        exact .of_still h (.withHw db _)
  · split
    · exact .of_still h (.refl db)
    next hz =>
    have hu : db.ptr (.queue k) = some (schedulerOid k.lchip q.schId) := by
      rw [ptr_queue_of hq, queueSchedPtr, numberPtr, if_neg hz]
    split
    · next db₁ he =>
      obtain rfl := (congrArg Prod.snd he).symm
      obtain ⟨s, hl, _⟩ := h.counted hu
      have hfound := @scheduler_of_lookup sc (db.withHw (queueMapScheduler db k.lchip k.value
        (k.value2.setWidth 8) none db.hw)).2 _ _ _ (lchip_schedulerOid k.lchip q.schId) hl
      rw [hfound]
      have hb : Bound (.queue k) none db
          { db with queues := db.queues.insert k { q with schId := 0 } } :=
        @Bound.setQueue sc db k q { q with schId := 0 } hq rfl
      have hb' : Bound (.queue k) none db
          { (db.withHw (queueMapScheduler db k.lchip k.value (k.value2.setWidth 8) none
              db.hw)).2 with
            schedulers := db.schedulers.insert (schedulerOid k.lchip q.schId) s.release
            queues := db.queues.insert k { q with schId := 0 } } :=
        ⟨hb.users, hb.ptr, hb.groups⟩
      exact .of_inv (h.unbind hu hl hb' rfl)
    · exact .of_still h (.withHw db _)

theorem queueSet_success (h : SchedInv db) (hcalm : db.hw.Calm) {old : Oid} {s : Scheduler}
    (hold : db.ptr (.queue k) = some old) (hls : db.scheduler k.lchip oid = some s)
    (hn : oid ≠ Oid.null) : (queueSetScheduler db k oid).1 = .success := by
  obtain ⟨_, _, hmul⟩ := h.user _ _ hold
  obtain ⟨q, hq, hr⟩ := Option.bind_eq_some_iff.mp hold
  obtain ⟨hlc, hl⟩ := lookup_of_scheduler hls
  simp only [queueSetScheduler, hmul, if_false, hq, ne_eq, hn, not_false_eq_true, if_true, hlc,
    not_true, hls]
  by_cases hup : q.schId = oid.value
  · simp only [hup, not_true, if_false]
    have hfine : FineHw (queueMapScheduler db k.lchip k.value (k.value2.setWidth 8) (some s)) :=
      .queueMapScheduler h.live _
    split
    · rfl
    · next status db₁ hfail he =>
      exact (hfail ((congrArg Prod.fst he).symm.trans (hfine db.hw hcalm).1)).elim
  simp only [hup, not_false_eq_true, if_true]
  have hlive : LivePtrs (db.setSchId k q oid.value) := by
    intro u p hp
    have hset := ptr_setQueue db k { q with schId := oid.value }
    rw [SchedDb.setSchId, hset, update_apply] at hp
    split at hp
    · rw [queueSchedPtr, numberPtr_of_value hlc.symm (h.form oid s hl)] at hp
      cases hp
      exact ⟨s, hl⟩
    · exact h.live u p hp
  have hfine : FineHw (queueMapScheduler (db.setSchId k q oid.value) k.lchip k.value
      (k.value2.setWidth 8) (some s)) := .queueMapScheduler hlive _
  split
  · next db₁ he =>
    obtain rfl := (congrArg Prod.snd he).symm
    split
    · rfl
    next hz =>
    have hu : db.ptr (.queue k) = some (schedulerOid k.lchip q.schId) := by
      rw [ptr_queue_of hq, queueSchedPtr, numberPtr, if_neg hz]
    obtain ⟨s', hls', _⟩ := h.counted hu
    have hdiff : schedulerOid k.lchip q.schId ≠ oid := fun he => hup (congrArg Oid.value he)
    rw [releaseOld_of (lchip_schedulerOid _ _)
      ((lookup_insert_ite _ _ _ _).trans ((if_neg hdiff).trans hls'))]
  · next status db₁ hfail he =>
    exact (hfail ((congrArg Prod.fst he).symm.trans (hfine db.hw hcalm).1)).elim

end Queues

/-! ## Groups -/

section Groups

variable {c : Lchip} {k oid : Oid} {foreign : ForeignNodes} {fuel : Nat}
variable {isAdd : Bool}

theorem FineHw.mapCtcPortLevel (h : SchedInv db) {gport : BitVec 32} {queue class' : BitVec 8}
    (hg : ∃ g, db.group c k = some g) :
    FineHw (CtcSai.mapCtcPortLevel db foreign c gport queue class' k isAdd) := by
  obtain ⟨g, hg⟩ := hg
  obtain ⟨hkc, hgl⟩ := lookup_of_group hg
  intro hw hcalm
  simp only [CtcSai.mapCtcPortLevel, SchedDb.schedIdOf, hg]
  refine FineHw.andThen (.write _ _) (.ite (fun _ => .done) fun hz => ?_) hw hcalm
  have hu : db.ptr (.group k) = some g.schedId := (ptr_group_of hgl).trans (if_neg hz)
  obtain ⟨s, hl, _⟩ := h.counted hu
  have hchip : g.schedId.lchip = c := Eq.trans (h.user _ _ hu) hkc
  rw [scheduler_of_lookup hchip hl]
  exact .write _ _

theorem FineHw.mapCtcGroupLevel (h : SchedInv db) {gport : BitVec 32} {queue : BitVec 8}
    {g : SchedGroup} (hg : db.group c k = some g) (hparent : ∃ p, db.group c g.parentId = some p) :
    FineHw (CtcSai.mapCtcGroupLevel db foreign c gport queue k isAdd) := by
  obtain ⟨hkc, hgl⟩ := lookup_of_group hg
  intro hw hcalm
  simp only [CtcSai.mapCtcGroupLevel, hg]
  refine FineHw.andThen (.write _ _) (FineHw.andThen (.ite (fun _ => .done) fun hz => ?_)
    (.mapCtcPortLevel h hparent)) hw hcalm
  have hu : db.ptr (.group k) = some g.schedId := (ptr_group_of hgl).trans (if_neg hz)
  obtain ⟨s, hl, _⟩ := h.counted hu
  have hchip : g.schedId.lchip = c := Eq.trans (h.user _ _ hu) hkc
  rw [scheduler_of_lookup hchip hl]
  exact .write _ _

/-- The group of a queue lists it, and when it is one of level 2 its parent is there. -/
def ListedBelow (db : SchedDb sc) (c : Lchip) (queueId : Oid) (q : Queue) : Prop :=
  ∀ g, db.group c q.schGrp = some g → queueId ∈ g.childList ∧
    (q.schGrp.subType = 2 → ∃ p, db.group c g.parentId = some p)

theorem FineHw.applyQueueToGroup (h : SchedInv db) {queueId groupId : Oid} {g : SchedGroup}
    (hg : db.group queueId.lchip groupId = some g)
    (hparent : groupId.subType = 2 → ∃ p, db.group queueId.lchip g.parentId = some p) :
    FineHw (CtcSai.applyQueueToGroup db foreign queueId groupId isAdd) := by
  refine .ite (fun _ => .mapCtcPortLevel h ⟨g, hg⟩) fun _ => ?_
  exact .ite (fun h2 => .mapCtcGroupLevel h hg (hparent h2)) fun _ => .done

/-- A listed queue is attached once more to its group: only registers change. -/
theorem groupQueueSetScheduler_again (h : SchedInv db) (hcalm : db.hw.Calm) {q : Queue}
    (hq : db.queues.lookup k = some q) (htype : k.type = ObjectType.queue.bits)
    (hmul : k.subType ≠ queueTypeMulticast) (hgrp : q.schGrp ≠ Oid.null)
    (hlive : q.schGrp.type = ObjectType.schedulerGroup.bits →
      ∃ g, db.group k.lchip q.schGrp = some g)
    (hlisted : ListedBelow db k.lchip k q) :
    ∃ hw, hw.Calm ∧ groupQueueSetScheduler db foreign k q.schGrp =
      (.success, { db with hw := hw, queues := db.queues.insert k q }) := by
  obtain ⟨hc, hv, ht⟩ := h.samePort k q hq hgrp
  simp only [groupQueueSetScheduler, hmul, if_false, hq, ne_eq, hgrp, not_false_eq_true, if_true,
    ← hc, ← hv, not_true]
  cases ht with
  | inl ht =>
    obtain ⟨g, hg⟩ := hlive ht
    obtain ⟨hmem, hparent⟩ := hlisted g hg
    have hfine : FineHw (CtcSai.applyQueueToGroup db foreign k q.schGrp true) :=
      .applyQueueToGroup h hg hparent
    obtain ⟨hok, hcalm'⟩ := hfine db.hw hcalm
    refine ⟨_, hcalm', ?_⟩
    simp only [ht, if_true, hg, SchedDb.withHw, hok]
    have hgroup : ∀ hw, ({ db with hw := hw } : SchedDb sc).group k.lchip q.schGrp = some g :=
      fun _ => hg
    simp only [addChild, ht, if_true, hgroup, hmem, htype, ne_eq, not_true, false_and, if_false]
    rfl
  | inr ht =>
    refine ⟨db.hw, hcalm, ?_⟩
    simp only [ht, if_true]
    rfl

/-- What walks and searches for queues read is the same. -/
structure SameTree (db db' : SchedDb sc) : Prop where
  queues : ∀ a, db'.queues.lookup a = db.queues.lookup a
  groups : db'.groups = db.groups

theorem SameTree.group (h : SameTree db db') (a : Oid) : db'.group c a = db.group c a := by
  simp only [SchedDb.group, h.groups]

theorem SameTree.queueOf (h : SameTree db db') (sel : Queue → Bool) (gport : BitVec 32)
    (i : BitVec 8) : db'.queueOf sel c gport i = db.queueOf sel c gport i := by
  simp only [SchedDb.queueOf, h.queues]

theorem SameTree.walkParents (h : SameTree db db') (hit : Oid → Oid → Bool) (fuel : Nat) :
    ∀ node, CtcSai.walkParents db' foreign c hit fuel node =
      CtcSai.walkParents db foreign c hit fuel node := by
  induction fuel with
  | zero => exact fun _ => rfl
  | succ n ih =>
    intro node
    simp only [CtcSai.walkParents, SchedDb.node, h.group, ih]

theorem SameTree.listedBelow (h : SameTree db db') {q : Queue} (hl : ListedBelow db c k q) :
    ListedBelow db' c k q := by
  intro g hg
  rw [h.group] at hg
  obtain ⟨hmem, hp⟩ := hl g hg
  refine ⟨hmem, fun h2 => ?_⟩
  obtain ⟨p, hp'⟩ := hp h2
  exact ⟨p, (h.group _).trans hp'⟩

/-- The queues of a loop that are below what is looked for are listed. -/
def LoopListed (db : SchedDb sc) (foreign : ForeignNodes) (hit : Oid → Oid → Bool) (fuel : Nat)
    (c : Lchip) (l : List (BitVec 32 × BitVec 8)) : Prop :=
  ∀ a ∈ l, ∀ k q, db.queueOf (fun q => q.schGrp ≠ Oid.null) c a.1 a.2 = some (k, q) →
    walkParents db foreign c hit fuel q.schGrp = some true → ListedBelow db c k q

theorem SameTree.loopListed (h : SameTree db db') {hit : Oid → Oid → Bool}
    {l : List (BitVec 32 × BitVec 8)} (hl : LoopListed db foreign hit fuel c l) :
    LoopListed db' foreign hit fuel c l := by
  intro a ha k q hq hwalk
  rw [h.queueOf] at hq
  rw [h.walkParents] at hwalk
  exact h.listedBelow (hl a ha k q hq hwalk)

theorem updateQueues_success {hit : Oid → Oid → Bool} (l : List (BitVec 32 × BitVec 8)) :
    ∀ {db : SchedDb sc} {r : Status × SchedDb sc}, SchedInv db → db.hw.Calm →
      LoopListed db foreign hit fuel c l → updateQueues foreign hit fuel c l db = some r →
      r.1 = .success := by
  induction l with
  | nil =>
    intro db r _ _ _ hr
    cases hr
    rfl
  | cons a rest ih =>
    intro db r h hcalm hl hr
    have hrest : LoopListed db foreign hit fuel c rest :=
      fun b hb => hl b (List.mem_cons_of_mem a hb)
    simp only [updateQueues] at hr
    split at hr
    · exact ih h hcalm hrest hr
    next k q hkq =>
    obtain ⟨hq, hsel, hkc, htype, hmul⟩ := queueOf_some hkq
    cases hw : walkParents db foreign c hit fuel q.schGrp with
    | none =>
      simp only [queueUpdateSchedGroup, hw, Option.map_none] at hr
      cases hr
    | some found =>
      simp only [queueUpdateSchedGroup, hw, Option.map_some] at hr
      cases found with
      | false => exact ih h hcalm hrest hr
      | true =>
        have hlive : q.schGrp.type = ObjectType.schedulerGroup.bits →
            ∃ g, db.group k.lchip q.schGrp = some g := by
          intro ht
          cases fuel with
          | zero => cases hw
          | succ n =>
            simp only [walkParents, SchedDb.node, ht, if_true] at hw
            rw [hkc]
            cases hg : db.group c q.schGrp with
            | none =>
              rw [hg] at hw
              cases hw
            | some g => exact ⟨g, rfl⟩
        obtain ⟨hw', hcalm', he⟩ : ∃ hw, hw.Calm ∧ groupQueueSetScheduler db foreign k q.schGrp =
            (.success, { db with hw := hw, queues := db.queues.insert k q }) :=
          groupQueueSetScheduler_again h hcalm hq htype hmul (of_decide_eq_true hsel) hlive (by
            rw [hkc]
            exact hl a List.mem_cons_self k q hkq hw)
        simp only [if_true, he] at hr
        have hsame : SameTree db { db with hw := hw', queues := db.queues.insert k q } := by
          refine ⟨fun b => ?_, rfl⟩
          rw [lookup_insert_ite]
          split
          · next hb => rw [hb, hq]
          · rfl
        have hstill : Still db { db with hw := hw', queues := db.queues.insert k q } := by
          have hs := @still_groupQueueSetScheduler sc db foreign k q.schGrp
          rw [he] at hs
          exact hs
        exact ih (h.still hstill) hcalm' (hsame.loopListed hrest) hr

/-- The queues that are attached once more when `oid` becomes the profile of group `k`. -/
def GroupListed (db : SchedDb sc) (foreign : ForeignNodes) (fuel : Nat) (k oid : Oid) : Prop :=
  ∀ g, db.groups.lookup k = some g →
    LoopListed (db.setSchedId k g oid) foreign (fun _ schedId => schedId = oid) fuel k.lchip
      (portQueues sc k.lchip)

/-- The calls behind the first two succeed. -/
def SchedHw.CalmAfterTwo (hw : SchedHw) : Prop :=
  ∀ rc ∈ hw.answers.drop 2, mappingErrorCtc rc = .success

theorem calm_call {hw : SchedHw} : hw.call.2.answers = hw.answers.drop 1 := by
  simp only [SchedHw.call]
  split
  · next h => rw [h]; rfl
  · next rc rest h => rw [h]; rfl

theorem calm_of_queries {hw hw' : SchedHw} (h : hw.CalmAfterTwo)
    (he : hwThen hw.call SchedHw.call = (.success, hw')) : hw'.Calm := by
  have hans : hw'.answers = hw.answers.drop 2 := by
    simp only [hwThen] at he
    split at he
    · next hw₁ h₁ =>
      have h2 := congrArg (fun r => r.2.answers) he
      simp only [calm_call] at h2
      have h1 := congrArg (fun r => r.2.answers) h₁
      simp only [calm_call] at h1
      rw [← h2, ← h1, List.drop_drop]
    · next hne => exact (hne _ he).elim
  intro rc hmem
  rw [hans] at hmem
  exact h rc hmem

/-- A set of a group that has no profile, or has this one already; when the group gets the
profile, the queues below it are listed and the SDK does what it is asked. -/
theorem SchedInv.groupSet (h : SchedInv db) (hroom : SchedRoom db (.group k) oid)
    (hold : oid ≠ Oid.null → db.ptr (.group k) = none ∨ db.ptr (.group k) = some oid)
    (hlisted : oid ≠ Oid.null → db.ptr (.group k) = none →
      db.hw.CalmAfterTwo ∧ GroupListed db foreign fuel k oid)
    {r : Status × SchedDb sc} (hr : groupSetScheduler db foreign fuel k oid = some r) :
    SetOutcome db r := by
  simp only [groupSetScheduler] at hr
  split at hr
  · cases hr
    exact .of_still h (.refl db)
  split at hr
  · cases hr
    exact .of_still h (.refl db)
  next g hg =>
  have hptr : db.ptr (.group k) = groupSchedPtr k g := ptr_group_of hg
  split at hr
  · next hn =>
    split at hr
    · cases hr
      exact .of_still h (.refl db)
    next hlc =>
    split at hr
    · next db₁ he =>
      obtain rfl := (congrArg Prod.snd he).symm
      split at hr
      · cases hr
        exact .of_still h (.withHw db _)
      next s hs =>
      obtain ⟨_, hl⟩ := lookup_of_scheduler hs
      by_cases hsame : g.schedId = oid
      · simp only [hsame, if_true, true_or] at hr
        split at hr
        · cases hr
        · next db₂ hloop =>
          cases hr
          exact .of_still h ((Still.withHw db _).trans (still_updateQueues _ hloop))
        · next r₂ _ hloop =>
          cases hr
          exact .of_still h ((Still.withHw db _).trans (still_updateQueues _ hloop))
      have hne : db.ptr (.group k) ≠ some oid := by
        rw [hptr, groupSchedPtr]
        split
        · nofun
        · exact fun he => hsame (Option.some.inj he)
      have hnone := (hold hn).resolve_right hne
      obtain ⟨hcalm, hlist⟩ := hlisted hn hnone
      have hfst : (hwThen db.hw.call SchedHw.call).1 = .success := congrArg Prod.fst he
      have hcalm' := calm_of_queries hcalm (Prod.ext hfst rfl)
      have hnew : groupSchedPtr k { g with schedId := oid } = some oid := if_neg hn
      have hb := Bound.setGroup db k { g with schedId := oid }
      rw [hnew] at hb
      have hb' : Bound (.group k) (some oid) db
          { (db.withHw (hwThen db.hw.call SchedHw.call)).2.setSchedId k g oid with
            schedulers := db.schedulers.insert oid s.hold } := ⟨hb.users, hb.ptr, hb.groups⟩
      have hbound := (h.bind hl hne ((hroom.resolve_left hne) s hl) hb' rfl
        (not_not.mp hlc).symm).1 hnone
      have hnull : g.schedId = Oid.null := by
        by_contra hz
        rw [hptr, groupSchedPtr, if_neg hz] at hnone
        cases hnone
      simp only [hsame, if_false, false_or] at hr
      split at hr
      · cases hr
      · next db₂ hloop =>
        rw [if_pos hnull] at hr
        cases hr
        exact .of_inv (hbound.still (still_updateQueues _ hloop))
      next r₂ hfail hloop =>
      have hsame : SameTree (db.setSchedId k g oid)
          { (db.withHw (hwThen db.hw.call SchedHw.call)).2.setSchedId k g oid with
            schedulers := db.schedulers.insert oid s.hold } := ⟨fun _ => rfl, rfl⟩
      have hok := updateQueues_success _ hbound hcalm' (hsame.loopListed (hlist g hg)) hloop
      exact (hfail _ (Prod.ext hok rfl)).elim
    · cases hr
      exact .of_still h (.withHw db _)
  · split at hr
    · cases hr
      exact .of_still h (.refl db)
    next hz =>
    have hu : db.ptr (.group k) = some g.schedId := hptr.trans (if_neg hz)
    split at hr
    · cases hr
      exact .of_still h (.refl db)
    next s hs =>
    obtain ⟨_, hl⟩ := lookup_of_scheduler hs
    cases hr
    have hb := Bound.setGroup db k { g with schedId := Oid.null }
    have hb' : Bound (.group k) none db { db.setSchedId k g Oid.null with
        schedulers := db.schedulers.insert g.schedId s.release } :=
      ⟨hb.users, hb.ptr, hb.groups⟩
    exact .of_inv (h.unbind hu hl hb' rfl)

end Groups

/-! ## The calls of the API -/

section Api

variable {k oid : Oid} {mem : RecordMem}

theorem SchedInv.setPort (h : SchedInv db) {refused : Option Status}
    (hroom : SchedRoom db (.port k) oid) :
    SetOutcome db (setPortScheduler db mem refused k oid) := by
  simp only [setPortScheduler]
  split
  · exact .of_still h (.refl db)
  next hknown =>
  split
  · exact .of_still h (.refl db)
  next htype =>
  split
  · exact .of_still h (.refl db)
  split
  · exact .of_still h (.refl db)
  next n ports hg =>
  have hmade : Still db { db with ports := ports } := by
    obtain ⟨_, rfl⟩ | ⟨hn, _, rfl⟩ := getOrMake_cases hg
    · exact .refl db
    · refine .setPort ?_
      simp only [SchedDb.ptr, hn]
      rfl
  refine .of_made hmade ((h.still hmade).portSet (not_not.mp htype) (by simpa using hknown) ?_)
  rw [SchedRoom, hmade.ptr]
  exact hroom

theorem SchedInv.setQueue (h : SchedInv db) (hroom : SchedRoom db (.queue k) oid)
    (hcalm : (∃ old, db.ptr (.queue k) = some old ∧ old ≠ oid) → db.hw.Calm) :
    SetOutcome db (setQueueScheduler db mem k oid) := by
  simp only [setQueueScheduler]
  split
  · exact .of_still h (.refl db)
  next htype =>
  split
  · exact .of_still h (.refl db)
  next hknown =>
  split
  · exact .of_still h (.refl db)
  next q queues hg =>
  have hmade := still_getQueueDb hg
  refine .of_made hmade ((h.still hmade).queueSet (not_not.mp htype) (by simpa using hknown) ?_ ?_)
  · rw [SchedRoom, hmade.ptr]
    exact hroom
  · rw [hmade.ptr]
    exact hcalm

theorem setPort_success (h : SchedInv db) (hcalm : db.hw.Calm) {refused : Option Status}
    {old : Oid} {s : Scheduler} (hold : db.ptr (.port k) = some old)
    (hl : db.scheduler k.lchip oid = some s) (hn : oid ≠ Oid.null) :
    (setPortScheduler db mem refused k oid).1 = .success := by
  obtain ⟨htype, hknown, _⟩ := h.user _ _ hold
  obtain ⟨n, hp, _⟩ := Option.bind_eq_some_iff.mp hold
  have hmade : getOrMake mem 0 db.ports k = .ok (n, db.ports) := by
    simp only [getOrMake, hp]
  simp only [setPortScheduler, hknown, Bool.not_true, Bool.false_eq_true, if_false, htype, ne_eq,
    not_true, hp, hmade]
  exact portSet_success h hcalm hold hl hn

theorem setQueue_success (h : SchedInv db) (hcalm : db.hw.Calm) {old : Oid} {s : Scheduler}
    (hold : db.ptr (.queue k) = some old) (hl : db.scheduler k.lchip oid = some s)
    (hn : oid ≠ Oid.null) : (setQueueScheduler db mem k oid).1 = .success := by
  obtain ⟨htype, hknown, _⟩ := h.user _ _ hold
  obtain ⟨q, hq, _⟩ := Option.bind_eq_some_iff.mp hold
  have hmade : getQueueDb mem db.queues k = .ok (q, db.queues) := by
    simp only [getQueueDb, htype, ne_eq, not_true, if_false, getOrMake, hq]
  simp only [setQueueScheduler, hknown, Bool.not_true, Bool.false_eq_true, if_false, htype, ne_eq,
    not_true, hmade]
  exact queueSet_success h hcalm hold hl hn

end Api

/-! ## Runs -/

/-- The calls of a run.  Those that reach the SDK come with what its calls return. -/
inductive SchedOp where
  | createProfile (mem : SchedulerMem) (c : Lchip) (attrs : List SchedulerAttr)
  | removeProfile (oid : Oid)
  | createGroup (mem : RecordMem) (c : Lchip) (attrs : List SchedGroupAttr)
  | removeGroup (oid : Oid)
  | setPort (answers : List CtcE) (mem : RecordMem) (refused : Option Status) (k oid : Oid)
  | setQueue (answers : List CtcE) (mem : RecordMem) (k oid : Oid)
  | setGroup (answers : List CtcE) (foreign : ForeignNodes) (fuel : Nat) (k oid : Oid)
  | setQueueParent (answers : List CtcE) (mem : RecordMem) (foreign : ForeignNodes) (k oid : Oid)
  | setGroupParent (answers : List CtcE) (foreign : ForeignNodes) (fuel : Nat) (k parent : Oid)

/-- The SDK will answer so. -/
def SchedDb.answering (db : SchedDb sc) (answers : List CtcE) : SchedDb sc :=
  { db with hw := { db.hw with answers := answers } }

theorem Still.answering (db : SchedDb sc) (answers : List CtcE) : Still db (db.answering answers) :=
  ⟨rfl, rfl, .of_queues rfl⟩

/-- One call: what it returns and the state it leaves; `none` is a call that has not come to an
end. -/
def schedCall (db : SchedDb sc) : SchedOp → Option (Status × SchedDb sc)
  | .createProfile mem c attrs =>
    let r := createScheduler db mem c attrs
    some (r.1, r.2.2)
  | .removeProfile oid => some (removeScheduler db oid)
  | .createGroup mem c attrs =>
    let r := createSchedGroup db mem c attrs
    some (r.1, r.2.2)
  | .removeGroup oid => some (removeSchedGroup db oid)
  | .setPort answers mem refused k oid =>
    some (setPortScheduler (db.answering answers) mem refused k oid)
  | .setQueue answers mem k oid => some (setQueueScheduler (db.answering answers) mem k oid)
  | .setGroup answers foreign fuel k oid =>
    setGroupScheduler (db.answering answers) foreign fuel k oid
  | .setQueueParent answers mem foreign k oid =>
    some (setQueueParent (db.answering answers) mem foreign k oid)
  | .setGroupParent answers foreign fuel k parent =>
    setGroupParent (db.answering answers) foreign fuel k parent

def schedStep (db : SchedDb sc) (op : SchedOp) : Option (SchedDb sc) :=
  (schedCall db op).map Prod.snd

def SchedStart (db : SchedDb sc) : Prop :=
  db.schedulers = ∅ ∧ db.groups = ∅ ∧ db.queues = ∅ ∧ db.ports = ∅

def AllSucceed (answers : List CtcE) : Prop := ∀ rc ∈ answers, mappingErrorCtc rc = .success

/-- Groups are created and removed without a profile, a group that has one gets no other one,
and while it gets its first one the queues below it are listed and the SDK does not fail;
nor does it fail while a queue gets another profile; no profile is counted a 65536th time. -/
def SchedSafe (db : SchedDb sc) : SchedOp → Prop
  | .createGroup _ _ attrs =>
    (findAttribInList SchedGroupAttr.schedulerProfileId? attrs).getD Oid.null = Oid.null
  | .removeGroup oid => db.ptr (.group oid) = none
  | .setPort _ _ _ k oid => SchedRoom db (.port k) oid
  | .setQueue answers _ k oid => SchedRoom db (.queue k) oid ∧
      ((∃ old, db.ptr (.queue k) = some old ∧ old ≠ oid) → AllSucceed answers)
  | .setGroup answers foreign fuel k oid => SchedRoom db (.group k) oid ∧
      (oid ≠ Oid.null → db.ptr (.group k) = none ∨ db.ptr (.group k) = some oid) ∧
      (oid ≠ Oid.null → db.ptr (.group k) = none →
        AllSucceed (answers.drop 2) ∧ GroupListed db foreign fuel k oid)
  | _ => True

theorem SchedStart.inv (h : SchedStart db) : SchedInv db := by
  obtain ⟨hs, hg, hq, hp⟩ := h
  refine ⟨?_, ?_, ?_, ?_⟩
  · funext p
    simp only [SchedDb.users, SchedDb.counts, hs, hg, hq, hp, users_empty]
    rfl
  · intro p s hl
    rw [hs] at hl
    exact absurd hl (by simp)
  · intro u p hu
    cases u with
    | port k =>
      simp only [SchedDb.ptr, hp] at hu
      cases hu
    | queue k =>
      simp only [SchedDb.ptr, hq] at hu
      cases hu
    | group k =>
      simp only [SchedDb.ptr, hg] at hu
      cases hu
  · intro k q hl
    rw [hq] at hl
    exact absurd hl (by simp)

def SchedOp.IsSet : SchedOp → Prop
  | .setPort .. | .setQueue .. | .setGroup .. => True
  | _ => False

variable {op : SchedOp}

theorem SchedInv.set (h : SchedInv db) (hset : op.IsSet) (hop : SchedSafe db op)
    (hr : schedCall db op = some r) : SetOutcome db r := by
  have ha := fun answers => Still.answering db answers
  cases op with
  | setPort answers mem refused k oid =>
    cases hr
    exact .of_made (ha answers) ((h.still (ha answers)).setPort hop)
  | setQueue answers mem k oid =>
    cases hr
    exact .of_made (ha answers) ((h.still (ha answers)).setQueue hop.1 hop.2)
  | setGroup answers foreign fuel k oid =>
    obtain ⟨hroom, hold, hlisted⟩ := hop
    refine .of_made (ha answers) ?_
    simp only [schedCall, setGroupScheduler] at hr
    split at hr
    · cases hr
      exact .of_still (h.still (ha answers)) (.refl _)
    split at hr
    · cases hr
      exact .of_still (h.still (ha answers)) (.refl _)
    refine (h.still (ha answers)).groupSet hroom hold ?_ hr
    intro hn hnone
    obtain ⟨hcalm, hlist⟩ := hlisted hn hnone
    have hsame : ∀ g, SameTree (db.setSchedId k g oid)
        ((db.answering answers).setSchedId k g oid) := fun g => ⟨fun _ => rfl, rfl⟩
    exact ⟨hcalm, fun g hg => (hsame g).loopListed (hlist g hg)⟩
  | _ => exact hset.elim

theorem SchedInv.step (h : SchedInv db) (hop : SchedSafe db op) (hst : schedStep db op = some db') :
    SchedInv db' := by
  obtain ⟨r, hr, rfl⟩ := Option.map_eq_some_iff.mp hst
  cases op with
  | createProfile mem c attrs =>
    cases hr
    exact h.createScheduler
  | removeProfile oid =>
    cases hr
    exact h.removeScheduler
  | createGroup mem c attrs =>
    cases hr
    exact h.still (still_createSchedGroup hop)
  | removeGroup oid =>
    cases hr
    exact h.still (still_removeSchedGroup hop)
  | setPort answers mem refused k oid => exact (h.set (by exact trivial) hop hr).inv
  | setQueue answers mem k oid => exact (h.set (by exact trivial) hop hr).inv
  | setGroup answers foreign fuel k oid => exact (h.set (by exact trivial) hop hr).inv
  | setQueueParent answers mem foreign k oid =>
    cases hr
    exact h.still ((Still.answering db answers).trans still_setQueueParent)
  | setGroupParent answers foreign fuel k parent =>
    exact h.still ((Still.answering db answers).trans (still_setGroupParent hr))

/-- A user with a profile is given another one that is there. -/
def SchedOp.Replaces (db : SchedDb sc) : SchedOp → Prop
  | .setPort _ _ _ k oid => oid ≠ Oid.null ∧ (∃ old, db.ptr (.port k) = some old ∧ old ≠ oid) ∧
      ∃ s, db.scheduler k.lchip oid = some s
  | .setQueue _ _ k oid => oid ≠ Oid.null ∧ (∃ old, db.ptr (.queue k) = some old ∧ old ≠ oid) ∧
      ∃ s, db.scheduler k.lchip oid = some s
  | .setGroup _ _ _ k oid => oid ≠ Oid.null ∧ (∃ old, db.ptr (.group k) = some old ∧ old ≠ oid) ∧
      ∃ s, db.scheduler k.lchip oid = some s
  | _ => False

/-- No call of the SDK fails. -/
def SchedOp.SdkSucceeds : SchedOp → Prop
  | .setPort answers .. | .setQueue answers .. | .setGroup answers .. => AllSucceed answers
  | _ => True

/-- The count of each profile is the number of its users, it can be removed exactly when it
has none, a set that fails leaves every stored profile and every count as it was, and a
replacement succeeds when the SDK does. -/
structure SchedOk (db : SchedDb sc) : Prop where
  counts : ∀ p s, db.schedulers.lookup p = some s → s.refCnt.toNat = db.users p
  live : ∀ p, 0 < db.users p → ∃ s, db.schedulers.lookup p = some s
  remove : ∀ p, (removeScheduler db p).1 = .success ↔
    (∃ s, db.schedulers.lookup p = some s) ∧ db.users p = 0
  failed : ∀ op r, op.IsSet → SchedSafe db op → schedCall db op = some r → r.1 ≠ .success →
    r.2.ptr = db.ptr ∧ r.2.schedulers = db.schedulers
  replaced : ∀ op r, SchedSafe db op → op.Replaces db → op.SdkSucceeds →
    schedCall db op = some r → r.1 = .success

theorem SchedInv.replaced (h : SchedInv db) (hop : SchedSafe db op) (hrep : op.Replaces db)
    (hsdk : op.SdkSucceeds) (hr : schedCall db op = some r) : r.1 = .success := by
  have ha := fun answers => h.still (Still.answering db answers)
  cases op with
  | setPort answers mem refused k oid =>
    obtain ⟨hn, ⟨old, hold, _⟩, s, hl⟩ := hrep
    cases hr
    exact setPort_success (ha answers) hsdk hold hl hn
  | setQueue answers mem k oid =>
    obtain ⟨hn, ⟨old, hold, _⟩, s, hl⟩ := hrep
    cases hr
    exact setQueue_success (ha answers) hsdk hold hl hn
  | setGroup answers foreign fuel k oid =>
    obtain ⟨hn, ⟨old, hold, hdiff⟩, _⟩ := hrep
    -- the profile of a group is not replaced in such a run
    cases hop.2.1 hn with
    | inl hnone =>
      rw [hold] at hnone
      cases hnone
    | inr hsame =>
      rw [hold] at hsame
      exact absurd (Option.some.inj hsame) hdiff
  | _ => exact hrep.elim

theorem SchedInv.ok (h : SchedInv db) : SchedOk db := by
  refine ⟨?_, ?_, removeScheduler_success h, ?_, ?_⟩
  · intro p s hl
    rw [h.balanced, SchedDb.counts, kept_of_lookup hl]
  · intro p hp
    rw [h.balanced] at hp
    obtain ⟨s, hl, _⟩ := exists_of_kept hp
    exact ⟨s, hl⟩
  · intro op r hset hop hr hfail
    have hstill := (h.set hset hop hr).failed hfail
    exact ⟨hstill.ptr, hstill.schedulers⟩
  · intro op r hop hrep hsdk hr
    exact h.replaced hop hrep hsdk hr

/-- In every run that stays clear of the slips, the profiles count their users. -/
theorem schedulerProfile_of_run (h : Reachable SchedStart SchedSafe schedStep db) : SchedOk db :=
  SchedInv.ok (Reachable.inv (fun _ hs => hs.inv) (fun _ _ _ hs hop hst => hs.step hop hst) h)

/-! ## Two runs -/

def SchedDb.initial (sc : SchedulerChip) : SchedDb sc :=
  ⟨∅, ∅, ∅, ∅, fun _ => Pool.empty _, ⟨fun _ => 0, fun _ => none, []⟩⟩

def firstSched : Oid := schedulerOid 0 1

def secondSched : Oid := schedulerOid 0 2

def schedPort : Oid := createObjectId .port 0 0 0 3

def schedQueue : Oid := queueOid 0 0 2 3

def groupAttrs : List SchedGroupAttr := [.level 0, .portId schedPort, .maxChilds 4]

/-- A port and a group are set to the first profile, a queue is set to it and then to the second
one: the counts are two and one. -/
theorem schedulerProfile_of_run_two : ∃ db : SchedDb .plain, SchedOk db ∧
    db.users firstSched = 2 ∧ db.users secondSched = 1 := by
  have r₀ : Reachable SchedStart SchedSafe schedStep (SchedDb.initial .plain) :=
    .start ⟨rfl, rfl, rfl, rfl⟩
  have r₁ := r₀.next (.createProfile .ok 0 []) (by exact trivial) rfl
  have r₂ := r₁.next (.createProfile .ok 0 []) (by exact trivial) rfl
  have r₃ := r₂.next (.createGroup .ok 0 groupAttrs) (by rfl) rfl
  have r₄ := r₃.next (.setGroup [] (fun _ => none) 4 (schedGroupOid 0 0 0 3) firstSched) (by
    refine ⟨.inr fun s hl => ?_, fun _ => .inl rfl, fun _ _ => ⟨nofun, ?_⟩⟩
    · cases hl
      decide
    · intro g _ a _ k q hq
      -- no queue has a record yet
      obtain ⟨hl, _⟩ := queueOf_some hq
      cases hl) rfl
  have r₅ := r₄.next (.setPort [] .ok none schedPort firstSched) (by
    refine .inr fun s hl => ?_
    cases hl
    decide) rfl
  have r₆ := r₅.next (.setQueue [] .ok schedQueue firstSched) (by
    refine ⟨.inr fun s hl => ?_, fun _ => nofun⟩
    cases hl
    decide) rfl
  have r₇ := r₆.next (.setQueue [] .ok schedQueue secondSched) (by
    refine ⟨.inr fun s hl => ?_, fun _ => nofun⟩
    cases hl
    decide) rfl
  exact ⟨_, schedulerProfile_of_run r₇, by decide, by decide⟩

/-- A group is created with the first profile, which does not count it and can be removed. -/
theorem schedulerProfile_not_counted : ∃ db : SchedDb .plain,
    Reachable SchedStart anyStep schedStep db ∧
      (∃ s, db.schedulers.lookup firstSched = some s ∧ s.refCnt = 0) ∧
      db.users firstSched = 1 ∧ (removeScheduler db firstSched).1 = .success := by
  have r₀ : Reachable SchedStart anyStep schedStep (SchedDb.initial .plain) :=
    .start ⟨rfl, rfl, rfl, rfl⟩
  have r₁ := r₀.next (.createProfile .ok 0 []) trivial rfl
  have r₂ := r₁.next (.createGroup .ok 0 (groupAttrs ++ [.schedulerProfileId firstSched]))
    trivial rfl
  exact ⟨_, r₂, ⟨_, rfl, by decide⟩, by decide, by decide⟩

end CtcSai
