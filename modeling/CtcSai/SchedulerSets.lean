/-
# `SchedulerSets` — what each call does to the pointers and the counts

The calls of the group module leave every pointer alone.  Each of the three sets either
keeps the balance and succeeds, or fails; what it has written by then decides whether a
failure leaves the user as it was.
-/
import CtcSai.SchedulerUsers

namespace CtcSai

open Function IdPool KeyedTable RefCounts

variable {sc : SchedulerChip} {db db' : SchedDb sc}
variable {hw : SchedHw}

/-! ## Calls of the SDK that all succeed -/

/-- Every call succeeds that is still to come. -/
def SchedHw.Calm (hw : SchedHw) : Prop := ∀ rc ∈ hw.answers, mappingErrorCtc rc = .success

/-- A step that succeeds when the SDK does, and leaves it so. -/
def FineHw (f : SchedHw → Status × SchedHw) : Prop :=
  ∀ hw, hw.Calm → (f hw).1 = .success ∧ (f hw).2.Calm

theorem FineHw.call : FineHw SchedHw.call := by
  intro hw h
  simp only [SchedHw.call]
  cases ha : hw.answers with
  | nil => exact ⟨rfl, h⟩
  | cons rc rest =>
    refine ⟨h rc (ha ▸ List.mem_cons_self), fun rc' hmem => h rc' ?_⟩
    rw [ha]
    exact List.mem_cons_of_mem rc hmem

theorem FineHw.write (reg : SchedReg) (v : BitVec 8) : FineHw fun hw => hw.write reg v := by
  intro hw h
  obtain ⟨hs, hc⟩ := FineHw.call hw h
  simp only [SchedHw.write]
  split
  · next hw' he =>
    rw [he] at hc
    exact ⟨rfl, hc⟩
  · next hne => exact (hne _ (Prod.ext hs rfl)).elim

theorem FineHw.setShape (reg : ShapeReg) (s : Shape) : FineHw fun hw => hw.setShape reg s := by
  intro hw h
  obtain ⟨hs, hc⟩ := FineHw.call hw h
  simp only [SchedHw.setShape]
  split
  · next hw' he =>
    rw [he] at hc
    exact ⟨rfl, hc⟩
  · next hne => exact (hne _ (Prod.ext hs rfl)).elim

theorem FineHw.done : FineHw fun hw => (.success, hw) := fun _ h => ⟨rfl, h⟩

theorem FineHw.andThen {f g : SchedHw → Status × SchedHw} (hf : FineHw f) (hg : FineHw g) :
    FineHw fun hw => hwThen (f hw) g := by
  intro hw h
  obtain ⟨hs, hc⟩ := hf hw h
  simp only [hwThen]
  split
  · next hw' he =>
    rw [he] at hc
    exact hg hw' hc
  · next hne => exact (hne _ (Prod.ext hs rfl)).elim

theorem FineHw.ite {p : Prop} [Decidable p] {f g : SchedHw → Status × SchedHw} (hf : p → FineHw f)
    (hg : ¬ p → FineHw g) : FineHw fun hw => if p then f hw else g hw := by
  intro hw h
  by_cases hp : p
  · simp only [if_pos hp]
    exact hf hp hw h
  · simp only [if_neg hp]
    exact hg hp hw h

/-! ### No answer is left -/

theorem SchedHw.call_quiet (hquiet : hw.answers = []) : hw.call = (.success, hw) := by
  simp only [SchedHw.call, hquiet]

theorem SchedHw.write_quiet (hquiet : hw.answers = []) (reg : SchedReg) (v : BitVec 8) :
    hw.write reg v = (.success, { hw with regs := update hw.regs reg v }) := by
  simp only [SchedHw.write, SchedHw.call_quiet hquiet]

theorem SchedHw.setShape_quiet (hquiet : hw.answers = []) (reg : ShapeReg) (s : Shape) :
    hw.setShape reg s = (.success, { hw with shapes := update hw.shapes reg (some s) }) := by
  simp only [SchedHw.setShape, SchedHw.call_quiet hquiet]

/-- Every pointer is at a profile that is there. -/
def LivePtrs (db : SchedDb sc) : Prop :=
  ∀ u p, db.ptr u = some p → ∃ s, db.schedulers.lookup p = some s

theorem SchedInv.live (h : SchedInv db) : LivePtrs db := by
  intro u p hp
  obtain ⟨s, hs, _⟩ := h.counted hp
  exact ⟨s, hs⟩

/-! ### Mapping a queue -/

section Mapping

variable {c : Lchip} {gport : BitVec 32} {queue : BitVec 8}

theorem FineHw.queueSetCtcSched (classId weight : BitVec 8) :
    FineHw (CtcSai.queueSetCtcSched sc c gport queue classId weight) := by
  refine FineHw.andThen ?_ (FineHw.andThen (.write _ _) (.ite (fun _ => .write _ _) fun _ => .done))
  cases sc.chipType c with
  | greatbelt => exact .write _ _
  | goldengate => exact .write _ _
  | duet2 => exact .done
  | tsingma => exact .done

theorem FineHw.strictClasses (l : List (BitVec 8)) :
    ∀ new, FineHw (CtcSai.strictClasses sc c gport queue new l) := by
  induction l with
  | nil => exact fun _ => .done
  | cons i rest ih =>
    intro new
    refine FineHw.andThen .call ?_
    intro hw h
    dsimp only
    split
    · exact ih new hw h
    · exact FineHw.andThen (.queueSetCtcSched _ _) (ih _) hw h

theorem queueOf_some {sel : Queue → Bool} {i : BitVec 8} {k : Oid} {q : Queue}
    (h : db.queueOf sel c gport i = some (k, q)) :
    db.queues.lookup k = some q ∧ sel q = true ∧ k.lchip = c ∧
      k.type = ObjectType.queue.bits ∧ k.subType ≠ queueTypeMulticast := by
  simp only [SchedDb.queueOf] at h
  split at h
  · next q' hq =>
    cases h
    obtain ⟨hl, hs⟩ := Option.filter_eq_some_iff.mp hq
    refine ⟨hl, hs, lchip_createObjectId _ _ _ _ _, rfl, ?_⟩
    show (queueTypeAll.setWidth 8).setWidth 3 ≠ queueTypeMulticast
    decide
  next hq =>
  obtain ⟨q', hq', he⟩ := Option.map_eq_some_iff.mp h
  cases he
  obtain ⟨hl, hs⟩ := Option.filter_eq_some_iff.mp hq'
  refine ⟨hl, hs, lchip_createObjectId _ _ _ _ _, rfl, ?_⟩
  show (queueTypeUnicast.setWidth 8).setWidth 3 ≠ queueTypeMulticast
  decide

theorem FineHw.wdrrClasses (hlive : LivePtrs db) (l : List (BitVec 8)) :
    ∀ new, FineHw (CtcSai.wdrrClasses db c gport queue new l) := by
  induction l with
  | nil => exact fun _ => .done
  | cons i rest ih =>
    intro new hw h
    simp only [CtcSai.wdrrClasses]
    split
    · exact ih new hw h
    next k q hq =>
    obtain ⟨hl, hs, hc, _⟩ := queueOf_some hq
    have hptr : db.ptr (.queue k) = some (schedulerOid c q.schId) := by
      rw [ptr_queue_of hl, queueSchedPtr, numberPtr, if_neg (of_decide_eq_true hs), hc]
    obtain ⟨s, hls⟩ := hlive _ _ hptr
    rw [scheduler_of_lookup (lchip_schedulerOid _ _) hls]
    simp only
    split
    · exact ih new hw h
    · exact FineHw.andThen (.queueSetCtcSched _ _) (ih _) hw h

theorem FineHw.queueMapScheduler (hlive : LivePtrs db) (prof : Option Scheduler) :
    FineHw (CtcSai.queueMapScheduler db c gport queue prof) := by
  cases prof with
  | none => exact FineHw.andThen (.queueSetCtcSched _ _) (.setShape _ _)
  | some s =>
    refine FineHw.andThen (.ite ?_ ?_) (.setShape _ _)
    · exact fun _ => FineHw.andThen (.queueSetCtcSched _ _) (.strictClasses _ _)
    · exact fun _ => FineHw.andThen (.queueSetCtcSched _ _) (.wdrrClasses hlive _ _)

end Mapping

/-! ## The group module leaves the pointers alone -/

section Groups

variable {c : Lchip} {parent child : Oid}
variable {oid : Oid} {foreign : ForeignNodes} {mem : RecordMem}

theorem still_addChild : Still db (addChild db c parent child).2 := by
  simp only [addChild]
  split
  · split
    · exact .refl db
    split
    · exact .refl db
    next g hg =>
    obtain ⟨_, hl⟩ := lookup_of_group hg
    split
    · exact .refl db
    split
    · exact .refl db
    split
    · exact .refl db
    exact .setGroup (ptr_group_of hl).symm
  · split
    · exact .refl db
    · exact .refl db

theorem still_delChild : Still db (delChild db c parent child).2 := by
  simp only [delChild]
  split
  · split
    · exact .refl db
    next g hg =>
    obtain ⟨_, hl⟩ := lookup_of_group hg
    exact .setGroup (ptr_group_of hl).symm
  · split
    · exact .refl db
    · exact .refl db

theorem addChild_queues (db : SchedDb sc) (c : Lchip) (parent child : Oid) :
    (addChild db c parent child).2.queues = db.queues := by
  simp only [addChild]
  split
  · split
    · rfl
    split
    · rfl
    split
    · rfl
    split
    · rfl
    split
    · rfl
    · rfl
  · split
    · rfl
    · rfl

theorem delChild_queues (db : SchedDb sc) (c : Lchip) (parent child : Oid) :
    (delChild db c parent child).2.queues = db.queues := by
  simp only [delChild]
  split
  · split
    · rfl
    · rfl
  · split
    · rfl
    · rfl

theorem Still.of_eq {s : Status} {r : Status × SchedDb sc} (h : Still db r.2) (he : r = (s, db')) :
    Still db db' := by
  rw [he] at h
  exact h

theorem still_setSchGrp {queueId : Oid} {q : Queue} (hq : db.queues.lookup queueId = some q)
    (ho : SamePort queueId { q with schGrp := oid }) : Still db (db.setSchGrp queueId q oid) :=
  .setQueue (ptr_queue_of hq).symm (.inl ho)

/-- Attaching or detaching a queue. -/
theorem still_groupQueueSetScheduler {foreign : ForeignNodes} {queueId oid : Oid} :
    Still db (groupQueueSetScheduler db foreign queueId oid).2 := by
  have hnull : ∀ q : Queue, SamePort queueId { q with schGrp := Oid.null } :=
    fun _ hn => absurd rfl hn
  simp only [groupQueueSetScheduler]
  split
  · exact .refl db
  split
  · exact .refl db
  next q hq =>
  split
  · split
    · exact .refl db
    next hc =>
    split
    · exact .refl db
    next hv =>
    split
    · next ht =>
      have ho : SamePort queueId { q with schGrp := oid } :=
        fun _ => ⟨not_not.mp hc, not_not.mp hv, .inl ht⟩
      split
      · exact .refl db
      have hhw := Still.withHw db (applyQueueToGroup db foreign queueId oid true db.hw)
      split
      · next db₁ he =>
        have h₁ : Still db db₁ := hhw.of_eq he
        have hq₁ : db₁.queues.lookup queueId = some q := by
          rw [← hq]
          exact congrArg (fun r => r.2.queues.lookup queueId) he.symm
        have hadd := @still_addChild sc db₁ queueId.lchip oid queueId
        split
        · next db₂ he₂ =>
          have h₂ : Still db₁ db₂ := hadd.of_eq he₂
          have hq₂ : db₂.queues.lookup queueId = some q := by
            have hsame := addChild_queues db₁ queueId.lchip oid queueId
            rw [he₂] at hsame
            rw [hsame]
            exact hq₁
          exact (h₁.trans h₂).trans (still_setSchGrp hq₂ ho)
        · exact h₁.trans hadd
      · exact hhw
    · split
      · next ht =>
        exact still_setSchGrp hq fun _ => ⟨not_not.mp hc, not_not.mp hv, .inr ht⟩
      · exact .refl db
  · split
    · exact .refl db
    split
    · split
      · exact .refl db
      have hhw := Still.withHw db (applyQueueToGroup db foreign queueId q.schGrp false db.hw)
      split
      · next db₁ he =>
        have h₁ : Still db db₁ := hhw.of_eq he
        have hq₁ : db₁.queues.lookup queueId = some q := by
          rw [← hq]
          exact congrArg (fun r => r.2.queues.lookup queueId) he.symm
        have hdel := @still_delChild sc db₁ queueId.lchip q.schGrp queueId
        split
        · next db₂ he₂ =>
          have h₂ : Still db₁ db₂ := hdel.of_eq he₂
          have hq₂ : db₂.queues.lookup queueId = some q := by
            have hsame := delChild_queues db₁ queueId.lchip q.schGrp queueId
            rw [he₂] at hsame
            rw [hsame]
            exact hq₁
          exact (h₁.trans h₂).trans (still_setSchGrp hq₂ (hnull q))
        · exact h₁.trans hdel
      · exact hhw
    · exact still_setSchGrp hq (hnull q)

theorem still_updateQueues {hit : Oid → Oid → Bool} {fuel : Nat} (l : List (BitVec 32 × BitVec 8)) :
    ∀ {db : SchedDb sc} {r : Status × SchedDb sc},
      updateQueues foreign hit fuel c l db = some r → Still db r.2 := by
  induction l with
  | nil =>
    intro db r hr
    cases hr
    exact .refl db
  | cons a rest ih =>
    intro db r hr
    simp only [updateQueues] at hr
    split at hr
    · exact ih hr
    next k q _ =>
    have hone : ∀ r₁, queueUpdateSchedGroup db foreign hit fuel c k q = some r₁ → Still db r₁.2 := by
      intro r₁ h₁
      obtain ⟨found, _, rfl⟩ := Option.map_eq_some_iff.mp h₁
      split
      · exact still_groupQueueSetScheduler
      · exact .refl db
    split at hr
    · cases hr
    · next db₁ he => exact (hone _ he).trans (ih hr)
    · next r₁ _ he =>
      cases hr
      exact hone _ he

theorem still_createSchedGroup {attrs : List SchedGroupAttr}
    (hnone : (findAttribInList SchedGroupAttr.schedulerProfileId? attrs).getD Oid.null = Oid.null) :
    Still db (createSchedGroup db mem c attrs).2.2 := by
  simp only [createSchedGroup]
  split
  · exact .refl db
  split
  · exact .refl db
  next level _ =>
  split
  · exact .refl db
  split
  · exact .refl db
  next port _ =>
  split
  · exact .refl db
  split
  · exact .refl db
  next given _ =>
  split
  · exact .refl db
  split
  · exact .refl db
  split
  · exact .refl db
  next i hi =>
  split
  · exact .refl db
  next g groups hg =>
  have hfound : (db.groups.lookup (schedGroupOid c level (BitVec.ofNat 16 i) port.value)).isNone :=
    @List.find?_some _ (fun i => (db.groups.lookup (schedGroupOid c level (BitVec.ofNat 16 i)
      port.value)).isNone) _ _ hi
  have hfree := Option.isNone_iff_eq_none.mp hfound
  have hmade : Still db { db with groups := groups } := by
    obtain ⟨hl, _⟩ | ⟨_, _, rfl⟩ := getOrMake_cases hg
    · rw [hfree] at hl
      cases hl
    · refine .setGroup ?_
      simp only [SchedDb.ptr, hfree]
      rfl
  have hadd := @still_addChild sc { db with groups := groups } c given
    (schedGroupOid c level (BitVec.ofNat 16 i) port.value)
  split
  · next db₁ he =>
    have h₁ : Still db db₁ := hmade.trans (hadd.of_eq he)
    refine h₁.trans (.setGroup ?_)
    rw [hnone, h₁.ptr]
    simp only [SchedDb.ptr, hfree]
    rfl
  · next status db₁ hne he => exact hmade.trans (hadd.of_eq he)

theorem still_removeSchedGroup (hp : db.ptr (.group oid) = none) :
    Still db (removeSchedGroup db oid).2 := by
  simp only [removeSchedGroup]
  split
  · exact .refl db
  split
  · exact .refl db
  next g _ =>
  have hdel := @still_delChild sc db oid.lchip g.parentId oid
  split
  · next db₁ he =>
    have h₁ : Still db db₁ := hdel.of_eq he
    refine h₁.trans (.eraseGroup ?_)
    rw [h₁.ptr, hp]
  · exact hdel

theorem still_setGroupParent {fuel : Nat} {r : Status × SchedDb sc}
    (hr : setGroupParent db foreign fuel oid parent = some r) :
    Still db r.2 := by
  simp only [setGroupParent] at hr
  split at hr
  · cases hr
    exact .refl db
  split at hr
  · cases hr
    exact .refl db
  next g hg =>
  have hmove : Still db (if parent = Oid.null then delChild db oid.lchip g.parentId oid
      else addChild db oid.lchip parent oid).2 := by
    split
    · exact still_delChild
    · exact still_addChild
  split at hr
  · next db₁ he =>
    have h₁ : Still db db₁ := hmove.of_eq he
    refine (h₁.trans (.setGroup ?_)).trans (still_updateQueues _ hr)
    rw [h₁.ptr, ptr_group_of hg]
    cases hl : db₁.groups.lookup oid with
    | none => rfl
    | some g₁ =>
      have hsame := congrFun h₁.ptr (.group oid)
      rw [ptr_group_of hl, ptr_group_of hg] at hsame
      exact hsame
  · cases hr
    exact hmove

theorem still_getQueueDb {k : Oid} {q : Queue} {queues : Table Oid Queue}
    (hg : getQueueDb mem db.queues k = .ok (q, queues)) :
    Still db { db with queues := queues } := by
  obtain ⟨_, rfl⟩ | ⟨hn, _, rfl⟩ := getQueueDb_cases hg
  · exact .refl db
  · refine .setQueue ?_ (.inl fun h => absurd rfl h)
    simp only [SchedDb.ptr, hn]
    rfl

theorem still_setQueueParent {k : Oid} : Still db (setQueueParent db mem foreign k oid).2 := by
  simp only [setQueueParent]
  split
  · exact .refl db
  split
  · exact .refl db
  split
  · exact .refl db
  next q queues hg => exact (still_getQueueDb hg).trans still_groupQueueSetScheduler

end Groups

/-! ## Profiles come and go -/

theorem schedulerOf_refCnt {attrs : List SchedulerAttr} {s : Scheduler}
    (h : schedulerOf attrs = .ok s) : s.refCnt = 0 := by
  simp only [schedulerOf] at h
  split at h
  · cases h
  split at h
  · cases h
  split at h
  · cases h
  cases h
  rfl

theorem SchedInv.createScheduler (h : SchedInv db) {mem : SchedulerMem} {c : Lchip}
    {attrs : List SchedulerAttr} : SchedInv (CtcSai.createScheduler db mem c attrs).2.2 := by
  simp only [CtcSai.createScheduler]
  split
  · exact h
  split
  · exact h
  split
  · exact h
  next s hs =>
  split
  · exact h
  next i pool ha =>
  have hback : ∀ pool', SchedInv { db with ids := update db.ids c pool' } :=
    fun pool' => h.still ⟨rfl, rfl, .of_queues rfl⟩
  split
  · exact hback _
  next hnew =>
  split
  · exact hback _
  have hnone := Option.not_isSome_iff_eq_none.mp hnew
  obtain ⟨_, hlo, hhi, _, _⟩ := Pool.alloc_some ha
  have hkept : kept (fun x : Scheduler => x.refCnt.toNat) db.schedulers
      (schedulerOid c (BitVec.ofNat 32 i)) = s.refCnt.toNat := by
    rw [kept_of_none hnone, schedulerOf_refCnt hs]
    rfl
  have hpos := sc.common_lo
  have htop := sc.common_hi
  exact ⟨h.balanced.trans (kept_insert_same hkept).symm, Table.forall_insert
    ⟨by rw [lchip_schedulerOid]; rfl, ofNat_ne_zero (by omega) (by omega)⟩ h.form, h.user, h.samePort⟩

/-- A profile is removed exactly when it is there and nobody points at it. -/
theorem removeScheduler_success (h : SchedInv db) (p : Oid) : (removeScheduler db p).1 = .success ↔
      (∃ s, db.schedulers.lookup p = some s) ∧ db.users p = 0 := by
  refine removal_success Scheduler.refCnt (fun hl => ?_) fun s hl => ⟨?_, ?_⟩
  · rw [removeScheduler, hl]
    split <;> nofun
  · have htype : p.type = ObjectType.scheduler.bits := by rw [(h.form p s hl).1]; rfl
    rw [removeScheduler, if_neg (not_not.mpr htype), hl]
    dsimp only
    split <;> simp_all
  · rw [h.balanced, SchedDb.counts, kept_of_lookup hl]

theorem SchedInv.removeScheduler (h : SchedInv db) {oid : Oid} :
    SchedInv (CtcSai.removeScheduler db oid).2 := by
  simp only [CtcSai.removeScheduler]
  split
  · exact h
  split
  · exact h
  next s hl =>
  split
  · exact h
  next hz =>
  have hzero : s.refCnt = 0 := not_not.mp hz
  have hkept : kept (fun x : Scheduler => x.refCnt.toNat) db.schedulers oid = 0 := by
    rw [kept_of_lookup hl, hzero]
    rfl
  exact ⟨h.balanced.trans (kept_erase hkept).symm, Table.forall_erase h.form, h.user, h.samePort⟩

end CtcSai
