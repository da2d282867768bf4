/-
# `WredRuns` — the users and the drop schemes of WRED profiles

A profile counts the queues that are set to it, and the drop scheme of such a queue is
what the profile says with the thresholds of disabled colours at zero.  A queue that is
set to the profile it has is counted once more, and a disabled colour of a queue that is
set keeps the thresholds that were there; runs that avoid both keep the counts and the
drop schemes right.
-/
import CtcSai.Lib.RefCount
import CtcSai.Lib.Run
import CtcSai.Wred

namespace CtcSai

open Function IdPool KeyedTable RefCounts Runs Table

variable {wc : WredChip} {db db' : WredDb wc} {sdk : WredSdk} {k oid p : Oid} {w : Wred}

/-! ## What should hold -/

def queueWredPtr (queueId : Oid) (q : Queue) : Option Oid :=
  if q.wredId = 0 then none else some (wredOid queueId.lchip q.wredId)

/-- The queues that are set to a profile. -/
def WredDb.users (db : WredDb wc) : Oid → Nat := RefCounts.users queueWredPtr db.queues

/-- The count of a profile, zero where there is no profile. -/
def WredDb.counts (db : WredDb wc) : Oid → Nat := kept (fun w => w.usedCnt.toNat) db.wreds

/-- What a queue is set to, when it has a record. -/
def WredDb.queuePtr (db : WredDb wc) (queueId : Oid) : Option Oid :=
  (db.queues.lookup queueId).bind (queueWredPtr queueId)

/-- The drop scheme of a profile, from its attributes alone. -/
def wredDrop (w : Wred) : QueueDrop := { wredMapDbToCtcDrop w .zero with mode := .wred }

/-- Two queues that the SDK knows by one number. -/
def SameDropQueue (wc : WredChip) (k k' : Oid) : Prop :=
  k.lchip = k'.lchip ∧ dropQueue wc k = dropQueue wc k'

/-- The id of a profile is the one its number has on its chip. -/
def IsWredOid (p : Oid) : Prop := p = wredOid p.lchip p.value ∧ p.value ≠ 0

/-- The invariant. -/
structure WredInv (db : WredDb wc) : Prop where
  balanced : db.users = db.counts
  form : ∀ {p w}, db.wreds.lookup p = some w → IsWredOid p
  apart : ∀ {k k' p p'}, db.queuePtr k = some p → db.queuePtr k' = some p' →
    SameDropQueue wc k k' → k = k'
  drop : ∀ {k p w}, db.queuePtr k = some p → db.wreds.lookup p = some w →
    db.dropOf k = wredDrop w

@[simp] theorem lchip_wredOid (c : Lchip) (i : BitVec 32) : (wredOid c i).lchip = c :=
  lchip_createObjectId _ _ _ _ _

@[simp] theorem wredDrop_release (w : Wred) : wredDrop w.release = wredDrop w := by
  rw [Wred.release]
  split <;> rfl

theorem usedCnt_release (h : w.usedCnt ≠ 0) : w.release.usedCnt = w.usedCnt - 1 := by
  rw [Wred.release, if_pos h]

theorem wredPtr_of {q : Queue} (h : db.queues.lookup k = some q) :
    db.queuePtr k = queueWredPtr k q := by
  rw [WredDb.queuePtr, h]
  rfl

/-! ## Registers -/

@[simp] theorem dropOf_setDrop (db : WredDb wc) (k : Oid) (d : QueueDrop) :
    (db.setDrop k d).dropOf k = d := by
  rw [WredDb.dropOf, WredDb.setDrop]
  dsimp only
  rw [update_self, update_self]

theorem dropOf_setDrop_ne {k' : Oid} (d : QueueDrop) (h : ¬ SameDropQueue wc k k') :
    (db.setDrop k d).dropOf k' = db.dropOf k' := by
  rw [WredDb.dropOf, WredDb.setDrop, WredDb.dropOf]
  dsimp only
  by_cases hc : k'.lchip = k.lchip
  · rw [hc, update_self, update_of_ne]
    exact fun hq => h ⟨hc.symm, hq.symm⟩
  · rw [update_of_ne hc]

/-- The write of the traversal at one entry. -/
def traverseOne (c : Lchip) (id : BitVec 32) (d : QueueDrop) (s : WredDb wc)
    (e : Sigma fun _ : Oid => Queue) : WredDb wc :=
  if e.2.wredId = id ∧ e.1.lchip = c then s.setDrop e.1 d else s

/-- The traversal touches drop schemes alone: those of the queues with the number. -/
theorem queueTraverse_fold (c : Lchip) (id : BitVec 32) (d : QueueDrop) (k : Oid)
    (l : List (Sigma fun _ : Oid => Queue)) : ∀ db : WredDb wc,
    let s := l.foldl (traverseOne c id d) db
    s.wreds = db.wreds ∧ s.queues = db.queues ∧ s.ids = db.ids ∧
      ((∃ e ∈ l, (e.2.wredId = id ∧ e.1.lchip = c) ∧ SameDropQueue wc e.1 k) →
        s.dropOf k = d) ∧
      ((∀ e ∈ l, (e.2.wredId = id ∧ e.1.lchip = c) → ¬ SameDropQueue wc e.1 k) →
        s.dropOf k = db.dropOf k) := by
  induction l with
  | nil =>
    intro db
    exact ⟨rfl, rfl, rfl, fun ⟨e, he, _⟩ => (nomatch he), fun _ => rfl⟩
  | cons a rest ih =>
    intro db
    obtain ⟨hw, hq, hi, hin, hout⟩ := ih (traverseOne c id d db a)
    rw [List.foldl_cons]
    have hone : (traverseOne c id d db a).wreds = db.wreds ∧
        (traverseOne c id d db a).queues = db.queues ∧
        (traverseOne c id d db a).ids = db.ids := by
      rw [traverseOne]
      split <;> exact ⟨rfl, rfl, rfl⟩
    refine ⟨hw.trans hone.1, hq.trans hone.2.1, hi.trans hone.2.2, ?_, ?_⟩
    · rintro ⟨e, he, hm, hs⟩
      by_cases hrest : ∃ e ∈ rest, (e.2.wredId = id ∧ e.1.lchip = c) ∧ SameDropQueue wc e.1 k
      · exact hin hrest
      have hnone : ∀ e ∈ rest, (e.2.wredId = id ∧ e.1.lchip = c) →
          ¬ SameDropQueue wc e.1 k := fun e he hm hs => hrest ⟨e, he, hm, hs⟩
      rcases List.mem_cons.mp he with rfl | he
      · rw [hout hnone, traverseOne, if_pos hm, WredDb.dropOf, WredDb.setDrop, hs.1, hs.2]
        dsimp only
        rw [update_self, update_self]
      · exact absurd hs (hnone e he hm)
    · intro hnone
      rw [hout fun e he => hnone e (List.mem_cons_of_mem _ he), traverseOne]
      split
      · next hm => exact dropOf_setDrop_ne d (hnone a (List.mem_cons_self ..) hm)
      · rfl

variable (db) in
theorem queueTraverseSet_spec (c : Lchip) (id : BitVec 32) (d : QueueDrop) (k : Oid) :
    let s := queueTraverseSet db c id d
    s.wreds = db.wreds ∧ s.queues = db.queues ∧ s.ids = db.ids ∧
      (∀ k' q, db.queues.lookup k' = some q → q.wredId = id → k'.lchip = c →
        SameDropQueue wc k' k → s.dropOf k = d) ∧
      ((∀ k' q, db.queues.lookup k' = some q → q.wredId = id → k'.lchip = c →
        ¬ SameDropQueue wc k' k) → s.dropOf k = db.dropOf k) := by
  obtain ⟨hw, hq, hi, hin, hout⟩ := queueTraverse_fold c id d k db.queues.entries db
  refine ⟨hw, hq, hi, fun k' q hl hid hc hs => ?_, fun hnone => ?_⟩
  · exact hin ⟨⟨k', q⟩, mem_entries_iff.mpr hl, ⟨hid, hc⟩, hs⟩
  · exact hout fun e he hm => hnone e.1 e.2 (mem_entries_iff.mp he) hm.1 hm.2

/-! ## Queues -/

namespace WredInv

theorem counted (h : WredInv db) (hp : db.queuePtr k = some p) :
    ∃ w, db.wreds.lookup p = some w ∧ w.usedCnt ≠ 0 := by
  obtain ⟨q, hq, hr⟩ := Option.bind_eq_some_iff.mp hp
  have hu : 0 < db.users p := users_pos hq hr
  rw [h.balanced] at hu
  exact exists_of_kept hu

theorem makeQueue (h : WredInv db) {mem : RecordMem} {q : Queue} {queues : Table Oid Queue}
    (hg : getQueueDb mem db.queues k = .ok (q, queues)) :
    WredInv { db with queues := queues } ∧
      (∀ k', ({ db with queues := queues } : WredDb wc).queuePtr k' = db.queuePtr k') ∧
      queues.lookup k = some q := by
  rcases getQueueDb_cases hg with ⟨hl, rfl⟩ | ⟨hn, rfl, rfl⟩
  · exact ⟨h, fun _ => rfl, hl⟩
  have hptr : ∀ k', ({ db with queues := db.queues.insert k .zero } : WredDb wc).queuePtr k' =
      db.queuePtr k' := by
    intro k'
    rw [WredDb.queuePtr, WredDb.queuePtr, lookup_insert_ite]
    split
    · next hk => rw [hk, hn]; rfl
    · rfl
  refine ⟨⟨?_, h.form, fun hp hp' hs => ?_, fun hp hl => ?_⟩, hptr, ?_⟩
  · refine Eq.trans ?_ h.balanced
    refine users_insert_same ?_
    rw [hn]
    rfl
  · rw [hptr] at hp hp'
    exact h.apart hp hp' hs
  · rw [hptr] at hp
    exact h.drop hp hl
  · rw [lookup_insert_ite, if_pos rfl]

end WredInv

/-- What a set of a queue to a profile has to meet: another profile than the queue has, one
that can count once more, whose disabled colours have no thresholds in the queue's drop
scheme; and no other queue that is set to a profile has the same place in the SDK. -/
structure BindSafe (db : WredDb wc) (k oid : Oid) (w : Wred) : Prop where
  other : db.queuePtr k ≠ some (wredOid k.lchip oid.value)
  room : w.usedCnt ≠ 65535
  clean : ∀ color, w.colorEn.get color = false →
    (db.dropOf k).minTh.get color = 0 ∧ (db.dropOf k).maxTh.get color = 0
  alone : ∀ k' p', k' ≠ k → db.queuePtr k' = some p' → ¬ SameDropQueue wc k k'

theorem wredMap_getDrop (hclean : ∀ color, w.colorEn.get color = false →
      (db.dropOf k).minTh.get color = 0 ∧ (db.dropOf k).maxTh.get color = 0) :
    wredMapDbToCtcDrop w (db.getDrop k .wred) = wredDrop w := by
  rw [wredDrop, wredMapDbToCtcDrop, wredMapDbToCtcDrop, QueueDrop.mk.injEq]
  have hzero : ∀ color, QueueDrop.zero.minTh.get color = 0 ∧ QueueDrop.zero.maxTh.get color = 0 := by
    intro color
    cases color <;> exact ⟨rfl, rfl⟩
  refine ⟨wc.getMode_wred _, Colors.ext_get fun color => ?_, Colors.ext_get fun color => ?_, rfl⟩
  · rw [Colors.get_ofFn, Colors.get_ofFn]
    split
    · rfl
    · next hdis => rw [(hzero color).1]; exact (hclean color (by simpa using hdis)).1
  · rw [Colors.get_ofFn, Colors.get_ofFn]
    split
    · rfl
    · next hdis => rw [(hzero color).2]; exact (hclean color (by simpa using hdis)).2

/-- A queue is written together with the records of profiles: what has to be shown. -/
structure Repointed (db db' : WredDb wc) (k : Oid) (n : Option Oid) : Prop where
  queue : db'.queuePtr k = n
  others : ∀ k', k' ≠ k → db'.queuePtr k' = db.queuePtr k'
  users : Moves (db.queuePtr k) n db.users db'.users
  counts : Moves (db.queuePtr k) n db.counts db'.counts
  records : ∀ p w', db'.wreds.lookup p = some w' →
    ∃ w, db.wreds.lookup p = some w ∧ wredDrop w' = wredDrop w
  drops : ∀ k', ¬ SameDropQueue wc k k' → db'.dropOf k' = db.dropOf k'

theorem WredInv.repointed (h : WredInv db) {n : Option Oid} (hr : Repointed db db' k n)
    (hown : ∀ p w, n = some p → db'.wreds.lookup p = some w → db'.dropOf k = wredDrop w)
    (halone : ∀ k' p', k' ≠ k → db.queuePtr k' = some p' → ¬ SameDropQueue wc k k') :
    WredInv db' where
  balanced := hr.users.agree hr.counts h.balanced
  form hl := by
    obtain ⟨w, hw, -⟩ := hr.records _ _ hl
    exact h.form hw
  apart := by
    intro k₁ k₂ p₁ p₂ hp₁ hp₂ hs
    by_cases h₁ : k₁ = k
    · by_cases h₂ : k₂ = k
      · rw [h₁, h₂]
      · rw [hr.others k₂ h₂] at hp₂
        rw [h₁] at hs
        exact absurd hs (halone k₂ p₂ h₂ hp₂)
    rw [hr.others k₁ h₁] at hp₁
    by_cases h₂ : k₂ = k
    · rw [h₂] at hs
      exact absurd ⟨hs.1.symm, hs.2.symm⟩ (halone k₁ p₁ h₁ hp₁)
    · rw [hr.others k₂ h₂] at hp₂
      exact h.apart hp₁ hp₂ hs
  drop := by
    intro k₁ p₁ w₁ hp₁ hl
    by_cases h₁ : k₁ = k
    · rw [h₁] at hp₁ ⊢
      exact hown p₁ w₁ (hr.queue.symm.trans hp₁) hl
    rw [hr.others k₁ h₁] at hp₁
    obtain ⟨w, hw, hsame⟩ := hr.records p₁ w₁ hl
    rw [hr.drops k₁ (halone k₁ p₁ h₁ hp₁), hsame]
    exact h.drop hp₁ hw

section Queues

variable {q : Queue}

theorem queuePtr_setWredId (db₁ : WredDb wc) (id : BitVec 32) :
    (db₁.setWredId k q id).queuePtr k = queueWredPtr k { q with wredId := id } := by
  rw [WredDb.queuePtr, WredDb.setWredId]
  rw [lookup_insert_ite, if_pos rfl]
  rfl

theorem queuePtr_setWredId_ne {db₁ : WredDb wc} (hq : db₁.queues = db.queues) (id : BitVec 32)
    {k' : Oid} (hne : k' ≠ k) : (db₁.setWredId k q id).queuePtr k' = db.queuePtr k' := by
  rw [WredDb.queuePtr, WredDb.setWredId]
  rw [lookup_insert_ite, if_neg hne, hq]
  rfl

theorem users_setWredId {db₁ : WredDb wc} (hq₁ : db₁.queues = db.queues) (id : BitVec 32) :
    Moves (db.queuePtr k) (queueWredPtr k { q with wredId := id }) db.users
      (db₁.setWredId k q id).users := by
  have hm := users_insert queueWredPtr db.queues k { q with wredId := id }
  have hu : (db₁.setWredId k q id).users =
      RefCounts.users queueWredPtr (db.queues.insert k { q with wredId := id }) := by
    rw [WredDb.users, WredDb.setWredId, hq₁]
  rw [hu]
  exact hm

/-- A queue that is set to a profile. -/
theorem WredInv.enable (h : WredInv db) (hsdk : sdk.Succeeds) (hq : db.queues.lookup k = some q)
    (hsafe : ∀ w, db.wreds.lookup (wredOid k.lchip oid.value) = some w → BindSafe db k oid w)
    (hnull : oid ≠ Oid.null) : WredInv (queueSetWredProfile sdk db k q oid).2 := by
  rw [queueSetWredProfile, if_pos hnull]
  split
  · exact h
  dsimp only
  rw [wredQueueEnable]
  cases hl : db.wreds.lookup (wredOid k.lchip oid.value) with
  | none => exact h
  | some w =>
  obtain ⟨hother, hroom, hclean, halone⟩ := hsafe w hl
  have hvalue : oid.value ≠ 0 := (h.form hl).2
  have hnew : queueWredPtr k { q with wredId := oid.value } =
      some (wredOid k.lchip oid.value) := if_neg hvalue
  have hold := wredPtr_of hq
  have hown : ∀ {db₁ : WredDb wc} {v : Wred}, db₁.dropOf k = wredDrop w →
      db₁.wreds.lookup (wredOid k.lchip oid.value) = some v → wredDrop v = wredDrop w →
      ∀ p w', some (wredOid k.lchip oid.value) = some p → db₁.wreds.lookup p = some w' →
        db₁.dropOf k = wredDrop w' := by
    intro db₁ v hd hv hsame p w' hp hw'
    cases hp
    rw [hv] at hw'
    cases hw'
    rw [hd, hsame]
  have hdiff : q.wredId ≠ 0 → wredOid k.lchip q.wredId ≠ wredOid k.lchip oid.value := by
    intro hz he
    rw [hold, queueWredPtr, if_neg hz, he] at hother
    exact hother rfl
  -- the old number is the queue's own, whether it is zero or not
  have hupdate : (if q.wredId ≠ 0 ∧ oid.value ≠ q.wredId then q.wredId else 0) = q.wredId := by
    split
    · rfl
    next hn =>
    by_contra hz
    have hz : q.wredId ≠ 0 := fun he => hz he.symm
    exact hn ⟨hz, fun he => hdiff hz (congrArg (wredOid k.lchip) he.symm)⟩
  rw [hupdate]
  dsimp only
  rw [hsdk.1, hsdk.2]
  rw [wredMap_getDrop hclean]
  by_cases hz : q.wredId = 0
  · rw [if_pos hz]
    have hptr : db.queuePtr k = none := hold.trans (if_pos hz)
    refine h.repointed ⟨?_, ?_, ?_, ?_, ?_, ?_⟩ (hown (v := w.hold) ?_ ?_ rfl) halone
    · exact (queuePtr_setWredId _ _).trans hnew
    · exact fun k' hne => queuePtr_setWredId_ne rfl _ hne
    · rw [← hnew]
      exact users_setWredId rfl _
    · rw [hptr]
      exact kept_hold hl rfl hroom
    · exact forall_insert ⟨w, hl, rfl⟩ fun p w' hp => ⟨w', hp, rfl⟩
    · exact fun k' hne => dropOf_setDrop_ne _ hne
    · exact dropOf_setDrop db k _
    · exact (lookup_insert_ite ..).trans (if_pos rfl)
  · have hptr : db.queuePtr k = some (wredOid k.lchip q.wredId) := hold.trans (if_neg hz)
    have hdiff := hdiff hz
    obtain ⟨old, hlo, hpos⟩ := h.counted hptr
    rw [if_neg hz]
    have hlo' : (db.wreds.insert (wredOid k.lchip oid.value) w.hold).lookup
        (wredOid k.lchip q.wredId) = some old := by
      rw [lookup_insert_ite, if_neg hdiff]
      exact hlo
    rw [hlo']
    refine h.repointed ⟨?_, ?_, ?_, ?_, ?_, ?_⟩ (hown (v := w.hold) ?_ ?_ rfl) halone
    · exact (queuePtr_setWredId _ _).trans hnew
    · exact fun k' hne => queuePtr_setWredId_ne rfl _ hne
    · rw [← hnew]
      exact users_setWredId rfl _
    · rw [hptr]
      exact kept_replace hdiff hl rfl hroom hlo (usedCnt_release hpos) hpos
    · exact forall_insert ⟨old, hlo, wredDrop_release old⟩
        (forall_insert ⟨w, hl, rfl⟩ fun p w' hp => ⟨w', hp, rfl⟩)
    · exact fun k' hne => dropOf_setDrop_ne _ hne
    · exact dropOf_setDrop db k _
    · refine (lookup_insert_ite ..).trans ((if_neg hdiff.symm).trans ?_)
      exact (lookup_insert_ite ..).trans (if_pos rfl)

theorem WredInv.disable (h : WredInv db) (hsdk : sdk.Succeeds) (hq : db.queues.lookup k = some q) :
    WredInv (queueSetWredProfile sdk db k q Oid.null).2 := by
  rw [queueSetWredProfile, wredQueueDisable]
  cases hl : db.wreds.lookup (wredOid k.lchip q.wredId) with
  | none => exact h
  | some w =>
  have hz : q.wredId ≠ 0 := (h.form hl).2
  have hptr : db.queuePtr k = some (wredOid k.lchip q.wredId) := (wredPtr_of hq).trans (if_neg hz)
  obtain ⟨v, hv, hpos⟩ := h.counted hptr
  rw [hl] at hv
  cases hv
  rw [hsdk.2]
  have hnew : queueWredPtr k { q with wredId := 0 } = none := if_pos rfl
  refine h.repointed (k := k) (n := none) ⟨?_, ?_, ?_, ?_, ?_, ?_⟩ nofun ?_
  · exact (queuePtr_setWredId _ _).trans hnew
  · exact fun k' hne => queuePtr_setWredId_ne rfl _ hne
  · exact users_setWredId rfl _
  · rw [hptr]
    exact kept_release hl (usedCnt_release hpos) hpos
  · exact forall_insert ⟨w, hl, wredDrop_release w⟩ fun p w' hp => ⟨w', hp, rfl⟩
  · exact fun k' hne => dropOf_setDrop_ne _ hne
  · exact fun k' p' hne hp' hs => hne (h.apart hptr hp' hs).symm

end Queues

/-! ## The calls -/

namespace WredInv

theorem setQueue (h : WredInv db) (hsdk : sdk.Succeeds) (hsafe : oid = Oid.null ∨
      ∀ w, db.wreds.lookup (wredOid k.lchip oid.value) = some w → BindSafe db k oid w) :
    WredInv (queueSetWred sdk db k oid).2 := by
  rw [queueSetWred]
  split
  · exact h
  split
  · exact h
  cases hg : getQueueDb sdk.queue db.queues k with
  | error st => exact h
  | ok r =>
    obtain ⟨hmade, hptr, hq⟩ := h.makeQueue hg
    by_cases hnull : oid = Oid.null
    · rw [hnull]
      exact hmade.disable hsdk hq
    refine hmade.enable hsdk hq (fun w hw => ?_) hnull
    obtain ⟨hother, hroom, hclean, halone⟩ := hsafe.resolve_left hnull w hw
    refine ⟨?_, hroom, hclean, fun k' p' hne hp => halone k' p' hne ?_⟩
    · rw [hptr]
      exact hother
    · rw [← hptr]
      exact hp

theorem create (h : WredInv db) (c : Lchip) (attrs : List WredAttr) :
    WredInv (createWred sdk db c attrs).2.2 := by
  rw [createWred]
  split
  · exact h
  split
  · exact h
  split
  · exact h
  next i pool ha =>
  dsimp only
  split
  · exact ⟨h.balanced, h.form, h.apart, h.drop⟩
  next hnew =>
  split
  · exact ⟨h.balanced, h.form, h.apart, h.drop⟩
  have hnone := Option.not_isSome_iff_eq_none.mp hnew
  obtain ⟨-, hlo, hhi, -, -⟩ := Pool.alloc_some ha
  have hkept : kept (fun w : Wred => w.usedCnt.toNat) db.wreds
      (wredOid c (BitVec.ofNat 32 i)) = (wredMapAttrToDb attrs .initial).usedCnt.toNat := by
    rw [kept_of_none hnone]
    rfl
  have hpos := wc.common_lo
  have htop := wc.common_hi
  refine ⟨h.balanced.trans (kept_insert_same hkept).symm, ?_, h.apart, ?_⟩
  · exact fun {p w} => forall_insert ⟨by rw [lchip_wredOid]; rfl, ofNat_ne_zero (by omega) (by omega)⟩
      (fun _ _ => h.form) p w
  · intro k p w hp hl
    obtain ⟨v, hv, -⟩ := h.counted hp
    have hne : p ≠ wredOid c (BitVec.ofNat 32 i) := by
      rintro rfl
      rw [hnone] at hv
      cases hv
    rw [lookup_insert_ite, if_neg hne] at hl
    exact h.drop hp hl

theorem remove_success (h : WredInv db) (p : Oid) : (removeWred db p).1 = .success ↔
    (∃ w, db.wreds.lookup p = some w) ∧ db.users p = 0 := by
  refine removal_success Wred.usedCnt (fun hl => ?_) fun w hl => ⟨?_, ?_⟩
  · rw [removeWred, hl]
    split <;> nofun
  · have htype : p.type = ObjectType.wred.bits := by rw [(h.form hl).1]; rfl
    rw [removeWred, if_neg (not_not.mpr htype), hl]
    dsimp only
    split <;> simp_all
  · rw [h.balanced]
    exact kept_of_lookup hl

theorem remove (h : WredInv db) : WredInv (removeWred db oid).2 := by
  rw [removeWred]
  split
  · exact h
  split
  · exact h
  next w hl =>
  split
  · exact h
  next hz =>
  have hzero : w.usedCnt = 0 := not_not.mp hz
  have hkept : kept (fun w : Wred => w.usedCnt.toNat) db.wreds oid = 0 := by
    rw [kept_of_lookup hl, hzero]
    rfl
  exact ⟨h.balanced.trans (kept_erase hkept).symm, fun hv => h.form (of_lookup_erase hv).2, h.apart,
    fun hp hv => h.drop hp (of_lookup_erase hv).2⟩

theorem setAttr (h : WredInv db) (hsdk : sdk.Succeeds) (attr : WredAttr) :
    WredInv (wredSetAttr sdk db oid attr).2 := by
  rw [wredSetAttr]
  cases hl : db.wreds.lookup oid with
  | none => exact h
  | some w =>
  dsimp only
  generalize hw' : wredMapAttrToDb [attr] w = w'
  have hcnt : w'.usedCnt = w.usedCnt := by
    rw [← hw']
    rfl
  have hkept : kept (fun w : Wred => w.usedCnt.toNat) db.wreds oid = w'.usedCnt.toNat := by
    rw [kept_of_lookup hl, hcnt]
  have hform : ∀ {p v}, (db.wreds.insert oid w').lookup p = some v → IsWredOid p :=
    fun {p v} => forall_insert (Q := fun p _ => IsWredOid p) (h.form hl) (fun _ _ => h.form) p v
  split
  · next hz =>
    refine ⟨h.balanced.trans (kept_insert_same hkept).symm, hform, h.apart, ?_⟩
    intro k p v hp hv
    obtain ⟨u, hu, hpos⟩ := h.counted hp
    have hne : p ≠ oid := by
      rintro rfl
      rw [hl] at hu
      cases hu
      exact hpos hz
    rw [lookup_insert_ite, if_neg hne] at hv
    exact h.drop hp hv
  have hset : mappingErrorCtc sdk.setDropScheme = .success := by
    rw [hsdk.2]
    rfl
  rw [if_pos hset]
  have hspec := queueTraverseSet_spec db oid.lchip oid.value
    { wredMapDbToCtcDrop w' .zero with mode := .wred }
  generalize hs : queueTraverseSet db oid.lchip oid.value
    { wredMapDbToCtcDrop w' .zero with mode := .wred } = s at hspec
  obtain ⟨hsw, hsq, -, -, -⟩ := hspec oid
  have hptr : ∀ k, ({ s with wreds := s.wreds.insert oid w' } : WredDb wc).queuePtr k =
      db.queuePtr k := by
    intro k
    rw [WredDb.queuePtr, WredDb.queuePtr, hsq]
  constructor
  · rw [hsq, hsw]
    exact h.balanced.trans (kept_insert_same hkept).symm
  · rw [hsw]
    exact hform
  · intro k k' p p' hp hp'
    rw [hptr] at hp hp'
    exact h.apart hp hp'
  · intro k p v hp hv
    rw [hptr] at hp
    rw [hsw, lookup_insert_ite] at hv
    obtain ⟨-, -, -, hin, hout⟩ := hspec k
    obtain ⟨q, hq, hqp⟩ := Option.bind_eq_some_iff.mp hp
    rw [queueWredPtr] at hqp
    split at hqp
    · cases hqp
    next hz =>
    split at hv
    · next he =>
      cases hv
      -- the queue is one of those that the traversal finds
      rw [he] at hqp
      have hpe := Option.some.inj hqp
      have hchip : k.lchip = oid.lchip := by
        rw [← hpe, lchip_wredOid]
      have hid : q.wredId = oid.value := by
        rw [← hpe]
        rfl
      exact hin k q hq hid hchip ⟨rfl, rfl⟩
    next hne =>
    refine (hout fun k' q' hq' hid hc hsame => ?_).trans (h.drop hp hv)
    have hp' : db.queuePtr k' = some oid := by
      rw [wredPtr_of hq', queueWredPtr, hid, if_neg (h.form hl).2, hc]
      exact congrArg some (h.form hl).1.symm
    have hkk := h.apart hp' hp hsame
    rw [hkk, hp] at hp'
    exact hne (Option.some.inj hp')

end WredInv

/-! ## Runs -/

inductive WredOp where
  | create (sdk : WredSdk) (c : Lchip) (attrs : List WredAttr)
  | remove (oid : Oid)
  | setAttribute (sdk : WredSdk) (oid : Oid) (attr : WredAttr)
  | setQueue (sdk : WredSdk) (queueId oid : Oid)

/-- One call; what it returns is not part of the state. -/
def wredStep (db : WredDb wc) : WredOp → Option (WredDb wc)
  | .create sdk c attrs => some (createWred sdk db c attrs).2.2
  | .remove oid => some (removeWred db oid).2
  | .setAttribute sdk oid attr => some (setWredAttribute sdk db oid attr).2
  | .setQueue sdk queueId oid => some (queueSetWred sdk db queueId oid).2

/-- No profile and no queue has a record. -/
def WredStart (db : WredDb wc) : Prop := db.wreds = ∅ ∧ db.queues = ∅

/-- The calls of the SDK succeed, and a queue is set to a profile only as `BindSafe` says. -/
def WredSafe (db : WredDb wc) : WredOp → Prop
  | .create sdk _ _ => sdk.Succeeds
  | .remove _ => True
  | .setAttribute sdk _ _ => sdk.Succeeds
  | .setQueue sdk queueId oid => sdk.Succeeds ∧ (oid = Oid.null ∨
      ∀ w, db.wreds.lookup (wredOid queueId.lchip oid.value) = some w → BindSafe db queueId oid w)

/-- The counts, the removals and the drop schemes are right. -/
structure WredOk (db : WredDb wc) : Prop where
  counts : ∀ p w, db.wreds.lookup p = some w → w.usedCnt.toNat = db.users p
  named : ∀ k p, db.queuePtr k = some p → ∃ w, db.wreds.lookup p = some w
  removes : ∀ p, (removeWred db p).1 = .success ↔
    (∃ w, db.wreds.lookup p = some w) ∧ db.users p = 0
  clears : ∀ sdk k, db.queuePtr k = none →
    (queueSetWred sdk db k Oid.null).2.wreds = db.wreds ∧
      (queueSetWred sdk db k Oid.null).2.drop = db.drop ∧
      (queueSetWred sdk db k Oid.null).2.ids = db.ids ∧
      (∀ k' q, db.queues.lookup k' = some q →
        (queueSetWred sdk db k Oid.null).2.queues.lookup k' = some q) ∧
      ∀ k', (queueSetWred sdk db k Oid.null).2.queuePtr k' = db.queuePtr k'
  drops : ∀ k p w, db.queuePtr k = some p → db.wreds.lookup p = some w →
    db.dropOf k = wredDrop w

theorem WredStart.inv (h : WredStart db) : WredInv db := by
  have hnone : ∀ k, db.queuePtr k = none := by
    intro k
    rw [WredDb.queuePtr, h.2]
    rfl
  refine ⟨?_, fun hl => ?_, fun hp => ?_, fun hp => ?_⟩
  · funext p
    show RefCounts.users queueWredPtr db.queues p = kept _ db.wreds p
    rw [h.1, h.2]
    rfl
  · rw [h.1] at hl
    cases hl
  · rw [hnone] at hp
    cases hp
  · rw [hnone] at hp
    cases hp

theorem setWredAttribute_cases (sdk : WredSdk) (db : WredDb wc) (oid : Oid) (attr : WredAttr) :
    (∃ st, setWredAttribute sdk db oid attr = (st, db)) ∨
      setWredAttribute sdk db oid attr = wredSetAttr sdk db oid attr := by
  by_cases htype : oid.type = ObjectType.wred.bits
  · cases attr with
    | weight | ecnMarkMode => exact .inl ⟨_, by rw [setWredAttribute, if_neg (not_not.mpr htype)]⟩
    | enable _ _ | minThreshold _ _ | maxThreshold _ _ | dropProbability _ _ =>
      exact .inr (by simp [setWredAttribute, htype])
  · simp [setWredAttribute, htype]

theorem WredInv.step (h : WredInv db) {op : WredOp} (hop : WredSafe db op)
    (hst : wredStep db op = some db') : WredInv db' := by
  cases op with
  | create sdk c attrs =>
    cases hst
    exact h.create c attrs
  | remove oid =>
    cases hst
    exact h.remove
  | setAttribute sdk oid attr =>
    cases hst
    rcases setWredAttribute_cases sdk db oid attr with ⟨st, he⟩ | he
    · rw [he]
      exact h
    · rw [he]
      exact h.setAttr hop attr
  | setQueue sdk queueId oid =>
    cases hst
    exact h.setQueue hop.1 hop.2

theorem WredInv.clear_none (h : WredInv db) (sdk : WredSdk) (hp : db.queuePtr k = none) :
    (queueSetWred sdk db k Oid.null).2.wreds = db.wreds ∧
      (queueSetWred sdk db k Oid.null).2.drop = db.drop ∧
      (queueSetWred sdk db k Oid.null).2.ids = db.ids ∧
      (∀ k' q, db.queues.lookup k' = some q →
        (queueSetWred sdk db k Oid.null).2.queues.lookup k' = some q) ∧
      ∀ k', (queueSetWred sdk db k Oid.null).2.queuePtr k' = db.queuePtr k' := by
  rw [queueSetWred]
  split
  · exact ⟨rfl, rfl, rfl, fun _ _ hl => hl, fun _ => rfl⟩
  split
  · exact ⟨rfl, rfl, rfl, fun _ _ hl => hl, fun _ => rfl⟩
  cases hg : getQueueDb sdk.queue db.queues k with
  | error st => exact ⟨rfl, rfl, rfl, fun _ _ hl => hl, fun _ => rfl⟩
  | ok r =>
    obtain ⟨q, queues⟩ := r
    obtain ⟨-, hptr, hq⟩ := h.makeQueue hg
    have hold : ∀ k' q, db.queues.lookup k' = some q → queues.lookup k' = some q := by
      intro k' q' hl
      obtain ⟨-, rfl⟩ | ⟨hn, -, rfl⟩ := getQueueDb_cases hg
      · exact hl
      · rw [lookup_insert_ite, if_neg]
        · exact hl
        · rintro rfl
          rw [hn] at hl
          cases hl
    have hz : q.wredId = 0 := by
      by_contra hne
      have hk := hptr k
      have hbind : (queues.lookup k).bind (queueWredPtr k) = none := hk.trans hp
      rw [hq] at hbind
      have hsome : queueWredPtr k q = none := hbind
      rw [queueWredPtr, if_neg hne] at hsome
      cases hsome
    have hnone : db.wreds.lookup (wredOid k.lchip q.wredId) = none := by
      rw [hz, Option.eq_none_iff_forall_ne_some]
      exact fun w hl => absurd rfl (h.form hl).2
    dsimp only
    rw [queueSetWredProfile, wredQueueDisable, hnone]
    exact ⟨rfl, rfl, rfl, hold, hptr⟩

/-- In every run that stays clear of the slips, the profiles count their queues, and the drop
scheme of a queue is that of its profile. -/
theorem wred_of_run (h : Reachable WredStart WredSafe wredStep db) : WredOk db := by
  have hinv : WredInv db := h.inv (fun _ hs => hs.inv) fun _ _ _ hs hop hst => hs.step hop hst
  exact {
    counts := fun p w hl => by
      rw [hinv.balanced]
      show w.usedCnt.toNat = kept (fun w : Wred => w.usedCnt.toNat) db.wreds p
      rw [kept_of_lookup hl]
    named := fun k p hp => by
      obtain ⟨w, hw, -⟩ := hinv.counted hp
      exact ⟨w, hw⟩
    removes := hinv.remove_success
    clears := fun sdk k hp => hinv.clear_none sdk hp
    drops := fun k p w hp hl => hinv.drop hp hl }

/-! ## Two runs -/

/-- No profile and no queue, and the drop schemes are zero. -/
def WredDb.initial : WredDb .plain := ⟨∅, ∅, fun _ => Pool.empty _, fun _ _ => .zero⟩

def firstWred : Oid := wredOid 0 1

/-- A unicast queue and a multicast queue of port 3 of chip 0. -/
def wredQueue (type : BitVec 8) : Oid := queueOid 0 type 2 3

/-- Every colour of a profile is enabled; then a queue is set to it, and a threshold changes. -/
theorem wred_of_run_two : ∃ db : WredDb .plain, WredOk db ∧ db.users firstWred = 1 ∧
    (db.dropOf (wredQueue 1)).maxTh.green = 700 := by
  have r₀ : Reachable WredStart WredSafe wredStep WredDb.initial := .start ⟨rfl, rfl⟩
  have r₁ := r₀.next (.create .ok 0 [.enable .green true, .maxThreshold .green 500])
    (by exact ⟨rfl, rfl⟩) rfl
  have r₂ := r₁.next (.setQueue .ok (wredQueue 1) firstWred) (by
    refine ⟨⟨rfl, rfl⟩, .inr fun w hw => ?_⟩
    cases hw
    refine ⟨by decide, by decide, fun color _ => ?_, fun k' p' _ hp => nomatch hp⟩
    cases color <;> exact ⟨rfl, rfl⟩) rfl
  have r₃ := r₂.next (.setAttribute .ok firstWred (.maxThreshold .green 700))
    (by exact ⟨rfl, rfl⟩) rfl
  exact ⟨_, wred_of_run r₃, by decide, by decide⟩

/-- A queue is set to its profile twice and cleared: the profile has no queue and cannot be
removed.  A profile whose green is disabled leaves the thresholds that a queue had from another
profile, and takes them away when it is changed. -/
theorem wred_not_every_run : (∃ db : WredDb .plain, Reachable WredStart anyStep wredStep db ∧
      db.users firstWred = 0 ∧ (removeWred db firstWred).1 = .objectInUse) ∧
    (∃ db : WredDb .plain, Reachable WredStart anyStep wredStep db ∧
      db.queuePtr (wredQueue 1) = some (wredOid 0 2) ∧
      db.queuePtr (wredQueue 2) = some (wredOid 0 2) ∧
      (db.dropOf (wredQueue 1)).maxTh.green = 0 ∧ (db.dropOf (wredQueue 2)).maxTh.green = 500) := by
  have r₀ : Reachable WredStart anyStep wredStep WredDb.initial := .start ⟨rfl, rfl⟩
  have r₁ := r₀.next (.create .ok 0 [.enable .green true, .maxThreshold .green 500]) trivial rfl
  have r₂ := r₁.next (.setQueue .ok (wredQueue 1) firstWred) trivial rfl
  have r₃ := r₂.next (.setQueue .ok (wredQueue 1) firstWred) trivial rfl
  have r₄ := r₃.next (.setQueue .ok (wredQueue 1) Oid.null) trivial rfl
  have s₂ := r₁.next (.create .ok 0 []) trivial rfl
  have s₃ := s₂.next (.setQueue .ok (wredQueue 1) firstWred) trivial rfl
  have s₄ := s₃.next (.setQueue .ok (wredQueue 2) firstWred) trivial rfl
  have s₅ := s₄.next (.setQueue .ok (wredQueue 1) (wredOid 0 2)) trivial rfl
  have s₆ := s₅.next (.setAttribute .ok (wredOid 0 2) (.dropProbability .green 100)) trivial rfl
  have s₇ := s₆.next (.setQueue .ok (wredQueue 2) (wredOid 0 2)) trivial rfl
  exact ⟨⟨_, r₄, by decide, by decide⟩, ⟨_, s₇, by decide, by decide, by decide, by decide⟩⟩

end CtcSai
