/-
# `BufferRuns` — the reference counts of buffer profiles

A profile counts the queues and the priority groups that are set to it.  Both kinds
of pointer are read as object ids, so that one invariant speaks of both: for every
id, the number of pointers at it is the count kept under it.  A set moves one
pointer and adjusts one or two counts, and the two sides move alike.

Removing a priority group drops its pointer and leaves the count, and the counter has
16 bits; runs that avoid both keep the balance.
-/
import CtcSai.BufferProfiles
import CtcSai.Lib.RefCount
import CtcSai.Lib.Run

namespace CtcSai

open KeyedTable IdPool Runs RefCounts Table

variable {qc : QueueChip} {db db' : BufferDb qc}

/-! ## Pointers and their balance -/

def queueBufPtr (queueId : Oid) (q : Queue) : Option Oid :=
  if q.bufId = 0 then none else some (bufferProfileOid queueId.lchip q.bufId)

/-- The profile a priority group is set to. -/
def pgBufPtr (_ : Oid) (bufProfId : Oid) : Option Oid :=
  if bufProfId = Oid.null then none else some bufProfId

/-- The queues and the priority groups that are set to a profile. -/
def BufferDb.users (db : BufferDb qc) (p : Oid) : Nat :=
  RefCounts.users queueBufPtr db.queues p + RefCounts.users pgBufPtr db.pgs p

/-- The count of a profile, zero where there is no profile. -/
def BufferDb.counts (db : BufferDb qc) : Oid → Nat :=
  kept (fun prof => prof.refCnt.toNat) db.profiles

/-- What a queue points at, when it has a record. -/
def BufferDb.queuePtr (db : BufferDb qc) (queueId : Oid) : Option Oid :=
  (db.queues.lookup queueId).bind (queueBufPtr queueId)

/-- What a priority group points at, when it has a record. -/
def BufferDb.pgPtr (db : BufferDb qc) (pgId : Oid) : Option Oid :=
  (db.pgs.lookup pgId).bind (pgBufPtr pgId)

/-- The id of a profile is the one its number has on its chip. -/
def ProfileOid (p : Oid) : Prop := p = bufferProfileOid p.lchip p.value ∧ p.value ≠ 0

/-- The invariant. -/
structure BufferInv (db : BufferDb qc) : Prop where
  balanced : db.users = db.counts
  form : ∀ p prof, db.profiles.lookup p = some prof → ProfileOid p
  sameChip : ∀ k v, db.pgs.lookup k = some v → v ≠ Oid.null → v.lchip = k.lchip
  known : ∀ k q, db.queues.lookup k = some q → qc.known k.lchip = true

@[simp] theorem lchip_bufferProfileOid (c : Lchip) (i : BitVec 32) :
    (bufferProfileOid c i).lchip = c :=
  lchip_createObjectId _ _ _ _ _

@[simp] theorem pgBufPtr_null (k : Oid) : pgBufPtr k Oid.null = none := if_pos rfl

/-! ## Counts -/

section Counts

variable {p : Oid} {prof : BufferProfile}

theorem refCnt_hold (prof : BufferProfile) : prof.hold.refCnt = prof.refCnt + 1 := rfl

theorem refCnt_release (h : prof.refCnt ≠ 0) : prof.release.refCnt = prof.refCnt - 1 := by
  rw [BufferProfile.release, if_pos h]

theorem BufferInv.counted (h : BufferInv db) (hu : 0 < db.users p) :
    ∃ prof, db.profiles.lookup p = some prof ∧ prof.refCnt ≠ 0 := by
  rw [h.balanced] at hu
  exact exists_of_kept hu

theorem BufferInv.queueCounted (h : BufferInv db) {k : Oid} (hp : db.queuePtr k = some p) :
    ∃ prof, db.profiles.lookup p = some prof ∧ prof.refCnt ≠ 0 := by
  obtain ⟨q, hq, hr⟩ := Option.bind_eq_some_iff.mp hp
  exact h.counted (Nat.add_pos_left (users_pos hq hr) _)

theorem BufferInv.pgCounted (h : BufferInv db) {k : Oid} (hp : db.pgPtr k = some p) :
    ∃ prof, db.profiles.lookup p = some prof ∧ prof.refCnt ≠ 0 := by
  obtain ⟨v, hv, hr⟩ := Option.bind_eq_some_iff.mp hp
  exact h.counted (Nat.add_pos_right _ (users_pos hv hr))

theorem profile_of_lookup {c : Lchip} (hc : p.lchip = c) (h : db.profiles.lookup p = some prof) :
    db.profile c p = some prof := by
  rw [BufferDb.profile, if_pos hc, h]

theorem lookup_of_profile {c : Lchip} (h : db.profile c p = some prof) :
    p.lchip = c ∧ db.profiles.lookup p = some prof := by
  simp only [BufferDb.profile] at h
  split at h
  · next hc => exact ⟨hc, h⟩
  · cases h

end Counts

/-! ## What a set does -/

/-- Only registers and ids differ. -/
structure SameBindings (db db' : BufferDb qc) : Prop where
  profiles : db'.profiles = db.profiles
  queues : db'.queues = db.queues
  pgs : db'.pgs = db.pgs

theorem BufferInv.same (h : BufferInv db) (hs : SameBindings db db') : BufferInv db' := by
  obtain ⟨hp, hq, hg⟩ := hs
  refine ⟨?_, ?_, ?_, ?_⟩
  · show (fun p => _ + _) = kept _ _
    rw [hp, hq, hg]
    exact h.balanced
  · rw [hp]
    exact h.form
  · rw [hg]
    exact h.sameChip
  · rw [hq]
    exact h.known

/-- Both sides of the balance moved one pointer, and nothing new is named. -/
structure Rebound (o n : Option Oid) (db db' : BufferDb qc) : Prop where
  users : Moves o n db.users db'.users
  counts : Moves o n db.counts db'.counts
  named : ∀ p prof, db'.profiles.lookup p = some prof → ∃ prof', db.profiles.lookup p = some prof'
  sameChip : ∀ k v, db'.pgs.lookup k = some v → v ≠ Oid.null →
    v.lchip = k.lchip ∨ db.pgs.lookup k = some v
  queues : ∀ k q, db'.queues.lookup k = some q → ∃ q', db.queues.lookup k = some q'

theorem BufferInv.rebound (h : BufferInv db) {o n : Option Oid} (hr : Rebound o n db db') :
    BufferInv db' := by
  refine ⟨hr.users.agree hr.counts h.balanced, ?_, ?_, ?_⟩
  · intro p prof hl
    obtain ⟨prof', hl'⟩ := hr.named p prof hl
    exact h.form p prof' hl'
  · intro k v hl hv
    cases hr.sameChip k v hl hv with
    | inl hc => exact hc
    | inr hold => exact h.sameChip k v hold hv
  · intro k q hl
    obtain ⟨q', hl'⟩ := hr.queues k q hl
    exact h.known k q' hl'

/-- A profile that would be counted once more has room for that. -/
def HasRoom (db : BufferDb qc) (ptr : Option Oid) (oid : Oid) : Prop :=
  ptr = some oid ∨ ∀ prof, db.profiles.lookup oid = some prof → prof.refCnt ≠ 65535

section Queues

variable {sdk : BufferSdk} {queueId oid : Oid} {q : Queue}

theorem queuePtr_of (h : db.queues.lookup queueId = some q) :
    db.queuePtr queueId = queueBufPtr queueId q := by
  rw [BufferDb.queuePtr, h]
  rfl

theorem users_setQueue (h : db.queues.lookup queueId = some q) (q' : Queue) :
    Moves (queueBufPtr queueId q) (queueBufPtr queueId q') db.users
      (fun p => RefCounts.users queueBufPtr (db.queues.insert queueId q') p +
        RefCounts.users pgBufPtr db.pgs p) := by
  have hm := users_insert queueBufPtr db.queues queueId q'
  rw [h] at hm
  exact hm.add_right _

theorem bufferQueueSetProfile_null (h : BufferInv db) (hq : db.queues.lookup queueId = some q) :
    BufferInv (bufferQueueSetProfile sdk db queueId Oid.null).2 := by
  simp only [bufferQueueSetProfile, hq, ne_eq, not_true, if_false]
  by_cases hz : q.bufId = 0
  · rw [if_pos hz]
    exact h
  rw [if_neg hz]
  have hptr : queueBufPtr queueId q = some (bufferProfileOid queueId.lchip q.bufId) := if_neg hz
  obtain ⟨prof, hl, hpos⟩ := h.queueCounted ((queuePtr_of hq).trans hptr)
  rw [profile_of_lookup (lchip_bufferProfileOid _ _) hl]
  cases hm : mappingErrorCtc sdk.setDropScheme with
  | success =>
    refine h.rebound
      ⟨?_, kept_release hl (refCnt_release hpos) hpos, exists_lookup_of_insert hl _, fun _ _ hk _ => .inr hk,
        exists_lookup_of_insert hq _⟩
    have hu := users_setQueue hq { q with bufId := 0 }
    rw [hptr] at hu
    exact hu
  | _ => exact h

/-- A set of a queue keeps the balance. -/
theorem BufferInv.queueSet (h : BufferInv db) (hroom : HasRoom db (db.queuePtr queueId) oid) :
    BufferInv (bufferQueueSetProfile sdk db queueId oid).2 := by
  cases hq : db.queues.lookup queueId with
  | none =>
    simp only [bufferQueueSetProfile, hq]
    exact h
  | some q =>
    by_cases hn : oid = Oid.null
    · rw [hn]
      exact bufferQueueSetProfile_null h hq
    simp only [bufferQueueSetProfile, hq, ne_eq, hn, not_false_eq_true, if_true]
    split
    · exact h
    split
    · exact h
    next prof hprof =>
    obtain ⟨hchip, hl⟩ := lookup_of_profile hprof
    cases hm : mappingErrorCtc sdk.setDropScheme with
    | success =>
      by_cases hsame : q.bufId = oid.value
      · rw [if_pos hsame]
        exact h.same ⟨rfl, rfl, rfl⟩
      rw [if_neg hsame]
      obtain ⟨hform, hval⟩ := h.form oid prof hl
      -- the number the queue keeps stands for the id it was given
      have hnew : queueBufPtr queueId { q with bufId := oid.value } = some oid := by
        rw [queueBufPtr, if_neg hval, ← hchip, ← hform]
      have hne : db.queuePtr queueId ≠ some oid := by
        rw [queuePtr_of hq, queueBufPtr]
        split
        · nofun
        · intro he
          have hv := congrArg Oid.value (Option.some.inj he)
          exact hsame hv
      have hfree : prof.refCnt ≠ 65535 := (hroom.resolve_left hne) prof hl
      have hu := users_setQueue hq { q with bufId := oid.value }
      rw [hnew] at hu
      by_cases hz : q.bufId = 0
      · rw [if_pos hz]
        have hold : queueBufPtr queueId q = none := if_pos hz
        rw [hold] at hu
        exact h.rebound
          ⟨hu, kept_hold hl (refCnt_hold prof) hfree, exists_lookup_of_insert hl _, fun _ _ hk _ => .inr hk,
          exists_lookup_of_insert hq _⟩
      rw [if_neg hz]
      have hold : queueBufPtr queueId q = some (bufferProfileOid queueId.lchip q.bufId) :=
        if_neg hz
      rw [hold] at hu
      have hptr := (queuePtr_of hq).trans hold
      have hdiff : bufferProfileOid queueId.lchip q.bufId ≠ oid := fun he =>
        hne (hptr.trans (congrArg some he))
      obtain ⟨old, hlo, hpos⟩ := h.queueCounted hptr
      have hlo' : (db.profiles.insert oid prof.hold).lookup
          (bufferProfileOid queueId.lchip q.bufId) = some old := by
        rw [lookup_insert_ite, if_neg hdiff, hlo]
      have hprofile := @profile_of_lookup qc { db.setDrop queueId prof.drop with
          profiles := db.profiles.insert oid prof.hold
          queues := db.queues.insert queueId { q with bufId := oid.value } } _ _ _
        (lchip_bufferProfileOid queueId.lchip q.bufId) hlo'
      rw [BufferDb.releaseOld, hprofile]
      refine h.rebound
        ⟨hu, kept_replace hdiff hl (refCnt_hold prof) hfree hlo (refCnt_release hpos) hpos, ?_, fun _ _ hk _ => .inr hk,
          exists_lookup_of_insert hq _⟩
      intro a v ha
      obtain ⟨v', hv'⟩ := exists_lookup_of_insert hlo' _ a v ha
      exact exists_lookup_of_insert hl _ a v' hv'
    | _ => exact h

end Queues

section PriorityGroups

variable {sdk : BufferSdk} {pgId oid bufProfId : Oid}

theorem pgPtr_of (h : db.pgs.lookup pgId = some bufProfId) :
    db.pgPtr pgId = pgBufPtr pgId bufProfId := by
  rw [BufferDb.pgPtr, h]
  rfl

theorem users_setPg (h : db.pgs.lookup pgId = some bufProfId) (v : Oid) :
    Moves (pgBufPtr pgId bufProfId) (pgBufPtr pgId v) db.users
      (fun p => RefCounts.users queueBufPtr db.queues p +
        RefCounts.users pgBufPtr (db.pgs.insert pgId v) p) := by
  have hm := users_insert pgBufPtr db.pgs pgId v
  rw [h] at hm
  exact hm.add_left _

theorem sameChip_insert {v : Oid} (hv : v ≠ Oid.null → v.lchip = pgId.lchip) :
    ∀ k w, (db.pgs.insert pgId v).lookup k = some w → w ≠ Oid.null →
      w.lchip = k.lchip ∨ db.pgs.lookup k = some w := by
  intro k w hk hw
  rcases of_lookup_insert hk with ⟨he, rfl⟩ | ⟨-, hk⟩
  · exact .inl (he ▸ hv hw)
  · exact .inr hk

theorem bufferIngressPgSetProfile_null (h : BufferInv db)
    (hg : db.pgs.lookup pgId = some bufProfId) :
    BufferInv (bufferIngressPgSetProfile sdk db pgId Oid.null).2 := by
  simp only [bufferIngressPgSetProfile, hg, ne_eq, not_true, if_false]
  by_cases hz : bufProfId = Oid.null
  · rw [if_pos hz]
    exact h
  rw [if_neg hz]
  have hptr : pgBufPtr pgId bufProfId = some bufProfId := if_neg hz
  obtain ⟨prof, hl, hpos⟩ := h.pgCounted ((pgPtr_of hg).trans hptr)
  rw [profile_of_lookup (h.sameChip pgId bufProfId hg hz) hl]
  cases hm : sdk.resrc with
  | success =>
    have hu := users_setPg hg Oid.null
    rw [hptr] at hu
    exact h.rebound ⟨hu, kept_release hl rfl hpos, exists_lookup_of_insert hl _,
        sameChip_insert (fun hn => absurd rfl hn), fun _ q hk => ⟨q, hk⟩⟩
  | _ => exact h

theorem BufferInv.pgSet (h : BufferInv db) (hroom : HasRoom db (db.pgPtr pgId) oid) :
    BufferInv (bufferIngressPgSetProfile sdk db pgId oid).2 := by
  cases hg : db.pgs.lookup pgId with
  | none =>
    simp only [bufferIngressPgSetProfile, hg]
    exact h
  | some bufProfId =>
    by_cases hn : oid = Oid.null
    · rw [hn]
      exact bufferIngressPgSetProfile_null h hg
    simp only [bufferIngressPgSetProfile, hg, ne_eq, hn, not_false_eq_true, if_true]
    split
    · exact h
    split
    · exact h
    next prof hprof =>
    obtain ⟨hchip, hl⟩ := lookup_of_profile hprof
    cases hm : sdk.resrc with
    | success =>
      by_cases hsame : bufProfId = oid
      · rw [if_pos hsame]
        exact h.same ⟨rfl, rfl, rfl⟩
      rw [if_neg hsame]
      have hnew : pgBufPtr pgId oid = some oid := if_neg hn
      have hu := users_setPg hg oid
      rw [hnew] at hu
      by_cases hz : bufProfId = Oid.null
      · rw [if_pos hz]
        have hold : pgBufPtr pgId bufProfId = none := if_pos hz
        have hne : db.pgPtr pgId ≠ some oid := by
          rw [pgPtr_of hg, hold]
          nofun
        rw [hold] at hu
        exact h.rebound
          ⟨hu, kept_hold hl (refCnt_hold prof) ((hroom.resolve_left hne) prof hl), exists_lookup_of_insert hl _,
            sameChip_insert (fun _ => hchip), fun _ q hk => ⟨q, hk⟩⟩
      rw [if_neg hz]
      have hold : pgBufPtr pgId bufProfId = some bufProfId := if_neg hz
      have hptr := (pgPtr_of hg).trans hold
      have hne : db.pgPtr pgId ≠ some oid := by
        rw [hptr]
        exact fun he => hsame (Option.some.inj he)
      have hfree : prof.refCnt ≠ 65535 := (hroom.resolve_left hne) prof hl
      rw [hold] at hu
      obtain ⟨old, hlo, hpos⟩ := h.pgCounted hptr
      have hlo' : (db.profiles.insert oid prof.hold).lookup bufProfId = some old := by
        rw [lookup_insert_ite, if_neg hsame, hlo]
      have hprofile := @profile_of_lookup qc { db.setFlowCtl pgId prof.flowCtl with
          profiles := db.profiles.insert oid prof.hold
          pgs := db.pgs.insert pgId oid } _ _ _ (h.sameChip pgId bufProfId hg hz) hlo'
      rw [BufferDb.releaseOld, hprofile]
      refine h.rebound
        ⟨hu, kept_replace hsame hl (refCnt_hold prof) hfree hlo (refCnt_release hpos) hpos, ?_, sameChip_insert (fun _ => hchip),
          fun _ q hk => ⟨q, hk⟩⟩
      intro a v ha
      obtain ⟨v', hv'⟩ := exists_lookup_of_insert hlo' _ a v ha
      exact exists_lookup_of_insert hl _ a v' hv'
    | _ => exact h

end PriorityGroups

/-! ## Records made on demand -/

theorem bufferProfileOf_refCnt {attrs : List BufferAttr} {prof : BufferProfile}
    (h : bufferProfileOf attrs = .ok prof) : prof.refCnt = 0 := by
  simp only [bufferProfileOf] at h
  grind

section OnDemand

variable {mem : RecordMem} {k : Oid}

theorem BufferInv.makeQueue (h : BufferInv db) (hk : qc.known k.lchip = true) {q : Queue} {queues : Table Oid Queue}
    (hg : getQueueDb mem db.queues k = .ok (q, queues)) :
    BufferInv { db with queues := queues } ∧
      ({ db with queues := queues } : BufferDb qc).queuePtr k = db.queuePtr k := by
  obtain ⟨_, rfl⟩ | ⟨hn, _, rfl⟩ := getQueueDb_cases hg
  · exact ⟨h, rfl⟩
  have hold : (db.queues.lookup k).bind (queueBufPtr k) = queueBufPtr k .zero := by
    rw [hn]
    rfl
  refine ⟨⟨?_, h.form, h.sameChip, ?_⟩, ?_⟩
  · funext p
    show RefCounts.users queueBufPtr (db.queues.insert k .zero) p + _ = db.counts p
    rw [users_insert_same hold, ← h.balanced]
    rfl
  · exact forall_insert hk h.known
  · simp only [BufferDb.queuePtr, lookup_insert_ite, if_true, hn]
    rfl

theorem BufferInv.makePg (h : BufferInv db) {v : Oid} {pgs : Table Oid Oid}
    (hg : getPgDb mem db.pgs k = .ok (v, pgs)) :
    BufferInv { db with pgs := pgs } ∧
      ({ db with pgs := pgs } : BufferDb qc).pgPtr k = db.pgPtr k := by
  simp only [getPgDb] at hg
  split at hg
  · cases hg
  obtain ⟨_, rfl⟩ | ⟨hn, _, rfl⟩ := getOrMake_cases hg
  · exact ⟨h, rfl⟩
  have hold : (db.pgs.lookup k).bind (pgBufPtr k) = pgBufPtr k Oid.null := by
    rw [hn]
    rfl
  refine ⟨⟨?_, h.form, ?_, h.known⟩, ?_⟩
  · funext p
    show _ + RefCounts.users pgBufPtr (db.pgs.insert k Oid.null) p = db.counts p
    rw [users_insert_same hold, ← h.balanced]
    rfl
  · exact forall_insert (fun hne => absurd rfl hne) h.sameChip
  · simp only [BufferDb.pgPtr, lookup_insert_ite, if_true, hn]
    exact pgBufPtr_null k

end OnDemand

/-! ## The calls of the API -/

section Api

variable {sdk : BufferSdk} {oid queueId pgId : Oid}

theorem BufferInv.createProfile (h : BufferInv db) (c : Lchip) (attrs : List BufferAttr) :
    BufferInv (createBufferProfile sdk db c attrs).2.2 := by
  simp only [createBufferProfile]
  split
  · exact h
  split
  · exact h
  next prof hprof =>
  split
  · exact h
  split
  · exact h
  next i pool ha =>
  split
  · exact h.same ⟨rfl, rfl, rfl⟩
  next hnew =>
  split
  · exact h.same ⟨rfl, rfl, rfl⟩
  have hnone := Option.not_isSome_iff_eq_none.mp hnew
  obtain ⟨_, hlo, hhi, _, _⟩ := Pool.alloc_some ha
  have hzero : prof.refCnt = 0 := bufferProfileOf_refCnt hprof
  have hkept : kept (fun x : BufferProfile => x.refCnt.toNat) db.profiles
      (bufferProfileOid c (BitVec.ofNat 32 i)) = prof.refCnt.toNat := by
    rw [kept_of_none hnone, hzero]
    rfl
  have hpos := qc.common_lo
  have htop := qc.common_hi
  exact ⟨h.balanced.trans (kept_insert_same hkept).symm,
    forall_insert ⟨by rw [lchip_bufferProfileOid]; rfl, ofNat_ne_zero (by omega) (by omega)⟩ h.form,
    h.sameChip, h.known⟩

/-- A profile with no user counts none, and one that counts none is removed. -/
theorem removeBufferProfile_success (h : BufferInv db) (p : Oid) :
    (removeBufferProfile db p).1 = .success ↔
      (∃ prof, db.profiles.lookup p = some prof) ∧ db.users p = 0 := by
  refine removal_success BufferProfile.refCnt (fun hl => ?_) fun prof hl => ⟨?_, ?_⟩
  · rw [removeBufferProfile, hl]
    split <;> nofun
  · have htype : p.type = ObjectType.bufferProfile.bits := by rw [(h.form p prof hl).1]; rfl
    rw [removeBufferProfile, if_neg (not_not.mpr htype), hl]
    dsimp only
    split <;> simp_all
  · rw [h.balanced]
    exact kept_of_lookup hl

theorem BufferInv.removeProfile (h : BufferInv db) : BufferInv (removeBufferProfile db oid).2 := by
  simp only [removeBufferProfile]
  split
  · exact h
  split
  · exact h
  next prof hl =>
  split
  · exact h
  next hz =>
  have hzero : prof.refCnt = 0 := not_not.mp hz
  have hkept : kept (fun x : BufferProfile => x.refCnt.toNat) db.profiles oid = 0 := by
    rw [kept_of_lookup hl, hzero]
    rfl
  exact ⟨h.balanced.trans (kept_erase hkept).symm, forall_erase h.form, h.sameChip, h.known⟩

theorem BufferInv.setQueue (h : BufferInv db) (hroom : HasRoom db (db.queuePtr queueId) oid) :
    BufferInv (queueSetBufferProfile sdk db queueId oid).2 := by
  simp only [queueSetBufferProfile]
  split
  · exact h
  split
  · exact h
  next hk =>
  split
  · exact h
  next q queues hg =>
  obtain ⟨hmade, hptr⟩ := h.makeQueue (by simpa using hk) hg
  refine hmade.queueSet ?_
  rw [hptr]
  exact hroom

theorem queuePtr_cleared (h : BufferInv db) (hsdk : sdk.setDropScheme = .none) {q : Queue}
    (htype : queueId.type = ObjectType.queue.bits) (hq : db.queues.lookup queueId = some q)
    (hz : q.bufId ≠ 0) :
    (queueSetBufferProfile sdk db queueId Oid.null).2.queuePtr queueId = none := by
  have hmade : getQueueDb sdk.mem.user db.queues queueId = .ok (q, db.queues) := by
    simp only [getQueueDb, htype, ne_eq, not_true, if_false, getOrMake, hq]
  have hptr : queueBufPtr queueId q = some (bufferProfileOid queueId.lchip q.bufId) := if_neg hz
  obtain ⟨prof, hl, _⟩ := h.queueCounted ((queuePtr_of hq).trans hptr)
  simp only [queueSetBufferProfile, htype, ne_eq, not_true, if_false, h.known queueId q hq,
    Bool.not_true, Bool.false_eq_true, hmade, bufferQueueSetProfile, hq, hz,
    profile_of_lookup (lchip_bufferProfileOid _ _) hl, hsdk, mappingErrorCtc]
  simp only [BufferDb.queuePtr, lookup_insert_ite, if_true]
  rfl

theorem BufferInv.eraseQueue (h : BufferInv db) (hp : db.queuePtr queueId = none) :
    BufferInv { db with queues := db.queues.erase queueId } := by
  refine ⟨?_, h.form, h.sameChip, forall_erase h.known⟩
  funext p
  show RefCounts.users queueBufPtr (db.queues.erase queueId) p + _ = db.counts p
  rw [users_erase_none hp, ← h.balanced]
  rfl

theorem BufferInv.removeQueue (h : BufferInv db) (hsdk : sdk.setDropScheme = .none) :
    BufferInv (CtcSai.removeQueue sdk db queueId).2 := by
  simp only [CtcSai.removeQueue]
  split
  · exact h
  next htype =>
  split
  · exact h
  next q hq =>
  by_cases hz : q.bufId = 0
  · rw [if_pos hz]
    exact h.eraseQueue ((queuePtr_of hq).trans (if_pos hz))
  rw [if_neg hz]
  have hclear := queuePtr_cleared h hsdk (not_not.mp htype) hq hz
  refine (h.setQueue (.inr ?_)).eraseQueue hclear
  -- no profile has the null id
  intro prof hl
  exact absurd rfl (h.form _ prof hl).2

theorem BufferInv.createPg (h : BufferInv db) {c : Lchip} {attrs : List PgAttr}
    (hroom : ∀ port index oid, findAttribInList PgAttr.port? attrs = some port →
      findAttribInList PgAttr.index? attrs = some index →
      findAttribInList PgAttr.bufferProfile? attrs = some oid →
      HasRoom db (db.pgPtr (ingressPgOid c index port.value)) oid) :
    BufferInv (createIngressPg sdk db c attrs).2.2 := by
  simp only [createIngressPg]
  split
  · exact h
  split
  · exact h
  next port hport =>
  split
  · exact h
  split
  · exact h
  next index hindex =>
  split
  · exact h
  split
  · exact h
  next v pgs hg =>
  obtain ⟨hmade, hptr⟩ := h.makePg hg
  split
  · exact hmade
  next given hgiven =>
  refine hmade.pgSet ?_
  rw [hptr]
  exact hroom port index given hport hindex hgiven

theorem BufferInv.setPg (h : BufferInv db) (hroom : HasRoom db (db.pgPtr pgId) oid) :
    BufferInv (pgSetBufferProfile sdk db pgId oid).2 := by
  simp only [pgSetBufferProfile]
  split
  · exact h
  split
  · exact h
  split
  · exact h
  next v pgs hg =>
  obtain ⟨hmade, hptr⟩ := h.makePg hg
  refine hmade.pgSet ?_
  rw [hptr]
  exact hroom

theorem BufferInv.removePg (h : BufferInv db) (hp : db.pgPtr pgId = none) :
    BufferInv (removeIngressPg db pgId).2 := by
  simp only [removeIngressPg]
  split
  · exact h
  split
  · exact h
  refine ⟨?_, h.form, forall_erase h.sameChip, h.known⟩
  funext p
  show _ + RefCounts.users pgBufPtr (db.pgs.erase pgId) p = db.counts p
  rw [users_erase_none hp, ← h.balanced]
  rfl

end Api

/-! ## Runs -/

inductive BufferOp where
  | createProfile (sdk : BufferSdk) (c : Lchip) (attrs : List BufferAttr)
  | removeProfile (oid : Oid)
  | createPg (sdk : BufferSdk) (c : Lchip) (attrs : List PgAttr)
  | removePg (pgId : Oid)
  | setPg (sdk : BufferSdk) (pgId oid : Oid)
  | setQueue (sdk : BufferSdk) (queueId oid : Oid)
  | removeQueue (sdk : BufferSdk) (queueId : Oid)

/-- One call; what it returns is not part of the state. -/
def bufferStep (db : BufferDb qc) : BufferOp → Option (BufferDb qc)
  | .createProfile sdk c attrs => some (createBufferProfile sdk db c attrs).2.2
  | .removeProfile oid => some (removeBufferProfile db oid).2
  | .createPg sdk c attrs => some (createIngressPg sdk db c attrs).2.2
  | .removePg pgId => some (removeIngressPg db pgId).2
  | .setPg sdk pgId oid => some (pgSetBufferProfile sdk db pgId oid).2
  | .setQueue sdk queueId oid => some (queueSetBufferProfile sdk db queueId oid).2
  | .removeQueue sdk queueId => some (removeQueue sdk db queueId).2

/-- No profile, no priority group and no queue has a record. -/
def BufferStart (db : BufferDb qc) : Prop := db.profiles = ∅ ∧ db.pgs = ∅ ∧ db.queues = ∅

/-- The calls of the SDK succeed. -/
def BufferOp.SdkSucceeds : BufferOp → Prop
  | .createProfile sdk _ _ | .createPg sdk _ _ | .setPg sdk _ _ | .setQueue sdk _ _
  | .removeQueue sdk _ => sdk.Succeeds
  | .removeProfile _ | .removePg _ => True

/-- The calls of the SDK succeed, no priority group is removed that is set to a
profile, and no profile with 65535 users gets another one. -/
def BufferSafe (db : BufferDb qc) (op : BufferOp) : Prop :=
  op.SdkSucceeds ∧
    match op with
    | .createPg _ c attrs => ∀ port index oid, findAttribInList PgAttr.port? attrs = some port →
        findAttribInList PgAttr.index? attrs = some index →
        findAttribInList PgAttr.bufferProfile? attrs = some oid →
        HasRoom db (db.pgPtr (ingressPgOid c index port.value)) oid
    | .removePg pgId => db.pgPtr pgId = none
    | .setPg _ pgId oid => HasRoom db (db.pgPtr pgId) oid
    | .setQueue _ queueId oid => HasRoom db (db.queuePtr queueId) oid
    | _ => True

theorem BufferStart.inv (h : BufferStart db) : BufferInv db := by
  obtain ⟨hp, hg, hq⟩ := h
  refine ⟨?_, ?_, ?_, ?_⟩
  · funext p
    show RefCounts.users queueBufPtr db.queues p + RefCounts.users pgBufPtr db.pgs p =
      kept _ db.profiles p
    rw [hp, hg, hq]
    rfl
  · intro p prof hl
    rw [hp] at hl
    exact absurd hl (by simp)
  · intro k v hl
    rw [hg] at hl
    exact absurd hl (by simp)
  · intro k q hl
    rw [hq] at hl
    exact absurd hl (by simp)

theorem BufferInv.step (h : BufferInv db) {op : BufferOp} (hop : BufferSafe db op)
    (hst : bufferStep db op = some db') : BufferInv db' := by
  cases op with
  | createProfile sdk c attrs =>
    cases hst
    exact h.createProfile c attrs
  | removeProfile oid =>
    cases hst
    exact h.removeProfile
  | createPg sdk c attrs =>
    cases hst
    exact h.createPg hop.2
  | removePg pgId =>
    cases hst
    exact h.removePg hop.2
  | setPg sdk pgId oid =>
    cases hst
    exact h.setPg hop.2
  | setQueue sdk queueId oid =>
    cases hst
    exact h.setQueue hop.2
  | removeQueue sdk queueId =>
    cases hst
    exact h.removeQueue hop.1.1

/-- The count of each profile is the number of its users, and it can be removed
exactly when it has none. -/
structure BufferOk (db : BufferDb qc) : Prop where
  counts : ∀ p prof, db.profiles.lookup p = some prof → prof.refCnt.toNat = db.users p
  live : ∀ p, 0 < db.users p → ∃ prof, db.profiles.lookup p = some prof
  remove : ∀ p, (removeBufferProfile db p).1 = .success ↔
    (∃ prof, db.profiles.lookup p = some prof) ∧ db.users p = 0

theorem BufferInv.ok (h : BufferInv db) : BufferOk db := by
  refine ⟨?_, ?_, removeBufferProfile_success h⟩
  · intro p prof hl
    rw [h.balanced, BufferDb.counts, kept_of_lookup hl]
  · intro p hp
    obtain ⟨prof, hl, _⟩ := h.counted hp
    exact ⟨prof, hl⟩

/-- In every run that removes no priority group that is set to a profile, and binds
no profile a 65536th time, each profile counts its users. -/
theorem bufferProfile_of_run (h : Reachable BufferStart BufferSafe bufferStep db) : BufferOk db :=
  BufferInv.ok (Reachable.inv (fun _ hs => hs.inv) (fun _ _ _ hs hop hst => hs.step hop hst) h)

/-! ## Two runs -/

def BufferDb.initial (qc : QueueChip) : BufferDb qc :=
  ⟨∅, ∅, ∅, fun _ => Pool.empty _, fun _ _ => none, fun _ _ => none⟩

/-- A profile with a static threshold of 100 cells. -/
def staticProfile : List BufferAttr := [.thresholdMode 0, .sharedStaticTh 28800]

def firstProfile : Oid := bufferProfileOid 0 1

/-- Priority group 0 of port 3, set to the first profile. -/
def boundPg : List PgAttr :=
  [.port (createObjectId .port 0 0 0 3), .index 0, .bufferProfile firstProfile]

def queueTwo : Oid := queueOid 0 0 2 3

/-- A priority group and a queue are set to the first profile, which counts two. -/
theorem bufferProfile_of_run_two : ∃ db : BufferDb .plain, BufferOk db ∧
    db.users firstProfile = 2 ∧ (removeBufferProfile db firstProfile).1 = .objectInUse := by
  have r₀ : Reachable BufferStart BufferSafe bufferStep (BufferDb.initial .plain) :=
    .start ⟨rfl, rfl, rfl⟩
  have r₁ := r₀.next (.createProfile .ok 0 staticProfile) (by
    exact ⟨⟨rfl, rfl, rfl⟩, trivial⟩) rfl
  have r₂ := r₁.next (.createPg .ok 0 boundPg) (by
    refine ⟨⟨rfl, rfl, rfl⟩, ?_⟩
    intro port index oid hp hi ho
    cases hp
    cases hi
    cases ho
    refine .inr fun prof hl => ?_
    cases hl
    decide) rfl
  have r₃ := r₂.next (.setQueue .ok queueTwo firstProfile) (by
    refine ⟨⟨rfl, rfl, rfl⟩, .inr fun prof hl => ?_⟩
    cases hl
    decide) rfl
  exact ⟨_, bufferProfile_of_run r₃, by decide, by decide⟩

/-- A priority group that is set to a profile is removed: the profile goes on counting
it, and cannot be removed any more. -/
theorem bufferProfile_not_counted : ∃ db : BufferDb .plain,
    Reachable BufferStart (fun _ op => op.SdkSucceeds) bufferStep db ∧
      (∃ prof, db.profiles.lookup firstProfile = some prof ∧ prof.refCnt = 1) ∧
      db.users firstProfile = 0 ∧ (removeBufferProfile db firstProfile).1 = .objectInUse := by
  have r₀ : Reachable BufferStart (fun _ op => op.SdkSucceeds) bufferStep
      (BufferDb.initial .plain) := .start ⟨rfl, rfl, rfl⟩
  have r₁ := r₀.next (.createProfile .ok 0 staticProfile) (by exact ⟨rfl, rfl, rfl⟩) rfl
  have r₂ := r₁.next (.createPg .ok 0 boundPg) (by exact ⟨rfl, rfl, rfl⟩) rfl
  have r₃ := r₂.next (.removePg (ingressPgOid 0 0 3)) (by exact trivial) rfl
  exact ⟨_, r₃, ⟨_, rfl, by decide⟩, by decide, by decide⟩

end CtcSai
