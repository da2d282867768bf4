/-
# `MirrorReserve` — slots without sessions, ctc_sai_mirror.c

A sampled ACL entry reserves a slot of the mirror vector, by itself and not for
a session list.  The loop that looks for one goes on after it found it, and the
number that is given back is never used to take the slot out of the vector.
-/
import CtcSai.MirrorBinding

namespace CtcSai

open Function

/-- `ctc_sai_db_mirror_type_t` of a direction with a priority, as a number. -/
def mirrorAclType : Fin 8 ⊕ Fin 3 → Nat
  | .inl priority => 2 + priority
  | .inr priority => 10 + priority

/-- CTC_SAI_DB_VECTOR_TYPE_MIRROR. -/
abbrev MirrorVector := Nat → Option MirrorRes

/-- Where a pointer of the vector leads. -/
inductive MirrorNode where
  | live (r : MirrorRes)
  | freed
deriving DecidableEq

/-- The vector, all of its resources there. -/
def MirrorVector.nodes (v : MirrorVector) (i : Nat) : Option MirrorNode := (v i).map .live

/-- What the memory and `ctc_sai_db_vector_add` answer, by the index. -/
structure MirrorVectorSdk where
  mem : Nat → Bool
  add : Nat → Status

/-- The loop of `ctc_sai_mirror_alloc_sess_res_index`, with `loop_i` as it is
left. -/
def mirrorReserveLoop (sdk : MirrorVectorSdk) :
    Nat → Nat → MirrorVector → Status × Nat × MirrorVector
  | 0, loopI, v => (.success, loopI, v)
  | n + 1, loopI, v =>
    if (v loopI).isSome then mirrorReserveLoop sdk n (loopI + 1) v
    else if !sdk.mem loopI then (.noMemory, loopI, v)
    else
      match sdk.add loopI with
      | .success =>
        mirrorReserveLoop sdk n (loopI + 1) (update v loopI (some ⟨1, [], 0, 0⟩))
      | status => (status, loopI, v)

/-- `ctc_sai_mirror_alloc_sess_res_index`: the status, `*session_id` and the
vector. -/
def mirrorAllocSessResIndex (sdk : MirrorVectorSdk) (v : MirrorVector) (stage : Fin 8 ⊕ Fin 3)
    (sessionId : Nat) : Status × Nat × MirrorVector :=
  match mirrorReserveLoop sdk 4 (mirrorAclType stage * 4) v with
  | (.success, loopI, v) => (.success, loopI % 4, v)
  | (status, _, v) => (status, sessionId, v)

/-- `ctc_sai_mirror_free_sess_res_index`: the index that is removed is
`loop_i`, which is 0, and the resource that is freed is the one looked up. -/
def mirrorFreeSessResIndex (v : MirrorVector) (stage : Fin 8 ⊕ Fin 3) (sessionId : Nat) :
    Status × (Nat → Option MirrorNode) :=
  let index := sessionId + mirrorAclType stage * 4
  match v index with
  | none => (.success, v.nodes)
  | some _ => (.success, update (update v.nodes index (some .freed)) 0 none)

/-! ## The laws -/

section Laws

variable (sdk : MirrorVectorSdk) (v : MirrorVector) (stage : Fin 8 ⊕ Fin 3) (sessionId : Nat)

/-- One empty slot is taken and its number returned, or there is none and an
error is. -/
def ReservesOne : Prop :=
  let r := mirrorAllocSessResIndex sdk v stage sessionId
  (r.1 = .success ∧ r.2.1 < 4 ∧ v (mirrorAclType stage * 4 + r.2.1) = none ∧
    (r.2.2 (mirrorAclType stage * 4 + r.2.1)).isSome ∧
    ∀ i ≠ mirrorAclType stage * 4 + r.2.1, r.2.2 i = v i) ∨
  ((∀ n < 4, (v (mirrorAclType stage * 4 + n)).isSome) ∧ r.1 ≠ .success ∧ r.2.2 = v)

/-- The slot is empty and the others are what they were. -/
def GivesBack : Prop :=
  (mirrorFreeSessResIndex v stage sessionId).2 =
    update v.nodes (mirrorAclType stage * 4 + sessionId) none

/-- The first of the four is the only empty one, and it is taken. -/
def FirstAlone : Prop :=
  v (mirrorAclType stage * 4) = none ∧
    (∀ n < 4, n ≠ 0 → (v (mirrorAclType stage * 4 + n)).isSome) ∧
    sdk.mem (mirrorAclType stage * 4) = true ∧ sdk.add (mirrorAclType stage * 4) = .success

variable {sdk v stage sessionId}

/-- A loop without an error leaves no slot empty; the slots elsewhere and those
that were taken are as before. -/
theorem mirrorReserveLoop_success {n loopI i' : Nat} {v v' : MirrorVector}
    (h : mirrorReserveLoop sdk n loopI v = (.success, i', v')) :
    i' = loopI + n ∧ (∀ i, loopI ≤ i → i < loopI + n → (v' i).isSome) ∧
      (∀ i, i < loopI → v' i = v i) ∧ ∀ i, (v i).isSome → v' i = v i := by
  induction n generalizing loopI v with
  | zero =>
    cases h
    exact ⟨rfl, fun i hlow hhigh => by omega, fun _ _ => rfl, fun _ _ => rfl⟩
  | succ n ih =>
    -- the slots behind the first, for the vector that the loop goes on with
    have hrest : ∀ {w : MirrorVector}, mirrorReserveLoop sdk n (loopI + 1) w = (.success, i', v') →
        (w loopI).isSome → i' = loopI + (n + 1) ∧
          (∀ i, loopI ≤ i → i < loopI + (n + 1) → (v' i).isSome) ∧
          (∀ i, i < loopI → v' i = w i) ∧ ∀ i, (w i).isSome → v' i = w i := by
      intro w hw hfirst
      obtain ⟨hi, hfull, hlow, hkeep⟩ := ih hw
      refine ⟨by omega, fun i hge hlt => ?_, fun i hlt => hlow i (by omega), hkeep⟩
      by_cases he : i = loopI
      · rw [he, hkeep loopI hfirst]
        exact hfirst
      · exact hfull i (by omega) (by omega)
    rw [mirrorReserveLoop] at h
    split at h
    · next hsome => exact hrest h hsome
    next hnone =>
    split at h
    · cases h
    split at h
    · obtain ⟨hi, hfull, hlow, hkeep⟩ := hrest h (by rw [update_self]; rfl)
      refine ⟨hi, hfull, fun i hlt => ?_, fun i hsome => ?_⟩
      · rw [hlow i hlt, update_of_ne (by omega)]
      · have hne : i ≠ loopI := fun he => hnone (he ▸ hsome)
        have hkept := hkeep i
        rw [update_of_ne hne] at hkept
        exact hkept hsome
    · next hst => exact absurd (congrArg Prod.fst h) hst

/-- An empty slot is taken, if there is no error. -/
theorem mirrorReserveLoop_takes {n loopI : Nat} {v : MirrorVector} (hnone : v loopI = none)
    (h : (mirrorReserveLoop sdk (n + 1) loopI v).1 = .success) :
    sdk.mem loopI = true ∧ sdk.add loopI = .success := by
  rw [mirrorReserveLoop, if_neg (by simp [hnone])] at h
  split at h
  · cases h
  next hmem =>
  refine ⟨by simpa using hmem, ?_⟩
  split at h
  · next hadd => exact hadd
  · exact h

/-- Slots that are all taken are gone past. -/
theorem mirrorReserveLoop_full {n loopI : Nat} {v : MirrorVector}
    (h : ∀ i, loopI ≤ i → i < loopI + n → (v i).isSome) :
    mirrorReserveLoop sdk n loopI v = (.success, loopI + n, v) := by
  induction n generalizing loopI with
  | zero => rfl
  | succ n ih =>
    rw [mirrorReserveLoop, if_pos (h loopI (le_refl _) (by omega)),
      ih fun i hlow hhigh => h i (by omega) (by omega), Nat.add_right_comm, Nat.add_assoc]

/-- A call without an error is a loop without one, and returns 0. -/
theorem mirrorAllocSessResIndex_success
    (h : (mirrorAllocSessResIndex sdk v stage sessionId).1 = .success) :
    ∃ v', mirrorReserveLoop sdk 4 (mirrorAclType stage * 4) v =
        (.success, mirrorAclType stage * 4 + 4, v') ∧
      mirrorAllocSessResIndex sdk v stage sessionId = (.success, 0, v') := by
  rw [mirrorAllocSessResIndex] at h ⊢
  split at h
  · next i' v' hr =>
    obtain ⟨rfl, -⟩ := mirrorReserveLoop_success hr
    rw [hr]
    exact ⟨v', rfl, Prod.ext rfl (Prod.ext (by dsimp only; omega) rfl)⟩
  · next hst _ => exact absurd h hst

theorem reservesOne_iff : ReservesOne sdk v stage sessionId ↔ FirstAlone sdk v stage := by
  constructor
  · rintro (⟨hs, -, hnone, -, hkeep⟩ | ⟨hfull, hs, -⟩)
    · obtain ⟨v', hloop, hr⟩ := mirrorAllocSessResIndex_success hs
      rw [hr] at hnone hkeep
      dsimp only at hnone hkeep
      rw [Nat.add_zero] at hnone hkeep
      obtain ⟨-, hfull, -⟩ := mirrorReserveLoop_success hloop
      refine ⟨hnone, fun n hn hne => ?_, mirrorReserveLoop_takes hnone (congrArg Prod.fst hloop)⟩
      rw [← hkeep _ (by omega)]
      exact hfull _ (by omega) (by omega)
    · refine absurd ?_ hs
      rw [mirrorAllocSessResIndex, mirrorReserveLoop_full fun i hlow hhigh => ?_]
      obtain ⟨n, rfl⟩ := Nat.exists_eq_add_of_le hlow
      exact hfull n (by omega)
  · rintro ⟨hnone, hothers, hmem, hadd⟩
    have hloop : mirrorReserveLoop sdk 4 (mirrorAclType stage * 4) v =
        (.success, mirrorAclType stage * 4 + 4,
          update v (mirrorAclType stage * 4) (some ⟨1, [], 0, 0⟩)) := by
      rw [mirrorReserveLoop, if_neg (by simp [hnone]), if_neg (by simp [hmem]), hadd]
      refine mirrorReserveLoop_full fun i hlow hhigh => ?_
      obtain ⟨n, rfl⟩ := Nat.exists_eq_add_of_le (Nat.le_of_succ_le hlow)
      rw [update_of_ne (by omega)]
      exact hothers n (by omega) (by omega)
    refine .inl ?_
    have hr : mirrorAllocSessResIndex sdk v stage sessionId = (.success, 0,
        update v (mirrorAclType stage * 4) (some ⟨1, [], 0, 0⟩)) := by
      rw [mirrorAllocSessResIndex, hloop]
      exact Prod.ext rfl (Prod.ext (by dsimp only; omega) rfl)
    rw [hr]
    refine ⟨rfl, Nat.zero_lt_succ _, hnone, ?_, fun i hi => update_of_ne hi _ _⟩
    dsimp only
    rw [Nat.add_zero, update_self]
    rfl

theorem mirrorAclType_pos : 0 < mirrorAclType stage := by
  cases stage with
  | inl p => exact Nat.lt_of_lt_of_le (by decide) (Nat.le_add_right 2 p)
  | inr p => exact Nat.lt_of_lt_of_le (by decide) (Nat.le_add_right 10 p)

/-- Freed, the slot of a resource still points to it. -/
theorem mirrorFreeSessResIndex_some {r : MirrorRes}
    (h : v (mirrorAclType stage * 4 + sessionId) = some r) :
    (mirrorFreeSessResIndex v stage sessionId).2 (mirrorAclType stage * 4 + sessionId) =
      some .freed := by
  have hpos : 0 < mirrorAclType stage := mirrorAclType_pos
  rw [Nat.add_comm] at h ⊢
  rw [mirrorFreeSessResIndex]
  simp only [h]
  rw [update_of_ne (by omega), update_self]

theorem givesBack_iff :
    GivesBack v stage sessionId ↔ v (mirrorAclType stage * 4 + sessionId) = none := by
  constructor
  · intro h
    cases hv : v (mirrorAclType stage * 4 + sessionId) with
    | none => rfl
    | some r =>
      have hfreed := mirrorFreeSessResIndex_some hv
      rw [h, update_self] at hfreed
      cases hfreed
  · intro h
    have hnode : v.nodes (mirrorAclType stage * 4 + sessionId) = none := by
      rw [MirrorVector.nodes, h]
      rfl
    rw [GivesBack, mirrorFreeSessResIndex, Nat.add_comm sessionId, h, ← hnode, update_eq_self]

/-- A slot is freed as it was reserved: its resource is gone and the vector has
it still. -/
theorem reserve_free_ne (h : (mirrorAllocSessResIndex sdk v stage sessionId).1 = .success) :
    (mirrorFreeSessResIndex (mirrorAllocSessResIndex sdk v stage sessionId).2.2 stage
      (mirrorAllocSessResIndex sdk v stage sessionId).2.1).2 ≠ v.nodes := by
  obtain ⟨v', hloop, hr⟩ := mirrorAllocSessResIndex_success h
  obtain ⟨-, hfull, -⟩ := mirrorReserveLoop_success hloop
  obtain ⟨r, hr'⟩ := Option.isSome_iff_exists.mp (hfull _ (le_refl _) (Nat.lt_add_of_pos_right
    (by decide)))
  rw [hr]
  intro hrestored
  have hfreed := mirrorFreeSessResIndex_some (show v' (mirrorAclType stage * 4 + 0) = some r from hr')
  rw [hrestored, Nat.add_zero, MirrorVector.nodes] at hfreed
  cases hv : v (mirrorAclType stage * 4) with
  | none => rw [hv] at hfreed; cases hfreed
  | some r => rw [hv] at hfreed; cases hfreed

/-- A slot is reserved right where the first of the four alone is empty, given
back right where there is nothing to give back, and never restored. -/
theorem mirrorReserve_laws : (ReservesOne sdk v stage sessionId ↔ FirstAlone sdk v stage) ∧
    (GivesBack v stage sessionId ↔ v (mirrorAclType stage * 4 + sessionId) = none) ∧
    ¬ ((mirrorAllocSessResIndex sdk v stage sessionId).1 = .success ∧
      (mirrorFreeSessResIndex (mirrorAllocSessResIndex sdk v stage sessionId).2.2 stage
        (mirrorAllocSessResIndex sdk v stage sessionId).2.1).2 = v.nodes) :=
  ⟨reservesOne_iff, givesBack_iff, fun ⟨h, he⟩ => reserve_free_ne h he⟩

/-- Of an empty vector all four slots are taken. -/
theorem mirrorReserve_not_always :
    ¬ ∀ (sdk : MirrorVectorSdk) (v : MirrorVector) (stage : Fin 8 ⊕ Fin 3) (sessionId : Nat),
      ReservesOne sdk v stage sessionId := by
  intro h
  rcases h ⟨fun _ => true, fun _ => .success⟩ (fun _ => none) (.inl 0) 0 with
    ⟨-, -, -, -, hkeep⟩ | ⟨hfull, -⟩
  · exact absurd (hkeep 9 (by decide)) (by decide)
  · exact absurd (hfull 0 (by decide)) (by decide)

end Laws

end CtcSai
