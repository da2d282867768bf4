/-
The members of a set share a class, which is the least of them; everybody else is in a class
of his own.

`LeastClass dom E cls` says so for the indexes in `dom`, with `E` the members.  A class is an
index, so the members can be told from the others by it.  Members come in with `join`, one of
them goes with `leave`, where the rest moves to the next one when the class was his; with
`leave_alone` nobody has to move.
-/
import Mathlib.Order.Bounds.Basic

namespace LeastClasses

variable {ι : Type} [LinearOrder ι] {dom E D : Set ι} {cls cls' : ι → ι} {i j m q : ι}

/-- The members have the least of them as their class, the others themselves. -/
structure LeastClass (dom E : Set ι) (cls : ι → ι) : Prop where
  alone : ∀ i ∈ dom, i ∉ E → cls i = i
  least : ∀ i ∈ E, IsLeast E (cls i)

namespace LeastClass

theorem common (h : LeastClass dom E cls) (hi : i ∈ E) (hj : j ∈ E) : cls i = cls j :=
  (h.least i hi).unique (h.least j hj)

theorem apart (h : LeastClass dom E cls) (hi : i ∈ E) (hj : j ∈ dom) (hnot : j ∉ E) :
    cls j ≠ cls i := by
  intro he
  rw [h.alone j hj hnot] at he
  exact hnot (he ▸ (h.least i hi).1)

theorem of_alone (h : ∀ i ∈ dom, cls i = i) : LeastClass dom ∅ cls :=
  ⟨fun i hi _ => h i hi, fun _ hi => hi.elim⟩

theorem join (h : LeastClass dom E cls) (hsub : E ⊆ D) (hm : IsLeast D m)
    (hin : ∀ i ∈ D, cls' i = m) (hout : ∀ i ∈ dom, i ∉ D → cls' i = cls i) :
    LeastClass dom D cls' where
  alone i hi hnot := (hout i hi hnot).trans (h.alone i hi fun he => hnot (hsub he))
  least i hi := by
    rw [hin i hi]
    exact hm

/-- The class of an index is another one's index only when both are members. -/
theorem of_class (h : LeastClass dom E cls) (hi : i ∈ dom) (hne : i ≠ q) (hc : cls i = q) :
    i ∈ E ∧ IsLeast E q := by
  have hmem : i ∈ E := by
    by_contra hnot
    exact hne ((h.alone i hi hnot).symm.trans hc)
  exact ⟨hmem, hc ▸ h.least i hmem⟩

theorem isLeast_diff (hq : ¬ IsLeast E q) (hm : IsLeast E m) : IsLeast (E \ {q}) m :=
  ⟨⟨hm.1, fun he => hq (he ▸ hm)⟩, fun _ hj => hm.2 hj.1⟩

/-- One index is on its own from now on; those in its class have moved to the first of them. -/
theorem leave (h : LeastClass dom E cls) (hdom : E ⊆ dom) (hown : cls' q = q)
    (hmoved : ∀ i ∈ dom, i ≠ q → cls i = q → IsLeast {j | j ∈ dom ∧ j ≠ q ∧ cls j = q} (cls' i))
    (hkept : ∀ i ∈ dom, i ≠ q → cls i ≠ q → cls' i = cls i) : LeastClass dom (E \ {q}) cls' where
  alone i hi hnot := by
    by_cases hiq : i = q
    · rw [hiq, hown]
    · have hE : i ∉ E := fun he => hnot ⟨he, hiq⟩
      have hself := h.alone i hi hE
      rw [hkept i hi hiq (fun hc => hiq (hself.symm.trans hc)), hself]
  least i hi := by
    obtain ⟨hE, hiq⟩ := hi
    by_cases hc : cls i = q
    · -- the class was that of the one who goes: it is the class of all the rest
      have hset : {j | j ∈ dom ∧ j ≠ q ∧ cls j = q} = E \ {q} := by
        ext j
        constructor
        · rintro ⟨hj, hjq, hcj⟩
          exact ⟨(h.of_class hj hjq hcj).1, hjq⟩
        · rintro ⟨hj, hjq⟩
          exact ⟨hdom hj, hjq, (h.common hj hE).trans hc⟩
      rw [← hset]
      exact hmoved i (hdom hE) hiq hc
    · rw [hkept i (hdom hE) hiq hc]
      have hl := h.least i hE
      exact isLeast_diff (fun hq => hc (hl.unique hq)) hl

theorem leave_alone (h : LeastClass dom E cls) (hdom : E ⊆ dom) (hown : cls' q = q)
    (hkept : ∀ i ∈ dom, i ≠ q → cls' i = cls i)
    (hfree : q ∈ E → (∃ j ∈ E, j < q) ∨ ∀ j ∈ E, j = q) : LeastClass dom (E \ {q}) cls' := by
  refine h.leave hdom hown (fun i hi hiq hc => ?_) fun i hi hiq _ => hkept i hi hiq
  obtain ⟨hE, hleast⟩ := h.of_class hi hiq hc
  cases hfree hleast.1 with
  | inl hlow =>
    obtain ⟨j, hj, hlt⟩ := hlow
    exact absurd (hleast.2 hj) (not_le_of_gt hlt)
  | inr hall => exact absurd (hall i hE) hiq

end LeastClass

end LeastClasses
