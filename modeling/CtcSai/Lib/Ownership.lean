/-
Ownership of ids — records that hold ids of a pool.

A store maps keys to records and every record holds at most one id of a
pool (`0` is none).  `Holds` says that the ids held are in use and held
once; `Owns` adds that nothing else is in use.  One write to the store
changes one record.  When its id is kept, taken fresh or given back (`Moves`)
the write keeps `Owns`; when ids may be lost on the way (`Shifts`) it still
keeps `Holds`.
-/
import CtcSai.Lib.IdPool
import Mathlib.Data.Finset.Basic

namespace Ownership

open Function

variable {K V : Type}
variable {old new a b c : Nat} {u v w : Finset Nat}

/-- The id a store holds at a place: `0` without a record or without an id. -/
def idOf (f : V → Nat) (o : Option V) : Nat := (o.map f).getD 0

@[simp] theorem idOf_some (f : V → Nat) (v : V) : idOf f (some v) = f v := rfl

/-- The ids held are in use, and no id is held twice. -/
structure Holds (f : V → Nat) (m : K → Option V) (used : Finset Nat) : Prop where
  held : ∀ k, idOf f (m k) ≠ 0 → idOf f (m k) ∈ used
  inj : ∀ k k', idOf f (m k) ≠ 0 → idOf f (m k) = idOf f (m k') → k = k'

/-- Besides, every id in use is held. -/
structure Owns (f : V → Nat) (m : K → Option V) (used : Finset Nat) : Prop
    extends Holds f m used where
  zero : 0 ∉ used
  owned : ∀ i ∈ used, ∃ k, idOf f (m k) = i

/-- What one write may do to the id of its record. -/
inductive Moves (old new : Nat) (used used' : Finset Nat) : Prop where
  | keep : new = old → used' = used → Moves old new used used'
  | take : old = 0 → new ≠ 0 → new ∉ used → used' = insert new used → Moves old new used used'
  | give : new = 0 → used' = used.erase old → Moves old new used used'

theorem Moves.refl (i : Nat) (used : Finset Nat) : Moves i i used used := .keep rfl rfl

open IdPool in
theorem moves_alloc {A : Allocator} {p q : Pool A} {i : Nat} (hlo : 0 < A.lo)
    (h : p.alloc = some (i, q)) : i ≠ 0 ∧ Moves 0 i p.used q.used := by
  obtain ⟨hfresh, hge, _, hused, _⟩ := Pool.alloc_some h
  have hi : i ≠ 0 := by omega
  exact ⟨hi, .take rfl hi hfresh hused⟩

theorem Moves.eq_of_ne (h : Moves old new u v) (hold : old ≠ 0) (hnew : new ≠ 0) : new = old := by
  cases h with
  | keep he _ => exact he
  | take h0 _ _ _ => exact absurd h0 hold
  | give h0 _ => exact absurd h0 hnew

theorem Moves.trans_keep (h : Moves a b u v) (hc : c = b) (hw : w = v) : Moves a c u w := by
  subst hc hw
  exact h

/-- What a removal does to an id: it gives it back, or keeps it. -/
def LetsGo (old new : Nat) (used used' : Finset Nat) : Prop :=
  new = old ∧ used' = used ∨ new = 0 ∧ used' = used.erase old

theorem LetsGo.refl (i : Nat) (used : Finset Nat) : LetsGo i i used used := .inl ⟨rfl, rfl⟩

theorem LetsGo.moves (h : LetsGo old new u v) : Moves old new u v := by
  rcases h with ⟨hn, hv⟩ | ⟨hn, hv⟩
  · exact .keep hn hv
  · exact .give hn hv

theorem Moves.letsGo (h0 : 0 ∉ u) (h : Moves a b u v) (h' : LetsGo b c v w) : Moves a c u w := by
  rcases h' with ⟨rfl, rfl⟩ | ⟨rfl, rfl⟩
  · exact h
  cases h with
  | keep hb hv => rw [hb, hv]; exact .give rfl rfl
  | take ha _ hfresh hv =>
    rw [ha, hv, Finset.erase_insert hfresh]
    exact .keep rfl rfl
  | give hb hv =>
    rw [hb, hv, Finset.erase_eq_of_notMem (fun hin => h0 (Finset.mem_of_mem_erase hin))]
    exact .give rfl rfl

/-- What one write may do to the id of its record when ids may also be lost:
every other id in use stays in use, and the record ends with none, with the id
it had, or with one that was not in use. -/
structure Shifts (old new : Nat) (used used' : Finset Nat) : Prop where
  rest : used.erase old ⊆ used'
  id : new = 0 ∨ (new = old ∧ (old ∈ used → old ∈ used')) ∨ (new ∉ used ∧ new ∈ used')

theorem Shifts.refl (i : Nat) (used : Finset Nat) : Shifts i i used used :=
  ⟨Finset.erase_subset _ _, .inr (.inl ⟨rfl, fun h => h⟩)⟩

theorem Moves.shifts (h : Moves old new u v) : Shifts old new u v := by
  cases h with
  | keep hnew hu =>
    rw [hnew, hu]
    exact .refl _ _
  | take _ _ hfresh hu =>
    rw [hu]
    exact ⟨(Finset.erase_subset _ _).trans (Finset.subset_insert _ _),
      .inr (.inr ⟨hfresh, Finset.mem_insert_self _ _⟩)⟩
  | give hnew hu => rw [hu]; exact ⟨Finset.Subset.refl _, .inl hnew⟩

theorem Shifts.trans (h0 : 0 ∉ u) (h : Shifts a b u v) (h' : Shifts b c v w) : Shifts a c u w := by
  -- an id in use that the record does not hold is not the one it holds in between
  have hstay : ∀ i ∈ u, i ≠ a → i ∈ w := by
    intro i hi ha
    refine h'.rest (Finset.mem_erase.mpr ⟨?_, h.rest (Finset.mem_erase.mpr ⟨ha, hi⟩)⟩)
    rintro rfl
    rcases h.id with hb | ⟨hb, _⟩ | ⟨hb, _⟩
    · exact h0 (hb ▸ hi)
    · exact ha hb
    · exact hb hi
  refine ⟨fun i hi => hstay i (Finset.mem_of_mem_erase hi) (Finset.ne_of_mem_erase hi), ?_⟩
  rcases h'.id with hc | ⟨hc, hkeep⟩ | ⟨hc, hw⟩
  · exact .inl hc
  · subst hc
    rcases h.id with hb | ⟨hb, hkeep'⟩ | ⟨hb, hv⟩
    · exact .inl hb
    · subst hb
      exact .inr (.inl ⟨rfl, fun hu => hkeep (hkeep' hu)⟩)
    · exact .inr (.inr ⟨hb, hkeep hv⟩)
  by_cases hca : c = a
  · subst hca
    exact .inr (.inl ⟨rfl, fun _ => hw⟩)
  · refine .inr (.inr ⟨fun hu => hc (h.rest (Finset.mem_erase.mpr ⟨hca, hu⟩)), hw⟩)

section Update

variable [DecidableEq K] {f : V → Nat} {m : K → Option V} {used used' : Finset Nat}

theorem idOf_update (k a : K) (x : Option V) :
    idOf f (update m k x a) = if a = k then idOf f x else idOf f (m a) := by
  by_cases h : a = k
  · subst h
    rw [update_self, if_pos rfl]
  · rw [update_of_ne h, if_neg h]

theorem Holds.write (h : Holds f m used) (k : K) (x : Option V)
    (hx : Shifts (idOf f (m k)) (idOf f x) used used') :
    Holds f (update m k x) used' := by
  -- an id held elsewhere is not the one held at `k`, before or now
  have hold : ∀ a, a ≠ k → idOf f (m a) ≠ 0 → idOf f (m a) ≠ idOf f (m k) :=
    fun a ha h0 he => ha (h.inj a k h0 he)
  have hnew : ∀ a, a ≠ k → idOf f (m a) ≠ 0 → idOf f (m a) ≠ idOf f x := by
    intro a ha h0 he
    rcases hx.id with hx | ⟨hx, _⟩ | ⟨hx, _⟩
    · exact h0 (he.trans hx)
    · exact hold a ha h0 (he.trans hx)
    · exact hx (he ▸ h.held a h0)
  constructor
  · intro a ha
    rw [idOf_update] at ha ⊢
    split at ha
    · next hk =>
      rw [if_pos hk]
      rcases hx.id with hx | ⟨hx, hkeep⟩ | ⟨_, hx⟩
      · exact absurd hx ha
      · rw [hx] at ha ⊢
        exact hkeep (h.held k ha)
      · exact hx
    · next hk =>
      rw [if_neg hk]
      exact hx.rest (Finset.mem_erase.mpr ⟨hold a hk ha, h.held a ha⟩)
  · intro a b ha hab
    rw [idOf_update] at ha
    rw [idOf_update, idOf_update] at hab
    by_cases hak : a = k <;> by_cases hbk : b = k
    · rw [hak, hbk]
    · rw [if_pos hak, if_neg hbk] at hab
      rw [if_pos hak] at ha
      exact absurd hab.symm (hnew b hbk (hab ▸ ha))
    · rw [if_neg hak, if_pos hbk] at hab
      rw [if_neg hak] at ha
      exact absurd hab (hnew a hak ha)
    · rw [if_neg hak, if_neg hbk] at hab
      rw [if_neg hak] at ha
      exact h.inj a b ha hab

/-- A write that keeps, takes or gives back its record's id keeps ownership. -/
theorem Owns.write (h : Owns f m used) (k : K) (x : Option V)
    (hx : Moves (idOf f (m k)) (idOf f x) used used') :
    Owns f (update m k x) used' := by
  refine ⟨h.toHolds.write k x hx.shifts, ?_, ?_⟩
  · cases hx with
    | keep _ hused => rw [hused]; exact h.zero
    | take _ h0 _ hused =>
      rw [hused, Finset.mem_insert]
      rintro (hz | hz)
      · exact h0 hz.symm
      · exact h.zero hz
    | give _ hused => rw [hused]; exact fun hz => h.zero (Finset.mem_of_mem_erase hz)
  · -- an id in use is the one written, or that of a record not written
    have hother : ∀ i a, idOf f (m a) = i → a ≠ k → ∃ a, idOf f (update m k x a) = i :=
      fun i a ha hk => ⟨a, by rw [idOf_update, if_neg hk, ha]⟩
    have hhere : ∀ i, idOf f x = i → ∃ a, idOf f (update m k x a) = i :=
      fun i hi => ⟨k, by rw [idOf_update, if_pos rfl, hi]⟩
    intro i hi
    cases hx with
    | keep hnew hused =>
      obtain ⟨a, ha⟩ := h.owned i (hused ▸ hi)
      by_cases hk : a = k
      · exact hhere i (by rw [hnew, ← hk, ha])
      · exact hother i a ha hk
    | take hold h0 _ hused =>
      rw [hused, Finset.mem_insert] at hi
      rcases hi with hi | hi
      · exact hhere i hi.symm
      obtain ⟨a, ha⟩ := h.owned i hi
      refine hother i a ha ?_
      -- the record written held no id, so it is not the owner of `i`
      rintro rfl
      rw [hold] at ha
      exact h.zero (ha ▸ hi)
    | give _ hused =>
      rw [hused, Finset.mem_erase] at hi
      obtain ⟨a, ha⟩ := h.owned i hi.2
      refine hother i a ha ?_
      rintro rfl
      exact hi.1 ha.symm

end Update

theorem owns_empty (f : V → Nat) : Owns f (fun _ : K => none) ∅ where
  held _ h := absurd rfl h
  inj _ _ h := absurd rfl h
  zero := Finset.notMem_empty 0
  owned i hi := absurd hi (Finset.notMem_empty i)

/-! ## Places that own several ids -/

section Several

variable {ι : Type}

/-- The ids in use are those of others and those owned, each by one place. -/
structure OwnsAll (others : Finset ι) (owns : K → Finset ι) (used : Finset ι) : Prop where
  used : ∀ i, i ∈ used ↔ i ∈ others ∨ ∃ k, i ∈ owns k
  apart : ∀ k k' i, i ∈ owns k → i ∈ owns k' → k = k'
  foreign : ∀ k i, i ∈ owns k → i ∉ others

theorem ownsAll_empty (others : Finset ι) : OwnsAll others (fun _ : K => ∅) others where
  used i := ⟨.inl, fun h => h.elim id fun ⟨_, hk⟩ => absurd hk (Finset.notMem_empty i)⟩
  apart _ _ i h := absurd h (Finset.notMem_empty i)
  foreign _ i h := absurd h (Finset.notMem_empty i)

namespace OwnsAll

variable {others used : Finset ι} {owns : K → Finset ι}

theorem congr (h : OwnsAll others owns used) {owns' : K → Finset ι} {used' : Finset ι}
    (howns : owns' = owns) (hused : used' = used) : OwnsAll others owns' used' := by
  rw [howns, hused]
  exact h

variable [DecidableEq ι] [DecidableEq K]

theorem take (h : OwnsAll others owns used) {k : K} (hk : owns k = ∅) {ids : Finset ι}
    (hfresh : ∀ i ∈ ids, i ∉ used) :
    OwnsAll others (update owns k ids) (used ∪ ids) := by
  have hother : ∀ k' i, i ∈ update owns k ids k' →
      k' = k ∧ i ∈ ids ∨ k' ≠ k ∧ i ∈ owns k' := by
    intro k' i hi
    by_cases hkk : k' = k
    · subst hkk
      rw [update_self] at hi
      exact .inl ⟨rfl, hi⟩
    · rw [update_of_ne hkk] at hi
      exact .inr ⟨hkk, hi⟩
  have hnew : ∀ k' i, i ∈ ids → i ∉ owns k' := fun k' i hi hk' =>
    hfresh i hi ((h.used i).mpr (.inr ⟨k', hk'⟩))
  refine ⟨fun i => ?_, fun k₁ k₂ i h₁ h₂ => ?_, fun k' i hi hin => ?_⟩
  · rw [Finset.mem_union, h.used]
    constructor
    · rintro ((ho | ⟨k', hk'⟩) | hi)
      · exact .inl ho
      · refine .inr ⟨k', ?_⟩
        have hne : k' ≠ k := by
          rintro rfl
          rw [hk] at hk'
          exact Finset.notMem_empty i hk'
        rw [update_of_ne hne]
        exact hk'
      · exact .inr ⟨k, by rw [update_self]; exact hi⟩
    · rintro (ho | ⟨k', hk'⟩)
      · exact .inl (.inl ho)
      · rcases hother k' i hk' with ⟨-, hi⟩ | ⟨-, hi⟩
        · exact .inr hi
        · exact .inl (.inr ⟨k', hi⟩)
  · rcases hother k₁ i h₁ with ⟨he₁, hi₁⟩ | ⟨-, hi₁⟩
    · rcases hother k₂ i h₂ with ⟨he₂, -⟩ | ⟨-, hi₂⟩
      · rw [he₁, he₂]
      · exact absurd hi₂ (hnew k₂ i hi₁)
    · rcases hother k₂ i h₂ with ⟨-, hi₂⟩ | ⟨-, hi₂⟩
      · exact absurd hi₁ (hnew k₁ i hi₂)
      · exact h.apart k₁ k₂ i hi₁ hi₂
  · rcases hother k' i hi with ⟨-, hi⟩ | ⟨-, hi⟩
    · exact hfresh i hi ((h.used i).mpr (.inl hin))
    · exact h.foreign k' i hi hin

theorem give (h : OwnsAll others owns used) (k : K) :
    OwnsAll others (update owns k ∅) (used \ owns k) := by
  have hother : ∀ k' i, i ∈ update owns k ∅ k' → k' ≠ k ∧ i ∈ owns k' := by
    intro k' i hi
    by_cases hkk : k' = k
    · subst hkk
      rw [update_self] at hi
      exact absurd hi (Finset.notMem_empty i)
    · rw [update_of_ne hkk] at hi
      exact ⟨hkk, hi⟩
  refine ⟨fun i => ?_, fun k₁ k₂ i h₁ h₂ => h.apart k₁ k₂ i (hother k₁ i h₁).2 (hother k₂ i h₂).2,
    fun k' i hi => h.foreign k' i (hother k' i hi).2⟩
  rw [Finset.mem_sdiff, h.used]
  constructor
  · rintro ⟨ho | ⟨k', hk'⟩, hnot⟩
    · exact .inl ho
    · refine .inr ⟨k', ?_⟩
      have hne : k' ≠ k := by
        rintro rfl
        exact hnot hk'
      rw [update_of_ne hne]
      exact hk'
  · rintro (ho | ⟨k', hk'⟩)
    · exact ⟨.inl ho, fun hin => h.foreign k i hin ho⟩
    · obtain ⟨hne, hi⟩ := hother k' i hk'
      exact ⟨.inr ⟨k', hi⟩, fun hin => hne (h.apart k' k i hi hin)⟩

end OwnsAll

end Several

end Ownership
