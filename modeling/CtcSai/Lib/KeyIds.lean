/-
Tables whose keys carry an id.

Where an id is handed out by a pool and packed into the key of the record it
is for, the pool and the table agree when every key's id is in use and no two
keys share one.  A record written under a fresh id, or erased together with
its id, keeps it so.
-/
import CtcSai.Lib.Table

namespace KeyedTable

variable {K V : Type} [DecidableEq K]

/-- The ids of the keys are in use, and tell the keys apart. -/
structure KeyIds (num : K → Nat) (t : Table K V) (used : Finset Nat) : Prop where
  held : ∀ k v, t.lookup k = some v → num k ∈ used
  inj : ∀ k k' v v', t.lookup k = some v → t.lookup k' = some v' → num k = num k' → k = k'

namespace KeyIds

variable {num : K → Nat} {t : Table K V} {used used' : Finset Nat} {k : K} {v : V}

theorem empty (num : K → Nat) (used : Finset Nat) : KeyIds num (∅ : Table K V) used where
  held k v h := by rw [AList.lookup_empty] at h; cases h
  inj k k' v v' h := by rw [AList.lookup_empty] at h; cases h

theorem absent (h : KeyIds num t used) (hf : num k ∉ used) : t.lookup k = none := by
  cases hl : t.lookup k with
  | none => rfl
  | some v => exact absurd (h.held k v hl) hf

theorem mono (h : KeyIds num t used) (hsub : used ⊆ used') : KeyIds num t used' where
  held k v hl := hsub (h.held k v hl)
  inj := h.inj

theorem insert (h : KeyIds num t used) (hf : num k ∉ used) (hsub : used ⊆ used')
    (hk : num k ∈ used') (v : V) : KeyIds num (t.insert k v) used' where
  held a x hx := by
    rcases Table.of_lookup_insert hx with ⟨ha, -⟩ | ⟨-, hx⟩
    · rw [ha]; exact hk
    · exact hsub (h.held a x hx)
  inj a a' x x' hx hx' he := by
    rw [Table.lookup_insert_ite] at hx hx'
    split at hx
    · next ha =>
      split at hx'
      · next ha' => rw [ha, ha']
      · rw [← ha, he] at hf
        exact absurd (h.held a' x' hx') hf
    split at hx'
    · next ha' =>
      rw [← ha', ← he] at hf
      exact absurd (h.held a x hx) hf
    · exact h.inj a a' x x' hx hx' he

theorem replace (h : KeyIds num t used) (hk : t.lookup k = some v) (w : V) :
    KeyIds num (t.insert k w) used where
  held a x hx := by
    rcases Table.of_lookup_insert hx with ⟨ha, -⟩ | ⟨-, hx⟩
    · rw [ha]; exact h.held k v hk
    · exact h.held a x hx
  inj a a' x x' hx hx' he := by
    have hold : ∀ {b y}, (t.insert k w).lookup b = some y → ∃ z, t.lookup b = some z := by
      intro b y hy
      rcases Table.of_lookup_insert hy with ⟨hb, -⟩ | ⟨-, hy⟩
      · exact ⟨v, hb ▸ hk⟩
      · exact ⟨y, hy⟩
    obtain ⟨z, hz⟩ := hold hx
    obtain ⟨z', hz'⟩ := hold hx'
    exact h.inj a a' z z' hz hz' he

theorem erase (h : KeyIds num t used) (hk : t.lookup k = some v) :
    KeyIds num (t.erase k) (used.erase (num k)) where
  held a x hx := by
    obtain ⟨ha, hx⟩ := Table.of_lookup_erase hx
    exact Finset.mem_erase.mpr ⟨fun he => ha (h.inj a k x v hx hk he), h.held a x hx⟩
  inj a a' x x' hx hx' he := by
    rw [Table.lookup_erase_ite] at hx hx'
    split at hx
    · cases hx
    · split at hx'
      · cases hx'
      · exact h.inj a a' x x' hx hx' he

end KeyIds
end KeyedTable
