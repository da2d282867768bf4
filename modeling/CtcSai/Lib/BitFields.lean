/-
Bit fields — words put together from fields by shifts and `|||`.

A field that starts where the word above it is zero is added to that word.  With every
field inside its width, words compare as the tuples of their fields do: by the highest
field first.
-/
import Mathlib.Data.Nat.Bitwise

namespace BitFields

variable {n : Nat}

theorem toNat_or_add {a b : BitVec n} {k : Nat} (ha : 2 ^ k ∣ a.toNat) (hb : b.toNat < 2 ^ k) :
    (a ||| b).toNat = a.toNat + b.toNat := by
  obtain ⟨c, hc⟩ := ha
  rw [BitVec.toNat_or, hc, Nat.two_pow_add_eq_or_of_lt hb]

theorem dvd_toNat_or {a b : BitVec n} {k : Nat} (ha : 2 ^ k ∣ a.toNat) (hb : 2 ^ k ∣ b.toNat) :
    2 ^ k ∣ (a ||| b).toNat := by
  obtain ⟨c, hc⟩ := ha
  obtain ⟨d, hd⟩ := hb
  have hshift : ∀ e : Nat, 2 ^ k * e = e <<< k := by
    intro e
    rw [Nat.shiftLeft_eq, Nat.mul_comm]
  rw [BitVec.toNat_or, hc, hd, hshift, hshift, ← Nat.shiftLeft_or_distrib, ← hshift]
  exact Nat.dvd_mul_right _ _

theorem dvd_toNat_shiftLeft (a : BitVec n) {k : Nat} (hk : k ≤ n) : 2 ^ k ∣ (a <<< k).toNat := by
  rw [BitVec.toNat_shiftLeft, Nat.shiftLeft_eq]
  have hpow : 2 ^ k ∣ 2 ^ n := Nat.pow_dvd_pow 2 hk
  exact (Nat.dvd_mod_iff hpow).mpr (Nat.dvd_mul_left _ _)

theorem fields_lt_iff {w a b c d : Nat} (hb : b < w) (hd : d < w) :
    a * w + b < c * w + d ↔ a < c ∨ (a = c ∧ b < d) := by
  rcases Nat.lt_trichotomy a c with h | rfl | h
  · have hle : (a + 1) * w ≤ c * w := Nat.mul_le_mul_right w h
    rw [Nat.add_mul] at hle
    exact ⟨fun _ => Or.inl h, fun _ => by omega⟩
  · exact ⟨fun hlt => Or.inr ⟨rfl, by omega⟩, fun hlt => by omega⟩
  · have hle : (c + 1) * w ≤ a * w := Nat.mul_le_mul_right w h
    rw [Nat.add_mul] at hle
    exact ⟨fun _ => by omega, fun hlt => by omega⟩

end BitFields
