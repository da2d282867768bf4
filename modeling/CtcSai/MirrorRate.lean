/-
# `MirrorRate` — the sample rate of a mirror session as a code of the SDK

`ctc_sai_mirror_set_acl_mirr` hands the rate of the first session over as a
power of two.  The rate has 32 bits and the variable that is halved has eight.
-/
import CtcSai.Mirror

namespace CtcSai

/-- The loop of the division: how often the rate was halved, and the remainder
of the last time. -/
def divideLoop (result cnt remainder : Nat) : Nat × Nat :=
  if 1 < result then divideLoop (result / 2) (cnt + 1) (result % 2) else (cnt, remainder)

/-- `*sample_rate` of `ctc_sai_mirror_set_acl_mirr`; `percentMax` is
CTC_LOG_PERCENT_MAX, one above the code of the full rate. -/
def mirrorSampleRate (percentMax : Nat) (s : MirrorSession) : Nat :=
  if s.sampleRate = 0 then 0xFFFFFFFF
  else if s.sampleRate = 1 then percentMax - 1
  else
    -- `devide_result` is a `uint8`
    let divided := divideLoop (s.sampleRate.toNat % 2 ^ 8) 0 0
    percentMax - (divided.1 + divided.2) - 1

/-- One packet of how many a code stands for. -/
def percentPeriod (percentMax code : Nat) : Nat := 2 ^ (percentMax - 1 - code)

/-- The code of a session is one of the SDK, no smaller rate has a longer
period, and the period is the rate within a factor of two. -/
structure RateEncoded (percentMax : Nat) (s : MirrorSession) : Prop where
  valid : mirrorSampleRate percentMax s < percentMax
  mono : ∀ s' : MirrorSession, s'.sampleRate ≠ 0 → s'.sampleRate ≤ s.sampleRate →
    percentPeriod percentMax (mirrorSampleRate percentMax s') ≤
      percentPeriod percentMax (mirrorSampleRate percentMax s)
  below : s.sampleRate.toNat < 2 * percentPeriod percentMax (mirrorSampleRate percentMax s)
  above : percentPeriod percentMax (mirrorSampleRate percentMax s) < 2 * s.sampleRate.toNat

/-! ## The division -/

/-- The count is the logarithm, and the remainder the digit below the first. -/
theorem divideLoop_spec {r : Nat} (hr : 0 < r) (cnt rem : Nat) :
    ∃ c b, divideLoop r cnt rem = (cnt + c, b) ∧ 2 ^ c ≤ r ∧ r < 2 ^ (c + 1) ∧
      (c = 0 → b = rem) ∧ (c ≠ 0 → b ≤ 1 ∧ (b = 1 ↔ 3 * 2 ^ c ≤ 2 * r)) := by
  induction r using Nat.strong_induction_on generalizing cnt rem with
  | _ r ih =>
    rw [divideLoop]
    split
    · next hlt =>
      obtain ⟨c, b, he, hlow, hhigh, hzero, hmore⟩ :=
        ih (r / 2) (by omega) (by omega) (cnt + 1) (r % 2)
      refine ⟨c + 1, b, by rw [he, Nat.add_right_comm, Nat.add_assoc], ?_, ?_, nofun, ?_⟩
      · rw [Nat.pow_succ]
        omega
      · rw [Nat.pow_succ]
        omega
      · intro _
        rw [Nat.pow_succ]
        by_cases hc : c = 0
        · -- the rate was two or three
          rw [hzero hc]
          subst hc
          omega
        obtain ⟨hb, hiff⟩ := hmore hc
        obtain ⟨c', rfl⟩ := Nat.exists_eq_succ_of_ne_zero hc
        rw [Nat.pow_succ] at hiff hlow ⊢
        omega
    · next hle => exact ⟨0, rem, rfl, by omega, by omega, fun _ => rfl, absurd rfl⟩

/-- The exponent of the period that a value of the 8-bit variable gets. -/
def rateExponent (r : Nat) : Nat := (divideLoop r 0 0).1 + (divideLoop r 0 0).2

theorem rateExponent_spec {r : Nat} (hr : 0 < r) :
    ∃ c b, rateExponent r = c + b ∧ 2 ^ c ≤ r ∧ r < 2 ^ (c + 1) ∧ b ≤ 1 ∧
      (b = 1 ↔ 3 * 2 ^ c ≤ 2 * r) := by
  obtain ⟨c, b, he, hlow, hhigh, hzero, hmore⟩ := divideLoop_spec hr 0 0
  refine ⟨c, b, by rw [rateExponent, he, Nat.zero_add], hlow, hhigh, ?_⟩
  by_cases hc : c = 0
  · subst hc
    have hb := hzero rfl
    omega
  · exact hmore hc

theorem rateExponent_bounds {r : Nat} (hr : 0 < r) :
    r < 2 * 2 ^ rateExponent r ∧ 2 ^ rateExponent r < 2 * r := by
  obtain ⟨c, b, he, hlow, hhigh, hb, hiff⟩ := rateExponent_spec hr
  rw [he, Nat.pow_add]
  rw [Nat.pow_succ] at hhigh
  obtain rfl | rfl : b = 0 ∨ b = 1 := by omega
  · omega
  · have hmore := hiff.mp rfl
    omega

theorem rateExponent_mono {r r' : Nat} (hr : 0 < r) (h : r ≤ r') :
    rateExponent r ≤ rateExponent r' := by
  obtain ⟨c, b, he, hlow, -, hb, hiff⟩ := rateExponent_spec hr
  obtain ⟨c', b', he', -, hhigh', hb', hiff'⟩ := rateExponent_spec (Nat.lt_of_lt_of_le hr h)
  rw [he, he']
  have hc : c < c' + 1 := (Nat.pow_lt_pow_iff_right (a := 2) (by decide)).mp (by omega)
  by_cases hcc : c = c'
  · subst hcc
    omega
  · omega

theorem rateExponent_le {r : Nat} (hr : r < 2 ^ 8) : rateExponent r ≤ 8 := by
  by_cases h0 : r = 0
  · subst h0
    simp [rateExponent, divideLoop]
  · have hmono := rateExponent_mono (Nat.pos_of_ne_zero h0) (Nat.le_pred_of_lt hr)
    have hlast : rateExponent 255 = 8 := by simp [rateExponent, divideLoop]
    exact hlast ▸ hmono

/-! ## The code -/

section Code

variable {percentMax : Nat} {s : MirrorSession}

/-- A session that samples has the code of its low byte. -/
theorem mirrorSampleRate_eq (hn : s.sampleRate ≠ 0) : mirrorSampleRate percentMax s =
      percentMax - rateExponent (s.sampleRate.toNat % 2 ^ 8) - 1 := by
  rw [mirrorSampleRate, if_neg hn]
  split
  · next h1 =>
    rw [h1]
    simp [rateExponent, divideLoop]
  · rfl

theorem percentPeriod_code (hmax : 16 ≤ percentMax) (hn : s.sampleRate ≠ 0) :
    percentPeriod percentMax (mirrorSampleRate percentMax s) =
      2 ^ rateExponent (s.sampleRate.toNat % 2 ^ 8) := by
  have hle := rateExponent_le (Nat.mod_lt s.sampleRate.toNat (by decide : 0 < 2 ^ 8))
  rw [percentPeriod, mirrorSampleRate_eq hn]
  congr 1
  omega

theorem percentPeriod_le (hmax : 16 ≤ percentMax) (hn : s.sampleRate ≠ 0) :
    percentPeriod percentMax (mirrorSampleRate percentMax s) ≤ 2 ^ 8 := by
  rw [percentPeriod_code hmax hn]
  exact Nat.pow_le_pow_right (by decide) (rateExponent_le (Nat.mod_lt _ (by decide)))

/-- A low byte below 192 has a period of 128 at most. -/
theorem percentPeriod_le_half (hmax : 16 ≤ percentMax) (hn : s.sampleRate ≠ 0)
    (hbyte : s.sampleRate.toNat % 2 ^ 8 ≤ 191) :
    percentPeriod percentMax (mirrorSampleRate percentMax s) ≤ 2 ^ 7 := by
  rw [percentPeriod_code hmax hn]
  refine Nat.pow_le_pow_right (by decide) ?_
  by_cases h0 : s.sampleRate.toNat % 2 ^ 8 = 0
  · rw [h0]
    simp [rateExponent, divideLoop]
  · have hlast : rateExponent 191 = 7 := by simp [rateExponent, divideLoop]
    exact hlast ▸ rateExponent_mono (Nat.pos_of_ne_zero h0) hbyte

/-- From 192 on it has the period 256. -/
theorem percentPeriod_eq (hmax : 16 ≤ percentMax) (hn : s.sampleRate ≠ 0)
    (hbyte : 192 ≤ s.sampleRate.toNat % 2 ^ 8) :
    percentPeriod percentMax (mirrorSampleRate percentMax s) = 2 ^ 8 := by
  refine le_antisymm (percentPeriod_le hmax hn) ?_
  rw [percentPeriod_code hmax hn]
  have hfirst : rateExponent 192 = 8 := by simp [rateExponent, divideLoop]
  have hmono := rateExponent_mono (by decide) hbyte
  rw [hfirst] at hmono
  exact Nat.pow_le_pow_right (by decide) hmono

theorem toNat_sampleRate_pos (hn : s.sampleRate ≠ 0) : 0 < s.sampleRate.toNat :=
  Nat.pos_of_ne_zero fun h0 => hn (BitVec.eq_of_toNat_eq h0)

/-- The code is right for the rates that fit the eight bits, and for those of
the last quarter below 512, where the lost bit is made up for. -/
theorem rateEncoded_iff (hmax : 16 ≤ percentMax) (hn : s.sampleRate ≠ 0) :
    RateEncoded percentMax s ↔
      s.sampleRate.toNat ≤ 255 ∨ 448 ≤ s.sampleRate.toNat ∧ s.sampleRate.toNat ≤ 511 := by
  have hvalid : mirrorSampleRate percentMax s < percentMax := by
    rw [mirrorSampleRate_eq hn]
    omega
  constructor
  · intro h
    have hbelow := h.below
    have hle := percentPeriod_le hmax hn
    by_contra hno
    have hhalf := percentPeriod_le_half hmax hn (by omega)
    omega
  · rintro (hbyte | hlast)
    · have hmod : s.sampleRate.toNat % 2 ^ 8 = s.sampleRate.toNat := Nat.mod_eq_of_lt (by omega)
      obtain ⟨hbelow, habove⟩ := rateExponent_bounds (toNat_sampleRate_pos hn)
      refine ⟨hvalid, fun s' hn' hle => ?_, ?_, ?_⟩
      · have hle' : s'.sampleRate.toNat ≤ s.sampleRate.toNat := BitVec.le_def.mp hle
        rw [percentPeriod_code hmax hn', percentPeriod_code hmax hn, hmod,
          Nat.mod_eq_of_lt (show s'.sampleRate.toNat < 2 ^ 8 by omega)]
        exact Nat.pow_le_pow_right (by decide) (rateExponent_mono (toNat_sampleRate_pos hn') hle')
      · rw [percentPeriod_code hmax hn, hmod]
        exact hbelow
      · rw [percentPeriod_code hmax hn, hmod]
        exact habove
    · have hperiod := percentPeriod_eq hmax hn (by omega)
      refine ⟨hvalid, fun s' hn' _ => hperiod ▸ percentPeriod_le hmax hn', ?_, ?_⟩
      · omega
      · omega

/-- A session without attributes but for its rate. -/
def rateSession (rate : BitVec 32) : MirrorSession := .ofAttrs [.sampleRate rate]

theorem rateEncoded_iff_hundred : RateEncoded 16 (rateSession 100) :=
  (rateEncoded_iff (by decide) (by decide)).mpr (.inl (by decide))

/-- One packet of 256 becomes every packet. -/
theorem rateEncoded_not_always : ¬ ∀ s : MirrorSession, s.sampleRate ≠ 0 → RateEncoded 16 s := by
  intro h
  have habove := (h (rateSession 256) (by decide)).below
  simp [percentPeriod, mirrorSampleRate, rateSession, MirrorSession.ofAttrs, findMirrorAttr,
    findAttribInList, MirrorAttr.id, MirrorAttr.value, MirrorValue.asU32, divideLoop] at habove

end Code

end CtcSai
