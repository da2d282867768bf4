/-
Shared switches — a switch is on exactly while its user needs it.

Every switch serves the holders that `uses` relates to it, and each holder has
a number of claims.  `Agrees` says that a switch is on exactly while its
holders have claims.  The number of one holder changes in two ways: it stays on
its side of zero and no switch is touched, or all switches of the holder are
written; a switch changes hands when the new holder takes it as it wants it.
-/
import Mathlib.Logic.Function.Basic

namespace SharedSwitch

variable {R H : Type}

/-- Every switch is on exactly while the holders it serves have claims. -/
def Agrees (uses : R → H → Prop) (n : H → Nat) (on : R → Bool) : Prop :=
  ∀ r h, uses r h → (on r = true ↔ 0 < n h)

variable {uses uses' : R → H → Prop} {n : H → Nat} {on on' : R → Bool}

theorem Agrees.congr (ha : Agrees uses n on) (hu : ∀ r h, uses' r h → uses r h)
    (ho : ∀ r, on' r = on r) : Agrees uses' n on' := by
  intro r h hr
  rw [ho]
  exact ha r h (hu r h hr)

/-- One switch gets a new holder, who turns it on if he has claims and else
finds it off. -/
theorem Agrees.move (ha : Agrees uses n on) {r : R} {h : H}
    (hnew : ∀ x, uses' r x → x = h) (hold : ∀ s x, s ≠ r → uses' s x → uses s x)
    (hoff : n h = 0 → on r = false) (hr : on' r = (if 0 < n h then true else on r))
    (hne : ∀ s, s ≠ r → on' s = on s) : Agrees uses' n on' := by
  intro s x hs
  by_cases he : s = r
  · subst he
    rw [hnew x hs, hr]
    split
    · next hpos => exact ⟨fun _ => hpos, fun _ => rfl⟩
    · next hzero =>
      rw [hoff (by omega)]
      exact ⟨nofun, fun hpos => absurd hpos hzero⟩
  · rw [hne s he]
    exact ha s x (hold s x he hs)

variable [DecidableEq H]

theorem Agrees.keep (ha : Agrees uses n on) {h : H} {k : Nat} (hk : 0 < k ↔ 0 < n h) :
    Agrees uses (Function.update n h k) on := by
  intro r x hr
  by_cases hx : x = h
  · subst hx
    rw [Function.update_self, hk]
    exact ha r x hr
  · rw [Function.update_of_ne hx]
    exact ha r x hr

/-- All switches of one holder are written as its new number wants them, and
none of somebody else. -/
theorem Agrees.write (ha : Agrees uses n on) {h : H} {k : Nat} {W : List R} {v : Bool}
    (hv : v = true ↔ 0 < k) (hall : ∀ r, uses r h → r ∈ W)
    (hown : ∀ r ∈ W, ∀ x, uses r x → x = h)
    (hin : ∀ r ∈ W, on' r = v) (hout : ∀ r, r ∉ W → on' r = on r) :
    Agrees uses (Function.update n h k) on' := by
  intro r x hr
  by_cases hx : x = h
  · subst hx
    rw [Function.update_self, hin r (hall r hr)]
    exact hv
  have hr' : r ∉ W := by
    intro hmem
    exact hx (hown r hmem x hr)
  rw [Function.update_of_ne hx, hout r hr']
  exact ha r x hr

end SharedSwitch
