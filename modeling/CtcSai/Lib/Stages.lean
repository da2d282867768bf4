/-
Computations in stages — each stage goes on or ends the whole.

A stage is an `Except`: `ok` hands a value to the next stage, `error` is the
end.  `Staged P Q x` says what is known of both: the value meets `P`, the end
meets `Q`.  Where the ends are results themselves, `result` is what the whole
computation returns.
-/
namespace Stages

variable {E A B : Type}

/-- The value of a stage meets `P`, its end meets `Q`. -/
def Staged (P : A → Prop) (Q : E → Prop) : Except E A → Prop
  | .ok a => P a
  | .error e => Q e

variable {P : A → Prop} {Q : E → Prop} {R : B → Prop}

theorem Staged.bind {x : Except E A} {f : A → Except E B} (hx : Staged P Q x)
    (hf : ∀ a, P a → Staged R Q (f a)) : Staged R Q (x >>= f) := by
  cases x with
  | ok a => exact hf a hx
  | error e => exact hx

/-- What a computation returns whose ends are results of their own, or none
where it does not return. -/
def result : Except (Option A) A → Option A
  | .ok a => some a
  | .error e => e

theorem Staged.result {S : A → Prop} {x : Except (Option A) A}
    (hx : Staged S (fun e => ∀ a, e = some a → S a) x) {a : A} (h : result x = some a) : S a := by
  cases x with
  | ok b => cases h; exact hx
  | error e => exact hx a h

end Stages
