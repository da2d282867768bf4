/-
Runs of a guarded step function — the induction every safety result uses.

A system is a partial step function `step : S → A → Option S`; `none` is a
step that cannot be taken (or that never returns).  `Reachable` collects the
states that runs lead to whose every step meets `ok`, and `Reachable.inv` is
the one induction over runs: what holds at the start and survives each
admitted step holds in every state reached.
-/
namespace Runs

variable {S A : Type}

/-- The states reached from `init` by steps that all meet `ok`. -/
inductive Reachable (init : S → Prop) (ok : S → A → Prop) (step : S → A → Option S) :
    S → Prop where
  | start {s : S} : init s → Reachable init ok step s
  | next {s s' : S} (a : A) : Reachable init ok step s → ok s a → step s a = some s' →
      Reachable init ok step s'

/-- Every step is admitted. -/
def anyStep (_ : S) (_ : A) : Prop := True

variable {init : S → Prop} {ok : S → A → Prop} {step : S → A → Option S}

theorem Reachable.inv {I : S → Prop} (h0 : ∀ s, init s → I s)
    (hstep : ∀ s a s', I s → ok s a → step s a = some s' → I s') {s : S}
    (h : Reachable init ok step s) : I s := by
  induction h with
  | start hs => exact h0 _ hs
  | next a _ hok hst ih => exact hstep _ a _ ih hok hst

end Runs
