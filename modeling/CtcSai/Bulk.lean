/-
# `Bulk` — the loop of the bulk calls

The bulk entry points call the single operation for each element in turn and
stop at the first error, or do not, as the caller asks.  A bulk call is then a
run of single calls, and `bulkLoop_inv` carries an invariant through it.
-/
import CtcSai.Saitypes

namespace CtcSai

/-- `sai_bulk_op_error_mode_t`. -/
inductive BulkOpErrorMode where
  | stopOnError | ignoreError
deriving DecidableEq, Repr

variable {S α β : Type}

/-- The loop of a bulk call: one result for every element up to the first
error, or for all of them. -/
def bulkLoop (f : S → α → Option (Status × β × S)) (mode : BulkOpErrorMode) :
    S → List α → Option (List (Status × β) × S)
  | s, [] => some ([], s)
  | s, a :: rest =>
    match f s a with
    | none => none
    | some (status, b, s) =>
      if status ≠ .success ∧ mode = .stopOnError then some ([(status, b)], s)
      else (bulkLoop f mode s rest).map fun r => ((status, b) :: r.1, r.2)

variable {f : S → α → Option (Status × β × S)} {mode : BulkOpErrorMode}

/-- Every element of a bulk call meets `ok` in the state it finds. -/
def BulkAdmitted (f : S → α → Option (Status × β × S)) (mode : BulkOpErrorMode)
    (ok : S → α → Prop) : S → List α → Prop
  | _, [] => True
  | s, a :: rest => ok s a ∧ ∀ status b s', f s a = some (status, b, s') →
      ¬ (status ≠ .success ∧ mode = .stopOnError) → BulkAdmitted f mode ok s' rest

theorem bulkAdmitted_true (as : List α) (s : S) : BulkAdmitted f mode (fun _ _ => True) s as := by
  induction as generalizing s with
  | nil => trivial
  | cons a rest ih => exact ⟨trivial, fun _ _ s' _ _ => ih s'⟩

theorem bulkLoop_inv {P : S → Prop} {ok : S → α → Prop}
    (h : ∀ s a status b s', P s → ok s a → f s a = some (status, b, s') → P s') :
    ∀ {as : List α} {s : S}, P s → BulkAdmitted f mode ok s as →
      ∀ {r : List (Status × β) × S}, bulkLoop f mode s as = some r → P r.2 := by
  intro as
  induction as with
  | nil =>
    intro s hs _ r hr
    cases hr
    exact hs
  | cons a rest ih =>
    intro s hs hok r hr
    unfold bulkLoop at hr
    split at hr
    · cases hr
    next status b s' hf =>
    have hs' := h s a status b s' hs hok.1 hf
    split at hr
    · cases hr
      exact hs'
    next hgo =>
    obtain ⟨q, hq, rfl⟩ := Option.map_eq_some_iff.mp hr
    have hrest := ih hs' (hok.2 status b s' hf hgo) hq
    exact hrest

end CtcSai
