/-
Writes to a file of registers, kept as a list of registers and values.

`replay f l` makes the writes of `l` to `f`, the later ones last.  A register that no write
names keeps its value; one that a write names has a value that does not depend on what was
there before.
-/
import Mathlib.Logic.Function.Basic

namespace WriteLogs

open Function

variable {R V : Type} [DecidableEq R] {f g : R → V} {l l' : List (R × V)} {r : R}

/-- The writes, one after the other. -/
def replay (f : R → V) : List (R × V) → R → V
  | [] => f
  | w :: l => replay (update f w.1 w.2) l

/-- The registers that are written. -/
def keys (l : List (R × V)) : List R := l.map Prod.fst

@[simp] theorem replay_nil (f : R → V) : replay f [] = f := rfl

@[simp] theorem replay_cons (f : R → V) (w : R × V) (l : List (R × V)) :
    replay f (w :: l) = replay (update f w.1 w.2) l := rfl

omit [DecidableEq R] in
@[simp] theorem keys_nil : keys ([] : List (R × V)) = [] := rfl

omit [DecidableEq R] in
@[simp] theorem mem_keys_cons {w : R × V} : r ∈ keys (w :: l) ↔ r = w.1 ∨ r ∈ keys l := by
  rw [keys, List.map_cons, List.mem_cons, keys]

omit [DecidableEq R] in
@[simp] theorem mem_keys_append : r ∈ keys (l ++ l') ↔ r ∈ keys l ∨ r ∈ keys l' := by
  rw [keys, List.map_append, List.mem_append, keys, keys]

theorem replay_append (f : R → V) (l l' : List (R × V)) :
    replay f (l ++ l') = replay (replay f l) l' := by
  induction l generalizing f with
  | nil => rfl
  | cons w l ih => exact ih _

theorem replay_of_not_mem (h : r ∉ keys l) : replay f l r = f r := by
  induction l generalizing f with
  | nil => rfl
  | cons w l ih =>
    rw [mem_keys_cons, not_or] at h
    rw [replay_cons, ih h.2, update_of_ne h.1]

theorem replay_congr (h : r ∈ keys l) : replay f l r = replay g l r := by
  induction l generalizing f g with
  | nil => cases h
  | cons w l ih =>
    rw [replay_cons, replay_cons]
    by_cases hl : r ∈ keys l
    · exact ih hl
    · obtain rfl : r = w.1 := (mem_keys_cons.mp h).resolve_right hl
      rw [replay_of_not_mem hl, replay_of_not_mem hl, update_self, update_self]

end WriteLogs
