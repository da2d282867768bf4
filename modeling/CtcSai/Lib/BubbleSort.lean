/-
Bubble sort, as passes of compare-and-swap over a list.

A pass of `n` comparisons carries the greatest of the first `n + 1` elements
to place `n` and leaves what lies behind alone.  `bubbleSort n` makes the
passes of `n - 1`, `n - 2`, … comparisons; what carries the induction is
that behind the elements still to be sorted lie sorted ones that are no
smaller than any of them.
-/
import Mathlib.Data.List.Sort

namespace BubbleSort

variable {α : Type} (le : α → α → Bool)

/-- One pass: `n` neighbours are compared, from the front. -/
def bubblePass : Nat → List α → List α
  | n + 1, a :: b :: l =>
    if le a b then a :: bubblePass n (b :: l) else b :: bubblePass n (a :: l)
  | _, l => l

/-- The passes over the first `n` elements. -/
def bubbleSort : Nat → List α → List α
  | n + 1, l => bubbleSort n (bubblePass le n l)
  | 0, l => l

variable {le}

theorem bubblePass_cons (n : Nat) (a b : α) (l : List α) : bubblePass le (n + 1) (a :: b :: l) =
    if le a b then a :: bubblePass le n (b :: l) else b :: bubblePass le n (a :: l) := rfl

theorem bubblePass_perm (n : Nat) (l : List α) : (bubblePass le n l).Perm l := by
  induction n generalizing l with
  | zero => exact .refl l
  | succ n ih =>
    match l with
    | [] => exact .refl []
    | [a] => exact .refl [a]
    | a :: b :: l =>
      rw [bubblePass_cons]
      split
      · exact (ih (b :: l)).cons a
      · exact ((ih (a :: l)).cons b).trans (.swap a b l)

theorem bubbleSort_perm (n : Nat) (l : List α) : (bubbleSort le n l).Perm l := by
  induction n generalizing l with
  | zero => exact .refl l
  | succ n ih => exact (ih _).trans (bubblePass_perm n l)

theorem bubblePass_map {β : Type} (f : β → α) (n : Nat) (l : List β) :
    bubblePass le n (l.map f) = (bubblePass (fun a b => le (f a) (f b)) n l).map f := by
  induction n generalizing l with
  | zero => rfl
  | succ n ih =>
    match l with
    | [] => rfl
    | [a] => rfl
    | a :: b :: l =>
      simp only [List.map_cons, bubblePass_cons]
      split
      · rw [← List.map_cons, ih, List.map_cons]
      · rw [← List.map_cons, ih, List.map_cons]

theorem bubbleSort_map {β : Type} (f : β → α) (n : Nat) (l : List β) :
    bubbleSort le n (l.map f) = (bubbleSort (fun a b => le (f a) (f b)) n l).map f := by
  induction n generalizing l with
  | zero => rfl
  | succ n ih => exact (congrArg _ (bubblePass_map f n l)).trans (ih _)

variable (htotal : ∀ a b, le a b = true ∨ le b a = true)
  (htrans : ∀ a b c, le a b = true → le b c = true → le a c = true)

include htotal htrans

theorem bubblePass_front (a : α) (front rest : List α) :
    ∃ front' m, bubblePass le front.length (a :: front ++ rest) = front' ++ m :: rest ∧
      front'.length = front.length ∧ (front' ++ [m]).Perm (a :: front) ∧
      ∀ x ∈ front', le x m = true := by
  induction front generalizing a with
  | nil => exact ⟨[], a, rfl, rfl, .refl [a], fun x hx => absurd hx List.not_mem_nil⟩
  | cons b front ih =>
    simp only [List.length_cons, List.cons_append, bubblePass_cons]
    split
    · rename_i hab
      obtain ⟨front', m, heq, hlen, hperm, hmax⟩ := ih b
      refine ⟨a :: front', m, by rw [← List.cons_append, heq]; rfl, by simp [hlen],
        hperm.cons a, ?_⟩
      intro x hx
      rcases List.mem_cons.mp hx with rfl | hx
      · -- `b` is one of those below `m`, or `m` itself
        have hb : b ∈ front' ++ [m] := hperm.symm.subset List.mem_cons_self
        rcases List.mem_append.mp hb with hb | hb
        · exact htrans _ _ _ hab (hmax b hb)
        · rw [← List.mem_singleton.mp hb]
          exact hab
      · exact hmax x hx
    · rename_i hab
      have hba : le b a = true := (htotal a b).resolve_left hab
      obtain ⟨front', m, heq, hlen, hperm, hmax⟩ := ih a
      refine ⟨b :: front', m, by rw [← List.cons_append, heq]; rfl, by simp [hlen],
        (hperm.cons b).trans (.swap a b front), ?_⟩
      intro x hx
      rcases List.mem_cons.mp hx with rfl | hx
      · have ha : a ∈ front' ++ [m] := hperm.symm.subset List.mem_cons_self
        rcases List.mem_append.mp ha with ha | ha
        · exact htrans _ _ _ hba (hmax a ha)
        · rw [← List.mem_singleton.mp ha]
          exact hba
      · exact hmax x hx

/-- Behind the elements still to be sorted lie sorted ones, none smaller. -/
theorem bubbleSort_split (front rest : List α) (hrest : rest.Pairwise fun a b => le a b = true)
    (hle : ∀ x ∈ front, ∀ y ∈ rest, le x y = true) :
    (bubbleSort le front.length (front ++ rest)).Pairwise fun a b => le a b = true := by
  induction hn : front.length generalizing front rest with
  | zero =>
    rw [List.length_eq_zero_iff.mp hn]
    exact hrest
  | succ n ih =>
    match front, hn with
    | a :: front, hn =>
      have hlen : front.length = n := by simpa using hn
      obtain ⟨front', m, heq, hlen', hperm, hmax⟩ := bubblePass_front htotal htrans a front rest
      change (bubbleSort le n (bubblePass le n _)).Pairwise _
      rw [← hlen, heq]
      have hm : m ∈ a :: front := hperm.subset (List.mem_append_right _ List.mem_cons_self)
      rw [hlen] at hlen' ⊢
      refine ih front' (m :: rest) ?_ ?_ hlen'
      · exact List.pairwise_cons.mpr ⟨hle m hm, hrest⟩
      · intro x hx y hy
        have hx' : x ∈ a :: front := hperm.subset (List.mem_append_left _ hx)
        rcases List.mem_cons.mp hy with rfl | hy
        · exact hmax x hx
        · exact hle x hx' y hy

theorem bubbleSort_pairwise (l : List α) :
    (bubbleSort le l.length l).Pairwise fun a b => le a b = true := by
  have h := bubbleSort_split htotal htrans l [] .nil fun x _ y hy => absurd hy List.not_mem_nil
  rwa [List.append_nil] at h

end BubbleSort
