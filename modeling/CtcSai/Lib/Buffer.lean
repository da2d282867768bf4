/-
Memory as a function from positions, and what two copies leave of it.

`memcpy` writes a list at a position and `slice` reads one back.  A buffer of
records of one length is written record by record (`records_memcpy`) or all
at once (`records_memcpy_flatten`), and read back as it was written.
-/
import Mathlib.Data.List.Basic

namespace Buffer

variable {α : Type}

/-- Copies `bs` to the positions from `off` on. -/
def memcpy (buf : Nat → α) (off : Nat) (bs : List α) : Nat → α :=
  fun i => if off ≤ i then (bs[i - off]?).getD (buf i) else buf i

/-- Reads `len` positions from `off` on. -/
def slice (buf : Nat → α) (off len : Nat) : List α := (List.range len).map fun i => buf (off + i)

/-- The first `cnt` records of length `len`. -/
def records (buf : Nat → α) (len cnt : Nat) : List (List α) :=
  (List.range cnt).map fun i => slice buf (i * len) len

@[simp] theorem length_slice (buf : Nat → α) (off len : Nat) : (slice buf off len).length = len := by
  simp [slice]

@[simp] theorem records_zero (buf : Nat → α) (len : Nat) : records buf len 0 = [] := rfl

@[simp] theorem memcpy_nil (buf : Nat → α) (off : Nat) : memcpy buf off [] = buf := by
  funext i
  simp [memcpy]

theorem memcpy_append (buf : Nat → α) (off : Nat) (a b : List α) :
    memcpy (memcpy buf off a) (off + a.length) b = memcpy buf off (a ++ b) := by
  funext i
  simp only [memcpy]
  by_cases hoff : off ≤ i
  · by_cases ha : off + a.length ≤ i
    · have hright : (a ++ b)[i - off]? = b[i - (off + a.length)]? := by
        rw [List.getElem?_append_right (by omega), Nat.sub_sub]
      have hnone : a[i - off]? = none := List.getElem?_eq_none (by omega)
      rw [if_pos ha, if_pos hoff, if_pos hoff, hright, hnone, Option.getD_none]
    · rw [if_neg ha, if_pos hoff, if_pos hoff, List.getElem?_append_left (by omega)]
  · have ha : ¬ off + a.length ≤ i := by omega
    rw [if_neg ha, if_neg hoff, if_neg hoff]

theorem slice_append (buf : Nat → α) (off a b : Nat) :
    slice buf off (a + b) = slice buf off a ++ slice buf (off + a) b := by
  simp [slice, List.range_add, Nat.add_assoc]

theorem slice_memcpy_self (buf : Nat → α) (off : Nat) (bs : List α) :
    slice (memcpy buf off bs) off bs.length = bs := by
  apply List.ext_getElem
  · simp
  · intro i h _
    have hi : i < bs.length := by simpa using h
    simp [slice, memcpy, hi]

theorem slice_memcpy_take (buf : Nat → α) (off : Nat) {n : Nat} {bs : List α} (h : n ≤ bs.length) :
    slice (memcpy buf off bs) off n = bs.take n := by
  have hall := slice_memcpy_self buf off bs
  rw [← Nat.add_sub_cancel' h, slice_append] at hall
  rw [← hall, List.take_left' (length_slice ..), hall]

theorem slice_congr {buf buf' : Nat → α} {off len : Nat}
    (h : ∀ i, off ≤ i → i < off + len → buf i = buf' i) : slice buf off len = slice buf' off len := by
  apply List.map_congr_left
  intro i hi
  rw [List.mem_range] at hi
  exact h (off + i) (by omega) (by omega)

theorem slice_memcpy_before (buf : Nat → α) {off off' len : Nat} (bs : List α)
    (h : off' + len ≤ off) : slice (memcpy buf off bs) off' len = slice buf off' len := by
  apply slice_congr
  intro i _ hi
  have hlt : ¬ off ≤ i := by omega
  simp [memcpy, hlt]

theorem records_succ (buf : Nat → α) (len cnt : Nat) :
    records buf len (cnt + 1) = records buf len cnt ++ [slice buf (cnt * len) len] := by
  simp [records, List.range_succ]

theorem records_memcpy_before (buf : Nat → α) {len cnt off : Nat} (bs : List α)
    (h : cnt * len ≤ off) : records (memcpy buf off bs) len cnt = records buf len cnt := by
  apply List.map_congr_left
  intro i hi
  rw [List.mem_range] at hi
  have hle : (i + 1) * len ≤ cnt * len := Nat.mul_le_mul_right _ hi
  rw [Nat.add_mul] at hle
  exact slice_memcpy_before buf bs (by omega)

theorem records_memcpy (buf : Nat → α) (cnt : Nat) {len : Nat} {a b : List α}
    (h : a.length + b.length = len) :
    records (memcpy (memcpy buf (cnt * len) a) (cnt * len + a.length) b) len (cnt + 1) =
      records buf len cnt ++ [a ++ b] := by
  rw [records_succ, records_memcpy_before _ _ (Nat.le_add_right _ _),
    records_memcpy_before _ _ (Nat.le_refl _), ← h, slice_append, slice_memcpy_self,
    slice_memcpy_before _ _ (Nat.le_refl _), slice_memcpy_self]

theorem slices_memcpy_flatten {len : Nat} {bs : List (List α)} (h : ∀ b ∈ bs, b.length = len)
    (buf : Nat → α) (off : Nat) :
    (List.range bs.length).map (fun i => slice (memcpy buf off bs.flatten) (off + i * len) len) =
      bs := by
  induction bs generalizing off with
  | nil => rfl
  | cons b bs ih =>
    have hb : b.length = len := h b (List.mem_cons_self ..)
    have htail : ∀ i, slice (memcpy buf off (b ++ bs.flatten)) (off + (i + 1) * len) len =
        slice (memcpy buf (off + len) bs.flatten) (off + len + i * len) len := by
      intro i
      have hoff : off + (i + 1) * len = off + len + i * len := by
        rw [Nat.add_mul]
        omega
      rw [hoff]
      apply slice_congr
      intro j hj _
      have h1 : off ≤ j := by omega
      have h2 : off + len ≤ j := by omega
      have h3 : b.length ≤ j - off := by omega
      have h4 : j - off - b.length = j - (off + len) := by omega
      simp [memcpy, h1, h2, List.getElem?_append_right h3, h4]
    have hhead : slice (memcpy buf off (b ++ bs.flatten)) off len = b := by
      apply List.ext_getElem
      · simp [hb]
      · intro i h1 h2
        simp [slice, memcpy, List.getElem?_append_left h2, h2]
    rw [List.length_cons, List.range_succ_eq_map, List.map_cons, List.map_map,
      List.flatten_cons, Nat.zero_mul, Nat.add_zero, hhead]
    refine congrArg (b :: ·) (Eq.trans (List.map_congr_left ?_)
      (ih (fun c hc => h c (List.mem_cons_of_mem _ hc)) (off + len)))
    intro i _
    exact htail i

theorem records_memcpy_flatten (buf : Nat → α) {len : Nat} {bs : List (List α)}
    (h : ∀ b ∈ bs, b.length = len) : records (memcpy buf 0 bs.flatten) len bs.length = bs := by
  simpa [records] using slices_memcpy_flatten h buf 0

end Buffer
