/-
Reading a text through a bounded buffer.

`fgets` fills a buffer of `n` places up to the end of the line or of the
text; `chunks` is what the calls return until the text is used up.  A line
longer than the buffer comes back in several chunks, so chunks are not lines;
but no chunk crosses the end of a line: `chunks_flatten` reads a text line by
line.
-/
import Mathlib.Data.List.Basic

namespace LineReader

variable {α : Type} [DecidableEq α] (e : α) (n : Nat)

/-- One call: what it copies, and what it leaves. -/
def fgets : Nat → List α → List α × List α
  | 0, s => ([], s)
  | _ + 1, [] => ([], [])
  | n + 1, c :: s =>
    if c = e then ([c], s)
    else
      let r := fgets n s
      (c :: r.1, r.2)

/-- What the first calls copy, at most `fuel` of them. -/
def reads : Nat → List α → List (List α)
  | 0, _ => []
  | _ + 1, [] => []
  | fuel + 1, c :: s => (fgets e n (c :: s)).1 :: reads fuel (fgets e n (c :: s)).2

/-- What the calls copy until the text is used up. -/
def chunks (s : List α) : List (List α) := reads e n s.length s

/-- The lines of a text, each with its end. -/
def lines : List α → List (List α)
  | [] => []
  | c :: s =>
    if c = e then [c] :: lines s
    else
      match lines s with
      | [] => [[c]]
      | l :: ls => (c :: l) :: ls

/-- Lines one after another; the last one may lack its end. -/
inductive IsLines : List (List α) → Prop where
  | nil : IsLines []
  | last {a : List α} (ne : a ≠ []) (h : e ∉ a) : IsLines [a]
  | cons {a : List α} {ls : List (List α)} (h : e ∉ a) (hls : IsLines ls) :
      IsLines ((a ++ [e]) :: ls)

variable {e n}
variable {ls : List (List α)} {l a : List α}

theorem lines_cons (c : α) (s : List α) : lines e (c :: s) =
    if c = e then [c] :: lines e s
    else
      match lines e s with
      | [] => [[c]]
      | l :: ls => (c :: l) :: ls := rfl

theorem isLines_lines (s : List α) : IsLines e (lines e s) := by
  induction s with
  | nil => exact .nil
  | cons c s ih =>
    rw [lines_cons]
    split
    · next hc =>
      subst hc
      exact .cons (a := []) (by simp) ih
    next hc =>
    have hne : e ≠ c := fun h => hc h.symm
    split
    · exact .last (by simp) (by simp [hne])
    next heq =>
    rw [heq] at ih
    cases ih with
    | last ne h => exact .last (by simp) (by simp [hne, h])
    | cons h hls => exact .cons (a := c :: _) (by simp [hne, h]) hls

theorem flatten_lines (s : List α) : (lines e s).flatten = s := by
  induction s with
  | nil => rfl
  | cons c s ih =>
    rw [lines_cons]
    split
    · simp [ih]
    split
    · next heq =>
      rw [heq] at ih
      simp [← ih]
    · next heq =>
      rw [heq] at ih
      simp [← ih]

theorem lines_flatten (h : IsLines e ls) : lines e ls.flatten = ls := by
  have hline : ∀ {a : List α}, e ∉ a → ∀ s : List α,
      lines e (a ++ e :: s) = (a ++ [e]) :: lines e s := by
    intro a ha s
    induction a with
    | nil => simp [lines_cons]
    | cons c a ih =>
      simp only [List.mem_cons, not_or] at ha
      simp [lines_cons, Ne.symm ha.1, ih ha.2]
  induction h with
  | nil => rfl
  | @last a ne h =>
    simp only [List.flatten_cons, List.flatten_nil, List.append_nil]
    induction a with
    | nil => exact absurd rfl ne
    | cons c a ih =>
      simp only [List.mem_cons, not_or] at h
      cases a with
      | nil => exact if_neg (Ne.symm h.1)
      | cons d a =>
        rw [lines_cons, if_neg (Ne.symm h.1), ih (by simp) h.2]
  | @cons a ls h hls ih =>
    have hflat : ((a ++ [e]) :: ls).flatten = a ++ e :: ls.flatten := by simp
    rw [hflat, hline h, ih]

omit [DecidableEq α] in
theorem IsLines.filter (h : IsLines e ls) (p : List α → Bool) : IsLines e (ls.filter p) := by
  induction h with
  | nil => exact .nil
  | @last a ne h =>
    cases hp : p a with
    | true =>
      rw [List.filter_cons_of_pos hp]
      exact .last ne h
    | false =>
      rw [List.filter_cons_of_neg (by simp [hp])]
      exact .nil
  | @cons a ls h _ ih =>
    cases hp : p (a ++ [e]) with
    | true =>
      rw [List.filter_cons_of_pos hp]
      exact .cons h ih
    | false =>
      rw [List.filter_cons_of_neg (by simp [hp])]
      exact ih

omit [DecidableEq α] in
theorem IsLines.append {ls' : List (List α)} (h : ∀ l ∈ ls, ∃ a, e ∉ a ∧ l = a ++ [e])
    (h' : IsLines e ls') : IsLines e (ls ++ ls') := by
  induction ls with
  | nil => exact h'
  | cons l ls ih =>
    obtain ⟨a, ha, rfl⟩ := h l (List.mem_cons_self ..)
    exact .cons ha (ih (fun l hl => h l (List.mem_cons_of_mem _ hl)))

omit [DecidableEq α] in
/-- A line ends in `e`, unless it is the last. -/
theorem IsLines.line (before after : List (List α)) (h : IsLines e (before ++ l :: after)) :
    ∃ a, e ∉ a ∧ (l = a ++ [e] ∨ l = a ∧ after = []) := by
  induction before with
  | nil =>
    cases h with
    | last ne h => exact ⟨l, h, .inr ⟨rfl, rfl⟩⟩
    | cons h _ => exact ⟨_, h, .inl rfl⟩
  | cons b before ih =>
    cases h' : before ++ l :: after with
    | nil => simp at h'
    | cons x xs =>
      rw [List.cons_append, h'] at h
      cases h with
      | cons _ hls => exact ih (h' ▸ hls)

omit [DecidableEq α] in
theorem IsLines.ne_nil (h : IsLines e ls) (hl : l ∈ ls) : l ≠ [] := by
  induction h with
  | nil => cases hl
  | last ne _ =>
    rw [List.mem_singleton] at hl
    exact hl ▸ ne
  | cons _ _ ih =>
    rcases List.mem_cons.mp hl with rfl | hl
    · simp
    · exact ih hl

omit [DecidableEq α] in
theorem IsLines.single (h : IsLines e ls) (hl : l ∈ ls) : IsLines e [l] := by
  induction h with
  | nil => cases hl
  | last ne h =>
    rw [List.mem_singleton] at hl
    exact hl ▸ .last ne h
  | cons h _ ih =>
    rcases List.mem_cons.mp hl with rfl | hl
    · exact .cons h .nil
    · exact ih hl

/-! ## One call -/

@[simp] theorem fgets_zero (s : List α) : fgets e 0 s = ([], s) := rfl

@[simp] theorem fgets_nil (n : Nat) : fgets e n [] = ([], []) := by
  cases n with
  | zero => rfl
  | succ n => rfl

theorem fgets_cons (n : Nat) (c : α) (s : List α) : fgets e (n + 1) (c :: s) =
    if c = e then ([c], s) else (c :: (fgets e n s).1, (fgets e n s).2) := rfl

theorem fgets_append (n : Nat) (s : List α) : (fgets e n s).1 ++ (fgets e n s).2 = s := by
  induction n generalizing s with
  | zero => rfl
  | succ n ih =>
    cases s with
    | nil => rfl
    | cons c s =>
      rw [fgets_cons]
      split
      · rfl
      · simp [ih s]

/-- What a call leaves starts where its copy ends. -/
theorem drop_length_fgets (n : Nat) (s : List α) :
    s.drop (fgets e n s).1.length = (fgets e n s).2 := by
  conv_lhs => arg 2; rw [← fgets_append (e := e) n s]
  simp

theorem fgets_ne_nil (c : α) (s : List α) : (fgets e (n + 1) (c :: s)).1 ≠ [] := by
  rw [fgets_cons]
  split
  · simp
  · simp

theorem length_fgets_lt (c : α) (s : List α) : (fgets e (n + 1) (c :: s)).2.length ≤ s.length := by
  have happ := congrArg List.length (fgets_append (e := e) (n + 1) (c :: s))
  have hpos := List.length_pos_iff.mpr (fgets_ne_nil (e := e) (n := n) c s)
  rw [List.length_append, List.length_cons] at happ
  omega

theorem length_fgets_le (n : Nat) (s : List α) : (fgets e n s).1.length ≤ n := by
  induction n generalizing s with
  | zero => simp
  | succ n ih =>
    cases s with
    | nil => simp
    | cons c s =>
      rw [fgets_cons]
      split
      · simp
      · simpa using ih s

/-- A call with room behind a text without an end goes on there. -/
theorem fgets_pass (h : e ∉ a) (n : Nat) (s : List α) :
    fgets e (a.length + n) (a ++ s) = (a ++ (fgets e n s).1, (fgets e n s).2) := by
  induction a with
  | nil => simp
  | cons c a ih =>
    have hc : c ≠ e := by
      rintro rfl
      exact h (by simp)
    have hrec := ih (by simp at h; exact h.2)
    rw [List.length_cons, Nat.succ_add, List.cons_append]
    simp [fgets_cons, hc, hrec]

theorem fgets_short (h : e ∉ a) (hlen : a.length < n) (r : List α) :
    fgets e n (a ++ e :: r) = (a ++ [e], r) := by
  obtain ⟨k, rfl⟩ := Nat.exists_eq_add_of_lt hlen
  rw [Nat.add_assoc, fgets_pass h]
  simp [fgets_cons]

theorem fgets_last (h : e ∉ a) (hlen : a.length < n) : fgets e n a = (a, []) := by
  obtain ⟨k, rfl⟩ := Nat.exists_eq_add_of_lt hlen
  have hpass := fgets_pass h (k + 1) []
  rwa [fgets_nil, List.append_nil, ← Nat.add_assoc] at hpass

theorem fgets_long (h : e ∉ a) (hlen : n ≤ a.length) (r : List α) :
    fgets e n (a ++ r) = (a.take n, a.drop n ++ r) := by
  have hno : e ∉ a.take n := fun hm => h (List.mem_of_mem_take hm)
  have hpass := fgets_pass hno 0 (a.drop n ++ r)
  rwa [List.length_take_of_le hlen, ← List.append_assoc, List.take_append_drop, fgets_zero,
    List.append_nil] at hpass

/-- The first call on a line copies as much of it as there is room for. -/
theorem IsLines.fgets_eq (before after : List (List α)) (h : IsLines e (before ++ l :: after))
    (n : Nat) :
    (fgets e n (l ++ after.flatten)).1 = l.take n := by
  obtain ⟨a, ha, hl⟩ := h.line before after
  by_cases hlen : n ≤ a.length
  · rcases hl with rfl | ⟨rfl, rfl⟩
    · rw [List.append_assoc, fgets_long ha hlen, List.take_append_of_le_length hlen]
    · rw [fgets_long ha hlen]
  · rcases hl with rfl | ⟨rfl, rfl⟩
    · rw [List.append_assoc, List.singleton_append, fgets_short ha (by omega),
        List.take_of_length_le (by simp; omega)]
    · rw [List.flatten_nil, List.append_nil, fgets_last ha (by omega),
        List.take_of_length_le (by omega)]

/-! ## All calls -/

theorem reads_cons (fuel : Nat) (c : α) (s : List α) : reads e n (fuel + 1) (c :: s) =
    (fgets e n (c :: s)).1 :: reads e n fuel (fgets e n (c :: s)).2 := rfl

theorem reads_fuel {fuel fuel' : Nat} {s : List α} (h : s.length ≤ fuel)
    (h' : s.length ≤ fuel') : reads e (n + 1) fuel s = reads e (n + 1) fuel' s := by
  induction fuel generalizing fuel' s with
  | zero =>
    obtain rfl : s = [] := by simpa using h
    cases fuel' with
    | zero => rfl
    | succ fuel' => rfl
  | succ fuel ih =>
    cases s with
    | nil =>
      cases fuel' with
      | zero => rfl
      | succ fuel' => rfl
    | cons c s =>
      obtain ⟨fuel', rfl⟩ : ∃ k, fuel' = k + 1 := ⟨fuel' - 1, by simp at h'; omega⟩
      have hlt := length_fgets_lt (e := e) (n := n) c s
      have hs : s.length ≤ fuel := by simpa using h
      have hs' : s.length ≤ fuel' := by simpa using h'
      rw [reads_cons, reads_cons, ih (Nat.le_trans hlt hs) (Nat.le_trans hlt hs')]

@[simp] theorem chunks_nil : chunks e n [] = [] := rfl

theorem chunks_eq {s : List α} (hn : 0 < n) (hs : s ≠ []) :
    chunks e n s = (fgets e n s).1 :: chunks e n (fgets e n s).2 := by
  obtain ⟨n, rfl⟩ : ∃ k, n = k + 1 := ⟨n - 1, by omega⟩
  cases s with
  | nil => exact absurd rfl hs
  | cons c s =>
    have hlt := length_fgets_lt (e := e) (n := n) c s
    rw [chunks, List.length_cons, reads_cons, reads_fuel hlt (Nat.le_refl _)]
    rfl

/-- A line that fits the buffer is one chunk. -/
theorem chunks_single (h : IsLines e [l]) (hlen : l.length ≤ n) : chunks e n l = [l] := by
  have hne : l ≠ [] := h.ne_nil (List.mem_singleton_self l)
  have hn : 0 < n := Nat.lt_of_lt_of_le (List.length_pos_iff.mpr hne) hlen
  have hone : (fgets e n l).1 = l := by
    have htake := IsLines.fgets_eq [] [] h n
    rwa [List.flatten_nil, List.append_nil, List.take_of_length_le hlen] at htake
  have hrest : (fgets e n l).2 = [] := by
    have happ := fgets_append (e := e) n l
    rw [hone] at happ
    simpa using happ
  rw [chunks_eq hn hne, hone, hrest, chunks_nil]

theorem chunks_append (hn : 0 < n) (h : e ∉ a) (r : List α) :
    chunks e n (a ++ e :: r) = chunks e n (a ++ [e]) ++ chunks e n r := by
  induction hk : a.length using Nat.strongRecOn generalizing a with
  | ind k ih =>
    subst hk
    rw [chunks_eq hn (by simp), chunks_eq hn (s := a ++ [e]) (by simp)]
    by_cases hlen : a.length < n
    · rw [fgets_short h hlen, fgets_short h hlen]
      simp
    have hle : n ≤ a.length := by omega
    have hdrop : e ∉ a.drop n := fun hm => h (List.mem_of_mem_drop hm)
    have hlt : (a.drop n).length < a.length := by
      rw [List.length_drop]
      omega
    rw [fgets_long h hle, fgets_long h hle]
    simp [ih _ hlt hdrop rfl]

theorem chunks_flatten (hn : 0 < n) (h : IsLines e ls) :
    chunks e n ls.flatten = ls.flatMap (chunks e n) := by
  induction h with
  | nil => rfl
  | last ne h => simp
  | @cons a ls h hls ih =>
    have hflat : ((a ++ [e]) :: ls).flatten = a ++ e :: ls.flatten := by simp
    rw [hflat, chunks_append hn h, ih]
    rfl

theorem chunks_line (hn : 0 < n) (h : e ∉ a) :
    ∃ full rest, chunks e n (a ++ [e]) = full ++ [rest] ∧ (∀ c ∈ full, c.length = n) ∧
      a ++ [e] = full.flatten ++ rest := by
  induction hk : a.length using Nat.strongRecOn generalizing a with
  | ind k ih =>
    subst hk
    rw [chunks_eq hn (by simp)]
    by_cases hlen : a.length < n
    · refine ⟨[], a ++ [e], ?_, by simp, by simp⟩
      rw [fgets_short h hlen]
      rfl
    have hle : n ≤ a.length := by omega
    have hdrop : e ∉ a.drop n := fun hm => h (List.mem_of_mem_drop hm)
    have hlt : (a.drop n).length < a.length := by
      rw [List.length_drop]
      omega
    obtain ⟨full, rest, hch, hfull, hflat⟩ := ih _ hlt hdrop rfl
    refine ⟨a.take n :: full, rest, ?_, ?_, ?_⟩
    · rw [fgets_long h hle]
      simp [hch]
    · intro c hc
      rcases List.mem_cons.mp hc with rfl | hc
      · simp [hle]
      · exact hfull c hc
    · calc a ++ [e]
          _ = a.take n ++ (a.drop n ++ [e]) := by
              rw [← List.append_assoc, List.take_append_drop]
          _ = (a.take n :: full).flatten ++ rest := by rw [hflat]; simp

end LineReader
