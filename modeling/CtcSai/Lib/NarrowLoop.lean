/-
A loop whose index is narrower than its bound.

`loop w` walks an array by an index of `w` bits, calls its body on the item
at the index and stops at the first error; a run that is out of fuel has no
result.  `sweep` is what such a loop is for: every item once, in order, up to
the first error.  `loop_eq_sweep_iff` says when the loop is the sweep: when
the array is shorter than the range of the index, or the error comes before
the index starts again at zero.
-/
import Mathlib.Data.List.Nodup
import Mathlib.Data.BitVec

namespace NarrowLoop

variable {α σ ε : Type}

/-- What a loop leaves: the error it stopped at, the items, the state, and the
calls it made, each by the place of the item and the index it was told. -/
structure Out (α σ ε : Type) where
  error : Option ε
  items : List α
  state : σ
  calls : List (Nat × Nat)

/-- One call more, before the others. -/
def Out.after (o : Out α σ ε) (call : Nat × Nat) : Out α σ ε :=
  { o with calls := call :: o.calls }

/-- The items before those of a result. -/
def Out.behind (o : Out α σ ε) (pre : List α) : Out α σ ε :=
  { o with items := pre ++ o.items }

/-- The loop, by an index of `w` bits. -/
def loop (w count : Nat) (body : σ → α → Nat → Option ε × α × σ) :
    Nat → BitVec w → List α → σ → Option (Out α σ ε)
  | 0, _, _, _ => none
  | fuel + 1, i, items, s =>
    if i.toNat < count then
      match items[i.toNat]? with
      | none => none
      | some a =>
        match body s a i.toNat with
        | (some e, a, s) => some ⟨some e, items.set i.toNat a, s, [(i.toNat, i.toNat)]⟩
        | (none, a, s) =>
          (loop w count body fuel (i + 1) (items.set i.toNat a) s).map
            (fun o => o.after (i.toNat, i.toNat))
    else some ⟨none, items, s, []⟩

/-- Every item once, in order, from the index `i` on. -/
def sweep (body : σ → α → Nat → Option ε × α × σ) : Nat → List α → σ → Out α σ ε
  | _, [], s => ⟨none, [], s, []⟩
  | i, a :: rest, s =>
    match body s a i with
    | (some e, a, s) => ⟨some e, a :: rest, s, [(i, i)]⟩
    | (none, a, s) => ((sweep body (i + 1) rest s).behind [a]).after (i, i)

variable {w : Nat} {body : σ → α → Nat → Option ε × α × σ}

@[simp] theorem sweep_nil (i : Nat) (s : σ) : sweep body i [] s = ⟨none, [], s, []⟩ := rfl

theorem sweep_cons (i : Nat) (a : α) (rest : List α) (s : σ) : sweep body i (a :: rest) s =
    match body s a i with
    | (some e, a, s) => ⟨some e, a :: rest, s, [(i, i)]⟩
    | (none, a, s) => ((sweep body (i + 1) rest s).behind [a]).after (i, i) := rfl

theorem sweep_calls (i : Nat) (items : List α) (s : σ) :
    (sweep body i items s).calls.Nodup ∧ ∀ c ∈ (sweep body i items s).calls, i ≤ c.1 := by
  induction items generalizing i s with
  | nil => exact ⟨List.nodup_nil, nofun⟩
  | cons a rest ih =>
    rw [sweep_cons]
    split
    · exact ⟨List.nodup_singleton _, fun c hc => by rw [List.mem_singleton.mp hc]⟩
    next a' s' _ =>
    obtain ⟨hnodup, hle⟩ := ih (i + 1) s'
    constructor
    · refine List.nodup_cons.mpr ⟨fun hmem => ?_, hnodup⟩
      exact absurd (hle _ hmem) (Nat.not_succ_le_self i)
    · intro c hc
      rcases List.mem_cons.mp hc with rfl | hc
      · exact Nat.le_refl i
      · exact (Nat.le_succ i).trans (hle c hc)

theorem getElem?_behind (pre : List α) (a : α) (rest : List α) :
    (pre ++ a :: rest)[pre.length]? = some a := by
  simp

theorem set_behind (pre : List α) (a a' : α) (rest : List α) :
    (pre ++ a :: rest).set pre.length a' = (pre ++ [a']) ++ rest := by
  simp

theorem loop_turn {pre rest : List α} {a : α} {s : σ} {count : Nat} (fuel : Nat)
    (hlt : pre.length < 2 ^ w) (hcount : pre.length < count) :
    loop w count body (fuel + 1) (BitVec.ofNat w pre.length) (pre ++ a :: rest) s =
      match body s a pre.length with
      | (some e, a, s) => some ⟨some e, pre ++ a :: rest, s, [(pre.length, pre.length)]⟩
      | (none, a, s) =>
        (loop w count body fuel (BitVec.ofNat w (pre ++ [a]).length) ((pre ++ [a]) ++ rest) s).map
          (fun o => o.after (pre.length, pre.length)) := by
  have hi : (BitVec.ofNat w pre.length).toNat = pre.length := by
    rw [BitVec.toNat_ofNat, Nat.mod_eq_of_lt hlt]
  have hnext (a : α) : BitVec.ofNat w pre.length + 1 = BitVec.ofNat w (pre ++ [a]).length := by
    rw [List.length_append, BitVec.ofNat_add]
    rfl
  rw [loop, hi, if_pos hcount, getElem?_behind]
  dsimp only
  split
  · next e a' s' _ => simp
  · next a' s' _ => rw [set_behind, hnext a']

theorem loop_of_fits {rest : List α} : ∀ {pre : List α} {s : σ} {fuel : Nat}, rest.length < fuel →
      (pre.length + rest.length < 2 ^ w ∨ pre.length ≤ 2 ^ w ∧
        (sweep body pre.length (rest.take (2 ^ w - pre.length)) s).error.isSome) →
      loop w (pre.length + rest.length) body fuel (BitVec.ofNat w pre.length) (pre ++ rest) s =
        some ((sweep body pre.length rest s).behind pre) := by
  induction rest with
  | nil =>
    intro pre s fuel hfuel hfits
    obtain ⟨n, rfl⟩ := Nat.exists_eq_succ_of_ne_zero (Nat.ne_zero_of_lt hfuel)
    have hlt : pre.length < 2 ^ w := by
      rcases hfits with h | ⟨-, h⟩
      · exact h
      · simp at h
    refine if_neg (?_ : ¬ (BitVec.ofNat w pre.length).toNat < pre.length)
    rw [BitVec.toNat_ofNat, Nat.mod_eq_of_lt hlt]
    exact Nat.lt_irrefl _
  | cons a rest ih =>
    intro pre s fuel hfuel hfits
    obtain ⟨n, rfl⟩ := Nat.exists_eq_succ_of_ne_zero (Nat.ne_zero_of_lt hfuel)
    have hlt : pre.length < 2 ^ w := by
      rcases hfits with h | ⟨hle, h⟩
      · omega
      · refine lt_of_le_of_ne hle fun heq => ?_
        rw [heq, Nat.sub_self] at h
        cases h
    rw [loop_turn n hlt (by rw [List.length_cons]; omega)]
    rw [sweep_cons]
    generalize hb : body s a pre.length = r
    obtain ⟨e, a', s'⟩ := r
    cases e with
    | some e => rfl
    | none =>
      dsimp only
      have hlen : (pre ++ [a']).length = pre.length + 1 := List.length_append
      have hfits' : (pre ++ [a']).length + rest.length < 2 ^ w ∨
          (pre ++ [a']).length ≤ 2 ^ w ∧
            (sweep body (pre ++ [a']).length
              (rest.take (2 ^ w - (pre ++ [a']).length)) s').error.isSome := by
        rw [hlen]
        rcases hfits with h | ⟨-, h⟩
        · rw [List.length_cons] at h
          omega
        right
        refine ⟨hlt, ?_⟩
        obtain ⟨k, hk⟩ : ∃ k, 2 ^ w - pre.length = k + 1 :=
          ⟨2 ^ w - pre.length - 1, by omega⟩
        rw [hk, List.take_succ_cons, sweep_cons, hb] at h
        have hk' : 2 ^ w - (pre.length + 1) = k := by omega
        rw [hk']
        exact h
      have hrest := ih (Nat.lt_of_succ_lt_succ hfuel) hfits'
      have hsum : pre.length + (a :: rest).length = (pre ++ [a']).length + rest.length := by
        rw [List.length_cons]
        omega
      rw [hsum, hrest]
      simp [Out.behind, Out.after]

theorem loop_restarts {count fuel : Nat} (hcount : 2 ^ w ≤ count) {pre rest : List α} {s : σ}
    {o : Out α σ ε} (heq : pre.length = 2 ^ w)
    (h : loop w count body fuel (BitVec.ofNat w pre.length) (pre ++ rest) s = some o) :
    (0, 0) ∈ o.calls := by
  have hpos := Nat.two_pow_pos w
  cases fuel with
  | zero => cases h
  | succ n =>
    obtain ⟨a, l, hitems⟩ : ∃ a l, pre ++ rest = a :: l :=
      List.exists_cons_of_length_pos (by rw [List.length_append]; omega)
    have hzero : BitVec.ofNat w pre.length = BitVec.ofNat w ([] : List α).length := by
      apply BitVec.eq_of_toNat_eq
      rw [BitVec.toNat_ofNat, BitVec.toNat_ofNat, heq, Nat.mod_self]
      exact (Nat.zero_mod _).symm
    rw [hzero, hitems, ← List.nil_append (a :: l), loop_turn n hpos (hpos.trans_le hcount)] at h
    split at h
    · cases h
      exact List.mem_cons_self
    · obtain ⟨o', -, rfl⟩ := Option.map_eq_some_iff.mp h
      exact List.mem_cons_self

theorem loop_wraps {rest : List α} {count : Nat} (hcount : 2 ^ w ≤ count) :
    ∀ {pre : List α} {s : σ} {fuel : Nat} {o : Out α σ ε}, pre.length ≤ 2 ^ w →
      2 ^ w ≤ pre.length + rest.length →
      (sweep body pre.length (rest.take (2 ^ w - pre.length)) s).error = none →
      loop w count body fuel (BitVec.ofNat w pre.length) (pre ++ rest) s = some o →
      (0, 0) ∈ o.calls := by
  induction rest with
  | nil =>
    intro pre s fuel o hle hlen _ h
    have heq : pre.length = 2 ^ w := Nat.le_antisymm hle (by simpa using hlen)
    exact loop_restarts hcount heq h
  | cons a rest ih =>
    intro pre s fuel o hle hlen herr h
    rcases hle.eq_or_lt with heq | hlt
    · exact loop_restarts hcount heq h
    cases fuel with
    | zero => cases h
    | succ n =>
      rw [loop_turn n hlt (hlt.trans_le hcount)] at h
      obtain ⟨k, hk⟩ : ∃ k, 2 ^ w - pre.length = k + 1 :=
        ⟨2 ^ w - pre.length - 1, by omega⟩
      rw [hk, List.take_succ_cons, sweep_cons] at herr
      generalize body s a pre.length = r at h herr
      obtain ⟨e, a', s'⟩ := r
      cases e with
      | some e => cases herr
      | none =>
        obtain ⟨o', ho, rfl⟩ := Option.map_eq_some_iff.mp h
        have hl : (pre ++ [a']).length = pre.length + 1 := List.length_append
        have hk' : 2 ^ w - (pre ++ [a']).length = k := by
          omega
        refine List.mem_cons_of_mem _ (ih ?_ ?_ ?_ ho)
        · rw [hl]
          exact hlt
        · rw [List.length_cons] at hlen
          omega
        · rw [hk', hl]
          exact herr

theorem loop_eq_sweep_iff (items : List α) (s : σ) :
    (∃ fuel, loop w items.length body fuel 0 items s = some (sweep body 0 items s)) ↔
      items.length < 2 ^ w ∨ (sweep body 0 (items.take (2 ^ w)) s).error.isSome := by
  constructor
  · rintro ⟨fuel, h⟩
    by_contra hno
    rw [not_or, Nat.not_lt, Option.not_isSome_iff_eq_none] at hno
    obtain ⟨hlen, herr⟩ := hno
    cases items with
    | nil => exact absurd hlen (Nat.not_le.mpr (Nat.two_pow_pos w))
    | cons a rest =>
      cases fuel with
      | zero => cases h
      | succ n =>
        have hturn := @loop_turn α σ ε w body [] rest a s (a :: rest).length n
          (Nat.two_pow_pos w) (Nat.succ_pos _)
        have hstart : loop w (a :: rest).length body (n + 1) (BitVec.ofNat w 0) (a :: rest) s =
            some (sweep body 0 (a :: rest) s) := h
        rw [List.length_nil, List.nil_append] at hturn
        rw [hturn, sweep_cons] at hstart
        obtain ⟨k, hk⟩ : ∃ k, 2 ^ w = k + 1 :=
          ⟨2 ^ w - 1, (Nat.sub_add_cancel (Nat.two_pow_pos w)).symm⟩
        rw [hk, List.take_succ_cons, sweep_cons] at herr
        generalize body s a 0 = r at hstart herr
        obtain ⟨e, a', s'⟩ := r
        cases e with
        | some e => cases herr
        | none =>
          obtain ⟨o, ho, hoeq⟩ := Option.map_eq_some_iff.mp hstart
          have hpos := Nat.two_pow_pos w
          have hagain : (0, 0) ∈ o.calls := by
            refine @loop_wraps α σ ε w body rest _ hlen [a'] s' n o hpos ?_ ?_ ho
            · simpa [Nat.add_comm] using hlen
            · have hk' : 2 ^ w - [a'].length = k := by simp [hk]
              rw [hk']
              exact herr
          have hcalls : o.calls = (sweep body 1 rest s').calls :=
            (List.cons.inj (congrArg Out.calls hoeq)).2
          rw [hcalls] at hagain
          exact absurd ((sweep_calls 1 rest s').2 _ hagain) (by decide)
  · intro hfits
    refine ⟨items.length + 1, ?_⟩
    have hloop := @loop_of_fits α σ ε w body items [] s (items.length + 1) (Nat.lt_succ_self _)
    simp only [List.length_nil, Nat.zero_add, Nat.zero_le, true_and, Nat.sub_zero,
      List.nil_append] at hloop
    exact hloop hfits

end NarrowLoop
