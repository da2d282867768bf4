/-
A ledger of ids — who holds which id, and taking ids again by number.

`hold k = some i` says that `k` holds the id `i`.  A ledger balances when the
ids in use are those held, each by one holder.  It is kept by a change of one
holder that takes a fresh id, gives its id back, or keeps it (`Trades`).

After a restart the ids are taken again by number, object after object, and
an object whose id is not free leaves out what comes after it.
`reserveEach_restores` says when nothing is left out: when every id but the
last of each object is asked for once.
-/
import CtcSai.Lib.Ownership
import Mathlib.Data.List.Count

namespace Ledger

open Function IdPool Ownership

variable {K : Type}

/-- The ids in use are the ids held, and no two hold the same. -/
structure Balanced (hold : K → Option Nat) (used : Finset Nat) : Prop where
  held : ∀ k i, hold k = some i → i ∈ used
  inj : ∀ k k' i, hold k = some i → hold k' = some i → k = k'
  owned : ∀ i ∈ used, ∃ k, hold k = some i

/-- What one holder may do. -/
inductive Trades (old new : Option Nat) (used used' : Finset Nat) : Prop where
  | keep : new = old → used' = used → Trades old new used used'
  | take (i : Nat) : old = none → new = some i → i ∉ used → used' = insert i used →
      Trades old new used used'
  | give (i : Nat) : old = some i → new = none → used' = used.erase i → Trades old new used used'

theorem Balanced.empty : Balanced (fun _ : K => none) ∅ where
  held k i h := by cases h
  inj k k' i h := by cases h
  owned i h := absurd h (Finset.notMem_empty i)

theorem Balanced.trade {hold hold' : K → Option Nat} {used used' : Finset Nat}
    (h : Balanced hold used) (k : K) (hother : ∀ a, a ≠ k → hold' a = hold a)
    (ht : Trades (hold k) (hold' k) used used') : Balanced hold' used' := by
  cases ht with
  | keep hk hu =>
    have hsame : hold' = hold := by
      funext a
      by_cases ha : a = k
      · rw [ha, hk]
      · exact hother a ha
    rw [hsame, hu]
    exact h
  | take i hold0 hnew hfresh hu =>
    subst hu
    have hback : ∀ a j, hold' a = some j → a = k ∧ j = i ∨ a ≠ k ∧ hold a = some j := by
      intro a j hj
      by_cases ha : a = k
      · rw [ha, hnew] at hj
        exact .inl ⟨ha, (Option.some.inj hj).symm⟩
      · exact .inr ⟨ha, (hother a ha).symm.trans hj⟩
    refine ⟨fun a j hj => ?_, fun a b j ha hb => ?_, fun j hj => ?_⟩
    · rcases hback a j hj with ⟨_, rfl⟩ | ⟨_, hj⟩
      · exact Finset.mem_insert_self _ _
      · exact Finset.mem_insert_of_mem (h.held a j hj)
    · rcases hback a j ha with ⟨ha', rfl⟩ | ⟨_, ha'⟩
      · rcases hback b j hb with ⟨hb', _⟩ | ⟨_, hb'⟩
        · rw [ha', hb']
        · exact absurd (h.held b j hb') hfresh
      · rcases hback b j hb with ⟨_, rfl⟩ | ⟨_, hb'⟩
        · exact absurd (h.held a j ha') hfresh
        · exact h.inj a b j ha' hb'
    · rcases Finset.mem_insert.mp hj with rfl | hj
      · exact ⟨k, hnew⟩
      · obtain ⟨a, ha⟩ := h.owned j hj
        refine ⟨a, (hother a ?_).trans ha⟩
        rintro rfl
        rw [hold0] at ha
        cases ha
  | give i hold0 hnew hu =>
    subst hu
    have hback : ∀ a j, hold' a = some j → a ≠ k ∧ hold a = some j := by
      intro a j hj
      have ha : a ≠ k := by
        rintro rfl
        rw [hnew] at hj
        cases hj
      exact ⟨ha, (hother a ha).symm.trans hj⟩
    refine ⟨fun a j hj => ?_, fun a b j ha hb => ?_, fun j hj => ?_⟩
    · obtain ⟨ha, hj⟩ := hback a j hj
      refine Finset.mem_erase.mpr ⟨?_, h.held a j hj⟩
      rintro rfl
      exact ha (h.inj a k j hj hold0)
    · exact h.inj a b j (hback a j ha).2 (hback b j hb).2
    · obtain ⟨hne, hj⟩ := Finset.mem_erase.mp hj
      obtain ⟨a, ha⟩ := h.owned j hj
      refine ⟨a, (hother a ?_).trans ha⟩
      rintro rfl
      rw [hold0] at ha
      exact hne (Option.some.inj ha).symm

theorem Balanced.take [DecidableEq K] {hold : K → Option Nat} {used : Finset Nat}
    (h : Balanced hold used) {k : K} {i : Nat} (hk : hold k = none) (hi : i ∉ used) :
    Balanced (update hold k (some i)) (insert i used) :=
  h.trade k (fun _ ha => update_of_ne ha _ _) (.take i hk (update_self ..) hi rfl)

theorem Balanced.give [DecidableEq K] {hold : K → Option Nat} {used : Finset Nat}
    (h : Balanced hold used) {k : K} {i : Nat} (hk : hold k = some i) :
    Balanced (update hold k none) (used.erase i) :=
  h.trade k (fun _ ha => update_of_ne ha _ _) (.give i hk (update_self ..) rfl)

/-- The id that a field holds: `0` is none. -/
def idAt (i : Nat) : Option Nat := if i = 0 then none else some i

theorem idAt_eq_some {i j : Nat} : idAt i = some j ↔ i = j ∧ j ≠ 0 := by
  unfold idAt
  split
  · next h => simp only [reduceCtorEq, false_iff]; rintro ⟨rfl, hj⟩; exact hj h
  · next h => rw [Option.some.injEq]; exact ⟨fun he => ⟨he, he ▸ h⟩, fun he => he.1⟩

theorem trades_of_moves {old new : Nat} {u v : Finset Nat} (h0 : 0 ∉ u) (h : Moves old new u v) :
    Trades (idAt old) (idAt new) u v := by
  cases h with
  | keep hnew hv => exact .keep (congrArg idAt hnew) hv
  | take hold hnew hfresh hv => exact .take new (if_pos hold) (if_neg hnew) hfresh hv
  | give hnew hv =>
    by_cases hold : old = 0
    · refine .keep (by rw [hnew, hold]) ?_
      rw [hv, hold, Finset.erase_eq_of_notMem h0]
    · exact .give old (if_neg hold) (if_pos hnew) hv

/-! ## Taking ids by number -/

section Reserve

variable {P : Type} [DecidableEq P] (A : P → Allocator)

/-- One pool of each kind. -/
abbrev Pools := (t : P) → Pool (A t)

/-- No pool has an id in use. -/
def Pools.empty : Pools A := fun t => .empty (A t)

variable {A}

/-- Take one id of one kind. -/
def reserve (ps : Pools A) (t : P) (i : Nat) : Option (Pools A) :=
  ((ps t).reserve i).map (update ps t)

/-- Take the ids of an object in turn, up to the first that is not free; what
comes after that one is left out. -/
def reserveAll (ps : Pools A) : List (P × Nat) → List (P × Nat) × Pools A
  | [] => ([], ps)
  | c :: cs =>
    match reserve ps c.1 c.2 with
    | none => (cs, ps)
    | some ps => reserveAll ps cs

/-- Take the ids of all objects: what was left out, and the pools. -/
def reserveEach (ps : Pools A) : List (List (P × Nat)) → List (P × Nat) × Pools A
  | [] => ([], ps)
  | cs :: objs =>
    let r := reserveAll ps cs
    let rest := reserveEach r.2 objs
    (r.1 ++ rest.1, rest.2)

variable (A) in
/-- The pool of an id's kind has that id. -/
def InRange (c : P × Nat) : Prop := c.2 ∈ Finset.Ico (A c.1).lo ((A c.1).lo + (A c.1).size)

theorem reserve_some {ps qs : Pools A} {t : P} {i : Nat} (h : reserve ps t i = some qs) :
    InRange A (t, i) ∧ i ∉ (ps t).used ∧
      ∀ u j, j ∈ (qs u).used ↔ j ∈ (ps u).used ∨ (u, j) = (t, i) := by
  unfold reserve at h
  rw [Option.map_eq_some_iff] at h
  obtain ⟨q, hq, rfl⟩ := h
  obtain ⟨hr, hf, hu⟩ := Pool.reserve_some hq
  refine ⟨hr, hf, fun u j => ?_⟩
  by_cases hut : u = t
  · subst hut
    rw [update_self, hu, Finset.mem_insert, Prod.mk.injEq]
    constructor
    · rintro (rfl | hj)
      · exact .inr ⟨rfl, rfl⟩
      · exact .inl hj
    · rintro (hj | ⟨_, rfl⟩)
      · exact .inr hj
      · exact .inl rfl
  · rw [update_of_ne hut, Prod.mk.injEq]
    simp only [hut, false_and, or_false]

theorem reserve_none {ps : Pools A} {t : P} {i : Nat} (h : reserve ps t i = none)
    (hr : InRange A (t, i)) : i ∈ (ps t).used := by
  unfold reserve at h
  rw [Option.map_eq_none_iff] at h
  exact Pool.reserve_none h hr

/-- An object of which all ids but the last are free, and asked for once,
leaves nothing out. -/
theorem reserveAll_restores (cs : List (P × Nat)) (ps : Pools A)
    (h : ∀ c ∈ cs.dropLast, InRange A c ∧ c.2 ∉ (ps c.1).used ∧ cs.count c = 1) :
    (reserveAll ps cs).1 = [] ∧ ∀ u j, j ∈ ((reserveAll ps cs).2 u).used ↔
      j ∈ (ps u).used ∨ (u, j) ∈ cs ∧ InRange A (u, j) := by
  induction cs generalizing ps with
  | nil => exact ⟨rfl, fun u j => by simp [reserveAll]⟩
  | cons c cs ih =>
    unfold reserveAll
    cases hc : reserve ps c.1 c.2 with
    | none =>
      -- only the last id may be taken already
      have hcs : cs = [] := by
        cases cs with
        | nil => rfl
        | cons d ds =>
          obtain ⟨hr, hf, _⟩ := h c (by simp)
          exact absurd (reserve_none hc hr) hf
      subst hcs
      refine ⟨rfl, fun u j => ⟨.inl, ?_⟩⟩
      rintro (hj | ⟨hj, hr⟩)
      · exact hj
      · rw [List.mem_singleton] at hj
        subst hj
        exact reserve_none hc hr
    | some qs =>
      obtain ⟨hr, hf, hmem⟩ := reserve_some hc
      have hrest : ∀ d ∈ cs.dropLast, InRange A d ∧ d.2 ∉ (qs d.1).used ∧ cs.count d = 1 := by
        intro d hd
        have hdcs : d ∈ cs := List.mem_of_mem_dropLast hd
        obtain ⟨hdr, hdf, hdc⟩ := h d (by
          cases cs with
          | nil => cases hdcs
          | cons e es => exact List.mem_cons_of_mem _ hd)
        have hpos : 0 < cs.count d := List.count_pos_iff.mpr hdcs
        have hne : c ≠ d := by
          rintro rfl
          rw [List.count_cons_self] at hdc
          omega
        rw [List.count_cons_of_ne hne] at hdc
        refine ⟨hdr, fun hin => ?_, hdc⟩
        rcases (hmem d.1 d.2).mp hin with hin | he
        · exact hdf hin
        · exact hne he.symm
      obtain ⟨hnone, hall⟩ := ih qs hrest
      refine ⟨hnone, fun u j => ?_⟩
      rw [hall, hmem, List.mem_cons]
      constructor
      · rintro ((hj | he) | ⟨hj, hjr⟩)
        · exact .inl hj
        · exact .inr ⟨.inl he, he ▸ hr⟩
        · exact .inr ⟨.inr hj, hjr⟩
      · rintro (hj | ⟨he | hj, hjr⟩)
        · exact .inl (.inl hj)
        · exact .inl (.inr he)
        · exact .inr ⟨hj, hjr⟩

theorem count_flatten_eq_one {α β : Type} [BEq β] [LawfulBEq β] {f : α → List β} {a : α} {c : β}
    (hc : (f a).count c = 1) {l : List α} (hn : l.Nodup) (ha : a ∈ l)
    (huniq : ∀ b ∈ l, c ∈ f b → b = a) : (l.map f).flatten.count c = 1 := by
  induction l with
  | nil => cases ha
  | cons b l ih =>
    obtain ⟨hb, hn⟩ := List.nodup_cons.mp hn
    rw [List.map_cons, List.flatten_cons, List.count_append]
    rcases List.mem_cons.mp ha with rfl | ha
    · have hnone : (l.map f).flatten.count c = 0 := by
        rw [List.count_eq_zero]
        intro hin
        obtain ⟨_, hfx, hcx⟩ := List.mem_flatten.mp hin
        obtain ⟨x, hx, rfl⟩ := List.mem_map.mp hfx
        exact hb (huniq x (List.mem_cons_of_mem _ hx) hcx ▸ hx)
      omega
    have hnone : (f b).count c = 0 := by
      rw [List.count_eq_zero]
      intro hin
      exact hb (huniq b (List.mem_cons_self ..) hin ▸ ha)
    rw [hnone, ih hn ha (fun x hx => huniq x (List.mem_cons_of_mem _ hx))]

/-- Nothing is left out, and all ids asked for are taken, when every id but
the last of each object is asked for once. -/
theorem reserveEach_restores (objs : List (List (P × Nat))) (ps : Pools A)
    (h : ∀ cs ∈ objs, ∀ c ∈ cs.dropLast,
      InRange A c ∧ c.2 ∉ (ps c.1).used ∧ objs.flatten.count c = 1) :
    (reserveEach ps objs).1 = [] ∧ ∀ u j, j ∈ ((reserveEach ps objs).2 u).used ↔
      j ∈ (ps u).used ∨ (u, j) ∈ objs.flatten ∧ InRange A (u, j) := by
  induction objs generalizing ps with
  | nil => exact ⟨rfl, fun u j => by simp [reserveEach]⟩
  | cons cs objs ih =>
    have hsplit : ∀ c, (cs :: objs).flatten.count c = cs.count c + objs.flatten.count c := by
      intro c
      rw [List.flatten_cons, List.count_append]
    obtain ⟨hnone, hmem⟩ := reserveAll_restores cs ps (fun c hc => by
      obtain ⟨hr, hf, hcount⟩ := h cs (List.mem_cons_self ..) c hc
      have hpos : 0 < cs.count c := List.count_pos_iff.mpr (List.mem_of_mem_dropLast hc)
      rw [hsplit] at hcount
      exact ⟨hr, hf, by omega⟩)
    obtain ⟨hnone', hmem'⟩ := ih (reserveAll ps cs).2 (fun ds hds c hc => by
      obtain ⟨hr, hf, hcount⟩ := h ds (List.mem_cons_of_mem _ hds) c hc
      have hpos : 0 < objs.flatten.count c :=
        List.count_pos_iff.mpr (List.mem_flatten.mpr ⟨ds, hds, List.mem_of_mem_dropLast hc⟩)
      rw [hsplit] at hcount
      have hnot : c ∉ cs := List.count_eq_zero.mp (by omega)
      refine ⟨hr, fun hin => ?_, by omega⟩
      rcases (hmem c.1 c.2).mp hin with hin | ⟨hin, _⟩
      · exact hf hin
      · exact hnot hin)
    unfold reserveEach
    dsimp only
    refine ⟨by rw [hnone, hnone', List.nil_append], fun u j => ?_⟩
    rw [hmem', hmem, List.flatten_cons, List.mem_append]
    constructor
    · rintro ((hj | ⟨hj, hr⟩) | ⟨hj, hr⟩)
      · exact .inl hj
      · exact .inr ⟨.inl hj, hr⟩
      · exact .inr ⟨.inr hj, hr⟩
    · rintro (hj | ⟨hj | hj, hr⟩)
      · exact .inl (.inl hj)
      · exact .inl (.inr ⟨hj, hr⟩)
      · exact .inr ⟨hj, hr⟩

end Reserve

end Ledger
