/-
Two-way trees — a hierarchy whose links are kept in both directions.

A node that holds others has the list of its children, with room for so many; what
hangs below it has its parent's name.  `WellLinked` says that the two directions
agree, that no list outgrows its room and that ranks fall on the way up.  There is one
lemma for each elementary change: a leaf is hung up, taken down or moved among names
that hold nothing, a holder is made or dropped.
-/
import Mathlib.Data.List.Nodup
import Mathlib.Logic.Function.Basic
import Mathlib.Order.WellFounded

namespace TwoWayTree

open Function

variable {α : Type}

/-- A hierarchy, in both directions; `kids` is `none` where there is no holder. -/
structure Tree (α : Type) where
  parent : α → Option α
  kids : α → Option (List α)
  room : α → Nat

/-- The links agree.  `holds` is told by a name, whether or not the holder is there. -/
structure WellLinked (holds : α → Prop) (rank : α → Nat) (t : Tree α) : Prop where
  holder : ∀ {p l}, t.kids p = some l → holds p
  nodup : ∀ {p l}, t.kids p = some l → l.Nodup
  mem : ∀ {p l}, t.kids p = some l → ∀ x, x ∈ l ↔ t.parent x = some p
  room : ∀ {p l}, t.kids p = some l → l.length ≤ t.room p
  rank : ∀ {x p}, t.parent x = some p → holds p → rank p < rank x
  live : ∀ {x p}, t.parent x = some p → holds p → (t.kids p).isSome

/-- Nothing that holds is named. -/
def Idle (holds : α → Prop) (o : Option α) : Prop := ∀ p, o = some p → ¬ holds p

variable {holds : α → Prop} {rank : α → Nat} {t : Tree α} {x p : α} {l l' : List α} {o : Option α}

theorem idle_none : Idle holds (none : Option α) := nofun

theorem idle_some (h : ¬ holds p) : Idle holds (some p) := by
  rintro q hq
  cases hq
  exact h

namespace WellLinked

theorem parent_ne (h : WellLinked holds rank t) (hp : t.kids p = none) (hh : holds p) :
    t.parent x ≠ some p := by
  intro hx
  have hlive := h.live hx hh
  rw [hp] at hlive
  cases hlive

theorem wellFounded (h : WellLinked holds rank t) :
    WellFounded fun p x => t.parent x = some p ∧ holds p :=
  Subrelation.wf (fun hx => h.rank hx.1 hx.2) (InvImage.wf rank Nat.lt_wfRel.wf)

variable [DecidableEq α]

/-- A list after an update is the new one, or one of another name. -/
theorem update_cases {f : α → Option (List α)} {q : α} {m : List α}
    (hm : update f p (some l) q = some m) : q = p ∧ m = l ∨ q ≠ p ∧ f q = some m := by
  rcases eq_or_ne q p with rfl | hq
  · rw [update_self] at hm
    exact .inl ⟨rfl, (Option.some.inj hm).symm⟩
  · rw [update_of_ne hq] at hm
    exact .inr ⟨hq, hm⟩

theorem isSome_update {f : α → Option (List α)} {q : α} (h : q ≠ p → (f q).isSome) :
    (update f p (some l) q).isSome := by
  rcases eq_or_ne q p with rfl | hq
  · rw [update_self]
    rfl
  · rw [update_of_ne hq]
    exact h hq

theorem move (h : WellLinked holds rank t) (hx : Idle holds (t.parent x)) (ho : Idle holds o) :
    WellLinked holds rank { t with parent := update t.parent x o } := by
  have hparent : ∀ {y q}, holds q →
      (update t.parent x o y = some q ↔ t.parent y = some q) := by
    intro y q hq
    rcases eq_or_ne y x with rfl | hne
    · rw [update_self]
      exact ⟨fun hy => absurd hq (ho q hy), fun hy => absurd hq (hx q hy)⟩
    · rw [update_of_ne hne]
  exact {
    holder := h.holder
    nodup := h.nodup
    mem := fun hl y => (h.mem hl y).trans (hparent (h.holder hl)).symm
    room := h.room
    rank := fun hy hq => h.rank ((hparent hq).mp hy) hq
    live := fun hy hq => h.live ((hparent hq).mp hy) hq }

/-- What hangs nowhere is hung up. -/
theorem hang (h : WellLinked holds rank t) (hx : Idle holds (t.parent x))
    (hl : t.kids p = some l) (hroom : l.length < t.room p) (hrank : rank p < rank x) :
    WellLinked holds rank { t with
      parent := update t.parent x (some p)
      kids := update t.kids p (some (l ++ [x])) } := by
  have hp := h.holder hl
  have hnew : x ∉ l := fun hm => hx p ((h.mem hl x).mp hm) hp
  have hother : ∀ {q m}, q ≠ p → t.kids q = some m →
      ∀ y, y ∈ m ↔ update t.parent x (some p) y = some q := by
    intro q m hq hm y
    rw [h.mem hm]
    rcases eq_or_ne y x with rfl | hne
    · rw [update_self]
      exact ⟨fun hy => absurd (h.holder hm) (hx q hy), fun hy => absurd (Option.some.inj hy).symm hq⟩
    · rw [update_of_ne hne]
  constructor
  · intro q m hm
    rcases update_cases hm with ⟨rfl, -⟩ | ⟨-, hm⟩
    · exact hp
    · exact h.holder hm
  · intro q m hm
    rcases update_cases hm with ⟨-, rfl⟩ | ⟨-, hm⟩
    · exact (h.nodup hl).append (List.nodup_singleton x) (by simpa using hnew)
    · exact h.nodup hm
  · intro q m hm y
    rcases update_cases hm with ⟨rfl, rfl⟩ | ⟨hq, hm⟩
    · dsimp only
      rw [List.mem_append, List.mem_singleton, h.mem hl]
      rcases eq_or_ne y x with rfl | hne
      · rw [update_self]
        exact ⟨fun _ => rfl, fun _ => .inr rfl⟩
      · rw [update_of_ne hne]
        exact or_iff_left hne
    · exact hother hq hm y
  · intro q m hm
    rcases update_cases hm with ⟨rfl, rfl⟩ | ⟨-, hm⟩
    · rw [List.length_append]
      exact hroom
    · exact h.room hm
  · intro y q hy hq
    dsimp only at hy
    rcases eq_or_ne y x with rfl | hne
    · rw [update_self] at hy
      cases hy
      exact hrank
    · rw [update_of_ne hne] at hy
      exact h.rank hy hq
  · intro y q hy hq
    refine isSome_update fun hqp => ?_
    dsimp only at hy
    rcases eq_or_ne y x with rfl | hne
    · rw [update_self] at hy
      exact absurd (Option.some.inj hy).symm hqp
    · rw [update_of_ne hne] at hy
      exact h.live hy hq

theorem unhang (h : WellLinked holds rank t) (hl : t.kids p = some l)
    (hx : t.parent x = some p) (ho : Idle holds o) (hnd : l'.Nodup)
    (hmem : ∀ y, y ∈ l' ↔ y ∈ l ∧ y ≠ x) (hlen : l'.length ≤ l.length) :
    WellLinked holds rank { t with
      parent := update t.parent x o
      kids := update t.kids p (some l') } := by
  have hp := h.holder hl
  have hparent : ∀ {y q}, holds q →
      (update t.parent x o y = some q ↔ t.parent y = some q ∧ y ≠ x) := by
    intro y q hq
    rcases eq_or_ne y x with rfl | hne
    · rw [update_self]
      exact ⟨fun hy => absurd hq (ho q hy), fun hy => absurd rfl hy.2⟩
    · rw [update_of_ne hne]
      exact (and_iff_left hne).symm
  constructor
  · intro q m hm
    rcases update_cases hm with ⟨rfl, -⟩ | ⟨-, hm⟩
    · exact hp
    · exact h.holder hm
  · intro q m hm
    rcases update_cases hm with ⟨-, rfl⟩ | ⟨-, hm⟩
    · exact hnd
    · exact h.nodup hm
  · intro q m hm y
    rcases update_cases hm with ⟨rfl, rfl⟩ | ⟨hq, hm⟩
    · rw [hmem, h.mem hl]
      exact (hparent hp).symm
    rw [h.mem hm]
    refine Iff.trans ?_ (hparent (h.holder hm)).symm
    refine ⟨fun hy => ⟨hy, ?_⟩, And.left⟩
    rintro rfl
    exact hq (Option.some.inj (hy.symm.trans hx))
  · intro q m hm
    rcases update_cases hm with ⟨rfl, rfl⟩ | ⟨-, hm⟩
    · exact hlen.trans (h.room hl)
    · exact h.room hm
  · intro y q hy hq
    exact h.rank ((hparent hq).mp hy).1 hq
  · intro y q hy hq
    exact isSome_update fun _ => h.live ((hparent hq).mp hy).1 hq

theorem make (h : WellLinked holds rank t) (hp : holds p) (hnew : t.kids p = none) (n : Nat) :
    WellLinked holds rank { t with
      kids := update t.kids p (some [])
      room := update t.room p n } := by
  constructor
  · intro q m hm
    rcases update_cases hm with ⟨rfl, -⟩ | ⟨-, hm⟩
    · exact hp
    · exact h.holder hm
  · intro q m hm
    rcases update_cases hm with ⟨-, rfl⟩ | ⟨-, hm⟩
    · exact List.nodup_nil
    · exact h.nodup hm
  · intro q m hm y
    rcases update_cases hm with ⟨rfl, rfl⟩ | ⟨-, hm⟩
    · exact iff_of_false List.not_mem_nil (h.parent_ne hnew hp)
    · exact h.mem hm y
  · intro q m hm
    rcases update_cases hm with ⟨-, rfl⟩ | ⟨hq, hm⟩
    · exact Nat.zero_le _
    · dsimp only
      rw [update_of_ne hq]
      exact h.room hm
  · intro y q hy hq
    exact h.rank hy hq
  · intro y q hy hq
    exact isSome_update fun _ => h.live hy hq

theorem resize (h : WellLinked holds rank t) {n : Nat} (hn : ∀ l, t.kids p = some l → l.length ≤ n) :
    WellLinked holds rank { t with room := update t.room p n } where
  holder := h.holder
  nodup := h.nodup
  mem := h.mem
  rank := h.rank
  live := h.live
  room := by
    intro q l hl
    dsimp only at hl ⊢
    rcases eq_or_ne q p with rfl | hq
    · rw [update_self]
      exact hn l hl
    · rw [update_of_ne hq]
      exact h.room hl

theorem drop (h : WellLinked holds rank t) (hp : t.kids p = some []) (n : Nat) :
    WellLinked holds rank { t with
      kids := update t.kids p none
      room := update t.room p n } := by
  have hother : ∀ {q m}, update t.kids p none q = some m → t.kids q = some m := by
    intro q m hm
    rcases eq_or_ne q p with rfl | hq
    · rw [update_self] at hm
      cases hm
    · rwa [update_of_ne hq] at hm
  constructor
  · intro q m hm
    exact h.holder (hother hm)
  · intro q m hm
    exact h.nodup (hother hm)
  · intro q m hm y
    exact h.mem (hother hm) y
  · intro q m hm
    dsimp only at hm ⊢
    rcases eq_or_ne q p with rfl | hq
    · rw [update_self] at hm
      cases hm
    · rw [update_of_ne hq]
      exact h.room (hother hm)
  · intro y q hy hq
    exact h.rank hy hq
  · intro y q hy hq
    show (update t.kids p none q).isSome
    rw [update_of_ne]
    · exact h.live hy hq
    · rintro rfl
      exact List.not_mem_nil ((h.mem hp y).mpr hy)

end WellLinked

end TwoWayTree
