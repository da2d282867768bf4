/-
# `AclKeys` — whose SDK group a key finds

The records of SDK groups and rules stand in one store under the 64-bit keys.  Every
operation on a bind point goes through the key alone, so the store answers for the
right bind point exactly as long as no two live uses share a key.
-/
import CtcSai.Acl
import CtcSai.Lib.BitFields
import Mathlib.Data.Set.Function

namespace CtcSai

open BitFields Function IdPool KeyedTable

/-! ## The bits of a key -/

/-- A bind point: its type and the 32-bit value of its object id. -/
structure AclBindPoint where
  type : BindPointType
  value : BitVec 32
deriving DecidableEq, Repr

/-- What a record of the store stands for: the SDK rule of an entry or the SDK group
of a table, at one bind point. -/
structure HwKeyUse where
  rule : Bool
  point : AclBindPoint
  index : BitVec 32
deriving DecidableEq, Repr

/-- The key that the adapter computes for a use. -/
def HwKeyUse.key (u : HwKeyUse) : BitVec 64 :=
  if u.rule then hwEntryId u.point.type u.point.value u.index
  else hwTableId u.point.type u.point.value u.index

theorem toNat_value_shift (v : BitVec 32) :
    ((v <<< 28).setWidth 64).toNat = v.toNat % 16 * 2 ^ 28 := by
  rw [BitVec.toNat_setWidth, BitVec.toNat_shiftLeft]
  omega

theorem toNat_type_shift (t : BindPointType) :
    (BitVec.ofNat 64 t.toNat <<< 60).toNat = t.toNat * 2 ^ 60 := by
  cases t <;> rfl

theorem toNat_hwTableId (t : BindPointType) (v : BitVec 32) {i : BitVec 32}
    (hi : i.toNat < 2 ^ 28) :
    (hwTableId t v i).toNat = t.toNat * 2 ^ 60 + v.toNat % 16 * 2 ^ 28 + i.toNat := by
  have hv := toNat_value_shift v
  have ht := toNat_type_shift t
  have hwide : (i.setWidth 64).toNat = i.toNat := by rw [BitVec.toNat_setWidth]; omega
  have hhigh : (BitVec.ofNat 64 t.toNat <<< 60 ||| (v <<< 28).setWidth 64).toNat =
      t.toNat * 2 ^ 60 + v.toNat % 16 * 2 ^ 28 := by
    rw [toNat_or_add (by rw [ht]; exact Nat.dvd_mul_left _ _) (by rw [hv]; omega), ht, hv]
  rw [hwTableId, toNat_or_add (k := 28) (by rw [hhigh]; omega) (by rw [hwide]; exact hi), hhigh,
    hwide]

theorem toNat_hwEntryId (t : BindPointType) (v : BitVec 32) {i : BitVec 32}
    (hi : i.toNat < 2 ^ 28) :
    (hwEntryId t v i).toNat = 2 ^ 63 + (t.toNat * 2 ^ 60 + v.toNat % 16 * 2 ^ 28 + i.toNat) := by
  have htop : (1#64 <<< 63).toNat = 2 ^ 63 := rfl
  have hlow := toNat_hwTableId t v hi
  have hle := t.toNat_le
  have hsplit : hwEntryId t v i = 1#64 <<< 63 ||| hwTableId t v i := by
    rw [hwEntryId, hwTableId, BitVec.or_assoc, BitVec.or_assoc, BitVec.or_assoc]
  rw [hsplit, toNat_or_add (by rw [htop]) (by rw [hlow]; omega), htop, hlow]

/-- Keys of numbers below 2 ^ 28 agree when the uses do, but for the bind point's
value, of which they keep the last four bits. -/
theorem HwKeyUse.key_eq_iff {u w : HwKeyUse} (hu : u.index.toNat < 2 ^ 28)
    (hw : w.index.toNat < 2 ^ 28) :
    u.key = w.key ↔ u.rule = w.rule ∧ u.point.type = w.point.type ∧
      u.point.value.toNat % 16 = w.point.value.toNat % 16 ∧ u.index = w.index := by
  have htu := u.point.type.toNat_le
  have htw := w.point.type.toNat_le
  have hkey : ∀ x : HwKeyUse, x.index.toNat < 2 ^ 28 → x.key.toNat = x.rule.toNat * 2 ^ 63 +
      (x.point.type.toNat * 2 ^ 60 + x.point.value.toNat % 16 * 2 ^ 28 + x.index.toNat) := by
    intro x hx
    cases hr : x.rule with
    | false => simp [key, hr, toNat_hwTableId _ _ hx]
    | true => simp [key, hr, toNat_hwEntryId _ _ hx]
  rw [← BitVec.toNat_inj, hkey u hu, hkey w hw, ← BindPointType.toNat_inj, ← BitVec.toNat_inj]
  constructor
  · intro h
    have hrule : u.rule.toNat = w.rule.toNat := by omega
    refine ⟨?_, by omega, by omega, by omega⟩
    revert hrule
    cases u.rule <;> cases w.rule <;> simp
  · rintro ⟨hr, ht, hv, hi⟩
    rw [hr, ht, hv, hi]

/-! ## The store -/

inductive HwKeyOp where
  | add (use : HwKeyUse) (id : BitVec 32)
  | remove (use : HwKeyUse)

def HwKeyOp.use : HwKeyOp → HwKeyUse
  | .add u _ => u
  | .remove u => u

/-- `ctc_sai_db_entry_property_add` and `_remove` of the store: a key that stands
there already is refused. -/
def keyStore (s : Table (BitVec 64) (BitVec 32)) : HwKeyOp → Table (BitVec 64) (BitVec 32)
  | .add u id => match s.lookup u.key with
      | some _ => s
      | none => s.insert u.key id
  | .remove u => s.erase u.key

/-- What the store is for: a record for each use. -/
def useStore (s : HwKeyUse → Option (BitVec 32)) : HwKeyOp → HwKeyUse → Option (BitVec 32)
  | .add u id => match s u with
      | some _ => s
      | none => update s u (some id)
  | .remove u => update s u none

/-- The uses of the tables and entries whose numbers are taken, at given bind points. -/
def LiveUse {ap : AclPools} (tables : Pool ap.tableIndices) (entries : Pool ap.entryIndices)
    (points : Set AclBindPoint) (u : HwKeyUse) : Prop :=
  u.point ∈ points ∧
    if u.rule then u.index.toNat ∈ entries.used else u.index.toNat ∈ tables.used

/-- The keys of live uses are pairwise different, and after any calls for live uses
the store finds for a live use what was recorded for it and nothing else. -/
def KeysOwned (live : HwKeyUse → Prop) : Prop :=
  Set.InjOn HwKeyUse.key {u | live u} ∧
    ∀ ops : List HwKeyOp, (∀ o ∈ ops, live o.use) → ∀ u, live u →
      (ops.foldl keyStore ∅).lookup u.key = ops.foldl useStore (fun _ => none) u

section Store

variable {live : HwKeyUse → Prop}

theorem keyStore_step (hinj : Set.InjOn HwKeyUse.key {u | live u})
    {s : Table (BitVec 64) (BitVec 32)} {a : HwKeyUse → Option (BitVec 32)}
    (h : ∀ u, live u → s.lookup u.key = a u) {o : HwKeyOp} (ho : live o.use) :
    ∀ u, live u → (keyStore s o).lookup u.key = useStore a o u := by
  intro u hu
  have hkey : u.key = o.use.key ↔ u = o.use :=
    ⟨fun he => hinj hu ho he, fun he => congrArg _ he⟩
  cases o with
  | add w id =>
    have hw := h w ho
    simp only [keyStore, useStore]
    cases hs : a w with
    | some v =>
      rw [hs] at hw
      rw [hw]
      exact h u hu
    | none =>
      rw [hs] at hw
      rw [hw]
      dsimp only
      rw [Table.lookup_insert_ite, update_apply, h u hu]
      exact if_congr hkey rfl rfl
  | remove w =>
    simp only [keyStore, useStore]
    rw [Table.lookup_erase_ite, update_apply, h u hu]
    exact if_congr hkey rfl rfl

theorem keysOwned_of_injOn (hinj : Set.InjOn HwKeyUse.key {u | live u}) : KeysOwned live := by
  refine ⟨hinj, ?_⟩
  intro ops hops
  have hrun : ∀ (ops : List HwKeyOp) (s : Table (BitVec 64) (BitVec 32))
      (a : HwKeyUse → Option (BitVec 32)), (∀ o ∈ ops, live o.use) →
      (∀ u, live u → s.lookup u.key = a u) →
      ∀ u, live u → (ops.foldl keyStore s).lookup u.key = ops.foldl useStore a u := by
    intro ops
    induction ops with
    | nil => intro s a _ h; exact h
    | cons o ops ih =>
      intro s a hops h
      have ho := hops o (List.mem_cons_self ..)
      exact ih _ _ (fun o' ho' => hops o' (List.mem_cons_of_mem _ ho')) (keyStore_step hinj h ho)
  exact hrun ops ∅ _ hops (fun u _ => AList.lookup_empty _)

end Store

/-- No two of the bind points have one type and values with the same last four bits. -/
def PointsApart (points : Set AclBindPoint) : Prop :=
  ∀ p ∈ points, ∀ q ∈ points, p.type = q.type → p.value.toNat % 16 = q.value.toNat % 16 → p = q

section Pools

variable {ap : AclPools} (tables : Pool ap.tableIndices) (entries : Pool ap.entryIndices)
  {points : Set AclBindPoint}

theorem LiveUse.index_lt {u : HwKeyUse} (h : LiveUse tables entries points u) :
    u.index.toNat < 2 ^ 28 := by
  obtain ⟨-, h⟩ := h
  have hT := ap.tableIndices_range
  have hE := ap.entryIndices_range
  split at h
  · have := Finset.mem_Ico.mp (entries.inRange h)
    omega
  · have := Finset.mem_Ico.mp (tables.inRange h)
    omega

/-- The records of all bind points are kept apart exactly when there is nothing to
record or no two bind points of one type have values that agree in their last four
bits. -/
theorem keysOwned_iff : KeysOwned (LiveUse tables entries points) ↔
      (tables.used = ∅ ∧ entries.used = ∅) ∨ PointsApart points := by
  constructor
  · rintro ⟨hinj, -⟩
    by_cases hT : tables.used = ∅ ∧ entries.used = ∅
    · exact Or.inl hT
    refine Or.inr ?_
    -- one table or entry at both points is enough
    obtain ⟨rule, i, hi⟩ : ∃ rule i, ∀ p ∈ points, LiveUse tables entries points ⟨rule, p, i⟩ := by
      have hfit : ∀ n, n < 2 ^ 32 → (BitVec.ofNat 32 n).toNat = n := by
        intro n hn
        rw [BitVec.toNat_ofNat, Nat.mod_eq_of_lt hn]
      have hTr := ap.tableIndices_range
      have hEr := ap.entryIndices_range
      by_cases ht : tables.used = ∅
      · have he : entries.used.Nonempty := Finset.nonempty_iff_ne_empty.mpr fun he => hT ⟨ht, he⟩
        obtain ⟨n, hn⟩ := he
        have hb := Finset.mem_Ico.mp (entries.inRange hn)
        refine ⟨true, BitVec.ofNat 32 n, fun p hp => ⟨hp, ?_⟩⟩
        simpa [hfit n (by omega)] using hn
      obtain ⟨n, hn⟩ := Finset.nonempty_iff_ne_empty.mpr ht
      have hb := Finset.mem_Ico.mp (tables.inRange hn)
      refine ⟨false, BitVec.ofNat 32 n, fun p hp => ⟨hp, ?_⟩⟩
      simpa [hfit n (by omega)] using hn
    intro p hp q hq htype hvalue
    have hkey : (HwKeyUse.mk rule p i).key = (HwKeyUse.mk rule q i).key :=
      (HwKeyUse.key_eq_iff ((hi p hp).index_lt tables entries)
        ((hi q hq).index_lt tables entries)).mpr ⟨rfl, htype, hvalue, rfl⟩
    exact congrArg HwKeyUse.point (hinj (hi p hp) (hi q hq) hkey)
  · intro h
    refine keysOwned_of_injOn ?_
    intro u hu w hw hkey
    obtain ⟨hrule, htype, hvalue, hindex⟩ :=
      (HwKeyUse.key_eq_iff (LiveUse.index_lt tables entries hu)
        (LiveUse.index_lt tables entries hw)).mp hkey
    rcases h with ⟨ht, he⟩ | h
    · obtain ⟨-, hu⟩ := hu
      rw [ht, he] at hu
      split at hu <;> exact absurd hu (Finset.notMem_empty _)
    obtain ⟨rule, p, i⟩ := u
    obtain ⟨rule', q, i'⟩ := w
    obtain rfl : rule = rule' := hrule
    obtain rfl : i = i' := hindex
    rw [h p hu.1 q hw.1 htype hvalue]

end Pools

/-- Ports 0 and 16 share the record of table 1. -/
theorem keys_shared_by_ports :
    ¬ KeysOwned (@LiveUse .firstFit ⟨{1}, [], by decide⟩ (Pool.empty _)
      {⟨.port, 0⟩, ⟨.port, 16⟩}) := by
  rintro ⟨hinj, -⟩
  have hsame := @hinj ⟨false, ⟨.port, 0⟩, 1⟩ ⟨Or.inl rfl, by decide⟩
    ⟨false, ⟨.port, 16⟩, 1⟩ ⟨Or.inr rfl, by decide⟩ (by decide)
  exact absurd hsame (by decide)

end CtcSai
