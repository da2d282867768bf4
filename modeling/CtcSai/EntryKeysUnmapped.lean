/-
# `EntryKeysUnmapped` — keys that cannot be mapped

The mapping of a key fails where the forwarding instance of its `bv_id` cannot be resolved.  None of
the operations on the entry tables looks at that: all of them go on with the key as it was zeroed,
so that such keys are taken for one another and for an entry stored under one of them.
-/
import CtcSai.EntryKeysRoundTrip

namespace CtcSai

variable {δ : Type} {m : KeyMacros} {g : HashDbs δ} {lchip : WbChip}

def Unmapped (m : KeyMacros) (g : HashDbs δ) (key : ApiKey) : Prop :=
  (entryMappingKey m g key).1 ≠ .success

instance (m : KeyMacros) (g : HashDbs δ) (key : ApiKey) : Decidable (Unmapped m g key) :=
  inferInstanceAs (Decidable ((entryMappingKey m g key).1 ≠ .success))

/-- No operation of the chip takes `key` for a key of its tables. -/
structure KeyRefused (m : KeyMacros) (g : HashDbs δ) (lchip : WbChip) (key : ApiKey) (property : δ) :
    Prop where
  add : (entryPropertyAdd m g lchip key property).1 ≠ .success
  add_same : (entryPropertyAdd m g lchip key property).2 = g
  remove : (entryPropertyRemove m g lchip key).1 ≠ .success
  remove_same : (entryPropertyRemove m g lchip key).2 = g
  get : entryPropertyGet m g lchip key = none

def zeroedKey : DbEntryType → EntryKey
  | .mcastL2mc => .l2mc .zero
  | _ => .mcastFdb .zero

/-- What a failed mapping leaves says of the entry its type only. -/
theorem Unmapped.key {key : ApiKey} (h : Unmapped m g key) :
    (entryMappingKey m g key).2 = zeroedKey (entryMappingKey m g key).2.entryType := by
  cases key with
  | l2mc e =>
    have hfail : (mappingL2mcKey g e).1 ≠ .success := h
    have hkey : (mappingL2mcKey g e).2 = .zero := by
      revert hfail
      unfold mappingL2mcKey
      split
      · intro hfail
        exact absurd rfl hfail
      · intro _
        rfl
    exact congrArg EntryKey.l2mc hkey
  | mcastFdb e =>
    have hfail : (mappingMcastFdbKey g e).1 ≠ .success := h
    have hkey : (mappingMcastFdbKey g e).2 = .zero := by
      revert hfail
      unfold mappingMcastFdbKey
      split
      · intro hfail
        exact absurd rfl hfail
      · intro _
        rfl
    exact congrArg EntryKey.mcastFdb hkey
  | neighbor e => exact absurd rfl h
  | route e => exact absurd rfl h
  | ipmc e => exact absurd rfl h
  | acl i => exact absurd rfl h
  | aclBind o => exact absurd rfl h
  | mpls e => exact absurd rfl h
  | nat e => exact absurd rfl h

theorem Unmapped.same_key {key key' : ApiKey} (h : Unmapped m g key) (h' : Unmapped m g key')
    (htype : (entryMappingKey m g key).2.entryType = (entryMappingKey m g key').2.entryType) :
    (entryMappingKey m g key).2 = (entryMappingKey m g key').2 := by
  rw [h.key, h'.key, htype]

theorem not_keyRefused {db : HashDb δ} (hg : g lchip = some db) (key : ApiKey) (property : δ) :
    ¬ KeyRefused m g lchip key property := by
  intro h
  have hget : (db.entryHash (entryMappingKey m g key).2.entryType).lookup
      (entryMappingKey m g key).2 = none := by
    have hnone := h.get
    rwa [entryPropertyGet, hg] at hnone
  refine h.add ?_
  simp only [entryPropertyAdd, hg, hget, Option.isSome_none, Bool.false_eq_true, if_false]

theorem keyRefused_iff (key : ApiKey) (property : δ) :
    KeyRefused m g lchip key property ↔ g lchip = none := by
  constructor
  · intro h
    cases hg : g lchip with
    | none => rfl
    | some db => exact absurd h (not_keyRefused hg key property)
  · intro hg
    refine ⟨?_, ?_, ?_, ?_, ?_⟩
    · simp [entryPropertyAdd, hg]
    · simp [entryPropertyAdd, hg]
    · simp [entryPropertyRemove, hg]
    · simp [entryPropertyRemove, hg]
    · simp [entryPropertyGet, hg]

/-- Keys that cannot be mapped are refused where there are no tables, and nowhere else; two of them
with one type are one key. -/
theorem unmapped_keys (m : KeyMacros) (g : HashDbs δ) (lchip : WbChip) (key : ApiKey) (property : δ)
    (h : Unmapped m g key) :
    (KeyRefused m g lchip key property ↔ g lchip = none) ∧
      ∀ key', Unmapped m g key' →
        (entryMappingKey m g key).2.entryType = (entryMappingKey m g key').2.entryType →
        (entryMappingKey m g key).2 = (entryMappingKey m g key').2 :=
  ⟨keyRefused_iff key property, fun _ h' htype => h.same_key h' htype⟩

/-- Chip 0 has its tables, and no VLAN. -/
def noVlans : HashDbs Unit := Function.update (fun _ => none) 0 (some .empty)

/-- An L2MC entry on a VLAN that does not exist, on a chip with tables. -/
theorem unmapped_keys_noVlan :
    ¬ KeyRefused .ones noVlans 0 (anySource Oid.null (rebuiltBvId 0 false 10)) () := by
  have h := (unmapped_keys .ones noVlans 0 (anySource Oid.null (rebuiltBvId 0 false 10)) ()
    (by decide)).1
  intro hrefused
  exact nomatch h.mp hrefused

/-- An L2MC entry on a VLAN that does not exist is added to the table. -/
theorem unmapped_keys_taken :
    ¬ ∀ (g : HashDbs Unit) (key : ApiKey), Unmapped .ones g key → KeyRefused .ones g 0 key () := by
  intro h
  have hunmapped : Unmapped .ones noVlans (anySource Oid.null (rebuiltBvId 0 false 10)) := by
    decide
  have hadd := (h noVlans _ hunmapped).add
  revert hadd
  decide

end CtcSai
