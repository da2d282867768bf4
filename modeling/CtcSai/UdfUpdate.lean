/-
# `UdfUpdate` — the hardware of a UDF group, where the SDK succeeds

`offsets` and `parserOffsets` are what an entry of the hardware has of a group.
Taking an entry out and putting it in again amounts to one update of them, with
the offsets of the UDFs in the slots, in their order.
-/
import CtcSai.Udf

namespace CtcSai

open Function

variable {ch : UdfChip}

/-- The SDK does all that it is asked. -/
def UdfSdk.Succeeds (sdk : UdfSdk) : Prop := ∀ c, sdk.rc c = .none

theorem UdfSdk.Succeeds.mapping {sdk : UdfSdk} (h : sdk.Succeeds) (c : UdfCall) :
    mappingErrorCtc (sdk.rc c) = .success :=
  mappingErrorCtc_eq_success.mpr (h c)

/-! ## Offsets -/

/-- The offsets of the entry of a number. -/
def UdfHw.offsets (hw : UdfHw) (n : BitVec 32) : Option (List (BitVec 8)) :=
  (hw.entries n).map UdfEntry.offset

/-- The offsets of the parser's entry at an index. -/
def UdfHw.parserOffsets (hw : UdfHw) (p : BitVec 8) : Option (List (BitVec 8)) :=
  (hw.parser p).map ParserUdf.udfOffset

section Hw

variable (hw : UdfHw) (n : BitVec 32)

theorem offsets_write (x : Option UdfEntry) :
    ({ hw with entries := update hw.entries n x } : UdfHw).offsets =
      update hw.offsets n (x.map UdfEntry.offset) := by
  funext k
  simp only [UdfHw.offsets, update_apply]
  split <;> rfl

theorem offsets_keyFields (f : List UdfKeyField → List UdfKeyField) :
    ({ hw with entries := update hw.entries n ((hw.entries n).map fun e =>
      { e with keyFields := f e.keyFields }) } : UdfHw).offsets = hw.offsets := by
  rw [offsets_write, Option.map_map]
  exact update_eq_self n hw.offsets

@[simp] theorem offsets_removeKeyField (f : UdfKeyField) :
    (hw.removeKeyField n f).offsets = hw.offsets :=
  offsets_keyFields hw n fun l => l.erase f

@[simp] theorem offsets_addKeyField (f : UdfKeyField) : (hw.addKeyField n f).offsets = hw.offsets :=
  offsets_keyFields hw n fun l => l ++ [f]

@[simp] theorem offsets_removeEntry : (hw.removeEntry n).offsets = update hw.offsets n none :=
  offsets_write hw n none

@[simp] theorem offsets_addEntry (e : UdfEntry) :
    (hw.addEntry n e).offsets = update hw.offsets n (some e.offset) :=
  offsets_write hw n (some e)

@[simp] theorem parserOffsets_setParser (p : BitVec 8) (e : Option ParserUdf) :
    (hw.setParser p e).parserOffsets = update hw.parserOffsets p (e.map ParserUdf.udfOffset) := by
  funext k
  simp only [UdfHw.parserOffsets, UdfHw.setParser, update_apply]
  split <;> rfl

end Hw

section Update

variable {sdk : UdfSdk} {db : UdfDb ch} (hsdk : sdk.Succeeds)
variable {L : List (Oid × Udf × UdfMatch)}

/-- Every UDF of the list has a record and a match. -/
def UdfDb.Known (db : UdfDb ch) (l : List Oid) : Prop :=
  ∀ u ∈ l, ∃ r m, db.udfs.lookup u = some r ∧ db.udfMatches.lookup r.matchId = some m

/-- What the loops collect. -/
structure UdfDb.Collects (db : UdfDb ch) (l : List Oid) (L : List (Oid × Udf × UdfMatch)) :
    Prop where
  collect : db.collect l = some (some L)
  ids : L.map Prod.fst = l
  recs : ∀ p ∈ L, db.udfs.lookup p.1 = some p.2.1 ∧
    db.udfMatches.lookup p.2.1.matchId = some p.2.2

theorem UdfDb.Known.collects {l : List Oid} (h : db.Known l) : ∃ L, db.Collects l L := by
  induction l with
  | nil => exact ⟨[], rfl, rfl, fun p hp => absurd hp List.not_mem_nil⟩
  | cons u l ih =>
    obtain ⟨L, hL⟩ := ih fun v hv => h v (List.mem_cons_of_mem u hv)
    obtain ⟨r, m, hr, hm⟩ := h u List.mem_cons_self
    refine ⟨(u, r, m) :: L, ?_, by rw [List.map_cons, hL.ids], ?_⟩
    · simp [UdfDb.collect, hr, hm, hL.collect]
    · intro p hp
      rcases List.mem_cons.mp hp with rfl | hp
      · exact ⟨hr, hm⟩
      · exact hL.recs p hp

theorem UdfDb.Collects.isEmpty {l : List Oid} (h : db.Collects l L) : L.isEmpty = l.isEmpty := by
  rw [← h.ids]
  cases L <;> rfl

include hsdk

theorem udfAddKeyFields_ok (n : BitVec 32) (fs : List UdfKeyField) (hw : UdfHw) :
    (udfAddKeyFields sdk n hw fs).1 = .success ∧
      (udfAddKeyFields sdk n hw fs).2.offsets = hw.offsets ∧
      (udfAddKeyFields sdk n hw fs).2.parser = hw.parser := by
  induction fs generalizing hw with
  | nil => exact ⟨rfl, rfl, rfl⟩
  | cons f fs ih =>
    simp only [udfAddKeyFields, hsdk.mapping]
    obtain ⟨h₁, h₂, h₃⟩ := ih (hw.addKeyField n f)
    exact ⟨h₁, h₂.trans (offsets_addKeyField hw n f), h₃⟩

theorem udfRemoveCtcEntry_ok (n : BitVec 32) (grp : UdfGroup) (hw : UdfHw) :
    ∃ hw', udfRemoveCtcEntry sdk n grp hw =
        (.success, { grp with addValid := false }, hw') ∧ hw'.parser = hw.parser ∧
      hw'.offsets = if grp.addValid then update hw.offsets n none else hw.offsets := by
  unfold udfRemoveCtcEntry
  cases hv : grp.addValid with
  | true =>
    simp only [hsdk.mapping, if_true]
    exact ⟨_, rfl, rfl, by simp⟩
  | false =>
    have hsame : ({ grp with addValid := false } : UdfGroup) = grp := by rw [← hv]
    rw [hsame]
    exact ⟨hw, rfl, rfl, rfl⟩

theorem udfUpdateCtcUdfEntry_ok {g gid : Oid} {grp : UdfGroup} (hL : db.Collects grp.used L)
    (hgid : ∀ p ∈ L, p.2.1.groupId.value = gid.value) :
    ∃ hw, udfUpdateCtcUdfEntry sdk db g gid grp =
        some (.success, db.program g { grp with addValid := !L.isEmpty } hw) ∧
      hw.parser = db.hw.parser ∧
      hw.offsets = if L = [] then
          if grp.addValid then update db.hw.offsets gid.value none else db.hw.offsets
        else update db.hw.offsets gid.value (some (L.map fun p => p.2.1.offset)) := by
  obtain ⟨hw₁, hrem, hpar, hoff⟩ := udfRemoveCtcEntry_ok hsdk gid.value grp db.hw
  unfold udfUpdateCtcUdfEntry
  rw [hrem]
  dsimp only
  rw [show UdfGroup.used { grp with addValid := false } = grp.used from rfl, hL.collect]
  dsimp only
  split
  · rename_i hlast
    rw [List.getLast?_eq_none_iff.mp hlast]
    exact ⟨hw₁, rfl, hpar, hoff⟩
  rename_i u r m hlast
  have hmem := List.mem_of_getLast? hlast
  have hne : L ≠ [] := List.ne_nil_of_mem hmem
  simp only [hsdk.mapping]
  obtain ⟨h₁, h₂, h₃⟩ := udfAddKeyFields_ok hsdk gid.value m.keyFields
    (hw₁.addEntry r.groupId.value ⟨m.priority, u.subType.toNat + 1,
      L.map fun p => p.2.1.offset, []⟩)
  refine ⟨_, ?_, h₃.trans hpar, ?_⟩
  · rw [h₁, show L.isEmpty = false from List.isEmpty_eq_false_iff.mpr hne]
    rfl
  · rw [h₂, offsets_addEntry, hoff, hgid _ hmem]
    split
    · exact update_idem _ _ _
    · rfl

theorem udfUpdateGoldengateCtcUdfEntry_ok {g : Oid} {grp : UdfGroup} {prio : BitVec 8}
    (hL : db.Collects grp.used L) (hprio : ∀ p ∈ L, p.2.2.priority = prio)
    (hzero : L = [] → prio = 0) :
    ∃ hw, udfUpdateGoldengateCtcUdfEntry sdk db g grp =
        some (.success, db.program g { grp with addValid := !L.isEmpty } hw) ∧
      hw.entries = db.hw.entries ∧
      hw.parserOffsets = if L = [] then
          if grp.addValid then update db.hw.parserOffsets prio none
          else db.hw.parserOffsets
        else update db.hw.parserOffsets prio (some (L.map fun p => p.2.1.offset)) := by
  -- the entry is taken out at the same index
  have hrem : ∃ hw', udfRemoveParserEntry sdk db grp =
      some (.success, { grp with addValid := false }, hw') ∧ hw'.entries = db.hw.entries ∧
      hw'.parserOffsets = if grp.addValid then update db.hw.parserOffsets prio none
        else db.hw.parserOffsets := by
    unfold udfRemoveParserEntry
    cases hv : grp.addValid with
    | false =>
      have hsame : ({ grp with addValid := false } : UdfGroup) = grp := by rw [← hv]
      rw [hsame]
      exact ⟨db.hw, rfl, rfl, rfl⟩
    | true =>
      have hfirst : udfFirstPriority db grp = some (.success, prio) := by
        unfold udfFirstPriority
        rw [← hL.ids]
        match L, hL, hprio, hzero with
        | [], _, _, hzero => rw [hzero rfl]; rfl
        | p :: L, hL, hprio, _ =>
          obtain ⟨hr, hm⟩ := hL.recs p List.mem_cons_self
          simp only [List.map_cons]
          rw [hr]
          dsimp only
          rw [hm, Option.map_some, hprio p List.mem_cons_self]
      simp only [hfirst, hsdk.mapping, if_true]
      exact ⟨_, rfl, rfl, by simp⟩
  obtain ⟨hw₁, hrem, hent, hoff⟩ := hrem
  unfold udfUpdateGoldengateCtcUdfEntry
  rw [hrem]
  dsimp only
  rw [show UdfGroup.used { grp with addValid := false } = grp.used from rfl, hL.collect]
  dsimp only
  split
  · rename_i hlast
    rw [List.getLast?_eq_none_iff.mp hlast]
    exact ⟨hw₁, rfl, hent, hoff⟩
  rename_i u r m hlast
  have hmem := List.mem_of_getLast? hlast
  have hne : L ≠ [] := List.ne_nil_of_mem hmem
  simp only [hsdk.mapping]
  refine ⟨hw₁.setParser m.priority (some ⟨u.subType.toNat - 1, L.map fun p => p.2.1.offset,
    m.ethertype.data, m.ethertype.data = 0x0800, m.ipProtocal.data⟩), ?_, hent, ?_⟩
  · rw [show L.isEmpty = false from List.isEmpty_eq_false_iff.mpr hne]
    rfl
  · rw [parserOffsets_setParser, hoff, hprio _ hmem]
    split
    · exact update_idem _ _ _
    · rfl

end Update

end CtcSai
