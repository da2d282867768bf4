/-
# `UdfMembers` — what a UDF's creation does to its group and its match

Four functions of the database say who belongs where: `slots` and `acl` of the
groups, `refs` of the matches and `bound` of the UDFs.  The hardware, the hash
masks and the way back of a creation leave all four as they are (`SameMembers`);
a creation that goes through puts the UDF into a slot (`UdfPlaced`) and counts its
match up.
-/
import CtcSai.Udf

namespace CtcSai

open Function KeyedTable Table

variable {ch : UdfChip}

/-! ## The four functions -/

def UdfDb.slots (db : UdfDb ch) (g : Oid) : Option (Fin 4 → Oid) :=
  (db.groups.lookup g).map UdfGroup.udfId

/-- The uses of a group by ACL tables. -/
def UdfDb.acl (db : UdfDb ch) (g : Oid) : Option (BitVec 8) :=
  (db.groups.lookup g).map UdfGroup.aclRefCnt

def UdfDb.refs (db : UdfDb ch) (m : Oid) : Option (BitVec 8) :=
  (db.udfMatches.lookup m).map UdfMatch.udfRefCnt

/-- The group and the match of a UDF. -/
def UdfDb.bound (db : UdfDb ch) (u : Oid) : Option (Oid × Oid) :=
  (db.udfs.lookup u).map fun r => (r.groupId, r.matchId)

/-- The UDFs that name a match. -/
def UdfDb.naming (db : UdfDb ch) (m : Oid) : Finset Oid :=
  db.udfs.keys.toFinset.filter fun u => (db.bound u).map Prod.snd = some m

def UdfDb.groupSet (db : UdfDb ch) : Finset Oid := db.groups.keys.toFinset

section Views

variable {db : UdfDb ch} {g m u : Oid}

theorem UdfDb.slots_of_lookup {grp : UdfGroup} (h : db.groups.lookup g = some grp) :
    db.slots g = some grp.udfId := by
  unfold UdfDb.slots
  rw [h]
  rfl

theorem UdfDb.acl_of_lookup {grp : UdfGroup} (h : db.groups.lookup g = some grp) :
    db.acl g = some grp.aclRefCnt := by
  unfold UdfDb.acl
  rw [h]
  rfl

theorem UdfDb.refs_of_lookup {rec : UdfMatch} (h : db.udfMatches.lookup m = some rec) :
    db.refs m = some rec.udfRefCnt := by
  unfold UdfDb.refs
  rw [h]
  rfl

theorem UdfDb.bound_of_lookup {r : Udf} (h : db.udfs.lookup u = some r) :
    db.bound u = some (r.groupId, r.matchId) := by
  unfold UdfDb.bound
  rw [h]
  rfl

theorem UdfDb.lookup_of_slots {s : Fin 4 → Oid} (h : db.slots g = some s) :
    ∃ grp, db.groups.lookup g = some grp ∧ grp.udfId = s :=
  Option.map_eq_some_iff.mp h

theorem UdfDb.lookup_of_bound (h : db.bound u = some (g, m)) :
    ∃ r, db.udfs.lookup u = some r ∧ r.groupId = g ∧ r.matchId = m := by
  obtain ⟨r, hr, he⟩ := Option.map_eq_some_iff.mp h
  cases he
  exact ⟨r, hr, rfl, rfl⟩

theorem UdfDb.mem_naming : u ∈ db.naming m ↔ ∃ g, db.bound u = some (g, m) := by
  simp only [UdfDb.naming, Finset.mem_filter, List.mem_toFinset, Option.map_eq_some_iff]
  constructor
  · rintro ⟨-, ⟨g, n⟩, h, rfl⟩
    exact ⟨g, h⟩
  · rintro ⟨g, h⟩
    obtain ⟨r, hr, -⟩ := UdfDb.lookup_of_bound h
    exact ⟨AList.mem_keys.mpr (AList.lookup_isSome.mp (by rw [hr]; rfl)), _, h, rfl⟩

theorem UdfDb.mem_groupSet : g ∈ db.groupSet ↔ (db.slots g).isSome := by
  simp only [UdfDb.groupSet, List.mem_toFinset, UdfDb.slots, Option.isSome_map]
  exact AList.mem_keys.symm.trans AList.lookup_isSome.symm

end Views

/-! ## Nothing changes -/

/-- The four functions and the counters do not differ. -/
structure SameMembers (db db' : UdfDb ch) : Prop where
  slots : db'.slots = db.slots
  acl : db'.acl = db.acl
  refs : db'.refs = db.refs
  bound : db'.bound = db.bound
  cnt : db'.udfGroupCnt = db.udfGroupCnt
  ecmp : db'.ecmpUdfGroups = db.ecmpUdfGroups
  lag : db'.lagUdfGroups = db.lagUdfGroups

/-- They differ in one UDF. -/
structure SameBut (u : Oid) (db db' : UdfDb ch) : Prop where
  slots : db'.slots = db.slots
  acl : db'.acl = db.acl
  refs : db'.refs = db.refs
  bound : ∀ v, v ≠ u → db'.bound v = db.bound v
  cnt : db'.udfGroupCnt = db.udfGroupCnt
  ecmp : db'.ecmpUdfGroups = db.ecmpUdfGroups
  lag : db'.lagUdfGroups = db.lagUdfGroups

theorem SameMembers.refl (db : UdfDb ch) : SameMembers db db := ⟨rfl, rfl, rfl, rfl, rfl, rfl, rfl⟩

theorem SameMembers.trans {a b c : UdfDb ch} (h : SameMembers a b) (h' : SameMembers b c) :
    SameMembers a c :=
  ⟨h'.slots.trans h.slots, h'.acl.trans h.acl, h'.refs.trans h.refs, h'.bound.trans h.bound,
    h'.cnt.trans h.cnt, h'.ecmp.trans h.ecmp, h'.lag.trans h.lag⟩

theorem slots_insert (db : UdfDb ch) (g : Oid) (grp : UdfGroup) (hw : UdfHw) :
    (db.program g grp hw).slots = update db.slots g (some grp.udfId) := by
  funext o
  unfold UdfDb.slots UdfDb.program
  rw [lookup_insert_ite, update_apply]
  split <;> rfl

theorem acl_insert (db : UdfDb ch) (g : Oid) (grp : UdfGroup) (hw : UdfHw) :
    (db.program g grp hw).acl = update db.acl g (some grp.aclRefCnt) := by
  funext o
  unfold UdfDb.acl UdfDb.program
  rw [lookup_insert_ite, update_apply]
  split <;> rfl

/-- The record of a UDF is written. -/
def UdfDb.putUdf (db : UdfDb ch) (u : Oid) (r : Udf) : UdfDb ch :=
  { db with udfs := db.udfs.insert u r }

theorem bound_putUdf (db : UdfDb ch) (u : Oid) (r : Udf) :
    (db.putUdf u r).bound = update db.bound u (some (r.groupId, r.matchId)) := by
  funext o
  unfold UdfDb.bound UdfDb.putUdf
  rw [lookup_insert_ite, update_apply]
  split <;> rfl

def UdfDb.putMatch (db : UdfDb ch) (m : Oid) (rec : UdfMatch) : UdfDb ch :=
  { db with udfMatches := db.udfMatches.insert m rec }

theorem refs_putMatch (db : UdfDb ch) (m : Oid) (rec : UdfMatch) :
    (db.putMatch m rec).refs = update db.refs m (some rec.udfRefCnt) := by
  funext o
  unfold UdfDb.refs UdfDb.putMatch
  rw [lookup_insert_ite, update_apply]
  split <;> rfl

section Same

variable {sdk : UdfSdk} {db : UdfDb ch} {g : Oid} {grp grp' : UdfGroup}
variable {r : Status × UdfDb ch}

theorem SameMembers.program (h : db.groups.lookup g = some grp) (hs : grp'.udfId = grp.udfId)
    (ha : grp'.aclRefCnt = grp.aclRefCnt) (hw : UdfHw) :
    SameMembers db (db.program g grp' hw) := by
  refine ⟨?_, ?_, rfl, rfl, rfl, rfl, rfl⟩
  · rw [slots_insert, hs, ← UdfDb.slots_of_lookup h, update_eq_self]
  · rw [acl_insert, ha, ← UdfDb.acl_of_lookup h, update_eq_self]

theorem SameMembers.putUdf {u : Oid} {r : Udf} (h : db.bound u = some (r.groupId, r.matchId)) :
    SameMembers db (db.putUdf u r) := by
  refine ⟨rfl, rfl, rfl, ?_, rfl, rfl, rfl⟩
  rw [bound_putUdf, ← h, update_eq_self]

theorem udfSetHashUdfBmp_same (db : UdfDb ch) (g : Oid) :
    SameMembers db (udfSetHashUdfBmp db g).2 := by
  unfold udfSetHashUdfBmp
  split
  · exact .refl db
  rename_i grp h
  split
  · exact .refl db
  · exact SameMembers.program h (by rfl) (by rfl) db.hw

theorem udfCreateHashMask_same {oid : Oid} {u : Udf} (attrs : List UdfAttr)
    (h : db.bound oid = some (u.groupId, u.matchId)) :
    SameMembers db (udfCreateHashMask db oid u attrs).2 := by
  have hput : ∀ mask, SameMembers db (db.putUdf oid { u with hashMask := mask }) := by
    intro mask
    exact .putUdf h
  unfold udfCreateHashMask udfSetHashMask
  split
  · split
    · exact .refl db
    · split
      · exact (hput _).trans (udfSetHashUdfBmp_same _ _)
      · exact .refl db
  · split
    · exact (hput _).trans (udfSetHashUdfBmp_same _ _)
    · exact .refl db

/-- What programming the hardware does to the database: one group's record may
be written, and only `add_valid` differs. -/
structure UdfProgrammed (db db' : UdfDb ch) (g : Oid) (grp : UdfGroup) : Prop where
  udfs : db'.udfs = db.udfs
  udfMatches : db'.udfMatches = db.udfMatches
  pool : db'.pool = db.pool
  cnt : db'.udfGroupCnt = db.udfGroupCnt
  ecmp : db'.ecmpUdfGroups = db.ecmpUdfGroups
  lag : db'.lagUdfGroups = db.lagUdfGroups
  others : ∀ o, o ≠ g → db'.groups.lookup o = db.groups.lookup o
  own : ∃ v, db'.groups.lookup g = some { grp with addValid := v }

theorem UdfProgrammed.program (db : UdfDb ch) (g : Oid) {grp grp' : UdfGroup}
    (hg : ∃ v, grp' = { grp with addValid := v }) (hw : UdfHw) :
    UdfProgrammed db (db.program g grp' hw) g grp := by
  obtain ⟨v, hg⟩ := hg
  refine ⟨rfl, rfl, rfl, rfl, rfl, rfl, ?_, v, ?_⟩
  · intro o ho
    exact AList.lookup_insert_ne ho
  · rw [← hg]
    exact AList.lookup_insert db.groups

theorem UdfProgrammed.none (h : db.groups.lookup g = some grp) : UdfProgrammed db db g grp :=
  ⟨rfl, rfl, rfl, rfl, rfl, rfl, fun _ _ => rfl, grp.addValid, h⟩

theorem UdfProgrammed.same {db' : UdfDb ch} (h : UdfProgrammed db db' g grp)
    (hg : db.groups.lookup g = some grp) : SameMembers db db' := by
  obtain ⟨v, hown⟩ := h.own
  refine ⟨?_, ?_, ?_, ?_, h.cnt, h.ecmp, h.lag⟩
  · funext o
    by_cases ho : o = g
    · rw [ho, UdfDb.slots_of_lookup hown, UdfDb.slots_of_lookup hg]
    · unfold UdfDb.slots
      rw [h.others o ho]
  · funext o
    by_cases ho : o = g
    · rw [ho, UdfDb.acl_of_lookup hown, UdfDb.acl_of_lookup hg]
    · unfold UdfDb.acl
      rw [h.others o ho]
  · unfold UdfDb.refs
    rw [h.udfMatches]
  · unfold UdfDb.bound
    rw [h.udfs]

theorem udfRemoveCtcEntry_steady (sdk : UdfSdk) (n : BitVec 32) (grp : UdfGroup) (hw : UdfHw) :
    ∃ v, (udfRemoveCtcEntry sdk n grp hw).2.1 = { grp with addValid := v } := by
  unfold udfRemoveCtcEntry
  split
  · split
    · split
      · exact ⟨false, rfl⟩
      · exact ⟨grp.addValid, rfl⟩
    · exact ⟨grp.addValid, rfl⟩
  · exact ⟨grp.addValid, rfl⟩

theorem udfRemoveParserEntry_steady {p : Status × UdfGroup × UdfHw}
    (hp : udfRemoveParserEntry sdk db grp = some p) :
    ∃ v, p.2.1 = { grp with addValid := v } := by
  unfold udfRemoveParserEntry at hp
  split at hp
  · split at hp
    · cases hp
    · split at hp <;> cases hp
      · exact ⟨false, rfl⟩
      · exact ⟨grp.addValid, rfl⟩
    · cases hp; exact ⟨grp.addValid, rfl⟩
  · cases hp; exact ⟨grp.addValid, rfl⟩

theorem udfUpdateCtcUdfEntry_programmed {gid : Oid}
    (hr : udfUpdateCtcUdfEntry sdk db g gid grp = some r) : UdfProgrammed db r.2 g grp := by
  obtain ⟨v, hv⟩ := udfRemoveCtcEntry_steady sdk gid.value grp db.hw
  unfold udfUpdateCtcUdfEntry at hr
  split at hr
  · rename_i grp₁ hw₁ h₁
    rw [h₁] at hv
    split at hr
    · cases hr
    · cases hr; exact .program db g ⟨v, hv⟩ hw₁
    split at hr
    · cases hr; exact .program db g ⟨v, hv⟩ hw₁
    dsimp only at hr
    split at hr
    · cases hr
      exact .program db g ⟨true, by simp only [show grp₁ = _ from hv]⟩ _
    · cases hr; exact .program db g ⟨v, hv⟩ hw₁
  rename_i st grp₁ hw₁ _ h₁
  rw [h₁] at hv
  cases hr
  exact .program db g ⟨v, hv⟩ hw₁

theorem udfUpdateGoldengateCtcUdfEntry_programmed
    (hr : udfUpdateGoldengateCtcUdfEntry sdk db g grp = some r) : UdfProgrammed db r.2 g grp := by
  unfold udfUpdateGoldengateCtcUdfEntry at hr
  split at hr
  · cases hr
  · rename_i grp₁ hw₁ h₁
    obtain ⟨v, hv⟩ := udfRemoveParserEntry_steady h₁
    split at hr
    · cases hr
    · cases hr; exact .program db g ⟨v, hv⟩ hw₁
    split at hr
    · cases hr; exact .program db g ⟨v, hv⟩ hw₁
    dsimp only at hr
    split at hr
    · cases hr
      exact .program db g ⟨true, by simp only [show grp₁ = _ from hv]⟩ _
    · cases hr; exact .program db g ⟨v, hv⟩ hw₁
  rename_i st grp₁ hw₁ _ h₁
  obtain ⟨v, hv⟩ := udfRemoveParserEntry_steady h₁
  cases hr
  exact .program db g ⟨v, hv⟩ hw₁

theorem udfCreateEntry_same (hr : udfCreateEntry sdk db g = some r) : SameMembers db r.2 := by
  unfold udfCreateEntry at hr
  split at hr
  · cases hr
  rename_i grp h
  split at hr
  · exact (udfUpdateCtcUdfEntry_programmed hr).same h
  · exact (udfUpdateCtcUdfEntry_programmed hr).same h
  · exact (udfUpdateGoldengateCtcUdfEntry_programmed hr).same h
  · cases hr; exact .refl db

theorem udfRemoveEntry_programmed {gid : Oid} (h : db.groups.lookup g = some grp)
    (hr : udfRemoveEntry sdk db g gid grp = some r) :
    UdfProgrammed db r.2 g grp := by
  unfold udfRemoveEntry at hr
  split at hr
  · exact udfUpdateCtcUdfEntry_programmed hr
  · exact udfUpdateGoldengateCtcUdfEntry_programmed hr
  · cases hr; exact .none h
  · cases hr; exact .none h

theorem createUdfLate_same {oid : Oid} {u : Udf} {attrs : List UdfAttr}
    (h : db.bound oid = some (u.groupId, u.matchId))
    (hr : createUdfLate sdk db oid u attrs = some r) : SameMembers db r.2 := by
  have hmask := udfCreateHashMask_same attrs h
  unfold createUdfLate at hr
  split at hr
  · rename_i db₁ h₁
    rw [h₁] at hmask
    exact hmask.trans (udfCreateEntry_same hr)
  · cases hr; exact hmask

end Same

/-! ## Creation -/

/-- A UDF comes to stand in a free slot of its group, next to others of its
base and its match. -/
structure UdfPlaced (db db' : UdfDb ch) (u g m : Oid) (s : Fin 4 → Oid) (i : Fin 4) : Prop where
  group : db.slots g = some s
  free : s i = Oid.null
  like : (∀ j, s j = Oid.null) ∨ ∃ j n, s j ≠ Oid.null ∧ (s j).subType = u.subType ∧
    db.bound (s j) = some (n, m)
  slots : db'.slots = update db.slots g (some (update s i u))
  acl : db'.acl = db.acl
  bound : db'.bound = update db.bound u (some (g, m))
  cnt : db'.udfGroupCnt = db.udfGroupCnt
  ecmp : db'.ecmpUdfGroups = db.ecmpUdfGroups
  lag : db'.lagUdfGroups = db.lagUdfGroups

section Create

variable {sdk : UdfSdk} {db : UdfDb ch} {oid : Oid} {base : UdfBase} {m : Oid}
  {attrs : List UdfAttr}
variable {grp : UdfGroup}

theorem UdfGroup.mem_used {u : Oid} : u ∈ grp.used ↔ u ≠ Oid.null ∧ ∃ i, grp.udfId i = u := by
  simp only [UdfGroup.used, List.mem_filter, List.mem_map, List.mem_finRange, true_and,
    decide_eq_true_eq]
  exact And.comm

theorem UdfGroup.mem_used_of_clear {grp : UdfGroup} {i : Fin 4} {v : Oid}
    (h : v ∈ UdfGroup.used { grp with udfId := update grp.udfId i Oid.null }) :
    v ∈ grp.used := by
  obtain ⟨hne, j, hj⟩ := UdfGroup.mem_used.mp h
  refine UdfGroup.mem_used.mpr ⟨hne, j, ?_⟩
  by_cases hji : j = i
  · rw [← hj, hji] at hne
    exact absurd (update_self ..) hne
  · exact (update_of_ne hji _ _).symm.trans hj

theorem udfMatchUnfit_ne {t : ChipType} {rec : UdfMatch} {status : Status}
    (h : udfMatchUnfit t base rec = some status) : status ≠ .success := by
  unfold udfMatchUnfit at h
  repeat' split at h
  all_goals cases h
  all_goals exact nofun

theorem udfSlotRefused_ne {status : Status} (h : udfSlotRefused db grp base m = some status) :
    status ≠ .success := by
  unfold udfSlotRefused at h
  repeat' split at h
  all_goals cases h
  all_goals exact nofun

theorem udfSlotRefused_none (h : udfSlotRefused db grp base m = none)
    (hbase : oid.subType = BitVec.ofNat 3 base.ctorIdx) :
    (∀ j, grp.udfId j = Oid.null) ∨ ∃ j n, grp.udfId j ≠ Oid.null ∧
      (grp.udfId j).subType = oid.subType ∧ db.bound (grp.udfId j) = some (n, m) := by
  unfold udfSlotRefused at h
  split at h
  · rename_i hnone
    refine .inl fun j => ?_
    by_contra hj
    have hmem : grp.udfId j ∈ grp.used := UdfGroup.mem_used.mpr ⟨hj, j, rfl⟩
    rw [List.getLast?_eq_none_iff.mp hnone] at hmem
    exact List.not_mem_nil hmem
  rename_i u hu
  obtain ⟨hne, j, rfl⟩ := UdfGroup.mem_used.mp (List.mem_of_getLast? hu)
  split at h
  · cases h
  rename_i r hr
  split at h
  · cases h
  rename_i hlike
  simp only [ne_eq, not_or, not_not] at hlike
  refine .inr ⟨j, r.groupId, hne, hlike.1.trans hbase.symm, ?_⟩
  rw [hlike.2]
  exact UdfDb.bound_of_lookup hr

theorem SameMembers.undoGroup {db₁ : UdfDb ch} {g : Oid} {grp' : UdfGroup} {u : Udf}
    (hg : db.groups.lookup g = some grp)
    (h : SameMembers ((db.program g grp' db.hw).putUdf oid u) db₁) :
    SameBut oid db (db₁.program g grp db₁.hw) := by
  refine ⟨?_, ?_, h.refs, ?_, h.cnt, h.ecmp, h.lag⟩
  · rw [slots_insert, h.slots]
    show update (db.program g grp' db.hw).slots g _ = _
    rw [slots_insert, update_idem, ← UdfDb.slots_of_lookup hg, update_eq_self]
  · rw [acl_insert, h.acl]
    show update (db.program g grp' db.hw).acl g _ = _
    rw [acl_insert, update_idem, ← UdfDb.acl_of_lookup hg, update_eq_self]
  · intro v hv
    show db₁.bound v = _
    rw [h.bound, bound_putUdf, update_of_ne hv]
    rfl

theorem createUdfSlot_cases (hbase : oid.subType = BitVec.ofNat 3 base.ctorIdx)
    {r : Status × UdfDb ch} (hr : createUdfSlot sdk db oid base m attrs = some r) :
    (r.1 ≠ .success ∧ SameBut oid db r.2) ∨
      (r.1 = .success ∧ r.2.refs = db.refs ∧ ∃ g s i, UdfPlaced db r.2 oid g m s i) := by
  have same : SameBut oid db db := ⟨rfl, rfl, rfl, fun _ _ => rfl, rfl, rfl, rfl⟩
  unfold createUdfSlot at hr
  split at hr
  · cases hr; exact .inl ⟨nofun, same⟩
  rename_i g _
  split at hr
  · cases hr; exact .inl ⟨nofun, same⟩
  rename_i grp hg
  split at hr
  · cases hr; exact .inl ⟨nofun, same⟩
  rename_i i hi
  split at hr
  · rename_i status hst
    cases hr
    exact .inl ⟨udfSlotRefused_ne hst, same⟩
  rename_i hlike
  obtain ⟨r₁, hr₁, rfl⟩ := Option.map_eq_some_iff.mp hr
  have hsame := createUdfLate_same (by
    unfold UdfDb.bound
    rw [lookup_insert_ite, if_pos rfl]
    rfl) hr₁
  unfold orUndo
  split
  · rename_i hsucc
    refine .inr ⟨hsucc, hsame.refs, g, grp.udfId, i, UdfDb.slots_of_lookup hg, ?_,
      udfSlotRefused_none hlike hbase, ?_, ?_, ?_, hsame.cnt, hsame.ecmp, hsame.lag⟩
    · simpa using List.find?_some hi
    · rw [hsame.slots]
      exact slots_insert db g { grp with udfId := update grp.udfId i oid } db.hw
    · rw [hsame.acl]
      refine (acl_insert db g { grp with
        udfId := update grp.udfId i oid } db.hw).trans ?_
      rw [← UdfDb.acl_of_lookup hg, update_eq_self]
    · rw [hsame.bound]
      exact bound_putUdf db oid _
  · rename_i hne
    exact .inl ⟨hne, SameMembers.undoGroup hg hsame⟩

/-- The count of the match goes up by one. -/
def CountsUp (db db' : UdfDb ch) (m : Oid) : Prop :=
  ∃ c, db.refs m = some c ∧ db'.refs = update db.refs m (some (c + 1))

theorem createUdfRecord_cases (hbase : oid.subType = BitVec.ofNat 3 base.ctorIdx)
    {r : Status × UdfDb ch} (hr : createUdfRecord sdk db oid base attrs = some r) :
    (r.1 ≠ .success ∧ SameBut oid db r.2) ∨
      (r.1 = .success ∧ ∃ g m s i, UdfPlaced db r.2 oid g m s i ∧ CountsUp db r.2 m) := by
  have same : SameBut oid db db := ⟨rfl, rfl, rfl, fun _ _ => rfl, rfl, rfl, rfl⟩
  unfold createUdfRecord at hr
  split at hr
  · cases hr; exact .inl ⟨nofun, same⟩
  rename_i m _
  split at hr
  · cases hr; exact .inl ⟨nofun, same⟩
  rename_i rec hrec
  split at hr
  · rename_i status hst
    cases hr
    exact .inl ⟨udfMatchUnfit_ne hst, same⟩
  obtain ⟨r₁, hr₁, rfl⟩ := Option.map_eq_some_iff.mp hr
  have hput := refs_putMatch db m { rec with udfRefCnt := rec.udfRefCnt + 1 }
  rcases createUdfSlot_cases hbase hr₁ with ⟨hne, h⟩ | ⟨hsucc, hrefs, g, s, i, h⟩
  · unfold orUndo
    rw [if_neg hne]
    refine .inl ⟨hne, h.slots, h.acl, ?_, h.bound, h.cnt, h.ecmp, h.lag⟩
    refine (refs_putMatch r₁.2 m rec).trans ?_
    rw [h.refs]
    refine (congrArg (update · m _) hput).trans ?_
    rw [update_idem, ← UdfDb.refs_of_lookup hrec, update_eq_self]
  unfold orUndo
  rw [if_pos hsucc]
  refine .inr ⟨hsucc, g, m, s, i, ?_, rec.udfRefCnt, UdfDb.refs_of_lookup hrec, hrefs.trans hput⟩
  exact ⟨h.group, h.free, h.like, h.slots, h.acl, h.bound, h.cnt, h.ecmp, h.lag⟩

theorem subType_udfOid (c : Lchip) (base : UdfBase) (n : BitVec 32) :
    (udfOid c base n).subType = BitVec.ofNat 3 base.ctorIdx := by
  cases base <;> rfl

/-- A creation changes nothing, or a UDF joins a group. -/
theorem createUdf_cases
    (hslot : ∀ g s j, db.slots g = some s → s j ≠ Oid.null → (db.bound (s j)).isSome)
    {r : Status × Option Oid × UdfDb ch} (hr : createUdf sdk db attrs = some r) :
    (r.2.1 = none ∧ SameMembers db r.2.2) ∨ ∃ u g m s i, r.2.1 = some u ∧ u ≠ Oid.null ∧
      db.bound u = none ∧ UdfPlaced db r.2.2 u g m s i ∧ CountsUp db r.2.2 m := by
  have same : ∀ pool, SameMembers db { db with pool := pool } := by
    intro pool
    exact ⟨rfl, rfl, rfl, rfl, rfl, rfl, rfl⟩
  unfold createUdf at hr
  split at hr
  · cases hr; exact .inl ⟨rfl, .refl db⟩
  rename_i n pool _
  dsimp only at hr
  split at hr
  · cases hr; exact .inl ⟨rfl, same _⟩
  split at hr
  · cases hr; exact .inl ⟨rfl, same _⟩
  split at hr
  · cases hr; exact .inl ⟨rfl, same _⟩
  rename_i hnew
  split at hr
  · cases hr; exact .inl ⟨rfl, same _⟩
  obtain ⟨r₁, hr₁, rfl⟩ := Option.map_eq_some_iff.mp hr
  generalize hoid : udfOid ch.lchip
    ((findAttribInList UdfAttr.base? attrs).getD .l2) (BitVec.ofNat 32 n) = oid at *
  have hnone : db.bound oid = none := by
    unfold UdfDb.bound
    rw [Option.not_isSome_iff_eq_none.mp hnew]
    rfl
  -- the record that is stored first
  have hzero := bound_putUdf db oid .zero
  have hold : ∀ v, v ≠ oid → (db.putUdf oid .zero).bound v = db.bound v := by
    intro v hv
    rw [hzero, update_of_ne hv]
  rcases createUdfRecord_cases (by rw [← hoid]; exact subType_udfOid _ _ _) hr₁ with
    ⟨hne, h⟩ | ⟨hsucc, g, m, s, i, h, c, hc, hrefs⟩
  · rw [if_neg hne]
    refine .inl ⟨rfl, h.slots, h.acl, h.refs, ?_, h.cnt, h.ecmp, h.lag⟩
    funext v
    unfold UdfDb.bound
    rw [lookup_erase_ite]
    split
    · rename_i hv
      rw [hv]
      exact hnone.symm
    · rename_i hv
      exact (h.bound v hv).trans (hold v hv)
  rw [if_pos hsucc]
  refine .inr ⟨oid, g, m, s, i, rfl, ?_, hnone, ?_, c, hc, hrefs⟩
  · rw [← hoid]
    exact createObjectId_ne_null (by decide) _ _ _ _
  · refine ⟨h.group, h.free, ?_, h.slots, h.acl, ?_, h.cnt, h.ecmp, h.lag⟩
    · refine h.like.imp_right ?_
      rintro ⟨j, k, hj, hsub, hbound⟩
      refine ⟨j, k, hj, hsub, ?_⟩
      rw [← hold (s j)]
      · exact hbound
      · intro he
        have := hslot g s j h.group hj
        rw [he, hnone] at this
        cases this
    · rw [h.bound]
      refine (congrArg (update · oid _) hzero).trans ?_
      rw [update_idem]

end Create

end CtcSai
