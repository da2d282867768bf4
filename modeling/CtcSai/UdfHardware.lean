/-
# `UdfHardware` — a UDF group in its hardware entry

What a creation and a removal do to the hardware, where the SDK does all it is
asked: the lookups of the tables before and after, the numbers of the objects,
and the offsets of the entries.
-/
import CtcSai.UdfMembersRuns
import CtcSai.UdfBitmap

namespace CtcSai

open Function IdPool KeyedTable Table

variable {ch : UdfChip}

/-- The offset of a UDF. -/
def UdfDb.offsetOf (db : UdfDb ch) (u : Oid) : BitVec 8 :=
  ((db.udfs.lookup u).map Udf.offset).getD 0

/-- The hash mask of a UDF. -/
def UdfDb.maskOf (db : UdfDb ch) (u : Oid) : Fin 4 → BitVec 8 :=
  ((db.udfs.lookup u).map Udf.hashMask).getD fun _ => 0

/-- The priority of the match of a UDF. -/
def UdfDb.prioOf (db : UdfDb ch) (u : Oid) : BitVec 8 :=
  (((db.udfs.lookup u).bind fun r => db.udfMatches.lookup r.matchId).map UdfMatch.priority).getD 0

/-! ## Collected records -/

section Collect

variable {db : UdfDb ch} {l : List Oid}

theorem UdfDb.Collects.offsets {L : List (Oid × Udf × UdfMatch)} (h : db.Collects l L) :
    (L.map fun p => p.2.1.offset) = l.map db.offsetOf := by
  rw [← h.ids, List.map_map]
  refine List.map_congr_left fun p hp => ?_
  simp [UdfDb.offsetOf, (h.recs p hp).1]

theorem records_of_known (h : db.Known l) : ∃ R, db.records l = some R ∧
    (R.map fun p => (p.2.offset, udfHashBmp p.2.hashMask)) =
      l.map fun u => (db.offsetOf u, udfHashBmp (db.maskOf u)) := by
  induction l with
  | nil => exact ⟨[], rfl, rfl⟩
  | cons u l ih =>
    obtain ⟨R, hR, he⟩ := ih fun v hv => h v (List.mem_cons_of_mem u hv)
    obtain ⟨r, m, hr, -⟩ := h u List.mem_cons_self
    refine ⟨(u, r) :: R, ?_, ?_⟩
    · simp [UdfDb.records, hr, hR]
    · simp [he, UdfDb.offsetOf, UdfDb.maskOf, hr]

end Collect

/-! ## Creation -/

/-- The lookups, the numbers and the hardware do not differ. -/
structure UdfEq (db db' : UdfDb ch) : Prop where
  groups : Table.get db'.groups = Table.get db.groups
  udfMatches : Table.get db'.udfMatches = Table.get db.udfMatches
  udfs : Table.get db'.udfs = Table.get db.udfs
  used : db'.pool.used = db.pool.used
  hw : db'.hw = db.hw

/-- The hash mask of a new UDF is refused, or it is stored, and the bitmap of a
hash group with it. -/
theorem udfCreateHashMask_exact {db : UdfDb ch} (h : UdfInv db) {oid g : Oid} {u : Udf}
    {grp : UdfGroup} (hug : u.groupId = g) (hg : db.groups.lookup g = some grp)
    (hoid : db.udfs.lookup oid = some u) (attrs : List UdfAttr) :
    ((udfCreateHashMask db oid u attrs).1 ≠ .success ∧
        (udfCreateHashMask db oid u attrs).2 = db) ∨
      ∃ db' mask bmp, udfCreateHashMask db oid u attrs = (.success, db') ∧
        Table.get db'.udfs = update (Table.get db.udfs) oid (some { u with hashMask := mask }) ∧
        Table.get db'.groups =
          update (Table.get db.groups) g (some { grp with hashUdfBmp := bmp }) ∧
        db'.udfMatches = db.udfMatches ∧ db'.pool = db.pool ∧ db'.hw = db.hw ∧
        (ch.chipType.duet2Up → isHashUdfGroup g → bmp = udfBubbleSort (grp.used.map fun v =>
          (db'.offsetOf v, udfHashBmp (db'.maskOf v)))) := by
  subst hug
  -- the record with its mask, and then the bitmap
  have hstore : ∀ mask, ∃ db' bmp, udfSetHashUdfBmp (db.putUdf oid { u with hashMask := mask })
        u.groupId = (.success, db') ∧
      Table.get db'.udfs = update (Table.get db.udfs) oid (some { u with hashMask := mask }) ∧
      Table.get db'.groups =
        update (Table.get db.groups) u.groupId (some { grp with hashUdfBmp := bmp }) ∧
      db'.udfMatches = db.udfMatches ∧ db'.pool = db.pool ∧ db'.hw = db.hw ∧
      bmp = udfBubbleSort (grp.used.map fun v => (db'.offsetOf v, udfHashBmp (db'.maskOf v))) := by
    intro mask
    have hsame : SameMembers db (db.putUdf oid { u with hashMask := mask }) := by
      have hb := UdfDb.bound_of_lookup hoid
      exact .putUdf hb
    have hput := h.congr hsame
    have hg' : (db.putUdf oid { u with hashMask := mask }).groups.lookup u.groupId = some grp := hg
    obtain ⟨R, hR, he⟩ := records_of_known (hput.known hg')
    generalize hbmp : udfBubbleSort (R.map fun p => (p.2.offset, udfHashBmp p.2.hashMask)) = bmp
    have hset : udfSetHashUdfBmp (db.putUdf oid { u with hashMask := mask }) u.groupId =
        (.success, { db.putUdf oid { u with hashMask := mask } with
          groups := db.groups.insert u.groupId { grp with hashUdfBmp := bmp } }) := by
      unfold udfSetHashUdfBmp
      rw [hg']
      dsimp only
      rw [hR]
      dsimp only
      rw [hbmp]
      rfl
    refine ⟨_, bmp, hset, get_insert _ _ _, get_insert _ _ _, rfl, rfl, rfl, ?_⟩
    rw [← hbmp, he]
    rfl
  unfold udfCreateHashMask udfSetHashMask
  split
  · split
    · exact .inl ⟨nofun, rfl⟩
    · split
      · obtain ⟨db', bmp, he, h₁, h₂, h₃, h₄, h₅, h₆⟩ := hstore fun i => _
        exact .inr ⟨db', _, bmp, he, h₁, h₂, h₃, h₄, h₅, fun _ _ => h₆⟩
      · exact .inl ⟨nofun, rfl⟩
  split
  · obtain ⟨db', bmp, he, h₁, h₂, h₃, h₄, h₅, h₆⟩ := hstore fun _ => 0xFF
    exact .inr ⟨db', _, bmp, he, h₁, h₂, h₃, h₄, h₅, fun _ _ => h₆⟩
  rename_i hno
  refine .inr ⟨db, u.hashMask, grp.hashUdfBmp, rfl, ?_, ?_, rfl, rfl, rfl, ?_⟩
  · rw [show some _ = Table.get db.udfs oid from hoid.symm, update_eq_self]
  · rw [show some _ = Table.get db.groups u.groupId from hg.symm, update_eq_self]
  · exact fun h₁ h₂ => absurd ⟨h₁, h₂⟩ hno

/-- What a creation leaves in the hardware and the bitmap. -/
structure UdfShown (hw : UdfHw) (db' : UdfDb ch) (g : Oid) (ids : List Oid) (prio : BitVec 8)
    (bmp : BitVec 16) : Prop where
  bmp : ch.chipType.duet2Up → isHashUdfGroup g →
    bmp = udfBubbleSort (ids.map fun v => (db'.offsetOf v, udfHashBmp (db'.maskOf v)))
  ctc : ch.chipType.duet2Up → db'.hw.offsets =
    update hw.offsets g.value (some (ids.map db'.offsetOf))
  parser : ch.chipType = .goldengate → db'.hw.parserOffsets =
    update hw.parserOffsets prio (some (ids.map db'.offsetOf))

/-- From OFFSET on, where the UDF is in its slot and counted. -/
theorem createUdfLate_exact {sdk : UdfSdk} {db : UdfDb ch} (h : UdfInv db) (hsdk : sdk.Succeeds)
    (hgb : ch.chipType ≠ .greatbelt) {oid g : Oid} {u : Udf} {grp : UdfGroup} {rec : UdfMatch}
    (hug : u.groupId = g) (hg : db.groups.lookup g = some grp)
    (hoid : db.udfs.lookup oid = some u) (hmem : oid ∈ grp.used)
    (hrec : db.udfMatches.lookup u.matchId = some rec) {attrs : List UdfAttr}
    {r : Status × UdfDb ch} (hr : createUdfLate sdk db oid u attrs = some r) :
    (r.1 ≠ .success ∧ r.2 = db) ∨ (r.1 = .success ∧ ∃ mask bmp, Table.get r.2.udfs =
        update (Table.get db.udfs) oid (some { u with hashMask := mask }) ∧
      Table.get r.2.groups = update (Table.get db.groups) g
        (some { grp with addValid := true, hashUdfBmp := bmp }) ∧
      r.2.udfMatches = db.udfMatches ∧ r.2.pool = db.pool ∧
      UdfShown db.hw r.2 g grp.used rec.priority bmp) := by
  have hsame := udfCreateHashMask_same attrs (UdfDb.bound_of_lookup hoid)
  unfold createUdfLate at hr
  rcases udfCreateHashMask_exact h hug hg hoid attrs with ⟨hne, hdb⟩ |
    ⟨db', mask, bmp, he, hudfs, hgroups, hmatches, hpool, hhw, hbmp⟩
  · split at hr
    · rename_i db₁ h₁
      rw [h₁] at hne
      exact absurd rfl hne
    · cases hr
      exact .inl ⟨hne, hdb⟩
  rw [he] at hr hsame
  dsimp only at hr
  have h' : UdfInv db' := h.congr hsame
  have hg' : db'.groups.lookup g = some { grp with hashUdfBmp := bmp } := by
    show Table.get db'.groups g = _
    rw [hgroups, update_self]
  have hoid' : db'.udfs.lookup oid = some { u with hashMask := mask } := by
    show Table.get db'.udfs oid = _
    rw [hudfs, update_self]
  obtain ⟨L, hL⟩ := (h'.known hg').collects
  have hLused : ∀ p ∈ L, p.1 ∈ grp.used := by
    intro p hp
    have := List.mem_map_of_mem (f := Prod.fst) hp
    rwa [hL.ids] at this
  obtain ⟨hgid, prio, hprio, hzero⟩ := h'.collected hg' fun p hp => ⟨hLused p hp, hL.recs p hp⟩
  -- the new UDF is one of those collected
  obtain ⟨q, hq, hqid⟩ : ∃ q ∈ L, q.1 = oid := by
    have hmem' : oid ∈ L.map Prod.fst := by
      rw [hL.ids]
      exact hmem
    exact List.mem_map.mp hmem'
  have hne : L ≠ [] := List.ne_nil_of_mem hq
  have hprio' : prio = rec.priority := by
    obtain ⟨h₁, h₂⟩ := hL.recs q hq
    rw [hqid, hoid'] at h₁
    rw [← Option.some.inj h₁, hmatches, hrec] at h₂
    rw [← hprio q hq, ← Option.some.inj h₂]
  unfold udfCreateEntry at hr
  rw [hug, hg'] at hr
  dsimp only at hr
  obtain ⟨hw₁, e₁, -, ho₁⟩ := udfUpdateCtcUdfEntry_ok hsdk hL
    fun p hp => congrArg Oid.value (hgid p hp)
  obtain ⟨hw₂, e₂, -, ho₂⟩ := udfUpdateGoldengateCtcUdfEntry_ok hsdk hL hprio hzero
  have hempty : (!L.isEmpty) = true := by
    rw [List.isEmpty_eq_false_iff.mpr hne]
    rfl
  rw [hempty] at e₁ e₂
  rw [if_neg hne, hhw, hL.offsets] at ho₁
  rw [if_neg hne, hhw, hL.offsets, hprio'] at ho₂
  -- the same for both kinds of hardware
  have hfinal : ∀ hw, r = (.success, db'.program g { grp with
        addValid := true, hashUdfBmp := bmp } hw) →
      (ch.chipType.duet2Up → hw.offsets =
        update db.hw.offsets g.value (some (grp.used.map db'.offsetOf))) →
      (ch.chipType = .goldengate → hw.parserOffsets =
        update db.hw.parserOffsets rec.priority (some (grp.used.map db'.offsetOf))) →
      r.1 = .success ∧ ∃ mask bmp, Table.get r.2.udfs =
          update (Table.get db.udfs) oid (some { u with hashMask := mask }) ∧
        Table.get r.2.groups = update (Table.get db.groups) g
          (some { grp with addValid := true, hashUdfBmp := bmp }) ∧
        r.2.udfMatches = db.udfMatches ∧ r.2.pool = db.pool ∧
        UdfShown db.hw r.2 g grp.used rec.priority bmp := by
    rintro hw rfl hctc hparser
    refine ⟨rfl, mask, bmp, hudfs, ?_, hmatches, hpool, hbmp, hctc, hparser⟩
    refine (get_insert _ _ _).trans ?_
    rw [hgroups, update_idem]
  refine .inr ?_
  split at hr
  · rename_i hchip
    rw [e₁] at hr
    refine hfinal hw₁ (Option.some.inj hr).symm (fun _ => ho₁) fun h0 => ?_
    rw [hchip] at h0
    cases h0
  · rename_i hchip
    rw [e₁] at hr
    refine hfinal hw₁ (Option.some.inj hr).symm (fun _ => ho₁) fun h0 => ?_
    rw [hchip] at h0
    cases h0
  · rename_i hchip
    rw [e₂] at hr
    refine hfinal hw₂ (Option.some.inj hr).symm (fun h0 => ?_) fun _ => ho₂
    rw [hchip] at h0
    cases h0
  · rename_i hchip
    exact absurd hchip hgb

/-- The database before OFFSET: the record stored, the match counted and the
slot taken. -/
structure UdfSlotted (db db₂ : UdfDb ch) (attrs : List UdfAttr) (oid : Oid) (n : Nat) (u : Udf)
    (i : Fin 4) (grp : UdfGroup) (rec : UdfMatch) : Prop where
  alloc : ∃ pool, db.pool.alloc = some (n, pool) ∧ db₂.pool = pool
  id : ∃ base, ∃ db₁ : UdfDb ch, oid = udfOid ch.lchip base (BitVec.ofNat 32 n) ∧
    db₁.udfs = db.udfs.insert oid .zero ∧ udfSlotRefused db₁ grp base u.matchId = none
  fresh : db.udfs.lookup oid = none
  givenGroup : findAttribInList UdfAttr.groupId? attrs = some u.groupId
  givenMatch : findAttribInList UdfAttr.matchId? attrs = some u.matchId
  group : db.groups.lookup u.groupId = some grp
  mtch : db.udfMatches.lookup u.matchId = some rec
  free : grp.udfId i = Oid.null
  groups : db₂.groups =
    db.groups.insert u.groupId { grp with udfId := update grp.udfId i oid }
  mtches : db₂.udfMatches =
    db.udfMatches.insert u.matchId { rec with udfRefCnt := rec.udfRefCnt + 1 }
  udfs : Table.get db₂.udfs = update (Table.get db.udfs) oid (some u)
  cnt : db₂.udfGroupCnt = db.udfGroupCnt
  ecmp : db₂.ecmpUdfGroups = db.ecmpUdfGroups
  lag : db₂.lagUdfGroups = db.lagUdfGroups
  hw : db₂.hw = db.hw

theorem udf_restored {V : Type} {t : Table Oid V} {k : Oid} {v : V} (h : t.lookup k = some v) (w : V) :
    Table.get ((t.insert k w).insert k v) = Table.get t := by
  rw [get_insert, get_insert, update_idem, ← show Table.get t k = some v from h, update_eq_self]

/-- A creation changes nothing, or it comes to OFFSET. -/
theorem createUdf_split {sdk : UdfSdk} {db : UdfDb ch} {attrs : List UdfAttr}
    {r : Status × Option Oid × UdfDb ch} (hr : createUdf sdk db attrs = some r) :
    UdfEq db r.2.2 ∨ ∃ oid n u i grp rec db₂ r₁, createUdfLate sdk db₂ oid u attrs = some r₁ ∧
      UdfSlotted db db₂ attrs oid n u i grp rec ∧
      ((r₁.1 = .success ∧ r.2.2 = r₁.2) ∨
        (r₁.1 ≠ .success ∧ (r₁.2 = db₂ → UdfEq db r.2.2))) := by
  have hback : ∀ {n pool}, db.pool.alloc = some (n, pool) →
      UdfEq db { db with pool := pool.free n } := by
    intro n pool ha
    exact ⟨rfl, rfl, rfl, congrArg Pool.used (Pool.free_of_alloc ha), rfl⟩
  -- the way back once the record is stored
  have herase : ∀ {n pool oid}, db.pool.alloc = some (n, pool) → db.udfs.lookup oid = none →
      UdfEq db { db with
        udfs := (db.udfs.insert oid .zero).erase oid, pool := pool.free n } := by
    intro n pool oid ha hnone
    refine ⟨rfl, rfl, ?_, congrArg Pool.used (Pool.free_of_alloc ha), rfl⟩
    exact congrArg Table.get (erase_insert hnone .zero)
  unfold createUdf at hr
  split at hr
  · cases hr; exact .inl ⟨rfl, rfl, rfl, rfl, rfl⟩
  rename_i n pool halloc
  dsimp only at hr
  split at hr
  · cases hr; exact .inl (hback halloc)
  split at hr
  · cases hr; exact .inl (hback halloc)
  split at hr
  · cases hr; exact .inl (hback halloc)
  rename_i hnew
  have hnone := Option.not_isSome_iff_eq_none.mp hnew
  split at hr
  · cases hr; exact .inl (hback halloc)
  generalize hbase : (findAttribInList UdfAttr.base? attrs).getD .l2 = base at *
  obtain ⟨r₁, hr₁, rfl⟩ := Option.map_eq_some_iff.mp hr
  unfold createUdfRecord at hr₁
  split at hr₁
  · cases hr₁; exact .inl (herase halloc hnone)
  rename_i m hm
  split at hr₁
  · cases hr₁; exact .inl (herase halloc hnone)
  rename_i rec hrec
  split at hr₁
  · rename_i status hst
    cases hr₁
    rw [if_neg (udfMatchUnfit_ne hst)]
    exact .inl (herase halloc hnone)
  obtain ⟨r₂, hr₂, rfl⟩ := Option.map_eq_some_iff.mp hr₁
  have hmatches : Table.get ((db.udfMatches.insert m
      { rec with udfRefCnt := rec.udfRefCnt + 1 }).insert m rec) =
      Table.get db.udfMatches := udf_restored hrec _
  -- `error2` and `error1`
  have hfail : UdfEq db { db with
      udfs := (db.udfs.insert (udfOid ch.lchip base (BitVec.ofNat 32 n))
        .zero).erase (udfOid ch.lchip base (BitVec.ofNat 32 n))
      udfMatches := (db.udfMatches.insert m
        { rec with udfRefCnt := rec.udfRefCnt + 1 }).insert m rec
      pool := pool.free n } := by
    obtain ⟨h₁, -, h₃, h₄, h₅⟩ := herase halloc hnone
    exact ⟨h₁, hmatches, h₃, h₄, h₅⟩
  unfold createUdfSlot at hr₂
  split at hr₂
  · cases hr₂; exact .inl hfail
  rename_i g hgiven
  split at hr₂
  · cases hr₂; exact .inl hfail
  rename_i grp hg
  split at hr₂
  · cases hr₂; exact .inl hfail
  rename_i i hi
  split at hr₂
  · rename_i status hst
    cases hr₂
    simp only [orUndo, if_neg (udfSlotRefused_ne hst)]
    exact .inl hfail
  rename_i hlike
  obtain ⟨r₃, hr₃, rfl⟩ := Option.map_eq_some_iff.mp hr₂
  refine .inr ⟨_, n, _, i, grp, rec, _, r₃, hr₃, ?_, ?_⟩
  · refine ⟨⟨pool, halloc, rfl⟩, ⟨base, _, rfl, ?_, hlike⟩, hnone, hgiven, hm,
      hg, hrec, ?_, rfl, rfl, ?_, rfl, rfl, rfl, rfl⟩
    · rfl
    · simpa using List.find?_some hi
    · refine (get_insert _ _ _).trans ?_
      rw [get_insert, update_idem]
  · by_cases hsucc : r₃.1 = .success
    · refine .inl ⟨hsucc, ?_⟩
      simp only [orUndo, if_pos hsucc]
    · refine .inr ⟨hsucc, fun hdb => ?_⟩
      simp only [orUndo, if_neg hsucc]
      rw [hdb]
      refine ⟨udf_restored hg _, hmatches, ?_, congrArg Pool.used (Pool.free_of_alloc halloc), rfl⟩
      refine (get_erase _ _).trans ?_
      rw [get_insert, get_insert, update_idem,
        update_idem, ← show Table.get db.udfs _ = none from hnone,
        update_eq_self]

section Made

variable {db db' db₂ : UdfDb ch} {attrs : List UdfAttr} {oid : Oid} {n : Nat} {u : Udf} {i : Fin 4}
  {grp : UdfGroup} {rec : UdfMatch}

theorem UdfSlotted.inv (hs : UdfSlotted db db₂ attrs oid n u i grp rec) (h : UdfInv db) :
    UdfInv db₂ := by
  obtain ⟨base, db₁, hid, hdb₁, hlike⟩ := hs.id
  have hnone : db.bound oid = none := by
    unfold UdfDb.bound
    rw [hs.fresh]
    rfl
  have hgroup := UdfDb.slots_of_lookup hs.group
  have hbound : db₂.bound = update db.bound oid (some (u.groupId, u.matchId)) := by
    funext v
    show (Table.get db₂.udfs v).map _ = _
    rw [hs.udfs, update_apply, update_apply]
    split <;> rfl
  have hplaced : UdfPlaced db db₂ oid u.groupId u.matchId grp.udfId i := by
    refine ⟨hgroup, hs.free, ?_, ?_, ?_, hbound, hs.cnt, hs.ecmp, hs.lag⟩
    · refine (udfSlotRefused_none hlike (hid ▸ subType_udfOid _ _ _)).imp_right ?_
      rintro ⟨j, k, hj, hsub, hb⟩
      obtain ⟨m, hm⟩ := h.slot hgroup hj
      refine ⟨j, k, hj, hsub, ?_⟩
      unfold UdfDb.bound at hb
      rw [hdb₁, lookup_insert_ite, if_neg] at hb
      · exact hb
      · intro he
        rw [he, hnone] at hm
        cases hm
    · funext o
      unfold UdfDb.slots
      rw [hs.groups, lookup_insert_ite, update_apply]
      split <;> rfl
    · funext o
      unfold UdfDb.acl
      rw [hs.groups, lookup_insert_ite]
      split
      · rename_i ho
        rw [ho, hs.group]
        rfl
      · rfl
  refine h.join hnone ?_ hplaced ⟨rec.udfRefCnt, UdfDb.refs_of_lookup hs.mtch, ?_⟩
  · rw [hid]
    exact createObjectId_ne_null (by decide) _ _ _ _
  · funext o
    unfold UdfDb.refs
    rw [hs.mtches, lookup_insert_ite, update_apply]
    split <;> rfl

/-- A UDF has been created. -/
structure UdfMade (db db' : UdfDb ch) (attrs : List UdfAttr) (oid : Oid) (n : Nat) (u : Udf)
    (i : Fin 4) (grp : UdfGroup) (rec : UdfMatch) (bmp : BitVec 16) : Prop where
  unused : n ∉ db.pool.used
  used : db'.pool.used = insert n db.pool.used
  num : oid.value.toNat = n
  type : oid.type = ObjectType.udf.bits
  fresh : db.udfs.lookup oid = none
  givenGroup : findAttribInList UdfAttr.groupId? attrs = some u.groupId
  givenMatch : findAttribInList UdfAttr.matchId? attrs = some u.matchId
  group : db.groups.lookup u.groupId = some grp
  mtch : db.udfMatches.lookup u.matchId = some rec
  free : grp.udfId i = Oid.null
  groups : Table.get db'.groups = update (Table.get db.groups) u.groupId
    (some ⟨grp.aclRefCnt, true, update grp.udfId i oid, bmp⟩)
  mtches : Table.get db'.udfMatches = update (Table.get db.udfMatches) u.matchId
    (some { rec with udfRefCnt := rec.udfRefCnt + 1 })
  udfs : Table.get db'.udfs = update (Table.get db.udfs) oid (some u)
  shown : UdfShown db.hw db' u.groupId
    (UdfGroup.used ⟨grp.aclRefCnt, true, update grp.udfId i oid, bmp⟩) rec.priority bmp

/-- A creation changes nothing, or makes a UDF and shows it to the hardware. -/
theorem createUdf_exact {sdk : UdfSdk} (h : UdfInv db) (hsdk : sdk.Succeeds)
    (hgb : ch.chipType ≠ .greatbelt) {r : Status × Option Oid × UdfDb ch}
    (hr : createUdf sdk db attrs = some r) :
    UdfEq db r.2.2 ∨ ∃ oid n u i grp rec bmp, UdfMade db r.2.2 attrs oid n u i grp rec bmp := by
  rcases createUdf_split hr with heq | ⟨oid, n, u, i, grp, rec, db₂, r₁, hr₁, hs, hend⟩
  · exact .inl heq
  obtain ⟨pool, halloc, hpool⟩ := hs.alloc
  obtain ⟨hunused, -, htop, hused, -⟩ := Pool.alloc_some halloc
  obtain ⟨base, -, hid, -⟩ := hs.id
  have hlt : n < 2 ^ 32 := Nat.lt_of_lt_of_le htop ch.common_top
  have hne : oid ≠ Oid.null := by
    rw [hid]
    exact createObjectId_ne_null (by decide) _ _ _ _
  have hg₂ : db₂.groups.lookup u.groupId = some { grp with udfId := update grp.udfId i oid } := by
    rw [hs.groups]
    exact AList.lookup_insert db.groups
  have hoid₂ : db₂.udfs.lookup oid = some u := by
    show Table.get db₂.udfs oid = _
    rw [hs.udfs, update_self]
  have hmem : oid ∈ ({ grp with udfId := update grp.udfId i oid } : UdfGroup).used :=
    UdfGroup.mem_used.mpr ⟨hne, i, update_self ..⟩
  have hrec₂ : db₂.udfMatches.lookup u.matchId =
      some { rec with udfRefCnt := rec.udfRefCnt + 1 } := by
    rw [hs.mtches]
    exact AList.lookup_insert db.udfMatches
  rcases createUdfLate_exact (hs.inv h) hsdk hgb rfl hg₂ hoid₂ hmem hrec₂ hr₁ with
    ⟨hne₁, hdb₂⟩ | ⟨hsucc, mask, bmp, hudfs, hgroups, hmatches, hpool', hshown⟩
  · rcases hend with ⟨hsucc, -⟩ | ⟨-, hback⟩
    · exact absurd hsucc hne₁
    · exact .inl (hback hdb₂)
  rcases hend with ⟨-, hdb⟩ | ⟨hne₁, -⟩
  · rw [hdb]
    refine .inr ⟨oid, n, { u with hashMask := mask }, i, grp, rec, bmp, hunused, ?_, ?_, ?_,
      hs.fresh, hs.givenGroup, hs.givenMatch, hs.group, hs.mtch, hs.free, ?_, ?_, ?_, ?_⟩
    · rw [hpool', hpool, hused]
    · rw [hid]
      exact Nat.mod_eq_of_lt hlt
    · rw [hid]
      rfl
    · rw [hgroups, hs.groups, get_insert, update_idem]
    · rw [hmatches, hs.mtches, get_insert]
    · rw [hudfs, hs.udfs, update_idem]
    · rw [← hs.hw]
      exact hshown
  · exact absurd hsucc hne₁

end Made

/-! ## Removal -/

/-- A UDF has been removed; `valid` and the hardware are as the chip has it. -/
structure UdfGone (db db' : UdfDb ch) (oid : Oid) (u : Udf) (i : Fin 4) (grp : UdfGroup)
    (rec : UdfMatch) (ids : List Oid) : Prop where
  had : db.udfs.lookup oid = some u
  group : db.groups.lookup u.groupId = some grp
  mtch : db.udfMatches.lookup u.matchId = some rec
  held : grp.udfId i = oid
  left : ids = UdfGroup.used { grp with udfId := update grp.udfId i Oid.null }
  groups : ∃ v, Table.get db'.groups = update (Table.get db.groups) u.groupId
      (some { grp with addValid := v, udfId := update grp.udfId i Oid.null }) ∧
    (ch.chipType = .duet2 ∨ ch.chipType = .goldengate → v = !ids.isEmpty)
  mtches : Table.get db'.udfMatches = update (Table.get db.udfMatches) u.matchId
    (some { rec with udfRefCnt := rec.udfRefCnt - 1 })
  udfs : Table.get db'.udfs = update (Table.get db.udfs) oid none
  used : db'.pool.used = db.pool.used.erase oid.value.toNat
  ctc : ch.chipType = .duet2 → db'.hw.offsets = if ids = [] then
      if grp.addValid then update db.hw.offsets u.groupId.value none else db.hw.offsets
    else update db.hw.offsets u.groupId.value (some (ids.map db.offsetOf))
  parser : ch.chipType = .goldengate → db'.hw.parserOffsets = if ids = [] then
      if grp.addValid then update db.hw.parserOffsets 0 none else db.hw.parserOffsets
    else update db.hw.parserOffsets rec.priority (some (ids.map db.offsetOf))

theorem removeUdf_exact {sdk : UdfSdk} {db : UdfDb ch} (h : UdfInv db) (hsdk : sdk.Succeeds)
    {oid : Oid} (huniq : UdfUnique db oid) {r : Status × UdfDb ch}
    (hr : removeUdf sdk db oid = some r) :
    r.2 = db ∨ ∃ u i grp rec ids, UdfGone db r.2 oid u i grp rec ids := by
  cases hu : db.udfs.lookup oid with
  | none =>
    unfold removeUdf at hr
    rw [hu] at hr
    cases hr
    exact .inl rfl
  | some u =>
    have hub := UdfDb.bound_of_lookup hu
    obtain ⟨s, i', hs, -⟩ := h.mem hub
    obtain ⟨grp, hg, -⟩ := UdfDb.lookup_of_slots hs
    obtain ⟨last, i, hi, hlg, hlm, hclear⟩ := h.clearSlots hu huniq hg
    obtain ⟨rec, hrec, -⟩ := Option.map_eq_some_iff.mp
      (Option.isSome_iff_exists.mp (h.live hub)).choose_spec
    -- the hardware is programmed with what is left
    have hentry : ∀ grp' : UdfGroup, (∀ v ∈ grp'.used, v ∈ grp.used) →
        grp'.addValid = grp.addValid → ∃ db₂, udfRemoveEntry sdk ({ db with
            groups := db.groups.insert u.groupId grp' } : UdfDb ch) u.groupId u.groupId grp' =
          some (.success, db₂) ∧ db₂.udfs = db.udfs ∧ db₂.udfMatches = db.udfMatches ∧
        db₂.pool = db.pool ∧
        (∃ v, Table.get db₂.groups = update (Table.get db.groups) u.groupId
            (some { grp' with addValid := v }) ∧
          (ch.chipType = .duet2 ∨ ch.chipType = .goldengate → v = !grp'.used.isEmpty)) ∧
        (ch.chipType = .duet2 → db₂.hw.offsets = if grp'.used = [] then
            if grp.addValid then update db.hw.offsets u.groupId.value none
            else db.hw.offsets
          else update db.hw.offsets u.groupId.value (some (grp'.used.map db.offsetOf))) ∧
        (ch.chipType = .goldengate → db₂.hw.parserOffsets = if grp'.used = [] then
            if grp.addValid then update db.hw.parserOffsets 0 none
            else db.hw.parserOffsets
          else update db.hw.parserOffsets rec.priority (some (grp'.used.map db.offsetOf))) := by
      intro grp' hsub hvalid
      obtain ⟨L, hL⟩ := @UdfDb.Known.collects ch
        { db with groups := db.groups.insert u.groupId grp' } grp'.used
        fun v hv => h.known hg v (hsub v hv)
      have hmem : ∀ p ∈ L, p.1 ∈ grp'.used := by
        intro p hp
        rw [← hL.ids]
        exact List.mem_map_of_mem hp
      obtain ⟨hgid, prio, hprio, hzero⟩ := h.collected hg fun p hp =>
        ⟨hsub _ (hmem p hp), hL.recs p hp⟩
      have hnil : L = [] ↔ grp'.used = [] := by
        rw [← hL.ids, List.map_eq_nil_iff]
      have hprio' : L ≠ [] → prio = rec.priority := by
        intro hne
        obtain ⟨q, hq⟩ := List.exists_mem_of_ne_nil L hne
        obtain ⟨h₁, h₂⟩ := hL.recs q hq
        have hqb := UdfDb.bound_of_lookup (show db.udfs.lookup q.1 = _ from h₁)
        rw [hgid q hq] at hqb
        rw [(h.same hqb hub).2] at h₂
        rw [← hprio q hq, ← Option.some.inj ((show db.udfMatches.lookup u.matchId = _ from
          hrec).symm.trans h₂)]
      obtain ⟨hw₁, e₁, -, ho₁⟩ := udfUpdateCtcUdfEntry_ok hsdk hL
        fun p hp => congrArg Oid.value (hgid p hp)
      obtain ⟨hw₂, e₂, -, ho₂⟩ :=
        udfUpdateGoldengateCtcUdfEntry_ok hsdk hL hprio hzero
      rw [hL.offsets, hvalid] at ho₁ ho₂
      have hwritten : ∀ v, Table.get ((db.groups.insert u.groupId grp').insert u.groupId
          { grp' with addValid := v }) = update (Table.get db.groups) u.groupId
            (some { grp' with addValid := v }) := by
        intro v
        rw [get_insert, get_insert, update_idem]
      have hempty : L.isEmpty = grp'.used.isEmpty := hL.isEmpty
      unfold udfRemoveEntry
      cases hchip : ch.chipType with
      | duet2 =>
        refine ⟨_, e₁, rfl, rfl, rfl, ⟨_, hwritten _, fun _ => by rw [hempty]⟩, fun _ => ?_, nofun⟩
        simp only [hnil] at ho₁
        exact ho₁
      | goldengate =>
        refine ⟨_, e₂, rfl, rfl, rfl, ⟨_, hwritten _, fun _ => by rw [hempty]⟩, nofun, fun _ => ?_⟩
        refine ho₂.trans ?_
        by_cases hne : L = []
        · rw [if_pos hne, if_pos (hnil.mp hne), hzero hne]
        · rw [if_neg hne, if_neg (fun h0 => hne (hnil.mpr h0)), hprio' hne]
          rfl
      | tsingma | greatbelt =>
        refine ⟨_, rfl, rfl, rfl, rfl, ⟨grp'.addValid, get_insert _ _ _, ?_⟩, nofun, nofun⟩
        rintro (h0 | h0) <;> cases h0
    obtain ⟨db₂, h₂, hudfs, hmatches, hpool, hgroups, hctc, hparser⟩ :=
      hentry { grp with udfId := update grp.udfId i Oid.null }
        (fun v hv => UdfGroup.mem_used_of_clear hv) rfl
    unfold removeUdf at hr
    rw [hu] at hr
    dsimp only at hr
    rw [h.judgedUsed hg, hg] at hr
    dsimp only at hr
    rw [hclear] at hr
    dsimp only at hr
    rw [hlg, h₂] at hr
    dsimp only at hr
    rw [hlm, hmatches, show db.udfMatches.lookup u.matchId = _ from hrec] at hr
    cases hr
    refine .inr ⟨u, i, grp, rec, _, hu, hg, hrec, hi, rfl, hgroups, ?_, ?_, ?_, hctc, hparser⟩
    · exact get_insert _ _ _
    · rw [← hudfs]
      exact get_erase _ _
    · rw [← hpool]
      exact Pool.used_free _ _

end CtcSai
