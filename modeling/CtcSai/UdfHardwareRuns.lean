/-
# `UdfHardwareRuns` — the hardware entry of a UDF group in every run

The number of a group is its own as long as each object gives back the number it
was given, so the entries of different groups do not meet; on GoldenGate, where
an entry stands at the priority of the match, the creations have to see to that.
A creation brings the entry and the bitmap up to date.  A removal does so for the
entry on some chips only, and for the bitmap on none.
-/
import CtcSai.UdfHardware

namespace CtcSai

open Function IdPool KeyedTable Runs Table

variable {ch : UdfChip}

/-! ## Numbers -/

def UdfDb.Taken (db : UdfDb ch) (o : Oid) : Prop :=
  (db.slots o).isSome ∨ (db.refs o).isSome ∨ (db.bound o).isSome

/-- The numbers are in use and tell the objects apart. -/
structure UdfNums (db : UdfDb ch) : Prop where
  held : ∀ {o}, db.Taken o → o.value.toNat ∈ db.pool.used
  inj : ∀ {o o'}, db.Taken o → db.Taken o' → o.value = o'.value → o = o'
  group : ∀ {o}, (db.slots o).isSome → o.type = ObjectType.udfGroup.bits
  mtch : ∀ {o}, (db.refs o).isSome → o.type = ObjectType.udfMatch.bits
  udf : ∀ {o}, (db.bound o).isSome → o.type = ObjectType.udf.bits

section Nums

variable {db db' : UdfDb ch}

theorem UdfNums.congr (h : UdfNums db) (hs : ∀ o, (db'.slots o).isSome = (db.slots o).isSome)
    (hr : ∀ o, (db'.refs o).isSome = (db.refs o).isSome)
    (hb : ∀ o, (db'.bound o).isSome = (db.bound o).isSome) (hu : db'.pool.used = db.pool.used) :
    UdfNums db' := by
  have ht : ∀ {o}, db'.Taken o → db.Taken o := by
    intro o ho
    unfold UdfDb.Taken at *
    rwa [hs, hr, hb] at ho
  constructor
  case held => intro o ho; rw [hu]; exact h.held (ht ho)
  case inj => intro o o' ho ho'; exact h.inj (ht ho) (ht ho')
  case group => intro o; rw [hs]; exact h.group
  case mtch => intro o; rw [hr]; exact h.mtch
  case udf => intro o; rw [hb]; exact h.udf

theorem UdfNums.add (h : UdfNums db) {k : Oid} (hn : k.value.toNat ∉ db.pool.used)
    (hu : db'.pool.used = insert k.value.toNat db.pool.used)
    (hs : ∀ o, (db'.slots o).isSome → (db.slots o).isSome ∨
      o = k ∧ k.type = ObjectType.udfGroup.bits)
    (hr : ∀ o, (db'.refs o).isSome → (db.refs o).isSome ∨
      o = k ∧ k.type = ObjectType.udfMatch.bits)
    (hb : ∀ o, (db'.bound o).isSome → (db.bound o).isSome ∨
      o = k ∧ k.type = ObjectType.udf.bits) : UdfNums db' := by
  have ht : ∀ {o}, db'.Taken o → o = k ∨ db.Taken o := by
    rintro o (ho | ho | ho)
    · exact (hs o ho).elim (fun hx => .inr (.inl hx)) fun hx => .inl hx.1
    · exact (hr o ho).elim (fun hx => .inr (.inr (.inl hx))) fun hx => .inl hx.1
    · exact (hb o ho).elim (fun hx => .inr (.inr (.inr hx))) fun hx => .inl hx.1
  constructor
  case held =>
    intro o ho
    rw [hu]
    rcases ht ho with rfl | ho
    · exact Finset.mem_insert_self _ _
    · exact Finset.mem_insert_of_mem (h.held ho)
  case inj =>
    intro o o' ho ho' he
    rcases ht ho with rfl | ho <;> rcases ht ho' with rfl | ho'
    · rfl
    · exact absurd (he ▸ h.held ho') hn
    · exact absurd (he.symm ▸ h.held ho) hn
    · exact h.inj ho ho' he
  case group => intro o ho; exact (hs o ho).elim h.group fun hx => hx.1 ▸ hx.2
  case mtch => intro o ho; exact (hr o ho).elim h.mtch fun hx => hx.1 ▸ hx.2
  case udf => intro o ho; exact (hb o ho).elim h.udf fun hx => hx.1 ▸ hx.2

theorem UdfNums.drop (h : UdfNums db) {k : Oid} (hk : db.Taken k)
    (hu : db'.pool.used = db.pool.used.erase k.value.toNat)
    (hs : ∀ o, (db'.slots o).isSome → o ≠ k ∧ (db.slots o).isSome)
    (hr : ∀ o, (db'.refs o).isSome → o ≠ k ∧ (db.refs o).isSome)
    (hb : ∀ o, (db'.bound o).isSome → o ≠ k ∧ (db.bound o).isSome) : UdfNums db' := by
  have ht : ∀ {o}, db'.Taken o → o ≠ k ∧ db.Taken o := by
    rintro o (ho | ho | ho)
    · exact ⟨(hs o ho).1, .inl (hs o ho).2⟩
    · exact ⟨(hr o ho).1, .inr (.inl (hr o ho).2)⟩
    · exact ⟨(hb o ho).1, .inr (.inr (hb o ho).2)⟩
  constructor
  case held =>
    intro o ho
    obtain ⟨hne, ho⟩ := ht ho
    rw [hu, Finset.mem_erase]
    exact ⟨fun he => hne (h.inj ho hk (BitVec.eq_of_toNat_eq he)), h.held ho⟩
  case inj => intro o o' ho ho'; exact h.inj (ht ho).2 (ht ho').2
  case group => intro o ho; exact h.group (hs o ho).2
  case mtch => intro o ho; exact h.mtch (hr o ho).2
  case udf => intro o ho; exact h.udf (hb o ho).2

theorem oid_ne_of_type {o o' : Oid} {t t' : ObjectType} (ho : o.type = t.bits)
    (ho' : o'.type = t'.bits) (hne : t ≠ t') : o ≠ o' := by
  rintro rfl
  exact hne (ObjectType.bits_inj.mp (ho.symm.trans ho'))

end Nums

/-! ## Slots as lists -/

section Used

variable {db : UdfDb ch} {g : Oid} {grp : UdfGroup}

theorem UdfGroup.length_used_le (grp : UdfGroup) : grp.used.length ≤ 4 := by
  refine (List.length_filter_le _ _).trans ?_
  exact Nat.le_refl 4

theorem UdfGroup.nodup_used (h : ∀ i j, grp.udfId i = grp.udfId j → grp.udfId i ≠ Oid.null → i = j) :
    grp.used.Nodup := by
  unfold UdfGroup.used
  rw [List.filter_map]
  refine List.Nodup.map_on ?_ ((List.nodup_finRange 4).filter _)
  intro i hi j _ he
  have hne := (List.mem_filter.mp hi).2
  exact h i j he (by simpa using hne)

theorem UdfInv.nodup_used (h : UdfInv db) (hg : db.groups.lookup g = some grp) : grp.used.Nodup :=
  UdfGroup.nodup_used fun _ _ => h.once (UdfDb.slots_of_lookup hg)

theorem UdfInv.mem_used (h : UdfInv db) (hg : db.groups.lookup g = some grp) {u : Oid} :
    u ∈ grp.used ↔ ∃ m, db.bound u = some (g, m) := by
  constructor
  · exact h.bound_of_used hg
  · rintro ⟨m, hm⟩
    obtain ⟨s, i, hs, hi⟩ := h.mem hm
    rw [UdfDb.slots_of_lookup hg] at hs
    cases hs
    exact UdfGroup.mem_used.mpr ⟨h.ne hm, i, hi⟩

end Used

/-! ## The invariant -/

/-- The entry that the UDFs in the slots ask for. -/
def UdfDb.shown (db : UdfDb ch) (ids : List Oid) : Option (List (BitVec 8)) :=
  if ids = [] then none else some (ids.map db.offsetOf)

/-- The hardware and the bitmaps follow the slots. -/
structure UdfHwInv (db : UdfDb ch) : Prop where
  base : UdfInv db
  nums : UdfNums db
  valid : ∀ {g grp}, db.groups.lookup g = some grp → grp.addValid = !grp.used.isEmpty
  bmp : ∀ {g grp}, db.groups.lookup g = some grp → isHashUdfGroup g → ∃ s : List Oid,
    s.Perm grp.used ∧ (s.Pairwise fun u v => db.offsetOf u ≤ db.offsetOf v) ∧
      grp.hashUdfBmp.toNat = udfConcat db.maskOf s
  plain : ch.chipType = .goldengate → ∀ {g grp}, db.groups.lookup g = some grp →
    isHashUdfGroup g = false
  idle : ch.chipType = .greatbelt → ∀ u, db.bound u = none
  ctc : ch.chipType ≠ .goldengate → ∀ {g grp}, db.groups.lookup g = some grp →
    db.hw.offsets g.value = db.shown grp.used
  ctcOnly : ch.chipType ≠ .goldengate → ∀ n, db.hw.offsets n ≠ none →
    ∃ g, (db.slots g).isSome ∧ g.value = n
  parser : ch.chipType = .goldengate → ∀ {g grp}, db.groups.lookup g = some grp →
    ∀ u ∈ grp.used, db.hw.parserOffsets (db.prioOf u) = db.shown grp.used
  parserOnly : ch.chipType = .goldengate → ∀ p, db.hw.parserOffsets p ≠ none →
    ∃ u, (db.bound u).isSome ∧ db.prioOf u = p
  sole : ch.chipType = .goldengate → ∀ {u v g g' m m'}, db.bound u = some (g, m) →
    db.bound v = some (g', m') → db.prioOf u = db.prioOf v → g = g'

section Inv

variable {db db' : UdfDb ch}

/-- Groups without UDFs come and go, and matches that no UDF names. -/
theorem UdfHwInv.around (h : UdfHwInv db) (hbase : UdfInv db') (hnums : UdfNums db')
    (hgroups : ∀ {g grp}, db'.groups.lookup g = some grp → db.groups.lookup g = some grp ∨
      grp = .zero ∧ (ch.chipType ≠ .goldengate → db.hw.offsets g.value = none) ∧
        (ch.chipType = .goldengate → isHashUdfGroup g = false))
    (hkeep : ∀ {g grp}, db.groups.lookup g = some grp → grp.used ≠ [] → (db'.slots g).isSome)
    (hudfs : Table.get db'.udfs = Table.get db.udfs)
    (hprio : ∀ u, (db.bound u).isSome → db'.prioOf u = db.prioOf u) (hhw : db'.hw = db.hw) :
    UdfHwInv db' := by
  have hu : ∀ u, db'.udfs.lookup u = db.udfs.lookup u := congrFun hudfs
  have hbound : db'.bound = db.bound := by
    funext u; unfold UdfDb.bound; rw [hu]
  have hoff : db'.offsetOf = db.offsetOf := by
    funext u; unfold UdfDb.offsetOf; rw [hu]
  have hmask : db'.maskOf = db.maskOf := by
    funext u; unfold UdfDb.maskOf; rw [hu]
  have hshown : db'.shown = db.shown := by
    funext ids; unfold UdfDb.shown; rw [hoff]
  constructor
  case base => exact hbase
  case nums => exact hnums
  case valid =>
    intro g grp hg
    rcases hgroups hg with hg | ⟨rfl, -⟩
    · exact h.valid hg
    · rfl
  case bmp =>
    intro g grp hg hhash
    rw [hoff, hmask]
    rcases hgroups hg with hg | ⟨rfl, -⟩
    · exact h.bmp hg hhash
    · exact ⟨[], .refl [], .nil, rfl⟩
  case plain =>
    intro hc g grp hg
    rcases hgroups hg with hg | ⟨-, -, hplain⟩
    · exact h.plain hc hg
    · exact hplain hc
  case idle => rw [hbound]; exact h.idle
  case ctc =>
    intro hc g grp hg
    rw [hhw, hshown]
    rcases hgroups hg with hg | ⟨rfl, hoffs, -⟩
    · exact h.ctc hc hg
    · rw [hoffs hc]
      rfl
  case ctcOnly =>
    intro hc n hn
    rw [hhw] at hn
    obtain ⟨g, hg, rfl⟩ := h.ctcOnly hc n hn
    obtain ⟨grp, hgrp, -⟩ := UdfDb.lookup_of_slots (Option.isSome_iff_exists.mp hg).choose_spec
    refine ⟨g, hkeep hgrp fun h0 => hn ?_, rfl⟩
    rw [h.ctc hc hgrp, h0]
    rfl
  case parser =>
    intro hc g grp hg u hmem
    rcases hgroups hg with hg | ⟨rfl, -⟩
    · obtain ⟨m, hm⟩ := h.base.bound_of_used hg hmem
      rw [hhw, hshown, hprio u (by rw [hm]; rfl)]
      exact h.parser hc hg u hmem
    · exact absurd hmem List.not_mem_nil
  case parserOnly =>
    intro hc p hp
    rw [hhw] at hp
    obtain ⟨u, hub, rfl⟩ := h.parserOnly hc p hp
    exact ⟨u, by rw [hbound]; exact hub, hprio u hub⟩
  case sole =>
    intro hc u v g g' m m' hub hvb he
    rw [hbound] at hub hvb
    rw [hprio u (by rw [hub]; rfl), hprio v (by rw [hvb]; rfl)] at he
    exact h.sole hc hub hvb he

theorem UdfHwInv.eq (h : UdfHwInv db) (he : UdfEq db db') (hbase : UdfInv db') : UdfHwInv db' := by
  have hg : ∀ g, db'.groups.lookup g = db.groups.lookup g := congrFun he.groups
  have hm : ∀ m, db'.udfMatches.lookup m = db.udfMatches.lookup m := congrFun he.udfMatches
  have hu : ∀ u, db'.udfs.lookup u = db.udfs.lookup u := congrFun he.udfs
  refine h.around hbase (h.nums.congr ?_ ?_ ?_ he.used) (fun hx => .inl ?_) (fun hx _ => ?_)
    he.udfs (fun u _ => ?_) he.hw
  · intro o; unfold UdfDb.slots; rw [hg]
  · intro o; unfold UdfDb.refs; rw [hm]
  · intro o; unfold UdfDb.bound; rw [hu]
  · rwa [hg] at hx
  · unfold UdfDb.slots
    rw [hg, hx]
    rfl
  · unfold UdfDb.prioOf
    rw [hu]
    cases db.udfs.lookup u with
    | none => rfl
    | some r => exact congrArg (fun x => (x.map UdfMatch.priority).getD 0) (hm r.matchId)

theorem prioOf_write {m : Oid} {x : Option UdfMatch} (hu : Table.get db'.udfs = Table.get db.udfs)
    (hm : Table.get db'.udfMatches = update (Table.get db.udfMatches) m x) {u g n : Oid}
    (hb : db.bound u = some (g, n)) (hne : n ≠ m) : db'.prioOf u = db.prioOf u := by
  obtain ⟨r, hr, -, hrm⟩ := UdfDb.lookup_of_bound hb
  have hr' : db'.udfs.lookup u = some r := (congrFun hu u).trans hr
  have hm' : db'.udfMatches.lookup r.matchId = db.udfMatches.lookup r.matchId := by
    show Table.get db'.udfMatches r.matchId = _
    rw [hm, hrm, update_of_ne hne]
    rfl
  unfold UdfDb.prioOf
  rw [hr, hr', Option.bind_some, Option.bind_some, hm']

end Inv

/-! ## Groups and matches -/

section Around

variable {sdk : UdfSdk} {db : UdfDb ch}

theorem udfEq_free {n : Nat} {pool : Pool ch.common} (ha : db.pool.alloc = some (n, pool)) :
    UdfEq db { db with pool := pool.free n } :=
  ⟨rfl, rfl, rfl, congrArg Pool.used (Pool.free_of_alloc ha), rfl⟩

theorem createUdfGroup_exact (sdk : UdfSdk) (db : UdfDb ch) (attrs : List UdfGroupAttr) :
    UdfEq db (createUdfGroup sdk db attrs).2.2 ∨ ∃ n pool t, db.pool.alloc = some (n, pool) ∧
      (ch.chipType = .goldengate → t = .generic) ∧
      db.groups.lookup (udfGroupOid ch.lchip t (BitVec.ofNat 32 n)) = none ∧
      (createUdfGroup sdk db attrs).2.2 = { db with
        pool := pool
        groups := db.groups.insert (udfGroupOid ch.lchip t (BitVec.ofNat 32 n)) .zero
        udfGroupCnt := db.udfGroupCnt + 1 } := by
  have hsame : UdfEq db db := ⟨rfl, rfl, rfl, rfl, rfl⟩
  unfold createUdfGroup
  split
  · exact .inl hsame
  split
  · exact .inl hsame
  dsimp only
  split
  · exact .inl hsame
  rename_i hgg
  split
  · exact .inl hsame
  rename_i n pool halloc
  split
  · exact .inl (udfEq_free halloc)
  split
  · exact .inl (udfEq_free halloc)
  rename_i hnew
  split
  · exact .inl (udfEq_free halloc)
  refine .inr ⟨n, pool, _, halloc, fun hc => ?_, Option.not_isSome_iff_eq_none.mp hnew, rfl⟩
  cases ht : findAttribInList UdfGroupAttr.type? attrs with
  | none => rfl
  | some t =>
    cases t with
    | generic => rfl
    | hash => exact absurd ⟨hc, ht⟩ hgg

theorem UdfHwInv.createGroup (h : UdfHwInv db) (attrs : List UdfGroupAttr) :
    UdfHwInv (createUdfGroup sdk db attrs).2.2 := by
  have hbase : UdfInv (createUdfGroup sdk db attrs).2.2 := h.base.createGroup attrs
  rcases createUdfGroup_exact sdk db attrs with heq | ⟨n, pool, t, halloc, hplain, hnone, hdb⟩
  · exact h.eq heq hbase
  rw [hdb] at hbase ⊢
  obtain ⟨hunused, -, htop, hused, -⟩ := Pool.alloc_some halloc
  have hnum : (udfGroupOid ch.lchip t (BitVec.ofNat 32 n)).value.toNat = n :=
    Nat.mod_eq_of_lt (Nat.lt_of_lt_of_le htop ch.common_top)
  refine h.around hbase ?_ (fun {g grp} hg => ?_) (fun {g grp} hg _ => ?_) rfl (fun _ _ => rfl) rfl
  · refine h.nums.add (by rwa [hnum])
      (by rw [hnum]; exact hused) (fun o ho => ?_) (fun _ => .inl) (fun _ => .inl)
    unfold UdfDb.slots at ho
    rw [lookup_insert_ite] at ho
    split at ho
    · rename_i hx; exact .inr ⟨hx, rfl⟩
    · exact .inl ho
  · rcases of_lookup_insert hg with ⟨hx, rfl⟩ | ⟨-, hg⟩
    · refine .inr ⟨rfl, fun hc => ?_, fun hc => ?_⟩
      · -- an entry under the new number would be a group's
        by_contra hne
        obtain ⟨o, ho, hval⟩ := h.ctcOnly hc _ hne
        have := h.nums.held (.inl ho)
        rw [hval, hx, hnum] at this
        exact hunused this
      · rw [hx, hplain hc]
        rfl
    · exact .inl hg
  · unfold UdfDb.slots
    rw [lookup_insert_ite]
    split
    · rfl
    · rw [hg]
      rfl

theorem UdfHwInv.removeGroup (h : UdfHwInv db) (g : Oid) : UdfHwInv (removeUdfGroup db g).2 := by
  have hbase := h.base.removeGroup g
  unfold removeUdfGroup at hbase ⊢
  cases hg : db.groups.lookup g with
  | none => exact h
  | some grp =>
    rw [hg] at hbase
    rw [h.base.judgedUsed hg] at hbase ⊢
    dsimp only at hbase ⊢
    split
    · exact h
    rename_i hempty
    rw [if_neg hempty] at hbase
    have hslots := UdfDb.slots_of_lookup hg
    have htype := h.nums.group (by rw [hslots]; rfl)
    refine h.around hbase ?_ (fun {o grp'} ho => ?_) (fun {o grp'} ho hne => ?_) rfl
      (fun _ _ => rfl) rfl
    · refine h.nums.drop (.inl (by rw [hslots]; rfl)) rfl (fun o ho => ?_)
        (fun o ho => ?_) (fun o ho => ?_)
      · unfold UdfDb.slots at ho
        rw [lookup_erase_ite] at ho
        split at ho
        · cases ho
        · rename_i hx; exact ⟨hx, ho⟩
      · exact ⟨oid_ne_of_type (h.nums.mtch ho) htype (by decide), ho⟩
      · exact ⟨oid_ne_of_type (h.nums.udf ho) htype (by decide), ho⟩
    · rw [lookup_erase_ite] at ho
      split at ho
      · cases ho
      · exact .inl ho
    · unfold UdfDb.slots
      rw [lookup_erase_ite, if_neg, ho]
      · rfl
      · rintro rfl
        rw [hg] at ho
        cases ho
        obtain ⟨v, hv⟩ := List.exists_mem_of_ne_nil _ hne
        obtain ⟨hv0, i, hi⟩ := UdfGroup.mem_used.mp hv
        exact hempty ⟨i, by rw [hi]; exact hv0⟩

theorem createUdfMatch_exact (sdk : UdfSdk) (db : UdfDb ch) (attrs : List UdfMatchAttr) :
    UdfEq db (createUdfMatch sdk db attrs).2.2 ∨ ∃ n pool, db.pool.alloc = some (n, pool) ∧
      db.udfMatches.lookup (udfMatchOid ch.lchip (BitVec.ofNat 32 n)) = none ∧
      (createUdfMatch sdk db attrs).2.2 = { db with
        pool := pool
        udfMatches := (db.udfMatches.insert (udfMatchOid ch.lchip (BitVec.ofNat 32 n)) .zero).insert
          (udfMatchOid ch.lchip (BitVec.ofNat 32 n)) (udfMatchOf attrs) } := by
  unfold createUdfMatch
  split
  · exact .inl ⟨rfl, rfl, rfl, rfl, rfl⟩
  rename_i n pool halloc
  dsimp only
  split
  · exact .inl (udfEq_free halloc)
  split
  · exact .inl (udfEq_free halloc)
  rename_i hnew
  have hnone := Option.not_isSome_iff_eq_none.mp hnew
  split
  · exact .inl (udfEq_free halloc)
  split
  · refine .inl ⟨rfl, ?_, rfl, congrArg Pool.used (Pool.free_of_alloc halloc), rfl⟩
    exact congrArg Table.get (erase_insert hnone .zero)
  · exact .inr ⟨n, pool, halloc, hnone, rfl⟩

theorem UdfHwInv.createMatch (h : UdfHwInv db) (attrs : List UdfMatchAttr) :
    UdfHwInv (createUdfMatch sdk db attrs).2.2 := by
  have hbase : UdfInv (createUdfMatch sdk db attrs).2.2 := h.base.createMatch attrs
  rcases createUdfMatch_exact sdk db attrs with heq | ⟨n, pool, halloc, hnone, hdb⟩
  · exact h.eq heq hbase
  rw [hdb] at hbase ⊢
  obtain ⟨hunused, -, htop, hused, -⟩ := Pool.alloc_some halloc
  have hnum : (udfMatchOid ch.lchip (BitVec.ofNat 32 n)).value.toNat = n :=
    Nat.mod_eq_of_lt (Nat.lt_of_lt_of_le htop ch.common_top)
  refine h.around hbase ?_ .inl (fun {g grp} hg _ => ?_) rfl (fun u hu => ?_) rfl
  · refine h.nums.add (by rwa [hnum])
      (by rw [hnum]; exact hused) (fun _ => .inl) (fun o ho => ?_) (fun _ => .inl)
    unfold UdfDb.refs at ho
    rw [lookup_insert_ite, lookup_insert_ite] at ho
    split at ho
    · rename_i hx; exact .inr ⟨hx, rfl⟩
    · exact .inl ho
  · show (db.slots g).isSome = true
    rw [UdfDb.slots_of_lookup hg]
    rfl
  · obtain ⟨⟨g, m⟩, hb⟩ := Option.isSome_iff_exists.mp hu
    refine prioOf_write (by rfl) ?_ hb (m := udfMatchOid ch.lchip (BitVec.ofNat 32 n))
      (x := some (udfMatchOf attrs)) ?_
    · rw [get_insert, get_insert, update_idem]
    · rintro rfl
      have := h.base.live hb
      unfold UdfDb.refs at this
      rw [hnone] at this
      cases this

theorem UdfHwInv.removeMatch (h : UdfHwInv db) (m : Oid) : UdfHwInv (removeUdfMatch db m).2 := by
  have hbase := h.base.removeMatch m
  have hiff := h.base.removeMatch_iff m
  unfold removeUdfMatch at hbase hiff ⊢
  cases hm : db.udfMatches.lookup m with
  | none => exact h
  | some rec =>
    rw [hm] at hbase hiff
    dsimp only at hbase hiff ⊢
    split
    · exact h
    rename_i hzero
    rw [if_neg hzero] at hbase hiff
    have hfree := (hiff.mp rfl).2
    have hrefs := UdfDb.refs_of_lookup hm
    have htype := h.nums.mtch (by rw [hrefs]; rfl)
    refine h.around hbase ?_ .inl (fun {g grp} hg _ => ?_) rfl (fun u hu => ?_) rfl
    · refine h.nums.drop (.inr (.inl (by rw [hrefs]; rfl))) rfl (fun o ho => ?_)
        (fun o ho => ?_) (fun o ho => ?_)
      · exact ⟨oid_ne_of_type (h.nums.group ho) htype (by decide), ho⟩
      · unfold UdfDb.refs at ho
        rw [lookup_erase_ite] at ho
        split at ho
        · cases ho
        · rename_i hx; exact ⟨hx, ho⟩
      · exact ⟨oid_ne_of_type (h.nums.udf ho) htype (by decide), ho⟩
    · show (db.slots g).isSome = true
      rw [UdfDb.slots_of_lookup hg]
      rfl
    · obtain ⟨⟨g, k⟩, hb⟩ := Option.isSome_iff_exists.mp hu
      refine prioOf_write (by rfl) (get_erase _ m) hb ?_
      obtain ⟨r, hr, -, hrm⟩ := UdfDb.lookup_of_bound hb
      rw [← hrm]
      exact hfree u r hr

end Around

/-! ## A UDF comes or goes -/

/-- One UDF of a group comes or goes, and the hardware shows the slots of the
group at the priority of its match. -/
structure UdfMoved (db db' : UdfDb ch) (oid g m : Oid) (grp grp' : UdfGroup) (rec : UdfMatch) :
    Prop where
  group : db.groups.lookup g = some grp
  groups : Table.get db'.groups = update (Table.get db.groups) g (some grp')
  mtch : db.udfMatches.lookup m = some rec
  mtches : ∃ cnt, Table.get db'.udfMatches =
    update (Table.get db.udfMatches) m (some { rec with udfRefCnt := cnt })
  udfs : ∃ x, Table.get db'.udfs = update (Table.get db.udfs) oid x
  before : ∀ {q}, db.bound oid = some q → q = (g, m)
  after : ∀ {q}, db'.bound oid = some q → q = (g, m)
  valid : grp'.addValid = !grp'.used.isEmpty
  bmp : isHashUdfGroup g → ∃ s : List Oid, s.Perm grp'.used ∧
    (s.Pairwise fun u v => db'.offsetOf u ≤ db'.offsetOf v) ∧
      grp'.hashUdfBmp.toNat = udfConcat db'.maskOf s
  ctc : ch.chipType ≠ .goldengate →
    db'.hw.offsets = update db.hw.offsets g.value (db'.shown grp'.used)
  mates : ∀ {v k}, db'.bound v = some (g, k) → k = m
  parser : ch.chipType = .goldengate →
    db'.hw.parserOffsets = update db.hw.parserOffsets rec.priority (db'.shown grp'.used)
  sole : ch.chipType = .goldengate → ∀ {v o k}, db.bound v = some (o, k) →
    db.prioOf v = rec.priority → o = g

section Moved

variable {db db' : UdfDb ch} {oid g m : Oid} {grp grp' : UdfGroup} {rec : UdfMatch}

theorem UdfMoved.lookup_group (hm : UdfMoved db db' oid g m grp grp' rec) :
    db'.groups.lookup g = some grp' := by
  show Table.get db'.groups g = _
  rw [hm.groups, update_self]

/-- The other groups are what they were. -/
theorem UdfMoved.group_cases (hm : UdfMoved db db' oid g m grp grp' rec) {o : Oid} {G : UdfGroup}
    (ho : db'.groups.lookup o = some G) :
    o = g ∧ G = grp' ∨ o ≠ g ∧ db.groups.lookup o = some G := by
  have ho' : Table.get db'.groups o = some G := ho
  rw [hm.groups] at ho'
  rcases of_update_some ho' with ⟨hx, hG⟩ | hx
  · exact .inl ⟨hx, hG.symm⟩
  · exact .inr hx

theorem UdfMoved.slots (hm : UdfMoved db db' oid g m grp grp' rec) (o : Oid) :
    (db'.slots o).isSome = (db.slots o).isSome := by
  show ((Table.get db'.groups o).map _).isSome = ((Table.get db.groups o).map _).isSome
  rw [hm.groups, update_apply]
  split
  · rename_i ho
    rw [ho, show Table.get db.groups g = some grp from hm.group]
    rfl
  · rfl

/-- Every match has the priority it had. -/
theorem UdfMoved.priority (hm : UdfMoved db db' oid g m grp grp' rec) (k : Oid) :
    (db'.udfMatches.lookup k).map UdfMatch.priority =
      (db.udfMatches.lookup k).map UdfMatch.priority := by
  obtain ⟨cnt, hmtches⟩ := hm.mtches
  show (Table.get db'.udfMatches k).map _ = _
  rw [hmtches, update_apply]
  split
  · rename_i hk
    rw [hk, hm.mtch]
    rfl
  · rfl

theorem UdfMoved.refs (hm : UdfMoved db db' oid g m grp grp' rec) {o : Oid}
    (ho : (db'.refs o).isSome) : (db.refs o).isSome := by
  have hsome := congrArg Option.isSome (hm.priority o)
  rw [Option.isSome_map, Option.isSome_map] at hsome
  unfold UdfDb.refs at ho ⊢
  rw [Option.isSome_map] at ho ⊢
  rwa [← hsome]

theorem UdfMoved.elsewhere (hm : UdfMoved db db' oid g m grp grp' rec) {v : Oid} (hv : v ≠ oid) :
    db'.bound v = db.bound v ∧ db'.offsetOf v = db.offsetOf v ∧
      db'.maskOf v = db.maskOf v ∧ db'.prioOf v = db.prioOf v := by
  obtain ⟨x, hu⟩ := hm.udfs
  have hl : db'.udfs.lookup v = db.udfs.lookup v := by
    show Table.get db'.udfs v = _
    rw [hu, update_of_ne hv]
    rfl
  refine ⟨?_, ?_, ?_, ?_⟩
  · unfold UdfDb.bound; rw [hl]
  · unfold UdfDb.offsetOf; rw [hl]
  · unfold UdfDb.maskOf; rw [hl]
  · unfold UdfDb.prioOf
    rw [hl]
    cases db.udfs.lookup v with
    | none => rfl
    | some r => exact congrArg (Option.getD · 0) (hm.priority r.matchId)

theorem prioOf_of_bound {v k : Oid} (hv : db.bound v = some (g, k))
    (hk : db.udfMatches.lookup k = some rec) : db.prioOf v = rec.priority := by
  obtain ⟨r, hr, -, rfl⟩ := UdfDb.lookup_of_bound hv
  unfold UdfDb.prioOf
  rw [hr, Option.bind_some, hk]
  rfl

/-- The UDFs of the group stand at the priority of their match. -/
theorem UdfMoved.prioOf (hm : UdfMoved db db' oid g m grp grp' rec) {v k : Oid}
    (hv : db'.bound v = some (g, k)) : db'.prioOf v = rec.priority := by
  obtain rfl := hm.mates hv
  obtain ⟨rec', hrec', hp⟩ := Option.map_eq_some_iff.mp
    ((hm.priority _).trans (congrArg (Option.map UdfMatch.priority) hm.mtch))
  rw [prioOf_of_bound hv hrec', hp]

theorem shown_congr {ids : List Oid} (h : ∀ v ∈ ids, db'.offsetOf v = db.offsetOf v) :
    db'.shown ids = db.shown ids := by
  unfold UdfDb.shown
  rw [List.map_congr_left h]

theorem UdfHwInv.moved (h : UdfHwInv db) (hbase : UdfInv db') (hnums : UdfNums db')
    (hgb : ch.chipType ≠ .greatbelt) (hm : UdfMoved db db' oid g m grp grp' rec) :
    UdfHwInv db' := by
  have hg' := hm.lookup_group
  -- the other groups do not have the UDF
  have hold : ∀ {o G}, o ≠ g → db.groups.lookup o = some G → ∀ v ∈ G.used, v ≠ oid := by
    rintro o G ho hG v hv rfl
    obtain ⟨k, hb⟩ := h.base.bound_of_used hG hv
    exact ho (congrArg Prod.fst (hm.before hb))
  have hshown : ∀ {o G}, o ≠ g → db.groups.lookup o = some G → db'.shown G.used = db.shown G.used :=
    fun ho hG => shown_congr fun v hv => (hm.elsewhere (hold ho hG v hv)).2.1
  have hwas : ∀ {q}, db.bound oid = some q → db.prioOf oid = rec.priority := fun hq =>
    prioOf_of_bound (hq.trans (congrArg some (hm.before hq))) hm.mtch
  constructor
  case base => exact hbase
  case nums => exact hnums
  case valid =>
    intro o G ho
    rcases hm.group_cases ho with ⟨-, rfl⟩ | ⟨-, ho⟩
    · exact hm.valid
    · exact h.valid ho
  case bmp =>
    intro o G ho hhash
    rcases hm.group_cases ho with ⟨rfl, rfl⟩ | ⟨hx, ho⟩
    · exact hm.bmp hhash
    obtain ⟨s, hperm, hsort, hval⟩ := h.bmp ho hhash
    have hs : ∀ v ∈ s, v ≠ oid := fun v hv => hold hx ho v (hperm.subset hv)
    refine ⟨s, hperm, hsort.imp_of_mem fun ha hb hab => ?_, hval.trans ?_⟩
    · rw [(hm.elsewhere (hs _ ha)).2.1, (hm.elsewhere (hs _ hb)).2.1]
      exact hab
    · exact congrArg _ (List.map_congr_left fun v hv => by
        rw [(hm.elsewhere (hs v hv)).2.2.1])
  case plain =>
    intro hc o G ho
    rcases hm.group_cases ho with ⟨rfl, -⟩ | ⟨-, ho⟩
    · exact h.plain hc hm.group
    · exact h.plain hc ho
  case idle => exact fun hc => absurd hc hgb
  case ctc =>
    intro hc o G ho
    rw [hm.ctc hc]
    rcases hm.group_cases ho with ⟨rfl, rfl⟩ | ⟨hx, ho⟩
    · rw [update_self]
    rw [update_of_ne, hshown hx ho]
    · exact h.ctc hc ho
    · intro he
      refine hx (h.nums.inj (.inl ?_) (.inl ?_) he)
      · rw [UdfDb.slots_of_lookup ho]; rfl
      · rw [UdfDb.slots_of_lookup hm.group]; rfl
  case ctcOnly =>
    intro hc k hk
    rw [hm.ctc hc] at hk
    by_cases hx : k = g.value
    · exact ⟨g, by rw [hm.slots, UdfDb.slots_of_lookup hm.group]; rfl, hx.symm⟩
    · rw [update_of_ne hx] at hk
      obtain ⟨o, ho, hval⟩ := h.ctcOnly hc k hk
      exact ⟨o, by rw [hm.slots]; exact ho, hval⟩
  case parser =>
    intro hc o G ho v hv
    rw [hm.parser hc]
    rcases hm.group_cases ho with ⟨rfl, rfl⟩ | ⟨hx, ho⟩
    · obtain ⟨k, hb⟩ := hbase.bound_of_used hg' hv
      rw [hm.prioOf hb, update_self]
    obtain ⟨k, hb⟩ := h.base.bound_of_used ho hv
    rw [(hm.elsewhere (hold hx ho v hv)).2.2.2, update_of_ne, hshown hx ho]
    · exact h.parser hc ho v hv
    · exact fun hp => hx (hm.sole hc hb hp)
  case parserOnly =>
    intro hc p hp
    rw [hm.parser hc] at hp
    by_cases hx : p = rec.priority
    · rw [hx, update_self] at hp
      have hne : grp'.used ≠ [] := fun h0 => hp (if_pos h0)
      obtain ⟨v, hv⟩ := List.exists_mem_of_ne_nil _ hne
      obtain ⟨k, hb⟩ := hbase.bound_of_used hg' hv
      exact ⟨v, by rw [hb]; rfl, (hm.prioOf hb).trans hx.symm⟩
    rw [update_of_ne hx] at hp
    obtain ⟨v, hv, hvp⟩ := h.parserOnly hc p hp
    have hvo : v ≠ oid := by
      rintro rfl
      exact hx (hvp.symm.trans (hwas (Option.some_get hv).symm))
    exact ⟨v, by rw [(hm.elsewhere hvo).1]; exact hv, by rw [(hm.elsewhere hvo).2.2.2]; exact hvp⟩
  case sole =>
    intro hc v w o o' k k' hv hw he
    -- a UDF that was there before, at the priority of the new one
    have hmeet : ∀ {v w o o' k k'}, v = oid → w ≠ oid → db'.bound v = some (o, k) →
        db'.bound w = some (o', k') → db'.prioOf v = db'.prioOf w → o = o' := by
      rintro v w o o' k k' rfl hwo hv hw he
      cases hm.after hv
      rw [hm.prioOf hv, (hm.elsewhere hwo).2.2.2] at he
      rw [(hm.elsewhere hwo).1] at hw
      exact (hm.sole hc hw he.symm).symm
    by_cases hvo : v = oid <;> by_cases hwo : w = oid
    · rw [hvo] at hv
      rw [hwo, hv] at hw
      cases hw
      rfl
    · exact hmeet hvo hwo hv hw he
    · exact (hmeet hwo hvo hw hv he.symm).symm
    rw [(hm.elsewhere hvo).2.2.2, (hm.elsewhere hwo).2.2.2] at he
    rw [(hm.elsewhere hvo).1] at hv
    rw [(hm.elsewhere hwo).1] at hw
    exact h.sole hc hv hw he

end Moved

/-! ## A UDF comes -/

section Come

variable {db db' : UdfDb ch} {attrs : List UdfAttr} {oid : Oid} {n : Nat} {u : Udf} {i : Fin 4}
  {grp : UdfGroup} {rec : UdfMatch} {bmp : BitVec 16}

/-- On GoldenGate no other group has a UDF at the priority of the match. -/
def UdfPrioFree (db : UdfDb ch) (attrs : List UdfAttr) : Prop :=
  ∀ g m rec, findAttribInList UdfAttr.groupId? attrs = some g →
    findAttribInList UdfAttr.matchId? attrs = some m → db.udfMatches.lookup m = some rec →
    ∀ v r, db.udfs.lookup v = some r → db.prioOf v = rec.priority → r.groupId = g

theorem ChipType.duet2Up_of_ne {t : ChipType} (hgb : t ≠ .greatbelt) (hgg : t ≠ .goldengate) :
    t.duet2Up = true := by
  cases t with
  | greatbelt => exact absurd rfl hgb
  | goldengate => exact absurd rfl hgg
  | duet2 => rfl
  | tsingma => rfl

theorem UdfHwInv.made (h : UdfHwInv db) (hbase : UdfInv db') (hgb : ch.chipType ≠ .greatbelt)
    (hfree : ch.chipType = .goldengate → UdfPrioFree db attrs)
    (hm : UdfMade db db' attrs oid n u i grp rec bmp) : UdfHwInv db' := by
  have hnone : db.bound oid = none := by
    unfold UdfDb.bound
    rw [hm.fresh]
    rfl
  have hself : db'.udfs.lookup oid = some u := by
    show Table.get db'.udfs oid = _
    rw [hm.udfs, update_self]
  have hbself : db'.bound oid = some (u.groupId, u.matchId) := UdfDb.bound_of_lookup hself
  have hshown := hm.shown
  generalize hgrp' : (⟨grp.aclRefCnt, true, update grp.udfId i oid, bmp⟩ : UdfGroup) =
    grp' at hshown
  have hgroups : Table.get db'.groups = update (Table.get db.groups) u.groupId (some grp') := by
    rw [hm.groups, hgrp']
  have hg' : db'.groups.lookup u.groupId = some grp' := by
    show Table.get db'.groups u.groupId = _
    rw [hgroups, update_self]
  have hne : grp'.used ≠ [] :=
    List.ne_nil_of_mem ((hbase.mem_used hg').mpr ⟨u.matchId, hbself⟩)
  have hshow : db'.shown grp'.used = some (grp'.used.map db'.offsetOf) := if_neg hne
  have hmoved : UdfMoved db db' oid u.groupId u.matchId grp grp' rec := by
    constructor
    case group => exact hm.group
    case groups => exact hgroups
    case mtch => exact hm.mtch
    case mtches => exact ⟨_, hm.mtches⟩
    case udfs => exact ⟨_, hm.udfs⟩
    case before =>
      intro q hq
      rw [hnone] at hq
      cases hq
    case after =>
      intro q hq
      rw [hbself] at hq
      exact (Option.some.inj hq).symm
    case valid =>
      rw [← hgrp'] at hne ⊢
      rw [List.isEmpty_eq_false_iff.mpr hne]
      rfl
    case bmp =>
      intro hhash
      have hgg : ch.chipType ≠ .goldengate := by
        intro hc
        rw [h.plain hc hm.group] at hhash
        cases hhash
      have hb := hshown.bmp (ChipType.duet2Up_of_ne hgb hgg) hhash
      obtain ⟨s, hperm, hsort, hval⟩ :=
        toNat_udfBubbleSort db'.offsetOf db'.maskOf (UdfGroup.length_used_le _)
      refine ⟨s, hperm, hsort, ?_⟩
      rw [← hval, ← hb, ← hgrp']
    case ctc =>
      intro hc
      rw [hshow]
      exact hshown.ctc (ChipType.duet2Up_of_ne hgb hc)
    case mates => exact fun hv => (hbase.same hv hbself).2
    case parser =>
      intro hc
      rw [hshow]
      exact hshown.parser hc
    case sole =>
      intro hc v o k hv hp
      obtain ⟨r, hr, hro, -⟩ := UdfDb.lookup_of_bound hv
      rw [← hro]
      exact hfree hc _ _ rec hm.givenGroup hm.givenMatch hm.mtch v r hr hp
  refine h.moved hbase ?_ hgb hmoved
  refine h.nums.add (by rw [hm.num]; exact hm.unused)
    (by rw [hm.num]; exact hm.used) (fun o ho => .inl (by rwa [hmoved.slots] at ho))
    (fun o ho => .inl (hmoved.refs ho)) (fun o ho => ?_)
  by_cases hx : o = oid
  · exact .inr ⟨hx, hm.type⟩
  · rw [(hmoved.elsewhere hx).1] at ho
    exact .inl ho

end Come

/-! ## A UDF goes -/

/-- The condition on a removal. -/
structure UdfRemoveSafe (db : UdfDb ch) (oid : Oid) : Prop where
  alone : UdfUnique db oid
  programmed : (db.udfs.lookup oid).isSome → ch.chipType = .duet2 ∨ ch.chipType = .goldengate
  unmasked : ∀ r, db.udfs.lookup oid = some r → isHashUdfGroup r.groupId →
    ∀ v t, db.udfs.lookup v = some t → t.groupId = r.groupId → r.offset ≤ t.offset →
      ∀ j, t.hashMask j ≠ 0xFF
  last : ch.chipType = .goldengate → ∀ r, db.udfs.lookup oid = some r →
    (∀ v t, db.udfs.lookup v = some t → t.groupId = r.groupId → v = oid) → db.prioOf oid = 0

section Go

variable {db db' : UdfDb ch} {oid : Oid} {u : Udf} {i : Fin 4} {grp : UdfGroup} {rec : UdfMatch}
  {ids : List Oid}

theorem concat_remove {s : List Oid} (hperm : s.Perm (oid :: ids)) (hnd : s.Nodup)
    (hsort : s.Pairwise fun v w => db.offsetOf v ≤ db.offsetOf w)
    (hzero : ∀ v ∈ s, db.offsetOf oid ≤ db.offsetOf v → udfNibble (db.maskOf v) = 0) :
    ∃ t : List Oid, t.Perm ids ∧ (t.Pairwise fun v w => db.offsetOf v ≤ db.offsetOf w) ∧
      udfConcat db.maskOf s = udfConcat db.maskOf t := by
  have hmem : oid ∈ s := hperm.symm.subset List.mem_cons_self
  obtain ⟨front, back, rfl⟩ := List.append_of_mem hmem
  refine ⟨front ++ back, ?_, ?_, ?_⟩
  · exact (List.perm_middle.symm.trans hperm).cons_inv
  · exact hsort.sublist (List.Sublist.append_left (List.sublist_cons_self oid back) front)
  · have hback : ∀ v ∈ back, db.offsetOf oid ≤ db.offsetOf v :=
      (List.pairwise_cons.mp (List.pairwise_append.mp hsort).2.1).1
    refine udfConcat_remove (hzero oid hmem (BitVec.le_refl _)) fun v hv => ?_
    exact hzero v (List.mem_append_right _ (List.mem_cons_of_mem _ hv)) (hback v hv)

section Left

variable (hm : UdfGone db db' oid u i grp rec ids)
include hm

theorem UdfGone.bound_oid : db.bound oid = some (u.groupId, u.matchId) :=
  UdfDb.bound_of_lookup hm.had

theorem UdfGone.bound_none : db'.bound oid = none := by
  show (Table.get db'.udfs oid).map _ = none
  rw [hm.udfs, update_self]
  rfl

theorem UdfGone.lookup_of_ne {w : Oid} (hw : w ≠ oid) :
    db'.udfs.lookup w = db.udfs.lookup w := by
  show Table.get db'.udfs w = _
  rw [hm.udfs, update_of_ne hw]
  rfl

theorem UdfGone.bound_old {w : Oid} {p : Oid × Oid} (hw : db'.bound w = some p) :
    w ≠ oid ∧ db.bound w = some p := by
  have hx : w ≠ oid := by
    rintro rfl
    rw [hm.bound_none] at hw
    cases hw
  refine ⟨hx, ?_⟩
  unfold UdfDb.bound at hw ⊢
  rwa [hm.lookup_of_ne hx] at hw

theorem UdfGone.not_greatbelt (hsafe : UdfRemoveSafe db oid) : ch.chipType ≠ .greatbelt := by
  intro h0
  have hchip := hsafe.programmed (by rw [hm.had]; rfl)
  rw [h0] at hchip
  rcases hchip with hx | hx <;> cases hx

variable {grp' : UdfGroup} (hbase : UdfInv db') (hg' : db'.groups.lookup u.groupId = some grp')
  (hids : grp'.used = ids)
include hbase hg' hids

theorem UdfGone.mem_left {w : Oid} (hw : w ∈ ids) :
    w ≠ oid ∧ ∃ m, db.bound w = some (u.groupId, m) := by
  rw [← hids] at hw
  obtain ⟨m, hb⟩ := hbase.bound_of_used hg' hw
  exact ⟨(hm.bound_old hb).1, m, (hm.bound_old hb).2⟩

theorem UdfGone.left_of_group {w : Oid} {t : Udf} (hw : w ≠ oid)
    (ht : db.udfs.lookup w = some t) (hg : t.groupId = u.groupId) : w ∈ ids := by
  rw [← hids, hbase.mem_used hg', ← hg]
  exact ⟨t.matchId, UdfDb.bound_of_lookup ((hm.lookup_of_ne hw).trans ht)⟩

/-- The group's UDFs before are the one that goes and those that are left. -/
theorem UdfGone.used_perm (h : UdfInv db) : grp.used.Perm (oid :: ids) := by
  have hnd' : (oid :: ids).Nodup := by
    refine List.nodup_cons.mpr ⟨fun hx => (hm.mem_left hbase hg' hids hx).1 rfl, ?_⟩
    rw [← hids]
    exact hbase.nodup_used hg'
  refine (List.perm_ext_iff_of_nodup (h.nodup_used hm.group) hnd').mpr fun w => ?_
  rw [h.mem_used hm.group, List.mem_cons]
  constructor
  · rintro ⟨m, hb⟩
    by_cases hx : w = oid
    · exact .inl hx
    · obtain ⟨t, ht, htg, -⟩ := UdfDb.lookup_of_bound hb
      exact .inr (hm.left_of_group hbase hg' hids hx ht htg)
  · rintro (rfl | hx)
    · exact ⟨_, hm.bound_oid⟩
    · exact (hm.mem_left hbase hg' hids hx).2

theorem UdfGone.offsetOf_left {w : Oid} (hw : w ∈ ids) : db'.offsetOf w = db.offsetOf w := by
  unfold UdfDb.offsetOf
  rw [hm.lookup_of_ne (hm.mem_left hbase hg' hids hw).1]

theorem UdfGone.shown_left : db'.shown grp'.used = db.shown ids := by
  rw [hids]
  exact shown_congr fun w hw => hm.offsetOf_left hbase hg' hids hw

theorem UdfGone.was_valid (h : UdfHwInv db) : grp.addValid = true := by
  rw [h.valid hm.group, List.isEmpty_eq_false_iff.mpr
    (List.ne_nil_of_mem ((hm.used_perm hbase hg' hids h.base).symm.subset List.mem_cons_self))]
  rfl

/-- Behind the UDF that goes there is no mask, so the bitmap stays right. -/
theorem UdfGone.bitmap (h : UdfHwInv db) (hsafe : UdfRemoveSafe db oid)
    (hbmp : grp'.hashUdfBmp = grp.hashUdfBmp) (hhash : isHashUdfGroup u.groupId) :
    ∃ t : List Oid, t.Perm grp'.used ∧
      (t.Pairwise fun v w => db'.offsetOf v ≤ db'.offsetOf w) ∧
        grp'.hashUdfBmp.toNat = udfConcat db'.maskOf t := by
  obtain ⟨s, hsperm, hsort, hval⟩ := h.bmp hm.group hhash
  have hnd : s.Nodup := hsperm.symm.nodup (h.base.nodup_used hm.group)
  have hzero : ∀ w ∈ s, db.offsetOf oid ≤ db.offsetOf w → udfNibble (db.maskOf w) = 0 := by
    intro w hw hle
    obtain ⟨m, hb⟩ := h.base.bound_of_used hm.group (hsperm.subset hw)
    obtain ⟨r, hr, hrg, -⟩ := UdfDb.lookup_of_bound hb
    refine udfNibble_eq_zero ?_
    have hmask : db.maskOf w = r.hashMask := by
      unfold UdfDb.maskOf
      rw [hr]
      rfl
    rw [hmask]
    refine hsafe.unmasked u hm.had hhash w r hr hrg ?_
    simpa [UdfDb.offsetOf, hm.had, hr] using hle
  obtain ⟨t, htperm, htsort, hcat⟩ :=
    concat_remove (hsperm.trans (hm.used_perm hbase hg' hids h.base)) hnd hsort hzero
  refine ⟨t, by rw [hids]; exact htperm, htsort.imp_of_mem fun ha hb hab => ?_, ?_⟩
  · rw [hm.offsetOf_left hbase hg' hids (htperm.subset ha),
      hm.offsetOf_left hbase hg' hids (htperm.subset hb)]
    exact hab
  · rw [hbmp]
    refine hval.trans (hcat.trans (congrArg _ (List.map_congr_left fun w hw => ?_)))
    unfold UdfDb.maskOf
    rw [hm.lookup_of_ne (hm.mem_left hbase hg' hids (htperm.subset hw)).1]

/-- The last UDF of a group is at index 0. -/
theorem UdfGone.last_zero (hsafe : UdfRemoveSafe db oid) (hc : ch.chipType = .goldengate)
    (hempty : ids = []) : rec.priority = 0 := by
  rw [← prioOf_of_bound hm.bound_oid hm.mtch]
  refine hsafe.last hc u hm.had fun w t ht hg => ?_
  by_contra hx
  have hw := hm.left_of_group hbase hg' hids hx ht hg
  rw [hempty] at hw
  exact List.not_mem_nil hw

theorem UdfGone.moved (h : UdfHwInv db) (hsafe : UdfRemoveSafe db oid)
    (hgroups : Table.get db'.groups = update (Table.get db.groups) u.groupId (some grp'))
    (hvalid : grp'.addValid = !ids.isEmpty) (hbmp : grp'.hashUdfBmp = grp.hashUdfBmp) :
    UdfMoved db db' oid u.groupId u.matchId grp grp' rec := by
  have hchip := hsafe.programmed (by rw [hm.had]; rfl)
  have hprio : db.prioOf oid = rec.priority := prioOf_of_bound hm.bound_oid hm.mtch
  constructor
  case group => exact hm.group
  case groups => exact hgroups
  case mtch => exact hm.mtch
  case mtches => exact ⟨_, hm.mtches⟩
  case udfs => exact ⟨_, hm.udfs⟩
  case before =>
    intro q hq
    rw [hm.bound_oid] at hq
    exact (Option.some.inj hq).symm
  case after =>
    intro q hq
    rw [hm.bound_none] at hq
    cases hq
  case valid =>
    rw [hids]
    exact hvalid
  case bmp => exact hm.bitmap hbase hg' hids h hsafe hbmp
  case ctc =>
    intro hc
    rw [hm.shown_left hbase hg' hids, hm.ctc (hchip.resolve_right hc),
      hm.was_valid hbase hg' hids h]
    unfold UdfDb.shown
    split <;> rfl
  case mates => exact fun hw => (h.base.same (hm.bound_old hw).2 hm.bound_oid).2
  case parser =>
    intro hc
    rw [hm.shown_left hbase hg' hids, hm.parser hc, hm.was_valid hbase hg' hids h]
    unfold UdfDb.shown
    split
    · next hempty =>
      rw [hm.last_zero hbase hg' hids hsafe hc hempty]
      rfl
    · rfl
  case sole => exact fun hc _ _ _ hw hp => h.sole hc hw hm.bound_oid (hp.trans hprio.symm)

end Left

theorem UdfHwInv.gone (h : UdfHwInv db) (hbase : UdfInv db') (hsafe : UdfRemoveSafe db oid)
    (hm : UdfGone db db' oid u i grp rec ids) : UdfHwInv db' := by
  obtain ⟨v, hgroups, hv⟩ := hm.groups
  have hg' := congrFun hgroups u.groupId
  rw [update_self] at hg'
  have hmoved := hm.moved hbase hg' hm.left.symm h hsafe hgroups
    (hv (hsafe.programmed (by rw [hm.had]; rfl))) rfl
  refine h.moved hbase ?_ (hm.not_greatbelt hsafe) hmoved
  have hbtype := h.nums.udf (by rw [hm.bound_oid]; rfl)
  refine h.nums.drop (.inr (.inr (by rw [hm.bound_oid]; rfl))) hm.used (fun o ho => ?_)
    (fun o ho => ?_) (fun o ho => ?_)
  · rw [hmoved.slots] at ho
    exact ⟨oid_ne_of_type (h.nums.group ho) hbtype (by decide), ho⟩
  · have hold := hmoved.refs ho
    exact ⟨oid_ne_of_type (h.nums.mtch hold) hbtype (by decide), hold⟩
  · obtain ⟨p, hp⟩ := Option.isSome_iff_exists.mp ho
    exact ⟨(hm.bound_old hp).1, by rw [(hm.bound_old hp).2]; rfl⟩

end Go

/-! ## The system -/

def UdfHwSafe (db : UdfDb ch) : UdfOp → Prop
  | .createUdf sdk attrs => sdk.Succeeds ∧ ch.chipType ≠ .greatbelt ∧
    (ch.chipType = .goldengate → UdfPrioFree db attrs)
  | .removeUdf sdk u => sdk.Succeeds ∧ UdfRemoveSafe db u
  | _ => True

/-- `l` lists the UDFs of a group. -/
def UdfDb.Lists (db : UdfDb ch) (g : Oid) (l : List Oid) : Prop :=
  l.Nodup ∧ ∀ u, u ∈ l ↔ ∃ r, db.udfs.lookup u = some r ∧ r.groupId = g

/-- The entry of each group has the offsets of its UDFs, and the bitmap of a hash
group their masks in the order of the offsets. -/
structure UdfHwOk (db : UdfDb ch) : Prop where
  entry : ch.chipType ≠ .goldengate → ∀ g grp, db.groups.lookup g = some grp → ∃ l,
    db.Lists g l ∧ db.hw.offsets g.value = if l = [] then none else some (l.map db.offsetOf)
  parser : ch.chipType = .goldengate → ∀ g grp, db.groups.lookup g = some grp → ∃ l,
    db.Lists g l ∧ ∀ u ∈ l, db.hw.parserOffsets (db.prioOf u) = some (l.map db.offsetOf)
  parserOnly : ch.chipType = .goldengate → ∀ p, db.hw.parserOffsets p ≠ none →
    ∃ u, (db.udfs.lookup u).isSome ∧ db.prioOf u = p
  bmp : ∀ g grp, db.groups.lookup g = some grp → isHashUdfGroup g → ∃ l, db.Lists g l ∧
    (l.Pairwise fun u v => db.offsetOf u ≤ db.offsetOf v) ∧
      grp.hashUdfBmp.toNat = udfConcat db.maskOf l

section System

variable {db db' : UdfDb ch}

theorem UdfInv.lists (h : UdfInv db) {g : Oid} {grp : UdfGroup}
    (hg : db.groups.lookup g = some grp) {l : List Oid} (hl : l.Perm grp.used) : db.Lists g l := by
  refine ⟨hl.symm.nodup (h.nodup_used hg), fun u => ?_⟩
  rw [hl.mem_iff, h.mem_used hg]
  constructor
  · rintro ⟨m, hm⟩
    obtain ⟨r, hr, hrg, -⟩ := UdfDb.lookup_of_bound hm
    exact ⟨r, hr, hrg⟩
  · rintro ⟨r, hr, rfl⟩
    exact ⟨r.matchId, UdfDb.bound_of_lookup hr⟩

theorem UdfHwInv.ok (h : UdfHwInv db) : UdfHwOk db where
  entry := fun hc _ grp hg => ⟨grp.used, h.base.lists hg (.refl _), h.ctc hc hg⟩
  parser := by
    intro hc g grp hg
    refine ⟨grp.used, h.base.lists hg (.refl _), fun u hu => ?_⟩
    rw [h.parser hc hg u hu]
    exact if_neg (List.ne_nil_of_mem hu)
  parserOnly := by
    intro hc p hp
    obtain ⟨u, hu, hup⟩ := h.parserOnly hc p hp
    obtain ⟨q, hq⟩ := Option.isSome_iff_exists.mp hu
    obtain ⟨r, hr, -⟩ := UdfDb.lookup_of_bound hq
    exact ⟨u, by rw [hr]; rfl, hup⟩
  bmp := by
    intro g grp hg hhash
    obtain ⟨s, hperm, hsort, hval⟩ := h.bmp hg hhash
    exact ⟨s, h.base.lists hg hperm, hsort, hval⟩

theorem UdfStart.hwInv (h : UdfStart db) : UdfHwInv db := by
  have hslots : ∀ g, db.groups.lookup g = none := by intro g; rw [h.groups]; rfl
  have hbound : ∀ u, db.bound u = none := by
    intro u; unfold UdfDb.bound; rw [h.udfs]; rfl
  have hnot : ∀ o, ¬ db.Taken o := by
    intro o ho
    unfold UdfDb.Taken UdfDb.slots UdfDb.refs at ho
    rw [hslots, hbound, h.udfMatches] at ho
    rcases ho with ho | ho | ho <;> cases ho
  constructor
  case base => exact h.inv
  case nums =>
    constructor
    case held => intro o ho; exact absurd ho (hnot o)
    case inj => intro o o' ho; exact absurd ho (hnot o)
    case group => intro o ho; exact absurd (.inl ho) (hnot o)
    case mtch => intro o ho; exact absurd (.inr (.inl ho)) (hnot o)
    case udf => intro o ho; exact absurd (.inr (.inr ho)) (hnot o)
  case valid => intro g grp hg; rw [hslots] at hg; cases hg
  case bmp => intro g grp hg; rw [hslots] at hg; cases hg
  case plain => intro _ g grp hg; rw [hslots] at hg; cases hg
  case idle => exact fun _ => hbound
  case ctc => intro _ g grp hg; rw [hslots] at hg; cases hg
  case ctcOnly =>
    intro _ n hn
    unfold UdfHw.offsets at hn
    rw [h.entries] at hn
    exact absurd rfl hn
  case parser => intro _ g grp hg; rw [hslots] at hg; cases hg
  case parserOnly =>
    intro _ p hp
    unfold UdfHw.parserOffsets at hp
    rw [h.parser] at hp
    exact absurd rfl hp
  case sole => intro _ u v g g' m m' hu; rw [hbound] at hu; cases hu

theorem UdfHwInv.step (h : UdfHwInv db) {op : UdfOp} (hsafe : UdfHwSafe db op)
    (hstep : udfStep db op = some db') : UdfHwInv db' := by
  have hbase : UdfInv db' := by
    refine h.base.step (fun sdk u he => ?_) hstep
    subst he
    exact hsafe.2.alone
  cases op with
  | createGroup sdk attrs => cases hstep; exact h.createGroup attrs
  | removeGroup g => cases hstep; exact h.removeGroup g
  | createMatch sdk attrs => cases hstep; exact h.createMatch attrs
  | removeMatch m => cases hstep; exact h.removeMatch m
  | createUdf sdk attrs =>
    obtain ⟨hsdk, hgb, hfree⟩ := hsafe
    obtain ⟨r, hr, rfl⟩ := Option.map_eq_some_iff.mp hstep
    rcases createUdf_exact h.base hsdk hgb hr with heq | ⟨oid, n, u, i, grp, rec, bmp, hm⟩
    · exact h.eq heq hbase
    · exact h.made hbase hgb hfree hm
  | removeUdf sdk u =>
    obtain ⟨hsdk, hrem⟩ := hsafe
    obtain ⟨r, hr, rfl⟩ := Option.map_eq_some_iff.mp hstep
    rcases removeUdf_exact h.base hsdk hrem.alone hr with heq | ⟨t, i, grp, rec, ids, hm⟩
    · rw [heq]; exact h
    · exact h.gone hbase hrem hm

/-- In a run whose creations and removals meet the condition the hardware agrees
with the groups. -/
theorem udfHardware_of_run (h : Reachable UdfStart UdfHwSafe udfStep db) : UdfHwOk db :=
  (h.inv (fun _ h => UdfStart.hwInv h) fun _ _ _ h hsafe hstep => UdfHwInv.step h hsafe hstep).ok

end System

/-! ## Two runs -/

theorem UdfSdk.ok_succeeds : UdfSdk.ok.Succeeds := fun _ => rfl

/-- Two UDFs of a group, and one of them again. -/
theorem udfHardware_of_run_two : ∃ db : UdfDb .plain, UdfHwOk db ∧
    db.hw.offsets 1 = some [4] := by
  have r₀ : Reachable UdfStart UdfHwSafe udfStep (UdfDb.blank .plain) :=
    .start (UdfDb.blank_start _)
  have r₁ := r₀.next (.createGroup .ok []) (by trivial) rfl
  have r₂ := r₁.next (.createMatch .ok []) (by trivial) rfl
  have r₃ := r₂.next (.createUdf .ok (udfAt 0)) (by exact ⟨UdfSdk.ok_succeeds, nofun, nofun⟩) rfl
  have r₄ := r₃.next (.createUdf .ok (udfAt 4)) (by exact ⟨UdfSdk.ok_succeeds, nofun, nofun⟩) rfl
  have r₅ := r₄.next (.removeUdf .ok (udfOid 0 .l2 3)) (by
    refine ⟨UdfSdk.ok_succeeds, udfUnique_of_entries (by decide), fun _ => .inl rfl, ?_, nofun⟩
    intro r hr hhash
    cases hr
    exact absurd hhash (by decide)) rfl
  exact ⟨_, udfHardware_of_run r₅, by decide⟩

/-- The SDK succeeds. -/
def UdfOp.Succeeds (_ : UdfDb ch) : UdfOp → Prop
  | .createUdf sdk _ | .removeUdf sdk _ => sdk.Succeeds
  | _ => True

/-- A hash group whose only UDF is removed keeps its bits. -/
theorem udfHardware_not_every_run : ¬ ∀ (ch : UdfChip) (db : UdfDb ch),
    Reachable UdfStart UdfOp.Succeeds udfStep db → UdfHwOk db := by
  intro h
  have r₀ : Reachable UdfStart UdfOp.Succeeds udfStep (UdfDb.blank .plain) :=
    .start (UdfDb.blank_start _)
  have r₁ := r₀.next (.createGroup .ok [.type .hash]) (by trivial) rfl
  have r₂ := r₁.next (.createMatch .ok []) (by trivial) rfl
  have r₃ := r₂.next (.createUdf .ok [.groupId (udfGroupOid 0 .hash 1),
    .matchId (udfMatchOid 0 2)]) (by exact UdfSdk.ok_succeeds) rfl
  have r₄ := r₃.next (.removeUdf .ok (udfOid 0 .l2 3)) (by exact UdfSdk.ok_succeeds) rfl
  obtain ⟨l, hl, -, hval⟩ := (h _ _ r₄).bmp (udfGroupOid 0 .hash 1) _ rfl (by decide)
  have hempty : l = [] := by
    refine List.eq_nil_iff_forall_not_mem.mpr fun u hu => ?_
    obtain ⟨r, hr, -⟩ := (hl.2 u).mp hu
    cases hr
  rw [hempty] at hval
  exact absurd hval (by decide)

end CtcSai
