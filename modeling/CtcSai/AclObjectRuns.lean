/-
# `AclObjectRuns` — the ACL objects, and what the calls for them return

Tables, groups, members, entries, ranges and counters come and go, and nothing is bound.
What the objects know of each other is true in every state, and a create or a remove
returns SUCCESS exactly when it did what it is for: as long as no counter is named by an
entry that goes, no attribute of an entry is replaced that names ranges or a counter,
and no call is made that refuses without a status.
-/
import CtcSai.AclRelations
import CtcSai.Lib.Run

namespace CtcSai

open KeyedTable IdPool RefCounts Runs Table

variable {ac : AclChip}

/-! ## Calls -/

/-- A call for an ACL object. -/
inductive AclOp where
  | createTable (attrs : List AclTableAttr)
  | removeTable (oid : Oid)
  | createGroup (attrs : List AclGroupAttr)
  | removeGroup (oid : Oid)
  | createMember (attrs : List AclMemberAttr)
  | removeMember (oid : Oid)
  | createEntry (attrs : List AclEntryAttr)
  | removeEntry (oid : Oid)
  | setEntry (oid : Oid) (attr : AclEntryAttr)
  | createRange (attrs : List AclRangeAttr)
  | removeRange (oid : Oid)
  | createCounter (attrs : List AclCounterAttr)
  | removeCounter (oid : Oid)
  | setCounter (oid : Oid) (attr : AclCounterAttr)
  /-- Setting an attribute of a table, a group, a member or a range. -/
  | setOther (known : Bool)

/-- What a call returns: its status, and the object id that a create wrote. -/
structure AclReply (ac : AclChip) where
  status : Status
  oid : Option Oid
  db : AclDb ac

def aclCall (db : AclDb ac) : AclOp → Option (AclReply ac)
  | .createTable attrs => (createAclTable db attrs).map fun r => ⟨r.1, r.2.1, r.2.2⟩
  | .removeTable oid => some ⟨(removeAclTable db oid).1, none, (removeAclTable db oid).2⟩
  | .createGroup attrs => (createAclTableGroup db attrs).map fun r => ⟨r.1, r.2.1, r.2.2⟩
  | .removeGroup oid =>
    some ⟨(removeAclTableGroup db oid).1, none, (removeAclTableGroup db oid).2⟩
  | .createMember attrs => (createAclTableGroupMember db attrs).map fun r => ⟨r.1, r.2.1, r.2.2⟩
  | .removeMember oid => (removeAclTableGroupMember db oid).map fun r => ⟨r.1, none, r.2⟩
  | .createEntry attrs => (createAclEntry db attrs).map fun r => ⟨r.1, r.2.1, r.2.2⟩
  | .removeEntry oid => (removeAclEntry db oid).map fun r => ⟨r.1, none, r.2⟩
  | .setEntry oid attr => (setAclEntryAttribute db oid attr).map fun r => ⟨r.1, none, r.2⟩
  | .createRange attrs =>
    some ⟨(createAclRange db attrs).1, (createAclRange db attrs).2.1, (createAclRange db attrs).2.2⟩
  | .removeRange oid => some ⟨(removeAclRange db oid).1, none, (removeAclRange db oid).2⟩
  | .createCounter attrs =>
    some ⟨(createAclCounter db attrs).1, (createAclCounter db attrs).2.1,
      (createAclCounter db attrs).2.2⟩
  | .removeCounter oid => some ⟨(removeAclCounter db oid).1, none, (removeAclCounter db oid).2⟩
  | .setCounter oid attr => (setAclCounterAttribute db oid attr).map fun r => ⟨r.1, none, r.2⟩
  | .setOther known =>
    some ⟨(setReadOnlyAttribute db known).1, none, (setReadOnlyAttribute db known).2⟩

def aclStep (db : AclDb ac) (op : AclOp) : Option (AclDb ac) := (aclCall db op).map (·.db)

/-! ## What a call is for -/

section Outcome

variable {α : Type}
variable {before : Table Oid α} {st : Status}

/-- A create returns SUCCESS exactly when a new object exists, whose id it wrote. -/
def ObjectMade (before after : Table Oid α) (st : Status) (oid : Option Oid) : Prop :=
  (st = .success ↔ ∃ X, before.lookup X = none ∧ (after.lookup X).isSome) ∧
    (st = .success → ∃ X, oid = some X ∧ before.lookup X = none ∧ (after.lookup X).isSome)

/-- A remove returns SUCCESS exactly when the object existed and was unused, and is gone. -/
def ObjectGone (before after : Table Oid α) (st : Status) (X : Oid) (used : Prop) : Prop :=
  st = .success ↔ (before.lookup X).isSome ∧ ¬ used ∧ after.lookup X = none

theorem ObjectMade.made {before : Table Oid α} {X : Oid} (h : before.lookup X = none) (v : α) :
    ObjectMade before (before.insert X v) .success (some X) := by
  have hnew : ((before.insert X v).lookup X).isSome := by
    rw [lookup_insert_ite, if_pos rfl]
    rfl
  exact ⟨⟨fun _ => ⟨X, h, hnew⟩, fun _ => rfl⟩, fun _ => ⟨X, rfl, h, hnew⟩⟩

theorem ObjectMade.refused {oid : Option Oid} (h : st ≠ .success) :
    ObjectMade before before st oid := by
  refine ⟨⟨fun hst => absurd hst h, ?_⟩, fun hst => absurd hst h⟩
  rintro ⟨X, hX, hX'⟩
  rw [hX] at hX'
  cases hX'

theorem ObjectGone.gone {before : Table Oid α} {X : Oid} {v : α} {used : Prop}
    (h : before.lookup X = some v) (hused : ¬ used) :
    ObjectGone before (before.erase X) .success X used := by
  refine ⟨fun _ => ⟨by rw [h]; rfl, hused, ?_⟩, fun _ => rfl⟩
  rw [lookup_erase_ite, if_pos rfl]

theorem ObjectGone.missing {X : Oid} {used : Prop} (h : before.lookup X = none)
    (hst : st ≠ .success) : ObjectGone before before st X used := by
  refine ⟨fun he => absurd he hst, ?_⟩
  rintro ⟨hX, -⟩
  rw [h] at hX
  cases hX

theorem ObjectGone.inUse {X : Oid} {used : Prop} (h : used) (hst : st ≠ .success) :
    ObjectGone before before st X used :=
  ⟨fun he => absurd he hst, fun hr => absurd h hr.2.1⟩

end Outcome

/-- Live entries or members use a table. -/
def AclDb.tableUsed (db : AclDb ac) (T : Oid) : Prop :=
  (∃ E e, db.entries.lookup E = some e ∧ e.tableId = T) ∨
    ∃ M m, db.members.lookup M = some m ∧ m.tableId = T

def AclDb.groupUsed (db : AclDb ac) (G : Oid) : Prop :=
  ∃ M m, db.members.lookup M = some m ∧ m.groupId = G

def AclDb.rangeUsed (db : AclDb ac) (R : Oid) : Prop :=
  ∃ E e, db.entries.lookup E = some e ∧ R ∈ e.ranges

def AclDb.counterUsed (db : AclDb ac) (C : Oid) : Prop :=
  ∃ E e, db.entries.lookup E = some e ∧ e.counter = some C

def AclOutcome (db : AclDb ac) (r : AclReply ac) : AclOp → Prop
  | .createTable _ => ObjectMade db.tables r.db.tables r.status r.oid
  | .removeTable T => ObjectGone db.tables r.db.tables r.status T (db.tableUsed T)
  | .createGroup _ => ObjectMade db.groups r.db.groups r.status r.oid
  | .removeGroup G => ObjectGone db.groups r.db.groups r.status G (db.groupUsed G)
  | .createMember _ => ObjectMade db.members r.db.members r.status r.oid
  | .removeMember M => ObjectGone db.members r.db.members r.status M False
  | .createEntry _ => ObjectMade db.entries r.db.entries r.status r.oid
  | .removeEntry E => ObjectGone db.entries r.db.entries r.status E False
  | .createRange _ => ObjectMade db.ranges r.db.ranges r.status r.oid
  | .removeRange R => ObjectGone db.ranges r.db.ranges r.status R (db.rangeUsed R)
  | .createCounter _ => ObjectMade db.counters r.db.counters r.status r.oid
  | .removeCounter C => ObjectGone db.counters r.db.counters r.status C (db.counterUsed C)
  | .setEntry _ _ | .setCounter _ _ | .setOther _ => True

/-! ## Calls that behave -/

/-- The ranges of a RANGE field are there, up to the first with a type that the table
create refuses. -/
def AclDb.RangesReadable (db : AclDb ac) (objlist : List Oid) : Prop :=
  ∀ R ∈ objlist.takeWhile (fun R => (db.ranges.lookup R).all (·.rangeType.toNat ≤ 4)),
    (db.ranges.lookup R).isSome

/-- The checks of `ctc_sai_acl_create_acl_entry` are passed, and there is a number. -/
structure AclDb.EntryAdmitted (db : AclDb ac) (attrs : List AclEntryAttr) : Prop where
  table : ∃ tableId t keyType, findAttribInList AclEntryAttr.tableId? attrs = some tableId ∧
    db.tables.lookup tableId = some t ∧ t.tableSize ≠ t.createdEntryCount ∧
      mappingEntryTcamType ac attrs t.lookupType = .ok keyType
  priority : ¬ ((findAttribInList AclEntryAttr.priority? attrs).getD aclDefaultEntryPriority <
      aclMinEntryPriority ∨
    aclMaxEntryPriority <
      (findAttribInList AclEntryAttr.priority? attrs).getD aclDefaultEntryPriority)
  ranges : ∀ R ∈ rangesIn attrs, (db.ranges.lookup R).isSome
  counter : ∀ C ∈ counterIn attrs, (db.counters.lookup C).isSome
  number : (db.entryIndices.alloc).isSome

/-- The entry that an attribute list fills. -/
def storedIn (attrs : List AclEntryAttr) : AclEntry :=
  AclEntry.storeAll ⟨Oid.null, 0, true, .mac, [], []⟩ attrs

/-- A call that keeps what the objects know of each other. -/
def AclSafe (db : AclDb ac) : AclOp → Prop
  | .createTable attrs =>
    ∀ v stage, findAttribInList AclTableAttr.stage? attrs = some v →
      aclStageOf (v.setWidth 8) = some stage → tableBindPointList attrs ≠ 0 ∧
        ((db.tableIndices.alloc).isSome → ∀ objlist,
          findAttribInList (AclTableAttr.field? aclRangeTypeField) attrs = some (true, objlist) →
            db.RangesReadable objlist)
  | .createGroup attrs =>
    ∀ v stage l, findAttribInList AclGroupAttr.stage? attrs = some v →
      aclStageOf (v.setWidth 8) = some stage →
      ¬ (((findAttribInList AclGroupAttr.type? attrs).map (·.setWidth 8)).getD
          groupTypeSequential = groupTypeSequential ∧ stage = .egress) →
      findAttribInList AclGroupAttr.bindPointTypeList? attrs = some l → l.length ≤ 255
  | .createRange attrs =>
    ∀ type min max, findAttribInList AclRangeAttr.type? attrs = some type →
      findAttribInList AclRangeAttr.limit? attrs = some (min, max) → min ≤ max
  | .removeRange R => (db.ranges.lookup R).isSome ∧ ¬ db.rangeUsed R
  | .removeCounter C => (db.counters.lookup C).isSome ∧ ¬ db.counterUsed C
  | .createEntry attrs => db.EntryAdmitted attrs →
      (rangesIn attrs).Nodup ∧ (storedIn attrs).ranges.Perm (rangesIn attrs) ∧
        (storedIn attrs).counter = counterIn attrs
  | .removeEntry E => ∀ e, db.entries.lookup E = some e → e.counter = none
  | .setEntry E attr =>
    ∀ e, db.entries.lookup E = some e → e.mismatch attr = false → attr.setFunction = .success →
      (e.store attr).ranges.Perm e.ranges ∧ (e.store attr).counter = e.counter
  | .setCounter C attr => attr = .packets 0 ∨ attr = .bytes 0 → (db.counters.lookup C).isSome
  | .removeTable _ | .removeGroup _ | .createMember _ | .removeMember _ | .createCounter _
  | .setOther _ => True

/-! ## Tables and groups -/

/-- What the objects know of each other is true, nothing is bound, and the SDK succeeds. -/
structure AclObjInv (db : AclDb ac) : Prop where
  store : StoreInv db.store
  points : NoPoints db.store
  answers : db.hw.answers = []

/-- A call returns, does what its status says and keeps the relations. -/
def Behaves (db : AclDb ac) (op : AclOp) : Prop :=
  ∃ r, aclCall db op = some r ∧ AclOutcome db r op ∧ AclObjInv r.db

variable {db : AclDb ac}
variable {l : List Oid} {attrs : List AclEntryAttr} {t : AclTable} {g : AclGroup} {T entryId : Oid}
  {e : AclEntry}

theorem AclObjInv.of_store (h : AclObjInv db) {db' : AclDb ac} (hs : db'.store = db.store)
    (ha : db'.hw.answers = db.hw.answers) : AclObjInv db' := by
  refine ⟨?_, ?_, ha.trans h.answers⟩
  · rw [hs]
    exact h.store
  · rw [hs]
    exact h.points

/-- The check of a RANGE field comes to an end, and a refusal has a status. -/
theorem addRangeTypes_isSome (hl : db.RangesReadable l) :
    ∀ bmp, ∃ r, addRangeTypes db l bmp = some r ∧ ∀ st, r = .error st → st ≠ .success := by
  induction l with
  | nil => intro bmp; exact ⟨_, rfl, nofun⟩
  | cons R rest ih =>
    intro bmp
    rw [addRangeTypes]
    cases hR : db.ranges.lookup R with
    | none =>
      have hsome := hl R (by simp [hR])
      rw [hR] at hsome
      cases hsome
    | some r =>
      dsimp only
      by_cases htype : r.rangeType.toNat ≤ 4
      · rw [if_pos htype]
        refine ih (fun R' hR' => hl R' ?_) _
        rw [List.takeWhile_cons_of_pos (by simp [hR, htype])]
        exact List.mem_cons_of_mem _ hR'
      rw [if_neg htype]
      refine ⟨_, rfl, ?_⟩
      rintro st he
      cases he
      nofun

theorem tableFields_isSome {attrs : List AclTableAttr}
    (h : ∀ objlist, findAttribInList (AclTableAttr.field? aclRangeTypeField) attrs =
      some (true, objlist) → db.RangesReadable objlist) {l : List Nat} :
    ∀ acc, ∃ r, tableFields db attrs l acc = some r ∧ ∀ st, r = .error st → st ≠ .success := by
  induction l with
  | nil => rintro ⟨bmp, rangeBmp⟩; exact ⟨_, rfl, nofun⟩
  | cons n rest ih =>
    rintro ⟨bmp, rangeBmp⟩
    rw [tableFields]
    split
    · next objlist hfind =>
      split
      · next hn =>
        subst hn
        obtain ⟨r, hr, hst⟩ := addRangeTypes_isSome (h objlist hfind) rangeBmp
        rw [hr]
        cases r with
        | error st => exact ⟨_, rfl, fun st' he => hst st' (by cases he; rfl)⟩
        | ok rangeBmp => exact ih _
      · exact ih _
    · exact ih _

theorem mappingTableLookupType_success {t' : AclTable}
    (h : mappingTableLookupType ac t = (.success, t')) :
    t' = { t with lookupType := t'.lookupType } := by
  rw [mappingTableLookupType] at h
  split at h
  · cases h; rfl
  · next hne => exact absurd (congrArg Prod.fst h) hne

theorem AclObjInv.createTable (h : AclObjInv db) {attrs : List AclTableAttr}
    (hsafe : AclSafe db (.createTable attrs)) : Behaves db (.createTable attrs) := by
  simp only [Behaves, aclCall, createAclTable]
  split
  · exact ⟨_, rfl, ObjectMade.refused nofun, h⟩
  split
  · exact ⟨_, rfl, ObjectMade.refused nofun, h⟩
  next v hv =>
  split
  · exact ⟨_, rfl, ObjectMade.refused nofun, h⟩
  next stage hstage =>
  obtain ⟨hbind, hranges⟩ := hsafe v stage hv hstage
  rw [if_neg hbind]
  split
  · exact ⟨_, rfl, ObjectMade.refused nofun, h⟩
  next i pool halloc =>
  have hread : ∀ objlist, findAttribInList (AclTableAttr.field? aclRangeTypeField)
      attrs = some (true, objlist) →
      ({ db with tableIndices := pool } : AclDb ac).RangesReadable objlist :=
    hranges (by rw [halloc]; rfl)
  obtain ⟨r, hr, hst⟩ := tableFields_isSome hread (l := List.range aclTableFieldNum) (0, 0)
  simp only [addAclTable, hr]
  cases r with
  | error st => exact ⟨_, rfl, ObjectMade.refused (hst st rfl), h.of_store rfl rfl⟩
  | ok fields =>
    dsimp only
    split
    · next t ht =>
      have hsame := mappingTableLookupType_success ht
      split
      · exact ⟨_, rfl, ObjectMade.refused nofun, h.of_store rfl rfl⟩
      next hfree =>
      obtain ⟨-, -, hlt, -, -⟩ := Pool.alloc_some halloc
      have hi : i < 2 ^ 28 := by
        have hrange := ac.tableIndices_range
        omega
      have hlists := h.store.toListInv.addTable (t := t) hi hfree
        (by rw [hsame]) (by rw [hsame]) (by rw [hsame])
      exact ⟨_, rfl, ObjectMade.made hfree t, h.store.withLists hlists,
        h.points.insertTable (by rw [hsame]), h.answers⟩
    · next hne _ => exact ⟨_, rfl, ObjectMade.refused hne, h.of_store rfl rfl⟩

theorem AclObjInv.removeTable (h : AclObjInv db) (T : Oid) : Behaves db (.removeTable T) := by
  simp only [Behaves, aclCall, removeAclTable]
  cases hT : db.tables.lookup T with
  | none => exact ⟨_, rfl, ObjectGone.missing hT nofun, h⟩
  | some t =>
    dsimp only
    split
    · next hlists =>
      refine ⟨_, rfl, ObjectGone.inUse ?_ nofun, h⟩
      rcases hlists with he | hg | hp
      · obtain ⟨n, hn⟩ := List.exists_mem_of_ne_nil _ he
        have hin : n.entryId ∈ t.entryList.map (·.entryId) := List.mem_map_of_mem hn
        rw [← List.count_pos_iff, h.store.entryList T t hT] at hin
        have htab : db.store.tableOf n.entryId = some T := by
          by_contra hne
          rw [if_neg hne] at hin
          cases hin
        obtain ⟨e, hl, he⟩ := Option.map_eq_some_iff.mp htab
        exact .inl ⟨_, e, hl, he⟩
      · obtain ⟨G, hG⟩ := List.exists_mem_of_ne_nil _ hg
        rw [← List.count_pos_iff, h.store.groupList T t hT] at hG
        obtain ⟨M, m, hM, -, hm⟩ := ListInv.exists_of_memberCount_pos hG
        exact .inr ⟨M, m, hM, hm⟩
      · exact absurd (h.points.tables T t hT) hp
    · next hlists =>
      simp only [not_or, not_not] at hlists
      obtain ⟨hentries, hmembers⟩ := h.store.unused_table hT hlists.1 hlists.2.1
      refine ⟨_, rfl, ObjectGone.gone hT ?_,
        h.store.withLists (h.store.eraseTable hentries hmembers), h.points.eraseTable T,
        h.answers⟩
      rintro (⟨E, e, hE, he⟩ | ⟨M, m, hM, hm⟩)
      · refine hentries E ?_
        exact Option.map_eq_some_iff.mpr ⟨e, hE, he⟩
      · exact hmembers M m hM hm

theorem AclObjInv.createGroup (h : AclObjInv db) {attrs : List AclGroupAttr}
    (hsafe : AclSafe db (.createGroup attrs)) : Behaves db (.createGroup attrs) := by
  simp only [Behaves, aclCall, createAclTableGroup]
  split
  · exact ⟨_, rfl, ObjectMade.refused nofun, h⟩
  split
  · exact ⟨_, rfl, ObjectMade.refused nofun, h⟩
  next v hv =>
  split
  · exact ⟨_, rfl, ObjectMade.refused nofun, h⟩
  next stage hstage =>
  split
  · exact ⟨_, rfl, ObjectMade.refused nofun, h⟩
  next hseq =>
  split
  · next hlong =>
    obtain ⟨l, hl, hlen⟩ := (Option.any_eq_true ..).mp hlong
    have hshort := hsafe v stage l hv hstage hseq hl
    exact absurd hshort (Nat.not_le.mpr (of_decide_eq_true hlen))
  split
  · exact ⟨_, rfl, ObjectMade.refused nofun, h⟩
  split
  · exact ⟨_, rfl, ObjectMade.refused nofun, h.of_store rfl rfl⟩
  next hfree =>
  exact ⟨_, rfl, ObjectMade.made hfree _, h.store.withLists (h.store.addGroup hfree rfl rfl),
    h.points.insertGroup rfl, h.answers⟩

theorem AclObjInv.removeGroup (h : AclObjInv db) (G : Oid) : Behaves db (.removeGroup G) := by
  simp only [Behaves, aclCall, removeAclTableGroup]
  cases hG : db.groups.lookup G with
  | none => exact ⟨_, rfl, ObjectGone.missing hG nofun, h⟩
  | some g =>
    dsimp only
    split
    · next hlists =>
      refine ⟨_, rfl, ObjectGone.inUse ?_ nofun, h⟩
      rcases hlists with hm | hp
      · obtain ⟨n, hn⟩ := List.exists_mem_of_ne_nil _ hm
        have hin : n.tableId ∈ g.memberList.map (·.tableId) := List.mem_map_of_mem hn
        rw [← List.count_pos_iff, h.store.memberList G g hG] at hin
        obtain ⟨M, m, hM, hm, -⟩ := ListInv.exists_of_memberCount_pos hin
        exact ⟨M, m, hM, hm⟩
      · exact absurd (h.points.groups G g hG) hp
    next hlists =>
    simp only [not_or, not_not] at hlists
    have hmembers := h.store.unused_group hG hlists.1
    refine ⟨_, rfl, ObjectGone.gone hG ?_, h.store.withLists (h.store.eraseGroup hmembers),
      h.points.eraseGroup G, h.answers⟩
    rintro ⟨M, m, hM, hm⟩
    exact hmembers M m hM hm

/-! ## Ranges and counters -/

theorem AclObjInv.createRange (h : AclObjInv db) {attrs : List AclRangeAttr}
    (hsafe : AclSafe db (.createRange attrs)) : Behaves db (.createRange attrs) := by
  refine ⟨_, rfl, ?_⟩
  simp only [AclOutcome, createAclRange]
  split
  · exact ⟨ObjectMade.refused nofun, h⟩
  split
  · exact ⟨ObjectMade.refused nofun, h⟩
  next type htype =>
  split
  · exact ⟨ObjectMade.refused nofun, h⟩
  next min max hlimit =>
  rw [if_neg (BitVec.not_lt.mpr (hsafe type min max htype hlimit))]
  split
  · exact ⟨ObjectMade.refused nofun, h⟩
  · split
    · exact ⟨ObjectMade.refused nofun, h.of_store rfl rfl⟩
    · next hfree => exact ⟨ObjectMade.made hfree _, h.store.addRange hfree rfl, ⟨h.points.1, h.points.2⟩, h.answers⟩

theorem AclObjInv.removeRange (h : AclObjInv db) {R : Oid}
    (hsafe : AclSafe db (.removeRange R)) : Behaves db (.removeRange R) := by
  obtain ⟨hlive, hfree⟩ := hsafe
  obtain ⟨r, hR⟩ := Option.isSome_iff_exists.mp hlive
  have hzero : r.refCnt = 0 :=
    (h.store.unused_range hR).mpr fun E e hE hmem => hfree ⟨E, e, hE, hmem⟩
  simp only [Behaves, aclCall, removeAclRange, hR, hzero, ne_eq, not_true_eq_false, if_false]
  exact ⟨_, rfl, ObjectGone.gone hR hfree, h.store.eraseRange hR hzero,
    ⟨h.points.1, h.points.2⟩, h.answers⟩

theorem AclObjInv.call (h : AclObjInv db) : db.hw.call = (.none, db.hw) := by
  rw [AclHw.call, h.answers]

theorem AclObjInv.createCounter (h : AclObjInv db) (attrs : List AclCounterAttr) :
    Behaves db (.createCounter attrs) := by
  refine ⟨_, rfl, ?_⟩
  simp only [AclOutcome, createAclCounter]
  split
  · exact ⟨ObjectMade.refused nofun, h⟩
  split
  · exact ⟨ObjectMade.refused nofun, h⟩
  split
  · exact ⟨ObjectMade.refused nofun, h⟩
  split
  · exact ⟨ObjectMade.refused nofun, h⟩
  split
  · exact ⟨ObjectMade.refused nofun, h⟩
  split
  · exact ⟨ObjectMade.refused nofun, h.of_store rfl rfl⟩
  next hfree =>
  simp only [h.call]
  exact ⟨ObjectMade.made hfree _, h.store.addCounter hfree rfl, ⟨h.points.1, h.points.2⟩, h.answers⟩

theorem AclObjInv.removeCounter (h : AclObjInv db) {C : Oid}
    (hsafe : AclSafe db (.removeCounter C)) : Behaves db (.removeCounter C) := by
  obtain ⟨hlive, hfree⟩ := hsafe
  obtain ⟨c, hC⟩ := Option.isSome_iff_exists.mp hlive
  have hzero : c.refCnt = 0 :=
    (h.store.unused_counter hC).mpr fun E e hE hname => hfree ⟨E, e, hE, hname⟩
  simp only [Behaves, aclCall, removeAclCounter, hC, hzero, ne_eq, not_true_eq_false, if_false,
    h.call]
  exact ⟨_, rfl, ObjectGone.gone hC hfree, h.store.eraseCounter hC hzero,
    ⟨h.points.1, h.points.2⟩, h.answers⟩

theorem AclObjInv.setCounter (h : AclObjInv db) {C : Oid} {attr : AclCounterAttr}
    (hsafe : AclSafe db (.setCounter C attr)) : Behaves db (.setCounter C attr) := by
  have hclear : ∀ n, attr = .packets n ∨ attr = .bytes n →
      ∃ st, setAclCounterAttribute db C attr = some (st, db) := by
    intro n hn
    by_cases hzero : n = 0
    · obtain ⟨c, hC⟩ := Option.isSome_iff_exists.mp (hsafe (hzero ▸ hn))
      rcases hn with rfl | rfl <;>
        exact ⟨_, by rw [setAclCounterAttribute, if_pos hzero, hC, h.call]⟩
    · rcases hn with rfl | rfl <;> exact ⟨_, if_neg hzero⟩
  have hany : ∃ st, setAclCounterAttribute db C attr = some (st, db) := by
    cases attr with
    | packets n => exact hclear n (.inl rfl)
    | bytes n => exact hclear n (.inr rfl)
    | tableId oid => exact ⟨_, rfl⟩
    | enablePacketCount b => exact ⟨_, rfl⟩
    | enableByteCount b => exact ⟨_, rfl⟩
  obtain ⟨st, hst⟩ := hany
  simp only [Behaves, aclCall, hst]
  exact ⟨_, rfl, trivial, h⟩

/-! ## Members -/

theorem mappingGroupLookupType_success {g' : AclGroup}
    (h : mappingGroupLookupType db g = (.success, g')) :
    g' = { g with lookupType := g'.lookupType } ∧
      (g.memberList ≠ [] → checkGroupKeyField db g g.memberList = .success) := by
  rw [mappingGroupLookupType] at h
  split at h
  · next hnil =>
    cases h
    exact ⟨rfl, fun hne => absurd hnil hne⟩
  split at h
  · next hcheck =>
    cases h
    exact ⟨rfl, fun _ => hcheck⟩
  · next hne => exact absurd (congrArg Prod.fst h) hne

theorem mappingGroupLookupType_of_check (h : checkGroupKeyField db g g.memberList = .success) :
    ∃ g', mappingGroupLookupType db g = (.success, g') := by
  rw [mappingGroupLookupType]
  split
  · exact ⟨_, rfl⟩
  · rw [h]
    exact ⟨_, rfl⟩

theorem checkMember_success {prio : BitVec 32} (h : checkMember g t T prio = .success) :
    ¬ ∃ n ∈ g.memberList, n.tableId = T := by
  rw [checkMember] at h
  split at h
  · cases h
  split at h
  · split at h
    · cases h
    · assumption
  · next hne => exact absurd h hne

theorem AclObjInv.addMember (h : AclObjInv db) {G : Oid} (hG : db.groups.lookup G = some g)
    (hT : db.tables.lookup T = some t) (hnew : ¬ ∃ n ∈ g.memberList, n.tableId = T)
    (prio : BitVec 32) :
    ∃ r, addMember db g t G T prio = some r ∧
      ObjectMade db.members r.2.2.members r.1 r.2.1 ∧ AclObjInv r.2.2 := by
  simp only [CtcSai.addMember]
  split
  · exact ⟨_, rfl, ObjectMade.refused nofun, h⟩
  next i pool _ =>
  split
  · exact ⟨_, rfl, ObjectMade.refused nofun, h.of_store rfl rfl⟩
  next hfree =>
  split
  · next g' hmap =>
    obtain ⟨hsame, hcheck⟩ := mappingGroupLookupType_success hmap
    have hfields : checkMasterKeyField t.tableKeyBmp g.groupStage g.bindPointList = .success := by
      have hall := hcheck (List.cons_ne_nil _ _)
      rw [checkGroupKeyField] at hall
      simp only [lookup_insert_ite, if_true] at hall
      split at hall
      · assumption
      · next hne => exact absurd hall hne
    have hpoints : g'.bindPoints = [] := by
      rw [hsame]
      exact h.points.groups G g hG
    have hkeep : g'.groupStage = g.groupStage ∧ g'.bindPointList = g.bindPointList := by
      rw [hsame]
      exact ⟨rfl, rfl⟩
    have hgood := h.store.withLists (h.store.toListInv.addMember hG hT hfree
      (m := ⟨G, T, prio⟩) ⟨rfl, rfl⟩ hkeep (by rw [hsame]) hnew hfields)
    simp only [hpoints, List.flatMap_nil, addObjectEverywhere]
    have hfreed := (h.points.insertGroup (G := G) hpoints).insertTable (T := T)
      (t := { t with groupList := G :: t.groupList }) (h.points.tables T t hT)
    exact ⟨_, rfl, ObjectMade.made hfree _, hgood, ⟨hfreed.1, hfreed.2⟩, h.answers⟩
  · next hne _ => exact ⟨_, rfl, ObjectMade.refused hne, h.of_store rfl rfl⟩

theorem AclObjInv.createMember (h : AclObjInv db) (attrs : List AclMemberAttr) :
    Behaves db (.createMember attrs) := by
  simp only [Behaves, aclCall, createAclTableGroupMember]
  split
  · exact ⟨_, rfl, ObjectMade.refused nofun, h⟩
  split
  · exact ⟨_, rfl, ObjectMade.refused nofun, h⟩
  next G _ =>
  split
  · exact ⟨_, rfl, ObjectMade.refused nofun, h⟩
  next g hG =>
  split
  · exact ⟨_, rfl, ObjectMade.refused nofun, h⟩
  next T _ =>
  split
  · exact ⟨_, rfl, ObjectMade.refused nofun, h⟩
  next t hT =>
  split
  · exact ⟨_, rfl, ObjectMade.refused nofun, h⟩
  next prio _ =>
  split
  · next hcheck =>
    obtain ⟨r, hr, hmade, hinv⟩ :=
      h.addMember hG hT (checkMember_success hcheck) prio
    rw [hr]
    exact ⟨_, rfl, hmade, hinv⟩
  · next hne => exact ⟨_, rfl, ObjectMade.refused hne, h⟩

theorem AclObjInv.removeMember (h : AclObjInv db) (M : Oid) : Behaves db (.removeMember M) := by
  simp only [Behaves, aclCall, removeAclTableGroupMember]
  cases hM : db.members.lookup M with
  | none => exact ⟨_, rfl, ObjectGone.missing hM nofun, h⟩
  | some m =>
    obtain ⟨g, t, hG, hT, -⟩ := h.store.liveMember M m hM
    have hnodes := h.store.member_nodes hM hG hT
    have hpoints : g.bindPoints = [] := h.points.groups _ g hG
    change db.groups.lookup m.groupId = some g at hG
    change db.tables.lookup m.tableId = some t at hT
    have hleave : removeTableEverywhere m.tableId g.bindPoints db = some db := by
      rw [hpoints]
      rfl
    simp only [hG, hT, hleave, hnodes, and_self, if_true]
    let g₁ : AclGroup :=
      { g with memberList := g.memberList.eraseP (fun n => n.tableId = m.tableId) }
    have hkeep₁ : g₁.groupStage = g.groupStage ∧ g₁.bindPointList = g.bindPointList := ⟨rfl, rfl⟩
    have hmid := h.store.eraseMember hM hG hT hkeep₁ rfl
    let db₁ : AclDb ac := { db with
      groups := db.groups.insert m.groupId g₁
      tables := db.tables.insert m.tableId { t with groupList := t.groupList.erase m.groupId }
      members := db.members.erase M
      groupMemberIndices := db.groupMemberIndices.free M.value.toNat }
    have hG₁ : db₁.groups.lookup m.groupId = some g₁ :=
      (lookup_insert_ite ..).trans (if_pos rfl)
    have hcheck : checkGroupKeyField db₁ g₁ g₁.memberList = .success :=
      hmid.checkGroupKeyField_success hG₁ rfl
    obtain ⟨g₂, hmap⟩ := mappingGroupLookupType_of_check hcheck
    have hsame := (mappingGroupLookupType_success hmap).1
    have hkeep₂ : g₂.groupStage = g.groupStage ∧ g₂.bindPointList = g.bindPointList := by
      rw [hsame]
      exact ⟨rfl, rfl⟩
    have hpoints₂ : g₂.bindPoints = [] := by
      rw [hsame]
      exact hpoints
    have hgood := h.store.withLists (h.store.eraseMember hM hG hT hkeep₂ (by rw [hsame]))
    have hgroups : db₁.groups.insert m.groupId g₂ = db.groups.insert m.groupId g₂ :=
      AList.insert_insert ..
    refine ⟨⟨.success, none, { db₁ with groups := db₁.groups.insert m.groupId g₂ }⟩, ?_,
      ObjectGone.gone hM (fun hf => hf), ?_⟩
    · rw [hmap]
      rfl
    · rw [hgroups]
      have hfreed := (h.points.insertGroup (G := m.groupId) hpoints₂).insertTable
        (T := m.tableId) (t := { t with groupList := t.groupList.erase m.groupId })
        (h.points.tables _ t hT)
      exact ⟨hgood, ⟨hfreed.1, hfreed.2⟩, h.answers⟩

/-! ## Entries -/

theorem AclObjInv.groups_free (h : AclObjInv db) (hT : db.tables.lookup T = some t) :
    ∀ G ∈ t.groupList, ∃ g, db.groups.lookup G = some g ∧ g.bindPoints = [] := by
  intro G hG
  rw [← List.count_pos_iff, h.store.groupList T t hT] at hG
  obtain ⟨M, m, hM, rfl, -⟩ := ListInv.exists_of_memberCount_pos hG
  obtain ⟨g, -, hg, -, -⟩ := h.store.liveMember M m hM
  exact ⟨g, hg, h.points.groups _ g hg⟩

theorem addEntryAtGroups_free {tableId : Oid} {priority : BitVec 16} {w : EntryWalk ac}
    (hl : ∀ G ∈ l, ∃ g, w.db.groups.lookup G = some g ∧ g.bindPoints = []) :
    addEntryAtGroups tableId entryId priority l w = some w := by
  induction l with
  | nil => rfl
  | cons G rest ih =>
    obtain ⟨g, hg, hp⟩ := hl G (List.mem_cons_self ..)
    simp only [addEntryAtGroups, hg, hp]
    exact ih fun G' hG' => hl G' (List.mem_cons_of_mem _ hG')

theorem removeEntryAtGroups_free
    (hl : ∀ G ∈ l, ∃ g, db.groups.lookup G = some g ∧ g.bindPoints = []) :
    removeEntryAtGroups entryId l db = some db := by
  induction l with
  | nil => rfl
  | cons G rest ih =>
    obtain ⟨g, hg, hp⟩ := hl G (List.mem_cons_self ..)
    simp only [removeEntryAtGroups, hg, hp, removeEntryAt, List.foldl_nil]
    exact ih fun G' hG' => hl G' (List.mem_cons_of_mem _ hG')

theorem updateEntryAtGroups_free {attr : AclEntryAttr} {w : AclDb ac × BitVec 32}
    (hl : ∀ G ∈ l, ∃ g, w.1.groups.lookup G = some g ∧ g.bindPoints = []) :
    updateEntryAtGroups entryId e attr l w = some w := by
  induction l with
  | nil => rfl
  | cons G rest ih =>
    obtain ⟨g, hg, hp⟩ := hl G (List.mem_cons_self ..)
    simp only [updateEntryAtGroups, hg, hp]
    exact ih fun G' hG' => hl G' (List.mem_cons_of_mem _ hG')

theorem AclEntry.store_tableId (e : AclEntry) (attr : AclEntryAttr) :
    (e.store attr).tableId = e.tableId := by
  cases attr <;> rfl

theorem AclEntry.storeAll_tableId (e : AclEntry) (attrs : List AclEntryAttr) :
    (e.storeAll attrs).tableId = e.tableId := by
  rw [AclEntry.storeAll]
  induction attrs generalizing e with
  | nil => rfl
  | cons a rest ih =>
    rw [List.foldl_cons, ih]
    cases a <;> rfl

theorem AclEntry.storeAll_lists {e' : AclEntry} (hkeys : e.keyAttrList = e'.keyAttrList)
    (hactions : e.actionAttrList = e'.actionAttrList) (attrs : List AclEntryAttr) :
    (e.storeAll attrs).keyAttrList = (e'.storeAll attrs).keyAttrList ∧
      (e.storeAll attrs).actionAttrList = (e'.storeAll attrs).actionAttrList := by
  induction attrs generalizing e e' with
  | nil => exact ⟨hkeys, hactions⟩
  | cons a rest ih =>
    refine ih ?_ ?_
    · cases a <;> simp only [AclEntry.store, hkeys]
    · cases a <;> simp only [AclEntry.store, hactions]

theorem AclEntry.storeAll_names {e : AclEntry} (hkeys : e.keyAttrList = [])
    (hactions : e.actionAttrList = []) (attrs : List AclEntryAttr) :
    (e.storeAll attrs).ranges = (storedIn attrs).ranges ∧
      (e.storeAll attrs).counter = (storedIn attrs).counter := by
  let blank : AclEntry := ⟨Oid.null, 0, true, .mac, [], []⟩
  have hlists : (e.storeAll attrs).keyAttrList = (blank.storeAll attrs).keyAttrList ∧
      (e.storeAll attrs).actionAttrList = (blank.storeAll attrs).actionAttrList :=
    AclEntry.storeAll_lists hkeys hactions attrs
  exact ⟨by rw [AclEntry.ranges, AclEntry.keyAttr, hlists.1]; rfl,
    by rw [AclEntry.counter, hlists.2]; rfl⟩

theorem addCounterRef_isSome {C : Option Oid} {counters : Table Oid AclCounter}
    (hC : ∀ C₀ ∈ C, (counters.lookup C₀).isSome)
    (hroom : ∀ C₀, kept (fun c : AclCounter => c.refCnt.toNat) counters C₀ + 1 < 2 ^ 32) :
    ∃ counters', addCounterRef C counters = some counters' ∧
      ∀ C₀, kept (fun c : AclCounter => c.refCnt.toNat) counters' C₀ =
        kept (fun c : AclCounter => c.refCnt.toNat) counters C₀ + if C = some C₀ then 1 else 0 := by
  cases C with
  | none => exact ⟨counters, rfl, fun C₀ => rfl⟩
  | some C₁ =>
    obtain ⟨c, hc⟩ := Option.isSome_iff_exists.mp (hC C₁ rfl)
    let c' : AclCounter := { c with refCnt := c.refCnt + 1 }
    have hone : c'.refCnt.toNat = c.refCnt.toNat + 1 := by
      have hlt := hroom C₁
      rw [kept_of_lookup hc] at hlt
      show (c.refCnt + 1).toNat = _
      bv_omega
    have hmove : Moves none (some C₁) (kept (fun c => c.refCnt.toNat) counters)
        (kept (fun c => c.refCnt.toNat) (counters.insert C₁ c')) := kept_join hc hone
    refine ⟨counters.insert C₁ c', by rw [addCounterRef, hc], fun C₀ => ?_⟩
    have hC₀ := hmove C₀
    exact hC₀

theorem mappingEntryTcamType_error {lookupType : BitVec 32} {st : Status}
    (h : mappingEntryTcamType ac attrs lookupType = .error st) : st ≠ .success := by
  simp only [mappingEntryTcamType] at h
  split at h
  · cases h
    nofun
  · split at h <;> cases h

theorem AclObjInv.room (h : AclObjInv db) (X : Oid) :
    kept (fun r => r.refCnt.toNat) db.ranges X + 1 < 2 ^ 32 ∧
      kept (fun c => c.refCnt.toNat) db.counters X + 1 < 2 ^ 32 := by
  have hranges : kept (fun r => r.refCnt.toNat) db.ranges X = db.store.rangeUsers X :=
    congrFun h.store.rangeRefs X
  have hcounters : kept (fun c => c.refCnt.toNat) db.counters X = db.store.counterUsers X :=
    congrFun h.store.counterRefs X
  have hleR : db.store.rangeUsers X ≤ 64 * 1024 := h.store.count_le _
  have hleC : db.store.counterUsers X ≤ 64 * 1024 := h.store.count_le _
  omega

/-- An entry that passed the checks gets its node, and what it names counts it. -/
theorem AclObjInv.addEntry (h : AclObjInv db) (hT : db.tables.lookup e.tableId = some t)
    (hfull : t.tableSize ≠ t.createdEntryCount)
    (hnames : (db.entryIndices.alloc).isSome → (rangesIn attrs).Nodup ∧
      e.ranges.Perm (rangesIn attrs) ∧ e.counter = counterIn attrs)
    (hR : ∀ R ∈ rangesIn attrs, (db.ranges.lookup R).isSome)
    (hC : ∀ C ∈ counterIn attrs, (db.counters.lookup C).isSome) :
    ∃ r, addAclEntry db attrs t e = some r ∧
      ObjectMade db.entries r.2.2.entries r.1 r.2.1 ∧ AclObjInv r.2.2 := by
  simp only [addAclEntry]
  split
  · exact ⟨_, rfl, ObjectMade.refused nofun, h⟩
  next i pool halloc =>
  obtain ⟨-, -, hlt, hused, -⟩ := Pool.alloc_some halloc
  have hi : i < 2 ^ 32 := by
    have hrange := ac.entryIndices_range
    omega
  split
  · refine ⟨_, rfl, ObjectMade.refused nofun, ?_⟩
    rw [Pool.free_of_alloc halloc]
    exact h
  next hfree =>
  obtain ⟨hnd, hranges, hcounter⟩ := hnames (by rw [halloc]; rfl)
  obtain ⟨ranges, hmapR, hkeptR⟩ :=
    mapRangeRefs_up hnd hR fun R _ => (h.room R).1
  obtain ⟨counters, hmapC, hkeptC⟩ := addCounterRef_isSome hC fun C => (h.room C).2
  have hpoints : t.bindPoints = [] := h.points.tables _ t hT
  have hwalk : ∀ db' : AclDb ac, db'.groups = db.groups →
      addEntryEverywhere db' t e.tableId (aclEntryOid ac i) e.priority = some db' := by
    intro db' hgroups
    have hgo : addEntryAtGroups e.tableId (aclEntryOid ac i) e.priority t.groupList
        (⟨db', .port, 0⟩ : EntryWalk ac) = some ⟨db', .port, 0⟩ :=
      addEntryAtGroups_free (by rw [hgroups]; exact h.groups_free hT)
    simp only [addEntryEverywhere, hgo, hpoints]
    rfl
  simp only [hwalk, hmapR, hmapC]
  have hpoints' := h.points.insertTable (T := e.tableId) (t := { t with
    entryList := ⟨aclEntryOid ac i, e.priority⟩ :: t.entryList
    createdEntryCount := t.createdEntryCount + 1 }) hpoints
  refine ⟨_, rfl, ObjectMade.made hfree _, ?_, ⟨hpoints'.1, hpoints'.2⟩, h.answers⟩
  refine h.store.addEntry hfree hT hfull (hranges.nodup_iff.mpr hnd) ?_ ?_ rfl hi hused
  · intro R
    refine (hkeptR R).trans ?_
    exact congrArg _ (if_congr hranges.mem_iff.symm rfl rfl)
  · rw [hcounter]
    exact hkeptC

theorem AclObjInv.createEntry (h : AclObjInv db) (hsafe : AclSafe db (.createEntry attrs)) :
    Behaves db (.createEntry attrs) := by
  simp only [Behaves, aclCall, createAclEntry]
  split
  · exact ⟨_, rfl, ObjectMade.refused nofun, h⟩
  split
  · exact ⟨_, rfl, ObjectMade.refused nofun, h⟩
  next T hfind =>
  split
  · exact ⟨_, rfl, ObjectMade.refused nofun, h⟩
  next t hT =>
  split
  · exact ⟨_, rfl, ObjectMade.refused nofun, h⟩
  next hfull =>
  split
  · exact ⟨_, rfl, ObjectMade.refused nofun, h⟩
  next hprio =>
  split
  · next st hst =>
    exact ⟨_, rfl, ObjectMade.refused (mappingEntryTcamType_error hst), h⟩
  next keyType hkey =>
  split
  · exact ⟨_, rfl, ObjectMade.refused nofun, h⟩
  next hranges =>
  split
  · exact ⟨_, rfl, ObjectMade.refused nofun, h⟩
  next hcounter =>
  have hR : ∀ R ∈ rangesIn attrs, (db.ranges.lookup R).isSome :=
    fun R hR => Option.isSome_iff_ne_none.mpr fun hnone =>
      hranges ⟨R, hR, hnone⟩
  have hC : ∀ C ∈ counterIn attrs, (db.counters.lookup C).isSome :=
    fun C hC => Option.isSome_iff_ne_none.mpr fun hnone =>
      hcounter ⟨C, hC, hnone⟩
  let e₀ : AclEntry := ⟨T, ((findAttribInList AclEntryAttr.priority? attrs).getD
      aclDefaultEntryPriority).setWidth 16,
    (findAttribInList AclEntryAttr.adminState? attrs).getD true,
    keyType, [], []⟩
  obtain ⟨hkeys, hactions⟩ := @AclEntry.storeAll_names e₀ rfl rfl attrs
  have htab : (e₀.storeAll attrs).tableId = T :=
    e₀.storeAll_tableId attrs
  have hnames : (db.entryIndices.alloc).isSome →
      (rangesIn attrs).Nodup ∧
        (e₀.storeAll attrs).ranges.Perm (rangesIn attrs) ∧
          (e₀.storeAll attrs).counter = counterIn attrs := by
    intro hnum
    rw [hkeys, hactions]
    exact hsafe ⟨⟨T, t, keyType, hfind, hT, hfull, hkey⟩, hprio, hR, hC, hnum⟩
  obtain ⟨r, hr, hmade, hinv⟩ :=
    h.addEntry (htab ▸ hT) hfull hnames hR hC
  rw [hr]
  exact ⟨_, rfl, hmade, hinv⟩

theorem AclObjInv.removeEntry (h : AclObjInv db) {E : Oid}
    (hsafe : AclSafe db (.removeEntry E)) : Behaves db (.removeEntry E) := by
  simp only [Behaves, aclCall, removeAclEntry]
  cases hE : db.entries.lookup E with
  | none => exact ⟨_, rfl, ObjectGone.missing hE nofun, h⟩
  | some e =>
    obtain ⟨t, hT⟩ := Option.isSome_iff_exists.mp (h.store.liveTable E e hE)
    change db.tables.lookup e.tableId = some t at hT
    have hpoints : t.bindPoints = [] := h.points.tables _ t hT
    have hnode : ∃ m ∈ t.entryList, m.entryId = E := by
      have hin : E ∈ t.entryList.map (·.entryId) := by
        rw [← List.count_pos_iff, h.store.entryList _ t hT, if_pos]
        · exact Nat.one_pos
        · exact Option.map_eq_some_iff.mpr ⟨e, hE, rfl⟩
      exact List.mem_map.mp hin
    have hpos : ∀ R ∈ e.ranges, 1 ≤ kept (fun r => r.refCnt.toNat) db.ranges R := by
      intro R hR
      obtain ⟨r, hr, hone⟩ := h.store.range_isSome hE hR
      have hcount : kept (fun r => r.refCnt.toNat) db.ranges R = r.refCnt.toNat :=
        kept_of_lookup hr
      omega
    obtain ⟨ranges, hmap, hkept⟩ := mapRangeRefs_down (h.store.nodup E e hE) hpos
    have hleave : removeEntryAt db E t.bindPoints = db := by
      rw [hpoints]
      rfl
    simp only [hT, removeEntryAtGroups_free (h.groups_free hT), hleave, hnode, if_true, hmap]
    have hpoints' := h.points.insertTable (T := e.tableId) (t := { t with
      entryList := t.entryList.eraseP (fun m => m.entryId = E)
      createdEntryCount := t.createdEntryCount - 1 }) hpoints
    exact ⟨_, rfl, ObjectGone.gone hE (fun hf => hf),
      h.store.eraseEntry hE hT hkept (hsafe e hE), ⟨hpoints'.1, hpoints'.2⟩, h.answers⟩

theorem AclObjInv.setEntry (h : AclObjInv db) {E : Oid} {attr : AclEntryAttr}
    (hsafe : AclSafe db (.setEntry E attr)) : Behaves db (.setEntry E attr) := by
  simp only [Behaves, aclCall, setAclEntryAttribute]
  split
  · exact ⟨_, rfl, trivial, h⟩
  next e hE =>
  split
  · exact ⟨_, rfl, trivial, h⟩
  next hmatch =>
  split
  · next hset =>
    obtain ⟨hranges, hcounter⟩ := hsafe e hE (by simpa using hmatch) hset
    obtain ⟨t, hT⟩ := Option.isSome_iff_exists.mp (h.store.liveTable E e hE)
    change db.tables.lookup e.tableId = some t at hT
    have hpoints : t.bindPoints = [] := h.points.tables _ t hT
    have hwalk : updateEntryAtGroups E e attr t.groupList (db, 0) = some (db, 0) :=
      updateEntryAtGroups_free (h.groups_free hT)
    simp only [setAclEntryInfo, hT, hwalk, hpoints]
    exact ⟨_, rfl, trivial, h.store.setEntry hE (e.store_tableId attr) hranges hcounter,
      ⟨h.points.1, h.points.2⟩, h.answers⟩
  · exact ⟨_, rfl, trivial, h⟩

/-! ## Runs -/

/-- There is no object, and every call of the SDK succeeds. -/
structure AclStart (db : AclDb ac) : Prop where
  groups : db.groups = ∅
  tables : db.tables = ∅
  members : db.members = ∅
  entries : db.entries = ∅
  ranges : db.ranges = ∅
  counters : db.counters = ∅
  answers : db.hw.answers = []

theorem AclStart.inv (h : AclStart db) : AclObjInv db := by
  have hstore : db.store = ⟨∅, ∅, ∅, ∅, ∅, ∅, db.entryIndices⟩ := by
    rw [AclDb.store, h.groups, h.tables, h.members, h.entries, h.ranges, h.counters]
  refine ⟨?_, ?_, h.answers⟩
  · rw [hstore]
    exact ⟨⟨nofun, nofun, nofun, nofun, nofun, nofun, nofun, nofun, nofun, nofun, nofun⟩,
      rfl, rfl, nofun⟩
  · rw [hstore]
    exact ⟨nofun, nofun⟩

theorem AclObjInv.behaves (h : AclObjInv db) {op : AclOp} (hop : AclSafe db op) :
    Behaves db op := by
  cases op with
  | createTable attrs => exact h.createTable hop
  | removeTable T => exact h.removeTable T
  | createGroup attrs => exact h.createGroup hop
  | removeGroup G => exact h.removeGroup G
  | createMember attrs => exact h.createMember attrs
  | removeMember M => exact h.removeMember M
  | createEntry attrs => exact h.createEntry hop
  | removeEntry E => exact h.removeEntry hop
  | setEntry E attr => exact h.setEntry hop
  | createRange attrs => exact h.createRange hop
  | removeRange R => exact h.removeRange hop
  | createCounter attrs => exact h.createCounter attrs
  | removeCounter C => exact h.removeCounter hop
  | setCounter C attr => exact h.setCounter hop
  | setOther known => exact ⟨_, rfl, trivial, h⟩

theorem AclObjInv.step {db' : AclDb ac} (h : AclObjInv db) {op : AclOp} (hop : AclSafe db op)
    (hst : aclStep db op = some db') : AclObjInv db' := by
  obtain ⟨r, hr, -, hinv⟩ := h.behaves hop
  rw [aclStep, hr] at hst
  cases hst
  exact hinv

/-- What the objects say of each other. -/
structure AclRelated (db : AclDb ac) : Prop where
  entryList : ∀ T t, db.tables.lookup T = some t → (t.entryList.map (·.entryId)).Nodup ∧
    ∀ E, E ∈ t.entryList.map (·.entryId) ↔ ∃ e, db.entries.lookup E = some e ∧ e.tableId = T
  entryCount : ∀ T t, db.tables.lookup T = some t →
    t.createdEntryCount.toNat = t.entryList.length ∧
      t.createdEntryCount.toNat = db.store.entryNum T ∧ t.createdEntryCount ≤ t.tableSize
  memberList : ∀ G g, db.groups.lookup G = some g → ∀ T,
    (g.memberList.map (·.tableId)).count T = db.store.memberCount G T
  groupList : ∀ T t, db.tables.lookup T = some t → ∀ G,
    t.groupList.count G = db.store.memberCount G T
  rangeRefs : ∀ R r, db.ranges.lookup R = some r → r.refCnt.toNat = db.store.rangeUsers R
  counterRefs : ∀ C c, db.counters.lookup C = some c → c.refCnt.toNat = db.store.counterUsers C
  liveEntry : ∀ E e, db.entries.lookup E = some e → (db.tables.lookup e.tableId).isSome ∧
    (∀ R ∈ e.ranges, (db.ranges.lookup R).isSome) ∧
      ∀ C, e.counter = some C → (db.counters.lookup C).isSome
  liveMember : ∀ M m, db.members.lookup M = some m →
    (db.groups.lookup m.groupId).isSome ∧ (db.tables.lookup m.tableId).isSome

theorem AclObjInv.related (h : AclObjInv db) : AclRelated db := by
  refine ⟨?_, ?_, h.store.memberList, h.store.groupList, ?_, ?_, ?_, ?_⟩
  · intro T t hT
    have hcount := h.store.entryList T t hT
    constructor
    · refine List.nodup_iff_count_le_one.mpr fun E => ?_
      rw [hcount]
      split
      · exact Nat.le_refl 1
      · exact Nat.zero_le 1
    · intro E
      rw [← List.count_pos_iff, hcount]
      have htab : db.store.tableOf E = some T ↔
          ∃ e, db.entries.lookup E = some e ∧ e.tableId = T := Option.map_eq_some_iff
      rw [← htab]
      split
      · next he => exact iff_of_true Nat.one_pos he
      · next he => exact iff_of_false (Nat.lt_irrefl 0) he
  · intro T t hT
    obtain ⟨hlen, hsize⟩ := h.store.entryLength T t hT
    exact ⟨hlen.symm, h.store.entryCount T t hT, hsize⟩
  · intro R r hR
    exact (kept_of_lookup hR).symm.trans (congrFun h.store.rangeRefs R)
  · intro C c hC
    exact (kept_of_lookup hC).symm.trans (congrFun h.store.counterRefs C)
  · intro E e hE
    refine ⟨h.store.liveTable E e hE, fun R hR => ?_, fun C hC => ?_⟩
    · obtain ⟨r, hr, -⟩ := h.store.range_isSome hE hR
      exact Option.isSome_iff_exists.mpr ⟨r, hr⟩
    · obtain ⟨c, hc, -⟩ := h.store.counter_isSome hE hC
      exact Option.isSome_iff_exists.mpr ⟨c, hc⟩
  · intro M m hM
    obtain ⟨g, t, hg, ht, -⟩ := h.store.liveMember M m hM
    exact ⟨Option.isSome_iff_exists.mpr ⟨g, hg⟩, Option.isSome_iff_exists.mpr ⟨t, ht⟩⟩

/-- In every run of admitted calls both sides of every relation agree, and the status of
each admitted call says whether it did what it is for. -/
theorem aclObjects_of_run (h : Reachable AclStart AclSafe aclStep db) :
    AclRelated db ∧ ∀ op, AclSafe db op → ∃ r, aclCall db op = some r ∧ AclOutcome db r op := by
  have hinv : AclObjInv db :=
    Reachable.inv (fun _ hs => hs.inv) (fun _ _ _ hs hop hst => hs.step hop hst) h
  refine ⟨hinv.related, fun op hop => ?_⟩
  obtain ⟨r, hr, hout, -⟩ := hinv.behaves hop
  exact ⟨r, hr, hout⟩

/-! ## Two runs -/

def switchTable : List AclTableAttr := [.stage 0, .bindPointTypeList [4]]

/-- The first table, range and counter of the chip, and the first entry. -/
def firstTable : Oid := aclTableOid .plain 1
def firstRange : Oid := aclRangeOid .plain 1
def firstCounter : Oid := aclCounterOid .plain 1
def firstEntry : Oid := aclEntryOid .plain 1

/-- An entry of the first table in the first range. -/
def rangeEntry : List AclEntryAttr :=
  [.tableId firstTable, .key ⟨.aclRangeType, true, [firstRange], 0, 0⟩]

/-- An entry of the first table that the first counter counts. -/
def countedEntry : List AclEntryAttr :=
  [.tableId firstTable, .action ⟨.counter, true, firstCounter, 0⟩]

/-- A table, a range and an entry in it: the range counts the entry and stays. -/
theorem aclObjects_of_run_range : ∃ db : AclDb .plain, AclRelated db ∧
    (∃ r, db.ranges.lookup firstRange = some r ∧ r.refCnt = 1) ∧
      ∃ r, aclCall db (.removeTable firstTable) = some r ∧ r.status = .objectInUse := by
  have r₀ : Reachable AclStart AclSafe aclStep (AclDb.initial .plain) :=
    .start ⟨rfl, rfl, rfl, rfl, rfl, rfl, rfl⟩
  have r₁ := r₀.next (.createTable switchTable) (by
    intro v stage hv hs
    refine ⟨by decide, fun _ objlist hfield => ?_⟩
    cases hfield) rfl
  have r₂ := r₁.next (.createRange [.type 0, .limit 1 9]) (by
    intro type min max _ hlimit
    cases hlimit
    decide) rfl
  have r₃ := r₂.next (.createEntry rangeEntry) (by
    intro _
    exact ⟨by decide, .refl _, rfl⟩) rfl
  exact ⟨_, (aclObjects_of_run r₃).1, ⟨_, rfl, by decide⟩, ⟨_, rfl, rfl⟩⟩

/-- An entry that a counter counts is created and removed: the counter goes on counting
it, and a removal of the counter returns SUCCESS without removing it. -/
theorem counter_keeps_reference : ∃ db : AclDb .plain, Reachable AclStart anyStep aclStep db ∧
    (∃ c, db.counters.lookup firstCounter = some c ∧ c.refCnt = 1) ∧
      db.store.counterUsers firstCounter = 0 ∧
        ∃ r, aclCall db (.removeCounter firstCounter) = some r ∧ r.status = .success ∧
          (r.db.counters.lookup firstCounter).isSome := by
  have r₀ : Reachable AclStart anyStep aclStep (AclDb.initial .plain) :=
    .start ⟨rfl, rfl, rfl, rfl, rfl, rfl, rfl⟩
  have r₁ := r₀.next (.createTable switchTable) trivial rfl
  have r₂ := r₁.next (.createCounter [.tableId firstTable, .enablePacketCount true]) trivial rfl
  have r₃ := r₂.next (.createEntry countedEntry) trivial rfl
  have r₄ := r₃.next (.removeEntry firstEntry) trivial rfl
  exact ⟨_, r₄, ⟨_, rfl, by decide⟩, by decide, ⟨_, rfl, rfl, rfl⟩⟩

end CtcSai
