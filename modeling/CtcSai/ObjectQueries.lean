/-
# `ObjectQueries` — what ctc_sai.c answers about all objects of a type

`sai_get_object_count`, `sai_get_object_key`, `sai_bulk_get_attribute` and
`sai_object_type_get_availability`.  The objects of a type lie in one of three
places: the forwarding entries in the hardware, six kinds of entries in a hash
table each, and everything else in the hash table of its object ids.  What
is live is told by the calls that make and remove objects, not by the tables.
The first two queries go through the places, the last two call the getter of
the type attribute by attribute.  A status is the number it is in the header,
since one query compares it with bounds.
-/
import CtcSai.EntryKeys
import Mathlib.Data.List.Nodup

namespace CtcSai

open Function

/-! ## The places of the objects -/

/-- The types whose objects are kept in the LAG, the VLAN or the group they
belong to. -/
def ObjectType.isMember (t : ObjectType) : Bool :=
  decide (t = .lagMember ∨ t = .vlanMember ∨ t = .l2mcGroupMember ∨ t = .ipmcGroupMember ∨
    t = .rpfGroupMember)

/-- The types of which no record is made under an object id: NAT entries have
one in a table of entries, and of a SYNCE object there is only the id. -/
def ObjectType.noRecord (t : ObjectType) : Bool :=
  decide (t.isMember ∨ t = .natEntry ∨ t = .synce)

/-- `g_sai_db[lchip]`, with the keys of the objects in the order of a
traversal. -/
structure ObjectTables (K : Type) where
  /-- What the hardware lists, page after page. -/
  fdbPages : List (List K)
  /-- `entry_hash`. -/
  entries : DbEntryType → List K
  /-- `neighbor_exists` of a record; the others are there for a next hop. -/
  neighborExists : K → Bool
  /-- `oid_hash`. -/
  objects : ObjectType → List K
  /-- The ids that have been handed out and not been given back.  The record of
  a QUEUE, for one, is made when an attribute needs it, not by its create. -/
  created : ObjectType → List K
  /-- The members of LAGs, VLANs and groups. -/
  members : ObjectType → List K
  nodup_fdb : fdbPages.flatten.Nodup
  nodup_entries : ∀ t, (entries t).Nodup
  nodup_objects : ∀ t, (objects t).Nodup
  nodup_created : ∀ t, (created t).Nodup
  nodup_members : ∀ t, (members t).Nodup
  objects_nil : ∀ t, t.noRecord → objects t = []

variable {K V : Type}
variable {t : ObjectType}

/-- The objects there are. -/
def ObjectTables.live (db : ObjectTables K) (t : ObjectType) : List K :=
  match t with
  | .fdbEntry => db.fdbPages.flatten
  | .neighborEntry => (db.entries .neighbor).filter db.neighborExists
  | .routeEntry => db.entries .route
  | .l2mcEntry => db.entries .mcastL2mc
  | .ipmcEntry => db.entries .mcastIpmc
  | .mcastFdbEntry => db.entries .mcastFdb
  | .insegEntry => db.entries .mpls
  | .natEntry => db.entries .nat
  | t => if t.isMember then db.members t else db.created t

/-! ## Counting and listing -/

/-- `ctc_sai_is_object_type_valid`. -/
def isObjectTypeValid (t : ObjectType) : Bool := decide (t ≠ .null)

/-- The types that both queries look up in `entry_hash`. -/
def isHashEntry (t : ObjectType) : Bool :=
  decide (t = .neighborEntry ∨ t = .routeEntry ∨ t = .l2mcEntry ∨ t = .ipmcEntry ∨
    t = .mcastFdbEntry ∨ t = .insegEntry)

/-- `ctc_sai_db_get_db_entry_type`: `none` leaves the type as it is. -/
def getDbEntryType : ObjectType → Option DbEntryType
  | .neighborEntry => some .neighbor
  | .routeEntry => some .route
  | .l2mcEntry => some .mcastL2mc
  | .ipmcEntry => some .mcastIpmc
  | .mcastFdbEntry => some .mcastFdb
  | .insegEntry => some .mpls
  | _ => none

/-- The `db_entry_type` both queries go on with; it is 0 before. -/
def dbEntryType (t : ObjectType) : DbEntryType := (getDbEntryType t).getD .neighbor

/-- `ctc_sai_fdb_get_fdb_count`. -/
def getFdbCount (db : ObjectTables K) : Nat := db.fdbPages.flatten.length

/-- `ctc_sai_fdb_dump_fdb_entrys`: the pages, one behind the other. -/
def dumpFdbEntrys (db : ObjectTables K) (objectCount : Nat) : List K :=
  if objectCount < getFdbCount db then []
  else db.fdbPages.foldl (fun list page => list ++ page) []

/-- The part of the tables that a type is looked up in. -/
def ObjectTables.table (db : ObjectTables K) (t : ObjectType) : List K :=
  if isHashEntry t then db.entries (dbEntryType t) else db.objects t

/-- `sai_get_object_count`: the status and `*count`; `none` is a chip that is
not there. -/
def getObjectCount (db : Option (ObjectTables K)) (t : ObjectType) (count : Nat) : Status × Nat :=
  if isObjectTypeValid t then
    match db with
    | none => (.uninitialized, count)
    | some db =>
      if t = .fdbEntry then (.success, getFdbCount db) else (.success, (db.table t).length)
  else (.invalidParameter, count)

/-- `sai_get_object_key`: the status, `*object_count`, and what is written
from the start of `object_list` on. -/
def getObjectKey (db : Option (ObjectTables K)) (t : ObjectType) (objectCount : Nat) :
    Status × Nat × List K :=
  if isObjectTypeValid t then
    match db with
    | none => (.uninitialized, objectCount, [])
    | some db =>
      if t = .fdbEntry then
        if objectCount < getFdbCount db then (.bufferOverflow, objectCount, [])
        else (.success, objectCount, dumpFdbEntrys db objectCount)
      else if objectCount < (db.table t).length then (.bufferOverflow, objectCount, [])
      else (.success, objectCount, db.table t)
  else (.invalidParameter, objectCount, [])

/-! ## Attributes -/

/-- SAI_STATUS_SUCCESS, _NOT_SUPPORTED, _BUFFER_OVERFLOW, _ATTR_NOT_SUPPORTED_0
and _ATTR_NOT_SUPPORTED_MAX. -/
def saiSuccess : Int := 0
def saiNotSupported : Int := -0x2
def saiBufferOverflow : Int := -0x8
def saiAttrNotSupported0 : Int := -0x50000
def saiAttrNotSupportedMax : Int := -0x5ffff

/-- `sai_attribute_t`. -/
structure SaiAttribute (V : Type) where
  id : Nat
  value : V

/-- `_ctc_sai_get_single_attribute` of an attribute id: the status, and the
value it leaves. -/
abbrev Getter (V : Type) := Nat → Int × V

/-- Where an attribute is copied to: to a place of the buffer of an object, or
over the array of the pointers to the buffers, from the pointer of an object
on. -/
inductive AttrPlace where
  | buffer (object index : Nat)
  | pointers (object index : Nat)
deriving DecidableEq, Repr

/-- The object an attribute is copied for. -/
def AttrPlace.object : AttrPlace → Nat
  | .buffer i _ => i
  | .pointers i _ => i

/-- `*attr_cnt` and `*status` of an object, and what has been copied. -/
structure ObjectCells (V : Type) where
  attrCnt : Nat
  status : Int
  copies : List (AttrPlace × SaiAttribute V)

/-- The loop over the attribute ids of an object.  `&(attr_list[i])` is the
place of a pointer, and a status in the range of the last test is at most its
lower bound and above its upper one. -/
def bulkGetLoop (get : Getter V) (i : Nat) :
    List Nat → Nat → ObjectCells V → ObjectCells V
  | [], _, c => c
  | j :: js, actualCnt, c =>
    if c.attrCnt < actualCnt then { c with status := saiBufferOverflow }
    else
      let actualStatus := (get j).1
      if actualStatus = saiSuccess ∨ actualStatus = saiBufferOverflow then
        bulkGetLoop get i js (actualCnt + 1) { c with
          attrCnt := actualCnt + 1
          copies := c.copies ++ [(.pointers i actualCnt, ⟨j, (get j).2⟩)] }
      else if actualStatus = saiNotSupported ∨
          (saiAttrNotSupported0 ≤ actualStatus ∧ actualStatus < saiAttrNotSupportedMax) then
        bulkGetLoop get i js actualCnt c
      else { c with status := actualStatus }

/-- `attr_count`, `object_statuses` and what has been copied. -/
structure BulkGet (V : Type) where
  attrCount : Nat → Nat
  objectStatuses : Nat → Int
  copies : List (AttrPlace × SaiAttribute V)

def bulkGetObject (get : K → Getter V) (maxCount : Nat) (objectKey : Nat → K) (s : BulkGet V)
    (i : Nat) : BulkGet V :=
  let c := bulkGetLoop (get (objectKey i)) i (List.range maxCount) 0
    ⟨s.attrCount i, s.objectStatuses i, s.copies⟩
  ⟨update s.attrCount i c.attrCnt, update s.objectStatuses i c.status, c.copies⟩

/-- `sai_bulk_get_attribute`.  `chip` tells whether the chip is there, and
`maxCount` is what `sai_get_maximum_attribute_count` reports of a type, 0 when
it reports an error. -/
def bulkGetAttribute (chip : Bool) (maxCount : ObjectType → Nat) (get : ObjectType → K → Getter V)
    (t : ObjectType) (objectCount : Nat) (objectKey : Nat → K) (attrCount : Nat → Nat)
    (objectStatuses : Nat → Int) : Status × BulkGet V :=
  if isObjectTypeValid t then
    if chip then
      (.success, (List.range objectCount).foldl (bulkGetObject (get t) (maxCount t) objectKey)
        ⟨attrCount, objectStatuses, []⟩)
    else (.uninitialized, ⟨attrCount, objectStatuses, []⟩)
  else (.invalidParameter, ⟨attrCount, objectStatuses, []⟩)

/-- The loop of `sai_object_type_get_availability` over the attributes, from
the `j`th on: whether `not_match` stays 0.  The comparison is of the whole of
the value union of `attr_tmp`, which nothing clears: `rest` tells of the bytes
that a getter leaves alone whether they are those of the value asked for. -/
def availabilityLoop [DecidableEq V] (get : Getter V) (rest : Nat → Bool) :
    Nat → List (SaiAttribute V) → Bool
  | _, [] => true
  | j, attr :: attrs =>
    if (get attr.id).1 = saiSuccess then
      if (get attr.id).2 ≠ attr.value ∨ rest j = false then availabilityLoop get rest (j + 1) attrs
      else false
    else false

/-- `sai_object_type_get_availability`: the status and `*count`. -/
def objectTypeGetAvailability [DecidableEq V] (db : Option (ObjectTables K))
    (get : ObjectType → K → Getter V) (rest : K → Nat → Bool) (t : ObjectType)
    (attrList : List (SaiAttribute V)) (count : BitVec 64) : Status × BitVec 64 :=
  if isObjectTypeValid t then
    if db.isSome then
      let objectCount := (getObjectCount db t 0).2
      let keys := (getObjectKey db t objectCount).2.2
      (.success, keys.foldl (fun count key =>
        if availabilityLoop (get t key) (rest key) 0 attrList then count + 1 else count) count)
    else (.uninitialized, count)
  else (.invalidParameter, count)

/-! ## Listing against what is live -/

/-- What a query of a type goes through. -/
def ObjectTables.listed (db : ObjectTables K) (t : ObjectType) : List K :=
  if t = .fdbEntry then db.fdbPages.flatten else db.table t

/-- Both queries tell what is live, whatever the capacity. -/
def Enumerates (db : ObjectTables K) (t : ObjectType) (capacity : Nat) : Prop :=
  (∀ count, getObjectCount (some db) t count = (.success, (db.live t).length)) ∧
    if (db.live t).length ≤ capacity then
      ∃ list, getObjectKey (some db) t capacity = (.success, (db.live t).length, list) ∧
        list.Nodup ∧ ∀ key, key ∈ list ↔ key ∈ db.live t
    else getObjectKey (some db) t capacity = (.bufferOverflow, (db.live t).length, [])

/-- The types that are looked up under their object ids, and found there. -/
def ObjectType.byId (t : ObjectType) : Bool :=
  decide (t ≠ .fdbEntry ∧ isHashEntry t = false ∧ t.noRecord = false)

/-- Nothing live is missed, and nothing else is found: the types without a
record have no object, every neighbor is one of its own, and under object ids
stand the records of what has been created. -/
structure Listable (db : ObjectTables K) (t : ObjectType) : Prop where
  noRecord : t.noRecord → db.live t = []
  neighbors : t = .neighborEntry → ∀ key ∈ db.entries .neighbor, db.neighborExists key
  records : t.byId → ∀ key, key ∈ db.objects t ↔ key ∈ db.created t

theorem getObjectCount_some (db : ObjectTables K) (ht : isObjectTypeValid t) (count : Nat) :
    getObjectCount (some db) t count = (.success, (db.listed t).length) := by
  rw [getObjectCount, if_pos ht, ObjectTables.listed]
  split <;> rfl

theorem foldl_pages (pages : List (List K)) (list : List K) :
    pages.foldl (fun list page => list ++ page) list = list ++ pages.flatten := by
  induction pages generalizing list with
  | nil => simp
  | cons page pages ih => rw [List.foldl_cons, ih, List.flatten_cons, List.append_assoc]

theorem getObjectKey_some (db : ObjectTables K) (ht : isObjectTypeValid t) (capacity : Nat) :
    getObjectKey (some db) t capacity =
      if capacity < (db.listed t).length then (.bufferOverflow, capacity, [])
      else (.success, capacity, db.listed t) := by
  rw [getObjectKey, if_pos ht, ObjectTables.listed]
  split
  · next hfdb =>
    by_cases hlt : capacity < getFdbCount db
    · exact (if_pos hlt).trans (if_pos hlt).symm
    have hdump : dumpFdbEntrys db capacity = db.fdbPages.flatten := by
      rw [dumpFdbEntrys, if_neg hlt, foldl_pages, List.nil_append]
    rw [hdump]
    exact (if_neg hlt).trans (if_neg hlt).symm
  · rfl

theorem ObjectTables.nodup_live (db : ObjectTables K) (t : ObjectType) : (db.live t).Nodup := by
  unfold live
  split
  · exact db.nodup_fdb
  · exact (db.nodup_entries _).filter _
  · exact db.nodup_entries _
  · exact db.nodup_entries _
  · exact db.nodup_entries _
  · exact db.nodup_entries _
  · exact db.nodup_entries _
  · exact db.nodup_entries _
  · split
    · exact db.nodup_members _
    · exact db.nodup_created _

theorem ObjectTables.nodup_listed (db : ObjectTables K) (t : ObjectType) :
    (db.listed t).Nodup := by
  unfold listed table
  split
  · exact db.nodup_fdb
  split
  · exact db.nodup_entries _
  · exact db.nodup_objects _

theorem ObjectTables.listed_nil (db : ObjectTables K) (ht : t.noRecord) : db.listed t = [] := by
  have hnil := db.objects_nil t ht
  have hkinds : t ≠ .fdbEntry ∧ isHashEntry t = false := by
    rcases of_decide_eq_true ht with hmember | rfl | rfl
    · rcases of_decide_eq_true hmember with rfl | rfl | rfl | rfl | rfl <;> decide
    · decide
    · decide
  rw [listed, if_neg hkinds.1, table, hkinds.2, if_neg Bool.false_ne_true, hnil]

theorem ObjectTables.listed_byId (db : ObjectTables K) (ht : t.byId) :
    db.listed t = db.objects t ∧ db.live t = db.created t := by
  obtain ⟨hfdb, hhash, hno⟩ := of_decide_eq_true ht
  refine ⟨by rw [listed, if_neg hfdb, table, hhash, if_neg Bool.false_ne_true], ?_⟩
  have hkinds := of_decide_eq_false hhash
  have hnone := of_decide_eq_false hno
  unfold live
  split
  · exact absurd rfl hfdb
  · exact absurd (.inl rfl) hkinds
  · exact absurd (.inr (.inl rfl)) hkinds
  · exact absurd (.inr (.inr (.inl rfl))) hkinds
  · exact absurd (.inr (.inr (.inr (.inl rfl)))) hkinds
  · exact absurd (.inr (.inr (.inr (.inr (.inl rfl))))) hkinds
  · exact absurd (.inr (.inr (.inr (.inr (.inr rfl))))) hkinds
  · exact absurd (.inr (.inl rfl)) hnone
  · rw [if_neg fun hmember => hnone (.inl hmember)]

/-- Forwarding entries are looked up where they are. -/
theorem ObjectTables.listed_entry (db : ObjectTables K) (ht : t = .fdbEntry ∨ isHashEntry t)
    (hne : t ≠ .neighborEntry) : db.listed t = db.live t := by
  rcases ht with rfl | ht
  · rfl
  · rcases of_decide_eq_true ht with rfl | rfl | rfl | rfl | rfl | rfl
    · exact absurd rfl hne
    · rfl
    · rfl
    · rfl
    · rfl
    · rfl

theorem ObjectTables.listed_iff (db : ObjectTables K) (t : ObjectType) :
    (∀ key, key ∈ db.listed t ↔ key ∈ db.live t) ↔ Listable db t := by
  by_cases hno : t.noRecord = true
  · have hid : t.byId = false := by simp [ObjectType.byId, hno]
    have hn : t ≠ .neighborEntry := by
      rintro rfl
      exact absurd hno (by decide)
    rw [db.listed_nil hno]
    constructor
    · intro h
      refine ⟨fun _ => ?_, fun h => absurd h hn, fun h => nomatch hid.symm.trans h⟩
      exact List.eq_nil_iff_forall_not_mem.mpr fun key hkey => nomatch (h key).mpr hkey
    · intro h key
      rw [h.noRecord hno]
  by_cases hid : t.byId = true
  · obtain ⟨hlisted, hlive⟩ := db.listed_byId hid
    have hn : t ≠ .neighborEntry := by
      rintro rfl
      exact absurd hid (by decide)
    rw [hlisted, hlive]
    exact ⟨fun h => ⟨fun h => absurd h hno, fun h => absurd h hn, fun _ => h⟩, fun h => h.records hid⟩
  by_cases hn : t = .neighborEntry
  · subst hn
    have heq : db.listed .neighborEntry = db.entries .neighbor := rfl
    have hlive : db.live .neighborEntry = (db.entries .neighbor).filter db.neighborExists := rfl
    simp only [heq, hlive, List.mem_filter, iff_self_and]
    exact ⟨fun h => ⟨fun h => absurd h hno, fun _ => h, fun h => absurd h hid⟩,
      fun h => h.neighbors rfl⟩
  · have hentry : t = .fdbEntry ∨ isHashEntry t := by
      by_contra h
      obtain ⟨hfdb, hhash⟩ := not_or.mp h
      exact hid (decide_eq_true ⟨hfdb, Bool.eq_false_iff.mpr hhash, Bool.eq_false_iff.mpr hno⟩)
    rw [db.listed_entry hentry hn]
    exact iff_of_true (fun _ => Iff.rfl) ⟨fun h => absurd h hno, fun h => absurd h hn,
      fun h => absurd h hid⟩

theorem ObjectTables.length_listed (db : ObjectTables K)
    (h : ∀ key, key ∈ db.listed t ↔ key ∈ db.live t) :
    (db.listed t).length = (db.live t).length :=
  ((List.perm_ext_iff_of_nodup (db.nodup_listed t) (db.nodup_live t)).mpr h).length_eq

def twoNextHops : ObjectTables Nat where
  fdbPages := []
  entries _ := []
  neighborExists _ := true
  objects t := if t = .nextHop then [1, 2] else []
  created t := if t = .nextHop then [1, 2] else []
  members _ := []
  nodup_fdb := List.nodup_nil
  nodup_entries _ := List.nodup_nil
  nodup_objects t := by split <;> decide
  nodup_created t := by split <;> decide
  nodup_members _ := List.nodup_nil
  objects_nil t ht := by
    rw [if_neg]
    rintro rfl
    exact absurd ht (by decide)

/-- The database after objects have gone: those of `p` are left. -/
def ObjectTables.part (db : ObjectTables K) (p : K → Bool) : ObjectTables K where
  fdbPages := db.fdbPages.map (List.filter p)
  entries t := (db.entries t).filter p
  neighborExists := db.neighborExists
  objects t := (db.objects t).filter p
  created t := (db.created t).filter p
  members t := (db.members t).filter p
  nodup_fdb := by
    rw [← List.filter_flatten]
    exact db.nodup_fdb.filter p
  nodup_entries t := (db.nodup_entries t).filter p
  nodup_objects t := (db.nodup_objects t).filter p
  nodup_created t := (db.nodup_created t).filter p
  nodup_members t := (db.nodup_members t).filter p
  objects_nil t ht := by rw [db.objects_nil t ht, List.filter_nil]

theorem ObjectTables.listed_part (db : ObjectTables K) (p : K → Bool) (t : ObjectType) :
    (db.part p).listed t = (db.listed t).filter p := by
  unfold listed table
  split
  · exact List.filter_flatten.symm
  · split <;> rfl

theorem ObjectTables.live_part (db : ObjectTables K) (p : K → Bool) (t : ObjectType) :
    (db.part p).live t = (db.live t).filter p := by
  unfold live
  split <;> try rfl
  · exact List.filter_flatten.symm
  · exact List.filter_comm ..
  · split <;> rfl

/-- The getter of an object succeeds with the value of every attribute. -/
def Matches (get : Getter V) (attrList : List (SaiAttribute V)) : Prop :=
  ∀ attr ∈ attrList, get attr.id = (saiSuccess, attr.value)

/-- The getter succeeds for every attribute, and leaves something else than
the value each time: another value, or other bytes behind it. -/
def Differs (get : Getter V) (rest : Nat → Bool) (attrList : List (SaiAttribute V)) : Prop :=
  ∀ p ∈ attrList.zipIdx, (get p.1.id).1 = saiSuccess ∧
    ((get p.1.id).2 ≠ p.1.value ∨ rest p.2 = false)

instance [DecidableEq V] (get : Getter V) (attrList : List (SaiAttribute V)) :
    Decidable (Matches get attrList) :=
  inferInstanceAs (Decidable (∀ attr ∈ attrList, _))

instance [DecidableEq V] (get : Getter V) (rest : Nat → Bool) (attrList : List (SaiAttribute V)) :
    Decidable (Differs get rest attrList) :=
  inferInstanceAs (Decidable (∀ p ∈ attrList.zipIdx, _))

section Availability

variable [DecidableEq V]

theorem availabilityLoop_iff (get : Getter V) (rest : Nat → Bool) (j : Nat)
    (attrs : List (SaiAttribute V)) :
    availabilityLoop get rest j attrs ↔ ∀ p ∈ attrs.zipIdx j, (get p.1.id).1 = saiSuccess ∧
      ((get p.1.id).2 ≠ p.1.value ∨ rest p.2 = false) := by
  induction attrs generalizing j with
  | nil => simp [availabilityLoop]
  | cons attr attrs ih =>
    rw [List.zipIdx_cons, List.forall_mem_cons, ← ih (j + 1), availabilityLoop]
    split
    · next hget =>
      split
      · next hdiff => simp [hget, hdiff]
      · next hsame => simp [hsame]
    · next hget => simp [hget]

theorem foldl_count {p : K → Bool} (keys : List K) (count : BitVec 64) :
    keys.foldl (fun count key => if p key then count + 1 else count) count =
      count + BitVec.ofNat 64 (keys.countP p) := by
  induction keys generalizing count with
  | nil => simp
  | cons key keys ih =>
    rw [List.foldl_cons, ih, List.countP_cons]
    split
    · rw [BitVec.ofNat_add, BitVec.add_assoc]
      congr 1
      exact BitVec.add_comm ..
    · simp

/-- What is returned is what `*count` held, and one for each object that is
looked at and differs in every attribute. -/
theorem objectTypeGetAvailability_eq (db : ObjectTables K) (get : ObjectType → K → Getter V)
    (rest : K → Nat → Bool) {t : ObjectType} (ht : isObjectTypeValid t)
    (attrList : List (SaiAttribute V)) (count : BitVec 64) :
    objectTypeGetAvailability (some db) get rest t attrList count = (.success, count +
      BitVec.ofNat 64 ((db.listed t).countP fun key =>
        decide (Differs (get t key) (rest key) attrList))) := by
  have hkeys : (getObjectKey (some db) t (getObjectCount (some db) t 0).2).2.2 = db.listed t := by
    rw [getObjectCount_some db ht, getObjectKey_some db ht, if_neg (Nat.lt_irrefl _)]
  have hloop : ∀ key, availabilityLoop (get t key) (rest key) 0 attrList =
      decide (Differs (get t key) (rest key) attrList) := by
    intro key
    rw [Bool.eq_iff_iff, availabilityLoop_iff, decide_eq_true_iff]
    rfl
  rw [objectTypeGetAvailability, if_pos ht]
  simp only [Option.isSome_some, if_true, hkeys, hloop, foldl_count]

/-- The call returns the number of live objects that match. -/
def CountsMatches (db : ObjectTables K) (get : ObjectType → K → Getter V)
    (rest : K → Nat → Bool) (t : ObjectType) (attrList : List (SaiAttribute V))
    (count : BitVec 64) : Prop :=
  objectTypeGetAvailability (some db) get rest t attrList count =
    (.success, BitVec.ofNat 64 ((db.live t).countP fun key => decide (Matches (get t key) attrList)))

/-- `*count` is 0 on entry, and the objects that are looked at and differ in
every attribute are just the live ones that match. -/
structure Countable (db : ObjectTables K) (get : ObjectType → K → Getter V)
    (rest : K → Nat → Bool) (t : ObjectType) (attrList : List (SaiAttribute V))
    (count : BitVec 64) : Prop where
  entry : count = 0
  objects : ∀ key, key ∈ db.listed t ∧ Differs (get t key) (rest key) attrList ↔
    key ∈ db.live t ∧ Matches (get t key) attrList

variable {db : ObjectTables K} {get : ObjectType → K → Getter V} {rest : K → Nat → Bool}
variable {attrList : List (SaiAttribute V)} {count : BitVec 64}

theorem countsMatches_iff (ht : isObjectTypeValid t) : CountsMatches db get rest t attrList count ↔
    count + BitVec.ofNat 64 ((db.listed t).countP fun key =>
        decide (Differs (get t key) (rest key) attrList)) =
      BitVec.ofNat 64 ((db.live t).countP fun key => decide (Matches (get t key) attrList)) := by
  rw [CountsMatches, objectTypeGetAvailability_eq db get rest ht]
  exact ⟨congrArg Prod.snd, congrArg (Prod.mk Status.success)⟩

theorem Countable.countsMatches (h : Countable db get rest t attrList count)
    (ht : isObjectTypeValid t) : CountsMatches db get rest t attrList count := by
  have hperm := (List.perm_ext_iff_of_nodup
    ((db.nodup_listed t).filter fun key => decide (Differs (get t key) (rest key) attrList))
    ((db.nodup_live t).filter fun key => decide (Matches (get t key) attrList))).mpr fun key => by
      simpa [List.mem_filter] using h.objects key
  rw [countsMatches_iff ht, h.entry, List.countP_eq_length_filter, List.countP_eq_length_filter,
    hperm.length_eq]
  exact BitVec.zero_add _

omit [DecidableEq V] in
theorem Countable.part (h : Countable db get rest t attrList count) (p : K → Bool) :
    Countable (db.part p) get rest t attrList count := by
  refine ⟨h.entry, fun key => ?_⟩
  rw [db.listed_part, db.live_part, List.mem_filter, List.mem_filter, and_right_comm, h.objects key,
    and_right_comm]

theorem countP_alone [DecidableEq K] {keys : List K} (hkeys : keys.Nodup) (key : K) (q : K → Bool) :
    (keys.filter fun k => k = key).countP q = if key ∈ keys ∧ q key then 1 else 0 := by
  rw [List.filter_eq, List.countP_replicate, hkeys.count]
  by_cases hq : q key <;> simp [hq]

end Availability

/-- A getter that knows the value of the first next hop only. -/
def firstIsFive (_ : ObjectType) (key _ : Nat) : Int × Nat :=
  if key = 1 then (saiSuccess, 5) else (saiNotSupported, 0)

/-- A getter has filled the attribute; of a list it has filled the count. -/
def Filled (status : Int) : Prop := status = saiSuccess ∨ status = saiBufferOverflow

/-- The attribute is not supported: one of a range of negative numbers. -/
def Unsupported (status : Int) : Prop :=
  status = saiNotSupported ∨ (saiAttrNotSupportedMax ≤ status ∧ status ≤ saiAttrNotSupported0)

instance (status : Int) : Decidable (Filled status) := inferInstanceAs (Decidable (_ ∨ _))

instance (status : Int) : Decidable (Unsupported status) := inferInstanceAs (Decidable (_ ∨ _))

/-- The attributes an object has, in the order of their ids, up to the first
getter that fails. -/
def gotten (get : Getter V) : List Nat → List (SaiAttribute V)
  | [] => []
  | j :: js =>
    if Filled (get j).1 then ⟨j, (get j).2⟩ :: gotten get js
    else if Unsupported (get j).1 then gotten get js
    else []

/-- The status of the first getter that fails. -/
def hardStatus (get : Getter V) : List Nat → Int
  | [] => saiSuccess
  | j :: js =>
    if Filled (get j).1 ∨ Unsupported (get j).1 then hardStatus get js else (get j).1

/-- Attributes in the places of an object's buffer, from the first one on. -/
def inBuffer (i : Nat) (attrs : List (SaiAttribute V)) : List (AttrPlace × SaiAttribute V) :=
  attrs.zipIdx.map fun p => (.buffer i p.2, p.1)

/-- What an object is owed: its attributes in its buffer, their number and the
status, or a part of them that fits and the status of an overflow.  `copies`
are those made for the object. -/
def Answered (get : Getter V) (i : Nat) (ids : List Nat) (attrCnt : Nat)
    (c : ObjectCells V) : Prop :=
  if attrCnt < (gotten get ids).length then
    c.status = saiBufferOverflow ∧
      ∃ k, k ≤ attrCnt ∧ c.copies = inBuffer i ((gotten get ids).take k)
  else c.copies = inBuffer i (gotten get ids) ∧ c.attrCnt = (gotten get ids).length ∧
    c.status = hardStatus get ids

def BulkGet.cells (s : BulkGet V) (i : Nat) : ObjectCells V :=
  ⟨s.attrCount i, s.objectStatuses i, s.copies.filter fun copy => copy.1.object = i⟩

/-- Every object is answered, and nothing is done to any other. -/
def BulkAnswered (get : K → Getter V) (maxCount objectCount : Nat) (objectKey : Nat → K)
    (attrCount : Nat → Nat) (objectStatuses : Nat → Int) (s : BulkGet V) : Prop :=
  (∀ i < objectCount,
      Answered (get (objectKey i)) i (List.range maxCount) (attrCount i) (s.cells i)) ∧
    ∀ i, objectCount ≤ i → s.cells i = ⟨attrCount i, objectStatuses i, []⟩

/-- Every getter reports NOT_SUPPORTED up to the first that fails, or up to
the end, where the caller's status is the one to be returned. -/
def Silent (get : Getter V) (status : Int) : List Nat → Prop
  | [] => status = saiSuccess
  | j :: js => ((get j).1 = saiNotSupported ∧ Silent get status js) ∨
    ¬ (Filled (get j).1 ∨ Unsupported (get j).1)

section Bulk

variable {get : Getter V} {i : Nat}
variable {j : Nat} {c : ObjectCells V}

/-- A status that is returned for a failure is no status of an attribute that
is not supported. -/
theorem hardStatus_supported (get : Getter V) (ids : List Nat) :
    ¬ Unsupported (hardStatus get ids) := by
  induction ids with
  | nil =>
    rw [hardStatus]
    decide
  | cons j js ih =>
    rw [hardStatus]
    split
    · exact ih
    · next hhard => exact fun h => hhard (.inr h)

theorem bulkGetLoop_append (js : List Nat) (actualCnt attrCnt : Nat) (status : Int)
    (pre copies : List (AttrPlace × SaiAttribute V)) :
    bulkGetLoop get i js actualCnt ⟨attrCnt, status, pre ++ copies⟩ =
      { bulkGetLoop get i js actualCnt ⟨attrCnt, status, copies⟩ with
        copies := pre ++ (bulkGetLoop get i js actualCnt ⟨attrCnt, status, copies⟩).copies } := by
  induction js generalizing actualCnt attrCnt copies with
  | nil => rfl
  | cons j js ih =>
    simp only [bulkGetLoop, List.append_assoc]
    split
    · rfl
    split
    · exact ih _ _ _
    · split
      · exact ih _ _ _
      · rfl

theorem bulkGetLoop_pointers (js : List Nat) (actualCnt : Nat) (c : ObjectCells V)
    (hc : ∀ copy ∈ c.copies, ∃ k, copy.1 = .pointers i k) :
    ∀ copy ∈ (bulkGetLoop get i js actualCnt c).copies, ∃ k, copy.1 = .pointers i k := by
  induction js generalizing actualCnt c with
  | nil => exact hc
  | cons j js ih =>
    rw [bulkGetLoop]
    dsimp only
    split
    · exact hc
    split
    · refine ih _ _ fun copy hcopy => ?_
      rcases List.mem_append.mp hcopy with hold | hnew
      · exact hc copy hold
      · exact ⟨actualCnt, by rw [List.mem_singleton.mp hnew]⟩
    · split
      · exact ih _ _ hc
      · exact hc

theorem eq_nil_of_inBuffer {copies : List (AttrPlace × SaiAttribute V)}
    (hc : ∀ copy ∈ copies, ∃ k, copy.1 = .pointers i k) {attrs : List (SaiAttribute V)}
    (h : copies = inBuffer i attrs) : copies = [] ∧ attrs = [] := by
  cases attrs with
  | nil => exact ⟨h, rfl⟩
  | cons attr attrs =>
    have hmem : ((.buffer i 0, attr) : AttrPlace × SaiAttribute V) ∈ copies := by
      rw [h, inBuffer]
      exact List.mem_cons_self ..
    obtain ⟨k, hk⟩ := hc _ hmem
    cases hk

theorem bulkGetLoop_failed (hfill : ¬ Filled (get j).1) (hns : (get j).1 ≠ saiNotSupported)
    (js : List Nat) {actualCnt : Nat} (hroom : ¬ c.attrCnt < actualCnt) :
    bulkGetLoop get i (j :: js) actualCnt c = { c with status := (get j).1 } := by
  have hrange : ¬ ((get j).1 = saiNotSupported ∨
      (saiAttrNotSupported0 ≤ (get j).1 ∧ (get j).1 < saiAttrNotSupportedMax)) := by
    rintro (h | ⟨h, h'⟩)
    · exact hns h
    · simp only [saiAttrNotSupported0, saiAttrNotSupportedMax] at h h'
      omega
  have hfill' : ¬ ((get j).1 = saiSuccess ∨ (get j).1 = saiBufferOverflow) := hfill
  rw [bulkGetLoop, if_neg hroom]
  rw [if_neg hfill', if_neg hrange]

theorem bulkGetLoop_skipped (hns : (get j).1 = saiNotSupported) (js : List Nat) {actualCnt : Nat}
    (hroom : ¬ c.attrCnt < actualCnt) :
    bulkGetLoop get i (j :: js) actualCnt c = bulkGetLoop get i js actualCnt c := by
  have hfill : ¬ (saiNotSupported = saiSuccess ∨ saiNotSupported = saiBufferOverflow) := by decide
  rw [bulkGetLoop, if_neg hroom]
  rw [hns, if_neg hfill, if_pos (.inl rfl)]

theorem bulkGetLoop_filled {j : Nat} (hfill : Filled (get j).1) (js : List Nat) (attrCnt : Nat)
    (status : Int) : (bulkGetLoop get i (j :: js) 0 ⟨attrCnt, status, []⟩).copies ≠ [] := by
  have hfill' : (get j).1 = saiSuccess ∨ (get j).1 = saiBufferOverflow := hfill
  have hcopy := @bulkGetLoop_append V get i js 1 1 status [(.pointers i 0, ⟨j, (get j).2⟩)] []
  rw [List.append_nil] at hcopy
  rw [bulkGetLoop]
  rw [if_pos hfill', List.nil_append, hcopy]
  exact List.cons_ne_nil _ _

theorem not_answered {ids : List Nat} {attrCnt : Nat}
    (hc : ∀ copy ∈ c.copies, ∃ k, copy.1 = .pointers i k) (hstatus : c.status ≠ saiBufferOverflow ∨
      c.copies ≠ []) (hne : gotten get ids ≠ []) : ¬ Answered get i ids attrCnt c := by
  rw [Answered]
  split
  · rintro ⟨hbo, k, -, hk⟩
    obtain ⟨hnil, -⟩ := eq_nil_of_inBuffer hc hk
    rcases hstatus with h | h
    · exact h hbo
    · exact h hnil
  · rintro ⟨hcopies, -⟩
    exact hne (eq_nil_of_inBuffer hc hcopies).2

theorem answered_nil {ids : List Nat} (hnil : gotten get ids = []) {attrCnt : Nat} :
    Answered get i ids attrCnt c ↔
      c.copies = [] ∧ c.attrCnt = 0 ∧ c.status = hardStatus get ids := by
  rw [Answered, hnil]
  rfl

/-- An object is answered exactly when its capacity is 0 and its getters are
silent. -/
theorem answered_iff (ids : List Nat) (attrCnt : Nat) (status : Int) :
    Answered get i ids attrCnt (bulkGetLoop get i ids 0 ⟨attrCnt, status, []⟩) ↔
      attrCnt = 0 ∧ Silent get status ids := by
  have hroom : ¬ attrCnt < 0 := Nat.not_lt_zero _
  induction ids with
  | nil => simp [Answered, bulkGetLoop, gotten, hardStatus, inBuffer, Silent]
  | cons j js ih =>
    have hpointers := @bulkGetLoop_pointers V get i (j :: js) 0
      ⟨attrCnt, status, []⟩ (fun _ h => nomatch h)
    by_cases hfill : Filled (get j).1
    · -- the attribute is copied to the wrong place
      have hne : gotten get (j :: js) ≠ [] := by
        rw [gotten, if_pos hfill]
        exact List.cons_ne_nil _ _
      refine iff_of_false (not_answered hpointers
        (.inr (bulkGetLoop_filled hfill js attrCnt status)) hne) ?_
      rintro ⟨-, ⟨hns, -⟩ | hhard⟩
      · rw [hns] at hfill
        exact absurd hfill (by decide)
      · exact hhard (.inl hfill)
    by_cases hns : (get j).1 = saiNotSupported
    · have hun : Unsupported (get j).1 := .inl hns
      have hgot : gotten get (j :: js) = gotten get js := by
        rw [gotten, if_neg hfill, if_pos hun]
      have hhard : hardStatus get (j :: js) = hardStatus get js := by
        rw [hardStatus, if_pos (.inr hun)]
      have hsilent : Silent get status (j :: js) ↔ Silent get status js := by
        rw [Silent, and_iff_right hns, or_iff_left (not_not.mpr (.inr hun))]
      have hsame : ∀ c : ObjectCells V, Answered get i (j :: js) attrCnt c ↔
          Answered get i js attrCnt c := by
        intro c
        rw [Answered, Answered, hgot, hhard]
      rw [bulkGetLoop_skipped hns js hroom, hsilent, hsame]
      exact ih
    · rw [bulkGetLoop_failed hfill hns js hroom] at hpointers ⊢
      by_cases hun : Unsupported (get j).1
      · -- a status that should be passed over is taken for a failure
        have hsilent : ¬ Silent get status (j :: js) := by
          rintro (⟨h, -⟩ | h)
          · exact hns h
          · exact h (.inr hun)
        refine iff_of_false ?_ fun h => hsilent h.2
        by_cases hne : gotten get (j :: js) = []
        · rw [answered_nil hne]
          rintro ⟨-, -, hstatus⟩
          have hstatus' : (get j).1 = hardStatus get (j :: js) := hstatus
          exact hardStatus_supported get (j :: js) (hstatus' ▸ hun)
        · exact not_answered hpointers (.inl fun h => hfill (.inr h)) hne
      have hgot : gotten get (j :: js) = [] := by
        rw [gotten, if_neg hfill, if_neg hun]
      rw [answered_nil hgot, hardStatus]
      simp [Silent, hfill, hun]

end Bulk

/-- What the loop over the attributes of an object leaves of its cells. -/
def bulkGetCells (get : K → Getter V) (maxCount : Nat) (objectKey : Nat → K) (s : BulkGet V)
    (i : Nat) : ObjectCells V :=
  bulkGetLoop (get (objectKey i)) i (List.range maxCount) 0
    ⟨s.attrCount i, s.objectStatuses i, []⟩

/-- An object that is got has its own cells only. -/
theorem cells_bulkGetObject (get : K → Getter V) (maxCount : Nat) (objectKey : Nat → K)
    (s : BulkGet V) (i k : Nat) :
    (bulkGetObject get maxCount objectKey s i).cells k =
      if k = i then { bulkGetCells get maxCount objectKey s i with
        copies := (s.cells i).copies ++ (bulkGetCells get maxCount objectKey s i).copies }
      else s.cells k := by
  have happ := @bulkGetLoop_append V (get (objectKey i)) i (List.range maxCount) 0
    (s.attrCount i) (s.objectStatuses i) s.copies []
  rw [List.append_nil] at happ
  have hown : ∀ copy ∈ (bulkGetCells get maxCount objectKey s i).copies, copy.1.object = i := by
    intro copy hcopy
    obtain ⟨n, hn⟩ := bulkGetLoop_pointers (List.range maxCount) 0
      ⟨s.attrCount i, s.objectStatuses i, []⟩ (fun _ h => nomatch h) copy hcopy
    rw [hn]
    rfl
  simp only [bulkGetObject, happ, BulkGet.cells, List.filter_append]
  by_cases hk : k = i
  · subst hk
    rw [if_pos rfl, update_self, update_self]
    congr 2
    exact List.filter_eq_self.mpr fun copy hcopy => decide_eq_true (hown copy hcopy)
  have hnone : (bulkGetCells get maxCount objectKey s i).copies.filter
      (fun copy => decide (copy.1.object = k)) = [] := by
    rw [List.filter_eq_nil_iff]
    intro copy hcopy hobj
    exact hk ((of_decide_eq_true hobj).symm.trans (hown copy hcopy))
  rw [if_neg hk, update_of_ne hk, update_of_ne hk]
  rw [← bulkGetCells, hnone, List.append_nil]

/-- The loop over the objects gets each of them from the cells it came with. -/
theorem cells_foldl (get : K → Getter V) (maxCount : Nat) (objectKey : Nat → K)
    (attrCount : Nat → Nat) (objectStatuses : Nat → Int) (n k : Nat) :
    ((List.range n).foldl (bulkGetObject get maxCount objectKey)
        ⟨attrCount, objectStatuses, []⟩).cells k =
      if k < n then bulkGetCells get maxCount objectKey ⟨attrCount, objectStatuses, []⟩ k
      else ⟨attrCount k, objectStatuses k, []⟩ := by
  induction n generalizing k with
  | zero => rfl
  | succ n ih =>
    rw [List.range_succ, List.foldl_append, List.foldl_cons, List.foldl_nil, cells_bulkGetObject]
    have hn := ih n
    rw [if_neg (Nat.lt_irrefl n)] at hn
    by_cases hk : k = n
    · subst hk
      rw [if_pos rfl, if_pos (Nat.lt_succ_self k), hn, List.nil_append]
      have hcount := congrArg ObjectCells.attrCnt hn
      have hstatus := congrArg ObjectCells.status hn
      simp only [BulkGet.cells] at hcount hstatus
      simp only [bulkGetCells, hcount, hstatus]
    · rw [if_neg hk, ih k]
      have hiff : k < n ↔ k < n + 1 := by omega
      simp only [hiff]

/-- A bulk get answers every object exactly when none of them has any room,
and the getters of each report NOT_SUPPORTED up to the first that fails. -/
theorem bulkAnswered_iff (maxCount : ObjectType → Nat) (get : ObjectType → K → Getter V)
    {t : ObjectType} (ht : isObjectTypeValid t) (objectCount : Nat) (objectKey : Nat → K)
    (attrCount : Nat → Nat) (objectStatuses : Nat → Int) :
    (∃ s, bulkGetAttribute true maxCount get t objectCount objectKey attrCount objectStatuses =
        (.success, s) ∧ BulkAnswered (get t) (maxCount t) objectCount objectKey attrCount
          objectStatuses s) ↔
      ∀ i < objectCount, attrCount i = 0 ∧
        Silent (get t (objectKey i)) (objectStatuses i) (List.range (maxCount t)) := by
  have hcall : bulkGetAttribute true maxCount get t objectCount objectKey attrCount
      objectStatuses = (.success, (List.range objectCount).foldl
        (bulkGetObject (get t) (maxCount t) objectKey) ⟨attrCount, objectStatuses, []⟩) := by
    rw [bulkGetAttribute, if_pos ht, if_pos rfl]
  have hcells := cells_foldl (get t) (maxCount t) objectKey attrCount objectStatuses objectCount
  constructor
  · rintro ⟨s, hs, hanswered, -⟩ i hi
    rw [hcall] at hs
    cases hs
    have hi' := hanswered i hi
    rw [hcells i, if_pos hi] at hi'
    exact (answered_iff _ _ _).mp hi'
  · intro hsilent
    refine ⟨_, hcall, fun i hi => ?_, fun i hi => ?_⟩
    · rw [hcells i, if_pos hi]
      exact (answered_iff _ _ _).mpr (hsilent i hi)
    · rw [hcells i, if_neg (Nat.not_lt_of_le hi)]

/-- A getter of three attributes, of which the first two are not supported. -/
def thirdFails (_ : ObjectType) (_ j : Nat) : Int × Nat :=
  if j < 2 then (saiNotSupported, 0) else (-0x7, 0)

theorem bulkAnswered_silent : ∃ s, bulkGetAttribute true (fun _ => 3) thirdFails .nextHop 1
      (fun _ => 1) (fun _ => 0) (fun _ => 0) = (.success, s) ∧
    BulkAnswered (thirdFails .nextHop) 3 1 (fun _ => 1) (fun _ => 0) (fun _ => 0) s :=
  (bulkAnswered_iff (fun _ => 3) thirdFails (by decide) 1 (fun _ => 1) (fun _ => 0)
    (fun _ => 0)).mpr fun _ _ =>
      ⟨rfl, .inl ⟨rfl, .inl ⟨rfl, .inr (by decide)⟩⟩⟩

/-- One attribute that fits its buffer is copied over the pointer to it. -/
theorem bulkAnswered_not_always : ¬ ∀ (maxCount : ObjectType → Nat)
    (get : ObjectType → Nat → Getter Nat) (t : ObjectType), isObjectTypeValid t →
    ∀ (objectCount : Nat) (objectKey : Nat → Nat) (attrCount : Nat → Nat)
      (objectStatuses : Nat → Int),
    ∃ s, bulkGetAttribute true maxCount get t objectCount objectKey attrCount objectStatuses =
        (.success, s) ∧ BulkAnswered (get t) (maxCount t) objectCount objectKey attrCount
          objectStatuses s := by
  intro h
  obtain ⟨s, hs, hanswered, -⟩ := h (fun _ => 1) (fun _ _ _ => (saiSuccess, 5)) .nextHop
    (by decide) 1 (fun _ => 1) (fun _ => 1) (fun _ => 0)
  cases hs
  have hone := hanswered 0 (by decide)
  rw [Answered, if_neg (by decide)] at hone
  have hhead := congrArg (fun copies => copies.map Prod.fst) hone.1
  exact absurd hhead (by decide)

end CtcSai
