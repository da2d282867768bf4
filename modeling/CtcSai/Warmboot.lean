/-
# `Warmboot` — ctc_sai_warmboot.c and ctc_sai_warmboot_func.c

A synchronisation writes the object database of a chip, sub-type after
sub-type, through a buffer to one redis list for each sub-type; a reload pages
through the lists and inserts what it reads.  The redis client, the macros of
the query loop and the length of the buffer belong to the SDK: LPUSH puts a
value in front of a list, LRANGE reads a range of it, and the loop queries
until the end is reported.  Memory is there, and redis does not fail.
-/
import CtcSai.Lib.Buffer
import CtcSai.Saitypes
import Mathlib.Algebra.GroupWithZero.Nat

namespace CtcSai

open Buffer

/-! ## The database -/

/-- `g_sai_db` has CTC_SAI_MAX_CHIP_NUM places. -/
abbrev WbChip := Fin 32

instance chipsNeZero : NeZero 32 := ⟨by decide⟩

/-- The bytes of a value. -/
abbrev Blob := List (BitVec 8)

/-- CTC_SAI_WB_TYPE_OID, _ENTRY and _VECTOR. -/
inductive WbType where
  | oid | entry | vector
deriving DecidableEq, Repr

/-- A type and a sub-type. -/
structure WbKey where
  type : WbType
  subType : Nat
deriving DecidableEq, Repr

/-- The loops of a synchronisation and of a reload: SAI_OBJECT_TYPE_MAX,
CTC_SAI_DB_ENTRY_TYPE_MAX and CTC_SAI_DB_VECTOR_TYPE_MAX sub-types. -/
def wbKeys : List WbKey :=
  (List.range 95).map (⟨.oid, ·⟩) ++ (List.range 9).map (⟨.entry, ·⟩) ++
    (List.range 1).map (⟨.vector, ·⟩)

/-- `ctc_sai_db_wb_t`: what is read of it here. -/
structure WbInfo where
  dataLen : Nat
  version : BitVec 32
  /-- `wb_sync_cb` is not NULL. -/
  wbSyncCb : Bool
  /-- What `wb_reload_cb`, with `wb_reload_cb1` behind it, leaves in the data of
  an object, from its key and the bytes reloaded; without them, these. -/
  wbReloadCb : Blob → Blob → Blob

/-- `ctc_sai_oid_property_t` and its two siblings: the bytes before
`calc_key_len`, and what `data` points to. -/
structure WbObject where
  key : Blob
  data : Option Blob
deriving DecidableEq, Repr

/-- `ctc_sai_db_t`: the registrations, and the hash tables and vectors in the
order they are traversed in. -/
structure WbDb where
  info : WbKey → WbInfo
  objects : WbKey → List WbObject

/-- `g_sai_db`. -/
abbrev SaiDb := WbChip → Option WbDb

/-- What the SDK's headers and the layout of the structures decide. -/
structure WbParams where
  /-- CTC_WB_DATA_BUFFER_LENGTH. -/
  bufferLength : Nat
  /-- CTC_OFFSET_OF of `calc_key_len`. -/
  keyLen : WbType → Nat
  /-- CTC_WB_VERSION_CHECK: whether two versions do not go together. -/
  versionCheck : BitVec 32 → BitVec 32 → Bool
  /-- The key of the switch object of a chip. -/
  switchKey : WbChip → Blob
  keyLen_pos : ∀ t, 0 < keyLen t
  versionCheck_self : ∀ v, versionCheck v v = false

/-- A call of a `wb_sync_cb`: its argument `lchip`, the sub-type whose
callback it is, and the object. -/
structure WbCall where
  lchip : WbChip
  key : WbKey
  object : WbObject
deriving DecidableEq, Repr

/-! ## Redis -/

/-- `app_id`: each part has a byte of its own. -/
inductive AppId where
  | objects (lchip : WbChip) (key : WbKey)
  | version (lchip : WbChip)
deriving DecidableEq, Repr

/-- The lists of redis. -/
abbrev Redis := AppId → List Blob

/-- `ctc_redis_client_lpush_binary`. -/
def lpush (r : Redis) (app : AppId) (value : Blob) : Redis :=
  Function.update r app (value :: r app)

/-- `ctc_redis_client_lrange_binary`: a negative index counts from the end. -/
def lrange (l : List Blob) (start stop : Int) : List Blob :=
  let first := if start < 0 then start + l.length else start
  let last := if stop < 0 then stop + l.length else stop
  (l.drop first.toNat).take (last + 1 - max first 0).toNat

/-- SAI_WB_DB_SIZE_FFFF. -/
def wbDbSize : Nat := 0xffff

/-- `ctc_sai_wb_func_add_entry` of the records in a buffer; `none` is -1. -/
def addEntry (r : Redis) (app : AppId) (buffer : Nat → BitVec 8) (len validCnt : Nat) :
    Option Redis :=
  if wbDbSize < len then none
  else some ((records buffer len validCnt).foldl (fun r value => lpush r app value) r)

/-! ## Versions -/

/-- The bytes of a `uint32`. -/
def wordBytes (w : BitVec 32) : Blob :=
  [w.extractLsb' 0 8, w.extractLsb' 8 8, w.extractLsb' 16 8, w.extractLsb' 24 8]

/-- The `uint32` of four bytes. -/
def bytesWord (b : Blob) : BitVec 32 :=
  b.getD 3 0 ++ b.getD 2 0 ++ b.getD 1 0 ++ b.getD 0 0

/-- `(wb_type << 16) + wb_sub_type`, the types numbered from 0. -/
def versionKey (key : WbKey) : BitVec 32 :=
  (BitVec.ofNat 32 key.type.ctorIdx <<< 16) + BitVec.ofNat 32 key.subType

/-- `ctc_sai_warmboot_sync_version`. -/
def syncVersion (db : WbDb) (lchip : WbChip) (key : WbKey) (r : Redis) : Option Redis :=
  let buffer := memcpy (memcpy (fun _ => 0) 0 (wordBytes (versionKey key))) 4
    (wordBytes (db.info key).version)
  addEntry r (.version lchip) buffer 8 1

/-- `_ctc_sai_wb_func_query_entry_by_key`: the value found, if any.  The index
is a `uint8`, and a longer list without the key is never left. -/
def queryEntryByKey (l : List Blob) (key : Blob) : Option (Option Blob) :=
  match (l.take 256).find? (fun value => value.take key.length = key) with
  | some value => some (some value)
  | none => if l.length < 256 then some none else none

/-- `ctc_sai_warmboot_reload_version_check`: whether the version goes
together with the stored one. -/
def reloadVersionCheck (P : WbParams) (db : WbDb) (lchip : WbChip) (key : WbKey) (r : Redis) :
    Option Bool :=
  (queryEntryByKey (r (.version lchip)) (wordBytes (versionKey key))).map fun
    | none => false
    | some value => !P.versionCheck (db.info key).version (bytesWord (value.drop 4))

/-! ## Synchronisation -/

/-- `ctc_wb_data_t` while a sub-type is written, and the calls made. -/
structure SyncState where
  buffer : Nat → BitVec 8
  validCnt : Nat
  redis : Redis
  calls : List WbCall

variable (P : WbParams) (g : SaiDb)

def WbParams.len (P : WbParams) (db : WbDb) (key : WbKey) : Nat :=
  P.keyLen key.type + (db.info key).dataLen

/-- `ctc_sai_warmboot_sync_cb`: `paramLchip` is `lchip` of its parameter, and
`none` a null pointer that is followed. -/
def warmbootSyncCb (db : WbDb) (lchip paramLchip : WbChip) (key : WbKey) (st : SyncState)
    (o : WbObject) : Option (Status × SyncState) :=
  let keyLen := P.keyLen key.type
  let dataLen := (db.info key).dataLen
  let offset := st.validCnt * (dataLen + keyLen)
  let buffer := memcpy st.buffer offset (o.key.take keyLen)
  let copied :=
    if dataLen = 0 then some buffer
    else o.data.map fun data => memcpy buffer (offset + keyLen) (data.take dataLen)
  match copied with
  | none => none
  | some buffer =>
    let st := { st with buffer := buffer, validCnt := st.validCnt + 1 }
    let flushed :=
      if st.validCnt = P.bufferLength / (keyLen + dataLen) then
        (addEntry st.redis (.objects lchip key) buffer (keyLen + dataLen) st.validCnt).map
          fun r => { st with redis := r, validCnt := 0 }
      else some st
    match flushed with
    | none => some (mappingErrorCtc .other, st)
    | some st =>
      match g paramLchip with
      | none => none
      | some paramDb =>
        some (.success, if (paramDb.info key).wbSyncCb then
          { st with calls := st.calls ++ [⟨paramLchip, key, o⟩] } else st)

/-- The traversal of a hash table or a vector. -/
def syncObjects (db : WbDb) (lchip paramLchip : WbChip) (key : WbKey) :
    List WbObject → SyncState → Option (Status × SyncState)
  | [], st => some (.success, st)
  | o :: os, st =>
    match warmbootSyncCb P g db lchip paramLchip key st o with
    | some (.success, st) => syncObjects db lchip paramLchip key os st
    | r => r

/-- One sub-type of `ctc_sai_warmboot_sync`. -/
def syncKey (db : WbDb) (lchip paramLchip : WbChip) (r : Redis) (calls : List WbCall)
    (key : WbKey) : Option (Status × Redis × List WbCall) :=
  match syncVersion db lchip key r with
  | none => some (mappingErrorCtc .other, r, calls)
  | some r =>
    match syncObjects P g db lchip paramLchip key (db.objects key) ⟨fun _ => 0, 0, r, calls⟩ with
    | some (.success, st) =>
      if 0 < st.validCnt then
        match addEntry st.redis (.objects lchip key) st.buffer (P.len db key) st.validCnt with
        | none => some (mappingErrorCtc .other, st.redis, st.calls)
        | some r => some (.success, r, st.calls)
      else some (.success, st.redis, st.calls)
    | some (status, st) => some (status, st.redis, st.calls)
    | none => none

def syncKeys (db : WbDb) (lchip paramLchip : WbChip) :
    List WbKey → Redis → List WbCall → Option (Status × Redis × List WbCall)
  | [], r, calls => some (.success, r, calls)
  | key :: keys, r, calls =>
    match syncKey P g db lchip paramLchip r calls key with
    | some (.success, r, calls) => syncKeys db lchip paramLchip keys r calls
    | result => result

/-- `ctc_sai_warmboot_sync`: the status, what redis holds then, and the calls
of `wb_sync_cb`.  `wb_param.lchip` stays 0. -/
def warmbootSync (lchip : WbChip) : Option (Status × Redis × List WbCall) :=
  match g lchip with
  | none => some (.uninitialized, fun _ => [], [])
  | some db =>
    if (db.objects ⟨.oid, ObjectType.switch.ctorIdx⟩).any (·.key = P.switchKey lchip) then
      -- `ctc_wb_sync` flushes redis
      syncKeys P g db lchip 0 wbKeys (fun _ => []) []
    else some (.itemNotFound, fun _ => [], [])

/-! ## Reload -/

/-- What a reload carries from one object to the next: the buffer, `data`, and
the tables filled so far, the last insertion in front. -/
structure ReloadState where
  buffer : Nat → BitVec 8
  data : Option Blob
  objects : WbKey → List WbObject

/-- The body of the query loop: `data` is set only where there is some, and the
callback is given it.  The one callback of a sub-type without data, that of
bridges, does not look at it. -/
def reloadObject (db : WbDb) (key : WbKey) (st : ReloadState) (entryCnt : Nat) : ReloadState :=
  let keyLen := P.keyLen key.type
  let dataLen := (db.info key).dataLen
  let offset := entryCnt * (keyLen + dataLen)
  let name := slice st.buffer offset keyLen
  let data := if dataLen = 0 then st.data
    else some ((db.info key).wbReloadCb name (slice st.buffer (offset + keyLen) dataLen))
  { st with
    data := data
    objects := Function.update st.objects key (⟨name, data⟩ :: st.objects key) }

/-- The query loop of a sub-type: a page is read into the buffer, and a page
that is not full is the last one.  `none` is a loop that goes on. -/
def reloadPages (db : WbDb) (key : WbKey) (l : List Blob) :
    Nat → Nat → ReloadState → Option ReloadState
  | 0, _, _ => none
  | fuel + 1, cursor, st =>
    let queryCnt := P.bufferLength / P.len db key
    let page := lrange l cursor (cursor + queryCnt - 1)
    let st := { st with buffer := memcpy st.buffer 0 page.flatten }
    let st := (List.range page.length).foldl (reloadObject P db key) st
    if page.length < queryCnt then some st
    else reloadPages db key l fuel (cursor + page.length) st

/-- One sub-type of `ctc_sai_warmboot_reload`. -/
def reloadKey (db : WbDb) (lchip : WbChip) (r : Redis) (st : ReloadState) (key : WbKey) :
    Option ReloadState :=
  match reloadVersionCheck P db lchip key r with
  | none => none
  | some false => some st
  | some true =>
    let l := r (.objects lchip key)
    reloadPages P db key l (l.length + 1) 0 st

/-- `ctc_sai_warmboot_reload` into a database of a chip. -/
def warmbootReload (db : WbDb) (lchip : WbChip) (r : Redis) : Option WbDb :=
  (wbKeys.foldlM (reloadKey P db lchip r) ⟨fun _ => 0, none, db.objects⟩).map
    fun st => { db with objects := st.objects }

end CtcSai
