/-
# `Udf` — ctc_sai_udf.c

A UDF group has four slots for the UDFs that name it; each UDF names a match as
well, which counts the UDFs that do.  The hardware has an entry of offsets for
a group (on GoldenGate in the parser, at the index that is the priority of the
match), and a hash group keeps the hash masks of its UDFs packed into sixteen
bits.  The groups, the matches and the UDFs are each in a table of their own: a
call that names an object of another type, whose record the C code would read as
one of the type it asks for, finds nothing here.
-/
import CtcSai.Chip
import CtcSai.Lag
import CtcSai.Lib.BubbleSort

namespace CtcSai

open BubbleSort Function IdPool KeyedTable

/-! ## Records -/

/-- `sai_udf_group_type_t`. -/
inductive UdfGroupType where
  | generic | hash
deriving DecidableEq, Repr

/-- `sai_udf_base_t`. -/
inductive UdfBase where
  | l2 | l3 | l4
deriving DecidableEq, Repr

/-- A field of a match: `[0]` of the C arrays is the data, `[1]` the mask. -/
structure UdfField (w : Nat) where
  data : BitVec w
  mask : BitVec w
deriving DecidableEq, Repr

/-- `ctc_sai_udf_match_t`. -/
structure UdfMatch where
  udfRefCnt : BitVec 8
  ethertype : UdfField 16
  ipProtocal : UdfField 8
  greProtocalType : UdfField 16
  priority : BitVec 8
deriving DecidableEq, Repr

def UdfMatch.zero : UdfMatch := ⟨0, ⟨0, 0⟩, ⟨0, 0⟩, ⟨0, 0⟩, 0⟩

/-- `ctc_sai_udf_group_t`; a free slot holds the null id. -/
structure UdfGroup where
  aclRefCnt : BitVec 8
  addValid : Bool
  udfId : Fin 4 → Oid
  hashUdfBmp : BitVec 16

def UdfGroup.zero : UdfGroup := ⟨0, false, fun _ => .null, 0⟩

/-- `ctc_sai_udf_t`. -/
structure Udf where
  groupId : Oid
  matchId : Oid
  offset : BitVec 8
  hashMask : Fin 4 → BitVec 8

def Udf.zero : Udf := ⟨.null, .null, 0, fun _ => 0⟩

/-- `ctc_field_key_t` of a UDF entry. -/
inductive UdfKeyField where
  | etherType (f : UdfField 16)
  | ipProtocol (f : UdfField 8)
  | l4Type
  | greProtocolType (f : UdfField 16)
  | udfEntryValid
deriving DecidableEq, Repr

/-- `ctc_acl_classify_udf_t` and the key fields that are added to it. -/
structure UdfEntry where
  priority : BitVec 8
  offsetType : Nat
  offset : List (BitVec 8)
  keyFields : List UdfKeyField
deriving DecidableEq, Repr

/-- `ctc_parser_udf_t`. -/
structure ParserUdf where
  type : Int
  udfOffset : List (BitVec 8)
  etherType : BitVec 16
  ipv4 : Bool
  l3HeaderProtocol : BitVec 8
deriving DecidableEq, Repr

/-- The UDF entries of the hardware: by number of the group, and those of
GoldenGate's parser by index; the parser's entry without offsets is none. -/
structure UdfHw where
  entries : BitVec 32 → Option UdfEntry
  parser : BitVec 8 → Option ParserUdf

/-- What does not change while the adapter runs on one chip. -/
structure UdfChip where
  lchip : Lchip
  chipType : ChipType
  /-- CTC_SAI_DB_ID_TYPE_COMMON. -/
  common : Allocator
  common_top : common.lo + common.size ≤ 2 ^ 32

/-- CTC_CHIP_DUET2 or CTC_CHIP_TSINGMA. -/
def ChipType.duet2Up : ChipType → Bool
  | .duet2 | .tsingma => true
  | _ => false

/-- CTC_SAI_UDF_GROUP_LENGTH. -/
def udfGroupLength (t : ChipType) : BitVec 16 := if t.duet2Up then 4 else 1

/-- CTC_SAI_UDF_GROUP_MAX_NUM. -/
def udfGroupMaxNum (t : ChipType) : Nat := if t.duet2Up then 16 else 4

/-- The database of one chip and its hardware, as far as UDFs go. -/
structure UdfDb (ch : UdfChip) where
  groups : Table Oid UdfGroup
  udfMatches : Table Oid UdfMatch
  udfs : Table Oid Udf
  pool : Pool ch.common
  /-- `udf_group_cnt` of the switch. -/
  udfGroupCnt : BitVec 8
  /-- `udf_group_list` of the ECMP hash and of the LAG hash. -/
  ecmpUdfGroups : List Oid
  lagUdfGroups : List Oid
  hw : UdfHw

def udfGroupOid (c : Lchip) (type : UdfGroupType) (n : BitVec 32) : Oid :=
  createObjectId .udfGroup (c.setWidth 8) (BitVec.ofNat 8 type.ctorIdx) 0 n

def udfMatchOid (c : Lchip) (n : BitVec 32) : Oid :=
  createObjectId .udfMatch (c.setWidth 8) 0 0 n

/-- The object id of a UDF. -/
def udfOid (c : Lchip) (base : UdfBase) (n : BitVec 32) : Oid :=
  createObjectId .udf (c.setWidth 8) (BitVec.ofNat 8 base.ctorIdx) 0 n

def isHashUdfGroup (g : Oid) : Bool := g.subType = BitVec.ofNat 3 UdfGroupType.hash.ctorIdx

/-- Calls into the SDK. -/
inductive UdfCall where
  | aclRemoveUdfEntryKeyField (f : UdfKeyField)
  | aclRemoveUdfEntry
  | aclAddUdfEntry (e : UdfEntry)
  | aclAddUdfEntryKeyField (f : UdfKeyField)
  | parserSetUdf (index : BitVec 8) (e : Option ParserUdf)
deriving DecidableEq, Repr

/-- What the SDK and the memory answer during one call. -/
structure UdfSdk where
  rc : UdfCall → CtcE
  /-- Memory for the record, and for its entry in the object table. -/
  mem : Bool
  memNode : Bool

/-! ## The hash bitmap -/

/-- The loop of `_ctc_sai_udf_set_hash_mask` over the bytes of a mask. -/
def udfHashBmp (mask : Fin 4 → BitVec 8) : BitVec 8 :=
  (List.finRange 4).foldl (fun bmp j => if mask j = 0xFF then bmp ||| 1 <<< j.val else bmp) 0

/-- The last loop of `_ctc_sai_udf_bubble_sort`. -/
def udfPackFrom (i : Nat) (tmp : BitVec 16) : List (BitVec 8 × BitVec 8) → BitVec 16
  | [] => tmp
  | a :: rest => udfPackFrom (i + 1) (tmp ||| (a.2 &&& 0xF).setWidth 16 <<< (i * 4)) rest

/-- `a[0][j] > a[0][j + 1]`, the other way round. -/
def udfOffsetLe (a b : BitVec 8 × BitVec 8) : Bool := a.1 ≤ b.1

/-- `_ctc_sai_udf_bubble_sort`. -/
def udfBubbleSort (a : List (BitVec 8 × BitVec 8)) : BitVec 16 :=
  udfPackFrom 0 0 (bubbleSort udfOffsetLe a.length a)

section Calls

variable {ch : UdfChip} (sdk : UdfSdk) (db : UdfDb ch)

/-- The slots that are taken, in their order. -/
def UdfGroup.used (grp : UdfGroup) : List Oid :=
  ((List.finRange 4).map grp.udfId).filter (· ≠ Oid.null)

/-- The records of UDFs, until one is missing. -/
def UdfDb.records : List Oid → Option (List (Oid × Udf))
  | [] => some []
  | u :: rest =>
    match db.udfs.lookup u with
    | none => none
    | some r => (UdfDb.records rest).map ((u, r) :: ·)

/-- `_ctc_sai_udf_set_hash_mask` from the group on. -/
def udfSetHashUdfBmp (g : Oid) : Status × UdfDb ch :=
  match db.groups.lookup g with
  | none => (.itemNotFound, db)
  | some grp =>
    match db.records grp.used with
    | none => (.invalidParameter, db)
    | some l => (.success, { db with
        groups := db.groups.insert g { grp with
          hashUdfBmp := udfBubbleSort (l.map fun p => (p.2.offset, udfHashBmp p.2.hashMask)) } })

/-- The bytes of a HASH_MASK that is accepted. -/
def udfHashMaskValid (mask : List (BitVec 8)) : Bool :=
  mask.length = 4 && mask.all fun b => b = 0xFF || b = 0

/-- `_ctc_sai_udf_set_hash_mask` of a mask that is given. -/
def udfSetHashMask (oid : Oid) (u : Udf) (mask : List (BitVec 8)) : Status × UdfDb ch :=
  if udfHashMaskValid mask then
    udfSetHashUdfBmp
      { db with udfs := db.udfs.insert oid { u with hashMask := fun i => mask.getD i 0 } } u.groupId
  else (.invalidParameter, db)

/-! ## The hardware -/

/-- `ctcs_acl_remove_udf_entry_key_field`. -/
def UdfHw.removeKeyField (hw : UdfHw) (n : BitVec 32) (f : UdfKeyField) : UdfHw :=
  { hw with entries := update hw.entries n ((hw.entries n).map fun e =>
      { e with keyFields := e.keyFields.erase f }) }

/-- `ctcs_acl_remove_udf_entry`. -/
def UdfHw.removeEntry (hw : UdfHw) (n : BitVec 32) : UdfHw :=
  { hw with entries := update hw.entries n none }

/-- `ctcs_acl_add_udf_entry`. -/
def UdfHw.addEntry (hw : UdfHw) (n : BitVec 32) (e : UdfEntry) : UdfHw :=
  { hw with entries := update hw.entries n (some e) }

/-- `ctcs_acl_add_udf_entry_key_field`. -/
def UdfHw.addKeyField (hw : UdfHw) (n : BitVec 32) (f : UdfKeyField) : UdfHw :=
  { hw with entries := update hw.entries n ((hw.entries n).map fun e =>
      { e with keyFields := e.keyFields ++ [f] }) }

/-- `ctcs_parser_set_udf`. -/
def UdfHw.setParser (hw : UdfHw) (index : BitVec 8) (e : Option ParserUdf) : UdfHw :=
  { hw with parser := update hw.parser index e }

/-- The key fields of an entry, by the masks of the match. -/
def UdfMatch.keyFields (m : UdfMatch) : List UdfKeyField :=
  (if m.ethertype.mask ≠ 0 then [.etherType m.ethertype] else []) ++
  (if m.ipProtocal.mask ≠ 0 then [.ipProtocol m.ipProtocal] else []) ++
  (if m.greProtocalType.mask ≠ 0 then [.l4Type, .greProtocolType m.greProtocalType] else []) ++
  if m.ethertype.mask ≠ 0 ∨ m.ipProtocal.mask ≠ 0 ∨ m.greProtocalType.mask ≠ 0 then
    [.udfEntryValid] else []

/-- The key fields are added until the SDK refuses one. -/
def udfAddKeyFields (n : BitVec 32) : UdfHw → List UdfKeyField → Status × UdfHw
  | hw, [] => (.success, hw)
  | hw, f :: rest =>
    match mappingErrorCtc (sdk.rc (.aclAddUdfEntryKeyField f)) with
    | .success => udfAddKeyFields n (hw.addKeyField n f) rest
    | status => (status, hw)

/-- The group's record and the hardware are written. -/
def UdfDb.program (g : Oid) (grp : UdfGroup) (hw : UdfHw) : UdfDb ch :=
  { db with groups := db.groups.insert g grp, hw := hw }

/-- The first half of `_ctc_sai_udf_update_ctc_udf_entry`: the entry goes. -/
def udfRemoveCtcEntry (n : BitVec 32) (grp : UdfGroup) (hw : UdfHw) :
    Status × UdfGroup × UdfHw :=
  if grp.addValid then
    match mappingErrorCtc (sdk.rc (.aclRemoveUdfEntryKeyField .l4Type)) with
    | .success =>
      let hw := hw.removeKeyField n .l4Type
      match mappingErrorCtc (sdk.rc .aclRemoveUdfEntry) with
      | .success => (.success, { grp with addValid := false }, hw.removeEntry n)
      | status => (status, grp, hw)
    | status => (status, grp, hw)
  else (.success, grp, hw)

/-- The loops of the update functions: the UDFs with their matches.  The inner
`none` is a UDF that is missing, the outer one a match, which is read without
asking whether it is there. -/
def UdfDb.collect : List Oid → Option (Option (List (Oid × Udf × UdfMatch)))
  | [] => some (some [])
  | u :: rest =>
    match db.udfs.lookup u with
    | none => some none
    | some r =>
      match db.udfMatches.lookup r.matchId with
      | none => none
      | some m => (UdfDb.collect rest).map (Option.map ((u, r, m) :: ·))

/-- `_ctc_sai_udf_update_ctc_udf_entry` with `udf_group_id` as `gid`, on the
record of the group `g`.  The last UDF gives the priority, the number and the
type of the offsets. -/
def udfUpdateCtcUdfEntry (g gid : Oid) (grp : UdfGroup) : Option (Status × UdfDb ch) :=
  match udfRemoveCtcEntry sdk gid.value grp db.hw with
  | (.success, grp, hw) =>
    match db.collect grp.used with
    | none => none
    | some none => some (.itemNotFound, db.program g grp hw)
    | some (some l) =>
      match l.getLast? with
      | none => some (.success, db.program g grp hw)
      | some (u, r, m) =>
        let e : UdfEntry := ⟨m.priority, u.subType.toNat + 1, l.map fun p => p.2.1.offset, []⟩
        match mappingErrorCtc (sdk.rc (.aclAddUdfEntry e)) with
        | .success =>
          let p := udfAddKeyFields sdk gid.value (hw.addEntry r.groupId.value e) m.keyFields
          some (p.1, db.program g { grp with addValid := true } p.2)
        | status => some (status, db.program g grp hw)
  | (status, grp, hw) => some (status, db.program g grp hw)

/-- The priority of the match of the first UDF of the group, 0 without one. -/
def udfFirstPriority (grp : UdfGroup) : Option (Status × BitVec 8) :=
  match grp.used with
  | [] => some (.success, 0)
  | u :: _ =>
    match db.udfs.lookup u with
    | none => some (.itemNotFound, 0)
    | some r => (db.udfMatches.lookup r.matchId).map fun m => (.success, m.priority)

/-- The first half of `_ctc_sai_udf_update_goldengate_ctc_udf_entry`. -/
def udfRemoveParserEntry (grp : UdfGroup) : Option (Status × UdfGroup × UdfHw) :=
  if grp.addValid then
    match udfFirstPriority db grp with
    | none => none
    | some (.success, index) =>
      match mappingErrorCtc (sdk.rc (.parserSetUdf index none)) with
      | .success => some (.success, { grp with addValid := false }, db.hw.setParser index none)
      | status => some (status, grp, db.hw)
    | some (status, _) => some (status, grp, db.hw)
  else some (.success, grp, db.hw)

/-- `_ctc_sai_udf_update_goldengate_ctc_udf_entry`. -/
def udfUpdateGoldengateCtcUdfEntry (g : Oid) (grp : UdfGroup) : Option (Status × UdfDb ch) :=
  match udfRemoveParserEntry sdk db grp with
  | none => none
  | some (.success, grp, hw) =>
    match db.collect grp.used with
    | none => none
    | some none => some (.itemNotFound, db.program g grp hw)
    | some (some l) =>
      match l.getLast? with
      | none => some (.success, db.program g grp hw)
      | some (u, _, m) =>
        let e : ParserUdf := ⟨u.subType.toNat - 1, l.map fun p => p.2.1.offset, m.ethertype.data,
          m.ethertype.data = 0x0800, m.ipProtocal.data⟩
        match mappingErrorCtc (sdk.rc (.parserSetUdf m.priority (some e))) with
        | .success => some (.success,
            db.program g { grp with addValid := true } (hw.setParser m.priority (some e)))
        | status => some (status, db.program g grp hw)
  | some (status, grp, hw) => some (status, db.program g grp hw)

/-! ## Groups -/

inductive UdfGroupAttr where
  | type (t : UdfGroupType)
  | length (n : BitVec 16)
deriving DecidableEq, Repr

def UdfGroupAttr.type? : UdfGroupAttr → Option UdfGroupType
  | type t => some t
  | _ => none

def UdfGroupAttr.length? : UdfGroupAttr → Option (BitVec 16)
  | length n => some n
  | _ => none

/-- `ctc_sai_udf_create_udf_group`. -/
def createUdfGroup (attrs : List UdfGroupAttr) : Status × Option Oid × UdfDb ch :=
  if udfGroupMaxNum ch.chipType < db.udfGroupCnt.toNat then (.invalidParameter, none, db)
  else if (findAttribInList UdfGroupAttr.length? attrs).any (· ≠ udfGroupLength ch.chipType) then
    (.invalidParameter, none, db)
  else
    let type := findAttribInList UdfGroupAttr.type? attrs
    if ch.chipType = .goldengate ∧ type = some .hash then (.invalidParameter, none, db)
    else
      match db.pool.alloc with
      | none => (.insufficientResources, none, db)
      | some (i, pool) =>
        let error0 (status : Status) := (status, none, { db with pool := pool.free i })
        let oid := udfGroupOid ch.lchip (type.getD .generic) (BitVec.ofNat 32 i)
        if !sdk.mem then error0 .noMemory
        else if (db.groups.lookup oid).isSome then error0 .itemAlreadyExists
        else if !sdk.memNode then error0 .noMemory
        else (.success, some oid, { db with
          pool := pool
          groups := db.groups.insert oid .zero
          udfGroupCnt := db.udfGroupCnt + 1 })

/-- `_ctc_sai_udf_judged_used`. -/
def udfJudgedUsed (g : Oid) : Status :=
  if g ∈ db.ecmpUdfGroups then .objectInUse
  else if g ∈ db.lagUdfGroups then .objectInUse
  else
    match db.groups.lookup g with
    | none => .itemNotFound
    | some grp => if grp.aclRefCnt ≠ 0 then .objectInUse else .success

/-- `ctc_sai_udf_remove_udf_group`. -/
def removeUdfGroup (g : Oid) : Status × UdfDb ch :=
  match db.groups.lookup g with
  | none => (.itemNotFound, db)
  | some grp =>
    match udfJudgedUsed db g with
    | .success =>
      if ∃ i, grp.udfId i ≠ Oid.null then (.invalidParameter, db)
      else (.success, { db with
        groups := db.groups.erase g
        pool := db.pool.free g.value.toNat
        udfGroupCnt := db.udfGroupCnt - 1 })
    | status => (status, db)

/-! ## Matches -/

inductive UdfMatchAttr where
  | l2Type (f : UdfField 16)
  | l3Type (f : UdfField 8)
  | greType (f : UdfField 16)
  | priority (n : BitVec 8)
deriving DecidableEq, Repr

def UdfMatchAttr.l2Type? : UdfMatchAttr → Option (UdfField 16)
  | l2Type f => some f
  | _ => none

def UdfMatchAttr.l3Type? : UdfMatchAttr → Option (UdfField 8)
  | l3Type f => some f
  | _ => none

def UdfMatchAttr.greType? : UdfMatchAttr → Option (UdfField 16)
  | greType f => some f
  | _ => none

def UdfMatchAttr.priority? : UdfMatchAttr → Option (BitVec 8)
  | priority n => some n
  | _ => none

/-- The attributes of a match that GoldenGate refuses, in the order in which
they are looked at. -/
def udfMatchRefused (t : ChipType) (attrs : List UdfMatchAttr) : Option Status :=
  if t ≠ .goldengate then none
  else if (findAttribInList UdfMatchAttr.l2Type? attrs).any (·.mask ≠ 0xFFFF) then
    some .invalidParameter
  else if (findAttribInList UdfMatchAttr.l3Type? attrs).any (·.mask ≠ 0xFF) then
    some .invalidParameter
  else if (findAttribInList UdfMatchAttr.greType? attrs).isSome then some .notSupported
  else none

def udfMatchOf (attrs : List UdfMatchAttr) : UdfMatch :=
  { UdfMatch.zero with
    ethertype := (findAttribInList UdfMatchAttr.l2Type? attrs).getD ⟨0, 0⟩
    ipProtocal := (findAttribInList UdfMatchAttr.l3Type? attrs).getD ⟨0, 0⟩
    greProtocalType := (findAttribInList UdfMatchAttr.greType? attrs).getD ⟨0, 0⟩
    priority := (findAttribInList UdfMatchAttr.priority? attrs).getD 0 }

/-- `ctc_sai_udf_create_udf_match`.  What it returns at the end is what the
search for PRIORITY does. -/
def createUdfMatch (attrs : List UdfMatchAttr) : Status × Option Oid × UdfDb ch :=
  match db.pool.alloc with
  | none => (.insufficientResources, none, db)
  | some (i, pool) =>
    let back (status : Status) := (status, none, { db with pool := pool.free i })
    let oid := udfMatchOid ch.lchip (BitVec.ofNat 32 i)
    if !sdk.mem then back .noMemory
    else if (db.udfMatches.lookup oid).isSome then back .itemAlreadyExists
    else if !sdk.memNode then back .noMemory
    else
      let db := { db with pool := pool, udfMatches := db.udfMatches.insert oid .zero }
      match udfMatchRefused ch.chipType attrs with
      | some status => (status, none, { db with
          pool := db.pool.free i
          udfMatches := db.udfMatches.erase oid })
      | none => (if (findAttribInList UdfMatchAttr.priority? attrs).isSome then .success
            else .itemNotFound, some oid,
          { db with udfMatches := db.udfMatches.insert oid (udfMatchOf attrs) })

/-- `ctc_sai_udf_remove_udf_match`. -/
def removeUdfMatch (m : Oid) : Status × UdfDb ch :=
  match db.udfMatches.lookup m with
  | none => (.itemNotFound, db)
  | some rec =>
    if rec.udfRefCnt ≠ 0 then (.objectInUse, db)
    else (.success, { db with
      udfMatches := db.udfMatches.erase m
      pool := db.pool.free m.value.toNat })

/-! ## UDFs -/

/-- An attribute of a UDF. -/
inductive UdfAttr where
  | matchId (m : Oid)
  | groupId (g : Oid)
  | base (b : UdfBase)
  | offset (n : BitVec 16)
  | hashMask (mask : List (BitVec 8))
deriving DecidableEq, Repr

def UdfAttr.matchId? : UdfAttr → Option Oid
  | matchId m => some m
  | _ => none

def UdfAttr.groupId? : UdfAttr → Option Oid
  | groupId g => some g
  | _ => none

def UdfAttr.base? : UdfAttr → Option UdfBase
  | base b => some b
  | _ => none

def UdfAttr.offset? : UdfAttr → Option (BitVec 16)
  | offset n => some n
  | _ => none

def UdfAttr.hashMask? : UdfAttr → Option (List (BitVec 8))
  | hashMask mask => some mask
  | _ => none

/-- What GoldenGate asks of the match of a UDF; it is the mask of the
ethertype that the numbers of IPv4 and IPv6 are looked for in. -/
def udfMatchUnfit (t : ChipType) (base : UdfBase) (m : UdfMatch) : Option Status :=
  if t ≠ .goldengate then none
  else
    match base with
    | .l2 => none
    | .l3 => if m.ipProtocal.mask ≠ 0 then some .notSupported else none
    | .l4 =>
      if m.ethertype.mask ≠ 0 ∧ m.ipProtocal.mask = 0 then some .notSupported
      else if m.ethertype.mask = 0x0800 ∨ m.ethertype.mask = 0x86dd then none
      else some .invalidParameter

def UdfGroup.validIndex (grp : UdfGroup) : Option (Fin 4) :=
  (List.finRange 4).reverse.find? fun i => grp.udfId i = Oid.null

/-- The UDF in the last slot that is taken must have the base and the match of
the new one. -/
def udfSlotRefused (grp : UdfGroup) (base : UdfBase) (m : Oid) : Option Status :=
  match grp.used.getLast? with
  | none => none
  | some u =>
    match db.udfs.lookup u with
    | none => some .itemNotFound
    | some r =>
      if u.subType ≠ BitVec.ofNat 3 base.ctorIdx ∨ m ≠ r.matchId then some .invalidParameter
      else none

/-- The hash mask of a new UDF: the one that is given, or by default all bytes
of a UDF of a hash group. -/
def udfCreateHashMask (oid : Oid) (u : Udf) (attrs : List UdfAttr) : Status × UdfDb ch :=
  match findAttribInList UdfAttr.hashMask? attrs with
  | some mask =>
    if ch.chipType = .goldengate then (.invalidParameter, db)
    else udfSetHashMask db oid u mask
  | none =>
    if ch.chipType.duet2Up ∧ isHashUdfGroup u.groupId then
      udfSetHashUdfBmp { db with udfs := db.udfs.insert oid { u with hashMask := fun _ => 0xFF } }
        u.groupId
    else (.success, db)

/-- The hardware that `ctc_sai_udf_create_udf` programs. -/
def udfCreateEntry (g : Oid) : Option (Status × UdfDb ch) :=
  match db.groups.lookup g with
  | none => none
  | some grp =>
    match ch.chipType with
    | .duet2 | .tsingma => udfUpdateCtcUdfEntry sdk db g g grp
    | .goldengate => udfUpdateGoldengateCtcUdfEntry sdk db g grp
    | .greatbelt => some (.success, db)

/-- What is done after a step that may fail: `undo` is its way back. -/
def orUndo (undo : UdfDb ch → UdfDb ch) (r : Status × UdfDb ch) : Status × UdfDb ch :=
  if r.1 = .success then r else (r.1, undo r.2)

/-- `ctc_sai_udf_create_udf` from OFFSET on. -/
def createUdfLate (oid : Oid) (u : Udf) (attrs : List UdfAttr) : Option (Status × UdfDb ch) :=
  match udfCreateHashMask db oid u attrs with
  | (.success, db) => udfCreateEntry sdk db u.groupId
  | r => some r

/-- `ctc_sai_udf_create_udf` from GROUP_ID on; its way back is `error3`. -/
def createUdfSlot (oid : Oid) (base : UdfBase) (m : Oid) (attrs : List UdfAttr) :
    Option (Status × UdfDb ch) :=
  match findAttribInList UdfAttr.groupId? attrs with
  | none => some (.mandatoryAttributeMissing, db)
  | some g =>
    match db.groups.lookup g with
    | none => some (.itemNotFound, db)
    | some grp =>
      match grp.validIndex with
      | none => some (.invalidParameter, db)
      | some i =>
        match udfSlotRefused db grp base m with
        | some status => some (status, db)
        | none =>
          let u : Udf := { Udf.zero with
            groupId := g
            matchId := m
            offset := ((findAttribInList UdfAttr.offset? attrs).getD 0).setWidth 8 }
          (createUdfLate sdk { db with
            groups := db.groups.insert g { grp with udfId := update grp.udfId i oid }
            udfs := db.udfs.insert oid u } oid u attrs).map
              (orUndo fun db => { db with groups := db.groups.insert g grp })

/-- `ctc_sai_udf_create_udf` from MATCH_ID on; its way back is `error2`. -/
def createUdfRecord (oid : Oid) (base : UdfBase) (attrs : List UdfAttr) :
    Option (Status × UdfDb ch) :=
  match findAttribInList UdfAttr.matchId? attrs with
  | none => some (.mandatoryAttributeMissing, db)
  | some m =>
    match db.udfMatches.lookup m with
    | none => some (.itemNotFound, db)
    | some rec =>
      match udfMatchUnfit ch.chipType base rec with
      | some status => some (status, db)
      | none =>
        (createUdfSlot sdk { db with
          udfMatches := db.udfMatches.insert m { rec with udfRefCnt := rec.udfRefCnt + 1 } }
          oid base m attrs).map (orUndo fun db => { db with udfMatches := db.udfMatches.insert m rec })

/-- What a creation that goes through returns: where no hardware is programmed,
what the search for HASH_MASK does. -/
def udfCreateStatus (t : ChipType) (attrs : List UdfAttr) : Status :=
  if t = .greatbelt ∧ findAttribInList UdfAttr.hashMask? attrs = none then .itemNotFound
  else .success

/-- `ctc_sai_udf_create_udf`; `error1` and `error0` undo the record and the
number. -/
def createUdf (attrs : List UdfAttr) : Option (Status × Option Oid × UdfDb ch) :=
  match db.pool.alloc with
  | none => some (.insufficientResources, none, db)
  | some (i, pool) =>
    let error0 (status : Status) := some (status, none, { db with pool := pool.free i })
    let base := findAttribInList UdfAttr.base? attrs
    if ch.chipType = .goldengate ∧ base = some .l2 then error0 .invalidParameter
    else
      let oid := udfOid ch.lchip (base.getD .l2) (BitVec.ofNat 32 i)
      if !sdk.mem then error0 .noMemory
      else if (db.udfs.lookup oid).isSome then error0 .itemAlreadyExists
      else if !sdk.memNode then error0 .noMemory
      else
        let db := { db with pool := pool, udfs := db.udfs.insert oid .zero }
        (createUdfRecord sdk db oid (base.getD .l2) attrs).map fun r =>
          if r.1 = .success then (udfCreateStatus ch.chipType attrs, some oid, r.2)
          else (r.1, none, { r.2 with udfs := r.2.udfs.erase oid, pool := r.2.pool.free i })

/-- The loop of `ctc_sai_udf_remove_udf` over the slots: those whose UDF has
the offset are cleared.  The last UDF that is looked at stays in `p_udf`; `none`
is one that is missing. -/
def udfClearSlots (offset : BitVec 8) :
    List (Fin 4) → (Fin 4 → Oid) → Udf → Option Udf × (Fin 4 → Oid)
  | [], slots, last => (some last, slots)
  | i :: rest, slots, last =>
    if slots i = Oid.null then udfClearSlots offset rest slots last
    else
      match db.udfs.lookup (slots i) with
      | none => (none, slots)
      | some r =>
        udfClearSlots offset rest (if r.offset = offset then update slots i .null
          else slots) r

/-- The hardware that `ctc_sai_udf_remove_udf` programs. -/
def udfRemoveEntry (g gid : Oid) (grp : UdfGroup) : Option (Status × UdfDb ch) :=
  match ch.chipType with
  | .duet2 => udfUpdateCtcUdfEntry sdk db g gid grp
  | .goldengate => udfUpdateGoldengateCtcUdfEntry sdk db g grp
  | .tsingma | .greatbelt => some (.success, db)

/-- `ctc_sai_udf_remove_udf`. -/
def removeUdf (u : Oid) : Option (Status × UdfDb ch) :=
  match db.udfs.lookup u with
  | none => some (.itemNotFound, db)
  | some r =>
    match udfJudgedUsed db r.groupId with
    | .success =>
      match db.groups.lookup r.groupId with
      | none => some (.itemNotFound, db)
      | some old =>
        match udfClearSlots db r.offset (List.finRange 4) old.udfId r with
        | (none, slots) => some (.itemNotFound, { db with
            groups := db.groups.insert r.groupId { old with udfId := slots } })
        | (some last, slots) =>
          let grp := { old with udfId := slots }
          match udfRemoveEntry sdk { db with groups := db.groups.insert r.groupId grp }
              r.groupId last.groupId grp with
          | none => none
          | some (.success, db) =>
            match db.udfMatches.lookup last.matchId with
            | none => none
            | some m => some (.success, { db with
                udfMatches := db.udfMatches.insert last.matchId { m with udfRefCnt := m.udfRefCnt - 1 }
                udfs := db.udfs.erase u
                pool := db.pool.free u.value.toNat })
          | some (status, db) => some (status, { db with groups := db.groups.insert r.groupId old })
    | status => some (status, db)

end Calls
end CtcSai
