/-
# `EntryKeys` — the keys of the entry database, ctc_sai_db.c

An entry is kept under a key of its own, which `_ctc_sai_db_entry_mapping_key`
makes of the entry a caller names and `ctc_sai_db_entry_unmapping_key` turns
back into such an entry for a listing.  Of an entry both sides see the words of
its addresses; an entry on a bridge or a VLAN is kept under the forwarding
instance, which is looked up in the database.

The macros between a mask and its length belong to the SDK, and so does the
number of a chip among all chips.
-/
import CtcSai.Lib.Run
import CtcSai.Neighbor
import CtcSai.Route
import CtcSai.Warmboot

namespace CtcSai

open Function KeyedTable

/-! ## Entries -/

/-- `ctc_sai_db_entry_type_t`. -/
inductive DbEntryType where
  | neighbor | route | mcastL2mc | mcastIpmc | mcastFdb | acl | aclBind | mpls | nat
deriving DecidableEq, Repr

/-- `sai_neighbor_entry_t`. -/
structure NeighborEntry where
  switchId : Oid
  rifId : Oid
  ipAddress : IpAddress
deriving DecidableEq, Repr

/-- `sai_ip_address_t` with all words of its union. -/
structure IpUnion where
  addrFamily : IpFamily
  addr : IpWords
deriving DecidableEq, Repr

/-- `sai_l2mc_entry_type_t` and `sai_ipmc_entry_type_t`. -/
inductive McastEntryType where
  | sg | xg
deriving DecidableEq, Repr

/-- `sai_l2mc_entry_t`. -/
structure L2mcEntry where
  switchId : Oid
  bvId : Oid
  type : McastEntryType
  destination : IpUnion
  source : IpUnion
deriving DecidableEq, Repr

/-- `sai_ipmc_entry_t`. -/
structure IpmcEntry where
  switchId : Oid
  vrId : Oid
  type : McastEntryType
  destination : IpUnion
  source : IpUnion
deriving DecidableEq, Repr

/-- `sai_mcast_fdb_entry_t`. -/
structure McastFdbEntry where
  switchId : Oid
  macAddress : Mac
  bvId : Oid
deriving DecidableEq, Repr

/-- `sai_inseg_entry_t`. -/
structure InsegEntry where
  switchId : Oid
  label : BitVec 32
deriving DecidableEq, Repr

/-- `sai_nat_entry_key_t` and `sai_nat_entry_mask_t`. -/
structure NatTuple where
  srcIp : BitVec 32
  dstIp : BitVec 32
  proto : BitVec 8
  l4SrcPort : BitVec 16
  l4DstPort : BitVec 16
deriving DecidableEq, Repr

/-- `sai_nat_entry_t`. -/
structure NatEntry where
  switchId : Oid
  vrId : Oid
  key : NatTuple
  mask : NatTuple
deriving DecidableEq, Repr

/-- What the entry database is asked about. -/
inductive ApiKey where
  | neighbor (e : NeighborEntry)
  | route (e : RouteEntry)
  | l2mc (e : L2mcEntry)
  | ipmc (e : IpmcEntry)
  | mcastFdb (e : McastFdbEntry)
  | acl (hardwareId : BitVec 64)
  | aclBind (oid : Oid)
  | mpls (e : InsegEntry)
  | nat (e : NatEntry)
deriving DecidableEq, Repr

/-! ## Keys -/

/-- `ctc_sai_mcast_ip_key_t`. -/
structure McastIpKey where
  vrfId : BitVec 16
  srcMaskLen : BitVec 8
  ipVer : IpFamily
  isL2mc : Bool
  isBridge : Bool
  src : IpWords
  dst : IpWords
deriving DecidableEq, Repr

def McastIpKey.zero : McastIpKey := ⟨0, 0, .ipv4, false, false, .zero, .zero⟩

/-- `ctc_sai_mcast_fdb_key_t`. -/
structure McastFdbKey where
  mac : Mac
  fid : BitVec 16
  isBridge : Bool
deriving DecidableEq, Repr

def McastFdbKey.zero : McastFdbKey := ⟨0, 0, false⟩

/-- `ctc_sai_nat_key_t`; `ip_ver` is always CTC_IP_VER_4. -/
structure NatKey where
  vrfId : BitVec 16
  key : NatTuple
deriving DecidableEq, Repr

/-- The key of a `ctc_sai_entry_property_t`. -/
inductive EntryKey where
  | neighbor (k : NeighborKey)
  | route (k : RouteKey)
  | l2mc (k : McastIpKey)
  | ipmc (k : McastIpKey)
  | mcastFdb (k : McastFdbKey)
  | acl (hardwareId : BitVec 64)
  | aclBind (oid : Oid)
  | mpls (label : BitVec 32)
  | nat (k : NatKey)
deriving DecidableEq, Repr

/-- `entry_type`. -/
def EntryKey.entryType : EntryKey → DbEntryType
  | .neighbor _ => .neighbor
  | .route _ => .route
  | .l2mc _ => .mcastL2mc
  | .ipmc _ => .mcastIpmc
  | .mcastFdb _ => .mcastFdb
  | .acl _ => .acl
  | .aclBind _ => .aclBind
  | .mpls _ => .mpls
  | .nat _ => .nat

/-! ## The database -/

/-- What is read here of the data of an object. -/
structure ObjectData where
  /-- `user_vlanptr`, where the object is a VLAN. -/
  userVlanptr : BitVec 16
deriving DecidableEq, Repr

/-- `ctc_sai_db_t`: the hash tables; `δ` is what the data of an entry points to. -/
structure HashDb (δ : Type) where
  oidHash : ObjectType → Table Oid ObjectData
  entryHash : DbEntryType → Table EntryKey δ

/-- `g_sai_db`. -/
abbrev HashDbs (δ : Type) := WbChip → Option (HashDb δ)

/-- What the SDK decides. -/
structure KeyMacros extends MaskToLen where
  /-- IPV4_LEN_TO_MASK and IPV6_LEN_TO_MASK. -/
  lenV4 : BitVec 8 → BitVec 32
  lenV6 : BitVec 8 → IpWords
  v4_le : ∀ w, (v4 w).toNat ≤ 32
  v6_le : ∀ a, (v6 a).toNat ≤ 128
  lenV4_eq : ∀ len, len.toNat ≤ 32 → lenV4 len = maskWord len.toNat
  lenV6_eq : ∀ len, len.toNat ≤ 128 → lenV6 len = maskV6 len.toNat
  /-- `ctcs_get_gchip_id`. -/
  gchip : WbChip → BitVec 8
  /-- What stands in the words of a mask that are not written. -/
  stack : IpWords

variable {δ : Type} (m : KeyMacros) (g : HashDbs δ)

def WbChip.toByte (lchip : WbChip) : BitVec 8 := BitVec.ofNat 8 lchip

/-- `ctc_sai_oid_get_lchip`; `none` is UNINITIALIZED. -/
def oidGetLchip (oid : Oid) : Option WbChip :=
  if h : oid.lchip.toNat < 32 then
    if (g ⟨oid.lchip.toNat, h⟩).isSome then some ⟨oid.lchip.toNat, h⟩ else none
  else none

/-- `ctc_sai_bridge_get_fid`: the status and `*fid`. -/
def bridgeGetFid (bv : Oid) : Status × BitVec 16 :=
  let lchip := (oidGetLchip g bv).getD 0
  if bv.type = ObjectType.vlan.bits then
    match (g lchip).bind fun db => (db.oidHash .vlan).lookup bv with
    | none => (.invalidObjectId, 0)
    | some data => (.success, data.userVlanptr)
  else if bv.type = ObjectType.bridge.bits then
    match (g lchip).bind fun db => (db.oidHash .bridge).lookup bv with
    | none => (.invalidObjectId, 0)
    | some _ => (.success, bv.value.setWidth 16)
  else (.invalidParameter, 0)

/-! ## From an entry to its key -/

/-- The words of an address that are copied. -/
def IpWords.copy (a : IpWords) : IpFamily → IpWords
  | .ipv4 => { IpWords.zero with w0 := a.w0 }
  | .ipv6 => a

/-- `src_mask_len` of an entry. -/
def mcastSrcMaskLen : McastEntryType → IpFamily → BitVec 8
  | .xg, _ => 0
  | .sg, .ipv4 => 32
  | .sg, .ipv6 => 128

/-- The two multicast branches of `_ctc_sai_db_entry_mapping_key`. -/
def mappingMcastIpKey (vrfId : BitVec 16) (isL2mc isBridge : Bool) (type : McastEntryType)
    (destination source : IpUnion) : McastIpKey where
  vrfId := vrfId
  srcMaskLen := mcastSrcMaskLen type destination.addrFamily
  ipVer := destination.addrFamily
  isL2mc := isL2mc
  isBridge := isBridge
  src := match type with
    | .sg => source.addr.copy destination.addrFamily
    | .xg => .zero
  dst := destination.addr.copy destination.addrFamily

/-- The branch of L2MC; without an instance the key stays zeroed. -/
def mappingL2mcKey (e : L2mcEntry) : Status × McastIpKey :=
  match bridgeGetFid g e.bvId with
  | (.success, fid) => (.success, mappingMcastIpKey fid true
      (e.bvId.type = ObjectType.bridge.bits) e.type e.destination e.source)
  | (status, _) => (status, .zero)

/-- The branch of multicast FDB entries. -/
def mappingMcastFdbKey (e : McastFdbEntry) : Status × McastFdbKey :=
  match bridgeGetFid g e.bvId with
  | (.success, fid) => (.success, ⟨e.macAddress, fid, e.bvId.type = ObjectType.bridge.bits⟩)
  | (status, _) => (status, .zero)

/-- `_ctc_sai_db_entry_mapping_key`, on a zeroed key. -/
def entryMappingKey : ApiKey → Status × EntryKey
  | .neighbor e => (.success, .neighbor (neighborKey e.rifId e.ipAddress))
  | .route e => (.success, .route (mappingRouteKey m.toMaskToLen e))
  | .l2mc e => ((mappingL2mcKey g e).1, .l2mc (mappingL2mcKey g e).2)
  | .ipmc e => (.success, .ipmc (mappingMcastIpKey (e.vrId.value.setWidth 16) false false e.type
      e.destination e.source))
  | .mcastFdb e => ((mappingMcastFdbKey g e).1, .mcastFdb (mappingMcastFdbKey g e).2)
  | .acl hardwareId => (.success, .acl hardwareId)
  | .aclBind oid => (.success, .aclBind oid)
  | .mpls e => (.success, .mpls e.label)
  | .nat e => (.success, .nat ⟨e.vrId.value.setWidth 16, e.key⟩)

/-! ## From a key to an entry -/

def KeyMacros.switchId (m : KeyMacros) (lchip : WbChip) : Oid :=
  createObjectId .switch lchip.toByte 0 0 ((m.gchip lchip).setWidth 32)

/-- The bridge or VLAN of a forwarding instance, without a sub-type. -/
def rebuiltBvId (lchip : WbChip) (isBridge : Bool) (fid : BitVec 16) : Oid :=
  createObjectId (if isBridge then .bridge else .vlan) lchip.toByte 0 0 (fid.setWidth 32)

/-- `type` of a multicast key. -/
def McastIpKey.type (k : McastIpKey) : McastEntryType :=
  if k.srcMaskLen = 32 ∨ k.srcMaskLen = 128 then .sg else .xg

/-- `destination` of a multicast key. -/
def McastIpKey.destination (k : McastIpKey) : IpUnion := ⟨k.ipVer, k.dst.copy k.ipVer⟩

/-- `source` of a multicast key; its family stays zero. -/
def McastIpKey.source (k : McastIpKey) : IpUnion :=
  ⟨.ipv4, match k.type with
    | .sg => k.src.copy k.ipVer
    | .xg => .zero⟩

/-- `ctc_sai_db_entry_unmapping_key`, into a zeroed buffer. -/
def entryUnmappingKey (lchip : WbChip) : EntryKey → ApiKey
  | .neighbor k => .neighbor ⟨m.switchId lchip, k.rif lchip.toByte, k.ip⟩
  | .route k => .route {
      switchId := m.switchId lchip
      vrId := createObjectId .virtualRouter lchip.toByte 0 0 (k.vrfId.setWidth 32)
      destination := {
        addrFamily := k.ipVer
        addr := k.addr.copy k.ipVer
        mask := ntohV6 (match k.ipVer with
          | .ipv4 => { m.stack with w0 := m.lenV4 k.maskLen }
          | .ipv6 => m.lenV6 k.maskLen) } }
  | .l2mc k => .l2mc ⟨m.switchId lchip, rebuiltBvId lchip k.isBridge k.vrfId, k.type,
      k.destination, k.source⟩
  | .ipmc k => .ipmc ⟨.null,
      createObjectId .virtualRouter lchip.toByte 0 0 (k.vrfId.setWidth 32), k.type,
      k.destination, k.source⟩
  | .mcastFdb k => .mcastFdb ⟨.null, k.mac, rebuiltBvId lchip k.isBridge k.fid⟩
  | .acl hardwareId => .acl hardwareId
  | .aclBind oid => .aclBind oid
  | .mpls label => .mpls ⟨.null, label⟩
  | .nat k => .nat ⟨m.switchId lchip,
      createObjectId .virtualRouter lchip.toByte 0 0 (k.vrfId.setWidth 32), k.key,
      ⟨0xFFFFFFFF, 0xFFFFFFFF, 0xFF, 0xFFFF, 0xFFFF⟩⟩

/-- `switch_id` of an entry; the keys of ACL have none. -/
def ApiKey.switchId? : ApiKey → Option Oid
  | .neighbor e => some e.switchId
  | .route e => some e.switchId
  | .l2mc e => some e.switchId
  | .ipmc e => some e.switchId
  | .mcastFdb e => some e.switchId
  | .acl _ => none
  | .aclBind _ => none
  | .mpls e => some e.switchId
  | .nat e => some e.switchId

/-! ## The entry database -/

/-- `ctc_sai_db_entry_property_get`; the status of the mapping is not looked at. -/
def entryPropertyGet (lchip : WbChip) (key : ApiKey) : Option δ :=
  (g lchip).bind fun db =>
    (db.entryHash (entryMappingKey m g key).2.entryType).lookup (entryMappingKey m g key).2

/-- A change of the table of one type. -/
def HashDb.setEntries (db : HashDb δ) (type : DbEntryType) (t : Table EntryKey δ) : HashDb δ :=
  { db with entryHash := update db.entryHash type t }

/-- `ctc_sai_db_entry_property_add`. -/
def entryPropertyAdd (lchip : WbChip) (key : ApiKey) (property : δ) : Status × HashDbs δ :=
  match g lchip with
  | none => (.uninitialized, g)
  | some db =>
    let k := (entryMappingKey m g key).2
    let t := db.entryHash k.entryType
    if (t.lookup k).isSome then (.itemAlreadyExists, g)
    else (.success, update g lchip (some (db.setEntries k.entryType (t.insert k property))))

/-- `ctc_sai_db_entry_property_remove`. -/
def entryPropertyRemove (lchip : WbChip) (key : ApiKey) : Status × HashDbs δ :=
  match g lchip with
  | none => (.uninitialized, g)
  | some db =>
    let k := (entryMappingKey m g key).2
    let t := db.entryHash k.entryType
    if (t.lookup k).isSome then
      (.success, update g lchip (some (db.setEntries k.entryType (t.erase k))))
    else (.itemNotFound, g)

/-- The get function of an entry: the chip is that of its switch id.  That of
neighbors refuses the records made only for next hops. -/
def getEntry (neighborExists : δ → Bool) (key : ApiKey) : Option δ :=
  (key.switchId?.bind (oidGetLchip g)).bind fun lchip =>
    match key with
    | .neighbor _ => (entryPropertyGet m g lchip key).filter neighborExists
    | _ => entryPropertyGet m g lchip key

end CtcSai
