/-
# `NatEntries` — ctc_sai_nat.c

A NAT entry is the key of its own record: there is no object id.  For source NAT
the SDK keeps a table of its own, for destination NAT a route whose next hop the
adapter makes under an id of the NEXTHOP allocator; both tables are kept here
beside the records, each under the part of the entry that the adapter hands to
the SDK.  Addresses of an entry and of its attributes stand in network order.

The lookups in the tables of other modules are what one call is answered.  All
entries are those of one chip.
-/
import CtcSai.EntryKeys

namespace CtcSai

open KeyedTable IdPool

/-! ## Data -/

/-- `sai_nat_type_t`. -/
inductive NatType where
  | none | sourceNat | destinationNat | doubleNat | destinationNatPool
deriving DecidableEq, Repr

/-- `sai_nat_entry_attr_t`, the attributes the adapter knows. -/
inductive NatAttrId where
  | natType | srcIp | srcIpMask | vrId | dstIp | dstIpMask | l4SrcPort | l4DstPort
  | enablePacketCount | packetCount | enableByteCount | byteCount | hitBitCor | hitBit
  | customDnatReroute
deriving DecidableEq, Repr

/-- An attribute with its value; values nothing reads are left out. -/
inductive NatAttr where
  | natType (type : NatType)
  | srcIp (ip4 : BitVec 32)
  | srcIpMask (ip4 : BitVec 32)
  | vrId
  | dstIp (ip4 : BitVec 32)
  | dstIpMask (ip4 : BitVec 32)
  | l4SrcPort (u16 : BitVec 16)
  | l4DstPort (u16 : BitVec 16)
  | enablePacketCount | packetCount | enableByteCount | byteCount | hitBitCor
  | hitBit (booldata : Bool)
  | customDnatReroute (booldata : Bool)
deriving DecidableEq, Repr

def NatAttr.id : NatAttr → NatAttrId
  | .natType _ => .natType
  | .srcIp _ => .srcIp
  | .srcIpMask _ => .srcIpMask
  | .vrId => .vrId
  | .dstIp _ => .dstIp
  | .dstIpMask _ => .dstIpMask
  | .l4SrcPort _ => .l4SrcPort
  | .l4DstPort _ => .l4DstPort
  | .enablePacketCount => .enablePacketCount
  | .packetCount => .packetCount
  | .enableByteCount => .enableByteCount
  | .byteCount => .byteCount
  | .hitBitCor => .hitBitCor
  | .hitBit _ => .hitBit
  | .customDnatReroute _ => .customDnatReroute

def NatAttr.natType? : NatAttr → Option NatType
  | .natType t => some t
  | _ => Option.none

def NatAttr.srcIp? : NatAttr → Option (BitVec 32)
  | .srcIp a => some a
  | _ => Option.none

def NatAttr.srcIpMask? : NatAttr → Option (BitVec 32)
  | .srcIpMask a => some a
  | _ => Option.none

def NatAttr.dstIp? : NatAttr → Option (BitVec 32)
  | .dstIp a => some a
  | _ => Option.none

def NatAttr.dstIpMask? : NatAttr → Option (BitVec 32)
  | .dstIpMask a => some a
  | _ => Option.none

def NatAttr.l4SrcPort? : NatAttr → Option (BitVec 16)
  | .l4SrcPort p => some p
  | _ => Option.none

def NatAttr.l4DstPort? : NatAttr → Option (BitVec 16)
  | .l4DstPort p => some p
  | _ => Option.none

def NatAttr.customDnatReroute? : NatAttr → Option Bool
  | .customDnatReroute b => some b
  | _ => Option.none

/-- `ctc_sai_nat_t`. -/
structure NatInfo where
  natType : NatType
  nhId : Nat
  dnatReroute : Bool
  newIpsa : BitVec 32
  newL4SrcPort : BitVec 16
deriving DecidableEq, Repr

/-- The key of a `ctc_ipuc_nat_sa_param_t`; the flag is
CTC_IPUC_NAT_FLAG_USE_TCP_PORT. -/
structure NatSaKey where
  vrfId : BitVec 16
  ipsa : BitVec 32
  l4SrcPort : BitVec 16
  useTcpPort : Bool
deriving DecidableEq, Repr

/-- The edit of a `ctc_ipuc_nat_sa_param_t`. -/
structure NatSaEdit where
  newIpsa : BitVec 32
  newL4SrcPort : BitVec 16
deriving DecidableEq, Repr

/-- The key of a `ctc_ipuc_param_t` of a NAT route. -/
structure NatDaKey where
  vrfId : BitVec 16
  ip : BitVec 32
  masklen : BitVec 8
  l4DstPort : BitVec 16
  isTcpPort : Bool
deriving DecidableEq, Repr

/-- `ctc_ip_tunnel_nh_param_t`, the fields a NAT next hop fills; the two flags are
NAT_REPLACE_IP and REROUTE_WITH_TUNNEL_HDR. -/
structure NatNhParam where
  ipDa : BitVec 32
  l4DstPort : BitVec 16
  natReplaceIp : Bool
  rerouteWithTunnelHdr : Bool
  oifGport : BitVec 32
  oifVid : BitVec 16
  mac : Mac
deriving DecidableEq, Repr

/-- The parameter of a next hop that nothing has been written to. -/
def NatNhParam.zero : NatNhParam := ⟨0, 0, false, false, 0, 0, 0⟩

/-- The indices of `nat_cnt`: CTC_SAI_CNT_DNAT and CTC_SAI_CNT_SNAT. -/
inductive NatCnt where
  | dnat | snat
deriving DecidableEq, Repr

/-- What one call is answered: by the SDK, by memory, and by the tables of the
other modules. -/
structure NatSdk where
  ipucAddNatSa : CtcE
  ipucRemoveNatSa : CtcE
  ipucAdd : CtcE
  ipucRemove : CtcE
  nhAddIpTunnel : CtcE
  nhRemoveIpTunnel : CtcE
  natMem : Bool
  entryMem : Bool
  /-- `ctc_sai_db_get_object_property` finds the virtual router. -/
  objectExists : Oid → Bool
  /-- `nh_obj_id` of a route, by router, address and mask. -/
  route : Oid → BitVec 32 → BitVec 32 → Option Oid
  /-- `rif_id` of a next hop. -/
  nextHopRif : Oid → Option Oid
  rif : Oid → Option RouterInterface
  /-- `dest_mac` of a neighbor, by interface and address. -/
  neighborMac : Oid → BitVec 32 → Option Mac

variable {ch : Chip}

/-- The records, and what the adapter and the SDK keep for them. -/
structure NatDb (ch : Chip) where
  entries : Table NatKey NatInfo
  nexthop : Pool ch.nexthop
  /-- `nat_cnt` of the switch master. -/
  natCnt : NatCnt → BitVec 32
  /-- The SDK's source-NAT entries. -/
  natSa : Table NatSaKey NatSaEdit
  /-- The SDK's NAT routes, each with its next hop. -/
  natDa : Table NatDaKey Nat
  /-- The SDK's IP-tunnel next hops for NAT. -/
  tunnels : Table Nat NatNhParam

/-- `_ctc_sai_db_entry_mapping_key` of a NAT entry. -/
def natKey (e : NatEntry) : NatKey := ⟨e.vrId.value.setWidth 16, e.key⟩

/-! ## Mapping an entry to the SDK -/

/-- The key part of `_ctc_sai_nat_map_natsa_key`, on zeroed parameters. -/
def natSaKey (e : NatEntry) : Option NatSaKey :=
  (oidGetVrfId e.vrId).map fun vrfId =>
    ⟨vrfId, ntohl e.key.srcIp, e.key.l4SrcPort, e.key.proto = 6⟩

/-- The edit part of `_ctc_sai_nat_map_natsa_key`. -/
def natSaEdit (attrs : List NatAttr) : NatSaEdit where
  newIpsa :=
    let newIpsa := ((findAttribInList NatAttr.srcIp? attrs).map ntohl).getD 0
    match findAttribInList NatAttr.srcIpMask? attrs with
    | some mask => newIpsa &&& ntohl mask
    | none => newIpsa
  newL4SrcPort := (findAttribInList NatAttr.l4SrcPort? attrs).getD 0

/-- The key part of `_ctc_sai_nat_map_natda_key`, on zeroed parameters. -/
def natDaKey (m : MaskToLen) (e : NatEntry) : Option NatDaKey :=
  (oidGetVrfId e.vrId).map fun vrfId =>
    ⟨vrfId, ntohl e.key.dstIp, m.v4 (ntohl e.mask.dstIp), e.key.l4DstPort, e.key.proto = 6⟩

/-- `oif` of the next hop on an interface. -/
def natOif (rif : Oid) (ri : RouterInterface) : BitVec 32 × BitVec 16 :=
  if rif.subType = RifType.port.bits then (ri.gport, 0)
  else if rif.subType = RifType.vlan.bits ∨ rif.subType = RifType.subPort.bits then
    (ri.gport, ri.vlan)
  else (0, 0)

/-- The edit part of `_ctc_sai_nat_map_natda_key`: the parameter of the next hop, or the
status of the lookup that fails. -/
def natNhParam (sdk : NatSdk) (e : NatEntry) (attrs : List NatAttr) :
    Except Status NatNhParam :=
  match findAttribInList NatAttr.dstIp? attrs with
  | none => .error .invalidParameter
  | some rerouteIpv4 =>
    let mask? := findAttribInList NatAttr.dstIpMask? attrs
    let ipmask := ntohl (mask?.getD e.mask.dstIp)
    let param : NatNhParam := { NatNhParam.zero with
      ipDa := if mask?.isSome then ntohl rerouteIpv4 &&& ipmask else ntohl rerouteIpv4
      natReplaceIp := true
      l4DstPort := (findAttribInList NatAttr.l4DstPort? attrs).getD 0 }
    if (findAttribInList NatAttr.customDnatReroute? attrs).getD false then
      .ok { param with rerouteWithTunnelHdr := true }
    else
      match sdk.route e.vrId rerouteIpv4 (ntohl ipmask) with
      | none => .error .itemNotFound
      | some nhObjId =>
        match sdk.nextHopRif nhObjId with
        | none => .error .itemNotFound
        | some rif =>
          match sdk.rif rif with
          | none => .error .itemNotFound
          | some ri =>
            match sdk.neighborMac rif rerouteIpv4 with
            | none => .error .itemNotFound
            | some mac => .ok { param with
                oifGport := (natOif rif ri).1
                oifVid := (natOif rif ri).2
                mac := mac }

/-! ## Creating an entry -/

/-- The index of the first attribute of the list with one of these ids, the ids
tried in turn. -/
def natAttrIndex (ids : List NatAttrId) (attrs : List NatAttr) : Option Nat :=
  ids.findSome? fun id => attrs.findIdx? fun a => a.id = id

/-- SAI_NAT_ENTRY_ATTR_NAT_TYPE of the list. -/
def natTypeOf (attrs : List NatAttr) : NatType :=
  (findAttribInList NatAttr.natType? attrs).getD .none

/-- The attributes that an entry of a type does not take. -/
def NatType.refused : NatType → List NatAttrId
  | .sourceNat => [.dstIp, .dstIpMask]
  | .destinationNat => [.srcIp, .srcIpMask]
  | _ => []

/-- The attributes that no entry takes. -/
def natUnsupported : List NatAttrId :=
  [.vrId, .enablePacketCount, .packetCount, .enableByteCount, .byteCount, .hitBitCor]

def NatTuple.full : NatTuple := ⟨0xFFFFFFFF, 0xFFFFFFFF, 0xFF, 0xFFFF, 0xFFFF⟩

/-- `_ctc_sai_nat_entry_create_attr_check`. -/
def natEntryCreateAttrCheck (sdk : NatSdk) (e : NatEntry) (attrs : List NatAttr) : Status :=
  if natTypeOf attrs = .doubleNat ∨ natTypeOf attrs = .destinationNatPool then
    .attrNotSupported ((natAttrIndex [.natType] attrs).getD 0)
  else
    match natAttrIndex (natTypeOf attrs).refused attrs with
    | some index => .invalidAttribute index
    | none =>
      match natAttrIndex natUnsupported attrs with
      | some index => .attrNotSupported index
      | none =>
        if !sdk.objectExists e.vrId then .invalidObjectId
        else if e.mask ≠ .full then .notSupported
        else .success

section Calls

variable (m : MaskToLen) (sdk : NatSdk)

/-- `_ctc_sai_nat_build_db`, and the fields that `create` writes to the record. -/
def natBuildDb (db : NatDb ch) (k : NatKey) (r : NatInfo) : Status × NatDb ch :=
  if (db.entries.lookup k).isSome then (.itemAlreadyExists, db)
  else if !sdk.natMem then (.noMemory, db)
  else if !sdk.entryMem then (.noMemory, db)
  else (.success, { db with entries := db.entries.insert k r })

def natInfoOf (attrs : List NatAttr) (nhId : Nat) : NatInfo where
  natType := natTypeOf attrs
  nhId := nhId
  dnatReroute := (findAttribInList NatAttr.customDnatReroute? attrs).getD false
  newIpsa := if natTypeOf attrs = .sourceNat then (natSaEdit attrs).newIpsa else 0
  newL4SrcPort := if natTypeOf attrs = .sourceNat then (natSaEdit attrs).newL4SrcPort else 0

/-- The SOURCE_NAT branch of `_ctc_sai_create_nat_entry`. -/
def createSourceNat (db : NatDb ch) (e : NatEntry) (attrs : List NatAttr) :
    Status × NatDb ch :=
  match natSaKey e with
  | none => (.invalidObjectId, db)
  | some key =>
    match mappingErrorCtc sdk.ipucAddNatSa with
    | .success => natBuildDb sdk { db with natSa := db.natSa.insert key (natSaEdit attrs) }
        (natKey e) (natInfoOf attrs 0)
    | status => (status, db)

/-- The DESTINATION_NAT branch: nothing is given back on its error paths. -/
def createDestinationNat (db : NatDb ch) (e : NatEntry) (attrs : List NatAttr) :
    Status × NatDb ch :=
  match natDaKey m e with
  | none => (.invalidObjectId, db)
  | some key =>
    match db.nexthop.alloc with
    | none => (.insufficientResources, db)
    | some (nhId, pool) =>
      let db := { db with nexthop := pool }
      match natNhParam sdk e attrs with
      | .error status => (status, db)
      | .ok param =>
        match mappingErrorCtc sdk.nhAddIpTunnel with
        | .success =>
          let db := { db with tunnels := db.tunnels.insert nhId param }
          match mappingErrorCtc sdk.ipucAdd with
          | .success => natBuildDb sdk { db with natDa := db.natDa.insert key nhId }
              (natKey e) (natInfoOf attrs nhId)
          | status => (status, db)
        | status => (status, db)

/-- `_ctc_sai_create_nat_entry`. -/
def natCreateEntry (db : NatDb ch) (e : NatEntry) (attrs : List NatAttr) : Status × NatDb ch :=
  match natEntryCreateAttrCheck sdk e attrs with
  | .success =>
    if (db.entries.lookup (natKey e)).isSome then (.itemAlreadyExists, db)
    else
      match natTypeOf attrs with
      | .sourceNat => createSourceNat sdk db e attrs
      | .destinationNat => createDestinationNat m sdk db e attrs
      | _ => natBuildDb sdk db (natKey e) (natInfoOf attrs 0)
  | status => (status, db)

/-! ## Removing an entry -/

/-- The SOURCE_NAT branch of `_ctc_sai_nat_remove_nat_entry`. -/
def removeSourceNat (db : NatDb ch) (e : NatEntry) : Status × NatDb ch :=
  match natSaKey e with
  | none => (.invalidObjectId, db)
  | some key =>
    match mappingErrorCtc sdk.ipucRemoveNatSa with
    | .success => (.success, { db with natSa := db.natSa.erase key })
    | status => (status, db)

/-- The DESTINATION_NAT branch: the next hop goes before the route, its id stays. -/
def removeDestinationNat (db : NatDb ch) (e : NatEntry) (nhId : Nat) : Status × NatDb ch :=
  match natDaKey m e with
  | none => (.invalidObjectId, db)
  | some key =>
    match mappingErrorCtc sdk.nhRemoveIpTunnel with
    | .success =>
      let db := { db with tunnels := db.tunnels.erase nhId }
      match mappingErrorCtc sdk.ipucRemove with
      | .success => (.success, { db with natDa := db.natDa.erase key })
      | status => (status, db)
    | status => (status, db)

/-- `_ctc_sai_nat_remove_nat_entry`. -/
def natRemoveEntry (db : NatDb ch) (e : NatEntry) : Status × NatDb ch :=
  match db.entries.lookup (natKey e) with
  | none => (.itemNotFound, db)
  | some r =>
    let freed := match r.natType with
      | .sourceNat => removeSourceNat sdk db e
      | .destinationNat => removeDestinationNat m sdk db e r.nhId
      | _ => (.success, db)
    match freed with
    | (.success, db) => (.success, { db with entries := db.entries.erase (natKey e) })
    | (status, db) => (status, db)

/-- The record of an entry goes, or stays where the removal failed. -/
theorem natRemoveEntry_ends {P : NatDb ch → Prop} (freed : Status × NatDb ch) (hkept : P freed.2)
    (hgone : P { freed.2 with entries := freed.2.entries.erase (natKey e) }) :
    P (match freed with
      | (.success, db) =>
        ((.success, { db with entries := db.entries.erase (natKey e) }) : Status × NatDb ch)
      | (status, db) => (status, db)).2 := by
  split
  · exact hgone
  · exact hkept

/-! ## The calls of the API -/

/-- The counter of a type, if it has one. -/
def NatType.cnt? : NatType → Option NatCnt
  | .sourceNat => some .snat
  | .destinationNat => some .dnat
  | _ => Option.none

/-- `nat_cnt` of a type changed by `d`. -/
def NatDb.count (db : NatDb ch) (type : NatType) (d : BitVec 32) : NatDb ch :=
  match type.cnt? with
  | some i => { db with natCnt := Function.update db.natCnt i (db.natCnt i + d) }
  | none => db

/-- `ctc_sai_nat_create_nat_entry`: the type counted is the one in the record. -/
def createNatEntry (db : NatDb ch) (e : NatEntry) (attrs : List NatAttr) : Status × NatDb ch :=
  match natCreateEntry m sdk db e attrs with
  | (.success, db) =>
    (.success, db.count (((db.entries.lookup (natKey e)).map NatInfo.natType).getD .none) 1)
  | (status, db) => (status, db)

/-- `ctc_sai_nat_remove_nat_entry`; it reads the record before it looks whether there is
one: `none` is the NULL pointer. -/
def removeNatEntry (db : NatDb ch) (e : NatEntry) : Option (Status × NatDb ch) :=
  match db.entries.lookup (natKey e) with
  | none => none
  | some r =>
    some (match natRemoveEntry m sdk db e with
      | (.success, db) => (.success, db.count r.natType (-1))
      | (status, db) => (status, db))

end Calls

/-- The status a bulk call returns: that of the element it stops at. -/
def natBulkStatus (mode : BulkOpErrorMode) (results : List (Status × Unit)) : Status :=
  match mode with
  | .stopOnError => ((results.find? fun r => r.1 ≠ .success).map Prod.fst).getD .success
  | .ignoreError => .success

variable (m : MaskToLen)

/-- One element of `ctc_sai_nat_bulk_create_nat_entry`. -/
def natBulkCreateOne (db : NatDb ch) (a : NatSdk × NatEntry × List NatAttr) :
    Option (Status × Unit × NatDb ch) :=
  let r := natCreateEntry m a.1 db a.2.1 a.2.2
  some (r.1, (), r.2)

/-- One element of `ctc_sai_nat_bulk_remove_nat_entry`. -/
def natBulkRemoveOne (db : NatDb ch) (a : NatSdk × NatEntry) :
    Option (Status × Unit × NatDb ch) :=
  let r := natRemoveEntry m a.1 db a.2
  some (r.1, (), r.2)

/-- The calls that create and remove NAT entries. -/
inductive NatCall where
  | create (sdk : NatSdk) (e : NatEntry) (attrs : List NatAttr)
  | remove (sdk : NatSdk) (e : NatEntry)
  | bulkCreate (mode : BulkOpErrorMode) (objects : List (NatSdk × NatEntry × List NatAttr))
  | bulkRemove (mode : BulkOpErrorMode) (objects : List (NatSdk × NatEntry))

/-- A call: the status it returns, `object_statuses` of a bulk call, and the database. -/
def natCall (db : NatDb ch) : NatCall → Option (Status × List (Status × Unit) × NatDb ch)
  | .create sdk e attrs =>
    let r := createNatEntry m sdk db e attrs
    some (r.1, [], r.2)
  | .remove sdk e => (removeNatEntry m sdk db e).map fun r => (r.1, [], r.2)
  | .bulkCreate mode objects => (bulkLoop (natBulkCreateOne m) mode db objects).map fun r =>
    (natBulkStatus mode r.1, r.1, r.2)
  | .bulkRemove mode objects => (bulkLoop (natBulkRemoveOne m) mode db objects).map fun r =>
    (natBulkStatus mode r.1, r.1, r.2)

def natStep (db : NatDb ch) (a : NatCall) : Option (NatDb ch) := (natCall m db a).map (·.2.2)

end CtcSai
