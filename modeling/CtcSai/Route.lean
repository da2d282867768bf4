/-
# `Route` — ctc_sai_route.c

A route entry is the key of a route: there is no object id.  Two functions
encode it, `_ctc_sai_db_entry_mapping_key` for the entry database and
`_ctc_sai_route_mapping_ipuc_key` for the SDK, and each reads the bytes of the
caller's address in its own way.  An address is kept here as the four words
the caller's union holds, so that both readings can be compared.

The database is that of the chip the `switch_id` of the entry names.
-/
import CtcSai.Bulk
import CtcSai.Counter

namespace CtcSai

open KeyedTable

/-! ## Addresses as they stand in memory -/

/-- `sai_ip_addr_t`: the words of the union; `ip4` is the first. -/
structure IpWords where
  w0 : BitVec 32
  w1 : BitVec 32
  w2 : BitVec 32
  w3 : BitVec 32
deriving DecidableEq, Repr

def IpWords.zero : IpWords := ⟨0, 0, 0, 0⟩

def IpWords.map (f : BitVec 32 → BitVec 32) (a : IpWords) : IpWords :=
  ⟨f a.w0, f a.w1, f a.w2, f a.w3⟩

/-- The bitwise conjunction of two addresses. -/
def IpWords.and (a b : IpWords) : IpWords :=
  ⟨a.w0 &&& b.w0, a.w1 &&& b.w1, a.w2 &&& b.w2, a.w3 &&& b.w3⟩

/-- `sal_ntohl` of a little-endian host: the bytes the other way round. -/
def ntohl (w : BitVec 32) : BitVec 32 :=
  w.extractLsb' 0 8 ++ w.extractLsb' 8 8 ++ w.extractLsb' 16 8 ++ w.extractLsb' 24 8

/-- `CTC_SAI_NTOH_V6`. -/
def ntohV6 (a : IpWords) : IpWords := a.map ntohl

@[simp] theorem ntohl_ntohl (w : BitVec 32) : ntohl (ntohl w) = w := by
  apply BitVec.eq_of_getLsbD_eq
  simp only [ntohl, BitVec.getLsbD_append, BitVec.getLsbD_extractLsb']
  grind

@[simp] theorem ntohl_zero : ntohl 0#32 = 0#32 := by decide

theorem ntohl_and (a b : BitVec 32) : ntohl (a &&& b) = ntohl a &&& ntohl b := by
  simp only [ntohl]
  grind

@[simp] theorem ntohV6_ntohV6 (a : IpWords) : ntohV6 (ntohV6 a) = a := by
  simp [ntohV6, IpWords.map]

theorem ntohV6_and (a b : IpWords) : ntohV6 (a.and b) = (ntohV6 a).and (ntohV6 b) := by
  simp [ntohV6, IpWords.map, IpWords.and, ntohl_and]

theorem ntohV6_inj {a b : IpWords} : ntohV6 a = ntohV6 b ↔ a = b := by
  constructor
  · intro h
    have h2 := congrArg ntohV6 h
    simpa using h2
  · intro h
    rw [h]

/-- The word of a mask of `len` bits, most significant bit first. -/
def maskWord (len : Nat) : BitVec 32 := BitVec.allOnes 32 <<< (32 - len)

/-- The words of a mask of `len` bits in host order. -/
def maskV6 (len : Nat) : IpWords :=
  ⟨maskWord len, maskWord (len - 32), maskWord (len - 64), maskWord (len - 96)⟩

/-- `IPV4_MASK_TO_LEN` and `IPV6_MASK_TO_LEN`, which the SDK's headers define:
what they are for is known of contiguous masks. -/
structure MaskToLen where
  v4 : BitVec 32 → BitVec 8
  v6 : IpWords → BitVec 8
  v4_maskWord : ∀ len, len ≤ 32 → v4 (maskWord len) = BitVec.ofNat 8 len
  v6_maskV6 : ∀ len, len ≤ 128 → v6 (maskV6 len) = BitVec.ofNat 8 len

/-! ## The entry and its two keys -/

/-- `sai_ip_prefix_t`. -/
structure IpPrefix where
  addrFamily : IpFamily
  addr : IpWords
  mask : IpWords
deriving DecidableEq, Repr

/-- `sai_route_entry_t`. -/
structure RouteEntry where
  switchId : Oid
  vrId : Oid
  destination : IpPrefix
deriving DecidableEq, Repr

/-- `ctc_sai_route_key_t`; of an IPv4 address only the first word is copied. -/
structure RouteKey where
  vrfId : BitVec 16
  maskLen : BitVec 8
  ipVer : IpFamily
  addr : IpWords
deriving DecidableEq, Repr

/-- `vrf_id`, `ip_ver`, `ip` and `masklen` of a `ctc_ipuc_param_t`. -/
structure IpucKey where
  vrfId : BitVec 16
  ipVer : IpFamily
  ip : IpWords
  masklen : BitVec 8
deriving DecidableEq, Repr

/-- `ctc_sai_oid_get_vrf_id`: without an id its status is INVALID_OBJECT_ID. -/
def oidGetVrfId (oid : Oid) : Option (BitVec 16) :=
  if oid.type = ObjectType.virtualRouter.bits then some (oid.value.setWidth 16) else none

/-- `_ctc_sai_db_entry_mapping_key` of a route entry, on a zeroed key. -/
def mappingRouteKey (m : MaskToLen) (e : RouteEntry) : RouteKey :=
  let mask := ntohV6 e.destination.mask
  let vrfId := e.vrId.value.setWidth 16
  match e.destination.addrFamily with
  | .ipv4 => ⟨vrfId, m.v4 mask.w0, .ipv4, { IpWords.zero with w0 := e.destination.addr.w0 }⟩
  | .ipv6 => ⟨vrfId, m.v6 mask, .ipv6, e.destination.addr⟩

/-- `_ctc_sai_route_mapping_ipuc_key`, on zeroed parameters; the status of
`ctc_sai_oid_get_vrf_id` is not looked at. -/
def mappingIpucKey (m : MaskToLen) (e : RouteEntry) : IpucKey :=
  let mask := ntohV6 e.destination.mask
  ⟨(oidGetVrfId e.vrId).getD 0, e.destination.addrFamily, ntohV6 e.destination.addr,
    match e.destination.addrFamily with
    | .ipv4 => m.v4 mask.w0
    | .ipv6 => m.v6 mask⟩

/-- What the SDK's table is keyed by: the host bits are masked off, and of an
IPv4 address the first word is read. -/
def IpucKey.tableKey (k : IpucKey) : IpucKey :=
  match k.ipVer with
  | .ipv4 => { k with ip := { IpWords.zero with w0 := k.ip.w0 &&& maskWord k.masklen.toNat } }
  | .ipv6 => { k with ip := k.ip.and (maskV6 k.masklen.toNat) }

/-! ## The records -/

/-- `ctc_sai_route_t`. -/
structure RouteInfo where
  action : PacketAction
  nhObjId : Oid
  cid : BitVec 16
  counterObjId : Oid
deriving DecidableEq, Repr

/-- What `ctc_ipuc_param_t` says of a route beside its key; each flag is one
of `route_flag`. -/
structure IpucInfo where
  nhId : BitVec 32
  cid : BitVec 16
  statsId : Nat
  protocolEntry : Bool
  ttlCheck : Bool
  cpu : Bool
  statsEn : Bool
deriving DecidableEq, Repr

def IpucInfo.zero : IpucInfo := ⟨0, 0, 0, false, false, false, false⟩

/-- CTC_NH_RESERVED_NHID_FOR_DROP. -/
def nhidForDrop : BitVec 32 := 1

/-- CTC_NH_RESERVED_NHID_FOR_TOCPU. -/
def nhidForTocpu : BitVec 32 := 2

inductive RouteAttr where
  | packetAction (action : PacketAction)
  | userTrapId (oid : Oid)
  | nextHopId (oid : Oid)
  | metaData (data : BitVec 32)
  | ipAddrFamily (family : IpFamily)
  | counterId (oid : Oid)
deriving DecidableEq, Repr

def RouteAttr.packetAction? : RouteAttr → Option PacketAction
  | packetAction a => some a
  | _ => none

def RouteAttr.nextHopId? : RouteAttr → Option Oid
  | nextHopId o => some o
  | _ => none

def RouteAttr.metaData? : RouteAttr → Option (BitVec 32)
  | metaData d => some d
  | _ => none

def RouteAttr.counterId? : RouteAttr → Option Oid
  | counterId o => some o
  | _ => none

/-- CTC_SAI_META_DATA_SAI_TO_CTC, cut to the `cid`. -/
def metaDataSaiToCtc (data : BitVec 32) : BitVec 16 := (data + 1).setWidth 16

/-- What the SDK and the memory answer during one call on a route. -/
structure RouteSdk extends Sdk where
  ipucAdd : CtcE
  ipucRemove : CtcE
  ipucGet : CtcE
  routeMem : Bool

/-- The SDK that does all it is asked. -/
def RouteSdk.ok : RouteSdk := ⟨.ok, .none, .none, .none, true⟩

/-- The routes of a chip, the SDK's table of routes, and the counters. -/
structure RouteDb (ch : Chip) where
  routes : Table RouteKey RouteInfo
  ipuc : Table IpucKey IpucInfo
  /-- `route_cnt` of the switch. -/
  routeCnt : IpFamily → BitVec 32
  counters : CounterDb ch

/-! ## Actions -/

/-- The actions a next hop is looked up for. -/
def PacketAction.forwards : PacketAction → Bool
  | .forward | .copy | .log | .transit => true
  | _ => false

/-- The next hop of an action, and whether it is the CPU's (ip2me); `none` is
an object that is none. -/
def mappingNexthop (action : PacketAction) (nhObjId : Oid) : Option (BitVec 32 × Bool) :=
  if !action.forwards then some (0, false)
  else if nhObjId = Oid.null then some (nhidForDrop, false)
  else
    match oidGetNexthopId nhObjId with
    | some id => some (id, false)
    | none =>
      if nhObjId.type = ObjectType.port.bits ∨ nhObjId.type = ObjectType.routerInterface.bits then
        some (nhidForTocpu, true)
      else none

/-- The next hop and the CPU flag of an action; `none` is one not supported. -/
def mappingAction (action : PacketAction) (nhId : BitVec 32) : Option (BitVec 32 × Bool) :=
  match action with
  | .drop | .deny => some (nhidForDrop, false)
  | .copy | .log => some (nhId, true)
  | .trap => some (nhidForDrop, true)
  | .forward | .transit => some (nhId, false)
  | .copyCancel => none

section Calls

variable {ch : Chip} (m : MaskToLen) (sdk : RouteSdk)

/-- The statistics of a route: a counter without any gets some. -/
def mappingRouteStats (counters : CounterDb ch) (counterObjId : Oid) :
    Status × Option Nat × CounterDb ch :=
  if counterObjId = Oid.null then
    let r := counterIdRemove sdk.toSdk counters counterObjId
    (r.1, none, r.2)
  else
    match counters.table.lookup counterObjId with
    | none => (.itemNotFound, none, counters)
    | some c =>
      let r := if c.ctcSaiCounterType = .max then
        counterIdCreate sdk.toSdk counters counterObjId .route else (.success, 0, counters)
      match r.1 with
      | .success =>
        match r.2.2.table.lookup counterObjId with
        | none => (.itemNotFound, none, r.2.2)
        | some c =>
          if c.ctcSaiCounterType = .route then (.success, some c.statsId, r.2.2)
          else (.invalidParameter, none, r.2.2)
      | status => (status, none, r.2.2)

/-- `_ctc_sai_route_mapping_ipuc_action` on the parameters `info`. -/
def mappingIpucAction (counters : CounterDb ch) (info : IpucInfo) (r : RouteInfo) :
    Status × IpucInfo × CounterDb ch :=
  match mappingNexthop r.action r.nhObjId with
  | none => (.notSupported, info, counters)
  | some (nhId, ip2me) =>
    match mappingAction r.action nhId with
    | none => (.notSupported, info, counters)
    | some (nhId, cpu) =>
      match mappingRouteStats sdk counters r.counterObjId with
      | (.success, stats, counters) => (.success, { info with
          nhId := nhId
          cid := r.cid
          protocolEntry := info.protocolEntry || ip2me
          ttlCheck := true
          cpu := cpu
          statsId := stats.getD 0
          statsEn := stats.isSome }, counters)
      | (status, _, counters) => (status, info, counters)

/-- `_ctc_sai_route_build_db`: the status, and the table with the record. -/
def routeBuildDb (routes : Table RouteKey RouteInfo) (k : RouteKey) (r : RouteInfo) :
    Status × Table RouteKey RouteInfo :=
  if (routes.lookup k).isSome then (.itemAlreadyExists, routes)
  else if !sdk.routeMem then (.noMemory, routes)
  else if !sdk.mem .entryNode then (.noMemory, routes)
  else (.success, routes.insert k r)

/-- `_ctc_sai_route_create_route`. -/
def routeCreate (db : RouteDb ch) (e : RouteEntry) (attrs : List RouteAttr) :
    Status × RouteDb ch :=
  if (db.routes.lookup (mappingRouteKey m e)).isSome then (.itemAlreadyExists, db)
  else
    let action := (findAttribInList RouteAttr.packetAction? attrs).getD .forward
    let nhObjId := (findAttribInList RouteAttr.nextHopId? attrs).getD Oid.null
    if action.forwards && decide (nhObjId = Oid.null) then (.invalidParameter, db)
    else
      let r : RouteInfo := ⟨action, nhObjId,
        ((findAttribInList RouteAttr.metaData? attrs).map metaDataSaiToCtc).getD 0,
        (findAttribInList RouteAttr.counterId? attrs).getD Oid.null⟩
      match mappingIpucAction sdk db.counters .zero r with
      | (.success, info, counters) =>
        let db := { db with counters := counters }
        match mappingErrorCtc sdk.ipucAdd with
        | .success =>
          let key := (mappingIpucKey m e).tableKey
          let db := { db with ipuc := db.ipuc.insert key info }
          match routeBuildDb sdk db.routes (mappingRouteKey m e) r with
          | (.success, routes) => (.success, { db with routes := routes })
          -- the statistics of the counter stay
          | (status, _) =>
            (status, if sdk.ipucRemove = .none then { db with ipuc := db.ipuc.erase key } else db)
        | status => (status, db)
      | (status, _, counters) => (status, { db with counters := counters })

/-- `_ctc_sai_route_remove_route`. -/
def routeRemove (db : RouteDb ch) (e : RouteEntry) : Status × RouteDb ch :=
  match db.routes.lookup (mappingRouteKey m e) with
  | none => (.itemNotFound, db)
  | some r =>
    match mappingIpucAction sdk db.counters .zero r with
    | (.success, _, counters) =>
      let db := { db with counters := counters }
      match mappingErrorCtc sdk.ipucRemove with
      | .success =>
        let db := { db with ipuc := db.ipuc.erase (mappingIpucKey m e).tableKey }
        match counterIdRemove sdk.toSdk db.counters r.counterObjId with
        | (.success, counters) => (.success, { db with
            routes := db.routes.erase (mappingRouteKey m e)
            counters := counters })
        -- the record is left without its route
        | (status, counters) => (status, { db with counters := counters })
      | status => (status, db)
    | (status, _, counters) => (status, { db with counters := counters })

/-- `ctcs_ipuc_get`: the parameters of the route with this key. -/
def ipucGet (ipuc : Table IpucKey IpucInfo) (k : IpucKey) : Except CtcE IpucInfo :=
  if sdk.ipucGet ≠ .none then .error sdk.ipucGet
  else
    match ipuc.lookup k with
    | none => .error .notExist
    | some info => .ok info

/-- The record with an attribute written to it; `none` is one not supported. -/
def RouteInfo.setAttr (r : RouteInfo) : RouteAttr → Option RouteInfo
  | .packetAction a => some { r with action := a }
  | .nextHopId o => some { r with nhObjId := o }
  | .metaData d => some { r with cid := metaDataSaiToCtc d }
  | .counterId o => some { r with counterObjId := o }
  | .userTrapId _ | .ipAddrFamily _ => none

/-- `_ctc_sai_route_set_attr`; the SDK's code of `ctcs_ipuc_get` is returned
as it is. -/
def routeSetAttr (db : RouteDb ch) (e : RouteEntry) (attr : RouteAttr) : Status × RouteDb ch :=
  match db.routes.lookup (mappingRouteKey m e) with
  | none => (.itemNotFound, db)
  | some r =>
    let key := (mappingIpucKey m e).tableKey
    match ipucGet sdk db.ipuc key with
    | .error code => (.ctc code, db)
    | .ok info =>
      match r.setAttr attr with
      | none => (.notSupported, db)
      | some r' =>
        -- of all attributes only COUNTER_ID tells the two records' counters apart
        let removed := if r.counterObjId ≠ Oid.null ∧ r.counterObjId ≠ r'.counterObjId then
          counterIdRemove sdk.toSdk db.counters r.counterObjId else (.success, db.counters)
        match removed.1 with
        | .success =>
          match mappingIpucAction sdk removed.2 info r' with
          | (.success, info, counters) =>
            match mappingErrorCtc sdk.ipucAdd with
            | .success => (.success, { db with
                routes := db.routes.insert (mappingRouteKey m e) r'
                ipuc := db.ipuc.insert key info
                counters := counters })
            | status => (status, { db with counters := counters })
          | (status, _, counters) => (status, { db with counters := counters })
        | status => (status, { db with counters := removed.2 })

/-- `_ctc_sai_route_set_route_attr`: the address family has no set function. -/
def setRouteAttr (db : RouteDb ch) (e : RouteEntry) (attr : RouteAttr) : Status × RouteDb ch :=
  match attr with
  | .ipAddrFamily _ => (.invalidAttribute 0, db)
  | attr => routeSetAttr m sdk db e attr

/-! ## The calls of the API -/

/-- `route_cnt` of a family changed by one. -/
def RouteDb.count (db : RouteDb ch) (e : RouteEntry) (d : BitVec 32) : RouteDb ch :=
  let family := e.destination.addrFamily
  { db with routeCnt := Function.update db.routeCnt family (db.routeCnt family + d) }

/-- `ctc_sai_route_create_route`. -/
def createRoute (db : RouteDb ch) (e : RouteEntry) (attrs : List RouteAttr) :
    Status × RouteDb ch :=
  match routeCreate m sdk db e attrs with
  | (.success, db) => (.success, db.count e 1)
  | (status, db) => (status, db)

/-- `ctc_sai_route_remove_route`. -/
def removeRoute (db : RouteDb ch) (e : RouteEntry) : Status × RouteDb ch :=
  match routeRemove m sdk db e with
  | (.success, db) => (.success, db.count e (-1))
  | (status, db) => (status, db)

end Calls

/-- `ctc_sai_route_bulk_create_route`. -/
def bulkCreateRoute {ch : Chip} (m : MaskToLen) (db : RouteDb ch) (mode : BulkOpErrorMode)
    (objects : List (RouteSdk × RouteEntry × List RouteAttr)) :
    Option (List (Status × Unit) × RouteDb ch) :=
  bulkLoop (fun db o =>
    let r := createRoute m o.1 db o.2.1 o.2.2
    some (r.1, (), r.2)) mode db objects

/-- `ctc_sai_route_bulk_remove_route`. -/
def bulkRemoveRoute {ch : Chip} (m : MaskToLen) (db : RouteDb ch) (mode : BulkOpErrorMode)
    (objects : List (RouteSdk × RouteEntry)) : Option (List (Status × Unit) × RouteDb ch) :=
  bulkLoop (fun db o =>
    let r := removeRoute m o.1 db o.2
    some (r.1, (), r.2)) mode db objects

/-- `ctc_sai_route_bulk_set_route_attr`. -/
def bulkSetRouteAttr {ch : Chip} (m : MaskToLen) (db : RouteDb ch) (mode : BulkOpErrorMode)
    (objects : List (RouteSdk × RouteEntry × RouteAttr)) :
    Option (List (Status × Unit) × RouteDb ch) :=
  bulkLoop (fun db o =>
    let r := setRouteAttr m o.1 db o.2.1 o.2.2
    some (r.1, (), r.2)) mode db objects

end CtcSai
