/-
# `Neighbor` — ctc_sai_neighbor.c

One table of NEIGHBOR records serves two masters: neighbors created through
the neighbor API, and next hops of type IP, which take the record of their
interface and address (creating it when there is none).  A record is worked
on together with the two id pools it draws from (`NeighborCtx`), which is
what the C code does through its pointer into the table.
-/
import CtcSai.Chip

namespace CtcSai

open IdPool KeyedTable

/-! ## Data -/

/-- `ctc_sai_neighbor_key_t`. -/
structure NeighborKey where
  l3ifId : BitVec 16
  saiRifType : BitVec 3
  ip : IpAddress
deriving DecidableEq, Repr

/-- `_ctc_sai_db_entry_mapping_key` of a neighbor entry. -/
def neighborKey (rif : Oid) (ip : IpAddress) : NeighborKey :=
  ⟨rif.value.setWidth 16, rif.subType, ip⟩

/-- The interface id rebuilt from a key. -/
def NeighborKey.rif (lchip : BitVec 8) (k : NeighborKey) : Oid :=
  createObjectId .routerInterface lchip (k.saiRifType.setWidth 8) 0 (k.l3ifId.setWidth 32)

/-- `ctc_sai_neighbor_t`. -/
structure Neighbor where
  destMac : Mac
  action : PacketAction
  refCnt : Nat
  nhId : Nat
  gport : BitVec 32
  arpId : Nat
  noHostRoute : Bool
  neighborExists : Bool
  nhList : List Oid
deriving DecidableEq, Repr

/-- The record `_ctc_sai_neighbor_build_db` puts into the table. -/
def Neighbor.new (byNextHop : Bool) : Neighbor :=
  { destMac := 0, action := .drop, refCnt := 0, nhId := 0, gport := 0, arpId := 0,
    noHostRoute := false, neighborExists := !byNextHop, nhList := [] }

/-- The neighbor attributes `create` and `set` read. -/
inductive NeighborAttr where
  | dstMacAddress (mac : Mac)
  | packetAction (action : PacketAction)
  | noHostRoute (booldata : Bool)
  | userTrapId | metaData | counterId
deriving DecidableEq, Repr

def NeighborAttr.dstMacAddress? : NeighborAttr → Option Mac
  | .dstMacAddress m => some m
  | _ => none

def NeighborAttr.packetAction? : NeighborAttr → Option PacketAction
  | .packetAction a => some a
  | _ => none

def NeighborAttr.noHostRoute? : NeighborAttr → Option Bool
  | .noHostRoute b => some b
  | _ => none

variable {ch : Chip}

/-- A record and the pools it draws ids from. -/
structure NeighborCtx (ch : Chip) where
  p : Neighbor
  arp : Pool ch.arp
  nexthop : Pool ch.nexthop

/-- The neighbor side of the database of one chip. -/
structure NeighborDb (ch : Chip) where
  table : Table NeighborKey Neighbor
  arp : Pool ch.arp
  nexthop : Pool ch.nexthop
  /-- `neighbor_cnt` of the switch master. -/
  neighborCnt : IpFamily → BitVec 32

namespace NeighborDb

def empty (ch : Chip) : NeighborDb ch := ⟨∅, .empty _, .empty _, fun _ => 0⟩

/-- The record `p` with the pools of the database. -/
def ctx (db : NeighborDb ch) (p : Neighbor) : NeighborCtx ch := ⟨p, db.arp, db.nexthop⟩

/-- Write a worked-on record and its pools back. -/
def put (db : NeighborDb ch) (k : NeighborKey) (w : NeighborCtx ch) : NeighborDb ch :=
  { db with table := db.table.insert k w.p, arp := w.arp, nexthop := w.nexthop }

end NeighborDb

/-! ## ARP entries -/

section Hardware

variable (sdk : Sdk) (rif : Oid)

/-- `_ctc_sai_neighbor_lookup_fdb`. -/
def neighborLookupFdb (ri : RouterInterface) (mac : Mac) : Option (BitVec 32 × BitVec 16) :=
  match sdk.l2GetFdbEntry ri.fid mac with
  | none => none
  | some l2 => if l2.isLogicPort then sdk.bridgePortInfo ri.fid l2.gport else some (l2.gport, 0)

/-- The `switch` over the packet action in `_ctc_sai_neighbor_add_arp_entry`:
redirect to CPU and discard, or nothing for an action it does not support. -/
def arpActionFlags : PacketAction → Option (Bool × Bool)
  | .copy | .trap => some (true, false)
  | .drop | .deny => some (false, true)
  | .transit | .forward => some (false, false)
  | .copyCancel | .log => none

/-- The parameter `_ctc_sai_neighbor_add_arp_entry` hands to the SDK. -/
def nexthopMacParam (ri : RouterInterface) (p : Neighbor) (flags : Bool × Bool) :
    NexthopMacParam :=
  let fdb := neighborLookupFdb sdk ri p.destMac
  let isVlan : Bool := rif.subType = RifType.vlan.bits
  let isSubPort : Bool := rif.subType = RifType.subPort.bits
  { mac := p.destMac
    gport := if isVlan then (fdb.map Prod.fst).getD 0xFFFF else ri.gport
    vlanId := if isVlan || isSubPort then ri.vlan else 0
    vlanValid := isVlan || isSubPort
    redirectToCpu := flags.1 || (isVlan && fdb.isNone)
    discard := flags.2 }

/-- The ARP id of a record, allocated when it has none; the flag is `is_add`. -/
def neighborAllocArp (w : NeighborCtx ch) : Option (Bool × NeighborCtx ch) :=
  if w.p.arpId = 0 then
    w.arp.alloc.map fun (arpId, arp) =>
      (true, { w with p := { w.p with arpId := arpId }, arp := arp })
  else some (false, w)

/-- Label `error1` of `_ctc_sai_neighbor_add_arp_entry`: the id goes back, the
record keeps its number. -/
def addArpError1 (isAdd : Bool) (status : Status) (w : NeighborCtx ch) :
    Status × Bool × NeighborCtx ch :=
  (status, isAdd, if isAdd then { w with arp := w.arp.free w.p.arpId } else w)

/-- `_ctc_sai_neighbor_add_arp_entry`; the flag is `*p_is_add`, which only the
error path writes. -/
def neighborAddArpEntry (w : NeighborCtx ch) : Status × Bool × NeighborCtx ch :=
  match neighborAllocArp w with
  | none => (.insufficientResources, false, w)
  | some (isAdd, w) =>
    match ch.rif rif with
    | none => addArpError1 isAdd .itemNotFound w
    | some ri =>
      match arpActionFlags w.p.action with
      | none => addArpError1 isAdd .notSupported w
      | some flags =>
        let param := nexthopMacParam sdk rif ri w.p flags
        let w := { w with p := { w.p with gport := param.gport } }
        let call := if isAdd then SdkCall.nhAddNexthopMac w.p.arpId param
          else SdkCall.nhUpdateNexthopMac w.p.arpId param
        let status := mappingErrorCtc (sdk.rc call)
        if status = .success then (.success, false, w) else addArpError1 isAdd status w

/-- `_ctc_sai_neighbor_remove_arp_entry`. -/
def neighborRemoveArpEntry (w : NeighborCtx ch) : Status × NeighborCtx ch :=
  let status := mappingErrorCtc (sdk.rc (.nhRemoveNexthopMac w.p.arpId))
  if status = .success then
    (.success, { w with p := { w.p with arpId := 0 }, arp := w.arp.free w.p.arpId })
  else (status, w)

/-! ## Next hops of a record -/

variable (ch) in
/-- The parameter `_ctc_sai_neighbor_add_ipuc_nexthop` hands to the SDK. -/
def ipNhParam (ri : RouterInterface) (p : Neighbor) : IpNhParam :=
  if ch.chipType = .goldengate ∨ ch.chipType = .greatbelt then
    { mac := p.destMac
      vid := ri.vlan
      gport := if p.action = .trap ∨ p.action = .copy then ch.cpuGport else p.gport
      isL2Port := p.action = .trap ∨ p.action = .copy
      arpId := if p.action = .drop ∨ p.action = .deny then p.arpId else 0 }
  else { mac := 0, vid := 0, gport := 0, isL2Port := false, arpId := p.arpId }

/-- `_ctc_sai_neighbor_add_ipuc_nexthop`; its failure after the allocation
frees the record's (still zero) id, not the one just allocated. -/
def neighborAddIpucNexthop (ri : RouterInterface) (w : NeighborCtx ch) :
    Status × NeighborCtx ch :=
  let param := ipNhParam ch ri w.p
  if w.p.nhId = 0 then
    match w.nexthop.alloc with
    | none => (.insufficientResources, w)
    | some (nhId, pool) =>
      let status := mappingErrorCtc (sdk.rc (.nhAddIpuc nhId param))
      if status = .success then
        (.success, { w with p := { w.p with nhId := nhId }, nexthop := pool })
      else (status, { w with nexthop := pool.free w.p.nhId })
  else (mappingErrorCtc (sdk.rc (.nhUpdateIpuc w.p.nhId param)), w)

/-- `_ctc_sai_neighbor_remove_ipuc_nexthop`. -/
def neighborRemoveIpucNexthop (w : NeighborCtx ch) : Status × NeighborCtx ch :=
  if w.p.nhId = 0 then (.success, w)
  else
    let status := mappingErrorCtc (sdk.rc (.nhRemoveIpuc w.p.nhId))
    if status = .success then
      (.success, { w with p := { w.p with nhId := 0 }, nexthop := w.nexthop.free w.p.nhId })
    else (status, w)

variable (ch) in
/-- The parameter of the flexible-edit next hop on a bridge interface. -/
def miscNhParam (ri : RouterInterface) (p : Neighbor) (family : IpFamily) : MiscNhParam :=
  let fdb := neighborLookupFdb sdk ri p.destMac
  let gport := if p.action = .trap then ch.cpuGport else (fdb.map Prod.fst).getD ch.cpuGport
  let toCpu := ch.isCpuPort gport
  { gport := gport
    vid := ri.fid
    isOif := !toCpu
    macDa := if toCpu then 0 else p.destMac
    macSa := if toCpu then 0 else ri.srcMac
    newSvid := if toCpu then 0 else (fdb.map Prod.snd).getD 0
    ipv4 := !toCpu && decide (family = .ipv4) }

/-- The bridge branch of `_ctc_sai_neighbor_add_nexthop`.  An action it does
not support only sets a status that the next call overwrites. -/
def neighborAddMiscNexthop (ri : RouterInterface) (w : NeighborCtx ch) (family : IpFamily) :
    Status × NeighborCtx ch :=
  let param := miscNhParam ch sdk ri w.p family
  if w.p.nhId = 0 then
    match w.nexthop.alloc with
    | none => (.insufficientResources, w)
    | some (nhId, pool) =>
      let status := mappingErrorCtc (sdk.rc (.nhAddMisc nhId param))
      if status = .success then
        (.success, { w with p := { w.p with nhId := nhId }, nexthop := pool })
      else (status, { w with nexthop := pool.free nhId })
  else (mappingErrorCtc (sdk.rc (.nhUpdateMisc w.p.nhId param)), w)

/-- `_ctc_sai_neighbor_add_nexthop`. -/
def neighborAddNexthop (w : NeighborCtx ch) (family : IpFamily) : Status × NeighborCtx ch :=
  match ch.rif rif with
  | none => (.itemNotFound, w)
  | some ri =>
    if isBridgeRif rif then neighborAddMiscNexthop sdk ri w family
    else
      match neighborAddArpEntry sdk rif w with
      | (.success, isAdd, w) =>
        match neighborAddIpucNexthop sdk ri w with
        | (.success, w) => (.success, w)
        -- error1: the flag is only set on the ARP error path, so nothing is undone
        | (status, w) => (status, if isAdd then (neighborRemoveArpEntry sdk w).2 else w)
      | (status, _, w) => (status, w)

/-- `_ctc_sai_neighbor_remove_nexthop`. -/
def neighborRemoveNexthop (w : NeighborCtx ch) : Status × NeighborCtx ch :=
  match ch.rif rif with
  | none => (.itemNotFound, w)
  | some _ =>
    if isBridgeRif rif then
      (.success, { w with p := { w.p with nhId := 0 }, nexthop := w.nexthop.free w.p.nhId })
    else
      (.success, (neighborRemoveArpEntry sdk (neighborRemoveIpucNexthop sdk w).2).2)

/-- The parameter of `_ctc_sai_neighbor_add_host_route` and its removal. -/
def hostRouteParam (ri : RouterInterface) (ip : IpAddress) (p : Neighbor) : HostRouteParam :=
  ⟨ri.vrfId, ip, p.nhId⟩

variable (ch) in
/-- `_ctc_sai_neighbor_add_host_route`. -/
def neighborAddHostRoute (ip : IpAddress) (p : Neighbor) : Status :=
  if p.nhId = 0 then .failure
  else
    match ch.rif rif with
    | none => .itemNotFound
    | some ri => mappingErrorCtc (sdk.rc (.ipucAdd (hostRouteParam ri ip p)))

variable (ch) in
/-- `_ctc_sai_neighbor_remove_host_route`. -/
def neighborRemoveHostRoute (ip : IpAddress) (p : Neighbor) : Status :=
  match ch.rif rif with
  | none => .itemNotFound
  | some ri => mappingErrorCtc (sdk.rc (.ipucRemove (hostRouteParam ri ip p)))

end Hardware

/-! ## The shared record -/

/-- `ctc_sai_db_entry_property_add` of a record whose key is not in the table. -/
def neighborPropertyAdd (sdk : Sdk) (db : NeighborDb ch) (k : NeighborKey) (p : Neighbor) :
    Status × NeighborDb ch :=
  if sdk.mem .entryNode then (.success, { db with table := db.table.insert k p })
  else (.noMemory, db)

/-- `_ctc_sai_neighbor_build_db`: the status, the record found or made, and the
database. -/
def neighborBuildDb (sdk : Sdk) (db : NeighborDb ch) (k : NeighborKey) (byNextHop : Bool) :
    Status × Neighbor × NeighborDb ch :=
  match db.table.lookup k with
  | some p =>
    if p.neighborExists && !byNextHop then (.itemAlreadyExists, p, db)
    else if byNextHop then (.success, p, db)
    else
      let p := { p with neighborExists := true }
      (.success, p, { db with table := db.table.insert k p })
  | none =>
    let p := Neighbor.new byNextHop
    if sdk.mem .neighbor then
      match neighborPropertyAdd sdk db k p with
      | (status, db) => (status, p, db)
    else (.noMemory, p, db)

/-- `_ctc_sai_neighbor_remove_db`. -/
def neighborRemoveDb (db : NeighborDb ch) (k : NeighborKey) (byNextHop : Bool) :
    Status × NeighborDb ch :=
  match db.table.lookup k with
  | none => (.itemNotFound, db)
  | some p =>
    if !p.neighborExists && !byNextHop then (.itemNotFound, db)
    else
      let p := if byNextHop then p else { p with neighborExists := false }
      if p.refCnt ≤ 1 then (.success, { db with table := db.table.erase k })
      else (.success, { db with table := db.table.insert k { p with refCnt := p.refCnt - 1 } })

/-- `ctc_sai_neighbor_get_arp_id`. -/
def neighborGetArpId (db : NeighborDb ch) (rif : Oid) (ip : IpAddress) : Option Nat :=
  (db.table.lookup (neighborKey rif ip)).map Neighbor.arpId

/-- `ctc_sai_neighbor_alloc_ipuc_nexthop`: the status, `*nh_id`, the database. -/
def neighborAllocIpucNexthop (sdk : Sdk) (db : NeighborDb ch) (rif : Oid) (ip : IpAddress) :
    Status × Nat × NeighborDb ch :=
  let k := neighborKey rif ip
  match neighborBuildDb sdk db k true with
  | (.success, p, db) =>
    -- not created by the neighbor module: obey the miss action of the interface
    let miss := if p.refCnt = 0 then (ch.rif rif).map (·.neighborMissAction) else some p.action
    match miss with
    | none => (.itemNotFound, 0, (neighborRemoveDb db k true).2)
    | some action =>
      match neighborAddNexthop sdk rif (db.ctx { p with action := action }) ip.addrFamily with
      | (.success, w) =>
        (.success, w.p.nhId, db.put k { w with p := { w.p with refCnt := w.p.refCnt + 1 } })
      | (status, w) => (status, 0, (neighborRemoveDb (db.put k w) k true).2)
  | (status, _, db) => (status, 0, db)

/-- `ctc_sai_neighbor_free_ipuc_nexthop`. -/
def neighborFreeIpucNexthop (sdk : Sdk) (db : NeighborDb ch) (rif : Oid) (ip : IpAddress)
    (nhId : Nat) : Status × NeighborDb ch :=
  let k := neighborKey rif ip
  match db.table.lookup k with
  | none => (.itemNotFound, db)
  | some p =>
    if p.nhId ≠ nhId then (.invalidParameter, db)
    else if p.refCnt = 1 then
      let w := (neighborRemoveNexthop sdk rif (db.ctx p)).2
      (.success, (neighborRemoveDb (db.put k w) k true).2)
    else (.success, { db with table := db.table.insert k { p with refCnt := p.refCnt - 1 } })

/-- `ctc_sai_neighbor_binding_next_hop`. -/
def neighborBindingNextHop (sdk : Sdk) (db : NeighborDb ch) (rif : Oid) (ip : IpAddress)
    (nextHopId : Oid) : Status × NeighborDb ch :=
  let k := neighborKey rif ip
  if ch.chipType = .duet2 then (.success, db)
  else
    match db.table.lookup k with
    | none => (.itemNotFound, db)
    | some p =>
      if nextHopId ∈ p.nhList then (.success, db)
      else if sdk.mem .neighborNhNode then
        (.success, { db with table := db.table.insert k { p with nhList := p.nhList ++ [nextHopId] } })
      else (.noMemory, { db with table := db.table.insert k { p with nhList := [] } })

/-- `ctc_sai_neighbor_unbinding_next_hop`. -/
def neighborUnbindingNextHop (db : NeighborDb ch) (rif : Oid) (ip : IpAddress)
    (nextHopId : Oid) : Status × NeighborDb ch :=
  let k := neighborKey rif ip
  if ch.chipType = .duet2 then (.success, db)
  else
    match db.table.lookup k with
    | none => (.itemNotFound, db)
    | some p =>
      (.success, { db with table := db.table.insert k { p with nhList := p.nhList.erase nextHopId } })

/-! ## The neighbor API -/

/-- Labels `error1` of `ctc_sai_neighbor_create_neighbor`. -/
def createNeighborError1 (status : Status) (db : NeighborDb ch) (k : NeighborKey) :
    Status × NeighborDb ch :=
  (status, (neighborRemoveDb db k false).2)

/-- The record after the attributes that `create` reads before the next hop. -/
def createNeighborFill (p : Neighbor) (mac : Mac) (attrs : List NeighborAttr) : Neighbor :=
  { p with
    destMac := mac
    action := (findAttribInList NeighborAttr.packetAction? attrs).getD .forward }

/-- `no_host_route` once the NO_HOST_ROUTE attribute is read. -/
def createNoHostRoute (attrs : List NeighborAttr) (p : Neighbor) : Bool :=
  (findAttribInList NeighborAttr.noHostRoute? attrs).getD p.noHostRoute

variable (ch) in
/-- The status after the host route: when none is added, it is still that of
the search for NO_HOST_ROUTE. -/
def createHostRoute (sdk : Sdk) (rif : Oid) (ip : IpAddress) (attrs : List NeighborAttr)
    (p : Neighbor) : Status :=
  if p.noHostRoute then
    if (findAttribInList NeighborAttr.noHostRoute? attrs).isSome then .success else .itemNotFound
  else neighborAddHostRoute ch sdk rif ip p

/-- The end of `ctc_sai_neighbor_create_neighbor`, once the next hop is there:
the host route, the reference and the counter. -/
def createNeighborFinish (sdk : Sdk) (db : NeighborDb ch) (rif : Oid) (ip : IpAddress)
    (attrs : List NeighborAttr) (w : NeighborCtx ch) : Status × NeighborDb ch :=
  let k := neighborKey rif ip
  let p := { w.p with noHostRoute := createNoHostRoute attrs w.p }
  let status := createHostRoute ch sdk rif ip attrs p
  if p.noHostRoute = false ∧ status ≠ .success then
    -- error2
    let w := (neighborRemoveNexthop sdk rif { w with p := p }).2
    createNeighborError1 status (db.put k w) k
  else
    let db := db.put k { w with p := { p with refCnt := p.refCnt + 1 } }
    (status, { db with
      neighborCnt := Function.update db.neighborCnt ip.addrFamily
        (db.neighborCnt ip.addrFamily + 1) })

/-- `ctc_sai_neighbor_create_neighbor`. -/
def createNeighbor (sdk : Sdk) (db : NeighborDb ch) (rif : Oid) (ip : IpAddress)
    (attrs : List NeighborAttr) : Status × NeighborDb ch :=
  let k := neighborKey rif ip
  match neighborBuildDb sdk db k false with
  | (.success, p, db) =>
    match findAttribInList NeighborAttr.dstMacAddress? attrs with
    | none => createNeighborError1 .mandatoryAttributeMissing db k
    | some mac =>
      match neighborAddNexthop sdk rif (db.ctx (createNeighborFill p mac attrs)) ip.addrFamily with
      | (.success, w) => createNeighborFinish sdk db rif ip attrs w
      | (status, w) => createNeighborError1 status (db.put k w) k
  | (status, _, db) => (status, db)

/-- The next hop of a record whose neighbor goes: removed with the last
reference, else set back to the miss action of the interface. -/
def neighborRelease (sdk : Sdk) (db : NeighborDb ch) (rif : Oid) (ip : IpAddress)
    (p : Neighbor) : NeighborCtx ch :=
  if p.refCnt ≤ 1 then (neighborRemoveNexthop sdk rif (db.ctx p)).2
  else
    let action := ((ch.rif rif).map (·.neighborMissAction)).getD p.action
    (neighborAddNexthop sdk rif (db.ctx { p with action := action, destMac := 0 })
      ip.addrFamily).2

/-- `_ctc_sai_neighbor_remove_neighbor`. -/
def neighborRemoveNeighbor (sdk : Sdk) (db : NeighborDb ch) (rif : Oid) (ip : IpAddress) :
    Status × NeighborDb ch :=
  let k := neighborKey rif ip
  match db.table.lookup k with
  | none => (.itemNotFound, db)
  | some p =>
    if !p.neighborExists then (.itemNotFound, db)
    else
      (.success, (neighborRemoveDb (db.put k (neighborRelease sdk db rif ip p)) k false).2)

/-- One subtraction on `neighbor_cnt`. -/
def neighborCntDec (db : NeighborDb ch) (f : IpFamily) : NeighborDb ch :=
  { db with neighborCnt := Function.update db.neighborCnt f (db.neighborCnt f - 1) }

/-- `ctc_sai_neighbor_remove_neighbor`. -/
def removeNeighbor (sdk : Sdk) (db : NeighborDb ch) (rif : Oid) (ip : IpAddress) :
    Status × NeighborDb ch :=
  match neighborRemoveNeighbor sdk db rif ip with
  | (.success, db) => (.success, neighborCntDec db ip.addrFamily)
  | (status, db) => (status, db)

/-- `_ctc_sai_neighbor_hash_traverse_fun` at `CTC_SAI_NEIGHBOR_REMOVE_ALL`. -/
def removeAllStep (sdk : Sdk) (db : NeighborDb ch) (k : NeighborKey) : NeighborDb ch :=
  neighborCntDec (neighborRemoveNeighbor sdk db (k.rif ch.lchip) k.ip).2 k.ip.addrFamily

/-- `ctc_sai_neighbor_remove_all_neighbor`: the traversal visits every record
that is in the table when it starts. -/
def removeAllNeighbor (sdk : Sdk) (db : NeighborDb ch) : Status × NeighborDb ch :=
  (.success, db.table.keys.foldl (removeAllStep sdk) db)

/-- The attributes of `neighbor_attr_fn_entries` that have a set function. -/
def NeighborAttr.settable : NeighborAttr → Bool
  | .dstMacAddress _ | .packetAction _ | .noHostRoute _ => true
  | .userTrapId | .metaData | .counterId => false

/-- Program hardware with the changed record `p`, or put `old` back. -/
def setNeighborReprogram (sdk : Sdk) (db : NeighborDb ch) (rif : Oid) (ip : IpAddress)
    (old p : Neighbor) : Status × NeighborDb ch :=
  match neighborAddNexthop sdk rif (db.ctx p) ip.addrFamily with
  | (.success, w) => (.success, db.put (neighborKey rif ip) w)
  | (status, w) => (status, db.put (neighborKey rif ip) { w with p := old })

variable (ch) in
/-- The NO_HOST_ROUTE branch of `_ctc_sai_neighbor_set_attr`: its SDK call. -/
def setNeighborHostRoute (sdk : Sdk) (rif : Oid) (ip : IpAddress) (p : Neighbor) (b : Bool) :
    Status :=
  if b && !p.noHostRoute then neighborRemoveHostRoute ch sdk rif ip p
  else if !b && p.noHostRoute then neighborAddHostRoute ch sdk rif ip p
  else .success

/-- `_ctc_sai_neighbor_set_attr` on the record it found; the bound next hops
that a new address refreshes are hardware state only. -/
def setNeighborRecord (sdk : Sdk) (db : NeighborDb ch) (rif : Oid) (ip : IpAddress)
    (p : Neighbor) : NeighborAttr → Status × NeighborDb ch
  | .dstMacAddress mac => setNeighborReprogram sdk db rif ip p { p with destMac := mac }
  | .packetAction action => setNeighborReprogram sdk db rif ip p { p with action := action }
  | .noHostRoute b =>
    let status := setNeighborHostRoute ch sdk rif ip p b
    if status = .success then
      let p := { p with noHostRoute := b }
      (.success, { db with table := db.table.insert (neighborKey rif ip) p })
    else (status, db)
  | .userTrapId | .metaData | .counterId => (.notSupported, db)

/-- `ctc_sai_neighbor_set_neighbor_attr`. -/
def setNeighborAttr (sdk : Sdk) (db : NeighborDb ch) (rif : Oid) (ip : IpAddress)
    (attr : NeighborAttr) : Status × NeighborDb ch :=
  if !attr.settable then (.invalidAttribute 0, db)
  else
    match db.table.lookup (neighborKey rif ip) with
    | none => (.itemNotFound, db)
    | some p =>
      if !p.neighborExists then (.itemNotFound, db)
      else setNeighborRecord sdk db rif ip p attr

end CtcSai
