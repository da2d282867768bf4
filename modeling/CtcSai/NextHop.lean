/-
# `NextHop` — ctc_sai_next_hop.c

Next hops of type IP share the neighbor's record; MPLS and tunnel next hops
take an id of their own and, on their own tunnel, an id of the TUNNEL_ID
pool.  An operation returns `none` where the C code dereferences NULL or
reads through a pointer that was never a list.
-/
import CtcSai.Counter
import CtcSai.Neighbor

namespace CtcSai

open IdPool KeyedTable

/-! ## Data -/

/-- `sai_next_hop_type_t`. -/
inductive NextHopType where
  | ip | mpls | tunnelEncap | segmentrouteSidlist | segmentrouteEndpoint
deriving DecidableEq, Repr

/-- The sub-type bits that hold a next-hop type. -/
def NextHopType.bits (t : NextHopType) : BitVec 3 := BitVec.ofNat 3 t.ctorIdx

/-- `sai_tunnel_type_t`. -/
inductive TunnelType where
  | ipinip | ipinipGre | vxlan | mpls | mplsL2
deriving DecidableEq, Repr

/-- `ctc_sai_tunnel_t`, the fields next hops read or write. -/
structure Tunnel where
  tunnelType : TunnelType
  underlayIf : Oid
  encapStatsId : Nat
  encapNhList : List (Nat × IpAddress)
  encapNexthopSai : Oid
deriving DecidableEq, Repr

/-- `ctc_sai_next_hop_t`.  `label` is the pointer of the label list with what
it points to: `none` is NULL, and a list already freed has count zero. -/
structure NextHop where
  rifId : Oid
  ipAddress : IpAddress
  label : Option (List (BitVec 32))
  tunnelId : Oid
  ctcMplsTunnelId : Nat
  destVni : BitVec 32
  tunnelMac : Mac
  counterObjId : Oid
  decapTunnelId : Oid
  nextLevelNexthopId : Oid
deriving DecidableEq, Repr

/-- The record after `sal_memset`. -/
def NextHop.zero : NextHop :=
  { rifId := Oid.null, ipAddress := .zero, label := none, tunnelId := Oid.null,
    ctcMplsTunnelId := 0, destVni := 0, tunnelMac := 0, counterObjId := Oid.null,
    decapTunnelId := Oid.null, nextLevelNexthopId := Oid.null }

/-- `label.count`. -/
def NextHop.labelCount (nh : NextHop) : Nat := (nh.label.getD []).length

/-- The next hop sits on its own tunnel: `0 == next_level_nexthop_id`. -/
def NextHop.ownsTunnel (nh : NextHop) : Bool := nh.nextLevelNexthopId = Oid.null

inductive NextHopAttr where
  | type (t : NextHopType)
  | ip (ipaddr : IpAddress)
  | routerInterfaceId (oid : Oid)
  | tunnelId (oid : Oid)
  | tunnelVni (u32 : BitVec 32)
  | tunnelMac (mac : Mac)
  | segmentrouteSidlistId (oid : Oid)
  | segmentrouteEndpointType | segmentrouteEndpointPopType
  | labelstack (u32list : List (BitVec 32))
  | counterId (oid : Oid)
  | mplsEncapTunnelId (oid : Oid)
  | mplsDecapTunnelId (oid : Oid)
  | nextLevelNextHopId (oid : Oid)
deriving DecidableEq, Repr

namespace NextHopAttr

def type? : NextHopAttr → Option NextHopType
  | type t => some t
  | _ => none

def ip? : NextHopAttr → Option IpAddress
  | ip a => some a
  | _ => none

def routerInterfaceId? : NextHopAttr → Option Oid
  | routerInterfaceId o => some o
  | _ => none

def tunnelId? : NextHopAttr → Option Oid
  | tunnelId o => some o
  | _ => none

def tunnelVni? : NextHopAttr → Option (BitVec 32)
  | tunnelVni v => some v
  | _ => none

def tunnelMac? : NextHopAttr → Option Mac
  | tunnelMac m => some m
  | _ => none

def labelstack? : NextHopAttr → Option (List (BitVec 32))
  | labelstack l => some l
  | _ => none

def counterId? : NextHopAttr → Option Oid
  | counterId o => some o
  | _ => none

def mplsEncapTunnelId? : NextHopAttr → Option Oid
  | mplsEncapTunnelId o => some o
  | _ => none

def nextLevelNextHopId? : NextHopAttr → Option Oid
  | nextLevelNextHopId o => some o
  | _ => none

end NextHopAttr

variable {ch : Chip}

/-- The database of one chip, as far as next hops reach. -/
structure NextHopDb (ch : Chip) where
  nbr : NeighborDb ch
  ctr : CounterDb ch
  tunnels : Table Oid Tunnel
  nextHops : Table Oid NextHop
  tunnelId : Pool ch.tunnelId
  /-- `nexthop_cnt` of the switch master. -/
  nexthopCnt : IpFamily → BitVec 32
  /-- Objects of the types this model does not hold. -/
  others : Oid → Bool
  /-- An API call returned without unlocking the database. -/
  lockLeft : Bool

def NextHopDb.empty (ch : Chip) : NextHopDb ch :=
  { nbr := .empty ch, ctr := .empty ch, tunnels := ∅, nextHops := ∅, tunnelId := .empty _,
    nexthopCnt := fun _ => 0, others := fun _ => false, lockLeft := false }

/-- `ctc_sai_db_get_object_property` finds a record. -/
def NextHopDb.hasObject (db : NextHopDb ch) (o : Oid) : Bool :=
  (ch.rif o).isSome || (db.ctr.table.lookup o).isSome || (db.tunnels.lookup o).isSome ||
    (db.nextHops.lookup o).isSome || db.others o

/-! ## MPLS next hops -/

section Mpls

variable (sdk : Sdk)

/-- The labels `error4`…`error1` of `_ctc_sai_next_hop_add_mpls`: hardware is
undone and the tunnel id, if one was taken, goes back. -/
def addMplsUndo (nh : NextHop) (ctcTunnelId : Nat) (db : NextHopDb ch) : NextHopDb ch :=
  if nh.ownsTunnel then { db with tunnelId := db.tunnelId.free ctcTunnelId } else db

/-- `ctc_sai_counter_id_create` where the C code guards it with a null check. -/
def counterCreateIf (db : NextHopDb ch) (wanted : Bool) (counterId : Oid) (type : CounterType) :
    Status × NextHopDb ch :=
  if wanted && decide (counterId ≠ Oid.null) then
    match counterIdCreate sdk db.ctr counterId type with
    | (status, _, ctr) => (status, { db with ctr := ctr })
  else (.success, db)

theorem counterCreateIf_same (db : NextHopDb ch) (wanted : Bool) (o : Oid) (t : CounterType) :
    ∃ ctr, (counterCreateIf sdk db wanted o t).2 = { db with ctr := ctr } ∧
      Table.SameKeys db.ctr.table ctr.table := by
  unfold counterCreateIf
  split
  · exact ⟨_, rfl, counterIdCreate_keys sdk db.ctr o t⟩
  · exact ⟨db.ctr, rfl, .refl _⟩

/-- The statistics taken before the tunnel label is added: for an empty stack
on its own tunnel, and for one or two labels. -/
def labelStatsEarly (nh : NextHop) (labels : List (BitVec 32)) : Bool × CounterType :=
  match labels.length with
  | 0 => (nh.ownsTunnel, .nexthopMplsLsp)
  | 1 => (true, if nh.ownsTunnel then .nexthopMplsLsp else .nexthopMplsPw)
  | 2 => (true, .nexthopMplsLsp)
  | _ => (false, .nexthopMplsLsp)

variable (ch) in
/-- The statistics of the third label before TSINGMA. -/
def labelStatsLate (labels : List (BitVec 32)) : Bool :=
  decide (labels.length = 3) && !ch.chipType.tsingmaUp

/-- `_ctc_sai_next_hop_add_mpls` from the second statistics on. -/
def addMplsTail (db : NextHopDb ch) (nhId ctcTunnelId : Nat) (labels : List (BitVec 32))
    (nh : NextHop) : Status × NextHop × NextHopDb ch :=
  match counterCreateIf sdk db (labelStatsLate ch labels) nh.counterObjId .nexthopMplsPw with
  | (.success, db) =>
    let status := mappingErrorCtc (sdk.rc (.nhAddMpls nhId))
    if status = .success then
      (.success, { nh with
        label := some labels
        ctcMplsTunnelId := if nh.ownsTunnel then ctcTunnelId else nh.ctcMplsTunnelId }, db)
    else
      -- error4
      let db := { db with ctr := (counterIdRemove sdk db.ctr nh.counterObjId).2 }
      (status, nh, addMplsUndo nh ctcTunnelId db)
  | (status, db) => (status, nh, addMplsUndo nh ctcTunnelId db)

/-- `_ctc_sai_next_hop_add_mpls` from the tunnel label on.  A next level
without a tunnel jumps to `error2` with the status still SUCCESS. -/
def addMplsLabel (db : NextHopDb ch) (nhId ctcTunnelId : Nat) (labels : List (BitVec 32))
    (nh : NextHop) : Option (Status × NextHop × NextHopDb ch) :=
  if nh.ownsTunnel then
    let status := mappingErrorCtc (sdk.rc (.nhAddMplsTunnelLabel ctcTunnelId))
    if status = .success then some (addMplsTail sdk db nhId ctcTunnelId labels nh)
    else some (status, nh, addMplsUndo nh ctcTunnelId db)
  else
    match db.nextHops.lookup nh.nextLevelNexthopId with
    | none => none
    | some nextLevel =>
      if nextLevel.ctcMplsTunnelId = 0 then some (.success, nh, db)
      else some (addMplsTail sdk db nhId ctcTunnelId labels nh)

/-- `_ctc_sai_next_hop_add_mpls` from the label list on.  Under a next level
an empty stack jumps to `error3` with the status still SUCCESS. -/
def addMplsList (db : NextHopDb ch) (nhId ctcTunnelId : Nat) (labels : List (BitVec 32))
    (nh : NextHop) : Option (Status × NextHop × NextHopDb ch) :=
  if sdk.mem .labelList then
    let nh := { nh with label := some [] }
    if !nh.ownsTunnel && labels.isEmpty then some (.success, nh, db)
    else
      let stats := labelStatsEarly nh labels
      match counterCreateIf sdk db stats.1 nh.counterObjId stats.2 with
      | (.success, db) => addMplsLabel sdk db nhId ctcTunnelId labels nh
      | (status, db) => some (status, nh, addMplsUndo nh ctcTunnelId db)
  else some (.noMemory, nh, addMplsUndo nh ctcTunnelId db)

/-- `_ctc_sai_next_hop_add_mpls`: the status, the record, the database. -/
def nextHopAddMpls (db : NextHopDb ch) (nhId : Nat) (labels : List (BitVec 32))
    (nh : NextHop) : Option (Status × NextHop × NextHopDb ch) :=
  if nh.ownsTunnel then
    match neighborGetArpId db.nbr nh.rifId nh.ipAddress, ch.rif nh.rifId with
    | some _, some _ =>
      match db.tunnelId.alloc with
      | none => some (.insufficientResources, nh, db)
      | some (ctcTunnelId, pool) =>
        addMplsList sdk { db with tunnelId := pool } nhId ctcTunnelId labels nh
    | _, _ => some (.itemNotFound, nh, db)
  else if (db.tunnels.lookup nh.tunnelId).isSome then addMplsList sdk db nhId 0 labels nh
  else some (.invalidObjectId, nh, db)

/-- `_ctc_sai_next_hop_remove_mpls`: the tunnel id goes back when the record
has labels. -/
def nextHopRemoveMpls (db : NextHopDb ch) (nh : NextHop) : NextHopDb ch :=
  let db := { db with ctr := (counterIdRemove sdk db.ctr nh.counterObjId).2 }
  if nh.labelCount = 0 then db
  else { db with tunnelId := db.tunnelId.free nh.ctcMplsTunnelId }

end Mpls

/-! ## IP-tunnel next hops -/

section IpTunnel

variable (sdk : Sdk)

/-- The underlay interfaces `ctc_sai_tunnel_map_to_nh_ip_tunnel` supports. -/
def tunnelUnderlayOk (rif : Oid) : Bool :=
  rif.subType = RifType.port.bits || rif.subType = RifType.vlan.bits ||
    rif.subType = RifType.subPort.bits || rif.subType = RifType.loopback.bits

/-- `ctc_sai_tunnel_map_to_nh_ip_tunnel`: new egress statistics for the tunnel
and its list of next hops. -/
def tunnelMapToNhIpTunnel (db : NextHopDb ch) (tunnelId : Oid) (nhId : Nat) (ipDa : IpAddress) :
    Status × NextHopDb ch :=
  match db.tunnels.lookup tunnelId with
  | none => (.invalidObjectId, db)
  | some t =>
    if (ch.rif t.underlayIf).isNone then (.itemNotFound, db)
    else if !tunnelUnderlayOk t.underlayIf then (.notSupported, db)
    else
      let stats := statsCreate sdk db.ctr .tunnelEgs
      let t := if stats.1 = .success then { t with encapStatsId := stats.2.1 } else t
      let t := if t.encapNhList.any (fun e => e.1 = nhId) then t
        else { t with encapNhList := t.encapNhList ++ [(nhId, ipDa)] }
      (.success, { db with ctr := stats.2.2, tunnels := db.tunnels.insert tunnelId t })

/-- `ctc_sai_tunnel_unmap_to_nh_ip_tunnel`. -/
def tunnelUnmapToNhIpTunnel (db : NextHopDb ch) (tunnelId : Oid) (nhId : Nat) :
    Status × NextHopDb ch :=
  match db.tunnels.lookup tunnelId with
  | none => (.invalidObjectId, db)
  | some t =>
    let ctr := if t.encapStatsId = 0 then db.ctr else (statsDestroy sdk db.ctr t.encapStatsId).2
    let t := { t with encapNhList := t.encapNhList.eraseP (fun e => e.1 = nhId) }
    (.success, { db with ctr := ctr, tunnels := db.tunnels.insert tunnelId t })

/-- `_ctc_sai_next_hop_add_ip_tunnel`. -/
def nextHopAddIpTunnel (db : NextHopDb ch) (nhId : Nat) (nh : NextHop) : Status × NextHopDb ch :=
  match tunnelMapToNhIpTunnel sdk db nh.tunnelId nhId nh.ipAddress with
  | (.success, db) =>
    match counterCreateIf sdk db true nh.counterObjId .tunnelEgs with
    | (.success, db) =>
      let status := mappingErrorCtc (sdk.rc (.nhAddIpTunnel nhId))
      if status = .success then (.success, db)
      else (status, { db with ctr := (counterIdRemove sdk db.ctr nh.counterObjId).2 })
    | (status, db) => (status, db)
  | (status, db) => (status, db)

/-- `_ctc_sai_next_hop_remove_ip_tunnel`. -/
def nextHopRemoveIpTunnel (db : NextHopDb ch) (nhId : Nat) (nh : NextHop) : NextHopDb ch :=
  match counterIdRemove sdk db.ctr nh.counterObjId with
  | (.success, ctr) => (tunnelUnmapToNhIpTunnel sdk { db with ctr := ctr } nh.tunnelId nhId).2
  | (_, ctr) => { db with ctr := ctr }

end IpTunnel

/-! ## The checks of `create` -/

/-- An attribute's value read as an object id; `raw` is what the memory of
the other members of the value union reads as. -/
def NextHopAttr.asOid (raw : NextHopAttr → Oid) : NextHopAttr → Oid
  | .routerInterfaceId o | .tunnelId o | .segmentrouteSidlistId o | .counterId o
  | .mplsEncapTunnelId o | .mplsDecapTunnelId o | .nextLevelNextHopId o => o
  | a => raw a

/-- The tunnel part of `_ctc_sai_next_hop_create_attr_check`.  `attr_value`
still points at `stale` when TUNNEL_ID is not given. -/
def createAttrCheckTunnel (raw : NextHopAttr → Oid) (db : NextHopDb ch)
    (attrs : List NextHopAttr) (stale : NextHopAttr) (type : NextHopType) : Status :=
  let seen := (findAttribInList NextHopAttr.tunnelId? attrs).getD (stale.asOid raw)
  if db.hasObject seen then .success
  else
    -- without an encap tunnel the id already looked for is looked for again
    let encap := (findAttribInList NextHopAttr.mplsEncapTunnelId? attrs).getD seen
    match (db.tunnels.lookup encap).map Tunnel.tunnelType, type with
    | none, .tunnelEncap => .mandatoryAttributeMissing
    | none, _ => .success
    | some t, .tunnelEncap => if t = .mplsL2 then .success else .mandatoryAttributeMissing
    | some t, _ => if t = .mpls then .success else .mandatoryAttributeMissing

/-- The counter part of the same check. -/
def createAttrCheckCounter (db : NextHopDb ch) (attrs : List NextHopAttr) : Bool :=
  ((findAttribInList NextHopAttr.counterId? attrs).map db.hasObject).getD true

/-- The object the MPLS branch looks for first: the next level, or else the
router interface. -/
def createAttrCheckMplsObject (attrs : List NextHopAttr) : Option Oid :=
  match findAttribInList NextHopAttr.nextLevelNextHopId? attrs with
  | some o => some o
  | none =>
    match findAttribInList NextHopAttr.ip? attrs with
    | none => none
    | some _ => findAttribInList NextHopAttr.routerInterfaceId? attrs

variable (ch) in
/-- The label stacks the MPLS branch admits. -/
def labelCountOk (labels : List (BitVec 32)) : Bool :=
  decide (labels.length ≤ 10) && (decide (labels.length ≤ 3) || ch.chipType.tsingmaUp)

/-- `_ctc_sai_next_hop_create_attr_check`. -/
def nextHopCreateAttrCheck (raw : NextHopAttr → Oid) (db : NextHopDb ch)
    (attrs : List NextHopAttr) : Status :=
  match findAttribInList NextHopAttr.type? attrs with
  | none => .mandatoryAttributeMissing
  | some .ip =>
    match findAttribInList NextHopAttr.ip? attrs,
      findAttribInList NextHopAttr.routerInterfaceId? attrs with
    | some _, some rif =>
      if !db.hasObject rif then .itemNotFound
      else if (findAttribInList NextHopAttr.counterId? attrs).isSome then .notSupported
      else .success
    | _, _ => .mandatoryAttributeMissing
  | some .mpls =>
    match createAttrCheckMplsObject attrs with
    | none => .mandatoryAttributeMissing
    | some o =>
      if !db.hasObject o then .itemNotFound
      else
        match findAttribInList NextHopAttr.labelstack? attrs with
        | none => .mandatoryAttributeMissing
        | some labels =>
          if !labelCountOk ch labels then .notSupported
          else if !createAttrCheckCounter db attrs then .itemNotFound
          else
            let stale := ((findAttribInList NextHopAttr.counterId? attrs).map
              NextHopAttr.counterId).getD (.labelstack labels)
            createAttrCheckTunnel raw db attrs stale .mpls
  | some .tunnelEncap =>
    match createAttrCheckTunnel raw db attrs (.type .tunnelEncap) .tunnelEncap with
    | .success => if createAttrCheckCounter db attrs then .success else .itemNotFound
    | status => status
  | some .segmentrouteSidlist | some .segmentrouteEndpoint => .notSupported

/-! ## The next-hop API -/

/-- `ctc_sai_db_free_id` of the NEXTHOP pool. -/
def freeNexthop (db : NextHopDb ch) (nhId : Nat) : NextHopDb ch :=
  { db with nbr := { db.nbr with nexthop := db.nbr.nexthop.free nhId } }

/-- One addition to, or subtraction from, `nexthop_cnt`. -/
def nexthopCntAdd (db : NextHopDb ch) (f : IpFamily) (n : BitVec 32) : NextHopDb ch :=
  { db with nexthopCnt := Function.update db.nexthopCnt f (db.nexthopCnt f + n) }

variable (ch) in
def nextHopOid (type : NextHopType) (nhId : Nat) : Oid :=
  createObjectId .nextHop ch.lchip (type.bits.setWidth 8) 0 (BitVec.ofNat 32 nhId)

/-- `ctc_sai_db_add_object_property` of a next hop; the caller turns every
failure into NO_MEMORY. -/
def nextHopAddObject (sdk : Sdk) (db : NextHopDb ch) (oid : Oid) (nh : NextHop) :
    Option (NextHopDb ch) :=
  if (db.nextHops.lookup oid).isNone && sdk.mem .oidNode then
    some { db with nextHops := db.nextHops.insert oid nh }
  else none

/-- The record after IP, ROUTER_INTERFACE_ID and COUNTER_ID. -/
def nextHopFill (attrs : List NextHopAttr) : NextHop :=
  { NextHop.zero with
    ipAddress := (findAttribInList NextHopAttr.ip? attrs).getD .zero
    rifId := (findAttribInList NextHopAttr.routerInterfaceId? attrs).getD Oid.null
    counterObjId := (findAttribInList NextHopAttr.counterId? attrs).getD Oid.null }

/-- The result of `create`: status, `*next_hop_id` if written, database. -/
abbrev CreateResult (ch : Chip) := Status × Option Oid × NextHopDb ch

/-- The IP branch of `ctc_sai_next_hop_create_nh`. -/
def createNhIp (sdk : Sdk) (db : NextHopDb ch) (nh : NextHop) : CreateResult ch :=
  match neighborAllocIpucNexthop sdk db.nbr nh.rifId nh.ipAddress with
  | (.success, nhId, nbr) =>
    let db := { db with nbr := nbr }
    let oid := nextHopOid ch .ip nhId
    match nextHopAddObject sdk db oid nh with
    | some db => (.success, some oid, nexthopCntAdd db nh.ipAddress.addrFamily 1)
    | none =>
      let nbr := (neighborFreeIpucNexthop sdk db.nbr nh.rifId nh.ipAddress nhId).2
      (.noMemory, none, { db with nbr := nbr })
  | (status, _, nbr) => (status, none, { db with nbr := nbr })

/-- The tunnel of an MPLS next hop, and whether it is one of the wrong type. -/
def mplsTunnel (db : NextHopDb ch) (attrs : List NextHopAttr) : Oid × Bool :=
  let given := findAttribInList NextHopAttr.tunnelId? attrs
  match given.bind db.tunnels.lookup with
  | some _ => (given.getD Oid.null, false)
  | none =>
    match findAttribInList NextHopAttr.mplsEncapTunnelId? attrs with
    | none => (given.getD Oid.null, false)
    | some encap =>
      (encap, ((db.tunnels.lookup encap).map fun t => decide (t.tunnelType ≠ .mpls)).getD false)

/-- `error2` of the MPLS branch. -/
def createNhMplsError2 (sdk : Sdk) (status : Status) (db : NextHopDb ch) (nhId : Nat)
    (nh : NextHop) : CreateResult ch :=
  (status, none, freeNexthop (nextHopRemoveMpls sdk db nh) nhId)

/-- The MPLS branch after its tunnel id: label stack, object, binding. -/
def createNhMplsBody (sdk : Sdk) (db : NextHopDb ch) (nhId : Nat) (labels : List (BitVec 32))
    (nh : NextHop) : Option (CreateResult ch) :=
  match nextHopAddMpls sdk db nhId labels nh with
  | none => none
  | some (.success, nh, db) =>
    let oid := nextHopOid ch .mpls nhId
    match nextHopAddObject sdk db oid nh with
    | none => some (createNhMplsError2 sdk .noMemory db nhId nh)
    | some db' =>
      if nh.ownsTunnel then
        match neighborBindingNextHop sdk db'.nbr nh.rifId nh.ipAddress oid with
        | (.success, nbr) => some (.success, some oid, { db' with nbr := nbr })
        | (status, nbr) =>
          -- error3
          let db' := { db' with nbr := nbr, nextHops := db'.nextHops.erase oid }
          some (createNhMplsError2 sdk status db' nhId nh)
      else some (.success, some oid, db')
  | some (status, nh, db) => some (createNhMplsError2 sdk status db nhId nh)

/-- The MPLS branch of `ctc_sai_next_hop_create_nh`. -/
def createNhMpls (sdk : Sdk) (db : NextHopDb ch) (attrs : List NextHopAttr) (nh : NextHop) :
    Option (CreateResult ch) :=
  match db.nbr.nexthop.alloc with
  | none => some (.insufficientResources, none, db)
  | some (nhId, pool) =>
    let db := { db with nbr := { db.nbr with nexthop := pool } }
    let tunnel := mplsTunnel db attrs
    -- returns without unlocking and without giving the id back
    if tunnel.2 then some (.invalidObjectId, none, { db with lockLeft := true })
    else
      let nh := { nh with
        tunnelId := tunnel.1
        nextLevelNexthopId :=
          (findAttribInList NextHopAttr.nextLevelNextHopId? attrs).getD Oid.null }
      match findAttribInList NextHopAttr.labelstack? attrs with
      | none => none
      | some labels => createNhMplsBody sdk db nhId labels nh

/-- `error2` of the TUNNEL_ENCAP branch, whatever the type of the tunnel. -/
def createNhTunnelError2 (sdk : Sdk) (status : Status) (db : NextHopDb ch) (nhId : Nat)
    (nh : NextHop) : CreateResult ch :=
  (status, none, freeNexthop (nextHopRemoveIpTunnel sdk db nhId nh) nhId)

/-- The end of the TUNNEL_ENCAP branch: the object, and its id in the tunnel. -/
def createNhTunnelFinish (sdk : Sdk) (db : NextHopDb ch) (nhId : Nat) (nh : NextHop) :
    CreateResult ch :=
  let oid := nextHopOid ch .tunnelEncap nhId
  match nextHopAddObject sdk db oid nh with
  | none => createNhTunnelError2 sdk .noMemory db nhId nh
  | some db =>
    let tunnels := match db.tunnels.lookup nh.tunnelId with
      | some t => db.tunnels.insert nh.tunnelId { t with encapNexthopSai := oid }
      | none => db.tunnels
    (.success, some oid, { db with tunnels := tunnels })

/-- The TUNNEL_ENCAP branch once its tunnel is known. -/
def createNhTunnelBody (sdk : Sdk) (db : NextHopDb ch) (attrs : List NextHopAttr) (nhId : Nat)
    (tunnel : Tunnel) (nh : NextHop) : Option (CreateResult ch) :=
  if tunnel.tunnelType = .mplsL2 then
    let nh := { nh with nextLevelNexthopId :=
      (findAttribInList NextHopAttr.nextLevelNextHopId? attrs).getD Oid.null }
    match findAttribInList NextHopAttr.labelstack? attrs with
    | none => none
    | some labels =>
      match nextHopAddMpls sdk db nhId labels nh with
      | none => none
      | some (.success, nh, db) => some (createNhTunnelFinish sdk db nhId nh)
      | some (status, nh, db) => some (createNhTunnelError2 sdk status db nhId nh)
  else
    let vni := findAttribInList NextHopAttr.tunnelVni? attrs
    let mac := findAttribInList NextHopAttr.tunnelMac? attrs
    -- the default router MAC is read through a null switch master
    if vni.isSome ∧ mac.isNone then none
    else
      let nh := { nh with
        destVni := vni.getD 0
        tunnelMac := if vni.isSome then mac.getD 0 else 0 }
      match nextHopAddIpTunnel sdk db nhId nh with
      | (.success, db) => some (createNhTunnelFinish sdk db nhId nh)
      | (status, db) => some (createNhTunnelError2 sdk status db nhId nh)

/-- The TUNNEL_ENCAP branch of `ctc_sai_next_hop_create_nh`. -/
def createNhTunnel (raw : NextHopAttr → Oid) (sdk : Sdk) (db : NextHopDb ch)
    (attrs : List NextHopAttr) (nh : NextHop) : Option (CreateResult ch) :=
  match db.nbr.nexthop.alloc with
  | none => some (.insufficientResources, none, db)
  | some (nhId, pool) =>
    let db := { db with nbr := { db.nbr with nexthop := pool } }
    let given := (findAttribInList NextHopAttr.tunnelId? attrs).getD (raw (.type .tunnelEncap))
    match db.tunnels.lookup given with
    | some t => createNhTunnelBody sdk db attrs nhId t { nh with tunnelId := given }
    | none =>
      let encap := (findAttribInList NextHopAttr.mplsEncapTunnelId? attrs).getD given
      match db.tunnels.lookup encap with
      | some t =>
        if t.tunnelType = .mplsL2 then
          createNhTunnelBody sdk db attrs nhId t { nh with tunnelId := encap }
        else some (.invalidObjectId, none, { db with lockLeft := true })
      | none => some (.invalidObjectId, none, { db with lockLeft := true })

/-- An id given as a tunnel that names an object of another type, whose record
the C code would read as a tunnel. -/
def tunnelConfused (raw : NextHopAttr → Oid) (db : NextHopDb ch) (attrs : List NextHopAttr) :
    Bool :=
  let confused (o : Oid) : Bool := db.hasObject o && (db.tunnels.lookup o).isNone
  let encap := findAttribInList NextHopAttr.mplsEncapTunnelId? attrs
  match findAttribInList NextHopAttr.type? attrs, findAttribInList NextHopAttr.tunnelId? attrs with
  | some .tunnelEncap, given =>
    confused (given.getD (raw (.type .tunnelEncap))) || encap.any confused
  | some .mpls, given => given.any confused || encap.any confused
  | _, _ => false

/-- `ctc_sai_next_hop_create_nh`. -/
def createNextHop (raw : NextHopAttr → Oid) (sdk : Sdk) (db : NextHopDb ch)
    (attrs : List NextHopAttr) : Option (CreateResult ch) :=
  match nextHopCreateAttrCheck raw db attrs with
  | .success =>
    if !sdk.mem .nextHop then some (.noMemory, none, db)
    else if tunnelConfused raw db attrs then none
    else
      let nh := nextHopFill attrs
      match findAttribInList NextHopAttr.type? attrs with
      | some .ip => some (createNhIp sdk db nh)
      | some .mpls => createNhMpls sdk db attrs nh
      | some .tunnelEncap => createNhTunnel raw sdk db attrs nh
      | _ => none
  | status => some (status, none, db)

/-- `ctc_sai_next_hop_remove_nh`. -/
def removeNextHop (sdk : Sdk) (db : NextHopDb ch) (nextHopId : Oid) :
    Option (Status × NextHopDb ch) :=
  match db.nextHops.lookup nextHopId with
  | none => some (.itemNotFound, db)
  | some nh =>
    let nhId := nextHopId.value.toNat
    let drop (db : NextHopDb ch) : NextHopDb ch :=
      { db with nextHops := db.nextHops.erase nextHopId }
    if nextHopId.subType = NextHopType.ip.bits then
      let nbr := (neighborFreeIpucNexthop sdk db.nbr nh.rifId nh.ipAddress nhId).2
      some (.success, drop (nexthopCntAdd { db with nbr := nbr } nh.ipAddress.addrFamily (-1)))
    else if nextHopId.subType = NextHopType.mpls.bits then
      let nbr := (neighborUnbindingNextHop db.nbr nh.rifId nh.ipAddress nextHopId).2
      some (.success, drop (freeNexthop (nextHopRemoveMpls sdk { db with nbr := nbr } nh) nhId))
    else if nextHopId.subType = NextHopType.tunnelEncap.bits then
      match db.tunnels.lookup nh.tunnelId with
      | none => none
      | some t =>
        let db := if t.tunnelType = .mplsL2 then nextHopRemoveMpls sdk db nh
          else nextHopRemoveIpTunnel sdk db nhId nh
        some (.success, drop (freeNexthop db nhId))
    else some (.success, drop (freeNexthop db nhId))

/-! ## Reading a next hop -/

/-- `sai_next_hop_attr_t`. -/
inductive NextHopAttrId where
  | type | ip | routerInterfaceId | tunnelId | tunnelVni | tunnelMac
  | segmentrouteSidlistId | segmentrouteEndpointType | segmentrouteEndpointPopType
  | labelstack | counterId | mplsEncapTunnelId | mplsDecapTunnelId | nextLevelNextHopId
deriving DecidableEq, Repr

/-- `sai_attribute_value_t` as a get call on a next hop leaves it; a label
list carries the caller's room in. -/
inductive NextHopValue where
  | untouched
  | s32 (v : BitVec 32)
  | ipaddr (a : IpAddress)
  | oid (o : Oid)
  | u32list (l : AttrList (BitVec 32))
deriving DecidableEq, Repr

/-- `_ctc_sai_next_hop_get_attr`.  The count of a label list is overwritten
before `ctc_sai_fill_object_list` compares with it, and the cases of the two
MPLS tunnels fall through to the next level. -/
def nextHopGetAttr (db : NextHopDb ch) (oid : Oid) (id : NextHopAttrId) (value : NextHopValue)
    (attrIdx : Nat) : Status × NextHopValue :=
  match db.nextHops.lookup oid with
  | none => (.itemNotFound, value)
  | some nh =>
    match id with
    | .type => (.success, .s32 (oid.subType.setWidth 32))
    | .ip => (.success, .ipaddr nh.ipAddress)
    | .routerInterfaceId => (.success, .oid nh.rifId)
    | .tunnelId => (.success, .oid nh.tunnelId)
    | .segmentrouteSidlistId | .segmentrouteEndpointType | .segmentrouteEndpointPopType =>
      (.success, value)
    | .labelstack =>
      let filled := fillObjectList nh.label ⟨nh.labelCount, []⟩
      (filled.1, .u32list filled.2)
    | .counterId => (.success, .oid nh.counterObjId)
    | .mplsEncapTunnelId | .mplsDecapTunnelId | .nextLevelNextHopId =>
      (.success, .oid nh.nextLevelNexthopId)
    | .tunnelVni | .tunnelMac => (.attrNotSupported attrIdx, value)

/-- `next_hop_attr_fn_entries`, the get functions: every attribute but
TUNNEL_VNI and TUNNEL_MAC is listed. -/
def nextHopAttrFnEntries (db : NextHopDb ch) (oid : Oid) :
    NextHopAttrId → Option (Option (NextHopAttrId → NextHopValue → Nat → Status × NextHopValue))
  | .tunnelVni | .tunnelMac => none
  | _ => some (some (nextHopGetAttr db oid))

/-- `ctc_sai_next_hop_get_nh_attr`. -/
def getNextHopAttribute (db : NextHopDb ch) (oid : Oid)
    (attrs : List (NextHopAttrId × NextHopValue)) :
    Option (Status × List (NextHopAttrId × NextHopValue)) :=
  getAttributes (nextHopAttrFnEntries db oid) 0 attrs

end CtcSai
