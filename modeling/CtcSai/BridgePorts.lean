/-
# `BridgePorts` — ctc_sai_bridge.c, bridges and their ports

A bridge is an id in the database and no more.  A bridge port keeps a 16-bit
number of the bridge it was created with; its own object id is built from a
port, a logic port or an interface, whichever its type has.  The lock of a chip
is the number of times it was taken and not yet given back.
-/
import CtcSai.Bridge
import CtcSai.NextHop
import CtcSai.RouterInterface

namespace CtcSai

open KeyedTable IdPool

/-! ## The chip -/

/-- What does not change while the adapter runs on one chip. -/
structure BridgeChip where
  pm : PortMap
  /-- A `gport` fits the `uint16` of a bridge port. -/
  gport_lt : ∀ {c g}, pm.isPort c g → g.toNat < 2 ^ 16
  /-- CTC_MAP_LPORT_TO_GPORT with global chip 0. -/
  chip0Gport : Nat → BitVec 32
  /-- What `_ctc_sai_bridge_port_check_global_port` lets through. -/
  checkGlobalPort : BitVec 32 → Bool
  /-- CTC_IS_CPU_PORT. -/
  isCpuPort : BitVec 32 → Bool
  /-- CTC_GLOBAL_CAPABILITY_MAX_PHY_PORT_NUM. -/
  maxPhyPortNum : Nat
  /-- `default_bridge_id` of the switch, if there is one. -/
  defaultBridgeId : Option (BitVec 32)
  /-- CTC_SAI_DB_ID_TYPE_VLAN. -/
  fids : Allocator
  /-- CTC_SAI_DB_ID_TYPE_VPWS. -/
  vpwsIds : Allocator
  /-- CTC_SAI_DB_ID_TYPE_LOGIC_PORT. -/
  logicPorts : Allocator
  /-- CTC_SAI_DB_ID_TYPE_NEXTHOP. -/
  nexthops : Allocator
  /-- CTC_SAI_DB_ID_TYPE_COMMON. -/
  commonIds : Allocator
  fids_top : fids.lo + fids.size ≤ 4096
  vpwsIds_top : vpwsIds.lo + vpwsIds.size ≤ 4096
  logicPorts_top : logicPorts.lo + logicPorts.size ≤ 2 ^ 16
  nexthops_top : nexthops.lo + nexthops.size ≤ 2 ^ 32

/-- The registers of a port that bridge ports write. -/
structure BridgePortRegs where
  ingressFilter : Bool
  egressFilter : Bool
  transmitEn : Bool
  receiveEn : Bool
  learnLimit : BitVec 32 × MacLimitAction
  /-- The hash type of `ctc_port_scl_property_t` is PORT_SVLAN. -/
  sclPortSvlan : Bool
  /-- CTC_PORT_PROP_REFLECTIVE_BRIDGE_EN. -/
  reflective : Bool
deriving DecidableEq

/-- `ctc_sai_port_db_t`, the two counts. -/
structure PortRefs where
  subPortRefCnt : BitVec 32
  subIfRefCnt : BitVec 32
deriving DecidableEq

/-- `ctc_sai_lag_info_t`, as far as bridge ports go; the bitmap is the set of its
bits. -/
structure BridgeLag where
  memberPorts : Finset Nat
  isBindingSubRif : Bool
  bindingSubRifCount : BitVec 16
  bindBridgePortType : BitVec 32
  subPortRefCnt : BitVec 32
deriving DecidableEq

/-- `ctc_sai_tunnel_t`, as far as bridge ports go. -/
structure BridgeTunnel where
  tunnelId : BitVec 32
  tunnelType : TunnelType
  encapNexthopSai : Oid
  logicPort : BitVec 16
deriving DecidableEq

/-- The database of one chip, as far as bridges go. -/
structure BridgeDb (bc : BridgeChip) where
  bridges : Finset Oid
  bridgePorts : Table Oid BridgePort
  ports : Oid → Option PortRefs
  lags : Table Oid BridgeLag
  tunnels : Table Oid BridgeTunnel
  fids : Pool bc.fids
  vpwsIds : Pool bc.vpwsIds
  logicPorts : Pool bc.logicPorts
  nexthops : Pool bc.nexthops
  commonIds : Pool bc.commonIds
  registers : BitVec 32 → BridgePortRegs
  /-- How often the lock was taken and not yet released. -/
  held : Int

/-- What the SDK, the memory and the router interfaces answer during one call. -/
structure BridgeSdk where
  /-- `ctcs_port_set_vlan_filter_en`, in the egress direction or not. -/
  vlanFilter : BitVec 32 → Bool → CtcE
  /-- `ctcs_mac_security_set_learn_limit`, of a port and of a FID. -/
  learnLimit : BitVec 32 → CtcE
  fidLearnLimit : CtcE
  transmitEn : BitVec 32 → Bool → CtcE
  receiveEn : BitVec 32 → Bool → CtcE
  /-- `ctcs_port_set_scl_property` and REFLECTIVE_BRIDGE_EN, which nobody checks. -/
  sclProperty : BitVec 32 → CtcE
  reflective : BitVec 32 → CtcE
  nhAddXlate : CtcE
  /-- `ctcs_l2_set_nhid_by_logic_port`, of a new sub-port and of one that goes up. -/
  setNhidNew : CtcE
  setNhid : CtcE
  /-- The action that `ctcs_vlan_get_vlan_mapping` finds is not zero. -/
  hasVlanMapping : Bool
  addVlanMapping : CtcE
  updateVlanMapping : CtcE
  removeVlanMapping : CtcE
  addPortToDefaultEntry : CtcE
  mplsGetIlm : CtcE
  mplsUpdateIlm : CtcE
  createVlan : CtcE
  setFid : CtcE
  setLearning : CtcE
  addDefaultEntry : CtcE
  getCapability : CtcE
  /-- `ctc_sai_router_interface_update_bridge_rif`. -/
  updateBridgeRif : Status
  memBridgePort : Bool
  memPort : Bool
  memProperty : Bool
  memList : Bool

/-! ## Object ids -/

def bridgeOid (c : Lchip) (type : BitVec 8) (id : BitVec 32) : Oid :=
  createObjectId .bridge (c.setWidth 8) type 0 id

/-- `SAI_BRIDGE_TYPE_1Q`, `_1D` and `_CROSS_CONNECT`. -/
def bridgeType1Q : BitVec 8 := 0
def bridgeType1D : BitVec 8 := 1
def bridgeTypeCrossConnect : BitVec 8 := 2

/-- `sai_bridge_port_type_t` of a number. -/
def bridgePortTypeOf (s : BitVec 32) : Option BridgePortType :=
  if s = 0 then some .port
  else if s = 1 then some .subPort
  else if s = 2 then some .router1Q
  else if s = 3 then some .router1D
  else if s = 4 then some .tunnel
  else none

def BridgePortType.bits : BridgePortType → BitVec 8
  | .port => 0
  | .subPort => 1
  | .router1Q => 2
  | .router1D => 3
  | .tunnel => 4

/-- `ctc_sai_get_sai_object_id` of a bridge port. -/
def bridgePortIdOf (c : Lchip) (type : BridgePortType) (value : BitVec 32) : Oid :=
  createObjectId .bridgePort (c.setWidth 8) type.bits 0 value

/-! ## Attributes -/

inductive BridgePortAttr where
  | type (s : BitVec 32)
  | portId (oid : Oid)
  | taggingMode (s : BitVec 32)
  | vlanId (v : BitVec 16)
  | rifId (oid : Oid)
  | tunnelId (oid : Oid)
  | bridgeId (oid : Oid)
  | fdbLearningMode (s : BitVec 32)
  | maxLearnedAddresses (n : BitVec 32)
  | limitViolationAction (s : BitVec 32)
  | adminState (b : Bool)
  | ingressFiltering (b : Bool)
  | egressFiltering (b : Bool)
  | oamEnable (b : Bool)
deriving DecidableEq

namespace BridgePortAttr

def type? : BridgePortAttr → Option (BitVec 32)
  | type s => some s
  | _ => none

def portId? : BridgePortAttr → Option Oid
  | portId oid => some oid
  | _ => none

def taggingMode? : BridgePortAttr → Option (BitVec 32)
  | taggingMode s => some s
  | _ => none

def vlanId? : BridgePortAttr → Option (BitVec 16)
  | vlanId v => some v
  | _ => none

def rifId? : BridgePortAttr → Option Oid
  | rifId oid => some oid
  | _ => none

def tunnelId? : BridgePortAttr → Option Oid
  | tunnelId oid => some oid
  | _ => none

def bridgeId? : BridgePortAttr → Option Oid
  | bridgeId oid => some oid
  | _ => none

def fdbLearningMode? : BridgePortAttr → Option (BitVec 32)
  | fdbLearningMode s => some s
  | _ => none

def maxLearnedAddresses? : BridgePortAttr → Option (BitVec 32)
  | maxLearnedAddresses n => some n
  | _ => none

def limitViolationAction? : BridgePortAttr → Option (BitVec 32)
  | limitViolationAction s => some s
  | _ => none

def adminState? : BridgePortAttr → Option Bool
  | adminState b => some b
  | _ => none

def ingressFiltering? : BridgePortAttr → Option Bool
  | ingressFiltering b => some b
  | _ => none

def egressFiltering? : BridgePortAttr → Option Bool
  | egressFiltering b => some b
  | _ => none

def oamEnable? : BridgePortAttr → Option Bool
  | oamEnable b => some b
  | _ => none

end BridgePortAttr

/-- `_ctc_sai_bridge_packet_action_mapping_to_limit_action`. -/
def packetActionToLimitAction (s : BitVec 32) : Except Status MacLimitAction :=
  if s = 1 then .ok .fwd
  else if s = 0 then .ok .discard
  else if s = 2 then .ok .toCpu
  else if s ≤ 7 then .error .notSupported
  else .error .invalidParameter

/-- The attributes of a bridge that its creation reads. -/
inductive BridgeAttr where
  | type (s : BitVec 32)
  | maxLearnedAddresses (n : BitVec 32)
  | learnDisable (b : Bool)
deriving DecidableEq

def BridgeAttr.type? : BridgeAttr → Option (BitVec 32)
  | type s => some s
  | _ => none

def BridgeAttr.maxLearnedAddresses? : BridgeAttr → Option (BitVec 32)
  | maxLearnedAddresses n => some n
  | _ => none

/-! ## Ports and LAGs -/

section Calls

variable {bc : BridgeChip} (c : Lchip) (sdk : BridgeSdk) (db : BridgeDb bc)

namespace BridgeDb

/-- CTC_SAI_DB_LOCK and CTC_SAI_DB_UNLOCK. -/
def lock : BridgeDb bc := { db with held := db.held + 1 }

def unlock : BridgeDb bc := { db with held := db.held - 1 }

/-- A write to the registers of one port. -/
def writePort (g : BitVec 32) (f : BridgePortRegs → BridgePortRegs) : BridgeDb bc :=
  { db with registers := Function.update db.registers g (f (db.registers g)) }

/-- The ports that a loop over the bits of a LAG writes to. -/
def lagPorts (gport : Nat → BitVec 32) (l : BridgeLag) : List (BitVec 32) :=
  ((List.range 256).filter fun b => b ∈ l.memberPorts).map gport

end BridgeDb

/-- A call for each port until one fails. -/
def writeEach (rc : BitVec 32 → Status) (f : BridgePortRegs → BridgePortRegs) :
    BridgeDb bc → List (BitVec 32) → Status × BridgeDb bc
  | db, [] => (.success, db)
  | db, g :: rest =>
    match rc g with
    | .success => writeEach rc f (db.writePort g f) rest
    | status => (status, db)

/-- The ports of a bridge port that is a port or a LAG: those of the LAG's
record, if there is one, or the port. -/
def portsOf (gportOf : Nat → BitVec 32) (gport : BitVec 32) : Option (List (BitVec 32)) :=
  if isLinkaggPort gport then
    (db.lags.lookup (lagOid c gport)).map (BridgeDb.lagPorts gportOf)
  else some [gport]

/-- One of the two filters of a creation.  `status` is what the search for
EGRESS_FILTERING returned: the loop over a LAG without members leaves it, and it
is asked afterwards.  The loop numbers the ports of global chip 0. -/
def createFilter (egress : Bool) (en : Option Bool) (status : Status) (gport : BitVec 32)
    (f : Bool → BridgePortRegs → BridgePortRegs) : Status × BridgeDb bc :=
  match en with
  | none => (.success, db)
  | some b =>
    if isLinkaggPort gport then
      match db.lags.lookup (lagOid c gport) with
      | none => (.invalidObjectId, db)
      | some l =>
        match BridgeDb.lagPorts bc.chip0Gport l with
        | [] => (status, db)
        | ports => writeEach (fun g => mappingErrorCtc (sdk.vlanFilter g egress)) (f b) db ports
    else writeEach (fun g => (sdk.vlanFilter g egress).raw) (f b) db [gport]

/-- The two filters of a creation, the ingress one first. -/
def createFilters (gport : BitVec 32) (attrs : List BridgePortAttr) : Status × BridgeDb bc :=
  let egress := findAttribInList BridgePortAttr.egressFiltering? attrs
  match createFilter c sdk db false (findAttribInList BridgePortAttr.ingressFiltering? attrs)
      (if egress.isSome then .success else .itemNotFound) gport
      (fun b r => { r with ingressFilter := b }) with
  | (.success, db) =>
    createFilter c sdk db true egress .success gport (fun b r => { r with egressFilter := b })
  | (status, db) => (status, db)

/-! ## The case PORT of a creation -/

/-- `limit_num`: without a number, and for 0, there is no limit. -/
def learnLimitNum (attrs : List BridgePortAttr) : BitVec 32 :=
  match findAttribInList BridgePortAttr.maxLearnedAddresses? attrs with
  | some n => if n = 0 then 0xFFFFFFFF else n
  | none => 0xFFFFFFFF

/-- `limit_action`: DISCARD where the list has none. -/
def learnLimitAction (attrs : List BridgePortAttr) : Except Status MacLimitAction :=
  match findAttribInList BridgePortAttr.limitViolationAction? attrs with
  | some s => packetActionToLimitAction s
  | none => .ok .discard

/-- What creation does for a bridge port of type PORT. -/
def createPortPort (bp : BridgePort) (attrs : List BridgePortAttr) :
    Except Status BridgePort × BridgeDb bc :=
  match findAttribInList BridgePortAttr.portId? attrs with
  | none => (.error .mandatoryAttributeMissing, db)
  | some portId =>
    let gport := portId.value
    -- INVALID_PARAMETER passes through the translation of SDK codes
    if !bc.checkGlobalPort gport then (.error .failure, db)
    else if bc.isCpuPort gport then
      (.error (.invalidAttrValue (attrs.findIdx fun a => a.portId?.isSome)), db)
    else
      match createFilters c sdk db gport attrs with
      | (.success, db) =>
        match learnLimitAction attrs with
        | .error status => (.error status, db)
        | .ok limitAction =>
          match portsOf c db bc.chip0Gport gport with
          | none => (.error .invalidObjectId, db)
          | some ports =>
            match writeEach (fun g => (sdk.learnLimit g).raw)
                (fun r => { r with learnLimit := (learnLimitNum attrs, limitAction) }) db ports with
            | (.success, db) => (.ok { bp with
                limitNum := learnLimitNum attrs
                limitAction := limitAction
                gport := gport.setWidth 16
                portType := .port }, db)
            | (status, db) => (.error status, db)
      | (status, db) => (.error status, db)

/-! ## Sub-ports -/

/-- The record that counts the sub-ports of a port or a LAG; that of a port is
made where there is none. -/
def subPortRecord (gport : BitVec 32) : Status × BridgeDb bc :=
  if isLinkaggPort gport then
    if (db.lags.lookup (lagOid c gport)).isSome then (.success, db) else (.invalidObjectId, db)
  else if (db.ports (portOid c gport)).isSome then (.success, db)
  else
    match mappingErrorCtc sdk.getCapability with
    | .success =>
      if bc.maxPhyPortNum ≤ bc.pm.lport gport % 256 then (.invalidParameter, db)
      else if sdk.memPort then
        (.success, { db with
          ports := Function.update db.ports (portOid c gport) (some ⟨0, 0⟩) })
      else (.noMemory, db)
    | status => (status, db)

/-- `sub_port_ref_cnt` of a port or a LAG. -/
def subPortRefCnt (gport : BitVec 32) : BitVec 32 :=
  if isLinkaggPort gport then
    ((db.lags.lookup (lagOid c gport)).map BridgeLag.subPortRefCnt).getD 0
  else ((db.ports (portOid c gport)).map PortRefs.subPortRefCnt).getD 0

/-- A write to `sub_port_ref_cnt`. -/
def setSubPortRefCnt (gport : BitVec 32) (cnt : BitVec 32) : BridgeDb bc :=
  if isLinkaggPort gport then
    match db.lags.lookup (lagOid c gport) with
    | some l => { db with
        lags := db.lags.insert (lagOid c gport) { l with subPortRefCnt := cnt } }
    | none => db
  else
    match db.ports (portOid c gport) with
    | some p => { db with
        ports := Function.update db.ports (portOid c gport) (some { p with subPortRefCnt := cnt }) }
    | none => db

/-- The hash of the port, or of all members of the LAG, and its reflective
bridging are written; nobody looks at what the SDK returns. -/
def setPortSvlan (on : Bool) (gport : BitVec 32) : BridgeDb bc :=
  ((portsOf c db (bc.pm.gport c) gport).getD []).foldl (fun db g =>
    let db := if sdk.sclProperty g = .none then
      db.writePort g (fun r => { r with sclPortSvlan := on }) else db
    if sdk.reflective g = .none then
      db.writePort g (fun r => { r with reflective := on }) else db) db

/-- `ctc_sai_bridge_traverse_get_sub_port_info` finds one. -/
def hasSubPort (gport : BitVec 32) (vlanId : BitVec 16) : Bool :=
  db.bridgePorts.entries.any fun e => e.2.gport.setWidth 32 = gport ∧ e.2.vlanId = vlanId

/-- The tag mode of a sub-port: TAGGED where the list has none. -/
def subPortTagMode (attrs : List BridgePortAttr) : Option (BitVec 8) :=
  match findAttribInList BridgePortAttr.taggingMode? attrs with
  | none => some 1
  | some s => if s = 0 ∨ s = 1 then some (s.setWidth 8) else none

def allocSubPort : Except (BridgeDb bc) (Nat × Nat × BridgeDb bc) :=
  match db.logicPorts.alloc with
  | none => .error db
  | some (logicPort, logicPorts) =>
    match db.nexthops.alloc with
    | none => .error { db with logicPorts := logicPorts.free logicPort }
    | some (nhId, nexthops) =>
      .ok (logicPort, nhId, { db with logicPorts := logicPorts, nexthops := nexthops })

def freeSubPort (logicPort nhId : Nat) : BridgeDb bc :=
  { db with
    nexthops := db.nexthops.free nhId
    logicPorts := db.logicPorts.free logicPort }

/-- `_ctc_sai_bridge_port_create_sub_port`.  A VLAN mapping that is there
already sends it to the rollback with a status of success, the record left as it
was but for the tag mode. -/
def createSubPort (bp : BridgePort) (attrs : List BridgePortAttr) :
    Except Status BridgePort × BridgeDb bc :=
  match findAttribInList BridgePortAttr.portId? attrs with
  | none => (.error .mandatoryAttributeMissing, db)
  | some portId =>
    let gport := portId.value
    match subPortRecord c sdk db gport with
    | (.success, db) =>
      match findAttribInList BridgePortAttr.vlanId? attrs with
      | none => (.error .mandatoryAttributeMissing, db)
      | some vlanId =>
        match subPortTagMode attrs with
        | none => (.error (.invalidAttrValue 0), db)
        | some tagMode =>
          if hasSubPort db gport vlanId then (.error .itemAlreadyExists, db)
          else
            match allocSubPort db with
            | .error db => (.error .insufficientResources, db)
            | .ok (logicPort, nhId, db) =>
              let db := setPortSvlan c sdk db true gport
              let undone := freeSubPort db logicPort nhId
              match mappingErrorCtc sdk.nhAddXlate with
              | .success =>
                match mappingErrorCtc sdk.setNhidNew with
                | .success =>
                  if sdk.hasVlanMapping then (.ok { bp with tagMode := tagMode }, undone)
                  else
                    match mappingErrorCtc sdk.addVlanMapping with
                    | .success =>
                      (.ok { bp with
                          tagMode := tagMode
                          gport := gport.setWidth 16
                          vlanId := vlanId
                          portType := .subPort
                          logicPort := BitVec.ofNat 16 logicPort
                          nhId := BitVec.ofNat 32 nhId
                          subPortOrTunnelOamEn :=
                            (findAttribInList BridgePortAttr.oamEnable? attrs).getD false },
                        setSubPortRefCnt c db gport (subPortRefCnt c db gport + 1))
                    | status => (.error status, undone)
                | status => (.error status, undone)
              | status => (.error status, undone)
    | (status, db) => (.error status, db)

/-- `_ctc_sai_bridge_port_destroy_sub_port`. -/
def destroySubPort (bp : BridgePort) : Status × BridgeDb bc :=
  let gport := bp.gport.setWidth 32
  match subPortRecord c sdk db gport with
  | (.success, db) =>
    match sdk.removeVlanMapping.raw with
    | .success =>
      let cnt := subPortRefCnt c db gport - 1
      let db := setSubPortRefCnt c db gport cnt
      -- the sub-interfaces of the port are not asked
      let db := if cnt = 0 then setPortSvlan c sdk db false gport else db
      (.success, freeSubPort db bp.logicPort.toNat bp.nhId.toNat)
    | status => (status, db)
  | (status, db) => (status, db)

/-! ## Tunnel ports -/

/-- `_ctc_sai_bridge_port_create_tunnel_port`: next hop and logic port are those
of the tunnel. -/
def createTunnelPort (bp : BridgePort) (attrs : List BridgePortAttr) : Except Status BridgePort :=
  match findAttribInList BridgePortAttr.tunnelId? attrs with
  | none => .error .mandatoryAttributeMissing
  | some tunnelId =>
    match db.tunnels.lookup tunnelId with
    | none => .error (.invalidAttrValue (attrs.findIdx fun a => a.tunnelId?.isSome))
    | some t => .ok { bp with
        portType := .tunnel
        tunnelId := tunnelId
        nhId := t.encapNexthopSai.value
        logicPort := t.logicPort
        subPortOrTunnelOamEn := (findAttribInList BridgePortAttr.oamEnable? attrs).getD false }

/-- `_ctc_sai_bridge_port_destroy_tunnel_port`, but for the record it clears. -/
def destroyTunnelPort (bp : BridgePort) : BridgeDb bc :=
  { db with logicPorts := db.logicPorts.free bp.logicPort.toNat }

/-! ## The administrative state -/

/-- Transmission and reception of each port until a call fails. -/
def setAdminPorts (admin : Bool) : BridgeDb bc → List (BitVec 32) → Status × BridgeDb bc
  | db, [] => (.success, db)
  | db, g :: rest =>
    match mappingErrorCtc (sdk.transmitEn g admin) with
    | .success =>
      let db := db.writePort g fun r => { r with transmitEn := admin }
      match mappingErrorCtc (sdk.receiveEn g admin) with
      | .success =>
        setAdminPorts admin (db.writePort g fun r => { r with receiveEn := admin }) rest
      | status => (status, db)
    | status => (status, db)

/-- A bridge port that another one is connected to is there: its next hop is
read without a check. -/
def crossConnected (bp : BridgePort) : Bool :=
  bp.crossConnectPort = Oid.null ∨ (db.bridgePorts.lookup bp.crossConnectPort).isSome

/-- What going up does last for a sub-port and a tunnel. -/
def adminUp (bp : BridgePort) : Status :=
  match mappingErrorCtc sdk.setNhid with
  | .success =>
    if bp.bridgeType ≠ bridgeTypeCrossConnect then mappingErrorCtc sdk.addPortToDefaultEntry
    else .success
  | status => status

/-- The record keeps the new state where all calls succeeded. -/
def adminDone (bp : BridgePort) (admin : Bool) :
    Status × BridgeDb bc → Status × BridgePort × BridgeDb bc
  | (.success, db) => (.success, { bp with adminState := admin }, db)
  | (status, db) => (status, bp, db)

/-- `_ctc_sai_bridge_port_set_admin_state`.  The tunnel of a tunnel port is read
without a check. -/
def setAdminState (bp : BridgePort) (admin : Bool) : Option (Status × BridgePort × BridgeDb bc) :=
  if admin = bp.adminState then some (.success, bp, db)
  else
    match bp.portType with
    | .port =>
      match portsOf c db (bc.pm.gport c) (bp.gport.setWidth 32) with
      | none => some (.invalidObjectId, bp, db)
      | some ports => some (adminDone bp admin (setAdminPorts sdk admin db ports))
    | .subPort =>
      if admin ∧ bp.bridgeType = bridgeTypeCrossConnect ∧ !crossConnected db bp then none
      else
        match mappingErrorCtc sdk.updateVlanMapping with
        | .success => some (adminDone bp admin (if admin then adminUp sdk bp else .success, db))
        | status => some (status, bp, db)
    | .router1Q => some (adminDone bp admin (.success, db))
    | .router1D => some (adminDone bp admin (sdk.updateBridgeRif, db))
    | .tunnel =>
      match db.tunnels.lookup bp.tunnelId with
      | none => none
      | some t =>
        if t.tunnelType = .mplsL2 then
          match mappingErrorCtc sdk.mplsGetIlm with
          | .success =>
            if admin ∧ !crossConnected db bp then none
            else
              match mappingErrorCtc sdk.mplsUpdateIlm with
              | .success =>
                some (adminDone bp admin (if admin then adminUp sdk bp else .success, db))
              | status => some (status, bp, db)
          | status => some (status, bp, db)
        else some (adminDone bp admin (if admin then adminUp sdk bp else .success, db))

/-! ## Creation and removal of bridge ports -/

/-- The case of each type: the record, and the value of the object id. -/
def createByType (s : BitVec 32) (bp : BridgePort) (attrs : List BridgePortAttr) :
    Except Status (BridgePortType × BridgePort × BitVec 32) × BridgeDb bc :=
  match bridgePortTypeOf s with
  | some .port =>
    match createPortPort c sdk db bp attrs with
    | (.ok bp, db) => (.ok (.port, bp,
        ((findAttribInList BridgePortAttr.portId? attrs).map Oid.value).getD 0), db)
    | (.error status, db) => (.error status, db)
  | some .subPort =>
    match createSubPort c sdk db bp attrs with
    | (.ok bp, db) => (.ok (.subPort, bp, bp.logicPort.setWidth 32), db)
    | (.error status, db) => (.error status, db)
  | some .router1Q => (.error (.attrNotSupported 0), db)
  | some .router1D =>
    match findAttribInList BridgePortAttr.rifId? attrs with
    | none => (.error .mandatoryAttributeMissing, db)
    | some rifId =>
      (.ok (.router1D, { bp with
        l3ifId := rifId.value.setWidth 16
        portType := .router1D }, rifId.value), db)
  | some .tunnel =>
    match createTunnelPort db bp attrs with
    | .ok bp => (.ok (.tunnel, bp, bp.logicPort.setWidth 32), db)
    | .error status => (.error status, db)
  -- the index is that of BRIDGE_ID, or of TYPE where there is none
  | none => (.error (.invalidAttrValue
      (if attrs.any (fun a => a.bridgeId?.isSome) then attrs.findIdx fun a => a.bridgeId?.isSome
        else attrs.findIdx fun a => a.type?.isSome)), db)

/-- `roll_back_1`: what the case of the type took is given back. -/
def destroyByType (type : BridgePortType) (bp : BridgePort) : BridgeDb bc :=
  match type with
  | .subPort => (destroySubPort c sdk db bp).2
  | .tunnel => destroyTunnelPort db bp
  | _ => db

/-- `roll_back_2`: the port goes down again first. -/
def createRollBack (type : BridgePortType) (bp : BridgePort) (admin : Bool) :
    Option (BridgeDb bc) :=
  if admin then
    (setAdminState c sdk db bp false).map fun r => destroyByType c sdk r.2.2 type r.2.1
  else some (destroyByType c sdk db type bp)

/-- The LAG of a new bridge port learns its type. -/
def bindLag (type : BridgePortType) (gport : BitVec 32) : Option (BridgeDb bc) :=
  if isLinkaggPort gport then
    (db.lags.lookup (lagOid c gport)).map fun l => { db with
      lags := db.lags.insert (lagOid c gport) { l with
        bindBridgePortType := match type with
          | .port => 1
          | .subPort => 2
          | _ => l.bindBridgePortType } }
  else some db

/-- Creation from FDB_LEARNING_MODE on, which is refused without a rollback. -/
def createFinish (type : BridgePortType) (bp : BridgePort) (value : BitVec 32)
    (attrs : List BridgePortAttr) : Option (Status × Option Oid × BridgeDb bc) :=
  if (findAttribInList BridgePortAttr.fdbLearningMode? attrs).isSome then
    some (.attrNotSupported 0, none, db.unlock)
  else
    let admin := (findAttribInList BridgePortAttr.adminState? attrs).getD false
    match setAdminState c sdk db bp admin with
    | none => none
    | some (.success, bp, db) =>
      let oid := bridgePortIdOf c type value
      let rollBack (status : Status) (db : BridgeDb bc) :=
        (createRollBack c sdk db type bp admin).map fun db => (status, some oid, db.unlock)
      if (db.bridgePorts.lookup oid).isSome then rollBack .itemAlreadyExists db
      else if !sdk.memProperty then rollBack .noMemory db
      else
        let added := { db with bridgePorts := db.bridgePorts.insert oid bp }
        match bindLag c added type (bp.gport.setWidth 32) with
        | none => rollBack .invalidObjectId db
        | some db => some (.success, some oid, db.unlock)
    | some (status, bp, db) => some (status, none, (destroyByType c sdk db type bp).unlock)

/-- `ctc_sai_bridge_create_bridge_port`.  The bridge of BRIDGE_ID is not looked
up, and the record is zeroed without a check for memory. -/
def createBridgePort (attrs : List BridgePortAttr) : Option (Status × Option Oid × BridgeDb bc) :=
  let db := db.lock
  match findAttribInList BridgePortAttr.type? attrs with
  | none => some (.mandatoryAttributeMissing, none, db.unlock)
  | some s =>
    let bridge := match findAttribInList BridgePortAttr.bridgeId? attrs with
      | some oid => some (oid.value, oid.subType.setWidth 8)
      | none => bc.defaultBridgeId.map fun id => (id, bridgeType1Q)
    match bridge with
    | none => some (.failure, none, db.unlock)
    | some (bridgeId, bridgeType) =>
      if !sdk.memBridgePort then none
      else
        match createByType c sdk db s { BridgePort.zero with
            bridgeId := bridgeId.setWidth 16, bridgeType := bridgeType } attrs with
        | (.error status, db) => some (status, none, db.unlock)
        | (.ok (type, bp, value), db) => createFinish c sdk db type bp value attrs

/-- `ctc_sai_bridge_remove_bridge_port`, which takes no lock.  What the port
needs to go down is asked of its bridge's type, and whether it went is not. -/
def removeBridgePort (oid : Oid) : Option (Status × BridgeDb bc) :=
  match db.bridgePorts.lookup oid with
  | none => some (.invalidObjectId, db)
  | some bp =>
    let down := if bp.adminState ∧ bp.bridgeType ≠ bridgeType1Q then
        (setAdminState c sdk db bp false).map Prod.snd
      else some (bp, db)
    down.map fun r =>
      let db := destroyByType c sdk r.2 r.1.portType r.1
      (.success, { db with bridgePorts := db.bridgePorts.erase oid })

/-! ## What a get call reads -/

/-- PORT_LIST of `ctc_sai_bridge_get_bridge_attribute`. -/
def getBridgePortList (oid : Oid) (list : AttrList Oid) : Status × AttrList Oid × BridgeDb bc :=
  let db := db.lock
  if !sdk.memList then (.noMemory, list, db.unlock)
  else
    let found := (db.bridgePorts.entries.filter fun e => e.2.bridgeId = oid.value.setWidth 16).map
      Sigma.fst
    let r := fillObjectList (some found) list
    (r.1, r.2, db.unlock)

/-- BRIDGE_ID of `ctc_sai_bridge_get_bridge_port_attribute`: a bridge port of
type PORT has none. -/
def getBridgePortBridgeId (oid : Oid) : Except Status Oid × BridgeDb bc :=
  let db := db.lock
  match db.bridgePorts.lookup oid with
  | none => (.error .invalidObjectId, db.unlock)
  | some bp =>
    if bp.portType = .port then (.error (.invalidAttrValue 0), db.unlock)
    else (.ok (bridgeOid c bridgeType1D (bp.bridgeId.setWidth 32)), db.unlock)

/-! ## Bridges -/

/-- The case 1D of `ctc_sai_bridge_create_bridge`. -/
def createBridge1D (attrs : List BridgeAttr) : Status × Option Oid × BridgeDb bc :=
  match db.fids.alloc with
  | none => (.insufficientResources, none, db)
  | some (fid, fids) =>
    let rollBack0 (db : BridgeDb bc) := { db with fids := db.fids.free fid }
    let db := { db with fids := fids }
    match mappingErrorCtc sdk.createVlan with
    | .success =>
      match mappingErrorCtc sdk.setFid with
      | .success =>
        let db := db.lock
        let oid := bridgeOid c bridgeType1D (BitVec.ofNat 32 fid)
        if oid ∉ db.bridges ∧ !sdk.memProperty then
          (.noMemory, some oid, rollBack0 db.unlock)
        else
          let db := { db with bridges := insert oid db.bridges }
          let rollBack3 (db : BridgeDb bc) :=
            rollBack0 { db with bridges := db.bridges.erase oid }.unlock
          let limit := if (findAttribInList BridgeAttr.maxLearnedAddresses? attrs).isSome then
            mappingErrorCtc sdk.fidLearnLimit else .success
          match limit with
          | .success =>
            match mappingErrorCtc sdk.setLearning with
            | .success =>
              match mappingErrorCtc sdk.addDefaultEntry with
              | .success => (.success, some oid, db.unlock)
              | status => (status, some oid, rollBack3 db)
            | status => (status, some oid, rollBack3 db)
          | status => (status, some oid, rollBack3 db)
      | status => (status, none, rollBack0 db)
    | status => (status, none, rollBack0 db)

/-- The case CROSS_CONNECT of `ctc_sai_bridge_create_bridge`: without a free id
it returns with the lock taken. -/
def createBridgeCrossConnect : Status × Option Oid × BridgeDb bc :=
  let db := db.lock
  match db.vpwsIds.alloc with
  | none => (.insufficientResources, none, db)
  | some (fid, vpwsIds) =>
    let db := { db with vpwsIds := vpwsIds }
    let oid := bridgeOid c bridgeTypeCrossConnect (BitVec.ofNat 32 fid)
    if oid ∉ db.bridges ∧ !sdk.memProperty then
      (.noMemory, some oid, { db.unlock with vpwsIds := db.vpwsIds.free fid })
    else (.success, some oid, { db with bridges := insert oid db.bridges }.unlock)

/-- `ctc_sai_bridge_create_bridge`. -/
def createBridge (attrs : List BridgeAttr) : Status × Option Oid × BridgeDb bc :=
  match findAttribInList BridgeAttr.type? attrs with
  | none => (.itemNotFound, none, db)
  | some s =>
    if s = 1 then createBridge1D c sdk db attrs
    else if s = 2 then createBridgeCrossConnect c sdk db
    else (.invalidParameter, none, db)

/-- The case 1D of `ctc_sai_bridge_remove_bridge`; its ports are not asked. -/
def removeBridge1D (oid : Oid) : Status × BridgeDb bc :=
  let fid := (oid.value &&& 0xFFFF).toNat
  let db := db.lock
  match mappingErrorCtc sdk.fidLearnLimit with
  | .success => (.success, { db with
      fids := db.fids.free fid
      bridges := db.bridges.erase oid }.unlock)
  | status => (status, db.unlock)

end Calls

/-! ## Several chips -/

/-- The chips, and which of them have a database. -/
structure BridgeBox where
  chip : Lchip → BridgeChip
  up : Lchip → Bool

/-- The databases of all chips. -/
abbrev BridgeDbs (box : BridgeBox) := ∀ c, BridgeDb (box.chip c)

/-- `ctc_sai_bridge_remove_bridge`.  For a bridge of type CROSS_CONNECT the chip
stays 0: there its id is freed, it is removed and the lock is released. -/
def removeBridge {box : BridgeBox} (sdk : BridgeSdk) (dbs : BridgeDbs box) (oid : Oid) :
    Status × BridgeDbs box :=
  if !box.up oid.lchip ∨ oid ∉ (dbs oid.lchip).bridges then (.itemNotFound, dbs)
  else if oid.subType.setWidth 8 = bridgeType1D then
    let r := removeBridge1D sdk (dbs oid.lchip) oid
    (r.1, Function.update dbs oid.lchip r.2)
  else if oid.subType.setWidth 8 = bridgeTypeCrossConnect then
    if box.up 0 then
      (.success, Function.update dbs 0 { dbs 0 with
        vpwsIds := (dbs 0).vpwsIds.free (oid.value &&& 0xFFFF).toNat
        bridges := (dbs 0).bridges.erase oid }.unlock)
    else (.success, dbs)
  else (.objectInUse, dbs)

end CtcSai
