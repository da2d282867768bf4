/-
# `RouterInterface` — ctc_sai_router_interface.c

Creation, removal and attributes of router interfaces.  An interface has a
record, a number of the L3IF pool (of the VIF pool for the types the chip does
not know), and unless it is virtual an interface of the hardware with two
statistics ids.  Interfaces on ports and LAGs also leave a mark there: the port
counts its sub-interfaces in `sub_if_ref_cnt`, the LAG in
`binding_sub_rif_count`.

The roll-back labels of creation are functions of their own, `error1` to
`error6`; a stage of creation ends it with an `Except` error that carries what
the call returns, and `none` in place of it is a call that does not return: a
NULL pointer that is read, or the attribute loop, which counts by `uint8`.
-/
import CtcSai.Lib.Stages
import CtcSai.Stp

namespace CtcSai

open IdPool KeyedTable Stages

/-! ## The hardware -/

/-- `ctc_l3if_type_t`, the kinds the adapter creates. -/
inductive L3ifType where
  | vlanIf | phyIf | subIf
deriving DecidableEq, Repr

/-- `ctc_l3if_t`; without a type it is MAX_L3IF_TYPE_NUM. -/
structure L3if where
  l3ifType : Option L3ifType
  gport : BitVec 32
  vlanId : BitVec 16
deriving DecidableEq, Repr

/-- `ctc_l3if_property_t`, those the adapter writes. -/
inductive L3ifProperty where
  | vrfId | vrfEn | ipv4Ucast | ipv6Ucast | ipv4Mcast | ipv6Mcast | mtuSize | mtuEn
  | mtuExceptionEn | mplsEn | natIftype | ipv4SaType | stats | egsStats
  | trustDscp | igsQosDscpDomain | dscpSelectMode | egsQosDscpDomain
deriving DecidableEq, Repr

/-- An interface of the hardware. -/
structure L3ifHw where
  l3if : L3if
  prop : L3ifProperty → Nat
  routerMac : List Mac

/-- An interface as `ctcs_l3if_create` makes it. -/
def L3ifHw.new (l3if : L3if) : L3ifHw := ⟨l3if, fun _ => 0, []⟩

/-- What creation asks a port for: `ctcs_port_get_property` and
`ctcs_port_get_direction_property`. -/
inductive PortQosProp where
  | qosPolicy | dscpDomainIn | replaceDscpEn | dscpDomainOut
deriving DecidableEq, Repr

/-- The places where the SDK can refuse.  A write to an interface also fails
when the hardware has none of that number. -/
inductive RifSite where
  | getL3ifId | getRouterMac | l3ifCreate | l3ifDestroy | getProperty
  | createStats (egress : Bool) | propStats (egress : Bool) | destroyStats (id : Nat)
  | getMemberPorts | chipCapability
  | phyIfEn (gport : BitVec 32) | sclProperty (gport : BitVec 32)
  | undoPhyIfEn (gport : BitVec 32) | undoSclProperty (gport : BitVec 32)
  | hwProp (p : L3ifProperty) | hwCreateStats (egress : Bool) | hwPropStats (egress : Bool)
  | hwClearStats (egress : Bool) | hwZeroRouterMac | hwRouterMac | removeRouterMac
  | portQos (p : PortQosProp) (gport : BitVec 32)
  | domainProp (p : L3ifProperty) (gport : BitVec 32)
deriving DecidableEq, Repr

/-- The allocations of memory that can fail. -/
inductive RifMem where
  | rif | port
deriving DecidableEq, Repr

/-- What the SDK and the rest of the database answer during one API call. -/
structure RifSdk where
  rc : RifSite → CtcE
  mem : RifMem → Bool
  /-- The id that `ctcs_stats_create_statsid` hands out. -/
  statsId : RifSite → Nat
  /-- `ctcs_l3if_get_l3if_id`. -/
  actualL3ifId : BitVec 16
  /-- `num` of `ctcs_l3if_get_interface_router_mac`. -/
  routerMacNum : Nat
  /-- `ctcs_linkagg_get_member_ports`. -/
  memberPorts : List (BitVec 32)
  portQos : PortQosProp → BitVec 32 → BitVec 32
  /-- `ctc_sai_db_get_object_property` has something for the id. -/
  object : Oid → Bool
  /-- `ctc_sai_vlan_get_vlan_id`. -/
  vlanId : Oid → BitVec 16
  /-- `ctc_sai_virtual_router_get_vr_info`, the MAC address. -/
  virtualRouterMac : Oid → Mac

/-! ## Records -/

/-- `ctc_sai_router_interface_t`. -/
structure Rif where
  vlanOid : Oid
  neighborMissAction : PacketAction
  gport : BitVec 32
  vrfId : BitVec 16
  mtu : BitVec 32
  srcMac : Mac
  v4State : Bool
  v6State : Bool
  v4McState : Bool
  v6McState : Bool
  isVirtual : Bool
  snatEn : Bool
  natIftype : Bool
  ingStatsid : Nat
  egsStatsid : Nat
  statsState : Bool
  dot1dBridgeId : Oid
  actualL3ifId : Nat
  outerVlanId : BitVec 16
deriving DecidableEq, Repr

/-- The record that `_ctc_sai_router_interface_build_db` makes. -/
def Rif.built : Rif where
  vlanOid := Oid.null
  neighborMissAction := .trap
  gport := 0
  vrfId := 0
  mtu := 1514
  srcMac := 0
  v4State := true
  v6State := true
  v4McState := false
  v6McState := false
  isVirtual := false
  snatEn := false
  natIftype := false
  ingStatsid := 0
  egsStatsid := 0
  statsState := false
  dot1dBridgeId := Oid.null
  actualL3ifId := 0
  outerVlanId := 0

/-- What stays fixed while the adapter runs. -/
structure RifChip where
  lchip : Lchip
  chipType : ChipType
  pm : PortMap
  /-- CTC_GLOBAL_CAPABILITY_MAX_PHY_PORT_NUM. -/
  maxPhyPortNum : Nat
  /-- CTC_QOS_TRUST_DSCP. -/
  trustDscp : BitVec 32
  /-- CTC_DSCP_SELECT_MAP. -/
  dscpSelectMap : Nat
  l3if : Allocator
  vif : Allocator
  /-- The statistics ids of the SDK; 0 means invalid. -/
  stats : Allocator
  /-- MIN_CTC_L3IF_ID. -/
  l3if_lo : 0 < l3if.lo
  /-- Numbers are `uint16`. -/
  l3if_top : l3if.lo + l3if.size ≤ 2 ^ 16
  vif_top : vif.lo + vif.size ≤ 2 ^ 16
  stats_lo : 0 < stats.lo

/-- The database of one chip and what its SDK holds. -/
structure RifDb (rc : RifChip) where
  rifs : Table Oid Rif
  l3if : Pool rc.l3if
  vif : Pool rc.vif
  /-- `sub_if_ref_cnt` of the ports that have a record. -/
  ports : Oid → Option (BitVec 32)
  /-- The LAGs, and the ports' registers. -/
  lag : LagDb
  /-- `binding_sub_rif_count` of the LAGs. -/
  subRifCount : Oid → BitVec 16
  l3ifs : Nat → Option L3ifHw
  stats : Pool rc.stats

/-- The attributes of a router interface. -/
inductive RifAttr where
  | virtualRouterId (oid : Oid)
  -- a value that is none of the enumeration is `none`
  | type (t : Option RifType)
  | portId (oid : Oid)
  | vlanId (oid : Oid)
  | outerVlanId (v : BitVec 16)
  | innerVlanId (v : BitVec 16)
  | srcMacAddress (mac : Mac)
  | adminV4State (v : Bool)
  | adminV6State (v : Bool)
  | mtu (v : BitVec 32)
  | ingressAcl (oid : Oid)
  | egressAcl (oid : Oid)
  | neighborMissPacketAction (action : PacketAction)
  | v4McastEnable (v : Bool)
  | v6McastEnable (v : Bool)
  | customStatsState (v : Bool)
  | bridgeId (oid : Oid)
  | isVirtual (v : Bool)
  | natZoneId (v : BitVec 8)
  | other (id : Nat)
deriving DecidableEq, Repr

namespace RifAttr

def virtualRouterId? : RifAttr → Option Oid
  | virtualRouterId o => some o
  | _ => none

def type? : RifAttr → Option (Option RifType)
  | type t => some t
  | _ => none

def portId? : RifAttr → Option Oid
  | portId o => some o
  | _ => none

def vlanId? : RifAttr → Option Oid
  | vlanId o => some o
  | _ => none

def outerVlanId? : RifAttr → Option (BitVec 16)
  | outerVlanId v => some v
  | _ => none

def innerVlanId? : RifAttr → Option (BitVec 16)
  | innerVlanId v => some v
  | _ => none

def srcMacAddress? : RifAttr → Option Mac
  | srcMacAddress m => some m
  | _ => none

def customStatsState? : RifAttr → Option Bool
  | customStatsState v => some v
  | _ => none

def bridgeId? : RifAttr → Option Oid
  | bridgeId o => some o
  | _ => none

def isVirtual? : RifAttr → Option Bool
  | isVirtual v => some v
  | _ => none

end RifAttr

/-- The object id of a router interface. -/
def rifOid (c : Lchip) (t : RifType) (id : Nat) : Oid :=
  createObjectId .routerInterface (c.setWidth 8) (t.bits.setWidth 8) 0 (BitVec.ofNat 32 id)

def rifTypeOf (oid : Oid) : Option RifType :=
  [RifType.port, .vlan, .loopback, .mplsRouter, .subPort, .bridge, .qinqPort].find?
    fun t => t.bits = oid.subType

/-- `ctc_sai_oid_get_l3if_id` of a router interface. -/
def rifNumber (oid : Oid) : Nat := (oid.value.setWidth 16).toNat

/-- The types that get no interface of the hardware, and a number of the VIF
pool (`vifbypass`). -/
def RifType.vifBypass : RifType → Bool
  | loopback | mplsRouter | qinqPort => true
  | _ => false

def RifType.l3ifType : RifType → Option L3ifType
  | vlan | bridge => some .vlanIf
  | port => some .phyIf
  | subPort => some .subIf
  | _ => none

/-! ## Calls into the SDK -/

section Calls

variable {rc : RifChip} (sdk : RifSdk) (db : RifDb rc)

namespace RifDb

def setRif (oid : Oid) (r : Rif) : RifDb rc := { db with rifs := db.rifs.insert oid r }

/-- A write to an interface of the hardware. -/
def setL3if (id : Nat) (hw : Option L3ifHw) : RifDb rc :=
  { db with l3ifs := Function.update db.l3ifs id hw }

/-- A write to the registers of a port. -/
def setPort (g : BitVec 32) (f : PortRegs → PortRegs) : RifDb rc :=
  { db with lag := db.lag.setPort rc.lchip g f }

/-- `ctcs_l3if_set_property`. -/
def setProperty (site : RifSite) (id : Nat) (p : L3ifProperty) (v : Nat) : CtcE × RifDb rc :=
  match sdk.rc site, db.l3ifs id with
  | .none, some hw =>
    (.none, db.setL3if id (some { hw with prop := Function.update hw.prop p v }))
  | .none, none => (.notExist, db)
  | e, _ => (e, db)

/-- `ctcs_l3if_set_interface_router_mac`, `f` being what the mode makes of the
addresses there. -/
def setRouterMac (site : RifSite) (id : Nat) (f : List Mac → List Mac) : CtcE × RifDb rc :=
  match sdk.rc site, db.l3ifs id with
  | .none, some hw => (.none, db.setL3if id (some { hw with routerMac := f hw.routerMac }))
  | .none, none => (.notExist, db)
  | e, _ => (e, db)

/-- `ctcs_stats_create_statsid`. -/
def createStats (site : RifSite) : Option (Nat × RifDb rc) :=
  if sdk.rc site = .none then
    (db.stats.reserve (sdk.statsId site)).map fun p => (sdk.statsId site, { db with stats := p })
  else none

/-- `ctcs_stats_destroy_statsid`, whose code nobody asks for. -/
def destroyStats (id : Nat) : RifDb rc :=
  if sdk.rc (.destroyStats id) = .none then { db with stats := db.stats.free id } else db

/-- `_ctc_sai_router_interface_check_hw_exist`. -/
def checkHwExist (oid : Oid) : Bool :=
  sdk.rc .getProperty = .none && (db.l3ifs (rifNumber oid)).isSome

end RifDb

/-- A write to the registers of one port after the other, up to the first that
fails. -/
def portWrites (site : BitVec 32 → RifSite) (f : PortRegs → PortRegs) :
    RifDb rc → List (BitVec 32) → Status × RifDb rc
  | db, [] => (.success, db)
  | db, g :: gs =>
    match mappingErrorCtc (sdk.rc (site g)) with
    | .success => portWrites site f (db.setPort g f) gs
    | status => (status, db)

/-- The same where nobody asks whether a write failed. -/
def portWritesAll (site : BitVec 32 → RifSite) (f : PortRegs → PortRegs) :
    RifDb rc → List (BitVec 32) → RifDb rc
  | db, [] => db
  | db, g :: gs =>
    portWritesAll site f (if sdk.rc (site g) = .none then db.setPort g f else db) gs

/-- `ctcs_l3if_set_property` of one property after the other. -/
def setProperties (id : Nat) : RifDb rc → List (L3ifProperty × Nat) → Status × RifDb rc
  | db, [] => (.success, db)
  | db, (p, v) :: ps =>
    match db.setProperty sdk (.hwProp p) id p v with
    | (.none, db) => setProperties id db ps
    | (e, db) => (mappingErrorCtc e, db)

end Calls

/-! ## Attributes -/

/-- `_ctc_sai_router_interface_set_attr` on a record, under the table of set
functions: BRIDGE_ID and IS_VIRTUAL have none. -/
def Rif.setAttr (r : Rif) : RifAttr → Except Status Rif
  | .virtualRouterId oid => .ok { r with vrfId := oid.value.setWidth 16 }
  | .type _ | .portId _ | .vlanId _ | .outerVlanId _ | .innerVlanId _ => .ok r
  | .srcMacAddress mac => .ok { r with srcMac := mac }
  | .adminV4State v => if r.isVirtual then .error .invalidParameter else .ok { r with v4State := v }
  | .adminV6State v => if r.isVirtual then .error .invalidParameter else .ok { r with v6State := v }
  | .mtu v => if r.isVirtual then .error .invalidParameter else .ok { r with mtu := v }
  | .ingressAcl _ | .egressAcl _ => .error .notSupported
  | .neighborMissPacketAction a =>
    if r.isVirtual then .error .invalidParameter else .ok { r with neighborMissAction := a }
  | .v4McastEnable v =>
    if r.isVirtual then .error .invalidParameter else .ok { r with v4McState := v }
  | .v6McastEnable v =>
    if r.isVirtual then .error .invalidParameter else .ok { r with v6McState := v }
  | .customStatsState v =>
    if r.isVirtual then .error .invalidParameter else .ok { r with statsState := v }
  | .natZoneId v =>
    if 2 ≤ v.toNat then .error .invalidParameter
    else if v = 0 then .ok { r with snatEn := false, natIftype := false }
    else .ok { r with snatEn := true, natIftype := true }
  | .bridgeId _ | .isVirtual _ => .error (.invalidAttribute 0)
  | .other _ => .error .itemNotFound

/-- The properties that `_ctc_sai_router_interface_set_attr_hw` writes. -/
def Rif.hwProps (r : Rif) : List (L3ifProperty × Nat) :=
  [(.vrfId, r.vrfId.toNat), (.vrfEn, 1), (.ipv4Ucast, r.v4State.toNat),
    (.ipv6Ucast, r.v6State.toNat), (.ipv4Mcast, r.v4McState.toNat),
    (.ipv6Mcast, r.v6McState.toNat), (.mtuSize, r.mtu.toNat), (.mtuEn, 1), (.mtuExceptionEn, 1),
    (.mplsEn, 1), (.natIftype, r.natIftype.toNat), (.ipv4SaType, r.snatEn.toNat)]

section Hw

variable {rc : RifChip} (sdk : RifSdk) (db : RifDb rc) (oid : Oid)

/-- The statistics are to be on and the record has no id: one id for each
direction is created and attached, with the labels `error4` to `error1`. -/
def hwStatsOn (r : Rif) (id : Nat) : Status × RifDb rc :=
  match db.createStats sdk (.hwCreateStats false) with
  | none => (.insufficientResources, db)
  | some (ing, db) =>
    match db.setProperty sdk (.hwPropStats false) id .stats ing with
    | (.none, db) =>
      let r := { r with ingStatsid := ing }
      let db := db.setRif oid r
      -- `error3`: the record's id is cleared before it is destroyed
      let error3 := fun db : RifDb rc =>
        let db := db.setRif oid { r with ingStatsid := 0 }
        let db := (db.setProperty sdk (.hwClearStats false) id .stats 0).2
        (Status.insufficientResources, db.destroyStats sdk 0)
      match db.createStats sdk (.hwCreateStats true) with
      | none => error3 db
      | some (eg, db) =>
        match db.setProperty sdk (.hwPropStats true) id .egsStats eg with
        | (.none, db) => (.success, db.setRif oid { r with egsStatsid := eg })
        | (_, db) => error3 (db.destroyStats sdk r.egsStatsid)
    | (_, db) => (.insufficientResources, db.destroyStats sdk r.ingStatsid)

/-- The statistics are to be off and the record has both ids.  The ingress id
is cleared, twice; the egress id stays in the record. -/
def hwStatsOff (r : Rif) (id : Nat) : RifDb rc :=
  let db := db.destroyStats sdk r.ingStatsid
  let db := db.destroyStats sdk r.egsStatsid
  let db := (db.setProperty sdk (.hwClearStats false) id .stats 0).2
  let db := (db.setProperty sdk (.hwClearStats true) id .egsStats 0).2
  db.setRif oid { r with ingStatsid := 0 }

/-- The part of `_ctc_sai_router_interface_set_attr_hw` on statistics. -/
def hwStats (r : Rif) (id : Nat) : Status × RifDb rc :=
  if r.statsState && r.ingStatsid = 0 && r.egsStatsid = 0 then hwStatsOn sdk db oid r id
  else if !r.statsState && r.ingStatsid ≠ 0 && r.egsStatsid ≠ 0 then
    (.success, hwStatsOff sdk db oid r id)
  else (.success, db)

/-- Its end, on the router MAC. -/
def hwRouterMac (r : Rif) : Status × RifDb rc :=
  if r.isVirtual then
    if rc.chipType ≠ .goldengate then
      let x := db.setRouterMac sdk .hwRouterMac r.actualL3ifId (· ++ [r.srcMac])
      (mappingErrorCtc x.1, x.2)
    else
      match db.setRouterMac sdk .hwZeroRouterMac r.actualL3ifId (fun _ => [0]) with
      | (.none, db) =>
        let x := db.setRouterMac sdk .hwRouterMac r.actualL3ifId (fun _ => [0, r.srcMac])
        (mappingErrorCtc x.1, x.2)
      | (e, db) => (mappingErrorCtc e, db)
  else
    let x := db.setRouterMac sdk .hwRouterMac (rifNumber oid) (fun _ => [r.srcMac])
    (mappingErrorCtc x.1, x.2)

/-- `_ctc_sai_router_interface_set_attr_hw`. -/
def setAttrHw : Status × RifDb rc :=
  match db.rifs.lookup oid with
  | none => (.itemNotFound, db)
  | some r =>
    if rifTypeOf oid = some .bridge ∧ db.checkHwExist sdk oid = false then (.success, db)
    else if rifTypeOf oid = some .loopback ∨ rifTypeOf oid = some .mplsRouter then (.success, db)
    else if r.isVirtual then hwRouterMac sdk db oid r
    else
      match setProperties sdk (rifNumber oid) db r.hwProps with
      | (.success, db) =>
        match hwStats sdk db oid r (rifNumber oid) with
        | (.success, db) => hwRouterMac sdk db oid r
        | (status, db) => (status, db)
      | (status, db) => (status, db)

/-- `ctc_sai_router_interface_set_rif_attr`. -/
def setRifAttr (attr : RifAttr) : Status × RifDb rc :=
  match db.rifs.lookup oid with
  | none =>
    -- the set function, where there is one, finds no record
    match Rif.built.setAttr attr with
    | .error (.invalidAttribute n) => (.invalidAttribute n, db)
    | _ => (.itemNotFound, db)
  | some r =>
    match r.setAttr attr with
    | .error status => (status, db)
    | .ok r => setAttrHw sdk (db.setRif oid r) oid

end Hw

/-! ## Ports and LAGs -/

section Ports

variable {rc : RifChip} (sdk : RifSdk) (db : RifDb rc)

def portOid (c : Lchip) (gport : BitVec 32) : Oid := createObjectId .port (c.setWidth 8) 0 0 gport

/-- `ctc_sai_lag_binding_rif`. -/
def lagBindingRif (gport : BitVec 32) (bind : Bool) (t : L3ifType) : RifDb rc :=
  let oid := lagOid rc.lchip gport
  match db.lag.lag rc.lchip oid with
  | none => db
  | some l =>
    match t with
    | .phyIf => { db with lag := db.lag.setLag oid { l with isBindingRif := bind } }
    | .subIf =>
      if bind then
        { db with
          lag := db.lag.setLag oid { l with isBindingSubRif := true }
          subRifCount := Function.update db.subRifCount oid (db.subRifCount oid + 1) }
      else
        let n := db.subRifCount oid - 1
        { db with
          lag := if n = 0 then db.lag.setLag oid { l with isBindingSubRif := false } else db.lag
          subRifCount := Function.update db.subRifCount oid n }
    | .vlanIf => db

/-- `_ctc_sai_port_get_port_db` of a port: its `sub_if_ref_cnt`, the record
being made where there is none. -/
def getPortDb (gport : BitVec 32) : Except Status (BitVec 32) :=
  match db.ports (portOid rc.lchip gport) with
  | some cnt => .ok cnt
  | none =>
    match mappingErrorCtc (sdk.rc .chipCapability) with
    | .success =>
      if rc.maxPhyPortNum ≤ rc.pm.lport gport % 256 then .error .invalidParameter
      else if sdk.mem .port then .ok 0
      else .error .noMemory
    | status => .error status

/-- A write to `sub_if_ref_cnt`. -/
def RifDb.setSubIfRefCnt (gport : BitVec 32) (cnt : BitVec 32) : RifDb rc :=
  { db with ports := Function.update db.ports (portOid rc.lchip gport) (some cnt) }

/-- `_ctc_sai_router_interface_set_domain`: what a port is asked, the value
that makes it matter, and what is written to the interface then. -/
def setDomainStep (id : Nat) (gport : BitVec 32) (ask : PortQosProp) (p : L3ifProperty)
    (value : BitVec 32 → Option Nat) : Status × RifDb rc :=
  match mappingErrorCtc (sdk.rc (.portQos ask gport)) with
  | .success =>
    match value (sdk.portQos ask gport) with
    | none => (.success, db)
    | some v =>
      let x := db.setProperty sdk (.domainProp p gport) id p v
      (mappingErrorCtc x.1, x.2)
  | status => (status, db)

/-- A domain is written unless it is 0. -/
def domainValue (v : BitVec 32) : Option Nat := if v = 0 then none else some v.toNat

/-- The four steps of `_ctc_sai_router_interface_set_domain` for one port. -/
def domainSteps (rc : RifChip) : List (PortQosProp × L3ifProperty × (BitVec 32 → Option Nat)) :=
  [(.qosPolicy, .trustDscp, fun v => if v = rc.trustDscp then some 1 else none),
    (.dscpDomainIn, .igsQosDscpDomain, domainValue),
    (.replaceDscpEn, .dscpSelectMode, fun v => if v = 0 then none else some rc.dscpSelectMap),
    (.dscpDomainOut, .egsQosDscpDomain, domainValue)]

/-- `_ctc_sai_router_interface_set_domain` of the steps for each port. -/
def setDomains (id : Nat) :
    RifDb rc → List (BitVec 32 × PortQosProp × L3ifProperty × (BitVec 32 → Option Nat)) →
      Status × RifDb rc
  | db, [] => (.success, db)
  | db, (g, ask, p, value) :: rest =>
    match setDomainStep sdk db id g ask p value with
    | (.success, db) => setDomains id db rest
    | (status, db) => (status, db)

end Ports

/-! ## Creation -/

/-- What a call returns: its status, what it wrote to `*router_interface_id`,
the state it leaves, and whether it released the lock of the chip. -/
structure RifResult (rc : RifChip) where
  status : Status
  oid : Option Oid
  db : RifDb rc
  unlocked : Bool

/-- What stays the same during one creation. -/
structure RifNew where
  oid : Oid
  id : Nat
  t : RifType
  l3if : L3if
  isVirtual : Bool

/-- A stage of creation: what the next one needs, or the end of the call. -/
abbrev RifStage (rc : RifChip) (α : Type) := Except (Option (RifResult rc)) α

section Rollback

variable {rc : RifChip} (sdk : RifSdk) (db : RifDb rc)

/-- A failure that has been rolled back. -/
def rifFailed (status : Status) (db : RifDb rc) : Option (RifResult rc) :=
  some ⟨status, none, db, true⟩

/-- The label `error1`; the number goes to the L3IF pool whatever the type. -/
def rifError1 (id : Nat) : RifDb rc := { db with l3if := db.l3if.free id }

/-- `error2`. -/
def rifError2 (oid : Oid) (id : Nat) : RifDb rc :=
  rifError1 { db with rifs := db.rifs.erase oid } id

/-- The hardware interface that `error3` destroys. -/
def RifNew.hasL3if (n : RifNew) : Bool :=
  n.t ≠ .bridge && n.l3if.l3ifType.isSome && !n.isVirtual

/-- `error3`. -/
def rifError3 (n : RifNew) : RifDb rc :=
  let db := if n.hasL3if ∧ sdk.rc .l3ifDestroy = .none then db.setL3if n.id none else db
  rifError2 db n.oid n.id

def RifDb.statsidOf (oid : Oid) (f : Rif → Nat) : Nat := ((db.rifs.lookup oid).map f).getD 0

/-- `error4`. -/
def rifError4 (n : RifNew) : RifDb rc :=
  rifError3 sdk (db.destroyStats sdk (db.statsidOf n.oid Rif.ingStatsid)) n

/-- `error5`. -/
def rifError5 (n : RifNew) : RifDb rc :=
  rifError4 sdk (db.destroyStats sdk (db.statsidOf n.oid Rif.egsStatsid)) n

/-- `error6`, `gports` being the ports that were asked of the LAG.  It does not
ask whether the interface is virtual, and `p_port_db` is a pointer that only
the stage of a real sub-interface has set. -/
def rifError6 (n : RifNew) (gports : List (BitVec 32)) : Option (RifDb rc) :=
  match n.l3if.l3ifType with
  | some .phyIf =>
    let db := portWritesAll sdk .undoPhyIfEn (fun x => { x with phyIfEn := false }) db gports
    let db := if isLinkaggPort n.l3if.gport then lagBindingRif db n.l3if.gport false .phyIf else db
    some (rifError5 sdk db n)
  | some .subIf =>
    if isLinkaggPort n.l3if.gport then
      let db := portWritesAll sdk .undoSclProperty (fun x => { x with sclPortSvlan := false })
        db gports
      some (rifError5 sdk (lagBindingRif db n.l3if.gport false .subIf) n)
    else if n.isVirtual then none
    else
      match db.ports (portOid rc.lchip n.l3if.gport) with
      | none => none
      | some cnt =>
        let db := db.setSubIfRefCnt n.l3if.gport (cnt - 1)
        let db := if cnt - 1 = 0 then
          portWritesAll sdk .undoSclProperty (fun x => { x with sclPortSvlan := false })
            db [n.l3if.gport] else db
        some (rifError5 sdk db n)
  | _ => some (rifError5 sdk db n)

/-- A failure after the ports were written. -/
def rifFailed6 (status : Status) (n : RifNew) (gports : List (BitVec 32)) :
    Option (RifResult rc) :=
  (rifError6 sdk db n gports).bind (rifFailed status)

end Rollback

section Create

variable {rc : RifChip} (sdk : RifSdk) (db : RifDb rc)

/-- `_ctc_sai_router_interface_create_attr_check`. -/
def rifAttrCheck (attrs : List RifAttr) : Status :=
  match findAttribInList RifAttr.virtualRouterId? attrs with
  | none => .mandatoryAttributeMissing
  | some vr =>
    if sdk.object vr = false then .itemNotFound
    else
      match findAttribInList RifAttr.type? attrs with
      | none => .mandatoryAttributeMissing
      | some (some .vlan) =>
        match findAttribInList RifAttr.vlanId? attrs with
        | none => .mandatoryAttributeMissing
        | some vlan => if sdk.object vlan then .success else .itemNotFound
      | some (some .port) =>
        if (findAttribInList RifAttr.portId? attrs).isNone then .mandatoryAttributeMissing
        else .success
      | some (some .subPort) =>
        if (findAttribInList RifAttr.portId? attrs).isNone ||
          (findAttribInList RifAttr.outerVlanId? attrs).isNone then .mandatoryAttributeMissing
        else .success
      | some (some .qinqPort) =>
        if (findAttribInList RifAttr.outerVlanId? attrs).isNone then .mandatoryAttributeMissing
        else if (findAttribInList RifAttr.innerVlanId? attrs).isNone then .itemNotFound
        else .success
      | some (some .bridge) =>
        if (findAttribInList RifAttr.bridgeId? attrs).isNone then .mandatoryAttributeMissing
        else .success
      | _ => .success

/-- A number from the pool of the type. -/
def RifDb.allocNumber (t : RifType) : Option (Nat × RifDb rc) :=
  if t.vifBypass then db.vif.alloc.map fun x => (x.1, { db with vif := x.2 })
  else db.l3if.alloc.map fun x => (x.1, { db with l3if := x.2 })

/-- `_ctc_sai_router_interface_build_db`: a record of that id must not exist. -/
def RifDb.build (oid : Oid) : Except Status (RifDb rc) :=
  if sdk.mem .rif = false then .error .noMemory
  else if (db.rifs.lookup oid).isSome then .error .itemAlreadyExists
  else .ok (db.setRif oid .built)

/-- The `ctc_l3if_t` of the attributes. -/
def rifL3if (attrs : List RifAttr) (t : RifType) : L3if where
  l3ifType := t.l3ifType
  gport := ((findAttribInList RifAttr.portId? attrs).map (·.value)).getD 0
  vlanId :=
    if t = .subPort then (findAttribInList RifAttr.outerVlanId? attrs).getD 0
    else if t = .vlan then ((findAttribInList RifAttr.vlanId? attrs).map sdk.vlanId).getD 0
    else 0

/-- The record once the attributes were read. -/
def rifRead (attrs : List RifAttr) (t : RifType) (isVirtual : Bool) : Rif :=
  { Rif.built with
    isVirtual := isVirtual
    vlanOid := if t = .vlan then (findAttribInList RifAttr.vlanId? attrs).getD Oid.null
      else Oid.null
    outerVlanId := if t = .subPort then (findAttribInList RifAttr.outerVlanId? attrs).getD 0 else 0
    gport := ((findAttribInList RifAttr.portId? attrs).map (·.value)).getD 0 }

/-- BRIDGE_ID, if any. -/
def rifBridgeId (attrs : List RifAttr) : Oid :=
  (findAttribInList RifAttr.bridgeId? attrs).getD Oid.null

/-- The number of router MACs an interface can have. -/
def routerMacMax : ChipType → Option Nat
  | .goldengate | .duet2 => some 4
  | .tsingma => some 8
  | .greatbelt => none

/-- The interface a virtual one stands on.  Past the limit of router MACs the
call ends without a roll-back. -/
def createVirtual (n : RifNew) (r : Rif) : RifStage rc Rif :=
  if n.isVirtual then
    match sdk.rc .getL3ifId with
    | .none =>
      match sdk.rc .getRouterMac with
      | .none =>
        if (routerMacMax rc.chipType).any (· ≤ sdk.routerMacNum) then
          .error (some ⟨.noMemory, none, db, true⟩)
        else .ok { r with actualL3ifId := sdk.actualL3ifId.toNat }
      | e => .error (rifFailed (.ctc e) (rifError2 db n.oid n.id))
    | e => .error (rifFailed (.ctc e) (rifError2 db n.oid n.id))
  else .ok r

/-- `ctcs_l3if_create`. -/
def createL3if (n : RifNew) : RifStage rc (RifDb rc) :=
  if n.hasL3if then
    match mappingErrorCtc (sdk.rc .l3ifCreate) with
    | .success => .ok (db.setL3if n.id (some (.new n.l3if)))
    | status => .error (rifFailed status (rifError2 db n.oid n.id))
  else .ok db

/-- One statistics id: it is created and attached; where that fails the record
gets none, and the id is nobody's. -/
def createStatsid (n : RifNew) (egress : Bool) : Option (RifDb rc) :=
  (db.createStats sdk (.createStats egress)).map fun (id, db) =>
    let x := db.setProperty sdk (.propStats egress) n.id (if egress then .egsStats else .stats) id
    let id := if x.1 = .none then id else 0
    match x.2.rifs.lookup n.oid with
    | none => x.2
    | some r => x.2.setRif n.oid
        (if egress then { r with egsStatsid := id } else { r with ingStatsid := id })

/-- The statistics ids of a new interface; `on` is `stats_status`. -/
def createStatsids (n : RifNew) (on : Bool) : RifStage rc (RifDb rc) :=
  if n.isVirtual || !on then .ok db
  else
    match createStatsid sdk db n false with
    | none => .error (rifFailed .insufficientResources (rifError3 sdk db n))
    | some db =>
      match createStatsid sdk db n true with
      | none => .error (rifFailed .insufficientResources (rifError4 sdk db n))
      | some db => .ok db

/-- The members of the LAG of the interface, which is bound to it. -/
def createLagPorts (n : RifNew) (t : L3ifType) : RifStage rc (RifDb rc) :=
  match mappingErrorCtc (sdk.rc .getMemberPorts) with
  | .success => .ok (lagBindingRif db n.l3if.gport true t)
  | status => .error (rifFailed status (rifError5 sdk db n))

/-- The ports of a new interface, as the roll-back and the QoS domains want
them: those of a LAG, or the port of a PORT interface. -/
def RifNew.gports (n : RifNew) : List (BitVec 32) :=
  if n.isVirtual then []
  else if isLinkaggPort n.l3if.gport then
    match n.l3if.l3ifType with
    | some .phyIf | some .subIf => sdk.memberPorts
    | _ => []
  else if n.l3if.l3ifType = some .phyIf then [n.l3if.gport]
  else []

/-- A write to the ports of a new interface. -/
def createPortWrites (n : RifNew) (site : BitVec 32 → RifSite) (f : PortRegs → PortRegs)
    (gports : List (BitVec 32)) : RifStage rc (RifDb rc) :=
  match portWrites sdk site f db gports with
  | (.success, db) => .ok db
  | (status, db) => .error (rifFailed status (rifError5 sdk db n))

def createPorts (n : RifNew) : RifStage rc (RifDb rc) :=
  if n.isVirtual then .ok db
  else
    match n.l3if.l3ifType with
    | some .phyIf =>
      (if isLinkaggPort n.l3if.gport then createLagPorts sdk db n .phyIf else .ok db).bind fun db =>
        createPortWrites sdk db n .phyIfEn (fun x => { x with phyIfEn := true }) (n.gports sdk)
    | some .subIf =>
      if isLinkaggPort n.l3if.gport then
        (createLagPorts sdk db n .subIf).bind fun db =>
          createPortWrites sdk db n .sclProperty (fun x => { x with sclPortSvlan := true })
            (n.gports sdk)
      else
        match getPortDb sdk db n.l3if.gport with
        | .error status => .error (some ⟨status, none, db, false⟩)
        | .ok cnt =>
          let db := db.setSubIfRefCnt n.l3if.gport (cnt + 1)
          if cnt + 1 = 1 then
            createPortWrites sdk db n .sclProperty (fun x => { x with sclPortSvlan := true })
              [n.l3if.gport]
          else .ok db
    | _ => .ok db

def rifAttrLoop (r : Rif) : List RifAttr → Status × Rif
  | [] => (.success, r)
  | .bridgeId _ :: rest | .isVirtual _ :: rest => rifAttrLoop r rest
  | a :: rest =>
    match r.setAttr a with
    | .ok r => rifAttrLoop r rest
    | .error status => (status, r)

/-- The attribute loop of creation and the default of the MAC address.  Past
255 attributes the counter, a `uint8`, starts again. -/
def createAttrs (n : RifNew) (attrs : List RifAttr) : RifStage rc (RifDb rc) :=
  match db.rifs.lookup n.oid with
  | none => .error none
  | some r =>
    match rifAttrLoop r (attrs.take 256) with
    | (.success, r) =>
      if 255 < attrs.length then .error none
      else
        let vr := (findAttribInList RifAttr.virtualRouterId? attrs).getD Oid.null
        .ok (db.setRif n.oid
          (if (findAttribInList RifAttr.srcMacAddress? attrs).isSome then r
            else { r with srcMac := sdk.virtualRouterMac vr }))
    | (status, r) => .error (rifFailed6 sdk (db.setRif n.oid r) status n (n.gports sdk))

/-- `_ctc_sai_router_interface_set_attr_hw` in creation. -/
def createHw (n : RifNew) : RifStage rc (RifDb rc) :=
  match setAttrHw sdk db n.oid with
  | (.success, db) => .ok db
  | (status, db) => .error (rifFailed6 sdk db status n (n.gports sdk))

/-- The QoS domains of the ports, on the chips that want them. -/
def createDomains (n : RifNew) : RifStage rc (RifDb rc) :=
  if rc.chipType = .duet2 ∨ rc.chipType = .tsingma then
    match setDomains sdk n.id db
      ((n.gports sdk).flatMap fun g => (domainSteps rc).map fun s => (g, s)) with
    | (.success, db) => .ok db
    | (status, db) => .error (rifFailed6 sdk db status n (n.gports sdk))
  else .ok db

/-- `create_rif` for a type that has no interface of the hardware. -/
def createVif (oid : Oid) (attrs : List RifAttr) : RifResult rc :=
  -- `_create_attr_check` has found a virtual router
  let vr := (findAttribInList RifAttr.virtualRouterId? attrs).getD Oid.null
  ⟨.success, some oid, db.setRif oid { Rif.built with
    dot1dBridgeId := rifBridgeId attrs
    vrfId := vr.value.setWidth 16 }, true⟩

/-- `create_rif` for the other types, from IS_VIRTUAL on. -/
def createReal (n : RifNew) (attrs : List RifAttr) : RifStage rc (RifResult rc) := do
  let r := rifRead attrs n.t n.isVirtual
  let r ← createVirtual sdk (db.setRif n.oid r) n r
  let db := db.setRif n.oid { r with dot1dBridgeId := rifBridgeId attrs }
  let db ← createL3if sdk db n
  let db ← createStatsids sdk db n
    ((findAttribInList RifAttr.customStatsState? attrs).getD true)
  let db ← createPorts sdk db n
  let db ← createAttrs sdk db n attrs
  let db ← createHw sdk db n
  let db ← createDomains sdk db n
  return ⟨.success, some n.oid, db, true⟩

/-- `ctc_sai_router_interface_create_rif`. -/
def createRif (attrs : List RifAttr) : Option (RifResult rc) :=
  match rifAttrCheck sdk attrs with
  | .success =>
    match (findAttribInList RifAttr.type? attrs).join with
    | none => some ⟨.success, none, db, true⟩
    | some t =>
      match db.allocNumber t with
      | none => rifFailed .insufficientResources db
      | some (id, db) =>
        let oid := rifOid rc.lchip t id
        match db.build sdk oid with
        | .error status => rifFailed status (rifError1 db id)
        | .ok db =>
          if t.vifBypass then some (createVif db oid attrs)
          else if (findAttribInList RifAttr.isVirtual? attrs).isSome ∧
              rc.chipType = .goldengate then
            rifFailed .notSupported (rifError2 db oid id)
          else
            let isVirtual := (findAttribInList RifAttr.isVirtual? attrs).getD false
            result (createReal sdk db ⟨oid, id, t, rifL3if sdk attrs t, isVirtual⟩ attrs)
  | status => rifFailed status db

end Create

/-! ## Removal -/

section Remove

variable {rc : RifChip} (sdk : RifSdk) (db : RifDb rc) (oid : Oid)

/-- The members of a LAG as removal sees them: none where the SDK fails. -/
def removeMemberPorts : List (BitVec 32) :=
  if sdk.rc .getMemberPorts = .none then sdk.memberPorts else []

/-- The ports of an interface that is removed: `Except.error none` is a LAG
record that is read and not there, and the end of the call is that of a port
that has no record. -/
def removePorts (r : Rif) (t : L3ifType) : RifStage rc (RifDb rc) :=
  if r.isVirtual then .ok db
  else
    match t with
    | .phyIf =>
      if isLinkaggPort r.gport then
        .ok (portWritesAll sdk .phyIfEn (fun x => { x with phyIfEn := false })
          (lagBindingRif db r.gport false .phyIf) (removeMemberPorts sdk))
      else .ok (portWritesAll sdk .phyIfEn (fun x => { x with phyIfEn := false }) db [r.gport])
    | .subIf =>
      if isLinkaggPort r.gport then
        let db := lagBindingRif db r.gport false .subIf
        match db.lag.lag rc.lchip (lagOid rc.lchip r.gport) with
        | none => .error none
        | some l =>
          .ok (if l.isBindingSubRif then db
            else portWritesAll sdk .sclProperty (fun x => { x with sclPortSvlan := false })
              db (removeMemberPorts sdk))
      else
        match getPortDb sdk db r.gport with
        | .error status => .error (some ⟨status, none, db, false⟩)
        | .ok cnt =>
          let db := db.setSubIfRefCnt r.gport (cnt - 1)
          .ok (if cnt - 1 = 0 then
            portWritesAll sdk .sclProperty (fun x => { x with sclPortSvlan := false })
              db [r.gport] else db)
    | .vlanIf => .ok db

/-- The statistics ids or, of a virtual interface, the router MAC. -/
def removeStats (r : Rif) : RifStage rc (RifDb rc) :=
  if r.isVirtual then
    if rc.chipType ≠ .goldengate then
      match db.setRouterMac sdk .removeRouterMac r.actualL3ifId (·.erase r.srcMac) with
      | (.none, db) => .ok db
      | (e, db) => .error (some ⟨mappingErrorCtc e, none, db, true⟩)
    else .ok db
  else if r.statsState then
    .ok ((db.destroyStats sdk r.ingStatsid).destroyStats sdk r.egsStatsid)
  else .ok db

/-- `remove_rif` for the types that have an interface of the hardware. -/
def removeReal (r : Rif) (t : L3ifType) : RifStage rc (RifResult rc) := do
  let db ← removePorts sdk db r t
  let id := rifNumber oid
  let db := if !r.isVirtual ∧ sdk.rc .l3ifDestroy = .none then db.setL3if id none else db
  let db := { db with l3if := db.l3if.free id }
  let db ← removeStats sdk db r
  return ⟨.success, none, { db with rifs := db.rifs.erase oid }, true⟩

/-- `ctc_sai_router_interface_remove_rif`. -/
def removeRif : Option (RifResult rc) :=
  match db.rifs.lookup oid with
  | none => rifFailed .itemNotFound db
  | some r =>
    match rifTypeOf oid with
    | none => some ⟨.success, none, db, true⟩
    | some t =>
      match t.l3ifType with
      | none => some ⟨.success, none,
          { db with vif := db.vif.free (rifNumber oid), rifs := db.rifs.erase oid }, true⟩
      | some lt =>
        if t = .bridge ∧ db.checkHwExist sdk oid then rifFailed .itemAlreadyExists db
        else result (removeReal sdk db oid r lt)

end Remove

end CtcSai
