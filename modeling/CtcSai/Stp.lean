/-
# `Stp` — ctc_sai_stp.c

An STP instance keeps three bitmaps, of the VLANs and of the ports and LAGs
bound to it, and two counts beside them.  Five functions write them; each
writes a bit and a count without asking what the bit was.
-/
import CtcSai.Bulk
import CtcSai.Chip
import CtcSai.Lag

namespace CtcSai

open Function IdPool KeyedTable

/-! ## Records -/

/-- `ctc_stp_state_t`. -/
inductive CtcStpState where
  | forwarding | blocking | learning | unavail
deriving DecidableEq, Repr

/-- `sai_bridge_port_type_t`. -/
inductive BridgePortType where
  | port | subPort | router1Q | router1D | tunnel
deriving DecidableEq, Repr

/-- `ctc_sai_bridge_port_t`, the fields that STP reads and writes. -/
structure StpBridgePort where
  portType : BridgePortType
  gport : BitVec 32
  stpPortBindBits : Finset (BitVec 16)
  stpPortBindCount : BitVec 32
  stpPortState : BitVec 16 → CtcStpState

/-- `ctc_sai_stp_info_t`; the bitmaps are the sets of their bits. -/
structure StpInfo where
  vlanBindBits : Finset (BitVec 12)
  portBindBits : Finset Nat
  vlanBindCount : BitVec 32
  /-- Ports and LAGs together. -/
  portBindCount : BitVec 32
  lagBindBits : Finset (BitVec 8)
deriving DecidableEq

def StpInfo.zero : StpInfo := ⟨∅, ∅, 0, 0, ∅⟩

/-- What does not change while the adapter runs on one chip. -/
structure StpChip where
  lchip : Lchip
  pm : PortMap
  /-- The pool of instance ids starts at 0, and `stp_port_state` of a bridge
  port has 128 elements. -/
  ids : Allocator
  ids_top : ids.lo + ids.size ≤ 128

/-- CTC_IS_LINKAGG_PORT: global chip 0x1f. -/
def isLinkaggPort (gport : BitVec 32) : Bool := gport >>> 8 = 0x1f

/-- The number of a LAG: CTC_MAP_LPORT_TO_GPORT of global chip 0x1f. -/
def lagGport (tid : BitVec 8) : BitVec 32 := 0x1f00 + tid.setWidth 32

/-- The database of one chip, as far as STP goes. -/
structure StpDb (ch : StpChip) where
  stps : Table Oid StpInfo
  stpPorts : Table Oid CtcStpState
  bridgePorts : Table Oid StpBridgePort
  /-- `stp_id` of the record of each VLAN that exists. -/
  vlanStp : BitVec 12 → Option (BitVec 8)
  pool : Pool ch.ids

def stpOid (c : Lchip) (id : BitVec 32) : Oid := createObjectId .stp (c.setWidth 8) 0 0 id

/-- The object id of an STP port. -/
def stpPortOid (c : Lchip) (stp : BitVec 32) (gport : BitVec 32) : Oid :=
  createObjectId .stpPort (c.setWidth 8) 0 (stp.setWidth 16) gport

/-- The object id of the bridge port that a port or a LAG is. -/
def bridgePortOid (c : Lchip) (gport : BitVec 32) : Oid :=
  createObjectId .bridgePort (c.setWidth 8) 0 0 gport

/-- The attributes of an STP port. -/
inductive StpPortAttr where
  | stp (oid : Oid)
  | bridgePort (oid : Oid)
  | state (s : BitVec 32)
deriving DecidableEq, Repr

def StpPortAttr.stp? : StpPortAttr → Option Oid
  | stp o => some o
  | _ => none

def StpPortAttr.bridgePort? : StpPortAttr → Option Oid
  | bridgePort o => some o
  | _ => none

def StpPortAttr.state? : StpPortAttr → Option (BitVec 32)
  | state s => some s
  | _ => none

/-- `ctc_sai_stp_map_ctc_port_state`, of the states that
`ctc_sai_stp_check_port_state` lets pass: learning, forwarding, blocking. -/
def stpMapCtcPortState (s : BitVec 32) : Option CtcStpState :=
  if s = 0 then some .learning
  else if s = 1 then some .forwarding
  else if s = 2 then some .blocking
  else none

/-- The `mem_malloc` calls of the module and of the object table. -/
inductive StpMem where
  | stp | stpNode | stpPort | stpPortNode | portList
deriving DecidableEq, Repr

/-- What the SDK, the memory and the LAG database answer during one API call. -/
structure StpSdk where
  /-- `ctcs_stp_set_state` of a port. -/
  setState : BitVec 32 → CtcE
  setVlanStpid : CtcE
  destroyVlan : CtcE
  mem : StpMem → Bool
  /-- The member bits of a LAG that exists. -/
  lagBits : BitVec 32 → Option (List Nat)

section Calls

variable {ch : StpChip} (sdk : StpSdk) (db : StpDb ch)

/-! ## Instances -/

/-- `ctc_sai_stp_create_stp`; without memory for the record the status is still
that of the id. -/
def createStp : Status × Option Oid × StpDb ch :=
  match db.pool.alloc with
  | none => (.insufficientResources, none, db)
  | some (i, pool) =>
    let oid := stpOid ch.lchip (BitVec.ofNat 32 i)
    let back := { db with pool := pool.free i }
    if !sdk.mem .stp then (.success, some oid, back)
    else if (db.stps.lookup oid).isSome then (.itemAlreadyExists, some oid, back)
    else if !sdk.mem .stpNode then (.noMemory, some oid, back)
    else (.success, some oid, { db with stps := db.stps.insert oid .zero, pool := pool })

/-- `ctc_sai_stp_remove_stp`. -/
def removeStp (oid : Oid) : Status × StpDb ch :=
  match db.stps.lookup oid with
  | none => (.invalidObjectId, db)
  | some stp =>
    if stp.vlanBindCount ≠ 0 then (.failure, db)
    else (.success, { db with stps := db.stps.erase oid, pool := db.pool.free oid.value.toNat })

/-! ## STP ports -/

/-- The loop of `ctcs_stp_set_state` over the members of a LAG. -/
def setStateMembers (lchip : Lchip) (pm : PortMap) : List Nat → Status
  | [] => .success
  | b :: rest =>
    match mappingErrorCtc (sdk.setState (pm.gport lchip b)) with
    | .success => setStateMembers lchip pm rest
    | status => status

/-- The state of a port, or of the members of a LAG, in the hardware. -/
def setStateGport (gport : BitVec 32) : Status :=
  if isLinkaggPort gport then
    match sdk.lagBits gport with
    | none => .invalidObjectId
    | some bits => setStateMembers sdk ch.lchip ch.pm bits
  else mappingErrorCtc (sdk.setState gport)

/-- The bit of a port or a LAG is set, and one more is counted. -/
def StpInfo.bindPort (stp : StpInfo) (pm : PortMap) (gport : BitVec 32) : StpInfo :=
  if isLinkaggPort gport then { stp with
    lagBindBits := insert (gport.setWidth 8) stp.lagBindBits
    portBindCount := stp.portBindCount + 1 }
  else { stp with
    portBindBits := insert (pm.lport gport) stp.portBindBits
    portBindCount := stp.portBindCount + 1 }

/-- The bit of a port or a LAG is cleared, and one less is counted. -/
def StpInfo.unbindPort (stp : StpInfo) (pm : PortMap) (gport : BitVec 32) : StpInfo :=
  if isLinkaggPort gport then { stp with
    lagBindBits := stp.lagBindBits.erase (gport.setWidth 8)
    portBindCount := stp.portBindCount - 1 }
  else { stp with
    portBindBits := stp.portBindBits.erase (pm.lport gport)
    portBindCount := stp.portBindCount - 1 }

/-- `_ctc_sai_stp_create_stp_port`; that the object is there already is not
asked, and neither is what adding it answers. -/
def createStpPort (attrs : List StpPortAttr) : Status × Option Oid × StpDb ch :=
  if attrs.isEmpty then (.invalidParameter, none, db)
  else
    match findAttribInList StpPortAttr.stp? attrs, findAttribInList StpPortAttr.bridgePort? attrs,
        findAttribInList StpPortAttr.state? attrs with
    | some stpId, some bridgePortId, some s =>
      match stpMapCtcPortState s with
      | none => (.invalidParameter, none, db)
      | some state =>
        match db.bridgePorts.lookup bridgePortId with
        | none => (.itemNotFound, none, db)
        | some bp =>
          if bp.portType ≠ .port then (.invalidObjectId, none, db)
          else
            match db.stps.lookup stpId with
            | none => (.itemNotFound, none, db)
            | some stp =>
              match @setStateGport ch sdk bp.gport with
              | .success =>
                let oid := stpPortOid ch.lchip stpId.value bp.gport
                let db := { db with
                  stps := db.stps.insert stpId (stp.bindPort ch.pm bp.gport) }
                -- the status is not changed where there is no memory
                if !sdk.mem .stpPort then (.success, some oid, db)
                else
                  let id := stpId.value.setWidth 16
                  (.success, some oid, { db with
                    stpPorts := if (db.stpPorts.lookup oid).isNone && sdk.mem .stpPortNode then
                      db.stpPorts.insert oid state else db.stpPorts
                    bridgePorts := db.bridgePorts.insert bridgePortId { bp with
                      stpPortBindBits := insert id bp.stpPortBindBits
                      stpPortBindCount := bp.stpPortBindCount + 1
                      stpPortState := update bp.stpPortState id state } })
              | status => (status, none, db)
    | _, _, _ => (.mandatoryAttributeMissing, none, db)

/-- `_ctc_sai_stp_remove_stp_port`; that the object is there is not asked.
Without the bridge port a null pointer is written through. -/
def removeStpPort (oid : Oid) : Option (Status × StpDb ch) :=
  if oid = Oid.null then some (.invalidObjectId, db)
  else
    let stpId := stpOid oid.lchip (oid.value2.setWidth 32)
    match db.stps.lookup stpId with
    | none => some (.itemNotFound, db)
    | some stp =>
      match @setStateGport ch sdk oid.value with
      | .success =>
        match db.bridgePorts.lookup (bridgePortOid oid.lchip oid.value) with
        | none => none
        | some bp => some (.success, { db with
            stps := db.stps.insert stpId (stp.unbindPort ch.pm oid.value)
            stpPorts := db.stpPorts.erase oid
            bridgePorts := db.bridgePorts.insert (bridgePortOid oid.lchip oid.value) { bp with
              stpPortBindBits := bp.stpPortBindBits.erase oid.value2
              stpPortBindCount := bp.stpPortBindCount - 1
              stpPortState := update bp.stpPortState oid.value2 .forwarding } })
      | status => some (status, db)

/-- `ctc_sai_stp_create_stp_ports`. -/
def createStpPorts (mode : BulkOpErrorMode) (objects : List (StpSdk × List StpPortAttr)) :
    Option (List (Status × Option Oid) × StpDb ch) :=
  bulkLoop (fun db object => some (createStpPort object.1 db object.2)) mode db objects

/-- `ctc_sai_stp_remove_stp_ports`. -/
def removeStpPorts (mode : BulkOpErrorMode) (objects : List (StpSdk × Oid)) :
    Option (List (Status × Unit) × StpDb ch) :=
  bulkLoop (fun db object => (removeStpPort object.1 db object.2).map fun r => (r.1, (), r.2))
    mode db objects

/-! ## VLANs -/

/-- `ctc_sai_stp_set_instance`; instance 0 keeps no VLANs. -/
def stpSetInstance (vlanId : BitVec 12) (oid : Oid) (isAdd : Bool) : Status × StpDb ch :=
  match db.stps.lookup oid with
  | none => (.itemNotFound, db)
  | some stp =>
    if isAdd then
      match mappingErrorCtc sdk.setVlanStpid with
      | .success =>
        if oid.value = 0 then (.success, db)
        else (.success, { db with stps := db.stps.insert oid { stp with
          vlanBindBits := insert vlanId stp.vlanBindBits
          vlanBindCount := stp.vlanBindCount + 1 } })
      | status => (status, db)
    else if oid.value = 0 then (.success, db)
    else (.success, { db with stps := db.stps.insert oid { stp with
      vlanBindBits := stp.vlanBindBits.erase vlanId
      vlanBindCount := stp.vlanBindCount - 1 } })

/-- STP_INSTANCE of `ctc_sai_vlan_set_info`, for a VLAN that is there or is
being created. -/
def vlanSetStpInstance (vlanId : BitVec 12) (oid : Oid) : Status × StpDb ch :=
  match stpSetInstance sdk db vlanId oid true with
  | (.success, db) => (.success, { db with
      vlanStp := update db.vlanStp vlanId (some (oid.value.setWidth 8)) })
  | (status, db) => (status, db)

/-- What `ctc_sai_vlan_remove_vlan` does to STP. -/
def vlanRemoveStp (vlanId : BitVec 12) : Status × StpDb ch :=
  match db.vlanStp vlanId with
  | none => (.invalidObjectId, db)
  | some id =>
    match stpSetInstance sdk db vlanId (stpOid ch.lchip (id.setWidth 32)) false with
    | (.success, db) =>
      match mappingErrorCtc sdk.destroyVlan with
      | .success => (.success, { db with vlanStp := update db.vlanStp vlanId none })
      | status => (status, db)
    | (status, db) => (status, db)

/-! ## PORT_LIST -/

/-- What the loops of PORT_LIST write: the ports, then the LAGs. -/
def stpPortList (ch : StpChip) (oid : Oid) (stp : StpInfo) : List Oid :=
  ((List.range 256).filter fun b => b ∈ stp.portBindBits).map
      (fun b => stpPortOid oid.lchip oid.value (ch.pm.gport ch.lchip b)) ++
    ((List.range 256).filter fun b => BitVec.ofNat 8 b ∈ stp.lagBindBits).map
      (fun b => stpPortOid oid.lchip oid.value (lagGport (BitVec.ofNat 8 b)))

/-- PORT_LIST of `ctc_sai_stp_get_stp_info`.  The buffer has `port_bind_count`
elements; a list that is longer is written past its end. -/
def getStpPortList (oid : Oid) (list : AttrList Oid) : Option (Status × AttrList Oid) :=
  match db.stps.lookup oid with
  | none => some (.invalidObjectId, list)
  | some stp =>
    if list.count < stp.portBindCount.toNat then some (.bufferOverflow, list)
    else if !sdk.mem .portList then some (.noMemory, list)
    else if stp.portBindCount.toNat < (stpPortList ch oid stp).length then none
    else some (fillObjectList (some (stpPortList ch oid stp)) list)

end Calls

end CtcSai
