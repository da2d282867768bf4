/-
# `BridgeTunnels` — what else uses the ids and the ports of bridge ports

A tunnel of ctc_sai_tunnel.c takes a logic port that its bridge port borrows; a
sub-interface of ctc_sai_router_interface.c switches the same hash of a port as
a sub-port does, under a count of its own.
-/
import CtcSai.BridgePorts

namespace CtcSai

/-! ## Tunnels -/

/-- The tunnels that have a logic port. -/
def TunnelType.hasLogicPort : TunnelType → Bool
  | .vxlan | .mpls | .mplsL2 => true
  | .ipinip | .ipinipGre => false

def tunnelOid (c : Lchip) (id : BitVec 32) : Oid := createObjectId .tunnel (c.setWidth 8) 0 0 id

/-- The attributes of a tunnel that its creation may stumble over. -/
inductive TunnelAttr where
  /-- `none` is a number past SAI_TUNNEL_TYPE_MPLS_L2. -/
  | type (t : Option TunnelType)
  | underlayInterface (oid : Oid)
  | overlayInterface (oid : Oid)
  | encapTtlMode (v : BitVec 8)
  | encapTtlVal (v : BitVec 8)
  | encapDscpMode (v : BitVec 8)
  | encapDscpVal (v : BitVec 8)
  | encapEcnMode (v : BitVec 8)
  | encapMappers (maps : List Oid)
  | decapEcnMode (v : BitVec 8)
  | decapMappers (maps : List Oid)
  | decapTtlMode (v : BitVec 8)
  | decapDscpMode (v : BitVec 8)
deriving DecidableEq

namespace TunnelAttr

def type? : TunnelAttr → Option (Option TunnelType)
  | type t => some t
  | _ => none

def underlayInterface? : TunnelAttr → Option Oid
  | underlayInterface oid => some oid
  | _ => none

def overlayInterface? : TunnelAttr → Option Oid
  | overlayInterface oid => some oid
  | _ => none

def encapTtlMode? : TunnelAttr → Option (BitVec 8)
  | encapTtlMode v => some v
  | _ => none

def encapTtlVal? : TunnelAttr → Option (BitVec 8)
  | encapTtlVal v => some v
  | _ => none

def encapDscpMode? : TunnelAttr → Option (BitVec 8)
  | encapDscpMode v => some v
  | _ => none

def encapDscpVal? : TunnelAttr → Option (BitVec 8)
  | encapDscpVal v => some v
  | _ => none

def encapEcnMode? : TunnelAttr → Option (BitVec 8)
  | encapEcnMode v => some v
  | _ => none

def encapMappers? : TunnelAttr → Option (List Oid)
  | encapMappers maps => some maps
  | _ => none

def decapEcnMode? : TunnelAttr → Option (BitVec 8)
  | decapEcnMode v => some v
  | _ => none

def decapMappers? : TunnelAttr → Option (List Oid)
  | decapMappers maps => some maps
  | _ => none

def decapTtlMode? : TunnelAttr → Option (BitVec 8)
  | decapTtlMode v => some v
  | _ => none

def decapDscpMode? : TunnelAttr → Option (BitVec 8)
  | decapDscpMode v => some v
  | _ => none

end TunnelAttr

/-- What the databases of other objects and the memory answer. -/
structure TunnelSdk where
  /-- `ctc_sai_db_check_object_property_exist`, of an interface. -/
  hasInterface : Oid → Bool
  /-- The record of a tunnel map is there. -/
  hasMap : Oid → Bool
  memTunnel : Bool
  memProperty : Bool

/-- How a creation ends early: with a rollback, or at once. -/
inductive TunnelStop where
  | rollBack (status : Status)
  | atOnce (status : Status)
deriving DecidableEq

section Checks

variable (sdk : TunnelSdk) (attrs : List TunnelAttr)

/-- The index of the attribute that `sel` reads. -/
def tunnelAttrIndex {β : Type} (sel : TunnelAttr → Option β) : Nat :=
  attrs.findIdx fun a => (sel a).isSome

/-- A mode past its last value is refused at once. -/
def modeCheck (sel : TunnelAttr → Option (BitVec 8)) (max : BitVec 8) : Option TunnelStop :=
  match findAttribInList sel attrs with
  | some v =>
    if max < v then some (.atOnce (.invalidAttrValue (tunnelAttrIndex attrs sel))) else none
  | none => none

/-- In the pipe model a value must be given. -/
def pipeCheck (mode val : TunnelAttr → Option (BitVec 8)) : Option TunnelStop :=
  if findAttribInList mode attrs = some 1 ∧ findAttribInList val attrs = none then
    some (.rollBack .mandatoryAttributeMissing)
  else none

def mandatoryModeCheck (sel : TunnelAttr → Option (BitVec 8)) (max : BitVec 8) :
    Option TunnelStop :=
  if findAttribInList sel attrs = none then some (.rollBack .mandatoryAttributeMissing)
  else modeCheck attrs sel max

def mappersCheck (sel : TunnelAttr → Option (List Oid)) : Option TunnelStop :=
  match findAttribInList sel attrs with
  | some maps =>
    if maps.all sdk.hasMap then none
    else some (.rollBack (.invalidAttrValue (tunnelAttrIndex attrs sel)))
  | none => none

/-- An interface is given, unless it may be missing, and is there. -/
def interfaceCheck (sel : TunnelAttr → Option Oid) (optional : Bool) : Option TunnelStop :=
  match findAttribInList sel attrs with
  | none => if optional then none else some (.rollBack .mandatoryAttributeMissing)
  | some oid =>
    if sdk.hasInterface oid then none
    else some (.rollBack (.invalidAttrValue (tunnelAttrIndex attrs sel)))

/-- The checks of `ctc_sai_tunnel_create_tunnel` in their order. -/
def tunnelChecks (t : TunnelType) : List (Option TunnelStop) :=
  (if t = .ipinip ∨ t = .ipinipGre ∨ t = .vxlan then
    [interfaceCheck sdk attrs TunnelAttr.underlayInterface? false,
      interfaceCheck sdk attrs TunnelAttr.overlayInterface? (t = .vxlan)]
    else []) ++
  [modeCheck attrs TunnelAttr.encapTtlMode? 1,
    pipeCheck attrs TunnelAttr.encapTtlMode? TunnelAttr.encapTtlVal?,
    modeCheck attrs TunnelAttr.encapDscpMode? 1,
    pipeCheck attrs TunnelAttr.encapDscpMode? TunnelAttr.encapDscpVal?,
    modeCheck attrs TunnelAttr.encapEcnMode? 1,
    mappersCheck sdk attrs TunnelAttr.encapMappers?,
    modeCheck attrs TunnelAttr.decapEcnMode? 2,
    mappersCheck sdk attrs TunnelAttr.decapMappers?] ++
  (if t = .ipinip ∨ t = .ipinipGre then
    [mandatoryModeCheck attrs TunnelAttr.decapTtlMode? 1,
      mandatoryModeCheck attrs TunnelAttr.decapDscpMode? 1]
    else [])

/-- The first check that stops a creation. -/
def tunnelStop (t : TunnelType) : Option TunnelStop := (tunnelChecks sdk attrs t).findSome? id

end Checks

section Calls

variable {bc : BridgeChip} (c : Lchip) (sdk : TunnelSdk) (db : BridgeDb bc)

/-- The logic port of a new tunnel; `none` where there is none left. -/
def allocTunnelPort (t : TunnelType) : Option (BitVec 16 × BridgeDb bc) :=
  if t.hasLogicPort then
    db.logicPorts.alloc.map fun r => (BitVec.ofNat 16 r.1, { db with logicPorts := r.2 })
  else some (0, db)

/-- `roll_back_0` of `ctc_sai_tunnel_create_tunnel`. -/
def freeTunnelPort (t : TunnelType) (logicPort : BitVec 16) : BridgeDb bc :=
  if t.hasLogicPort then { db with logicPorts := db.logicPorts.free logicPort.toNat } else db

/-- `ctc_sai_tunnel_create_tunnel`.  The next hop of a tunnel is written later. -/
def createTunnel (attrs : List TunnelAttr) : Status × Option Oid × BridgeDb bc :=
  match findAttribInList TunnelAttr.type? attrs with
  | none => (.mandatoryAttributeMissing, none, db)
  | some none => (.invalidAttrValue (tunnelAttrIndex attrs TunnelAttr.type?), none, db)
  | some (some t) =>
    if !sdk.memTunnel then (.noMemory, none, db)
    else
      match allocTunnelPort db t with
      | none => (.insufficientResources, none, db)
      | some (logicPort, db) =>
        match tunnelStop sdk attrs t with
        | some (.atOnce status) => (status, none, db)
        | some (.rollBack status) => (status, none, freeTunnelPort db t logicPort)
        | none =>
          let db := db.lock
          match db.commonIds.alloc with
          | none => (.insufficientResources, none, freeTunnelPort db.unlock t logicPort)
          | some (id, commonIds) =>
            let db := { db with commonIds := commonIds }
            let oid := tunnelOid c (BitVec.ofNat 32 id)
            let rollBack (status : Status) :=
              (status, some oid,
                freeTunnelPort { db with commonIds := db.commonIds.free id }.unlock t logicPort)
            if (db.tunnels.lookup oid).isSome then rollBack .itemAlreadyExists
            else if !sdk.memProperty then rollBack .noMemory
            else (.success, some oid, { db with
              tunnels := db.tunnels.insert oid
                ⟨BitVec.ofNat 32 id, t, Oid.null, logicPort⟩ }.unlock)

/-- `ctc_sai_tunnel_remove_tunnel`: the lock it takes is that of chip 0, and the
logic port stays taken. -/
def removeTunnel (oid : Oid) : Status × BridgeDb bc :=
  let db := if c = 0 then db.lock else db
  match db.tunnels.lookup oid with
  | none => (.invalidObjectId, db.unlock)
  | some t => (.success, { db with
      tunnels := db.tunnels.erase oid
      commonIds := db.commonIds.free t.tunnelId.toNat }.unlock)

/-! ## Sub-interfaces -/

/-- The number of sub-interfaces of a port or a LAG. -/
def subIfRefCnt (gport : BitVec 32) : Nat :=
  if isLinkaggPort gport then
    ((db.lags.lookup (lagOid c gport)).map fun l => l.bindingSubRifCount.toNat).getD 0
  else ((db.ports (portOid c gport)).map fun p => p.subIfRefCnt.toNat).getD 0

def setPortRefs (gport : BitVec 32) (p : PortRefs) : BridgeDb bc :=
  { db with ports := Function.update db.ports (portOid c gport) (some p) }

/-- The hash of the ports of a port or a LAG. -/
def writeSubIfHash (on : Bool) (gport : BitVec 32) : BridgeDb bc :=
  ((portsOf c db (bc.pm.gport c) gport).getD []).foldl
    (fun db g => db.writePort g fun r => { r with sclPortSvlan := on }) db

/-- What `ctc_sai_router_interface_create_rif` does to the port of a new
sub-interface, where the SDK does what it is asked. -/
def bindSubIf (gport : BitVec 32) : BridgeDb bc :=
  if isLinkaggPort gport then
    match db.lags.lookup (lagOid c gport) with
    | some l =>
      let db := { db with lags := db.lags.insert (lagOid c gport) { l with
        isBindingSubRif := true, bindingSubRifCount := l.bindingSubRifCount + 1 } }
      writeSubIfHash c db true gport
    | none => db
  else
    let p := (db.ports (portOid c gport)).getD ⟨0, 0⟩
    let db := setPortRefs c db gport { p with subIfRefCnt := p.subIfRefCnt + 1 }
    if p.subIfRefCnt + 1 = 1 then writeSubIfHash c db true gport else db

/-- What `ctc_sai_router_interface_remove_rif` does to it. -/
def unbindSubIf (gport : BitVec 32) : BridgeDb bc :=
  if isLinkaggPort gport then
    match db.lags.lookup (lagOid c gport) with
    | some l =>
      let cnt := l.bindingSubRifCount - 1
      let binding := if cnt = 0 then false else l.isBindingSubRif
      let db := { db with lags := db.lags.insert (lagOid c gport) { l with
        isBindingSubRif := binding, bindingSubRifCount := cnt } }
      if binding then db else writeSubIfHash c db false gport
    | none => db
  else
    let p := (db.ports (portOid c gport)).getD ⟨0, 0⟩
    let db := setPortRefs c db gport { p with subIfRefCnt := p.subIfRefCnt - 1 }
    if p.subIfRefCnt - 1 = 0 then writeSubIfHash c db false gport else db

end Calls

end CtcSai
