/-
# `VlanMember` — ctc_sai_vlan.c, the members of a VLAN

A member is no record: its object id carries the VLAN and the port.  The VLAN
keeps a bit and a count for its ports and for its LAGs, the bridge port a bit
and a count for its VLANs, and a third function sets the bits of VLAN 1 when the
adapter starts.
-/
import CtcSai.Bridge
import CtcSai.Vlan

namespace CtcSai

open KeyedTable

/-- What does not change while the adapter runs on one chip. -/
structure MemberChip where
  vlan : VlanChip
  pm : PortMap
  /-- A `gport` fits the `uint16` of a bridge port. -/
  gport_lt : ∀ {c g}, pm.isPort c g → g.toNat < 2 ^ 16
  /-- CTC_GLOBAL_CAPABILITY_MAX_PORT_NUM. -/
  maxPortNum : Nat

/-- The database of one chip, as far as VLAN members go. -/
structure MemberDb (mc : MemberChip) where
  vlan : VlanDb mc.vlan
  bridgePorts : Table Oid BridgePort

/-- The object id of a VLAN member. -/
def vlanMemberOid (c : Lchip) (ptr : BitVec 16) (gport : BitVec 32) : Oid :=
  createObjectId .vlanMember (c.setWidth 8) 0 ptr gport

/-- The attributes of a VLAN member. -/
inductive VlanMemberAttr where
  | vlanId (oid : Oid)
  | bridgePortId (oid : Oid)
  | taggingMode (s : BitVec 32)
deriving DecidableEq, Repr

def VlanMemberAttr.vlanId? : VlanMemberAttr → Option Oid
  | vlanId oid => some oid
  | _ => none

def VlanMemberAttr.bridgePortId? : VlanMemberAttr → Option Oid
  | bridgePortId oid => some oid
  | _ => none

def VlanMemberAttr.taggingMode? : VlanMemberAttr → Option (BitVec 32)
  | taggingMode s => some s
  | _ => none

/-- What the SDK, the memory and the LAG database answer during one call. -/
structure MemberSdk where
  /-- `ctcs_vlan_add_port`, `ctcs_vlan_remove_port` and
  `ctcs_vlan_set_tagged_port` of a port. -/
  addPort : BitVec 32 → CtcE
  removePort : BitVec 32 → CtcE
  setTagged : BitVec 32 → CtcE
  getGchipId : CtcE
  /-- `ctcs_global_ctl_get`, of the capabilities and of the panel ports. -/
  getCapability : CtcE
  getPanelPorts : CtcE
  /-- Memory for the buffer of MEMBER_LIST. -/
  memList : Bool
  /-- The member bits of a LAG that exists. -/
  lagBits : BitVec 32 → Option (List Nat)

/-- `ctc_sai_vlan_get_ctc_tag`. -/
def vlanGetCtcTag (mode : BitVec 32) : Except Status Bool :=
  if mode = 0 then .ok false
  else if mode = 1 then .ok true
  else if mode = 2 then .error .notImplemented
  else .error .invalidParameter

/-- A call for each port until one fails. -/
def forPorts (rc : BitVec 32 → CtcE) : List (BitVec 32) → Status
  | [] => .success
  | g :: rest =>
    match mappingErrorCtc (rc g) with
    | .success => forPorts rc rest
    | status => status

/-! ## The two records -/

/-- The bit of a port or a LAG is set, and one more is counted. -/
def VlanUser.bindMember (v : VlanUser) (pm : PortMap) (gport : BitVec 32) : VlanUser :=
  if isLinkaggPort gport then { v with
    vlanMemberLagBindCount := v.vlanMemberLagBindCount + 1
    vlanMemberLagBindBits := insert (gport.setWidth 8) v.vlanMemberLagBindBits }
  else { v with
    vlanMemberPortBindCount := v.vlanMemberPortBindCount + 1
    vlanMemberPortBindBits := insert (pm.lport gport) v.vlanMemberPortBindBits }

/-- The bit of a port or a LAG is cleared, and one less is counted. -/
def VlanUser.unbindMember (v : VlanUser) (pm : PortMap) (gport : BitVec 32) : VlanUser :=
  if isLinkaggPort gport then { v with
    vlanMemberLagBindCount := v.vlanMemberLagBindCount - 1
    vlanMemberLagBindBits := v.vlanMemberLagBindBits.erase (gport.setWidth 8) }
  else { v with
    vlanMemberPortBindCount := v.vlanMemberPortBindCount - 1
    vlanMemberPortBindBits := v.vlanMemberPortBindBits.erase (pm.lport gport) }

/-- The bit of a VLAN is set and one more is counted, both of them twice. -/
def BridgePort.bindVlan (bp : BridgePort) (ptr : BitVec 16) (mode : BitVec 8) : BridgePort :=
  { bp with
    vlanMemberBindBits := insert ptr (insert ptr bp.vlanMemberBindBits)
    vlanMemberBindCount := bp.vlanMemberBindCount + 1 + 1
    vlanMemberTagMode := Function.update bp.vlanMemberTagMode ptr mode }

/-- The bit of a VLAN is cleared and one less is counted. -/
def BridgePort.unbindVlan (bp : BridgePort) (ptr : BitVec 16) : BridgePort :=
  { bp with
    vlanMemberBindBits := bp.vlanMemberBindBits.erase ptr
    vlanMemberBindCount := bp.vlanMemberBindCount - 1
    vlanMemberTagMode := Function.update bp.vlanMemberTagMode ptr 0 }

section Calls

variable {mc : MemberChip} (sdk : MemberSdk) (db : MemberDb mc)

/-- The ports that a `gport` stands for: itself, or the members of a LAG that
exists. -/
def memberPorts (mc : MemberChip) (gport : BitVec 32) : Option (List (BitVec 32)) :=
  if isLinkaggPort gport then
    (sdk.lagBits gport).map fun bits => bits.map (mc.pm.gport mc.vlan.lchip)
  else some [gport]

/-- What creation does about the tag once the ports are added.  Without the
attribute the status variable keeps what the search for it returned. -/
def createMemberTag (mode : Option (BitVec 32)) (ports : List (BitVec 32)) : Status :=
  match mode with
  | some s =>
    match vlanGetCtcTag s with
    | .ok _ => forPorts sdk.setTagged ports
    | .error status => status
  | none => forPorts sdk.setTagged ports

/-! ## Creation and removal -/

/-- `_ctc_sai_vlan_create_vlan_member`.  Neither record is asked whether the
member is there.  A VLAN number from 4096 on lies past the bitmap of the bridge
port. -/
def createVlanMember (attrs : List VlanMemberAttr) :
    Option (Status × Option Oid × MemberDb mc) :=
  if attrs.isEmpty then some (.invalidParameter, none, db)
  else
    match findAttribInList VlanMemberAttr.vlanId? attrs with
    | none => some (.mandatoryAttributeMissing, none, db)
    | some vid =>
      db.vlan.withVlan vid (.itemNotFound, none, db) fun v =>
        match findAttribInList VlanMemberAttr.bridgePortId? attrs with
        | none => some (.mandatoryAttributeMissing, none, db)
        | some bpId =>
          match db.bridgePorts.lookup bpId with
          | none => some (.invalidObjectId, none, db)
          | some bp =>
            if bp.portType ≠ .port then some (.invalidObjectId, none, db)
            else
              let ptr := vid.value.setWidth 16
              let gport := bp.gport.setWidth 32
              match memberPorts sdk mc gport with
              | none => some (.invalidObjectId, none, db)
              | some ports =>
                match forPorts sdk.addPort ports with
                | .success =>
                  let oid := vlanMemberOid mc.vlan.lchip ptr gport
                  let mode := findAttribInList VlanMemberAttr.taggingMode? attrs
                  match createMemberTag sdk mode ports with
                  | .success =>
                    if 4096 ≤ ptr.toNat then none
                    else
                      some (if mode.isSome then .success else .itemNotFound, some oid, { db with
                        vlan := db.vlan.write vid (v.bindMember mc.pm gport)
                        bridgePorts := db.bridgePorts.insert bpId
                          (bp.bindVlan ptr ((mode.getD 0).setWidth 8)) })
                  | status => some (status, some oid, db)
                | status => some (status, none, db)

/-- `_ctc_sai_vlan_remove_vlan_member`; that the member is there is not asked.
Without the bridge port a null pointer is written through. -/
def removeVlanMember (oid : Oid) : Option (Status × MemberDb mc) :=
  if oid.type ≠ ObjectType.vlanMember.bits then some (.invalidObjectId, db)
  else
    let ptr := oid.value2
    let gport := oid.value
    let vid := vlanOid oid.lchip ptr
    db.vlan.withVlan vid (.itemNotFound, db) fun v =>
      match memberPorts sdk mc gport with
      | none => some (.invalidObjectId, db)
      | some ports =>
        -- the two calls alternate, port by port
        match forPorts (fun g => if sdk.removePort g = .none then sdk.setTagged g
            else sdk.removePort g) ports with
        | .success =>
          match db.bridgePorts.lookup (bridgePortOid oid.lchip gport) with
          | none => none
          | some bp =>
            if 4096 ≤ ptr.toNat then none
            else
              some (.success, { db with
                vlan := db.vlan.write vid (v.unbindMember mc.pm gport)
                bridgePorts := db.bridgePorts.insert (bridgePortOid oid.lchip gport)
                  (bp.unbindVlan ptr) })
        | status => some (status, db)

/-! ## MEMBER_LIST -/

/-- What the loops of MEMBER_LIST write: the ports, then the LAGs. -/
def vlanMemberList (mc : MemberChip) (oid : Oid) (v : VlanUser) : List Oid :=
  ((List.range 256).filter fun b => b ∈ v.vlanMemberPortBindBits).map
      (fun b => vlanMemberOid oid.lchip (oid.value.setWidth 16) (mc.pm.gport mc.vlan.lchip b)) ++
    ((List.range 256).filter fun b => BitVec.ofNat 8 b ∈ v.vlanMemberLagBindBits).map
      (fun b => vlanMemberOid oid.lchip (oid.value.setWidth 16) (lagGport (BitVec.ofNat 8 b)))

/-- MEMBER_LIST of `ctc_sai_vlan_get_info`.  The buffer has as many elements as
the chip has ports; a list that is longer is written past its end. -/
def getVlanMemberList (oid : Oid) (list : AttrList Oid) : Option (Status × AttrList Oid) :=
  db.vlan.withVlan oid (.invalidObjectId, list) fun v =>
    match mappingErrorCtc sdk.getGchipId with
    | .success =>
      match mappingErrorCtc sdk.getCapability with
      | .success =>
        if !sdk.memList then some (.noMemory, list)
        else if mc.maxPortNum < (vlanMemberList mc oid v).length then none
        else some (fillObjectList (some (vlanMemberList mc oid v)) list)
      | status => some (status, list)
    | status => some (status, list)

/-! ## The start -/

/-- `CTC_GLOBAL_PANEL_PORTS`: the loop of `ctc_sai_vlan_db_init` over the panel
ports, which sets the bit of each port that the SDK adds. -/
def vlanAddPanelPorts (mc : MemberChip) (vid : Oid) (v : VlanUser) (db : MemberDb mc) :
    List Nat → Status × VlanUser × MemberDb mc
  | [] => (.success, v, db)
  | b :: rest =>
    match mappingErrorCtc (sdk.addPort (mc.pm.gport mc.vlan.lchip b)) with
    | .success =>
      let v := { v with vlanMemberPortBindBits := insert b v.vlanMemberPortBindBits }
      vlanAddPanelPorts mc vid v { db with vlan := db.vlan.write vid v } rest
    | status => (status, v, db)

/-- `ctc_sai_vlan_db_init` where there is nothing to restore: VLAN 1 with all
panel ports.  No bridge port is told.  A VLAN that is reported created without
a record is written through a null pointer. -/
def vlanDbInit (vsdk : VlanSdk) (panel : List Nat) : Option (Status × MemberDb mc) :=
  match mappingErrorCtc sdk.getGchipId with
  | .success =>
    match createVlan vsdk db.vlan [.vlanId 1] with
    | none => none
    | some (.success, some vid, vlan) =>
      let db := { db with vlan := vlan }
      match mappingErrorCtc sdk.getPanelPorts with
      | .success =>
        match vlan.vlans.lookup vid with
        | some (some v) =>
          match vlanAddPanelPorts sdk mc vid v db panel with
          | (.success, v, db) => some (.success, { db with
              vlan := db.vlan.write vid { v with
                vlanMemberPortBindCount := BitVec.ofNat 32 panel.length } })
          | (status, _, db) => some (status, db)
        | _ => none
      | status => some (status, db)
    | some (status, _, vlan) => some (status, { db with vlan := vlan })
  | status => some (status, db)

end Calls

end CtcSai
