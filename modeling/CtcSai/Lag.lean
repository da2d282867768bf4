/-
# `Lag` — ctc_sai_lag.c

A LAG record holds three sets of local port numbers: the members, and those of
them whose egress and whose ingress is disabled.  A member object is no record:
its id carries the LAG and the port.  The SDK side is a set of ports for each
group, and a few registers for each port.
-/
import CtcSai.Saitypes
import Mathlib.Data.Finset.Basic
import Mathlib.Logic.Function.Basic

namespace CtcSai

open Function KeyedTable

/-! ## Ports and their registers -/

/-- `ctc_vlantag_ctl_t`, the modes that concern untagged and tagged packets. -/
inductive VlanTagCtl where
  | allowAllPackets | dropAllUntagged | dropAllTagged | dropAll
deriving DecidableEq, Repr

/-- The chip a `uint8` lchip names, as an object id holds it. -/
abbrev Lchip := BitVec 6

@[simp] theorem lchip_createObjectId (t : ObjectType) (c : Lchip) (s v2 v) :
    (createObjectId t (c.setWidth 8) s v2 v).lchip = c := by
  show (c.setWidth 8).setWidth 6 = c
  rw [BitVec.setWidth_setWidth_of_le c (by decide : 6 ≤ 8), BitVec.setWidth_eq]

/-- How the SDK numbers ports.  `gport` is CTC_MAP_LPORT_TO_GPORT with the
global number of the chip, `lport` is CTC_MAP_GPORT_TO_LPORT. -/
structure PortMap where
  lport : BitVec 32 → Nat
  gport : Lchip → Nat → BitVec 32
  /-- The panel ports of a chip. -/
  isPort : Lchip → BitVec 32 → Prop
  /-- The port bitmaps have 256 bits. -/
  lport_lt : ∀ g, lport g < 256
  gport_lport : ∀ {c g}, isPort c g → gport c (lport g) = g
  /-- Both numbers end in the same byte. -/
  lport_byte : ∀ g, (BitVec.ofNat 8 (lport g)) = g.setWidth 8
  /-- Global chip 0x1f is that of LAGs. -/
  isPort_lag : ∀ {c g} (tid : BitVec 8), isPort c g → g ≠ 0x1f00 + tid.setWidth 32

def PortMap.plain : PortMap where
  lport g := g.toNat % 256
  gport _ n := BitVec.ofNat 32 n
  isPort _ g := g.toNat < 256
  lport_lt _ := Nat.mod_lt _ (by decide)
  gport_lport hg := by
    rw [Nat.mod_eq_of_lt hg, BitVec.ofNat_toNat, BitVec.setWidth_eq]
  lport_byte g := by bv_omega
  isPort_lag tid hg he := by bv_omega

/-- The registers of a port that LAGs touch. -/
structure PortRegs where
  /-- CTC_PORT_PROP_GPORT. -/
  gport : BitVec 32
  vlanCtl : VlanTagCtl
  defaultPcp : BitVec 32
  defaultVlan : BitVec 16
  phyIfEn : Bool
  /-- The hash type of `ctc_port_scl_property_t` is PORT_SVLAN. -/
  sclPortSvlan : Bool
deriving DecidableEq, Repr

/-- What the SDK of one chip holds. -/
structure LagHw where
  group : BitVec 8 → Finset (BitVec 32)
  port : BitVec 32 → PortRegs

namespace LagHw

variable (hw : LagHw)

/-- A write to the registers of one port. -/
def setPort (g : BitVec 32) (f : PortRegs → PortRegs) : LagHw :=
  { hw with port := update hw.port g (f (hw.port g)) }

/-- `ctcs_linkagg_add_port`: the group becomes the port's GPORT. -/
def addPort (tid : BitVec 8) (lag g : BitVec 32) : CtcE × LagHw :=
  if g ∈ hw.group tid then (.exist, hw)
  else (.none, { hw.setPort g (fun r => { r with gport := lag }) with
    group := update hw.group tid (insert g (hw.group tid)) })

/-- `ctcs_linkagg_remove_port`. -/
def removePort (tid : BitVec 8) (g : BitVec 32) : CtcE × LagHw :=
  if g ∈ hw.group tid then
    (.none, { hw.setPort g (fun r => { r with gport := g }) with
      group := update hw.group tid ((hw.group tid).erase g) })
  else (.notExist, hw)

end LagHw

/-! ## LAGs -/

/-- `ctc_sai_lag_info_t`; the bitmaps are the sets of their bits. -/
structure LagInfo where
  memberPorts : Finset Nat
  egressDisablePorts : Finset Nat
  ingressDisablePorts : Finset Nat
  vlanId : BitVec 16
  vlanPriority : BitVec 8
  isBindingRif : Bool
  isBindingSubRif : Bool
  dropTagged : Bool
  dropUntagged : Bool
deriving DecidableEq

/-- The object id of a LAG: global chip 0x1f and the trunk id. -/
def lagOid (c : Lchip) (lag : BitVec 32) : Oid := createObjectId .lag (c.setWidth 8) 0 0 lag

/-- The LAGs of all chips, and what the SDK of each chip holds. -/
structure LagDb where
  lags : Table Oid LagInfo
  hw : Lchip → LagHw

namespace LagDb

variable (db : LagDb)

/-- `ctc_sai_db_get_object_property` in the database of chip `c`, which holds
ids of that chip only. -/
def lag (c : Lchip) (oid : Oid) : Option LagInfo :=
  if oid.lchip = c then db.lags.lookup oid else none

def setLag (oid : Oid) (l : LagInfo) : LagDb := { db with lags := db.lags.insert oid l }

/-- The state of one chip's SDK after a call. -/
def setHw (c : Lchip) (hw : LagHw) : LagDb := { db with hw := update db.hw c hw }

/-- A write to the registers of one port. -/
def setPort (c : Lchip) (g : BitVec 32) (f : PortRegs → PortRegs) : LagDb :=
  db.setHw c ((db.hw c).setPort g f)

end LagDb

/-- The places where the SDK can refuse; adding to and removing from a group
also fails when the port is, or is not, in it. -/
inductive LagSite where
  | setGport | addPort | removePort | getVlanCtl | getDefaultPcp | getDefaultVlan
  | setVlanCtl | setDefaultVlan | setDefaultPcp | setPhyIfEn | setSclProperty
  | undoDefaultPcp | undoDefaultVlan | undoVlanCtl | undoGport | undoAddPort | undoRemovePort
  | memberGetVlanCtl (bit : Nat) | memberSetVlanCtl (bit : Nat)
  | memberSetDefaultVlan (bit : Nat) | memberSetDefaultPcp (bit : Nat)
deriving DecidableEq, Repr

/-- What the SDK answers during one API call. -/
structure LagSdk where
  rc : LagSite → CtcE

def LagSdk.Succeeds (sdk : LagSdk) : Prop := ∀ site, sdk.rc site = .none

section Calls

variable (sdk : LagSdk) (db : LagDb) (c : Lchip)

/-- A register write at one of the places. -/
def regWrite (site : LagSite) (g : BitVec 32) (f : PortRegs → PortRegs) : Status × LagDb :=
  match mappingErrorCtc (sdk.rc site) with
  | .success => (.success, db.setPort c g f)
  | status => (status, db)

/-- `ctcs_linkagg_add_port`. -/
def linkaggAddPort (site : LagSite) (tid : BitVec 8) (lag g : BitVec 32) : Status × LagDb :=
  match mappingErrorCtc (sdk.rc site) with
  | .success =>
    let r := (db.hw c).addPort tid lag g
    (mappingErrorCtc r.1, db.setHw c r.2)
  | status => (status, db)

/-- `ctcs_linkagg_remove_port`. -/
def linkaggRemovePort (site : LagSite) (tid : BitVec 8) (g : BitVec 32) : Status × LagDb :=
  match mappingErrorCtc (sdk.rc site) with
  | .success =>
    let r := (db.hw c).removePort tid g
    (mappingErrorCtc r.1, db.setHw c r.2)
  | status => (status, db)

end Calls

/-! ## Members -/

/-- The attributes of a LAG member. -/
inductive LagMemberAttr where
  | lagId (oid : Oid)
  | portId (oid : Oid)
  | egressDisable (v : Bool)
  | ingressDisable (v : Bool)
deriving DecidableEq, Repr

def LagMemberAttr.lagId? : LagMemberAttr → Option Oid
  | lagId o => some o
  | _ => none

def LagMemberAttr.portId? : LagMemberAttr → Option Oid
  | portId o => some o
  | _ => none

def LagMemberAttr.egressDisable? : LagMemberAttr → Option Bool
  | egressDisable v => some v
  | _ => none

def LagMemberAttr.ingressDisable? : LagMemberAttr → Option Bool
  | ingressDisable v => some v
  | _ => none

def lagMemberOid (c : Lchip) (lag port : BitVec 32) : Oid :=
  createObjectId .lagMember (c.setWidth 8) 0 (lag.setWidth 16) port

/-- `ctc_sai_oid_get_lag_member_id`: the 16 bits of the LAG, and the port. -/
def oidGetLagMemberId (oid : Oid) : Option (BitVec 16 × BitVec 32) :=
  if oid.type = ObjectType.lagMember.bits then some (oid.value2, oid.value) else none

/-- The mode that a LAG gives a port which joins it. -/
def LagInfo.vlanCtl (l : LagInfo) : VlanTagCtl :=
  if l.dropTagged && l.dropUntagged then .dropAll
  else if l.dropTagged then .dropAllTagged
  else if l.dropUntagged then .dropAllUntagged
  else .allowAllPackets

section Member

variable (pm : PortMap) (sdk : LagSdk)

/-- What is undone at `error1` of `create`: the bits, and the group or the
GPORT, by the flags of the call. -/
def createMemberError1 (db : LagDb) (c : Lchip) (oid : Oid) (port : BitVec 32)
    (out inn : Bool) : LagDb :=
  match db.lag c oid with
  | none => db
  | some l =>
    let p := pm.lport port
    let tid := oid.value.setWidth 8
    let l := { l with memberPorts := l.memberPorts.erase p }
    match out, inn with
    | true, true => db.setLag oid { l with
        egressDisablePorts := l.egressDisablePorts.erase p
        ingressDisablePorts := l.ingressDisablePorts.erase p }
    | true, false =>
      (regWrite sdk (db.setLag oid { l with
        egressDisablePorts := l.egressDisablePorts.erase p }) c .undoGport port
        (fun r => { r with gport := port })).2
    | false, true =>
      let db := (linkaggRemovePort sdk db c .undoRemovePort tid port).2
      db.setLag oid { l with ingressDisablePorts := l.ingressDisablePorts.erase p }
    | false, false =>
      (linkaggRemovePort sdk (db.setLag oid l) c .undoRemovePort tid port).2

/-- The bits, the group and the GPORT of a new member, by its flags. -/
def createMemberFlags (db : LagDb) (c : Lchip) (oid : Oid) (l : LagInfo) (port : BitVec 32)
    (out inn : Bool) : Status × LagDb :=
  let p := pm.lport port
  let tid := oid.value.setWidth 8
  match out, inn with
  | true, true => (.success, db.setLag oid { l with
      egressDisablePorts := insert p l.egressDisablePorts
      ingressDisablePorts := insert p l.ingressDisablePorts })
  | true, false =>
    regWrite sdk (db.setLag oid { l with
      egressDisablePorts := insert p l.egressDisablePorts }) c .setGport port
      (fun r => { r with gport := oid.value })
  | false, true =>
    -- whether the group took the port is not asked
    let db := (linkaggAddPort sdk db c .addPort tid oid.value port).2
    regWrite sdk (db.setLag oid { l with
      ingressDisablePorts := insert p l.ingressDisablePorts }) c .setGport port
      (fun r => { r with gport := port })
  | false, false => linkaggAddPort sdk db c .addPort tid oid.value port

/-- The bindings of router interfaces on the LAG, applied to a new member. -/
def createMemberRif (db : LagDb) (c : Lchip) (l : LagInfo) (port : BitVec 32) : Status × LagDb :=
  match (if l.isBindingRif then
      regWrite sdk db c .setPhyIfEn port (fun r => { r with phyIfEn := true })
    else (.success, db)) with
  | (.success, db) =>
    if l.isBindingSubRif then
      regWrite sdk db c .setSclProperty port (fun r => { r with sclPortSvlan := true })
    else (.success, db)
  | (status, db) => (status, db)

/-- The registers of a new member, with the roll-back labels `error4` to
`error1`; `r` is what the registers held before. -/
def createMemberRegs (db : LagDb) (c : Lchip) (oid : Oid) (l : LagInfo) (port : BitVec 32)
    (out inn : Bool) (r : PortRegs) : Status × Option Oid × LagDb :=
  let error1 := fun db => createMemberError1 pm sdk db c oid port out inn
  let error2 := fun db => error1 (regWrite sdk db c .undoVlanCtl port
    (fun x => { x with vlanCtl := r.vlanCtl })).2
  let error3 := fun db => error2 (regWrite sdk db c .undoDefaultVlan port
    (fun x => { x with defaultVlan := r.defaultVlan })).2
  let error4 := fun db => error3 (regWrite sdk db c .undoDefaultPcp port
    (fun x => { x with defaultPcp := r.defaultPcp })).2
  match regWrite sdk db c .setVlanCtl port (fun x => { x with vlanCtl := l.vlanCtl }) with
  | (.success, db) =>
    match regWrite sdk db c .setDefaultVlan port (fun x => { x with defaultVlan := l.vlanId }) with
    | (.success, db) =>
      match regWrite sdk db c .setDefaultPcp port
        (fun x => { x with defaultPcp := l.vlanPriority.setWidth 32 }) with
      | (.success, db) =>
        match createMemberRif sdk db c l port with
        | (.success, db) => (.success, some (lagMemberOid c oid.value port), db)
        | (status, db) => (status, some (lagMemberOid c oid.value port), error4 db)
      | (status, db) => (status, none, error3 db)
    | (status, db) => (status, none, error2 db)
  | (status, db) => (status, none, error1 db)

/-- `_ctc_sai_lag_create_lag_member` on chip `c`. -/
def createLagMember (db : LagDb) (c : Lchip) (attrs : List LagMemberAttr) :
    Status × Option Oid × LagDb :=
  if attrs.isEmpty then (.invalidParameter, none, db)
  else
    match findAttribInList LagMemberAttr.lagId? attrs, findAttribInList LagMemberAttr.portId? attrs with
    | some oid, some portOid =>
      match db.lag c oid with
      | none => (.invalidObjectId, none, db)
      | some l =>
        let out := (findAttribInList LagMemberAttr.egressDisable? attrs).getD false
        let inn := (findAttribInList LagMemberAttr.ingressDisable? attrs).getD false
        let port := portOid.value
        match createMemberFlags pm sdk db c oid l port out inn with
        | (.success, db) =>
          match mappingErrorCtc (sdk.rc .getVlanCtl), mappingErrorCtc (sdk.rc .getDefaultPcp),
              mappingErrorCtc (sdk.rc .getDefaultVlan) with
          | .success, .success, .success =>
            match db.lag c oid with
            | none => (.invalidObjectId, none, db)
            | some l =>
              let r := (db.hw c).port port
              let l := { l with memberPorts := insert (pm.lport port) l.memberPorts }
              createMemberRegs pm sdk (db.setLag oid l) c oid l port out inn r
          | .success, .success, status | .success, status, _ | status, _, _ => (status, none, db)
        | (status, db) => (status, none, db)
    | _, _ => (.mandatoryAttributeMissing, none, db)

/-- `_ctc_sai_lag_remove_lag_member`. -/
def removeLagMember (db : LagDb) (oid : Oid) : Status × LagDb :=
  match oidGetLagMemberId oid with
  | none => (.invalidObjectId, db)
  | some (lagId, gport) =>
    let c := oid.lchip
    let o := lagOid c (lagId.setWidth 32)
    match db.lag c o with
    | none => (.invalidObjectId, db)
    | some l =>
      let db := if l.isBindingRif then
        (regWrite sdk db c .setPhyIfEn gport (fun r => { r with phyIfEn := false })).2 else db
      let db := if l.isBindingSubRif then
        (regWrite sdk db c .setSclProperty gport (fun r => { r with sclPortSvlan := false })).2
        else db
      let p := pm.lport gport
      let db := db.setLag o { l with
        memberPorts := l.memberPorts.erase p
        egressDisablePorts := l.egressDisablePorts.erase p
        ingressDisablePorts := l.ingressDisablePorts.erase p }
      linkaggRemovePort sdk db c .removePort (lagId.setWidth 8) gport

/-- `ctc_sai_lag_get_lag_member_info` of the two flags, `v` being what the
caller's attribute held: a bit that is clear is not written. -/
def getLagMemberFlag (db : LagDb) (oid : Oid) (bits : LagInfo → Finset Nat) (v : Bool) :
    Status × Bool :=
  match db.lag oid.lchip (lagOid oid.lchip (oid.value2.setWidth 32)) with
  | none => (.invalidObjectId, v)
  | some l => (.success, if pm.lport oid.value ∈ bits l then true else v)

/-- EGRESS_DISABLE of `ctc_sai_lag_set_lag_member_info` once it differs. -/
def setEgressDisable (db : LagDb) (c : Lchip) (o : Oid) (l : LagInfo) (lagId : BitVec 16)
    (gport : BitVec 32) (v : Bool) : Status × LagDb :=
  let p := pm.lport gport
  let lag := lagId.setWidth 32
  let tid := BitVec.ofNat 8 (pm.lport lag)
  if v then
    match linkaggRemovePort sdk db c .removePort tid gport with
    | (.success, db) =>
      match (if p ∈ l.ingressDisablePorts then (.success, db)
        else regWrite sdk db c .setGport gport (fun r => { r with gport := lag })) with
      | (.success, db) =>
        (.success, db.setLag o { l with egressDisablePorts := insert p l.egressDisablePorts })
      | (status, db) => (status, (linkaggAddPort sdk db c .undoAddPort tid lag gport).2)
    | (status, db) => (status, db)
  else
    match linkaggAddPort sdk db c .addPort tid lag gport with
    | (.success, db) =>
      match (if p ∈ l.ingressDisablePorts then
          regWrite sdk db c .setGport gport (fun r => { r with gport := gport })
        else (.success, db)) with
      | (.success, db) =>
        (.success, db.setLag o { l with egressDisablePorts := l.egressDisablePorts.erase p })
      | (status, db) => (status, (linkaggRemovePort sdk db c .undoRemovePort tid gport).2)
    | (status, db) => (status, db)

/-- INGRESS_DISABLE of the same once it differs. -/
def setIngressDisable (db : LagDb) (c : Lchip) (o : Oid) (l : LagInfo) (lagId : BitVec 16)
    (gport : BitVec 32) (v : Bool) : Status × LagDb :=
  let p := pm.lport gport
  let bits := if v then insert p l.ingressDisablePorts else l.ingressDisablePorts.erase p
  match regWrite sdk db c .setGport gport
    (fun r => { r with gport := if v then gport else lagId.setWidth 32 }) with
  | (.success, db) => (.success, db.setLag o { l with ingressDisablePorts := bits })
  | (status, db) => (status, db)

/-- `ctc_sai_lag_set_lag_member_info`.  The chip is 0 whatever the id says, and
the bit that is tested for membership is that of EGRESS_DISABLE. -/
def setLagMemberInfo (db : LagDb) (oid : Oid) (attr : LagMemberAttr) : Status × LagDb :=
  match oidGetLagMemberId oid with
  | none => (.invalidObjectId, db)
  | some (lagId, gport) =>
    let c : Lchip := 0
    let o := lagOid c (lagId.setWidth 32)
    match db.lag c o with
    | none => (.invalidObjectId, db)
    | some l =>
      let p := pm.lport gport
      if p ∉ l.egressDisablePorts then (.itemNotFound, db)
      else
        match attr with
        | .egressDisable v =>
          if decide (p ∈ l.egressDisablePorts) = v then (.success, db)
          else setEgressDisable pm sdk db c o l lagId gport v
        | .ingressDisable v =>
          if decide (p ∈ l.ingressDisablePorts) = v then (.success, db)
          else setIngressDisable pm sdk db c o l lagId gport v
        | _ => (.notImplemented, db)

end Member

/-! ## Dropping untagged and tagged packets -/

/-- `ctc_sai_port_drop_type_t`. -/
inductive PortDropType where
  | untagged | tagged
deriving DecidableEq, Repr

/-- `ctc_sai_port_mapping_tags_mode`: what `*mode` holds afterwards, `mode`
being what it held before; where nothing changes it is not written. -/
def portMappingTagsMode (dropType : PortDropType) (data : Bool) (mode modeOld : VlanTagCtl) :
    VlanTagCtl :=
  match dropType, data, modeOld with
  | .untagged, true, .dropAllUntagged | .untagged, true, .dropAll => mode
  | .untagged, true, .dropAllTagged => .dropAll
  | .untagged, true, .allowAllPackets => .dropAllUntagged
  | .untagged, false, .dropAllUntagged => .allowAllPackets
  | .untagged, false, .dropAllTagged | .untagged, false, .allowAllPackets => mode
  | .untagged, false, .dropAll => .dropAllTagged
  | .tagged, true, .dropAllTagged | .tagged, true, .dropAll => mode
  | .tagged, true, .dropAllUntagged => .dropAll
  | .tagged, true, .allowAllPackets => .dropAllTagged
  | .tagged, false, .dropAllTagged => .allowAllPackets
  | .tagged, false, .dropAllUntagged | .tagged, false, .allowAllPackets => mode
  | .tagged, false, .dropAll => .dropAllUntagged

/-- The flag of a mode that `ctc_sai_port_get_drop_tags` reads. -/
def VlanTagCtl.drops : VlanTagCtl → PortDropType → Bool
  | .dropAllUntagged, .untagged | .dropAllTagged, .tagged | .dropAll, _ => true
  | _, _ => false

section Drop

variable (pm : PortMap) (sdk : LagSdk)

/-- `ctc_sai_port_get_drop_tags`. -/
def portGetDropTags (db : LagDb) (oid : Oid) (t : PortDropType) : Status × Option Bool :=
  match mappingErrorCtc (sdk.rc .getVlanCtl) with
  | .success => (.success, some ((((db.hw oid.lchip).port oid.value).vlanCtl).drops t))
  | status => (status, none)

/-- `ctc_sai_port_set_drop_tags`. -/
def portSetDropTags (db : LagDb) (oid : Oid) (t : PortDropType) (v : Bool) : Status × LagDb :=
  match mappingErrorCtc (sdk.rc .getVlanCtl) with
  | .success =>
    let mode := portMappingTagsMode t v .allowAllPackets
      (((db.hw oid.lchip).port oid.value).vlanCtl)
    regWrite sdk db oid.lchip .setVlanCtl oid.value (fun r => { r with vlanCtl := mode })
  | status => (status, db)

/-- The member bits of a LAG in the order the loops visit them. -/
def LagInfo.bits (l : LagInfo) : List Nat := (List.range 256).filter (fun b => b ∈ l.memberPorts)

def LagInfo.drop (l : LagInfo) : PortDropType → Bool
  | .untagged => l.dropUntagged
  | .tagged => l.dropTagged

def LagInfo.setDrop (l : LagInfo) (t : PortDropType) (v : Bool) : LagInfo :=
  match t with
  | .untagged => { l with dropUntagged := v }
  | .tagged => { l with dropTagged := v }

/-- The mode of all members, from the register of the first. -/
def lagDropMode (db : LagDb) (c : Lchip) (l : LagInfo) (t : PortDropType) (v : Bool) :
    Except Status VlanTagCtl :=
  match l.bits with
  | [] => .ok .allowAllPackets
  | b :: _ =>
    match mappingErrorCtc (sdk.rc (.memberGetVlanCtl b)) with
    | .success => .ok (portMappingTagsMode t v .allowAllPackets
        (((db.hw c).port (pm.gport c b)).vlanCtl))
    | status => .error status

/-- The second loop: the mode is written to every member. -/
def lagSetMembers (c : Lchip) (mode : VlanTagCtl) : LagDb → List Nat → Status × LagDb
  | db, [] => (.success, db)
  | db, b :: rest =>
    match regWrite sdk db c (.memberSetVlanCtl b) (pm.gport c b)
      (fun r => { r with vlanCtl := mode }) with
    | (.success, db) => lagSetMembers c mode db rest
    | (status, db) => (status, db)

/-- `ctc_sai_lag_set_info` of DROP_UNTAGGED and DROP_TAGGED. -/
def lagSetDropInfo (db : LagDb) (oid : Oid) (t : PortDropType) (v : Bool) : Status × LagDb :=
  let c := oid.lchip
  match db.lag c oid with
  | none => (.invalidObjectId, db)
  | some l =>
    match lagDropMode pm sdk db c l t v with
    | .error status => (status, db)
    | .ok mode =>
      match lagSetMembers pm sdk c mode db l.bits with
      | (.success, db) => (.success, db.setLag oid (l.setDrop t v))
      | (status, db) => (status, db)

/-- `ctc_sai_lag_get_info` of the two. -/
def lagGetDropInfo (db : LagDb) (oid : Oid) (t : PortDropType) : Status × Option Bool :=
  match db.lag oid.lchip oid with
  | none => (.invalidObjectId, none)
  | some l => (.success, some (l.drop t))

end Drop

end CtcSai
