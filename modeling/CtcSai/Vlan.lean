/-
# `Vlan` — ctc_sai_vlan.c, the VLANs

A VLAN is known by three numbers: the id the caller chose, the `user_vlanptr`
the adapter allocated, which its object id carries, and the STP instance, which
both the record and the hardware remember.  Creation binds the instance after
the record is stored, and its way back frees the record but leaves it stored:
a table entry of `none` is such a record.
-/
import CtcSai.Stp

namespace CtcSai

open Function IdPool KeyedTable

/-! ## Records -/

/-- `ctc_sai_vlan_pkt_type_t`. -/
inductive VlanPktType where
  | unicast | mutiicast | broadcast
deriving DecidableEq, Repr

/-- `ctc_sai_vlan_user_t`, without the packet counters. -/
structure VlanUser where
  userVlanptr : BitVec 16
  vlanId : BitVec 16
  statsIdIn : BitVec 32
  statsIdEg : BitVec 32
  stpId : BitVec 8
  ukwnFloodCtr : VlanPktType → BitVec 32
  ipv4McastLookupType : BitVec 8
  ipv6McastLookupType : BitVec 8
  ptpDomainId : BitVec 32
  vlanMemberPortBindBits : Finset Nat
  vlanMemberLagBindBits : Finset (BitVec 8)
  vlanMemberPortBindCount : BitVec 32
  vlanMemberLagBindCount : BitVec 32

/-- The record that `ctc_sai_vlan_create_vlan` zeroes and numbers. -/
def VlanUser.fresh (ptr vlanId : BitVec 16) (statsIn statsEg : BitVec 32) : VlanUser :=
  ⟨ptr, vlanId, statsIn, statsEg, 0, fun _ => 0, 0, 0, 0, ∅, ∅, 0, 0⟩

/-- What the hardware of one chip keeps, as far as the module programs it. -/
structure VlanHw where
  /-- The ids of the VLANs that exist. -/
  vlanIds : Finset (BitVec 16)
  /-- `ctcs_stp_set_vlan_stpid`, by `user_vlanptr`. -/
  stpid : BitVec 16 → BitVec 8
  /-- CTC_L2_FID_PROP_DROP_UNKNOWN_UCAST and its like, by fid. -/
  unknownDrop : BitVec 16 → VlanPktType → Bool
  /-- CTC_L2_FID_PROP_UNKNOWN_UCAST_COPY_TO_CPU and its like. -/
  unknownCopy : BitVec 16 → VlanPktType → Bool

/-- What does not change while the adapter runs on one chip. -/
structure VlanChip where
  lchip : Lchip
  chipType : ChipType
  /-- The pool of `user_vlanptr` starts at 1. -/
  ids : Allocator
  ids_lo : 0 < ids.lo
  ids_top : ids.lo + ids.size ≤ 4096

/-- The database of one chip and its hardware, as far as VLANs go. -/
structure VlanDb (ch : VlanChip) where
  vlans : Table Oid (Option VlanUser)
  stps : Table Oid StpInfo
  pool : Pool ch.ids
  /-- `fdb_miss_action` of the switch. -/
  fdbMissAction : VlanPktType → BitVec 32
  hw : VlanHw

/-- The object id of a VLAN. -/
def vlanOid (c : Lchip) (ptr : BitVec 16) : Oid :=
  createObjectId .vlan (c.setWidth 8) 0 0 (ptr.setWidth 32)

/-- The attribute ids of a VLAN that the module knows. -/
inductive VlanAttrId where
  | vlanId | memberList | maxLearnedAddresses | stpInstance | learnDisable
  | ipv4McastLookupKeyType | ipv6McastLookupKeyType | ingressAcl | egressAcl | metaData
  | floodControlType (cls : VlanPktType) | ptpDomainId | customIgmpSnoopingEnable
  | customStatsEnable
deriving DecidableEq, Repr

/-- An attribute of a VLAN. -/
inductive VlanAttr where
  | vlanId (id : BitVec 16)
  | memberList
  | maxLearnedAddresses (n : BitVec 32)
  | stpInstance (oid : Oid)
  | learnDisable (b : Bool)
  | ipv4McastLookupKeyType (s : BitVec 32)
  | ipv6McastLookupKeyType (s : BitVec 32)
  | ingressAcl (oid : Oid)
  | egressAcl (oid : Oid)
  | metaData (n : BitVec 32)
  | floodControlType (cls : VlanPktType) (s : BitVec 32)
  | ptpDomainId (oid : Oid)
  | customIgmpSnoopingEnable (b : Bool)
  | customStatsEnable (b : Bool)
deriving DecidableEq, Repr

def VlanAttr.id : VlanAttr → VlanAttrId
  | vlanId _ => .vlanId
  | memberList => .memberList
  | maxLearnedAddresses _ => .maxLearnedAddresses
  | stpInstance _ => .stpInstance
  | learnDisable _ => .learnDisable
  | ipv4McastLookupKeyType _ => .ipv4McastLookupKeyType
  | ipv6McastLookupKeyType _ => .ipv6McastLookupKeyType
  | ingressAcl _ => .ingressAcl
  | egressAcl _ => .egressAcl
  | metaData _ => .metaData
  | floodControlType cls _ => .floodControlType cls
  | ptpDomainId _ => .ptpDomainId
  | customIgmpSnoopingEnable _ => .customIgmpSnoopingEnable
  | customStatsEnable _ => .customStatsEnable

def VlanAttr.vlanId? : VlanAttr → Option (BitVec 16)
  | vlanId id => some id
  | _ => none

def VlanAttr.stpInstance? : VlanAttr → Option Oid
  | stpInstance oid => some oid
  | _ => none

def VlanAttr.customStatsEnable? : VlanAttr → Option Bool
  | customStatsEnable b => some b
  | _ => none

/-- The functions that set an attribute of a VLAN. -/
inductive VlanSetFn where
  | setInfo | setVlanProperty | aclBindPointSet
deriving DecidableEq, Repr

/-- The set functions of `vlan_attr_fn_entries`. -/
def vlanAttrFnEntries : VlanAttrId → Option VlanSetFn
  | .vlanId | .memberList => none
  | .ingressAcl | .egressAcl => some .aclBindPointSet
  | .ipv4McastLookupKeyType | .ipv6McastLookupKeyType => some .setVlanProperty
  | _ => some .setInfo

/-- The two directions of a VLAN's statistics. -/
inductive CtcDirection where
  | ingress | egress
deriving DecidableEq, Repr

/-- The SDK calls of the module. -/
inductive VlanCall where
  | createUservlan
  | destroyVlan
  | getGchipId
  | setLearnLimit
  | setLearningEn
  | setVlanStpid
  | getVlanStpid
  | setIgmpSnooping
  /-- The four CTC_VLAN_DIR_PROP_ACL_CLASSID properties. -/
  | setAclClassid (n : Fin 4)
  | setUnknownDrop (cls : VlanPktType)
  | setUnknownCopy (cls : VlanPktType)
  | getUnknownDrop (cls : VlanPktType)
  | createStatsid (dir : CtcDirection)
  | setStatsid (dir : CtcDirection)
  | destroyStatsid (dir : CtcDirection)
  | setIpv4BasedL2mc
  | setIpv6BasedL2mc
  | setPtpEn
deriving DecidableEq, Repr

/-- What the SDK, the memory and the other modules answer during one call. -/
structure VlanSdk where
  rc : VlanCall → CtcE
  /-- Memory for the record, and for its entry in the object table. -/
  mem : Bool
  memNode : Bool
  /-- The ids that `ctcs_stats_create_statsid` returns. -/
  statsId : CtcDirection → BitVec 32
  /-- `ctc_sai_acl_bind_point_set`. -/
  aclBindPointSet : VlanAttr → Status
  /-- Whether a PTP domain exists. -/
  ptpDomain : Oid → Bool

/-! ## The hardware -/

/-- `ctcs_vlan_create_uservlan`; the forwarding instance of a new VLAN drops
and copies nothing. -/
def VlanHw.createUservlan (hw : VlanHw) (vlanId ptr : BitVec 16) : VlanHw :=
  { hw with
    vlanIds := insert vlanId hw.vlanIds
    unknownDrop := update hw.unknownDrop ptr fun _ => false
    unknownCopy := update hw.unknownCopy ptr fun _ => false }

/-- `ctcs_vlan_destroy_vlan`. -/
def VlanHw.destroyVlan (hw : VlanHw) (sdk : VlanSdk) (vlanId : BitVec 16) : VlanHw :=
  if sdk.rc .destroyVlan = .none then { hw with vlanIds := hw.vlanIds.erase vlanId } else hw

/-- `ctcs_l2_set_fid_property` of one of the drop properties. -/
def VlanHw.setUnknownDrop (hw : VlanHw) (fid : BitVec 16) (cls : VlanPktType) (b : Bool) :
    VlanHw :=
  { hw with
    unknownDrop := update hw.unknownDrop fid (update (hw.unknownDrop fid) cls b) }

/-- `ctcs_l2_set_fid_property` of one of the copy properties. -/
def VlanHw.setUnknownCopy (hw : VlanHw) (fid : BitVec 16) (cls : VlanPktType) (b : Bool) :
    VlanHw :=
  { hw with
    unknownCopy := update hw.unknownCopy fid (update (hw.unknownCopy fid) cls b) }

/-! ## Unknown traffic -/

/-- SAI_VLAN_FLOOD_CONTROL_TYPE_NONE. -/
def vlanFloodNone : BitVec 32 := 1

/-- `drop` of `_ctc_sai_vlan_set_unknown_pkt_action`: DROP, TRAP and DENY of
the switch, or NONE of the VLAN. -/
def unknownDropOf (switchAction vlanAction : BitVec 32) : Bool :=
  switchAction = 0 || switchAction = 4 || switchAction = 6 || vlanAction = vlanFloodNone

/-- `copy` of the same: COPY, TRAP and LOG of the switch. -/
def unknownCopyOf (switchAction : BitVec 32) : Bool :=
  switchAction = 2 || switchAction = 4 || switchAction = 5

/-- `_ctc_sai_vlan_set_unknown_pkt_action`: the drop property, then the copy
property. -/
def vlanSetUnknownPktAction (sdk : VlanSdk) (hw : VlanHw) (fid : BitVec 16)
    (switchAction vlanAction : BitVec 32) (cls : VlanPktType) : VlanHw :=
  if sdk.rc (.setUnknownDrop cls) = .none then
    let hw := hw.setUnknownDrop fid cls (unknownDropOf switchAction vlanAction)
    if sdk.rc (.setUnknownCopy cls) = .none then
      hw.setUnknownCopy fid cls (unknownCopyOf switchAction)
    else hw
  else hw

/-! ## STP instances -/

/-- `ctc_sai_stp_set_instance` on the table of instances; `rc` is what
`ctcs_stp_set_vlan_stpid` answers. -/
def stpsSetInstance (rc : CtcE) (stps : Table Oid StpInfo) (vlanId : BitVec 12) (oid : Oid)
    (isAdd : Bool) : Status × Table Oid StpInfo :=
  match stps.lookup oid with
  | none => (.itemNotFound, stps)
  | some stp =>
    if isAdd then
      match mappingErrorCtc rc with
      | .success =>
        if oid.value = 0 then (.success, stps)
        else (.success, stps.insert oid { stp with
          vlanBindBits := insert vlanId stp.vlanBindBits
          vlanBindCount := stp.vlanBindCount + 1 })
      | status => (status, stps)
    else if oid.value = 0 then (.success, stps)
    else (.success, stps.insert oid { stp with
      vlanBindBits := stp.vlanBindBits.erase vlanId
      vlanBindCount := stp.vlanBindCount - 1 })

section Calls

variable {ch : VlanChip} (sdk : VlanSdk) (db : VlanDb ch)

/-- The record of a VLAN is written. -/
def VlanDb.write (oid : Oid) (v : VlanUser) : VlanDb ch :=
  { db with vlans := db.vlans.insert oid (some v) }

/-- `ctc_sai_db_get_object_property` of a VLAN, and what is done with its
record; memory that has been given back is not to be read. -/
def VlanDb.withVlan {α : Type} (oid : Oid) (missing : α) (f : VlanUser → Option α) : Option α :=
  match db.vlans.lookup oid with
  | none => some missing
  | some none => none
  | some (some v) => f v

/-- The calls of a list until one fails; the status that is returned. -/
def VlanSdk.calls : List VlanCall → Status
  | [] => .success
  | c :: rest =>
    match mappingErrorCtc (sdk.rc c) with
    | .success => VlanSdk.calls rest
    | status => status

/-- STP_INSTANCE of `ctc_sai_vlan_set_info`.  The bit of a VLAN id from 4096
on lies past the bitmap. -/
def vlanSetStp (oid : Oid) (v : VlanUser) (stp : Oid) : Option (Status × VlanDb ch) :=
  match stpsSetInstance (sdk.rc .setVlanStpid) db.stps (v.vlanId.setWidth 12) stp true with
  | (.success, stps) =>
    if stp.value ≠ 0 ∧ 4096 ≤ v.vlanId.toNat then none
    else some (.success, { db with
      stps := stps
      hw := { db.hw with
        stpid := update db.hw.stpid v.userVlanptr (stp.value.setWidth 8) }
      vlans := db.vlans.insert oid (some { v with stpId := stp.value.setWidth 8 }) })
  | (status, _) => some (status, db)

/-- The three flood controls of `ctc_sai_vlan_set_info`; what programming the
hardware answers is not asked. -/
def vlanSetFloodControl (oid : Oid) (v : VlanUser) (cls : VlanPktType) (s : BitVec 32) :
    Status × VlanDb ch :=
  if cls = .broadcast ∧ ch.chipType = .goldengate then (.notSupported, db)
  else if s = 2 ∨ s = 3 then (.notSupported, db)
  else if s.toInt < 0 ∨ 3 < s.toInt then (.invalidParameter, db)
  else (.success, { db with
    vlans := db.vlans.insert oid (some { v with
      ukwnFloodCtr := update v.ukwnFloodCtr cls s })
    hw := vlanSetUnknownPktAction sdk db.hw v.userVlanptr (db.fdbMissAction cls) s cls })

/-- A statistics id of one direction; the code of an error other than "no
resource" of the creation is not looked at. -/
def vlanCreateStats (dir : CtcDirection) : Status :=
  if sdk.rc (.createStatsid dir) = .noResource then .insufficientResources
  else mappingErrorCtc (sdk.rc (.setStatsid dir))

/-- CUSTOM_STATS_ENABLE of `ctc_sai_vlan_set_info`. -/
def vlanSetStats (oid : Oid) (v : VlanUser) (enable : Bool) : Status × VlanDb ch :=
  if enable then
    if v.statsIdIn ≠ 0 ∨ v.statsIdEg ≠ 0 then (.invalidParameter, db)
    else if ch.chipType = .duet2 ∨ ch.chipType = .tsingma then
      match vlanCreateStats sdk .ingress with
      | .success =>
        match vlanCreateStats sdk .egress with
        | .success => (.success, db.write oid { v with
            statsIdIn := sdk.statsId .ingress
            statsIdEg := sdk.statsId .egress })
        | _ => (.failure, db)
      | status =>
        (if sdk.rc (.createStatsid .ingress) = .noResource then status else .failure, db)
    else (.success, db)
  else if v.statsIdIn = 0 ∨ v.statsIdEg = 0 then (.invalidParameter, db)
  else (.success, db.write oid { v with statsIdIn := 0, statsIdEg := 0 })

/-- PTP_DOMAIN_ID of `ctc_sai_vlan_set_info`; the record is written before
the SDK is asked. -/
def vlanSetPtpDomain (oid : Oid) (v : VlanUser) (domain : Oid) : Status × VlanDb ch :=
  if sdk.ptpDomain domain then
    (sdk.calls [.setPtpEn], db.write oid { v with ptpDomainId := domain.value })
  else (.itemNotFound, db)

/-- The calls of META_DATA. -/
def aclClassidCalls : List VlanCall :=
  [.setAclClassid 0, .setAclClassid 1, .setAclClassid 2, .setAclClassid 3]

/-- `ctc_sai_vlan_set_info`. -/
def vlanSetInfo (oid : Oid) (attr : VlanAttr) : Option (Status × VlanDb ch) :=
  db.withVlan oid (.invalidObjectId, db) fun v =>
    match attr with
    | .maxLearnedAddresses _ => some (sdk.calls [.setLearnLimit], db)
    | .stpInstance stp => vlanSetStp sdk db oid v stp
    | .learnDisable _ => some (sdk.calls [.setLearningEn], db)
    | .floodControlType cls s => some (vlanSetFloodControl sdk db oid v cls s)
    | .customIgmpSnoopingEnable _ => some (sdk.calls [.setIgmpSnooping], db)
    | .metaData _ => some (sdk.calls aclClassidCalls, db)
    | .customStatsEnable enable => some (vlanSetStats sdk db oid v enable)
    | .ptpDomainId domain => some (vlanSetPtpDomain sdk db oid v domain)
    | _ => some (.notImplemented, db)

/-- SAI_VLAN_MCAST_LOOKUP_KEY_TYPE_MAC_DA to XG_AND_SG. -/
def McastLookupKeyTypeValid (s : BitVec 32) : Prop := 0 ≤ s.toInt ∧ s.toInt ≤ 3

instance (s : BitVec 32) : Decidable (McastLookupKeyTypeValid s) :=
  inferInstanceAs (Decidable (_ ∧ _))

/-- `ctc_sai_vlan_set_vlan_property`; the record is written before the SDK is
asked. -/
def vlanSetVlanProperty (oid : Oid) (attr : VlanAttr) : Option (Status × VlanDb ch) :=
  db.withVlan oid (.invalidObjectId, db) fun v =>
    match attr with
    | .ipv4McastLookupKeyType s =>
      if McastLookupKeyTypeValid s then
        some (sdk.calls [.setIpv4BasedL2mc], db.write oid { v with
          ipv4McastLookupType := s.setWidth 8 })
      else some (.invalidParameter, db)
    | .ipv6McastLookupKeyType s =>
      if McastLookupKeyTypeValid s then
        some (sdk.calls [.setIpv6BasedL2mc], db.write oid { v with
          ipv6McastLookupType := s.setWidth 8 })
      else some (.invalidParameter, db)
    | _ => some (.notSupported, db)

/-- `ctc_sai_set_attribute` with the table of VLAN attributes. -/
def vlanSetAttr (oid : Oid) (attr : VlanAttr) : Option (Status × VlanDb ch) :=
  match vlanAttrFnEntries attr.id with
  | none => some (.invalidAttribute 0, db)
  | some .aclBindPointSet => some (sdk.aclBindPointSet attr, db)
  | some .setVlanProperty => vlanSetVlanProperty sdk db oid attr
  | some .setInfo => vlanSetInfo sdk db oid attr

/-- The attributes of `ids` that are given are set, in that order, until one
fails. -/
def vlanSetGiven (oid : Oid) (attrs : List VlanAttr) :
    VlanDb ch → List VlanAttrId → Option (Status × VlanDb ch)
  | db, [] => some (.success, db)
  | db, i :: rest =>
    match attrs.find? fun a => a.id = i with
    | none => vlanSetGiven oid attrs db rest
    | some a =>
      match vlanSetAttr sdk db oid a with
      | none => none
      | some (.success, db) => vlanSetGiven oid attrs db rest
      | some (status, db) => some (status, db)

/-! ## Creation and removal -/

/-- The attributes that creation sets before there is a record. -/
def vlanEarlyAttrs : List VlanAttrId := [.maxLearnedAddresses, .learnDisable]

/-- Those that it sets after the STP instance. -/
def vlanLateAttrs : List VlanAttrId :=
  [.ipv4McastLookupKeyType, .ipv6McastLookupKeyType, .ingressAcl, .egressAcl,
    .floodControlType .unicast, .floodControlType .mutiicast, .floodControlType .broadcast,
    .metaData]

/-- The instance that a creation names, or the default one. -/
def vlanStpOf (c : Lchip) (attrs : List VlanAttr) : Oid :=
  (findAttribInList VlanAttr.stpInstance? attrs).getD (stpOid c 0)

/-- Whether the creation makes statistics ids. -/
def vlanHasStats (ch : VlanChip) (attrs : List VlanAttr) : Bool :=
  (findAttribInList VlanAttr.customStatsEnable? attrs).getD true &&
    (ch.chipType = .duet2 || ch.chipType = .tsingma)

def vlanStats (ch : VlanChip) (sdk : VlanSdk) (attrs : List VlanAttr) : Status :=
  if vlanHasStats ch attrs then
    match vlanCreateStats sdk .ingress with
    | .success => vlanCreateStats sdk .egress
    | status => status
  else .success

/-- The status variable when memory for the record is asked for: that of the
statistics calls, or of the search for CUSTOM_STATS_ENABLE. -/
def vlanStatusBeforeRecord (ch : VlanChip) (attrs : List VlanAttr) : Status :=
  if vlanHasStats ch attrs then .success
  else if (findAttribInList VlanAttr.customStatsEnable? attrs).isSome then .success
  else .itemNotFound

/-- The way back from `error1` on: the VLAN and its number are given up. -/
def VlanDb.abandon (ptr vlanId : BitVec 16) : VlanDb ch :=
  { db with
    hw := db.hw.destroyVlan sdk vlanId
    pool := db.pool.free ptr.toNat }

/-- `error4`, once the record is stored: its memory is given back. -/
def VlanDb.dangle (oid : Oid) : VlanDb ch :=
  { db with vlans := db.vlans.insert oid none }

/-- `ctc_sai_vlan_create_vlan` after the record is stored. -/
def createVlanLate (oid : Oid) (ptr vlanId : BitVec 16) (attrs : List VlanAttr) :
    Option (Status × VlanDb ch) :=
  let back (r : Status × VlanDb ch) := (r.1, (r.2.dangle oid).abandon sdk ptr vlanId)
  match vlanSetInfo sdk db oid (.stpInstance (vlanStpOf ch.lchip attrs)) with
  | none => none
  | some (.success, db) =>
    match vlanSetGiven sdk oid attrs db vlanLateAttrs with
    | none => none
    | some (.success, db) => some (.success, db)
    | some r => some (back r)
  | some r => some (back r)

/-- `ctc_sai_vlan_create_vlan` after the VLAN is created in the hardware. -/
def createVlanRecord (oid : Oid) (ptr vlanId : BitVec 16) (attrs : List VlanAttr) :
    Option (Status × VlanDb ch) :=
  let error1 (status : Status) (db : VlanDb ch) := some (status, db.abandon sdk ptr vlanId)
  match vlanSetGiven sdk oid attrs db vlanEarlyAttrs with
  | none => none
  | some (.success, db) =>
    match vlanStats ch sdk attrs with
    | .success =>
      if !sdk.mem then error1 (vlanStatusBeforeRecord ch attrs) db
      else if (db.vlans.lookup oid).isSome then error1 .itemAlreadyExists db
      else if !sdk.memNode then error1 .noMemory db
      else
        let stats := vlanHasStats ch attrs
        createVlanLate sdk
          (db.write oid (.fresh ptr vlanId (if stats then sdk.statsId .ingress else 0)
            (if stats then sdk.statsId .egress else 0)))
          oid ptr vlanId attrs
    | status => error1 status db
  | some (status, db) => error1 status db

/-- `ctc_sai_vlan_create_vlan`: the status and the id that is handed out. -/
def createVlan (attrs : List VlanAttr) : Option (Status × Option Oid × VlanDb ch) :=
  if attrs.isEmpty then some (.invalidParameter, none, db)
  else
    match findAttribInList VlanAttr.vlanId? attrs with
    | none => some (.mandatoryAttributeMissing, none, db)
    | some vlanId =>
      match db.pool.alloc with
      | none => some (.insufficientResources, none, db)
      | some (i, pool) =>
        let ptr := BitVec.ofNat 16 i
        match mappingErrorCtc (sdk.rc .createUservlan) with
        | .success =>
          let oid := vlanOid ch.lchip ptr
          let db := { db with pool := pool, hw := db.hw.createUservlan vlanId ptr }
          (createVlanRecord sdk db oid ptr vlanId attrs).map fun r => (r.1, some oid, r.2)
        | status => some (status, none, { db with pool := pool.free i })

/-- What removal does with the statistics ids of a VLAN. -/
def VlanUser.destroyStats (v : VlanUser) : List VlanCall :=
  (if v.statsIdIn ≠ 0 then [.destroyStatsid .ingress] else []) ++
    if v.statsIdEg ≠ 0 then [.destroyStatsid .egress] else []

/-- `ctc_sai_vlan_remove_vlan`, without the flush of the FDB.  Where the SDK
does not say the number of its chip the function returns with the lock held. -/
def removeVlan (oid : Oid) : Option (Status × VlanDb ch) :=
  db.withVlan oid (.invalidObjectId, db) fun v =>
    match sdk.calls v.destroyStats with
    | .success =>
      let db := { db with pool := db.pool.free v.userVlanptr.toNat }
      match stpsSetInstance .none db.stps (v.vlanId.setWidth 12)
          (stpOid ch.lchip (v.stpId.setWidth 32)) false with
      | (.success, stps) =>
        if v.stpId ≠ 0 ∧ 4096 ≤ v.vlanId.toNat then none
        else
          let db := { db with stps := stps }
          match mappingErrorCtc (sdk.rc .destroyVlan) with
          | .success =>
            let db := { db with hw := db.hw.destroyVlan sdk v.vlanId }
            match mappingErrorCtc (sdk.rc .getGchipId) with
            | .success => some (.success, { db with vlans := db.vlans.erase oid })
            | status => some (status, db)
          | status => some (status, db)
      | (status, _) => some (status, db)
    | status => some (status, db)

/-! ## Reading back -/

/-- STP_INSTANCE of `ctc_sai_vlan_get_info`. -/
def getVlanStpInstance (oid : Oid) : Option (Status × Option Oid) :=
  db.withVlan oid (.invalidObjectId, none) fun v =>
    match mappingErrorCtc (sdk.rc .getVlanStpid) with
    | .success =>
      some (.success, some (stpOid ch.lchip ((db.hw.stpid v.userVlanptr).setWidth 32)))
    | status => some (status, none)

/-- A flood control of `ctc_sai_vlan_get_info`: the drop property of the
forwarding instance. -/
def getVlanFloodControl (oid : Oid) (cls : VlanPktType) : Option (Status × Option (BitVec 32)) :=
  db.withVlan oid (.invalidObjectId, none) fun v =>
    match mappingErrorCtc (sdk.rc (.getUnknownDrop cls)) with
    | .success => some (.success, some (if db.hw.unknownDrop v.userVlanptr cls then 1 else 0))
    | status => some (status, none)

end Calls

/-! ## What setting an attribute changes -/

section Changes

variable {ch : VlanChip} {sdk : VlanSdk} {db : VlanDb ch} {oid : Oid}
variable {attr : VlanAttr} {r : Status × VlanDb ch}

/-- A VLAN that exists. -/
def VlanDb.Live (db : VlanDb ch) (oid : Oid) (v : VlanUser) : Prop :=
  db.vlans.lookup oid = some (some v)

theorem VlanDb.Live.withVlan {α : Type} {v : VlanUser} (h : db.Live oid v) (missing : α)
    (f : VlanUser → Option α) : db.withVlan oid missing f = f v := by
  unfold VlanDb.withVlan
  rw [show db.vlans.lookup oid = some (some v) from h]

/-- Writing a record leaves the STP instance, the flood types and the members
of the VLAN as they are. -/
structure VlanSteady (v v' : VlanUser) : Prop where
  ptr : v'.userVlanptr = v.userVlanptr
  vlanId : v'.vlanId = v.vlanId
  stpId : v'.stpId = v.stpId
  flood : v'.ukwnFloodCtr = v.ukwnFloodCtr
  portBits : v'.vlanMemberPortBindBits = v.vlanMemberPortBindBits
  lagBits : v'.vlanMemberLagBindBits = v.vlanMemberLagBindBits
  portCount : v'.vlanMemberPortBindCount = v.vlanMemberPortBindCount
  lagCount : v'.vlanMemberLagBindCount = v.vlanMemberLagBindCount

/-- What a set function of an attribute does to a VLAN that exists. -/
inductive VlanChange (sdk : VlanSdk) (db : VlanDb ch) (oid : Oid) (v : VlanUser) (attr : VlanAttr)
    (r : Status × VlanDb ch) : Prop where
  | steady {v' : VlanUser} : attr.id ≠ .stpInstance →
      (∀ cls s, attr ≠ .floodControlType cls s) → VlanSteady v v' → r.2 = db.write oid v' →
      VlanChange sdk db oid v attr r
  | flood {cls : VlanPktType} {s : BitVec 32} : attr = .floodControlType cls s →
      s = 0 ∨ s = 1 → ¬ (cls = .broadcast ∧ ch.chipType = .goldengate) →
      r = (.success, { db.write oid { v with
          ukwnFloodCtr := update v.ukwnFloodCtr cls s } with
        hw := vlanSetUnknownPktAction sdk db.hw v.userVlanptr (db.fdbMissAction cls) s cls }) →
      VlanChange sdk db oid v attr r
  | stp {stp : Oid} : attr = .stpInstance stp → vlanSetStp sdk db oid v stp = some r →
      VlanChange sdk db oid v attr r

theorem floodType_valid {s : BitVec 32} (h : ¬ (s = 2 ∨ s = 3))
    (h' : ¬ (s.toInt < 0 ∨ 3 < s.toInt)) : s = 0 ∨ s = 1 := by
  have hge : 0 ≤ s.toInt := by omega
  have hnat : s.toInt = s.toNat := by
    rw [BitVec.toInt_eq_toNat_cond] at hge ⊢
    split at hge <;> rename_i hc
    · rw [if_pos hc]
    · omega
  have hval : ∀ n : Nat, s.toNat = n → s = BitVec.ofNat 32 n := by
    rintro n rfl
    exact BitVec.eq_of_toNat_eq (by simp)
  have hs : s.toNat = 0 ∨ s.toNat = 1 ∨ s.toNat = 2 ∨ s.toNat = 3 := by omega
  rcases hs with hs | hs | hs | hs
  · exact .inl (hval 0 hs)
  · exact .inr (hval 1 hs)
  · exact absurd (.inl (hval 2 hs)) h
  · exact absurd (.inr (hval 3 hs)) h

/-- Nothing is changed; a flood type that is set on no VLAN is an error. -/
inductive Untouched (db : VlanDb ch) (attr : VlanAttr) (r : Status × VlanDb ch) : Prop where
  | failed : r.2 = db → r.1 ≠ .success → Untouched db attr r
  | other : r.2 = db → (∀ cls s, attr ≠ .floodControlType cls s) → Untouched db attr r

theorem Untouched.eq (h : Untouched db attr r) : r.2 = db := by
  cases h <;> assumption

/-- An attribute changes nothing, or it is set on a VLAN that exists. -/
theorem vlanSetAttr_changes (hr : vlanSetAttr sdk db oid attr = some r) :
    Untouched db attr r ∨ ∃ v, db.Live oid v ∧ VlanChange sdk db oid v attr r := by
  have hwith : ∀ {f : VlanUser → Option (Status × VlanDb ch)},
      (∀ v, db.Live oid v → f v = some r → Untouched db attr r ∨ VlanChange sdk db oid v attr r) →
      db.withVlan oid (.invalidObjectId, db) f = some r →
      Untouched db attr r ∨ ∃ v, db.Live oid v ∧ VlanChange sdk db oid v attr r := by
    intro f hf hr
    unfold VlanDb.withVlan at hr
    split at hr
    · cases hr; exact .inl (.failed rfl nofun)
    · cases hr
    · rename_i v hv
      exact (hf v hv hr).imp_right fun h => ⟨v, hv, h⟩
  unfold vlanSetAttr at hr
  split at hr
  · cases hr; exact .inl (.failed rfl nofun)
  · rename_i hacl
    cases hr
    refine .inl (.other rfl ?_)
    rintro cls s rfl
    cases hacl
  · refine hwith (fun v _ hr => ?_) hr
    split at hr
    · split at hr
      · cases hr
        refine .inr (.steady (by simp [VlanAttr.id]) nofun ?_ rfl)
        exact ⟨rfl, rfl, rfl, rfl, rfl, rfl, rfl, rfl⟩
      · cases hr; exact .inl (.failed rfl nofun)
    · split at hr
      · cases hr
        refine .inr (.steady (by simp [VlanAttr.id]) nofun ?_ rfl)
        exact ⟨rfl, rfl, rfl, rfl, rfl, rfl, rfl, rfl⟩
      · cases hr; exact .inl (.failed rfl nofun)
    · cases hr; exact .inl (.failed rfl nofun)
  · refine hwith (fun v _ hr => ?_) hr
    split at hr
    · cases hr; exact .inl (.other rfl nofun)
    · exact .inr (.stp rfl hr)
    · cases hr; exact .inl (.other rfl nofun)
    · have hr := (Option.some.inj hr).symm
      unfold vlanSetFloodControl at hr
      split at hr
      · rw [hr]; exact .inl (.failed rfl nofun)
      rename_i hcls
      split at hr
      · rw [hr]; exact .inl (.failed rfl nofun)
      rename_i hs
      split at hr
      · rw [hr]; exact .inl (.failed rfl nofun)
      · rename_i hs'
        exact .inr (.flood rfl (floodType_valid hs hs') hcls hr)
    · cases hr; exact .inl (.other rfl nofun)
    · cases hr; exact .inl (.other rfl nofun)
    · rename_i enable _ _
      have hr := (Option.some.inj hr).symm
      have hid : (VlanAttr.customStatsEnable enable).id ≠ .stpInstance := by simp [VlanAttr.id]
      unfold vlanSetStats at hr
      split at hr
      · split at hr
        · rw [hr]; exact .inl (.other rfl nofun)
        · split at hr
          · split at hr
            · split at hr
              · rw [hr]
                refine .inr (.steady hid nofun ?_ rfl)
                exact ⟨rfl, rfl, rfl, rfl, rfl, rfl, rfl, rfl⟩
              · rw [hr]; exact .inl (.other rfl nofun)
            · rw [hr]; exact .inl (.other rfl nofun)
          · rw [hr]; exact .inl (.other rfl nofun)
      split at hr
      · rw [hr]; exact .inl (.other rfl nofun)
      · rw [hr]
        refine .inr (.steady hid nofun ?_ rfl)
        exact ⟨rfl, rfl, rfl, rfl, rfl, rfl, rfl, rfl⟩
    · rename_i domain _ _
      have hr := (Option.some.inj hr).symm
      have hid : (VlanAttr.ptpDomainId domain).id ≠ .stpInstance := by simp [VlanAttr.id]
      unfold vlanSetPtpDomain at hr
      split at hr
      · rw [hr]
        refine .inr (.steady hid nofun ?_ rfl)
        exact ⟨rfl, rfl, rfl, rfl, rfl, rfl, rfl, rfl⟩
      · rw [hr]; exact .inl (.other rfl nofun)
    · cases hr; exact .inl (.failed rfl nofun)

theorem VlanChange.live {v : VlanUser} (h : VlanChange sdk db oid v attr r) (hv : db.Live oid v) :
    ∃ v', r.2.Live oid v' ∧ v'.userVlanptr = v.userVlanptr ∧ v'.vlanId = v.vlanId := by
  have hw : ∀ v', (db.write oid v').Live oid v' := fun v' => AList.lookup_insert db.vlans
  cases h with
  | steady _ _ hs hr => exact ⟨_, by rw [hr]; exact hw _, hs.ptr, hs.vlanId⟩
  | flood _ _ _ hr => rw [hr]; exact ⟨_, hw _, rfl, rfl⟩
  | stp _ hr =>
    unfold vlanSetStp at hr
    split at hr
    · split at hr
      · cases hr
      · cases hr; exact ⟨_, hw _, rfl, rfl⟩
    · cases hr; exact ⟨v, hv, rfl, rfl⟩

end Changes

end CtcSai
