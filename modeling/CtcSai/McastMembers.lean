/-
# `McastMembers` — the names of multicast members, ctc_sai_mcast.c

A group keeps the outputs of its members, bridge ports or router interfaces,
and no member: the id of a member is computed from the group and the output
when it is made, listed and removed, and taken apart again by the get calls.
-/
import CtcSai.BridgePorts
import CtcSai.Lib.Run

namespace CtcSai

open Runs

/-- The objects that groups refer to; `recordGport` is what the `gport` of a
bridge port reads in the record of a router interface. -/
structure McastTables where
  bridgePorts : Oid → Option BridgePort
  rifs : List (Oid × Rif)
  bridgeId : Oid → BitVec 16
  vlanId : Oid → Option (BitVec 16)
  recordGport : Rif → BitVec 16

/-- `ctc_sai_mcast_group_property_t`: the outputs, and the entries that use
the group. -/
structure McastGroup where
  outputs : List Oid
  entries : List Nat

/-- The memory, and what the update of an entry for a member answers. -/
structure McastSdk where
  mem : Bool
  l2mcEntry : Nat → Oid → Bool → Status
  ipmcEntry : Nat → Oid → Bool → Status

/-- The groups. -/
abbrev McastDb := Oid → Option McastGroup

/-- `ctc_sai_db_get_object_property`: an object is in the tables of its chip. -/
def inChip {α : Type} (lchip : Lchip) (oid : Oid) (table : Oid → Option α) : Option α :=
  if oid.lchip = lchip then table oid else none

/-- `_ctc_sai_mcast_create_group_object_id`. -/
def mcastGroupOid (type : ObjectType) (lchip : Lchip) (groupId : BitVec 16) : Oid :=
  createObjectId type (lchip.setWidth 8) 0 groupId 0

/-- The attributes of a member. -/
inductive McastMemberAttr where
  | groupId (oid : Oid)
  | outputId (oid : Oid)
  | endpointIp (ip : IpAddress)
deriving DecidableEq, Repr

namespace McastMemberAttr

def groupId? : McastMemberAttr → Option Oid
  | .groupId o => some o
  | _ => none

def outputId? : McastMemberAttr → Option Oid
  | .outputId o => some o
  | _ => none

def endpointIp? : McastMemberAttr → Option IpAddress
  | .endpointIp ip => some ip
  | _ => none

end McastMemberAttr

variable (tb : McastTables) (sdk : McastSdk)

/-! ## Outputs -/

/-- The record of a router interface. -/
def McastTables.rif (oid : Oid) : Option Rif := (tb.rifs.find? fun e => e.1 = oid).map (·.2)

/-- The locals `sai_l3if_type`, `value` and `vlan_id`. -/
structure RifInfo where
  type : BitVec 8
  value : BitVec 32
  vlanId : BitVec 16
deriving DecidableEq, Repr

/-- The locals before a loop. -/
def RifInfo.zero : RifInfo := ⟨0, 0, 0⟩

/-- `ctc_sai_router_interface_get_rif_info`, its status not looked at: without
a record the locals stay. -/
def getRifInfo (oid : Oid) (old : RifInfo) : RifInfo :=
  match tb.rif oid with
  | none => old
  | some r =>
    ⟨oid.subType.setWidth 8, r.gport,
      if r.vlanOid ≠ Oid.null ∧ oid.subType = RifType.vlan.bits then (tb.vlanId r.vlanOid).getD 0
      else if oid.subType = RifType.subPort.bits then r.outerVlanId
      else 0⟩

/-- `ctc_sai_router_interface_get_vlan_ptr`. -/
def getRifVlanPtr (oid : Oid) : Except Status (BitVec 16) :=
  match tb.rif oid with
  | none => .error .itemNotFound
  | some r =>
    if r.vlanOid = Oid.null ∧ tb.bridgeId oid = 0 then .error .invalidParameter
    else if oid.subType = RifType.vlan.bits then
      .ok (if r.vlanOid.type = ObjectType.vlan.bits then r.vlanOid.value.setWidth 16 else 0)
    else if oid.subType = RifType.bridge.bits then .ok (tb.bridgeId oid)
    else .ok 0

/-- What an IPMC member keeps of its output: the type, and a VLAN pointer, a
port, or both. -/
def ipmcValue (oid : Oid) (old : RifInfo) : Except Status RifInfo :=
  let info := getRifInfo tb oid old
  if info.vlanId ≠ 0 ∧ info.type = RifType.vlan.bits.setWidth 8 then
    (getRifVlanPtr tb oid).map fun ptr => { info with value := ptr.setWidth 32 }
  else if info.vlanId ≠ 0 ∧ info.type = RifType.subPort.bits.setWidth 8 then
    .ok { info with value := info.vlanId.setWidth 32 <<< 20 ||| (info.value &&& 0xFFFFF) }
  else .ok info

/-- The id of an L2MC member. -/
def l2mcMemberOid (lchip : Lchip) (groupId gport : BitVec 16) : Oid :=
  createObjectId .l2mcGroupMember (lchip.setWidth 8) 0 groupId (gport.setWidth 32)

/-- The id of an IPMC member. -/
def ipmcMemberOid (lchip : Lchip) (groupId : BitVec 16) (info : RifInfo) : Oid :=
  createObjectId .ipmcGroupMember (lchip.setWidth 8) info.type groupId info.value

/-! ## Members are made -/

/-- The loop over the entries of a group. -/
def eachEntry (update : Nat → Status) : List Nat → Status
  | [] => .success
  | e :: rest =>
    match update e with
    | .success => eachEntry update rest
    | status => status

/-- Whether an output has the port; `none` is a bridge port that is not
there. -/
def l2mcTaken (lchip : Lchip) (gport : BitVec 16) : List Oid → Option Bool
  | [] => some false
  | o :: rest =>
    match inChip lchip o tb.bridgePorts with
    | none => none
    | some bp => if bp.gport = gport then some true else l2mcTaken lchip gport rest

/-- The group with other outputs. -/
def McastDb.setOutputs (db : McastDb) (oid : Oid) (g : McastGroup) (outputs : List Oid) : McastDb :=
  Function.update db oid (some { g with outputs })

/-- `ctc_sai_mcast_create_l2mc_group_member`. -/
def createL2mcGroupMember (lchip : Lchip) (attrs : List McastMemberAttr) (db : McastDb) :
    Option (Status × Option Oid × McastDb) :=
  match findAttribInList McastMemberAttr.groupId? attrs,
      findAttribInList McastMemberAttr.outputId? attrs with
  | none, _ => some (.mandatoryAttributeMissing, none, db)
  | some _, none => some (.mandatoryAttributeMissing, none, db)
  | some grp, some out =>
    if (findAttribInList McastMemberAttr.endpointIp? attrs).isSome then
      some (.notImplemented, none, db)
    else
      match (inChip lchip out tb.bridgePorts).filter fun bp => bp.portType = .port with
      | none => some (.invalidObjectId, none, db)
      | some bp =>
        match inChip lchip grp db with
        | none => some (.itemNotFound, none, db)
        | some g =>
          match l2mcTaken tb lchip bp.gport g.outputs with
          | none => none
          | some true => some (.itemAlreadyExists, none, db)
          | some false =>
            if !sdk.mem then some (.noMemory, none, db)
            else
              let oid := l2mcMemberOid lchip grp.value2 bp.gport
              match eachEntry (sdk.l2mcEntry · oid true) g.entries with
              | .success => some (.success, some oid, db.setOutputs grp g (g.outputs ++ [out]))
              | status => some (status, none, db)

/-- `ctc_sai_mcast_create_ipmc_group_member`. -/
def createIpmcGroupMember (lchip : Lchip) (attrs : List McastMemberAttr) (db : McastDb) :
    Status × Option Oid × McastDb :=
  match findAttribInList McastMemberAttr.groupId? attrs,
      findAttribInList McastMemberAttr.outputId? attrs with
  | none, _ => (.itemNotFound, none, db)
  | some _, none => (.itemNotFound, none, db)
  | some grp, some out =>
    match ipmcValue tb out .zero with
    | .error status => (status, none, db)
    | .ok info =>
      match inChip lchip grp db with
      | none => (.itemNotFound, none, db)
      | some g =>
        if out ∈ g.outputs then (.itemAlreadyExists, none, db)
        else if !sdk.mem then (.noMemory, none, db)
        else
          match eachEntry (sdk.ipmcEntry · out true) g.entries with
          | .success => (.success, some (ipmcMemberOid lchip grp.value2 info),
              db.setOutputs grp g (g.outputs ++ [out]))
          | status => (status, none, db)

/-! ## Members are removed -/

/-- The loop that looks for the port: the outputs without it, if it is one. -/
def l2mcWithout (lchip : Lchip) (value : BitVec 32) : List Oid → Except Status (Option (List Oid))
  | [] => .ok none
  | o :: rest =>
    match (inChip lchip o tb.bridgePorts).filter fun bp => bp.portType = .port with
    | none => .error .invalidObjectId
    | some bp =>
      if bp.gport.setWidth 32 = value then .ok (some rest)
      else (l2mcWithout lchip value rest).map fun found => found.map (o :: ·)

/-- `ctc_sai_mcast_remove_l2mc_group_member`: an entry that cannot be updated
is an error, and the output is gone. -/
def removeL2mcGroupMember (oid : Oid) (db : McastDb) : Status × McastDb :=
  let grp := mcastGroupOid .l2mcGroup oid.lchip oid.value2
  match db grp with
  | none => (.itemNotFound, db)
  | some g =>
    match l2mcWithout tb oid.lchip oid.value g.outputs with
    | .error status => (status, db)
    | .ok none => (.itemNotFound, db)
    | .ok (some outputs) =>
      (eachEntry (sdk.l2mcEntry · oid false) g.entries, db.setOutputs grp g outputs)

/-- The loop that looks for the type and the value. -/
def ipmcWithout (oid : Oid) (old : RifInfo) : List Oid → Except Status (Option (List Oid))
  | [] => .ok none
  | o :: rest =>
    match ipmcValue tb o old with
    | .error status => .error status
    | .ok info =>
      if info.type = oid.subType.setWidth 8 ∧ info.value = oid.value then .ok (some rest)
      else (ipmcWithout oid info rest).map fun found => found.map (o :: ·)

/-- `ctc_sai_mcast_remove_ipmc_group_member`: what the entries answer is not
looked at. -/
def removeIpmcGroupMember (oid : Oid) (db : McastDb) : Status × McastDb :=
  let grp := mcastGroupOid .ipmcGroup oid.lchip oid.value2
  match db grp with
  | none => (.itemNotFound, db)
  | some g =>
    match ipmcWithout tb oid .zero g.outputs with
    | .error status => (status, db)
    | .ok none => (.itemNotFound, db)
    | .ok (some outputs) => (.success, db.setOutputs grp g outputs)

/-! ## Members are read -/

/-- The loop of the list; `name` computes an id, and is `none` where a NULL
pointer is read. -/
def listMembers (name : RifInfo → Oid → Option (Except Status (RifInfo × Oid))) (count : Nat) :
    RifInfo → List Oid → List Oid → Option (Except Status (Status × List Oid))
  | _, found, [] => some (.ok (.success, found))
  | info, found, o :: rest =>
    if found.length < count then
      match name info o with
      | none => none
      | some (.error status) => some (.error status)
      | some (.ok (info, m)) => listMembers name count info (found ++ [m]) rest
    else some (.ok (.bufferOverflow, found))

/-- The id in the first branch. -/
def ipmcListName (lchip : Lchip) (groupId : BitVec 16) (info : RifInfo) (o : Oid) :
    Option (Except Status (RifInfo × Oid)) :=
  some ((ipmcValue tb o info).map fun info => (info, ipmcMemberOid lchip groupId info))

/-- The id in the second branch: whatever the record is, its `gport` is read. -/
def l2mcListName (lchip : Lchip) (groupId : BitVec 16) (info : RifInfo) (o : Oid) :
    Option (Except Status (RifInfo × Oid)) :=
  let gport := ((inChip lchip o tb.bridgePorts).map (·.gport)).or
    ((inChip lchip o tb.rif).map tb.recordGport)
  gport.map fun gport => .ok (info, l2mcMemberOid lchip groupId gport)

/-- `ctc_sai_mcast_get_group_member_list`: the key is a group, and its type is
compared with that of a member. -/
def getGroupMemberList (mem : Bool) (db : McastDb) (key : Oid) (count : Nat) :
    Option (Status × AttrList Oid) :=
  match db key with
  | none => some (.itemNotFound, ⟨count, []⟩)
  | some g =>
    if !mem then some (.noMemory, ⟨count, []⟩)
    else
      let name := if key.type = ObjectType.ipmcGroupMember.bits then ipmcListName tb
        else l2mcListName tb
      match listMembers (name key.lchip key.value2) count .zero [] g.outputs with
      | none => none
      | some (.error status) => some (status, ⟨count, []⟩)
      | some (.ok (status, found)) => some (status, (fillObjectList (some found) ⟨count, []⟩).2)

/-- `ctc_sai_mcast_get_member_group_id`. -/
def getMemberGroupId (key : Oid) : Oid :=
  mcastGroupOid (if key.type = ObjectType.l2mcGroupMember.bits then .l2mcGroup else .ipmcGroup)
    key.lchip key.value2

/-- `ctc_sai_router_interface_lookup_rif_oid`: the last one that fits. -/
def lookupRifOid (lchip : Lchip) (type : BitVec 3) (gport : BitVec 32) (vlan : BitVec 16) :
    Except Status Oid :=
  let fits := tb.rifs.filter fun e => e.1.lchip = lchip ∧ e.1.subType = type ∧ e.2.gport = gport ∧
    (if e.2.vlanOid ≠ Oid.null then (tb.vlanId e.2.vlanOid).getD 0 else e.2.outerVlanId) = vlan
  match fits.getLast? with
  | some e => if e.1 ≠ Oid.null then .ok e.1 else .error .itemNotFound
  | none => .error .itemNotFound

/-- `ctc_sai_mcast_get_member_output_id`: `destid` has 16 bits. -/
def getMemberOutputId (key : Oid) : Except Status Oid :=
  if key.type = ObjectType.l2mcGroupMember.bits then
    .ok (bridgePortIdOf key.lchip .port ((key.value.setWidth 16).setWidth 32))
  else if key.subType = RifType.vlan.bits then
    let vlan := createObjectId .vlan (key.lchip.setWidth 8) 0 0
      ((key.value.setWidth 16).setWidth 32)
    lookupRifOid tb key.lchip key.subType 0
      ((tb.vlanId vlan).getD ((key.value >>> 20).setWidth 16))
  else
    lookupRifOid tb key.lchip key.subType (((key.value &&& 0xFFFFF).setWidth 16).setWidth 32)
      ((key.value >>> 20).setWidth 16)

/-! ## Runs -/

/-- A member as its creation handed it out. -/
structure McastMember where
  oid : Oid
  group : Oid
  output : Oid

/-- The groups, and the members that were created and not removed. -/
structure McastState where
  db : McastDb
  live : List McastMember

/-- The members of a group. -/
def McastState.members (s : McastState) (g : Oid) : List McastMember :=
  s.live.filter fun m => m.group = g

/-- The calls. -/
inductive McastCall where
  | createL2mc (sdk : McastSdk) (lchip : Lchip) (attrs : List McastMemberAttr)
  | createIpmc (sdk : McastSdk) (lchip : Lchip) (attrs : List McastMemberAttr)
  | removeL2mc (sdk : McastSdk) (oid : Oid)
  | removeIpmc (oid : Oid)

/-- A create call that returned. -/
def McastState.created (s : McastState) (attrs : List McastMemberAttr)
    (r : Status × Option Oid × McastDb) : McastState :=
  match r.2.1, findAttribInList McastMemberAttr.groupId? attrs,
      findAttribInList McastMemberAttr.outputId? attrs with
  | some oid, some group, some output => ⟨r.2.2, s.live ++ [⟨oid, group, output⟩]⟩
  | _, _, _ => ⟨r.2.2, s.live⟩

/-- A remove call that returned. -/
def McastState.removed (s : McastState) (oid : Oid) (r : Status × McastDb) : McastState :=
  ⟨r.2, if r.1 = .success then s.live.eraseP fun m => m.oid = oid else s.live⟩

/-- One call. -/
def mcastStep (s : McastState) : McastCall → Option McastState
  | .createL2mc sdk lchip attrs =>
    (createL2mcGroupMember tb sdk lchip attrs s.db).map (s.created attrs)
  | .createIpmc sdk lchip attrs =>
    some (s.created attrs (createIpmcGroupMember tb sdk lchip attrs s.db))
  | .removeL2mc sdk oid => some (s.removed oid (removeL2mcGroupMember tb sdk oid s.db))
  | .removeIpmc oid => some (s.removed oid (removeIpmcGroupMember tb oid s.db))

/-- The id of a group is the one its creation made. -/
def GroupNamed (g : Oid) : Prop :=
  g = mcastGroupOid .l2mcGroup g.lchip g.value2 ∨ g = mcastGroupOid .ipmcGroup g.lchip g.value2

/-- Groups without members. -/
def McastStart (s : McastState) : Prop :=
  s.live = [] ∧ ∀ g grp, s.db g = some grp → grp.outputs = [] ∧ GroupNamed g

/-- Groups are of the call's kind, what is removed is a member, and the removal
of an L2MC member is not refused by the update of an entry. -/
def McastOk (s : McastState) : McastCall → Prop
  | .createL2mc _ _ attrs => ∀ g, findAttribInList McastMemberAttr.groupId? attrs = some g →
      g.type = ObjectType.l2mcGroup.bits
  | .createIpmc _ _ attrs => ∀ g, findAttribInList McastMemberAttr.groupId? attrs = some g →
      g.type = ObjectType.ipmcGroup.bits
  | .removeL2mc sdk oid =>
    (∃ m ∈ s.live, m.oid = oid ∧ m.group.type = ObjectType.l2mcGroup.bits) ∧
    ∀ e, sdk.l2mcEntry e oid false = .success
  | .removeIpmc oid => ∃ m ∈ s.live, m.oid = oid ∧ m.group.type = ObjectType.ipmcGroup.bits

/-- Ports have the ids that `ctc_sai_bridge_create_bridge_port` gives them. -/
def McastTables.PortsNamed : Prop :=
  ∀ o bp, tb.bridgePorts o = some bp → bp.portType = .port →
    ∃ c h, o = bridgePortIdOf c .port h ∧ bp.gport = h.setWidth 16

/-- The list fits the room of the caller or says what it needs, it has the ids
that were handed out, and these lead back to the group and the output. -/
structure NamedOnce (mem : Bool) (s : McastState) (g : Oid) (count : Nat) : Prop where
  list : ∃ r, getGroupMemberList tb mem s.db g count = some r ∧ r.2.written.length ≤ count ∧
    if count < (s.members g).length then
      r.1 = .bufferOverflow ∧ r.2.count = (s.members g).length
    else r.1 = .success ∧ r.2.count = (s.members g).length ∧
      r.2.written.Perm ((s.members g).map (·.oid))
  distinct : ((s.members g).map (·.oid)).Nodup
  read : ∀ m ∈ s.members g,
    getMemberGroupId m.oid = g ∧ getMemberOutputId tb m.oid = .ok m.output

/-! ## The invariant -/

/-- The id of a member leads to its group; that of an L2MC member has the port
of its output. -/
structure MemberNamed (m : McastMember) : Prop where
  group : getMemberGroupId m.oid = m.group
  port : m.group.type = ObjectType.l2mcGroup.bits → ∃ bp,
    inChip m.group.lchip m.output tb.bridgePorts = some bp ∧ bp.portType = .port ∧
      m.oid = l2mcMemberOid m.group.lchip m.group.value2 bp.gport

/-- A group has an output for each member, an L2MC group that of the member. -/
def OutputsOf (g : Oid) (outs : List Oid) (ms : List McastMember) : Prop :=
  outs.length = ms.length ∧ (g.type = ObjectType.l2mcGroup.bits → outs = ms.map (·.output))

/-- The members of the groups, in the order of their creation. -/
structure McastInv (s : McastState) : Prop where
  group : ∀ g grp, s.db g = some grp → GroupNamed g ∧ OutputsOf g grp.outputs (s.members g)
  live : ∀ m ∈ s.live, (s.db m.group).isSome ∧ MemberNamed tb m
  distinct : ∀ g, g.type = ObjectType.l2mcGroup.bits → ((s.members g).map (·.oid)).Nodup

variable {tb sdk} {s : McastState} {g oid : Oid}

theorem lchip_setWidth (c : Lchip) : (c.setWidth 8).setWidth 6 = c := by
  simp

theorem McastInv.start (h : McastStart s) : McastInv tb s := by
  obtain ⟨hlive, hgroups⟩ := h
  have hmem : ∀ g, s.members g = [] := fun g => by rw [McastState.members, hlive]; rfl
  refine ⟨fun g grp hg => ?_, fun m hm => ?_, fun g _ => ?_⟩
  · obtain ⟨hempty, hnamed⟩ := hgroups g grp hg
    exact ⟨hnamed, by rw [hempty, hmem]; exact ⟨rfl, fun _ => rfl⟩⟩
  · rw [hlive] at hm
    cases hm
  · rw [hmem]
    exact List.nodup_nil

/-- One group has other outputs and members. -/
theorem McastInv.change (h : McastInv tb s) {grp : McastGroup} (hg : s.db g = some grp)
    {outs : List Oid} {live ms : List McastMember}
    (hmembers : ∀ g', McastState.members ⟨s.db.setOutputs g grp outs, live⟩ g' =
      if g' = g then ms else s.members g')
    (houts : OutputsOf g outs ms) (hlive : ∀ m ∈ live, m ∈ s.live ∨ m.group = g ∧ MemberNamed tb m)
    (hdistinct : g.type = ObjectType.l2mcGroup.bits → (ms.map (·.oid)).Nodup) :
    McastInv tb ⟨s.db.setOutputs g grp outs, live⟩ := by
  refine ⟨fun g' grp' hg' => ?_, fun m hm => ?_, fun g' ht => ?_⟩
  · rw [hmembers]
    dsimp only at hg'
    rw [McastDb.setOutputs, Function.update_apply] at hg'
    split at hg'
    · next he =>
      cases hg'
      rw [he, if_pos rfl]
      exact ⟨(h.group g grp hg).1, houts⟩
    · next hne =>
      rw [if_neg hne]
      exact h.group g' grp' hg'
  · dsimp only
    rw [McastDb.setOutputs, Function.update_apply]
    obtain hm | ⟨rfl, hn⟩ := hlive m hm
    · obtain ⟨hsome, hn⟩ := h.live m hm
      refine ⟨?_, hn⟩
      split
      · rfl
      · exact hsome
    · exact ⟨by rw [if_pos rfl]; rfl, hn⟩
  · rw [hmembers]
    split
    · next he => exact hdistinct (he ▸ ht)
    · exact h.distinct g' ht

/-- Another member of the group has another id. -/
theorem McastInv.join (h : McastInv tb s) {grp : McastGroup} {out : Oid} (hg : s.db g = some grp)
    (hnamed : MemberNamed tb ⟨oid, g, out⟩)
    (hfresh : g.type = ObjectType.l2mcGroup.bits → ∀ m ∈ s.members g, m.oid ≠ oid) :
    McastInv tb ⟨s.db.setOutputs g grp (grp.outputs ++ [out]), s.live ++ [⟨oid, g, out⟩]⟩ := by
  obtain ⟨-, hlen, hout⟩ := h.group g grp hg
  have houts : OutputsOf g (grp.outputs ++ [out]) (s.members g ++ [⟨oid, g, out⟩]) :=
    ⟨by simp [hlen], fun ht => by rw [List.map_append, ← hout ht]; rfl⟩
  refine h.change hg (fun g' => ?_) houts (fun m hm => ?_) fun ht => ?_
  · rw [McastState.members, List.filter_append, McastState.members]
    by_cases he : g' = g
    · simp [he]
    · simp [he, Ne.symm he, McastState.members]
  · refine (List.mem_append.mp hm).imp_right fun hm => ?_
    cases List.mem_singleton.mp hm
    exact ⟨rfl, hnamed⟩
  · rw [List.map_append]
    refine List.Nodup.append (h.distinct g ht) (List.nodup_singleton _) ?_
    intro o ho ho'
    obtain ⟨m, hm, hmo⟩ := List.mem_map.mp ho
    cases List.mem_singleton.mp ho'
    exact hfresh ht m hm hmo

/-- The element removed is of one part. -/
theorem filter_eraseP {α : Type} {p q : α → Bool} {b : Bool} {l : List α}
    (h : ∀ a ∈ l, p a = true → q a = b) :
    (l.eraseP p).filter q = if b then (l.filter q).eraseP p else l.filter q := by
  induction l with
  | nil => cases b <;> rfl
  | cons a rest ih =>
    have ih := ih fun b hb => h b (List.mem_cons_of_mem _ hb)
    have ha := h a List.mem_cons_self
    cases hp : p a with
    | true => cases b <;> simp [hp, ha hp]
    | false => cases b <;> cases hq : q a <;> simp_all

/-- The member leaves the group it was created in. -/
theorem McastInv.leave (h : McastInv tb s) {grp : McastGroup} (hg : s.db g = some grp)
    (hone : ∀ m ∈ s.live, m.oid = oid → m.group = g) {outs : List Oid}
    (houts : OutputsOf g outs ((s.members g).eraseP fun m => m.oid = oid)) :
    McastInv tb (s.removed oid (.success, s.db.setOutputs g grp outs)) := by
  rw [McastState.removed, if_pos rfl]
  refine h.change hg (fun g' => ?_) houts (fun m hm => .inl (List.mem_of_mem_eraseP hm)) fun ht =>
    (h.distinct g ht).sublist (List.eraseP_sublist.map _)
  have hpart : (s.live.eraseP fun m => m.oid = oid).filter (fun m => m.group = g') = _ :=
    filter_eraseP (b := decide (g = g')) fun m hm ho => by rw [hone m hm (by simpa using ho)]
  refine hpart.trans ?_
  by_cases he : g' = g
  · rw [he, if_pos rfl, if_pos (by simp)]
    rfl
  · rw [if_neg he, if_neg (by simpa using Ne.symm he)]
    rfl

/-! ## Calls -/

variable (tb) in
/-- A call made no member, or one of a group with a name that is new there. -/
inductive Creates (s : McastState) (attrs : List McastMemberAttr) :
    Status × Option Oid × McastDb → Prop
  | refused (status : Status) : Creates s attrs (status, none, s.db)
  | made {oid g out : Oid} {grp : McastGroup} :
      findAttribInList McastMemberAttr.groupId? attrs = some g →
      findAttribInList McastMemberAttr.outputId? attrs = some out → s.db g = some grp →
      MemberNamed tb ⟨oid, g, out⟩ →
      (g.type = ObjectType.l2mcGroup.bits → ∀ m ∈ s.members g, m.oid ≠ oid) →
      Creates s attrs (.success, some oid, s.db.setOutputs g grp (grp.outputs ++ [out]))

theorem McastInv.created (h : McastInv tb s) {attrs : List McastMemberAttr}
    {r : Status × Option Oid × McastDb} (hr : Creates tb s attrs r) :
    McastInv tb (s.created attrs r) := by
  cases hr with
  | refused status => exact h
  | made hgroup hout hg hnamed hfresh =>
    rw [McastState.created, hgroup, hout]
    exact h.join hg hnamed hfresh

/-- An object of the tables of the chip. -/
theorem inChip_eq_some {α : Type} {c : Lchip} {o : Oid} {t : Oid → Option α} {a : α} :
    inChip c o t = some a ↔ o.lchip = c ∧ t o = some a := by
  rw [inChip]
  split
  · next he => simp [he]
  · next hne => simp [hne]

/-- No output has the port. -/
theorem l2mcTaken_false {c : Lchip} {gport : BitVec 16} {outs : List Oid}
    (h : l2mcTaken tb c gport outs = some false) :
    ∀ o ∈ outs, ∀ bp, inChip c o tb.bridgePorts = some bp → bp.gport ≠ gport := by
  induction outs with
  | nil => nofun
  | cons o rest ih =>
    rw [l2mcTaken] at h
    split at h
    · cases h
    next bp hbp =>
    split at h
    · cases h
    next hne =>
    intro o' ho' bp' hbp'
    obtain rfl | ho' := List.mem_cons.mp ho'
    · cases hbp.symm.trans hbp'
      exact hne
    · exact ih h o' ho' bp' hbp'

theorem l2mcMemberOid_inj {c : Lchip} {i k k' : BitVec 16} :
    l2mcMemberOid c i k = l2mcMemberOid c i k' ↔ k = k' := by
  constructor
  · intro h
    have hv : k.setWidth 32 = k'.setWidth 32 := congrArg Oid.value h
    have hw := congrArg (BitVec.setWidth 16) hv
    simpa using hw
  · rintro rfl
    rfl

theorem getMemberGroupId_l2mc {k : BitVec 16} (hg : GroupNamed g)
    (ht : g.type = ObjectType.l2mcGroup.bits) :
    getMemberGroupId (l2mcMemberOid g.lchip g.value2 k) = g := by
  obtain he | he := hg
  · simpa [getMemberGroupId, l2mcMemberOid, createObjectId] using he.symm
  · exact absurd ((congrArg Oid.type he).symm.trans ht) (ObjectType.bits_inj.not.mpr (by decide))

theorem getMemberGroupId_ipmc {info : RifInfo} (hg : GroupNamed g)
    (ht : g.type = ObjectType.ipmcGroup.bits) :
    getMemberGroupId (ipmcMemberOid g.lchip g.value2 info) = g := by
  obtain he | he := hg
  · exact absurd ((congrArg Oid.type he).symm.trans ht) (ObjectType.bits_inj.not.mpr (by decide))
  · have hne : ObjectType.ipmcGroupMember.bits ≠ ObjectType.l2mcGroupMember.bits := by decide
    simpa [getMemberGroupId, ipmcMemberOid, createObjectId, hne] using he.symm

theorem mem_members {m : McastMember} : m ∈ s.members g ↔ m ∈ s.live ∧ m.group = g := by
  simp [McastState.members]

/-- The members of an L2MC group. -/
theorem McastInv.l2mcMembers (h : McastInv tb s) (htype : g.type = ObjectType.l2mcGroup.bits) :
    ∀ m ∈ s.members g, ∃ bp, inChip g.lchip m.output tb.bridgePorts = some bp ∧
      bp.portType = .port ∧ m.oid = l2mcMemberOid g.lchip g.value2 bp.gport := by
  intro m hm
  obtain ⟨hlive, rfl⟩ := mem_members.mp hm
  exact (h.live m hlive).2.port htype

theorem createL2mc_creates (h : McastInv tb s) {c : Lchip} {attrs : List McastMemberAttr}
    {r : Status × Option Oid × McastDb} (hok : McastOk s (.createL2mc sdk c attrs))
    (hr : createL2mcGroupMember tb sdk c attrs s.db = some r) : Creates tb s attrs r := by
  rw [createL2mcGroupMember] at hr
  split at hr
  · cases hr
    exact .refused _
  · cases hr
    exact .refused _
  next g out hgroup hout =>
  split at hr
  · cases hr
    exact .refused _
  split at hr
  · cases hr
    exact .refused _
  next bp hbp =>
  obtain ⟨hbp, hport⟩ := Option.filter_eq_some_iff.mp hbp
  split at hr
  · cases hr
    exact .refused _
  next grp hgrp =>
  obtain ⟨rfl, hdb⟩ := inChip_eq_some.mp hgrp
  split at hr
  · cases hr
  · cases hr
    exact .refused _
  next htaken =>
  split at hr
  · cases hr
    exact .refused _
  dsimp only at hr
  split at hr
  · cases hr
    have htype := hok g hgroup
    obtain ⟨hn, -, houts⟩ := h.group g grp hdb
    refine .made hgroup hout hdb ⟨getMemberGroupId_l2mc hn htype, fun _ =>
      ⟨bp, hbp, by simpa using hport, rfl⟩⟩ fun _ m hm ho => ?_
    obtain ⟨bp', hbp', -, hoid⟩ := h.l2mcMembers htype m hm
    have hin : m.output ∈ grp.outputs := by
      rw [houts htype]
      exact List.mem_map_of_mem hm
    exact l2mcTaken_false htaken _ hin bp' hbp' (l2mcMemberOid_inj.mp (hoid.symm.trans ho))
  · cases hr
    exact .refused _

theorem createIpmc_creates (h : McastInv tb s) {c : Lchip} {attrs : List McastMemberAttr}
    (hok : McastOk s (.createIpmc sdk c attrs)) :
    Creates tb s attrs (createIpmcGroupMember tb sdk c attrs s.db) := by
  rw [createIpmcGroupMember]
  split
  · exact .refused _
  · exact .refused _
  next g out hgroup hout =>
  split
  · exact .refused _
  split
  · exact .refused _
  next grp hgrp =>
  obtain ⟨rfl, hdb⟩ := inChip_eq_some.mp hgrp
  split
  · exact .refused _
  split
  · exact .refused _
  have htype := hok g hgroup
  have hne : g.type ≠ ObjectType.l2mcGroup.bits := by rw [htype]; decide
  split
  · exact .made hgroup hout hdb ⟨getMemberGroupId_ipmc (h.group g grp hdb).1 htype,
      fun ht => absurd ht hne⟩ fun ht => absurd ht hne
  · exact .refused _

/-- The removal of a member finds its output. -/
theorem l2mcWithout_members {c : Lchip} {i k : BitVec 16} {ms : List McastMember}
    (hms : ∀ m ∈ ms, ∃ bp, inChip c m.output tb.bridgePorts = some bp ∧ bp.portType = .port ∧
      m.oid = l2mcMemberOid c i bp.gport)
    (hin : ∃ m ∈ ms, m.oid = l2mcMemberOid c i k) :
    l2mcWithout tb c (k.setWidth 32) (ms.map (·.output)) =
      .ok (some ((ms.eraseP fun m => m.oid = l2mcMemberOid c i k).map (·.output))) := by
  induction ms with
  | nil => simp at hin
  | cons m rest ih =>
    obtain ⟨bp, hbp, hport, hoid⟩ := hms m List.mem_cons_self
    have hsame : bp.gport.setWidth 32 = k.setWidth 32 ↔ m.oid = l2mcMemberOid c i k := by
      rw [hoid, l2mcMemberOid_inj]
      constructor
      · intro h
        simpa using congrArg (BitVec.setWidth 16) h
      · rintro rfl
        rfl
    rw [List.map_cons, l2mcWithout, hbp, Option.filter_some, if_pos (by simpa using hport)]
    dsimp only
    by_cases he : m.oid = l2mcMemberOid c i k
    · rw [if_pos (hsame.mpr he), List.eraseP_cons_of_pos (by simpa using he)]
    have hrest : ∃ m ∈ rest, m.oid = l2mcMemberOid c i k := by simpa [he] using hin
    rw [if_neg (mt hsame.mp he), ih (fun m' hm' => hms m' (List.mem_cons_of_mem _ hm')) hrest,
      List.eraseP_cons_of_neg (by simpa using he)]
    rfl

theorem ipmcValue_error {o : Oid} {old : RifInfo} {status : Status}
    (h : ipmcValue tb o old = .error status) : status ≠ .success := by
  rw [ipmcValue] at h
  split at h
  · cases hptr : getRifVlanPtr tb o with
    | ok ptr => rw [hptr] at h; cases h
    | error st =>
      rw [hptr] at h
      cases h
      rw [getRifVlanPtr] at hptr
      split at hptr
      · cases hptr; nofun
      split at hptr
      · cases hptr; nofun
      · split at hptr
        · cases hptr
        · split at hptr <;> cases hptr
  · split at h <;> cases h

/-- The removal of an IPMC member takes one output away. -/
theorem ipmcWithout_cases (tb : McastTables) (oid : Oid) (old : RifInfo) (outs : List Oid) :
    match ipmcWithout tb oid old outs with
    | .error status => status ≠ .success
    | .ok none => True
    | .ok (some outs') => outs'.length + 1 = outs.length := by
  induction outs generalizing old with
  | nil => trivial
  | cons o rest ih =>
    rw [ipmcWithout]
    cases hval : ipmcValue tb o old with
    | error status => exact ipmcValue_error hval
    | ok info =>
      dsimp only
      by_cases hsame : info.type = oid.subType.setWidth 8 ∧ info.value = oid.value
      · rw [if_pos hsame]
        rfl
      rw [if_neg hsame]
      specialize ih info
      cases hrest : ipmcWithout tb oid info rest with
      | error status => rw [hrest] at ih; exact ih
      | ok found =>
        rw [hrest] at ih
        cases found with
        | none => trivial
        | some outs' => exact congrArg (· + 1) ih

/-- The group of a live member, as its removal names it. -/
theorem McastInv.groupOf (h : McastInv tb s) {m : McastMember} (hm : m ∈ s.live) {t : ObjectType}
    (ht : m.group.type = t.bits) :
    mcastGroupOid t m.oid.lchip m.oid.value2 = m.group ∧ ∃ grp, s.db m.group = some grp ∧
      OutputsOf m.group grp.outputs (s.members m.group) := by
  obtain ⟨hsome, hn⟩ := h.live m hm
  obtain ⟨grp, hgrp⟩ := Option.isSome_iff_exists.mp hsome
  refine ⟨?_, grp, hgrp, (h.group _ grp hgrp).2⟩
  have hgroup := hn.group
  rw [getMemberGroupId] at hgroup
  have htype := ObjectType.bits_inj.mp (ht.symm.trans (congrArg Oid.type hgroup).symm)
  rw [htype, hgroup]

theorem McastInv.ofOid (h : McastInv tb s) {m : McastMember} (hm : m ∈ s.live) :
    ∀ m' ∈ s.live, m'.oid = m.oid → m'.group = m.group := by
  intro m' hm' ho
  rw [← (h.live m' hm').2.group, ← (h.live m hm).2.group, ho]

theorem removeL2mc_keeps (h : McastInv tb s) (hok : McastOk s (.removeL2mc sdk oid)) :
    McastInv tb (s.removed oid (removeL2mcGroupMember tb sdk oid s.db)) := by
  obtain ⟨⟨m, hm, rfl, htype⟩, hsdk⟩ := hok
  obtain ⟨hgroup, grp, hgrp, -, houts⟩ := h.groupOf hm htype
  have hnamed := h.l2mcMembers htype
  have hin : m ∈ s.members m.group := mem_members.mpr ⟨hm, rfl⟩
  obtain ⟨bp, _, _, hoid⟩ := hnamed m hin
  have hentries : ∀ es, eachEntry (sdk.l2mcEntry · m.oid false) es = .success := by
    intro es
    induction es with
    | nil => rfl
    | cons e rest ih => rw [eachEntry, hsdk e]; exact ih
  have hlchip : m.oid.lchip = m.group.lchip := by
    rw [hoid]
    exact lchip_setWidth _
  have hvalue : m.oid.value = bp.gport.setWidth 32 := congrArg Oid.value hoid
  have hfind := l2mcWithout_members hnamed ⟨m, hin, hoid⟩
  rw [removeL2mcGroupMember, hgroup, hgrp]
  dsimp only
  rw [houts htype, hlchip, hvalue, hfind]
  dsimp only
  rw [hentries, ← hoid]
  exact h.leave hgrp (h.ofOid hm) ⟨List.length_map _, fun _ => rfl⟩

theorem removeIpmc_keeps (h : McastInv tb s) (hok : McastOk s (.removeIpmc oid)) :
    McastInv tb (s.removed oid (removeIpmcGroupMember tb oid s.db)) := by
  obtain ⟨m, hm, rfl, htype⟩ := hok
  obtain ⟨hgroup, grp, hgrp, hlen, -⟩ := h.groupOf hm htype
  have hkeep : ∀ {status}, status ≠ .success → McastInv tb (s.removed m.oid (status, s.db)) := by
    intro status hne
    rw [McastState.removed, if_neg hne]
    exact h
  have hcases := ipmcWithout_cases tb m.oid .zero grp.outputs
  rw [removeIpmcGroupMember, hgroup, hgrp]
  dsimp only
  split
  · next herr =>
    rw [herr] at hcases
    exact hkeep hcases
  · exact hkeep nofun
  next outs houts =>
  rw [houts] at hcases
  refine h.leave hgrp (h.ofOid hm) ⟨?_, fun ht => ?_⟩
  · rw [List.length_eraseP_of_mem (mem_members.mpr ⟨hm, rfl⟩) (by simp)]
    omega
  · rw [htype] at ht
    exact absurd ht (by decide)

theorem mcastInv_of_run (hs : Reachable McastStart McastOk (mcastStep tb) s) : McastInv tb s := by
  refine hs.inv (fun _ h => .start h) fun s call s' h hok hst => ?_
  cases call with
  | createL2mc sdk c attrs =>
    obtain ⟨r, hr, rfl⟩ := Option.map_eq_some_iff.mp hst
    exact h.created (createL2mc_creates h hok hr)
  | createIpmc sdk c attrs =>
    cases hst
    exact h.created (createIpmc_creates h hok)
  | removeL2mc sdk oid =>
    cases hst
    exact removeL2mc_keeps h hok
  | removeIpmc oid =>
    cases hst
    exact removeIpmc_keeps h hok

/-! ## The list -/

/-- The loop stays in the room, and every id in the list of a group is that of
an L2MC member. -/
theorem listMembers_l2mc_ok {c : Lchip} {i : BitVec 16} {count : Nat} {info : RifInfo}
    {found outs l : List Oid} {status : Status}
    (h : listMembers (l2mcListName tb c i) count info found outs = some (.ok (status, l)))
    (hroom : found.length ≤ count)
    (hfound : ∀ o ∈ found, o.type = ObjectType.l2mcGroupMember.bits) :
    l.length ≤ count ∧ ∀ o ∈ l, o.type = ObjectType.l2mcGroupMember.bits := by
  induction outs generalizing info found with
  | nil =>
    cases h
    exact ⟨hroom, hfound⟩
  | cons o rest ih =>
    rw [listMembers] at h
    split at h
    · next hlt =>
      split at h
      · cases h
      · cases h
      next info' m hname =>
      refine ih h (by rw [List.length_append]; exact hlt) fun o' ho' => ?_
      obtain ho' | ho' := List.mem_append.mp ho'
      · exact hfound o' ho'
      obtain ⟨gport, _, he⟩ := Option.map_eq_some_iff.mp hname
      cases List.mem_singleton.mp ho'
      cases he
      rfl
    · cases h
      exact ⟨hroom, hfound⟩

/-- With room for all, the list of an L2MC group has the ids of its members. -/
theorem listMembers_l2mc {c : Lchip} {i : BitVec 16} {count : Nat} {info : RifInfo}
    {found : List Oid} {ms : List McastMember}
    (hms : ∀ m ∈ ms, ∃ bp, inChip c m.output tb.bridgePorts = some bp ∧
      m.oid = l2mcMemberOid c i bp.gport)
    (hroom : found.length + ms.length ≤ count) :
    listMembers (l2mcListName tb c i) count info found (ms.map (·.output)) =
      some (.ok (.success, found ++ ms.map (·.oid))) := by
  induction ms generalizing found with
  | nil => simp [listMembers]
  | cons m rest ih =>
    obtain ⟨bp, hbp, hoid⟩ := hms m List.mem_cons_self
    have hname : l2mcListName tb c i info m.output = some (.ok (info, m.oid)) := by
      simp [l2mcListName, hbp, hoid]
    have hlen : found.length + (rest.length + 1) ≤ count := hroom
    rw [List.map_cons, listMembers, if_pos (by omega), hname]
    dsimp only
    rw [ih (fun m' hm' => hms m' (List.mem_cons_of_mem _ hm')) (by simp; omega)]
    simp

/-- The port of an output fits the 16 bits of `destid`. -/
theorem getMemberOutputId_l2mc {c : Lchip} {i : BitVec 16} {h : BitVec 32} :
    getMemberOutputId tb (l2mcMemberOid c i (h.setWidth 16)) = .ok (bridgePortIdOf c .port h) ↔
      h.toNat < 2 ^ 16 := by
  have hcut : (((h.setWidth 16).setWidth 32).setWidth 16).setWidth 32 = h ↔ h.toNat < 2 ^ 16 := by
    rw [← BitVec.toNat_inj]
    simp only [BitVec.toNat_setWidth]
    omega
  have htype : (l2mcMemberOid c i (h.setWidth 16)).type = ObjectType.l2mcGroupMember.bits := rfl
  rw [getMemberOutputId, if_pos htype, ← hcut]
  constructor
  · intro he
    exact congrArg Oid.value (Except.ok.inj he)
  · intro he
    have hlchip : (l2mcMemberOid c i (h.setWidth 16)).lchip = c := lchip_setWidth c
    rw [hlchip]
    exact congrArg (fun v => Except.ok (bridgePortIdOf c .port v)) he

/-! ## The lists name each member once -/

/-- The list of a group is made by the branch of the L2MC members. -/
theorem McastInv.getGroupMemberList_eq (h : McastInv tb s) {grp : McastGroup}
    (hg : s.db g = some grp) {count : Nat} :
    getGroupMemberList tb true s.db g count =
      match listMembers (l2mcListName tb g.lchip g.value2) count .zero [] grp.outputs with
      | none => none
      | some (.error status) => some (status, ⟨count, []⟩)
      | some (.ok (status, found)) =>
        some (status, (fillObjectList (some found) ⟨count, []⟩).2) := by
  have hgn := (h.group g grp hg).1
  have hkey : g.type ≠ ObjectType.ipmcGroupMember.bits := by
    obtain he | he := hgn <;> rw [he] <;> exact ObjectType.bits_inj.not.mpr (by decide)
  rw [getGroupMemberList, hg]
  dsimp only
  rw [if_neg hkey]
  rfl

theorem fillObjectList_room {l : List Oid} {count : Nat} (h : l.length ≤ count) :
    (fillObjectList (some l) ⟨count, []⟩).2 = ⟨l.length, l⟩ := by
  rw [fillObjectList, if_neg (Nat.not_lt.mpr h)]

/-- The ids lead back when the ports have 16 bits. -/
theorem McastInv.read_iff (h : McastInv tb s) (htb : tb.PortsNamed)
    (htype : g.type = ObjectType.l2mcGroup.bits) {m : McastMember} (hm : m ∈ s.members g) :
    getMemberOutputId tb m.oid = .ok m.output ↔ m.output.value.toNat < 2 ^ 16 := by
  obtain ⟨bp, hbp, hport, hoid⟩ := h.l2mcMembers htype m hm
  obtain ⟨hlchip, hbp⟩ := inChip_eq_some.mp hbp
  obtain ⟨c, port, hout, hgport⟩ := htb _ bp hbp hport
  have hc : c = g.lchip := by
    rw [← hlchip, hout]
    exact (lchip_setWidth c).symm
  rw [hoid, hout, hgport, hc]
  exact getMemberOutputId_l2mc

/-- The list is right for a group without members. -/
theorem McastInv.namedOnce_empty (h : McastInv tb s) {grp : McastGroup} (hg : s.db g = some grp)
    (hempty : s.members g = []) {count : Nat} : NamedOnce tb true s g count := by
  refine ⟨⟨(.success, ⟨0, []⟩), ?_, Nat.zero_le _, ?_⟩, ?_, ?_⟩
  · have hlen := (h.group g grp hg).2.1
    rw [hempty] at hlen
    rw [h.getGroupMemberList_eq hg, List.eq_nil_of_length_eq_zero hlen]
    rfl
  · rw [hempty, List.length_nil, if_neg (Nat.not_lt_zero _)]
    exact ⟨rfl, rfl, .refl _⟩
  · rw [hempty]
    exact List.nodup_nil
  · rw [hempty]
    nofun

theorem McastInv.namedOnce_l2mc (h : McastInv tb s) (htb : tb.PortsNamed) {grp : McastGroup}
    (hg : s.db g = some grp) (htype : g.type = ObjectType.l2mcGroup.bits) {count : Nat}
    (hroom : (s.members g).length ≤ count)
    (hports : ∀ m ∈ s.members g, m.output.value.toNat < 2 ^ 16) :
    NamedOnce tb true s g count := by
  have hnames : ∀ m ∈ s.members g, ∃ bp, inChip g.lchip m.output tb.bridgePorts = some bp ∧
      m.oid = l2mcMemberOid g.lchip g.value2 bp.gport := by
    intro m hm
    obtain ⟨bp, hbp, _, hoid⟩ := h.l2mcMembers htype m hm
    exact ⟨bp, hbp, hoid⟩
  have hlist : getGroupMemberList tb true s.db g count =
      some (.success, ⟨(s.members g).length, (s.members g).map (·.oid)⟩) := by
    rw [h.getGroupMemberList_eq hg, (h.group g grp hg).2.2 htype,
      listMembers_l2mc hnames (by simpa using hroom)]
    dsimp only
    rw [List.nil_append, fillObjectList_room (by simpa using hroom), List.length_map]
  refine ⟨⟨_, hlist, by simpa using hroom, ?_⟩, h.distinct g htype, fun m hm => ⟨?_, ?_⟩⟩
  · rw [if_neg (Nat.not_lt.mpr hroom)]
    exact ⟨rfl, rfl, .refl _⟩
  · obtain ⟨hlive, hgroup⟩ := mem_members.mp hm
    exact (h.live m hlive).2.group.trans hgroup
  · exact (h.read_iff htb htype hm).mpr (hports m hm)

/-- A list that is right has room, and its ids are those of L2MC members. -/
theorem McastInv.room_of_namedOnce (h : McastInv tb s) {grp : McastGroup}
    (hg : s.db g = some grp) {count : Nat} (hn : NamedOnce tb true s g count) :
    (s.members g).length ≤ count ∧
      ∀ m ∈ s.members g, m.oid.type = ObjectType.l2mcGroupMember.bits := by
  obtain ⟨r, hr, -, hlist⟩ := hn.list
  rw [h.getGroupMemberList_eq hg] at hr
  split at hr
  · cases hr
  · cases hr
    split at hlist
    · next hlt => exact absurd hlist.2 (by dsimp only; omega)
    · have hnil := List.map_eq_nil_iff.mp hlist.2.2.symm.eq_nil
      rw [hnil]
      exact ⟨Nat.zero_le _, nofun⟩
  next status l hl =>
  cases hr
  obtain ⟨hroom, htypes⟩ := listMembers_l2mc_ok hl (Nat.zero_le _) nofun
  rw [fillObjectList_room hroom] at hlist
  split at hlist
  · next hlt =>
    have hcount : l.length = (s.members g).length := hlist.2
    omega
  · next hge =>
    refine ⟨Nat.not_lt.mp hge, fun m hm => ?_⟩
    exact htypes _ (hlist.2.2.mem_iff.mpr (List.mem_map_of_mem hm))

/-- After every run the list is right, and the ids lead back, exactly for a
group without members and for an L2MC group whose list fits the room of the
caller and whose ports have 16 bits. -/
theorem namedOnce_iff (htb : tb.PortsNamed)
    (hs : Reachable McastStart McastOk (mcastStep tb) s) {grp : McastGroup}
    (hg : s.db g = some grp) {mem : Bool} {count : Nat} :
    NamedOnce tb mem s g count ↔ mem = true ∧ (s.members g = [] ∨
      g.type = ObjectType.l2mcGroup.bits ∧ (s.members g).length ≤ count ∧
        ∀ m ∈ s.members g, m.output.value.toNat < 2 ^ 16) := by
  have h := mcastInv_of_run hs
  constructor
  · intro hn
    cases mem with
    | false =>
      obtain ⟨r, hr, -, hlist⟩ := hn.list
      rw [getGroupMemberList, hg] at hr
      cases hr
      split at hlist
      · cases hlist.1
      · cases hlist.1
    | true =>
      obtain ⟨hroom, htypes⟩ := h.room_of_namedOnce hg hn
      refine ⟨rfl, (s.members g).eq_nil_or_concat.imp_right fun ⟨_, m, hms⟩ => ?_⟩
      have hm : m ∈ s.members g := by simp [hms]
      have hgroup : getMemberGroupId m.oid = g := (hn.read m hm).1
      have htype : g.type = ObjectType.l2mcGroup.bits := by
        rw [← hgroup, getMemberGroupId, if_pos (htypes m hm)]
        rfl
      exact ⟨htype, hroom, fun m hm => (h.read_iff htb htype hm).mp (hn.read m hm).2⟩
  · rintro ⟨rfl, hempty | ⟨htype, hroom, hports⟩⟩
    · exact h.namedOnce_empty hg hempty
    · exact h.namedOnce_l2mc htb hg htype hroom hports

/-! ## Two groups -/

/-- Bridge ports of ports 1 and 2, and a router interface on the first. -/
def McastTables.twoPorts : McastTables where
  bridgePorts o :=
    if o = bridgePortIdOf 0 .port 1 then some { BridgePort.zero with gport := 1 }
    else if o = bridgePortIdOf 0 .port 2 then some { BridgePort.zero with gport := 2 } else none
  rifs := [(createObjectId .routerInterface 0 0 0 1, { Rif.built with gport := 1 })]
  bridgeId _ := 0
  vlanId _ := none
  recordGport _ := 0

/-- A group without outputs. -/
def McastState.oneGroup (type : ObjectType) : McastState :=
  ⟨Function.update (fun _ => none) (mcastGroupOid type 0 1) (some ⟨[], []⟩), []⟩

/-- An SDK that refuses nothing. -/
def McastSdk.ok : McastSdk := ⟨true, fun _ _ _ => .success, fun _ _ _ => .success⟩

theorem twoPorts_named : McastTables.twoPorts.PortsNamed := by
  intro o bp hbp _
  simp only [McastTables.twoPorts] at hbp
  split at hbp
  · next he =>
    cases hbp
    exact ⟨0, 1, he, rfl⟩
  split at hbp
  · next he =>
    cases hbp
    exact ⟨0, 2, he, rfl⟩
  · cases hbp

theorem oneGroup_start {type : ObjectType} (h : type = .l2mcGroup ∨ type = .ipmcGroup) :
    McastStart (.oneGroup type) := by
  refine ⟨rfl, fun g grp hg => ?_⟩
  simp only [McastState.oneGroup, Function.update_apply] at hg
  split at hg
  · next he =>
    cases hg
    refine ⟨rfl, ?_⟩
    obtain rfl | rfl := h
    · exact .inl (by rw [he]; rfl)
    · exact .inr (by rw [he]; rfl)
  · cases hg

/-- The two ports are the members of an L2MC group. -/
theorem namedOnce_l2mc_port : ∃ s, (s.members (mcastGroupOid .l2mcGroup 0 1)).length = 2 ∧
    NamedOnce .twoPorts true s (mcastGroupOid .l2mcGroup 0 1) 2 := by
  have r₀ : Reachable McastStart McastOk (mcastStep .twoPorts) (.oneGroup .l2mcGroup) :=
    .start (oneGroup_start (.inl rfl))
  have r₁ := r₀.next (.createL2mc .ok 0
    [.groupId (mcastGroupOid .l2mcGroup 0 1), .outputId (bridgePortIdOf 0 .port 1)])
    (by rintro g ⟨⟩; rfl) rfl
  have r₂ := r₁.next (.createL2mc .ok 0
    [.groupId (mcastGroupOid .l2mcGroup 0 1), .outputId (bridgePortIdOf 0 .port 2)])
    (by rintro g ⟨⟩; rfl) rfl
  exact ⟨_, by decide, (namedOnce_iff twoPorts_named r₂ rfl).mpr
    ⟨rfl, .inr ⟨rfl, by decide, by decide⟩⟩⟩

/-- The member of an IPMC group is listed as one of an L2MC group. -/
theorem namedOnce_not_ipmc : ¬ ∀ (tb : McastTables) (s : McastState) (g : Oid) (grp : McastGroup)
    (count : Nat), tb.PortsNamed → Reachable McastStart McastOk (mcastStep tb) s →
      s.db g = some grp → NamedOnce tb true s g count := by
  intro h
  have r₀ : Reachable McastStart McastOk (mcastStep .twoPorts) (.oneGroup .ipmcGroup) :=
    .start (oneGroup_start (.inr rfl))
  have r₁ := r₀.next (.createIpmc .ok 0
    [.groupId (mcastGroupOid .ipmcGroup 0 1), .outputId (createObjectId .routerInterface 0 0 0 1)])
    (by rintro g ⟨⟩; rfl) rfl
  obtain ⟨r, hr, -, hlist⟩ := (h _ _ (mcastGroupOid .ipmcGroup 0 1) _ 1 twoPorts_named r₁ rfl).list
  cases hr
  exact absurd hlist (by decide)

end CtcSai
