/-
# `NextHopGroup` — ctc_sai_next_hop_group.c

An ECMP group keeps its members in hardware, a PROTECTION group in two slots
of its own record; a member object only points at its group, and carries its
role and its next-hop id in its object id.  What the SDK does for groups
depends on what it holds, so here it is a machine with a state, kept in the
database beside the records.  An operation returns `none` where the C code
reads a record of another type.
-/
import CtcSai.Bulk
import CtcSai.NextHop

namespace CtcSai

open IdPool KeyedTable

/-! ## Data -/

/-- `sai_next_hop_group_type_t`. -/
inductive NextHopGroupType where
  | ecmp | protection
deriving DecidableEq, Repr

/-- The sub-type bits that hold a group type. -/
def NextHopGroupType.bits (t : NextHopGroupType) : BitVec 3 := BitVec.ofNat 3 t.ctorIdx

/-- `sai_next_hop_group_member_configured_role_t`. -/
inductive MemberRole where
  | primary | standby
deriving DecidableEq, Repr

/-- `ctc_sai_next_hop_grp_t`. -/
structure NextHopGrp where
  wNhOid : Oid
  pNhOid : Oid
  counterOid : Oid
deriving DecidableEq, Repr

/-- `ctc_sai_next_hop_grp_member_t`. -/
structure NextHopGrpMember where
  nhGrpOid : Oid
deriving DecidableEq, Repr

/-- The group attributes that creation reads. -/
inductive GroupAttr where
  | type (t : NextHopGroupType)
  | counterId (oid : Oid)
deriving DecidableEq, Repr

def GroupAttr.type? : GroupAttr → Option NextHopGroupType
  | type t => some t
  | _ => none

def GroupAttr.counterId? : GroupAttr → Option Oid
  | counterId o => some o
  | _ => none

/-- The member attributes that creation reads. -/
inductive MemberAttr where
  | nextHopGroupId (oid : Oid)
  | nextHopId (oid : Oid)
  | configuredRole (role : MemberRole)
deriving DecidableEq, Repr

def MemberAttr.nextHopGroupId? : MemberAttr → Option Oid
  | nextHopGroupId o => some o
  | _ => none

def MemberAttr.nextHopId? : MemberAttr → Option Oid
  | nextHopId o => some o
  | _ => none

def MemberAttr.configuredRole? : MemberAttr → Option MemberRole
  | configuredRole r => some r
  | _ => none

/-! ## The SDK of groups -/

/-- `ctc_aps_bridge_group_t`, the fields the adapter fills. -/
structure ApsBridgeGroup where
  workingGport : BitVec 32
  protectionGport : BitVec 32
  wL3ifId : BitVec 16
  pL3ifId : BitVec 16
deriving DecidableEq, Repr

/-- The calls that change what the SDK holds for groups. -/
inductive GroupCall where
  | nhAddEcmp (nhId member : Nat)
  | nhUpdateEcmpAdd (nhId member : Nat)
  | nhUpdateEcmpRemove (nhId member : Nat)
  | nhRemoveEcmp (nhId : Nat)
  | apsCreate (aps : Nat) (param : ApsBridgeGroup)
  | apsDestroy (aps : Nat)
  | nhAddIpuc (nhId aps arpId pArpId : Nat)
  | nhAddMpls (nhId aps tunnelId pTunnelId : Nat)
  | nhRemoveIpuc (nhId : Nat)
deriving DecidableEq, Repr

/-- `ctc_nh_info_t`, the fields the adapter reads. -/
structure NhInfo where
  gport : BitVec 32
  isEcmp : Bool
  ecmpCnt : Nat
deriving DecidableEq, Repr

/-- The SDK as a machine over its state `σ`. -/
structure GroupSdk (σ : Type) where
  call : GroupCall → σ → CtcE × σ
  /-- `ctcs_nh_get_nh_info`. -/
  nhInfo : σ → Nat → Except CtcE NhInfo
  /-- `CTC_NH_RESERVED_NHID_FOR_DROP`. -/
  dropNhId : Nat
  /-- The code that two statuses and a code read as once they are or-ed. -/
  orCode : Status → Status → CtcE → CtcE
  orCode_success : ∀ e, orCode .success .success e = e
  orCode_none : ∀ {s t e}, orCode s t e = .none → s = .success ∧ t = .success ∧ e = .none

variable {ch : Chip} {σ : Type}

/-- The database of one chip, as far as groups reach, and what the SDK holds
for them. -/
structure GroupDb (ch : Chip) (σ : Type) where
  hop : NextHopDb ch
  groups : Table Oid NextHopGrp
  members : Table Oid NextHopGrpMember
  nexthopMember : Pool ch.nexthopMember
  aps : Pool ch.aps
  hw : σ

namespace GroupDb

variable (db : GroupDb ch σ)

/-- One SDK call. -/
def run (m : GroupSdk σ) (c : GroupCall) : CtcE × GroupDb ch σ :=
  ((m.call c db.hw).1, { db with hw := (m.call c db.hw).2 })

/-- One SDK call whose return code is ignored. -/
def runIgnored (m : GroupSdk σ) (c : GroupCall) : GroupDb ch σ := (db.run m c).2

/-- `ctc_sai_db_free_id` of the NEXTHOP pool. -/
def freeNexthop (nhId : Nat) : GroupDb ch σ := { db with hop := CtcSai.freeNexthop db.hop nhId }

/-- `ctc_sai_db_free_id` of the APS pool. -/
def freeAps (aps : Nat) : GroupDb ch σ := { db with aps := db.aps.free aps }

/-- `ctc_sai_db_free_id` of the NEXTHOP_MEMBER pool. -/
def freeMember (id : Nat) : GroupDb ch σ := { db with nexthopMember := db.nexthopMember.free id }

/-- The counters after `f`. -/
def withCtr (ctr : CounterDb ch) : GroupDb ch σ := { db with hop := { db.hop with ctr := ctr } }

def setGroup (o : Oid) (g : NextHopGrp) : GroupDb ch σ := { db with groups := db.groups.insert o g }

/-- The id names an object, but no group. -/
def notGroup (o : Oid) : Bool := db.hop.hasObject o || (db.members.lookup o).isSome

/-- The id names an object, but no group member. -/
def notMember (o : Oid) : Bool := db.hop.hasObject o || (db.groups.lookup o).isSome

/-- The id names an object, but no next hop. -/
def notNextHop (o : Oid) : Bool :=
  (db.hop.nextHops.lookup o).isNone &&
    (db.hop.hasObject o || (db.groups.lookup o).isSome || (db.members.lookup o).isSome)

end GroupDb

/-! ## Groups -/

section Group

variable (m : GroupSdk σ) (sdk : Sdk)

/-- `error1` of `create`: the counter of an ECMP group, and the next-hop id. -/
def createGrpError1 (db : GroupDb ch σ) (type : NextHopGroupType) (counterOid : Oid) (nhId : Nat) :
    GroupDb ch σ :=
  let db := if type = .ecmp ∧ counterOid ≠ Oid.null then
    db.withCtr (counterIdRemove sdk db.hop.ctr counterOid).2 else db
  db.freeNexthop nhId

/-- `error2` of `create`. -/
def createGrpError2 (db : GroupDb ch σ) (type : NextHopGroupType) (counterOid : Oid)
    (nhId apsGroupId : Nat) : GroupDb ch σ :=
  let db := match type with
    | .ecmp => db.runIgnored m (.nhRemoveEcmp nhId)
    | .protection => db.freeAps apsGroupId
  createGrpError1 sdk db type counterOid nhId

def nextHopGroupOid (lchip : BitVec 8) (type : NextHopGroupType) (apsGroupId nhId : Nat) : Oid :=
  createObjectId .nextHopGroup lchip (type.bits.setWidth 8) (BitVec.ofNat 16 apsGroupId)
    (BitVec.ofNat 32 nhId)

/-- The end of `create`: the record and its object. -/
def createGrpFinish (db : GroupDb ch σ) (type : NextHopGroupType) (counterOid : Oid)
    (nhId apsGroupId : Nat) : Status × Option Oid × GroupDb ch σ :=
  let oid := nextHopGroupOid ch.lchip type apsGroupId nhId
  if !sdk.mem .nextHopGroup then
    (.noMemory, none, createGrpError2 m sdk db type counterOid nhId apsGroupId)
  else if (db.groups.lookup oid).isSome then
    (.itemAlreadyExists, none, createGrpError2 m sdk db type counterOid nhId apsGroupId)
  else if !sdk.mem .oidNode then
    (.noMemory, none, createGrpError2 m sdk db type counterOid nhId apsGroupId)
  else (.success, some oid, db.setGroup oid ⟨Oid.null, Oid.null, counterOid⟩)

/-- `ctc_sai_next_hop_group_create_nh_grp`.  An ECMP group starts with the
drop next hop, taken out again at once. -/
def createNextHopGroup (db : GroupDb ch σ) (attrs : List GroupAttr) :
    Status × Option Oid × GroupDb ch σ :=
  match findAttribInList GroupAttr.type? attrs with
  | none => (.mandatoryAttributeMissing, none, db)
  | some type =>
    let counterOid := (findAttribInList GroupAttr.counterId? attrs).getD Oid.null
    match db.hop.nbr.nexthop.alloc with
    | none => (.insufficientResources, none, db)
    | some (nhId, pool) =>
      let db := { db with hop := { db.hop with nbr := { db.hop.nbr with nexthop := pool } } }
      match type with
      | .ecmp =>
        match counterCreateIf sdk db.hop true counterOid .ecmp with
        | (.success, hop) =>
          let db := { db with hop := hop }
          let r := db.run m (.nhAddEcmp nhId m.dropNhId)
          let status := mappingErrorCtc r.1
          if status = .success then
            createGrpFinish m sdk (r.2.runIgnored m (.nhUpdateEcmpRemove nhId m.dropNhId))
              .ecmp counterOid nhId 0
          else (status, none, createGrpError1 sdk r.2 .ecmp counterOid nhId)
        -- returns without unlocking and without giving the id back
        | (status, hop) => (status, none, { db with hop := { hop with lockLeft := true } })
      | .protection =>
        match db.aps.alloc with
        | none => (.insufficientResources, none,
            createGrpError1 sdk db .protection counterOid nhId)
        | some (apsGroupId, aps) =>
          createGrpFinish m sdk { db with aps := aps } .protection counterOid nhId apsGroupId

/-- The ids and the object of a group that is removed. -/
def removeGrpFinish (db : GroupDb ch σ) (oid : Oid) : GroupDb ch σ :=
  let db := db.freeNexthop oid.value.toNat
  { db with groups := db.groups.erase oid }

/-- `ctc_sai_next_hop_group_remove_nh_grp`.  Whether the group has members is
not asked. -/
def removeNextHopGroup (db : GroupDb ch σ) (oid : Oid) : Option (Status × GroupDb ch σ) :=
  match db.groups.lookup oid with
  | none => if db.notGroup oid then none else some (.itemNotFound, db)
  | some g =>
    if oid.subType = NextHopGroupType.ecmp.bits then
      let r := db.run m (.nhRemoveEcmp oid.value.toNat)
      let status := mappingErrorCtc r.1
      if status ≠ .success then some (status, r.2)
      else if g.counterOid = Oid.null then some (.success, removeGrpFinish r.2 oid)
      else
        match counterIdRemove sdk r.2.hop.ctr g.counterOid with
        | (.success, ctr) => some (.success, removeGrpFinish (r.2.withCtr ctr) oid)
        | (status, ctr) => some (status, r.2.withCtr ctr)
    else if oid.subType = NextHopGroupType.protection.bits then
      let db := db.runIgnored m (.nhRemoveIpuc oid.value.toNat)
      let db := db.runIgnored m (.apsDestroy oid.value2.toNat)
      some (.success, removeGrpFinish (db.freeAps oid.value2.toNat) oid)
    else some (.success, removeGrpFinish db oid)

/-- The NEXT_HOP_COUNT branch of `_ctc_sai_next_hop_group_get_grp_attr`: the
status and the count it writes. -/
def getNextHopCount (db : GroupDb ch σ) (oid : Oid) : Option (Status × Option Nat) :=
  if oid.subType = NextHopGroupType.ecmp.bits then
    match m.nhInfo db.hw oid.value.toNat with
    | .error e => some (mappingErrorCtc e, none)
    | .ok info => if info.isEcmp then some (.success, some info.ecmpCnt) else some (.failure, none)
  else if oid.subType = NextHopGroupType.protection.bits then
    match db.groups.lookup oid with
    | none => if db.notGroup oid then none else some (.itemNotFound, none)
    | some g => some (.success, some ((decide (g.wNhOid ≠ Oid.null)).toNat +
        (decide (g.pNhOid ≠ Oid.null)).toNat))
  else some (.success, none)

end Group

/-! ## The hardware of a protection group -/

section Aps

variable (m : GroupSdk σ)

def apsGports (db : GroupDb ch σ) (wNhOid pNhOid : Oid) : Except Status (BitVec 32 × BitVec 32) :=
  match oidGetNexthopId wNhOid with
  | none => .error .invalidObjectId
  | some wNhId =>
    match m.nhInfo db.hw wNhId.toNat with
    | .error e => .error (.ctc e)
    | .ok w =>
      match oidGetNexthopId pNhOid with
      | none => .error .invalidObjectId
      | some pNhId =>
        match m.nhInfo db.hw pNhId.toNat with
        | .error e => .error (.ctc e)
        | .ok p => .ok (w.gport, p.gport)

/-- The next hop of one member and its l3 interface. -/
def apsNextHop (db : GroupDb ch σ) (nhOid : Oid) : Option (Except Status (NextHop × BitVec 16)) :=
  match db.hop.nextHops.lookup nhOid with
  | none => if db.notNextHop nhOid then none else some (.error .itemNotFound)
  | some nh =>
    match oidGetL3ifId nh.rifId with
    | none => some (.error .invalidObjectId)
    | some l3ifId => some (.ok (nh, l3ifId))

/-- `ctc_sai_next_hop_get_arp_id` of a next hop that is there. -/
def nextHopGetArpId (db : GroupDb ch σ) (nh : NextHop) : Status × Nat :=
  match neighborGetArpId db.hop.nbr nh.rifId nh.ipAddress with
  | none => (.itemNotFound, 0)
  | some arpId => (.success, arpId)

/-- `_ctc_sai_next_hop_group_create_aps_nh` once the bridge group is there:
its next hop, which only IP and MPLS members get.  A missing ARP id does not
keep the next hop from being added.  The labels handed to the SDK are left
out. -/
def createApsNhAdd (db : GroupDb ch σ) (apsGroupId nhId : Nat) (subType : BitVec 3)
    (w p : NextHop) : Status × GroupDb ch σ :=
  if subType = NextHopType.ip.bits then
    let wArp := nextHopGetArpId db w
    let pArp := nextHopGetArpId db p
    let r := db.run m (.nhAddIpuc nhId apsGroupId wArp.2 pArp.2)
    let code := m.orCode wArp.1 pArp.1 r.1
    if code = .none then (.success, r.2)
    else (mappingErrorCtc code, r.2.runIgnored m (.apsDestroy apsGroupId))
  else if subType = NextHopType.mpls.bits then
    if w.labelCount ≠ p.labelCount then
      (.invalidParameter, db.runIgnored m (.apsDestroy apsGroupId))
    else
      let r := db.run m (.nhAddMpls nhId apsGroupId w.ctcMplsTunnelId p.ctcMplsTunnelId)
      let status := mappingErrorCtc r.1
      if status = .success then (.success, r.2)
      else (status, r.2.runIgnored m (.apsDestroy apsGroupId))
  else (.success, db)

/-- `_ctc_sai_next_hop_group_create_aps_nh`. -/
def createApsNh (db : GroupDb ch σ) (apsGroupId nhId : Nat) (wNhOid pNhOid : Oid) :
    Option (Status × GroupDb ch σ) :=
  if wNhOid.subType ≠ pNhOid.subType then some (.invalidParameter, db)
  else
    match apsGports m db wNhOid pNhOid with
    | .error status => some (status, db)
    | .ok gports =>
      match apsNextHop db wNhOid with
      | none => none
      | some (.error status) => some (status, db)
      | some (.ok w) =>
        match apsNextHop db pNhOid with
        | none => none
        | some (.error status) => some (status, db)
        | some (.ok p) =>
          let r := db.run m (.apsCreate apsGroupId ⟨gports.1, gports.2, w.2, p.2⟩)
          let status := mappingErrorCtc r.1
          if status = .success then
            some (createApsNhAdd m r.2 apsGroupId nhId wNhOid.subType w.1 p.1)
          else some (status, r.2)

/-- `_ctc_sai_next_hop_group_remove_aps_nh`.  The next hop of MPLS members
stays. -/
def removeApsNh (db : GroupDb ch σ) (apsGroupId nhId : Nat) (nhOid : Oid) : GroupDb ch σ :=
  let db := if nhOid.subType = NextHopType.ip.bits then db.runIgnored m (.nhRemoveIpuc nhId)
    else db
  db.runIgnored m (.apsDestroy apsGroupId)

end Aps

/-! ## Members -/

def NextHopGrp.slot (g : NextHopGrp) : MemberRole → Oid
  | .primary => g.wNhOid
  | .standby => g.pNhOid

/-- The group with the slot of a role set. -/
def NextHopGrp.setSlot (g : NextHopGrp) (role : MemberRole) (nhOid : Oid) : NextHopGrp :=
  match role with
  | .primary => { g with wNhOid := nhOid }
  | .standby => { g with pNhOid := nhOid }

def NextHopGrp.full (g : NextHopGrp) : Bool :=
  decide (g.wNhOid ≠ Oid.null) && decide (g.pNhOid ≠ Oid.null)

def memberOid (lchip : BitVec 8) (isWorking : Bool) (nhMemberId : Nat) (nhId : BitVec 32) : Oid :=
  createObjectId .nextHopGroupMember lchip (if isWorking then 1 else 0)
    (BitVec.ofNat 16 nhMemberId) nhId

def memberRole (oid : Oid) : MemberRole := if oid.subType = 1 then .primary else .standby

section Member

variable (m : GroupSdk σ) (sdk : Sdk)

/-- The result of `create_member`: status, `*next_hop_group_member_id` if
written, database. -/
abbrev MemberResult (ch : Chip) (σ : Type) := Status × Option Oid × GroupDb ch σ

/-- Whether the object of a member can be stored, and the status if not. -/
def memberStored (db : GroupDb ch σ) (oid : Oid) : Status :=
  if (db.members.lookup oid).isSome then .itemAlreadyExists
  else if sdk.mem .oidNode then .success else .noMemory

/-- The ECMP branch of `_ctc_sai_next_hop_group_create_member`. -/
def createEcmpMember (db : GroupDb ch σ) (nhGrpOid : Oid) (nhId : BitVec 32) (nhMemberId : Nat) :
    MemberResult ch σ :=
  let r := db.run m (.nhUpdateEcmpAdd nhGrpOid.value.toNat nhId.toNat)
  let status := mappingErrorCtc r.1
  if status ≠ .success then (status, none, r.2.freeMember nhMemberId)
  else
    let oid := memberOid ch.lchip false nhMemberId nhId
    match memberStored sdk r.2 oid with
    | .success => (.success, some oid, { r.2 with members := r.2.members.insert oid ⟨nhGrpOid⟩ })
    | status =>
      -- error3
      let db := r.2.runIgnored m (.nhUpdateEcmpRemove nhGrpOid.value.toNat nhId.toNat)
      (status, none, db.freeMember nhMemberId)

/-- The PROTECTION branch once its hardware is there: the slot, and the
object. -/
def createAltFinish (db : GroupDb ch σ) (nhGrpOid : Oid) (g : NextHopGrp) (role : MemberRole)
    (nhId : BitVec 32) (nhMemberId : Nat) : MemberResult ch σ :=
  let db := db.setGroup nhGrpOid g
  let oid := memberOid ch.lchip (role = .primary) nhMemberId nhId
  match memberStored sdk db oid with
  | .success => (.success, some oid, { db with members := db.members.insert oid ⟨nhGrpOid⟩ })
  | status =>
    -- error3: the slot stays set
    let db := if g.full then
      removeApsNh m db nhGrpOid.value2.toNat nhGrpOid.value.toNat g.wNhOid else db
    (status, none, db.freeMember nhMemberId)

/-- The PROTECTION branch of `_ctc_sai_next_hop_group_create_member`.  A slot
that is filled already is overwritten. -/
def createAltMember (db : GroupDb ch σ) (attrs : List MemberAttr) (nhGrpOid : Oid)
    (g : NextHopGrp) (nhOid : Oid) (nhId : BitVec 32) (nhMemberId : Nat) :
    Option (MemberResult ch σ) :=
  match findAttribInList MemberAttr.configuredRole? attrs with
  | none => some (.mandatoryAttributeMissing, none, db.freeMember nhMemberId)
  | some role =>
    let g := g.setSlot role nhOid
    if g.full then
      match createApsNh m db nhGrpOid.value2.toNat nhGrpOid.value.toNat g.wNhOid g.pNhOid with
      | none => none
      | some (.success, db) => some (createAltFinish m sdk db nhGrpOid g role nhId nhMemberId)
      | some (status, db) => some (status, none, db.freeMember nhMemberId)
    else some (createAltFinish m sdk db nhGrpOid g role nhId nhMemberId)

/-- `_ctc_sai_next_hop_group_create_member`.  The next hop is not looked up. -/
def createMember (db : GroupDb ch σ) (attrs : List MemberAttr) : Option (MemberResult ch σ) :=
  match findAttribInList MemberAttr.nextHopGroupId? attrs with
  | none => some (.mandatoryAttributeMissing, none, db)
  | some nhGrpOid =>
    match db.groups.lookup nhGrpOid with
    | none => if db.notGroup nhGrpOid then none else some (.invalidParameter, none, db)
    | some g =>
      match findAttribInList MemberAttr.nextHopId? attrs with
      | none => some (.mandatoryAttributeMissing, none, db)
      | some nhOid =>
        let nhId := (oidGetNexthopId nhOid).getD 0
        if !sdk.mem .nextHopGroupMember then some (.noMemory, none, db)
        else
          match db.nexthopMember.alloc with
          | none => some (.insufficientResources, none, db)
          | some (nhMemberId, pool) =>
            let db := { db with nexthopMember := pool }
            if nhGrpOid.subType = NextHopGroupType.ecmp.bits then
              some (createEcmpMember m sdk db nhGrpOid nhId nhMemberId)
            else createAltMember m sdk db attrs nhGrpOid g nhOid nhId nhMemberId

/-- The member's id and object, once its group let it go. -/
def removeMemberFinish (db : GroupDb ch σ) (oid : Oid) : GroupDb ch σ :=
  let db := db.freeMember oid.value2.toNat
  { db with members := db.members.erase oid }

/-- The PROTECTION branch of `_ctc_sai_next_hop_group_remove_member`: the slot
of its role is cleared, and the hardware goes with the second slot. -/
def removeAltMember (db : GroupDb ch σ) (nhGrpOid : Oid) (g : NextHopGrp) (oid : Oid) :
    GroupDb ch σ :=
  let nhOidOld := g.slot (memberRole oid)
  let g := g.setSlot (memberRole oid) Oid.null
  let db := db.setGroup nhGrpOid g
  if g.wNhOid = Oid.null ∧ g.pNhOid = Oid.null then
    removeApsNh m db nhGrpOid.value2.toNat nhGrpOid.value.toNat nhOidOld
  else db

/-- `_ctc_sai_next_hop_group_remove_member`. -/
def removeMember (db : GroupDb ch σ) (oid : Oid) : Option (Status × GroupDb ch σ) :=
  match db.members.lookup oid with
  | none => if db.notMember oid then none else some (.itemNotFound, db)
  | some r =>
    match db.groups.lookup r.nhGrpOid with
    | none => some (.itemNotFound, db)
    | some g =>
      if r.nhGrpOid.subType = NextHopGroupType.ecmp.bits then
        let res := db.run m (.nhUpdateEcmpRemove r.nhGrpOid.value.toNat oid.value.toNat)
        if res.1 = .none then some (.success, removeMemberFinish res.2 oid)
        else if res.1 = .nhNotExist ∨ res.1 = .notExist then
          some (.ctc res.1, removeMemberFinish res.2 oid)
        else some (mappingErrorCtc res.1, res.2)
      else some (.success, removeMemberFinish (removeAltMember m db r.nhGrpOid g oid) oid)

end Member

end CtcSai
