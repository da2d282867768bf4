/-
# `Mirror` — mirror sessions, ctc_sai_mirror.c

A mirror session is a record of attributes that create, set and get go through
by three switches.  Its port list is a pointer, and lists that are given back
stay given back: reading one is `none`, as is a call that does not return.

A set walks the resources the session is bound by, which are a parameter here,
and tells the SDK of the change; the answers of the SDK's calls come in a list,
with success behind its end.
-/
import CtcSai.EntryKeys
import CtcSai.RouteKeys

namespace CtcSai

/-! ## Attributes -/

/-- `sai_mirror_session_type_t`. -/
inductive MirrorSessionType where
  | local | remote | enhancedRemote
deriving DecidableEq, Repr

/-- `sai_mirror_session_attr_t`. -/
inductive MirrorAttrId where
  | type | monitorPort | truncateSize | sampleRate | congestionMode | tc | vlanTpid | vlanId
  | vlanPri | vlanCfi | vlanHeaderValid | erspanEncapsulationType | iphdrVersion | tos | ttl
  | srcIpAddress | dstIpAddress | srcMacAddress | dstMacAddress | greProtocolType
  | monitorPortlistValid | monitorPortlist | policer
deriving DecidableEq, Repr

/-- The member of `sai_attribute_value_t` that an attribute uses. -/
inductive MirrorValue where
  | u8 (v : BitVec 8)
  | u16 (v : BitVec 16)
  | u32 (v : BitVec 32)
  | s32 (v : BitVec 32)
  | sessionType (t : MirrorSessionType)
  | booldata (b : Bool)
  | oid (o : Oid)
  | mac (m : Mac)
  | ipaddr (a : IpUnion)
  | objlist (l : AttrList Oid)
deriving DecidableEq, Repr

namespace MirrorValue

/-- The members as they are read off the union. -/
def asU8 : MirrorValue → BitVec 8
  | u8 v => v
  | _ => 0

def asU16 : MirrorValue → BitVec 16
  | u16 v => v
  | _ => 0

def asU32 : MirrorValue → BitVec 32
  | u32 v | s32 v => v
  | _ => 0

def asType : MirrorValue → MirrorSessionType
  | sessionType t => t
  | _ => .local

def asBool : MirrorValue → Bool
  | booldata b => b
  | _ => false

def asOid : MirrorValue → Oid
  | oid o => o
  | _ => Oid.null

def asMac : MirrorValue → Mac
  | mac m => m
  | _ => 0

def asIp : MirrorValue → IpUnion
  | ipaddr a => a
  | _ => ⟨.ipv4, .zero⟩

def asList : MirrorValue → AttrList Oid
  | objlist l => l
  | _ => ⟨0, []⟩

end MirrorValue

/-- An attribute with its value; a list is as long as its count. -/
inductive MirrorAttr where
  | type (t : MirrorSessionType)
  | monitorPort (oid : Oid)
  | truncateSize (u16 : BitVec 16)
  | sampleRate (u32 : BitVec 32)
  | congestionMode (s32 : BitVec 32)
  | tc (u8 : BitVec 8)
  | vlanTpid (u16 : BitVec 16)
  | vlanId (u16 : BitVec 16)
  | vlanPri (u8 : BitVec 8)
  | vlanCfi (u8 : BitVec 8)
  | vlanHeaderValid (b : Bool)
  | erspanEncapsulationType (s32 : BitVec 32)
  | iphdrVersion (u8 : BitVec 8)
  | tos (u8 : BitVec 8)
  | ttl (u8 : BitVec 8)
  | srcIpAddress (ip : IpUnion)
  | dstIpAddress (ip : IpUnion)
  | srcMacAddress (m : Mac)
  | dstMacAddress (m : Mac)
  | greProtocolType (u16 : BitVec 16)
  | monitorPortlistValid (b : Bool)
  | monitorPortlist (l : List Oid)
  | policer (oid : Oid)
deriving DecidableEq, Repr

namespace MirrorAttr

/-- `attr->id`. -/
def id : MirrorAttr → MirrorAttrId
  | type _ => .type
  | monitorPort _ => .monitorPort
  | truncateSize _ => .truncateSize
  | sampleRate _ => .sampleRate
  | congestionMode _ => .congestionMode
  | tc _ => .tc
  | vlanTpid _ => .vlanTpid
  | vlanId _ => .vlanId
  | vlanPri _ => .vlanPri
  | vlanCfi _ => .vlanCfi
  | vlanHeaderValid _ => .vlanHeaderValid
  | erspanEncapsulationType _ => .erspanEncapsulationType
  | iphdrVersion _ => .iphdrVersion
  | tos _ => .tos
  | ttl _ => .ttl
  | srcIpAddress _ => .srcIpAddress
  | dstIpAddress _ => .dstIpAddress
  | srcMacAddress _ => .srcMacAddress
  | dstMacAddress _ => .dstMacAddress
  | greProtocolType _ => .greProtocolType
  | monitorPortlistValid _ => .monitorPortlistValid
  | monitorPortlist _ => .monitorPortlist
  | policer _ => .policer

/-- `attr->value`. -/
def value : MirrorAttr → MirrorValue
  | type t => .sessionType t
  | monitorPort o | policer o => .oid o
  | truncateSize v | vlanTpid v | vlanId v | greProtocolType v => .u16 v
  | sampleRate v => .u32 v
  | congestionMode v | erspanEncapsulationType v => .s32 v
  | tc v | vlanPri v | vlanCfi v | iphdrVersion v | tos v | ttl v => .u8 v
  | vlanHeaderValid b | monitorPortlistValid b => .booldata b
  | srcIpAddress a | dstIpAddress a => .ipaddr a
  | srcMacAddress m | dstMacAddress m => .mac m
  | monitorPortlist l => .objlist ⟨l.length, l⟩

end MirrorAttr

/-- `ctc_sai_find_attrib_in_list`, by the id. -/
def findMirrorAttr (attrs : List MirrorAttr) (id : MirrorAttrId) : Option MirrorValue :=
  findAttribInList (fun a => if a.id = id then some a.value else none) attrs

/-! ## Records -/

/-- The port lists that were allocated, by the order of their allocation;
`none` is one that was given back. -/
structure ListHeap where
  lists : Nat → Option (List Oid)
  next : Nat

def ListHeap.empty : ListHeap := ⟨fun _ => none, 0⟩

/-- `mem_malloc` of a list and the copy into it. -/
def ListHeap.copy (heap : ListHeap) (l : List Oid) : ListHeap :=
  ⟨Function.update heap.lists heap.next (some l), heap.next + 1⟩

/-- `mem_free`. -/
def ListHeap.free (heap : ListHeap) (p : Nat) : ListHeap :=
  { heap with lists := Function.update heap.lists p none }

/-- `ctc_sai_mirror_session_t`. -/
structure MirrorSession where
  dstPort : Oid
  truncatedSize : BitVec 16
  sampleRate : BitVec 32
  vlanTpid : BitVec 16
  vlanId : BitVec 16
  vlanPri : BitVec 16
  vlanCfi : BitVec 16
  vlanHdrValid : Bool
  erspanEncapType : BitVec 32
  ipHdrVer : BitVec 8
  tos : BitVec 8
  ttl : BitVec 8
  srcIpAddr : IpUnion
  dstIpAddr : IpUnion
  srcMacAddr : Mac
  dstMacAddr : Mac
  greProType : BitVec 16
  dstPortListValid : Bool
  dstPortCnt : Nat
  /-- NULL is `none`. -/
  dstPortList : Option Nat
deriving DecidableEq

/-- An address written over another: of an IPv4 address only its word. -/
def IpUnion.write (old new : IpUnion) : IpUnion :=
  match new.addrFamily with
  | .ipv4 => ⟨.ipv4, { old.addr with w0 := new.addr.w0 }⟩
  | .ipv6 => ⟨.ipv6, new.addr⟩

def IpUnion.zero : IpUnion := ⟨.ipv4, .zero⟩

/-! ## Create -/

/-- CTC_SAI_MIRROR_SAMPLE_RATE_MAX. -/
def mirrorSampleRateMax : BitVec 32 := 2 <<< 14

/-- The attributes of the loop from ERSPAN_ENCAPSULATION_TYPE on. -/
def erspanAttrs : List MirrorAttrId :=
  [.erspanEncapsulationType, .iphdrVersion, .tos, .ttl, .srcIpAddress, .dstIpAddress,
    .srcMacAddress, .dstMacAddress, .greProtocolType]

/-- That loop: an ERSPAN session wants them all, the others want none. -/
def erspanAttrChk (attrs : List MirrorAttr) (type : MirrorSessionType) :
    List MirrorAttrId → Status
  | [] => .success
  | id :: rest =>
    if type = .enhancedRemote then
      if (findMirrorAttr attrs id).isNone then .mandatoryAttributeMissing
      else erspanAttrChk attrs type rest
    else if (findMirrorAttr attrs id).isSome then .invalidParameter
    else erspanAttrChk attrs type rest

/-- `_ctc_sai_mirror_create_mirr_session_attr_chk`: whether the port list is
asked for goes by PORTLIST_VALID being there, not by its value. -/
def mirrorCreateAttrChk (attrs : List MirrorAttr) : Except Status MirrorSessionType :=
  let find := findMirrorAttr attrs
  match find .type with
  | none => .error .mandatoryAttributeMissing
  | some t =>
    let type := t.asType
    let destination : MirrorAttrId :=
      if (find .monitorPortlistValid).isSome then .monitorPortlist else .monitorPort
    if (find destination).isNone then .error .mandatoryAttributeMissing
    else if (find .sampleRate).any fun v => mirrorSampleRateMax.slt v.asU32 then
      .error .invalidParameter
    else if (find .vlanHeaderValid).isSome && decide (type ≠ .enhancedRemote) then
      .error .invalidParameter
    else
      match erspanAttrChk attrs type erspanAttrs with
      | .success =>
        if (find .vlanTpid).isSome then .error .notSupported else .ok type
      | status => .error status

/-- The record with its attributes, but for the port list. -/
def MirrorSession.ofAttrs (attrs : List MirrorAttr) : MirrorSession :=
  let find := findMirrorAttr attrs
  let listValid := ((find .monitorPortlistValid).map (·.asBool)).getD false
  { dstPort :=
      if listValid then Oid.null else ((find .monitorPort).map (·.asOid)).getD Oid.null
    truncatedSize := ((find .truncateSize).map (·.asU16)).getD 0
    sampleRate := ((find .sampleRate).map (·.asU32)).getD 1
    vlanTpid := ((find .vlanTpid).map (·.asU16)).getD 0x8100
    vlanId := ((find .vlanId).map (·.asU16)).getD 0
    vlanPri := ((find .vlanPri).map (·.asU8.setWidth 16)).getD 0
    vlanCfi := ((find .vlanCfi).map (·.asU8.setWidth 16)).getD 0
    vlanHdrValid := ((find .vlanHeaderValid).map (·.asBool)).getD false
    erspanEncapType := ((find .erspanEncapsulationType).map (·.asU32)).getD 0
    ipHdrVer := ((find .iphdrVersion).map (·.asU8)).getD 0
    tos := ((find .tos).map (·.asU8)).getD 0
    ttl := ((find .ttl).map (·.asU8)).getD 255
    srcIpAddr := ((find .srcIpAddress).map (IpUnion.zero.write ·.asIp)).getD .zero
    dstIpAddr := ((find .dstIpAddress).map (IpUnion.zero.write ·.asIp)).getD .zero
    srcMacAddr := ((find .srcMacAddress).map (·.asMac)).getD 0
    dstMacAddr := ((find .dstMacAddress).map (·.asMac)).getD 0
    greProType := ((find .greProtocolType).map (·.asU16)).getD 0
    dstPortListValid := listValid
    dstPortCnt := 0
    dstPortList := none }

/-- The record with a copy of the list.  Without memory the copy is written to
NULL, unless there is nothing to write. -/
def MirrorSession.withList (s : MirrorSession) (mem : Bool) (heap : ListHeap) (l : List Oid) :
    Option (MirrorSession × ListHeap) :=
  if mem then some ({ s with dstPortCnt := l.length, dstPortList := some heap.next }, heap.copy l)
  else if l = [] then some ({ s with dstPortCnt := 0, dstPortList := none }, heap)
  else none

/-- `_ctc_sai_mirror_build_mirr_session_attr` on a zeroed record. -/
def mirrorBuildSessionAttr (mem : Bool) (heap : ListHeap) (attrs : List MirrorAttr) :
    Option (Status × MirrorSession × ListHeap) :=
  let s := MirrorSession.ofAttrs attrs
  let list := if s.dstPortListValid then findMirrorAttr attrs .monitorPortlist else none
  let built := match list with
    | some v => s.withList mem heap v.asList.written
    | none => some (s, heap)
  built.map fun r =>
    (if (findMirrorAttr attrs .tc).isSome then .attrNotSupported 0 else .success, r)

/-! ## Get -/

/-- `_ctc_sai_mirr_get_attr`, into what the caller's union holds.  The address
of the destination is read by the family of the source, and a list is written
whatever room the caller has. -/
def mirrGetAttr (s : MirrorSession) (heap : ListHeap) (type : MirrorSessionType)
    (id : MirrorAttrId) (out : MirrorValue) (attrIdx : Nat) : Option (Status × MirrorValue) :=
  match id with
  | .type => some (.success, .sessionType type)
  | .monitorPort => some (.success, .oid s.dstPort)
  | .truncateSize => some (.success, .u16 s.truncatedSize)
  | .sampleRate => some (.success, .u32 s.sampleRate)
  | .vlanTpid => some (.success, .u16 s.vlanTpid)
  | .vlanId => some (.success, .u16 s.vlanId)
  | .vlanPri => some (.success, .u8 (s.vlanPri.setWidth 8))
  | .vlanCfi => some (.success, .u8 (s.vlanCfi.setWidth 8))
  | .vlanHeaderValid => some (.success, .booldata s.vlanHdrValid)
  | .erspanEncapsulationType => some (.success, .s32 s.erspanEncapType)
  | .iphdrVersion => some (.success, .u8 s.ipHdrVer)
  | .tos => some (.success, .u8 s.tos)
  | .ttl => some (.success, .u8 s.ttl)
  | .srcIpAddress => some (.success, .ipaddr (out.asIp.write s.srcIpAddr))
  | .dstIpAddress =>
    some (.success, .ipaddr (out.asIp.write ⟨s.srcIpAddr.addrFamily, s.dstIpAddr.addr⟩))
  | .srcMacAddress => some (.success, .mac s.srcMacAddr)
  | .dstMacAddress => some (.success, .mac s.dstMacAddr)
  | .greProtocolType => some (.success, .u16 s.greProType)
  | .congestionMode => some (.success, .u8 0)
  | .monitorPortlistValid => some (.success, .booldata s.dstPortListValid)
  | .monitorPortlist =>
    if s.dstPortListValid then
      match s.dstPortList with
      | none => some (.invalidAttribute attrIdx, out)
      | some p => (heap.lists p).map fun l => (.success, .objlist ⟨s.dstPortCnt, l⟩)
    else some (.invalidAttribute attrIdx, out)
  | .tc => some (.attrNotSupported attrIdx, out)
  | .policer => some (.itemNotFound, out)

/-! ## Set -/

/-- Calls of the SDK, one after the other, up to the first error; the answers
that are left are those of the calls behind. -/
def sdkCalls : Nat → List CtcE → Status × List CtcE
  | 0, answers => (.success, answers)
  | _ + 1, [] => (.success, [])
  | n + 1, answer :: rest =>
    match mappingErrorCtc answer with
    | .success => sdkCalls n rest
    | status => (status, rest)

/-- A loop of calls by `loop_j`, a `uint8`: past 255 it goes on until a call
fails. -/
def sdkLoop (n : Nat) (answers : List CtcE) : Option (Status × List CtcE) :=
  if n ≤ 255 then some (sdkCalls n answers)
  else
    match answers.dropWhile (· = .none) with
    | [] => none
    | answer :: rest => some (mappingErrorCtc answer, rest)

/-- The port list of a record can be walked. -/
def MirrorSession.readable (s : MirrorSession) (heap : ListHeap) : Bool :=
  match s.dstPortList with
  | none => s.dstPortCnt = 0
  | some p => (heap.lists p).isSome

/-- A bound session whose port list changes: the ports of the old list leave
the multicast group, those of the new one join, and the old list is freed. -/
def mirrorUpdatePorts (old new : MirrorSession) (heap : ListHeap) (answers : List CtcE) :
    Option (Status × ListHeap × List CtcE) :=
  if !old.readable heap then none
  else
    match sdkLoop old.dstPortCnt answers with
    | some (.success, answers) =>
      if !new.readable heap then none
      else
        match sdkLoop new.dstPortCnt answers with
        | some (.success, answers) =>
          some (.success, (old.dstPortList.map heap.free).getD heap, answers)
        | some (status, answers) => some (status, heap, answers)
        | none => none
    | some (status, answers) => some (status, heap, answers)
    | none => none

/-- One binding in `_ctc_sai_mirror_lkup_set_attr`. -/
def mirrorUpdateBinding (type : MirrorSessionType) (old new : MirrorSession) (isMcast : Bool)
    (heap : ListHeap) (answers : List CtcE) : Option (Status × ListHeap × List CtcE) :=
  let updated := match type with
    | .local =>
      if old.dstPortListValid then mirrorUpdatePorts old new heap answers
      else if isMcast then
        let r := sdkCalls 2 answers
        some (r.1, heap, r.2)
      else some (.success, heap, answers)
    | .remote => some (.notSupported, heap, answers)
    | .enhancedRemote =>
      let r := sdkCalls (if isMcast then 3 else 1) answers
      some (r.1, heap, r.2)
  match updated with
  | some (.success, heap, answers) =>
    -- `_ctc_sai_mirror_operate_session`
    let r := sdkCalls 1 answers
    some (r.1, heap, r.2)
  | r => r

/-- `_ctc_sai_mirror_lkup_set_attr` on the sessions of one resource. -/
def mirrorLkupSetAttr (type : MirrorSessionType) (sid : Oid) (old new : MirrorSession)
    (isMcast : Bool) : List Oid → ListHeap → List CtcE → Option (Status × ListHeap × List CtcE)
  | [], heap, answers => some (.success, heap, answers)
  | id :: rest, heap, answers =>
    if id = sid then
      match mirrorUpdateBinding type old new isMcast heap answers with
      | some (.success, heap, answers) =>
        mirrorLkupSetAttr type sid old new isMcast rest heap answers
      | r => r
    else mirrorLkupSetAttr type sid old new isMcast rest heap answers

/-- `ctc_sai_db_vector_traverse` over the session lists of the resources. -/
def mirrorTraverse (type : MirrorSessionType) (sid : Oid) (old new : MirrorSession) :
    List (List Oid) → ListHeap → List CtcE → Option (Status × ListHeap × List CtcE)
  | [], heap, answers => some (.success, heap, answers)
  | sessions :: rest, heap, answers =>
    match mirrorLkupSetAttr type sid old new (decide (1 < sessions.length)) sessions heap
        answers with
    | some (.success, heap, answers) => mirrorTraverse type sid old new rest heap answers
    | r => r

/-- What the SDK and the memory answer during one set. -/
structure MirrorSdk where
  mem : Bool
  answers : List CtcE

/-- What the switch of `_ctc_sai_mirr_set_attr` does: return, or go on to the
resources with a new record. -/
inductive MirrorSwitch where
  | refused (status : Status)
  | sampleRate (s : MirrorSession)
  | written (s : MirrorSession) (heap : ListHeap)

/-- The switch of `_ctc_sai_mirr_set_attr`, where the table has a set
function. -/
def mirrSetSwitch (mem : Bool) (s : MirrorSession) (heap : ListHeap) :
    MirrorAttr → Option MirrorSwitch
  | .monitorPort o => some (.written { s with dstPort := o } heap)
  | .truncateSize v => some (.written { s with truncatedSize := v } heap)
  | .sampleRate v => some (.sampleRate { s with sampleRate := v })
  | .vlanId v => some (.written { s with vlanId := v } heap)
  | .iphdrVersion v => some (.written { s with ipHdrVer := v } heap)
  | .tos v => some (.written { s with tos := v } heap)
  | .ttl v => some (.written { s with ttl := v } heap)
  | .srcIpAddress a => some (.written { s with srcIpAddr := s.srcIpAddr.write a } heap)
  | .dstIpAddress a => some (.written { s with dstIpAddr := s.dstIpAddr.write a } heap)
  | .srcMacAddress m => some (.written { s with srcMacAddr := m } heap)
  | .dstMacAddress m => some (.written { s with dstMacAddr := m } heap)
  | .greProtocolType v => some (.written { s with greProType := v } heap)
  | .vlanHeaderValid b => some (.written { s with vlanHdrValid := b } heap)
  | .congestionMode v =>
    if v.setWidth 8 = (0 : BitVec 8) then some (.written s heap) else some (.refused .notSupported)
  | .monitorPortlist l =>
    if s.dstPortListValid then (s.withList mem heap l).map fun r => .written r.1 r.2
    else some (.refused (.invalidAttribute 0))
  | .type _ | .monitorPortlistValid _ => some (.refused (.invalidAttribute 0))
  | .policer _ => some (.refused .itemNotFound)
  | .tc _ | .vlanTpid _ | .vlanPri _ | .vlanCfi _ | .erspanEncapsulationType _ =>
    some (.refused .notSupported)

/-- `ctc_sai_mirror_set_mirr_session_attribute` on the record of a session.
After an error the old record is copied back, and a new port list is freed; of
the ACL entries a new sample rate always hears that they took it. -/
def mirrSetSessionAttribute (sdk : MirrorSdk) (slots : List (List Oid)) (type : MirrorSessionType)
    (sid : Oid) (s : MirrorSession) (heap : ListHeap) (attr : MirrorAttr) :
    Option (Status × MirrorSession × ListHeap) :=
  match mirrSetSwitch sdk.mem s heap attr with
  | none => none
  | some (.refused status) => some (status, s, heap)
  | some (.sampleRate new) => some (.success, new, heap)
  | some (.written new heap) =>
    match mirrorTraverse type sid s new slots heap sdk.answers with
    | none => none
    | some (.success, heap, _) => some (.success, new, heap)
    | some (status, heap, _) =>
      let newList := if attr.id = .monitorPortlist then new.dstPortList else none
      some (status, s, (newList.map heap.free).getD heap)

end CtcSai
