/-
# `Saitypes` — the vocabulary of the SAI layer

Statuses, SDK return codes and their translation, the enumerations and the
address types of the SAI headers, and object ids as the adapter packs them.
Attribute lists are typed: an attribute carries the member of the value
union that its id selects, so an ill-typed list cannot be written down.
-/
import CtcSai.Lib.Table
import Mathlib.Algebra.Group.Nat.Defs

namespace CtcSai

instance byteLawful : LawfulBEq (BitVec 8) := inferInstance
instance wordLawful : LawfulBEq (BitVec 32) := inferInstance

/-! ## Statuses -/

/-- The return codes of the SDK. -/
inductive CtcE where
  | none | invalidPtr | invalidPort | invalidParam | badid | invalidChipId
  | invalidConfig | exist | notExist | notReady | inUse | notSupport | noResource
  | profileNoResource | noMemory | hashConflict | notInit | initFail | dma
  | hwTimeOut | hwBusy | hwInvalidIndex | hwNotLock | hwFail | versionMismatch
  | paramConflict | tooManyFragment | wbBusy | nhNotExist | other
deriving DecidableEq, Repr

/-- `sai_status_t`, the codes this adapter returns. -/
inductive Status where
  | success | failure | notSupported | noMemory | insufficientResources
  | invalidParameter | itemAlreadyExists | itemNotFound | bufferOverflow
  | invalidPortNumber | uninitialized | mandatoryAttributeMissing | notImplemented
  | objectInUse | invalidObjectType | invalidObjectId | swUpgradeVersionMismatch
  | notExecuted | addrNotFound | tableFull
  | invalidAttribute (index : Nat)
  | invalidAttrValue (index : Nat)
  | attrNotSupported (index : Nat)
  -- an SDK code returned as it is
  | ctc (code : CtcE)
deriving DecidableEq, Repr

/-- `ctc_sai_mapping_error_ctc`. -/
def mappingErrorCtc : CtcE → Status
  | .none => .success
  | .invalidPtr => .invalidParameter
  | .invalidPort => .invalidPortNumber
  | .invalidParam | .badid | .invalidChipId | .invalidConfig => .invalidParameter
  | .exist => .itemAlreadyExists
  | .notExist => .itemNotFound
  | .notReady => .insufficientResources
  | .inUse => .objectInUse
  | .notSupport => .notSupported
  | .noResource | .profileNoResource => .insufficientResources
  | .noMemory => .noMemory
  | .hashConflict => .failure
  | .notInit => .uninitialized
  | .initFail | .dma | .hwTimeOut | .hwBusy | .hwInvalidIndex | .hwNotLock
  | .hwFail => .failure
  | .versionMismatch => .swUpgradeVersionMismatch
  | .paramConflict | .tooManyFragment => .failure
  | .wbBusy => .notExecuted
  | .nhNotExist | .other => .failure

/-- An SDK code is reported as success only when the SDK succeeded. -/
@[simp] theorem mappingErrorCtc_eq_success {e : CtcE} :
    mappingErrorCtc e = .success ↔ e = .none := by
  cases e <;> simp [mappingErrorCtc]

/-- An SDK code as a status, without the translation. -/
def CtcE.raw : CtcE → Status
  | .none => .success
  | e => .ctc e

/-! ## Enumerations and addresses -/

/-- `sai_object_type_t`, in the order of the header. -/
inductive ObjectType where
  | null | port | lag | virtualRouter | nextHop | nextHopGroup | routerInterface
  | aclTable | aclEntry | aclCounter | aclRange | aclTableGroup
  | aclTableGroupMember | hostif | mirrorSession | samplepacket | stp
  | hostifTrapGroup | policer | wred | qosMap | queue | scheduler | schedulerGroup
  | bufferPool | bufferProfile | ingressPriorityGroup | lagMember | hash | udf
  | udfMatch | udfGroup | fdbEntry | switch | hostifTrap | hostifTableEntry
  | neighborEntry | routeEntry | vlan | vlanMember | hostifPacket | tunnelMap
  | tunnel | tunnelTermTableEntry | fdbFlush | nextHopGroupMember | stpPort
  | rpfGroup | rpfGroupMember | l2mcGroup | l2mcGroupMember | ipmcGroup
  | ipmcGroupMember | l2mcEntry | ipmcEntry | mcastFdbEntry | hostifUserDefinedTrap
  | bridge | bridgePort | tunnelMapEntry | tam | segmentrouteSidlist | portPool
  | insegEntry | dtel | dtelQueueReport | dtelIntSession | dtelReportSession
  | dtelEvent | bfdSession | isolationGroup | isolationGroupMember | tamMathFunc
  | tamReport | tamEventThreshold | tamTelType | tamTransport | tamTelemetry
  | tamCollector | tamEventAction | tamEvent | natZoneCounter | natEntry | tamInt
  | counter | debugCounter | portSerdes | twamp | npm | es | y1731Meg
  | y1731Session | y1731RemoteMep | ptpDomain | synce
deriving DecidableEq, Repr

/-- `sai_packet_action_t`. -/
inductive PacketAction where
  | drop | forward | copy | copyCancel | trap | log | deny | transit
deriving DecidableEq, Repr

/-- `sai_router_interface_type_t`. -/
inductive RifType where
  | port | vlan | loopback | mplsRouter | subPort | bridge | qinqPort
deriving DecidableEq, Repr

/-- `sai_ip_addr_family_t`. -/
inductive IpFamily where
  | ipv4 | ipv6
deriving DecidableEq, Repr

/-- `sai_ip_address_t`: the family and the member of the address union it
selects. -/
inductive IpAddress where
  | ip4 (addr : BitVec 32)
  | ip6 (addr : BitVec 128)
deriving DecidableEq, Repr

/-- `addr_family` of an address. -/
def IpAddress.addrFamily : IpAddress → IpFamily
  | .ip4 _ => .ipv4
  | .ip6 _ => .ipv6

/-- The address of a zeroed `sai_ip_address_t`. -/
def IpAddress.zero : IpAddress := .ip4 0

/-- `sai_mac_t`. -/
abbrev Mac := BitVec 48

/-- `ctcs_get_chip_type`, the chips the adapter tells apart. -/
inductive ChipType where
  | greatbelt | goldengate | duet2 | tsingma
deriving DecidableEq, Repr

/-- `CTC_CHIP_TSINGMA <= chip_type`. -/
def ChipType.tsingmaUp : ChipType → Bool
  | .tsingma => true
  | _ => false

/-! ## Object ids -/

/-- `ctc_object_id_t`: the bit fields of a 64-bit object id. -/
structure Oid where
  type : BitVec 7
  lchip : BitVec 6
  subType : BitVec 3
  value2 : BitVec 16
  value : BitVec 32
deriving DecidableEq, Repr

/-- `SAI_NULL_OBJECT_ID`. -/
def Oid.null : Oid := ⟨0, 0, 0, 0, 0⟩

/-- The seven bits that hold an object type. -/
def ObjectType.bits (t : ObjectType) : BitVec 7 := BitVec.ofNat 7 t.ctorIdx

/-- `ctc_sai_create_object_id`: every argument is cut to its bit field. -/
def createObjectId (type : ObjectType) (lchip : BitVec 8) (subType : BitVec 8)
    (value2 : BitVec 16) (value : BitVec 32) : Oid :=
  ⟨type.bits, lchip.setWidth 6, subType.setWidth 3, value2, value⟩

theorem ObjectType.ctorIdx_lt (t : ObjectType) : t.ctorIdx < 95 := by
  cases t <;> decide

theorem ObjectType.toNat_bits (t : ObjectType) : t.bits.toNat = t.ctorIdx := by
  have h := t.ctorIdx_lt
  rw [bits, BitVec.toNat_ofNat, Nat.mod_eq_of_lt (by omega)]

theorem ObjectType.bits_inj {t u : ObjectType} : t.bits = u.bits ↔ t = u := by
  constructor
  · intro h
    have hn : t.ctorIdx = u.ctorIdx := by rw [← toNat_bits, ← toNat_bits, h]
    rw [← ofNat_ctorIdx t, ← ofNat_ctorIdx u, hn]
  · rintro rfl; rfl

@[simp] theorem value_createObjectId (t l s v2 v) : (createObjectId t l s v2 v).value = v := rfl

/-- `ctc_sai_oid_get_nexthop_id`: the id it writes; without one its status is
INVALID_OBJECT_ID. -/
def oidGetNexthopId (oid : Oid) : Option (BitVec 32) :=
  if oid.type = ObjectType.nextHop.bits ∨ oid.type = ObjectType.nextHopGroup.bits then
    some oid.value
  else none

/-- `ctc_sai_oid_get_l3if_id`. -/
def oidGetL3ifId (oid : Oid) : Option (BitVec 16) :=
  if oid.type = ObjectType.routerInterface.bits then some (oid.value.setWidth 16) else none

theorem createObjectId_ne_null {t : ObjectType} (ht : t ≠ .null) (l s v2 v) :
    createObjectId t l s v2 v ≠ Oid.null := by
  intro h
  have hb : t.bits = ObjectType.null.bits := congrArg Oid.type h
  exact ht (ObjectType.bits_inj.mp hb)

/-! ## Attribute lists -/

/-- `ctc_sai_find_attrib_in_list`: the value of the first attribute with the
wanted id; `sel` reads that value off an attribute. -/
def findAttribInList {α β : Type} (sel : α → Option β) (attrs : List α) : Option β :=
  attrs.findSome? sel

/-- A list attribute of a get call: the count, on entry the room the caller
has, and what has been written to its elements. -/
structure AttrList (α : Type) where
  count : Nat
  written : List α
deriving DecidableEq, Repr

/-- `ctc_sai_fill_object_list`; the data is `none` where it is NULL. -/
def fillObjectList {α : Type} (data : Option (List α)) (list : AttrList α) :
    Status × AttrList α :=
  match data with
  | none => (.invalidParameter, list)
  | some elems =>
    if list.count < elems.length then (.bufferOverflow, { list with count := elems.length })
    else (.success, ⟨elems.length, elems⟩)

/-- `ctc_sai_get_attribute` over a table of get functions: `none` is an id
the table lacks, `some none` an entry without one. -/
def getAttribute {ι ν : Type} (fns : ι → Option (Option (ι → ν → Nat → Status × ν)))
    (id : ι) (value : ν) (attrIndex : Nat) : Status × ν :=
  match fns id with
  | none => (.itemNotFound, value)
  | some none => (.invalidAttribute attrIndex, value)
  | some (some get) => get id value attrIndex

/-- The loop of a get call over its attributes.  `loop` is a `uint8`: past its
range it starts again, and the call never returns. -/
def getAttributes {ι ν : Type} (fns : ι → Option (Option (ι → ν → Nat → Status × ν)))
    (loop : Nat) : List (ι × ν) → Option (Status × List (ι × ν))
  | [] => some (.success, [])
  | (id, value) :: rest =>
    if loop = 2 ^ 8 then none
    else
      match getAttribute fns id value loop with
      | (.success, value) =>
        (getAttributes fns (loop + 1) rest).map fun r => (r.1, (id, value) :: r.2)
      | (status, value) => some (status, (id, value) :: rest)

theorem getAttributes_single {ι ν : Type}
    (fns : ι → Option (Option (ι → ν → Nat → Status × ν))) (id : ι) (value : ν) :
    getAttributes fns 0 [(id, value)] =
      some ((getAttribute fns id value 0).1, [(id, (getAttribute fns id value 0).2)]) := by
  rw [getAttributes, if_neg (by decide)]
  split
  · next v h => rw [h]; rfl
  · next status v _ h => rw [h]

end CtcSai
