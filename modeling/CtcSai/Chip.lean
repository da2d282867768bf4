/-
# `Chip` — what the adapter stands on

The switch SDK is not part of the repository, so it enters as a parameter.
`Sdk` is what the SDK answers during one API call: a return code for every
call it may receive, the answers to its queries, and whether each allocation
of memory succeeds.  `Chip` is what does not change while the adapter runs:
the chip's number and type, its id allocators, and the router interfaces.
-/
import CtcSai.Lib.IdPool
import CtcSai.Saitypes

namespace CtcSai

open IdPool

/-! ## Calls into the SDK -/

/-- `ctc_nh_nexthop_mac_param_t`, the fields the adapter fills. -/
structure NexthopMacParam where
  mac : Mac
  gport : BitVec 32
  vlanId : BitVec 16
  vlanValid : Bool
  redirectToCpu : Bool
  discard : Bool
deriving DecidableEq, Repr

/-- `ctc_ip_nh_param_t`, the fields the adapter fills. -/
structure IpNhParam where
  arpId : Nat
  mac : Mac
  gport : BitVec 32
  vid : BitVec 16
  isL2Port : Bool
deriving DecidableEq, Repr

/-- `ctc_misc_nh_param_t`, the fields the adapter fills. -/
structure MiscNhParam where
  gport : BitVec 32
  vid : BitVec 16
  isOif : Bool
  macDa : Mac
  macSa : Mac
  newSvid : BitVec 16
  ipv4 : Bool
deriving DecidableEq, Repr

/-- `ctc_ipuc_param_t` of a host route. -/
structure HostRouteParam where
  vrfId : BitVec 16
  ip : IpAddress
  nhId : Nat
deriving DecidableEq, Repr

/-- `ctc_sai_counter_type_t`. -/
inductive CounterType where
  | route | nexthop | nexthopMplsPw | nexthopMplsLsp | ecmp | tunnelIgs | tunnelEgs
  | hostif | max
deriving DecidableEq, Repr

/-- The SDK entry points that change hardware state. -/
inductive SdkCall where
  | nhAddNexthopMac (arpId : Nat) (param : NexthopMacParam)
  | nhUpdateNexthopMac (arpId : Nat) (param : NexthopMacParam)
  | nhRemoveNexthopMac (arpId : Nat)
  | nhAddIpuc (nhId : Nat) (param : IpNhParam)
  | nhUpdateIpuc (nhId : Nat) (param : IpNhParam)
  | nhRemoveIpuc (nhId : Nat)
  | nhAddMisc (nhId : Nat) (param : MiscNhParam)
  | nhUpdateMisc (nhId : Nat) (param : MiscNhParam)
  | nhRemoveMisc (nhId : Nat)
  | ipucAdd (param : HostRouteParam)
  | ipucRemove (param : HostRouteParam)
  | nhAddMplsTunnelLabel (tunnelId : Nat)
  | nhRemoveMplsTunnelLabel (tunnelId : Nat)
  | nhAddMpls (nhId : Nat)
  | nhRemoveMpls (nhId : Nat)
  | nhAddIpTunnel (nhId : Nat)
  | nhRemoveIpTunnel (nhId : Nat)
  | statsCreateStatsid (type : CounterType)
  | statsDestroyStatsid (statsId : Nat)
deriving DecidableEq, Repr

/-- The `mem_malloc` calls whose failure the adapter handles. -/
inductive MemSite where
  | neighbor | entryNode | nextHop | oidNode | labelList | neighborNhNode
  | nextHopGroup | nextHopGroupMember
deriving DecidableEq, Repr

/-- `ctc_l2_addr_t` as a forwarding lookup returns it. -/
structure L2Addr where
  gport : BitVec 32
  isLogicPort : Bool
deriving DecidableEq, Repr

/-- What the SDK answers during one API call.  No call is made twice with the
same arguments in one API call, so one answer per call loses nothing. -/
structure Sdk where
  /-- The return code of a call. -/
  rc : SdkCall → CtcE
  /-- Whether `mem_malloc` returns memory. -/
  mem : MemSite → Bool
  /-- `ctcs_l2_get_fdb_entry` by forwarding instance and address. -/
  l2GetFdbEntry : BitVec 16 → Mac → Option L2Addr
  /-- `ctc_sai_bridge_traverse_get_bridge_port_info` of a logic port. -/
  bridgePortInfo : BitVec 16 → BitVec 32 → Option (BitVec 32 × BitVec 16)

/-- Every call succeeds and every allocation of memory returns some. -/
structure Sdk.Succeeds (sdk : Sdk) : Prop where
  rc : ∀ c, sdk.rc c = .none
  mem : ∀ m, sdk.mem m = true

/-- The SDK that does all it is asked and has learnt no address. -/
def Sdk.ok : Sdk where
  rc _ := .none
  mem _ := true
  l2GetFdbEntry _ _ := none
  bridgePortInfo _ _ := none

theorem Sdk.ok_succeeds : Sdk.ok.Succeeds := ⟨fun _ => rfl, fun _ => rfl⟩

/-! ## The chip -/

/-- `ctc_sai_router_interface_t` as its getters hand it out: `vlan` and `fid`
are the VLAN id and forwarding instance the getters derive. -/
structure RouterInterface where
  vrfId : BitVec 16
  gport : BitVec 32
  vlan : BitVec 16
  fid : BitVec 16
  srcMac : Mac
  neighborMissAction : PacketAction
deriving DecidableEq, Repr

/-- The three bits that hold a router-interface type. -/
def RifType.bits (t : RifType) : BitVec 3 := BitVec.ofNat 3 t.ctorIdx

/-- What stays fixed while the adapter runs.  The ranges are those of
`_ctc_sai_db_init_id`; the SDK's capabilities bound their sizes. -/
structure Chip where
  lchip : BitVec 8
  chipType : ChipType
  /-- The object database of router interfaces. -/
  rif : Oid → Option RouterInterface
  /-- Only ids built for this chip's router interfaces are in that database,
  so an id is determined by its type and interface number. -/
  rif_id : ∀ {o r}, rif o = some r →
    ∃ (t : RifType) (l3if : BitVec 16),
      o = createObjectId .routerInterface lchip (t.bits.setWidth 8) 0 (l3if.setWidth 32)
  /-- `CTC_MAP_LPORT_TO_GPORT` of the CPU port. -/
  cpuGport : BitVec 32
  /-- `CTC_IS_CPU_PORT`. -/
  isCpuPort : BitVec 32 → Bool
  arp : Allocator
  nexthop : Allocator
  tunnelId : Allocator
  counter : Allocator
  nexthopMember : Allocator
  aps : Allocator
  /-- The SDK's own numbering of statistics. -/
  stats : Allocator
  arp_lo : arp.lo = 1
  arp_top : arp.lo + arp.size ≤ 2 ^ 16
  nexthop_lo : nexthop.lo = 3
  nexthop_top : nexthop.lo + nexthop.size ≤ 2 ^ 32
  tunnelId_lo : tunnelId.lo = 1
  tunnelId_top : tunnelId.lo + tunnelId.size ≤ 2 ^ 16
  counter_lo : counter.lo = 1
  counter_top : counter.lo + counter.size ≤ 2 ^ 32
  nexthopMember_top : nexthopMember.lo + nexthopMember.size ≤ 2 ^ 16
  aps_top : aps.lo + aps.size ≤ 2 ^ 16

/-- An interface whose neighbors are programmed as flexible edits. -/
def isBridgeRif (rif : Oid) : Bool := rif.subType = RifType.bridge.bits

namespace Chip

variable (ch : Chip)

theorem arp_pos {p : Pool ch.arp} {i : Nat} (h : i ∈ p.used) : 0 < i := by
  have := Pool.lo_le_of_mem h
  rw [ch.arp_lo] at this
  exact this

theorem nexthop_pos {p : Pool ch.nexthop} {i : Nat} (h : i ∈ p.used) : 0 < i := by
  have := Pool.lo_le_of_mem h
  rw [ch.nexthop_lo] at this
  omega

theorem nexthop_lt {p : Pool ch.nexthop} {i : Nat} (h : i ∈ p.used) : i < 2 ^ 32 :=
  Nat.lt_of_lt_of_le (Finset.mem_Ico.mp (p.inRange h)).2 ch.nexthop_top

theorem nexthopMember_lt {p : Pool ch.nexthopMember} {i : Nat} (h : i ∈ p.used) : i < 2 ^ 16 :=
  Nat.lt_of_lt_of_le (Finset.mem_Ico.mp (p.inRange h)).2 ch.nexthopMember_top

/-- A port interface of the small chip below. -/
def portRif : Oid := createObjectId .routerInterface 0 (RifType.port.bits.setWidth 8) 0 1

/-- A bridge interface of the small chip below. -/
def bridgeRif : Oid := createObjectId .routerInterface 0 (RifType.bridge.bits.setWidth 8) 0 2

/-- A chip with those two interfaces and pools of eight ids: small enough to
run by hand. -/
def small : Chip where
  lchip := 0
  chipType := .tsingma
  rif o := if o = portRif then some ⟨0, 1, 0, 0, 0, .drop⟩
    else if o = bridgeRif then some ⟨0, 0, 0, 5, 0, .log⟩ else none
  rif_id := by
    intro o r h
    split at h
    · next ho => exact ⟨.port, 1, ho⟩
    · split at h
      · next ho => exact ⟨.bridge, 2, ho⟩
      · cases h
  cpuGport := 0x1000
  isCpuPort g := g = 0x1000
  arp := .firstFit 1 8
  nexthop := .firstFit 3 8
  tunnelId := .firstFit 1 8
  counter := .firstFit 1 8
  nexthopMember := .firstFit 0 8
  aps := .firstFit 0 8
  stats := .firstFit 1 8
  arp_lo := rfl
  arp_top := by decide
  nexthop_lo := rfl
  nexthop_top := by decide
  tunnelId_lo := rfl
  tunnelId_top := by decide
  counter_lo := rfl
  counter_top := by decide
  nexthopMember_top := by decide
  aps_top := by decide

end Chip
end CtcSai
