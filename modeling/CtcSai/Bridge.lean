/-
# `Bridge` — the records of ctc_sai_bridge.c

A bridge is an object without a record.  A bridge port has one, in which three
other modules keep something of their own: STP the instances it is in, VLANs the
VLANs it is a member of, and isolation groups the one it is bound to.
-/
import CtcSai.Stp

namespace CtcSai

/-- `ctc_maclimit_action_t`. -/
inductive MacLimitAction where
  | none | fwd | discard | toCpu
deriving DecidableEq, Repr

/-- `ctc_sai_bridge_port_t`, without the packet counters; the bitmaps are the
sets of their bits. -/
structure BridgePort where
  portType : BridgePortType
  adminState : Bool
  tagMode : BitVec 8
  gport : BitVec 16
  vlanId : BitVec 16
  bridgeId : BitVec 16
  l3ifId : BitVec 16
  logicPort : BitVec 16
  nhId : BitVec 32
  limitNum : BitVec 32
  limitAction : MacLimitAction
  tunnelId : Oid
  crossConnectPort : Oid
  bridgeType : BitVec 8
  subPortOrTunnelOamEn : Bool
  ingressFilter : Bool
  egressFilter : Bool
  isolationGroupOid : Oid
  stpPortBindBits : Finset (BitVec 16)
  stpPortBindCount : BitVec 32
  stpPortState : BitVec 16 → CtcStpState
  vlanMemberBindBits : Finset (BitVec 16)
  vlanMemberBindCount : BitVec 32
  vlanMemberTagMode : BitVec 16 → BitVec 8

/-- `_ctc_sai_bridge_port_alloc`: a record that was just zeroed. -/
def BridgePort.zero : BridgePort where
  portType := .port
  adminState := false
  tagMode := 0
  gport := 0
  vlanId := 0
  bridgeId := 0
  l3ifId := 0
  logicPort := 0
  nhId := 0
  limitNum := 0
  limitAction := .none
  tunnelId := Oid.null
  crossConnectPort := Oid.null
  bridgeType := 0
  subPortOrTunnelOamEn := false
  ingressFilter := false
  egressFilter := false
  isolationGroupOid := Oid.null
  stpPortBindBits := ∅
  stpPortBindCount := 0
  stpPortState _ := .forwarding
  vlanMemberBindBits := ∅
  vlanMemberBindCount := 0
  vlanMemberTagMode _ := 0

end CtcSai
