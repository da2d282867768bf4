/-
# `VlanMemberRuns` — members, bitmaps and counts in every run

The members that the calls have made, and those of the start that are still
there, are kept beside the state, and with them by how much the creations on a
bridge port outnumber the removals of members it was never told of: the surplus
of its count.  The VLANs' side agrees with the members in every admitted run; the
bridge port's side does exactly where it has none of the start and no surplus.
-/
import CtcSai.VlanMemberBits
import CtcSai.VlanStp

namespace CtcSai

open Function KeyedTable Runs Table

variable {mc : MemberChip}
variable {g : BitVec 32} {sdk : MemberSdk} {db : MemberDb mc} {panel : List Nat}

/-! ## The system -/

/-- The database, and what the calls have done. -/
structure MemberSys (mc : MemberChip) where
  db : MemberDb mc
  /-- VLAN and port of the members that a creation made. -/
  created : Finset (BitVec 16 × BitVec 32)
  /-- Those of `ctc_sai_vlan_db_init` that are still there. -/
  panel : Finset (BitVec 16 × BitVec 32)
  /-- By port: creations since its bridge port was made, less the removals of
  members of the start. -/
  surplus : BitVec 32 → BitVec 32

def MemberSys.members (s : MemberSys mc) : Finset (BitVec 16 × BitVec 32) := s.created ∪ s.panel

/-- The VLAN and the port in the object id of a member. -/
def vlanMemberOf (oid : Oid) : BitVec 16 × BitVec 32 := (oid.value2, oid.value)

/-- What a creation makes of the members. -/
def MemberSys.afterCreate (s : MemberSys mc) : Status × Option Oid × MemberDb mc → MemberSys mc
  | (.success, some oid, db) => { s with
      db := db
      created := insert (vlanMemberOf oid) s.created
      surplus := update s.surplus oid.value (s.surplus oid.value + 1) }
  | (_, _, db) => { s with db := db }

def MemberSys.afterRemove (s : MemberSys mc) (oid : Oid) : Status × MemberDb mc → MemberSys mc
  | (.success, db) =>
    { db := db
      created := s.created.erase (vlanMemberOf oid)
      panel := s.panel.erase (vlanMemberOf oid)
      surplus := if vlanMemberOf oid ∈ s.panel then
        update s.surplus oid.value (s.surplus oid.value - 1) else s.surplus }
  | (_, db) => { s with db := db }

/-- The members of a VLAN go with it. -/
def MemberSys.afterRemoveVlan (s : MemberSys mc) (oid : Oid) :
    Status × VlanDb mc.vlan → MemberSys mc
  | (.success, vlan) => { s with
      db := { s.db with vlan := vlan }
      created := s.created.filter fun x => vlanOid mc.vlan.lchip x.1 ≠ oid
      panel := s.panel.filter fun x => vlanOid mc.vlan.lchip x.1 ≠ oid }
  | (_, vlan) => { s with db := { s.db with vlan := vlan } }

def MemberSys.create (s : MemberSys mc) (object : MemberSdk × List VlanMemberAttr) :
    Option (Status × Option Oid × MemberSys mc) :=
  (createVlanMember object.1 s.db object.2).map fun r => (r.1, r.2.1, s.afterCreate r)

def MemberSys.remove (s : MemberSys mc) (object : MemberSdk × Oid) :
    Option (Status × Unit × MemberSys mc) :=
  (removeVlanMember object.1 s.db object.2).map fun r => (r.1, (), s.afterRemove object.2 r)

/-- A bridge port of type PORT is stored, if there is none: a record that no
VLAN has written to. -/
def MemberSys.addBridgePort (s : MemberSys mc) (g : BitVec 32) (bp : BridgePort) : MemberSys mc :=
  if (s.db.bridgePorts.lookup (bridgePortOid mc.vlan.lchip g)).isSome then s
  else { s with
    db := { s.db with
      bridgePorts := s.db.bridgePorts.insert (bridgePortOid mc.vlan.lchip g) { bp with
        portType := .port
        gport := g.setWidth 16
        vlanMemberBindBits := ∅
        vlanMemberBindCount := 0 } }
    surplus := update s.surplus g 0 }

/-- The bridge port of a port is removed. -/
def MemberSys.removeBridgePort (s : MemberSys mc) (g : BitVec 32) : MemberSys mc :=
  { s with db := { s.db with
      bridgePorts := s.db.bridgePorts.erase (bridgePortOid mc.vlan.lchip g) } }

inductive VlanMemberOp where
  | createVlan (sdk : VlanSdk) (attrs : List VlanAttr)
  | removeVlan (sdk : VlanSdk) (oid : Oid)
  | createMember (sdk : MemberSdk) (attrs : List VlanMemberAttr)
  | removeMember (sdk : MemberSdk) (oid : Oid)
  | createMembers (mode : BulkOpErrorMode) (objects : List (MemberSdk × List VlanMemberAttr))
  | removeMembers (mode : BulkOpErrorMode) (objects : List (MemberSdk × Oid))
  | addBridgePort (g : BitVec 32) (bp : BridgePort)
  | removeBridgePort (g : BitVec 32)

def vlanMemberStep (s : MemberSys mc) : VlanMemberOp → Option (MemberSys mc)
  | .createVlan sdk attrs => (createVlan sdk s.db.vlan attrs).map fun r =>
    { s with db := { s.db with vlan := r.2.2 } }
  | .removeVlan sdk oid => (removeVlan sdk s.db.vlan oid).map (s.afterRemoveVlan oid)
  | .createMember sdk attrs => (s.create (sdk, attrs)).map fun r => r.2.2
  | .removeMember sdk oid => (s.remove (sdk, oid)).map fun r => r.2.2
  | .createMembers mode objects => (bulkLoop MemberSys.create mode s objects).map Prod.snd
  | .removeMembers mode objects => (bulkLoop MemberSys.remove mode s objects).map Prod.snd
  | .addBridgePort g bp => some (s.addBridgePort g bp)
  | .removeBridgePort g => some (s.removeBridgePort g)

/-- The bridge ports of type PORT stand for ports of the chip and for LAGs, and
those of the others have other ids. -/
def BridgePortKeys (db : MemberDb mc) : Prop :=
  ∀ o bp, db.bridgePorts.lookup o = some bp →
    (bp.portType = .port → ∃ g, IsGport mc.pm mc.vlan.lchip g ∧
      o = bridgePortOid mc.vlan.lchip g ∧ bp.gport = g.setWidth 16) ∧
    ∀ g, o = bridgePortOid mc.vlan.lchip g → bp.portType = .port

/-- What the SDK says of the panel ports: they are distinct ports of the chip,
not more than the chip has. -/
structure PanelPorts (mc : MemberChip) (panel : List Nat) : Prop where
  nodup : panel.Nodup
  isPort : ∀ b ∈ panel, ∃ g, mc.pm.isPort mc.vlan.lchip g ∧ mc.pm.lport g = b
  length_le : panel.length ≤ mc.maxPortNum

/-- `ctc_sai_vlan_db_init` on a database without VLANs, with bridge ports that no
VLAN has written to. -/
def MemberStart (s : MemberSys mc) : Prop :=
  ∃ (db₀ : MemberDb mc) (sdk : MemberSdk) (vsdk : VlanSdk) (panel : List Nat) (ptr : BitVec 16)
      (vlan : VlanDb mc.vlan),
    db₀.vlan.vlans = ∅ ∧ BridgePortKeys db₀ ∧
    (∀ o bp, db₀.bridgePorts.lookup o = some bp →
      bp.vlanMemberBindBits = ∅ ∧ bp.vlanMemberBindCount = 0) ∧
    PanelPorts mc panel ∧
    createVlan vsdk db₀.vlan [.vlanId 1] =
      some (.success, some (vlanOid mc.vlan.lchip ptr), vlan) ∧
    vlanDbInit sdk db₀ vsdk panel = some (.success, s.db) ∧ s.created = ∅ ∧
    s.panel = (panel.map fun b => (ptr, mc.pm.gport mc.vlan.lchip b)).toFinset ∧
    s.surplus = fun _ => 0

/-! ## What should hold -/

/-- The VLANs' side: the bits are the live members, the counts are their
numbers, MEMBER_LIST returns their ids within its buffer, and a bridge port
lists no VLAN that is gone. -/
structure VlanSideOk (s : MemberSys mc) : Prop where
  bits : ∀ p v, s.db.vlan.Live (vlanOid mc.vlan.lchip p) v → ∀ g, IsGport mc.pm mc.vlan.lchip g →
    (v.memberBits.bit mc.pm g ↔ (p, g) ∈ s.members)
  port_count : ∀ o v, s.db.vlan.Live o v →
    v.vlanMemberPortBindCount.toNat = v.vlanMemberPortBindBits.card
  lag_count : ∀ o v, s.db.vlan.Live o v →
    v.vlanMemberLagBindCount.toNat = v.vlanMemberLagBindBits.card
  list : ∀ sdk o v list, s.db.vlan.Live o v → sdk.getGchipId = .none →
    sdk.getCapability = .none → sdk.memList = true →
      v.vlanMemberPortBindBits.card + v.vlanMemberLagBindBits.card ≤ list.count →
      ∃ l, getVlanMemberList sdk s.db o list = some (.success, ⟨l.length, l⟩) ∧ l.Nodup ∧
        ∀ x, x ∈ l ↔ ∃ p g, (p, g) ∈ s.members ∧ o = vlanOid mc.vlan.lchip p ∧
          x = vlanMemberOid mc.vlan.lchip p g
  no_overrun : ∀ sdk o v list, s.db.vlan.Live o v → getVlanMemberList sdk s.db o list ≠ none
  gone : ∀ o bp, s.db.bridgePorts.lookup o = some bp → bp.portType = .port →
    ∀ p ∈ bp.vlanMemberBindBits, ∃ v, s.db.vlan.Live (vlanOid mc.vlan.lchip p) v

/-- A bridge port's side: its bits are the VLANs that it is a member of, and its
count is their number. -/
def BridgeSideOk (s : MemberSys mc) (g : BitVec 32) (bp : BridgePort) : Prop :=
  (∀ p, p ∈ bp.vlanMemberBindBits ↔ (p, g) ∈ s.members) ∧
    bp.vlanMemberBindCount.toNat = bp.vlanMemberBindBits.card

/-- All of it. -/
structure MemberOk (s : MemberSys mc) : Prop where
  vlan : VlanSideOk s
  bridge : ∀ g bp, s.db.bridgePorts.lookup (bridgePortOid mc.vlan.lchip g) = some bp →
    BridgeSideOk s g bp

/-- The bridge port of a port was told of every member, and no creation on it is
left uncounted. -/
def MemberSys.Told (s : MemberSys mc) (g : BitVec 32) : Prop :=
  (∀ p, (p, g) ∉ s.panel) ∧ s.surplus g = 0

/-! ## The condition -/

/-- A creation that reaches the records names its tagging mode, finds no such
member, and leaves MEMBER_LIST its room. -/
def CreateMemberSafe (s : MemberSys mc) (object : MemberSdk × List VlanMemberAttr) : Prop :=
  ∀ vid v bpId bp ports, findAttribInList VlanMemberAttr.vlanId? object.2 = some vid →
    s.db.vlan.Live vid v → findAttribInList VlanMemberAttr.bridgePortId? object.2 = some bpId →
    s.db.bridgePorts.lookup bpId = some bp → bp.portType = .port →
    memberPorts object.1 mc (bp.gport.setWidth 32) = some ports →
    forPorts object.1.addPort ports = .success → forPorts object.1.setTagged ports = .success →
      (findAttribInList VlanMemberAttr.taggingMode? object.2).isSome ∧
        (vid.value.setWidth 16, bp.gport.setWidth 32) ∉ s.members ∧
        v.vlanMemberPortBindBits.card + v.vlanMemberLagBindBits.card < mc.maxPortNum

/-- A removal on a VLAN that exists finds the member and its bridge port. -/
def RemoveMemberSafe (s : MemberSys mc) (object : MemberSdk × Oid) : Prop :=
  ∀ v ports, object.2.type = ObjectType.vlanMember.bits →
    s.db.vlan.Live (vlanOid object.2.lchip object.2.value2) v →
    memberPorts object.1 mc object.2.value = some ports →
    forPorts (fun g => if object.1.removePort g = .none then object.1.setTagged g
      else object.1.removePort g) ports = .success → vlanMemberOf object.2 ∈ s.members ∧
      (s.db.bridgePorts.lookup (bridgePortOid object.2.lchip object.2.value)).isSome

def MemberSafe (s : MemberSys mc) : VlanMemberOp → Prop
  | .createVlan _ _ => True
  -- no bridge port lists it
  | .removeVlan _ oid => ∀ x ∈ s.created, vlanOid mc.vlan.lchip x.1 ≠ oid
  | .createMember sdk attrs => CreateMemberSafe s (sdk, attrs)
  | .removeMember sdk oid => RemoveMemberSafe s (sdk, oid)
  | .createMembers mode objects => BulkAdmitted MemberSys.create mode CreateMemberSafe s objects
  | .removeMembers mode objects => BulkAdmitted MemberSys.remove mode RemoveMemberSafe s objects
  | .addBridgePort g _ => IsGport mc.pm mc.vlan.lchip g
  | .removeBridgePort g => ∀ x ∈ s.created, x.2 ≠ g

/-! ## The invariant -/

/-- What holds in every state of an admitted run. -/
structure MemberInv (s : MemberSys mc) : Prop where
  key : ∀ o, s.db.vlan.Stored o → ∃ p : BitVec 16, p.toNat < 4096 ∧ o = vlanOid mc.vlan.lchip p
  good : ∀ o m, s.db.vlan.members o = some m →
    m.Good mc.pm mc.vlan.lchip ∧ m.size ≤ mc.maxPortNum
  bit : ∀ p m, s.db.vlan.members (vlanOid mc.vlan.lchip p) = some m →
    ∀ g, IsGport mc.pm mc.vlan.lchip g → (m.bit mc.pm g ↔ (p, g) ∈ s.members)
  member : ∀ p g, (p, g) ∈ s.members →
    IsGport mc.pm mc.vlan.lchip g ∧ (s.db.vlan.members (vlanOid mc.vlan.lchip p)).isSome
  once : ∀ x ∈ s.created, x ∉ s.panel
  bridge : BridgePortKeys s.db
  bound : ∀ g bp, s.db.bridgePorts.lookup (bridgePortOid mc.vlan.lchip g) = some bp →
    (∀ p, p ∈ bp.vlanMemberBindBits ↔ (p, g) ∈ s.created) ∧
      bp.vlanMemberBindCount = BitVec.ofNat 32 bp.vlanMemberBindBits.card + s.surplus g
  there : ∀ p g, (p, g) ∈ s.created →
    (s.db.bridgePorts.lookup (bridgePortOid mc.vlan.lchip g)).isSome

theorem bridgePortOid_inj {c : Lchip} {g g' : BitVec 32}
    (h : bridgePortOid c g = bridgePortOid c g') : g = g' :=
  congrArg Oid.value h

theorem IsGport.setWidth_setWidth (h : IsGport mc.pm mc.vlan.lchip g) :
    (g.setWidth 16).setWidth 32 = g := by
  rcases h with h | ⟨tid, rfl⟩
  · have := mc.gport_lt h
    bv_omega
  · simp only [lagGport]
    bv_omega

section Inv

variable {s : MemberSys mc}

theorem MemberInv.gport (h : MemberInv s) {g : BitVec 32} {bp : BridgePort}
    (hb : s.db.bridgePorts.lookup (bridgePortOid mc.vlan.lchip g) = some bp) :
    bp.portType = .port ∧ IsGport mc.pm mc.vlan.lchip g ∧ bp.gport.setWidth 32 = g := by
  have htype := (h.bridge _ bp hb).2 g rfl
  obtain ⟨g', hg', ho, hgport⟩ := (h.bridge _ bp hb).1 htype
  have heq : g = g' := bridgePortOid_inj ho
  subst heq
  refine ⟨htype, hg', ?_⟩
  rw [hgport]
  exact hg'.setWidth_setWidth

theorem MemberInv.gport_of_type (h : MemberInv s) {o : Oid} {bp : BridgePort}
    (hb : s.db.bridgePorts.lookup o = some bp) (ht : bp.portType = .port) :
    IsGport mc.pm mc.vlan.lchip (bp.gport.setWidth 32) ∧
      o = bridgePortOid mc.vlan.lchip (bp.gport.setWidth 32) := by
  obtain ⟨g, hg, ho, hgport⟩ := (h.bridge _ bp hb).1 ht
  rw [hgport, hg.setWidth_setWidth]
  exact ⟨hg, ho⟩

theorem MemberInv.ptr (h : MemberInv s) {o : Oid} {v : VlanUser} (hv : s.db.vlan.Live o v) :
    (o.value.setWidth 16).toNat < 4096 ∧ o = vlanOid mc.vlan.lchip (o.value.setWidth 16) := by
  obtain ⟨p, hp, ho⟩ := h.key o hv.stored
  have hval : o.value.setWidth 16 = p := by
    rw [ho]
    show (p.setWidth 32).setWidth 16 = p
    bv_omega
  rw [hval]
  exact ⟨hp, ho⟩

theorem MemberInv.grow (h : MemberInv s) {vlan : VlanDb mc.vlan}
    (hv : MembersGrown s.db.vlan vlan) : MemberInv { s with db := { s.db with vlan := vlan } } := by
  constructor
  case key =>
    intro o ho
    rcases hv.stored o ho with ho | ho
    · exact h.key o ho
    · exact ho
  case good =>
    intro o m hm
    rcases hv.members o with he | ⟨-, he⟩
    · exact h.good o m (he ▸ hm)
    · cases he.symm.trans hm
      exact ⟨MemberBits.good_empty .., Nat.zero_le _⟩
  case bit =>
    intro p m hm g hg
    rcases hv.members (vlanOid mc.vlan.lchip p) with he | ⟨hnone, he⟩
    · exact h.bit p m (he ▸ hm) g hg
    cases he.symm.trans hm
    constructor
    · intro hbit
      simp [MemberBits.bit, MemberBits.empty] at hbit
    · intro hin
      have := (h.member p g hin).2
      simp [hnone] at this
  case member =>
    intro p g hin
    refine ⟨(h.member p g hin).1, ?_⟩
    have hsome := (h.member p g hin).2
    rcases hv.members (vlanOid mc.vlan.lchip p) with he | ⟨-, he⟩
    · rw [he]
      exact hsome
    · rw [he]
      rfl
  case once => exact h.once
  case bridge => exact h.bridge
  case bound => exact h.bound
  case there => exact h.there

/-- A VLAN that no bridge port lists is removed. -/
theorem MemberInv.removeVlan (h : MemberInv s) {sdk : VlanSdk} {oid : Oid}
    (hsafe : ∀ x ∈ s.created, vlanOid mc.vlan.lchip x.1 ≠ oid) {r : Status × VlanDb mc.vlan}
    (hr : removeVlan sdk s.db.vlan oid = some r) : MemberInv (s.afterRemoveVlan oid r) := by
  obtain ⟨status, vlan⟩ := r
  rcases removeVlan_members hr with ⟨hst, hvl⟩ | ⟨hst, hvl⟩
  · simp only at hst hvl
    subst hst
    have hlook : ∀ o, vlan.members o = if o = oid then none else s.db.vlan.members o := by
      intro o
      simp only [VlanDb.members, hvl, lookup_erase_ite]
      split <;> rfl
    have hcreated : s.created.filter (fun x => vlanOid mc.vlan.lchip x.1 ≠ oid) = s.created := by
      refine Finset.filter_true_of_mem fun x hx => ?_
      simpa using hsafe x hx
    have hin : ∀ {x}, x ∈ (s.afterRemoveVlan oid (.success, vlan)).members ↔
        x ∈ s.members ∧ vlanOid mc.vlan.lchip x.1 ≠ oid := by
      simp only [MemberSys.members, MemberSys.afterRemoveVlan, Finset.mem_union, Finset.mem_filter]
      exact or_and_right.symm
    constructor
    case key =>
      intro o ho
      refine h.key o ?_
      simp only [MemberSys.afterRemoveVlan, VlanDb.Stored, hvl, lookup_erase_ite] at ho
      split at ho
      · cases ho
      · exact ho
    case good =>
      intro o m hm
      rw [MemberSys.afterRemoveVlan, hlook] at hm
      split at hm
      · cases hm
      · exact h.good o m hm
    case bit =>
      intro p m hm g hg
      rw [MemberSys.afterRemoveVlan, hlook] at hm
      split at hm
      · cases hm
      · next hne =>
        rw [hin, h.bit p m hm g hg]
        exact (and_iff_left hne).symm
    case member =>
      intro p g hx
      obtain ⟨hx, hne⟩ := hin.mp hx
      refine ⟨(h.member p g hx).1, ?_⟩
      rw [MemberSys.afterRemoveVlan, hlook, if_neg hne]
      exact (h.member p g hx).2
    case once =>
      intro x hx hx'
      exact h.once x (Finset.mem_filter.mp hx).1 (Finset.mem_filter.mp hx').1
    case bridge => exact h.bridge
    case bound =>
      intro g bp hb
      simp only [MemberSys.afterRemoveVlan, hcreated]
      exact h.bound g bp hb
    case there =>
      intro p g hx
      simp only [MemberSys.afterRemoveVlan, hcreated] at hx
      exact h.there p g hx
  · have hsame : MembersGrown s.db.vlan vlan := by
      refine ⟨fun o => .inl ?_, fun o ho => .inl ?_⟩
      · simp only [VlanDb.members, show vlan.vlans = _ from hvl]
      · simpa only [VlanDb.Stored, show vlan.vlans = _ from hvl] using ho
    have hst' : s.afterRemoveVlan oid (status, vlan) =
        { s with db := { s.db with vlan := vlan } } := by
      cases status with
      | success => exact absurd rfl hst
      | _ => rfl
    rw [hst']
    exact h.grow hsame

end Inv

/-! ## One member -/

/-- What a creation does: nothing, or it writes both records. -/
inductive MemberCreated (sdk : MemberSdk) (db : MemberDb mc) (attrs : List VlanMemberAttr)
    (r : Status × Option Oid × MemberDb mc) : Prop where
  | failed : r.1 ≠ .success → r.2.2 = db → MemberCreated sdk db attrs r
  | made {vid bpId : Oid} {v : VlanUser} {bp : BridgePort} {ports : List (BitVec 32)} :
      findAttribInList VlanMemberAttr.vlanId? attrs = some vid → db.vlan.Live vid v →
      findAttribInList VlanMemberAttr.bridgePortId? attrs = some bpId →
      db.bridgePorts.lookup bpId = some bp → bp.portType = .port →
      memberPorts sdk mc (bp.gport.setWidth 32) = some ports →
      forPorts sdk.addPort ports = .success → forPorts sdk.setTagged ports = .success →
      r = (if (findAttribInList VlanMemberAttr.taggingMode? attrs).isSome then .success
          else .itemNotFound,
        some (vlanMemberOid mc.vlan.lchip (vid.value.setWidth 16) (bp.gport.setWidth 32)),
        { db with
          vlan := db.vlan.write vid (v.bindMember mc.pm (bp.gport.setWidth 32))
          bridgePorts := db.bridgePorts.insert bpId (bp.bindVlan (vid.value.setWidth 16)
            (((findAttribInList VlanMemberAttr.taggingMode? attrs).getD 0).setWidth 8)) }) →
      MemberCreated sdk db attrs r

/-- The tag goes through only if the SDK takes it for each port. -/
theorem createMemberTag_success {mode : Option (BitVec 32)} {ports : List (BitVec 32)}
    (h : createMemberTag sdk mode ports = .success) :
    forPorts sdk.setTagged ports = .success := by
  cases mode with
  | none => exact h
  | some s =>
    simp only [createMemberTag] at h
    split at h
    · exact h
    next status he =>
    -- no refused mode is a success
    simp only [vlanGetCtcTag] at he
    split at he
    · cases he
    · split at he
      · cases he
      · split at he <;> (cases he; cases h)

theorem createVlanMember_cases {attrs : List VlanMemberAttr} {r : Status × Option Oid × MemberDb mc}
    (hr : createVlanMember sdk db attrs = some r) :
    MemberCreated sdk db attrs r := by
  have hfail : ∀ {st : Status} {o : Option Oid}, some (st, o, db) = some r →
      (st = .success → False) → MemberCreated sdk db attrs r := by
    intro st o he hst
    cases he
    exact .failed hst rfl
  simp only [createVlanMember, VlanDb.withVlan] at hr
  split at hr
  · exact hfail hr (by decide)
  split at hr
  · exact hfail hr (by decide)
  next vid hvid =>
  split at hr
  · exact hfail hr (by decide)
  · cases hr
  next v hv =>
  split at hr
  · exact hfail hr (by decide)
  next bpId hbpId =>
  split at hr
  · exact hfail hr (by decide)
  next bp hbp =>
  split at hr
  · exact hfail hr (by decide)
  next htype =>
  split at hr
  · exact hfail hr (by decide)
  next ports hports =>
  split at hr
  · next hadd =>
    split at hr
    · next htag =>
      split at hr
      · cases hr
      · cases hr
        exact .made hvid hv hbpId hbp (not_not.mp htype) hports hadd
          (createMemberTag_success htag) rfl
    · next hst => exact hfail hr hst
  · next hst => exact hfail hr hst

inductive MemberRemoved (sdk : MemberSdk) (db : MemberDb mc) (oid : Oid)
    (r : Status × MemberDb mc) : Prop where
  | failed : r.1 ≠ .success → r.2 = db → MemberRemoved sdk db oid r
  | gone {v : VlanUser} {bp : BridgePort} {ports : List (BitVec 32)} :
      oid.type = ObjectType.vlanMember.bits →
      db.vlan.Live (vlanOid oid.lchip oid.value2) v → memberPorts sdk mc oid.value = some ports →
      forPorts (fun g => if sdk.removePort g = .none then sdk.setTagged g
        else sdk.removePort g) ports = .success →
      db.bridgePorts.lookup (bridgePortOid oid.lchip oid.value) = some bp →
      r = (.success, { db with
        vlan := db.vlan.write (vlanOid oid.lchip oid.value2) (v.unbindMember mc.pm oid.value)
        bridgePorts := db.bridgePorts.insert (bridgePortOid oid.lchip oid.value)
          (bp.unbindVlan oid.value2) }) →
      MemberRemoved sdk db oid r

theorem removeVlanMember_cases {oid : Oid} {r : Status × MemberDb mc}
    (hr : removeVlanMember sdk db oid = some r) :
    MemberRemoved sdk db oid r := by
  have hfail : ∀ {st : Status}, some (st, db) = some r → (st = .success → False) →
      MemberRemoved sdk db oid r := by
    intro st he hst
    cases he
    exact .failed hst rfl
  simp only [removeVlanMember, VlanDb.withVlan] at hr
  split at hr
  · exact hfail hr (by decide)
  next htype =>
  split at hr
  · exact hfail hr (by decide)
  · cases hr
  next v hv =>
  split at hr
  · exact hfail hr (by decide)
  next ports hports =>
  split at hr
  · next hsdk =>
    split at hr
    · cases hr
    next bp hbp =>
    split at hr
    · cases hr
    · cases hr
      exact .gone (not_not.mp htype) hv hports hsdk hbp rfl
  · next hst => exact hfail hr hst

theorem members_write_live {db : VlanDb mc.vlan} {oid : Oid} {v w : VlanUser} {m : MemberBits}
    (hm : w.memberBits = m) (hv : db.Live oid v) :
    (∀ o, (db.write oid w).members o = if o = oid then some m else db.members o) ∧
      ∀ o, (db.write oid w).Stored o ↔ db.Stored o := by
  refine ⟨fun o => by rw [members_write, hm], fun o => ?_⟩
  rw [stored_write]
  constructor
  · rintro (rfl | ho)
    · exact hv.stored
    · exact ho
  · exact .inr

/-- One member comes or goes: what the two records and the system say of it
after the call. -/
structure MemberWrite (s s' : MemberSys mc) (p : BitVec 16) (g : BitVec 32) (m m' : MemberBits)
    (bp bp' : BridgePort) (v : Prop) : Prop where
  members : ∀ o, s'.db.vlan.members o =
    if o = vlanOid mc.vlan.lchip p then some m' else s.db.vlan.members o
  stored : ∀ o, s'.db.vlan.Stored o ↔ s.db.vlan.Stored o
  bridgePorts : s'.db.bridgePorts = s.db.bridgePorts.insert (bridgePortOid mc.vlan.lchip g) bp'
  bit : ∀ g', IsGport mc.pm mc.vlan.lchip g' →
    (m'.bit mc.pm g' ↔ if g' = g then v else m.bit mc.pm g')
  good : m'.Good mc.pm mc.vlan.lchip ∧ m'.size ≤ mc.maxPortNum
  live : ∀ x, x ∈ s'.members ↔ if x = (p, g) then v else x ∈ s.members
  once : ∀ x ∈ s'.created, x ∉ s'.panel
  created : ∀ x, x ∈ s'.created ↔ if x = (p, g) then v else x ∈ s.created
  portType : bp'.portType = bp.portType
  gport : bp'.gport = bp.gport
  bits : ∀ q, q ∈ bp'.vlanMemberBindBits ↔ if q = p then v else q ∈ bp.vlanMemberBindBits
  count : bp'.vlanMemberBindCount =
    BitVec.ofNat 32 bp'.vlanMemberBindBits.card + s'.surplus g
  surplus : ∀ g', g' ≠ g → s'.surplus g' = s.surplus g'

theorem vlanOid_inj' {c : Lchip} {p q : BitVec 16} (h : vlanOid c p ≠ vlanOid c q) : p ≠ q := by
  rintro rfl
  exact h rfl

section Write

variable {s s' : MemberSys mc} {p : BitVec 16} {g : BitVec 32} {m m' : MemberBits}
  {bp bp' : BridgePort} {v : Prop}

/-- The invariant survives such a write. -/
theorem MemberInv.write (h : MemberInv s)
    (hm : s.db.vlan.members (vlanOid mc.vlan.lchip p) = some m)
    (hb : s.db.bridgePorts.lookup (bridgePortOid mc.vlan.lchip g) = some bp)
    (hw : MemberWrite s s' p g m m' bp bp' v) : MemberInv s' := by
  have hg := (h.gport hb).2.1
  have hlook : ∀ o, s'.db.bridgePorts.lookup o =
      if o = bridgePortOid mc.vlan.lchip g then some bp' else s.db.bridgePorts.lookup o := by
    intro o
    rw [hw.bridgePorts, lookup_insert_ite]
  constructor
  case key =>
    intro o ho
    exact h.key o ((hw.stored o).mp ho)
  case good =>
    intro o x hx
    rw [hw.members] at hx
    split at hx
    · cases hx
      exact hw.good
    · exact h.good o x hx
  case bit =>
    intro q x hx g' hg'
    rw [hw.members] at hx
    split at hx
    · next he =>
      cases hx
      have hqp := vlanOid_inj he
      subst hqp
      rw [hw.bit g' hg', hw.live, h.bit q m hm g' hg']
      simp only [Prod.mk.injEq, true_and]
    next hne =>
    have hqp := vlanOid_inj' hne
    rw [hw.live, if_neg (fun he => hqp (Prod.mk.inj he).1)]
    exact h.bit q x hx g' hg'
  case member =>
    intro q g' hx
    rw [hw.live] at hx
    rw [hw.members]
    split at hx
    · next he =>
      cases he
      rw [if_pos rfl]
      exact ⟨hg, rfl⟩
    obtain ⟨hg', hsome⟩ := h.member q g' hx
    refine ⟨hg', ?_⟩
    split
    · rfl
    · exact hsome
  case once => exact hw.once
  case bridge =>
    intro o x hx
    rw [hlook] at hx
    split at hx
    · next he =>
      cases hx
      rw [he, hw.portType, hw.gport]
      exact h.bridge _ bp hb
    · exact h.bridge o x hx
  case bound =>
    intro g' x hx
    rw [hlook] at hx
    split at hx
    · next he =>
      cases hx
      have hgg := bridgePortOid_inj he
      subst hgg
      refine ⟨fun q => ?_, hw.count⟩
      rw [hw.bits, hw.created, (h.bound g' bp hb).1]
      simp only [Prod.mk.injEq, and_true]
    next hne =>
    have hgg : g' ≠ g := by
      rintro rfl
      exact hne rfl
    obtain ⟨hbits, hcount⟩ := h.bound g' x hx
    refine ⟨fun q => ?_, ?_⟩
    · rw [hw.created, if_neg (fun he => hgg (Prod.mk.inj he).2)]
      exact hbits q
    · rw [hw.surplus g' hgg]
      exact hcount
  case there =>
    intro q g' hx
    rw [hlook]
    split
    · rfl
    · next hne =>
      rw [hw.created, if_neg (fun he => hne (by rw [(Prod.mk.inj he).2]))] at hx
      exact h.there q g' hx

end Write

section Ops

variable {s : MemberSys mc}
variable {s' : MemberSys mc}

theorem bindVlan_count {bp : BridgePort} {p : BitVec 16} {mode : BitVec 8} {x : BitVec 32}
    (hp : p ∉ bp.vlanMemberBindBits)
    (hc : bp.vlanMemberBindCount = BitVec.ofNat 32 bp.vlanMemberBindBits.card + x) :
    (bp.bindVlan p mode).vlanMemberBindCount =
      BitVec.ofNat 32 (bp.bindVlan p mode).vlanMemberBindBits.card + (x + 1) := by
  simp only [BridgePort.bindVlan, Finset.insert_idem, Finset.card_insert_of_notMem hp, hc,
    BitVec.ofNat_add]
  ac_rfl

theorem MemberInv.create (h : MemberInv s) {object : MemberSdk × List VlanMemberAttr}
    (hsafe : CreateMemberSafe s object) {status : Status} {o : Option Oid}
    (hr : s.create object = some (status, o, s')) : MemberInv s' := by
  obtain ⟨r, hcall, he⟩ := Option.map_eq_some_iff.mp hr
  cases he
  cases createVlanMember_cases hcall with
  | failed hst hdb =>
    obtain ⟨status, o, db⟩ := r
    cases hdb
    cases status with
    | success => exact absurd rfl hst
    | _ => exact h
  | @made vid bpId v bp ports hvid hv hbpId hbp htype hports hadd htag hr' =>
    obtain ⟨hmode, hnew, hroom⟩ :=
      hsafe vid v bpId bp ports hvid hv hbpId hbp htype hports hadd htag
    rw [if_pos hmode] at hr'
    subst hr'
    obtain ⟨hg, hbpOid⟩ := h.gport_of_type hbp htype
    obtain ⟨-, hvidOid⟩ := h.ptr hv
    generalize vid.value.setWidth 16 = p at hnew hvidOid
    generalize bp.gport.setWidth 32 = g at hnew hg hbpOid
    subst hvidOid hbpOid
    have hnew' : (p, g) ∉ s.created ∧ (p, g) ∉ s.panel := by
      simpa only [MemberSys.members, Finset.mem_union, not_or] using hnew
    have hbit := (h.bit p _ hv.members g hg).not.mpr hnew
    obtain ⟨hgood, hsize⟩ := (h.good _ _ hv.members).1.bind hg hbit
    obtain ⟨hbits, hcount⟩ := h.bound g bp hbp
    have hwrite := members_write_live (memberBits_bindMember v mc.pm g) hv
    refine h.write (v := True) hv.members hbp ⟨hwrite.1, hwrite.2, rfl, ?_, ⟨hgood, ?_⟩, ?_, ?_,
      ?_, rfl, rfl, ?_, ?_, ?_⟩
    · intro g' hg'
      rw [MemberBits.bit_bind hg hg']
      split <;> simp [*]
    · simp only [MemberBits.size, VlanUser.memberBits] at hsize ⊢
      omega
    · intro x
      simp only [MemberSys.members, MemberSys.afterCreate, vlanMemberOf, Finset.mem_union,
        Finset.mem_insert]
      show (x = (p, g) ∨ x ∈ s.created) ∨ x ∈ s.panel ↔ _
      split <;> simp [*]
    · intro x hx
      rcases Finset.mem_insert.mp hx with rfl | hx
      · exact hnew'.2
      · exact h.once x hx
    · intro x
      simp only [MemberSys.afterCreate, vlanMemberOf, Finset.mem_insert]
      show (x = (p, g) ∨ x ∈ s.created) ↔ _
      split <;> simp [*]
    · intro q
      simp only [BridgePort.bindVlan, Finset.insert_idem, Finset.mem_insert]
      split <;> simp [*]
    · show _ = _ + update s.surplus g (s.surplus g + 1) g
      rw [update_self]
      exact bindVlan_count (fun hin => hnew'.1 ((hbits p).mp hin)) hcount
    · intro g' hne
      exact update_of_ne hne ..

theorem MemberInv.lchip (h : MemberInv s) {c : Lchip} {p : BitVec 16} {v : VlanUser}
    (hv : s.db.vlan.Live (vlanOid c p) v) : c = mc.vlan.lchip := by
  have hlchip := congrArg Oid.lchip (h.ptr hv).2
  simpa only [vlanOid, lchip_createObjectId] using hlchip

/-- One member is removed. -/
theorem MemberInv.remove (h : MemberInv s) {object : MemberSdk × Oid}
    (hsafe : RemoveMemberSafe s object) {status : Status}
    (hr : s.remove object = some (status, (), s')) : MemberInv s' := by
  obtain ⟨sdk, oid⟩ := object
  obtain ⟨r, hcall, he⟩ := Option.map_eq_some_iff.mp hr
  cases he
  cases removeVlanMember_cases hcall with
  | failed hst hdb =>
    obtain ⟨status, db⟩ := r
    cases hdb
    cases status with
    | success => exact absurd rfl hst
    | _ => exact h
  | @gone v bp ports htype hv hports hsdk hbp hr' =>
    have hin := (hsafe v ports htype hv hports hsdk).1
    have hc := h.lchip hv
    subst hr'
    rw [hc] at hv hbp ⊢
    have hmem : vlanMemberOf oid = (oid.value2, oid.value) := rfl
    rw [hmem] at hin
    generalize hp : oid.value2 = p at hin hv hmem ⊢
    generalize hg' : oid.value = g at hin hbp hmem ⊢
    have hg := (h.gport hbp).2.1
    have hbit := (h.bit p _ hv.members g hg).mpr hin
    obtain ⟨hgood, hsize⟩ := (h.good _ _ hv.members).1.unbind hbit
    have hroom := (h.good _ _ hv.members).2
    obtain ⟨hbits, hcount⟩ := h.bound g bp hbp
    have hwrite := members_write_live (memberBits_unbindMember v mc.pm g) hv
    refine h.write (v := False) hv.members hbp ⟨hwrite.1, hwrite.2, rfl, ?_, ⟨hgood, ?_⟩, ?_, ?_,
      ?_, rfl, rfl, ?_, ?_, ?_⟩
    · intro g' hg'
      rw [MemberBits.bit_unbind hg hg']
      split <;> simp [*]
    · omega
    · intro x
      simp only [MemberSys.members, MemberSys.afterRemove, hmem, Finset.mem_union, Finset.mem_erase]
      split <;> simp [*]
    · intro x hx hx'
      exact h.once x (Finset.mem_of_mem_erase hx) (Finset.mem_of_mem_erase hx')
    · intro x
      simp only [MemberSys.afterRemove, hmem, Finset.mem_erase]
      split <;> simp [*]
    · intro q
      simp only [BridgePort.unbindVlan, Finset.mem_erase]
      split <;> simp [*]
    · simp only [MemberSys.afterRemove, hmem, hg']
      split
      · next hpanel =>
        -- the bridge port was never told of it
        have hno : p ∉ bp.vlanMemberBindBits := fun hb =>
          h.once (p, g) ((hbits p).mp hb) hpanel
        simp only [BridgePort.unbindVlan, Finset.erase_eq_of_notMem hno, hcount, update_self]
        bv_omega
      next hpanel =>
      have hcreated : (p, g) ∈ s.created :=
        (Finset.mem_union.mp hin).resolve_right hpanel
      have hcard := Finset.card_erase_add_one ((hbits p).mpr hcreated)
      simp only [BridgePort.unbindVlan, hcount, ← hcard, BitVec.ofNat_add]
      bv_omega
    · intro g' hne
      simp only [MemberSys.afterRemove, hmem, hg']
      split
      · exact update_of_ne hne ..
      · rfl

theorem MemberInv.addBridgePort (h : MemberInv s) {g : BitVec 32}
    (hg : IsGport mc.pm mc.vlan.lchip g) (bp : BridgePort) : MemberInv (s.addBridgePort g bp) := by
  simp only [MemberSys.addBridgePort]
  split
  · exact h
  next hnone =>
  refine ⟨h.key, h.good, h.bit, h.member, h.once, ?_, ?_, ?_⟩
  · intro o x hx
    simp only [lookup_insert_ite] at hx
    split at hx
    · next ho =>
      cases hx
      exact ⟨fun _ => ⟨g, hg, ho, rfl⟩, fun _ _ => rfl⟩
    · exact h.bridge o x hx
  · intro g' x hx
    simp only [lookup_insert_ite] at hx
    split at hx
    · next ho =>
      cases hx
      have heq := bridgePortOid_inj ho
      subst heq
      refine ⟨fun p => ⟨fun hp => absurd hp (Finset.notMem_empty p), fun hp => ?_⟩, ?_⟩
      · exact absurd (h.there p g' hp) hnone
      · simp
    next ho =>
    have hne : g' ≠ g := by
      rintro rfl
      exact ho rfl
    simp only [update_of_ne hne]
    exact h.bound g' x hx
  · intro p g' hx
    simp only [lookup_insert_ite]
    split
    · rfl
    · exact h.there p g' hx

theorem MemberInv.removeBridgePort (h : MemberInv s) {g : BitVec 32}
    (hsafe : ∀ x ∈ s.created, x.2 ≠ g) : MemberInv (s.removeBridgePort g) := by
  have hlook : ∀ {o x}, (s.removeBridgePort g).db.bridgePorts.lookup o = some x →
      s.db.bridgePorts.lookup o = some x := by
    intro o x hx
    simp only [MemberSys.removeBridgePort, lookup_erase_ite] at hx
    split at hx
    · cases hx
    · exact hx
  refine ⟨h.key, h.good, h.bit, h.member, h.once, ?_, ?_, ?_⟩
  · intro o x hx
    exact h.bridge o x (hlook hx)
  · intro g' x hx
    exact h.bound g' x (hlook hx)
  · intro p g' hx
    simp only [MemberSys.removeBridgePort, lookup_erase_ite]
    rw [if_neg (fun ho => hsafe _ hx (bridgePortOid_inj ho))]
    exact h.there p g' hx

theorem MemberInv.step (h : MemberInv s) {op : VlanMemberOp} (hsafe : MemberSafe s op)
    (hst : vlanMemberStep s op = some s') : MemberInv s' := by
  cases op with
  | createVlan sdk attrs =>
    obtain ⟨r, hr, rfl⟩ := Option.map_eq_some_iff.mp hst
    exact h.grow (createVlan_members hr)
  | removeVlan sdk oid =>
    obtain ⟨r, hr, rfl⟩ := Option.map_eq_some_iff.mp hst
    exact h.removeVlan hsafe hr
  | createMember sdk attrs =>
    obtain ⟨r, hr, rfl⟩ := Option.map_eq_some_iff.mp hst
    exact h.create hsafe hr
  | removeMember sdk oid =>
    obtain ⟨r, hr, rfl⟩ := Option.map_eq_some_iff.mp hst
    exact h.remove hsafe hr
  | createMembers mode objects =>
    obtain ⟨r, hr, rfl⟩ := Option.map_eq_some_iff.mp hst
    exact bulkLoop_inv (fun _ _ _ _ _ hs hok hf => hs.create hok hf) h hsafe hr
  | removeMembers mode objects =>
    obtain ⟨r, hr, rfl⟩ := Option.map_eq_some_iff.mp hst
    exact bulkLoop_inv (fun _ _ _ _ _ hs hok hf => hs.remove hok hf) h hsafe hr
  | addBridgePort g bp =>
    cases hst
    exact h.addBridgePort hsafe bp
  | removeBridgePort g =>
    cases hst
    exact h.removeBridgePort hsafe

end Ops

/-! ## The start -/

theorem MemberBits.Good.gport_of_bit {m : MemberBits} (h : m.Good mc.pm mc.vlan.lchip) {b : Nat}
    (hb : b ∈ m.ports) : mc.pm.isPort mc.vlan.lchip (mc.pm.gport mc.vlan.lchip b) ∧
      mc.pm.lport (mc.pm.gport mc.vlan.lchip b) = b := by
  obtain ⟨g, hg, rfl⟩ := h.ports b hb
  rw [mc.pm.gport_lport hg]
  exact ⟨hg, rfl⟩

theorem live_write (db : VlanDb mc.vlan) (oid : Oid) (v : VlanUser) : (db.write oid v).Live oid v :=
  AList.lookup_insert db.vlans

theorem vlanAddPanelPorts_bits {vid : Oid} {v v' : VlanUser} {db' : MemberDb mc}
    (hv : db.vlan.Live vid v) (hr : vlanAddPanelPorts sdk mc vid v db panel = (.success, v', db')) :
    db'.vlan.Live vid v' ∧ db'.bridgePorts = db.bridgePorts ∧
      v'.memberBits = { v.memberBits with
        ports := panel.toFinset ∪ v.memberBits.ports } ∧
      (∀ o, o ≠ vid → db'.vlan.members o = db.vlan.members o) ∧
      ∀ o, db'.vlan.Stored o ↔ db.vlan.Stored o := by
  induction panel generalizing v db with
  | nil =>
    cases hr
    exact ⟨hv, rfl, by simp, fun _ _ => rfl, fun _ => Iff.rfl⟩
  | cons b rest ih =>
    simp only [vlanAddPanelPorts] at hr
    split at hr
    · obtain ⟨hlive, hbp, hbits, hothers, hstored⟩ := ih (live_write ..) hr
      refine ⟨hlive, hbp, ?_, fun o ho => ?_, fun o => ?_⟩
      · rw [hbits]
        simp [VlanUser.memberBits]
      · rw [hothers o ho, members_write, if_neg ho]
      · rw [hstored, stored_write]
        constructor
        · rintro (rfl | ho)
          · exact hv.stored
          · exact ho
        · exact .inr
    · next hne =>
      exact absurd (congrArg Prod.fst hr) hne

/-- The bits of VLAN 1 after the start. -/
def panelBits (panel : List Nat) : MemberBits :=
  ⟨panel.toFinset, ∅, BitVec.ofNat 32 panel.length, 0⟩

theorem PanelPorts.good (h : PanelPorts mc panel) : (panelBits panel).Good mc.pm mc.vlan.lchip := by
  have hcard := List.toFinset_card_of_nodup h.nodup
  have hports : ∀ b ∈ panel.toFinset, ∃ g, mc.pm.isPort mc.vlan.lchip g ∧ mc.pm.lport g = b := by
    intro b hb
    exact h.isPort b (List.mem_toFinset.mp hb)
  have hsub : panel.toFinset ⊆ Finset.range 256 := by
    intro b hb
    obtain ⟨g, -, rfl⟩ := hports b hb
    exact Finset.mem_range.mpr (mc.pm.lport_lt g)
  have hle := Finset.card_le_card hsub
  rw [Finset.card_range] at hle
  refine ⟨?_, rfl, hports⟩
  simp only [panelBits, BitVec.toNat_ofNat, hcard]
  omega

/-- A successful start: VLAN 1 has the panel ports, whatever else creation of a
VLAN stores has no members, and no bridge port is told. -/
theorem vlanDbInit_bits {db₀ : MemberDb mc} {vsdk : VlanSdk} {vid : Oid} {vlan : VlanDb mc.vlan}
    (hvlans : db₀.vlan.vlans = ∅)
    (hcreate : createVlan vsdk db₀.vlan [.vlanId 1] = some (.success, some vid, vlan))
    (hinit : vlanDbInit sdk db₀ vsdk panel = some (.success, db)) :
    db.bridgePorts = db₀.bridgePorts ∧
      (∀ o m, db.vlan.members o = some m → m = if o = vid then panelBits panel else .empty) ∧
      (db.vlan.members vid).isSome ∧
      ∀ o, db.vlan.Stored o → ∃ p : BitVec 16, p.toNat < 4096 ∧ o = vlanOid mc.vlan.lchip p := by
  have grown := createVlan_members hcreate
  have hempty : ∀ o m, vlan.members o = some m → m = .empty := by
    intro o m hm
    have hnone : db₀.vlan.members o = none := by simp [VlanDb.members, hvlans]
    rcases grown.members o with he | ⟨-, he⟩
    · cases (he.trans hnone).symm.trans hm
    · cases he.symm.trans hm
      rfl
  have hkey : ∀ o, vlan.Stored o →
      ∃ p : BitVec 16, p.toNat < 4096 ∧ o = vlanOid mc.vlan.lchip p := by
    intro o ho
    rcases grown.stored o ho with ho | ho
    · simp [VlanDb.Stored, hvlans] at ho
    · exact ho
  have hfail : ∀ {st : Status} {d : MemberDb mc}, some (st, d) = some (.success, db) →
      st = .success := fun he => congrArg Prod.fst (Option.some.inj he)
  simp only [vlanDbInit, hcreate] at hinit
  split at hinit
  · split at hinit
    · split at hinit
      · next v hv =>
        split at hinit
        · next v' db' hloop =>
          cases hinit
          have hlive : ({ db₀ with vlan := vlan } : MemberDb mc).vlan.Live _ v := hv
          obtain ⟨-, hbp, hbits, hothers, hstored⟩ := vlanAddPanelPorts_bits hlive hloop
          have hv0 := hempty _ _ hlive.members
          refine ⟨hbp, fun o m hm => ?_, ?_, fun o ho => ?_⟩
          · simp only [members_write] at hm
            split at hm
            · next heq =>
              cases hm
              rw [hv0] at hbits
              simp only [VlanUser.memberBits, MemberBits.empty, Finset.union_empty,
                MemberBits.mk.injEq] at hbits
              obtain ⟨hports, hlags, -, hlagCount⟩ := hbits
              rw [if_pos heq]
              simp only [VlanUser.memberBits, panelBits, hports, hlags, hlagCount]
            next hne =>
            rw [hothers o hne] at hm
            rw [if_neg hne]
            exact hempty o m hm
          · simp [members_write]
          · rcases (stored_write ..).mp ho with rfl | ho
            · exact hkey _ hlive.stored
            · exact hkey o ((hstored o).mp ho)
        · next hne _ => exact absurd (hfail hinit) hne
      · cases hinit
    · next hne => exact absurd (hfail hinit) hne
  · next hne => exact absurd (hfail hinit) hne

theorem PanelPorts.bit (h : PanelPorts mc panel) (hg : IsGport mc.pm mc.vlan.lchip g) :
    (panelBits panel).bit mc.pm g ↔ ∃ b ∈ panel, mc.pm.gport mc.vlan.lchip b = g := by
  have hback : ∀ b ∈ panel, mc.pm.isPort mc.vlan.lchip (mc.pm.gport mc.vlan.lchip b) ∧
      mc.pm.lport (mc.pm.gport mc.vlan.lchip b) = b := fun b hb =>
    h.good.gport_of_bit (List.mem_toFinset.mpr hb)
  rcases hg with hg | ⟨tid, rfl⟩
  · simp only [MemberBits.bit, panelBits, isLinkaggPort_isPort hg, Bool.false_eq_true, if_false,
      List.mem_toFinset]
    constructor
    · intro hb
      exact ⟨_, hb, mc.pm.gport_lport hg⟩
    · rintro ⟨b, hb, rfl⟩
      rw [(hback b hb).2]
      exact hb
  simp only [MemberBits.bit, panelBits, isLinkaggPort_lagGport, if_true, Finset.notMem_empty,
    false_iff]
  rintro ⟨b, hb, he⟩
  exact mc.pm.isPort_lag tid (hback b hb).1 he

/-- The state that `ctc_sai_vlan_db_init` leaves. -/
theorem MemberStart.inv {s : MemberSys mc} (h : MemberStart s) : MemberInv s := by
  obtain ⟨db₀, sdk, vsdk, panel, ptr, vlan, hvlans, hkeys, hfresh, hpanel, hcreate, hinit, hcreated,
    hsp, hsurplus⟩ := h
  obtain ⟨hbps, hmem, hsome, hkey⟩ := vlanDbInit_bits hvlans hcreate hinit
  have hin : ∀ p g, (p, g) ∈ s.members ↔
      p = ptr ∧ ∃ b ∈ panel, mc.pm.gport mc.vlan.lchip b = g := by
    intro p g
    simp only [MemberSys.members, hcreated, hsp, Finset.empty_union, List.mem_toFinset,
      List.mem_map, Prod.mk.injEq]
    constructor
    · rintro ⟨b, hb, rfl, rfl⟩
      exact ⟨rfl, b, hb, rfl⟩
    · rintro ⟨rfl, b, hb, rfl⟩
      exact ⟨b, hb, rfl, rfl⟩
  constructor
  case key => exact hkey
  case good =>
    intro o m hm
    have hm := hmem o m hm
    split at hm
    · subst hm
      refine ⟨hpanel.good, ?_⟩
      simp only [MemberBits.size, panelBits, List.toFinset_card_of_nodup hpanel.nodup,
        Finset.card_empty, Nat.add_zero]
      exact hpanel.length_le
    · subst hm
      exact ⟨MemberBits.good_empty .., Nat.zero_le _⟩
  case bit =>
    intro p m hm g hg
    have hm := hmem _ m hm
    rw [hin]
    split at hm
    · next he =>
      subst hm
      rw [hpanel.bit hg]
      exact (and_iff_right (vlanOid_inj he)).symm
    next hne =>
    subst hm
    refine iff_of_false ?_ ?_
    · intro hb
      simp [MemberBits.bit, MemberBits.empty] at hb
    · rintro ⟨rfl, -⟩
      exact hne rfl
  case member =>
    intro p g hx
    obtain ⟨rfl, b, hb, rfl⟩ := (hin p g).mp hx
    exact ⟨.inl (hpanel.good.gport_of_bit (List.mem_toFinset.mpr hb)).1, hsome⟩
  case once =>
    intro x hx
    rw [hcreated] at hx
    exact absurd hx (Finset.notMem_empty x)
  case bridge =>
    intro o bp hb
    rw [hbps] at hb
    exact hkeys o bp hb
  case bound =>
    intro g bp hb
    rw [hbps] at hb
    obtain ⟨hbits, hcount⟩ := hfresh _ bp hb
    simp [hbits, hcount, hcreated, hsurplus]
  case there =>
    intro p g hx
    rw [hcreated] at hx
    exact absurd hx (Finset.notMem_empty _)

/-! ## MEMBER_LIST -/

section List

variable {s : MemberSys mc}
variable {v : VlanUser}

theorem MemberInv.length_memberList (h : MemberInv s) {o : Oid} (hv : s.db.vlan.Live o v) :
    (vlanMemberList mc o v).length = v.memberBits.size := by
  have hports : ((List.range 256).filter fun b => decide (b ∈ v.vlanMemberPortBindBits)).length =
      v.vlanMemberPortBindBits.card := length_bits (h.good o _ hv.members).1.lt
  simp only [vlanMemberList, List.length_append, List.length_map, length_lagBits, hports]
  rfl

theorem MemberInv.mem_memberList (h : MemberInv s) {p : BitVec 16}
    (hv : s.db.vlan.Live (vlanOid mc.vlan.lchip p) v) (x : Oid) :
    x ∈ vlanMemberList mc (vlanOid mc.vlan.lchip p) v ↔
      ∃ g, (p, g) ∈ s.members ∧ x = vlanMemberOid mc.vlan.lchip p g := by
  have hgood := (h.good _ _ hv.members).1
  have hbit := h.bit p _ hv.members
  have hptr : (vlanOid mc.vlan.lchip p).value.setWidth 16 = p := by
    show (p.setWidth 32).setWidth 16 = p
    bv_omega
  have hlchip : (vlanOid mc.vlan.lchip p).lchip = mc.vlan.lchip := lchip_createObjectId ..
  simp only [vlanMemberList, hptr, hlchip, List.mem_append, List.mem_map]
  constructor
  · rintro (⟨b, hb, rfl⟩ | ⟨b, hb, rfl⟩)
    · have hb := (mem_bits.mp hb).2
      obtain ⟨hg, hl⟩ := hgood.gport_of_bit hb
      refine ⟨_, (hbit _ (.inl hg)).mp ?_, rfl⟩
      simp only [MemberBits.bit, isLinkaggPort_isPort hg, Bool.false_eq_true, if_false, hl]
      exact hb
    · have hb := (mem_bits.mp hb).2
      refine ⟨_, (hbit _ (.inr ⟨_, rfl⟩)).mp ?_, rfl⟩
      simp only [MemberBits.bit, isLinkaggPort_lagGport, if_true, setWidth_lagGport]
      exact hb
  · rintro ⟨g, hin, rfl⟩
    have hg := (h.member p g hin).1
    have hb := (hbit g hg).mpr hin
    simp only [MemberBits.bit] at hb
    rcases hg with hg | ⟨tid, rfl⟩
    · simp only [isLinkaggPort_isPort hg, Bool.false_eq_true, if_false] at hb
      exact .inl ⟨_, mem_bits.mpr ⟨mc.pm.lport_lt g, hb⟩, by rw [mc.pm.gport_lport hg]⟩
    simp only [isLinkaggPort_lagGport, if_true, setWidth_lagGport] at hb
    have htid : BitVec.ofNat 8 tid.toNat = tid := by
      rw [BitVec.ofNat_toNat, BitVec.setWidth_eq]
    exact .inr ⟨tid.toNat, mem_bits.mpr ⟨tid.isLt, by rwa [htid]⟩, by rw [htid]⟩

theorem MemberInv.nodup_memberList (h : MemberInv s) {o : Oid} (hv : s.db.vlan.Live o v) :
    (vlanMemberList mc o v).Nodup := by
  have hgood := (h.good o _ hv.members).1
  refine List.nodup_append.mpr ⟨?_, ?_, ?_⟩
  · refine List.Nodup.map_on ?_ (List.nodup_range.filter _)
    intro b hb b' hb' he
    have hg := congrArg mc.pm.lport (congrArg Oid.value he)
    simp only [vlanMemberOid, value_createObjectId] at hg
    rwa [(hgood.gport_of_bit (mem_bits.mp hb).2).2,
      (hgood.gport_of_bit (mem_bits.mp hb').2).2] at hg
  · refine List.Nodup.map_on ?_ (List.nodup_range.filter _)
    intro b hb b' hb' he
    exact lagGport_ofNat_inj (mem_bits.mp hb).1 (mem_bits.mp hb').1 (congrArg Oid.value he)
  · intro x hx y hy he
    obtain ⟨b, hb, rfl⟩ := List.mem_map.mp hx
    obtain ⟨b', -, rfl⟩ := List.mem_map.mp hy
    -- a port of the chip is no LAG
    exact mc.pm.isPort_lag _ (hgood.gport_of_bit (mem_bits.mp hb).2).1 (congrArg Oid.value he)

/-- The VLANs' side of the invariant. -/
theorem MemberInv.vlanSide (h : MemberInv s) : VlanSideOk s where
  bits p v hv g hg := h.bit p _ hv.members g hg
  port_count o v hv := (h.good o _ hv.members).1.portCount
  lag_count o v hv := (h.good o _ hv.members).1.lagCount
  list sdk o v list hv hgchip hcap hmem hle := by
    have hlen := h.length_memberList hv
    have hroom := (h.good o _ hv.members).2
    obtain ⟨-, ho⟩ := h.ptr hv
    refine ⟨vlanMemberList mc o v, ?_, h.nodup_memberList hv, fun x => ?_⟩
    · simp only [getVlanMemberList, hv.withVlan, hgchip, hcap, hmem]
      have hle' : (vlanMemberList mc o v).length ≤ list.count := by
        rw [hlen]
        exact hle
      simp only [mappingErrorCtc, Bool.not_true, Bool.false_eq_true, if_false, fillObjectList]
      rw [if_neg (by omega), if_neg (by omega)]
    · rw [ho]
      rw [ho] at hv
      rw [h.mem_memberList hv]
      constructor
      · rintro ⟨g, hg, rfl⟩
        exact ⟨_, g, hg, rfl, rfl⟩
      · rintro ⟨p, g, hg, hp, rfl⟩
        rw [vlanOid_inj hp]
        exact ⟨g, hg, rfl⟩
  no_overrun sdk o v list hv := by
    have hlen := h.length_memberList hv
    have hroom := (h.good o _ hv.members).2
    simp only [getVlanMemberList, hv.withVlan]
    split
    · split
      · split
        · rintro ⟨⟩
        · rw [if_neg (by omega)]
          rintro ⟨⟩
      · rintro ⟨⟩
    · rintro ⟨⟩
  gone o bp hb ht p hp := by
    obtain ⟨hg, ho⟩ := h.gport_of_type hb ht
    rw [ho] at hb
    have hin := ((h.bound _ bp hb).1 p).mp hp
    obtain ⟨m, hm⟩ := Option.isSome_iff_exists.mp (h.member p _ (Finset.mem_union_left _ hin)).2
    obtain ⟨v, hv, -⟩ := VlanDb.live_of_members hm
    exact ⟨v, hv⟩

theorem MemberInv.bridgeSide (h : MemberInv s) {g : BitVec 32} {bp : BridgePort}
    (hb : s.db.bridgePorts.lookup (bridgePortOid mc.vlan.lchip g) = some bp) :
    BridgeSideOk s g bp ↔ s.Told g := by
  obtain ⟨hbits, hcount⟩ := h.bound g bp hb
  have hcard := card_bitVec_le bp.vlanMemberBindBits
  have hnat : bp.vlanMemberBindCount.toNat = bp.vlanMemberBindBits.card ↔ s.surplus g = 0 := by
    constructor <;> intro he <;> bv_omega
  simp only [BridgeSideOk, MemberSys.Told, hnat]
  refine and_congr_left' ⟨fun hall p hp => ?_, fun hno p => ?_⟩
  · exact h.once _ ((hbits p).mp ((hall p).mpr (Finset.mem_union_right _ hp))) hp
  · rw [hbits, MemberSys.members, Finset.mem_union]
    exact (or_iff_left (hno p)).symm

end List

/-- In a run that creates a member once, with its tagging mode and while
MEMBER_LIST has room, removes one that is there, and removes a VLAN or a bridge
port that no creation has left a member on, the VLANs' side agrees with the live
members in every state; the bridge ports' side does too exactly where each of
them was told of every member and has no creation left uncounted. -/
theorem vlanMembers_of_run {s : MemberSys mc}
    (h : Reachable MemberStart MemberSafe vlanMemberStep s) :
    VlanSideOk s ∧ (MemberOk s ↔ ∀ g,
      (s.db.bridgePorts.lookup (bridgePortOid mc.vlan.lchip g)).isSome → s.Told g) := by
  have hi : MemberInv s := Reachable.inv (fun _ hs => hs.inv)
    (fun _ _ _ hs hop hst => hs.step hop hst) h
  refine ⟨hi.vlanSide, ?_⟩
  constructor
  · intro hok g hg
    obtain ⟨bp, hbp⟩ := Option.isSome_iff_exists.mp hg
    exact (hi.bridgeSide hbp).mp (hok.bridge g bp hbp)
  · intro htold
    refine ⟨hi.vlanSide, fun g bp hbp => ?_⟩
    exact (hi.bridgeSide hbp).mpr (htold g (by rw [hbp]; rfl))

/-! ## Two runs -/

/-- Chip 0 with eight VLANs and 64 ports. -/
def MemberChip.plain : MemberChip where
  vlan := .plain
  pm := .plain
  gport_lt (h : _ < 256) := Nat.lt_trans h (by decide)
  maxPortNum := 64

/-- The SDK and the memory that give all they are asked for. -/
def MemberSdk.ok : MemberSdk :=
  ⟨fun _ => .none, fun _ => .none, fun _ => .none, .none, .none, .none, true, fun _ => none⟩

def MemberDb.blank : MemberDb .plain := ⟨.threeStps, ∅⟩

/-- The state after the start with some panel ports. -/
def MemberSys.initial (panel : List Nat) : MemberSys .plain where
  db := ((vlanDbInit .ok MemberDb.blank .ok panel).map Prod.snd).getD .blank
  created := ∅
  panel := (panel.map fun b => ((1 : BitVec 16), BitVec.ofNat 32 b)).toFinset
  surplus _ := 0

theorem PanelPorts.three : PanelPorts .plain [3] := by
  refine ⟨by decide, fun b hb => ⟨3, ?_, ?_⟩, by decide⟩
  · show (3 : BitVec 32).toNat < 256
    decide
  · cases List.mem_singleton.mp hb
    rfl

theorem BridgePortKeys.blank : BridgePortKeys MemberDb.blank := by
  intro o bp hb
  simp [MemberDb.blank] at hb

theorem MemberStart.three : MemberStart (MemberSys.initial [3]) := by
  refine ⟨.blank, .ok, .ok, [3], 1, _, rfl, .blank, ?_, .three, rfl, rfl, rfl, rfl, rfl⟩
  intro o bp hb
  simp [MemberDb.blank] at hb

/-- Port 3 in VLAN 1, tagged. -/
def portThree : List VlanMemberAttr :=
  [.vlanId (vlanOid 0 1), .bridgePortId (bridgePortOid 0 3), .taggingMode 1]

/-- Port 3 leaves VLAN 1, of which its bridge port was never told, and is made a
member of it again: the count is right. -/
theorem vlanMembers_of_run_three : ∃ s : MemberSys .plain, MemberOk s ∧
    ((1 : BitVec 16), (3 : BitVec 32)) ∈ s.created ∧ s.panel = ∅ := by
  have r₀ : Reachable MemberStart MemberSafe vlanMemberStep (MemberSys.initial [3]) := .start .three
  have r₁ := r₀.next (.addBridgePort 3 .zero) (by
    show IsGport _ _ _
    refine .inl ?_
    show (3 : BitVec 32).toNat < 256
    decide) rfl
  have r₂ := r₁.next (.removeMember .ok (vlanMemberOid 0 1 3)) (by
    intro _ _ _ _ _ _
    decide) rfl
  have r₃ := r₂.next (.createMember .ok portThree) (by
    rintro _ _ _ _ _ ⟨⟩ hv ⟨⟩ hbp - - - -
    cases hv
    cases hbp
    decide) rfl
  refine ⟨_, (vlanMembers_of_run r₃).2.mpr ?_, by decide, by decide⟩
  intro g _
  refine ⟨fun p => Finset.notMem_empty _, ?_⟩
  show update (update (update (fun _ => (0 : BitVec 32)) 3 0) 3 (0 - 1)) 3 (0 - 1 + 1) g = 0
  simp only [update_idem, update_apply]
  split <;> rfl

theorem MemberStart.bare : MemberStart (MemberSys.initial []) := by
  refine ⟨.blank, .ok, .ok, [], 1, _, rfl, .blank, ?_, ⟨.nil, nofun, Nat.zero_le _⟩, rfl, rfl, rfl,
    rfl, rfl⟩
  intro o bp hb
  simp [MemberDb.blank] at hb

/-- Port 3 is made a member of VLAN 1, once, and its bridge port counts two. -/
theorem vlanMembers_not_every_run : ¬ ∀ (mc : MemberChip) (s : MemberSys mc),
    Reachable MemberStart anyStep vlanMemberStep s → MemberOk s := by
  intro h
  have r₀ : Reachable MemberStart anyStep vlanMemberStep (MemberSys.initial []) := .start .bare
  have r₁ := r₀.next (.addBridgePort 3 .zero) trivial rfl
  have r₂ := r₁.next (.createMember .ok portThree) trivial rfl
  have hcount := ((h _ _ r₂).bridge 3 _ rfl).2
  revert hcount
  decide

end CtcSai
