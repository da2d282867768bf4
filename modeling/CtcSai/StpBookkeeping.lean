/-
# `StpBookkeeping` — counts, bitmaps and objects of STP

Counts agree with bitmaps, and bitmaps with objects, in runs that create an STP
port once, remove one that is there, bind a VLAN whose bit is clear, and remove
an instance that nothing uses.
-/
import CtcSai.Stp
import CtcSai.Lib.Run

namespace CtcSai

open IdPool KeyedTable Runs Table

variable {ch : StpChip}
variable {g g' : BitVec 32} {pm : PortMap} {c : Lchip}

/-! ## The system -/

inductive StpOp where
  | createStp (sdk : StpSdk)
  | removeStp (oid : Oid)
  | createPort (sdk : StpSdk) (attrs : List StpPortAttr)
  | removePort (sdk : StpSdk) (oid : Oid)
  | createPorts (mode : BulkOpErrorMode) (objects : List (StpSdk × List StpPortAttr))
  | removePorts (mode : BulkOpErrorMode) (objects : List (StpSdk × Oid))
  | bindVlan (sdk : StpSdk) (vlanId : BitVec 12) (oid : Oid)
  | removeVlan (sdk : StpSdk) (vlanId : BitVec 12)

def stpStep (db : StpDb ch) : StpOp → Option (StpDb ch)
  | .createStp sdk => some (createStp sdk db).2.2
  | .removeStp oid => some (removeStp db oid).2
  | .createPort sdk attrs => some (createStpPort sdk db attrs).2.2
  | .removePort sdk oid => (removeStpPort sdk db oid).map Prod.snd
  | .createPorts mode objects => (createStpPorts db mode objects).map Prod.snd
  | .removePorts mode objects => (removeStpPorts db mode objects).map Prod.snd
  | .bindVlan sdk vlanId oid => some (vlanSetStpInstance sdk db vlanId oid).2
  | .removeVlan sdk vlanId => some (vlanRemoveStp sdk db vlanId).2

/-- A panel port of the chip, or a LAG. -/
def IsStpGport (ch : StpChip) (g : BitVec 32) : Prop :=
  ch.pm.isPort ch.lchip g ∨ ∃ tid, g = lagGport tid

/-- No instance, no STP port and no VLAN; bridge ports of type PORT stand for
ports of the chip and for LAGs. -/
structure StpStart (db : StpDb ch) : Prop where
  stps : db.stps = ∅
  stpPorts : db.stpPorts = ∅
  vlanStp : ∀ v, db.vlanStp v = none
  pool : db.pool = .empty _
  bridgePorts : ∀ o bp, db.bridgePorts.lookup o = some bp → bp.portType = .port →
    IsStpGport ch bp.gport

/-- A live STP port. -/
def StpDb.Live (db : StpDb ch) (oid : Oid) : Prop := (db.stpPorts.lookup oid).isSome

/-! ## What should hold -/

/-- Counts, bitmaps, lists and objects agree. -/
structure StpOk (db : StpDb ch) : Prop where
  vlan_count : ∀ o stp, db.stps.lookup o = some stp →
    stp.vlanBindCount.toNat = stp.vlanBindBits.card
  port_count : ∀ o stp, db.stps.lookup o = some stp →
    stp.portBindCount.toNat = stp.portBindBits.card + stp.lagBindBits.card
  /-- PORT_LIST returns the ids of the live STP ports of the instance. -/
  port_list : ∀ sdk o stp list, db.stps.lookup o = some stp → sdk.mem .portList = true →
    stp.portBindCount.toNat ≤ list.count →
      ∃ l, getStpPortList sdk db o list = some (.success, ⟨l.length, l⟩) ∧ l.Nodup ∧
        ∀ x, x ∈ l ↔ db.Live x ∧ x.value2 = o.value.setWidth 16
  /-- It never writes past its buffer. -/
  no_overflow : ∀ sdk o list, getStpPortList sdk db o list ≠ none
  /-- The instance of a live STP port has not been removed. -/
  port_stp : ∀ x, db.Live x → (db.stps.lookup (stpOid ch.lchip (x.value2.setWidth 32))).isSome
  /-- Neither has that of a VLAN. -/
  vlan_stp : ∀ v id, db.vlanStp v = some id →
    (db.stps.lookup (stpOid ch.lchip (id.setWidth 32))).isSome

/-! ## The condition -/

/-- A creation that sets a bit has its memory, and finds no such object. -/
def CreatePortSafe (db : StpDb ch) (object : StpSdk × List StpPortAttr) : Prop :=
  ∀ stpId bpId s bp, findAttribInList StpPortAttr.stp? object.2 = some stpId →
    findAttribInList StpPortAttr.bridgePort? object.2 = some bpId →
    findAttribInList StpPortAttr.state? object.2 = some s → (stpMapCtcPortState s).isSome →
    db.bridgePorts.lookup bpId = some bp → bp.portType = .port →
    (db.stps.lookup stpId).isSome → @setStateGport ch object.1 bp.gport = .success →
      object.1.mem .stpPort = true ∧ object.1.mem .stpPortNode = true ∧
        ¬ db.Live (stpPortOid ch.lchip stpId.value bp.gport)

/-- A removal that clears a bit finds the object. -/
def RemovePortSafe (db : StpDb ch) (object : StpSdk × Oid) : Prop :=
  (db.stps.lookup (stpOid object.2.lchip (object.2.value2.setWidth 32))).isSome →
    @setStateGport ch object.1 object.2.value = .success → db.Live object.2

def StpSafe (db : StpDb ch) : StpOp → Prop
  | .createStp _ => True
  -- an instance that its own test lets go has no STP port, and 0 has no VLAN
  | .removeStp oid => ∀ stp, db.stps.lookup oid = some stp → stp.vlanBindCount = 0 →
      (∀ x, db.Live x → x.value2 ≠ oid.value.setWidth 16) ∧
        (oid.value = 0 → ∀ v, db.vlanStp v ≠ some 0)
  | .createPort sdk attrs => CreatePortSafe db (sdk, attrs)
  | .removePort sdk oid => RemovePortSafe db (sdk, oid)
  | .createPorts mode objects =>
    BulkAdmitted (fun db object => some (createStpPort object.1 db object.2)) mode
      CreatePortSafe db objects
  | .removePorts mode objects =>
    BulkAdmitted (fun db object => (removeStpPort object.1 db object.2).map fun r => (r.1, (), r.2))
      mode RemovePortSafe db objects
  | .bindVlan sdk vlanId oid => ∀ stp, db.stps.lookup oid = some stp → oid.value ≠ 0 →
      sdk.setVlanStpid = .none → vlanId ∉ stp.vlanBindBits
  | .removeVlan sdk vlanId => ∀ id, db.vlanStp vlanId = some id → id ≠ 0 →
      sdk.destroyVlan = .none

/-! ## Ports and LAGs -/

theorem isLinkaggPort_lagGport (tid : BitVec 8) : isLinkaggPort (lagGport tid) = true := by
  unfold isLinkaggPort lagGport
  refine decide_eq_true (BitVec.eq_of_toNat_eq ?_)
  rw [BitVec.toNat_ushiftRight, BitVec.toNat_add, BitVec.toNat_setWidth, Nat.shiftRight_eq_div_pow]
  show (0x1f00 + tid.toNat % 2 ^ 32) % 2 ^ 32 / 2 ^ 8 = 31
  omega

theorem setWidth_lagGport (tid : BitVec 8) : (lagGport tid).setWidth 8 = tid := by
  unfold lagGport
  bv_omega

theorem lagGport_ofNat_inj {b b' : Nat} (hb : b < 256) (hb' : b' < 256)
    (h : lagGport (BitVec.ofNat 8 b) = lagGport (BitVec.ofNat 8 b')) : b = b' := by
  have ht := congrArg (BitVec.setWidth 8) h
  rw [setWidth_lagGport, setWidth_lagGport] at ht
  have hn := congrArg BitVec.toNat ht
  rwa [BitVec.toNat_ofNat, BitVec.toNat_ofNat, Nat.mod_eq_of_lt hb, Nat.mod_eq_of_lt hb'] at hn

theorem lagGport_of_isLinkagg (h : isLinkaggPort g = true) : g = lagGport (g.setWidth 8) := by
  have hs : g.toNat / 256 = 31 := by
    have := congrArg BitVec.toNat (of_decide_eq_true h)
    rwa [BitVec.toNat_ushiftRight, Nat.shiftRight_eq_div_pow] at this
  unfold lagGport
  bv_omega

theorem isLinkaggPort_isPort (h : pm.isPort c g) : isLinkaggPort g = false := by
  cases hl : isLinkaggPort g with
  | false => rfl
  | true => exact absurd (lagGport_of_isLinkagg hl) (pm.isPort_lag _ h)

/-- The bit of a port or a LAG. -/
def StpInfo.bit (stp : StpInfo) (pm : PortMap) (g : BitVec 32) : Prop :=
  if isLinkaggPort g then g.setWidth 8 ∈ stp.lagBindBits else pm.lport g ∈ stp.portBindBits

/-- A panel port of a chip, or a LAG. -/
def IsGport (pm : PortMap) (c : Lchip) (g : BitVec 32) : Prop :=
  pm.isPort c g ∨ ∃ tid, g = lagGport tid

theorem IsGport.eq_of (h : IsGport pm c g) (h' : IsGport pm c g')
    (hl : isLinkaggPort g = isLinkaggPort g')
    (he : if isLinkaggPort g then g.setWidth 8 = g'.setWidth 8
      else pm.lport g = pm.lport g') : g = g' := by
  split at he
  · next hg =>
    rw [lagGport_of_isLinkagg hg, he, ← lagGport_of_isLinkagg (hl ▸ hg)]
  next hg =>
  have hport : ∀ {x}, IsGport pm c x → ¬ isLinkaggPort x = true → pm.isPort c x := by
    rintro x (hx | ⟨tid, rfl⟩) hn
    · exact hx
    · exact absurd (isLinkaggPort_lagGport tid) hn
  rw [← pm.gport_lport (hport h hg), he, pm.gport_lport (hport h' (hl ▸ hg))]

theorem IsGport.lag_eq_iff (h : IsGport pm c g) (h' : IsGport pm c g') (hg : isLinkaggPort g = true)
    (hg' : isLinkaggPort g' = true) :
    g'.setWidth 8 = g.setWidth 8 ↔ g' = g :=
  ⟨fun he => h'.eq_of h (hg'.trans hg.symm) (by rw [if_pos hg']; exact he), fun he => by rw [he]⟩

theorem IsGport.lport_eq_iff (h : IsGport pm c g) (h' : IsGport pm c g')
    (hg : isLinkaggPort g = false) (hg' : isLinkaggPort g' = false) :
    pm.lport g' = pm.lport g ↔ g' = g :=
  ⟨fun he => h'.eq_of h (hg'.trans hg.symm) (by rw [hg']; exact he), fun he => by rw [he]⟩

theorem bit_bindPort (stp : StpInfo) (h : IsStpGport ch g) (h' : IsStpGport ch g') :
    (stp.bindPort ch.pm g).bit ch.pm g' ↔ g' = g ∨ stp.bit ch.pm g' := by
  unfold StpInfo.bindPort StpInfo.bit
  cases hg : isLinkaggPort g <;> cases hg' : isLinkaggPort g'
  · simp [IsGport.lport_eq_iff h h' hg hg']
  · simp [show g' ≠ g by rintro rfl; simp [hg] at hg']
  · simp [show g' ≠ g by rintro rfl; simp [hg] at hg']
  · simp [IsGport.lag_eq_iff h h' hg hg']

theorem bit_unbindPort (stp : StpInfo) (h : IsStpGport ch g) (h' : IsStpGport ch g') :
    (stp.unbindPort ch.pm g).bit ch.pm g' ↔ g' ≠ g ∧ stp.bit ch.pm g' := by
  unfold StpInfo.unbindPort StpInfo.bit
  cases hg : isLinkaggPort g <;> cases hg' : isLinkaggPort g'
  · simp [IsGport.lport_eq_iff h h' hg hg']
  · simp [show g' ≠ g by rintro rfl; simp [hg] at hg']
  · simp [show g' ≠ g by rintro rfl; simp [hg] at hg']
  · simp [IsGport.lag_eq_iff h h' hg hg']

/-! ## Counts -/

theorem toNat_add_one {c : BitVec 32} {n : Nat} (h : c.toNat = n) (hn : n + 1 < 2 ^ 32) :
    (c + 1).toNat = n + 1 := by
  bv_omega

theorem toNat_sub_one {c : BitVec 32} {n : Nat} (h : c.toNat = n + 1) : (c - 1).toNat = n := by
  bv_omega

theorem card_bitVec_le {w : Nat} (s : Finset (BitVec w)) : s.card ≤ 2 ^ w := by
  have hinj : Set.InjOn BitVec.toNat (s : Set (BitVec w)) :=
    fun _ _ _ _ he => BitVec.eq_of_toNat_eq he
  have hle := Finset.card_le_card_of_injOn BitVec.toNat
    (fun x _ => Finset.mem_coe.mpr (Finset.mem_range.mpr x.isLt)) hinj
  rwa [Finset.card_range] at hle

/-- The ports and LAGs whose bit is set. -/
def StpInfo.bound (stp : StpInfo) : Nat := stp.portBindBits.card + stp.lagBindBits.card

theorem bound_bindPort {stp : StpInfo} (h : ¬ stp.bit pm g) :
    (stp.bindPort pm g).bound = stp.bound + 1 := by
  unfold StpInfo.bit at h
  unfold StpInfo.bindPort StpInfo.bound
  split at h
  · next hg =>
    rw [if_pos hg]
    have := Finset.card_insert_of_notMem h
    dsimp only
    omega
  next hg =>
  rw [if_neg hg]
  have := Finset.card_insert_of_notMem h
  dsimp only
  omega

theorem bound_unbindPort {stp : StpInfo} (h : stp.bit pm g) :
    (stp.unbindPort pm g).bound + 1 = stp.bound := by
  unfold StpInfo.bit at h
  unfold StpInfo.unbindPort StpInfo.bound
  split at h
  · next hg =>
    have := Finset.card_erase_add_one h
    rw [if_pos hg]
    dsimp only
    omega
  next hg =>
  have := Finset.card_erase_add_one h
  rw [if_neg hg]
  dsimp only
  omega

theorem portBindCount_bindPort (stp : StpInfo) (pm : PortMap) (g : BitVec 32) :
    (stp.bindPort pm g).portBindCount = stp.portBindCount + 1 := by
  unfold StpInfo.bindPort
  split <;> rfl

theorem portBindCount_unbindPort (stp : StpInfo) (pm : PortMap) (g : BitVec 32) :
    (stp.unbindPort pm g).portBindCount = stp.portBindCount - 1 := by
  unfold StpInfo.unbindPort
  split <;> rfl

/-! ## The invariant -/

/-- A record whose counts are those of its bitmaps. -/
structure StpInfo.Counted (stp : StpInfo) : Prop where
  vlan : stp.vlanBindCount.toNat = stp.vlanBindBits.card
  port : stp.portBindCount.toNat = stp.bound

/-- What holds in every state of an admitted run. -/
structure StpInv (db : StpDb ch) : Prop where
  stp_id : ∀ o stp, db.stps.lookup o = some stp →
    o = stpOid ch.lchip o.value ∧ o.value.toNat ∈ db.pool.used
  port_id : ∀ x, db.Live x → ∃ i g, IsStpGport ch g ∧ x = stpPortOid ch.lchip i g ∧
    (db.stps.lookup (stpOid ch.lchip i)).isSome
  counted : ∀ o stp, db.stps.lookup o = some stp → stp.Counted
  bit : ∀ o stp, db.stps.lookup o = some stp → ∀ g, IsStpGport ch g →
    (stp.bit ch.pm g ↔ db.Live (stpPortOid ch.lchip o.value g))
  /-- Only ports of the chip have a bit. -/
  port_bit : ∀ o stp, db.stps.lookup o = some stp → ∀ b ∈ stp.portBindBits,
    ∃ g, ch.pm.isPort ch.lchip g ∧ ch.pm.lport g = b
  vlan : ∀ v id, db.vlanStp v = some id → ∃ stp,
    db.stps.lookup (stpOid ch.lchip (id.setWidth 32)) = some stp ∧
      (id ≠ 0 → v ∈ stp.vlanBindBits)
  bridge : ∀ o bp, db.bridgePorts.lookup o = some bp → bp.portType = .port →
    IsStpGport ch bp.gport

/-- An instance id has seven bits. -/
theorem StpChip.lt_of_mem {p : Pool ch.ids} {i : Nat} (h : i ∈ p.used) : i < 128 :=
  Nat.lt_of_lt_of_le (Finset.mem_Ico.mp (p.inRange h)).2 ch.ids_top

section Inv

variable {db : StpDb ch} {o : Oid} {stp : StpInfo}
variable {g : BitVec 32} {db' : StpDb ch}

theorem StpInv.lt (h : StpInv db) (hs : db.stps.lookup o = some stp) : o.value.toNat < 128 :=
  StpChip.lt_of_mem (h.stp_id o stp hs).2

theorem value_stpOid (c : Lchip) (i : BitVec 32) : (stpOid c i).value = i := rfl

theorem stpPortOid_inj {c : Lchip} {i j g' : BitVec 32} (hi : i.toNat < 128) (hj : j.toNat < 128)
    (h : stpPortOid c i g = stpPortOid c j g') : i = j ∧ g = g' := by
  have hv : i.setWidth 16 = j.setWidth 16 := congrArg Oid.value2 h
  have hg : g = g' := congrArg Oid.value h
  bv_omega

/-- The record of one instance is written, and only STP ports and VLANs that
name it come or go. -/
structure StpWrite (db db' : StpDb ch) (o : Oid) (stp' : StpInfo) : Prop where
  stps : db'.stps = db.stps.insert o stp'
  stp_id : o = stpOid ch.lchip o.value ∧ o.value.toNat ∈ db'.pool.used
  used : db.pool.used ⊆ db'.pool.used
  counted : stp'.Counted
  live : ∀ x, db'.Live x → db.Live x ∨ ∃ g, IsStpGport ch g ∧ x = stpPortOid ch.lchip o.value g
  others : ∀ i g, i.toNat < 128 → i ≠ o.value →
    (db'.Live (stpPortOid ch.lchip i g) ↔ db.Live (stpPortOid ch.lchip i g))
  bit : ∀ g, IsStpGport ch g → (stp'.bit ch.pm g ↔ db'.Live (stpPortOid ch.lchip o.value g))
  port_bit : ∀ b ∈ stp'.portBindBits, ∃ g, ch.pm.isPort ch.lchip g ∧ ch.pm.lport g = b
  vlan : ∀ v id, db'.vlanStp v = some id →
    if stpOid ch.lchip (id.setWidth 32) = o then id ≠ 0 → v ∈ stp'.vlanBindBits
    else db.vlanStp v = some id
  bridge : ∀ o bp, db'.bridgePorts.lookup o = some bp → bp.portType = .port →
    IsStpGport ch bp.gport

/-- The invariant survives such a write. -/
theorem StpInv.write (h : StpInv db) {db' : StpDb ch} {stp' : StpInfo}
    (hw : StpWrite db db' o stp') : StpInv db' := by
  have hself : db'.stps.lookup o = some stp' := by
    rw [hw.stps]
    exact AList.lookup_insert _
  refine ⟨?_, ?_, ?_, ?_, ?_, ?_, hw.bridge⟩
  · rw [hw.stps]
    exact forall_insert hw.stp_id fun x y hx => (h.stp_id x y hx).imp id fun hu => hw.used hu
  · intro x hx
    rcases hw.live x hx with hx | ⟨g, hg, rfl⟩
    · obtain ⟨i, g, hg, he, hi⟩ := h.port_id x hx
      exact ⟨i, g, hg, he, by rw [hw.stps]; exact isSome_insert hi _ _⟩
    · exact ⟨o.value, g, hg, rfl, by rw [← hw.stp_id.1, hself]; rfl⟩
  · rw [hw.stps]
    exact forall_insert hw.counted h.counted
  · intro x y hx g hg
    rw [hw.stps] at hx
    rcases of_lookup_insert hx with ⟨rfl, rfl⟩ | ⟨hne, hx⟩
    · exact hw.bit g hg
    · rw [hw.others _ _ (h.lt hx) (fun he => hne ?_), h.bit x y hx g hg]
      rw [(h.stp_id x y hx).1, he, ← hw.stp_id.1]
  · rw [hw.stps]
    exact forall_insert hw.port_bit h.port_bit
  · intro v id hv
    have hvlan := hw.vlan v id hv
    split at hvlan
    · next he => exact ⟨stp', by rw [he]; exact hself, hvlan⟩
    next hne =>
    obtain ⟨y, hy, hbit⟩ := h.vlan v id hvlan
    refine ⟨y, ?_, hbit⟩
    rw [hw.stps, lookup_insert_ite, if_neg hne]
    exact hy

/-- A VLAN of the instance has its bit. -/
theorem StpInv.vlan_bit (h : StpInv db) (hs : db.stps.lookup o = some stp) {v : BitVec 12}
    {id : BitVec 8} (hv : db.vlanStp v = some id) (ho : stpOid ch.lchip (id.setWidth 32) = o)
    (hid : id ≠ 0) : v ∈ stp.vlanBindBits := by
  obtain ⟨y, hy, hbit⟩ := h.vlan v id hv
  rw [ho, hs] at hy
  cases hy
  exact hbit hid

theorem StpInv.bound_lt (h : StpInv db) (hs : db.stps.lookup o = some stp) :
    stp.bound + 1 < 2 ^ 32 := by
  have hport : stp.portBindBits ⊆ Finset.range 256 := by
    intro b hb
    obtain ⟨g, -, rfl⟩ := h.port_bit o stp hs b hb
    exact Finset.mem_range.mpr (ch.pm.lport_lt g)
  have hp := Finset.card_le_card hport
  rw [Finset.card_range] at hp
  have hl := card_bitVec_le stp.lagBindBits
  unfold StpInfo.bound
  omega

/-- One STP port comes or goes, with its bit. -/
theorem StpInv.writePort (h : StpInv db) {stp' : StpInfo} {v : Prop}
    (hs : db.stps.lookup o = some stp) (hg : IsStpGport ch g)
    (hstps : db'.stps = db.stps.insert o stp')
    (hlive : ∀ x, db'.Live x ↔ if x = stpPortOid ch.lchip o.value g then v else db.Live x)
    (hbit : ∀ g', IsStpGport ch g' → (stp'.bit ch.pm g' ↔ if g' = g then v else stp.bit ch.pm g'))
    (hport : ∀ b ∈ stp'.portBindBits, b ∈ stp.portBindBits ∨
      isLinkaggPort g = false ∧ b = ch.pm.lport g)
    (hvlan : stp'.vlanBindBits = stp.vlanBindBits ∧ stp'.vlanBindCount = stp.vlanBindCount)
    (hcount : stp'.portBindCount.toNat = stp'.bound)
    (hrest : db'.vlanStp = db.vlanStp ∧ db'.pool = db.pool)
    (hbridge : ∀ o bp, db'.bridgePorts.lookup o = some bp → bp.portType = .port →
      IsStpGport ch bp.gport) : StpInv db' := by
  have hid := h.stp_id o stp hs
  refine h.write ⟨hstps, by rw [hrest.2]; exact hid, by rw [hrest.2], ⟨?_, hcount⟩, fun x hx => ?_,
    fun i g' hi hne => ?_, fun g' hg' => ?_, fun b hb => ?_, fun v' id hv => ?_, hbridge⟩
  · rw [hvlan.1, hvlan.2]
    exact (h.counted o stp hs).vlan
  · rw [hlive] at hx
    split at hx
    · next he => exact .inr ⟨g, hg, he⟩
    · exact .inl hx
  · rw [hlive, if_neg fun he => hne (stpPortOid_inj hi (h.lt hs) he).1]
  · rw [hbit g' hg', hlive]
    by_cases he : g' = g
    · rw [if_pos he, if_pos (by rw [he])]
    · rw [if_neg he, if_neg (fun hc => he (congrArg Oid.value hc)), h.bit o stp hs g' hg']
  · rcases hport b hb with hb | ⟨hl, rfl⟩
    · exact h.port_bit o stp hs b hb
    · refine ⟨g, hg.resolve_right ?_, rfl⟩
      rintro ⟨tid, rfl⟩
      rw [isLinkaggPort_lagGport] at hl
      cases hl
  · rw [hrest.1] at hv
    split
    · next he => exact fun hne => by rw [hvlan.1]; exact h.vlan_bit hs hv he hne
    · exact hv

theorem StpInv.bindPort (h : StpInv db) (hs : db.stps.lookup o = some stp) (hg : IsStpGport ch g)
    (hnew : ¬ db.Live (stpPortOid ch.lchip o.value g))
    (hstps : db'.stps = db.stps.insert o (stp.bindPort ch.pm g))
    (hlive : ∀ x, db'.Live x ↔ if x = stpPortOid ch.lchip o.value g then True else db.Live x)
    (hrest : db'.vlanStp = db.vlanStp ∧ db'.pool = db.pool)
    (hbridge : ∀ o bp, db'.bridgePorts.lookup o = some bp → bp.portType = .port →
      IsStpGport ch bp.gport) : StpInv db' := by
  have hbit : ¬ stp.bit ch.pm g := fun hb => hnew ((h.bit o stp hs g hg).mp hb)
  refine h.writePort hs hg hstps hlive (fun g' hg' => ?_) (fun b hb => ?_) ?_ ?_ hrest hbridge
  · rw [bit_bindPort stp hg hg']
    split
    · next he => exact iff_of_true (.inl he) trivial
    · next hne => exact or_iff_right hne
  · unfold StpInfo.bindPort at hb
    split at hb
    · exact .inl hb
    · next hl =>
      exact (Finset.mem_insert.mp hb).symm.imp id fun he => ⟨Bool.eq_false_of_not_eq_true hl, he⟩
  · unfold StpInfo.bindPort
    split <;> exact ⟨rfl, rfl⟩
  · rw [portBindCount_bindPort, bound_bindPort hbit]
    exact toNat_add_one (h.counted o stp hs).port (h.bound_lt hs)

theorem StpInv.unbindPort (h : StpInv db) (hs : db.stps.lookup o = some stp) (hg : IsStpGport ch g)
    (hold : db.Live (stpPortOid ch.lchip o.value g))
    (hstps : db'.stps = db.stps.insert o (stp.unbindPort ch.pm g))
    (hlive : ∀ x, db'.Live x ↔ if x = stpPortOid ch.lchip o.value g then False else db.Live x)
    (hrest : db'.vlanStp = db.vlanStp ∧ db'.pool = db.pool)
    (hbridge : ∀ o bp, db'.bridgePorts.lookup o = some bp → bp.portType = .port →
      IsStpGport ch bp.gport) : StpInv db' := by
  have hbit : stp.bit ch.pm g := (h.bit o stp hs g hg).mpr hold
  refine h.writePort hs hg hstps hlive (fun g' hg' => ?_) (fun b hb => .inl ?_) ?_ ?_ hrest hbridge
  · rw [bit_unbindPort stp hg hg']
    split
    · next he => exact iff_of_false (fun hc => hc.1 he) id
    · next hne => exact and_iff_right hne
  · unfold StpInfo.unbindPort at hb
    split at hb
    · exact hb
    · exact Finset.mem_of_mem_erase hb
  · unfold StpInfo.unbindPort
    split <;> exact ⟨rfl, rfl⟩
  · rw [portBindCount_unbindPort]
    exact toNat_sub_one ((h.counted o stp hs).port.trans (bound_unbindPort hbit).symm)

theorem StpInv.createPort (h : StpInv db) {object : StpSdk × List StpPortAttr}
    (hsafe : CreatePortSafe db object) : StpInv (createStpPort object.1 db object.2).2.2 := by
  unfold createStpPort
  split
  · exact h
  split
  · next stpId bpId s hstp hbp hstate =>
    split
    · exact h
    next state hmap =>
    split
    · exact h
    next bp hlook =>
    split
    · exact h
    next htype =>
    have htype : bp.portType = .port := not_not.mp htype
    split
    · exact h
    next stp hs =>
    split
    · next hset =>
      obtain ⟨hmem, hnode, hnew⟩ := hsafe stpId bpId s bp hstp hbp hstate
        (by rw [hmap]; rfl) hlook htype (by rw [hs]; rfl) hset
      have hnone : (db.stpPorts.lookup (stpPortOid ch.lchip stpId.value bp.gport)).isNone = true :=
        Option.isNone_iff_eq_none.mpr (Option.not_isSome_iff_eq_none.mp hnew)
      dsimp only
      rw [hmem, hnode, hnone, Bool.not_true, if_neg Bool.false_ne_true, Bool.and_self, if_pos rfl]
      refine h.bindPort hs (h.bridge bpId bp hlook htype) hnew rfl (fun x => ?_) ⟨rfl, rfl⟩
        (forall_insert (h.bridge bpId bp hlook) h.bridge)
      unfold StpDb.Live
      rw [lookup_insert_ite]
      split <;> simp
    · exact h
  · exact h

theorem StpInv.removePort (h : StpInv db) {object : StpSdk × Oid}
    (hsafe : RemovePortSafe db object) {r : Status × StpDb ch}
    (hr : removeStpPort object.1 db object.2 = some r) : StpInv r.2 := by
  unfold removeStpPort at hr
  split at hr
  · cases hr; exact h
  dsimp only at hr
  split at hr
  · cases hr; exact h
  next stp hs =>
  split at hr
  · next hset =>
    split at hr
    · cases hr
    next bp hbp =>
    cases hr
    have hlive := hsafe (by rw [hs]; rfl) hset
    obtain ⟨i, g, hg, hx, hi⟩ := h.port_id _ hlive
    obtain ⟨stp', hs'⟩ := Option.isSome_iff_exists.mp hi
    have hlt := h.lt hs'
    rw [value_stpOid] at hlt
    -- the id names the instance whose record is found
    have hc : object.2.lchip = ch.lchip := by
      rw [hx]
      exact lchip_createObjectId ..
    have hval : object.2.value = g := congrArg Oid.value hx
    have hi16 : object.2.value2.setWidth 32 = i := by
      have : object.2.value2 = i.setWidth 16 := congrArg Oid.value2 hx
      bv_omega
    rw [hc, hi16] at hs
    rw [hc, hi16, hval]
    have hlive' : db.Live (stpPortOid ch.lchip (stpOid ch.lchip i).value g) := by
      rw [value_stpOid, ← hx]
      exact hlive
    refine h.unbindPort hs hg hlive' rfl (fun x => ?_) ⟨rfl, rfl⟩
      (forall_insert (h.bridge _ bp hbp) h.bridge)
    unfold StpDb.Live
    rw [lookup_erase_ite, value_stpOid, ← hx]
    split <;> simp
  · cases hr; exact h

theorem StpInv.writeVlan (h : StpInv db) {stp' : StpInfo} {vlanStp : BitVec 12 → Option (BitVec 8)}
    (hs : db.stps.lookup o = some stp) (hport : stp'.portBindBits = stp.portBindBits)
    (hlag : stp'.lagBindBits = stp.lagBindBits) (hcount : stp'.portBindCount = stp.portBindCount)
    (hvcount : stp'.vlanBindCount.toNat = stp'.vlanBindBits.card)
    (hvlan : ∀ v id, vlanStp v = some id →
      if stpOid ch.lchip (id.setWidth 32) = o then id ≠ 0 → v ∈ stp'.vlanBindBits
      else db.vlanStp v = some id) :
    StpInv { db with stps := db.stps.insert o stp', vlanStp := vlanStp } := by
  refine h.write ⟨rfl, h.stp_id o stp hs, fun _ hi => hi, ⟨hvcount, ?_⟩, fun x hx => .inl hx,
    fun _ _ _ _ => Iff.rfl, fun g hg => ?_, ?_, hvlan, h.bridge⟩
  · have hold := (h.counted o stp hs).port
    unfold StpInfo.bound at hold ⊢
    rw [hcount, hport, hlag]
    exact hold
  · have hold := h.bit o stp hs g hg
    unfold StpInfo.bit at hold ⊢
    rw [hport, hlag]
    exact hold
  · rw [hport]
    exact h.port_bit o stp hs

theorem StpInv.bindVlan (h : StpInv db) {sdk : StpSdk} {vlanId : BitVec 12} {oid : Oid}
    (hsafe : StpSafe db (.bindVlan sdk vlanId oid)) :
    StpInv (vlanSetStpInstance sdk db vlanId oid).2 := by
  unfold vlanSetStpInstance stpSetInstance
  cases hs : db.stps.lookup oid with
  | none => exact h
  | some stp =>
    have hid := h.stp_id oid stp hs
    have hlt := h.lt hs
    have h8 : (oid.value.setWidth 8).setWidth 32 = oid.value := by bv_omega
    dsimp only
    rw [if_pos rfl]
    by_cases hset : mappingErrorCtc sdk.setVlanStpid = .success
    · rw [hset]
      by_cases h0 : oid.value = 0
      · rw [if_pos h0]
        refine ⟨h.stp_id, h.port_id, h.counted, h.bit, h.port_bit, fun v id hv => ?_, h.bridge⟩
        dsimp only at hv
        rcases of_update_some hv with ⟨-, rfl⟩ | ⟨-, hv⟩
        · refine ⟨stp, ?_, fun hne => absurd (by rw [h0]; rfl) hne⟩
          rw [h8, ← hid.1]
          exact hs
        · exact h.vlan v id hv
      rw [if_neg h0]
      have hnew := hsafe stp hs h0 (mappingErrorCtc_eq_success.mp hset)
      have hcount := (h.counted oid stp hs).vlan
      have hcard := card_bitVec_le stp.vlanBindBits
      refine h.writeVlan hs rfl rfl rfl ?_ (fun v id hv => ?_)
      · rw [Finset.card_insert_of_notMem hnew]
        exact toNat_add_one hcount (by omega)
      · rcases of_update_some hv with ⟨hveq, rfl⟩ | ⟨-, hv⟩
        · rw [h8, ← hid.1, if_pos rfl]
          exact fun _ => hveq ▸ Finset.mem_insert_self _ _
        · split
          · next he => exact fun hne => Finset.mem_insert_of_mem (h.vlan_bit hs hv he hne)
          · exact hv
    · generalize mappingErrorCtc sdk.setVlanStpid = st at hset
      cases st
      case success => exact absurd rfl hset
      all_goals exact h

theorem StpInv.removeVlan (h : StpInv db) {sdk : StpSdk} {vlanId : BitVec 12}
    (hsafe : StpSafe db (.removeVlan sdk vlanId)) :
    StpInv (vlanRemoveStp sdk db vlanId).2 := by
  unfold vlanRemoveStp
  cases hv : db.vlanStp vlanId with
  | none => exact h
  | some id =>
    obtain ⟨stp, hs, hbit⟩ := h.vlan vlanId id hv
    unfold stpSetInstance
    dsimp only
    rw [hs]
    dsimp only
    rw [if_neg Bool.false_ne_true]
    by_cases h0 : (stpOid ch.lchip (id.setWidth 32)).value = 0
    · rw [if_pos h0]
      dsimp only
      split
      · refine ⟨h.stp_id, h.port_id, h.counted, h.bit, h.port_bit, fun v id' hv' => ?_, h.bridge⟩
        exact h.vlan v id' (of_update_none hv').2
      · exact h
    rw [if_neg h0]
    have hid : id ≠ 0 := by
      rintro rfl
      exact h0 rfl
    have hin := hbit hid
    have hok : mappingErrorCtc sdk.destroyVlan = .success :=
      mappingErrorCtc_eq_success.mpr (hsafe id hv hid)
    rw [hok]
    have hcount := (h.counted _ stp hs).vlan
    have hcard := Finset.card_erase_add_one hin
    refine h.writeVlan hs rfl rfl rfl ?_ (fun v id' hv' => ?_)
    · exact toNat_sub_one (hcount.trans hcard.symm)
    · obtain ⟨hne, hold⟩ := of_update_none hv'
      split
      · next he => exact fun hn => Finset.mem_erase.mpr ⟨hne, h.vlan_bit hs hold he hn⟩
      · exact hold

/-- A new instance. -/
theorem StpInv.createStp (h : StpInv db) (sdk : StpSdk) : StpInv (createStp sdk db).2.2 := by
  unfold CtcSai.createStp
  split
  · exact h
  next i pool ha =>
  obtain ⟨hfree, -, -, hused, -⟩ := Pool.alloc_some ha
  have hback : StpInv { db with pool := pool.free i } := by
    refine ⟨fun o' stp' hs => ?_, h.port_id, h.counted, h.bit, h.port_bit, h.vlan, h.bridge⟩
    rw [Pool.used_free, hused, Finset.erase_insert hfree]
    exact h.stp_id o' stp' hs
  dsimp only
  split
  · exact hback
  split
  · exact hback
  next hnew =>
  split
  · exact hback
  have hi : i < 128 := by
    have hmem : i ∈ pool.used := by rw [hused]; exact Finset.mem_insert_self _ _
    exact StpChip.lt_of_mem hmem
  have hval : (BitVec.ofNat 32 i).toNat = i := by
    rw [BitVec.toNat_ofNat, Nat.mod_eq_of_lt (by omega)]
  have hnone : db.stps.lookup (stpOid ch.lchip (BitVec.ofNat 32 i)) = none :=
    Option.not_isSome_iff_eq_none.mp hnew
  -- no object names an instance that is not there
  have hdead : ∀ g, ¬ db.Live (stpPortOid ch.lchip (BitVec.ofNat 32 i) g) := by
    intro g hg
    obtain ⟨j, g', -, he, hj⟩ := h.port_id _ hg
    obtain ⟨y, hy⟩ := Option.isSome_iff_exists.mp hj
    have hij : BitVec.ofNat 32 i = j := (stpPortOid_inj (by omega) (h.lt hy) he).1
    rw [← hij, hnone] at hj
    cases hj
  refine h.write ⟨rfl, ?_, ?_, ⟨rfl, rfl⟩, fun x hx => .inl hx,
    fun _ _ _ _ => Iff.rfl, fun g hg => ?_, nofun, fun v id hv => ?_, h.bridge⟩
  · rw [value_stpOid, hval, hused]
    exact ⟨rfl, Finset.mem_insert_self _ _⟩
  · rw [hused]
    exact Finset.subset_insert _ _
  · refine iff_of_false ?_ (hdead g)
    unfold StpInfo.bit
    split <;> exact Finset.notMem_empty _
  · split
    · next he =>
      obtain ⟨y, hy, -⟩ := h.vlan v id hv
      rw [he, hnone] at hy
      cases hy
    · exact hv

/-- An instance is removed. -/
theorem StpInv.removeStp (h : StpInv db) {oid : Oid} (hsafe : StpSafe db (.removeStp oid)) :
    StpInv (removeStp db oid).2 := by
  unfold CtcSai.removeStp
  cases hs : db.stps.lookup oid with
  | none => exact h
  | some stp =>
    dsimp only
    split
    · exact h
    next hzero =>
    have hzero : stp.vlanBindCount = 0 := not_not.mp hzero
    obtain ⟨hports, hvlans⟩ := hsafe stp hs hzero
    have hid := (h.stp_id oid stp hs).1
    -- the instance keeps no VLAN
    have hempty : stp.vlanBindBits = ∅ := by
      have hcount := (h.counted oid stp hs).vlan
      rw [hzero] at hcount
      exact Finset.card_eq_zero.mp hcount.symm
    refine ⟨?_, ?_, forall_erase h.counted, forall_erase h.bit, forall_erase h.port_bit, ?_,
      h.bridge⟩
    · intro x y hx
      obtain ⟨hne, hx⟩ := of_lookup_erase hx
      obtain ⟨hid', hu⟩ := h.stp_id x y hx
      refine ⟨hid', ?_⟩
      refine Finset.mem_erase.mpr ⟨fun he => hne ?_, hu⟩
      rw [hid', BitVec.eq_of_toNat_eq he, ← hid]
    · intro x hx
      obtain ⟨i, g, hg, he, hi⟩ := h.port_id x hx
      refine ⟨i, g, hg, he, ?_⟩
      rw [lookup_erase_ite, if_neg]
      · exact hi
      · intro hc
        refine hports x hx ?_
        rw [he, ← hc]
        rfl
    · intro v id hv
      obtain ⟨y, hy, hb⟩ := h.vlan v id hv
      refine ⟨y, ?_, hb⟩
      rw [lookup_erase_ite, if_neg]
      · exact hy
      · intro hc
        rw [hc, hs] at hy
        cases hy
        have hid0 : id = 0 := by
          by_contra hne
          have hin := hb hne
          rw [hempty] at hin
          exact Finset.notMem_empty _ hin
        refine hvlans ?_ v (hid0 ▸ hv)
        rw [← hc, hid0]
        rfl

theorem stpStep_inv (h : StpInv db) {op : StpOp} (hsafe : StpSafe db op)
    (hst : stpStep db op = some db') : StpInv db' := by
  cases op with
  | createStp sdk => cases hst; exact h.createStp sdk
  | removeStp oid => cases hst; exact h.removeStp hsafe
  | createPort sdk attrs => cases hst; exact h.createPort hsafe
  | removePort sdk oid =>
    obtain ⟨r, hr, rfl⟩ := Option.map_eq_some_iff.mp hst
    exact h.removePort hsafe hr
  | createPorts mode objects =>
    obtain ⟨r, hr, rfl⟩ := Option.map_eq_some_iff.mp hst
    refine bulkLoop_inv ?_ h hsafe hr
    intro s a status b s' hs hok hf
    have hs' : (createStpPort a.1 s a.2).2.2 = s' := by rw [Option.some.inj hf]
    rw [← hs']
    exact hs.createPort hok
  | removePorts mode objects =>
    obtain ⟨r, hr, rfl⟩ := Option.map_eq_some_iff.mp hst
    refine bulkLoop_inv ?_ h hsafe hr
    intro s a status b s' hs hok hf
    obtain ⟨q, hq, he⟩ := Option.map_eq_some_iff.mp hf
    cases he
    exact hs.removePort hok hq
  | bindVlan sdk vlanId oid => cases hst; exact h.bindVlan hsafe
  | removeVlan sdk vlanId => cases hst; exact h.removeVlan hsafe

theorem StpStart.inv (h : StpStart db) : StpInv db := by
  obtain ⟨hs, hp, hv, -, hb⟩ := h
  have hlive : ∀ x, ¬ db.Live x := by
    intro x
    unfold StpDb.Live
    rw [hp]
    exact Bool.false_ne_true
  have hlook : ∀ {o stp}, ¬ db.stps.lookup o = some stp := by
    rw [hs]
    exact nofun
  refine ⟨fun _ _ hx => absurd hx hlook, fun x hx => absurd hx (hlive x),
    fun _ _ hx => absurd hx hlook, fun _ _ hx => absurd hx hlook, fun _ _ hx => absurd hx hlook,
    fun v id hv' => ?_, hb⟩
  rw [hv] at hv'
  cases hv'

/-! ## PORT_LIST -/

theorem mem_bits {p : Nat → Prop} [DecidablePred p] {b : Nat} :
    b ∈ (List.range 256).filter (fun b => decide (p b)) ↔ b < 256 ∧ p b := by
  rw [List.mem_filter, List.mem_range, decide_eq_true_iff]

theorem length_bits {s : Finset Nat} (h : ∀ b ∈ s, b < 256) :
    ((List.range 256).filter (fun b => decide (b ∈ s))).length = s.card := by
  have hnd : ((List.range 256).filter (fun b => decide (b ∈ s))).Nodup :=
    List.nodup_range.filter _
  rw [← List.toFinset_card_of_nodup hnd]
  congr 1
  ext b
  rw [List.mem_toFinset, mem_bits]
  exact ⟨fun hb => hb.2, fun hb => ⟨h b hb, hb⟩⟩

theorem length_lagBits (s : Finset (BitVec 8)) :
    ((List.range 256).filter (fun b => decide (BitVec.ofNat 8 b ∈ s))).length = s.card := by
  have himage : s.card = (s.image BitVec.toNat).card :=
    (Finset.card_image_of_injective s fun _ _ he => BitVec.eq_of_toNat_eq he).symm
  have hlt : ∀ b ∈ s.image BitVec.toNat, b < 256 := by
    intro b hb
    obtain ⟨x, -, rfl⟩ := Finset.mem_image.mp hb
    exact x.isLt
  rw [himage, ← length_bits hlt]
  congr 1
  refine List.filter_congr fun b hb => decide_eq_decide.mpr ?_
  have hb : b < 256 := List.mem_range.mp hb
  rw [Finset.mem_image]
  constructor
  · intro hin
    exact ⟨_, hin, by rw [BitVec.toNat_ofNat, Nat.mod_eq_of_lt hb]⟩
  · rintro ⟨x, hx, rfl⟩
    rwa [BitVec.ofNat_toNat]

theorem StpInv.gport_of_bit (h : StpInv db) (hs : db.stps.lookup o = some stp) {b : Nat}
    (hb : b ∈ stp.portBindBits) : ch.pm.isPort ch.lchip (ch.pm.gport ch.lchip b) ∧
      ch.pm.lport (ch.pm.gport ch.lchip b) = b := by
  obtain ⟨g, hg, rfl⟩ := h.port_bit o stp hs b hb
  rw [ch.pm.gport_lport hg]
  exact ⟨hg, rfl⟩

theorem StpInv.length_portList (h : StpInv db) (hs : db.stps.lookup o = some stp) :
    (stpPortList ch o stp).length = stp.portBindCount.toNat := by
  have hlt : ∀ b ∈ stp.portBindBits, b < 256 := by
    intro b hb
    rw [← (h.gport_of_bit hs hb).2]
    exact ch.pm.lport_lt _
  unfold stpPortList
  rw [List.length_append, List.length_map, List.length_map, length_bits hlt, length_lagBits,
    (h.counted o stp hs).port]
  rfl

theorem StpInv.mem_portList (h : StpInv db) (hs : db.stps.lookup o = some stp) (x : Oid) :
    x ∈ stpPortList ch o stp ↔ db.Live x ∧ x.value2 = o.value.setWidth 16 := by
  have hc : o.lchip = ch.lchip := by
    rw [(h.stp_id o stp hs).1]
    exact lchip_createObjectId ..
  unfold stpPortList
  rw [List.mem_append, List.mem_map, List.mem_map, hc]
  constructor
  · rintro (⟨b, hb, rfl⟩ | ⟨b, hb, rfl⟩)
    · obtain ⟨-, hb⟩ := mem_bits.mp hb
      obtain ⟨hg, hl⟩ := h.gport_of_bit hs hb
      refine ⟨(h.bit o stp hs _ (.inl hg)).mp ?_, rfl⟩
      unfold StpInfo.bit
      rw [if_neg (by rw [isLinkaggPort_isPort hg]; exact Bool.false_ne_true), hl]
      exact hb
    · obtain ⟨-, hb⟩ := mem_bits.mp hb
      refine ⟨(h.bit o stp hs _ (.inr ⟨_, rfl⟩)).mp ?_, rfl⟩
      unfold StpInfo.bit
      rw [if_pos (isLinkaggPort_lagGport _), setWidth_lagGport]
      exact hb
  · rintro ⟨hx, hv⟩
    obtain ⟨i, g, hg, rfl, hi⟩ := h.port_id x hx
    obtain ⟨y, hy⟩ := Option.isSome_iff_exists.mp hi
    have hio : i = o.value := by
      have hv : i.setWidth 16 = o.value.setWidth 16 := hv
      have hlt := h.lt hy
      have hlt' := h.lt hs
      rw [value_stpOid] at hlt
      bv_omega
    subst hio
    have hbit := (h.bit o stp hs g hg).mpr hx
    unfold StpInfo.bit at hbit
    rcases hg with hg | ⟨tid, rfl⟩
    · rw [if_neg (by rw [isLinkaggPort_isPort hg]; exact Bool.false_ne_true)] at hbit
      exact .inl ⟨_, mem_bits.mpr ⟨ch.pm.lport_lt g, hbit⟩, by rw [ch.pm.gport_lport hg]⟩
    rw [if_pos (isLinkaggPort_lagGport _), setWidth_lagGport] at hbit
    have htid : BitVec.ofNat 8 tid.toNat = tid := by
      rw [BitVec.ofNat_toNat, BitVec.setWidth_eq]
    exact .inr ⟨tid.toNat, mem_bits.mpr ⟨tid.isLt, by rwa [htid]⟩, by rw [htid]⟩

theorem StpInv.nodup_portList (h : StpInv db) (hs : db.stps.lookup o = some stp) :
    (stpPortList ch o stp).Nodup := by
  refine List.nodup_append.mpr ⟨?_, ?_, ?_⟩
  · refine List.Nodup.map_on ?_ (List.nodup_range.filter _)
    intro b hb b' hb' he
    have hg : ch.pm.lport (ch.pm.gport ch.lchip b) = ch.pm.lport (ch.pm.gport ch.lchip b') :=
      congrArg ch.pm.lport (congrArg Oid.value he)
    rwa [(h.gport_of_bit hs (mem_bits.mp hb).2).2, (h.gport_of_bit hs (mem_bits.mp hb').2).2] at hg
  · refine List.Nodup.map_on ?_ (List.nodup_range.filter _)
    intro b hb b' hb' he
    exact lagGport_ofNat_inj (mem_bits.mp hb).1 (mem_bits.mp hb').1 (congrArg Oid.value he)
  · intro x hx y hy he
    obtain ⟨b, hb, rfl⟩ := List.mem_map.mp hx
    obtain ⟨b', -, rfl⟩ := List.mem_map.mp hy
    -- a port of the chip is no LAG
    exact ch.pm.isPort_lag _ (h.gport_of_bit hs (mem_bits.mp hb).2).1 (congrArg Oid.value he)

theorem StpInv.ok (h : StpInv db) : StpOk db where
  vlan_count o stp hs := (h.counted o stp hs).vlan
  port_count o stp hs := (h.counted o stp hs).port
  port_list sdk o stp list hs hmem hle := by
    refine ⟨stpPortList ch o stp, ?_, h.nodup_portList hs, h.mem_portList hs⟩
    have hlen := h.length_portList hs
    unfold getStpPortList
    rw [hs]
    dsimp only
    rw [hmem, if_neg (by omega), if_neg (by decide), if_neg (by omega)]
    unfold fillObjectList
    dsimp only
    rw [if_neg (by omega)]
  no_overflow sdk o list := by
    unfold getStpPortList
    cases hs : db.stps.lookup o with
    | none => exact nofun
    | some stp =>
      have hlen := h.length_portList hs
      dsimp only
      split
      · exact nofun
      split
      · exact nofun
      · rw [if_neg (by omega)]
        exact nofun
  port_stp x hx := by
    obtain ⟨i, g, -, rfl, hi⟩ := h.port_id x hx
    obtain ⟨y, hy⟩ := Option.isSome_iff_exists.mp hi
    have hlt := h.lt hy
    rw [value_stpOid] at hlt
    have h16 : (i.setWidth 16).setWidth 32 = i := by bv_omega
    show (db.stps.lookup (stpOid ch.lchip ((i.setWidth 16).setWidth 32))).isSome
    rw [h16]
    exact hi
  vlan_stp v id hv := by
    obtain ⟨y, hy, -⟩ := h.vlan v id hv
    rw [hy]
    rfl

end Inv

/-- In a run that creates an STP port once and with memory, removes one that is
there, binds a VLAN whose bit is clear, and removes an instance that nothing
uses, the counts are those of the bitmaps, PORT_LIST returns the live STP ports
within its buffer, and no instance in use is gone. -/
theorem stp_of_run {db : StpDb ch} (h : Reachable StpStart StpSafe stpStep db) : StpOk db := by
  have hi : StpInv db := Reachable.inv (fun _ hs => hs.inv)
    (fun _ _ _ hs hop hst => stpStep_inv hs hop hst) h
  exact hi.ok

/-! ## Two runs -/

def StpChip.plain : StpChip := ⟨0, .plain, .firstFit 0 8, by decide⟩

def StpBridgePort.fifth : StpBridgePort := ⟨.port, 5, ∅, 0, fun _ => .forwarding⟩

def StpDb.startOne : StpDb .plain where
  stps := ∅
  stpPorts := ∅
  bridgePorts := (∅ : Table Oid StpBridgePort).insert (bridgePortOid 0 5) .fifth
  vlanStp _ := none
  pool := .empty _

theorem StpDb.startOne_start : StpStart StpDb.startOne := by
  refine ⟨rfl, rfl, fun _ => rfl, rfl, fun o bp hb _ => .inl ?_⟩
  have hb' : ((∅ : Table Oid StpBridgePort).insert (bridgePortOid 0 5) .fifth).lookup o =
    some bp := hb
  rcases of_lookup_insert hb' with ⟨-, rfl⟩ | ⟨-, hb'⟩
  · show (5 : BitVec 32).toNat < 256
    decide
  · cases hb'

/-- The SDK and the memory that give all they are asked for. -/
def StpSdk.ok : StpSdk := ⟨fun _ => .none, .none, .none, fun _ => true, fun _ => none⟩

def firstStpPort : List StpPortAttr :=
  [.stp (stpOid 0 0), .bridgePort (bridgePortOid 0 5), .state 2]

/-- One STP port. -/
theorem stp_of_run_one : ∃ db : StpDb .plain, StpOk db ∧ db.Live (stpPortOid 0 0 5) := by
  have r₀ : Reachable StpStart StpSafe stpStep StpDb.startOne := .start StpDb.startOne_start
  have r₁ := r₀.next (.createStp .ok) (by trivial) rfl
  have r₂ := r₁.next (.createPort .ok firstStpPort) (by
    rintro _ _ _ _ ⟨⟩ ⟨⟩ ⟨⟩ - ⟨⟩ - - -
    exact ⟨rfl, rfl, Bool.false_ne_true⟩) rfl
  refine ⟨_, stp_of_run r₂, ?_⟩
  unfold StpDb.Live
  decide

/-- The same STP port is created twice. -/
theorem stp_not_every_run : ¬ ∀ (ch : StpChip) (db : StpDb ch),
    Reachable StpStart anyStep stpStep db → StpOk db := by
  intro h
  have r₀ : Reachable StpStart anyStep stpStep StpDb.startOne := .start StpDb.startOne_start
  have r₁ := r₀.next (.createStp .ok) trivial rfl
  have r₂ := r₁.next (.createPort .ok firstStpPort) trivial rfl
  have r₃ := r₂.next (.createPort .ok firstStpPort) trivial rfl
  have hcount := (h _ _ r₃).port_count (stpOid 0 0) _ rfl
  revert hcount
  decide

end CtcSai
