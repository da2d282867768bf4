/-
# `VlanMemberBits` — what the records say about membership

`MemberBits` is what membership depends on in the record of a VLAN.  The VLAN
functions keep it, or start an empty one; creation and removal of a member set
and clear one bit of it and, in the same call, one bit of a bridge port.
-/
import CtcSai.StpBookkeeping
import CtcSai.VlanMember

namespace CtcSai

open KeyedTable IdPool Table

/-! ## Bits and counts -/

/-- The two bitmaps of a VLAN and their counts. -/
structure MemberBits where
  ports : Finset Nat
  lags : Finset (BitVec 8)
  portCount : BitVec 32
  lagCount : BitVec 32

/-- What the record of a VLAN says about its members. -/
def VlanUser.memberBits (v : VlanUser) : MemberBits :=
  ⟨v.vlanMemberPortBindBits, v.vlanMemberLagBindBits, v.vlanMemberPortBindCount,
    v.vlanMemberLagBindCount⟩

namespace MemberBits

def empty : MemberBits := ⟨∅, ∅, 0, 0⟩

/-- The bit of a port or a LAG. -/
def bit (m : MemberBits) (pm : PortMap) (g : BitVec 32) : Prop :=
  if isLinkaggPort g then g.setWidth 8 ∈ m.lags else pm.lport g ∈ m.ports

def bind (m : MemberBits) (pm : PortMap) (g : BitVec 32) : MemberBits :=
  if isLinkaggPort g then
    { m with lagCount := m.lagCount + 1, lags := insert (g.setWidth 8) m.lags }
  else { m with portCount := m.portCount + 1, ports := insert (pm.lport g) m.ports }

def unbind (m : MemberBits) (pm : PortMap) (g : BitVec 32) : MemberBits :=
  if isLinkaggPort g then
    { m with lagCount := m.lagCount - 1, lags := m.lags.erase (g.setWidth 8) }
  else { m with portCount := m.portCount - 1, ports := m.ports.erase (pm.lport g) }

def size (m : MemberBits) : Nat := m.ports.card + m.lags.card

/-- Both counts are those of the bitmaps, in which only ports of the chip
stand. -/
structure Good (m : MemberBits) (pm : PortMap) (c : Lchip) : Prop where
  portCount : m.portCount.toNat = m.ports.card
  lagCount : m.lagCount.toNat = m.lags.card
  ports : ∀ b ∈ m.ports, ∃ g, pm.isPort c g ∧ pm.lport g = b

end MemberBits

theorem memberBits_bindMember (v : VlanUser) (pm : PortMap) (g : BitVec 32) :
    (v.bindMember pm g).memberBits = v.memberBits.bind pm g := by
  simp only [VlanUser.bindMember, MemberBits.bind]
  split <;> rfl

theorem memberBits_unbindMember (v : VlanUser) (pm : PortMap) (g : BitVec 32) :
    (v.unbindMember pm g).memberBits = v.memberBits.unbind pm g := by
  simp only [VlanUser.unbindMember, MemberBits.unbind]
  split <;> rfl

section Bits

variable {m : MemberBits} {pm : PortMap} {c : Lchip} {g g' : BitVec 32}

theorem ne_of_isLinkagg {b : Bool} (hg : isLinkaggPort g = b) (hg' : isLinkaggPort g' = !b) :
    g' ≠ g := by
  rintro rfl
  simp [hg] at hg'

theorem MemberBits.bit_bind (h : IsGport pm c g) (h' : IsGport pm c g') :
    (m.bind pm g).bit pm g' ↔ g' = g ∨ m.bit pm g' := by
  cases hg : isLinkaggPort g <;> cases hg' : isLinkaggPort g'
  · simp [bind, bit, hg, hg', h.lport_eq_iff h' hg hg']
  · simp [bind, bit, hg, hg', ne_of_isLinkagg hg hg']
  · simp [bind, bit, hg, hg', ne_of_isLinkagg hg hg']
  · simp [bind, bit, hg, hg', h.lag_eq_iff h' hg hg']

theorem MemberBits.bit_unbind (h : IsGport pm c g) (h' : IsGport pm c g') :
    (m.unbind pm g).bit pm g' ↔ g' ≠ g ∧ m.bit pm g' := by
  cases hg : isLinkaggPort g <;> cases hg' : isLinkaggPort g'
  · simp [unbind, bit, hg, hg', h.lport_eq_iff h' hg hg']
  · simp [unbind, bit, hg, hg', ne_of_isLinkagg hg hg']
  · simp [unbind, bit, hg, hg', ne_of_isLinkagg hg hg']
  · simp [unbind, bit, hg, hg', h.lag_eq_iff h' hg hg']

theorem MemberBits.Good.lt (h : m.Good pm c) : ∀ b ∈ m.ports, b < 256 := by
  intro b hb
  obtain ⟨g, -, rfl⟩ := h.ports b hb
  exact pm.lport_lt g

theorem MemberBits.Good.card_ports_le (h : m.Good pm c) : m.ports.card ≤ 256 := by
  have hsub : m.ports ⊆ Finset.range 256 := by
    intro b hb
    exact Finset.mem_range.mpr (h.lt b hb)
  have hcard := Finset.card_le_card hsub
  rwa [Finset.card_range] at hcard

theorem MemberBits.good_empty (pm : PortMap) (c : Lchip) : MemberBits.empty.Good pm c where
  portCount := rfl
  lagCount := rfl
  ports b hb := absurd hb (Finset.notMem_empty b)

theorem MemberBits.Good.bind (h : m.Good pm c) (hg : IsGport pm c g) (hn : ¬ m.bit pm g) :
    (m.bind pm g).Good pm c ∧ (m.bind pm g).size = m.size + 1 := by
  cases hl : isLinkaggPort g with
  | true =>
    simp only [bit, hl, if_true] at hn
    have hcard := Finset.card_insert_of_notMem hn
    have hle := card_bitVec_le m.lags
    simp only [MemberBits.bind, hl, if_true]
    refine ⟨⟨h.portCount, ?_, h.ports⟩, ?_⟩
    · exact (toNat_add_one h.lagCount (by omega)).trans hcard.symm
    · simp only [size]
      omega
  | false =>
    simp only [bit, hl, Bool.false_eq_true, if_false] at hn
    have hcard := Finset.card_insert_of_notMem hn
    have hle := h.card_ports_le
    simp only [MemberBits.bind, hl, Bool.false_eq_true, if_false]
    refine ⟨⟨?_, h.lagCount, ?_⟩, ?_⟩
    · exact (toNat_add_one h.portCount (by omega)).trans hcard.symm
    · intro b hb
      rcases Finset.mem_insert.mp hb with rfl | hb
      · rcases hg with hg | ⟨tid, rfl⟩
        · exact ⟨g, hg, rfl⟩
        · simp [isLinkaggPort_lagGport] at hl
      · exact h.ports b hb
    · simp only [size]
      omega

theorem MemberBits.Good.unbind (h : m.Good pm c) (hb : m.bit pm g) :
    (m.unbind pm g).Good pm c ∧ (m.unbind pm g).size + 1 = m.size := by
  cases hl : isLinkaggPort g with
  | true =>
    simp only [bit, hl, if_true] at hb
    have hcard := Finset.card_erase_add_one hb
    simp only [MemberBits.unbind, hl, if_true]
    refine ⟨⟨h.portCount, ?_, h.ports⟩, ?_⟩
    · exact toNat_sub_one (h.lagCount.trans hcard.symm)
    · simp only [size]
      omega
  | false =>
    simp only [bit, hl, Bool.false_eq_true, if_false] at hb
    have hcard := Finset.card_erase_add_one hb
    simp only [MemberBits.unbind, hl, Bool.false_eq_true, if_false]
    refine ⟨⟨?_, h.lagCount, ?_⟩, ?_⟩
    · exact toNat_sub_one (h.portCount.trans hcard.symm)
    · intro b hb'
      exact h.ports b (Finset.mem_of_mem_erase hb')
    · simp only [size]
      omega

end Bits

/-! ## The VLAN functions -/

section Vlans

variable {ch : VlanChip} {sdk : VlanSdk} {db db' : VlanDb ch} {oid : Oid}
variable {v : VlanUser} {a b : BitVec 32} {d : VlanDb ch} {r : Status × VlanDb ch}
  {attrs : List VlanAttr} {ptr vlanId : BitVec 16}

/-- What the record under an object id says about members. -/
def VlanDb.members (db : VlanDb ch) (oid : Oid) : Option MemberBits :=
  (db.vlans.lookup oid).join.map VlanUser.memberBits

theorem VlanDb.Live.members (h : db.Live oid v) : db.members oid = some v.memberBits := by
  simp only [VlanDb.members, show db.vlans.lookup oid = some (some v) from h]
  rfl

theorem VlanDb.live_of_members {m : MemberBits} (h : db.members oid = some m) :
    ∃ v, db.Live oid v ∧ v.memberBits = m := by
  obtain ⟨v, hv, rfl⟩ := Option.map_eq_some_iff.mp h
  cases hl : db.vlans.lookup oid with
  | none => simp [hl] at hv
  | some x =>
    cases x with
    | none => simp [hl] at hv
    | some w =>
      simp only [hl, Option.join_some, Option.some.injEq] at hv
      exact ⟨v, hv ▸ hl, rfl⟩

theorem members_write (db : VlanDb ch) (oid o : Oid) (v : VlanUser) :
    (db.write oid v).members o = if o = oid then some v.memberBits else db.members o := by
  simp only [VlanDb.members, VlanDb.write, lookup_insert_ite]
  split <;> rfl

theorem members_dangle (db : VlanDb ch) (oid o : Oid) :
    (db.dangle oid).members o = if o = oid then none else db.members o := by
  simp only [VlanDb.members, VlanDb.dangle, lookup_insert_ite]
  split <;> rfl

/-- The object ids under which something is stored. -/
def VlanDb.Stored (db : VlanDb ch) (oid : Oid) : Prop := (db.vlans.lookup oid).isSome

theorem VlanDb.Live.stored {v : VlanUser} (h : db.Live oid v) : db.Stored oid := by
  simp only [VlanDb.Stored, show db.vlans.lookup oid = some (some v) from h]
  rfl

theorem stored_write (db : VlanDb ch) (oid o : Oid) (v : VlanUser) :
    (db.write oid v).Stored o ↔ o = oid ∨ db.Stored o := by
  simp only [VlanDb.Stored, VlanDb.write, lookup_insert_ite]
  split <;> simp [*]

/-- Nothing that membership depends on differs. -/
structure SameMemberBits (db db' : VlanDb ch) : Prop where
  members : ∀ o, db'.members o = db.members o
  stored : ∀ o, db'.Stored o ↔ db.Stored o

theorem SameMemberBits.refl (db : VlanDb ch) : SameMemberBits db db :=
  ⟨fun _ => rfl, fun _ => Iff.rfl⟩

theorem SameMemberBits.trans {a b : VlanDb ch} (h : SameMemberBits a b) (h' : SameMemberBits b d) :
    SameMemberBits a d :=
  ⟨fun o => (h'.members o).trans (h.members o), fun o => (h'.stored o).trans (h.stored o)⟩

theorem VlanDb.Live.sameMembers {v' : VlanUser} (h : db.Live oid v)
    (hm : v'.memberBits = v.memberBits) : SameMemberBits db (db.write oid v') := by
  constructor
  · intro o
    rw [members_write]
    split
    · next ho => rw [ho, h.members, hm]
    · rfl
  · intro o
    rw [stored_write]
    constructor
    · rintro (rfl | ho)
      · exact h.stored
      · exact ho
    · exact .inr

theorem VlanSteady.memberBits {v' : VlanUser} (h : VlanSteady v v') :
    v'.memberBits = v.memberBits := by
  simp only [VlanUser.memberBits, h.portBits, h.lagBits, h.portCount, h.lagCount]

theorem vlanSetAttr_members {attr : VlanAttr} (hr : vlanSetAttr sdk db oid attr = some r) :
    SameMemberBits db r.2 := by
  rcases vlanSetAttr_changes hr with h | ⟨v, hv, hc⟩
  · rw [h.eq]
    exact .refl db
  cases hc with
  | steady _ _ hs h =>
    rw [h]
    exact hv.sameMembers hs.memberBits
  | @flood cls s _ _ _ h =>
    have same : SameMemberBits db (db.write oid { v with
        ukwnFloodCtr := Function.update v.ukwnFloodCtr cls s }) := hv.sameMembers rfl
    rw [h]
    exact ⟨same.members, same.stored⟩
  | @stp stp _ h =>
    have same : SameMemberBits db (db.write oid { v with
        stpId := stp.value.setWidth 8 }) := hv.sameMembers rfl
    simp only [vlanSetStp] at h
    split at h
    · split at h
      · cases h
      · cases h
        exact ⟨same.members, same.stored⟩
    · cases h
      exact .refl db

theorem vlanSetGiven_members {ids : List VlanAttrId}
    (hr : vlanSetGiven sdk oid attrs db ids = some r) :
    SameMemberBits db r.2 := by
  induction ids generalizing db with
  | nil =>
    cases hr
    exact .refl db
  | cons i rest ih =>
    simp only [vlanSetGiven] at hr
    split at hr
    · exact ih hr
    split at hr
    · cases hr
    · next h₁ => exact (vlanSetAttr_members h₁).trans (ih hr)
    · next h₁ =>
      cases hr
      exact vlanSetAttr_members h₁

/-- At most one VLAN is new, and it has no members. -/
structure MembersGrown (db db' : VlanDb ch) : Prop where
  members : ∀ o, db'.members o = db.members o ∨
    db.members o = none ∧ db'.members o = some .empty
  stored : ∀ o, db'.Stored o →
    db.Stored o ∨ ∃ p : BitVec 16, p.toNat < 4096 ∧ o = vlanOid ch.lchip p

theorem SameMemberBits.grown (h : SameMemberBits db db') : MembersGrown db db' :=
  ⟨fun o => .inl (h.members o), fun o ho => .inl ((h.stored o).mp ho)⟩

theorem members_eq_none (h : db.vlans.lookup oid = none) : db.members oid = none := by
  simp [VlanDb.members, h]

theorem MembersGrown.fresh (hptr : ptr.toNat < 4096)
    (hnone : db.vlans.lookup (vlanOid ch.lchip ptr) = none)
    (h : SameMemberBits (db.write (vlanOid ch.lchip ptr) (.fresh ptr vlanId a b)) d) :
    MembersGrown db d := by
  constructor
  · intro o
    rw [h.members, members_write]
    split
    · next ho =>
      rw [ho]
      exact .inr ⟨members_eq_none hnone, rfl⟩
    · exact .inl rfl
  · intro o ho
    rcases (stored_write ..).mp ((h.stored o).mp ho) with rfl | ho
    · exact .inr ⟨ptr, hptr, rfl⟩
    · exact .inl ho

theorem MembersGrown.dangle (hptr : ptr.toNat < 4096)
    (hnone : db.vlans.lookup (vlanOid ch.lchip ptr) = none)
    (h : SameMemberBits (db.write (vlanOid ch.lchip ptr) (.fresh ptr vlanId a b)) d) :
    MembersGrown db (d.dangle (vlanOid ch.lchip ptr)) := by
  constructor
  · intro o
    rw [members_dangle]
    split
    · next ho =>
      rw [ho]
      exact .inl (members_eq_none hnone).symm
    · next ho =>
      rw [h.members, members_write, if_neg ho]
      exact .inl rfl
  · intro o ho
    simp only [VlanDb.Stored, VlanDb.dangle, lookup_insert_ite] at ho
    split at ho
    · next he => exact .inr ⟨ptr, hptr, he⟩
    next hne =>
    rcases (stored_write ..).mp ((h.stored o).mp ho) with rfl | ho
    · exact absurd rfl hne
    · exact .inl ho

theorem createVlanLate_members (hptr : ptr.toNat < 4096)
    (hnone : db.vlans.lookup (vlanOid ch.lchip ptr) = none)
    (hr : createVlanLate sdk (db.write (vlanOid ch.lchip ptr) (.fresh ptr vlanId a b))
      (vlanOid ch.lchip ptr) ptr vlanId attrs = some r) : MembersGrown db r.2 := by
  have hset : ∀ {x : Status × VlanDb ch} {d : VlanDb ch} {stp : Oid},
      vlanSetInfo sdk d (vlanOid ch.lchip ptr) (.stpInstance stp) = some x →
        SameMemberBits d x.2 := by
    intro x d stp h
    have hset : vlanSetAttr sdk d (vlanOid ch.lchip ptr) (.stpInstance stp) = some x := h
    exact vlanSetAttr_members hset
  simp only [createVlanLate] at hr
  split at hr
  · cases hr
  · next db₁ h₁ =>
    have same₁ := hset h₁
    split at hr
    · cases hr
    · next db₂ h₂ =>
      cases hr
      exact .fresh hptr hnone (same₁.trans (vlanSetGiven_members h₂))
    next h₂ =>
    cases hr
    have := MembersGrown.dangle hptr hnone (same₁.trans (vlanSetGiven_members h₂))
    exact ⟨this.members, this.stored⟩
  next h₁ =>
  cases hr
  have := MembersGrown.dangle hptr hnone (hset h₁)
  exact ⟨this.members, this.stored⟩

theorem SameMemberBits.trans_grown {a b : VlanDb ch} (h : SameMemberBits a b)
    (h' : MembersGrown b d) : MembersGrown a d := by
  constructor
  · intro o
    rw [← h.members o]
    exact h'.members o
  · intro o ho
    exact (h'.stored o ho).imp_left (h.stored o).mp

theorem createVlanRecord_members (hptr : ptr.toNat < 4096)
    (hr : createVlanRecord sdk db (vlanOid ch.lchip ptr) ptr vlanId attrs = some r) :
    MembersGrown db r.2 := by
  have habandon : ∀ d : VlanDb ch, SameMemberBits db d →
      MembersGrown db (d.abandon sdk ptr vlanId) := fun d h =>
    ⟨fun o => .inl (h.members o), fun o ho => .inl ((h.stored o).mp ho)⟩
  simp only [createVlanRecord] at hr
  split at hr
  · cases hr
  · next db₁ h₁ =>
    have same₁ := vlanSetGiven_members h₁
    split at hr
    · split at hr
      · cases hr
        exact habandon _ same₁
      · split at hr
        · cases hr
          exact habandon _ same₁
        · next hnew =>
          split at hr
          · cases hr
            exact habandon _ same₁
          · have hnone := Option.not_isSome_iff_eq_none.mp hnew
            exact same₁.trans_grown (createVlanLate_members hptr hnone hr)
    · cases hr
      exact habandon _ same₁
  · next h₁ =>
    cases hr
    exact habandon _ (vlanSetGiven_members h₁)

theorem createVlan_members {r : Status × Option Oid × VlanDb ch}
    (hr : createVlan sdk db attrs = some r) : MembersGrown db r.2.2 := by
  simp only [createVlan] at hr
  split at hr
  · cases hr
    exact (SameMemberBits.refl db).grown
  split at hr
  · cases hr
    exact (SameMemberBits.refl db).grown
  split at hr
  · cases hr
    exact (SameMemberBits.refl db).grown
  next i pool ha =>
  obtain ⟨-, hlo, hhi, -, -⟩ := Pool.alloc_some ha
  have htop := ch.ids_top
  have hptr : (BitVec.ofNat 16 i).toNat < 4096 := by
    simp only [BitVec.toNat_ofNat]
    omega
  split at hr
  · obtain ⟨x, hx, rfl⟩ := Option.map_eq_some_iff.mp hr
    have grown := createVlanRecord_members hptr hx
    exact ⟨grown.members, grown.stored⟩
  · cases hr
    exact ⟨fun _ => .inl rfl, fun _ => .inl⟩

theorem removeVlan_members (hr : removeVlan sdk db oid = some r) :
    r.1 = .success ∧ r.2.vlans = db.vlans.erase oid ∨ r.1 ≠ .success ∧ r.2.vlans = db.vlans := by
  have hne : ∀ {st : Status} {d : VlanDb ch}, some (st, d) = some r → (st = .success → False) →
      d.vlans = db.vlans → r.1 ≠ .success ∧ r.2.vlans = db.vlans := by
    intro st d he hst hd
    cases he
    exact ⟨hst, hd⟩
  simp only [removeVlan, VlanDb.withVlan] at hr
  split at hr
  · exact .inr (hne hr nofun rfl)
  · cases hr
  split at hr
  · split at hr
    · split at hr
      · cases hr
      · split at hr
        · split at hr
          · cases hr
            exact .inl ⟨rfl, rfl⟩
          · next hst => exact .inr (hne hr hst rfl)
        · next hst => exact .inr (hne hr hst rfl)
    · next hst _ => exact .inr (hne hr hst rfl)
  · next hst => exact .inr (hne hr hst rfl)

end Vlans

end CtcSai
