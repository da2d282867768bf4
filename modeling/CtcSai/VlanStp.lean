/-
# `VlanStp` — a VLAN in one STP instance

`binding` is what STP depends on in the record of a VLAN: its numbers and the
instance it remembers.  All that the module does to a record is either the same
on bindings, a `bind` or an `unbind`, and the bitmaps of the instances follow the
bindings as long as no `bind` takes a VLAN out of another instance.
-/
import CtcSai.Vlan
import CtcSai.Lib.Run

namespace CtcSai

open Function KeyedTable Runs Table

variable {ch : VlanChip}
variable {db : VlanDb ch} {oid : Oid} {n : BitVec 8} {c : Lchip}

/-! ## Bindings -/

/-- `user_vlanptr`, `vlan_id` and `stp_id` of a VLAN that exists. -/
def VlanDb.binding (db : VlanDb ch) (oid : Oid) :
    Option (BitVec 16 × BitVec 16 × BitVec 8) :=
  (db.vlans.lookup oid).join.map fun v => (v.userVlanptr, v.vlanId, v.stpId)

theorem VlanDb.Live.binding {v : VlanUser} (h : db.Live oid v) :
    db.binding oid = some (v.userVlanptr, v.vlanId, v.stpId) := by
  unfold VlanDb.binding
  rw [show db.vlans.lookup oid = some (some v) from h]
  rfl

theorem VlanDb.exists_live {p i : BitVec 16} (h : db.binding oid = some (p, i, n)) :
    ∃ v, db.Live oid v ∧ v.userVlanptr = p ∧ v.vlanId = i ∧ v.stpId = n := by
  unfold VlanDb.binding at h
  cases hl : db.vlans.lookup oid with
  | none => simp [hl] at h
  | some x =>
    cases x with
    | none => simp [hl] at h
    | some v =>
      simp only [hl, Option.join_some, Option.map_some, Option.some.injEq, Prod.mk.injEq] at h
      exact ⟨v, hl, h.1, h.2.1, h.2.2⟩

theorem VlanDb.binding_eq_none (h : db.vlans.lookup oid = none) : db.binding oid = none := by
  unfold VlanDb.binding
  rw [h]
  rfl

/-- Nothing that STP depends on differs. -/
structure SameStp (db db' : VlanDb ch) : Prop where
  binding : db'.binding = db.binding
  stps : db'.stps = db.stps
  stpid : db'.hw.stpid = db.hw.stpid
  vlanIds : db'.hw.vlanIds = db.hw.vlanIds

theorem SameStp.refl (db : VlanDb ch) : SameStp db db := ⟨rfl, rfl, rfl, rfl⟩

theorem SameStp.trans {a b c : VlanDb ch} (h : SameStp a b) (h' : SameStp b c) : SameStp a c :=
  ⟨h'.binding.trans h.binding, h'.stps.trans h.stps, h'.stpid.trans h.stpid,
    h'.vlanIds.trans h.vlanIds⟩

theorem binding_write (db : VlanDb ch) (oid o : Oid) (v : VlanUser) : (db.write oid v).binding o =
      if o = oid then some (v.userVlanptr, v.vlanId, v.stpId) else db.binding o := by
  unfold VlanDb.binding VlanDb.write
  rw [lookup_insert_ite]
  split <;> rfl

theorem binding_dangle (db : VlanDb ch) (oid o : Oid) :
    (db.dangle oid).binding o = if o = oid then none else db.binding o := by
  unfold VlanDb.binding VlanDb.dangle
  rw [lookup_insert_ite]
  split <;> rfl

section Same

variable {sdk : VlanSdk} {db : VlanDb ch} {oid : Oid} {v : VlanUser}

theorem VlanDb.Live.write (h : db.Live oid v) {v' : VlanUser}
    (hp : v'.userVlanptr = v.userVlanptr) (hi : v'.vlanId = v.vlanId) (hs : v'.stpId = v.stpId) :
    SameStp db (db.write oid v') := by
  refine ⟨?_, rfl, rfl, rfl⟩
  funext o
  rw [binding_write]
  split
  · rename_i ho
    rw [ho, h.binding, hp, hi, hs]
  · rfl

theorem vlanSetUnknownPktAction_same (sdk : VlanSdk) (hw : VlanHw) (fid : BitVec 16)
    (a b : BitVec 32) (cls : VlanPktType) :
    (vlanSetUnknownPktAction sdk hw fid a b cls).stpid = hw.stpid ∧
      (vlanSetUnknownPktAction sdk hw fid a b cls).vlanIds = hw.vlanIds := by
  unfold vlanSetUnknownPktAction
  split
  · split <;> exact ⟨rfl, rfl⟩
  · exact ⟨rfl, rfl⟩

theorem vlanSetAttr_same {attr : VlanAttr} (hid : attr.id ≠ .stpInstance)
    {r : Status × VlanDb ch} (hr : vlanSetAttr sdk db oid attr = some r) : SameStp db r.2 := by
  rcases vlanSetAttr_changes hr with h | ⟨v, hv, hc⟩
  · rw [h.eq]; exact .refl db
  cases hc with
  | steady _ _ hs h => rw [h]; exact hv.write hs.ptr hs.vlanId hs.stpId
  | @flood cls s _ _ _ h =>
    have same : SameStp db (db.write oid { v with
        ukwnFloodCtr := update v.ukwnFloodCtr cls s }) := hv.write rfl rfl rfl
    have hw := vlanSetUnknownPktAction_same sdk db.hw v.userVlanptr (db.fdbMissAction cls) s cls
    rw [h]
    exact ⟨same.binding, rfl, hw.1, hw.2⟩
  | stp h _ => exact absurd (congrArg VlanAttr.id h) hid

theorem vlanSetGiven_same {attrs : List VlanAttr} {ids : List VlanAttrId}
    (hids : VlanAttrId.stpInstance ∉ ids) {r : Status × VlanDb ch}
    (hr : vlanSetGiven sdk oid attrs db ids = some r) : SameStp db r.2 := by
  induction ids generalizing db with
  | nil => cases hr; exact .refl db
  | cons i rest ih =>
    have hrest := fun h => hids (List.mem_cons_of_mem i h)
    simp only [vlanSetGiven] at hr
    split at hr
    · exact ih hrest hr
    rename_i a ha
    have hid : a.id ≠ .stpInstance := by
      intro h
      have hi := List.find?_some ha
      exact hids (List.mem_cons.mpr (.inl (h.symm.trans (of_decide_eq_true hi))))
    split at hr
    · cases hr
    · rename_i db₁ h₁
      exact (vlanSetAttr_same hid h₁).trans (ih hrest hr)
    · rename_i status db₁ _ h₁
      cases hr
      exact vlanSetAttr_same hid h₁

end Same

/-! ## Instances -/

theorem stpsSetInstance_add {rc : CtcE} {stps stps' : Table Oid StpInfo} {i : BitVec 12}
    {stp : Oid} (h : stpsSetInstance rc stps i stp true = (.success, stps')) :
    rc = .none ∧ ∃ s, stps.lookup stp = some s ∧ stps' = if stp.value = 0 then stps
      else stps.insert stp { s with
        vlanBindBits := insert i s.vlanBindBits
        vlanBindCount := s.vlanBindCount + 1 } := by
  unfold stpsSetInstance at h
  split at h
  · cases h
  rename_i s hs
  simp only [if_true] at h
  split at h
  · rename_i hrc
    refine ⟨mappingErrorCtc_eq_success.mp hrc, s, hs, ?_⟩
    split at h
    · rename_i h0
      rw [if_pos h0]
      exact (Prod.mk.inj h).2.symm
    · rename_i h0
      rw [if_neg h0]
      exact (Prod.mk.inj h).2.symm
  · rename_i hne
    exact absurd (Prod.mk.inj h).1 hne

theorem stpsSetInstance_remove {rc : CtcE} {stps stps' : Table Oid StpInfo} {i : BitVec 12}
    {stp : Oid} (h : stpsSetInstance rc stps i stp false = (.success, stps')) :
    ∃ s, stps.lookup stp = some s ∧ stps' = if stp.value = 0 then stps else stps.insert stp { s with
        vlanBindBits := s.vlanBindBits.erase i
        vlanBindCount := s.vlanBindCount - 1 } := by
  unfold stpsSetInstance at h
  split at h
  · cases h
  rename_i s hs
  refine ⟨s, hs, ?_⟩
  simp only [Bool.false_eq_true, if_false] at h
  split at h
  · rename_i h0
    rw [if_pos h0]
    exact (Prod.mk.inj h).2.symm
  · rename_i h0
    rw [if_neg h0]
    exact (Prod.mk.inj h).2.symm

/-- The object id of an instance that has one byte. -/
def stpByteOid (c : Lchip) (n : BitVec 8) : Oid := stpOid c (n.setWidth 32)

theorem value_stpByteOid (c : Lchip) (n : BitVec 8) : (stpByteOid c n).value = n.setWidth 32 := rfl

@[simp] theorem stpByteOid_value_eq_zero : (stpByteOid c n).value = 0 ↔ n = 0 := by
  rw [value_stpByteOid]
  constructor
  · intro h
    have := congrArg BitVec.toNat h
    apply BitVec.eq_of_toNat_eq
    simp only [BitVec.toNat_setWidth, BitVec.ofNat_eq_ofNat, BitVec.toNat_ofNat] at this ⊢
    omega
  · rintro rfl
    rfl

theorem setWidth_value_stpByteOid (c : Lchip) (n : BitVec 8) :
    (stpByteOid c n).value.setWidth 8 = n := by
  rw [value_stpByteOid]
  bv_omega

theorem stpByteOid_inj {m : BitVec 8} (h : stpByteOid c n = stpByteOid c m) : n = m := by
  rw [← setWidth_value_stpByteOid c n, h, setWidth_value_stpByteOid]

theorem setWidth_twelve_inj {i j : BitVec 16} (hi : i.toNat < 4096) (hj : j.toNat < 4096)
    (h : i.setWidth 12 = j.setWidth 12) : i = j := by
  have := congrArg BitVec.toNat h
  simp only [BitVec.toNat_setWidth] at this
  apply BitVec.eq_of_toNat_eq
  omega

/-! ## The invariant -/

/-- The bitmaps of the instances follow the bindings. -/
structure VlanStpInv (db : VlanDb ch) : Prop where
  key : ∀ {oid p i n}, db.binding oid = some (p, i, n) → oid = vlanOid ch.lchip p
  id : ∀ {oid p i n}, db.binding oid = some (p, i, n) → i.toNat < 4096 ∧ i ∈ db.hw.vlanIds
  once : ∀ {o o' p p' i n n'}, db.binding o = some (p, i, n) → db.binding o' = some (p', i, n') →
    o = o'
  stp : ∀ {oid p i n}, db.binding oid = some (p, i, n) →
    db.hw.stpid p = n ∧ (db.stps.lookup (stpByteOid ch.lchip n)).isSome
  bits : ∀ {o s}, db.stps.lookup o = some s → ∀ x : BitVec 12, x ∈ s.vlanBindBits ↔
    ∃ oid p i n, db.binding oid = some (p, i, n) ∧ n ≠ 0 ∧ i.setWidth 12 = x ∧
      o = stpByteOid ch.lchip n
  stpKey : ∀ {o s}, db.stps.lookup o = some s → ∃ n : BitVec 8, o = stpByteOid ch.lchip n

theorem vlanOid_inj {p q : BitVec 16} (h : vlanOid c p = vlanOid c q) : p = q := by
  have h' : p.setWidth 32 = q.setWidth 32 := congrArg Oid.value h
  have := congrArg BitVec.toNat h'
  simp only [BitVec.toNat_setWidth] at this
  apply BitVec.eq_of_toNat_eq
  omega

section Inv

variable {db db' : VlanDb ch}
variable {i : BitVec 16}

theorem VlanStpInv.of_eq (h : VlanStpInv db) (hb : db'.binding = db.binding)
    (hs : db'.stps = db.stps) (hp : db'.hw.stpid = db.hw.stpid)
    (hi : ∀ {oid p i n}, db.binding oid = some (p, i, n) → i ∈ db'.hw.vlanIds) :
    VlanStpInv db' where
  key := by rw [hb]; exact h.key
  id := by rw [hb]; exact fun hx => ⟨(h.id hx).1, hi hx⟩
  once := by rw [hb]; exact h.once
  stp := by rw [hb, hs, hp]; exact h.stp
  bits := by rw [hb, hs]; exact h.bits
  stpKey := by rw [hs]; exact h.stpKey

theorem VlanStpInv.same (h : VlanStpInv db) (hs : SameStp db db') : VlanStpInv db' :=
  h.of_eq hs.binding hs.stps hs.stpid (by rw [hs.vlanIds]; exact fun hx => (h.id hx).2)

theorem VlanStpInv.stpKey_of (h : VlanStpInv db) (hk : SameKeys db.stps db'.stps) {o : Oid}
    {s : StpInfo} (hs : db'.stps.lookup o = some s) : ∃ n : BitVec 8, o = stpByteOid ch.lchip n := by
  have hsome := hk o
  rw [hs] at hsome
  obtain ⟨t, ht⟩ := Option.isSome_iff_exists.mp hsome.symm
  exact h.stpKey ht

/-- A binding into an instance, of a VLAN that is in none or in that one. -/
theorem VlanStpInv.bind (h : VlanStpInv db) {oid : Oid} {p : BitVec 16} {n : BitVec 8} {s : StpInfo}
    (hkey : oid = vlanOid ch.lchip p) (hi : i.toNat < 4096) (hid : i ∈ db'.hw.vlanIds)
    (hids : db.hw.vlanIds ⊆ db'.hw.vlanIds) (hs : db.stps.lookup (stpByteOid ch.lchip n) = some s)
    (hother : ∀ {o q m}, db.binding o = some (q, i, m) → o = oid)
    (hown : ∀ {q j m}, db.binding oid = some (q, j, m) → j = i ∧ (m = 0 ∨ m = n))
    (hb : ∀ o, db'.binding o = if o = oid then some (p, i, n) else db.binding o)
    (hst : db'.stps = if n = 0 then db.stps else db.stps.insert (stpByteOid ch.lchip n) { s with
      vlanBindBits := insert (i.setWidth 12) s.vlanBindBits
      vlanBindCount := s.vlanBindCount + 1 }) (hpid : db'.hw.stpid = update db.hw.stpid p n) :
    VlanStpInv db' := by
  have hsome : SameKeys db.stps db'.stps := by
    rw [hst]
    split
    · exact .refl _
    · exact .insert (by rw [hs]; rfl) _
  constructor
  case key =>
    intro o q j m hq
    rw [hb] at hq
    split at hq
    · rename_i ho
      cases hq
      rw [ho, hkey]
    · exact h.key hq
  case id =>
    intro o q j m hq
    rw [hb] at hq
    split at hq
    · cases hq; exact ⟨hi, hid⟩
    · exact ⟨(h.id hq).1, hids (h.id hq).2⟩
  case once =>
    intro o o' q q' j m m' hq hq'
    rw [hb] at hq hq'
    split at hq <;> split at hq'
    · rename_i ho ho'; rw [ho, ho']
    · rename_i ho ho'; cases hq; rw [ho, hother hq']
    · rename_i ho ho'; cases hq'; rw [ho', hother hq]
    · exact h.once hq hq'
  case stp =>
    intro o q j m hq
    rw [hb] at hq
    rw [hsome _, hpid]
    split at hq
    · cases hq
      exact ⟨update_self .., by rw [hs]; rfl⟩
    rename_i ho
    have hne : q ≠ p := by
      intro hqp
      exact ho (by rw [h.key hq, hqp, hkey])
    rw [update_of_ne hne]
    exact h.stp hq
  case bits =>
    intro o t ht x
    -- the other bindings of an instance are untouched
    have hold : (∃ o' q j m, db.binding o' = some (q, j, m) ∧ m ≠ 0 ∧ j.setWidth 12 = x ∧
          o = stpByteOid ch.lchip m) ∨ (n ≠ 0 ∧ i.setWidth 12 = x ∧ o = stpByteOid ch.lchip n) ↔
        ∃ o' q j m, db'.binding o' = some (q, j, m) ∧ m ≠ 0 ∧ j.setWidth 12 = x ∧
          o = stpByteOid ch.lchip m := by
      constructor
      · rintro (⟨o', q, j, m, hq, hm, hj, ho⟩ | ⟨hn, hx, ho⟩)
        · by_cases hoid : o' = oid
          · obtain ⟨rfl, hmn⟩ := hown (hoid ▸ hq)
            obtain rfl := hmn.resolve_left hm
            exact ⟨oid, p, j, m, by rw [hb, if_pos rfl], hm, hj, ho⟩
          · exact ⟨o', q, j, m, by rw [hb, if_neg hoid]; exact hq, hm, hj, ho⟩
        · exact ⟨oid, p, i, n, by rw [hb, if_pos rfl], hn, hx, ho⟩
      · rintro ⟨o', q, j, m, hq, hm, hj, ho⟩
        rw [hb] at hq
        split at hq
        · cases hq; exact .inr ⟨hm, hj, ho⟩
        · exact .inl ⟨o', q, j, m, hq, hm, hj, ho⟩
    rw [← hold, hst] at *
    split at ht
    · rename_i hn
      rw [h.bits ht x]
      exact ⟨.inl, fun h => h.elim (fun hx => hx) fun h' => absurd hn h'.1⟩
    rename_i hn
    rcases of_lookup_insert ht with ⟨ho, rfl⟩ | ⟨ho, ht⟩
    · rw [Finset.mem_insert, h.bits (ho ▸ hs) x]
      exact ⟨fun h => h.elim (fun hx => .inr ⟨hn, hx.symm, ho⟩) .inl,
        fun h => h.elim .inr fun h' => .inl h'.2.1.symm⟩
    · rw [h.bits ht x]
      exact ⟨.inl, fun h => h.elim (fun hx => hx) fun h' => absurd h'.2.2 ho⟩
  case stpKey => exact h.stpKey_of hsome

/-- A binding is given up, and its bit with it. -/
theorem VlanStpInv.unbind (h : VlanStpInv db) {oid : Oid} {p : BitVec 16} {n : BitVec 8}
    {s : StpInfo} (hown : db.binding oid = some (p, i, n))
    (hs : db.stps.lookup (stpByteOid ch.lchip n) = some s)
    (hids : ∀ j ∈ db.hw.vlanIds, j ≠ i → j ∈ db'.hw.vlanIds)
    (hb : ∀ o, db'.binding o = if o = oid then none else db.binding o)
    (hst : db'.stps = if n = 0 then db.stps else db.stps.insert (stpByteOid ch.lchip n) { s with
      vlanBindBits := s.vlanBindBits.erase (i.setWidth 12)
      vlanBindCount := s.vlanBindCount - 1 }) (hpid : db'.hw.stpid = db.hw.stpid) :
    VlanStpInv db' := by
  have hsub : ∀ {o q j m}, db'.binding o = some (q, j, m) →
      o ≠ oid ∧ db.binding o = some (q, j, m) := by
    intro o q j m hq
    rw [hb] at hq
    split at hq
    · cases hq
    · rename_i ho; exact ⟨ho, hq⟩
  have hsome : SameKeys db.stps db'.stps := by
    rw [hst]
    split
    · exact .refl _
    · exact .insert (by rw [hs]; rfl) _
  constructor
  case key => intro o q j m hq; exact h.key (hsub hq).2
  case id =>
    intro o q j m hq
    obtain ⟨ho, hq⟩ := hsub hq
    refine ⟨(h.id hq).1, hids j (h.id hq).2 ?_⟩
    rintro rfl
    exact ho (h.once hq hown)
  case once => intro o o' q q' j m m' hq hq'; exact h.once (hsub hq).2 (hsub hq').2
  case stp =>
    intro o q j m hq
    rw [hsome _, hpid]
    exact h.stp (hsub hq).2
  case bits =>
    intro o t ht x
    have hnew : (∃ o' q j m, db'.binding o' = some (q, j, m) ∧ m ≠ 0 ∧ j.setWidth 12 = x ∧
          o = stpByteOid ch.lchip m) ↔
        (∃ o' q j m, db.binding o' = some (q, j, m) ∧ m ≠ 0 ∧ j.setWidth 12 = x ∧
          o = stpByteOid ch.lchip m) ∧ ¬ (i.setWidth 12 = x ∧ o = stpByteOid ch.lchip n) := by
      constructor
      · rintro ⟨o', q, j, m, hq, hm, hj, ho⟩
        obtain ⟨hne, hq⟩ := hsub hq
        refine ⟨⟨o', q, j, m, hq, hm, hj, ho⟩, ?_⟩
        rintro ⟨hx, -⟩
        obtain rfl := setWidth_twelve_inj (h.id hq).1 (h.id hown).1 (hj.trans hx.symm)
        exact hne (h.once hq hown)
      · rintro ⟨⟨o', q, j, m, hq, hm, hj, ho⟩, hno⟩
        refine ⟨o', q, j, m, ?_, hm, hj, ho⟩
        rw [hb, if_neg]
        · exact hq
        · rintro rfl
          rw [hown] at hq
          cases hq
          exact hno ⟨hj, ho⟩
    rw [hnew]
    rw [hst] at ht
    split at ht
    · rename_i hn
      rw [h.bits ht x]
      refine ⟨fun hx => ⟨hx, ?_⟩, And.left⟩
      rintro ⟨-, ho⟩
      obtain ⟨o', q, j, m, -, hm, -, ho'⟩ := hx
      exact hm ((stpByteOid_inj (ho'.symm.trans ho)).trans hn)
    rcases of_lookup_insert ht with ⟨ho, rfl⟩ | ⟨ho, ht⟩
    · rw [Finset.mem_erase, h.bits (ho ▸ hs) x]
      exact ⟨fun hx => ⟨hx.2, fun h' => hx.1 h'.1.symm⟩,
        fun hx => ⟨fun h' => hx.2 ⟨h'.symm, ho⟩, hx.1⟩⟩
    · rw [h.bits ht x]
      exact ⟨fun hx => ⟨hx, fun h' => ho h'.2⟩, And.left⟩
  case stpKey => exact h.stpKey_of hsome

theorem VlanStpInv.abandon (h : VlanStpInv db) (sdk : VlanSdk) (ptr : BitVec 16)
    (hnew : ∀ {o q j m}, db.binding o = some (q, j, m) → j ≠ i) :
    VlanStpInv (db.abandon sdk ptr i) := by
  have hpid : (db.abandon sdk ptr i).hw.stpid = db.hw.stpid := by
    show (db.hw.destroyVlan sdk i).stpid = _
    unfold VlanHw.destroyVlan
    split <;> rfl
  refine h.of_eq rfl rfl hpid ?_
  intro o q j m hq
  show j ∈ (db.hw.destroyVlan sdk i).vlanIds
  unfold VlanHw.destroyVlan
  split
  · exact Finset.mem_erase.mpr ⟨hnew hq, (h.id hq).2⟩
  · exact (h.id hq).2

end Inv

/-! ## The operations -/

section Ops

variable {sdk : VlanSdk} {db : VlanDb ch} {oid : Oid}
variable {v : VlanUser} {r : Status × VlanDb ch}

/-- STP_INSTANCE of a VLAN whose record, in `db`, is new or unbound or bound to
the same instance; it fails and changes nothing, or binds. -/
theorem VlanStpInv.setStp (h : VlanStpInv db) {db₁ : VlanDb ch} {stp : Oid}
    (hb : ∀ o, o ≠ oid → db₁.binding o = db.binding o) (hst : db₁.stps = db.stps)
    (hhw : db₁.hw = db.hw) (hkey : oid = vlanOid ch.lchip v.userVlanptr)
    (hi : v.vlanId.toNat < 4096) (hid : v.vlanId ∈ db.hw.vlanIds)
    (hother : ∀ {o q m}, db.binding o = some (q, v.vlanId, m) → o = oid)
    (hr : vlanSetStp sdk db₁ oid v stp = some r)
    (hown : sdk.rc .setVlanStpid = .none → (db.stps.lookup stp).isSome →
      ∀ q j m, db.binding oid = some (q, j, m) →
        j = v.vlanId ∧ (m = 0 ∨ stp = stpByteOid ch.lchip m)) :
    r.1 ≠ .success ∧ r.2 = db₁ ∨ r.1 = .success ∧ VlanStpInv r.2 ∧
      ∃ n, stp = stpByteOid ch.lchip n ∧
        r.2.binding oid = some (v.userVlanptr, v.vlanId, n) := by
  unfold vlanSetStp at hr
  split at hr
  · rename_i stps hset
    split at hr
    · cases hr
    obtain ⟨hrc, s, hs, hstps⟩ := stpsSetInstance_add hset
    rw [hst] at hs
    obtain ⟨n, rfl⟩ := h.stpKey hs
    rw [setWidth_value_stpByteOid] at hr
    have hbind : ∀ o, r.2.binding o =
        if o = oid then some (v.userVlanptr, v.vlanId, n) else db.binding o := by
      intro o
      cases hr
      refine (binding_write db₁ oid o { v with stpId := n }).trans ?_
      split
      · rfl
      · rename_i ho; exact hb o ho
    have hown := hown hrc (by rw [hs]; rfl)
    refine .inr ⟨by cases hr; rfl, ?_, n, rfl, by rw [hbind, if_pos rfl]⟩
    refine VlanStpInv.bind h hkey hi ?_ ?_ hs hother ?_ hbind ?_ ?_
    · cases hr; rw [hhw]; exact hid
    · cases hr; rw [hhw]
    · intro q j m hq
      obtain ⟨hj, hm⟩ := hown q j m hq
      exact ⟨hj, hm.imp_right fun heq => (stpByteOid_inj heq).symm⟩
    · cases hr
      refine hstps.trans ?_
      simp only [stpByteOid_value_eq_zero, hst]
    · cases hr; rw [hhw]
  · rename_i status stps hne hset
    cases hr
    exact .inl ⟨hne, rfl⟩

theorem vlanSetInfo_stp (hv : db.Live oid v) (stp : Oid) :
    vlanSetInfo sdk db oid (.stpInstance stp) = vlanSetStp sdk db oid v stp := hv.withVlan _ _

/-! ### Creation -/

/-- An attribute that creation sets last is one its set function takes. -/
def VlanAttr.Accepted (ch : VlanChip) (sdk : VlanSdk) : VlanAttr → Prop
  | .ipv4McastLookupKeyType s =>
    McastLookupKeyTypeValid s ∧ sdk.rc .setIpv4BasedL2mc = .none
  | .ipv6McastLookupKeyType s =>
    McastLookupKeyTypeValid s ∧ sdk.rc .setIpv6BasedL2mc = .none
  | .ingressAcl acl => sdk.aclBindPointSet (.ingressAcl acl) = .success
  | .egressAcl acl => sdk.aclBindPointSet (.egressAcl acl) = .success
  | .floodControlType cls s =>
    ¬ (cls = .broadcast ∧ ch.chipType = .goldengate) ∧ (s = 0 ∨ s = 1)
  | .metaData _ => ∀ n, sdk.rc (.setAclClassid n) = .none
  | _ => True

theorem calls_single {c : VlanCall} (h : sdk.rc c = .none) : sdk.calls [c] = .success := by
  simp only [VlanSdk.calls, mappingErrorCtc_eq_success.mpr h]

theorem VlanAttr.Accepted.set {a : VlanAttr} (ha : a.Accepted ch sdk) (hid : a.id ∈ vlanLateAttrs)
    (hv : db.Live oid v) (hr : vlanSetAttr sdk db oid a = some r) : r.1 = .success := by
  cases a with
  | ipv4McastLookupKeyType _ | ipv6McastLookupKeyType _ =>
    have h := hr.symm.trans ((hv.withVlan _ _).trans (if_pos ha.1))
    rw [Option.some.inj h]
    exact calls_single ha.2
  | ingressAcl acl => cases hr; exact ha
  | egressAcl acl => cases hr; exact ha
  | floodControlType cls s =>
    have h := hr.symm.trans (hv.withVlan _ _)
    rw [Option.some.inj h]
    have hs : ¬ (s = 2 ∨ s = 3) ∧ ¬ (s.toInt < 0 ∨ 3 < s.toInt) := by
      rcases ha.2 with rfl | rfl <;> decide
    simp only [vlanSetFloodControl, if_neg ha.1, if_neg hs.1, if_neg hs.2]
  | metaData n =>
    have h := hr.symm.trans (hv.withVlan _ _)
    rw [Option.some.inj h]
    simp only [aclClassidCalls, VlanSdk.calls, mappingErrorCtc_eq_success.mpr (ha _)]
  | _ => simp [VlanAttr.id, vlanLateAttrs] at hid

theorem vlanSetGiven_accepted {attrs : List VlanAttr} {ids : List VlanAttrId}
    (hids : ids ⊆ vlanLateAttrs)
    (ha : ∀ i ∈ ids, ∀ a, (attrs.find? fun a => a.id = i) = some a → a.Accepted ch sdk)
    {x : BitVec 16 × BitVec 16 × BitVec 8} (hb : db.binding oid = some x)
    (hr : vlanSetGiven sdk oid attrs db ids = some r) :
    r.1 = .success := by
  induction ids generalizing db with
  | nil => cases hr; rfl
  | cons i rest ih =>
    have hrest : rest ⊆ vlanLateAttrs := fun j hj => hids (List.mem_cons_of_mem i hj)
    have harest := fun j hj => ha j (List.mem_cons_of_mem i hj)
    simp only [vlanSetGiven] at hr
    split at hr
    · exact ih hrest harest hb hr
    rename_i a hfind
    have hid : a.id ∈ vlanLateAttrs := by
      have hi := List.find?_some hfind
      rw [of_decide_eq_true hi]
      exact hids List.mem_cons_self
    obtain ⟨v, hv, -⟩ := db.exists_live hb
    have hacc := ha i List.mem_cons_self a hfind
    split at hr
    · cases hr
    · rename_i db₁ h₁
      have hne : a.id ≠ .stpInstance := by
        intro h
        rw [h] at hid
        simp [vlanLateAttrs] at hid
      exact ih hrest harest (by rw [(vlanSetAttr_same hne h₁).binding]; exact hb) hr
    · rename_i status db₁ hne h₁
      exact absurd (hacc.set hid hv h₁) hne

/-- The instance a creation binds is the default one, or nothing fails after
it is bound. -/
def CreateStpSafe (ch : VlanChip) (sdk : VlanSdk) (attrs : List VlanAttr) : Prop :=
  (vlanStpOf ch.lchip attrs).value ≠ 0 → ∀ i ∈ vlanLateAttrs, ∀ a,
    (attrs.find? fun a => a.id = i) = some a → a.Accepted ch sdk

section Create

variable {ptr i : BitVec 16} {attrs : List VlanAttr}

theorem VlanStpInv.createLate (h : VlanStpInv db) {v : VlanUser} (hp : v.userVlanptr = ptr)
    (hi : v.vlanId = i) (hi' : i.toNat < 4096) (hid : i ∈ db.hw.vlanIds)
    (hnew : ∀ {o q j m}, db.binding o = some (q, j, m) → j ≠ i)
    (hnone : db.vlans.lookup (vlanOid ch.lchip ptr) = none) (hsafe : CreateStpSafe ch sdk attrs)
    {r : Status × VlanDb ch}
    (hr : createVlanLate sdk (db.write (vlanOid ch.lchip ptr) v) (vlanOid ch.lchip ptr) ptr i
      attrs = some r) : VlanStpInv r.2 := by
  subst hp hi
  have hb := db.binding_eq_none hnone
  have hlive : (db.write (vlanOid ch.lchip v.userVlanptr) v).Live (vlanOid ch.lchip v.userVlanptr)
      v := AList.lookup_insert _
  have hset : ∀ {r}, vlanSetInfo sdk (db.write (vlanOid ch.lchip v.userVlanptr) v)
      (vlanOid ch.lchip v.userVlanptr) (.stpInstance (vlanStpOf ch.lchip attrs)) = some r →
      r.1 ≠ .success ∧ r.2 = db.write (vlanOid ch.lchip v.userVlanptr) v ∨
        r.1 = .success ∧ VlanStpInv r.2 ∧ ∃ n, vlanStpOf ch.lchip attrs = stpByteOid ch.lchip n ∧
          r.2.binding (vlanOid ch.lchip v.userVlanptr) = some (v.userVlanptr, v.vlanId, n) := by
    intro r hr
    have hst : (db.write (vlanOid ch.lchip v.userVlanptr) v).stps = db.stps := rfl
    refine h.setStp (fun o ho => ?_) hst rfl rfl hi' hid
      (fun hq => absurd rfl (hnew hq)) ((vlanSetInfo_stp hlive _).symm.trans hr)
      (fun _ _ q j m hq => ?_)
    · rw [binding_write, if_neg ho]
    · rw [hb] at hq
      cases hq
  -- the record is stored and its memory given back
  have hdangle : ∀ {db' : VlanDb ch}, (∀ o, o ≠ vlanOid ch.lchip v.userVlanptr →
      db'.binding o = db.binding o) → db'.stps = db.stps → db'.hw = db.hw →
      VlanStpInv ((db'.dangle (vlanOid ch.lchip v.userVlanptr)).abandon sdk v.userVlanptr
        v.vlanId) := by
    intro db' hb' hst hhw
    have hbinding : (db'.dangle (vlanOid ch.lchip v.userVlanptr)).binding = db.binding := by
      funext o
      rw [binding_dangle]
      split
      · rename_i ho; rw [ho, hb]
      · rename_i ho; exact hb' o ho
    refine VlanStpInv.abandon (h.of_eq hbinding hst (congrArg VlanHw.stpid hhw) ?_) sdk _ ?_
    · intro o q j m hq
      show j ∈ db'.hw.vlanIds
      rw [hhw]
      exact (h.id hq).2
    · rw [hbinding]
      exact hnew
  unfold createVlanLate at hr
  dsimp only at hr
  split at hr
  · cases hr
  · rename_i db₁ h₁
    obtain ⟨-, inv, n, hn, hbn⟩ := (hset h₁).resolve_left fun h0 => h0.1 rfl
    have hlate : VlanAttrId.stpInstance ∉ vlanLateAttrs := by decide
    split at hr
    · cases hr
    · rename_i db₂ h₂
      cases hr
      exact inv.same (vlanSetGiven_same hlate h₂)
    rename_i r₂ hne h₂
    cases hr
    have same := vlanSetGiven_same hlate h₂
    by_cases hn0 : n = 0
    · -- the default instance has no bitmap to leave behind
      have inv₂ := inv.same same
      obtain ⟨s, hs⟩ := Option.isSome_iff_exists.mp (inv.stp hbn).2
      have hstps : r₂.2.stps.lookup (stpByteOid ch.lchip n) = some s := by
        rw [same.stps]
        exact hs
      have hbn₂ : r₂.2.binding (vlanOid ch.lchip v.userVlanptr) =
          some (v.userVlanptr, v.vlanId, n) := by
        rw [same.binding]
        exact hbn
      have hgone : VlanStpInv (r₂.2.dangle (vlanOid ch.lchip v.userVlanptr)) :=
        inv₂.unbind hbn₂ hstps (fun j hj _ => hj) (binding_dangle r₂.2 _)
          (by rw [if_pos hn0]; rfl) rfl
      refine hgone.abandon sdk _ fun {o q j m} hq => ?_
      rw [binding_dangle] at hq
      split at hq
      · cases hq
      · rename_i ho
        rintro rfl
        exact ho (inv₂.once hq hbn₂)
    · have hvalue : (vlanStpOf ch.lchip attrs).value ≠ 0 := by
        rw [hn]
        exact fun h0 => hn0 (stpByteOid_value_eq_zero.mp h0)
      exact absurd (vlanSetGiven_accepted (List.Subset.refl _) (hsafe hvalue) hbn h₂)
        (fun h0 => hne r₂.2 (Prod.ext h0 rfl))
  · rename_i r₁ hne h₁
    cases hr
    rcases hset h₁ with ⟨-, hdb⟩ | ⟨hsucc, -⟩
    · rw [hdb]
      refine hdangle (fun o ho => ?_) rfl rfl
      rw [binding_write, if_neg ho]
    · exact (hne r₁.2 (Prod.ext hsucc rfl)).elim

theorem VlanStpInv.createRecord (h : VlanStpInv db) (hi : i.toNat < 4096)
    (hid : i ∈ db.hw.vlanIds) (hnew : ∀ {o q j m}, db.binding o = some (q, j, m) → j ≠ i)
    (hsafe : CreateStpSafe ch sdk attrs) {r : Status × VlanDb ch}
    (hr : createVlanRecord sdk db (vlanOid ch.lchip ptr) ptr i attrs = some r) :
    VlanStpInv r.2 := by
  have hearly : VlanAttrId.stpInstance ∉ vlanEarlyAttrs := by decide
  -- the state after the early attributes is the one before, as far as STP goes
  have hafter : ∀ {status db₁}, vlanSetGiven sdk (vlanOid ch.lchip ptr) attrs db vlanEarlyAttrs =
      some (status, db₁) → VlanStpInv db₁ ∧ i ∈ db₁.hw.vlanIds ∧
        ∀ {o q j m}, db₁.binding o = some (q, j, m) → j ≠ i := by
    intro status db₁ h₁
    have same := vlanSetGiven_same hearly h₁
    refine ⟨h.same same, by rw [same.vlanIds]; exact hid, ?_⟩
    rw [same.binding]
    exact hnew
  unfold createVlanRecord at hr
  split at hr
  · cases hr
  · rename_i db₁ h₁
    obtain ⟨inv, hid₁, hnew₁⟩ := hafter h₁
    split at hr
    · split at hr
      · cases hr; exact inv.abandon sdk ptr hnew₁
      · split at hr
        · cases hr; exact inv.abandon sdk ptr hnew₁
        · rename_i hnone
          split at hr
          · cases hr; exact inv.abandon sdk ptr hnew₁
          have hn : db₁.vlans.lookup (vlanOid ch.lchip ptr) = none :=
            Option.not_isSome_iff_eq_none.mp hnone
          refine inv.createLate ?_ ?_ hi hid₁ hnew₁ hn hsafe hr
          · rfl
          · rfl
    · cases hr; exact inv.abandon sdk ptr hnew₁
  · rename_i status db₁ _ h₁
    cases hr
    obtain ⟨inv, -, hnew₁⟩ := hafter h₁
    exact inv.abandon sdk ptr hnew₁

/-- What the SDK promises of `ctcs_vlan_create_uservlan`: an id below 4096 that
no VLAN has. -/
def UservlanAnswer (sdk : VlanSdk) (db : VlanDb ch) (attrs : List VlanAttr) : Prop :=
  sdk.rc .createUservlan = .none → ∀ i, findAttribInList VlanAttr.vlanId? attrs = some i →
    i.toNat < 4096 ∧ i ∉ db.hw.vlanIds

theorem VlanStpInv.create (h : VlanStpInv db) (hsdk : UservlanAnswer sdk db attrs)
    (hsafe : CreateStpSafe ch sdk attrs) {r : Status × Option Oid × VlanDb ch}
    (hr : createVlan sdk db attrs = some r) : VlanStpInv r.2.2 := by
  unfold createVlan at hr
  split at hr
  · cases hr; exact h
  split at hr
  · cases hr; exact h
  rename_i i hfind
  split at hr
  · cases hr; exact h
  rename_i n pool _
  split at hr
  · rename_i hrc
    obtain ⟨hi, hfresh⟩ := hsdk (mappingErrorCtc_eq_success.mp hrc) i hfind
    obtain ⟨r', hr', rfl⟩ := Option.map_eq_some_iff.mp hr
    have inv : VlanStpInv ({ db with
        pool := pool, hw := db.hw.createUservlan i (BitVec.ofNat 16 n) } : VlanDb ch) :=
      h.of_eq rfl rfl rfl fun hq => Finset.mem_insert_of_mem (h.id hq).2
    refine inv.createRecord hi (Finset.mem_insert_self ..) ?_ hsafe hr'
    rintro o q j m hq rfl
    exact hfresh (h.id hq).2
  · cases hr
    exact h.of_eq rfl rfl rfl fun hq => (h.id hq).2

end Create

/-! ### Removal and setting -/

/-- The VLAN goes once its bit has: the hardware gives up one that is in an
instance, and the number of the chip is known where it does. -/
def RemoveStpSafe (sdk : VlanSdk) (db : VlanDb ch) (oid : Oid) : Prop :=
  (∀ v, db.Live oid v → v.stpId ≠ 0 → sdk.rc .destroyVlan = .none) ∧
    (sdk.rc .destroyVlan = .none → sdk.rc .getGchipId = .none)

theorem VlanStpInv.remove (h : VlanStpInv db) (hsafe : RemoveStpSafe sdk db oid)
    (hr : removeVlan sdk db oid = some r) : VlanStpInv r.2 := by
  unfold removeVlan VlanDb.withVlan at hr
  split at hr
  · cases hr; exact h
  · cases hr
  rename_i v hv
  have hb : db.binding oid = _ := VlanDb.Live.binding hv
  have hfree : ∀ pool, VlanStpInv ({ db with pool := pool } : VlanDb ch) := by
    intro pool
    exact h.of_eq rfl rfl rfl fun hq => (h.id hq).2
  dsimp only at hr
  split at hr
  · split at hr
    · rename_i stps hset
      obtain ⟨s, hs, hstps⟩ := stpsSetInstance_remove hset
      simp only [show (stpOid ch.lchip (v.stpId.setWidth 32)).value = 0 ↔ v.stpId = 0 from
        stpByteOid_value_eq_zero] at hstps
      split at hr
      · cases hr
      split at hr
      · rename_i hdestroy
        have hd := mappingErrorCtc_eq_success.mp hdestroy
        rw [hsafe.2 hd] at hr
        cases hr
        refine h.unbind hb hs ?_ ?_ hstps ?_
        · intro j hj hne
          unfold VlanHw.destroyVlan
          rw [if_pos hd]
          exact Finset.mem_erase.mpr ⟨hne, hj⟩
        · intro o
          unfold VlanDb.binding
          rw [lookup_erase_ite]
          split <;> rfl
        · unfold VlanHw.destroyVlan
          split <;> rfl
      · rename_i hne
        cases hr
        have hzero : v.stpId = 0 := by
          by_contra hn
          exact hne (mappingErrorCtc_eq_success.mpr (hsafe.1 v hv hn))
        rw [if_pos hzero] at hstps
        refine h.of_eq rfl hstps rfl fun hq => (h.id hq).2
    · cases hr; exact hfree _
  · cases hr; exact h

/-- The VLAN is in the default instance, or is set to the one it is in. -/
def SetStpSafe (sdk : VlanSdk) (db : VlanDb ch) (oid stp : Oid) : Prop :=
  sdk.rc .setVlanStpid = .none → (db.stps.lookup stp).isSome →
    ∀ v, db.Live oid v → v.stpId = 0 ∨ stp = stpByteOid ch.lchip v.stpId

theorem VlanStpInv.set (h : VlanStpInv db) {attr : VlanAttr}
    (hsafe : ∀ stp, attr = .stpInstance stp → SetStpSafe sdk db oid stp)
    (hr : vlanSetAttr sdk db oid attr = some r) : VlanStpInv r.2 := by
  by_cases hid : attr.id = .stpInstance
  · cases attr with
    | stpInstance stp =>
      have hr' : vlanSetInfo sdk db oid (.stpInstance stp) = some r := hr
      cases hl : db.vlans.lookup oid with
      | none =>
        unfold vlanSetInfo VlanDb.withVlan at hr'
        rw [hl] at hr'
        cases hr'
        exact h
      | some x =>
        cases x with
        | none =>
          unfold vlanSetInfo VlanDb.withVlan at hr'
          rw [hl] at hr'
          cases hr'
        | some v =>
          have hv : db.Live oid v := hl
          have hset := (vlanSetInfo_stp hv stp).symm.trans hr'
          have hown : sdk.rc .setVlanStpid = .none → (db.stps.lookup stp).isSome →
              ∀ q j m, db.binding oid = some (q, j, m) →
                j = v.vlanId ∧ (m = 0 ∨ stp = stpByteOid ch.lchip m) := by
            intro hrc hstp q j m hq
            rw [hv.binding] at hq
            cases hq
            exact ⟨rfl, hsafe stp rfl hrc hstp v hv⟩
          rcases h.setStp (fun _ _ => rfl) rfl rfl (h.key hv.binding) (h.id hv.binding).1
            (h.id hv.binding).2 (fun hq => h.once hq hv.binding) hset hown with
            ⟨-, hdb⟩ | ⟨-, inv, -⟩
          · rw [hdb]; exact h
          · exact inv
    | _ => cases hid
  · exact h.same (vlanSetAttr_same hid hr)

end Ops

/-! ## The system -/

inductive VlanOp where
  | create (sdk : VlanSdk) (attrs : List VlanAttr)
  | remove (sdk : VlanSdk) (oid : Oid)
  | set (sdk : VlanSdk) (oid : Oid) (attr : VlanAttr)

def vlanStep (db : VlanDb ch) : VlanOp → Option (VlanDb ch)
  | .create sdk attrs => (createVlan sdk db attrs).map fun r => r.2.2
  | .remove sdk oid => (removeVlan sdk db oid).map Prod.snd
  | .set sdk oid attr => (vlanSetAttr sdk db oid attr).map Prod.snd

/-- No VLAN; any instances, with none in them. -/
structure VlanStpStart (db : VlanDb ch) : Prop where
  vlans : db.vlans = ∅
  vlanIds : db.hw.vlanIds = ∅
  stps : ∀ o s, db.stps.lookup o = some s →
    s.vlanBindBits = ∅ ∧ ∃ n : BitVec 8, o = stpByteOid ch.lchip n

def VlanStpSafe (db : VlanDb ch) : VlanOp → Prop
  | .create sdk attrs => UservlanAnswer sdk db attrs ∧ CreateStpSafe ch sdk attrs
  | .remove sdk oid => RemoveStpSafe sdk db oid
  | .set sdk oid attr => ∀ stp, attr = .stpInstance stp → SetStpSafe sdk db oid stp

/-- Each VLAN is in the one instance that reading it back names, and in no
bitmap when that is the default one or the VLAN is gone. -/
structure VlanStpOk (db : VlanDb ch) : Prop where
  one : ∀ oid v, db.Live oid v → ∃ stp,
    (∀ sdk : VlanSdk, sdk.rc .getVlanStpid = .none →
      getVlanStpInstance sdk db oid = some (.success, some stp)) ∧
    (db.stps.lookup stp).isSome ∧
    ∀ o s, db.stps.lookup o = some s →
      (v.vlanId.setWidth 12 ∈ s.vlanBindBits ↔ o = stp ∧ stp.value ≠ 0)
  gone : ∀ i : BitVec 12, (∀ oid v, db.Live oid v → v.vlanId.setWidth 12 ≠ i) →
    ∀ o s, db.stps.lookup o = some s → i ∉ s.vlanBindBits

theorem VlanStpStart.inv (h : VlanStpStart db) : VlanStpInv db := by
  have hb : ∀ oid, db.binding oid = none := by
    intro oid
    refine db.binding_eq_none ?_
    rw [h.vlans]
    rfl
  constructor
  case key => intro oid p i n hq; rw [hb] at hq; cases hq
  case id => intro oid p i n hq; rw [hb] at hq; cases hq
  case once => intro o o' p p' i n n' hq; rw [hb] at hq; cases hq
  case stp => intro oid p i n hq; rw [hb] at hq; cases hq
  case bits =>
    intro o s hs x
    rw [(h.stps o s hs).1]
    refine ⟨fun hx => absurd hx (Finset.notMem_empty x), ?_⟩
    rintro ⟨oid, p, i, n, hq, -⟩
    rw [hb] at hq
    cases hq
  case stpKey => intro o s hs; exact (h.stps o s hs).2

theorem VlanStpInv.step {db' : VlanDb ch} (h : VlanStpInv db) {op : VlanOp}
    (hsafe : VlanStpSafe db op) (hstep : vlanStep db op = some db') : VlanStpInv db' := by
  cases op with
  | create sdk attrs =>
    obtain ⟨r, hr, rfl⟩ := Option.map_eq_some_iff.mp hstep
    exact h.create hsafe.1 hsafe.2 hr
  | remove sdk oid =>
    obtain ⟨r, hr, rfl⟩ := Option.map_eq_some_iff.mp hstep
    exact h.remove hsafe hr
  | set sdk oid attr =>
    obtain ⟨r, hr, rfl⟩ := Option.map_eq_some_iff.mp hstep
    exact h.set hsafe hr

theorem VlanStpInv.ok (h : VlanStpInv db) : VlanStpOk db where
  one := by
    intro oid v hv
    obtain ⟨hpid, hstp⟩ := h.stp hv.binding
    refine ⟨stpByteOid ch.lchip v.stpId, fun sdk hrc => ?_, hstp, fun o s hs => ?_⟩
    · refine (hv.withVlan _ _).trans ?_
      rw [hrc, hpid]
      rfl
    · rw [h.bits hs]
      constructor
      · rintro ⟨oid', p, i, n, hq, hn, hi, ho⟩
        have hiv := setWidth_twelve_inj (h.id hq).1 (h.id hv.binding).1 hi
        subst hiv
        obtain rfl := h.once hq hv.binding
        rw [hv.binding] at hq
        cases hq
        exact ⟨ho, fun h0 => hn (stpByteOid_value_eq_zero.mp h0)⟩
      · rintro ⟨ho, hn⟩
        exact ⟨oid, _, _, _, hv.binding, fun h0 => hn (stpByteOid_value_eq_zero.mpr h0), rfl, ho⟩
  gone := by
    intro i hi o s hs hx
    obtain ⟨oid, p, j, n, hq, -, hj, -⟩ := (h.bits hs i).mp hx
    obtain ⟨v, hv, -, rfl, -⟩ := db.exists_live hq
    exact hi oid v hv hj

/-- In a run that moves no VLAN out of an instance other than the default one,
that names such an instance in a creation only where nothing fails after it is
bound, and whose removals go through once the bit is cleared, each VLAN is in
exactly one instance. -/
theorem vlanStp_of_run {db : VlanDb ch} (h : Reachable VlanStpStart VlanStpSafe vlanStep db) :
    VlanStpOk db :=
  (h.inv (fun _ h => VlanStpStart.inv h)
    (fun _ _ _ h hsafe hstep => VlanStpInv.step h hsafe hstep)).ok

/-! ## Two runs -/

/-- Chip 0 with eight VLANs. -/
def VlanChip.plain : VlanChip := ⟨0, .duet2, .firstFit 1 8, Nat.one_pos, (by decide : 9 ≤ 4096)⟩

/-- The SDK and the memory that give all they are asked for. -/
def VlanSdk.ok : VlanSdk :=
  ⟨fun _ => .none, true, true, fun _ => 1, fun _ => .success, fun _ => true⟩

/-- Instances 0, 1 and 2, and no VLAN. -/
def VlanDb.threeStps : VlanDb .plain where
  vlans := ∅
  stps := (((∅ : Table Oid StpInfo).insert (stpByteOid 0 0) .zero).insert (stpByteOid 0 1)
    .zero).insert (stpByteOid 0 2) .zero
  pool := .empty _
  fdbMissAction _ := 1
  hw := ⟨∅, fun _ => 0, fun _ _ => false, fun _ _ => false⟩

theorem VlanDb.threeStps_start : VlanStpStart VlanDb.threeStps := by
  refine ⟨rfl, rfl, fun o s hs => ?_⟩
  have hs' : ((((∅ : Table Oid StpInfo).insert (stpByteOid 0 0) .zero).insert (stpByteOid 0 1)
    .zero).insert (stpByteOid 0 2) .zero).lookup o = some s := hs
  simp only [lookup_insert_ite, AList.lookup_empty] at hs'
  split at hs'
  · cases hs'; exact ⟨rfl, 2, by assumption⟩
  · split at hs'
    · cases hs'; exact ⟨rfl, 1, by assumption⟩
    · split at hs'
      · cases hs'; exact ⟨rfl, 0, by assumption⟩
      · cases hs'

/-- VLAN 10 in instance 1. -/
def vlanTen : List VlanAttr := [.vlanId 10, .stpInstance (stpByteOid 0 1)]

theorem vlanTen_answer : UservlanAnswer .ok VlanDb.threeStps vlanTen := by
  rintro - i hi
  cases hi
  exact ⟨by decide, Finset.notMem_empty _⟩

theorem vlanTen_safe : CreateStpSafe .plain .ok vlanTen := by
  intro _ i hi a ha
  have ha' := List.mem_of_find?_eq_some ha
  simp only [vlanTen, List.mem_cons, List.not_mem_nil, or_false] at ha'
  rcases ha' with rfl | rfl
  · trivial
  · trivial

/-- VLAN 10 is created in instance 1 and stays there. -/
theorem vlanStp_of_run_ten : ∃ db : VlanDb .plain, VlanStpOk db ∧
    (db.binding (vlanOid 0 1)) = some (1, 10, 1) := by
  have r₀ : Reachable VlanStpStart VlanStpSafe vlanStep VlanDb.threeStps :=
    .start VlanDb.threeStps_start
  have r₁ := r₀.next (.create .ok vlanTen) (by exact ⟨vlanTen_answer, vlanTen_safe⟩) rfl
  exact ⟨_, vlanStp_of_run r₁, by decide⟩

/-- What the SDK promises, of any call. -/
def VlanOp.Answered (db : VlanDb ch) : VlanOp → Prop
  | .create sdk attrs => UservlanAnswer sdk db attrs
  | _ => True

/-- VLAN 10 is moved from instance 1 to instance 2. -/
theorem vlanStp_not_every_run : ¬ ∀ (ch : VlanChip) (db : VlanDb ch),
    Reachable VlanStpStart VlanOp.Answered vlanStep db → VlanStpOk db := by
  intro h
  have r₀ : Reachable VlanStpStart VlanOp.Answered vlanStep VlanDb.threeStps :=
    .start VlanDb.threeStps_start
  have r₁ := r₀.next (.create .ok vlanTen) (by exact vlanTen_answer) rfl
  have r₂ := r₁.next (.set .ok (vlanOid 0 1) (.stpInstance (stpByteOid 0 2))) (by trivial) rfl
  obtain ⟨stp, -, -, hbits⟩ := (h _ _ r₂).one (vlanOid 0 1) _ rfl
  have h₁ := (hbits (stpByteOid 0 1) _ rfl).mp (by decide)
  have h₂ := (hbits (stpByteOid 0 2) _ rfl).mp (by decide)
  exact absurd (h₁.1.trans h₂.1.symm) (by decide)

end CtcSai
