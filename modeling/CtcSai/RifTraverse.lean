/-
# `RifTraverse` — a property of all interfaces of a port or a virtual router

A walk over the router interfaces sets one property of those selected, and another
reads it.  Which interface of the hardware is written is taken from the object id,
which for the types without one, and for virtual interfaces, is another's number or
nobody's; the write of a router MAC that fails ends the walk; and of the properties
asked for a port, the DSCP ones, none is ever written.
-/
import CtcSai.RifStatsRuns

namespace CtcSai

open KeyedTable

variable {rc : RifChip}

/-! ## The walk that sets -/

/-- `set_type` with `*cmp_value`. -/
inductive RifSelector where
  | port (gport : BitVec 32)
  | vrf (id : BitVec 32)
deriving DecidableEq, Repr

/-- `l3if_prop` with `*p_value`; the router MAC has the property ROUTE_MAC_LOW_8BITS. -/
inductive RifValue where
  | routerMac (mac : Mac)
  | prop (p : L3ifProperty) (value : BitVec 32)
deriving DecidableEq, Repr

/-- `ctc_sai_rif_traverse_param_t`. -/
structure RifTraverseParam where
  setType : RifSelector
  value : RifValue
deriving DecidableEq, Repr

/-- What the SDK answers during a walk, for each interface visited. -/
structure RifTraverseSdk where
  set : Oid → CtcE
  get : Oid → CtcE
  /-- What it makes of the addresses there: `mode` and `dir` of `router_mac` are not
  initialised. -/
  routerMac : Mac → List Mac → List Mac

/-- A write of a router MAC leaves that one address: what the caller relies on, though it does
not set `mode`. -/
def RifTraverseSdk.ReplacesMac (sdk : RifTraverseSdk) : Prop :=
  ∀ mac macs, sdk.routerMac mac macs = [mac]

/-- The two types that a walk for a port compares. -/
def rifOnPort (oid : Oid) : Bool :=
  rifTypeOf oid = some .port || rifTypeOf oid = some .subPort

/-- The interface is passed over. -/
def RifSelector.skips (oid : Oid) (r : Rif) : RifSelector → Bool
  | .port gport => rifOnPort oid && r.gport ≠ gport
  | .vrf id => r.vrfId.setWidth 32 ≠ id

/-- A write to an interface of the hardware that the SDK answers with `e`. -/
def RifDb.writeL3if (db : RifDb rc) (e : CtcE) (id : Nat) (f : L3ifHw → L3ifHw) : CtcE × RifDb rc :=
  if e ≠ .none then (e, db)
  else
    match db.l3ifs id with
    | none => (.notExist, db)
    | some hw => (.none, db.setL3if id (some (f hw)))

/-- A property is written. -/
def L3ifHw.setProp (p : L3ifProperty) (v : BitVec 32) (hw : L3ifHw) : L3ifHw :=
  { hw with prop := Function.update hw.prop p v.toNat }

/-- The router MACs are written. -/
def L3ifHw.setRouterMac (f : List Mac → List Mac) (hw : L3ifHw) : L3ifHw :=
  { hw with routerMac := f hw.routerMac }

section Walk

variable (sdk : RifTraverseSdk) (par : RifTraverseParam) (db : RifDb rc)

/-- `_ctc_sai_router_interface_traverse_set_cb` of the interface `oid` with the record `r`. -/
def rifTraverseSetCb (oid : Oid) (r : Rif) : Status × RifDb rc :=
  if par.setType.skips oid r then (.success, db)
  else
    match par.value with
    | .routerMac mac =>
      let x := (db.setRif oid { r with srcMac := mac }).writeL3if (sdk.set oid) (rifNumber oid)
        (L3ifHw.setRouterMac (sdk.routerMac mac))
      (mappingErrorCtc x.1, x.2)
    -- `v4_state` and `v6_state` have one bit, and nobody asks whether the write failed
    | .prop .ipv4Ucast v => (.success,
        ((db.setRif oid { r with v4State := v.getLsbD 0 }).writeL3if (sdk.set oid) (rifNumber oid)
          (L3ifHw.setProp .ipv4Ucast v)).2)
    | .prop .ipv6Ucast v => (.success,
        ((db.setRif oid { r with v6State := v.getLsbD 0 }).writeL3if (sdk.set oid) (rifNumber oid)
          (L3ifHw.setProp .ipv6Ucast v)).2)
    | .prop _ _ => (.success, db)

/-- `ctc_sai_router_interface_traverse_set`, the interfaces in the order of the hash; a
callback that fails ends the walk, and the call succeeds. -/
def rifTraverseSet : RifDb rc → List Oid → RifDb rc
  | db, [] => db
  | db, oid :: oids =>
    match db.rifs.lookup oid with
    | none => rifTraverseSet db oids
    | some r =>
      match rifTraverseSetCb sdk par db oid r with
      | (.success, db) => rifTraverseSet db oids
      | (_, db) => db

/-- `ctcs_l3if_get_property`. -/
def RifDb.getProperty (e : CtcE) (id : Nat) (p : L3ifProperty) : Option (BitVec 32) :=
  if e = .none then (db.l3ifs id).map fun hw => BitVec.ofNat 32 (hw.prop p) else none

/-- `ctc_sai_router_interface_get_param` for a port: every PORT and SUB_PORT interface
visited sets the value to zero, and the first of the port that can be read ends the walk. -/
def rifTraverseGet (gport : BitVec 32) (p : L3ifProperty) : List Oid → BitVec 32 → BitVec 32
  | [], value => value
  | oid :: oids, value =>
    match db.rifs.lookup oid with
    | none => rifTraverseGet gport p oids value
    | some r =>
      if rifOnPort oid then
        if r.gport ≠ gport then rifTraverseGet gport p oids 0
        else (db.getProperty (sdk.get oid) (rifNumber oid) p).getD (rifTraverseGet gport p oids 0)
      else rifTraverseGet gport p oids value

end Walk

/-! ## What should hold -/

/-- The interface is selected. -/
def RifSelector.selects (oid : Oid) (r : Rif) : RifSelector → Bool
  | .port gport => rifOnPort oid && r.gport = gport
  | .vrf id => r.vrfId.setWidth 32 = id

/-- One that is there. -/
def RifSelector.selectedIn (s : RifSelector) (db : RifDb rc) (oid : Oid) : Bool :=
  (db.rifs.lookup oid).any fun r => s.selects oid r

/-- The interface of the hardware with the number `n` is that of `oid`: not of a type
without one, and not virtual. -/
def RifDb.Owns (db : RifDb rc) (oid : Oid) (n : Nat) : Prop :=
  ∃ r, db.rifs.lookup oid = some r ∧ rifReal oid = true ∧ r.isVirtual = false ∧ rifNumber oid = n

/-- The interface of the hardware belongs to one that is selected. -/
def RifSelector.Covers (s : RifSelector) (db : RifDb rc) (n : Nat) : Prop :=
  ∃ oid, s.selectedIn db oid = true ∧ db.Owns oid n

/-- The value on an interface of the hardware. -/
def RifValue.apply (hw : L3ifHw) : RifValue → L3ifHw
  | .routerMac mac => { hw with routerMac := [mac] }
  | .prop p v => hw.setProp p v

/-- The properties that are set for each selector. -/
def RifTraverseParam.Used : RifTraverseParam → Prop
  | ⟨.vrf _, .routerMac _⟩ => True
  | ⟨.vrf _, .prop p _⟩ => p = .ipv4Ucast ∨ p = .ipv6Ucast
  | ⟨.port _, .prop p _⟩ => p = .igsQosDscpDomain ∨ p = .egsQosDscpDomain ∨ p = .trustDscp
  | ⟨.port _, .routerMac _⟩ => False

/-- After the walk that sets, the interfaces of the hardware that belong to selected ones
have the value and the others are as they were, as are the records that are not selected;
the walk that reads for the same port, from `init` on, has the value. -/
structure RifTraverseParam.Meets (par : RifTraverseParam) (sdk : RifTraverseSdk) (db : RifDb rc)
    (order : List Oid) (init : BitVec 32) : Prop where
  covered : ∀ n, par.setType.Covers db n →
    (rifTraverseSet sdk par db order).l3ifs n = (db.l3ifs n).map fun hw => par.value.apply hw
  other : ∀ n, ¬par.setType.Covers db n → (rifTraverseSet sdk par db order).l3ifs n = db.l3ifs n
  records : ∀ oid, par.setType.selectedIn db oid = false →
    (rifTraverseSet sdk par db order).rifs.lookup oid = db.rifs.lookup oid
  read : ∀ gport p v, par = ⟨.port gport, .prop p v⟩ →
    rifTraverseGet sdk (rifTraverseSet sdk par db order) gport p order init = v

/-! ## When it holds -/

/-- The write for an interface is done. -/
def RifDb.accepts (db : RifDb rc) (sdk : RifTraverseSdk) (oid : Oid) : Bool :=
  sdk.set oid = .none && (db.l3ifs (rifNumber oid)).isSome

/-- The interfaces whose router MAC is written: the selected ones up to the first whose
write fails. -/
def macWritten (sdk : RifTraverseSdk) (s : RifSelector) (db : RifDb rc) (order : List Oid) :
    List Oid :=
  (order.filter (s.selectedIn db)).takeWhile (db.accepts sdk)

/-- The first interface of the port that can be read. -/
def firstRead (sdk : RifTraverseSdk) (gport : BitVec 32) (db : RifDb rc) (order : List Oid) :
    Option Oid :=
  order.find? fun oid => (RifSelector.port gport).selectedIn db oid &&
    (sdk.get oid = .none && (db.l3ifs (rifNumber oid)).isSome)

/-- The condition under which a walk does what it should. -/
def RifTraverseParam.Fits (sdk : RifTraverseSdk) (db : RifDb rc) (order : List Oid)
    (init : BitVec 32) : RifTraverseParam → Prop
  -- where a write would change anything, one of the selected interfaces with the number is
  -- accepted just if one of them is the owner
  | ⟨.vrf id, .prop p v⟩ => ∀ n hw, db.l3ifs n = some hw → hw.prop p ≠ v.toNat →
      ((∃ oid, (RifSelector.vrf id).selectedIn db oid = true ∧ rifNumber oid = n ∧
        sdk.set oid = .none) ↔ (RifSelector.vrf id).Covers db n)
  -- and the same of the writes before the first that fails
  | ⟨s, .routerMac mac⟩ => ∀ n hw, db.l3ifs n = some hw → hw.routerMac ≠ [mac] →
      ((∃ oid ∈ macWritten sdk s db order, rifNumber oid = n) ↔ s.Covers db n)
  -- the value is there already
  | ⟨.port gport, .prop p v⟩ =>
    (∀ n hw, (RifSelector.port gport).Covers db n → db.l3ifs n = some hw → hw.prop p = v.toNat) ∧
    match firstRead sdk gport db order with
    | some oid => ∀ hw, db.l3ifs (rifNumber oid) = some hw → BitVec.ofNat 32 (hw.prop p) = v
    | none => v = if order.any rifOnPort then 0 else init

/-! ## One interface -/

section Callback

variable {sdk : RifTraverseSdk} {par : RifTraverseParam} {db : RifDb rc} {oid : Oid} {r : Rif}
variable {s : RifSelector}

theorem selectedIn_of_lookup (hl : db.rifs.lookup oid = some r) :
    s.selectedIn db oid = s.selects oid r := by
  rw [RifSelector.selectedIn, hl]
  rfl

theorem selects_vrf (id : BitVec 32) (oid : Oid) (r : Rif) :
    (RifSelector.vrf id).selects oid r = !(RifSelector.vrf id).skips oid r := by
  simp [RifSelector.selects, RifSelector.skips]

/-- What decides the selection is not written. -/
theorem selectedIn_setRif {r' : Rif} (hl : db.rifs.lookup oid = some r)
    (hg : r'.gport = r.gport) (hv : r'.vrfId = r.vrfId) (o : Oid) :
    s.selectedIn (db.setRif oid r') o = s.selectedIn db o := by
  rw [RifSelector.selectedIn, RifSelector.selectedIn, RifDb.setRif]
  by_cases ho : o = oid
  · subst ho
    rw [hl]
    cases s <;> simp [RifSelector.selects, hg, hv]
  · rw [AList.lookup_insert_ne ho]

@[simp] theorem writeL3if_rifs (e : CtcE) (id : Nat) (f : L3ifHw → L3ifHw) :
    (db.writeL3if e id f).2.rifs = db.rifs := by
  rw [RifDb.writeL3if]
  split
  · rfl
  · split <;> rfl

@[simp] theorem selectedIn_writeL3if (e : CtcE) (id : Nat) (f : L3ifHw → L3ifHw) (o : Oid) :
    s.selectedIn (db.writeL3if e id f).2 o = s.selectedIn db o := by
  rw [RifSelector.selectedIn, writeL3if_rifs]
  rfl

/-- A write reaches the interface of its number, if it is there and the SDK accepts it. -/
theorem writeL3if_l3ifs (e : CtcE) (id : Nat) (f : L3ifHw → L3ifHw) (n : Nat) :
    (db.writeL3if e id f).2.l3ifs n =
      if n = id ∧ e = .none then (db.l3ifs n).map f else db.l3ifs n := by
  rw [RifDb.writeL3if]
  split
  · next he => rw [if_neg fun h => he h.2]
  next he =>
  split
  · next hl =>
    split
    · next h => rw [h.1, hl, Option.map_none]
    · rfl
  next hw hl =>
  by_cases hn : n = id
  · subst hn
    simp [RifDb.setL3if, hl, not_not.mp he]
  · simp [RifDb.setL3if, hn]

@[simp] theorem writeL3if_isSome (e : CtcE) (id : Nat) (f : L3ifHw → L3ifHw) (n : Nat) :
    ((db.writeL3if e id f).2.l3ifs n).isSome = (db.l3ifs n).isSome := by
  rw [writeL3if_l3ifs]
  split
  · rw [Option.isSome_map]
  · rfl

/-- A write that is not done changes nothing. -/
theorem writeL3if_refused {e : CtcE} {id : Nat} (f : L3ifHw → L3ifHw)
    (h : ¬(e = .none ∧ (db.l3ifs id).isSome)) : (db.writeL3if e id f).2 = db := by
  rw [RifDb.writeL3if]
  split
  · rfl
  next he =>
  split
  · rfl
  · next hw hl => exact absurd ⟨not_not.mp he, by rw [hl]; rfl⟩ h

theorem RifDb.writeL3if_fst (db : RifDb rc) (e : CtcE) (id : Nat) (f : L3ifHw → L3ifHw) :
    (db.writeL3if e id f).1 = .none ↔ e = .none ∧ (db.l3ifs id).isSome := by
  rw [RifDb.writeL3if]
  split
  · next he => simp [he]
  · next he => split <;> simp_all

@[simp] theorem setProp_setProp (p : L3ifProperty) (v : BitVec 32) (hw : L3ifHw) :
    (hw.setProp p v).setProp p v = hw.setProp p v := by
  simp [L3ifHw.setProp]

theorem setProp_eq_self {p : L3ifProperty} {v : BitVec 32} {hw : L3ifHw} :
    hw.setProp p v = hw ↔ hw.prop p = v.toNat := by
  rw [L3ifHw.setProp]
  constructor
  · intro h
    have hprop := congrFun (congrArg L3ifHw.prop h) p
    simpa using hprop.symm
  · intro h
    rw [← h, Function.update_eq_self]

end Callback

/-! ## The walk -/

section Run

variable (sdk : RifTraverseSdk) {par : RifTraverseParam} {s : RifSelector}
variable (vrf v : BitVec 32) (mac : Mac) {p : L3ifProperty}

/-- The record after a write of the unicast state of one IP version. -/
def Rif.setUcast (p : L3ifProperty) (v : BitVec 32) (r : Rif) : Rif :=
  if p = .ipv4Ucast then { r with v4State := v.getLsbD 0 } else { r with v6State := v.getLsbD 0 }

/-- A selected interface has its record and the interface of its number written, and the walk
goes on. -/
theorem setCb_ucast (hp : p = .ipv4Ucast ∨ p = .ipv6Ucast) (db : RifDb rc) (oid : Oid) (r : Rif) :
    rifTraverseSetCb sdk ⟨.vrf vrf, .prop p v⟩ db oid r =
      (.success, if (RifSelector.vrf vrf).selects oid r then
        ((db.setRif oid (r.setUcast p v)).writeL3if (sdk.set oid) (rifNumber oid)
          (L3ifHw.setProp p v)).2 else db) := by
  rw [rifTraverseSetCb, selects_vrf]
  cases hs : (RifSelector.vrf vrf).skips oid r
  · rcases hp with rfl | rfl <;> simp [Rif.setUcast]
  · simp

/-- So has one whose router MAC is written, and the walk goes on if the write is done. -/
theorem setCb_routerMac (db : RifDb rc) (oid : Oid) (r : Rif) :
    rifTraverseSetCb sdk ⟨.vrf vrf, .routerMac mac⟩ db oid r =
      if (RifSelector.vrf vrf).selects oid r then
        let x := (db.setRif oid { r with srcMac := mac }).writeL3if (sdk.set oid) (rifNumber oid)
          (L3ifHw.setRouterMac (sdk.routerMac mac))
        (mappingErrorCtc x.1, x.2)
      else (.success, db) := by
  rw [rifTraverseSetCb, selects_vrf]
  cases hs : (RifSelector.vrf vrf).skips oid r
  · simp
  · simp

/-- The walk for a port writes nothing. -/
theorem setCb_port {gport : BitVec 32}
    (hp : p = .igsQosDscpDomain ∨ p = .egsQosDscpDomain ∨ p = .trustDscp)
    (db : RifDb rc) (oid : Oid) (r : Rif) :
    rifTraverseSetCb sdk ⟨.port gport, .prop p v⟩ db oid r = (.success, db) := by
  rw [rifTraverseSetCb]
  rcases hp with rfl | rfl | rfl <;> simp

theorem selectedIn_setUcast {db : RifDb rc} {oid : Oid} {r : Rif}
    (hl : db.rifs.lookup oid = some r) (o : Oid) :
    s.selectedIn (db.setRif oid (r.setUcast p v)) o = s.selectedIn db o := by
  refine selectedIn_setRif hl ?_ ?_ o
  · rw [Rif.setUcast]
    split <;> rfl
  · rw [Rif.setUcast]
    split <;> rfl

theorem selectedIn_setMac {db : RifDb rc} {oid : Oid} {r : Rif}
    (hl : db.rifs.lookup oid = some r) (o : Oid) :
    s.selectedIn (db.setRif oid { r with srcMac := mac }) o = s.selectedIn db o := by
  refine selectedIn_setRif hl ?_ ?_ o
  · rfl
  · rfl

/-- One visit leaves the selection as it is, and the records that are not selected. -/
theorem setCb_records (hu : par.Used) {db : RifDb rc} {oid : Oid} {r : Rif}
    (hl : db.rifs.lookup oid = some r) (o : Oid) :
    par.setType.selectedIn (rifTraverseSetCb sdk par db oid r).2 o = par.setType.selectedIn db o ∧
      (par.setType.selectedIn db o = false →
        (rifTraverseSetCb sdk par db oid r).2.rifs.lookup o = db.rifs.lookup o) := by
  have hother : ∀ r' : Rif, par.setType.selects oid r = true →
      par.setType.selectedIn db o = false →
        (db.setRif oid r').rifs.lookup o = db.rifs.lookup o := by
    intro r' hs hns
    have ho : o ≠ oid := by
      rintro rfl
      rw [selectedIn_of_lookup hl, hs] at hns
      exact absurd hns (by simp)
    exact AList.lookup_insert_ne ho
  rcases par with ⟨gport | vrf, mac | ⟨p, v⟩⟩
  · exact hu.elim
  · rw [setCb_port sdk v hu]
    exact ⟨rfl, fun _ => rfl⟩
  · rw [setCb_routerMac]
    split
    · next hs =>
      rw [selectedIn_writeL3if, writeL3if_rifs]
      exact ⟨selectedIn_setMac mac hl o, hother _ hs⟩
    · exact ⟨rfl, fun _ => rfl⟩
  · rw [setCb_ucast sdk vrf v hu]
    split
    · next hs =>
      rw [selectedIn_writeL3if, writeL3if_rifs]
      exact ⟨selectedIn_setUcast v hl o, hother _ hs⟩
    · exact ⟨rfl, fun _ => rfl⟩

/-- The records that are not selected stay. -/
theorem rifTraverseSet_records (hu : par.Used) (order : List Oid) : ∀ db : RifDb rc, ∀ o,
    par.setType.selectedIn db o = false →
      (rifTraverseSet sdk par db order).rifs.lookup o = db.rifs.lookup o := by
  induction order with
  | nil =>
    intro db o _
    rfl
  | cons oid order ih =>
    intro db o hns
    rw [rifTraverseSet]
    split
    · exact ih db o hns
    next r hl =>
    have hcb := setCb_records sdk hu hl o
    split
    · next db' heq =>
      rw [heq] at hcb
      exact (ih db' o (hcb.1.trans hns)).trans (hcb.2 hns)
    next e db' _ heq =>
    rw [heq] at hcb
    exact hcb.2 hns

/-- The walk for a unicast state writes the interfaces of the hardware with the number of a
selected interface whose write the SDK accepts.  Induction on the interfaces visited. -/
theorem rifTraverseSet_ucast (hp : p = .ipv4Ucast ∨ p = .ipv6Ucast) (order : List Oid) :
    ∀ db : RifDb rc, ∀ n, (rifTraverseSet sdk ⟨.vrf vrf, .prop p v⟩ db order).l3ifs n =
        if ∃ oid ∈ order, (RifSelector.vrf vrf).selectedIn db oid = true ∧ rifNumber oid = n ∧
          sdk.set oid = .none then (db.l3ifs n).map (L3ifHw.setProp p v) else db.l3ifs n := by
  induction order with
  | nil =>
    simp [rifTraverseSet]
  | cons oid order ih =>
    intro db n
    rw [rifTraverseSet]
    cases hl : db.rifs.lookup oid with
    | none =>
      have hns : (RifSelector.vrf vrf).selectedIn db oid = false := by
        simp [RifSelector.selectedIn, hl]
      rw [ih]
      simp [hns]
    | some r =>
      dsimp only
      rw [setCb_ucast sdk vrf v hp]
      rw [ih]
      have hsel := selectedIn_of_lookup (s := .vrf vrf) hl
      cases hs : (RifSelector.vrf vrf).selects oid r
      · simp [hsel, hs]
      · simp only [if_true, selectedIn_writeL3if, selectedIn_setUcast v hl, writeL3if_l3ifs,
          List.exists_mem_cons_iff, hsel, hs, true_and]
        by_cases hw : rifNumber oid = n ∧ sdk.set oid = .none
        · simp [hw, RifDb.setRif, Function.comp_def]
        · rw [if_neg fun h : n = rifNumber oid ∧ _ => hw ⟨h.1.symm, h.2⟩]
          simp [hw, RifDb.setRif]

/-- What the writes before the first failure are does not change with a write. -/
theorem macWritten_congr {db db' : RifDb rc} (hsel : ∀ o, s.selectedIn db' o = s.selectedIn db o)
    (hsome : ∀ n, (db'.l3ifs n).isSome = (db.l3ifs n).isSome) (order : List Oid) :
    macWritten sdk s db' order = macWritten sdk s db order := by
  have hacc : db'.accepts sdk = db.accepts sdk := by
    funext o
    rw [RifDb.accepts, RifDb.accepts, hsome]
  rw [macWritten, macWritten, hacc, funext hsel]

/-- The walk for a router MAC writes the interfaces of the hardware with the number of an
interface visited before the first failure. -/
theorem rifTraverseSet_routerMac (hf : sdk.ReplacesMac) (order : List Oid) : ∀ db : RifDb rc, ∀ n,
    (rifTraverseSet sdk ⟨.vrf vrf, .routerMac mac⟩ db order).l3ifs n =
      if ∃ oid ∈ macWritten sdk (.vrf vrf) db order, rifNumber oid = n then
        (db.l3ifs n).map (L3ifHw.setRouterMac fun _ => [mac]) else db.l3ifs n := by
  have hmac : sdk.routerMac mac = fun _ => [mac] := funext (hf mac)
  induction order with
  | nil =>
    simp [rifTraverseSet, macWritten]
  | cons oid order ih =>
    intro db n
    rw [rifTraverseSet]
    cases hl : db.rifs.lookup oid with
    | none =>
      have hskip : macWritten sdk (.vrf vrf) db (oid :: order) =
          macWritten sdk (.vrf vrf) db order := by
        simp [macWritten, RifSelector.selectedIn, hl]
      rw [ih, hskip]
    | some r =>
      have hsel := selectedIn_of_lookup (s := .vrf vrf) hl
      dsimp only
      rw [setCb_routerMac, hmac]
      cases hs : (RifSelector.vrf vrf).selects oid r
      · have hskip : macWritten sdk (.vrf vrf) db (oid :: order) =
            macWritten sdk (.vrf vrf) db order := by
          simp [macWritten, hsel, hs]
        simp only [Bool.false_eq_true, if_false]
        rw [ih, hskip]
      · simp only [if_true]
        have hrec := selectedIn_setMac (s := .vrf vrf) mac hl
        have hhw : (db.setRif oid { r with srcMac := mac }).l3ifs = db.l3ifs := rfl
        generalize db.setRif oid { r with srcMac := mac } = db₁ at hrec hhw
        have hfst := db₁.writeL3if_fst (sdk.set oid) (rifNumber oid)
          (L3ifHw.setRouterMac fun _ => [mac])
        rw [hhw] at hfst
        cases hacc : db.accepts sdk oid
        · -- the walk ends here
          have hset : ¬(sdk.set oid = .none ∧ (db.l3ifs (rifNumber oid)).isSome) := by
            simpa [RifDb.accepts] using hacc
          have hne := fun h => hset (hfst.mp (mappingErrorCtc_eq_success.mp h))
          rw [writeL3if_refused _ (by rw [hhw]; exact hset)]
          split
          · next heq => exact absurd (congrArg Prod.fst heq) hne
          next heq =>
          cases heq
          simp [macWritten, hsel, hs, hacc, hhw]
        · -- the write is done, and the walk goes on
          have hset : sdk.set oid = .none ∧ (db.l3ifs (rifNumber oid)).isSome := by
            simpa [RifDb.accepts] using hacc
          rw [hfst.mpr hset]
          dsimp only [mappingErrorCtc]
          rw [ih, macWritten_congr sdk (fun o => (selectedIn_writeL3if _ _ _ o).trans (hrec o))
            fun m => (writeL3if_isSome _ _ _ m).trans (by rw [hhw]), writeL3if_l3ifs, hhw]
          have hcons : macWritten sdk (.vrf vrf) db (oid :: order) =
              oid :: macWritten sdk (.vrf vrf) db order := by
            simp [macWritten, hsel, hs, hacc]
          rw [hcons]
          by_cases hn : rifNumber oid = n
          · subst hn
            have htwice : ∀ hw : L3ifHw, (hw.setRouterMac fun _ => [mac]).setRouterMac
                (fun _ => [mac]) = hw.setRouterMac fun _ => [mac] := fun _ => rfl
            simp [hset.1, Function.comp_def, htwice]
          · simp [hn, Ne.symm hn]

theorem rifTraverseSet_port (gport : BitVec 32)
    (hp : p = .igsQosDscpDomain ∨ p = .egsQosDscpDomain ∨ p = .trustDscp) (db : RifDb rc)
    (order : List Oid) : rifTraverseSet sdk ⟨.port gport, .prop p v⟩ db order = db := by
  induction order with
  | nil => rfl
  | cons oid order ih =>
    rw [rifTraverseSet]
    split
    · exact ih
    · rw [setCb_port sdk v hp]
      exact ih

/-- The walk that reads ends with the first interface of the port that can be read; without
one, the value is zero if any interface has a type that is compared. -/
theorem rifTraverseGet_eq (p : L3ifProperty) (gport : BitVec 32) {db : RifDb rc} {order : List Oid}
    (hmem : ∀ oid ∈ order, ∃ r, db.rifs.lookup oid = some r) : ∀ init : BitVec 32,
    rifTraverseGet sdk db gport p order init = match firstRead sdk gport db order with
      | some oid => ((db.l3ifs (rifNumber oid)).map fun hw => BitVec.ofNat 32 (hw.prop p)).getD 0
      | none => if order.any rifOnPort then 0 else init := by
  induction order with
  | nil =>
    intro init
    rfl
  | cons oid order ih =>
    intro init
    obtain ⟨r, hl⟩ := hmem oid List.mem_cons_self
    have ih := ih fun o ho => hmem o (List.mem_cons_of_mem _ ho)
    have hsel := selectedIn_of_lookup (s := .port gport) hl
    rw [rifTraverseGet, hl]
    cases hon : rifOnPort oid
    · have hskip : firstRead sdk gport db (oid :: order) = firstRead sdk gport db order := by
        simp [firstRead, hsel, RifSelector.selects, hon]
      rw [hskip]
      simp [ih, hon]
    · by_cases hg : r.gport = gport
      · by_cases hget : sdk.get oid = .none
        · cases hhw : db.l3ifs (rifNumber oid) with
          | none =>
            have hskip : firstRead sdk gport db (oid :: order) = firstRead sdk gport db order := by
              simp [firstRead, hhw]
            rw [hskip]
            simp [ih, hon, hg, RifDb.getProperty, hget, hhw]
          | some hw =>
            have hfirst : firstRead sdk gport db (oid :: order) = some oid := by
              simp [firstRead, hsel, RifSelector.selects, hon, hg, hget, hhw]
            rw [hfirst]
            simp [hg, RifDb.getProperty, hget, hhw]
        · have hskip : firstRead sdk gport db (oid :: order) = firstRead sdk gport db order := by
            simp [firstRead, hget]
          rw [hskip]
          simp [ih, hon, hg, RifDb.getProperty, hget]
      · have hskip : firstRead sdk gport db (oid :: order) = firstRead sdk gport db order := by
          simp [firstRead, hsel, RifSelector.selects, hg]
        rw [hskip]
        simp [ih, hon, hg]

end Run

/-! ## The result -/

section Result

variable {sdk : RifTraverseSdk} {db : RifDb rc} {order : List Oid} {init : BitVec 32}

theorem mem_of_selectedIn {s : RifSelector} (h : order.Perm db.rifs.keys) {oid : Oid}
    (hs : s.selectedIn db oid = true) : oid ∈ order := by
  rw [h.mem_iff, ← AList.mem_keys, ← AList.lookup_isSome]
  cases hl : db.rifs.lookup oid with
  | none => simp [RifSelector.selectedIn, hl] at hs
  | some r => rfl

theorem lookup_of_mem (h : order.Perm db.rifs.keys) {oid : Oid} (ho : oid ∈ order) :
    ∃ r, db.rifs.lookup oid = some r := by
  rwa [h.mem_iff, ← AList.mem_keys, ← AList.lookup_isSome, Option.isSome_iff_exists] at ho

/-- A walk for a virtual router that writes the interfaces of the hardware in `W` does what it
should if, but for those that have the value, they are the owned ones. -/
theorem meets_vrf {vrf : BitVec 32} {x : RifValue} (hu : RifTraverseParam.Used ⟨.vrf vrf, x⟩)
    {W : Nat → Prop} [DecidablePred W] (hset : ∀ n,
      (rifTraverseSet sdk ⟨.vrf vrf, x⟩ db order).l3ifs n =
        if W n then (db.l3ifs n).map fun hw => x.apply hw else db.l3ifs n) :
    RifTraverseParam.Meets ⟨.vrf vrf, x⟩ sdk db order init ↔
      ∀ n hw, db.l3ifs n = some hw → x.apply hw ≠ hw →
        (W n ↔ (RifSelector.vrf vrf).Covers db n) := by
  constructor
  · intro hmeets n hw hl hne
    constructor
    · intro hwritten
      by_contra hcov
      have hsame := hmeets.other n hcov
      rw [hset, if_pos hwritten, hl, Option.map_some, Option.some_inj] at hsame
      exact hne hsame
    · intro hcov
      by_contra hwritten
      have hwrite := hmeets.covered n hcov
      rw [hset, if_neg hwritten, hl, Option.map_some, Option.some_inj] at hwrite
      exact hne hwrite.symm
  · intro hfits
    refine ⟨?_, ?_, rifTraverseSet_records sdk hu order db, ?_⟩
    · intro n hcov
      rw [hset]
      split
      · rfl
      next hwritten =>
      cases hl : db.l3ifs n with
      | none => rfl
      | some hw =>
        have hval : x.apply hw = hw :=
          by_contra fun hne => hwritten ((hfits n hw hl hne).mpr hcov)
        rw [Option.map_some, hval]
    · intro n hcov
      rw [hset]
      split
      · next hwritten =>
        cases hl : db.l3ifs n with
        | none => rfl
        | some hw =>
          have hval : x.apply hw = hw :=
            by_contra fun hne => hcov ((hfits n hw hl hne).mp hwritten)
          rw [Option.map_some, hval]
      · rfl
    · intro gport q w heq
      cases heq

theorem meets_ucast {vrf v : BitVec 32} {p : L3ifProperty} (h : order.Perm db.rifs.keys)
    (hp : p = .ipv4Ucast ∨ p = .ipv6Ucast) :
    RifTraverseParam.Meets ⟨.vrf vrf, .prop p v⟩ sdk db order init ↔
      RifTraverseParam.Fits sdk db order init ⟨.vrf vrf, .prop p v⟩ := by
  have hwrites : ∀ n, (∃ oid ∈ order, (RifSelector.vrf vrf).selectedIn db oid = true ∧
      rifNumber oid = n ∧ sdk.set oid = .none) ↔
        ∃ oid, (RifSelector.vrf vrf).selectedIn db oid = true ∧ rifNumber oid = n ∧
          sdk.set oid = .none := fun n =>
    exists_congr fun oid => and_iff_right_of_imp fun hs => mem_of_selectedIn h hs.1
  have hu : RifTraverseParam.Used ⟨.vrf vrf, .prop p v⟩ := hp
  refine (meets_vrf hu (rifTraverseSet_ucast sdk vrf v hp order db)).trans ?_
  refine forall₃_congr fun n hw hl => ?_
  rw [hwrites, RifValue.apply, ne_eq, setProp_eq_self]

theorem meets_routerMac (hf : sdk.ReplacesMac) {vrf : BitVec 32} {mac : Mac} :
    RifTraverseParam.Meets ⟨.vrf vrf, .routerMac mac⟩ sdk db order init ↔
      RifTraverseParam.Fits sdk db order init ⟨.vrf vrf, .routerMac mac⟩ := by
  have hu : RifTraverseParam.Used ⟨.vrf vrf, .routerMac mac⟩ := trivial
  refine (meets_vrf hu (rifTraverseSet_routerMac sdk vrf mac hf order db)).trans ?_
  refine forall₃_congr fun n hw hl => ?_
  have hself : RifValue.apply hw (.routerMac mac) = hw ↔ hw.routerMac = [mac] := by
    constructor
    · intro h
      rw [← h]
      rfl
    · intro h
      rw [RifValue.apply, ← h]
  rw [ne_eq, hself]

theorem meets_port {gport v : BitVec 32} {p : L3ifProperty} (h : order.Perm db.rifs.keys)
    (hp : p = .igsQosDscpDomain ∨ p = .egsQosDscpDomain ∨ p = .trustDscp) :
    RifTraverseParam.Meets ⟨.port gport, .prop p v⟩ sdk db order init ↔
      RifTraverseParam.Fits sdk db order init ⟨.port gport, .prop p v⟩ := by
  have hset := rifTraverseSet_port sdk v gport hp db order
  have hget := rifTraverseGet_eq sdk p gport (fun oid ho => lookup_of_mem h ho) init
  have hread : rifTraverseGet sdk db gport p order init = v ↔
      match firstRead sdk gport db order with
      | some oid => ∀ hw, db.l3ifs (rifNumber oid) = some hw → BitVec.ofNat 32 (hw.prop p) = v
      | none => v = if order.any rifOnPort then 0 else init := by
    rw [hget]
    cases hf : firstRead sdk gport db order with
    | none => exact eq_comm
    | some oid =>
      have hfound := List.find?_some hf
      rw [Bool.and_eq_true, Bool.and_eq_true] at hfound
      obtain ⟨hw, hl⟩ := Option.isSome_iff_exists.mp hfound.2.2
      simp [hl]
  constructor
  · intro hmeets
    refine ⟨?_, ?_⟩
    · intro n hw hcov hl
      have hwrite := hmeets.covered n hcov
      rw [hset, hl, Option.map_some, Option.some_inj] at hwrite
      exact setProp_eq_self.mp hwrite.symm
    · have hv := hmeets.read gport p v rfl
      rw [hset] at hv
      exact hread.mp hv
  · intro hfits
    obtain ⟨hthere, hv⟩ := hfits
    refine ⟨?_, ?_, ?_, ?_⟩
    · intro n hcov
      rw [hset]
      cases hl : db.l3ifs n with
      | none => rfl
      | some hw =>
        rw [Option.map_some, RifValue.apply, setProp_eq_self.mpr (hthere n hw hcov hl)]
    · intro n _
      rw [hset]
    · intro oid _
      rw [hset]
    · intro gport' q w heq
      cases heq
      rw [hset]
      exact hread.mpr hv

end Result

/-- The walks over the interfaces, in any order, do what they should just if the condition
holds: for a virtual router, the numbers of the selected interfaces are those of their
owners; for a port, the value is there already. -/
theorem rifTraverse_meets_iff {sdk : RifTraverseSdk} {db : RifDb rc} {order : List Oid}
    {par : RifTraverseParam} (h : order.Perm db.rifs.keys) (hu : par.Used)
    (hf : sdk.ReplacesMac) (init : BitVec 32) :
    par.Meets sdk db order init ↔ par.Fits sdk db order init := by
  rcases par with ⟨gport | vrf, mac | ⟨p, v⟩⟩
  · exact hu.elim
  · exact meets_port h hu
  · exact meets_routerMac hf
  · exact meets_ucast h hu

/-- The SDK accepts every write and every read, and a router MAC replaces those there. -/
def RifTraverseSdk.ok : RifTraverseSdk := ⟨fun _ => .none, fun _ => .none, fun mac _ => [mac]⟩

/-- A database with one interface and its interface of the hardware. -/
def RifDb.single (t : RifType) (r : Rif) : RifDb .small :=
  { RifDb.start with
    rifs := AList.singleton (rifOid 0 t 1) r
    l3ifs := Function.update (fun _ => none) 1 (some (.new ⟨none, r.gport, 0⟩)) }

/-- IPv6 is turned on for the VLAN interface of a virtual router. -/
theorem rifTraverse_meets_vlan : RifTraverseParam.Meets ⟨.vrf 1, .prop .ipv6Ucast 1⟩ .ok
      (.single .vlan { Rif.built with vrfId := 1 }) [rifOid 0 .vlan 1] 0 := by
  have hused : RifTraverseParam.Used ⟨.vrf 1, .prop .ipv6Ucast 1⟩ := .inr rfl
  refine (rifTraverse_meets_iff (.refl _) hused (fun _ _ => rfl) 0).mpr ?_
  intro n hw hl _
  have hn : n = 1 := by
    by_contra hn
    simp [RifDb.single, hn] at hl
  subst hn
  exact iff_of_true ⟨rifOid 0 .vlan 1, rfl, rfl, rfl⟩ ⟨rifOid 0 .vlan 1, rfl, _, rfl, rfl, rfl, rfl⟩

/-- The DSCP domain of a port is not written to the interface on it. -/
theorem rifTraverse_not_always : ¬∀ (sdk : RifTraverseSdk) (db : RifDb .small) (order : List Oid)
    (par : RifTraverseParam) (init : BitVec 32), order.Perm db.rifs.keys → par.Used →
      sdk.ReplacesMac → par.Meets sdk db order init := by
  intro h
  have hmeets := h .ok (.single .port { Rif.built with gport := 5 }) [rifOid 0 .port 1]
    ⟨.port 5, .prop .igsQosDscpDomain 3⟩ 0 (.refl _) (Or.inl rfl)
    fun _ _ => rfl
  have hread := hmeets.read 5 .igsQosDscpDomain 3 rfl
  exact absurd hread (by decide)

end CtcSai
