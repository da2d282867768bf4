/-
# `LagMembers` — LAG membership and the SDK's groups

Two flags of a member decide whether its port is in the SDK group and which
GPORT it carries.  Creation, removal and the setter each reach the four
combinations by branches of their own; they agree in runs in which a port is
with one LAG at a time, and in which no member leaves with its egress alone
disabled.
-/
import CtcSai.Lag
import CtcSai.Lib.Run

namespace CtcSai

open Function KeyedTable Runs

/-! ## The system -/

/-- The LAGs, and beside them the flags last given to each member. -/
structure LagState where
  db : LagDb
  last : Oid → BitVec 32 → Bool × Bool

inductive LagOp where
  | create (sdk : LagSdk) (c : Lchip) (attrs : List LagMemberAttr)
  | remove (sdk : LagSdk) (oid : Oid)
  | set (sdk : LagSdk) (oid : Oid) (attr : LagMemberAttr)

/-- The LAG of a member id. -/
def lagOfMember (oid : Oid) : Oid := lagOid oid.lchip (oid.value2.setWidth 32)

def noteFlags (last : Oid → BitVec 32 → Bool × Bool) (attrs : List LagMemberAttr)
    (oid : Option Oid) : Oid → BitVec 32 → Bool × Bool :=
  match oid with
  | none => last
  | some o => update last (lagOfMember o) (update (last (lagOfMember o)) o.value
      ((findAttribInList LagMemberAttr.egressDisable? attrs).getD false,
        (findAttribInList LagMemberAttr.ingressDisable? attrs).getD false))

/-- The flags after one set that succeeded. -/
def noteSet (last : Oid → BitVec 32 → Bool × Bool) (oid : Oid) (attr : LagMemberAttr) :
    Oid → BitVec 32 → Bool × Bool :=
  let old := last (lagOfMember oid) oid.value
  update last (lagOfMember oid) (update (last (lagOfMember oid)) oid.value
    (match attr with
    | .egressDisable v => (v, old.2)
    | .ingressDisable v => (old.1, v)
    | _ => old))

def lagStep (pm : PortMap) (s : LagState) : LagOp → Option LagState
  | .create sdk c attrs =>
    let r := createLagMember pm sdk s.db c attrs
    some ⟨r.2.2, if r.1 = .success then noteFlags s.last attrs r.2.1 else s.last⟩
  | .remove sdk oid => some ⟨(removeLagMember pm sdk s.db oid).2, s.last⟩
  | .set sdk oid attr =>
    let r := setLagMemberInfo pm sdk s.db oid attr
    some ⟨r.2, if r.1 = .success then noteSet s.last oid attr else s.last⟩

/-- The start: LAGs without members, and every port with its own GPORT. -/
structure LagStart (pm : PortMap) (s : LagState) : Prop where
  lags : ∀ o l, s.db.lags.lookup o = some l →
    ∃ tid : BitVec 8, o = lagOid o.lchip (0x1f00 + tid.setWidth 32)
  members : ∀ o l, s.db.lags.lookup o = some l →
    l.memberPorts = ∅ ∧ l.egressDisablePorts = ∅ ∧ l.ingressDisablePorts = ∅
  group : ∀ c tid, (s.db.hw c).group tid = ∅
  gport : ∀ c g, ((s.db.hw c).port g).gport = g

/-- The calls name ports of their chip, and the SDK accepts what it can. -/
def LagAssumed (pm : PortMap) : LagOp → Prop
  | .create sdk c attrs => sdk.Succeeds ∧ ∀ o,
    findAttribInList LagMemberAttr.portId? attrs = some o → pm.isPort c o.value
  | .remove sdk oid => sdk.Succeeds ∧ pm.isPort oid.lchip oid.value
  | .set sdk oid _ => sdk.Succeeds ∧ pm.isPort oid.lchip oid.value

/-! ## What should hold -/

/-- The LAG takes what its member receives. -/
def LagInfo.holds (l : LagInfo) (p : Nat) : Prop :=
  p ∈ l.memberPorts ∧ p ∉ l.ingressDisablePorts

/-- The SDK group and the GPORT follow the member and disable bits. -/
structure LagOk (pm : PortMap) (db : LagDb) : Prop where
  egress_sub : ∀ o l, db.lags.lookup o = some l → l.egressDisablePorts ⊆ l.memberPorts
  ingress_sub : ∀ o l, db.lags.lookup o = some l → l.ingressDisablePorts ⊆ l.memberPorts
  group : ∀ o l, db.lags.lookup o = some l → ∀ g, pm.isPort o.lchip g →
    (g ∈ (db.hw o.lchip).group (o.value.setWidth 8) ↔
      pm.lport g ∈ l.memberPorts ∧ pm.lport g ∉ l.egressDisablePorts)
  gport : ∀ o l, db.lags.lookup o = some l → ∀ g, pm.isPort o.lchip g →
    (((db.hw o.lchip).port g).gport = o.value ↔ l.holds (pm.lport g))
  own : ∀ c g, pm.isPort c g → (∀ o l, db.lags.lookup o = some l → o.lchip = c →
    ¬ l.holds (pm.lport g)) → ((db.hw c).port g).gport = g

def LagSetWorks (pm : PortMap) (db : LagDb) (o : Oid) (g : BitVec 32) : Prop :=
  ∀ (sdk : LagSdk) (v : Bool), sdk.Succeeds →
    (setLagMemberInfo pm sdk db (lagMemberOid o.lchip o.value g) (.egressDisable v)).1 = .success ∧
    (setLagMemberInfo pm sdk db (lagMemberOid o.lchip o.value g) (.ingressDisable v)).1 = .success

/-- The LAG of chip 0 with the number of a LAG, which is the one that a set works
on, has the egress bit of the port, and not the port in its group. -/
def LagDb.SetTakes (pm : PortMap) (db : LagDb) (o : Oid) (g : BitVec 32) : Prop :=
  ∃ l, db.lags.lookup (lagOid 0 o.value) = some l ∧ pm.lport g ∈ l.egressDisablePorts ∧
    g ∉ (db.hw 0).group (o.value.setWidth 8)

/-- A get of either flag, into an attribute that held `v`, returns the last
value given. -/
def LagGetWorks (pm : PortMap) (s : LagState) (o : Oid) (g : BitVec 32) (v : Bool) : Prop :=
  getLagMemberFlag pm s.db (lagMemberOid o.lchip o.value g) LagInfo.egressDisablePorts v =
      (.success, (s.last o g).1) ∧
    getLagMemberFlag pm s.db (lagMemberOid o.lchip o.value g) LagInfo.ingressDisablePorts v =
      (.success, (s.last o g).2)

/-! ## The condition -/

/-- Another LAG of the chip holds the port. -/
def HeldElsewhere (pm : PortMap) (db : LagDb) (o : Oid) (g : BitVec 32) : Prop :=
  ∃ o' l', db.lags.lookup o' = some l' ∧ o'.lchip = o.lchip ∧ o' ≠ o ∧ l'.holds (pm.lport g)

/-- A port that is a member already is asked for what it has. -/
def CreateFits (l : LagInfo) (p : Nat) (out inn : Bool) : Prop :=
  p ∈ l.memberPorts → match out, inn with
    | false, _ => p ∉ l.egressDisablePorts
    | true, false => p ∈ l.egressDisablePorts ∧ p ∉ l.ingressDisablePorts
    | true, true => p ∈ l.egressDisablePorts ∧ p ∈ l.ingressDisablePorts

/-- A creation that writes the GPORT. -/
def CreateWrites (l : LagInfo) (p : Nat) (out inn : Bool) : Prop :=
  match out, inn with
  | true, true => False
  | false, false => p ∉ l.memberPorts
  | _, _ => True

def LagCreateSafe (pm : PortMap) (db : LagDb) (c : Lchip) (attrs : List LagMemberAttr) : Prop :=
  ∀ o l port, findAttribInList LagMemberAttr.lagId? attrs = some o → db.lag c o = some l →
    findAttribInList LagMemberAttr.portId? attrs = some port →
    let out := (findAttribInList LagMemberAttr.egressDisable? attrs).getD false
    let inn := (findAttribInList LagMemberAttr.ingressDisable? attrs).getD false
    CreateFits l (pm.lport port.value) out inn ∧
      (CreateWrites l (pm.lport port.value) out inn → ¬ HeldElsewhere pm db o port.value)

/-- The state before a removal: a member with egress disabled has ingress
disabled too, and one without is with no other LAG. -/
def LagRemoveSafe (pm : PortMap) (db : LagDb) (oid : Oid) : Prop :=
  ∀ l, db.lags.lookup (lagOfMember oid) = some l → pm.lport oid.value ∈ l.memberPorts →
    if pm.lport oid.value ∈ l.egressDisablePorts then pm.lport oid.value ∈ l.ingressDisablePorts
    else ¬ HeldElsewhere pm db (lagOfMember oid) oid.value

def SetWrites (l : LagInfo) (p : Nat) : LagMemberAttr → Prop
  | .egressDisable v => decide (p ∈ l.egressDisablePorts) ≠ v
  | .ingressDisable v => decide (p ∈ l.ingressDisablePorts) ≠ v
  | _ => False

/-- The state before a set: where chip 0 has such a LAG and the egress bit is
set there, the id is of chip 0, and a port whose flag changes is with no other
LAG. -/
def LagSetSafe (pm : PortMap) (db : LagDb) (oid : Oid) (attr : LagMemberAttr) : Prop :=
  ∀ l, db.lags.lookup (lagOid 0 (oid.value2.setWidth 32)) = some l →
    pm.lport oid.value ∈ l.egressDisablePorts →
    oid.lchip = 0 ∧ (SetWrites l (pm.lport oid.value) attr →
      ¬ HeldElsewhere pm db (lagOfMember oid) oid.value)

def LagSafe (pm : PortMap) (s : LagState) : LagOp → Prop
  | .create _ c attrs => LagCreateSafe pm s.db c attrs
  | .remove _ oid => LagRemoveSafe pm s.db oid
  | .set _ oid attr => LagSetSafe pm s.db oid attr

/-! ## What one call does -/

section Views

variable (db : LagDb) (c : Lchip)

def LagDb.groupOf (tid : BitVec 8) : Finset (BitVec 32) := (db.hw c).group tid

/-- The GPORT of a port. -/
def LagDb.gportOf (g : BitVec 32) : BitVec 32 := ((db.hw c).port g).gport

/-- The database once a group took a port. -/
def LagDb.addedPort (tid : BitVec 8) (lag g : BitVec 32) : LagDb :=
  db.setHw c { (db.hw c).setPort g (fun r => { r with gport := lag }) with
    group := update (db.hw c).group tid (insert g ((db.hw c).group tid)) }

/-- The database once a group lost a port. -/
def LagDb.removedPort (tid : BitVec 8) (g : BitVec 32) : LagDb :=
  db.setHw c { (db.hw c).setPort g (fun r => { r with gport := g }) with
    group := update (db.hw c).group tid (((db.hw c).group tid).erase g) }

variable {db c}

@[simp] theorem lchip_lagOid (v : BitVec 32) : (lagOid c v).lchip = c :=
  lchip_createObjectId ..

@[simp] theorem value_lagOid (v : BitVec 32) : (lagOid c v).value = v := rfl

@[simp] theorem groupOf_setLag (o : Oid) (l : LagInfo) (c' : Lchip) (tid : BitVec 8) :
    (db.setLag o l).groupOf c' tid = db.groupOf c' tid := rfl

@[simp] theorem gportOf_setLag (o : Oid) (l : LagInfo) (c' : Lchip) (g : BitVec 32) :
    (db.setLag o l).gportOf c' g = db.gportOf c' g := rfl

@[simp] theorem groupOf_setPort (g : BitVec 32) (f : PortRegs → PortRegs) (c' : Lchip)
    (tid : BitVec 8) : (db.setPort c g f).groupOf c' tid = db.groupOf c' tid := by
  unfold LagDb.groupOf LagDb.setPort LagDb.setHw
  dsimp only
  rw [update_apply]
  split
  · next h => rw [h]; rfl
  · rfl

theorem gportOf_setPort (g : BitVec 32) (f : PortRegs → PortRegs) (c' : Lchip) (x : BitVec 32) :
    (db.setPort c g f).gportOf c' x =
      if c' = c ∧ x = g then (f ((db.hw c).port g)).gport else db.gportOf c' x := by
  unfold LagDb.gportOf LagDb.setPort LagDb.setHw LagHw.setPort
  dsimp only
  rw [update_apply]
  by_cases hc : c' = c
  · rw [if_pos hc]
    dsimp only
    rw [update_apply]
    by_cases hx : x = g
    · rw [if_pos hx, if_pos ⟨hc, hx⟩]
    · rw [if_neg hx, if_neg (fun h => hx h.2), hc]
  · rw [if_neg hc, if_neg (fun h => hc h.1)]

theorem gportOf_setHw (hw : LagHw) (s : BitVec 8 → Finset (BitVec 32)) (c' : Lchip)
    (x : BitVec 32) :
    (db.setHw c { hw with group := s }).gportOf c' x = (db.setHw c hw).gportOf c' x := by
  unfold LagDb.gportOf LagDb.setHw
  dsimp only
  rw [update_apply, update_apply]
  split
  · rfl
  · rfl

theorem gportOf_addedPort (tid : BitVec 8) (lag g : BitVec 32) (c' : Lchip) (x : BitVec 32) :
    (db.addedPort c tid lag g).gportOf c' x = if c' = c ∧ x = g then lag else db.gportOf c' x := by
  unfold LagDb.addedPort
  rw [gportOf_setHw]
  exact gportOf_setPort g _ c' x

theorem gportOf_removedPort (tid : BitVec 8) (g : BitVec 32) (c' : Lchip) (x : BitVec 32) :
    (db.removedPort c tid g).gportOf c' x = if c' = c ∧ x = g then g else db.gportOf c' x := by
  unfold LagDb.removedPort
  rw [gportOf_setHw]
  exact gportOf_setPort g _ c' x

theorem groupOf_setHw (hw : LagHw) (s : Finset (BitVec 32)) (tid : BitVec 8) (c' : Lchip)
    (t : BitVec 8) :
    (db.setHw c { hw with group := update (db.hw c).group tid s }).groupOf c' t =
      if c' = c ∧ t = tid then s else db.groupOf c' t := by
  unfold LagDb.groupOf LagDb.setHw
  dsimp only
  rw [update_apply]
  by_cases hc : c' = c
  · rw [if_pos hc]
    dsimp only
    rw [update_apply]
    by_cases ht : t = tid
    · rw [if_pos ht, if_pos ⟨hc, ht⟩]
    · rw [if_neg ht, if_neg (fun h => ht h.2), hc]
  · rw [if_neg hc, if_neg (fun h => hc h.1)]

theorem mem_groupOf_addedPort (tid : BitVec 8) (lag g : BitVec 32) (c' : Lchip) (t : BitVec 8)
    (x : BitVec 32) : x ∈ (db.addedPort c tid lag g).groupOf c' t ↔
      (c' = c ∧ t = tid ∧ x = g) ∨ x ∈ db.groupOf c' t := by
  unfold LagDb.addedPort
  rw [groupOf_setHw]
  split
  · next h =>
    obtain ⟨rfl, rfl⟩ := h
    rw [Finset.mem_insert]
    exact or_congr_left ⟨fun hx => ⟨rfl, rfl, hx⟩, fun hx => hx.2.2⟩
  · next h => exact (or_iff_right (fun hx => h ⟨hx.1, hx.2.1⟩)).symm

theorem mem_groupOf_removedPort (tid : BitVec 8) (g : BitVec 32) (c' : Lchip) (t : BitVec 8)
    (x : BitVec 32) : x ∈ (db.removedPort c tid g).groupOf c' t ↔
      ¬ (c' = c ∧ t = tid ∧ x = g) ∧ x ∈ db.groupOf c' t := by
  unfold LagDb.removedPort
  rw [groupOf_setHw]
  split
  · next h =>
    obtain ⟨rfl, rfl⟩ := h
    rw [Finset.mem_erase]
    exact and_congr_left' ⟨fun hx hc => hx hc.2.2, fun hx hc => hx ⟨rfl, rfl, hc⟩⟩
  · next h => exact (and_iff_right (fun hx => h ⟨hx.1, hx.2.1⟩)).symm

end Views

section Succeeds

variable {sdk : LagSdk} (hs : sdk.Succeeds) (db : LagDb) (c : Lchip)
variable {tid : BitVec 8} {g : BitVec 32}
include hs

theorem regWrite_ok (site : LagSite) (g : BitVec 32) (f : PortRegs → PortRegs) :
    regWrite sdk db c site g f = (.success, db.setPort c g f) := by
  unfold regWrite
  rw [hs site]
  rfl

theorem linkaggAddPort_new (site : LagSite) (h : g ∉ db.groupOf c tid) (lag : BitVec 32) :
    linkaggAddPort sdk db c site tid lag g = (.success, db.addedPort c tid lag g) := by
  have hadd : (db.hw c).addPort tid lag g = (.none, _) := if_neg h
  unfold linkaggAddPort
  rw [hs site, hadd]
  rfl

theorem linkaggAddPort_old (site : LagSite) (h : g ∈ db.groupOf c tid) (lag : BitVec 32) :
    linkaggAddPort sdk db c site tid lag g = (.itemAlreadyExists, db) := by
  have hadd : (db.hw c).addPort tid lag g = (.exist, db.hw c) := if_pos h
  have hsame : db.setHw c (db.hw c) = db := by
    unfold LagDb.setHw
    rw [update_eq_self]
  unfold linkaggAddPort
  rw [hs site, hadd]
  exact congrArg (Prod.mk _) hsame

theorem linkaggRemovePort_in (site : LagSite) (h : g ∈ db.groupOf c tid) :
    linkaggRemovePort sdk db c site tid g = (.success, db.removedPort c tid g) := by
  have hrem : (db.hw c).removePort tid g = (.none, _) := if_pos h
  unfold linkaggRemovePort
  rw [hs site, hrem]
  rfl

theorem linkaggRemovePort_out (site : LagSite) (h : g ∉ db.groupOf c tid) :
    linkaggRemovePort sdk db c site tid g = (.itemNotFound, db) := by
  have hrem : (db.hw c).removePort tid g = (.notExist, db.hw c) := if_neg h
  have hsame : db.setHw c (db.hw c) = db := by
    unfold LagDb.setHw
    rw [update_eq_self]
  unfold linkaggRemovePort
  rw [hs site, hrem]
  exact congrArg (Prod.mk _) hsame

end Succeeds

/-! ## The invariant -/

/-- What holds in every state of an admitted run. -/
structure LagInv (pm : PortMap) (s : LagState) : Prop where
  lagIds : ∀ o l, s.db.lags.lookup o = some l →
    ∃ tid : BitVec 8, o = lagOid o.lchip (0x1f00 + tid.setWidth 32)
  ok : LagOk pm s.db
  last : ∀ o l, s.db.lags.lookup o = some l → ∀ g, pm.isPort o.lchip g →
    pm.lport g ∈ l.memberPorts → s.last o g =
      (decide (pm.lport g ∈ l.egressDisablePorts), decide (pm.lport g ∈ l.ingressDisablePorts))

theorem PortMap.lport_inj (pm : PortMap) {c : Lchip} {g g' : BitVec 32} (h : pm.isPort c g)
    (h' : pm.isPort c g') (he : pm.lport g = pm.lport g') : g = g' := by
  rw [← pm.gport_lport h, he, pm.gport_lport h']

section Inv

variable {pm : PortMap} {s : LagState} {o : Oid} {l : LagInfo} {g : BitVec 32}

/-- A port never carries the number of a LAG. -/
theorem LagInv.port_ne (h : LagInv pm s) (hl : s.db.lags.lookup o = some l) {c : Lchip}
    (hg : pm.isPort c g) : g ≠ o.value := by
  obtain ⟨tid, ho⟩ := h.lagIds o l hl
  rw [ho]
  exact pm.isPort_lag tid hg

theorem LagInv.eq_of_tid (h : LagInv pm s) {o' : Oid} {l' : LagInfo}
    (hl : s.db.lags.lookup o = some l) (hl' : s.db.lags.lookup o' = some l')
    (hc : o'.lchip = o.lchip) (ht : o'.value.setWidth 8 = o.value.setWidth 8) : o' = o := by
  obtain ⟨tid, ho⟩ := h.lagIds o l hl
  obtain ⟨tid', ho'⟩ := h.lagIds o' l' hl'
  have hv : ∀ t : BitVec 8, (0x1f00 + t.setWidth 32 : BitVec 32).setWidth 8 = t := by
    bv_omega
  rw [ho, ho', value_lagOid, value_lagOid, hv, hv] at ht
  rw [ho, ho', hc, ht]

/-- One LAG is written, its bits and the SDK at one port alone. -/
structure LagWrite (pm : PortMap) (db db' : LagDb) (o : Oid) (g : BitVec 32) (l l' : LagInfo) :
    Prop where
  lookup : ∀ x, db'.lags.lookup x = if x = o then some l' else db.lags.lookup x
  bits : ∀ q, q ≠ pm.lport g → (q ∈ l'.memberPorts ↔ q ∈ l.memberPorts) ∧
    (q ∈ l'.egressDisablePorts ↔ q ∈ l.egressDisablePorts) ∧
    (q ∈ l'.ingressDisablePorts ↔ q ∈ l.ingressDisablePorts)
  egress_sub : pm.lport g ∈ l'.egressDisablePorts → pm.lport g ∈ l'.memberPorts
  ingress_sub : pm.lport g ∈ l'.ingressDisablePorts → pm.lport g ∈ l'.memberPorts
  group_ne : ∀ c t x, ¬ (c = o.lchip ∧ t = o.value.setWidth 8 ∧ x = g) →
    (x ∈ db'.groupOf c t ↔ x ∈ db.groupOf c t)
  group : g ∈ db'.groupOf o.lchip (o.value.setWidth 8) ↔
    pm.lport g ∈ l'.memberPorts ∧ pm.lport g ∉ l'.egressDisablePorts
  gport_ne : ∀ c x, ¬ (c = o.lchip ∧ x = g) → db'.gportOf c x = db.gportOf c x
  gport : (l'.holds (pm.lport g) ∧ db'.gportOf o.lchip g = o.value ∧ ¬ HeldElsewhere pm db o g) ∨
    (¬ l'.holds (pm.lport g) ∧ db'.gportOf o.lchip g = g ∧ ¬ HeldElsewhere pm db o g) ∨
    ((l'.holds (pm.lport g) ↔ l.holds (pm.lport g)) ∧
      db'.gportOf o.lchip g = db.gportOf o.lchip g)

variable {db' : LagDb} {l' : LagInfo}

theorem LagWrite.holds (hw : LagWrite pm s.db db' o g l l') {q : Nat} (hq : q ≠ pm.lport g) :
    l'.holds q ↔ l.holds q := by
  obtain ⟨hm, _, hi⟩ := hw.bits q hq
  exact and_congr hm (not_congr hi)

theorem LagWrite.group_iff (hw : LagWrite pm s.db db' o g l l') (h : LagInv pm s)
    (hl : s.db.lags.lookup o = some l) (hg : pm.isPort o.lchip g) {x : Oid} {y : LagInfo}
    (hx : db'.lags.lookup x = some y) {a : BitVec 32} (ha : pm.isPort x.lchip a) :
    a ∈ db'.groupOf x.lchip (x.value.setWidth 8) ↔
      pm.lport a ∈ y.memberPorts ∧ pm.lport a ∉ y.egressDisablePorts := by
  rw [hw.lookup] at hx
  split at hx
  · next hxo =>
    cases hx
    subst hxo
    by_cases hag : a = g
    · rw [hag]
      exact hw.group
    have hp : pm.lport a ≠ pm.lport g := fun he => hag (pm.lport_inj ha hg he)
    obtain ⟨hm, he, _⟩ := hw.bits _ hp
    rw [hw.group_ne _ _ _ (fun hc => hag hc.2.2), hm, he]
    exact h.ok.group x l hl a ha
  · next hxo =>
    rw [hw.group_ne _ _ _ (fun hc => hxo (h.eq_of_tid hl hx hc.1 hc.2.1))]
    exact h.ok.group x y hx a ha

theorem LagWrite.gport_iff (hw : LagWrite pm s.db db' o g l l') (h : LagInv pm s)
    (hl : s.db.lags.lookup o = some l) (hg : pm.isPort o.lchip g) {x : Oid} {y : LagInfo}
    (hx : db'.lags.lookup x = some y) {a : BitVec 32} (ha : pm.isPort x.lchip a) :
    db'.gportOf x.lchip a = x.value ↔ y.holds (pm.lport a) := by
  rw [hw.lookup] at hx
  split at hx
  · next hxo =>
    cases hx
    subst hxo
    by_cases hag : a = g
    · subst hag
      rcases hw.gport with ⟨hy, hgp, _⟩ | ⟨hy, hgp, _⟩ | ⟨hy, hgp⟩
      · exact iff_of_true hgp hy
      · rw [hgp]
        exact iff_of_false (h.port_ne hl hg) hy
      · rw [hgp, hy]
        exact h.ok.gport x l hl a ha
    · have hp : pm.lport a ≠ pm.lport g := fun he => hag (pm.lport_inj ha hg he)
      rw [hw.gport_ne _ _ (fun hc => hag hc.2), hw.holds hp]
      exact h.ok.gport x l hl a ha
  · next hxo =>
    by_cases hag : x.lchip = o.lchip ∧ a = g
    · obtain ⟨hc, rfl⟩ := hag
      -- another LAG of the chip, at the port that was written
      have hother : ¬ HeldElsewhere pm s.db o a → ¬ y.holds (pm.lport a) :=
        fun hno hy => hno ⟨x, y, hx, hc, hxo, hy⟩
      rw [hc]
      rcases hw.gport with ⟨_, hgp, hno⟩ | ⟨_, hgp, hno⟩ | ⟨_, hgp⟩
      · rw [hgp]
        refine iff_of_false (fun hv => hxo ?_) (hother hno)
        exact h.eq_of_tid hl hx hc (by rw [hv])
      · rw [hgp]
        exact iff_of_false (h.port_ne hx hg) (hother hno)
      · rw [hgp, ← hc]
        exact h.ok.gport x y hx a ha
    · rw [hw.gport_ne _ _ hag]
      exact h.ok.gport x y hx a ha

theorem LagWrite.own (hw : LagWrite pm s.db db' o g l l') (h : LagInv pm s)
    (hl : s.db.lags.lookup o = some l) (hg : pm.isPort o.lchip g) {c : Lchip} {a : BitVec 32}
    (ha : pm.isPort c a) (hfree : ∀ x y, db'.lags.lookup x = some y → x.lchip = c →
      ¬ y.holds (pm.lport a)) : db'.gportOf c a = a := by
  have hother : ∀ x y, s.db.lags.lookup x = some y → x.lchip = c → x ≠ o →
      ¬ y.holds (pm.lport a) := by
    intro x y hx hc hne
    refine hfree x y ?_ hc
    rw [hw.lookup, if_neg hne]
    exact hx
  have hself : o.lchip = c → ¬ l'.holds (pm.lport a) := by
    intro hc
    refine hfree o l' ?_ hc
    rw [hw.lookup, if_pos rfl]
  have hold : (o.lchip = c → ¬ l.holds (pm.lport a)) → s.db.gportOf c a = a := by
    intro hlo
    refine h.ok.own c a ha (fun x y hx hc => ?_)
    by_cases hxo : x = o
    · subst hxo
      rw [hl] at hx
      cases hx
      exact hlo hc
    · exact hother x y hx hc hxo
  by_cases hag : c = o.lchip ∧ a = g
  · obtain ⟨rfl, rfl⟩ := hag
    rcases hw.gport with ⟨hy, _, _⟩ | ⟨_, hgp, _⟩ | ⟨hy, hgp⟩
    · exact absurd hy (hself rfl)
    · exact hgp
    · rw [hgp]
      exact hold (fun _ => by rw [← hy]; exact hself rfl)
  rw [hw.gport_ne _ _ hag]
  refine hold (fun hc => ?_)
  have hp : pm.lport a ≠ pm.lport g :=
    fun he => hag ⟨hc.symm, pm.lport_inj ha (by rw [← hc]; exact hg) he⟩
  rw [← hw.holds hp]
  exact hself hc

/-- The invariant survives such a write. -/
theorem LagInv.write (h : LagInv pm s) (hw : LagWrite pm s.db db' o g l l')
    (hl : s.db.lags.lookup o = some l) (hg : pm.isPort o.lchip g)
    {last' : Oid → BitVec 32 → Bool × Bool}
    (hlast : pm.lport g ∈ l'.memberPorts → last' o g = (decide (pm.lport g ∈ l'.egressDisablePorts),
      decide (pm.lport g ∈ l'.ingressDisablePorts)))
    (hlast_ne : ∀ x a, ¬ (x = o ∧ a = g) → last' x a = s.last x a) : LagInv pm ⟨db', last'⟩ where
  lagIds x y hx := by
    rw [hw.lookup] at hx
    split at hx
    · next hxo =>
      rw [hxo]
      exact h.lagIds o l hl
    · exact h.lagIds x y hx
  ok :=
    { egress_sub := by
        intro x y hx q hq
        rw [hw.lookup] at hx
        split at hx
        · cases hx
          by_cases hp : q = pm.lport g
          · rw [hp] at hq ⊢
            exact hw.egress_sub hq
          · obtain ⟨hm, he, _⟩ := hw.bits q hp
            exact hm.mpr (h.ok.egress_sub o l hl (he.mp hq))
        · exact h.ok.egress_sub x y hx hq
      ingress_sub := by
        intro x y hx q hq
        rw [hw.lookup] at hx
        split at hx
        · cases hx
          by_cases hp : q = pm.lport g
          · rw [hp] at hq ⊢
            exact hw.ingress_sub hq
          · obtain ⟨hm, _, hi⟩ := hw.bits q hp
            exact hm.mpr (h.ok.ingress_sub o l hl (hi.mp hq))
        · exact h.ok.ingress_sub x y hx hq
      group := fun x y hx a ha => hw.group_iff h hl hg hx ha
      gport := fun x y hx a ha => hw.gport_iff h hl hg hx ha
      own := fun c a ha hfree => hw.own h hl hg ha hfree }
  last x y hx a ha hm := by
    rw [hw.lookup] at hx
    split at hx
    · next hxo =>
      cases hx
      subst hxo
      by_cases hag : a = g
      · rw [hag] at hm ⊢
        exact hlast hm
      have hp : pm.lport a ≠ pm.lport g := fun he => hag (pm.lport_inj ha hg he)
      obtain ⟨hbm, hbe, hbi⟩ := hw.bits _ hp
      have hold := h.last x l hl a ha (hbm.mp hm)
      have hne := hlast_ne x a (fun hc => hag hc.2)
      dsimp only at hne ⊢
      rw [hne, hold, decide_eq_decide.mpr hbe, decide_eq_decide.mpr hbi]
    next hxo =>
    have hne := hlast_ne x a (fun hc => hxo hc.1)
    dsimp only at hne ⊢
    rw [hne]
    exact h.last x y hx a ha hm

end Inv

/-! ## The calls -/

/-- Only registers that membership does not speak of changed. -/
structure RegsOnly (db db' : LagDb) : Prop where
  lags : db'.lags = db.lags
  group : ∀ c t, db'.groupOf c t = db.groupOf c t
  gport : ∀ c g, db'.gportOf c g = db.gportOf c g

theorem RegsOnly.refl (db : LagDb) : RegsOnly db db := ⟨rfl, fun _ _ => rfl, fun _ _ => rfl⟩

theorem RegsOnly.trans {db db' db'' : LagDb} (h : RegsOnly db db') (h' : RegsOnly db' db'') :
    RegsOnly db db'' :=
  ⟨h'.lags.trans h.lags, fun c t => (h'.group c t).trans (h.group c t),
    fun c g => (h'.gport c g).trans (h.gport c g)⟩

theorem RegsOnly.setPort (db : LagDb) (c : Lchip) (g : BitVec 32) {f : PortRegs → PortRegs}
    (hf : ∀ r, (f r).gport = r.gport) : RegsOnly db (db.setPort c g f) where
  lags := rfl
  group c' t := groupOf_setPort g f c' t
  gport c' x := by
    rw [gportOf_setPort]
    split
    · next h =>
      rw [hf, h.1, h.2]
      rfl
    · rfl

section Calls

variable {pm : PortMap} {sdk : LagSdk} {s : LagState} {o : Oid} {l : LagInfo} {g : BitVec 32}

variable {db' : LagDb} {p q : Nat}

theorem LagWrite.regs {db db'' : LagDb} {l' : LagInfo} (hw : LagWrite pm db db' o g l l')
    (h : RegsOnly db' db'') : LagWrite pm db db'' o g l l' where
  lookup x := by rw [h.lags]; exact hw.lookup x
  bits := hw.bits
  egress_sub := hw.egress_sub
  ingress_sub := hw.ingress_sub
  group_ne c t x hc := by rw [h.group]; exact hw.group_ne c t x hc
  group := by rw [h.group]; exact hw.group
  gport_ne c x hc := by rw [h.gport]; exact hw.gport_ne c x hc
  gport := by rw [h.gport]; exact hw.gport

theorem lag_setLag (db : LagDb) (o : Oid) (l : LagInfo) : (db.setLag o l).lag o.lchip o = some l := by
  unfold LagDb.lag LagDb.setLag
  rw [if_pos rfl]
  exact AList.lookup_insert _

theorem lookup_setLag (db : LagDb) (o : Oid) (l : LagInfo) (x : Oid) :
    (db.setLag o l).lags.lookup x = if x = o then some l else db.lags.lookup x :=
  Table.lookup_insert_ite _ _ _ _

theorem mem_insert_ne (h : q ≠ p) (s : Finset Nat) : q ∈ insert p s ↔ q ∈ s :=
  Finset.mem_insert.trans (or_iff_right h)

theorem mem_erase_ne (h : q ≠ p) (s : Finset Nat) : q ∈ s.erase p ↔ q ∈ s :=
  Finset.mem_erase.trans (and_iff_right h)

variable (hs : sdk.Succeeds)
variable {oid : Oid} {attr : LagMemberAttr}
include hs

omit hs in
theorem setPort_setPort (db : LagDb) (c : Lchip) (g : BitVec 32) (f f' : PortRegs → PortRegs) :
    (db.setPort c g f).setPort c g f' = db.setPort c g (fun r => f' (f r)) := by
  unfold LagDb.setPort LagDb.setHw LagHw.setPort
  simp only [update_self, update_idem]

omit hs in
theorem setPort_same (db : LagDb) (c : Lchip) (g : BitVec 32) :
    db.setPort c g (fun r => r) = db := by
  unfold LagDb.setPort LagDb.setHw LagHw.setPort
  simp only [update_eq_self]

/-- What the bindings of router interfaces ask of a member. -/
def LagInfo.rifRegs (l : LagInfo) (r : PortRegs) : PortRegs :=
  { r with
    phyIfEn := if l.isBindingRif then true else r.phyIfEn
    sclPortSvlan := if l.isBindingSubRif then true else r.sclPortSvlan }

/-- What a LAG asks of the registers of a member. -/
def LagInfo.memberRegs (l : LagInfo) (r : PortRegs) : PortRegs :=
  l.rifRegs { r with
    vlanCtl := l.vlanCtl
    defaultVlan := l.vlanId
    defaultPcp := l.vlanPriority.setWidth 32 }

theorem createMemberRif_eq (db : LagDb) (c : Lchip) (l : LagInfo) (port : BitVec 32) :
    createMemberRif sdk db c l port = (.success, db.setPort c port l.rifRegs) := by
  unfold createMemberRif LagInfo.rifRegs
  rw [regWrite_ok hs]
  cases l.isBindingRif
  · cases l.isBindingSubRif
    · exact congrArg (Prod.mk _) (setPort_same db c port).symm
    · exact regWrite_ok hs ..
  · cases l.isBindingSubRif
    · rfl
    · exact (regWrite_ok hs ..).trans (congrArg (Prod.mk _) (setPort_setPort ..))

theorem createMemberRegs_eq (db : LagDb) (c : Lchip) (oid : Oid) (l : LagInfo) (port : BitVec 32)
    (out inn : Bool) (r : PortRegs) : createMemberRegs pm sdk db c oid l port out inn r =
      (.success, some (lagMemberOid c oid.value port), db.setPort c port l.memberRegs) := by
  unfold createMemberRegs
  rw [regWrite_ok hs]
  dsimp only
  rw [regWrite_ok hs]
  dsimp only
  rw [regWrite_ok hs]
  dsimp only
  rw [createMemberRif_eq hs, setPort_setPort, setPort_setPort, setPort_setPort]
  rfl

def LagInfo.left (l : LagInfo) (p : Nat) : LagInfo :=
  { l with
    memberPorts := l.memberPorts.erase p
    egressDisablePorts := l.egressDisablePorts.erase p
    ingressDisablePorts := l.ingressDisablePorts.erase p }

omit hs in
theorem left_ne (h : q ≠ p) : (q ∈ (l.left p).memberPorts ↔ q ∈ l.memberPorts) ∧
      (q ∈ (l.left p).egressDisablePorts ↔ q ∈ l.egressDisablePorts) ∧
      (q ∈ (l.left p).ingressDisablePorts ↔ q ∈ l.ingressDisablePorts) :=
  ⟨mem_erase_ne h _, mem_erase_ne h _, mem_erase_ne h _⟩

/-- The record once the bits of a new member are set. -/
def LagInfo.joined (l : LagInfo) (p : Nat) (out inn : Bool) : LagInfo :=
  { l with
    memberPorts := insert p l.memberPorts
    egressDisablePorts := if out then insert p l.egressDisablePorts else l.egressDisablePorts
    ingressDisablePorts := if inn then insert p l.ingressDisablePorts else l.ingressDisablePorts }

omit hs in
theorem joined_ne (h : q ≠ p) (out inn : Bool) :
    (q ∈ (l.joined p out inn).memberPorts ↔ q ∈ l.memberPorts) ∧
      (q ∈ (l.joined p out inn).egressDisablePorts ↔ q ∈ l.egressDisablePorts) ∧
      (q ∈ (l.joined p out inn).ingressDisablePorts ↔ q ∈ l.ingressDisablePorts) := by
  unfold LagInfo.joined
  refine ⟨mem_insert_ne h _, ?_, ?_⟩
  · cases out
    · exact .rfl
    · exact mem_insert_ne h _
  · cases inn
    · exact .rfl
    · exact mem_insert_ne h _

omit hs in
theorem mem_joined (p : Nat) (out inn : Bool) : p ∈ (l.joined p out inn).memberPorts :=
  Finset.mem_insert_self _ _

omit hs in
theorem LagWrite.join {db : LagDb} {out inn : Bool} (hlookup : ∀ x, db'.lags.lookup x =
      if x = o then some (l.joined (pm.lport g) out inn) else db.lags.lookup x)
    (hgroup_ne : ∀ c t x, ¬ (c = o.lchip ∧ t = o.value.setWidth 8 ∧ x = g) →
      (x ∈ db'.groupOf c t ↔ x ∈ db.groupOf c t))
    (hgroup : g ∈ db'.groupOf o.lchip (o.value.setWidth 8) ↔
      pm.lport g ∉ (l.joined (pm.lport g) out inn).egressDisablePorts)
    (hgport_ne : ∀ c x, ¬ (c = o.lchip ∧ x = g) → db'.gportOf c x = db.gportOf c x)
    (hgport : ((l.joined (pm.lport g) out inn).holds (pm.lport g) ∧
        db'.gportOf o.lchip g = o.value ∧ ¬ HeldElsewhere pm db o g) ∨
      (¬ (l.joined (pm.lport g) out inn).holds (pm.lport g) ∧ db'.gportOf o.lchip g = g ∧
        ¬ HeldElsewhere pm db o g) ∨
      (((l.joined (pm.lport g) out inn).holds (pm.lport g) ↔ l.holds (pm.lport g)) ∧
        db'.gportOf o.lchip g = db.gportOf o.lchip g)) :
    LagWrite pm db db' o g l (l.joined (pm.lport g) out inn) where
  lookup := hlookup
  bits _ hq := joined_ne hq out inn
  egress_sub _ := mem_joined _ out inn
  ingress_sub _ := mem_joined _ out inn
  group_ne := hgroup_ne
  group := hgroup.trans (and_iff_right (mem_joined _ out inn)).symm
  gport_ne := hgport_ne
  gport := hgport

omit hs in
theorem lookup_setLag_setLag (db : LagDb) (o : Oid) (l l' : LagInfo) (x : Oid) :
    ((db.setLag o l).setLag o l').lags.lookup x = if x = o then some l' else db.lags.lookup x := by
  rw [lookup_setLag]
  split
  · rfl
  · next h => rw [lookup_setLag, if_neg h]

/-- The flags of a creation: refused for a port that is in the group, or the
start of a write to the LAG at that port. -/
theorem createMemberFlags_write (h : LagInv pm s) (hl : s.db.lags.lookup o = some l)
    (hg : pm.isPort o.lchip g) {out inn : Bool} (hfit : CreateFits l (pm.lport g) out inn)
    (hfree : CreateWrites l (pm.lport g) out inn → ¬ HeldElsewhere pm s.db o g) :
    createMemberFlags pm sdk s.db o.lchip o l g out inn = (.itemAlreadyExists, s.db) ∨
    ∃ db l₁, createMemberFlags pm sdk s.db o.lchip o l g out inn = (.success, db) ∧
      db.lag o.lchip o = some l₁ ∧
      { l₁ with memberPorts := insert (pm.lport g) l₁.memberPorts } = l.joined (pm.lport g) out inn ∧
      LagWrite pm s.db (db.setLag o (l.joined (pm.lport g) out inn)) o g l
        (l.joined (pm.lport g) out inn) ∧
      (decide (pm.lport g ∈ (l.joined (pm.lport g) out inn).egressDisablePorts),
        decide (pm.lport g ∈ (l.joined (pm.lport g) out inn).ingressDisablePorts)) = (out, inn) := by
  have hE : pm.lport g ∈ l.egressDisablePorts → pm.lport g ∈ l.memberPorts :=
    fun he => h.ok.egress_sub o l hl he
  have hI : pm.lport g ∈ l.ingressDisablePorts → pm.lport g ∈ l.memberPorts :=
    fun hi => h.ok.ingress_sub o l hl hi
  have hgrp : g ∈ s.db.groupOf o.lchip (o.value.setWidth 8) ↔
      pm.lport g ∈ l.memberPorts ∧ pm.lport g ∉ l.egressDisablePorts := h.ok.group o l hl g hg
  cases out with
  | true =>
    have hout : g ∉ s.db.groupOf o.lchip (o.value.setWidth 8) := by
      intro hin
      obtain ⟨hm, he⟩ := hgrp.mp hin
      have hf := hfit hm
      cases inn
      · exact he hf.1
      · exact he hf.1
    have hjE : ∀ inn, pm.lport g ∈ (l.joined (pm.lport g) true inn).egressDisablePorts :=
      fun _ => Finset.mem_insert_self _ _
    cases inn with
    | true =>
      refine .inr ⟨_, _, rfl, lag_setLag _ _ _, rfl, ?_, ?_⟩
      · refine .join (lookup_setLag_setLag _ _ _ _) (fun _ _ _ _ => .rfl) ?_
          (fun _ _ _ => rfl) (.inr (.inr ⟨?_, rfl⟩))
        · exact iff_of_false hout (not_not.mpr (hjE true))
        · refine iff_of_false (fun hh => hh.2 (Finset.mem_insert_self _ _)) ?_
          exact fun hh => hh.2 (hfit hh.1).2
      · rw [decide_eq_true (hjE true)]
        exact congrArg (Prod.mk true) (decide_eq_true (Finset.mem_insert_self _ _))
    | false =>
      have hi : pm.lport g ∉ l.ingressDisablePorts :=
        fun hin => (hfit (hI hin)).2 hin
      unfold createMemberFlags
      dsimp only
      rw [regWrite_ok hs]
      refine .inr ⟨_, _, rfl, lag_setLag _ _ _, rfl, ?_, ?_⟩
      · refine .join (lookup_setLag_setLag _ _ _ _) (fun c t x _ => ?_) ?_ (fun c x hc => ?_)
          (.inl ⟨⟨mem_joined _ _ _, hi⟩, ?_, hfree trivial⟩)
        · rw [groupOf_setLag, groupOf_setPort, groupOf_setLag]
        · rw [groupOf_setLag, groupOf_setPort]
          exact iff_of_false hout (not_not.mpr (hjE false))
        · rw [gportOf_setLag, gportOf_setPort, if_neg hc, gportOf_setLag]
        · rw [gportOf_setLag, gportOf_setPort, if_pos ⟨rfl, rfl⟩]
      · rw [decide_eq_true (hjE false)]
        exact congrArg (Prod.mk true) (decide_eq_false hi)
  | false =>
    have he : pm.lport g ∉ l.egressDisablePorts := fun he => hfit (hE he) he
    cases inn with
    | true =>
      have hjI : pm.lport g ∈ (l.joined (pm.lport g) false true).ingressDisablePorts :=
        Finset.mem_insert_self _ _
      have hnh : ¬ (l.joined (pm.lport g) false true).holds (pm.lport g) :=
        fun hh => hh.2 hjI
      unfold createMemberFlags
      dsimp only
      rw [regWrite_ok hs]
      by_cases hin : g ∈ s.db.groupOf o.lchip (o.value.setWidth 8)
      · rw [linkaggAddPort_old hs _ _ _ hin]
        refine .inr ⟨_, _, rfl, lag_setLag _ _ _, rfl, ?_, ?_⟩
        · refine .join (lookup_setLag_setLag _ _ _ _) (fun c t x _ => ?_) ?_ (fun c x hc => ?_)
            (.inr (.inl ⟨hnh, ?_, hfree trivial⟩))
          · rw [groupOf_setLag, groupOf_setPort, groupOf_setLag]
          · rw [groupOf_setLag, groupOf_setPort]
            exact iff_of_true hin he
          · rw [gportOf_setLag, gportOf_setPort, if_neg hc, gportOf_setLag]
          · rw [gportOf_setLag, gportOf_setPort, if_pos ⟨rfl, rfl⟩]
        · rw [decide_eq_true hjI]
          exact congrArg (Prod.mk · true) (decide_eq_false he)
      rw [linkaggAddPort_new hs _ _ _ hin]
      refine .inr ⟨_, _, rfl, lag_setLag _ _ _, rfl, ?_, ?_⟩
      · refine .join (lookup_setLag_setLag _ _ _ _) (fun c t x hc => ?_) ?_ (fun c x hc => ?_)
          (.inr (.inl ⟨hnh, ?_, hfree trivial⟩))
        · rw [groupOf_setLag, groupOf_setPort, groupOf_setLag, mem_groupOf_addedPort]
          exact or_iff_right hc
        · rw [groupOf_setLag, groupOf_setPort, groupOf_setLag, mem_groupOf_addedPort]
          exact iff_of_true (.inl ⟨rfl, rfl, rfl⟩) he
        · rw [gportOf_setLag, gportOf_setPort, if_neg hc, gportOf_setLag,
            gportOf_addedPort, if_neg hc]
        · rw [gportOf_setLag, gportOf_setPort, if_pos ⟨rfl, rfl⟩]
      · rw [decide_eq_true hjI]
        exact congrArg (Prod.mk · true) (decide_eq_false he)
    | false =>
      unfold createMemberFlags
      dsimp only
      by_cases hin : g ∈ s.db.groupOf o.lchip (o.value.setWidth 8)
      · rw [linkaggAddPort_old hs _ _ _ hin]
        exact .inl rfl
      have hm : pm.lport g ∉ l.memberPorts := fun hm => hin (hgrp.mpr ⟨hm, he⟩)
      have hi : pm.lport g ∉ l.ingressDisablePorts := fun hi => hm (hI hi)
      rw [linkaggAddPort_new hs _ _ _ hin]
      refine .inr ⟨_, l, rfl, ?_, rfl, ?_, ?_⟩
      · unfold LagDb.lag
        rw [if_pos rfl]
        exact hl
      · refine .join (lookup_setLag _ _ _) (fun c t x hc => ?_) ?_ (fun c x hc => ?_)
          (.inl ⟨⟨mem_joined _ _ _, hi⟩, ?_, hfree hm⟩)
        · rw [groupOf_setLag, mem_groupOf_addedPort]
          exact or_iff_right hc
        · rw [groupOf_setLag, mem_groupOf_addedPort]
          exact iff_of_true (.inl ⟨rfl, rfl, rfl⟩) he
        · rw [gportOf_setLag, gportOf_addedPort, if_neg hc]
        · rw [gportOf_setLag, gportOf_addedPort, if_pos ⟨rfl, rfl⟩]
      · exact congrArg₂ Prod.mk (decide_eq_false he) (decide_eq_false hi)

omit hs in
theorem lagOfMember_lagMemberOid {c : Lchip} {tid : BitVec 8} (g : BitVec 32)
    (ho : o = lagOid c (0x1f00 + tid.setWidth 32)) : lagOfMember (lagMemberOid c o.value g) = o := by
  have hc : (lagMemberOid c o.value g).lchip = c := lchip_lagOid o.value
  have hv : ((lagMemberOid c o.value g).value2).setWidth 32 = o.value := by
    show (o.value.setWidth 16).setWidth 32 = o.value
    rw [ho, value_lagOid]
    bv_omega
  unfold lagOfMember
  rw [hc, hv, ho]
  rfl

/-- One creation. -/
theorem LagInv.createMember (h : LagInv pm s) {c : Lchip} {attrs : List LagMemberAttr}
    (hport : ∀ o, findAttribInList LagMemberAttr.portId? attrs = some o → pm.isPort c o.value)
    (hsafe : LagCreateSafe pm s.db c attrs) :
    LagInv pm ⟨(createLagMember pm sdk s.db c attrs).2.2,
      if (createLagMember pm sdk s.db c attrs).1 = .success then
        noteFlags s.last attrs (createLagMember pm sdk s.db c attrs).2.1 else s.last⟩ := by
  generalize hr : createLagMember pm sdk s.db c attrs = r
  unfold createLagMember at hr
  split at hr
  · subst hr; exact h
  split at hr
  · next o portOid hoid hpid =>
    split at hr
    · subst hr; exact h
    next l hlag =>
    have hc : o.lchip = c := by
      unfold LagDb.lag at hlag
      split at hlag
      · assumption
      · cases hlag
    subst hc
    have hl : s.db.lags.lookup o = some l := by
      unfold LagDb.lag at hlag
      rwa [if_pos rfl] at hlag
    obtain ⟨hfit, hfree⟩ := hsafe o l portOid hoid hlag hpid
    have hg := hport portOid hpid
    dsimp only at hr
    rcases createMemberFlags_write hs h hl hg hfit hfree with
      hno | ⟨db, l₁, hok, hl₁, hj, hw, hflags⟩
    · rw [hno] at hr
      subst hr
      exact h
    rw [hok] at hr
    rw [hs, hs, hs] at hr
    dsimp only [mappingErrorCtc] at hr
    rw [hl₁] at hr
    dsimp only at hr
    rw [hj] at hr
    rw [createMemberRegs_eq hs] at hr
    subst hr
    obtain ⟨tid, ho⟩ := h.lagIds o l hl
    have hof := lagOfMember_lagMemberOid portOid.value ho
    have hgport : ∀ (l : LagInfo) r, (l.memberRegs r).gport = r.gport := fun _ _ => rfl
    refine h.write (hw.regs (.setPort _ _ _ (hgport _))) hl hg (fun _ => ?_) (fun x a hne => ?_)
    · rw [if_pos rfl]
      unfold noteFlags
      dsimp only
      rw [hof, update_self]
      exact (update_self _ _ _).trans hflags.symm
    · rw [if_pos rfl]
      unfold noteFlags
      dsimp only
      rw [hof, update_apply]
      split
      · next hx =>
        rw [hx]
        exact update_of_ne (fun ha => hne ⟨hx, ha⟩) _ _
      · rfl
  · subst hr; exact h

/-- One removal. -/
theorem LagInv.removeMember (h : LagInv pm s) (hg : pm.isPort oid.lchip oid.value)
    (hsafe : LagRemoveSafe pm s.db oid) :
    LagInv pm ⟨(removeLagMember pm sdk s.db oid).2, s.last⟩ := by
  unfold removeLagMember oidGetLagMemberId
  split
  · exact h
  next lagId gport hid =>
  split at hid
  · cases hid
    dsimp only
    split
    · exact h
    next l hlag =>
    have hl : s.db.lags.lookup (lagOfMember oid) = some l := by
      unfold LagDb.lag at hlag
      split at hlag
      · exact hlag
      · cases hlag
    have hch : (lagOfMember oid).lchip = oid.lchip := lchip_lagOid _
    have hsafe' := hsafe l hl
    -- the bindings touch other registers
    obtain ⟨db₁, hregs₁, heq₁⟩ : ∃ db₁, RegsOnly s.db db₁ ∧
        (if l.isBindingRif then (regWrite sdk s.db oid.lchip .setPhyIfEn oid.value
          (fun r => { r with phyIfEn := false })).2 else s.db) = db₁ := by
      split
      · rw [regWrite_ok hs]
        exact ⟨_, .setPort _ _ _ (by intro _; rfl), rfl⟩
      · exact ⟨_, .refl _, rfl⟩
    rw [heq₁]
    obtain ⟨db₂, hregs₂, heq₂⟩ : ∃ db₂, RegsOnly db₁ db₂ ∧
        (if l.isBindingSubRif then (regWrite sdk db₁ oid.lchip .setSclProperty oid.value
          (fun r => { r with sclPortSvlan := false })).2 else db₁) = db₂ := by
      split
      · rw [regWrite_ok hs]
        exact ⟨_, .setPort _ _ _ (by intro _; rfl), rfl⟩
      · exact ⟨_, .refl _, rfl⟩
    rw [heq₂]
    have hregs := hregs₁.trans hregs₂
    have hg' : pm.isPort (lagOfMember oid).lchip oid.value := by rw [hch]; exact hg
    have hgrp := h.ok.group _ l hl oid.value hg'
    rw [hch] at hgrp
    have hM : pm.lport oid.value ∉ (l.left (pm.lport oid.value)).memberPorts :=
      Finset.notMem_erase _ _
    have hlookup : ∀ db : LagDb, db.lags = db₂.lags → ∀ x,
        ((db.setLag (lagOfMember oid) (l.left (pm.lport oid.value))).lags.lookup x) =
          if x = lagOfMember oid then some (l.left (pm.lport oid.value))
            else s.db.lags.lookup x := by
      intro db hdb x
      rw [lookup_setLag, hdb, hregs.lags]
    by_cases hin : oid.value ∈ s.db.groupOf oid.lchip (oid.value2.setWidth 8)
    · obtain ⟨hm, he⟩ := hgrp.mp hin
      have hno := hsafe' hm
      rw [if_neg he] at hno
      have hin' : oid.value ∈ (db₂.setLag (lagOfMember oid)
          (l.left (pm.lport oid.value))).groupOf oid.lchip (oid.value2.setWidth 8) := by
        rw [groupOf_setLag, hregs.group]
        exact hin
      have hrem := linkaggRemovePort_in hs _ _ .removePort hin'
      have hw : LagWrite pm s.db (linkaggRemovePort sdk (db₂.setLag (lagOfMember oid)
          (l.left (pm.lport oid.value))) oid.lchip .removePort (oid.value2.setWidth 8)
            oid.value).2 (lagOfMember oid) oid.value l (l.left (pm.lport oid.value)) := by
        rw [hrem]
        refine ⟨hlookup _ rfl, fun q hq => left_ne hq, fun hx => ?_, fun hx => ?_,
          fun c t x hc => ?_, ?_, fun c x hc => ?_, .inr (.inl ⟨fun hh => hM hh.1, ?_, hno⟩)⟩
        · exact absurd hx (Finset.notMem_erase _ _)
        · exact absurd hx (Finset.notMem_erase _ _)
        · rw [mem_groupOf_removedPort, groupOf_setLag, hregs.group]
          rw [hch] at hc
          exact and_iff_right hc
        · rw [mem_groupOf_removedPort, hch]
          exact iff_of_false (fun hx => hx.1 ⟨rfl, rfl, rfl⟩) (fun hx => hM hx.1)
        · rw [gportOf_removedPort, gportOf_setLag, hregs.gport]
          rw [hch] at hc
          exact if_neg hc
        · rw [gportOf_removedPort, hch]
          exact if_pos ⟨rfl, rfl⟩
      exact h.write hw hl hg' (fun hx => absurd hx hM) (fun _ _ _ => rfl)
    · have hout' : oid.value ∉ (db₂.setLag (lagOfMember oid)
          (l.left (pm.lport oid.value))).groupOf oid.lchip (oid.value2.setWidth 8) := by
        rw [groupOf_setLag, hregs.group]
        exact hin
      have hrem := linkaggRemovePort_out hs _ _ .removePort hout'
      have hw : LagWrite pm s.db (linkaggRemovePort sdk (db₂.setLag (lagOfMember oid)
          (l.left (pm.lport oid.value))) oid.lchip .removePort (oid.value2.setWidth 8)
            oid.value).2 (lagOfMember oid) oid.value l (l.left (pm.lport oid.value)) := by
        rw [hrem]
        refine ⟨hlookup _ rfl, fun q hq => left_ne hq, fun hx => ?_, fun hx => ?_,
          fun c t x _ => ?_, ?_, fun c x _ => ?_, .inr (.inr ⟨?_, ?_⟩)⟩
        · exact absurd hx (Finset.notMem_erase _ _)
        · exact absurd hx (Finset.notMem_erase _ _)
        · rw [groupOf_setLag, hregs.group]
        · rw [groupOf_setLag, hregs.group, hch]
          exact iff_of_false hin (fun hx => hM hx.1)
        · rw [gportOf_setLag, hregs.gport]
        · -- a member outside the group has its ingress disabled
          refine iff_of_false (fun hh => hM hh.1) (fun hh => ?_)
          have he : pm.lport oid.value ∈ l.egressDisablePorts :=
            not_not.mp (fun he => hin (hgrp.mpr ⟨hh.1, he⟩))
          have hi := hsafe' hh.1
          rw [if_pos he] at hi
          exact hh.2 hi
        · rw [gportOf_setLag, hregs.gport]
      exact h.write hw hl hg' (fun hx => absurd hx hM) (fun _ _ _ => rfl)
  · cases hid

omit hs in
theorem noteSet_same {last : Oid → BitVec 32 → Bool × Bool} (h : (match attr with
      | .egressDisable v => (v, (last (lagOfMember oid) oid.value).2)
      | .ingressDisable v => ((last (lagOfMember oid) oid.value).1, v)
      | _ => last (lagOfMember oid) oid.value) = last (lagOfMember oid) oid.value) :
    noteSet last oid attr = last := by
  unfold noteSet
  dsimp only
  rw [h, update_eq_self, update_eq_self]

omit hs in
theorem noteSet_ne {last : Oid → BitVec 32 → Bool × Bool} {x : Oid} {a : BitVec 32}
    (h : ¬ (x = lagOfMember oid ∧ a = oid.value)) :
    noteSet last oid attr x a = last x a := by
  unfold noteSet
  rw [update_apply]
  split
  · next hx =>
    rw [hx]
    exact update_of_ne (fun ha => h ⟨hx, ha⟩) _ _
  · rfl

omit hs in
theorem noteSet_self (last : Oid → BitVec 32 → Bool × Bool) (oid : Oid) (attr : LagMemberAttr) :
    noteSet last oid attr (lagOfMember oid) oid.value = match attr with
      | .egressDisable v => (v, (last (lagOfMember oid) oid.value).2)
      | .ingressDisable v => ((last (lagOfMember oid) oid.value).1, v)
      | _ => last (lagOfMember oid) oid.value := by
  unfold noteSet
  rw [update_self, update_self]

/-- EGRESS_DISABLE is cleared: the group takes the port, and the GPORT is what
INGRESS_DISABLE asks for. -/
theorem setEgressDisable_write (h : LagInv pm s) (hl : s.db.lags.lookup o = some l)
    (hg : pm.isPort o.lchip g) {lagId : BitVec 16} (ho : lagId.setWidth 32 = o.value)
    (hegr : pm.lport g ∈ l.egressDisablePorts) (hno : ¬ HeldElsewhere pm s.db o g) :
    ∃ db', setEgressDisable pm sdk s.db o.lchip o l lagId g false = (.success, db') ∧
      LagWrite pm s.db db' o g l
        { l with egressDisablePorts := l.egressDisablePorts.erase (pm.lport g) } := by
  have hm := h.ok.egress_sub o l hl hegr
  have hout : g ∉ s.db.groupOf o.lchip (o.value.setWidth 8) :=
    fun hin => ((h.ok.group o l hl g hg).mp hin).2 hegr
  have herase : pm.lport g ∉ l.egressDisablePorts.erase (pm.lport g) := Finset.notMem_erase _ _
  unfold setEgressDisable
  dsimp only
  rw [ho, pm.lport_byte, linkaggAddPort_new hs _ _ _ hout]
  dsimp only
  by_cases hi : pm.lport g ∈ l.ingressDisablePorts
  · rw [if_pos hi, regWrite_ok hs]
    refine ⟨_, rfl, lookup_setLag _ _ _, fun q hq => ⟨.rfl, mem_erase_ne hq _, .rfl⟩,
      fun hx => absurd hx herase, fun _ => hm, fun c t x hc => ?_, ?_, fun c x hc => ?_,
      .inr (.inl ⟨fun hh => hh.2 hi, ?_, hno⟩)⟩
    · rw [groupOf_setLag, groupOf_setPort, mem_groupOf_addedPort]
      exact or_iff_right hc
    · rw [groupOf_setLag, groupOf_setPort, mem_groupOf_addedPort]
      exact iff_of_true (.inl ⟨rfl, rfl, rfl⟩) ⟨hm, herase⟩
    · rw [gportOf_setLag, gportOf_setPort, if_neg hc, gportOf_addedPort, if_neg hc]
    · rw [gportOf_setLag, gportOf_setPort, if_pos ⟨rfl, rfl⟩]
  rw [if_neg hi]
  refine ⟨_, rfl, lookup_setLag _ _ _, fun q hq => ⟨.rfl, mem_erase_ne hq _, .rfl⟩,
    fun hx => absurd hx herase, fun _ => hm, fun c t x hc => ?_, ?_, fun c x hc => ?_,
    .inl ⟨⟨hm, hi⟩, ?_, hno⟩⟩
  · rw [groupOf_setLag, mem_groupOf_addedPort]
    exact or_iff_right hc
  · rw [groupOf_setLag, mem_groupOf_addedPort]
    exact iff_of_true (.inl ⟨rfl, rfl, rfl⟩) ⟨hm, herase⟩
  · rw [gportOf_setLag, gportOf_addedPort, if_neg hc]
  · rw [gportOf_setLag, gportOf_addedPort, if_pos ⟨rfl, rfl⟩]

theorem setIngressDisable_write (h : LagInv pm s) (hl : s.db.lags.lookup o = some l)
    (hg : pm.isPort o.lchip g) {lagId : BitVec 16} (ho : lagId.setWidth 32 = o.value)
    (hm : pm.lport g ∈ l.memberPorts) (hno : ¬ HeldElsewhere pm s.db o g) (v : Bool) :
    ∃ db', setIngressDisable pm sdk s.db o.lchip o l lagId g v = (.success, db') ∧
      LagWrite pm s.db db' o g l { l with
        ingressDisablePorts := if v then insert (pm.lport g) l.ingressDisablePorts
          else l.ingressDisablePorts.erase (pm.lport g) } := by
  unfold setIngressDisable
  rw [ho, regWrite_ok hs]
  refine ⟨_, rfl, lookup_setLag _ _ _, fun q hq => ⟨.rfl, .rfl, ?_⟩, fun _ => hm,
    fun _ => hm, fun c t x _ => ?_, ?_, fun c x hc => ?_, ?_⟩
  · cases v
    · exact mem_erase_ne hq _
    · exact mem_insert_ne hq _
  · rw [groupOf_setLag, groupOf_setPort]
  · rw [groupOf_setLag, groupOf_setPort]
    exact h.ok.group o l hl g hg
  · rw [gportOf_setLag, gportOf_setPort, if_neg hc]
  · rw [gportOf_setLag, gportOf_setPort]
    cases v with
    | true =>
      refine .inr (.inl ⟨fun hh => hh.2 (Finset.mem_insert_self _ _), ?_, hno⟩)
      exact if_pos ⟨rfl, rfl⟩
    | false =>
      refine .inl ⟨⟨hm, Finset.notMem_erase _ _⟩, ?_, hno⟩
      exact if_pos ⟨rfl, rfl⟩

omit hs in
theorem LagInv.setFlag (h : LagInv pm s) {l' : LagInfo}
    (hl : s.db.lags.lookup (lagOfMember oid) = some l)
    (hg : pm.isPort (lagOfMember oid).lchip oid.value)
    (hw : LagWrite pm s.db db' (lagOfMember oid) oid.value l l')
    (hflags : noteSet s.last oid attr (lagOfMember oid) oid.value =
      (decide (pm.lport oid.value ∈ l'.egressDisablePorts),
        decide (pm.lport oid.value ∈ l'.ingressDisablePorts))) :
    LagInv pm ⟨db', noteSet s.last oid attr⟩ :=
  h.write hw hl hg (fun _ => hflags) (fun _ _ hne => noteSet_ne hne)

/-- One set. -/
theorem LagInv.setInfo (h : LagInv pm s) (hg : pm.isPort oid.lchip oid.value)
    (hsafe : LagSetSafe pm s.db oid attr) :
    LagInv pm ⟨(setLagMemberInfo pm sdk s.db oid attr).2,
      if (setLagMemberInfo pm sdk s.db oid attr).1 = .success then noteSet s.last oid attr
      else s.last⟩ := by
  generalize hr : setLagMemberInfo pm sdk s.db oid attr = r
  unfold setLagMemberInfo oidGetLagMemberId at hr
  split at hr
  · subst hr; exact h
  next lagId gport hid =>
  split at hid
  · cases hid
    dsimp only at hr
    split at hr
    · subst hr; exact h
    next l hlag =>
    have hl : s.db.lags.lookup (lagOid 0 (oid.value2.setWidth 32)) = some l := by
      unfold LagDb.lag at hlag
      split at hlag
      · exact hlag
      · cases hlag
    split at hr
    · subst hr; exact h
    next hegr =>
    have hegr : pm.lport oid.value ∈ l.egressDisablePorts := not_not.mp hegr
    obtain ⟨hc, hno⟩ := hsafe l hl hegr
    have ho : lagOid 0 (oid.value2.setWidth 32) = lagOfMember oid := by
      unfold lagOfMember
      rw [hc]
    have hch : (lagOfMember oid).lchip = oid.lchip := lchip_lagOid _
    have hval : oid.value2.setWidth 32 = (lagOfMember oid).value := rfl
    have hzero : (0 : Lchip) = (lagOfMember oid).lchip := by rw [hch, hc]
    rw [ho] at hl hr
    have hg' : pm.isPort (lagOfMember oid).lchip oid.value := by rw [hch]; exact hg
    have hm := h.ok.egress_sub _ l hl hegr
    have hlast := h.last _ l hl oid.value hg' hm
    split at hr
    · next v =>
      split at hr
      · next hsame =>
        subst hr
        rw [noteSet_same (by dsimp only; rw [hlast, hsame])]
        exact h
      next hdiff =>
      have hv : v = false := by
        cases v
        · rfl
        · exact absurd (decide_eq_true hegr) hdiff
      subst hv
      obtain ⟨db', heq, hw⟩ := setEgressDisable_write hs h hl hg' hval hegr (hno hdiff)
      rw [hzero, heq] at hr
      subst hr
      rw [if_pos rfl]
      refine h.setFlag hl hg' hw ?_
      rw [noteSet_self, hlast]
      exact congrArg (Prod.mk · _) (decide_eq_false (Finset.notMem_erase _ _)).symm
    · next v =>
      split at hr
      · next hsame =>
        subst hr
        rw [noteSet_same (by dsimp only; rw [hlast, hsame])]
        exact h
      next hdiff =>
      obtain ⟨db', heq, hw⟩ := setIngressDisable_write hs h hl hg' hval hm (hno hdiff) v
      rw [hzero, heq] at hr
      subst hr
      rw [if_pos rfl]
      refine h.setFlag hl hg' hw ?_
      rw [noteSet_self, hlast]
      refine congrArg (Prod.mk _) ?_
      cases v
      · exact (decide_eq_false (Finset.notMem_erase _ _)).symm
      · exact (decide_eq_true (Finset.mem_insert_self _ _)).symm
    · subst hr
      exact h
  · cases hid

omit hs in
theorem lagStep_inv (h : LagInv pm s) {op : LagOp} (hop : LagAssumed pm op)
    (hsafe : LagSafe pm s op) {s' : LagState} (hst : lagStep pm s op = some s') : LagInv pm s' := by
  cases op with
  | create sdk c attrs =>
    cases hst
    exact h.createMember hop.1 hop.2 hsafe
  | remove sdk oid =>
    cases hst
    exact h.removeMember hop.1 hop.2 hsafe
  | set sdk oid attr =>
    cases hst
    exact h.setInfo hop.1 hop.2 hsafe

end Calls

theorem LagStart.inv {pm : PortMap} {s : LagState} (h : LagStart pm s) : LagInv pm s where
  lagIds := h.lags
  ok :=
    { egress_sub := by
        intro o l hl
        rw [(h.members o l hl).2.1]
        exact Finset.empty_subset _
      ingress_sub := by
        intro o l hl
        rw [(h.members o l hl).2.2]
        exact Finset.empty_subset _
      group := by
        intro o l hl g _
        rw [h.group, (h.members o l hl).1]
        exact iff_of_false (Finset.notMem_empty _) (fun hm => Finset.notMem_empty _ hm.1)
      gport := by
        intro o l hl g hg
        obtain ⟨tid, ho⟩ := h.lags o l hl
        unfold LagInfo.holds
        rw [h.gport, (h.members o l hl).1]
        refine iff_of_false (fun hv => ?_) (fun hm => Finset.notMem_empty _ hm.1)
        rw [ho] at hv
        exact pm.isPort_lag tid hg hv
      own := fun c g _ _ => h.gport c g }
  last o l hl g _ hm := by
    rw [(h.members o l hl).1] at hm
    exact absurd hm (Finset.notMem_empty _)

section Answers

variable {pm : PortMap} {s : LagState} {o : Oid} {l : LagInfo} {g : BitVec 32}

theorem LagInv.lag_member (h : LagInv pm s) (hl : s.db.lags.lookup o = some l) (g : BitVec 32) :
    lagOid o.lchip ((lagMemberOid o.lchip o.value g).value2.setWidth 32) = o ∧
      (lagMemberOid o.lchip o.value g).lchip = o.lchip := by
  obtain ⟨tid, ho⟩ := h.lagIds o l hl
  have hc : (lagMemberOid o.lchip o.value g).lchip = o.lchip := lchip_lagOid o.value
  have hof := lagOfMember_lagMemberOid g ho
  unfold lagOfMember at hof
  rw [hc] at hof
  exact ⟨hof, hc⟩

theorem oidGetLagMemberId_of (c : Lchip) (v g : BitVec 32) :
    oidGetLagMemberId (lagMemberOid c v g) = some ((lagMemberOid c v g).value2, g) := rfl

/-- The LAG that a set finds: chip 0's with the number of the member's. -/
theorem LagInv.setLag (h : LagInv pm s) (hl : s.db.lags.lookup o = some l) (g : BitVec 32) :
    s.db.lag 0 (lagOid 0 (((lagMemberOid o.lchip o.value g).value2).setWidth 32)) =
      s.db.lags.lookup (lagOid 0 o.value) := by
  obtain ⟨ho, _⟩ := h.lag_member hl g
  have hval : ((lagMemberOid o.lchip o.value g).value2).setWidth 32 = o.value :=
    congrArg Oid.value ho
  unfold LagDb.lag
  rw [hval, if_pos (lchip_lagOid _)]

theorem LagInv.setFlag_none (h : LagInv pm s) (hl : s.db.lags.lookup o = some l)
    (hzero : s.db.lags.lookup (lagOid 0 o.value) = none) : ¬ LagSetWorks pm s.db o g := by
  intro hw
  have hset := (hw ⟨fun _ => .none⟩ true (fun _ => rfl)).1
  unfold setLagMemberInfo at hset
  rw [oidGetLagMemberId_of] at hset
  dsimp only at hset
  rw [h.setLag hl, hzero] at hset
  cases hset

section

variable {l₀ : LagInfo} (h : LagInv pm s) (hl : s.db.lags.lookup o = some l)
  (hzero : s.db.lags.lookup (lagOid 0 o.value) = some l₀)
include h hl hzero

theorem LagInv.setFlag_refused (hegr : pm.lport g ∉ l₀.egressDisablePorts) :
    ¬ LagSetWorks pm s.db o g := by
  intro hw
  have hset := (hw ⟨fun _ => .none⟩ true (fun _ => rfl)).1
  unfold setLagMemberInfo at hset
  rw [oidGetLagMemberId_of] at hset
  dsimp only at hset
  rw [h.setLag hl, hzero] at hset
  dsimp only at hset
  rw [if_pos hegr] at hset
  cases hset

theorem LagInv.setMember_eq (hegr : pm.lport g ∈ l₀.egressDisablePorts) (sdk : LagSdk) (v : Bool) :
    (setLagMemberInfo pm sdk s.db (lagMemberOid o.lchip o.value g) (.egressDisable v) =
      if decide (pm.lport g ∈ l₀.egressDisablePorts) = v then (.success, s.db)
      else setEgressDisable pm sdk s.db 0 (lagOid 0 o.value) l₀
        (lagMemberOid o.lchip o.value g).value2 g v) ∧
    setLagMemberInfo pm sdk s.db (lagMemberOid o.lchip o.value g) (.ingressDisable v) =
      if decide (pm.lport g ∈ l₀.ingressDisablePorts) = v then (.success, s.db)
      else setIngressDisable pm sdk s.db 0 (lagOid 0 o.value) l₀
        (lagMemberOid o.lchip o.value g).value2 g v := by
  obtain ⟨ho, _⟩ := h.lag_member hl g
  have hval : ((lagMemberOid o.lchip o.value g).value2).setWidth 32 = o.value :=
    congrArg Oid.value ho
  unfold setLagMemberInfo
  rw [oidGetLagMemberId_of]
  dsimp only
  rw [h.setLag hl, hzero]
  dsimp only
  rw [if_neg (not_not.mpr hegr), if_neg (not_not.mpr hegr), hval]
  exact ⟨rfl, rfl⟩

/-- Egress that is enabled again puts the port into the group. -/
theorem LagInv.setFlag_iff (hegr : pm.lport g ∈ l₀.egressDisablePorts) :
    LagSetWorks pm s.db o g ↔ g ∉ (s.db.hw 0).group (o.value.setWidth 8) := by
  obtain ⟨ho, _⟩ := h.lag_member hl g
  have hval : ((lagMemberOid o.lchip o.value g).value2).setWidth 32 = o.value :=
    congrArg Oid.value ho
  constructor
  · intro hw hin
    have hset := (hw ⟨fun _ => .none⟩ false (fun _ => rfl)).1
    rw [(h.setMember_eq hl hzero hegr _ _).1, decide_eq_true hegr, if_neg nofun] at hset
    unfold setEgressDisable at hset
    dsimp only at hset
    rw [hval, pm.lport_byte, if_neg Bool.false_ne_true,
      linkaggAddPort_old (fun _ => rfl) _ _ _ hin] at hset
    cases hset
  · intro hout sdk v hs
    constructor
    · rw [(h.setMember_eq hl hzero hegr _ _).1]
      split
      · rfl
      next hdiff =>
      have hv : v = false := by
        cases v
        · rfl
        · exact absurd (decide_eq_true hegr) hdiff
      subst hv
      unfold setEgressDisable
      dsimp only
      rw [hval, pm.lport_byte, if_neg Bool.false_ne_true, linkaggAddPort_new hs _ _ _ hout]
      dsimp only
      rw [regWrite_ok hs]
      split
      · rfl
      next hne heq =>
      split at heq
      · cases heq
        exact absurd rfl hne
      · cases heq
        exact absurd rfl hne
    · rw [(h.setMember_eq hl hzero hegr _ _).2]
      split
      · rfl
      · unfold setIngressDisable
        rw [regWrite_ok hs]

end

/-- A set finds the LAG of chip 0, and asks for its egress bit. -/
theorem LagInv.setWorks_iff (h : LagInv pm s) (hl : s.db.lags.lookup o = some l) :
    LagSetWorks pm s.db o g ↔ s.db.SetTakes pm o g := by
  unfold LagDb.SetTakes
  cases hzero : s.db.lags.lookup (lagOid 0 o.value) with
  | none => exact iff_of_false (h.setFlag_none hl hzero) nofun
  | some l₀ =>
    by_cases hegr : pm.lport g ∈ l₀.egressDisablePorts
    · rw [h.setFlag_iff hl hzero hegr]
      refine ⟨fun hout => ⟨l₀, rfl, hegr, hout⟩, ?_⟩
      rintro ⟨_, -, -, hout⟩
      exact hout
    · refine iff_of_false (h.setFlag_refused hl hzero hegr) ?_
      rintro ⟨_, ⟨⟩, hin, -⟩
      exact hegr hin

/-- On chip 0 the LAG is the member's own, and its group goes by the bits. -/
theorem LagInv.setTakes_iff (h : LagInv pm s) (hl : s.db.lags.lookup o = some l)
    (hg : pm.isPort o.lchip g) (hc : o.lchip = 0) :
    s.db.SetTakes pm o g ↔ pm.lport g ∈ l.egressDisablePorts := by
  have ho : lagOid 0 o.value = o := by
    obtain ⟨tid, ho⟩ := h.lagIds o l hl
    rw [hc] at ho
    rw [ho]
    rfl
  unfold LagDb.SetTakes
  rw [ho, hl]
  constructor
  · rintro ⟨_, ⟨⟩, hegr, -⟩
    exact hegr
  · intro hegr
    refine ⟨l, rfl, hegr, fun hin => ?_⟩
    rw [← hc] at hin
    exact ((h.ok.group o l hl g hg).mp hin).2 hegr

theorem LagInv.get_eq (h : LagInv pm s) (hl : s.db.lags.lookup o = some l)
    (bits : LagInfo → Finset Nat) (v : Bool) :
    getLagMemberFlag pm s.db (lagMemberOid o.lchip o.value g) bits v =
      (.success, if pm.lport g ∈ bits l then true else v) := by
  obtain ⟨ho, hc⟩ := h.lag_member hl g
  have hlag : s.db.lag o.lchip o = some l := by
    unfold LagDb.lag
    rw [if_pos rfl]
    exact hl
  unfold getLagMemberFlag
  rw [hc, ho, hlag]
  rfl

theorem LagInv.getWorks_iff (h : LagInv pm s) (hl : s.db.lags.lookup o = some l)
    (hg : pm.isPort o.lchip g) (hm : pm.lport g ∈ l.memberPorts) (v : Bool) :
    LagGetWorks pm s o g v ↔ v = false ∨ s.last o g = (true, true) := by
  unfold LagGetWorks
  rw [h.get_eq hl, h.get_eq hl, h.last o l hl g hg hm]
  by_cases he : pm.lport g ∈ l.egressDisablePorts
  · by_cases hi : pm.lport g ∈ l.ingressDisablePorts
    · simp [he, hi]
    · simp [he, hi]
  · by_cases hi : pm.lport g ∈ l.ingressDisablePorts
    · simp [he, hi]
    · simp [he, hi]

end Answers

/-- In a run in which a port is with one LAG of its chip at a time, and in
which no member leaves with its egress alone disabled, the SDK follows the two
flags of each member.  A member can be set exactly while the LAG of chip 0 with
the number takes the set, which on chip 0 is while its egress is disabled; a get
tells the last values to a caller whose attribute held FALSE. -/
theorem lagMembers_of_run {pm : PortMap} {s : LagState}
    (h : Reachable (LagStart pm) (fun s op => LagAssumed pm op ∧ LagSafe pm s op) (lagStep pm) s) :
    LagOk pm s.db ∧ ∀ o l g, s.db.lags.lookup o = some l → pm.isPort o.lchip g →
      pm.lport g ∈ l.memberPorts →
        (LagSetWorks pm s.db o g ↔ s.db.SetTakes pm o g) ∧
        (o.lchip = 0 → (LagSetWorks pm s.db o g ↔ (s.last o g).1 = true)) ∧
        ∀ v, (LagGetWorks pm s o g v ↔ v = false ∨ s.last o g = (true, true)) := by
  have hi : LagInv pm s :=
    Reachable.inv (fun s hs => hs.inv) (fun _ _ _ hs hop hst => lagStep_inv hs hop.1 hop.2 hst) h
  refine ⟨hi.ok, fun o l g hl hg hm => ⟨hi.setWorks_iff hl, fun hc => ?_, hi.getWorks_iff hl hg hm⟩⟩
  rw [hi.setWorks_iff hl, hi.setTakes_iff hl hg hc, hi.last o l hl g hg hm]
  exact decide_eq_true_iff.symm

/-! ## Two runs -/

/-- A LAG without members. -/
def LagInfo.empty : LagInfo := ⟨∅, ∅, ∅, 1, 0, false, false, false, false⟩

/-- The first LAG of chip 0. -/
def firstLag : Oid := lagOid 0 0x1f00

/-- One LAG on chip 0. -/
def LagState.startOne : LagState where
  db := ⟨(∅ : Table Oid LagInfo).insert firstLag .empty,
    fun _ => ⟨fun _ => ∅, fun g => ⟨g, .allowAllPackets, 0, 1, false, false⟩⟩⟩
  last _ _ := (false, false)

theorem LagState.startOne_lookup {o : Oid} {l : LagInfo}
    (h : LagState.startOne.db.lags.lookup o = some l) : o = firstLag ∧ l = LagInfo.empty := by
  have h' : ((∅ : Table Oid LagInfo).insert firstLag .empty).lookup o = some l := h
  rcases Table.of_lookup_insert h' with ⟨he, rfl⟩ | ⟨-, h'⟩
  · exact ⟨he, rfl⟩
  · cases h'

theorem LagState.startOne_start : LagStart .plain LagState.startOne := by
  refine ⟨fun o l hl => ⟨0, ?_⟩, fun o l hl => ?_, fun _ _ => rfl, fun _ _ => rfl⟩
  · rw [(startOne_lookup hl).1]
    decide
  · rw [(startOne_lookup hl).2]
    exact ⟨rfl, rfl, rfl⟩

def fifthPort : Oid := createObjectId .port 0 0 0 5

/-- Port 5 joins the LAG. -/
def joinFirst (attrs : List LagMemberAttr) : LagOp :=
  .create ⟨fun _ => .none⟩ 0 (.lagId firstLag :: .portId fifthPort :: attrs)

theorem joinFirst_assumed (attrs : List LagMemberAttr) : LagAssumed .plain (joinFirst attrs) := by
  refine ⟨fun _ => rfl, ?_⟩
  rintro _ ⟨⟩
  show (5 : BitVec 32).toNat < 256
  decide

/-- Port 5 is a member whose egress is disabled. -/
theorem lagMembers_of_run_one : ∃ s : LagState, LagOk .plain s.db ∧
    LagSetWorks .plain s.db firstLag 5 ∧ ((s.db.hw 0).port 5).gport = firstLag.value := by
  have r₀ : Reachable (LagStart .plain)
      (fun s op => LagAssumed .plain op ∧ LagSafe .plain s op) (lagStep .plain)
      LagState.startOne := .start LagState.startOne_start
  have r₁ := r₀.next (joinFirst [.egressDisable true]) (by
    refine ⟨joinFirst_assumed _, ?_⟩
    rintro _ _ _ ⟨⟩ hl ⟨⟩
    obtain ⟨-, rfl⟩ := LagState.startOne_lookup (o := firstLag) hl
    refine ⟨fun hm => absurd hm (Finset.notMem_empty _), ?_⟩
    rintro - ⟨x, _, hx, _, hne, _⟩
    exact hne (LagState.startOne_lookup hx).1) rfl
  obtain ⟨hok, hans⟩ := lagMembers_of_run r₁
  have hmem := hans firstLag _ 5 rfl (by show (5 : BitVec 32).toNat < 256; decide) (by decide)
  exact ⟨_, hok, (hmem.2.1 (by decide)).mpr (by decide), by decide⟩

/-- A member without flags cannot be set. -/
theorem lagMembers_not_every_run : ¬ ∀ (pm : PortMap) (s : LagState),
      Reachable (LagStart pm) (fun _ op => LagAssumed pm op) (lagStep pm) s →
        LagOk pm s.db ∧ ∀ o l g, s.db.lags.lookup o = some l → pm.isPort o.lchip g →
          pm.lport g ∈ l.memberPorts → LagSetWorks pm s.db o g ∧ ∀ v, LagGetWorks pm s o g v := by
  intro h
  have r₀ : Reachable (LagStart .plain) (fun _ op => LagAssumed .plain op) (lagStep .plain)
      LagState.startOne := .start LagState.startOne_start
  have r₁ := r₀.next (joinFirst []) (joinFirst_assumed _) rfl
  have hset := ((h _ _ r₁).2 firstLag _ 5 rfl (by show (5 : BitVec 32).toNat < 256; decide)
    (by decide)).1
  have hno := (hset ⟨fun _ => .none⟩ true (fun _ => rfl)).1
  revert hno
  decide

end CtcSai
