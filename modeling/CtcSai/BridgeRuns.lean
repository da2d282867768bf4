/-
# `BridgeRuns` — bridges and their ports in every run

Which bridge a port was created with is kept beside the databases.  The records
hold a number only, so all that a get call can say rests on one fact: of the
bridges of a chip, one alone has the number of a live bridge port.
-/
import CtcSai.BridgeFrames
import CtcSai.Lib.Run

namespace CtcSai

open Function IdPool KeyedTable Runs Table

/-! ## The system -/

/-- The databases, and the bridge that each bridge port was created with. -/
structure BridgeSys (box : BridgeBox) where
  dbs : BridgeDbs box
  named : Oid → Option Oid

namespace BridgeSys

variable {box : BridgeBox} (s : BridgeSys box)

/-- The database of one chip after a call. -/
def setDb (c : Lchip) (db : BridgeDb (box.chip c)) : BridgeSys box :=
  { s with dbs := update s.dbs c db }

theorem setDb_self (c : Lchip) (db : BridgeDb (box.chip c)) : (s.setDb c db).dbs c = db := by
  simp only [setDb, update_self]

theorem setDb_of_ne {c c' : Lchip} (h : c' ≠ c) (db : BridgeDb (box.chip c)) :
    (s.setDb c db).dbs c' = s.dbs c' := by
  simp only [setDb, update_of_ne h]

/-- A bridge port of a chip that is there. -/
def Live (p : Oid) : Prop :=
  box.up p.lchip = true ∧ ((s.dbs p.lchip).bridgePorts.lookup p).isSome

/-- What a creation makes of the bridge ports. -/
def afterCreate (c : Lchip) (attrs : List BridgePortAttr) :
    Status × Option Oid × BridgeDb (box.chip c) → BridgeSys box
  | (.success, some oid, db) =>
    { s.setDb c db with named := update s.named oid (bridgeGiven (box.chip c) c attrs) }
  | (_, _, db) => s.setDb c db

end BridgeSys

inductive BridgeOp where
  | createBridge (c : Lchip) (sdk : BridgeSdk) (attrs : List BridgeAttr)
  | removeBridge (sdk : BridgeSdk) (oid : Oid)
  | createPort (c : Lchip) (sdk : BridgeSdk) (attrs : List BridgePortAttr)
  | removePort (sdk : BridgeSdk) (oid : Oid)
  | getPortList (sdk : BridgeSdk) (oid : Oid) (list : AttrList Oid)
  | getBridgeId (oid : Oid)

variable {box : BridgeBox}

/-- One call.  Objects are created on a switch that exists; an id of another chip
is refused. -/
def bridgeStep (s : BridgeSys box) : BridgeOp → Option (BridgeSys box)
  | .createBridge c sdk attrs =>
    if box.up c then some (s.setDb c (createBridge c sdk (s.dbs c) attrs).2.2) else none
  | .removeBridge sdk oid => some { s with dbs := (removeBridge sdk s.dbs oid).2 }
  | .createPort c sdk attrs =>
    if box.up c then (createBridgePort c sdk (s.dbs c) attrs).map (s.afterCreate c attrs) else none
  | .removePort sdk oid =>
    if box.up oid.lchip then
      (removeBridgePort oid.lchip sdk (s.dbs oid.lchip) oid).map fun r => s.setDb oid.lchip r.2
    else some s
  | .getPortList sdk oid list =>
    if box.up oid.lchip then
      some (s.setDb oid.lchip (getBridgePortList sdk (s.dbs oid.lchip) oid list).2.2)
    else some s
  | .getBridgeId oid =>
    if box.up oid.lchip then
      some (s.setDb oid.lchip (getBridgePortBridgeId oid.lchip (s.dbs oid.lchip) oid).2)
    else some s

/-- The bridge of the chip that alone has its number. -/
def SoleBridge {bc : BridgeChip} (db : BridgeDb bc) (b : Oid) : Prop :=
  b ∈ db.bridges ∧ ∀ b' ∈ db.bridges, b'.value.setWidth 16 = b.value.setWidth 16 → b' = b

/-- A bridge port of the chip has the number. -/
def Carried {bc : BridgeChip} (db : BridgeDb bc) (n : BitVec 16) : Prop :=
  ∃ p bp, db.bridgePorts.lookup p = some bp ∧ bp.bridgeId = n

/-- The calls that keep bridges and their ports apart.  A bridge gets no number
that a port still has and loses none; a CROSS_CONNECT bridge is made while there
are ids and is not removed from under chip 0; a bridge port is given a bridge of
its chip that shares its number with no other, of type 1D unless the port is of
type PORT, and no sub-port meets a VLAN mapping. -/
def BridgeSafe (s : BridgeSys box) : BridgeOp → Prop
  | .createBridge c _ attrs =>
    (findAttribInList BridgeAttr.type? attrs = some 1 → ∀ fid p,
      (s.dbs c).fids.alloc = some (fid, p) → ¬ Carried (s.dbs c) (BitVec.ofNat 16 fid)) ∧
    (findAttribInList BridgeAttr.type? attrs = some 2 → ∃ fid p,
      (s.dbs c).vpwsIds.alloc = some (fid, p) ∧ ¬ Carried (s.dbs c) (BitVec.ofNat 16 fid))
  | .removeBridge _ oid =>
    box.up oid.lchip = true → oid ∈ (s.dbs oid.lchip).bridges →
      (oid.subType = 1 → ¬ Carried (s.dbs oid.lchip) (oid.value.setWidth 16)) ∧
      (oid.subType = 2 → box.up 0 = false)
  | .createPort c sdk attrs => ∀ b type, bridgeGiven (box.chip c) c attrs = some b →
      bridgePortTypeGiven attrs = some type →
      SoleBridge (s.dbs c) b ∧ (type = .port ∨ b.subType = 1) ∧
        ¬ (type = .subPort ∧ sdk.hasVlanMapping = true)
  | _ => True

/-- After `ctc_sai_bridge_db_init`: the default bridge of each chip, with ports of
type PORT. -/
structure BridgeStart (s : BridgeSys box) : Prop where
  bridges : ∀ c, box.up c = true → ∃ d : BitVec 16,
    (box.chip c).defaultBridgeId = some (d.setWidth 32) ∧
    (s.dbs c).bridges = {bridgeOid c bridgeType1Q (d.setWidth 32)} ∧
    ∀ p bp, (s.dbs c).bridgePorts.lookup p = some bp →
      (∃ g, p = bridgePortOid c g) ∧ bp.portType = .port ∧ bp.bridgeId = d ∧
        s.named p = some (bridgeOid c bridgeType1Q (d.setWidth 32))
  held : ∀ c, box.up c = true → (s.dbs c).held = 0

/-! ## The invariant -/

/-- A live bridge port. -/
structure PortOk {bc : BridgeChip} (c : Lchip) (db : BridgeDb bc) (named : Option Oid) (p : Oid)
    (bp : BridgePort) : Prop where
  lchip : p.lchip = c
  bridge : ∃ b, named = some b ∧ SoleBridge db b ∧ bp.bridgeId = b.value.setWidth 16 ∧
    (p.subType ≠ 0 → b.subType = 1)
  portType : bp.portType = .port ↔ p.subType = 0

/-- One chip. -/
structure ChipInv {bc : BridgeChip} (c : Lchip) (db : BridgeDb bc) (named : Oid → Option Oid) :
    Prop where
  bridge : ∀ b ∈ db.bridges,
    b = bridgeOid c (b.subType.setWidth 8) ((b.value.setWidth 16).setWidth 32)
  port : ∀ p bp, db.bridgePorts.lookup p = some bp → PortOk c db (named p) p bp
  held : db.held = 0

def BridgeInv (s : BridgeSys box) : Prop := ∀ c, box.up c = true → ChipInv c (s.dbs c) s.named

section Chip

variable {bc : BridgeChip} {c : Lchip} {db db' : BridgeDb bc} {named : Oid → Option Oid}

theorem ChipInv.congr (h : ChipInv c db named) (hb : db'.bridges = db.bridges)
    (hp : db'.bridgePorts = db.bridgePorts) (hh : db'.held = db.held) : ChipInv c db' named := by
  refine ⟨?_, ?_, hh.trans h.held⟩
  · rw [hb]
    exact h.bridge
  · intro p bp hl
    rw [hp] at hl
    obtain ⟨hc, ⟨b, hn, hs, hid, ht⟩, hpt⟩ := h.port p bp hl
    refine ⟨hc, ⟨b, hn, ?_, hid, ht⟩, hpt⟩
    simp only [SoleBridge, hb]
    exact hs

variable {b : Oid}

theorem ChipInv.addBridge (h : ChipInv c db named)
    (hb : b = bridgeOid c (b.subType.setWidth 8) ((b.value.setWidth 16).setWidth 32))
    (hno : ¬ Carried db (b.value.setWidth 16)) (hins : db'.bridges = insert b db.bridges)
    (hp : db'.bridgePorts = db.bridgePorts) (hh : db'.held = db.held) : ChipInv c db' named := by
  refine ⟨?_, ?_, hh.trans h.held⟩
  · intro b' hb'
    rw [hins, Finset.mem_insert] at hb'
    rcases hb' with rfl | hb'
    · exact hb
    · exact h.bridge b' hb'
  · intro p bp hl
    rw [hp] at hl
    obtain ⟨hc, ⟨b₀, hn, hs, hid, ht⟩, hpt⟩ := h.port p bp hl
    refine ⟨hc, ⟨b₀, hn, ⟨?_, ?_⟩, hid, ht⟩, hpt⟩
    · rw [hins]
      exact Finset.mem_insert_of_mem hs.1
    · intro b' hb' hv
      rw [hins, Finset.mem_insert] at hb'
      rcases hb' with rfl | hb'
      · exact absurd ⟨p, bp, hl, hid.trans hv.symm⟩ hno
      · exact hs.2 b' hb' hv

theorem ChipInv.eraseBridge (h : ChipInv c db named) (hno : ¬ Carried db (b.value.setWidth 16))
    (hers : db'.bridges = db.bridges.erase b) (hp : db'.bridgePorts = db.bridgePorts)
    (hh : db'.held = db.held) : ChipInv c db' named := by
  refine ⟨?_, ?_, hh.trans h.held⟩
  · intro b' hb'
    rw [hers] at hb'
    exact h.bridge b' (Finset.mem_of_mem_erase hb')
  · intro p bp hl
    rw [hp] at hl
    obtain ⟨hc, ⟨b₀, hn, hs, hid, ht⟩, hpt⟩ := h.port p bp hl
    have hne : b₀ ≠ b := by
      rintro rfl
      exact hno ⟨p, bp, hl, hid⟩
    refine ⟨hc, ⟨b₀, hn, ⟨?_, ?_⟩, hid, ht⟩, hpt⟩
    · rw [hers]
      exact Finset.mem_erase.mpr ⟨hne, hs.1⟩
    · intro b' hb' hv
      rw [hers] at hb'
      exact hs.2 b' (Finset.mem_of_mem_erase hb') hv

theorem ChipInv.erasePort (h : ChipInv c db named) {p : Oid} (hb : db'.bridges = db.bridges)
    (hp : db'.bridgePorts = db.bridgePorts.erase p) (hh : db'.held = db.held) :
    ChipInv c db' named := by
  refine ⟨?_, ?_, hh.trans h.held⟩
  · rw [hb]
    exact h.bridge
  · intro q bp hl
    rw [hp] at hl
    replace hl := (of_lookup_erase hl).2
    obtain ⟨hc, ⟨b, hn, hs, hid, ht⟩, hpt⟩ := h.port q bp hl
    refine ⟨hc, ⟨b, hn, ?_, hid, ht⟩, hpt⟩
    simp only [SoleBridge, hb]
    exact hs

theorem ChipInv.addPort (h : ChipInv c db named) {p : Oid} {bp : BridgePort}
    (hok : PortOk c db (some b) p bp) (hb : db'.bridges = db.bridges)
    (hp : db'.bridgePorts = db.bridgePorts.insert p bp) (hh : db'.held = db.held) :
    ChipInv c db' (update named p (some b)) := by
  have hmove : ∀ {n : Option Oid} {q : Oid} {x : BridgePort}, PortOk c db n q x →
      PortOk c db' n q x := by
    rintro n q x ⟨hc, ⟨b, hn, hs, hid, ht⟩, hpt⟩
    refine ⟨hc, ⟨b, hn, ?_, hid, ht⟩, hpt⟩
    simp only [SoleBridge, hb]
    exact hs
  refine ⟨?_, ?_, hh.trans h.held⟩
  · rw [hb]
    exact h.bridge
  · intro q x hl
    rw [hp] at hl
    rcases of_lookup_insert hl with ⟨rfl, rfl⟩ | ⟨hne, hl⟩
    · rw [update_self]
      exact hmove hok
    · rw [update_of_ne hne]
      exact hmove (h.port q x hl)

theorem value_bridgeOid (type : BitVec 8) (n : Nat) :
    (bridgeOid c type (BitVec.ofNat 32 n)).value.setWidth 16 = BitVec.ofNat 16 n :=
  BitVec.setWidth_ofNat_of_le (by decide) n

theorem bridgeOid_shape {type : BitVec 8} (ht : (type.setWidth 3).setWidth 8 = type) {n : Nat}
    (hn : n < 2 ^ 16) :
    bridgeOid c type (BitVec.ofNat 32 n) =
      bridgeOid c ((bridgeOid c type (BitVec.ofNat 32 n)).subType.setWidth 8)
        (((bridgeOid c type (BitVec.ofNat 32 n)).value.setWidth 16).setWidth 32) := by
  have hsub : (bridgeOid c type (BitVec.ofNat 32 n)).subType.setWidth 8 = type := ht
  have hval : (BitVec.ofNat 16 n).setWidth 32 = BitVec.ofNat 32 n := by
    apply BitVec.eq_of_toNat_eq
    simp only [BitVec.toNat_setWidth, BitVec.toNat_ofNat]
    omega
  rw [value_bridgeOid, hsub, hval]

inductive BridgeMade (c : Lchip) (db : BridgeDb bc) (type : BitVec 8) (fid : Nat)
    (db' : BridgeDb bc) : Prop where
  | kept : db'.bridges = db.bridges → db'.bridgePorts = db.bridgePorts → db'.held = db.held →
      BridgeMade c db type fid db'
  | added : db'.bridges = insert (bridgeOid c type (BitVec.ofNat 32 fid)) db.bridges →
      db'.bridgePorts = db.bridgePorts → db'.held = db.held → BridgeMade c db type fid db'
  | erased : db'.bridges = db.bridges.erase (bridgeOid c type (BitVec.ofNat 32 fid)) →
      db'.bridgePorts = db.bridgePorts → db'.held = db.held → BridgeMade c db type fid db'

theorem ChipInv.made (h : ChipInv c db named) {type : BitVec 8}
    (ht : (type.setWidth 3).setWidth 8 = type) {fid : Nat} (hf : fid < 2 ^ 16)
    (hno : ¬ Carried db (BitVec.ofNat 16 fid)) (hm : BridgeMade c db type fid db') :
    ChipInv c db' named := by
  rw [← value_bridgeOid type] at hno
  cases hm with
  | kept hb hp hh => exact h.congr hb hp hh
  | added hb hp hh => exact h.addBridge (bridgeOid_shape ht hf) hno hb hp hh
  | erased hb hp hh => exact h.eraseBridge hno hb hp hh

variable (sdk : BridgeSdk) (attrs : List BridgeAttr)

theorem createBridge1D_made {fid : Nat} {fids : Pool bc.fids}
    (hal : db.fids.alloc = some (fid, fids)) :
    BridgeMade c db bridgeType1D fid (createBridge1D c sdk db attrs).2.2 := by
  have hheld : db.held + 1 - 1 = db.held := Int.add_sub_cancel db.held 1
  simp only [createBridge1D, hal]
  split
  · split
    · split
      · exact .kept rfl rfl hheld
      · have hers : (insert (bridgeOid c bridgeType1D (BitVec.ofNat 32 fid)) db.bridges).erase
            (bridgeOid c bridgeType1D (BitVec.ofNat 32 fid)) =
            db.bridges.erase (bridgeOid c bridgeType1D (BitVec.ofNat 32 fid)) :=
          Finset.erase_insert_eq_erase _ _
        split
        · split
          · split
            · exact .added rfl rfl hheld
            · exact .erased hers rfl hheld
          · exact .erased hers rfl hheld
        · exact .erased hers rfl hheld
    · exact .kept rfl rfl rfl
  · exact .kept rfl rfl rfl

theorem createBridge1D_none (hal : db.fids.alloc = none) :
    (createBridge1D c sdk db attrs).2.2 = db := by
  simp only [createBridge1D, hal]

theorem createBridgeCrossConnect_made {fid : Nat} {vpwsIds : Pool bc.vpwsIds}
    (hal : db.vpwsIds.alloc = some (fid, vpwsIds)) :
    BridgeMade c db bridgeTypeCrossConnect fid (createBridgeCrossConnect c sdk db).2.2 := by
  have hheld : db.held + 1 - 1 = db.held := Int.add_sub_cancel db.held 1
  have hal' : db.lock.vpwsIds.alloc = some (fid, vpwsIds) := hal
  simp only [createBridgeCrossConnect, hal']
  split
  · exact .kept rfl rfl hheld
  · exact .added rfl rfl hheld

end Chip

theorem ChipInv.named_congr {bc : BridgeChip} {c : Lchip} {db : BridgeDb bc}
    {named named' : Oid → Option Oid} (h : ChipInv c db named)
    (hn : ∀ p, p.lchip = c → named' p = named p) : ChipInv c db named' := by
  refine ⟨h.bridge, ?_, h.held⟩
  intro p bp hl
  have hp := h.port p bp hl
  rw [hn p hp.lchip]
  exact hp

section Steps

variable {s s' : BridgeSys box}
variable {c : Lchip} {sdk : BridgeSdk} {bc : BridgeChip} {db : BridgeDb bc}

theorem BridgeInv.setDb (h : BridgeInv s) {db' : BridgeDb (box.chip c)}
    (hc : box.up c = true → ChipInv c db' s.named) : BridgeInv (s.setDb c db') := by
  intro c' hup
  by_cases he : c' = c
  · subst he
    rw [s.setDb_self]
    exact hc hup
  · rw [s.setDb_of_ne he]
    exact h c' hup

theorem BridgeInv.createBridge (h : BridgeInv s) {attrs : List BridgeAttr}
    (hop : BridgeSafe s (.createBridge c sdk attrs)) :
    BridgeInv (s.setDb c (createBridge c sdk (s.dbs c) attrs).2.2) := by
  refine h.setDb fun hup => ?_
  have hc := h c hup
  simp only [CtcSai.createBridge]
  split
  · exact hc
  next st hst =>
  split
  · next he =>
    subst he
    cases hal : (s.dbs c).fids.alloc with
    | none =>
      rw [createBridge1D_none sdk attrs hal]
      exact hc
    | some r =>
      have htop := (box.chip c).fids_top
      have hlt := (Pool.alloc_some hal).2.2.1
      exact hc.made (by decide) (by omega) (hop.1 hst _ _ hal) (createBridge1D_made sdk attrs hal)
  split
  · next he =>
    subst he
    obtain ⟨fid, p, hal, hno⟩ := hop.2 hst
    have htop := (box.chip c).vpwsIds_top
    have hlt := (Pool.alloc_some hal).2.2.1
    exact hc.made (by decide) (by omega) hno (createBridgeCrossConnect_made sdk hal)
  · exact hc

theorem ChipInv.removeBridge1D {named : Oid → Option Oid} (h : ChipInv c db named) (sdk : BridgeSdk)
    {b : Oid} (hno : ¬ Carried db (b.value.setWidth 16)) :
    ChipInv c (removeBridge1D sdk db b).2 named := by
  have hheld : db.held + 1 - 1 = db.held := Int.add_sub_cancel db.held 1
  simp only [CtcSai.removeBridge1D]
  split
  · exact h.eraseBridge hno rfl rfl hheld
  · exact h.congr rfl rfl hheld

theorem BridgeInv.removeBridge (h : BridgeInv s) {oid : Oid}
    (hop : BridgeSafe s (.removeBridge sdk oid)) :
    BridgeInv { s with dbs := (removeBridge sdk s.dbs oid).2 } := by
  simp only [CtcSai.removeBridge]
  split
  · exact h
  next hlive =>
  rw [not_or, Bool.not_eq_true', Bool.not_eq_false, not_not] at hlive
  obtain ⟨hone, hcc⟩ := hop hlive.1 hlive.2
  split
  · next ht =>
    have hsub : oid.subType = 1 := by
      have := congrArg (BitVec.setWidth 3) ht
      rwa [BitVec.setWidth_setWidth_of_le _ (by decide)] at this
    exact h.setDb fun hup => (h _ hup).removeBridge1D sdk (hone hsub)
  split
  · next ht =>
    have hsub : oid.subType = 2 := by
      have := congrArg (BitVec.setWidth 3) ht
      rwa [BitVec.setWidth_setWidth_of_le _ (by decide)] at this
    rw [hcc hsub]
    exact h
  · exact h

theorem BridgeInv.createPort (h : BridgeInv s) (hup : box.up c = true) {attrs : List BridgePortAttr}
    (hop : BridgeSafe s (.createPort c sdk attrs)) {r : Status × Option Oid × BridgeDb (box.chip c)}
    (hr : createBridgePort c sdk (s.dbs c) attrs = some r) :
    BridgeInv (s.afterCreate c attrs r) := by
  have hc := h c hup
  rcases createBridgePort_cases hr with hn | ⟨b, type, bp, value, hin⟩
  · have hset : s.afterCreate c attrs r = s.setDb c r.2.2 := by
      obtain ⟨status, oid, db⟩ := r
      cases status with
      | success => exact absurd rfl hn.status
      | _ => rfl
    rw [hset]
    exact h.setDb fun _ => hc.congr hn.bridges hn.bridgePorts hn.held
  obtain ⟨hsole, htype, hmap⟩ := hop b type hin.bridge hin.given
  have hcr := hin.created
  obtain ⟨bp', hbp', hins⟩ := hcr.bridgePorts
  have hport : bp.portType = type := by
    rcases hin.portType with ht | ⟨ht, hm, -⟩
    · exact ht
    · exact absurd ⟨ht, hm⟩ hmap
  have hok : PortOk c (s.dbs c) (some b) (bridgePortIdOf c type value) bp' := by
    rw [hbp']
    refine ⟨lchip_createObjectId _ _ _ _ _, ⟨b, rfl, hsole, hin.bridgeId, ?_⟩, ?_⟩
    · intro hsub
      rcases htype with ht | hb
      · subst ht
        exact absurd rfl hsub
      · exact hb
    · show bp.portType = .port ↔ type.bits.setWidth 3 = 0
      rw [hport]
      cases type <;> decide
  have hset : s.afterCreate c attrs r = { s.setDb c r.2.2 with
      named := update s.named (bridgePortIdOf c type value) (some b) } := by
    obtain ⟨status, oid, db⟩ := r
    obtain rfl : status = .success := hcr.status
    obtain rfl : oid = some (bridgePortIdOf c type value) := hcr.oid
    simp only [BridgeSys.afterCreate, hin.bridge]
  rw [hset]
  intro c' hup'
  by_cases he : c' = c
  · subst he
    rw [s.setDb_self]
    exact hc.addPort hok hcr.bridges hins hcr.held
  rw [s.setDb_of_ne he]
  refine (h c' hup').named_congr fun p hp => update_of_ne ?_ _ _
  rintro rfl
  exact he (hp.symm.trans hok.lchip)

theorem removeBridgePort_cases {p : Oid} {r : Status × BridgeDb bc}
    (h : removeBridgePort c sdk db p = some r) :
    r.2.bridges = db.bridges ∧ r.2.held = db.held ∧
      (r.2.bridgePorts = db.bridgePorts ∨ r.2.bridgePorts = db.bridgePorts.erase p) := by
  simp only [removeBridgePort] at h
  split at h
  · cases h
    exact ⟨rfl, rfl, .inl rfl⟩
  next bp _ =>
  obtain ⟨⟨bp', db'⟩, hdown, he⟩ := Option.map_eq_some_iff.mp h
  have hs : SameBridges db db' := by
    split at hdown
    · obtain ⟨⟨status, q⟩, hq, hpair⟩ := Option.map_eq_some_iff.mp hdown
      cases hpair
      exact (setAdminState_same c sdk hq).1
    · cases hdown
      exact SameBridges.refl db
  have hd := hs.trans (destroyByType_same c sdk db' bp'.portType bp')
  rw [← he]
  exact ⟨hd.bridges, hd.held, .inr (congrArg (AList.erase p) hd.bridgePorts)⟩

theorem BridgeInv.step (h : BridgeInv s) {op : BridgeOp} (hop : BridgeSafe s op)
    (hst : bridgeStep s op = some s') : BridgeInv s' := by
  cases op with
  | createBridge c sdk attrs =>
    simp only [bridgeStep] at hst
    split at hst
    · cases hst
      exact h.createBridge hop
    · cases hst
  | removeBridge sdk oid =>
    cases hst
    exact h.removeBridge hop
  | createPort c sdk attrs =>
    simp only [bridgeStep] at hst
    split at hst
    · next hup =>
      obtain ⟨r, hr, he⟩ := Option.map_eq_some_iff.mp hst
      rw [← he]
      exact h.createPort hup hop hr
    · cases hst
  | removePort sdk oid =>
    simp only [bridgeStep] at hst
    split at hst
    · obtain ⟨r, hr, he⟩ := Option.map_eq_some_iff.mp hst
      obtain ⟨hb, hh, hp⟩ := removeBridgePort_cases hr
      rw [← he]
      refine h.setDb fun hup => ?_
      rcases hp with hp | hp
      · exact (h _ hup).congr hb hp hh
      · exact (h _ hup).erasePort hb hp hh
    · cases hst
      exact h
  | getPortList sdk oid list =>
    simp only [bridgeStep] at hst
    split at hst
    · cases hst
      refine h.setDb fun hup => ?_
      have hheld : (s.dbs oid.lchip).held + 1 - 1 = (s.dbs oid.lchip).held :=
        Int.add_sub_cancel _ 1
      simp only [getBridgePortList]
      split
      · exact (h _ hup).congr rfl rfl hheld
      · exact (h _ hup).congr rfl rfl hheld
    · cases hst
      exact h
  | getBridgeId oid =>
    simp only [bridgeStep] at hst
    split at hst
    · cases hst
      refine h.setDb fun hup => ?_
      have hheld : (s.dbs oid.lchip).held + 1 - 1 = (s.dbs oid.lchip).held :=
        Int.add_sub_cancel _ 1
      simp only [getBridgePortBridgeId]
      split
      · exact (h _ hup).congr rfl rfl hheld
      · split
        · exact (h _ hup).congr rfl rfl hheld
        · exact (h _ hup).congr rfl rfl hheld
    · cases hst
      exact h

theorem BridgeStart.inv (h : BridgeStart s) : BridgeInv s := by
  intro c hup
  obtain ⟨d, -, hb, hp⟩ := h.bridges c hup
  have hsole : SoleBridge (s.dbs c) (bridgeOid c bridgeType1Q (d.setWidth 32)) := by
    refine ⟨?_, ?_⟩
    · rw [hb]
      exact Finset.mem_singleton_self _
    · intro b' hb' _
      rw [hb] at hb'
      exact Finset.mem_singleton.mp hb'
  have hval : (d.setWidth 32).setWidth 16 = d := by
    rw [BitVec.setWidth_setWidth_of_le _ (by decide), BitVec.setWidth_eq]
  refine ⟨?_, ?_, h.held c hup⟩
  · intro b hbm
    rw [hb] at hbm
    rw [Finset.mem_singleton.mp hbm]
    show _ = bridgeOid c _ (((d.setWidth 32).setWidth 16).setWidth 32)
    rw [hval]
    rfl
  · intro p bp hl
    obtain ⟨⟨g, hg⟩, hpt, hid, hn⟩ := hp p bp hl
    subst hg
    refine ⟨lchip_createObjectId _ _ _ _ _, ⟨_, hn, hsole, ?_, fun hne => absurd rfl hne⟩, ?_⟩
    · rw [hid]
      exact hval.symm
    · exact ⟨fun _ => rfl, fun _ => hpt⟩

/-! ## What holds in every run -/

/-- What the calls see. -/
structure BridgeOk (s : BridgeSys box) : Prop where
  /-- PORT_LIST of a bridge is a list of the ports created with it, each once. -/
  portList : ∀ b, box.up b.lchip = true → b ∈ (s.dbs b.lchip).bridges → ∃ ports : List Oid,
    ports.Nodup ∧ (∀ p, p ∈ ports ↔ s.Live p ∧ s.named p = some b) ∧
    ∀ sdk list, sdk.memList = true →
      ((getBridgePortList sdk (s.dbs b.lchip) b list).1,
        (getBridgePortList sdk (s.dbs b.lchip) b list).2.1) = fillObjectList (some ports) list
  /-- BRIDGE_ID is the bridge; a bridge port of type PORT has no such attribute. -/
  bridgeId : ∀ p, s.Live p → ∃ b, s.named p = some b ∧
    (getBridgePortBridgeId p.lchip (s.dbs p.lchip) p).1 =
      if p.subType = 0 then .error (.invalidAttrValue 0) else .ok b
  /-- A creation leaves the live bridge ports as they are, and its own was not one. -/
  create : ∀ c sdk attrs r, createBridgePort c sdk (s.dbs c) attrs = some r →
    (∀ p, ((s.dbs c).bridgePorts.lookup p).isSome →
      r.2.2.bridgePorts.lookup p = (s.dbs c).bridgePorts.lookup p) ∧
    (r.1 = .success → ∃ p, r.2.1 = some p ∧ (s.dbs c).bridgePorts.lookup p = none)
  /-- The default bridge stays. -/
  removeDefault : ∀ sdk b, b.subType = 0 → (removeBridge sdk s.dbs b).1 ≠ .success
  /-- Nobody holds a lock. -/
  held : ∀ c, box.up c = true → (s.dbs c).held = 0

theorem createBridgePort_live {attrs : List BridgePortAttr} {r : Status × Option Oid × BridgeDb bc}
    (h : createBridgePort c sdk db attrs = some r) :
    (∀ p, (db.bridgePorts.lookup p).isSome →
      r.2.2.bridgePorts.lookup p = db.bridgePorts.lookup p) ∧
    (r.1 = .success → ∃ p, r.2.1 = some p ∧ db.bridgePorts.lookup p = none) := by
  rcases createBridgePort_cases h with hn | ⟨b, type, bp, value, hin⟩
  · refine ⟨fun p _ => ?_, fun hs => absurd hs hn.status⟩
    rw [hn.bridgePorts]
  have hc := hin.created
  obtain ⟨bp', -, hins⟩ := hc.bridgePorts
  refine ⟨fun p hp => ?_, fun _ => ⟨_, hc.oid, hc.fresh⟩⟩
  rw [hins, lookup_insert_ite]
  split
  · next he =>
    subst he
    rw [hc.fresh] at hp
    cases hp
  · rfl

theorem BridgeInv.portList (h : BridgeInv s) {b : Oid} (hup : box.up b.lchip = true)
    (hb : b ∈ (s.dbs b.lchip).bridges) (p : Oid) :
    p ∈ ((s.dbs b.lchip).bridgePorts.entries.filter fun e =>
        e.2.bridgeId = b.value.setWidth 16).map Sigma.fst ↔
      s.Live p ∧ s.named p = some b := by
  have hc := h _ hup
  constructor
  · intro hp
    obtain ⟨⟨q, bp⟩, hq, rfl⟩ := List.mem_map.mp hp
    obtain ⟨hmem, hid⟩ := List.mem_filter.mp hq
    have hl := mem_entries_iff.mp hmem
    obtain ⟨hchip, ⟨b₀, hn, hs, hid₀, -⟩, -⟩ := hc.port q bp hl
    refine ⟨?_, ?_⟩
    · show box.up q.lchip = true ∧ ((s.dbs q.lchip).bridgePorts.lookup q).isSome
      rw [hchip, hl]
      exact ⟨hup, rfl⟩
    · rw [hn, hs.2 b hb ((of_decide_eq_true hid).symm.trans hid₀)]
  · rintro ⟨⟨hlive, hsome⟩, hn⟩
    obtain ⟨bp, hl⟩ := Option.isSome_iff_exists.mp hsome
    obtain ⟨-, ⟨b₀, hn₀, hs, hid, -⟩, -⟩ := (h _ hlive).port p bp hl
    obtain rfl : b₀ = b := Option.some.inj (hn₀.symm.trans hn)
    have hchip : p.lchip = b₀.lchip := by
      have := congrArg Oid.lchip ((h _ hlive).bridge b₀ hs.1)
      rw [this]
      exact (lchip_createObjectId _ _ _ _ _).symm
    rw [hchip] at hl
    exact List.mem_map.mpr ⟨⟨p, bp⟩, List.mem_filter.mpr
      ⟨mem_entries_iff.mpr hl, decide_eq_true hid⟩, rfl⟩

theorem BridgeInv.bridgeId (h : BridgeInv s) {p : Oid} (hp : s.Live p) : ∃ b, s.named p = some b ∧
    (getBridgePortBridgeId p.lchip (s.dbs p.lchip) p).1 =
      if p.subType = 0 then .error (.invalidAttrValue 0) else .ok b := by
  obtain ⟨hup, hsome⟩ := hp
  obtain ⟨bp, hl⟩ := Option.isSome_iff_exists.mp hsome
  obtain ⟨-, ⟨b, hn, hs, hid, ht⟩, hpt⟩ := (h _ hup).port p bp hl
  refine ⟨b, hn, ?_⟩
  have hl' : (s.dbs p.lchip).lock.bridgePorts.lookup p = some bp := hl
  simp only [getBridgePortBridgeId, hl', hpt]
  split
  · rfl
  next hne =>
  have hshape := (h _ hup).bridge b hs.1
  rw [ht hne, ← hid] at hshape
  exact congrArg Except.ok hshape.symm

theorem BridgeInv.ok (h : BridgeInv s) : BridgeOk s := by
  refine ⟨?_, fun p hp => h.bridgeId hp, fun c sdk attrs r hr => createBridgePort_live hr, ?_,
    fun c hup => (h c hup).held⟩
  · intro b hup hb
    refine ⟨_, ?_, h.portList hup hb, ?_⟩
    · exact List.Nodup.sublist (List.Sublist.map Sigma.fst List.filter_sublist)
        (s.dbs b.lchip).bridgePorts.keys_nodup
    · intro sdk list hmem
      simp only [getBridgePortList, hmem]
      rfl
  · intro sdk b hb
    have hone : ¬ b.subType.setWidth 8 = bridgeType1D := by rw [hb]; decide
    have hcc : ¬ b.subType.setWidth 8 = bridgeTypeCrossConnect := by rw [hb]; decide
    simp only [CtcSai.removeBridge, if_neg hone, if_neg hcc]
    split <;> nofun

end Steps

/-- In every run whose calls keep bridges and their ports apart, what the calls
see of them agrees with what was created. -/
theorem bridges_of_run {s : BridgeSys box} (h : Reachable BridgeStart BridgeSafe bridgeStep s) :
    BridgeOk s :=
  BridgeInv.ok (Reachable.inv (fun _ hs => hs.inv) (fun _ _ _ hs hop hst => hs.step hop hst) h)

/-! ## Two runs -/

/-- A chip with 64 ports and eight ids of each kind. -/
def BridgeChip.plain : BridgeChip where
  pm := .plain
  gport_lt h := Nat.lt_trans h (by decide)
  chip0Gport n := BitVec.ofNat 32 n
  checkGlobalPort _ := true
  isCpuPort _ := false
  maxPhyPortNum := 64
  defaultBridgeId := some 1
  fids := .firstFit 1 8
  vpwsIds := .firstFit 1 8
  logicPorts := .firstFit 1 8
  nexthops := .firstFit 3 8
  commonIds := .firstFit 1 8
  fids_top := by decide
  vpwsIds_top := by decide
  logicPorts_top := Chip.small.arp_top
  nexthops_top := Chip.small.nexthop_top

def BridgeBox.two : BridgeBox := ⟨fun _ => .plain, fun c => c = 0 ∨ c = 1⟩

/-- The SDK and the memory that give all they are asked for. -/
def BridgeSdk.ok : BridgeSdk where
  vlanFilter _ _ := .none
  learnLimit _ := .none
  fidLearnLimit := .none
  transmitEn _ _ := .none
  receiveEn _ _ := .none
  sclProperty _ := .none
  reflective _ := .none
  nhAddXlate := .none
  setNhidNew := .none
  setNhid := .none
  hasVlanMapping := false
  addVlanMapping := .none
  updateVlanMapping := .none
  removeVlanMapping := .none
  addPortToDefaultEntry := .none
  mplsGetIlm := .none
  mplsUpdateIlm := .none
  createVlan := .none
  setFid := .none
  setLearning := .none
  addDefaultEntry := .none
  getCapability := .none
  updateBridgeRif := .success
  memBridgePort := true
  memPort := true
  memProperty := true
  memList := true

/-- A chip after its start: VLAN 1 has FID 1, and port 3 is in the default bridge. -/
def BridgeDb.initial (c : Lchip) : BridgeDb .plain where
  bridges := {bridgeOid c bridgeType1Q 1}
  bridgePorts := (∅ : Table Oid BridgePort).insert (bridgePortOid c 3)
    { BridgePort.zero with gport := 3, bridgeId := 1, adminState := true }
  ports _ := none
  lags := ∅
  tunnels := ∅
  fids := ⟨{1}, [], by decide⟩
  vpwsIds := .empty _
  logicPorts := .empty _
  nexthops := .empty _
  commonIds := .empty _
  registers _ := ⟨false, false, true, true, (0xFFFFFFFF, .discard), false, false⟩
  held := 0

def BridgeSys.initial : BridgeSys .two where
  dbs := BridgeDb.initial
  named p := some (bridgeOid p.lchip bridgeType1Q 1)

theorem BridgeStart.initial : BridgeStart BridgeSys.initial := by
  refine ⟨fun c _ => ⟨1, rfl, rfl, ?_⟩, fun _ _ => rfl⟩
  intro p bp hl
  simp only [BridgeSys.initial, BridgeDb.initial, lookup_insert_ite] at hl
  split at hl
  · next he =>
    cases hl
    subst he
    refine ⟨⟨3, rfl⟩, rfl, rfl, ?_⟩
    show some (bridgeOid (bridgePortOid c 3).lchip bridgeType1Q 1) = _
    rw [bridgePortOid, lchip_createObjectId]
    rfl
  · simp at hl

theorem not_carried_initial {c : Lchip} {n : BitVec 16} (hn : n ≠ 1) :
    ¬ Carried (BridgeDb.initial c) n := by
  rintro ⟨p, bp, hl, hid⟩
  simp only [BridgeDb.initial, lookup_insert_ite] at hl
  split at hl
  · cases hl
    exact hn hid.symm
  · simp at hl

/-- Interface 7 in 1D bridge 2 of chip 1. -/
def routerSeven : List BridgePortAttr :=
  [.type 3, .bridgeId (bridgeOid 1 bridgeType1D 2),
    .rifId (createObjectId .routerInterface 1 0 0 7)]

/-- A 1D bridge of chip 1 and a port of it for interface 7: PORT_LIST has the port,
and its BRIDGE_ID is the bridge. -/
theorem bridges_of_run_three : ∃ s : BridgeSys .two, BridgeOk s ∧
    (s.dbs 1).bridges = {bridgeOid 1 bridgeType1D 2, bridgeOid 1 bridgeType1Q 1} ∧
    s.named (bridgePortIdOf 1 .router1D 7) = some (bridgeOid 1 bridgeType1D 2) := by
  have r₀ : Reachable BridgeStart BridgeSafe bridgeStep BridgeSys.initial := .start .initial
  have r₁ := r₀.next (.createBridge 1 .ok [.type 1]) (by
    refine ⟨fun _ fid p hal => ?_, fun h => absurd h (by decide)⟩
    have hfid : some 2 = some fid := congrArg (Option.map Prod.fst) hal
    cases hfid
    exact not_carried_initial (by decide)) rfl
  have r₂ := r₁.next (.createPort 1 .ok routerSeven) (by
    intro b type hb ht
    cases hb
    cases ht
    exact ⟨⟨by decide, by decide⟩, .inr rfl, by decide⟩) rfl
  exact ⟨_, bridges_of_run r₂, by decide, by decide⟩

/-- A port of type PORT has no BRIDGE_ID; the first CROSS_CONNECT bridge lists the
port of the default one, and its removal releases a lock nobody took; a 1D bridge
is removed from under its port. -/
theorem bridges_not_as_stated : (∃ s : BridgeSys .two, Reachable BridgeStart anyStep bridgeStep s ∧
      s.Live (bridgePortOid 0 3) ∧ s.named (bridgePortOid 0 3) = some (bridgeOid 0 bridgeType1Q 1) ∧
      (getBridgePortBridgeId 0 (s.dbs 0) (bridgePortOid 0 3)).1 = .error (.invalidAttrValue 0)) ∧
    (∃ s : BridgeSys .two, Reachable BridgeStart anyStep bridgeStep s ∧
      bridgeOid 0 bridgeTypeCrossConnect 1 ∈ (s.dbs 0).bridges ∧
      s.named (bridgePortOid 0 3) = some (bridgeOid 0 bridgeType1Q 1) ∧
      (getBridgePortList .ok (s.dbs 0) (bridgeOid 0 bridgeTypeCrossConnect 1) ⟨8, []⟩).2.1 =
        ⟨1, [bridgePortOid 0 3]⟩) ∧
    (∃ s : BridgeSys .two, Reachable BridgeStart anyStep bridgeStep s ∧ (s.dbs 0).held = -1) ∧
    (∃ s : BridgeSys .two, Reachable BridgeStart anyStep bridgeStep s ∧
      s.Live (bridgePortIdOf 1 .router1D 7) ∧
      s.named (bridgePortIdOf 1 .router1D 7) = some (bridgeOid 1 bridgeType1D 2) ∧
      (removeBridge .ok s.dbs (bridgeOid 1 bridgeType1D 2)).1 = .success) := by
  have r₀ : Reachable BridgeStart anyStep bridgeStep BridgeSys.initial := .start .initial
  have c₁ := r₀.next (.createBridge 0 .ok [.type 2]) trivial rfl
  have c₂ := c₁.next (.removeBridge .ok (bridgeOid 0 bridgeTypeCrossConnect 1)) trivial rfl
  have d₁ := r₀.next (.createBridge 1 .ok [.type 1]) trivial rfl
  have d₂ := d₁.next (.createPort 1 .ok routerSeven) trivial rfl
  refine ⟨⟨_, r₀, ?_, rfl, rfl⟩, ⟨_, c₁, ?_, rfl, rfl⟩, ⟨_, c₂, rfl⟩, ⟨_, d₂, ?_, ?_, ?_⟩⟩
  · exact ⟨by decide, by decide⟩
  · decide
  · exact ⟨by decide, by decide⟩
  · decide
  · decide

end CtcSai
