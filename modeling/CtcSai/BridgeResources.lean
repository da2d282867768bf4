/-
# `BridgeResources` — the ids and the switches behind bridge ports

Of a chip's database, `BridgeDb.res` shows what sub-ports, tunnels and
sub-interfaces share: the two pools, the tunnels, the two counts of a port or a
LAG, and the two registers that follow them.  Each function is said once as a
change of this view.
-/
import CtcSai.BridgeFrames
import CtcSai.BridgeTunnels
import CtcSai.RifSubs

namespace CtcSai

open KeyedTable IdPool Table

/-! ## The view -/

/-- What sub-ports, tunnels and sub-interfaces share. -/
structure ResView (bc : BridgeChip) where
  logicPorts : Pool bc.logicPorts
  nexthops : Pool bc.nexthops
  tunnels : Table Oid BridgeTunnel
  /-- `sub_port_ref_cnt` of a port or a LAG. -/
  sub : BitVec 32 → BitVec 32
  /-- The number of its sub-interfaces. -/
  subIf : BitVec 32 → Nat
  /-- `is_binding_sub_rif` of a LAG. -/
  binding : BitVec 32 → Bool
  /-- The member ports of a LAG that exists. -/
  members : BitVec 32 → Option (List (BitVec 32))
  scl : BitVec 32 → Bool
  reflective : BitVec 32 → Bool

def BridgeDb.res {bc : BridgeChip} (c : Lchip) (db : BridgeDb bc) : ResView bc where
  logicPorts := db.logicPorts
  nexthops := db.nexthops
  tunnels := db.tunnels
  sub := subPortRefCnt c db
  subIf := subIfRefCnt c db
  binding h := ((db.lags.lookup (lagOid c h)).map BridgeLag.isBindingSubRif).getD false
  members h := (db.lags.lookup (lagOid c h)).map (BridgeDb.lagPorts (bc.pm.gport c))
  scl g := (db.registers g).sclPortSvlan
  reflective g := (db.registers g).reflective

namespace ResView

variable {bc : BridgeChip} (v : ResView bc)

/-- The ports of a port or a LAG. -/
def ports (h : BitVec 32) : List (BitVec 32) :=
  if isLinkaggPort h then (v.members h).getD [] else [h]

/-- Both registers of the ports of `h` are written. -/
def switch (on : Bool) (h : BitVec 32) : ResView bc :=
  { v with
    scl := fun g => if g ∈ v.ports h then on else v.scl g
    reflective := fun g => if g ∈ v.ports h then on else v.reflective g }

/-- The hash of the ports of `h` is written. -/
def switchHash (on : Bool) (h : BitVec 32) : ResView bc :=
  { v with scl := fun g => if g ∈ v.ports h then on else v.scl g }

/-- A write to `sub_port_ref_cnt`. -/
def setSub (h cnt : BitVec 32) : ResView bc := { v with sub := Function.update v.sub h cnt }

end ResView

section Views

variable {bc : BridgeChip} (c : Lchip) (sdk : BridgeSdk)
variable {db db' : BridgeDb bc} {h : BitVec 32} {logicPort nhId : Nat}

theorem res_writePort (db : BridgeDb bc) (g : BitVec 32) (f : BridgePortRegs → BridgePortRegs) :
    (db.writePort g f).res c = { db.res c with
      scl := Function.update (db.res c).scl g (f (db.registers g)).sclPortSvlan
      reflective := Function.update (db.res c).reflective g (f (db.registers g)).reflective } := by
  have hscl : (fun x => ((db.writePort g f).registers x).sclPortSvlan) =
      Function.update (db.res c).scl g (f (db.registers g)).sclPortSvlan := by
    funext x
    simp only [BridgeDb.writePort, BridgeDb.res, Function.update_apply]
    split <;> rfl
  have hrefl : (fun x => ((db.writePort g f).registers x).reflective) =
      Function.update (db.res c).reflective g (f (db.registers g)).reflective := by
    funext x
    simp only [BridgeDb.writePort, BridgeDb.res, Function.update_apply]
    split <;> rfl
  rw [← hscl, ← hrefl]
  rfl

theorem OnlyRegs.res {c : Lchip} (h : OnlyRegs db db') : db'.res c = db.res c := by
  have hscl := funext fun g => (h.switches g).1
  have hreflective := funext fun g => (h.switches g).2
  rw [← h.rest]
  show { db.res c with
    scl := fun g => (db'.registers g).sclPortSvlan
    reflective := fun g => (db'.registers g).reflective } = db.res c
  rw [hscl, hreflective]
  rfl

/-! ## Counts -/

/-- The record that counts for a port or a LAG is there. -/
def HasRecord (db : BridgeDb bc) (h : BitVec 32) : Prop :=
  if isLinkaggPort h then (db.lags.lookup (lagOid c h)).isSome else (db.ports (portOid c h)).isSome

theorem res_subPortRecord (db : BridgeDb bc) (h : BitVec 32) :
    (subPortRecord c sdk db h).2.res c = db.res c := by
  simp only [subPortRecord]
  split
  · split <;> rfl
  split
  · rfl
  next hnone =>
  split
  · split
    · rfl
    · split
      · -- a record that was just made counts nothing, like one that is not there
        have hp : db.ports (portOid c h) = none := Option.not_isSome_iff_eq_none.mp hnone
        have hsub : subPortRefCnt c { db with
            ports := Function.update db.ports (portOid c h) (some ⟨0, 0⟩) } =
            subPortRefCnt c db := by
          funext x
          simp only [subPortRefCnt, Function.update_apply]
          split
          · rfl
          · split
            · next he => rw [he, hp]; rfl
            · rfl
        have hif : subIfRefCnt c { db with
            ports := Function.update db.ports (portOid c h) (some ⟨0, 0⟩) } =
            subIfRefCnt c db := by
          funext x
          simp only [subIfRefCnt, Function.update_apply]
          split
          · rfl
          · split
            · next he => rw [he, hp]; rfl
            · rfl
        simp only [BridgeDb.res, hsub, hif]
      · rfl
  · rfl

theorem subPortRecord_success (he : subPortRecord c sdk db h = (.success, db')) :
    HasRecord c db' h := by
  simp only [subPortRecord] at he
  simp only [HasRecord]
  split at he
  · next hl =>
    split at he
    · next hs =>
      cases he
      rw [if_pos hl]
      exact hs
    · cases he
  next hl =>
  rw [if_neg hl]
  split at he
  · next hs =>
    cases he
    exact hs
  split at he
  · split at he
    · cases he
    · split at he
      · cases he
        show (Function.update db.ports _ _ _).isSome
        rw [Function.update_self]
        rfl
      · cases he
  · next hne => exact absurd (congrArg Prod.fst he) hne

theorem subPortRecord_of_hasRecord (hr : HasRecord c db h) :
    subPortRecord c sdk db h = (.success, db) := by
  simp only [HasRecord] at hr
  simp only [subPortRecord]
  split
  · next hl =>
    rw [if_pos hl] at hr
    rw [if_pos hr]
  · next hl =>
    rw [if_neg hl] at hr
    rw [if_pos hr]

theorem res_setPortRefs (db : BridgeDb bc) (hl : ¬ isLinkaggPort h = true) (p : PortRefs) :
    (setPortRefs c db h p).res c = { db.res c with
      sub := Function.update (db.res c).sub h p.subPortRefCnt
      subIf := Function.update (db.res c).subIf h p.subIfRefCnt.toNat } := by
  have hne : ∀ {x}, x ≠ h → portOid c x ≠ portOid c h := fun hx he => hx (portOid_inj he)
  have hsub : subPortRefCnt c (setPortRefs c db h p) =
      Function.update (subPortRefCnt c db) h p.subPortRefCnt := by
    funext x
    simp only [subPortRefCnt, setPortRefs, Function.update_apply]
    by_cases hx : x = h
    · subst hx
      simp only [hl, if_true]
      rfl
    · simp only [hx, hne hx, if_false]
  have hif : subIfRefCnt c (setPortRefs c db h p) =
      Function.update (subIfRefCnt c db) h p.subIfRefCnt.toNat := by
    funext x
    simp only [subIfRefCnt, setPortRefs, Function.update_apply]
    by_cases hx : x = h
    · subst hx
      simp only [hl, if_true]
      rfl
    · simp only [hx, hne hx, if_false]
  simp only [BridgeDb.res, hsub, hif]
  rfl

theorem res_insertLag (hl : isLinkaggPort h = true) {l l' : BridgeLag}
    (hlook : db.lags.lookup (lagOid c h) = some l) (hm : l'.memberPorts = l.memberPorts) :
    BridgeDb.res c { db with lags := db.lags.insert (lagOid c h) l' } = { db.res c with
      sub := Function.update (db.res c).sub h l'.subPortRefCnt
      subIf := Function.update (db.res c).subIf h l'.bindingSubRifCount.toNat
      binding := Function.update (db.res c).binding h l'.isBindingSubRif } := by
  have hne : ∀ {x}, x ≠ h → lagOid c x ≠ lagOid c h := fun hx he => hx (lagOid_inj he)
  have hsub : subPortRefCnt c { db with lags := db.lags.insert (lagOid c h) l' } =
      Function.update (subPortRefCnt c db) h l'.subPortRefCnt := by
    funext x
    simp only [subPortRefCnt, Function.update_apply, lookup_insert_ite]
    by_cases hx : x = h
    · subst hx
      simp only [hl, if_true]
      rfl
    · simp only [hx, hne hx, if_false]
  have hif : subIfRefCnt c { db with lags := db.lags.insert (lagOid c h) l' } =
      Function.update (subIfRefCnt c db) h l'.bindingSubRifCount.toNat := by
    funext x
    simp only [subIfRefCnt, Function.update_apply, lookup_insert_ite]
    by_cases hx : x = h
    · subst hx
      simp only [hl, if_true]
      rfl
    · simp only [hx, hne hx, if_false]
  have hbind : (fun x => (((db.lags.insert (lagOid c h) l').lookup (lagOid c x)).map
      BridgeLag.isBindingSubRif).getD false) =
      Function.update (db.res c).binding h l'.isBindingSubRif := by
    funext x
    simp only [BridgeDb.res, Function.update_apply, lookup_insert_ite]
    by_cases hx : x = h
    · subst hx
      simp only [if_true]
      rfl
    · simp only [hx, hne hx, if_false]
  have hmem : (fun x => ((db.lags.insert (lagOid c h) l').lookup (lagOid c x)).map
      (BridgeDb.lagPorts (bc.pm.gport c))) =
      fun x => (db.lags.lookup (lagOid c x)).map (BridgeDb.lagPorts (bc.pm.gport c)) := by
    funext x
    rw [lookup_insert_ite]
    split
    · next hx =>
      rw [hx, hlook]
      simp only [Option.map_some, BridgeDb.lagPorts, hm]
    · rfl
  simp only [BridgeDb.res, hsub, hif, hmem] at hbind ⊢
  rw [hbind]

theorem sub_of_lag (hl : isLinkaggPort h = true) {l : BridgeLag}
    (hlook : db.lags.lookup (lagOid c h) = some l) :
    (db.res c).sub h = l.subPortRefCnt ∧ (db.res c).subIf h = l.bindingSubRifCount.toNat ∧
      (db.res c).binding h = l.isBindingSubRif := by
  simp only [BridgeDb.res, subPortRefCnt, subIfRefCnt, hl, if_true, hlook, Option.map_some,
    Option.getD_some, and_self]

theorem sub_of_port {db : BridgeDb bc} {h : BitVec 32} (hl : ¬ isLinkaggPort h = true) :
    (db.res c).sub h = ((db.ports (portOid c h)).getD ⟨0, 0⟩).subPortRefCnt ∧
      (db.res c).subIf h = ((db.ports (portOid c h)).getD ⟨0, 0⟩).subIfRefCnt.toNat := by
  simp only [BridgeDb.res, subPortRefCnt, subIfRefCnt, hl]
  cases db.ports (portOid c h) with
  | none => exact ⟨rfl, rfl⟩
  | some p => exact ⟨rfl, rfl⟩

theorem res_setSubPortRefCnt (hr : HasRecord c db h) (cnt : BitVec 32) :
    (setSubPortRefCnt c db h cnt).res c = (db.res c).setSub h cnt := by
  simp only [HasRecord] at hr
  simp only [setSubPortRefCnt]
  split
  · next hl =>
    rw [if_pos hl] at hr
    obtain ⟨l, hlook⟩ := Option.isSome_iff_exists.mp hr
    simp only [hlook]
    have hm : ({ l with subPortRefCnt := cnt } : BridgeLag).memberPorts = l.memberPorts := rfl
    obtain ⟨-, hif, hbind⟩ := sub_of_lag c hl hlook
    rw [res_insertLag c hl hlook hm]
    simp only [← hif, ← hbind, Function.update_eq_self, ResView.setSub]
  next hl =>
  rw [if_neg hl] at hr
  obtain ⟨p, hp⟩ := Option.isSome_iff_exists.mp hr
  have hif : p.subIfRefCnt.toNat = (db.res c).subIf h := by
    rw [(sub_of_port c hl).2, hp]
    rfl
  simp only [hp]
  refine (res_setPortRefs c db hl { p with subPortRefCnt := cnt }).trans ?_
  simp only [hif, Function.update_eq_self, ResView.setSub]

/-! ## The two registers -/

theorem portsOf_eq (db : BridgeDb bc) (h : BitVec 32) :
    (portsOf c db (bc.pm.gport c) h).getD [] = (db.res c).ports h := by
  simp only [portsOf, ResView.ports, BridgeDb.res]
  split <;> rfl

/-- The SDK does what nobody checks. -/
def SwitchesWork : Prop := ∀ g, sdk.sclProperty g = .none ∧ sdk.reflective g = .none

theorem switched_cons (rest : List (BitVec 32)) (a : BitVec 32) (on : Bool)
    (f : BitVec 32 → Bool) : (fun g => if g ∈ rest then on else Function.update f a on g) =
      fun g => if g = a ∨ g ∈ rest then on else f g := by
  funext g
  by_cases hg : g ∈ rest
  · simp only [hg, or_true, if_true]
  by_cases ha : g = a
  · subst ha
    simp only [hg, true_or, if_true, if_false, Function.update_self]
  · simp only [hg, ha, false_or, if_false, Function.update_of_ne ha]

theorem res_foldl_switch (hw : SwitchesWork sdk) (on : Bool) (ports : List (BitVec 32))
    (db : BridgeDb bc) :
    (ports.foldl (fun db g =>
      let db := if sdk.sclProperty g = .none then
        db.writePort g (fun r => { r with sclPortSvlan := on }) else db
      if sdk.reflective g = .none then
        db.writePort g (fun r => { r with reflective := on }) else db) db).res c =
      { db.res c with
        scl := fun g => if g ∈ ports then on else (db.res c).scl g
        reflective := fun g => if g ∈ ports then on else (db.res c).reflective g } := by
  induction ports generalizing db with
  | nil => rfl
  | cons a rest ih =>
    rw [List.foldl_cons, ih]
    simp only [(hw a).1, (hw a).2, if_true]
    rw [res_writePort, res_writePort]
    simp only [List.mem_cons, BridgeDb.writePort, Function.update_self, Function.update_idem,
      ResView.mk.injEq, true_and]
    constructor
    · exact switched_cons rest a on _
    · exact switched_cons rest a on _

theorem res_setPortSvlan (hw : SwitchesWork sdk) (db : BridgeDb bc) (on : Bool) (h : BitVec 32) :
    (setPortSvlan c sdk db on h).res c = (db.res c).switch on h := by
  simp only [setPortSvlan, portsOf_eq]
  exact res_foldl_switch c sdk hw on _ db

theorem res_writeSubIfHash (db : BridgeDb bc) (on : Bool) (h : BitVec 32) :
    (writeSubIfHash c db on h).res c = (db.res c).switchHash on h := by
  simp only [writeSubIfHash, portsOf_eq]
  show _ = { db.res c with scl := fun g => if g ∈ (db.res c).ports h then on else (db.res c).scl g }
  generalize (db.res c).ports h = ports
  induction ports generalizing db with
  | nil => rfl
  | cons a rest ih =>
    rw [List.foldl_cons, ih, res_writePort]
    simp only [List.mem_cons, ResView.mk.injEq, true_and]
    constructor
    · exact switched_cons rest a on _
    · exact Function.update_eq_self a (db.res c).reflective

/-! ## The functions on bridge ports -/

theorem res_bindLag {type : BridgePortType} (he : bindLag c db type h = some db') :
    db'.res c = db.res c := by
  simp only [bindLag] at he
  split at he
  · next hl =>
    obtain ⟨l, hlook, hdb⟩ := Option.map_eq_some_iff.mp he
    obtain ⟨hsub, hif, hbind⟩ := sub_of_lag c hl hlook
    rw [← hdb, res_insertLag c hl hlook (by rfl)]
    simp only [← hsub, ← hif, ← hbind, Function.update_eq_self]
  · cases he
    rfl

def ResView.freeBoth (v : ResView bc) (logicPort nhId : Nat) : ResView bc :=
  { v with
    nexthops := v.nexthops.free nhId
    logicPorts := v.logicPorts.free logicPort }

def ResView.takeBoth (v : ResView bc) (logicPorts : Pool bc.logicPorts)
    (nexthops : Pool bc.nexthops) : ResView bc :=
  { v with logicPorts := logicPorts, nexthops := nexthops }

theorem res_freeSubPort (db : BridgeDb bc) (logicPort nhId : Nat) :
    (freeSubPort db logicPort nhId).res c = (db.res c).freeBoth logicPort nhId := rfl

theorem res_allocSubPort_error (h : allocSubPort db = .error db') : db'.res c = db.res c := by
  simp only [allocSubPort] at h
  split at h
  · cases h
    rfl
  next logicPort logicPorts hal =>
  split at h
  · cases h
    show { db.res c with logicPorts := logicPorts.free logicPort } = db.res c
    rw [Pool.free_of_alloc hal]
    rfl
  · cases h

theorem allocSubPort_taken (h : allocSubPort db = .ok (logicPort, nhId, db')) :
    ∃ logicPorts nexthops, db.logicPorts.alloc = some (logicPort, logicPorts) ∧
      db.nexthops.alloc = some (nhId, nexthops) ∧
      db'.res c = (db.res c).takeBoth logicPorts nexthops := by
  simp only [allocSubPort] at h
  split at h
  · cases h
  next hal =>
  split at h
  · cases h
  · next hal' =>
    cases h
    exact ⟨_, _, hal, hal', rfl⟩

/-- The port or the LAG that an attribute list asks for. -/
def portGiven (attrs : List BridgePortAttr) : Option (BitVec 32) :=
  (findAttribInList BridgePortAttr.portId? attrs).map Oid.value

/-- The SDK does all that a new sub-port needs. -/
def SubPortWorks : Prop :=
  sdk.nhAddXlate = .none ∧ sdk.setNhidNew = .none ∧ sdk.addVlanMapping = .none

/-- What `_ctc_sai_bridge_port_create_sub_port` does where it meets no mapping. -/
inductive SubPortMade (v : ResView bc) (bp : BridgePort) (attrs : List BridgePortAttr) :
    Except Status BridgePort × BridgeDb bc → Prop where
  | refused {status : Status} {db' : BridgeDb bc} : db'.res c = v →
      SubPortMade v bp attrs (.error status, db')
  /-- The ids went back, the registers did not. -/
  | undone {status : Status} {db' : BridgeDb bc} (h : BitVec 32) : portGiven attrs = some h →
      ¬ SubPortWorks sdk → db'.res c = v.switch true h → SubPortMade v bp attrs (.error status, db')
  | made {bp' : BridgePort} {db' : BridgeDb bc} (h : BitVec 32) (logicPort nhId : Nat)
      (logicPorts : Pool bc.logicPorts) (nexthops : Pool bc.nexthops) :
      portGiven attrs = some h →
      v.logicPorts.alloc = some (logicPort, logicPorts) →
      v.nexthops.alloc = some (nhId, nexthops) →
      db'.res c = ((v.takeBoth logicPorts nexthops).switch true h).setSub h (v.sub h + 1) →
      bp'.portType = .subPort → bp'.gport = h.setWidth 16 → bp'.bridgeType = bp.bridgeType →
      bp'.adminState = bp.adminState →
      bp'.logicPort = BitVec.ofNat 16 logicPort → bp'.nhId = BitVec.ofNat 32 nhId →
      bp'.crossConnectPort = bp.crossConnectPort →
      SubPortMade v bp attrs (.ok bp', db')

theorem hasRecord_congr (hl : db'.lags = db.lags) (hp : db'.ports = db.ports)
    (hr : HasRecord c db h) : HasRecord c db' h := by
  simp only [HasRecord, hl, hp]
  exact hr

theorem hasRecord_of_sub (hs : (db.res c).sub h ≠ 0) : HasRecord c db h := by
  simp only [HasRecord]
  simp only [BridgeDb.res, subPortRefCnt] at hs
  split
  · next hl =>
    rw [if_pos hl] at hs
    cases hlook : db.lags.lookup (lagOid c h) with
    | none => exact absurd (by rw [hlook]; rfl) hs
    | some l => rfl
  next hl =>
  rw [if_neg hl] at hs
  cases hp : db.ports (portOid c h) with
  | none => exact absurd (by rw [hp]; rfl) hs
  | some p => rfl

theorem setPortSvlan_records (db : BridgeDb bc) (on : Bool) (h : BitVec 32) :
    (setPortSvlan c sdk db on h).lags = db.lags ∧
      (setPortSvlan c sdk db on h).ports = db.ports := by
  simp only [setPortSvlan]
  generalize (portsOf c db (bc.pm.gport c) h).getD [] = ports
  induction ports generalizing db with
  | nil => exact ⟨rfl, rfl⟩
  | cons g rest ih =>
    rw [List.foldl_cons]
    refine ⟨(ih _).1.trans ?_, (ih _).2.trans ?_⟩ <;> split <;> split <;> rfl

theorem allocSubPort_records (h : allocSubPort db = .ok (logicPort, nhId, db')) :
    db'.lags = db.lags ∧ db'.ports = db.ports := by
  simp only [allocSubPort] at h
  split at h
  · cases h
  split at h
  · cases h
  · cases h
    exact ⟨rfl, rfl⟩

theorem freeBoth_takeBoth {v : ResView bc} {logicPorts : Pool bc.logicPorts}
    {nexthops : Pool bc.nexthops} (hl : v.logicPorts.alloc = some (logicPort, logicPorts))
    (hn : v.nexthops.alloc = some (nhId, nexthops)) (h : BitVec 32) :
    ((v.takeBoth logicPorts nexthops).switch true h).freeBoth logicPort nhId = v.switch true h := by
  have hlp : logicPorts.free logicPort = v.logicPorts := Pool.free_of_alloc hl
  have hnh : nexthops.free nhId = v.nexthops := Pool.free_of_alloc hn
  show { (v.takeBoth logicPorts nexthops).switch true h with
    nexthops := nexthops.free nhId, logicPorts := logicPorts.free logicPort } = v.switch true h
  rw [hlp, hnh]
  rfl

theorem createSubPort_made (hw : SwitchesWork sdk) (hmap : sdk.hasVlanMapping = false)
    (db : BridgeDb bc) (bp : BridgePort) (attrs : List BridgePortAttr) :
    SubPortMade c sdk (db.res c) bp attrs (createSubPort c sdk db bp attrs) := by
  simp only [createSubPort]
  split
  · exact .refused rfl
  next portId hport =>
  have hgiven : portGiven attrs = some portId.value := by rw [portGiven, hport]; rfl
  have hrec := res_subPortRecord c sdk db portId.value
  split
  · next db₁ he =>
    have hr := subPortRecord_success c sdk he
    rw [he] at hrec
    split
    · exact .refused hrec
    next vlanId _ =>
    split
    · exact .refused hrec
    next tagMode _ =>
    split
    · exact .refused hrec
    split
    · next hal => exact .refused ((res_allocSubPort_error c hal).trans hrec)
    next logicPort nhId db₂ hal =>
    obtain ⟨pl, pn, hl, hn, hres⟩ := allocSubPort_taken c hal
    rw [hrec] at hres
    have hpool : db₁.logicPorts = (db.res c).logicPorts :=
      congrArg ResView.logicPorts hrec
    have hpool' : db₁.nexthops = (db.res c).nexthops :=
      congrArg ResView.nexthops hrec
    rw [hpool] at hl
    rw [hpool'] at hn
    have hon : (setPortSvlan c sdk db₂ true portId.value).res c =
        ((db.res c).takeBoth pl pn).switch true portId.value := by
      rw [res_setPortSvlan c sdk hw, hres]
    have hundo : (freeSubPort (setPortSvlan c sdk db₂ true portId.value)
        logicPort nhId).res c = (db.res c).switch true portId.value := by
      rw [res_freeSubPort, hon, freeBoth_takeBoth hl hn]
    split
    · next hok₁ =>
      split
      · next hok₂ =>
        rw [hmap]
        split
        · next hf => cases hf
        split
        · have h₂ := allocSubPort_records hal
          have h₃ := setPortSvlan_records c sdk db₂ true portId.value
          have hr₃ := hasRecord_congr c (h₃.1.trans h₂.1) (h₃.2.trans h₂.2) hr
          have hcnt : subPortRefCnt c (setPortSvlan c sdk db₂ true portId.value) portId.value =
              (db.res c).sub portId.value :=
            congrFun (congrArg ResView.sub hon) portId.value
          refine .made portId.value logicPort nhId pl pn hgiven hl hn ?_ rfl rfl rfl rfl rfl rfl rfl
          rw [res_setSubPortRefCnt c hr₃, hon, hcnt]
        · next hne =>
          exact .undone _ hgiven (fun hok => hne (mappingErrorCtc_eq_success.mpr hok.2.2)) hundo
      · next hne =>
        exact .undone _ hgiven (fun hok => hne (mappingErrorCtc_eq_success.mpr hok.2.1)) hundo
    · next hne =>
      exact .undone _ hgiven (fun hok => hne (mappingErrorCtc_eq_success.mpr hok.1)) hundo
  · next he =>
    rw [he] at hrec
    exact .refused hrec

/-- What `_ctc_sai_bridge_port_destroy_sub_port` does to a sub-port of `h`. -/
def ResView.leave (v : ResView bc) (h : BitVec 32) (logicPort nhId : Nat) : ResView bc :=
  let v' := v.setSub h (v.sub h - 1)
  (if v.sub h - 1 = 0 then v'.switch false h else v').freeBoth logicPort nhId

theorem res_destroySubPort (hw : SwitchesWork sdk) (hmap : sdk.removeVlanMapping = .none)
    {bp : BridgePort} (hr : HasRecord c db (bp.gport.setWidth 32)) :
    (destroySubPort c sdk db bp).2.res c =
      (db.res c).leave (bp.gport.setWidth 32) bp.logicPort.toNat bp.nhId.toNat := by
  have hcnt : subPortRefCnt c db (bp.gport.setWidth 32) =
      (db.res c).sub (bp.gport.setWidth 32) := rfl
  simp only [destroySubPort, subPortRecord_of_hasRecord c sdk hr, hmap, CtcE.raw, res_freeSubPort,
    ResView.leave, hcnt]
  split
  · rw [res_setPortSvlan c sdk hw, res_setSubPortRefCnt c hr]
  · rw [res_setSubPortRefCnt c hr]

/-! ## Sub-interfaces -/

/-- A write to the number of sub-interfaces. -/
def ResView.setSubIf (v : ResView bc) (h : BitVec 32) (n : Nat) : ResView bc :=
  { v with
    subIf := Function.update v.subIf h n
    binding := if isLinkaggPort h then Function.update v.binding h (0 < n) else v.binding }

/-- The counter of sub-interfaces can count one more. -/
def ResView.SubIfRoom (v : ResView bc) (h : BitVec 32) : Prop :=
  v.subIf h + 1 < if isLinkaggPort h then 2 ^ 16 else 2 ^ 32

theorem res_writeSubIf_port (hl : ¬ isLinkaggPort h = true) {p : PortRefs}
    (hp : p = (db.ports (portOid c h)).getD ⟨0, 0⟩) (n : BitVec 32) :
    (setPortRefs c db h { p with subIfRefCnt := n }).res c = (db.res c).setSubIf h n.toNat := by
  have hsub : p.subPortRefCnt = (db.res c).sub h := by rw [hp, (sub_of_port c hl).1]
  rw [res_setPortRefs c db hl]
  simp only [hsub, Function.update_eq_self, ResView.setSubIf, hl, Bool.false_eq_true, if_false]

theorem res_writeSubIf_lag {db : BridgeDb bc} {h : BitVec 32} (hl : isLinkaggPort h = true)
    {l l' : BridgeLag} (hlook : db.lags.lookup (lagOid c h) = some l)
    (hm : l'.memberPorts = l.memberPorts) (hs : l'.subPortRefCnt = l.subPortRefCnt)
    (hb : l'.isBindingSubRif = decide (0 < l'.bindingSubRifCount.toNat)) :
    BridgeDb.res c { db with lags := db.lags.insert (lagOid c h) l' } =
      (db.res c).setSubIf h l'.bindingSubRifCount.toNat := by
  rw [res_insertLag c hl hlook hm, hs, ← (sub_of_lag c hl hlook).1, hb]
  simp only [Function.update_eq_self, ResView.setSubIf, hl, if_true]

/-- What a new sub-interface does: a port switches its hash on for the first one only. -/
theorem res_bindSubIf (hlag : isLinkaggPort h = true → ((db.res c).members h).isSome = true)
    (hroom : (db.res c).SubIfRoom h) :
    (bindSubIf c db h).res c = ((db.res c).setSubIf h ((db.res c).subIf h + 1)).switchHash true h ∨
      0 < (db.res c).subIf h ∧
        (bindSubIf c db h).res c = (db.res c).setSubIf h ((db.res c).subIf h + 1) := by
  simp only [ResView.SubIfRoom] at hroom
  simp only [bindSubIf]
  split
  · next hl =>
    rw [if_pos hl] at hroom
    have hsome : (db.lags.lookup (lagOid c h)).isSome = true :=
      Option.isSome_map.symm.trans (hlag hl)
    obtain ⟨l, hlook⟩ := Option.isSome_iff_exists.mp hsome
    obtain ⟨-, hif, -⟩ := sub_of_lag c hl hlook
    have hcnt : (l.bindingSubRifCount + 1).toNat = l.bindingSubRifCount.toNat + 1 := by
      exact Nat.mod_eq_of_lt (by rw [← hif]; exact hroom)
    have hw := @res_writeSubIf_lag bc c db h hl l { l with
      isBindingSubRif := true, bindingSubRifCount := l.bindingSubRifCount + 1 } hlook rfl rfl
      (by simp only [hcnt, Nat.succ_pos, decide_true])
    refine .inl ?_
    rw [hlook]
    simp only [res_writeSubIfHash, hw, hcnt, hif]
  · next hl =>
    rw [if_neg hl] at hroom
    have hif := (@sub_of_port bc c db h hl).2
    generalize hp : (db.ports (portOid c h)).getD ⟨0, 0⟩ = p at *
    have hcnt : (p.subIfRefCnt + 1).toNat = (db.res c).subIf h + 1 := by
      rw [hif]
      exact Nat.mod_eq_of_lt (by rw [← hif]; exact hroom)
    have hw := res_writeSubIf_port c hl hp.symm (p.subIfRefCnt + 1)
    rw [hcnt] at hw
    split
    · refine .inl ?_
      rw [res_writeSubIfHash, hw]
    next hne =>
    refine .inr ⟨?_, hw⟩
    refine Nat.pos_of_ne_zero fun hz => hne (BitVec.eq_of_toNat_eq ?_)
    rw [hcnt, hz]
    rfl

/-- What a removed sub-interface does: the last one switches the hash off. -/
theorem res_unbindSubIf (hlag : isLinkaggPort h = true → ((db.res c).members h).isSome = true)
    (hbind : isLinkaggPort h = true → (db.res c).binding h = true) (hpos : 0 < (db.res c).subIf h) :
    (unbindSubIf c db h).res c =
      if (db.res c).subIf h = 1 then ((db.res c).setSubIf h 0).switchHash false h
      else (db.res c).setSubIf h ((db.res c).subIf h - 1) := by
  simp only [unbindSubIf]
  split
  · next hl =>
    have hsome : (db.lags.lookup (lagOid c h)).isSome = true :=
      Option.isSome_map.symm.trans (hlag hl)
    obtain ⟨l, hlook⟩ := Option.isSome_iff_exists.mp hsome
    obtain ⟨-, hif, hb⟩ := sub_of_lag c hl hlook
    rw [hbind hl] at hb
    rw [hif] at hpos ⊢
    have hcnt : (l.bindingSubRifCount - 1).toNat = l.bindingSubRifCount.toNat - 1 := by
      rw [BitVec.toNat_sub_of_le (by rw [BitVec.le_def]; exact hpos)]
      rfl
    have hzero : l.bindingSubRifCount - 1 = 0 ↔ l.bindingSubRifCount.toNat = 1 := by
      rw [← BitVec.toNat_inj, hcnt]
      simp only [BitVec.ofNat_eq_ofNat, BitVec.toNat_zero]
      omega
    have hw := @res_writeSubIf_lag bc c db h hl l { l with
      isBindingSubRif := if l.bindingSubRifCount - 1 = 0 then false else l.isBindingSubRif
      bindingSubRifCount := l.bindingSubRifCount - 1 } hlook rfl rfl (by
        simp only [hzero, hcnt, ← hb]
        split
        · next hone => simp only [hone, Nat.sub_self, Nat.lt_irrefl, decide_false]
        · exact (decide_eq_true (by omega)).symm)
    rw [hlook]
    by_cases hone : l.bindingSubRifCount.toNat = 1
    · simp only [hzero, hone, if_true, Bool.false_eq_true, if_false] at hw ⊢
      rw [res_writeSubIfHash, hw, hcnt, hone]
    · simp only [hzero, hone, if_false, ← hb, if_true] at hw ⊢
      rw [hw, hcnt]
  · next hl =>
    have hif := (@sub_of_port bc c db h hl).2
    generalize hp : (db.ports (portOid c h)).getD ⟨0, 0⟩ = p at *
    rw [hif] at hpos
    have hcnt : (p.subIfRefCnt - 1).toNat = p.subIfRefCnt.toNat - 1 := by
      rw [BitVec.toNat_sub_of_le (by rw [BitVec.le_def]; exact hpos)]
      rfl
    have hzero : p.subIfRefCnt - 1 = 0 ↔ p.subIfRefCnt.toNat = 1 := by
      rw [← BitVec.toNat_inj, hcnt]
      simp only [BitVec.ofNat_eq_ofNat, BitVec.toNat_zero]
      omega
    have hw := res_writeSubIf_port c hl hp.symm (p.subIfRefCnt - 1)
    rw [hcnt] at hw
    simp only [hzero, hif]
    split
    · next hone => rw [res_writeSubIfHash, hw, hone]
    · exact hw

end Views

end CtcSai
