/-
# `BridgeFrames` — what the calls on bridge ports leave alone

Nearly all of a creation writes to registers, pools and counts.  The bridges, the
bridge ports and the lock are touched at its two ends only, so a creation stores
one record under an object id that was free, or none.
-/
import CtcSai.BridgePorts

namespace CtcSai

/-! ## What the calls leave alone -/

section Frames

variable {bc : BridgeChip}

/-- The bridges, their ports, the lock and the ids of bridges are as they were. -/
structure SameBridges (db db' : BridgeDb bc) : Prop where
  bridges : db'.bridges = db.bridges
  bridgePorts : db'.bridgePorts = db.bridgePorts
  held : db'.held = db.held
  fids : db'.fids = db.fids
  vpwsIds : db'.vpwsIds = db.vpwsIds

theorem SameBridges.refl (db : BridgeDb bc) : SameBridges db db := ⟨rfl, rfl, rfl, rfl, rfl⟩

variable {db db' : BridgeDb bc}

theorem SameBridges.trans {db db' db'' : BridgeDb bc} (h : SameBridges db db')
    (h' : SameBridges db' db'') : SameBridges db db'' :=
  ⟨h'.bridges.trans h.bridges, h'.bridgePorts.trans h.bridgePorts, h'.held.trans h.held,
    h'.fids.trans h.fids, h'.vpwsIds.trans h.vpwsIds⟩

variable (c : Lchip) (sdk : BridgeSdk)
variable {bp : BridgePort} {admin : Bool} {status : Status} {type : BridgePortType}

theorem writePort_same (db : BridgeDb bc) (g : BitVec 32) (f : BridgePortRegs → BridgePortRegs) :
    SameBridges db (db.writePort g f) :=
  ⟨rfl, rfl, rfl, rfl, rfl⟩

/-- A write to other registers than the two that sub-ports and sub-interfaces
share. -/
def KeepsSwitches (f : BridgePortRegs → BridgePortRegs) : Prop :=
  ∀ r, (f r).sclPortSvlan = r.sclPortSvlan ∧ (f r).reflective = r.reflective

/-- Registers of ports were written, and not those two. -/
structure OnlyRegs (db db' : BridgeDb bc) : Prop where
  rest : { db with registers := db'.registers } = db'
  switches : ∀ g, (db'.registers g).sclPortSvlan = (db.registers g).sclPortSvlan ∧
    (db'.registers g).reflective = (db.registers g).reflective

namespace OnlyRegs

variable {db db' db'' : BridgeDb bc}

theorem refl (db : BridgeDb bc) : OnlyRegs db db := ⟨rfl, fun _ => ⟨rfl, rfl⟩⟩

theorem trans (h : OnlyRegs db db') (h' : OnlyRegs db' db'') : OnlyRegs db db'' := by
  refine ⟨?_, fun g => ⟨(h'.switches g).1.trans (h.switches g).1,
    (h'.switches g).2.trans (h.switches g).2⟩⟩
  have hrest := h'.rest
  rw [← h.rest] at hrest
  exact hrest

theorem same (h : OnlyRegs db db') : SameBridges db db' := by
  rw [← h.rest]
  exact ⟨rfl, rfl, rfl, rfl, rfl⟩

theorem writePort (db : BridgeDb bc) (g : BitVec 32) {f : BridgePortRegs → BridgePortRegs}
    (hf : KeepsSwitches f) : OnlyRegs db (db.writePort g f) := by
  refine ⟨rfl, fun x => ?_⟩
  simp only [BridgeDb.writePort, Function.update_apply]
  split
  · next he => exact he ▸ hf _
  · exact ⟨rfl, rfl⟩

theorem writeEach (rc : BitVec 32 → Status) {f : BridgePortRegs → BridgePortRegs}
    (hf : KeepsSwitches f) (ports : List (BitVec 32)) (db : BridgeDb bc) :
    OnlyRegs db (CtcSai.writeEach rc f db ports).2 := by
  induction ports generalizing db with
  | nil => exact .refl db
  | cons g rest ih =>
    simp only [CtcSai.writeEach]
    split
    · exact (writePort db g hf).trans (ih _)
    · exact .refl db

theorem createFilter (db : BridgeDb bc) (egress : Bool) (en : Option Bool) (status : Status)
    (gport : BitVec 32) {f : Bool → BridgePortRegs → BridgePortRegs}
    (hf : ∀ b, KeepsSwitches (f b)) :
    OnlyRegs db (CtcSai.createFilter c sdk db egress en status gport f).2 := by
  simp only [CtcSai.createFilter]
  split
  · exact .refl db
  split
  · split
    · exact .refl db
    · split
      · exact .refl db
      · exact writeEach _ (hf _) _ _
  · exact writeEach _ (hf _) _ _

theorem createFilters (db : BridgeDb bc) (gport : BitVec 32) (attrs : List BridgePortAttr) :
    OnlyRegs db (CtcSai.createFilters c sdk db gport attrs).2 := by
  simp only [CtcSai.createFilters]
  have hin := createFilter c sdk db false (findAttribInList BridgePortAttr.ingressFiltering? attrs)
    (if (findAttribInList BridgePortAttr.egressFiltering? attrs).isSome then .success
      else .itemNotFound) gport (f := fun b r => { r with ingressFilter := b })
    (fun _ _ => ⟨rfl, rfl⟩)
  split
  · next he =>
    rw [he] at hin
    exact hin.trans (createFilter c sdk _ _ _ _ _ fun _ _ => ⟨rfl, rfl⟩)
  · next he =>
    rw [he] at hin
    exact hin

theorem setAdminPorts (admin : Bool) (ports : List (BitVec 32)) (db : BridgeDb bc) :
    OnlyRegs db (CtcSai.setAdminPorts sdk admin db ports).2 := by
  induction ports generalizing db with
  | nil => exact .refl db
  | cons g rest ih =>
    simp only [CtcSai.setAdminPorts]
    have htransmit := writePort db g (f := fun r => { r with transmitEn := admin })
      fun _ => ⟨rfl, rfl⟩
    split
    · split
      · refine (htransmit.trans ?_).trans (ih _)
        exact writePort _ g fun _ => ⟨rfl, rfl⟩
      · exact htransmit
    · exact .refl db

end OnlyRegs

theorem subPortRecord_same (db : BridgeDb bc) (gport : BitVec 32) :
    SameBridges db (subPortRecord c sdk db gport).2 := by
  simp only [subPortRecord]
  split
  · split <;> exact SameBridges.refl db
  split
  · exact SameBridges.refl db
  split
  · split
    · exact SameBridges.refl db
    · split
      · exact ⟨rfl, rfl, rfl, rfl, rfl⟩
      · exact SameBridges.refl db
  · exact SameBridges.refl db

theorem setSubPortRefCnt_same (db : BridgeDb bc) (gport cnt : BitVec 32) :
    SameBridges db (setSubPortRefCnt c db gport cnt) := by
  simp only [setSubPortRefCnt]
  split
  · split
    · exact ⟨rfl, rfl, rfl, rfl, rfl⟩
    · exact SameBridges.refl db
  · split
    · exact ⟨rfl, rfl, rfl, rfl, rfl⟩
    · exact SameBridges.refl db

theorem setPortSvlan_same (db : BridgeDb bc) (on : Bool) (gport : BitVec 32) :
    SameBridges db (setPortSvlan c sdk db on gport) := by
  simp only [setPortSvlan]
  generalize (portsOf c db (bc.pm.gport c) gport).getD [] = ports
  induction ports generalizing db with
  | nil => exact SameBridges.refl db
  | cons g rest ih =>
    rw [List.foldl_cons]
    refine SameBridges.trans ?_ (ih _)
    split <;> split
    · exact (writePort_same _ _ _).trans (writePort_same _ _ _)
    · exact writePort_same _ _ _
    · exact writePort_same _ _ _
    · exact SameBridges.refl db

theorem allocSubPort_error (h : allocSubPort db = .error db') : SameBridges db db' := by
  simp only [allocSubPort] at h
  split at h
  · cases h
    exact SameBridges.refl db
  split at h
  · cases h
    exact ⟨rfl, rfl, rfl, rfl, rfl⟩
  · cases h

theorem allocSubPort_ok {logicPort nhId : Nat} (h : allocSubPort db = .ok (logicPort, nhId, db')) :
    SameBridges db db' := by
  simp only [allocSubPort] at h
  split at h
  · cases h
  split at h
  · cases h
  · cases h
    exact ⟨rfl, rfl, rfl, rfl, rfl⟩

theorem freeSubPort_same (db : BridgeDb bc) (logicPort nhId : Nat) :
    SameBridges db (freeSubPort db logicPort nhId) :=
  ⟨rfl, rfl, rfl, rfl, rfl⟩

theorem destroySubPort_same (db : BridgeDb bc) (bp : BridgePort) :
    SameBridges db (destroySubPort c sdk db bp).2 := by
  simp only [destroySubPort]
  have hr := subPortRecord_same c sdk db (bp.gport.setWidth 32)
  split
  · next db' he =>
    rw [he] at hr
    split
    · refine hr.trans (SameBridges.trans ?_ (freeSubPort_same _ _ _))
      split
      · exact (setSubPortRefCnt_same c db' _ _).trans (setPortSvlan_same c sdk _ _ _)
      · exact setSubPortRefCnt_same c db' _ _
    · exact hr
  · next he =>
    rw [he] at hr
    exact hr

/-- What `_ctc_sai_bridge_port_set_admin_state` may do to a record. -/
def SameButAdmin (bp bp' : BridgePort) : Prop := bp' = { bp with adminState := bp'.adminState }

/-- What the call did to the registers and the record. -/
theorem setAdminState_frame {bp' : BridgePort}
    (h : setAdminState c sdk db bp admin = some (status, bp', db')) :
    OnlyRegs db db' ∧ SameButAdmin bp bp' := by
  have hkeep : ∀ {st : Status}, some (st, bp, db) = some (status, bp', db') →
      OnlyRegs db db' ∧ SameButAdmin bp bp' := by
    intro st he
    cases he
    exact ⟨.refl db, rfl⟩
  have hadmin : ∀ {r : Status × BridgeDb bc}, OnlyRegs db r.2 →
      some (adminDone bp admin r) = some (status, bp', db') →
      OnlyRegs db db' ∧ SameButAdmin bp bp' := by
    rintro ⟨st, d⟩ hr he
    simp only [adminDone] at he
    split at he
    · next heq =>
      cases he
      cases heq
      exact ⟨hr, rfl⟩
    next heq =>
    cases he
    cases heq
    exact ⟨hr, rfl⟩
  have hdone : ∀ {st : Status}, some (adminDone bp admin (st, db)) = some (status, bp', db') →
      OnlyRegs db db' ∧ SameButAdmin bp bp' := fun he => hadmin (.refl db) he
  simp only [setAdminState] at h
  split at h
  · exact hkeep h
  split at h
  · split at h
    · exact hkeep h
    · next ports _ => exact hadmin (.setAdminPorts sdk admin ports db) h
  · split at h
    · cases h
    · split at h
      · exact hdone h
      · exact hkeep h
  · exact hdone h
  · exact hdone h
  split at h
  · cases h
  split at h
  · split at h
    · split at h
      · cases h
      · split at h
        · exact hdone h
        · exact hkeep h
    · exact hkeep h
  · exact hdone h

theorem setAdminState_same {bp' : BridgePort}
    (h : setAdminState c sdk db bp admin = some (status, bp', db')) :
    SameBridges db db' ∧ SameButAdmin bp bp' :=
  (setAdminState_frame c sdk h).imp_left OnlyRegs.same

theorem destroyByType_same (db : BridgeDb bc) (type : BridgePortType) (bp : BridgePort) :
    SameBridges db (destroyByType c sdk db type bp) := by
  cases type with
  | subPort => exact destroySubPort_same c sdk db bp
  | tunnel => exact ⟨rfl, rfl, rfl, rfl, rfl⟩
  | port | router1Q | router1D => exact SameBridges.refl db

theorem createRollBack_same (h : createRollBack c sdk db type bp admin = some db') :
    SameBridges db db' := by
  simp only [createRollBack] at h
  split at h
  · obtain ⟨⟨status, bp', d⟩, hd, he⟩ := Option.map_eq_some_iff.mp h
    rw [← he]
    exact (setAdminState_same c sdk hd).1.trans (destroyByType_same c sdk _ _ _)
  · cases h
    exact destroyByType_same c sdk _ _ _

theorem bindLag_same {gport : BitVec 32} (h : bindLag c db type gport = some db') :
    SameBridges db db' := by
  simp only [bindLag] at h
  split at h
  · obtain ⟨l, -, he⟩ := Option.map_eq_some_iff.mp h
    rw [← he]
    exact ⟨rfl, rfl, rfl, rfl, rfl⟩
  · cases h
    exact SameBridges.refl db

/-! ## Creation of a bridge port -/

/-- The record of a new port says the type it was created with, unless it is the
one that a VLAN mapping kept from becoming a sub-port. -/
structure NewRecord (bp bp' : BridgePort) (type : BridgePortType) : Prop where
  bridgeId : bp'.bridgeId = bp.bridgeId
  bridgeType : bp'.bridgeType = bp.bridgeType
  portType : bp'.portType = type ∨
    type = .subPort ∧ sdk.hasVlanMapping = true ∧ bp'.portType = bp.portType

/-- What the case of a type did: an error is none of success, a record is new,
and `R` says what became of the database. -/
inductive Makes (R : BridgeDb bc → Prop) (bp : BridgePort) (type : BridgePortType) :
    Except Status BridgePort × BridgeDb bc → Prop
  | refused {status : Status} {db' : BridgeDb bc} : status ≠ .success → R db' →
      Makes R bp type (.error status, db')
  | made {bp' : BridgePort} {db' : BridgeDb bc} : NewRecord sdk bp bp' type → R db' →
      Makes R bp type (.ok bp', db')

theorem learnLimitAction_ne {attrs : List BridgePortAttr}
    (h : learnLimitAction attrs = .error status) : status ≠ .success := by
  simp only [learnLimitAction, packetActionToLimitAction] at h
  split at h
  · split at h
    · cases h
    · split at h
      · cases h
      · split at h
        · cases h
        · split at h <;> cases h <;> nofun
  · cases h

theorem createPortPort_makes (db : BridgeDb bc) (bp : BridgePort) (attrs : List BridgePortAttr) :
    Makes sdk (OnlyRegs db) bp .port (createPortPort c sdk db bp attrs) := by
  simp only [createPortPort]
  split
  · exact .refused nofun (.refl db)
  next portId _ =>
  split
  · exact .refused nofun (.refl db)
  split
  · exact .refused nofun (.refl db)
  have hf := OnlyRegs.createFilters c sdk db portId.value attrs
  split
  · next db' he =>
    rw [he] at hf
    split
    · next hact => exact .refused (learnLimitAction_ne hact) hf
    next action _ =>
    split
    · exact .refused nofun hf
    next ports _ =>
    have hw := OnlyRegs.writeEach (fun g => (sdk.learnLimit g).raw)
      (f := fun r => { r with learnLimit := (learnLimitNum attrs, action) })
      (fun _ => ⟨rfl, rfl⟩) ports db'
    split
    · next hew =>
      rw [hew] at hw
      exact .made ⟨rfl, rfl, .inl rfl⟩ (hf.trans hw)
    · next hne hew =>
      rw [hew] at hw
      exact .refused (fun he => hne he) (hf.trans hw)
  · next hne he =>
    rw [he] at hf
    exact .refused (fun he => hne he) hf

theorem createSubPort_makes (db : BridgeDb bc) (bp : BridgePort) (attrs : List BridgePortAttr) :
    Makes sdk (SameBridges db) bp .subPort (createSubPort c sdk db bp attrs) := by
  simp only [createSubPort]
  split
  · exact .refused nofun (.refl db)
  next portId _ =>
  have hr := subPortRecord_same c sdk db portId.value
  split
  · next db₁ he =>
    rw [he] at hr
    split
    · exact .refused nofun hr
    next vlanId _ =>
    split
    · exact .refused nofun hr
    split
    · exact .refused nofun hr
    split
    · next hal => exact .refused nofun (hr.trans (allocSubPort_error hal))
    next logicPort nhId db₂ hal =>
    have hon := (hr.trans (allocSubPort_ok hal)).trans
      (setPortSvlan_same c sdk db₂ true portId.value)
    have hundo := hon.trans (freeSubPort_same _ logicPort nhId)
    split
    · split
      · split
        · next hmap => exact .made ⟨rfl, rfl, .inr ⟨rfl, hmap, rfl⟩⟩ hundo
        · split
          · exact .made ⟨rfl, rfl, .inl rfl⟩ (hon.trans (setSubPortRefCnt_same c _ _ _))
          · next hne => exact .refused hne hundo
      · next hne => exact .refused hne hundo
    · next hne => exact .refused hne hundo
  · next hne he =>
    rw [he] at hr
    exact .refused (fun he => hne he) hr

theorem createTunnelPort_makes (db : BridgeDb bc) (bp : BridgePort) (attrs : List BridgePortAttr) :
    Makes sdk (SameBridges db) bp .tunnel (createTunnelPort db bp attrs, db) := by
  simp only [createTunnelPort]
  split
  · exact .refused nofun (.refl db)
  · split
    · exact .refused nofun (.refl db)
    · exact .made ⟨rfl, rfl, .inl rfl⟩ (.refl db)

/-- What the switch over the types did. -/
inductive MakesType (db : BridgeDb bc) (s : BitVec 32) (bp : BridgePort) :
    Except Status (BridgePortType × BridgePort × BitVec 32) × BridgeDb bc → Prop
  | refused {status : Status} {db' : BridgeDb bc} : status ≠ .success → SameBridges db db' →
      MakesType db s bp (.error status, db')
  | made {type : BridgePortType} {bp' : BridgePort} {value : BitVec 32} {db' : BridgeDb bc} :
      bridgePortTypeOf s = some type → NewRecord sdk bp bp' type → SameBridges db db' →
      MakesType db s bp (.ok (type, bp', value), db')

theorem createByType_makes (db : BridgeDb bc) (s : BitVec 32) (bp : BridgePort)
    (attrs : List BridgePortAttr) : MakesType sdk db s bp (createByType c sdk db s bp attrs) := by
  simp only [createByType]
  split
  · next hs =>
    have h := createPortPort_makes c sdk db bp attrs
    split
    · next he =>
      rw [he] at h
      cases h with | made hrec hr => exact .made hs hrec hr.same
    · next he =>
      rw [he] at h
      cases h with | refused hne hr => exact .refused hne hr.same
  · next hs =>
    have h := createSubPort_makes c sdk db bp attrs
    split
    · next he =>
      rw [he] at h
      cases h with | made hrec hr => exact .made hs hrec hr
    · next he =>
      rw [he] at h
      cases h with | refused hne hr => exact .refused hne hr
  · exact .refused nofun (.refl db)
  · next hs =>
    split
    · exact .refused nofun (.refl db)
    · exact .made hs ⟨rfl, rfl, .inl rfl⟩ (.refl db)
  · next hs =>
    have h := createTunnelPort_makes sdk db bp attrs
    split
    · next he =>
      rw [he] at h
      cases h with | made hrec hr => exact .made hs hrec hr
    · next he =>
      rw [he] at h
      cases h with | refused hne hr => exact .refused hne hr
  · exact .refused nofun (.refl db)

/-- A call that stored no bridge port: the lock is as it was before the call,
which `held` says. -/
structure NotCreated (db : BridgeDb bc) (r : Status × Option Oid × BridgeDb bc) (held : Int) :
    Prop where
  status : r.1 ≠ .success
  bridges : r.2.2.bridges = db.bridges
  bridgePorts : r.2.2.bridgePorts = db.bridgePorts
  held : r.2.2.held = held

/-- A call that stored one. -/
structure Created (db : BridgeDb bc) (bp : BridgePort) (type : BridgePortType) (value : BitVec 32)
    (r : Status × Option Oid × BridgeDb bc) (held : Int) : Prop where
  status : r.1 = .success
  oid : r.2.1 = some (bridgePortIdOf c type value)
  fresh : db.bridgePorts.lookup (bridgePortIdOf c type value) = none
  bridges : r.2.2.bridges = db.bridges
  bridgePorts : ∃ bp', SameButAdmin bp bp' ∧
    r.2.2.bridgePorts = db.bridgePorts.insert (bridgePortIdOf c type value) bp'
  held : r.2.2.held = held

theorem NotCreated.of_unlock {db db' : BridgeDb bc} (hs : SameBridges db db') {status : Status}
    (hne : status ≠ .success) (oid : Option Oid) :
    NotCreated db (status, oid, db'.unlock) (db.held - 1) :=
  ⟨hne, hs.bridges, hs.bridgePorts, congrArg (· - 1) hs.held⟩

theorem createFinish_cases {db : BridgeDb bc} {type : BridgePortType} {bp : BridgePort}
    {value : BitVec 32} {attrs : List BridgePortAttr} {r : Status × Option Oid × BridgeDb bc}
    (h : createFinish c sdk db type bp value attrs = some r) :
    NotCreated db r (db.held - 1) ∨ Created c db bp type value r (db.held - 1) := by
  simp only [createFinish] at h
  split at h
  · cases h
    exact .inl (.of_unlock (SameBridges.refl db) (by nofun) none)
  split at h
  · cases h
  · next bp₁ db₁ hadm =>
    obtain ⟨hs, hbp⟩ := setAdminState_same c sdk hadm
    have hback : ∀ {status : Status}, status ≠ .success →
        ((createRollBack c sdk db₁ type bp₁
            ((findAttribInList BridgePortAttr.adminState? attrs).getD false)).map fun db =>
          (status, some (bridgePortIdOf c type value), db.unlock)) = some r →
        NotCreated db r (db.held - 1) := by
      intro status hne he
      obtain ⟨db₂, h₂, hr⟩ := Option.map_eq_some_iff.mp he
      rw [← hr]
      exact .of_unlock (hs.trans (createRollBack_same c sdk h₂)) hne _
    split at h
    · exact .inl (hback (by nofun) h)
    next hfresh =>
    split at h
    · exact .inl (hback (by nofun) h)
    split at h
    · exact .inl (hback (by nofun) h)
    next db₂ hlag =>
    have hb := bindLag_same c hlag
    cases h
    rw [Option.not_isSome_iff_eq_none, hs.bridgePorts] at hfresh
    refine .inr ⟨rfl, rfl, hfresh, hb.bridges.trans hs.bridges, ⟨bp₁, hbp, ?_⟩, ?_⟩
    · show db₂.bridgePorts = _
      rw [hb.bridgePorts, ← hs.bridgePorts]
    · show db₂.held - 1 = _
      rw [hb.held, ← hs.held]
  · next status bp₁ db₁ hne hadm =>
    cases h
    exact .inl (.of_unlock ((setAdminState_same c sdk hadm).1.trans
      (destroyByType_same c sdk _ _ _)) hne none)

end Frames

/-! ## The bridge of a new port -/

/-- The bridge that an attribute list asks for: that of BRIDGE_ID, or the default
one. -/
def bridgeGiven (bc : BridgeChip) (c : Lchip) (attrs : List BridgePortAttr) : Option Oid :=
  match findAttribInList BridgePortAttr.bridgeId? attrs with
  | some oid => some oid
  | none => bc.defaultBridgeId.map (bridgeOid c bridgeType1Q)

/-- The type that an attribute list asks for. -/
def bridgePortTypeGiven (attrs : List BridgePortAttr) : Option BridgePortType :=
  (findAttribInList BridgePortAttr.type? attrs).bind bridgePortTypeOf

/-- What a creation stores: the number of the bridge it was given. -/
structure CreatedIn {bc : BridgeChip} (c : Lchip) (sdk : BridgeSdk) (db : BridgeDb bc)
    (attrs : List BridgePortAttr) (r : Status × Option Oid × BridgeDb bc) (b : Oid)
    (type : BridgePortType) (bp : BridgePort) (value : BitVec 32) : Prop where
  bridge : bridgeGiven bc c attrs = some b
  given : bridgePortTypeGiven attrs = some type
  created : Created c db bp type value r db.held
  bridgeId : bp.bridgeId = b.value.setWidth 16
  portType : bp.portType = type ∨
    type = .subPort ∧ sdk.hasVlanMapping = true ∧ bp.portType = .port

theorem createBridgePort_cases {bc : BridgeChip} {c : Lchip} {sdk : BridgeSdk} {db : BridgeDb bc}
    {attrs : List BridgePortAttr} {r : Status × Option Oid × BridgeDb bc}
    (h : createBridgePort c sdk db attrs = some r) :
    NotCreated db r db.held ∨
      ∃ b type bp value, CreatedIn c sdk db attrs r b type bp value := by
  have hlock : db.lock.held - 1 = db.held := Int.add_sub_cancel db.held 1
  have hno : ∀ {status : Status} {db' : BridgeDb bc}, status ≠ .success →
      SameBridges db.lock db' → NotCreated db (status, none, db'.unlock) db.held := by
    intro status db' hne hs
    exact ⟨hne, hs.bridges, hs.bridgePorts, (congrArg (· - 1) hs.held).trans hlock⟩
  simp only [createBridgePort] at h
  split at h
  · cases h
    exact .inl (hno (by nofun) (SameBridges.refl _))
  next s hs =>
  split at h
  · cases h
    exact .inl (hno (by nofun) (SameBridges.refl _))
  next bridgeId bridgeType hb =>
  split at h
  · cases h
  have hmakes := createByType_makes c sdk db.lock s { BridgePort.zero with
    bridgeId := bridgeId.setWidth 16, bridgeType := bridgeType } attrs
  split at h
  · next he =>
    rw [he] at hmakes
    cases h
    cases hmakes with | refused hne hsame => exact .inl (hno hne hsame)
  next type bp value db₁ he =>
  rw [he] at hmakes
  obtain ⟨ht, hrec, hsame⟩ : bridgePortTypeOf s = some type ∧
      NewRecord sdk _ bp type ∧ SameBridges db.lock db₁ := by
    cases hmakes with | made ht hrec hsame => exact ⟨ht, hrec, hsame⟩
  have hheld : db₁.held - 1 = db.held := by rw [hsame.held, hlock]
  rcases createFinish_cases c sdk h with hn | hc
  · exact .inl ⟨hn.status, hn.bridges.trans hsame.bridges,
      hn.bridgePorts.trans hsame.bridgePorts, hn.held.trans hheld⟩
  have hgiven : ∃ b, bridgeGiven bc c attrs = some b ∧
      bridgeId.setWidth 16 = b.value.setWidth 16 := by
    split at hb
    · next oid hoid =>
      cases hb
      exact ⟨oid, by rw [bridgeGiven, hoid], rfl⟩
    next hoid =>
    obtain ⟨id, hid, hpair⟩ := Option.map_eq_some_iff.mp hb
    cases hpair
    exact ⟨bridgeOid c bridgeType1Q bridgeId, by rw [bridgeGiven, hoid, hid]; rfl, rfl⟩
  obtain ⟨b, hbg, hval⟩ := hgiven
  obtain ⟨bp', hbp', hins⟩ := hc.bridgePorts
  refine .inr ⟨b, type, bp, value, hbg, ?_, ?_, ?_, ?_⟩
  · rw [bridgePortTypeGiven, hs]
    exact ht
  · exact ⟨hc.status, hc.oid, hsame.bridgePorts ▸ hc.fresh, hc.bridges.trans hsame.bridges,
      ⟨bp', hbp', hins.trans (by rw [hsame.bridgePorts]; rfl)⟩,
      hc.held.trans hheld⟩
  · rw [hrec.bridgeId]
    exact hval
  · exact hrec.portType

end CtcSai
