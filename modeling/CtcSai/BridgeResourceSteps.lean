/-
# `BridgeResourceSteps` — each call on the ids and the switches

A creation is looked at where the case of its type is done: it is refused early,
rolled back, or stored.  A sub-port that is rolled back gives both ids back, and
its port ends as the count before it wants.
-/
import CtcSai.BridgeOwners

namespace CtcSai

open KeyedTable IdPool Ownership SharedSwitch

section Steps

variable {bc : BridgeChip} {c : Lchip} {foreign : Finset Nat} {db db' : BridgeDb bc}
variable {pl : Pool bc.logicPorts} {sdk : BridgeSdk} {attrs : List BridgePortAttr} {g : BitVec 32}
  {type : BridgePortType} {bp bp' : BridgePort} {r : Status × Option Oid × BridgeDb bc}
  {status : Status}

/-! ## Tunnels -/

/-- Only the logic ports and the tunnels change. -/
theorem ResInv.changeTunnels (h : ResInv c foreign db) {tunnels : Table Oid BridgeTunnel}
    (hlogic : OwnsAll ∅ (logicOwns db.bridgePorts tunnels) pl.used) (hstray : pl.stray = [])
    (hv : db'.res c = { db.res c with logicPorts := pl, tunnels := tunnels })
    (hb : db'.bridgePorts = db.bridgePorts) : ResInv c foreign db' := by
  exact h.change hv hb hlogic hstray h.scl h.reflective h.binding

theorem ResInv.addTunnel (h : ResInv c foreign db) {o : Oid} {t : BridgeTunnel}
    (hfresh : db.tunnels.lookup o = none) (hused : pl.used = db.logicPorts.used ∪ t.logicIds)
    (hfree : ∀ i ∈ t.logicIds, i ∉ db.logicPorts.used) (hstray : pl.stray = [])
    (hv : db'.res c = { db.res c with logicPorts := pl, tunnels := db.tunnels.insert o t })
    (hb : db'.bridgePorts = db.bridgePorts) : ResInv c foreign db' := by
  have hnone : logicOwns db.bridgePorts db.tunnels (.inr o) = ∅ := by
    simp only [logicOwns, hfresh, Option.map_none, Option.getD_none]
  refine h.changeTunnels ?_ hstray hv hb
  rw [logicOwns_insertTunnel, hused]
  exact h.logic.take hnone hfree

theorem ResInv.eraseTunnel (h : ResInv c foreign db) {o : Oid} {t : BridgeTunnel}
    (hlook : db.tunnels.lookup o = some t) (hno : t.tunnelType.hasLogicPort = false)
    (hv : db'.res c = { db.res c with tunnels := db.tunnels.erase o })
    (hb : db'.bridgePorts = db.bridgePorts) : ResInv c foreign db' := by
  have hnone : logicOwns db.bridgePorts db.tunnels (.inr o) = ∅ := by
    simp only [logicOwns, hlook, Option.map_some, Option.getD_some, BridgeTunnel.logicIds, hno,
      Bool.false_eq_true, if_false]
  refine h.changeTunnels ?_ h.strayLogic hv hb
  rw [logicOwns_eraseTunnel, Function.update_eq_self_iff.mpr hnone.symm]
  exact h.logic

theorem allocTunnelPort_taken {t : TunnelType} {logicPort : BitVec 16}
    (h : allocTunnelPort db t = some (logicPort, db')) :
    db'.bridgePorts = db.bridgePorts ∧ db'.tunnels = db.tunnels ∧
      freeTunnelPort db' t logicPort = db ∧
      ∃ pl, db'.res c = { db.res c with logicPorts := pl } ∧
        (t.hasLogicPort = false → pl = db.logicPorts) ∧
        (t.hasLogicPort = true → pl.stray = db.logicPorts.stray ∧
          logicPort.toNat ∉ db.logicPorts.used ∧
          pl.used = db.logicPorts.used ∪ {logicPort.toNat}) := by
  simp only [allocTunnelPort] at h
  simp only [freeTunnelPort]
  split at h
  · next hlp =>
    obtain ⟨⟨i, pl⟩, hal, he⟩ := Option.map_eq_some_iff.mp h
    obtain ⟨hfree, -, htop, hused, hstray⟩ := Pool.alloc_some hal
    have hi : (BitVec.ofNat 16 i).toNat = i := by
      have := bc.logicPorts_top
      rw [BitVec.toNat_ofNat]
      exact Nat.mod_eq_of_lt (by omega)
    have hback : pl.free i = db.logicPorts := Pool.free_of_alloc hal
    cases he
    rw [if_pos hlp]
    refine ⟨rfl, rfl, ?_, pl, rfl, fun hno => ?_, fun _ => ?_⟩
    · show { db with logicPorts := pl.free (BitVec.ofNat 16 i).toNat } = db
      rw [hi, hback]
    · rw [hlp] at hno
      cases hno
    · rw [hi, hused, Finset.insert_eq, Finset.union_comm]
      exact ⟨hstray, hfree, rfl⟩
  · next hlp =>
    cases h
    rw [if_neg hlp]
    exact ⟨rfl, rfl, rfl, db.logicPorts, rfl, fun _ => rfl, fun hyes => absurd hyes hlp⟩

/-- A tunnel is created where no check returns with the logic port taken. -/
theorem ResInv.createTunnel (h : ResInv c foreign db) {sdk : TunnelSdk} {attrs : List TunnelAttr}
    (hstop : ∀ t status, findAttribInList TunnelAttr.type? attrs = some (some t) →
      t.hasLogicPort = true → tunnelStop sdk attrs t ≠ some (.atOnce status)) :
    ResInv c foreign (CtcSai.createTunnel c sdk db attrs).2.2 := by
  simp only [CtcSai.createTunnel]
  split
  · exact h
  · exact h
  next t ht =>
  split
  · exact h
  split
  · exact h
  next logicPort db₁ hal =>
  obtain ⟨hb, htun, hback, pl, hv, hno, hyes⟩ := allocTunnelPort_taken (c := c) hal
  split
  · next status hst =>
    have hlp : t.hasLogicPort = false := by
      cases hlp : t.hasLogicPort with
      | false => rfl
      | true => exact absurd hst (hstop t status ht hlp)
    refine h.keep ?_ hb
    rw [hv, hno hlp]
    rfl
  · rw [hback]
    exact h
  have hundo : ∀ {d : BridgeDb bc}, d.res c = db₁.res c →
      d.bridgePorts = db₁.bridgePorts → ResInv c foreign (freeTunnelPort d t logicPort) := by
    intro d hd hdb
    have hres : (freeTunnelPort d t logicPort).res c = db.res c := by
      have hd' : d.logicPorts = db₁.logicPorts := congrArg ResView.logicPorts hd
      have hpools : (freeTunnelPort d t logicPort).res c = { d.res c with
            logicPorts := (freeTunnelPort db₁ t logicPort).logicPorts } := by
        simp only [freeTunnelPort]
        split
        · rw [← hd']
          rfl
        · rw [← hd']
          rfl
      rw [hpools, hback, hd, hv]
      rfl
    refine h.keep hres ?_
    simp only [freeTunnelPort]
    split
    · exact hdb.trans hb
    · exact hdb.trans hb
  split
  · exact hundo rfl rfl
  next id commonIds _ =>
  split
  · exact hundo rfl rfl
  next hfresh =>
  split
  · exact hundo rfl rfl
  have hnone := Option.not_isSome_iff_eq_none.mp hfresh
  have hids : ∀ {x : BridgeTunnel}, x.tunnelType = t → x.logicPort = logicPort →
      pl.used = db.logicPorts.used ∪ x.logicIds ∧
      (∀ i ∈ x.logicIds, i ∉ db.logicPorts.used) ∧ pl.stray = [] := by
    intro x hx hxl
    simp only [BridgeTunnel.logicIds, hx, hxl]
    split
    · next hlp =>
      obtain ⟨hstray, hfree, hused⟩ := hyes hlp
      refine ⟨hused, fun i hi => ?_, hstray.trans h.strayLogic⟩
      rw [Finset.mem_singleton.mp hi]
      exact hfree
    next hlp =>
    rw [hno (Bool.eq_false_iff.mpr hlp)]
    exact ⟨(Finset.union_empty _).symm, fun i hi => absurd hi (Finset.notMem_empty i), h.strayLogic⟩
  have hx : ∃ x : BridgeTunnel, x = ⟨BitVec.ofNat 32 id, t, Oid.null, logicPort⟩ := ⟨_, rfl⟩
  obtain ⟨x, hx⟩ := hx
  obtain ⟨hused, hfree, hstray⟩ :=
    hids (congrArg BridgeTunnel.tunnelType hx) (congrArg BridgeTunnel.logicPort hx)
  rw [← hx]
  refine h.addTunnel (htun ▸ hnone) hused hfree hstray ?_ hb
  have hset : ∀ {v w : ResView bc} (u : Table Oid BridgeTunnel), v = w →
      ({ v with tunnels := u } : ResView bc) = { w with tunnels := u } :=
    fun u he => by rw [he]
  refine (hset _ hv).trans ?_
  show ({ db.res c with logicPorts := pl, tunnels := _ } : ResView bc) = _
  rw [← htun]
  rfl

theorem ResInv.removeTunnel (h : ResInv c foreign db) {oid : Oid}
    (hno : ∀ t, db.tunnels.lookup oid = some t → t.tunnelType.hasLogicPort = false) :
    ResInv c foreign (CtcSai.removeTunnel c db oid).2 := by
  have hlock : ∀ {d : BridgeDb bc}, d = (if c = 0 then db.lock else db) →
      d.res c = db.res c ∧ d.bridgePorts = db.bridgePorts ∧ d.tunnels = db.tunnels := by
    rintro d rfl
    split <;> exact ⟨rfl, rfl, rfl⟩
  simp only [CtcSai.removeTunnel]
  obtain ⟨hv, hb, ht⟩ := hlock rfl
  generalize (if c = 0 then db.lock else db) = d at hv hb ht ⊢
  split
  · exact h.keep hv hb
  next t hlook =>
  rw [ht] at hlook
  refine h.eraseTunnel hlook (hno t hlook) ?_ hb
  show { d.res c with tunnels := d.tunnels.erase oid } = _
  rw [hv, ht]

/-! ## Sub-interfaces -/

theorem users_setSubIf (v : ResView bc) (h : BitVec 32) (n : Nat) :
    (v.setSubIf h n).users = Function.update v.users h ((v.sub h).toNat + n) := by
  funext x
  simp only [ResView.users, ResView.setSubIf, Function.update_apply]
  split
  · next he => rw [he]
  · rfl

/-- The number of sub-interfaces of a port changes, and its hash follows. -/
theorem ResInv.setSubIf (h : ResInv c foreign db) {n : Nat} {scl : BitVec 32 → Bool}
    (hv : db'.res c = { (db.res c).setSubIf g n with scl := scl }) (hscl : Agrees (db.res c).Uses
      (Function.update (db.res c).users g (((db.res c).sub g).toNat + n)) scl)
    (hb : db'.bridgePorts = db.bridgePorts) : ResInv c foreign db' := by
  rw [← users_setSubIf] at hscl
  refine h.change hv hb h.logic h.strayLogic hscl h.reflective ?_
  intro x hx hpos
  have hold := h.binding x hx
  simp only [ResView.setSubIf, Function.update_apply] at hpos ⊢
  split at hpos
  · next he =>
    subst he
    rw [if_pos hx]
    exact (Function.update_self _ _ _).trans (decide_eq_true hpos)
  next he =>
  split
  · rw [Function.update_of_ne he]
    exact hold hpos
  · exact hold hpos

theorem writeSubIfHash_bridgePorts (on : Bool) (g : BitVec 32) (db : BridgeDb bc) :
    (writeSubIfHash c db on g).bridgePorts = db.bridgePorts := by
  simp only [writeSubIfHash]
  generalize (portsOf c db (bc.pm.gport c) g).getD [] = ports
  induction ports generalizing db with
  | nil => rfl
  | cons a rest ih =>
    rw [List.foldl_cons, ih]
    rfl

theorem bindSubIf_bridgePorts (db : BridgeDb bc) (g : BitVec 32) :
    (bindSubIf c db g).bridgePorts = db.bridgePorts := by
  simp only [bindSubIf]
  split
  · split
    · exact writeSubIfHash_bridgePorts true g _
    · rfl
  · split
    · exact writeSubIfHash_bridgePorts true g _
    · rfl

theorem unbindSubIf_bridgePorts (db : BridgeDb bc) (g : BitVec 32) :
    (unbindSubIf c db g).bridgePorts = db.bridgePorts := by
  simp only [unbindSubIf]
  split
  · split
    · rw [apply_ite BridgeDb.bridgePorts, writeSubIfHash_bridgePorts, ite_self]
    · rfl
  · split
    · exact writeSubIfHash_bridgePorts false g _
    · rfl

theorem ResView.Holder.members {v : ResView bc} (hg : v.Holder g) :
    isLinkaggPort g = true → (v.members g).isSome = true := by
  intro hl
  simp only [ResView.Holder] at hg
  rw [if_pos hl] at hg
  exact hg

theorem ResInv.bindSubIf (h : ResInv c foreign db) (hg : (db.res c).Holder g)
    (hroom : (db.res c).SubIfRoom g) : ResInv c foreign (CtcSai.bindSubIf c db g) := by
  have hb := bindSubIf_bridgePorts (c := c) db g
  rcases res_bindSubIf c hg.members hroom with hv | ⟨hpos, hv⟩
  · refine h.setSubIf hv ?_ hb
    refine agrees_switch h.apart h.scl hg ⟨fun _ => ?_, fun _ => rfl⟩
    omega
  refine h.setSubIf hv ?_ hb
  refine h.scl.keep ?_
  simp only [ResView.users]
  omega

theorem ResInv.unbindSubIf (h : ResInv c foreign db) (hg : (db.res c).Holder g)
    (hpos : 0 < (db.res c).subIf g) (hlast : (db.res c).subIf g = 1 → (db.res c).sub g = 0) :
    ResInv c foreign (CtcSai.unbindSubIf c db g) := by
  have hb := unbindSubIf_bridgePorts (c := c) db g
  have hv := res_unbindSubIf c hg.members (fun hl => h.binding g hl hpos) hpos
  split at hv
  · next hone =>
    refine h.setSubIf hv ?_ hb
    rw [hlast hone]
    exact agrees_switch h.apart h.scl hg (by decide)
  refine h.setSubIf hv ?_ hb
  refine h.scl.keep ?_
  simp only [ResView.users]
  omega

/-! ## Bridge ports -/

theorem res_destroyByType_other (hs : type ≠ .subPort) (ht : type ≠ .tunnel) :
    destroyByType c sdk db type bp = db := by
  cases type with
  | subPort => exact absurd rfl hs
  | tunnel => exact absurd rfl ht
  | port | router1Q | router1D => rfl

inductive BackWhy (c : Lchip) (sdk : BridgeSdk) (db : BridgeDb bc) (type : BridgePortType)
    (bp : BridgePort) (value : BitVec 32) (attrs : List BridgePortAttr) : Prop where
  | admin {status : Status} {bp' : BridgePort} {db' : BridgeDb bc} :
      setAdminState c sdk db bp ((findAttribInList BridgePortAttr.adminState? attrs).getD false) =
        some (status, bp', db') → status ≠ .success → BackWhy c sdk db type bp value attrs
  | live : (db.bridgePorts.lookup (bridgePortIdOf c type value)).isSome = true →
      BackWhy c sdk db type bp value attrs
  | memory : sdk.memProperty = false → BackWhy c sdk db type bp value attrs
  | lag : isLinkaggPort (bp.gport.setWidth 32) = true →
      (db.res c).members (bp.gport.setWidth 32) = none → BackWhy c sdk db type bp value attrs

/-- What a creation does after the case of its type. -/
inductive Finished (c : Lchip) (sdk : BridgeSdk) (db : BridgeDb bc) (type : BridgePortType)
    (bp : BridgePort) (value : BitVec 32) (attrs : List BridgePortAttr) (db' : BridgeDb bc) :
    Prop where
  | early : (findAttribInList BridgePortAttr.fdbLearningMode? attrs).isSome = true →
      db'.res c = db.res c → db'.bridgePorts = db.bridgePorts →
      Finished c sdk db type bp value attrs db'
  | back {bp' : BridgePort} {d : BridgeDb bc} :
      findAttribInList BridgePortAttr.fdbLearningMode? attrs = none →
      BackWhy c sdk db type bp value attrs → SameButAdmin bp bp' → d.res c = db.res c →
      db'.res c = (destroyByType c sdk d type bp').res c → db'.bridgePorts = db.bridgePorts →
      Finished c sdk db type bp value attrs db'
  | stored {bp' : BridgePort} : SameButAdmin bp bp' → db'.res c = db.res c →
      db.bridgePorts.lookup (bridgePortIdOf c type value) = none →
      db'.bridgePorts = db.bridgePorts.insert (bridgePortIdOf c type value) bp' →
      Finished c sdk db type bp value attrs db'

theorem SameButAdmin.trans {bp'' : BridgePort} (h : SameButAdmin bp bp')
    (h' : SameButAdmin bp' bp'') : SameButAdmin bp bp'' := by
  simp only [SameButAdmin] at h h' ⊢
  rw [h', h]

theorem SameButAdmin.gport (h : SameButAdmin bp bp') : bp'.gport = bp.gport := by
  simp only [SameButAdmin] at h
  rw [h]

theorem createFinish_finished {value : BitVec 32}
    (h : createFinish c sdk db type bp value attrs = some r) :
    Finished c sdk db type bp value attrs r.2.2 := by
  simp only [createFinish] at h
  split at h
  · next hfdb =>
    cases h
    exact .early hfdb rfl rfl
  next hfdb =>
  have hfdb' := Option.not_isSome_iff_eq_none.mp hfdb
  split at h
  · cases h
  · next bp₁ db₁ hadm =>
    obtain ⟨hs, hbp⟩ := setAdminState_same c sdk hadm
    have hres : db₁.res c = db.res c := (setAdminState_frame c sdk hadm).1.res
    have hback : ∀ {status : Status}, BackWhy c sdk db type bp value attrs →
        ((createRollBack c sdk db₁ type bp₁
            ((findAttribInList BridgePortAttr.adminState? attrs).getD false)).map fun db =>
          (status, some (bridgePortIdOf c type value), db.unlock)) = some r →
        Finished c sdk db type bp value attrs r.2.2 := by
      intro status hwhy he
      obtain ⟨db₂, h₂, hr⟩ := Option.map_eq_some_iff.mp he
      have hports := hs.trans (createRollBack_same c sdk h₂)
      rw [← hr]
      simp only [createRollBack] at h₂
      split at h₂
      · obtain ⟨⟨st, bp₃, d⟩, hd, he₃⟩ := Option.map_eq_some_iff.mp h₂
        obtain ⟨-, hbp₃⟩ := setAdminState_same c sdk hd
        have hbp' : SameButAdmin bp bp₃ := hbp.trans hbp₃
        refine .back hfdb' hwhy hbp' ((setAdminState_frame c sdk hd).1.res.trans hres) ?_
          hports.bridgePorts
        rw [← he₃]
        rfl
      · cases h₂
        exact .back hfdb' hwhy hbp hres rfl hports.bridgePorts
    split at h
    · next hlive =>
      rw [hs.bridgePorts] at hlive
      exact hback (.live hlive) h
    next hfresh =>
    rw [Option.not_isSome_iff_eq_none, hs.bridgePorts] at hfresh
    split at h
    · next hmem => exact hback (.memory (by simpa using hmem)) h
    split at h
    · next hlag =>
      refine hback ?_ h
      simp only [bindLag, hbp.gport] at hlag
      split at hlag
      · next hl =>
        refine .lag hl ?_
        have hnone := Option.map_eq_none_iff.mp hlag
        rw [hbp.gport] at hnone
        rw [← hres]
        show (db₁.lags.lookup _).map _ = none
        rw [hnone, Option.map_none]
      · cases hlag
    next db₂ hlag =>
    have hb := bindLag_same c hlag
    have hres₂ := res_bindLag c hlag
    cases h
    refine .stored hbp (hres₂.trans hres) hfresh ?_
    show db₂.bridgePorts = _
    rw [hb.bridgePorts, ← hs.bridgePorts]
  · next hne hadm =>
    obtain ⟨hs, hbp⟩ := setAdminState_same c sdk hadm
    cases h
    refine .back hfdb' (.admin hadm hne) hbp (setAdminState_frame c sdk hadm).1.res rfl ?_
    exact (hs.trans (destroyByType_same c sdk _ _ _)).bridgePorts

/-- The ids of a sub-port that was just made go back, and its port is switched
as the count before it wants. -/
theorem leave_made {v : ResView bc} {l n : Nat} {pl : Pool bc.logicPorts} {pn : Pool bc.nexthops}
    (hl : v.logicPorts.alloc = some (l, pl)) (hn : v.nexthops.alloc = some (n, pn))
    (g : BitVec 32) :
    (((v.takeBoth pl pn).switch true g).setSub g (v.sub g + 1)).leave g l n =
      v.switch (v.sub g ≠ 0) g := by
  have hlp : pl.free l = v.logicPorts := Pool.free_of_alloc hl
  have hnh : pn.free n = v.nexthops := Pool.free_of_alloc hn
  have hsub : (((v.takeBoth pl pn).switch true g).setSub g (v.sub g + 1)).sub g - 1 = v.sub g := by
    simp only [ResView.setSub, Function.update_self]
    exact BitVec.add_sub_cancel _ _
  have hback : Function.update (Function.update v.sub g (v.sub g + 1)) g (v.sub g) = v.sub := by
    rw [Function.update_idem, Function.update_eq_self]
  simp only [ResView.leave, hsub]
  split
  · next hz =>
    rw [decide_eq_false (not_not.mpr hz)]
    simp only [ResView.freeBoth, ResView.setSub, ResView.switch, ResView.takeBoth, hback, hlp,
      hnh, ResView.mk.injEq, true_and]
    have hlast : ∀ (p : Prop) [Decidable p] (b : Bool),
        (if p then false else if p then true else b) = if p then false else b := by
      intro p _ b
      split <;> rfl
    exact ⟨funext fun x => hlast _ _, funext fun x => hlast _ _⟩
  next hz =>
  rw [decide_eq_true hz]
  simp only [ResView.freeBoth, ResView.setSub, ResView.switch, ResView.takeBoth, hback, hlp, hnh]
  rfl

/-- The SDK and the memory give a new bridge port what it asks for last. -/
def GoesUp (sdk : BridgeSdk) (attrs : List BridgePortAttr) : Prop :=
  sdk.memProperty = true ∧
    (findAttribInList BridgePortAttr.adminState? attrs = some true →
      sdk.updateVlanMapping = .none ∧ sdk.mplsGetIlm = .none ∧ sdk.mplsUpdateIlm = .none ∧
      sdk.setNhid = .none ∧ sdk.addPortToDefaultEntry = .none)

/-- The creations of sub-ports that meet none of the slips: PORT_ID is a port that
is in no LAG or a LAG that is there, no VLAN mapping is there, FDB_LEARNING_MODE
is not given, and a creation that fails late finds the port in a state that its
rollback does not change. -/
structure SubPortSafe (c : Lchip) (db : BridgeDb bc) (sdk : BridgeSdk)
    (attrs : List BridgePortAttr) : Prop where
  holder : ∀ h, portGiven attrs = some h → IsGport bc.pm c h ∧ (db.res c).Holder h
  learning : findAttribInList BridgePortAttr.fdbLearningMode? attrs = none
  mapping : sdk.hasVlanMapping = false
  removes : sdk.removeVlanMapping = .none
  switches : SwitchesWork sdk
  late : ∀ h, portGiven attrs = some h → SubPortWorks sdk ∧ GoesUp sdk attrs ∨
    (db.res c).sub h ≠ 0 ∨ SubPortWorks sdk ∧ (db.res c).subIf h = 0

/-- The creations of tunnel ports that are not rolled back. -/
structure TunnelPortSafe (c : Lchip) (db : BridgeDb bc) (sdk : BridgeSdk)
    (attrs : List BridgePortAttr) : Prop where
  late : findAttribInList BridgePortAttr.fdbLearningMode? attrs = none → GoesUp sdk attrs
  fresh : ∀ o t, findAttribInList BridgePortAttr.tunnelId? attrs = some o →
    db.tunnels.lookup o = some t →
    db.bridgePorts.lookup (bridgePortIdOf c .tunnel (t.logicPort.setWidth 32)) = none

theorem gport_width (hg : IsGport bc.pm c g) : (g.setWidth 16).setWidth 32 = g := by
  rcases hg with hg | ⟨tid, rfl⟩
  · have := bc.gport_lt hg
    apply BitVec.eq_of_toNat_eq
    simp only [BitVec.toNat_setWidth]
    omega
  have : (lagGport tid).toNat < 2 ^ 16 := by
    simp only [lagGport]
    bv_omega
  apply BitVec.eq_of_toNat_eq
  simp only [BitVec.toNat_setWidth]
  omega

theorem adminUp_success (hn : sdk.setNhid = .none) (ha : sdk.addPortToDefaultEntry = .none)
    (bp : BridgePort) : adminUp sdk bp = .success := by
  have hs : mappingErrorCtc .none = .success := mappingErrorCtc_eq_success.mpr rfl
  simp only [adminUp, hn, ha, hs, ite_self]

theorem adminDone_up {admin : Bool} (hup : adminUp sdk bp = .success)
    (h : some (adminDone bp admin (if admin then adminUp sdk bp else .success, db)) =
      some (status, bp', db')) : status = .success := by
  rw [hup, ite_self] at h
  cases h
  rfl

/-- A state that differs from that of a new record was asked for. -/
theorem GoesUp.on (hup : GoesUp sdk attrs)
    (hne : ¬ (findAttribInList BridgePortAttr.adminState? attrs).getD false = false) :
    sdk.updateVlanMapping = .none ∧ sdk.mplsGetIlm = .none ∧ sdk.mplsUpdateIlm = .none ∧
      ∀ bp, adminUp sdk bp = .success := by
  have hon : findAttribInList BridgePortAttr.adminState? attrs = some true := by
    cases hf : findAttribInList BridgePortAttr.adminState? attrs with
    | none =>
      rw [hf] at hne
      exact absurd rfl hne
    | some b =>
      rw [hf] at hne
      exact congrArg some (by simpa using hne)
  obtain ⟨h₁, h₂, h₃, h₄, h₅⟩ := hup.2 hon
  exact ⟨h₁, h₂, h₃, adminUp_success h₄ h₅⟩

theorem setAdminState_subPort (hp : bp.portType = .subPort) (hup : GoesUp sdk attrs)
    (hdown : bp.adminState = false) (h : setAdminState c sdk db bp
      ((findAttribInList BridgePortAttr.adminState? attrs).getD false) =
        some (status, bp', db')) : status = .success := by
  simp only [setAdminState, hp, hdown] at h
  split at h
  · cases h
    rfl
  next hne =>
  obtain ⟨hmap, -, -, hadmin⟩ := hup.on hne
  split at h
  · cases h
  · rw [mappingErrorCtc_eq_success.mpr hmap] at h
    exact adminDone_up (hadmin bp) h

theorem setAdminState_tunnel (hp : bp.portType = .tunnel) (hup : GoesUp sdk attrs)
    (hdown : bp.adminState = false) (h : setAdminState c sdk db bp
      ((findAttribInList BridgePortAttr.adminState? attrs).getD false) =
        some (status, bp', db')) : status = .success := by
  simp only [setAdminState, hp, hdown] at h
  split at h
  · cases h
    rfl
  next hne =>
  obtain ⟨-, hget, hupdate, hadmin⟩ := hup.on hne
  split at h
  · cases h
  split at h
  · rw [mappingErrorCtc_eq_success.mpr hget] at h
    dsimp only at h
    split at h
    · cases h
    · rw [mappingErrorCtc_eq_success.mpr hupdate] at h
      exact adminDone_up (hadmin bp) h
  · exact adminDone_up (hadmin bp) h

/-- The creation of a sub-port from the case of its type on. -/
theorem ResInv.finishSubPort (h : ResInv c foreign db) (hsafe : SubPortSafe c db sdk attrs)
    {d : BridgeDb bc} (hbp : bp.adminState = false) {db' : BridgeDb bc}
    (hb : d.bridgePorts = db.bridgePorts) (hd : d.res c = db.res c)
    (hc : createSubPort c sdk d bp attrs = (.ok bp', db'))
    (hf : createFinish c sdk db' .subPort bp' (bp'.logicPort.setWidth 32) attrs = some r) :
    ResInv c foreign r.2.2 := by
  have hmade := createSubPort_made c sdk hsafe.switches hsafe.mapping d bp attrs
  have hmakes := createSubPort_makes c sdk d bp attrs
  rw [hc] at hmade hmakes
  rw [hd] at hmade
  have hb' : db'.bridgePorts = db.bridgePorts := by
    cases hmakes with | made _ hsame => exact hsame.bridgePorts.trans hb
  cases hmade with
  | made g l n pl pn hg hl hn hv hpt hgp hbt hadm hlp hnh hcc =>
    obtain ⟨hgport, hold⟩ := hsafe.holder g hg
    have hwidth := gport_width hgport
    have hpl : db.logicPorts.alloc = some (l, pl) := hl
    obtain ⟨hfree, -, htop, -, -⟩ := Pool.alloc_some hpl
    have hl16 : bp'.logicPort.toNat = l := by
      have := bc.logicPorts_top
      rw [hlp, BitVec.toNat_ofNat, Nat.mod_eq_of_lt (by omega)]
    have hn32 : bp'.nhId.toNat = n := by
      obtain ⟨-, -, hntop, -, -⟩ := Pool.alloc_some hn
      have := bc.nexthops_top
      rw [hnh, BitVec.toNat_ofNat, Nat.mod_eq_of_lt (by omega)]
    -- no live bridge port has the object id, since none has the logic port
    have hfresh : db.bridgePorts.lookup
        (bridgePortIdOf c .subPort (bp'.logicPort.setWidth 32)) = none := by
      cases hlook : db.bridgePorts.lookup
          (bridgePortIdOf c .subPort (bp'.logicPort.setWidth 32)) with
      | none => rfl
      | some x =>
        have hx : x.portType = .subPort := h.oidType _ x hlook rfl
        have hval := congrArg Oid.value (h.subPort _ x hlook hx).1
        have hsl : x.logicPort.toNat = l := by
          rw [← hl16]
          have := congrArg BitVec.toNat hval
          simp only [bridgePortIdOf, createObjectId, BitVec.toNat_setWidth] at this
          omega
        refine absurd ((h.logic.used l).mpr
          (.inr ⟨.inl (bridgePortIdOf c .subPort (bp'.logicPort.setWidth 32)), ?_⟩)) hfree
        rw [logicOwns_inl db.tunnels hlook, BridgePort.logicIds, if_pos hx, hsl]
        exact Finset.mem_singleton_self _
    cases createFinish_finished hf with
    | early hfdb _ _ =>
      rw [hsafe.learning] at hfdb
      cases hfdb
    | @back bp'' d' _ hwhy hsb hd' hr hrb =>
      have hlate : (db.res c).sub g ≠ 0 ∨ (db.res c).subIf g = 0 := by
        rcases hsafe.late g hg with ⟨-, hup⟩ | hsub | ⟨-, hif⟩
        · exfalso
          cases hwhy with
          | admin hst hne => exact hne (setAdminState_subPort hpt hup (hadm.trans hbp) hst)
          | live hlive =>
            rw [hb', hfresh] at hlive
            cases hlive
          | memory hmem =>
            rw [hup.1] at hmem
            cases hmem
          | lag hlag hnone =>
            rw [hgp, hwidth] at hlag hnone
            rw [hv] at hnone
            have hsome := hold.members hlag
            rw [show (db.res c).members g = none from hnone] at hsome
            cases hsome
        · exact .inl hsub
        · exact .inr hif
      have hgp' : bp''.gport.setWidth 32 = g := by rw [hsb.gport, hgp, hwidth]
      have hsubv : (d'.res c).sub g = (db.res c).sub g + 1 := by
        rw [hd', hv]
        exact Function.update_self _ _ _
      have hpos : (d'.res c).sub g ≠ 0 := by
        have hle := h.sub_le g
        intro hz
        rw [hsubv] at hz
        have := congrArg BitVec.toNat hz
        rw [BitVec.toNat_add] at this
        have h1 : (1 : BitVec 32).toNat = 1 := rfl
        have h0 : (0 : BitVec 32).toNat = 0 := rfl
        omega
      have hrec : HasRecord c d' (bp''.gport.setWidth 32) := by
        rw [hgp']
        exact hasRecord_of_sub c hpos
      have hdes := res_destroySubPort c sdk hsafe.switches hsafe.removes hrec
      have hlb : bp''.logicPort = bp'.logicPort := by
        simp only [SameButAdmin] at hsb
        rw [hsb]
      have hnb : bp''.nhId = bp'.nhId := by
        simp only [SameButAdmin] at hsb
        rw [hsb]
      rw [hgp', hd', hv, hlb, hnb, hl16, hn32, leave_made hl hn] at hdes
      have hnz : (db.res c).sub g ≠ 0 ↔ 0 < ((db.res c).sub g).toNat := by
        rw [Nat.pos_iff_ne_zero, ne_eq, ne_eq, ← BitVec.toNat_inj]
        rfl
      refine h.switch hold ?_ ?_ (hr.trans hdes) (hrb.trans hb')
      · rw [decide_eq_true_iff, hnz]
        simp only [ResView.users]
        rcases hlate with hsub | hif
        · have := hnz.mp hsub
          omega
        · omega
      · rw [decide_eq_true_iff]
        exact hnz
    | @stored bp'' hsb hr hfr hins =>
      have hsb' : bp''.portType = bp'.portType ∧ bp''.logicPort = bp'.logicPort ∧
          bp''.nhId = bp'.nhId := by
        simp only [SameButAdmin] at hsb
        rw [hsb]
        exact ⟨rfl, rfl, rfl⟩
      refine h.join hold hwidth hl hn (hr.trans hv) (by rw [hins, hb']) hfresh
        (hsb'.1.trans hpt) (hsb.gport.trans hgp) (hsb'.2.1.trans hlp) (hsb'.2.2.trans hnh) ?_
      rw [hsb'.2.1]

theorem subType_bridgePortIdOf (type : BridgePortType) (value : BitVec 32)
    (hs : type ≠ .subPort) : (bridgePortIdOf c type value).subType ≠ 1 := by
  cases type with
  | subPort => exact absurd rfl hs
  | port =>
    show (bridgePortIdOf 0 .port 0).subType ≠ 1
    decide
  | router1Q =>
    show (bridgePortIdOf 0 .router1Q 0).subType ≠ 1
    decide
  | router1D =>
    show (bridgePortIdOf 0 .router1D 0).subType ≠ 1
    decide
  | tunnel =>
    show (bridgePortIdOf 0 .tunnel 0).subType ≠ 1
    decide

theorem ResInv.finishOther (h : ResInv c foreign db) {value : BitVec 32} (hs : type ≠ .subPort)
    (hbp : bp.portType ≠ .subPort)
    (hback : type = .tunnel → findAttribInList BridgePortAttr.fdbLearningMode? attrs = none →
      ¬ BackWhy c sdk db' type bp value attrs) (hv : db'.res c = db.res c)
    (hb : db'.bridgePorts = db.bridgePorts)
    (hf : createFinish c sdk db' type bp value attrs = some r) : ResInv c foreign r.2.2 := by
  cases createFinish_finished hf with
  | early _ hr hrb => exact h.keep (hr.trans hv) (hrb.trans hb)
  | back hfdb hwhy _ hd hr hrb =>
    have ht : type ≠ .tunnel := fun ht => hback ht hfdb hwhy
    rw [res_destroyByType_other hs ht, hd] at hr
    exact h.keep (hr.trans hv) (hrb.trans hb)
  | @stored bp' hsb hr hfr hins =>
    rw [hb] at hfr hins
    refine h.addOther (hr.trans hv) hins hfr ?_ (subType_bridgePortIdOf type value hs)
    have hpt : bp'.portType = bp.portType := by
      simp only [SameButAdmin] at hsb
      rw [hsb]
    rw [hpt]
    exact hbp

theorem TunnelPortSafe.not_back {d : BridgeDb bc} (hsafe : TunnelPortSafe c db sdk attrs)
    (hd : d.tunnels = db.tunnels) (hb : d.bridgePorts = db.bridgePorts)
    (hbp : bp.adminState = false) (hg : bp.gport = 0) (hc : createTunnelPort d bp attrs = .ok bp')
    (hfdb : findAttribInList BridgePortAttr.fdbLearningMode? attrs = none) :
    ¬ BackWhy c sdk d .tunnel bp' (bp'.logicPort.setWidth 32) attrs := by
  have hup := hsafe.late hfdb
  simp only [createTunnelPort] at hc
  split at hc
  · cases hc
  next o ho =>
  split at hc
  · cases hc
  next t ht =>
  rw [hd] at ht
  cases hc
  intro hwhy
  cases hwhy with
  | admin hst hne =>
    refine hne (setAdminState_tunnel ?_ hup ?_ hst)
    · rfl
    · exact hbp
  | live hlive =>
    rw [hb, hsafe.fresh o t ho ht] at hlive
    cases hlive
  | memory hmem =>
    rw [hup.1] at hmem
    cases hmem
  | lag hlag _ =>
    dsimp only at hlag
    rw [hg] at hlag
    exact absurd hlag (by decide)

theorem ResInv.createPort (h : ResInv c foreign db)
    (hsub : bridgePortTypeGiven attrs = some .subPort → SubPortSafe c db sdk attrs)
    (htun : bridgePortTypeGiven attrs = some .tunnel → TunnelPortSafe c db sdk attrs)
    (hr : createBridgePort c sdk db attrs = some r) :
    ResInv c foreign r.2.2 := by
  have hkeep : ∀ {d : BridgeDb bc}, d.res c = db.res c → d.bridgePorts = db.bridgePorts →
      ResInv c foreign d.unlock := fun hd hb => h.keep hd hb
  simp only [createBridgePort] at hr
  split at hr
  · cases hr
    exact hkeep rfl rfl
  next s hs =>
  have hgiven : bridgePortTypeGiven attrs = bridgePortTypeOf s := by
    rw [bridgePortTypeGiven, hs]
    rfl
  rw [hgiven] at hsub htun
  split at hr
  · cases hr
    exact hkeep rfl rfl
  next bridgeId bridgeType _ =>
  split at hr
  · cases hr
  generalize hbp : ({ BridgePort.zero with
    bridgeId := bridgeId.setWidth 16, bridgeType := bridgeType } : BridgePort) = bp at hr
  have hadm : bp.adminState = false := by rw [← hbp]; rfl
  have hgp : bp.gport = 0 := by rw [← hbp]; rfl
  simp only [createByType] at hr
  split at hr
  · next status d he =>
    cases hr
    split at he
    · split at he
      · cases he
      · next hp =>
        cases he
        have hmakes := createPortPort_makes c sdk db.lock bp attrs
        rw [hp] at hmakes
        cases hmakes with
        | refused _ hregs => exact hkeep hregs.res hregs.same.bridgePorts
    · next hty =>
      have hsafe := hsub hty
      have hmade := createSubPort_made c sdk hsafe.switches hsafe.mapping db.lock bp attrs
      have hmakes := createSubPort_makes c sdk db.lock bp attrs
      split at he
      · cases he
      next hp =>
      cases he
      rw [hp] at hmade hmakes
      have hsame : SameBridges db.lock d := by
        cases hmakes with | refused _ hsame => exact hsame
      cases hmade with
      | refused hv => exact hkeep hv hsame.bridgePorts
      | undone g hg hnot hv =>
        obtain ⟨-, hold⟩ := hsafe.holder g hg
        have hne : (db.res c).sub g ≠ 0 := by
          rcases hsafe.late g hg with ⟨hw, -⟩ | hne | ⟨hw, -⟩
          · exact absurd hw hnot
          · exact hne
          · exact absurd hw hnot
        have hpos : 0 < ((db.res c).sub g).toNat :=
          Nat.pos_of_ne_zero fun hz => hne (BitVec.eq_of_toNat_eq hz)
        refine h.switch hold ⟨fun _ => ?_, fun _ => rfl⟩
          ⟨fun _ => hpos, fun _ => rfl⟩ hv hsame.bridgePorts
        exact Nat.lt_of_lt_of_le hpos (Nat.le_add_right _ _)
    · cases he
      exact hkeep rfl rfl
    · split at he
      · cases he
        exact hkeep rfl rfl
      · cases he
    · split at he
      · cases he
      · cases he
        exact hkeep rfl rfl
    · cases he
      exact hkeep rfl rfl
  · next type bp' value d he =>
    split at he
    · split at he
      · next hp =>
        cases he
        have hmakes := createPortPort_makes c sdk db.lock bp attrs
        rw [hp] at hmakes
        cases hmakes with
        | made hrec hregs =>
          have hpt := hrec.portType.resolve_right (by rintro ⟨⟨⟩, _⟩)
          exact h.finishOther (by decide) (by rw [hpt]; decide)
            (fun ht => by cases ht) hregs.res hregs.same.bridgePorts hr
      · cases he
    · next hty =>
      split at he
      · next hp =>
        cases he
        exact h.finishSubPort (hsub hty) (d := db.lock) hadm rfl rfl hp hr
      · cases he
    · cases he
    · split at he
      · cases he
      · cases he
        have hlock : db.lock.res c = db.res c := rfl
        refine h.finishOther ?_ ?_ ?_ hlock rfl hr
        · decide
        · exact fun he => by cases he
        · exact fun ht => by cases ht
    · next hty =>
      split at he
      · next hp =>
        cases he
        have hmakes := createTunnelPort_makes sdk db.lock bp attrs
        rw [hp] at hmakes
        cases hmakes with
        | made hrec _ =>
          have hpt := hrec.portType.resolve_right (by rintro ⟨⟨⟩, _⟩)
          have hlock : db.lock.res c = db.res c := rfl
          refine h.finishOther ?_ ?_ ?_ hlock rfl hr
          · decide
          · rw [hpt]
            decide
          · exact fun _ => (htun hty).not_back (d := db.lock) rfl rfl hadm hgp hp
      · cases he
    · cases he

theorem ResInv.removePort (h : ResInv c foreign db) {oid : Oid}
    (hsafe : ∀ bp, db.bridgePorts.lookup oid = some bp → bp.portType ≠ .tunnel ∧
      (bp.portType = .subPort → sdk.removeVlanMapping = .none ∧ SwitchesWork sdk ∧
        ((db.res c).sub (bp.gport.setWidth 32) = 1 →
          (db.res c).subIf (bp.gport.setWidth 32) = 0))) {r : Status × BridgeDb bc}
    (hr : removeBridgePort c sdk db oid = some r) :
    ResInv c foreign r.2 := by
  simp only [removeBridgePort] at hr
  split at hr
  · cases hr
    exact h
  next bp hlook =>
  obtain ⟨hne, hsub⟩ := hsafe bp hlook
  obtain ⟨⟨bp₁, db₁⟩, hdown, he⟩ := Option.map_eq_some_iff.mp hr
  have hfirst : SameBridges db db₁ ∧ SameButAdmin bp bp₁ ∧ db₁.res c = db.res c := by
    split at hdown
    · obtain ⟨⟨st, bp₂, db₂⟩, hadm, hpair⟩ := Option.map_eq_some_iff.mp hdown
      cases hpair
      obtain ⟨hs, hb⟩ := setAdminState_same c sdk hadm
      exact ⟨hs, hb, (setAdminState_frame c sdk hadm).1.res⟩
    · cases hdown
      exact ⟨SameBridges.refl db, rfl, rfl⟩
  obtain ⟨hs, hbp, hres⟩ := hfirst
  have hrec : bp₁.portType = bp.portType ∧ bp₁.gport = bp.gport ∧
      bp₁.logicPort = bp.logicPort ∧ bp₁.nhId = bp.nhId := by
    simp only [SameButAdmin] at hbp
    rw [hbp]
    exact ⟨rfl, rfl, rfl, rfl⟩
  obtain ⟨hpt, hgp, hlp, hnh⟩ := hrec
  have hports : (destroyByType c sdk db₁ bp₁.portType bp₁).bridgePorts = db.bridgePorts :=
    (destroyByType_same c sdk db₁ bp₁.portType bp₁).bridgePorts.trans hs.bridgePorts
  rw [← he]
  by_cases hsp : bp.portType = .subPort
  · obtain ⟨hmap, hw, hlast⟩ := hsub hsp
    have hpos := h.pos hlook hsp
    have hrecord : HasRecord c db₁ (bp₁.gport.setWidth 32) := by
      rw [hgp]
      refine hasRecord_of_sub c fun hz => ?_
      rw [← hres, hz] at hpos
      exact absurd hpos (by decide)
    have hdes := res_destroySubPort c sdk hw hmap hrecord
    rw [hres, hgp, hlp, hnh] at hdes
    refine h.leave hlook hsp hlast ?_ ?_
    · rw [← hdes]
      show BridgeDb.res c { destroyByType c sdk db₁ bp₁.portType bp₁ with bridgePorts := _ } = _
      rw [hpt, hsp]
      rfl
    · show (destroyByType c sdk db₁ bp₁.portType bp₁).bridgePorts.erase oid = _
      rw [hports]
  · have hsame : destroyByType c sdk db₁ bp₁.portType bp₁ = db₁ := by
      refine res_destroyByType_other ?_ ?_
      · rw [hpt]
        exact hsp
      · rw [hpt]
        exact hne
    refine h.eraseOther ?_ ?_ hlook hsp
    · show BridgeDb.res c { destroyByType c sdk db₁ bp₁.portType bp₁ with bridgePorts := _ } = _
      rw [hsame]
      exact hres
    · show (destroyByType c sdk db₁ bp₁.portType bp₁).bridgePorts.erase oid = _
      rw [hports]

end Steps

end CtcSai
