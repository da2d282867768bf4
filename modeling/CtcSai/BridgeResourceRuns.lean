/-
# `BridgeResourceRuns` — ids, counts and switches in every run

The calls on one chip, and what each must keep clear of: the slips that free an
id somebody uses, keep one nobody has, or switch a port off under its other users.
-/
import CtcSai.BridgeResourceSteps
import CtcSai.BridgeRuns

namespace CtcSai

open KeyedTable Ownership Runs

variable {bc : BridgeChip}

/-! ## The system -/

inductive ResOp where
  | createPort (sdk : BridgeSdk) (attrs : List BridgePortAttr)
  | removePort (sdk : BridgeSdk) (oid : Oid)
  | createTunnel (sdk : TunnelSdk) (attrs : List TunnelAttr)
  | removeTunnel (oid : Oid)
  | bindSubIf (gport : BitVec 32)
  | unbindSubIf (gport : BitVec 32)

/-- One call; `none` where it does not return. -/
def resStep (c : Lchip) (db : BridgeDb bc) : ResOp → Option (BridgeDb bc)
  | .createPort sdk attrs => (createBridgePort c sdk db attrs).map fun r => r.2.2
  | .removePort sdk oid => (removeBridgePort c sdk db oid).map Prod.snd
  | .createTunnel sdk attrs => some (createTunnel c sdk db attrs).2.2
  | .removeTunnel oid => some (removeTunnel c db oid).2
  | .bindSubIf gport => some (bindSubIf c db gport)
  | .unbindSubIf gport => some (unbindSubIf c db gport)

/-- The calls that meet none of the slips.  A tunnel port is not removed, since
that frees the logic port of its tunnel, and neither is a tunnel that has one,
since that keeps it; no check returns with the logic port of a new tunnel taken;
a count that comes to zero leaves the other count of the port at zero too. -/
def ResSafe (c : Lchip) (db : BridgeDb bc) : ResOp → Prop
  | .createPort sdk attrs =>
    (bridgePortTypeGiven attrs = some .subPort → SubPortSafe c db sdk attrs) ∧
    (bridgePortTypeGiven attrs = some .tunnel → TunnelPortSafe c db sdk attrs)
  | .removePort sdk oid => ∀ bp, db.bridgePorts.lookup oid = some bp → bp.portType ≠ .tunnel ∧
    (bp.portType = .subPort → sdk.removeVlanMapping = .none ∧ SwitchesWork sdk ∧
      ((db.res c).sub (bp.gport.setWidth 32) = 1 → (db.res c).subIf (bp.gport.setWidth 32) = 0))
  | .createTunnel sdk attrs => ∀ t status,
    findAttribInList TunnelAttr.type? attrs = some (some t) → t.hasLogicPort = true →
      tunnelStop sdk attrs t ≠ some (.atOnce status)
  | .removeTunnel oid =>
    ∀ t, db.tunnels.lookup oid = some t → t.tunnelType.hasLogicPort = false
  | .bindSubIf h => (db.res c).Holder h ∧ (db.res c).SubIfRoom h
  | .unbindSubIf h => (db.res c).Holder h ∧ 0 < (db.res c).subIf h ∧
    ((db.res c).subIf h = 1 → (db.res c).sub h = 0)

/-- A chip without sub-ports and tunnels; `foreign` are the next hops of other
modules. -/
structure ResStart (c : Lchip) (foreign : Finset Nat) (db : BridgeDb bc) : Prop where
  subPorts : ∀ p bp, db.bridgePorts.lookup p = some bp → bp.portType ≠ .subPort ∧ p.subType ≠ 1
  tunnels : ∀ o t, db.tunnels.lookup o = some t → t.tunnelType.hasLogicPort = false
  logicPorts : db.logicPorts = .empty _
  nexthops : db.nexthops.used = foreign ∧ db.nexthops.stray = []
  sub : ∀ h, (db.res c).sub h = 0
  scl : ∀ g h, (db.res c).Uses g h → ((db.res c).scl g = true ↔ 0 < (db.res c).subIf h)
  reflective : ∀ g h, (db.res c).Uses g h → (db.res c).reflective g = false
  apart : (db.res c).LagsApart
  binding : ∀ h, isLinkaggPort h = true → 0 < (db.res c).subIf h → (db.res c).binding h = true

/-- What holds in every state. -/
structure ResOk (c : Lchip) (foreign : Finset Nat) (db : BridgeDb bc) : Prop where
  /-- The logic ports in use are those of the tunnels and the sub-ports. -/
  logicPorts : ∀ i, i ∈ db.logicPorts.used ↔
    (∃ p bp, db.bridgePorts.lookup p = some bp ∧ bp.portType = .subPort ∧
      bp.logicPort.toNat = i) ∨
    ∃ o t, db.tunnels.lookup o = some t ∧ t.tunnelType.hasLogicPort = true ∧ t.logicPort.toNat = i
  /-- Each of them is one object's. -/
  owner : ∀ k k' i, i ∈ logicOwns db.bridgePorts db.tunnels k →
    i ∈ logicOwns db.bridgePorts db.tunnels k' → k = k'
  /-- No free named an id that was free. -/
  stray : db.logicPorts.stray = [] ∧ db.nexthops.stray = []
  /-- The next hops in use are those of others and of the sub-ports. -/
  nexthops : ∀ i, i ∈ db.nexthops.used ↔ i ∈ foreign ∨
    ∃ p bp, db.bridgePorts.lookup p = some bp ∧ bp.portType = .subPort ∧ bp.nhId.toNat = i
  nexthopOwner : ∀ p p' bp bp', db.bridgePorts.lookup p = some bp →
    db.bridgePorts.lookup p' = some bp' → bp.portType = .subPort → bp'.portType = .subPort →
    bp.nhId = bp'.nhId → p = p'
  count : ∀ h, (subPortRefCnt c db h).toNat = Table.count (isSubPortOf h) db.bridgePorts
  /-- The hash follows both counts, reflective bridging that of the sub-ports. -/
  scl : ∀ g h, (db.res c).Uses g h → ((db.registers g).sclPortSvlan = true ↔
    0 < (subPortRefCnt c db h).toNat ∨ 0 < subIfRefCnt c db h)
  reflective : ∀ g h, (db.res c).Uses g h → ((db.registers g).reflective = true ↔
    0 < (subPortRefCnt c db h).toNat)

section System

variable {c : Lchip} {foreign : Finset Nat} {db db' : BridgeDb bc}

theorem ResStart.inv (h : ResStart c foreign db) : ResInv c foreign db := by
  have howns : logicOwns db.bridgePorts db.tunnels = fun _ => ∅ := by
    funext k
    cases k with
    | inl p =>
      cases hl : db.bridgePorts.lookup p with
      | none => exact logicOwns_inl_none db.tunnels hl
      | some bp =>
        exact (logicOwns_inl db.tunnels hl).trans (logicIds_of_ne (h.subPorts p bp hl).1)
    | inr o =>
      simp only [logicOwns]
      cases hl : db.tunnels.lookup o with
      | none => rfl
      | some t =>
        simp only [Option.map_some, Option.getD_some, BridgeTunnel.logicIds, h.tunnels o t hl,
          Bool.false_eq_true, if_false]
  have hnh : nhOwns db.bridgePorts = fun _ => ∅ := by
    funext p
    cases hl : db.bridgePorts.lookup p with
    | none => exact nhOwns_none hl
    | some bp => exact (nhOwns_of hl).trans (nhIds_of_ne (h.subPorts p bp hl).1)
  refine ⟨?_, ?_, ?_, h.nexthops.2, ?_, ?_, ?_, ?_, ?_, h.apart, h.binding⟩
  · rw [howns, h.logicPorts]
    exact ownsAll_empty ∅
  · rw [hnh, h.nexthops.1]
    exact ownsAll_empty foreign
  · rw [h.logicPorts]
    rfl
  · intro p bp hl hs
    exact absurd hs (h.subPorts p bp hl).1
  · intro p bp hl hp
    exact absurd hp (h.subPorts p bp hl).2
  · intro g
    have hzero : ¬ 0 < Table.count (isSubPortOf g) db.bridgePorts := by
      intro hpos
      obtain ⟨p, bp, hl, hp⟩ := Table.exists_of_count_pos hpos
      exact (h.subPorts p bp hl).1 (of_decide_eq_true hp).1
    rw [h.sub g]
    show 0 = _
    omega
  · intro r x hu
    rw [h.scl r x hu]
    simp only [ResView.users, h.sub x]
    show _ ↔ 0 < 0 + _
    rw [Nat.zero_add]
  · intro r x hu
    rw [h.reflective r x hu]
    show _ ↔ 0 < ((db.res c).sub x).toNat
    rw [h.sub x]
    decide

theorem ResInv.step (h : ResInv c foreign db) {op : ResOp} (hop : ResSafe c db op)
    (hst : resStep c db op = some db') : ResInv c foreign db' := by
  cases op with
  | createPort sdk attrs =>
    obtain ⟨r, hr, he⟩ := Option.map_eq_some_iff.mp hst
    rw [← he]
    exact h.createPort hop.1 hop.2 hr
  | removePort sdk oid =>
    obtain ⟨r, hr, he⟩ := Option.map_eq_some_iff.mp hst
    rw [← he]
    exact h.removePort hop hr
  | createTunnel sdk attrs =>
    cases hst
    exact h.createTunnel hop
  | removeTunnel oid =>
    cases hst
    exact h.removeTunnel hop
  | bindSubIf g =>
    cases hst
    exact h.bindSubIf hop.1 hop.2
  | unbindSubIf g =>
    cases hst
    exact h.unbindSubIf hop.1 hop.2.1 hop.2.2

theorem ResInv.ok (h : ResInv c foreign db) : ResOk c foreign db := by
  have hown : ∀ {p bp}, db.bridgePorts.lookup p = some bp → bp.portType = .subPort →
      nhOwns db.bridgePorts p = {bp.nhId.toNat} := fun hl hs => (nhOwns_of hl).trans (if_pos hs)
  refine ⟨?_, h.logic.apart, ⟨h.strayLogic, h.strayNexthop⟩, ?_, ?_, h.count, ?_, h.reflective⟩
  · intro i
    rw [h.logic.used]
    constructor
    · rintro (hno | ⟨k, hk⟩)
      · exact absurd hno (Finset.notMem_empty i)
      · cases k with
        | inl p =>
          simp only [logicOwns] at hk
          cases hl : db.bridgePorts.lookup p with
          | none =>
            rw [hl] at hk
            exact absurd hk (Finset.notMem_empty i)
          | some bp =>
            rw [hl] at hk
            simp only [Option.map_some, Option.getD_some, BridgePort.logicIds] at hk
            split at hk
            · next hs => exact .inl ⟨p, bp, hl, hs, (Finset.mem_singleton.mp hk).symm⟩
            · exact absurd hk (Finset.notMem_empty i)
        | inr o =>
          simp only [logicOwns] at hk
          cases hl : db.tunnels.lookup o with
          | none =>
            rw [hl] at hk
            exact absurd hk (Finset.notMem_empty i)
          | some t =>
            rw [hl] at hk
            simp only [Option.map_some, Option.getD_some, BridgeTunnel.logicIds] at hk
            split at hk
            · next hs => exact .inr ⟨o, t, hl, hs, (Finset.mem_singleton.mp hk).symm⟩
            · exact absurd hk (Finset.notMem_empty i)
    · rintro (⟨p, bp, hl, hs, hi⟩ | ⟨o, t, hl, hs, hi⟩)
      · refine .inr ⟨.inl p, ?_⟩
        rw [logicOwns_inl db.tunnels hl, BridgePort.logicIds, if_pos hs, hi]
        exact Finset.mem_singleton_self i
      · refine .inr ⟨.inr o, ?_⟩
        simp only [logicOwns, hl, Option.map_some, Option.getD_some, BridgeTunnel.logicIds, hs,
          if_true, hi]
        exact Finset.mem_singleton_self i
  · intro i
    rw [h.nexthop.used]
    refine or_congr Iff.rfl ?_
    constructor
    · rintro ⟨p, hp⟩
      cases hl : db.bridgePorts.lookup p with
      | none =>
        rw [nhOwns_none hl] at hp
        exact absurd hp (Finset.notMem_empty i)
      | some bp =>
        by_cases hs : bp.portType = .subPort
        · rw [hown hl hs] at hp
          exact ⟨p, bp, hl, hs, (Finset.mem_singleton.mp hp).symm⟩
        · rw [nhOwns_of hl, nhIds_of_ne hs] at hp
          exact absurd hp (Finset.notMem_empty i)
    · rintro ⟨p, bp, hl, hs, hi⟩
      refine ⟨p, ?_⟩
      rw [hown hl hs, hi]
      exact Finset.mem_singleton_self i
  · intro p p' bp bp' hl hl' hs hs' he
    refine h.nexthop.apart p p' bp.nhId.toNat ?_ ?_
    · rw [hown hl hs]
      exact Finset.mem_singleton_self _
    · rw [hown hl' hs', he]
      exact Finset.mem_singleton_self _
  · intro g x hu
    refine (h.scl g x hu).trans ?_
    show 0 < (subPortRefCnt c db x).toNat + subIfRefCnt c db x ↔ _
    omega

end System

/-- In every run whose calls meet none of the slips, the ids in use are those of
the tunnels and the sub-ports, the count of a port is the number of its sub-ports,
and its registers follow the counts. -/
theorem bridgeResources_of_run {c : Lchip} {foreign : Finset Nat} {db : BridgeDb bc}
    (h : Reachable (ResStart c foreign) (ResSafe c) (resStep c) db) : ResOk c foreign db :=
  ResInv.ok (Reachable.inv (fun _ hs => hs.inv) (fun _ _ _ hs hop hst => hs.step hop hst) h)

/-! ## Two runs -/

theorem not_inLag {bc : BridgeChip} {c : Lchip} {db : BridgeDb bc}
    (hl : ∀ o, db.lags.lookup o = none) {g : BitVec 32} (hg : isLinkaggPort g = false) :
    (db.res c).Holder g := by
  simp only [ResView.Holder, hg, Bool.false_eq_true, if_false]
  intro h' l _ hm
  simp only [BridgeDb.res, hl, Option.map_none] at hm
  cases hm

theorem ResStart.initial : ResStart 0 ∅ (BridgeDb.initial 0) := by
  have hnone : ∀ o, (BridgeDb.initial 0).lags.lookup o = none := fun o => AList.lookup_empty o
  refine ⟨?_, ?_, rfl, ⟨rfl, rfl⟩, ?_, ?_, fun _ _ _ => rfl, ?_, ?_⟩
  · intro p bp hl
    simp only [BridgeDb.initial, Table.lookup_insert_ite] at hl
    split at hl
    · next he =>
      cases hl
      rw [he]
      exact ⟨by decide, by decide⟩
    · simp at hl
  · intro o t hl
    simp [BridgeDb.initial] at hl
  · intro h
    simp only [BridgeDb.res, subPortRefCnt, hnone]
    split <;> rfl
  · intro g h _
    have hz : ((BridgeDb.initial 0).res 0).subIf h = 0 := by
      simp only [BridgeDb.res, subIfRefCnt, hnone]
      split <;> rfl
    rw [hz]
    exact ⟨fun hs => absurd hs Bool.false_ne_true, fun hp => absurd hp (Nat.lt_irrefl 0)⟩
  · intro h h' l l' g _ _ hm
    cases hm
  · intro h hl hpos
    have hz : ((BridgeDb.initial 0).res 0).subIf h = 0 := by
      simp only [BridgeDb.res, subIfRefCnt, hnone]
      split <;> rfl
    rw [hz] at hpos
    exact absurd hpos (Nat.lt_irrefl 0)

/-- A sub-port of port 3 for VLAN 10. -/
def subPortTen : List BridgePortAttr :=
  [.type 1, .bridgeId (bridgeOid 0 bridgeType1D 2), .portId (portOid 0 3), .vlanId 10]

/-- What is there and is given for a tunnel. -/
def TunnelSdk.ok : TunnelSdk := ⟨fun _ => true, fun _ => true, true, true⟩

/-- A tunnel of type MPLS has the first logic port and a sub-port of port 3 the
second one; the hash and reflective bridging of the port are on. -/
theorem bridgeResources_of_run_two : ∃ db : BridgeDb .plain, ResOk 0 ∅ db ∧
    db.logicPorts.used = {1, 2} ∧ (db.registers 3).reflective = true := by
  have r₀ : Reachable (ResStart 0 ∅) (ResSafe 0) (resStep 0) (BridgeDb.initial 0) :=
    .start .initial
  have r₁ := r₀.next (.createTunnel .ok [.type (some .mpls)]) (by
    intro t status ht _
    cases ht
    nofun) rfl
  have r₂ := r₁.next (.createPort .ok subPortTen) (by
    refine ⟨fun _ => ?_, fun h => absurd h (by decide)⟩
    have hport : ∀ h, portGiven subPortTen = some h → h = 3 := by
      intro h hh
      cases hh
      rfl
    refine ⟨fun h hh => ?_, rfl, rfl, rfl, fun _ => ⟨rfl, rfl⟩, fun h hh => ?_⟩
    · rw [hport h hh]
      exact ⟨.inl (show 3 < 256 by decide), not_inLag (fun o => AList.lookup_empty o) (by decide)⟩
    · exact .inl ⟨⟨rfl, rfl, rfl⟩, rfl, fun ha => absurd ha (by decide)⟩) rfl
  exact ⟨_, bridgeResources_of_run r₂, by decide, by decide⟩

/-- FDB_LEARNING_MODE is given, which is refused without a rollback. -/
def subPortLearning : List BridgePortAttr := subPortTen ++ [.fdbLearningMode 0]

/-- A bridge port of the first tunnel. -/
def tunnelPortOne : List BridgePortAttr :=
  [.type 4, .bridgeId (bridgeOid 0 bridgeType1D 2), .tunnelId (tunnelOid 0 1)]

/-- A sub-interface alone switches the hash of its port on and no reflective
bridging; the removal of a tunnel port frees the logic port of a tunnel that is
there, and that of a tunnel keeps it; a sub-port that is refused late keeps its
ids, and one that goes switches the hash off under a sub-interface. -/
theorem bridgeResources_not_as_stated :
    (∃ db : BridgeDb .plain, Reachable (ResStart 0 ∅) anyStep (resStep 0) db ∧
      subIfRefCnt 0 db 3 = 1 ∧ (db.registers 3).sclPortSvlan = true ∧
      (db.registers 3).reflective = false) ∧
    (∃ db : BridgeDb .plain, Reachable (ResStart 0 ∅) anyStep (resStep 0) db ∧
      (∃ t, db.tunnels.lookup (tunnelOid 0 1) = some t ∧ t.tunnelType = .mpls ∧ t.logicPort = 1) ∧
      db.logicPorts.used = ∅) ∧
    (∃ db : BridgeDb .plain, Reachable (ResStart 0 ∅) anyStep (resStep 0) db ∧
      db.tunnels.entries = [] ∧ db.bridgePorts.lookup (bridgePortIdOf 0 .subPort 1) = none ∧
      db.logicPorts.used = {1}) ∧
    (∃ db : BridgeDb .plain, Reachable (ResStart 0 ∅) anyStep (resStep 0) db ∧
      db.tunnels.entries = [] ∧ db.bridgePorts.lookup (bridgePortIdOf 0 .subPort 1) = none ∧
      db.logicPorts.used = {1} ∧ db.nexthops.used = {3}) ∧
    ∃ db : BridgeDb .plain, Reachable (ResStart 0 ∅) anyStep (resStep 0) db ∧
      subIfRefCnt 0 db 3 = 1 ∧ (db.registers 3).sclPortSvlan = false := by
  have r₀ : Reachable (ResStart 0 ∅) anyStep (resStep 0) (BridgeDb.initial 0) := .start .initial
  have a₁ := r₀.next (.bindSubIf 3) trivial rfl
  have b₁ := r₀.next (.createTunnel .ok [.type (some .mpls)]) trivial rfl
  have b₂ := b₁.next (.createPort .ok tunnelPortOne) trivial rfl
  have b₃ := b₂.next (.removePort .ok (bridgePortIdOf 0 .tunnel 1)) trivial rfl
  have c₁ := b₁.next (.removeTunnel (tunnelOid 0 1)) trivial rfl
  have d₁ := r₀.next (.createPort .ok subPortLearning) trivial rfl
  have e₁ := a₁.next (.createPort .ok subPortTen) trivial rfl
  have e₂ := e₁.next (.removePort .ok (bridgePortIdOf 0 .subPort 1)) trivial rfl
  refine ⟨⟨_, a₁, ?_, ?_, ?_⟩, ⟨_, b₃, ⟨_, rfl, rfl, rfl⟩, ?_⟩, ⟨_, c₁, ?_, ?_, ?_⟩,
    ⟨_, d₁, ?_, ?_, ?_, ?_⟩, ⟨_, e₂, ?_, ?_⟩⟩ <;> decide

end CtcSai
