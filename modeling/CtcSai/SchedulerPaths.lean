/-
# `SchedulerPaths` — the registers on the path of a queue

A queue below a group of level 1 has a confirm class and weight, which the group gives; below a
group of level 2 it has an exceed class and weight from this group too, and the confirm class and
weight come from the group's parent.  Attaching a queue writes the registers of its path, except
the weight of a group without a profile.  What a fresh attach leaves is these writes, made to
registers that have their defaults.
-/
import CtcSai.SchedulerTree
import CtcSai.Lib.WriteLog

namespace CtcSai

open Function WriteLogs

variable {sc : SchedulerChip} {db : SchedDb sc} {hw : SchedHw} {c : Lchip} {gport : BitVec 32}
  {i cls : BitVec 8} {k G top : Oid} {isAdd : Bool} {foreign : ForeignNodes} {r : SchedReg}

/-! ## What is written -/

/-- The profile and the parent of a group. -/
def SchedDb.link (db : SchedDb sc) (c : Lchip) (oid : Oid) : Option (Oid × Oid) :=
  (db.group c oid).map fun g => (g.schedId, g.parentId)

/-- The weight that a profile gives, when there is one. -/
def SchedDb.nodeWeight (db : SchedDb sc) (c : Lchip) (schedId : Oid) (isAdd : Bool) :
    Option (BitVec 8) :=
  if schedId = Oid.null then none else (db.scheduler c schedId).map fun s => s.groupWeight isAdd

/-- The registers as they are at first. -/
def defaultReg : SchedReg → BitVec 8
  | .queueConfirmClass _ _ i => i
  | .queueExceedClass _ _ i => i
  | .queueExceedWeight _ _ _ => 1
  | .groupConfirmClass _ _ _ _ => schedChanNodeDefault
  | .groupConfirmWeight _ _ _ _ => 1

/-- A weight is written when there is a profile. -/
def weightWrite (reg : SchedReg) (w : Option (BitVec 8)) : List (SchedReg × BitVec 8) :=
  (w.map fun v => (reg, v)).toList

/-- What `_ctc_sai_sched_group_queue_map_ctc_port_level` writes. -/
def SchedDb.portLevelWrites (db : SchedDb sc) (c : Lchip) (gport : BitVec 32) (i cls : BitVec 8)
    (top : Oid) (isAdd : Bool) : List (SchedReg × BitVec 8) :=
  match db.link c top with
  | none => []
  | some (schedId, _) =>
    (.groupConfirmClass c gport (sc.queueGroup c gport i) cls,
      if isAdd then top.value2.setWidth 8 else schedChanNodeDefault) ::
    weightWrite (.groupConfirmWeight c gport (sc.queueGroup c gport i) cls)
      (db.nodeWeight c schedId isAdd)

/-- What `_ctc_sai_sched_group_queue_map_ctc_group_level` writes. -/
def SchedDb.groupLevelWrites (db : SchedDb sc) (c : Lchip) (gport : BitVec 32) (i : BitVec 8)
    (G : Oid) (isAdd : Bool) : List (SchedReg × BitVec 8) :=
  match db.link c G with
  | none => []
  | some (schedId, parent) =>
    (.queueExceedClass c gport i, if isAdd then G.value2.setWidth 8 else i) ::
    (weightWrite (.queueExceedWeight c gport i) (db.nodeWeight c schedId isAdd) ++
      db.portLevelWrites c gport i (G.value2.setWidth 8) parent isAdd)

/-- What `_ctc_sai_sched_group_apply_queue_to_group` writes. -/
def SchedDb.queueWrites (db : SchedDb sc) (k G : Oid) (isAdd : Bool) : List (SchedReg × BitVec 8) :=
  let i := k.value2.setWidth 8
  if G.subType = 1 then db.portLevelWrites k.lchip k.value i i G isAdd
  else if G.subType = 2 then db.groupLevelWrites k.lchip k.value i G isAdd
  else []

/-- The registers after a fresh attach of a queue. -/
def SchedDb.fresh (db : SchedDb sc) (k G : Oid) : SchedReg → BitVec 8 :=
  replay defaultReg (db.queueWrites k G true)

/-- The group whose index is the confirm class of the queues attached to `G`. -/
def SchedDb.topOf (db : SchedDb sc) (c : Lchip) (G : Oid) : Option Oid :=
  if G.subType = 1 then some G
  else if G.subType = 2 then (db.link c G).map Prod.snd
  else none

/-- The profiles of the groups are there. -/
def LiveLinks (db : SchedDb sc) : Prop :=
  ∀ c x s p, db.link c x = some (s, p) → s ≠ Oid.null → ∃ t, db.scheduler c s = some t

/-- The groups on the path of a queue are there. -/
def WholePath (db : SchedDb sc) (c : Lchip) (G : Oid) : Prop :=
  ∀ x, x = G ∨ db.topOf c G = some x → ∃ l, db.link c x = some l

theorem weight_step (hlive : LiveLinks db) (hquiet : hw.answers = []) {x s p : Oid}
    (hl : db.link c x = some (s, p)) (reg : SchedReg) :
    (if s = Oid.null then (Status.success, hw) else match db.scheduler c s with
        | none => (.itemNotFound, hw)
        | some t => hw.write reg (t.groupWeight isAdd)) =
      (.success, { hw with regs := replay hw.regs (weightWrite reg (db.nodeWeight c s isAdd)) }) := by
  rw [SchedDb.nodeWeight]
  split
  · rfl
  next hs =>
  obtain ⟨t, ht⟩ := hlive c x s p hl hs
  rw [ht]
  exact SchedHw.write_quiet hquiet reg _

theorem mapCtcPortLevel_writes (hlive : LiveLinks db) (hquiet : hw.answers = [])
    (htop : ∃ l, db.link c top = some l) :
    mapCtcPortLevel db foreign c gport i cls top isAdd hw = (.success, { hw with
        regs := replay hw.regs (db.portLevelWrites c gport i cls top isAdd) }) := by
  obtain ⟨⟨s, p⟩, hl⟩ := htop
  obtain ⟨g, hg, he⟩ := Option.map_eq_some_iff.mp hl
  obtain ⟨rfl, rfl⟩ := Prod.mk.inj he
  have hid : db.schedIdOf foreign c top = some g.schedId := by rw [SchedDb.schedIdOf, hg]
  rw [mapCtcPortLevel, hid, SchedDb.portLevelWrites, hl]
  dsimp only
  rw [SchedHw.write_quiet hquiet]
  exact weight_step hlive (by exact hquiet) hl _

theorem mapCtcGroupLevel_writes (hlive : LiveLinks db) (hquiet : hw.answers = []) {s p : Oid}
    (hl : db.link c G = some (s, p)) (htop : ∃ l, db.link c p = some l) :
    mapCtcGroupLevel db foreign c gport i G isAdd hw =
      (.success, { hw with regs := replay hw.regs (db.groupLevelWrites c gport i G isAdd) }) := by
  obtain ⟨g, hg, he⟩ := Option.map_eq_some_iff.mp hl
  obtain ⟨rfl, rfl⟩ := Prod.mk.inj he
  rw [mapCtcGroupLevel, hg, SchedDb.groupLevelWrites, hl]
  dsimp only
  rw [SchedHw.write_quiet hquiet]
  refine (congrArg (fun r => hwThen r fun hw =>
    mapCtcPortLevel db foreign c gport i (G.value2.setWidth 8) g.parentId isAdd hw)
    (weight_step hlive ?_ hl (.queueExceedWeight c gport i))).trans ?_
  · exact hquiet
  · dsimp only [hwThen]
    rw [mapCtcPortLevel_writes hlive (by exact hquiet) htop, replay_cons, replay_append]

theorem applyQueueToGroup_writes (hlive : LiveLinks db) (hquiet : hw.answers = [])
    (hpath : WholePath db k.lchip G) :
    applyQueueToGroup db foreign k G isAdd hw =
      (.success, { hw with regs := replay hw.regs (db.queueWrites k G isAdd) }) := by
  rw [applyQueueToGroup, SchedDb.queueWrites]
  split
  · exact mapCtcPortLevel_writes hlive hquiet (hpath G (.inl rfl))
  next h1 =>
  split
  · next h2 =>
    obtain ⟨⟨s, p⟩, hl⟩ := hpath G (.inl rfl)
    have htop : db.topOf k.lchip G = some p := by
      rw [SchedDb.topOf, if_neg h1, if_pos h2, hl]
      rfl
    exact mapCtcGroupLevel_writes hlive hquiet hl (hpath p (.inr htop))
  · rfl

theorem fresh_eq (hlive : LiveLinks db) (hpath : WholePath db k.lchip G)
    (shapes : ShapeReg → Option Shape) :
    (applyQueueToGroup db foreign k G true ⟨defaultReg, shapes, []⟩).2.regs = db.fresh k G := by
  rw [applyQueueToGroup_writes hlive rfl hpath]
  rfl

/-! ## The registers of a path -/

/-- The registers of the SDK's group that a queue shares with the queues of its class. -/
def confirmRegs (sc : SchedulerChip) (k : Oid) (cls : BitVec 8) : List SchedReg :=
  let group := sc.queueGroup k.lchip k.value (k.value2.setWidth 8)
  [.groupConfirmClass k.lchip k.value group cls, .groupConfirmWeight k.lchip k.value group cls]

def exceedRegs (k : Oid) : List SchedReg :=
  [.queueExceedClass k.lchip k.value (k.value2.setWidth 8),
    .queueExceedWeight k.lchip k.value (k.value2.setWidth 8)]

/-- The registers on the path of a queue that is attached to `G`. -/
def pathRegs (sc : SchedulerChip) (k G : Oid) : List SchedReg :=
  if G.subType = 1 then confirmRegs sc k (k.value2.setWidth 8)
  else if G.subType = 2 then exceedRegs k ++ confirmRegs sc k (G.value2.setWidth 8)
  else []

def SchedDb.weightOf (db : SchedDb sc) (c : Lchip) (x : Oid) : BitVec 8 :=
  ((db.link c x).bind fun l => db.nodeWeight c l.1 true).getD 1

/-- The value of a register on a path through `G` and, above it, `top`. -/
def SchedDb.pathValue (db : SchedDb sc) (G top : Oid) : SchedReg → BitVec 8
  | .queueExceedClass _ _ _ => G.value2.setWidth 8
  | .queueExceedWeight c _ _ => db.weightOf c G
  | .groupConfirmClass _ _ _ _ => top.value2.setWidth 8
  | .groupConfirmWeight c _ _ _ => db.weightOf c top
  | .queueConfirmClass _ _ i => i

def SchedDb.Plain (db : SchedDb sc) (c : Lchip) (x : Oid) : Prop :=
  ∃ s p, db.link c x = some (s, p) ∧ db.nodeWeight c s true = none

theorem weightOf_plain {x : Oid} (h : db.Plain c x) : db.weightOf c x = 1 := by
  obtain ⟨s, p, hl, hw⟩ := h
  rw [SchedDb.weightOf, hl, Option.bind_some, hw]
  rfl

theorem nodeWeight_none (s : Oid) :
    db.nodeWeight c s isAdd = none ↔ db.nodeWeight c s true = none := by
  rw [SchedDb.nodeWeight, SchedDb.nodeWeight]
  split
  · exact Iff.rfl
  · rw [Option.map_eq_none_iff, Option.map_eq_none_iff]

theorem nodeWeight_false {s : Oid} {v : BitVec 8} (h : db.nodeWeight c s false = some v) :
    v = 1 := by
  rw [SchedDb.nodeWeight] at h
  split at h
  · cases h
  obtain ⟨t, -, rfl⟩ := Option.map_eq_some_iff.mp h
  rw [Scheduler.groupWeight]
  split
  · rfl
  · rfl

theorem mem_keys_weightWrite {reg : SchedReg} {w : Option (BitVec 8)} :
    r ∈ keys (weightWrite reg w) ↔ r = reg ∧ w ≠ none := by
  cases w with
  | none => simp [weightWrite, keys]
  | some v => simp [weightWrite, keys]

theorem replay_weightWrite (f : SchedReg → BitVec 8) (reg : SchedReg) (w : Option (BitVec 8)) :
    replay f (weightWrite reg w) = update f reg (w.getD (f reg)) := by
  cases w with
  | none =>
    rw [Option.getD_none, update_eq_self]
    rfl
  | some v => rfl

theorem replay_portLevel (f : SchedReg → BitVec 8) {s p : Oid} (hl : db.link c top = some (s, p)) :
    replay f (db.portLevelWrites c gport i cls top isAdd) = update
        (update f (.groupConfirmClass c gport (sc.queueGroup c gport i) cls)
          (if isAdd then top.value2.setWidth 8 else schedChanNodeDefault))
        (.groupConfirmWeight c gport (sc.queueGroup c gport i) cls)
        ((db.nodeWeight c s isAdd).getD
          (f (.groupConfirmWeight c gport (sc.queueGroup c gport i) cls))) := by
  rw [SchedDb.portLevelWrites, hl]
  rw [replay_cons, replay_weightWrite]
  rfl

theorem keys_portLevel {s p : Oid} (hl : db.link c top = some (s, p)) :
    r ∈ keys (db.portLevelWrites c gport i cls top isAdd) ↔
      r = .groupConfirmClass c gport (sc.queueGroup c gport i) cls ∨
        (r = .groupConfirmWeight c gport (sc.queueGroup c gport i) cls ∧
          db.nodeWeight c s true ≠ none) := by
  rw [SchedDb.portLevelWrites, hl]
  rw [mem_keys_cons, mem_keys_weightWrite, Ne, nodeWeight_none]

theorem keys_groupLevel {s p s' p' : Oid} (hl : db.link c G = some (s, p))
    (hl' : db.link c p = some (s', p')) :
    r ∈ keys (db.groupLevelWrites c gport i G isAdd) ↔
      r = .queueExceedClass c gport i ∨
        (r = .queueExceedWeight c gport i ∧ db.nodeWeight c s true ≠ none) ∨
        r = .groupConfirmClass c gport (sc.queueGroup c gport i) (G.value2.setWidth 8) ∨
        (r = .groupConfirmWeight c gport (sc.queueGroup c gport i) (G.value2.setWidth 8) ∧
          db.nodeWeight c s' true ≠ none) := by
  rw [SchedDb.groupLevelWrites, hl]
  rw [mem_keys_cons, mem_keys_append, mem_keys_weightWrite, keys_portLevel hl', Ne, nodeWeight_none]

/-- What the path of a queue looks like: the queue is below a group of level 1, or below one of
level 2 that has a parent. -/
inductive PathShape (db : SchedDb sc) (k G : Oid) : Oid → Prop
  | port {s p : Oid} : G.subType = 1 → db.link k.lchip G = some (s, p) → PathShape db k G G
  | group {s top s' p' : Oid} : G.subType ≠ 1 → G.subType = 2 →
      db.link k.lchip G = some (s, top) → db.link k.lchip top = some (s', p') → PathShape db k G top

theorem pathShape (hpath : WholePath db k.lchip G) (htop : db.topOf k.lchip G = some top) :
    PathShape db k G top := by
  obtain ⟨⟨s, p⟩, hl⟩ := hpath G (.inl rfl)
  obtain ⟨⟨s', p'⟩, hl'⟩ := hpath top (.inr htop)
  rw [SchedDb.topOf] at htop
  split at htop
  · next h1 =>
    cases htop
    exact .port h1 hl
  next h1 =>
  split at htop
  · next h2 =>
    rw [hl] at htop
    cases htop
    exact .group h1 h2 hl hl'
  · cases htop

theorem pathRegs_of_keys (h : PathShape db k G top) (hr : r ∈ keys (db.queueWrites k G isAdd)) :
    r ∈ pathRegs sc k G := by
  cases h with
  | port h1 hl =>
    rw [SchedDb.queueWrites, if_pos h1, keys_portLevel hl] at hr
    rw [pathRegs, if_pos h1]
    rcases hr with rfl | ⟨rfl, -⟩
    · exact List.mem_cons_self
    · exact List.mem_cons_of_mem _ List.mem_cons_self
  | group h1 h2 hl hl' =>
    rw [SchedDb.queueWrites, if_neg h1, if_pos h2, keys_groupLevel hl hl'] at hr
    rw [pathRegs, if_neg h1, if_pos h2]
    simp only [exceedRegs, confirmRegs, List.cons_append, List.nil_append, List.mem_cons]
    rcases hr with rfl | ⟨rfl, -⟩ | rfl | ⟨rfl, -⟩
    · exact .inl rfl
    · exact .inr (.inl rfl)
    · exact .inr (.inr (.inl rfl))
    · exact .inr (.inr (.inr (.inl rfl)))

/-- A register of the path that is not written is the weight of a group without a profile. -/
theorem plain_of_not_written (h : PathShape db k G top) (hr : r ∈ pathRegs sc k G)
    (hnot : r ∉ keys (db.queueWrites k G isAdd)) :
    (r = .queueExceedWeight k.lchip k.value (k.value2.setWidth 8) ∧ db.Plain k.lchip G) ∨
      (∃ grp cls, r = .groupConfirmWeight k.lchip k.value grp cls) ∧ db.Plain k.lchip top := by
  cases h with
  | @port s p h1 hl =>
    rw [SchedDb.queueWrites, if_pos h1, keys_portLevel hl, not_or] at hnot
    simp only [pathRegs, if_pos h1, confirmRegs, List.mem_cons, List.not_mem_nil, or_false] at hr
    obtain ⟨hcls, hweight⟩ := hnot
    obtain rfl := hr.resolve_left hcls
    exact .inr ⟨⟨_, _, rfl⟩, s, p, hl, not_not.mp fun hn => hweight ⟨rfl, hn⟩⟩
  | @group s _ s' p' h1 h2 hl hl' =>
    rw [SchedDb.queueWrites, if_neg h1, if_pos h2, keys_groupLevel hl hl', not_or, not_or,
      not_or] at hnot
    simp only [pathRegs, if_neg h1, if_pos h2, exceedRegs, confirmRegs, List.cons_append,
      List.nil_append, List.mem_cons, List.not_mem_nil, or_false] at hr
    obtain ⟨hec, hew, hcc, hcw⟩ := hnot
    rcases hr with rfl | rfl | rfl | rfl
    · exact absurd rfl hec
    · exact .inl ⟨rfl, s, _, hl, not_not.mp fun hn => hew ⟨rfl, hn⟩⟩
    · exact absurd rfl hcc
    · exact .inr ⟨⟨_, _, rfl⟩, s', p', hl', not_not.mp fun hn => hcw ⟨rfl, hn⟩⟩

theorem fresh_value (h : PathShape db k G top) (hr : r ∈ pathRegs sc k G) :
    db.fresh k G r = db.pathValue G top r := by
  cases h with
  | @port s p h1 hl =>
    simp only [pathRegs, if_pos h1, confirmRegs, List.mem_cons, List.not_mem_nil, or_false] at hr
    rw [SchedDb.fresh, SchedDb.queueWrites, if_pos h1, replay_portLevel _ hl]
    rcases hr with rfl | rfl
    · rw [update_of_ne (by nofun), update_self]
      rfl
    · rw [update_self, SchedDb.pathValue, SchedDb.weightOf, hl]
      rfl
  | @group s _ s' p' h1 h2 hl hl' =>
    simp only [pathRegs, if_neg h1, if_pos h2, exceedRegs, confirmRegs, List.cons_append,
      List.nil_append, List.mem_cons, List.not_mem_nil, or_false] at hr
    rw [SchedDb.fresh, SchedDb.queueWrites, if_neg h1, if_pos h2, SchedDb.groupLevelWrites, hl]
    rw [replay_cons, replay_append, replay_weightWrite, replay_portLevel _ hl']
    rcases hr with rfl | rfl | rfl | rfl
    · rw [update_of_ne (by nofun), update_of_ne (by nofun), update_of_ne (by nofun), update_self]
      rfl
    · rw [update_of_ne (by nofun), update_of_ne (by nofun), update_self,
        SchedDb.pathValue, SchedDb.weightOf, hl]
      rfl
    · rw [update_of_ne (by nofun), update_self]
      rfl
    · rw [update_self, SchedDb.pathValue, SchedDb.weightOf, hl']
      rfl

theorem detached_value (h : PathShape db k G top) (f : SchedReg → BitVec 8)
    (hr : r ∈ keys (db.queueWrites k G false)) :
    replay f (db.queueWrites k G false) r = defaultReg r := by
  have hweight : ∀ {s : Oid} {reg : SchedReg} (f : SchedReg → BitVec 8),
      db.nodeWeight k.lchip s true ≠ none →
        (db.nodeWeight k.lchip s false).getD (f reg) = 1 := by
    intro s reg f hn
    rw [Ne, ← @nodeWeight_none _ _ _ false] at hn
    obtain ⟨v, hv⟩ := Option.ne_none_iff_exists'.mp hn
    rw [hv, Option.getD_some, nodeWeight_false hv]
  cases h with
  | @port s p h1 hl =>
    rw [SchedDb.queueWrites, if_pos h1] at hr ⊢
    rw [keys_portLevel hl] at hr
    rw [replay_portLevel _ hl]
    rcases hr with rfl | ⟨rfl, hn⟩
    · rw [update_of_ne (by nofun), update_self]
      rfl
    · rw [update_self, hweight _ hn]
      rfl
  | @group s _ s' p' h1 h2 hl hl' =>
    rw [SchedDb.queueWrites, if_neg h1, if_pos h2] at hr ⊢
    rw [keys_groupLevel hl hl'] at hr
    rw [SchedDb.groupLevelWrites, hl]
    rw [replay_cons, replay_append, replay_weightWrite, replay_portLevel _ hl']
    rcases hr with rfl | ⟨rfl, hn⟩ | rfl | ⟨rfl, hn⟩
    · rw [update_of_ne (by nofun), update_of_ne (by nofun), update_of_ne (by nofun), update_self]
      rfl
    · rw [update_of_ne (by nofun), update_of_ne (by nofun), update_self, hweight _ hn]
      rfl
    · rw [update_of_ne (by nofun), update_self]
      rfl
    · rw [update_self, hweight _ hn]
      rfl

end CtcSai
