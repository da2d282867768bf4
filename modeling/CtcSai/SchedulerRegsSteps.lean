/-
# `SchedulerRegsSteps` — the registers after a change of the tree

The profile of a group, or a profile itself: after each change the registers on the paths are
again those of fresh attaches, when the change is none that the code forgets to write.
-/
import CtcSai.SchedulerRegs

namespace CtcSai

open KeyedTable WriteLogs Table

variable {sc : SchedulerChip} {pq : Lchip → BitVec 8} {db db' : SchedDb sc} {c : Lchip}
  {k G x y oid : Oid} {foreign : ForeignNodes} {fuel : Nat}

/-! ## Weights on a path -/

/-- The group `x` gives the weight `r` on the path of a queue that is attached to `G`. -/
def SchedDb.Weighs (db : SchedDb sc) (k G x : Oid) (r : SchedReg) : Prop :=
  (r = .queueExceedWeight k.lchip k.value (k.value2.setWidth 8) ∧ G.subType = 2 ∧ x = G) ∨
    (∃ grp cls, r = .groupConfirmWeight k.lchip k.value grp cls) ∧ db.topOf k.lchip G = some x

namespace SchedDb.Weighs

variable {r : SchedReg}

theorem unique (h : db.Weighs k G x r) (h' : db.Weighs k G y r) : x = y := by
  rcases h with ⟨rfl, -, rfl⟩ | ⟨⟨grp, cls, rfl⟩, htop⟩
  · rcases h' with ⟨-, -, rfl⟩ | ⟨⟨grp, cls, he⟩, -⟩
    · rfl
    · cases he
  · rcases h' with ⟨he, -⟩ | ⟨-, htop'⟩
    · cases he
    · exact Option.some.inj (htop.symm.trans htop')

theorem climbs (h : db.Weighs k G x r) : Climbs db k.lchip G x := by
  rcases h with ⟨-, -, rfl⟩ | ⟨-, htop⟩
  · exact .here x
  rw [SchedDb.topOf] at htop
  split at htop
  · cases htop
    exact .here G
  split at htop
  · obtain ⟨⟨s, p⟩, hl, he⟩ := Option.map_eq_some_iff.mp htop
    cases he
    exact .up hl (.here p)
  · cases htop

theorem congr (hp : SameParents db db') (h : db.Weighs k G x r) : db'.Weighs k G x r := by
  rw [SchedDb.Weighs, hp.topOf]
  exact h

theorem fresh_eq (h : db.Weighs k G x r) (hpath : WholePath db k.lchip G)
    (hr : r ∈ pathRegs sc k G) : db.fresh k G r = db.weightOf k.lchip x := by
  obtain ⟨top, htop⟩ := topOf_of_mem hpath hr
  rw [fresh_value (pathShape hpath htop) hr]
  rcases h with ⟨rfl, -, rfl⟩ | ⟨⟨grp, cls, rfl⟩, htop'⟩
  · rfl
  · cases htop.symm.trans htop'
    rfl

end SchedDb.Weighs

section Path

variable {r : SchedReg}

/-- What a fresh attach writes depends on the top of the path, and for a weight on the group that
gives it. -/
theorem fresh_congr (hpath : WholePath db k.lchip G) (hpath' : WholePath db' k.lchip G)
    (hsame : db'.topOf k.lchip G = db.topOf k.lchip G) (hr : r ∈ pathRegs sc k G)
    (hweight : ∀ x, db.Weighs k G x r → db'.weightOf k.lchip x = db.weightOf k.lchip x) :
    db'.fresh k G r = db.fresh k G r := by
  obtain ⟨top, htop⟩ := topOf_of_mem hpath hr
  rw [fresh_value (pathShape hpath htop) hr, fresh_value (pathShape hpath' (hsame.trans htop)) hr]
  rcases pathRegs_cases hr with rfl | rfl | ⟨grp, cls, rfl | rfl⟩
  · rfl
  · refine hweight G (.inl ⟨rfl, ?_, rfl⟩)
    rw [pathRegs] at hr
    split at hr
    · simp [confirmRegs] at hr
    split at hr
    · assumption
    · cases hr
  · rfl
  · exact hweight top (.inr ⟨⟨grp, cls, rfl⟩, htop⟩)

theorem exists_plain (hpath : WholePath db k.lchip G) (hr : r ∈ pathRegs sc k G) {isAdd : Bool}
    (hnot : r ∉ keys (db.queueWrites k G isAdd)) :
    ∃ x, db.Weighs k G x r ∧ db.Plain k.lchip x := by
  obtain ⟨top, htop⟩ := topOf_of_mem hpath hr
  rcases plain_of_not_written (pathShape hpath htop) hr hnot with ⟨rfl, hplain⟩ | ⟨hreg, hplain⟩
  · refine ⟨G, .inl ⟨rfl, ?_, rfl⟩, hplain⟩
    rw [pathRegs] at hr
    split at hr
    · simp [confirmRegs] at hr
    split at hr
    · assumption
    · cases hr
  · exact ⟨top, .inr ⟨hreg, htop⟩, hplain⟩

end Path

/-! ## Records that change -/

theorem link_insert (g : SchedGroup) :
    ({ db with groups := db.groups.insert x g } : SchedDb sc).link c y =
      if y = x ∧ x.lchip = c then some (g.schedId, g.parentId) else db.link c y := by
  simp only [SchedDb.link, SchedDb.group, lookup_insert_ite]
  by_cases hy : y = x
  · subst hy
    by_cases hc : y.lchip = c
    · simp [hc]
    · simp [hc]
  · simp [hy]

/-- A profile changes, or only its count does. -/
theorem nodeWeight_insert {s s' : Scheduler} (hs : db.schedulers.lookup oid = some s)
    (he : s'.groupWeight = s.groupWeight) :
    ({ db with schedulers := db.schedulers.insert oid s' } : SchedDb sc).nodeWeight =
      db.nodeWeight := by
  funext c p b
  simp only [SchedDb.nodeWeight, SchedDb.scheduler, lookup_insert_ite]
  by_cases hp : p = oid
  · subst hp
    simp [hs, he]
  · simp [hp]

theorem scheduler_insert {s' t : Scheduler} {p : Oid} (h : db.scheduler c p = some t) :
    ∃ t', ({ db with schedulers := db.schedulers.insert oid s' } : SchedDb sc).scheduler c p =
      some t' := by
  rw [SchedDb.scheduler] at h ⊢
  split at h
  · next hc =>
    rw [if_pos hc, lookup_insert_ite]
    split
    · exact ⟨_, rfl⟩
    · exact ⟨t, h⟩
  · cases h

theorem PathTree.setScheduler (h : PathTree pq db) (oid : Oid) (s' : Scheduler) :
    PathTree pq { db with schedulers := db.schedulers.insert oid s' } := by
  have hp : SameParents db { db with schedulers := db.schedulers.insert oid s' } :=
    ⟨fun _ _ => rfl, fun _ => rfl⟩
  refine hp.pathTree h h.keys (fun c x s p hl hs => ?_) h.listed
  obtain ⟨t, ht⟩ := h.live c x s p hl hs
  exact scheduler_insert ht

theorem PathTree.setSchedId (h : PathTree pq db) {g : SchedGroup}
    (hg : db.groups.lookup x = some g) (oid : Oid)
    (hlive : oid ≠ Oid.null → ∃ t, db.scheduler x.lchip oid = some t) :
    SameParents db (db.setSchedId x g oid) ∧ PathTree pq (db.setSchedId x g oid) := by
  have hp : SameParents db (db.setSchedId x g oid) := by
    refine ⟨fun c y => ?_, fun _ => rfl⟩
    rw [SchedDb.setSchedId, link_insert]
    split
    · next hy =>
      obtain ⟨rfl, hc⟩ := hy
      rw [link_of_lookup hc hg]
      rfl
    · rfl
  refine ⟨hp, hp.pathTree h (fun p g' hp' => ?_) (fun c y s p hl hs => ?_) fun k G hb => ?_⟩
  · rw [SchedDb.setSchedId, lookup_insert_ite] at hp'
    split at hp'
    · next he => exact he ▸ h.keys x g hg
    · exact h.keys p g' hp'
  · rw [SchedDb.setSchedId, link_insert] at hl
    split at hl
    · next hy =>
      obtain ⟨rfl, rfl⟩ := hy
      cases hl
      exact hlive hs
    · exact h.live c y s p hl hs
  · obtain ⟨g', hg', hmem⟩ := h.listed k G hb
    rw [SchedDb.setSchedId, lookup_insert_ite]
    split
    · next he =>
      subst he
      cases hg.symm.trans hg'
      exact ⟨_, rfl, hmem⟩
    · exact ⟨g', hg', hmem⟩

/-- The registers on the paths are those of fresh attaches. -/
structure PathsInv (pq : Lchip → BitVec 8) (db : SchedDb sc) : Prop where
  tree : PathTree pq db
  quiet : db.hw.answers = []
  right : RegsRight db db.hw.regs

theorem PathsInv.congr (h : PathsInv pq db) (hp : SameParents db db') (ht : PathTree pq db')
    (hquiet : db'.hw.answers = []) (hregs : db'.hw.regs = db.hw.regs)
    (hweight : ∀ k G x r, db.Below k G → r ∈ pathRegs sc k G → db.Weighs k G x r →
      db'.weightOf k.lchip x = db.weightOf k.lchip x) : PathsInv pq db' := by
  refine ⟨ht, hquiet, fun k G hb r hr => ?_, fun r hfree => ?_⟩
  · have hb' := hp.below.mp hb
    have hpath := h.tree.whole k G hb'
    rw [hregs, fresh_congr hpath (hp.wholePath hpath) hp.topOf hr fun x => hweight k G x r hb' hr]
    exact h.right.path k G hb' r hr
  · rw [hregs]
    exact h.right.rest r fun k G hb => hfree k G (hp.below.mpr hb)

/-! ## The profile of a group -/

/-- What `ctc_sai_scheduler_group_set_scheduler` has written when it comes to the queues. -/
def SchedDb.bindGroup (db : SchedDb sc) (x : Oid) (g : SchedGroup) (oid : Oid) (s : Scheduler) :
    SchedDb sc :=
  if g.schedId = oid then db
  else { db.setSchedId x g oid with schedulers := db.schedulers.insert oid s.hold }

theorem bindGroup_hw (x : Oid) (g : SchedGroup) (oid : Oid) (s : Scheduler) :
    (db.bindGroup x g oid s).hw = db.hw := by
  rw [SchedDb.bindGroup]
  split
  · rfl
  · rfl

section Bind

variable {g : SchedGroup} {s : Scheduler}

theorem sameView_schedulers {s' : Scheduler} (hs : db.schedulers.lookup oid = some s)
    (he : s'.groupWeight = s.groupWeight) :
    SameView db { db with schedulers := db.schedulers.insert oid s' } :=
  ⟨rfl, nodeWeight_insert hs he, fun _ => rfl⟩

theorem groupWeight_release : s.release.groupWeight = s.groupWeight := by
  rw [Scheduler.release]
  split
  · rfl
  · rfl

theorem PathTree.bindGroup (h : PathTree pq db) (hg : db.groups.lookup x = some g)
    (hs : db.scheduler x.lchip oid = some s) :
    SameParents db (db.bindGroup x g oid s) ∧ PathTree pq (db.bindGroup x g oid s) ∧
      (db.bindGroup x g oid s).nodeWeight = db.nodeWeight ∧
      ∀ c y, (db.bindGroup x g oid s).link c y =
        if y = x ∧ x.lchip = c then some (oid, g.parentId) else db.link c y := by
  rw [SchedDb.bindGroup]
  split
  · next he =>
    refine ⟨⟨fun _ _ => rfl, fun _ => rfl⟩, h, rfl, fun c y => ?_⟩
    split
    · next hy =>
      obtain ⟨rfl, hc⟩ := hy
      rw [link_of_lookup hc hg, he]
    · rfl
  obtain ⟨-, hls⟩ := lookup_of_scheduler hs
  have hv : SameView db { db with schedulers := db.schedulers.insert oid s.hold } :=
    sameView_schedulers hls rfl
  have hset := (h.setScheduler oid s.hold).setSchedId hg oid fun _ => scheduler_insert hs
  refine ⟨⟨fun c y => hset.1.parents c y, fun _ => rfl⟩, hset.2, hv.weight, fun c y => ?_⟩
  exact link_insert _

end Bind

section SetGroup

variable {r : Status × SchedDb sc}

theorem PathTree.releaseOld (h : PathTree pq db) (c : Lchip) (old : Oid) :
    SameView db (db.releaseOld c old).2 ∧ PathTree pq (db.releaseOld c old).2 ∧
      (db.releaseOld c old).2.hw = db.hw := by
  rw [SchedDb.releaseOld]
  cases hs : db.scheduler c old with
  | none => exact ⟨.refl db, h, rfl⟩
  | some s =>
    exact ⟨sameView_schedulers (lookup_of_scheduler hs).2 groupWeight_release, h.setScheduler _ _, rfl⟩

/-- A call changes nothing, takes the profile from a group, or comes to the queues. -/
theorem PathTree.setGroup_cases (h : PathTree pq db) (hquiet : db.hw.answers = [])
    (hr : setGroupScheduler db foreign fuel x oid = some r) :
    (r.2 = db ∧ (r.1 = .success →
      oid = Oid.null ∧ ∃ g, db.groups.lookup x = some g ∧ g.schedId = Oid.null)) ∨
    (oid = Oid.null ∧ ∃ g s, db.groups.lookup x = some g ∧ g.schedId ≠ Oid.null ∧
      db.schedulers.lookup g.schedId = some s ∧
      r.2 = { db.setSchedId x g Oid.null with
        schedulers := db.schedulers.insert g.schedId s.release }) ∨
    (oid ≠ Oid.null ∧ ∃ g s r', db.groups.lookup x = some g ∧ db.scheduler x.lchip oid = some s ∧
      Reruns (db.bindGroup x g oid s) foreign (fun _ schedId => schedId = oid) fuel x.lchip
        (portQueues sc x.lchip) r' ∧
      SameView r'.2 r.2 ∧ PathTree pq r.2 ∧ r.2.hw = r'.2.hw) := by
  rw [setGroupScheduler] at hr
  split at hr
  · cases hr
    exact .inl ⟨rfl, by rintro ⟨⟩⟩
  cases hg : db.groups.lookup x with
  | none =>
    rw [hg] at hr
    cases hr
    exact .inl ⟨rfl, by rintro ⟨⟩⟩
  | some g =>
    rw [hg] at hr
    dsimp only at hr
    rw [groupSetScheduler, hg] at hr
    split at hr
    · cases hr
      exact .inl ⟨rfl, by rintro ⟨⟩⟩
    dsimp only at hr
    split at hr
    · next hne =>
      split at hr
      · cases hr
        exact .inl ⟨rfl, by rintro ⟨⟩⟩
      have hcalls : hwThen db.hw.call SchedHw.call = (.success, db.hw) := by
        rw [SchedHw.call_quiet hquiet]
        exact SchedHw.call_quiet hquiet
      rw [hcalls] at hr
      dsimp only [SchedDb.withHw] at hr
      cases hs : db.scheduler x.lchip oid with
      | none =>
        have hs' : ({ db with hw := db.hw } : SchedDb sc).scheduler x.lchip oid = none := hs
        rw [hs'] at hr
        cases hr
        exact .inl ⟨rfl, by rintro ⟨⟩⟩
      | some s =>
        have hs' : ({ db with hw := db.hw } : SchedDb sc).scheduler x.lchip oid = some s := hs
        rw [hs'] at hr
        obtain ⟨-, htree, -⟩ := h.bindGroup hg hs
        have hquiet' : (db.bindGroup x g oid s).hw.answers = [] := by
          rw [bindGroup_hw]
          exact hquiet
        dsimp only at hr
        cases hloop : CtcSai.updateQueues foreign (fun _ schedId => schedId = oid) fuel x.lchip
            (portQueues sc x.lchip) (db.bindGroup x g oid s) with
        | none =>
          erw [hloop] at hr
          cases hr
        | some r' =>
          have hruns := htree.updateQueues _ hquiet' hloop
          have htree' := hruns.same.pathTree htree
          obtain ⟨st, db₁⟩ := r'
          obtain rfl : st = .success := hruns.success
          erw [hloop] at hr
          dsimp only at hr
          refine .inr (.inr ⟨hne, g, s, _, rfl, rfl, hruns, ?_⟩)
          split at hr
          · cases hr
            exact ⟨.refl _, htree', rfl⟩
          · cases hr
            exact htree'.releaseOld _ _
    · next hnull =>
      have hnull' : oid = Oid.null := not_not.mp hnull
      split at hr
      · next hidle =>
        cases hr
        exact .inl ⟨rfl, fun _ => ⟨hnull', g, rfl, hidle⟩⟩
      next hsched =>
      split at hr
      · cases hr
        exact .inl ⟨rfl, by rintro ⟨⟩⟩
      · next s hs =>
        cases hr
        exact .inr (.inl ⟨hnull', g, s, rfl, hsched, (lookup_of_scheduler hs).2, rfl⟩)

end SetGroup

theorem weightOf_congr (hl : db'.link c y = db.link c y) (hw : db'.nodeWeight = db.nodeWeight) :
    db'.weightOf c y = db.weightOf c y := by
  rw [SchedDb.weightOf, SchedDb.weightOf, hl, hw]

/-- What the loop over the queues leaves is right when it is right before, but for the weights
that the loop writes. -/
theorem PathTree.afterLoop {hit : Oid → Oid → Bool} {l : List (BitVec 32 × BitVec 8)}
    {r r' : Status × SchedDb sc} (h : PathTree pq db) (hp : SameParents db db') (ht : PathTree pq db')
    (hright : RegsRight db db.hw.regs) (hregs : db'.hw.regs = db.hw.regs)
    (hruns : Reruns db' foreign hit fuel c l r')
    (hweight : ∀ k G x r, db.Below k G → db.Weighs k G x r →
      db'.weightOf k.lchip x = db.weightOf k.lchip x ∨
        (Reapplies db' foreign hit fuel c l k ∧ ¬ db'.Plain k.lchip x))
    (hv : SameView r'.2 r.2) (htree : PathTree pq r.2) (hhw : r.2.hw = r'.2.hw) :
    PathsInv pq r.2 := by
  refine ⟨htree, hhw ▸ hruns.quiet, ?_⟩
  rw [hhw]
  refine hv.regsRight (hruns.same.view.regsRight (ht.regsRight hruns.rewritten ?_ ?_))
  · intro k G hb r hr hnot
    have hb' := hp.below.mp hb
    have hpath := h.whole k G hb'
    rw [hregs, fresh_congr hpath (hp.wholePath hpath) hp.topOf hr fun x hx => ?_]
    · exact hright.path k G hb' r hr
    · refine (hweight k G x r hb' hx).resolve_right ?_
      rintro ⟨hks, hplain⟩
      obtain ⟨y, hy, hyplain⟩ := exists_plain (ht.whole k G hb) hr (hnot k G hks hb)
      rw [(hx.congr hp).unique hy] at hplain
      exact hplain hyplain
  · intro r hfree
    rw [hregs]
    exact hright.rest r fun k G hb => hfree k G (hp.below.mpr hb)

theorem PathsInv.setGroup (h : PathsInv pq db) {r : Status × SchedDb sc}
    (hclear : oid = Oid.null → ∀ g, db.groups.lookup x = some g → g.schedId ≠ Oid.null →
      ∀ k G, db.Below k G → ¬ Climbs db k.lchip G x)
    (hr : setGroupScheduler db foreign fuel x oid = some r) : PathsInv pq r.2 := by
  rcases h.tree.setGroup_cases h.quiet hr with ⟨he, -⟩ | ⟨hnull, g, s, hg, hs, hls, he⟩ |
    ⟨hne, g, s, r', hg, hs, hruns, hv, htree, hhw⟩
  · rw [he]
    exact h
  · rw [he]
    have hset := (h.tree.setScheduler g.schedId s.release).setSchedId hg Oid.null
      fun hn => absurd rfl hn
    refine h.congr ⟨fun c y => hset.1.parents c y, fun _ => rfl⟩ hset.2 h.quiet rfl ?_
    intro k G y r hb _ hy
    refine weightOf_congr ((link_insert _).trans (if_neg ?_)) (nodeWeight_insert hls groupWeight_release)
    rintro ⟨rfl, -⟩
    exact hclear hnull g hg hs k G hb hy.climbs
  obtain ⟨hp, htree', hweight, hlink⟩ := h.tree.bindGroup hg hs
  refine h.tree.afterLoop hp htree' h.right (by rw [bindGroup_hw]) hruns ?_ hv htree hhw
  intro k G y r hb hy
  by_cases hyx : y = x ∧ x.lchip = k.lchip
  · -- the queue is below the group that has the profile now
    obtain ⟨rfl, hc⟩ := hyx
    have hself : (db.bindGroup y g oid s).link k.lchip y = some (oid, g.parentId) := by
      rw [hlink, if_pos ⟨rfl, hc⟩]
    refine .inr ⟨?_, ?_⟩
    · obtain ⟨-, q, hq, rfl⟩ := hp.below.mpr hb
      have hne' : q.schGrp ≠ Oid.null := fun he => null_ne_group (he ▸ hb.1)
      rw [hc] at hruns ⊢
      refine htree'.reapplies_of_hit hq (htree'.visited hq hne').1 hruns.ends ?_
      exact ⟨y, oid, _, hp.climbs hy.climbs, hself, decide_eq_true rfl⟩
    · rintro ⟨s', p', hl, hnone⟩
      rw [hself] at hl
      cases hl
      rw [hweight, SchedDb.nodeWeight, if_neg hne, ← hc, hs] at hnone
      cases hnone
  · exact .inl (weightOf_congr ((hlink _ _).trans (if_neg hyx)) hweight)

/-! ## A profile -/

section Attribute

variable {attr : SchedulerAttr} {gport : BitVec 32}

theorem applyToPort_shapes (hquiet : db.hw.answers = []) :
    ∃ shapes, (applyToPort c oid gport db).2 = { db with hw := { db.hw with shapes := shapes } } := by
  have hsame : ∃ shapes, db = { db with hw := { db.hw with shapes := shapes } } := ⟨_, rfl⟩
  rw [applyToPort]
  cases hn : db.ports.lookup (physicalPortOid c gport) with
  | none => exact hsame
  | some n =>
    dsimp only
    split
    · next hv =>
      rw [portSetScheduler, hn]
      split
      · exact hsame
      next schedId hsched =>
      have hid : schedId = oid.value := by
        split at hsched
        · cases hsched
          exact hv
        · cases hsched
      split
      · split
        · exact hsame
        split
        · exact hsame
        split
        · exact hsame
        · rw [SchedHw.setShape_quiet hquiet]
          exact ⟨_, rfl⟩
      next hnull =>
      have hz : schedId = 0 := by
        rw [hid, not_not.mp hnull]
        rfl
      rw [if_pos hz]
      exact hsame
    · exact hsame

theorem applyToQueues_idle (hqueues : ∀ k q, db.queues.lookup k = some q → q.schId = 0)
    (l : List (BitVec 8)) : applyToQueues foreign fuel c oid attr gport l db = some (.success, db) := by
  have hnone : ∀ i, db.queueOf (fun q => q.schId ≠ 0) c gport i = none := by
    intro i
    rw [Option.eq_none_iff_forall_ne_some]
    rintro ⟨k, q⟩ hq
    obtain ⟨hl, hsel, -⟩ := queueOf_some hq
    exact of_decide_eq_true hsel (hqueues k q hl)
  induction l with
  | nil => rfl
  | cons i rest ih =>
    rw [applyToQueues, hnone]
    exact ih

theorem applyToPorts_shapes (l : List (BitVec 32)) : ∀ {db : SchedDb sc} {r : Status × SchedDb sc},
      (∀ k q, db.queues.lookup k = some q → q.schId = 0) → db.hw.answers = [] →
      applyToPorts foreign fuel c oid attr l db = some r →
      ∃ shapes, r.2 = { db with hw := { db.hw with shapes := shapes } } := by
  induction l with
  | nil =>
    intro db r _ _ hr
    cases hr
    exact ⟨_, rfl⟩
  | cons gport rest ih =>
    intro db r hqueues hquiet hr
    obtain ⟨shapes, hport⟩ := @applyToPort_shapes _ db c oid gport hquiet
    rw [applyToPorts] at hr
    split at hr
    · next db₁ he =>
      rw [he] at hport
      subst hport
      rw [applyToQueues_idle (by exact hqueues)] at hr
      obtain ⟨shapes', he'⟩ := ih (by exact hqueues) (by exact hquiet) hr
      exact ⟨shapes', he'⟩
    · cases hr
      exact ⟨shapes, hport⟩

theorem changed_groupWeight {s s' : Scheduler} (h : s.changed attr = some s')
    (hclasses : attr.classes = false) : s'.groupWeight = s.groupWeight := by
  have hsame : s'.schType = s.schType ∧ s'.weight = s.weight := by
    cases attr with
    | schedulingType t => cases hclasses
    | schedulingWeight w => cases hclasses
    | meterType t => cases h
    | minBandwidthRate _ | minBandwidthBurstRate _ | maxBandwidthRate _ | maxBandwidthBurstRate _ =>
      rw [Scheduler.changed, Option.ite_none_left_eq_some] at h
      cases h.2
      exact ⟨rfl, rfl⟩
  funext isAdd
  rw [Scheduler.groupWeight, Scheduler.groupWeight, hsame.1, hsame.2]

theorem PathsInv.setAttribute (h : PathsInv pq db) {r : Status × SchedDb sc}
    (hfree : attr.classes = true → ∀ s s', db.schedulers.lookup oid = some s →
      s.changed attr = some s' → ∀ k G, db.Below k G →
      ¬ HitAbove db k.lchip (fun _ schedId => schedId = oid) G)
    (hr : setSchedulerAttribute foreign fuel oid attr db = some r) : PathsInv pq r.2 := by
  have hdone : ∀ {r : Status × SchedDb sc}, schedulerSetAttr foreign fuel oid attr db = some r →
      PathsInv pq r.2 := by
    intro r hr
    rw [schedulerSetAttr] at hr
    split at hr
    · cases hr
      exact h
    next s hs =>
    split at hr
    · cases hr
      exact h
    next s' hchanged =>
    have hcalls : hwThen db.hw.call SchedHw.call = (.success, db.hw) := by
      rw [SchedHw.call_quiet h.quiet]
      exact SchedHw.call_quiet h.quiet
    dsimp only at hr
    rw [hcalls] at hr
    obtain ⟨shapes, he⟩ := applyToPorts_shapes _
      (fun k q hq => (h.tree.queues k q (by exact hq)).1) (by exact h.quiet) hr
    have htree := h.tree.setScheduler oid s'
    rw [he]
    have hp : SameParents db { db with schedulers := db.schedulers.insert oid s' } :=
      ⟨fun _ _ => rfl, fun _ => rfl⟩
    have hinv : PathsInv pq { db with schedulers := db.schedulers.insert oid s' } := by
      refine h.congr hp htree h.quiet rfl fun k G x r hb hmem hx => ?_
      cases hc : attr.classes with
      | false => exact weightOf_congr rfl (nodeWeight_insert hs (changed_groupWeight hchanged hc))
      | true =>
        have hlink : SchedDb.link { db with schedulers := db.schedulers.insert oid s' } k.lchip x =
            db.link k.lchip x := rfl
        rw [SchedDb.weightOf, SchedDb.weightOf, hlink]
        cases hl : db.link k.lchip x with
        | none => rfl
        | some l =>
          have hne : l.1 ≠ oid := fun he => hfree hc s s' hs hchanged k G hb
            ⟨x, l.1, l.2, hx.climbs, hl, decide_eq_true he⟩
          have hnode : SchedDb.nodeWeight { db with schedulers := db.schedulers.insert oid s' }
              k.lchip l.1 true = db.nodeWeight k.lchip l.1 true := by
            simp only [SchedDb.nodeWeight, SchedDb.scheduler, lookup_insert_ite, if_neg hne]
          rw [Option.bind_some, Option.bind_some, hnode]
    have hv : SameView { db with schedulers := db.schedulers.insert oid s' }
        { db with schedulers := db.schedulers.insert oid s', hw := { db.hw with shapes := shapes } } :=
      ⟨rfl, rfl, fun _ => rfl⟩
    exact hinv.congr hv.sameParents (hv.sameParents.pathTree htree htree.keys htree.live htree.listed)
      h.quiet rfl fun _ _ _ _ _ _ _ => rfl
  rw [setSchedulerAttribute.eq_def] at hr
  split at hr
  · cases hr
    exact h
  split at hr
  · cases hr
    exact h
  · exact hdone hr

end Attribute

end CtcSai
