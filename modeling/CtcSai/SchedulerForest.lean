/-
# `SchedulerForest` — the hierarchy in every run

The calls that create, remove and move groups and queues have both directions of a link
to write.  They keep them in step when a group is created below a parent that takes it,
removed when nothing hangs below it, and when what hangs below a group is moved by way
of the null parent.

Three things are not looked after.  A move from one group to another leaves the child
in the list of the first; a group is removed with its children; and the record of a
group whose parent does not take it stays.
-/
import CtcSai.SchedulerTree

namespace CtcSai

open Function KeyedTable Runs TwoWayTree Table

variable {sc : SchedulerChip} {db db' : SchedDb sc} {c : Lchip} {x p k oid parent child : Oid}

/-! ## Queues -/

/-- The groups that are there are the same. -/
def SameLive (db db' : SchedDb sc) : Prop :=
  ∀ x, (db'.groups.lookup x).isSome = (db.groups.lookup x).isSome

theorem SameLive.refl (db : SchedDb sc) : SameLive db db := fun _ => rfl

variable {g : SchedGroup} {q : Queue}

theorem sameLive_insert {g' : SchedGroup} (hg : db.groups.lookup p = some g) :
    SameLive db { db with groups := db.groups.insert p g' } := by
  intro x
  dsimp only
  rw [lookup_insert_ite]
  split
  · next hx => rw [hx, hg]; rfl
  · rfl

theorem sameLive_addChild {st : Status} (h : addChild db c parent child = (st, db')) :
    SameLive db db' := by
  rcases addChild_cases db c parent child with ⟨_, _, he, -⟩ | ⟨he, -⟩ | ⟨-, -, g, hg, -, -, he⟩
  · rw [h] at he
    cases he
    exact .refl db
  · rw [h] at he
    cases he
    exact .refl db
  · rw [h] at he
    cases he
    exact sameLive_insert (lookup_of_group hg).2

/-- A queue that is given a parent gets it. -/
structure QueueTakes (db : SchedDb sc) (foreign : ForeignNodes) (queueId oid : Oid) : Prop where
  kind : queueId.subType ≠ queueTypeMulticast
  chip : queueId.lchip = oid.lchip
  port : queueId.value = oid.value
  fits : ParentTakes db queueId.lchip oid queueId
  hw : IsSchedGroup oid → (applyQueueToGroup db foreign queueId oid true db.hw).1 = .success

/-- A queue is moved by way of null, or stays where it is. -/
def QueueMoveSafe (db : SchedDb sc) (foreign : ForeignNodes) (queueId oid : Oid) : Prop :=
  oid = Oid.null ∨ ∀ q, db.queues.lookup queueId = some q →
    ¬ IsSchedGroup q.schGrp ∨ q.schGrp = oid ∨ ¬ QueueTakes db foreign queueId oid

theorem withHw_eq {r : Status × SchedHw} (h : db.withHw r = (.success, db')) :
    r.1 = .success ∧ db' = { db with hw := r.2 } :=
  ⟨congrArg Prod.fst h, (congrArg Prod.snd h).symm⟩

theorem idle_queue (hk : k.type = ObjectType.queue.bits) (hq : db.queues.lookup k = some q) :
    db.tree.parent k = some q.schGrp := by
  show db.parentOf k = _
  rw [parentOf_queue hk, hq]
  rfl

/-- `ctc_sai_scheduler_group_queue_set_scheduler` keeps a forest. -/
theorem forest_groupQueueSetScheduler (h : Forest db.tree) (hk : k.type = ObjectType.queue.bits)
    (hsafe : QueueMoveSafe db foreign k oid) :
    Forest (groupQueueSetScheduler db foreign k oid).2.tree ∧
      SameLive db (groupQueueSetScheduler db foreign k oid).2 := by
  rw [groupQueueSetScheduler]
  split
  · exact ⟨h, .refl db⟩
  next hkind =>
  cases hq : db.queues.lookup k with
  | none => exact ⟨h, .refl db⟩
  | some q =>
  have hparent := idle_queue hk hq
  dsimp only
  split
  · next hne =>
    have hsafe := hsafe.resolve_left hne q hq
    split
    · exact ⟨h, .refl db⟩
    next hchip =>
    split
    · exact ⟨h, .refl db⟩
    next hvalue =>
    rw [not_not] at hchip hvalue
    have hidle : ParentTakes db k.lchip oid k →
        (IsSchedGroup oid → (applyQueueToGroup db foreign k oid true db.hw).1 = .success) →
        Idle IsSchedGroup (db.tree.parent k) ∨ db.tree.parent k = some oid := by
      intro htakes hhw
      rw [hparent]
      rcases hsafe with hs | hs | hs
      · exact .inl (idle_some hs)
      · exact .inr (congrArg some hs)
      · exact absurd ⟨hkind, hchip, hvalue, htakes, hhw⟩ hs
    split
    · next hp =>
      cases hg : db.group k.lchip oid with
      | none => exact ⟨h, .refl db⟩
      | some g =>
      dsimp only
      split
      · next db₁ hhw =>
        obtain ⟨hrc, rfl⟩ := withHw_eq hhw
        have h₁ : Forest ({ db with hw := (applyQueueToGroup db foreign k oid true db.hw).2 } :
            SchedDb sc).tree := h
        split
        · next db₂ hadd =>
          have hlive := sameLive_addChild hadd
          have htakes := parentTakes_of_addChild hadd
          refine ⟨?_, hlive⟩
          rw [SchedDb.setSchGrp, tree_setQueue hk]
          exact h₁.place (hidle htakes fun _ => hrc) hadd
        next r hne' =>
        rcases addChild_cases ({ db with
          hw := (applyQueueToGroup db foreign k oid true db.hw).2 } : SchedDb sc) k.lchip oid k
          with ⟨st, _, he, -⟩ | ⟨he, -⟩ | ⟨-, -, g', -, -, -, he⟩
        · rw [he]
          exact ⟨h, .refl db⟩
        · exact absurd he (hne' _)
        · exact absurd he (hne' _)
      · next hne' => exact ⟨h, .refl db⟩
    · next hp =>
      split
      · next hport =>
        have hadd : addChild db k.lchip oid k = (.success, db) := by
          rw [addChild, if_neg hp, if_pos hport]
        refine ⟨?_, .refl db⟩
        rw [SchedDb.setSchGrp, tree_setQueue hk]
        exact h.place (hidle (.inl hport) fun hp' => absurd hp' hp) hadd
      · exact ⟨h, .refl db⟩
  · split
    · exact ⟨h, .refl db⟩
    · split
      · next hp =>
        cases hg : db.group k.lchip q.schGrp with
        | none => exact ⟨h, .refl db⟩
        | some g =>
        obtain ⟨-, hl⟩ := lookup_of_group hg
        dsimp only
        split
        · next db₁ hhw =>
          obtain ⟨-, rfl⟩ := withHw_eq hhw
          have h₁ : Forest ({ db with hw := (applyQueueToGroup db foreign k q.schGrp false db.hw).2 } :
              SchedDb sc).tree := h
          rw [delChild_group hp (by exact hg)]
          dsimp only
          refine ⟨?_, sameLive_insert hl⟩
          rw [SchedDb.setSchGrp, tree_setQueue hk]
          exact h₁.unplace hparent hl (idle_some null_ne_group)
            fun p hp' => (Option.some.inj hp').symm
        · exact ⟨h, .refl db⟩
      · next hp =>
        refine ⟨?_, .refl db⟩
        rw [SchedDb.setSchGrp, tree_setQueue hk]
        refine h.clear ?_ (idle_some null_ne_group) fun p hp' => (Option.some.inj hp').symm
        rw [hparent]
        exact idle_some hp

theorem sameTree_again (h : Forest db.tree) (hk : k.type = ObjectType.queue.bits)
    (hq : db.queues.lookup k = some q) (hne : q.schGrp ≠ Oid.null) :
    SameTree db (groupQueueSetScheduler db foreign k q.schGrp).2 := by
  have hset : ∀ hw, SameTree db (({ db with hw := hw } : SchedDb sc).setSchGrp k q q.schGrp) := by
    intro hw
    refine ⟨fun a => ?_, rfl⟩
    rw [SchedDb.setSchGrp]
    dsimp only
    rw [lookup_insert_ite]
    split
    · next ha => rw [ha, hq]
    · rfl
  have hrefl : SameTree db db := ⟨fun _ => rfl, rfl⟩
  rw [groupQueueSetScheduler, hq]
  split
  · exact hrefl
  dsimp only
  split
  · exact hrefl
  split
  · exact hrefl
  split
  · next hp =>
    cases hg : db.group k.lchip q.schGrp with
    | none => exact hrefl
    | some g =>
    dsimp only
    split
    · next db₁ hhw =>
      obtain ⟨-, rfl⟩ := withHw_eq hhw
      obtain ⟨-, hl⟩ := lookup_of_group hg
      have hmem := (h.links.mem (kids_eq hl) k).mpr (idle_queue hk hq)
      rw [addChild_again hp (.inl hk) (by exact hg) hmem]
      exact hset _
    · exact ⟨fun _ => rfl, rfl⟩
  · split
    · exact hset db.hw
    · exact hrefl

theorem sameTree_updateQueues {foreign : ForeignNodes} {hit : Oid → Oid → Bool} {fuel : Nat}
    (l : List (BitVec 32 × BitVec 8)) : ∀ {db : SchedDb sc} {r : Status × SchedDb sc},
      Forest db.tree → updateQueues foreign hit fuel c l db = some r → SameTree db r.2 := by
  induction l with
  | nil =>
    intro db r _ hr
    cases hr
    exact ⟨fun _ => rfl, rfl⟩
  | cons a rest ih =>
    intro db r h hr
    rw [updateQueues] at hr
    split at hr
    · exact ih h hr
    next k q hkq =>
    obtain ⟨hq, hsel, -, htype, -⟩ := queueOf_some hkq
    have hone : ∀ r₁, queueUpdateSchedGroup db foreign hit fuel c k q = some r₁ →
        SameTree db r₁.2 := by
      intro r₁ h₁
      obtain ⟨found, -, rfl⟩ := Option.map_eq_some_iff.mp h₁
      split
      · exact sameTree_again h htype hq (of_decide_eq_true hsel)
      · exact ⟨fun _ => rfl, rfl⟩
    split at hr
    · cases hr
    · next db₁ he =>
      have h₁ := hone _ he
      have hforest : Forest db₁.tree := by
        rw [h₁.tree]
        exact h
      have h₂ := ih hforest hr
      exact ⟨fun x => (h₂.queues x).trans (h₁.queues x), h₂.groups.trans h₁.groups⟩
    · next r₁ _ he =>
      cases hr
      exact hone _ he

theorem forest_getQueueDb {mem : RecordMem} {queues : Table Oid Queue} (h : Forest db.tree)
    (hg : getQueueDb mem db.queues k = .ok (q, queues)) :
    Forest ({ db with queues := queues } : SchedDb sc).tree := by
  rw [getQueueDb] at hg
  split at hg
  · cases hg
  next hk =>
  rcases getOrMake_cases hg with ⟨-, rfl⟩ | ⟨hnone, -, rfl⟩
  · exact h
  rw [not_not] at hk
  rw [tree_setQueue hk]
  refine h.clear ?_ (idle_some null_ne_group) fun p hp => (Option.some.inj hp).symm
  show Idle IsSchedGroup (db.parentOf k)
  rw [parentOf_queue hk, hnone]
  exact idle_none

theorem forest_setQueueParent {mem : RecordMem} (h : Forest db.tree)
    (hsafe : QueueMoveSafe db foreign k oid) :
    Forest (setQueueParent db mem foreign k oid).2.tree ∧
      SameLive db (setQueueParent db mem foreign k oid).2 := by
  rw [setQueueParent]
  split
  · exact ⟨h, .refl db⟩
  next hk =>
  rw [not_not] at hk
  split
  · exact ⟨h, .refl db⟩
  cases hg : getQueueDb mem db.queues k with
  | error st => exact ⟨h, .refl db⟩
  | ok r =>
    obtain ⟨q, queues⟩ := r
    have hmade := forest_getQueueDb h hg
    refine forest_groupQueueSetScheduler hmade hk (hsafe.imp_right fun hs q' hq' => ?_)
    dsimp only at hq'
    rw [getQueueDb, if_neg (not_not.mpr hk)] at hg
    rcases getOrMake_cases hg with ⟨-, rfl⟩ | ⟨-, -, rfl⟩
    · exact (hs q' hq').imp_right (Or.imp_right fun hn ht => hn ⟨ht.1, ht.2, ht.3, ht.4, ht.5⟩)
    · rw [lookup_insert_ite, if_pos rfl] at hq'
      cases hq'
      exact .inl null_ne_group

/-! ## Groups -/

/-- A group is moved by way of null, or stays where it is. -/
def GroupMoveSafe (db : SchedDb sc) (oid parent : Oid) : Prop :=
  parent = Oid.null ∨ ∀ g, db.groups.lookup oid = some g →
    ¬ IsSchedGroup g.parentId ∨ g.parentId = parent ∨ ¬ ParentTakes db oid.lchip parent oid

theorem parent_group (hoid : IsSchedGroup oid) (hg : db.groups.lookup oid = some g) :
    db.tree.parent oid = some g.parentId := by
  show db.parentOf oid = _
  rw [parentOf_group hoid, hg]
  rfl

theorem Forest.parent_live (h : Forest db.tree) (hg : db.groups.lookup oid = some g)
    (hp : IsSchedGroup g.parentId) :
    ∃ q, db.group oid.lchip g.parentId = some q ∧ db.groups.lookup g.parentId = some q := by
  have hparent := parent_group (h.isGroup hg) hg
  obtain ⟨l, hl⟩ := Option.isSome_iff_exists.mp (h.links.live hparent hp)
  obtain ⟨q, hq, -⟩ := lookup_of_kids hl
  refine ⟨q, ?_, hq⟩
  rw [SchedDb.group, if_pos (h.chip hparent hp)]
  exact hq

/-- PARENT_NODE of a group. -/
theorem forest_setGroupParent {foreign : ForeignNodes} {fuel : Nat} {r : Status × SchedDb sc}
    (h : Forest db.tree) (hsafe : GroupMoveSafe db oid parent)
    (hr : setGroupParent db foreign fuel oid parent = some r) :
    Forest r.2.tree ∧ SameLive db r.2 := by
  have hdone : ∀ {db₁ : SchedDb sc} {g : SchedGroup}, db₁.groups.lookup oid = some g →
      IsSchedGroup oid → SameLive db db₁ →
      Forest { db₁.tree with parent := update db₁.tree.parent oid (some parent) } →
      updateQueues foreign (fun node _ => node = oid) fuel oid.lchip
        (queueIndexes.map fun i => (oid.value, i))
        { db₁ with groups := db₁.groups.insert oid { g with parentId := parent } } = some r →
      Forest r.2.tree ∧ SameLive db r.2 := by
    intro db₁ g hg hoid hlive hforest hup
    rw [← tree_setParentId hoid hg] at hforest
    have hsame := sameTree_updateQueues _ hforest hup
    refine ⟨by rw [hsame.tree]; exact hforest, ?_⟩
    intro x
    rw [hsame.groups]
    exact (sameLive_insert hg x).trans (hlive x)
  rw [setGroupParent] at hr
  split at hr
  · cases hr
    exact ⟨h, .refl db⟩
  cases hg : db.groups.lookup oid with
  | none =>
    rw [hg] at hr
    cases hr
    exact ⟨h, .refl db⟩
  | some g =>
  have hoid := h.isGroup hg
  have hparent := parent_group hoid hg
  rw [hg] at hr
  dsimp only at hr
  by_cases hnull : parent = Oid.null
  · rw [if_pos hnull] at hr
    rcases h.top hparent hoid with hp | hp | hp
    · rw [hp, delChild_null] at hr
      cases hr
      exact ⟨h, .refl db⟩
    · rw [delChild_port hp] at hr
      dsimp only at hr
      rw [hg, Option.getD_some] at hr
      refine hdone hg hoid (.refl db) (h.clear ?_ ?_ ?_) hr
      · rw [hparent]
        exact idle_some (port_ne_group hp)
      · rw [hnull]
        exact idle_some null_ne_group
      · rw [hnull]
        exact fun p hp' => (Option.some.inj hp').symm
    obtain ⟨q, hq, hl⟩ := h.parent_live hg hp
    have hne : oid ≠ g.parentId := fun he => absurd (h.links.rank hparent hp) (by rw [← he]; omega)
    have hg₁ : (db.without g.parentId q oid).groups.lookup oid = some g := by
      rw [SchedDb.without, lookup_insert_ite, if_neg hne]
      exact hg
    rw [delChild_group hp hq] at hr
    dsimp only at hr
    rw [hg₁, Option.getD_some] at hr
    refine hdone hg₁ hoid (sameLive_insert hl) (h.unplace hparent hl ?_ ?_) hr
    · rw [hnull]
      exact idle_some null_ne_group
    · rw [hnull]
      exact fun p hp' => (Option.some.inj hp').symm
  · rw [if_neg hnull] at hr
    have hsafe := hsafe.resolve_left hnull g hg
    have hcases := addChild_cases db oid.lchip parent oid
    cases hadd : addChild db oid.lchip parent oid with
    | mk st db₁ =>
    rw [hadd] at hr
    have hlive := sameLive_addChild hadd
    by_cases hst : st = .success
    · subst hst
      dsimp only at hr
      have hidle : Idle IsSchedGroup (db.tree.parent oid) ∨ db.tree.parent oid = some parent := by
        rw [hparent]
        rcases hsafe with hs | hs | hs
        · exact .inl (idle_some hs)
        · exact .inr (congrArg some hs)
        · exact absurd (parentTakes_of_addChild hadd) hs
      obtain ⟨g₁, hg₁⟩ : ∃ g₁, db₁.groups.lookup oid = some g₁ := by
        rw [← Option.isSome_iff_exists, hlive oid, hg]
        rfl
      rw [hg₁, Option.getD_some] at hr
      exact hdone hg₁ hoid hlive (h.place hidle hadd) hr
    · have hsame : r = (st, db₁) := by
        split at hr
        · next heq => exact absurd (congrArg Prod.fst heq) hst
        · cases hr
          rfl
      rcases hcases with ⟨_, _, he, -⟩ | ⟨he, -⟩ | ⟨-, -, _, _, -, -, he⟩
      · rw [hadd] at he
        cases he
        rw [hsame]
        exact ⟨h, .refl db⟩
      · rw [hadd] at he
        exact absurd (congrArg Prod.fst he) hst
      · rw [hadd] at he
        exact absurd (congrArg Prod.fst he) hst

/-- `create` of a group comes to its parent. -/
structure CreateReaches (db : SchedDb sc) (mem : RecordMem) (c : Lchip)
    (attrs : List SchedGroupAttr) (level : BitVec 8) (port parent : Oid) (i : Nat) : Prop where
  chip : sc.known c = true
  levelGiven : findAttribInList SchedGroupAttr.level? attrs = some level
  levelOk : level.toNat < 3
  portGiven : findAttribInList SchedGroupAttr.portId? attrs = some port
  portOk : port.type = ObjectType.port.bits
  given : parentGiven level port attrs = .ok parent
  childs : ∃ n, findAttribInList SchedGroupAttr.maxChilds? attrs = some n ∧
    n.toNat ≤ schedLevelChilds level
  free : getFreeGroupIndex db c port.value level = some i
  memory : mem.record = true ∧ mem.property = true

/-- A group that is created gets its parent. -/
def GroupCreateSafe (db : SchedDb sc) (mem : RecordMem) (c : Lchip)
    (attrs : List SchedGroupAttr) : Prop :=
  ∀ level port parent i, CreateReaches db mem c attrs level port parent i →
    ParentTakes db c parent (schedGroupOid c level (BitVec.ofNat 16 i) port.value)

theorem getFreeGroupIndex_some {gport : BitVec 32} {level : BitVec 8} {i : Nat}
    (h : getFreeGroupIndex db c gport level = some i) : i < schedLevelGroups level ∧
      db.groups.lookup (schedGroupOid c level (BitVec.ofNat 16 i) gport) = none := by
  have hmem := List.mem_of_find?_eq_some h
  have hnone := List.find?_some h
  exact ⟨List.mem_range.mp hmem, Option.isNone_iff_eq_none.mp hnone⟩

theorem ParentTakes.made {r : SchedGroup} (h : ParentTakes db c parent oid)
    (hnone : db.groups.lookup oid = none) :
    parent ≠ oid ∧ ParentTakes { db with groups := db.groups.insert oid r } c parent oid ∨
      parent.type = ObjectType.port.bits := by
  rcases h with hport | ⟨hp, hlevel, g, hg, hin⟩
  · exact .inr hport
  obtain ⟨hc, hl⟩ := lookup_of_group hg
  have hne : parent ≠ oid := by
    rintro rfl
    rw [hl] at hnone
    cases hnone
  refine .inl ⟨hne, .inr ⟨hp, hlevel, g, ?_, hin⟩⟩
  rw [SchedDb.group, if_pos hc, lookup_insert_ite, if_neg hne]
  exact hl

theorem getOrMake_memory {mem : RecordMem} {r : SchedGroup × Table Oid SchedGroup}
    (hnone : db.groups.lookup oid = none)
    (hmade : getOrMake mem SchedGroup.zero db.groups oid = .ok r) :
    mem.record = true ∧ mem.property = true := by
  rw [getOrMake, hnone] at hmade
  dsimp only at hmade
  split at hmade
  · cases hmade
  · next hm => simpa using hm

/-- `create` of a group is refused and changes nothing, or it comes to its parent with a
blank record under a free id. -/
theorem createSchedGroup_cases (db : SchedDb sc) (mem : RecordMem) (c : Lchip)
    (attrs : List SchedGroupAttr) :
    ((createSchedGroup db mem c attrs).2.1 = none ∧ (createSchedGroup db mem c attrs).2.2 = db) ∨
      ∃ level port parent i maxChilds schedId, CreateReaches db mem c attrs level port parent i ∧
        ∀ oid d₁, schedGroupOid c level (BitVec.ofNat 16 i) port.value = oid →
          addChild { db with groups := db.groups.insert oid .zero } c parent oid =
            (.success, d₁) →
          createSchedGroup db mem c attrs = (.success, some oid, { d₁ with
            groups := d₁.groups.insert oid { (d₁.groups.lookup oid).getD .zero with
              maxChilds := maxChilds, parentId := parent, schedId := schedId } }) := by
  rw [createSchedGroup]
  split
  · exact .inl ⟨rfl, rfl⟩
  next hchip =>
  rw [Bool.not_eq_true', Bool.not_eq_false] at hchip
  cases hlevel : findAttribInList SchedGroupAttr.level? attrs with
  | none => exact .inl ⟨rfl, rfl⟩
  | some level =>
  dsimp only
  split
  · exact .inl ⟨rfl, rfl⟩
  next hlt =>
  rw [Nat.not_le] at hlt
  cases hport : findAttribInList SchedGroupAttr.portId? attrs with
  | none => exact .inl ⟨rfl, rfl⟩
  | some port =>
  dsimp only
  split
  · exact .inl ⟨rfl, rfl⟩
  next hportOk =>
  rw [not_not] at hportOk
  cases hparent : parentGiven level port attrs with
  | error st => exact .inl ⟨rfl, rfl⟩
  | ok parent =>
  dsimp only
  cases hchilds : findAttribInList SchedGroupAttr.maxChilds? attrs with
  | none => exact .inl ⟨rfl, rfl⟩
  | some maxChilds =>
  dsimp only
  split
  · exact .inl ⟨rfl, rfl⟩
  next hmax =>
  rw [Nat.not_lt] at hmax
  cases hfree : getFreeGroupIndex db c port.value level with
  | none => exact .inl ⟨rfl, rfl⟩
  | some i =>
  have hnone := (getFreeGroupIndex_some hfree).2
  dsimp only
  cases hmade : getOrMake mem SchedGroup.zero db.groups
      (schedGroupOid c level (BitVec.ofNat 16 i) port.value) with
  | error st => exact .inl ⟨rfl, rfl⟩
  | ok r =>
  obtain ⟨z, groups⟩ := r
  rcases getOrMake_cases hmade with ⟨hl, -⟩ | ⟨-, -, rfl⟩
  · rw [hnone] at hl
    cases hl
  refine .inr ⟨level, port, parent, i, maxChilds,
    (findAttribInList SchedGroupAttr.schedulerProfileId? attrs).getD Oid.null,
    ⟨hchip, hlevel, hlt, hport, hportOk, hparent, ⟨maxChilds, hchilds, hmax⟩, hfree,
      getOrMake_memory hnone hmade⟩, ?_⟩
  rintro oid d₁ rfl hadd
  dsimp only
  rw [hadd]

/-- A record that is blank hangs below nothing. -/
theorem forest_makeGroup (h : Forest db.tree) (hoid : IsSchedGroup oid)
    (hshape : SchedGroupShape oid) (hnone : db.groups.lookup oid = none) :
    Forest ({ db with groups := db.groups.insert oid .zero } : SchedDb sc).tree := by
  have hidle : db.tree.parent oid = none := by
    show db.parentOf oid = none
    rw [parentOf_group hoid, hnone]
    rfl
  rw [tree_setGroup hoid]
  refine (h.make hoid hshape (kids_none hnone) 0).clear ?_ (idle_some null_ne_group)
    fun p hp => (Option.some.inj hp).symm
  dsimp only
  rw [hidle]
  exact idle_none

/-- A parent that takes a group takes it with its blank record. -/
theorem ParentTakes.blank (h : ParentTakes db c parent oid) (hoid : IsSchedGroup oid)
    (hnone : db.groups.lookup oid = none) :
    parent ≠ oid ∧
      ParentTakes { db with groups := db.groups.insert oid .zero } c parent oid := by
  rcases h.made hnone with hfits | hport
  · exact hfits
  · refine ⟨?_, .inl hport⟩
    rintro rfl
    exact port_ne_group hport hoid

theorem addChild_taken (ht : ParentTakes db c parent oid) (hne : parent ≠ oid)
    (hg : db.groups.lookup oid = some g) : ∃ d₁, addChild db c parent oid = (.success, d₁) ∧
      d₁.groups.lookup oid = some g ∧ SameLive db d₁ := by
  rcases addChild_cases db c parent oid with ⟨_, -, -, hnot⟩ | ⟨he, -⟩ | ⟨-, -, q, hq, -, -, he⟩
  · exact absurd ht hnot
  · exact ⟨_, he, hg, .refl db⟩
  · refine ⟨_, he, ?_, sameLive_insert (lookup_of_group hq).2⟩
    rw [lookup_insert_ite, if_neg hne.symm]
    exact hg

/-- The record of a group without children is written: its parent and its room. -/
theorem forest_writeGroup (hoid : IsSchedGroup oid) (hg : db.groups.lookup oid = some g)
    (hnil : g.childList = [])
    (h : Forest { db.tree with parent := update db.tree.parent oid (some parent) })
    (maxChilds : BitVec 8) (schedId : Oid) :
    Forest ({ db with groups := db.groups.insert oid { g with
      maxChilds := maxChilds, parentId := parent, schedId := schedId } } : SchedDb sc).tree := by
  have hkids : db.tree.kids oid = some g.childList := kids_eq hg
  rw [tree_setGroup hoid]
  dsimp only
  rw [← hkids, update_eq_self]
  exact {
    links := h.links.resize fun l hl => by
      dsimp only at hl
      rw [hkids, hnil] at hl
      cases hl
      exact Nat.zero_le _
    chip := h.chip
    top := h.top
    shape := h.shape }

/-- What `create` of a group does when its parent takes it. -/
theorem forest_createSchedGroup {mem : RecordMem} {attrs : List SchedGroupAttr}
    (h : Forest db.tree) (hsafe : GroupCreateSafe db mem c attrs) :
    ((createSchedGroup db mem c attrs).2.1 = none ∧ (createSchedGroup db mem c attrs).2.2 = db) ∨
      ∃ oid db', createSchedGroup db mem c attrs = (.success, some oid, db') ∧
        db.groups.lookup oid = none ∧ Forest db'.tree ∧
        ∀ x, (db'.groups.lookup x).isSome ↔ x = oid ∨ (db.groups.lookup x).isSome := by
  rcases createSchedGroup_cases db mem c attrs with
    hno | ⟨level, port, parent, i, maxChilds, schedId, hreach, hmade⟩
  · exact .inl hno
  obtain ⟨hi, hnone⟩ := getFreeGroupIndex_some hreach.free
  have htakes := hsafe level port parent i hreach
  generalize hoid : schedGroupOid c level (BitVec.ofNat 16 i) port.value = oid at hnone htakes
  have hgroup : IsSchedGroup oid := by
    rw [← hoid]
    rfl
  have hshape : SchedGroupShape oid := ⟨c, level, i, port.value, hreach.levelOk, hi, hoid.symm⟩
  have hoidChip : oid.lchip = c := by
    rw [← hoid, schedGroupOid, lchip_createObjectId]
  have hforest₀ := forest_makeGroup h hgroup hshape hnone
  obtain ⟨hne, htakes₀⟩ := htakes.blank hgroup hnone
  have hzero : (db.groups.insert oid SchedGroup.zero).lookup oid = some .zero := by
    rw [lookup_insert_ite, if_pos rfl]
  obtain ⟨d₁, hadd, hzero₁, hlive₁⟩ := addChild_taken htakes₀ hne hzero
  have hplaced : Forest { d₁.tree with
      parent := update d₁.tree.parent oid (some parent) } := by
    refine hforest₀.place (.inl ?_) (by rw [hoidChip]; exact hadd)
    rw [parent_group hgroup hzero]
    exact idle_some null_ne_group
  refine .inr ⟨oid, _, hmade oid d₁ hoid hadd, hnone, ?_, fun x => ?_⟩
  · rw [hzero₁, Option.getD_some]
    exact forest_writeGroup hgroup hzero₁ rfl hplaced maxChilds schedId
  · have hlive : ∀ r : SchedGroup, ((d₁.groups.insert oid r).lookup x).isSome =
        ((db.groups.insert oid .zero).lookup x).isSome :=
      fun _ => (sameLive_insert hzero₁ x).trans (hlive₁ x)
    rw [hlive, lookup_insert_ite]
    split
    · next hx => exact ⟨fun _ => .inl hx, fun _ => rfl⟩
    · next hx => exact ⟨.inr, fun h => h.resolve_left hx⟩

theorem removeSchedGroup_cases (h : Forest db.tree) (hg : db.groups.lookup oid = some g) :
    (g.parentId = Oid.null ∧ removeSchedGroup db oid = (.invalidObjectType, db)) ∨
      g.parentId ≠ Oid.null ∧ ∃ db₁ : SchedDb sc,
        removeSchedGroup db oid = (.success, { db₁ with groups := db₁.groups.erase oid }) ∧
        SameLive db db₁ ∧
        (g.childList = [] → Forest ({ db₁ with groups := db₁.groups.erase oid } :
          SchedDb sc).tree) := by
  have hoid := h.isGroup hg
  have hparent := parent_group hoid hg
  have hdrop : ∀ {db₁ : SchedDb sc}, db₁.tree.kids oid = some g.childList →
      Forest { db₁.tree with parent := update db₁.tree.parent oid none } →
      g.childList = [] → Forest ({ db₁ with groups := db₁.groups.erase oid } :
        SchedDb sc).tree := by
    intro db₁ hk hf hnil
    rw [hnil] at hk
    rw [tree_eraseGroup hoid]
    exact hf.drop hk 0
  rw [removeSchedGroup, if_neg (not_not.mpr (show oid.type = _ from hoid)), hg]
  dsimp only
  rcases h.top hparent hoid with hp | hp | hp
  · refine .inl ⟨hp, ?_⟩
    rw [hp, delChild_null]
  · refine .inr ⟨?_, db, ?_, .refl db, hdrop (kids_eq hg) (h.clear ?_ idle_none (by rintro _ ⟨⟩))⟩
    · intro hnull
      rw [hnull] at hp
      exact absurd hp (by decide)
    · rw [delChild_port hp]
    · rw [hparent]
      exact idle_some (port_ne_group hp)
  obtain ⟨q, hq, hl⟩ := h.parent_live hg hp
  have hne : oid ≠ g.parentId := fun he => absurd (h.links.rank hparent hp) (by rw [← he]; omega)
  refine .inr ⟨?_, db.without g.parentId q oid, ?_, sameLive_insert hl,
    hdrop (kids_eq (g := g) ?_) (h.unplace hparent hl idle_none (by rintro _ ⟨⟩))⟩
  · intro hnull
    rw [hnull] at hp
    exact null_ne_group hp
  · rw [delChild_group hp hq]
  · rw [SchedDb.without, lookup_insert_ite, if_neg hne]
    exact hg

/-! ## Runs -/

/-- `ctc_sai_scheduler_group_port_get_sched_group_list`, what it collects. -/
def portGetSchedGroupList (db : SchedDb sc) (port : Oid) : List Oid :=
  (List.range 3).flatMap fun level =>
    ((List.range (schedLevelGroups (BitVec.ofNat 8 level))).map fun i =>
      schedGroupOid port.lchip (BitVec.ofNat 8 level) (BitVec.ofNat 16 i) port.value).filter
        fun oid => (db.groups.lookup oid).isSome

/-- The calls that change the hierarchy. -/
inductive SchedTreeCall where
  | create (mem : RecordMem) (c : Lchip) (attrs : List SchedGroupAttr)
  | remove (oid : Oid)
  | setParent (foreign : ForeignNodes) (fuel : Nat) (oid parent : Oid)
  | setQueueParent (mem : RecordMem) (foreign : ForeignNodes) (queueId oid : Oid)

/-- The database, and the groups that were created and not removed. -/
structure SchedTreeRun (sc : SchedulerChip) where
  db : SchedDb sc
  made : Finset Oid

def schedTreeStep (s : SchedTreeRun sc) : SchedTreeCall → Option (SchedTreeRun sc)
  | .create mem c attrs =>
    let r := createSchedGroup s.db mem c attrs
    some ⟨r.2.2, match r.2.1 with
      | some oid => insert oid s.made
      | none => s.made⟩
  | .remove oid =>
    let r := removeSchedGroup s.db oid
    some ⟨r.2, if r.1 = .success then s.made.erase oid else s.made⟩
  | .setParent foreign fuel oid parent =>
    (setGroupParent s.db foreign fuel oid parent).map fun r => ⟨r.2, s.made⟩
  | .setQueueParent mem foreign queueId oid =>
    some ⟨(setQueueParent s.db mem foreign queueId oid).2, s.made⟩

/-- The start of a run: no groups. -/
structure SchedTreeStart (s : SchedTreeRun sc) : Prop where
  groups : s.db.groups = ∅
  queues : ∀ k q, s.db.queues.lookup k = some q → q.schGrp = Oid.null
  made : s.made = ∅

def SchedTreeSafe (s : SchedTreeRun sc) : SchedTreeCall → Prop
  | .create mem c attrs => GroupCreateSafe s.db mem c attrs
  | .remove oid => ∀ g, s.db.groups.lookup oid = some g → g.parentId ≠ Oid.null →
      g.childList = []
  | .setParent _ _ oid parent => GroupMoveSafe s.db oid parent
  | .setQueueParent _ foreign queueId oid => QueueMoveSafe s.db foreign queueId oid

/-- The hierarchy is a forest of the groups that were created and not removed. -/
structure SchedForest (s : SchedTreeRun sc) : Prop where
  children : ∀ p g, s.db.groups.lookup p = some g →
    g.childList.Nodup ∧ ∀ x, x ∈ g.childList ↔ s.db.parentOf x = some p
  room : ∀ p g, s.db.groups.lookup p = some g → g.childList.length ≤ g.maxChilds.toNat
  level : ∀ x p, s.db.parentOf x = some p → IsSchedGroup x → IsSchedGroup p →
    p.subType < x.subType
  live : ∀ x p, s.db.parentOf x = some p → IsSchedGroup p → (s.db.groups.lookup p).isSome
  made : ∀ x, (s.db.groups.lookup x).isSome ↔ x ∈ s.made
  ofPort : ∀ port x : Oid, x ∈ portGetSchedGroupList s.db port ↔
    x ∈ s.made ∧ x.lchip = port.lchip ∧ x.value = port.value
  climb : WellFounded fun p x => s.db.parentOf x = some p ∧ IsSchedGroup p
  walk : ∀ c hit fuel x, schedRank x + 2 ≤ fuel →
    (walkParents s.db (fun _ => none) c hit fuel x).isSome

/-- A group with children stays, and one without goes. -/
def RemovesRight (db : SchedDb sc) (oid : Oid) (g : SchedGroup) : Prop :=
  (g.childList ≠ [] → ((removeSchedGroup db oid).2.groups.lookup oid).isSome) ∧
    (g.childList = [] → (removeSchedGroup db oid).1 = .success ∧
      ¬ ((removeSchedGroup db oid).2.groups.lookup oid).isSome)

/-- A group without a parent cannot be removed, and one with a parent can. -/
theorem removesRight_iff (h : Forest db.tree) (hg : db.groups.lookup oid = some g) :
    RemovesRight db oid g ↔ (g.childList = [] ↔ g.parentId ≠ Oid.null) := by
  rw [RemovesRight]
  rcases removeSchedGroup_cases h hg with ⟨hp, he⟩ | ⟨hp, db₁, he, -, -⟩
  · rw [he]
    dsimp only
    rw [hg]
    constructor
    · rintro ⟨-, hnil⟩
      exact ⟨fun hc => absurd (hnil hc).1 nofun, fun hne => absurd hp hne⟩
    · intro hiff
      exact ⟨fun _ => rfl, fun hc => absurd hp (hiff.mp hc)⟩
  have hgone : (({ db₁ with groups := db₁.groups.erase oid } : SchedDb sc).groups.lookup oid) =
      none := by
    rw [lookup_erase_ite, if_pos rfl]
  rw [he]
  dsimp only
  dsimp only at hgone
  rw [hgone]
  constructor
  · rintro ⟨hcons, -⟩
    exact ⟨fun _ => hp, fun _ => by_contra fun hc => absurd (hcons hc) nofun⟩
  · intro hiff
    exact ⟨fun hc => absurd (hiff.mpr hp) hc, fun _ => ⟨rfl, nofun⟩⟩

theorem walkParents_ends (h : Forest db.tree) (hit : Oid → Oid → Bool) (fuel : Nat) :
    ∀ x, schedRank x + 2 ≤ fuel → (walkParents db (fun _ => none) c hit fuel x).isSome := by
  induction fuel with
  | zero =>
    intro x hx
    omega
  | succ n ih =>
    intro x hx
    rw [walkParents]
    by_cases hgroup : IsSchedGroup x
    · have hnode : db.node (fun _ => none) c x =
          (db.group c x).map fun g => (g.schedId, g.parentId) := if_pos hgroup
      rw [hnode]
      cases hg : db.group c x with
      | none => rfl
      | some g =>
        dsimp only [Option.map_some]
        split
        · rfl
        have hparent := parent_group hgroup (lookup_of_group hg).2
        by_cases hp : IsSchedGroup g.parentId
        · have hlt := h.links.rank hparent hp
          exact ih _ (by omega)
        obtain ⟨n, rfl⟩ : ∃ n', n = n' + 1 := ⟨n - 1, by omega⟩
        have hnode : db.node (fun _ => none) c g.parentId = none := if_neg hp
        rw [walkParents, hnode]
        rfl
    · have hnode : db.node (fun _ => none) c x = none := if_neg hgroup
      rw [hnode]
      rfl

theorem mem_portGetSchedGroupList (h : Forest db.tree) (port x : Oid) :
    x ∈ portGetSchedGroupList db port ↔
      (db.groups.lookup x).isSome ∧ x.lchip = port.lchip ∧ x.value = port.value := by
  rw [portGetSchedGroupList, List.mem_flatMap]
  constructor
  · rintro ⟨level, -, hx⟩
    obtain ⟨hx, hl⟩ := List.mem_filter.mp hx
    obtain ⟨i, -, rfl⟩ := List.mem_map.mp hx
    refine ⟨hl, ?_, rfl⟩
    rw [schedGroupOid, lchip_createObjectId]
  · rintro ⟨hl, hc, hv⟩
    obtain ⟨g, hg⟩ := Option.isSome_iff_exists.mp hl
    obtain ⟨c', level, i, gport, hlevel, hi, rfl⟩ := h.shape (by rw [kids_eq hg]; rfl)
    rw [schedGroupOid, lchip_createObjectId] at hc
    have hlv : BitVec.ofNat 8 level.toNat = level := by
      rw [BitVec.ofNat_toNat, BitVec.setWidth_eq]
    refine ⟨level.toNat, List.mem_range.mpr hlevel, List.mem_filter.mpr ⟨?_, hl⟩⟩
    rw [hlv]
    refine List.mem_map.mpr ⟨i, List.mem_range.mpr hi, ?_⟩
    rw [← hc, ← hv]
    rfl

/-- The forest of a run, and what was created. -/
structure TreeInv (s : SchedTreeRun sc) : Prop where
  forest : Forest s.db.tree
  made : ∀ x, (s.db.groups.lookup x).isSome ↔ x ∈ s.made

variable {s s' : SchedTreeRun sc}

theorem SchedTreeStart.inv (h : SchedTreeStart s) : TreeInv s := by
  have hkids : ∀ x l, s.db.tree.kids x ≠ some l := by
    intro x l hl
    obtain ⟨g, hg, -⟩ := lookup_of_kids hl
    rw [h.groups] at hg
    cases hg
  have hidle : ∀ x p, s.db.tree.parent x = some p → p = Oid.null := by
    intro x p hp
    have hp' : s.db.parentOf x = some p := hp
    rw [SchedDb.parentOf, h.groups] at hp'
    split at hp'
    · obtain ⟨q, hq, rfl⟩ := Option.map_eq_some_iff.mp hp'
      exact h.queues x q hq
    · split at hp'
      · cases hp'
      · cases hp'
  have hno : ∀ x p, s.db.tree.parent x = some p → ¬ IsSchedGroup p := by
    intro x p hp
    rw [hidle x p hp]
    exact null_ne_group
  refine ⟨⟨⟨?_, ?_, ?_, ?_, ?_, ?_⟩, ?_, ?_, ?_⟩, ?_⟩
  · exact fun hl => absurd hl (hkids _ _)
  · exact fun hl => absurd hl (hkids _ _)
  · exact fun hl => absurd hl (hkids _ _)
  · exact fun hl => absurd hl (hkids _ _)
  · exact fun hp hg => absurd hg (hno _ _ hp)
  · exact fun hp hg => absurd hg (hno _ _ hp)
  · exact fun hp hg => absurd hg (hno _ _ hp)
  · exact fun hp _ => .inl (hidle _ _ hp)
  · intro x hx
    obtain ⟨l, hl⟩ := Option.isSome_iff_exists.mp hx
    exact absurd hl (hkids x l)
  · intro x
    rw [h.groups, h.made]
    exact ⟨by rintro ⟨⟩, fun hx => absurd hx (Finset.notMem_empty x)⟩

theorem TreeInv.step (h : TreeInv s) {a : SchedTreeCall} (hsafe : SchedTreeSafe s a)
    (hstep : schedTreeStep s a = some s') : TreeInv s' := by
  cases a with
  | create mem c attrs =>
    cases hstep
    rcases forest_createSchedGroup h.forest hsafe with ⟨hnone, hsame⟩ |
      ⟨oid, db', he, hnew, hforest, hlive⟩
    · constructor
      · rw [hsame]
        exact h.forest
      · intro x
        rw [hsame, hnone]
        exact h.made x
    · rw [he]
      refine ⟨hforest, fun x => ?_⟩
      rw [hlive, h.made, Finset.mem_insert]
  | remove oid =>
    cases hstep
    cases hg : s.db.groups.lookup oid with
    | none =>
      have he : ∃ st, st ≠ .success ∧ removeSchedGroup s.db oid = (st, s.db) := by
        rw [removeSchedGroup]
        split
        · exact ⟨.invalidObjectId, by decide, rfl⟩
        · rw [hg]
          exact ⟨.itemNotFound, by decide, rfl⟩
      obtain ⟨st, hst, he⟩ := he
      rw [he]
      dsimp only
      rw [if_neg hst]
      exact h
    | some g =>
      rcases removeSchedGroup_cases h.forest hg with ⟨-, he⟩ | ⟨hp, db₁, he, hlive, hforest⟩
      · rw [he]
        exact h
      rw [he]
      refine ⟨hforest (hsafe g hg hp), fun x => ?_⟩
      dsimp only
      rw [if_pos rfl, lookup_erase_ite, Finset.mem_erase, ← h.made, ← hlive x]
      split
      · next hx => exact ⟨by rintro ⟨⟩, fun hf => absurd hx hf.1⟩
      · next hx => exact (and_iff_right hx).symm
  | setParent foreign fuel oid parent =>
    obtain ⟨r, hr, rfl⟩ := Option.map_eq_some_iff.mp hstep
    obtain ⟨hforest, hlive⟩ := forest_setGroupParent h.forest hsafe hr
    refine ⟨hforest, fun x => ?_⟩
    rw [← h.made x, ← hlive x]
  | setQueueParent mem foreign queueId oid =>
    cases hstep
    obtain ⟨hforest, hlive⟩ := @forest_setQueueParent _ _ _ _ foreign mem h.forest hsafe
    refine ⟨hforest, fun x => ?_⟩
    rw [← h.made x, ← hlive x]

theorem TreeInv.schedForest (h : TreeInv s) : SchedForest s where
  children p g hg := ⟨h.forest.links.nodup (kids_eq hg), h.forest.links.mem (kids_eq hg)⟩
  room p g hg := by
    rw [← room_eq hg]
    exact h.forest.links.room (kids_eq hg)
  level x p hp hx hg := by
    have hlt := h.forest.links.rank hp hg
    rw [schedRank, schedRank, if_neg (queue_ne_group hg), if_neg (queue_ne_group hx)] at hlt
    exact hlt
  live x p hp hg := by
    obtain ⟨l, hl⟩ := Option.isSome_iff_exists.mp (h.forest.links.live hp hg)
    obtain ⟨g, hg, -⟩ := lookup_of_kids hl
    rw [hg]
    rfl
  made := h.made
  ofPort port x := by
    rw [mem_portGetSchedGroupList h.forest, h.made]
  climb := h.forest.links.wellFounded
  walk _ hit fuel := walkParents_ends h.forest hit fuel

/-- In every run whose calls lose no link the hierarchy is a forest of the groups created and
not removed, and a group is removed right exactly when it is childless and has a parent or has
children and none. -/
theorem schedForest_of_run
    (h : Reachable SchedTreeStart SchedTreeSafe schedTreeStep s) : SchedForest s ∧
      ∀ oid g, s.db.groups.lookup oid = some g →
        (RemovesRight s.db oid g ↔ (g.childList = [] ↔ g.parentId ≠ Oid.null)) := by
  have hinv : TreeInv s := h.inv (fun _ hs => hs.inv) fun _ _ _ hs hsafe hstep => hs.step hsafe hstep
  exact ⟨hinv.schedForest, fun oid g hg => removesRight_iff hinv.forest hg⟩

/-! ## Runs on one port -/

def SchedTreeRun.initial : SchedTreeRun .plain := ⟨SchedDb.initial .plain, ∅⟩

theorem SchedTreeRun.initial_start : SchedTreeStart SchedTreeRun.initial where
  groups := rfl
  queues _ _ h := by cases h
  made := rfl

/-- A group of a level of the port, with room for two. -/
def groupBelow (level : BitVec 8) (parent : Oid) : List SchedGroupAttr :=
  [.level level, .portId schedPort, .parentNode parent, .maxChilds 2]

/-- The group of the port with a level and an index. -/
def portGroup (level : BitVec 8) (index : BitVec 16) : Oid := schedGroupOid 0 level index 3

/-- A group below the port, a group below it, a queue that comes and goes, and the lower group
is removed. -/
theorem schedForest_of_run_removed : ∃ s : SchedTreeRun .plain, SchedForest s ∧
    s.made = {portGroup 0 0} := by
  have r₀ : Reachable SchedTreeStart SchedTreeSafe schedTreeStep SchedTreeRun.initial :=
    .start SchedTreeRun.initial_start
  have r₁ := r₀.next (.create .ok 0 (groupBelow 0 schedPort)) (by
    intro level port parent i hr
    have hlevel := hr.levelGiven
    have hgiven := hr.given
    have hport := hr.portGiven
    cases hlevel
    cases hport
    cases hgiven
    exact .inl rfl) rfl
  have r₂ := r₁.next (.create .ok 0 (groupBelow 1 (portGroup 0 0))) (by
    intro level port parent i hr
    have hlevel := hr.levelGiven
    have hgiven := hr.given
    have hport := hr.portGiven
    cases hlevel
    cases hport
    cases hgiven
    have hlt : (0 : BitVec 3) < 1 := by decide
    exact .inr ⟨rfl, .inr hlt, _, rfl, .inr ⟨by decide, .inl rfl⟩⟩) rfl
  have r₃ := r₂.next (.setQueueParent .ok (fun _ => none) schedQueue (portGroup 1 0))
    (by exact .inr fun q hq => nomatch hq) rfl
  have r₄ := r₃.next (.setQueueParent .ok (fun _ => none) schedQueue Oid.null) (by exact .inl rfl) rfl
  have r₅ := r₄.next (.remove (portGroup 1 0)) (by
    intro g hg _
    cases hg
    rfl) rfl
  exact ⟨_, (schedForest_of_run r₅).1, by decide⟩

/-- A queue that moves from one group to another stays in the list of the first; a group whose
parent does not take it stays; a group goes with its children; and a childless group without a
parent cannot be removed. -/
theorem schedForest_not_every_run :
    (∃ s : SchedTreeRun .plain, Reachable SchedTreeStart anyStep schedTreeStep s ∧
      ∃ g, s.db.groups.lookup (portGroup 1 0) = some g ∧ schedQueue ∈ g.childList ∧
        s.db.parentOf schedQueue = some (portGroup 1 1)) ∧
    (∃ s : SchedTreeRun .plain, Reachable SchedTreeStart anyStep schedTreeStep s ∧
      portGroup 1 0 ∈ portGetSchedGroupList s.db schedPort ∧ s.made = ∅) ∧
    (∃ s : SchedTreeRun .plain, Reachable SchedTreeStart anyStep schedTreeStep s ∧
      s.db.parentOf schedQueue = some (portGroup 1 0) ∧
      s.db.groups.lookup (portGroup 1 0) = none) ∧
    (∃ s : SchedTreeRun .plain, Reachable SchedTreeStart anyStep schedTreeStep s ∧
      ∃ g, s.db.groups.lookup (portGroup 0 0) = some g ∧ g.childList = [] ∧
        (removeSchedGroup s.db (portGroup 0 0)).1 = .invalidObjectType) := by
  have r₀ : Reachable SchedTreeStart anyStep schedTreeStep SchedTreeRun.initial :=
    .start SchedTreeRun.initial_start
  have r₁ := r₀.next (.create .ok 0 (groupBelow 1 schedPort)) trivial rfl
  have r₂ := r₁.next (.create .ok 0 (groupBelow 1 schedPort)) trivial rfl
  have r₃ := r₂.next (.setQueueParent .ok (fun _ => none) schedQueue (portGroup 1 0)) trivial rfl
  have r₄ := r₃.next (.setQueueParent .ok (fun _ => none) schedQueue (portGroup 1 1)) trivial rfl
  have r₅ := r₀.next (.create .ok 0 (groupBelow 1 (portGroup 0 0))) trivial rfl
  have r₆ := r₃.next (.remove (portGroup 1 0)) trivial rfl
  have r₇ := r₀.next (.create .ok 0 (groupBelow 0 schedPort)) trivial rfl
  have r₈ := r₇.next (.setParent (fun _ => none) 4 (portGroup 0 0) Oid.null) trivial rfl
  exact ⟨⟨_, r₄, _, rfl, by decide, rfl⟩, ⟨_, r₅, by decide, rfl⟩, ⟨_, r₆, rfl, rfl⟩,
    ⟨_, r₈, _, rfl, rfl, rfl⟩⟩

end CtcSai
