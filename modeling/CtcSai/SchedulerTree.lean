/-
# `SchedulerTree` — the hierarchy of scheduler groups

A group or a queue records its parent, and a group lists its children.  Here a database
of the scheduler modules is read as a two-way tree, the two functions that write a list
of children are said in full, and the changes of records that the calls are made of are
shown to keep a forest.
-/
import CtcSai.Lib.TwoWayTree
import CtcSai.SchedulerRuns

namespace CtcSai

open Function KeyedTable TwoWayTree Table

variable {sc : SchedulerChip} {db db' : SchedDb sc} {c : Lchip} {x p k oid parent child : Oid}

/-! ## The tree of a database -/

def IsSchedGroup (oid : Oid) : Prop := oid.type = ObjectType.schedulerGroup.bits

/-- The parent that a queue or a group records. -/
def SchedDb.parentOf (db : SchedDb sc) (x : Oid) : Option Oid :=
  if x.type = ObjectType.queue.bits then (db.queues.lookup x).map Queue.schGrp
  else if x.type = ObjectType.schedulerGroup.bits then
    (db.groups.lookup x).map SchedGroup.parentId
  else none

/-- The level, with the queues below all groups. -/
def schedRank (x : Oid) : Nat :=
  if x.type = ObjectType.queue.bits then 8 else x.subType.toNat

/-- The links between groups and queues. -/
def SchedDb.tree (db : SchedDb sc) : TwoWayTree.Tree Oid where
  parent := db.parentOf
  kids p := (db.groups.lookup p).map SchedGroup.childList
  room p := ((db.groups.lookup p).map fun g => g.maxChilds.toNat).getD 0

theorem queue_ne_group {x : Oid} (hx : IsSchedGroup x) : x.type ≠ ObjectType.queue.bits := by
  rw [hx]
  decide

theorem port_ne_group {x : Oid} (hx : x.type = ObjectType.port.bits) : ¬ IsSchedGroup x := by
  rw [IsSchedGroup, hx]
  decide

theorem null_ne_group : ¬ IsSchedGroup Oid.null := by
  rw [IsSchedGroup]
  decide

variable {g : SchedGroup} {a : List Oid}

theorem addChild_again (hp : IsSchedGroup parent)
    (hlevel : child.type = ObjectType.queue.bits ∨ parent.subType < child.subType)
    (hg : db.group c parent = some g) (hmem : child ∈ g.childList) :
    addChild db c parent child = (.success, db) := by
  refine (if_pos hp).trans ?_
  rw [if_neg]
  · rw [hg]
    exact if_pos hmem
  · rintro ⟨hq, hle⟩
    exact absurd (hlevel.resolve_left hq) (BitVec.not_lt.mpr hle)

theorem parentOf_group (hx : IsSchedGroup x) :
    db.parentOf x = (db.groups.lookup x).map SchedGroup.parentId := by
  rw [SchedDb.parentOf, if_neg (queue_ne_group hx)]
  exact if_pos hx

theorem parentOf_queue (hx : x.type = ObjectType.queue.bits) :
    db.parentOf x = (db.queues.lookup x).map Queue.schGrp := by
  rw [SchedDb.parentOf, if_pos hx]

theorem SameTree.tree (h : SameTree db db') : db'.tree = db.tree := by
  have hp : db'.parentOf = db.parentOf := by
    funext x
    rw [SchedDb.parentOf, SchedDb.parentOf, h.queues, h.groups]
  rw [SchedDb.tree, SchedDb.tree, hp, h.groups]

/-- The tree when one group is written or erased. -/
theorem tree_group (hoid : IsSchedGroup oid) {t : Table Oid SchedGroup} {x : Option SchedGroup}
    (ht : Table.get t = update (Table.get db.groups) oid x) :
    ({ db with groups := t } : SchedDb sc).tree =
      { parent := update db.tree.parent oid (x.map (·.parentId))
        kids := update db.tree.kids oid (x.map (·.childList))
        room := update db.tree.room oid ((x.map (·.maxChilds.toNat)).getD 0) } := by
  have hl : ∀ a, t.lookup a = update (Table.get db.groups) oid x a := congrFun ht
  rw [SchedDb.tree, Tree.mk.injEq]
  refine ⟨funext fun a => ?_, funext fun a => ?_, funext fun a => ?_⟩
  · rcases eq_or_ne a oid with rfl | hne
    · rw [update_self, parentOf_group hoid, hl, update_self]
    · rw [update_of_ne hne]
      show SchedDb.parentOf _ a = db.parentOf a
      rw [SchedDb.parentOf, SchedDb.parentOf, hl, update_of_ne hne]
      rfl
  · rw [hl]
    rcases eq_or_ne a oid with rfl | hne
    · rw [update_self, update_self]
    · rw [update_of_ne hne, update_of_ne hne]
      rfl
  · rw [hl]
    rcases eq_or_ne a oid with rfl | hne
    · rw [update_self, update_self]
    · rw [update_of_ne hne, update_of_ne hne]
      rfl

theorem tree_setGroup (hoid : IsSchedGroup oid) (r : SchedGroup) :
    ({ db with groups := db.groups.insert oid r } : SchedDb sc).tree =
      { parent := update db.tree.parent oid (some r.parentId)
        kids := update db.tree.kids oid (some r.childList)
        room := update db.tree.room oid r.maxChilds.toNat } :=
  tree_group hoid (get_insert db.groups oid r)

theorem tree_room (hg : db.groups.lookup oid = some g) : db.tree.room oid = g.maxChilds.toNat := by
  show ((db.groups.lookup oid).map _).getD 0 = _
  rw [hg]
  rfl

theorem tree_setKids (hoid : IsSchedGroup oid) (hg : db.groups.lookup oid = some g) {r : SchedGroup}
    (hp : r.parentId = g.parentId) (hm : r.maxChilds = g.maxChilds) :
    ({ db with groups := db.groups.insert oid r } : SchedDb sc).tree =
      { db.tree with kids := update db.tree.kids oid (some r.childList) } := by
  have hparent : db.tree.parent oid = some g.parentId := by
    show db.parentOf oid = _
    rw [parentOf_group hoid, hg]
    rfl
  rw [tree_setGroup hoid, hp, hm, ← hparent, ← tree_room hg, update_eq_self, update_eq_self]

theorem tree_setParentId (hoid : IsSchedGroup oid) (hg : db.groups.lookup oid = some g) (p : Oid) :
    ({ db with groups := db.groups.insert oid { g with parentId := p } } : SchedDb sc).tree =
      { db.tree with parent := update db.tree.parent oid (some p) } := by
  have hkids : db.tree.kids oid = some g.childList := by
    show (db.groups.lookup oid).map _ = _
    rw [hg]
    rfl
  rw [tree_setGroup hoid, ← hkids, ← tree_room hg, update_eq_self, update_eq_self]

theorem tree_setQueue (hk : k.type = ObjectType.queue.bits) (q : Queue) :
    ({ db with queues := db.queues.insert k q } : SchedDb sc).tree =
      { db.tree with parent := update db.tree.parent k (some q.schGrp) } := by
  rw [SchedDb.tree, Tree.mk.injEq]
  refine ⟨funext fun x => ?_, rfl, rfl⟩
  rcases eq_or_ne x k with rfl | hne
  · rw [update_self, parentOf_queue hk, lookup_insert_ite, if_pos rfl]
    rfl
  · rw [update_of_ne hne]
    show SchedDb.parentOf _ x = db.parentOf x
    rw [SchedDb.parentOf, SchedDb.parentOf, lookup_insert_ite, if_neg hne]

theorem tree_eraseGroup (hoid : IsSchedGroup oid) :
    ({ db with groups := db.groups.erase oid } : SchedDb sc).tree =
      { parent := update db.tree.parent oid none
        kids := update db.tree.kids oid none
        room := update db.tree.room oid 0 } :=
  tree_group hoid (get_erase db.groups oid)

/-! ## Children -/

def ParentTakes (db : SchedDb sc) (c : Lchip) (parent child : Oid) : Prop :=
  parent.type = ObjectType.port.bits ∨
    IsSchedGroup parent ∧
      (child.type = ObjectType.queue.bits ∨ parent.subType < child.subType) ∧
      ∃ g, db.group c parent = some g ∧ (child ∈ g.childList ∨
        g.childList.length < g.maxChilds.toNat ∧
          (g.childList = [] ∨ g.childType = child.type))

/-- A child that does not fit is not added, and one that does is. -/
theorem addChild_cases (db : SchedDb sc) (c : Lchip) (parent child : Oid) :
    (∃ st, st ≠ .success ∧ addChild db c parent child = (st, db) ∧
        ¬ ParentTakes db c parent child) ∨
      (addChild db c parent child = (.success, db) ∧
        (parent.type = ObjectType.port.bits ∨
          IsSchedGroup parent ∧ (child.type = ObjectType.queue.bits ∨
            parent.subType < child.subType) ∧
            ∃ g, db.group c parent = some g ∧ child ∈ g.childList)) ∨
      IsSchedGroup parent ∧ (child.type = ObjectType.queue.bits ∨
          parent.subType < child.subType) ∧
        ∃ g, db.group c parent = some g ∧ child ∉ g.childList ∧
          g.childList.length < g.maxChilds.toNat ∧
          addChild db c parent child = (.success, { db with
            groups := db.groups.insert parent
              { g with childList := g.childList ++ [child], childType := child.type } }) := by
  have hport : IsSchedGroup parent → parent.type ≠ ObjectType.port.bits := by
    intro hp
    rw [hp]
    decide
  rw [addChild]
  split
  · next hp =>
    split
    · next hlevel =>
      refine .inl ⟨.invalidParameter, by decide, rfl, ?_⟩
      rintro (hpt | ⟨-, hok | hok, -⟩)
      · exact hport hp hpt
      · exact hlevel.1 hok
      · exact absurd hok (BitVec.not_lt.mpr hlevel.2)
    next hlevel =>
    have hok : child.type = ObjectType.queue.bits ∨ parent.subType < child.subType := by
      by_cases hq : child.type = ObjectType.queue.bits
      · exact .inl hq
      · exact .inr (BitVec.not_le.mp fun hle => hlevel ⟨hq, hle⟩)
    cases hg : db.group c parent with
    | none =>
      refine .inl ⟨.itemNotFound, by decide, rfl, ?_⟩
      rintro (hpt | ⟨-, -, g, hg', -⟩)
      · exact hport hp hpt
      · rw [hg] at hg'
        cases hg'
    | some g =>
      dsimp only
      split
      · next hmem => exact .inr (.inl ⟨rfl, .inr ⟨hp, hok, g, rfl, hmem⟩⟩)
      next hmem =>
      split
      · next hfull =>
        refine .inl ⟨.tableFull, by decide, rfl, ?_⟩
        rintro (hpt | ⟨-, -, g', hg', hin | ⟨hroom, -⟩⟩)
        · exact hport hp hpt
        · rw [hg] at hg'
          cases hg'
          exact hmem hin
        · rw [hg] at hg'
          cases hg'
          exact absurd hroom (Nat.not_lt.mpr hfull)
      next hfull =>
      split
      · next htype =>
        refine .inl ⟨.invalidParameter, by decide, rfl, ?_⟩
        rintro (hpt | ⟨-, -, g', hg', hin | ⟨-, hty⟩⟩)
        · exact hport hp hpt
        · rw [hg] at hg'
          cases hg'
          exact hmem hin
        · rw [hg] at hg'
          cases hg'
          exact hty.elim htype.1 htype.2
      · exact .inr (.inr ⟨hp, hok, g, rfl, hmem, Nat.not_le.mp hfull, rfl⟩)
  · next hp =>
    split
    · next hpt => exact .inr (.inl ⟨rfl, .inl hpt⟩)
    next hpt =>
    refine .inl ⟨.invalidObjectType, by decide, rfl, ?_⟩
    rintro (hpt' | ⟨hp', -⟩)
    · exact hpt hpt'
    · exact hp hp'

theorem parentTakes_of_addChild (h : addChild db c parent child = (.success, db')) :
    ParentTakes db c parent child := by
  by_contra hnot
  rcases addChild_cases db c parent child with ⟨st, hst, he, -⟩ | ⟨-, hcase⟩ |
    ⟨hp, hlevel, g, hg, -, hroom, -⟩
  · rw [h] at he
    cases he
    exact hst rfl
  · rcases hcase with hport | ⟨hp, hlevel, g, hg, hmem⟩
    · exact hnot (.inl hport)
    · exact hnot (.inr ⟨hp, hlevel, g, hg, .inl hmem⟩)
  rw [addChild] at h
  rw [if_pos (show parent.type = _ from hp)] at h
  split at h
  · cases h
  rw [hg] at h
  dsimp only at h
  split at h
  · next hmem => exact hnot (.inr ⟨hp, hlevel, g, hg, .inl hmem⟩)
  split at h
  · cases h
  split at h
  · cases h
  · next htype =>
    rw [not_and_or, not_not, not_not] at htype
    exact hnot (.inr ⟨hp, hlevel, g, hg, .inr ⟨hroom, htype⟩⟩)

theorem findIdx_child {b : List Oid} (h : child ∉ a) :
    (a ++ child :: b).findIdx (· = child) = a.length := by
  have hnone : ¬ a.findIdx (· = child) < a.length := by
    rw [List.findIdx_lt_length]
    rintro ⟨y, hy, he⟩
    rw [decide_eq_true_eq] at he
    exact h (he ▸ hy)
  rw [List.findIdx_append, if_neg hnone, List.findIdx_cons, decide_eq_true rfl, cond_true,
    Nat.zero_add]

theorem delFromList_middle {b : List Oid} {last : Oid} (h : child ∉ a) :
    delFromList (a ++ child :: (b ++ [last])) child = a ++ last :: b := by
  have hlast : (a ++ child :: (b ++ [last])).getLast? = some last := by
    rw [← List.cons_append, ← List.append_assoc, List.getLast?_concat]
  have hmem : child ∈ a ++ child :: (b ++ [last]) :=
    List.mem_append_right a (List.mem_cons_self ..)
  rw [delFromList, hlast]
  dsimp only
  rw [if_pos hmem, findIdx_child h, List.set_append_right _ _ (Nat.le_refl _), Nat.sub_self,
    List.set_cons_zero, ← List.cons_append, ← List.append_assoc, List.dropLast_concat]

theorem delFromList_last (h : child ∉ a) : delFromList (a ++ [child]) child = a := by
  rw [delFromList, List.getLast?_concat]
  dsimp only
  rw [if_pos (List.mem_append_right a (List.mem_singleton_self _)), findIdx_child h,
    List.set_append_right _ _ (Nat.le_refl _), Nat.sub_self, List.set_cons_zero,
    List.dropLast_concat]

theorem delFromList_of_notMem {l : List Oid} (h : child ∉ l) : delFromList l child = l := by
  rw [delFromList]
  split
  · rfl
  · exact if_neg h

theorem delFromList_spec {l : List Oid} (hnd : l.Nodup) (child : Oid) :
    (delFromList l child).Nodup ∧ (∀ y, y ∈ delFromList l child ↔ y ∈ l ∧ y ≠ child) ∧
      (delFromList l child).length ≤ l.length := by
  by_cases hmem : child ∈ l
  · obtain ⟨a, b, rfl⟩ := List.append_of_mem hmem
    rw [List.nodup_append, List.nodup_cons] at hnd
    obtain ⟨hna, ⟨hnb, hndb⟩, hab⟩ := hnd
    have hca : child ∉ a := fun hm => hab child hm child (List.mem_cons_self ..) rfl
    have hother : ∀ y, y ∈ a ++ b ↔ y ∈ a ++ child :: b ∧ y ≠ child := by
      intro y
      rw [List.mem_append, List.mem_append, List.mem_cons]
      constructor
      · rintro (hy | hy)
        · exact ⟨.inl hy, fun he => hca (he ▸ hy)⟩
        · exact ⟨.inr (.inr hy), fun he => hnb (he ▸ hy)⟩
      · rintro ⟨hy | hy | hy, hne⟩
        · exact .inl hy
        · exact absurd hy hne
        · exact .inr hy
    have hperm : (delFromList (a ++ child :: b) child).Perm (a ++ b) := by
      rcases List.eq_nil_or_concat b with rfl | ⟨b, last, rfl⟩
      · rw [delFromList_last hca, List.append_nil]
      · rw [List.concat_eq_append, delFromList_middle hca]
        exact (List.perm_append_singleton last b).symm.append_left a
    have hndab : (a ++ b).Nodup :=
      List.nodup_append.mpr ⟨hna, hndb, fun y hy z hz => hab y hy z (List.mem_cons_of_mem _ hz)⟩
    refine ⟨hperm.nodup_iff.mpr hndab, fun y => hperm.mem_iff.trans (hother y), ?_⟩
    rw [hperm.length_eq, List.length_append, List.length_append, List.length_cons]
    omega
  · rw [delFromList_of_notMem hmem]
    refine ⟨hnd, fun y => ⟨fun h => ⟨h, ?_⟩, And.left⟩, Nat.le_refl _⟩
    rintro rfl
    exact hmem h

/-! ## Forests -/

/-- An id that a scheduler group of a port may have. -/
def SchedGroupShape (x : Oid) : Prop :=
  ∃ (c : Lchip) (level : BitVec 8) (i : Nat) (gport : BitVec 32), level.toNat < 3 ∧
    i < schedLevelGroups level ∧ x = schedGroupOid c level (BitVec.ofNat 16 i) gport

/-- The hierarchy is a forest: the links agree, parents are on the chip of their children,
and what a group records as its parent is a group, a port or null. -/
structure Forest (t : TwoWayTree.Tree Oid) : Prop where
  links : WellLinked IsSchedGroup schedRank t
  chip : ∀ {x p}, t.parent x = some p → IsSchedGroup p → p.lchip = x.lchip
  top : ∀ {x p}, t.parent x = some p → IsSchedGroup x →
    p = Oid.null ∨ p.type = ObjectType.port.bits ∨ IsSchedGroup p
  shape : ∀ {x}, (t.kids x).isSome → SchedGroupShape x

variable {t : TwoWayTree.Tree Oid} {l : List Oid}

theorem schedRank_lt (hp : IsSchedGroup parent)
    (hlevel : child.type = ObjectType.queue.bits ∨ parent.subType < child.subType) :
    schedRank parent < schedRank child := by
  rw [schedRank, if_neg (queue_ne_group hp), schedRank]
  split
  · exact parent.subType.isLt
  · next hq => exact hlevel.resolve_left hq

theorem kids_eq (hg : db.groups.lookup p = some g) : db.tree.kids p = some g.childList := by
  show (db.groups.lookup p).map _ = _
  rw [hg]
  rfl

theorem kids_none (hp : db.groups.lookup p = none) : db.tree.kids p = none := by
  show (db.groups.lookup p).map _ = _
  rw [hp]
  rfl

theorem room_eq (hg : db.groups.lookup p = some g) : db.tree.room p = g.maxChilds.toNat := by
  show ((db.groups.lookup p).map _).getD 0 = _
  rw [hg]
  rfl

theorem lookup_of_kids (h : db.tree.kids p = some l) :
    ∃ g, db.groups.lookup p = some g ∧ g.childList = l :=
  Option.map_eq_some_iff.mp h

namespace Forest

theorem isGroup (h : Forest db.tree) {g : SchedGroup} (hg : db.groups.lookup p = some g) :
    IsSchedGroup p := h.links.holder (kids_eq hg)

/-- A child that is hung up, or moved among ports and null. -/
theorem place (h : Forest db.tree) {db₁ : SchedDb sc}
    (hidle : Idle IsSchedGroup (db.tree.parent child) ∨ db.tree.parent child = some parent)
    (hadd : addChild db child.lchip parent child = (.success, db₁)) :
    Forest { db₁.tree with parent := update db₁.tree.parent child (some parent) } := by
  have hchip : ∀ {t : TwoWayTree.Tree Oid}, t.parent = db.tree.parent →
      (IsSchedGroup parent → parent.lchip = child.lchip) → ∀ {x p},
        update t.parent child (some parent) x = some p → IsSchedGroup p →
          p.lchip = x.lchip := by
    intro t ht hc x p hxp hp
    rcases eq_or_ne x child with rfl | hne
    · rw [update_self] at hxp
      cases hxp
      exact hc hp
    · rw [update_of_ne hne, ht] at hxp
      exact h.chip hxp hp
  have htop : ∀ {t : TwoWayTree.Tree Oid}, t.parent = db.tree.parent →
      (parent.type = ObjectType.port.bits ∨ IsSchedGroup parent) → ∀ {x p},
        update t.parent child (some parent) x = some p → IsSchedGroup x →
          p = Oid.null ∨ p.type = ObjectType.port.bits ∨ IsSchedGroup p := by
    intro t ht hc x p hxp hg
    rcases eq_or_ne x child with rfl | hne
    · rw [update_self] at hxp
      cases hxp
      exact .inr hc
    · rw [update_of_ne hne, ht] at hxp
      exact h.top hxp hg
  rcases addChild_cases db child.lchip parent child with ⟨st, hst, he, -⟩ | ⟨he, hcase⟩ |
    ⟨hp, hlevel, g, hg, hnew, hroom, he⟩
  · rw [hadd] at he
    cases he
    exact absurd rfl hst
  · rw [hadd] at he
    cases he
    rcases hcase with hport | ⟨hp, -, g, hg, hmem⟩
    · have hnone : Idle IsSchedGroup (db.tree.parent child) := by
        rcases hidle with hidle | hsame
        · exact hidle
        · rw [hsame]
          exact idle_some (port_ne_group hport)
      exact {
        links := h.links.move hnone (idle_some (port_ne_group hport))
        chip := hchip rfl fun hp => absurd hp (port_ne_group hport)
        top := htop rfl (.inl hport)
        shape := h.shape }
    obtain ⟨hc, hl⟩ := lookup_of_group hg
    have hsame := (h.links.mem (kids_eq hl) child).mp hmem
    rw [← hsame, update_eq_self]
    exact h
  · rw [hadd] at he
    cases he
    obtain ⟨hc, hl⟩ := lookup_of_group hg
    have hnot : Idle IsSchedGroup (db.tree.parent child) := by
      refine hidle.resolve_right fun hsame => hnew ?_
      exact (h.links.mem (kids_eq hl) child).mpr hsame
    rw [tree_setKids hp hl
      (r := { g with childList := g.childList ++ [child], childType := child.type }) rfl rfl]
    have hroom' : g.childList.length < db.tree.room parent := by
      rw [room_eq hl]
      exact hroom
    exact {
      links := h.links.hang hnot (kids_eq hl) hroom' (schedRank_lt hp hlevel)
      chip := hchip rfl fun _ => hc
      top := htop rfl (.inr hp)
      shape := by
        intro x hx
        refine h.shape ?_
        dsimp only at hx
        rcases eq_or_ne x parent with rfl | hne
        · rw [kids_eq hl]
          rfl
        · rwa [update_of_ne hne] at hx }

end Forest

/-- The database after a group has lost a child. -/
def SchedDb.without (db : SchedDb sc) (parent : Oid) (g : SchedGroup) (child : Oid) : SchedDb sc :=
  { db with
    groups := db.groups.insert parent { g with childList := delFromList g.childList child } }

theorem delChild_group (hp : IsSchedGroup parent) (hg : db.group c parent = some g) :
    delChild db c parent child = (.success, db.without parent g child) := by
  refine (if_pos hp).trans ?_
  rw [hg]
  rfl

theorem delChild_port (hp : parent.type = ObjectType.port.bits) :
    delChild db c parent child = (.success, db) := by
  refine (if_neg (port_ne_group hp)).trans ?_
  rw [if_pos hp]

theorem delChild_null : delChild db c Oid.null child = (.invalidObjectType, db) := by
  rw [delChild, if_neg (by decide), if_neg (by decide)]

theorem Forest.unplace (h : Forest db.tree) {o : Option Oid}
    (hx : db.tree.parent child = some parent) (hl : db.groups.lookup parent = some g)
    (ho : Idle IsSchedGroup o) (htop : ∀ p, o = some p → p = Oid.null) :
    Forest { (db.without parent g child).tree with
      parent := update (db.without parent g child).tree.parent child o } := by
  have hp := h.isGroup hl
  obtain ⟨hnd, hmem, hlen⟩ := delFromList_spec (h.links.nodup (kids_eq hl)) child
  rw [SchedDb.without, tree_setKids hp hl
    (r := { g with childList := delFromList g.childList child }) rfl rfl]
  exact {
    links := h.links.unhang (kids_eq hl) hx ho hnd hmem hlen
    chip := by
      intro x p hxp hp
      dsimp only at hxp
      rcases eq_or_ne x child with rfl | hne
      · rw [update_self] at hxp
        exact absurd hp (ho p hxp)
      · rw [update_of_ne hne] at hxp
        exact h.chip hxp hp
    top := by
      intro x p hxp hg
      dsimp only at hxp
      rcases eq_or_ne x child with rfl | hne
      · rw [update_self] at hxp
        exact .inl (htop p hxp)
      · rw [update_of_ne hne] at hxp
        exact h.top hxp hg
    shape := by
      intro x hxk
      refine h.shape ?_
      dsimp only at hxk
      rcases eq_or_ne x parent with rfl | hne
      · rw [kids_eq hl]
        rfl
      · rwa [update_of_ne hne] at hxk }

theorem Forest.clear (h : Forest t) {o : Option Oid} (hx : Idle IsSchedGroup (t.parent x))
    (ho : Idle IsSchedGroup o) (htop : ∀ p, o = some p → p = Oid.null) :
    Forest { t with parent := update t.parent x o } where
  links := h.links.move hx ho
  chip := by
    intro y p hyp hp
    dsimp only at hyp
    rcases eq_or_ne y x with rfl | hne
    · rw [update_self] at hyp
      exact absurd hp (ho p hyp)
    · rw [update_of_ne hne] at hyp
      exact h.chip hyp hp
  top := by
    intro y p hyp hg
    dsimp only at hyp
    rcases eq_or_ne y x with rfl | hne
    · rw [update_self] at hyp
      exact .inl (htop p hyp)
    · rw [update_of_ne hne] at hyp
      exact h.top hyp hg
  shape := h.shape

theorem Forest.make (h : Forest t) (hp : IsSchedGroup p) (hs : SchedGroupShape p)
    (hnew : t.kids p = none) (n : Nat) : Forest { t with
      kids := update t.kids p (some [])
      room := update t.room p n } where
  links := h.links.make hp hnew n
  chip := h.chip
  top := h.top
  shape := by
    intro x hx
    dsimp only at hx
    rcases eq_or_ne x p with rfl | hne
    · exact hs
    · rw [update_of_ne hne] at hx
      exact h.shape hx

theorem Forest.drop (h : Forest t) (hp : t.kids p = some []) (n : Nat) : Forest { t with
      kids := update t.kids p none
      room := update t.room p n } where
  links := h.links.drop hp n
  chip := h.chip
  top := h.top
  shape := by
    intro x hx
    dsimp only at hx
    rcases eq_or_ne x p with rfl | hne
    · rw [update_self] at hx
      cases hx
    · rw [update_of_ne hne] at hx
      exact h.shape hx

end CtcSai
