/-
# `SchedulerRegsMoves` — the registers after a group or a queue has moved

A group with a new parent has new tops for the queues attached to it, and the loop that follows
attaches them once more.  A queue with a new parent leaves one path and comes to another.
-/
import CtcSai.SchedulerRegsSteps

namespace CtcSai

open KeyedTable WriteLogs Table

variable {sc : SchedulerChip} {pq : Lchip → BitVec 8} {db db' : SchedDb sc} {c : Lchip}
  {k G x y oid : Oid} {foreign : ForeignNodes} {fuel : Nat} {regs : SchedReg → BitVec 8}

/-! ## The parent of a group -/

/-- Lists of children are written; of the others nothing is lost but `child`. -/
structure ListsWritten (db db' : SchedDb sc) (child : Oid) : Prop where
  record : ∀ y g, db.groups.lookup y = some g → ∃ g', db'.groups.lookup y = some g' ∧
    g'.schedId = g.schedId ∧ g'.parentId = g.parentId ∧
      ∀ k ∈ g.childList, k ≠ child → k ∈ g'.childList
  absent : ∀ y, db.groups.lookup y = none → db'.groups.lookup y = none
  schedulers : db'.schedulers = db.schedulers
  queues : db'.queues = db.queues
  hw : db'.hw = db.hw

namespace ListsWritten

variable {child : Oid}

theorem refl (db : SchedDb sc) (child : Oid) : ListsWritten db db child :=
  ⟨fun _ g hg => ⟨g, hg, rfl, rfl, fun _ hk _ => hk⟩, fun _ hn => hn, rfl, rfl, rfl⟩

theorem insert {parent : Oid} {g : SchedGroup} (hg : db.groups.lookup parent = some g)
    {l : List Oid} (type : BitVec 7) (hl : ∀ k ∈ g.childList, k ≠ child → k ∈ l) :
    ListsWritten db { db with
      groups := db.groups.insert parent { g with childList := l, childType := type } } child where
  record y g' hg' := by
    rw [lookup_insert_ite]
    split
    · next he =>
      subst he
      cases hg.symm.trans hg'
      exact ⟨_, rfl, rfl, rfl, hl⟩
    · exact ⟨g', hg', rfl, rfl, fun _ hk _ => hk⟩
  absent y hn := by
    rw [lookup_insert_ite]
    split
    · next he =>
      subst he
      cases hg.symm.trans hn
    · exact hn
  schedulers := rfl
  queues := rfl
  hw := rfl

theorem link (h : ListsWritten db db' child) : db'.link = db.link := by
  funext c y
  simp only [SchedDb.link, SchedDb.group]
  split
  · cases hg : db.groups.lookup y with
    | none => rw [h.absent y hg]
    | some g =>
      obtain ⟨g', hg', hs, hp, -⟩ := h.record y g hg
      rw [hg', Option.map_some, Option.map_some, hs, hp]
  · rfl

theorem view (h : ListsWritten db db' child) : SameView db db' := by
  refine ⟨h.link, funext fun c => funext fun s => funext fun b => ?_, fun a => by rw [h.queues]⟩
  rw [SchedDb.nodeWeight, SchedDb.nodeWeight, SchedDb.scheduler, SchedDb.scheduler, h.schedulers]

theorem listed (h : ListsWritten db db' child) (ht : PathTree pq db) (hb : db.Below k G)
    (hne : k ≠ child) : ∃ g, db'.groups.lookup G = some g ∧ k ∈ g.childList := by
  obtain ⟨g, hg, hmem⟩ := ht.listed k G hb
  obtain ⟨g', hg', -, -, hkids⟩ := h.record G g hg
  exact ⟨g', hg', hkids k hmem hne⟩

theorem keys (h : ListsWritten db db' child) (ht : GroupKeys db) : GroupKeys db' := by
  intro p g hg
  cases hp : db.groups.lookup p with
  | none => cases (h.absent p hp).symm.trans hg
  | some g' => exact ht p g' hp

theorem live (h : ListsWritten db db' child) (ht : LiveLinks db) : LiveLinks db' := by
  intro c x s p hl hs
  rw [h.link] at hl
  obtain ⟨t, ht'⟩ := ht c x s p hl hs
  exact ⟨t, by rw [SchedDb.scheduler, h.schedulers]; exact ht'⟩

end ListsWritten

theorem addChild_lists (db : SchedDb sc) (c : Lchip) (parent child : Oid) :
    ListsWritten db (addChild db c parent child).2 child := by
  rcases addChild_cases db c parent child with ⟨st, -, he, -⟩ | ⟨he, -⟩ | ⟨-, -, g, hg, -, -, he⟩
  · rw [he]
    exact .refl db child
  · rw [he]
    exact .refl db child
  · rw [he]
    exact .insert (lookup_of_group hg).2 _ fun k hk _ => List.mem_append_left _ hk

theorem mem_delFromList {l : List Oid} {child : Oid} (hk : k ∈ l) (hne : k ≠ child) :
    k ∈ delFromList l child := by
  by_cases hmem : child ∈ l
  · obtain ⟨a, b, rfl, hnot⟩ := List.eq_append_cons_of_mem hmem
    have hk' : k ∈ a ∨ k ∈ b := by
      rw [List.mem_append, List.mem_cons] at hk
      exact hk.imp_right fun h => h.resolve_left hne
    rcases List.eq_nil_or_concat b with rfl | ⟨b, last, rfl⟩
    · rw [delFromList_last hnot]
      exact hk'.resolve_right List.not_mem_nil
    rw [List.concat_eq_append] at hk' ⊢
    rw [delFromList_middle hnot, List.mem_append, List.mem_cons]
    rcases hk' with h | h
    · exact .inl h
    · rcases List.mem_append.mp h with h | h
      · exact .inr (.inr h)
      · exact .inr (.inl (List.mem_singleton.mp h))
  · rw [delFromList_of_notMem hmem]
    exact hk

theorem delChild_lists (db : SchedDb sc) (c : Lchip) (parent child : Oid) :
    ListsWritten db (delChild db c parent child).2 child := by
  rw [delChild]
  split
  · cases hg : db.group c parent with
    | none => exact .refl db child
    | some g =>
      exact .insert (lookup_of_group hg).2 g.childType fun k hk hne => mem_delFromList hk hne
  · split
    · exact .refl db child
    · exact .refl db child

/-- A group moves to a parent on its port; when queues are attached to the group itself, the
new parent is there, has a profile unless the old one's weight is that of none, and gives no
class of theirs to others. -/
structure ReparentSafe (db : SchedDb sc) (x parent : Oid) : Prop where
  samePort : ∀ l, db.link x.lchip parent = some l → parent.value = x.value
  there : ∀ k, db.Below k x → x.subType = 2 → ∃ l, db.link x.lchip parent = some l
  weight : ∀ k old, db.Below k x → x.subType = 2 → db.topOf x.lchip x = some old →
    db.Plain x.lchip parent → db.weightOf x.lchip old = 1
  sameTop : ∀ k k' G' r, db.Below k x → x.subType = 2 → db.Below k' G' → G' ≠ x →
    r ∈ pathRegs sc k x → r ∈ pathRegs sc k' G' → db.topOf k'.lchip G' = some parent

/-- The groups below `x` have a new top, and nothing else has changed. -/
structure Reparented (db db' : SchedDb sc) (x parent : Oid) : Prop where
  link : ∀ c y, db'.link c y =
    if y = x then (db.link c y).map fun l => (l.1, parent) else db.link c y
  weight : db'.nodeWeight = db.nodeWeight
  queues : ∀ a, db'.queues.lookup a = db.queues.lookup a
  hw : db'.hw = db.hw

section Reparent

variable {parent : Oid}

theorem ListsWritten.reparented {db₁ : SchedDb sc} (h : ListsWritten db db₁ x) {g : SchedGroup}
    (hg : db₁.groups.lookup x = some g) (parent : Oid) :
    Reparented db { db₁ with groups := db₁.groups.insert x { g with parentId := parent } }
      x parent where
  link c y := by
    rw [link_insert, h.link]
    by_cases hy : y = x
    · subst hy
      rw [if_pos rfl]
      split
      · next hc =>
        have hl := link_of_lookup hc.2 hg
        rw [h.link] at hl
        rw [hl]
        rfl
      next hc =>
      have hl : db.link c y = none := by
        rw [SchedDb.link, SchedDb.group, if_neg fun he => hc ⟨rfl, he⟩]
        rfl
      rw [hl]
      rfl
    · rw [if_neg hy, if_neg fun hf => hy hf.1]
  weight := h.view.weight
  queues a := by rw [h.queues]
  hw := h.hw

namespace Reparented

theorem below (h : Reparented db db' x parent) : db'.Below k G ↔ db.Below k G := by
  rw [SchedDb.Below, SchedDb.Below, h.queues]

theorem weightOf (h : Reparented db db' x parent) : db'.weightOf c y = db.weightOf c y := by
  rw [SchedDb.weightOf, SchedDb.weightOf, h.weight, h.link]
  split
  · cases db.link c y with
    | none => rfl
    | some l => rfl
  · rfl

theorem isSome (h : Reparented db db' x parent) :
    (∃ l, db'.link c y = some l) ↔ ∃ l, db.link c y = some l := by
  rw [h.link]
  split
  · simp only [Option.map_eq_some_iff]
    exact ⟨fun ⟨_, l, hl, _⟩ => ⟨l, hl⟩, fun ⟨l, hl⟩ => ⟨_, l, hl, rfl⟩⟩
  · exact Iff.rfl

theorem plain (h : Reparented db db' x parent) (hp : db'.Plain c y) : db.Plain c y := by
  obtain ⟨s, p, hl, hn⟩ := hp
  rw [h.weight] at hn
  rw [h.link] at hl
  split at hl
  · obtain ⟨l, hl', he⟩ := Option.map_eq_some_iff.mp hl
    cases he
    exact ⟨l.1, l.2, hl', hn⟩
  · exact ⟨s, p, hl, hn⟩

theorem topOf_of_ne (h : Reparented db db' x parent) (hne : ¬ (G = x ∧ G.subType = 2)) :
    db'.topOf c G = db.topOf c G := by
  rw [SchedDb.topOf, SchedDb.topOf]
  split
  · rfl
  split
  · next h2 => rw [h.link, if_neg fun he => hne ⟨he, h2⟩]
  · rfl

theorem topOf_self (h : Reparented db db' x parent) (hlevel : x.subType = 2)
    (hx : ∃ l, db.link c x = some l) : db'.topOf c x = some parent := by
  obtain ⟨l, hl⟩ := hx
  rw [SchedDb.topOf, if_neg (by rw [hlevel]; decide), if_pos hlevel, h.link, if_pos rfl, hl]
  rfl

theorem wholePath_of_ne (h : Reparented db db' x parent) (hne : ¬ (G = x ∧ G.subType = 2))
    (hpath : WholePath db c G) : WholePath db' c G := by
  intro y hy
  rw [h.topOf_of_ne hne] at hy
  exact h.isSome.mpr (hpath y hy)

theorem pathTree (h : Reparented db db' x parent) (ht : PathTree pq db) (hkeys : GroupKeys db')
    (hlive : LiveLinks db')
    (hlisted : ∀ k G, db.Below k G → ∃ g, db'.groups.lookup G = some g ∧ k ∈ g.childList)
    (hsafe : ReparentSafe db x parent) : PathTree pq db' where
  keys := hkeys
  live := hlive
  queues k q hq := ht.queues k q (h.queues k ▸ hq)
  onPort c y s p l hl hp := by
    obtain ⟨l', hp'⟩ := h.isSome.mp ⟨l, hp⟩
    rw [h.link] at hl
    split at hl
    · next he =>
      obtain ⟨l₀, hl₀, he₀⟩ := Option.map_eq_some_iff.mp hl
      cases he₀
      subst he
      obtain ⟨g, hg, rfl, -⟩ := link_lookup hl₀
      exact hsafe.samePort l' hp'
    · exact ht.onPort c y s p l' hl hp'
  whole k G hb := by
    have hb' := h.below.mp hb
    have hpath := ht.whole k G hb'
    by_cases hx : G = x ∧ G.subType = 2
    · obtain ⟨rfl, hlevel⟩ := hx
      intro y hy
      rw [h.topOf_self hlevel (hpath G (.inl rfl))] at hy
      rcases hy with rfl | hy
      · exact h.isSome.mpr (hpath y (.inl rfl))
      · cases hy
        rw [(ht.onOwnPort hb').2.1]
        exact h.isSome.mpr (hsafe.there k hb' hlevel)
    · exact h.wholePath_of_ne hx hpath
  listed k G hb := hlisted k G (h.below.mp hb)
  sameTop k G k' G' hb hb' r hr hr' := by
    have hb₁ := h.below.mp hb
    have hb₂ := h.below.mp hb'
    have hself : ∀ {k : Oid}, db.Below k x → x.subType = 2 → db'.topOf k.lchip x = some parent :=
      fun hb hlevel => h.topOf_self hlevel (ht.whole _ _ hb x (.inl rfl))
    by_cases hx : G = x ∧ G.subType = 2
    · obtain ⟨rfl, hlevel⟩ := hx
      rw [hself hb₁ hlevel]
      by_cases hx' : G' = G
      · subst hx'
        rw [hself hb₂ hlevel]
      · rw [h.topOf_of_ne fun hf => hx' hf.1]
        exact (hsafe.sameTop k k' G' r hb₁ hlevel hb₂ hx' hr hr').symm
    by_cases hx' : G' = x ∧ G'.subType = 2
    · obtain ⟨rfl, hlevel⟩ := hx'
      rw [hself hb₂ hlevel, h.topOf_of_ne hx]
      exact hsafe.sameTop k' k G r hb₂ hlevel hb₁ (fun he => hx ⟨he, he ▸ hlevel⟩) hr' hr
    · rw [h.topOf_of_ne hx, h.topOf_of_ne hx']
      exact ht.sameTop k G k' G' hb₁ hb₂ r hr hr'

theorem afterLoop {hit : Oid → Oid → Bool} {l : List (BitVec 32 × BitVec 8)}
    {r : Status × SchedDb sc} (h : Reparented db db' x parent) (hinv : PathsInv pq db)
    (ht : PathTree pq db') (hsafe : ReparentSafe db x parent)
    (hruns : Reruns db' foreign hit fuel c l r)
    (hks : ∀ k, db.Below k x → Reapplies db' foreign hit fuel c l k) : PathsInv pq r.2 := by
  refine ⟨hruns.same.pathTree ht, hruns.quiet, hruns.same.view.regsRight
    (ht.regsRight hruns.rewritten (fun k G hb r hr hnot => ?_) fun r hfree => ?_)⟩
  · have hb' := h.below.mp hb
    have hpath := hinv.tree.whole k G hb'
    rw [h.hw, hinv.right.path k G hb' r hr]
    by_cases hx : G = x ∧ G.subType = 2
    · -- the queue was attached once more: what is not written is a weight without a profile
      obtain ⟨rfl, hlevel⟩ := hx
      obtain ⟨y, hy, hplain⟩ := exists_plain (ht.whole k G hb) hr (hnot k G (hks k hb') hb)
      rw [hy.fresh_eq (ht.whole k G hb) hr, weightOf_plain hplain]
      have htop := h.topOf_self hlevel (hpath G (.inl rfl))
      rcases hy with ⟨rfl, -, rfl⟩ | ⟨hreg, htop'⟩
      · have hy : db.Weighs k y y _ := .inl ⟨rfl, hlevel, rfl⟩
        rw [hy.fresh_eq hpath hr, ← h.weightOf, weightOf_plain hplain]
      cases htop.symm.trans htop'
      obtain ⟨old, hold⟩ := topOf_of_mem hpath hr
      have hy : db.Weighs k G old r := .inr ⟨hreg, hold⟩
      have hc := (hinv.tree.onOwnPort hb').2.1
      rw [hy.fresh_eq hpath hr]
      rw [hc] at hold hplain ⊢
      exact hsafe.weight k old hb' hlevel hold (h.plain hplain)
    · exact (fresh_congr hpath (ht.whole k G hb) (h.topOf_of_ne hx) hr fun y _ => h.weightOf).symm
  · rw [h.hw]
    exact hinv.right.rest r fun k G hb => hfree k G (h.below.mpr hb)

end Reparented

end Reparent

/-- What is written when a group moves, before the queues are attached once more. -/
def SchedDb.moveGroup (db : SchedDb sc) (x : Oid) (g : SchedGroup) (parent : Oid) : SchedDb sc :=
  let db := (if parent = Oid.null then delChild db x.lchip g.parentId x
    else addChild db x.lchip parent x).2
  { db with groups := db.groups.insert x { (db.groups.lookup x).getD g with parentId := parent } }

/-- The queues of the port of a group. -/
def groupQueues (x : Oid) : List (BitVec 32 × BitVec 8) := queueIndexes.map fun i => (x.value, i)

section SetParent

variable {parent : Oid} {r : Status × SchedDb sc}

theorem PathTree.moveGroup (h : PathTree pq db) {g : SchedGroup} (hg : db.groups.lookup x = some g)
    (hsafe : ReparentSafe db x parent) :
    Reparented db (db.moveGroup x g parent) x parent ∧ PathTree pq (db.moveGroup x g parent) := by
  have hlists : ListsWritten db (if parent = Oid.null then delChild db x.lchip g.parentId x
      else addChild db x.lchip parent x).2 x := by
    split
    · exact delChild_lists db x.lchip g.parentId x
    · exact addChild_lists db x.lchip parent x
  rw [SchedDb.moveGroup]
  obtain ⟨g₁, hg₁, hs, -, -⟩ := hlists.record x g hg
  rw [hg₁]
  have hmoved := hlists.reparented hg₁ parent
  refine ⟨hmoved, hmoved.pathTree h (fun p g' hp => ?_) (fun c y s p hl hne => ?_)
    (fun k G hb => ?_) hsafe⟩
  · rcases of_lookup_insert hp with ⟨he, -⟩ | ⟨-, hp⟩
    · exact he ▸ h.keys x g hg
    · exact hlists.keys h.keys p g' hp
  · rw [hmoved.link] at hl
    have hold : ∃ p, db.link c y = some (s, p) := by
      split at hl
      · obtain ⟨l, hl', he⟩ := Option.map_eq_some_iff.mp hl
        cases he
        exact ⟨l.2, hl'⟩
      · exact ⟨p, hl⟩
    obtain ⟨p', hl'⟩ := hold
    rw [← hlists.link] at hl'
    exact hlists.live h.live c y s p' hl' hne
  · have hk : k ≠ x := by
      rintro rfl
      obtain ⟨⟨c, p, -, i, -, rfl⟩, -⟩ := h.onOwnPort hb
      exact queue_ne_group (h.keys _ g hg) type_portQueue
    obtain ⟨g', hg', hmem⟩ := hlists.listed h hb hk
    rw [lookup_insert_ite]
    split
    · next he =>
      subst he
      cases hg₁.symm.trans hg'
      exact ⟨_, rfl, hmem⟩
    · exact ⟨g', hg', hmem⟩

/-- The old parent is left for none, or the new one takes the group. -/
def GroupMoves (db : SchedDb sc) (x parent : Oid) : Prop :=
  ∃ g, db.groups.lookup x = some g ∧
    if parent = Oid.null then IsSchedGroup g.parentId ∨ g.parentId.type = ObjectType.port.bits
    else ParentTakes db x.lchip parent x

/-- A call changes nothing and fails, or comes to the queues. -/
theorem PathTree.setParent_cases (h : PathTree pq db) (hquiet : db.hw.answers = [])
    (hsafe : GroupMoves db x parent → ReparentSafe db x parent)
    (hr : setGroupParent db foreign fuel x parent = some r) :
    (r.2 = db ∧ r.1 ≠ .success) ∨ ∃ g, db.groups.lookup x = some g ∧ GroupMoves db x parent ∧
      Reruns (db.moveGroup x g parent) foreign (fun node _ => node = x) fuel x.lchip
        (groupQueues x) r := by
  rw [setGroupParent] at hr
  split at hr
  · cases hr
    exact .inl ⟨rfl, by rintro ⟨⟩⟩
  cases hg : db.groups.lookup x with
  | none =>
    rw [hg] at hr
    cases hr
    exact .inl ⟨rfl, by rintro ⟨⟩⟩
  | some g =>
    rw [hg] at hr
    dsimp only at hr
    have hfail : ∀ {st : Status} {db₁ : SchedDb sc}, st ≠ .success →
        (if parent = Oid.null then delChild db x.lchip g.parentId x
          else addChild db x.lchip parent x) = (st, db₁) → db₁ = db := by
      intro st db₁ hst he
      split at he
      · rw [delChild] at he
        split at he
        · split at he
          · cases he
            exact absurd rfl hst
          · cases he
            exact absurd rfl hst
        split at he
        · cases he
          rfl
        · cases he
          rfl
      rcases addChild_cases db x.lchip parent x with ⟨st', -, he', -⟩ | ⟨he', -⟩ |
        ⟨-, -, g', -, -, -, he'⟩
      · cases he'.symm.trans he
        rfl
      · cases he'.symm.trans he
        rfl
      · cases he'.symm.trans he
        exact absurd rfl hst
    split at hr
    · next db₁ he =>
      have hmoves : GroupMoves db x parent := by
        refine ⟨g, hg, ?_⟩
        split
        · next hnull =>
          rw [if_pos hnull, delChild] at he
          split at he
          · next hgroup => exact .inl hgroup
          split at he
          · next hport => exact .inr hport
          · cases he
        · next hne =>
          rw [if_neg hne] at he
          exact parentTakes_of_addChild he
      obtain ⟨hmoved, htree⟩ := h.moveGroup hg (hsafe hmoves)
      have hquiet' : (db.moveGroup x g parent).hw.answers = [] := by
        rw [hmoved.hw]
        exact hquiet
      refine .inr ⟨g, rfl, hmoves, htree.updateQueues _ hquiet' ?_⟩
      rw [SchedDb.moveGroup, he]
      exact hr
    · next hne =>
      cases hr
      have hst : (if parent = Oid.null then delChild db x.lchip g.parentId x
          else addChild db x.lchip parent x).1 ≠ .success := fun hs => hne _ (Prod.ext hs rfl)
      exact .inl ⟨hfail hst rfl, hst⟩

theorem PathsInv.setParent (h : PathsInv pq db)
    (hsafe : GroupMoves db x parent → ReparentSafe db x parent)
    (hr : setGroupParent db foreign fuel x parent = some r) : PathsInv pq r.2 := by
  rcases h.tree.setParent_cases h.quiet hsafe hr with ⟨he, -⟩ | ⟨g, hg, hmoves, hruns⟩
  · rw [he]
    exact h
  obtain ⟨hmoved, htree⟩ := h.tree.moveGroup hg (hsafe hmoves)
  refine hmoved.afterLoop h htree (hsafe hmoves) hruns fun k hb => ?_
  obtain ⟨-, hc, hv⟩ := h.tree.onOwnPort hb
  obtain ⟨l, hl⟩ := h.tree.whole k x hb x (.inl rfl)
  obtain ⟨l', hl'⟩ := hmoved.isSome.mpr ⟨l, hl⟩
  obtain ⟨hx, q, hq, he⟩ := hmoved.below.mpr hb
  have hne : q.schGrp ≠ Oid.null := fun hn => null_ne_group (hn ▸ he ▸ hx)
  obtain ⟨-, hi, -⟩ := htree.visited hq hne
  have hmem : (k.value, k.value2.setWidth 8) ∈ groupQueues x :=
    List.mem_map.mpr ⟨_, hi, by rw [hv]⟩
  rw [← hc] at hruns ⊢
  refine htree.reapplies_of_hit hq hmem hruns.ends ?_
  rw [he]
  exact ⟨x, l'.1, l'.2, .here x, hl', decide_eq_true rfl⟩

end SetParent

/-! ## The group of a queue -/

/-- What is not written of the old path of a queue is on another path too, or has its default. -/
def LeavesClean (db : SchedDb sc) (k : Oid) (written : SchedReg → Prop) : Prop :=
  ∀ G, db.Below k G → ∀ r ∈ pathRegs sc k G, ¬ written r →
    (∃ k' G', k' ≠ k ∧ db.Below k' G' ∧ r ∈ pathRegs sc k' G') ∨ db.fresh k G r = defaultReg r

/-- A group takes a queue: it has room, the groups above it are there, the classes of the queue are
nobody else's with another top, and nothing is left of the old path. -/
structure GroupGets (db : SchedDb sc) (k oid : Oid) : Prop where
  takes : ParentTakes db k.lchip oid k
  whole : WholePath db k.lchip oid
  sameTop : ∀ k' G' r, k' ≠ k → db.Below k' G' → r ∈ pathRegs sc k oid →
    r ∈ pathRegs sc k' G' → db.topOf k.lchip oid = db.topOf k'.lchip G'
  leaves : LeavesClean db k (· ∈ keys (db.queueWrites k oid true))

/-- A queue may be detached when nobody else has a class of its path, or has it as it is at
first. -/
def DetachSafe (db : SchedDb sc) (k : Oid) : Prop :=
  ∀ G k' G' r, db.Below k G → k' ≠ k → db.Below k' G' → r ∈ pathRegs sc k G →
    r ∈ pathRegs sc k' G' → db.fresh k' G' r = defaultReg r

/-- A queue of a port gets another parent on this port, or none. -/
def AttachSafe (db : SchedDb sc) (k oid : Oid) : Prop :=
  if oid = Oid.null then DetachSafe db k
  else k.lchip = oid.lchip → k.value = oid.value →
    (IsSchedGroup oid → (∃ l, db.link k.lchip oid = some l) → GroupGets db k oid) ∧
      (oid.type = ObjectType.port.bits → LeavesClean db k fun _ => False)

/-- The queue `k` has the parent `oid`; the groups and the weights are the same. -/
structure QueueMoved (db db' : SchedDb sc) (k oid : Oid) : Prop where
  link : db'.link = db.link
  weight : db'.nodeWeight = db.nodeWeight
  queue : ∃ q, db'.queues.lookup k = some q ∧ q.schGrp = oid ∧ q.schId = 0
  others : ∀ a, a ≠ k → db'.queues.lookup a = db.queues.lookup a

namespace QueueMoved

variable {a : Oid}

theorem below_self (h : QueueMoved db db' k oid) : db'.Below k G ↔ IsSchedGroup G ∧ oid = G := by
  obtain ⟨q, hq, he, -⟩ := h.queue
  constructor
  · rintro ⟨hG, q', hq', rfl⟩
    cases hq.symm.trans hq'
    exact ⟨hG, he.symm⟩
  · rintro ⟨hG, rfl⟩
    exact ⟨hG, q, hq, he⟩

theorem below_ne (h : QueueMoved db db' k oid) (hne : a ≠ k) : db'.Below a G ↔ db.Below a G := by
  rw [SchedDb.Below, SchedDb.Below, h.others a hne]

theorem topOf (h : QueueMoved db db' k oid) : db'.topOf c G = db.topOf c G := by
  rw [SchedDb.topOf, SchedDb.topOf, h.link]

theorem writes (h : QueueMoved db db' k oid) {isAdd : Bool} :
    db'.queueWrites a G isAdd = db.queueWrites a G isAdd := by
  simp only [SchedDb.queueWrites, SchedDb.groupLevelWrites, SchedDb.portLevelWrites, h.link,
    h.weight]

theorem fresh (h : QueueMoved db db' k oid) : db'.fresh a G = db.fresh a G := by
  rw [SchedDb.fresh, SchedDb.fresh, h.writes]

theorem wholePath (h : QueueMoved db db' k oid) (hw : WholePath db c G) : WholePath db' c G := by
  intro x hx
  rw [h.topOf] at hx
  rw [h.link]
  exact hw x hx

theorem pathTree (h : QueueMoved db db' k oid) (ht : PathTree pq db) (hkeys : GroupKeys db')
    (hlive : LiveLinks db') (hport : IsPortQueue sc pq k)
    (hsame : ∀ q : Queue, q.schGrp = oid → SamePort k q)
    (hlisted : ∀ a G, db'.Below a G → ∃ g, db'.groups.lookup G = some g ∧ a ∈ g.childList)
    (hwhole : IsSchedGroup oid → WholePath db k.lchip oid)
    (htop : IsSchedGroup oid → ∀ k' G' r, k' ≠ k → db.Below k' G' → r ∈ pathRegs sc k oid →
      r ∈ pathRegs sc k' G' → db.topOf k.lchip oid = db.topOf k'.lchip G') : PathTree pq db' where
  keys := hkeys
  live := hlive
  queues a q hq := by
    by_cases ha : a = k
    · subst ha
      obtain ⟨q', hq', he, hz⟩ := h.queue
      cases hq.symm.trans hq'
      exact ⟨hz, fun _ => ⟨hport, hsame q he⟩⟩
    · rw [h.others a ha] at hq
      exact ht.queues a q hq
  onPort c x s p l hl hp := by
    rw [h.link] at hl hp
    exact ht.onPort c x s p l hl hp
  whole a G hb := by
    by_cases ha : a = k
    · subst ha
      obtain ⟨hG, rfl⟩ := h.below_self.mp hb
      exact h.wholePath (hwhole hG)
    · exact h.wholePath (ht.whole a G ((h.below_ne ha).mp hb))
  listed := hlisted
  sameTop a G a' G' hb hb' r hr hr' := by
    rw [h.topOf, h.topOf]
    by_cases ha : a = k
    · subst ha
      obtain ⟨hG, rfl⟩ := h.below_self.mp hb
      by_cases ha' : a' = a
      · subst ha'
        rw [(h.below_self.mp hb').2]
      · exact htop hG a' G' r ha' ((h.below_ne ha').mp hb') hr hr'
    have hb₁ := (h.below_ne ha).mp hb
    by_cases ha' : a' = k
    · subst ha'
      obtain ⟨hG, rfl⟩ := h.below_self.mp hb'
      exact (htop hG a G r ha hb₁ hr' hr).symm
    · exact ht.sameTop a G a' G' hb₁ ((h.below_ne ha').mp hb') r hr hr'

theorem old_default (h : QueueMoved db db' k oid) {regs : SchedReg → BitVec 8}
    (hright : RegsRight db regs) {written : SchedReg → Prop} (hclean : LeavesClean db k written)
    {r : SchedReg} (hnot : ¬ written r)
    (hfree : ∀ a G, a ≠ k → db'.Below a G → r ∉ pathRegs sc a G) : regs r = defaultReg r := by
  have hothers : ∀ a G, a ≠ k → db.Below a G → r ∉ pathRegs sc a G :=
    fun a G ha hb => hfree a G ha ((h.below_ne ha).mpr hb)
  by_cases hold : ∃ G, db.Below k G ∧ r ∈ pathRegs sc k G
  · obtain ⟨G, hb, hr⟩ := hold
    rw [hright.path k G hb r hr]
    refine (hclean G hb r hr hnot).resolve_left ?_
    rintro ⟨a, G', ha, hb', hr'⟩
    exact hothers a G' ha hb' hr'
  refine hright.rest r fun a G hb hr => ?_
  by_cases ha : a = k
  · subst ha
    exact hold ⟨G, hb, hr⟩
  · exact hothers a G ha hb hr

theorem attached (h : QueueMoved db db' k oid) (ht : PathTree pq db') (hoid : IsSchedGroup oid)
    (hright : RegsRight db regs)
    (hclean : LeavesClean db k (· ∈ keys (db.queueWrites k oid true))) :
    RegsRight db' (replay regs (db.queueWrites k oid true)) := by
  have hb : db'.Below k oid := h.below_self.mpr ⟨hoid, rfl⟩
  have hw := Rewritten.replay hb regs
  rw [h.writes] at hw
  have hunwritten : ∀ {r : SchedReg}, r ∉ keys (db.queueWrites k oid true) →
      (∀ a G, a ≠ k → db'.Below a G → r ∉ pathRegs sc a G) → regs r = defaultReg r :=
    fun hr hfree => h.old_default hright hclean hr hfree
  refine ht.regsRight hw (fun a G hb' r hr hnot => ?_) fun r hfree => ?_
  · by_cases ha : a = k
    · subst ha
      obtain ⟨-, rfl⟩ := h.below_self.mp hb'
      have hr' := hnot a oid rfl hb
      rw [h.writes] at hr'
      -- nothing is written by the fresh attach either
      have hfresh : db'.fresh a oid r = defaultReg r := by
        rw [h.fresh, SchedDb.fresh, replay_of_not_mem hr']
      by_cases hother : ∃ a' G', a' ≠ a ∧ db'.Below a' G' ∧ r ∈ pathRegs sc a' G'
      · obtain ⟨a', G', ha', hb₁, hr₁⟩ := hother
        rw [ht.fresh_eq hb hb₁ hr hr₁, h.fresh]
        exact hright.path a' G' ((h.below_ne ha').mp hb₁) r hr₁
      · rw [hfresh]
        exact hunwritten hr' fun a' G' ha' hb₁ hr₁ => hother ⟨a', G', ha', hb₁, hr₁⟩
    · rw [h.fresh]
      exact hright.path a G ((h.below_ne ha).mp hb') r hr
  · refine hunwritten (fun hmem => hfree k oid hb ?_) fun a G _ hb' => hfree a G hb'
    rw [← h.writes] at hmem
    exact mem_pathRegs (ht.whole k oid hb) hmem

theorem unwritten (h : QueueMoved db db' k oid) (hoid : ¬ IsSchedGroup oid)
    (hright : RegsRight db regs) (hclean : LeavesClean db k fun _ => False) :
    RegsRight db' regs := by
  refine ⟨fun a G hb r hr => ?_, fun r hfree => ?_⟩
  · by_cases ha : a = k
    · subst ha
      obtain ⟨hG, rfl⟩ := h.below_self.mp hb
      exact absurd hG hoid
    · rw [h.fresh]
      exact hright.path a G ((h.below_ne ha).mp hb) r hr
  · exact h.old_default hright hclean not_false fun a G _ hb => hfree a G hb

theorem detached (h : QueueMoved db db' k Oid.null) (ht : PathTree pq db) (hb : db.Below k G)
    (hright : RegsRight db regs) (hsafe : DetachSafe db k) :
    RegsRight db' (replay regs (db.queueWrites k G false)) := by
  have hpath := ht.whole k G hb
  have hwritten : ∀ {r : SchedReg}, r ∈ keys (db.queueWrites k G false) →
      replay regs (db.queueWrites k G false) r = defaultReg r := by
    intro r hr
    obtain ⟨top, htop⟩ := topOf_of_mem hpath (mem_pathRegs hpath hr)
    exact detached_value (pathShape hpath htop) regs hr
  refine ⟨fun a G' hb' r hr => ?_, fun r hfree => ?_⟩
  · have ha : a ≠ k := by
      rintro rfl
      obtain ⟨hG, rfl⟩ := h.below_self.mp hb'
      exact null_ne_group hG
    have hb₁ := (h.below_ne ha).mp hb'
    rw [h.fresh]
    by_cases hmem : r ∈ keys (db.queueWrites k G false)
    · rw [hwritten hmem]
      exact (hsafe G a G' r hb ha hb₁ (mem_pathRegs hpath hmem) hr).symm
    · rw [replay_of_not_mem hmem]
      exact hright.path a G' hb₁ r hr
  · by_cases hmem : r ∈ keys (db.queueWrites k G false)
    · exact hwritten hmem
    · rw [replay_of_not_mem hmem]
      -- what is not written is the weight of a group without a profile
      have hclean : LeavesClean db k (· ∈ keys (db.queueWrites k G false)) := by
        intro G' hb' r hr hnot
        rw [← Below.unique hb hb'] at hr ⊢
        obtain ⟨y, hy, hplain⟩ := exists_plain hpath hr hnot
        refine .inr ?_
        rw [hy.fresh_eq hpath hr, weightOf_plain hplain]
        rcases hy with ⟨rfl, -⟩ | ⟨⟨grp, cls, rfl⟩, -⟩
        · rfl
        · rfl
      exact h.old_default hright hclean hmem fun a G' _ hb' => hfree a G' hb'

end QueueMoved

section Attach

variable {q : Queue}

theorem queueMoved {db₁ : SchedDb sc} (hlists : ListsWritten db db₁ k) (hw : SchedHw)
    (hz : q.schId = 0) :
    QueueMoved db { db₁ with
      queues := db₁.queues.insert k { q with schGrp := oid }, hw := hw } k oid where
  link := hlists.link
  weight := hlists.view.weight
  queue := ⟨_, AList.lookup_insert _, rfl, hz⟩
  others a ha := by
    rw [lookup_insert_ite, if_neg ha, hlists.queues]

theorem QueueMoved.listed {db₁ : SchedDb sc} (h : QueueMoved db db' k oid) (ht : PathTree pq db)
    (hlists : ListsWritten db db₁ k) (hgroups : db'.groups = db₁.groups)
    (hself : IsSchedGroup oid → ∃ g, db₁.groups.lookup oid = some g ∧ k ∈ g.childList) (a G : Oid)
    (hb : db'.Below a G) : ∃ g, db'.groups.lookup G = some g ∧ a ∈ g.childList := by
  rw [hgroups]
  by_cases ha : a = k
  · subst ha
    obtain ⟨hG, rfl⟩ := h.below_self.mp hb
    exact hself hG
  · exact hlists.listed ht ((h.below_ne ha).mp hb) ha

theorem addChild_takes (h : ParentTakes db c oid k) (hoid : IsSchedGroup oid) :
    (addChild db c oid k).1 = .success ∧
      ∃ g, (addChild db c oid k).2.groups.lookup oid = some g ∧ k ∈ g.childList := by
  rcases addChild_cases db c oid k with ⟨st, -, -, hnot⟩ | ⟨he, hin⟩ | ⟨-, -, g, hg, -, -, he⟩
  · exact absurd h hnot
  · rw [he]
    rcases hin with hport | ⟨-, -, g, hg, hmem⟩
    · exact absurd hoid (port_ne_group hport)
    · exact ⟨rfl, g, (lookup_of_group hg).2, hmem⟩
  · rw [he]
    exact ⟨rfl, _, AList.lookup_insert _, List.mem_append_right _ (List.mem_singleton_self k)⟩

/-- A queue gets another parent. -/
theorem PathsInv.queueSet (h : PathsInv pq db) (hport : IsPortQueue sc pq k)
    (hq : db.queues.lookup k = some q) (hsafe : AttachSafe db k oid) :
    PathsInv pq (groupQueueSetScheduler db foreign k oid).2 := by
  have hz := (h.tree.queues k q hq).1
  have hkind : k.subType ≠ queueTypeMulticast ∧ k.type = ObjectType.queue.bits := by
    obtain ⟨c, p, -, i, -, rfl⟩ := hport
    exact ⟨by rw [subType_portQueue]; exact basicQueueType_ne _, rfl⟩
  have hlists := ListsWritten.refl db k
  -- only the record is written
  have hplain : ¬ IsSchedGroup oid → (∀ q : Queue, q.schGrp = oid → SamePort k q) →
      LeavesClean db k (fun _ => False) → PathsInv pq (db.setSchGrp k q oid) := by
    intro hoid hsame hclean
    have hm : QueueMoved db (db.setSchGrp k q oid) k oid := queueMoved hlists db.hw hz
    refine ⟨hm.pathTree h.tree h.tree.keys h.tree.live hport hsame ?_ (fun hG => absurd hG hoid)
      fun hG => absurd hG hoid, h.quiet, hm.unwritten hoid h.right hclean⟩
    exact hm.listed h.tree hlists rfl fun hG => absurd hG hoid
  rw [groupQueueSetScheduler, if_neg hkind.1, hq]
  dsimp only
  rw [AttachSafe] at hsafe
  split
  · next hne =>
    rw [if_neg hne] at hsafe
    split
    · exact h
    next hc =>
    split
    · exact h
    next hv =>
    obtain ⟨hgets, hleaves⟩ := hsafe (not_not.mp hc) (not_not.mp hv)
    have hsame : oid.type = ObjectType.schedulerGroup.bits ∨ oid.type = ObjectType.port.bits →
        ∀ q : Queue, q.schGrp = oid → SamePort k q := by
      rintro ht q rfl -
      exact ⟨not_not.mp hc, not_not.mp hv, ht⟩
    split
    · next hoid =>
      cases hg : db.group k.lchip oid with
      | none => exact h
      | some g =>
        have hget : GroupGets db k oid := by
          refine hgets hoid ⟨(g.schedId, g.parentId), ?_⟩
          rw [SchedDb.link, hg]
          rfl
        rw [applyQueueToGroup_writes h.tree.live h.quiet hget.whole]
        dsimp only [SchedDb.withHw]
        generalize hregs : replay db.hw.regs (db.queueWrites k oid true) = regs
        obtain ⟨hst, g', hg', hmem⟩ := @addChild_takes sc
          { db with hw := { db.hw with regs := regs } } k.lchip k oid hget.takes hoid
        have hl : ListsWritten { db with hw := { db.hw with regs := regs } } _ k :=
          addChild_lists { db with hw := { db.hw with regs := regs } } k.lchip oid k
        split
        · next db₁ he =>
          rw [he] at hl hg'
          have hl' : ListsWritten db { db₁ with hw := db.hw } k :=
            ⟨hl.record, hl.absent, hl.schedulers, hl.queues, rfl⟩
          have hm : QueueMoved db (db₁.setSchGrp k q oid) k oid := queueMoved hl' db₁.hw hz
          have htree := hm.pathTree h.tree (hl.keys (by exact h.tree.keys))
            (hl.live (by exact h.tree.live)) hport (hsame (.inl hoid))
            (hm.listed h.tree hl' rfl fun _ => ⟨g', hg', hmem⟩) (fun _ => hget.whole)
            fun _ => hget.sameTop
          have hhw : (db₁.setSchGrp k q oid).hw = { db.hw with regs := regs } := hl.hw
          refine ⟨htree, by rw [hhw]; exact h.quiet, ?_⟩
          rw [hhw, ← hregs]
          exact hm.attached htree hoid h.right hget.leaves
        · next hne' => exact (hne' _ (Prod.ext hst rfl)).elim
    · next hoid =>
      split
      · next ht => exact hplain hoid (hsame (.inr ht)) (hleaves ht)
      · exact h
  · next hnull =>
    have hnull' : oid = Oid.null := not_not.mp hnull
    subst hnull'
    split
    · exact h
    next hne =>
    split
    · next hG =>
      have hb : db.Below k q.schGrp := ⟨hG, q, hq, rfl⟩
      have hwhole := h.tree.whole k _ hb
      obtain ⟨g, hg, -⟩ := h.tree.listed k _ hb
      have hc := (h.tree.onOwnPort hb).2.1
      have hgroup : db.group k.lchip q.schGrp = some g := by rw [SchedDb.group, if_pos hc.symm, hg]
      rw [hgroup]
      rw [applyQueueToGroup_writes h.tree.live h.quiet hwhole]
      dsimp only [SchedDb.withHw]
      generalize hregs : replay db.hw.regs (db.queueWrites k q.schGrp false) = regs
      have hst : (delChild { db with hw := { db.hw with regs := regs } } k.lchip q.schGrp k).1 =
          .success := congrArg Prod.fst (delChild_group hG (by exact hgroup))
      have hl : ListsWritten { db with hw := { db.hw with regs := regs } } _ k :=
        delChild_lists { db with hw := { db.hw with regs := regs } } k.lchip q.schGrp k
      split
      · next db₁ he =>
        rw [he] at hl
        have hl' : ListsWritten db { db₁ with hw := db.hw } k :=
          ⟨hl.record, hl.absent, hl.schedulers, hl.queues, rfl⟩
        have hm : QueueMoved db (db₁.setSchGrp k q Oid.null) k Oid.null :=
          queueMoved hl' db₁.hw hz
        have hnone : ∀ {p : Prop}, IsSchedGroup Oid.null → p :=
          fun hf => absurd hf null_ne_group
        have htree := hm.pathTree h.tree (hl.keys (by exact h.tree.keys))
          (hl.live (by exact h.tree.live)) hport (fun _ hq' hn => absurd hq' hn)
          (hm.listed h.tree hl' rfl hnone) hnone hnone
        have hhw : (db₁.setSchGrp k q Oid.null).hw = { db.hw with regs := regs } := hl.hw
        refine ⟨htree, by rw [hhw]; exact h.quiet, ?_⟩
        rw [hhw, ← hregs]
        exact hm.detached h.tree hb h.right hsafe
      · next hne' => exact (hne' _ (Prod.ext hst rfl)).elim
    · next hG =>
      refine hplain null_ne_group (fun q' hq' hn => absurd hq' hn) fun G hb => ?_
      obtain ⟨hG', q', hq', rfl⟩ := hb
      cases hq.symm.trans hq'
      exact absurd hG' hG

theorem PathsInv.makeQueue (h : PathsInv pq db) (hk : db.queues.lookup k = none) :
    (∀ a G, ({ db with queues := db.queues.insert k .zero } : SchedDb sc).Below a G ↔ db.Below a G) ∧
      PathsInv pq { db with queues := db.queues.insert k .zero } := by
  have hbelow : ∀ a G,
      ({ db with queues := db.queues.insert k .zero } : SchedDb sc).Below a G ↔ db.Below a G := by
    intro a G
    simp only [SchedDb.Below, lookup_insert_ite]
    by_cases ha : a = k
    · subst ha
      rw [if_pos rfl, hk]
      constructor
      · rintro ⟨hG, q, hq, rfl⟩
        cases hq
        exact absurd hG null_ne_group
      · rintro ⟨-, q, hq, -⟩
        cases hq
    · rw [if_neg ha]
  refine ⟨hbelow, ⟨?_, h.quiet, fun a G hb => h.right.path a G ((hbelow a G).mp hb), fun r hfree =>
    h.right.rest r fun a G hb => hfree a G ((hbelow a G).mpr hb)⟩⟩
  refine ⟨h.tree.keys, h.tree.live, fun a q hq => ?_, h.tree.onPort, fun a G hb => ?_,
    fun a G hb => ?_, fun a G a' G' hb hb' => ?_⟩
  · rcases of_lookup_insert hq with ⟨-, rfl⟩ | ⟨-, hq⟩
    · exact ⟨rfl, fun hn => absurd rfl hn⟩
    · exact h.tree.queues a q hq
  · exact h.tree.whole a G ((hbelow a G).mp hb)
  · exact h.tree.listed a G ((hbelow a G).mp hb)
  · exact h.tree.sameTop a G a' G' ((hbelow a G).mp hb) ((hbelow a' G').mp hb')

theorem PathsInv.attach (h : PathsInv pq db) (hport : IsPortQueue sc pq k) {mem : RecordMem}
    (hsafe : AttachSafe db k oid) : PathsInv pq (setQueueParent db mem foreign k oid).2 := by
  rw [setQueueParent]
  split
  · exact h
  split
  · exact h
  split
  · exact h
  next q queues hget =>
  rcases getQueueDb_cases hget with ⟨hq, rfl⟩ | ⟨hnone, rfl, rfl⟩
  · exact h.queueSet hport hq hsafe
  obtain ⟨hbelow, hmade⟩ := h.makeQueue hnone
  have hsafe' : AttachSafe { db with queues := db.queues.insert k .zero } k oid := by
    rw [AttachSafe] at hsafe ⊢
    split
    · next hnull =>
      rw [if_pos hnull] at hsafe
      intro G k' G' r hb hne hb'
      exact hsafe G k' G' r ((hbelow k G).mp hb) hne ((hbelow k' G').mp hb')
    next hne =>
    rw [if_neg hne] at hsafe
    intro hc hv
    obtain ⟨hgets, hleaves⟩ := hsafe hc hv
    have hclean : ∀ written, LeavesClean db k written →
        LeavesClean { db with queues := db.queues.insert k .zero } k written := by
      intro written hclean G hb r hr hnot
      refine (hclean G ((hbelow k G).mp hb) r hr hnot).imp_left ?_
      rintro ⟨k', G', hne, hb', hr'⟩
      exact ⟨k', G', hne, (hbelow k' G').mpr hb', hr'⟩
    refine ⟨fun hG hl => ?_, fun ht => hclean _ (hleaves ht)⟩
    have hg := hgets hG hl
    exact ⟨hg.takes, hg.whole, fun k' G' r hne hb' => hg.sameTop k' G' r hne ((hbelow k' G').mp hb'),
      hclean _ hg.leaves⟩
  exact hmade.queueSet hport (AList.lookup_insert _) hsafe'

end Attach

end CtcSai
