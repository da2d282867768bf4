/-
# `SchedulerRegs` — which queues are attached once more

Two walks go from the group of a queue to the groups above it, one in search of a group, one in
search of a profile, and a queue below what is looked for is attached once more to its group.
Attaching once more what is attached writes the registers of its path again; nothing else
changes.
-/
import CtcSai.SchedulerPaths
import CtcSai.WdrrClasses

namespace CtcSai

open KeyedTable WriteLogs

variable {sc : SchedulerChip} {pq : Lchip → BitVec 8} {db db' : SchedDb sc} {c : Lchip}
  {k G x y : Oid} {foreign : ForeignNodes} {hit : Oid → Oid → Bool} {fuel : Nat}

/-! ## Walks -/

/-- From a group up to what stands above it, itself included. -/
inductive Climbs (db : SchedDb sc) (c : Lchip) : Oid → Oid → Prop
  | here (x : Oid) : Climbs db c x x
  | up {x s p y : Oid} : db.link c x = some (s, p) → Climbs db c p y → Climbs db c x y

/-- A group above `x` is what is looked for. -/
def HitAbove (db : SchedDb sc) (c : Lchip) (hit : Oid → Oid → Bool) (x : Oid) : Prop :=
  ∃ y s p, Climbs db c x y ∧ db.link c y = some (s, p) ∧ hit y s = true

/-- What the records have that a walk reads, one after the other. -/
def walkReads (db : SchedDb sc) (foreign : ForeignNodes) (c : Lchip) (hit : Oid → Oid → Bool) :
    Nat → Oid → List Oid
  | 0, _ => []
  | fuel + 1, node =>
    match db.node foreign c node with
    | none => []
    | some (schedId, parentId) =>
      node :: if hit node schedId then [] else walkReads db foreign c hit fuel parentId

/-- The walk comes to what is looked for, or there is nothing to read where the groups end. -/
def EndsInGroups (db : SchedDb sc) (foreign : ForeignNodes) (c : Lchip) (hit : Oid → Oid → Bool)
    (x : Oid) : Prop :=
  HitAbove db c hit x ∨ ∀ y, Climbs db c x y → db.link c y = none → foreign y = none

/-- The records of the groups are under ids of groups. -/
def GroupKeys (db : SchedDb sc) : Prop :=
  ∀ p g, db.groups.lookup p = some g → IsSchedGroup p

theorem link_lookup {l : Oid × Oid} (h : db.link c x = some l) :
    ∃ g, db.groups.lookup x = some g ∧ x.lchip = c ∧ l = (g.schedId, g.parentId) := by
  obtain ⟨g, hg, he⟩ := Option.map_eq_some_iff.mp h
  obtain ⟨hc, hl⟩ := lookup_of_group hg
  exact ⟨g, hl, hc, he.symm⟩

theorem link_of_lookup {g : SchedGroup} (hc : x.lchip = c) (h : db.groups.lookup x = some g) :
    db.link c x = some (g.schedId, g.parentId) := by
  rw [SchedDb.link, SchedDb.group, if_pos hc, h]
  rfl

theorem node_of_link (hkeys : GroupKeys db) {l : Oid × Oid} (h : db.link c x = some l) :
    db.node foreign c x = some l := by
  obtain ⟨g, hg, -, rfl⟩ := link_lookup h
  have hx : x.type = ObjectType.schedulerGroup.bits := hkeys x g hg
  rw [SchedDb.node, if_pos hx]
  exact h

theorem node_of_none (hlink : db.link c x = none) (hforeign : foreign x = none) :
    db.node foreign c x = none := by
  rw [SchedDb.node]
  split
  · exact hlink
  · exact hforeign

theorem HitAbove.of_up {s p : Oid} (hl : db.link c x = some (s, p)) (hnot : hit x s ≠ true) :
    HitAbove db c hit x ↔ HitAbove db c hit p := by
  constructor
  · rintro ⟨y, s', p', hclimb, hy, hhit⟩
    cases hclimb with
    | here =>
      rw [hl] at hy
      cases hy
      exact absurd hhit hnot
    | up hl' hrest =>
      rw [hl] at hl'
      cases hl'
      exact ⟨y, s', p', hrest, hy, hhit⟩
  · rintro ⟨y, s', p', hclimb, hy, hhit⟩
    exact ⟨y, s', p', .up hl hclimb, hy, hhit⟩

/-- A walk reads records of groups, and finds what is looked for when a group above is that. -/
theorem walk_exact (hkeys : GroupKeys db) (fuel : Nat) :
    ∀ {x : Oid} {b : Bool}, EndsInGroups db foreign c hit x →
      walkParents db foreign c hit fuel x = some b →
      (∀ y ∈ walkReads db foreign c hit fuel x, ∃ g, db.groups.lookup y = some g) ∧
        (b = true ↔ HitAbove db c hit x) := by
  induction fuel with
  | zero => exact fun _ hw => by cases hw
  | succ n ih =>
    intro x b hends hw
    rw [walkParents] at hw
    rw [walkReads]
    cases hl : db.link c x with
    | none =>
      have hnone : ¬ HitAbove db c hit x := by
        rintro ⟨y, s, p, hclimb, hy, -⟩
        cases hclimb with
        | here => cases hl.symm.trans hy
        | up h _ => cases hl.symm.trans h
      have hforeign : foreign x = none := hends.resolve_left hnone x (.here x) hl
      rw [node_of_none hl hforeign] at hw ⊢
      cases hw
      exact ⟨fun y hy => absurd hy List.not_mem_nil, by simpa using hnone⟩
    | some l =>
      obtain ⟨s, p⟩ := l
      obtain ⟨g, hg, hc, -⟩ := link_lookup hl
      rw [node_of_link hkeys hl] at hw ⊢
      dsimp only at hw ⊢
      by_cases hhit : hit x s = true
      · rw [if_pos hhit] at hw ⊢
        cases hw
        refine ⟨fun y hy => ?_, fun _ => ⟨x, s, p, .here x, hl, hhit⟩, fun _ => rfl⟩
        rw [List.mem_singleton.mp hy]
        exact ⟨g, hg⟩
      rw [if_neg hhit] at hw ⊢
      have hends' : EndsInGroups db foreign c hit p :=
        hends.imp (HitAbove.of_up hl hhit).mp fun hall y hclimb => hall y (.up hl hclimb)
      obtain ⟨hreads, hiff⟩ := ih hends' hw
      refine ⟨fun y hy => ?_, hiff.trans (HitAbove.of_up hl hhit).symm⟩
      cases List.mem_cons.mp hy with
      | inl he => exact ⟨g, he ▸ hg⟩
      | inr hmem => exact hreads y hmem

/-! ## Queues and their paths -/

def SchedDb.Below (db : SchedDb sc) (k G : Oid) : Prop :=
  IsSchedGroup G ∧ ∃ q, db.queues.lookup k = some q ∧ q.schGrp = G

/-- What is known of the groups and of the queues below them. -/
structure PathTree (pq : Lchip → BitVec 8) (db : SchedDb sc) : Prop where
  keys : GroupKeys db
  live : LiveLinks db
  queues : ∀ k q, db.queues.lookup k = some q → q.schId = 0 ∧
    (q.schGrp ≠ Oid.null → IsPortQueue sc pq k ∧ SamePort k q)
  onPort : ∀ c x s p l, db.link c x = some (s, p) → db.link c p = some l → p.value = x.value
  whole : ∀ k G, db.Below k G → WholePath db k.lchip G
  listed : ∀ k G, db.Below k G → ∃ g, db.groups.lookup G = some g ∧ k ∈ g.childList
  sameTop : ∀ k G k' G', db.Below k G → db.Below k' G' → ∀ r ∈ pathRegs sc k G,
    r ∈ pathRegs sc k' G' → db.topOf k.lchip G = db.topOf k'.lchip G'

/-- The registers are those of fresh attaches, and the defaults where no path goes. -/
structure RegsRight (db : SchedDb sc) (regs : SchedReg → BitVec 8) : Prop where
  path : ∀ k G, db.Below k G → ∀ r ∈ pathRegs sc k G, regs r = db.fresh k G r
  rest : ∀ r, (∀ k G, db.Below k G → r ∉ pathRegs sc k G) → regs r = defaultReg r

/-- The groups have the same parents, and the queues the same groups. -/
structure SameParents (db db' : SchedDb sc) : Prop where
  parents : ∀ c x, (db'.link c x).map Prod.snd = (db.link c x).map Prod.snd
  queues : ∀ a, db'.queues.lookup a = db.queues.lookup a

namespace SameParents

theorem symm (h : SameParents db db') : SameParents db' db :=
  ⟨fun c x => (h.parents c x).symm, fun a => (h.queues a).symm⟩

theorem below (h : SameParents db db') : db'.Below k G ↔ db.Below k G := by
  rw [SchedDb.Below, SchedDb.Below, h.queues]

theorem topOf (h : SameParents db db') : db'.topOf c G = db.topOf c G := by
  rw [SchedDb.topOf, SchedDb.topOf, h.parents]

theorem link (h : SameParents db db') {s p : Oid} (hl : db.link c x = some (s, p)) :
    ∃ s', db'.link c x = some (s', p) := by
  have hp := h.parents c x
  rw [hl] at hp
  obtain ⟨⟨s', p'⟩, hl', he⟩ := Option.map_eq_some_iff.mp hp
  cases he
  exact ⟨s', hl'⟩

theorem link_none (h : SameParents db db') (hl : db.link c x = none) : db'.link c x = none := by
  have hp := h.parents c x
  rw [hl] at hp
  exact Option.map_eq_none_iff.mp hp

theorem climbs (h : SameParents db db') (hc : Climbs db c x y) : Climbs db' c x y := by
  induction hc with
  | here => exact .here _
  | up hl _ ih =>
    obtain ⟨s', hl'⟩ := h.link hl
    exact .up hl' ih

theorem wholePath (h : SameParents db db') (hw : WholePath db c G) : WholePath db' c G := by
  intro x hx
  rw [h.topOf] at hx
  obtain ⟨⟨s, p⟩, hl⟩ := hw x hx
  obtain ⟨s', hl'⟩ := h.link hl
  exact ⟨_, hl'⟩

theorem pathTree (h : SameParents db db') (ht : PathTree pq db) (hkeys : GroupKeys db')
    (hlive : LiveLinks db')
    (hlisted : ∀ k G, db.Below k G → ∃ g, db'.groups.lookup G = some g ∧ k ∈ g.childList) :
    PathTree pq db' where
  keys := hkeys
  live := hlive
  queues k q hq := ht.queues k q (h.queues k ▸ hq)
  onPort c x s p l hl hp := by
    obtain ⟨s₁, hl₁⟩ := h.symm.link hl
    obtain ⟨s₂, hp₁⟩ := h.symm.link hp
    exact ht.onPort c x s₁ p _ hl₁ hp₁
  whole k G hb := h.wholePath (ht.whole k G (h.below.mp hb))
  listed k G hb := hlisted k G (h.below.mp hb)
  sameTop k G k' G' hb hb' r hr hr' := by
    rw [h.topOf, h.topOf]
    exact ht.sameTop k G k' G' (h.below.mp hb) (h.below.mp hb') r hr hr'

end SameParents

/-- The paths and the weights on them are the same. -/
structure SameView (db db' : SchedDb sc) : Prop where
  link : db'.link = db.link
  weight : db'.nodeWeight = db.nodeWeight
  queues : ∀ a, db'.queues.lookup a = db.queues.lookup a

namespace SameView

theorem refl (db : SchedDb sc) : SameView db db := ⟨rfl, rfl, fun _ => rfl⟩

theorem sameParents (h : SameView db db') : SameParents db db' :=
  ⟨fun c x => by rw [h.link], h.queues⟩

theorem writes (h : SameView db db') (isAdd : Bool) :
    db'.queueWrites k G isAdd = db.queueWrites k G isAdd := by
  simp only [SchedDb.queueWrites, SchedDb.groupLevelWrites, SchedDb.portLevelWrites, h.link,
    h.weight]

theorem fresh (h : SameView db db') : db'.fresh k G = db.fresh k G := by
  rw [SchedDb.fresh, SchedDb.fresh, h.writes]

theorem regsRight (h : SameView db db') {regs : SchedReg → BitVec 8} (hr : RegsRight db regs) :
    RegsRight db' regs := by
  refine ⟨fun k G hb r hmem => ?_, fun r hfree => hr.rest r fun k G hb => ?_⟩
  · rw [h.fresh]
    exact hr.path k G (h.sameParents.below.mp hb) r hmem
  · exact hfree k G (h.sameParents.below.mpr hb)

end SameView

theorem Below.unique {G' : Oid} (h : db.Below k G) (h' : db.Below k G') : G = G' := by
  obtain ⟨-, q, hq, rfl⟩ := h
  obtain ⟨-, q', hq', rfl⟩ := h'
  rw [hq] at hq'
  cases hq'
  rfl

theorem PathTree.onOwnPort (h : PathTree pq db) (hb : db.Below k G) :
    IsPortQueue sc pq k ∧ k.lchip = G.lchip ∧ k.value = G.value := by
  obtain ⟨hG, q, hq, rfl⟩ := hb
  have hne : q.schGrp ≠ Oid.null := fun he => null_ne_group (he ▸ hG)
  obtain ⟨hport, hsame⟩ := (h.queues k q hq).2 hne
  exact ⟨hport, (hsame hne).1, (hsame hne).2.1⟩

theorem IsPortQueue.ext {k' : Oid} (h : IsPortQueue sc pq k) (h' : IsPortQueue sc pq k')
    (hc : k.lchip = k'.lchip) (hv : k.value = k'.value)
    (hi : k.value2.setWidth 8 = k'.value2.setWidth 8) : k = k' := by
  obtain ⟨c, p, -, i, -, rfl⟩ := h
  obtain ⟨c', p', -, i', -, rfl⟩ := h'
  rw [lchip_portQueue, lchip_portQueue] at hc
  rw [index_portQueue, index_portQueue] at hi
  exact portQueue_inj.mpr ⟨hc, hv, hi⟩

theorem topOf_of_mem (h : WholePath db k.lchip G) {r : SchedReg} (hr : r ∈ pathRegs sc k G) :
    ∃ top, db.topOf k.lchip G = some top := by
  rw [pathRegs] at hr
  rw [SchedDb.topOf]
  split
  · exact ⟨G, rfl⟩
  next h1 =>
  rw [if_neg h1] at hr
  split
  · obtain ⟨l, hl⟩ := h G (.inl rfl)
    exact ⟨l.2, by rw [hl]; rfl⟩
  · next h2 =>
    rw [if_neg h2] at hr
    cases hr

theorem pathRegs_cases {r : SchedReg} (hr : r ∈ pathRegs sc k G) :
    r = .queueExceedClass k.lchip k.value (k.value2.setWidth 8) ∨
      r = .queueExceedWeight k.lchip k.value (k.value2.setWidth 8) ∨
      ∃ grp cls, r = .groupConfirmClass k.lchip k.value grp cls ∨
        r = .groupConfirmWeight k.lchip k.value grp cls := by
  rw [pathRegs] at hr
  split at hr
  · simp only [confirmRegs, List.mem_cons, List.not_mem_nil, or_false] at hr
    exact .inr (.inr ⟨_, _, hr⟩)
  split at hr
  · simp only [exceedRegs, confirmRegs, List.cons_append, List.nil_append, List.mem_cons,
      List.not_mem_nil, or_false] at hr
    rcases hr with h | h | h | h
    · exact .inl h
    · exact .inr (.inl h)
    · exact .inr (.inr ⟨_, _, .inl h⟩)
    · exact .inr (.inr ⟨_, _, .inr h⟩)
  · cases hr

theorem PathTree.fresh_eq (h : PathTree pq db) {k' G' : Oid} (hb : db.Below k G)
    (hb' : db.Below k' G') {r : SchedReg} (hr : r ∈ pathRegs sc k G) (hr' : r ∈ pathRegs sc k' G') :
    db.fresh k G r = db.fresh k' G' r := by
  obtain ⟨top, htop⟩ := topOf_of_mem (h.whole k G hb) hr
  have htop' : db.topOf k'.lchip G' = some top :=
    (h.sameTop k G k' G' hb hb' r hr hr').symm.trans htop
  rw [fresh_value (pathShape (h.whole k G hb) htop) hr,
    fresh_value (pathShape (h.whole k' G' hb') htop') hr']
  have hsame : ∀ {a b : BitVec 8}, k.lchip = k'.lchip → k.value = k'.value → a = b →
      a = k.value2.setWidth 8 → b = k'.value2.setWidth 8 → G = G' := by
    intro a b hc hv hab ha hb₂
    have hk : k = k' := (h.onOwnPort hb).1.ext (h.onOwnPort hb').1 hc hv
      (ha.symm.trans (hab.trans hb₂))
    subst hk
    exact Below.unique hb hb'
  rcases pathRegs_cases hr with rfl | rfl | ⟨grp, cls, rfl | rfl⟩
  · rcases pathRegs_cases hr' with he | he | ⟨_, _, he | he⟩
    · injection he with hc hv hi
      rw [hsame hc hv hi rfl rfl]
    · cases he
    · cases he
    · cases he
  · rcases pathRegs_cases hr' with he | he | ⟨_, _, he | he⟩
    · cases he
    · injection he with hc hv hi
      rw [hsame hc hv hi rfl rfl]
    · cases he
    · cases he
  · rfl
  · rfl

/-! ## Attaching once more -/

/-- The queues `ks` have been attached once more: what their attaches write is as a fresh attach
leaves it, everything else is kept. -/
def Rewritten (db : SchedDb sc) (ks : Oid → Prop) (regs regs' : SchedReg → BitVec 8) : Prop :=
  ∀ r, (∃ k G, ks k ∧ db.Below k G ∧ r ∈ keys (db.queueWrites k G true) ∧
      regs' r = db.fresh k G r) ∨
    (regs' r = regs r ∧ ∀ k G, ks k → db.Below k G → r ∉ keys (db.queueWrites k G true))

theorem Rewritten.refl (db : SchedDb sc) (regs : SchedReg → BitVec 8) :
    Rewritten db (fun _ => False) regs regs :=
  fun _ => .inr ⟨rfl, fun _ _ hk => hk.elim⟩

theorem Rewritten.trans {ks₁ ks₂ : Oid → Prop} {regs regs₁ regs₂ : SchedReg → BitVec 8}
    (h₁ : Rewritten db ks₁ regs regs₁) (h₂ : Rewritten db ks₂ regs₁ regs₂) :
    Rewritten db (fun a => ks₁ a ∨ ks₂ a) regs regs₂ := by
  intro r
  rcases h₂ r with ⟨a, G, ha, hb, hmem, he⟩ | ⟨he, hnot⟩
  · exact .inl ⟨a, G, .inr ha, hb, hmem, he⟩
  rcases h₁ r with ⟨a, G, ha, hb, hmem, he₁⟩ | ⟨he₁, hnot₁⟩
  · exact .inl ⟨a, G, .inl ha, hb, hmem, he.trans he₁⟩
  refine .inr ⟨he.trans he₁, fun a G ha hb => ?_⟩
  cases ha with
  | inl ha => exact hnot₁ a G ha hb
  | inr ha => exact hnot a G ha hb

theorem Rewritten.congr {ks ks' : Oid → Prop} {regs regs' : SchedReg → BitVec 8}
    (h : Rewritten db ks regs regs') (he : ∀ k G, db.Below k G → (ks k ↔ ks' k)) :
    Rewritten db ks' regs regs' := by
  intro r
  rcases h r with ⟨a, G, ha, hb, hmem, hv⟩ | ⟨hv, hnot⟩
  · exact .inl ⟨a, G, (he a G hb).mp ha, hb, hmem, hv⟩
  · exact .inr ⟨hv, fun a G ha hb => hnot a G ((he a G hb).mpr ha) hb⟩

theorem Rewritten.replay (hb : db.Below k G) (regs : SchedReg → BitVec 8) :
    Rewritten db (fun a => a = k) regs (WriteLogs.replay regs (db.queueWrites k G true)) := by
  intro r
  by_cases hr : r ∈ WriteLogs.keys (db.queueWrites k G true)
  · exact .inl ⟨k, G, rfl, hb, hr, replay_congr hr⟩
  refine .inr ⟨replay_of_not_mem hr, fun a G' ha hb' => ?_⟩
  subst ha
  rw [← Below.unique hb hb']
  exact hr

/-- The records are the same. -/
structure SameSchedRecords (db db' : SchedDb sc) : Prop where
  queues : ∀ a, db'.queues.lookup a = db.queues.lookup a
  groups : db'.groups = db.groups
  schedulers : db'.schedulers = db.schedulers

namespace SameSchedRecords

theorem refl (db : SchedDb sc) : SameSchedRecords db db := ⟨fun _ => rfl, rfl, rfl⟩

theorem trans {db'' : SchedDb sc} (h : SameSchedRecords db db') (h' : SameSchedRecords db' db'') :
    SameSchedRecords db db'' :=
  ⟨fun a => (h'.queues a).trans (h.queues a), h'.groups.trans h.groups,
    h'.schedulers.trans h.schedulers⟩

theorem view (h : SameSchedRecords db db') : SameView db db' := by
  refine ⟨funext fun c => funext fun x => ?_, funext fun c => funext fun s => funext fun b => ?_,
    h.queues⟩
  · rw [SchedDb.link, SchedDb.link, SchedDb.group, SchedDb.group, h.groups]
  · rw [SchedDb.nodeWeight, SchedDb.nodeWeight, SchedDb.scheduler, SchedDb.scheduler, h.schedulers]

theorem pathTree (h : SameSchedRecords db db') (ht : PathTree pq db) : PathTree pq db' := by
  refine h.view.sameParents.pathTree ht ?_ (fun c x s p hl hs => ?_) ?_
  · rw [GroupKeys, h.groups]
    exact ht.keys
  · rw [h.view.link] at hl
    obtain ⟨t, ht'⟩ := ht.live c x s p hl hs
    exact ⟨t, by rw [SchedDb.scheduler, h.schedulers]; exact ht'⟩
  · rw [h.groups]
    exact ht.listed

theorem rewritten (h : SameSchedRecords db db') {ks : Oid → Prop} {regs regs' : SchedReg → BitVec 8}
    (hr : Rewritten db' ks regs regs') : Rewritten db ks regs regs' := by
  intro r
  rcases hr r with ⟨a, G, ha, hb, hmem, hv⟩ | ⟨hv, hnot⟩
  · rw [h.view.fresh] at hv
    rw [h.view.writes] at hmem
    exact .inl ⟨a, G, ha, h.view.sameParents.below.mp hb, hmem, hv⟩
  · refine .inr ⟨hv, fun a G ha hb => ?_⟩
    rw [← h.view.writes]
    exact hnot a G ha (h.view.sameParents.below.mpr hb)

theorem node (h : SameSchedRecords db db') : db'.node foreign c x = db.node foreign c x := by
  simp only [SchedDb.node, SchedDb.group, h.groups]

theorem walkParents (h : SameSchedRecords db db') (fuel : Nat) : ∀ x,
    CtcSai.walkParents db' foreign c hit fuel x = CtcSai.walkParents db foreign c hit fuel x := by
  induction fuel with
  | zero => exact fun _ => rfl
  | succ n ih =>
    intro x
    simp only [CtcSai.walkParents, h.node, ih]

theorem queueOf (h : SameSchedRecords db db') (sel : Queue → Bool) (gport : BitVec 32) (i : BitVec 8) :
    db'.queueOf sel c gport i = db.queueOf sel c gport i := by
  simp only [SchedDb.queueOf, h.queues]

end SameSchedRecords

theorem PathTree.again (h : PathTree pq db) (hquiet : db.hw.answers = []) {q : Queue}
    (hq : db.queues.lookup k = some q) (hne : q.schGrp ≠ Oid.null) (foreign : ForeignNodes) :
    ∃ db', groupQueueSetScheduler db foreign k q.schGrp = (.success, db') ∧ SameSchedRecords db db' ∧
      db'.hw.answers = [] ∧ db'.ports = db.ports ∧
      Rewritten db (fun a => a = k) db.hw.regs db'.hw.regs := by
  obtain ⟨hport, hsame⟩ := (h.queues k q hq).2 hne
  obtain ⟨hc, hv, ht⟩ := hsame hne
  have hkind : k.subType ≠ queueTypeMulticast ∧ k.type = ObjectType.queue.bits := by
    obtain ⟨c, p, -, i, -, rfl⟩ := hport
    exact ⟨by rw [subType_portQueue]; exact basicQueueType_ne _, rfl⟩
  have hinsert : ∀ a, (db.queues.insert k q).lookup a = db.queues.lookup a := by
    intro a
    rw [Table.lookup_insert_ite]
    split
    · next ha => rw [ha, hq]
    · rfl
  rw [groupQueueSetScheduler, if_neg hkind.1, hq]
  dsimp only
  rw [if_pos hne, if_neg (not_not.mpr hc), if_neg (not_not.mpr hv)]
  by_cases hG : q.schGrp.type = ObjectType.schedulerGroup.bits
  · have hb : db.Below k q.schGrp := ⟨hG, q, hq, rfl⟩
    have hwhole := h.whole k _ hb
    obtain ⟨g, hg, hlisted⟩ := h.listed k _ hb
    have hgroup : db.group k.lchip q.schGrp = some g := by rw [SchedDb.group, if_pos hc.symm, hg]
    rw [if_pos hG, hgroup]
    rw [applyQueueToGroup_writes h.live hquiet hwhole]
    dsimp only [SchedDb.withHw]
    rw [addChild_again hG (.inl hkind.2) (by exact hgroup) hlisted]
    exact ⟨_, rfl, ⟨hinsert, rfl, rfl⟩, hquiet, rfl, .replay hb _⟩
  rw [if_neg hG, if_pos (ht.resolve_left hG)]
  refine ⟨_, rfl, ⟨hinsert, rfl, rfl⟩, hquiet, rfl, fun r => .inr ⟨rfl, fun a G ha hb => ?_⟩⟩
  subst ha
  obtain ⟨hG', q', hq', rfl⟩ := hb
  rw [hq] at hq'
  cases hq'
  exact absurd hG' hG

/-- The queues that a loop attaches once more: it finds them at their index, and the walk finds
what it looks for above them. -/
def Reapplies (db : SchedDb sc) (foreign : ForeignNodes) (hit : Oid → Oid → Bool) (fuel : Nat)
    (c : Lchip) (l : List (BitVec 32 × BitVec 8)) (k : Oid) : Prop :=
  ∃ a ∈ l, ∃ q, db.queueOf (fun q => q.schGrp ≠ Oid.null) c a.1 a.2 = some (k, q) ∧
    walkParents db foreign c hit fuel q.schGrp = some true

theorem SameSchedRecords.reapplies (h : SameSchedRecords db db') {l : List (BitVec 32 × BitVec 8)} :
    Reapplies db' foreign hit fuel c l k ↔ Reapplies db foreign hit fuel c l k := by
  simp only [Reapplies, h.queueOf, h.walkParents]

theorem reapplies_singleton {a : BitVec 32 × BitVec 8} : Reapplies db foreign hit fuel c [a] k ↔
      ∃ q, db.queueOf (fun q => q.schGrp ≠ Oid.null) c a.1 a.2 = some (k, q) ∧
        walkParents db foreign c hit fuel q.schGrp = some true := by
  simp only [Reapplies, List.mem_singleton, exists_eq_left]

theorem Reapplies.cons {a : BitVec 32 × BitVec 8} {l : List (BitVec 32 × BitVec 8)} :
    Reapplies db foreign hit fuel c (a :: l) k ↔
      Reapplies db foreign hit fuel c [a] k ∨ Reapplies db foreign hit fuel c l k := by
  rw [reapplies_singleton]
  simp only [Reapplies, List.mem_cons, or_and_right, exists_or, exists_eq_left]

/-- The walks of a loop come to an end. -/
def WalksEnd (db : SchedDb sc) (foreign : ForeignNodes) (hit : Oid → Oid → Bool) (fuel : Nat)
    (c : Lchip) (l : List (BitVec 32 × BitVec 8)) : Prop :=
  ∀ a ∈ l, ∀ k q, db.queueOf (fun q => q.schGrp ≠ Oid.null) c a.1 a.2 = some (k, q) →
    ∃ b, walkParents db foreign c hit fuel q.schGrp = some b

/-- What a loop over queues leaves. -/
structure Reruns (db : SchedDb sc) (foreign : ForeignNodes) (hit : Oid → Oid → Bool) (fuel : Nat)
    (c : Lchip) (l : List (BitVec 32 × BitVec 8)) (r : Status × SchedDb sc) : Prop where
  success : r.1 = .success
  same : SameSchedRecords db r.2
  quiet : r.2.hw.answers = []
  ports : r.2.ports = db.ports
  rewritten : Rewritten db (Reapplies db foreign hit fuel c l) db.hw.regs r.2.hw.regs
  ends : WalksEnd db foreign hit fuel c l

/-- The head of the list is done, and the loop goes on with the records as they were. -/
theorem Reruns.cons {db₁ : SchedDb sc} {a : BitVec 32 × BitVec 8}
    {rest : List (BitVec 32 × BitVec 8)} {r : Status × SchedDb sc} {ks : Oid → Prop}
    (hsame : SameSchedRecords db db₁) (hports : db₁.ports = db.ports)
    (hks : Rewritten db ks db.hw.regs db₁.hw.regs)
    (hhead : ∀ k, ks k ↔ Reapplies db foreign hit fuel c [a] k)
    (hend : WalksEnd db foreign hit fuel c [a])
    (h : Reruns db₁ foreign hit fuel c rest r) : Reruns db foreign hit fuel c (a :: rest) r where
  success := h.success
  same := hsame.trans h.same
  quiet := h.quiet
  ports := h.ports.trans hports
  rewritten := by
    have hrest := (hsame.rewritten h.rewritten).congr fun k _ _ => hsame.reapplies
    refine (hks.trans hrest).congr fun k _ _ => ?_
    rw [Reapplies.cons, hhead]
  ends b hb k q hq := by
    cases List.mem_cons.mp hb with
    | inl he => exact hend b (he ▸ List.mem_cons_self) k q hq
    | inr hmem =>
      have hends := h.ends b hmem k q
      rw [hsame.queueOf, hsame.walkParents] at hends
      exact hends hq

/-- The loop over queues succeeds, and what it attaches once more is `Reapplies`. -/
theorem PathTree.updateQueues (l : List (BitVec 32 × BitVec 8)) :
    ∀ {db : SchedDb sc} {r : Status × SchedDb sc}, PathTree pq db → db.hw.answers = [] →
      CtcSai.updateQueues foreign hit fuel c l db = some r →
      Reruns db foreign hit fuel c l r := by
  induction l with
  | nil =>
    intro db r _ hquiet hr
    cases hr
    refine ⟨rfl, .refl db, hquiet, rfl, (Rewritten.refl db _).congr fun k G _ => ?_, nofun⟩
    refine ⟨False.elim, ?_⟩
    rintro ⟨a, ha, -⟩
    cases ha
  | cons a rest ih =>
    intro db r h hquiet hr
    rw [CtcSai.updateQueues] at hr
    split at hr
    · next hnone =>
      refine .cons (.refl db) rfl (.refl db _) (fun k => ⟨False.elim, fun hk => ?_⟩)
        (fun b hb k q hq => ?_) (ih h hquiet hr)
      · obtain ⟨q, hq, -⟩ := reapplies_singleton.mp hk
        cases hnone.symm.trans hq
      · rw [List.mem_singleton.mp hb] at hq
        cases hnone.symm.trans hq
    next k q hq =>
    cases hw : walkParents db foreign c hit fuel q.schGrp with
    | none =>
      rw [queueUpdateSchedGroup, hw] at hr
      cases hr
    | some found =>
      have hend : WalksEnd db foreign hit fuel c [a] := by
        intro b hb k' q' hq'
        rw [List.mem_singleton.mp hb] at hq'
        cases hq.symm.trans hq'
        exact ⟨found, hw⟩
      have hhead : ∀ k', Reapplies db foreign hit fuel c [a] k' ↔ k' = k ∧ found = true := by
        intro k'
        rw [reapplies_singleton]
        constructor
        · rintro ⟨q', hq', hw'⟩
          cases hq.symm.trans hq'
          exact ⟨rfl, Option.some.inj (hw.symm.trans hw')⟩
        · rintro ⟨rfl, rfl⟩
          exact ⟨q, hq, hw⟩
      rw [queueUpdateSchedGroup, hw] at hr
      cases found with
      | false =>
        refine .cons (.refl db) rfl (.refl db _) (fun k' => ⟨False.elim, fun hk' => ?_⟩) hend
          (ih h hquiet hr)
        cases ((hhead k').mp hk').2
      | true =>
        obtain ⟨hlk, hsel, -⟩ := queueOf_some hq
        obtain ⟨db₁, heq, hsame, hquiet₁, hports, hks⟩ :=
          h.again hquiet hlk (of_decide_eq_true hsel) foreign
        rw [heq] at hr
        refine .cons hsame hports hks (fun k' => ?_) hend (ih (hsame.pathTree h) hquiet₁ hr)
        rw [hhead, and_iff_left rfl]

/-! ## What a loop comes to -/

theorem PathTree.visited (h : PathTree pq db) {q : Queue} (hq : db.queues.lookup k = some q)
    (hne : q.schGrp ≠ Oid.null) :
    (k.value, k.value2.setWidth 8) ∈ portQueues sc k.lchip ∧ k.value2.setWidth 8 ∈ queueIndexes ∧
      db.queueOf (fun q => q.schGrp ≠ Oid.null) k.lchip k.value (k.value2.setWidth 8) =
        some (k, q) := by
  have hfound : ∀ c gport i, db.queueOf (fun q => q.schGrp ≠ Oid.null) c gport i =
      ((db.queues.lookup (portQueue pq c gport i)).filter (fun q => q.schGrp ≠ Oid.null)).map
        fun q => (portQueue pq c gport i, q) := by
    intro c gport i
    refine queueOf_portQueue fun k q hq hsel => ?_
    exact ((h.queues k q hq).2 (of_decide_eq_true hsel)).1
  obtain ⟨c, p, hp, i, hi, rfl⟩ := ((h.queues k q hq).2 hne).1
  rw [lchip_portQueue, value_portQueue, index_portQueue, hfound, hq]
  refine ⟨?_, hi, by simp [hne]⟩
  exact List.mem_flatMap.mpr ⟨p, List.mem_range.mpr hp, List.mem_map.mpr ⟨i, hi, rfl⟩⟩

section Loop

variable {l : List (BitVec 32 × BitVec 8)} {q : Queue}

theorem PathTree.reapplies_iff_walk (h : PathTree pq db) (hq : db.queues.lookup k = some q)
    (hne : q.schGrp ≠ Oid.null) (hmem : (k.value, k.value2.setWidth 8) ∈ l) :
    Reapplies db foreign hit fuel k.lchip l k ↔
      walkParents db foreign k.lchip hit fuel q.schGrp = some true := by
  constructor
  · rintro ⟨a, -, q', hq', hw⟩
    obtain ⟨hl, -⟩ := queueOf_some hq'
    cases hq.symm.trans hl
    exact hw
  · exact fun hw => ⟨_, hmem, q, (h.visited hq hne).2.2, hw⟩

/-- What is above the queue decides when the walk reads groups only. -/
theorem PathTree.reapplies_iff (h : PathTree pq db) (hq : db.queues.lookup k = some q)
    (hne : q.schGrp ≠ Oid.null) (hmem : (k.value, k.value2.setWidth 8) ∈ l)
    (hwalks : WalksEnd db foreign hit fuel k.lchip l)
    (hends : EndsInGroups db foreign k.lchip hit q.schGrp) :
    Reapplies db foreign hit fuel k.lchip l k ↔ HitAbove db k.lchip hit q.schGrp := by
  obtain ⟨b, hb⟩ := hwalks _ hmem k q (h.visited hq hne).2.2
  rw [h.reapplies_iff_walk hq hne hmem, hb, Option.some_inj]
  exact (walk_exact h.keys fuel hends hb).2

theorem PathTree.reapplies_of_hit (h : PathTree pq db) (hq : db.queues.lookup k = some q)
    (hmem : (k.value, k.value2.setWidth 8) ∈ l)
    (hwalks : WalksEnd db foreign hit fuel k.lchip l)
    (hhit : HitAbove db k.lchip hit q.schGrp) : Reapplies db foreign hit fuel k.lchip l k := by
  have hne : q.schGrp ≠ Oid.null := by
    rintro he
    obtain ⟨y, s, p, hclimb, hy, -⟩ := hhit
    have hlink : ∃ l, db.link k.lchip q.schGrp = some l := by
      cases hclimb with
      | here => exact ⟨_, hy⟩
      | up hl _ => exact ⟨_, hl⟩
    obtain ⟨l, hl⟩ := hlink
    obtain ⟨g, hg, -⟩ := link_lookup hl
    exact null_ne_group (he ▸ h.keys _ g hg)
  exact (h.reapplies_iff hq hne hmem hwalks (.inl hhit)).mpr hhit

end Loop

theorem mem_pathRegs (hpath : WholePath db k.lchip G) {r : SchedReg} {isAdd : Bool}
    (hr : r ∈ keys (db.queueWrites k G isAdd)) : r ∈ pathRegs sc k G := by
  have htop : ∃ top, db.topOf k.lchip G = some top := by
    rw [SchedDb.topOf]
    split
    · exact ⟨G, rfl⟩
    next h1 =>
    split
    · obtain ⟨l, hl⟩ := hpath G (.inl rfl)
      exact ⟨l.2, by rw [hl]; rfl⟩
    · next h2 =>
      rw [SchedDb.queueWrites, if_neg h1, if_neg h2] at hr
      cases hr
  obtain ⟨top, htop⟩ := htop
  exact pathRegs_of_keys (pathShape hpath htop) hr

/-- After the attaches of `ks` the registers are right when they are right where these have
written nothing. -/
theorem PathTree.regsRight (h : PathTree pq db) {ks : Oid → Prop}
    {regs regs' : SchedReg → BitVec 8} (hw : Rewritten db ks regs regs')
    (hold : ∀ k G, db.Below k G → ∀ r ∈ pathRegs sc k G,
      (∀ a G', ks a → db.Below a G' → r ∉ WriteLogs.keys (db.queueWrites a G' true)) →
      regs r = db.fresh k G r)
    (hrest : ∀ r, (∀ k G, db.Below k G → r ∉ pathRegs sc k G) → regs r = defaultReg r) :
    RegsRight db regs' := by
  refine ⟨fun k G hb r hr => ?_, fun r hfree => ?_⟩
  · rcases hw r with ⟨a, G', -, hb', hmem, hv⟩ | ⟨hv, hnot⟩
    · rw [hv]
      exact h.fresh_eq hb' hb (mem_pathRegs (h.whole a G' hb') hmem) hr
    · rw [hv]
      exact hold k G hb r hr hnot
  · rcases hw r with ⟨a, G', -, hb', hmem, -⟩ | ⟨hv, -⟩
    · exact absurd (mem_pathRegs (h.whole a G' hb') hmem) (hfree a G' hb')
    · rw [hv]
      exact hrest r hfree

end CtcSai
