/-
# `SchedulerRegsRuns` — the registers of groups and queues in every run

Profiles are set on groups and cleared, profiles change, groups get other parents, and queues are
attached and detached.  In every run that stays clear of what the code forgets, the registers of
every queue are those of a fresh attach, and the walks read records of groups only and attach once
more just the queues below what has changed.

What is forgotten: a profile that is cleared keeps its weight in the registers, a profile that
changes is looked for above queues with a profile of their own only, a queue that moves leaves the
registers of its old path, one that is detached takes the class of others with it, and a walk
that finds nothing reads the record of the port.
-/
import CtcSai.SchedulerRegsMoves
import CtcSai.SchedulerForest
import CtcSai.WdrrRuns

namespace CtcSai

open KeyedTable IdPool WriteLogs Runs

variable {sc : SchedulerChip} {pq : Lchip → BitVec 8} {db db' : SchedDb sc} {c : Lchip}
  {k G x y oid parent : Oid} {foreign : ForeignNodes} {hit : Oid → Oid → Bool} {fuel : Nat}
  {l : List (BitVec 32 × BitVec 8)}

/-! ## The runs -/

inductive PathCall where
  | setGroup (foreign : ForeignNodes) (fuel : Nat) (group oid : Oid)
  | setAttribute (foreign : ForeignNodes) (fuel : Nat) (oid : Oid) (attr : SchedulerAttr)
  | setParent (foreign : ForeignNodes) (fuel : Nat) (group parent : Oid)
  | attach (mem : RecordMem) (foreign : ForeignNodes) (c : Lchip) (port : Nat) (i : BitVec 8)
      (oid : Oid)

/-- One call; queues are the basic queues of physical ports. -/
def PathCall.call (pq : Lchip → BitVec 8) (db : SchedDb sc) :
    PathCall → Option (Status × SchedDb sc)
  | .setGroup foreign fuel x oid => setGroupScheduler db foreign fuel x oid
  | .setAttribute foreign fuel oid attr => setSchedulerAttribute foreign fuel oid attr db
  | .setParent foreign fuel x parent => setGroupParent db foreign fuel x parent
  | .attach mem foreign c port i oid =>
    if port < sc.maxPhyPortNum c ∧ i ∈ queueIndexes then
      some (setQueueParent db mem foreign (portQueue pq c (sc.gport c port) i) oid)
    else none

def pathStep (pq : Lchip → BitVec 8) (db : SchedDb sc) (op : PathCall) : Option (SchedDb sc) :=
  (op.call pq db).map Prod.snd

/-- The start of a run: groups in any hierarchy with any profiles, no queue with a group or a
profile, registers with their defaults, and every call of the SDK will succeed. -/
structure PathStart (db : SchedDb sc) : Prop where
  keys : GroupKeys db
  live : LiveLinks db
  onPort : ∀ c x s p l, db.link c x = some (s, p) → db.link c p = some l → p.value = x.value
  queues : ∀ k q, db.queues.lookup k = some q → q.schGrp = Oid.null ∧ q.schId = 0
  quiet : db.hw.answers = []
  regs : db.hw.regs = defaultReg

/-- What a profile is set on, and who else has it. -/
def groupHit (x oid y schedId : Oid) : Bool := y = x ∨ (oid ≠ Oid.null ∧ schedId = oid)

/-- The walks from the queues in a list of a loop end in groups. -/
def WalksStay (db : SchedDb sc) (foreign : ForeignNodes) (c : Lchip) (hit : Oid → Oid → Bool)
    (l : List (BitVec 32 × BitVec 8)) : Prop :=
  ∀ k q, db.queues.lookup k = some q → q.schGrp ≠ Oid.null → k.lchip = c →
    (k.value, k.value2.setWidth 8) ∈ l → EndsInGroups db foreign c hit q.schGrp

def PathSafe (pq : Lchip → BitVec 8) (db : SchedDb sc) : PathCall → Prop
  | .setGroup foreign _ x oid =>
    (oid = Oid.null → ∀ g, db.groups.lookup x = some g → g.schedId ≠ Oid.null →
      ∀ k G, db.Below k G → ¬ Climbs db k.lchip G x) ∧
    (oid ≠ Oid.null → ∀ g s, db.groups.lookup x = some g → db.scheduler x.lchip oid = some s →
      WalksStay db foreign x.lchip (groupHit x oid) (portQueues sc x.lchip))
  | .setAttribute _ _ oid attr =>
    attr.classes = true → ∀ s s', db.schedulers.lookup oid = some s → s.changed attr = some s' →
      ∀ k G, db.Below k G → ¬ HitAbove db k.lchip (fun _ schedId => schedId = oid) G
  | .setParent foreign _ x parent =>
    GroupMoves db x parent → ReparentSafe db x parent ∧
      WalksStay db foreign x.lchip (fun y _ => y = x) (groupQueues x)
  | .attach _ _ c port i oid => AttachSafe db (portQueue pq c (sc.gport c port) i) oid

/-! ## What is promised -/

/-- The registers of every queue are those that a fresh attach to its group writes on defaults. -/
structure FreshRegs (pq : Lchip → BitVec 8) (db : SchedDb sc) : Prop where
  attached : ∀ k G, db.Below k G → ∀ foreign shapes, ∀ r ∈ exceedRegs k ++ pathRegs sc k G,
    db.hw.regs r = (applyQueueToGroup db foreign k G true ⟨defaultReg, shapes, []⟩).2.regs r
  alone : ∀ k, IsPortQueue sc pq k → (∀ G, ¬ db.Below k G) → ∀ r ∈ exceedRegs k,
    db.hw.regs r = defaultReg r

/-- A queue is below what is looked for. -/
def SchedDb.Hangs (db : SchedDb sc) (c : Lchip) (hit : Oid → Oid → Bool) (k : Oid) : Prop :=
  ∃ q, db.queues.lookup k = some q ∧ k.lchip = c ∧ HitAbove db c hit q.schGrp

/-- The records that the walks of a loop read. -/
def WalkReads (db : SchedDb sc) (foreign : ForeignNodes) (hit : Oid → Oid → Bool) (fuel : Nat)
    (c : Lchip) (l : List (BitVec 32 × BitVec 8)) (y : Oid) : Prop :=
  ∃ a ∈ l, ∃ k q, db.queueOf (fun q => q.schGrp ≠ Oid.null) c a.1 a.2 = some (k, q) ∧
    y ∈ walkReads db foreign c hit fuel q.schGrp

/-- The queues that a call attaches once more: those a loop comes to for which its walk finds what
it looks for. -/
def PathCall.Reapplied (db : SchedDb sc) (k : Oid) : PathCall → Prop
  | .setGroup foreign fuel x oid =>
    oid ≠ Oid.null ∧ ∃ g s, db.groups.lookup x = some g ∧ db.scheduler x.lchip oid = some s ∧
      Reapplies (db.bindGroup x g oid s) foreign (fun _ schedId => schedId = oid) fuel x.lchip
        (portQueues sc x.lchip) k
  | .setAttribute foreign fuel oid attr =>
    attr.classes = true ∧ ∃ s s', db.schedulers.lookup oid = some s ∧ s.changed attr = some s' ∧
      ∃ a ∈ portQueues sc oid.lchip, ∃ q,
        db.queueOf (fun q => q.schId ≠ 0) oid.lchip a.1 a.2 = some (k, q) ∧
        walkParents { db with schedulers := db.schedulers.insert oid s' } foreign oid.lchip
          (fun _ schedId => schedId = oid) fuel q.schGrp = some true
  | .setParent foreign fuel x parent =>
    ∃ g, db.groups.lookup x = some g ∧ Reapplies (db.moveGroup x g parent) foreign
      (fun y _ => y = x) fuel x.lchip (groupQueues x) k
  | .attach .. => False

/-- The queues below the group that a call changes, or below a group with the profile that it
sets or changes. -/
def PathCall.Concerned (db : SchedDb sc) (k : Oid) : PathCall → Prop
  | .setGroup _ _ x oid =>
    (oid = Oid.null → ∀ g, db.groups.lookup x = some g → g.schedId ≠ Oid.null) ∧
      db.Hangs x.lchip (groupHit x oid) k
  | .setAttribute _ _ oid attr =>
    attr.classes = true ∧ (∃ s s', db.schedulers.lookup oid = some s ∧ s.changed attr = some s') ∧
      db.Hangs oid.lchip (fun _ schedId => schedId = oid) k
  | .setParent _ _ x _ => db.Hangs x.lchip (fun y _ => y = x) k
  | .attach .. => False

/-- The records that the walks of a call read. -/
def PathCall.Reads (db : SchedDb sc) (y : Oid) : PathCall → Prop
  | .setGroup foreign fuel x oid =>
    oid ≠ Oid.null ∧ ∃ g s, db.groups.lookup x = some g ∧ db.scheduler x.lchip oid = some s ∧
      WalkReads (db.bindGroup x g oid s) foreign (fun _ schedId => schedId = oid) fuel x.lchip
        (portQueues sc x.lchip) y
  | .setAttribute foreign fuel oid attr =>
    attr.classes = true ∧ ∃ s s', db.schedulers.lookup oid = some s ∧ s.changed attr = some s' ∧
      ∃ a ∈ portQueues sc oid.lchip, ∃ k q,
        db.queueOf (fun q => q.schId ≠ 0) oid.lchip a.1 a.2 = some (k, q) ∧
        y ∈ walkReads { db with schedulers := db.schedulers.insert oid s' } foreign oid.lchip
          (fun _ schedId => schedId = oid) fuel q.schGrp
  | .setParent foreign fuel x parent =>
    ∃ g, db.groups.lookup x = some g ∧ WalkReads (db.moveGroup x g parent) foreign
      (fun y _ => y = x) fuel x.lchip (groupQueues x) y
  | .attach .. => False

/-- The walks of a call read records of groups and attach once more just whom it concerns. -/
structure ExactWalks (db : SchedDb sc) (op : PathCall) : Prop where
  reads : ∀ y, op.Reads db y → ∃ g, db.groups.lookup y = some g
  exact : ∀ k, op.Reapplied db k ↔ op.Concerned db k

/-! ## What a loop reads and whom it concerns -/

theorem queueOf_key {sel : Queue → Bool} {gport : BitVec 32} {i : BitVec 8} {q : Queue}
    (h : db.queueOf sel c gport i = some (k, q)) :
    k.value = gport ∧ k.value2.setWidth 8 = i := by
  have hkey : ∀ type : BitVec 8, (queueOid c type (i.setWidth 16) gport).value = gport ∧
      (queueOid c type (i.setWidth 16) gport).value2.setWidth 8 = i := by
    intro type
    refine ⟨rfl, ?_⟩
    show (i.setWidth 16).setWidth 8 = i
    rw [BitVec.setWidth_setWidth_of_le i (by decide : 8 ≤ 16), BitVec.setWidth_eq]
  simp only [SchedDb.queueOf] at h
  split at h
  · cases h
    exact hkey _
  · obtain ⟨q', -, he⟩ := Option.map_eq_some_iff.mp h
    cases he
    exact hkey _

theorem HitAbove.attached (h : HitAbove db c hit x) : ∃ l, db.link c x = some l := by
  obtain ⟨y, s, p, hclimb, hy, -⟩ := h
  cases hclimb with
  | here => exact ⟨_, hy⟩
  | up hl _ => exact ⟨_, hl⟩

theorem SchedDb.Hangs.below (h : db.Hangs c hit k) (hkeys : GroupKeys db) :
    ∃ G, db.Below k G ∧ HitAbove db c hit G := by
  obtain ⟨q, hq, -, hh⟩ := h
  obtain ⟨l, hl⟩ := hh.attached
  obtain ⟨g, hg, -⟩ := link_lookup hl
  exact ⟨q.schGrp, ⟨hkeys _ g hg, q, hq, rfl⟩, hh⟩

/-- A loop reads records of groups, and attaches once more the queues in its list that hang below
what it looks for. -/
theorem PathTree.loop_exact (h : PathTree pq db) (hends : WalksEnd db foreign hit fuel c l)
    (hstay : WalksStay db foreign c hit l) :
    (∀ y, WalkReads db foreign hit fuel c l y → ∃ g, db.groups.lookup y = some g) ∧
      ∀ k, Reapplies db foreign hit fuel c l k ↔
        (k.value, k.value2.setWidth 8) ∈ l ∧ db.Hangs c hit k := by
  have hfound : ∀ {a : BitVec 32 × BitVec 8} {k : Oid} {q : Queue}, a ∈ l →
      db.queueOf (fun q => q.schGrp ≠ Oid.null) c a.1 a.2 = some (k, q) →
      db.queues.lookup k = some q ∧ q.schGrp ≠ Oid.null ∧ k.lchip = c ∧
        (k.value, k.value2.setWidth 8) ∈ l := by
    intro a k q ha hq
    obtain ⟨hl, hsel, hc, -⟩ := queueOf_some hq
    obtain ⟨hv, hi⟩ := queueOf_key hq
    exact ⟨hl, of_decide_eq_true hsel, hc, by rw [hv, hi]; exact ha⟩
  refine ⟨?_, fun k => ⟨?_, ?_⟩⟩
  · rintro y ⟨a, ha, k, q, hq, hy⟩
    obtain ⟨hl, hne, hc, hmem⟩ := hfound ha hq
    obtain ⟨b, hb⟩ := hends a ha k q hq
    exact (walk_exact h.keys fuel (hstay k q hl hne hc hmem) hb).1 y hy
  · rintro ⟨a, ha, q, hq, hw⟩
    obtain ⟨hl, hne, hc, hmem⟩ := hfound ha hq
    exact ⟨hmem, q, hl, hc, (walk_exact h.keys fuel (hstay k q hl hne hc hmem) hw).2.mp rfl⟩
  · rintro ⟨hmem, q, hq, rfl, hh⟩
    exact h.reapplies_of_hit hq hmem hends hh

theorem PathTree.climbs_value (h : PathTree pq db) (hc : Climbs db c x y)
    (hy : ∃ l, db.link c y = some l) : y.value = x.value := by
  induction hc with
  | here => rfl
  | @up x s p y hl hrest ih =>
    obtain ⟨l, hp⟩ : ∃ l, db.link c p = some l := by
      cases hrest with
      | here => exact hy
      | up hl' _ => exact ⟨_, hl'⟩
    exact (ih hy).trans (h.onPort c x s p l hl hp)

/-! ### A profile is set on a group -/

section Bind

variable {g : SchedGroup} {s : Scheduler}

theorem bindGroup_hit (hp : SameParents db db') (hlink : ∀ y, db'.link x.lchip y =
      if y = x then some (oid, g.parentId) else db.link x.lchip y)
    (hg : db.groups.lookup x = some g) (hne : oid ≠ Oid.null) :
    HitAbove db' x.lchip (fun _ schedId => schedId = oid) y ↔
      HitAbove db x.lchip (groupHit x oid) y := by
  constructor
  · rintro ⟨z, s, p, hclimb, hz, hhit⟩
    rw [hlink] at hz
    split at hz
    · next he =>
      subst he
      exact ⟨z, _, _, hp.symm.climbs hclimb, link_of_lookup rfl hg, decide_eq_true (.inl rfl)⟩
    · exact ⟨z, s, p, hp.symm.climbs hclimb, hz,
        decide_eq_true (.inr ⟨hne, of_decide_eq_true hhit⟩)⟩
  · rintro ⟨z, s, p, hclimb, hz, hhit⟩
    by_cases he : z = x
    · subst he
      exact ⟨z, oid, g.parentId, hp.climbs hclimb, by rw [hlink, if_pos rfl], decide_eq_true rfl⟩
    · refine ⟨z, s, p, hp.climbs hclimb, by rw [hlink, if_neg he]; exact hz, ?_⟩
      exact decide_eq_true ((of_decide_eq_true hhit).resolve_left he).2

end Bind

theorem PathsInv.exact_setGroup (h : PathsInv pq db) {r : Status × SchedDb sc}
    (hsafe : PathSafe pq db (.setGroup foreign fuel x oid))
    (hr : setGroupScheduler db foreign fuel x oid = some r) (hst : r.1 = .success) :
    ExactWalks db (.setGroup foreign fuel x oid) := by
  rcases h.tree.setGroup_cases h.quiet hr with ⟨-, hidle⟩ | ⟨hnull, g, s, hg, hs, -, -⟩ |
    ⟨hne, g, s, r', hg, hs, hruns, -, -, -⟩
  · obtain ⟨hnull, g, hg, hs⟩ := hidle hst
    refine ⟨fun y hy => absurd hnull hy.1, fun k => ⟨fun hk => absurd hnull hk.1, fun hk => ?_⟩⟩
    exact absurd hs (hk.1 hnull g hg)
  · refine ⟨fun y hy => absurd hnull hy.1, fun k => ⟨fun hk => absurd hnull hk.1, ?_⟩⟩
    rintro ⟨-, hk⟩
    obtain ⟨G, hb, y, s', p, hclimb, -, hhit⟩ := hk.below h.tree.keys
    obtain rfl : y = x := (of_decide_eq_true hhit).resolve_right fun hf => hf.1 hnull
    obtain ⟨q, hq, hc, -⟩ := hk
    rw [← hc] at hclimb
    exact absurd hclimb (hsafe.1 hnull g hg hs k G hb)
  obtain ⟨hp, htree, -, hlink⟩ := h.tree.bindGroup hg hs
  have hlink' : ∀ y, (db.bindGroup x g oid s).link x.lchip y =
      if y = x then some (oid, g.parentId) else db.link x.lchip y := by
    intro y
    rw [hlink]
    simp only [and_true]
  have hhit : ∀ y, HitAbove (db.bindGroup x g oid s) x.lchip (fun _ schedId => schedId = oid) y ↔
      HitAbove db x.lchip (groupHit x oid) y := fun y => bindGroup_hit hp hlink' hg hne
  have hstay : WalksStay (db.bindGroup x g oid s) foreign x.lchip
      (fun _ schedId => schedId = oid) (portQueues sc x.lchip) := by
    intro k q hq hn hc hmem
    rw [hp.queues] at hq
    refine (hsafe.2 hne g s hg hs k q hq hn hc hmem).imp (hhit _).mpr fun hall y hclimb hl => ?_
    exact hall y (hp.symm.climbs hclimb) (hp.symm.link_none hl)
  obtain ⟨hreads, hexact⟩ := htree.loop_exact hruns.ends hstay
  constructor
  · rintro y ⟨-, g', s', hg', hs', hy⟩
    cases hg.symm.trans hg'
    cases hs.symm.trans hs'
    obtain ⟨g₁, hg₁⟩ := hreads y hy
    obtain ⟨s₁, hl⟩ := hp.symm.link (link_of_lookup rfl hg₁)
    obtain ⟨g₂, hg₂, -⟩ := link_lookup hl
    exact ⟨g₂, hg₂⟩
  · intro k
    have hk : (db.bindGroup x g oid s).Hangs x.lchip (fun _ schedId => schedId = oid) k ↔
        db.Hangs x.lchip (groupHit x oid) k := by
      simp only [SchedDb.Hangs, hp.queues, hhit]
    constructor
    · rintro ⟨-, g', s', hg', hs', hre⟩
      cases hg.symm.trans hg'
      cases hs.symm.trans hs'
      exact ⟨fun hn => absurd hn hne, hk.mp ((hexact k).mp hre).2⟩
    · rintro ⟨-, hh⟩
      refine ⟨hne, g, s, hg, hs, (hexact k).mpr ⟨?_, hk.mpr hh⟩⟩
      obtain ⟨G, ⟨hG, q, hq, rfl⟩, -⟩ := hh.below h.tree.keys
      obtain ⟨q', -, hc, -⟩ := hh
      rw [← hc]
      exact (h.tree.visited hq fun hn => null_ne_group (hn ▸ hG)).1

/-! ### A profile changes -/

theorem PathsInv.exact_setAttribute (h : PathsInv pq db) {attr : SchedulerAttr}
    (hsafe : PathSafe pq db (.setAttribute foreign fuel oid attr)) :
    ExactWalks db (.setAttribute foreign fuel oid attr) := by
  have hidle : ∀ {gport : BitVec 32} {i : BitVec 8} {k : Oid} {q : Queue},
      db.queueOf (fun q => q.schId ≠ 0) oid.lchip gport i ≠ some (k, q) := by
    intro gport i k q hq
    obtain ⟨hl, hsel, -⟩ := queueOf_some hq
    exact of_decide_eq_true hsel (h.tree.queues k q hl).1
  constructor
  · rintro y ⟨-, s, s', -, -, a, -, k, q, hq, -⟩
    exact absurd hq hidle
  · intro k
    constructor
    · rintro ⟨-, s, s', -, -, a, -, q, hq, -⟩
      exact absurd hq hidle
    · rintro ⟨hclasses, ⟨s, s', hs, hchanged⟩, hk⟩
      obtain ⟨G, hb, hh⟩ := hk.below h.tree.keys
      obtain ⟨q, -, hc, -⟩ := hk
      rw [← hc] at hh
      exact absurd hh (hsafe hclasses s s' hs hchanged k G hb)

/-! ### A group moves -/

namespace Reparented

theorem climbs_to (h : Reparented db db' x parent) (hc : Climbs db c y x) : Climbs db' c y x := by
  induction hc with
  | here => exact .here _
  | @up y s p z hl hrest ih =>
    by_cases hy : y = z
    · subst hy
      exact .here y
    have hl' : db'.link c y = some (s, p) := by
      rw [h.link, if_neg hy]
      exact hl
    exact .up hl' (ih h)

theorem climbs_of (h : Reparented db db' x parent) {z : Oid} (hc : Climbs db' c y z) :
    Climbs db c y x ∨ Climbs db c y z := by
  induction hc with
  | here => exact .inr (.here _)
  | @up y s p z hl hrest ih =>
    by_cases hy : y = x
    · subst hy
      exact .inl (.here y)
    · rw [h.link, if_neg hy] at hl
      exact ih.imp (.up hl) (.up hl)

theorem hitAbove (h : Reparented db db' x parent) :
    HitAbove db' c (fun z _ => z = x) y ↔ HitAbove db c (fun z _ => z = x) y := by
  constructor
  · rintro ⟨z, s, p, hclimb, hz, hhit⟩
    obtain rfl : z = x := of_decide_eq_true hhit
    obtain ⟨l, hl⟩ := h.isSome.mp ⟨_, hz⟩
    exact ⟨z, l.1, l.2, (h.climbs_of hclimb).elim id id, hl, hhit⟩
  · rintro ⟨z, s, p, hclimb, hz, hhit⟩
    obtain rfl : z = x := of_decide_eq_true hhit
    obtain ⟨l, hl⟩ := h.isSome.mpr ⟨_, hz⟩
    exact ⟨z, l.1, l.2, h.climbs_to hclimb, hl, hhit⟩

theorem endsInGroups (h : Reparented db db' x parent) (hx : ∃ l, db.link c x = some l)
    (hends : EndsInGroups db foreign c (fun z _ => z = x) y) :
    EndsInGroups db' foreign c (fun z _ => z = x) y := by
  obtain ⟨l, hl⟩ := hx
  have hself : Climbs db c y x → EndsInGroups db' foreign c (fun z _ => z = x) y :=
    fun hclimb => .inl (h.hitAbove.mpr ⟨x, l.1, l.2, hclimb, hl, decide_eq_true rfl⟩)
  rcases hends with hhit | hall
  · exact .inl (h.hitAbove.mpr hhit)
  by_cases hclimb : Climbs db c y x
  · exact hself hclimb
  · refine .inr fun z hz hn => ?_
    refine hall z ((h.climbs_of hz).resolve_left hclimb) ?_
    rw [h.link] at hn
    split at hn
    · exact Option.map_eq_none_iff.mp hn
    · exact hn

end Reparented

theorem PathsInv.exact_setParent (h : PathsInv pq db) {r : Status × SchedDb sc}
    (hsafe : PathSafe pq db (.setParent foreign fuel x parent))
    (hr : setGroupParent db foreign fuel x parent = some r) (hst : r.1 = .success) :
    ExactWalks db (.setParent foreign fuel x parent) := by
  rcases h.tree.setParent_cases h.quiet (fun hm => (hsafe hm).1) hr with ⟨-, hne⟩ |
    ⟨g, hg, hmoves, hruns⟩
  · exact absurd hst hne
  obtain ⟨hreparent, hstay⟩ := hsafe hmoves
  obtain ⟨hmoved, htree⟩ := h.tree.moveGroup hg hreparent
  have hx : ∃ l, db.link x.lchip x = some l := ⟨_, link_of_lookup rfl hg⟩
  have hstay' : WalksStay (db.moveGroup x g parent) foreign x.lchip (fun y _ => y = x)
      (groupQueues x) := by
    intro k q hq hn hc hmem
    rw [hmoved.queues] at hq
    exact hmoved.endsInGroups hx (hstay k q hq hn hc hmem)
  obtain ⟨hreads, hexact⟩ := htree.loop_exact hruns.ends hstay'
  constructor
  · rintro y ⟨g', hg', hy⟩
    cases hg.symm.trans hg'
    obtain ⟨g₁, hg₁⟩ := hreads y hy
    obtain ⟨l, hl⟩ := hmoved.isSome.mp ⟨_, link_of_lookup rfl hg₁⟩
    obtain ⟨g₂, hg₂, -⟩ := link_lookup hl
    exact ⟨g₂, hg₂⟩
  · intro k
    have hk : (db.moveGroup x g parent).Hangs x.lchip (fun y _ => y = x) k ↔
        db.Hangs x.lchip (fun y _ => y = x) k := by
      simp only [SchedDb.Hangs, hmoved.queues, hmoved.hitAbove]
    constructor
    · rintro ⟨g', hg', hre⟩
      cases hg.symm.trans hg'
      exact hk.mp ((hexact k).mp hre).2
    · intro hh
      refine ⟨g, hg, (hexact k).mpr ⟨?_, hk.mpr hh⟩⟩
      -- what hangs below the group is a queue of its port
      obtain ⟨G, hb, y, s, p, hclimb, hy, hhit⟩ := hh.below h.tree.keys
      obtain rfl : y = x := of_decide_eq_true hhit
      obtain ⟨-, -, hv⟩ := h.tree.onOwnPort hb
      obtain ⟨hG, q, hq, rfl⟩ := hb
      obtain ⟨-, hi, -⟩ := h.tree.visited hq fun hn => null_ne_group (hn ▸ hG)
      refine List.mem_map.mpr ⟨_, hi, ?_⟩
      rw [hv, h.tree.climbs_value hclimb ⟨_, hy⟩]

/-! ## Every run -/

theorem PathStart.inv (h : PathStart db) : PathsInv pq db := by
  have hnone : ∀ k G, ¬ db.Below k G := by
    rintro k G ⟨hG, q, hq, rfl⟩
    rw [(h.queues k q hq).1] at hG
    exact null_ne_group hG
  refine ⟨⟨h.keys, h.live, fun k q hq => ?_, h.onPort, fun k G hb => absurd hb (hnone k G),
    fun k G hb => absurd hb (hnone k G), fun k G _ _ hb => absurd hb (hnone k G)⟩, h.quiet, ?_⟩
  · exact ⟨(h.queues k q hq).2, fun hne => absurd (h.queues k q hq).1 hne⟩
  · rw [h.regs]
    exact ⟨fun k G hb => absurd hb (hnone k G), fun _ _ => rfl⟩

theorem PathsInv.step (h : PathsInv pq db) {op : PathCall} (hsafe : PathSafe pq db op)
    (hst : pathStep pq db op = some db') : PathsInv pq db' := by
  obtain ⟨r, hr, rfl⟩ := Option.map_eq_some_iff.mp hst
  cases op with
  | setGroup foreign fuel x oid => exact h.setGroup hsafe.1 hr
  | setAttribute foreign fuel oid attr => exact h.setAttribute hsafe hr
  | setParent foreign fuel x parent => exact h.setParent (fun hm => (hsafe hm).1) hr
  | attach mem foreign c port i oid =>
    simp only [PathCall.call] at hr
    split at hr
    · next hin =>
      cases hr
      exact h.attach ⟨c, port, hin.1, i, hin.2, rfl⟩ hsafe
    · cases hr

theorem PathsInv.exactWalks (h : PathsInv pq db) {op : PathCall} {r : Status × SchedDb sc}
    (hsafe : PathSafe pq db op) (hr : op.call pq db = some r) (hst : r.1 = .success) :
    ExactWalks db op := by
  cases op with
  | setGroup foreign fuel x oid => exact h.exact_setGroup hsafe hr hst
  | setAttribute foreign fuel oid attr => exact h.exact_setAttribute hsafe
  | setParent foreign fuel x parent => exact h.exact_setParent hsafe hr hst
  | attach mem foreign c port i oid => exact ⟨fun _ => False.elim, fun _ => Iff.rfl⟩

/-- An exceed register is on the path of its own queue only. -/
theorem PathTree.of_exceed (h : PathTree pq db) {k' : Oid} (hk : IsPortQueue sc pq k)
    (hb : db.Below k' G) {r : SchedReg} (hr : r ∈ exceedRegs k) (hr' : r ∈ pathRegs sc k' G) :
    k' = k := by
  simp only [exceedRegs, List.mem_cons, List.not_mem_nil, or_false] at hr
  refine (h.onOwnPort hb).1.ext hk ?_ ?_ ?_
  all_goals
    rcases hr with rfl | rfl
    · rcases pathRegs_cases hr' with he | he | ⟨_, _, he | he⟩
      · injection he with hc hv hi
        simp only [hc, hv, hi]
      · cases he
      · cases he
      · cases he
    rcases pathRegs_cases hr' with he | he | ⟨_, _, he | he⟩
    · cases he
    · injection he with hc hv hi
      simp only [hc, hv, hi]
    · cases he
    · cases he

theorem PathsInv.freshRegs (h : PathsInv pq db) : FreshRegs pq db where
  attached k G hb foreign shapes r hr := by
    rw [fresh_eq h.tree.live (h.tree.whole k G hb)]
    by_cases hpath : r ∈ pathRegs sc k G
    · exact h.right.path k G hb r hpath
    -- an exceed register of a queue below a group of level 1
    have hexceed := (List.mem_append.mp hr).resolve_right hpath
    rw [SchedDb.fresh, replay_of_not_mem fun hm =>
      hpath (mem_pathRegs (h.tree.whole k G hb) hm)]
    refine h.right.rest r fun k' G' hb' hr' => ?_
    obtain rfl := h.tree.of_exceed (h.tree.onOwnPort hb).1 hb' hexceed hr'
    rw [Below.unique hb hb'] at hpath
    exact hpath hr'
  alone k hk hnone r hr := by
    refine h.right.rest r fun k' G' hb' hr' => ?_
    obtain rfl := h.tree.of_exceed hk hb' hr hr'
    exact hnone G' hb'

/-- In every run that forgets nothing the registers of every queue are those of a fresh attach,
and the walks of a call read records of groups only and attach once more the queues below what
it changes. -/
theorem paths_of_run (h : Reachable PathStart (PathSafe pq) (pathStep pq) db) :
    FreshRegs pq db ∧ ∀ op r, PathSafe pq db op → op.call pq db = some r → r.1 = .success →
      ExactWalks db op := by
  have hinv : PathsInv pq db :=
    h.inv (fun _ hs => hs.inv) fun _ _ _ hs hsafe hst => hs.step hsafe hst
  exact ⟨hinv.freshRegs, fun op r hsafe hr hst => hinv.exactWalks hsafe hr hst⟩

/-! ## Runs on one port -/

/-- Two groups of level 1 on port 3, and one of level 2 below the first, with a DWRR profile. -/
def pathGroups : Table Oid SchedGroup :=
  (((∅ : Table Oid SchedGroup).insert (portGroup 1 0)
    ⟨[portGroup 2 5], ObjectType.schedulerGroup.bits, schedPort, Oid.null, 8⟩).insert
    (portGroup 1 1) ⟨[], 0, schedPort, Oid.null, 8⟩).insert
    (portGroup 2 5) ⟨[], 0, portGroup 1 0, wdrrProfile 1, 8⟩

def pathInitial : SchedDb .plain :=
  ⟨wdrrProfiles, pathGroups, ∅, ∅, fun _ => Pool.empty _, ⟨defaultReg, fun _ => none, []⟩⟩

theorem pathInitial_link {c : Lchip} {x s p : Oid} (h : pathInitial.link c x = some (s, p)) :
    ((x = portGroup 1 0 ∨ x = portGroup 1 1) ∧ s = Oid.null ∧ p = schedPort) ∨
      (x = portGroup 2 5 ∧ s = wdrrProfile 1 ∧ p = portGroup 1 0 ∧ c = 0) := by
  obtain ⟨g, hg, hc, he⟩ := link_lookup h
  have hg' : pathGroups.lookup x = some g := hg
  simp only [pathGroups, Table.lookup_insert_ite] at hg'
  split at hg'
  · next hx =>
    cases hg'
    cases he
    subst hx
    exact .inr ⟨rfl, rfl, rfl, hc.symm⟩
  split at hg'
  · next hx =>
    cases hg'
    cases he
    exact .inl ⟨.inr hx, rfl, rfl⟩
  split at hg'
  · next hx =>
    cases hg'
    cases he
    exact .inl ⟨.inl hx, rfl, rfl⟩
  · cases hg'

theorem pathInitial_start : PathStart pathInitial where
  keys p g hg := by
    obtain ⟨c, hl⟩ : ∃ c, pathInitial.link c p = some (g.schedId, g.parentId) :=
      ⟨p.lchip, link_of_lookup rfl hg⟩
    rcases pathInitial_link hl with ⟨rfl | rfl, -⟩ | ⟨rfl, -⟩
    · rfl
    · rfl
    · rfl
  live c x s p hl hs := by
    rcases pathInitial_link hl with ⟨-, rfl, -⟩ | ⟨-, rfl, -, rfl⟩
    · exact absurd rfl hs
    · exact ⟨plainScheduler schedulingTypeDwrr 20, by decide⟩
  onPort c x s p l hl _ := by
    rcases pathInitial_link hl with ⟨rfl | rfl, -, rfl⟩ | ⟨rfl, -, rfl, -⟩
    · rfl
    · rfl
    · rfl
  queues _ _ h := by cases h
  quiet := rfl
  regs := rfl

/-- The queue of port 3 with index `i`. -/
def pathQueue (i : BitVec 8) : Oid := portQueue eightQueues 0 3 i

theorem groupGets_first {db : SchedDb .plain} {k oid : Oid}
    (hfree : ∀ a q, db.queues.lookup a = some q → q.schGrp = Oid.null)
    (htakes : ParentTakes db k.lchip oid k) (hwhole : WholePath db k.lchip oid) :
    GroupGets db k oid := by
  have hnone : ∀ {a G : Oid} {p : Prop}, db.Below a G → p := by
    rintro a G p ⟨hG, q, hq, rfl⟩
    rw [hfree a q hq] at hG
    exact absurd hG null_ne_group
  exact ⟨htakes, hwhole, fun _ _ _ _ hb => hnone hb, fun _ hb => hnone hb⟩

/-- Queue 2 is attached below the group of level 2, and then the group of level 1 gets a DWRR
profile. -/
theorem paths_of_run_attached : ∃ db : SchedDb .plain, FreshRegs eightQueues db ∧
    db.hw.regs (.queueExceedClass 0 3 2) = 5 ∧ db.hw.regs (.queueExceedWeight 0 3 2) = 20 ∧
      db.hw.regs (.groupConfirmClass 0 3 0 5) = 0 ∧
      db.hw.regs (.groupConfirmWeight 0 3 0 5) = 20 := by
  have r₀ : Reachable PathStart (PathSafe eightQueues) (pathStep eightQueues) pathInitial :=
    .start pathInitial_start
  have r₁ := r₀.next (.attach .ok (fun _ => none) 0 3 2 (portGroup 2 5)) (by
    intro _ _
    refine ⟨fun _ _ => groupGets_first (fun _ _ h => (nomatch h)) ?_ ?_, fun ht => ?_⟩
    · exact .inr ⟨rfl, .inl rfl, _, rfl, .inr ⟨by decide, .inl rfl⟩⟩
    · rintro x (rfl | hx)
      · exact ⟨_, rfl⟩
      · cases hx
        exact ⟨_, rfl⟩
    · cases ht) rfl
  have r₂ := r₁.next (.setGroup (fun _ => none) 4 (portGroup 1 0) (wdrrProfile 1)) (by
    refine ⟨fun hn => absurd hn (by decide), ?_⟩
    intro _ g s _ _ k q _ _ _ _
    exact .inr fun _ _ _ => rfl) rfl
  exact ⟨_, (paths_of_run r₂).1, by decide, by decide, by decide, by decide⟩

theorem not_freshRegs {db : SchedDb .plain} {k G : Oid} {r : SchedReg} (hb : db.Below k G)
    (hr : r ∈ exceedRegs k ++ pathRegs .plain k G)
    (hne : db.hw.regs r ≠
      (applyQueueToGroup db (fun _ => none) k G true ⟨defaultReg, fun _ => none, []⟩).2.regs r) :
    ¬ FreshRegs eightQueues db :=
  fun h => hne (h.attached k G hb _ _ r hr)

/-- The profile of the group of a queue is cleared; its weight changes; the queue moves to
another group; and of two queues in one class one is detached.  Each time a register is not that of
a fresh attach.  A profile that is set on a group is looked for above a queue of the port
itself, in the record of the port. -/
theorem paths_not_every_run :
    (∃ db : SchedDb .plain, Reachable PathStart anyStep (pathStep eightQueues) db ∧
      db.Below (pathQueue 2) (portGroup 2 5) ∧ (∀ g, db.groups.lookup (portGroup 2 5) = some g →
        g.schedId = Oid.null) ∧ ¬ FreshRegs eightQueues db) ∧
    (∃ db : SchedDb .plain, Reachable PathStart anyStep (pathStep eightQueues) db ∧
      (∀ s, db.schedulers.lookup (wdrrProfile 1) = some s → s.weight = 30) ∧
      ¬ FreshRegs eightQueues db) ∧
    (∃ db : SchedDb .plain, Reachable PathStart anyStep (pathStep eightQueues) db ∧
      db.Below (pathQueue 2) (portGroup 1 1) ∧ ¬ FreshRegs eightQueues db) ∧
    (∃ db : SchedDb .plain, Reachable PathStart anyStep (pathStep eightQueues) db ∧
      db.Below (pathQueue 3) (portGroup 2 5) ∧ ¬ FreshRegs eightQueues db) ∧
    (∃ (db : SchedDb .plain) (op : PathCall) (r : Status × SchedDb .plain),
      Reachable PathStart anyStep (pathStep eightQueues) db ∧
      op.call eightQueues db = some r ∧ r.1 = .success ∧ op.Reads db schedPort ∧
      db.groups.lookup schedPort = none ∧ ¬ ExactWalks db op) := by
  have r₀ : Reachable PathStart anyStep (pathStep eightQueues) pathInitial :=
    .start pathInitial_start
  have r₁ := r₀.next (.attach .ok (fun _ => none) 0 3 2 (portGroup 2 5)) trivial rfl
  have r₂ := r₁.next (.setGroup (fun _ => none) 4 (portGroup 2 5) Oid.null) trivial rfl
  have r₃ := r₁.next (.setAttribute (fun _ => none) 4 (wdrrProfile 1) (.schedulingWeight 30))
    trivial rfl
  have r₄ := r₁.next (.attach .ok (fun _ => none) 0 3 2 (portGroup 1 1)) trivial rfl
  have r₅ := r₁.next (.attach .ok (fun _ => none) 0 3 3 (portGroup 2 5)) trivial rfl
  have r₆ := r₅.next (.attach .ok (fun _ => none) 0 3 2 Oid.null) trivial rfl
  obtain ⟨db₇, hdb₇⟩ : ∃ db, pathStep eightQueues pathInitial
      (.attach .ok (fun _ => none) 0 3 2 schedPort) = some db := ⟨_, rfl⟩
  have r₇ := r₀.next _ trivial hdb₇
  have hbelow : ∀ {db : SchedDb .plain} {k G : Oid} (q : Queue), db.queues.lookup k = some q →
      IsSchedGroup G → q.schGrp = G → db.Below k G := fun q hq hG he => ⟨hG, q, hq, he⟩
  have hfive : IsSchedGroup (portGroup 2 5) := rfl
  have hone : IsSchedGroup (portGroup 1 1) := rfl
  refine ⟨⟨_, r₂, hbelow _ rfl hfive rfl, fun g hg => ?_, ?_⟩, ⟨_, r₃, fun s hs => ?_, ?_⟩,
    ⟨_, r₄, hbelow _ rfl hone rfl, ?_⟩, ⟨_, r₆, hbelow _ rfl hfive rfl, ?_⟩, ?_⟩
  · cases hg
    rfl
  · exact not_freshRegs (k := pathQueue 2) (r := .queueExceedWeight 0 3 2)
      (hbelow _ rfl hfive rfl) (by decide) (by decide)
  · cases hs
    rfl
  · exact not_freshRegs (k := pathQueue 2) (r := .queueExceedWeight 0 3 2)
      (hbelow _ rfl hfive rfl) (by decide) (by decide)
  · exact not_freshRegs (k := pathQueue 2) (r := .queueExceedClass 0 3 2)
      (hbelow _ rfl hone rfl) (by decide) (by decide)
  · exact not_freshRegs (k := pathQueue 3) (r := .groupConfirmClass 0 3 0 5)
      (hbelow _ rfl hfive rfl) (by decide) (by decide)
  · -- the record of the port has the profile too
    let op : PathCall :=
      .setGroup (fun _ => some (wdrrProfile 1, Oid.null)) 4 (portGroup 1 0) (wdrrProfile 1)
    obtain ⟨hreads, r, hr, hst, hnone⟩ : op.Reads db₇ schedPort ∧ ∃ r,
        op.call eightQueues db₇ = some r ∧ r.1 = .success ∧
        db₇.groups.lookup schedPort = none := by
      cases hdb₇
      refine ⟨⟨by decide, _, _, rfl, rfl, (3, 2), by decide, pathQueue 2, _, rfl, ?_⟩, _, rfl, rfl,
        rfl⟩
      exact List.mem_cons_self
    refine ⟨db₇, op, r, r₇, hr, hst, hreads, hnone, fun h => ?_⟩
    obtain ⟨g, hg⟩ := h.reads schedPort hreads
    cases hnone.symm.trans hg

end CtcSai
