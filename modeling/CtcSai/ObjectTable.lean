/-
# `ObjectTable` — the objects of a chip, ctc_sai_db.c

A hash per object type keeps nodes that name an object id and point to its
data.  A hash is a list of nodes here: it is searched by the comparison of the
ids and takes what is inserted without looking.  A node that was given back is
`none`, and so is a call that reads one.
-/
import CtcSai.Saitypes
import CtcSai.Lib.Run

namespace CtcSai

open Function Runs

/-- `ctc_sai_oid_property_t`; NULL data is `none`. -/
structure OidProperty (D : Type) where
  oid : Oid
  data : Option D
deriving DecidableEq

/-- `oid_hash`, and the nodes that were allocated, by the order of their
allocation. -/
structure ObjectDb (D : Type) where
  oidHash : BitVec 7 → List Nat
  node : Nat → Option (OidProperty D)
  next : Nat

variable {D : Type}

def ObjectDb.empty : ObjectDb D := ⟨fun _ => [], fun _ => none, 0⟩

/-- `ctc_hash_lookup` by `_ctc_sai_db_oid_hash_cmp`. -/
def hashLookup (node : Nat → Option (OidProperty D)) (oid : Oid) :
    List Nat → Option (Option (Nat × OidProperty D))
  | [] => some none
  | p :: rest =>
    match node p with
    | none => none
    | some n => if n.oid = oid then some (some (p, n)) else hashLookup node oid rest

/-- `ctc_sai_is_object_type_valid` of `ctc_sai_oid_get_type`. -/
def Oid.typeValid (oid : Oid) : Bool := decide (0 < oid.type.toNat ∧ oid.type.toNat < 95)

def ObjectDb.find (db : ObjectDb D) (oid : Oid) : Option (Option (Nat × OidProperty D)) :=
  hashLookup db.node oid (db.oidHash oid.type)

/-- `ctc_hash_insert`. -/
def ObjectDb.hashInsert (db : ObjectDb D) (t : BitVec 7) (p : Nat) : ObjectDb D :=
  { db with oidHash := update db.oidHash t (db.oidHash t ++ [p]) }

/-- `ctc_sai_db_add_object_property`: a node without data is written, and
inserted once more. -/
def addObjectProperty (mem : Bool) (db : ObjectDb D) (oid : Oid) (data : Option D) :
    Option (Status × ObjectDb D) :=
  if !oid.typeValid then some (.invalidParameter, db)
  else
    match db.find oid with
    | none => none
    | some (some (p, n)) =>
      if n.data.isNone then
        some (.success,
          { db with node := update db.node p (some ⟨oid, data⟩) }.hashInsert oid.type p)
      else some (.itemAlreadyExists, db)
    | some none =>
      if !mem then some (.noMemory, db)
      else
        some (.success, { db with
          node := update db.node db.next (some ⟨oid, data⟩)
          next := db.next + 1 }.hashInsert oid.type db.next)

/-- `ctc_sai_db_remove_object_property`. -/
def removeObjectProperty (db : ObjectDb D) (oid : Oid) : Option (Status × ObjectDb D) :=
  if !oid.typeValid then some (.invalidParameter, db)
  else
    match db.find oid with
    | none => none
    | some none => some (.itemNotFound, db)
    | some (some (p, _)) =>
      some (.success, { db with
        oidHash := update db.oidHash oid.type ((db.oidHash oid.type).erase p)
        node := update db.node p none })

/-- `ctc_sai_db_get_object_property`. -/
def getObjectProperty (db : ObjectDb D) (oid : Oid) : Option (Option D) :=
  if !oid.typeValid then some none
  else (db.find oid).map fun found => found.bind fun e => e.2.data

/-- `ctc_sai_db_get_object_property_count`. -/
def getObjectPropertyCount (db : ObjectDb D) (t : BitVec 7) : Nat := (db.oidHash t).length

/-- The ids that `ctc_hash_traverse` visits. -/
def hashTraverse (node : Nat → Option (OidProperty D)) : List Nat → Option (List Oid)
  | [] => some []
  | p :: rest =>
    match node p with
    | none => none
    | some n => (hashTraverse node rest).map (n.oid :: ·)

/-- `ctc_sai_db_traverse_object_property`. -/
def traverseObjectProperty (db : ObjectDb D) (t : BitVec 7) : Option (List Oid) :=
  hashTraverse db.node (db.oidHash t)

/-! ## Runs -/

/-- The tables, and the data of each object as it was last added. -/
structure ObjectState (D : Type) where
  db : ObjectDb D
  given : Oid → Option (Option D)

inductive ObjectOp (D : Type) where
  | add (mem : Bool) (oid : Oid) (data : Option D)
  | remove (oid : Oid)

def objectStep (s : ObjectState D) : ObjectOp D → Option (ObjectState D)
  | .add mem oid data => (addObjectProperty mem s.db oid data).map fun r =>
    ⟨r.2, if r.1 = .success then update s.given oid (some data) else s.given⟩
  | .remove oid => (removeObjectProperty s.db oid).map fun r =>
    ⟨r.2, update s.given oid none⟩

def ObjectStart (s : ObjectState D) : Prop := s = ⟨.empty, fun _ => none⟩

/-- No object is added that is there without data. -/
def AddsNew (s : ObjectState D) : ObjectOp D → Prop
  | .add _ oid _ => s.given oid ≠ some none
  | .remove _ => True

/-- The tables are the map of what was added: a node for each object, counted
and visited once, and its data. -/
structure IsObjectMap (s : ObjectState D) : Prop where
  visited : ∀ t, ∃ oids, traverseObjectProperty s.db t = some oids ∧ oids.Nodup ∧
    getObjectPropertyCount s.db t = oids.length ∧
    ∀ o, o ∈ oids ↔ o.type = t ∧ (s.given o).isSome
  data : ∀ o, getObjectProperty s.db o = some (s.given o).join

/-! ## The invariant -/

/-- The nodes are those of the objects, each in its table. -/
structure NodesOwned (db : ObjectDb D) (given : Oid → Option (Option D)) : Prop where
  fresh : ∀ p n, db.node p = some n → p < db.next
  table : ∀ t p, p ∈ db.oidHash t ↔ ∃ n, db.node p = some n ∧ n.oid.type = t
  nodup : ∀ t, (db.oidHash t).Nodup
  inj : ∀ p q n m, db.node p = some n → db.node q = some m → n.oid = m.oid → p = q
  named : ∀ o d, given o = some d ↔ ∃ p, db.node p = some ⟨o, d⟩
  valid : ∀ o, (given o).isSome → o.typeValid = true

theorem hashLookup_eq {node : Nat → Option (OidProperty D)} (oid : Oid) {l : List Nat}
    (hl : ∀ p ∈ l, (node p).isSome) :
    (∃ p n, p ∈ l ∧ node p = some n ∧ n.oid = oid ∧ hashLookup node oid l = some (some (p, n))) ∨
      ((∀ p ∈ l, ∀ n, node p = some n → n.oid ≠ oid) ∧ hashLookup node oid l = some none) := by
  induction l with
  | nil => exact .inr ⟨nofun, rfl⟩
  | cons p l ih =>
    obtain ⟨n, hn⟩ := Option.isSome_iff_exists.mp (hl p (List.mem_cons_self ..))
    simp only [hashLookup, hn]
    by_cases ho : n.oid = oid
    · exact .inl ⟨p, n, List.mem_cons_self .., hn, ho, if_pos ho⟩
    rw [if_neg ho]
    rcases ih fun q hq => hl q (List.mem_cons_of_mem p hq) with ⟨q, m, hq, hm⟩ | ⟨hno, he⟩
    · exact .inl ⟨q, m, List.mem_cons_of_mem p hq, hm⟩
    refine .inr ⟨fun q hq m hm => ?_, he⟩
    rcases List.mem_cons.mp hq with rfl | hq
    · rw [hn] at hm
      cases hm
      exact ho
    · exact hno q hq m hm

theorem hashTraverse_eq {node : Nat → Option (OidProperty D)} {l : List Nat} (hnd : l.Nodup)
    (hl : ∀ p ∈ l, (node p).isSome)
    (hinj : ∀ p q n m, node p = some n → node q = some m → n.oid = m.oid → p = q) :
    ∃ oids, hashTraverse node l = some oids ∧ oids.Nodup ∧ oids.length = l.length ∧
      ∀ o, o ∈ oids ↔ ∃ p ∈ l, ∃ n, node p = some n ∧ n.oid = o := by
  induction l with
  | nil => exact ⟨[], rfl, List.nodup_nil, rfl, by simp⟩
  | cons p l ih =>
    obtain ⟨n, hn⟩ := Option.isSome_iff_exists.mp (hl p (List.mem_cons_self ..))
    obtain ⟨hp, hnd⟩ := List.nodup_cons.mp hnd
    obtain ⟨oids, he, hnodup, hlen, hmem⟩ := ih hnd fun q hq => hl q (List.mem_cons_of_mem p hq)
    refine ⟨n.oid :: oids, by simp only [hashTraverse, hn, he, Option.map_some], ?_, ?_, ?_⟩
    · refine List.nodup_cons.mpr ⟨fun ho => ?_, hnodup⟩
      obtain ⟨q, hq, m, hm, hmo⟩ := (hmem n.oid).mp ho
      exact hp (hinj q p m n hm hn hmo ▸ hq)
    · rw [List.length_cons, List.length_cons, hlen]
    · intro o
      rw [List.mem_cons, hmem o]
      constructor
      · rintro (rfl | ⟨q, hq, hm⟩)
        · exact ⟨p, List.mem_cons_self .., n, hn, rfl⟩
        · exact ⟨q, List.mem_cons_of_mem p hq, hm⟩
      · rintro ⟨q, hq, m, hm, rfl⟩
        rcases List.mem_cons.mp hq with rfl | hq
        · rw [hn] at hm
          cases hm
          exact .inl rfl
        · exact .inr ⟨q, hq, m, hm, rfl⟩

namespace NodesOwned

variable {db : ObjectDb D} {given : Oid → Option (Option D)}

theorem live (h : NodesOwned db given) (t : BitVec 7) (p : Nat) (hp : p ∈ db.oidHash t) :
    (db.node p).isSome := by
  obtain ⟨n, hn, -⟩ := (h.table t p).mp hp
  rw [hn]
  rfl

theorem find_some (h : NodesOwned db given) {oid : Oid} {d : Option D}
    (hd : given oid = some d) : ∃ p, db.node p = some ⟨oid, d⟩ ∧
      db.find oid = some (some (p, ⟨oid, d⟩)) := by
  obtain ⟨p, hp⟩ := (h.named oid d).mp hd
  refine ⟨p, hp, ?_⟩
  have hmem : p ∈ db.oidHash oid.type := (h.table _ p).mpr ⟨_, hp, rfl⟩
  rcases hashLookup_eq oid (h.live oid.type) with ⟨q, n, -, hn, ho, he⟩ | ⟨hno, -⟩
  · obtain rfl := h.inj q p n _ hn hp ho
    rw [hp] at hn
    cases hn
    exact he
  · exact absurd rfl (hno p hmem _ hp)

theorem find_none (h : NodesOwned db given) {oid : Oid} (hd : given oid = none) :
    db.find oid = some none := by
  rcases hashLookup_eq oid (h.live oid.type) with ⟨q, n, -, hn, ho, -⟩ | ⟨-, he⟩
  · subst ho
    have hgiven := (h.named n.oid n.data).mpr ⟨q, hn⟩
    rw [hd] at hgiven
    cases hgiven
  · exact he

theorem empty : NodesOwned (ObjectDb.empty : ObjectDb D) fun _ => none where
  fresh := nofun
  table _ _ := ⟨nofun, nofun⟩
  nodup _ := List.nodup_nil
  inj := nofun
  named _ _ := ⟨nofun, nofun⟩
  valid := nofun

/-- A new object has a new node. -/
theorem add (h : NodesOwned db given) {oid : Oid} (hv : oid.typeValid = true)
    (hd : given oid = none) (data : Option D) :
    NodesOwned ({ db with
      node := update db.node db.next (some ⟨oid, data⟩)
      next := db.next + 1 }.hashInsert oid.type db.next)
      (update given oid (some data)) := by
  have hnext : db.node db.next = none := by
    rw [Option.eq_none_iff_forall_ne_some]
    exact fun n hn => absurd (h.fresh _ n hn) (Nat.lt_irrefl _)
  have hother : ∀ p n, db.node p = some n → p ≠ db.next ∧ n.oid ≠ oid := by
    intro p n hn
    refine ⟨fun he => ?_, fun he => ?_⟩
    · rw [he, hnext] at hn
      cases hn
    · have hgiven := (h.named n.oid n.data).mpr ⟨p, hn⟩
      rw [he, hd] at hgiven
      cases hgiven
  have hnode : ∀ p n, update db.node db.next (some ⟨oid, data⟩) p = some n ↔
      (p = db.next ∧ n = ⟨oid, data⟩) ∨ db.node p = some n := by
    intro p n
    rw [update_apply]
    split
    · next hp => subst hp; simp [hnext, eq_comm]
    · next hp => simp [hp]
  refine ⟨fun p n hn => ?_, fun t p => ?_, fun t => ?_, fun p q n m hn hm ho => ?_,
    fun o d => ?_, fun o ho => ?_⟩
  · rcases (hnode p n).mp hn with ⟨rfl, -⟩ | hn
    · exact Nat.lt_succ_self _
    · exact Nat.lt_succ_of_lt (h.fresh p n hn)
  · have hold := h.table t p
    simp only [ObjectDb.hashInsert, update_apply db.oidHash, hnode]
    grind
  · have hold : db.next ∉ db.oidHash t := fun hmem => by
      obtain ⟨n, hn, -⟩ := (h.table t _).mp hmem
      exact (hother _ n hn).1 rfl
    simp only [ObjectDb.hashInsert, update_apply db.oidHash]
    split
    · next ht =>
      subst ht
      exact List.nodup_append'.mpr ⟨h.nodup _, List.nodup_singleton _, by simpa using hold⟩
    · exact h.nodup t
  · rcases (hnode p n).mp hn with ⟨rfl, rfl⟩ | hn
    · rcases (hnode q m).mp hm with ⟨rfl, -⟩ | hm
      · rfl
      · exact absurd ho.symm (hother q m hm).2
    · rcases (hnode q m).mp hm with ⟨rfl, rfl⟩ | hm
      · exact absurd ho (hother p n hn).2
      · exact h.inj p q n m hn hm ho
  · simp only [ObjectDb.hashInsert, update_apply given, hnode]
    split
    · next ho =>
      subst ho
      constructor
      · rintro ⟨rfl⟩
        exact ⟨db.next, .inl ⟨rfl, rfl⟩⟩
      · rintro ⟨p, ⟨-, he⟩ | hp⟩
        · cases he
          rfl
        · exact absurd rfl (hother p _ hp).2
    next ho =>
    rw [h.named o d]
    refine exists_congr fun p => ⟨.inr, fun hp => hp.resolve_left fun he => ho ?_⟩
    exact congrArg OidProperty.oid he.2
  · rw [update_apply] at ho
    split at ho
    · next he => exact he ▸ hv
    · exact h.valid o ho

/-- An object goes with its node. -/
theorem erase (h : NodesOwned db given) {oid : Oid} {d : Option D} {p : Nat}
    (hp : db.node p = some ⟨oid, d⟩) :
    NodesOwned { db with
      oidHash := update db.oidHash oid.type ((db.oidHash oid.type).erase p)
      node := update db.node p none } (update given oid none) := by
  have hnode : ∀ q n, update db.node p none q = some n ↔
      q ≠ p ∧ n.oid ≠ oid ∧ db.node q = some n := by
    intro q n
    rw [update_apply]
    split
    · next hq => simp [hq]
    · next hq => exact ⟨fun hn => ⟨hq, fun ho => hq (h.inj q p n _ hn hp ho), hn⟩, fun hn => hn.2.2⟩
  refine ⟨fun q n hn => h.fresh q n ((hnode q n).mp hn).2.2, fun t q => ?_, fun t => ?_,
    fun q r n m hn hm ho => ?_, fun o e => ?_, fun o ho => ?_⟩
  · have hold := h.table t q
    have hinj := h.inj q p
    have hnodup := h.nodup oid.type
    simp only [update_apply db.oidHash, hnode]
    split
    · next ht =>
      subst ht
      rw [hnodup.mem_erase_iff, hold]
      grind
    · grind
  · simp only [update_apply db.oidHash]
    split
    · next ht => exact (h.nodup _).erase p
    · exact h.nodup t
  · exact h.inj q r n m ((hnode q n).mp hn).2.2 ((hnode r m).mp hm).2.2 ho
  · have hold := h.named o e
    simp only [update_apply given, hnode]
    grind
  · rw [update_apply] at ho
    split at ho
    · cases ho
    · exact h.valid o ho

/-- The nodes are the map. -/
theorem isObjectMap (h : NodesOwned db given) : IsObjectMap ⟨db, given⟩ where
  visited t := by
    obtain ⟨oids, he, hnodup, hlen, hmem⟩ := hashTraverse_eq (h.nodup t) (h.live t) h.inj
    refine ⟨oids, he, hnodup, hlen.symm, fun o => (hmem o).trans ⟨?_, ?_⟩⟩
    · rintro ⟨p, hp, n, hn, rfl⟩
      obtain ⟨m, hm, ht⟩ := (h.table t p).mp hp
      rw [hn] at hm
      cases hm
      exact ⟨ht, Option.isSome_of_mem ((h.named n.oid n.data).mpr ⟨p, hn⟩)⟩
    · rintro ⟨rfl, ho⟩
      obtain ⟨d, hd⟩ := Option.isSome_iff_exists.mp ho
      obtain ⟨p, hp⟩ := (h.named o d).mp hd
      exact ⟨p, (h.table _ p).mpr ⟨_, hp, rfl⟩, _, hp, rfl⟩
  data o := by
    show getObjectProperty db o = some (given o).join
    cases hd : given o with
    | none =>
      rw [getObjectProperty, h.find_none hd]
      split <;> rfl
    | some d =>
      obtain ⟨p, -, hfind⟩ := h.find_some hd
      rw [getObjectProperty, h.valid o (Option.isSome_of_mem hd), hfind]
      rfl

end NodesOwned

theorem objectStep_owned {s s' : ObjectState D} {op : ObjectOp D} (h : NodesOwned s.db s.given)
    (hop : AddsNew s op) (hst : objectStep s op = some s') : NodesOwned s'.db s'.given := by
  cases op with
  | add mem oid data =>
    obtain ⟨r, hr, rfl⟩ := Option.map_eq_some_iff.mp hst
    rw [addObjectProperty] at hr
    split at hr
    · cases hr
      exact h
    next hv =>
    rw [Bool.not_eq_true', Bool.not_eq_false] at hv
    cases hd : s.given oid with
    | none =>
      rw [h.find_none hd] at hr
      dsimp only at hr
      split at hr
      · cases hr
        exact h
      · cases hr
        exact h.add hv hd data
    | some d =>
      obtain ⟨p, -, hfind⟩ := h.find_some hd
      rw [hfind] at hr
      cases d with
      | none => exact absurd hd hop
      | some d =>
        cases hr
        exact h
  | remove oid =>
    obtain ⟨r, hr, rfl⟩ := Option.map_eq_some_iff.mp hst
    have hsame : s.given oid = none → update s.given oid none = s.given :=
      fun hd => update_eq_self_iff.mpr hd.symm
    rw [removeObjectProperty] at hr
    split at hr
    · next hv =>
      have hd : s.given oid = none := by
        by_contra hne
        rw [h.valid oid (Option.isSome_iff_ne_none.mpr hne)] at hv
        cases hv
      cases hr
      dsimp only
      rw [hsame hd]
      exact h
    cases hd : s.given oid with
    | none =>
      rw [h.find_none hd] at hr
      cases hr
      dsimp only
      rw [hsame hd]
      exact h
    | some d =>
      obtain ⟨p, hp, hfind⟩ := h.find_some hd
      rw [hfind] at hr
      cases hr
      exact h.erase hp

/-- In every run that adds no object over one without data, the tables are the
map of what was added. -/
theorem objectMap_of_run {s : ObjectState D}
    (h : Reachable ObjectStart AddsNew objectStep s) : IsObjectMap s := by
  have hi : NodesOwned s.db s.given := by
    refine Reachable.inv (I := fun s => NodesOwned s.db s.given) ?_ ?_ h
    · rintro s rfl
      exact .empty
    · intro s op s' hs hop hst
      exact objectStep_owned hs hop hst
  exact hi.isObjectMap

def bridgeOne : Oid := createObjectId .bridge 0 0 0 1

/-- It is added, removed and added again, beside a next hop with data. -/
theorem objectMap_of_run_bridge : ∃ s : ObjectState Nat, IsObjectMap s ∧
    s.given bridgeOne = some none ∧ s.given (createObjectId .nextHop 0 0 0 1) = some (some 5) := by
  have r₀ : Reachable ObjectStart AddsNew objectStep (⟨.empty, fun _ => none⟩ : ObjectState Nat) :=
    .start rfl
  have r₁ := r₀.next (.add true bridgeOne none) (by simp [AddsNew]) rfl
  have r₂ := r₁.next (.remove bridgeOne) (by simp [AddsNew]) rfl
  have r₃ := r₂.next (.add true bridgeOne none) (by simp [AddsNew]) rfl
  have r₄ := r₃.next (.add true (createObjectId .nextHop 0 0 0 1) (some 5))
    (by show _ ≠ _; decide) rfl
  exact ⟨_, objectMap_of_run r₄, by decide, by decide⟩

/-- It is added twice, and counted twice. -/
theorem objectMap_not_every_run : ∃ s : ObjectState Nat,
    Reachable ObjectStart anyStep objectStep s ∧ ¬ IsObjectMap s := by
  have r₀ : Reachable ObjectStart anyStep objectStep (⟨.empty, fun _ => none⟩ : ObjectState Nat) :=
    .start rfl
  have r₁ := r₀.next (.add true bridgeOne none) trivial rfl
  have r₂ := r₁.next (.add true bridgeOne none) trivial rfl
  refine ⟨_, r₂, fun h => ?_⟩
  obtain ⟨oids, he, hnodup, -⟩ := h.visited bridgeOne.type
  obtain rfl := Option.some.inj he
  exact absurd hnodup (by decide)

end CtcSai
