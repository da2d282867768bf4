/-
# `MirrorRuns` — the slots of mirror session lists, over whole runs

Beside the state stands a table of the users with the slot and the list each
is bound to.  A slot given back and a slot taken change one user of that table
(`SlotInv.release`, `SlotInv.take`), and between the two the counts, the lists
and the ids agree; what the chip and the entries remember is compared with the
table at the end of a call.

The lists have to come sorted, for the sort loses the upper half of every id
that it moves.
-/
import CtcSai.Lib.Ownership
import CtcSai.MirrorBinding

namespace CtcSai

open Function IdPool KeyedTable Ownership Runs Table

/-! ## Sorted lists -/

/-- A list of object ids in the order of their numbers. -/
def Ascending (l : List Oid) : Prop := l.Pairwise fun a b => a.word ≤ b.word

section Sorted

variable {r : List Oid}

theorem mirrorAbove_ascending (h : Ascending r) {i j : Nat} (hij : i < j) :
    mirrorAbove r i j = false := by
  unfold mirrorAbove
  split
  · next a b ha hb =>
    obtain ⟨hi, rfl⟩ := List.getElem?_eq_some_iff.mp ha
    obtain ⟨hj, rfl⟩ := List.getElem?_eq_some_iff.mp hb
    have hle := List.pairwise_iff_getElem.mp h i j hi hj hij
    exact decide_eq_false (BitVec.not_lt.mpr hle)
  · rfl

theorem bubbleForward_ascending (h : Ascending r) (j n : Nat) : bubbleForward j n r = r := by
  induction n generalizing j with
  | zero => rfl
  | succ n ih =>
    rw [bubbleForward, mirrorAbove_ascending h (Nat.lt_succ_self j)]
    exact ih (j + 1)

theorem bubbleBackward_ascending (h : Ascending r) {j n : Nat} (hn : n ≤ j) :
    bubbleBackward j n r = r := by
  induction n generalizing j with
  | zero => rfl
  | succ n ih =>
    rw [bubbleBackward, mirrorAbove_ascending h (by omega)]
    exact ih (by omega)

theorem bubbleSortLoop_ascending (h : Ascending r) (fuel low high : Nat) :
    bubbleSortLoop fuel low high r = r := by
  induction fuel generalizing low high with
  | zero => rfl
  | succ fuel ih =>
    rw [bubbleSortLoop]
    split
    · dsimp only
      rw [bubbleForward_ascending h, bubbleBackward_ascending h (by omega)]
      exact ih _ _
    · rfl

theorem mirrorBubbleSort_ascending (h : Ascending r) : mirrorBubbleSort r = r :=
  bubbleSortLoop_ascending h _ _ _

theorem mirrorLkupHit_ascending (h : Ascending r) (slot : Fin 4 → Option MirrorRes)
    (ns : List (Fin 4)) :
    mirrorLkupHit slot ns r = (r, ns.find? fun n => (slot n).any (·.list = r)) := by
  induction ns with
  | nil => rfl
  | cons n rest ih =>
    rw [mirrorLkupHit, List.find?_cons]
    cases hn : slot n with
    | none => exact ih
    | some res =>
      dsimp only [Option.any_some]
      by_cases heq : res.list = r
      · have hlen : ¬ r.length ≠ res.mirrSess.length := by
          rw [← heq, MirrorRes.list, List.length_map]
          exact fun hne => hne rfl
        rw [if_neg hlen, mirrorBubbleSort_ascending h, if_pos heq.symm, decide_eq_true heq]
      · rw [mirrorBubbleSort_ascending h, if_neg (Ne.symm heq), decide_eq_false heq, ite_self]
        exact ih

end Sorted

/-! ## The ids of a slot -/

/-- The next hops of the sessions that have one. -/
def sessNhIds (sess : List (Oid × Nat)) : Finset Nat :=
  ((sess.filter (·.1.hasNh)).map Prod.snd).toFinset

namespace MirrorRes

def nhIds (r : MirrorRes) : Finset Nat :=
  sessNhIds r.mirrSess ∪ if r.mcNhId ≠ 0 then {r.mcNhId} else ∅

def grpIds (r : MirrorRes) : Finset Nat := if r.mcNhId ≠ 0 then {r.mcGrpId} else ∅

end MirrorRes

def slotIds (ids : MirrorRes → Finset Nat) (slots : MirrorSlot → Option MirrorRes)
    (k : MirrorSlot) : Finset Nat :=
  ((slots k).map ids).getD ∅

theorem slotIds_update (ids : MirrorRes → Finset Nat) (slots : MirrorSlot → Option MirrorRes)
    (k : MirrorSlot) (o : Option MirrorRes) :
    slotIds ids (update slots k o) = update (slotIds ids slots) k ((o.map ids).getD ∅) := by
  funext k'
  by_cases hk : k' = k
  · subst hk
    rw [slotIds, update_self, update_self]
  · rw [slotIds, update_of_ne hk, update_of_ne hk]
    rfl

variable {k : MirrorSlot}

theorem slotIds_same {ids : MirrorRes → Finset Nat} {slots : MirrorSlot → Option MirrorRes}
    {r r' : MirrorRes} (hr : slots k = some r) (hids : ids r' = ids r) :
    slotIds ids (update slots k (some r')) = slotIds ids slots := by
  rw [slotIds_update]
  refine update_eq_self_iff.mpr ?_
  show ids r' = ((slots k).map ids).getD ∅
  rw [hr]
  exact hids

theorem sessNhIds_cons (e : Oid × Nat) (sess : List (Oid × Nat)) : sessNhIds (e :: sess) =
      if e.1.hasNh then insert e.2 (sessNhIds sess) else sessNhIds sess := by
  unfold sessNhIds
  cases he : e.1.hasNh
  · rw [List.filter_cons_of_neg (by simp [he])]
    rfl
  · rw [List.filter_cons_of_pos (by simp [he]), List.map_cons, List.toFinset_cons]
    rfl

section Pools

variable {A : Allocator}

theorem mirrorFreeNexthops_used (sess : List (Oid × Nat)) (pool : Pool A) :
    (mirrorFreeNexthops sess pool).used = pool.used \ sessNhIds sess := by
  unfold mirrorFreeNexthops
  induction sess generalizing pool with
  | nil => exact (Finset.sdiff_empty).symm
  | cons e sess ih =>
    rw [List.foldl_cons, ih, sessNhIds_cons]
    cases he : e.1.hasNh
    · rfl
    · rw [if_pos rfl, if_pos rfl, Pool.used_free, Finset.sdiff_insert]
      ext i
      simp only [Finset.mem_sdiff, Finset.mem_erase]
      tauto

/-- The next hops of a new slot: one for each session that is to have one, and
none of them in use before. -/
theorem mirrorAddNexthops_success {sessions : Oid → Option MirrorSession} {list : List Oid}
    {pool pool' : Pool A} {sess sess' : List (Oid × Nat)}
    (h : mirrorAddNexthops sessions list pool sess = some (.success, pool', sess')) :
    ∃ new, sess' = sess ++ new ∧ new.map Prod.fst = list ∧
      pool'.used = pool.used ∪ sessNhIds new ∧ ∀ i ∈ sessNhIds new, i ∉ pool.used := by
  induction list generalizing pool sess with
  | nil =>
    cases h
    exact ⟨[], (List.append_nil _).symm, rfl, (Finset.union_empty _).symm,
      fun i hi => absurd hi (Finset.notMem_empty i)⟩
  | cons id rest ih =>
    rw [mirrorAddNexthops] at h
    split at h
    · next hnh =>
      split at h
      · cases h
      split at h
      · cases h
      split at h
      · cases h
      next nhId q halloc =>
      obtain ⟨hfresh, -, -, hused, -⟩ := Pool.alloc_some halloc
      obtain ⟨new, rfl, rfl, hused', hnew⟩ := ih h
      refine ⟨(id, nhId) :: new, by rw [List.append_assoc]; rfl, rfl, ?_, ?_⟩
      · rw [hused', hused, sessNhIds_cons, if_pos hnh]
        rw [Finset.insert_union, Finset.union_insert]
      · intro i hi
        rw [sessNhIds_cons, if_pos hnh, Finset.mem_insert] at hi
        rcases hi with rfl | hi
        · exact hfresh
        · have hnot := hnew i hi
          rw [hused, Finset.mem_insert, not_or] at hnot
          exact hnot.2
    · next hnh =>
      obtain ⟨new, rfl, rfl, hused', hnew⟩ := ih h
      refine ⟨(id, 0) :: new, by rw [List.append_assoc]; rfl, rfl, ?_, ?_⟩
      · rw [hused', sessNhIds_cons, if_neg hnh]
      · rw [sessNhIds_cons, if_neg hnh]
        exact hnew

/-- With room in the pool, and without port lists where there may be none, no
session is refused. -/
theorem mirrorAddNexthops_room {sessions : Oid → Option MirrorSession} {list : List Oid} {m : Nat}
    {pool : Pool A} {sess : List (Oid × Nat)}
    (hlists : ∀ id ∈ list, id.hasNh = true → ∀ s, sessions id = some s → s.dstPortListValid = false)
    (hroom : pool.Room (list.countP Oid.hasNh + m)) {r : Status × Pool A × List (Oid × Nat)}
    (h : mirrorAddNexthops sessions list pool sess = some r) :
    r.1 = .success ∧ r.2.1.Room m := by
  induction list generalizing pool sess with
  | nil =>
    cases h
    rw [List.countP_nil, Nat.zero_add] at hroom
    exact ⟨rfl, hroom⟩
  | cons id rest ih =>
    have hrest : ∀ id ∈ rest, id.hasNh = true → ∀ s, sessions id = some s →
        s.dstPortListValid = false := fun id hid => hlists id (List.mem_cons_of_mem _ hid)
    rw [mirrorAddNexthops] at h
    split at h
    · next hnh =>
      rw [List.countP_cons_of_pos hnh, Nat.add_right_comm] at hroom
      obtain ⟨i, q, halloc, hroom⟩ := hroom
      split at h
      · cases h
      · next s hs =>
        rw [hlists id (List.mem_cons_self ..) hnh s hs, halloc] at h
        exact ih hrest hroom h
    · next hnh =>
      rw [List.countP_cons_of_neg hnh] at hroom
      exact ih hrest hroom h

end Pools

/-! ## A slot taken -/

variable {mc : MirrorChip}
variable {db db' : MirrorDb mc} {list : List Oid} {mem : MirrorMem} {type : MirrorDbType}
  {st : Status} {nhs grps : Finset Nat}

/-- What a new slot does to the state. -/
structure NewRes (db : MirrorDb mc) (k : MirrorSlot) (list : List Oid) (db' : MirrorDb mc)
    (r : MirrorRes) : Prop where
  refCnt : r.sessionRefCnt = 1
  list : r.list = list
  slots : db'.slots = update db.slots k (some r)
  sessionId : db'.sessionId = db.sessionId
  nexthop : db'.nexthop.used = db.nexthop.used ∪ r.nhIds
  nexthopFresh : ∀ i ∈ r.nhIds, i ∉ db.nexthop.used
  group : db'.mcastGroup.used = db.mcastGroup.used ∪ r.grpIds
  groupFresh : ∀ i ∈ r.grpIds, i ∉ db.mcastGroup.used

theorem mirrorNewRes_success (h : mirrorNewRes db k list = some (.success, db')) :
    ∃ r, NewRes db k list db' r := by
  unfold mirrorNewRes at h
  split at h
  · cases h
  · next nexthop sess hadd =>
    obtain ⟨new, hsess, hlist, hused, hfresh⟩ := mirrorAddNexthops_success hadd
    subst hsess
    split at h
    · cases h
    · split at h
      · cases h
      · next mcNhId nexthop' halloc =>
        obtain ⟨hnh, hlo, -, hused', -⟩ := Pool.alloc_some halloc
        have h0 : mcNhId ≠ 0 := by
          have hlo3 := mc.nexthop_lo
          omega
        split at h
        · cases h
        next mcGrpId group hgroup =>
        obtain ⟨hgrp, -, -, hgused, -⟩ := Pool.alloc_some hgroup
        split at h
        · cases h
          refine ⟨⟨1, sess, mcNhId, mcGrpId⟩, rfl, hlist, rfl, rfl, ?_, ?_, ?_, ?_⟩
          · dsimp only [MirrorRes.nhIds]
            rw [if_pos h0, hused', hused, ← Finset.union_assoc, Finset.insert_eq, Finset.union_comm]
          · dsimp only [MirrorRes.nhIds]
            rw [if_pos h0]
            intro i hi
            rcases Finset.mem_union.mp hi with hi | hi
            · exact hfresh i hi
            · rw [Finset.mem_singleton.mp hi]
              rw [hused, Finset.mem_union, not_or] at hnh
              exact hnh.1
          · dsimp only [MirrorRes.grpIds]
            rw [if_pos h0, hgused, Finset.insert_eq, Finset.union_comm]
          · dsimp only [MirrorRes.grpIds]
            rw [if_pos h0]
            intro i hi
            rw [Finset.mem_singleton.mp hi]
            exact hgrp
        · cases h
    · split at h
      · cases h
        refine ⟨⟨1, sess, 0, 0⟩, rfl, hlist, rfl, rfl, ?_, ?_, ?_, ?_⟩
        · show nexthop.used = _ ∪ (sessNhIds sess ∪ ∅)
          rw [Finset.union_empty]
          exact hused
        · show ∀ i ∈ sessNhIds sess ∪ ∅, _
          rw [Finset.union_empty]
          exact hfresh
        · exact (Finset.union_empty _).symm
        · exact fun i hi => absurd hi (Finset.notMem_empty i)
      · cases h
  · next status nexthop sess hne hadd =>
    cases h
    exact (hne rfl).elim

/-- The list is in no slot of its kind, and there is all that a new slot
takes. -/
structure MirrorFresh (mem : MirrorMem) (db : MirrorDb mc) (type : MirrorDbType)
    (list : List Oid) : Prop where
  slot : ∃ n, db.slots (type, n) = none
  mem : mem.res = true ∧ mem.sess = true
  lists : ∀ id ∈ list, id.hasNh = true → ∀ s, db.sessions id = some s → s.dstPortListValid = false
  nexthops : db.nexthop.Room
    (list.countP Oid.hasNh + if mirrorIsMcast db.sessions list = some true then 1 else 0)
  group : mirrorIsMcast db.sessions list = some true → db.mcastGroup.Room 1

/-- A slot can be had: the list is in one that is not full, or there is all
that a new one takes. -/
structure MirrorFits (mem : MirrorMem) (db : MirrorDb mc) (type : MirrorDbType)
    (list : List Oid) : Prop where
  shared : ∀ n r, db.slots (type, n) = some r → r.list = list → r.sessionRefCnt ≠ 255
  fresh : (∀ n r, db.slots (type, n) = some r → r.list ≠ list) → MirrorFresh mem db type list

/-- The first id that a new slot would take is refused. -/
def MirrorFirstRefused (db : MirrorDb mc) (list : List Oid) : Prop :=
  match list.filter Oid.hasNh with
  | [] => mirrorIsMcast db.sessions list = some true ∧ db.nexthop.alloc = none
  | id :: _ => (∃ s, db.sessions id = some s ∧ s.dstPortListValid = true) ∨
      db.nexthop.alloc = none

/-- A slot cannot be had, and nothing is taken on the way. -/
structure MirrorRefused (mem : MirrorMem) (db : MirrorDb mc) (type : MirrorDbType)
    (list : List Oid) : Prop where
  alone : ∀ n r, db.slots (type, n) = some r → r.list ≠ list
  early : (∀ n, db.slots (type, n) ≠ none) ∨ (mem.res && mem.sess) = false ∨
    MirrorFirstRefused db list

/-- What `_ctc_sai_mirror_alloc_sess_res` does for a sorted list. -/
inductive MirrorAlloced (mem : MirrorMem) (db : MirrorDb mc) (type : MirrorDbType)
    (list : List Oid) : Status → Option (Fin 4) → MirrorDb mc → Prop where
  | shared (n : Fin 4) (r : MirrorRes) : db.slots (type, n) = some r → r.list = list →
      MirrorAlloced mem db type list .success (some n)
        { db with
          slots := update db.slots (type, n)
            (some { r with sessionRefCnt := r.sessionRefCnt + 1 }) }
  | fresh (n : Fin 4) (r : MirrorRes) (db' : MirrorDb mc) : db.slots (type, n) = none →
      NewRes db (type, n) list db' r → MirrorAlloced mem db type list .success (some n) db'
  | failed (status : Status) (db' : MirrorDb mc) : status ≠ .success →
      ¬ MirrorFits mem db type list → (MirrorRefused mem db type list → db' = db) →
      MirrorAlloced mem db type list status none db'

theorem mirrorNewRes_fresh (hf : MirrorFresh mem db type list)
    (h : mirrorNewRes db k list = some (st, db')) : st = .success := by
  unfold mirrorNewRes at h
  split at h
  · cases h
  · next nexthop sess hadd =>
    have hroom := (mirrorAddNexthops_room hf.lists hf.nexthops hadd).2
    split at h
    · cases h
    · next hmcast =>
      rw [if_pos hmcast] at hroom
      obtain ⟨i, q, halloc, -⟩ := hroom
      obtain ⟨j, q', hgroup, -⟩ := hf.group hmcast
      rw [halloc, hgroup] at h
      dsimp only at h
      split at h
      · cases h
        rfl
      · cases h
    split at h
    · cases h
      rfl
    · cases h
  · next hne hadd => exact (hne (mirrorAddNexthops_room hf.lists hf.nexthops hadd).1).elim

theorem mirrorAddNexthops_refused {A : Allocator} {sessions : Oid → Option MirrorSession}
    {pool : Pool A} {sess : List (Oid × Nat)} {id : Oid} {rest : List Oid}
    (hfirst : list.filter Oid.hasNh = id :: rest)
    (hno : (∃ s, sessions id = some s ∧ s.dstPortListValid = true) ∨ pool.alloc = none)
    {r : Status × Pool A × List (Oid × Nat)}
    (h : mirrorAddNexthops sessions list pool sess = some r) :
    r.1 ≠ .success ∧ r.2.1 = pool := by
  induction list generalizing sess with
  | nil => cases hfirst
  | cons id' list ih =>
    rw [mirrorAddNexthops] at h
    split at h
    · next hnh =>
      rw [List.filter_cons_of_pos hnh] at hfirst
      obtain ⟨rfl, -⟩ := List.cons.inj hfirst
      split at h
      · cases h
      next s hs =>
      split at h
      · cases h
        exact ⟨nofun, rfl⟩
      next hvalid =>
      rcases hno with ⟨s', hs', hvalid'⟩ | hnone
      · rw [hs] at hs'
        cases hs'
        exact absurd hvalid' hvalid
      · rw [hnone] at h
        cases h
        exact ⟨nofun, rfl⟩
    · next hnh =>
      rw [List.filter_cons_of_neg hnh] at hfirst
      exact ih hfirst h

theorem mirrorAddNexthops_none {A : Allocator} {sessions : Oid → Option MirrorSession}
    {pool : Pool A} {sess : List (Oid × Nat)} (hfirst : list.filter Oid.hasNh = [])
    {r : Status × Pool A × List (Oid × Nat)}
    (h : mirrorAddNexthops sessions list pool sess = some r) :
    r.1 = .success ∧ r.2.1 = pool := by
  induction list generalizing sess with
  | nil =>
    cases h
    exact ⟨rfl, rfl⟩
  | cons id list ih =>
    rw [mirrorAddNexthops] at h
    split at h
    · next hnh =>
      rw [List.filter_cons_of_pos hnh] at hfirst
      cases hfirst
    · next hnh =>
      rw [List.filter_cons_of_neg hnh] at hfirst
      exact ih hfirst h

theorem mirrorNewRes_refused (hr : MirrorFirstRefused db list)
    (h : mirrorNewRes db k list = some (st, db')) : db' = db := by
  unfold MirrorFirstRefused at hr
  unfold mirrorNewRes at h
  cases hfirst : list.filter Oid.hasNh with
  | nil =>
    rw [hfirst] at hr
    obtain ⟨hmcast, hnone⟩ := hr
    split at h
    · cases h
    · next nexthop sess hadd =>
      have hpool : nexthop = db.nexthop := (mirrorAddNexthops_none hfirst hadd).2
      rw [hmcast, hpool] at h
      rw [hnone] at h
      cases h
      rfl
    · next hne hadd => exact (hne (mirrorAddNexthops_none hfirst hadd).1).elim
  | cons id rest =>
    rw [hfirst] at hr
    split at h
    · cases h
    · next hadd => exact absurd rfl (mirrorAddNexthops_refused hfirst hr hadd).1
    next status nexthop sess hne hadd =>
    have hpool : nexthop = db.nexthop := (mirrorAddNexthops_refused hfirst hr hadd).2
    rw [hpool] at h
    cases h
    rfl

theorem mirrorAllocSessRes_alloced (hasc : Ascending list) {n : Option (Fin 4)}
    (h : mirrorAllocSessRes mem db type list = some (st, n, db')) :
    MirrorAlloced mem db type list st n db' := by
  unfold mirrorAllocSessRes at h
  rw [mirrorLkupHit_ascending hasc] at h
  cases hhit : (List.finRange 4).find? fun n => (db.slots (type, n)).any (·.list = list) with
  | some i =>
    rw [hhit] at h
    have hany := List.find?_some hhit
    obtain ⟨r, hr, hlist⟩ := (Option.any_eq_true ..).mp hany
    dsimp only at h
    rw [hr] at h
    cases h
    exact .shared i r hr (of_decide_eq_true hlist)
  | none =>
    rw [hhit] at h
    have halone : ∀ n r, db.slots (type, n) = some r → r.list ≠ list := by
      intro n r hr hlist
      have hno := List.find?_eq_none.mp hhit n (List.mem_finRange n)
      rw [hr] at hno
      exact hno (decide_eq_true hlist)
    cases hfree : (List.finRange 4).find? fun n => (db.slots (type, n)).isNone with
    | none =>
      rw [hfree] at h
      cases h
      refine .failed _ _ nofun (fun hfits => ?_) fun _ => rfl
      obtain ⟨n, hn⟩ := (hfits.fresh halone).slot
      have hno := List.find?_eq_none.mp hfree n (List.mem_finRange n)
      rw [hn] at hno
      exact hno rfl
    | some i =>
      rw [hfree] at h
      have hi : db.slots (type, i) = none := by
        have hnone := List.find?_some hfree
        exact Option.isNone_iff_eq_none.mp hnone
      dsimp only at h
      split at h
      · next hmem =>
        cases h
        refine .failed _ _ nofun (fun hfits => ?_) fun _ => rfl
        obtain ⟨hres, hsess⟩ := (hfits.fresh halone).mem
        rw [hres, hsess] at hmem
        cases hmem
      next hmem =>
      rw [mirrorBubbleSort_ascending hasc] at h
      split at h
      · cases h
      · next db₁ hnew =>
        cases h
        obtain ⟨r, hr⟩ := mirrorNewRes_success hnew
        exact .fresh i r _ hi hr
      next status db₁ hne hnew =>
      cases h
      refine .failed _ _ (fun hst => hne hst) (fun hfits => ?_) fun href => ?_
      · exact hne (mirrorNewRes_fresh (hfits.fresh halone) hnew)
      · rcases href.early with hfull | hnomem | hfirst
        · exact absurd hi (hfull i)
        · rw [← Bool.not_and, hnomem] at hmem
          exact absurd rfl hmem
        · exact mirrorNewRes_refused hfirst hnew

/-! ## Counts, lists and ids -/

/-- The users with the slot and the list each is bound to. -/
abbrev MirrorUsers := Table MirrorUser (MirrorSlot × List Oid)

/-- The binding of a user names the slot. -/
def namesSlot (k : MirrorSlot) (_ : MirrorUser) (b : MirrorSlot × List Oid) : Bool := b.1 = k

/-- The slots agree with the users, and the pools with the slots; `nhs` and
`grps` are the ids that others have. -/
structure SlotInv (nhs grps : Finset Nat) (db : MirrorDb mc) (users : MirrorUsers) : Prop where
  counted : ∀ k r, db.slots k = some r → r.sessionRefCnt.toNat = Table.count (namesSlot k) users
  live : ∀ k r, db.slots k = some r → r.sessionRefCnt ≠ 0
  bound : ∀ u k l, users.lookup u = some (k, l) → ∃ r, db.slots k = some r ∧ r.list = l
  ascending : ∀ k r, db.slots k = some r → Ascending r.list
  nexthop : OwnsAll nhs (slotIds MirrorRes.nhIds db.slots) db.nexthop.used
  group : OwnsAll grps (slotIds MirrorRes.grpIds db.slots) db.mcastGroup.used

theorem namesSlot_unit (k : MirrorSlot) (u : MirrorUser) (l : List Oid) :
    Table.unit (namesSlot k) u (k, l) = 1 := by
  unfold Table.unit namesSlot
  rw [decide_eq_true rfl]
  rfl

theorem namesSlot_unit_of_ne {k' : MirrorSlot} (hk : k' ≠ k) (u : MirrorUser) (l : List Oid) :
    Table.unit (namesSlot k') u (k, l) = 0 := by
  unfold Table.unit namesSlot
  rw [decide_eq_false fun h => hk h.symm]
  rfl

namespace SlotInv

variable {nhs grps : Finset Nat} {db db' : MirrorDb mc} {users : MirrorUsers}
variable {k : MirrorSlot} {u : MirrorUser} {r : MirrorRes}

theorem count_none (h : SlotInv nhs grps db users) (hk : db.slots k = none) :
    Table.count (namesSlot k) users = 0 := by
  by_contra hne
  obtain ⟨u, ⟨k', l⟩, hu, hname⟩ := exists_of_count_pos (Nat.pos_of_ne_zero hne)
  obtain ⟨r, hr, -⟩ := h.bound u k' l hu
  have hkk : k' = k := of_decide_eq_true hname
  rw [hkk, hk] at hr
  cases hr

theorem bindings (h : SlotInv nhs grps db users) {n : Option (Fin 4)} :
    SlotInv nhs grps (db.setSessionId u n) users :=
  ⟨h.counted, h.live, h.bound, h.ascending, h.nexthop, h.group⟩

theorem release_last (h : SlotInv nhs grps db users) {l : List Oid}
    (hu : users.lookup u = some (k, l)) (hr : db.slots k = some r) (hone : r.sessionRefCnt = 1)
    {nexthop : Pool mc.nexthop} {group : Pool mc.mcastGroup}
    (hnh : nexthop.used = db.nexthop.used \ r.nhIds)
    (hgrp : group.used = db.mcastGroup.used \ r.grpIds) :
    SlotInv nhs grps { db with
      nexthop := nexthop
      mcastGroup := group
      slots := update db.slots k none } (users.erase u) := by
  have hcount := h.counted k r hr
  have hgone : Table.count (namesSlot k) (users.erase u) = 0 := by
    have herase := count_erase (p := namesSlot k) hu
    rw [← hcount, hone, namesSlot_unit] at herase
    have h1 : (1 : BitVec 8).toNat = 1 := rfl
    omega
  have howns : ∀ ids : MirrorRes → Finset Nat, slotIds ids db.slots k = ids r := by
    intro ids
    rw [slotIds, hr]
    rfl
  refine ⟨fun k' r' hr' => ?_, forall_update_none h.live, fun u' k' l' hu' => ?_,
    forall_update_none h.ascending, ?_, ?_⟩
  · obtain ⟨hne, hr'⟩ := of_update_none hr'
    have herase := count_erase (p := namesSlot k') hu
    rw [namesSlot_unit_of_ne hne, Nat.add_zero] at herase
    rw [← herase]
    exact h.counted k' r' hr'
  · have hne : k' ≠ k := by
      rintro rfl
      have hpos := count_pos hu' (p := namesSlot k') (decide_eq_true rfl)
      omega
    replace hu' := (of_lookup_erase hu').2
    obtain ⟨r', hr', hl⟩ := h.bound u' k' l' hu'
    refine ⟨r', ?_, hl⟩
    show update db.slots k none k' = _
    rw [update_of_ne hne]
    exact hr'
  · refine (h.nexthop.give k).congr (slotIds_update _ _ _ _) ?_
    rw [howns]
    exact hnh
  · refine (h.group.give k).congr (slotIds_update _ _ _ _) ?_
    rw [howns]
    exact hgrp

theorem recount (h : SlotInv nhs grps db users) {users' : MirrorUsers} {k : MirrorSlot}
    {r : MirrorRes} (hr : db.slots k = some r) {c : BitVec 8} (hc : c ≠ 0)
    (hcount : c.toNat = Table.count (namesSlot k) users')
    (hothers : ∀ k', k' ≠ k → Table.count (namesSlot k') users' = Table.count (namesSlot k') users)
    (hbound : ∀ u k' l, users'.lookup u = some (k', l) →
      users.lookup u = some (k', l) ∨ k' = k ∧ l = r.list) :
    SlotInv nhs grps { db with slots := update db.slots k (some { r with sessionRefCnt := c }) }
      users' := by
  refine ⟨fun k' r' hr' => ?_, forall_update_some hc h.live, fun u k' l hu => ?_,
    forall_update_some (h.ascending k r hr) h.ascending, ?_, ?_⟩
  · rcases of_update_some hr' with ⟨rfl, rfl⟩ | ⟨hne, hr'⟩
    · exact hcount
    · rw [hothers k' hne]
      exact h.counted k' r' hr'
  · have hold : ∃ r', db.slots k' = some r' ∧ r'.list = l := by
      rcases hbound u k' l hu with hu | ⟨rfl, rfl⟩
      · exact h.bound u k' l hu
      · exact ⟨r, hr, rfl⟩
    obtain ⟨r', hr', hl⟩ := hold
    by_cases hk : k' = k
    · subst hk
      rw [hr] at hr'
      cases hr'
      exact ⟨_, update_self .., hl⟩
    refine ⟨r', ?_, hl⟩
    show update db.slots k _ k' = _
    rw [update_of_ne hk]
    exact hr'
  · exact h.nexthop.congr (slotIds_same hr rfl) rfl
  · exact h.group.congr (slotIds_same hr rfl) rfl

theorem release (h : SlotInv nhs grps db users) {l : List Oid} (hu : users.lookup u = some (k, l))
    {st : Status} (hf : mirrorFreeSessRes db k = some (st, db')) :
    st = .success ∧ SlotInv nhs grps db' (users.erase u) ∧ db'.sessionId = db.sessionId := by
  obtain ⟨r, hr, -⟩ := h.bound u k l hu
  have hcount := h.counted k r hr
  have herase := count_erase (p := namesSlot k) hu
  rw [namesSlot_unit] at herase
  unfold mirrorFreeSessRes at hf
  rw [hr] at hf
  dsimp only at hf
  split at hf
  · next hlast =>
    have hone : r.sessionRefCnt = 1 := by
      rw [← BitVec.sub_add_cancel r.sessionRefCnt 1, hlast]
      rfl
    split at hf
    · cases hf
      refine ⟨rfl, h.release_last hu hr hone ?_ ?_, rfl⟩
      · unfold MirrorRes.nhIds
        split
        · rw [Pool.used_free, mirrorFreeNexthops_used]
          ext i
          simp only [Finset.mem_erase, Finset.mem_sdiff, Finset.mem_union, Finset.mem_singleton]
          tauto
        · rw [mirrorFreeNexthops_used, Finset.union_empty]
      · unfold MirrorRes.grpIds
        split
        · rw [Pool.used_free, Finset.erase_eq]
        · rw [Finset.sdiff_empty]
    · cases hf
  · next hmore =>
    cases hf
    have hsub : (r.sessionRefCnt - 1).toNat = r.sessionRefCnt.toNat - 1 := by
      rw [BitVec.toNat_sub]
      have h1 : (1 : BitVec 8).toNat = 1 := rfl
      omega
    refine ⟨rfl, h.recount hr hmore ?_ (fun k' hne => ?_) fun u' k' l' hu' => ?_, rfl⟩
    · omega
    · have hother := count_erase (p := namesSlot k') hu
      rw [namesSlot_unit_of_ne hne] at hother
      exact hother.symm
    · exact .inl (of_lookup_erase hu').2

theorem take_fresh (h : SlotInv nhs grps db users) (hu : users.lookup u = none)
    (hk : db.slots k = none) {list : List Oid} (hasc : Ascending list)
    (hnew : NewRes db k list db' r) :
    SlotInv nhs grps db' (users.insert u (k, list)) := by
  have hnone := h.count_none hk
  have howns : ∀ ids : MirrorRes → Finset Nat, slotIds ids db.slots k = ∅ := by
    intro ids
    rw [slotIds, hk]
    rfl
  refine ⟨fun k' r' hr' => ?_, ?_, fun u' k' l hu' => ?_, ?_, ?_, ?_⟩
  · rw [hnew.slots] at hr'
    rw [count_insert_new hu]
    rcases of_update_some hr' with ⟨rfl, rfl⟩ | ⟨hne, hr'⟩
    · rw [hnone, namesSlot_unit, hnew.refCnt]
      rfl
    · rw [namesSlot_unit_of_ne hne]
      exact h.counted k' r' hr'
  · rw [hnew.slots]
    refine forall_update_some ?_ h.live
    rw [hnew.refCnt]
    decide
  · rw [hnew.slots]
    rcases of_lookup_insert hu' with ⟨-, he⟩ | ⟨-, hu'⟩
    · cases he
      exact ⟨r, update_self .., hnew.list⟩
    obtain ⟨r', hr', hl⟩ := h.bound u' k' l hu'
    have hne : k' ≠ k := by
      rintro rfl
      rw [hk] at hr'
      cases hr'
    rw [update_of_ne hne]
    exact ⟨r', hr', hl⟩
  · rw [hnew.slots]
    refine forall_update_some ?_ h.ascending
    rw [hnew.list]
    exact hasc
  · refine (h.nexthop.take (howns _) hnew.nexthopFresh).congr ?_ hnew.nexthop
    rw [hnew.slots]
    exact slotIds_update _ _ _ _
  · refine (h.group.take (howns _) hnew.groupFresh).congr ?_ hnew.group
    rw [hnew.slots]
    exact slotIds_update _ _ _ _

theorem take_shared (h : SlotInv nhs grps db users) (hu : users.lookup u = none)
    (hr : db.slots k = some r) (hfull : r.sessionRefCnt ≠ 255) :
    SlotInv nhs grps { db with
        slots := update db.slots k (some { r with sessionRefCnt := r.sessionRefCnt + 1 }) }
      (users.insert u (k, r.list)) := by
  have hadd : (r.sessionRefCnt + 1).toNat = r.sessionRefCnt.toNat + 1 := by
    have hne : r.sessionRefCnt.toNat ≠ 255 := fun he => hfull (BitVec.eq_of_toNat_eq he)
    have h1 : (1 : BitVec 8).toNat = 1 := rfl
    rw [BitVec.toNat_add]
    omega
  refine h.recount hr (fun h0 => ?_) ?_ (fun k' hne => ?_) fun u' k' l hu' => ?_
  · rw [h0] at hadd
    exact absurd hadd (Nat.zero_ne_add_one _)
  · rw [hadd, count_insert_new hu, namesSlot_unit, h.counted k r hr]
  · rw [count_insert_new hu, namesSlot_unit_of_ne hne]
    rfl
  · rcases of_lookup_insert hu' with ⟨-, he⟩ | ⟨-, hu'⟩
    · cases he
      exact .inr ⟨rfl, rfl⟩
    · exact .inl hu'

end SlotInv

theorem mirrorTake_cases {users : MirrorUsers} (h : SlotInv nhs grps db users) {u : MirrorUser}
    (hu : users.lookup u = none) (hasc : Ascending list)
    (hor : MirrorFits mem db type list ∨ MirrorRefused mem db type list)
    (ht : mirrorTake mem db u type list = some (st, db')) :
    (∃ n, st = .success ∧ db'.sessionId = update db.sessionId u (some n) ∧
      SlotInv nhs grps db' (users.insert u ((type, n), list))) ∨
    (st ≠ .success ∧ ¬ MirrorFits mem db type list ∧ db' = db) := by
  unfold mirrorTake at ht
  split at ht
  · cases ht
  · next n db₁ halloc =>
    cases ht
    cases mirrorAllocSessRes_alloced hasc halloc with
    | shared n r hr hlist =>
      have hfull : r.sessionRefCnt ≠ 255 := by
        rcases hor with hfits | href
        · exact hfits.shared n r hr hlist
        · exact absurd hlist (href.alone n r hr)
      have hslots := h.take_shared hu hr hfull
      rw [hlist] at hslots
      exact .inl ⟨n, rfl, rfl, hslots.bindings⟩
    | fresh n r db' hk hnew =>
      refine .inl ⟨n, rfl, ?_, (h.take_fresh hu hk hasc hnew).bindings⟩
      show update db₁.sessionId u (some n) = _
      rw [hnew.sessionId]
    | failed _ _ hne => exact absurd rfl hne
  · next status n db₁ hne halloc =>
    cases ht
    cases mirrorAllocSessRes_alloced hasc halloc with
    | shared => exact absurd rfl hne
    | fresh => exact absurd rfl hne
    | failed _ _ _ hnot hsame =>
      exact .inr ⟨fun hst => hne hst, hnot, hsame (hor.resolve_left hnot)⟩

/-! ## Runs -/

/-- The state with its users. -/
structure MirrorWorld (mc : MirrorChip) where
  db : MirrorDb mc
  users : MirrorUsers

/-- What callers do: with sessions, with the lists of ports and entries, and
with new entries, whose `ctc_mirror_id` is 0xFF. -/
inductive MirrorOp where
  | create (memSession memList : Bool) (attrs : List MirrorAttr)
  | remove (sid addr : Oid)
  | set (mem : Bool) (acl : List AclMirror) (sid : Oid) (attr : MirrorAttr)
  | setPort (mem : MirrorMem) (egress : Bool) (gport : BitVec 32) (list : List Oid)
  | setAcl (c : AclMirrCall)
  | newEntry (entry : Oid)

/-- The users after a call that binds a list. -/
def noteBinding (users : MirrorUsers) (u : MirrorUser) (type : MirrorDbType) (list : List Oid)
    (r : Status × MirrorDb mc) : MirrorUsers :=
  if r.1 = .success then
    if list = [] then users.erase u
    else
      match r.2.sessionId u with
      | none => users
      | some n => users.insert u ((type, n), list)
  else users

/-- The state after one call for an entry. -/
def aclMirrStep (w : MirrorWorld mc) (c : AclMirrCall) : Option (MirrorWorld mc) :=
  (mirrorSetAclMirr c.mem w.db c.entry c.stage c.list).map fun r =>
    ⟨r.2, noteBinding w.users (.acl c.entry) (.acl c.stage) c.list r⟩

/-- The state after the calls of a set, which starts with a record written. -/
def aclMirrSteps : MirrorWorld mc → List AclMirrCall → Option (MirrorWorld mc)
  | w, [] => some w
  | w, c :: rest => (aclMirrStep w c).bind fun w => aclMirrSteps w rest

theorem aclMirrSteps_db (w : MirrorWorld mc) (cs : List AclMirrCall) :
    (aclMirrSteps w cs).map (·.db) = mirrorSetAclMirrs w.db cs := by
  induction cs generalizing w with
  | nil => rfl
  | cons c rest ih =>
    rw [aclMirrSteps, mirrorSetAclMirrs, aclMirrStep]
    cases mirrorSetAclMirr c.mem w.db c.entry c.stage c.list with
    | none => rfl
    | some r => exact ih _

/-- The users after a set, from the record that it wrote. -/
def noteSampleRate (users : MirrorUsers) (calls : List AclMirrCall) :
    Option (Status × MirrorDb mc) → MirrorUsers
  | some (.success, db) => ((aclMirrSteps ⟨db, users⟩ calls).map (·.users)).getD users
  | _ => users

def mirrorOpStep (w : MirrorWorld mc) : MirrorOp → Option (MirrorWorld mc)
  | .create memSession memList attrs =>
    (mirrorCreateSession memSession memList w.db attrs).map fun r => ⟨r.2, w.users⟩
  | .remove sid addr => some ⟨(mirrorRemoveSession w.db sid addr).2, w.users⟩
  | .set mem acl sid attr =>
    (mirrorSetSession ⟨mem, []⟩ acl w.db sid attr).map fun r =>
      ⟨r.2, noteSampleRate w.users (sampleRateCalls sid acl attr)
        (mirrorSetRecord ⟨mem, []⟩ w.db sid attr)⟩
  | .setPort mem egress gport list =>
    (mirrorSetPortMirr mem w.db egress gport list).map fun r =>
      ⟨r.2, noteBinding w.users (.port egress gport) (.port egress) list r⟩
  | .setAcl c => aclMirrStep w c
  | .newEntry entry => some ⟨w.db.setSessionId (.acl entry) none, w.users⟩

/-- A call that binds a list soundly.  The list comes sorted.  A slot number
that is remembered is of the user's own binding, or of a slot that is not
there.  A user that has given its slot back gets another one, and one that had
none gets one or is refused before anything is taken. -/
structure MirrorBindSound (w : MirrorWorld mc) (mem : MirrorMem) (u : MirrorUser)
    (type : MirrorDbType) (list : List Oid) : Prop where
  ascending : Ascending list
  own : ∀ n, w.db.sessionId u = some n →
    w.db.slots (type, n) = none ∨ ∃ l, w.users.lookup u = some ((type, n), l)
  again : ∀ n l, w.users.lookup u = some ((type, n), l) → list ≠ [] → ∀ db,
    mirrorFreeSessRes w.db (type, n) = some (.success, db) → MirrorFits mem db type list
  first : w.db.sessionId u = none → list ≠ [] →
    MirrorFits mem w.db type list ∨ MirrorRefused mem w.db type list

/-- A call for an entry that binds its list soundly, if it comes to that. -/
def AclMirrSound (w : MirrorWorld mc) (c : AclMirrCall) : Prop :=
  mirrorParamChk w.db.sessions false c.list = some .success →
    MirrorBindSound w c.mem (.acl c.entry) (.acl c.stage) c.list

/-- Calls for entries, each sound where it is made. -/
def AclMirrsSound : MirrorWorld mc → List AclMirrCall → Prop
  | _, [] => True
  | w, c :: rest => AclMirrSound w c ∧ ∀ w', aclMirrStep w c = some w' → AclMirrsSound w' rest

def MirrorOpSound (w : MirrorWorld mc) : MirrorOp → Prop
  | .setPort mem egress gport list =>
    mirrorParamChk w.db.sessions true list = some .success →
      MirrorBindSound w mem (.port egress gport) (.port egress) list
  | .setAcl c => AclMirrSound w c
  | .set mem acl sid attr => ∀ db, mirrorSetRecord ⟨mem, []⟩ w.db sid attr = some (.success, db) →
      AclMirrsSound ⟨db, w.users⟩ (sampleRateCalls sid acl attr)
  | .newEntry entry => w.users.lookup (.acl entry) = none
  | .create .. | .remove .. => True

/-- The slots agree with the users, and the users with what the chip and the
entries remember. -/
structure MirrorInv (nhs grps : Finset Nat) (w : MirrorWorld mc) : Prop where
  slots : SlotInv nhs grps w.db w.users
  portType : ∀ egress gport k l, w.users.lookup (.port egress gport) = some (k, l) →
    k.1 = .port egress
  sessionId : ∀ u k l, w.users.lookup u = some (k, l) → w.db.sessionId u = some k.2
  portFree : ∀ egress gport, w.users.lookup (.port egress gport) = none →
    w.db.sessionId (.port egress gport) = none

/-- The same slots, users and ids. -/
structure Beside (db db' : MirrorDb mc) : Prop where
  slots : db'.slots = db.slots
  nexthop : db'.nexthop = db.nexthop
  mcastGroup : db'.mcastGroup = db.mcastGroup
  sessionId : db'.sessionId = db.sessionId

theorem Beside.refl (db : MirrorDb mc) : Beside db db := ⟨rfl, rfl, rfl, rfl⟩

theorem mirrorRemoveDb_beside (db : MirrorDb mc) (sid : Oid) :
    Beside db (mirrorRemoveDb db sid).2 := by
  unfold mirrorRemoveDb
  split
  · exact .refl db
  split
  · split
    · exact .refl db
    · exact ⟨rfl, rfl, rfl, rfl⟩
  · exact ⟨rfl, rfl, rfl, rfl⟩

theorem mirrorRemoveSession_beside (db : MirrorDb mc) (sid addr : Oid) :
    Beside db (mirrorRemoveSession db sid addr).2 := by
  unfold mirrorRemoveSession
  split
  · exact .refl db
  split
  · exact .refl db
  · obtain ⟨hslots, hnh, hgrp, hid⟩ := mirrorRemoveDb_beside db sid
    exact ⟨hslots, hnh, hgrp, hid⟩

theorem mirrorCreateSession_beside {memSession memList : Bool} {attrs : List MirrorAttr}
    {r : Status × MirrorDb mc} (h : mirrorCreateSession memSession memList db attrs = some r) :
    Beside db r.2 := by
  unfold mirrorCreateSession at h
  split at h
  · cases h
    exact .refl db
  split at h
  · cases h
    exact .refl db
  dsimp only at h
  split at h
  · cases h
    exact .refl db
  split at h
  · cases h
    exact .refl db
  split at h
  · cases h
  split at h
  · cases h
    exact ⟨rfl, rfl, rfl, rfl⟩
  cases h
  have hbeside : ∀ db : MirrorDb mc, ∀ sid, Beside db (mirrorRemoveDb db sid).2 :=
    mirrorRemoveDb_beside
  obtain ⟨hslots, hnh, hgrp, hid⟩ := hbeside _ _
  exact ⟨hslots, hnh, hgrp, hid⟩

theorem mirrorSetRecord_beside {sdk : MirrorSdk} {sid : Oid} {attr : MirrorAttr}
    {r : Status × MirrorDb mc} (h : mirrorSetRecord sdk db sid attr = some r) : Beside db r.2 := by
  unfold mirrorSetRecord at h
  split at h
  · cases h
    exact .refl db
  · obtain ⟨r', -, rfl⟩ := Option.map_eq_some_iff.mp h
    exact ⟨rfl, rfl, rfl, rfl⟩

namespace MirrorInv

variable {nhs grps : Finset Nat} {w : MirrorWorld mc}
variable {db : MirrorDb mc} {u : MirrorUser}

theorem sessions (h : MirrorInv nhs grps w) (hb : Beside w.db db) :
    MirrorInv nhs grps ⟨db, w.users⟩ := by
  obtain ⟨⟨hcounted, hlive, hbound, hasc, hnexthop, hgroup⟩, htype, hsid, hfree⟩ := h
  obtain ⟨hslots, hnh, hgrp, hid⟩ := hb
  refine ⟨⟨?_, ?_, ?_, ?_, ?_, ?_⟩, htype, ?_, ?_⟩
  · rw [hslots]; exact hcounted
  · rw [hslots]; exact hlive
  · rw [hslots]; exact hbound
  · rw [hslots]; exact hasc
  · rw [hslots, hnh]; exact hnexthop
  · rw [hslots, hgrp]; exact hgroup
  · rw [hid]; exact hsid
  · rw [hid]; exact hfree

theorem bind (h : MirrorInv nhs grps w) {users : MirrorUsers} {k : MirrorSlot} {l : List Oid}
    (hslots : SlotInv nhs grps db (users.insert u (k, l)))
    (hothers : ∀ a, a ≠ u → users.lookup a = w.users.lookup a)
    (hid : db.sessionId = update w.db.sessionId u (some k.2))
    (htype : ∀ egress gport, u = .port egress gport → k.1 = .port egress) :
    MirrorInv nhs grps ⟨db, users.insert u (k, l)⟩ := by
  have hlookup : ∀ a, a ≠ u → (users.insert u (k, l)).lookup a = w.users.lookup a := by
    intro a ha
    rw [lookup_insert_ite, if_neg ha, hothers a ha]
  refine ⟨hslots, fun egress gport k' l' hu => ?_, fun a k' l' ha => ?_, fun egress gport hu => ?_⟩
  · by_cases he : MirrorUser.port egress gport = u
    · rw [lookup_insert_ite, if_pos he] at hu
      cases hu
      exact htype egress gport he.symm
    · exact h.portType egress gport k' l' ((hlookup _ he).symm.trans hu)
  · rw [hid]
    by_cases he : a = u
    · subst he
      rw [lookup_insert_ite, if_pos rfl] at ha
      cases ha
      exact update_self ..
    · rw [update_of_ne he]
      exact h.sessionId a k' l' ((hlookup _ he).symm.trans ha)
  · by_cases he : MirrorUser.port egress gport = u
    · rw [lookup_insert_ite, if_pos he] at hu
      cases hu
    · rw [hid, update_of_ne he]
      exact h.portFree egress gport ((hlookup _ he).symm.trans hu)

theorem unbind (h : MirrorInv nhs grps w) (hslots : SlotInv nhs grps db (w.users.erase u))
    (hid : ∀ a, a ≠ u → db.sessionId a = w.db.sessionId a)
    (hport : ∀ egress gport, u = .port egress gport → db.sessionId u = none) :
    MirrorInv nhs grps ⟨db, w.users.erase u⟩ := by
  refine ⟨hslots, fun egress gport k l hu => h.portType egress gport k l (of_lookup_erase hu).2,
    fun a k l ha => ?_, fun egress gport hu => ?_⟩
  · obtain ⟨he, ha⟩ := of_lookup_erase ha
    exact (hid a he).trans (h.sessionId a k l ha)
  · by_cases he : MirrorUser.port egress gport = u
    · rw [he]
      exact hport egress gport he.symm
    · rw [hid _ he]
      rw [lookup_erase_ite, if_neg he] at hu
      exact h.portFree egress gport hu

/-- A user's list set. -/
theorem rebind (h : MirrorInv nhs grps w) {mem : MirrorMem} {type : MirrorDbType} {list : List Oid}
    (hs : MirrorBindSound w mem u type list)
    (htype : ∀ egress gport, u = .port egress gport → type = .port egress)
    {unbind : MirrorDb mc → MirrorDb mc} (hun : ∀ db, unbind db = db.setSessionId u none ∨
      unbind db = db ∧ ∀ egress gport, u ≠ .port egress gport) {r : Status × MirrorDb mc}
    (hr : mirrorRebind mem w.db u type list unbind = some r) :
    MirrorInv nhs grps ⟨r.2, noteBinding w.users u type list r⟩ := by
  obtain ⟨st, db'⟩ := r
  -- what is left to do once the user has no slot
  have hrest : ∀ db, SlotInv nhs grps db (w.users.erase u) → db.sessionId = w.db.sessionId →
      (list ≠ [] → MirrorFits mem db type list ∨
        MirrorRefused mem db type list ∧ db = w.db ∧ w.users.erase u = w.users) →
      (if list = [] then some (.success, unbind db) else mirrorTake mem db u type list) =
        some (st, db') →
      MirrorInv nhs grps ⟨db', noteBinding w.users u type list (st, db')⟩ := by
    intro db hslots hid hor hr
    split at hr
    · next hempty =>
      cases hr
      unfold noteBinding
      rw [if_pos hempty]
      rcases hun db with hset | ⟨hsame, hnot⟩
      · rw [hset]
        refine h.unbind hslots.bindings (fun a ha => ?_) fun egress gport _ => ?_
        · exact (update_of_ne ha _ _).trans (congrFun hid a)
        · exact update_self ..
      · rw [hsame]
        exact h.unbind hslots (fun a _ => congrFun hid a) fun egress gport he =>
          absurd he (hnot egress gport)
    next hne =>
    have hgone : (w.users.erase u).lookup u = none := by
      rw [lookup_erase_ite, if_pos rfl]
    have hor' : MirrorFits mem db type list ∨ MirrorRefused mem db type list :=
      (hor hne).imp id fun href => href.1
    rcases mirrorTake_cases hslots hgone hs.ascending hor' hr with
      ⟨n, rfl, hset, htaken⟩ | ⟨hfail, hnot, rfl⟩
    · have hnote : noteBinding w.users u type list (.success, db') =
          (w.users.erase u).insert u ((type, n), list) := by
        unfold noteBinding
        rw [if_pos rfl, if_neg hne]
        rw [hset, update_self, insert_erase]
      rw [hnote]
      refine h.bind htaken (fun a ha => ?_) (hset.trans (by rw [hid])) htype
      rw [lookup_erase_ite, if_neg ha]
    obtain ⟨-, rfl, -⟩ := (hor hne).resolve_left hnot
    unfold noteBinding
    rw [if_neg hfail]
    exact h
  unfold mirrorRebind mirrorRelease at hr
  cases hid : w.db.sessionId u with
  | none =>
    have hnone : w.users.lookup u = none := by
      cases hl : w.users.lookup u with
      | none => rfl
      | some b =>
        rw [h.sessionId u b.1 b.2 hl] at hid
        cases hid
    have herase : w.users.erase u = w.users := erase_of_lookup hnone
    rw [hid] at hr
    refine hrest w.db (by rw [herase]; exact h.slots) rfl (fun hne => ?_) hr
    exact (hs.first hid hne).imp id fun href => ⟨href, rfl, herase⟩
  | some n =>
    rw [hid] at hr
    dsimp only at hr
    rcases hs.own n hid with hgone | ⟨l, hl⟩
    · -- the slot is not there, and the call says so
      unfold mirrorFreeSessRes at hr
      rw [hgone] at hr
      cases hr
      exact h
    cases hf : mirrorFreeSessRes w.db (type, n) with
    | none =>
      rw [hf] at hr
      cases hr
    | some f =>
      obtain ⟨st₁, db₁⟩ := f
      obtain ⟨rfl, hslots, hsame⟩ := h.slots.release hl hf
      rw [hf] at hr
      exact hrest db₁ hslots hsame (fun hne => .inl (hs.again n l hl hne db₁ hf)) hr

theorem acl (h : MirrorInv nhs grps w) {c : AclMirrCall} (hc : AclMirrSound w c)
    {w' : MirrorWorld mc} (hst : aclMirrStep w c = some w') : MirrorInv nhs grps w' := by
  obtain ⟨r, hr, rfl⟩ := Option.map_eq_some_iff.mp hst
  unfold mirrorSetAclMirr at hr
  split at hr
  · cases hr
  · next hchk =>
    exact h.rebind (hc hchk) (fun _ _ he => by cases he)
      (fun db => .inr ⟨rfl, fun _ _ => nofun⟩) hr
  next status hne _ =>
  cases hr
  unfold noteBinding
  rw [if_neg fun hs => hne hs]
  exact h

/-- The entries bound again after a record was written. -/
theorem acls {cs : List AclMirrCall} (h : MirrorInv nhs grps w) (hcs : AclMirrsSound w cs)
    {w' : MirrorWorld mc} (hst : aclMirrSteps w cs = some w') : MirrorInv nhs grps w' := by
  induction cs generalizing w with
  | nil =>
    cases hst
    exact h
  | cons c rest ih =>
    obtain ⟨w₁, hc, hrest⟩ := Option.bind_eq_some_iff.mp hst
    exact ih (h.acl hcs.1 hc) (hcs.2 w₁ hc) hrest

theorem set (h : MirrorInv nhs grps w) {mem : Bool} {acl : List AclMirror} {sid : Oid}
    {attr : MirrorAttr} (hop : MirrorOpSound w (.set mem acl sid attr)) {w' : MirrorWorld mc}
    (hst : mirrorOpStep w (.set mem acl sid attr) = some w') : MirrorInv nhs grps w' := by
  obtain ⟨r, hr, rfl⟩ := Option.map_eq_some_iff.mp hst
  unfold mirrorSetSession at hr
  split at hr
  · next db hrec =>
    have hwritten : MirrorInv nhs grps ⟨db, w.users⟩ := h.sessions (mirrorSetRecord_beside hrec)
    obtain ⟨db', hcalls, rfl⟩ := Option.map_eq_some_iff.mp hr
    rw [← aclMirrSteps_db ⟨db, w.users⟩] at hcalls
    obtain ⟨w', hw', rfl⟩ := Option.map_eq_some_iff.mp hcalls
    have hafter := hwritten.acls (hop db hrec) hw'
    rw [hrec, noteSampleRate, hw']
    exact hafter
  · next hne =>
    have hnote : noteSampleRate w.users (sampleRateCalls sid acl attr)
        (mirrorSetRecord ⟨mem, []⟩ w.db sid attr) = w.users := by
      rw [hr]
      unfold noteSampleRate
      split
      · next db hsome => exact absurd (hr.trans hsome) (hne db)
      · rfl
    rw [hnote]
    exact h.sessions (mirrorSetRecord_beside hr)

theorem step (h : MirrorInv nhs grps w) {op : MirrorOp} (hop : MirrorOpSound w op)
    {w' : MirrorWorld mc} (hst : mirrorOpStep w op = some w') : MirrorInv nhs grps w' := by
  cases op with
  | create memSession memList attrs =>
    obtain ⟨r, hr, rfl⟩ := Option.map_eq_some_iff.mp hst
    exact h.sessions (mirrorCreateSession_beside hr)
  | remove sid addr =>
    cases hst
    exact h.sessions (mirrorRemoveSession_beside w.db sid addr)
  | set mem acl sid attr => exact h.set hop hst
  | setPort mem egress gport list =>
    obtain ⟨r, hr, rfl⟩ := Option.map_eq_some_iff.mp hst
    unfold mirrorSetPortMirr at hr
    split at hr
    · cases hr
    · next hchk =>
      refine h.rebind (hop hchk) (fun _ _ he => ?_) (fun db => .inl rfl) hr
      cases he
      rfl
    next status hne _ =>
    cases hr
    unfold noteBinding
    rw [if_neg fun hs => hne hs]
    exact h
  | setAcl c => exact h.acl hop hst
  | newEntry entry =>
    cases hst
    refine ⟨h.slots.bindings, h.portType, fun u k l hu => ?_, fun egress gport hu => ?_⟩
    · show update w.db.sessionId (.acl entry) none u = _
      rw [update_of_ne, h.sessionId u k l hu]
      rintro rfl
      have hnone : w.users.lookup (.acl entry) = none := hop
      rw [hnone] at hu
      cases hu
    · show update w.db.sessionId (.acl entry) none (.port egress gport) = none
      exact h.portFree egress gport hu

end MirrorInv

/-! ## The slots in every state reached -/

/-- Nothing is bound; the ids in use are others'. -/
structure MirrorStart (nhs grps : Finset Nat) (w : MirrorWorld mc) : Prop where
  users : w.users = ∅
  slots : w.db.slots = fun _ => none
  sessionId : w.db.sessionId = fun _ => none
  nexthop : w.db.nexthop.used = nhs
  group : w.db.mcastGroup.used = grps

def MirrorDb.Lists (db : MirrorDb mc) (sid : Oid) : Prop :=
  ∃ k r, db.slots k = some r ∧ sid ∈ r.list

/-- A removal, with the object id at an address, says OBJECT_IN_USE exactly
for a session that a slot lists. -/
def MirrorDb.Guards (db : MirrorDb mc) (sid addr : Oid) : Prop :=
  (mirrorRemoveSession db sid addr).1 = .objectInUse ↔ db.Lists sid

/-- The counts, the lists and the ids of the slots. -/
structure MirrorSlotsOk (nhs grps : Finset Nat) (w : MirrorWorld mc) : Prop where
  /-- A slot counts the users whose binding names it, and there is one exactly
  where there are such. -/
  counted : ∀ k, (w.db.slots k).map (·.sessionRefCnt.toNat) =
    if Table.count (namesSlot k) w.users = 0 then none
    else some (Table.count (namesSlot k) w.users)
  /-- The binding of a user is what the chip or the entry remembers. -/
  ports : ∀ egress gport, w.db.sessionId (.port egress gport) =
    (w.users.lookup (.port egress gport)).map (·.1.2)
  entries : ∀ entry k l, w.users.lookup (.acl entry) = some (k, l) →
    w.db.sessionId (.acl entry) = some k.2
  /-- The list of a slot is sorted, and it is the one its users bound. -/
  lists : ∀ k r, w.db.slots k = some r → Ascending r.list ∧
    ∀ u l, w.users.lookup u = some (k, l) → ∀ sid, sid ∈ r.list ↔ sid ∈ l
  /-- The ids in use are others' and those of the slots, each of one slot. -/
  nexthop : OwnsAll nhs (slotIds MirrorRes.nhIds w.db.slots) w.db.nexthop.used
  group : OwnsAll grps (slotIds MirrorRes.grpIds w.db.slots) w.db.mcastGroup.used

theorem MirrorDbType.mem_all (type : MirrorDbType) : type ∈ MirrorDbType.all := by
  cases type with
  | igsPort => decide
  | egsPort => decide
  | igsAcl priority => simp [MirrorDbType.all]
  | egsAcl priority => simp [MirrorDbType.all]

theorem slotLists_contains (db : MirrorDb mc) (sid : Oid) :
    db.slotLists.any (·.contains sid) = true ↔ db.Lists sid := by
  unfold MirrorDb.slotLists MirrorDb.Lists
  simp only [List.any_eq_true, List.mem_flatMap, List.mem_filterMap, Option.map_eq_some_iff,
    List.contains_iff_mem]
  constructor
  · rintro ⟨l, ⟨type, -, n, -, r, hr, rfl⟩, hsid⟩
    exact ⟨(type, n), r, hr, hsid⟩
  · rintro ⟨⟨type, n⟩, r, hr, hsid⟩
    exact ⟨r.list, ⟨type, type.mem_all, n, List.mem_finRange n, r, hr, rfl⟩, hsid⟩

/-- A removal never says that its session is in use. -/
theorem mirrorRemoveSession_unguarded (db : MirrorDb mc) (sid : Oid) {addr : Oid}
    (haddr : ¬ db.Lists addr) : (mirrorRemoveSession db sid addr).1 ≠ .objectInUse := by
  unfold mirrorRemoveSession
  split
  · exact nofun
  · split
    · next hlists => exact absurd ((slotLists_contains db addr).mp hlists) haddr
    · exact nofun

theorem guards_iff (db : MirrorDb mc) {sid addr : Oid} (haddr : ¬ db.Lists addr) :
    db.Guards sid addr ↔ ¬ db.Lists sid := by
  have hno := mirrorRemoveSession_unguarded db sid haddr
  exact ⟨fun hguards hlists => hno (hguards.mpr hlists), fun hnot => iff_of_false hno hnot⟩

theorem MirrorStart.inv {w : MirrorWorld mc} (h : MirrorStart nhs grps w) :
    MirrorInv nhs grps w := by
  obtain ⟨db, users⟩ := w
  obtain ⟨hempty, hslots, hid, hnh, hgrp⟩ := h
  subst hempty
  have hnone : ∀ u b, (∅ : MirrorUsers).lookup u ≠ some b := by
    intro u b hu
    cases hu
  have howns : ∀ ids : MirrorRes → Finset Nat, slotIds ids db.slots = fun _ => ∅ := by
    intro ids
    rw [hslots]
    rfl
  refine ⟨⟨fun k r hr => ?_, fun k r hr => ?_, fun u k l hu => absurd hu (hnone _ _),
    fun k r hr => ?_, ?_, ?_⟩, fun _ _ _ _ hu => absurd hu (hnone _ _),
    fun _ _ _ hu => absurd hu (hnone _ _), fun _ _ _ => congrFun hid _⟩
  · rw [hslots] at hr
    cases hr
  · rw [hslots] at hr
    cases hr
  · rw [hslots] at hr
    cases hr
  · exact (ownsAll_empty nhs).congr (howns _) hnh
  · exact (ownsAll_empty grps).congr (howns _) hgrp

theorem MirrorInv.ok {w : MirrorWorld mc} (h : MirrorInv nhs grps w) :
    MirrorSlotsOk nhs grps w where
  counted k := by
    cases hk : w.db.slots k with
    | none => rw [h.slots.count_none hk]; rfl
    | some r =>
      have hcount := h.slots.counted k r hk
      rw [← hcount, if_neg]
      · rfl
      · exact fun h0 => h.slots.live k r hk (BitVec.eq_of_toNat_eq h0)
  ports egress gport := by
    cases hl : w.users.lookup (.port egress gport) with
    | none => exact h.portFree egress gport hl
    | some b => exact h.sessionId _ b.1 b.2 hl
  entries entry k l hl := h.sessionId _ k l hl
  lists k r hr := by
    refine ⟨h.slots.ascending k r hr, fun u l hu sid => ?_⟩
    obtain ⟨r', hr', rfl⟩ := h.slots.bound u k l hu
    rw [hr] at hr'
    cases hr'
    exact Iff.rfl
  nexthop := h.slots.nexthop
  group := h.slots.group

/-- In a run of sound calls the slots agree with their users and the pools with
the slots; and a removal, whose object id is at an address that is not itself a
session in a list, is guarded exactly where there is nothing to guard. -/
theorem mirrorSlots_of_run {nhs grps : Finset Nat} {w : MirrorWorld mc}
    (h : Reachable (MirrorStart nhs grps) MirrorOpSound mirrorOpStep w) :
    MirrorSlotsOk nhs grps w ∧
      ∀ sid addr, ¬ w.db.Lists addr → (w.db.Guards sid addr ↔ ¬ w.db.Lists sid) := by
  have hinv : MirrorInv nhs grps w :=
    h.inv (fun _ hs => hs.inv) fun _ _ _ hi hop hst => hi.step hop hst
  exact ⟨hinv.ok, fun _ _ haddr => guards_iff w.db haddr⟩

/-! ## Two runs -/

/-- A chip with a few ids of each kind. -/
def MirrorChip.small : MirrorChip :=
  ⟨0, .firstFit 1 8, .firstFit 3 8, .firstFit 4096 8, Chip.small.nexthop_lo⟩

/-- A chip where nothing was done yet. -/
def MirrorWorld.start : MirrorWorld .small :=
  ⟨⟨fun _ => none, .empty, .empty _, .empty _, .empty _, fun _ => none, fun _ => none⟩, ∅⟩

theorem mirrorStart_start : MirrorStart ∅ ∅ MirrorWorld.start := ⟨rfl, rfl, rfl, rfl, rfl⟩

/-- A remote session, the first of the chip. -/
def remoteSid : Oid := createObjectId .mirrorSession 0 1 0 1

def remoteAttrs : List MirrorAttr := [.type .remote, .monitorPort (createObjectId .port 0 0 0 1)]

def MirrorMem.ok : MirrorMem := ⟨true, true⟩

/-- A remote session, bound to one port for ingress. -/
theorem mirrorSlots_of_run_port : ∃ w : MirrorWorld .small, MirrorSlotsOk ∅ ∅ w ∧
    w.db.slots (.igsPort, 0) = some ⟨1, [(remoteSid, 3)], 0, 0⟩ := by
  have r₀ : Reachable (MirrorStart ∅ ∅) MirrorOpSound mirrorOpStep MirrorWorld.start :=
    .start mirrorStart_start
  have r₁ := r₀.next (.create true true remoteAttrs) (by trivial) rfl
  have r₂ := r₁.next (.setPort .ok false 2 [remoteSid]) (by
    intro _
    refine ⟨List.pairwise_singleton _ _, nofun, nofun, fun _ _ => .inl ⟨nofun, fun _ => ?_⟩⟩
    refine ⟨⟨0, rfl⟩, ⟨rfl, rfl⟩, ?_, ?_, ?_⟩
    · intro id hid _ s hs
      cases List.mem_singleton.mp hid
      cases hs
      rfl
    · exact ⟨3, _, rfl, trivial⟩
    · nofun) rfl
  exact ⟨_, (mirrorSlots_of_run r₂).1, rfl⟩

/-- What a caller may rely on, of counts, ids and removals. -/
structure MirrorSlotsSay (nhs grps : Finset Nat) (w : MirrorWorld mc) : Prop
    extends MirrorSlotsOk nhs grps w where
  guards : ∀ sid addr, ¬ w.db.Lists addr → w.db.Guards sid addr

/-- The session is removed while the port is bound to it. -/
theorem mirrorSlots_not_every_run : ¬ ∀ w : MirrorWorld .small,
    Reachable (MirrorStart ∅ ∅) anyStep mirrorOpStep w → MirrorSlotsSay ∅ ∅ w := by
  intro h
  have hlisted : ∀ w : MirrorWorld .small, Reachable (MirrorStart ∅ ∅) anyStep mirrorOpStep w →
      w.db.slotLists.any (·.contains Oid.null) = false →
      w.db.slotLists.any (·.contains remoteSid) = true → False := by
    intro w hw hnull hlists
    have hno : ¬ w.db.Lists Oid.null := by
      rw [← slotLists_contains, hnull]
      exact nofun
    refine mirrorRemoveSession_unguarded w.db remoteSid hno ?_
    exact ((h w hw).guards remoteSid Oid.null hno).mpr ((slotLists_contains _ _).mp hlists)
  have r₀ : Reachable (MirrorStart ∅ ∅) anyStep mirrorOpStep MirrorWorld.start :=
    .start mirrorStart_start
  have r₁ := r₀.next (.create true true remoteAttrs) trivial rfl
  have r₂ := r₁.next (.setPort .ok false 2 [remoteSid]) trivial rfl
  exact hlisted _ r₂ rfl rfl

end CtcSai
