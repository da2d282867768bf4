/-
# `LockDiscipline` — the chip locks of next-hop groups and counters

Each API call takes the lock of a chip, does its work and gives the lock back
at its label `out`.  What matters to the lock is the control flow alone, so the
functions are modelled by the answers of what they call: a body is the list of
its failure points, each with the way it leaves by.  A trace is what a call
does to the locks; a call that never returns has none.
-/
import CtcSai.Lag
import CtcSai.Lib.Run
import CtcSai.NextHopGroup

namespace CtcSai

open Function Runs

/-! ## Traces -/

/-- What is done to a lock of `g_sai_db`. -/
inductive LockEvent where
  | lock (lchip : Lchip)
  | unlock (lchip : Lchip)
deriving DecidableEq, Repr

/-- How a failure leaves a body: `goto out`, or a `return`. -/
inductive Exit where
  | out | ret
deriving DecidableEq, Repr

/-- A failure point: whether it fails, and how it leaves then. -/
abbrev FailurePoint := Bool × Exit

def Status.failed (status : Status) : Bool := decide (status ≠ .success)

/-- How a body is left: at its first failure, or at its end, which is `out`. -/
def leaves (body : List FailurePoint) : Exit :=
  ((body.find? Prod.fst).map Prod.snd).getD .out

section Traces

variable (known : Lchip → Bool)

/-- `ctc_sai_db_lock`. -/
def dbLock (lchip : Lchip) : List LockEvent := if known lchip then [.lock lchip] else []

/-- `ctc_sai_db_unlock`. -/
def dbUnlock (lchip : Lchip) : List LockEvent := if known lchip then [.unlock lchip] else []

/-- A call that is refused by `checks`, looks the chip of `oid` up by
`ctc_sai_oid_get_lchip`, and holds its lock from there to `out`. -/
def lockedCall (checks : List Bool) (oid : Oid) (body : List FailurePoint) : List LockEvent :=
  if checks.any id || !known oid.lchip then []
  else dbLock known oid.lchip ++
    match leaves body with
    | .out => dbUnlock known oid.lchip
    | .ret => []

/-- `while (loop < attr_count)` with a `uint8` index, turn after turn; `true`
is the end.  `answers` are those of `ctc_sai_get_attribute`. -/
def attrLoop (attrCount : BitVec 32) (answers : Nat → Status) : Nat → Nat → BitVec 8 → Bool
  | 0, _, _ => false
  | fuel + 1, turn, loop =>
    if loop.toNat < attrCount.toNat then
      if (answers turn).failed then true else attrLoop attrCount answers fuel (turn + 1) (loop + 1)
    else true

/-- A get call: the chip, the lock, and the loop. -/
def getCall (oid : Oid) (attrCount : BitVec 32) (answers : Nat → Status) (fuel : Nat) :
    Option (List LockEvent) :=
  if !known oid.lchip then some []
  else if attrLoop attrCount answers fuel 0 0 then
    some (dbLock known oid.lchip ++ dbUnlock known oid.lchip)
  else none

/-! ## The calls of next-hop groups -/

/-- `sai_next_hop_group_type_t` as it comes in. -/
inductive GroupTypeValue where
  | known (type : NextHopGroupType)
  | unknown
deriving DecidableEq, Repr

/-- The arguments of `create_nh_grp`, and what its callees answer. -/
structure CreateNhGrp where
  outNull : Bool
  switchId : Oid
  type : Option GroupTypeValue
  counterOid : Oid
  allocNexthop : Status
  counterIdCreate : Status
  nhAddEcmp : Status
  allocAps : Status
  malloc : Bool
  addObject : Status

/-- `ctc_sai_next_hop_group_create_nh_grp`.  A counter that cannot be had is
reported by a `return`. -/
def createNhGrpLocks (a : CreateNhGrp) : List LockEvent :=
  lockedCall known [a.outNull, a.type.isNone] a.switchId
    ((a.allocNexthop.failed, .out) ::
      (match a.type with
        | some (.known .ecmp) =>
          [(decide (a.counterOid ≠ Oid.null) && a.counterIdCreate.failed, .ret),
            (a.nhAddEcmp.failed, .out)]
        | some (.known .protection) => [(a.allocAps.failed, .out)]
        | _ => [(true, .out)]) ++
      [(!a.malloc, .out), (a.addObject.failed, .out)])

/-- `ctc_sai_next_hop_group_remove_nh_grp`. -/
def removeNhGrpLocks (oid : Oid) (record : Bool) (nhRemoveEcmp counterIdRemove : Status) :
    List LockEvent :=
  lockedCall known [] oid
    [(!record, .out), (decide (oid.subType = NextHopGroupType.ecmp.bits) && nhRemoveEcmp.failed, .out),
      (decide (oid.subType = NextHopGroupType.ecmp.bits) && counterIdRemove.failed, .out)]

/-- `ctc_sai_next_hop_group_set_grp_attr`. -/
def setGrpAttrLocks (oid : Oid) (setAttribute : Status) : List LockEvent :=
  lockedCall known [] oid [(setAttribute.failed, .out)]

/-- `ctc_sai_next_hop_group_get_grp_attr`. -/
def getGrpAttrLocks := getCall known

/-- `ctc_sai_next_hop_group_create_member`. -/
def createMemberLocks (outNull : Bool) (switchId : Oid) (create : Status) : List LockEvent :=
  lockedCall known [outNull] switchId [(create.failed, .out)]

/-- `ctc_sai_next_hop_group_remove_member`. -/
def removeMemberLocks (oid : Oid) (remove : Status) : List LockEvent :=
  lockedCall known [] oid [(remove.failed, .out)]

/-- `ctc_sai_next_hop_group_set_member_attr`. -/
def setMemberAttrLocks (oid : Oid) (setAttribute : Status) : List LockEvent :=
  lockedCall known [] oid [(setAttribute.failed, .out)]

/-- `ctc_sai_next_hop_group_get_member_attr`. -/
def getMemberAttrLocks := getCall known

/-- `ctc_sai_next_hop_group_bulk_create_members`, with the status of each
element. -/
def bulkCreateMembersLocks (switchId : Oid) (mode : BulkOpErrorMode) (creates : List Status) :
    List LockEvent :=
  lockedCall known [] switchId
    (creates.map fun status => (status.failed && decide (mode = .stopOnError), .out))

/-- The chips that the loop of `bulk_remove_members` looks up, in order. -/
def resolvedChips (mode : BulkOpErrorMode) : List (Oid × Status) → List Lchip
  | [] => []
  | (oid, status) :: rest =>
    if !known oid.lchip then []
    else if status.failed && decide (mode = .stopOnError) then [oid.lchip]
    else oid.lchip :: resolvedChips mode rest

/-- What `lchip` holds at the label `out` of `bulk_remove_members`. -/
def bulkRemoveLchip (mode : BulkOpErrorMode) : List (Oid × Status) → Lchip → Lchip
  | [], lchip => lchip
  | (oid, status) :: rest, lchip =>
    if !known oid.lchip then lchip
    else if status.failed && decide (mode = .stopOnError) then oid.lchip
    else bulkRemoveLchip mode rest oid.lchip

/-- `ctc_sai_next_hop_group_bulk_remove_members`: the lock is that of chip 0,
and the loop looks a chip up for each element. -/
def bulkRemoveMembersLocks (mode : BulkOpErrorMode) (objects : List (Oid × Status)) :
    List LockEvent :=
  dbLock known 0 ++ dbUnlock known (bulkRemoveLchip known mode objects 0)

/-! ## The calls of counters -/

/-- `ctc_sai_counter_create_counter`. -/
def createCounterLocks (outNull : Bool) (switchId : Oid) (attrCheck allocId buildDb : Status) :
    List LockEvent :=
  lockedCall known [outNull, attrCheck.failed] switchId
    [(allocId.failed, .out), (buildDb.failed, .out)]

/-- `ctc_sai_counter_remove_counter`.  A counter that is not there, and one in
use, are reported by a `return`. -/
def removeCounterLocks (oid : Oid) (record inUse : Bool) (freeId removeDb : Status) :
    List LockEvent :=
  lockedCall known [] oid
    [(!record, .ret), (inUse, .ret), (freeId.failed, .out), (removeDb.failed, .out)]

/-- `ctc_sai_counter_set_counter_attribute`. -/
def setCounterAttributeLocks (oid : Oid) (setAttribute : Status) : List LockEvent :=
  lockedCall known [] oid [(setAttribute.failed, .out)]

/-- `ctc_sai_counter_get_counter_attribute`. -/
def getCounterAttributeLocks := getCall known

/-- `ctc_sai_counter_get_counter_stats`, `_get_counter_stats_ext` and
`_clear_counter_stats`, none of which takes the lock. -/
def counterStatsLocks : List LockEvent := []

end Traces

/-! ## Any call -/

/-- A call of one of the two tables, with what its callees answer. -/
inductive LockCall where
  | createNhGrp (a : CreateNhGrp)
  | removeNhGrp (oid : Oid) (record : Bool) (nhRemoveEcmp counterIdRemove : Status)
  | setGrpAttr (oid : Oid) (setAttribute : Status)
  | getGrpAttr (oid : Oid) (attrCount : BitVec 32) (answers : Nat → Status)
  | createMember (outNull : Bool) (switchId : Oid) (create : Status)
  | removeMember (oid : Oid) (remove : Status)
  | setMemberAttr (oid : Oid) (setAttribute : Status)
  | getMemberAttr (oid : Oid) (attrCount : BitVec 32) (answers : Nat → Status)
  | bulkCreateMembers (switchId : Oid) (mode : BulkOpErrorMode) (creates : List Status)
  | bulkRemoveMembers (mode : BulkOpErrorMode) (objects : List (Oid × Status))
  | createCounter (outNull : Bool) (switchId : Oid) (attrCheck allocId buildDb : Status)
  | removeCounter (oid : Oid) (record inUse : Bool) (freeId removeDb : Status)
  | setCounterAttribute (oid : Oid) (setAttribute : Status)
  | getCounterAttribute (oid : Oid) (attrCount : BitVec 32) (answers : Nat → Status)
  | counterStats

/-- The trace of a call; `none` where the fuel does not last. -/
def LockCall.run (known : Lchip → Bool) : LockCall → Nat → Option (List LockEvent)
  | createNhGrp a, _ => some (createNhGrpLocks known a)
  | removeNhGrp oid r s s', _ => some (removeNhGrpLocks known oid r s s')
  | setGrpAttr oid s, _ => some (setGrpAttrLocks known oid s)
  | getGrpAttr oid n answers, fuel => getGrpAttrLocks known oid n answers fuel
  | createMember b oid s, _ => some (createMemberLocks known b oid s)
  | removeMember oid s, _ => some (removeMemberLocks known oid s)
  | setMemberAttr oid s, _ => some (setMemberAttrLocks known oid s)
  | getMemberAttr oid n answers, fuel => getMemberAttrLocks known oid n answers fuel
  | bulkCreateMembers oid mode ss, _ => some (bulkCreateMembersLocks known oid mode ss)
  | bulkRemoveMembers mode objects, _ => some (bulkRemoveMembersLocks known mode objects)
  | createCounter b oid s s' s'', _ => some (createCounterLocks known b oid s s' s'')
  | removeCounter oid r u s s', _ => some (removeCounterLocks known oid r u s s')
  | setCounterAttribute oid s, _ => some (setCounterAttributeLocks known oid s)
  | getCounterAttribute oid n answers, fuel => getCounterAttributeLocks known oid n answers fuel
  | counterStats, _ => some counterStatsLocks

/-- The one lock that was taken is given back. -/
def Paired (t : List LockEvent) : Prop := t = [] ∨ ∃ lchip, t = [.lock lchip, .unlock lchip]

/-- A call comes back, and has given back what it took. -/
def LockCall.Releases (known : Lchip → Bool) (call : LockCall) : Prop :=
  ∃ fuel t, call.run known fuel = some t ∧ Paired t

def LoopEnds (attrCount : BitVec 32) (answers : Nat → Status) : Prop :=
  attrCount.toNat ≤ 255 ∨ ∃ turn, answers turn ≠ .success

/-- The calls that keep the discipline: an ECMP group gets the counter it
names, a removed counter is there and not in use, a bulk removal ends on chip
0, and a get loop ends. -/
def LockCall.Disciplined (known : Lchip → Bool) : LockCall → Prop
  | createNhGrp a => ¬ (known a.switchId.lchip = true ∧ a.outNull = false ∧
      a.allocNexthop = .success ∧ a.type = some (.known .ecmp) ∧ a.counterOid ≠ Oid.null ∧
      a.counterIdCreate ≠ .success)
  | removeCounter oid record inUse _ _ =>
    known oid.lchip = true → record = true ∧ inUse = false
  | bulkRemoveMembers mode objects => (resolvedChips known mode objects).getLastD 0 = 0
  | getGrpAttr oid n answers | getMemberAttr oid n answers | getCounterAttribute oid n answers =>
    known oid.lchip = true → LoopEnds n answers
  | _ => True

/-! ## When a call releases its lock -/

section Releases

variable {known : Lchip → Bool}
variable {attrCount : BitVec 32} {answers : Nat → Status}

@[simp] theorem Status.failed_eq_false {status : Status} :
    status.failed = false ↔ status = .success := by
  simp [Status.failed]

theorem leaves_cons (p : FailurePoint) (body : List FailurePoint) :
    leaves (p :: body) = if p.1 then p.2 else leaves body := by
  unfold leaves
  rw [List.find?_cons]
  cases p.1 <;> rfl

theorem leaves_out {body : List FailurePoint} (h : ∀ p ∈ body, p.2 = .out) :
    leaves body = .out := by
  induction body with
  | nil => rfl
  | cons p body ih =>
    rw [leaves_cons, ih fun q hq => h q (List.mem_cons_of_mem _ hq)]
    split
    · exact h p List.mem_cons_self
    · rfl

theorem paired_lock (lchip : Lchip) : Paired (dbLock known lchip ++ dbUnlock known lchip) := by
  unfold dbLock dbUnlock
  split
  · exact .inr ⟨lchip, rfl⟩
  · exact .inl rfl

theorem paired_lockedCall_iff (checks : List Bool) (oid : Oid) (body : List FailurePoint) :
    Paired (lockedCall known checks oid body) ↔
      (checks.any id = false → known oid.lchip = true → leaves body = .out) := by
  unfold lockedCall
  cases hc : checks.any id with
  | true => exact iff_of_true (.inl rfl) fun h => by cases h
  | false =>
    cases hk : known oid.lchip with
    | false => exact iff_of_true (.inl rfl) fun _ h => by cases h
    | true =>
      cases hb : leaves body with
      | out => exact iff_of_true (paired_lock oid.lchip) fun _ _ => rfl
      | ret =>
        refine iff_of_false ?_ fun h => by cases h rfl rfl
        have htrace : dbLock known oid.lchip ++ [] = [.lock oid.lchip] := by
          rw [dbLock, if_pos hk]
          rfl
        rw [htrace]
        rintro (h | ⟨_, h⟩) <;> cases h

theorem paired_lockedCall (checks : List Bool) (oid : Oid) {body : List FailurePoint}
    (h : ∀ p ∈ body, p.2 = .out) : Paired (lockedCall known checks oid body) :=
  (paired_lockedCall_iff checks oid body).mpr fun _ _ => leaves_out h

theorem attrLoop_of_failure (d : Nat) :
    ∀ {turn : Nat} {loop : BitVec 8}, answers (turn + d) ≠ .success →
      attrLoop attrCount answers (d + 1) turn loop = true := by
  induction d with
  | zero =>
    intro turn loop h
    rw [attrLoop]
    split
    · rw [if_pos (by simpa [Status.failed] using h)]
    · rfl
  | succ d ih =>
    intro turn loop h
    rw [attrLoop]
    split
    · split
      · rfl
      · exact ih (by rwa [Nat.add_right_comm])
    · rfl

theorem attrLoop_of_fits (hcount : attrCount.toNat ≤ 255) (d : Nat) :
    ∀ {turn : Nat} {loop : BitVec 8}, attrCount.toNat ≤ loop.toNat + d →
      attrLoop attrCount answers (d + 1) turn loop = true := by
  induction d with
  | zero =>
    intro turn loop h
    rw [attrLoop, if_neg (by omega)]
  | succ d ih =>
    intro turn loop h
    rw [attrLoop]
    split
    · next hlt =>
      split
      · rfl
      · refine ih ?_
        simp
        omega
    · rfl

theorem attrLoop_endless (hcount : 255 < attrCount.toNat) (h : ∀ turn, answers turn = .success)
    (fuel turn : Nat) (loop : BitVec 8) : attrLoop attrCount answers fuel turn loop = false := by
  induction fuel generalizing turn loop with
  | zero => rfl
  | succ fuel ih =>
    have hlt : loop.toNat < attrCount.toNat := Nat.lt_of_lt_of_le loop.isLt hcount
    rw [attrLoop, if_pos hlt, Status.failed_eq_false.mpr (h turn)]
    exact ih _ _

theorem attrLoop_ends_iff (attrCount : BitVec 32) (answers : Nat → Status) :
    (∃ fuel, attrLoop attrCount answers fuel 0 0 = true) ↔ LoopEnds attrCount answers := by
  constructor
  · rintro ⟨fuel, hend⟩
    by_contra hnot
    have hcount : 255 < attrCount.toNat := Nat.lt_of_not_le fun h => hnot (.inl h)
    have hok : ∀ turn, answers turn = .success := fun turn =>
      Decidable.byContradiction fun h => hnot (.inr ⟨turn, h⟩)
    rw [attrLoop_endless hcount hok] at hend
    cases hend
  · rintro (hcount | ⟨turn, hfail⟩)
    · exact ⟨_, attrLoop_of_fits hcount attrCount.toNat (Nat.le_add_left _ _)⟩
    · exact ⟨_, attrLoop_of_failure turn (by rwa [Nat.zero_add])⟩

theorem getCall_releases_iff (oid : Oid) (attrCount : BitVec 32) (answers : Nat → Status) :
    (∃ fuel t, getCall known oid attrCount answers fuel = some t ∧ Paired t) ↔
      (known oid.lchip = true → LoopEnds attrCount answers) := by
  unfold getCall
  cases hk : known oid.lchip with
  | false => exact iff_of_true ⟨0, [], rfl, .inl rfl⟩ fun h => by cases h
  | true =>
    constructor
    · rintro ⟨fuel, t, ht, -⟩ _
      refine (attrLoop_ends_iff attrCount answers).mp ⟨fuel, ?_⟩
      by_contra hnot
      rw [if_neg hnot] at ht
      cases ht
    · intro h
      obtain ⟨fuel, hend⟩ := (attrLoop_ends_iff attrCount answers).mpr (h rfl)
      refine ⟨fuel, dbLock known oid.lchip ++ dbUnlock known oid.lchip, ?_, paired_lock oid.lchip⟩
      rw [if_neg (by decide), if_pos hend]

theorem bulkRemoveLchip_eq (mode : BulkOpErrorMode) (objects : List (Oid × Status))
    (lchip : Lchip) : bulkRemoveLchip known mode objects lchip =
      (resolvedChips known mode objects).getLastD lchip := by
  induction objects generalizing lchip with
  | nil => rfl
  | cons o rest ih =>
    rw [bulkRemoveLchip, resolvedChips]
    split
    · rfl
    · split
      · rfl
      · rw [ih, List.getLastD_cons]

theorem bulkRemoveLchip_known (mode : BulkOpErrorMode) (objects : List (Oid × Status))
    (lchip : Lchip) : bulkRemoveLchip known mode objects lchip = lchip ∨
      known (bulkRemoveLchip known mode objects lchip) = true := by
  induction objects generalizing lchip with
  | nil => exact .inl rfl
  | cons o rest ih =>
    obtain ⟨oid, status⟩ := o
    rw [bulkRemoveLchip]
    split
    · exact .inl rfl
    next hk =>
    have hknown : known oid.lchip = true := by simpa using hk
    split
    · exact .inr hknown
    · rcases ih oid.lchip with h | h
      · exact .inr (by rw [h]; exact hknown)
      · exact .inr h

theorem paired_bulkRemove_iff (mode : BulkOpErrorMode) (objects : List (Oid × Status)) :
    Paired (bulkRemoveMembersLocks known mode objects) ↔
      (resolvedChips known mode objects).getLastD 0 = 0 := by
  rw [← bulkRemoveLchip_eq, bulkRemoveMembersLocks]
  constructor
  · intro h
    rcases @bulkRemoveLchip_known known mode objects 0 with h0 | hk
    · exact h0
    rw [dbUnlock, dbLock] at h
    split at h
    · rcases h with h | ⟨_, h⟩
      · cases h
      · injection h with h₁ h₂
        injection h₁ with h₁
        injection h₂ with h₂
        injection h₂ with h₂
        exact h₂.trans h₁.symm
    · rcases h with h | ⟨_, h⟩ <;> cases h
  · intro h
    rw [h]
    exact paired_lock 0

theorem paired_createNhGrp_iff (a : CreateNhGrp) :
    Paired (createNhGrpLocks known a) ↔ LockCall.Disciplined known (.createNhGrp a) := by
  obtain ⟨outNull, switchId, type, counterOid, alloc, counter, add, aps, malloc, object⟩ := a
  unfold createNhGrpLocks
  rw [paired_lockedCall_iff]
  have hend : ∀ b c d : Bool, leaves [(b, .out), (c, .out), (d, .out)] = .out := fun b c d =>
    leaves_out (by simp)
  rcases type with _ | (_ | _) | _
  · exact iff_of_true (fun h => by simp at h) fun h => by cases h.2.2.2.1
  · -- an ECMP group: the counter is between the id and the SDK
    show (_ → _ → leaves ((alloc.failed, .out) ::
      (decide (counterOid ≠ Oid.null) && counter.failed, .ret) ::
      [(add.failed, .out), (!malloc, .out), (object.failed, .out)]) = .out) ↔ ¬ _
    rw [leaves_cons, leaves_cons, hend]
    cases outNull <;> cases ha : alloc.failed <;> simp_all [Status.failed]
  · exact iff_of_true (fun _ _ => leaves_out (by simp)) fun h => by cases h.2.2.2.1
  · exact iff_of_true (fun _ _ => leaves_out (by simp)) fun h => by cases h.2.2.2.1

theorem paired_removeCounter_iff (oid : Oid) (record inUse : Bool) (freeId removeDb : Status) :
    Paired (removeCounterLocks known oid record inUse freeId removeDb) ↔
      (known oid.lchip = true → record = true ∧ inUse = false) := by
  unfold removeCounterLocks
  rw [paired_lockedCall_iff, leaves_cons, leaves_cons, leaves_out (by simp)]
  cases record <;> cases inUse <;> simp

theorem LockCall.releases_iff (call : LockCall) : call.Releases known ↔ call.Disciplined known := by
  have hplain : ∀ {call : LockCall} {t : List LockEvent}, (∀ fuel, call.run known fuel = some t) →
      (call.Releases known ↔ Paired t) := by
    intro call t ht
    constructor
    · rintro ⟨fuel, u, hu, hp⟩
      rw [ht fuel] at hu
      obtain rfl := Option.some.inj hu
      exact hp
    · exact fun hp => ⟨0, t, ht 0, hp⟩
  cases call with
  | createNhGrp a => exact (hplain fun _ => rfl).trans (paired_createNhGrp_iff a)
  | removeCounter oid r u s s' =>
    exact (hplain fun _ => rfl).trans (paired_removeCounter_iff oid r u s s')
  | bulkRemoveMembers mode objects =>
    exact (hplain fun _ => rfl).trans (paired_bulkRemove_iff mode objects)
  | getGrpAttr oid n answers => exact getCall_releases_iff oid n answers
  | getMemberAttr oid n answers => exact getCall_releases_iff oid n answers
  | getCounterAttribute oid n answers => exact getCall_releases_iff oid n answers
  | counterStats => exact iff_of_true ⟨0, [], rfl, .inl rfl⟩ trivial
  | removeNhGrp | setGrpAttr | createMember | removeMember | setMemberAttr | bulkCreateMembers
  | createCounter | setCounterAttribute =>
    exact iff_of_true ((hplain fun _ => rfl).mpr (paired_lockedCall _ _ (by simp))) trivial

end Releases

/-! ## Runs -/

/-- Which chips are locked. -/
abbrev Locks := Lchip → Bool

/-- What an event does; a lock that is held does not come back. -/
def Locks.apply (locks : Locks) : LockEvent → Option Locks
  | .lock lchip => if locks lchip then none else some (update locks lchip true)
  | .unlock lchip => some (update locks lchip false)

/-- One call of a run, with the fuel it comes back with. -/
def lockStep (known : Lchip → Bool) (locks : Locks) (op : LockCall × Nat) : Option Locks :=
  (op.1.run known op.2).bind fun t => t.foldlM Locks.apply locks

def Locks.Free (locks : Locks) : Prop := ∀ lchip, locks lchip = false

theorem Locks.Free.paired {locks locks' : Locks} (h : locks.Free) {t : List LockEvent}
    (ht : Paired t) (hst : t.foldlM Locks.apply locks = some locks') : locks'.Free := by
  rcases ht with rfl | ⟨lchip, rfl⟩
  · cases hst
    exact h
  have hlock : locks.apply (.lock lchip) = some (update locks lchip true) :=
    if_neg (by rw [h lchip]; decide)
  rw [List.foldlM_cons, hlock] at hst
  obtain rfl := Option.some.inj hst
  intro c
  by_cases hc : c = lchip
  · rw [hc, update_self]
  · rw [update_of_ne hc, update_of_ne hc]
    exact h c

theorem LockCall.run_unique {known : Lchip → Bool} {call : LockCall} {fuel fuel' : Nat}
    {t t' : List LockEvent} (h : call.run known fuel = some t)
    (h' : call.run known fuel' = some t') : t = t' := by
  have hget : ∀ {oid : Oid} {n : BitVec 32} {answers : Nat → Status},
      getCall known oid n answers fuel = some t → getCall known oid n answers fuel' = some t' →
        t = t' := by
    intro oid n answers h h'
    unfold getCall at h h'
    split at h
    · next hk =>
      rw [if_pos hk] at h'
      exact Option.some.inj (h.symm.trans h')
    next hk =>
    rw [if_neg hk] at h'
    split at h
    · split at h'
      · exact Option.some.inj (h.symm.trans h')
      · cases h'
    · cases h
  cases call with
  | getGrpAttr | getMemberAttr | getCounterAttribute => exact hget h h'
  | _ => exact Option.some.inj (h.symm.trans h')

/-- A call releases its lock exactly if it keeps the discipline, and after any
run of calls that do every lock is free. -/
theorem locks_of_run (known : Lchip → Bool) :
    (∀ call : LockCall, call.Releases known ↔ call.Disciplined known) ∧
      ∀ locks, Reachable Locks.Free (fun _ op => op.1.Disciplined known) (lockStep known) locks →
        locks.Free := by
  refine ⟨LockCall.releases_iff, fun locks h => Reachable.inv (I := Locks.Free) ?_ ?_ h⟩
  · exact fun _ hs => hs
  · intro locks op locks' hfree hok hst
    obtain ⟨t, ht, happly⟩ := Option.bind_eq_some_iff.mp hst
    obtain ⟨fuel, u, hu, hpaired⟩ := (LockCall.releases_iff op.1).mpr hok
    rw [LockCall.run_unique hu ht] at hpaired
    exact hfree.paired hpaired happly

/-- A counter that does not exist is removed, and its chip stays locked. -/
theorem locks_not_every_run : ¬ ∀ known : Lchip → Bool, (∀ call : LockCall, call.Releases known) ∧
      ∀ locks, Reachable Locks.Free anyStep (lockStep known) locks → locks.Free := by
  intro h
  have r₀ : Reachable Locks.Free anyStep (lockStep fun _ => true) (fun _ => false) :=
    .start fun _ => rfl
  have r₁ := r₀.next (.removeCounter Oid.null false false .success .success, 0) trivial rfl
  have hfree := (h fun _ => true).2 _ r₁ 0
  revert hfree
  decide

end CtcSai
