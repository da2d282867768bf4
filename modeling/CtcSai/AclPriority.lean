/-
# `AclPriority` — in which order the rules stand

The SDK tries the rules of a TCAM block from the largest priority down.  Four paths put
a rule there or move it: a bind, a new member of a bound group, a new entry of a bound
table, and a set of an entry's priority.  All of them call one function, but not with
the same arguments.

The highest bit of a priority tells PARALLEL from SEQUENTIAL; below it stand the bind
point type, the member (or, for PARALLEL, the table) and the entry.
-/
import CtcSai.AclKeys

namespace CtcSai

open BitFields

/-! ## The four paths -/

/-- Through what a rule is installed: member number `ii` of a group, or a table that is
bound itself. -/
inductive AclUnit where
  | member (g : AclGroup) (ii : Nat)
  | table (stage : AclStage)

/-- The paths on which a priority is computed.  `create_acl_entry` takes the block of a
group by the type its variable holds from the bind point before. -/
inductive PriorityPath where
  | bind | memberCreate | entryCreate (previous : BindPointType) | entrySet
deriving DecidableEq

/-- `combined_priority` of `_ctc_sai_acl_bind_point_acl_add`: a group passes the type of
the bind point, a table its value. -/
def bindPriority (unit : AclUnit) (point : AclBindPoint) (tableIndex : BitVec 32)
    (priority : BitVec 16) (old : BitVec 32) : BitVec 32 :=
  match unit with
  | .member g ii =>
    getEntryCombinedPriority g.groupType ((memberPriorityAt g ii).setWidth 16) priority
      (BitVec.ofNat 16 point.type.toNat) tableIndex old
  | .table _ =>
    getEntryCombinedPriority groupTypeSequential 0 priority (point.value.setWidth 16) tableIndex
      old

/-- `combined_priority` of `ctc_sai_acl_create_acl_entry`. -/
def entryCreatePriority (previous : BindPointType) (unit : AclUnit) (point : AclBindPoint)
    (tableIndex : BitVec 32) (priority : BitVec 16) (old : BitVec 32) : BitVec 32 :=
  match unit with
  | .member g ii =>
    let blockBase := mappingTcamBlockBase g.groupStage previous g.groupType
    getEntryCombinedPriority g.groupType
      ((blockBase.setWidth 32 + memberPriorityAt g ii).setWidth 16) priority
      (point.value.setWidth 16) tableIndex old
  | .table stage =>
    let blockBase := mappingTcamBlockBase stage point.type groupTypeParallel
    getEntryCombinedPriority groupTypeParallel (blockBase.setWidth 16) priority
      (point.value.setWidth 16) tableIndex old

/-- `new_priority` of `ctc_sai_acl_set_acl_entry_info`. -/
def entrySetPriority (unit : AclUnit) (point : AclBindPoint) (tableIndex : BitVec 32)
    (priority : BitVec 16) (old : BitVec 32) : BitVec 32 :=
  match unit with
  | .member g ii =>
    let blockBase := mappingTcamBlockBase g.groupStage point.type groupTypeParallel
    getEntryCombinedPriority g.groupType
      ((blockBase.setWidth 32 + memberPriorityAt g ii).setWidth 16) priority
      (point.value.setWidth 16) tableIndex old
  | .table stage =>
    let blockBase := mappingTcamBlockBase stage point.type groupTypeSequential
    getEntryCombinedPriority groupTypeSequential (blockBase.setWidth 16) priority
      (point.value.setWidth 16) tableIndex old

/-- The priority of a rule on each path; a new member binds its group again. -/
def rulePriority : PriorityPath → AclUnit → AclBindPoint → BitVec 32 → BitVec 16 → BitVec 32 →
    BitVec 32
  | .bind | .memberCreate => bindPriority
  | .entryCreate previous => entryCreatePriority previous
  | .entrySet => entrySetPriority

/-! ## The groups that the creates make -/

/-- The groups that group and member creates, member removals and binds make. -/
inductive AclGroup.Accepted : AclGroup → Prop
  | create {stage : AclStage} {type bindPointList : BitVec 8} {lookupType : BitVec 32}
      (h : ¬ (type = groupTypeSequential ∧ stage = .egress)) :
      Accepted ⟨stage, type, bindPointList, lookupType, [], []⟩
  | member {g : AclGroup} {tableId : Oid} {priority : BitVec 32} (hg : Accepted g)
      (h : checkMemberPriority g priority = .success) :
      Accepted { g with memberList := ⟨tableId, priority.setWidth 16⟩ :: g.memberList }
  | leave {g : AclGroup} (i : Nat) (hg : Accepted g) :
      Accepted { g with memberList := g.memberList.eraseIdx i }
  | update {g : AclGroup} {lookupType : BitVec 32} {points : List BindPointInfo}
      (hg : Accepted g) : Accepted { g with lookupType := lookupType, bindPoints := points }

theorem AclGroup.Accepted.prio_lt {g : AclGroup} (hg : g.Accepted)
    (hseq : g.groupType = groupTypeSequential) :
    ∀ m ∈ g.memberList, m.membersPrio.toNat < 2 := by
  induction hg with
  | create h => intro m hm; cases hm
  | @member g tableId priority hg h ih =>
    intro m hm
    rcases List.mem_cons.mp hm with rfl | hm
    · have hlt : priority.toNat < 2 := by
        simp only [checkMemberPriority, if_pos (show g.groupType = _ from hseq)] at h
        split at h
        · split at h
          · cases h
          · split at h
            · cases h
            · next hnot => exact Nat.lt_of_not_le hnot
        · cases h
      rw [BitVec.toNat_setWidth]
      omega
    · exact ih hseq m hm
  | leave i hg ih => intro m hm; exact ih hseq m (List.mem_of_mem_eraseIdx hm)
  | update hg ih => exact ih hseq

theorem memberPriorityAt_sequential {g : AclGroup} (hseq : g.groupType = groupTypeSequential)
    {ii : Nat} (hii : ii < g.memberList.length) :
    memberPriorityAt g ii = (g.memberList[ii]).membersPrio.setWidth 32 := by
  have hpar : g.groupType ≠ groupTypeParallel := by rw [hseq]; decide
  rw [memberPriorityAt, sortMemberPriority, if_neg hpar, memberPriorities]
  simp [hseq, List.getD_eq_getElem?_getD, hii]

/-! ## The fields of a priority -/

section Fields

variable {m p q s : BitVec 16} {i old old' : BitVec 32}

/-- The stage field: four bits, the highest of which is free while the stage is a bind
point type. -/
def stageField (s : BitVec 16) : Nat := (2 ^ 32 + 4 - s.toNat) % 16

theorem stageField_type (t : BindPointType) :
    stageField (BitVec.ofNat 16 t.toNat) = 4 - t.toNat := by
  cases t <;> rfl

theorem toNat_stage_shift (s : BitVec 16) :
    ((4#32 - s.setWidth 32) <<< 28 : BitVec 32).toNat = stageField s * 2 ^ 28 := by
  have h4 : (4#32).toNat = 4 := rfl
  rw [BitVec.toNat_shiftLeft, BitVec.toNat_sub, BitVec.toNat_setWidth, stageField]
  omega

theorem toNat_entry (p : BitVec 16) : (p.setWidth 32).toNat = p.toNat := by
  rw [BitVec.toNat_setWidth]
  omega

theorem toNat_sequential (hm : m.toNat < 2 ^ 12) :
    (getEntryCombinedPriority groupTypeSequential m p s i old).toNat =
      stageField s * 2 ^ 28 + m.toNat * 2 ^ 16 + p.toNat := by
  have hstage := toNat_stage_shift s
  have hm16 : (m.setWidth 32 <<< 16 : BitVec 32).toNat = m.toNat * 2 ^ 16 := by
    rw [BitVec.toNat_shiftLeft, toNat_entry]
    omega
  have hhigh : ((4#32 - s.setWidth 32) <<< 28 ||| m.setWidth 32 <<< 16 : BitVec 32).toNat =
      stageField s * 2 ^ 28 + m.toNat * 2 ^ 16 := by
    rw [toNat_or_add (by rw [hstage]; exact Nat.dvd_mul_left _ _) (by rw [hm16]; omega),
      hstage, hm16]
  rw [getEntryCombinedPriority, if_pos rfl,
    toNat_or_add (k := 16) (by rw [hhigh]; omega) (by rw [toNat_entry]; exact p.isLt), hhigh,
    toNat_entry]

theorem toNat_parallel (t : BindPointType) (hi : i.toNat < 2 ^ 12) :
    (getEntryCombinedPriority groupTypeParallel m p (BitVec.ofNat 16 t.toNat) i old).toNat =
      2 ^ 31 + (4 - t.toNat) * 2 ^ 28 + i.toNat * 2 ^ 16 + p.toNat := by
  have hne : ¬ groupTypeParallel = groupTypeSequential := by decide
  have htop : (0x80000000#32).toNat = 2 ^ 31 := rfl
  have hstage := toNat_stage_shift (BitVec.ofNat 16 t.toNat)
  rw [stageField_type] at hstage
  have hi16 : (i <<< 16 : BitVec 32).toNat = i.toNat * 2 ^ 16 := by
    rw [BitVec.toNat_shiftLeft]
    omega
  have hupper : (0x80000000#32 ||| (4#32 - (BitVec.ofNat 16 t.toNat).setWidth 32) <<< 28 :
      BitVec 32).toNat = 2 ^ 31 + (4 - t.toNat) * 2 ^ 28 := by
    rw [toNat_or_add (by rw [htop]) (by rw [hstage]; omega), htop, hstage]
  have hhigh : (0x80000000#32 ||| (4#32 - (BitVec.ofNat 16 t.toNat).setWidth 32) <<< 28 |||
      i <<< 16 : BitVec 32).toNat = 2 ^ 31 + (4 - t.toNat) * 2 ^ 28 + i.toNat * 2 ^ 16 := by
    rw [toNat_or_add (k := 28) (by rw [hupper]; omega) (by rw [hi16]; omega), hupper, hi16]
  rw [getEntryCombinedPriority, if_neg hne, if_pos rfl,
    toNat_or_add (k := 16) (by rw [hhigh]; omega) (by rw [toNat_entry]; exact p.isLt), hhigh,
    toNat_entry]

theorem le_toNat_parallel : 2 ^ 31 ≤ (getEntryCombinedPriority groupTypeParallel m p s i old).toNat := by
  have hne : ¬ groupTypeParallel = groupTypeSequential := by decide
  rw [getEntryCombinedPriority, if_neg hne, BitVec.or_assoc, BitVec.or_assoc]
  exact Nat.left_le_or

/-- With all other arguments the same the entry decides, also where a field does not
fit. -/
theorem entry_decides {groupType : BitVec 8}
    (htype : groupType = groupTypeSequential ∨ groupType = groupTypeParallel) :
    getEntryCombinedPriority groupType m p s i old <
      getEntryCombinedPriority groupType m q s i old' ↔ p < q := by
  have hstage : 2 ^ 16 ∣ ((4#32 - s.setWidth 32) <<< 28 : BitVec 32).toNat :=
    (Nat.pow_dvd_pow 2 (by decide : 16 ≤ 28)).trans (dvd_toNat_shiftLeft _ (by decide))
  obtain ⟨high, hdvd, hword⟩ : ∃ high : BitVec 32, 2 ^ 16 ∣ high.toNat ∧
      ∀ p old, getEntryCombinedPriority groupType m p s i old = high ||| p.setWidth 32 := by
    rcases htype with rfl | rfl
    · exact ⟨_, dvd_toNat_or hstage (dvd_toNat_shiftLeft _ (by decide)), fun _ _ => rfl⟩
    · exact ⟨_, dvd_toNat_or (dvd_toNat_or (by decide) hstage) (dvd_toNat_shiftLeft _ (by decide)),
        fun _ _ => rfl⟩
  have hadd : ∀ r : BitVec 16, (high ||| r.setWidth 32).toNat = high.toNat + r.toNat := by
    intro r
    rw [toNat_or_add hdvd (by rw [toNat_entry]; exact r.isLt), toNat_entry]
  rw [hword, hword, BitVec.lt_def, BitVec.lt_def, hadd, hadd]
  omega

end Fields

/-! ## The order of the rules -/

/-- Rules of one SEQUENTIAL group at one bind point compare by the members, then by the
entries. -/
def MembersFirst (path : PriorityPath) : Prop :=
  ∀ g : AclGroup, g.Accepted → g.groupType = groupTypeSequential →
    ∀ (ii jj : Nat) (hi : ii < g.memberList.length) (hj : jj < g.memberList.length)
      (point : AclBindPoint) (i j : BitVec 32) (p q : BitVec 16) (old old' : BitVec 32),
      rulePriority path (.member g ii) point i p old <
          rulePriority path (.member g jj) point j q old' ↔
        (g.memberList[ii]).membersPrio < (g.memberList[jj]).membersPrio ∨
          ((g.memberList[ii]).membersPrio = (g.memberList[jj]).membersPrio ∧ p < q)

/-- The unit is a table or a member of a SEQUENTIAL or PARALLEL group. -/
def AclUnit.Known : AclUnit → Prop
  | .member g _ => g.groupType = groupTypeSequential ∨ g.groupType = groupTypeParallel
  | .table _ => True

/-- Rules of one table at one bind point compare by the entries. -/
def EntriesOrdered (path : PriorityPath) : Prop :=
  ∀ unit : AclUnit, unit.Known →
    ∀ (point : AclBindPoint) (i : BitVec 32) (p q : BitVec 16) (old old' : BitVec 32),
      rulePriority path unit point i p old < rulePriority path unit point i q old' ↔ p < q

/-- A member of an accepted group at a bind point, with the number of its table. -/
structure MemberRule where
  g : AclGroup
  ii : Nat
  point : AclBindPoint
  index : BitVec 32
  priority : BitVec 16
  accepted : g.Accepted
  inList : ii < g.memberList.length

def MemberRule.memberPrio (r : MemberRule) : BitVec 16 :=
  (r.g.memberList.get ⟨r.ii, r.inList⟩).membersPrio

/-- The word that a path computes for the rule. -/
def MemberRule.word (r : MemberRule) (path : PriorityPath) (old : BitVec 32) : BitVec 32 :=
  rulePriority path (.member r.g r.ii) r.point r.index r.priority old

/-- Rules of groups of one type at bind points of different types compare by the types,
PORT first; for PARALLEL groups as long as the numbers of their tables have 12 bits. -/
def TypesOrdered (path : PriorityPath) : Prop :=
  ∀ (r r' : MemberRule) (old old' : BitVec 32), r.point.type ≠ r'.point.type →
    r.g.groupType = r'.g.groupType →
    (r.g.groupType = groupTypeSequential ∨
      r.g.groupType = groupTypeParallel ∧ r.index.toNat < 2 ^ 12 ∧ r'.index.toNat < 2 ^ 12) →
    (r.word path old < r'.word path old' ↔ r'.point.type.toNat < r.point.type.toNat)

/-- Every rule of a PARALLEL group stands above every rule of a SEQUENTIAL group. -/
def ParallelAbove (path : PriorityPath) : Prop :=
  ∀ (r r' : MemberRule) (old old' : BitVec 32), r.g.groupType = groupTypeSequential →
    r'.g.groupType = groupTypeParallel → r.word path old < r'.word path old'

/-- No field reaches into the one above it; for PARALLEL groups as long as the number
of the table has 12 bits. -/
def FieldsFit (path : PriorityPath) : Prop :=
  ∀ (r : MemberRule) (old : BitVec 32),
    (r.g.groupType = groupTypeSequential → (r.word path old).toNat =
      (4 - r.point.type.toNat) * 2 ^ 28 + r.memberPrio.toNat * 2 ^ 16 + r.priority.toNat ∧
      r.memberPrio.toNat < 2 ^ 12) ∧
    (r.g.groupType = groupTypeParallel → r.index.toNat < 2 ^ 12 → (r.word path old).toNat =
      2 ^ 31 + (4 - r.point.type.toNat) * 2 ^ 28 + r.index.toNat * 2 ^ 16 + r.priority.toNat)

/-- The block base that a path adds to a member priority. -/
def blockBaseOf (path : PriorityPath) (g : AclGroup) (point : AclBindPoint) : BitVec 8 :=
  match path with
  | .bind | .memberCreate => 0
  | .entryCreate previous => mappingTcamBlockBase g.groupStage previous g.groupType
  | .entrySet => mappingTcamBlockBase g.groupStage point.type groupTypeParallel

def stageOf (path : PriorityPath) (point : AclBindPoint) : BitVec 16 :=
  match path with
  | .bind | .memberCreate => BitVec.ofNat 16 point.type.toNat
  | .entryCreate _ | .entrySet => point.value.setWidth 16

theorem rulePriority_member (path : PriorityPath) (g : AclGroup) (ii : Nat) (point : AclBindPoint)
    (i : BitVec 32) (p : BitVec 16) (old : BitVec 32) :
    rulePriority path (.member g ii) point i p old = getEntryCombinedPriority g.groupType
        (((blockBaseOf path g point).setWidth 32 + memberPriorityAt g ii).setWidth 16) p
        (stageOf path point) i old := by
  cases path with
  | bind | memberCreate => simp [rulePriority, bindPriority, blockBaseOf, stageOf]
  | entryCreate _ | entrySet => rfl

theorem toNat_memberField {g : AclGroup} (hg : g.Accepted)
    (hseq : g.groupType = groupTypeSequential) {ii : Nat} (hii : ii < g.memberList.length)
    (path : PriorityPath) (point : AclBindPoint) :
    (((blockBaseOf path g point).setWidth 32 + memberPriorityAt g ii).setWidth 16).toNat =
        (blockBaseOf path g point).toNat + (g.memberList[ii]).membersPrio.toNat ∧
      (blockBaseOf path g point).toNat + (g.memberList[ii]).membersPrio.toNat < 2 ^ 12 := by
  have hlt := hg.prio_lt hseq _ (List.getElem_mem hii)
  rw [memberPriorityAt_sequential hseq hii, BitVec.toNat_setWidth, BitVec.toNat_add,
    BitVec.toNat_setWidth, BitVec.toNat_setWidth]
  omega

theorem membersFirst (path : PriorityPath) : MembersFirst path := by
  intro g hg hseq ii jj hi hj point i j p q old old'
  obtain ⟨hmi, hmi12⟩ := toNat_memberField hg hseq hi path point
  obtain ⟨hmj, hmj12⟩ := toNat_memberField hg hseq hj path point
  have hp := p.isLt
  have hq := q.isLt
  rw [rulePriority_member, rulePriority_member, hseq, BitVec.lt_def,
    toNat_sequential (by rw [hmi]; exact hmi12), toNat_sequential (by rw [hmj]; exact hmj12), hmi,
    hmj, BitVec.lt_def, BitVec.lt_def, ← BitVec.toNat_inj, ← fields_lt_iff hp hq, Nat.add_mul,
    Nat.add_mul, Nat.add_assoc, Nat.add_assoc, Nat.add_assoc, Nat.add_assoc, Nat.add_lt_add_iff_left,
    Nat.add_lt_add_iff_left]

theorem entriesOrdered (path : PriorityPath) : EntriesOrdered path := by
  intro unit hunit point i p q old old'
  cases unit with
  | member g ii =>
    rw [rulePriority_member, rulePriority_member]
    exact entry_decides hunit
  | table stage =>
    cases path with
    | bind | memberCreate | entrySet =>
      exact @entry_decides _ p q _ i old old' _ (Or.inl rfl)
    | entryCreate previous => exact @entry_decides _ p q _ i old old' _ (Or.inr rfl)

theorem fieldsFit {path : PriorityPath} (hpath : path = .bind ∨ path = .memberCreate) :
    FieldsFit path := by
  intro r old
  have hstage : stageOf path r.point = BitVec.ofNat 16 r.point.type.toNat := by
    rcases hpath with rfl | rfl <;> rfl
  have hbase : (blockBaseOf path r.g r.point).toNat = 0 := by
    rcases hpath with rfl | rfl <;> rfl
  constructor
  · intro hseq
    obtain ⟨hm, hm12⟩ := toNat_memberField r.accepted hseq r.inList path r.point
    rw [hbase, Nat.zero_add] at hm hm12
    refine ⟨?_, hm12⟩
    rw [MemberRule.word, rulePriority_member, hseq, toNat_sequential (by rw [hm]; exact hm12), hm,
      hstage, stageField_type]
    rfl
  · intro hpar hindex
    rw [MemberRule.word, rulePriority_member, hpar, hstage, toNat_parallel _ hindex]

theorem typesOrdered {path : PriorityPath} (hpath : path = .bind ∨ path = .memberCreate) :
    TypesOrdered path := by
  intro r r' old old' hne htype hfit
  obtain ⟨hseq, hpar⟩ := fieldsFit hpath r old
  obtain ⟨hseq', hpar'⟩ := fieldsFit hpath r' old'
  have ht := r.point.type.toNat_le
  have ht' := r'.point.type.toNat_le
  have hnum : r.point.type.toNat ≠ r'.point.type.toNat :=
    fun h => hne (BindPointType.toNat_inj.mp h)
  rw [BitVec.lt_def]
  rcases hfit with hs | ⟨hs, hi, hi'⟩
  · obtain ⟨hword, hm⟩ := hseq hs
    obtain ⟨hword', hm'⟩ := hseq' (htype.symm.trans hs)
    omega
  · rw [hpar hs hi, hpar' (htype.symm.trans hs) hi']
    omega

theorem parallelAbove {path : PriorityPath} (hpath : path = .bind ∨ path = .memberCreate) :
    ParallelAbove path := by
  intro r r' old old' hseq hpar
  obtain ⟨hword, hm⟩ := (fieldsFit hpath r old).1 hseq
  have htop : 2 ^ 31 ≤ (r'.word path old').toNat := by
    rw [MemberRule.word, rulePriority_member, hpar]
    exact le_toNat_parallel
  rw [BitVec.lt_def]
  omega

/-- A group whose one member has the member priority 1. -/
def priorityGroup (type : BitVec 8) : AclGroup :=
  ⟨.ingress, type, 7, 0, [⟨Oid.null, 1⟩], []⟩

theorem priorityGroup_accepted {type : BitVec 8}
    (h : type = groupTypeSequential ∨ type = groupTypeParallel) : (priorityGroup type).Accepted := by
  rcases h with rfl | rfl
  · exact @AclGroup.Accepted.member _ Oid.null 1 (.create (by decide)) (by decide)
  · exact @AclGroup.Accepted.member _ Oid.null 1 (.create (by decide)) (by decide)

/-- The rule of a table with 100 as its number, in a group of the given type. -/
def priorityRule (t : BindPointType) : MemberRule :=
  ⟨priorityGroup groupTypeParallel, 0, ⟨t, 17⟩, 100, 7, priorityGroup_accepted (Or.inr rfl),
    by decide⟩

end CtcSai
