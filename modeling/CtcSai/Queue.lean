/-
# `Queue` — the records of ctc_sai_queue.c

A queue is named by its port, its type and its index, and its record is made when
one of its attributes is first set.  Four modules keep something of their own in
it: the scheduler group, the WRED profile, the buffer profile and the scheduler
profile, the last three by number.
-/
import CtcSai.Lag
import CtcSai.Lib.IdPool

namespace CtcSai

open KeyedTable IdPool

/-- What stays fixed while the QoS modules run. -/
structure QueueChip where
  /-- CTC_SAI_DB_ID_TYPE_COMMON. -/
  common : Allocator
  common_lo : 0 < common.lo
  common_hi : common.lo + common.size ≤ 2 ^ 32
  /-- The chips that have a database. -/
  known : Lchip → Bool

/-- Chip 0 alone, with the ids from 1 on. -/
def QueueChip.plain : QueueChip where
  common := .firstFit 1 1000
  common_lo := by decide
  common_hi := by decide
  known c := c == 0

/-- `ctc_sai_queue_db_t`. -/
structure Queue where
  schGrp : Oid
  wredId : BitVec 32
  bufId : BitVec 32
  schId : BitVec 32
deriving DecidableEq, Repr

def Queue.zero : Queue := ⟨Oid.null, 0, 0, 0⟩

/-- SAI_QUEUE_TYPE_ALL. -/
def queueTypeAll : BitVec 3 := 0

/-- SAI_QUEUE_TYPE_UNICAST. -/
def queueTypeUnicast : BitVec 3 := 1

/-- SAI_QUEUE_TYPE_MULTICAST. -/
def queueTypeMulticast : BitVec 3 := 2

/-- CTC_QOS_BASIC_Q_NUM. -/
def basicQNum : Nat := 8

/-- The object id of a queue of a port. -/
def queueOid (c : Lchip) (type : BitVec 8) (index : BitVec 16) (gport : BitVec 32) : Oid :=
  createObjectId .queue (c.setWidth 8) type index gport

/-- The `mem_malloc` calls behind a record that is made on demand. -/
structure RecordMem where
  record : Bool
  property : Bool
deriving DecidableEq, Repr

def RecordMem.ok : RecordMem := ⟨true, true⟩

/-- A record that is looked up, and made when it is not there. -/
def getOrMake {V : Type} (mem : RecordMem) (zero : V) (t : Table Oid V) (oid : Oid) :
    Except Status (V × Table Oid V) :=
  match t.lookup oid with
  | some v => .ok (v, t)
  | none =>
    if !mem.record || !mem.property then .error .noMemory
    else .ok (zero, t.insert oid zero)

/-- `_ctc_sai_queue_get_queue_db`. -/
def getQueueDb (mem : RecordMem) (queues : Table Oid Queue) (queueId : Oid) :
    Except Status (Queue × Table Oid Queue) :=
  if queueId.type ≠ ObjectType.queue.bits then .error .invalidObjectType
  else getOrMake mem .zero queues queueId

theorem getOrMake_cases {V : Type} {mem : RecordMem} {zero v : V} {t t' : Table Oid V} {oid : Oid}
    (h : getOrMake mem zero t oid = .ok (v, t')) :
    (t.lookup oid = some v ∧ t' = t) ∨
      (t.lookup oid = none ∧ v = zero ∧ t' = t.insert oid zero) := by
  simp only [getOrMake] at h
  split at h
  · next w hw =>
    cases h
    exact .inl ⟨hw, rfl⟩
  next hn =>
  split at h
  · cases h
  · cases h
    exact .inr ⟨hn, rfl, rfl⟩

theorem getQueueDb_cases {mem : RecordMem} {queues queues' : Table Oid Queue} {queueId : Oid}
    {q : Queue} (h : getQueueDb mem queues queueId = .ok (q, queues')) :
    (queues.lookup queueId = some q ∧ queues' = queues) ∨
      (queues.lookup queueId = none ∧ q = .zero ∧ queues' = queues.insert queueId .zero) := by
  simp only [getQueueDb] at h
  split at h
  · cases h
  · exact getOrMake_cases h

/-- A removal that succeeds if the record is there and counts no user. -/
theorem removal_success {V : Type} {t : Table Oid V} {oid : Oid} (cnt : V → BitVec 16) {users : Nat}
    {status : Status} (hnone : t.lookup oid = none → status ≠ .success)
    (hsome : ∀ v, t.lookup oid = some v →
      (status = .success ↔ cnt v = 0) ∧ users = (cnt v).toNat) :
    status = .success ↔ (∃ v, t.lookup oid = some v) ∧ users = 0 := by
  cases hl : t.lookup oid with
  | none => exact iff_of_false (hnone hl) (by rintro ⟨⟨_, hv⟩, _⟩; cases hv)
  | some v =>
    obtain ⟨hs, hu⟩ := hsome v hl
    rw [hs, hu, ← BitVec.toNat_inj]
    simp

end CtcSai
