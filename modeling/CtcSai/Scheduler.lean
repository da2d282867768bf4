/-
# `Scheduler` — ctc_sai_scheduler.c

A scheduler profile is used by ports and queues, which keep its number, and by scheduler
groups, which keep its object id.  Each of the three sets counts the user in the profile
and takes the count back from the profile the user had; they differ in what they have
written by the time a call of the SDK can fail.
-/
import CtcSai.SchedulerGroup

namespace CtcSai

open Function

/-! ## Attributes -/

/-- The attributes of a scheduler profile. -/
inductive SchedulerAttr where
  | schedulingType (t : BitVec 32)
  | schedulingWeight (w : BitVec 8)
  | meterType (t : BitVec 32)
  | minBandwidthRate (r : BitVec 64)
  | minBandwidthBurstRate (r : BitVec 64)
  | maxBandwidthRate (r : BitVec 64)
  | maxBandwidthBurstRate (r : BitVec 64)
deriving DecidableEq, Repr

namespace SchedulerAttr

def schedulingType? : SchedulerAttr → Option (BitVec 32)
  | schedulingType t => some t
  | _ => none

def schedulingWeight? : SchedulerAttr → Option (BitVec 8)
  | schedulingWeight w => some w
  | _ => none

def meterType? : SchedulerAttr → Option (BitVec 32)
  | meterType t => some t
  | _ => none

def minBandwidthRate? : SchedulerAttr → Option (BitVec 64)
  | minBandwidthRate r => some r
  | _ => none

def minBandwidthBurstRate? : SchedulerAttr → Option (BitVec 64)
  | minBandwidthBurstRate r => some r
  | _ => none

def maxBandwidthRate? : SchedulerAttr → Option (BitVec 64)
  | maxBandwidthRate r => some r
  | _ => none

def maxBandwidthBurstRate? : SchedulerAttr → Option (BitVec 64)
  | maxBandwidthBurstRate r => some r
  | _ => none

end SchedulerAttr

/-- SAI_SCHEDULING_TYPE_WRR, as an attribute has it. -/
def schedulingTypeWrr : BitVec 32 := 1

/-- SAI_METER_TYPE_BYTES. -/
def meterTypeBytes : BitVec 32 := 1

/-- `_ctc_sai_scheduler_map_attr_to_db` on a zeroed record with the defaults of
`ctc_sai_scheduler_create_scheduler_id`, DWRR with weight 1. -/
def schedulerOf (attrs : List SchedulerAttr) : Except Status Scheduler :=
  let type := findAttribInList SchedulerAttr.schedulingType? attrs
  let weight := findAttribInList SchedulerAttr.schedulingWeight? attrs
  let rate (sel : SchedulerAttr → Option (BitVec 64)) : BitVec 32 :=
    ((findAttribInList sel attrs).getD 0).setWidth 32
  if type = some schedulingTypeWrr then .error .invalidParameter
  else if weight.isSome ∧ type.map (BitVec.setWidth 8) ≠ some schedulingTypeDwrr then
    .error .invalidParameter
  else if (findAttribInList SchedulerAttr.meterType? attrs).any (· ≠ meterTypeBytes) then
    .error .invalidParameter
  else .ok {
    schType := (type.map (BitVec.setWidth 8)).getD schedulingTypeDwrr
    weight := weight.getD 1
    minRate := rate SchedulerAttr.minBandwidthRate?
    minBurstRate := rate SchedulerAttr.minBandwidthBurstRate?
    maxRate := rate SchedulerAttr.maxBandwidthRate?
    maxBurstRate := rate SchedulerAttr.maxBandwidthBurstRate?
    refCnt := 0 }

/-! ## Mapping a profile to a queue -/

variable {sc : SchedulerChip}

/-- `_ctc_sai_scheduler_queue_set_ctc_sched`. -/
def queueSetCtcSched (sc : SchedulerChip) (c : Lchip) (gport : BitVec 32)
    (queue classId weight : BitVec 8) (hw : SchedHw) : Status × SchedHw :=
  let confirm : SchedHw → Status × SchedHw := fun hw =>
    match sc.chipType c with
    | .duet2 | .tsingma => (.success, hw)
    | .greatbelt | .goldengate => hw.write (.queueConfirmClass c gport queue) classId
  hwThen (confirm hw) fun hw =>
  hwThen (hw.write (.queueExceedClass c gport queue) classId) fun hw =>
  if weight ≠ 0 then hw.write (.queueExceedWeight c gport queue) weight else (.success, hw)

/-- The queues behind a STRICT one that are in its class go into the class of the first of
them. -/
def strictClasses (sc : SchedulerChip) (c : Lchip) (gport : BitVec 32) (queue : BitVec 8) :
    Option (BitVec 8) → List (BitVec 8) → SchedHw → Status × SchedHw
  | _, [], hw => (.success, hw)
  | new, i :: rest, hw =>
    -- `ctcs_qos_get_sched`
    hwThen hw.call fun hw =>
    if hw.regs (.queueExceedClass c gport i) ≠ queue then strictClasses sc c gport queue new rest hw
    else
      let cls := new.getD i
      hwThen (queueSetCtcSched sc c gport i cls 0 hw) fun hw =>
      strictClasses sc c gport queue (some cls) rest hw

/-- Every queue of the port with a DWRR profile goes into the class of the first of them. -/
def wdrrClasses (db : SchedDb sc) (c : Lchip) (gport : BitVec 32) (queue : BitVec 8) :
    Option (BitVec 8) → List (BitVec 8) → SchedHw → Status × SchedHw
  | _, [], hw => (.success, hw)
  | new, i :: rest, hw =>
    match db.queueOf (fun q => q.schId ≠ 0) c gport i with
    | none => wdrrClasses db c gport queue new rest hw
    | some (_, q) =>
      match db.scheduler c (schedulerOid c q.schId) with
      | none => (.failure, hw)
      | some s =>
        if s.schType ≠ schedulingTypeDwrr then wdrrClasses db c gport queue new rest hw
        else
          let cls := new.getD (if queue < i then queue else i)
          hwThen (queueSetCtcSched sc c gport i cls 0 hw) fun hw =>
          wdrrClasses db c gport queue (some cls) rest hw

/-- Bytes per second as kilobits per second. -/
def kbps (rate : BitVec 32) : BitVec 32 := rate * 8 / 1000

/-- The shape a profile gives a queue. -/
def Scheduler.queueShape (s : Scheduler) : Shape :=
  if s.maxRate ≠ 0 then ⟨true, kbps s.minRate, kbps s.maxRate, kbps s.minBurstRate, kbps s.maxBurstRate⟩
  else .off

def Scheduler.portShape (s : Scheduler) : Shape :=
  if s.maxRate ≠ 0 then ⟨true, 0, kbps s.maxRate, 0, kbps s.maxBurstRate⟩ else .off

/-- `_ctc_sai_scheduler_queue_map_scheduler`; without a profile the queue is disabled. -/
def queueMapScheduler (db : SchedDb sc) (c : Lchip) (gport : BitVec 32) (queue : BitVec 8)
    (prof : Option Scheduler) (hw : SchedHw) : Status × SchedHw :=
  match prof with
  | none =>
    hwThen (queueSetCtcSched sc c gport queue queue 1 hw) fun hw =>
    hw.setShape (.queue c gport queue) .off
  | some s =>
    hwThen (if s.schType = schedulingTypeStrict then
        hwThen (queueSetCtcSched sc c gport queue queue 1 hw) fun hw =>
        strictClasses sc c gport queue none (queueIndexes.filter (queue + 1 ≤ ·)) hw
      else
        hwThen (queueSetCtcSched sc c gport queue queue s.weight hw) fun hw =>
        wdrrClasses db c gport queue none queueIndexes hw) fun hw =>
    hw.setShape (.queue c gport queue) s.queueShape

/-! ## Creation and removal -/

/-- The `mem_malloc` calls of the module and of the object table. -/
structure SchedulerMem where
  profile : Bool
  profileNode : Bool

def SchedulerMem.ok : SchedulerMem := ⟨true, true⟩

/-- One user more; the counter has 16 bits. -/
def Scheduler.hold (s : Scheduler) : Scheduler := { s with refCnt := s.refCnt + 1 }

/-- One user less, unless there is none. -/
def Scheduler.release (s : Scheduler) : Scheduler :=
  if s.refCnt ≠ 0 then { s with refCnt := s.refCnt - 1 } else s

section Calls

variable (db : SchedDb sc)

/-- `ctc_sai_scheduler_create_scheduler_id` for a switch of chip `c`. -/
def createScheduler (mem : SchedulerMem) (c : Lchip) (attrs : List SchedulerAttr) :
    Status × Option Oid × SchedDb sc :=
  if !sc.known c then (.uninitialized, none, db)
  else if !mem.profile then (.noMemory, none, db)
  else
    match schedulerOf attrs with
    | .error status => (status, none, db)
    | .ok s =>
      match (db.ids c).alloc with
      | none => (.insufficientResources, none, db)
      | some (i, pool) =>
        let oid := schedulerOid c (BitVec.ofNat 32 i)
        let back := { db with ids := update db.ids c (pool.free i) }
        if (db.schedulers.lookup oid).isSome then (.itemAlreadyExists, none, back)
        else if !mem.profileNode then (.noMemory, none, back)
        else (.success, some oid, { db with
          ids := update db.ids c pool
          schedulers := db.schedulers.insert oid s })

/-- `ctc_sai_scheduler_remove_scheduler_id`. -/
def removeScheduler (oid : Oid) : Status × SchedDb sc :=
  if oid.type ≠ ObjectType.scheduler.bits then (.invalidObjectId, db)
  else
    match db.schedulers.lookup oid with
    | none => (.itemNotFound, db)
    | some s =>
      if s.refCnt ≠ 0 then (.objectInUse, db)
      else (.success, { db with
        schedulers := db.schedulers.erase oid
        ids := update db.ids oid.lchip ((db.ids oid.lchip).free oid.value.toNat) })

/-! ## The three sets -/

/-- The last step of a replacement: the old profile loses its user. -/
def SchedDb.releaseOld (c : Lchip) (old : Oid) : Status × SchedDb sc :=
  match db.scheduler c old with
  | none => (.itemNotFound, db)
  | some s => (.success, { db with schedulers := db.schedulers.insert old s.release })

/-- `ctc_sai_scheduler_port_set_scheduler`.  The record of the port is looked up in the
database of chip 0: `lchip` is not set yet. -/
def portSetScheduler (portId oid : Oid) : Status × SchedDb sc :=
  match (if portId.lchip = 0 then db.ports.lookup portId else none) with
  | none => (.failure, db)
  | some schedId =>
    if oid ≠ Oid.null then
      if !sc.known portId.lchip then (.uninitialized, db)
      else if portId.lchip ≠ oid.lchip then (.invalidParameter, db)
      else
        match db.scheduler portId.lchip oid with
        | none => (.itemNotFound, db)
        | some s =>
          match db.withHw (db.hw.setShape (.port portId.lchip portId.value) s.portShape) with
          | (.success, db) =>
            if schedId = oid.value then (.success, db)
            else
              let bound := { db with
                ports := db.ports.insert portId oid.value
                schedulers := db.schedulers.insert oid s.hold }
              if schedId = 0 then (.success, bound)
              else bound.releaseOld portId.lchip (schedulerOid portId.lchip schedId)
          | r => r
    else if schedId = 0 then (.success, db)
    else
      -- still with `lchip` 0
      match db.scheduler 0 (schedulerOid 0 schedId) with
      | none => (.itemNotFound, db)
      | some s =>
        match db.withHw (db.hw.setShape (.port 0 portId.value) .off) with
        | (.success, db) => (.success, { db with
            ports := db.ports.insert portId 0
            schedulers := db.schedulers.insert (schedulerOid 0 schedId) s.release })
        | r => r

/-- `sch_id` of a queue is written. -/
def SchedDb.setSchId (queueId : Oid) (q : Queue) (id : BitVec 32) : SchedDb sc :=
  { db with queues := db.queues.insert queueId { q with schId := id } }

/-- `ctc_sai_scheduler_queue_set_scheduler`.  The new number is stored before the mapping,
which looks at it; when the mapping fails, 0 is stored. -/
def queueSetScheduler (queueId oid : Oid) : Status × SchedDb sc :=
  let c := queueId.lchip
  let queue := queueId.value2.setWidth 8
  if queueId.subType = queueTypeMulticast then (.notSupported, db)
  else
    match db.queues.lookup queueId with
    | none => (.failure, db)
    | some q =>
      if oid ≠ Oid.null then
        if c ≠ oid.lchip then (.invalidParameter, db)
        else
          match db.scheduler c oid with
          | none => (.itemNotFound, db)
          | some s =>
            let update := q.schId ≠ oid.value
            let stored := if update then db.setSchId queueId q oid.value else db
            match stored.withHw (queueMapScheduler stored c queueId.value queue (some s) stored.hw) with
            | (.success, db) =>
              if update then
                let bound := { db with schedulers := db.schedulers.insert oid s.hold }
                if q.schId = 0 then (.success, bound)
                else bound.releaseOld c (schedulerOid c q.schId)
              else (.success, db)
            | (status, db) => (status, if update then db.setSchId queueId q 0 else db)
      else if q.schId = 0 then (.success, db)
      else
        match db.withHw (queueMapScheduler db c queueId.value queue none db.hw) with
        | (.success, db) =>
          match db.scheduler c (schedulerOid c q.schId) with
          | none => (.itemNotFound, db)
          | some s => (.success, { db with
              schedulers := db.schedulers.insert (schedulerOid c q.schId) s.release
              queues := db.queues.insert queueId { q with schId := 0 } })
        | r => r

/-- The low half of an object id as a number. -/
def Oid.low32 (oid : Oid) : BitVec 32 := oid.value2 ++ oid.subType ++ oid.lchip ++ oid.type

/-- The physical ports of a chip with each index of a queue, in the order of the loops. -/
def portQueues (sc : SchedulerChip) (c : Lchip) : List (BitVec 32 × BitVec 8) :=
  (List.range (sc.maxPhyPortNum c)).flatMap fun p => queueIndexes.map fun i => (sc.gport c p, i)

/-- `sched_id` of a group is written. -/
def SchedDb.setSchedId (groupId : Oid) (g : SchedGroup) (oid : Oid) : SchedDb sc :=
  { db with groups := db.groups.insert groupId { g with schedId := oid } }

/-- `ctc_sai_scheduler_group_set_scheduler`.  The queues below the group are attached once
more before the old profile is looked up, by a number that is the low half of its id. -/
def groupSetScheduler (foreign : ForeignNodes) (fuel : Nat) (groupId oid : Oid) :
    Option (Status × SchedDb sc) :=
  let c := groupId.lchip
  if !sc.known c then some (.uninitialized, db)
  else
    match db.groups.lookup groupId with
    | none => some (.failure, db)
    | some g =>
      if oid ≠ Oid.null then
        if c ≠ oid.lchip then some (.invalidParameter, db)
        else
          -- the number of ports and the global number of the chip are asked for
          match db.withHw (hwThen db.hw.call SchedHw.call) with
          | (.success, db) =>
            match db.scheduler c oid with
            | none => some (.itemNotFound, db)
            | some s =>
              let bound := if g.schedId = oid then db
                else { db.setSchedId groupId g oid with
                  schedulers := db.schedulers.insert oid s.hold }
              match updateQueues foreign (fun _ schedId => schedId = oid) fuel c
                  (portQueues sc c) bound with
              | none => none
              | some (.success, db) =>
                if g.schedId = oid ∨ g.schedId = Oid.null then some (.success, db)
                else some (db.releaseOld c (schedulerOid c g.schedId.low32))
              | some r => some r
          | r => some r
      else if g.schedId = Oid.null then some (.success, db)
      else
        match db.scheduler c g.schedId with
        | none => some (.itemNotFound, db)
        | some s => some (.success, { db.setSchedId groupId g Oid.null with
            schedulers := db.schedulers.insert g.schedId s.release })

/-- `ctc_sai_scheduler_group_set_attribute` of SAI_SCHEDULER_GROUP_ATTR_SCHEDULER_PROFILE_ID. -/
def setGroupScheduler (foreign : ForeignNodes) (fuel : Nat) (groupId oid : Oid) :
    Option (Status × SchedDb sc) :=
  if groupId.type ≠ ObjectType.schedulerGroup.bits then some (.invalidObjectId, db)
  else
    match db.groups.lookup groupId with
    | none => some (.invalidParameter, db)
    | some _ => groupSetScheduler db foreign fuel groupId oid

/-- `ctc_sai_queue_set_attribute` of SAI_QUEUE_ATTR_SCHEDULER_PROFILE_ID, with
`_ctc_sai_queue_set_attr`. -/
def setQueueScheduler (mem : RecordMem) (queueId oid : Oid) : Status × SchedDb sc :=
  if queueId.type ≠ ObjectType.queue.bits then (.invalidObjectId, db)
  else if !sc.known queueId.lchip then (.uninitialized, db)
  else
    match getQueueDb mem db.queues queueId with
    | .error status => (status, db)
    | .ok (_, queues) => queueSetScheduler { db with queues := queues } queueId oid

/-- `ctc_sai_port_set_port_attribute` of SAI_PORT_ATTR_QOS_SCHEDULER_PROFILE_ID, with
`_ctc_sai_port_set_attr`; the record of the port is made by `_ctc_sai_port_get_port_db`
unless there is a reason against it. -/
def setPortScheduler (mem : RecordMem) (refused : Option Status) (portId oid : Oid) :
    Status × SchedDb sc :=
  if !sc.known portId.lchip then (.uninitialized, db)
  else if portId.type ≠ ObjectType.port.bits then (.invalidObjectType, db)
  else
    match db.ports.lookup portId, refused with
    | none, some status => (status, db)
    | _, _ =>
      match getOrMake mem 0 db.ports portId with
      | .error status => (status, db)
      | .ok (_, ports) => portSetScheduler { db with ports := ports } portId oid

end Calls

/-! ## Changing a profile -/

def physicalPortOid (c : Lchip) (gport : BitVec 32) : Oid :=
  createObjectId .port (c.setWidth 8) 0 0 gport

/-- The switch of `_ctc_sai_scheduler_set_attr`: the profile with the attribute in it, unless
the attribute is there already.  The meter type is not kept. -/
def Scheduler.changed (s : Scheduler) : SchedulerAttr → Option Scheduler
  | .schedulingType t =>
    if s.schType.setWidth 32 = t then none else some { s with schType := t.setWidth 8 }
  | .schedulingWeight w => if s.weight = w then none else some { s with weight := w }
  | .meterType _ => none
  | .minBandwidthRate r =>
    if s.minRate.setWidth 64 = r then none else some { s with minRate := r.setWidth 32 }
  | .minBandwidthBurstRate r =>
    if s.minBurstRate.setWidth 64 = r then none else some { s with minBurstRate := r.setWidth 32 }
  | .maxBandwidthRate r =>
    if s.maxRate.setWidth 64 = r then none else some { s with maxRate := r.setWidth 32 }
  | .maxBandwidthBurstRate r =>
    if s.maxBurstRate.setWidth 64 = r then none else some { s with maxBurstRate := r.setWidth 32 }

/-- The attributes that count for the groups above a queue. -/
def SchedulerAttr.classes : SchedulerAttr → Bool
  | .schedulingType _ | .schedulingWeight _ => true
  | _ => false

section Change

variable (foreign : ForeignNodes) (fuel : Nat) (c : Lchip) (oid : Oid) (attr : SchedulerAttr)

/-- A port that has the profile is set to it once more. -/
def applyToPort (gport : BitVec 32) (db : SchedDb sc) : Status × SchedDb sc :=
  let port := physicalPortOid c gport
  match db.ports.lookup port with
  | none => (.success, db)
  | some n => if n = oid.value then portSetScheduler db port oid else (.success, db)

/-- A queue that has the profile is set to it once more, and attached once more when one of the
groups above it has the profile. -/
def applyToQueue (queueId : Oid) (q : Queue) (db : SchedDb sc) : Option (Status × SchedDb sc) :=
  match if q.schId = oid.value then queueSetScheduler db queueId oid else (.success, db) with
  | (.success, db) =>
    if !attr.classes then some (.success, db)
    else
      match db.queues.lookup queueId with
      | none => some (.failure, db)
      | some q =>
        if q.schGrp = Oid.null then some (.success, db)
        else queueUpdateSchedGroup db foreign (fun _ schedId => schedId = oid) fuel c queueId q
  | r => some r

/-- The loop over the queues of a port. -/
def applyToQueues (gport : BitVec 32) : List (BitVec 8) → SchedDb sc → Option (Status × SchedDb sc)
  | [], db => some (.success, db)
  | i :: rest, db =>
    match db.queueOf (fun q => q.schId ≠ 0) c gport i with
    | none => applyToQueues gport rest db
    | some (queueId, q) =>
      match applyToQueue foreign fuel c oid attr queueId q db with
      | none => none
      | some (.success, db) => applyToQueues gport rest db
      | some r => some r

def applyToPorts : List (BitVec 32) → SchedDb sc → Option (Status × SchedDb sc)
  | [], db => some (.success, db)
  | gport :: rest, db =>
    match applyToPort c oid gport db with
    | (.success, db) =>
      match applyToQueues foreign fuel c oid attr gport queueIndexes db with
      | none => none
      | some (.success, db) => applyToPorts rest db
      | some r => some r
    | r => some r

/-- `_ctc_sai_scheduler_set_attr`; the change stays when a call of the SDK fails. -/
def schedulerSetAttr (db : SchedDb sc) : Option (Status × SchedDb sc) :=
  match db.schedulers.lookup oid with
  | none => some (.itemNotFound, db)
  | some s =>
    match s.changed attr with
    | none => some (.success, db)
    | some s =>
      let db := { db with schedulers := db.schedulers.insert oid s }
      -- the number of ports and the global number of the chip are asked for
      match db.withHw (hwThen db.hw.call SchedHw.call) with
      | (.success, db) =>
        applyToPorts foreign fuel oid.lchip oid attr
          ((List.range (sc.maxPhyPortNum oid.lchip)).map (sc.gport oid.lchip)) db
      | r => some r

/-- `ctc_sai_scheduler_set_attribute`; the meter type has no function. -/
def setSchedulerAttribute (db : SchedDb sc) : Option (Status × SchedDb sc) :=
  if oid.type ≠ ObjectType.scheduler.bits then some (.invalidObjectId, db)
  else
    match attr with
    | .meterType _ => some (.invalidAttribute 0, db)
    | attr => schedulerSetAttr foreign fuel oid attr db

end Change

end CtcSai
