/-
# `SchedulerGroup` — ctc_sai_scheduler_group.c

Scheduler groups form a hierarchy above the queues of a port.  A group keeps a list of
its children and the id of its parent, a queue the id of its group, and attaching a
queue writes the scheduling registers of the queue and of the groups above it.

The answers of the SDK's calls come in a list that the state carries; behind its end
every call succeeds.
-/
import CtcSai.Queue
import CtcSai.Chip

namespace CtcSai

open KeyedTable IdPool

/-! ## Records -/

/-- What stays fixed while the scheduler modules run. -/
structure SchedulerChip extends QueueChip where
  chipType : Lchip → ChipType
  /-- CTC_MAP_LPORT_TO_GPORT with the global number of the chip. -/
  gport : Lchip → Nat → BitVec 32
  /-- The group of the SDK that a queue of a port is in. -/
  queueGroup : Lchip → BitVec 32 → BitVec 8 → BitVec 8
  /-- CTC_GLOBAL_CAPABILITY_MAX_PHY_PORT_NUM; ports are counted in 16 bits. -/
  maxPhyPortNum : Lchip → Nat
  maxPhyPortNum_lt : ∀ c, maxPhyPortNum c < 2 ^ 16

/-- Chip 0 with four ports, whose queues are in one group. -/
def SchedulerChip.plain : SchedulerChip where
  toQueueChip := .plain
  chipType _ := .duet2
  gport _ n := BitVec.ofNat 32 n
  queueGroup _ _ _ := 0
  maxPhyPortNum _ := 4
  maxPhyPortNum_lt _ := by decide

/-- SAI_SCHEDULING_TYPE_STRICT. -/
def schedulingTypeStrict : BitVec 8 := 0

/-- SAI_SCHEDULING_TYPE_DWRR. -/
def schedulingTypeDwrr : BitVec 8 := 2

/-- `ctc_sai_scheduler_db_t`. -/
structure Scheduler where
  schType : BitVec 8
  weight : BitVec 8
  minRate : BitVec 32
  minBurstRate : BitVec 32
  maxRate : BitVec 32
  maxBurstRate : BitVec 32
  refCnt : BitVec 16
deriving DecidableEq, Repr

/-- `ctc_sai_sched_group_db_t`; the list has `child_cnt` elements. -/
structure SchedGroup where
  childList : List Oid
  childType : BitVec 7
  parentId : Oid
  schedId : Oid
  maxChilds : BitVec 8
deriving DecidableEq, Repr

def SchedGroup.zero : SchedGroup := ⟨[], 0, Oid.null, Oid.null, 0⟩

/-- The object id of a scheduler profile. -/
def schedulerOid (c : Lchip) (id : BitVec 32) : Oid := createObjectId .scheduler (c.setWidth 8) 0 0 id

/-- The object id of a scheduler group. -/
def schedGroupOid (c : Lchip) (level : BitVec 8) (index : BitVec 16) (gport : BitVec 32) : Oid :=
  createObjectId .schedulerGroup (c.setWidth 8) level index gport

/-! ## The registers -/

/-- The registers of `ctcs_qos_set_sched`, by chip, port and queue; those of a group
are named by the group of the SDK and a class in it. -/
inductive SchedReg where
  | queueConfirmClass (c : Lchip) (gport : BitVec 32) (queue : BitVec 8)
  | queueExceedClass (c : Lchip) (gport : BitVec 32) (queue : BitVec 8)
  | queueExceedWeight (c : Lchip) (gport : BitVec 32) (queue : BitVec 8)
  | groupConfirmClass (c : Lchip) (gport : BitVec 32) (group class' : BitVec 8)
  | groupConfirmWeight (c : Lchip) (gport : BitVec 32) (group class' : BitVec 8)
deriving DecidableEq

/-- What `ctcs_qos_set_shape` shapes. -/
inductive ShapeReg where
  | port (c : Lchip) (gport : BitVec 32)
  | queue (c : Lchip) (gport : BitVec 32) (queue : BitVec 8)
deriving DecidableEq

/-- `ctc_qos_shape_t`, without what it shapes. -/
structure Shape where
  enable : Bool
  cir : BitVec 32
  pir : BitVec 32
  cbs : BitVec 32
  pbs : BitVec 32
deriving DecidableEq

def Shape.off : Shape := ⟨false, 0, 0, 0, 0⟩

/-- The registers, and what the next calls of the SDK return. -/
structure SchedHw where
  regs : SchedReg → BitVec 8
  shapes : ShapeReg → Option Shape
  answers : List CtcE

namespace SchedHw

/-- One call of the SDK: its status, and the answers that are left. -/
def call (hw : SchedHw) : Status × SchedHw :=
  match hw.answers with
  | [] => (.success, hw)
  | rc :: rest => (mappingErrorCtc rc, { hw with answers := rest })

/-- `ctcs_qos_set_sched`. -/
def write (hw : SchedHw) (reg : SchedReg) (v : BitVec 8) : Status × SchedHw :=
  match hw.call with
  | (.success, hw) => (.success, { hw with regs := Function.update hw.regs reg v })
  | r => r

/-- `ctcs_qos_set_shape`. -/
def setShape (hw : SchedHw) (reg : ShapeReg) (s : Shape) : Status × SchedHw :=
  match hw.call with
  | (.success, hw) => (.success, { hw with shapes := Function.update hw.shapes reg (some s) })
  | r => r

end SchedHw

/-- CTC_SAI_ERROR_RETURN: the first failure is returned. -/
def hwThen (r : Status × SchedHw) (f : SchedHw → Status × SchedHw) : Status × SchedHw :=
  match r with
  | (.success, hw) => f hw
  | r => r

/-- The objects of all chips and their registers. -/
structure SchedDb (sc : SchedulerChip) where
  schedulers : Table Oid Scheduler
  groups : Table Oid SchedGroup
  queues : Table Oid Queue
  /-- `sched_id` of `ctc_sai_port_db_t`. -/
  ports : Table Oid (BitVec 32)
  ids : Lchip → Pool sc.common
  hw : SchedHw

/-- The attributes of a scheduler group. -/
inductive SchedGroupAttr where
  | level (n : BitVec 8)
  | portId (oid : Oid)
  | parentNode (oid : Oid)
  | maxChilds (n : BitVec 8)
  | schedulerProfileId (oid : Oid)
deriving DecidableEq, Repr

namespace SchedGroupAttr

def level? : SchedGroupAttr → Option (BitVec 8)
  | level n => some n
  | _ => none

def portId? : SchedGroupAttr → Option Oid
  | portId oid => some oid
  | _ => none

def parentNode? : SchedGroupAttr → Option Oid
  | parentNode oid => some oid
  | _ => none

def maxChilds? : SchedGroupAttr → Option (BitVec 8)
  | maxChilds n => some n
  | _ => none

def schedulerProfileId? : SchedGroupAttr → Option Oid
  | schedulerProfileId oid => some oid
  | _ => none

end SchedGroupAttr

/-- CTC_SAI_SCHED_LEVEL_CHILDS. -/
def schedLevelChilds (level : BitVec 8) : Nat := if level = 0 then 4 else 8

/-- CTC_SAI_SCHED_LEVEL_GROUPS. -/
def schedLevelGroups (level : BitVec 8) : Nat :=
  if level = 0 then 1 else if level = 1 then 4 else 8

/-- CTC_SAI_SCHED_CHAN_NODE_DEFAULT. -/
def schedChanNodeDefault : BitVec 8 := 2

variable {sc : SchedulerChip}

section Groups

variable (db : SchedDb sc)

/-- `ctc_sai_db_get_object_property` of a profile in the database of a chip. -/
def SchedDb.scheduler (c : Lchip) (oid : Oid) : Option Scheduler :=
  if oid.lchip = c then db.schedulers.lookup oid else none

/-- `ctc_sai_db_get_object_property` of a group in the database of a chip. -/
def SchedDb.group (c : Lchip) (oid : Oid) : Option SchedGroup :=
  if oid.lchip = c then db.groups.lookup oid else none

/-! ## Children -/

/-- `_ctc_sai_scheduler_group_add_or_del_child`, adding. -/
def addChild (c : Lchip) (parentId childId : Oid) : Status × SchedDb sc :=
  if parentId.type = ObjectType.schedulerGroup.bits then
    if childId.type ≠ ObjectType.queue.bits ∧ childId.subType ≤ parentId.subType then
      (.invalidParameter, db)
    else
      match db.group c parentId with
      | none => (.itemNotFound, db)
      | some g =>
        if childId ∈ g.childList then (.success, db)
        else if g.maxChilds.toNat ≤ g.childList.length then (.tableFull, db)
        else if g.childList ≠ [] ∧ g.childType ≠ childId.type then (.invalidParameter, db)
        else (.success, { db with
          groups := db.groups.insert parentId
            { g with childList := g.childList ++ [childId], childType := childId.type } })
  else if parentId.type = ObjectType.port.bits then (.success, db)
  else (.invalidObjectType, db)

/-- The last child takes the place of the one that goes. -/
def delFromList (l : List Oid) (child : Oid) : List Oid :=
  match l.getLast? with
  | none => l
  | some last =>
    if child ∈ l then (l.set (l.findIdx (· = child)) last).dropLast else l

/-- `_ctc_sai_scheduler_group_add_or_del_child`, deleting. -/
def delChild (c : Lchip) (parentId childId : Oid) : Status × SchedDb sc :=
  if parentId.type = ObjectType.schedulerGroup.bits then
    match db.group c parentId with
    | none => (.success, db)
    | some g => (.success, { db with
        groups := db.groups.insert parentId { g with childList := delFromList g.childList childId } })
  else if parentId.type = ObjectType.port.bits then (.success, db)
  else (.invalidObjectType, db)

/-! ## Attaching a queue -/

/-- What is read at an id that is not a group's: the record of a port is taken for
one, `none` is no record.  The fields are `sched_id` and `parent_id`. -/
abbrev ForeignNodes := Oid → Option (Oid × Oid)

/-- The weight a profile gives: it counts for DWRR only. -/
def Scheduler.groupWeight (s : Scheduler) (isAdd : Bool) : BitVec 8 :=
  if s.schType = schedulingTypeDwrr then if isAdd then s.weight else 1 else 1

/-- The profile of a group.  What stands above a group may be a port. -/
def SchedDb.schedIdOf (foreign : ForeignNodes) (c : Lchip) (oid : Oid) : Option Oid :=
  match db.group c oid with
  | some g => some g.schedId
  | none => (foreign oid).map Prod.fst

/-- `_ctc_sai_sched_group_queue_map_ctc_port_level`. -/
def mapCtcPortLevel (foreign : ForeignNodes) (c : Lchip) (gport : BitVec 32)
    (queueIdx classId : BitVec 8) (groupId : Oid) (isAdd : Bool) (hw : SchedHw) :
    Status × SchedHw :=
  match db.schedIdOf foreign c groupId with
  | none => (.itemNotFound, hw)
  | some schedId =>
    let group := sc.queueGroup c gport queueIdx
    hwThen (hw.write (.groupConfirmClass c gport group classId)
      (if isAdd then groupId.value2.setWidth 8 else schedChanNodeDefault)) fun hw =>
    if schedId = Oid.null then (.success, hw)
    else
      match db.scheduler c schedId with
      | none => (.itemNotFound, hw)
      | some s => hw.write (.groupConfirmWeight c gport group classId) (s.groupWeight isAdd)

/-- `_ctc_sai_sched_group_queue_map_ctc_group_level`. -/
def mapCtcGroupLevel (foreign : ForeignNodes) (c : Lchip) (gport : BitVec 32)
    (queueIdx : BitVec 8) (groupId : Oid) (isAdd : Bool) (hw : SchedHw) : Status × SchedHw :=
  match db.group c groupId with
  | none => (.itemNotFound, hw)
  | some g =>
    let index := groupId.value2.setWidth 8
    hwThen (hw.write (.queueExceedClass c gport queueIdx) (if isAdd then index else queueIdx))
      fun hw =>
    hwThen (if g.schedId = Oid.null then (.success, hw)
      else
        match db.scheduler c g.schedId with
        | none => (.itemNotFound, hw)
        | some s => hw.write (.queueExceedWeight c gport queueIdx) (s.groupWeight isAdd))
      fun hw =>
    mapCtcPortLevel db foreign c gport queueIdx index g.parentId isAdd hw

/-- `_ctc_sai_sched_group_apply_queue_to_group`. -/
def applyQueueToGroup (foreign : ForeignNodes) (queueId groupId : Oid) (isAdd : Bool)
    (hw : SchedHw) : Status × SchedHw :=
  let c := queueId.lchip
  let queueIdx := queueId.value2.setWidth 8
  if groupId.subType = 1 then
    mapCtcPortLevel db foreign c queueId.value queueIdx queueIdx groupId isAdd hw
  else if groupId.subType = 2 then
    mapCtcGroupLevel db foreign c queueId.value queueIdx groupId isAdd hw
  else (.success, hw)

def SchedDb.withHw (r : Status × SchedHw) : Status × SchedDb sc := (r.1, { db with hw := r.2 })

/-- `sch_grp` of a queue is written. -/
def SchedDb.setSchGrp (queueId : Oid) (q : Queue) (oid : Oid) : SchedDb sc :=
  { db with queues := db.queues.insert queueId { q with schGrp := oid } }

/-- `ctc_sai_scheduler_group_queue_set_scheduler`. -/
def groupQueueSetScheduler (foreign : ForeignNodes) (queueId oid : Oid) : Status × SchedDb sc :=
  let c := queueId.lchip
  if queueId.subType = queueTypeMulticast then (.invalidParameter, db)
  else
    match db.queues.lookup queueId with
    | none => (.failure, db)
    | some q =>
      if oid ≠ Oid.null then
        if c ≠ oid.lchip then (.invalidParameter, db)
        else if queueId.value ≠ oid.value then (.invalidParameter, db)
        else if oid.type = ObjectType.schedulerGroup.bits then
          match db.group c oid with
          | none => (.itemNotFound, db)
          | some _ =>
            match db.withHw (applyQueueToGroup db foreign queueId oid true db.hw) with
            | (.success, db) =>
              match addChild db c oid queueId with
              | (.success, db) => (.success, db.setSchGrp queueId q oid)
              | r => r
            | r => r
        else if oid.type = ObjectType.port.bits then (.success, db.setSchGrp queueId q oid)
        else (.invalidParameter, db)
      else if q.schGrp = Oid.null then (.success, db)
      else if q.schGrp.type = ObjectType.schedulerGroup.bits then
        match db.group c q.schGrp with
        | none => (.itemNotFound, db)
        | some _ =>
          match db.withHw (applyQueueToGroup db foreign queueId q.schGrp false db.hw) with
          | (.success, db) =>
            match delChild db c q.schGrp queueId with
            | (.success, db) => (.success, db.setSchGrp queueId q Oid.null)
            | r => r
          | r => r
      else (.success, db.setSchGrp queueId q Oid.null)

/-! ## Walks to the top -/

/-- `_ctc_sai_sched_group_update_sched_profile`, the fields it reads. -/
def SchedDb.node (foreign : ForeignNodes) (c : Lchip) (oid : Oid) : Option (Oid × Oid) :=
  if oid.type = ObjectType.schedulerGroup.bits then
    (db.group c oid).map fun g => (g.schedId, g.parentId)
  else foreign oid

/-- The walk from a node to its parents until `hit` finds what it looks for; without
fuel it has not come to an end. -/
def walkParents (foreign : ForeignNodes) (c : Lchip) (hit : Oid → Oid → Bool) :
    Nat → Oid → Option Bool
  | 0, _ => none
  | fuel + 1, node =>
    match db.node foreign c node with
    | none => some false
    | some (schedId, parentId) =>
      if hit node schedId then some true else walkParents foreign c hit fuel parentId

/-- `_ctc_sai_queue_update_sched_group_foreach` and
`_ctc_sai_sched_group_queue_update_sched_group_foreach`: a queue that is found below what
is looked for is attached once more to its group. -/
def queueUpdateSchedGroup (foreign : ForeignNodes) (hit : Oid → Oid → Bool) (fuel : Nat)
    (c : Lchip) (queueId : Oid) (q : Queue) : Option (Status × SchedDb sc) :=
  (walkParents db foreign c hit fuel q.schGrp).map fun found =>
    if found then groupQueueSetScheduler db foreign queueId q.schGrp else (.success, db)

/-- The queue of a port with an index: that of type ALL, or else that of type UNICAST,
when the record has what `sel` asks for. -/
def SchedDb.queueOf (sel : Queue → Bool) (c : Lchip) (gport : BitVec 32) (queueIdx : BitVec 8) :
    Option (Oid × Queue) :=
  let all := queueOid c (queueTypeAll.setWidth 8) (queueIdx.setWidth 16) gport
  let unicast := queueOid c (queueTypeUnicast.setWidth 8) (queueIdx.setWidth 16) gport
  match (db.queues.lookup all).filter sel with
  | some q => some (all, q)
  | none => ((db.queues.lookup unicast).filter sel).map fun q => (unicast, q)

/-- The indexes of the queues of a port. -/
def queueIndexes : List (BitVec 8) := (List.range basicQNum).map (BitVec.ofNat 8)

end Groups

/-- The loop over queues that attaches them once more. -/
def updateQueues (foreign : ForeignNodes) (hit : Oid → Oid → Bool) (fuel : Nat) (c : Lchip) :
    List (BitVec 32 × BitVec 8) → SchedDb sc → Option (Status × SchedDb sc)
  | [], db => some (.success, db)
  | (gport, queueIdx) :: rest, db =>
    match db.queueOf (fun q => q.schGrp ≠ Oid.null) c gport queueIdx with
    | none => updateQueues foreign hit fuel c rest db
    | some (queueId, q) =>
      match queueUpdateSchedGroup db foreign hit fuel c queueId q with
      | none => none
      | some (.success, db) => updateQueues foreign hit fuel c rest db
      | some r => some r

/-! ## The calls of the API -/

section Api

variable (db : SchedDb sc)

/-- `_ctc_sai_scheduler_group_get_free_group_index`. -/
def getFreeGroupIndex (c : Lchip) (gport : BitVec 32) (level : BitVec 8) : Option Nat :=
  (List.range (schedLevelGroups level)).find? fun i =>
    (db.groups.lookup (schedGroupOid c level (BitVec.ofNat 16 i) gport)).isNone

/-- The parent a group is created under, or why there is none.  On level 0 that is
what was found last, the port. -/
def parentGiven (level : BitVec 8) (port : Oid) (attrs : List SchedGroupAttr) :
    Except Status Oid :=
  if level = 0 then .ok port
  else
    match findAttribInList SchedGroupAttr.parentNode? attrs with
    | none => .error .itemNotFound
    | some parent => if parent.value ≠ port.value then .error .invalidParameter else .ok parent

/-- `ctc_sai_scheduler_group_create_group_id` for a switch of chip `c`.  The record stays
when its parent does not take it. -/
def createSchedGroup (mem : RecordMem) (c : Lchip) (attrs : List SchedGroupAttr) :
    Status × Option Oid × SchedDb sc :=
  if !sc.known c then (.uninitialized, none, db)
  else
    match findAttribInList SchedGroupAttr.level? attrs with
    | none => (.itemNotFound, none, db)
    | some level =>
      if 3 ≤ level.toNat then (.invalidParameter, none, db)
      else
        match findAttribInList SchedGroupAttr.portId? attrs with
        | none => (.itemNotFound, none, db)
        | some port =>
          if port.type ≠ ObjectType.port.bits then (.invalidParameter, none, db)
          else
            match parentGiven level port attrs with
            | .error status => (status, none, db)
            | .ok parent =>
              match findAttribInList SchedGroupAttr.maxChilds? attrs with
              | none => (.itemNotFound, none, db)
              | some maxChilds =>
                if schedLevelChilds level < maxChilds.toNat then (.invalidParameter, none, db)
                else
                  let schedId :=
                    (findAttribInList SchedGroupAttr.schedulerProfileId? attrs).getD Oid.null
                  match getFreeGroupIndex db c port.value level with
                  | none => (.tableFull, none, db)
                  | some i =>
                    let oid := schedGroupOid c level (BitVec.ofNat 16 i) port.value
                    match getOrMake mem SchedGroup.zero db.groups oid with
                    | .error status => (status, none, db)
                    | .ok (_, groups) =>
                      match addChild { db with groups := groups } c parent oid with
                      | (.success, db) =>
                        let g := (db.groups.lookup oid).getD .zero
                        -- the profile is not asked for, and does not count the group
                        (.success, some oid, { db with
                          groups := db.groups.insert oid
                            { g with maxChilds := maxChilds, parentId := parent, schedId := schedId } })
                      | (status, db) => (status, none, db)

/-- `ctc_sai_scheduler_group_remove_group_id`.  The profile of the group keeps its count. -/
def removeSchedGroup (oid : Oid) : Status × SchedDb sc :=
  if oid.type ≠ ObjectType.schedulerGroup.bits then (.invalidObjectId, db)
  else
    match db.groups.lookup oid with
    | none => (.itemNotFound, db)
    | some g =>
      match delChild db oid.lchip g.parentId oid with
      | (.success, db) => (.success, { db with groups := db.groups.erase oid })
      | r => r

/-- `ctc_sai_scheduler_group_set_attribute` of SAI_SCHEDULER_GROUP_ATTR_PARENT_NODE; it has
not come to an end when the fuel is too little. -/
def setGroupParent (foreign : ForeignNodes) (fuel : Nat) (oid parent : Oid) :
    Option (Status × SchedDb sc) :=
  if oid.type ≠ ObjectType.schedulerGroup.bits then some (.invalidObjectId, db)
  else
    match db.groups.lookup oid with
    | none => some (.invalidParameter, db)
    | some g =>
      let c := oid.lchip
      let r := if parent = Oid.null then delChild db c g.parentId oid else addChild db c parent oid
      match r with
      | (.success, db) =>
        let g := (db.groups.lookup oid).getD g
        updateQueues foreign (fun node _ => node = oid) fuel c
          (queueIndexes.map fun i => (oid.value, i))
          { db with groups := db.groups.insert oid { g with parentId := parent } }
      | r => some r

/-- `ctc_sai_queue_set_attribute` of SAI_QUEUE_ATTR_PARENT_SCHEDULER_NODE, with
`_ctc_sai_queue_set_attr`. -/
def setQueueParent (mem : RecordMem) (foreign : ForeignNodes) (queueId oid : Oid) :
    Status × SchedDb sc :=
  if queueId.type ≠ ObjectType.queue.bits then (.invalidObjectId, db)
  else if !sc.known queueId.lchip then (.uninitialized, db)
  else
    match getQueueDb mem db.queues queueId with
    | .error status => (status, db)
    | .ok (_, queues) => groupQueueSetScheduler { db with queues := queues } foreign queueId oid

end Api

end CtcSai
