/-
# `BufferProfiles` — ctc_sai_buffer.c

A buffer profile is used by queues, which keep its number, and by ingress priority
groups, which keep its object id.  Both count themselves in the profile when they
are set to it, and take that back when they are set to another one or to none.
-/
import CtcSai.Queue

namespace CtcSai

open Function IdPool KeyedTable

/-! ## Records and registers -/

/-- SAI_BUFFER_PROFILE_THRESHOLD_MODE_STATIC, as a record keeps it. -/
def thresholdModeStatic : BitVec 8 := 0

/-- SAI_BUFFER_PROFILE_THRESHOLD_MODE_DYNAMIC. -/
def thresholdModeDynamic : BitVec 8 := 1

/-- `ctc_sai_buffer_profile_db_t`; `dynamicTh` is signed. -/
structure BufferProfile where
  mode : BitVec 8
  dynamicTh : BitVec 8
  staticTh : BitVec 32
  xonTh : BitVec 32
  xoffTh : BitVec 32
  refCnt : BitVec 16
deriving DecidableEq, Repr

/-- What a queue drops by, `ctc_qos_queue_drop_t` of mode CTC_QUEUE_DROP_WTD: the
thresholds of red, yellow, green and critical packets. -/
structure WtdDrop where
  isDynamic : Bool
  maxTh : List (BitVec 32)
  dropFactor : List Int
deriving DecidableEq

/-- `ctc_qos_resrc_t` of a flow control, the fields this module writes. -/
structure FlowCtl where
  xonThrd : BitVec 32
  xoffThrd : BitVec 32
deriving DecidableEq

/-- CTC_SAI_QOS_BYTES_PER_CELL. -/
def bytesPerCell : BitVec 32 := 288

/-- CTC_SAI_QOS_DROP_FACTOR_SHIFT. -/
def dropFactorShift : Int := 7

def BufferProfile.drop (prof : BufferProfile) : WtdDrop :=
  if prof.mode = thresholdModeStatic then
    let th := prof.staticTh / bytesPerCell
    ⟨false, [th, th, th, 0x44], [0, 0, 0, 0]⟩
  else ⟨true, [0, 0, 0, 0], List.replicate 4 (prof.dynamicTh.toInt + dropFactorShift)⟩

/-- The drop scheme of a queue that has no profile any more. -/
def WtdDrop.cleared : WtdDrop := ⟨true, [0, 0, 0, 0], [0, 0, 0, 0]⟩

def BufferProfile.flowCtl (prof : BufferProfile) : FlowCtl :=
  ⟨prof.xonTh / bytesPerCell, prof.xoffTh / bytesPerCell⟩

/-- The flow control of a priority group that has no profile any more. -/
def FlowCtl.cleared : FlowCtl := ⟨256, 224⟩

/-- The object id of a buffer profile. -/
def bufferProfileOid (c : Lchip) (id : BitVec 32) : Oid :=
  createObjectId .bufferProfile (c.setWidth 8) 0 0 id

/-- The object id of an ingress priority group. -/
def ingressPgOid (c : Lchip) (index : BitVec 8) (gport : BitVec 32) : Oid :=
  createObjectId .ingressPriorityGroup (c.setWidth 8) index 0 gport

/-- The objects of all chips, their ids and their registers.  The record of a
priority group is the id of its profile. -/
structure BufferDb (qc : QueueChip) where
  profiles : Table Oid BufferProfile
  pgs : Table Oid Oid
  queues : Table Oid Queue
  ids : Lchip → Pool qc.common
  /-- `ctcs_qos_set_drop_scheme`, by port and queue. -/
  drop : Lchip → BitVec 32 × BitVec 16 → Option WtdDrop
  /-- `ctcs_qos_set_resrc`, by port and priority class. -/
  flowCtl : Lchip → BitVec 32 × BitVec 3 → Option FlowCtl

/-- The `mem_malloc` calls of the module and of the object table. -/
structure BufferMem where
  profile : Bool
  profileNode : Bool
  /-- The record of a queue or of a priority group. -/
  user : RecordMem

/-- What the SDK and the memory answer during one API call. -/
structure BufferSdk where
  setDropScheme : CtcE
  getResrc : CtcE
  setResrc : CtcE
  mem : BufferMem

/-- Every call of the SDK succeeds. -/
def BufferSdk.Succeeds (sdk : BufferSdk) : Prop :=
  sdk.setDropScheme = .none ∧ sdk.getResrc = .none ∧ sdk.setResrc = .none

def BufferSdk.ok : BufferSdk := ⟨.none, .none, .none, ⟨true, true, .ok⟩⟩

/-! ## Attributes -/

/-- The attributes of a buffer profile. -/
inductive BufferAttr where
  | poolId (oid : Oid)
  | reservedBufferSize (n : BitVec 32)
  | thresholdMode (m : BitVec 32)
  | sharedDynamicTh (th : BitVec 8)
  | sharedStaticTh (th : BitVec 32)
  | xoffTh (th : BitVec 32)
  | xonTh (th : BitVec 32)
deriving DecidableEq, Repr

namespace BufferAttr

def poolId? : BufferAttr → Option Oid
  | poolId oid => some oid
  | _ => none

def reservedBufferSize? : BufferAttr → Option (BitVec 32)
  | reservedBufferSize n => some n
  | _ => none

def thresholdMode? : BufferAttr → Option (BitVec 32)
  | thresholdMode m => some m
  | _ => none

def sharedDynamicTh? : BufferAttr → Option (BitVec 8)
  | sharedDynamicTh th => some th
  | _ => none

def sharedStaticTh? : BufferAttr → Option (BitVec 32)
  | sharedStaticTh th => some th
  | _ => none

def xoffTh? : BufferAttr → Option (BitVec 32)
  | xoffTh th => some th
  | _ => none

def xonTh? : BufferAttr → Option (BitVec 32)
  | xonTh th => some th
  | _ => none

end BufferAttr

/-- The attributes of an ingress priority group. -/
inductive PgAttr where
  | port (oid : Oid)
  | index (i : BitVec 8)
  | bufferProfile (oid : Oid)
deriving DecidableEq, Repr

namespace PgAttr

def port? : PgAttr → Option Oid
  | port oid => some oid
  | _ => none

def index? : PgAttr → Option (BitVec 8)
  | index i => some i
  | _ => none

def bufferProfile? : PgAttr → Option Oid
  | bufferProfile oid => some oid
  | _ => none

end PgAttr

/-! ## Creation and removal of profiles -/

/-- The index of the attribute that `sel` reads. -/
def bufferAttrIndex {β : Type} (sel : BufferAttr → Option β) (attrs : List BufferAttr) : Nat :=
  attrs.findIdx fun a => (sel a).isSome

/-- The record that `ctc_sai_buffer_create_profile_id` fills, or why it does not. -/
def bufferProfileOf (attrs : List BufferAttr) : Except Status BufferProfile :=
  if (findAttribInList BufferAttr.poolId? attrs).any (· ≠ Oid.null) then .error .notSupported
  else if (findAttribInList BufferAttr.reservedBufferSize? attrs).any (· ≠ 0) then
    .error .notSupported
  else
    match findAttribInList BufferAttr.thresholdMode? attrs with
    | none => .error .itemNotFound
    | some m =>
      let mode := m.setWidth 8
      let xoffTh := (findAttribInList BufferAttr.xoffTh? attrs).getD 0
      let xonTh := (findAttribInList BufferAttr.xonTh? attrs).getD 0
      match findAttribInList BufferAttr.sharedDynamicTh? attrs,
        findAttribInList BufferAttr.sharedStaticTh? attrs with
      | some th, static =>
        if mode ≠ thresholdModeDynamic then
          .error (.invalidAttribute (bufferAttrIndex BufferAttr.sharedDynamicTh? attrs))
        else if th.toInt < -7 ∨ 3 < th.toInt then .error .notSupported
        -- the mode is set already
        else if static.isSome then
          .error (.invalidAttribute (bufferAttrIndex BufferAttr.sharedStaticTh? attrs))
        else .ok ⟨mode, th, 0, xonTh, xoffTh, 0⟩
      | none, some th =>
        if mode ≠ thresholdModeStatic then
          .error (.invalidAttribute (bufferAttrIndex BufferAttr.sharedStaticTh? attrs))
        else .ok ⟨mode, 0, th, xonTh, xoffTh, 0⟩
      -- the index is still that of the mode
      | none, none => .error (.invalidAttribute (bufferAttrIndex BufferAttr.thresholdMode? attrs))

section Calls

variable {qc : QueueChip} (sdk : BufferSdk) (db : BufferDb qc)

/-- `ctc_sai_db_get_object_property` of a profile in the database of a chip. -/
def BufferDb.profile (c : Lchip) (oid : Oid) : Option BufferProfile :=
  if oid.lchip = c then db.profiles.lookup oid else none

/-- `ctc_sai_buffer_create_profile_id` for a switch of chip `c`. -/
def createBufferProfile (c : Lchip) (attrs : List BufferAttr) :
    Status × Option Oid × BufferDb qc :=
  if !qc.known c then (.uninitialized, none, db)
  else
    match bufferProfileOf attrs with
    | .error status => (status, none, db)
    | .ok prof =>
      if !sdk.mem.profile then (.noMemory, none, db)
      else
        match (db.ids c).alloc with
        | none => (.insufficientResources, none, db)
        | some (i, pool) =>
          let oid := bufferProfileOid c (BitVec.ofNat 32 i)
          let back := { db with ids := update db.ids c (pool.free i) }
          if (db.profiles.lookup oid).isSome then (.itemAlreadyExists, none, back)
          else if !sdk.mem.profileNode then (.noMemory, none, back)
          else (.success, some oid, { db with
            ids := update db.ids c pool
            profiles := db.profiles.insert oid prof })

/-- `ctc_sai_buffer_remove_profile_id`. -/
def removeBufferProfile (oid : Oid) : Status × BufferDb qc :=
  if oid.type ≠ ObjectType.bufferProfile.bits then (.invalidObjectId, db)
  else
    match db.profiles.lookup oid with
    | none => (.itemNotFound, db)
    | some prof =>
      if prof.refCnt ≠ 0 then (.objectInUse, db)
      else (.success, { db with
        profiles := db.profiles.erase oid
        ids := update db.ids oid.lchip ((db.ids oid.lchip).free oid.value.toNat) })

/-! ## Users -/

/-- One user less, unless there is none. -/
def BufferProfile.release (prof : BufferProfile) : BufferProfile :=
  if prof.refCnt ≠ 0 then { prof with refCnt := prof.refCnt - 1 } else prof

/-- One user more; the counter has 16 bits. -/
def BufferProfile.hold (prof : BufferProfile) : BufferProfile :=
  { prof with refCnt := prof.refCnt + 1 }

/-- The last step of a replacement: the old profile loses its user. -/
def BufferDb.releaseOld (c : Lchip) (old : Oid) : Status × BufferDb qc :=
  match db.profile c old with
  | none => (.itemNotFound, db)
  | some prof => (.success, { db with profiles := db.profiles.insert old prof.release })

/-- The number the SDK knows a queue by. -/
def queueIdx (queueId : Oid) : BitVec 16 :=
  let i : BitVec 8 := if queueId.subType = queueTypeMulticast then (queueId.value2 + 8).setWidth 8
    else queueId.value2.setWidth 8
  i.setWidth 16

/-- A write of the drop scheme of a queue. -/
def BufferDb.setDrop (queueId : Oid) (d : WtdDrop) : BufferDb qc :=
  { db with
    drop := update db.drop queueId.lchip
      (update (db.drop queueId.lchip) (queueId.value, queueIdx queueId) (some d)) }

/-- `ctc_sai_buffer_queue_set_profile`. -/
def bufferQueueSetProfile (queueId oid : Oid) : Status × BufferDb qc :=
  let c := queueId.lchip
  match db.queues.lookup queueId with
  | none => (.failure, db)
  | some q =>
    if oid ≠ Oid.null then
      if c ≠ oid.lchip then (.invalidParameter, db)
      else
        match db.profile c oid with
        | none => (.itemNotFound, db)
        | some prof =>
          match mappingErrorCtc sdk.setDropScheme with
          | .success =>
            let set := db.setDrop queueId prof.drop
            if q.bufId = oid.value then (.success, set)
            else
              let bound := { set with
                profiles := db.profiles.insert oid prof.hold
                queues := db.queues.insert queueId { q with bufId := oid.value } }
              if q.bufId = 0 then (.success, bound)
              else bound.releaseOld c (bufferProfileOid c q.bufId)
          | status => (status, db)
    else if q.bufId = 0 then (.success, db)
    else
      match db.profile c (bufferProfileOid c q.bufId) with
      | none => (.itemNotFound, db)
      | some prof =>
        match mappingErrorCtc sdk.setDropScheme with
        | .success => (.success, { db.setDrop queueId .cleared with
            profiles := db.profiles.insert (bufferProfileOid c q.bufId) prof.release
            queues := db.queues.insert queueId { q with bufId := 0 } })
        | status => (status, db)

/-- A write of the flow control of a priority group. -/
def BufferDb.setFlowCtl (pgId : Oid) (f : FlowCtl) : BufferDb qc :=
  { db with
    flowCtl := update db.flowCtl pgId.lchip
      (update (db.flowCtl pgId.lchip) (pgId.value, pgId.subType) (some f)) }

/-- The two calls of the SDK for a flow control. -/
def BufferSdk.resrc : Status :=
  match mappingErrorCtc sdk.getResrc with
  | .success => mappingErrorCtc sdk.setResrc
  | status => status

/-- `ctc_sai_buffer_ingress_pg_set_profile`. -/
def bufferIngressPgSetProfile (pgId oid : Oid) : Status × BufferDb qc :=
  let c := pgId.lchip
  match db.pgs.lookup pgId with
  | none => (.failure, db)
  | some bufProfId =>
    if oid ≠ Oid.null then
      if c ≠ oid.lchip then (.invalidParameter, db)
      else
        match db.profile c oid with
        | none => (.itemNotFound, db)
        | some prof =>
          match sdk.resrc with
          | .success =>
            let set := db.setFlowCtl pgId prof.flowCtl
            if bufProfId = oid then (.success, set)
            else
              let bound := { set with
                profiles := db.profiles.insert oid prof.hold
                pgs := db.pgs.insert pgId oid }
              if bufProfId = Oid.null then (.success, bound)
              else bound.releaseOld c bufProfId
          | status => (status, db)
    else if bufProfId = Oid.null then (.success, db)
    else
      match db.profile c bufProfId with
      | none => (.itemNotFound, db)
      | some prof =>
        match sdk.resrc with
        | .success => (.success, { db.setFlowCtl pgId .cleared with
            -- the count is not looked at first
            profiles := db.profiles.insert bufProfId { prof with refCnt := prof.refCnt - 1 }
            pgs := db.pgs.insert pgId Oid.null })
        | status => (status, db)

/-- `ctc_sai_queue_set_attribute` of SAI_QUEUE_ATTR_BUFFER_PROFILE_ID, with
`_ctc_sai_queue_set_attr`. -/
def queueSetBufferProfile (queueId oid : Oid) : Status × BufferDb qc :=
  if queueId.type ≠ ObjectType.queue.bits then (.invalidObjectId, db)
  else if !qc.known queueId.lchip then (.uninitialized, db)
  else
    match getQueueDb sdk.mem.user db.queues queueId with
    | .error status => (status, db)
    | .ok (_, queues) => bufferQueueSetProfile sdk { db with queues := queues } queueId oid

/-- `ctc_sai_queue_remove_queue_id`, what it does for the buffer profile: whether
that was given back is not asked. -/
def removeQueue (queueId : Oid) : Status × BufferDb qc :=
  if queueId.type ≠ ObjectType.queue.bits then (.invalidObjectId, db)
  else
    match db.queues.lookup queueId with
    | none => (.success, db)
    | some q =>
      let db₁ := if q.bufId = 0 then db else (queueSetBufferProfile sdk db queueId Oid.null).2
      (.success, { db₁ with queues := db₁.queues.erase queueId })

/-- `_ctc_sai_ingress_pg_get_db`. -/
def getPgDb (mem : RecordMem) (pgs : Table Oid Oid) (pgId : Oid) :
    Except Status (Oid × Table Oid Oid) :=
  if pgId.type ≠ ObjectType.ingressPriorityGroup.bits then .error .invalidObjectType
  else getOrMake mem Oid.null pgs pgId

/-- `ctc_sai_ingress_pg_create_group_id` for a switch of chip `c`. -/
def createIngressPg (c : Lchip) (attrs : List PgAttr) : Status × Option Oid × BufferDb qc :=
  if !qc.known c then (.uninitialized, none, db)
  else
    match findAttribInList PgAttr.port? attrs with
    | none => (.itemNotFound, none, db)
    | some port =>
      if port.lchip ≠ c ∨ port.type ≠ ObjectType.port.bits then (.invalidObjectId, none, db)
      else
        match findAttribInList PgAttr.index? attrs with
        | none => (.itemNotFound, none, db)
        | some index =>
          if 8 ≤ index.toNat then (.invalidParameter, none, db)
          else
            let pgId := ingressPgOid c index port.value
            match getPgDb sdk.mem.user db.pgs pgId with
            | .error status => (status, none, db)
            | .ok (_, pgs) =>
              let made := { db with pgs := pgs }
              match findAttribInList PgAttr.bufferProfile? attrs with
              -- the status of the search is returned
              | none => (.itemNotFound, some pgId, made)
              | some oid =>
                let r := bufferIngressPgSetProfile sdk made pgId oid
                (r.1, some pgId, r.2)

/-- `ctc_sai_ingress_pg_remove_group_id`.  The profile of the group keeps its count. -/
def removeIngressPg (pgId : Oid) : Status × BufferDb qc :=
  if pgId.type ≠ ObjectType.ingressPriorityGroup.bits then (.invalidObjectId, db)
  else
    match db.pgs.lookup pgId with
    | none => (.success, db)
    | some _ => (.success, { db with pgs := db.pgs.erase pgId })

/-- `ctc_sai_ingress_pg_set_attribute` of
SAI_INGRESS_PRIORITY_GROUP_ATTR_BUFFER_PROFILE, with `_ctc_sai_ingress_pg_set_attr`. -/
def pgSetBufferProfile (pgId oid : Oid) : Status × BufferDb qc :=
  if pgId.type ≠ ObjectType.ingressPriorityGroup.bits then (.invalidObjectId, db)
  else if !qc.known pgId.lchip then (.uninitialized, db)
  else
    match getPgDb sdk.mem.user db.pgs pgId with
    | .error status => (status, db)
    | .ok (_, pgs) => bufferIngressPgSetProfile sdk { db with pgs := pgs } pgId oid

end Calls

end CtcSai
