/-
# `Wred` — ctc_sai_wred.c

A WRED profile is used by queues, which keep its number.  A queue that is set to one
has its drop scheme read back, overwritten with the profile and written; a profile
that is changed writes the drop schemes of its queues from nothing.  The two agree
where every colour of the profile is enabled, for a disabled colour's thresholds are
left as they were found.
-/
import CtcSai.Queue
import CtcSai.Chip

namespace CtcSai

open Function IdPool KeyedTable

/-! ## Records and registers -/

/-- `sai_packet_color_t`. -/
inductive PacketColor where
  | green | yellow | red
deriving DecidableEq, Repr

/-- One of something for each colour. -/
structure Colors (α : Type) where
  green : α
  yellow : α
  red : α
deriving DecidableEq, Repr

namespace Colors

variable {α : Type}

def get (s : Colors α) : PacketColor → α
  | .green => s.green
  | .yellow => s.yellow
  | .red => s.red

def ofFn (f : PacketColor → α) : Colors α := ⟨f .green, f .yellow, f .red⟩

@[simp] theorem get_ofFn (f : PacketColor → α) (color : PacketColor) : (ofFn f).get color = f color := by
  cases color <;> rfl

theorem ext_get {s s' : Colors α} (h : ∀ color, s.get color = s'.get color) : s = s' := by
  rw [mk.injEq]
  exact ⟨h .green, h .yellow, h .red⟩

end Colors

/-- `ctc_sai_wred_db_t`. -/
structure Wred where
  colorEn : Colors Bool
  minTh : Colors (BitVec 16)
  maxTh : Colors (BitVec 16)
  dropProb : Colors (BitVec 16)
  usedCnt : BitVec 16
deriving DecidableEq, Repr

/-- CTC_QUEUE_DROP_WTD and CTC_QUEUE_DROP_WRED. -/
inductive DropMode where
  | wtd | wred
deriving DecidableEq, Repr

/-- `ctc_qos_queue_drop_t`, by colour: the SDK's index is 2 for green, 1 for yellow and 0
for red. -/
structure QueueDrop where
  mode : DropMode
  minTh : Colors (BitVec 16)
  maxTh : Colors (BitVec 16)
  dropProb : Colors Nat
deriving DecidableEq, Repr

/-- A drop scheme that was just zeroed. -/
def QueueDrop.zero : QueueDrop := ⟨.wtd, ⟨0, 0, 0⟩, ⟨0, 0, 0⟩, ⟨0, 0, 0⟩⟩

/-- What stays fixed while the WRED module runs. -/
structure WredChip extends QueueChip where
  /-- `port_queues` of the switch master. -/
  portQueues : Lchip → BitVec 8
  /-- `default_wtd_thrd` of the switch master. -/
  defaultWtdThrd : Lchip → Colors (BitVec 16)
  /-- The mode `ctcs_qos_get_drop_scheme` returns, by the one it is called with and the one
  of the queue. -/
  getMode : DropMode → DropMode → DropMode
  /-- Called for WRED, it leaves the mode alone. -/
  getMode_wred : ∀ mode, getMode .wred mode = .wred

/-- Chip 0 with eight unicast queues and others for multicast. -/
def WredChip.plain : WredChip where
  toQueueChip := .plain
  portQueues _ := 16
  defaultWtdThrd _ := ⟨100, 100, 100⟩
  getMode given _ := given
  getMode_wred _ := rfl

/-- The object id of a WRED profile. -/
def wredOid (c : Lchip) (id : BitVec 32) : Oid := createObjectId .wred (c.setWidth 8) 0 0 id

/-- The objects of all chips, their ids and the drop schemes of their queues. -/
structure WredDb (wc : WredChip) where
  wreds : Table Oid Wred
  queues : Table Oid Queue
  ids : Lchip → Pool wc.common
  /-- `ctcs_qos_set_drop_scheme`, by port and queue. -/
  drop : Lchip → BitVec 32 × BitVec 16 → QueueDrop

/-- What the SDK and the memory answer during one call. -/
structure WredSdk where
  getDropScheme : CtcE
  setDropScheme : CtcE
  wredMem : Bool
  wredNode : Bool
  /-- The record of a queue. -/
  queue : RecordMem

def WredSdk.ok : WredSdk := ⟨.none, .none, true, true, .ok⟩

/-- The calls of the SDK succeed. -/
def WredSdk.Succeeds (sdk : WredSdk) : Prop := sdk.getDropScheme = .none ∧ sdk.setDropScheme = .none

/-! ## Attributes -/

/-- The attributes of a WRED profile. -/
inductive WredAttr where
  | enable (color : PacketColor) (b : Bool)
  | minThreshold (color : PacketColor) (n : BitVec 32)
  | maxThreshold (color : PacketColor) (n : BitVec 32)
  | dropProbability (color : PacketColor) (n : BitVec 32)
  | weight
  | ecnMarkMode
deriving DecidableEq, Repr

namespace WredAttr

def enable? (color : PacketColor) : WredAttr → Option Bool
  | enable i b => if i = color then some b else none
  | _ => none

def minThreshold? (color : PacketColor) : WredAttr → Option (BitVec 32)
  | minThreshold i n => if i = color then some n else none
  | _ => none

def maxThreshold? (color : PacketColor) : WredAttr → Option (BitVec 32)
  | maxThreshold i n => if i = color then some n else none
  | _ => none

def dropProbability? (color : PacketColor) : WredAttr → Option (BitVec 32)
  | dropProbability i n => if i = color then some n else none
  | _ => none

end WredAttr

/-- `_ctc_sai_wred_map_attr_to_db`: the numbers are cut to 16 bits. -/
def wredMapAttrToDb (attrs : List WredAttr) (w : Wred) : Wred where
  colorEn := .ofFn fun i => (findAttribInList (WredAttr.enable? i) attrs).getD (w.colorEn.get i)
  minTh := .ofFn fun i =>
    ((findAttribInList (WredAttr.minThreshold? i) attrs).map (BitVec.setWidth 16)).getD
      (w.minTh.get i)
  maxTh := .ofFn fun i =>
    ((findAttribInList (WredAttr.maxThreshold? i) attrs).map (BitVec.setWidth 16)).getD
      (w.maxTh.get i)
  dropProb := .ofFn fun i =>
    ((findAttribInList (WredAttr.dropProbability? i) attrs).map (BitVec.setWidth 16)).getD
      (w.dropProb.get i)
  usedCnt := w.usedCnt

/-- `_ctc_sai_wred_map_db_to_ctc_drop`: what is there stays where a colour is disabled. -/
def wredMapDbToCtcDrop (w : Wred) (d : QueueDrop) : QueueDrop where
  mode := d.mode
  minTh := .ofFn fun i => if w.colorEn.get i then w.minTh.get i else d.minTh.get i
  maxTh := .ofFn fun i => if w.colorEn.get i then w.maxTh.get i else d.maxTh.get i
  dropProb := .ofFn fun i => (w.dropProb.get i).toNat * 31 / 100

/-! ## Queues -/

section Calls

variable {wc : WredChip} (sdk : WredSdk) (db : WredDb wc)

variable (wc) in
/-- The port and the number by which the SDK knows a queue. -/
def dropQueue (queueId : Oid) : BitVec 32 × BitVec 16 :=
  (queueId.value,
    if queueId.subType = queueTypeMulticast ∧ wc.portQueues queueId.lchip = 16 then
      queueId.value2 + 8
    else queueId.value2)

def WredDb.dropOf (queueId : Oid) : QueueDrop := db.drop queueId.lchip (dropQueue wc queueId)

/-- `ctcs_qos_set_drop_scheme`. -/
def WredDb.setDrop (queueId : Oid) (d : QueueDrop) : WredDb wc :=
  { db with
    drop := update db.drop queueId.lchip
      (update (db.drop queueId.lchip) (dropQueue wc queueId) d) }

/-- `ctcs_qos_get_drop_scheme`, called with a mode. -/
def WredDb.getDrop (queueId : Oid) (mode : DropMode) : QueueDrop :=
  { db.dropOf queueId with mode := wc.getMode mode (db.dropOf queueId).mode }

/-- One user more; the counter has 16 bits. -/
def Wred.hold (w : Wred) : Wred := { w with usedCnt := w.usedCnt + 1 }

/-- One user less, unless there is none. -/
def Wred.release (w : Wred) : Wred :=
  if w.usedCnt ≠ 0 then { w with usedCnt := w.usedCnt - 1 } else w

/-- The drop scheme of a queue without a profile. -/
def defaultDrop (wc : WredChip) (c : Lchip) : QueueDrop :=
  { QueueDrop.zero with maxTh := wc.defaultWtdThrd c }

/-- The enabling half of `ctc_sai_wred_queue_set_wred`. -/
def wredQueueEnable (queueId : Oid) (wredId oldWredId : BitVec 32) : Status × WredDb wc :=
  let c := queueId.lchip
  match db.wreds.lookup (wredOid c wredId) with
  | none => (.itemNotFound, db)
  | some w =>
    match mappingErrorCtc sdk.getDropScheme with
    | .success =>
      match mappingErrorCtc sdk.setDropScheme with
      | .success =>
        let db := { db.setDrop queueId (wredMapDbToCtcDrop w (db.getDrop queueId .wred)) with
          wreds := db.wreds.insert (wredOid c wredId) w.hold }
        if oldWredId = 0 then (.success, db)
        else
          match db.wreds.lookup (wredOid c oldWredId) with
          | none => (.itemNotFound, db)
          | some old => (.success, { db with
              wreds := db.wreds.insert (wredOid c oldWredId) old.release })
      | status => (status, db)
    | status => (status, db)

def wredQueueDisable (queueId : Oid) (wredId : BitVec 32) : Status × WredDb wc :=
  let c := queueId.lchip
  match db.wreds.lookup (wredOid c wredId) with
  | none => (.itemNotFound, db)
  | some w =>
    match mappingErrorCtc sdk.setDropScheme with
    | .success => (.success, { db.setDrop queueId (defaultDrop wc c) with
        wreds := db.wreds.insert (wredOid c wredId) w.release })
    | status => (status, db)

/-- `wred_id` of a queue is written. -/
def WredDb.setWredId (queueId : Oid) (q : Queue) (id : BitVec 32) : WredDb wc :=
  { db with queues := db.queues.insert queueId { q with wredId := id } }

/-- SAI_QUEUE_ATTR_WRED_PROFILE_ID of `_ctc_sai_queue_set_attr`. -/
def queueSetWredProfile (queueId : Oid) (q : Queue) (oid : Oid) : Status × WredDb wc :=
  if oid ≠ Oid.null then
    if queueId.lchip ≠ oid.lchip then (.invalidParameter, db)
    else
      let old := if q.wredId ≠ 0 ∧ oid.value ≠ q.wredId then q.wredId else 0
      match wredQueueEnable sdk db queueId oid.value old with
      | (.success, db) => (.success, db.setWredId queueId q oid.value)
      | r => r
  else
    -- the old profile is found by a comparison with nothing in particular, and not used
    match wredQueueDisable sdk db queueId q.wredId with
    | (.success, db) => (.success, db.setWredId queueId q 0)
    | r => r

/-- `ctc_sai_queue_set_attribute` of SAI_QUEUE_ATTR_WRED_PROFILE_ID. -/
def queueSetWred (queueId oid : Oid) : Status × WredDb wc :=
  if queueId.type ≠ ObjectType.queue.bits then (.invalidObjectId, db)
  else if !wc.known queueId.lchip then (.uninitialized, db)
  else
    match getQueueDb sdk.queue db.queues queueId with
    | .error status => (status, db)
    | .ok (q, queues) => queueSetWredProfile sdk { db with queues := queues } queueId q oid

/-! ## Profiles -/

/-- The record of a profile that is created. -/
def Wred.initial : Wred :=
  ⟨⟨false, false, false⟩, ⟨0, 0, 0⟩, ⟨0, 0, 0⟩, ⟨100, 100, 100⟩, 0⟩

/-- `ctc_sai_wred_create_wred_id` for a switch of chip `c`. -/
def createWred (c : Lchip) (attrs : List WredAttr) : Status × Option Oid × WredDb wc :=
  if !wc.known c then (.uninitialized, none, db)
  else if !sdk.wredMem then (.noMemory, none, db)
  else
    match (db.ids c).alloc with
    | none => (.insufficientResources, none, db)
    | some (i, pool) =>
      let oid := wredOid c (BitVec.ofNat 32 i)
      let back := { db with ids := update db.ids c (pool.free i) }
      if (db.wreds.lookup oid).isSome then (.itemAlreadyExists, none, back)
      else if !sdk.wredNode then (.noMemory, none, back)
      else (.success, some oid, { db with
        ids := update db.ids c pool
        wreds := db.wreds.insert oid (wredMapAttrToDb attrs .initial) })

/-- `ctc_sai_wred_remove_wred_id`. -/
def removeWred (oid : Oid) : Status × WredDb wc :=
  if oid.type ≠ ObjectType.wred.bits then (.invalidObjectId, db)
  else
    match db.wreds.lookup oid with
    | none => (.itemNotFound, db)
    | some w =>
      if w.usedCnt ≠ 0 then (.objectInUse, db)
      else (.success, { db with
        wreds := db.wreds.erase oid
        ids := update db.ids oid.lchip ((db.ids oid.lchip).free oid.value.toNat) })

/-- `_ctc_sai_queue_traverse_set_cb` over the queues of a chip: those with the number `id`
get the drop scheme. -/
def queueTraverseSet (c : Lchip) (id : BitVec 32) (d : QueueDrop) : WredDb wc :=
  db.queues.entries.foldl
    (fun s e => if e.2.wredId = id ∧ e.1.lchip = c then s.setDrop e.1 d else s) db

/-- `_ctc_sai_wred_set_attr`: what the traversal returns is not looked at. -/
def wredSetAttr (oid : Oid) (attr : WredAttr) : Status × WredDb wc :=
  match db.wreds.lookup oid with
  | none => (.itemNotFound, db)
  | some w =>
    let w' := wredMapAttrToDb [attr] w
    let written := if w.usedCnt = 0 then db
      else if mappingErrorCtc sdk.setDropScheme = .success then
        queueTraverseSet db oid.lchip oid.value
          { wredMapDbToCtcDrop w' .zero with mode := .wred }
      else db
    (.success, { written with wreds := written.wreds.insert oid w' })

/-- `ctc_sai_wred_set_attribute`; two attributes have no function. -/
def setWredAttribute (oid : Oid) (attr : WredAttr) : Status × WredDb wc :=
  if oid.type ≠ ObjectType.wred.bits then (.invalidObjectId, db)
  else
    match attr with
    | .weight | .ecnMarkMode => (.invalidAttribute 0, db)
    | attr => wredSetAttr sdk db oid attr

end Calls

end CtcSai
