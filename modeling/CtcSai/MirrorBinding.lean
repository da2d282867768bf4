/-
# `MirrorBinding` — session lists on ports and ACL entries, ctc_sai_mirror.c

A list of mirror sessions is bound through a slot: four of them for each
direction of the ports and for each priority of the ACL.  A slot is shared by
the users that bind the same list, which is sorted for the comparison, and it
holds the next hops of its remote sessions and, for more than one destination,
a multicast group.

Calls of the SDK succeed here.  What the chip keeps for a port, and the ACL
module for an entry, is the number of the slot among its four.
-/
import CtcSai.Mirror

namespace CtcSai

open Function IdPool

/-! ## Slots -/

/-- `ctc_sai_db_mirror_type_t`: what is mirrored. -/
inductive MirrorDbType where
  | igsPort | egsPort
  | igsAcl (priority : Fin 8)
  | egsAcl (priority : Fin 3)
deriving DecidableEq, Repr

def MirrorDbType.port (egress : Bool) : MirrorDbType := if egress then .egsPort else .igsPort

/-- The slots of the ACL. -/
def MirrorDbType.acl : Fin 8 ⊕ Fin 3 → MirrorDbType
  | .inl priority => .igsAcl priority
  | .inr priority => .egsAcl priority

/-- All of them, in the order of the vector. -/
def MirrorDbType.all : List MirrorDbType :=
  [.igsPort, .egsPort] ++ (List.finRange 8).map .igsAcl ++ (List.finRange 3).map .egsAcl

/-- An index of CTC_SAI_DB_VECTOR_TYPE_MIRROR. -/
abbrev MirrorSlot := MirrorDbType × Fin 4

/-- `ctc_sai_mirr_sess_res_t`: the sessions with their next hops, 0 is none. -/
structure MirrorRes where
  sessionRefCnt : BitVec 8
  mirrSess : List (Oid × Nat)
  mcNhId : Nat
  mcGrpId : Nat
deriving DecidableEq

def MirrorRes.list (r : MirrorRes) : List Oid := r.mirrSess.map Prod.fst

inductive MirrorUser where
  | port (egress : Bool) (gport : BitVec 32)
  | acl (entry : Oid)
deriving DecidableEq, Repr

/-- What stays fixed while the adapter runs. -/
structure MirrorChip where
  lchip : BitVec 8
  common : Allocator
  nexthop : Allocator
  mcastGroup : Allocator
  nexthop_lo : nexthop.lo = 3

/-- The sessions, the slots and the users' slot numbers: for a port what the
chip has where mirroring is enabled, for an entry its `ctc_mirror_id`, 0xFF is
none. -/
structure MirrorDb (mc : MirrorChip) where
  sessions : Oid → Option MirrorSession
  heap : ListHeap
  common : Pool mc.common
  nexthop : Pool mc.nexthop
  mcastGroup : Pool mc.mcastGroup
  slots : MirrorSlot → Option MirrorRes
  sessionId : MirrorUser → Option (Fin 4)

variable {mc : MirrorChip}

/-- The session lists, in the order of the vector. -/
def MirrorDb.slotLists (db : MirrorDb mc) : List (List Oid) :=
  MirrorDbType.all.flatMap fun type =>
    (List.finRange 4).filterMap fun n => (db.slots (type, n)).map (·.list)

/-! ## Object ids as numbers -/

def Oid.word (o : Oid) : BitVec 64 := o.value ++ o.value2 ++ o.subType ++ o.lchip ++ o.type

/-- What is left of an object id in an `int`. -/
def Oid.throughInt (o : Oid) : Oid :=
  { o with value := if o.value2.msb then BitVec.allOnes 32 else 0 }

/-- The session type, which is the sub type of the object id. -/
def Oid.mirrorType (o : Oid) : MirrorSessionType :=
  if o.subType = 1 then .remote else if o.subType = 2 then .enhancedRemote else .local

/-- A session that has a next hop in its slot. -/
def Oid.hasNh (o : Oid) : Bool := o.mirrorType ≠ .local

/-! ## Sorting -/

/-- `r[i]` and `r[j]` exchanged, the first one by way of `tmp`, an `int`. -/
def mirrorSwap (r : List Oid) (i j : Nat) : List Oid :=
  match r[i]?, r[j]? with
  | some a, some b => (r.set i b).set j a.throughInt
  | _, _ => r

/-- `r[i] > r[j]`. -/
def mirrorAbove (r : List Oid) (i j : Nat) : Bool :=
  match r[i]?, r[j]? with
  | some a, some b => b.word < a.word
  | _, _ => false

/-- The forward pass, over `n` places from `j` on. -/
def bubbleForward : Nat → Nat → List Oid → List Oid
  | _, 0, r => r
  | j, n + 1, r => bubbleForward (j + 1) n (if mirrorAbove r j (j + 1) then mirrorSwap r j (j + 1)
    else r)

/-- The backward pass, over `n` places from `j` down. -/
def bubbleBackward : Nat → Nat → List Oid → List Oid
  | _, 0, r => r
  | j, n + 1, r => bubbleBackward (j - 1) n (if mirrorAbove r (j - 1) j then mirrorSwap r j (j - 1)
    else r)

/-- The loop of `_ctc_sai_mirror_bubble_sort`; it ends as `low` and `high`
meet. -/
def bubbleSortLoop : Nat → Nat → Nat → List Oid → List Oid
  | 0, _, _, r => r
  | fuel + 1, low, high, r =>
    if low < high then
      let r := bubbleForward low (high - low) r
      let r := bubbleBackward (high - 1) (high - 1 - low) r
      bubbleSortLoop fuel (low + 1) (high - 1) r
    else r

/-- `_ctc_sai_mirror_bubble_sort`. -/
def mirrorBubbleSort (r : List Oid) : List Oid := bubbleSortLoop r.length 0 (r.length - 1) r

/-! ## Taking a slot -/

/-- Whether the two allocations of `_ctc_sai_mirror_alloc_sess_res` succeed. -/
structure MirrorMem where
  res : Bool
  sess : Bool

/-- The first loop of `_ctc_sai_mirror_alloc_sess_res`: the slot that holds the
list.  The list is sorted before each comparison. -/
def mirrorLkupHit (slot : Fin 4 → Option MirrorRes) : List (Fin 4) → List Oid →
    List Oid × Option (Fin 4)
  | [], list => (list, none)
  | n :: rest, list =>
    match slot n with
    | none => mirrorLkupHit slot rest list
    | some r =>
      if list.length ≠ r.mirrSess.length then mirrorLkupHit slot rest list
      else
        let list := mirrorBubbleSort list
        if list = r.list then (list, some n) else mirrorLkupHit slot rest list

/-- The next hops of the sessions.  A session that is not there is a NULL that
is read, if it is to have one. -/
def mirrorAddNexthops {A : Allocator} (sessions : Oid → Option MirrorSession) :
    List Oid → Pool A → List (Oid × Nat) → Option (Status × Pool A × List (Oid × Nat))
  | [], pool, sess => some (.success, pool, sess)
  | id :: rest, pool, sess =>
    if id.hasNh then
      match sessions id with
      | none => none
      | some s =>
        if s.dstPortListValid then some (.notSupported, pool, sess)
        else
          match pool.alloc with
          | none => some (.insufficientResources, pool, sess)
          | some (nhId, pool) => mirrorAddNexthops sessions rest pool (sess ++ [(id, nhId)])
    else mirrorAddNexthops sessions rest pool (sess ++ [(id, 0)])

/-- The members of the multicast group: those of a local session are read, its
port list in a loop by `uint8`. -/
def mirrorMembersRead (sessions : Oid → Option MirrorSession) (heap : ListHeap)
    (list : List Oid) : Bool :=
  list.all fun id =>
    id.hasNh ||
      match sessions id with
      | none => false
      | some s => !s.dstPortListValid || (s.readable heap && decide (s.dstPortCnt ≤ 255))

/-- `_ctc_sai_mirror_operate_session` reads the first session. -/
def mirrorOperateSession (sessions : Oid → Option MirrorSession) (list : List Oid) : Bool :=
  (list.head?.bind sessions).isSome

/-- More than one destination.  The last session is read if it is the only
one. -/
def mirrorIsMcast (sessions : Oid → Option MirrorSession) (list : List Oid) : Option Bool :=
  if 1 < list.length then some true
  else (list.getLast?.bind sessions).map (·.dstPortListValid)

/-- A new slot for a sorted list.  What was allocated before an error stays
allocated. -/
def mirrorNewRes (db : MirrorDb mc) (k : MirrorSlot) (list : List Oid) :
    Option (Status × MirrorDb mc) :=
  match mirrorAddNexthops db.sessions list db.nexthop [] with
  | none => none
  | some (.success, nexthop, sess) =>
    match mirrorIsMcast db.sessions list with
    | none => none
    | some true =>
      match nexthop.alloc with
      | none => some (.insufficientResources, { db with nexthop := nexthop })
      | some (mcNhId, nexthop) =>
        match db.mcastGroup.alloc with
        | none => some (.insufficientResources, { db with nexthop := nexthop })
        | some (mcGrpId, mcastGroup) =>
          if mirrorMembersRead db.sessions db.heap list &&
              mirrorOperateSession db.sessions list then
            some (.success, { db with
              nexthop := nexthop
              mcastGroup := mcastGroup
              slots := update db.slots k (some ⟨1, sess, mcNhId, mcGrpId⟩) })
          else none
    | some false =>
      if mirrorOperateSession db.sessions list then
        some (.success, { db with
          nexthop := nexthop
          slots := update db.slots k (some ⟨1, sess, 0, 0⟩) })
      else none
  | some (status, nexthop, _) => some (status, { db with nexthop := nexthop })

/-- `_ctc_sai_mirror_alloc_sess_res`. -/
def mirrorAllocSessRes (mem : MirrorMem) (db : MirrorDb mc) (type : MirrorDbType)
    (list : List Oid) : Option (Status × Option (Fin 4) × MirrorDb mc) :=
  match mirrorLkupHit (fun n => db.slots (type, n)) (List.finRange 4) list with
  | (_, some n) =>
    let used := (db.slots (type, n)).map fun r => { r with sessionRefCnt := r.sessionRefCnt + 1 }
    some (.success, some n, { db with slots := update db.slots (type, n) used })
  | (list, none) =>
    match (List.finRange 4).find? fun n => (db.slots (type, n)).isNone with
    | none => some (.insufficientResources, none, db)
    | some n =>
      if !mem.res || !mem.sess then some (.noMemory, none, db)
      else
        match mirrorNewRes db (type, n) (mirrorBubbleSort list) with
        | none => none
        | some (.success, db) => some (.success, some n, db)
        | some (status, db) => some (status, none, db)

/-! ## Giving a slot back -/

/-- The next hops of the sessions, given back. -/
def mirrorFreeNexthops {A : Allocator} (sess : List (Oid × Nat)) (pool : Pool A) : Pool A :=
  sess.foldl (fun pool e => if e.1.hasNh then pool.free e.2 else pool) pool

/-- `_ctc_sai_mirror_free_sess_res`. -/
def mirrorFreeSessRes (db : MirrorDb mc) (k : MirrorSlot) : Option (Status × MirrorDb mc) :=
  match db.slots k with
  | none => some (.itemNotFound, db)
  | some r =>
    let r := { r with sessionRefCnt := r.sessionRefCnt - 1 }
    if r.sessionRefCnt = 0 then
      if mirrorOperateSession db.sessions r.list then
        let nexthop := mirrorFreeNexthops r.mirrSess db.nexthop
        some (.success, { db with
          nexthop := if r.mcNhId ≠ 0 then nexthop.free r.mcNhId else nexthop
          mcastGroup := if r.mcNhId ≠ 0 then db.mcastGroup.free r.mcGrpId else db.mcastGroup
          slots := update db.slots k none })
      else none
    else some (.success, { db with slots := update db.slots k (some r) })

/-! ## Binding -/

/-- The loop of `_ctc_sai_mirror_binding_mirr_param_chk`: a session that is
not there ends it, the other errors do not. -/
def mirrorParamChkLoop (sessions : Oid → Option MirrorSession) (isPort : Bool) :
    Option (BitVec 16) → Status → List Oid → Status
  | _, status, [] => status
  | truncated, status, id :: rest =>
    match sessions id with
    | none => .itemNotFound
    | some s =>
      let status := if truncated.any (· ≠ s.truncatedSize) then .invalidParameter else status
      let status := if isPort && decide (s.sampleRate ≠ 1) then .notSupported else status
      mirrorParamChkLoop sessions isPort (some (truncated.getD s.truncatedSize)) status rest

/-- `_ctc_sai_mirror_binding_mirr_param_chk`.  Its loop goes by a `uint8`: of a
longer list it reads the first 256 sessions again and again. -/
def mirrorParamChk (sessions : Oid → Option MirrorSession) (isPort : Bool) (list : List Oid) :
    Option Status :=
  if list.length ≤ 255 then some (mirrorParamChkLoop sessions isPort none .success list)
  else if (list.take 256).all fun id => (sessions id).isSome then none
  else some .itemNotFound

def mirrorRelease (db : MirrorDb mc) (u : MirrorUser) (type : MirrorDbType) :
    Option (Status × MirrorDb mc) :=
  match db.sessionId u with
  | none => some (.success, db)
  | some n => mirrorFreeSessRes db (type, n)

/-- The slot number of a user, written. -/
def MirrorDb.setSessionId (db : MirrorDb mc) (u : MirrorUser) (n : Option (Fin 4)) :
    MirrorDb mc :=
  { db with sessionId := update db.sessionId u n }

/-- A slot for a list, and its number for the user. -/
def mirrorTake (mem : MirrorMem) (db : MirrorDb mc) (u : MirrorUser) (type : MirrorDbType)
    (list : List Oid) : Option (Status × MirrorDb mc) :=
  match mirrorAllocSessRes mem db type list with
  | none => none
  | some (.success, n, db) => some (.success, db.setSessionId u n)
  | some (status, _, db) => some (status, db)

/-- The slot a user has given back, and one taken for the new list if there is
one; else `unbind`. -/
def mirrorRebind (mem : MirrorMem) (db : MirrorDb mc) (u : MirrorUser) (type : MirrorDbType)
    (list : List Oid) (unbind : MirrorDb mc → MirrorDb mc) : Option (Status × MirrorDb mc) :=
  match mirrorRelease db u type with
  | none => none
  | some (.success, db) =>
    if list = [] then some (.success, unbind db) else mirrorTake mem db u type list
  | some r => some r

/-- `ctc_sai_mirror_set_port_mirr`: without a list mirroring is disabled. -/
def mirrorSetPortMirr (mem : MirrorMem) (db : MirrorDb mc) (egress : Bool) (gport : BitVec 32)
    (list : List Oid) : Option (Status × MirrorDb mc) :=
  match mirrorParamChk db.sessions true list with
  | none => none
  | some .success =>
    mirrorRebind mem db (.port egress gport) (.port egress) list
      fun db => db.setSessionId (.port egress gport) none
  | some status => some (status, db)

/-- `ctc_sai_mirror_set_acl_mirr`: without a list the entry keeps its slot
number. -/
def mirrorSetAclMirr (mem : MirrorMem) (db : MirrorDb mc) (entry : Oid) (stage : Fin 8 ⊕ Fin 3)
    (list : List Oid) : Option (Status × MirrorDb mc) :=
  match mirrorParamChk db.sessions false list with
  | none => none
  | some .success => mirrorRebind mem db (.acl entry) (.acl stage) list fun db => db
  | some status => some (status, db)

/-! ## Sessions -/

/-- `_ctc_sai_mirror_remove_db`. -/
def mirrorRemoveDb (db : MirrorDb mc) (sid : Oid) : Status × MirrorDb mc :=
  match db.sessions sid with
  | none => (.itemNotFound, db)
  | some s =>
    let gone := update db.sessions sid none
    if s.dstPortListValid then
      match s.dstPortList with
      | none => (.objectInUse, db)
      | some p => (.success, { db with sessions := gone, heap := db.heap.free p })
    else (.success, { db with sessions := gone })

/-- The type of a session, in its object id. -/
def MirrorSessionType.bits : MirrorSessionType → BitVec 8
  | .local => 0
  | .remote => 1
  | .enhancedRemote => 2

/-- `ctc_sai_mirror_create_mirror_session`; `memSession` and `memList` say
whether there is memory for the record and for its port list. -/
def mirrorCreateSession (memSession memList : Bool) (db : MirrorDb mc) (attrs : List MirrorAttr) :
    Option (Status × MirrorDb mc) :=
  match mirrorCreateAttrChk attrs with
  | .error status => some (status, db)
  | .ok type =>
    match db.common.alloc with
    | none => some (.insufficientResources, db)
    | some (id, common) =>
      let sid := createObjectId .mirrorSession mc.lchip type.bits 0 (BitVec.ofNat 32 id)
      if !memSession then some (.noMemory, db)
      else if (db.sessions sid).isSome then some (.itemAlreadyExists, db)
      else
        match mirrorBuildSessionAttr memList db.heap attrs with
        | none => none
        | some (status, s, heap) =>
          let db := { db with
            sessions := update db.sessions sid (some s)
            heap := heap
            common := common }
          if status = .success then some (.success, db)
          else
            let db := (mirrorRemoveDb db sid).2
            some (status, { db with common := db.common.free id })

/-- `ctc_sai_mirror_remove_mirr_session`.  The slots are searched for `addr`,
the address of the object id where the object id is meant. -/
def mirrorRemoveSession (db : MirrorDb mc) (sid addr : Oid) : Status × MirrorDb mc :=
  match db.sessions sid with
  | none => (.itemNotFound, db)
  | some _ =>
    if db.slotLists.any (·.contains addr) then (.objectInUse, db)
    else
      let db := (mirrorRemoveDb db sid).2
      (.success, { db with common := db.common.free sid.value.toNat })

/-- The mirror action of an ACL entry in one direction, where it is enabled: its
list, and the points that the table of the entry is bound to, each with the
memory for a call there and the priority of its block. -/
structure AclMirror where
  entry : Oid
  list : List Oid
  points : List (MirrorMem × (Fin 8 ⊕ Fin 3))

/-- The arguments of `ctc_sai_mirror_set_acl_mirr`. -/
structure AclMirrCall where
  mem : MirrorMem
  entry : Oid
  stage : Fin 8 ⊕ Fin 3
  list : List Oid

/-- The calls that `ctc_sai_acl_set_mirror_sample_rate` comes to: an entry whose
action lists the session is set that action again, at each of its points. -/
def sampleRateCalls (sid : Oid) (acl : List AclMirror) : MirrorAttr → List AclMirrCall
  | .sampleRate _ => (acl.filter (·.list.contains sid)).flatMap fun a =>
      a.points.map fun p => ⟨p.1, a.entry, p.2, a.list⟩
  | _ => []

/-- These calls one after the other, their statuses dropped. -/
def mirrorSetAclMirrs : MirrorDb mc → List AclMirrCall → Option (MirrorDb mc)
  | db, [] => some db
  | db, c :: rest =>
    (mirrorSetAclMirr c.mem db c.entry c.stage c.list).bind fun r => mirrorSetAclMirrs r.2 rest

/-- A set in the record of a session. -/
def mirrorSetRecord (sdk : MirrorSdk) (db : MirrorDb mc) (sid : Oid) (attr : MirrorAttr) :
    Option (Status × MirrorDb mc) :=
  match db.sessions sid with
  | none => some (.itemNotFound, db)
  | some s =>
    (mirrSetSessionAttribute sdk db.slotLists sid.mirrorType sid s db.heap attr).map fun r =>
      (r.1, { db with
        sessions := update db.sessions sid (some r.2.1)
        heap := r.2.2 })

/-- `ctc_sai_mirror_set_mirr_session_attribute`; `acl` are the mirror actions of
the ACL entries, in the order they are traversed in. -/
def mirrorSetSession (sdk : MirrorSdk) (acl : List AclMirror) (db : MirrorDb mc) (sid : Oid)
    (attr : MirrorAttr) : Option (Status × MirrorDb mc) :=
  match mirrorSetRecord sdk db sid attr with
  | some (.success, db) =>
    (mirrorSetAclMirrs db (sampleRateCalls sid acl attr)).map fun db => (.success, db)
  | r => r

end CtcSai
