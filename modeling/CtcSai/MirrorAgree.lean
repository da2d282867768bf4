/-
# `MirrorAgree` — what is read of a mirror session is what was written

`stored` is the content of a record by attribute.  A set that is accepted
changes it at its own attribute and nowhere else (`mirrSetSwitch_stored`), and
a get reads it, but for the address of the destination, which is read by the
family of the source, and for a list that the caller has no room for.  The
port list of a local session does not survive every set: a resource that finds
the session frees the list the record had, whether the set changed it or not.
-/
import Mathlib.Data.List.TakeWhile
import CtcSai.Mirror

namespace CtcSai

open Runs

/-! ## Values -/

/-- A value by what its reader sees: of an IPv4 address only the word. -/
def MirrorValue.norm : MirrorValue → MirrorValue
  | .ipaddr a => .ipaddr ⟨a.addrFamily, a.addrFamily.read a.addr⟩
  | v => v

def MirrorAttrId.kept : MirrorAttrId → Bool
  | .type | .congestionMode | .tc | .policer => false
  | _ => true

/-- The content of a record, by attribute. -/
def MirrorSession.stored (s : MirrorSession) (heap : ListHeap) :
    MirrorAttrId → Option MirrorValue
  | .monitorPort => some (.oid s.dstPort)
  | .truncateSize => some (.u16 s.truncatedSize)
  | .sampleRate => some (.u32 s.sampleRate)
  | .vlanTpid => some (.u16 s.vlanTpid)
  | .vlanId => some (.u16 s.vlanId)
  | .vlanPri => some (.u8 (s.vlanPri.setWidth 8))
  | .vlanCfi => some (.u8 (s.vlanCfi.setWidth 8))
  | .vlanHeaderValid => some (.booldata s.vlanHdrValid)
  | .erspanEncapsulationType => some (.s32 s.erspanEncapType)
  | .iphdrVersion => some (.u8 s.ipHdrVer)
  | .tos => some (.u8 s.tos)
  | .ttl => some (.u8 s.ttl)
  | .srcIpAddress => some (MirrorValue.ipaddr s.srcIpAddr).norm
  | .dstIpAddress => some (MirrorValue.ipaddr s.dstIpAddr).norm
  | .srcMacAddress => some (.mac s.srcMacAddr)
  | .dstMacAddress => some (.mac s.dstMacAddr)
  | .greProtocolType => some (.u16 s.greProType)
  | .monitorPortlistValid => some (.booldata s.dstPortListValid)
  | .monitorPortlist =>
    if s.dstPortListValid then
      (s.dstPortList.bind heap.lists).map fun l => .objlist ⟨s.dstPortCnt, l⟩
    else none
  | .type | .congestionMode | .tc | .policer => none

theorem norm_write (old new : IpUnion) :
    (MirrorValue.ipaddr (old.write new)).norm = (MirrorValue.ipaddr new).norm := by
  obtain ⟨family, addr⟩ := new
  cases family <;> rfl

theorem norm_norm (v : MirrorValue) : v.norm.norm = v.norm := by
  cases v
  case ipaddr a =>
    obtain ⟨family, addr⟩ := a
    cases family <;> rfl
  all_goals rfl

/-! ## Get reads what is stored -/

theorem mirrGetAttr_stored {s : MirrorSession} {heap : ListHeap} (type : MirrorSessionType)
    {id : MirrorAttrId} {v : MirrorValue} (out : MirrorValue) (attrIdx : Nat)
    (hdst : id ≠ .dstIpAddress) (h : s.stored heap id = some v) :
    ∃ w, mirrGetAttr s heap type id out attrIdx = some (.success, w) ∧ w.norm = v.norm := by
  cases id
  case dstIpAddress => exact absurd rfl hdst
  case srcIpAddress =>
    cases h
    refine ⟨_, rfl, (norm_write _ _).trans ?_⟩
    obtain ⟨family, addr⟩ := s.srcIpAddr
    cases family <;> rfl
  case monitorPortlist =>
    unfold MirrorSession.stored at h
    unfold mirrGetAttr
    dsimp only at h ⊢
    split at h
    · next hvalid =>
      rw [if_pos hvalid]
      obtain ⟨l, hl, rfl⟩ := Option.map_eq_some_iff.mp h
      obtain ⟨p, hp, hlist⟩ := Option.bind_eq_some_iff.mp hl
      rw [hp]
      dsimp only
      rw [hlist]
      exact ⟨_, rfl, rfl⟩
    · cases h
  all_goals first
    | cases h; done
    | cases h; exact ⟨_, rfl, rfl⟩

/-- The address of the destination is read right exactly when the source has
its family. -/
theorem mirrGetAttr_dstIp (s : MirrorSession) (heap : ListHeap) (type : MirrorSessionType)
    (out : MirrorValue) (attrIdx : Nat) :
    (∃ w, mirrGetAttr s heap type .dstIpAddress out attrIdx = some (.success, w) ∧
      w.norm = (MirrorValue.ipaddr s.dstIpAddr).norm) ↔
    s.srcIpAddr.addrFamily = s.dstIpAddr.addrFamily := by
  constructor
  · rintro ⟨w, hw, hnorm⟩
    cases hw
    rw [norm_write] at hnorm
    exact congrArg (fun v => v.asIp.addrFamily) hnorm
  · intro hfamily
    refine ⟨_, rfl, ?_⟩
    rw [norm_write, hfamily]

/-! ## Create -/

theorem findMirrorAttr_some {attrs : List MirrorAttr} {id : MirrorAttrId} {v : MirrorValue}
    (h : findMirrorAttr attrs id = some v) : ∃ a : MirrorAttr, a.id = id ∧ a.value = v := by
  obtain ⟨a, -, ha⟩ := List.exists_of_findSome?_eq_some h
  split at ha
  · next hid => exact ⟨a, hid, Option.some.inj ha⟩
  · cases ha

/-- What the record is built from is stored, where the attributes agree on how
the ports are given. -/
theorem ofAttrs_stored {attrs : List MirrorAttr} {heap : ListHeap} {a : MirrorAttr}
    (h : findMirrorAttr attrs a.id = some a.value) (hkept : a.id.kept)
    (hport : a.id = .monitorPort → (MirrorSession.ofAttrs attrs).dstPortListValid = false)
    (hlist : a.id ≠ .monitorPortlist) :
    (MirrorSession.ofAttrs attrs).stored heap a.id = some a.value.norm := by
  cases a
  case monitorPort o =>
    have hvalid := hport rfl
    unfold MirrorSession.ofAttrs at hvalid
    dsimp only at hvalid
    show some (MirrorValue.oid (if _ then _ else _)) = _
    rw [hvalid]
    dsimp only [MirrorAttr.id] at h
    rw [h]
    rfl
  case monitorPortlist => exact absurd rfl hlist
  case type | congestionMode | tc | policer => cases hkept
  case srcIpAddress ip | dstIpAddress ip =>
    dsimp only [MirrorAttr.id] at h
    simp only [MirrorSession.stored, MirrorSession.ofAttrs, MirrorAttr.id, h, Option.map_some,
      Option.getD_some, norm_write]
    rfl
  case vlanPri v | vlanCfi v =>
    dsimp only [MirrorAttr.id] at h
    simp only [MirrorSession.stored, MirrorSession.ofAttrs, MirrorAttr.id, h, Option.map_some,
      Option.getD_some, MirrorAttr.value, MirrorValue.asU8]
    rw [BitVec.setWidth_setWidth_of_le _ (by decide)]
    rfl
  all_goals
    dsimp only [MirrorAttr.id] at h
    simp only [MirrorSession.stored, MirrorSession.ofAttrs, MirrorAttr.id, h]
    rfl

/-! ## Port lists -/

/-- The pointer of a record is to a list that is there, as long as its count. -/
structure MirrorSession.Live (s : MirrorSession) (heap : ListHeap) : Prop where
  list : ∀ p, s.dstPortList = some p → p < heap.next ∧
    ∃ l, heap.lists p = some l ∧ l.length = s.dstPortCnt
  null : s.dstPortList = none → s.dstPortCnt = 0

def MirrorSession.newList (s : MirrorSession) (heap : ListHeap) (l : List Oid) : MirrorSession :=
  { s with dstPortCnt := l.length, dstPortList := some heap.next }

theorem ListHeap.copy_next (heap : ListHeap) (l : List Oid) :
    (heap.copy l).lists heap.next = some l :=
  Function.update_self ..

namespace MirrorSession

variable {s : MirrorSession} {heap : ListHeap}

theorem stored_congr {heap' : ListHeap}
    (h : s.dstPortList.bind heap'.lists = s.dstPortList.bind heap.lists) :
    s.stored heap' = s.stored heap := by
  funext id
  cases id
  case monitorPortlist =>
    show (if s.dstPortListValid then _ else _) = _
    rw [h]
    rfl
  all_goals rfl

theorem newList_stored (hvalid : s.dstPortListValid = true) (l : List Oid) :
    (s.newList heap l).stored (heap.copy l) =
      Function.update (s.stored heap) .monitorPortlist (some (.objlist ⟨l.length, l⟩)) := by
  funext id
  cases id
  case monitorPortlist =>
    show (if s.dstPortListValid then _ else _) = _
    rw [if_pos hvalid]
    show ((heap.copy l).lists heap.next).map _ = _
    rw [heap.copy_next]
    rfl
  all_goals rfl

theorem Live.readable (h : s.Live heap) : s.readable heap = true := by
  unfold MirrorSession.readable
  cases hp : s.dstPortList with
  | none => exact decide_eq_true (h.null hp)
  | some p =>
    obtain ⟨-, l, hl, -⟩ := h.list p hp
    dsimp only
    rw [hl]
    rfl

theorem Live.newList (s : MirrorSession) (heap : ListHeap) (l : List Oid) :
    (s.newList heap l).Live (heap.copy l) := by
  refine ⟨fun p hp => ?_, nofun⟩
  cases hp
  exact ⟨Nat.lt_succ_self _, l, heap.copy_next l, rfl⟩

theorem Live.keep (h : s.Live heap) {heap' : ListHeap} (hnext : heap.next ≤ heap'.next)
    (hlists : ∀ p, s.dstPortList = some p → heap'.lists p = heap.lists p) :
    s.Live heap' ∧ s.stored heap' = s.stored heap := by
  refine ⟨⟨fun p hp => ?_, h.null⟩, stored_congr ?_⟩
  · rw [hlists p hp]
    exact ⟨Nat.lt_of_lt_of_le (h.list p hp).1 hnext, (h.list p hp).2⟩
  · cases hp : s.dstPortList with
    | none => rfl
    | some p => exact hlists p hp

theorem Live.free (h : s.Live heap) {q : Nat} (hq : s.dstPortList ≠ some q) :
    s.Live (heap.free q) ∧ s.stored (heap.free q) = s.stored heap := by
  refine h.keep (Nat.le_refl _) fun p hp => Function.update_of_ne ?_ _ _
  rintro rfl
  exact hq hp

theorem Live.copy (h : s.Live heap) (l : List Oid) :
    s.Live (heap.copy l) ∧ s.stored (heap.copy l) = s.stored heap :=
  h.keep (Nat.le_succ _) fun p hp => Function.update_of_ne (Nat.ne_of_lt (h.list p hp).1) _ _

end MirrorSession

/-! ## The calls of the SDK -/

variable {n : Nat} {answers : List CtcE}

theorem sdkCalls_success (h : ∀ e ∈ answers.take n, e = .none) :
    sdkCalls n answers = (.success, answers.drop n) := by
  induction n generalizing answers with
  | zero => rfl
  | succ n ih =>
    cases answers with
    | nil => rfl
    | cons e rest =>
      have he : e = .none := h e (List.mem_cons_self ..)
      subst he
      exact ih fun e he => h e (List.mem_cons_of_mem _ he)

theorem sdkCalls_fails (h : ∃ e ∈ answers.take n, e ≠ .none) :
    (sdkCalls n answers).1 ≠ .success := by
  induction n generalizing answers with
  | zero =>
    obtain ⟨e, he, -⟩ := h
    cases he
  | succ n ih =>
    obtain ⟨e, he, hne⟩ := h
    cases answers with
    | nil => cases he
    | cons e' rest =>
      unfold sdkCalls
      by_cases hfirst : e' = .none
      · subst hfirst
        refine ih ⟨e, ?_, hne⟩
        exact (List.mem_cons.mp he).resolve_left hne
      have hst := mt mappingErrorCtc_eq_success.mp hfirst
      split
      · next hok => exact absurd hok hst
      · exact hst

/-- A loop that `uint8` keeps from its end stops at a failure, if there is
one. -/
theorem sdkLoop_long (hn : 255 < n) (h : ∃ e ∈ answers, e ≠ .none) :
    ∃ st rest, sdkLoop n answers = some (st, rest) ∧ st ≠ .success := by
  obtain ⟨e, he, hne⟩ := h
  unfold sdkLoop
  rw [if_neg (Nat.not_le_of_gt hn)]
  split
  · next hall =>
    have hnone := List.dropWhile_eq_nil_iff.mp hall e he
    exact absurd (of_decide_eq_true hnone) hne
  next e' rest hdrop =>
  refine ⟨_, _, rfl, mt mappingErrorCtc_eq_success.mp fun hnone => ?_⟩
  have hhead := List.head?_dropWhile_not (fun e : CtcE => decide (e = .none)) answers
  rw [hdrop, hnone] at hhead
  cases hhead

theorem sdkLoop_fails (h : ∃ e ∈ answers.take n, e ≠ .none) :
    ∃ st rest, sdkLoop n answers = some (st, rest) ∧ st ≠ .success := by
  by_cases hn : n ≤ 255
  · unfold sdkLoop
    rw [if_pos hn]
    exact ⟨_, _, rfl, sdkCalls_fails h⟩
  · obtain ⟨e, he, hne⟩ := h
    exact sdkLoop_long (Nat.lt_of_not_le hn) ⟨e, List.mem_of_mem_take he, hne⟩

/-! ## The resources of a set -/

/-- The bindings that a session has, each with the word that it shares its
resource. -/
def mirrorHits (sid : Oid) (slots : List (List Oid)) : List Bool :=
  slots.flatMap fun sessions =>
    (sessions.filter (· = sid)).map fun _ => decide (1 < sessions.length)

theorem mirrorHits_cons (sid : Oid) (sessions : List Oid) (rest : List (List Oid)) :
    mirrorHits sid (sessions :: rest) =
      (sessions.filter (· = sid)).map (fun _ => decide (1 < sessions.length)) ++
        mirrorHits sid rest := rfl

theorem length_mirrorHits (sid : Oid) (slots : List (List Oid)) :
    (mirrorHits sid slots).length = slots.flatten.count sid := by
  induction slots with
  | nil => rfl
  | cons sessions rest ih =>
    rw [List.flatten_cons, List.count_append, ← ih, mirrorHits_cons, List.length_append,
      List.length_map, List.count_eq_length_filter]
    rfl

/-- The bindings one after the other, up to the first error. -/
def mirrorUpdateHits (type : MirrorSessionType) (old new : MirrorSession) :
    List Bool → ListHeap → List CtcE → Option (Status × ListHeap × List CtcE)
  | [], heap, answers => some (.success, heap, answers)
  | isMcast :: rest, heap, answers =>
    match mirrorUpdateBinding type old new isMcast heap answers with
    | some (.success, heap, answers) => mirrorUpdateHits type old new rest heap answers
    | r => r

section Hits

variable {type : MirrorSessionType} {sid : Oid} {old new : MirrorSession}
variable {heap : ListHeap} {answers : List CtcE}

theorem mirrorUpdateHits_append (hits hits' : List Bool) (heap : ListHeap) (answers : List CtcE) :
    mirrorUpdateHits type old new (hits ++ hits') heap answers =
      match mirrorUpdateHits type old new hits heap answers with
      | some (.success, heap, answers) => mirrorUpdateHits type old new hits' heap answers
      | r => r := by
  induction hits generalizing heap answers with
  | nil => rfl
  | cons isMcast rest ih =>
    rw [List.cons_append, mirrorUpdateHits, mirrorUpdateHits]
    split
    · exact ih _ _
    next hno =>
    split
    · next hok => exact absurd hok (hno _ _)
    · rfl

theorem mirrorLkupSetAttr_eq (isMcast : Bool) (sessions : List Oid) (heap : ListHeap)
    (answers : List CtcE) :
    mirrorLkupSetAttr type sid old new isMcast sessions heap answers =
      mirrorUpdateHits type old new ((sessions.filter (· = sid)).map fun _ => isMcast) heap
        answers := by
  induction sessions generalizing heap answers with
  | nil => rfl
  | cons id rest ih =>
    rw [mirrorLkupSetAttr]
    by_cases hid : id = sid
    · rw [if_pos hid, List.filter_cons_of_pos (by simpa using hid), List.map_cons, mirrorUpdateHits]
      generalize mirrorUpdateBinding type old new isMcast heap answers = r
      obtain _ | ⟨st, heap', answers'⟩ := r
      · rfl
      · cases st
        case success => exact ih _ _
        all_goals rfl
    · rw [if_neg hid, List.filter_cons_of_neg (by simpa using hid)]
      exact ih _ _

theorem mirrorTraverse_eq (slots : List (List Oid)) (heap : ListHeap) (answers : List CtcE) :
    mirrorTraverse type sid old new slots heap answers =
      mirrorUpdateHits type old new (mirrorHits sid slots) heap answers := by
  induction slots generalizing heap answers with
  | nil => rfl
  | cons sessions rest ih =>
    rw [mirrorTraverse, mirrorLkupSetAttr_eq, mirrorHits_cons, mirrorUpdateHits_append]
    generalize mirrorUpdateHits type old new (List.map _ _) heap answers = r
    obtain _ | ⟨st, heap', answers'⟩ := r
    · rfl
    · cases st
      case success => exact ih _ _
      all_goals rfl

theorem mirrorUpdateBinding_noList (h : type = .local → old.dstPortListValid = false)
    (new : MirrorSession) (isMcast : Bool) (heap : ListHeap) (answers : List CtcE) :
    ∃ st rest, mirrorUpdateBinding type old new isMcast heap answers = some (st, heap, rest) := by
  unfold mirrorUpdateBinding
  cases type with
  | «local» =>
    rw [h rfl]
    cases isMcast
    · exact ⟨_, _, rfl⟩
    · generalize (sdkCalls 2 answers) = r
      obtain ⟨st, rest⟩ := r
      cases st <;> exact ⟨_, _, rfl⟩
  | remote => exact ⟨_, _, rfl⟩
  | enhancedRemote =>
    dsimp only
    generalize sdkCalls _ answers = r
    obtain ⟨st, rest⟩ := r
    cases st <;> exact ⟨_, _, rfl⟩

theorem mirrorUpdateHits_noList (h : type = .local → old.dstPortListValid = false)
    (new : MirrorSession) (hits : List Bool) (heap : ListHeap) (answers : List CtcE) :
    ∃ st rest, mirrorUpdateHits type old new hits heap answers = some (st, heap, rest) := by
  induction hits generalizing answers with
  | nil => exact ⟨_, _, rfl⟩
  | cons isMcast hits ih =>
    obtain ⟨st, rest, hst⟩ := mirrorUpdateBinding_noList h new isMcast heap answers
    rw [mirrorUpdateHits, hst]
    cases st
    case success => exact ih rest
    all_goals exact ⟨_, _, rfl⟩

theorem mirrorUpdatePorts_fails (hold : old.Live heap) (hnew : new.Live heap)
    (h : ∃ e ∈ answers.take (old.dstPortCnt + new.dstPortCnt), e ≠ .none) :
    ∃ st rest, mirrorUpdatePorts old new heap answers = some (st, heap, rest) ∧
      st ≠ .success := by
  unfold mirrorUpdatePorts
  rw [hold.readable, hnew.readable]
  by_cases hfirst : ∃ e ∈ answers.take old.dstPortCnt, e ≠ .none
  · obtain ⟨st, rest, hst, hne⟩ := sdkLoop_fails hfirst
    rw [hst]
    cases st
    case success => exact absurd rfl hne
    all_goals exact ⟨_, _, rfl, hne⟩
  -- the old ports all leave, and one of the new does not join
  have hnone : ∀ e ∈ answers.take old.dstPortCnt, e = .none := by
    intro e he
    by_contra hne
    exact hfirst ⟨e, he, hne⟩
  obtain ⟨e, he, hne⟩ := h
  by_cases hfew : old.dstPortCnt ≤ 255
  · rw [List.take_add, List.mem_append] at he
    have hrest : e ∈ (answers.drop old.dstPortCnt).take new.dstPortCnt :=
      he.resolve_left fun hmem => hne (hnone e hmem)
    obtain ⟨st, rest, hst, hst'⟩ := sdkLoop_fails ⟨e, hrest, hne⟩
    have hleave : sdkLoop old.dstPortCnt answers =
        some (.success, answers.drop old.dstPortCnt) := by
      unfold sdkLoop
      rw [if_pos hfew, sdkCalls_success hnone]
    rw [hleave]
    dsimp only
    rw [hst]
    cases st
    case success => exact absurd rfl hst'
    all_goals exact ⟨_, _, rfl, hst'⟩
  · obtain ⟨st, rest, hst, hst'⟩ :=
      sdkLoop_long (Nat.lt_of_not_le hfew) ⟨e, List.mem_of_mem_take he, hne⟩
    rw [hst]
    cases st
    case success => exact absurd rfl hst'
    all_goals exact ⟨_, _, rfl, hst'⟩

theorem mirrorUpdatePorts_success (hold : old.Live heap) (hnew : new.Live heap)
    (hfew : old.dstPortCnt ≤ 255) (hfew' : new.dstPortCnt ≤ 255)
    (h : ∀ e ∈ answers.take (old.dstPortCnt + new.dstPortCnt), e = .none) :
    mirrorUpdatePorts old new heap answers =
      some (.success, (old.dstPortList.map heap.free).getD heap,
        answers.drop (old.dstPortCnt + new.dstPortCnt)) := by
  unfold mirrorUpdatePorts
  rw [hold.readable, hnew.readable]
  rw [List.take_add] at h
  have hfirst := sdkCalls_success fun e he => h e (List.mem_append_left _ he)
  have hrest := sdkCalls_success fun e he => h e (List.mem_append_right _ he)
  unfold sdkLoop
  rw [if_pos hfew, hfirst]
  dsimp only [Bool.not_true, Bool.false_eq_true, if_false]
  rw [if_pos hfew', hrest, List.drop_drop]
  rfl

/-- A local session with a list whose ports do not all move: an error, and the
lists as they were. -/
theorem mirrorUpdateHits_fails (hvalid : old.dstPortListValid = true) (hold : old.Live heap)
    (hnew : new.Live heap) (h : ∃ e ∈ answers.take (old.dstPortCnt + new.dstPortCnt), e ≠ .none)
    (hits : List Bool) :
    ∃ st rest, mirrorUpdateHits .local old new hits heap answers = some (st, heap, rest) := by
  cases hits with
  | nil => exact ⟨_, _, rfl⟩
  | cons isMcast hits =>
    obtain ⟨st, rest, hst, hne⟩ := mirrorUpdatePorts_fails hold hnew h
    rw [mirrorUpdateHits, mirrorUpdateBinding]
    rw [if_pos hvalid, hst]
    cases st
    case success => exact absurd rfl hne
    all_goals exact ⟨_, _, rfl⟩

theorem mirrorUpdateHits_one (hvalid : old.dstPortListValid = true) (hold : old.Live heap)
    (hnew : new.Live heap) (hfew : old.dstPortCnt ≤ 255) (hfew' : new.dstPortCnt ≤ 255)
    (h : ∀ e ∈ answers.take (old.dstPortCnt + new.dstPortCnt + 1), e = .none) (isMcast : Bool) :
    ∃ rest, mirrorUpdateHits .local old new [isMcast] heap answers =
      some (.success, (old.dstPortList.map heap.free).getD heap, rest) := by
  rw [List.take_add] at h
  have hports := mirrorUpdatePorts_success hold hnew hfew hfew' fun e he =>
    h e (List.mem_append_left _ he)
  have hoperate := sdkCalls_success fun e he => h e (List.mem_append_right _ he)
  rw [mirrorUpdateHits, mirrorUpdateBinding]
  rw [if_pos hvalid, hports]
  dsimp only
  rw [hoperate]
  exact ⟨_, rfl⟩

end Hits

/-! ## Set changes what is stored at its own attribute -/

/-- The attributes of which the bound resources are told. -/
def MirrorAttr.told : MirrorAttr → Bool
  | .type _ | .monitorPortlistValid _ | .policer _ | .tc _ | .vlanTpid _ | .vlanPri _
  | .vlanCfi _ | .erspanEncapsulationType _ | .sampleRate _ => false
  | .congestionMode v => v.setWidth 8 = (0 : BitVec 8)
  | _ => true

/-- What a record stores after a set that is accepted. -/
def MirrorAttr.update (a : MirrorAttr) (stored : MirrorAttrId → Option MirrorValue) :
    MirrorAttrId → Option MirrorValue :=
  if a.id.kept then Function.update stored a.id (some a.value.norm) else stored

/-- What the switch makes of a record. -/
inductive MirrorSwitched (s : MirrorSession) (heap : ListHeap) (a : MirrorAttr) :
    MirrorSwitch → Prop where
  | refused (status : Status) : status ≠ .success → MirrorSwitched s heap a (.refused status)
  | sampleRate (v : BitVec 32) : a = .sampleRate v →
      MirrorSwitched s heap a (.sampleRate { s with sampleRate := v })
  | field (new : MirrorSession) : a.told = true → a.id ≠ .monitorPortlist →
      new.dstPortList = s.dstPortList → new.dstPortCnt = s.dstPortCnt →
      new.dstPortListValid = s.dstPortListValid →
      new.stored heap = a.update (s.stored heap) → MirrorSwitched s heap a (.written new heap)
  | list (l : List Oid) : a = .monitorPortlist l → s.dstPortListValid = true →
      MirrorSwitched s heap a (.written (s.newList heap l) (heap.copy l))

theorem mirrSetSwitch_cases {mem : Bool} (s : MirrorSession) (heap : ListHeap) (a : MirrorAttr)
    (hmem : a.id = .monitorPortlist → s.dstPortListValid = true → mem = true) :
    ∃ r, mirrSetSwitch mem s heap a = some r ∧ MirrorSwitched s heap a r := by
  cases a
  case type | monitorPortlistValid | policer | tc | vlanTpid | vlanPri | vlanCfi
      | erspanEncapsulationType =>
    exact ⟨_, rfl, .refused _ nofun⟩
  case sampleRate v => exact ⟨_, rfl, .sampleRate v rfl⟩
  case congestionMode v =>
    rw [mirrSetSwitch]
    split
    · next hv => exact ⟨_, rfl, .field _ (decide_eq_true hv) nofun rfl rfl rfl rfl⟩
    · exact ⟨_, rfl, .refused _ nofun⟩
  case monitorPortlist l =>
    rw [mirrSetSwitch]
    split
    · next hvalid =>
      rw [hmem rfl hvalid]
      exact ⟨_, rfl, .list l rfl hvalid⟩
    · exact ⟨_, rfl, .refused _ nofun⟩
  case srcIpAddress ip | dstIpAddress ip =>
    refine ⟨_, rfl, .field _ rfl nofun rfl rfl rfl ?_⟩
    funext id
    cases id <;> first | rfl | exact congrArg some (norm_write _ _)
  all_goals
    refine ⟨_, rfl, .field _ rfl nofun rfl rfl rfl ?_⟩
    funext id
    cases id <;> rfl

/-! ## Runs of sets -/

/-- A session, with the value it last accepted for each attribute. -/
structure MirrorState where
  type : MirrorSessionType
  sid : Oid
  session : MirrorSession
  heap : ListHeap
  accepted : MirrorAttrId → Option MirrorValue

/-- A point that the table of an ACL entry is bound to: the rate that the entry
is mirrored at there, `none` if it is not, and what
`ctc_sai_mirror_set_acl_mirr` and `ctcs_acl_add_action_field` return when the
action is set again. -/
structure AclMirrorPoint where
  sampled : Option (BitVec 32)
  bound : Status
  added : CtcE

/-- An ACL entry that mirrors to the session.  The first session of its list
gives the rate: `other` is that session's, if it is another one. -/
structure AclMirrorEntry where
  other : Option (BitVec 32)
  points : List AclMirrorPoint

/-- What a rate means: at 0 nothing is mirrored. -/
def aclMirrorRate (rate : BitVec 32) : Option (BitVec 32) := if rate = 0 then none else some rate

/-- `_ctc_sai_acl_add_acl_entry_to_sdk` for the mirror action: it adds the action
with its rate to what the point has, and nothing for a rate of 0.  No status is
looked at. -/
def AclMirrorPoint.set (p : AclMirrorPoint) (rate : BitVec 32) : Option (BitVec 32) :=
  if p.bound = .success ∧ rate ≠ 0 ∧ p.added = .none then some rate else p.sampled

/-- One call of set: the attribute, the session lists of the resources and the
ACL entries that mirror to the session at that time, and the answers. -/
structure MirrorSet where
  sdk : MirrorSdk
  slots : List (List Oid)
  acl : List AclMirrorEntry
  attr : MirrorAttr

namespace MirrorSet

/-- After `ctc_sai_acl_set_mirror_sample_rate` every entry is mirrored at the new
rate. -/
def AclFollows (c : MirrorSet) : Prop :=
  ∀ v, c.attr = .sampleRate v → ∀ e ∈ c.acl, ∀ p ∈ e.points,
    p.set (e.other.getD v) = aclMirrorRate v

/-- The calls for a point succeed and hand over the new rate; where they do not
write, the point has that rate already. -/
def AclTakes (c : MirrorSet) : Prop :=
  ∀ v, c.attr = .sampleRate v → ∀ e ∈ c.acl, ∀ p ∈ e.points,
    if p.bound = .success ∧ e.other.getD v ≠ 0 ∧ p.added = .none then e.other.getD v = v
    else p.sampled = aclMirrorRate v

theorem aclFollows_iff (c : MirrorSet) : c.AclFollows ↔ c.AclTakes := by
  have hpoint : ∀ (v rate : BitVec 32) (p : AclMirrorPoint), p.set rate = aclMirrorRate v ↔
      if p.bound = .success ∧ rate ≠ 0 ∧ p.added = .none then rate = v
      else p.sampled = aclMirrorRate v := by
    intro v rate p
    unfold AclMirrorPoint.set
    split
    · next hwrites =>
      unfold aclMirrorRate
      constructor
      · intro h
        split at h
        · cases h
        · exact Option.some.inj h
      · rintro rfl
        exact (if_neg hwrites.2.1).symm
    · exact Iff.rfl
  unfold AclFollows AclTakes
  simp only [hpoint]

def call (s : MirrorState) (c : MirrorSet) : Option (Status × MirrorSession × ListHeap) :=
  mirrSetSessionAttribute c.sdk c.slots s.type s.sid s.session s.heap c.attr

/-- How many ports leave a multicast group and join it. -/
def ports (s : MirrorState) (c : MirrorSet) : Nat :=
  s.session.dstPortCnt +
    match c.attr with
    | .monitorPortlist l => l.length
    | _ => s.session.dstPortCnt

/-- What a local session with a port list asks of a set: that nobody is told,
or that a call fails before the list is freed; or that it is a new list for
the one binding there is, of a length that the loops reach the end of, and no
call fails. -/
def PortsSound (s : MirrorState) (c : MirrorSet) : Prop :=
  c.attr.told = false ∨ c.slots.flatten.count s.sid = 0 ∨
    (∃ e ∈ c.sdk.answers.take (c.ports s), e ≠ .none) ∨
    ∃ l, c.attr = .monitorPortlist l ∧ c.slots.flatten.count s.sid = 1 ∧
      s.session.dstPortCnt ≤ 255 ∧ l.length ≤ 255 ∧
      ∀ e ∈ c.sdk.answers.take (c.ports s + 1), e = .none

/-- A set that keeps the record and its list. -/
structure Sound (s : MirrorState) (c : MirrorSet) : Prop where
  mem : c.attr.id = .monitorPortlist → s.session.dstPortListValid = true → c.sdk.mem = true
  ports : s.type = .local → s.session.dstPortListValid = true → c.PortsSound s

end MirrorSet

def mirrorStep (s : MirrorState) (c : MirrorSet) : Option MirrorState :=
  (c.call s).map fun r =>
    { s with
      session := r.2.1
      heap := r.2.2
      accepted :=
        if r.1 = .success ∧ c.attr.id.kept = true then
          Function.update s.accepted c.attr.id (some c.attr.value)
        else s.accepted }

section Sets

variable {s : MirrorState} {c : MirrorSet}

theorem mirrorUpdateHits_sound {new : MirrorSession} {heap : ListHeap}
    (hold : s.session.Live heap) (hnew : new.Live heap) (htold : c.attr.told = true)
    (hcnt : c.ports s = s.session.dstPortCnt + new.dstPortCnt) (hc : c.Sound s) :
    ∃ st heap' rest, mirrorUpdateHits s.type s.session new (mirrorHits s.sid c.slots) heap
        c.sdk.answers = some (st, heap', rest) ∧
      (heap' = heap ∨ st = .success ∧ c.attr.id = .monitorPortlist ∧
        heap' = (s.session.dstPortList.map heap.free).getD heap) := by
  by_cases hlist : s.type = .local ∧ s.session.dstPortListValid = true
  · obtain ⟨htype, hvalid⟩ := hlist
    rw [htype]
    rcases hc.ports htype hvalid with hnot | hnone | hfail | ⟨l, hl, hone, hfew, hfew', hall⟩
    · rw [htold] at hnot
      cases hnot
    · rw [← length_mirrorHits] at hnone
      rw [List.eq_nil_of_length_eq_zero hnone]
      exact ⟨_, _, _, rfl, .inl rfl⟩
    · rw [hcnt] at hfail
      obtain ⟨st, rest, hst⟩ :=
        mirrorUpdateHits_fails hvalid hold hnew hfail (mirrorHits s.sid c.slots)
      exact ⟨_, _, _, hst, .inl rfl⟩
    rw [← length_mirrorHits] at hone
    obtain ⟨isMcast, hhits⟩ := List.length_eq_one_iff.mp hone
    have hlen : new.dstPortCnt = l.length := by
      have hports := hcnt
      unfold MirrorSet.ports at hports
      rw [hl] at hports
      exact (Nat.add_left_cancel hports).symm
    rw [hcnt] at hall
    rw [← hlen] at hfew'
    obtain ⟨rest, hst⟩ := mirrorUpdateHits_one hvalid hold hnew hfew hfew' hall isMcast
    rw [hhits]
    exact ⟨_, _, _, hst, .inr ⟨rfl, by rw [hl]; rfl, rfl⟩⟩
  · have hno : s.type = .local → s.session.dstPortListValid = false := by
      intro htype
      by_contra hvalid
      exact hlist ⟨htype, by simpa using hvalid⟩
    obtain ⟨st, rest, hst⟩ :=
      mirrorUpdateHits_noList hno new (mirrorHits s.sid c.slots) heap c.sdk.answers
    exact ⟨_, _, _, hst, .inl rfl⟩

/-- A set that is sound returns; what the record stores goes by its status. -/
theorem mirrorSet_sound (hlive : s.session.Live s.heap) (hc : c.Sound s) :
    ∃ st new heap, c.call s = some (st, new, heap) ∧ new.Live heap ∧
      new.stored heap = if st = .success then c.attr.update (s.session.stored s.heap)
        else s.session.stored s.heap := by
  obtain ⟨r, hr, hcase⟩ := mirrSetSwitch_cases s.session s.heap c.attr hc.mem
  unfold MirrorSet.call mirrSetSessionAttribute
  rw [hr]
  cases hcase with
  | refused status hne => exact ⟨_, _, _, rfl, hlive, (if_neg hne).symm⟩
  | sampleRate v hv =>
    refine ⟨_, _, _, rfl, ⟨hlive.list, hlive.null⟩, ?_⟩
    rw [hv]
    funext id
    cases id <;> rfl
  | field new htold hid hptr hcnt hvalid hstored =>
    have hnew : new.Live s.heap := by
      refine ⟨fun p hp => ?_, fun hp => ?_⟩
      · rw [hcnt]
        exact hlive.list p (hptr ▸ hp)
      · rw [hcnt]
        exact hlive.null (hptr ▸ hp)
    have hports : c.ports s = s.session.dstPortCnt + new.dstPortCnt := by
      unfold MirrorSet.ports
      rw [hcnt]
      split
      · next l hl => exact absurd (by rw [hl]; rfl) hid
      · rfl
    obtain ⟨st, heap', rest, hst, hheap⟩ :=
      mirrorUpdateHits_sound hlive hnew htold hports hc
    rcases hheap with rfl | ⟨-, hlist, -⟩
    · dsimp only
      rw [mirrorTraverse_eq, hst]
      cases st
      case success => exact ⟨_, _, _, rfl, hnew, hstored.trans (if_pos rfl).symm⟩
      all_goals
        rw [if_neg hid]
        exact ⟨_, _, _, rfl, hlive, (if_neg nofun).symm⟩
    · exact absurd hlist hid
  | list l hl hvalid =>
    have htold : c.attr.told = true := by rw [hl]; rfl
    have hid : c.attr.id = .monitorPortlist := by rw [hl]; rfl
    have hports : c.ports s = s.session.dstPortCnt + l.length := by
      unfold MirrorSet.ports
      rw [hl]
    obtain ⟨hold, hsame⟩ := hlive.copy l
    have hnew := MirrorSession.Live.newList s.session s.heap l
    have hstored : (s.session.newList s.heap l).stored (s.heap.copy l) = _ :=
      MirrorSession.newList_stored hvalid l
    have hupdate : c.attr.update (s.session.stored s.heap) =
        Function.update (s.session.stored s.heap) .monitorPortlist
          (some (.objlist ⟨l.length, l⟩)) := by
      rw [hl]
      rfl
    obtain ⟨st, heap', rest, hst, hheap⟩ := mirrorUpdateHits_sound hold hnew htold hports hc
    dsimp only
    rw [mirrorTraverse_eq, hst]
    rcases hheap with rfl | ⟨rfl, -, rfl⟩
    · cases st
      case success => exact ⟨_, _, _, rfl, hnew, by rw [hstored, if_pos rfl, hupdate]⟩
      all_goals
        rw [if_pos hid]
        have hne : s.session.dstPortList ≠ some s.heap.next := fun hp =>
          Nat.lt_irrefl _ (hlive.list _ hp).1
        obtain ⟨hfree, hfreed⟩ := hold.free hne
        exact ⟨_, _, _, rfl, hfree, by rw [if_neg nofun]; exact hfreed.trans hsame⟩
    cases hp : s.session.dstPortList with
    | none => exact ⟨_, _, _, rfl, hnew, by rw [hupdate]; exact hstored⟩
    | some p =>
      have hne : (s.session.newList s.heap l).dstPortList ≠ some p := by
        intro he
        cases he
        exact Nat.lt_irrefl _ (hlive.list _ hp).1
      obtain ⟨hfree, hfreed⟩ := hnew.free hne
      refine ⟨_, _, _, rfl, hfree, ?_⟩
      rw [hupdate]
      exact hfreed.trans hstored

end Sets

/-! ## Create -/

/-- One call of create. -/
structure MirrorCreate where
  mem : Bool
  heap : ListHeap
  attrs : List MirrorAttr

/-- What PORTLIST_VALID says, with its default. -/
def MirrorCreate.listValid (c : MirrorCreate) : Bool :=
  ((findMirrorAttr c.attrs .monitorPortlistValid).map (·.asBool)).getD false

/-- The session a call of create makes, its attributes accepted. -/
structure MirrorCreate.Makes (c : MirrorCreate) (s : MirrorState) : Prop where
  chk : mirrorCreateAttrChk c.attrs = .ok s.type
  built : mirrorBuildSessionAttr c.mem c.heap c.attrs = some (.success, s.session, s.heap)
  accepted : s.accepted = fun id => if id.kept then findMirrorAttr c.attrs id else none

/-- The port, or the list, is given by the attribute that PORTLIST_VALID
says. -/
structure MirrorCreate.Sound (c : MirrorCreate) : Prop where
  mem : c.listValid = true → c.mem = true
  port : (findMirrorAttr c.attrs .monitorPort).isSome → c.listValid = false
  list : (findMirrorAttr c.attrs .monitorPortlist).isSome → c.listValid = true

/-- The record stores what was accepted. -/
structure MirrorAgree (s : MirrorState) : Prop where
  live : s.session.Live s.heap
  stored : ∀ id v, s.accepted id = some v → s.session.stored s.heap id = some v.norm

theorem ofAttrs_live (attrs : List MirrorAttr) (heap : ListHeap) :
    (MirrorSession.ofAttrs attrs).Live heap :=
  ⟨nofun, fun _ => rfl⟩

theorem mirrorCreate_agree {c : MirrorCreate} (hc : c.Sound) {s : MirrorState} (h : c.Makes s) :
    MirrorAgree s := by
  obtain ⟨r, hbuilt, hr⟩ := Option.map_eq_some_iff.mp h.built
  obtain ⟨session, heap⟩ := r
  have hpair : (session, heap) = (s.session, s.heap) := congrArg Prod.snd hr
  obtain ⟨rfl, rfl⟩ := Prod.mk.inj hpair
  have hvalid : (MirrorSession.ofAttrs c.attrs).dstPortListValid = c.listValid := rfl
  -- an attribute that is accepted is one of the list
  have hattr : ∀ id v, s.accepted id = some v →
      id.kept = true ∧ findMirrorAttr c.attrs id = some v := by
    intro id v hv
    rw [h.accepted] at hv
    dsimp only at hv
    split at hv
    · next hkept => exact ⟨hkept, hv⟩
    · cases hv
  have hofAttrs : ∀ id v, s.accepted id = some v → id ≠ .monitorPortlist →
      (MirrorSession.ofAttrs c.attrs).stored c.heap id = some v.norm := by
    intro id v hv hid
    obtain ⟨hkept, hfind⟩ := hattr id v hv
    obtain ⟨a, rfl, rfl⟩ := findMirrorAttr_some hfind
    refine ofAttrs_stored hfind hkept (fun hport => ?_) hid
    rw [hport] at hfind
    exact hc.port (by rw [hfind]; rfl)
  cases hlist : findMirrorAttr c.attrs .monitorPortlist with
  | none =>
    rw [hlist, ite_self] at hbuilt
    obtain ⟨hsession, hheap⟩ := Prod.mk.inj (Option.some.inj hbuilt)
    refine ⟨hsession ▸ ofAttrs_live _ _, fun id v hv => ?_⟩
    rw [← hsession]
    refine hofAttrs id v hv ?_
    rintro rfl
    rw [(hattr _ v hv).2] at hlist
    cases hlist
  | some v =>
    have hv : c.listValid = true := hc.list (by rw [hlist]; rfl)
    rw [if_pos (hvalid.trans hv), hlist, hc.mem hv] at hbuilt
    obtain ⟨a, hid, rfl⟩ := findMirrorAttr_some hlist
    cases a
    case monitorPortlist l =>
      obtain ⟨hsession, hheap⟩ := Prod.mk.inj (Option.some.inj hbuilt)
      have hstored : s.session.stored s.heap =
          ((MirrorSession.ofAttrs c.attrs).newList c.heap l).stored (c.heap.copy l) := by
        rw [← hsession, ← hheap]
        rfl
      refine ⟨hsession ▸ hheap ▸ .newList _ _ l, fun id v hv' => ?_⟩
      have hnew : ((MirrorSession.ofAttrs c.attrs).newList c.heap l).stored (c.heap.copy l) = _ :=
        MirrorSession.newList_stored (hvalid.trans hv) l
      rw [hstored, hnew]
      by_cases hid : id = .monitorPortlist
      · subst hid
        rw [(hattr _ v hv').2] at hlist
        cases hlist
        rfl
      · rw [Function.update_of_ne hid]
        exact hofAttrs id v hv' hid
    all_goals cases hid

/-! ## What a caller sees -/

namespace MirrorState

/-- A session that a sound call of create made. -/
def Created (s : MirrorState) : Prop := ∃ c : MirrorCreate, c.Sound ∧ c.Makes s

/-- An attribute is read as a value, up to what is not part of it. -/
def Reads (s : MirrorState) (id : MirrorAttrId) (v : MirrorValue) : Prop :=
  ∀ out attrIdx, ∃ w, mirrGetAttr s.session s.heap s.type id out attrIdx = some (.success, w) ∧
    w.norm = v.norm

/-- A get of the port list into a list with room for `room` ports writes no
more. -/
def Fits (s : MirrorState) (room : Nat) : Prop :=
  ∀ attrIdx w, mirrGetAttr s.session s.heap s.type .monitorPortlist (.objlist ⟨room, []⟩) attrIdx =
    some (.success, w) → w.asList.written.length ≤ room

/-- A set returns, and with success only where it took effect: the record has
the value, and a new sample rate is that of the ACL entries. -/
def Tells (s : MirrorState) (c : MirrorSet) : Prop :=
  ∃ st new heap, c.call s = some (st, new, heap) ∧
    (st = .success →
      (c.attr.id.kept = true → new.stored heap c.attr.id = some c.attr.value.norm) ∧
      c.AclFollows)

end MirrorState

/-- What gets and sets do to a session. -/
structure MirrorOk (s : MirrorState) : Prop where
  gets : ∀ id v, s.accepted id = some v → id ≠ .dstIpAddress → s.Reads id v
  dstIp : ∀ v, s.accepted .dstIpAddress = some v →
    (s.Reads .dstIpAddress v ↔ s.session.srcIpAddr.addrFamily = v.asIp.addrFamily)
  list : ∀ l, s.accepted .monitorPortlist = some (.objlist l) →
    ∀ room, s.Fits room ↔ l.written.length ≤ room
  sets : ∀ c : MirrorSet, c.Sound s → (s.Tells c ↔ c.AclTakes)

namespace MirrorAgree

variable {s : MirrorState}

theorem step (h : MirrorAgree s) {c : MirrorSet} (hc : c.Sound s) {s' : MirrorState}
    (hs : mirrorStep s c = some s') : MirrorAgree s' := by
  obtain ⟨st, new, heap, hcall, hlive, hstored⟩ := mirrorSet_sound h.live hc
  unfold mirrorStep at hs
  rw [hcall] at hs
  cases hs
  refine ⟨hlive, fun id v hv => ?_⟩
  dsimp only at hv ⊢
  rw [hstored]
  by_cases hok : st = .success
  · rw [if_pos hok, MirrorAttr.update]
    split
    · next hkept =>
      rw [if_pos ⟨hok, hkept⟩] at hv
      by_cases hid : id = c.attr.id
      · subst hid
        rw [Function.update_self] at hv ⊢
        cases hv
        rfl
      · rw [Function.update_of_ne hid] at hv ⊢
        exact h.stored id v hv
    · next hkept =>
      rw [if_neg fun hand => hkept hand.2] at hv
      exact h.stored id v hv
  · rw [if_neg hok]
    rw [if_neg fun hand => hok hand.1] at hv
    exact h.stored id v hv

theorem tells (h : MirrorAgree s) {c : MirrorSet} (hc : c.Sound s) :
    s.Tells c ↔ c.AclTakes := by
  obtain ⟨st, new, heap, hcall, -, hstored⟩ := mirrorSet_sound h.live hc
  rw [← c.aclFollows_iff]
  constructor
  · rintro ⟨st', new', heap', hcall', htold⟩ v hv
    -- a sample rate is always accepted
    have hok : st' = .success := by
      obtain ⟨sdk, slots, acl, attr⟩ := c
      cases hv
      cases hcall'
      rfl
    exact (htold hok).2 v hv
  · intro hacl
    refine ⟨st, new, heap, hcall, fun hok => ⟨fun hkept => ?_, hacl⟩⟩
    rw [hstored, if_pos hok, MirrorAttr.update, if_pos hkept, Function.update_self]

theorem ok (h : MirrorAgree s) : MirrorOk s := by
  refine ⟨fun id v hv hid out attrIdx => ?_, fun v hv => ?_, fun l hl room => ?_, fun c hc =>
    h.tells hc⟩
  · obtain ⟨w, hw, hnorm⟩ := mirrGetAttr_stored s.type out attrIdx hid (h.stored id v hv)
    exact ⟨w, hw, hnorm.trans (norm_norm v)⟩
  · have hstored : (MirrorValue.ipaddr s.session.dstIpAddr).norm = v.norm :=
      Option.some.inj (h.stored _ v hv)
    have hfamily : s.session.dstIpAddr.addrFamily = v.asIp.addrFamily := by
      cases v
      case ipaddr a => exact congrArg (fun v => v.asIp.addrFamily) hstored
      all_goals cases hstored
    rw [← hfamily]
    constructor
    · intro hreads
      obtain ⟨w, hw, hnorm⟩ := hreads (.u8 0) 0
      exact (mirrGetAttr_dstIp s.session s.heap s.type _ _).mp ⟨w, hw, hnorm.trans hstored.symm⟩
    · intro hsame out attrIdx
      obtain ⟨w, hw, hnorm⟩ := (mirrGetAttr_dstIp s.session s.heap s.type out attrIdx).mpr hsame
      exact ⟨w, hw, hnorm.trans hstored⟩
  · have hget : ∀ attrIdx, mirrGetAttr s.session s.heap s.type .monitorPortlist
        (.objlist ⟨room, []⟩) attrIdx = some (.success, .objlist l) := by
      intro attrIdx
      obtain ⟨w, hw, hnorm⟩ := mirrGetAttr_stored s.type (.objlist ⟨room, []⟩) attrIdx
        (by decide) (h.stored _ _ hl)
      rw [hw]
      cases w
      case objlist l' => exact congrArg (fun v => some (Status.success, v)) hnorm
      all_goals cases hnorm
    constructor
    · intro hfits
      exact hfits 0 _ (hget 0)
    · intro hle attrIdx w hw
      rw [hget] at hw
      cases hw
      exact hle

end MirrorAgree

def MirrorSdk.ok : MirrorSdk := ⟨true, []⟩

def mirrorSid : Oid := createObjectId .mirrorSession 0 0 0 1

def mirrorPort (gport : BitVec 32) : Oid := createObjectId .port 0 0 0 gport

def MirrorCreate.list : MirrorCreate :=
  ⟨true, .empty,
    [.type .local, .monitorPortlistValid true, .monitorPortlist [mirrorPort 1, mirrorPort 2]]⟩

/-- A session from an IPv6 address to an IPv4 address. -/
def MirrorCreate.mixed : MirrorCreate :=
  ⟨true, .empty, [.type .enhancedRemote, .monitorPort (mirrorPort 1), .erspanEncapsulationType 0,
    .iphdrVersion 4, .tos 0, .ttl 64, .srcIpAddress ⟨.ipv6, ⟨1, 2, 3, 4⟩⟩,
    .dstIpAddress ⟨.ipv4, ⟨5, 0, 0, 0⟩⟩, .srcMacAddress 1, .dstMacAddress 2,
    .greProtocolType 0x88be]⟩

/-- What a caller may rely on, without a word of families, room and entries. -/
structure MirrorSays (s : MirrorState) : Prop where
  gets : ∀ id v, s.accepted id = some v → s.Reads id v
  list : ∀ room, s.Fits room
  sets : ∀ c, s.Tells c

end CtcSai
