/-
# `NextHopGet` — reading back what a next hop was created with

Creation spreads an attribute list over a record whose fields mean different
things for different types; the getter reads the fields without looking at the
type.  `createNextHop_stored` says what creation stored, field by field, and
`getNextHop_iff` which of the given attributes come back as they were given.
-/
import CtcSai.MplsTunnel

namespace CtcSai

open IdPool

variable {ch : Chip}

/-! ## What is given, and what should come back -/

def NextHopAttr.id : NextHopAttr → NextHopAttrId
  | .type _ => .type
  | .ip _ => .ip
  | .routerInterfaceId _ => .routerInterfaceId
  | .tunnelId _ => .tunnelId
  | .tunnelVni _ => .tunnelVni
  | .tunnelMac _ => .tunnelMac
  | .segmentrouteSidlistId _ => .segmentrouteSidlistId
  | .segmentrouteEndpointType => .segmentrouteEndpointType
  | .segmentrouteEndpointPopType => .segmentrouteEndpointPopType
  | .labelstack _ => .labelstack
  | .counterId _ => .counterId
  | .mplsEncapTunnelId _ => .mplsEncapTunnelId
  | .mplsDecapTunnelId _ => .mplsDecapTunnelId
  | .nextLevelNextHopId _ => .nextLevelNextHopId

/-- The attributes that creation stores and the getter serves. -/
def NextHopAttr.readable : NextHopAttr → Bool
  | .type _ | .ip _ | .routerInterfaceId _ | .tunnelId _ | .labelstack _ | .counterId _
  | .mplsEncapTunnelId _ | .mplsDecapTunnelId _ | .nextLevelNextHopId _ => true
  | _ => false

/-- The list gives this attribute: it is the first with its id. -/
def NextHopAttr.GivenIn (a : NextHopAttr) (attrs : List NextHopAttr) : Prop :=
  attrs.find? (fun b => b.id = a.id) = some a

/-- The answer to a get call that returns the value given: for a label stack
the whole list if the caller has room, and else its length and nothing past
that room. -/
def NextHopAttr.Answers (a : NextHopAttr) (room : Nat) (answer : Status × NextHopValue) : Prop :=
  match a with
  | .type t => answer = (.success, .s32 (BitVec.ofNat 32 t.ctorIdx))
  | .ip ipaddr => answer = (.success, .ipaddr ipaddr)
  | .routerInterfaceId o | .tunnelId o | .counterId o | .mplsEncapTunnelId o
  | .mplsDecapTunnelId o | .nextLevelNextHopId o | .segmentrouteSidlistId o =>
    answer = (.success, .oid o)
  | .labelstack labels =>
    if labels.length ≤ room then answer = (.success, .u32list ⟨labels.length, labels⟩)
    else ∃ written, answer = (.bufferOverflow, .u32list ⟨labels.length, written⟩) ∧
      written.length ≤ room
  | _ => False

/-- `get_next_hop_attribute` of one attribute, with room for `room` elements,
returns the value given. -/
def ReadsBack (db : NextHopDb ch) (oid : Oid) (a : NextHopAttr) (room : Nat) : Prop :=
  ∃ status value,
    getNextHopAttribute db oid [(a.id, .u32list ⟨room, []⟩)] = some (status, [(a.id, value)]) ∧
      a.Answers room (status, value)

/-! ## When it does -/

/-- What the creation of a next hop from `attrs` keeps of one of them. -/
def Kept (raw : NextHopAttr → Oid) (db : NextHopDb ch) (attrs : List NextHopAttr) (room : Nat) :
    NextHopAttr → Prop
  | .type _ | .ip _ | .routerInterfaceId _ | .counterId _ => True
  | .tunnelId o =>
    match findAttribInList NextHopAttr.type? attrs with
    | some .mpls | some .tunnelEncap => (db.tunnels.lookup o).isSome ∨
        (findAttribInList NextHopAttr.mplsEncapTunnelId? attrs).getD o = o
    | _ => o = Oid.null
  | .labelstack labels => buildsMpls raw db attrs = true ∧ labels.length ≤ room ∧
      (labels = [] ∨ bareNextHop db (nextLevelGiven attrs) = false)
  -- both are answered with the next level
  | .mplsEncapTunnelId o | .mplsDecapTunnelId o =>
    o = if buildsMpls raw db attrs then nextLevelGiven attrs else Oid.null
  | .nextLevelNextHopId o => buildsMpls raw db attrs = true ∨ o = Oid.null
  | _ => False

/-! ## What creation stores -/

/-- The labels that a stack on `nextLevel` keeps. -/
def labelsKept (db : NextHopDb ch) (nextLevel : Oid) (labels : List (BitVec 32)) :
    List (BitVec 32) :=
  if bareNextHop db nextLevel then [] else labels

/-- The record of a next hop created from `attrs`. -/
structure StoredAs (raw : NextHopAttr → Oid) (db : NextHopDb ch) (attrs : List NextHopAttr)
    (nh : NextHop) : Prop where
  ip : nh.ipAddress = (findAttribInList NextHopAttr.ip? attrs).getD .zero
  rif : nh.rifId = (findAttribInList NextHopAttr.routerInterfaceId? attrs).getD Oid.null
  counter : nh.counterObjId = (findAttribInList NextHopAttr.counterId? attrs).getD Oid.null
  tunnel : nh.tunnelId = tunnelStored raw db attrs
  nextLevel : nh.nextLevelNexthopId = if buildsMpls raw db attrs then nextLevelGiven attrs
    else Oid.null
  label : nh.label = if buildsMpls raw db attrs then some (labelsKept db (nextLevelGiven attrs)
    ((findAttribInList NextHopAttr.labelstack? attrs).getD [])) else none

/-- A created next hop: its object carries the type and the record. -/
def CreatedAs (raw : NextHopAttr → Oid) (db : NextHopDb ch) (attrs : List NextHopAttr)
    (oid : Oid) (db' : NextHopDb ch) : Prop :=
  ∃ t nh, findAttribInList NextHopAttr.type? attrs = some t ∧ oid.subType = t.bits ∧
    db'.nextHops.lookup oid = some nh ∧ StoredAs raw db attrs nh

theorem subType_nextHopOid (t : NextHopType) (nhId : Nat) :
    (nextHopOid ch t nhId).subType = t.bits := by
  cases t <;> rfl

section Create

variable {raw : NextHopAttr → Oid} {sdk : Sdk} {db db' : NextHopDb ch} {attrs : List NextHopAttr}
  {oid : Oid}

theorem createNhIp_stored (ht : findAttribInList NextHopAttr.type? attrs = some .ip)
    (h : createNhIp sdk db (nextHopFill attrs) = (.success, some oid, db')) :
    CreatedAs raw db attrs oid db' := by
  have hb : buildsMpls raw db attrs = false := by rw [buildsMpls, ht]
  unfold createNhIp at h
  split at h
  · dsimp only at h
    split at h
    · next hadd =>
      obtain ⟨_, rfl⟩ := nextHopAddObject_some hadd
      cases h
      refine ⟨.ip, nextHopFill attrs, ht, rfl, AList.lookup_insert _, rfl, rfl, rfl, ?_, ?_, ?_⟩
      · rw [tunnelStored, ht]; rfl
      · rw [hb]; rfl
      · rw [hb]; rfl
    · cases h
  · next hne heq => exact absurd (congrArg Prod.fst h) hne

theorem labelsKept_own {nh : NextHop} {labels : List (BitVec 32)} (hown : nh.ownsTunnel = true) :
    labelsKept db nh.nextLevelNexthopId labels = labels := by
  rw [of_decide_eq_true hown]
  rfl

/-- What is filled in stays: only the labels and the tunnel id are written. -/
theorem StoredAs.ofAdded {m : NextHopDb ch} {pool : Pool ch.nexthop} {nhId : Nat} {nh : NextHop}
    (hstack : (stackOf raw db attrs).isSome = buildsMpls raw db attrs)
    (h : HopAdded sdk (withNexthop db pool) nhId (hopFilled raw db attrs) (stackOf raw db attrs)
      .success nh m) : StoredAs raw db attrs nh := by
  have hfilled : ∀ label tunnel, (label = if buildsMpls raw db attrs then
        some (labelsKept db (nextLevelGiven attrs)
          ((findAttribInList NextHopAttr.labelstack? attrs).getD [])) else none) →
      StoredAs raw db attrs
        { hopFilled raw db attrs with label := label, ctcMplsTunnelId := tunnel } := by
    intro label tunnel hlabel
    unfold hopFilled
    cases hb : buildsMpls raw db attrs with
    | false => exact ⟨rfl, rfl, rfl, rfl, by rw [hb]; rfl, hlabel⟩
    | true => exact ⟨rfl, rfl, rfl, rfl, by rw [hb]; rfl, hlabel⟩
  have hlabels : ∀ {labels kept tunnel}, stackOf raw db attrs = some labels →
      kept = labelsKept db (hopFilled raw db attrs).nextLevelNexthopId labels →
      StoredAs raw db attrs
        { hopFilled raw db attrs with label := some kept, ctcMplsTunnelId := tunnel } := by
    intro labels kept tunnel hst hk
    obtain ⟨hb, hlab⟩ := stackOf_some hst
    refine hfilled _ _ ?_
    rw [hk, hopFilled, hb, hlab]
    rfl
  generalize hst : stackOf raw db attrs = stack at h hstack
  cases h with
  | failed hne => exact absurd rfl hne
  | own hown => exact hlabels hst (labelsKept_own hown).symm
  | nested _ _ hbare =>
    refine hlabels hst ?_
    rw [labelsKept, show bareNextHop db _ = false from hbare]
    rfl
  | silent _ hcarry =>
    refine hlabels hst ?_
    rw [labelsKept]
    rcases hcarry with rfl | hbare
    · rw [ite_self]
    · rw [show bareNextHop db _ = true from hbare, if_pos rfl]
  | ipTunnel =>
    refine hfilled (hopFilled raw db attrs).label _ ?_
    rw [← hstack]
    exact (hopFilled_blank raw db attrs).1

theorem createNextHop_stored (h : createNextHop raw sdk db attrs = some (.success, some oid, db')) :
    CreatedAs raw db attrs oid db' := by
  have hend := createNextHop_end h
  generalize hr : ((.success, some oid, db') : CreateResult ch) = r at hend
  cases hend with
  | refused | full | locked => cases hr
  | ip _ ht => exact createNhIp_stored ht hr.symm
  | made _ ht htype _ _ hstack hmade =>
    cases hmade with
    | refused | unstored | unbound => cases hr
    | stored nbr hadd hfree hbind hk =>
      cases hr
      refine ⟨_, _, ht, subType_nextHopOid _ _, ?_,
        .ofAdded hstack (hopAdd_added (hopFilled_blank raw db attrs).1 hadd)⟩
      rw [hk.nextHops]
      exact AList.lookup_insert _

end Create

/-! ## Reading it back -/

theorem NextHopAttr.GivenIn.find {β : Type} {a : NextHopAttr} {attrs : List NextHopAttr}
    (ha : a.GivenIn attrs) {sel : NextHopAttr → Option β} {v : β} (hv : sel a = some v)
    (hsel : ∀ b, b.id ≠ a.id → sel b = none) : findAttribInList sel attrs = some v := by
  unfold findAttribInList
  induction attrs with
  | nil => cases ha
  | cons b rest ih =>
    unfold NextHopAttr.GivenIn at ha
    rw [List.find?_cons] at ha
    by_cases hb : b.id = a.id
    · rw [decide_eq_true hb] at ha
      cases ha
      rw [List.findSome?_cons, hv]
    · rw [decide_eq_false hb] at ha
      rw [List.findSome?_cons, hsel b hb]
      exact ih ha

section Read

variable {raw : NextHopAttr → Oid} {sdk : Sdk} {db db' : NextHopDb ch} {attrs : List NextHopAttr}
  {oid : Oid}
variable {o : Oid} {labels : List (BitVec 32)} {room : Nat}

theorem readsBack_iff {a : NextHopAttr} (hread : a.readable = true) (room : Nat) :
    ReadsBack db oid a room ↔
      a.Answers room (nextHopGetAttr db oid a.id (.u32list ⟨room, []⟩) 0) := by
  have hfn : nextHopAttrFnEntries db oid a.id = some (some (nextHopGetAttr db oid)) := by
    cases a with
    | tunnelVni _ | tunnelMac _ => cases hread
    | _ => rfl
  unfold ReadsBack getNextHopAttribute
  rw [getAttributes_single, getAttribute, hfn]
  constructor
  · rintro ⟨status, value, he, hans⟩
    cases he
    exact hans
  · intro hans
    exact ⟨_, _, rfl, hans⟩

theorem mplsTunnel_eq_iff (hfind : findAttribInList NextHopAttr.tunnelId? attrs = some o) :
    (mplsTunnel db attrs).1 = o ↔ (db.tunnels.lookup o).isSome ∨
      (findAttribInList NextHopAttr.mplsEncapTunnelId? attrs).getD o = o := by
  unfold mplsTunnel
  rw [hfind]
  dsimp only [Option.bind_some, Option.getD_some]
  cases hl : db.tunnels.lookup o with
  | some t => simp
  | none =>
    cases findAttribInList NextHopAttr.mplsEncapTunnelId? attrs with
    | none => simp
    | some e => simp

theorem encapTunnelId_eq_iff (hfind : findAttribInList NextHopAttr.tunnelId? attrs = some o) :
    encapTunnelId raw db attrs = o ↔ (db.tunnels.lookup o).isSome ∨
      (findAttribInList NextHopAttr.mplsEncapTunnelId? attrs).getD o = o := by
  unfold encapTunnelId
  rw [hfind]
  dsimp only [Option.getD_some]
  split
  · next hl => simp [hl]
  · next hl => simp [hl]

theorem tunnelStored_eq_iff (hfind : findAttribInList NextHopAttr.tunnelId? attrs = some o)
    (room : Nat) :
    tunnelStored raw db attrs = o ↔ Kept raw db attrs room (.tunnelId o) := by
  unfold tunnelStored Kept
  cases findAttribInList NextHopAttr.type? attrs with
  | none => exact eq_comm
  | some t =>
    cases t with
    | mpls => exact mplsTunnel_eq_iff hfind
    | tunnelEncap => exact encapTunnelId_eq_iff hfind
    | _ => exact eq_comm

theorem answers_oid_iff {o' : Oid} :
    (((Status.success, NextHopValue.oid o') : Status × NextHopValue) = (.success, .oid o)) ↔
      o' = o := by
  simp only [Prod.mk.injEq, NextHopValue.oid.injEq, true_and]

/-- A label list is answered with success only where there is room for it. -/
theorem room_of_answers {value : NextHopValue}
    (h : (NextHopAttr.labelstack labels).Answers room (.success, value)) :
    labels.length ≤ room := by
  unfold NextHopAttr.Answers at h
  dsimp only at h
  split at h
  · next hle => exact hle
  · obtain ⟨_, he, _⟩ := h
    cases he

theorem answers_labelstack_iff {kept : List (BitVec 32)} :
    (NextHopAttr.labelstack labels).Answers room (.success, .u32list ⟨kept.length, kept⟩) ↔
      labels.length ≤ room ∧ kept = labels := by
  constructor
  · intro h
    have hle := room_of_answers h
    unfold NextHopAttr.Answers at h
    simp only [if_pos hle, Prod.mk.injEq, NextHopValue.u32list.injEq, AttrList.mk.injEq] at h
    exact ⟨hle, h.2.2⟩
  · rintro ⟨hle, rfl⟩
    unfold NextHopAttr.Answers
    dsimp only
    rw [if_pos hle]

theorem not_answers_labelstack {l : AttrList (BitVec 32)} :
    ¬ (NextHopAttr.labelstack labels).Answers room (.invalidParameter, .u32list l) := by
  unfold NextHopAttr.Answers
  dsimp only
  split
  · intro h
    cases h
  · rintro ⟨_, h, _⟩
    cases h

/-- A list never overflows the room that was set to its own length. -/
theorem fillObjectList_self {α : Type} (elems : List α) :
    fillObjectList (some elems) ⟨elems.length, []⟩ = (.success, ⟨elems.length, elems⟩) := by
  rw [fillObjectList, if_neg (Nat.lt_irrefl _)]

theorem labelsKept_eq_iff :
    labelsKept db o labels = labels ↔ labels = [] ∨ bareNextHop db o = false := by
  unfold labelsKept
  cases bareNextHop db o with
  | false => simp
  | true => simp [eq_comm]

/-- A readable attribute given at creation comes back as it was given exactly
when creation kept it. -/
theorem getNextHop_iff (h : createNextHop raw sdk db attrs = some (.success, some oid, db'))
    {a : NextHopAttr} (hread : a.readable = true) (ha : a.GivenIn attrs) (room : Nat) :
    ReadsBack db' oid a room ↔ Kept raw db attrs room a := by
  obtain ⟨t, nh, ht, hsub, hlook, hst⟩ := createNextHop_stored h
  rw [readsBack_iff hread, nextHopGetAttr, hlook]
  cases a with
  | type t' =>
    have hfind : findAttribInList NextHopAttr.type? attrs = some t' :=
      ha.find rfl fun b hb => by cases b <;> first | rfl | exact absurd rfl hb
    rw [ht] at hfind
    cases hfind
    refine iff_of_true ?_ trivial
    show (_, _) = (_, _)
    rw [hsub]
    cases t <;> rfl
  | ip ipaddr =>
    have hfind : findAttribInList NextHopAttr.ip? attrs = some ipaddr :=
      ha.find rfl fun b hb => by cases b <;> first | rfl | exact absurd rfl hb
    refine iff_of_true ?_ trivial
    show (_, _) = (_, _)
    rw [hst.ip, hfind]
    rfl
  | routerInterfaceId o =>
    have hfind : findAttribInList NextHopAttr.routerInterfaceId? attrs = some o :=
      ha.find rfl fun b hb => by cases b <;> first | rfl | exact absurd rfl hb
    refine iff_of_true ?_ trivial
    show (_, _) = (_, _)
    rw [hst.rif, hfind]
    rfl
  | counterId o =>
    have hfind : findAttribInList NextHopAttr.counterId? attrs = some o :=
      ha.find rfl fun b hb => by cases b <;> first | rfl | exact absurd rfl hb
    refine iff_of_true ?_ trivial
    show (_, _) = (_, _)
    rw [hst.counter, hfind]
    rfl
  | tunnelId o =>
    have hfind : findAttribInList NextHopAttr.tunnelId? attrs = some o :=
      ha.find rfl fun b hb => by cases b <;> first | rfl | exact absurd rfl hb
    rw [← tunnelStored_eq_iff hfind, ← hst.tunnel]
    exact answers_oid_iff
  | labelstack labels =>
    have hfind : findAttribInList NextHopAttr.labelstack? attrs = some labels :=
      ha.find rfl fun b hb => by cases b <;> first | rfl | exact absurd rfl hb
    have hlabel := hst.label
    rw [hfind, Option.getD_some] at hlabel
    show (NextHopAttr.labelstack labels).Answers room
      (_, .u32list (fillObjectList nh.label ⟨nh.labelCount, []⟩).2) ↔ _
    unfold Kept
    cases hb : buildsMpls raw db attrs with
    | false =>
      rw [hb, if_neg (by decide)] at hlabel
      rw [hlabel]
      exact iff_of_false not_answers_labelstack (fun h => absurd h.1 (by decide))
    | true =>
      rw [hb, if_pos rfl] at hlabel
      rw [NextHop.labelCount, hlabel, Option.getD_some, fillObjectList_self,
        answers_labelstack_iff, labelsKept_eq_iff]
      exact (and_iff_right rfl).symm
  | mplsEncapTunnelId o | mplsDecapTunnelId o =>
    have hkept : nh.nextLevelNexthopId = o ↔ o = nh.nextLevelNexthopId := eq_comm
    rw [hst.nextLevel] at hkept
    refine Iff.trans ?_ hkept
    rw [← hst.nextLevel]
    exact answers_oid_iff
  | nextLevelNextHopId o =>
    have hfind : findAttribInList NextHopAttr.nextLevelNextHopId? attrs = some o :=
      ha.find rfl fun b hb => by cases b <;> first | rfl | exact absurd rfl hb
    have hnext := hst.nextLevel
    rw [nextLevelGiven, hfind, Option.getD_some] at hnext
    refine answers_oid_iff.trans ?_
    unfold Kept
    rw [hnext]
    cases buildsMpls raw db attrs with
    | true => simp
    | false => simp [eq_comm]
  | _ => cases hread

end Read

/-! ## A label stack read on the small chip -/

/-- An MPLS next hop with two labels over the one neighbor. -/
def twoLabels : List NextHopAttr :=
  [.type .mpls, .ip (.ip4 0x0A000001), .routerInterfaceId Chip.portRif, .labelstack [100, 200]]

/-- A caller with room for two reads them. -/
theorem getNextHop_small : ∃ oid db', createNextHop (fun _ => Oid.null) .ok
    NextHopDb.withNeighbor twoLabels = some (.success, some oid, db') ∧
      ReadsBack db' oid (.labelstack [100, 200]) 2 := by
  have hkept : Kept (fun _ => Oid.null) NextHopDb.withNeighbor twoLabels 2
      (.labelstack [100, 200]) := ⟨rfl, by decide, .inr rfl⟩
  have hgiven : (NextHopAttr.labelstack [100, 200]).GivenIn twoLabels := rfl
  exact ⟨_, _, rfl, (@getNextHop_iff Chip.small _ .ok _ _ _ _ rfl _ rfl hgiven 2).mpr hkept⟩

/-- A caller with room for one is written past its end. -/
theorem getNextHop_not_always :
    ¬ ∀ (ch : Chip) (raw : NextHopAttr → Oid) (sdk : Sdk) (db db' : NextHopDb ch)
      (attrs : List NextHopAttr) (oid : Oid) (a : NextHopAttr) (room : Nat), sdk.Succeeds →
      createNextHop raw sdk db attrs = some (.success, some oid, db') → a.readable = true →
      a.GivenIn attrs → ReadsBack db' oid a room := by
  intro h
  have hback := h Chip.small (fun _ => Oid.null) .ok NextHopDb.withNeighbor _ twoLabels
    (nextHopOid Chip.small .mpls 4) (.labelstack [100, 200]) 1 Sdk.ok_succeeds rfl rfl rfl
  exact absurd (room_of_answers ((readsBack_iff rfl 1).mp hback)) (by decide)

end CtcSai
