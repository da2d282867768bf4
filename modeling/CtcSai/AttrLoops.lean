/-
# `AttrLoops` — the loop of every get call over its attributes

A get call is given an array of attributes and its count, a `uint32`, and
walks the array by an index of type `uint8`.  The call proper is
`ctc_sai_get_attribute`, which looks the id up in the table of the module;
the tables are parameters here, with get functions that may read and write
what they like.  A call on more than 255 attributes gets to its end only by
an error.
-/
import CtcSai.EntryKeys
import CtcSai.Lag
import CtcSai.NextHop
import CtcSai.Lib.NarrowLoop

namespace CtcSai

open NarrowLoop

variable {ι ν σ : Type}

/-- `attr_count` and `attr_list` of a get call. -/
structure AttrArray (ι ν : Type) where
  attrCount : BitVec 32
  attrList : List (ι × ν)
  length_eq : attrList.length = attrCount.toNat

/-- A table of get functions: the id, what the caller left in the value, and
the index of the attribute, in any state. -/
abbrev AttrFns (ι ν σ : Type) := ι → Option (Option (σ → ι → ν → Nat → Status × ν × σ))

/-- What a get call leaves; an error is a status. -/
abbrev GetOut (ι ν σ : Type) := Out (ι × ν) σ Status

/-- `ctc_sai_get_attribute`, with the status that ends the loop. -/
def getAttributeIn (fns : AttrFns ι ν σ) (s : σ) (attr : ι × ν) (attrIndex : Nat) :
    Option Status × (ι × ν) × σ :=
  match fns attr.1 with
  | none => (some .itemNotFound, attr, s)
  | some none => (some (.invalidAttribute attrIndex), attr, s)
  | some (some get) =>
    match get s attr.1 attr.2 attrIndex with
    | (.success, value, s) => (none, (attr.1, value), s)
    | (status, value, s) => (some status, (attr.1, value), s)

/-- The check before the loop, and `while (loop < attr_count)`. -/
def getAttrs (guard : Option Status) (fns : AttrFns ι ν σ) (attrs : AttrArray ι ν) (s : σ)
    (fuel : Nat) : Option (GetOut ι ν σ) :=
  match guard with
  | some status => some ⟨some status, attrs.attrList, s, []⟩
  | none => loop 8 attrs.attrCount.toNat (getAttributeIn fns) fuel 0 attrs.attrList s

/-- `ctc_sai_oid_get_lchip` as a check. -/
def lchipGuard (known : Lchip → Bool) (oid : Oid) : Option Status :=
  if known oid.lchip then none else some .uninitialized

/-- The check of the type of an object id, where the chip is not looked up. -/
def typeGuard (type : ObjectType) (oid : Oid) : Option Status :=
  if oid.type = type.bits then none else some .invalidObjectId

/-! ## The get calls -/

section Calls

variable (known : Lchip → Bool)

/-- `ctc_sai_route_get_route_attr`. -/
def routeGetRouteAttr (fns : RouteEntry → AttrFns ι ν σ) (routeEntry : RouteEntry) :=
  getAttrs (lchipGuard known routeEntry.switchId) (fns routeEntry)

/-- `ctc_sai_neighbor_get_neighbor_attr`. -/
def neighborGetNeighborAttr (fns : NeighborEntry → AttrFns ι ν σ) (neighborEntry : NeighborEntry) :=
  getAttrs (lchipGuard known neighborEntry.switchId) (fns neighborEntry)

/-- `ctc_sai_next_hop_get_nh_attr`. -/
def nextHopGetNhAttr (fns : Oid → AttrFns ι ν σ) (nextHopId : Oid) :=
  getAttrs (lchipGuard known nextHopId) (fns nextHopId)

/-- `ctc_sai_next_hop_group_get_grp_attr`. -/
def nextHopGroupGetGrpAttr (fns : Oid → AttrFns ι ν σ) (nextHopGroupId : Oid) :=
  getAttrs (lchipGuard known nextHopGroupId) (fns nextHopGroupId)

/-- `ctc_sai_next_hop_group_get_member_attr`. -/
def nextHopGroupGetMemberAttr (fns : Oid → AttrFns ι ν σ) (nextHopGroupMemberId : Oid) :=
  getAttrs (lchipGuard known nextHopGroupMemberId) (fns nextHopGroupMemberId)

/-- `ctc_sai_router_interface_get_rif_attr`. -/
def routerInterfaceGetRifAttr (fns : Oid → AttrFns ι ν σ) (routerInterfaceId : Oid) :=
  getAttrs (lchipGuard known routerInterfaceId) (fns routerInterfaceId)

/-- `ctc_sai_lag_get_lag_attribute`. -/
def lagGetLagAttribute (fns : Oid → AttrFns ι ν σ) (lagId : Oid) :=
  getAttrs (lchipGuard known lagId) (fns lagId)

/-- `ctc_sai_lag_get_lag_member_attribute`. -/
def lagGetLagMemberAttribute (fns : Oid → AttrFns ι ν σ) (lagMemberId : Oid) :=
  getAttrs (lchipGuard known lagMemberId) (fns lagMemberId)

end Calls

/-- `ctc_sai_qos_map_get_map_attribute`. -/
def qosMapGetMapAttribute (fns : Oid → AttrFns ι ν σ) (qosMapId : Oid) :=
  getAttrs (typeGuard .qosMap qosMapId) (fns qosMapId)

/-- `ctc_sai_policer_get_policer_attribute`. -/
def policerGetPolicerAttribute (fns : Oid → AttrFns ι ν σ) (policerId : Oid) :=
  getAttrs (typeGuard .policer policerId) (fns policerId)

inductive OidGetCall where
  | nextHop | nextHopGroup | nextHopGroupMember | routerInterface | lag | lagMember
  | qosMap | policer
deriving DecidableEq, Repr

def OidGetCall.run (known : Lchip → Bool) :
    OidGetCall → (Oid → AttrFns ι ν σ) → Oid → AttrArray ι ν → σ → Nat → Option (GetOut ι ν σ)
  | nextHop => nextHopGetNhAttr known
  | nextHopGroup => nextHopGroupGetGrpAttr known
  | nextHopGroupMember => nextHopGroupGetMemberAttr known
  | routerInterface => routerInterfaceGetRifAttr known
  | lag => lagGetLagAttribute known
  | lagMember => lagGetLagMemberAttribute known
  | qosMap => qosMapGetMapAttribute
  | policer => policerGetPolicerAttribute

/-- The check each makes of its object id. -/
def OidGetCall.guard (known : Lchip → Bool) : OidGetCall → Oid → Option Status
  | nextHop | nextHopGroup | nextHopGroupMember | routerInterface | lag | lagMember =>
    lchipGuard known
  | qosMap => typeGuard .qosMap
  | policer => typeGuard .policer

/-! ## When the loop ends as it should -/

/-- A call ends, and has called the getter on the attributes 0, 1, 2, … each
once with its own index, up to the first error; refused, on none. -/
def GetsInOrder (guard : Option Status) (fns : AttrFns ι ν σ) (attrs : AttrArray ι ν) (s : σ)
    (run : Nat → Option (GetOut ι ν σ)) : Prop :=
  ∃ fuel, run fuel = some (match guard with
    | some status => ⟨some status, attrs.attrList, s, []⟩
    | none => sweep (getAttributeIn fns) 0 attrs.attrList s)

/-- The call is refused, or the count fits the index, or the getter fails on
one of the first 256 attributes. -/
def IndexSuffices (guard : Option Status) (fns : AttrFns ι ν σ) (attrs : AttrArray ι ν) (s : σ) :
    Prop :=
  guard.isSome ∨ attrs.attrCount.toNat ≤ 255 ∨
    (sweep (getAttributeIn fns) 0 (attrs.attrList.take 256) s).error.isSome

theorem getAttrs_inOrder (guard : Option Status) (fns : AttrFns ι ν σ) (attrs : AttrArray ι ν)
    (s : σ) :
    GetsInOrder guard fns attrs s (getAttrs guard fns attrs s) ↔
      IndexSuffices guard fns attrs s := by
  cases guard with
  | some status => exact iff_of_true ⟨0, rfl⟩ (.inl rfl)
  | none =>
    have hloop := @loop_eq_sweep_iff _ _ _ 8 (getAttributeIn fns) attrs.attrList s
    rw [attrs.length_eq] at hloop
    refine hloop.trans ?_
    constructor
    · rintro (h | h)
      · exact .inr (.inl (Nat.le_of_lt_succ h))
      · exact .inr (.inr h)
    · rintro (h | h | h)
      · cases h
      · exact .inl (Nat.lt_succ_of_le h)
      · exact .inr h

/-- Each get call ends, in order and at the first error, exactly when it is
refused, has at most 255 attributes, or fails on one of the first 256. -/
theorem getAttributes_inOrder (known : Lchip → Bool) (ι ν σ : Type) :
    (∀ (fns : RouteEntry → AttrFns ι ν σ) e attrs s,
      GetsInOrder (lchipGuard known e.switchId) (fns e) attrs s
          (routeGetRouteAttr known fns e attrs s) ↔
        IndexSuffices (lchipGuard known e.switchId) (fns e) attrs s) ∧
    (∀ (fns : NeighborEntry → AttrFns ι ν σ) e attrs s,
      GetsInOrder (lchipGuard known e.switchId) (fns e) attrs s
          (neighborGetNeighborAttr known fns e attrs s) ↔
        IndexSuffices (lchipGuard known e.switchId) (fns e) attrs s) ∧
    ∀ (call : OidGetCall) (fns : Oid → AttrFns ι ν σ) oid attrs s,
      GetsInOrder (call.guard known oid) (fns oid) attrs s (call.run known fns oid attrs s) ↔
        IndexSuffices (call.guard known oid) (fns oid) attrs s := by
  refine ⟨?_, ?_, ?_⟩
  · intro fns e attrs s
    exact getAttrs_inOrder _ (fns e) attrs s
  · intro fns e attrs s
    exact getAttrs_inOrder _ (fns e) attrs s
  · intro call fns oid attrs s
    cases call <;> exact getAttrs_inOrder _ (fns oid) attrs s

/-! ## A list that is too long -/

/-- The get functions of the next hops, which change nothing. -/
def nextHopFns {ch : Chip} (db : NextHopDb ch) (oid : Oid) :
    AttrFns NextHopAttrId NextHopValue Unit := fun id =>
  (nextHopAttrFnEntries db oid id).map fun entry => entry.map fun get _ id value attrIdx =>
    ((get id value attrIdx).1, (get id value attrIdx).2, ())

/-- The type of a next hop, asked for 256 times. -/
def typesOf256 : AttrArray NextHopAttrId NextHopValue where
  attrCount := 256
  attrList := List.replicate 256 (.type, .untouched)
  length_eq := List.length_replicate

theorem sweep_replicate {α ε : Type} {body : σ → α → Nat → Option ε × α × σ} {a : α} {s : σ}
    (h : ∀ i, ∃ b, body s a i = (none, b, s)) (n i : Nat) :
    (sweep body i (List.replicate n a) s).error = none := by
  induction n generalizing i with
  | zero => rfl
  | succ n ih =>
    obtain ⟨b, hb⟩ := h i
    rw [List.replicate_succ, sweep, hb]
    exact ih (i + 1)

/-- A chip with one IP next hop, made by its create call. -/
def NextHopDb.withIpHop : NextHopDb .small :=
  ((createNextHop (fun _ => Oid.null) .ok (.empty .small)
    [.type .ip, .ip (.ip4 0x0A000001), .routerInterfaceId Chip.portRif]).map (fun r => r.2.2)).getD
    (.empty .small)

/-- Asked for the type of a live next hop 256 times, the call does not
return. -/
theorem getAttributes_not_inOrder : ¬ ∀ (oid : Oid) (attrs : AttrArray NextHopAttrId NextHopValue),
      GetsInOrder (lchipGuard (fun _ => true) oid) (nextHopFns NextHopDb.withIpHop oid) attrs ()
        (nextHopGetNhAttr (fun _ => true) (nextHopFns NextHopDb.withIpHop) oid attrs ()) := by
  intro h
  obtain ⟨oid, hlive⟩ : ∃ oid, (NextHopDb.withIpHop.nextHops.lookup oid).isSome :=
    ⟨nextHopOid .small .ip 3, by decide⟩
  obtain ⟨nh, hnh⟩ := Option.isSome_iff_exists.mp hlive
  have htake : ∀ i, ∃ b, getAttributeIn (nextHopFns NextHopDb.withIpHop oid) ()
      (.type, .untouched) i = (none, b, ()) := by
    intro i
    refine ⟨(.type, .s32 (oid.subType.setWidth 32)), ?_⟩
    simp [getAttributeIn, nextHopFns, nextHopAttrFnEntries, nextHopGetAttr, hnh]
  rcases (getAttrs_inOrder _ _ _ _).mp (h oid typesOf256) with hrefused | hshort | herr
  · cases hrefused
  · revert hshort
    decide
  · have hsweep := sweep_replicate htake 256 0
    rw [typesOf256, List.take_of_length_le (List.length_replicate ▸ Nat.le_refl _), hsweep] at herr
    cases herr

end CtcSai
