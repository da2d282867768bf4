/-
# `NeighborRollback` — what a neighbor call leaves when it fails

Adding a next hop takes an ARP id and a NEXTHOP id, and three functions share the way
back.  The two theorems here say exactly when it leads back: for the next hop of one
record, under any answers of the SDK, and for the creation of a neighbor, at any state
of the table.
-/
import CtcSai.NeighborIds

namespace CtcSai

open Function IdPool KeyedTable Runs

variable {ch : Chip} {sdk : Sdk} {rif : Oid}
variable {w : NeighborCtx ch} {ri : RouterInterface} {f : IpFamily}

/-! ## The next hop of one record -/

/-- The ids that a record names are allocated. -/
structure IdsAllocated (w : NeighborCtx ch) : Prop where
  arp : w.p.arpId = 0 ∨ w.p.arpId ∈ w.arp.used
  nh : w.p.nhId = 0 ∨ w.p.nhId ∈ w.nexthop.used

/-- The pools are as before, and the record names allocated ids. -/
structure RolledBack (w w' : NeighborCtx ch) : Prop where
  arp : w'.arp.used = w.arp.used
  nexthop : w'.nexthop.used = w.nexthop.used
  named : IdsAllocated w'

variable (ch) in
/-- The SDK accepts the ARP entry of a record: the interface is there, the action is
supported, and the call succeeds. -/
def ArpAccepted (sdk : Sdk) (rif : Oid) (p : Neighbor)
    (call : Nat → NexthopMacParam → SdkCall) : Prop :=
  ∃ ri flags, ch.rif rif = some ri ∧ arpActionFlags p.action = some flags ∧
    sdk.rc (call p.arpId (nexthopMacParam sdk rif ri p flags)) = .none

/-- A failure is undone: nothing was taken yet, or it is one branch that undoes itself, or
the record has its ARP id and no NEXTHOP id is taken in vain. -/
def AddUndone (sdk : Sdk) (rif : Oid) (w : NeighborCtx ch) : Prop :=
  ch.rif rif = none ∨ isBridgeRif rif = true ∨ (w.p.arpId = 0 ∧ w.arp.alloc = none) ∨
    (w.p.arpId ≠ 0 ∧ (w.p.nhId ≠ 0 ∨ w.nexthop.alloc = none ∨
      ¬ ArpAccepted ch sdk rif w.p .nhUpdateNexthopMac))

theorem neighborAddArpEntry_success {w₁ : NeighborCtx ch} {isAdd : Bool}
    (h : neighborAllocArp w = some (isAdd, w₁)) :
    (neighborAddArpEntry sdk rif w).1 = .success ↔ ArpAccepted ch sdk rif w₁.p
      (if isAdd then .nhAddNexthopMac else .nhUpdateNexthopMac) := by
  have hcall : ∀ param, (if isAdd then SdkCall.nhAddNexthopMac w₁.p.arpId param
      else SdkCall.nhUpdateNexthopMac w₁.p.arpId param) =
      (if isAdd then SdkCall.nhAddNexthopMac else SdkCall.nhUpdateNexthopMac) w₁.p.arpId param := by
    intro param
    cases isAdd <;> rfl
  rw [neighborAddArpEntry, h]
  dsimp only
  cases hr : ch.rif rif with
  | none =>
    refine iff_of_false nofun ?_
    rintro ⟨ri, -, hri, -⟩
    rw [hr] at hri
    cases hri
  | some ri =>
    cases hf : arpActionFlags w₁.p.action with
    | none =>
      refine iff_of_false nofun ?_
      rintro ⟨-, flags, -, hflags, -⟩
      rw [hf] at hflags
      cases hflags
    | some flags =>
      dsimp only
      rw [hcall]
      generalize hcode : sdk.rc _ = code
      have haccepted : ArpAccepted ch sdk rif w₁.p
          (if isAdd then .nhAddNexthopMac else .nhUpdateNexthopMac) ↔ code = .none := by
        constructor
        · rintro ⟨ri', flags', hri, hflags, hok⟩
          rw [hr] at hri
          rw [hf] at hflags
          cases hri
          cases hflags
          rw [← hcode, hok]
        · intro hok
          exact ⟨ri, flags, hr, hf, hcode.trans hok⟩
      rw [haccepted]
      by_cases hok : code = .none
      · rw [if_pos (mappingErrorCtc_eq_success.mpr hok)]
        exact iff_of_true rfl hok
      · have hno : mappingErrorCtc code ≠ .success := fun h => hok (mappingErrorCtc_eq_success.mp h)
        rw [if_neg hno]
        exact iff_of_false hno hok

theorem neighborAddMiscNexthop_rolledBack (hids : IdsAllocated w)
    (hfail : (neighborAddMiscNexthop sdk ri w f).1 ≠ .success) :
    RolledBack w (neighborAddMiscNexthop sdk ri w f).2 := by
  have hadd := neighborAddMiscNexthop_cases sdk ri w f
  obtain ⟨hp, hused⟩ := hadd.undone hfail
  have harp := congrArg Pool.used hadd.arp
  refine ⟨harp, hused, ?_, ?_⟩
  · rw [hp, harp]
    exact hids.arp
  · rw [hp, hused]
    exact hids.nh

/-- An ARP id that was taken for the record is not given back: either the record goes on
naming it, or the pool goes without it. -/
theorem neighborAddNexthop_newArp (hr : ch.rif rif = some ri) (hb : isBridgeRif rif = false)
    (h0 : w.p.arpId = 0) (halloc : w.arp.alloc ≠ none)
    (hfail : (neighborAddNexthop sdk rif w f).1 ≠ .success) :
    ¬ RolledBack w (neighborAddNexthop sdk rif w f).2 := by
  obtain ⟨⟨i, q⟩, hq⟩ := Option.ne_none_iff_exists'.mp halloc
  obtain ⟨hfree, -, -, hused, -⟩ := Pool.alloc_some hq
  have hi : i ≠ 0 := by
    have hmem : i ∈ q.used := hused ▸ Finset.mem_insert_self i _
    have hpos := ch.arp_pos hmem
    omega
  have hal : neighborAllocArp w =
      some (true, { w with p := { w.p with arpId := i }, arp := q }) := by
    rw [neighborAllocArp, if_pos h0, hq]
    rfl
  simp only [neighborAddNexthop, hr, hb, Bool.false_eq_true, if_false] at hfail ⊢
  obtain ⟨g, he | ⟨status, hne, he⟩⟩ := neighborAddArpEntry_cases sdk rif hal
  · -- the entry came in, the next hop did not
    rw [he] at hfail ⊢
    dsimp only at hfail ⊢
    generalize hw₁ : ({ w with p := { w.p with arpId := i, gport := g }, arp := q } :
      NeighborCtx ch) = w₁ at hfail ⊢
    have harp := (neighborAddIpucNexthop_cases sdk ri w₁).arp
    intro hback
    refine hfree (?_ : i ∈ w.arp.used)
    split at hback
    · next heq => rw [heq] at hfail; exact absurd rfl hfail
    next status w₂ hne heq =>
    rw [heq] at harp
    rw [← hback.arp, if_neg (by decide), harp, ← hw₁, hused]
    exact Finset.mem_insert_self i _
  · rw [he] at hfail ⊢
    split
    · next heq => cases heq; exact absurd rfl hne
    next heq =>
    cases heq
    intro hback
    rcases hback.named.arp with hzero | hin
    · exact hi hzero
    · exact Finset.notMem_erase i _ hin

theorem NexthopAdd.failed {r : Status × NeighborCtx ch} (h : NexthopAdd w true r)
    (hfail : r.1 ≠ .success) : r.2.p = w.p ∧
      (r.2.nexthop.used = w.nexthop.used ↔ w.p.nhId ≠ 0 ∨ w.nexthop.alloc = none) := by
  cases h with
  | full h0 hal => exact ⟨rfl, iff_of_true rfl (.inr hal)⟩
  | added => exact absurd rfl hfail
  | @refused i q _ h0 hal =>
    obtain ⟨hfree, -, -, hused, -⟩ := Pool.alloc_some hal
    -- the id that goes back is zero
    have hkept : i ∈ (q.free 0).used := by
      rw [Pool.used_free, Finset.erase_eq_of_notMem (zero_notMem_nexthop q), hused]
      exact Finset.mem_insert_self i _
    refine ⟨rfl, iff_of_false (fun he => hfree (he ▸ hkept)) ?_⟩
    rintro (h | h)
    · exact h h0
    · cases hal.symm.trans h
  | updated h0 => exact ⟨rfl, iff_of_true rfl (.inl h0)⟩

theorem neighborAddNexthop_heldArp (hr : ch.rif rif = some ri) (hb : isBridgeRif rif = false)
    (h0 : w.p.arpId ≠ 0) (hids : IdsAllocated w)
    (hfail : (neighborAddNexthop sdk rif w f).1 ≠ .success) :
    RolledBack w (neighborAddNexthop sdk rif w f).2 ↔ w.p.nhId ≠ 0 ∨ w.nexthop.alloc = none ∨
      ¬ ArpAccepted ch sdk rif w.p .nhUpdateNexthopMac := by
  have hal : neighborAllocArp w = some (false, w) := if_neg h0
  have haccepted : (neighborAddArpEntry sdk rif w).1 = .success ↔
      ArpAccepted ch sdk rif w.p .nhUpdateNexthopMac := neighborAddArpEntry_success hal
  rw [← haccepted]
  simp only [neighborAddNexthop, hr, hb, Bool.false_eq_true, if_false] at hfail ⊢
  obtain ⟨g, he | ⟨status, hne, he⟩⟩ := neighborAddArpEntry_cases sdk rif hal
  · rw [he] at hfail ⊢
    dsimp only at hfail ⊢
    have hip : (neighborAddIpucNexthop sdk ri { w with p := { w.p with gport := g } }).1 ≠
        .success := by
      intro hok
      generalize neighborAddIpucNexthop sdk ri { w with p := { w.p with gport := g } } = r at *
      obtain ⟨status, w₂⟩ := r
      cases hok
      exact hfail rfl
    obtain ⟨hp, hused⟩ := (neighborAddIpucNexthop_cases sdk ri _).failed hip
    have harp := (neighborAddIpucNexthop_cases sdk ri { w with p := { w.p with gport := g } }).arp
    generalize neighborAddIpucNexthop sdk ri { w with p := { w.p with gport := g } } = r at *
    obtain ⟨status, w₂⟩ := r
    have hsame : RolledBack w w₂ ↔ w₂.nexthop.used = w.nexthop.used := by
      refine ⟨fun h => h.nexthop, fun h => ⟨by rw [harp], h, ⟨?_, ?_⟩⟩⟩
      · rw [hp, harp]
        exact hids.arp
      · rw [hp, h]
        exact hids.nh
    split
    · next heq => exact absurd (congrArg Prod.fst heq) hip
    next heq =>
    cases heq
    simp only [Bool.false_eq_true, if_false, not_true_eq_false, or_false]
    exact hsame.trans hused
  · rw [he]
    split
    · next heq => exact absurd (congrArg Prod.fst heq) hne
    · next heq =>
      cases heq
      refine iff_of_true ⟨rfl, rfl, ⟨hids.arp, hids.nh⟩⟩ (.inr (.inr hne))

/-- When adding the next hop of a record returns an error, both pools are as before and
the record names allocated ids, exactly in the cases of `AddUndone`. -/
theorem neighborAddNexthop_rolledBack_iff {w : NeighborCtx ch} {f : IpFamily}
    (hids : IdsAllocated w) (hfail : (neighborAddNexthop sdk rif w f).1 ≠ .success) :
    RolledBack w (neighborAddNexthop sdk rif w f).2 ↔ AddUndone sdk rif w := by
  rw [AddUndone]
  cases hr : ch.rif rif with
  | none =>
    rw [neighborAddNexthop, hr]
    exact iff_of_true ⟨rfl, rfl, hids⟩ (.inl rfl)
  | some ri =>
    cases hb : isBridgeRif rif with
    | true =>
      have hbranch : neighborAddNexthop sdk rif w f = neighborAddMiscNexthop sdk ri w f := by
        rw [neighborAddNexthop, hr]
        exact if_pos hb
      rw [hbranch] at hfail ⊢
      exact iff_of_true (neighborAddMiscNexthop_rolledBack hids hfail) (.inr (.inl rfl))
    | false =>
      simp only [reduceCtorEq, Bool.false_eq_true, false_or]
      by_cases h0 : w.p.arpId = 0
      · rw [and_iff_right h0, or_iff_left (fun h => h.1 h0)]
        by_cases halloc : w.arp.alloc = none
        · refine iff_of_true ?_ halloc
          have harp : neighborAddArpEntry sdk rif w = (.insufficientResources, false, w) := by
            rw [neighborAddArpEntry, neighborAllocArp, if_pos h0, halloc]
            rfl
          simp only [neighborAddNexthop, hr, hb, Bool.false_eq_true, if_false, harp]
          exact ⟨rfl, rfl, hids⟩
        · exact iff_of_false (neighborAddNexthop_newArp hr hb h0 halloc hfail) halloc
      · rw [and_iff_right h0, or_iff_right (fun h => h0 h.1)]
        exact neighborAddNexthop_heldArp hr hb h0 hids hfail

/-- A record of the small chip without ids. -/
def freshNeighbor (action : PacketAction) : NeighborCtx .small :=
  ⟨{ Neighbor.new false with action := action }, .empty _, .empty _⟩

/-- The SDK that refuses every IP next hop. -/
def noIpuc : Sdk where
  rc c := match c with
    | .nhAddIpuc _ _ => .noResource
    | _ => .none
  mem _ := true
  l2GetFdbEntry _ _ := none
  bridgePortInfo _ _ := none

/-- On a bridge interface a refused next hop leaves nothing. -/
theorem neighborAddNexthop_rolledBack_bridge :
    RolledBack (freshNeighbor .forward) (neighborAddNexthop { noIpuc with rc _ := .noResource }
      Chip.bridgeRif (freshNeighbor .forward) .ipv4).2 :=
  (neighborAddNexthop_rolledBack_iff ⟨.inl rfl, .inl rfl⟩ (by decide)).mpr (.inr (.inl rfl))

/-- With an action that is not supported a record names the ARP id that was given back;
and with a refused next hop both ids stay in use. -/
theorem neighborAddNexthop_not_rolledBack : (∃ w : NeighborCtx .small, IdsAllocated w ∧
      (neighborAddNexthop .ok Chip.portRif w .ipv4).1 = .notSupported ∧
      (neighborAddNexthop .ok Chip.portRif w .ipv4).2.p.arpId = 1 ∧
        1 ∉ (neighborAddNexthop .ok Chip.portRif w .ipv4).2.arp.used) ∧
    ∃ w : NeighborCtx .small, IdsAllocated w ∧
      (neighborAddNexthop noIpuc Chip.portRif w .ipv4).1 ≠ .success ∧
      w.arp.used = ∅ ∧ 1 ∈ (neighborAddNexthop noIpuc Chip.portRif w .ipv4).2.arp.used ∧
        w.nexthop.used = ∅ ∧ 3 ∈ (neighborAddNexthop noIpuc Chip.portRif w .ipv4).2.nexthop.used :=
  ⟨⟨freshNeighbor .log, ⟨.inl rfl, .inl rfl⟩, by decide, by decide, by decide⟩,
    freshNeighbor .forward, ⟨.inl rfl, .inl rfl⟩, by decide, rfl, by decide, rfl, by decide⟩

/-! ## Creating a neighbor -/

/-- The records, the pools and the counters are the same. -/
structure SameNeighbors (db db' : NeighborDb ch) : Prop where
  record : ∀ k, db'.record k = db.record k
  arp : db'.arp.used = db.arp.used
  nexthop : db'.nexthop.used = db.nexthop.used
  cnt : db'.neighborCnt = db.neighborCnt

/-- A failing `create` is undone: a neighbor is there already; or there is no record, and
when the ARP entry of a new one comes in, then so does its IP next hop, and the SDK takes
both out again. -/
def CreateUndone (sdk : Sdk) (db : NeighborDb ch) (rif : Oid) (ip : IpAddress)
    (attrs : List NeighborAttr) : Prop :=
  match db.record (neighborKey rif ip) with
  | some p => p.neighborExists = true
  | none =>
    sdk.mem .neighbor = true → sdk.mem .entryNode = true → isBridgeRif rif = false →
    ∀ mac ri arpId arp flags, findAttribInList NeighborAttr.dstMacAddress? attrs = some mac →
      ch.rif rif = some ri → db.arp.alloc = some (arpId, arp) →
      arpActionFlags (createAction attrs) = some flags →
      let p := { createNeighborFill (Neighbor.new false) mac attrs with arpId := arpId }
      let param := nexthopMacParam sdk rif ri p flags
      sdk.rc (.nhAddNexthopMac arpId param) = .none →
        ∃ nhId nexthop, db.nexthop.alloc = some (nhId, nexthop) ∧
          sdk.rc (.nhAddIpuc nhId (ipNhParam ch ri { p with gport := param.gport })) = .none ∧
          sdk.rc (.nhRemoveIpuc nhId) = .none ∧ sdk.rc (.nhRemoveNexthopMac arpId) = .none

section Create

variable {db : NeighborDb ch} {ip : IpAddress} {attrs : List NeighborAttr}
variable {q p : Neighbor} {w : NeighborCtx ch} {mac : Mac}

/-- A record that was not there before the call is dropped: what remains is the pools. -/
theorem sameNeighbors_drop {k : NeighborKey} (hnone : db.record k = none)
    (hex : w.p.neighborExists = true) (href : w.p.refCnt = 0) :
    SameNeighbors db (neighborRemoveDb
        (({ db with table := db.table.insert k q } : NeighborDb ch).put k w) k false).2 ↔
      w.arp.used = db.arp.used ∧ w.nexthop.used = db.nexthop.used := by
  have herase := @neighborRemoveDb_erase _ _ _ _ false
    (lookup_put ({ db with table := db.table.insert k q } : NeighborDb ch) k w)
    (by rw [hex]; rfl) (by rw [href]; exact Nat.zero_le 1)
  rw [herase]
  constructor
  · intro h
    exact ⟨h.arp, h.nexthop⟩
  · rintro ⟨harp, hnh⟩
    refine ⟨fun a => ?_, harp, hnh, rfl⟩
    show Table.get (((db.table.insert k q).insert k w.p).erase k) a = _
    rw [Table.get_erase, Table.get_insert, Table.get_insert, update_idem, update_idem]
    by_cases ha : a = k
    · rw [ha, update_self, hnone]
    · rw [update_of_ne ha]
      rfl

theorem dropRef_ne (href : q.refCnt = p.refCnt) : dropRef q false ≠ some p := by
  rw [dropRef]
  split
  · nofun
  next hlt =>
  intro he
  have hcnt := congrArg Neighbor.refCnt (Option.some.inj he)
  dsimp only at hcnt
  omega

theorem not_sameNeighbors_drop {k : NeighborKey} (hp : db.record k = some p) {m : NeighborDb ch}
    (hex : w.p.neighborExists = true) (href : w.p.refCnt = p.refCnt) :
    ¬ SameNeighbors db (neighborRemoveDb (m.put k w) k false).2 := by
  intro h
  have hself : (m.put k w).record k = some w.p := lookup_put m k w
  have hput : Touched (m.put k w) (m.put k w) k (some w.p) := by
    rw [← hself]
    exact ⟨(update_eq_self k _).symm, .refl _ _⟩
  have hdrop := (neighborRemoveDb_touched false hput (by rw [hex]; rfl)).1.record
  have hk := congrFun hdrop k
  rw [h.record, hp, update_self] at hk
  exact dropRef_ne href hk.symm

/-- `create` on a record that only next hops use: an error changes the record. -/
theorem createNeighbor_shared_changes (hp : db.record (neighborKey rif ip) = some p)
    (hex : p.neighborExists = false) :
    ¬ SameNeighbors db (createNeighbor sdk db rif ip attrs).2 := by
  have hbuild : neighborBuildDb sdk db (neighborKey rif ip) false = (.success,
      createBase (some p), db.put (neighborKey rif ip) (db.ctx (createBase (some p)))) := by
    rcases neighborBuildDb_create_any sdk db (neighborKey rif ip) with ⟨status, q, hne, he⟩ | ⟨-, he⟩
    · rw [neighborBuildDb, ← NeighborDb.record_eq, hp] at he
      simp only [hex, Bool.false_and, Bool.false_eq_true, if_false] at he
      exact absurd (congrArg Prod.fst he).symm hne
    · rw [he, hp]
  rw [createNeighbor, hbuild]
  cases hmac : findAttribInList NeighborAttr.dstMacAddress? attrs with
  | none => exact not_sameNeighbors_drop hp rfl rfl
  | some mac =>
    dsimp only
    generalize hw₀ : (db.put (neighborKey rif ip) (db.ctx (createBase (some p)))).ctx
      (createNeighborFill (createBase (some p)) mac attrs) = w₀
    have hstart : w₀.p.neighborExists = true ∧ w₀.p.refCnt = p.refCnt := by
      rw [← hw₀]
      exact ⟨rfl, rfl⟩
    have hstep := (neighborAddNexthop_step sdk rif w₀ ip.addrFamily).1
    generalize neighborAddNexthop sdk rif w₀ ip.addrFamily = r at hstep ⊢
    obtain ⟨status, w⟩ := r
    have hex' : w.p.neighborExists = true := hstep.exists_.trans hstart.1
    have href : w.p.refCnt = p.refCnt := hstep.refCnt.trans hstart.2
    split
    · next heq =>
      cases heq
      rw [createNeighborFinish]
      split
      · have hgone := neighborRemoveNexthop_step sdk rif
          { w with p := { w.p with noHostRoute := createNoHostRoute attrs w.p } }
        exact not_sameNeighbors_drop hp (hgone.exists_.trans hex') (hgone.refCnt.trans href)
      intro h
      have hk := h.record (neighborKey rif ip)
      rw [hp] at hk
      have hput := congrFun (record_put (db.put (neighborKey rif ip)
        (db.ctx (createBase (some p)))) (neighborKey rif ip) { w with p := { w.p with
          noHostRoute := createNoHostRoute attrs w.p, refCnt := w.p.refCnt + 1 } })
        (neighborKey rif ip)
      rw [update_self] at hput
      have hcnt := congrArg Neighbor.refCnt (Option.some.inj (hput.symm.trans hk))
      dsimp only at hcnt
      omega
    · next heq =>
      cases heq
      exact not_sameNeighbors_drop hp hex' href

/-- A new record whose ARP entry is accepted: what becomes of its next hop. -/
theorem neighborAddNexthop_arpIn {ri : RouterInterface} {w : NeighborCtx ch} {f : IpFamily}
    (hr : ch.rif rif = some ri) (hb : isBridgeRif rif = false) (harp0 : w.p.arpId = 0)
    (hnh0 : w.p.nhId = 0) {arpId : Nat} {arp : Pool ch.arp} {flags : Bool × Bool}
    {param : NexthopMacParam} (halloc : w.arp.alloc = some (arpId, arp))
    (hflags : arpActionFlags w.p.action = some flags)
    (hparam : nexthopMacParam sdk rif ri { w.p with arpId := arpId } flags = param)
    (hrc : sdk.rc (.nhAddNexthopMac arpId param) = .none) {q : Neighbor}
    (hq : q = { w.p with arpId := arpId, gport := param.gport }) :
    neighborAddNexthop sdk rif w f = match w.nexthop.alloc with
      | none => (.insufficientResources, ⟨q, arp, w.nexthop⟩)
      | some (nhId, nexthop) =>
        if sdk.rc (.nhAddIpuc nhId (ipNhParam ch ri q)) = .none then
          (.success, ⟨{ q with nhId := nhId }, arp, nexthop⟩)
        else (mappingErrorCtc (sdk.rc (.nhAddIpuc nhId (ipNhParam ch ri q))),
          ⟨q, arp, nexthop.free 0⟩) := by
  have hal : neighborAllocArp w =
      some (true, { w with p := { w.p with arpId := arpId }, arp := arp }) := by
    rw [neighborAllocArp, if_pos harp0, halloc]
    rfl
  have harp : neighborAddArpEntry sdk rif w = (.success, false, ⟨q, arp, w.nexthop⟩) := by
    simp only [neighborAddArpEntry, hal, hr, hflags, hparam, if_true, hrc, hq]
    rfl
  have hnh : q.nhId = 0 := by rw [hq, ← hnh0]
  simp only [neighborAddNexthop, hr, hb, Bool.false_eq_true, if_false, harp,
    neighborAddIpucNexthop, hnh, if_true]
  cases w.nexthop.alloc with
  | none => rfl
  | some r =>
    obtain ⟨nhId, nexthop⟩ := r
    dsimp only
    generalize sdk.rc (.nhAddIpuc nhId (ipNhParam ch ri q)) = code
    cases code <;> rfl

theorem neighborBuildDb_new (hnone : db.record (neighborKey rif ip) = none) :
    neighborBuildDb sdk db (neighborKey rif ip) false =
      if sdk.mem .neighbor = true ∧ sdk.mem .entryNode = true then (.success, Neighbor.new false,
        { db with table := db.table.insert (neighborKey rif ip) (Neighbor.new false) })
      else (.noMemory, Neighbor.new false, db) := by
  rw [NeighborDb.record_eq] at hnone
  rw [neighborBuildDb, hnone]
  dsimp only [neighborPropertyAdd]
  cases sdk.mem .neighbor <;> cases sdk.mem .entryNode <;> rfl

/-- `create` of a new record once its next hop is there: an error comes from the host
route, and is undone when both ids come back. -/
theorem createNeighborFinish_undone {w₁ : NeighborCtx ch}
    (hnone : db.record (neighborKey rif ip) = none) (hex : w.p.neighborExists = true)
    (href : w.p.refCnt = 0) (hflag : w.p.noHostRoute = false)
    (hw₁ : w₁ = { w with p := { w.p with noHostRoute := createNoHostRoute attrs w.p } })
    (hfail : (createNeighborFinish sdk { db with table := db.table.insert (neighborKey rif ip) q }
      rif ip attrs w).1 ≠ .success) :
    SameNeighbors db (createNeighborFinish sdk
        { db with table := db.table.insert (neighborKey rif ip) q } rif ip attrs w).2 ↔
      (neighborRemoveNexthop sdk rif w₁).2.arp.used = db.arp.used ∧
        (neighborRemoveNexthop sdk rif w₁).2.nexthop.used = db.nexthop.used := by
  rw [createNeighborFinish] at hfail ⊢
  split at hfail
  · next hroute =>
    rw [if_pos hroute]
    have hstep := neighborRemoveNexthop_step sdk rif w₁
    rw [hw₁] at hstep ⊢
    exact sameNeighbors_drop hnone (hstep.exists_.trans hex) (hstep.refCnt.trans href)
  next hroute =>
  -- without a host route the flag was given, and the search succeeded
  exfalso
  refine hfail ?_
  cases hno : createNoHostRoute attrs w.p with
  | false =>
    by_contra hne
    rw [hno] at hroute
    exact hroute ⟨rfl, hne⟩
  | true =>
    rw [createNoHostRoute, hflag] at hno
    rw [createHostRoute]
    cases hfind : findAttribInList NeighborAttr.noHostRoute? attrs with
    | none => rw [hfind] at hno; cases hno
    | some b => rfl

/-- Removing the next hop of a record with both ids gives them back exactly when the SDK
takes out the next hop and the ARP entry. -/
theorem neighborRemoveNexthop_used {w : NeighborCtx ch} (hr : (ch.rif rif).isSome)
    (hb : isBridgeRif rif = false) {arp : Finset Nat} {nexthop : Finset Nat}
    (harp : w.p.arpId ∉ arp) (hnh : w.p.nhId ∉ nexthop) (hnh0 : w.p.nhId ≠ 0)
    (harpUsed : w.arp.used = insert w.p.arpId arp)
    (hnhUsed : w.nexthop.used = insert w.p.nhId nexthop) :
    (neighborRemoveNexthop sdk rif w).2.arp.used = arp ∧
        (neighborRemoveNexthop sdk rif w).2.nexthop.used = nexthop ↔
      sdk.rc (.nhRemoveIpuc w.p.nhId) = .none ∧ sdk.rc (.nhRemoveNexthopMac w.p.arpId) = .none := by
  obtain ⟨ri, hri⟩ := Option.isSome_iff_exists.mp hr
  have hip : (neighborRemoveIpucNexthop sdk w).2.nexthop.used = nexthop ↔
      sdk.rc (.nhRemoveIpuc w.p.nhId) = .none := by
    rw [neighborRemoveIpucNexthop, if_neg hnh0]
    by_cases hok : sdk.rc (.nhRemoveIpuc w.p.nhId) = .none
    · rw [hok]
      refine iff_of_true ?_ rfl
      show (w.nexthop.free w.p.nhId).used = nexthop
      rw [Pool.used_free, hnhUsed, Finset.erase_insert hnh]
    rw [if_neg fun h => hok (mappingErrorCtc_eq_success.mp h)]
    refine iff_of_false (fun he => hnh ?_) hok
    rw [← he]
    rw [hnhUsed]
    exact Finset.mem_insert_self ..
  obtain ⟨-, harpId, hpool⟩ := neighborRemoveIpucNexthop_go sdk w
  simp only [neighborRemoveNexthop, hri, hb, Bool.false_eq_true, if_false]
  generalize (neighborRemoveIpucNexthop sdk w).2 = mid at hip harpId hpool
  have hstep := @neighborRemoveArpEntry_step ch sdk mid
  rw [hstep.nexthop, hip, and_comm]
  refine and_congr_right fun _ => ?_
  rw [neighborRemoveArpEntry, harpId]
  by_cases hok : sdk.rc (.nhRemoveNexthopMac w.p.arpId) = .none
  · rw [hok]
    refine iff_of_true ?_ rfl
    show (mid.arp.free w.p.arpId).used = arp
    rw [Pool.used_free, hpool, harpUsed, Finset.erase_insert harp]
  rw [if_neg fun h => hok (mappingErrorCtc_eq_success.mp h)]
  refine iff_of_false (fun he => harp ?_) hok
  rw [← he]
  rw [hpool, harpUsed]
  exact Finset.mem_insert_self ..

theorem createNeighbor_new (hnone : db.record (neighborKey rif ip) = none)
    (hmem : sdk.mem .neighbor = true ∧ sdk.mem .entryNode = true)
    (hmac : findAttribInList NeighborAttr.dstMacAddress? attrs = some mac) :
    createNeighbor sdk db rif ip attrs =
      let m : NeighborDb ch :=
        { db with table := db.table.insert (neighborKey rif ip) (Neighbor.new false) }
      match neighborAddNexthop sdk rif
          ⟨createNeighborFill (Neighbor.new false) mac attrs, db.arp, db.nexthop⟩ ip.addrFamily with
      | (.success, w) => createNeighborFinish sdk m rif ip attrs w
      | (status, w) => createNeighborError1 status (m.put (neighborKey rif ip) w)
          (neighborKey rif ip) := by
  rw [createNeighbor, neighborBuildDb_new hnone, if_pos hmem, hmac]
  rfl

/-- Adding the next hop of the new record fails: what remains is the pools. -/
theorem createNeighbor_addFailed (hnone : db.record (neighborKey rif ip) = none)
    (hmem : sdk.mem .neighbor = true ∧ sdk.mem .entryNode = true)
    (hmac : findAttribInList NeighborAttr.dstMacAddress? attrs = some mac) {st : Status}
    (hadd : neighborAddNexthop sdk rif
      ⟨createNeighborFill (Neighbor.new false) mac attrs, db.arp, db.nexthop⟩ ip.addrFamily =
        (st, w)) (hst : st ≠ .success) :
    SameNeighbors db (createNeighbor sdk db rif ip attrs).2 ↔
      w.arp.used = db.arp.used ∧ w.nexthop.used = db.nexthop.used := by
  have hstep := (neighborAddNexthop_step sdk rif
    (⟨createNeighborFill (Neighbor.new false) mac attrs, db.arp, db.nexthop⟩ : NeighborCtx ch)
    ip.addrFamily).1
  rw [hadd] at hstep
  rw [createNeighbor_new hnone hmem hmac, hadd]
  split
  · next heq => exact absurd (congrArg Prod.fst heq) hst
  · next heq =>
    cases heq
    exact sameNeighbors_drop hnone hstep.exists_ hstep.refCnt

/-- The host route of the new record is refused: what remains is the pools. -/
theorem createNeighbor_routeFailed (hnone : db.record (neighborKey rif ip) = none)
    (hmem : sdk.mem .neighbor = true ∧ sdk.mem .entryNode = true)
    (hmac : findAttribInList NeighborAttr.dstMacAddress? attrs = some mac) {w₁ : NeighborCtx ch}
    (hadd : neighborAddNexthop sdk rif
      ⟨createNeighborFill (Neighbor.new false) mac attrs, db.arp, db.nexthop⟩ ip.addrFamily =
        (.success, w)) (hflag : w.p.noHostRoute = false)
    (hw₁ : w₁ = { w with p := { w.p with noHostRoute := createNoHostRoute attrs w.p } })
    (hfail : (createNeighbor sdk db rif ip attrs).1 ≠ .success) :
    SameNeighbors db (createNeighbor sdk db rif ip attrs).2 ↔
      (neighborRemoveNexthop sdk rif w₁).2.arp.used = db.arp.used ∧
        (neighborRemoveNexthop sdk rif w₁).2.nexthop.used = db.nexthop.used := by
  have hstep := (neighborAddNexthop_step sdk rif
    (⟨createNeighborFill (Neighbor.new false) mac attrs, db.arp, db.nexthop⟩ : NeighborCtx ch)
    ip.addrFamily).1
  rw [hadd] at hstep
  rw [createNeighbor_new hnone hmem hmac, hadd] at hfail ⊢
  exact createNeighborFinish_undone hnone hstep.exists_ hstep.refCnt hflag hw₁ hfail

/-- On a bridge interface a record gets a NEXTHOP id only. -/
theorem neighborAddNexthop_bridge_success {w' : NeighborCtx ch} {f : IpFamily}
    (hb : isBridgeRif rif = true) (h0 : w.p.nhId = 0)
    (h : neighborAddNexthop sdk rif w f = (.success, w')) :
    (ch.rif rif).isSome ∧ ∃ nhId nexthop, w.nexthop.alloc = some (nhId, nexthop) ∧
      w' = ⟨{ w.p with nhId := nhId }, w.arp, nexthop⟩ := by
  rw [neighborAddNexthop] at h
  split at h
  · cases h
  next ri hri =>
  rw [if_pos hb, neighborAddMiscNexthop] at h
  dsimp only at h
  rw [if_pos h0] at h
  refine ⟨by rw [hri]; rfl, ?_⟩
  split at h
  · cases h
  next nhId nexthop halloc =>
  split at h
  · cases h
    exact ⟨nhId, nexthop, halloc, rfl⟩
  · next hne => exact absurd (congrArg Prod.fst h) hne

theorem createNeighbor_bridge_undone (hnone : db.record (neighborKey rif ip) = none)
    (hmem : sdk.mem .neighbor = true ∧ sdk.mem .entryNode = true)
    (hmac : findAttribInList NeighborAttr.dstMacAddress? attrs = some mac)
    (hb : isBridgeRif rif = true) (hfail : (createNeighbor sdk db rif ip attrs).1 ≠ .success) :
    SameNeighbors db (createNeighbor sdk db rif ip attrs).2 := by
  cases hadd : neighborAddNexthop sdk rif
    (⟨createNeighborFill (Neighbor.new false) mac attrs, db.arp, db.nexthop⟩ : NeighborCtx ch)
    ip.addrFamily with
  | mk st w =>
    by_cases hst : st = .success
    · subst hst
      obtain ⟨hr, nhId, nexthop, halloc, hw⟩ := neighborAddNexthop_bridge_success hb rfl hadd
      obtain ⟨hfree, -, -, hused, -⟩ := Pool.alloc_some halloc
      obtain ⟨ri, hri⟩ := Option.isSome_iff_exists.mp hr
      rw [createNeighbor_routeFailed hnone hmem hmac hadd (by rw [hw]; rfl) rfl hfail, hw]
      simp only [neighborRemoveNexthop, hri, hb, if_true, true_and]
      rw [Pool.used_free, hused, Finset.erase_insert hfree]
    have hback := @neighborAddNexthop_failed ch sdk rif
      ⟨createNeighborFill (Neighbor.new false) mac attrs, db.arp, db.nexthop⟩ ip.addrFamily
      (by rw [hadd]; exact hst) (.inl hb) rfl
    rw [hadd] at hback
    exact (createNeighbor_addFailed hnone hmem hmac hadd hst).mpr ⟨hback.2, hback.1⟩

/-- On another interface, when the ARP entry of the new record does not come in. -/
theorem createNeighbor_noArp_undone (hnone : db.record (neighborKey rif ip) = none)
    (hmem : sdk.mem .neighbor = true ∧ sdk.mem .entryNode = true)
    (hmac : findAttribInList NeighborAttr.dstMacAddress? attrs = some mac)
    (harp : (neighborAddArpEntry sdk rif
      (⟨createNeighborFill (Neighbor.new false) mac attrs, db.arp, db.nexthop⟩ :
        NeighborCtx ch)).1 ≠ .success) (hb : isBridgeRif rif = false) :
    SameNeighbors db (createNeighbor sdk db rif ip attrs).2 := by
  cases hadd : neighborAddNexthop sdk rif
    (⟨createNeighborFill (Neighbor.new false) mac attrs, db.arp, db.nexthop⟩ : NeighborCtx ch)
    ip.addrFamily with
  | mk st w =>
    have hst : st ≠ .success := by
      rintro rfl
      rw [neighborAddNexthop] at hadd
      split at hadd
      · cases hadd
      rw [if_neg (by rw [hb]; decide)] at hadd
      split at hadd
      · next heq => exact harp (congrArg Prod.fst heq)
      · next hne _ => exact hne (congrArg Prod.fst hadd)
    have hback := @neighborAddNexthop_failed ch sdk rif
      ⟨createNeighborFill (Neighbor.new false) mac attrs, db.arp, db.nexthop⟩ ip.addrFamily
      (by rw [hadd]; exact hst) (.inr harp) rfl
    rw [hadd] at hback
    exact (createNeighbor_addFailed hnone hmem hmac hadd hst).mpr ⟨hback.2, hback.1⟩

/-- When it comes in: the failure is undone exactly when the next hop came in and both can
be taken out again. -/
theorem createNeighbor_arpIn_undone {ri : RouterInterface} {arpId : Nat} {arp : Pool ch.arp}
    {flags : Bool × Bool} {param : NexthopMacParam} (hnone : db.record (neighborKey rif ip) = none)
    (hmem : sdk.mem .neighbor = true ∧ sdk.mem .entryNode = true)
    (hmac : findAttribInList NeighborAttr.dstMacAddress? attrs = some mac)
    (hb : isBridgeRif rif = false) (hri : ch.rif rif = some ri)
    (halloc : db.arp.alloc = some (arpId, arp))
    (hflags : arpActionFlags (createAction attrs) = some flags)
    (hp : p = { createNeighborFill (Neighbor.new false) mac attrs with arpId := arpId })
    (hparam : nexthopMacParam sdk rif ri p flags = param)
    (hrc : sdk.rc (.nhAddNexthopMac arpId param) = .none)
    (hfail : (createNeighbor sdk db rif ip attrs).1 ≠ .success) :
    SameNeighbors db (createNeighbor sdk db rif ip attrs).2 ↔
      ∃ nhId nexthop, db.nexthop.alloc = some (nhId, nexthop) ∧
        sdk.rc (.nhAddIpuc nhId (ipNhParam ch ri { p with gport := param.gport })) = .none ∧
        sdk.rc (.nhRemoveIpuc nhId) = .none ∧ sdk.rc (.nhRemoveNexthopMac arpId) = .none := by
  obtain ⟨hfree, -, -, hused, -⟩ := Pool.alloc_some halloc
  have hadd := @neighborAddNexthop_arpIn ch sdk rif ri
    ⟨createNeighborFill (Neighbor.new false) mac attrs, db.arp, db.nexthop⟩ ip.addrFamily
    hri hb rfl rfl arpId arp flags param halloc hflags (hp ▸ hparam) hrc _ rfl
  have hkept : arp.used ≠ db.arp.used := by
    intro he
    refine hfree (he ▸ ?_)
    rw [hused]
    exact Finset.mem_insert_self ..
  generalize hq : ({ createNeighborFill (Neighbor.new false) mac attrs with
    arpId := arpId, gport := param.gport } : Neighbor) = q at hadd
  have hpq : { p with gport := param.gport } = q := by rw [hp, ← hq]
  rw [hpq]
  cases hnh : db.nexthop.alloc with
  | none =>
    rw [hnh] at hadd
    rw [createNeighbor_addFailed hnone hmem hmac hadd nofun]
    refine iff_of_false (fun h => hkept h.1) ?_
    rintro ⟨nhId, nexthop, h, -⟩
    cases h
  | some r =>
    obtain ⟨nhId, nexthop⟩ := r
    obtain ⟨hnhFree, hlo, -, hnhUsed, -⟩ := Pool.alloc_some hnh
    rw [hnh] at hadd
    dsimp only at hadd
    by_cases hok : sdk.rc (.nhAddIpuc nhId (ipNhParam ch ri q)) = .none
    · rw [if_pos hok] at hadd
      rw [createNeighbor_routeFailed hnone hmem hmac hadd (by rw [← hq]; rfl) rfl hfail]
      have hnh0 : nhId ≠ 0 := by
        have hpos := ch.nexthop_lo
        omega
      have hgone := @neighborRemoveNexthop_used ch sdk rif ⟨{ q with
          nhId := nhId, noHostRoute := createNoHostRoute attrs { q with nhId := nhId } },
        arp, nexthop⟩ (by rw [hri]; rfl) hb db.arp.used db.nexthop.used (by rw [← hq]; exact hfree) hnhFree hnh0
        (by rw [← hq]; exact hused) hnhUsed
      rw [← hq] at hgone ⊢
      rw [hgone]
      constructor
      · rintro ⟨hip, harp⟩
        exact ⟨nhId, nexthop, rfl, by rw [hq]; exact hok, hip, harp⟩
      · rintro ⟨nhId', nexthop', he, -, hip, harp⟩
        cases he
        exact ⟨hip, harp⟩
    · rw [if_neg hok] at hadd
      rw [createNeighbor_addFailed hnone hmem hmac hadd
        fun h => hok (mappingErrorCtc_eq_success.mp h)]
      refine iff_of_false (fun h => hkept h.1) ?_
      rintro ⟨nhId', nexthop', he, hip, -⟩
      cases he
      exact hok hip

theorem createNeighbor_mac_undone (hnone : db.record (neighborKey rif ip) = none)
    (hmem : sdk.mem .neighbor = true ∧ sdk.mem .entryNode = true)
    (hmac : findAttribInList NeighborAttr.dstMacAddress? attrs = some mac)
    (hb : isBridgeRif rif = false) (hfail : (createNeighbor sdk db rif ip attrs).1 ≠ .success) :
    SameNeighbors db (createNeighbor sdk db rif ip attrs).2 ↔
      ∀ ri arpId arp flags, ch.rif rif = some ri → db.arp.alloc = some (arpId, arp) →
        arpActionFlags (createAction attrs) = some flags →
        let p := { createNeighborFill (Neighbor.new false) mac attrs with arpId := arpId }
        let param := nexthopMacParam sdk rif ri p flags
        sdk.rc (.nhAddNexthopMac arpId param) = .none →
          ∃ nhId nexthop, db.nexthop.alloc = some (nhId, nexthop) ∧
            sdk.rc (.nhAddIpuc nhId (ipNhParam ch ri { p with gport := param.gport })) = .none ∧
            sdk.rc (.nhRemoveIpuc nhId) = .none ∧ sdk.rc (.nhRemoveNexthopMac arpId) = .none := by
  constructor
  · intro hsame ri arpId arp flags hri halloc hflags p param hrc
    exact (createNeighbor_arpIn_undone hnone hmem hmac hb hri halloc hflags rfl rfl hrc
      hfail).mp hsame
  · intro hundone
    by_cases harp : (neighborAddArpEntry sdk rif (⟨createNeighborFill (Neighbor.new false) mac
        attrs, db.arp, db.nexthop⟩ : NeighborCtx ch)).1 = .success
    swap
    · exact createNeighbor_noArp_undone hnone hmem hmac harp hb
    cases halloc : db.arp.alloc with
    | none =>
      have hfull : neighborAllocArp (⟨createNeighborFill (Neighbor.new false) mac attrs, db.arp,
          db.nexthop⟩ : NeighborCtx ch) = none := by
        rw [neighborAllocArp, halloc]
        rfl
      rw [neighborAddArpEntry, hfull] at harp
      cases harp
    | some r =>
      obtain ⟨arpId, arp⟩ := r
      have hal : neighborAllocArp (⟨createNeighborFill (Neighbor.new false) mac attrs, db.arp,
          db.nexthop⟩ : NeighborCtx ch) = some (true, ⟨{ createNeighborFill (Neighbor.new false)
            mac attrs with arpId := arpId }, arp, db.nexthop⟩) := by
        rw [neighborAllocArp, halloc]
        rfl
      obtain ⟨ri, flags, hri, hflags, hrc⟩ := (neighborAddArpEntry_success hal).mp harp
      exact (createNeighbor_arpIn_undone hnone hmem hmac hb hri halloc hflags rfl rfl hrc
        hfail).mpr (hundone ri arpId arp flags hri halloc hflags hrc)

/-- An error of `create` leaves the records, the pools and the counters as they were,
exactly in the cases of `CreateUndone`. -/
theorem createNeighbor_undone_iff (hfail : (createNeighbor sdk db rif ip attrs).1 ≠ .success) :
    SameNeighbors db (createNeighbor sdk db rif ip attrs).2 ↔
      CreateUndone sdk db rif ip attrs := by
  have hsame : SameNeighbors db db := ⟨fun _ => rfl, rfl, rfl, rfl⟩
  rw [CreateUndone]
  cases hrec : db.record (neighborKey rif ip) with
  | some p =>
    dsimp only
    cases hex : p.neighborExists with
    | true =>
      rw [createNeighbor_exists hrec hex]
      exact iff_of_true hsame rfl
    | false => exact iff_of_false (createNeighbor_shared_changes hrec hex) nofun
  | none =>
    dsimp only
    by_cases hmem : sdk.mem .neighbor = true ∧ sdk.mem .entryNode = true
    swap
    · have hrefused : createNeighbor sdk db rif ip attrs = (.noMemory, db) := by
        rw [createNeighbor, neighborBuildDb_new hrec, if_neg hmem]
      rw [hrefused]
      exact iff_of_true hsame fun h h' => absurd ⟨h, h'⟩ hmem
    cases hmac : findAttribInList NeighborAttr.dstMacAddress? attrs with
    | none =>
      refine iff_of_true ?_ (fun _ _ _ mac _ _ _ _ h => by cases h)
      have hput : ∀ t : Table NeighborKey Neighbor, t.insert (neighborKey rif ip)
          (Neighbor.new false) = (t.insert (neighborKey rif ip) (Neighbor.new false)).insert
            (neighborKey rif ip) (Neighbor.new false) := fun t =>
        (AList.insert_insert ..).symm
      rw [createNeighbor, neighborBuildDb_new hrec, if_pos hmem, hmac]
      dsimp only [createNeighborError1]
      rw [hput]
      exact (sameNeighbors_drop (w := ⟨Neighbor.new false, db.arp, db.nexthop⟩) hrec rfl
        rfl).mpr ⟨rfl, rfl⟩
    | some mac =>
      cases hb : isBridgeRif rif with
      | true =>
        exact iff_of_true (createNeighbor_bridge_undone hrec hmem hmac hb hfail) nofun
      | false =>
        rw [createNeighbor_mac_undone hrec hmem hmac hb hfail]
        constructor
        · intro h _ _ _ mac' ri arpId arp flags he
          cases he
          exact h ri arpId arp flags
        · intro h ri arpId arp flags
          exact h hmem.1 hmem.2 rfl mac ri arpId arp flags rfl

end Create

/-- At an address without a record, a packet action that is not supported leaves nothing. -/
theorem createNeighbor_undone_log :
    SameNeighbors (NeighborDb.empty .small) (createNeighbor .ok (.empty .small) Chip.portRif
      (.ip4 0x0A000001) [.dstMacAddress 0x1, .packetAction .log]).2 := by
  refine (createNeighbor_undone_iff (by decide)).mpr ?_
  show ∀ _ _ _ _ _ _ _ _ _ _ _, _
  intro _ _ _ mac ri arpId arp flags _ _ _ hflags
  cases hflags

/-- Where a next hop of type IP keeps a record, a `create` without a destination MAC
takes the record away. -/
theorem createNeighbor_not_undone : ∃ s : SharedState Chip.small,
    Reachable SharedState.Init anyStep sharedStep s ∧
    (createNeighbor .ok s.db.nbr Chip.portRif (.ip4 0x0A000001) []).1 = .mandatoryAttributeMissing ∧
    (s.db.nbr.record (neighborKey Chip.portRif (.ip4 0x0A000001))).isSome ∧
    (createNeighbor .ok s.db.nbr Chip.portRif (.ip4 0x0A000001) []).2.record
      (neighborKey Chip.portRif (.ip4 0x0A000001)) = none := by
  have r₀ : Reachable SharedState.Init anyStep sharedStep (.start Chip.small) :=
    .start ⟨rfl, rfl, rfl⟩
  have r₁ := r₀.next (createIpNextHop (.ip4 0x0A000001)) trivial rfl
  exact ⟨_, r₁, by decide, by decide, by decide⟩

end CtcSai
