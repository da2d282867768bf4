/-
# `NatOwners` — what the NAT module holds in the SDK and in the allocator

A live entry of source NAT owns one source-NAT entry of the SDK; a live entry of
destination NAT owns a NEXTHOP id, the next hop under it and a route.  The two
counters of the switch say how many entries there are of either type.

`create` gives nothing back on its error paths, `remove` never frees the id of a
next hop, and the bulk calls do not count, so this holds of the runs whose calls
come to none of these.
-/
import CtcSai.Lib.Ownership
import CtcSai.NatEntries
import CtcSai.RouteKeys

namespace CtcSai

open Function IdPool KeyedTable Ownership Runs Table

variable {ch : Chip} {m : MaskToLen} {sdk : NatSdk} {e : NatEntry} {attrs : List NatAttr}
variable {t : Table NatKey NatInfo} {k : NatKey}

/-! ## What an entry is to the SDK -/

/-- The SDK's key of a source-NAT entry, read off the key of its record. -/
def NatKey.saKey (k : NatKey) : NatSaKey :=
  ⟨k.vrfId, ntohl k.key.srcIp, k.key.l4SrcPort, k.key.proto = 6⟩

/-- The SDK's key of the route of an entry with full masks. -/
def NatKey.daKey (k : NatKey) : NatDaKey :=
  ⟨k.vrfId, ntohl k.key.dstIp, 32, k.key.l4DstPort, k.key.proto = 6⟩

theorem natSaKey_eq {key : NatSaKey} (h : natSaKey e = some key) : key = (natKey e).saKey := by
  obtain ⟨vrfId, hv, rfl⟩ := Option.map_eq_some_iff.mp h
  rw [oidGetVrfId] at hv
  split at hv
  · cases hv
    rfl
  · cases hv

theorem natDaKey_eq {key : NatDaKey} (hmask : e.mask = .full) (h : natDaKey m e = some key) :
    key = (natKey e).daKey := by
  obtain ⟨vrfId, hv, rfl⟩ := Option.map_eq_some_iff.mp h
  have hlen : m.v4 (ntohl e.mask.dstIp) = 32 := by
    rw [hmask]
    exact m.v4_maskWord 32 (Nat.le_refl 32)
  rw [oidGetVrfId] at hv
  split at hv
  · cases hv
    rw [hlen]
    rfl
  · cases hv

def LiveAs (t : Table NatKey NatInfo) (type : NatType) (k : NatKey) (r : NatInfo) : Prop :=
  t.lookup k = some r ∧ r.natType = type

theorem liveAs_insert {type : NatType} {k' : NatKey} {r r' : NatInfo} (h : t.lookup k = none) :
    LiveAs (t.insert k r) type k' r' ↔
      (k' = k ∧ r' = r ∧ r.natType = type) ∨ LiveAs t type k' r' := by
  rw [LiveAs, lookup_insert_ite]
  by_cases hk : k' = k
  · subst hk
    rw [if_pos rfl, LiveAs, h, Option.some.injEq]
    constructor
    · rintro ⟨rfl, ht⟩
      exact .inl ⟨rfl, rfl, ht⟩
    · rintro (⟨-, rfl, ht⟩ | ⟨hn, -⟩)
      · exact ⟨rfl, ht⟩
      · cases hn
  · rw [if_neg hk]
    exact ⟨.inr, fun h => h.resolve_left fun hr => hk hr.1⟩

theorem liveAs_erase {type : NatType} {k' : NatKey} {r' : NatInfo} :
    LiveAs (t.erase k) type k' r' ↔ k' ≠ k ∧ LiveAs t type k' r' := by
  rw [LiveAs, lookup_erase_ite]
  by_cases hk : k' = k
  · rw [if_pos hk]
    exact ⟨fun h => (nomatch h.1), fun h => absurd hk h.1⟩
  · rw [if_neg hk]
    exact ⟨fun h => ⟨hk, h⟩, fun h => h.2⟩

/-- The NEXTHOP ids of a record. -/
def NatInfo.ids (r : NatInfo) : Finset Nat :=
  if r.natType = .destinationNat then {r.nhId} else ∅

/-- The NEXTHOP ids of an entry. -/
def natIds (t : Table NatKey NatInfo) (k : NatKey) : Finset Nat :=
  ((t.lookup k).map NatInfo.ids).getD ∅

theorem natIds_insert (t : Table NatKey NatInfo) (k : NatKey) (r : NatInfo) :
    natIds (t.insert k r) = update (natIds t) k r.ids := by
  funext a
  rw [natIds, lookup_insert_ite, update_apply]
  split <;> rfl

theorem natIds_erase (t : Table NatKey NatInfo) (k : NatKey) :
    natIds (t.erase k) = update (natIds t) k ∅ := by
  funext a
  rw [natIds, lookup_erase_ite, update_apply]
  split <;> rfl

def natLive (t : Table NatKey NatInfo) (type : NatType) : Nat :=
  t.count fun _ r => decide (r.natType = type)

theorem natLive_insert (h : t.lookup k = none) (r : NatInfo) (type : NatType) :
    natLive (t.insert k r) type = natLive t type + if r.natType = type then 1 else 0 := by
  rw [natLive, count_insert_new h, Table.unit]
  simp only [decide_eq_true_eq]
  rfl

theorem natLive_erase {r : NatInfo} (h : t.lookup k = some r) (type : NatType) :
    natLive t type = natLive (t.erase k) type + if r.natType = type then 1 else 0 := by
  rw [natLive, count_erase h, Table.unit]
  simp only [decide_eq_true_eq]
  rfl

/-! ## The invariant -/

/-- The allocator, the SDK and the counters say the same as the records; `others` are the
NEXTHOP ids of other modules. -/
structure NatOwned (others : Finset Nat) (db : NatDb ch) : Prop where
  ids : OwnsAll others (natIds db.entries) db.nexthop.used
  tunnels : ∀ i, (db.tunnels.lookup i).isSome ↔
    ∃ k r, LiveAs db.entries .destinationNat k r ∧ r.nhId = i
  natDa : ∀ key i, db.natDa.lookup key = some i ↔
    ∃ k r, LiveAs db.entries .destinationNat k r ∧ k.daKey = key ∧ r.nhId = i
  natSa : ∀ key edit, db.natSa.lookup key = some edit ↔
    ∃ k r, LiveAs db.entries .sourceNat k r ∧ k.saKey = key ∧
      edit = ⟨r.newIpsa, r.newL4SrcPort⟩
  apart : ∀ k r k' r', LiveAs db.entries .sourceNat k r → LiveAs db.entries .sourceNat k' r' →
    k.saKey = k'.saKey → k = k'
  cnt : ∀ type i, type.cnt? = some i → (db.natCnt i).toNat = natLive db.entries type

/-- Before any NAT entry. -/
structure NatStart (others : Finset Nat) (db : NatDb ch) : Prop where
  entries : db.entries = ∅
  nexthop : db.nexthop.used = others
  natCnt : ∀ i, db.natCnt i = 0
  natSa : db.natSa = ∅
  natDa : db.natDa = ∅
  tunnels : db.tunnels = ∅

/-- Two databases hold the same in the allocator, in the SDK and in the counters. -/
structure NatSame (db db' : NatDb ch) : Prop where
  nexthop : db'.nexthop.used = db.nexthop.used
  natCnt : db'.natCnt = db.natCnt
  natSa : db'.natSa = db.natSa
  natDa : db'.natDa = db.natDa
  tunnels : db'.tunnels = db.tunnels

theorem NatSame.refl (db : NatDb ch) : NatSame db db := ⟨rfl, rfl, rfl, rfl, rfl⟩

theorem NatSame.trans {db db' db'' : NatDb ch} (h : NatSame db db') (h' : NatSame db' db'') :
    NatSame db db'' where
  nexthop := h'.nexthop.trans h.nexthop
  natCnt := h'.natCnt.trans h.natCnt
  natSa := h'.natSa.trans h.natSa
  natDa := h'.natDa.trans h.natDa
  tunnels := h'.tunnels.trans h.tunnels

/-! ## When nothing is lost -/

/-- `create` stops before it takes anything, or makes a record without a type. -/
def CreateTakesNothing (sdk : NatSdk) (db : NatDb ch) (e : NatEntry) (attrs : List NatAttr) :
    Prop :=
  natEntryCreateAttrCheck sdk e attrs ≠ .success ∨ (db.entries.lookup (natKey e)).isSome ∨
    match natTypeOf attrs with
    | .sourceNat => oidGetVrfId e.vrId = none ∨ sdk.ipucAddNatSa ≠ .none
    | .destinationNat => oidGetVrfId e.vrId = none ∨ db.nexthop.alloc = none
    | _ => True

/-- `create` gets all it asks for, under a key that is new to the SDK, and the counter has
room. -/
def CreateGetsAll (sdk : NatSdk) (db : NatDb ch) (e : NatEntry) (attrs : List NatAttr) : Prop :=
  sdk.natMem = true ∧ sdk.entryMem = true ∧
    match natTypeOf attrs with
    | .sourceNat => db.natSa.lookup (natKey e).saKey = none ∧ (db.natCnt .snat).toNat + 1 < 2 ^ 32
    | .destinationNat => (∃ param, natNhParam sdk e attrs = .ok param) ∧
      sdk.nhAddIpTunnel = .none ∧ sdk.ipucAdd = .none ∧
      db.natDa.lookup (natKey e).daKey = none ∧ (db.natCnt .dnat).toNat + 1 < 2 ^ 32
    | _ => True

/-- The next hop of a destination-NAT entry is not removed. -/
def NextHopStays (sdk : NatSdk) (e : NatEntry) : Prop :=
  oidGetVrfId e.vrId = none ∨ sdk.nhRemoveIpTunnel ≠ .none

/-- `remove` takes nothing out: there is no entry, or one without a type, or it is refused
at its first call into the SDK. -/
def RemoveTakesNothing (db : NatDb ch) (a : NatSdk × NatEntry) : Prop :=
  ∀ r, db.entries.lookup (natKey a.2) = some r →
    (r.natType = .sourceNat → oidGetVrfId a.2.vrId = none ∨ a.1.ipucRemoveNatSa ≠ .none) ∧
    (r.natType = .destinationNat → NextHopStays a.1 a.2)

/-- The calls after which nothing is lost. -/
def NatSafe (m : MaskToLen) (db : NatDb ch) : NatCall → Prop
  | .create sdk e attrs => CreateTakesNothing sdk db e attrs ∨ CreateGetsAll sdk db e attrs
  | .remove sdk e => ∃ r, db.entries.lookup (natKey e) = some r ∧
      (r.natType = .destinationNat → NextHopStays sdk e)
  | .bulkCreate mode objects => BulkAdmitted (natBulkCreateOne m) mode
      (fun db a => CreateTakesNothing a.1 db a.2.1 a.2.2) db objects
  | .bulkRemove mode objects => BulkAdmitted (natBulkRemoveOne m) mode RemoveTakesNothing
      db objects

/-! ## What one call does -/

section Steps

variable {others : Finset Nat} {db : NatDb ch}
variable {k : NatKey} {r : NatInfo} {v : BitVec 16} {db' : NatDb ch}

theorem NatOwned.insert_other (h : NatOwned others db) (hnew : db.entries.lookup k = none)
    (htype : r.natType.cnt? = none) :
    NatOwned others { db with entries := db.entries.insert k r } := by
  have hne : ∀ type i, type.cnt? = some i → r.natType ≠ type := by
    rintro type i ht rfl
    rw [htype] at ht
    cases ht
  have hlive : ∀ type i, type.cnt? = some i → ∀ k' r',
      LiveAs (db.entries.insert k r) type k' r' ↔ LiveAs db.entries type k' r' := by
    intro type i ht k' r'
    rw [liveAs_insert hnew]
    exact ⟨fun h => h.resolve_left fun hr => hne type i ht hr.2.2, .inr⟩
  have hda := hlive .destinationNat .dnat rfl
  have hsa := hlive .sourceNat .snat rfl
  constructor
  · refine h.ids.congr ?_ rfl
    have hids : r.ids = ∅ := if_neg (hne .destinationNat .dnat rfl)
    have hnone : natIds db.entries k = ∅ := by
      rw [natIds, hnew]
      rfl
    rw [natIds_insert, hids, ← hnone, update_eq_self]
  · simp only [hda]
    exact h.tunnels
  · simp only [hda]
    exact h.natDa
  · simp only [hsa]
    exact h.natSa
  · simp only [hsa]
    exact h.apart
  · intro type i ht
    rw [natLive_insert hnew, if_neg (hne type i ht)]
    exact h.cnt type i ht

theorem NatOwned.erase_other (h : NatOwned others db) (hr : db.entries.lookup k = some r)
    (htype : r.natType.cnt? = none) :
    NatOwned others { db with entries := db.entries.erase k } := by
  have hne : ∀ type i, type.cnt? = some i → r.natType ≠ type := by
    rintro type i ht rfl
    rw [htype] at ht
    cases ht
  have hlive : ∀ type i, type.cnt? = some i → ∀ k' r',
      LiveAs (db.entries.erase k) type k' r' ↔ LiveAs db.entries type k' r' := by
    intro type i ht k' r'
    rw [liveAs_erase]
    refine ⟨And.right, fun hl => ⟨?_, hl⟩⟩
    rintro rfl
    have hrr : r = r' := Option.some.inj (hr.symm.trans hl.1)
    exact hne type i ht (hrr ▸ hl.2)
  have hda := hlive .destinationNat .dnat rfl
  have hsa := hlive .sourceNat .snat rfl
  constructor
  · refine h.ids.congr ?_ rfl
    have hids : natIds db.entries k = ∅ := by
      rw [natIds, hr]
      exact if_neg (hne .destinationNat .dnat rfl)
    rw [natIds_erase, ← hids, update_eq_self]
  · simp only [hda]
    exact h.tunnels
  · simp only [hda]
    exact h.natDa
  · simp only [hsa]
    exact h.natSa
  · simp only [hsa]
    exact h.apart
  · intro type i ht
    have hcount := natLive_erase hr type
    rw [if_neg (hne type i ht)] at hcount
    exact (h.cnt type i ht).trans hcount

theorem NatType.cnt?_inj {a b : NatType} {i : NatCnt} (ha : a.cnt? = some i)
    (hb : b.cnt? = some i) : a = b := by
  have hinj : ∀ a b : NatType, a.cnt? = b.cnt? → a.cnt?.isSome → a = b := by
    intro a b
    cases a <;> cases b <;> decide
  exact hinj a b (ha.trans hb.symm) (by rw [ha]; rfl)

theorem cnt_insert (h : NatOwned others db) {j : NatCnt} (hnew : db.entries.lookup k = none)
    (hj : r.natType.cnt? = some j) (hroom : (db.natCnt j).toNat + 1 < 2 ^ 32) :
    ∀ type i, type.cnt? = some i →
      (update db.natCnt j (db.natCnt j + 1) i).toNat = natLive (db.entries.insert k r) type := by
  intro type i ht
  rw [natLive_insert hnew, ← h.cnt type i ht]
  by_cases htype : r.natType = type
  · subst htype
    rw [hj] at ht
    cases ht
    rw [update_self, if_pos rfl]
    exact Nat.mod_eq_of_lt hroom
  have hne : i ≠ j := by
    rintro rfl
    exact htype (NatType.cnt?_inj hj ht)
  rw [update_of_ne hne, if_neg htype, Nat.add_zero]

theorem cnt_erase (h : NatOwned others db) {j : NatCnt} (hr : db.entries.lookup k = some r)
    (hj : r.natType.cnt? = some j) :
    ∀ type i, type.cnt? = some i →
      (update db.natCnt j (db.natCnt j + -1) i).toNat = natLive (db.entries.erase k) type := by
  intro type i ht
  have hold := (h.cnt type i ht).trans (natLive_erase hr type)
  by_cases htype : r.natType = type
  · subst htype
    rw [hj] at ht
    cases ht
    rw [if_pos rfl] at hold
    have hone : (-1 : BitVec 32).toNat = 2 ^ 32 - 1 := by decide
    rw [update_self, BitVec.toNat_add, hold]
    omega
  have hne : i ≠ j := by
    rintro rfl
    exact htype (NatType.cnt?_inj hj ht)
  rw [update_of_ne hne, hold, if_neg htype, Nat.add_zero]

/-- An entry of source NAT joins, under a key that is new to the SDK. -/
theorem NatOwned.insert_sourceNat (h : NatOwned others db) (hnew : db.entries.lookup k = none)
    (htype : r.natType = .sourceNat) (hkey : db.natSa.lookup k.saKey = none)
    (hroom : (db.natCnt .snat).toNat + 1 < 2 ^ 32) :
    NatOwned others { db with
      entries := db.entries.insert k r
      natSa := db.natSa.insert k.saKey ⟨r.newIpsa, r.newL4SrcPort⟩
      natCnt := update db.natCnt .snat (db.natCnt .snat + 1) } := by
  have hda : ∀ k' r', LiveAs (db.entries.insert k r) .destinationNat k' r' ↔
      LiveAs db.entries .destinationNat k' r' := by
    intro k' r'
    rw [liveAs_insert hnew, htype]
    exact ⟨fun h => h.resolve_left fun hr => (nomatch hr.2.2), .inr⟩
  have hsa : ∀ k' r', LiveAs (db.entries.insert k r) .sourceNat k' r' ↔
      (k' = k ∧ r' = r) ∨ LiveAs db.entries .sourceNat k' r' := by
    intro k' r'
    rw [liveAs_insert hnew]
    simp only [htype, and_true]
  -- no entry that was there has the new key
  have hfree : ∀ k' r', LiveAs db.entries .sourceNat k' r' → k'.saKey ≠ k.saKey := by
    intro k' r' hl he
    have hin := (h.natSa k.saKey ⟨r'.newIpsa, r'.newL4SrcPort⟩).mpr ⟨k', r', hl, he, rfl⟩
    rw [hkey] at hin
    cases hin
  constructor
  · refine h.ids.congr ?_ rfl
    have hids : r.ids = ∅ := if_neg (by rw [htype]; decide)
    have hnone : natIds db.entries k = ∅ := by
      rw [natIds, hnew]
      rfl
    rw [natIds_insert, hids, ← hnone, update_eq_self]
  · simp only [hda]
    exact h.tunnels
  · simp only [hda]
    exact h.natDa
  · intro key edit
    rw [lookup_insert_ite]
    simp only [hsa]
    split
    · next hk =>
      subst hk
      constructor
      · intro he
        exact ⟨k, r, .inl ⟨rfl, rfl⟩, rfl, (Option.some.inj he).symm⟩
      · rintro ⟨k', r', ⟨rfl, rfl⟩ | hl, he, rfl⟩
        · rfl
        · exact absurd he (hfree k' r' hl)
    next hk =>
    rw [h.natSa]
    constructor
    · rintro ⟨k', r', hl, he⟩
      exact ⟨k', r', .inr hl, he⟩
    · rintro ⟨k', r', ⟨rfl, rfl⟩ | hl, he⟩
      · exact absurd he.1.symm hk
      · exact ⟨k', r', hl, he⟩
  · intro k₁ r₁ k₂ r₂ h₁ h₂ he
    rcases (hsa k₁ r₁).mp h₁ with ⟨rfl, -⟩ | hl₁
    · rcases (hsa k₂ r₂).mp h₂ with ⟨rfl, -⟩ | hl₂
      · rfl
      · exact absurd he.symm (hfree k₂ r₂ hl₂)
    · rcases (hsa k₂ r₂).mp h₂ with ⟨rfl, -⟩ | hl₂
      · exact absurd he (hfree k₁ r₁ hl₁)
      · exact h.apart k₁ r₁ k₂ r₂ hl₁ hl₂ he
  · exact cnt_insert h hnew (by rw [htype]; rfl) hroom

theorem NatOwned.erase_sourceNat (h : NatOwned others db) (hr : db.entries.lookup k = some r)
    (htype : r.natType = .sourceNat) :
    NatOwned others { db with
      entries := db.entries.erase k
      natSa := db.natSa.erase k.saKey
      natCnt := update db.natCnt .snat (db.natCnt .snat + -1) } := by
  have hda : ∀ k' r', LiveAs (db.entries.erase k) .destinationNat k' r' ↔
      LiveAs db.entries .destinationNat k' r' := by
    intro k' r'
    rw [liveAs_erase]
    refine ⟨And.right, fun hl => ⟨?_, hl⟩⟩
    rintro rfl
    have hrr : r = r' := Option.some.inj (hr.symm.trans hl.1)
    rw [← hrr] at hl
    exact absurd (htype.symm.trans hl.2) (by decide)
  have hself : LiveAs db.entries .sourceNat k r := ⟨hr, htype⟩
  constructor
  · refine h.ids.congr ?_ rfl
    have hids : natIds db.entries k = ∅ := by
      rw [natIds, hr]
      exact if_neg (by rw [htype]; decide)
    rw [natIds_erase, ← hids, update_eq_self]
  · simp only [hda]
    exact h.tunnels
  · simp only [hda]
    exact h.natDa
  · intro key edit
    rw [lookup_erase_ite]
    simp only [liveAs_erase]
    split
    · next hk =>
      subst hk
      refine ⟨fun he => (nomatch he), ?_⟩
      rintro ⟨k', r', ⟨hne, hl⟩, he, -⟩
      exact absurd (h.apart k' r' k r hl hself he) hne
    next hk =>
    rw [h.natSa]
    constructor
    · rintro ⟨k', r', hl, he, hv⟩
      refine ⟨k', r', ⟨?_, hl⟩, he, hv⟩
      rintro rfl
      exact hk he.symm
    · rintro ⟨k', r', ⟨-, hl⟩, he⟩
      exact ⟨k', r', hl, he⟩
  · intro k₁ r₁ k₂ r₂ h₁ h₂ he
    exact h.apart k₁ r₁ k₂ r₂ (liveAs_erase.mp h₁).2 (liveAs_erase.mp h₂).2 he
  · exact cnt_erase h hr (by rw [htype]; rfl)

/-- An entry of destination NAT joins, with a new id and under a key that is new to the SDK. -/
theorem NatOwned.insert_destinationNat (h : NatOwned others db) {param : NatNhParam}
    {pool : Pool ch.nexthop} (hnew : db.entries.lookup k = none)
    (htype : r.natType = .destinationNat) (halloc : db.nexthop.alloc = some (r.nhId, pool))
    (hkey : db.natDa.lookup k.daKey = none) (hroom : (db.natCnt .dnat).toNat + 1 < 2 ^ 32) :
    NatOwned others { db with
      entries := db.entries.insert k r
      nexthop := pool
      tunnels := db.tunnels.insert r.nhId param
      natDa := db.natDa.insert k.daKey r.nhId
      natCnt := update db.natCnt .dnat (db.natCnt .dnat + 1) } := by
  obtain ⟨hfresh, -, -, hused, -⟩ := Pool.alloc_some halloc
  have hsa : ∀ k' r', LiveAs (db.entries.insert k r) .sourceNat k' r' ↔
      LiveAs db.entries .sourceNat k' r' := by
    intro k' r'
    rw [liveAs_insert hnew, htype]
    exact ⟨fun h => h.resolve_left fun hr => (nomatch hr.2.2), .inr⟩
  have hda : ∀ k' r', LiveAs (db.entries.insert k r) .destinationNat k' r' ↔
      (k' = k ∧ r' = r) ∨ LiveAs db.entries .destinationNat k' r' := by
    intro k' r'
    rw [liveAs_insert hnew]
    simp only [htype, and_true]
  constructor
  · have hnone : natIds db.entries k = ∅ := by
      rw [natIds, hnew]
      rfl
    have hids : r.ids = {r.nhId} := if_pos htype
    have hnew' : ∀ i ∈ ({r.nhId} : Finset Nat), i ∉ db.nexthop.used := by
      intro i hi
      rw [Finset.mem_singleton.mp hi]
      exact hfresh
    refine (h.ids.take hnone hnew').congr ?_ ?_
    · rw [natIds_insert, hids]
    · rw [hused, Finset.insert_eq, Finset.union_comm]
  · intro i
    rw [lookup_insert_ite]
    simp only [hda]
    split
    · next hi => exact iff_of_true rfl ⟨k, r, .inl ⟨rfl, rfl⟩, hi.symm⟩
    next hi =>
    rw [h.tunnels]
    constructor
    · rintro ⟨k', r', hl, he⟩
      exact ⟨k', r', .inr hl, he⟩
    · rintro ⟨k', r', ⟨rfl, rfl⟩ | hl, he⟩
      · exact absurd he.symm hi
      · exact ⟨k', r', hl, he⟩
  · intro key i
    rw [lookup_insert_ite]
    simp only [hda]
    split
    · next hk =>
      subst hk
      constructor
      · intro he
        exact ⟨k, r, .inl ⟨rfl, rfl⟩, rfl, Option.some.inj he⟩
      · rintro ⟨k', r', ⟨rfl, rfl⟩ | hl, he, rfl⟩
        · rfl
        · have hin := (h.natDa k.daKey r'.nhId).mpr ⟨k', r', hl, he, rfl⟩
          rw [hkey] at hin
          cases hin
    next hk =>
    rw [h.natDa]
    constructor
    · rintro ⟨k', r', hl, he⟩
      exact ⟨k', r', .inr hl, he⟩
    · rintro ⟨k', r', ⟨rfl, rfl⟩ | hl, he⟩
      · exact absurd he.1.symm hk
      · exact ⟨k', r', hl, he⟩
  · simp only [hsa]
    exact h.natSa
  · simp only [hsa]
    exact h.apart
  · exact cnt_insert h hnew (by rw [htype]; rfl) hroom

/-! ## The functions of the source -/

theorem natBuildDb_new (r : NatInfo) (hnew : db.entries.lookup k = none) :
    natBuildDb sdk db k r = if sdk.natMem && sdk.entryMem then
      (.success, { db with entries := db.entries.insert k r }) else (.noMemory, db) := by
  rw [natBuildDb, hnew]
  cases sdk.natMem <;> cases sdk.entryMem <;> rfl

theorem natSaKey_of_vrf (h : oidGetVrfId e.vrId = some v) : natSaKey e = some (natKey e).saKey := by
  cases hk : natSaKey e with
  | none =>
    rw [natSaKey, h] at hk
    cases hk
  | some key => rw [natSaKey_eq hk]

theorem natDaKey_of_vrf (hmask : e.mask = .full) (h : oidGetVrfId e.vrId = some v) :
    natDaKey m e = some (natKey e).daKey := by
  cases hk : natDaKey m e with
  | none =>
    rw [natDaKey, h] at hk
    cases hk
  | some key => rw [natDaKey_eq hmask hk]

theorem mask_of_check (h : natEntryCreateAttrCheck sdk e attrs = .success) : e.mask = .full := by
  rw [natEntryCreateAttrCheck] at h
  split at h
  · cases h
  split at h
  · cases h
  split at h
  · cases h
  split at h
  · cases h
  · split at h
    · cases h
    · next hmask => exact not_not.mp hmask

/-- The database of a created record without a type. -/
theorem natCreateEntry_idle (h : CreateTakesNothing sdk db e attrs) :
    (∃ st, st ≠ .success ∧ natCreateEntry m sdk db e attrs = (st, db)) ∨
      db.entries.lookup (natKey e) = none ∧ (natTypeOf attrs).cnt? = none ∧
        natCreateEntry m sdk db e attrs = (.success,
          { db with entries := db.entries.insert (natKey e) (natInfoOf attrs 0) }) := by
  rw [natCreateEntry]
  by_cases hcheck : natEntryCreateAttrCheck sdk e attrs = .success
  swap
  · refine .inl ⟨_, hcheck, ?_⟩
    split
    · next heq => exact absurd heq hcheck
    · rfl
  rw [hcheck]
  dsimp only
  cases hnew : db.entries.lookup (natKey e) with
  | some r => exact .inl ⟨.itemAlreadyExists, by decide, rfl⟩
  | none =>
    have hstop := (h.resolve_left fun hne => hne hcheck).resolve_left (by rw [hnew]; rintro ⟨⟩)
    have hother : (natTypeOf attrs).cnt? = none →
        (∃ st, st ≠ .success ∧ natBuildDb sdk db (natKey e) (natInfoOf attrs 0) = (st, db)) ∨
          (none : Option NatInfo) = none ∧ (natTypeOf attrs).cnt? = none ∧
            natBuildDb sdk db (natKey e) (natInfoOf attrs 0) = (.success,
              { db with entries := db.entries.insert (natKey e) (natInfoOf attrs 0) }) := by
      intro hcnt
      rw [natBuildDb_new _ hnew]
      split
      · exact .inr ⟨rfl, hcnt, rfl⟩
      · exact .inl ⟨.noMemory, by decide, rfl⟩
    rw [if_neg (by rintro ⟨⟩)]
    split
    · next htype =>
      rw [htype] at hstop
      left
      rw [createSourceNat]
      cases hkey : natSaKey e with
      | none => exact ⟨.invalidObjectId, by decide, rfl⟩
      | some key =>
        have hrc : sdk.ipucAddNatSa ≠ .none := by
          refine hstop.resolve_left fun hv => ?_
          rw [natSaKey, hv] at hkey
          cases hkey
        dsimp only
        split
        · next heq => exact absurd (mappingErrorCtc_eq_success.mp heq) hrc
        · next hne => exact ⟨_, hne, rfl⟩
    · next htype =>
      rw [htype] at hstop
      left
      rw [createDestinationNat]
      cases hkey : natDaKey m e with
      | none => exact ⟨.invalidObjectId, by decide, rfl⟩
      | some key =>
        have halloc : db.nexthop.alloc = none := by
          refine hstop.resolve_left fun hv => ?_
          rw [natDaKey, hv] at hkey
          cases hkey
        rw [halloc]
        exact ⟨.insufficientResources, by decide, rfl⟩
    · next hsa hda =>
      refine hother ?_
      cases htype : natTypeOf attrs with
      | sourceNat => exact absurd htype hsa
      | destinationNat => exact absurd htype hda
      | none => rfl
      | doubleNat => rfl
      | destinationNatPool => rfl

theorem natCreateEntry_sourceNat (hcheck : natEntryCreateAttrCheck sdk e attrs = .success)
    (hnew : db.entries.lookup (natKey e) = none) (htype : natTypeOf attrs = .sourceNat)
    (hvrf : oidGetVrfId e.vrId = some v) (hrc : sdk.ipucAddNatSa = .none) (hmem : sdk.natMem = true)
    (hentry : sdk.entryMem = true) :
    natCreateEntry m sdk db e attrs = (.success, { db with
      entries := db.entries.insert (natKey e) (natInfoOf attrs 0)
      natSa := db.natSa.insert (natKey e).saKey (natSaEdit attrs) }) := by
  rw [natCreateEntry, hcheck, hnew]
  rw [htype]
  rw [createSourceNat, natSaKey_of_vrf hvrf]
  dsimp only
  rw [hrc]
  rw [natBuildDb_new _ (by exact hnew), hmem, hentry]
  rfl

theorem natCreateEntry_destinationNat {nhId : Nat} {pool : Pool ch.nexthop} {param : NatNhParam}
    (hcheck : natEntryCreateAttrCheck sdk e attrs = .success)
    (hnew : db.entries.lookup (natKey e) = none) (htype : natTypeOf attrs = .destinationNat)
    (hvrf : oidGetVrfId e.vrId = some v) (halloc : db.nexthop.alloc = some (nhId, pool))
    (hparam : natNhParam sdk e attrs = .ok param) (hnh : sdk.nhAddIpTunnel = .none)
    (hrc : sdk.ipucAdd = .none) (hmem : sdk.natMem = true) (hentry : sdk.entryMem = true) :
    natCreateEntry m sdk db e attrs = (.success, { db with
      entries := db.entries.insert (natKey e) (natInfoOf attrs nhId)
      nexthop := pool
      tunnels := db.tunnels.insert nhId param
      natDa := db.natDa.insert (natKey e).daKey nhId }) := by
  rw [natCreateEntry, hcheck, hnew]
  rw [htype]
  rw [createDestinationNat, natDaKey_of_vrf (mask_of_check hcheck) hvrf, halloc]
  rw [hparam, hnh]
  dsimp only
  rw [hrc]
  rw [natBuildDb_new _ (by exact hnew), hmem, hentry]
  rfl

theorem createNatEntry_success {nhId : Nat} (h : natCreateEntry m sdk db e attrs = (.success, db'))
    (hr : db'.entries.lookup (natKey e) = some (natInfoOf attrs nhId)) :
    createNatEntry m sdk db e attrs = (.success, db'.count (natTypeOf attrs) 1) := by
  rw [createNatEntry, h]
  dsimp only
  rw [hr]
  rfl

theorem createNatEntry_failure {st : Status} (hst : st ≠ .success)
    (h : natCreateEntry m sdk db e attrs = (st, db)) :
    createNatEntry m sdk db e attrs = (st, db) := by
  rw [createNatEntry, h]
  split
  · next heq => exact absurd (congrArg Prod.fst heq) hst
  · next heq => exact heq.symm

theorem createNatEntry_owned (h : NatOwned others db)
    (hsafe : CreateTakesNothing sdk db e attrs ∨ CreateGetsAll sdk db e attrs) :
    NatOwned others (createNatEntry m sdk db e attrs).2 ∧
      ((createNatEntry m sdk db e attrs).1 ≠ .success →
        NatSame db (createNatEntry m sdk db e attrs).2) := by
  by_cases hidle : CreateTakesNothing sdk db e attrs
  · rcases natCreateEntry_idle hidle with ⟨st, hst, he⟩ | ⟨hnew, hcnt, he⟩
    · rw [createNatEntry_failure hst he]
      exact ⟨h, fun _ => .refl db⟩
    · rw [createNatEntry_success he (AList.lookup_insert _), NatDb.count, hcnt]
      exact ⟨h.insert_other hnew hcnt, fun hne => absurd rfl hne⟩
  have hall := hsafe.resolve_left hidle
  rw [CreateTakesNothing, not_or, not_or, not_not] at hidle
  obtain ⟨hcheck, hnew, hgo⟩ := hidle
  rw [Option.not_isSome_iff_eq_none] at hnew
  obtain ⟨hmem, hentry, hall⟩ := hall
  split at hgo
  · next htype =>
    rw [htype] at hall
    rw [not_or, not_not] at hgo
    obtain ⟨v, hvrf⟩ := Option.ne_none_iff_exists'.mp hgo.1
    have he := natCreateEntry_sourceNat (m := m) hcheck hnew htype hvrf hgo.2 hmem hentry
    rw [createNatEntry_success he (AList.lookup_insert _), htype]
    refine ⟨?_, fun hne => absurd rfl hne⟩
    have hedit : natSaEdit attrs =
        ⟨(natInfoOf attrs 0).newIpsa, (natInfoOf attrs 0).newL4SrcPort⟩ := by
      rw [natInfoOf, if_pos htype, if_pos htype]
    rw [hedit]
    exact h.insert_sourceNat hnew htype hall.1 hall.2
  · next htype =>
    rw [htype] at hall
    rw [not_or] at hgo
    obtain ⟨v, hvrf⟩ := Option.ne_none_iff_exists'.mp hgo.1
    obtain ⟨⟨nhId, pool⟩, halloc⟩ := Option.ne_none_iff_exists'.mp hgo.2
    obtain ⟨⟨param, hparam⟩, hnh, hrc, hkey, hroom⟩ := hall
    have he := natCreateEntry_destinationNat (m := m) hcheck hnew htype hvrf halloc hparam hnh
      hrc hmem hentry
    rw [createNatEntry_success he (AList.lookup_insert _), htype]
    refine ⟨?_, fun hne => absurd rfl hne⟩
    exact h.insert_destinationNat hnew htype halloc hkey hroom
  · exact absurd trivial hgo

theorem natRemoveEntry_missing (h : db.entries.lookup (natKey e) = none) :
    natRemoveEntry m sdk db e = (.itemNotFound, db) := by
  rw [natRemoveEntry, h]

theorem natRemoveEntry_sourceNat (hr : db.entries.lookup (natKey e) = some r)
    (htype : r.natType = .sourceNat) :
    (∃ st, st ≠ .success ∧ natRemoveEntry m sdk db e = (st, db)) ∨
      (oidGetVrfId e.vrId ≠ none ∧ sdk.ipucRemoveNatSa = .none) ∧
        natRemoveEntry m sdk db e = (.success, { db with
          entries := db.entries.erase (natKey e)
          natSa := db.natSa.erase (natKey e).saKey }) := by
  rw [natRemoveEntry, hr]
  dsimp only
  rw [htype]
  rw [removeSourceNat]
  cases hkey : natSaKey e with
  | none => exact .inl ⟨.invalidObjectId, nofun, rfl⟩
  | some key =>
    have hvrf : oidGetVrfId e.vrId ≠ none := by
      intro hv
      rw [natSaKey, hv] at hkey
      cases hkey
    rw [natSaKey_eq hkey]
    by_cases hrc : sdk.ipucRemoveNatSa = .none
    · rw [hrc]
      exact .inr ⟨⟨hvrf, rfl⟩, rfl⟩
    have hne : mappingErrorCtc sdk.ipucRemoveNatSa ≠ .success :=
      fun h => hrc (mappingErrorCtc_eq_success.mp h)
    refine .inl ⟨_, hne, ?_⟩
    generalize mappingErrorCtc sdk.ipucRemoveNatSa = st at hne
    cases st <;> first | rfl | exact absurd rfl hne

theorem natRemoveEntry_destinationNat (hr : db.entries.lookup (natKey e) = some r)
    (htype : r.natType = .destinationNat) (hstay : NextHopStays sdk e) :
    ∃ st, st ≠ .success ∧ natRemoveEntry m sdk db e = (st, db) := by
  rw [natRemoveEntry, hr]
  dsimp only
  rw [htype]
  rw [removeDestinationNat]
  cases hkey : natDaKey m e with
  | none => exact ⟨.invalidObjectId, nofun, rfl⟩
  | some key =>
    have hrc : sdk.nhRemoveIpTunnel ≠ .none := by
      refine hstay.resolve_left fun hv => ?_
      rw [natDaKey, hv] at hkey
      cases hkey
    have hne : mappingErrorCtc sdk.nhRemoveIpTunnel ≠ .success :=
      fun h => hrc (mappingErrorCtc_eq_success.mp h)
    refine ⟨_, hne, ?_⟩
    generalize mappingErrorCtc sdk.nhRemoveIpTunnel = st at hne
    cases st <;> first | rfl | exact absurd rfl hne

theorem natRemoveEntry_other (hr : db.entries.lookup (natKey e) = some r)
    (htype : r.natType.cnt? = none) :
    natRemoveEntry m sdk db e = (.success, { db with entries := db.entries.erase (natKey e) }) := by
  rw [natRemoveEntry, hr]
  dsimp only
  cases hty : r.natType with
  | sourceNat => rw [hty] at htype; cases htype
  | destinationNat => rw [hty] at htype; cases htype
  | none => rfl
  | doubleNat => rfl
  | destinationNatPool => rfl

/-- `remove` of a live entry, unless the next hop of a destination-NAT entry goes. -/
theorem removeNatEntry_owned (h : NatOwned others db) (hr : db.entries.lookup (natKey e) = some r)
    (hstay : r.natType = .destinationNat → NextHopStays sdk e) :
    ∃ st db', removeNatEntry m sdk db e = some (st, db') ∧ NatOwned others db' ∧
      (st ≠ .success → NatSame db db') := by
  have hcall : ∀ st db', natRemoveEntry m sdk db e = (st, db') →
      removeNatEntry m sdk db e =
        some (st, if st = .success then db'.count r.natType (-1) else db') := by
    intro st db' he
    rw [removeNatEntry, hr, he]
    cases st <;> rfl
  have hfailed : ∀ st, st ≠ .success → natRemoveEntry m sdk db e = (st, db) →
      ∃ st db', removeNatEntry m sdk db e = some (st, db') ∧ NatOwned others db' ∧
        (st ≠ .success → NatSame db db') := by
    intro st hst he
    refine ⟨st, db, ?_, h, fun _ => .refl db⟩
    rw [hcall st db he, if_neg hst]
  have hother : r.natType.cnt? = none →
      ∃ st db', removeNatEntry m sdk db e = some (st, db') ∧ NatOwned others db' ∧
        (st ≠ .success → NatSame db db') := by
    intro hcnt
    refine ⟨.success, _, hcall _ _ (natRemoveEntry_other hr hcnt), ?_, fun hne => absurd rfl hne⟩
    rw [NatDb.count, hcnt]
    exact h.erase_other hr hcnt
  cases htype : r.natType with
  | sourceNat =>
    rcases natRemoveEntry_sourceNat hr htype with ⟨st, hst, he⟩ | ⟨-, he⟩
    · exact hfailed st hst he
    · refine ⟨.success, _, hcall _ _ he, ?_, fun hne => absurd rfl hne⟩
      rw [htype]
      exact h.erase_sourceNat hr htype
  | destinationNat =>
    obtain ⟨st, hst, he⟩ := natRemoveEntry_destinationNat hr htype (hstay htype)
    exact hfailed st hst he
  | none => exact hother (by rw [htype]; rfl)
  | doubleNat => exact hother (by rw [htype]; rfl)
  | destinationNatPool => exact hother (by rw [htype]; rfl)

theorem natBulkCreateOne_owned {a : NatSdk × NatEntry × List NatAttr} {status : Status}
    (h : NatOwned others db) (hidle : CreateTakesNothing a.1 db a.2.1 a.2.2)
    (hstep : natBulkCreateOne m db a = some (status, (), db')) :
    NatOwned others db' ∧ NatSame db db' := by
  have heq : natCreateEntry m a.1 db a.2.1 a.2.2 = (status, db') := by
    cases hstep
    rfl
  rcases natCreateEntry_idle hidle with ⟨st, -, he⟩ | ⟨hnew, hcnt, he⟩
  · cases heq.symm.trans he
    exact ⟨h, .refl db⟩
  · cases heq.symm.trans he
    exact ⟨h.insert_other hnew hcnt, ⟨rfl, rfl, rfl, rfl, rfl⟩⟩

theorem natBulkRemoveOne_owned {a : NatSdk × NatEntry} {status : Status} (h : NatOwned others db)
    (hidle : RemoveTakesNothing db a) (hstep : natBulkRemoveOne m db a = some (status, (), db')) :
    NatOwned others db' ∧ NatSame db db' := by
  have heq : natRemoveEntry m a.1 db a.2 = (status, db') := by
    cases hstep
    rfl
  cases hr : db.entries.lookup (natKey a.2) with
  | none =>
    cases heq.symm.trans (natRemoveEntry_missing hr)
    exact ⟨h, .refl db⟩
  | some r =>
    obtain ⟨hsa, hda⟩ := hidle r hr
    have hother : r.natType.cnt? = none → NatOwned others db' ∧ NatSame db db' := by
      intro hcnt
      cases heq.symm.trans (natRemoveEntry_other hr hcnt)
      exact ⟨h.erase_other hr hcnt, ⟨rfl, rfl, rfl, rfl, rfl⟩⟩
    cases htype : r.natType with
    | sourceNat =>
      rcases natRemoveEntry_sourceNat hr htype with ⟨st, -, he⟩ | ⟨⟨hv, hrc⟩, -⟩
      · cases heq.symm.trans he
        exact ⟨h, .refl db⟩
      · exact absurd hrc ((hsa htype).resolve_left hv)
    | destinationNat =>
      obtain ⟨st, -, he⟩ := natRemoveEntry_destinationNat hr htype (hda htype)
      cases heq.symm.trans he
      exact ⟨h, .refl db⟩
    | none => exact hother (by rw [htype]; rfl)
    | doubleNat => exact hother (by rw [htype]; rfl)
    | destinationNatPool => exact hother (by rw [htype]; rfl)

theorem natCall_owned {a : NatCall} {r : Status × List (Status × Unit) × NatDb ch}
    (h : NatOwned others db) (hsafe : NatSafe m db a) (hcall : natCall m db a = some r) :
    NatOwned others r.2.2 ∧ (r.1 ≠ .success → NatSame db r.2.2) := by
  cases a with
  | create sdk e attrs =>
    cases hcall
    exact createNatEntry_owned h hsafe
  | remove sdk e =>
    obtain ⟨r', hr, hstay⟩ := hsafe
    obtain ⟨st, db', he, howned, hsame⟩ := removeNatEntry_owned h hr hstay
    rw [natCall, he] at hcall
    cases hcall
    exact ⟨howned, hsame⟩
  | bulkCreate mode objects =>
    obtain ⟨q, hq, rfl⟩ := Option.map_eq_some_iff.mp hcall
    have hinv := bulkLoop_inv (P := fun d => NatOwned others d ∧ NatSame db d)
      (fun s a status b s' hs hok hstep => by
        obtain ⟨howned, hsame⟩ := natBulkCreateOne_owned hs.1 hok hstep
        exact ⟨howned, hs.2.trans hsame⟩) ⟨h, .refl db⟩ hsafe hq
    exact ⟨hinv.1, fun _ => hinv.2⟩
  | bulkRemove mode objects =>
    obtain ⟨q, hq, rfl⟩ := Option.map_eq_some_iff.mp hcall
    have hinv := bulkLoop_inv (P := fun d => NatOwned others d ∧ NatSame db d)
      (fun s a status b s' hs hok hstep => by
        obtain ⟨howned, hsame⟩ := natBulkRemoveOne_owned hs.1 hok hstep
        exact ⟨howned, hs.2.trans hsame⟩) ⟨h, .refl db⟩ hsafe hq
    exact ⟨hinv.1, fun _ => hinv.2⟩

variable (m sdk e) in
theorem natRemoveEntry_entries : (natRemoveEntry m sdk db e).2.entries = db.entries ∨
    (natRemoveEntry m sdk db e).2.entries = db.entries.erase (natKey e) := by
  rw [natRemoveEntry]
  cases db.entries.lookup (natKey e) with
  | none => exact .inl rfl
  | some r =>
    have hsa : (removeSourceNat sdk db e).2.entries = db.entries := by
      rw [removeSourceNat]
      split
      · rfl
      · split <;> rfl
    have hda : (removeDestinationNat m sdk db e r.nhId).2.entries = db.entries := by
      rw [removeDestinationNat]
      split
      · rfl
      split
      · dsimp only
        split <;> rfl
      · rfl
    have hend : ∀ freed : Status × NatDb ch, freed.2.entries = db.entries → _ := fun freed he =>
      natRemoveEntry_ends (e := e) (P := fun d : NatDb ch => d.entries = db.entries ∨
        d.entries = db.entries.erase (natKey e)) freed (.inl he) (.inr (congrArg (AList.erase _) he))
    cases htype : r.natType with
    | sourceNat =>
      dsimp only
      rw [htype]
      exact hend _ hsa
    | destinationNat =>
      dsimp only
      rw [htype]
      exact hend _ hda
    | none => dsimp only; rw [htype]; exact .inr rfl
    | doubleNat => dsimp only; rw [htype]; exact .inr rfl
    | destinationNatPool => dsimp only; rw [htype]; exact .inr rfl

/-- In a bulk `remove`, ITEM_NOT_FOUND is the status of each entry that was not there. -/
theorem bulkRemove_missing {mode : BulkOpErrorMode} {objects : List (NatSdk × NatEntry)} :
    ∀ {db : NatDb ch} {r}, bulkLoop (natBulkRemoveOne m) mode db objects = some r →
      ∀ (i : Nat) (a : NatSdk × NatEntry) (result : Status × Unit), objects[i]? = some a → r.1[i]? = some result →
        db.entries.lookup (natKey a.2) = none → result.1 = .itemNotFound := by
  induction objects with
  | nil =>
    intro db r _ i a result ha
    cases ha
  | cons b rest ih =>
    intro db r hr i a result ha hres hnone
    rw [bulkLoop, natBulkRemoveOne] at hr
    dsimp only at hr
    cases i with
    | zero =>
      cases ha
      have hfirst : (natRemoveEntry m b.1 db b.2).1 = .itemNotFound := by
        rw [natRemoveEntry_missing hnone]
      split at hr
      · cases hr
        cases hres
        exact hfirst
      · obtain ⟨q, -, rfl⟩ := Option.map_eq_some_iff.mp hr
        cases hres
        exact hfirst
    | succ i =>
      split at hr
      · cases hr
        cases hres
      obtain ⟨q, hq, rfl⟩ := Option.map_eq_some_iff.mp hr
      refine ih hq i a result ha hres ?_
      rcases @natRemoveEntry_entries ch m b.1 b.2 db with he | he
      · rw [he]
        exact hnone
      · rw [he, lookup_erase_ite, hnone]
        split <;> rfl

theorem NatStart.owned (h : NatStart others db) : NatOwned others db := by
  have hnone : ∀ type k r, ¬ LiveAs db.entries type k r := by
    rintro type k r ⟨hl, -⟩
    rw [h.entries] at hl
    cases hl
  constructor
  · refine (ownsAll_empty others).congr ?_ h.nexthop
    rw [h.entries]
    rfl
  · intro i
    rw [h.tunnels]
    exact ⟨fun hi => (nomatch hi), fun ⟨k, r, hl, _⟩ => absurd hl (hnone _ k r)⟩
  · intro key i
    rw [h.natDa]
    exact ⟨fun hi => (nomatch hi), fun ⟨k, r, hl, _⟩ => absurd hl (hnone _ k r)⟩
  · intro key edit
    rw [h.natSa]
    exact ⟨fun hi => (nomatch hi), fun ⟨k, r, hl, _⟩ => absurd hl (hnone _ k r)⟩
  · intro k r k' r' hl
    exact absurd hl (hnone _ k r)
  · intro type i _
    rw [h.natCnt, h.entries]
    rfl

end Steps

/-- In every run of calls that lose nothing, the allocator, the SDK and the counters hold
what the live entries own; a call that returns an error changes none of them, and a bulk
`remove` reports ITEM_NOT_FOUND where there is no entry. -/
theorem natOwned_of_run {others : Finset Nat} {db : NatDb ch}
    (h : Reachable (NatStart others) (NatSafe m) (natStep m) db) :
    NatOwned others db ∧
      ∀ a r, NatSafe m db a → natCall m db a = some r →
        NatOwned others r.2.2 ∧ (r.1 ≠ .success → NatSame db r.2.2) ∧
          ∀ mode objects, a = .bulkRemove mode objects →
            ∀ (i : Nat) (o : NatSdk × NatEntry) (result : Status × Unit),
              objects[i]? = some o → r.2.1[i]? = some result →
                db.entries.lookup (natKey o.2) = none → result.1 = .itemNotFound := by
  have howned : NatOwned others db := by
    refine h.inv (fun s hs => hs.owned) fun s a s' hs hok hstep => ?_
    obtain ⟨r, hr, rfl⟩ := Option.map_eq_some_iff.mp hstep
    exact (natCall_owned hs hok hr).1
  refine ⟨howned, fun a r hsafe hcall => ?_⟩
  obtain ⟨hnext, hsame⟩ := natCall_owned howned hsafe hcall
  refine ⟨hnext, hsame, ?_⟩
  rintro mode objects rfl
  obtain ⟨q, hq, rfl⟩ := Option.map_eq_some_iff.mp hcall
  exact bulkRemove_missing hq

/-! ## On the small chip -/

/-- The SDK that does all it is asked, with no route. -/
def NatSdk.ok : NatSdk where
  ipucAddNatSa := .none
  ipucRemoveNatSa := .none
  ipucAdd := .none
  ipucRemove := .none
  nhAddIpTunnel := .none
  nhRemoveIpTunnel := .none
  natMem := true
  entryMem := true
  objectExists _ := true
  route _ _ _ := none
  nextHopRif _ := none
  rif _ := none
  neighborMac _ _ := none

/-- No NAT entry. -/
def NatDb.empty (ch : Chip) : NatDb ch := ⟨∅, .empty _, fun _ => 0, ∅, ∅, ∅⟩

theorem NatDb.empty_start (ch : Chip) : NatStart ∅ (NatDb.empty ch) :=
  ⟨rfl, rfl, fun _ => rfl, rfl, rfl, rfl⟩

/-- An entry of the first virtual router. -/
def natEntryOf (key : NatTuple) : NatEntry :=
  ⟨.null, createObjectId .virtualRouter 0 0 0 1, key, .full⟩

/-- A source-NAT entry is made and is counted. -/
theorem natOwned_of_run_sourceNat : ∃ db : NatDb .small,
    NatOwned ∅ db ∧ db.natCnt .snat = 1 ∧ natLive db.entries .sourceNat = 1 := by
  have r₀ : Reachable (NatStart ∅) (NatSafe .ones) (natStep .ones) (NatDb.empty .small) :=
    .start (NatDb.empty_start _)
  have r₁ := r₀.next (.create .ok (natEntryOf ⟨0x0100000A, 0, 6, 80, 0⟩)
    [.natType .sourceNat, .srcIp 0x01000014, .l4SrcPort 8080])
    (by exact .inr ⟨rfl, rfl, rfl, by decide⟩) rfl
  exact ⟨_, (natOwned_of_run r₁).1, by decide, by decide⟩

/-- A destination-NAT entry without a route to its new address keeps a NEXTHOP id; one that
is made and removed keeps its id too; a bulk `create` does not count; and removing what is
not there does not return. -/
theorem natOwned_not_every_run :
    (∃ db : NatDb .small, Reachable (NatStart ∅) anyStep (natStep .ones) db ∧
      db.entries = ∅ ∧ 3 ∈ db.nexthop.used) ∧
    (∃ db : NatDb .small, Reachable (NatStart ∅) anyStep (natStep .ones) db ∧
      db.entries = ∅ ∧ 3 ∈ db.nexthop.used ∧ db.tunnels = ∅) ∧
    (∃ db : NatDb .small, Reachable (NatStart ∅) anyStep (natStep .ones) db ∧
      natLive db.entries .sourceNat = 1 ∧ db.natCnt .snat = 0) ∧
    natCall .ones (NatDb.empty .small) (.remove .ok (natEntryOf ⟨0, 0, 6, 0, 0⟩)) = none := by
  have r₀ : Reachable (NatStart ∅) anyStep (natStep .ones) (NatDb.empty .small) :=
    .start (NatDb.empty_start _)
  have r₁ := r₀.next (.create .ok (natEntryOf ⟨0, 0x0100000A, 6, 0, 80⟩)
    [.natType .destinationNat, .dstIp 0x01000014]) trivial rfl
  have r₂ := r₀.next (.create .ok (natEntryOf ⟨0, 0x0100000A, 6, 0, 80⟩)
    [.natType .destinationNat, .dstIp 0x01000014, .customDnatReroute true]) trivial rfl
  have r₃ := r₂.next (.remove .ok (natEntryOf ⟨0, 0x0100000A, 6, 0, 80⟩)) trivial rfl
  have r₄ := r₀.next (.bulkCreate .stopOnError [(.ok, natEntryOf ⟨0x0100000A, 0, 6, 80, 0⟩,
    [.natType .sourceNat, .srcIp 0x01000014])]) trivial rfl
  exact ⟨⟨_, r₁, rfl, by decide⟩, ⟨_, r₃, rfl, by decide, rfl⟩, ⟨_, r₄, by decide, rfl⟩, rfl⟩

end CtcSai
