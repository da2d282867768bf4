/-
# `EntryKeysRoundTrip` — a listed entry is the entry that is stored

A key that has been stored is in a normal form: nothing stands in the words
and fields its branch does not write.  On normal forms `unmapping` followed by
`mapping` is the identity, as far as the forwarding instance can be looked up
again: the bridge or VLAN is rebuilt without a sub-type, and it may be gone.
Three branches leave the switch id null, which decodes to chip 0.
-/
import CtcSai.EntryKeys
import CtcSai.RouteKeys

namespace CtcSai

open KeyedTable Runs

variable {δ : Type} {m : KeyMacros} {g : HashDbs δ} {lchip : WbChip} {db : HashDb δ}

/-! ## The property and its condition -/

/-- The types `sai_get_object_key` lists from the entry tables. -/
def DbEntryType.Listed : DbEntryType → Prop
  | .neighbor | .route | .mcastL2mc | .mcastIpmc | .mcastFdb | .mpls => True
  | .acl | .aclBind | .nat => False

/-- The rebuilt entry names the chip, maps back to the key, and is found;
`ex` is `neighbor_exists` in the data of a neighbor. -/
structure KeyRoundTrip (m : KeyMacros) (ex : δ → Bool) (g : HashDbs δ) (lchip : WbChip)
    (k : EntryKey) (data : δ) : Prop where
  switchId : (entryUnmappingKey m lchip k).switchId?.bind (oidGetLchip g) = some lchip
  mapping : (entryMappingKey m g (entryUnmappingKey m lchip k)).2 = k
  found : getEntry m g ex (entryUnmappingKey m lchip k) = some data

/-- The rebuilt bridge is an object, or the rebuilt VLAN one of this instance. -/
def BvStands (db : HashDb δ) (lchip : WbChip) (isBridge : Bool) (fid : BitVec 16) : Prop :=
  match isBridge with
  | true => ((db.oidHash .bridge).lookup (rebuiltBvId lchip true fid)).isSome
  | false => (db.oidHash .vlan).lookup (rebuiltBvId lchip false fid) = some ⟨fid⟩

/-- No VLAN has the forwarding instance 0. -/
def NoVlanZero (db : HashDb δ) (lchip : WbChip) : Prop :=
  (db.oidHash .vlan).lookup (rebuiltBvId lchip false 0) = none

/-- When the key of an entry comes back.  An entry that was stored though its
bridge or VLAN did not exist has the zeroed key. -/
def KeyComesBack (db : HashDb δ) (lchip : WbChip) : EntryKey → Prop
  | .neighbor _ => True
  | .route _ => True
  | .l2mc k =>
    (k.isL2mc ∧ BvStands db lchip k.isBridge k.vrfId) ∨ (k = .zero ∧ NoVlanZero db lchip)
  | .ipmc _ => lchip = 0
  | .mcastFdb k =>
    lchip = 0 ∧ (BvStands db lchip k.isBridge k.fid ∨ (k = .zero ∧ NoVlanZero db lchip))
  | .mpls _ => lchip = 0
  | .acl _ => False
  | .aclBind _ => False
  | .nat _ => False

/-- A neighbor is one of its own, not only the record of next hops. -/
def EntryKey.Own (ex : δ → Bool) (data : δ) : EntryKey → Prop
  | .neighbor _ => ex data = true
  | _ => True

/-! ## Normal forms -/

/-- A key one of the multicast branches has written. -/
def McastIpKey.Canonical (k : McastIpKey) : Prop :=
  ∃ type destination source,
    k = mappingMcastIpKey k.vrfId k.isL2mc k.isBridge type destination source

def EntryKey.Normal : EntryKey → Prop
  | .route k =>
    (match k.ipVer with
      | .ipv4 => k.maskLen.toNat ≤ 32
      | .ipv6 => k.maskLen.toNat ≤ 128) ∧ k.addr.copy k.ipVer = k.addr
  | .l2mc k => k = .zero ∨ (k.isL2mc = true ∧ k.Canonical)
  | .ipmc k => k.isL2mc = false ∧ k.isBridge = false ∧ k.Canonical
  | _ => True

theorem canonical_mapping (vrfId : BitVec 16) (isL2mc isBridge : Bool) (type : McastEntryType)
    (destination source : IpUnion) :
    (mappingMcastIpKey vrfId isL2mc isBridge type destination source).Canonical :=
  ⟨type, destination, source, rfl⟩

@[simp] theorem IpWords.copy_copy (a : IpWords) (f : IpFamily) : (a.copy f).copy f = a.copy f := by
  cases f <;> rfl

theorem normal_entryMappingKey (m : KeyMacros) (g : HashDbs δ) (key : ApiKey) :
    (entryMappingKey m g key).2.Normal := by
  cases key with
  | route e =>
    cases hf : e.destination.addrFamily with
    | ipv4 => simp [entryMappingKey, EntryKey.Normal, mappingRouteKey, hf, m.v4_le, IpWords.copy]
    | ipv6 => simp [entryMappingKey, EntryKey.Normal, mappingRouteKey, hf, m.v6_le, IpWords.copy]
  | l2mc e =>
    show (mappingL2mcKey g e).2 = .zero ∨ _
    unfold mappingL2mcKey
    split
    · exact .inr ⟨rfl, canonical_mapping ..⟩
    · exact .inl rfl
  | ipmc e => exact ⟨rfl, rfl, canonical_mapping ..⟩
  | mcastFdb e => trivial
  | neighbor e => trivial
  | acl i => trivial
  | aclBind o => trivial
  | mpls e => trivial
  | nat e => trivial

theorem McastIpKey.Canonical.rebuilt {k : McastIpKey} (h : k.Canonical) :
    mappingMcastIpKey k.vrfId k.isL2mc k.isBridge k.type k.destination k.source = k := by
  obtain ⟨type, destination, source, hk⟩ := h
  rw [hk]
  cases type <;> cases hf : destination.addrFamily <;>
    simp [mappingMcastIpKey, mcastSrcMaskLen, McastIpKey.type, McastIpKey.destination,
      McastIpKey.source, hf]

/-! ## The chip of a rebuilt id -/

@[simp] theorem toNat_lchip_createObjectId (t : ObjectType) (lchip : WbChip) (s v2 v) :
    (createObjectId t lchip.toByte s v2 v).lchip.toNat = lchip := by
  simp only [createObjectId, WbChip.toByte, BitVec.toNat_setWidth, BitVec.toNat_ofNat]
  omega

theorem oidGetLchip_createObjectId (hg : g lchip = some db) (t : ObjectType) (s v2 v) :
    oidGetLchip g (createObjectId t lchip.toByte s v2 v) = some lchip := by
  simp [oidGetLchip, hg]

theorem oidGetLchip_null (hg : g lchip = some db) :
    oidGetLchip g .null = some lchip ↔ lchip = 0 := by
  constructor
  · intro h
    by_cases h0 : (g 0).isSome
    · have hzero : oidGetLchip g .null = some 0 := by
        simp [oidGetLchip, Oid.null, h0]
      exact (Option.some.inj (hzero.symm.trans h)).symm
    · have hnone : oidGetLchip g .null = none := by
        simp [oidGetLchip, Oid.null, h0]
      exact nomatch hnone.symm.trans h
  · rintro rfl
    simp [oidGetLchip, Oid.null, hg]

/-! ## The forwarding instance of a rebuilt bridge or VLAN -/

theorem bridgeGetFid_vlan (hg : g lchip = some db) (fid : BitVec 16) :
    bridgeGetFid g (rebuiltBvId lchip false fid) =
      match (db.oidHash .vlan).lookup (rebuiltBvId lchip false fid) with
      | none => (.invalidObjectId, 0)
      | some data => (.success, data.userVlanptr) := by
  have hchip : oidGetLchip g (rebuiltBvId lchip false fid) = some lchip :=
    oidGetLchip_createObjectId hg ..
  have htype : (rebuiltBvId lchip false fid).type = ObjectType.vlan.bits := rfl
  cases hl : (db.oidHash .vlan).lookup (rebuiltBvId lchip false fid) <;>
    simp only [bridgeGetFid, hchip, if_pos htype, Option.getD_some, hg, Option.bind_some, hl]

theorem bridgeGetFid_bridge (hg : g lchip = some db) (fid : BitVec 16) :
    bridgeGetFid g (rebuiltBvId lchip true fid) =
      match (db.oidHash .bridge).lookup (rebuiltBvId lchip true fid) with
      | none => (.invalidObjectId, 0)
      | some _ => (.success, fid) := by
  have hchip : oidGetLchip g (rebuiltBvId lchip true fid) = some lchip :=
    oidGetLchip_createObjectId hg ..
  have hvlan : ¬ (rebuiltBvId lchip true fid).type = ObjectType.vlan.bits := fun h =>
    nomatch ObjectType.bits_inj.mp h
  have hbridge : (rebuiltBvId lchip true fid).type = ObjectType.bridge.bits := rfl
  have hval : (rebuiltBvId lchip true fid).value.setWidth 16 = fid := by
    simp [rebuiltBvId]
  cases hl : (db.oidHash .bridge).lookup (rebuiltBvId lchip true fid) <;>
    simp only [bridgeGetFid, hchip, if_neg hvlan, if_pos hbridge, Option.getD_some, hg,
      Option.bind_some, hval, hl]

theorem bridgeGetFid_rebuilt (hg : g lchip = some db) (isBridge : Bool) (fid : BitVec 16) :
    bridgeGetFid g (rebuiltBvId lchip isBridge fid) = (.success, fid) ↔
      BvStands db lchip isBridge fid := by
  cases isBridge with
  | false =>
    rw [bridgeGetFid_vlan hg, BvStands]
    cases (db.oidHash .vlan).lookup (rebuiltBvId lchip false fid) with
    | none => simp
    | some data =>
      rcases data with ⟨ptr⟩
      simp
  | true =>
    rw [bridgeGetFid_bridge hg, BvStands]
    cases (db.oidHash .bridge).lookup (rebuiltBvId lchip true fid) <;> simp

theorem bridgeGetFid_zero (hg : g lchip = some db) :
    (bridgeGetFid g (rebuiltBvId lchip false 0)).1 ≠ .success ↔ NoVlanZero db lchip := by
  rw [bridgeGetFid_vlan hg, NoVlanZero]
  cases (db.oidHash .vlan).lookup (rebuiltBvId lchip false 0) <;> simp

theorem rebuiltBvId_isBridge (lchip : WbChip) (isBridge : Bool) (fid : BitVec 16) :
    decide ((rebuiltBvId lchip isBridge fid).type = ObjectType.bridge.bits) = isBridge := by
  cases isBridge
  · have hne : ¬ (rebuiltBvId lchip false fid).type = ObjectType.bridge.bits := fun h =>
      nomatch ObjectType.bits_inj.mp h
    simp [hne]
  · have heq : (rebuiltBvId lchip true fid).type = ObjectType.bridge.bits := rfl
    simp [heq]

/-! ## Each type -/

theorem mappingRouteKey_unmapping {k : RouteKey} (hk : (EntryKey.route k).Normal) (switchId : Oid)
    (lchip : BitVec 8) :
    mappingRouteKey m.toMaskToLen {
      switchId := switchId
      vrId := createObjectId .virtualRouter lchip 0 0 (k.vrfId.setWidth 32)
      destination := {
        addrFamily := k.ipVer
        addr := k.addr.copy k.ipVer
        mask := ntohV6 (match k.ipVer with
          | .ipv4 => { m.stack with w0 := m.lenV4 k.maskLen }
          | .ipv6 => m.lenV6 k.maskLen) } } = k := by
  obtain ⟨hlen, haddr⟩ := hk
  rcases k with ⟨vrfId, maskLen, ipVer, addr⟩
  cases ipVer with
  | ipv4 =>
    have hword : m.v4 (m.lenV4 maskLen) = maskLen := by
      rw [m.lenV4_eq _ hlen, m.v4_maskWord _ hlen, BitVec.ofNat_toNat, BitVec.setWidth_eq]
    have hmask : (ntohV6 (ntohV6 { m.stack with w0 := m.lenV4 maskLen })).w0 =
        m.lenV4 maskLen := by rw [ntohV6_ntohV6]
    simp only [mappingRouteKey, hmask, hword, value_createObjectId]
    simpa [IpWords.copy] using haddr
  | ipv6 =>
    have hwords : m.v6 (m.lenV6 maskLen) = maskLen := by
      rw [m.lenV6_eq _ hlen, m.v6_maskV6 _ hlen, BitVec.ofNat_toNat, BitVec.setWidth_eq]
    simp only [mappingRouteKey, ntohV6_ntohV6, hwords, value_createObjectId]
    simp [IpWords.copy]

theorem mappingL2mcKey_rebuilt (hg : g lchip = some db) {k : McastIpKey}
    (hk : (EntryKey.l2mc k).Normal) (switchId : Oid) :
    (mappingL2mcKey g ⟨switchId, rebuiltBvId lchip k.isBridge k.vrfId, k.type, k.destination,
      k.source⟩).2 = k ↔ KeyComesBack db lchip (.l2mc k) := by
  unfold mappingL2mcKey KeyComesBack
  rcases hk with rfl | ⟨hl2mc, hcanon⟩
  · -- the zeroed key is made again where the lookup fails again
    have hzero := bridgeGetFid_zero hg
    split
    · next fid hfid =>
      simp only [McastIpKey.zero, Bool.false_eq_true, false_and, false_or, true_and]
      constructor
      · intro h
        exact nomatch congrArg McastIpKey.isL2mc h
      · intro h
        exact absurd (congrArg Prod.fst hfid) (hzero.mpr h)
    · next status fid hne hfid =>
      simp only [true_and, true_iff]
      exact .inr (hzero.mp fun h => hne ((congrArg Prod.fst hfid).symm.trans h))
  · have hnz : k ≠ .zero := by
      rintro rfl
      exact nomatch hl2mc
    have hstands := bridgeGetFid_rebuilt hg k.isBridge k.vrfId
    simp only [hl2mc, hnz, true_and, false_and, or_false, ← hstands]
    split
    · next fid hfid =>
      rw [hfid, rebuiltBvId_isBridge]
      constructor
      · intro h
        have hv := congrArg McastIpKey.vrfId h
        exact congrArg _ hv
      · intro h
        rw [(Prod.mk.inj h).2]
        simpa [hl2mc] using hcanon.rebuilt
    next status fid hne hfid =>
    constructor
    · intro h
      exact absurd h.symm hnz
    · intro h
      exact absurd (congrArg Prod.fst (hfid.symm.trans h)) hne

theorem mappingMcastFdbKey_rebuilt (hg : g lchip = some db) (k : McastFdbKey) (switchId : Oid) :
    (mappingMcastFdbKey g ⟨switchId, k.mac, rebuiltBvId lchip k.isBridge k.fid⟩).2 = k ↔
      BvStands db lchip k.isBridge k.fid ∨ (k = .zero ∧ NoVlanZero db lchip) := by
  have hstands := bridgeGetFid_rebuilt hg k.isBridge k.fid
  have hzero := bridgeGetFid_zero hg
  unfold mappingMcastFdbKey
  rw [← hstands]
  split
  · next fid hfid =>
    rw [hfid, rebuiltBvId_isBridge]
    constructor
    · intro h
      have hv := congrArg McastFdbKey.fid h
      exact .inl (congrArg _ hv)
    · rintro (h | ⟨rfl, hno⟩)
      · rw [(Prod.mk.inj h).2]
      · exact absurd (congrArg Prod.fst hfid) (hzero.mpr hno)
  next status fid hne hfid =>
  constructor
  · rintro rfl
    exact .inr ⟨rfl, hzero.mp fun h => hne ((congrArg Prod.fst hfid).symm.trans h)⟩
  · rintro (h | ⟨rfl, -⟩)
    · exact absurd (congrArg Prod.fst (hfid.symm.trans h)) hne
    · rfl

theorem unmapping_iff (hg : g lchip = some db) {k : EntryKey} (hk : k.Normal)
    (hlisted : k.entryType.Listed) :
    ((entryUnmappingKey m lchip k).switchId?.bind (oidGetLchip g) = some lchip ∧
      (entryMappingKey m g (entryUnmappingKey m lchip k)).2 = k) ↔ KeyComesBack db lchip k := by
  have hswitch : oidGetLchip g (m.switchId lchip) = some lchip :=
    oidGetLchip_createObjectId hg ..
  have hnull := oidGetLchip_null hg
  cases k with
  | neighbor k =>
    refine iff_of_true ⟨hswitch, ?_⟩ trivial
    simp [entryMappingKey, entryUnmappingKey, neighborKey, NeighborKey.rif, createObjectId]
  | route k =>
    refine iff_of_true ⟨hswitch, ?_⟩ trivial
    exact congrArg EntryKey.route (mappingRouteKey_unmapping hk (m.switchId lchip) lchip.toByte)
  | l2mc k =>
    have hkey := mappingL2mcKey_rebuilt hg hk (m.switchId lchip)
    refine Iff.trans ⟨fun h => ?_, fun h => ⟨hswitch, congrArg EntryKey.l2mc h⟩⟩ hkey
    exact EntryKey.l2mc.inj h.2
  | ipmc k =>
    obtain ⟨hl2mc, hbridge, hcanon⟩ := hk
    refine Iff.trans ⟨fun h => h.1, fun h => ⟨h, congrArg EntryKey.ipmc ?_⟩⟩ hnull
    have hsame := hcanon.rebuilt
    rw [hl2mc, hbridge] at hsame
    simpa [entryMappingKey] using hsame
  | mcastFdb k =>
    have hkey := mappingMcastFdbKey_rebuilt hg k .null
    refine Iff.trans ⟨fun h => ?_, fun h => ?_⟩ (and_congr hnull hkey)
    · exact ⟨h.1, EntryKey.mcastFdb.inj h.2⟩
    · exact ⟨h.1, congrArg EntryKey.mcastFdb h.2⟩
  | mpls label => exact Iff.trans ⟨fun h => h.1, fun h => ⟨h, rfl⟩⟩ hnull
  | acl i => exact absurd hlisted id
  | aclBind o => exact absurd hlisted id
  | nat k => exact absurd hlisted id

/-- The get function asks `neighbor_exists` where the key is a neighbor's. -/
theorem getEntry_iff {ex : δ → Bool} (hg : g lchip = some db) {k : EntryKey} {data : δ}
    (hstored : (db.entryHash k.entryType).lookup k = some data)
    (hswitch : (entryUnmappingKey m lchip k).switchId?.bind (oidGetLchip g) = some lchip)
    (hmap : (entryMappingKey m g (entryUnmappingKey m lchip k)).2 = k) :
    getEntry m g ex (entryUnmappingKey m lchip k) = some data ↔ k.Own ex data := by
  have hget : entryPropertyGet m g lchip (entryUnmappingKey m lchip k) = some data := by
    rw [entryPropertyGet, hg, Option.bind_some, hmap, hstored]
  rw [getEntry, hswitch, Option.bind_some, hget]
  cases k with
  | neighbor k => simp [entryUnmappingKey, EntryKey.Own]
  | _ => exact iff_of_true rfl trivial

theorem keyRoundTrip_iff {ex : δ → Bool} (hg : g lchip = some db) {k : EntryKey} {data : δ}
    (hk : k.Normal) (hlisted : k.entryType.Listed)
    (hstored : (db.entryHash k.entryType).lookup k = some data) :
    KeyRoundTrip m ex g lchip k data ↔ KeyComesBack db lchip k ∧ k.Own ex data := by
  rw [← unmapping_iff hg hk hlisted]
  constructor
  · rintro ⟨hswitch, hmap, hfound⟩
    exact ⟨⟨hswitch, hmap⟩, (getEntry_iff hg hstored hswitch hmap).mp hfound⟩
  · rintro ⟨⟨hswitch, hmap⟩, hown⟩
    exact ⟨hswitch, hmap, (getEntry_iff hg hstored hswitch hmap).mpr hown⟩

/-! ## Runs -/

/-- What changes the database of a chip. -/
inductive KeyOp (δ : Type) where
  | init (lchip : WbChip)
  | entryAdd (lchip : WbChip) (key : ApiKey) (property : δ)
  | entryRemove (lchip : WbChip) (key : ApiKey)
  /-- The data of an entry is written in place. -/
  | entryWrite (lchip : WbChip) (k : EntryKey) (data : δ)
  /-- Objects come and go. -/
  | objects (lchip : WbChip) (oidHash : ObjectType → Table Oid ObjectData)

/-- A database after `ctc_sai_db_init`. -/
def HashDb.empty : HashDb δ := ⟨fun _ => ∅, fun _ => ∅⟩

def keyStep (m : KeyMacros) (g : HashDbs δ) : KeyOp δ → Option (HashDbs δ)
  | .init lchip => some (Function.update g lchip (some .empty))
  | .entryAdd lchip key property => some (entryPropertyAdd m g lchip key property).2
  | .entryRemove lchip key => some (entryPropertyRemove m g lchip key).2
  | .entryWrite lchip k data => do
    let db ← g lchip
    let _ ← (db.entryHash k.entryType).lookup k
    some (Function.update g lchip
      (some (db.setEntries k.entryType ((db.entryHash k.entryType).insert k data))))
  | .objects lchip oidHash =>
    some (Function.update g lchip ((g lchip).map fun db => { db with oidHash := oidHash }))

def KeyStart (g : HashDbs δ) : Prop := g = fun _ => none

/-- Every stored key stands in the table of its type, in normal form. -/
def KeysNormal (g : HashDbs δ) : Prop :=
  ∀ lchip db, g lchip = some db → ∀ type k data, (db.entryHash type).lookup k = some data →
    k.entryType = type ∧ k.Normal

theorem KeysNormal.update (h : KeysNormal g) {o : Option (HashDb δ)}
    (ho : ∀ db, o = some db → ∀ type k data, (db.entryHash type).lookup k = some data →
      k.entryType = type ∧ k.Normal) : KeysNormal (Function.update g lchip o) := by
  intro c db hdb
  by_cases hc : c = lchip
  · subst hc
    rw [Function.update_self] at hdb
    exact ho db hdb
  · rw [Function.update_of_ne hc] at hdb
    exact h c db hdb

theorem KeysNormal.setEntries (h : KeysNormal g) (hg : g lchip = some db) {t : Table EntryKey δ}
    {type : DbEntryType} (ht : ∀ k data, t.lookup k = some data → k.entryType = type ∧ k.Normal) :
    KeysNormal (Function.update g lchip (some (db.setEntries type t))) := by
  refine h.update fun db' hdb' type' k data hl => ?_
  obtain rfl := Option.some.inj hdb'
  by_cases htype : type' = type
  · subst htype
    refine ht k data ?_
    simpa [HashDb.setEntries] using hl
  · refine h lchip db hg type' k data ?_
    simpa [HashDb.setEntries, Function.update_of_ne htype] using hl

theorem keysNormal_step {g g' : HashDbs δ} (h : KeysNormal g) (op : KeyOp δ)
    (hs : keyStep m g op = some g') : KeysNormal g' := by
  cases op with
  | init lchip =>
    obtain rfl := Option.some.inj hs
    refine h.update fun db hdb type k data hl => ?_
    obtain rfl := Option.some.inj hdb
    exact nomatch hl
  | objects lchip oidHash =>
    obtain rfl := Option.some.inj hs
    refine h.update fun db hdb type k data hl => ?_
    obtain ⟨db₀, hdb₀, rfl⟩ := Option.map_eq_some_iff.mp hdb
    exact h lchip db₀ hdb₀ type k data hl
  | entryWrite lchip k data =>
    obtain ⟨db, hdb, hs⟩ := Option.bind_eq_some_iff.mp hs
    obtain ⟨old, hl, hs⟩ := Option.bind_eq_some_iff.mp hs
    obtain rfl := Option.some.inj hs
    refine h.setEntries hdb fun k' data' hl' => ?_
    rcases Table.of_lookup_insert hl' with ⟨rfl, -⟩ | ⟨-, hl'⟩
    · exact h lchip db hdb _ _ old hl
    · exact h lchip db hdb _ k' data' hl'
  | entryAdd lchip key property =>
    obtain rfl := Option.some.inj hs
    unfold entryPropertyAdd
    split
    · exact h
    next db hdb =>
    dsimp only
    split
    · exact h
    refine h.setEntries hdb fun k data hl => ?_
    rcases Table.of_lookup_insert hl with ⟨heq, -⟩ | ⟨-, hl⟩
    · rw [heq]
      exact ⟨rfl, normal_entryMappingKey m g key⟩
    · exact h lchip db hdb _ k data hl
  | entryRemove lchip key =>
    obtain rfl := Option.some.inj hs
    unfold entryPropertyRemove
    split
    · exact h
    next db hdb =>
    dsimp only
    split
    · refine h.setEntries hdb fun k data hl => ?_
      replace hl := (Table.of_lookup_erase hl).2
      exact h lchip db hdb _ k data hl
    · exact h

theorem countOnes_le (w : BitVec 32) : countOnes w ≤ 32 := by
  have h := List.countP_le_length (p := fun i => w.getLsbD i) (l := List.range 32)
  rwa [List.length_range] at h

/-- Lengths that count the ones of a mask, and masks of ones. -/
def KeyMacros.ones : KeyMacros where
  toMaskToLen := .ones
  lenV4 len := maskWord len.toNat
  lenV6 len := maskV6 len.toNat
  v4_le w := by
    have h := countOnes_le w
    simp only [MaskToLen.ones, BitVec.toNat_ofNat]
    omega
  v6_le a := by
    have h0 := countOnes_le a.w0
    have h1 := countOnes_le a.w1
    have h2 := countOnes_le a.w2
    have h3 := countOnes_le a.w3
    simp only [MaskToLen.ones, BitVec.toNat_ofNat]
    omega
  lenV4_eq _ _ := rfl
  lenV6_eq _ _ := rfl
  gchip _ := 0
  stack := .zero

def anySource (switchId bvId : Oid) : ApiKey :=
  .l2mc ⟨switchId, bvId, .xg, ⟨.ipv4, { IpWords.zero with w0 := 0x010000e0 }⟩, ⟨.ipv4, .zero⟩⟩

def anySourceKey (isBridge : Bool) (fid : BitVec 16) : EntryKey :=
  .l2mc ⟨fid, 0, .ipv4, true, isBridge, .zero, { IpWords.zero with w0 := 0x010000e0 }⟩

def oneObject (type : ObjectType) (oid : Oid) (ptr : BitVec 16) : ObjectType → Table Oid ObjectData :=
  Function.update (fun _ => ∅) type (AList.singleton oid ⟨ptr⟩)

end CtcSai
