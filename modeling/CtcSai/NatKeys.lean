/-
# `NatKeys` — the SDK's key of a NAT entry, and what is read back

Four functions build the key under which the SDK knows an entry: `create`,
`remove`, and HIT_BIT in `set` and in `get`.  The first two share the mapping of
`NatEntries`; the other two build the key by hand, `set` in variables that it does
not initialise.  Here the four keys are compared, for every live entry of every
run, and the values a caller gave are compared with those that `get` returns.
-/
import CtcSai.NatOwners

namespace CtcSai

open Function IdPool KeyedTable Runs Table

variable {ch : Chip} {m : MaskToLen} {sdk : NatSdk} {e : NatEntry} {attrs : List NatAttr}
variable {db db' : NatDb ch} {st : Status}

/-! ## HIT_BIT -/

/-- A key of the SDK: of its source-NAT entries, or of its NAT routes. -/
inductive NatHwKey where
  | sa (key : NatSaKey)
  | da (key : NatDaKey)
deriving DecidableEq, Repr

/-- The key of `create` and of `remove`. -/
def natHwKey (m : MaskToLen) (e : NatEntry) : NatType → Option NatHwKey
  | .sourceNat => (natSaKey e).map .sa
  | .destinationNat => (natDaKey m e).map .da
  | _ => none

/-- What `_ctc_sai_nat_set_attr` finds in its own variables. -/
structure NatStack where
  useTcpPort : Bool
  masklen : BitVec 8
  isTcpPort : Bool

/-- The TCP flag of a protocol; for one that is neither TCP nor UDP it stays what it was. -/
def natTcpFlag (proto : BitVec 8) (before : Bool) : Bool :=
  if proto = 6 then true else if proto = 17 then false else before

/-- The key of HIT_BIT in `_ctc_sai_nat_set_attr`. -/
def natSetHitKey (stack : NatStack) (e : NatEntry) : NatType → Option NatHwKey
  | .sourceNat => (oidGetVrfId e.vrId).map fun vrfId =>
    .sa ⟨vrfId, e.key.srcIp, e.key.l4SrcPort, natTcpFlag e.key.proto stack.useTcpPort⟩
  | .destinationNat => (oidGetVrfId e.vrId).map fun vrfId =>
    .da ⟨vrfId, e.key.dstIp, stack.masklen, e.key.l4DstPort,
      natTcpFlag e.key.proto stack.isTcpPort⟩
  | _ => none

/-- The key of HIT_BIT in `_ctc_sai_nat_get_attr`. -/
def natGetHitKey (m : MaskToLen) (e : NatEntry) : NatType → Option NatHwKey
  | .sourceNat => (oidGetVrfId e.vrId).map fun vrfId =>
    .sa ⟨vrfId, ntohl e.key.srcIp, e.key.l4SrcPort, natTcpFlag e.key.proto false⟩
  | .destinationNat => (oidGetVrfId e.vrId).map fun vrfId =>
    .da ⟨vrfId, ntohl e.key.dstIp, m.v4 (ntohl e.mask.dstIp), e.key.l4DstPort,
      natTcpFlag e.key.proto false⟩
  | _ => none

/-- What the SDK answers to a call on HIT_BIT. -/
structure NatHitSdk where
  setHit : NatHwKey → Bool → CtcE
  getHit : NatHwKey → Except CtcE Bool

/-- `_ctc_sai_nat_set_attr`: the status, and the call made into the SDK. -/
def natSetAttr (stack : NatStack) (sdk : NatHitSdk) (db : NatDb ch) (e : NatEntry) :
    NatAttr → Status × Option (NatHwKey × Bool)
  | .hitBit b =>
    match db.entries.lookup (natKey e) with
    | none => (.itemNotFound, none)
    | some r =>
      if r.natType.cnt?.isSome then
        match natSetHitKey stack e r.natType with
        | none => (.invalidObjectId, none)
        | some key => (mappingErrorCtc (sdk.setHit key b), some (key, b))
      else (.success, none)
  | _ => if (db.entries.lookup (natKey e)).isSome then (.notSupported, none)
    else (.itemNotFound, none)

/-! ## Reading -/

/-- `ctcs_nh_get_nh_info` of the next hop of a record; one without an id keeps the zeroed
parameter. -/
def natTunnelOf (db : NatDb ch) (r : NatInfo) : Option NatNhParam :=
  if r.nhId ≠ 0 then db.tunnels.lookup r.nhId else some .zero

/-- `_ctc_sai_nat_get_attr`. -/
def natGetAttr (m : MaskToLen) (sdk : NatHitSdk) (db : NatDb ch) (e : NatEntry)
    (attrIdx : Nat) (id : NatAttrId) : Except Status NatAttr :=
  match db.entries.lookup (natKey e) with
  | none => .error .itemNotFound
  | some r =>
    match natTunnelOf db r with
    | none => .error (mappingErrorCtc .nhNotExist)
    | some ipTunnel =>
      match id with
      | .natType => .ok (.natType r.natType)
      | .srcIp => .ok (.srcIp r.newIpsa)
      | .l4SrcPort => .ok (.l4SrcPort r.newL4SrcPort)
      | .dstIp => .ok (.dstIp ipTunnel.ipDa)
      | .l4DstPort => .ok (.l4DstPort ipTunnel.l4DstPort)
      | .hitBit =>
        if r.natType.cnt?.isSome then
          match natGetHitKey m e r.natType with
          | none => .error .invalidObjectId
          | some key =>
            match sdk.getHit key with
            | .error code => .error (mappingErrorCtc code)
            | .ok hit => .ok (.hitBit hit)
        else .ok (.hitBit false)
      | _ => .error (.attrNotSupported attrIdx)

/-- A value cut by the mask given with it. -/
def masked (value : BitVec 32) (mask? : Option (BitVec 32)) : BitVec 32 :=
  match mask? with
  | some mask => value &&& mask
  | none => value

/-- The value a caller gave for an attribute, masked. -/
def natGiven (attrs : List NatAttr) : NatAttrId → Option NatAttr
  | .srcIp => (findAttribInList NatAttr.srcIp? attrs).map fun a =>
    .srcIp (masked a (findAttribInList NatAttr.srcIpMask? attrs))
  | .dstIp => (findAttribInList NatAttr.dstIp? attrs).map fun a =>
    .dstIp (masked a (findAttribInList NatAttr.dstIpMask? attrs))
  | .l4SrcPort => (findAttribInList NatAttr.l4SrcPort? attrs).map .l4SrcPort
  | .l4DstPort => (findAttribInList NatAttr.l4DstPort? attrs).map .l4DstPort
  | _ => none

/-! ## Runs that remember what was given -/

/-- The database, and for each key the entry and the attributes of the last `create` that
succeeded under it. -/
structure NatRun (ch : Chip) where
  db : NatDb ch
  made : NatKey → Option (NatEntry × List NatAttr)

/-- Note a `create`. -/
def NatRun.note (s : NatRun ch) (e : NatEntry) (attrs : List NatAttr) (r : Status × NatDb ch) :
    NatRun ch :=
  ⟨r.2, if r.1 = .success then update s.made (natKey e) (some (e, attrs)) else s.made⟩

/-- One element of a bulk `create`. -/
def natRunCreateOne (m : MaskToLen) (s : NatRun ch) (a : NatSdk × NatEntry × List NatAttr) :
    Option (Status × Unit × NatRun ch) :=
  let r := natCreateEntry m a.1 s.db a.2.1 a.2.2
  some (r.1, (), s.note a.2.1 a.2.2 r)

/-- One element of a bulk `remove`. -/
def natRunRemoveOne (m : MaskToLen) (s : NatRun ch) (a : NatSdk × NatEntry) :
    Option (Status × Unit × NatRun ch) :=
  let r := natRemoveEntry m a.1 s.db a.2
  some (r.1, (), ⟨r.2, s.made⟩)

def natRunStep (m : MaskToLen) (s : NatRun ch) : NatCall → Option (NatRun ch)
  | .create sdk e attrs => some (s.note e attrs (createNatEntry m sdk s.db e attrs))
  | .remove sdk e => (removeNatEntry m sdk s.db e).map fun r => ⟨r.2, s.made⟩
  | .bulkCreate mode objects => (bulkLoop (natRunCreateOne m) mode s objects).map Prod.snd
  | .bulkRemove mode objects => (bulkLoop (natRunRemoveOne m) mode s objects).map Prod.snd

def NatRun.Start (s : NatRun ch) : Prop := ∃ others, NatStart others s.db

/-! ## What is known of a live entry -/

/-- The new destination address that `create` hands to the SDK. -/
def natNewIpda (attrs : List NatAttr) : BitVec 32 :=
  ((findAttribInList NatAttr.dstIp? attrs).map fun a =>
    masked (ntohl a) ((findAttribInList NatAttr.dstIpMask? attrs).map ntohl)).getD 0

/-- The record `r` at `k` is that of an entry made with `attrs`. -/
structure EntryMade (db : NatDb ch) (k : NatKey) (r : NatInfo) (e : NatEntry)
    (attrs : List NatAttr) : Prop where
  key : natKey e = k
  mask : e.mask = .full
  refused : natAttrIndex (natTypeOf attrs).refused attrs = none
  vrf : (natTypeOf attrs).cnt?.isSome → (oidGetVrfId e.vrId).isSome
  record : r = natInfoOf attrs r.nhId
  plain : natTypeOf attrs ≠ .destinationNat → r.nhId = 0
  used : natTypeOf attrs = .destinationNat → r.nhId ∈ db.nexthop.used
  tunnel : natTypeOf attrs = .destinationNat → ∀ p, db.tunnels.lookup r.nhId = some p →
    p.ipDa = natNewIpda attrs ∧
      p.l4DstPort = (findAttribInList NatAttr.l4DstPort? attrs).getD 0

/-- No id is given back, and the next hop of an id in use stays what it is or goes. -/
structure NatMoves (db db' : NatDb ch) : Prop where
  used : db.nexthop.used ⊆ db'.nexthop.used
  tunnels : ∀ i ∈ db.nexthop.used, ∀ p, db'.tunnels.lookup i = some p →
    db.tunnels.lookup i = some p

theorem NatMoves.refl (db : NatDb ch) : NatMoves db db := ⟨fun _ h => h, fun _ _ _ h => h⟩

variable {s : NatRun ch}

theorem EntryMade.moves {k : NatKey} {r : NatInfo} (h : EntryMade db k r e attrs)
    (hm : NatMoves db db') : EntryMade db' k r e attrs where
  key := h.key
  mask := h.mask
  refused := h.refused
  vrf := h.vrf
  record := h.record
  plain := h.plain
  used ht := hm.used (h.used ht)
  tunnel ht p hp := h.tunnel ht p (hm.tunnels _ (h.used ht) p hp)

/-- Every record is that of the entry and the attributes remembered for its key. -/
def MadeInv (s : NatRun ch) : Prop :=
  ∀ k r, s.db.entries.lookup k = some r →
    ∃ e attrs, s.made k = some (e, attrs) ∧ EntryMade s.db k r e attrs

theorem refused_of_check (h : natEntryCreateAttrCheck sdk e attrs = .success) :
    natAttrIndex (natTypeOf attrs).refused attrs = none := by
  rw [natEntryCreateAttrCheck] at h
  split at h
  · cases h
  · split at h
    · cases h
    · next hnone => exact hnone

theorem natNhParam_ok {p : NatNhParam} (h : natNhParam sdk e attrs = .ok p) :
    p.ipDa = natNewIpda attrs ∧
      p.l4DstPort = (findAttribInList NatAttr.l4DstPort? attrs).getD 0 := by
  rw [natNhParam] at h
  rw [natNewIpda]
  cases hip : findAttribInList NatAttr.dstIp? attrs with
  | none => rw [hip] at h; cases h
  | some a =>
    rw [hip] at h
    dsimp only at h
    have hda : (if (findAttribInList NatAttr.dstIpMask? attrs).isSome then
        ntohl a &&& ntohl ((findAttribInList NatAttr.dstIpMask? attrs).getD e.mask.dstIp)
        else ntohl a) =
          masked (ntohl a) ((findAttribInList NatAttr.dstIpMask? attrs).map ntohl) := by
      cases findAttribInList NatAttr.dstIpMask? attrs <;> rfl
    rw [hda] at h
    split at h
    · cases h
      exact ⟨rfl, rfl⟩
    · repeat (split at h; · cases h)
      cases h
      exact ⟨rfl, rfl⟩

theorem natNhParam_error (h : natNhParam sdk e attrs = .error st) : st ≠ .success := by
  rw [natNhParam] at h
  split at h
  · cases h
    exact nofun
  dsimp only at h
  split at h
  · cases h
  · repeat (split at h; · cases h; exact nofun)
    cases h

variable (sdk) in
theorem natBuildDb_any (db : NatDb ch) (k : NatKey) (r : NatInfo) :
    (∃ st, st ≠ .success ∧ natBuildDb sdk db k r = (st, db)) ∨
      natBuildDb sdk db k r = (.success, { db with entries := db.entries.insert k r }) := by
  rw [natBuildDb]
  split
  · exact .inl ⟨.itemAlreadyExists, by decide, rfl⟩
  split
  · exact .inl ⟨.noMemory, by decide, rfl⟩
  · split
    · exact .inl ⟨.noMemory, by decide, rfl⟩
    · exact .inr rfl

/-- What `create` may have done, whatever it was answered. -/
def CreateOutcome (db : NatDb ch) (e : NatEntry) (attrs : List NatAttr) (st : Status)
    (db' : NatDb ch) : Prop :=
  NatMoves db db' ∧
    ((st ≠ .success ∧ db'.entries = db.entries) ∨ (st = .success ∧
      ∃ r, db'.entries = db.entries.insert (natKey e) r ∧ EntryMade db' (natKey e) r e attrs))

theorem createOutcome_failed (hm : NatMoves db db') (hst : st ≠ .success)
    (he : db'.entries = db.entries) : CreateOutcome db e attrs st db' :=
  ⟨hm, .inl ⟨hst, he⟩⟩

theorem createOutcome_build {mid : NatDb ch} {nhId : Nat} (hm : NatMoves db mid)
    (hentries : mid.entries = db.entries)
    (hmade : ∀ db' : NatDb ch, db'.nexthop = mid.nexthop → db'.tunnels = mid.tunnels →
      EntryMade db' (natKey e) (natInfoOf attrs nhId) e attrs) :
    CreateOutcome db e attrs (natBuildDb sdk mid (natKey e) (natInfoOf attrs nhId)).1
      (natBuildDb sdk mid (natKey e) (natInfoOf attrs nhId)).2 := by
  rcases natBuildDb_any sdk mid (natKey e) (natInfoOf attrs nhId) with ⟨st, hst, he⟩ | he
  · rw [he]
    exact createOutcome_failed hm hst hentries
  · rw [he]
    refine ⟨⟨hm.used, hm.tunnels⟩, .inr ⟨rfl, _, ?_, hmade _ rfl rfl⟩⟩
    rw [← hentries]

theorem createSourceNat_any (db : NatDb ch)
    (hcheck : natEntryCreateAttrCheck sdk e attrs = .success)
    (htype : natTypeOf attrs = .sourceNat) :
    CreateOutcome db e attrs (createSourceNat sdk db e attrs).1
      (createSourceNat sdk db e attrs).2 := by
  rw [createSourceNat]
  cases hkey : natSaKey e with
  | none => exact createOutcome_failed (.refl db) (by rintro ⟨⟩) rfl
  | some key =>
    have hvrf : (oidGetVrfId e.vrId).isSome := by
      rw [← Option.isSome_map, ← natSaKey, hkey]
      rfl
    dsimp only
    split
    · refine createOutcome_build ⟨fun _ h => h, fun _ _ _ h => h⟩ rfl fun db' _ _ => ?_
      exact {
        key := rfl
        mask := mask_of_check hcheck
        refused := refused_of_check hcheck
        vrf := fun _ => hvrf
        record := rfl
        plain := fun _ => rfl
        used := fun ht => absurd (htype.symm.trans ht) (by decide)
        tunnel := fun ht => absurd (htype.symm.trans ht) (by decide) }
    · next hne => exact createOutcome_failed (.refl db) hne rfl

theorem createDestinationNat_any (db : NatDb ch)
    (hcheck : natEntryCreateAttrCheck sdk e attrs = .success)
    (htype : natTypeOf attrs = .destinationNat) :
    CreateOutcome db e attrs (createDestinationNat m sdk db e attrs).1
      (createDestinationNat m sdk db e attrs).2 := by
  rw [createDestinationNat]
  cases hkey : natDaKey m e with
  | none => exact createOutcome_failed (.refl db) (by rintro ⟨⟩) rfl
  | some key =>
    have hvrf : (oidGetVrfId e.vrId).isSome := by
      rw [← Option.isSome_map, ← natDaKey, hkey]
      rfl
    cases halloc : db.nexthop.alloc with
    | none => exact createOutcome_failed (.refl db) (by rintro ⟨⟩) rfl
    | some q =>
      obtain ⟨nhId, pool⟩ := q
      obtain ⟨hfresh, -, -, hused, -⟩ := Pool.alloc_some halloc
      have hin : nhId ∈ pool.used := by
        rw [hused]
        exact Finset.mem_insert_self ..
      have hsub : db.nexthop.used ⊆ pool.used := by
        rw [hused]
        exact Finset.subset_insert ..
      cases hparam : natNhParam sdk e attrs with
      | error st =>
        refine createOutcome_failed ⟨hsub, fun _ _ _ h => h⟩ ?_ rfl
        exact natNhParam_error hparam
      | ok param =>
        -- the next hop goes under an id that no entry has
        have hmoves : ∀ i ∈ db.nexthop.used, ∀ p, (db.tunnels.insert nhId param).lookup i = some p →
              db.tunnels.lookup i = some p := by
          intro i hi p hp
          rw [lookup_insert_ite, if_neg] at hp
          · exact hp
          · rintro rfl
            exact hfresh hi
        dsimp only
        split
        · split
          · refine createOutcome_build ⟨hsub, hmoves⟩ rfl fun db' hpool htun => ?_
            refine ⟨rfl, mask_of_check hcheck, refused_of_check hcheck, fun _ => hvrf, rfl,
              fun hne => absurd htype hne, fun _ => ?_, fun _ p hp => ?_⟩
            · rw [hpool]
              exact hin
            · rw [htun] at hp
              have hself : param = p := by
                have hl := AList.lookup_insert (a := nhId) (b := param) db.tunnels
                exact Option.some.inj (hl.symm.trans hp)
              rw [← hself]
              exact natNhParam_ok hparam
          · next hne => exact createOutcome_failed ⟨hsub, hmoves⟩ hne rfl
        · next hne => exact createOutcome_failed ⟨hsub, fun _ _ _ h => h⟩ hne rfl

variable (m sdk e attrs) in
/-- `_ctc_sai_create_nat_entry`, whatever it is answered. -/
theorem natCreateEntry_any (db : NatDb ch) :
    CreateOutcome db e attrs (natCreateEntry m sdk db e attrs).1
      (natCreateEntry m sdk db e attrs).2 := by
  rw [natCreateEntry]
  split
  · next hcheck =>
    split
    · exact createOutcome_failed (.refl db) nofun rfl
    split
    · next htype => exact createSourceNat_any db hcheck htype
    · next htype => exact createDestinationNat_any db hcheck htype
    next hsa hda =>
    have hcnt : (natTypeOf attrs).cnt? = none := by
      cases htype : natTypeOf attrs with
      | sourceNat => exact absurd htype hsa
      | destinationNat => exact absurd htype hda
      | none => rfl
      | doubleNat => rfl
      | destinationNatPool => rfl
    refine createOutcome_build (.refl db) rfl fun db' _ _ => ?_
    exact {
      key := rfl
      mask := mask_of_check hcheck
      refused := refused_of_check hcheck
      vrf := fun h => by rw [hcnt] at h; cases h
      record := rfl
      plain := fun _ => rfl
      used := fun ht => absurd ht hda
      tunnel := fun ht => absurd ht hda }
  · next hne => exact createOutcome_failed (.refl db) hne rfl

variable (m sdk e) in
/-- `_ctc_sai_nat_remove_nat_entry`, whatever it is answered. -/
theorem natRemoveEntry_moves (db : NatDb ch) : NatMoves db (natRemoveEntry m sdk db e).2 := by
  have herase : ∀ (i : Nat) (t : Table Nat NatNhParam) j p, (t.erase i).lookup j = some p →
      t.lookup j = some p := by
    intro i t j p hp
    exact (of_lookup_erase hp).2
  rw [natRemoveEntry]
  cases db.entries.lookup (natKey e) with
  | none => exact .refl db
  | some r =>
    have hsa : NatMoves db (removeSourceNat sdk db e).2 := by
      rw [removeSourceNat]
      split
      · exact .refl db
      · split
        · exact ⟨fun _ h => h, fun _ _ _ h => h⟩
        · exact .refl db
    have hda : NatMoves db (removeDestinationNat m sdk db e r.nhId).2 := by
      rw [removeDestinationNat]
      split
      · exact .refl db
      split
      · dsimp only
        split
        · exact ⟨fun _ h => h, fun i _ p hp => herase _ _ i p hp⟩
        · exact ⟨fun _ h => h, fun i _ p hp => herase _ _ i p hp⟩
      · exact .refl db
    cases htype : r.natType with
    | sourceNat => dsimp only; rw [htype]; exact natRemoveEntry_ends _ hsa ⟨hsa.used, hsa.tunnels⟩
    | destinationNat => dsimp only; rw [htype]; exact natRemoveEntry_ends _ hda ⟨hda.used, hda.tunnels⟩
    | none | doubleNat | destinationNatPool =>
      dsimp only; rw [htype]; exact ⟨fun _ h => h, fun _ _ _ h => h⟩

/-! ## In every run -/

theorem NatDb.count_same (db : NatDb ch) (type : NatType) (d : BitVec 32) :
    (db.count type d).entries = db.entries ∧ (db.count type d).nexthop = db.nexthop ∧
      (db.count type d).tunnels = db.tunnels := by
  rw [NatDb.count]
  split <;> exact ⟨rfl, rfl, rfl⟩

theorem NatMoves.congr {d d' : NatDb ch} (h : NatMoves db d) (hn : d'.nexthop = d.nexthop)
    (ht : d'.tunnels = d.tunnels) : NatMoves db d' :=
  ⟨by rw [hn]; exact h.used, by rw [ht]; exact h.tunnels⟩

variable (m sdk e attrs) in
theorem createNatEntry_any (db : NatDb ch) :
    CreateOutcome db e attrs (createNatEntry m sdk db e attrs).1
      (createNatEntry m sdk db e attrs).2 := by
  have h := natCreateEntry_any m sdk e attrs db
  rw [createNatEntry]
  generalize natCreateEntry m sdk db e attrs = out at h
  obtain ⟨st, d⟩ := out
  split
  · next heq =>
    cases heq
    obtain ⟨he, hn, ht⟩ := NatDb.count_same d
      (((d.entries.lookup (natKey e)).map NatInfo.natType).getD .none) 1
    obtain ⟨hm, hout⟩ := h
    obtain ⟨-, r, hentries, hmade⟩ := hout.resolve_left fun hne => hne.1 rfl
    refine ⟨hm.congr hn ht, .inr ⟨rfl, r, he.trans hentries, hmade.moves ?_⟩⟩
    exact (NatMoves.refl d).congr hn ht
  · next heq =>
    cases heq
    exact h

theorem MadeInv.create (h : MadeInv s) (hout : CreateOutcome s.db e attrs st db') :
    MadeInv (s.note e attrs (st, db')) := by
  obtain ⟨hm, ⟨hst, he⟩ | ⟨rfl, r, he, hmade⟩⟩ := hout
  · intro k r hr
    have hold : s.db.entries.lookup k = some r := by
      rw [← he]
      exact hr
    obtain ⟨e', attrs', hmem, hmade⟩ := h k r hold
    refine ⟨e', attrs', ?_, hmade.moves hm⟩
    show (if st = .success then update s.made _ _ else s.made) k = _
    rw [if_neg hst]
    exact hmem
  intro k r' hr
  have hnow : (s.db.entries.insert (natKey e) r).lookup k = some r' := by
    rw [← he]
    exact hr
  show ∃ e' attrs', update s.made (natKey e) (some (e, attrs)) k = _ ∧ _
  rw [lookup_insert_ite] at hnow
  by_cases hk : k = natKey e
  · subst hk
    rw [if_pos rfl] at hnow
    cases hnow
    exact ⟨e, attrs, update_self .., hmade⟩
  · rw [if_neg hk] at hnow
    obtain ⟨e', attrs', hmem, hmade'⟩ := h k r' hnow
    exact ⟨e', attrs', by rw [update_of_ne hk]; exact hmem, hmade'.moves hm⟩

theorem MadeInv.remove (h : MadeInv s) (hm : NatMoves s.db db')
    (he : db'.entries = s.db.entries ∨ db'.entries = s.db.entries.erase (natKey e)) :
    MadeInv ⟨db', s.made⟩ := by
  intro k r hr
  have hold : s.db.entries.lookup k = some r := by
    rcases he with he | he
    · rw [← he]
      exact hr
    · rw [he] at hr
      exact (of_lookup_erase hr).2
  obtain ⟨e', attrs', hmem, hmade⟩ := h k r hold
  exact ⟨e', attrs', hmem, hmade.moves hm⟩

theorem removeNatEntry_any {r : Status × NatDb ch} (h : removeNatEntry m sdk db e = some r) :
    NatMoves db r.2 ∧
      (r.2.entries = db.entries ∨ r.2.entries = db.entries.erase (natKey e)) := by
  have hm := natRemoveEntry_moves m sdk e db
  have he := @natRemoveEntry_entries ch m sdk e db
  rw [removeNatEntry] at h
  split at h
  · cases h
  next x _ =>
  cases h
  generalize natRemoveEntry m sdk db e = out at hm he
  obtain ⟨st, d⟩ := out
  split
  · next heq =>
    cases heq
    obtain ⟨hen, hn, ht⟩ := NatDb.count_same d x.natType (-1)
    refine ⟨hm.congr hn ht, ?_⟩
    rw [hen]
    exact he
  · next heq =>
    cases heq
    exact ⟨hm, he⟩

theorem madeInv_of_run (h : Reachable NatRun.Start anyStep (natRunStep m) s) : MadeInv s := by
  refine h.inv (fun s hs => ?_) fun s a s' hs _ hstep => ?_
  · obtain ⟨others, hs⟩ := hs
    intro k r hr
    rw [hs.entries] at hr
    cases hr
  · cases a with
    | create sdk e attrs =>
      cases hstep
      exact hs.create (createNatEntry_any m sdk e attrs s.db)
    | remove sdk e =>
      obtain ⟨r, hr, rfl⟩ := Option.map_eq_some_iff.mp hstep
      obtain ⟨hm, he⟩ := removeNatEntry_any hr
      exact hs.remove hm he
    | bulkCreate mode objects =>
      obtain ⟨q, hq, rfl⟩ := Option.map_eq_some_iff.mp hstep
      refine bulkLoop_inv (fun s a status b s' hs _ he => ?_) hs (bulkAdmitted_true objects s) hq
      cases he
      exact hs.create (natCreateEntry_any m a.1 a.2.1 a.2.2 s.db)
    | bulkRemove mode objects =>
      obtain ⟨q, hq, rfl⟩ := Option.map_eq_some_iff.mp hstep
      refine bulkLoop_inv (fun s a status b s' hs _ he => ?_) hs (bulkAdmitted_true objects s) hq
      cases he
      exact hs.remove (natRemoveEntry_moves m a.1 a.2 s.db) (natRemoveEntry_entries m a.1 a.2)

/-! ## Agreement -/

/-- The entry and the attributes of a live record. -/
structure NatRun.Live (s : NatRun ch) (k : NatKey) (r : NatInfo) (e : NatEntry)
    (attrs : List NatAttr) : Prop where
  entry : s.db.entries.lookup k = some r
  made : s.made k = some (e, attrs)

/-- What the keys and the getters of the live entries should be: no two entries of a type
have one key, HIT_BIT goes to the key of `create` and `remove`, and a value that was given
is read back. -/
structure NatAgree (m : MaskToLen) (stack : NatStack) (sdk : NatHitSdk) (s : NatRun ch) :
    Prop where
  apart : ∀ k r e attrs k' r' e' attrs', s.Live k r e attrs → s.Live k' r' e' attrs' →
    k ≠ k' → r.natType = r'.natType →
      ∀ key, natHwKey m e r.natType = some key → natHwKey m e' r'.natType ≠ some key
  hit : ∀ k r e attrs, s.Live k r e attrs →
    natSetHitKey stack e r.natType = natHwKey m e r.natType ∧
      natGetHitKey m e r.natType = natHwKey m e r.natType
  read : ∀ k r e attrs, s.Live k r e attrs → ∀ id v, natGiven attrs id = some v →
    ∀ attrIdx, natGetAttr m sdk s.db e attrIdx id = .ok v

/-- Two entries differ in what the SDK's key of their type holds. -/
def NatApartWhen (k k' : NatKey) : NatType → Prop
  | .sourceNat => ¬ (k.vrfId = k'.vrfId ∧ k.key.srcIp = k'.key.srcIp ∧
      k.key.l4SrcPort = k'.key.l4SrcPort ∧ (k.key.proto = 6 ↔ k'.key.proto = 6))
  | .destinationNat => ¬ (k.vrfId = k'.vrfId ∧ k.key.dstIp = k'.key.dstIp ∧
      k.key.l4DstPort = k'.key.l4DstPort ∧ (k.key.proto = 6 ↔ k'.key.proto = 6))
  | _ => True

/-- What `set` leaves as it finds it is what it should be, and the address reads the same in
either byte order. -/
def NatHitWhen (stack : NatStack) (k : NatKey) : NatType → Prop
  | .sourceNat => ntohl k.key.srcIp = k.key.srcIp ∧
      (k.key.proto = 6 ∨ k.key.proto = 17 ∨ stack.useTcpPort = false)
  | .destinationNat => ntohl k.key.dstIp = k.key.dstIp ∧ stack.masklen = 32 ∧
      (k.key.proto = 6 ∨ k.key.proto = 17 ∨ stack.isTcpPort = false)
  | _ => True

/-- A new address of the entry's own side reads the same in either byte order, and the other
values, which are not kept, are zero. -/
def NatValueWhen (type : NatType) : NatAttr → Prop
  | .srcIp a => if type = .sourceNat then ntohl a = a else a = 0
  | .dstIp a => if type = .destinationNat then ntohl a = a else a = 0
  | .l4SrcPort p => type = .sourceNat ∨ p = 0
  | .l4DstPort p => type = .destinationNat ∨ p = 0
  | _ => True

/-- The SDK has the next hop of the record, and the value is one that comes back. -/
def NatReadWhen (db : NatDb ch) (r : NatInfo) (v : NatAttr) : Prop :=
  (natTunnelOf db r).isSome ∧ NatValueWhen r.natType v

/-- The condition of `NatAgree`, on what was given. -/
structure NatAgreeWhen (stack : NatStack) (s : NatRun ch) : Prop where
  apart : ∀ k r e attrs k' r' e' attrs', s.Live k r e attrs → s.Live k' r' e' attrs' →
    k ≠ k' → r.natType = r'.natType → NatApartWhen k k' r.natType
  hit : ∀ k r e attrs, s.Live k r e attrs → NatHitWhen stack k r.natType
  read : ∀ k r e attrs, s.Live k r e attrs → ∀ id v, natGiven attrs id = some v →
    NatReadWhen s.db r v

/-- The SDK's key of an entry, read off the key of its record. -/
def NatKey.hwKey (k : NatKey) : NatType → Option NatHwKey
  | .sourceNat => some (.sa k.saKey)
  | .destinationNat => some (.da k.daKey)
  | _ => none

section Made

variable {db : NatDb ch} {k k' : NatKey} {r : NatInfo}

theorem EntryMade.natType (h : EntryMade db k r e attrs) : r.natType = natTypeOf attrs :=
  congrArg NatInfo.natType h.record

variable (m) in
theorem EntryMade.hwKey (h : EntryMade db k r e attrs) :
    natHwKey m e r.natType = k.hwKey r.natType := by
  have hvrf := h.vrf
  rw [← h.natType] at hvrf
  cases htype : r.natType with
  | sourceNat =>
    obtain ⟨v, hv⟩ := Option.isSome_iff_exists.mp (hvrf (by rw [htype]; rfl))
    rw [natHwKey, natSaKey_of_vrf hv, h.key]
    rfl
  | destinationNat =>
    obtain ⟨v, hv⟩ := Option.isSome_iff_exists.mp (hvrf (by rw [htype]; rfl))
    rw [natHwKey, natDaKey_of_vrf h.mask hv, h.key]
    rfl
  | none => rfl
  | doubleNat => rfl
  | destinationNatPool => rfl

theorem ntohl_inj {a b : BitVec 32} : ntohl a = ntohl b ↔ a = b := by
  refine ⟨fun h => ?_, congrArg ntohl⟩
  rw [← ntohl_ntohl a, h, ntohl_ntohl]

theorem natHwKey_apart (type : NatType) :
    (∀ key, k.hwKey type = some key → k'.hwKey type ≠ some key) ↔ NatApartWhen k k' type := by
  cases type with
  | sourceNat =>
    have hsame : k'.saKey = k.saKey ↔ (k.vrfId = k'.vrfId ∧ k.key.srcIp = k'.key.srcIp ∧
        k.key.l4SrcPort = k'.key.l4SrcPort ∧ (k.key.proto = 6 ↔ k'.key.proto = 6)) := by
      rw [NatKey.saKey, NatKey.saKey, NatSaKey.mk.injEq, ntohl_inj, decide_eq_decide,
        eq_comm, eq_comm (a := k'.key.srcIp), eq_comm (a := k'.key.l4SrcPort),
        Iff.comm (a := k'.key.proto = 6)]
    simp [NatKey.hwKey, NatApartWhen, hsame]
  | destinationNat =>
    have hsame : k'.daKey = k.daKey ↔ (k.vrfId = k'.vrfId ∧ k.key.dstIp = k'.key.dstIp ∧
        k.key.l4DstPort = k'.key.l4DstPort ∧ (k.key.proto = 6 ↔ k'.key.proto = 6)) := by
      rw [NatKey.daKey, NatKey.daKey, NatDaKey.mk.injEq, ntohl_inj, decide_eq_decide,
        eq_comm, eq_comm (a := k'.key.dstIp), eq_comm (a := k'.key.l4DstPort),
        Iff.comm (a := k'.key.proto = 6)]
      simp
    simp [NatKey.hwKey, NatApartWhen, hsame]
  | none => simp [NatKey.hwKey, NatApartWhen]
  | doubleNat => simp [NatKey.hwKey, NatApartWhen]
  | destinationNatPool => simp [NatKey.hwKey, NatApartWhen]

theorem natTcpFlag_iff (proto : BitVec 8) (before : Bool) :
    natTcpFlag proto before = decide (proto = 6) ↔
      proto = 6 ∨ proto = 17 ∨ before = false := by
  rw [natTcpFlag]
  by_cases h6 : proto = 6
  · rw [if_pos h6, decide_eq_true h6]
    exact ⟨fun _ => .inl h6, fun _ => rfl⟩
  rw [if_neg h6, decide_eq_false h6]
  by_cases h17 : proto = 17
  · rw [if_pos h17]
    exact ⟨fun _ => .inr (.inl h17), fun _ => rfl⟩
  · rw [if_neg h17]
    exact ⟨fun h => .inr (.inr h), fun h => (h.resolve_left h6).resolve_left h17⟩

variable (m e) in
theorem natGetHitKey_eq (type : NatType) : natGetHitKey m e type = natHwKey m e type := by
  have hflag := (natTcpFlag_iff e.key.proto false).mpr (.inr (.inr rfl))
  cases type with
  | sourceNat =>
    rw [natGetHitKey, natHwKey, natSaKey, hflag, Option.map_map]
    rfl
  | destinationNat =>
    rw [natGetHitKey, natHwKey, natDaKey, hflag, Option.map_map]
    rfl
  | none => rfl
  | doubleNat => rfl
  | destinationNatPool => rfl

variable (m) in
theorem EntryMade.setHitKey_iff (h : EntryMade db k r e attrs) (stack : NatStack) :
    natSetHitKey stack e r.natType = natHwKey m e r.natType ↔ NatHitWhen stack k r.natType := by
  have hvrf := h.vrf
  rw [← h.natType] at hvrf
  have hkey : k.key = e.key := congrArg NatKey.key h.key.symm
  have hlen : m.v4 (ntohl e.mask.dstIp) = 32 := by
    rw [h.mask]
    exact m.v4_maskWord 32 (Nat.le_refl 32)
  cases htype : r.natType with
  | sourceNat =>
    obtain ⟨v, hv⟩ := Option.isSome_iff_exists.mp (hvrf (by rw [htype]; rfl))
    rw [natSetHitKey, natHwKey, natSaKey, hv, NatHitWhen, hkey, ← natTcpFlag_iff]
    simp [eq_comm]
  | destinationNat =>
    obtain ⟨v, hv⟩ := Option.isSome_iff_exists.mp (hvrf (by rw [htype]; rfl))
    rw [natSetHitKey, natHwKey, natDaKey, hv, hlen, NatHitWhen, hkey, ← natTcpFlag_iff]
    simp [eq_comm]
  | none => exact ⟨fun _ => trivial, fun _ => rfl⟩
  | doubleNat => exact ⟨fun _ => trivial, fun _ => rfl⟩
  | destinationNatPool => exact ⟨fun _ => trivial, fun _ => rfl⟩

end Made

/-! ## Reading back -/

section Read

variable {db : NatDb ch} {k : NatKey} {r : NatInfo}

theorem ntohl_masked (a : BitVec 32) (mask? : Option (BitVec 32)) :
    masked (ntohl a) (mask?.map ntohl) = ntohl (masked a mask?) := by
  cases mask? with
  | none => rfl
  | some mask => exact (ntohl_and a mask).symm

theorem natSaEdit_newIpsa {a : BitVec 32} (h : findAttribInList NatAttr.srcIp? attrs = some a) :
    (natSaEdit attrs).newIpsa = ntohl (masked a (findAttribInList NatAttr.srcIpMask? attrs)) := by
  rw [natSaEdit, h, ← ntohl_masked]
  cases findAttribInList NatAttr.srcIpMask? attrs <;> rfl

theorem natNewIpda_eq {a : BitVec 32} (h : findAttribInList NatAttr.dstIp? attrs = some a) :
    natNewIpda attrs = ntohl (masked a (findAttribInList NatAttr.dstIpMask? attrs)) := by
  rw [natNewIpda, h, ← ntohl_masked]
  rfl

theorem EntryMade.tunnelOf (h : EntryMade db k r e attrs) {p : NatNhParam}
    (hp : natTunnelOf db r = some p) :
    p.ipDa = (if r.natType = .destinationNat then natNewIpda attrs else 0) ∧
      p.l4DstPort = if r.natType = .destinationNat then
        (findAttribInList NatAttr.l4DstPort? attrs).getD 0 else 0 := by
  rw [natTunnelOf] at hp
  by_cases htype : r.natType = .destinationNat
  · rw [if_pos htype, if_pos htype]
    rw [h.natType] at htype
    have hpos : r.nhId ≠ 0 := (ch.nexthop_pos (h.used htype)).ne'
    rw [if_pos hpos] at hp
    exact h.tunnel htype p hp
  rw [if_neg htype, if_neg htype]
  rw [h.natType] at htype
  rw [if_neg (not_not.mpr (h.plain htype))] at hp
  cases hp
  exact ⟨rfl, rfl⟩

theorem natGetAttr_held {sdk : NatHitSdk} {p : NatNhParam} {attrIdx : Nat}
    (hr : db.entries.lookup (natKey e) = some r) (hp : natTunnelOf db r = some p) :
    natGetAttr m sdk db e attrIdx .srcIp = .ok (.srcIp r.newIpsa) ∧
      natGetAttr m sdk db e attrIdx .l4SrcPort = .ok (.l4SrcPort r.newL4SrcPort) ∧
      natGetAttr m sdk db e attrIdx .dstIp = .ok (.dstIp p.ipDa) ∧
      natGetAttr m sdk db e attrIdx .l4DstPort = .ok (.l4DstPort p.l4DstPort) := by
  refine ⟨?_, ?_, ?_, ?_⟩ <;>
  · rw [natGetAttr, hr]
    dsimp only
    rw [hp]

/-- A value that was given is read back exactly when its condition holds. -/
theorem EntryMade.read_iff (h : EntryMade db k r e attrs) (hr : db.entries.lookup k = some r)
    {id : NatAttrId} {v : NatAttr} (hv : natGiven attrs id = some v) (sdk : NatHitSdk)
    (attrIdx : Nat) : natGetAttr m sdk db e attrIdx id = .ok v ↔ NatReadWhen db r v := by
  rw [← h.key] at hr
  cases hp : natTunnelOf db r with
  | none =>
    have herr : natGetAttr m sdk db e attrIdx id = .error (mappingErrorCtc .nhNotExist) := by
      rw [natGetAttr, hr]
      dsimp only
      rw [hp]
    rw [herr, NatReadWhen, hp]
    exact ⟨(fun heq => nomatch heq), (fun hw => nomatch hw.1)⟩
  | some p =>
    obtain ⟨hsrc, hsport, hdst, hdport⟩ := @natGetAttr_held ch m e db r sdk p attrIdx hr hp
    obtain ⟨hip, hport⟩ := h.tunnelOf hp
    have hnew : r.newIpsa = if r.natType = .sourceNat then (natSaEdit attrs).newIpsa else 0 := by
      rw [h.natType]
      exact congrArg NatInfo.newIpsa h.record
    have hnewPort : r.newL4SrcPort =
        if r.natType = .sourceNat then (natSaEdit attrs).newL4SrcPort else 0 := by
      rw [h.natType]
      exact congrArg NatInfo.newL4SrcPort h.record
    have hsome : (natTunnelOf db r).isSome := by
      rw [hp]
      rfl
    rw [NatReadWhen, and_iff_right hsome]
    cases id with
    | srcIp =>
      obtain ⟨a, ha, rfl⟩ := Option.map_eq_some_iff.mp hv
      rw [hsrc, hnew, NatValueWhen]
      split
      · rw [natSaEdit_newIpsa ha]
        simp
      · simp [eq_comm]
    | dstIp =>
      obtain ⟨a, ha, rfl⟩ := Option.map_eq_some_iff.mp hv
      rw [hdst, hip, NatValueWhen]
      split
      · rw [natNewIpda_eq ha]
        simp
      · simp [eq_comm]
    | l4SrcPort =>
      obtain ⟨q, hq, rfl⟩ := Option.map_eq_some_iff.mp hv
      rw [hsport, hnewPort, natSaEdit, hq, NatValueWhen]
      split
      · next htype => simp [htype]
      · next htype =>
        rw [or_iff_right htype, Except.ok.injEq, NatAttr.l4SrcPort.injEq, eq_comm]
    | l4DstPort =>
      obtain ⟨q, hq, rfl⟩ := Option.map_eq_some_iff.mp hv
      rw [hdport, hport, hq, NatValueWhen]
      split
      · next htype => simp [htype]
      · next htype =>
        rw [or_iff_right htype, Except.ok.injEq, NatAttr.l4DstPort.injEq, eq_comm]
    | natType => cases hv
    | srcIpMask => cases hv
    | vrId => cases hv
    | dstIpMask => cases hv
    | enablePacketCount => cases hv
    | packetCount => cases hv
    | enableByteCount => cases hv
    | byteCount => cases hv
    | hitBitCor => cases hv
    | hitBit => cases hv
    | customDnatReroute => cases hv

end Read

/-! ## Every run -/

/-- In every state of every run of `create`, `remove` and their bulk forms, whatever the calls
are answered, the keys and the getters of the live entries agree exactly when what was given
meets the condition. -/
theorem natAgree_iff {stack : NatStack} {sdk : NatHitSdk} {s : NatRun ch}
    (h : Reachable NatRun.Start anyStep (natRunStep m) s) :
    NatAgree m stack sdk s ↔ NatAgreeWhen stack s := by
  have hmade : ∀ {k r e attrs}, s.Live k r e attrs → EntryMade s.db k r e attrs := by
    intro k r e attrs hl
    obtain ⟨e', attrs', hmem, hmade⟩ := madeInv_of_run h k r hl.entry
    rw [hl.made] at hmem
    cases hmem
    exact hmade
  constructor
  · rintro ⟨hapart, hhit, hread⟩
    constructor
    · intro k r e attrs k' r' e' attrs' hl hl' hne htype
      refine (natHwKey_apart r.natType).mp fun key hkey => ?_
      rw [← (hmade hl).hwKey m] at hkey
      have := hapart k r e attrs k' r' e' attrs' hl hl' hne htype key hkey
      rwa [(hmade hl').hwKey m, ← htype] at this
    · intro k r e attrs hl
      exact ((hmade hl).setHitKey_iff m stack).mp (hhit k r e attrs hl).1
    · intro k r e attrs hl id v hv
      exact ((hmade hl).read_iff hl.entry hv sdk 0).mp (hread k r e attrs hl id v hv 0)
  · rintro ⟨hapart, hhit, hread⟩
    constructor
    · intro k r e attrs k' r' e' attrs' hl hl' hne htype key hkey
      rw [(hmade hl).hwKey m] at hkey
      rw [(hmade hl').hwKey m, ← htype]
      exact (natHwKey_apart r.natType).mpr
        (hapart k r e attrs k' r' e' attrs' hl hl' hne htype) key hkey
    · intro k r e attrs hl
      exact ⟨((hmade hl).setHitKey_iff m stack).mpr (hhit k r e attrs hl), natGetHitKey_eq ..⟩
    · intro k r e attrs hl id v hv attrIdx
      exact ((hmade hl).read_iff hl.entry hv sdk attrIdx).mpr (hread k r e attrs hl id v hv)

/-- A source-NAT entry whose addresses read the same in either byte order. -/
def sourceNatEntry : NatEntry := natEntryOf ⟨0x0A0A0A0A, 0, 6, 80, 0⟩

def sourceNatAttrs : List NatAttr := [.natType .sourceNat, .srcIp 0x0B0B0B0B, .l4SrcPort 8080]

/-- The state with this entry. -/
def NatRun.sourceNat : NatRun .small :=
  NatRun.note ⟨.empty .small, fun _ => none⟩ sourceNatEntry sourceNatAttrs
    (createNatEntry .ones .ok (.empty .small) sourceNatEntry sourceNatAttrs)

theorem sourceNat_live {k : NatKey} {r : NatInfo} {e : NatEntry} {attrs : List NatAttr}
    (h : NatRun.sourceNat.Live k r e attrs) :
    k = natKey sourceNatEntry ∧ r = natInfoOf sourceNatAttrs 0 ∧ attrs = sourceNatAttrs := by
  have hk : k = natKey sourceNatEntry := by
    by_contra hne
    have hmade : update (fun _ => none) (natKey sourceNatEntry) _ k = some (e, attrs) := h.made
    rw [update_of_ne hne] at hmade
    cases hmade
  subst hk
  have hentry : some (natInfoOf sourceNatAttrs 0) = some r := h.entry
  have hmade : some (sourceNatEntry, sourceNatAttrs) = some (e, attrs) := h.made
  cases hentry
  cases hmade
  exact ⟨rfl, rfl, rfl⟩

theorem natAgreeWhen_sourceNat : NatAgreeWhen ⟨false, 32, false⟩ NatRun.sourceNat where
  apart k r e attrs k' r' e' attrs' hl hl' hne _ :=
    absurd ((sourceNat_live hl).1.trans (sourceNat_live hl').1.symm) hne
  hit k r e attrs hl := by
    obtain ⟨rfl, rfl, -⟩ := sourceNat_live hl
    exact ⟨by decide, .inl rfl⟩
  read k r e attrs hl id v hv := by
    obtain ⟨-, rfl, rfl⟩ := sourceNat_live hl
    cases id with
    | srcIp =>
      cases hv
      exact ⟨rfl, show ntohl 0x0B0B0B0B = 0x0B0B0B0B by decide⟩
    | l4SrcPort =>
      cases hv
      exact ⟨rfl, .inl rfl⟩
    | _ => cases hv

theorem natAgree_iff_sourceNat : NatRun.sourceNat.db.entries.keys.length = 1 ∧
    NatAgree .ones ⟨false, 32, false⟩ ⟨fun _ _ => .none, fun _ => .ok false⟩ NatRun.sourceNat := by
  have r₀ : Reachable NatRun.Start anyStep (natRunStep .ones)
      (⟨NatDb.empty .small, fun _ => none⟩ : NatRun .small) :=
    .start ⟨∅, NatDb.empty_start _⟩
  have r₁ : Reachable NatRun.Start anyStep (natRunStep .ones) NatRun.sourceNat :=
    r₀.next (.create .ok sourceNatEntry sourceNatAttrs) trivial rfl
  exact ⟨by decide, (natAgree_iff r₁).mpr natAgreeWhen_sourceNat⟩

/-- Two source-NAT entries that differ in their destinations alone have one key; HIT_BIT of
10.0.0.1 is set under 1.0.0.10, and its new address 20.0.0.1 is read as 1.0.0.20. -/
theorem natAgree_not_every_run : ∃ s : NatRun .small,
    Reachable NatRun.Start anyStep (natRunStep .ones) s ∧
      ¬ NatAgree .ones ⟨false, 32, false⟩ ⟨fun _ _ => .none, fun _ => .ok false⟩ s ∧
      ∃ e e' : NatEntry, natKey e ≠ natKey e' ∧
        (s.db.entries.lookup (natKey e)).isSome ∧ (s.db.entries.lookup (natKey e')).isSome ∧
        natHwKey .ones e .sourceNat = some (.sa ⟨1, 0x0A000001, 80, true⟩) ∧
        natHwKey .ones e' .sourceNat = some (.sa ⟨1, 0x0A000001, 80, true⟩) ∧
        (natSetAttr ⟨false, 32, false⟩ ⟨fun _ _ => .none, fun _ => .ok false⟩ s.db e
          (.hitBit true)).2 = some (.sa ⟨1, 0x0100000A, 80, true⟩, true) ∧
        s.made (natKey e) = some (e, [.natType .sourceNat, .srcIp 0x01000014]) ∧
        natGetAttr .ones ⟨fun _ _ => .none, fun _ => .ok false⟩ s.db e 0 .srcIp =
          .ok (.srcIp 0x14000001) := by
  have r₀ : Reachable NatRun.Start anyStep (natRunStep .ones)
      (⟨NatDb.empty .small, fun _ => none⟩ : NatRun .small) :=
    .start ⟨∅, NatDb.empty_start _⟩
  have r₁ := r₀.next (.create .ok (natEntryOf ⟨0x0100000A, 0, 6, 80, 0⟩)
    [.natType .sourceNat, .srcIp 0x01000014]) trivial rfl
  have r₂ := r₁.next (.create .ok (natEntryOf ⟨0x0100000A, 1, 6, 80, 0⟩)
    [.natType .sourceNat, .srcIp 0x01000014]) trivial rfl
  refine ⟨_, r₂, fun h => ?_, natEntryOf ⟨0x0100000A, 0, 6, 80, 0⟩,
    natEntryOf ⟨0x0100000A, 1, 6, 80, 0⟩,
    by decide, by decide, by decide, by decide, by decide, by decide, by decide, by decide⟩
  have hfirst := h.hit (natKey (natEntryOf ⟨0x0100000A, 0, 6, 80, 0⟩)) _ _ _ ⟨rfl, rfl⟩
  exact absurd hfirst.1 (by decide)

end CtcSai
