/-
# `Fdb` — flushing and listing the forwarding table, ctc_sai_fdb.c

The forwarding table is the hardware's.  A flush makes one filter of its
attributes and turns learning off while the hardware works; a listing reads the
table page by page and rebuilds, of an entry's forwarding instance, the VLAN or
the bridge.
-/
import CtcSai.Bridge
import CtcSai.EntryKeysRoundTrip

namespace CtcSai

/-- An entry of the hardware. -/
structure FdbEntry where
  mac : Mac
  fid : BitVec 16
  port : L2Addr
  isStatic : Bool
deriving DecidableEq, Repr

/-! ## Flushing -/

/-- SAI_FDB_FLUSH_ATTR_BRIDGE_PORT_ID, _BV_ID and _ENTRY_TYPE. -/
inductive FdbFlushAttr where
  | bridgePortId (oid : Oid)
  | bvId (oid : Oid)
  | entryType (type : BitVec 32)
deriving DecidableEq, Repr

namespace FdbFlushAttr

def bridgePortId? : FdbFlushAttr → Option Oid
  | .bridgePortId o => some o
  | _ => none

def bvId? : FdbFlushAttr → Option Oid
  | .bvId o => some o
  | _ => none

def entryType? : FdbFlushAttr → Option (BitVec 32)
  | .entryType t => some t
  | _ => none

end FdbFlushAttr

/-- `sai_fdb_flush_entry_type_t`, and the three `flush_flag` of the SDK. -/
inductive FdbFlushType where
  | dynamic | static | all
deriving DecidableEq, Repr

def flushTypeOf (v : BitVec 32) : Option FdbFlushType :=
  if v = 0 then some .dynamic else if v = 1 then some .static else if v = 2 then some .all else none

def FdbFlushType.covers : FdbFlushType → Bool → Bool
  | .dynamic, isStatic => !isStatic
  | .static, isStatic => isStatic
  | .all, _ => true

/-- The attributes that are given; the type is DYNAMIC where none is. -/
def portArg (attrs : List FdbFlushAttr) : Option Oid :=
  findAttribInList FdbFlushAttr.bridgePortId? attrs

def bvArg (attrs : List FdbFlushAttr) : Option Oid := findAttribInList FdbFlushAttr.bvId? attrs

def typeArg (attrs : List FdbFlushAttr) : Option FdbFlushType :=
  flushTypeOf ((findAttribInList FdbFlushAttr.entryType? attrs).getD 0)

/-- `ctc_l2_flush_fdb_t`; the port and the instance are those the mode looks at. -/
structure L2Flush where
  port : Option L2Addr
  fid : Option (BitVec 16)
  flushFlag : FdbFlushType
deriving DecidableEq, Repr

/-- The entries that `ctcs_l2_flush_fdb` removes. -/
def L2Flush.removes (f : L2Flush) (e : FdbEntry) : Bool :=
  f.port.all (· = e.port) && f.fid.all (· = e.fid) && f.flushFlag.covers e.isStatic

/-- A sub-port or a tunnel. -/
def BridgePort.isLogic (bp : BridgePort) : Bool := bp.portType = .subPort || bp.portType = .tunnel

/-- What the SDK answers: to the two calls on learning, and to the flush. -/
structure FdbSdk where
  learningOff : Bool
  flush : CtcE
  learningOn : Bool

/-- The table, and whether addresses are learned. -/
structure FdbHw where
  entries : List FdbEntry
  learning : Bool

variable {δ : Type} (g : HashDbs δ)

section Flush

variable (switchMaster : WbChip → Bool) (bridgePorts : Oid → Option BridgePort) (sdk : FdbSdk)
  (switchId : Oid) (attrs : List FdbFlushAttr)

/-- BRIDGE_PORT_ID in the filter. -/
def flushPort : Option Oid → Except Status (Option L2Addr)
  | none => .ok none
  | some o =>
    match bridgePorts o with
    | none => .error .invalidObjectId
    | some bp => .ok (some ⟨bp.gport.setWidth 32, bp.isLogic⟩)

/-- BV_ID in the filter. -/
def flushFid : Option Oid → Except Status (Option (BitVec 16))
  | none => .ok none
  | some bv =>
    if (bridgeGetFid g bv).1 = .success then .ok (some (bridgeGetFid g bv).2)
    else .error (bridgeGetFid g bv).1

/-- The filter, from the switch to the mode. -/
def flushFilter : Except Status L2Flush :=
  match (oidGetLchip g switchId).map switchMaster with
  | none => .error .uninitialized
  | some false => .error .itemNotFound
  | some true =>
    match flushPort bridgePorts (portArg attrs) with
    | .error status => .error status
    | .ok port =>
      match flushFid g (bvArg attrs) with
      | .error status => .error status
      | .ok fid =>
        match typeArg attrs with
        | none => .error .invalidParameter
        | some flushFlag => .ok ⟨port, fid, flushFlag⟩

/-- `ctc_sai_fdb_flush_fdb`: the calls on learning are not looked at. -/
def flushFdb (hw : FdbHw) : Status × FdbHw :=
  match flushFilter g switchMaster bridgePorts switchId attrs with
  | .error status => (status, hw)
  | .ok filter =>
    let off := { hw with learning := hw.learning && !sdk.learningOff }
    match mappingErrorCtc sdk.flush with
    | .success =>
      (.success, ⟨off.entries.filter fun e => !filter.removes e, off.learning || sdk.learningOn⟩)
    | status => (status, off)

/-- Where the entries of a bridge port are: a logic port has a number of its own. -/
def BridgePort.fdbPort (bp : BridgePort) : L2Addr :=
  ⟨if bp.isLogic then bp.logicPort.setWidth 32 else bp.gport.setWidth 32, bp.isLogic⟩

/-- The entry is one the caller asks for. -/
structure FlushAsked (e : FdbEntry) : Prop where
  port : ∀ bp, (portArg attrs).bind bridgePorts = some bp → bp.fdbPort = e.port
  bv : ∀ bv, bvArg attrs = some bv → (bridgeGetFid g bv).2 = e.fid
  type : ∀ t, typeArg attrs = some t →
    t.covers e.isStatic

/-- The flush removes what is asked for or nothing, and addresses are learned again. -/
structure FlushRight : Prop where
  success : ∀ hw, let r := flushFdb g switchMaster bridgePorts sdk switchId attrs hw
    r.1 = .success → ∀ e, e ∈ r.2.entries ↔ e ∈ hw.entries ∧ ¬ FlushAsked g bridgePorts attrs e
  failure : ∀ hw, let r := flushFdb g switchMaster bridgePorts sdk switchId attrs hw
    r.1 ≠ .success → r.2.entries = hw.entries
  learning : ∀ hw, hw.learning →
    (flushFdb g switchMaster bridgePorts sdk switchId attrs hw).2.learning

/-- The switch, the bridge port, the bridge or VLAN and the type are there. -/
structure FlushAccepted : Prop where
  switch : (oidGetLchip g switchId).map switchMaster = some true
  port : ∀ o, portArg attrs = some o → (bridgePorts o).isSome
  bv : ∀ bv, bvArg attrs = some bv →
    (bridgeGetFid g bv).1 = .success
  type : (typeArg attrs).isSome

theorem flushPort_cases (p : Option Oid) : match flushPort bridgePorts p with
    | .error status => status ≠ .success ∧ ∃ o, p = some o ∧ bridgePorts o = none
    | .ok port => port = (p.bind bridgePorts).map (fun bp => ⟨bp.gport.setWidth 32, bp.isLogic⟩) ∧
        ∀ o, p = some o → (bridgePorts o).isSome := by
  cases p with
  | none => exact ⟨rfl, nofun⟩
  | some o =>
    rw [flushPort]
    cases hbp : bridgePorts o with
    | none => exact ⟨nofun, o, rfl, hbp⟩
    | some bp => simp [hbp]

theorem flushFid_cases (p : Option Oid) : match flushFid g p with
    | .error status => status ≠ .success ∧ ∃ bv, p = some bv ∧ (bridgeGetFid g bv).1 ≠ .success
    | .ok fid => fid = p.map (fun bv => (bridgeGetFid g bv).2) ∧
        ∀ bv, p = some bv → (bridgeGetFid g bv).1 = .success := by
  cases p with
  | none => exact ⟨rfl, nofun⟩
  | some bv =>
    rw [flushFid]
    by_cases hok : (bridgeGetFid g bv).1 = .success
    · simp [hok]
    · rw [if_neg hok]
      exact ⟨hok, bv, rfl, hok⟩

/-- What the filter says of the arguments. -/
theorem flushFilter_cases : match flushFilter g switchMaster bridgePorts switchId attrs with
    | .error status => status ≠ .success ∧
        ¬ FlushAccepted g switchMaster bridgePorts switchId attrs
    | .ok f => FlushAccepted g switchMaster bridgePorts switchId attrs ∧
        f.port = ((portArg attrs).bind bridgePorts).map
          (fun bp => ⟨bp.gport.setWidth 32, bp.isLogic⟩) ∧
        f.fid = (bvArg attrs).map (fun bv => (bridgeGetFid g bv).2) ∧
        typeArg attrs = some f.flushFlag := by
  have hport := flushPort_cases bridgePorts (portArg attrs)
  have hfid := flushFid_cases g (bvArg attrs)
  rw [flushFilter]
  cases hswitch : (oidGetLchip g switchId).map switchMaster with
  | none => exact ⟨nofun, fun h => by rw [h.switch] at hswitch; cases hswitch⟩
  | some master =>
  cases master with
  | false => exact ⟨nofun, fun h => by rw [h.switch] at hswitch; cases hswitch⟩
  | true =>
  dsimp only
  revert hport
  cases flushPort bridgePorts (portArg attrs) with
  | error status =>
    rintro ⟨hstatus, o, ho, hnone⟩
    exact ⟨hstatus, fun h => by simpa [hnone] using h.port o ho⟩
  | ok port =>
  rintro ⟨hport, hports⟩
  dsimp only
  revert hfid
  cases flushFid g (bvArg attrs) with
  | error status =>
    rintro ⟨hstatus, bv, hbv, hne⟩
    exact ⟨hstatus, fun h => hne (h.bv bv hbv)⟩
  | ok fid =>
  rintro ⟨hfid, hfids⟩
  dsimp only
  cases htype : typeArg attrs with
  | none => exact ⟨nofun, fun h => by have := h.type; rw [htype] at this; cases this⟩
  | some t => exact ⟨⟨hswitch, hports, hfids, by rw [htype]; rfl⟩, hport, hfid, rfl⟩

variable {g switchMaster bridgePorts sdk switchId attrs}

theorem removes_iff {f : L2Flush}
    (hf : flushFilter g switchMaster bridgePorts switchId attrs = .ok f) (e : FdbEntry) :
    f.removes e ↔
      (∀ bp, (portArg attrs).bind bridgePorts = some bp →
        ⟨bp.gport.setWidth 32, bp.isLogic⟩ = e.port) ∧
      (∀ bv, bvArg attrs = some bv → (bridgeGetFid g bv).2 = e.fid) ∧
      ∀ t, typeArg attrs = some t → t.covers e.isStatic := by
  have hcases := flushFilter_cases g switchMaster bridgePorts switchId attrs
  rw [hf] at hcases
  obtain ⟨-, hport, hfid, htype⟩ := hcases
  simp only [L2Flush.removes, hport, hfid, htype, Bool.and_eq_true, Option.all_eq_true,
    Option.map_eq_some_iff, decide_eq_true_eq, forall_exists_index, and_imp,
    forall_apply_eq_imp_iff₂, Option.some.injEq, forall_eq']
  exact and_assoc

/-- The port of the filter is that of the entries. -/
def FlushPortOk (bridgePorts : Oid → Option BridgePort) (attrs : List FdbFlushAttr) : Prop :=
  ∀ bp, (portArg attrs).bind bridgePorts = some bp → bp.isLogic → bp.gport = bp.logicPort

theorem removes_asked {f : L2Flush}
    (hf : flushFilter g switchMaster bridgePorts switchId attrs = .ok f)
    (hport : FlushPortOk bridgePorts attrs) (e : FdbEntry) :
    f.removes e ↔ FlushAsked g bridgePorts attrs e := by
  have haddr : ∀ bp, (portArg attrs).bind bridgePorts = some bp →
      bp.fdbPort = ⟨bp.gport.setWidth 32, bp.isLogic⟩ := by
    intro bp hbp
    rw [BridgePort.fdbPort]
    split
    · next hlogic => rw [hport bp hbp hlogic]
    · rfl
  rw [removes_iff hf]
  constructor
  · rintro ⟨hp, hbv, ht⟩
    exact ⟨fun bp hbp => (haddr bp hbp).trans (hp bp hbp), hbv, ht⟩
  · intro h
    exact ⟨fun bp hbp => (haddr bp hbp).symm.trans (h.port bp hbp), h.bv, h.type⟩

theorem flushFdb_success {f : L2Flush} {hw : FdbHw} (hsdk : sdk.flush = .none)
    (hf : flushFilter g switchMaster bridgePorts switchId attrs = .ok f) :
    flushFdb g switchMaster bridgePorts sdk switchId attrs hw =
      (.success, ⟨hw.entries.filter fun e => !f.removes e,
        hw.learning && !sdk.learningOff || sdk.learningOn⟩) := by
  rw [flushFdb, hf]
  dsimp only
  rw [hsdk]
  rfl

theorem flushFdb_failed {f : L2Flush} {hw : FdbHw} (hsdk : sdk.flush ≠ .none)
    (hf : flushFilter g switchMaster bridgePorts switchId attrs = .ok f) :
    (flushFdb g switchMaster bridgePorts sdk switchId attrs hw).1 ≠ .success ∧
      (flushFdb g switchMaster bridgePorts sdk switchId attrs hw).2 =
        ⟨hw.entries, hw.learning && !sdk.learningOff⟩ := by
  have hne := mt mappingErrorCtc_eq_success.mp hsdk
  rw [flushFdb, hf]
  dsimp only
  split
  · next hok => exact absurd hok hne
  · exact ⟨hne, rfl⟩

/-- An entry on the bridge port stays when the filter has another number. -/
theorem FlushRight.portOk (h : FlushRight g switchMaster bridgePorts sdk switchId attrs)
    {f : L2Flush} (hf : flushFilter g switchMaster bridgePorts switchId attrs = .ok f)
    (hsdk : sdk.flush = .none) : FlushPortOk bridgePorts attrs := by
  intro bp hbp hlogic
  have hcases := flushFilter_cases g switchMaster bridgePorts switchId attrs
  rw [hf] at hcases
  obtain ⟨-, -, -, htype⟩ := hcases
  let e : FdbEntry := ⟨0, ((bvArg attrs).map fun bv => (bridgeGetFid g bv).2).getD 0, bp.fdbPort,
    f.flushFlag = .static⟩
  have hasked : FlushAsked g bridgePorts attrs e := by
    refine ⟨fun bp' hbp' => ?_, fun bv hbv => ?_, fun t ht => ?_⟩
    · rw [hbp] at hbp'
      cases hbp'
      rfl
    · simp only [e, hbv, Option.map_some, Option.getD_some]
    · rw [htype] at ht
      cases ht
      simp only [e]
      cases f.flushFlag <;> rfl
  have hentry := h.success ⟨[e], true⟩
  rw [flushFdb_success hsdk hf] at hentry
  have hgone := mt ((hentry rfl e).mp) fun hc => hc.2 hasked
  have hremoves : f.removes e := by simpa using hgone
  have hport := ((removes_iff hf e).mp hremoves).1 bp hbp
  simp only [e, BridgePort.fdbPort, hlogic, if_true, L2Addr.mk.injEq, and_true] at hport
  have hcut := congrArg (BitVec.setWidth 16) hport
  simpa using hcut

/-- The flush does what it is asked exactly where a logic port has the number of
its port, and learning is not left off. -/
theorem flushRight_iff : FlushRight g switchMaster bridgePorts sdk switchId attrs ↔
    (FlushAccepted g switchMaster bridgePorts switchId attrs →
      (sdk.flush = .none → FlushPortOk bridgePorts attrs) ∧
      (sdk.learningOff → sdk.flush = .none ∧ sdk.learningOn)) := by
  have hcases := flushFilter_cases g switchMaster bridgePorts switchId attrs
  cases hf : flushFilter g switchMaster bridgePorts switchId attrs with
  | error status =>
    rw [hf] at hcases
    refine ⟨fun _ h => absurd h hcases.2, fun _ => ⟨fun hw h => ?_, fun hw _ => ?_, fun hw h => ?_⟩⟩
    · rw [flushFdb, hf] at h
      exact absurd h hcases.1
    · rw [flushFdb, hf]
    · rw [flushFdb, hf]
      exact h
  | ok f =>
    rw [hf] at hcases
    constructor
    · intro h _
      refine ⟨h.portOk hf, fun hoff => ?_⟩
      have hlearn := h.learning ⟨[], true⟩ rfl
      by_cases hsdk : sdk.flush = .none
      · rw [flushFdb_success hsdk hf] at hlearn
        exact ⟨hsdk, by simpa [hoff] using hlearn⟩
      · rw [(flushFdb_failed hsdk hf).2] at hlearn
        simp [hoff] at hlearn
    · intro h
      obtain ⟨hport, hlearn⟩ := h hcases.1
      by_cases hsdk : sdk.flush = .none
      · refine ⟨fun hw _ e => ?_, fun hw hne => ?_, fun hw hon => ?_⟩
        · rw [flushFdb_success hsdk hf, ← removes_asked hf (hport hsdk)]
          simp
        · rw [flushFdb_success hsdk hf] at hne
          exact absurd rfl hne
        · rw [flushFdb_success hsdk hf]
          cases hoff : sdk.learningOff with
          | false => simp [hon]
          | true => simp [(hlearn hoff).2]
      have hoff : sdk.learningOff = false :=
        Bool.eq_false_iff.mpr fun hoff => hsdk (hlearn hoff).1
      refine ⟨fun hw hok => absurd hok (flushFdb_failed hsdk hf).1, fun hw _ => ?_,
        fun hw hon => ?_⟩
      · rw [(flushFdb_failed hsdk hf).2]
      · rw [(flushFdb_failed hsdk hf).2]
        simp [hon, hoff]

end Flush

/-- A sub-port of port 1 with the logic port 5. -/
def subPortFive : BridgePort := { BridgePort.zero with portType := .subPort, gport := 1, logicPort := 5 }

/-- Flushed by its bridge port, the entry of a sub-port stays. -/
theorem flushRight_not_always : ¬ ∀ (g : HashDbs Unit) (switchMaster : WbChip → Bool)
    (bridgePorts : Oid → Option BridgePort) (sdk : FdbSdk) (switchId : Oid)
    (attrs : List FdbFlushAttr), FlushRight g switchMaster bridgePorts sdk switchId attrs := by
  intro h
  have hright := h (fun _ => some ⟨fun _ => ∅, fun _ => ∅⟩) (fun _ => true)
    (fun _ => some subPortFive) ⟨true, .none, true⟩ Oid.null [.bridgePortId Oid.null]
  exact absurd (hright.portOk rfl rfl subPortFive rfl rfl) (by decide)

/-! ## Listing -/

/-- `sai_fdb_entry_t`. -/
structure FdbKey where
  switchId : Oid
  macAddress : Mac
  bvId : Oid
deriving DecidableEq, Repr

section Dump

variable (m : KeyMacros) (lchip : WbChip) (entries : List FdbEntry) (read : Nat → Status)

/-- The key written for an entry: a bridge where no VLAN has data. -/
def dumpKey (e : FdbEntry) : FdbKey :=
  let vlan := (g lchip).bind fun db => (db.oidHash .vlan).lookup (rebuiltBvId lchip false e.fid)
  ⟨m.switchId lchip, e.mac, rebuiltBvId lchip vlan.isNone e.fid⟩

/-- The loop over the pages of `ctcs_l2_get_fdb_entry`, which answers `read`. -/
def dumpPages (start : Nat) : Status × List FdbKey :=
  match read start with
  | .success =>
    let keys := ((entries.drop start).take 100).map (dumpKey g m lchip)
    if start + 100 < entries.length then
      let (status, rest) := dumpPages (start + 100)
      (status, keys ++ rest)
    else (.success, keys)
  | status => (status, [])
termination_by entries.length - start

/-- `ctc_sai_fdb_dump_fdb_entrys`; `room` is `none` without a list to write to. -/
def fdbDumpFdbEntrys (mem : Bool) (room : Option Nat) : Status × List FdbKey :=
  match room with
  | none => (.invalidParameter, [])
  | some objectCount =>
    if objectCount < entries.length then (.bufferOverflow, [])
    else if !mem then (.noMemory, [])
    else dumpPages g m lchip entries read 0

/-- The entry that `ctc_sai_fdb_get_fdb_info` reads. -/
def fdbEntryOf (key : FdbKey) : Option FdbEntry :=
  match bridgeGetFid g key.bvId with
  | (.success, fid) => entries.find? fun e => e.mac = key.macAddress ∧ e.fid = fid
  | _ => none

/-- Each entry is written once, under a key that leads back to it. -/
def DumpUsable (mem : Bool) (room : Option Nat) : Prop :=
  ∃ keys, fdbDumpFdbEntrys g m lchip entries read mem room = (.success, keys) ∧
    keys.Forall₂ (fun key e => bridgeGetFid g key.bvId = (.success, e.fid) ∧
      fdbEntryOf g entries key = some e) entries

variable {g m lchip entries read}

theorem dumpPages_eq (hread : ∀ start, read start = .success) (start : Nat) :
    dumpPages g m lchip entries read start =
      (.success, (entries.drop start).map (dumpKey g m lchip)) := by
  induction hn : entries.length - start using Nat.strong_induction_on generalizing start with
  | _ n ih =>
    rw [dumpPages, hread]
    dsimp only
    split
    · rw [ih _ (by omega) (start + 100) rfl, ← List.map_append, ← List.drop_drop,
        List.take_append_drop]
    · rw [List.take_of_length_le (by rw [List.length_drop]; omega)]

theorem dumpKey_bvId {db : HashDb δ} (hg : g lchip = some db) (e : FdbEntry) :
    (dumpKey g m lchip e).bvId = rebuiltBvId lchip
      ((db.oidHash .vlan).lookup (rebuiltBvId lchip false e.fid)).isNone e.fid := by
  rw [dumpKey, hg]
  rfl

/-- The instance of a key and its address find the one entry there is. -/
theorem fdbEntryOf_dumpKey (hkeys : (entries.map fun e => (e.mac, e.fid)).Nodup) {e : FdbEntry}
    (he : e ∈ entries) (hfid : bridgeGetFid g (dumpKey g m lchip e).bvId = (.success, e.fid)) :
    fdbEntryOf g entries (dumpKey g m lchip e) = some e := by
  rw [fdbEntryOf, hfid]
  change (entries.find? fun e' => e'.mac = e.mac ∧ e'.fid = e.fid) = some e
  cases hfind : entries.find? fun e' => e'.mac = e.mac ∧ e'.fid = e.fid with
  | none =>
    have hno := List.find?_eq_none.mp hfind e he
    simp at hno
  | some e' =>
    have hkey : e'.mac = e.mac ∧ e'.fid = e.fid := by simpa using List.find?_some hfind
    exact congrArg some (List.inj_on_of_nodup_map hkeys (List.mem_of_find?_eq_some hfind) he
      (Prod.ext hkey.1 hkey.2))

/-- The keys of a listing lead back exactly where no bridge but the .1Q bridge has
an entry: the id of the bridge is rebuilt without its type. -/
theorem dumpUsable_iff {db : HashDb δ} (hg : g lchip = some db)
    (hread : ∀ start, read start = .success)
    (hkeys : (entries.map fun e => (e.mac, e.fid)).Nodup) {mem : Bool} {room : Option Nat} :
    DumpUsable g m lchip entries read mem room ↔
      mem ∧ (∃ n, room = some n ∧ entries.length ≤ n) ∧ ∀ e ∈ entries,
        BvStands db lchip ((db.oidHash .vlan).lookup (rebuiltBvId lchip false e.fid)).isNone
          e.fid := by
  have hlead : ∀ e, bridgeGetFid g (dumpKey g m lchip e).bvId = (.success, e.fid) ↔
      BvStands db lchip ((db.oidHash .vlan).lookup (rebuiltBvId lchip false e.fid)).isNone
        e.fid := by
    intro e
    rw [dumpKey_bvId hg]
    exact bridgeGetFid_rebuilt hg _ _
  have hpages : dumpPages g m lchip entries read 0 = _ := dumpPages_eq hread 0
  constructor
  · rintro ⟨keys, hdump, hkey⟩
    unfold fdbDumpFdbEntrys at hdump
    split at hdump
    · cases hdump
    next n =>
    split at hdump
    · cases hdump
    next hroom =>
    split at hdump
    · cases hdump
    next hmem =>
    rw [hpages] at hdump
    cases hdump
    refine ⟨by simpa using hmem, ⟨n, rfl, Nat.not_lt.mp hroom⟩, fun e he => (hlead e).mp ?_⟩
    rw [List.drop_zero, List.forall₂_map_left_iff, List.forall₂_same] at hkey
    exact (hkey e he).1
  · rintro ⟨hmem, ⟨n, rfl, hroom⟩, hstands⟩
    refine ⟨entries.map (dumpKey g m lchip), ?_, ?_⟩
    · rw [fdbDumpFdbEntrys, if_neg (Nat.not_lt.mpr hroom), hmem, if_neg (by decide), hpages, List.drop_zero]
    · rw [List.forall₂_map_left_iff, List.forall₂_same]
      intro e he
      have hfid := (hlead e).mpr (hstands e he)
      exact ⟨hfid, fdbEntryOf_dumpKey hkeys he hfid⟩

/-- An entry on VLAN 10 is listed under a key that leads back to it. -/
theorem dumpUsable_iff_vlan : DumpUsable (fun _ => some ⟨oneObject .vlan (rebuiltBvId 1 false 10) 10,
    fun _ => ∅⟩ : HashDbs Unit) .ones 1 [⟨7, 10, ⟨3, false⟩, true⟩] (fun _ => .success) true (some 1) :=
  (dumpUsable_iff rfl (fun _ => rfl) (by decide)).mpr ⟨rfl, ⟨1, rfl, le_refl 1⟩, by
    rintro e he
    cases List.mem_singleton.mp he
    rfl⟩

/-- An entry on a .1D bridge is listed on a bridge that does not exist. -/
theorem dumpUsable_not_always : ¬ ∀ (g : HashDbs Unit) (db : HashDb Unit) (lchip : WbChip)
    (entries : List FdbEntry), g lchip = some db →
    (∀ e ∈ entries, BvStands db lchip false e.fid ∨
      ((db.oidHash .bridge).lookup (createObjectId .bridge lchip.toByte 1 0
        (e.fid.setWidth 32))).isSome) →
    (entries.map fun e => (e.mac, e.fid)).Nodup →
    DumpUsable g .ones lchip entries (fun _ => .success) true (some entries.length) := by
  intro h
  obtain ⟨keys, hdump, hkeys⟩ := h (fun _ => some ⟨oneObject .bridge
    (createObjectId .bridge 0 1 0 5) 0, fun _ => ∅⟩) _ 0 [⟨7, 5, ⟨3, false⟩, true⟩] rfl
    (fun e he => .inr (by cases List.mem_singleton.mp he; rfl)) (by decide)
  rw [fdbDumpFdbEntrys, dumpPages_eq fun _ => rfl] at hdump
  cases hdump
  exact absurd (List.forall₂_cons.mp hkeys).1.1 (by decide)

end Dump

end CtcSai
