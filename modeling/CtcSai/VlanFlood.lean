/-
# `VlanFlood` — unknown traffic of a VLAN

Two settings decide what a forwarding instance does with unknown traffic of a
class: the action of the switch and the flood type of the VLAN.  Each is set on
a path of its own, which writes the combination into the hardware: `OnlyVlan`
bounds what the VLAN's path touches, and a traversal of all VLANs is the
switch's.  The traversal writes to chip 0 whatever chip the VLANs are on, and a
new VLAN is written only if a flood type is given for it.
-/
import CtcSai.VlanStp

namespace CtcSai

open Function IdPool KeyedTable Runs Table

/-! ## The switch -/

/-- What does not change while the adapter runs. -/
structure VlanChips where
  chip : Lchip → VlanChip
  lchip : ∀ c, (chip c).lchip = c

/-- The chips, and the flood types that were asked for last. -/
structure VlanSys (chips : VlanChips) where
  db : (c : Lchip) → VlanDb (chips.chip c)
  /-- By chip, VLAN and class; ALL when never set. -/
  asked : Lchip → Oid → VlanPktType → BitVec 32

/-- `_ctc_sai_vlan_set_unkown_pkt_action_cb` on each VLAN of the table. -/
def traverseSetUnkownPktAction (sdk : VlanSdk) (action : BitVec 32) (cls : VlanPktType) :
    List ((_ : Oid) × Option VlanUser) → VlanHw → Option VlanHw
  | [], hw => some hw
  | ⟨_, none⟩ :: _, _ => none
  | ⟨_, some v⟩ :: rest, hw =>
    traverseSetUnkownPktAction sdk action cls rest
      (vlanSetUnknownPktAction sdk hw v.userVlanptr action (v.ukwnFloodCtr cls) cls)

/-- The FDB miss actions of `ctc_sai_switch_set_attribute`.  The parameter
block of the traversal is zeroed and its `lchip` is not filled, so it is chip 0
that is written. -/
def switchSetMissAction {chips : VlanChips} (sdk : VlanSdk) (s : VlanSys chips) (c : Lchip)
    (cls : VlanPktType) (action : BitVec 32) : Option (Status × VlanSys chips) :=
  if cls = .broadcast ∧ (chips.chip c).chipType = .goldengate then
    some (.attrNotSupported 0, s)
  else
    let db := update s.db c { s.db c with
      fdbMissAction := update (s.db c).fdbMissAction cls action }
    match traverseSetUnkownPktAction sdk action cls (s.db c).vlans.entries (db 0).hw with
    | none => none
    | some hw => some (.success, { s with
        db := update db 0 { db 0 with hw := hw } })

/-! ## The system -/

def VlanAttr.flood? : VlanAttr → VlanPktType → Option (BitVec 32)
  | floodControlType c s, cls => if c = cls then some s else none
  | _, _ => none

/-- The flood type of a class that a creation gives. -/
def givenFlood (attrs : List VlanAttr) (cls : VlanPktType) : Option (BitVec 32) :=
  (attrs.find? fun a => a.id = .floodControlType cls).bind (·.flood? cls)

inductive FloodOp where
  | create (c : Lchip) (sdk : VlanSdk) (attrs : List VlanAttr)
  | remove (c : Lchip) (sdk : VlanSdk) (oid : Oid)
  | set (c : Lchip) (sdk : VlanSdk) (oid : Oid) (attr : VlanAttr)
  | missAction (c : Lchip) (sdk : VlanSdk) (cls : VlanPktType) (action : BitVec 32)

/-- What a creation asked for, when it succeeded. -/
def askedByCreate (asked : Oid → VlanPktType → BitVec 32) (attrs : List VlanAttr) :
    Status → Option Oid → Oid → VlanPktType → BitVec 32
  | .success, some oid => update asked oid fun cls => (givenFlood attrs cls).getD 0
  | _, _ => asked

/-- What setting an attribute asked for, when it succeeded. -/
def askedBySet (asked : Oid → VlanPktType → BitVec 32) (oid : Oid) (attr : VlanAttr) :
    Status → Oid → VlanPktType → BitVec 32
  | .success => update asked oid fun cls => (attr.flood? cls).getD (asked oid cls)
  | _ => asked

def VlanSys.onChip {chips : VlanChips} (s : VlanSys chips) (c : Lchip)
    (db : VlanDb (chips.chip c)) (asked : Oid → VlanPktType → BitVec 32) : VlanSys chips :=
  ⟨update s.db c db, update s.asked c asked⟩

def floodStep {chips : VlanChips} (s : VlanSys chips) : FloodOp → Option (VlanSys chips)
  | .create c sdk attrs => (createVlan sdk (s.db c) attrs).map fun r =>
    s.onChip c r.2.2 (askedByCreate (s.asked c) attrs r.1 r.2.1)
  | .remove c sdk oid => (removeVlan sdk (s.db c) oid).map fun r => s.onChip c r.2 (s.asked c)
  | .set c sdk oid attr => (vlanSetAttr sdk (s.db c) oid attr).map fun r =>
    s.onChip c r.2 (askedBySet (s.asked c) oid attr r.1)
  | .missAction c sdk cls action => (switchSetMissAction sdk s c cls action).map Prod.snd

/-- No VLAN; any actions of the switches. -/
def FloodStart {chips : VlanChips} (s : VlanSys chips) : Prop :=
  ∀ c, (s.db c).vlans = ∅ ∧ (s.db c).pool = .empty _

/-- On every chip the hardware combines the two settings for every VLAN, and
the flood type reads back as it was asked for. -/
structure FloodOk {chips : VlanChips} (s : VlanSys chips) : Prop where
  hw : ∀ c oid v, (s.db c).Live oid v → ∀ cls,
    (s.db c).hw.unknownDrop v.userVlanptr cls =
        unknownDropOf ((s.db c).fdbMissAction cls) (s.asked c oid cls) ∧
      (s.db c).hw.unknownCopy v.userVlanptr cls = unknownCopyOf ((s.db c).fdbMissAction cls)
  get : ∀ c oid v, (s.db c).Live oid v → ∀ cls (sdk : VlanSdk),
    sdk.rc (.getUnknownDrop cls) = .none →
      getVlanFloodControl sdk (s.db c) oid cls = some (.success, some (s.asked c oid cls))

/-! ## The condition -/

/-- The flood type can be read off the drop property. -/
def FloodReads (action type : BitVec 32) : Prop :=
  type = vlanFloodNone ∨ unknownDropOf action type = false

/-- The SDK takes what it is told of a class. -/
def VlanSdk.WritesFlood (sdk : VlanSdk) (cls : VlanPktType) : Prop :=
  sdk.rc (.setUnknownDrop cls) = .none ∧ sdk.rc (.setUnknownCopy cls) = .none

def FloodSafe {chips : VlanChips} (s : VlanSys chips) : FloodOp → Prop
  -- a flood type that is not given is not written
  | .create c sdk attrs => ∀ cls,
      match givenFlood attrs cls with
      | some type => sdk.WritesFlood cls ∧ FloodReads ((s.db c).fdbMissAction cls) type
      | none => unknownDropOf ((s.db c).fdbMissAction cls) 0 = false ∧
          unknownCopyOf ((s.db c).fdbMissAction cls) = false
  | .remove c sdk oid => ∀ r, removeVlan sdk (s.db c) oid = some r →
      r.1 = .success ∨ r.2 = s.db c
  | .set c sdk oid attr => ∀ cls type, attr = .floodControlType cls type →
      ∀ v, (s.db c).Live oid v → type = 0 ∨ type = 1 →
        sdk.WritesFlood cls ∧ FloodReads ((s.db c).fdbMissAction cls) type
  | .missAction c sdk cls action =>
    ¬ (cls = .broadcast ∧ (chips.chip c).chipType = .goldengate) →
      ∀ oid v, (s.db c).Live oid v →
        c = 0 ∧ sdk.WritesFlood cls ∧ FloodReads action (v.ukwnFloodCtr cls)

/-! ## One VLAN of one chip -/

section One

variable {ch : VlanChip}

/-- What unknown traffic of a class depends on. -/
def VlanDb.floodState (db : VlanDb ch) (v : VlanUser) (cls : VlanPktType) :
    BitVec 32 × Bool × Bool :=
  (v.ukwnFloodCtr cls, db.hw.unknownDrop v.userVlanptr cls, db.hw.unknownCopy v.userVlanptr cls)

/-- The state after a flood type was set, if one was. -/
def withFlood (action : BitVec 32) (x : BitVec 32 × Bool × Bool) :
    Option (BitVec 32) → BitVec 32 × Bool × Bool
  | none => x
  | some s => (s, unknownDropOf action s, unknownCopyOf action)

/-- Only one VLAN and its forwarding instance differ. -/
structure OnlyVlan (oid : Oid) (ptr : BitVec 16) (db db' : VlanDb ch) : Prop where
  vlans : ∀ o, o ≠ oid → db'.vlans.lookup o = db.vlans.lookup o
  drop : ∀ p, p ≠ ptr → db'.hw.unknownDrop p = db.hw.unknownDrop p
  copy : ∀ p, p ≠ ptr → db'.hw.unknownCopy p = db.hw.unknownCopy p
  miss : db'.fdbMissAction = db.fdbMissAction
  pool : db'.pool = db.pool

variable {sdk : VlanSdk} {db : VlanDb ch} {oid : Oid} {ptr : BitVec 16}

theorem OnlyVlan.refl (db : VlanDb ch) : OnlyVlan oid ptr db db :=
  ⟨fun _ _ => rfl, fun _ _ => rfl, fun _ _ => rfl, rfl, rfl⟩

theorem OnlyVlan.trans {a b c : VlanDb ch} (h : OnlyVlan oid ptr a b) (h' : OnlyVlan oid ptr b c) :
    OnlyVlan oid ptr a c where
  vlans o ho := (h'.vlans o ho).trans (h.vlans o ho)
  drop p hp := (h'.drop p hp).trans (h.drop p hp)
  copy p hp := (h'.copy p hp).trans (h.copy p hp)
  miss := h'.miss.trans h.miss
  pool := h'.pool.trans h.pool

theorem OnlyVlan.write (v : VlanUser) : OnlyVlan oid ptr db (db.write oid v) := by
  refine ⟨fun o ho => ?_, fun _ _ => rfl, fun _ _ => rfl, rfl, rfl⟩
  exact (lookup_insert_ite ..).trans (if_neg ho)

theorem OnlyVlan.dangle : OnlyVlan oid ptr db (db.dangle oid) := by
  refine ⟨fun o ho => ?_, fun _ _ => rfl, fun _ _ => rfl, rfl, rfl⟩
  exact (lookup_insert_ite ..).trans (if_neg ho)

theorem vlanSetUnknownPktAction_of_ne {hw : VlanHw} {a b : BitVec 32} {cls : VlanPktType}
    {p : BitVec 16} (hp : p ≠ ptr) :
    (vlanSetUnknownPktAction sdk hw ptr a b cls).unknownDrop p = hw.unknownDrop p ∧
      (vlanSetUnknownPktAction sdk hw ptr a b cls).unknownCopy p = hw.unknownCopy p := by
  unfold vlanSetUnknownPktAction
  split
  · split
    · exact ⟨update_of_ne hp .., update_of_ne hp ..⟩
    · exact ⟨update_of_ne hp .., rfl⟩
  · exact ⟨rfl, rfl⟩

theorem vlanSetUnknownPktAction_same_fid {hw : VlanHw} {a b : BitVec 32} {cls : VlanPktType}
    (hsdk : sdk.WritesFlood cls) (c : VlanPktType) :
    (vlanSetUnknownPktAction sdk hw ptr a b cls).unknownDrop ptr c =
        (if c = cls then unknownDropOf a b else hw.unknownDrop ptr c) ∧
      (vlanSetUnknownPktAction sdk hw ptr a b cls).unknownCopy ptr c =
        if c = cls then unknownCopyOf a else hw.unknownCopy ptr c := by
  unfold vlanSetUnknownPktAction
  simp only [if_pos hsdk.1, if_pos hsdk.2, VlanHw.setUnknownCopy, VlanHw.setUnknownDrop,
    update_self, update_apply]
  exact ⟨trivial, trivial⟩

variable {attr : VlanAttr} {r : Status × VlanDb ch} {ids : List VlanAttrId} {cls : VlanPktType}

theorem VlanChange.only {v : VlanUser} (h : VlanChange sdk db oid v attr r)
    (hp : v.userVlanptr = ptr) : OnlyVlan oid ptr db r.2 := by
  subst hp
  cases h with
  | steady _ _ _ hr => rw [hr]; exact .write _
  | @flood cls s _ _ _ hr =>
    have hw := @OnlyVlan.write ch db oid v.userVlanptr
      { v with ukwnFloodCtr := update v.ukwnFloodCtr cls s }
    rw [hr]
    exact ⟨hw.vlans, fun p hp => (vlanSetUnknownPktAction_of_ne hp).1,
      fun p hp => (vlanSetUnknownPktAction_of_ne hp).2, rfl, rfl⟩
  | stp _ hr =>
    unfold vlanSetStp at hr
    split at hr
    · split at hr
      · cases hr
      · cases hr
        refine ⟨fun o ho => ?_, fun _ _ => rfl, fun _ _ => rfl, rfl, rfl⟩
        exact (lookup_insert_ite ..).trans (if_neg ho)
    · cases hr; exact .refl db

/-- Setting an attribute touches only its VLAN, which keeps its number. -/
theorem vlanSetAttr_only (hr : vlanSetAttr sdk db oid attr = some r)
    (hp : ∀ v, db.Live oid v → v.userVlanptr = ptr) :
    OnlyVlan oid ptr db r.2 ∧ ∀ v', r.2.Live oid v' →
      v'.userVlanptr = ptr ∧ ∃ v, db.Live oid v := by
  rcases vlanSetAttr_changes hr with h | ⟨v, hv, hc⟩
  · rw [h.eq]
    exact ⟨.refl db, fun v' hv' => ⟨hp v' hv', v', hv'⟩⟩
  refine ⟨hc.only (hp v hv), fun v' hv' => ⟨?_, v, hv⟩⟩
  obtain ⟨w, hw, hptr, -⟩ := hc.live hv
  have hvw : v' = w := Option.some.inj (Option.some.inj (hv'.symm.trans hw))
  rw [hvw, hptr, hp v hv]

theorem vlanSetGiven_only {attrs : List VlanAttr} (hr : vlanSetGiven sdk oid attrs db ids = some r)
    (hp : ∀ v, db.Live oid v → v.userVlanptr = ptr) :
    OnlyVlan oid ptr db r.2 ∧ ∀ v', r.2.Live oid v' →
      v'.userVlanptr = ptr ∧ ∃ v, db.Live oid v := by
  induction ids generalizing db with
  | nil => cases hr; exact ⟨.refl db, fun v' hv' => ⟨hp v' hv', v', hv'⟩⟩
  | cons i rest ih =>
    simp only [vlanSetGiven] at hr
    split at hr
    · exact ih hr hp
    split at hr
    · cases hr
    · rename_i db₁ h₁
      obtain ⟨only₁, hp₁⟩ := vlanSetAttr_only h₁ hp
      obtain ⟨only₂, hp₂⟩ := ih hr fun v hv => (hp₁ v hv).1
      refine ⟨only₁.trans only₂, fun v' hv' => ⟨(hp₂ v' hv').1, ?_⟩⟩
      obtain ⟨v, hv⟩ := (hp₂ v' hv').2
      exact (hp₁ v hv).2
    · rename_i h₁
      cases hr
      exact vlanSetAttr_only h₁ hp

/-- The VLAN is there still, with the flood types that were given. -/
def FloodSet (db db' : VlanDb ch) (oid : Oid) (v : VlanUser)
    (given : VlanPktType → Option (BitVec 32)) : Prop :=
  ∃ v', db'.Live oid v' ∧ v'.userVlanptr = v.userVlanptr ∧ db'.fdbMissAction = db.fdbMissAction ∧
    (∀ cls, db'.floodState v' cls =
      withFlood (db.fdbMissAction cls) (db.floodState v cls) (given cls)) ∧
    ∀ cls s, given cls = some s → s = 0 ∨ s = 1

theorem FloodSet.none {db' : VlanDb ch} {v v' : VlanUser}
    {given : VlanPktType → Option (BitVec 32)} (hg : ∀ cls, given cls = none)
    (hv' : db'.Live oid v') (hptr : v'.userVlanptr = v.userVlanptr)
    (hmiss : db'.fdbMissAction = db.fdbMissAction) (hflood : v'.ukwnFloodCtr = v.ukwnFloodCtr)
    (hdrop : db'.hw.unknownDrop = db.hw.unknownDrop)
    (hcopy : db'.hw.unknownCopy = db.hw.unknownCopy) : FloodSet db db' oid v given := by
  refine ⟨v', hv', hptr, hmiss, fun cls => ?_, fun cls s hs => ?_⟩
  · unfold VlanDb.floodState
    rw [hg, hptr, hflood, hdrop, hcopy]
    rfl
  · rw [hg] at hs
    cases hs

theorem flood?_eq_none (h : ∀ c s, attr ≠ .floodControlType c s) (cls : VlanPktType) :
    attr.flood? cls = none := by
  cases attr with
  | floodControlType c s => exact absurd rfl (h c s)
  | _ => rfl

/-- Setting an attribute sets the state of the class it names, if it succeeds. -/
theorem vlanSetAttr_floodSet (hr : vlanSetAttr sdk db oid attr = some r) {v : VlanUser}
    (hv : db.Live oid v)
    (hsdk : ∀ cls s, attr = .floodControlType cls s → s = 0 ∨ s = 1 → sdk.WritesFlood cls) :
    FloodSet db r.2 oid v (if r.1 = .success then attr.flood? else fun _ => .none) := by
  have hnone : (∀ c s, attr ≠ .floodControlType c s) → ∀ cls,
      (if r.1 = .success then attr.flood? else fun _ => .none) cls = .none := by
    intro hattr cls
    split
    · exact flood?_eq_none hattr cls
    · rfl
  rcases vlanSetAttr_changes hr with h | ⟨v₀, hv₀, hc⟩
  · have hnone' : ∀ cls, (if r.1 = .success then attr.flood? else fun _ => .none) cls = .none := by
      intro cls
      cases h with
      | failed _ h => rw [if_neg h]
      | other _ hattr => exact hnone hattr cls
    rw [h.eq]
    exact .none hnone' hv rfl rfl rfl rfl rfl
  obtain rfl : v₀ = v := Option.some.inj (Option.some.inj (hv₀.symm.trans hv))
  cases hc with
  | @steady v' _ hattr hs hdb =>
    rw [hdb]
    exact .none (hnone hattr) (AList.lookup_insert db.vlans) hs.ptr rfl hs.flood rfl rfl
  | @flood c s hattr hs _ hr' =>
    subst hr' hattr
    rw [if_pos rfl]
    refine ⟨_, AList.lookup_insert db.vlans, rfl, rfl, fun cls => ?_, fun cls t ht => ?_⟩
    · have hw := @vlanSetUnknownPktAction_same_fid sdk v₀.userVlanptr db.hw (db.fdbMissAction c) s
        c (hsdk c s rfl hs) cls
      unfold VlanDb.floodState
      rw [hw.1, hw.2]
      by_cases hc : cls = c
      · subst hc
        simp [VlanAttr.flood?, withFlood]
      · simp [VlanAttr.flood?, withFlood, hc, Ne.symm hc]
    · simp only [VlanAttr.flood?] at ht
      split at ht
      · cases ht; exact hs
      · cases ht
  | @stp stp hattr hr' =>
    have hno : ∀ c s, attr ≠ .floodControlType c s := by
      rw [hattr]
      nofun
    have hgiven := hnone hno
    unfold vlanSetStp at hr'
    split at hr'
    · split at hr'
      · cases hr'
      · cases hr'
        exact .none hgiven (AList.lookup_insert db.vlans) rfl rfl rfl rfl rfl
    · cases hr'
      exact .none hgiven hv rfl rfl rfl rfl rfl

theorem vlanSetAttr_floodSet_success {db' : VlanDb ch}
    (hr : vlanSetAttr sdk db oid attr = some (.success, db')) {v : VlanUser} (hv : db.Live oid v)
    (hsdk : ∀ cls s, attr = .floodControlType cls s → s = 0 ∨ s = 1 → sdk.WritesFlood cls) :
    FloodSet db db' oid v attr.flood? := by
  have h := vlanSetAttr_floodSet hr hv hsdk
  rwa [if_pos rfl] at h

theorem withFlood_withFlood (action : BitVec 32) (x : BitVec 32 × Bool × Bool)
    (a : Option (BitVec 32)) : withFlood action (withFlood action x a) a = withFlood action x a := by
  cases a <;> rfl

theorem givenFlood_of_find {attrs : List VlanAttr} {a : VlanAttr}
    (h : (attrs.find? fun a => a.id = .floodControlType cls) = some a) :
    givenFlood attrs cls = a.flood? cls := by
  unfold givenFlood
  rw [h]
  rfl

/-- The flood type that a list of ids asks for. -/
def givenIn (attrs : List VlanAttr) (ids : List VlanAttrId) (cls : VlanPktType) :
    Option (BitVec 32) :=
  if .floodControlType cls ∈ ids then givenFlood attrs cls else none

theorem givenIn_self {attrs : List VlanAttr} :
    givenIn attrs (.floodControlType cls :: ids) cls = givenFlood attrs cls :=
  if_pos List.mem_cons_self

theorem givenIn_of_ne {attrs : List VlanAttr} {i : VlanAttrId} (h : i ≠ .floodControlType cls) :
    givenIn attrs (i :: ids) cls = givenIn attrs ids cls := by
  unfold givenIn
  simp only [List.mem_cons, Ne.symm h, false_or]

/-- Setting the given attributes of a list sets the flood types among them. -/
theorem vlanSetGiven_floodSet {attrs : List VlanAttr} {db' : VlanDb ch}
    (hr : vlanSetGiven sdk oid attrs db ids = some (.success, db')) {v : VlanUser}
    (hv : db.Live oid v) (hsdk : ∀ cls s, givenFlood attrs cls = some s → sdk.WritesFlood cls) :
    FloodSet db db' oid v (givenIn attrs ids) := by
  induction ids generalizing db v with
  | nil =>
    cases hr
    exact .none (fun cls => if_neg (List.not_mem_nil)) hv rfl rfl rfl rfl rfl
  | cons i rest ih =>
    simp only [vlanSetGiven] at hr
    split at hr
    · rename_i hfind
      -- an id whose attribute is not given asks for nothing
      have hgiven : givenIn attrs (i :: rest) = givenIn attrs rest := by
        funext cls
        by_cases hi : i = .floodControlType cls
        · have hnone : givenFlood attrs cls = none := by
            unfold givenFlood
            rw [← hi, hfind]
            rfl
          unfold givenIn
          rw [hnone, ite_self, ite_self]
        · exact givenIn_of_ne hi
      rw [hgiven]
      exact ih hr hv
    · rename_i a hfind
      have hid := List.find?_some hfind
      have hid : a.id = i := of_decide_eq_true hid
      split at hr
      · cases hr
      · rename_i db₁ h₁
        have hsdk₁ : ∀ cls s, a = .floodControlType cls s → s = 0 ∨ s = 1 →
            sdk.WritesFlood cls := by
          rintro cls s rfl -
          refine hsdk cls s ?_
          obtain rfl := hid
          rw [givenFlood_of_find hfind]
          simp [VlanAttr.flood?]
        obtain ⟨v₁, hv₁, hptr₁, hmiss₁, hstate₁, hval₁⟩ :=
          vlanSetAttr_floodSet_success h₁ hv hsdk₁
        obtain ⟨v', hv', hptr, hmiss, hstate, hval⟩ := ih hr hv₁
        refine ⟨v', hv', hptr.trans hptr₁, hmiss.trans hmiss₁, fun cls => ?_, fun cls s hs => ?_⟩
        · rw [hstate, hstate₁, hmiss₁]
          by_cases hi : i = .floodControlType cls
          · subst hi
            rw [givenIn_self, ← givenFlood_of_find hfind]
            unfold givenIn
            split
            · rw [withFlood_withFlood]
            · rfl
          have hnone : a.flood? cls = none := by
            cases a with
            | floodControlType c s =>
              have hc : c ≠ cls := by
                rintro rfl
                exact hi hid.symm
              simp [VlanAttr.flood?, hc]
            | _ => rfl
          rw [hnone, givenIn_of_ne hi]
          rfl
        · by_cases hi : i = .floodControlType cls
          · subst hi
            rw [givenIn_self, givenFlood_of_find hfind] at hs
            exact hval₁ cls s hs
          · rw [givenIn_of_ne hi] at hs
            exact hval cls s hs
      · rename_i hne _
        cases hr
        exact absurd rfl hne

/-! ### The invariant of one chip -/

/-- A VLAN whose hardware combines the two settings readably. -/
structure FloodGood (db : VlanDb ch) (asked : Oid → VlanPktType → BitVec 32) (oid : Oid)
    (v : VlanUser) : Prop where
  key : oid = vlanOid ch.lchip v.userVlanptr
  used : v.userVlanptr.toNat ∈ db.pool.used
  state : ∀ cls, db.floodState v cls = (asked oid cls,
    unknownDropOf (db.fdbMissAction cls) (asked oid cls), unknownCopyOf (db.fdbMissAction cls))
  reads : ∀ cls, (asked oid cls = 0 ∨ asked oid cls = 1) ∧
    FloodReads (db.fdbMissAction cls) (asked oid cls)

/-- Every VLAN of the chip. -/
def FloodOne (db : VlanDb ch) (asked : Oid → VlanPktType → BitVec 32) : Prop :=
  ∀ oid v, db.Live oid v → FloodGood db asked oid v

/-- Every VLAN but one. -/
def Elsewhere (oid₀ : Oid) (db : VlanDb ch) (asked : Oid → VlanPktType → BitVec 32) : Prop :=
  ∀ oid v, oid ≠ oid₀ → db.Live oid v → FloodGood db asked oid v

variable {asked asked' : Oid → VlanPktType → BitVec 32} {db' : VlanDb ch} {v : VlanUser}

theorem FloodGood.congr_asked (h : FloodGood db asked oid v) (ha : asked' oid = asked oid) :
    FloodGood db asked' oid v :=
  ⟨h.key, h.used, by rw [ha]; exact h.state, by rw [ha]; exact h.reads⟩

/-- A VLAN is good as long as its number is taken and its forwarding instance
and the actions of the switch stay. -/
theorem FloodGood.frame (h : FloodGood db asked oid v) (hused : v.userVlanptr.toNat ∈ db'.pool.used)
    (hdrop : db'.hw.unknownDrop v.userVlanptr = db.hw.unknownDrop v.userVlanptr)
    (hcopy : db'.hw.unknownCopy v.userVlanptr = db.hw.unknownCopy v.userVlanptr)
    (hmiss : db'.fdbMissAction = db.fdbMissAction) : FloodGood db' asked oid v := by
  refine ⟨h.key, hused, fun cls => ?_, fun cls => ?_⟩
  · rw [hmiss, ← h.state]
    unfold VlanDb.floodState
    rw [hdrop, hcopy]
  · rw [hmiss]
    exact h.reads cls

theorem Elsewhere.frame (h : Elsewhere (vlanOid ch.lchip ptr) db asked)
    (ho : OnlyVlan (vlanOid ch.lchip ptr) ptr db db') :
    Elsewhere (vlanOid ch.lchip ptr) db' asked := by
  intro oid v hne hv
  have hv₀ : db.Live oid v := (ho.vlans oid hne).symm.trans hv
  have hgood := h oid v hne hv₀
  have hp : v.userVlanptr ≠ ptr := by
    intro hp
    exact hne (by rw [hgood.key, hp])
  exact hgood.frame (by rw [ho.pool]; exact hgood.used) (ho.drop _ hp) (ho.copy _ hp) ho.miss

/-- The way back of a creation concerns only the VLAN that is given up. -/
theorem Elsewhere.abandon (h : Elsewhere (vlanOid ch.lchip ptr) db asked) (sdk : VlanSdk)
    (i : BitVec 16) : Elsewhere (vlanOid ch.lchip ptr) (db.abandon sdk ptr i) asked := by
  intro oid v hne hv
  have hgood := h oid v hne hv
  have hp : v.userVlanptr.toNat ≠ ptr.toNat := by
    intro hp
    exact hne (by rw [hgood.key, BitVec.eq_of_toNat_eq hp])
  have hhw : (db.hw.destroyVlan sdk i).unknownDrop = db.hw.unknownDrop ∧
      (db.hw.destroyVlan sdk i).unknownCopy = db.hw.unknownCopy := by
    unfold VlanHw.destroyVlan
    split <;> exact ⟨rfl, rfl⟩
  exact hgood.frame (Finset.mem_erase.mpr ⟨hp, hgood.used⟩) (congrFun hhw.1 _)
    (congrFun hhw.2 _) rfl

/-! ### Creation -/

/-- What creation leaves behind: a good VLAN, or none. -/
structure FloodCreated (oid : Oid) (asked : Oid → VlanPktType → BitVec 32)
    (attrs : List VlanAttr) (r : Status × VlanDb ch) : Prop where
  elsewhere : Elsewhere oid r.2 asked
  good : r.1 = .success → ∀ v, r.2.Live oid v →
    FloodGood r.2 (update asked oid fun cls => (givenFlood attrs cls).getD 0) oid v
  failed : r.1 ≠ .success → ∀ v, ¬ r.2.Live oid v

/-- The condition on a creation, for the actions of the switch. -/
def CreateFloodSafe (sdk : VlanSdk) (miss : VlanPktType → BitVec 32) (attrs : List VlanAttr) :
    Prop :=
  ∀ cls, match givenFlood attrs cls with
    | some type => sdk.WritesFlood cls ∧ FloodReads (miss cls) type
    | none => unknownDropOf (miss cls) 0 = false ∧ unknownCopyOf (miss cls) = false

variable {i : BitVec 16} {attrs : List VlanAttr}

theorem CreateFloodSafe.writes {miss : VlanPktType → BitVec 32}
    (h : CreateFloodSafe sdk miss attrs) (cls : VlanPktType) (s : BitVec 32)
    (hs : givenFlood attrs cls = some s) : sdk.WritesFlood cls := by
  have := h cls
  rw [hs] at this
  exact this.1

theorem FloodCreated.dangling (h : Elsewhere (vlanOid ch.lchip ptr) db asked)
    (status : Status) (hstatus : status ≠ .success) :
    FloodCreated (vlanOid ch.lchip ptr) asked attrs
      (status, (db.dangle (vlanOid ch.lchip ptr)).abandon sdk ptr i) where
  elsewhere := (h.frame .dangle).abandon sdk i
  good hs := absurd hs hstatus
  failed _ v hv := by
    have hnone : (db.dangle (vlanOid ch.lchip ptr)).vlans.lookup (vlanOid ch.lchip ptr) =
      some none := AList.lookup_insert _
    exact absurd (hnone.symm.trans hv) (by simp)

theorem createVlanLate_flood (h : Elsewhere (vlanOid ch.lchip ptr) db asked)
    (hsafe : CreateFloodSafe sdk db.fdbMissAction attrs) (hused : ptr.toNat ∈ db.pool.used)
    (hv : db.Live (vlanOid ch.lchip ptr) v) (hp : v.userVlanptr = ptr)
    (hzero : ∀ cls, db.floodState v cls = (0, false, false))
    (hr : createVlanLate sdk db (vlanOid ch.lchip ptr) ptr i attrs = some r) :
    FloodCreated (vlanOid ch.lchip ptr) asked attrs r := by
  have hset : ∀ w, db.Live (vlanOid ch.lchip ptr) w → w.userVlanptr = ptr := by
    intro w hw
    rw [Option.some.inj (Option.some.inj (hw.symm.trans hv)), hp]
  unfold createVlanLate at hr
  split at hr
  · cases hr
  · rename_i db₁ h₁
    have h₁' : vlanSetAttr sdk db (vlanOid ch.lchip ptr)
        (.stpInstance (vlanStpOf ch.lchip attrs)) = some (.success, db₁) := h₁
    obtain ⟨only₁, hset₁⟩ := vlanSetAttr_only h₁' hset
    have else₁ := h.frame only₁
    split at hr
    · cases hr
    · rename_i db₂ h₂
      cases hr
      obtain ⟨only₂, hset₂⟩ := vlanSetGiven_only h₂ fun w hw => (hset₁ w hw).1
      refine ⟨else₁.frame only₂, fun _ w hw => ?_, fun hne => absurd rfl hne⟩
      obtain ⟨v₁, hv₁, -, hmiss₁, hstate₁, -⟩ :=
        vlanSetAttr_floodSet_success h₁' hv nofun
      obtain ⟨v₂, hv₂, hptr₂, hmiss₂, hstate₂, hval⟩ :=
        vlanSetGiven_floodSet h₂ hv₁ hsafe.writes
      obtain rfl : w = v₂ := Option.some.inj (Option.some.inj (hw.symm.trans hv₂))
      have hwp := (hset₂ w hw).1
      have hgiven : givenIn attrs vlanLateAttrs = givenFlood attrs := by
        funext cls
        refine if_pos ?_
        cases cls <;> decide
      rw [hgiven] at hstate₂ hval
      refine ⟨by rw [hwp], ?_, fun cls => ?_, fun cls => ?_⟩
      · rw [hwp, only₂.pool, only₁.pool]
        exact hused
      · have hc := hsafe cls
        rw [update_self, hstate₂, hstate₁, hzero, hmiss₂, hmiss₁]
        cases hg : givenFlood attrs cls with
        | none =>
          rw [hg] at hc
          exact Prod.ext rfl (Prod.ext hc.1.symm hc.2.symm)
        | some s => rfl
      · have hc := hsafe cls
        rw [update_self, hmiss₂, hmiss₁]
        cases hg : givenFlood attrs cls with
        | none =>
          rw [hg] at hc
          exact ⟨.inl rfl, .inr hc.1⟩
        | some s =>
          rw [hg] at hc
          exact ⟨hval cls s hg, hc.2⟩
    · rename_i r₂ hne h₂
      cases hr
      obtain ⟨only₂, -⟩ := vlanSetGiven_only h₂ fun w hw => (hset₁ w hw).1
      exact .dangling (else₁.frame only₂) r₂.1 fun hs => hne r₂.2 (Prod.ext hs rfl)
  · rename_i r₁ hne h₁
    cases hr
    have h₁' : vlanSetAttr sdk db (vlanOid ch.lchip ptr)
        (.stpInstance (vlanStpOf ch.lchip attrs)) = some r₁ := h₁
    exact .dangling (h.frame (vlanSetAttr_only h₁' hset).1) r₁.1
      fun hs => hne r₁.2 (Prod.ext hs rfl)

theorem FloodCreated.none (h : Elsewhere (vlanOid ch.lchip ptr) db asked)
    (hno : ∀ v, ¬ db.Live (vlanOid ch.lchip ptr) v) (status : Status) :
    FloodCreated (vlanOid ch.lchip ptr) asked attrs (status, db.abandon sdk ptr i) where
  elsewhere := h.abandon sdk i
  good _ v hv := absurd hv (hno v)
  failed _ v hv := hno v hv

theorem vlanSetGiven_absent (hno : ∀ v, ¬ db.Live oid v)
    (hr : vlanSetGiven sdk oid attrs db ids = some r) : r.2 = db := by
  induction ids generalizing r with
  | nil => cases hr; rfl
  | cons j rest ih =>
    simp only [vlanSetGiven] at hr
    split at hr
    · exact ih hr
    split at hr
    · cases hr
    · rename_i db₂ h₂
      rcases vlanSetAttr_changes h₂ with hu | ⟨v, hv, -⟩
      · obtain rfl : db₂ = db := hu.eq
        exact ih hr
      · exact absurd hv (hno v)
    rename_i h₂
    cases hr
    rcases vlanSetAttr_changes h₂ with hu | ⟨v, hv, -⟩
    · exact hu.eq
    · exact absurd hv (hno v)

theorem createVlanRecord_flood (h : Elsewhere (vlanOid ch.lchip ptr) db asked)
    (hsafe : CreateFloodSafe sdk db.fdbMissAction attrs) (hused : ptr.toNat ∈ db.pool.used)
    (hno : ∀ v, ¬ db.Live (vlanOid ch.lchip ptr) v)
    (hzero : ∀ cls, db.hw.unknownDrop ptr cls = false ∧ db.hw.unknownCopy ptr cls = false)
    (hr : createVlanRecord sdk db (vlanOid ch.lchip ptr) ptr i attrs = some r) :
    FloodCreated (vlanOid ch.lchip ptr) asked attrs r := by
  -- the early attributes find no VLAN to set
  have hafter : ∀ {status db₁}, vlanSetGiven sdk (vlanOid ch.lchip ptr) attrs db vlanEarlyAttrs =
      some (status, db₁) → db₁ = db := fun h₁ => vlanSetGiven_absent hno h₁
  unfold createVlanRecord at hr
  split at hr
  · cases hr
  · rename_i db₁ h₁
    obtain rfl := hafter h₁
    split at hr
    · split at hr
      · cases hr; exact .none h hno _
      · split at hr
        · cases hr; exact .none h hno _
        · split at hr
          · cases hr; exact .none h hno _
          · refine createVlanLate_flood (h.frame (.write _)) ?_ ?_ (AList.lookup_insert _) rfl
              (fun cls => ?_) hr
            · exact hsafe
            · exact hused
            · exact Prod.ext rfl (Prod.ext (hzero cls).1 (hzero cls).2)
    · cases hr; exact .none h hno _
  · rename_i status db₁ _ h₁
    cases hr
    obtain rfl := hafter h₁
    exact .none h hno _

theorem askedByCreate_none (status : Status) : askedByCreate asked attrs status none = asked := by
  cases status <;> rfl

theorem askedByCreate_failed {status : Status} (h : status ≠ .success) (o : Option Oid) :
    askedByCreate asked attrs status o = asked := by
  cases status <;> first | rfl | exact absurd rfl h

theorem FloodCreated.one (h : FloodCreated (vlanOid ch.lchip ptr) asked attrs r) :
    FloodOne r.2 (askedByCreate asked attrs r.1 (some (vlanOid ch.lchip ptr))) := by
  intro oid v hv
  by_cases hs : r.1 = .success
  · rw [hs]
    by_cases ho : oid = vlanOid ch.lchip ptr
    · subst ho
      exact h.good hs v hv
    · exact (h.elsewhere oid v ho hv).congr_asked (update_of_ne ho ..)
  rw [askedByCreate_failed hs]
  refine h.elsewhere oid v ?_ hv
  rintro rfl
  exact h.failed hs v hv

theorem createVlan_flood (h : FloodOne db asked)
    (hsafe : CreateFloodSafe sdk db.fdbMissAction attrs)
    {r : Status × Option Oid × VlanDb ch} (hr : createVlan sdk db attrs = some r) :
    FloodOne r.2.2 (askedByCreate asked attrs r.1 r.2.1) := by
  unfold createVlan at hr
  split at hr
  · cases hr; rw [askedByCreate_none]; exact h
  split at hr
  · cases hr; rw [askedByCreate_none]; exact h
  split at hr
  · cases hr; rw [askedByCreate_none]; exact h
  rename_i n pool halloc
  obtain ⟨hfresh, -, hhi, hpool, -⟩ := Pool.alloc_some halloc
  have hn : (BitVec.ofNat 16 n).toNat = n := by
    have := ch.ids_top
    rw [BitVec.toNat_ofNat]
    omega
  split at hr
  · obtain ⟨r', hr', rfl⟩ := Option.map_eq_some_iff.mp hr
    have created : FloodCreated (vlanOid ch.lchip (BitVec.ofNat 16 n)) asked attrs r' := by
      refine createVlanRecord_flood ?_ ?_ ?_ ?_ ?_ hr'
      · intro oid v hne hv
        have hgood := h oid v hv
        have hp : v.userVlanptr ≠ BitVec.ofNat 16 n := by
          intro hp
          exact hne (by rw [hgood.key, hp])
        refine hgood.frame ?_ (update_of_ne hp ..) (update_of_ne hp ..) rfl
        rw [hpool]
        exact Finset.mem_insert_of_mem hgood.used
      · exact hsafe
      · rw [hn, hpool]
        exact Finset.mem_insert_self ..
      · intro v hv
        have hgood := h _ v hv
        have hp := vlanOid_inj hgood.key
        have hused := hgood.used
        rw [← hp, hn] at hused
        exact hfresh hused
      · simp [VlanHw.createUservlan]
    exact created.one
  · cases hr
    rw [askedByCreate_none]
    intro oid v hv
    refine (h oid v hv).frame ?_ rfl rfl rfl
    rw [Pool.free_of_alloc halloc]
    exact (h oid v hv).used

/-! ### Setting and removal -/

theorem askedBySet_eq {status : Status} :
    askedBySet asked oid attr status = update asked oid fun cls =>
      ((if status = .success then attr.flood? else fun _ => .none) cls).getD (asked oid cls) := by
  have hid : (update asked oid fun cls => asked oid cls) = asked :=
    update_eq_self oid asked
  cases status with
  | success => rfl
  | _ => exact hid.symm

theorem FloodOne.set (h : FloodOne db asked)
    (hsafe : ∀ cls type, attr = .floodControlType cls type → ∀ v, db.Live oid v →
      type = 0 ∨ type = 1 → sdk.WritesFlood cls ∧ FloodReads (db.fdbMissAction cls) type)
    (hr : vlanSetAttr sdk db oid attr = some r) :
    FloodOne r.2 (askedBySet asked oid attr r.1) := by
  rw [askedBySet_eq]
  by_cases hno : ∃ v, db.Live oid v
  · obtain ⟨v, hv⟩ := hno
    have hgood := h oid v hv
    have hp : ∀ w, db.Live oid w → w.userVlanptr = v.userVlanptr := by
      intro w hw
      rw [Option.some.inj (Option.some.inj (hw.symm.trans hv))]
    obtain ⟨only, hlive⟩ := vlanSetAttr_only hr hp
    have helse : Elsewhere (vlanOid ch.lchip v.userVlanptr) r.2 asked :=
      Elsewhere.frame (fun o w _ hw => h o w hw) (hgood.key ▸ only)
    intro o w hw
    by_cases ho : o = oid
    · subst ho
      obtain ⟨v', hv', hptr, hmiss, hstate, hval⟩ :=
        vlanSetAttr_floodSet hr hv fun c s hattr hs => (hsafe c s hattr v hv hs).1
      have hgiven : ∀ cls s, (if r.1 = .success then attr.flood? else fun _ => .none) cls = some s →
          FloodReads (db.fdbMissAction cls) s := by
        intro cls s hs
        have hs' := hval cls s hs
        split at hs
        · cases attr with
          | floodControlType c t =>
            simp only [VlanAttr.flood?] at hs
            split at hs
            · rename_i hc
              cases hs
              subst hc
              exact (hsafe _ _ rfl v hv hs').2
            · cases hs
          | _ => cases hs
        · cases hs
      generalize (if r.1 = .success then attr.flood? else fun _ => .none) = given at *
      obtain rfl : w = v' := Option.some.inj (Option.some.inj (hw.symm.trans hv'))
      refine ⟨by rw [hptr]; exact hgood.key, ?_, fun cls => ?_, fun cls => ?_⟩
      · rw [hptr, only.pool]
        exact hgood.used
      · rw [hstate, hmiss, update_self, hgood.state]
        cases given cls <;> rfl
      · rw [hmiss, update_self]
        cases hg : given cls with
        | none => exact hgood.reads cls
        | some s => exact ⟨hval cls s hg, hgiven cls s hg⟩
    · refine (helse o w ?_ hw).congr_asked (update_of_ne ho ..)
      rw [← hgood.key]
      exact ho
  · have hno : ∀ v, ¬ db.Live oid v := fun v hv => hno ⟨v, hv⟩
    rcases vlanSetAttr_changes hr with hu | ⟨v, hv, -⟩
    · rw [hu.eq]
      intro o w hw
      refine (h o w hw).congr_asked (update_of_ne ?_ ..)
      rintro rfl
      exact hno w hw
    · exact absurd hv (hno v)

theorem FloodOne.remove (h : FloodOne db asked)
    (hsafe : ∀ r, removeVlan sdk db oid = some r → r.1 = .success ∨ r.2 = db)
    (hr : removeVlan sdk db oid = some r) : FloodOne r.2 asked := by
  rcases hsafe r hr with hs | hs
  · unfold removeVlan VlanDb.withVlan at hr
    split at hr
    · cases hr; cases hs
    · cases hr
    rename_i v hv
    have hgood := h oid v hv
    dsimp only at hr
    split at hr
    · split at hr
      · split at hr
        · cases hr
        · split at hr
          · split at hr
            · cases hr
              intro o w hw
              have hw' : (db.vlans.erase oid).lookup o = some (some w) := hw
              obtain ⟨ho, hw'⟩ := of_lookup_erase hw'
              have hwgood := h o w hw'
              have hp : w.userVlanptr.toNat ≠ v.userVlanptr.toNat := by
                intro hp
                exact ho (by rw [hwgood.key, hgood.key, BitVec.eq_of_toNat_eq hp])
              have hhw : (db.hw.destroyVlan sdk v.vlanId).unknownDrop = db.hw.unknownDrop ∧
                  (db.hw.destroyVlan sdk v.vlanId).unknownCopy = db.hw.unknownCopy := by
                unfold VlanHw.destroyVlan
                split <;> exact ⟨rfl, rfl⟩
              exact hwgood.frame (Finset.mem_erase.mpr ⟨hp, hwgood.used⟩) (congrFun hhw.1 _)
                (congrFun hhw.2 _) rfl
            · rename_i hne
              cases hr
              exact absurd hs hne
          · rename_i hne
            cases hr
            exact absurd hs hne
      · rename_i hne _
        cases hr
        exact absurd hs hne
    · rename_i hne
      cases hr
      exact absurd hs hne
  · rw [hs]; exact h

end One

/-! ## The traversal -/

section Traverse

variable {sdk : VlanSdk} {action : BitVec 32} {cls : VlanPktType} {hw hw' : VlanHw}
  {l : List ((_ : Oid) × Option VlanUser)}

theorem traverse_of_ne (h : traverseSetUnkownPktAction sdk action cls l hw = some hw')
    {p : BitVec 16} (hp : ∀ oid v, ⟨oid, some v⟩ ∈ l → v.userVlanptr ≠ p) :
    hw'.unknownDrop p = hw.unknownDrop p ∧ hw'.unknownCopy p = hw.unknownCopy p := by
  induction l generalizing hw with
  | nil => cases h; exact ⟨rfl, rfl⟩
  | cons e rest ih =>
    obtain ⟨oid, o⟩ := e
    cases o with
    | none => cases h
    | some v =>
      have hrest := ih h fun oid w hw => hp oid w (List.mem_cons_of_mem _ hw)
      have hne := @vlanSetUnknownPktAction_of_ne sdk v.userVlanptr hw action (v.ukwnFloodCtr cls)
        cls p (hp oid v List.mem_cons_self).symm
      exact ⟨hrest.1.trans hne.1, hrest.2.trans hne.2⟩

/-- One of the list, in the class and in the others; VLANs that share a
forwarding instance agree on the flood type. -/
theorem traverse_of_mem (hsdk : sdk.WritesFlood cls)
    (h : traverseSetUnkownPktAction sdk action cls l hw = some hw') {p : BitVec 16}
    {t : BitVec 32} (hmem : ∃ oid v, ⟨oid, some v⟩ ∈ l ∧ v.userVlanptr = p)
    (hall : ∀ oid v, ⟨oid, some v⟩ ∈ l → v.userVlanptr = p → v.ukwnFloodCtr cls = t)
    (c : VlanPktType) :
    hw'.unknownDrop p c = (if c = cls then unknownDropOf action t else hw.unknownDrop p c) ∧
      hw'.unknownCopy p c = if c = cls then unknownCopyOf action else hw.unknownCopy p c := by
  induction l generalizing hw with
  | nil =>
    obtain ⟨_, _, hmem, -⟩ := hmem
    cases hmem
  | cons e rest ih =>
    obtain ⟨o, x⟩ := e
    cases x with
    | none => cases h
    | some w =>
      have hrestAll := fun oid v hv => hall oid v (List.mem_cons_of_mem _ hv)
      by_cases hrest : ∃ oid v, ⟨oid, some v⟩ ∈ rest ∧ v.userVlanptr = p
      · -- it is written again later
        obtain ⟨hd, hc⟩ := ih h hrest hrestAll
        rw [hd, hc]
        by_cases hcls : c = cls
        · rw [if_pos hcls, if_pos hcls, if_pos hcls, if_pos hcls]
          exact ⟨rfl, rfl⟩
        rw [if_neg hcls, if_neg hcls, if_neg hcls, if_neg hcls]
        by_cases hp : p = w.userVlanptr
        · subst hp
          have hsame := @vlanSetUnknownPktAction_same_fid sdk w.userVlanptr hw action
            (w.ukwnFloodCtr cls) cls hsdk c
          rw [if_neg hcls, if_neg hcls] at hsame
          exact hsame
        · have hne := @vlanSetUnknownPktAction_of_ne sdk w.userVlanptr hw action
            (w.ukwnFloodCtr cls) cls p hp
          exact ⟨congrFun hne.1 c, congrFun hne.2 c⟩
      · have h' : traverseSetUnkownPktAction sdk action cls rest _ = some hw' := h
        have hlater := traverse_of_ne h' fun oid v hv hp => hrest ⟨oid, v, hv, hp⟩
        obtain ⟨oid, v, hv, hp⟩ := hmem
        rcases List.mem_cons.mp hv with heq | hv'
        · cases heq
          subst hp
          rw [hlater.1, hlater.2, ← hall _ _ List.mem_cons_self rfl]
          exact @vlanSetUnknownPktAction_same_fid sdk w.userVlanptr hw action
            (w.ukwnFloodCtr cls) cls hsdk c
        · exact absurd ⟨oid, v, hv', hp⟩ hrest

end Traverse

/-! ## Every run -/

section System

variable {chips : VlanChips} {s s' : VlanSys chips}

def FloodInv (s : VlanSys chips) : Prop := ∀ c, FloodOne (s.db c) (s.asked c)

theorem FloodInv.onChip (h : FloodInv s) {c : Lchip} {db : VlanDb (chips.chip c)}
    {asked : Oid → VlanPktType → BitVec 32} (hc : FloodOne db asked) :
    FloodInv (s.onChip c db asked) := by
  intro c'
  unfold VlanSys.onChip
  by_cases hcc : c' = c
  · subst hcc
    simpa only [update_self] using hc
  · simpa only [update_of_ne hcc] using h c'

theorem FloodInv.missAction (h : FloodInv s) {c : Lchip} {sdk : VlanSdk} {cls : VlanPktType}
    {action : BitVec 32} (hsafe : FloodSafe s (.missAction c sdk cls action))
    {r : Status × VlanSys chips} (hr : switchSetMissAction sdk s c cls action = some r) :
    FloodInv r.2 := by
  unfold switchSetMissAction at hr
  split at hr
  · cases hr; exact h
  rename_i hcls
  have hsafe := hsafe hcls
  dsimp only at hr
  split at hr
  · cases hr
  rename_i hw htr
  cases hr
  by_cases hlive : ∃ oid v, (s.db c).Live oid v
  · obtain ⟨oid, v, hv⟩ := hlive
    obtain ⟨rfl, hsdk, -⟩ := hsafe oid v hv
    intro c'
    by_cases hcc : c' = 0
    · subst hcc
      intro o w hw'
      simp only [update_self] at hw' ⊢
      have hw₀ : (s.db 0).Live o w := hw'
      have hgood := h 0 o w hw₀
      have hmem : ⟨o, some w⟩ ∈ (s.db 0).vlans.entries := mem_entries_iff.mpr hw₀
      have htype : w.ukwnFloodCtr cls = s.asked 0 o cls :=
        congrArg Prod.fst (hgood.state cls)
      have hall : ∀ o' w', ⟨o', some w'⟩ ∈ (s.db 0).vlans.entries →
          w'.userVlanptr = w.userVlanptr → w'.ukwnFloodCtr cls = s.asked 0 o cls := by
        intro o' w' hmem' hp
        have hlive' : (s.db 0).Live o' w' := mem_entries_iff.mp hmem'
        have ho : o' = o := by rw [(h 0 o' w' hlive').key, hp, ← hgood.key]
        subst ho
        rw [Option.some.inj (Option.some.inj (hlive'.symm.trans hw₀)), htype]
      have hwritten := traverse_of_mem hsdk htr ⟨o, w, hmem, rfl⟩ hall
      refine ⟨hgood.key, hgood.used, fun c => ?_, fun c => ?_⟩
      · have hstate := hgood.state c
        unfold VlanDb.floodState at hstate ⊢
        simp only [update_apply]
        rw [(hwritten c).1, (hwritten c).2]
        by_cases hc : c = cls
        · subst hc
          simp only [if_true, htype]
        · simp only [if_neg hc]
          exact hstate
      · simp only [update_apply]
        by_cases hc : c = cls
        · subst hc
          rw [if_pos rfl]
          exact ⟨(hgood.reads c).1, htype ▸ (hsafe o w hw₀).2.2⟩
        · rw [if_neg hc]
          exact hgood.reads c
    · simp only [update_of_ne hcc]
      exact h c'
  · -- no VLAN on the chip, so the traversal writes nothing
    have hempty : (s.db c).vlans.entries = [] := by
      cases hl : (s.db c).vlans.entries with
      | nil => rfl
      | cons e rest =>
        obtain ⟨o, x⟩ := e
        cases x with
        | none => rw [hl] at htr; cases htr
        | some v =>
          have hmem : ⟨o, some v⟩ ∈ (s.db c).vlans.entries := by
            rw [hl]
            exact List.mem_cons_self
          exact absurd ⟨o, v, mem_entries_iff.mp hmem⟩ hlive
    rw [hempty] at htr
    cases htr
    rw [update_eq_self]
    intro c'
    by_cases hcc : c' = c
    · subst hcc
      intro o w hw'
      simp only [update_self] at hw'
      exact absurd ⟨o, w, hw'⟩ hlive
    · simp only [update_of_ne hcc]
      exact h c'

theorem FloodInv.step (h : FloodInv s) {op : FloodOp} (hsafe : FloodSafe s op)
    (hstep : floodStep s op = some s') : FloodInv s' := by
  cases op with
  | create c sdk attrs =>
    obtain ⟨r, hr, rfl⟩ := Option.map_eq_some_iff.mp hstep
    exact h.onChip (createVlan_flood (h c) hsafe hr)
  | remove c sdk oid =>
    obtain ⟨r, hr, rfl⟩ := Option.map_eq_some_iff.mp hstep
    exact h.onChip ((h c).remove hsafe hr)
  | set c sdk oid attr =>
    obtain ⟨r, hr, rfl⟩ := Option.map_eq_some_iff.mp hstep
    exact h.onChip ((h c).set hsafe hr)
  | missAction c sdk cls action =>
    obtain ⟨r, hr, rfl⟩ := Option.map_eq_some_iff.mp hstep
    exact h.missAction hsafe hr

theorem FloodStart.inv (h : FloodStart s) : FloodInv s := by
  intro c oid v hv
  have hv' : (s.db c).vlans.lookup oid = some (some v) := hv
  rw [(h c).1] at hv'
  cases hv'

theorem FloodInv.ok (h : FloodInv s) : FloodOk s where
  hw := by
    intro c oid v hv cls
    have hstate := (h c oid v hv).state cls
    exact ⟨congrArg (fun x => x.2.1) hstate, congrArg (fun x => x.2.2) hstate⟩
  get := by
    intro c oid v hv cls sdk hrc
    have hgood := h c oid v hv
    have hdrop : (s.db c).hw.unknownDrop v.userVlanptr cls = _ :=
      congrArg (fun x => x.2.1) (hgood.state cls)
    obtain ⟨hval, hreads⟩ := hgood.reads cls
    refine (hv.withVlan _ _).trans ?_
    rw [hrc, hdrop]
    rcases hval with h0 | h1
    · rw [h0] at hreads ⊢
      rcases hreads with hnone | hno
      · exact absurd hnone (by decide)
      · rw [hno]
        rfl
    rw [h1]
    have hone : unknownDropOf ((s.db c).fdbMissAction cls) 1 = true := by
      simp [unknownDropOf, vlanFloodNone]
    rw [hone]
    rfl

/-- In a run whose new VLANs give a flood type wherever the switch acts on
unknown traffic, whose switch actions drop only what no VLAN floods, and whose
switch actions are set on chip 0 or before there are VLANs, the hardware
combines the two settings and the flood type reads back. -/
theorem flood_of_run (h : Reachable FloodStart FloodSafe floodStep s) : FloodOk s :=
  (h.inv (fun _ h => FloodStart.inv h) (fun _ _ _ h hsafe hstep => FloodInv.step h hsafe hstep)).ok

end System

/-! ## Two runs -/

/-- Chips with eight VLANs each. -/
def VlanChips.plain : VlanChips where
  chip c := ⟨c, .duet2, .firstFit 1 8, VlanChip.plain.ids_lo, VlanChip.plain.ids_top⟩
  lchip _ := rfl

/-- No VLAN, the default STP instance, and switches that forward. -/
def VlanSys.empty : VlanSys .plain where
  db c := {
    vlans := ∅
    stps := (∅ : Table Oid StpInfo).insert (stpOid c 0) .zero
    pool := .empty _
    fdbMissAction _ := 1
    hw := ⟨∅, fun _ => 0, fun _ _ => false, fun _ _ => false⟩ }
  asked _ _ _ := 0

theorem VlanSys.empty_start : FloodStart VlanSys.empty := fun _ => ⟨rfl, rfl⟩

/-- VLAN 10 is created and stops flooding unknown unicast. -/
theorem flood_of_run_ten : ∃ s : VlanSys .plain, FloodOk s ∧
    s.asked 0 (vlanOid 0 1) .unicast = vlanFloodNone ∧ (s.db 0).binding (vlanOid 0 1) =
      some (1, 10, 0) := by
  have r₀ : Reachable FloodStart FloodSafe floodStep VlanSys.empty := .start VlanSys.empty_start
  have r₁ := r₀.next (.create 0 .ok [.vlanId 10]) (by exact fun _ => ⟨rfl, rfl⟩) rfl
  have r₂ := r₁.next (.set 0 .ok (vlanOid 0 1) (.floodControlType .unicast vlanFloodNone)) (by
    rintro _ _ ⟨⟩ - - -
    exact ⟨⟨rfl, rfl⟩, .inl rfl⟩) rfl
  exact ⟨_, flood_of_run r₂, by decide, by decide⟩

/-- An SDK that does what it is asked. -/
def FloodOp.Answered {chips : VlanChips} (_ : VlanSys chips) : FloodOp → Prop
  | .create _ sdk _ | .remove _ sdk _ | .set _ sdk _ _ | .missAction _ sdk _ _ => sdk = .ok

/-- Unknown unicast is dropped by the switch, and VLAN 10 created after that. -/
theorem flood_not_every_run : ¬ ∀ (chips : VlanChips) (s : VlanSys chips),
    Reachable FloodStart FloodOp.Answered floodStep s → FloodOk s := by
  intro h
  have r₀ : Reachable FloodStart FloodOp.Answered floodStep VlanSys.empty :=
    .start VlanSys.empty_start
  have r₁ := r₀.next (.missAction 0 .ok .unicast 0) (by exact rfl) rfl
  have r₂ := r₁.next (.create 0 .ok [.vlanId 10]) (by exact rfl) rfl
  have hdrop := ((h _ _ r₂).hw 0 (vlanOid 0 1) _ rfl .unicast).1
  revert hdrop
  decide

end CtcSai
