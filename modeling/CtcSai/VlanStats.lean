/-
# `VlanStats` — the statistics of a VLAN, ctc_sai_vlan.c

A counter of the SDK cannot be cleared: the record keeps what it showed at the
last clear, and a read takes that off.  The ids of the counters are destroyed
and made again under their numbers while the record stays, so what it keeps is
right only for as long as the counter is the one it was taken from.
-/
import CtcSai.Vlan
import CtcSai.Lib.Run

namespace CtcSai

open Function Runs

/-- `ctc_stats_basic_t`. -/
structure StatsBasic where
  packetCount : BitVec 64
  byteCount : BitVec 64
deriving DecidableEq, Repr

/-- What a counter of the SDK has counted. -/
structure Traffic where
  packets : Nat
  bytes : Nat
deriving DecidableEq, Repr

def Traffic.zero : Traffic := ⟨0, 0⟩

def Traffic.add (t u : Traffic) : Traffic := ⟨t.packets + u.packets, t.bytes + u.bytes⟩

def Traffic.basic (t : Traffic) : StatsBasic :=
  ⟨BitVec.ofNat 64 t.packets, BitVec.ofNat 64 t.bytes⟩

/-- SAI_VLAN_STAT_IN_PACKETS and _OUT_PACKETS, _IN_OCTETS and _OUT_OCTETS, and the others. -/
inductive VlanStat where
  | packets (d : CtcDirection)
  | octets (d : CtcDirection)
  | other
deriving DecidableEq, Repr

def VlanStat.dir? : VlanStat → Option CtcDirection
  | .packets d => some d
  | .octets d => some d
  | .other => none

/-- `ctc_sai_vlan_user_t`: `stats_id_in` and `stats_id_eg`, and the counts of
`igs_` and `egs_`. -/
structure VlanStatsUser where
  userVlanptr : BitVec 16
  statsId : CtcDirection → BitVec 32
  base : CtcDirection → StatsBasic

/-- The counters of the SDK. -/
abbrev StatsCounters := BitVec 32 → Option Traffic

/-- What the SDK answers: to the creation of an id, to its binding, to a read. -/
structure VlanStatsSdk where
  create : CtcDirection → CtcE
  bind : CtcDirection → CtcE
  read : CtcDirection → CtcE

/-- The ids that are asked for; VLAN_NUM is 4096. -/
def vlanStatsId (ptr : BitVec 16) : CtcDirection → BitVec 32
  | .ingress => ptr.setWidth 32
  | .egress => ptr.setWidth 32 + 4096

variable (chip : ChipType) (sdk : VlanStatsSdk) (v : VlanStatsUser) (hw : StatsCounters)

/-! ## CUSTOM_STATS_ENABLE -/

/-- `ctcs_stats_create_statsid`. -/
def statsCreateStatsid (d : CtcDirection) : StatsCounters :=
  if sdk.create d = .none then update hw (vlanStatsId v.userVlanptr d) (some .zero) else hw

/-- `ctcs_stats_destroy_statsid`. -/
def statsDestroyStatsid (d : CtcDirection) : StatsCounters :=
  update hw (vlanStatsId v.userVlanptr d) none

/-- `ctc_sai_vlan_set_info` for SAI_VLAN_ATTR_CUSTOM_STATS_ENABLE.  Of the errors
of a creation only one is looked at. -/
def setCustomStatsEnable (enable : Bool) : Status × VlanStatsUser × StatsCounters :=
  if enable then
    if v.statsId .ingress ≠ 0 ∨ v.statsId .egress ≠ 0 then (.invalidParameter, v, hw)
    else if ¬ (chip = .duet2 ∨ chip = .tsingma) then (.success, v, hw)
    else if sdk.create .ingress = .noResource then (.insufficientResources, v, hw)
    else
      let hw₁ := statsCreateStatsid sdk v hw .ingress
      if sdk.bind .ingress ≠ .none ∨ sdk.create .egress = .noResource then
        (.failure, v, statsDestroyStatsid v hw₁ .ingress)
      else
        let hw₂ := statsCreateStatsid sdk v hw₁ .egress
        if sdk.bind .egress ≠ .none then
          (.failure, v, statsDestroyStatsid v (statsDestroyStatsid v hw₂ .egress) .ingress)
        else (.success, { v with statsId := vlanStatsId v.userVlanptr }, hw₂)
  else if v.statsId .ingress = 0 ∨ v.statsId .egress = 0 then (.invalidParameter, v, hw)
  else (.success, { v with statsId := fun _ => 0 },
    update (update hw (v.statsId .ingress) none) (v.statsId .egress) none)

/-! ## Reads and clears -/

/-- `ctcs_stats_get_stats` for a direction. -/
def readStats (d : CtcDirection) : Except Status StatsBasic :=
  if mappingErrorCtc (sdk.read d) ≠ .success then .error (mappingErrorCtc (sdk.read d))
  else
    match hw (v.statsId d) with
    | none => .error .itemNotFound
    | some t => .ok t.basic

/-- Both directions are read first. -/
def readBoth : Except Status (CtcDirection → StatsBasic) :=
  match readStats sdk v hw .ingress, readStats sdk v hw .egress with
  | .error status, _ => .error status
  | .ok _, .error status => .error status
  | .ok igs, .ok egs => .ok fun
    | .ingress => igs
    | .egress => egs

/-- What is written to the place of a counter. -/
def VlanStatsUser.value (got : CtcDirection → StatsBasic) : VlanStat → Option (BitVec 64)
  | .packets d =>
    if v.statsId d ≠ 0 then some ((got d).packetCount - (v.base d).packetCount) else none
  | .octets d =>
    if v.statsId d ≠ 0 then some ((got d).byteCount - (v.base d).byteCount) else none
  | .other => none

/-- A direction with a counter of the list, and with an id. -/
def VlanStatsUser.clears (ids : List VlanStat) (d : CtcDirection) : Bool :=
  ids.any (·.dir? = some d) && v.statsId d ≠ 0

def VlanStatsUser.clear (got : CtcDirection → StatsBasic) (ids : List VlanStat) : VlanStatsUser :=
  { v with base := fun d => if v.clears ids d then got d else v.base d }

/-- `ctc_sai_vlan_get_vlan_stats`. -/
def getVlanStats (ids : List VlanStat) : Status × List (Option (BitVec 64)) :=
  match readBoth sdk v hw with
  | .error status => (status, [])
  | .ok got =>
    let values := ids.map (v.value got)
    (if none ∈ values then .notSupported else .success, values)

/-- `ctc_sai_vlan_get_vlan_stats_ext`; mode 1 is READ_AND_CLEAR. -/
def getVlanStatsExt (ids : List VlanStat) (mode : BitVec 32) :
    Status × List (Option (BitVec 64)) × VlanStatsUser :=
  if 1 < mode then (.invalidParameter, [], v)
  else
    match readBoth sdk v hw with
    | .error status => (status, [], v)
    | .ok got =>
      let values := ids.map (v.value got)
      (if none ∈ values then .notSupported else .success, values,
        if mode = 1 then v.clear got ids else v)

/-- `ctc_sai_vlan_clear_vlan_stats`. -/
def clearVlanStats (ids : List VlanStat) : Status × VlanStatsUser :=
  match readBoth sdk v hw with
  | .error status => (status, v)
  | .ok got => (.success, v.clear got ids)

/-! ## Runs -/

/-- The record, the counters, and the traffic since the counter was made or the
last clear of its direction. -/
structure VlanStatsState where
  v : VlanStatsUser
  hw : StatsCounters
  since : CtcDirection → Traffic

/-- Traffic, and the calls. -/
inductive VlanStatsOp where
  | traffic (d : CtcDirection) (t : Traffic)
  | setEnable (sdk : VlanStatsSdk) (enable : Bool)
  | getStats (sdk : VlanStatsSdk) (ids : List VlanStat)
  | getStatsExt (sdk : VlanStatsSdk) (ids : List VlanStat) (mode : BitVec 32)
  | clearStats (sdk : VlanStatsSdk) (ids : List VlanStat)

/-- The directions that a call cleared start anew. -/
def VlanStatsState.cleared (s : VlanStatsState) (v : VlanStatsUser) (ids : List VlanStat)
    (done : Prop) [Decidable done] : VlanStatsState :=
  ⟨v, s.hw, fun d => if done ∧ s.v.clears ids d then .zero else s.since d⟩

/-- One step. -/
def vlanStatsStep (s : VlanStatsState) : VlanStatsOp → Option VlanStatsState
  | .traffic d t =>
    let id := vlanStatsId s.v.userVlanptr d
    some { s with
      hw := update s.hw id ((s.hw id).map (·.add t))
      since := update s.since d ((s.since d).add t) }
  | .setEnable sdk enable =>
    let (status, v, hw) := setCustomStatsEnable chip sdk s.v s.hw enable
    some ⟨v, hw, fun d =>
      if status = .success ∧ enable ∧ sdk.create d = .none then .zero else s.since d⟩
  | .getStats _ _ => some s
  | .getStatsExt sdk ids mode =>
    let (_, values, v) := getVlanStatsExt sdk s.v s.hw ids mode
    some (s.cleared v ids (mode = 1 ∧ values ≠ []))
  | .clearStats sdk ids =>
    let (status, v) := clearVlanStats sdk s.v s.hw ids
    some (s.cleared v ids (status = .success))

/-- A VLAN that was just created, with its statistics or without. -/
structure VlanStatsStart (s : VlanStatsState) : Prop where
  base : s.v.base = fun _ => Traffic.zero.basic
  since : s.since = fun _ => .zero
  ids : (s.v.statsId = fun _ => 0) ∧ (∀ d, s.hw (vlanStatsId s.v.userVlanptr d) = none) ∨
    s.v.statsId = vlanStatsId s.v.userVlanptr ∧
      ∀ d t, s.hw (vlanStatsId s.v.userVlanptr d) = some t → t = .zero

/-- Statistics that are turned on find nothing kept of a counter that is gone. -/
def NothingKept (s : VlanStatsState) : VlanStatsOp → Prop
  | .setEnable _ true => (∀ d, s.v.statsId d = 0) → ∀ d, s.v.base d = Traffic.zero.basic
  | _ => True

/-- The traffic that a counter should show. -/
def VlanStatsState.shows (s : VlanStatsState) : VlanStat → BitVec 64
  | .packets d => BitVec.ofNat 64 (s.since d).packets
  | .octets d => BitVec.ofNat 64 (s.since d).bytes
  | .other => 0

/-- Values that are read are the traffic, a clear is one of its direction, and
statistics that are off can be turned on. -/
structure VlanStatsRight (s : VlanStatsState) : Prop where
  get : ∀ sdk ids (i : Nat) c x, ids[i]? = some c →
    (getVlanStats sdk s.v s.hw ids).2[i]? = some (some x) → x = s.shows c
  getExt : ∀ sdk ids mode (i : Nat) c x, ids[i]? = some c →
    (getVlanStatsExt sdk s.v s.hw ids mode).2.1[i]? = some (some x) → x = s.shows c
  clear : ∀ sdk ids d, (∀ c ∈ ids, c.dir? ≠ some d) →
    (clearVlanStats sdk s.v s.hw ids).2.base d = s.v.base d ∧
      ∀ mode, (getVlanStatsExt sdk s.v s.hw ids mode).2.2.base d = s.v.base d
  enable : (∀ d, s.v.statsId d = 0) → ∀ sdk : VlanStatsSdk, (∀ d, sdk.create d = .none) →
    (∀ d, sdk.bind d = .none) → (setCustomStatsEnable chip sdk s.v s.hw true).1 = .success

variable {chip sdk v hw} {s : VlanStatsState}

/-- What the record keeps of a counter is what it showed before the traffic since. -/
structure VlanStatsInv (s : VlanStatsState) : Prop where
  ids : ∀ d, s.v.statsId d ≠ 0 → s.v.statsId d = vlanStatsId s.v.userVlanptr d
  idle : (∀ d, s.v.statsId d = 0) → ∀ d, vlanStatsId s.v.userVlanptr d ≠ 0 →
    s.hw (vlanStatsId s.v.userVlanptr d) = none
  base : ∀ d t, s.v.statsId d ≠ 0 → s.hw (s.v.statsId d) = some t →
    ∃ kept : Traffic, s.v.base d = kept.basic ∧ t = kept.add (s.since d)

theorem vlanStatsId_inj {ptr : BitVec 16} {d d' : CtcDirection} :
    vlanStatsId ptr d = vlanStatsId ptr d' ↔ d = d' := by
  cases d <;> cases d' <;> simp [vlanStatsId]

theorem basic_add_sub (kept t : Traffic) :
    (kept.add t).basic.packetCount - kept.basic.packetCount = BitVec.ofNat 64 t.packets ∧
      (kept.add t).basic.byteCount - kept.basic.byteCount = BitVec.ofNat 64 t.bytes := by
  simp only [Traffic.add, Traffic.basic, BitVec.ofNat_add]
  constructor <;> bv_omega

/-- Both reads succeed when the counters are there. -/
theorem readBoth_ok {got : CtcDirection → StatsBasic} (h : readBoth sdk v hw = .ok got)
    (d : CtcDirection) : ∃ t, hw (v.statsId d) = some t ∧ got d = t.basic := by
  have hread : ∀ {d b}, readStats sdk v hw d = .ok b → ∃ t, hw (v.statsId d) = some t ∧
      b = t.basic := by
    intro d b hb
    rw [readStats] at hb
    split at hb
    · cases hb
    split at hb
    · cases hb
    · next t ht =>
      cases hb
      exact ⟨t, ht, rfl⟩
  rw [readBoth] at h
  split at h
  · cases h
  · cases h
  · next igs egs higs hegs =>
    cases h
    cases d with
    | ingress => exact hread higs
    | egress => exact hread hegs

theorem readBoth_error {status : Status} (h : readBoth sdk v hw = .error status) :
    status ≠ .success := by
  have hread : ∀ {d st}, readStats sdk v hw d = .error st → st ≠ .success := by
    intro d st hst
    rw [readStats] at hst
    split at hst
    · next hne =>
      cases hst
      exact hne
    split at hst
    · cases hst
      nofun
    · cases hst
  rw [readBoth] at h
  split at h
  · next hst =>
    cases h
    exact hread hst
  · next hst =>
    cases h
    exact hread hst
  · cases h

theorem VlanStatsInv.value (h : VlanStatsInv s) {got : CtcDirection → StatsBasic}
    (hgot : readBoth sdk s.v s.hw = .ok got) {c : VlanStat} {x : BitVec 64}
    (hx : s.v.value got c = some x) : x = s.shows c := by
  have hdir : ∀ d, s.v.statsId d ≠ 0 →
      (got d).packetCount - (s.v.base d).packetCount = BitVec.ofNat 64 (s.since d).packets ∧
        (got d).byteCount - (s.v.base d).byteCount = BitVec.ofNat 64 (s.since d).bytes := by
    intro d hd
    obtain ⟨t, ht, hgot⟩ := readBoth_ok hgot d
    obtain ⟨kept, hbase, rfl⟩ := h.base d t hd ht
    rw [hgot, hbase]
    exact basic_add_sub kept (s.since d)
  cases c with
  | packets d =>
    obtain ⟨hd, hx⟩ := Option.ite_none_right_eq_some.mp hx
    exact (Option.some.inj hx).symm.trans (hdir d hd).1
  | octets d =>
    obtain ⟨hd, hx⟩ := Option.ite_none_right_eq_some.mp hx
    exact (Option.some.inj hx).symm.trans (hdir d hd).2
  | other => cases hx

theorem VlanStatsInv.start (h : VlanStatsStart s) : VlanStatsInv s := by
  obtain ⟨hbase, hsince, ⟨hids, hnone⟩ | ⟨hids, hzero⟩⟩ := h
  · exact ⟨fun d hd => absurd (congrFun hids d) hd, fun _ d _ => hnone d,
      fun d t hd => absurd (congrFun hids d) hd⟩
  refine ⟨fun d _ => congrFun hids d, fun hoff d hne => ?_, fun d t _ ht => ⟨.zero, ?_, ?_⟩⟩
  · exact absurd ((congrFun hids d).symm.trans (hoff d)) hne
  · rw [hbase]
  · rw [hids] at ht
    rw [hzero d t ht, hsince]
    rfl

theorem VlanStatsInv.traffic (h : VlanStatsInv s) (d : CtcDirection) (t : Traffic) {s'}
    (hs : vlanStatsStep chip s (.traffic d t) = some s') : VlanStatsInv s' := by
  cases hs
  refine ⟨h.ids, fun hoff d' hne => ?_, fun d' t' hd' ht' => ?_⟩
  · have hnone := h.idle hoff d' hne
    dsimp only
    rw [update_apply]
    split
    · next he => rw [← he, hnone]; rfl
    · exact hnone
  · dsimp only at hd' ht' ⊢
    have hid := h.ids d' hd'
    rw [hid, update_apply] at ht'
    rw [update_apply]
    by_cases he : d' = d
    · rw [he, if_pos rfl] at ht'
      obtain ⟨t₀, ht₀, rfl⟩ := Option.map_eq_some_iff.mp ht'
      obtain ⟨kept, hbase, rfl⟩ := h.base d' t₀ hd' (by rw [hid, he]; exact ht₀)
      refine ⟨kept, hbase, ?_⟩
      rw [if_pos he, ← he]
      simp only [Traffic.add, Nat.add_assoc]
    · rw [if_neg (mt vlanStatsId_inj.mp he)] at ht'
      obtain ⟨kept, hbase, ht⟩ := h.base d' t' hd' (by rw [hid]; exact ht')
      exact ⟨kept, hbase, by rw [if_neg he]; exact ht⟩

/-- What was read is kept, and the traffic starts anew. -/
theorem VlanStatsInv.clear (h : VlanStatsInv s) {got : CtcDirection → StatsBasic}
    (hgot : readBoth sdk s.v s.hw = .ok got) (ids : List VlanStat) {done : Prop} [Decidable done]
    (hdone : done) : VlanStatsInv (s.cleared (s.v.clear got ids) ids done) := by
  refine ⟨h.ids, h.idle, fun d t hd ht => ?_⟩
  obtain ⟨t', ht', hg⟩ := readBoth_ok hgot d
  dsimp only [VlanStatsState.cleared, VlanStatsUser.clear] at hd ht ⊢
  by_cases hc : s.v.clears ids d
  · rw [if_pos hc, if_pos ⟨hdone, hc⟩]
    rw [ht'] at ht
    cases ht
    exact ⟨_, hg, rfl⟩
  · rw [if_neg hc, if_neg fun hc' => hc hc'.2]
    exact h.base d t hd ht

/-- A call that clears nothing. -/
theorem VlanStatsInv.uncleared (h : VlanStatsInv s) {ids : List VlanStat} {done : Prop}
    [Decidable done] (hdone : ¬ done) : VlanStatsInv (s.cleared s.v ids done) := by
  have hsince : s.cleared s.v ids done = s := by
    simp only [VlanStatsState.cleared, hdone, false_and, if_false]
  rw [hsince]
  exact h

/-- Without ids there are no counters. -/
theorem VlanStatsInv.off (hoff : ∀ d, v.statsId d = 0)
    (hnone : ∀ d, vlanStatsId v.userVlanptr d ≠ 0 → hw (vlanStatsId v.userVlanptr d) = none)
    (since : CtcDirection → Traffic) : VlanStatsInv ⟨v, hw, since⟩ :=
  ⟨fun d hd => absurd (hoff d) hd, fun _ => hnone, fun d _ hd => absurd (hoff d) hd⟩

theorem statsCreateStatsid_apply (d d' : CtcDirection) :
    statsCreateStatsid sdk v hw d (vlanStatsId v.userVlanptr d') =
      if d' = d ∧ sdk.create d = .none then some .zero else hw (vlanStatsId v.userVlanptr d') := by
  rw [statsCreateStatsid]
  by_cases hc : sdk.create d = .none
  · rw [if_pos hc, update_apply]
    simp only [vlanStatsId_inj, hc, and_true]
  · rw [if_neg hc, if_neg fun h => hc h.2]

theorem statsDestroyStatsid_apply (d d' : CtcDirection) :
    statsDestroyStatsid v hw d (vlanStatsId v.userVlanptr d') =
      if d' = d then none else hw (vlanStatsId v.userVlanptr d') := by
  rw [statsDestroyStatsid, update_apply]
  simp only [vlanStatsId_inj]

/-- Statistics that are on start with counters that were just made. -/
theorem VlanStatsInv.turnedOn (h : VlanStatsInv s) (hoff : ∀ d, s.v.statsId d = 0)
    (hbase : ∀ d, s.v.base d = Traffic.zero.basic) :
    VlanStatsInv ⟨{ s.v with statsId := vlanStatsId s.v.userVlanptr },
      statsCreateStatsid sdk s.v (statsCreateStatsid sdk s.v s.hw .ingress) .egress,
      fun d => if sdk.create d = .none then .zero else s.since d⟩ := by
  refine ⟨fun d _ => rfl, fun hids d hne => absurd (hids d) hne, fun d t hd ht => ?_⟩
  dsimp only at hd ht ⊢
  have hc : sdk.create d = .none := by
    by_contra hc
    simp only [statsCreateStatsid_apply] at ht
    cases d <;> simp [hc, h.idle hoff _ hd] at ht
  have hzero : t = .zero := by
    simp only [statsCreateStatsid_apply] at ht
    cases d <;> simpa [hc, eq_comm] using ht
  exact ⟨.zero, hbase d, by rw [hzero, if_pos hc]; rfl⟩

theorem VlanStatsInv.setEnable (h : VlanStatsInv s) {enable : Bool}
    (hok : NothingKept s (.setEnable sdk enable)) :
    let r := setCustomStatsEnable chip sdk s.v s.hw enable
    VlanStatsInv ⟨r.2.1, r.2.2, fun d =>
      if r.1 = .success ∧ enable ∧ sdk.create d = .none then .zero else s.since d⟩ := by
  intro r
  cases enable with
  | false =>
    by_cases hz : s.v.statsId .ingress = 0 ∨ s.v.statsId .egress = 0
    · have hr : r = (.invalidParameter, s.v, s.hw) := if_pos hz
      simp only [hr, Bool.false_eq_true, false_and, and_false, if_false]
      exact ⟨h.ids, h.idle, h.base⟩
    · have hr : r = (.success, _, _) := if_neg hz
      rw [hr]
      obtain ⟨hin, heg⟩ := not_or.mp hz
      refine .off (fun _ => rfl) (fun d _ => ?_) _
      rw [h.ids _ hin, h.ids _ heg]
      cases d <;> simp [vlanStatsId_inj]
  | true =>
    by_cases hon : s.v.statsId .ingress ≠ 0 ∨ s.v.statsId .egress ≠ 0
    · have hr : r = (.invalidParameter, s.v, s.hw) := if_pos hon
      rw [hr]
      simp only [reduceCtorEq, false_and, if_false]
      exact ⟨h.ids, h.idle, h.base⟩
    have hoff : ∀ d, s.v.statsId d = 0 := by
      obtain ⟨hin, heg⟩ := not_or.mp hon
      rintro (_ | _)
      · exact not_not.mp hin
      · exact not_not.mp heg
    have hidle := h.idle hoff
    have hr : r = setCustomStatsEnable chip sdk s.v s.hw true := rfl
    rw [setCustomStatsEnable, if_pos rfl, if_neg hon] at hr
    split at hr
    · rw [hr]
      exact .off hoff hidle _
    split at hr
    · rw [hr]
      exact .off hoff hidle _
    dsimp only at hr
    split at hr
    · rw [hr]
      refine .off hoff (fun d hd => ?_) _
      simp only [statsDestroyStatsid_apply, statsCreateStatsid_apply]
      cases d <;> simp [hidle _ hd]
    split at hr
    · rw [hr]
      refine .off hoff (fun d hd => ?_) _
      simp only [statsDestroyStatsid_apply]
      cases d <;> simp
    rw [hr]
    simp only [true_and]
    exact h.turnedOn hoff (hok hoff)

theorem clears_nil (d : CtcDirection) : v.clears [] d = false := rfl

theorem VlanStatsInv.getStatsExt (h : VlanStatsInv s) (ids : List VlanStat) (mode : BitVec 32) :
    let r := getVlanStatsExt sdk s.v s.hw ids mode
    VlanStatsInv (s.cleared r.2.2 ids (mode = 1 ∧ r.2.1 ≠ [])) := by
  intro r
  by_cases hm : 1 < mode
  · have hr : r = (.invalidParameter, [], s.v) := if_pos hm
    rw [hr]
    exact h.uncleared fun hd => hd.2 rfl
  have hr : r = _ := if_neg hm
  cases hgot : readBoth sdk s.v s.hw with
  | error status =>
    rw [hr, hgot]
    exact h.uncleared fun hd => hd.2 rfl
  | ok got =>
    rw [hr, hgot]
    dsimp only
    by_cases hone : mode = 1
    · rw [if_pos hone]
      cases ids with
      | nil =>
        refine ⟨h.ids, h.idle, ?_⟩
        simpa [VlanStatsState.cleared, VlanStatsUser.clear, clears_nil] using h.base
      | cons c rest => exact h.clear hgot _ ⟨hone, List.cons_ne_nil _ _⟩
    · rw [if_neg hone]
      exact h.uncleared fun hd => hone hd.1

theorem VlanStatsInv.clearStats (h : VlanStatsInv s) (ids : List VlanStat) :
    let r := clearVlanStats sdk s.v s.hw ids
    VlanStatsInv (s.cleared r.2 ids (r.1 = .success)) := by
  intro r
  have hr : r = clearVlanStats sdk s.v s.hw ids := rfl
  rw [clearVlanStats] at hr
  split at hr
  · next hst =>
    rw [hr]
    exact h.uncleared (readBoth_error hst)
  · next got hgot =>
    rw [hr]
    exact h.clear hgot ids rfl

/-- The value in the place of a counter. -/
theorem VlanStatsInv.valueAt (h : VlanStatsInv s) {got : CtcDirection → StatsBasic}
    (hgot : readBoth sdk s.v s.hw = .ok got) {ids : List VlanStat} {i : Nat} {c : VlanStat}
    {x : BitVec 64} (hc : ids[i]? = some c)
    (hx : (ids.map (s.v.value got))[i]? = some (some x)) : x = s.shows c := by
  rw [List.getElem?_map, hc] at hx
  exact h.value hgot (Option.some.inj hx)

theorem clear_base {got : CtcDirection → StatsBasic} {ids : List VlanStat} {d : CtcDirection}
    (h : ∀ c ∈ ids, c.dir? ≠ some d) : (v.clear got ids).base d = v.base d := by
  have hno : v.clears ids d = false := by
    simp only [VlanStatsUser.clears, Bool.and_eq_false_iff]
    exact .inl (List.any_eq_false.mpr fun c hc => by simpa using h c hc)
  simp [VlanStatsUser.clear, hno]

theorem VlanStatsInv.right (h : VlanStatsInv s) : VlanStatsRight chip s := by
  refine ⟨fun sdk ids i c x hc hx => ?_, fun sdk ids mode i c x hc hx => ?_,
    fun sdk ids d hd => ⟨?_, fun mode => ?_⟩, fun hoff sdk hcreate hbind => ?_⟩
  · rw [getVlanStats] at hx
    split at hx
    · cases hx
    · next got hgot => exact h.valueAt hgot hc hx
  · rw [getVlanStatsExt] at hx
    split at hx
    · cases hx
    split at hx
    · cases hx
    · next got hgot => exact h.valueAt hgot hc hx
  · rw [clearVlanStats]
    split
    · rfl
    · exact clear_base hd
  · rw [getVlanStatsExt]
    split
    · rfl
    split
    · rfl
    dsimp only
    split
    · exact clear_base hd
    · rfl
  · simp [setCustomStatsEnable, hoff, hcreate, hbind, apply_ite Prod.fst]

/-- In every run in which statistics are turned on with nothing kept, the values
read are the traffic. -/
theorem vlanStats_of_run (hs : Reachable VlanStatsStart NothingKept (vlanStatsStep chip) s) :
    VlanStatsRight chip s := by
  have h : VlanStatsInv s := by
    refine hs.inv (fun _ h => .start h) fun s op s' h hok hst => ?_
    cases op with
    | traffic d t => exact h.traffic d t hst
    | setEnable sdk enable =>
      cases hst
      exact h.setEnable hok
    | getStats sdk ids =>
      cases hst
      exact h
    | getStatsExt sdk ids mode =>
      cases hst
      exact h.getStatsExt ids mode
    | clearStats sdk ids =>
      cases hst
      exact h.clearStats ids
  exact h.right

/-! ## Two runs -/

/-- VLAN 10 without statistics. -/
def VlanStatsState.ten : VlanStatsState :=
  ⟨⟨10, fun _ => 0, fun _ => Traffic.zero.basic⟩, fun _ => none, fun _ => .zero⟩

def VlanStatsSdk.ok : VlanStatsSdk := ⟨fun _ => .none, fun _ => .none, fun _ => .none⟩

theorem ten_start : VlanStatsStart .ten := ⟨rfl, rfl, .inl ⟨rfl, fun _ => rfl⟩⟩

/-- After a clear the packets since are read. -/
theorem vlanStats_of_run_two : ∃ s : VlanStatsState, VlanStatsRight .tsingma s ∧
    getVlanStats .ok s.v s.hw [.packets .ingress] = (.success, [some 2]) := by
  have r₀ : Reachable VlanStatsStart NothingKept (vlanStatsStep .tsingma) .ten := .start ten_start
  have r₁ := r₀.next (.setEnable .ok true) (by intro _ d; rfl) rfl
  have r₂ := r₁.next (.traffic .ingress ⟨5, 500⟩) (by trivial) rfl
  have r₃ := r₂.next (.clearStats .ok [.packets .ingress]) (by trivial) rfl
  have r₄ := r₃.next (.traffic .ingress ⟨2, 200⟩) (by trivial) rfl
  exact ⟨_, vlanStats_of_run r₄, by decide⟩

/-- Statistics that were cleared, turned off and on: a read wraps. -/
theorem vlanStats_not_every_run : ¬ ∀ (chip : ChipType) (s : VlanStatsState),
    Reachable VlanStatsStart anyStep (vlanStatsStep chip) s → VlanStatsRight chip s := by
  intro h
  have r₀ : Reachable VlanStatsStart anyStep (vlanStatsStep .tsingma) .ten := .start ten_start
  have r₁ := r₀.next (.setEnable .ok true) trivial rfl
  have r₂ := r₁.next (.traffic .ingress ⟨5, 500⟩) trivial rfl
  have r₃ := r₂.next (.clearStats .ok [.packets .ingress]) trivial rfl
  have r₄ := r₃.next (.setEnable .ok false) trivial rfl
  have r₅ := r₄.next (.setEnable .ok true) trivial rfl
  have r₆ := r₅.next (.traffic .ingress ⟨2, 200⟩) trivial rfl
  exact absurd ((h _ _ r₆).get .ok [.packets .ingress] 0 _ _ rfl rfl) (by decide)

end CtcSai
