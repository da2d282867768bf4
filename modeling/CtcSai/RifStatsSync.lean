/-
# `RifStatsSync` — the hardware follows the record

`_ctc_sai_router_interface_set_attr_hw` compares the record's flag with its two
statistics ids.  It runs after each attribute and at the end of creation, and
it is the one place that turns the statistics on or off once an interface is
there.  Where the SDK does what it is asked and hands out ids that are not in
use, what it leaves is what the flag says (`setAttrHw_inv`), unless the record
still has an egress id that was destroyed before, or there is no interface to
attach an id to (`StatsReady`).
-/
import CtcSai.RifStats

namespace CtcSai

open IdPool

variable {rc : RifChip}

/-! ## Calls that succeed -/

/-- The SDK hands out two ids that are not in use. -/
def FreshStats (db : RifDb rc) (sdk : RifSdk) (site : Bool → RifSite) : Prop :=
  (∀ e, sdk.statsId (site e) ∈ Finset.Ico rc.stats.lo (rc.stats.lo + rc.stats.size) ∧
    sdk.statsId (site e) ∉ db.stats.used) ∧
  sdk.statsId (site false) ≠ sdk.statsId (site true)

/-- Every call of the SDK succeeds. -/
structure RifSdk.Succeeds (sdk : RifSdk) (db : RifDb rc) : Prop where
  rc : ∀ site, sdk.rc site = .none
  createStats : FreshStats db sdk .createStats
  hwCreateStats : FreshStats db sdk .hwCreateStats

theorem FreshStats.ne_zero {db : RifDb rc} {sdk : RifSdk} {site : Bool → RifSite}
    (h : FreshStats db sdk site) (e : Bool) : sdk.statsId (site e) ≠ 0 := by
  have hr := Finset.mem_Ico.mp (h.1 e).1
  have hlo := rc.stats_lo
  omega

section Success

variable {sdk : RifSdk} (hs : ∀ site, sdk.rc site = .none) (db : RifDb rc)

include hs

theorem destroyStats_of (i : Nat) :
    db.destroyStats sdk i = { db with stats := db.stats.free i } := by
  unfold RifDb.destroyStats
  rw [if_pos (hs _)]

theorem setProperty_of (site : RifSite) {id : Nat} {hw : L3ifHw} (hl : db.l3ifs id = some hw)
    (p : L3ifProperty) (v : Nat) : db.setProperty sdk site id p v =
      (.none, db.setL3if id (some { hw with prop := Function.update hw.prop p v })) := by
  unfold RifDb.setProperty
  rw [hs, hl]

theorem createStats_of {site : RifSite}
    (hr : sdk.statsId site ∈ Finset.Ico rc.stats.lo (rc.stats.lo + rc.stats.size))
    (hf : sdk.statsId site ∉ db.stats.used) :
    ∃ p, db.createStats sdk site = some (sdk.statsId site, { db with stats := p }) ∧
      p.used = insert (sdk.statsId site) db.stats.used ∧ p.stray = db.stats.stray := by
  unfold RifDb.createStats
  rw [if_pos (hs _)]
  unfold Pool.reserve
  rw [dif_pos hr, if_neg hf]
  exact ⟨_, rfl, rfl, rfl⟩

theorem setProperties_of {id : Nat} (ps : List (L3ifProperty × Nat))
    (hl : (db.l3ifs id).isSome) : (setProperties sdk id db ps).1 = .success := by
  induction ps generalizing db with
  | nil => rfl
  | cons x ps ih =>
    obtain ⟨hw, hl⟩ := Option.isSome_iff_exists.mp hl
    unfold setProperties
    rw [setProperty_of hs db _ hl]
    refine ih _ ?_
    unfold RifDb.setL3if
    dsimp only
    rw [Function.update_self]
    rfl

theorem setRouterMac_of (site : RifSite) {id : Nat} (hl : (db.l3ifs id).isSome)
    (f : List Mac → List Mac) : (db.setRouterMac sdk site id f).1 = .none := by
  obtain ⟨hw, hl⟩ := Option.isSome_iff_exists.mp hl
  unfold RifDb.setRouterMac
  rw [hs, hl]

theorem portWrites_of (site : BitVec 32 → RifSite) (f : PortRegs → PortRegs)
    (gs : List (BitVec 32)) : (portWrites sdk site f db gs).1 = .success := by
  induction gs generalizing db with
  | nil => rfl
  | cons g gs ih =>
    unfold portWrites
    rw [hs]
    exact ih _

end Success

theorem isSome_statsProps (db : RifDb rc) (n : Nat) :
    (statsProps db n).isSome = (db.l3ifs n).isSome := by
  unfold statsProps
  rw [Option.isSome_map]

/-! ## The hardware follows the record -/

/-- The flag of one record beside the flags of the others. -/
def openFlag (oid : Oid) (on : Bool) (o : Oid) (r : Rif) : Bool :=
  if o = oid then on else r.statsState

theorem openFlag_self (oid : Oid) (on : Bool) (r : Rif) : openFlag oid on oid r = on := if_pos rfl

theorem openFlag_of_ne {oid o : Oid} (on : Bool) (r : Rif) (h : o ≠ oid) :
    openFlag oid on o r = r.statsState := if_neg h

theorem StatsInvOf.own {db : RifDb rc} {oid : Oid} {on : Bool} (h : StatsInvOf (openFlag oid on) db)
    (hst : ∀ r, db.rifs.lookup oid = some r → r.statsState = on) : StatsInv db := by
  refine h.flags fun o r hl => ?_
  by_cases ho : o = oid
  · subst ho
    rw [openFlag_self]
    exact hst r hl
  · exact (openFlag_of_ne on r ho).symm

/-- Statistics that are off can be turned on: the record has no id left, and
there is an interface to attach one to. -/
structure StatsReady (db : RifDb rc) (oid : Oid) (r : Rif) : Prop where
  real : rifReal oid = true
  isVirtual : r.isVirtual = false
  egs : r.egsStatsid = 0
  hw : (db.l3ifs (rifNumber oid)).isSome

section Hw

variable {sdk : RifSdk} {db : RifDb rc} {oid : Oid} {r : Rif} {on : Bool}

theorem hwStatsOn_inv (hs : ∀ site, sdk.rc site = .none)
    (h : StatsInvOf (openFlag oid false) db) (hl : db.rifs.lookup oid = some r)
    (hready : StatsReady db oid r) (hfresh : FreshStats db sdk .hwCreateStats)
    (hst : r.statsState = true) :
    StatsInv (hwStatsOn sdk db oid r (rifNumber oid)).2 ∧
      (hwStatsOn sdk db oid r (rifNumber oid)).1 = .success ∧
      ((hwStatsOn sdk db oid r (rifNumber oid)).2.l3ifs (rifNumber oid)).isSome := by
  obtain ⟨hw, hhw⟩ := Option.isSome_iff_exists.mp hready.hw
  obtain ⟨p, hp, hpu, hps⟩ := createStats_of hs db (hfresh.1 false).1 (hfresh.1 false).2
  unfold hwStatsOn
  rw [hp]
  dsimp only
  rw [setProperty_of hs { db with stats := p } _ hhw]
  dsimp only
  have hfree : sdk.statsId (.hwCreateStats true) ∉ p.used := by
    rw [hpu, Finset.mem_insert, not_or]
    exact ⟨hfresh.2.symm, (hfresh.1 true).2⟩
  obtain ⟨q, hq, hqu, hqs⟩ := createStats_of hs
    ((({ db with stats := p } : RifDb rc).setL3if (rifNumber oid)
      (some { hw with prop := Function.update hw.prop .stats (sdk.statsId (.hwCreateStats false)) })
      ).setRif oid { r with ingStatsid := sdk.statsId (.hwCreateStats false) })
    (hfresh.1 true).1 hfree
  rw [hq]
  dsimp only
  rw [setProperty_of hs _ _ (Function.update_self ..)]
  refine ⟨?_, rfl, ?_⟩
  · refine h.attach hl (openFlag_self ..) hready.real hready.isVirtual
      ((isSome_statsProps db _).trans hready.hw)
      ⟨hfresh.ne_zero false, (hfresh.1 false).2⟩ ⟨hfresh.ne_zero true, (hfresh.1 true).2⟩ hfresh.2
      ?_ rfl rfl (hqu.trans (congrArg _ hpu)) (hqs.trans hps) (fun n => ?_)
      (fun o x ho => (openFlag_of_ne false x ho).symm) hst
    · exact AList.insert_insert ..
    · unfold statsProps RifDb.setRif RifDb.setL3if
      dsimp only
      rw [Function.update_apply]
      split
      · next hn =>
        simp only [Option.map_some, Function.update_self]
        rw [Function.update_of_ne (by decide), Function.update_self]
      · next hn => rw [Function.update_of_ne hn]
  · unfold RifDb.setRif RifDb.setL3if
    dsimp only
    rw [Function.update_self]
    rfl

theorem hwStatsOff_inv (hs : ∀ site, sdk.rc site = .none)
    (h : StatsInvOf (openFlag oid true) db) (hl : db.rifs.lookup oid = some r)
    (hst : r.statsState = false) :
    StatsInv (hwStatsOff sdk db oid r (rifNumber oid)) ∧
      ((hwStatsOff sdk db oid r (rifNumber oid)).l3ifs (rifNumber oid)).isSome := by
  obtain ⟨_, _, _, _, hp⟩ := (h.at_ oid r hl).attached (openFlag_self ..)
  have hsome := isSome_statsProps db (rifNumber oid)
  rw [hp] at hsome
  obtain ⟨hw, hhw⟩ := Option.isSome_iff_exists.mp hsome.symm
  obtain ⟨_, _, hi, he, hne⟩ := h.ids_of_on hl (openFlag_self ..)
  have he' : r.egsStatsid ∈ db.stats.used.erase r.ingStatsid := Finset.mem_erase.mpr ⟨hne, he⟩
  unfold hwStatsOff
  dsimp only
  rw [destroyStats_of hs, destroyStats_of hs,
    setProperty_of hs { db with stats := (db.stats.free r.ingStatsid).free r.egsStatsid } _ hhw]
  rw [setProperty_of hs _ _ (Function.update_self ..)]
  refine ⟨?_, ?_⟩
  · refine h.detach hl (openFlag_self ..) rfl rfl rfl rfl ?_ (fun n => ?_)
      (fun o x ho => (openFlag_of_ne true x ho).symm) hst
    · exact (Pool.stray_free_of_mem he').trans (Pool.stray_free_of_mem hi)
    · unfold statsProps RifDb.setRif RifDb.setL3if
      dsimp only
      rw [Function.update_apply]
      split
      · next hn =>
        simp only [Option.map_some, Function.update_self]
        rw [Function.update_of_ne (by decide), Function.update_self]
      · next hn => rw [Function.update_of_ne hn]
  · unfold RifDb.setRif RifDb.setL3if
    dsimp only
    rw [Function.update_self]
    rfl

theorem hwStats_inv (hs : ∀ site, sdk.rc site = .none)
    (h : StatsInvOf (openFlag oid on) db) (hl : db.rifs.lookup oid = some r)
    (hready : r.statsState = true → on = false →
      StatsReady db oid r ∧ FreshStats db sdk .hwCreateStats)
    (hw : (db.l3ifs (rifNumber oid)).isSome) :
    StatsInv (hwStats sdk db oid r (rifNumber oid)).2 ∧
      (hwStats sdk db oid r (rifNumber oid)).1 = .success ∧
      ((hwStats sdk db oid r (rifNumber oid)).2.l3ifs (rifNumber oid)).isSome := by
  have hat := h.at_ oid r hl
  rw [openFlag_self] at hat
  have hkeep : r.statsState = on → StatsInv db := by
    intro heq
    refine h.own fun x hx => ?_
    rw [hl] at hx
    cases hx
    exact heq
  unfold hwStats
  cases hst : r.statsState with
  | true =>
    cases on with
    | true =>
      obtain ⟨_, _, hi, _, _⟩ := hat.attached rfl
      rw [if_neg (by simp [hi])]
      exact ⟨hkeep hst, rfl, hw⟩
    | false =>
      obtain ⟨hr, hf⟩ := hready hst rfl
      rw [if_pos (by simp [hat.cleared rfl, hr.egs])]
      exact hwStatsOn_inv hs h hl hr hf hst
  | false =>
    cases on with
    | true =>
      obtain ⟨_, _, hi, he, _⟩ := hat.attached rfl
      rw [if_neg (by simp), if_pos (by simp [hi, he])]
      obtain ⟨hinv, hsome⟩ := hwStatsOff_inv hs h hl hst
      exact ⟨hinv, rfl, hsome⟩
    | false =>
      rw [if_neg (by simp), if_neg (by simp [hat.cleared rfl])]
      exact ⟨hkeep hst, rfl, hw⟩

theorem StatsReady.sameStats {db' : RifDb rc} (h : StatsReady db oid r) (hsame : SameStats db db') :
    StatsReady db' oid r where
  real := h.real
  isVirtual := h.isVirtual
  egs := h.egs
  hw := by
    rw [← isSome_statsProps, hsame.props, isSome_statsProps]
    exact h.hw

theorem FreshStats.sameStats {db' : RifDb rc} {site : Bool → RifSite}
    (h : FreshStats db sdk site) (hsame : SameStats db db') : FreshStats db' sdk site := by
  unfold FreshStats
  rw [hsame.stats]
  exact h

theorem setProperties_hwProps_none (hs : ∀ site, sdk.rc site = .none) {id : Nat}
    (hnone : db.l3ifs id = none) : setProperties sdk id db r.hwProps = (.itemNotFound, db) := by
  unfold Rif.hwProps setProperties RifDb.setProperty
  rw [hs, hnone]
  rfl

/-- `_ctc_sai_router_interface_set_attr_hw` leaves the ids as the record's flag
says. -/
theorem setAttrHw_inv (hs : ∀ site, sdk.rc site = .none)
    (h : StatsInvOf (openFlag oid on) db) (hl : db.rifs.lookup oid = some r)
    (hready : r.statsState = true → on = false →
      StatsReady db oid r ∧ FreshStats db sdk .hwCreateStats) :
    StatsInv (setAttrHw sdk db oid).2 := by
  have hat := h.at_ oid r hl
  rw [openFlag_self] at hat
  -- where a flag is on there is an interface to follow it
  have hreal : on = true ∨ r.statsState = true →
      rifReal oid = true ∧ r.isVirtual = false ∧ (db.l3ifs (rifNumber oid)).isSome := by
    intro hor
    cases hon : on with
    | true =>
      obtain ⟨hreal, hv, _, _, hp⟩ := hat.attached hon
      refine ⟨hreal, hv, ?_⟩
      rw [← isSome_statsProps, hp]
      rfl
    | false =>
      rw [hon] at hor
      obtain ⟨hr, _⟩ := hready (hor.resolve_left (by decide)) hon
      exact ⟨hr.real, hr.isVirtual, hr.hw⟩
  have hoff : ¬ (rifReal oid = true ∧ r.isVirtual = false ∧
      (db.l3ifs (rifNumber oid)).isSome) → StatsInv db := by
    intro hno
    refine h.own fun x hx => ?_
    cases on <;> cases hst : r.statsState <;> simp_all
  unfold setAttrHw
  rw [hl]
  dsimp only
  split
  · next hbridge =>
    refine hoff fun hall => ?_
    have hex := hbridge.2
    unfold RifDb.checkHwExist at hex
    rw [hs, hall.2.2] at hex
    cases hex
  split
  · next htype =>
    refine hoff fun hall => ?_
    have hr := hall.1
    unfold rifReal at hr
    rcases htype with ht | ht <;> rw [ht] at hr <;> cases hr
  split
  · next hv =>
    exact (hoff fun hall => by rw [hv] at hall; cases hall.2.1).sameStats
      (hwRouterMac_sameStats sdk db oid r)
  cases hw : db.l3ifs (rifNumber oid) with
  | none =>
    rw [setProperties_hwProps_none hs hw]
    exact hoff fun hall => by rw [hw] at hall; cases hall.2.2
  | some hw' =>
    have hsome : (db.l3ifs (rifNumber oid)).isSome := by rw [hw]; rfl
    have hsame := setProperties_sameStats sdk db (rifNumber oid) r.hwProps (hwProps_ne r)
    have hok := setProperties_of hs db r.hwProps hsome
    generalize setProperties sdk (rifNumber oid) db r.hwProps = x at hsame hok
    obtain ⟨status, db'⟩ := x
    subst hok
    dsimp only
    have hsome' : (db'.l3ifs (rifNumber oid)).isSome := by
      rw [← isSome_statsProps, hsame.props, isSome_statsProps]
      exact hsome
    obtain ⟨hinv, hst, _⟩ := hwStats_inv hs (h.sameStats hsame) (by rw [hsame.rifs]; exact hl)
      (fun h₁ h₂ => ⟨(hready h₁ h₂).1.sameStats hsame, (hready h₁ h₂).2.sameStats hsame⟩)
      hsome'
    generalize hwStats sdk db' oid r (rifNumber oid) = y at hinv hst
    obtain ⟨status, db''⟩ := y
    subst hst
    exact hinv.sameStats (hwRouterMac_sameStats sdk db'' oid r)

theorem setAttrHw_success (hs : ∀ site, sdk.rc site = .none)
    (h : StatsInvOf (openFlag oid on) db) (hl : db.rifs.lookup oid = some r)
    (hready : r.statsState = true → on = false →
      StatsReady db oid r ∧ FreshStats db sdk .hwCreateStats)
    (hv : r.isVirtual = false) (hw : (db.l3ifs (rifNumber oid)).isSome) :
    (setAttrHw sdk db oid).1 = .success ∧
      ((setAttrHw sdk db oid).2.l3ifs (rifNumber oid)).isSome := by
  unfold setAttrHw
  rw [hl]
  dsimp only
  split
  · exact ⟨rfl, hw⟩
  split
  · exact ⟨rfl, hw⟩
  rw [if_neg (by simp [hv])]
  have hsame := setProperties_sameStats sdk db (rifNumber oid) r.hwProps (hwProps_ne r)
  have hok := setProperties_of hs db r.hwProps hw
  generalize setProperties sdk (rifNumber oid) db r.hwProps = x at hsame hok
  obtain ⟨status, db'⟩ := x
  subst hok
  dsimp only
  have hsome' : (db'.l3ifs (rifNumber oid)).isSome := by
    rw [← isSome_statsProps, hsame.props, isSome_statsProps]
    exact hw
  obtain ⟨_, hst, hsome''⟩ := hwStats_inv hs (h.sameStats hsame) (by rw [hsame.rifs]; exact hl)
    (fun h₁ h₂ => ⟨(hready h₁ h₂).1.sameStats hsame, (hready h₁ h₂).2.sameStats hsame⟩)
    hsome'
  generalize hwStats sdk db' oid r (rifNumber oid) = y at hst hsome''
  obtain ⟨status, db''⟩ := y
  subst hst
  dsimp only
  unfold hwRouterMac
  rw [if_neg (by simp [hv])]
  dsimp only
  refine ⟨?_, ?_⟩
  · rw [setRouterMac_of hs db'' _ hsome'']
    rfl
  · rw [← isSome_statsProps, (setRouterMac_sameStats sdk db'' _ _ _).props, isSome_statsProps]
    exact hsome''

end Hw

end CtcSai
