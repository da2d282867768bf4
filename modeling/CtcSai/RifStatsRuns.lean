/-
# `RifStatsRuns` — statistics ids over runs of the router-interface API

The calls are creation, removal and the attributes of router interfaces; the
SDK does what it is asked.  Each of the three
keeps the invariant `StatsInv` where statistics are turned on only on a record
that has no id left (`RifOpSound`), and the state of the ids is read off it
(`rifStats_of_run`).
-/
import CtcSai.Lib.Run
import CtcSai.RifStatsCreate

namespace CtcSai

open IdPool KeyedTable Runs Stages

variable {rc : RifChip}
variable {db : RifDb rc} {oid : Oid}

/-! ## Attributes -/

/-- The statistics are turned on only where they can be. -/
def RifSetSound (db : RifDb rc) (oid : Oid) (attr : RifAttr) : Prop :=
  attr = .customStatsState true → ∀ r, db.rifs.lookup oid = some r → r.isVirtual = false →
    r.statsState = false → StatsReady db oid r

theorem setRifAttr_inv {sdk : RifSdk} {attr : RifAttr} (h : StatsInv db) (hs : sdk.Succeeds db)
    (hok : RifSetSound db oid attr) :
    StatsInv (setRifAttr sdk db oid attr).2 := by
  unfold setRifAttr
  cases hl : db.rifs.lookup oid with
  | none =>
    dsimp only
    split <;> exact h
  | some r =>
    dsimp only
    cases ha : r.setAttr attr with
    | error status => exact h
    | ok r' =>
      obtain ⟨hv, hi, he, hst, hvirt⟩ := Rif.setAttr_ok ha
      have hopen : StatsInvOf (openFlag oid r.statsState) (db.setRif oid r') :=
        h.rewritten hl hv hi he (fun o x ho => openFlag_of_ne _ x ho) (openFlag_self ..)
      refine setAttrHw_inv hs.rc hopen (lookup_setRif ..) fun hon hoff => ?_
      have hattr : attr = .customStatsState true := by
        cases attr <;> simp_all [RifAttr.customStatsState?]
      have hnv : r.isVirtual = false := by
        cases hr : r.isVirtual with
        | false => rfl
        | true =>
          have hnone := hvirt hr
          rw [hattr] at hnone
          cases hnone
      have hr := hok hattr r hl hnv hoff
      exact ⟨⟨hr.real, hv.trans hr.isVirtual, he.trans hr.egs, hr.hw⟩, hs.hwCreateStats⟩

/-! ## Removal -/

section Remove

variable {sdk : RifSdk} {db : RifDb rc} {oid : Oid} {r : Rif}
variable {x : RifResult rc}

/-- The interface that a virtual one stands on is there. -/
def RifRemoveSound (db : RifDb rc) (oid : Oid) : Prop :=
  ∀ r, db.rifs.lookup oid = some r → r.isVirtual = true → (db.l3ifs r.actualL3ifId).isSome

theorem removePorts_staged (db : RifDb rc) (sdk : RifSdk) (r : Rif) (t : L3ifType) :
    Staged (fun db' => SameStats db db')
      (fun e => ∀ x, e = some x → x.db = db ∧ x.status ≠ .success) (removePorts sdk db r t) := by
  unfold removePorts
  split
  · exact .refl db
  cases t <;> dsimp only
  · exact .refl db
  · split
    · exact (lagBindingRif_sameStats db _ _ _).trans (portWritesAll_sameStats _ _ _ _ _)
    · exact portWritesAll_sameStats _ _ _ _ _
  · split
    · split
      · intro x hx
        cases hx
      · split
        · exact lagBindingRif_sameStats db _ _ _
        · exact (lagBindingRif_sameStats db _ _ _).trans (portWritesAll_sameStats _ _ _ _ _)
    · cases hp : getPortDb sdk db r.gport with
      | error status =>
        intro x hx
        cases hx
        refine ⟨rfl, ?_⟩
        unfold getPortDb at hp
        split at hp
        · cases hp
        split at hp
        · split at hp
          · cases hp
            nofun
          · split at hp
            · cases hp
            · cases hp
              nofun
        · next hne =>
          cases hp
          exact hne
      | ok cnt =>
        show SameStats db _
        split
        · exact (setSubIfRefCnt_sameStats db _ _).trans (portWritesAll_sameStats _ _ _ _ _)
        · exact setSubIfRefCnt_sameStats db _ _

/-- What a removal leaves: all as it was, or the record, its number and its
interface gone, and its ids if it had any. -/
inductive Removed (db : RifDb rc) (oid : Oid) (r : Rif) (x : RifResult rc) : Prop where
  | kept : x.db = db → (x.status = .success → rifTypeOf oid = none) → Removed db oid r x
  | gone (t : RifType) (n : Nat) : oid = rifOid rc.lchip t n → n < 2 ^ 16 →
      x.db.rifs = db.rifs.erase oid →
      (∀ u, x.db.numbers u = if u.vifBypass = t.vifBypass then (db.numbers u).erase n
        else db.numbers u) →
      x.db.stats.used = (if r.statsState then
        (db.stats.used.erase r.ingStatsid).erase r.egsStatsid else db.stats.used) →
      (∀ i ∈ x.db.stats.stray, i = 0) →
      (∀ m, statsProps x.db m = if t.vifBypass = false ∧ m = n then none else statsProps db m) →
      Removed db oid r x

/-- The ids after a record was removed. -/
def removedStats (db : RifDb rc) (r : Rif) : Pool rc.stats :=
  if r.isVirtual = false ∧ r.statsState = true then
    (db.stats.free r.ingStatsid).free r.egsStatsid
  else db.stats

/-- The ids of a record that is removed, or the router MAC of the interface it
stands on. -/
theorem removeStats_staged (hs : ∀ site, sdk.rc site = .none)
    (hv : r.isVirtual = true → (db.l3ifs r.actualL3ifId).isSome) :
    Staged (fun db' => db'.rifs = db.rifs ∧ (∀ u, db'.numbers u = db.numbers u) ∧
        (∀ m, statsProps db' m = statsProps db m) ∧ db'.stats = removedStats db r)
      (fun _ => False) (removeStats sdk db r) := by
  unfold removeStats
  cases hvirt : r.isVirtual with
  | true =>
    have hkeep : removedStats db r = db.stats := if_neg (by simp [hvirt])
    rw [if_pos rfl, hkeep]
    split
    · have hok := setRouterMac_of hs db .removeRouterMac (hv hvirt) (·.erase r.srcMac)
      have hsame := setRouterMac_sameStats sdk db .removeRouterMac r.actualL3ifId (·.erase r.srcMac)
      generalize db.setRouterMac sdk .removeRouterMac r.actualL3ifId (·.erase r.srcMac) = x
        at hok hsame
      obtain ⟨e, db'⟩ := x
      subst hok
      refine ⟨hsame.rifs, fun u => ?_, hsame.props, hsame.stats⟩
      unfold RifDb.numbers
      rw [hsame.l3if, hsame.vif]
    · exact ⟨rfl, fun _ => rfl, fun _ => rfl, rfl⟩
  | false =>
    cases hst : r.statsState with
    | true =>
      rw [destroyStats_of hs, destroyStats_of hs]
      exact ⟨rfl, fun _ => rfl, fun _ => rfl, (if_pos ⟨hvirt, hst⟩).symm⟩
    | false =>
      exact ⟨rfl, fun _ => rfl, fun _ => rfl, (if_neg (by simp [hst])).symm⟩

theorem StatsInvOf.stray_free (h : StatsInv db) (hl : db.rifs.lookup oid = some r)
    (hon : r.statsState = true) :
    ((db.stats.free r.ingStatsid).free r.egsStatsid).stray = db.stats.stray := by
  obtain ⟨_, _, hi, he, hne⟩ := h.ids_of_on hl hon
  rw [Pool.stray_free_of_mem (Finset.mem_erase.mpr ⟨hne, he⟩), Pool.stray_free_of_mem hi]

theorem RifType.vifBypass_of_none {t : RifType} (h : t.l3ifType = none) : t.vifBypass = true := by
  cases t <;> simp_all [RifType.l3ifType, RifType.vifBypass]

theorem RifType.vifBypass_of_some {t : RifType} {lt : L3ifType} (h : t.l3ifType = some lt) :
    t.vifBypass = false := by
  cases t <;> simp_all [RifType.l3ifType, RifType.vifBypass]

section Number

variable {t : RifType} {n : Nat}

/-- An interface without hardware has no ids. -/
theorem StatsInvOf.off_of_bypass (h : StatsInv db) (hoid : oid = rifOid rc.lchip t n)
    (ht : t.vifBypass = true) (hl : db.rifs.lookup oid = some r) : r.statsState = false := by
  cases hst : r.statsState with
  | false => rfl
  | true =>
    have hreal := ((h.at_ oid r hl).attached hst).1
    rw [hoid, rifReal_rifOid, ht] at hreal
    cases hreal

/-- A virtual interface has none of the hardware. -/
theorem StatsInvOf.props_of_virtual (h : StatsInv db) (hoid : oid = rifOid rc.lchip t n)
    (hn : n < 2 ^ 16) (ht : t.vifBypass = false) (hl : db.rifs.lookup oid = some r)
    (hv : r.isVirtual = true) : statsProps db n = none := by
  cases hp : statsProps db n with
  | none => rfl
  | some p =>
    obtain ⟨o, y, hy, hreal, hnum, hyv⟩ := h.hw n p hp
    have heq : o = oid := by
      refine h.nums.same_number hy hl hreal ?_ ?_
      · rw [hoid, rifReal_rifOid, ht]
        rfl
      · rw [hnum, hoid, rifNumber_rifOid hn]
    subst heq
    rw [hl] at hy
    cases hy
    rw [hv] at hyv
    cases hyv

/-- The database when the interface of the hardware was destroyed, which a virtual one
has not. -/
def l3ifDestroyed (sdk : RifSdk) (db : RifDb rc) (r : Rif) (n : Nat) : RifDb rc :=
  if (!r.isVirtual) = true ∧ sdk.rc .l3ifDestroy = .none then db.setL3if n none else db

variable {db' : RifDb rc}

theorem statsProps_l3ifDestroyed (hs : ∀ site, sdk.rc site = .none) (hsame : SameStats db db')
    (hnone : r.isVirtual = true → statsProps db n = none) (m : Nat) :
    statsProps (l3ifDestroyed sdk db' r n) m = if m = n then none else statsProps db m := by
  unfold l3ifDestroyed
  cases hv : r.isVirtual with
  | true =>
    rw [if_neg (by simp), hsame.props]
    split
    · next hm => rw [hm]; exact hnone hv
    · rfl
  | false =>
    rw [if_pos ⟨rfl, hs _⟩, statsProps_setL3if, hsame.props]
    rfl

theorem l3ifDestroyed_same (sdk : RifSdk) (r : Rif) (n : Nat) (hsame : SameStats db db') :
    (l3ifDestroyed sdk db' r n).rifs = db.rifs ∧ (l3ifDestroyed sdk db' r n).l3if = db.l3if ∧
      (l3ifDestroyed sdk db' r n).vif = db.vif ∧
      (l3ifDestroyed sdk db' r n).stats = db.stats := by
  unfold l3ifDestroyed
  split <;> exact ⟨hsame.rifs, hsame.l3if, hsame.vif, hsame.stats⟩

theorem l3ifs_l3ifDestroyed (sdk : RifSdk) (n : Nat) (hsame : SameStats db db') (hv : r.isVirtual = true) {k : Nat}
    (hk : (db.l3ifs k).isSome) : ((l3ifDestroyed sdk db' r n).l3ifs k).isSome := by
  unfold l3ifDestroyed
  rw [hv, if_neg (by simp), ← isSome_statsProps, hsame.props, isSome_statsProps]
  exact hk

end Number

theorem used_removedStats (hv : r.statsState = true → r.isVirtual = false) :
    (removedStats db r).used = if r.statsState then
      (db.stats.used.erase r.ingStatsid).erase r.egsStatsid else db.stats.used := by
  unfold removedStats
  cases hst : r.statsState with
  | true =>
    rw [if_pos ⟨hv hst, rfl⟩, Pool.used_free]
    rfl
  | false =>
    rw [if_neg (by simp)]
    rfl

theorem StatsInvOf.stray_removedStats (h : StatsInv db) (hl : db.rifs.lookup oid = some r) :
    ∀ i ∈ (removedStats db r).stray, i = 0 := by
  unfold removedStats
  split
  · next hon =>
    rw [h.stray_free hl hon.2]
    exact h.stray
  · exact h.stray

theorem removeRif_removed (h : StatsInv db) (hs : ∀ site, sdk.rc site = .none)
    (hok : RifRemoveSound db oid) (hl : db.rifs.lookup oid = some r)
    (hx : removeRif sdk db oid = some x) : Removed db oid r x := by
  obtain ⟨t, n, hoid, hn, _⟩ := h.nums.named oid r hl
  have hat := h.at_ oid r hl
  unfold removeRif at hx
  rw [hl] at hx
  rw [hoid, rifTypeOf_rifOid, rifNumber_rifOid hn] at hx
  dsimp only at hx
  cases hlt : t.l3ifType with
  | none =>
    rw [hlt] at hx
    cases hx
    have hvif := RifType.vifBypass_of_none hlt
    have hoff := h.off_of_bypass hoid hvif hl
    refine .gone t n hoid hn (by rw [hoid]) (fun u => ?_) ?_ h.stray fun m => ?_
    · unfold RifDb.numbers
      rw [hvif]
      cases u.vifBypass <;> simp
    · rw [hoff]
      rfl
    · rw [hvif]
      rfl
  | some lt =>
    rw [hlt] at hx
    dsimp only at hx
    have hvif := RifType.vifBypass_of_some hlt
    split at hx
    · cases hx
      exact .kept rfl (by rintro ⟨⟩)
    refine Staged.result ?_ hx
    refine Staged.bind (P := fun db' => SameStats db db') ?_ fun db₁ hsame => ?_
    · have hports := removePorts_staged db sdk r lt
      generalize removePorts sdk db r lt = y at hports
      cases y with
      | ok db' => exact hports
      | error e =>
        exact fun a ha => .kept (hports a ha).1 fun hsucc => absurd hsucc (hports a ha).2
    · dsimp only
      rw [hoid, rifNumber_rifOid hn]
      change Staged _ _ ((removeStats sdk { l3ifDestroyed sdk db₁ r n with
        l3if := (l3ifDestroyed sdk db₁ r n).l3if.free n } r).bind _)
      have hprops := statsProps_l3ifDestroyed hs hsame (h.props_of_virtual hoid hn hvif hl)
      obtain ⟨hrifs, hl3, hvifp, hstats⟩ := l3ifDestroyed_same sdk r n hsame
      have hreal := fun hv => l3ifs_l3ifDestroyed sdk n hsame hv (hok r hl hv)
      generalize l3ifDestroyed sdk db₁ r n = db₂ at hprops hrifs hl3 hvifp hstats hreal ⊢
      have hactual : r.isVirtual = true →
          (({ db₂ with l3if := db₂.l3if.free n } : RifDb rc).l3ifs r.actualL3ifId).isSome := hreal
      have hstage := removeStats_staged hs hactual
      generalize removeStats sdk ({ db₂ with l3if := db₂.l3if.free n } : RifDb rc) r = y at hstage ⊢
      cases y with
      | error e => exact hstage.elim
      | ok db₃ =>
        obtain ⟨hrifs₃, hnums₃, hprops₃, hstats₃⟩ := hstage
        have hstats₃ : db₃.stats = removedStats db r := by
          rw [hstats₃]
          unfold removedStats
          rw [hstats]
        refine .gone t n rfl hn ?_ (fun u => ?_) ?_ ?_ fun m => ?_
        · rw [hrifs₃, hrifs]
        · refine (hnums₃ u).trans ?_
          unfold RifDb.numbers
          rw [hl3, hvifp, hvif]
          cases u.vifBypass <;> simp
        · rw [hstats₃]
          exact used_removedStats fun hst => (hat.attached hst).2.1
        · rw [hstats₃]
          exact h.stray_removedStats hl
        · rw [hvif, if_congr (and_iff_right rfl) rfl rfl]
          exact (hprops₃ m).trans (hprops m)

theorem Removed.inv (hr : Removed db oid r x) (h : StatsInv db) (hl : db.rifs.lookup oid = some r) :
    StatsInv x.db := by
  cases hr with
  | kept he _ => rw [he]; exact h
  | gone t n hoid hn hrifs hnums hused hstray hprops =>
    subst hoid
    exact h.dropped hn hl hrifs hnums hused hstray hprops

theorem removeRif_inv (h : StatsInv db) (hs : ∀ site, sdk.rc site = .none)
    (hok : RifRemoveSound db oid) (hx : removeRif sdk db oid = some x) : StatsInv x.db := by
  cases hl : db.rifs.lookup oid with
  | none =>
    unfold removeRif at hx
    rw [hl] at hx
    cases hx
    exact h
  | some r => exact (removeRif_removed h hs hok hl hx).inv h hl

end Remove

/-! ## Runs -/

/-- The calls of the router-interface API, each under what the SDK answers. -/
inductive RifOp where
  | create (sdk : RifSdk) (attrs : List RifAttr)
  | setAttr (sdk : RifSdk) (oid : Oid) (attr : RifAttr)
  | remove (sdk : RifSdk) (oid : Oid)

def rifStep (db : RifDb rc) : RifOp → Option (RifDb rc)
  | .create sdk attrs => (createRif sdk db attrs).map (·.db)
  | .setAttr sdk oid attr => some (setRifAttr sdk db oid attr).2
  | .remove sdk oid => (removeRif sdk db oid).map (·.db)

/-- No interface, and no statistics id. -/
def RifStart (db : RifDb rc) : Prop :=
  db.rifs = ∅ ∧ db.stats = .empty _ ∧ ∀ n, db.l3ifs n = none

/-- Every call of the SDK succeeds. -/
def RifOpSucceeds (db : RifDb rc) : RifOp → Prop
  | .create sdk _ => sdk.Succeeds db
  | .setAttr sdk _ _ => sdk.Succeeds db
  | .remove sdk oid => sdk.Succeeds db ∧ RifRemoveSound db oid

/-- Besides, statistics are turned on only where they can be.  A virtual SUB_PORT
on a port whose creation fails late is no step, whatever it is asked. -/
def RifOpSound (db : RifDb rc) (op : RifOp) : Prop :=
  RifOpSucceeds db op ∧
    match op with
    | .create sdk attrs => RifCreateSound sdk db attrs
    | .setAttr _ oid attr => RifSetSound db oid attr
    | .remove _ _ => True

theorem RifStart.inv (h : RifStart db) : StatsInv db := by
  obtain ⟨hrifs, hstats, hhw⟩ := h
  have hnone : ∀ oid, db.rifs.lookup oid = none := by
    intro oid
    rw [hrifs]
    rfl
  refine ⟨⟨fun oid r hl => ?_, fun t t' n r r' _ hl => ?_⟩, ?_, fun oid r hl => ?_,
    fun n p hp => ?_, ?_⟩
  · rw [hnone] at hl
    cases hl
  · rw [hnone] at hl
    cases hl
  · have hhold : statsHold (fun _ r => r.statsState) db = fun _ => none := by
      funext k
      unfold statsHold
      rw [hnone]
      rfl
    rw [hhold, hstats]
    exact .empty
  · rw [hnone] at hl
    cases hl
  · unfold statsProps at hp
    rw [hhw] at hp
    cases hp
  · rw [hstats]
    exact nofun

theorem StatsInvOf.step {db' : RifDb rc} {op : RifOp} (h : StatsInv db) (hok : RifOpSound db op)
    (hst : rifStep db op = some db') : StatsInv db' := by
  obtain ⟨hs, hsound⟩ := hok
  cases op with
  | create sdk attrs =>
    obtain ⟨x, hx, rfl⟩ := Option.map_eq_some_iff.mp hst
    exact createRif_inv h hs hsound hx
  | setAttr sdk oid attr =>
    cases hst
    exact setRifAttr_inv h hs hsound
  | remove sdk oid =>
    obtain ⟨x, hx, rfl⟩ := Option.map_eq_some_iff.mp hst
    exact removeRif_inv h hs.1.rc hs.2 hx

/-! ## What is true in every run -/

/-- The ids in use are those of the interfaces whose statistics are on, one for
each direction, and they are attached to these interfaces; where statistics are
off nothing is attached, and no id was destroyed twice. -/
structure RifStatsOk (db : RifDb rc) : Prop where
  on : ∀ oid r, db.rifs.lookup oid = some r → r.isVirtual = false → r.statsState = true →
    r.ingStatsid ∈ db.stats.used ∧ r.egsStatsid ∈ db.stats.used ∧
      statsProps db (rifNumber oid) = some (r.ingStatsid, r.egsStatsid)
  off : ∀ oid r, db.rifs.lookup oid = some r → r.isVirtual = false → r.statsState = false →
    rifReal oid = true → ∀ p, statsProps db (rifNumber oid) = some p → p = (0, 0)
  held : ∀ i ∈ db.stats.used, ∃ oid r egress, db.rifs.lookup oid = some r ∧
    r.isVirtual = false ∧ r.statsState = true ∧ r.statsid egress = i
  once : ∀ oid oid' r r' egress egress', db.rifs.lookup oid = some r →
    db.rifs.lookup oid' = some r' → r.statsState = true → r'.statsState = true →
    r.statsid egress = r'.statsid egress' → oid = oid' ∧ egress = egress'
  destroyed : ∀ i ∈ db.stats.stray, i = 0

/-- The ids of a record and whether they are on. -/
def Rif.statsPart (r : Rif) : Bool × Nat × Nat := (r.statsState, r.ingStatsid, r.egsStatsid)

/-- The ids are where they were. -/
structure SameIds (db db' : RifDb rc) : Prop where
  stats : db'.stats = db.stats
  props : ∀ n, statsProps db' n = statsProps db n
  record : ∀ oid, (db'.rifs.lookup oid).map Rif.statsPart = (db.rifs.lookup oid).map Rif.statsPart

/-- Besides, another attribute changes nothing of it, and a removal leaves no
id behind. -/
structure RifStatsSay (db : RifDb rc) : Prop extends RifStatsOk db where
  other : ∀ sdk oid attr, attr.customStatsState? = none →
    SameIds db (setRifAttr sdk db oid attr).2
  removed : ∀ (sdk : RifSdk) oid r x, sdk.Succeeds db → RifRemoveSound db oid →
    db.rifs.lookup oid = some r → removeRif sdk db oid = some x → x.status = .success →
    x.db.rifs.lookup oid = none ∧ (r.statsState = true →
      r.ingStatsid ∉ x.db.stats.used ∧ r.egsStatsid ∉ x.db.stats.used)

theorem StatsInvOf.ok (h : StatsInv db) : RifStatsOk db where
  on oid r hl _ hon := by
    obtain ⟨_, _, hi, he, _⟩ := h.ids_of_on hl hon
    exact ⟨hi, he, ((h.at_ oid r hl).attached hon).2.2.2.2⟩
  off oid r hl _ hoff := (h.at_ oid r hl).detached hoff
  held i hi := by
    obtain ⟨⟨oid, e⟩, hk⟩ := h.held.owned i hi
    obtain ⟨r, hl, hr⟩ := Option.bind_eq_some_iff.mp hk
    split at hr
    · next hon =>
      cases hr
      exact ⟨oid, r, e, hl, ((h.at_ oid r hl).attached hon).2.1, hon, rfl⟩
    · cases hr
  once oid oid' r r' e e' hl hl' hon hon' heq := by
    have hhold : ∀ o x, db.rifs.lookup o = some x → x.statsState = true → ∀ d,
        statsHold (fun _ r => r.statsState) db (o, d) = some (x.statsid d) := by
      intro o x hx hst d
      unfold statsHold
      rw [hx, Option.bind_some, if_pos hst]
    have hk := h.held.inj (oid, e) (oid', e') (r.statsid e) (hhold oid r hl hon e)
      ((hhold oid' r' hl' hon' e').trans (congrArg some heq.symm))
    cases hk
    exact ⟨rfl, rfl⟩
  destroyed := h.stray

theorem setAttrHw_sameStats (sdk : RifSdk) {r : Rif} (hl : db.rifs.lookup oid = some r)
    (hat : StatsAt db oid r r.statsState) :
    SameStats db (setAttrHw sdk db oid).2 := by
  have hkeep : ∀ (db' : RifDb rc) (id : Nat), hwStats sdk db' oid r id = (.success, db') := by
    intro db' id
    unfold hwStats
    cases hst : r.statsState with
    | true =>
      obtain ⟨_, _, hi, _, _⟩ := hat.attached hst
      rw [if_neg (by simp [hi]), if_neg (by simp)]
    | false =>
      have hi := hat.cleared hst
      rw [if_neg (by simp), if_neg (by simp [hi])]
  unfold setAttrHw
  rw [hl]
  dsimp only
  split
  · exact .refl db
  split
  · exact .refl db
  split
  · exact hwRouterMac_sameStats sdk db oid r
  have hsame := setProperties_sameStats sdk db (rifNumber oid) r.hwProps (hwProps_ne r)
  generalize setProperties sdk (rifNumber oid) db r.hwProps = x at hsame
  obtain ⟨status, db'⟩ := x
  split
  · next hx =>
    cases hx
    rw [hkeep]
    exact hsame.trans (hwRouterMac_sameStats sdk db' oid r)
  · next hx =>
    cases hx
    exact hsame

theorem SameStats.ids {db' : RifDb rc} (h : SameStats db db') : SameIds db db' where
  stats := h.stats
  props := h.props
  record oid := by rw [h.rifs]

theorem StatsInvOf.other (h : StatsInv db) (sdk : RifSdk) (oid : Oid) {attr : RifAttr}
    (hattr : attr.customStatsState? = none) :
    SameIds db (setRifAttr sdk db oid attr).2 := by
  unfold setRifAttr
  cases hl : db.rifs.lookup oid with
  | none =>
    dsimp only
    split <;> exact (SameStats.refl db).ids
  | some r =>
    dsimp only
    cases ha : r.setAttr attr with
    | error status => exact (SameStats.refl db).ids
    | ok r' =>
      obtain ⟨hv, hi, he, hst, _⟩ := Rif.setAttr_ok ha
      rw [hattr] at hst
      have hst : r'.statsState = r.statsState := hst
      have hset : StatsInv (db.setRif oid r') :=
        h.rewritten hl hv hi he (fun _ _ _ => rfl) hst
      have hsame := setAttrHw_sameStats sdk (lookup_setRif db oid r')
        (hset.at_ oid r' (lookup_setRif ..))
      refine ⟨hsame.stats, hsame.props, fun o => ?_⟩
      rw [hsame.rifs]
      unfold RifDb.setRif
      rw [Table.lookup_insert_ite]
      split
      · next ho =>
        subst ho
        rw [hl]
        simp only [Option.map_some, Rif.statsPart, hst, hi, he]
      · rfl

theorem StatsInvOf.removed (h : StatsInv db) {sdk : RifSdk} {r : Rif} {x : RifResult rc}
    (hs : sdk.Succeeds db) (hok : RifRemoveSound db oid) (hl : db.rifs.lookup oid = some r)
    (hx : removeRif sdk db oid = some x) (hsucc : x.status = .success) :
    x.db.rifs.lookup oid = none ∧ (r.statsState = true →
      r.ingStatsid ∉ x.db.stats.used ∧ r.egsStatsid ∉ x.db.stats.used) := by
  cases removeRif_removed h hs.rc hok hl hx with
  | kept _ hnone =>
    obtain ⟨t, n, rfl, _, _⟩ := h.nums.named oid r hl
    have ht := hnone hsucc
    rw [rifTypeOf_rifOid] at ht
    cases ht
  | gone t n hoid hn hrifs hnums hused hstray hprops =>
    refine ⟨?_, fun hon => ?_⟩
    · rw [hrifs, Table.lookup_erase_ite, if_pos rfl]
    · rw [hused, if_pos hon]
      exact ⟨fun hin => Finset.notMem_erase _ _ (Finset.mem_of_mem_erase hin),
        Finset.notMem_erase _ _⟩

/-- In a run of sound calls the statistics ids are those of the interfaces that
have their statistics on. -/
theorem rifStats_of_run {db : RifDb rc} (h : Reachable RifStart RifOpSound rifStep db) :
    RifStatsSay db := by
  have hinv : StatsInv db :=
    h.inv (fun _ hs => hs.inv) fun _ _ _ hi hop hst => hi.step hop hst
  exact ⟨hinv.ok, fun sdk oid _ hattr => hinv.other sdk oid hattr,
    fun _ _ _ _ hs hok hl hx hsucc => hinv.removed hs hok hl hx hsucc⟩

/-! ## Two runs -/

/-- A chip with a few ids of each kind. -/
def RifChip.small : RifChip where
  lchip := 0
  chipType := .tsingma
  pm := .plain
  maxPhyPortNum := 64
  trustDscp := 1
  dscpSelectMap := 1
  l3if := .firstFit 1 8
  vif := .firstFit 1 8
  stats := .firstFit 1 16
  l3if_lo := by decide
  l3if_top := Chip.small.arp_top
  vif_top := Chip.small.arp_top
  stats_lo := by decide

/-- A chip where nothing was done yet. -/
def RifDb.start : RifDb .small where
  rifs := ∅
  l3if := .empty _
  vif := .empty _
  ports := fun _ => none
  lag := ⟨∅, fun _ => ⟨fun _ => ∅, fun g => ⟨g, .allowAllPackets, 0, 0, false, false⟩⟩⟩
  subRifCount := fun _ => 0
  l3ifs := fun _ => none
  stats := .empty _

theorem rifStart_start : RifStart RifDb.start := ⟨rfl, rfl, fun _ => rfl⟩

/-- The SDK succeeds, and hands out the ids 1 and 2 to a new interface, 3 and 4
to one that is there. -/
def RifSdk.ok : RifSdk where
  rc _ := .none
  mem _ := true
  statsId
    | .createStats false => 1
    | .createStats true => 2
    | .hwCreateStats false => 3
    | .hwCreateStats true => 4
    | _ => 0
  actualL3ifId := 0
  routerMacNum := 0
  memberPorts := []
  portQos _ _ := 0
  object _ := true
  vlanId _ := 10
  virtualRouterMac _ := 0

/-- An interface on a VLAN. -/
def vlanRifAttrs : List RifAttr :=
  [.virtualRouterId (createObjectId .virtualRouter 0 0 0 1), .type (some .vlan),
    .vlanId (createObjectId .vlan 0 0 0 10)]

/-- An interface on a VLAN with its statistics on. -/
theorem rifStats_of_run_vlan : ∃ db : RifDb .small, RifStatsSay db ∧
    (db.rifs.lookup (rifOid 0 .vlan 1)).map Rif.statsPart = some (true, 1, 2) := by
  have r₀ : Reachable RifStart RifOpSound rifStep RifDb.start := .start rifStart_start
  have r₁ := r₀.next (.create .ok (vlanRifAttrs ++ [.customStatsState true])) (by
    refine ⟨⟨fun _ => rfl, ?_, ?_⟩, ?_, ?_, ?_⟩
    · exact ⟨by decide, by decide⟩
    · exact ⟨by decide, by decide⟩
    · rintro t ⟨⟩ ⟨⟩
    · rintro ⟨⟩
    · rintro ⟨⟩) rfl
  exact ⟨_, rifStats_of_run r₁, rfl⟩

/-- The statistics of an interface whose creation does not mention them are
turned on: it has no ids. -/
theorem rifStats_not_every_run : ¬ ∀ db : RifDb .small,
    Reachable RifStart RifOpSucceeds rifStep db → RifStatsSay db := by
  intro h
  have r₀ : Reachable RifStart RifOpSucceeds rifStep RifDb.start := .start rifStart_start
  have r₁ := r₀.next (.create .ok vlanRifAttrs)
    (by exact ⟨fun _ => rfl, ⟨by decide, by decide⟩, ⟨by decide, by decide⟩⟩) rfl
  have r₂ := r₁.next (.setAttr .ok (rifOid 0 .vlan 1) (.customStatsState true))
    (by exact ⟨fun _ => rfl, ⟨by decide, by decide⟩, ⟨by decide, by decide⟩⟩) rfl
  have hno := ((h _ r₂).on (rifOid 0 .vlan 1) _ rfl rfl rfl).1
  exact absurd hno (by decide)

end CtcSai
