/-
# `RifStats` — the statistics ids of router interfaces

While the statistics of an interface are on it holds two ids of the SDK, one
for each direction, and they are the ids attached to its interface of the
hardware; while they are off it holds none.  The ids in use are those held,
each by one record (`Ledger.Balanced`), so an id that is created is destroyed
once, and none is left when its interface is gone.

During creation the ids come before the record says that they are on, so the
invariant is stated for a flag beside the record's own (`StatsInvOf`).  What a
call may change is one record, one interface of the hardware and the ids of
that one record: `StatsInvOf.change`.
-/
import CtcSai.Lib.Ledger
import CtcSai.RouterInterface

namespace CtcSai

open KeyedTable Ledger Table

variable {rc : RifChip}

/-! ## Object ids -/

@[simp] theorem rifTypeOf_rifOid (c : Lchip) (t : RifType) (n : Nat) :
    rifTypeOf (rifOid c t n) = some t := by
  cases t <;> rfl

theorem rifNumber_rifOid {c : Lchip} {t : RifType} {n : Nat} (h : n < 2 ^ 16) :
    rifNumber (rifOid c t n) = n := by
  unfold rifNumber rifOid
  rw [value_createObjectId, BitVec.toNat_setWidth, BitVec.toNat_ofNat]
  omega

/-- An interface of the hardware may belong to an id of this type. -/
def rifReal (oid : Oid) : Bool := (rifTypeOf oid).any fun t => !t.vifBypass

@[simp] theorem rifReal_rifOid (c : Lchip) (t : RifType) (n : Nat) :
    rifReal (rifOid c t n) = !t.vifBypass := by
  unfold rifReal
  rw [rifTypeOf_rifOid]
  rfl

/-! ## What the statistics rest on -/

/-- The ids attached to an interface of the hardware. -/
def statsProps (db : RifDb rc) (n : Nat) : Option (Nat × Nat) :=
  (db.l3ifs n).map fun hw => (hw.prop .stats, hw.prop .egsStats)

theorem statsProps_setL3if (db : RifDb rc) (id n : Nat) (hw : Option L3ifHw) :
    statsProps (db.setL3if id hw) n =
      if n = id then hw.map fun hw => (hw.prop .stats, hw.prop .egsStats)
      else statsProps db n := by
  unfold statsProps RifDb.setL3if
  simp only [Function.update_apply]
  split <;> rfl

theorem lookup_setRif (db : RifDb rc) (oid : Oid) (r : Rif) :
    (db.setRif oid r).rifs.lookup oid = some r := AList.lookup_insert _

theorem destroyStats_rifs (sdk : RifSdk) (db : RifDb rc) (id : Nat) :
    (db.destroyStats sdk id).rifs = db.rifs := by
  rw [RifDb.destroyStats]
  split <;> rfl

/-- Nothing changed that concerns statistics. -/
structure SameStats (db db' : RifDb rc) : Prop where
  rifs : db'.rifs = db.rifs
  l3if : db'.l3if = db.l3if
  vif : db'.vif = db.vif
  stats : db'.stats = db.stats
  props : ∀ n, statsProps db' n = statsProps db n

theorem SameStats.refl (db : RifDb rc) : SameStats db db := ⟨rfl, rfl, rfl, rfl, fun _ => rfl⟩

theorem SameStats.trans {a b c : RifDb rc} (h : SameStats a b) (h' : SameStats b c) :
    SameStats a c :=
  ⟨h'.rifs.trans h.rifs, h'.l3if.trans h.l3if, h'.vif.trans h.vif, h'.stats.trans h.stats,
    fun n => (h'.props n).trans (h.props n)⟩

section Frame

variable (sdk : RifSdk) (db : RifDb rc)

theorem setPort_sameStats (g : BitVec 32) (f : PortRegs → PortRegs) :
    SameStats db (db.setPort g f) := ⟨rfl, rfl, rfl, rfl, fun _ => rfl⟩

theorem setSubIfRefCnt_sameStats (g cnt : BitVec 32) :
    SameStats db (db.setSubIfRefCnt g cnt) := ⟨rfl, rfl, rfl, rfl, fun _ => rfl⟩

theorem portWritesAll_sameStats (site : BitVec 32 → RifSite) (f : PortRegs → PortRegs)
    (gs : List (BitVec 32)) : SameStats db (portWritesAll sdk site f db gs) := by
  induction gs generalizing db with
  | nil => exact .refl db
  | cons g gs ih =>
    refine .trans ?_ (ih _)
    split
    · exact setPort_sameStats db g f
    · exact .refl db

theorem portWrites_sameStats (site : BitVec 32 → RifSite) (f : PortRegs → PortRegs)
    (gs : List (BitVec 32)) : SameStats db (portWrites sdk site f db gs).2 := by
  induction gs generalizing db with
  | nil => exact .refl db
  | cons g gs ih =>
    unfold portWrites
    split
    · exact (setPort_sameStats db g f).trans (ih _)
    · exact .refl db

theorem lagBindingRif_sameStats (g : BitVec 32) (bind : Bool) (t : L3ifType) :
    SameStats db (lagBindingRif db g bind t) := by
  unfold lagBindingRif
  dsimp only
  split
  · exact .refl db
  cases t <;> dsimp only
  · exact .refl db
  · exact ⟨rfl, rfl, rfl, rfl, fun _ => rfl⟩
  · split <;> exact ⟨rfl, rfl, rfl, rfl, fun _ => rfl⟩

theorem setProperty_sameStats (site : RifSite) (id : Nat) {p : L3ifProperty} (v : Nat)
    (hs : p ≠ .stats) (he : p ≠ .egsStats) : SameStats db (db.setProperty sdk site id p v).2 := by
  unfold RifDb.setProperty
  split
  · next hw _ hl =>
    refine ⟨rfl, rfl, rfl, rfl, fun n => ?_⟩
    rw [statsProps_setL3if]
    split
    · next hn =>
      subst hn
      simp only [statsProps, hl, Option.map_some, Function.update_of_ne hs.symm,
        Function.update_of_ne he.symm]
    · rfl
  · exact .refl db
  · exact .refl db

theorem setRouterMac_sameStats (site : RifSite) (id : Nat) (f : List Mac → List Mac) :
    SameStats db (db.setRouterMac sdk site id f).2 := by
  unfold RifDb.setRouterMac
  split
  · next hw _ hl =>
    refine ⟨rfl, rfl, rfl, rfl, fun n => ?_⟩
    rw [statsProps_setL3if]
    split
    · next hn =>
      subst hn
      simp only [statsProps, hl, Option.map_some]
    · rfl
  · exact .refl db
  · exact .refl db

theorem setProperties_sameStats (id : Nat) (ps : List (L3ifProperty × Nat))
    (h : ∀ x ∈ ps, x.1 ≠ .stats ∧ x.1 ≠ .egsStats) :
    SameStats db (setProperties sdk id db ps).2 := by
  induction ps generalizing db with
  | nil => exact .refl db
  | cons x ps ih =>
    have hx := h x (List.mem_cons_self ..)
    have hfirst := setProperty_sameStats sdk db (.hwProp x.1) id x.2 hx.1 hx.2
    unfold setProperties
    split
    · next db' he =>
      rw [he] at hfirst
      exact hfirst.trans (ih db' fun y hy => h y (List.mem_cons_of_mem _ hy))
    · next e db' _ he =>
      rw [he] at hfirst
      exact hfirst

theorem hwProps_ne (r : Rif) : ∀ x ∈ r.hwProps, x.1 ≠ .stats ∧ x.1 ≠ .egsStats := by
  simp [Rif.hwProps]

theorem setDomainStep_sameStats (id : Nat) (g : BitVec 32) (ask : PortQosProp)
    {p : L3ifProperty} (value : BitVec 32 → Option Nat) (hs : p ≠ .stats) (he : p ≠ .egsStats) :
    SameStats db (setDomainStep sdk db id g ask p value).2 := by
  unfold setDomainStep
  split
  · split
    · exact .refl db
    · exact setProperty_sameStats sdk db _ id _ hs he
  · exact .refl db

theorem setDomains_sameStats (id : Nat)
    (xs : List (BitVec 32 × PortQosProp × L3ifProperty × (BitVec 32 → Option Nat)))
    (h : ∀ x ∈ xs, x.2.2.1 ≠ .stats ∧ x.2.2.1 ≠ .egsStats) :
    SameStats db (setDomains sdk id db xs).2 := by
  induction xs generalizing db with
  | nil => exact .refl db
  | cons x xs ih =>
    obtain ⟨g, ask, p, value⟩ := x
    have hx := h _ (List.mem_cons_self ..)
    have hfirst := setDomainStep_sameStats sdk db id g ask value hx.1 hx.2
    unfold setDomains
    split
    · next db' he =>
      rw [he] at hfirst
      exact hfirst.trans (ih db' fun y hy => h y (List.mem_cons_of_mem _ hy))
    · next status db' _ he =>
      rw [he] at hfirst
      exact hfirst

theorem domainSteps_ne (gs : List (BitVec 32)) :
    ∀ x ∈ gs.flatMap (fun g => (domainSteps rc).map fun s => (g, s)),
      x.2.2.1 ≠ .stats ∧ x.2.2.1 ≠ .egsStats := by
  intro x hx
  obtain ⟨g, _, hx⟩ := List.mem_flatMap.mp hx
  obtain ⟨s, hs, rfl⟩ := List.mem_map.mp hx
  revert hs s
  simp [domainSteps]

theorem hwRouterMac_sameStats (oid : Oid) (r : Rif) :
    SameStats db (hwRouterMac sdk db oid r).2 := by
  unfold hwRouterMac
  split
  · split
    · exact setRouterMac_sameStats sdk db _ _ _
    · have hfirst := setRouterMac_sameStats sdk db .hwZeroRouterMac r.actualL3ifId (fun _ => [0])
      split
      · next db' he =>
        rw [he] at hfirst
        exact hfirst.trans (setRouterMac_sameStats sdk db' _ _ _)
      · next e db' _ he =>
        rw [he] at hfirst
        exact hfirst
  · exact setRouterMac_sameStats sdk db _ _ _

end Frame

/-! ## The invariant -/

theorem rifOid_inj {c : Lchip} {t t' : RifType} {n n' : Nat} (hn : n < 2 ^ 16) (hn' : n' < 2 ^ 16)
    (h : rifOid c t n = rifOid c t' n') : t = t' ∧ n = n' := by
  refine ⟨?_, ?_⟩
  · have ht := congrArg rifTypeOf h
    rw [rifTypeOf_rifOid, rifTypeOf_rifOid] at ht
    exact Option.some.inj ht
  · have hnum := congrArg rifNumber h
    rwa [rifNumber_rifOid hn, rifNumber_rifOid hn'] at hnum

def RifDb.numbers (db : RifDb rc) (t : RifType) : Finset Nat :=
  if t.vifBypass then db.vif.used else db.l3if.used

/-- Records have numbers of the pool of their type, and no two the same. -/
structure RifNums (db : RifDb rc) : Prop where
  named : ∀ oid r, db.rifs.lookup oid = some r →
    ∃ t n, oid = rifOid rc.lchip t n ∧ n < 2 ^ 16 ∧ n ∈ db.numbers t
  inj : ∀ t t' n r r', n < 2 ^ 16 → db.rifs.lookup (rifOid rc.lchip t n) = some r →
    db.rifs.lookup (rifOid rc.lchip t' n) = some r' → t.vifBypass = t'.vifBypass → t = t'

theorem zero_notMem_stats (db : RifDb rc) : 0 ∉ db.stats.used := by
  intro h0
  have hlo := db.stats.lo_le_of_mem h0
  have hpos := rc.stats_lo
  omega

theorem RifNums.same_number {db : RifDb rc} (h : RifNums db) {oid oid' : Oid} {r r' : Rif}
    (hl : db.rifs.lookup oid = some r) (hl' : db.rifs.lookup oid' = some r')
    (hreal : rifReal oid = true) (hreal' : rifReal oid' = true)
    (hnum : rifNumber oid = rifNumber oid') : oid = oid' := by
  obtain ⟨t, n, rfl, hn, _⟩ := h.named oid r hl
  obtain ⟨t', n', rfl, hn', _⟩ := h.named oid' r' hl'
  rw [rifNumber_rifOid hn, rifNumber_rifOid hn'] at hnum
  subst hnum
  have ht : t.vifBypass = t'.vifBypass := by
    cases ht : t.vifBypass <;> cases ht' : t'.vifBypass <;> simp_all
  rw [h.inj t t' n r r' hn hl hl' ht]

def Rif.statsid (r : Rif) (egress : Bool) : Nat := if egress then r.egsStatsid else r.ingStatsid

/-- A record whose statistics are on, or off. -/
structure StatsAt (db : RifDb rc) (oid : Oid) (r : Rif) (on : Bool) : Prop where
  attached : on = true → rifReal oid = true ∧ r.isVirtual = false ∧ r.ingStatsid ≠ 0 ∧
    r.egsStatsid ≠ 0 ∧ statsProps db (rifNumber oid) = some (r.ingStatsid, r.egsStatsid)
  cleared : on = false → r.ingStatsid = 0
  detached : on = false → rifReal oid = true → ∀ p, statsProps db (rifNumber oid) = some p →
    p = (0, 0)

/-- The ids held by the records whose flag is on, by direction. -/
def statsHold (fl : Oid → Rif → Bool) (db : RifDb rc) (k : Oid × Bool) : Option Nat :=
  (db.rifs.lookup k.1).bind fun r => if fl k.1 r then some (r.statsid k.2) else none

/-- The ids in use are those of the records whose flag is on, and they are
attached to their interfaces; no id was destroyed that did not exist. -/
structure StatsInvOf (fl : Oid → Rif → Bool) (db : RifDb rc) : Prop where
  nums : RifNums db
  held : Balanced (statsHold fl db) db.stats.used
  at_ : ∀ oid r, db.rifs.lookup oid = some r → StatsAt db oid r (fl oid r)
  hw : ∀ n p, statsProps db n = some p → ∃ oid r, db.rifs.lookup oid = some r ∧
    rifReal oid = true ∧ rifNumber oid = n ∧ r.isVirtual = false
  stray : ∀ i ∈ db.stats.stray, i = 0

/-- The flag is the record's own. -/
abbrev StatsInv (db : RifDb rc) : Prop := StatsInvOf (fun _ r => r.statsState) db

namespace StatsInvOf

variable {fl fl' : Oid → Rif → Bool} {db db' : RifDb rc}
variable {oid : Oid} {r r' : Rif} {t : RifType} {n : Nat}

theorem flags (h : StatsInvOf fl db)
    (hfl : ∀ oid r, db.rifs.lookup oid = some r → fl' oid r = fl oid r) : StatsInvOf fl' db where
  nums := h.nums
  held := by
    have hh : statsHold fl' db = statsHold fl db := by
      funext ⟨oid, e⟩
      unfold statsHold
      cases hl : db.rifs.lookup oid with
      | none => rfl
      | some r =>
        dsimp only [Option.bind_some]
        rw [hfl oid r hl]
    rw [hh]
    exact h.held
  at_ oid r hl := by
    rw [hfl oid r hl]
    exact h.at_ oid r hl
  hw := h.hw
  stray := h.stray

theorem sameStats (h : StatsInvOf fl db) (hs : SameStats db db') : StatsInvOf fl db' where
  nums := by
    refine ⟨?_, ?_⟩
    · unfold RifDb.numbers
      rw [hs.rifs, hs.l3if, hs.vif]
      exact h.nums.named
    · rw [hs.rifs]
      exact h.nums.inj
  held := by
    have hh : statsHold fl db' = statsHold fl db := by
      unfold statsHold
      rw [hs.rifs]
    rw [hh, hs.stats]
    exact h.held
  at_ oid r hl := by
    rw [hs.rifs] at hl
    have ha := h.at_ oid r hl
    refine ⟨?_, ha.cleared, ?_⟩
    · rw [hs.props]
      exact ha.attached
    · rw [hs.props]
      exact ha.detached
  hw n p hp := by
    rw [hs.props] at hp
    rw [hs.rifs]
    exact h.hw n p hp
  stray := by
    rw [hs.stats]
    exact h.stray

/-- One record was written and one interface of the hardware. -/
theorem change (h : StatsInvOf fl db) (hl : db.rifs.lookup oid = some r)
    (hrifs : db'.rifs = db.rifs.insert oid r') (hl3 : db'.l3if = db.l3if) (hvif : db'.vif = db.vif)
    (hvirt : r'.isVirtual = r.isVirtual) (hfl : ∀ o x, o ≠ oid → fl' o x = fl o x)
    (hprops : ∀ n, rifReal oid = false ∨ n ≠ rifNumber oid → statsProps db' n = statsProps db n)
    (hsome : ∀ p, statsProps db' (rifNumber oid) = some p →
      (statsProps db (rifNumber oid)).isSome) (hat : StatsAt db' oid r' (fl' oid r'))
    (hheld : Balanced (statsHold fl' db') db'.stats.used) (hstray : ∀ i ∈ db'.stats.stray, i = 0) :
    StatsInvOf fl' db' := by
  have hlk : ∀ o x, db'.rifs.lookup o = some x →
      o = oid ∧ r' = x ∨ o ≠ oid ∧ db.rifs.lookup o = some x := by
    rw [hrifs]
    exact fun o x => of_lookup_insert
  have hold : ∀ o x, db'.rifs.lookup o = some x → ∃ y, db.rifs.lookup o = some y := by
    rw [hrifs]
    exact exists_lookup_of_insert hl r'
  refine ⟨⟨?_, ?_⟩, hheld, ?_, ?_, hstray⟩
  · intro o x hx
    obtain ⟨y, hy⟩ := hold o x hx
    unfold RifDb.numbers
    rw [hl3, hvif]
    exact h.nums.named o y hy
  · intro t t' n x x' hn hx hx' ht
    obtain ⟨y, hy⟩ := hold _ x hx
    obtain ⟨y', hy'⟩ := hold _ x' hx'
    exact h.nums.inj t t' n y y' hn hy hy' ht
  · intro o x hx
    rcases hlk o x hx with ⟨rfl, rfl⟩ | ⟨ho, hx⟩
    · exact hat
    have ha := h.at_ o x hx
    rw [hfl o x ho]
    -- another record has another interface
    have hsame : rifReal o = true →
        statsProps db' (rifNumber o) = statsProps db (rifNumber o) := by
      intro hreal
      refine hprops _ ?_
      cases hr : rifReal oid with
      | false => exact .inl rfl
      | true =>
        refine .inr fun hn => ho ?_
        exact h.nums.same_number hx hl hreal hr hn
    refine ⟨fun hon => ?_, ha.cleared, fun hoff hreal p hp => ?_⟩
    · obtain ⟨hreal, hv, hi, he, hp⟩ := ha.attached hon
      exact ⟨hreal, hv, hi, he, (hsame hreal).trans hp⟩
    · exact ha.detached hoff hreal p ((hsame hreal).symm.trans hp)
  · intro n p hp
    have hn : ∃ q, statsProps db n = some q := by
      by_cases hcase : rifReal oid = false ∨ n ≠ rifNumber oid
      · exact ⟨p, (hprops n hcase).symm.trans hp⟩
      · simp only [not_or, Bool.not_eq_false, ne_eq, not_not] at hcase
        obtain ⟨_, rfl⟩ := hcase
        exact Option.isSome_iff_exists.mp (hsome p hp)
    obtain ⟨q, hq⟩ := hn
    obtain ⟨o, x, hx, hreal, hnum, hv⟩ := h.hw n q hq
    by_cases ho : o = oid
    · subst ho
      rw [hl] at hx
      cases hx
      exact ⟨o, r', by rw [hrifs, lookup_insert_ite, if_pos rfl], hreal, hnum, hvirt.trans hv⟩
    · exact ⟨o, x, by rw [hrifs, lookup_insert_ite, if_neg ho]; exact hx, hreal, hnum, hv⟩

theorem statsHold_insert (hrifs : db'.rifs = db.rifs.insert oid r')
    (hfl : ∀ o x, o ≠ oid → fl' o x = fl o x) :
    statsHold fl' db' = Function.update (Function.update (statsHold fl db)
      (oid, false) (if fl' oid r' then some r'.ingStatsid else none))
      (oid, true) (if fl' oid r' then some r'.egsStatsid else none) := by
  funext ⟨o, e⟩
  unfold statsHold
  rw [hrifs, lookup_insert_ite]
  by_cases ho : o = oid
  · subst ho
    rw [if_pos rfl]
    cases e with
    | false => rw [Function.update_of_ne (by simp), Function.update_self]; rfl
    | true => rw [Function.update_self]; rfl
  rw [if_neg ho, Function.update_of_ne (by simp [ho]), Function.update_of_ne (by simp [ho])]
  cases db.rifs.lookup o with
  | none => rfl
  | some x => simp only [Option.bind_some, hfl o x ho]

theorem statsHold_erase (hrifs : db'.rifs = db.rifs.erase oid) :
    statsHold fl db' = Function.update (Function.update (statsHold fl db) (oid, false) none)
      (oid, true) none := by
  funext ⟨o, e⟩
  unfold statsHold
  rw [hrifs, lookup_erase_ite]
  by_cases ho : o = oid
  · subst ho
    rw [if_pos rfl, Option.bind_none]
    cases e with
    | false => rw [Function.update_of_ne (by simp), Function.update_self]
    | true => rw [Function.update_self]
  · rw [if_neg ho, Function.update_of_ne (by simp [ho]), Function.update_of_ne (by simp [ho])]

theorem statsHold_off (hl : db.rifs.lookup oid = some r) (hoff : fl oid r = false) (e : Bool) :
    statsHold fl db (oid, e) = none := by
  unfold statsHold
  rw [hl, Option.bind_some, hoff]
  rfl

theorem attach {i j : Nat} (h : StatsInvOf fl db) (hl : db.rifs.lookup oid = some r)
    (hoff : fl oid r = false) (hreal : rifReal oid = true) (hv : r.isVirtual = false)
    (hsome : (statsProps db (rifNumber oid)).isSome) (hi : i ≠ 0 ∧ i ∉ db.stats.used)
    (hj : j ≠ 0 ∧ j ∉ db.stats.used) (hij : i ≠ j)
    (hrifs : db'.rifs = db.rifs.insert oid { r with ingStatsid := i, egsStatsid := j })
    (hl3 : db'.l3if = db.l3if) (hvif : db'.vif = db.vif)
    (hused : db'.stats.used = insert j (insert i db.stats.used))
    (hstray : db'.stats.stray = db.stats.stray)
    (hprops : ∀ n, statsProps db' n = if n = rifNumber oid then some (i, j) else statsProps db n)
    (hfl : ∀ o x, o ≠ oid → fl' o x = fl o x)
    (hon : fl' oid { r with ingStatsid := i, egsStatsid := j } = true) : StatsInvOf fl' db' := by
  have hhold := statsHold_insert hrifs hfl
  rw [hon, if_pos rfl] at hhold
  refine h.change hl hrifs hl3 hvif rfl hfl (fun n hn => ?_) (fun _ _ => hsome) ?_ ?_ ?_
  · rw [hprops, if_neg]
    rcases hn with hn | hn
    · rw [hreal] at hn
      cases hn
    · exact hn
  · refine ⟨fun _ => ⟨hreal, hv, hi.1, hj.1, ?_⟩, fun hf => ?_, fun hf => ?_⟩
    · rw [hprops, if_pos rfl]
    · rw [hon] at hf
      cases hf
    · rw [hon] at hf
      cases hf
  · rw [hhold, hused]
    refine (h.held.take (statsHold_off hl hoff false) hi.2).take ?_ ?_
    · rw [Function.update_of_ne (by simp)]
      exact statsHold_off hl hoff true
    · rw [Finset.mem_insert, not_or]
      exact ⟨hij.symm, hj.2⟩
  · rw [hstray]
    exact h.stray

theorem ids_of_on {oid : Oid} {r : Rif} (h : StatsInvOf fl db)
    (hl : db.rifs.lookup oid = some r) (hon : fl oid r = true) :
    statsHold fl db (oid, false) = some r.ingStatsid ∧
      statsHold fl db (oid, true) = some r.egsStatsid ∧ r.ingStatsid ∈ db.stats.used ∧
      r.egsStatsid ∈ db.stats.used ∧ r.egsStatsid ≠ r.ingStatsid := by
  have hhold : ∀ e, statsHold fl db (oid, e) = some (r.statsid e) := by
    intro e
    unfold statsHold
    rw [hl, Option.bind_some, hon, if_pos rfl]
  refine ⟨hhold false, hhold true, h.held.held _ _ (hhold false), h.held.held _ _ (hhold true),
    fun heq => ?_⟩
  have hk := h.held.inj (oid, true) (oid, false) r.ingStatsid
    ((hhold true).trans (congrArg some heq)) (hhold false)
  cases hk

theorem held_give {oid : Oid} {r : Rif} (h : StatsInvOf fl db)
    (hl : db.rifs.lookup oid = some r) (hon : fl oid r = true) :
    Balanced (Function.update (Function.update (statsHold fl db) (oid, false) none)
      (oid, true) none) ((db.stats.used.erase r.ingStatsid).erase r.egsStatsid) := by
  obtain ⟨hi, he, _, _, _⟩ := h.ids_of_on hl hon
  refine (h.held.give hi).give ?_
  rw [Function.update_of_ne (by simp)]
  exact he

/-- Both ids are destroyed and detached; the egress id stays in the record. -/
theorem detach (h : StatsInvOf fl db) (hl : db.rifs.lookup oid = some r) (hon : fl oid r = true)
    (hrifs : db'.rifs = db.rifs.insert oid { r with ingStatsid := 0 }) (hl3 : db'.l3if = db.l3if)
    (hvif : db'.vif = db.vif)
    (hused : db'.stats.used = (db.stats.used.erase r.ingStatsid).erase r.egsStatsid)
    (hstray : db'.stats.stray = db.stats.stray)
    (hprops : ∀ n, statsProps db' n = if n = rifNumber oid then some (0, 0) else statsProps db n)
    (hfl : ∀ o x, o ≠ oid → fl' o x = fl o x) (hoff : fl' oid { r with ingStatsid := 0 } = false) :
    StatsInvOf fl' db' := by
  obtain ⟨hreal, _, _, _, hp⟩ := (h.at_ oid r hl).attached hon
  have hhold := statsHold_insert hrifs hfl
  rw [hoff, if_neg (by decide)] at hhold
  refine h.change hl hrifs hl3 hvif rfl hfl (fun n hn => ?_) (fun _ _ => by rw [hp]; rfl) ?_ ?_ ?_
  · rw [hprops, if_neg]
    rcases hn with hn | hn
    · rw [hreal] at hn
      cases hn
    · exact hn
  · refine ⟨fun hf => ?_, fun _ => rfl, fun _ _ p hp => ?_⟩
    · rw [hoff] at hf
      cases hf
    · rw [hprops, if_pos rfl] at hp
      exact (Option.some.inj hp).symm
  · rw [hhold, hused]
    exact h.held_give hl hon
  · rw [hstray]
    exact h.stray

theorem no_hw (h : StatsInvOf fl db) (ht : t.vifBypass = false) (hn : n ∉ db.numbers t) :
    statsProps db n = none := by
  cases hp : statsProps db n with
  | none => rfl
  | some p =>
    obtain ⟨o, x, hx, hreal, hnum, _⟩ := h.hw n p hp
    obtain ⟨u, m, rfl, hm, hmem⟩ := h.nums.named o x hx
    rw [rifNumber_rifOid hm] at hnum
    subst hnum
    have hu : u.vifBypass = false := by simpa using hreal
    unfold RifDb.numbers at hn hmem
    rw [ht] at hn
    rw [hu] at hmem
    exact absurd hmem hn

/-- A new record, with a number of its own and no ids. -/
theorem added (h : StatsInv db) (hn : n < 2 ^ 16) (hfree : n ∉ db.numbers t) (hi : r.ingStatsid = 0)
    (hst : r.statsState = false) (hrifs : db'.rifs = db.rifs.insert (rifOid rc.lchip t n) r)
    (hnums : ∀ u, db'.numbers u = if u.vifBypass = t.vifBypass then insert n (db.numbers u)
      else db.numbers u) (hstats : db'.stats = db.stats)
    (hprops : ∀ m, statsProps db' m = statsProps db m) :
    StatsInv db' := by
  have hlk : ∀ o x, db'.rifs.lookup o = some x →
      o = rifOid rc.lchip t n ∧ r = x ∨ o ≠ rifOid rc.lchip t n ∧ db.rifs.lookup o = some x := by
    rw [hrifs]
    exact fun o x => of_lookup_insert
  have hsame : ∀ u, u.vifBypass = t.vifBypass → db.numbers u = db.numbers t := by
    intro u hu
    unfold RifDb.numbers
    rw [hu]
  -- no record has the number in the same pool
  have hnone : ∀ u x, u.vifBypass = t.vifBypass →
      db.rifs.lookup (rifOid rc.lchip u n) ≠ some x := by
    intro u x hu hx
    obtain ⟨v, m, he, hm, hmem⟩ := h.nums.named _ x hx
    obtain ⟨rfl, rfl⟩ := rifOid_inj hn hm he
    exact hfree (hsame u hu ▸ hmem)
  have hold : ∀ o x, db.rifs.lookup o = some x → db'.rifs.lookup o = some x := by
    intro o x hx
    rw [hrifs, lookup_insert_ite, if_neg]
    · exact hx
    · rintro rfl
      exact hnone t x rfl hx
  refine ⟨⟨?_, ?_⟩, ?_, ?_, ?_, ?_⟩
  · intro o x hx
    rcases hlk o x hx with ⟨rfl, rfl⟩ | ⟨-, hx⟩
    · refine ⟨t, n, rfl, hn, ?_⟩
      rw [hnums, if_pos rfl]
      exact Finset.mem_insert_self ..
    obtain ⟨u, m, rfl, hm, hmem⟩ := h.nums.named o x hx
    refine ⟨u, m, rfl, hm, ?_⟩
    rw [hnums]
    split
    · exact Finset.mem_insert_of_mem hmem
    · exact hmem
  · intro u u' m x x' hm hx hx' hu
    rcases hlk _ x hx with ⟨he, rfl⟩ | ⟨-, hx⟩
    · obtain ⟨rfl, rfl⟩ := rifOid_inj hm hn he
      rcases hlk _ x' hx' with ⟨he', rfl⟩ | ⟨-, hx'⟩
      · exact (rifOid_inj hm hn he').1.symm
      · exact absurd hx' (hnone u' x' hu.symm)
    rcases hlk _ x' hx' with ⟨he', rfl⟩ | ⟨-, hx'⟩
    · obtain ⟨rfl, rfl⟩ := rifOid_inj hm hn he'
      exact absurd hx (hnone u x hu)
    · exact h.nums.inj u u' m x x' hm hx hx' hu
  · have hhold : statsHold (fun _ r => r.statsState) db' =
        statsHold (fun _ r => r.statsState) db := by
      funext ⟨o, e⟩
      unfold statsHold
      rw [hrifs, lookup_insert_ite]
      split
      · next ho =>
        subst ho
        rw [Option.bind_some, if_neg (by simp [hst])]
        cases hx : db.rifs.lookup (rifOid rc.lchip t n) with
        | none => rfl
        | some x => exact absurd hx (hnone t x rfl)
      · rfl
    rw [hhold, hstats]
    exact h.held
  · intro o x hx
    rcases hlk o x hx with ⟨rfl, rfl⟩ | ⟨-, hx⟩
    · refine ⟨fun hon => ?_, fun _ => hi, fun _ hreal p hp => ?_⟩
      · rw [hst] at hon
        cases hon
      · rw [rifNumber_rifOid hn, hprops, h.no_hw (by simpa using hreal) hfree] at hp
        cases hp
    obtain ⟨hat, hcl, hde⟩ := h.at_ o x hx
    refine ⟨?_, hcl, ?_⟩
    · rw [hprops]
      exact hat
    · rw [hprops]
      exact hde
  · intro m p hp
    rw [hprops] at hp
    obtain ⟨o, x, hx, hrest⟩ := h.hw m p hp
    exact ⟨o, x, hold o x hx, hrest⟩
  · rw [hstats]
    exact h.stray

theorem newL3if {oid : Oid} {r : Rif} (h : StatsInvOf fl db) (hl : db.rifs.lookup oid = some r)
    (hreal : rifReal oid = true) (hv : r.isVirtual = false) (hoff : fl oid r = false)
    (l3if : L3if) : StatsInvOf fl (db.setL3if (rifNumber oid) (some (.new l3if))) where
  nums := ⟨h.nums.named, h.nums.inj⟩
  held := h.held
  at_ o x hx := by
    obtain ⟨hat, hcl, hde⟩ := h.at_ o x hx
    by_cases ho : o = oid
    · subst ho
      have hx' : db.rifs.lookup o = some x := hx
      rw [hl] at hx'
      cases hx'
      refine ⟨fun hon => ?_, hcl, fun _ _ p hp => ?_⟩
      · rw [hoff] at hon
        cases hon
      · rw [statsProps_setL3if, if_pos rfl] at hp
        cases hp
        rfl
    have hsame : rifReal o = true → statsProps (db.setL3if (rifNumber oid)
        (some (.new l3if))) (rifNumber o) = statsProps db (rifNumber o) := by
      intro hr
      rw [statsProps_setL3if, if_neg]
      exact fun hn => ho (h.nums.same_number hx hl hr hreal hn)
    refine ⟨fun hon => ?_, hcl, fun hf hr p hp => ?_⟩
    · obtain ⟨hr, hnv, hi, he, hp⟩ := hat hon
      exact ⟨hr, hnv, hi, he, (hsame hr).trans hp⟩
    · exact hde hf hr p ((hsame hr).symm.trans hp)
  hw n p hp := by
    rw [statsProps_setL3if] at hp
    split at hp
    · next hn => exact ⟨oid, r, hl, hreal, hn.symm, hv⟩
    · exact h.hw n p hp
  stray := h.stray

theorem rewritten (h : StatsInvOf fl db) (hl : db.rifs.lookup oid = some r)
    (hv : r'.isVirtual = r.isVirtual) (hi : r'.ingStatsid = r.ingStatsid)
    (he : r'.egsStatsid = r.egsStatsid) (hfl : ∀ o x, o ≠ oid → fl' o x = fl o x)
    (hflag : fl' oid r' = fl oid r) :
    StatsInvOf fl' (db.setRif oid r') := by
  obtain ⟨hat, hcl, hde⟩ := h.at_ oid r hl
  refine h.change hl rfl rfl rfl hv hfl (fun _ _ => rfl) (fun p hp => ?_) ?_ ?_ h.stray
  · exact Option.isSome_iff_exists.mpr ⟨p, hp⟩
  · rw [hflag]
    refine ⟨?_, ?_, hde⟩
    · rw [hv, hi, he]
      exact hat
    · rw [hi]
      exact hcl
  · rw [statsHold_insert rfl hfl, hflag, hi, he]
    have hsame : Function.update (Function.update (statsHold fl db)
        (oid, false) (if fl oid r then some r.ingStatsid else none))
        (oid, true) (if fl oid r then some r.egsStatsid else none) = statsHold fl db := by
      have hk : ∀ e, statsHold fl db (oid, e) = if fl oid r then some (r.statsid e) else none := by
        intro e
        unfold statsHold
        rw [hl, Option.bind_some]
      rw [Function.update_eq_iff]
      refine ⟨(hk true).symm, fun k _ => ?_⟩
      rw [Function.update_apply]
      split
      · next hke => rw [hke]; exact (hk false).symm
      · rfl
    rw [hsame]
    exact h.held

/-- A record, its number and its interface are gone, and its ids if it had
any. -/
theorem dropped (h : StatsInvOf fl db) (hn : n < 2 ^ 16)
    (hl : db.rifs.lookup (rifOid rc.lchip t n) = some r)
    (hrifs : db'.rifs = db.rifs.erase (rifOid rc.lchip t n))
    (hnums : ∀ u, db'.numbers u = if u.vifBypass = t.vifBypass then (db.numbers u).erase n
      else db.numbers u) (hused : db'.stats.used = if fl (rifOid rc.lchip t n) r then
      (db.stats.used.erase r.ingStatsid).erase r.egsStatsid else db.stats.used)
    (hstray : ∀ i ∈ db'.stats.stray, i = 0)
    (hprops : ∀ m, statsProps db' m = if t.vifBypass = false ∧ m = n then none
      else statsProps db m) : StatsInvOf fl db' := by
  have hlk : ∀ o x, db'.rifs.lookup o = some x →
      o ≠ rifOid rc.lchip t n ∧ db.rifs.lookup o = some x := by
    rw [hrifs]
    exact fun o x => of_lookup_erase
  -- another record's interface is another one
  have hother : ∀ o x, o ≠ rifOid rc.lchip t n → db.rifs.lookup o = some x →
      rifReal o = true → statsProps db' (rifNumber o) = statsProps db (rifNumber o) := by
    intro o x ho hx hreal
    rw [hprops, if_neg]
    rintro ⟨ht, hnum⟩
    refine ho (h.nums.same_number hx hl hreal ?_ ?_)
    · rw [rifReal_rifOid, ht]
      rfl
    · rw [hnum, rifNumber_rifOid hn]
  refine ⟨⟨?_, ?_⟩, ?_, ?_, ?_, hstray⟩
  · intro o x hx
    obtain ⟨ho, hx⟩ := hlk o x hx
    obtain ⟨u, m, rfl, hm, hmem⟩ := h.nums.named o x hx
    refine ⟨u, m, rfl, hm, ?_⟩
    rw [hnums]
    split
    · next hu =>
      refine Finset.mem_erase.mpr ⟨?_, hmem⟩
      rintro rfl
      exact ho (by rw [h.nums.inj u t m x r hm hx hl hu])
    · exact hmem
  · intro u u' m x x' hm hx hx' hu
    exact h.nums.inj u u' m x x' hm (hlk _ x hx).2 (hlk _ x' hx').2 hu
  · rw [statsHold_erase hrifs, hused]
    split
    · next hon => exact h.held_give hl hon
    next hoff =>
    have hoff : fl (rifOid rc.lchip t n) r = false := by simpa using hoff
    have hsame : Function.update (Function.update (statsHold fl db)
        (rifOid rc.lchip t n, false) none) (rifOid rc.lchip t n, true) none =
        statsHold fl db := by
      rw [Function.update_eq_iff]
      refine ⟨(statsHold_off hl hoff true).symm, fun k _ => ?_⟩
      rw [Function.update_apply]
      split
      · next hk => rw [hk, statsHold_off hl hoff]
      · rfl
    rw [hsame]
    exact h.held
  · intro o x hx
    obtain ⟨ho, hx⟩ := hlk o x hx
    obtain ⟨hat, hcl, hde⟩ := h.at_ o x hx
    refine ⟨fun hon => ?_, hcl, fun hoff hreal p hp => ?_⟩
    · obtain ⟨hreal, hv, hi, he, hp⟩ := hat hon
      exact ⟨hreal, hv, hi, he, (hother o x ho hx hreal).trans hp⟩
    · exact hde hoff hreal p ((hother o x ho hx hreal).symm.trans hp)
  · intro m p hp
    rw [hprops] at hp
    split at hp
    · cases hp
    next hm =>
    obtain ⟨o, x, hx, hreal, hnum, hv⟩ := h.hw m p hp
    refine ⟨o, x, ?_, hreal, hnum, hv⟩
    rw [hrifs, lookup_erase_ite, if_neg]
    · exact hx
    · rintro rfl
      rw [rifNumber_rifOid hn] at hnum
      exact hm ⟨by simpa using hreal, hnum.symm⟩

end StatsInvOf

end CtcSai
