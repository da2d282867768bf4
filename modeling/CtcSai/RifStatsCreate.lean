/-
# `RifStatsCreate` — statistics ids in the creation of a router interface

A new interface has its ids before its record says that they are on.  From its
record on, creation is a sequence of stages, and each of them keeps the
interface open (`Opened`) or ends the call with the invariant of whole runs:
`createReal_staged` puts the stages together.  The labels from `error5` on take
the record, the number, the interface and both ids away (`rifError5_inv`).
-/
import CtcSai.RifStatsSync

namespace CtcSai

open IdPool KeyedTable Stages

variable {rc : RifChip}

/-! ## Attributes -/

theorem Rif.setAttr_ok {r r' : Rif} {a : RifAttr} (h : r.setAttr a = .ok r') :
    r'.isVirtual = r.isVirtual ∧ r'.ingStatsid = r.ingStatsid ∧ r'.egsStatsid = r.egsStatsid ∧
      r'.statsState = a.customStatsState?.getD r.statsState ∧
      (r.isVirtual = true → a.customStatsState? = none) := by
  cases a <;> simp only [Rif.setAttr] at h <;> (try split at h) <;> (try split at h) <;> cases h <;>
    simp_all [RifAttr.customStatsState?]

/-! ## Creation -/

section Create

variable {sdk : RifSdk} {n : RifNew}

/-- What is true of an interface while it is created. -/
structure RifNew.Named (n : RifNew) (c : Lchip) : Prop where
  oid : n.oid = rifOid c n.t n.id
  id_lt : n.id < 2 ^ 16
  real : n.t.vifBypass = false
  l3if : n.l3if.l3ifType = n.t.l3ifType

/-- An interface in the middle of its creation: `on` says whether it has its
ids, `hw` whether the hardware has it. -/
structure Opened (sdk : RifSdk) (db : RifDb rc) (n : RifNew) (on hw : Bool) : Prop where
  inv : StatsInvOf (openFlag n.oid on) db
  record : ∃ r, db.rifs.lookup n.oid = some r ∧ r.isVirtual = n.isVirtual ∧
    (on = false → r.egsStatsid = 0)
  hw : (statsProps db n.id).isSome = hw
  fresh : on = false → FreshStats db sdk .createStats ∧ FreshStats db sdk .hwCreateStats

theorem RifNew.Named.number (hn : n.Named rc.lchip) : rifNumber n.oid = n.id := by
  rw [hn.oid, rifNumber_rifOid hn.id_lt]

theorem RifNew.Named.rifReal (hn : n.Named rc.lchip) : rifReal n.oid = true := by
  rw [hn.oid, rifReal_rifOid, hn.real]
  rfl

variable {db : RifDb rc} {on hw : Bool}

theorem Opened.sameStats {db' : RifDb rc} (h : Opened sdk db n on hw) (hs : SameStats db db') :
    Opened sdk db' n on hw where
  inv := h.inv.sameStats hs
  record := by
    rw [hs.rifs]
    exact h.record
  hw := by
    rw [hs.props]
    exact h.hw
  fresh hoff := ⟨(h.fresh hoff).1.sameStats hs, (h.fresh hoff).2.sameStats hs⟩

theorem rifError3_fields (hs : ∀ site, sdk.rc site = .none) (hn : n.Named rc.lchip)
    (hhw : (statsProps db n.id).isSome = n.hasL3if) :
    (rifError3 sdk db n).rifs = db.rifs.erase n.oid ∧ (rifError3 sdk db n).stats = db.stats ∧
      (∀ u, (rifError3 sdk db n).numbers u = if u.vifBypass = n.t.vifBypass then
        (db.numbers u).erase n.id else db.numbers u) ∧
      ∀ m, statsProps (rifError3 sdk db n) m = if n.t.vifBypass = false ∧ m = n.id then none
        else statsProps db m := by
  have hnums : ∀ x : RifDb rc, x.l3if = db.l3if.free n.id → x.vif = db.vif → ∀ u : RifType,
      x.numbers u = if u.vifBypass = n.t.vifBypass then (db.numbers u).erase n.id
        else db.numbers u := by
    intro x h₁ h₂ u
    unfold RifDb.numbers
    rw [hn.real, h₁, h₂]
    cases u.vifBypass <;> simp
  unfold rifError3 rifError2 rifError1
  cases hl3 : n.hasL3if with
  | true =>
    rw [if_pos ⟨rfl, hs _⟩]
    refine ⟨rfl, rfl, hnums _ rfl rfl, fun m => ?_⟩
    refine (statsProps_setL3if db n.id m none).trans ?_
    rw [hn.real]
    simp
  | false =>
    rw [if_neg (by simp)]
    refine ⟨rfl, rfl, hnums _ rfl rfl, fun m => ?_⟩
    rw [hl3, Option.isSome_eq_false_iff, Option.isNone_iff_eq_none] at hhw
    split
    · next hm => rw [hm.2]; exact hhw
    · rfl

/-- What the roll-back from `error5` on leaves. -/
theorem rifError5_inv (hs : ∀ site, sdk.rc site = .none) (hn : n.Named rc.lchip)
    (h : Opened sdk db n on n.hasL3if) : StatsInv (rifError5 sdk db n) := by
  obtain ⟨r, hl, _, hegs⟩ := h.record
  have hat := h.inv.at_ _ r hl
  rw [openFlag_self] at hat
  unfold rifError5 rifError4
  rw [destroyStats_of hs, destroyStats_of hs]
  have heg : db.statsidOf n.oid Rif.egsStatsid = r.egsStatsid := by
    unfold RifDb.statsidOf
    rw [hl]
    rfl
  have hing : RifDb.statsidOf { db with stats := db.stats.free r.egsStatsid } n.oid
      Rif.ingStatsid = r.ingStatsid := by
    unfold RifDb.statsidOf
    rw [hl]
    rfl
  rw [heg, hing]
  generalize hdb : { db with stats := (db.stats.free r.egsStatsid).free r.ingStatsid } = db₁
  have hrifs₁ : db₁.rifs = db.rifs := by rw [← hdb]
  have hprops₁ : ∀ m, statsProps db₁ m = statsProps db m := by
    intro m
    rw [← hdb]
    rfl
  have hnums₁ : ∀ u, db₁.numbers u = db.numbers u := by
    intro u
    rw [← hdb]
    rfl
  have hstats₁ : db₁.stats = (db.stats.free r.egsStatsid).free r.ingStatsid := by rw [← hdb]
  obtain ⟨hrifs, hstats, hnums, hprops⟩ := @rifError3_fields rc sdk n db₁ hs hn
    ((congrArg _ (hprops₁ _)).trans h.hw)
  rw [hn.oid] at hl hrifs
  have hdrop : StatsInvOf (openFlag n.oid on) (rifError3 sdk db₁ n) := by
    refine h.inv.dropped hn.id_lt hl ?_ ?_ ?_ ?_ ?_
    · rw [hrifs, hrifs₁]
    · intro u
      rw [hnums, hnums₁]
    · rw [hstats, hstats₁, Pool.used_free, Pool.used_free, ← hn.oid, openFlag_self]
      cases on with
      | true => exact Finset.erase_right_comm
      | false =>
        rw [hegs rfl, hat.cleared rfl, if_neg (by decide)]
        rw [Finset.erase_eq_of_notMem (zero_notMem_stats db),
          Finset.erase_eq_of_notMem (zero_notMem_stats db)]
    · intro i hi
      rw [hstats, hstats₁] at hi
      cases on with
      | true =>
        rw [← hn.oid] at hl
        obtain ⟨_, _, hi', he', hne⟩ := h.inv.ids_of_on hl (openFlag_self ..)
        rw [Pool.stray_free_of_mem (Finset.mem_erase.mpr ⟨hne.symm, hi'⟩),
          Pool.stray_free_of_mem he'] at hi
        exact h.inv.stray i hi
      | false =>
        rw [hegs rfl, hat.cleared rfl, Pool.stray_free_of_not_mem
          (fun h0 => zero_notMem_stats db (Finset.mem_of_mem_erase h0)),
          Pool.stray_free_of_not_mem (zero_notMem_stats db)] at hi
        simp only [List.mem_cons] at hi
        rcases hi with hi | hi | hi
        · exact hi
        · exact hi
        · exact h.inv.stray i hi
    · intro m
      rw [hprops, hprops₁]
  refine hdrop.flags fun o x hx => (openFlag_of_ne on x ?_).symm
  rintro rfl
  rw [hrifs, ← hn.oid, Table.lookup_erase_ite, if_pos rfl] at hx
  cases hx

theorem rifError6_some {gs : List (BitVec 32)} {d : RifDb rc} (h : rifError6 sdk db n gs = some d) :
    ∃ db', SameStats db db' ∧ d = rifError5 sdk db' n := by
  unfold rifError6 at h
  split at h
  · cases h
    refine ⟨_, ?_, rfl⟩
    split
    · exact (portWritesAll_sameStats sdk db _ _ _).trans (lagBindingRif_sameStats _ _ _ _)
    · exact portWritesAll_sameStats sdk db _ _ _
  · split at h
    · cases h
      exact ⟨_, (portWritesAll_sameStats sdk db _ _ _).trans (lagBindingRif_sameStats _ _ _ _), rfl⟩
    · split at h
      · cases h
      · split at h
        · cases h
        · cases h
          refine ⟨_, ?_, rfl⟩
          split
          · exact (setSubIfRefCnt_sameStats db _ _).trans (portWritesAll_sameStats _ _ _ _ _)
          · exact setSubIfRefCnt_sameStats db _ _
  · cases h
    exact ⟨db, .refl db, rfl⟩

/-- What is known of a call that ends. -/
def EndsWell (e : Option (RifResult rc)) : Prop := ∀ x, e = some x → StatsInv x.db

theorem rifFailed6_endsWell (hs : ∀ site, sdk.rc site = .none) (hn : n.Named rc.lchip)
    (h : Opened sdk db n on n.hasL3if) (status : Status) (gs : List (BitVec 32)) :
    EndsWell (rifFailed6 sdk db status n gs) := by
  intro x hx
  obtain ⟨d, hd, hx⟩ := Option.bind_eq_some_iff.mp hx
  cases hx
  obtain ⟨db', hsame, rfl⟩ := rifError6_some hd
  exact rifError5_inv hs hn (h.sameStats hsame)

/-! ### The stages -/

/-- No record says yet that its statistics are on. -/
def Quiet (db : RifDb rc) (oid : Oid) : Prop :=
  ∀ r, db.rifs.lookup oid = some r → r.statsState = false

theorem Opened.closed (h : Opened sdk db n false hw) (hq : Quiet db n.oid) : StatsInv db :=
  h.inv.own hq

theorem createL3if_staged (hs : ∀ site, sdk.rc site = .none) (hn : n.Named rc.lchip)
    (h : Opened sdk db n false false) (hq : Quiet db n.oid) :
    Staged (fun db' => Opened sdk db' n false n.hasL3if ∧ Quiet db' n.oid ∧ db'.ports = db.ports)
      EndsWell (createL3if sdk db n) := by
  obtain ⟨r, hl, hv, hegs⟩ := h.record
  unfold createL3if
  cases hl3 : n.hasL3if with
  | false => exact ⟨h, hq, rfl⟩
  | true =>
    rw [hs]
    refine ⟨⟨?_, ⟨r, hl, hv, hegs⟩, ?_, h.fresh⟩, hq, rfl⟩
    · have hnv : r.isVirtual = false := by
        unfold RifNew.hasL3if at hl3
        cases hvirt : n.isVirtual <;> simp_all
      have hnew := h.inv.newL3if hl hn.rifReal hnv (openFlag_self ..) n.l3if
      rwa [hn.number] at hnew
    · rw [statsProps_setL3if, if_pos rfl]
      rfl

theorem createStatsid_of (hs : ∀ site, sdk.rc site = .none) {hw : L3ifHw} {r : Rif} (e : Bool)
    (hr : sdk.statsId (.createStats e) ∈ Finset.Ico rc.stats.lo (rc.stats.lo + rc.stats.size))
    (hf : sdk.statsId (.createStats e) ∉ db.stats.used)
    (hhw : db.l3ifs n.id = some hw) (hl : db.rifs.lookup n.oid = some r) :
    ∃ p, createStatsid sdk db n e = some ((({ db with stats := p } : RifDb rc).setL3if n.id
        (some { hw with
          prop := Function.update hw.prop (if e then .egsStats else .stats)
            (sdk.statsId (.createStats e)) })).setRif n.oid
        (if e then { r with egsStatsid := sdk.statsId (.createStats e) }
          else { r with ingStatsid := sdk.statsId (.createStats e) })) ∧
      p.used = insert (sdk.statsId (.createStats e)) db.stats.used ∧
      p.stray = db.stats.stray := by
  obtain ⟨p, hp, hpu, hps⟩ := createStats_of hs db hr hf
  refine ⟨p, ?_, hpu, hps⟩
  unfold createStatsid
  rw [hp, Option.map_some]
  dsimp only
  rw [setProperty_of hs { db with stats := p } _ hhw]
  rw [if_pos rfl]
  have hl' : (({ db with stats := p } : RifDb rc).setL3if n.id (some { hw with
        prop := Function.update hw.prop (if e then .egsStats else .stats)
          (sdk.statsId (.createStats e)) })).rifs.lookup n.oid = some r := hl
  rw [hl']

theorem createStatsids_staged (hs : ∀ site, sdk.rc site = .none) (hn : n.Named rc.lchip)
    (h : Opened sdk db n false n.hasL3if) (hq : Quiet db n.oid)
    (hon : n.isVirtual = false → on = true → n.hasL3if = true) :
    Staged (fun db' => Opened sdk db' n (!n.isVirtual && on) n.hasL3if ∧ Quiet db' n.oid ∧
      db'.ports = db.ports) EndsWell (createStatsids sdk db n on) := by
  unfold createStatsids
  split
  · next hoff =>
    have hoff : (!n.isVirtual && on) = false := by
      cases hv : n.isVirtual <;> simp_all
    rw [hoff]
    exact ⟨h, hq, rfl⟩
  next hoff =>
  obtain ⟨hv, hon'⟩ : n.isVirtual = false ∧ on = true := by
    cases hv : n.isVirtual <;> simp_all
  have hsome := h.hw
  rw [hon hv hon', isSome_statsProps] at hsome
  obtain ⟨hw, hhw⟩ := Option.isSome_iff_exists.mp hsome
  obtain ⟨r, hl, hrv, _⟩ := h.record
  obtain ⟨hfresh, _⟩ := h.fresh rfl
  obtain ⟨p, hp, hpu, hps⟩ := createStatsid_of hs false (hfresh.1 false).1 (hfresh.1 false).2 hhw hl
  rw [hp]
  have hfree : sdk.statsId (.createStats true) ∉ p.used := by
    rw [hpu, Finset.mem_insert, not_or]
    exact ⟨hfresh.2.symm, (hfresh.1 true).2⟩
  have hl' := lookup_setRif (({ db with stats := p } : RifDb rc).setL3if n.id (some { hw with
        prop := Function.update hw.prop .stats (sdk.statsId (.createStats false)) }))
    n.oid { r with ingStatsid := sdk.statsId (.createStats false) }
  obtain ⟨q, hq', hqu, hqs⟩ := createStatsid_of hs true (hfresh.1 true).1 hfree
    (Function.update_self ..) hl'
  simp only [Bool.false_eq_true, if_false]
  rw [hq']
  rw [hv, hon']
  have hr0 := hq r hl
  refine ⟨⟨?_, ?_, ?_, nofun⟩, ?_, rfl⟩
  · refine h.inv.attach hl (openFlag_self ..) hn.rifReal (hrv.trans hv) ?_
      ⟨hfresh.ne_zero false, (hfresh.1 false).2⟩ ⟨hfresh.ne_zero true, (hfresh.1 true).2⟩
      hfresh.2 ?_ rfl rfl (hqu.trans (congrArg _ hpu)) (hqs.trans hps) (fun m => ?_)
      (fun o x ho => (openFlag_of_ne _ x ho).trans (openFlag_of_ne _ x ho).symm)
      (openFlag_self ..)
    · rw [hn.number, isSome_statsProps, hhw]
      rfl
    · exact AList.insert_insert ..
    · rw [hn.number]
      unfold statsProps RifDb.setRif RifDb.setL3if
      dsimp only
      rw [Function.update_apply]
      split
      · next hm =>
        simp only [Option.map_some, if_true, Function.update_self]
        rw [Function.update_of_ne (by decide), Function.update_self]
      · next hm => rw [Function.update_of_ne hm]
  · exact ⟨_, lookup_setRif .., hrv, nofun⟩
  · rw [hon hv hon', isSome_statsProps]
    unfold RifDb.setRif RifDb.setL3if
    dsimp only
    rw [Function.update_self]
    rfl
  · intro x hx
    rw [lookup_setRif] at hx
    cases hx
    exact hr0

theorem getPortDb_congr {db' : RifDb rc} (h : db'.ports = db.ports) (g : BitVec 32) :
    getPortDb sdk db' g = getPortDb sdk db g := by
  unfold getPortDb
  rw [h]

theorem createPortWrites_staged (hs : ∀ site, sdk.rc site = .none) (h : Opened sdk db n on hw)
    (hq : Quiet db n.oid) (site : BitVec 32 → RifSite) (f : PortRegs → PortRegs)
    (gs : List (BitVec 32)) :
    Staged (fun db' => Opened sdk db' n on hw ∧ Quiet db' n.oid) EndsWell
      (createPortWrites sdk db n site f gs) := by
  have hsame := portWrites_sameStats sdk db site f gs
  have hok := portWrites_of hs db site f gs
  unfold createPortWrites
  generalize portWrites sdk site f db gs = x at hsame hok
  obtain ⟨status, db'⟩ := x
  subst hok
  refine ⟨h.sameStats hsame, ?_⟩
  unfold Quiet
  rw [hsame.rifs]
  exact hq

theorem createLagPorts_staged (hs : ∀ site, sdk.rc site = .none) (h : Opened sdk db n on hw)
    (hq : Quiet db n.oid) (t : L3ifType) :
    Staged (fun db' => Opened sdk db' n on hw ∧ Quiet db' n.oid) EndsWell
      (createLagPorts sdk db n t) := by
  have hsame := lagBindingRif_sameStats db n.l3if.gport true t
  unfold createLagPorts
  rw [hs]
  refine ⟨h.sameStats hsame, ?_⟩
  unfold Quiet
  rw [hsame.rifs]
  exact hq

/-- The ports are written; a port without a record ends the call with the
interface as it is. -/
theorem createPorts_staged (hs : ∀ site, sdk.rc site = .none) (h : Opened sdk db n on hw)
    (hq : Quiet db n.oid)
    (hport : on = true → n.isVirtual = false → n.l3if.l3ifType = some .subIf →
      isLinkaggPort n.l3if.gport = false → ∃ cnt, getPortDb sdk db n.l3if.gport = .ok cnt) :
    Staged (fun db' => Opened sdk db' n on hw ∧ Quiet db' n.oid) EndsWell
      (createPorts sdk db n) := by
  unfold createPorts
  split
  · exact ⟨h, hq⟩
  next hv =>
  have hv : n.isVirtual = false := by simpa using hv
  split
  · refine Staged.bind (P := fun db' => Opened sdk db' n on hw ∧ Quiet db' n.oid) ?_
      fun db' hdb => createPortWrites_staged hs hdb.1 hdb.2 _ _ (n.gports sdk)
    split
    · exact createLagPorts_staged hs h hq .phyIf
    · exact ⟨h, hq⟩
  · next ht =>
    split
    · exact (createLagPorts_staged hs h hq .subIf).bind
        fun db' hdb => createPortWrites_staged hs hdb.1 hdb.2 _ _ _
    next hlag =>
    cases hp : getPortDb sdk db n.l3if.gport with
    | error status =>
      intro x hx
      cases hx
      cases hon : on with
      | true =>
        obtain ⟨cnt, hcnt⟩ := hport hon hv ht (by simpa using hlag)
        rw [hp] at hcnt
        cases hcnt
      | false =>
        subst hon
        exact h.closed hq
    | ok cnt =>
      dsimp only
      have hsame := setSubIfRefCnt_sameStats db n.l3if.gport (cnt + 1)
      have hq' : Quiet (db.setSubIfRefCnt n.l3if.gport (cnt + 1)) n.oid := hq
      split
      · exact createPortWrites_staged hs (h.sameStats hsame) hq' _ _ _
      · exact ⟨h.sameStats hsame, hq'⟩
  · exact ⟨h, hq⟩

/-- The attribute loop leaves the ids alone, and the statistics off if it is
not asked to turn them on. -/
theorem rifAttrLoop_keeps (r : Rif) (attrs : List RifAttr) :
    (rifAttrLoop r attrs).2.isVirtual = r.isVirtual ∧
      (rifAttrLoop r attrs).2.ingStatsid = r.ingStatsid ∧
      (rifAttrLoop r attrs).2.egsStatsid = r.egsStatsid ∧
      (r.isVirtual = true ∨ (∀ a ∈ attrs, a ≠ .customStatsState true) →
        r.statsState = false → (rifAttrLoop r attrs).2.statsState = false) := by
  have hsub : ∀ (a : RifAttr) (rest : List RifAttr),
      (∀ b ∈ a :: rest, b ≠ .customStatsState true) → ∀ b ∈ rest, b ≠ .customStatsState true :=
    fun a rest h b hb => h b (List.mem_cons_of_mem _ hb)
  fun_induction rifAttrLoop r attrs with
  | case1 r => exact ⟨rfl, rfl, rfl, fun _ h => h⟩
  | case2 r _ rest ih | case3 r _ rest ih =>
    obtain ⟨hv, hi, he, hst⟩ := ih
    exact ⟨hv, hi, he, fun hor => hst (hor.imp_right (hsub _ rest))⟩
  | case4 r a rest _ _ r' ha ih =>
    obtain ⟨hv', hi', he', hst', hvirt⟩ := Rif.setAttr_ok ha
    obtain ⟨hv, hi, he, hst⟩ := ih
    refine ⟨hv.trans hv', hi.trans hi', he.trans he', fun hor hoff => ?_⟩
    refine hst ?_ ?_
    · rw [hv']
      exact hor.imp_right (hsub a rest)
    · rw [hst', hoff]
      rcases hor with hvr | hno
      · rw [hvirt hvr]
        rfl
      · cases a <;> simp_all [RifAttr.customStatsState?]
  | case5 r a rest _ _ status _ => exact ⟨rfl, rfl, rfl, fun _ h => h⟩

theorem createAttrs_staged (hs : ∀ site, sdk.rc site = .none) (hn : n.Named rc.lchip)
    (h : Opened sdk db n on n.hasL3if) (hq : Quiet db n.oid) (attrs : List RifAttr)
    (hoff : n.hasL3if = false → n.isVirtual = true ∨ ∀ a ∈ attrs, a ≠ .customStatsState true) :
    Staged (fun db' => Opened sdk db' n on n.hasL3if ∧ (n.hasL3if = false → Quiet db' n.oid))
      EndsWell (createAttrs sdk db n attrs) := by
  obtain ⟨r, hl, hrv, hegs⟩ := h.record
  have hwritten : ∀ r' : Rif, r'.isVirtual = r.isVirtual → r'.ingStatsid = r.ingStatsid →
      r'.egsStatsid = r.egsStatsid → Opened sdk (db.setRif n.oid r') n on n.hasL3if := by
    intro r' hv hi he
    refine ⟨h.inv.rewritten hl hv hi he (fun o x ho => ?_) ?_, ?_, h.hw, h.fresh⟩
    · rw [openFlag_of_ne on x ho]
    · rw [openFlag_self, openFlag_self]
    · exact ⟨r', lookup_setRif .., hv.trans hrv, fun hf => he.trans (hegs hf)⟩
  obtain ⟨hv, hi, he, hst⟩ := rifAttrLoop_keeps r (attrs.take 256)
  have hquiet : n.hasL3if = false → (rifAttrLoop r (attrs.take 256)).2.statsState = false := by
    intro hl3
    refine hst ?_ (hq r hl)
    rcases hoff hl3 with hvirt | hno
    · exact .inl (hrv.trans hvirt)
    · exact .inr fun a ha => hno a (List.mem_of_mem_take ha)
  unfold createAttrs
  rw [hl]
  dsimp only
  generalize rifAttrLoop r (attrs.take 256) = x at hv hi he hquiet
  obtain ⟨status, r'⟩ := x
  split
  · next r'' hx =>
    cases hx
    split
    · intro x hx
      cases hx
    refine ⟨hwritten _ ?_ ?_ ?_, fun hl3 x hx => ?_⟩
    · split <;> exact hv
    · split <;> exact hi
    · split <;> exact he
    · rw [lookup_setRif] at hx
      cases hx
      split <;> exact hquiet hl3
  · next status' r'' _ hx =>
    cases hx
    exact rifFailed6_endsWell hs hn (hwritten r' hv hi he) status _

theorem RifNew.Named.noL3if (hn : n.Named rc.lchip) (h : n.hasL3if = false) :
    n.isVirtual = true ∨ n.t = .bridge := by
  have hreal := hn.real
  have hl3 := hn.l3if
  unfold RifNew.hasL3if at h
  cases hv : n.isVirtual with
  | true => exact .inl rfl
  | false =>
    cases ht : n.t <;> simp_all [RifType.vifBypass, RifType.l3ifType]

theorem createHw_staged (hs : ∀ site, sdk.rc site = .none) (hn : n.Named rc.lchip)
    (h : Opened sdk db n on n.hasL3if)
    (hoff : n.hasL3if = false → on = false ∧ Quiet db n.oid) :
    Staged (fun db' => StatsInv db' ∧ (n.hasL3if = true → (db'.l3ifs n.id).isSome)) EndsWell
      (createHw sdk db n) := by
  obtain ⟨r, hl, hrv, hegs⟩ := h.record
  have hhw := h.hw
  rw [isSome_statsProps, ← hn.number] at hhw
  unfold createHw
  cases hl3 : n.hasL3if with
  | true =>
    rw [hl3] at hhw
    have hnv : r.isVirtual = false := by
      unfold RifNew.hasL3if at hl3
      cases hv : n.isVirtual <;> simp_all
    have hready : r.statsState = true → on = false →
        StatsReady db n.oid r ∧ FreshStats db sdk .hwCreateStats := by
      intro _ hf
      exact ⟨⟨hn.rifReal, hnv, hegs hf, hhw⟩, (h.fresh hf).2⟩
    have hinv := setAttrHw_inv hs h.inv hl hready
    obtain ⟨hok, hsome⟩ := setAttrHw_success hs h.inv hl hready hnv hhw
    generalize setAttrHw sdk db n.oid = x at hinv hok hsome
    obtain ⟨status, db'⟩ := x
    subst hok
    rw [hn.number] at hsome
    exact ⟨hinv, fun _ => hsome⟩
  | false =>
    rw [hl3] at hhw
    obtain ⟨hon, hq⟩ := hoff hl3
    subst hon
    -- nothing is done, or the router MAC of the interface it stands on
    have hsame : SameStats db (setAttrHw sdk db n.oid).2 := by
      unfold setAttrHw
      rw [hl]
      dsimp only
      rw [hn.oid, rifTypeOf_rifOid, ← hn.oid]
      split
      · exact .refl db
      next hbridge =>
      split
      · exact .refl db
      rcases hn.noL3if hl3 with hv | ht
      · rw [if_pos (hrv.trans hv)]
        exact hwRouterMac_sameStats sdk db _ r
      · refine absurd ⟨congrArg some ht, ?_⟩ hbridge
        unfold RifDb.checkHwExist
        rw [hhw, Bool.and_false]
    generalize setAttrHw sdk db n.oid = x at hsame
    obtain ⟨status, db'⟩ := x
    have hopen := h.sameStats hsame
    split
    · next hx =>
      cases hx
      refine ⟨hopen.closed ?_, nofun⟩
      unfold Quiet
      rw [hsame.rifs]
      exact hq
    next hx =>
    cases hx
    rw [hl3] at hopen
    exact rifFailed6_endsWell hs hn (by rw [hl3]; exact hopen) _ _

theorem RifNew.Named.gports_nil (hn : n.Named rc.lchip) (h : n.hasL3if = false) :
    n.gports sdk = [] := by
  unfold RifNew.gports
  rcases hn.noL3if h with hv | ht
  · rw [if_pos hv]
  · rw [hn.l3if, ht]
    simp [RifType.l3ifType]

theorem setDomains_of (hs : ∀ site, sdk.rc site = .none) {id : Nat} (hw : (db.l3ifs id).isSome)
    (xs : List (BitVec 32 × PortQosProp × L3ifProperty × (BitVec 32 → Option Nat))) :
    (setDomains sdk id db xs).1 = .success := by
  induction xs generalizing db with
  | nil => rfl
  | cons x xs ih =>
    obtain ⟨g, ask, p, value⟩ := x
    obtain ⟨hw', hl⟩ := Option.isSome_iff_exists.mp hw
    unfold setDomains setDomainStep
    rw [hs]
    cases value (sdk.portQos ask g) with
    | none => exact ih hw
    | some v =>
      dsimp only
      rw [setProperty_of hs db _ hl]
      refine ih ?_
      unfold RifDb.setL3if
      dsimp only
      rw [Function.update_self]
      rfl

theorem createDomains_staged (hs : ∀ site, sdk.rc site = .none) (hn : n.Named rc.lchip)
    (h : StatsInv db) (hw : n.hasL3if = true → (db.l3ifs n.id).isSome) :
    Staged StatsInv EndsWell (createDomains sdk db n) := by
  unfold createDomains
  split
  · have hsame := setDomains_sameStats sdk db n.id _ (@domainSteps_ne rc (n.gports sdk))
    have hok : (setDomains sdk n.id db ((n.gports sdk).flatMap fun g =>
        (domainSteps rc).map fun s => (g, s))).1 = .success := by
      cases hl3 : n.hasL3if with
      | true => exact setDomains_of hs (hw hl3) _
      | false =>
        rw [hn.gports_nil hl3]
        rfl
    generalize setDomains sdk n.id db ((n.gports sdk).flatMap fun g =>
      (domainSteps rc).map fun s => (g, s)) = x at hsame hok
    obtain ⟨status, db'⟩ := x
    subst hok
    exact h.sameStats hsame
  · exact h

/-- A record of a new interface: no ids, and the statistics off. -/
structure Rif.Fresh (r : Rif) (isVirtual : Bool) : Prop where
  isVirtual : r.isVirtual = isVirtual
  ing : r.ingStatsid = 0
  egs : r.egsStatsid = 0
  off : r.statsState = false

/-- A number was taken, and the object id is not known yet. -/
structure Numbered (db₀ db : RifDb rc) (t : RifType) (id : Nat) : Prop where
  id_lt : id < 2 ^ 16
  free : id ∉ db₀.numbers t
  numbers : ∀ u, db.numbers u = if u.vifBypass = t.vifBypass then insert id (db₀.numbers u)
    else db₀.numbers u
  rifs : db.rifs = db₀.rifs
  stats : db.stats = db₀.stats
  props : ∀ m, statsProps db m = statsProps db₀ m
  ports : db.ports = db₀.ports

theorem allocNumber_numbered {db₀ : RifDb rc} {t : RifType} {id : Nat}
    (h : db₀.allocNumber t = some (id, db)) : Numbered db₀ db t id := by
  unfold RifDb.allocNumber at h
  split at h
  · next ht =>
    obtain ⟨⟨i, p⟩, hp, he⟩ := Option.map_eq_some_iff.mp h
    cases he
    obtain ⟨hfresh, _, hlt, hused, _⟩ := Pool.alloc_some hp
    have htop := rc.vif_top
    refine ⟨by dsimp only; omega, ?_, fun u => ?_, rfl, rfl, fun _ => rfl, rfl⟩
    · unfold RifDb.numbers
      rw [ht]
      exact hfresh
    · unfold RifDb.numbers
      rw [ht]
      cases u.vifBypass <;> simp [hused]
  next ht =>
  have ht : t.vifBypass = false := by simpa using ht
  obtain ⟨⟨i, p⟩, hp, he⟩ := Option.map_eq_some_iff.mp h
  cases he
  obtain ⟨hfresh, _, hlt, hused, _⟩ := Pool.alloc_some hp
  have htop := rc.l3if_top
  refine ⟨by dsimp only; omega, ?_, fun u => ?_, rfl, rfl, fun _ => rfl, rfl⟩
  · unfold RifDb.numbers
    rw [ht]
    exact hfresh
  · unfold RifDb.numbers
    rw [ht]
    cases u.vifBypass <;> simp [hused]

variable {db₀ : RifDb rc} {t : RifType} {id : Nat}

theorem Numbered.added (h : Numbered db₀ db t id) (hinv : StatsInv db₀) {r : Rif}
    {isVirtual : Bool} (hr : r.Fresh isVirtual) :
    StatsInv (db.setRif (rifOid rc.lchip t id) r) := by
  refine hinv.added h.id_lt h.free hr.ing hr.off ?_ h.numbers h.stats h.props
  unfold RifDb.setRif
  rw [h.rifs]

theorem Numbered.lookup (h : Numbered db₀ db t id) (hinv : StatsInv db₀) :
    db.rifs.lookup (rifOid rc.lchip t id) = none := by
  rw [h.rifs]
  cases hl : db₀.rifs.lookup (rifOid rc.lchip t id) with
  | none => rfl
  | some x =>
    obtain ⟨u, m, he, hm, hmem⟩ := hinv.nums.named _ x hl
    obtain ⟨rfl, rfl⟩ := rifOid_inj h.id_lt hm he
    exact absurd hmem h.free

theorem setRif_setRif (db : RifDb rc) (oid : Oid) (r r' : Rif) :
    (db.setRif oid r).setRif oid r' = db.setRif oid r' := by
  unfold RifDb.setRif
  rw [AList.insert_insert]

theorem Numbered.opened (h : Numbered db₀ db t id) (hinv : StatsInv db₀) (hn : n.Named rc.lchip)
    (ht : n.t = t) (hid : n.id = id) (hs : sdk.Succeeds db₀) {r : Rif} (hr : r.Fresh n.isVirtual) :
    Opened sdk (db.setRif n.oid r) n false false ∧ Quiet (db.setRif n.oid r) n.oid := by
  subst ht hid
  have hadd := h.added hinv hr
  rw [← hn.oid] at hadd
  refine ⟨⟨hadd.flags fun o x hx => ?_, ?_, ?_, ?_⟩, ?_⟩
  · by_cases ho : o = n.oid
    · subst ho
      rw [lookup_setRif] at hx
      cases hx
      rw [openFlag_self]
      exact hr.off.symm
    · exact openFlag_of_ne false x ho
  · exact ⟨r, lookup_setRif .., hr.isVirtual, fun _ => hr.egs⟩
  · show (statsProps db n.id).isSome = false
    rw [h.props, hinv.no_hw hn.real h.free]
    rfl
  · have hst : (db.setRif n.oid r).stats = db₀.stats := h.stats
    intro _
    refine ⟨?_, ?_⟩
    · unfold FreshStats
      rw [hst]
      exact hs.createStats
    · unfold FreshStats
      rw [hst]
      exact hs.hwCreateStats
  · intro x hx
    rw [lookup_setRif] at hx
    cases hx
    exact hr.off

/-- The statistics of a new interface are on. -/
def statsStatus (attrs : List RifAttr) : Bool :=
  (findAttribInList RifAttr.customStatsState? attrs).getD true

/-- Creation turns the statistics on only where they can be: the attributes of
a bridge interface leave them off, and a port on which a record cannot be made
is not asked for an interface with statistics.  An interface without one of the
hardware has memory for its record. -/
structure RifCreateSound (sdk : RifSdk) (db : RifDb rc) (attrs : List RifAttr) : Prop where
  memory : ∀ t, (findAttribInList RifAttr.type? attrs).join = some t → t.vifBypass = true →
    sdk.mem .rif = true
  bridge : (findAttribInList RifAttr.type? attrs).join = some .bridge →
    (findAttribInList RifAttr.isVirtual? attrs).getD false = false →
    statsStatus attrs = false ∧ ∀ a ∈ attrs, a ≠ .customStatsState true
  port : (findAttribInList RifAttr.type? attrs).join = some .subPort →
    (findAttribInList RifAttr.isVirtual? attrs).getD false = false →
    isLinkaggPort (rifL3if sdk attrs .subPort).gport = false → statsStatus attrs = true →
    ∃ cnt, getPortDb sdk db (rifL3if sdk attrs .subPort).gport = .ok cnt

theorem createVirtual_staged (hs : ∀ site, sdk.rc site = .none) {r : Rif}
    (hr : r.Fresh n.isVirtual) (hinv : StatsInv db) :
    Staged (fun r : Rif => r.Fresh n.isVirtual) EndsWell (createVirtual sdk db n r) := by
  unfold createVirtual
  split
  · rw [hs, hs]
    dsimp only
    split
    · intro x hx
      cases hx
      exact hinv
    · exact ⟨hr.isVirtual, hr.ing, hr.egs, hr.off⟩
  · exact hr

theorem createReal_staged (hnum : Numbered db₀ db t id) (hinv : StatsInv db₀)
    (hn : n.Named rc.lchip) (ht : n.t = t) (hid : n.id = id) (hs : sdk.Succeeds db₀)
    (attrs : List RifAttr)
    (hbridge : n.t = .bridge → n.isVirtual = false →
      statsStatus attrs = false ∧ ∀ a ∈ attrs, a ≠ .customStatsState true)
    (hport : statsStatus attrs = true → n.isVirtual = false → n.l3if.l3ifType = some .subIf →
      isLinkaggPort n.l3if.gport = false → ∃ cnt, getPortDb sdk db₀ n.l3if.gport = .ok cnt) :
    Staged (fun x : RifResult rc => StatsInv x.db) EndsWell
      (createReal sdk (db.setRif n.oid .built) n attrs) := by
  have hread : (rifRead attrs n.t n.isVirtual).Fresh n.isVirtual := ⟨rfl, rfl, rfl, rfl⟩
  -- what `hasL3if` being false says of the attributes
  have hno : n.hasL3if = false → n.isVirtual = true ∨
      statsStatus attrs = false ∧ ∀ a ∈ attrs, a ≠ .customStatsState true := by
    intro hl3
    cases hv : n.isVirtual with
    | true => exact .inl rfl
    | false =>
      rcases hn.noL3if hl3 with h | h
      · rw [hv] at h
        cases h
      · exact .inr (hbridge h hv)
  unfold createReal
  dsimp only
  rw [setRif_setRif]
  refine (createVirtual_staged hs.rc hread ?_).bind fun r hr => ?_
  · subst ht hid
    rw [hn.oid]
    exact hnum.added hinv hread
  rw [setRif_setRif]
  obtain ⟨hopen, hq⟩ := hnum.opened hinv hn ht hid hs
    (r := { r with dot1dBridgeId := rifBridgeId attrs }) ⟨hr.isVirtual, hr.ing, hr.egs, hr.off⟩
  refine (createL3if_staged hs.rc hn hopen hq).bind fun db₁ h₁ => ?_
  have hhas : n.isVirtual = false → statsStatus attrs = true → n.hasL3if = true := by
    intro hv hon
    cases hl3 : n.hasL3if with
    | true => rfl
    | false =>
      rcases hno hl3 with h | h
      · rw [hv] at h
        cases h
      · rw [h.1] at hon
        cases hon
  refine (createStatsids_staged hs.rc hn h₁.1 h₁.2.1 hhas).bind fun db₂ h₂ => ?_
  refine (createPorts_staged hs.rc h₂.1 h₂.2.1 ?_).bind fun db₃ h₃ => ?_
  · have hports : db₂.ports = db₀.ports :=
      h₂.2.2.trans (h₁.2.2.trans hnum.ports)
    rw [getPortDb_congr hports]
    cases hst : statsStatus attrs <;> simp_all
  refine (createAttrs_staged hs.rc hn h₃.1 h₃.2 attrs ?_).bind fun db₄ h₄ => ?_
  · exact fun hl3 => (hno hl3).imp_right (·.2)
  refine (createHw_staged hs.rc hn h₄.1 fun hl3 => ⟨?_, h₄.2 hl3⟩).bind fun db₅ h₅ => ?_
  · rcases hno hl3 with h | h
    · rw [h]
      rfl
    · rw [h.1, Bool.and_false]
  exact (createDomains_staged hs.rc hn h₅.1 h₅.2).bind fun db₆ h₆ => h₆

/-- Creation, successful or not, keeps the ids as the flags say. -/
theorem createRif_inv {attrs : List RifAttr} {x : RifResult rc} (h : StatsInv db)
    (hs : sdk.Succeeds db) (hok : RifCreateSound sdk db attrs)
    (hx : createRif sdk db attrs = some x) : StatsInv x.db := by
  unfold createRif at hx
  split at hx
  · split at hx
    · cases hx
      exact h
    · next t ht =>
      split at hx
      · cases hx
        exact h
      next id db₁ halloc =>
      have hnum := allocNumber_numbered halloc
      dsimp only at hx
      have hbuild : db₁.build sdk (rifOid rc.lchip t id) =
          if sdk.mem .rif = false then .error .noMemory
          else .ok (db₁.setRif (rifOid rc.lchip t id) .built) := by
        unfold RifDb.build
        rw [hnum.lookup h]
        rfl
      rw [hbuild] at hx
      cases hmem : sdk.mem .rif with
      | false =>
        -- the number goes back to the pool it came from
        rw [hmem] at hx
        cases hx
        have hvif : t.vifBypass = false := by
          cases hv : t.vifBypass with
          | false => rfl
          | true =>
            have hm := hok.memory t ht hv
            rw [hmem] at hm
            cases hm
        unfold RifDb.allocNumber at halloc
        rw [hvif] at halloc
        obtain ⟨⟨i, p⟩, hp, he⟩ := Option.map_eq_some_iff.mp halloc
        cases he
        have hback := Pool.free_of_alloc hp
        unfold rifError1
        rw [hback]
        exact h
      | true =>
        rw [hmem, if_neg (by decide)] at hx
        dsimp only at hx
        have hbuilt : Rif.built.Fresh false := ⟨rfl, rfl, rfl, rfl⟩
        cases hvif : t.vifBypass with
        | true =>
          rw [hvif] at hx
          cases hx
          unfold createVif
          dsimp only
          rw [setRif_setRif]
          exact hnum.added h (⟨rfl, rfl, rfl, rfl⟩ : Rif.Fresh _ false)
        | false =>
          rw [hvif, if_neg (by decide)] at hx
          split at hx
          · -- IS_VIRTUAL on a chip that has none: the record goes
            cases hx
            have hb := hnum.added h hbuilt
            refine hb.dropped hnum.id_lt (lookup_setRif ..) rfl (fun u => ?_) ?_
              hb.stray fun m => ?_
            · unfold RifDb.numbers rifError2 rifError1 RifDb.setRif
              rw [hvif]
              cases u.vifBypass <;> simp
            · rfl
            · show statsProps db₁ m = _
              split
              · next hm =>
                rw [hm.2, hnum.props]
                exact h.no_hw hvif hnum.free
              · rfl
          · refine Staged.result (createReal_staged hnum h
              ⟨rfl, hnum.id_lt, hvif, rfl⟩ rfl rfl hs attrs ?_ ?_) hx
            · rintro rfl hv
              exact hok.bridge ht hv
            · intro hst hv hsub hlag
              have hsub : t.l3ifType = some .subIf := hsub
              have htsub : t = .subPort := by
                cases t <;> simp_all [RifType.l3ifType]
              subst htsub
              exact hok.port ht hv hlag hst
  · cases hx
    exact h

end Create

end CtcSai
