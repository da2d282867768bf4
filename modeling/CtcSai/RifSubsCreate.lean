/-
# `RifSubsCreate` — creation and the counts of sub-interfaces

Creation stores the record before it counts the interface, and the labels of
its roll-back take the record away again; a `Draft` is a state in between, whose
records already say one sub-interface more.  Up to the stage of the ports the
counts are those of before, from there on those of after.  A failure after that
stage undoes the count by `error6`, which is right only where it also took it
and no other sub-interface of the LAG is left.
-/
import CtcSai.RifSubs

namespace CtcSai

open IdPool KeyedTable Stages Table

variable {rc : RifChip}

/-! ## Records and their number -/

/-- Every record stands under the name of its type and its number. -/
def RifsNamed (db : RifDb rc) : Prop :=
  ∀ oid r, db.rifs.lookup oid = some r → ∃ t m, oid = rifOid rc.lchip t m ∧ m < 2 ^ 16 ∧
    (t.vifBypass = false → m ∈ Finset.Ico rc.l3if.lo (rc.l3if.lo + rc.l3if.size))

/-- The counts say how many sub-interfaces there are. -/
structure SubInv (db : RifDb rc) : Prop where
  named : RifsNamed db
  ok : SubsOk db db.subs

section Records

variable {db db' : RifDb rc} {oid : Oid}

theorem RifsNamed.subs_lt (h : RifsNamed db) (g : BitVec 32) : db.subs g < 2 ^ 16 := by
  have hsub : ∀ k r, db.rifs.lookup k = some r → isSubOn g k r = true → ∃ m,
      k = rifOid rc.lchip .subPort m ∧ m < 2 ^ 16 ∧
        m ∈ Finset.Ico rc.l3if.lo (rc.l3if.lo + rc.l3if.size) := by
    intro k r hl hp
    obtain ⟨t, m, rfl, hm, hin⟩ := h k r hl
    have ht : t = .subPort := by
      unfold isSubOn at hp
      rw [rifTypeOf_rifOid] at hp
      simp only [Bool.and_eq_true, decide_eq_true_eq] at hp
      exact Option.some.inj hp.1.1
    subst ht
    exact ⟨m, rfl, hm, hin rfl⟩
  have hcard : db.subs g ≤ (Finset.Ico rc.l3if.lo (rc.l3if.lo + rc.l3if.size)).card := by
    refine count_le_card (fun k _ => rifNumber k) ?_ ?_
    · intro k r hl hp
      obtain ⟨m, rfl, hm, hin⟩ := hsub k r hl hp
      rw [rifNumber_rifOid hm]
      exact hin
    · intro k k' r r' hl hl' hp hp' he
      obtain ⟨m, rfl, hm, _⟩ := hsub k r hl hp
      obtain ⟨m', rfl, hm', _⟩ := hsub k' r' hl' hp'
      rw [rifNumber_rifOid hm, rifNumber_rifOid hm'] at he
      rw [he]
  have hlo := rc.l3if_lo
  have htop := rc.l3if_top
  rw [Nat.card_Ico] at hcard
  omega

theorem subs_update {x : Option Rif}
    (h : Table.get db'.rifs = Function.update (Table.get db.rifs) oid x) (g : BitVec 32) :
    db'.subs g + unitAt (isSubOn g) oid (db.rifs.lookup oid) =
      db.subs g + unitAt (isSubOn g) oid x :=
  count_update h

theorem SameRif.get (h : SameRif oid db db') :
    Table.get db'.rifs = Function.update (Table.get db.rifs) oid (db'.rifs.lookup oid) := by
  funext o
  rw [Function.update_apply]
  split
  · next ho => rw [ho]; rfl
  · next ho => exact h.others o ho

theorem unitAt_congr {g : BitVec 32} {o o' : Option Rif}
    (h : o.map (fun r => (r.isVirtual, r.gport)) = o'.map (fun r => (r.isVirtual, r.gport))) :
    unitAt (isSubOn g) oid o = unitAt (isSubOn g) oid o' := by
  cases o with
  | none =>
    cases o' with
    | none => rfl
    | some r' => cases h
  | some r =>
    cases o' with
    | none => cases h
    | some r' =>
      simp only [Option.map_some, Option.some.injEq, Prod.mk.injEq] at h
      have hsame : isSubOn g oid r = isSubOn g oid r' := by
        unfold isSubOn
        rw [h.1, h.2]
      simp only [unitAt, Table.unit, Option.map_some, hsame]

theorem SameRif.subs_eq (h : SameRif oid db db') : db'.subs = db.subs := by
  funext g
  have hcount := subs_update h.get g
  rw [unitAt_congr h.own] at hcount
  omega

theorem SameRif.named (h : SameRif oid db db') (hn : RifsNamed db) : RifsNamed db' := by
  intro o r hl
  by_cases ho : o = oid
  · subst ho
    have hown := h.own
    rw [hl] at hown
    obtain ⟨x, hx, _⟩ := Option.map_eq_some_iff.mp hown.symm
    exact hn o x hx
  · rw [h.others o ho] at hl
    exact hn o r hl

theorem SubInv.sameRif (h : SubInv db) (hs : SameRif oid db db') : SubInv db' where
  named := hs.named h.named
  ok := by
    rw [hs.subs_eq]
    exact h.ok.same hs.subs

end Records

/-! ## A record in the making -/

/-- The interface is one that is counted. -/
def RifNew.isSub (n : RifNew) : Bool := n.t = .subPort && !n.isVirtual

/-- The numbers once the interface is counted. -/
def RifNew.after (n : RifNew) (m : BitVec 32 → Nat) : BitVec 32 → Nat :=
  if n.isSub then Function.update m n.l3if.gport (m n.l3if.gport + 1) else m

/-- The record is there, beside those that made up the numbers `m`. -/
structure Draft (db : RifDb rc) (n : RifNew) (m : BitVec 32 → Nat) : Prop where
  named : RifsNamed db
  record : ∃ r, db.rifs.lookup n.oid = some r ∧ r.isVirtual = n.isVirtual ∧
    r.gport = n.l3if.gport
  subs : db.subs = n.after m

section Draft

variable {db db' : RifDb rc} {n : RifNew} {m : BitVec 32 → Nat}

theorem Draft.sameRif (h : Draft db n m) (hs : SameRif n.oid db db') : Draft db' n m where
  named := hs.named h.named
  record := by
    obtain ⟨r, hl, hv, hg⟩ := h.record
    have hown := hs.own
    rw [hl] at hown
    obtain ⟨x, hx, he⟩ := Option.map_eq_some_iff.mp hown
    rw [Prod.mk.injEq] at he
    exact ⟨x, hx, he.1.trans hv, he.2.trans hg⟩
  subs := hs.subs_eq.trans h.subs

theorem RifNew.unitAt_record (hn : n.Named rc.lchip) {r : Rif} (hv : r.isVirtual = n.isVirtual)
    (hg : r.gport = n.l3if.gport) (g : BitVec 32) :
    m g + unitAt (isSubOn g) n.oid (some r) = n.after m g := by
  have htype : rifTypeOf n.oid = some n.t := by rw [hn.oid, rifTypeOf_rifOid]
  simp only [unitAt, Table.unit, isSubOn, Option.map_some, Option.getD_some, htype, hv, hg]
  unfold RifNew.after RifNew.isSub
  by_cases ht : n.t = .subPort
  · cases hvirt : n.isVirtual with
    | true => simp [ht]
    | false =>
      by_cases hgp : g = n.l3if.gport
      · subst hgp
        simp [ht]
      · have hgp' : ¬ n.l3if.gport = g := fun he => hgp he.symm
        simp [ht, hgp, hgp']
  · simp [ht]

theorem Draft.stored {db₀ : RifDb rc} (hn : n.Named rc.lchip) (hnamed : RifsNamed db₀)
    (hin : n.id ∈ Finset.Ico rc.l3if.lo (rc.l3if.lo + rc.l3if.size))
    (hfree : db₀.rifs.lookup n.oid = none) {r : Rif} (hv : r.isVirtual = n.isVirtual)
    (hg : r.gport = n.l3if.gport) : Draft (db₀.setRif n.oid r) n db₀.subs where
  named := by
    intro o x hl
    unfold RifDb.setRif at hl
    rcases of_lookup_insert hl with ⟨ho, -⟩ | ⟨-, hl⟩
    · exact ⟨n.t, n.id, ho.trans hn.oid, hn.id_lt, fun _ => hin⟩
    · exact hnamed o x hl
  record := ⟨r, lookup_setRif .., hv, hg⟩
  subs := by
    funext g
    have hcount := @subs_update rc db₀ (db₀.setRif n.oid r) n.oid (some r) (get_insert ..) g
    rw [hfree] at hcount
    rw [← n.unitAt_record hn hv hg]
    exact hcount

/-- The record goes, and what counts stays. -/
structure Erased (oid : Oid) (db db' : RifDb rc) : Prop where
  rifs : db'.rifs = db.rifs.erase oid
  subs : SameSubs db db'

/-- Without its record the interface is as if it had never been. -/
theorem Draft.erased (h : Draft db n m) (hn : n.Named rc.lchip) (hok : SubsOk db m)
    (he : Erased n.oid db db') : SubInv db' := by
  obtain ⟨r, hl, hv, hg⟩ := h.record
  have hsubs : db'.subs = m := by
    funext g
    have hget : Table.get db'.rifs = Function.update (Table.get db.rifs) n.oid none := by
      rw [he.rifs, get_erase]
    have hcount := subs_update hget g
    rw [hl, h.subs, ← n.unitAt_record hn hv hg] at hcount
    have hnone : unitAt (isSubOn g) n.oid none = 0 := rfl
    omega
  refine ⟨?_, ?_⟩
  · intro o x hx
    rw [he.rifs] at hx
    exact h.named o x (of_lookup_erase hx).2
  · rw [hsubs]
    exact hok.same he.subs

end Draft

/-! ## Roll-back -/

section Rollback

variable {db db' : RifDb rc} {n : RifNew} {m : BitVec 32 → Nat} {sdk : RifSdk}

theorem rifError2_erased (oid : Oid) (id : Nat) : Erased oid db (rifError2 db oid id) :=
  ⟨rfl, .of_eq rfl rfl rfl⟩

theorem rifError3_erased : Erased n.oid db (rifError3 sdk db n) := by
  unfold rifError3
  split
  · exact ⟨rfl, .of_eq rfl rfl rfl⟩
  · exact rifError2_erased n.oid n.id

theorem Erased.of_destroyStats {oid : Oid} {id : Nat}
    (h : Erased oid (db.destroyStats sdk id) db') : Erased oid db db' where
  rifs := by rw [h.rifs, destroyStats_rifs]
  subs := (@destroyStats_sameRif rc oid db sdk id).subs.trans h.subs

theorem rifError4_erased : Erased n.oid db (rifError4 sdk db n) :=
  rifError3_erased.of_destroyStats

theorem rifError5_erased : Erased n.oid db (rifError5 sdk db n) :=
  rifError4_erased.of_destroyStats

/-- What is known of a call that ends. -/
def SubsEnd (e : Option (RifResult rc)) : Prop := ∀ x, e = some x → SubInv x.db

theorem rifFailed_end {status : Status} (h : SubInv db) : SubsEnd (rifFailed status db) := by
  rintro x ⟨⟩
  exact h

/-- `ctcs_linkagg_get_member_ports` tells the members of the LAG; a port whose
first sub-interface it is is no member of a LAG. -/
def SubPortsKnown (sdk : RifSdk) (db : RifDb rc) (g : BitVec 32) (m : Nat) : Prop :=
  if isLinkaggPort g then ∀ x, x ∈ sdk.memberPorts ↔ db.IsMember g x
  else m = 0 → ∀ lag, isLinkaggPort lag = true → ¬ db.IsMember lag g

/-- `error6` may undo the count: a virtual interface has taken none, which is
right where the LAG has no record, and a real one is the only one of its LAG.
The hash is written off where no sub-interface is left.  A virtual interface on
a port is not asked for anything: there `error6` writes through NULL, and the
call is no step. -/
def SubUndoes (sdk : RifSdk) (db : RifDb rc) (g : BitVec 32) (isVirtual : Bool) (m : Nat) : Prop :=
  if isLinkaggPort g then
    if isVirtual then db.isBindingSubRif (lagOid rc.lchip g) = none
    else m = 0 ∧ ∀ x ∈ sdk.memberPorts, sdk.rc (.undoSclProperty x) = .none
  else isVirtual = false → m = 0 → sdk.rc (.undoSclProperty g) = .none

/-- What a sub-interface that is created finds. -/
structure SubFinds (sdk : RifSdk) (db : RifDb rc) (n : RifNew) (m : BitVec 32 → Nat) : Prop where
  known : n.isVirtual = false → SubPortsKnown sdk db n.l3if.gport (m n.l3if.gport)
  undoes : SubUndoes sdk db n.l3if.gport n.isVirtual (m n.l3if.gport)

theorem RifNew.after_undone (n : RifNew) (m : BitVec 32 → Nat) (h : n.isSub = true) :
    Function.update (n.after m) n.l3if.gport (m n.l3if.gport) = m := by
  unfold RifNew.after
  rw [if_pos h, Function.update_idem, Function.update_eq_self]

theorem RifNew.after_self (n : RifNew) (m : BitVec 32 → Nat) (h : n.isSub = true) :
    n.after m n.l3if.gport = m n.l3if.gport + 1 := by
  unfold RifNew.after
  rw [if_pos h, Function.update_self]

theorem RifNew.after_of_not (n : RifNew) (m : BitVec 32 → Nat) (h : n.isSub = false) :
    n.after m = m := by
  unfold RifNew.after
  rw [if_neg (by rw [h]; decide)]

theorem Draft.congr (h : Draft db n m) (hr : db'.rifs = db.rifs) : Draft db' n m := by
  have hsubs : db'.subs = db.subs := by
    unfold RifDb.subs
    rw [hr]
  refine ⟨?_, ?_, hsubs.trans h.subs⟩
  · unfold RifsNamed
    rw [hr]
    exact h.named
  · rw [hr]
    exact h.record

theorem Draft.error5 (h : Draft db n m) (hn : n.Named rc.lchip) (hok : SubsOk db m) :
    SubInv (rifError5 sdk db n) :=
  h.erased hn hok rifError5_erased

theorem RifNew.Named.subIf_iff (hn : n.Named rc.lchip) :
    n.l3if.l3ifType = some .subIf ↔ n.t = .subPort := by
  rw [hn.l3if]
  cases n.t <;> simp [RifType.l3ifType]

theorem RifNew.isSub_iff : n.isSub = true ↔ n.t = .subPort ∧ n.isVirtual = false := by
  unfold RifNew.isSub
  simp

theorem RifNew.Named.hasL3if (hn : n.Named rc.lchip) (ht : n.t = .subPort)
    (hv : n.isVirtual = false) : n.hasL3if = true := by
  unfold RifNew.hasL3if
  rw [hn.l3if, ht, hv]
  rfl

theorem RifNew.isSub_eq_false (h : n.t ≠ .subPort) : n.isSub = false := by
  unfold RifNew.isSub
  simp [h]

theorem RifNew.isSub_of_isVirtual (h : n.isVirtual = true) : n.isSub = false := by
  unfold RifNew.isSub
  simp [h]

theorem portWritesAll_rifs {f : PortRegs → PortRegs} {site : BitVec 32 → RifSite}
    (gs : List (BitVec 32)) : (portWritesAll sdk site f db gs).rifs = db.rifs :=
  (portWritesAll_sameStats sdk db site f gs).rifs

theorem sclOn_hash (x : PortRegs) :
    ({ x with sclPortSvlan := true } : PortRegs).sclPortSvlan = true := rfl

theorem sclOff_hash (x : PortRegs) :
    ({ x with sclPortSvlan := false } : PortRegs).sclPortSvlan = false := rfl

theorem phyIfEn_hash (v : Bool) (x : PortRegs) :
    ({ x with phyIfEn := v } : PortRegs).sclPortSvlan = x.sclPortSvlan := rfl

theorem SubsOk.port_down (hok : SubsOk db m) {g : BitVec 32} {k : Nat}
    (hg : isLinkaggPort g = false) (hm : m g = k + 1) {site : BitVec 32 → RifSite}
    (hno : k = 0 → ∀ lag, isLinkaggPort lag = true → ¬ db.IsMember lag g)
    (hs : k = 0 → sdk.rc (site g) = .none) :
    let d := db.setSubIfRefCnt g (db.subIfRefCnt g - 1)
    SubsOk (if db.subIfRefCnt g - 1 = 0 then
        portWritesAll sdk site (fun x => { x with sclPortSvlan := false }) d [g] else d)
      (Function.update m g k) := by
  have hcnt := hok.port g hg
  have hone : (1 : BitVec 32).toNat = 1 := rfl
  have hk : (db.subIfRefCnt g - 1).toNat = k := by
    rw [BitVec.toNat_sub, hcnt, hm]
    omega
  have hzero : db.subIfRefCnt g - 1 = 0 ↔ k = 0 := by
    rw [← hk]
    exact ⟨fun h => by rw [h]; rfl, fun h => BitVec.eq_of_toNat_eq h⟩
  rw [← hk]
  split
  · next hz =>
    have hk0 := hzero.mp hz
    refine hok.port_hash (v := false) hg (hno hk0) (by rw [hk, hk0]; decide) ?_
    refine portWritesAll_hash sdk sclOff_hash [g] fun x hx => ?_
    rw [List.mem_singleton.mp hx]
    exact hs hk0
  next hz =>
  refine hok.port_count hg ?_
  have hk0 := mt hzero.mpr hz
  omega

/-- `error6` undoes what the stage of the ports has done. -/
theorem Draft.error6 (h : Draft db n m) (hn : n.Named rc.lchip) (hok : SubsOk db (n.after m))
    (hf : n.t = .subPort → SubFinds sdk db n m) {d : RifDb rc}
    (hd : rifError6 sdk db n (n.gports sdk) = some d) : SubInv d := by
  unfold rifError6 at hd
  split at hd
  · -- a port interface has no sub-interface to undo
    next htype =>
      have ht : n.t ≠ .subPort := by
        intro ht
        rw [hn.subIf_iff.mpr ht] at htype
        cases htype
      rw [n.after_of_not m (n.isSub_eq_false ht)] at hok
      have hsame : SameRif n.oid db (portWritesAll sdk .undoPhyIfEn
          (fun x => { x with phyIfEn := false }) db (n.gports sdk)) :=
        portWritesAll_sameRif sdk (phyIfEn_hash false) _ _
      cases hd
      split
      · have hboth := hsame.trans (lagBindingRif_phyIf_sameRif n.l3if.gport false)
        exact (h.sameRif hboth).error5 hn (hok.same hboth.subs)
      · exact (h.sameRif hsame).error5 hn (hok.same hsame.subs)
  · next htype =>
    have ht := hn.subIf_iff.mp htype
    obtain ⟨hknown, hundo⟩ := hf ht
    unfold SubPortsKnown at hknown
    unfold SubUndoes at hundo
    cases hlag : isLinkaggPort n.l3if.gport with
    | true =>
      rw [hlag] at hd hknown hundo
      simp only [if_true] at hd hknown hundo
      cases hv : n.isVirtual with
      | true =>
        -- it took nothing, and the LAG has no record that could lose a count
        rw [hv] at hundo
        have hports : n.gports sdk = [] := by
          unfold RifNew.gports
          rw [if_pos hv]
        have hnone : db.lag.lag rc.lchip (lagOid rc.lchip n.l3if.gport) = none :=
          Option.map_eq_none_iff.mp hundo
        rw [n.after_of_not m (n.isSub_of_isVirtual hv)] at hok
        rw [hports] at hd
        unfold portWritesAll at hd
        rw [lagBindingRif_none hnone] at hd
        cases hd
        exact h.error5 hn hok
      | false =>
        rw [hv] at hundo
        have hsub := n.isSub_iff.mpr ⟨ht, hv⟩
        have hports : n.gports sdk = sdk.memberPorts := by
          unfold RifNew.gports
          rw [hv, hlag, htype]
          rfl
        obtain ⟨hzero, hwrites⟩ := hundo
        rw [hports] at hd
        have hw := @portWritesAll_hash rc db sdk _ false sclOff_hash .undoSclProperty
          sdk.memberPorts hwrites
        have hone : n.after m n.l3if.gport = 1 := by rw [n.after_self m hsub, hzero]
        have hundone := hok.lag_undo hlag hone (hknown hv) hw
        rw [← hzero, n.after_undone m hsub] at hundone
        cases hd
        refine (h.congr ?_).error5 hn hundone
        rw [(lagBindingRif_sameStats _ _ _ _).rifs, portWritesAll_rifs]
    | false =>
      rw [hlag] at hd hknown hundo
      cases hv : n.isVirtual with
      | true =>
        rw [hv] at hd
        cases hd
      | false =>
        rw [hv] at hd
        have hsub := n.isSub_iff.mpr ⟨ht, hv⟩
        have hdown := hok.port_down hlag (n.after_self m hsub) (hknown hv) (hundo hv)
        rw [n.after_undone m hsub] at hdown
        cases hp : db.ports (portOid rc.lchip n.l3if.gport) with
        | none =>
          rw [hp] at hd
          cases hd
        | some cnt =>
          have hcnt : db.subIfRefCnt n.l3if.gport = cnt := by
            unfold RifDb.subIfRefCnt
            rw [hp]
            rfl
          rw [hp] at hd
          rw [hcnt] at hdown
          cases hd
          refine (h.congr ?_).error5 hn hdown
          split
          · exact portWritesAll_rifs _
          · rfl
  · next h₁ h₂ =>
    have ht : n.t ≠ .subPort := fun ht => h₂ (hn.subIf_iff.mpr ht)
    rw [n.after_of_not m (n.isSub_eq_false ht)] at hok
    cases hd
    exact h.error5 hn hok

end Rollback

/-! ## The stage of the ports -/

/-- What a sub-interface that is not virtual finds when it is counted: the
record of its port, and an SDK that writes the hash where it has to be written,
and tells the members of the LAG if it tells any. -/
structure SubTakes (sdk : RifSdk) (db : RifDb rc) (g : BitVec 32) (m : Nat) : Prop where
  port : isLinkaggPort g = false → ∃ cnt, getPortDb sdk db g = .ok cnt
  known : (isLinkaggPort g = true → sdk.rc .getMemberPorts = .none) → SubPortsKnown sdk db g m
  writes : if isLinkaggPort g then
      sdk.rc .getMemberPorts = .none → ∀ x ∈ sdk.memberPorts, sdk.rc (.sclProperty x) = .none
    else m = 0 → sdk.rc (.sclProperty g) = .none

section Ports

variable {db db' : RifDb rc} {n : RifNew} {m : BitVec 32 → Nat} {sdk : RifSdk}

theorem getPortDb_eq {g cnt : BitVec 32} (h : getPortDb sdk db g = .ok cnt) :
    db.subIfRefCnt g = cnt := by
  unfold getPortDb at h
  unfold RifDb.subIfRefCnt
  cases hp : db.ports (portOid rc.lchip g) with
  | some c =>
    rw [hp] at h
    cases h
    rfl
  | none =>
    rw [hp] at h
    dsimp only at h
    split at h
    · split at h
      · cases h
      · split at h
        · cases h
          rfl
        · cases h
    · cases h

/-- What the stage of the ports leaves: the interface is counted. -/
structure PortsDone (sdk : RifSdk) (n : RifNew) (m : BitVec 32 → Nat) (db db' : RifDb rc) :
    Prop where
  draft : Draft db' n m
  ok : SubsOk db' (n.after m)
  same : SameStats db db'
  members : ∀ o, db'.lagMembers o = db.lagMembers o
  isVirtual : n.isVirtual = true → db' = db
  told : n.isSub = true → isLinkaggPort n.l3if.gport = true → sdk.rc .getMemberPorts = .none

theorem PortsDone.uncounted (hd : Draft db n m) (hok : SubsOk db m) (hsub : n.isSub = false)
    (hs : SameRif n.oid db db') (hst : SameStats db db') (hv : n.isVirtual = true → db' = db) :
    PortsDone sdk n m db db' where
  draft := hd.sameRif hs
  ok := by
    rw [n.after_of_not m hsub]
    exact hok.same hs.subs
  same := hst
  members := hs.subs.members
  isVirtual := hv
  told h _ := by
    rw [hsub] at h
    cases h

theorem createPortWrites_phyIf (hn : n.Named rc.lchip) (hd : Draft db n m) (hok : SubsOk db m)
    (hsub : n.isSub = false) (hv : n.isVirtual = false) {db₀ : RifDb rc}
    (hs : SameRif n.oid db₀ db) (hst : SameStats db₀ db) (hd₀ : Draft db₀ n m)
    (hok₀ : SubsOk db₀ m) (gs : List (BitVec 32)) :
    Staged (PortsDone sdk n m db₀) SubsEnd
      (createPortWrites sdk db n .phyIfEn (fun x => { x with phyIfEn := true }) gs) := by
  have hw : SameRif n.oid db (portWrites sdk .phyIfEn (fun x => { x with phyIfEn := true }) db gs).2 :=
    portWrites_sameRif sdk (phyIfEn_hash true) _ gs
  have hwst := portWrites_sameStats sdk db .phyIfEn (fun x => { x with phyIfEn := true }) gs
  unfold createPortWrites
  split
  · next db' hx =>
    rw [hx] at hw hwst
    refine PortsDone.uncounted hd₀ hok₀ hsub (hs.trans hw) (hst.trans hwst) fun hvirt => ?_
    rw [hv] at hvirt
    cases hvirt
  · next status db' _ hx =>
    rw [hx] at hw
    exact rifFailed_end ((hd.sameRif hw).error5 hn (hok.same hw.subs))

theorem createLagPorts_ok {t : L3ifType} (h : createLagPorts sdk db n t = .ok db') :
    sdk.rc .getMemberPorts = .none ∧ db' = lagBindingRif db n.l3if.gport true t := by
  unfold createLagPorts at h
  split at h
  · next hrc =>
    cases h
    exact ⟨mappingErrorCtc_eq_success.mp hrc, rfl⟩
  · cases h

theorem createLagPorts_staged_phyIf (hn : n.Named rc.lchip) (hd : Draft db n m)
    (hok : SubsOk db m) :
    Staged (fun d => SameRif n.oid db d ∧ SameStats db d) SubsEnd
      (createLagPorts sdk db n .phyIf) := by
  unfold createLagPorts
  split
  · exact ⟨lagBindingRif_phyIf_sameRif _ _, lagBindingRif_sameStats db _ _ _⟩
  · exact rifFailed_end (hd.error5 hn hok)

theorem createPorts_lag (hn : n.Named rc.lchip) (hd : Draft db n m) (hok : SubsOk db m)
    (hsub : n.isSub = true) (ht : n.l3if.l3ifType = some .subIf)
    (hlag : isLinkaggPort n.l3if.gport = true)
    (hc : SubTakes sdk db n.l3if.gport (m n.l3if.gport)) :
    Staged (PortsDone sdk n m db) SubsEnd
      ((createLagPorts sdk db n .subIf).bind fun db =>
        createPortWrites sdk db n .sclProperty (fun x => { x with sclPortSvlan := true })
          (n.gports sdk)) := by
  have hv := (n.isSub_iff.mp hsub).2
  have hports : n.gports sdk = sdk.memberPorts := by
    unfold RifNew.gports
    rw [hv, hlag, ht]
    rfl
  have hafter : n.after m = Function.update m n.l3if.gport (m n.l3if.gport + 1) := by
    unfold RifNew.after
    rw [if_pos hsub]
  have hlt : m n.l3if.gport + 1 < 2 ^ 16 := by
    have hnum := hd.named.subs_lt n.l3if.gport
    rw [hd.subs, n.after_self m hsub] at hnum
    exact hnum
  cases hx : createLagPorts sdk db n .subIf with
  | error e =>
    unfold createLagPorts at hx
    split at hx
    · cases hx
    · cases hx
      exact rifFailed_end (hd.error5 hn hok)
  | ok d =>
    obtain ⟨hrc, rfl⟩ := createLagPorts_ok hx
    have hknown := hc.known fun _ => hrc
    have hwrites := hc.writes
    unfold SubPortsKnown at hknown
    rw [if_pos hlag] at hknown hwrites
    obtain ⟨db', hr, hw⟩ := @portWrites_hash rc (lagBindingRif db n.l3if.gport true .subIf) sdk
      _ true sclOn_hash .sclProperty sdk.memberPorts (hwrites hrc)
    have hst := lagBindingRif_sameStats db n.l3if.gport true .subIf
    have hst' := portWrites_sameStats sdk (lagBindingRif db n.l3if.gport true .subIf)
      .sclProperty (fun x => { x with sclPortSvlan := true }) sdk.memberPorts
    show Staged _ _ (createPortWrites sdk (lagBindingRif db n.l3if.gport true .subIf) n
      .sclProperty (fun x => { x with sclPortSvlan := true }) (n.gports sdk))
    unfold createPortWrites
    rw [hports]
    rw [hr] at hst' ⊢
    refine ⟨hd.congr (hw.rifs.trans hst.rifs), ?_, hst.trans hst', ?_, ?_, fun _ _ => hrc⟩
    · rw [hafter]
      exact hok.lag_up hlag hlt hknown hw
    · obtain ⟨c, b, hcount, _⟩ := lagBindingRif_bind hlt (hok.lag n.l3if.gport)
      intro o
      rw [hw.members, hcount.members]
    · intro hvirt
      rw [hv] at hvirt
      cases hvirt

/-- The stage on a port whose record is there. -/
theorem createPorts_port (hd : Draft db n m) (hok : SubsOk db m)
    (hsub : n.isSub = true) (hlag : isLinkaggPort n.l3if.gport = false)
    (hc : SubTakes sdk db n.l3if.gport (m n.l3if.gport)) {cnt : BitVec 32}
    (hcnt : db.subIfRefCnt n.l3if.gport = cnt) :
    Staged (PortsDone sdk n m db) SubsEnd (let d := db.setSubIfRefCnt n.l3if.gport (cnt + 1)
      if cnt + 1 = 1 then
        createPortWrites sdk d n .sclProperty (fun x => { x with sclPortSvlan := true })
          [n.l3if.gport]
      else .ok d : RifStage rc (RifDb rc)) := by
  have hv := (n.isSub_iff.mp hsub).2
  have hno : n.isVirtual = true → ∀ d : RifDb rc, d = db := by
    intro hvirt
    rw [hv] at hvirt
    cases hvirt
  have hnolag : n.isSub = true → isLinkaggPort n.l3if.gport = true →
      sdk.rc .getMemberPorts = .none := by
    intro _ h
    rw [hlag] at h
    cases h
  have hknown := hc.known fun h => by
    rw [hlag] at h
    cases h
  have hwrites := hc.writes
  unfold SubPortsKnown at hknown
  rw [hlag] at hknown hwrites
  have hnum := hok.port n.l3if.gport hlag
  rw [hcnt] at hnum
  have hlt := hd.named.subs_lt n.l3if.gport
  rw [hd.subs, n.after_self m hsub] at hlt
  have hone : (1 : BitVec 32).toNat = 1 := rfl
  have hup : (cnt + 1).toNat = m n.l3if.gport + 1 := by
    rw [BitVec.toNat_add, hnum]
    omega
  have hfirst : cnt + 1 = 1 ↔ m n.l3if.gport = 0 := by
    refine ⟨fun h => ?_, fun h => BitVec.eq_of_toNat_eq ?_⟩
    · rw [h] at hup
      omega
    · rw [hup, h]
      rfl
  have hafter : n.after m = Function.update m n.l3if.gport (cnt + 1).toNat := by
    unfold RifNew.after
    rw [if_pos hsub, hup]
  have hst := setSubIfRefCnt_sameStats db n.l3if.gport (cnt + 1)
  dsimp only
  split
  · next hone =>
    have hz := hfirst.mp hone
    obtain ⟨db', hr, hw⟩ := @portWrites_hash rc (db.setSubIfRefCnt n.l3if.gport (cnt + 1)) sdk
      _ true sclOn_hash .sclProperty [n.l3if.gport] (fun x hx => by
        rw [List.mem_singleton.mp hx]
        exact hwrites hz)
    have hst' := portWrites_sameStats sdk (db.setSubIfRefCnt n.l3if.gport (cnt + 1))
      .sclProperty (fun x => { x with sclPortSvlan := true }) [n.l3if.gport]
    unfold createPortWrites
    rw [hr] at hst' ⊢
    refine ⟨hd.congr (hw.rifs.trans hst.rifs), ?_, hst.trans hst', hw.members,
      fun hvirt => hno hvirt _, hnolag⟩
    rw [hafter]
    exact hok.port_hash hlag (hknown hz)
      (by rw [hup]; exact ⟨fun _ => Nat.succ_pos _, fun _ => rfl⟩) hw
  · next hmore =>
    have hz := mt hfirst.mpr hmore
    refine ⟨hd.congr hst.rifs, ?_, hst, fun _ => rfl, fun hvirt => hno hvirt _, hnolag⟩
    rw [hafter]
    exact hok.port_count hlag (by omega)

theorem createPorts_subs (hn : n.Named rc.lchip) (hd : Draft db n m) (hok : SubsOk db m)
    (hc : n.isSub = true → SubTakes sdk db n.l3if.gport (m n.l3if.gport)) :
    Staged (PortsDone sdk n m db) SubsEnd (createPorts sdk db n) := by
  unfold createPorts
  split
  · next hv =>
    exact PortsDone.uncounted hd hok (n.isSub_of_isVirtual hv) (.refl _ db) (.refl db) fun _ => rfl
  next hv =>
  have hv : n.isVirtual = false := by simpa using hv
  split
  · next htype =>
    have hsub : n.isSub = false := by
      refine n.isSub_eq_false fun ht => ?_
      rw [hn.subIf_iff.mpr ht] at htype
      cases htype
    refine Staged.bind (P := fun d => SameRif n.oid db d ∧ SameStats db d) ?_ fun d hs => ?_
    · split
      · exact createLagPorts_staged_phyIf hn hd hok
      · exact ⟨.refl _ db, .refl db⟩
    · exact createPortWrites_phyIf hn (hd.sameRif hs.1) (hok.same hs.1.subs) hsub hv hs.1 hs.2
        hd hok (n.gports sdk)
  · next htype =>
    have hsub := n.isSub_iff.mpr ⟨hn.subIf_iff.mp htype, hv⟩
    cases hlag : isLinkaggPort n.l3if.gport with
    | true =>
      exact createPorts_lag hn hd hok hsub htype hlag (hc hsub)
    | false =>
      obtain ⟨cnt, hcnt⟩ := (hc hsub).port hlag
      rw [hcnt]
      exact createPorts_port hd hok hsub hlag (hc hsub) (getPortDb_eq hcnt)
  next h₁ h₂ =>
  have hsub : n.isSub = false :=
    n.isSub_eq_false fun ht => h₂ (hn.subIf_iff.mpr ht)
  exact PortsDone.uncounted hd hok hsub (.refl _ db) (.refl db) fun _ => rfl

end Ports

/-! ## The stages after the ports -/

/-- The calls of the SDK that come after the ports, and those that give an
interface its statistics ids before. -/
def RifSite.isLate : RifSite → Bool
  | .propStats _ | .hwProp _ | .hwCreateStats _ | .hwPropStats _ | .hwZeroRouterMac
  | .hwRouterMac | .portQos _ _ | .domainProp _ _ => true
  | _ => false

/-- Nothing after the ports is refused: the SDK accepts the calls, the
attribute loop the attributes; a virtual interface stands on one that the
hardware has, and ids for statistics that are turned on late are free. -/
structure LatePasses (sdk : RifSdk) (db : RifDb rc) (attrs : List RifAttr) (isVirtual : Bool) :
    Prop where
  calls : ∀ site, site.isLate = true → sdk.rc site = .none
  loop : (rifAttrLoop { Rif.built with isVirtual := isVirtual } (attrs.take 256)).1 = .success
  base : isVirtual = true → (db.l3ifs sdk.actualL3ifId.toNat).isSome
  stats : isVirtual = false → statsStatus attrs = false → FreshStats db sdk .hwCreateStats

/-- The interface whose router MAC is written. -/
def RifNew.macId (n : RifNew) (r : Rif) : Nat := if n.isVirtual then r.actualL3ifId else n.id

/-- The hardware and the record are such that the attributes can be written. -/
structure LateReady (sdk : RifSdk) (db : RifDb rc) (n : RifNew) (r : Rif) : Prop where
  record : db.rifs.lookup n.oid = some r
  isVirtual : r.isVirtual = n.isVirtual
  hw : (db.l3ifs (n.macId r)).isSome
  stats : n.isVirtual = false → r.ingStatsid ≠ 0 ∨ FreshStats db sdk .hwCreateStats

section Late

variable {db db' : RifDb rc} {n : RifNew} {m : BitVec 32 → Nat} {sdk : RifSdk} {r : Rif}

theorem LateReady.sameStats (h : LateReady sdk db n r) (hs : SameStats db db') :
    LateReady sdk db' n r where
  record := by
    rw [hs.rifs]
    exact h.record
  isVirtual := h.isVirtual
  hw := by
    rw [← isSome_statsProps, hs.props, isSome_statsProps]
    exact h.hw
  stats hv := (h.stats hv).imp_right fun hf => hf.sameStats hs

/-- The roll-back of a sub-interface undoes the right thing, or else `P`. -/
def UndoneOr (sdk : RifSdk) (db : RifDb rc) (n : RifNew) (m : BitVec 32 → Nat) (P : Prop) : Prop :=
  n.t = .subPort → SubFinds sdk db n m ∨ P

theorem failed6_end (hn : n.Named rc.lchip) (hd : Draft db n m) (hok : SubsOk db (n.after m))
    (hf : n.t = .subPort → SubFinds sdk db n m) (status : Status) :
    SubsEnd (rifFailed6 sdk db status n (n.gports sdk)) := by
  intro x hx
  obtain ⟨d, hd', hx⟩ := Option.bind_eq_some_iff.mp hx
  cases hx
  exact hd.error6 hn hok hf hd'

theorem SubFinds.congr (h : SubFinds sdk db n m) (hm : ∀ o, db'.lagMembers o = db.lagMembers o)
    (hf : n.isVirtual = true → ∀ o, db'.isBindingSubRif o = db.isBindingSubRif o) :
    SubFinds sdk db' n m where
  known hv := by
    have hk := h.known hv
    unfold SubPortsKnown RifDb.IsMember at *
    simp only [hm]
    exact hk
  undoes := by
    have hu := h.undoes
    unfold SubUndoes at *
    cases hv : n.isVirtual with
    | true =>
      rw [hv] at hu
      rw [hf hv]
      exact hu
    | false =>
      rw [hv] at hu
      simpa using hu

/-- The attribute loop keeps what an interface is counted by, and whose router
MAC it writes. -/
theorem rifAttrLoop_place (r : Rif) (attrs : List RifAttr) :
    (rifAttrLoop r attrs).2.gport = r.gport ∧
      (rifAttrLoop r attrs).2.actualL3ifId = r.actualL3ifId := by
  have hset : ∀ {r r' : Rif} {a : RifAttr}, r.setAttr a = .ok r' →
      r'.gport = r.gport ∧ r'.actualL3ifId = r.actualL3ifId := by
    intro r r' a h
    cases a <;> simp only [Rif.setAttr] at h <;> (try split at h) <;> (try split at h) <;>
      cases h <;> exact ⟨rfl, rfl⟩
  fun_induction rifAttrLoop r attrs with
  | case1 r => exact ⟨rfl, rfl⟩
  | case2 r _ rest ih | case3 r _ rest ih => exact ih
  | case4 r a rest _ _ r' ha ih => exact ⟨ih.1.trans (hset ha).1, ih.2.trans (hset ha).2⟩
  | case5 r a rest _ _ status _ => exact ⟨rfl, rfl⟩

/-- Whether an attribute is taken depends on the record only in whether it is
virtual. -/
theorem setAttr_congr {r r' : Rif} (hv : r'.isVirtual = r.isVirtual) (a : RifAttr) :
    (∃ status, r.setAttr a = .error status ∧ r'.setAttr a = .error status) ∨
      ∃ x x', r.setAttr a = .ok x ∧ r'.setAttr a = .ok x' ∧ x'.isVirtual = x.isVirtual := by
  cases a <;> simp only [Rif.setAttr, hv] <;> (try split) <;> (try split) <;> simp [hv]

theorem rifAttrLoop_congr {r r' : Rif} (hv : r'.isVirtual = r.isVirtual) (attrs : List RifAttr) :
    (rifAttrLoop r' attrs).1 = (rifAttrLoop r attrs).1 := by
  fun_induction rifAttrLoop r attrs generalizing r' with
  | case1 r => rfl
  | case2 r _ rest ih | case3 r _ rest ih => exact ih hv
  | case4 r a rest h₁ h₂ r₁ ha ih =>
    rcases setAttr_congr hv a with ⟨status, he, _⟩ | ⟨x, x', hx, hx', hv'⟩
    · rw [ha] at he
      cases he
    rw [ha] at hx
    cases hx
    rw [rifAttrLoop.eq_4 r' a rest h₁ h₂, hx']
    exact ih hv'
  | case5 r a rest h₁ h₂ status ha =>
    rcases setAttr_congr hv a with ⟨status', he, he'⟩ | ⟨x, x', hx, _, _⟩
    · rw [ha] at he
      cases he
      rw [rifAttrLoop.eq_4 r' a rest h₁ h₂, he']
    · rw [ha] at hx
      cases hx

/-! ### What passes -/

theorem setProperty_passes {site : RifSite} (hs : sdk.rc site = .none) {id : Nat}
    (hw : (db.l3ifs id).isSome) (p : L3ifProperty) (v : Nat) :
    ∃ x, db.setProperty sdk site id p v = (.none, db.setL3if id (some x)) := by
  obtain ⟨hw', hl⟩ := Option.isSome_iff_exists.mp hw
  unfold RifDb.setProperty
  rw [hs, hl]
  exact ⟨_, rfl⟩

theorem setRouterMac_passes {site : RifSite} (hs : sdk.rc site = .none) {id : Nat}
    (hw : (db.l3ifs id).isSome) (f : List Mac → List Mac) :
    ∃ x, db.setRouterMac sdk site id f = (.none, db.setL3if id (some x)) := by
  obtain ⟨hw', hl⟩ := Option.isSome_iff_exists.mp hw
  unfold RifDb.setRouterMac
  rw [hs, hl]
  exact ⟨_, rfl⟩

theorem createStats_passes {site : RifSite} (hs : sdk.rc site = .none)
    (hr : sdk.statsId site ∈ Finset.Ico rc.stats.lo (rc.stats.lo + rc.stats.size))
    (hf : sdk.statsId site ∉ db.stats.used) :
    ∃ p, db.createStats sdk site = some (sdk.statsId site, { db with stats := p }) ∧
      p.used = insert (sdk.statsId site) db.stats.used := by
  unfold RifDb.createStats
  rw [if_pos hs]
  unfold Pool.reserve
  rw [dif_pos hr, if_neg hf]
  exact ⟨_, rfl, rfl⟩

theorem setL3if_self (id : Nat) (x : L3ifHw) : ((db.setL3if id (some x)).l3ifs id).isSome := by
  unfold RifDb.setL3if
  dsimp only
  rw [Function.update_self]
  rfl

theorem setProperties_passes (hs : ∀ p, sdk.rc (.hwProp p) = .none) {id : Nat}
    (ps : List (L3ifProperty × Nat)) (hw : (db.l3ifs id).isSome) :
    ∃ d, setProperties sdk id db ps = (.success, d) ∧ (d.l3ifs id).isSome ∧ d.rifs = db.rifs ∧
      d.stats = db.stats := by
  induction ps generalizing db with
  | nil => exact ⟨db, rfl, hw, rfl, rfl⟩
  | cons x ps ih =>
    obtain ⟨y, hy⟩ := setProperty_passes (hs x.1) hw x.1 x.2
    obtain ⟨d, hd, hsome, hr, hst⟩ := ih (setL3if_self id y)
    unfold setProperties
    rw [hy]
    exact ⟨d, hd, hsome, hr, hst⟩

theorem hwRouterMac_passes (hn : n.Named rc.lchip) (hz : sdk.rc .hwZeroRouterMac = .none)
    (hm : sdk.rc .hwRouterMac = .none) (hv : r.isVirtual = n.isVirtual)
    (hw : (db.l3ifs (n.macId r)).isSome) : (hwRouterMac sdk db n.oid r).1 = .success := by
  unfold RifNew.macId at hw
  unfold hwRouterMac
  rw [hv, hn.number]
  cases hvirt : n.isVirtual with
  | true =>
    rw [hvirt] at hw
    simp only [if_true] at hw ⊢
    split
    · obtain ⟨x, hx⟩ := setRouterMac_passes hm hw (· ++ [r.srcMac])
      rw [hx]
      rfl
    obtain ⟨x, hx⟩ := setRouterMac_passes hz hw fun _ => [0]
    obtain ⟨y, hy⟩ := setRouterMac_passes hm (@setL3if_self rc db r.actualL3ifId x)
      fun _ => [0, r.srcMac]
    rw [hx]
    dsimp only
    rw [hy]
    rfl
  | false =>
    rw [hvirt] at hw
    simp only [Bool.false_eq_true, if_false] at hw ⊢
    obtain ⟨x, hx⟩ := setRouterMac_passes hm hw fun _ => [r.srcMac]
    rw [hx]
    rfl

theorem hwStatsOn_passes (hc : ∀ e, sdk.rc (.hwCreateStats e) = .none)
    (hp : ∀ e, sdk.rc (.hwPropStats e) = .none) (hf : FreshStats db sdk .hwCreateStats)
    (oid : Oid) {id : Nat} (hw : (db.l3ifs id).isSome) :
    ∃ d, hwStatsOn sdk db oid r id = (.success, d) ∧ (d.l3ifs id).isSome := by
  obtain ⟨hfresh, hne⟩ := hf
  obtain ⟨p, h₁, hused⟩ := createStats_passes (hc false) (hfresh false).1 (hfresh false).2
  obtain ⟨x, h₂⟩ := @setProperty_passes rc { db with stats := p } sdk _ (hp false) id hw .stats
    (sdk.statsId (.hwCreateStats false))
  have hw₂ : ((({ db with stats := p } : RifDb rc).setL3if id (some x)).l3ifs id).isSome :=
    setL3if_self id x
  have hst₂ : (({ db with stats := p } : RifDb rc).setL3if id (some x)).stats = p := rfl
  generalize ({ db with stats := p } : RifDb rc).setL3if id (some x) = d₂ at h₂ hw₂ hst₂
  let r₂ : Rif := { r with ingStatsid := sdk.statsId (.hwCreateStats false) }
  have hfree : sdk.statsId (.hwCreateStats true) ∉ (d₂.setRif oid r₂).stats.used := by
    show _ ∉ d₂.stats.used
    rw [hst₂, hused, Finset.mem_insert, not_or]
    exact ⟨hne.symm, (hfresh true).2⟩
  obtain ⟨q, h₃, _⟩ := createStats_passes (hc true) (hfresh true).1 hfree
  obtain ⟨y, h₄⟩ := @setProperty_passes rc { d₂.setRif oid r₂ with stats := q } sdk _ (hp true) id
    hw₂ .egsStats (sdk.statsId (.hwCreateStats true))
  unfold hwStatsOn
  rw [h₁]
  dsimp only
  rw [h₂]
  dsimp only
  rw [h₃]
  dsimp only
  rw [h₄]
  exact ⟨_, rfl, setL3if_self id y⟩

theorem hwStats_passes (hc : ∀ e, sdk.rc (.hwCreateStats e) = .none)
    (hp : ∀ e, sdk.rc (.hwPropStats e) = .none)
    (hf : r.ingStatsid ≠ 0 ∨ FreshStats db sdk .hwCreateStats)
    (oid : Oid) {id : Nat} (hw : (db.l3ifs id).isSome) :
    ∃ d, hwStats sdk db oid r id = (.success, d) ∧ (d.l3ifs id).isSome := by
  unfold hwStats
  split
  · next hon =>
    have hf : FreshStats db sdk .hwCreateStats := by
      refine hf.resolve_left fun hne => ?_
      simp [hne] at hon
    exact hwStatsOn_passes hc hp hf oid hw
  split
  · refine ⟨_, rfl, ?_⟩
    have h₁ := @destroyStats_sameRif rc oid db sdk r.ingStatsid
    have h₂ := @destroyStats_sameRif rc oid (db.destroyStats sdk r.ingStatsid) sdk r.egsStatsid
    have h₃ := h₁.trans (h₂.trans (setProperty_sameRif sdk (.hwClearStats false) id .stats 0))
    have h₄ := h₃.trans (setProperty_sameRif sdk (.hwClearStats true) id .egsStats 0)
    exact (h₄.hw id).trans hw
  · exact ⟨db, rfl, hw⟩

theorem setAttrHw_passes (hn : n.Named rc.lchip) (ht : n.t = .subPort)
    (hc : ∀ site, site.isLate = true → sdk.rc site = .none) (h : LateReady sdk db n r) :
    (setAttrHw sdk db n.oid).1 = .success := by
  have htype : rifTypeOf n.oid = some .subPort := by rw [hn.oid, rifTypeOf_rifOid, ht]
  have hmac : ∀ d : RifDb rc, (d.l3ifs (n.macId r)).isSome →
      (hwRouterMac sdk d n.oid r).1 = .success := fun d hd =>
    hwRouterMac_passes hn (hc _ rfl) (hc _ rfl) h.isVirtual hd
  unfold setAttrHw
  rw [h.record, htype]
  dsimp only
  rw [if_neg (by simp), if_neg (by simp), h.isVirtual]
  split
  · exact hmac db h.hw
  next hv =>
  have hv : n.isVirtual = false := by simpa using hv
  have hid : n.macId r = n.id := by
    unfold RifNew.macId
    rw [hv]
    rfl
  have hw := h.hw
  rw [hid] at hw hmac
  rw [hn.number]
  obtain ⟨d, hd, hsome, hr, hst⟩ := setProperties_passes (fun p => hc (.hwProp p) rfl) r.hwProps hw
  rw [hd]
  have hf : r.ingStatsid ≠ 0 ∨ FreshStats d sdk .hwCreateStats := by
    refine (h.stats hv).imp_right fun hf => ?_
    unfold FreshStats
    rw [hst]
    exact hf
  obtain ⟨d', hd', hsome'⟩ := hwStats_passes (fun e => hc (.hwCreateStats e) rfl)
    (fun e => hc (.hwPropStats e) rfl) hf n.oid hsome
  dsimp only
  rw [hd']
  exact hmac d' hsome'

theorem setDomains_passes (hc : ∀ site, site.isLate = true → sdk.rc site = .none) {id : Nat}
    (hw : (db.l3ifs id).isSome)
    (xs : List (BitVec 32 × PortQosProp × L3ifProperty × (BitVec 32 → Option Nat))) :
    (setDomains sdk id db xs).1 = .success := by
  induction xs generalizing db with
  | nil => rfl
  | cons x xs ih =>
    obtain ⟨g, ask, p, value⟩ := x
    unfold setDomains setDomainStep
    rw [hc (.portQos ask g) rfl]
    cases value (sdk.portQos ask g) with
    | none => exact ih hw
    | some v =>
      obtain ⟨y, hy⟩ := setProperty_passes (hc (.domainProp p g) rfl) hw p v
      dsimp only
      rw [hy]
      exact ih (setL3if_self id y)

/-! ### The stages -/

/-- The interface is counted, and its record is there. -/
structure SubCounted (db : RifDb rc) (n : RifNew) (m : BitVec 32 → Nat) : Prop where
  draft : Draft db n m
  ok : SubsOk db (n.after m)

theorem SubCounted.sameRif (h : SubCounted db n m) (hs : SameRif n.oid db db') : SubCounted db' n m :=
  ⟨h.draft.sameRif hs, h.ok.same hs.subs⟩

theorem SubCounted.inv (h : SubCounted db n m) : SubInv db where
  named := h.draft.named
  ok := by
    rw [h.draft.subs]
    exact h.ok

theorem SubFinds.sameSubs (h : SubFinds sdk db n m) (hs : SameSubs db db') : SubFinds sdk db' n m :=
  h.congr hs.members fun _ => hs.flags

variable {db₀ : RifDb rc} {attrs : List RifAttr}

theorem createAttrs_subs (hn : n.Named rc.lchip) (hc : SubCounted db n m) (ha : UndoneOr sdk db n m
      (LatePasses sdk db₀ attrs n.isVirtual ∧ ∃ r, LateReady sdk db n r)) :
    Staged (fun db' => SubCounted db' n m ∧ UndoneOr sdk db' n m
      (LatePasses sdk db₀ attrs n.isVirtual ∧ ∃ r, LateReady sdk db' n r))
      SubsEnd (createAttrs sdk db n attrs) := by
  obtain ⟨r, hl, hrv, hrg⟩ := hc.draft.record
  obtain ⟨hv, hi, _⟩ := rifAttrLoop_keeps r (attrs.take 256)
  obtain ⟨hg, hact⟩ := rifAttrLoop_place r (attrs.take 256)
  have hloop := @rifAttrLoop_congr { Rif.built with isVirtual := n.isVirtual } r hrv
    (attrs.take 256)
  -- the record that the loop leaves, whatever it says of the MAC address
  have hset : ∀ r' : Rif, r'.isVirtual = r.isVirtual → r'.gport = r.gport →
      SameRif n.oid db (db.setRif n.oid r') := fun r' h₁ h₂ => setRif_sameRif hl h₁ h₂
  have hready : ∀ r' : Rif, r'.isVirtual = r.isVirtual → r'.gport = r.gport →
      r'.ingStatsid = r.ingStatsid → r'.actualL3ifId = r.actualL3ifId →
      UndoneOr sdk (db.setRif n.oid r') n m
        (LatePasses sdk db₀ attrs n.isVirtual ∧ ∃ x, LateReady sdk (db.setRif n.oid r') n x) := by
    intro r' h₁ h₂ h₃ h₄ ht
    refine (ha ht).imp (fun hf => hf.sameSubs (hset r' h₁ h₂).subs) ?_
    rintro ⟨hp, x, hx⟩
    have hxr : x = r := by
      have hrec := hx.record
      rw [hl] at hrec
      exact (Option.some.inj hrec).symm
    subst hxr
    refine ⟨hp, r', lookup_setRif .., h₁.trans hrv, ?_, fun hvirt => ?_⟩
    · have hid : n.macId r' = n.macId x := by
        unfold RifNew.macId
        rw [h₄]
      rw [hid]
      exact hx.hw
    · rw [h₃]
      exact hx.stats hvirt
  unfold createAttrs
  rw [hl]
  dsimp only
  generalize rifAttrLoop r (attrs.take 256) = x at hv hi hg hact hloop
  obtain ⟨status, r'⟩ := x
  split
  · next r'' hx =>
    cases hx
    split
    · intro y hy
      cases hy
    refine ⟨hc.sameRif (hset _ ?_ ?_), hready _ ?_ ?_ ?_ ?_⟩
    · split <;> exact hv
    · split <;> exact hg
    · split <;> exact hv
    · split <;> exact hg
    · split <;> exact hi
    · split <;> exact hact
  next status' r'' hne hx =>
  cases hx
  refine failed6_end hn (hc.sameRif (hset r' hv hg)).draft (hc.sameRif (hset r' hv hg)).ok
    (fun ht => ?_) status
  refine (hready r' hv hg hi hact ht).resolve_right ?_
  rintro ⟨hp, _⟩
  exact hne (hloop.trans hp.loop)

theorem createHw_subs (hn : n.Named rc.lchip) (hc : SubCounted db n m) (ha : UndoneOr sdk db n m
      (LatePasses sdk db₀ attrs n.isVirtual ∧ ∃ r, LateReady sdk db n r)) :
    Staged (fun db' => SubCounted db' n m ∧ UndoneOr sdk db' n m
      (LatePasses sdk db₀ attrs n.isVirtual ∧ (n.isVirtual = false → (db'.l3ifs n.id).isSome)))
      SubsEnd (createHw sdk db n) := by
  have hsame : SameRif n.oid db (setAttrHw sdk db n.oid).2 := setAttrHw_sameRif sdk
  have hpass : n.t = .subPort → ∀ r, LatePasses sdk db₀ attrs n.isVirtual →
      LateReady sdk db n r → (setAttrHw sdk db n.oid).1 = .success :=
    fun ht r hp hr => setAttrHw_passes hn ht hp.calls hr
  unfold createHw
  generalize setAttrHw sdk db n.oid = x at hsame hpass
  obtain ⟨status, db'⟩ := x
  split
  · next hx =>
    cases hx
    refine ⟨hc.sameRif hsame, fun ht => ?_⟩
    refine (ha ht).imp (fun hf => hf.sameSubs hsame.subs) ?_
    rintro ⟨hp, r, hr⟩
    refine ⟨hp, fun hv => ?_⟩
    have hw := hr.hw
    unfold RifNew.macId at hw
    rw [hv] at hw
    exact (hsame.hw n.id).trans hw
  next hne hx =>
  cases hx
  refine failed6_end hn (hc.sameRif hsame).draft (hc.sameRif hsame).ok (fun ht => ?_) status
  rcases ha ht with hf | ⟨hp, r, hr⟩
  · exact hf.sameSubs hsame.subs
  · exact absurd (hpass ht r hp hr) hne

theorem createDomains_subs (hn : n.Named rc.lchip) (hc : SubCounted db n m)
    (ha : UndoneOr sdk db n m
      (LatePasses sdk db₀ attrs n.isVirtual ∧ (n.isVirtual = false → (db.l3ifs n.id).isSome))) :
    Staged (fun db' => SubCounted db' n m) SubsEnd (createDomains sdk db n) := by
  unfold createDomains
  split
  · have hsame := @setDomains_sameRif rc n.oid db sdk n.id
      ((n.gports sdk).flatMap fun g => (domainSteps rc).map fun s => (g, s))
    have hpass : n.t = .subPort → LatePasses sdk db₀ attrs n.isVirtual →
        (n.isVirtual = false → (db.l3ifs n.id).isSome) →
        (setDomains sdk n.id db ((n.gports sdk).flatMap fun g =>
          (domainSteps rc).map fun s => (g, s))).1 = .success := by
      intro _ hp hw
      cases hv : n.isVirtual with
      | true =>
        have hnil : n.gports sdk = [] := by
          unfold RifNew.gports
          rw [if_pos hv]
        rw [hnil]
        rfl
      | false => exact setDomains_passes hp.calls (hw hv) _
    generalize setDomains sdk n.id db ((n.gports sdk).flatMap fun g =>
      (domainSteps rc).map fun s => (g, s)) = x at hsame hpass
    obtain ⟨status, db'⟩ := x
    split
    · next hx =>
      cases hx
      exact hc.sameRif hsame
    next hne hx =>
    cases hx
    refine failed6_end hn (hc.sameRif hsame).draft (hc.sameRif hsame).ok (fun ht => ?_) status
    rcases ha ht with hf | ⟨hp, hw⟩
    · exact hf.sameSubs hsame.subs
    · exact absurd (hpass ht hp hw) hne
  · exact hc

end Late

/-! ## The stages before the ports -/

section Early

variable {db db' : RifDb rc} {n : RifNew} {m : BitVec 32 → Nat} {sdk : RifSdk}

/-- A draft whose counts are those of before. -/
structure SubUncounted (db : RifDb rc) (n : RifNew) (m : BitVec 32 → Nat) : Prop where
  draft : Draft db n m
  ok : SubsOk db m

theorem SubUncounted.sameRif (h : SubUncounted db n m) (hs : SameRif n.oid db db') :
    SubUncounted db' n m :=
  ⟨h.draft.sameRif hs, h.ok.same hs.subs⟩

theorem createVirtual_subs (hn : n.Named rc.lchip) (h : SubUncounted db n m) (r : Rif) :
    Staged (fun r' : Rif => r'.isVirtual = r.isVirtual ∧ r'.gport = r.gport ∧
      (n.isVirtual = true → r'.actualL3ifId = sdk.actualL3ifId.toNat)) SubsEnd
      (createVirtual sdk db n r) := by
  have hfail : ∀ status, SubsEnd (rifFailed status (rifError2 db n.oid n.id)) := fun status =>
    rifFailed_end (h.draft.erased hn h.ok (rifError2_erased n.oid n.id))
  unfold createVirtual
  split
  · next hv =>
    split
    · split
      · split
        · -- the record stays, and a virtual interface is not counted
          rintro x ⟨⟩
          have hafter := n.after_of_not m (n.isSub_of_isVirtual hv)
          refine SubCounted.inv ⟨h.draft, ?_⟩
          rw [hafter]
          exact h.ok
        · exact ⟨rfl, rfl, fun _ => rfl⟩
      · exact hfail _
    · exact hfail _
  · next hv => exact ⟨rfl, rfl, fun hvirt => absurd hvirt hv⟩

/-- What the stage of the hardware interface leaves. -/
structure L3ifDone (n : RifNew) (db db' : RifDb rc) : Prop where
  subs : SameSubs db db'
  rifs : db'.rifs = db.rifs
  stats : db'.stats = db.stats
  there : n.hasL3if = true → (db'.l3ifs n.id).isSome
  other : n.hasL3if = false → db'.l3ifs = db.l3ifs

theorem createL3if_subs (hn : n.Named rc.lchip) (h : SubUncounted db n m) :
    Staged (L3ifDone n db) SubsEnd (createL3if sdk db n) := by
  unfold createL3if
  split
  · next hl3 =>
    split
    · refine ⟨.of_eq rfl rfl rfl, rfl, rfl, fun _ => setL3if_self _ _, fun hno => ?_⟩
      rw [hl3] at hno
      cases hno
    · exact rifFailed_end (h.draft.erased hn h.ok (rifError2_erased n.oid n.id))
  · next hl3 => exact ⟨.refl db, rfl, rfl, fun h => absurd h hl3, fun _ => rfl⟩

theorem createStatsid_some {e : Bool} (h : createStatsid sdk db n e = some db') {r : Rif}
    (hl : db.rifs.lookup n.oid = some r) :
    SameRif n.oid db db' ∧ ∃ i, db'.rifs.lookup n.oid =
        some (if e then { r with egsStatsid := i } else { r with ingStatsid := i }) ∧
      (sdk.rc (.propStats e) = .none → (db.l3ifs n.id).isSome → i ≠ 0) := by
  obtain ⟨⟨id, d⟩, hcreate, he⟩ := Option.map_eq_some_iff.mp h
  have hd : SameRif n.oid db d := createStats_sameRif sdk hcreate
  have hid : d.rifs = db.rifs ∧ 0 < id := by
    unfold RifDb.createStats at hcreate
    split at hcreate
    · obtain ⟨p, hp, hpe⟩ := Option.map_eq_some_iff.mp hcreate
      cases hpe
      have hlo := rc.stats_lo
      have hin := Finset.mem_Ico.mp (Pool.reserve_some hp).1
      exact ⟨rfl, by omega⟩
    · cases hcreate
  have hprop := @setProperty_sameRif rc n.oid d sdk (.propStats e) n.id
    (if e then .egsStats else .stats) id
  have hrifs : (d.setProperty sdk (.propStats e) n.id (if e then .egsStats else .stats) id).2.rifs =
      d.rifs := by
    unfold RifDb.setProperty
    split <;> rfl
  have hpass : sdk.rc (.propStats e) = .none → (db.l3ifs n.id).isSome →
      (d.setProperty sdk (.propStats e) n.id (if e then .egsStats else .stats) id).1 = .none := by
    intro hs hw
    rw [← hd.hw n.id] at hw
    obtain ⟨x, hx⟩ := setProperty_passes hs hw (if e then .egsStats else .stats) id
    rw [hx]
  dsimp only at he
  rw [hrifs, hid.1, hl] at he
  subst he
  refine ⟨(hd.trans hprop).setRif hl ?_ ?_, _, lookup_setRif .., fun hs hw => ?_⟩
  · split <;> rfl
  · split <;> rfl
  · rw [if_pos (hpass hs hw)]
    omega

/-- What the stage of the statistics ids leaves. -/
structure StatsidsDone (sdk : RifSdk) (n : RifNew) (on : Bool) (r : Rif) (db db' : RifDb rc) :
    Prop where
  same : SameRif n.oid db db'
  record : ∃ r', db'.rifs.lookup n.oid = some r' ∧ r'.isVirtual = r.isVirtual ∧
    r'.actualL3ifId = r.actualL3ifId ∧
    (n.isVirtual = false → on = true → (∀ e, sdk.rc (.propStats e) = .none) →
      (db.l3ifs n.id).isSome → r'.ingStatsid ≠ 0)
  stats : on = false → db'.stats = db.stats

theorem createStatsids_subs (hn : n.Named rc.lchip) (h : SubUncounted db n m) {r : Rif}
    (hl : db.rifs.lookup n.oid = some r) (on : Bool) :
    Staged (StatsidsDone sdk n on r db) SubsEnd (createStatsids sdk db n on) := by
  unfold createStatsids
  split
  · next hoff =>
    refine ⟨.refl _ db, ⟨r, hl, rfl, rfl, fun hv hon => ?_⟩, fun _ => rfl⟩
    rw [hv, hon] at hoff
    cases hoff
  next hon =>
  have hon : n.isVirtual = false ∧ on = true := by simpa using hon
  split
  · exact rifFailed_end (h.draft.erased hn h.ok rifError3_erased)
  next d₁ h₁ =>
  obtain ⟨hs₁, i, hl₁, hi⟩ := createStatsid_some h₁ hl
  split
  · have h' := h.sameRif hs₁
    exact rifFailed_end (h'.draft.erased hn h'.ok rifError4_erased)
  next d₂ h₂ =>
  obtain ⟨hs₂, j, hl₂, _⟩ := createStatsid_some h₂ hl₁
  refine ⟨hs₁.trans hs₂, ⟨_, hl₂, rfl, rfl, fun _ _ hp hw => ?_⟩, fun hoff => ?_⟩
  · exact hi (hp false) hw
  · rw [hon.2] at hoff
    cases hoff

end Early

/-! ## Creation -/

/-- What the creation of a sub-interface finds in the state and in the answers
of the SDK.  A failure after the ports is undone rightly, or does not happen. -/
structure SubCreateSound (sdk : RifSdk) (db : RifDb rc) (attrs : List RifAttr) (g : BitVec 32)
    (isVirtual : Bool) : Prop where
  takes : isVirtual = false → SubTakes sdk db g (db.subs g)
  late : SubUndoes sdk db g isVirtual (db.subs g) ∨ LatePasses sdk db attrs isVirtual

/-- The same of a call, which may create an interface of another type. -/
def RifSubCreateSound (sdk : RifSdk) (db : RifDb rc) (attrs : List RifAttr) : Prop :=
  (findAttribInList RifAttr.type? attrs).join = some .subPort →
    SubCreateSound sdk db attrs (rifL3if sdk attrs .subPort).gport
      ((findAttribInList RifAttr.isVirtual? attrs).getD false)

section Create

variable {db : RifDb rc} {n : RifNew} {sdk : RifSdk}

theorem SubPortsKnown.congr {db' : RifDb rc} {g : BitVec 32} {k : Nat}
    (h : SubPortsKnown sdk db g k) (hm : ∀ o, db'.lagMembers o = db.lagMembers o) :
    SubPortsKnown sdk db' g k := by
  unfold SubPortsKnown RifDb.IsMember at *
  simp only [hm]
  exact h

theorem SubTakes.congr {db' : RifDb rc} {g : BitVec 32} {k : Nat} (h : SubTakes sdk db g k)
    (hs : SameSubs db db') : SubTakes sdk db' g k where
  port hg := by
    rw [getPortDb_congr hs.ports]
    exact h.port hg
  known ht := (h.known ht).congr hs.members
  writes := h.writes

theorem lateReady_of_passes {db₀ db₁ db₂ : RifDb rc} {attrs : List RifAttr} {r₀ : Rif}
    (hn : n.Named rc.lchip) (ht : n.t = .subPort)
    (hp : LatePasses sdk db₀ attrs n.isVirtual) (hv : r₀.isVirtual = n.isVirtual)
    (hact : n.isVirtual = true → r₀.actualL3ifId = sdk.actualL3ifId.toNat)
    (hl3 : db.l3ifs = db₀.l3ifs) (hst : db.stats = db₀.stats) (h₁ : L3ifDone n db db₁)
    (h₂ : StatsidsDone sdk n (statsStatus attrs) r₀ db₁ db₂) : ∃ r, LateReady sdk db₂ n r := by
  obtain ⟨r, hl, hrv, hract, hing⟩ := h₂.record
  refine ⟨r, hl, hrv.trans hv, ?_, fun hvirt => ?_⟩
  · rw [h₂.same.hw]
    unfold RifNew.macId
    cases hvirt : n.isVirtual with
    | true =>
      have hno : n.hasL3if = false := by
        unfold RifNew.hasL3if
        rw [hvirt, Bool.not_true, Bool.and_false]
      rw [h₁.other hno, hl3, hract, hact hvirt]
      exact hp.base hvirt
    | false =>
      exact h₁.there (hn.hasL3if ht hvirt)
  · cases hon : statsStatus attrs with
    | true =>
      exact .inl (hing hvirt hon (fun e => hp.calls _ rfl) (h₁.there (hn.hasL3if ht hvirt)))
    | false =>
      have hfresh := hp.stats hvirt hon
      refine .inr ?_
      unfold FreshStats
      rw [h₂.stats hon, h₁.stats, hst]
      exact hfresh

/-- The stages of creation, from a number that was taken. -/
theorem createReal_subs {db₀ : RifDb rc} (hn : n.Named rc.lchip) (hinv : SubInv db₀)
    (hrifs : db.rifs = db₀.rifs) (hsubs : SameSubs db₀ db) (hst : db.stats = db₀.stats)
    (hl3 : db.l3ifs = db₀.l3ifs)
    (hin : n.id ∈ Finset.Ico rc.l3if.lo (rc.l3if.lo + rc.l3if.size))
    (hfree : db₀.rifs.lookup n.oid = none) (attrs : List RifAttr)
    (hgport : n.l3if.gport = (rifRead attrs n.t n.isVirtual).gport)
    (hs : n.t = .subPort → SubCreateSound sdk db₀ attrs n.l3if.gport n.isVirtual) :
    Staged (fun x : RifResult rc => SubInv x.db) SubsEnd
      (createReal sdk (db.setRif n.oid .built) n attrs) := by
  -- a record that is counted right makes a draft whose counts are those of before
  have hstored : ∀ r : Rif, r.isVirtual = n.isVirtual → r.gport = n.l3if.gport →
      SubUncounted (db.setRif n.oid r) n db₀.subs := by
    intro r hv hg
    have hnamed : RifsNamed db := by
      unfold RifsNamed
      rw [hrifs]
      exact hinv.named
    have hsubs' : db.subs = db₀.subs := by
      unfold RifDb.subs
      rw [hrifs]
    have hdraft := Draft.stored hn hnamed hin (by rw [hrifs]; exact hfree) hv hg
    rw [hsubs'] at hdraft
    exact ⟨hdraft, hinv.ok.same (hsubs.trans (.of_eq rfl rfl rfl))⟩
  unfold createReal
  dsimp only
  rw [setRif_setRif]
  refine (createVirtual_subs hn (hstored _ rfl hgport.symm) _).bind fun r hr => ?_
  obtain ⟨hv, hg, hact⟩ := hr
  rw [setRif_setRif]
  have h₀ := hstored { r with dot1dBridgeId := rifBridgeId attrs } hv (hg.trans hgport.symm)
  generalize hr₀ : ({ r with dot1dBridgeId := rifBridgeId attrs } : Rif) = r₀ at h₀
  have hl₀ := lookup_setRif db n.oid r₀
  have hsame₀ : SameSubs db₀ (db.setRif n.oid r₀) := hsubs.trans (.of_eq rfl rfl rfl)
  refine (createL3if_subs hn h₀).bind fun db₁ h₁ => ?_
  have hu₁ : SubUncounted db₁ n db₀.subs :=
    ⟨h₀.draft.congr h₁.rifs, h₀.ok.same h₁.subs⟩
  have hl₁ : db₁.rifs.lookup n.oid = some r₀ := by rw [h₁.rifs, hl₀]
  refine (createStatsids_subs hn hu₁ hl₁ _).bind fun db₂ h₂ => ?_
  have hu₂ := hu₁.sameRif h₂.same
  have hsame₂ : SameSubs db₀ db₂ := (hsame₀.trans h₁.subs).trans h₂.same.subs
  refine (createPorts_subs hn hu₂.draft hu₂.ok fun hsub => ?_).bind fun db₃ h₃ => ?_
  · obtain ⟨ht, hvirt⟩ := n.isSub_iff.mp hsub
    exact ((hs ht).takes hvirt).congr hsame₂
  have hor : UndoneOr sdk db₃ n db₀.subs
      (LatePasses sdk db₀ attrs n.isVirtual ∧ ∃ r, LateReady sdk db₃ n r) := by
    intro ht
    rcases (hs ht).late with hundo | hp
    · have hfinds : SubFinds sdk db₀ n db₀.subs := by
        refine ⟨fun hvirt => ((hs ht).takes hvirt).known fun hlag => ?_, hundo⟩
        exact h₃.told (n.isSub_iff.mpr ⟨ht, hvirt⟩) hlag
      refine .inl (hfinds.congr (fun o => ?_) fun hvirt o => ?_)
      · rw [h₃.members, hsame₂.members]
      · rw [h₃.isVirtual hvirt, hsame₂.flags]
    obtain ⟨r', hr'⟩ := lateReady_of_passes hn ht hp (by rw [← hr₀]; exact hv : r₀.isVirtual = n.isVirtual)
      (fun hvirt => by rw [← hr₀]; exact hact hvirt)
      (show (db.setRif n.oid r₀).l3ifs = db₀.l3ifs from hl3)
      (show (db.setRif n.oid r₀).stats = db₀.stats from hst) h₁ h₂
    exact .inr ⟨hp, r', hr'.sameStats h₃.same⟩
  refine (createAttrs_subs hn ⟨h₃.draft, h₃.ok⟩ hor).bind fun db₄ h₄ => ?_
  refine (createHw_subs hn h₄.1 h₄.2).bind fun db₅ h₅ => ?_
  exact (createDomains_subs hn h₅.1 h₅.2).bind fun db₆ h₆ => h₆.inv

theorem allocNumber_real {db' : RifDb rc} {t : RifType} {id : Nat}
    (h : db.allocNumber t = some (id, db')) (ht : t.vifBypass = false) :
    id ∈ Finset.Ico rc.l3if.lo (rc.l3if.lo + rc.l3if.size) ∧
      ∃ p, db' = { db with l3if := p } := by
  unfold RifDb.allocNumber at h
  rw [ht] at h
  obtain ⟨⟨i, p⟩, hp, he⟩ := Option.map_eq_some_iff.mp h
  cases he
  obtain ⟨_, hlo, hhi, _⟩ := Pool.alloc_some hp
  exact ⟨Finset.mem_Ico.mpr ⟨hlo, hhi⟩, p, rfl⟩

theorem SubInv.stored {db' : RifDb rc} {t : RifType} {id : Nat} {r : Rif} (h : SubInv db)
    (hr : db'.rifs = db.rifs.insert (rifOid rc.lchip t id) r)
    (hfree : db.rifs.lookup (rifOid rc.lchip t id) = none) (hid : id < 2 ^ 16)
    (ht : t.vifBypass = true) (hs : SameSubs db db') : SubInv db' := by
  have hsubs : db'.subs = db.subs := by
    funext g
    have hget : Table.get db'.rifs =
        Function.update (Table.get db.rifs) (rifOid rc.lchip t id) (some r) := by
      rw [hr, get_insert]
    have hcount := subs_update hget g
    have hzero : unitAt (isSubOn g) (rifOid rc.lchip t id) (some r) = 0 := by
      have hno : isSubOn g (rifOid rc.lchip t id) r = false := by
        unfold isSubOn
        cases t <;> simp_all [RifType.vifBypass]
      simp only [unitAt, Table.unit, Option.map_some, hno]
      rfl
    rw [hfree, hzero] at hcount
    exact hcount
  refine ⟨?_, ?_⟩
  · intro o x hx
    rw [hr] at hx
    rcases of_lookup_insert hx with ⟨ho, -⟩ | ⟨-, hx⟩
    · refine ⟨t, id, ho, hid, fun hf => ?_⟩
      rw [ht] at hf
      cases hf
    · exact h.named o x hx
  · rw [hsubs]
    exact h.ok.same hs

theorem build_ok {oid : Oid} {d : RifDb rc} (h : db.build sdk oid = .ok d) :
    db.rifs.lookup oid = none ∧ d = db.setRif oid .built := by
  unfold RifDb.build at h
  split at h
  · cases h
  split at h
  · cases h
  · next hno =>
    cases h
    exact ⟨by simpa using hno, rfl⟩

/-- Creation, successful or not, keeps the counts. -/
theorem createRif_subs {attrs : List RifAttr} {x : RifResult rc} (h : SubInv db)
    (hs : RifSubCreateSound sdk db attrs) (hx : createRif sdk db attrs = some x) :
    SubInv x.db := by
  unfold createRif at hx
  split at hx
  · split at hx
    · cases hx
      exact h
    · next t ht =>
      split at hx
      · cases hx
        exact h
      next id db₁ halloc =>
      have hnum := allocNumber_numbered halloc
      have hsame : SameSubs db db₁ := by
        unfold RifDb.allocNumber at halloc
        split at halloc
        all_goals
          obtain ⟨y, _, he⟩ := Option.map_eq_some_iff.mp halloc
          cases he
          exact .of_eq rfl rfl rfl
      have h₁ : SubInv db₁ := by
        refine ⟨?_, ?_⟩
        · unfold RifsNamed
          rw [hnum.rifs]
          exact h.named
        · have hsubs : db₁.subs = db.subs := by
            unfold RifDb.subs
            rw [hnum.rifs]
          rw [hsubs]
          exact h.ok.same hsame
      dsimp only at hx
      cases hb : db₁.build sdk (rifOid rc.lchip t id) with
      | error status =>
        rw [hb] at hx
        cases hx
        exact @SubInv.sameRif rc db₁ _ Oid.null h₁
          (SameSubs.sameRif (.of_eq rfl rfl rfl) rfl fun _ => rfl)
      | ok d =>
        obtain ⟨hfree, rfl⟩ := build_ok hb
        rw [hb] at hx
        dsimp only at hx
        cases hvif : t.vifBypass with
        | true =>
          rw [hvif] at hx
          cases hx
          unfold createVif
          dsimp only
          rw [setRif_setRif]
          exact h₁.stored rfl hfree hnum.id_lt hvif (.of_eq rfl rfl rfl)
        | false =>
          rw [hvif, if_neg (by decide)] at hx
          obtain ⟨hin, p, rfl⟩ := allocNumber_real halloc hvif
          split at hx
          · -- IS_VIRTUAL on a chip that has none: the record goes
            cases hx
            exact @SubInv.sameRif rc db _ Oid.null h
              (SameSubs.sameRif (.of_eq rfl rfl rfl) (erase_insert hfree _) fun _ => rfl)
          refine Staged.result (@createReal_subs rc { db with l3if := p }
            ⟨rifOid rc.lchip t id, id, t, rifL3if sdk attrs t,
              (findAttribInList RifAttr.isVirtual? attrs).getD false⟩ sdk db
            ⟨rfl, hnum.id_lt, hvif, rfl⟩ h rfl hsame rfl rfl hin hfree attrs rfl ?_) hx
          rintro rfl
          exact hs ht
  · cases hx
    exact h

end Create

end CtcSai
