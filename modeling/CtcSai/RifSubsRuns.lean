/-
# `RifSubsRuns` — the counts of sub-interfaces in every run

Removal takes the count back, and the hash with the last sub-interface; joins
are `RifSubsJoin`.  The counts, the flags and the hashes follow the interfaces
in runs in which no creation fails between the ports and its end unless the
roll-back is right, and no port has sub-interfaces of its own and a LAG at the
same time.
-/
import CtcSai.RifStatsRuns
import CtcSai.RifSubsJoin

namespace CtcSai

open Function KeyedTable Runs Stages Table

variable {rc : RifChip}

/-! ## Removal -/

/-- What the removal of the last sub-interface finds: an SDK that writes the
hash off, and tells the members of the LAG; a port that no LAG has. -/
structure SubGoes (sdk : RifSdk) (db : RifDb rc) (g : BitVec 32) : Prop where
  known : SubPortsKnown sdk db g 0
  told : isLinkaggPort g = true → sdk.rc .getMemberPorts = .none
  writes : if isLinkaggPort g then ∀ x ∈ sdk.memberPorts, sdk.rc (.sclProperty x) = .none
    else sdk.rc (.sclProperty g) = .none

def RifSubRemoveSound (sdk : RifSdk) (db : RifDb rc) (oid : Oid) : Prop :=
  ∀ r, db.rifs.lookup oid = some r → rifTypeOf oid = some .subPort → r.isVirtual = false →
    db.subs r.gport = 1 → SubGoes sdk db r.gport

section Remove

variable {db db' : RifDb rc} {oid : Oid} {r : Rif} {sdk : RifSdk}

/-- The numbers without one interface. -/
def subsWithout (db : RifDb rc) (oid : Oid) (r : Rif) : BitVec 32 → Nat :=
  if isSubOn r.gport oid r then update db.subs r.gport (db.subs r.gport - 1)
  else db.subs

theorem subs_erased (hl : db.rifs.lookup oid = some r) (hr : db'.rifs = db.rifs.erase oid) :
    db'.subs = subsWithout db oid r := by
  funext g
  have hget : Table.get db'.rifs = update (Table.get db.rifs) oid none := by
    rw [hr, get_erase]
  have hcount := subs_update hget g
  rw [hl] at hcount
  have hnone : unitAt (isSubOn g) oid none = 0 := rfl
  have hsome : unitAt (isSubOn g) oid (some r) = if isSubOn g oid r then 1 else 0 := rfl
  rw [hsome] at hcount
  unfold subsWithout
  by_cases hg : g = r.gport
  · subst hg
    split at hcount
    · next hon =>
      rw [if_pos hon, update_self]
      omega
    · next hoff =>
      rw [if_neg hoff]
      omega
  have hoff : isSubOn g oid r = false := by
    have hne : r.gport ≠ g := fun he => hg he.symm
    unfold isSubOn
    simp [hne]
  rw [hoff, if_neg (by decide)] at hcount
  split
  · rw [update_of_ne hg]
    omega
  · omega

theorem SubInv.erased (h : SubInv db) (hl : db.rifs.lookup oid = some r)
    (hok : SubsOk db' (subsWithout db oid r)) (hr : db'.rifs = db.rifs.erase oid) : SubInv db' where
  named o x hx := by
    rw [hr] at hx
    exact h.named o x (of_lookup_erase hx).2
  ok := by
    rw [subs_erased hl hr]
    exact hok

theorem subsWithout_of_not (hoff : isSubOn r.gport oid r = false) :
    subsWithout db oid r = db.subs := by
  unfold subsWithout
  rw [if_neg (by rw [hoff]; decide)]

theorem getPortDb_of_count {g : BitVec 32} (h : db.subIfRefCnt g ≠ 0) :
    getPortDb sdk db g = .ok (db.subIfRefCnt g) := by
  unfold RifDb.subIfRefCnt at *
  unfold getPortDb
  cases hp : db.ports (portOid rc.lchip g) with
  | none =>
    rw [hp] at h
    exact absurd rfl h
  | some cnt => rfl

theorem removePorts_lag (h : SubInv db) {g : BitVec 32} {k : Nat} (hg : isLinkaggPort g = true)
    (hk : db.subs g = k + 1) (hs : k = 0 → SubGoes sdk db g) {l : LagInfo}
    (hl : (lagBindingRif db g false .subIf).lag.lag rc.lchip (lagOid rc.lchip g) = some l) :
    SubsOk (if l.isBindingSubRif then lagBindingRif db g false .subIf
      else portWritesAll sdk .sclProperty (fun x => { x with sclPortSvlan := false })
        (lagBindingRif db g false .subIf) (removeMemberPorts sdk))
      (update db.subs g k) := by
  obtain ⟨c, b, hc, hb⟩ := @lagBindingRif_unbind rc db g k (by rw [← hk]; exact h.ok.lag g)
  have hflag : l.isBindingSubRif = true ↔ 0 < k := by
    have hbind := isBindingSubRif_of_lag hl
    rw [hc.flags, if_pos rfl] at hbind
    exact (hb _ hbind).2
  cases k with
  | zero =>
    have hoff : l.isBindingSubRif = false := by
      cases hf : l.isBindingSubRif with
      | false => rfl
      | true => exact absurd (hflag.mp hf) (Nat.lt_irrefl 0)
    obtain ⟨hknown, htold, hwrites⟩ := hs rfl
    unfold SubPortsKnown at hknown
    rw [if_pos hg] at hknown hwrites
    rw [if_neg (by rw [hoff]; decide)]
    unfold removeMemberPorts
    rw [if_pos (htold hg)]
    refine h.ok.lag_last hg hk hknown ?_
    exact portWritesAll_hash sdk sclOff_hash sdk.memberPorts hwrites
  | succ k =>
    rw [if_pos (hflag.mpr (Nat.succ_pos k))]
    exact h.ok.lag_down hg hk

/-- The ports of the interface are written; a sub-interface is counted no
more. -/
theorem removePorts_subs (h : SubInv db) (hl : db.rifs.lookup oid = some r) {t : RifType}
    {lt : L3ifType} (ht : rifTypeOf oid = some t) (hlt : t.l3ifType = some lt)
    (hs : RifSubRemoveSound sdk db oid) :
    Staged (fun d => d.rifs = db.rifs ∧ SubsOk d (subsWithout db oid r)) SubsEnd
      (removePorts sdk db r lt) := by
  have hkeep : ∀ d, SameRif oid db d → d.rifs = db.rifs → isSubOn r.gport oid r = false →
      d.rifs = db.rifs ∧ SubsOk d (subsWithout db oid r) := by
    intro d hd hr hoff
    rw [subsWithout_of_not hoff]
    exact ⟨hr, h.ok.same hd.subs⟩
  have hport : lt ≠ .subIf → isSubOn r.gport oid r = false := by
    unfold isSubOn
    cases t <;> simp_all [RifType.l3ifType]
  unfold removePorts
  split
  · next hv =>
    refine hkeep db (.refl oid db) rfl ?_
    unfold isSubOn
    simp [hv]
  next hv =>
  have hv : r.isVirtual = false := by simpa using hv
  cases lt with
  | vlanIf => exact hkeep db (.refl oid db) rfl (hport (by decide))
  | phyIf =>
    have hoff := hport (by decide)
    dsimp only
    split
    · refine hkeep _ ((lagBindingRif_phyIf_sameRif r.gport false).trans
        (portWritesAll_sameRif sdk (phyIfEn_hash false) _ _)) ?_ hoff
      rw [portWritesAll_rifs, (lagBindingRif_sameStats _ _ _ _).rifs]
    · exact hkeep _ (portWritesAll_sameRif sdk (phyIfEn_hash false) _ _) (portWritesAll_rifs _) hoff
  | subIf =>
    have htsub : t = .subPort := by
      cases t <;> simp_all [RifType.l3ifType]
    subst htsub
    have hon : isSubOn r.gport oid r = true := by
      unfold isSubOn
      simp [ht, hv]
    have hpos : 0 < db.subs r.gport := count_pos hl hon
    obtain ⟨k, hk⟩ : ∃ k, db.subs r.gport = k + 1 := ⟨db.subs r.gport - 1, by omega⟩
    have hwithout : subsWithout db oid r = update db.subs r.gport k := by
      unfold subsWithout
      rw [if_pos hon, hk, Nat.add_sub_cancel]
    have hgoes : k = 0 → SubGoes sdk db r.gport := fun hz => hs r hl ht hv (by rw [hk, hz])
    rw [hwithout]
    dsimp only
    cases hlag : isLinkaggPort r.gport with
    | true =>
      rw [if_pos rfl]
      split
      · rintro x ⟨⟩
      next l hll =>
      refine ⟨?_, removePorts_lag h hlag hk hgoes hll⟩
      split
      · exact (lagBindingRif_sameStats _ _ _ _).rifs
      · rw [portWritesAll_rifs, (lagBindingRif_sameStats _ _ _ _).rifs]
    | false =>
      have hcnt := h.ok.port r.gport hlag
      have hne : db.subIfRefCnt r.gport ≠ 0 := by
        intro hz
        rw [hz, hk] at hcnt
        cases hcnt
      rw [getPortDb_of_count hne]
      refine ⟨?_, ?_⟩
      · split
        · exact portWritesAll_rifs _
        · rfl
      · refine h.ok.port_down hlag hk (fun hz => ?_) fun hz => ?_
        · have hknown := (hgoes hz).known
          unfold SubPortsKnown at hknown
          rw [if_neg (by rw [hlag]; decide)] at hknown
          exact hknown rfl
        · have hwrites := (hgoes hz).writes
          rw [if_neg (by rw [hlag]; decide)] at hwrites
          exact hwrites

theorem removeStats_subs (sdk : RifSdk) (d : RifDb rc) (r : Rif) :
    Staged (fun d' => d'.rifs = d.rifs ∧ SameSubs d d')
      (fun e => ∀ x, e = some x → r.isVirtual = true ∧ x.db.rifs = d.rifs ∧ SameSubs d x.db)
      (removeStats sdk d r) := by
  unfold removeStats
  split
  · next hv =>
    split
    · have hmac := @setRouterMac_sameRif rc Oid.null d sdk .removeRouterMac r.actualL3ifId
        (·.erase r.srcMac)
      have hrifs := (setRouterMac_sameStats sdk d .removeRouterMac r.actualL3ifId
        (·.erase r.srcMac)).rifs
      split
      · next d' hx =>
        rw [hx] at hmac hrifs
        exact ⟨hrifs, hmac.subs⟩
      next e d' _ hx =>
      rw [hx] at hmac hrifs
      rintro x ⟨⟩
      exact ⟨hv, hrifs, hmac.subs⟩
    · exact ⟨rfl, .refl d⟩
  · split
    · have h₁ := @destroyStats_sameRif rc Oid.null d sdk r.ingStatsid
      have h₂ := @destroyStats_sameRif rc Oid.null (d.destroyStats sdk r.ingStatsid) sdk r.egsStatsid
      exact ⟨by rw [destroyStats_rifs, destroyStats_rifs], h₁.subs.trans h₂.subs⟩
    · exact ⟨rfl, .refl d⟩

/-- Removal, successful or not, keeps the counts. -/
theorem removeRif_subs {x : RifResult rc} (h : SubInv db) (hs : RifSubRemoveSound sdk db oid)
    (hx : removeRif sdk db oid = some x) : SubInv x.db := by
  unfold removeRif at hx
  split at hx
  · cases hx
    exact h
  next r hl =>
  split at hx
  · cases hx
    exact h
  next t ht =>
  split at hx
  · next hlt =>
    cases hx
    refine @SubInv.erased rc db { db with
      vif := db.vif.free (rifNumber oid), rifs := db.rifs.erase oid } oid r h hl ?_ rfl
    have hoff : isSubOn r.gport oid r = false := by
      unfold isSubOn
      cases t <;> simp_all [RifType.l3ifType]
    rw [subsWithout_of_not hoff]
    exact h.ok.same (.of_eq rfl rfl rfl)
  next lt hlt =>
  split at hx
  · cases hx
    exact h
  refine Staged.result (S := fun y : RifResult rc => SubInv y.db) ?_ hx
  refine (removePorts_subs h hl ht hlt hs).bind fun d₁ h₁ => ?_
  dsimp only
  generalize hd₂ : ({ (if !r.isVirtual ∧ sdk.rc .l3ifDestroy = .none then
      d₁.setL3if (rifNumber oid) none else d₁) with
    l3if := (if !r.isVirtual ∧ sdk.rc .l3ifDestroy = .none then
      d₁.setL3if (rifNumber oid) none else d₁).l3if.free (rifNumber oid) } :
      RifDb rc) = d₂
  have hsame : d₂.rifs = d₁.rifs ∧ SameSubs d₁ d₂ := by
    subst hd₂
    split <;> exact ⟨rfl, .of_eq rfl rfl rfl⟩
  have hstats := removeStats_subs sdk d₂ r
  generalize removeStats sdk d₂ r = y at hstats
  cases y with
  | ok d₃ =>
    refine h.erased hl ?_ ?_
    · exact h₁.2.same ((hsame.2.trans hstats.2).trans (.of_eq rfl rfl rfl))
    · rw [hstats.1, hsame.1, h₁.1]
  | error e =>
    intro z hz
    obtain ⟨hv, hr, hsub⟩ := hstats z hz
    have hoff : isSubOn r.gport oid r = false := by
      unfold isSubOn
      simp [hv]
    have hok := h₁.2
    rw [subsWithout_of_not hoff] at hok
    have hrifs : z.db.rifs = db.rifs := by rw [hr, hsame.1, h₁.1]
    have hsubs : z.db.subs = db.subs := by
      unfold RifDb.subs
      rw [hrifs]
    refine ⟨?_, ?_⟩
    · unfold RifsNamed
      rw [hrifs]
      exact h.named
    · rw [hsubs]
      exact hok.same (hsame.2.trans hsub)

end Remove

/-! ## Joins -/

/-- `_ctc_sai_lag_create_lag_member` on the chip. -/
def joinLag (sdk : LagSdk) (db : RifDb rc) (attrs : List LagMemberAttr) : RifDb rc :=
  db.setLags (createLagMember rc.pm sdk db.lag rc.lchip attrs).2.2

def LagJoinSubSound (sdk : LagSdk) (db : RifDb rc) (attrs : List LagMemberAttr) : Prop :=
  ∀ o port l, findAttribInList LagMemberAttr.lagId? attrs = some o →
    findAttribInList LagMemberAttr.portId? attrs = some port →
    db.lag.lag rc.lchip o = some l → SubJoinSound sdk db o port l

theorem joinLag_subs {sdk : LagSdk} {db : RifDb rc} {attrs : List LagMemberAttr} (h : SubInv db)
    (hs : LagJoinSubSound sdk db attrs) : SubInv (joinLag sdk db attrs) := by
  refine ⟨h.named, ?_⟩
  have hdone := @createLagMember_done rc.lchip sdk rc.pm db.lag attrs
  unfold joinLag
  generalize (createLagMember rc.pm sdk db.lag rc.lchip attrs).2.2 = lag at hdone
  cases hdone with
  | same he =>
    subst he
    exact h.ok
  | kept o l hl hseen => exact h.ok.same (hseen.sameSubs hl)
  | joined o port l ho hp hl hj => exact hj.subsOk h.ok hl (hs o port l ho hp hl)
  | gone o port l ho hp hl hfail hseen =>
    have hnew : rc.pm.lport port.value ∉ l.memberPorts :=
      fun hin => hfail ((hs o port l ho hp hl).again hin)
    rw [Finset.erase_eq_of_notMem hnew] at hseen
    exact h.ok.same (hseen.sameSubs hl)

/-! ## Runs -/

/-- The calls, each under what the SDK answers. -/
inductive RifSubOp where
  | create (sdk : RifSdk) (attrs : List RifAttr)
  | remove (sdk : RifSdk) (oid : Oid)
  | join (sdk : LagSdk) (attrs : List LagMemberAttr)

/-- One call; `none` is one that does not return. -/
def rifSubStep (db : RifDb rc) : RifSubOp → Option (RifDb rc)
  | .create sdk attrs => (createRif sdk db attrs).map (·.db)
  | .remove sdk oid => (removeRif sdk db oid).map (·.db)
  | .join sdk attrs => some (joinLag sdk db attrs)

/-- No interface, and no trace of one; every LAG has the name of its trunk, and
no port is a member of two. -/
structure RifSubStart (db : RifDb rc) : Prop where
  rifs : db.rifs = ∅
  ports : ∀ g, db.subIfRefCnt g = 0
  counts : ∀ g, db.bindingSubRifCount g = 0
  flags : ∀ o b, db.isBindingSubRif o = some b →
    b = false ∧ ∃ g, isLinkaggPort g = true ∧ o = lagOid rc.lchip g
  hash : ∀ g, db.hash g = false
  one : ∀ b o o', b ∈ db.lagMembers o → b ∈ db.lagMembers o' → o = o'

def RifSubSound (db : RifDb rc) : RifSubOp → Prop
  | .create sdk attrs => RifSubCreateSound sdk db attrs
  | .remove sdk oid => RifSubRemoveSound sdk db oid
  | .join sdk attrs => LagJoinSubSound sdk db attrs

/-- What the counts and the hashes should say: a port's `sub_if_ref_cnt` and a
LAG's `binding_sub_rif_count` are the number of sub-interfaces on it, and the
hash of a port outside all LAGs, as that of each member of a LAG, is on exactly
while that number is positive. -/
structure RifSubsSay (db : RifDb rc) : Prop where
  port : ∀ g, isLinkaggPort g = false → (db.subIfRefCnt g).toNat = db.subs g
  lag : ∀ g l, db.lag.lag rc.lchip (lagOid rc.lchip g) = some l →
    (db.bindingSubRifCount g).toNat = db.subs g
  portHash : ∀ g, isLinkaggPort g = false →
    (∀ lag, isLinkaggPort lag = true → ¬ db.IsMember lag g) → (db.hash g = true ↔ 0 < db.subs g)
  memberHash : ∀ lag g, isLinkaggPort lag = true → db.IsMember lag g →
    (db.hash g = true ↔ 0 < db.subs lag)

theorem RifSubStart.inv {db : RifDb rc} (h : RifSubStart db) : SubInv db := by
  have hsubs : ∀ g, db.subs g = 0 := by
    intro g
    unfold RifDb.subs
    rw [h.rifs]
    exact count_empty _
  refine ⟨fun oid r hl => ?_, ⟨fun g _ => ?_, fun g b hb => ?_, fun g x _ => ?_,
    fun o b hb => (h.flags o b hb).2, h.one⟩⟩
  · rw [h.rifs] at hl
    cases hl
  · rw [h.ports, hsubs]
    rfl
  · rw [h.counts, hsubs, (h.flags _ b hb).1]
    exact ⟨rfl, by simp⟩
  · rw [h.hash, hsubs]
    exact ⟨nofun, fun hlt => absurd hlt (Nat.lt_irrefl 0)⟩

theorem SubInv.step {db db' : RifDb rc} {op : RifSubOp} (h : SubInv db) (hok : RifSubSound db op)
    (hst : rifSubStep db op = some db') : SubInv db' := by
  cases op with
  | create sdk attrs =>
    obtain ⟨x, hx, rfl⟩ := Option.map_eq_some_iff.mp hst
    exact createRif_subs h hok hx
  | remove sdk oid =>
    obtain ⟨x, hx, rfl⟩ := Option.map_eq_some_iff.mp hst
    exact removeRif_subs h hok hx
  | join sdk attrs =>
    cases hst
    exact joinLag_subs h hok

theorem SubInv.say {db : RifDb rc} (h : SubInv db) : RifSubsSay db where
  port := h.ok.port
  lag g _ hl := (h.ok.lag g _ (isBindingSubRif_of_lag hl)).1
  portHash g hg hno := h.ok.hash g g (.inr ⟨rfl, hg, hno⟩)
  memberHash lag g hlag hmem := h.ok.hash g lag (.inl ⟨hlag, hmem⟩)

/-- In every run whose calls meet the condition the counts are the numbers of
sub-interfaces, and the hashes follow them. -/
theorem rifSubs_of_run {db : RifDb rc} (h : Reachable RifSubStart RifSubSound rifSubStep db) :
    RifSubsSay db :=
  (h.inv (fun _ => RifSubStart.inv) fun _ _ _ hinv hok hst => hinv.step hok hst).say

/-! ## Two runs -/

/-- A chip with one LAG. -/
def RifDb.startLag : RifDb .small :=
  { RifDb.start with
    lag := { RifDb.start.lag with lags := (∅ : Table Oid LagInfo).insert firstLag .empty } }

theorem RifDb.startLag_lag {o : Oid} {l : LagInfo} (h : RifDb.startLag.lag.lag 0 o = some l) :
    o = firstLag ∧ l = .empty := by
  unfold LagDb.lag at h
  split at h
  · have hl : ((∅ : Table Oid LagInfo).insert firstLag .empty).lookup o = some l := h
    rcases of_lookup_insert hl with ⟨ho, rfl⟩ | ⟨-, hl⟩
    · exact ⟨ho, rfl⟩
    · cases hl
  · cases h

theorem RifDb.startLag_members (o : Oid) : RifDb.startLag.lagMembers o = ∅ := by
  show ((RifDb.startLag.lag.lag 0 o).map LagInfo.memberPorts).getD ∅ = ∅
  cases hl : RifDb.startLag.lag.lag 0 o with
  | none => rfl
  | some l =>
    obtain ⟨_, rfl⟩ := RifDb.startLag_lag hl
    rfl

theorem RifDb.startLag_start : RifSubStart RifDb.startLag where
  rifs := rfl
  ports _ := rfl
  counts _ := rfl
  flags o b hb := by
    obtain ⟨l, hl, he⟩ := Option.map_eq_some_iff.mp hb
    obtain ⟨ho, rfl⟩ := RifDb.startLag_lag hl
    exact ⟨he.symm, 0x1f00, by decide, ho⟩
  hash _ := rfl
  one b o o' hb _ := by
    rw [RifDb.startLag_members] at hb
    cases hb

/-- A sub-interface on a port or a LAG. -/
def subRifAttrs (g : BitVec 32) : List RifAttr :=
  [.virtualRouterId (createObjectId .virtualRouter 0 0 0 1), .type (some .subPort),
    .portId (createObjectId .port 0 0 0 g), .outerVlanId 10]

/-- A sub-interface on port 5. -/
theorem rifSubs_of_run_port : ∃ db : RifDb .small, RifSubsSay db ∧ db.subs 5 = 1 ∧
    db.hash 5 = true := by
  have r₀ : Reachable RifSubStart RifSubSound rifSubStep RifDb.startLag :=
    .start RifDb.startLag_start
  have r₁ := r₀.next (.create .ok (subRifAttrs 5)) (by
    refine fun _ => ⟨fun _ => ⟨fun _ => ⟨0, rfl⟩, fun _ _ lag _ hmem => ?_, fun _ => rfl⟩,
      .inl fun _ _ => rfl⟩
    have hin := hmem.2
    rw [RifDb.startLag_members] at hin
    cases hin) rfl
  exact ⟨_, rifSubs_of_run r₁, rfl, rfl⟩

/-- A virtual sub-interface of a LAG that fails on an attribute takes a count
back that it never took. -/
theorem rifSubs_not_every_run : ¬ ∀ db : RifDb .small,
    Reachable RifSubStart anyStep rifSubStep db → RifSubsSay db := by
  intro h
  have r₀ : Reachable RifSubStart anyStep rifSubStep RifDb.startLag :=
    .start RifDb.startLag_start
  have r₁ := r₀.next (.create .ok (subRifAttrs 0x1f00 ++ [.isVirtual true, .adminV4State true]))
    trivial rfl
  have hno := (h _ r₁).lag 0x1f00 .empty rfl
  exact absurd hno (by decide)

end CtcSai
