/-
# `RifSubsJoin` — a port that joins a LAG takes its PORT_SVLAN hash

What joining does to the LAG's record and to the port is followed step by step:
every write leaves the flags of the LAGs, the members of the others and all
hashes as they were, but for the bit of the port itself and the write that
turns its hash on.
-/
import CtcSai.LagMembers
import CtcSai.RifSubsCreate
import CtcSai.StpBookkeeping

namespace CtcSai

open Function KeyedTable

variable {c : Lchip} {base db : LagDb} {o : Oid} {ms : Finset Nat}

/-- Beside `base`, the LAG `o` has the members `ms`, and nothing else changed
that sub-interfaces are concerned with. -/
structure LagSeen (c : Lchip) (base : LagDb) (o : Oid) (ms : Finset Nat) (db : LagDb) : Prop where
  others : ∀ x, x ≠ o → db.lag c x = base.lag c x
  own : ∃ l₀ l, base.lag c o = some l₀ ∧ db.lag c o = some l ∧
    l.isBindingSubRif = l₀.isBindingSubRif ∧ l.memberPorts = ms
  hash : ∀ g, ((db.hw c).port g).sclPortSvlan = ((base.hw c).port g).sclPortSvlan

/-- Whatever a write to a port's registers does, the hash apart. -/
def KeepsHash (f : PortRegs → PortRegs) : Prop := ∀ r, (f r).sclPortSvlan = r.sclPortSvlan

theorem LagSeen.start {l : LagInfo} (h : base.lag c o = some l) :
    LagSeen c base o l.memberPorts base :=
  ⟨fun _ _ => rfl, ⟨l, l, h, h, rfl, rfl⟩, fun _ => rfl⟩

theorem LagSeen.lchip (h : LagSeen c base o ms db) : o.lchip = c := by
  obtain ⟨l₀, _, hl, _⟩ := h.own
  unfold LagDb.lag at hl
  split at hl
  · assumption
  · cases hl

theorem LagSeen.setHw (h : LagSeen c base o ms db) {hw : LagHw}
    (hash : ∀ g, (hw.port g).sclPortSvlan = ((db.hw c).port g).sclPortSvlan) :
    LagSeen c base o ms (db.setHw c hw) where
  others := h.others
  own := h.own
  hash g := by
    unfold LagDb.setHw
    dsimp only
    rw [update_self, hash, h.hash]

theorem hash_setPort_keeps {hw : LagHw} {f : PortRegs → PortRegs} (hf : KeepsHash f)
    (g x : BitVec 32) : ((hw.setPort g f).port x).sclPortSvlan = (hw.port x).sclPortSvlan := by
  unfold LagHw.setPort
  dsimp only
  rw [update_apply]
  split
  · next hx => rw [hf, hx]
  · rfl

variable (sdk : LagSdk)

theorem LagSeen.reg (h : LagSeen c base o ms db) {f : PortRegs → PortRegs} (hf : KeepsHash f)
    (site : LagSite) (g : BitVec 32) : LagSeen c base o ms (regWrite sdk db c site g f).2 := by
  unfold regWrite
  split
  · exact h.setHw (hash_setPort_keeps hf g)
  · exact h

theorem LagSeen.addPort (h : LagSeen c base o ms db) (site : LagSite) (tid : BitVec 8)
    (lag g : BitVec 32) : LagSeen c base o ms (linkaggAddPort sdk db c site tid lag g).2 := by
  unfold linkaggAddPort
  split
  · refine h.setHw fun x => ?_
    unfold LagHw.addPort
    split
    · rfl
    · exact @hash_setPort_keeps (db.hw c) (fun r => { r with gport := lag }) (fun _ => rfl) g x
  · exact h

theorem LagSeen.removePort (h : LagSeen c base o ms db) (site : LagSite) (tid : BitVec 8)
    (g : BitVec 32) : LagSeen c base o ms (linkaggRemovePort sdk db c site tid g).2 := by
  unfold linkaggRemovePort
  split
  · refine h.setHw fun x => ?_
    unfold LagHw.removePort
    split
    · exact @hash_setPort_keeps (db.hw c) (fun r => { r with gport := g }) (fun _ => rfl) g x
    · rfl
  · exact h

theorem linkaggRemovePort_lag (site : LagSite) (tid : BitVec 8) (g : BitVec 32) (x : Oid) :
    (linkaggRemovePort sdk db c site tid g).2.lag c x = db.lag c x := by
  unfold linkaggRemovePort
  split <;> rfl

theorem linkaggAddPort_lag (site : LagSite) (tid : BitVec 8) (lag g : BitVec 32) (x : Oid) :
    (linkaggAddPort sdk db c site tid lag g).2.lag c x = db.lag c x := by
  unfold linkaggAddPort
  split <;> rfl

theorem LagSeen.setLag (h : LagSeen c base o ms db) {l l' : LagInfo} {ms' : Finset Nat}
    (hl : db.lag c o = some l) (hb : l'.isBindingSubRif = l.isBindingSubRif)
    (hm : l'.memberPorts = ms') : LagSeen c base o ms' (db.setLag o l') where
  others x hx := by
    have hlook : (db.setLag o l').lag c x = db.lag c x := by
      unfold LagDb.lag LagDb.setLag
      rw [Table.lookup_insert_ite, if_neg hx]
    rw [hlook]
    exact h.others x hx
  own := by
    obtain ⟨l₀, l₁, h₀, h₁, hb₁, _⟩ := h.own
    rw [hl] at h₁
    cases h₁
    refine ⟨l₀, l', h₀, ?_, hb.trans hb₁, hm⟩
    unfold LagDb.lag LagDb.setLag
    rw [if_pos h.lchip]
    exact AList.lookup_insert _
  hash := h.hash

section Join

variable {pm : PortMap}

theorem LagSeen.error1 (h : LagSeen c base o ms db) (port : BitVec 32) (out inn : Bool) :
    LagSeen c base o (ms.erase (pm.lport port)) (createMemberError1 pm sdk db c o port out inn) := by
  obtain ⟨_, l, _, hl, _, hms⟩ := h.own
  subst hms
  unfold createMemberError1
  rw [hl]
  cases out <;> cases inn <;> dsimp only
  · refine LagSeen.removePort sdk ?_ _ _ _
    exact h.setLag hl rfl rfl
  · refine LagSeen.setLag (h.removePort sdk _ _ _) (l := l) ?_ rfl rfl
    rw [linkaggRemovePort_lag]
    exact hl
  · refine LagSeen.reg sdk ?_ (by exact fun _ => rfl) _ _
    exact h.setLag hl rfl rfl
  · exact h.setLag hl rfl rfl

theorem LagSeen.flags (h : LagSeen c base o ms db) {l : LagInfo} (hl : db.lag c o = some l)
    (port : BitVec 32) (out inn : Bool) :
    LagSeen c base o ms (createMemberFlags pm sdk db c o l port out inn).2 := by
  have hms : l.memberPorts = ms := by
    obtain ⟨_, l₁, _, hl₁, _, hm⟩ := h.own
    rw [hl] at hl₁
    cases hl₁
    exact hm
  unfold createMemberFlags
  cases out <;> cases inn <;> dsimp only
  · exact h.addPort sdk _ _ _ _
  · refine LagSeen.reg sdk ?_ (by exact fun _ => rfl) _ _
    refine LagSeen.setLag (h.addPort sdk _ _ _ _) (l := l) ?_ rfl hms
    rw [linkaggAddPort_lag]
    exact hl
  · refine LagSeen.reg sdk ?_ (by exact fun _ => rfl) _ _
    exact h.setLag hl rfl hms
  · exact h.setLag hl rfl hms

/-- The hash of the port that joined, and nothing else beside the members. -/
structure LagJoined (c : Lchip) (base : LagDb) (o : Oid) (ms : Finset Nat) (port : BitVec 32)
    (db : LagDb) : Prop where
  others : ∀ x, x ≠ o → db.lag c x = base.lag c x
  own : ∃ l₀ l, base.lag c o = some l₀ ∧ db.lag c o = some l ∧
    l.isBindingSubRif = l₀.isBindingSubRif ∧ l.memberPorts = ms ∧
    ∀ g, ((db.hw c).port g).sclPortSvlan =
      if l₀.isBindingSubRif = true ∧ g = port then true
      else ((base.hw c).port g).sclPortSvlan

theorem LagSeen.joined_off (h : LagSeen c base o ms db) {l : LagInfo} (hl : db.lag c o = some l)
    (hb : l.isBindingSubRif = false) (port : BitVec 32) : LagJoined c base o ms port db := by
  refine ⟨h.others, ?_⟩
  obtain ⟨l₀, l₁, h₀, h₁, hb₁, hm⟩ := h.own
  rw [hl] at h₁
  cases h₁
  refine ⟨l₀, l, h₀, hl, hb₁, hm, fun g => ?_⟩
  rw [← hb₁, hb]
  exact h.hash g

theorem LagSeen.joined_on (h : LagSeen c base o ms db) {l : LagInfo} (hl : db.lag c o = some l)
    (hb : l.isBindingSubRif = true) (port : BitVec 32) :
    LagJoined c base o ms port (db.setPort c port (fun r => { r with sclPortSvlan := true })) := by
  refine ⟨h.others, ?_⟩
  obtain ⟨l₀, l₁, h₀, h₁, hb₁, hm⟩ := h.own
  rw [hl] at h₁
  cases h₁
  refine ⟨l₀, l, h₀, hl, hb₁, hm, fun g => ?_⟩
  rw [← hb₁, hb]
  unfold LagDb.setPort LagDb.setHw LagHw.setPort
  dsimp only
  rw [update_self]
  dsimp only
  rw [update_apply]
  by_cases hg : g = port
  · rw [if_pos hg, if_pos ⟨rfl, hg⟩]
  · rw [if_neg hg, if_neg (fun hboth => hg hboth.2)]
    exact h.hash g

/-- The bindings of the LAG are applied to the port; a failure leaves its hash
alone. -/
theorem LagSeen.rif (h : LagSeen c base o ms db) {l l' : LagInfo} (hl : db.lag c o = some l)
    (port : BitVec 32) (hb : l'.isBindingSubRif = l.isBindingSubRif) {r : Status × LagDb}
    (hr : createMemberRif sdk db c l' port = r) :
    (r.1 = .success → LagJoined c base o ms port r.2) ∧
      (r.1 ≠ .success → LagSeen c base o ms r.2) := by
  have hfirst : ∀ x : Status × LagDb, x = (if l'.isBindingRif then
      regWrite sdk db c .setPhyIfEn port (fun r => { r with phyIfEn := true })
      else (.success, db)) → LagSeen c base o ms x.2 ∧ x.2.lag c o = db.lag c o := by
    rintro x rfl
    split
    · refine ⟨LagSeen.reg sdk h (by exact fun _ => rfl) _ _, ?_⟩
      unfold regWrite
      split <;> rfl
    · exact ⟨h, rfl⟩
  unfold createMemberRif at hr
  generalize hx : (if l'.isBindingRif then
      regWrite sdk db c .setPhyIfEn port (fun r => { r with phyIfEn := true })
      else (.success, db)) = x at hr
  obtain ⟨hseen, hlag⟩ := hfirst x hx.symm
  obtain ⟨status, d⟩ := x
  rw [hl] at hlag
  split at hr
  · next d' hd =>
    cases hd
    split at hr
    · next hflag =>
      unfold regWrite at hr
      split at hr
      · cases hr
        exact ⟨fun _ => hseen.joined_on hlag (hb.symm.trans hflag) port, fun hne => absurd rfl hne⟩
      · next hne =>
        cases hr
        exact ⟨fun he => absurd he hne, fun _ => hseen⟩
    next hflag =>
    cases hr
    refine ⟨fun _ => hseen.joined_off hlag ?_ port, fun hne => absurd rfl hne⟩
    rw [← hb]
    simpa using hflag
  · next hne hd =>
    cases hd
    cases hr
    exact ⟨fun he => absurd he hne, fun _ => hseen⟩

theorem regWrite_lag (site : LagSite) (g : BitVec 32) (f : PortRegs → PortRegs) (x : Oid) :
    (regWrite sdk db c site g f).2.lag c x = db.lag c x := by
  unfold regWrite
  split <;> rfl

/-- The registers of a new member: it has joined, or its bit is gone again. -/
theorem LagSeen.regs (h : LagSeen c base o ms db) {l l' : LagInfo} (hl : db.lag c o = some l)
    (port : BitVec 32) (hb : l'.isBindingSubRif = l.isBindingSubRif) (out inn : Bool)
    (regs : PortRegs) {r : Status × Option Oid × LagDb}
    (hr : createMemberRegs pm sdk db c o l' port out inn regs = r) :
    (r.1 = .success → LagJoined c base o ms port r.2.2) ∧
      (r.1 ≠ .success → LagSeen c base o (ms.erase (pm.lport port)) r.2.2) := by
  -- the labels, the last one first
  have h₁ : ∀ d, LagSeen c base o ms d →
      LagSeen c base o (ms.erase (pm.lport port)) (createMemberError1 pm sdk d c o port out inn) :=
    fun d hd => hd.error1 sdk port out inn
  have hkeep : ∀ d, LagSeen c base o ms d ∧ d.lag c o = some l → ∀ site (f : PortRegs → PortRegs),
      KeepsHash f → LagSeen c base o ms (regWrite sdk d c site port f).2 ∧
        (regWrite sdk d c site port f).2.lag c o = some l := by
    intro d hd site f hf
    rw [regWrite_lag]
    exact ⟨LagSeen.reg sdk hd.1 hf site port, hd.2⟩
  have h₂ : ∀ d, LagSeen c base o ms d → LagSeen c base o (ms.erase (pm.lport port))
      (createMemberError1 pm sdk (regWrite sdk d c .undoVlanCtl port
        (fun x => { x with vlanCtl := regs.vlanCtl })).2 c o port out inn) :=
    fun d hd => h₁ _ (LagSeen.reg sdk hd (by exact fun _ => rfl) _ _)
  have h₃ : ∀ d, LagSeen c base o ms d → LagSeen c base o (ms.erase (pm.lport port))
      (createMemberError1 pm sdk (regWrite sdk (regWrite sdk d c .undoDefaultVlan port
        (fun x => { x with defaultVlan := regs.defaultVlan })).2 c .undoVlanCtl port
        (fun x => { x with vlanCtl := regs.vlanCtl })).2 c o port out inn) :=
    fun d hd => h₂ _ (LagSeen.reg sdk hd (by exact fun _ => rfl) _ _)
  unfold createMemberRegs at hr
  have hw := hkeep db ⟨h, hl⟩ .setVlanCtl (fun x => { x with vlanCtl := l'.vlanCtl }) fun _ => rfl
  split at hr
  · next d hx =>
    rw [hx] at hw
    have hw' := hkeep d hw .setDefaultVlan (fun x => { x with defaultVlan := l'.vlanId })
      fun _ => rfl
    split at hr
    · next d' hx' =>
      rw [hx'] at hw'
      have hw'' := hkeep d' hw' .setDefaultPcp
        (fun x => { x with defaultPcp := l'.vlanPriority.setWidth 32 }) fun _ => rfl
      split at hr
      · next d'' hx'' =>
        rw [hx''] at hw''
        obtain ⟨hok, hno⟩ := hw''.1.rif sdk hw''.2 port hb rfl
        split at hr
        · next e he =>
          rw [he] at hok
          cases hr
          exact ⟨fun _ => hok rfl, fun hne => absurd rfl hne⟩
        next status e hne he =>
        rw [he] at hno
        cases hr
        exact ⟨fun hs => absurd hs hne,
          fun _ => h₃ _ (LagSeen.reg sdk (hno hne) (by exact fun _ => rfl) _ _)⟩
      · next hne hx'' =>
        rw [hx''] at hw''
        cases hr
        exact ⟨fun hs => absurd hs hne, fun _ => h₃ _ hw''.1⟩
    · next hne hx' =>
      rw [hx'] at hw'
      cases hr
      exact ⟨fun hs => absurd hs hne, fun _ => h₂ _ hw'.1⟩
  · next hne hx =>
    rw [hx] at hw
    cases hr
    exact ⟨fun hs => absurd hs hne, fun _ => h₁ _ hw.1⟩

/-- What a join did: nothing that concerns sub-interfaces; the port has joined;
or, where the SDK refused a call, its bit is gone. -/
inductive JoinDone (pm : PortMap) (sdk : LagSdk) (c : Lchip) (base : LagDb)
    (attrs : List LagMemberAttr) (db : LagDb) : Prop where
  | same (h : db = base)
  | kept (o : Oid) (l : LagInfo) (hl : base.lag c o = some l)
      (h : LagSeen c base o l.memberPorts db)
  | joined (o port : Oid) (l : LagInfo)
      (ho : findAttribInList LagMemberAttr.lagId? attrs = some o)
      (hp : findAttribInList LagMemberAttr.portId? attrs = some port)
      (hl : base.lag c o = some l)
      (h : LagJoined c base o (insert (pm.lport port.value) l.memberPorts) port.value db)
  | gone (o port : Oid) (l : LagInfo)
      (ho : findAttribInList LagMemberAttr.lagId? attrs = some o)
      (hp : findAttribInList LagMemberAttr.portId? attrs = some port)
      (hl : base.lag c o = some l) (hs : ¬ sdk.Succeeds)
      (h : LagSeen c base o (l.memberPorts.erase (pm.lport port.value)) db)

theorem createLagMember_done (db : LagDb) (attrs : List LagMemberAttr) :
    JoinDone pm sdk c db attrs (createLagMember pm sdk db c attrs).2.2 := by
  unfold createLagMember
  split
  · exact .same rfl
  split
  · next o portOid ho hp =>
    split
    · exact .same rfl
    next l hl =>
    dsimp only
    have hflags : LagSeen c db o l.memberPorts (createMemberFlags pm sdk db c o l
        portOid.value ((findAttribInList LagMemberAttr.egressDisable? attrs).getD false)
        ((findAttribInList LagMemberAttr.ingressDisable? attrs).getD false)).2 :=
      (LagSeen.start hl).flags sdk hl _ _ _
    split
    · next d hx =>
      rw [hx] at hflags
      split
      · split
        · exact .kept o l hl hflags
        · next l' hl' =>
          obtain ⟨l₀, l₁, h₀, h₁, hb, hm⟩ := hflags.own
          rw [hl'] at h₁
          cases h₁
          have hset : LagSeen c db o (insert (pm.lport portOid.value) l.memberPorts)
              (d.setLag o { l' with
                memberPorts := insert (pm.lport portOid.value) l'.memberPorts }) :=
            hflags.setLag hl' rfl (by rw [← hm])
          have hlag : (d.setLag o { l' with
              memberPorts := insert (pm.lport portOid.value) l'.memberPorts }).lag c o =
              some { l' with
                memberPorts := insert (pm.lport portOid.value) l'.memberPorts } := by
            rw [← hset.lchip]
            exact lag_setLag d o _
          generalize hr : createMemberRegs pm sdk _ c o _ portOid.value _ _ _ = r
          obtain ⟨hok, hno⟩ := hset.regs sdk hlag portOid.value rfl _ _ _ hr
          by_cases hs : r.1 = .success
          · exact .joined o portOid l ho hp hl (hok hs)
          refine .gone o portOid l ho hp hl (fun hsucc => hs ?_) ?_
          · rw [← hr, createMemberRegs_eq hsucc]
          · have hgone := hno hs
            rwa [Finset.erase_insert_eq_erase] at hgone
      all_goals exact .kept o l hl hflags
    · next hne hx =>
      rw [hx] at hflags
      exact .kept o l hl hflags
  · exact .same rfl

end Join

/-! ## The counts -/

section Counts

variable {rc : RifChip} {db : RifDb rc} {sdk : LagSdk} {attrs : List LagMemberAttr}

/-- The LAGs of the database are others. -/
def RifDb.setLags (db : RifDb rc) (lag : LagDb) : RifDb rc := { db with lag := lag }

/-- What a join finds: a panel port that no other LAG has, with no
sub-interfaces of its own if the LAG has none; where it is a member already the
SDK accepts all calls. -/
structure SubJoinSound (sdk : LagSdk) (db : RifDb rc) (o port : Oid) (l : LagInfo) : Prop where
  isPort : rc.pm.isPort rc.lchip port.value
  alone : ∀ x, x ≠ o → rc.pm.lport port.value ∉ db.lagMembers x
  own : rc.pm.lport port.value ∉ l.memberPorts → l.isBindingSubRif = false →
    db.subs port.value = 0
  again : rc.pm.lport port.value ∈ l.memberPorts → sdk.Succeeds

theorem lagMembers_of_lag {x : Oid} {l : LagInfo} (h : db.lag.lag rc.lchip x = some l) :
    db.lagMembers x = l.memberPorts := by
  unfold RifDb.lagMembers
  rw [h]
  rfl

theorem isBindingSubRif_of_lag {x : Oid} {l : LagInfo} (h : db.lag.lag rc.lchip x = some l) :
    db.isBindingSubRif x = some l.isBindingSubRif := by
  unfold RifDb.isBindingSubRif
  rw [h]
  rfl

theorem isBindingSubRif_congr {lag : LagDb} {x : Oid}
    (h : lag.lag rc.lchip x = db.lag.lag rc.lchip x) :
    (db.setLags lag).isBindingSubRif x = db.isBindingSubRif x :=
  congrArg (Option.map LagInfo.isBindingSubRif) h

theorem lagMembers_congr {lag : LagDb} {x : Oid} (h : lag.lag rc.lchip x = db.lag.lag rc.lchip x) :
    (db.setLags lag).lagMembers x = db.lagMembers x :=
  congrArg (fun l => (Option.map LagInfo.memberPorts l).getD ∅) h

theorem LagSeen.sameSubs {o : Oid} {l : LagInfo} {lag : LagDb}
    (hl : db.lag.lag rc.lchip o = some l) (h : LagSeen rc.lchip db.lag o l.memberPorts lag) :
    SameSubs db (db.setLags lag) where
  ports := rfl
  counts := rfl
  flags x := by
    by_cases hx : x = o
    · subst hx
      obtain ⟨l₀, l', h₀, h', hb, _⟩ := h.own
      rw [hl] at h₀
      cases h₀
      rw [isBindingSubRif_of_lag hl, ← hb]
      exact @isBindingSubRif_of_lag rc (db.setLags lag) x l' h'
    · exact isBindingSubRif_congr (h.others x hx)
  members x := by
    by_cases hx : x = o
    · subst hx
      obtain ⟨l₀, l', h₀, h', _, hm⟩ := h.own
      rw [lagMembers_of_lag hl, ← hm]
      exact @lagMembers_of_lag rc (db.setLags lag) x l' h'
    · exact lagMembers_congr (h.others x hx)
  hash := h.hash

/-- The port that joined has its hash for the LAG. -/
theorem LagJoined.subsOk {o port : Oid} {l : LagInfo} {lag : LagDb} (hok : SubsOk db db.subs)
    (hl : db.lag.lag rc.lchip o = some l) (hs : SubJoinSound sdk db o port l)
    (h : LagJoined rc.lchip db.lag o (insert (rc.pm.lport port.value) l.memberPorts) port.value lag) :
    SubsOk (db.setLags lag) db.subs := by
  obtain ⟨l₀, l', h₀, h', hb, hm, hash⟩ := h.own
  rw [hl] at h₀
  cases h₀
  have hbind := isBindingSubRif_of_lag hl
  have hmem := lagMembers_of_lag hl
  have hbind' := @isBindingSubRif_of_lag rc (db.setLags lag) o l' h'
  have hmem' := @lagMembers_of_lag rc (db.setLags lag) o l' h'
  obtain ⟨g, hg, ho⟩ := hok.named o _ hbind
  have hflag : l.isBindingSubRif = true ↔ 0 < db.subs g := by
    subst ho
    exact (hok.lag g _ hbind).2
  have hflags : ∀ x, (db.setLags lag).isBindingSubRif x = db.isBindingSubRif x := by
    intro x
    by_cases hx : x = o
    · subst hx
      rw [hbind', hbind, hb]
    · exact isBindingSubRif_congr (h.others x hx)
  have hmembers : ∀ x, x ≠ o → (db.setLags lag).lagMembers x = db.lagMembers x :=
    fun x hx => lagMembers_congr (h.others x hx)
  have hnotlag : isLinkaggPort port.value = false := isLinkaggPort_isPort hs.isPort
  refine ⟨hok.port, fun x b hx => ?_, ?_, fun x b hx => ?_, ?_⟩
  · rw [hflags] at hx
    exact hok.lag x b hx
  · refine hok.hash.move (r := port.value) (h := g) ?_ ?_ ?_ ?_ ?_
    · -- the port is the LAG's
      rintro x (⟨_, _, hin⟩ | ⟨_, _, hno⟩)
      · by_cases hx : lagOid rc.lchip x = o
        · exact lagOid_inj (hx.trans ho)
        · rw [hmembers _ hx] at hin
          exact absurd hin (hs.alone _ hx)
      · refine absurd ⟨hs.isPort, ?_⟩ (hno g hg)
        rw [← ho, hmem', hm]
        exact Finset.mem_insert_self _ _
    · -- no other port has another LAG
      intro s x hsne hfor
      have hiff : ∀ y, (db.setLags lag).IsMember y s ↔ db.IsMember y s := by
        intro y
        unfold RifDb.IsMember
        by_cases hy : lagOid rc.lchip y = o
        · rw [hy, hmem', hm, hmem]
          refine and_congr_right fun hp => ?_
          have hne : rc.pm.lport s ≠ rc.pm.lport port.value :=
            fun he => hsne (rc.pm.lport_inj hp hs.isPort he)
          rw [Finset.mem_insert, or_iff_right hne]
        · rw [hmembers _ hy]
      unfold RifDb.HashFor at hfor ⊢
      simp only [hiff] at hfor
      exact hfor
    · -- a LAG without sub-interfaces finds the hash off
      intro hzero
      have hoff : l.isBindingSubRif = false := by
        cases hf : l.isBindingSubRif with
        | false => rfl
        | true =>
          have hpos := hflag.mp hf
          omega
      have hfor : ∃ x, db.HashFor port.value x ∧ db.subs x = 0 := by
        by_cases hin : rc.pm.lport port.value ∈ l.memberPorts
        · refine ⟨g, .inl ⟨hg, hs.isPort, ?_⟩, hzero⟩
          rw [← ho, hmem]
          exact hin
        refine ⟨port.value, .inr ⟨rfl, hnotlag, ?_⟩, hs.own hin hoff⟩
        rintro y _ ⟨_, hy⟩
        by_cases hyo : lagOid rc.lchip y = o
        · rw [hyo, hmem] at hy
          exact hin hy
        · exact hs.alone _ hyo hy
      obtain ⟨x, hx, hx0⟩ := hfor
      have hiff := hok.hash port.value x hx
      rw [hx0] at hiff
      cases hh : db.hash port.value with
      | false => rfl
      | true => exact absurd (hiff.mp hh) (Nat.lt_irrefl 0)
    · show ((lag.hw rc.lchip).port port.value).sclPortSvlan = _
      rw [hash]
      simp only [hflag, and_true]
      rfl
    · intro s hsne
      show ((lag.hw rc.lchip).port s).sclPortSvlan = _
      rw [hash, if_neg fun hboth => hsne hboth.2]
      rfl
  · rw [hflags] at hx
    exact hok.named x b hx
  · have hown : ∀ b x, b ∈ (db.setLags lag).lagMembers x →
        b ∈ db.lagMembers x ∨ b = rc.pm.lport port.value ∧ x = o := by
      intro b x hb
      by_cases hx : x = o
      · subst hx
        rw [hmem', hm, Finset.mem_insert] at hb
        rcases hb with hb | hb
        · exact .inr ⟨hb, rfl⟩
        · exact .inl (by rw [hmem]; exact hb)
      · rw [hmembers x hx] at hb
        exact .inl hb
    intro b x y hbx hby
    rcases hown b x hbx with hx | ⟨rfl, rfl⟩
    · rcases hown b y hby with hy | ⟨rfl, rfl⟩
      · exact hok.one b x y hx hy
      · by_contra hne
        exact hs.alone x hne hx
    rcases hown _ y hby with hy | ⟨_, rfl⟩
    · by_contra hne
      exact hs.alone y (fun he => hne he.symm) hy
    · rfl

end Counts

end CtcSai
