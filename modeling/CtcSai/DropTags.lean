/-
# `DropTags` — DROP_UNTAGGED and DROP_TAGGED

Two flags share one register of a port, which knows four modes.  An update of
one flag keeps the other when it changes something; where nothing changes the
new mode is left at zero, which is ALLOW_ALL_PACKETS, and is written all the
same.  A LAG writes to all members the mode found from the first.
-/
import CtcSai.LagMembers

namespace CtcSai

open Runs

/-! ## The system -/

/-- Ports and LAGs, and beside them the flags last set on each. -/
structure DropState where
  db : LagDb
  port : Lchip → BitVec 32 → PortDropType → Bool
  lag : Oid → PortDropType → Bool

inductive DropOp where
  | setPort (sdk : LagSdk) (oid : Oid) (t : PortDropType) (v : Bool)
  | setLag (sdk : LagSdk) (oid : Oid) (t : PortDropType) (v : Bool)
  | join (sdk : LagSdk) (c : Lchip) (attrs : List LagMemberAttr)

def notePort (last : Lchip → BitVec 32 → PortDropType → Bool) (c : Lchip) (g : BitVec 32)
    (t : PortDropType) (v : Bool) : Lchip → BitVec 32 → PortDropType → Bool :=
  fun c' g' t' => if c' = c ∧ g' = g ∧ t' = t then v else last c' g' t'

/-- A set on a LAG is a set on each port whose member bit is set. -/
def noteMembers (pm : PortMap) (last : Lchip → BitVec 32 → PortDropType → Bool) (c : Lchip)
    (l : LagInfo) (t : PortDropType) (v : Bool) : Lchip → BitVec 32 → PortDropType → Bool :=
  fun c' g' t' => if c' = c ∧ g' ∈ l.bits.map (pm.gport c) ∧ t' = t then v else last c' g' t'

/-- A port that joins a LAG takes over its flags. -/
def noteJoin (last : Lchip → BitVec 32 → PortDropType → Bool) (c : Lchip) (g : BitVec 32)
    (lag : PortDropType → Bool) : Lchip → BitVec 32 → PortDropType → Bool :=
  fun c' g' => if c' = c ∧ g' = g then lag else last c' g'

/-- A set on a LAG. -/
def noteLag (last : Oid → PortDropType → Bool) (oid : Oid) (t : PortDropType) (v : Bool) :
    Oid → PortDropType → Bool :=
  fun oid' t' => if oid' = oid ∧ t' = t then v else last oid' t'

/-- The members of a LAG. -/
def LagDb.members (db : LagDb) (oid : Oid) : LagInfo := (db.lag oid.lchip oid).getD .empty

def dropStep (pm : PortMap) (s : DropState) : DropOp → Option DropState
  | .setPort sdk oid t v =>
    let r := portSetDropTags sdk s.db oid t v
    some { s with
      db := r.2
      port := if r.1 = .success then notePort s.port oid.lchip oid.value t v else s.port }
  | .setLag sdk oid t v =>
    let r := lagSetDropInfo pm sdk s.db oid t v
    some {
      db := r.2
      port := if r.1 = .success then noteMembers pm s.port oid.lchip (s.db.members oid) t v
        else s.port
      lag := if r.1 = .success then noteLag s.lag oid t v else s.lag }
  | .join sdk c attrs =>
    let r := createLagMember pm sdk s.db c attrs
    some { s with
      db := r.2.2
      port := match findAttribInList LagMemberAttr.lagId? attrs,
          findAttribInList LagMemberAttr.portId? attrs with
        | some oid, some port =>
          if r.1 = .success then noteJoin s.port c port.value (s.lag oid) else s.port
        | _, _ => s.port }

/-- The start: every register at ALLOW_ALL_PACKETS, LAGs without members. -/
structure DropStart (s : DropState) : Prop where
  vlanCtl : ∀ c g, ((s.db.hw c).port g).vlanCtl = .allowAllPackets
  members : ∀ o l, s.db.lags.lookup o = some l → l.memberPorts = ∅
  port : ∀ c g t, s.port c g t = false
  lag : ∀ o l, s.db.lags.lookup o = some l → ∀ t, s.lag o t = l.drop t

/-- The SDK accepts every call. -/
def DropAssumed : DropOp → Prop
  | .setPort sdk .. | .setLag sdk .. | .join sdk .. => sdk.Succeeds

/-! ## What should hold -/

/-- The registers and the answers of get are the flags last set. -/
structure DropOk (s : DropState) : Prop where
  reg : ∀ c g t, (((s.db.hw c).port g).vlanCtl).drops t = s.port c g t
  portGet : ∀ sdk : LagSdk, sdk.Succeeds → ∀ oid t,
    portGetDropTags sdk s.db oid t = (.success, some (s.port oid.lchip oid.value t))
  lagGet : ∀ oid l t, s.db.lag oid.lchip oid = some l →
    lagGetDropInfo s.db oid t = (.success, some (s.lag oid t))

/-! ## The condition -/

/-- An update of a register that is computed: it changes the flag, or the
register is at zero. -/
def VlanTagCtl.Changes (r : VlanTagCtl) (t : PortDropType) (v : Bool) : Prop :=
  r.drops t ≠ v ∨ r = .allowAllPackets

def DropSafe (pm : PortMap) (s : DropState) : DropOp → Prop
  | .setPort _ oid t v => (((s.db.hw oid.lchip).port oid.value).vlanCtl).Changes t v
  | .setLag _ oid t v => ∀ b rest, (s.db.members oid).bits = b :: rest →
    let reg := fun b => ((s.db.hw oid.lchip).port (pm.gport oid.lchip b)).vlanCtl
    (reg b).Changes t v ∧ ∀ b' ∈ rest, ∀ t', t' ≠ t → (reg b').drops t' = (reg b).drops t'
  | .join .. => True

/-! ## The register -/

theorem drops_portMappingTagsMode {r : VlanTagCtl} {t : PortDropType} {v : Bool}
    (h : r.Changes t v) (t' : PortDropType) :
    (portMappingTagsMode t v .allowAllPackets r).drops t' = if t' = t then v else r.drops t' := by
  unfold VlanTagCtl.Changes at h
  revert h
  cases r <;> cases t <;> cases v <;> cases t' <;> decide

def LagDb.vlanOf (db : LagDb) (c : Lchip) (g : BitVec 32) : VlanTagCtl :=
  ((db.hw c).port g).vlanCtl

theorem vlanOf_setPort (db : LagDb) (c : Lchip) (g : BitVec 32) (f : PortRegs → PortRegs)
    (c' : Lchip) (x : BitVec 32) : (db.setPort c g f).vlanOf c' x =
      if c' = c ∧ x = g then (f ((db.hw c).port g)).vlanCtl else db.vlanOf c' x := by
  unfold LagDb.vlanOf LagDb.setPort LagDb.setHw LagHw.setPort
  by_cases hc : c' = c
  · by_cases hx : x = g
    · simp [hc, hx]
    · simp [hc, hx]
  · simp [hc]

theorem vlanOf_setGroup (db : LagDb) (c : Lchip) (hw : LagHw)
    (grp : BitVec 8 → Finset (BitVec 32)) (c' : Lchip) (x : BitVec 32) :
    (db.setHw c { hw with group := grp }).vlanOf c' x = (db.setHw c hw).vlanOf c' x := by
  unfold LagDb.vlanOf LagDb.setHw
  by_cases hc : c' = c
  · simp [hc]
  · simp [hc]

/-- Neither a register nor a flag of a record changed. -/
structure DropsSame (db db' : LagDb) : Prop where
  lags : ∀ o t, (db'.lags.lookup o).map (·.drop t) = (db.lags.lookup o).map (·.drop t)
  vlan : ∀ c g, db'.vlanOf c g = db.vlanOf c g

theorem DropsSame.refl (db : LagDb) : DropsSame db db := ⟨fun _ _ => rfl, fun _ _ => rfl⟩

variable {db : LagDb} {o : Oid} {l : LagInfo}

theorem DropsSame.trans {db' db'' : LagDb} (h : DropsSame db db') (h' : DropsSame db' db'') :
    DropsSame db db'' :=
  ⟨fun o t => (h'.lags o t).trans (h.lags o t), fun c g => (h'.vlan c g).trans (h.vlan c g)⟩

theorem DropsSame.setPort (db : LagDb) (c : Lchip) (g : BitVec 32) {f : PortRegs → PortRegs}
    (hf : ∀ r, (f r).vlanCtl = r.vlanCtl) : DropsSame db (db.setPort c g f) where
  lags _ _ := rfl
  vlan c' x := by
    rw [vlanOf_setPort]
    split
    · next h => rw [hf, h.1, h.2]; rfl
    · rfl

theorem DropsSame.setLag {l' : LagInfo} (hl : db.lags.lookup o = some l)
    (hd : ∀ t, l'.drop t = l.drop t) :
    DropsSame db (db.setLag o l') where
  lags x t := by
    rw [lookup_setLag]
    split
    · next hx => rw [hx, hl]; exact congrArg some (hd t)
    · rfl
  vlan _ _ := rfl

theorem DropsSame.addedPort (db : LagDb) (c : Lchip) (tid : BitVec 8) (lag g : BitVec 32) :
    DropsSame db (db.addedPort c tid lag g) where
  lags _ _ := rfl
  vlan c' x := by
    unfold LagDb.addedPort
    rw [vlanOf_setGroup]
    exact (DropsSame.setPort db c g (by intro _; rfl)).vlan c' x

theorem DropsSame.lag {db' : LagDb} (h : DropsSame db db') {c : Lchip} (hl : db.lag c o = some l) :
    ∃ l', db'.lag c o = some l' ∧ ∀ t, l'.drop t = l.drop t := by
  unfold LagDb.lag at hl ⊢
  split at hl
  · next hc =>
    cases hl' : db'.lags.lookup o with
    | none =>
      have := h.lags o .untagged
      rw [hl, hl'] at this
      cases this
    | some l' =>
      refine ⟨l', if_pos hc, fun t => ?_⟩
      have := h.lags o t
      rw [hl, hl'] at this
      exact Option.some.inj this
  · cases hl

/-! ## The calls -/

theorem lookup_of_lag {c : Lchip} (h : db.lag c o = some l) :
    db.lags.lookup o = some l ∧ o.lchip = c := by
  unfold LagDb.lag at h
  split at h
  · next hc => exact ⟨h, hc⟩
  · cases h

theorem drop_setDrop (l : LagInfo) (t t' : PortDropType) (v : Bool) :
    (l.setDrop t v).drop t' = if t' = t then v else l.drop t' := by
  cases t <;> cases t' <;> rfl

theorem drops_vlanCtl (l : LagInfo) (t : PortDropType) : l.vlanCtl.drops t = l.drop t := by
  unfold LagInfo.vlanCtl
  cases t
  · unfold LagInfo.drop
    cases l.dropTagged <;> cases l.dropUntagged <;> rfl
  · unfold LagInfo.drop
    cases l.dropTagged <;> cases l.dropUntagged <;> rfl

section Succeeds

variable {pm : PortMap} {sdk : LagSdk} (hs : sdk.Succeeds)
include hs

theorem createMemberFlags_same {db : LagDb} {c : Lchip} {o : Oid} {l : LagInfo}
    (hl : db.lags.lookup o = some l) (port : BitVec 32) (out inn : Bool) :
    DropsSame db (createMemberFlags pm sdk db c o l port out inn).2 := by
  have hadd : DropsSame db (linkaggAddPort sdk db c .addPort (o.value.setWidth 8) o.value port).2 := by
    by_cases hin : port ∈ db.groupOf c (o.value.setWidth 8)
    · rw [linkaggAddPort_old hs _ _ _ hin]
      exact .refl db
    · rw [linkaggAddPort_new hs _ _ _ hin]
      exact .addedPort db c _ _ _
  unfold createMemberFlags
  cases out
  · cases inn
    · exact hadd
    · dsimp only
      obtain ⟨l', hl', hd⟩ := hadd.lag (by unfold LagDb.lag; rw [if_pos rfl]; exact hl)
      rw [regWrite_ok hs]
      refine hadd.trans ((DropsSame.setLag (lookup_of_lag hl').1 fun t => ?_).trans
        (.setPort _ _ _ ?_))
      · exact (hd t).symm
      · intro _; rfl
  · cases inn
    · dsimp only
      rw [regWrite_ok hs]
      refine (DropsSame.setLag hl fun _ => ?_).trans (.setPort _ _ _ ?_)
      · rfl
      · intro _; rfl
    · exact .setLag hl fun _ => rfl

/-- A join: nothing, or the register of the port has the flags of the LAG. -/
theorem createLagMember_drops (db : LagDb) (c : Lchip) (attrs : List LagMemberAttr) :
    ((createLagMember pm sdk db c attrs).1 ≠ .success ∧
      DropsSame db (createLagMember pm sdk db c attrs).2.2) ∨
    ∃ o port l, (createLagMember pm sdk db c attrs).1 = .success ∧
      findAttribInList LagMemberAttr.lagId? attrs = some o ∧
      findAttribInList LagMemberAttr.portId? attrs = some port ∧
      db.lags.lookup o = some l ∧
      (∀ x t, ((createLagMember pm sdk db c attrs).2.2.lags.lookup x).map (·.drop t) =
        (db.lags.lookup x).map (·.drop t)) ∧
      ∀ c' g t, ((createLagMember pm sdk db c attrs).2.2.vlanOf c' g).drops t =
        if c' = c ∧ g = port.value then l.drop t else (db.vlanOf c' g).drops t := by
  generalize hr : createLagMember pm sdk db c attrs = r
  unfold createLagMember at hr
  split at hr
  · subst hr; exact .inl ⟨nofun, .refl db⟩
  split at hr
  · next o port ho hport =>
    split at hr
    · subst hr; exact .inl ⟨nofun, .refl db⟩
    next l hl =>
    obtain ⟨hlook, rfl⟩ := lookup_of_lag hl
    dsimp only at hr
    generalize (findAttribInList LagMemberAttr.egressDisable? attrs).getD false = out at hr
    generalize (findAttribInList LagMemberAttr.ingressDisable? attrs).getD false = inn at hr
    have hsame := @createMemberFlags_same pm sdk hs db o.lchip o l hlook port.value out inn
    split at hr
    · next db₁ hflags =>
      rw [hflags] at hsame
      obtain ⟨l₁, hl₁, hd₁⟩ := hsame.lag hl
      rw [hs, hs, hs] at hr
      dsimp only [mappingErrorCtc] at hr
      rw [hl₁] at hr
      dsimp only at hr
      rw [createMemberRegs_eq hs] at hr
      subst hr
      have hrec : DropsSame db (db₁.setLag o
          { l₁ with memberPorts := insert (pm.lport port.value) l₁.memberPorts }) :=
        hsame.trans (.setLag (lookup_of_lag hl₁).1 fun _ => rfl)
      refine .inr ⟨o, port, l, rfl, ho, hport, hlook, hrec.lags, fun c' g t => ?_⟩
      rw [vlanOf_setPort]
      split
      · exact (drops_vlanCtl _ t).trans (hd₁ t)
      · rw [hrec.vlan]
    · next status db₁ hne hflags =>
      rw [hflags] at hsame
      subst hr
      exact .inl ⟨hne, hsame⟩
  · subst hr; exact .inl ⟨nofun, .refl db⟩

theorem lagSetMembers_ok (c : Lchip) (mode : VlanTagCtl) (bits : List Nat) (db : LagDb) :
    ∃ db', lagSetMembers pm sdk c mode db bits = (.success, db') ∧ db'.lags = db.lags ∧
      ∀ c' g, db'.vlanOf c' g =
        if c' = c ∧ g ∈ bits.map (pm.gport c) then mode else db.vlanOf c' g := by
  induction bits generalizing db with
  | nil => exact ⟨db, rfl, rfl, fun c' g => by simp⟩
  | cons b rest ih =>
    obtain ⟨db', heq, hlags, hvlan⟩ :=
      ih (db.setPort c (pm.gport c b) fun r => { r with vlanCtl := mode })
    refine ⟨db', ?_, hlags, fun c' g => ?_⟩
    · rw [lagSetMembers, regWrite_ok hs]
      exact heq
    · rw [hvlan, vlanOf_setPort]
      by_cases hc : c' = c
      · by_cases hg : g = pm.gport c b
        · simp [hc, hg]
        · simp [hc, hg]
      · simp [hc]

end Succeeds

/-! ## Runs -/

/-- What holds in every state of an admitted run. -/
structure DropInv (s : DropState) : Prop where
  reg : ∀ c g t, (s.db.vlanOf c g).drops t = s.port c g t
  lag : ∀ o l, s.db.lags.lookup o = some l → ∀ t, s.lag o t = l.drop t

section Inv

variable {pm : PortMap} {s : DropState} {sdk : LagSdk}
variable {s' : DropState}

theorem DropInv.setPort (h : DropInv s) (hs : sdk.Succeeds) {oid : Oid} {t : PortDropType}
    {v : Bool} (hsafe : DropSafe pm s (.setPort sdk oid t v))
    (hst : dropStep pm s (.setPort sdk oid t v) = some s') : DropInv s' := by
  have hset : portSetDropTags sdk s.db oid t v =
      (.success, s.db.setPort oid.lchip oid.value fun r => { r with
        vlanCtl := portMappingTagsMode t v .allowAllPackets (s.db.vlanOf oid.lchip oid.value) }) := by
    unfold portSetDropTags
    rw [hs]
    exact regWrite_ok hs ..
  unfold dropStep at hst
  dsimp only at hst
  rw [hset] at hst
  cases hst
  refine ⟨fun c g t' => ?_, h.lag⟩
  show _ = notePort s.port oid.lchip oid.value t v c g t'
  rw [vlanOf_setPort]
  unfold notePort
  split
  · next hcg =>
    refine (drops_portMappingTagsMode hsafe t').trans ?_
    rw [hcg.1, hcg.2]
    split
    · next ht => exact (if_pos ⟨rfl, rfl, ht⟩).symm
    · next ht =>
      rw [if_neg fun hc => ht hc.2.2]
      exact h.reg oid.lchip oid.value t'
  · next hcg =>
    rw [if_neg fun hc => hcg ⟨hc.1, hc.2.1⟩]
    exact h.reg c g t'

theorem lagDropMode_ok (hs : sdk.Succeeds) {c : Lchip} {l : LagInfo} {t : PortDropType} {v : Bool}
    {db : LagDb} (hsafe : ∀ b rest, l.bits = b :: rest →
      (db.vlanOf c (pm.gport c b)).Changes t v ∧ ∀ b' ∈ rest, ∀ t', t' ≠ t →
        (db.vlanOf c (pm.gport c b')).drops t' = (db.vlanOf c (pm.gport c b)).drops t') :
    ∃ mode, lagDropMode pm sdk db c l t v = .ok mode ∧ ∀ b ∈ l.bits, ∀ t',
      mode.drops t' = if t' = t then v else (db.vlanOf c (pm.gport c b)).drops t' := by
  unfold lagDropMode
  cases hb : l.bits with
  | nil => exact ⟨_, rfl, nofun⟩
  | cons b rest =>
    obtain ⟨hch, heq⟩ := hsafe b rest hb
    dsimp only
    rw [hs]
    refine ⟨_, rfl, fun b' hb' t' => ?_⟩
    refine (drops_portMappingTagsMode hch t').trans ?_
    rcases List.mem_cons.mp hb' with rfl | hmem
    · rfl
    · split
      · rfl
      · next ht => exact (heq b' hmem t' ht).symm

theorem DropInv.setLag (h : DropInv s) (hs : sdk.Succeeds) {oid : Oid} {t : PortDropType} {v : Bool}
    (hsafe : DropSafe pm s (.setLag sdk oid t v))
    (hst : dropStep pm s (.setLag sdk oid t v) = some s') : DropInv s' := by
  cases hl : s.db.lag oid.lchip oid with
  | none =>
    have hset : lagSetDropInfo pm sdk s.db oid t v = (.invalidObjectId, s.db) := by
      unfold lagSetDropInfo
      dsimp only
      rw [hl]
    unfold dropStep at hst
    dsimp only at hst
    rw [hset] at hst
    cases hst
    exact h
  | some l =>
    have hmem : s.db.members oid = l := congrArg (·.getD .empty) hl
    unfold DropSafe at hsafe
    dsimp only at hsafe
    rw [hmem] at hsafe
    obtain ⟨mode, hmode, hdrops⟩ := @lagDropMode_ok pm sdk hs oid.lchip l t v s.db hsafe
    obtain ⟨db', heq, hlags, hvlan⟩ :=
      @lagSetMembers_ok pm sdk hs oid.lchip mode l.bits s.db
    have hset : lagSetDropInfo pm sdk s.db oid t v =
        (.success, db'.setLag oid (l.setDrop t v)) := by
      unfold lagSetDropInfo
      dsimp only
      rw [hl]
      dsimp only
      rw [hmode]
      dsimp only
      rw [heq]
    unfold dropStep at hst
    dsimp only at hst
    rw [hset, hmem] at hst
    cases hst
    refine ⟨fun c g t' => ?_, fun x lx hx t' => ?_⟩
    · show (db'.vlanOf c g).drops t' = noteMembers pm s.port oid.lchip l t v c g t'
      rw [hvlan]
      unfold noteMembers
      by_cases hcg : c = oid.lchip ∧ g ∈ l.bits.map (pm.gport oid.lchip)
      · obtain ⟨b, hb, hg⟩ := List.mem_map.mp hcg.2
        rw [if_pos hcg, hdrops b hb]
        by_cases ht : t' = t
        · simp [hcg.1, hcg.2, ht]
        · simp only [ht, and_false, if_false]
          rw [hg, ← hcg.1]
          exact h.reg c g t'
      · rw [if_neg hcg, if_neg (fun hc => hcg ⟨hc.1, hc.2.1⟩)]
        exact h.reg c g t'
    · have hx' : (if x = oid then some (l.setDrop t v) else s.db.lags.lookup x) = some lx := by
        rw [← hlags, ← lookup_setLag]
        exact hx
      show noteLag s.lag oid t v x t' = lx.drop t'
      unfold noteLag
      split at hx'
      · next hxo =>
        cases hx'
        rw [drop_setDrop, hxo, h.lag oid l (lookup_of_lag hl).1]
        split
        · next hc => exact (if_pos hc.2).symm
        · next hc => exact (if_neg fun ht => hc ⟨rfl, ht⟩).symm
      · next hxo =>
        rw [if_neg (fun hc => hxo hc.1)]
        exact h.lag x lx hx' t'

theorem DropInv.join (h : DropInv s) (hs : sdk.Succeeds) {c : Lchip} {attrs : List LagMemberAttr}
    (hst : dropStep pm s (.join sdk c attrs) = some s') : DropInv s' := by
  have hmap : ∀ {db : LagDb}, (∀ x t, (db.lags.lookup x).map (·.drop t) =
      (s.db.lags.lookup x).map (·.drop t)) → ∀ o l, db.lags.lookup o = some l →
        ∀ t, s.lag o t = l.drop t := by
    intro db hlags o l hl t
    have hm := hlags o t
    rw [hl] at hm
    obtain ⟨l', hl', hd⟩ := Option.map_eq_some_iff.mp hm.symm
    rw [h.lag o l' hl' t, hd]
  rcases @createLagMember_drops pm sdk hs s.db c attrs with
    ⟨hno, hsame⟩ | ⟨o, port, l, hok, ho, hport, hl, hlags, hvlan⟩
  · have hport : s'.port = s.port := by
      cases hst
      split
      · exact if_neg hno
      · rfl
    cases hst
    refine ⟨fun c' g t => ?_, hmap hsame.lags⟩
    rw [hport, hsame.vlan]
    exact h.reg c' g t
  have hnote : s'.port = noteJoin s.port c port.value (s.lag o) := by
    cases hst
    rw [ho, hport]
    exact if_pos hok
  cases hst
  refine ⟨fun c' g t => ?_, hmap hlags⟩
  rw [hnote, hvlan]
  unfold noteJoin
  split
  · exact (h.lag o l hl t).symm
  · exact h.reg c' g t

theorem dropStep_inv (h : DropInv s) {op : DropOp} (hop : DropAssumed op) (hsafe : DropSafe pm s op)
    (hst : dropStep pm s op = some s') :
    DropInv s' := by
  cases op with
  | setPort sdk oid t v => exact h.setPort hop hsafe hst
  | setLag sdk oid t v => exact h.setLag hop hsafe hst
  | join sdk c attrs => exact h.join hop hst

theorem DropStart.inv (h : DropStart s) : DropInv s where
  reg c g t := by
    rw [h.port]
    unfold LagDb.vlanOf
    rw [h.vlanCtl]
    cases t <;> rfl
  lag := h.lag

theorem DropInv.ok (h : DropInv s) : DropOk s where
  reg := h.reg
  portGet sdk hs oid t := by
    unfold portGetDropTags
    rw [hs]
    exact congrArg (fun b => (Status.success, some b)) (h.reg oid.lchip oid.value t)
  lagGet oid l t hl := by
    unfold lagGetDropInfo
    rw [hl]
    exact congrArg (fun b => (Status.success, some b)) (h.lag oid l (lookup_of_lag hl).1 t).symm

end Inv

/-- In a run in which every set changes the flag of a register, or finds it at
ALLOW_ALL_PACKETS, and in which the members of a LAG that is set agree on the
other flag, each register holds the flags last set on its port, and get returns
them. -/
theorem dropTags_of_run {pm : PortMap} {s : DropState}
    (h : Reachable DropStart (fun s op => DropAssumed op ∧ DropSafe pm s op) (dropStep pm) s) :
    DropOk s := by
  have hi : DropInv s := Reachable.inv (fun _ hs => hs.inv)
    (fun _ _ _ hs hop hst => dropStep_inv hs hop.1 hop.2 hst) h
  exact hi.ok

/-! ## Two runs -/

/-- One LAG on chip 0, and every register at ALLOW_ALL_PACKETS. -/
def DropState.startOne : DropState := ⟨LagState.startOne.db, fun _ _ _ => false, fun _ _ => false⟩

theorem DropState.startOne_start : DropStart DropState.startOne where
  vlanCtl _ _ := rfl
  members o l hl := by rw [(LagState.startOne_lookup hl).2]; rfl
  port _ _ _ := rfl
  lag o l hl t := by
    rw [(LagState.startOne_lookup hl).2]
    cases t <;> rfl

/-- DROP_UNTAGGED of port 5 becomes TRUE. -/
def dropUntaggedFifth : DropOp := .setPort ⟨fun _ => .none⟩ fifthPort .untagged true

/-- Both flags are set on a port, one after the other. -/
theorem dropTags_of_run_two : ∃ s : DropState, DropOk s ∧
    ((s.db.hw 0).port 5).vlanCtl = .dropAll := by
  have r₀ : Reachable DropStart (fun s op => DropAssumed op ∧ DropSafe .plain s op)
      (dropStep .plain) DropState.startOne := .start DropState.startOne_start
  have r₁ := r₀.next dropUntaggedFifth (by
    refine ⟨fun _ => rfl, Or.inr ?_⟩
    rfl) rfl
  have r₂ := r₁.next (.setPort ⟨fun _ => .none⟩ fifthPort .tagged true) (by
    refine ⟨fun _ => rfl, Or.inl ?_⟩
    decide) rfl
  exact ⟨_, dropTags_of_run r₂, by decide⟩

/-- The flag is set to TRUE twice. -/
theorem dropTags_not_every_run : ¬ ∀ (pm : PortMap) (s : DropState),
    Reachable DropStart (fun _ op => DropAssumed op) (dropStep pm) s → DropOk s := by
  intro h
  have r₀ : Reachable DropStart (fun _ op => DropAssumed op)
      (dropStep .plain) DropState.startOne := .start DropState.startOne_start
  have r₁ := r₀.next dropUntaggedFifth (by intro _; rfl) rfl
  have r₂ := r₁.next dropUntaggedFifth (by intro _; rfl) rfl
  have hreg := (h _ _ r₂).reg 0 5 .untagged
  revert hreg
  decide

end CtcSai
