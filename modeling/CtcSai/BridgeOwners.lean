/-
# `BridgeOwners` — who has the ids and the switches of bridge ports

The owners of logic ports are the sub-ports and the tunnels, those of next hops
the sub-ports beside the next hops of other modules.  A port counts its sub-ports,
and its two registers follow the counts of whoever it belongs to: its LAG, or
itself.
-/
import CtcSai.BridgeResources
import CtcSai.StpBookkeeping

namespace CtcSai

open KeyedTable IdPool Ownership SharedSwitch Table

variable {bc : BridgeChip}

/-! ## Owners, counts and switches -/

def BridgePort.logicIds (bp : BridgePort) : Finset Nat :=
  if bp.portType = .subPort then {bp.logicPort.toNat} else ∅

def BridgePort.nhIds (bp : BridgePort) : Finset Nat :=
  if bp.portType = .subPort then {bp.nhId.toNat} else ∅

/-- The logic port of a tunnel that has one. -/
def BridgeTunnel.logicIds (t : BridgeTunnel) : Finset Nat :=
  if t.tunnelType.hasLogicPort then {t.logicPort.toNat} else ∅

/-- The logic ports of a bridge port and of a tunnel. -/
def logicOwns (bridgePorts : Table Oid BridgePort) (tunnels : Table Oid BridgeTunnel) :
    Oid ⊕ Oid → Finset Nat
  | .inl p => ((bridgePorts.lookup p).map BridgePort.logicIds).getD ∅
  | .inr t => ((tunnels.lookup t).map BridgeTunnel.logicIds).getD ∅

def nhOwns (bridgePorts : Table Oid BridgePort) (p : Oid) : Finset Nat :=
  ((bridgePorts.lookup p).map BridgePort.nhIds).getD ∅

/-- A sub-port of the port or the LAG. -/
def isSubPortOf (h : BitVec 32) (_ : Oid) (bp : BridgePort) : Bool :=
  bp.portType = .subPort ∧ bp.gport.setWidth 32 = h

namespace ResView

variable (v : ResView bc)

/-- A LAG that is there, or a port that is in no LAG. -/
def Holder (h : BitVec 32) : Prop :=
  if isLinkaggPort h then (v.members h).isSome = true
  else ∀ h' l, isLinkaggPort h' = true → v.members h' = some l → h ∉ l

/-- The registers of `g` are those of `h`. -/
def Uses (g h : BitVec 32) : Prop := v.Holder h ∧ g ∈ v.ports h

/-- No port is in two LAGs. -/
def LagsApart : Prop := ∀ h h' l l' g, isLinkaggPort h = true → isLinkaggPort h' = true →
  v.members h = some l → v.members h' = some l' → g ∈ l → g ∈ l' → h = h'

def users (h : BitVec 32) : Nat := (v.sub h).toNat + v.subIf h

end ResView

theorem uses_unique {v : ResView bc} (ha : v.LagsApart) {g h h' : BitVec 32} (hu : v.Uses g h)
    (hu' : v.Uses g h') : h' = h := by
  obtain ⟨hold, hg⟩ := hu
  obtain ⟨hold', hg'⟩ := hu'
  simp only [ResView.Holder] at hold hold'
  simp only [ResView.ports] at hg hg'
  by_cases hl : isLinkaggPort h = true
  · rw [if_pos hl] at hold hg
    obtain ⟨l, hm⟩ := Option.isSome_iff_exists.mp hold
    rw [hm] at hg
    by_cases hl' : isLinkaggPort h' = true
    · rw [if_pos hl'] at hold' hg'
      obtain ⟨l', hm'⟩ := Option.isSome_iff_exists.mp hold'
      rw [hm'] at hg'
      exact ha h' h l' l g hl' hl hm' hm hg' hg
    · rw [if_neg hl'] at hold' hg'
      rw [List.mem_singleton.mp hg'] at hg
      exact absurd hg (hold' h l hl hm)
  rw [if_neg hl] at hold hg
  have hgh := List.mem_singleton.mp hg
  by_cases hl' : isLinkaggPort h' = true
  · rw [if_pos hl'] at hold' hg'
    obtain ⟨l', hm'⟩ := Option.isSome_iff_exists.mp hold'
    rw [hm', hgh] at hg'
    exact absurd hg' (hold h' l' hl' hm')
  · rw [if_neg hl'] at hg'
    rw [← List.mem_singleton.mp hg', hgh]

/-- The registers of the ports of one holder are written as its new number wants
them. -/
theorem agrees_switch {v : ResView bc} (ha : v.LagsApart) {n : BitVec 32 → Nat}
    {on : BitVec 32 → Bool} (hag : Agrees v.Uses n on) {h : BitVec 32} (hh : v.Holder h) {k : Nat}
    {b : Bool} (hb : b = true ↔ 0 < k) :
    Agrees v.Uses (Function.update n h k) (fun g => if g ∈ v.ports h then b else on g) := by
  refine hag.write hb (fun r hr => hr.2) ?_ ?_ ?_
  · intro r hr x hx
    exact uses_unique ha ⟨hh, hr⟩ hx
  · intro r hr
    exact if_pos hr
  · intro r hr
    exact if_neg hr

theorem users_setSub (v : ResView bc) (h cnt : BitVec 32) :
    (v.setSub h cnt).users = Function.update v.users h (cnt.toNat + v.subIf h) := by
  funext x
  simp only [ResView.users, ResView.setSub, Function.update_apply]
  split
  · next he => rw [he]
  · rfl

theorem sub_setSub (v : ResView bc) (h cnt : BitVec 32) :
    (fun x => ((v.setSub h cnt).sub x).toNat) =
      Function.update (fun x => (v.sub x).toNat) h cnt.toNat := by
  funext x
  simp only [ResView.setSub, Function.update_apply]
  split <;> rfl

section Leave

variable {v : ResView bc} {h : BitVec 32} {l n : Nat}

theorem eq_one_of_sub_one {x : BitVec 32} (hx : 0 < x.toNat) (hz : x - 1 = 0) : x = 1 := by
  have hzero : (x - 1).toNat = 0 := congrArg BitVec.toNat hz
  rw [toNat_sub_one (Nat.sub_add_cancel hx).symm] at hzero
  apply BitVec.eq_of_toNat_eq
  show x.toNat = 1
  omega

theorem ResView.leave_logicPorts : (v.leave h l n).logicPorts = v.logicPorts.free l := by
  simp only [ResView.leave]
  split <;> rfl

theorem ResView.leave_nexthops : (v.leave h l n).nexthops = v.nexthops.free n := by
  simp only [ResView.leave]
  split <;> rfl

theorem ResView.leave_tunnels : (v.leave h l n).tunnels = v.tunnels := by
  simp only [ResView.leave]
  split <;> rfl

theorem ResView.leave_members : (v.leave h l n).members = v.members := by
  simp only [ResView.leave]
  split <;> rfl

theorem ResView.leave_binding : (v.leave h l n).binding = v.binding := by
  simp only [ResView.leave]
  split <;> rfl

theorem ResView.leave_subIf : (v.leave h l n).subIf = v.subIf := by
  simp only [ResView.leave]
  split <;> rfl

theorem ResView.leave_sub :
    (v.leave h l n).sub = Function.update v.sub h (v.sub h - 1) := by
  simp only [ResView.leave]
  split <;> rfl

theorem ResView.leave_holder : (v.leave h l n).Holder = v.Holder := by
  funext x
  simp only [ResView.Holder, leave_members]

theorem ResView.leave_uses : (v.leave h l n).Uses = v.Uses := by
  funext x y
  simp only [ResView.Uses, leave_holder, ResView.ports, leave_members]

theorem ResView.leave_users :
    (v.leave h l n).users = Function.update v.users h ((v.sub h - 1).toNat + v.subIf h) := by
  rw [← users_setSub]
  funext x
  simp only [ResView.users, leave_sub, leave_subIf, ResView.setSub]

/-- The SCL lookup stays for another sub-port, or for a sub-interface. -/
theorem ResView.leave_scl (ha : v.LagsApart) (hag : Agrees v.Uses v.users v.scl)
    (hh : v.Holder h) (hpos : 0 < (v.sub h).toNat) (hlast : v.sub h = 1 → v.subIf h = 0) :
    Agrees (v.leave h l n).Uses (v.leave h l n).users (v.leave h l n).scl := by
  rw [leave_uses, leave_users]
  by_cases hz : v.sub h - 1 = 0
  · have hscl : (v.leave h l n).scl = fun x => if x ∈ v.ports h then false else v.scl x := by
      rw [ResView.leave, if_pos hz]
      rfl
    rw [hscl, hz, hlast (eq_one_of_sub_one hpos hz)]
    exact agrees_switch ha hag hh (by decide)
  have hscl : (v.leave h l n).scl = v.scl := by
    rw [ResView.leave, if_neg hz]
    rfl
  rw [hscl]
  refine hag.keep ?_
  have hne : (v.sub h - 1).toNat ≠ 0 := fun he => hz (BitVec.eq_of_toNat_eq he)
  simp only [ResView.users]
  omega

theorem ResView.leave_reflective (ha : v.LagsApart)
    (hag : Agrees v.Uses (fun x => (v.sub x).toNat) v.reflective) (hh : v.Holder h)
    (hpos : 0 < (v.sub h).toNat) :
    Agrees (v.leave h l n).Uses (fun x => ((v.leave h l n).sub x).toNat)
      (v.leave h l n).reflective := by
  have hsub : (fun x => ((v.leave h l n).sub x).toNat) =
      Function.update (fun x => (v.sub x).toNat) h (v.sub h - 1).toNat := by
    rw [leave_sub]
    exact sub_setSub v h _
  rw [leave_uses, hsub]
  by_cases hz : v.sub h - 1 = 0
  · have hrefl : (v.leave h l n).reflective =
        fun x => if x ∈ v.ports h then false else v.reflective x := by
      rw [ResView.leave, if_pos hz]
      rfl
    rw [hrefl, hz]
    exact agrees_switch ha hag hh (by decide)
  have hrefl : (v.leave h l n).reflective = v.reflective := by
    rw [ResView.leave, if_neg hz]
    rfl
  rw [hrefl]
  refine hag.keep ?_
  have hne : (v.sub h - 1).toNat ≠ 0 := fun he => hz (BitVec.eq_of_toNat_eq he)
  omega

end Leave

/-- What holds of the ids, the counts and the registers of a chip. -/
structure ResInv (c : Lchip) (foreign : Finset Nat) (db : BridgeDb bc) : Prop where
  logic : OwnsAll ∅ (logicOwns db.bridgePorts db.tunnels) db.logicPorts.used
  nexthop : OwnsAll foreign (nhOwns db.bridgePorts) db.nexthops.used
  strayLogic : db.logicPorts.stray = []
  strayNexthop : db.nexthops.stray = []
  subPort : ∀ p bp, db.bridgePorts.lookup p = some bp → bp.portType = .subPort →
    p = bridgePortIdOf c .subPort (bp.logicPort.setWidth 32) ∧
      (db.res c).Holder (bp.gport.setWidth 32)
  oidType : ∀ p bp, db.bridgePorts.lookup p = some bp → p.subType = 1 → bp.portType = .subPort
  count : ∀ h, ((db.res c).sub h).toNat = Table.count (isSubPortOf h) db.bridgePorts
  scl : Agrees (db.res c).Uses (db.res c).users (db.res c).scl
  reflective : Agrees (db.res c).Uses (fun h => ((db.res c).sub h).toNat) (db.res c).reflective
  apart : (db.res c).LagsApart
  binding : ∀ h, isLinkaggPort h = true → 0 < (db.res c).subIf h → (db.res c).binding h = true

section Steps

variable {c : Lchip} {foreign : Finset Nat} {db db' : BridgeDb bc}
variable {bp : BridgePort} {t : Table Oid BridgePort} {p : Oid}

theorem logicIds_of_ne (h : bp.portType ≠ .subPort) : bp.logicIds = ∅ :=
  if_neg h

theorem nhIds_of_ne (h : bp.portType ≠ .subPort) : bp.nhIds = ∅ := if_neg h

theorem unit_isSubPortOf_of_ne (h : bp.portType ≠ .subPort) (g : BitVec 32) (p : Oid) :
    Table.unit (isSubPortOf g) p bp = 0 := by
  simp only [Table.unit, isSubPortOf, h, false_and, decide_false, Bool.false_eq_true, if_false]

theorem unit_isSubPortOf_self (hsub : bp.portType = .subPort) :
    Table.unit (isSubPortOf (bp.gport.setWidth 32)) p bp = 1 := by
  rw [Table.unit, if_pos]
  simp only [isSubPortOf, hsub, decide_true, and_self]

theorem unit_isSubPortOf_of_gport {x : BitVec 32} (hx : x ≠ bp.gport.setWidth 32) :
    Table.unit (isSubPortOf x) p bp = 0 := by
  rw [Table.unit, if_neg]
  simp only [isSubPortOf, decide_eq_true_eq, not_and]
  exact fun _ he => hx he.symm

theorem logicOwns_insert (t : Table Oid BridgePort) (tunnels : Table Oid BridgeTunnel) (p : Oid)
    (bp : BridgePort) : logicOwns (t.insert p bp) tunnels =
      Function.update (logicOwns t tunnels) (.inl p) bp.logicIds := by
  funext k
  cases k with
  | inl q =>
    simp only [logicOwns, lookup_insert_ite, Function.update_apply, Sum.inl.injEq]
    split <;> rfl
  | inr q =>
    rfl

theorem logicOwns_erase (t : Table Oid BridgePort) (tunnels : Table Oid BridgeTunnel) (p : Oid) :
    logicOwns (t.erase p) tunnels = Function.update (logicOwns t tunnels) (.inl p) ∅ := by
  funext k
  cases k with
  | inl q =>
    simp only [logicOwns, lookup_erase_ite, Function.update_apply, Sum.inl.injEq]
    split <;> rfl
  | inr q =>
    rfl

theorem logicOwns_insertTunnel (t : Table Oid BridgePort) (tunnels : Table Oid BridgeTunnel)
    (o : Oid) (x : BridgeTunnel) : logicOwns t (tunnels.insert o x) =
      Function.update (logicOwns t tunnels) (.inr o) x.logicIds := by
  funext k
  cases k with
  | inl q =>
    rfl
  | inr q =>
    simp only [logicOwns, lookup_insert_ite, Function.update_apply, Sum.inr.injEq]
    split <;> rfl

theorem logicOwns_eraseTunnel (t : Table Oid BridgePort) (tunnels : Table Oid BridgeTunnel)
    (o : Oid) : logicOwns t (tunnels.erase o) =
      Function.update (logicOwns t tunnels) (.inr o) ∅ := by
  funext k
  cases k with
  | inl q =>
    rfl
  | inr q =>
    simp only [logicOwns, lookup_erase_ite, Function.update_apply, Sum.inr.injEq]
    split <;> rfl

theorem nhOwns_insert (t : Table Oid BridgePort) (p : Oid) (bp : BridgePort) :
    nhOwns (t.insert p bp) = Function.update (nhOwns t) p bp.nhIds := by
  funext q
  simp only [nhOwns, lookup_insert_ite, Function.update_apply]
  split <;> rfl

theorem nhOwns_erase (t : Table Oid BridgePort) (p : Oid) :
    nhOwns (t.erase p) = Function.update (nhOwns t) p ∅ := by
  funext q
  simp only [nhOwns, lookup_erase_ite, Function.update_apply]
  split <;> rfl

theorem logicOwns_inl (tunnels : Table Oid BridgeTunnel) (hl : t.lookup p = some bp) :
    logicOwns t tunnels (.inl p) = bp.logicIds := by
  simp only [logicOwns, hl, Option.map_some, Option.getD_some]

theorem nhOwns_of (hl : t.lookup p = some bp) : nhOwns t p = bp.nhIds := by
  simp only [nhOwns, hl, Option.map_some, Option.getD_some]

theorem logicOwns_subPort (tunnels : Table Oid BridgeTunnel) (hl : t.lookup p = some bp)
    (hsub : bp.portType = .subPort) : logicOwns t tunnels (.inl p) = {bp.logicPort.toNat} :=
  (logicOwns_inl tunnels hl).trans (if_pos hsub)

theorem nhOwns_subPort (hl : t.lookup p = some bp) (hsub : bp.portType = .subPort) :
    nhOwns t p = {bp.nhId.toNat} :=
  (nhOwns_of hl).trans (if_pos hsub)

theorem logicOwns_inl_none (tunnels : Table Oid BridgeTunnel) (hl : t.lookup p = none) :
    logicOwns t tunnels (.inl p) = ∅ := by
  simp only [logicOwns, hl, Option.map_none, Option.getD_none]

theorem nhOwns_none (hl : t.lookup p = none) : nhOwns t p = ∅ := by
  simp only [nhOwns, hl, Option.map_none, Option.getD_none]

/-- The view and the owners are the same, and new records are no sub-ports. -/
theorem ResInv.congr (h : ResInv c foreign db) (hv : db'.res c = db.res c)
    (hlogic : logicOwns db'.bridgePorts db.tunnels = logicOwns db.bridgePorts db.tunnels)
    (hnext : nhOwns db'.bridgePorts = nhOwns db.bridgePorts)
    (hcount : ∀ g, Table.count (isSubPortOf g) db'.bridgePorts =
      Table.count (isSubPortOf g) db.bridgePorts)
    (hnew : ∀ p bp, db'.bridgePorts.lookup p = some bp → db.bridgePorts.lookup p = some bp ∨
      bp.portType ≠ .subPort ∧ p.subType ≠ 1) : ResInv c foreign db' := by
  have hl : db'.logicPorts = db.logicPorts := congrArg ResView.logicPorts hv
  have hn : db'.nexthops = db.nexthops := congrArg ResView.nexthops hv
  have ht : db'.tunnels = db.tunnels := congrArg ResView.tunnels hv
  refine ⟨?_, ?_, ?_, ?_, ?_, ?_, ?_, ?_, ?_, ?_, ?_⟩
  · rw [hl, ht, hlogic]
    exact h.logic
  · rw [hn, hnext]
    exact h.nexthop
  · rw [hl]
    exact h.strayLogic
  · rw [hn]
    exact h.strayNexthop
  · intro p bp hp hsub
    rw [hv]
    rcases hnew p bp hp with hold | ⟨hne, -⟩
    · exact h.subPort p bp hold hsub
    · exact absurd hsub hne
  · intro p bp hp hone
    rcases hnew p bp hp with hold | ⟨-, hne⟩
    · exact h.oidType p bp hold hone
    · exact absurd hone hne
  · intro g
    rw [hv, hcount]
    exact h.count g
  · rw [hv]
    exact h.scl
  · rw [hv]
    exact h.reflective
  · rw [hv]
    exact h.apart
  · rw [hv]
    exact h.binding

theorem ResInv.keep (h : ResInv c foreign db) (hv : db'.res c = db.res c)
    (hb : db'.bridgePorts = db.bridgePorts) : ResInv c foreign db' := by
  refine h.congr hv (by rw [hb]) (by rw [hb]) (fun g => by rw [hb]) fun p bp hp => .inl ?_
  rw [← hb]
  exact hp

theorem ResInv.addOther (h : ResInv c foreign db) (hv : db'.res c = db.res c)
    (hb : db'.bridgePorts = db.bridgePorts.insert p bp) (hfresh : db.bridgePorts.lookup p = none)
    (hne : bp.portType ≠ .subPort) (hp : p.subType ≠ 1) : ResInv c foreign db' := by
  refine h.congr hv ?_ ?_ ?_ ?_
  · rw [hb, logicOwns_insert, logicIds_of_ne hne, ← logicOwns_inl_none db.tunnels hfresh,
      Function.update_eq_self]
  · rw [hb, nhOwns_insert, nhIds_of_ne hne, ← nhOwns_none hfresh, Function.update_eq_self]
  · intro g
    rw [hb, count_insert_new hfresh, unit_isSubPortOf_of_ne hne, Nat.add_zero]
  · intro q x hq
    rw [hb] at hq
    rcases of_lookup_insert hq with ⟨he, rfl⟩ | ⟨-, hq⟩
    · exact .inr ⟨hne, he ▸ hp⟩
    · exact .inl hq

theorem ResInv.eraseOther (h : ResInv c foreign db) (hv : db'.res c = db.res c)
    (hb : db'.bridgePorts = db.bridgePorts.erase p) (hlook : db.bridgePorts.lookup p = some bp)
    (hne : bp.portType ≠ .subPort) :
    ResInv c foreign db' := by
  refine h.congr hv ?_ ?_ ?_ ?_
  · rw [hb, logicOwns_erase, ← logicIds_of_ne hne, ← logicOwns_inl db.tunnels hlook,
      Function.update_eq_self]
  · rw [hb, nhOwns_erase, ← nhIds_of_ne hne, ← nhOwns_of hlook, Function.update_eq_self]
  · intro g
    rw [hb, count_erase hlook, unit_isSubPortOf_of_ne hne, Nat.add_zero]
  · intro q x hq
    rw [hb] at hq
    exact .inl (of_lookup_erase hq).2

/-! ## A sub-port comes and goes -/

/-- The bridge ports, the next hops and the counters of sub-ports stay. -/
theorem ResInv.change (h : ResInv c foreign db) {pl : Pool bc.logicPorts}
    {tunnels : Table Oid BridgeTunnel} {subIf : BitVec 32 → Nat} {binding scl refl : BitVec 32 → Bool}
    (hv : db'.res c = { db.res c with
      logicPorts := pl, tunnels := tunnels, subIf := subIf, binding := binding, scl := scl,
      reflective := refl })
    (hb : db'.bridgePorts = db.bridgePorts)
    (hlogic : OwnsAll ∅ (logicOwns db.bridgePorts tunnels) pl.used) (hstray : pl.stray = [])
    (hscl : Agrees (db.res c).Uses (fun x => ((db.res c).sub x).toNat + subIf x) scl)
    (hrefl : Agrees (db.res c).Uses (fun x => ((db.res c).sub x).toNat) refl)
    (hbind : ∀ x, isLinkaggPort x = true → 0 < subIf x → binding x = true) :
    ResInv c foreign db' := by
  have hl : db'.logicPorts = pl := congrArg ResView.logicPorts hv
  have hn : db'.nexthops = db.nexthops := congrArg ResView.nexthops hv
  have ht : db'.tunnels = tunnels := congrArg ResView.tunnels hv
  refine ⟨?_, ?_, ?_, ?_, ?_, ?_, ?_, ?_, ?_, ?_, ?_⟩
  · rw [hl, ht, hb]
    exact hlogic
  · rw [hn, hb]
    exact h.nexthop
  · rw [hl]
    exact hstray
  · rw [hn]
    exact h.strayNexthop
  · rw [hv, hb]
    exact h.subPort
  · rw [hb]
    exact h.oidType
  · rw [hv, hb]
    exact h.count
  · rw [hv]
    exact hscl
  · rw [hv]
    exact hrefl
  · rw [hv]
    exact h.apart
  · rw [hv]
    exact hbind

theorem ResInv.switch (h : ResInv c foreign db) {g : BitVec 32} (hg : (db.res c).Holder g)
    {on : Bool} (hon : on = true ↔ 0 < (db.res c).users g)
    (hsub : on = true ↔ 0 < ((db.res c).sub g).toNat) (hv : db'.res c = (db.res c).switch on g)
    (hb : db'.bridgePorts = db.bridgePorts) : ResInv c foreign db' := by
  have hscl := agrees_switch h.apart h.scl hg hon
  have hrefl := agrees_switch h.apart h.reflective hg hsub
  rw [Function.update_eq_self] at hscl
  rw [Function.update_eq_self g fun x => ((db.res c).sub x).toNat] at hrefl
  exact h.change hv hb h.logic h.strayLogic hscl hrefl h.binding

theorem ResInv.sub_le (h : ResInv c foreign db) (g : BitVec 32) :
    ((db.res c).sub g).toNat ≤ 2 ^ 16 := by
  have hown : ∀ k v, db.bridgePorts.lookup k = some v → isSubPortOf g k v = true →
      v.logicPort.toNat ∈ logicOwns db.bridgePorts db.tunnels (.inl k) := by
    intro k v hk hv
    have hsub : v.portType = .subPort := (of_decide_eq_true hv).1
    rw [logicOwns_inl db.tunnels hk, BridgePort.logicIds, if_pos hsub]
    exact Finset.mem_singleton_self _
  have hle : Table.count (isSubPortOf g) db.bridgePorts ≤ db.logicPorts.used.card := by
    refine count_le_card (fun _ v => v.logicPort.toNat) ?_ ?_
    · intro k v hk hv
      exact (h.logic.used _).mpr (.inr ⟨_, hown k v hk hv⟩)
    · intro k k' v v' hk hk' hv hv' he
      exact Sum.inl.inj (h.logic.apart _ _ _ (hown k v hk hv) (he ▸ hown k' v' hk' hv'))
  have hcard : db.logicPorts.used.card ≤ bc.logicPorts.size := by
    have hrange := Finset.card_le_card db.logicPorts.inRange
    rw [Nat.card_Ico] at hrange
    omega
  have htop := bc.logicPorts_top
  rw [h.count g]
  omega

/-- A sub-port comes: it has two ids that were free, and its port counts it. -/
theorem ResInv.join (h : ResInv c foreign db) {g : BitVec 32} (hg : (db.res c).Holder g)
    (hg16 : (g.setWidth 16).setWidth 32 = g) {l n : Nat} {pl : Pool bc.logicPorts}
    {pn : Pool bc.nexthops} (hl : db.logicPorts.alloc = some (l, pl))
    (hn : db.nexthops.alloc = some (n, pn))
    (hv : db'.res c = (((db.res c).takeBoth pl pn).switch true g).setSub g ((db.res c).sub g + 1))
    (hb : db'.bridgePorts = db.bridgePorts.insert p bp) (hfresh : db.bridgePorts.lookup p = none)
    (hsub : bp.portType = .subPort) (hgp : bp.gport = g.setWidth 16)
    (hlp : bp.logicPort = BitVec.ofNat 16 l) (hnh : bp.nhId = BitVec.ofNat 32 n)
    (hp : p = bridgePortIdOf c .subPort (bp.logicPort.setWidth 32)) : ResInv c foreign db' := by
  obtain ⟨hlf, -, hltop, hlu, hls⟩ := Pool.alloc_some hl
  obtain ⟨hnf, -, hntop, hnu, hns⟩ := Pool.alloc_some hn
  have hl16 : bp.logicIds = {l} := by
    have := bc.logicPorts_top
    rw [BridgePort.logicIds, if_pos hsub, hlp, BitVec.toNat_ofNat, Nat.mod_eq_of_lt (by omega)]
  have hn32 : bp.nhIds = {n} := by
    have := bc.nexthops_top
    rw [BridgePort.nhIds, if_pos hsub, hnh, BitVec.toNat_ofNat, Nat.mod_eq_of_lt (by omega)]
  have hport : bp.gport.setWidth 32 = g := by rw [hgp, hg16]
  have hcnt : ((db.res c).sub g + 1).toNat = ((db.res c).sub g).toNat + 1 := by
    have hle := h.sub_le g
    exact Nat.mod_eq_of_lt (by show _ + 1 < 2 ^ 32; omega)
  have hpl : db'.logicPorts = pl := congrArg ResView.logicPorts hv
  have hpn : db'.nexthops = pn := congrArg ResView.nexthops hv
  have ht : db'.tunnels = db.tunnels := congrArg ResView.tunnels hv
  have hone : (true = true) ↔ 0 < ((db.res c).sub g + 1).toNat + (db.res c).subIf g :=
    ⟨fun _ => by omega, fun _ => rfl⟩
  have hone' : (true = true) ↔ 0 < ((db.res c).sub g + 1).toNat :=
    ⟨fun _ => by omega, fun _ => rfl⟩
  refine ⟨?_, ?_, ?_, ?_, ?_, ?_, ?_, ?_, ?_, ?_, ?_⟩
  · rw [hpl, hb, ht, logicOwns_insert, hl16, hlu, Finset.insert_eq, Finset.union_comm]
    refine h.logic.take (logicOwns_inl_none db.tunnels hfresh) fun i hi => ?_
    rw [Finset.mem_singleton.mp hi]
    exact hlf
  · rw [hpn, hb, nhOwns_insert, hn32, hnu, Finset.insert_eq, Finset.union_comm]
    refine h.nexthop.take (nhOwns_none hfresh) fun i hi => ?_
    rw [Finset.mem_singleton.mp hi]
    exact hnf
  · rw [hpl, hls]
    exact h.strayLogic
  · rw [hpn, hns]
    exact h.strayNexthop
  · intro q x hq hx
    rw [hb, lookup_insert_ite] at hq
    rw [hv]
    split at hq
    · next he =>
      cases hq
      refine ⟨he.trans hp, ?_⟩
      rw [hport]
      exact hg
    · exact h.subPort q x hq hx
  · intro q x hq hx
    rw [hb] at hq
    rcases of_lookup_insert hq with ⟨-, rfl⟩ | ⟨-, hq⟩
    · exact hsub
    · exact h.oidType q x hq hx
  · intro x
    rw [hv, hb, count_insert_new hfresh, ← h.count x]
    by_cases hx : x = g
    · rw [hx, ← hport, unit_isSubPortOf_self hsub, hport]
      simp only [ResView.setSub, Function.update_self]
      exact hcnt
    rw [unit_isSubPortOf_of_gport (hport.symm ▸ hx)]
    simp only [ResView.setSub, Function.update_of_ne hx]
    rfl
  · rw [hv, users_setSub]
    exact agrees_switch h.apart h.scl hg hone
  · rw [hv, sub_setSub]
    exact agrees_switch h.apart h.reflective hg hone'
  · rw [hv]
    exact h.apart
  · rw [hv]
    exact h.binding

theorem ResInv.pos (h : ResInv c foreign db) (hlook : db.bridgePorts.lookup p = some bp)
    (hsub : bp.portType = .subPort) :
    0 < ((db.res c).sub (bp.gport.setWidth 32)).toNat := by
  rw [h.count]
  refine count_pos hlook ?_
  simp only [isSubPortOf, hsub, decide_true, and_self]

theorem ResInv.logicPort_used (h : ResInv c foreign db) (hlook : db.bridgePorts.lookup p = some bp)
    (hsub : bp.portType = .subPort) : bp.logicPort.toNat ∈ db.logicPorts.used := by
  refine (h.logic.used _).mpr (.inr ⟨.inl p, ?_⟩)
  rw [logicOwns_subPort db.tunnels hlook hsub]
  exact Finset.mem_singleton_self _

theorem ResInv.nhId_used (h : ResInv c foreign db) (hlook : db.bridgePorts.lookup p = some bp)
    (hsub : bp.portType = .subPort) : bp.nhId.toNat ∈ db.nexthops.used := by
  refine (h.nexthop.used _).mpr (.inr ⟨p, ?_⟩)
  rw [nhOwns_subPort hlook hsub]
  exact Finset.mem_singleton_self _

theorem ResInv.count_leave (h : ResInv c foreign db) (hlook : db.bridgePorts.lookup p = some bp)
    (hsub : bp.portType = .subPort) (l n : Nat) (x : BitVec 32) :
    (((db.res c).leave (bp.gport.setWidth 32) l n).sub x).toNat =
      Table.count (isSubPortOf x) (db.bridgePorts.erase p) := by
  have hpos := h.pos hlook hsub
  have hold := h.count x
  rw [count_erase hlook] at hold
  rw [ResView.leave_sub]
  by_cases hx : x = bp.gport.setWidth 32
  · subst hx
    rw [unit_isSubPortOf_self hsub] at hold
    rw [Function.update_self, toNat_sub_one (Nat.sub_add_cancel hpos).symm]
    omega
  · rw [unit_isSubPortOf_of_gport hx] at hold
    rw [Function.update_of_ne hx]
    exact hold

/-- A sub-port goes: if it was the last of its port, there is no sub-interface. -/
theorem ResInv.leave (h : ResInv c foreign db) (hlook : db.bridgePorts.lookup p = some bp)
    (hsub : bp.portType = .subPort) (hlast : (db.res c).sub (bp.gport.setWidth 32) = 1 →
      (db.res c).subIf (bp.gport.setWidth 32) = 0)
    (hv : db'.res c = (db.res c).leave (bp.gport.setWidth 32) bp.logicPort.toNat bp.nhId.toNat)
    (hb : db'.bridgePorts = db.bridgePorts.erase p) : ResInv c foreign db' := by
  have hpos := h.pos hlook hsub
  have hg := (h.subPort p bp hlook hsub).2
  have hown := logicOwns_subPort db.tunnels hlook hsub
  have hnown := nhOwns_subPort hlook hsub
  have hpl : db'.logicPorts = db.logicPorts.free bp.logicPort.toNat :=
    (congrArg ResView.logicPorts hv).trans (ResView.leave_logicPorts ..)
  have hpn : db'.nexthops = db.nexthops.free bp.nhId.toNat :=
    (congrArg ResView.nexthops hv).trans (ResView.leave_nexthops ..)
  have ht : db'.tunnels = db.tunnels :=
    (congrArg ResView.tunnels hv).trans (ResView.leave_tunnels ..)
  refine ⟨?_, ?_, ?_, ?_, ?_, ?_, ?_, ?_, ?_, ?_, ?_⟩
  · rw [hpl, hb, ht, logicOwns_erase, Pool.used_free, ← Finset.sdiff_singleton_eq_erase, ← hown]
    exact h.logic.give (.inl p)
  · rw [hpn, hb, nhOwns_erase, Pool.used_free, ← Finset.sdiff_singleton_eq_erase, ← hnown]
    exact h.nexthop.give p
  · rw [hpl, Pool.stray_free_of_mem (h.logicPort_used hlook hsub)]
    exact h.strayLogic
  · rw [hpn, Pool.stray_free_of_mem (h.nhId_used hlook hsub)]
    exact h.strayNexthop
  · intro q x hq hx
    rw [hb, lookup_erase_ite] at hq
    rw [hv, ResView.leave_holder]
    split at hq
    · cases hq
    · exact h.subPort q x hq hx
  · intro q x hq hx
    rw [hb] at hq
    exact h.oidType q x (of_lookup_erase hq).2 hx
  · intro x
    rw [hv, hb]
    exact h.count_leave hlook hsub _ _ x
  · rw [hv]
    exact ResView.leave_scl h.apart h.scl hg hpos hlast
  · rw [hv]
    exact ResView.leave_reflective h.apart h.reflective hg hpos
  · rw [hv]
    simp only [ResView.LagsApart, ResView.leave_members]
    exact h.apart
  · rw [hv, ResView.leave_subIf, ResView.leave_binding]
    exact h.binding

end Steps

end CtcSai
