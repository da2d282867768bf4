/-
# `MaxFrame` — the profiles of maximal frame sizes

A chip has a few profiles of frame sizes, which the ports share; the switch
counts the ports of each in `max_frame_idx_cnt`, and an id pool says which
profiles are taken.  To set the MTU of a port, its old profile is released
first and then one of the new size is searched for or taken.  A profile is
found by its size alone, whether anybody uses it or not, and the release tests
the address of the counts where it means the count: no profile is ever given
back.
-/
import CtcSai.Chip
import CtcSai.Lib.Run
import Mathlib.Logic.Function.Basic

namespace CtcSai

open Function IdPool Runs

/-- The pool of CTC_SAI_DB_ID_TYPE_MAX_FRAME_SIZE, from 0 to
CTC_FRAME_SIZE_MAX. -/
structure FrameAllocator (n : Nat) where
  alloc : Allocator
  lo : alloc.lo = 0
  size : alloc.size = n
  complete : alloc.Complete

/-- The sizes of the profiles and the MTU of each port in hardware, the counts
of the switch, and the pool. -/
structure FrameDb {n : Nat} (fa : FrameAllocator n) where
  sizes : Nat → BitVec 16
  mtu : BitVec 32 → BitVec 32
  maxFrameIdxCnt : Nat → BitVec 32
  pool : Pool fa.alloc

/-- What the SDK answers while an MTU is set: to the release, and then to the
search and the writes. -/
structure FrameSdk where
  portGetMaxFrame : CtcE
  getOld : Nat → CtcE
  getNew : Nat → CtcE
  setMaxFrameSize : CtcE
  portSetMaxFrame : CtcE

/-- The SDK that does all it is asked. -/
def FrameSdk.ok : FrameSdk := ⟨.none, fun _ => .none, fun _ => .none, .none, .none⟩

section Model

variable {n : Nat} {fa : FrameAllocator n}

/-- The loop over the profiles: the first of this size, or an error of
`ctcs_get_max_frame_size`. -/
def searchFrameSize (get : Nat → CtcE) (sizes : Nat → BitVec 16) (value : BitVec 32) :
    List Nat → Except CtcE (Option Nat)
  | [] => .ok none
  | index :: rest =>
    if get index ≠ .none then .error (get index)
    else if (sizes index).setWidth 32 = value then .ok (some index)
    else searchFrameSize get sizes value rest

/-- `max_frame_idx_cnt` of a profile, changed by one. -/
def FrameDb.countFrame (db : FrameDb fa) (index : Nat) (d : BitVec 32) : FrameDb fa :=
  { db with
    maxFrameIdxCnt := update db.maxFrameIdxCnt index (db.maxFrameIdxCnt index + d) }

def ChipType.sharesFrameSizes (t : ChipType) : Bool := t = .duet2 || t = .goldengate

/-- `_ctc_sai_port_set_max_frame`. -/
def portSetMaxFrame (sdk : FrameSdk) (chipType : ChipType) (db : FrameDb fa)
    (gport value : BitVec 32) : Status × FrameDb fa :=
  -- `ctcs_port_set_max_frame`, after which the profile `id` is released again
  let finish (id : Nat) (db : FrameDb fa) (undo : FrameDb fa → FrameDb fa) :
      Status × FrameDb fa :=
    match mappingErrorCtc sdk.portSetMaxFrame with
    | .success => (.success, { db with mtu := update db.mtu gport value })
    | status => (status, undo (db.countFrame id (-1)))
  if chipType.sharesFrameSizes then
    match searchFrameSize sdk.getNew db.sizes value (List.range n) with
    | .error code => (.ctc code, db)
    | .ok (some index) => finish index (db.countFrame index 1) id
    | .ok none =>
      match db.pool.alloc with
      | none => (.insufficientResources, db)
      | some (id, pool) =>
        match mappingErrorCtc sdk.setMaxFrameSize with
        | .success =>
          let db := { db with
            pool := pool
            sizes := update db.sizes id (value.setWidth 16)
            maxFrameIdxCnt := update db.maxFrameIdxCnt id 1 }
          finish id db fun db => { db with pool := db.pool.free id }
        | status => (status, { db with pool := pool.free id })
  else finish 0 db id

/-- `_ctc_sai_port_unset_max_frame`; `0 == p_switch_master->max_frame_idx_cnt`
never holds, so that no id is freed. -/
def portUnsetMaxFrame (sdk : FrameSdk) (db : FrameDb fa) (gport : BitVec 32) :
    Status × FrameDb fa :=
  match mappingErrorCtc sdk.portGetMaxFrame with
  | .success =>
    match searchFrameSize sdk.getOld db.sizes (db.mtu gport) (List.range n) with
    | .error code => (.ctc code, db)
    | .ok none => (.success, db)
    | .ok (some index) => (.success, db.countFrame index (-1))
  | status => (status, db)

/-- SAI_PORT_ATTR_MTU of `_ctc_sai_port_set_ctc_attr`, and whether it answers
SUCCESS: the status of each part goes through `ctc_sai_mapping_error_ctc`,
which keeps of it whether it is one. -/
def setPortMtu (sdk : FrameSdk) (chipType : ChipType) (db : FrameDb fa)
    (gport value : BitVec 32) : Bool × FrameDb fa :=
  match portUnsetMaxFrame sdk db gport with
  | (.success, db) =>
    let r := portSetMaxFrame sdk chipType db gport value
    (r.1 = .success, r.2)
  | (_, db) => (false, db)

end Model

/-! ## Users of profiles -/

/-- The ports there are; a chip has far fewer than 2^32. -/
structure Gports where
  ports : Finset (BitVec 32)
  card_lt : ports.card < 2 ^ 32

section Users

variable {n : Nat} {fa : FrameAllocator n}
variable {db : FrameDb fa} {v : BitVec 32} {i : Nat}

def FrameDb.profileOf (db : FrameDb fa) (value : BitVec 32) : Option Nat :=
  (List.range n).find? fun i => decide ((db.sizes i).setWidth 32 = value)

/-- The number of ports whose MTU is the size at the index. -/
def FrameDb.users (db : FrameDb fa) (ports : Finset (BitVec 32)) (i : Nat) : Nat :=
  (ports.filter fun p => db.mtu p = (db.sizes i).setWidth 32).card

/-- Counts, pool and sizes as they should be. -/
structure MtuOk (chipType : ChipType) (gp : Gports) (db : FrameDb fa) : Prop where
  /-- A count is the number of ports of that size. -/
  counted : ∀ i < n, (db.maxFrameIdxCnt i).toNat = db.users gp.ports i
  /-- A profile is taken exactly when it counts somebody. -/
  taken : ∀ i < n, i ∈ db.pool.used ↔ 0 < (db.maxFrameIdxCnt i).toNat
  /-- With fewer MTUs in use than there are profiles, another can be set. -/
  room : (gp.ports.image db.mtu).card < n → ∀ p v, (setPortMtu .ok chipType db p v).1 = true

/-- The MTU of a port set to a value. -/
structure MtuCall where
  sdk : FrameSdk
  gport : BitVec 32
  value : BitVec 32

def mtuStep (chipType : ChipType) (db : FrameDb fa) (c : MtuCall) : Option (FrameDb fa) :=
  some (setPortMtu c.sdk chipType db c.gport c.value).2

/-- Nothing counted and nothing taken, whatever stands in hardware. -/
def MtuStart (db : FrameDb fa) : Prop :=
  (∀ i, db.maxFrameIdxCnt i = 0) ∧ db.pool = .empty _

/-- The SDK refuses to read the old MTU or a size. -/
def MtuCall.RefusedBefore (c : MtuCall) (db : FrameDb fa) : Prop :=
  c.sdk.portGetMaxFrame ≠ .none ∨
    ∀ o, searchFrameSize c.sdk.getOld db.sizes (db.mtu c.gport) (List.range n) ≠ .ok o

/-- The SDK and the pool give what setting the value asks of them. -/
structure MtuCall.Answered (c : MtuCall) (db : FrameDb fa) : Prop where
  search : ∃ o, searchFrameSize c.sdk.getNew db.sizes c.value (List.range n) = .ok o
  portSet : c.sdk.portSetMaxFrame = .none
  fresh : db.profileOf c.value = none → c.sdk.setMaxFrameSize = .none ∧ db.pool.alloc.isSome

/-- The call releases a profile only where somebody else uses it or the port
takes it again, and where nothing fails afterwards; it finds no profile that
nobody uses; and it takes one for no MTU that is too long or that a port has
without a profile. -/
structure MtuCall.Sound (c : MtuCall) (gp : Gports) (db : FrameDb fa) : Prop where
  release : ∀ i, db.profileOf (db.mtu c.gport) = some i →
    (1 < (db.maxFrameIdxCnt i).toNat ∨ c.value = db.mtu c.gport) ∧ c.Answered db
  found : ∀ i, db.profileOf c.value = some i → 0 < (db.maxFrameIdxCnt i).toNat
  fresh : db.profileOf c.value = none → c.value.toNat < 2 ^ 16 ∧
    ∀ p ∈ gp.ports, db.mtu p = c.value → p = c.gport ∧ c.sdk.portSetMaxFrame = .none

def MtuSafe (gp : Gports) (db : FrameDb fa) (c : MtuCall) : Prop :=
  c.gport ∈ gp.ports ∧ (c.RefusedBefore db ∨ c.Sound gp db)

/-- The start, with no port on a profile. -/
def MtuFresh (gp : Gports) (db : FrameDb fa) : Prop :=
  MtuStart db ∧ ∀ i < n, db.users gp.ports i = 0

/-- The counts, the pool and the MTU of every port stay. -/
structure MtuKept (db db' : FrameDb fa) : Prop where
  counts : db'.maxFrameIdxCnt = db.maxFrameIdxCnt
  pool : db'.pool = db.pool
  mtu : db'.mtu = db.mtu

/-! ## What the two parts do -/

theorem searchFrameSize_ok {get : Nat → CtcE} {sizes : Nat → BitVec 16} {value : BitVec 32}
    {l : List Nat} {o : Option Nat} (h : searchFrameSize get sizes value l = .ok o) :
    o = l.find? fun i => decide ((sizes i).setWidth 32 = value) := by
  induction l with
  | nil =>
    cases h
    rfl
  | cons i rest ih =>
    unfold searchFrameSize at h
    split at h
    · cases h
    split at h
    · next heq =>
      cases h
      simp [heq]
    · next hne =>
      rw [ih h]
      simp [hne]

theorem searchFrameSize_answered {get : Nat → CtcE} (hget : ∀ i, get i = .none)
    (sizes : Nat → BitVec 16) (value : BitVec 32) (l : List Nat) :
    searchFrameSize get sizes value l =
      .ok (l.find? fun i => decide ((sizes i).setWidth 32 = value)) := by
  induction l with
  | nil => rfl
  | cons i rest ih =>
    unfold searchFrameSize
    rw [if_neg (not_not_intro (hget i))]
    split
    · next heq => simp [heq]
    · next hne =>
      rw [ih]
      simp [hne]

theorem profileOf_some (h : db.profileOf v = some i) : i < n ∧ (db.sizes i).setWidth 32 = v :=
  ⟨List.mem_range.mp (List.mem_of_find?_eq_some h), of_decide_eq_true (List.find?_some h :)⟩

theorem profileOf_none (h : db.profileOf v = none) (hi : i < n) : (db.sizes i).setWidth 32 ≠ v :=
  of_decide_eq_false (by simpa using List.find?_eq_none.mp h i (List.mem_range.mpr hi))

theorem portUnsetMaxFrame_cases (sdk : FrameSdk) (db : FrameDb fa) (p v : BitVec 32) :
    (MtuCall.RefusedBefore ⟨sdk, p, v⟩ db ∧ (portUnsetMaxFrame sdk db p).1 ≠ .success ∧
      (portUnsetMaxFrame sdk db p).2 = db) ∨
    (¬ MtuCall.RefusedBefore ⟨sdk, p, v⟩ db ∧ (portUnsetMaxFrame sdk db p).1 = .success ∧
      (portUnsetMaxFrame sdk db p).2 = match db.profileOf (db.mtu p) with
        | none => db
        | some i => db.countFrame i (-1)) := by
  unfold portUnsetMaxFrame
  by_cases hget : sdk.portGetMaxFrame = .none
  · rw [hget]
    cases hs : searchFrameSize sdk.getOld db.sizes (db.mtu p) (List.range n) with
    | error code =>
      left
      refine ⟨.inr fun o ho => ?_, nofun, rfl⟩
      rw [hs] at ho
      cases ho
    | ok o =>
      right
      have hprof : db.profileOf (db.mtu p) = o := (searchFrameSize_ok hs).symm
      rw [hprof]
      refine ⟨?_, by cases o <;> rfl, by cases o <;> rfl⟩
      rintro (hne | hno)
      · exact hne hget
      · exact hno o hs
  · left
    have hmap : mappingErrorCtc sdk.portGetMaxFrame ≠ .success := by
      simpa using hget
    split
    · next he => exact absurd he hmap
    · next hne => exact ⟨.inl hget, hmap, rfl⟩

/-- What the search and the writes leave on a chip that shares profiles: the
port on a profile that was there or on a new one, or, after an error, at most
a size that nobody counts. -/
inductive FrameSet (sdk : FrameSdk) (db : FrameDb fa) (p v : BitVec 32) :
    Status → FrameDb fa → Prop where
  | found (i : Nat) : db.profileOf v = some i → FrameSet sdk db p v .success
      { db.countFrame i 1 with mtu := update db.mtu p v }
  | fresh (i : Nat) (pool : Pool fa.alloc) : db.profileOf v = none →
      db.pool.alloc = some (i, pool) → FrameSet sdk db p v .success
        { mtu := update db.mtu p v
          pool := pool
          sizes := update db.sizes i (v.setWidth 16)
          maxFrameIdxCnt := update db.maxFrameIdxCnt i 1 }
  | failed (status : Status) : status ≠ .success → ¬ MtuCall.Answered ⟨sdk, p, v⟩ db →
      FrameSet sdk db p v status db
  | written (status : Status) (i : Nat) (pool : Pool fa.alloc) : status ≠ .success →
      db.profileOf v = none → sdk.portSetMaxFrame ≠ .none → db.pool.alloc = some (i, pool) →
      FrameSet sdk db p v status
        { db with
          sizes := update db.sizes i (v.setWidth 16)
          maxFrameIdxCnt := update db.maxFrameIdxCnt i 0 }

theorem portSetMaxFrame_frameSet {chipType : ChipType} (hchip : chipType.sharesFrameSizes = true)
    (sdk : FrameSdk) (db : FrameDb fa) (p v : BitVec 32) :
    FrameSet sdk db p v (portSetMaxFrame sdk chipType db p v).1
      (portSetMaxFrame sdk chipType db p v).2 := by
  unfold portSetMaxFrame
  rw [if_pos hchip]
  cases hs : searchFrameSize sdk.getNew db.sizes v (List.range n) with
  | error code =>
    refine .failed _ nofun fun ha => ?_
    obtain ⟨o, ho⟩ := ha.search
    rw [hs] at ho
    cases ho
  | ok o =>
    have hprof : db.profileOf v = o := (searchFrameSize_ok hs).symm
    cases o with
    | some i =>
      dsimp only
      split
      · exact .found i hprof
      next hne =>
      have hback : (db.countFrame i 1).countFrame i (-1) = db := by
        simp [FrameDb.countFrame, BitVec.add_assoc]
      rw [hback]
      refine .failed _ (fun hs => hne hs) fun ha => hne ?_
      rw [ha.portSet]
      rfl
    | none =>
      cases ha : db.pool.alloc with
      | none =>
        refine .failed _ nofun fun hans => ?_
        have hroom := (hans.fresh hprof).2
        rw [ha] at hroom
        cases hroom
      | some a =>
        obtain ⟨i, pool⟩ := a
        dsimp only
        split
        · split
          · exact .fresh i pool hprof ha
          · next hne =>
            have hport : sdk.portSetMaxFrame ≠ .none := fun h0 => hne (by rw [h0]; rfl)
            have hw : FrameSet sdk db p v _ _ :=
              .written _ i pool (fun hs => hne hs) hprof hport ha
            simpa [FrameDb.countFrame, Pool.free_of_alloc ha] using hw
        next hne =>
        rw [Pool.free_of_alloc ha]
        refine .failed _ (fun hs => hne hs) fun hans => hne ?_
        rw [(hans.fresh hprof).1]
        rfl

/-! ## The invariant -/

theorem card_ports_of_size {ports : Finset (BitVec 32)} {p : BitVec 32} (hp : p ∈ ports)
    (mtu : BitVec 32 → BitVec 32) (size : BitVec 32) :
    (ports.filter fun q => mtu q = size).card =
      ((ports.erase p).filter fun q => mtu q = size).card + if mtu p = size then 1 else 0 := by
  obtain ⟨rest, hrest, rfl⟩ : ∃ rest, p ∉ rest ∧ ports = insert p rest :=
    ⟨ports.erase p, Finset.notMem_erase p ports, (Finset.insert_erase hp).symm⟩
  rw [Finset.erase_insert hrest, Finset.filter_insert]
  split
  · rw [Finset.card_insert_of_notMem fun h => hrest (Finset.mem_of_mem_filter p h)]
  · rfl

theorem card_ports_update {ports : Finset (BitVec 32)} {p : BitVec 32} (hp : p ∉ ports)
    (mtu : BitVec 32 → BitVec 32) (v size : BitVec 32) :
    (ports.filter fun q => update mtu p v q = size).card =
      (ports.filter fun q => mtu q = size).card := by
  congr 1
  refine Finset.filter_congr fun q hq => ?_
  rw [update_of_ne (ne_of_mem_of_not_mem hq hp)]

/-- Counts and pool agree with the ports, and no two profiles that are taken
have one size. -/
structure MtuInv (gp : Gports) (db : FrameDb fa) : Prop where
  counted : ∀ i < n, (db.maxFrameIdxCnt i).toNat = db.users gp.ports i
  taken : ∀ i < n, i ∈ db.pool.used ↔ 0 < (db.maxFrameIdxCnt i).toNat
  apart : ∀ i < n, ∀ j < n, i ∈ db.pool.used → j ∈ db.pool.used →
    db.sizes i = db.sizes j → i = j

/-- Between the two parts of a call that sets the port `p` to `v`: the port is
counted nowhere, and a profile of that size is taken, by itself. -/
structure MtuReleased (ports : Finset (BitVec 32)) (p v : BitVec 32) (db : FrameDb fa) : Prop where
  counted : ∀ i < n, (db.maxFrameIdxCnt i).toNat = db.users (ports.erase p) i
  taken : ∀ i < n, i ∈ db.pool.used ↔
    0 < (db.maxFrameIdxCnt i).toNat ∨ db.profileOf v = some i
  apart : ∀ i < n, ∀ j < n, i ∈ db.pool.used → j ∈ db.pool.used →
    db.sizes i = db.sizes j → i = j
  alone : ∀ i, db.profileOf v = some i → ∀ j < n, db.sizes j = db.sizes i → j = i

theorem FrameDb.lt_of_alloc {pool : Pool fa.alloc} (h : db.pool.alloc = some (i, pool)) :
    i < n := by
  have hlt := (Pool.alloc_some h).2.2.1
  rw [fa.lo, fa.size, Nat.zero_add] at hlt
  exact hlt

theorem setWidth_inj {a b : BitVec 16} (h : a.setWidth 32 = b.setWidth 32) : a = b := by
  have hnat := congrArg BitVec.toNat h
  exact BitVec.eq_of_toNat_eq hnat

theorem setWidth_frame_back (h : v.toNat < 2 ^ 16) : (v.setWidth 16).setWidth 32 = v := by
  apply BitVec.eq_of_toNat_eq
  rw [BitVec.toNat_setWidth, BitVec.toNat_setWidth, Nat.mod_eq_of_lt h, Nat.mod_eq_of_lt v.isLt]

namespace MtuInv

variable {gp : Gports} {db : FrameDb fa}

theorem alone (h : MtuInv gp db) {i j : Nat} (hi : i < n) (hj : j < n)
    (hpos : 0 < (db.maxFrameIdxCnt i).toNat) (hsize : db.sizes j = db.sizes i) : j = i := by
  have husers : db.users gp.ports j = db.users gp.ports i := by
    unfold FrameDb.users
    rw [hsize]
  have hposj : 0 < (db.maxFrameIdxCnt j).toNat := by
    rw [h.counted j hj, husers, ← h.counted i hi]
    exact hpos
  exact h.apart j hj i hi ((h.taken j hj).mpr hposj) ((h.taken i hi).mpr hpos) hsize

theorem start (h : MtuFresh gp db) : MtuInv gp db := by
  obtain ⟨⟨hcnt, hpool⟩, husers⟩ := h
  constructor
  · intro i hi
    rw [hcnt i, husers i hi]
    rfl
  · intro i _
    rw [hcnt i, hpool]
    exact iff_of_false (Finset.notMem_empty i) (Nat.lt_irrefl 0)
  · intro i _ j _ hmem
    rw [hpool] at hmem
    exact absurd hmem (Finset.notMem_empty i)

/-- With the profile of its MTU counted down, the port is counted nowhere. -/
theorem released (h : MtuInv gp db) {c : MtuCall} (hc : c.Sound gp db) (hp : c.gport ∈ gp.ports) :
    MtuReleased gp.ports c.gport c.value (match db.profileOf (db.mtu c.gport) with
      | none => db
      | some i => db.countFrame i (-1)) := by
  have halone : ∀ i, db.profileOf c.value = some i → ∀ j < n,
      db.sizes j = db.sizes i → j = i := fun i hi j hj hsize =>
    h.alone (profileOf_some hi).1 hj (hc.found i hi) hsize
  have hsplit : ∀ i, db.users gp.ports i = db.users (gp.ports.erase c.gport) i +
      if db.mtu c.gport = (db.sizes i).setWidth 32 then 1 else 0 := fun i =>
    card_ports_of_size hp db.mtu _
  cases hold : db.profileOf (db.mtu c.gport) with
  | none =>
    refine ⟨fun i hi => ?_, fun i hi => ?_, h.apart, halone⟩
    · rw [h.counted i hi, hsplit i, if_neg (fun he => profileOf_none hold hi he.symm)]
      rfl
    · rw [h.taken i hi]
      exact ⟨.inl, fun hor => hor.elim id fun hv => hc.found i hv⟩
  | some k =>
    obtain ⟨hk, hsize⟩ := profileOf_some hold
    have hlast := (hc.release k hold).1
    have hposk : 0 < (db.maxFrameIdxCnt k).toNat := by
      rw [h.counted k hk, hsplit k, if_pos hsize.symm]
      exact Nat.succ_pos _
    have hdown : (db.maxFrameIdxCnt k + -1).toNat = (db.maxFrameIdxCnt k).toNat - 1 := by
      bv_omega
    refine ⟨fun i hi => ?_, fun i hi => ?_, h.apart, halone⟩
    · show (update db.maxFrameIdxCnt k _ i).toNat = _
      by_cases hik : i = k
      · subst hik
        rw [update_self, hdown, h.counted i hi, hsplit i, if_pos hsize.symm]
        rfl
      have hne : db.mtu c.gport ≠ (db.sizes i).setWidth 32 := fun he =>
        hik (h.alone hk hi hposk (setWidth_inj (he.symm.trans hsize.symm)))
      rw [update_of_ne hik, h.counted i hi, hsplit i, if_neg hne]
      rfl
    · show i ∈ db.pool.used ↔ 0 < (update db.maxFrameIdxCnt k _ i).toNat ∨ _
      by_cases hik : i = k
      · subst hik
        rw [update_self, hdown]
        refine iff_of_true ((h.taken i hi).mpr hposk) ?_
        rcases hlast with hmore | hsame
        · exact .inl (Nat.sub_pos_of_lt hmore)
        · exact .inr (hsame ▸ hold)
      · rw [update_of_ne hik, h.taken i hi]
        exact ⟨.inl, fun hor => hor.elim id fun hv => hc.found i hv⟩

end MtuInv

namespace MtuReleased

variable {gp : Gports} {db : FrameDb fa} {p v : BitVec 32}
variable {i : Nat}

theorem count_lt (h : MtuReleased gp.ports p v db) (hp : p ∈ gp.ports) (hi : i < n) :
    (db.maxFrameIdxCnt i).toNat + 1 < 2 ^ 32 := by
  have hle : (db.maxFrameIdxCnt i).toNat ≤ (gp.ports.erase p).card := by
    rw [h.counted i hi]
    exact Finset.card_filter_le _ _
  have hlt := Finset.card_erase_lt_of_mem hp
  have hall := gp.card_lt
  omega

theorem users_set (hp : p ∈ gp.ports) (mtu : BitVec 32 → BitVec 32) (size : BitVec 32) :
    (gp.ports.filter fun q => update mtu p v q = size).card =
      ((gp.ports.erase p).filter fun q => mtu q = size).card + if v = size then 1 else 0 := by
  rw [card_ports_of_size hp, card_ports_update (Finset.notMem_erase p gp.ports), update_self]

theorem found (h : MtuReleased gp.ports p v db) (hp : p ∈ gp.ports) (hi : db.profileOf v = some i) :
    MtuInv gp { db.countFrame i 1 with mtu := update db.mtu p v } := by
  obtain ⟨hlt, hsize⟩ := profileOf_some hi
  have hup : (db.maxFrameIdxCnt i + 1).toNat = (db.maxFrameIdxCnt i).toNat + 1 := by
    have := h.count_lt hp hlt
    bv_omega
  refine ⟨fun j hj => ?_, fun j hj => ?_, h.apart⟩
  · show (update db.maxFrameIdxCnt i _ j).toNat =
      (gp.ports.filter fun q => update db.mtu p v q = (db.sizes j).setWidth 32).card
    rw [users_set hp]
    by_cases hji : j = i
    · subst hji
      rw [update_self, hup, h.counted j hj, if_pos hsize.symm]
      rfl
    have hne : v ≠ (db.sizes j).setWidth 32 := fun he =>
      hji (h.alone i hi j hj (setWidth_inj (he.symm.trans hsize.symm)))
    rw [update_of_ne hji, h.counted j hj, if_neg hne]
    rfl
  · show j ∈ db.pool.used ↔ 0 < (update db.maxFrameIdxCnt i _ j).toNat
    rw [h.taken j hj]
    by_cases hji : j = i
    · subst hji
      rw [update_self, hup]
      exact iff_of_true (.inr hi) (Nat.succ_pos _)
    · rw [update_of_ne hji]
      exact or_iff_left fun he => hji (Option.some.inj (he.symm.trans hi))

theorem fresh (h : MtuReleased gp.ports p v db) (hp : p ∈ gp.ports) {pool : Pool fa.alloc}
    (hnone : db.profileOf v = none) (ha : db.pool.alloc = some (i, pool))
    (hshort : v.toNat < 2 ^ 16) (honly : ∀ q ∈ gp.ports, db.mtu q = v → q = p) :
    MtuInv gp
      { mtu := update db.mtu p v
        pool := pool
        sizes := update db.sizes i (v.setWidth 16)
        maxFrameIdxCnt := update db.maxFrameIdxCnt i 1 } := by
  obtain ⟨hfree, -, -, hused, -⟩ := Pool.alloc_some ha
  have hback := setWidth_frame_back hshort
  have hnew : ∀ j < n, j ≠ i → db.sizes j ≠ v.setWidth 16 := fun j hj _ he =>
    profileOf_none hnone hj (he ▸ hback)
  refine ⟨fun j hj => ?_, fun j hj => ?_, fun j hj k hk hjm hkm hsize => ?_⟩
  · show (update db.maxFrameIdxCnt i 1 j).toNat = (gp.ports.filter fun q =>
      update db.mtu p v q = (update db.sizes i _ j).setWidth 32).card
    rw [users_set hp]
    by_cases hji : j = i
    · subst hji
      have hnobody : ((gp.ports.erase p).filter fun q => db.mtu q = v).card = 0 := by
        rw [Finset.card_eq_zero, Finset.filter_eq_empty_iff]
        intro q hq he
        exact Finset.ne_of_mem_erase hq (honly q (Finset.mem_of_mem_erase hq) he)
      rw [update_self, update_self, hback, if_pos rfl, hnobody]
      rfl
    · rw [update_of_ne hji, update_of_ne hji, h.counted j hj, if_neg (profileOf_none hnone hj).symm]
      rfl
  · show j ∈ pool.used ↔ 0 < (update db.maxFrameIdxCnt i 1 j).toNat
    rw [hused, Finset.mem_insert]
    by_cases hji : j = i
    · subst hji
      rw [update_self]
      exact iff_of_true (.inl rfl) (by decide)
    · rw [update_of_ne hji, h.taken j hj, hnone]
      exact ⟨fun hor => (hor.resolve_left hji).resolve_right nofun, fun hpos => .inr (.inl hpos)⟩
  · have hjm : j = i ∨ j ∈ db.pool.used := by
      rw [← Finset.mem_insert, ← hused]
      exact hjm
    have hkm : k = i ∨ k ∈ db.pool.used := by
      rw [← Finset.mem_insert, ← hused]
      exact hkm
    have hsize : update db.sizes i (v.setWidth 16) j = update db.sizes i (v.setWidth 16) k := hsize
    by_cases hji : j = i
    · by_cases hki : k = i
      · rw [hji, hki]
      · rw [hji, update_self, update_of_ne hki] at hsize
        exact absurd hsize.symm (hnew k hk hki)
    by_cases hki : k = i
    · rw [hki, update_self, update_of_ne hji] at hsize
      exact absurd hsize (hnew j hj hji)
    · rw [update_of_ne hji, update_of_ne hki] at hsize
      exact h.apart j hj k hk (hjm.resolve_left hji) (hkm.resolve_left hki) hsize

end MtuReleased

namespace MtuInv

variable {gp : Gports} {db : FrameDb fa}

/-- A size written to a profile that is not taken, where no port has that
MTU. -/
theorem written (h : MtuInv gp db) {i : Nat} {pool : Pool fa.alloc} {v : BitVec 32}
    (ha : db.pool.alloc = some (i, pool)) (hshort : v.toNat < 2 ^ 16)
    (hnobody : ∀ q ∈ gp.ports, db.mtu q ≠ v) :
    MtuInv gp { db with
          sizes := update db.sizes i (v.setWidth 16)
          maxFrameIdxCnt := update db.maxFrameIdxCnt i 0 } ∧
      update db.maxFrameIdxCnt i 0 = db.maxFrameIdxCnt := by
  have hfree : i ∉ db.pool.used := (Pool.alloc_some ha).1
  have hi : i < n := db.lt_of_alloc ha
  have hzero : db.maxFrameIdxCnt i = 0 := by
    have hnpos := mt (h.taken i hi).mpr hfree
    exact BitVec.eq_of_toNat_eq (Nat.eq_zero_of_not_pos hnpos)
  have hcnt : update db.maxFrameIdxCnt i 0 = db.maxFrameIdxCnt := by
    rw [← hzero, update_eq_self]
  have hback := setWidth_frame_back hshort
  refine ⟨⟨fun j hj => ?_, fun j hj => ?_, fun j hj k hk hjm hkm hsize => ?_⟩, hcnt⟩
  · show (update db.maxFrameIdxCnt i 0 j).toNat = (gp.ports.filter fun q =>
      db.mtu q = (update db.sizes i _ j).setWidth 32).card
    rw [hcnt]
    by_cases hji : j = i
    · subst hji
      rw [update_self, hback, hzero]
      refine Eq.symm (Finset.card_eq_zero.mpr (Finset.filter_eq_empty_iff.mpr ?_))
      exact fun {q} hq => hnobody q hq
    · rw [update_of_ne hji]
      exact h.counted j hj
  · rw [hcnt]
    exact h.taken j hj
  · have hne : ∀ k, k ∈ db.pool.used → k ≠ i := fun k hk he => hfree (he ▸ hk)
    have hsize : update db.sizes i (v.setWidth 16) j = update db.sizes i (v.setWidth 16) k := hsize
    rw [update_of_ne (hne j hjm), update_of_ne (hne k hkm)] at hsize
    exact h.apart j hj k hk hjm hkm hsize

/-- A call that is sound keeps the invariant, and changes nothing when it
fails. -/
theorem step (h : MtuInv gp db) {chipType : ChipType}
    (hchip : chipType.sharesFrameSizes = true) {c : MtuCall} (hc : MtuSafe gp db c) :
    MtuInv gp (setPortMtu c.sdk chipType db c.gport c.value).2 ∧
      ((setPortMtu c.sdk chipType db c.gport c.value).1 = false →
        MtuKept db (setPortMtu c.sdk chipType db c.gport c.value).2) := by
  obtain ⟨hp, hc⟩ := hc
  have hunset := portUnsetMaxFrame_cases c.sdk db c.gport c.value
  unfold setPortMtu
  generalize portUnsetMaxFrame c.sdk db c.gport = u at hunset
  obtain ⟨status, db₁⟩ := u
  rcases hunset with ⟨-, hfail, hdb⟩ | ⟨hgo, hok, hdb⟩
  · subst hdb
    cases status
    case success => exact absurd rfl hfail
    all_goals exact ⟨h, fun _ => ⟨rfl, rfl, rfl⟩⟩
  dsimp only at hok hdb
  have hs : c.Sound gp db := hc.resolve_left hgo
  have hrel := h.released hs hp
  rw [← hdb] at hrel
  subst hok
  dsimp only
  have hprof : ∀ v, db₁.profileOf v = db.profileOf v := by
    intro v
    rw [hdb]
    split <;> rfl
  have hset := portSetMaxFrame_frameSet hchip c.sdk db₁ c.gport c.value
  generalize portSetMaxFrame c.sdk chipType db₁ c.gport c.value = r at hset
  obtain ⟨set, db₂⟩ := r
  dsimp only at hset
  -- where nothing was released, the call may fail
  have hold : ¬ c.Answered db → db₁ = db := by
    intro hno
    rw [hdb]
    split
    · rfl
    · next i hi => exact absurd (hs.release i hi).2 hno
  cases hset with
  | found i hi => exact ⟨hrel.found hp hi, nofun⟩
  | fresh i pool hnone ha =>
    rw [hprof] at hnone
    obtain ⟨hshort, honly⟩ := hs.fresh hnone
    refine ⟨hrel.fresh hp ?_ ha hshort fun q hq he => (honly q hq ?_).1, nofun⟩
    · rw [hprof]
      exact hnone
    · rw [← he, hdb]
      split <;> rfl
  | failed status hne hno =>
    have hsame : db₁ = db := by
      refine hold fun hans => hno ⟨?_, hans.portSet, fun hnone => ?_⟩
      · have hsizes : db₁.sizes = db.sizes := by
          rw [hdb]
          split <;> rfl
        rw [hsizes]
        exact hans.search
      · have hpool : db₁.pool = db.pool := by
          rw [hdb]
          split <;> rfl
        rw [hprof] at hnone
        rw [hpool]
        exact hans.fresh hnone
    rw [hsame]
    exact ⟨h, fun _ => ⟨rfl, rfl, rfl⟩⟩
  | written status i pool hne hnone hport ha =>
    have hsame : db₁ = db := hold fun hans => hport hans.portSet
    rw [hsame] at hnone ha ⊢
    obtain ⟨hshort, honly⟩ := hs.fresh hnone
    obtain ⟨hinv, hcnt⟩ := h.written ha hshort fun q hq he => hport (honly q hq he).2
    exact ⟨hinv, fun _ => ⟨hcnt, rfl, rfl⟩⟩

theorem room (h : MtuInv gp db) (hfew : (gp.ports.image db.mtu).card < n) :
    db.pool.alloc.isSome := by
  -- the taken profiles have sizes of their own, and each is some port's MTU
  have hle : db.pool.used.card ≤ (gp.ports.image db.mtu).card := by
    refine Finset.card_le_card_of_injOn (fun i => (db.sizes i).setWidth 32) ?_ ?_
    · intro i hi
      have hlt : i < n := by
        have hmem := Finset.mem_Ico.mp (db.pool.inRange hi)
        rw [fa.lo, fa.size, Nat.zero_add] at hmem
        exact hmem.2
      have hpos := (h.taken i hlt).mp hi
      rw [h.counted i hlt] at hpos
      obtain ⟨p, hp⟩ := Finset.card_pos.mp hpos
      obtain ⟨hmem, hmtu⟩ := Finset.mem_filter.mp hp
      exact Finset.mem_coe.mpr (Finset.mem_image.mpr ⟨p, hmem, hmtu⟩)
    · intro i hi j hj hsize
      have hlt : ∀ k ∈ db.pool.used, k < n := by
        intro k hk
        have hmem := Finset.mem_Ico.mp (db.pool.inRange hk)
        rw [fa.lo, fa.size, Nat.zero_add] at hmem
        exact hmem.2
      exact h.apart i (hlt i hi) j (hlt j hj) hi hj (setWidth_inj hsize)
  have hex : ∃ i ∈ Finset.range n, i ∉ db.pool.used := by
    by_contra hno
    simp only [not_exists, not_and, not_not] at hno
    have hcard := Finset.card_le_card hno
    rw [Finset.card_range] at hcard
    omega
  obtain ⟨i, hi, hfree⟩ := hex
  refine Pool.alloc_isSome fa.complete ?_ hfree
  rw [fa.lo, fa.size, Nat.zero_add, Finset.mem_Ico]
  exact ⟨Nat.zero_le i, Finset.mem_range.mp hi⟩

/-- What the invariant says of the counts, the pool and the room in it. -/
theorem ok (h : MtuInv gp db) {chipType : ChipType}
    (hchip : chipType.sharesFrameSizes = true) : MtuOk chipType gp db := by
  refine ⟨h.counted, h.taken, fun hfew p v => ?_⟩
  have hroom := h.room hfew
  have hunset := portUnsetMaxFrame_cases .ok db p v
  unfold setPortMtu
  generalize portUnsetMaxFrame .ok db p = u at hunset
  obtain ⟨status, db₁⟩ := u
  rcases hunset with ⟨hrefused, -, -⟩ | ⟨-, hok, hdb⟩
  · rcases hrefused with hne | hno
    · exact absurd rfl hne
    · exact absurd (searchFrameSize_answered (fun _ => rfl) _ _ _) (hno _)
  subst hok
  have hset := portSetMaxFrame_frameSet hchip .ok db₁ p v
  dsimp only
  generalize portSetMaxFrame .ok chipType db₁ p v = r at hset
  obtain ⟨set, db₂⟩ := r
  cases hset with
  | found => rfl
  | fresh => rfl
  | failed _ _ hno =>
    refine absurd ⟨⟨_, searchFrameSize_answered (fun _ => rfl) _ _ _⟩, rfl, fun _ => ⟨rfl, ?_⟩⟩ hno
    rw [hdb]
    split <;> exact hroom
  | written _ _ _ _ _ hport => exact absurd rfl hport

end MtuInv

/-- In a run from a chip with no port on a profile, of calls that are sound,
counts, pool and sizes agree, and a call that fails leaves all as it was. -/
theorem mtu_of_run {chipType : ChipType} (hchip : chipType.sharesFrameSizes = true) {gp : Gports}
    {db : FrameDb fa} (h : Reachable (MtuFresh gp) (MtuSafe gp) (mtuStep chipType) db) :
    MtuOk chipType gp db ∧ ∀ c, MtuSafe gp db c →
      (setPortMtu c.sdk chipType db c.gport c.value).1 = false →
      MtuKept db (setPortMtu c.sdk chipType db c.gport c.value).2 := by
  have hinv : MtuInv gp db := by
    refine h.inv (fun _ hs => .start hs) fun s c s' hi hc hst => ?_
    cases hst
    exact (hi.step hchip hc).1
  exact ⟨hinv.ok hchip, fun c hc => (hinv.step hchip hc).2⟩

/-- A call when all are taken. -/
theorem setPortMtu_full {chipType : ChipType} (hchip : chipType.sharesFrameSizes = true)
    (hfull : db.pool.alloc = none) (c : MtuCall) :
    let r := setPortMtu c.sdk chipType db c.gport c.value
    (r.2.pool = db.pool ∧ r.2.sizes = db.sizes) ∧ (db.profileOf c.value = none → r.1 = false) := by
  have hunset : (portUnsetMaxFrame c.sdk db c.gport).2.pool = db.pool ∧
      (portUnsetMaxFrame c.sdk db c.gport).2.sizes = db.sizes := by
    unfold portUnsetMaxFrame
    split
    · split <;> exact ⟨rfl, rfl⟩
    · exact ⟨rfl, rfl⟩
  unfold setPortMtu
  generalize portUnsetMaxFrame c.sdk db c.gport = u at hunset
  obtain ⟨status, db₁⟩ := u
  cases status
  case success =>
    have hset := portSetMaxFrame_frameSet hchip c.sdk db₁ c.gport c.value
    dsimp only at hunset ⊢
    generalize portSetMaxFrame c.sdk chipType db₁ c.gport c.value = r at hset
    obtain ⟨set, db₂⟩ := r
    rw [← hunset.1] at hfull
    cases hset with
    | found i hi =>
      refine ⟨hunset, fun hnone => ?_⟩
      rw [FrameDb.profileOf, hunset.2] at hi
      cases hnone.symm.trans hi
    | failed _ hne => exact ⟨hunset, fun _ => decide_eq_false hne⟩
    | fresh _ _ _ ha => cases hfull.symm.trans ha
    | written _ _ _ _ _ _ ha => cases hfull.symm.trans ha
  all_goals exact ⟨hunset, fun _ => rfl⟩

/-- No profile is ever given back: when all are taken, their sizes stay in every run, and no
other MTU can be set. -/
theorem sizes_of_full {chipType : ChipType} (hchip : chipType.sharesFrameSizes = true)
    {db₀ : FrameDb fa} (hfull : db₀.pool.alloc = none)
    (h : Reachable (· = db₀) anyStep (mtuStep chipType) db) :
    db.sizes = db₀.sizes ∧ ∀ c : MtuCall, db₀.profileOf c.value = none →
      (setPortMtu c.sdk chipType db c.gport c.value).1 = false := by
  have hinv : db.pool = db₀.pool ∧ db.sizes = db₀.sizes := by
    induction h with
    | start hs =>
      cases hs
      exact ⟨rfl, rfl⟩
    | next c _ _ hst ih =>
      cases hst
      exact (setPortMtu_full hchip (ih.1 ▸ hfull) c).1.imp (·.trans ih.1) (·.trans ih.2)
  refine ⟨hinv.2, fun c hc => (setPortMtu_full hchip (hinv.1 ▸ hfull) c).2 ?_⟩
  rwa [FrameDb.profileOf, hinv.2]

end Users

/-! ## Two runs -/

/-- A chip of two profiles, both of size 0, and one port whose MTU is none of
them. -/
def FrameAllocator.two : FrameAllocator 2 :=
  ⟨.firstFit 0 2, rfl, rfl, Allocator.firstFit_complete 0 2⟩

def FrameDb.start : FrameDb FrameAllocator.two :=
  ⟨fun _ => 0, fun _ => 9600, fun _ => 0, .empty _⟩

def Gports.one : Gports := ⟨{1}, by decide⟩

theorem frameStart_fresh : MtuFresh .one FrameDb.start :=
  ⟨⟨fun _ => rfl, rfl⟩, by decide⟩

/-- The port set to 1500 takes a profile, and set to it again keeps it. -/
theorem mtu_of_run_two : ∃ db : FrameDb FrameAllocator.two,
    MtuOk .duet2 .one db ∧ db.mtu 1 = 1500 ∧ db.pool.used = {0} := by
  have r₀ : Reachable (MtuFresh .one) (MtuSafe .one) (mtuStep .duet2) FrameDb.start :=
    .start frameStart_fresh
  have r₁ := r₀.next ⟨.ok, 1, 1500⟩ (by
    refine ⟨by decide, .inr ⟨?_, ?_, fun _ => ⟨by decide, fun p hp _ => ⟨?_, rfl⟩⟩⟩⟩
    · rintro i ⟨⟩
    · rintro i ⟨⟩
    · exact Finset.mem_singleton.mp hp) rfl
  have r₂ := r₁.next ⟨.ok, 1, 1500⟩ (by
    refine ⟨by decide, .inr ⟨fun i _ => ⟨.inr rfl, ⟨some 0, rfl⟩, rfl, nofun⟩, ?_, nofun⟩⟩
    rintro i ⟨⟩
    decide) rfl
  exact ⟨_, (mtu_of_run rfl r₂).1, by decide, by decide⟩

/-- After 1500 and 9000 another port is set to 1500, and then the first cannot be set to 4000. -/
theorem sizes_of_full_two :
    let db := (setPortMtu .ok .duet2 (setPortMtu .ok .duet2 FrameDb.start 1 1500).2 1 9000).2
    (setPortMtu .ok .duet2 (setPortMtu .ok .duet2 db 2 1500).2 1 4000).1 = false := by
  intro db
  have r₀ : Reachable (· = db) anyStep (mtuStep .duet2) db := .start rfl
  have r₁ := r₀.next ⟨.ok, 2, 1500⟩ trivial rfl
  exact (sizes_of_full rfl rfl r₁).2 ⟨.ok, 1, 4000⟩ rfl

/-- The port set to 1500 and then to 9000: nobody is left on the first
profile, and it stays taken. -/
theorem mtu_not_every_run : ¬ ∀ db : FrameDb FrameAllocator.two,
    Reachable (MtuFresh .one) anyStep (mtuStep .duet2) db → MtuOk .duet2 .one db := by
  intro h
  have r₀ : Reachable (MtuFresh .one) anyStep (mtuStep .duet2) FrameDb.start :=
    .start frameStart_fresh
  have r₁ := r₀.next ⟨.ok, 1, 1500⟩ trivial rfl
  have r₂ := r₁.next ⟨.ok, 1, 9000⟩ trivial rfl
  have htaken := (h _ r₂).taken 0 (by decide)
  revert htaken
  decide

end CtcSai
