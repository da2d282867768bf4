/-
# `UdfMembersRuns` — the UDFs of a group in every run

`UdfInv` says that the slots, the counts and the records agree.  Each call
leaves it as it is: a UDF joins a group or leaves it, an empty group or a match
without UDFs comes or goes.  The one condition is on removing a UDF, which is
found again by its offset: no other UDF of the group may be at the same one.
-/
import CtcSai.UdfMembers
import CtcSai.UdfUpdate
import CtcSai.Lib.Run

namespace CtcSai

open Function IdPool KeyedTable Runs Table

variable {ch : UdfChip}

/-! ## The invariant -/

/-- The slots, the counts and the records agree, and no count is near its end. -/
structure UdfInv (db : UdfDb ch) : Prop where
  slot : ∀ {g s j}, db.slots g = some s → s j ≠ Oid.null → ∃ m, db.bound (s j) = some (g, m)
  mem : ∀ {u g m}, db.bound u = some (g, m) → ∃ s j, db.slots g = some s ∧ s j = u
  once : ∀ {g s i j}, db.slots g = some s → s i = s j → s i ≠ Oid.null → i = j
  same : ∀ {u v g m n}, db.bound u = some (g, m) → db.bound v = some (g, n) →
    u.subType = v.subType ∧ m = n
  ne : ∀ {u p}, db.bound u = some p → u ≠ Oid.null
  live : ∀ {u g m}, db.bound u = some (g, m) → (db.refs m).isSome
  refs : ∀ {m c}, db.refs m = some c → c.toNat = (db.naming m).card
  cnt : db.udfGroupCnt.toNat = db.groupSet.card
  few : db.groupSet.card ≤ udfGroupMaxNum ch.chipType + 1
  acl : ∀ {g c}, db.acl g = some c → c = 0
  ecmp : db.ecmpUdfGroups = []
  lag : db.lagUdfGroups = []

section Inv

variable {db db' : UdfDb ch} {u g m : Oid}

theorem naming_congr (h : db'.bound = db.bound) : db'.naming m = db.naming m := by
  ext v
  rw [UdfDb.mem_naming, UdfDb.mem_naming, h]

theorem groupSet_congr (h : db'.slots = db.slots) : db'.groupSet = db.groupSet := by
  ext v
  rw [UdfDb.mem_groupSet, UdfDb.mem_groupSet, h]

theorem UdfInv.congr (h : UdfInv db) (hs : SameMembers db db') : UdfInv db' := by
  have hnaming : ∀ m, db'.naming m = db.naming m := fun m => naming_congr hs.bound
  have hgroups := groupSet_congr hs.slots
  constructor
  case slot => rw [hs.slots, hs.bound]; exact h.slot
  case mem => rw [hs.slots, hs.bound]; exact h.mem
  case once => rw [hs.slots]; exact h.once
  case same => rw [hs.bound]; exact h.same
  case ne => rw [hs.bound]; exact h.ne
  case live => rw [hs.bound, hs.refs]; exact h.live
  case refs => intro m c; rw [hs.refs, hnaming]; exact h.refs
  case cnt => rw [hs.cnt, hgroups]; exact h.cnt
  case few => rw [hgroups]; exact h.few
  case acl => rw [hs.acl]; exact h.acl
  case ecmp => rw [hs.ecmp]; exact h.ecmp
  case lag => rw [hs.lag]; exact h.lag

theorem UdfInv.card_naming_le (h : UdfInv db) (m : Oid) :
    (db.naming m).card ≤ 4 * db.groupSet.card := by
  have hsub : db.naming m ⊆ (db.groupSet ×ˢ (Finset.univ : Finset (Fin 4))).image
      fun p => ((db.slots p.1).getD fun _ => Oid.null) p.2 := by
    intro v hv
    obtain ⟨g, hb⟩ := UdfDb.mem_naming.mp hv
    obtain ⟨s, j, hs, hj⟩ := h.mem hb
    refine Finset.mem_image.mpr ⟨(g, j), ?_, by rw [hs]; exact hj⟩
    exact Finset.mem_product.mpr ⟨UdfDb.mem_groupSet.mpr (by rw [hs]; rfl), Finset.mem_univ _⟩
  calc (db.naming m).card
      _ ≤ _ := Finset.card_le_card hsub
      _ ≤ _ := Finset.card_image_le
      _ = 4 * db.groupSet.card := by rw [Finset.card_product, Finset.card_fin, Nat.mul_comm]

theorem udfGroupMaxNum_le (t : ChipType) : udfGroupMaxNum t ≤ 16 := by
  cases t <;> decide

theorem naming_join (hu : db.bound u = none)
    (hb : db'.bound = update db.bound u (some (g, m))) (n : Oid) :
    db'.naming n = if n = m then insert u (db.naming n) else db.naming n := by
  ext v
  rw [UdfDb.mem_naming, hb]
  by_cases hv : v = u
  · rw [hv]
    split
    · rename_i hn
      simp [hn]
    · rename_i hn
      rw [UdfDb.mem_naming, hu]
      simp [Ne.symm hn]
  rw [update_of_ne hv]
  split
  · rw [Finset.mem_insert, UdfDb.mem_naming]
    exact (or_iff_right hv).symm
  · rw [UdfDb.mem_naming]

theorem naming_leave (hb : db'.bound = update db.bound u none)
    (hu : db.bound u = some (g, m)) (n : Oid) :
    db'.naming n = if n = m then (db.naming n).erase u else db.naming n := by
  ext v
  rw [UdfDb.mem_naming, hb]
  by_cases hv : v = u
  · rw [hv]
    split
    · simp
    · rename_i hn
      rw [UdfDb.mem_naming, hu]
      simp [Ne.symm hn]
  rw [update_of_ne hv]
  split
  · rw [Finset.mem_erase, UdfDb.mem_naming]
    exact (and_iff_right hv).symm
  · rw [UdfDb.mem_naming]

theorem groupSet_place {s : Fin 4 → Oid} (hg : (db.slots g).isSome)
    (hs : db'.slots = update db.slots g (some s)) : db'.groupSet = db.groupSet := by
  ext v
  rw [UdfDb.mem_groupSet, UdfDb.mem_groupSet, hs]
  by_cases hv : v = g
  · rw [hv, update_self, hg]
    rfl
  · rw [update_of_ne hv]

section Join

variable {s : Fin 4 → Oid} {i : Fin 4} {v : Oid} {p : Oid × Oid}

theorem ne_of_bound (hu : db.bound u = none) (hv : db.bound v = some p) : v ≠ u := by
  rintro rfl
  rw [hu] at hv
  cases hv

theorem UdfPlaced.keep (hp : UdfPlaced db db' u g m s i) (hu : db.bound u = none)
    (hv : db.bound v = some p) : db'.bound v = some p := by
  rw [hp.bound, update_of_ne (ne_of_bound hu hv)]
  exact hv

theorem UdfPlaced.bound_self (hp : UdfPlaced db db' u g m s i) : db'.bound u = some (g, m) := by
  rw [hp.bound, update_self]

/-- What is bound afterwards is the new UDF or was bound before. -/
theorem UdfPlaced.bound_cases (hp : UdfPlaced db db' u g m s i) (hv : db'.bound v = some p) :
    v = u ∧ (g, m) = p ∨ v ≠ u ∧ db.bound v = some p := by
  rw [hp.bound] at hv
  exact of_update_some hv

theorem UdfPlaced.slots_cases (hp : UdfPlaced db db' u g m s i) {o : Oid} {t : Fin 4 → Oid}
    (ht : db'.slots o = some t) : o = g ∧ update s i u = t ∨ o ≠ g ∧ db.slots o = some t := by
  rw [hp.slots] at ht
  exact of_update_some ht

/-- The others of the group are like the new one. -/
theorem UdfInv.like_placed (h : UdfInv db) (hp : UdfPlaced db db' u g m s i) {n : Oid}
    (hv : db.bound v = some (g, n)) : v.subType = u.subType ∧ n = m := by
  obtain ⟨s', j, hs', hj⟩ := h.mem hv
  rw [hp.group] at hs'
  cases hs'
  rcases hp.like with hall | ⟨k, g', hk, hsub, hkb⟩
  · exact absurd (hj.symm.trans (hall j)) (h.ne hv)
  obtain ⟨m', hm'⟩ := h.slot hp.group hk
  rw [hkb] at hm'
  cases hm'
  obtain ⟨h₁, h₂⟩ := h.same hv hkb
  exact ⟨h₁.trans hsub, h₂⟩

theorem UdfInv.slot_join (h : UdfInv db) (hu : db.bound u = none)
    (hp : UdfPlaced db db' u g m s i) {o : Oid} {t : Fin 4 → Oid} {j : Fin 4}
    (ht : db'.slots o = some t) (hj : t j ≠ Oid.null) : ∃ n, db'.bound (t j) = some (o, n) := by
  rcases hp.slots_cases ht with ⟨rfl, rfl⟩ | ⟨-, ht⟩
  · by_cases hji : j = i
    · rw [hji, update_self]
      exact ⟨m, hp.bound_self⟩
    · rw [update_of_ne hji] at hj ⊢
      obtain ⟨n, hn⟩ := h.slot hp.group hj
      exact ⟨n, hp.keep hu hn⟩
  · obtain ⟨n, hn⟩ := h.slot ht hj
    exact ⟨n, hp.keep hu hn⟩

theorem UdfInv.mem_join (h : UdfInv db) (hp : UdfPlaced db db' u g m s i) {o n : Oid}
    (hv : db'.bound v = some (o, n)) : ∃ t j, db'.slots o = some t ∧ t j = v := by
  rcases hp.bound_cases hv with ⟨rfl, he⟩ | ⟨-, hv⟩
  · cases he
    exact ⟨update s i v, i, by rw [hp.slots, update_self], update_self ..⟩
  obtain ⟨t, j, ht, hj⟩ := h.mem hv
  by_cases ho : o = g
  · rw [ho, hp.group] at ht
    cases ht
    have hji : j ≠ i := by
      rintro rfl
      exact h.ne hv (hj.symm.trans hp.free)
    refine ⟨update s i u, j, by rw [ho, hp.slots, update_self], ?_⟩
    rw [update_of_ne hji]
    exact hj
  · exact ⟨t, j, by rw [hp.slots, update_of_ne ho]; exact ht, hj⟩

theorem UdfInv.once_join (h : UdfInv db) (hu : db.bound u = none) (hne : u ≠ Oid.null)
    (hp : UdfPlaced db db' u g m s i) {o : Oid} {t : Fin 4 → Oid} {j k : Fin 4}
    (ht : db'.slots o = some t) (hjk : t j = t k) (hj : t j ≠ Oid.null) : j = k := by
  -- no slot held the new UDF
  have hfresh : ∀ l, s l ≠ u := by
    intro l hl
    obtain ⟨n, hn⟩ := h.slot hp.group (by rw [hl]; exact hne)
    exact ne_of_bound hu hn hl
  rcases hp.slots_cases ht with ⟨rfl, rfl⟩ | ⟨-, ht⟩
  · simp only [update_apply] at hjk hj
    split at hjk <;> split at hjk
    · rename_i h₁ h₂; rw [h₁, h₂]
    · rename_i h₁ h₂; exact absurd hjk.symm (hfresh k)
    · rename_i h₁ h₂; exact absurd hjk (hfresh j)
    · rename_i h₁ h₂
      rw [if_neg h₁] at hj
      exact h.once hp.group hjk hj
  · exact h.once ht hjk hj

theorem UdfInv.same_join (h : UdfInv db) (hp : UdfPlaced db db' u g m s i) {w o n n' : Oid}
    (hv : db'.bound v = some (o, n)) (hw : db'.bound w = some (o, n')) :
    v.subType = w.subType ∧ n = n' := by
  rcases hp.bound_cases hv with ⟨rfl, he⟩ | ⟨-, hv⟩ <;>
    rcases hp.bound_cases hw with ⟨rfl, he'⟩ | ⟨-, hw⟩
  · cases he; cases he'; exact ⟨rfl, rfl⟩
  · cases he
    exact ⟨(h.like_placed hp hw).1.symm, (h.like_placed hp hw).2.symm⟩
  · cases he'
    exact h.like_placed hp hv
  · exact h.same hv hw

/-- The count of the match goes up with the UDFs that name it. -/
theorem UdfInv.refs_join (h : UdfInv db) (hu : db.bound u = none)
    (hp : UdfPlaced db db' u g m s i) {c : BitVec 8} (hc : db.refs m = some c)
    (hrefs : db'.refs = update db.refs m (some (c + 1))) {n : Oid} {d : BitVec 8}
    (hd : db'.refs n = some d) : d.toNat = (db'.naming n).card := by
  rw [hrefs, update_apply] at hd
  rw [naming_join hu hp.bound]
  split at hd
  · rename_i hn
    cases hd
    have hnot : u ∉ db.naming m := by
      intro hmem
      obtain ⟨o, ho⟩ := UdfDb.mem_naming.mp hmem
      exact ne_of_bound hu ho rfl
    have hle := h.card_naming_le m
    have hfew := h.few
    have hmax := udfGroupMaxNum_le ch.chipType
    have hcm := h.refs hc
    rw [if_pos hn, hn, Finset.card_insert_of_notMem hnot, BitVec.toNat_add, hcm]
    exact Nat.mod_eq_of_lt (by simp only [BitVec.ofNat_eq_ofNat, BitVec.toNat_ofNat]; omega)
  · rename_i hn
    rw [if_neg hn]
    exact h.refs hd

/-- A UDF comes into a slot. -/
theorem UdfInv.join (h : UdfInv db) (hu : db.bound u = none)
    (hne : u ≠ Oid.null) (hp : UdfPlaced db db' u g m s i) (hc : CountsUp db db' m) :
    UdfInv db' := by
  obtain ⟨c, hc, hrefs⟩ := hc
  have hgroups : db'.groupSet = db.groupSet := groupSet_place (by rw [hp.group]; rfl) hp.slots
  constructor
  case slot => exact h.slot_join hu hp
  case mem => exact h.mem_join hp
  case once => exact h.once_join hu hne hp
  case same => exact h.same_join hp
  case ne =>
    intro v p hv
    rcases hp.bound_cases hv with ⟨rfl, -⟩ | ⟨-, hv⟩
    · exact hne
    · exact h.ne hv
  case live =>
    intro v o n hv
    rw [hrefs, update_apply]
    split
    · rfl
    rename_i hn
    rcases hp.bound_cases hv with ⟨-, he⟩ | ⟨-, hv⟩
    · cases he; exact absurd rfl hn
    · exact h.live hv
  case refs => exact h.refs_join hu hp hc hrefs
  case cnt => rw [hp.cnt, hgroups]; exact h.cnt
  case few => rw [hgroups]; exact h.few
  case acl => rw [hp.acl]; exact h.acl
  case ecmp => rw [hp.ecmp]; exact h.ecmp
  case lag => rw [hp.lag]; exact h.lag

end Join

/-- A UDF goes out of its slot. -/
structure Leaves (db db' : UdfDb ch) (u g m : Oid) (s : Fin 4 → Oid) (i : Fin 4) : Prop where
  group : db.slots g = some s
  held : s i = u
  slots : db'.slots = update db.slots g (some (update s i Oid.null))
  acl : db'.acl = db.acl
  bound : db'.bound = update db.bound u none
  refs : ∃ c, db.refs m = some c ∧ db'.refs = update db.refs m (some (c - 1))
  cnt : db'.udfGroupCnt = db.udfGroupCnt
  ecmp : db'.ecmpUdfGroups = db.ecmpUdfGroups
  lag : db'.lagUdfGroups = db.lagUdfGroups

theorem UdfInv.leave {s : Fin 4 → Oid} {i : Fin 4} (h : UdfInv db)
    (hu : db.bound u = some (g, m)) (hl : Leaves db db' u g m s i) : UdfInv db' := by
  obtain ⟨c, hc, hrefs⟩ := hl.refs
  have hgroups : db'.groupSet = db.groupSet := groupSet_place (by rw [hl.group]; rfl) hl.slots
  have hold : ∀ {v p}, db'.bound v = some p → v ≠ u ∧ db.bound v = some p := by
    rw [hl.bound]
    exact of_update_none
  have hkeep : ∀ {v p}, v ≠ u → db.bound v = some p → db'.bound v = some p := by
    intro v p hvu hv
    rw [hl.bound, update_of_ne hvu]
    exact hv
  have hslots : ∀ {o t}, db'.slots o = some t →
      o = g ∧ update s i Oid.null = t ∨ o ≠ g ∧ db.slots o = some t := by
    rw [hl.slots]
    exact of_update_some
  constructor
  case slot =>
    intro o t j ht hj
    rcases hslots ht with ⟨rfl, rfl⟩ | ⟨ho, ht⟩
    · have hji : j ≠ i := by
        rintro rfl
        exact hj (update_self ..)
      rw [update_of_ne hji] at hj ⊢
      obtain ⟨n, hn⟩ := h.slot hl.group hj
      refine ⟨n, hkeep (fun he => hji ?_) hn⟩
      exact h.once hl.group (he.trans hl.held.symm) hj
    obtain ⟨n, hn⟩ := h.slot ht hj
    refine ⟨n, hkeep (fun he => ho ?_) hn⟩
    rw [he, hu] at hn
    cases hn
    rfl
  case mem =>
    intro v o n hv
    obtain ⟨hvu, hv⟩ := hold hv
    obtain ⟨t, j, ht, hj⟩ := h.mem hv
    by_cases ho : o = g
    · rw [ho, hl.group] at ht
      cases ht
      have hji : j ≠ i := by
        rintro rfl
        exact hvu (hj.symm.trans hl.held)
      refine ⟨update s i Oid.null, j, by rw [ho, hl.slots, update_self], ?_⟩
      rw [update_of_ne hji]
      exact hj
    · exact ⟨t, j, by rw [hl.slots, update_of_ne ho]; exact ht, hj⟩
  case once =>
    intro o t j k ht hjk hj
    rcases hslots ht with ⟨rfl, rfl⟩ | ⟨-, ht⟩
    · simp only [update_apply] at hjk hj
      split at hjk <;> split at hjk
      · rename_i h₁ h₂; rw [h₁, h₂]
      · rename_i h₁ h₂
        rw [if_pos h₁] at hj
        exact absurd rfl hj
      · rename_i h₁ h₂
        rw [if_neg h₁] at hj
        exact absurd hjk hj
      · rename_i h₁ h₂
        rw [if_neg h₁] at hj
        exact h.once hl.group hjk hj
    · exact h.once ht hjk hj
  case same => intro v w o n n' hv hw; exact h.same (hold hv).2 (hold hw).2
  case ne => intro v p hv; exact h.ne (hold hv).2
  case live =>
    intro v o n hv
    rw [hrefs, update_apply]
    split
    · rfl
    · exact h.live (hold hv).2
  case refs =>
    intro n d hd
    rw [hrefs, update_apply] at hd
    rw [naming_leave hl.bound hu]
    split at hd
    · rename_i hn
      cases hd
      have hmem : u ∈ db.naming m := UdfDb.mem_naming.mpr ⟨g, hu⟩
      have hpos : 0 < (db.naming m).card := Finset.card_pos.mpr ⟨u, hmem⟩
      have hcm := h.refs hc
      rw [if_pos hn, hn, Finset.card_erase_of_mem hmem]
      bv_omega
    · rename_i hn
      rw [if_neg hn]
      exact h.refs hd
  case cnt => rw [hl.cnt, hgroups]; exact h.cnt
  case few => rw [hgroups]; exact h.few
  case acl => rw [hl.acl]; exact h.acl
  case ecmp => rw [hl.ecmp]; exact h.ecmp
  case lag => rw [hl.lag]; exact h.lag

/-- A new group is empty. -/
theorem UdfInv.addGroup (h : UdfInv db) (hg : db.slots g = none)
    (hfew : db.groupSet.card ≤ udfGroupMaxNum ch.chipType)
    (hs : db'.slots = update db.slots g (some fun _ => Oid.null))
    (ha : db'.acl = update db.acl g (some 0)) (hr : db'.refs = db.refs)
    (hb : db'.bound = db.bound) (hc : db'.udfGroupCnt = db.udfGroupCnt + 1)
    (he : db'.ecmpUdfGroups = db.ecmpUdfGroups) (hl : db'.lagUdfGroups = db.lagUdfGroups) :
    UdfInv db' := by
  have hgroups : db'.groupSet = insert g db.groupSet := by
    ext v
    rw [Finset.mem_insert, UdfDb.mem_groupSet, UdfDb.mem_groupSet, hs, update_apply]
    split
    · rename_i hv; simp [hv]
    · rename_i hv; exact (or_iff_right hv).symm
  have hcard : db'.groupSet.card = db.groupSet.card + 1 := by
    rw [hgroups, Finset.card_insert_of_notMem]
    intro hmem
    rw [UdfDb.mem_groupSet, hg] at hmem
    cases hmem
  have hslots : ∀ {o t}, db'.slots o = some t →
      o = g ∧ (fun _ => Oid.null) = t ∨ o ≠ g ∧ db.slots o = some t := by
    rw [hs]
    exact of_update_some
  constructor
  case slot =>
    intro o t j ht hj
    rcases hslots ht with ⟨-, rfl⟩ | ⟨-, ht⟩
    · exact absurd rfl hj
    · rw [hb]; exact h.slot ht hj
  case mem =>
    intro v o n hv
    rw [hb] at hv
    obtain ⟨t, j, ht, hj⟩ := h.mem hv
    refine ⟨t, j, ?_, hj⟩
    rw [hs, update_of_ne]
    · exact ht
    · rintro rfl
      rw [hg] at ht
      cases ht
  case once =>
    intro o t j k ht hjk hj
    rcases hslots ht with ⟨-, rfl⟩ | ⟨-, ht⟩
    · exact absurd rfl hj
    · exact h.once ht hjk hj
  case same => rw [hb]; exact h.same
  case ne => rw [hb]; exact h.ne
  case live => rw [hb, hr]; exact h.live
  case refs => intro n c; rw [hr, naming_congr hb]; exact h.refs
  case cnt =>
    have hmax := udfGroupMaxNum_le ch.chipType
    have hold := h.cnt
    rw [hc, hcard, BitVec.toNat_add, hold]
    exact Nat.mod_eq_of_lt (by simp only [BitVec.ofNat_eq_ofNat, BitVec.toNat_ofNat]; omega)
  case few => omega
  case acl =>
    rw [ha]
    exact fun hoc => (of_update_some hoc).elim (fun hx => hx.2.symm) fun hx => h.acl hx.2
  case ecmp => rw [he]; exact h.ecmp
  case lag => rw [hl]; exact h.lag

theorem UdfInv.dropGroup {s : Fin 4 → Oid} (h : UdfInv db) (hg : db.slots g = some s)
    (hempty : ∀ j, s j = Oid.null) (hs : db'.slots = update db.slots g none)
    (ha : db'.acl = update db.acl g none) (hr : db'.refs = db.refs)
    (hb : db'.bound = db.bound) (hc : db'.udfGroupCnt = db.udfGroupCnt - 1)
    (he : db'.ecmpUdfGroups = db.ecmpUdfGroups) (hl : db'.lagUdfGroups = db.lagUdfGroups) :
    UdfInv db' := by
  have hmem : g ∈ db.groupSet := UdfDb.mem_groupSet.mpr (by rw [hg]; rfl)
  have hgroups : db'.groupSet = db.groupSet.erase g := by
    ext v
    rw [Finset.mem_erase, UdfDb.mem_groupSet, UdfDb.mem_groupSet, hs, update_apply]
    split
    · rename_i hv; simp [hv]
    · rename_i hv; exact (and_iff_right hv).symm
  have hpos : 0 < db.groupSet.card := Finset.card_pos.mpr ⟨g, hmem⟩
  have hcard : db'.groupSet.card = db.groupSet.card - 1 := by
    rw [hgroups, Finset.card_erase_of_mem hmem]
  have hslots : ∀ {o t}, db'.slots o = some t → db.slots o = some t := by
    rw [hs]
    exact fun ht => (of_update_none ht).2
  constructor
  case slot => intro o t j ht hj; rw [hb]; exact h.slot (hslots ht) hj
  case mem =>
    intro v o n hv
    rw [hb] at hv
    obtain ⟨t, j, ht, hj⟩ := h.mem hv
    refine ⟨t, j, ?_, hj⟩
    rw [hs, update_of_ne]
    · exact ht
    · rintro rfl
      rw [hg] at ht
      cases ht
      exact h.ne hv (hj.symm.trans (hempty j))
  case once => intro o t j k ht hjk hj; exact h.once (hslots ht) hjk hj
  case same => rw [hb]; exact h.same
  case ne => rw [hb]; exact h.ne
  case live => rw [hb, hr]; exact h.live
  case refs => intro n c; rw [hr, naming_congr hb]; exact h.refs
  case cnt =>
    have hold := h.cnt
    bv_omega
  case few => have := h.few; omega
  case acl =>
    rw [ha]
    exact fun hoc => h.acl (of_update_none hoc).2
  case ecmp => rw [he]; exact h.ecmp
  case lag => rw [hl]; exact h.lag

theorem UdfInv.setMatch {x : Option (BitVec 8)} (h : UdfInv db)
    (hnone : ∀ v o n, db.bound v = some (o, n) → n ≠ m) (hx : ∀ c, x = some c → c = 0)
    (hs : db'.slots = db.slots) (ha : db'.acl = db.acl)
    (hr : db'.refs = update db.refs m x) (hb : db'.bound = db.bound)
    (hc : db'.udfGroupCnt = db.udfGroupCnt) (he : db'.ecmpUdfGroups = db.ecmpUdfGroups)
    (hl : db'.lagUdfGroups = db.lagUdfGroups) : UdfInv db' := by
  have hgroups := groupSet_congr hs
  constructor
  case slot => rw [hs, hb]; exact h.slot
  case mem => rw [hs, hb]; exact h.mem
  case once => rw [hs]; exact h.once
  case same => rw [hb]; exact h.same
  case ne => rw [hb]; exact h.ne
  case live =>
    intro v o n hv
    rw [hb] at hv
    rw [hr, update_of_ne (hnone v o n hv)]
    exact h.live hv
  case refs =>
    intro n c hn
    rw [hr, update_apply] at hn
    rw [naming_congr hb]
    split at hn
    · rename_i hnm
      have hempty : db.naming n = ∅ := by
        refine Finset.eq_empty_of_forall_notMem fun v hv => ?_
        obtain ⟨o, ho⟩ := UdfDb.mem_naming.mp hv
        exact hnone v o n ho hnm
      rw [hempty, hx c hn]
      rfl
    · exact h.refs hn
  case cnt => rw [hc, hgroups]; exact h.cnt
  case few => rw [hgroups]; exact h.few
  case acl => rw [ha]; exact h.acl
  case ecmp => rw [he]; exact h.ecmp
  case lag => rw [hl]; exact h.lag

end Inv

/-! ## Removal of a UDF -/

/-- The UDF is the only one of its group at its offset. -/
def UdfUnique (db : UdfDb ch) (u : Oid) : Prop :=
  ∀ r, db.udfs.lookup u = some r → ∀ v t, db.udfs.lookup v = some t →
    t.groupId = r.groupId → t.offset = r.offset → v = u

section Remove

variable {sdk : UdfSdk} {db : UdfDb ch} {u : Oid}

/-- The loop over the slots, where each that is taken has a record: it clears
those at the offset, and what all the records have in common the last one has. -/
theorem udfClearSlots_spec {P : Udf → Prop} {offset : BitVec 8} {l : List (Fin 4)}
    (hl : l.Nodup) {s : Fin 4 → Oid} {last : Udf} (hlast : P last)
    (hs : ∀ j ∈ l, s j ≠ Oid.null → ∃ r, db.udfs.lookup (s j) = some r ∧ P r) :
    ∃ last', P last' ∧ udfClearSlots db offset l s last = (some last', fun j =>
      if j ∈ l ∧ s j ≠ Oid.null ∧ (db.udfs.lookup (s j)).any (·.offset = offset) then Oid.null
      else s j) := by
  induction l generalizing s last with
  | nil => exact ⟨last, hlast, by simp [udfClearSlots]⟩
  | cons i l ih =>
    obtain ⟨hi, hl⟩ := List.nodup_cons.mp hl
    have hmem : ∀ {j}, j ∈ l → j ≠ i := by
      rintro j hj rfl
      exact hi hj
    unfold udfClearSlots
    split
    · rename_i hnull
      obtain ⟨last', hP, he⟩ := ih hl hlast fun j hj => hs j (List.mem_cons_of_mem i hj)
      refine ⟨last', hP, he.trans ?_⟩
      refine Prod.ext rfl (funext fun j => ?_)
      by_cases hji : j = i
      · simp [hji, hi, hnull]
      · simp [hji]
    rename_i hne
    obtain ⟨r, hr, hP⟩ := hs i List.mem_cons_self hne
    rw [hr]
    dsimp only
    generalize hs' : (if r.offset = offset then update s i Oid.null else s) = s'
    have hself : s' i = if r.offset = offset then Oid.null else s i := by
      rw [← hs']
      split <;> simp
    have hrest : ∀ j, j ≠ i → s' j = s j := by
      intro j hj
      rw [← hs']
      split
      · exact update_of_ne hj _ _
      · rfl
    obtain ⟨last', hP', he⟩ := @ih hl s' r hP fun j hj => by
      rw [hrest j (hmem hj)]
      exact hs j (List.mem_cons_of_mem i hj)
    refine ⟨last', hP', he.trans (Prod.ext rfl (funext fun j => ?_))⟩
    by_cases hji : j = i
    · subst hji
      simp [hi, hne, hr, hself]
    · dsimp only
      rw [hrest j hji]
      simp [hji]

theorem UdfInv.judgedUsed (h : UdfInv db) {g : Oid} {grp : UdfGroup}
    (hg : db.groups.lookup g = some grp) : udfJudgedUsed db g = .success := by
  have hacl : grp.aclRefCnt = 0 := h.acl (UdfDb.acl_of_lookup hg)
  simp [udfJudgedUsed, h.ecmp, h.lag, hg, hacl]

/-- A removal of the only UDF at its offset clears its slot. -/
theorem UdfInv.clearSlots (h : UdfInv db) {r : Udf} (hu : db.udfs.lookup u = some r)
    (huniq : UdfUnique db u) {grp : UdfGroup} (hg : db.groups.lookup r.groupId = some grp) :
    ∃ last i, grp.udfId i = u ∧ last.groupId = r.groupId ∧ last.matchId = r.matchId ∧
      udfClearSlots db r.offset (List.finRange 4) grp.udfId r =
        (some last, update grp.udfId i Oid.null) := by
  have hs := UdfDb.slots_of_lookup hg
  have hub := UdfDb.bound_of_lookup hu
  obtain ⟨s, i, hs', hi⟩ := h.mem hub
  rw [hs] at hs'
  cases hs'
  obtain ⟨last, ⟨hlg, hlm⟩, he⟩ := @udfClearSlots_spec ch db
    (fun t => t.groupId = r.groupId ∧ t.matchId = r.matchId) r.offset _ (List.nodup_finRange 4)
    grp.udfId r ⟨rfl, rfl⟩ (by
      intro j _ hj
      obtain ⟨m, hm⟩ := h.slot hs hj
      obtain ⟨t, ht, htg, htm⟩ := UdfDb.lookup_of_bound hm
      exact ⟨t, ht, htg, htm.trans (h.same hm hub).2⟩)
  refine ⟨last, i, hi, hlg, hlm, he.trans (Prod.ext rfl (funext fun j => ?_))⟩
  dsimp only
  rw [update_apply]
  by_cases hji : j = i
  · rw [if_pos hji, if_pos]
    rw [hji, hi]
    exact ⟨List.mem_finRange _, h.ne hub, by rw [hu]; simp⟩
  rw [if_neg hji, if_neg]
  rintro ⟨-, hne, hoff⟩
  obtain ⟨m, hm⟩ := h.slot hs hne
  obtain ⟨t, ht, htg, -⟩ := UdfDb.lookup_of_bound hm
  rw [ht] at hoff
  have hju := huniq r hu _ t ht htg (by simpa using hoff)
  exact hji (h.once hs (hju.trans hi.symm) hne)

/-- A removal changes nothing, or the UDF leaves its group and is erased. -/
theorem UdfInv.removeUdf_cases (h : UdfInv db) (huniq : UdfUnique db u)
    {r : Status × UdfDb ch} (hr : removeUdf sdk db u = some r) :
    (r.1 ≠ .success ∧ SameMembers db r.2 ∧ r.2.udfs = db.udfs) ∨
      (r.1 = .success ∧ r.2.udfs = db.udfs.erase u ∧
        ∃ g m s i, db.bound u = some (g, m) ∧ Leaves db r.2 u g m s i) := by
  unfold removeUdf at hr
  split at hr
  · cases hr; exact .inl ⟨nofun, .refl db, rfl⟩
  rename_i t ht
  have hub := UdfDb.bound_of_lookup ht
  obtain ⟨s, i', hs, -⟩ := h.mem hub
  obtain ⟨grp, hg, -⟩ := UdfDb.lookup_of_slots hs
  obtain ⟨last, i, hi, hlg, hlm, hclear⟩ := h.clearSlots ht huniq hg
  rw [h.judgedUsed hg, hg] at hr
  dsimp only at hr
  rw [hclear] at hr
  dsimp only at hr
  split at hr
  · cases hr
  · rename_i db₂ h₂
    have hp := udfRemoveEntry_programmed (by exact AList.lookup_insert db.groups) h₂
    have hsame := hp.same (by exact AList.lookup_insert db.groups)
    split at hr
    · cases hr
    rename_i m hm
    cases hr
    have hmold : db.refs t.matchId = some m.udfRefCnt := by
      unfold UdfDb.refs
      rw [← hlm, ← show db₂.udfMatches = db.udfMatches from hp.udfMatches, hm]
      rfl
    refine .inr ⟨rfl, by show db₂.udfs.erase u = _; rw [hp.udfs], t.groupId, t.matchId,
      grp.udfId, i, hub, UdfDb.slots_of_lookup hg, hi, ?_, ?_, ?_, ⟨m.udfRefCnt, hmold, ?_⟩,
      hsame.cnt, hsame.ecmp, hsame.lag⟩
    · refine hsame.slots.trans ?_
      exact slots_insert db t.groupId { grp with udfId := _ } db.hw
    · refine hsame.acl.trans ?_
      refine (acl_insert db t.groupId { grp with udfId := _ } db.hw).trans ?_
      rw [← UdfDb.acl_of_lookup hg, update_eq_self]
    · funext v
      unfold UdfDb.bound
      rw [lookup_erase_ite, update_apply]
      split
      · rfl
      · rw [hp.udfs]
    · refine (refs_putMatch db₂ last.matchId _).trans ?_
      rw [hlm, hsame.refs]
      rfl
  · rename_i status db₂ hne h₂
    cases hr
    have hp := udfRemoveEntry_programmed (by exact AList.lookup_insert db.groups) h₂
    have hsame := hp.same (by exact AList.lookup_insert db.groups)
    refine .inl ⟨fun he => hne he, ⟨?_, ?_, hsame.refs, hsame.bound, hsame.cnt,
      hsame.ecmp, hsame.lag⟩, hp.udfs⟩
    · refine (slots_insert db₂ t.groupId grp db₂.hw).trans ?_
      rw [hsame.slots]
      refine (congrArg (update · _ _)
        (slots_insert db t.groupId { grp with udfId := _ } db.hw)).trans ?_
      rw [update_idem, ← UdfDb.slots_of_lookup hg, update_eq_self]
    · refine (acl_insert db₂ t.groupId grp db₂.hw).trans ?_
      rw [hsame.acl]
      refine (congrArg (update · _ _)
        (acl_insert db t.groupId { grp with udfId := _ } db.hw)).trans ?_
      rw [update_idem, ← UdfDb.acl_of_lookup hg, update_eq_self]

end Remove

/-! ## Groups and matches -/

section Groups

variable {sdk : UdfSdk} {db : UdfDb ch}

theorem SameMembers.pool (db : UdfDb ch) (pool : Pool ch.common) :
    SameMembers db { db with pool := pool } := ⟨rfl, rfl, rfl, rfl, rfl, rfl, rfl⟩

theorem UdfInv.createGroup (h : UdfInv db) (attrs : List UdfGroupAttr) :
    UdfInv (createUdfGroup sdk db attrs).2.2 := by
  unfold createUdfGroup
  split
  · exact h
  split
  · exact h
  dsimp only
  split
  · exact h
  split
  · exact h
  rename_i i pool _
  split
  · exact h.congr (.pool db _)
  split
  · exact h.congr (.pool db _)
  rename_i hnew
  have hnone := Option.not_isSome_iff_eq_none.mp hnew
  split
  · exact h.congr (.pool db _)
  refine UdfInv.addGroup (g := udfGroupOid ch.lchip
    ((findAttribInList UdfGroupAttr.type? attrs).getD .generic) (BitVec.ofNat 32 i)) h
    ?_ ?_ ?_ ?_ rfl rfl rfl rfl rfl
  · unfold UdfDb.slots
    rw [hnone]
    rfl
  · rw [← h.cnt]
    omega
  · exact slots_insert db _ .zero db.hw
  · exact acl_insert db _ .zero db.hw

theorem UdfInv.removeGroup (h : UdfInv db) (g : Oid) : UdfInv (removeUdfGroup db g).2 := by
  unfold removeUdfGroup
  split
  · exact h
  rename_i grp hg
  rw [h.judgedUsed hg]
  dsimp only
  split
  · exact h
  rename_i hempty
  refine h.dropGroup (UdfDb.slots_of_lookup hg) (fun j => ?_) ?_ ?_ rfl rfl rfl rfl rfl
  · by_contra hj
    exact hempty ⟨j, hj⟩
  · funext o
    unfold UdfDb.slots
    rw [lookup_erase_ite, update_apply]
    split <;> rfl
  · funext o
    unfold UdfDb.acl
    rw [lookup_erase_ite, update_apply]
    split <;> rfl

theorem UdfInv.removeGroup_iff (h : UdfInv db) (g : Oid) :
    (removeUdfGroup db g).1 = .success ↔ (db.groups.lookup g).isSome ∧
      ∀ u r, db.udfs.lookup u = some r → r.groupId ≠ g := by
  unfold removeUdfGroup
  split
  · rename_i hnone
    simp [hnone]
  rename_i grp hg
  rw [h.judgedUsed hg, hg]
  dsimp only
  split
  · rename_i hex
    obtain ⟨i, hi⟩ := hex
    obtain ⟨m, hm⟩ := h.slot (UdfDb.slots_of_lookup hg) hi
    obtain ⟨r, hr, hrg, -⟩ := UdfDb.lookup_of_bound hm
    exact ⟨nofun, fun hall => absurd hrg (hall.2 _ r hr)⟩
  rename_i hempty
  refine ⟨fun _ => ⟨rfl, fun u r hr hrg => ?_⟩, fun _ => rfl⟩
  obtain ⟨s, j, hs, hj⟩ := h.mem (UdfDb.bound_of_lookup hr)
  rw [hrg, UdfDb.slots_of_lookup hg] at hs
  cases hs
  exact hempty ⟨j, fun h0 => h.ne (UdfDb.bound_of_lookup hr) (hj.symm.trans h0)⟩

theorem UdfInv.createMatch (h : UdfInv db) (attrs : List UdfMatchAttr) :
    UdfInv (createUdfMatch sdk db attrs).2.2 := by
  unfold createUdfMatch
  split
  · exact h
  rename_i i pool _
  dsimp only
  split
  · exact h.congr (.pool db _)
  split
  · exact h.congr (.pool db _)
  rename_i hnew
  have hnone := Option.not_isSome_iff_eq_none.mp hnew
  have hrefs : db.refs (udfMatchOid ch.lchip (BitVec.ofNat 32 i)) = none := by
    unfold UdfDb.refs
    rw [hnone]
    rfl
  have hfree : ∀ v o n, db.bound v = some (o, n) →
      n ≠ udfMatchOid ch.lchip (BitVec.ofNat 32 i) := by
    rintro v o n hv rfl
    have := h.live hv
    rw [hrefs] at this
    cases this
  split
  · exact h.congr (.pool db _)
  split
  · refine h.setMatch (x := none) hfree (fun c hc => by cases hc) rfl rfl ?_ rfl rfl rfl rfl
    funext o
    unfold UdfDb.refs
    rw [erase_insert hnone]
    by_cases ho : o = udfMatchOid ch.lchip (BitVec.ofNat 32 i)
    · rw [ho, update_self]
      exact hrefs
    · rw [update_of_ne ho]
  refine h.setMatch (x := some 0) hfree (fun c hc => by cases hc; rfl) rfl rfl ?_ rfl rfl rfl rfl
  refine (refs_putMatch (db.putMatch _ .zero) _ (udfMatchOf attrs)).trans ?_
  rw [refs_putMatch, update_idem]
  rfl

theorem UdfInv.removeMatch (h : UdfInv db) (m : Oid) : UdfInv (removeUdfMatch db m).2 := by
  unfold removeUdfMatch
  split
  · exact h
  rename_i rec hrec
  split
  · exact h
  rename_i hzero
  have hempty : db.naming m = ∅ := by
    rw [← Finset.card_eq_zero, ← h.refs (UdfDb.refs_of_lookup hrec), not_not.mp hzero]
    rfl
  refine h.setMatch (x := none) (m := m) ?_ (fun c hc => by cases hc) rfl rfl ?_ rfl rfl rfl rfl
  · rintro v o n hv rfl
    have hmem := UdfDb.mem_naming.mpr ⟨o, hv⟩
    rw [hempty] at hmem
    exact Finset.notMem_empty v hmem
  · funext o
    unfold UdfDb.refs
    rw [lookup_erase_ite, update_apply]
    split <;> rfl

theorem UdfInv.removeMatch_iff (h : UdfInv db) (m : Oid) :
    (removeUdfMatch db m).1 = .success ↔ (db.udfMatches.lookup m).isSome ∧
      ∀ u r, db.udfs.lookup u = some r → r.matchId ≠ m := by
  unfold removeUdfMatch
  split
  · rename_i hnone
    simp [hnone]
  rename_i rec hrec
  have hcard := h.refs (UdfDb.refs_of_lookup hrec)
  rw [hrec]
  split
  · have hpos : 0 < (db.naming m).card := by
      bv_omega
    obtain ⟨u, hu⟩ := Finset.card_pos.mp hpos
    obtain ⟨g, hg⟩ := UdfDb.mem_naming.mp hu
    obtain ⟨r, hr, -, hrm⟩ := UdfDb.lookup_of_bound hg
    exact ⟨nofun, fun hall => absurd hrm (hall.2 u r hr)⟩
  rename_i hzero
  refine ⟨fun _ => ⟨rfl, fun u r hr hrm => ?_⟩, fun _ => rfl⟩
  have hempty : db.naming m = ∅ := by
    rw [← Finset.card_eq_zero, ← hcard, not_not.mp hzero]
    rfl
  have hmem : u ∈ db.naming m :=
    UdfDb.mem_naming.mpr ⟨r.groupId, hrm ▸ UdfDb.bound_of_lookup hr⟩
  rw [hempty] at hmem
  exact Finset.notMem_empty u hmem

end Groups

/-! ## A removal goes through -/

section Through

variable {sdk : UdfSdk} {db : UdfDb ch} {g : Oid} {grp : UdfGroup}

theorem UdfInv.bound_of_used (h : UdfInv db) (hg : db.groups.lookup g = some grp) {u : Oid}
    (hu : u ∈ grp.used) : ∃ m, db.bound u = some (g, m) := by
  obtain ⟨hne, i, rfl⟩ := UdfGroup.mem_used.mp hu
  exact h.slot (UdfDb.slots_of_lookup hg) hne

theorem UdfInv.known (h : UdfInv db) (hg : db.groups.lookup g = some grp) : db.Known grp.used := by
  intro u hu
  obtain ⟨m, hm⟩ := h.bound_of_used hg hu
  obtain ⟨r, hr, -, hrm⟩ := UdfDb.lookup_of_bound hm
  obtain ⟨rec, hrec, -⟩ := Option.map_eq_some_iff.mp
    (Option.isSome_iff_exists.mp (h.live hm)).choose_spec
  exact ⟨r, rec, hr, hrm ▸ hrec⟩

/-- What is collected of a group has one group, one match and one priority. -/
theorem UdfInv.collected (h : UdfInv db) (hg : db.groups.lookup g = some grp)
    {L : List (Oid × Udf × UdfMatch)}
    (hL : ∀ p ∈ L, p.1 ∈ grp.used ∧ db.udfs.lookup p.1 = some p.2.1 ∧
      db.udfMatches.lookup p.2.1.matchId = some p.2.2) :
    (∀ p ∈ L, p.2.1.groupId = g) ∧ ∃ prio, (∀ p ∈ L, p.2.2.priority = prio) ∧
      (L = [] → prio = 0) := by
  have hbound : ∀ p ∈ L, p.2.1.groupId = g ∧ db.bound p.1 = some (g, p.2.1.matchId) := by
    intro p hp
    obtain ⟨hu, hr, -⟩ := hL p hp
    obtain ⟨m, hm⟩ := h.bound_of_used hg hu
    have hb := UdfDb.bound_of_lookup hr
    rw [hm] at hb
    cases hb
    exact ⟨rfl, hm⟩
  refine ⟨fun p hp => (hbound p hp).1, ?_⟩
  match L, hL, hbound with
  | [], _, _ => exact ⟨0, fun p hp => absurd hp List.not_mem_nil, fun _ => rfl⟩
  | q :: L, hL, hbound =>
    refine ⟨q.2.2.priority, fun p hp => ?_, fun h0 => absurd h0 (List.cons_ne_nil q L)⟩
    have hpb := (hbound p hp).2
    have hqb := (hbound q List.mem_cons_self).2
    have hpm := (hL p hp).2.2
    rw [(h.same hpb hqb).2, (hL q List.mem_cons_self).2.2] at hpm
    rw [Option.some.inj hpm]

theorem UdfInv.removeEntry_ok (h : UdfInv db) (hsdk : sdk.Succeeds)
    (hg : db.groups.lookup g = some grp) {grp' : UdfGroup} (hsub : ∀ u ∈ grp'.used, u ∈ grp.used) :
    ∃ db₂, udfRemoveEntry sdk ({ db with groups := db.groups.insert g grp' } : UdfDb ch) g g grp' =
      some (.success, db₂) := by
  have hknown : ({ db with groups := db.groups.insert g grp' } : UdfDb ch).Known grp'.used :=
    fun u hu => h.known hg u (hsub u hu)
  obtain ⟨L, hL⟩ := hknown.collects
  have hmem : ∀ p ∈ L, p.1 ∈ grp'.used := by
    intro p hp
    rw [← hL.ids]
    exact List.mem_map_of_mem hp
  obtain ⟨hgid, prio, hprio, hzero⟩ := h.collected hg fun p hp =>
    ⟨hsub _ (hmem p hp), hL.recs p hp⟩
  unfold udfRemoveEntry
  split
  · obtain ⟨hw, he, -⟩ := udfUpdateCtcUdfEntry_ok hsdk hL fun p hp => congrArg Oid.value (hgid p hp)
    exact ⟨_, he⟩
  · obtain ⟨hw, he, -⟩ := udfUpdateGoldengateCtcUdfEntry_ok hsdk hL hprio hzero
    exact ⟨_, he⟩
  · exact ⟨_, rfl⟩
  · exact ⟨_, rfl⟩

theorem UdfInv.removeUdf_ok (h : UdfInv db) (hsdk : sdk.Succeeds) {u : Oid}
    (huniq : UdfUnique db u) : ∃ r, removeUdf sdk db u = some r ∧
      (r.1 = .success ↔ (db.udfs.lookup u).isSome) ∧
      ∀ v, r.2.udfs.lookup v = if v = u then none else db.udfs.lookup v := by
  cases hu : db.udfs.lookup u with
  | none =>
    refine ⟨(.itemNotFound, db), by unfold removeUdf; rw [hu], by simp, fun v => ?_⟩
    split
    · rename_i hv
      rw [hv]
      exact hu
    · rfl
  | some t =>
    have hub := UdfDb.bound_of_lookup hu
    obtain ⟨s, i', hs, -⟩ := h.mem hub
    obtain ⟨grp, hg, -⟩ := UdfDb.lookup_of_slots hs
    obtain ⟨last, i, hi, hlg, hlm, hclear⟩ := h.clearSlots hu huniq hg
    obtain ⟨db₂, h₂⟩ := h.removeEntry_ok hsdk hg fun v => @UdfGroup.mem_used_of_clear grp i v
    have hp := udfRemoveEntry_programmed (by exact AList.lookup_insert db.groups) h₂
    obtain ⟨m, hm⟩ := Option.isSome_iff_exists.mp (h.live hub)
    obtain ⟨rec, hrec, -⟩ := Option.map_eq_some_iff.mp hm
    have hrec₂ : db₂.udfMatches.lookup last.matchId = some rec := by
      rw [hlm, show db₂.udfMatches = db.udfMatches from hp.udfMatches]
      exact hrec
    have hr : removeUdf sdk db u = some (.success, { db₂ with
        udfMatches := db₂.udfMatches.insert last.matchId { rec with udfRefCnt := rec.udfRefCnt - 1 }
        udfs := db₂.udfs.erase u
        pool := db₂.pool.free u.value.toNat }) := by
      unfold removeUdf
      rw [hu]
      dsimp only
      rw [h.judgedUsed hg, hg]
      dsimp only
      rw [hclear]
      dsimp only
      rw [hlg, h₂]
      dsimp only
      rw [hrec₂]
    refine ⟨_, hr, by simp, fun v => ?_⟩
    rw [show db₂.udfs = db.udfs from hp.udfs, lookup_erase_ite]

end Through

/-! ## The system -/

inductive UdfOp where
  | createGroup (sdk : UdfSdk) (attrs : List UdfGroupAttr)
  | removeGroup (g : Oid)
  | createMatch (sdk : UdfSdk) (attrs : List UdfMatchAttr)
  | removeMatch (m : Oid)
  | createUdf (sdk : UdfSdk) (attrs : List UdfAttr)
  | removeUdf (sdk : UdfSdk) (u : Oid)

def udfStep (db : UdfDb ch) : UdfOp → Option (UdfDb ch)
  | .createGroup sdk attrs => some (createUdfGroup sdk db attrs).2.2
  | .removeGroup g => some (removeUdfGroup db g).2
  | .createMatch sdk attrs => some (createUdfMatch sdk db attrs).2.2
  | .removeMatch m => some (removeUdfMatch db m).2
  | .createUdf sdk attrs => (createUdf sdk db attrs).map fun r => r.2.2
  | .removeUdf sdk u => (removeUdf sdk db u).map Prod.snd

/-- No group, no match and no UDF. -/
structure UdfStart (db : UdfDb ch) : Prop where
  groups : db.groups = ∅
  udfMatches : db.udfMatches = ∅
  udfs : db.udfs = ∅
  cnt : db.udfGroupCnt = 0
  ecmp : db.ecmpUdfGroups = []
  lag : db.lagUdfGroups = []
  entries : ∀ n, db.hw.entries n = none
  parser : ∀ p, db.hw.parser p = none

/-- The condition on a call: there is room for a group, and a UDF that is
removed is alone at its offset. -/
def UdfMembersSafe (db : UdfDb ch) : UdfOp → Prop
  | .createGroup _ _ => db.udfGroupCnt.toNat ≠ udfGroupMaxNum ch.chipType
  | .removeUdf _ u => UdfUnique db u
  | _ => True

/-- The slots of each group are its UDFs, each match counts its own, the groups
are counted, and what is in use is what cannot be removed. -/
structure UdfMembersOk (db : UdfDb ch) : Prop where
  slots : ∀ g grp, db.groups.lookup g = some grp →
    (∀ u, u ≠ Oid.null →
      ((∃ i, grp.udfId i = u) ↔ ∃ r, db.udfs.lookup u = some r ∧ r.groupId = g)) ∧
    ∀ i j, grp.udfId i = grp.udfId j → grp.udfId i ≠ Oid.null → i = j
  udfs : ∀ u r, db.udfs.lookup u = some r → u ≠ Oid.null ∧ (db.groups.lookup r.groupId).isSome ∧
    (db.udfMatches.lookup r.matchId).isSome
  same : ∀ u v r t, db.udfs.lookup u = some r → db.udfs.lookup v = some t →
    r.groupId = t.groupId → u.subType = v.subType ∧ r.matchId = t.matchId
  refs : ∀ m rec, db.udfMatches.lookup m = some rec →
    rec.udfRefCnt.toNat = (db.udfs.keys.toFinset.filter fun u =>
      (db.udfs.lookup u).any fun r => r.matchId = m).card
  count : db.udfGroupCnt.toNat = db.groups.keys.length ∧
    db.groups.keys.length ≤ udfGroupMaxNum ch.chipType
  removeUdf : ∀ sdk u, UdfSdk.Succeeds sdk → UdfUnique db u → ∃ r, removeUdf sdk db u = some r ∧
    (r.1 = .success ↔ (db.udfs.lookup u).isSome) ∧
    ∀ v, r.2.udfs.lookup v = if v = u then none else db.udfs.lookup v
  removeGroup : ∀ g, (removeUdfGroup db g).1 = .success ↔
    (db.groups.lookup g).isSome ∧ ∀ u r, db.udfs.lookup u = some r → r.groupId ≠ g
  removeMatch : ∀ m, (removeUdfMatch db m).1 = .success ↔
    (db.udfMatches.lookup m).isSome ∧ ∀ u r, db.udfs.lookup u = some r → r.matchId ≠ m

section System

variable {db db' : UdfDb ch}

theorem UdfStart.inv (h : UdfStart db) : UdfInv db := by
  have hslots : ∀ g, db.slots g = none := by
    intro g
    unfold UdfDb.slots
    rw [h.groups]
    rfl
  have hacl : ∀ g, db.acl g = none := by
    intro g
    unfold UdfDb.acl
    rw [h.groups]
    rfl
  have hbound : ∀ u, db.bound u = none := by
    intro u
    unfold UdfDb.bound
    rw [h.udfs]
    rfl
  have hrefs : ∀ m, db.refs m = none := by
    intro m
    unfold UdfDb.refs
    rw [h.udfMatches]
    rfl
  have hgroups : db.groupSet = ∅ := by
    unfold UdfDb.groupSet
    rw [h.groups]
    rfl
  constructor
  case slot => intro g s j hs; rw [hslots] at hs; cases hs
  case mem => intro u g m hu; rw [hbound] at hu; cases hu
  case once => intro g s i j hs; rw [hslots] at hs; cases hs
  case same => intro u v g m n hu; rw [hbound] at hu; cases hu
  case ne => intro u p hu; rw [hbound] at hu; cases hu
  case live => intro u g m hu; rw [hbound] at hu; cases hu
  case refs => intro m c hc; rw [hrefs] at hc; cases hc
  case cnt => rw [hgroups, h.cnt]; rfl
  case few => rw [hgroups]; exact Nat.zero_le _
  case acl => intro g c hc; rw [hacl] at hc; cases hc
  case ecmp => exact h.ecmp
  case lag => exact h.lag

theorem UdfInv.step (h : UdfInv db) {op : UdfOp}
    (huniq : ∀ sdk u, op = .removeUdf sdk u → UdfUnique db u) (hstep : udfStep db op = some db') :
    UdfInv db' := by
  cases op with
  | createGroup sdk attrs => cases hstep; exact h.createGroup attrs
  | removeGroup g => cases hstep; exact h.removeGroup g
  | createMatch sdk attrs => cases hstep; exact h.createMatch attrs
  | removeMatch m => cases hstep; exact h.removeMatch m
  | createUdf sdk attrs =>
    obtain ⟨r, hr, rfl⟩ := Option.map_eq_some_iff.mp hstep
    rcases createUdf_cases (fun g s j hs hj => by
      obtain ⟨m, hm⟩ := h.slot hs hj
      rw [hm]
      rfl) hr with ⟨-, hsame⟩ | ⟨u, g, m, s, i, -, hne, hu, hp, hc⟩
    · exact h.congr hsame
    · exact h.join hu hne hp hc
  | removeUdf sdk u =>
    obtain ⟨r, hr, rfl⟩ := Option.map_eq_some_iff.mp hstep
    rcases h.removeUdf_cases (huniq sdk u rfl) hr with ⟨-, hsame, -⟩ | ⟨-, -, g, m, s, i, hu, hl⟩
    · exact h.congr hsame
    · exact h.leave hu hl

theorem UdfInv.cnt_step (h : UdfInv db) {op : UdfOp} (hsafe : UdfMembersSafe db op)
    (hmax : db.udfGroupCnt.toNat ≤ udfGroupMaxNum ch.chipType)
    (hstep : udfStep db op = some db') :
    db'.udfGroupCnt.toNat ≤ udfGroupMaxNum ch.chipType := by
  cases op with
  | createGroup sdk attrs =>
    cases hstep
    have hne : db.udfGroupCnt.toNat ≠ udfGroupMaxNum ch.chipType := hsafe
    unfold createUdfGroup
    repeat' first | exact hmax | split | dsimp only
    rw [BitVec.toNat_add]
    simp only [BitVec.ofNat_eq_ofNat, BitVec.toNat_ofNat]
    omega
  | removeGroup g =>
    cases hstep
    unfold removeUdfGroup
    split
    · exact hmax
    rename_i grp hg
    split
    · split
      · exact hmax
      · have hpos : 0 < db.groupSet.card :=
          Finset.card_pos.mpr ⟨g, UdfDb.mem_groupSet.mpr (by
            rw [UdfDb.slots_of_lookup hg]
            rfl)⟩
        have hcnt := h.cnt
        bv_omega
    · exact hmax
  | createMatch sdk attrs =>
    cases hstep
    unfold createUdfMatch
    repeat' first | exact hmax | split | dsimp only
  | removeMatch m =>
    cases hstep
    unfold removeUdfMatch
    repeat' first | exact hmax | split
  | createUdf sdk attrs =>
    obtain ⟨r, hr, rfl⟩ := Option.map_eq_some_iff.mp hstep
    rcases createUdf_cases (fun g s j hs hj => by
      obtain ⟨m, hm⟩ := h.slot hs hj
      rw [hm]
      rfl) hr with ⟨-, hsame⟩ | ⟨u, g, m, s, i, -, hne, hu, hp, hc⟩
    · rw [hsame.cnt]; exact hmax
    · rw [hp.cnt]; exact hmax
  | removeUdf sdk u =>
    obtain ⟨r, hr, rfl⟩ := Option.map_eq_some_iff.mp hstep
    rcases h.removeUdf_cases hsafe hr with ⟨-, hsame, -⟩ | ⟨-, -, g, m, s, i, hu, hl⟩
    · rw [hsame.cnt]; exact hmax
    · rw [hl.cnt]; exact hmax

theorem UdfInv.ok (h : UdfInv db) (hmax : db.udfGroupCnt.toNat ≤ udfGroupMaxNum ch.chipType) :
    UdfMembersOk db := by
  have hcard : db.groupSet.card = db.groups.keys.length :=
    List.toFinset_card_of_nodup db.groups.keys_nodup
  constructor
  case slots =>
    intro g grp hg
    have hs := UdfDb.slots_of_lookup hg
    refine ⟨fun u hu => ⟨?_, ?_⟩, fun i j => h.once hs⟩
    · rintro ⟨i, rfl⟩
      obtain ⟨m, hm⟩ := h.slot hs hu
      obtain ⟨r, hr, hrg, -⟩ := UdfDb.lookup_of_bound hm
      exact ⟨r, hr, hrg⟩
    · rintro ⟨r, hr, rfl⟩
      obtain ⟨s, i, hs', hi⟩ := h.mem (UdfDb.bound_of_lookup hr)
      rw [hs] at hs'
      cases hs'
      exact ⟨i, hi⟩
  case udfs =>
    intro u r hr
    have hb := UdfDb.bound_of_lookup hr
    obtain ⟨s, i, hs, -⟩ := h.mem hb
    obtain ⟨grp, hg, -⟩ := UdfDb.lookup_of_slots hs
    obtain ⟨c, hc⟩ := Option.isSome_iff_exists.mp (h.live hb)
    obtain ⟨rec, hrec, -⟩ := Option.map_eq_some_iff.mp hc
    exact ⟨h.ne hb, by rw [hg]; rfl, by rw [hrec]; rfl⟩
  case same =>
    intro u v r t hr ht he
    have hv := UdfDb.bound_of_lookup ht
    rw [← he] at hv
    exact h.same (UdfDb.bound_of_lookup hr) hv
  case refs =>
    intro m rec hrec
    rw [h.refs (UdfDb.refs_of_lookup hrec)]
    refine congrArg Finset.card (Finset.filter_congr fun u _ => ?_)
    unfold UdfDb.bound
    cases db.udfs.lookup u <;> simp
  case count =>
    rw [← hcard, ← h.cnt]
    exact ⟨rfl, hmax⟩
  case removeUdf => exact fun sdk u hsdk huniq => h.removeUdf_ok hsdk huniq
  case removeGroup => exact h.removeGroup_iff
  case removeMatch => exact h.removeMatch_iff

/-- In a run that makes no group past the last one and removes only UDFs that
are alone at their offset, each group's slots are its UDFs. -/
theorem udfMembers_of_run (h : Reachable UdfStart UdfMembersSafe udfStep db) : UdfMembersOk db := by
  have hinv : UdfInv db ∧ db.udfGroupCnt.toNat ≤ udfGroupMaxNum ch.chipType := by
    refine h.inv (I := fun db => UdfInv db ∧
      db.udfGroupCnt.toNat ≤ udfGroupMaxNum ch.chipType) (fun s hs => ⟨hs.inv, ?_⟩)
      fun s op s' hs hsafe hstep => ⟨?_, ?_⟩
    · rw [hs.cnt]
      exact Nat.zero_le _
    · exact hs.1.step (fun sdk u he => by subst he; exact hsafe) hstep
    · exact hs.1.cnt_step hsafe hs.2 hstep
  exact hinv.1.ok hinv.2

end System

/-! ## Two runs -/

/-- A Duet2 chip with eight object numbers. -/
def UdfChip.plain : UdfChip := ⟨0, .duet2, .firstFit 1 8, Chip.small.counter_top⟩

/-- The SDK and the memory that give all they are asked for. -/
def UdfSdk.ok : UdfSdk := ⟨fun _ => .none, true, true⟩

def UdfDb.blank (ch : UdfChip) : UdfDb ch :=
  ⟨∅, ∅, ∅, .empty _, 0, [], [], ⟨fun _ => none, fun _ => none⟩⟩

theorem UdfDb.blank_start (ch : UdfChip) : UdfStart (UdfDb.blank ch) :=
  ⟨rfl, rfl, rfl, rfl, rfl, rfl, fun _ => rfl, fun _ => rfl⟩

/-- The first group, the first match, and a UDF of both at an offset. -/
def udfAt (offset : BitVec 16) : List UdfAttr :=
  [.groupId (udfGroupOid 0 .generic 1), .matchId (udfMatchOid 0 2), .offset offset]

theorem udfUnique_of_entries {db : UdfDb ch} {u : Oid}
    (h : db.udfs.entries.all fun e => e.1 = u || (db.udfs.lookup u).all fun r =>
      !(e.2.groupId = r.groupId && e.2.offset = r.offset)) : UdfUnique db u := by
  intro r hr v t ht hg hoff
  have he := List.all_eq_true.mp h _ (mem_entries_iff.mpr ht)
  simpa [hr, hg, hoff] using he

/-- A group, a match and two UDFs at different offsets; the first UDF goes. -/
theorem udfMembers_of_run_two : ∃ db : UdfDb .plain, UdfMembersOk db ∧
    (db.udfs.lookup (udfOid 0 .l2 3)).isNone ∧ (db.udfs.lookup (udfOid 0 .l2 4)).isSome := by
  have r₀ : Reachable UdfStart UdfMembersSafe udfStep (UdfDb.blank .plain) :=
    .start (UdfDb.blank_start _)
  have r₁ := r₀.next (.createGroup .ok []) (by exact (by decide : (0 : Nat) ≠ 16)) rfl
  have r₂ := r₁.next (.createMatch .ok []) (by trivial) rfl
  have r₃ := r₂.next (.createUdf .ok (udfAt 0)) (by trivial) rfl
  have r₄ := r₃.next (.createUdf .ok (udfAt 4)) (by trivial) rfl
  have r₅ := r₄.next (.removeUdf .ok (udfOid 0 .l2 3))
    (by exact udfUnique_of_entries (by decide)) rfl
  exact ⟨_, udfMembers_of_run r₅, by decide, by decide⟩

/-- Two UDFs at one offset: removing the first takes the second out of its slot. -/
theorem udfMembers_not_every_run : ¬ ∀ (ch : UdfChip) (db : UdfDb ch),
    Reachable UdfStart anyStep udfStep db → UdfMembersOk db := by
  intro h
  have r₀ : Reachable UdfStart anyStep udfStep (UdfDb.blank .plain) :=
    .start (UdfDb.blank_start _)
  have r₁ := r₀.next (.createGroup .ok []) trivial rfl
  have r₂ := r₁.next (.createMatch .ok []) trivial rfl
  have r₃ := r₂.next (.createUdf .ok (udfAt 0)) trivial rfl
  have r₄ := r₃.next (.createUdf .ok (udfAt 0)) trivial rfl
  have r₅ := r₄.next (.removeUdf .ok (udfOid 0 .l2 3)) trivial rfl
  have hok := (h _ _ r₅).slots (udfGroupOid 0 .generic 1) _ rfl
  obtain ⟨i, hi⟩ := (hok.1 (udfOid 0 .l2 4) (by decide)).mpr ⟨_, rfl, rfl⟩
  revert i
  decide

end CtcSai
