/-
# `AclRelations` — what the ACL objects know of each other

Each relation is stored on both sides: an entry names its table and stands in the
table's list, a member names a group and a table and stands in a list of each, ranges
and counters count the entries that name them.  `StoreInv` says that the two sides
agree; it is stated by counts, so that adding a node and deleting the first that fits
are plus one and minus one.
-/
import CtcSai.AclEntries
import CtcSai.Lib.RefCount

namespace CtcSai

open KeyedTable IdPool RefCounts Table

variable {ac : AclChip}

/-! ## The objects -/

/-- The objects of the API, and the numbers of the entries. -/
structure AclStore (ac : AclChip) where
  groups : Table Oid AclGroup
  tables : Table Oid AclTable
  members : Table Oid AclTableGroupMember
  entries : Table Oid AclEntry
  ranges : Table Oid AclRange
  counters : Table Oid AclCounter
  entryIndices : Pool ac.entryIndices

def AclDb.store (db : AclDb ac) : AclStore ac where
  groups := db.groups
  tables := db.tables
  members := db.members
  entries := db.entries
  ranges := db.ranges
  counters := db.counters
  entryIndices := db.entryIndices

namespace AclStore

variable (v : AclStore ac)

/-- The live members that join a table to a group. -/
def memberCount (G T : Oid) : Nat :=
  v.members.count fun _ m => decide (m.groupId = G ∧ m.tableId = T)

def entryNum (T : Oid) : Nat := v.entries.count fun _ e => decide (e.tableId = T)

/-- The live entries that name a range. -/
def rangeUsers (R : Oid) : Nat := v.entries.count fun _ e => decide (R ∈ e.ranges)

/-- The live entries that name a counter. -/
def counterUsers (C : Oid) : Nat := v.entries.count fun _ e => decide (e.counter = some C)

def tableOf (E : Oid) : Option Oid := (v.entries.lookup E).map (·.tableId)

end AclStore

/-- The lists of tables and groups agree with what entries and members name. -/
structure ListInv (v : AclStore ac) : Prop where
  entryList : ∀ T t, v.tables.lookup T = some t → ∀ E,
    (t.entryList.map (·.entryId)).count E = if v.tableOf E = some T then 1 else 0
  entryCount : ∀ T t, v.tables.lookup T = some t → t.createdEntryCount.toNat = v.entryNum T
  entryLength : ∀ T t, v.tables.lookup T = some t →
    t.entryList.length = t.createdEntryCount.toNat ∧ t.createdEntryCount ≤ t.tableSize
  memberList : ∀ G g, v.groups.lookup G = some g → ∀ T,
    (g.memberList.map (·.tableId)).count T = v.memberCount G T
  groupList : ∀ T t, v.tables.lookup T = some t → ∀ G, t.groupList.count G = v.memberCount G T
  memberNodup : ∀ G g, v.groups.lookup G = some g → (g.memberList.map (·.tableId)).Nodup
  liveTable : ∀ E e, v.entries.lookup E = some e → (v.tables.lookup e.tableId).isSome
  liveMember : ∀ M m, v.members.lookup M = some m → ∃ g t,
    v.groups.lookup m.groupId = some g ∧ v.tables.lookup m.tableId = some t ∧
      checkMasterKeyField t.tableKeyBmp g.groupStage g.bindPointList = .success
  ids : ∀ E e, v.entries.lookup E = some e →
    E = aclEntryOid ac E.value.toNat ∧ E.value.toNat ∈ v.entryIndices.used
  tableIds : ∀ T t, v.tables.lookup T = some t →
    T = aclTableOid ac T.value.toNat ∧ T.value.toNat < 2 ^ 28
  groupIds : ∀ G g, v.groups.lookup G = some g → G.type = ObjectType.aclTableGroup.bits

/-- Both sides of every relation agree. -/
structure StoreInv (v : AclStore ac) : Prop extends ListInv v where
  rangeRefs : kept (fun r => r.refCnt.toNat) v.ranges = v.rangeUsers
  counterRefs : kept (fun c => c.refCnt.toNat) v.counters = v.counterUsers
  nodup : ∀ E e, v.entries.lookup E = some e → e.ranges.Nodup

/-- Nothing is bound. -/
structure NoPoints (v : AclStore ac) : Prop where
  tables : ∀ T t, v.tables.lookup T = some t → t.bindPoints = []
  groups : ∀ G g, v.groups.lookup G = some g → g.bindPoints = []

namespace ListInv

variable {v : AclStore ac}

theorem withRefs (h : ListInv v) (ranges : Table Oid AclRange) (counters : Table Oid AclCounter) :
    ListInv { v with ranges := ranges, counters := counters } :=
  ⟨h.entryList, h.entryCount, h.entryLength, h.memberList, h.groupList, h.memberNodup,
    h.liveTable, h.liveMember, h.ids, h.tableIds, h.groupIds⟩

/-! ## What is not there is not named -/

section Named

variable (h : ListInv v)
variable {T : Oid}

include h

theorem tableOf_ne (hT : v.tables.lookup T = none) (E : Oid) : v.tableOf E ≠ some T := by
  intro he
  obtain ⟨e, hl, rfl⟩ := Option.map_eq_some_iff.mp he
  have hlive := h.liveTable E e hl
  rw [hT] at hlive
  cases hlive

omit h in
theorem entryNum_eq_zero (hT : ∀ E, v.tableOf E ≠ some T) : v.entryNum T = 0 := by
  refine Nat.eq_zero_of_not_pos fun hpos => ?_
  obtain ⟨E, e, hl, he⟩ := exists_of_count_pos hpos
  refine hT E ?_
  rw [AclStore.tableOf, hl]
  exact congrArg some (of_decide_eq_true he)

omit h in
theorem memberCount_pos {M : Oid} {m : AclTableGroupMember} (hM : v.members.lookup M = some m) :
    0 < v.memberCount m.groupId m.tableId :=
  count_pos hM (decide_eq_true ⟨rfl, rfl⟩)

omit h in
theorem exists_of_memberCount_pos {G : Oid} (hpos : 0 < v.memberCount G T) :
    ∃ M m, v.members.lookup M = some m ∧ m.groupId = G ∧ m.tableId = T := by
  obtain ⟨M, m, hl, hm⟩ := exists_of_count_pos hpos
  exact ⟨M, m, hl, of_decide_eq_true hm⟩

theorem memberCount_of_noTable (hT : v.tables.lookup T = none) (G : Oid) :
    v.memberCount G T = 0 := by
  refine Nat.eq_zero_of_not_pos fun hpos => ?_
  obtain ⟨M, m, hl, -, rfl⟩ := exists_of_memberCount_pos hpos
  obtain ⟨g, t, -, ht, -⟩ := h.liveMember M m hl
  rw [hT] at ht
  cases ht

theorem memberCount_of_noGroup {G : Oid} (hG : v.groups.lookup G = none) (T : Oid) :
    v.memberCount G T = 0 := by
  refine Nat.eq_zero_of_not_pos fun hpos => ?_
  obtain ⟨M, m, hl, rfl, -⟩ := exists_of_memberCount_pos hpos
  obtain ⟨g, t, hg, -, -⟩ := h.liveMember M m hl
  rw [hG] at hg
  cases hg

theorem count_le (p : Oid → AclEntry → Bool) : v.entries.count p ≤ 64 * 1024 := by
  have hcard : v.entries.count p ≤ v.entryIndices.used.card := by
    refine count_le_card (fun E _ => E.value.toNat) (fun E e hE _ => (h.ids E e hE).2) ?_
    intro E E' e e' hE hE' _ _ heq
    rw [(h.ids E e hE).1, (h.ids E' e' hE').1]
    exact congrArg _ heq
  calc v.entries.count p
      _ ≤ v.entryIndices.used.card := hcard
      _ ≤ ac.entryIndices.size := v.entryIndices.card_used_le
      _ = 64 * 1024 := ac.entryIndices_range.2

end Named

/-! ## Tables and groups come and go -/

section Tables

variable (h : ListInv v)
variable {G : Oid}

include h

theorem addTable {i : Nat} {t : AclTable} (hi : i < 2 ^ 28)
    (hT : v.tables.lookup (aclTableOid ac i) = none) (he : t.entryList = [])
    (hg : t.groupList = []) (hc : t.createdEntryCount = 0) :
    ListInv { v with tables := v.tables.insert (aclTableOid ac i) t } := by
  generalize hid : aclTableOid ac i = T at hT ⊢
  have hnot : ∀ E, v.tableOf E ≠ some T := h.tableOf_ne hT
  refine ⟨?_, ?_, ?_, h.memberList, ?_, h.memberNodup,
    fun E e hE => isSome_insert (h.liveTable E e hE) _ _, ?_, h.ids, ?_, h.groupIds⟩
  · refine forall_insert (fun E => ?_) h.entryList
    rw [he]
    exact (if_neg (hnot E)).symm
  · refine forall_insert ?_ h.entryCount
    rw [hc]
    exact (entryNum_eq_zero hnot).symm
  · refine forall_insert ?_ h.entryLength
    rw [he, hc]
    exact ⟨rfl, BitVec.le_def.mpr (Nat.zero_le _)⟩
  · refine forall_insert (fun G => ?_) h.groupList
    rw [hg]
    exact (h.memberCount_of_noTable hT G).symm
  · intro M m hM
    obtain ⟨g, t', hgl, htl, hcheck⟩ := h.liveMember M m hM
    refine ⟨g, t', hgl, ?_, hcheck⟩
    have hne : m.tableId ≠ T := by
      intro heq
      rw [heq, hT] at htl
      cases htl
    exact (lookup_insert_ite ..).trans ((if_neg hne).trans htl)
  · refine forall_insert ?_ h.tableIds
    have hvalue : T.value.toNat = i := by
      rw [← hid]
      show (BitVec.ofNat 32 i).toNat = i
      rw [BitVec.toNat_ofNat, Nat.mod_eq_of_lt (by omega)]
    rw [hvalue]
    exact ⟨hid.symm, hi⟩

/-- A table with an empty entry list has no entry, and one with an empty group list no
member. -/
theorem unused_table {T : Oid} {t : AclTable} (hT : v.tables.lookup T = some t)
    (he : t.entryList = []) (hg : t.groupList = []) :
    (∀ E, v.tableOf E ≠ some T) ∧ ∀ M m, v.members.lookup M = some m → m.tableId ≠ T := by
  constructor
  · intro E htab
    have hcount := h.entryList T t hT E
    rw [he, if_pos htab] at hcount
    cases hcount
  · rintro M m hM rfl
    have hcount := h.groupList m.tableId t hT m.groupId
    have hpos := memberCount_pos hM
    rw [hg, List.count_nil] at hcount
    omega

theorem eraseTable {T : Oid} (hentries : ∀ E, v.tableOf E ≠ some T)
    (hmembers : ∀ M m, v.members.lookup M = some m → m.tableId ≠ T) :
    ListInv { v with tables := v.tables.erase T } := by
  have hstay : ∀ {T'}, T' ≠ T → (v.tables.erase T).lookup T' = v.tables.lookup T' := by
    intro T' hne
    rw [lookup_erase_ite, if_neg hne]
  refine ⟨forall_erase h.entryList, forall_erase h.entryCount, forall_erase h.entryLength,
    h.memberList, forall_erase h.groupList, h.memberNodup, ?_, ?_, h.ids, forall_erase h.tableIds,
    h.groupIds⟩
  · intro E e hE
    have hne : e.tableId ≠ T := by
      intro heq
      refine hentries E ?_
      rw [AclStore.tableOf, hE]
      exact congrArg some heq
    rw [hstay hne]
    exact h.liveTable E e hE
  · intro M m hM
    obtain ⟨g, t, hgl, htl, hcheck⟩ := h.liveMember M m hM
    exact ⟨g, t, hgl, (hstay (hmembers M m hM)).trans htl, hcheck⟩

theorem addGroup {g : AclGroup} (hG : v.groups.lookup G = none)
    (htype : G.type = ObjectType.aclTableGroup.bits) (hm : g.memberList = []) :
    ListInv { v with groups := v.groups.insert G g } := by
  refine ⟨h.entryList, h.entryCount, h.entryLength, ?_, h.groupList, ?_, h.liveTable, ?_, h.ids,
    h.tableIds, ?_⟩
  · refine forall_insert (fun T => ?_) h.memberList
    rw [hm]
    exact (h.memberCount_of_noGroup hG T).symm
  · refine forall_insert ?_ h.memberNodup
    rw [hm]
    exact List.nodup_nil
  · intro M m hM
    obtain ⟨g', t, hgl, htl, hcheck⟩ := h.liveMember M m hM
    have hne : m.groupId ≠ G := by
      intro heq
      rw [heq, hG] at hgl
      cases hgl
    exact ⟨g', t, (lookup_insert_ite ..).trans ((if_neg hne).trans hgl), htl, hcheck⟩
  · exact forall_insert htype h.groupIds

theorem unused_group {g : AclGroup} (hG : v.groups.lookup G = some g) (hm : g.memberList = []) :
    ∀ M m, v.members.lookup M = some m → m.groupId ≠ G := by
  rintro M m hM rfl
  have hcount := h.memberList m.groupId g hG m.tableId
  have hpos := memberCount_pos hM
  rw [hm, List.map_nil, List.count_nil] at hcount
  omega

theorem eraseGroup (hmembers : ∀ M m, v.members.lookup M = some m → m.groupId ≠ G) :
    ListInv { v with groups := v.groups.erase G } := by
  refine ⟨h.entryList, h.entryCount, h.entryLength, forall_erase h.memberList, h.groupList,
    forall_erase h.memberNodup, h.liveTable, ?_, h.ids, h.tableIds, forall_erase h.groupIds⟩
  intro M m hM
  obtain ⟨g, t, hgl, htl, hcheck⟩ := h.liveMember M m hM
  refine ⟨g, t, ?_, htl, hcheck⟩
  exact (lookup_erase_ite ..).trans ((if_neg (hmembers M m hM)).trans hgl)

end Tables

/-! ## Members come and go -/

section Members

variable (h : ListInv v)
variable {G M : Oid} {g g' : AclGroup} {t : AclTable} {m : AclTableGroupMember}

include h

/-- A group and a table are written with other lists of members, and the members with
them. -/
theorem relink {T : Oid} {t' : AclTable} {members : Table Oid AclTableGroupMember}
    (hG : v.groups.lookup G = some g) (hT : v.tables.lookup T = some t)
    (hg : g'.groupStage = g.groupStage ∧ g'.bindPointList = g.bindPointList)
    (ht : t' = { t with groupList := t'.groupList }) (hnd : (g'.memberList.map (·.tableId)).Nodup)
    (hlist : ∀ T', (g'.memberList.map (·.tableId)).count T' =
      ({ v with members := members } : AclStore ac).memberCount G T')
    (hglist : ∀ G', t'.groupList.count G' =
      ({ v with members := members } : AclStore ac).memberCount G' T)
    (hother : ∀ G' T', ¬ (G' = G ∧ T' = T) →
      ({ v with members := members } : AclStore ac).memberCount G' T' = v.memberCount G' T')
    (hmembers : ∀ M m, members.lookup M = some m → v.members.lookup M = some m ∨
      m.groupId = G ∧ m.tableId = T ∧
        checkMasterKeyField t.tableKeyBmp g.groupStage g.bindPointList = .success) :
    ListInv { v with
      groups := v.groups.insert G g'
      tables := v.tables.insert T t'
      members := members } := by
  have hgroupAt : ∀ {G' x}, v.groups.lookup G' = some x → ∃ x',
      (v.groups.insert G g').lookup G' = some x' ∧ x'.groupStage = x.groupStage ∧
        x'.bindPointList = x.bindPointList := by
    intro G' x hl
    rw [lookup_insert_ite]
    split
    · next heq =>
      rw [heq, hG] at hl
      cases hl
      exact ⟨g', rfl, hg.1, hg.2⟩
    · exact ⟨x, hl, rfl, rfl⟩
  have htableAt : ∀ {T' x}, v.tables.lookup T' = some x → ∃ x',
      (v.tables.insert T t').lookup T' = some x' ∧ x'.tableKeyBmp = x.tableKeyBmp := by
    intro T' x hl
    rw [lookup_insert_ite]
    split
    · next heq =>
      rw [heq, hT] at hl
      cases hl
      exact ⟨t', rfl, by rw [ht]⟩
    · exact ⟨x, hl, rfl⟩
  refine ⟨?_, ?_, ?_, ?_, ?_, ?_, ?_, ?_, h.ids, ?_, ?_⟩
  · refine forall_insert (fun E => ?_) h.entryList
    rw [ht]
    exact h.entryList T t hT E
  · refine forall_insert ?_ h.entryCount
    rw [ht]
    exact h.entryCount T t hT
  · refine forall_insert ?_ h.entryLength
    rw [ht]
    exact h.entryLength T t hT
  · intro G' x hl T'
    rcases of_lookup_insert hl with ⟨rfl, rfl⟩ | ⟨hne, hl⟩
    · exact hlist T'
    · exact (h.memberList G' x hl T').trans (hother G' T' fun he => hne he.1).symm
  · intro T' x hl G'
    rcases of_lookup_insert hl with ⟨rfl, rfl⟩ | ⟨hne, hl⟩
    · exact hglist G'
    · exact (h.groupList T' x hl G').trans (hother G' T' fun he => hne he.2).symm
  · exact forall_insert hnd h.memberNodup
  · exact fun E e hE => isSome_insert (h.liveTable E e hE) _ _
  · intro M m hM
    have hold : ∃ x y, v.groups.lookup m.groupId = some x ∧ v.tables.lookup m.tableId = some y ∧
        checkMasterKeyField y.tableKeyBmp x.groupStage x.bindPointList = .success := by
      rcases hmembers M m hM with hM | ⟨hmg, hmt, hcheck⟩
      · exact h.liveMember M m hM
      · exact ⟨g, t, hmg ▸ hG, hmt ▸ hT, hcheck⟩
    obtain ⟨x, y, hx, hy, hcheck⟩ := hold
    obtain ⟨x', hx', hstage, hbind⟩ := hgroupAt hx
    obtain ⟨y', hy', hbmp⟩ := htableAt hy
    exact ⟨x', y', hx', hy', by rw [hstage, hbind, hbmp]; exact hcheck⟩
  · exact forall_insert (h.tableIds T t hT) h.tableIds
  · exact forall_insert (h.groupIds G g hG) h.groupIds

theorem addMember {T : Oid} {prio : BitVec 16} (hG : v.groups.lookup G = some g)
    (hT : v.tables.lookup T = some t) (hM : v.members.lookup M = none)
    (hm : m.groupId = G ∧ m.tableId = T)
    (hg : g'.groupStage = g.groupStage ∧ g'.bindPointList = g.bindPointList)
    (hlist : g'.memberList = ⟨T, prio⟩ :: g.memberList) (hnew : ¬ ∃ n ∈ g.memberList, n.tableId = T)
    (hcheck : checkMasterKeyField t.tableKeyBmp g.groupStage g.bindPointList = .success) :
    ListInv { v with
      groups := v.groups.insert G g'
      tables := v.tables.insert T { t with groupList := G :: t.groupList }
      members := v.members.insert M m } := by
  have hcount : ∀ G' T', ({ v with members := v.members.insert M m } : AclStore ac).memberCount
      G' T' = v.memberCount G' T' + if G' = G ∧ T' = T then 1 else 0 := by
    intro G' T'
    have hnew := count_insert_new
      (p := fun _ (m : AclTableGroupMember) => decide (m.groupId = G' ∧ m.tableId = T')) (v := m) hM
    refine hnew.trans ?_
    rw [Table.unit, hm.1, hm.2]
    simp only [decide_eq_true_eq, AclStore.memberCount]
    congr 1
    exact if_congr ⟨fun he => ⟨he.1.symm, he.2.symm⟩, fun he => ⟨he.1.symm, he.2.symm⟩⟩ rfl rfl
  have hnd : (g'.memberList.map (·.tableId)).Nodup := by
    rw [hlist, List.map_cons, List.nodup_cons]
    exact ⟨fun hin => hnew (List.mem_map.mp hin), h.memberNodup G g hG⟩
  refine h.relink hG hT hg rfl hnd ?_ ?_ ?_ ?_
  · intro T'
    rw [hlist, List.map_cons, List.count_cons, h.memberList G g hG, hcount]
    simp [@eq_comm _ T']
  · intro G'
    rw [List.count_cons, h.groupList T t hT, hcount]
    simp [@eq_comm _ G']
  · intro G' T' hne
    rw [hcount, if_neg hne]
    rfl
  · intro M' m' hM'
    rcases of_lookup_insert hM' with ⟨-, rfl⟩ | ⟨-, hM'⟩
    · exact .inr ⟨hm.1, hm.2, hcheck⟩
    · exact .inl hM'

theorem eraseMember (hM : v.members.lookup M = some m) (hG : v.groups.lookup m.groupId = some g)
    (hT : v.tables.lookup m.tableId = some t)
    (hg : g'.groupStage = g.groupStage ∧ g'.bindPointList = g.bindPointList)
    (hlist : g'.memberList = g.memberList.eraseP (fun n => n.tableId = m.tableId)) :
    ListInv { v with
      groups := v.groups.insert m.groupId g'
      tables := v.tables.insert m.tableId { t with groupList := t.groupList.erase m.groupId }
      members := v.members.erase M } := by
  have hcount : ∀ G' T', v.memberCount G' T' =
      ({ v with members := v.members.erase M } : AclStore ac).memberCount G' T' +
        if G' = m.groupId ∧ T' = m.tableId then 1 else 0 := by
    intro G' T'
    have herase := count_erase
      (p := fun _ (m : AclTableGroupMember) => decide (m.groupId = G' ∧ m.tableId = T')) hM
    refine herase.trans ?_
    rw [Table.unit]
    simp only [decide_eq_true_eq, AclStore.memberCount]
    congr 1
    exact if_congr ⟨fun he => ⟨he.1.symm, he.2.symm⟩, fun he => ⟨he.1.symm, he.2.symm⟩⟩ rfl rfl
  have hmap : g'.memberList.map (·.tableId) = (g.memberList.map (·.tableId)).erase m.tableId := by
    rw [hlist, List.erase_eq_eraseP', List.eraseP_map]
    rfl
  have hnd : (g'.memberList.map (·.tableId)).Nodup := by
    rw [hmap]
    exact (h.memberNodup _ g hG).erase _
  refine h.relink hG hT hg rfl hnd ?_ ?_ ?_ ?_
  · intro T'
    rw [hmap, List.count_erase, h.memberList _ g hG, hcount]
    simp [@eq_comm _ T']
  · intro G'
    rw [List.count_erase, h.groupList _ t hT, hcount]
    simp [@eq_comm _ G']
  · intro G' T' hne
    rw [hcount, if_neg hne]
    rfl
  · intro M' m' hM'
    exact .inl (of_lookup_erase hM').2

theorem member_nodes (hM : v.members.lookup M = some m) (hG : v.groups.lookup m.groupId = some g)
    (hT : v.tables.lookup m.tableId = some t) :
    (∃ n ∈ g.memberList, n.tableId = m.tableId) ∧ m.groupId ∈ t.groupList := by
  have hpos := memberCount_pos hM
  constructor
  · have hin : m.tableId ∈ g.memberList.map (·.tableId) := by
      rw [← List.count_pos_iff, h.memberList _ g hG]
      exact hpos
    exact List.mem_map.mp hin
  · rw [← List.count_pos_iff, h.groupList _ t hT]
    exact hpos

theorem checkGroupKeyField_success (hG : v.groups.lookup G = some g) {db : AclDb ac}
    (htables : db.tables = v.tables) :
    checkGroupKeyField db g g.memberList = .success := by
  have hall : ∀ n ∈ g.memberList, ∃ t, v.tables.lookup n.tableId = some t ∧
      checkMasterKeyField t.tableKeyBmp g.groupStage g.bindPointList = .success := by
    intro n hn
    have hin : n.tableId ∈ g.memberList.map (·.tableId) := List.mem_map_of_mem hn
    rw [← List.count_pos_iff, h.memberList G g hG] at hin
    obtain ⟨M, m, hM, hmg, hmt⟩ := exists_of_memberCount_pos hin
    obtain ⟨g₁, t, hg₁, ht, hcheck⟩ := h.liveMember M m hM
    rw [hmg, hG] at hg₁
    cases hg₁
    exact ⟨t, hmt ▸ ht, hcheck⟩
  have hwalk : ∀ l : List AclGroupMember, (∀ n ∈ l, ∃ t, v.tables.lookup n.tableId = some t ∧
      checkMasterKeyField t.tableKeyBmp g.groupStage g.bindPointList = .success) →
      checkGroupKeyField db g l = .success := by
    intro l
    induction l with
    | nil => intro _; rfl
    | cons n rest ih =>
      intro hl
      obtain ⟨t, ht, hcheck⟩ := hl n (List.mem_cons_self ..)
      simp only [checkGroupKeyField, htables, ht, hcheck]
      exact ih fun n' hn' => hl n' (List.mem_cons_of_mem _ hn')
  exact hwalk g.memberList hall

end Members

/-! ## Entries come and go -/

section Entries

variable (h : ListInv v)
variable {t : AclTable} {E : Oid} {e : AclEntry}

include h

/-- A table and the entries are written together. -/
theorem relist {T : Oid} {t' : AclTable} {entries : Table Oid AclEntry}
    {entryIndices : Pool ac.entryIndices} (hT : v.tables.lookup T = some t)
    (ht : t'.groupList = t.groupList ∧ t'.tableKeyBmp = t.tableKeyBmp)
    (hlist : ∀ E, (t'.entryList.map (·.entryId)).count E =
      if (entries.lookup E).map (·.tableId) = some T then 1 else 0)
    (hcount : t'.createdEntryCount.toNat = Table.count (fun _ e => decide (e.tableId = T)) entries)
    (hlength : t'.entryList.length = t'.createdEntryCount.toNat ∧
      t'.createdEntryCount ≤ t'.tableSize) (hother : ∀ E T', T' ≠ T →
      ((entries.lookup E).map (·.tableId) = some T' ↔ v.tableOf E = some T')) (hnum : ∀ T', T' ≠ T →
      Table.count (fun _ e => decide (e.tableId = T')) entries = v.entryNum T')
    (hentries : ∀ E e, entries.lookup E = some e →
      (v.tables.lookup e.tableId).isSome ∧
        E = aclEntryOid ac E.value.toNat ∧ E.value.toNat ∈ entryIndices.used) :
    ListInv { v with
      tables := v.tables.insert T t'
      entries := entries
      entryIndices := entryIndices } := by
  refine ⟨?_, ?_, ?_, h.memberList, ?_, h.memberNodup, ?_, ?_,
    fun E e hE => (hentries E e hE).2, ?_, h.groupIds⟩
  · intro T' x hl E
    rcases of_lookup_insert hl with ⟨rfl, rfl⟩ | ⟨hne, hl⟩
    · exact hlist E
    · rw [h.entryList T' x hl E]
      exact if_congr (hother E T' hne).symm rfl rfl
  · intro T' x hl
    rcases of_lookup_insert hl with ⟨rfl, rfl⟩ | ⟨hne, hl⟩
    · exact hcount
    · exact (h.entryCount T' x hl).trans (hnum T' hne).symm
  · exact forall_insert hlength h.entryLength
  · refine forall_insert (fun G => ?_) h.groupList
    rw [ht.1]
    exact h.groupList T t hT G
  · exact fun E e hE => isSome_insert (hentries E e hE).1 _ _
  · intro M m hM
    obtain ⟨g, x, hg, hx, hcheck⟩ := h.liveMember M m hM
    by_cases heq : m.tableId = T
    · rw [heq, hT] at hx
      cases hx
      refine ⟨g, t', hg, (lookup_insert_ite ..).trans (if_pos heq), ?_⟩
      rw [ht.2]
      exact hcheck
    · exact ⟨g, x, hg, (lookup_insert_ite ..).trans ((if_neg heq).trans hx), hcheck⟩
  · exact forall_insert (h.tableIds T t hT) h.tableIds

/-- A new entry, first in its table's list. -/
theorem addEntry {prio : BitVec 16} {entryIndices : Pool ac.entryIndices} {i : Nat}
    (hE : v.entries.lookup E = none) (hT : v.tables.lookup e.tableId = some t)
    (hfull : t.tableSize ≠ t.createdEntryCount) (hid : E = aclEntryOid ac i) (hi : i < 2 ^ 32)
    (hused : entryIndices.used = insert i v.entryIndices.used) :
    ListInv { v with
      tables := v.tables.insert e.tableId { t with
        entryList := ⟨E, prio⟩ :: t.entryList
        createdEntryCount := t.createdEntryCount + 1 }
      entries := v.entries.insert E e
      entryIndices := entryIndices } := by
  have hnum : ∀ p : Oid → AclEntry → Bool,
      Table.count p (v.entries.insert E e) = Table.count p v.entries + if p E e = true then 1 else 0 :=
    fun p => count_insert_new hE
  have htab : ∀ E', ((v.entries.insert E e).lookup E').map (·.tableId) =
      if E' = E then some e.tableId else v.tableOf E' := by
    intro E'
    rw [lookup_insert_ite]
    split
    · rfl
    · rfl
  have hroom : (t.createdEntryCount + 1).toNat = t.createdEntryCount.toNat + 1 ∧
      t.createdEntryCount + 1 ≤ t.tableSize := by
    have hle := (h.entryLength _ t hT).2
    bv_omega
  have hvalue : E.value.toNat = i := by
    rw [hid]
    show (BitVec.ofNat 32 i).toNat = i
    rw [BitVec.toNat_ofNat, Nat.mod_eq_of_lt hi]
  refine h.relist hT ⟨rfl, rfl⟩ ?_ ?_ ?_ ?_ ?_ ?_
  · intro E'
    rw [List.map_cons, List.count_cons, h.entryList _ t hT, htab]
    by_cases hE' : E' = E
    · subst hE'
      have hnone : v.tableOf E' = none := by
        rw [AclStore.tableOf, hE]
        rfl
      simp [hnone]
    · have hbeq : (E == E') = false := beq_false_of_ne fun he => hE' he.symm
      simp [hE', hbeq]
  · rw [hnum, if_pos (decide_eq_true rfl), hroom.1, h.entryCount _ t hT]
    rfl
  · refine ⟨?_, hroom.2⟩
    rw [List.length_cons, (h.entryLength _ t hT).1, hroom.1]
  · intro E' T' hne
    rw [htab]
    split
    · next heq =>
      rw [heq, AclStore.tableOf, hE]
      exact iff_of_false (fun he => hne (Option.some.inj he).symm) nofun
    · exact Iff.rfl
  · intro T' hne
    rw [hnum, if_neg (by simpa using fun he : e.tableId = T' => hne he.symm)]
    rfl
  · intro E' e' hl
    rcases of_lookup_insert hl with ⟨heq, rfl⟩ | ⟨-, hl⟩
    · rw [heq, hvalue, hused]
      exact ⟨by rw [hT]; rfl, hid, Finset.mem_insert_self ..⟩
    · obtain ⟨hoid, hmem⟩ := h.ids E' e' hl
      rw [hused]
      exact ⟨h.liveTable E' e' hl, hoid, Finset.mem_insert_of_mem hmem⟩

/-- An entry goes, with its node. -/
theorem eraseEntry (hE : v.entries.lookup E = some e) (hT : v.tables.lookup e.tableId = some t) :
    ListInv { v with
      tables := v.tables.insert e.tableId { t with
        entryList := t.entryList.eraseP (fun m => m.entryId = E)
        createdEntryCount := t.createdEntryCount - 1 }
      entries := v.entries.erase E
      entryIndices := v.entryIndices.free E.value.toNat } := by
  have hnum : ∀ p : Oid → AclEntry → Bool,
      Table.count p v.entries = Table.count p (v.entries.erase E) + if p E e = true then 1 else 0 :=
    fun p => count_erase hE
  have htab : ∀ E', ((v.entries.erase E).lookup E').map (·.tableId) =
      if E' = E then none else v.tableOf E' := by
    intro E'
    rw [lookup_erase_ite]
    split
    · rfl
    · rfl
  have hmine : v.tableOf E = some e.tableId := by
    rw [AclStore.tableOf, hE]
    rfl
  have hpos : 1 ≤ t.createdEntryCount.toNat := by
    rw [h.entryCount _ t hT]
    exact count_pos hE (decide_eq_true rfl)
  have hminus : (t.createdEntryCount - 1).toNat + 1 = t.createdEntryCount.toNat ∧
      (t.createdEntryCount ≤ t.tableSize → t.createdEntryCount - 1 ≤ t.tableSize) := by
    constructor
    · bv_omega
    · bv_omega
  have hmap : (t.entryList.eraseP (fun m => m.entryId = E)).map (·.entryId) =
      (t.entryList.map (·.entryId)).erase E := by
    rw [List.erase_eq_eraseP', List.eraseP_map]
    rfl
  refine h.relist hT ⟨rfl, rfl⟩ ?_ ?_ ?_ ?_ ?_ ?_
  · intro E'
    rw [hmap, List.count_erase, h.entryList _ t hT, htab]
    by_cases hE' : E' = E
    · subst hE'
      simp [hmine]
    · have hbeq : (E == E') = false := beq_false_of_ne fun he => hE' he.symm
      simp [hE', hbeq]
  · have hcount := hnum fun _ e' => decide (e'.tableId = e.tableId)
    rw [if_pos (decide_eq_true rfl)] at hcount
    have hold := h.entryCount _ t hT
    rw [AclStore.entryNum] at hold
    dsimp only
    omega
  · have hin : E ∈ t.entryList.map (·.entryId) := by
      rw [← List.count_pos_iff, h.entryList _ t hT, if_pos hmine]
      exact Nat.one_pos
    have hlen := congrArg List.length hmap
    rw [List.length_map, List.length_erase_of_mem hin, List.length_map,
      (h.entryLength _ t hT).1] at hlen
    refine ⟨?_, hminus.2 (h.entryLength _ t hT).2⟩
    dsimp only
    omega
  · intro E' T' hne
    rw [htab]
    split
    · next heq =>
      rw [heq, hmine]
      exact iff_of_false nofun fun he => hne (Option.some.inj he).symm
    · exact Iff.rfl
  · intro T' hne
    have hcount := hnum fun _ e' => decide (e'.tableId = T')
    rw [if_neg (by simpa using fun he : e.tableId = T' => hne he.symm)] at hcount
    exact hcount.symm
  · intro E' e' hl
    obtain ⟨hne, hl⟩ := of_lookup_erase hl
    obtain ⟨hoid, hmem⟩ := h.ids E' e' hl
    refine ⟨h.liveTable E' e' hl, hoid, Finset.mem_erase.mpr ⟨?_, hmem⟩⟩
    intro heq
    refine hne ?_
    rw [hoid, heq, ← (h.ids E e hE).1]

omit h in
theorem count_replaced {e' : AclEntry} (hE : v.entries.lookup E = some e)
    {p : Oid → AclEntry → Bool} (hp : p E e' = p E e) :
    Table.count p (v.entries.insert E e') = Table.count p v.entries := by
  have hc := count_replace (p := p) (w := e') hE
  rw [Table.unit, Table.unit, hp] at hc
  omega

theorem setEntry {e' : AclEntry} (hE : v.entries.lookup E = some e)
    (htable : e'.tableId = e.tableId) : ListInv { v with entries := v.entries.insert E e' } := by
  have htab : ∀ E', ((v.entries.insert E e').lookup E').map (·.tableId) = v.tableOf E' :=
    map_insert hE htable
  refine ⟨?_, ?_, h.entryLength, h.memberList, h.groupList, h.memberNodup, ?_, h.liveMember, ?_,
    h.tableIds, h.groupIds⟩
  · intro T t hl E'
    rw [h.entryList T t hl E']
    exact if_congr (by rw [← htab]; rfl) rfl rfl
  · intro T t hl
    rw [h.entryCount T t hl]
    exact (count_replaced hE (by rw [htable])).symm
  · refine forall_insert ?_ h.liveTable
    rw [htable]
    exact h.liveTable E e hE
  · exact forall_insert (h.ids E e hE) h.ids

end Entries

end ListInv

/-! ## References -/

/-- What one object adds to the references of `R`. -/
def named (l : List Oid) (R : Oid) : Nat := if R ∈ l then 1 else 0

/-- Every range of the list goes from `a` to `b`, up to what both have in common. -/
theorem mapRangeRefs_counts (f : BitVec 32 → BitVec 32) (a b : Nat) {l : List Oid} :
    ∀ {ranges : Table Oid AclRange}, l.Nodup →
    (∀ R ∈ l, ∃ r, ranges.lookup R = some r ∧ (f r.refCnt).toNat + a = r.refCnt.toNat + b) →
    ∃ ranges', mapRangeRefs f l ranges = some ranges' ∧
      ∀ R, kept (fun r => r.refCnt.toNat) ranges' R + a * named l R =
        kept (fun r => r.refCnt.toNat) ranges R + b * named l R := by
  induction l with
  | nil => intro ranges _ _; exact ⟨ranges, rfl, fun R => rfl⟩
  | cons R₀ rest ih =>
    intro ranges hnd hlive
    obtain ⟨hnot, hnd⟩ := List.nodup_cons.mp hnd
    obtain ⟨r, hr, hone⟩ := hlive R₀ (List.mem_cons_self ..)
    have hlive' : ∀ R ∈ rest, ∃ r', (ranges.insert R₀ { r with refCnt := f r.refCnt }).lookup R =
        some r' ∧ (f r'.refCnt).toNat + a = r'.refCnt.toNat + b := by
      intro R hR
      rw [lookup_insert_ite, if_neg (ne_of_mem_of_not_mem hR hnot)]
      exact hlive R (List.mem_cons_of_mem _ hR)
    obtain ⟨ranges', hmap, hkept⟩ := ih hnd hlive'
    refine ⟨ranges', ?_, fun R => ?_⟩
    · simp only [mapRangeRefs, hr]
      exact hmap
    · have hrest := hkept R
      rw [kept_insert] at hrest
      by_cases heq : R = R₀
      · rw [heq, Function.update_self, named, if_neg hnot] at hrest
        rw [heq, named, if_pos (List.mem_cons_self ..), kept_of_lookup hr]
        dsimp only at hrest
        omega
      · rw [Function.update_of_ne heq] at hrest
        simp only [named, List.mem_cons, heq, false_or] at hrest ⊢
        exact hrest

theorem mapRangeRefs_up {l : List Oid} {ranges : Table Oid AclRange} (hnd : l.Nodup)
    (hlive : ∀ R ∈ l, (ranges.lookup R).isSome)
    (hroom : ∀ R ∈ l, kept (fun r => r.refCnt.toNat) ranges R + 1 < 2 ^ 32) :
    ∃ ranges', mapRangeRefs (· + 1) l ranges = some ranges' ∧
      ∀ R, kept (fun r => r.refCnt.toNat) ranges' R =
        kept (fun r => r.refCnt.toNat) ranges R + named l R := by
  have hone : ∀ R ∈ l, ∃ r, ranges.lookup R = some r ∧
      (r.refCnt + 1).toNat + 0 = r.refCnt.toNat + 1 := by
    intro R hR
    obtain ⟨r, hr⟩ := Option.isSome_iff_exists.mp (hlive R hR)
    have hlt := hroom R hR
    rw [kept_of_lookup hr] at hlt
    exact ⟨r, hr, by bv_omega⟩
  simpa using mapRangeRefs_counts (· + 1) 0 1 hnd hone

theorem mapRangeRefs_down {l : List Oid} {ranges : Table Oid AclRange} (hnd : l.Nodup)
    (hpos : ∀ R ∈ l, 1 ≤ kept (fun r => r.refCnt.toNat) ranges R) :
    ∃ ranges', mapRangeRefs (· - 1) l ranges = some ranges' ∧
      ∀ R, kept (fun r => r.refCnt.toNat) ranges' R + named l R =
        kept (fun r => r.refCnt.toNat) ranges R := by
  have hone : ∀ R ∈ l, ∃ r, ranges.lookup R = some r ∧
      (r.refCnt - 1).toNat + 1 = r.refCnt.toNat + 0 := by
    intro R hR
    obtain ⟨r, hr, hcnt⟩ := exists_of_kept_pos (hpos R hR)
    have hle := hpos R hR
    exact ⟨r, hr, by bv_omega⟩
  simpa using mapRangeRefs_counts (· - 1) 1 0 hnd hone

namespace StoreInv

variable {v : AclStore ac}

section Named

variable (h : StoreInv v)

include h

theorem range_isSome {E R : Oid} {e : AclEntry} (hE : v.entries.lookup E = some e)
    (hR : R ∈ e.ranges) : ∃ r, v.ranges.lookup R = some r ∧ 1 ≤ r.refCnt.toNat := by
  have hpos : 0 < v.rangeUsers R := count_pos hE (decide_eq_true hR)
  rw [← h.rangeRefs] at hpos
  obtain ⟨r, hr, hc⟩ := exists_of_kept_pos hpos
  exact ⟨r, hr, by omega⟩

theorem counter_isSome {E C : Oid} {e : AclEntry} (hE : v.entries.lookup E = some e)
    (hC : e.counter = some C) : ∃ c, v.counters.lookup C = some c ∧ 1 ≤ c.refCnt.toNat := by
  have hpos : 0 < v.counterUsers C := count_pos hE (decide_eq_true hC)
  rw [← h.counterRefs] at hpos
  obtain ⟨c, hc, hn⟩ := exists_of_kept_pos hpos
  exact ⟨c, hc, by omega⟩

end Named

/-! ## Ranges and counters come and go -/

section Counted

variable (h : StoreInv v)
variable {R C : Oid} {r : AclRange} {c : AclCounter}

include h

theorem addRange (hR : v.ranges.lookup R = none) (hc : r.refCnt = 0) :
    StoreInv { v with ranges := v.ranges.insert R r } := by
  have hkept : kept (fun r => r.refCnt.toNat) (v.ranges.insert R r) =
      kept (fun r => r.refCnt.toNat) v.ranges := by
    refine kept_insert_same ?_
    rw [kept_of_none hR, hc]
    rfl
  exact { h with rangeRefs := hkept.trans h.rangeRefs }

theorem eraseRange (hR : v.ranges.lookup R = some r) (hc : r.refCnt = 0) :
    StoreInv { v with ranges := v.ranges.erase R } := by
  have hkept : kept (fun r => r.refCnt.toNat) (v.ranges.erase R) =
      kept (fun r => r.refCnt.toNat) v.ranges := by
    refine kept_erase ?_
    rw [kept_of_lookup hR, hc]
    rfl
  exact { h with rangeRefs := hkept.trans h.rangeRefs }

theorem addCounter (hC : v.counters.lookup C = none) (hc : c.refCnt = 0) :
    StoreInv { v with counters := v.counters.insert C c } := by
  have hkept : kept (fun c => c.refCnt.toNat) (v.counters.insert C c) =
      kept (fun c => c.refCnt.toNat) v.counters := by
    refine kept_insert_same ?_
    rw [kept_of_none hC, hc]
    rfl
  exact { h with counterRefs := hkept.trans h.counterRefs }

theorem eraseCounter (hC : v.counters.lookup C = some c) (hc : c.refCnt = 0) :
    StoreInv { v with counters := v.counters.erase C } := by
  have hkept : kept (fun c => c.refCnt.toNat) (v.counters.erase C) =
      kept (fun c => c.refCnt.toNat) v.counters := by
    refine kept_erase ?_
    rw [kept_of_lookup hC, hc]
    rfl
  exact { h with counterRefs := hkept.trans h.counterRefs }

theorem unused_range (hR : v.ranges.lookup R = some r) :
    r.refCnt = 0 ↔ ∀ E e, v.entries.lookup E = some e → R ∉ e.ranges := by
  have hcount := congrFun h.rangeRefs R
  rw [kept_of_lookup hR] at hcount
  rw [← BitVec.toNat_inj, hcount]
  simp [AclStore.rangeUsers, count_eq_zero]

theorem unused_counter (hC : v.counters.lookup C = some c) :
    c.refCnt = 0 ↔ ∀ E e, v.entries.lookup E = some e → e.counter ≠ some C := by
  have hcount := congrFun h.counterRefs C
  rw [kept_of_lookup hC] at hcount
  rw [← BitVec.toNat_inj, hcount]
  simp [AclStore.counterUsers, count_eq_zero]

end Counted

/-! ## Tables, members and entries with the references -/

section Lifts

variable (h : StoreInv v)
variable {E : Oid} {e : AclEntry}

include h

theorem withLists {groups : Table Oid AclGroup} {tables : Table Oid AclTable}
    {members : Table Oid AclTableGroupMember}
    (hlists : ListInv { v with groups := groups, tables := tables, members := members }) :
    StoreInv { v with groups := groups, tables := tables, members := members } :=
  { hlists with rangeRefs := h.rangeRefs, counterRefs := h.counterRefs, nodup := h.nodup }

theorem addEntry {t : AclTable} {prio : BitVec 16} {ranges : Table Oid AclRange}
    {counters : Table Oid AclCounter} {entryIndices : Pool ac.entryIndices} {i : Nat}
    (hE : v.entries.lookup E = none) (hT : v.tables.lookup e.tableId = some t)
    (hfull : t.tableSize ≠ t.createdEntryCount) (hnd : e.ranges.Nodup)
    (hranges : ∀ R, kept (fun r => r.refCnt.toNat) ranges R =
      kept (fun r => r.refCnt.toNat) v.ranges R + if R ∈ e.ranges then 1 else 0)
    (hcounters : ∀ C, kept (fun c => c.refCnt.toNat) counters C =
      kept (fun c => c.refCnt.toNat) v.counters C + if e.counter = some C then 1 else 0)
    (hid : E = aclEntryOid ac i) (hi : i < 2 ^ 32)
    (hused : entryIndices.used = insert i v.entryIndices.used) :
    StoreInv { v with
      tables := v.tables.insert e.tableId { t with
        entryList := ⟨E, prio⟩ :: t.entryList
        createdEntryCount := t.createdEntryCount + 1 }
      entries := v.entries.insert E e
      ranges := ranges
      counters := counters
      entryIndices := entryIndices } := by
  have hnum : ∀ p : Oid → AclEntry → Bool,
      Table.count p (v.entries.insert E e) = Table.count p v.entries + if p E e = true then 1 else 0 :=
    fun p => count_insert_new hE
  have hlists : ListInv { v with
      tables := v.tables.insert e.tableId { t with
        entryList := ⟨E, prio⟩ :: t.entryList
        createdEntryCount := t.createdEntryCount + 1 }
      entries := v.entries.insert E e
      ranges := ranges
      counters := counters
      entryIndices := entryIndices } :=
    (h.toListInv.addEntry hE hT hfull hid hi hused).withRefs ranges counters
  refine { hlists with rangeRefs := ?_, counterRefs := ?_, nodup := ?_ }
  · funext R
    refine (hranges R).trans ?_
    have hcount := hnum fun _ e => decide (R ∈ e.ranges)
    simp only [decide_eq_true_eq] at hcount
    rw [congrFun h.rangeRefs R]
    exact hcount.symm
  · funext C
    refine (hcounters C).trans ?_
    have hcount := hnum fun _ e => decide (e.counter = some C)
    simp only [decide_eq_true_eq] at hcount
    rw [congrFun h.counterRefs C]
    exact hcount.symm
  · intro E' e' hl
    rcases of_lookup_insert hl with ⟨-, rfl⟩ | ⟨-, hl⟩
    · exact hnd
    · exact h.nodup E' e' hl

theorem eraseEntry {t : AclTable} {ranges : Table Oid AclRange} (hE : v.entries.lookup E = some e)
    (hT : v.tables.lookup e.tableId = some t)
    (hranges : ∀ R, kept (fun r => r.refCnt.toNat) ranges R + (if R ∈ e.ranges then 1 else 0) =
      kept (fun r => r.refCnt.toNat) v.ranges R) (hcounter : e.counter = none) :
    StoreInv { v with
      tables := v.tables.insert e.tableId { t with
        entryList := t.entryList.eraseP (fun m => m.entryId = E)
        createdEntryCount := t.createdEntryCount - 1 }
      entries := v.entries.erase E
      ranges := ranges
      entryIndices := v.entryIndices.free E.value.toNat } := by
  have hnum : ∀ p : Oid → AclEntry → Bool,
      Table.count p v.entries = Table.count p (v.entries.erase E) + if p E e = true then 1 else 0 :=
    fun p => count_erase hE
  have hlists := (h.toListInv.eraseEntry hE hT).withRefs ranges v.counters
  refine { hlists with rangeRefs := ?_, counterRefs := ?_, nodup := ?_ }
  · funext R
    have hcount := hnum fun _ e' => decide (R ∈ e'.ranges)
    have hold := hranges R
    rw [congrFun h.rangeRefs R, AclStore.rangeUsers, hcount] at hold
    simp only [decide_eq_true_eq] at hold
    exact Nat.add_right_cancel hold
  · funext C
    have hcount := hnum fun _ e' => decide (e'.counter = some C)
    refine (congrFun h.counterRefs C).trans (hcount.trans ?_)
    rw [hcounter]
    rfl
  · intro E' e' hl
    exact h.nodup E' e' (of_lookup_erase hl).2

theorem setEntry {e' : AclEntry} (hE : v.entries.lookup E = some e)
    (htable : e'.tableId = e.tableId) (hranges : e'.ranges.Perm e.ranges)
    (hcounter : e'.counter = e.counter) :
    StoreInv { v with entries := v.entries.insert E e' } := by
  refine { h.toListInv.setEntry hE htable with rangeRefs := ?_, counterRefs := ?_, nodup := ?_ }
  · funext R
    refine (congrFun h.rangeRefs R).trans ?_
    exact (ListInv.count_replaced hE (decide_eq_decide.mpr hranges.mem_iff)).symm
  · funext C
    refine (congrFun h.counterRefs C).trans ?_
    exact (ListInv.count_replaced hE (by rw [hcounter])).symm
  · intro E' x hl
    rcases of_lookup_insert hl with ⟨-, rfl⟩ | ⟨-, hl⟩
    · exact hranges.nodup_iff.mpr (h.nodup E e hE)
    · exact h.nodup E' x hl

end Lifts

end StoreInv

/-! ## Nothing is bound -/

namespace NoPoints

variable {v : AclStore ac} (h : NoPoints v)

include h

theorem insertTable {T : Oid} {t : AclTable} (hp : t.bindPoints = []) :
    NoPoints { v with tables := v.tables.insert T t } := by
  refine ⟨fun T' t' hl => ?_, h.groups⟩
  rcases of_lookup_insert hl with ⟨-, rfl⟩ | ⟨-, hl⟩
  · exact hp
  · exact h.tables T' t' hl

theorem insertGroup {G : Oid} {g : AclGroup} (hp : g.bindPoints = []) :
    NoPoints { v with groups := v.groups.insert G g } := by
  refine ⟨h.tables, fun G' g' hl => ?_⟩
  rcases of_lookup_insert hl with ⟨-, rfl⟩ | ⟨-, hl⟩
  · exact hp
  · exact h.groups G' g' hl

theorem eraseTable (T : Oid) : NoPoints { v with tables := v.tables.erase T } := by
  refine ⟨fun T' t' hl => ?_, h.groups⟩
  exact h.tables T' t' (of_lookup_erase hl).2

theorem eraseGroup (G : Oid) : NoPoints { v with groups := v.groups.erase G } := by
  refine ⟨h.tables, fun G' g' hl => ?_⟩
  exact h.groups G' g' (of_lookup_erase hl).2

end NoPoints

end CtcSai
