/-
# `AclLookupType` — the lookup type of a table, ctc_sai_acl.c

The type is the first one whose TCAM keys hold the SDK fields that the match
fields ask for.  Which fields these are is written down twice: in `attr2field`,
which this search reads, and where the keys of an entry are made.
-/
import CtcSai.AclObjects

namespace CtcSai

/-- `ctc_field_key_type_t`, the fields that some match field asks for. -/
inductive CtcFieldKey where
  | port | etherType | metadata | dstCid | vlanNum | macDa | macSa
  | stagCfi | stagCos | stagValid | svlanId | svlanRange
  | ctagCfi | ctagCos | cvlanId | cvlanRange
  | ipSa | ipDa | ipv6Sa | ipv6Da | ipv6FlowLabel | ipProtocol | ipDscp | ipEcn | ipFrag | ipTtl
  | ipPktLenRange | l4SrcPort | l4DstPort | l4SrcPortRange | l4DstPortRange
  | tcpFlags | tcpEcn | icmpType | icmpCode | dot1aeSci | l3Type | arpOpCode
  -- MPLS_LABEL, _TTL, _EXP and _SBIT of the labels 0 to 2
  | mpls (i : Fin 12)
deriving DecidableEq, Repr

open KeyedTable CtcFieldKey

/-! ## `ctc_sai_key_info` -/

def type2key : TcamLkupType → List AclKeyType
  | .l2 => [.mac]
  | .l2L3 => [.macIpv4, .macIpv6]
  | .l3 => [.ipv4, .ipv6]
  | .l3Ext => [.ipv4Ext, .ipv6Ext]
  | .l2L3Ext => [.macIpv4Ext, .macIpv6]

/-- `key2field`, read by its columns: the keys that have a field. -/
def keysWith : CtcFieldKey → List AclKeyType
  | port | metadata | dstCid =>
    [.mac, .macIpv4, .macIpv4Ext, .macIpv6, .ipv4, .ipv4Ext, .ipv6, .ipv6Ext]
  | vlanNum => [.mac, .macIpv4, .macIpv4Ext, .macIpv6, .ipv4Ext, .ipv6, .ipv6Ext]
  | etherType => [.mac, .macIpv4, .macIpv4Ext, .ipv4, .ipv4Ext]
  | macDa | macSa | stagCfi | stagCos | stagValid | svlanId | svlanRange | ctagCfi | ctagCos
  | cvlanId | cvlanRange => [.mac, .macIpv4, .macIpv4Ext, .macIpv6]
  | ipv6Sa | ipv6Da | ipv6FlowLabel => [.macIpv6, .ipv6, .ipv6Ext]
  | ipFrag | ipPktLenRange | l4SrcPortRange | l4DstPortRange =>
    [.macIpv4, .macIpv4Ext, .macIpv6, .ipv4Ext, .ipv6, .ipv6Ext]
  | ipTtl => [.macIpv6, .ipv4Ext, .ipv6, .ipv6Ext]
  | ipProtocol | ipDscp | ipEcn | l4SrcPort | l4DstPort | tcpFlags | tcpEcn | icmpType | icmpCode
  | l3Type => [.macIpv4, .macIpv4Ext, .macIpv6, .ipv4, .ipv4Ext, .ipv6, .ipv6Ext]
  | _ => [.macIpv4, .macIpv4Ext, .ipv4, .ipv4Ext]

/-- `attr2field`, by the number of the match field. -/
def attr2field : Nat → List CtcFieldKey
  | 0 => [ipv6Sa]
  | 1 => [ipv6Da]
  | 4 => [macSa]
  | 5 => [macDa]
  | 8 => [ipSa]
  | 9 => [ipDa]
  | 12 | 14 | 16 | 73 | 74 => [port]
  | 17 => [svlanId]
  | 18 => [stagCos]
  | 19 => [stagCfi]
  | 20 => [cvlanId]
  | 21 => [ctagCos]
  | 22 => [ctagCfi]
  | 23 => [l4SrcPort]
  | 24 => [l4DstPort]
  | 27 => [etherType]
  | 29 | 338 => [ipProtocol]
  | 32 => [ipDscp]
  | 33 => [tcpEcn]
  | 34 => [ipTtl]
  | 35 => [ipEcn, ipDscp]
  | 37 => [tcpFlags]
  | 39 => [ipFrag]
  | 40 => [ipv6FlowLabel]
  | 42 | 44 => [icmpType]
  | 43 | 45 => [icmpCode]
  | 46 => [vlanNum, stagValid]
  | 48 => [vlanNum]
  | 49 => [dot1aeSci]
  | 70 | 71 => [dstCid]
  | 75 => [metadata]
  | 337 => [svlanRange, cvlanRange, ipPktLenRange, l4SrcPortRange, l4DstPortRange]
  | _ => []

/-- The numbers of the SDK.  The bitmaps of SDK fields have ACL_MAX_FLEX_KEY_COUNT bits, in
eleven words. -/
structure CtcAclNums where
  lkup : TcamLkupType → Nat
  lkupMax : Nat
  lkup_inj : Function.Injective lkup
  l2_le : ∀ type, lkup .l2 ≤ lkup type
  lkup_lt : ∀ type, lkup type < lkupMax
  lkupMax_lt : lkupMax < 2 ^ 32
  fieldNum : Nat
  field : CtcFieldKey → Nat
  field_lt : ∀ f, field f < fieldNum
  fieldNum_le : fieldNum ≤ 32 * 11

/-- A bitmap of SDK fields. -/
abbrev CtcFieldBmp := Finset CtcFieldKey

/-! ## The fields of a table -/

/-- The fields of a bind point type that are looked at for `sai_master_field`. -/
def masterFieldsOf : AclStage → BindPointType → List Nat
  | .ingress, .port => [inPortsField, inPortField, srcPortField]
  | .ingress, .lag => [inPortField, srcPortField]
  | .egress, .port | .egress, .lag => [outPortsField, outPortField]
  | .ingress, .vlan => [outerVlanIdField, innerVlanIdField]
  | _, _ => []

def AclTable.masterFields (t : AclTable) : List Nat :=
  [BindPointType.port, .lag, .vlan, .routerInterface, .switch].flatMap fun type =>
    if allows t.bindPointList type then
      (masterFieldsOf t.tableStage type).filter t.tableKeyBmp.getLsbD
    else []

/-- The SDK fields of the ranges, by the bits of `range_type_bmp`. -/
def AclTable.rangeFields (t : AclTable) : List CtcFieldKey :=
  ([(0, l4SrcPortRange), (1, l4DstPortRange), (2, svlanRange), (3, cvlanRange),
    (4, ipPktLenRange)].filter fun e : Nat × CtcFieldKey => t.rangeTypeBmp.getLsbD e.1).map (·.2)

/-- A loop over the match fields; the last one is not reached. -/
def markFields (asked : Nat → Bool) (row : Nat → List CtcFieldKey) (bmp : CtcFieldBmp) :
    CtcFieldBmp :=
  (List.range 339).foldl (fun b n => if asked n then b ∪ (row n).toFinset else b) bmp

/-- `_ctc_sai_acl_mapping_sai_table_field` for the master and the slave fields. -/
def mappingSaiTableField (t : AclTable) (bmps : CtcFieldBmp × CtcFieldBmp) :
    CtcFieldBmp × CtcFieldBmp :=
  if checkMasterKeyField t.tableKeyBmp t.tableStage t.bindPointList ≠ .success then bmps
  else
    let master := markFields (fun n => decide (n ∈ t.masterFields)) attr2field bmps.1
    let slave := markFields t.tableKeyBmp.getLsbD (fun n => if n = aclRangeTypeField then
      t.rangeFields else (attr2field n).filter (· ∉ master)) bmps.2
    (master, slave)

/-! ## The search -/

section Search

variable (nums : CtcAclNums) (master slave : CtcFieldBmp)

/-- The keys of the type with a number; without one it is skipped. -/
def CtcAclNums.keysOf (ii : Nat) : List AclKeyType :=
  (([.l2, .l2L3, .l3, .l3Ext, .l2L3Ext].find? fun type => nums.lkup type = ii).map
    type2key).getD []

/-- The loop over the keys of a type, with `ctc_mask_field`. -/
def tcamKeysHold : List AclKeyType → CtcFieldBmp → Bool
  | [], mask => decide (mask = slave)
  | k :: rest, mask =>
    if ∀ f ∈ master, k ∈ keysWith f then
      tcamKeysHold rest (mask ∪ slave.filter (k ∈ keysWith ·))
    else false

/-- `_ctc_sai_acl_mapping_fields_lookup_type`: past the last type the number is
CTC_ACL_TCAM_LKUP_TYPE_MAX. -/
def mappingFieldsLookupType : Nat :=
  ((List.range' (nums.lkup .l2) (nums.lkupMax - nums.lkup .l2)).find? fun ii =>
    nums.keysOf ii ≠ [] && tcamKeysHold master slave (nums.keysOf ii) ∅).getD
    nums.lkupMax

/-- The lookup type for the fields of some tables. -/
def CtcAclNums.fieldsLookupType (ts : List AclTable) : BitVec 32 :=
  let bmps := ts.foldl (fun b t => mappingSaiTableField t b) (∅, ∅)
  BitVec.ofNat 32 (mappingFieldsLookupType nums bmps.1 bmps.2)

/-- The chip with this search. -/
def CtcAclNums.chip (ac : AclChip) : AclChip :=
  { ac with
    lkupTypeL2 := BitVec.ofNat 32 (nums.lkup .l2)
    fieldsLookupType := nums.fieldsLookupType }

end Search

/-! ## What the type should be -/

/-- The SDK fields of a match field: those an entry has keys for, where it differs from
`attr2field`. -/
def sdkFields : Nat → List CtcFieldKey
  | 33 => [ipEcn]
  | 38 => [l3Type, arpOpCode]
  | n => if h : 50 ≤ n ∧ n ≤ 61 then [mpls ⟨n - 50, by omega⟩] else attr2field n

/-- The SDK fields that a match field of a table asks for. -/
def AclTable.asks (t : AclTable) (n : Nat) : List CtcFieldKey :=
  if n = aclRangeTypeField then t.rangeFields else sdkFields n

/-- The master fields of a table pass their check. -/
def AclTable.Accepted (t : AclTable) : Prop :=
  checkMasterKeyField t.tableKeyBmp t.tableStage t.bindPointList = .success

def MasterField (ts : List AclTable) (f : CtcFieldKey) : Prop :=
  ∃ t ∈ ts, ∃ n ∈ t.masterFields, f ∈ sdkFields n

/-- The SDK fields of all match fields. -/
def AskedField (ts : List AclTable) (f : CtcFieldKey) : Prop :=
  ∃ t ∈ ts, ∃ n < aclTableFieldNum, t.tableKeyBmp.getLsbD n ∧ f ∈ t.asks n

def SlaveField (ts : List AclTable) (f : CtcFieldKey) : Prop :=
  AskedField ts f ∧ ¬ MasterField ts f

/-- Every key of the type has the master fields, and together they have the slave fields. -/
def Covers (master slave : CtcFieldKey → Prop) (type : TcamLkupType) : Prop :=
  (∀ k ∈ type2key type, ∀ f, master f → k ∈ keysWith f) ∧
    ∀ f, slave f → ∃ k ∈ type2key type, k ∈ keysWith f

/-- The first type that covers the fields; and the fields are inside the bitmaps. -/
structure LookupTypeRight (nums : CtcAclNums) (ts : List AclTable) (lookupType : BitVec 32) :
    Prop where
  first : ∃ type, lookupType = BitVec.ofNat 32 (nums.lkup type) ∧
    Covers (MasterField ts) (SlaveField ts) type ∧
    ∀ type', nums.lkup type' < nums.lkup type → ¬ Covers (MasterField ts) (SlaveField ts) type'
  inside : ∀ f, nums.field f < 32 * 11

/-- The row that is read for a match field. -/
def AclTable.row (t : AclTable) (n : Nat) : List CtcFieldKey :=
  if n = aclRangeTypeField then t.rangeFields else attr2field n

/-- The fields that a row of the tables names. -/
def RowField (ts : List AclTable) (f : CtcFieldKey) : Prop :=
  ∃ t ∈ ts, ∃ n < 339, t.tableKeyBmp.getLsbD n ∧ f ∈ t.row n

/-- ACL_IP_TYPE and the fields of MPLS labels have no row. -/
def noRow : List Nat := 38 :: List.range' 50 12

/-- The key of L2 has all fields of the rows, and some match field has no row. -/
structure OnlyNoRow (ts : List AclTable) : Prop where
  others : ∀ f, RowField ts f → .mac ∈ keysWith f
  some : ∃ t ∈ ts, ∃ n ∈ noRow, t.tableKeyBmp.getLsbD n

variable {nums : CtcAclNums} {master slave : CtcFieldBmp} {ts : List AclTable}

/-! ## The bitmaps -/

theorem mem_markFields {asked : Nat → Bool} {row : Nat → List CtcFieldKey} {bmp : CtcFieldBmp}
    {f : CtcFieldKey} :
    f ∈ markFields asked row bmp ↔ f ∈ bmp ∨ ∃ n < 339, asked n ∧ f ∈ row n := by
  have hloop : ∀ (l : List Nat) (b : CtcFieldBmp),
      f ∈ l.foldl (fun b n => if asked n then b ∪ (row n).toFinset else b) b ↔
        f ∈ b ∨ ∃ n ∈ l, asked n ∧ f ∈ row n := by
    intro l
    induction l with
    | nil => simp
    | cons n l ih =>
      intro b
      rw [List.foldl_cons, ih, List.exists_mem_cons_iff]
      cases asked n <;> simp [or_assoc]
  simp only [markFields, hloop, List.mem_range]

theorem masterFields_sub {t : AclTable} {n : Nat} (h : n ∈ t.masterFields) :
    n = 12 ∨ n = 13 ∨ n = 14 ∨ n = 15 ∨ n = 16 ∨ n = 17 ∨ n = 20 := by
  obtain ⟨type, -, hn⟩ := List.mem_flatMap.mp h
  split at hn
  · have hof := (List.mem_filter.mp hn).1
    revert hof
    cases t.tableStage <;> cases type <;>
      simp [masterFieldsOf, inPortsField, inPortField, srcPortField, outPortsField, outPortField,
        outerVlanIdField, innerVlanIdField] <;> omega
  · cases hn

/-- What the loop over some tables leaves in the bitmaps. -/
structure Mapped (ts : List AclTable) (bmps : CtcFieldBmp × CtcFieldBmp) : Prop where
  master : ∀ f, f ∈ bmps.1 ↔ MasterField ts f
  slave : ∀ f ∈ bmps.2, RowField ts f
  row : ∀ f, RowField ts f → f ∈ bmps.2 ∨ f ∈ bmps.1

theorem mapped_append {t : AclTable} {bmps : CtcFieldBmp × CtcFieldBmp} (h : Mapped ts bmps)
    (hok : t.Accepted) : Mapped (ts ++ [t]) (mappingSaiTableField t bmps) := by
  rw [mappingSaiTableField, if_neg (not_not_intro (show _ = _ from hok))]
  dsimp only
  generalize hm : markFields (fun n => decide (n ∈ t.masterFields)) attr2field bmps.1 = master
  have hrow : ∀ n ∈ t.masterFields, n < 339 ∧ sdkFields n = attr2field n := by
    intro n hn
    rcases masterFields_sub hn with rfl | rfl | rfl | rfl | rfl | rfl | rfl <;> decide
  have hmaster : ∀ f, f ∈ master ↔ MasterField (ts ++ [t]) f := by
    intro f
    rw [← hm, mem_markFields, h.master f]
    simp only [MasterField, List.mem_append, List.mem_singleton, or_and_right, exists_or,
      exists_eq_left, decide_eq_true_eq]
    refine or_congr_right (exists_congr fun n => ⟨fun ⟨_, hn, hf⟩ => ?_, fun ⟨hn, hf⟩ => ?_⟩)
    · exact ⟨hn, (hrow n hn).2 ▸ hf⟩
    · exact ⟨(hrow n hn).1, hn, (hrow n hn).2 ▸ hf⟩
  have hfield : ∀ f, RowField (ts ++ [t]) f ↔ RowField ts f ∨
      ∃ n < 339, t.tableKeyBmp.getLsbD n ∧ f ∈ t.row n := by
    intro f
    simp only [RowField, List.mem_append, List.mem_singleton, or_and_right, exists_or,
      exists_eq_left]
  refine ⟨hmaster, fun f hf => ?_, fun f hf => ?_⟩
  · dsimp only at hf
    rw [mem_markFields] at hf
    rw [hfield]
    refine hf.imp (h.slave f) fun ⟨n, hn, hb, hf⟩ => ⟨n, hn, hb, ?_⟩
    rw [AclTable.row]
    by_cases hr : n = aclRangeTypeField
    · rwa [if_pos hr] at hf ⊢
    · rw [if_neg hr] at hf ⊢
      exact (List.mem_filter.mp hf).1
  · by_cases hfm : f ∈ master
    · exact .inr hfm
    dsimp only
    rw [mem_markFields]
    refine .inl (((hfield f).mp hf).imp (fun hf => ?_) ?_)
    · refine (h.row f hf).resolve_right fun hmf => hfm ?_
      rw [← hm]
      exact mem_markFields.mpr (.inl hmf)
    · rintro ⟨n, hn, hb, hf⟩
      refine ⟨n, hn, hb, ?_⟩
      rw [AclTable.row] at hf
      by_cases hr : n = aclRangeTypeField
      · rwa [if_pos hr] at hf ⊢
      · rw [if_neg hr] at hf ⊢
        exact List.mem_filter.mpr ⟨hf, decide_eq_true hfm⟩

theorem mapped_of_accepted (hok : ∀ t ∈ ts, t.Accepted) :
    Mapped ts (ts.foldl (fun b t => mappingSaiTableField t b) (∅, ∅)) := by
  induction ts using List.reverseRecOn with
  | nil => exact ⟨by simp [MasterField], nofun, fun f ⟨_, ht, _⟩ => absurd ht List.not_mem_nil⟩
  | append_singleton ts t ih =>
    rw [List.foldl_append]
    exact mapped_append (ih fun t ht => hok t (List.mem_append_left _ ht))
      (hok t (List.mem_append_right _ (List.mem_singleton_self t)))

/-! ## The first type -/

theorem tcamKeysHold_iff {ks : List AclKeyType} {mask : CtcFieldBmp} :
    tcamKeysHold master slave ks mask ↔ (∀ k ∈ ks, ∀ f ∈ master, k ∈ keysWith f) ∧
      mask ∪ slave.filter (fun f => ∃ k ∈ ks, k ∈ keysWith f) = slave := by
  induction ks generalizing mask with
  | nil => simp [tcamKeysHold]
  | cons k ks ih =>
    rw [tcamKeysHold]
    split
    · next hk =>
      rw [ih, List.forall_mem_cons, Finset.union_assoc, ← Finset.filter_or]
      simp only [List.exists_mem_cons_iff]
      exact and_congr_left' (iff_and_self.mpr fun _ => hk)
    · next hk =>
      simp only [Bool.false_eq_true, List.forall_mem_cons, false_iff]
      exact fun h => hk h.1.1

theorem holds_iff_covers (type : TcamLkupType) :
    tcamKeysHold master slave (type2key type) ∅ ↔ Covers (· ∈ master) (· ∈ slave) type := by
  rw [tcamKeysHold_iff, Covers, Finset.empty_union, Finset.filter_eq_self]

theorem CtcAclNums.keysOf_lkup (type : TcamLkupType) :
    nums.keysOf (nums.lkup type) = type2key type := by
  have hnum : ∀ type', (nums.lkup type' = nums.lkup type) = (type' = type) := fun _ =>
    propext nums.lkup_inj.eq_iff
  simp only [keysOf, hnum]
  cases type <;> rfl

theorem CtcAclNums.exists_of_keysOf {ii : Nat} (h : nums.keysOf ii ≠ []) :
    ∃ type, nums.lkup type = ii := by
  by_contra hno
  rw [keysOf, List.find?_eq_none.mpr fun type _ he => hno ⟨type, of_decide_eq_true he⟩] at h
  exact h rfl

variable (nums master slave) in
/-- The search finds the first type when L2_L3 covers the fields. -/
theorem mappingFieldsLookupType_first (hl2L3 : Covers (· ∈ master) (· ∈ slave) .l2L3) :
    ∃ type, mappingFieldsLookupType nums master slave = nums.lkup type ∧
      Covers (· ∈ master) (· ∈ slave) type ∧
      ∀ type', nums.lkup type' < nums.lkup type → ¬ Covers (· ∈ master) (· ∈ slave) type' := by
  have hhas : ∀ type, (nums.keysOf (nums.lkup type) ≠ [] && tcamKeysHold master slave
      (nums.keysOf (nums.lkup type)) ∅) = true ↔ Covers (· ∈ master) (· ∈ slave) type := by
    intro type
    rw [nums.keysOf_lkup, ← holds_iff_covers]
    cases type <;> simp [type2key]
  have hrange : ∀ type, nums.lkup type ∈
      List.range' (nums.lkup .l2) (nums.lkupMax - nums.lkup .l2) := by
    intro type
    have := nums.l2_le type
    have := nums.lkup_lt type
    rw [List.mem_range'_1]
    omega
  rw [mappingFieldsLookupType]
  cases hf : List.find? (fun ii => nums.keysOf ii ≠ [] && tcamKeysHold master slave (nums.keysOf ii)
      ∅) (List.range' (nums.lkup .l2) (nums.lkupMax - nums.lkup .l2)) with
  | none => exact absurd ((hhas _).mpr hl2L3) (List.find?_eq_none.mp hf _ (hrange _))
  | some ii =>
    obtain ⟨hii, -, hfirst⟩ := List.find?_range'_eq_some.mp hf
    obtain ⟨type, rfl⟩ := nums.exists_of_keysOf (of_decide_eq_true (Bool.and_eq_true_iff.mp hii).1)
    refine ⟨type, rfl, (hhas type).mp hii, fun type' hlt hcov => ?_⟩
    have hnot := hfirst _ (nums.l2_le type') hlt
    rw [(hhas type').mpr hcov] at hnot
    cases hnot

/-! ## Rows and fields -/

theorem covers_congr {master slave fields : CtcFieldKey → Prop} {type : TcamLkupType}
    (hsub : ∀ f, slave f → fields f) (hcov : ∀ f, fields f → slave f ∨ master f) :
    Covers master slave type ↔ Covers master fields type := by
  refine and_congr_right fun hm => ⟨fun h f hf => ?_, fun h f hf => h f (hsub f hf)⟩
  rcases hcov f hf with hs | hmf
  · exact h f hs
  · obtain ⟨k, hk⟩ : ∃ k, k ∈ type2key type := by cases type <;> simp [type2key]
    exact ⟨k, hk, hm k hk f hmf⟩

/-- A field that the key of L2 lacks, and no other type. -/
def OnlyL2Lacks (f : CtcFieldKey) : Prop :=
  ∀ type, (∃ k ∈ type2key type, k ∈ keysWith f) ↔ type ≠ .l2

variable {t : AclTable} {n : Nat} {f : CtcFieldKey}

theorem onlyL2Lacks_of (hn : n ∈ 33 :: noRow) (hf : f ∈ sdkFields n ++ attr2field n) :
    OnlyL2Lacks f := by
  have hall : ∀ n ∈ 33 :: noRow, ∀ f ∈ sdkFields n ++ attr2field n,
      ∀ type ∈ [TcamLkupType.l2, .l2L3, .l3, .l3Ext, .l2L3Ext],
        ((∃ k ∈ type2key type, k ∈ keysWith f) ↔ type ≠ .l2) := by
    decide
  exact fun type => hall n hn f hf type (by cases type <;> decide)

/-- A row is what the match field asks for, but for ECN and where there is no row. -/
theorem row_cases (t : AclTable) (n : Nat) :
    (n ∈ 33 :: noRow ∧ t.row n = attr2field n ∧ t.asks n = sdkFields n) ∨
      n ∉ 33 :: noRow ∧ t.row n = t.asks n := by
  rw [AclTable.row, AclTable.asks]
  by_cases h : n ∈ 33 :: noRow
  · have hr : n ≠ aclRangeTypeField := by
      rintro rfl
      revert h
      decide
    rw [if_neg hr, if_neg hr]
    exact .inl ⟨h, rfl, rfl⟩
  · refine .inr ⟨h, ?_⟩
    split
    · rfl
    simp only [noRow, List.mem_cons, List.mem_range'_1, not_or] at h
    rw [sdkFields, dif_neg (by omega)]
    · exact h.1
    · exact h.2.1

theorem asks_of_row (h : f ∈ t.row n) : f ∈ t.asks n ∨ OnlyL2Lacks f := by
  rcases row_cases t n with ⟨hin, hrow, -⟩ | ⟨-, heq⟩
  · exact .inr (onlyL2Lacks_of hin (List.mem_append_right _ (hrow ▸ h)))
  · exact .inl (heq ▸ h)

/-- The last match field asks for nothing. -/
theorem row_of_asks (hn : n < aclTableFieldNum) (h : f ∈ t.asks n) :
    n < 339 ∧ f ∈ t.row n ∨ OnlyL2Lacks f := by
  rcases row_cases t n with ⟨hin, -, hasks⟩ | ⟨-, heq⟩
  · exact .inr (onlyL2Lacks_of hin (List.mem_append_left _ (hasks ▸ h)))
  · refine .inl ⟨Nat.lt_of_le_of_ne (Nat.le_of_lt_succ hn) ?_, heq ▸ h⟩
    rintro rfl
    cases h

/-- The key of L2 has a row exactly when it has the fields of a match field with a row. -/
theorem mac_row_iff : (∀ f ∈ t.row n, .mac ∈ keysWith f) ↔
    (n ∉ noRow → ∀ f ∈ t.asks n, .mac ∈ keysWith f) := by
  rcases row_cases t n with ⟨hin, hrow, hasks⟩ | ⟨hno, heq⟩
  · rw [hrow, hasks]
    clear hrow hasks
    revert n
    decide
  · rw [heq]
    exact (imp_iff_right fun hin => hno (List.mem_cons_of_mem _ hin)).symm

theorem masterField_mem (h : MasterField ts f) : f ∈ [port, svlanId, cvlanId] := by
  obtain ⟨t, -, n, hn, hf⟩ := h
  rcases masterFields_sub hn with rfl | rfl | rfl | rfl | rfl | rfl | rfl <;>
    (revert f; decide)

/-- L2_L3 has every field. -/
theorem covers_l2L3 (slave : CtcFieldKey → Prop) : Covers (MasterField ts) slave .l2L3 := by
  refine ⟨fun k hk f hf => ?_, fun f _ => ?_⟩
  · exact (by decide : ∀ k ∈ type2key .l2L3, ∀ f ∈ [port, svlanId, cvlanId], k ∈ keysWith f)
      k hk f (masterField_mem hf)
  · cases f <;> simp [type2key, keysWith]

theorem covers_l2_iff {slave : CtcFieldKey → Prop} :
    Covers (MasterField ts) slave .l2 ↔ ∀ f, slave f → .mac ∈ keysWith f := by
  simp only [Covers, type2key, List.mem_singleton, forall_eq, exists_eq_left, and_iff_right_iff_imp]
  intro _ f hf
  exact (by decide : ∀ f ∈ [port, svlanId, cvlanId], .mac ∈ keysWith f) f (masterField_mem hf)

/-- For the other types the two lists ask for the same. -/
theorem covers_row_iff {type : TcamLkupType} (h : type ≠ .l2) :
    Covers (MasterField ts) (RowField ts) type ↔ Covers (MasterField ts) (AskedField ts) type := by
  refine and_congr_right fun _ => ⟨fun hrow f hf => ?_, fun hask f hf => ?_⟩
  · obtain ⟨t, ht, n, hn, hb, hf⟩ := hf
    rcases row_of_asks hn hf with ⟨hlt, hr⟩ | honly
    · exact hrow f ⟨t, ht, n, hlt, hb, hr⟩
    · exact (honly type).mpr h
  · obtain ⟨t, ht, n, hn, hb, hf⟩ := hf
    rcases asks_of_row hf with ha | honly
    · exact hask f ⟨t, ht, n, Nat.lt_succ_of_lt hn, hb, ha⟩
    · exact (honly type).mpr h

theorem covers_l2_of_asked (h : Covers (MasterField ts) (AskedField ts) .l2) :
    Covers (MasterField ts) (RowField ts) .l2 := by
  rw [covers_l2_iff] at h ⊢
  rintro f ⟨t, ht, n, hn, hb, hf⟩
  exact mac_row_iff.mpr (fun _ f hf => h f ⟨t, ht, n, Nat.lt_succ_of_lt hn, hb, hf⟩) f hf

theorem onlyNoRow_iff : OnlyNoRow ts ↔ Covers (MasterField ts) (RowField ts) .l2 ∧
    ¬ Covers (MasterField ts) (AskedField ts) .l2 := by
  rw [covers_l2_iff, covers_l2_iff]
  constructor
  · rintro ⟨hothers, t, ht, n, hn, hb⟩
    refine ⟨hothers, fun hask => ?_⟩
    have hlacks : ∀ n ∈ noRow, n < aclTableFieldNum ∧ n ≠ aclRangeTypeField ∧
        ∃ f ∈ sdkFields n, .mac ∉ keysWith f := by decide
    obtain ⟨hlt, hr, f, hf, hmac⟩ := hlacks n hn
    exact hmac (hask f ⟨t, ht, n, hlt, hb, by rwa [AclTable.asks, if_neg hr]⟩)
  · rintro ⟨hothers, hask⟩
    refine ⟨hothers, ?_⟩
    by_contra hno
    refine hask fun f ⟨t, ht, n, hn, hb, hf⟩ => mac_row_iff.mp (fun f hf => ?_)
      (fun hin => hno ⟨t, ht, n, hin, hb⟩) f hf
    by_cases hlt : n < 339
    · exact hothers f ⟨t, ht, n, hlt, hb, hf⟩
    · obtain rfl : n = 339 := Nat.le_antisymm (Nat.le_of_lt_succ hn) (Nat.le_of_not_lt hlt)
      cases hf

theorem slaveField_congr {type : TcamLkupType} :
    Covers (MasterField ts) (SlaveField ts) type ↔ Covers (MasterField ts) (AskedField ts) type :=
  covers_congr (fun _ hf => hf.1) fun f hf =>
    (Classical.em (MasterField ts f)).symm.imp (fun hm => ⟨hf, hm⟩) id

variable (nums) in
/-- What is found for accepted tables. -/
theorem fieldsLookupType_first (hok : ∀ t ∈ ts, t.Accepted) :
    ∃ type, nums.fieldsLookupType ts = BitVec.ofNat 32 (nums.lkup type) ∧
      Covers (MasterField ts) (RowField ts) type ∧
      ∀ type', nums.lkup type' < nums.lkup type →
        ¬ Covers (MasterField ts) (RowField ts) type' := by
  have hmapped := mapped_of_accepted hok
  rw [CtcAclNums.fieldsLookupType]
  generalize ts.foldl (fun b t => mappingSaiTableField t b) (∅, ∅) = bmps at hmapped ⊢
  have hcov : ∀ type, Covers (· ∈ bmps.1) (· ∈ bmps.2) type ↔
      Covers (MasterField ts) (RowField ts) type := by
    intro type
    rw [funext fun f => propext (hmapped.master f)]
    exact covers_congr hmapped.slave fun f hf => (hmapped.row f hf).imp_right (hmapped.master f).mp
  obtain ⟨type, heq, hfound, hfirst⟩ := mappingFieldsLookupType_first nums _ _
    ((hcov _).mpr (covers_l2L3 _))
  simp only [hcov] at hfound hfirst
  exact ⟨type, congrArg (BitVec.ofNat 32) heq, hfound, hfirst⟩

theorem toNat_lkup (type : TcamLkupType) :
    (BitVec.ofNat 32 (nums.lkup type)).toNat = nums.lkup type :=
  Nat.mod_eq_of_lt ((nums.lkup_lt type).trans nums.lkupMax_lt)

variable (nums) in
/-- The type that is found is right unless only fields without a row ask for more than L2. -/
theorem fieldsLookupType_right_iff (hok : ∀ t ∈ ts, t.Accepted) :
    LookupTypeRight nums ts (nums.fieldsLookupType ts) ↔ ¬ OnlyNoRow ts := by
  obtain ⟨type, heq, hfound, hfirst⟩ := fieldsLookupType_first nums hok
  have hinside : ∀ f, nums.field f < 32 * 11 := fun f =>
    Nat.lt_of_lt_of_le (nums.field_lt f) nums.fieldNum_le
  rw [heq, onlyNoRow_iff, not_and, not_not]
  constructor
  · rintro ⟨⟨type', he, hright, -⟩, -⟩ hl2
    have hnat := congrArg BitVec.toNat he
    rw [toNat_lkup, toNat_lkup] at hnat
    obtain rfl := nums.lkup_inj hnat
    obtain rfl : type = .l2 := by
      by_contra hne
      exact hfirst .l2 (Nat.lt_of_le_of_ne (nums.l2_le type) fun h => hne (nums.lkup_inj h).symm) hl2
    exact slaveField_congr.mp hright
  · intro hl2
    have hsame : ∀ type, Covers (MasterField ts) (RowField ts) type ↔
        Covers (MasterField ts) (SlaveField ts) type := by
      intro type
      rw [slaveField_congr]
      by_cases h : type = .l2
      · subst h
        exact ⟨hl2, covers_l2_of_asked⟩
      · exact covers_row_iff h
    refine ⟨⟨type, rfl, (hsame type).mp hfound, fun type' hlt => ?_⟩, hinside⟩
    rw [← hsame]
    exact hfirst type' hlt

/-- More tables never get a smaller lookup type, in whatever order they come. -/
theorem fieldsLookupType_mono {ts' : List AclTable} (hok : ∀ t ∈ ts', t.Accepted)
    (hsub : ts ⊆ ts') :
    (nums.fieldsLookupType ts).toNat ≤ (nums.fieldsLookupType ts').toNat := by
  obtain ⟨type, heq, -, hfirst⟩ := fieldsLookupType_first nums fun t ht => hok t (hsub ht)
  obtain ⟨type', heq', ⟨hmaster, hrow⟩, -⟩ := fieldsLookupType_first nums hok
  rw [heq, heq', toNat_lkup, toNat_lkup]
  by_contra hlt
  refine hfirst type' (Nat.lt_of_not_le hlt) ⟨fun k hk f hf => ?_, fun f hf => ?_⟩
  · obtain ⟨t, ht, hf⟩ := hf
    exact hmaster k hk f ⟨t, hsub ht, hf⟩
  · obtain ⟨t, ht, hf⟩ := hf
    exact hrow f ⟨t, hsub ht, hf⟩

/-! ## Tables and groups -/

/-- The fields of an accepted table, and of a group of accepted tables, are always covered by
some type; the one that is stored is the first unless only fields without a row ask for more
than the key of L2. -/
theorem lookupType_iff (nums : CtcAclNums) (ac : AclChip) :
    (∀ ts, ∃ type, Covers (MasterField ts) (SlaveField ts) type) ∧
    (∀ t : AclTable, t.Accepted →
      ((∃ t', mappingTableLookupType (nums.chip ac) t = (.success, t') ∧
        LookupTypeRight nums [t] t'.lookupType) ↔ ¬ OnlyNoRow [t])) ∧
    ∀ (db : AclDb (nums.chip ac)) (g : AclGroup) (ts : List AclTable),
      g.memberList.map (fun m => db.tables.lookup m.tableId) = ts.map some →
      (∀ t ∈ ts, t.Accepted) → checkGroupKeyField db g g.memberList = .success →
      ((∃ g', mappingGroupLookupType db g = (.success, g') ∧
        LookupTypeRight nums ts g'.lookupType) ↔ ¬ OnlyNoRow ts) := by
  refine ⟨fun ts => ⟨.l2L3, covers_l2L3 _⟩, fun t hok => ?_, fun db g ts hts hok hcheck => ?_⟩
  · rw [← fieldsLookupType_right_iff nums fun _ ht => List.mem_singleton.mp ht ▸ hok,
      mappingTableLookupType, show checkMasterKeyField _ _ _ = _ from hok]
    simp only [Prod.mk.injEq, true_and, exists_eq_left']
    rfl
  · have hstored : ∃ g', mappingGroupLookupType db g = (.success, g') ∧
        g'.lookupType = nums.fieldsLookupType ts := by
      rw [mappingGroupLookupType]
      by_cases hnil : g.memberList = []
      · rw [if_pos hnil]
        rw [hnil] at hts
        obtain rfl := List.map_eq_nil_iff.mp hts.symm
        refine ⟨_, rfl, congrArg (BitVec.ofNat 32) ?_⟩
        obtain ⟨type, heq, -, hfirst⟩ := mappingFieldsLookupType_first nums ∅ ∅
          ⟨by simp, by simp⟩
        refine .trans (Nat.le_antisymm (nums.l2_le type) (Nat.le_of_not_lt fun h => ?_)) heq.symm
        exact hfirst .l2 h ⟨by simp, by simp⟩
      · rw [if_neg hnil, hcheck]
        refine ⟨_, rfl, congrArg nums.fieldsLookupType ?_⟩
        have h := congrArg (List.filterMap id) hts
        simpa [List.filterMap_map] using h
    obtain ⟨g', heq, htype⟩ := hstored
    rw [← fieldsLookupType_right_iff nums hok, heq]
    simp only [Prod.mk.injEq, true_and, exists_eq_left', htype]

/-- Numbers of an SDK. -/
def CtcAclNums.sdk : CtcAclNums where
  lkup
    | .l2 => 0
    | .l2L3 => 1
    | .l3 => 2
    | .l3Ext => 4
    | .l2L3Ext => 5
  lkupMax := 12
  lkup_inj := by rintro (_ | _) (_ | _) <;> simp
  l2_le _ := Nat.zero_le _
  lkup_lt := by rintro (_ | _) <;> decide
  lkupMax_lt := by decide
  fieldNum := 50
  field
    | mpls i => 38 + i
    | f => f.ctorIdx
  field_lt := by rintro ⟨⟩ <;> simp [CtcFieldKey.ctorIdx]; omega
  fieldNum_le := by decide

/-- A table for ports, on ingress. -/
def AclTable.ofFields (bmp : BitVec 352) : AclTable :=
  ⟨.ingress, 1, 128, 0, 0, bmp, 0, [], [], []⟩

theorem ofFields_accepted : (AclTable.ofFields 0x4000).Accepted ∧
    (AclTable.ofFields 0x4100).Accepted ∧ (AclTable.ofFields 0x4000000004000).Accepted := by
  unfold AclTable.Accepted
  decide +kernel

theorem inPort_not_onlyNoRow : ¬ OnlyNoRow [.ofFields 0x4000] := by
  rintro ⟨-, t, ht, n, hn, hb⟩
  cases List.mem_singleton.mp ht
  have hbit : (0x4000 : BitVec 352) = BitVec.twoPow 352 14 := by simp [BitVec.twoPow]
  simp [AclTable.ofFields, hbit] at hb
  subst hb
  revert hn
  decide

/-- IN_PORT, in a table and in a group of this table. -/
theorem lookupType_iff_inPort :
    let t := AclTable.ofFields 0x4000
    (∃ t', mappingTableLookupType (CtcAclNums.sdk.chip .plain) t = (.success, t') ∧
      LookupTypeRight .sdk [t] t'.lookupType) ∧
    ∃ g', mappingGroupLookupType { AclDb.initial (CtcAclNums.sdk.chip .plain) with
        tables := (∅ : Table Oid AclTable).insert Oid.null t }
        ⟨.ingress, 0, 1, 0, [⟨Oid.null, 0⟩], []⟩ = (.success, g') ∧
      LookupTypeRight .sdk [t] g'.lookupType := by
  have hok := ofFields_accepted.1
  obtain ⟨-, htable, hgroup⟩ := lookupType_iff .sdk .plain
  have hcheck : checkMasterKeyField 0x4000 .ingress 1 = .success := hok
  refine ⟨(htable _ hok).mpr inPort_not_onlyNoRow, (hgroup _ _ _ rfl ?_ ?_).mpr
    inPort_not_onlyNoRow⟩
  · exact fun t ht => List.mem_singleton.mp ht ▸ hok
  · simp only [checkGroupKeyField, AList.lookup_insert, AclTable.ofFields, hcheck]

theorem fieldsLookupType_mono_two :
    (CtcAclNums.sdk.fieldsLookupType [.ofFields 0x4000]).toNat ≤
      (CtcAclNums.sdk.fieldsLookupType [.ofFields 0x4100, .ofFields 0x4000]).toNat :=
  fieldsLookupType_mono (List.forall_mem_cons.mpr ⟨ofFields_accepted.2.1,
    List.forall_mem_singleton.mpr ofFields_accepted.1⟩) (List.subset_cons_self ..)

/-- IN_PORT and MPLS_LABEL0_LABEL: the type is L2, whose key has no label. -/
theorem lookupType_not_right : ¬ ∀ (nums : CtcAclNums) (ac : AclChip) (t : AclTable), t.Accepted →
    ∃ t', mappingTableLookupType (nums.chip ac) t = (.success, t') ∧
      LookupTypeRight nums [t] t'.lookupType := by
  intro h
  have hbmp : (0x4000000004000 : BitVec 352) = BitVec.twoPow 352 14 ||| BitVec.twoPow 352 50 := by
    simp [BitVec.twoPow]
  have hok := ofFields_accepted.2.2
  obtain ⟨t', heq, hright⟩ := h .sdk .plain _ hok
  rw [mappingTableLookupType, show checkMasterKeyField _ _ _ = _ from hok] at heq
  cases heq
  refine (fieldsLookupType_right_iff .sdk fun _ ht => List.mem_singleton.mp ht ▸ hok).mp hright
    ⟨?_, _, List.mem_singleton_self _, 50, by decide, by simp [AclTable.ofFields, hbmp]⟩
  rintro f ⟨t, ht, n, hn, hb, hf⟩
  cases List.mem_singleton.mp ht
  simp [AclTable.ofFields, hbmp] at hb
  rcases hb with rfl | rfl
  · cases List.mem_singleton.mp hf
    decide
  · cases hf

end CtcSai
