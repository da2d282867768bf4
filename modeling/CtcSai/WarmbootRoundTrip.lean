/-
# `WarmbootRoundTrip` — a synchronisation followed by a reload

What is written for a sub-type is its objects in the order of the traversal,
whatever the batches; a list read back page by page is that list, whatever the
pages.  Two variables live longer than a sub-type: the `lchip` that the
callbacks are looked up by, which is never set, and the `data` of a reload,
which a sub-type without data leaves as the last one with data left it.  And a
callback of the reload may write into the data of the object it is called for.
-/
import CtcSai.Warmboot
import Mathlib.Data.List.Nodup

namespace CtcSai

open Buffer Function

/-! ## The property and its condition -/

/-- What a reload owes for an object: without data the pointer is NULL. -/
def restored (db : WbDb) (key : WbKey) (o : WbObject) : WbObject :=
  ⟨o.key, if (db.info key).dataLen = 0 then none else o.data⟩

/-- The objects fit the buffers, and are of the registered lengths. -/
structure WbDb.WellFormed (P : WbParams) (lchip : WbChip) (db : WbDb) : Prop where
  buffer : ∀ key, P.len db key ≤ P.bufferLength
  size : ∀ key, P.len db key ≤ wbDbSize
  key_len : ∀ key, ∀ o ∈ db.objects key, o.key.length = P.keyLen key.type
  data_len : ∀ key, ∀ o ∈ db.objects key, (db.info key).dataLen ≠ 0 →
    ∃ data, o.data = some data ∧ data.length = (db.info key).dataLen
  nodup : ∀ key, ((db.objects key).map WbObject.key).Nodup
  switch : (db.objects ⟨.oid, ObjectType.switch.ctorIdx⟩).any (·.key = P.switchKey lchip)

/-- The calls owed for the objects of a sub-type. -/
def callsFor (lchip : WbChip) (cb : WbKey → Bool) (db : WbDb) (key : WbKey) : List WbCall :=
  if cb key then (db.objects key).map fun o => ⟨lchip, key, o⟩ else []

/-- The registrations without any object. -/
def WbDb.cleared (db : WbDb) : WbDb := { db with objects := fun _ => [] }

/-- After both calls every table holds what it held, each key once, and every
object has been handed to the callback of its sub-type for this chip. -/
def WbRoundTrip (P : WbParams) (g : SaiDb) (lchip : WbChip) (db : WbDb) : Prop :=
  ∃ r calls db', warmbootSync P g lchip = some (.success, r, calls) ∧
    warmbootReload P db.cleared lchip r = some db' ∧
    (∀ key ∈ wbKeys, (db'.objects key).Perm ((db.objects key).map (restored db key)) ∧
      ((db'.objects key).map WbObject.key).Nodup) ∧
    calls.Perm (wbKeys.flatMap (callsFor lchip (fun key => (db.info key).wbSyncCb) db))

/-- No object is of a sub-type with a callback, on this chip or on chip 0. -/
def NoCallbacks (g : SaiDb) (db : WbDb) : Prop :=
  ∀ key ∈ wbKeys, db.objects key ≠ [] → (db.info key).wbSyncCb = false ∧
    ∃ db₀, g 0 = some db₀ ∧ (db₀.info key).wbSyncCb = false

/-- No object without data comes after an object with data. -/
def DataLast (db : WbDb) : Prop :=
  ∀ pre key post, wbKeys = pre ++ key :: post → (db.info key).dataLen = 0 →
    db.objects key ≠ [] → ∀ k ∈ pre, (db.info k).dataLen ≠ 0 → db.objects k = []

/-- The callbacks of the reload leave the data of every object alone. -/
def DataKept (db : WbDb) : Prop :=
  ∀ key ∈ wbKeys, (db.info key).dataLen ≠ 0 →
    ∀ o ∈ db.objects key, o.data.map ((db.info key).wbReloadCb o.key) = o.data

/-! ## Redis -/

theorem foldl_lpush (r : Redis) (app : AppId) (values : List Blob) :
    values.foldl (fun r value => lpush r app value) r = update r app (values.reverse ++ r app) := by
  induction values generalizing r with
  | nil => simp
  | cons value values ih =>
    rw [List.foldl_cons, ih]
    simp [lpush]

variable {r : Redis}

theorem addEntry_eq {app : AppId} {buffer : Nat → BitVec 8} {len cnt : Nat} (h : len ≤ wbDbSize) :
    addEntry r app buffer len cnt =
      some (update r app ((records buffer len cnt).reverse ++ r app)) := by
  have hlt : ¬ wbDbSize < len := by omega
  rw [addEntry, if_neg hlt, foldl_lpush]

theorem lrange_page (l : List Blob) (cursor : Nat) {n : Nat} (hn : 0 < n) :
    lrange l cursor (cursor + n - 1) = (l.drop cursor).take n := by
  have h1 : ¬ ((cursor : Int) < 0) := by omega
  have h2 : ¬ ((cursor : Int) + n - 1 < 0) := by omega
  have h3 : ((cursor : Int) + n - 1 + 1 - max (cursor : Int) 0).toNat = n := by omega
  simp only [lrange, if_neg h1, if_neg h2, h3, Int.toNat_natCast]

/-! ## Versions -/

@[simp] theorem bytesWord_wordBytes (w : BitVec 32) : bytesWord (wordBytes w) = w := by
  simp only [bytesWord, wordBytes, List.getD_cons_zero, List.getD_cons_succ]
  grind

theorem wordBytes_inj {v w : BitVec 32} : wordBytes v = wordBytes w ↔ v = w := by
  constructor
  · intro h
    have hb := congrArg bytesWord h
    simpa using hb
  · rintro rfl
    rfl

@[simp] theorem length_wordBytes (w : BitVec 32) : (wordBytes w).length = 4 := rfl

theorem subType_lt {key : WbKey} (h : key ∈ wbKeys) : key.subType < 95 := by
  simp only [wbKeys, List.mem_append, List.mem_map, List.mem_range] at h
  rcases h with (⟨i, hi, rfl⟩ | ⟨i, hi, rfl⟩) | ⟨i, hi, rfl⟩
  · exact hi
  · show i < 95
    omega
  · show i < 95
    omega

theorem nodup_wbKeys : wbKeys.Nodup := by
  have hmap : ∀ (t : WbType) (n : Nat), ((List.range n).map fun s => (⟨t, s⟩ : WbKey)).Nodup :=
    fun t n => List.nodup_range.map fun _ _ h => congrArg WbKey.subType h
  rw [wbKeys, List.nodup_append, List.nodup_append]
  exact ⟨⟨hmap _ _, hmap _ _, by grind⟩, hmap _ _, by grind⟩

theorem versionKey_inj {key key' : WbKey} (h : key ∈ wbKeys) (h' : key' ∈ wbKeys)
    (heq : versionKey key = versionKey key') : key = key' := by
  have hs := subType_lt h
  have hs' := subType_lt h'
  have hn := congrArg BitVec.toNat heq
  rcases key with ⟨t, s⟩
  rcases key' with ⟨t', s'⟩
  have hval : ∀ (t : WbType) (s : Nat), s < 95 →
      (versionKey ⟨t, s⟩).toNat = t.ctorIdx * 65536 + s := by
    intro t s hs
    have ht : t.ctorIdx < 3 := by cases t <;> decide
    simp only [versionKey, BitVec.toNat_add, BitVec.toNat_shiftLeft, BitVec.toNat_ofNat,
      Nat.shiftLeft_eq]
    omega
  rw [hval t s hs, hval t' s' hs'] at hn
  have ht : t.ctorIdx = t'.ctorIdx := by
    have hs95 : s < 95 := hs
    have hs95' : s' < 95 := hs'
    omega
  have hst : s = s' := by omega
  have htt : t = t' := by cases t <;> cases t' <;> first | rfl | cases ht
  rw [htt, hst]

/-! ## Synchronisation -/

def encoded (db : WbDb) (key : WbKey) (o : WbObject) : Blob :=
  o.key ++ if (db.info key).dataLen = 0 then [] else o.data.getD []

/-- What has been written of a sub-type, the last records still in the buffer. -/
def SyncState.written (st : SyncState) (app : AppId) (len : Nat) : List Blob :=
  (st.redis app).reverse ++ records st.buffer len st.validCnt

variable {P : WbParams} {g : SaiDb} {db pdb : WbDb} {lchip p : WbChip} {key : WbKey}
variable {o : WbObject} {keys : List WbKey}

theorem WbParams.len_pos (P : WbParams) (db : WbDb) (key : WbKey) : 0 < P.len db key :=
  Nat.lt_of_lt_of_le (P.keyLen_pos key.type) (Nat.le_add_right ..)

theorem WbDb.WellFormed.cnt_pos (hwf : db.WellFormed P lchip) (key : WbKey) :
    0 < P.bufferLength / P.len db key :=
  Nat.div_pos (hwf.buffer key) (P.len_pos db key)

theorem WbDb.WellFormed.copied (hwf : db.WellFormed P lchip) (ho : o ∈ db.objects key)
    (buffer : Nat → BitVec 8) (cnt : Nat) :
    ∃ buffer', (if (db.info key).dataLen = 0 then
        some (memcpy buffer (cnt * P.len db key) (o.key.take (P.keyLen key.type)))
      else o.data.map fun data =>
        memcpy (memcpy buffer (cnt * P.len db key) (o.key.take (P.keyLen key.type)))
          (cnt * P.len db key + P.keyLen key.type) (data.take (db.info key).dataLen)) =
        some buffer' ∧
      records buffer' (P.len db key) (cnt + 1) =
        records buffer (P.len db key) cnt ++ [encoded db key o] := by
  have hk := hwf.key_len key o ho
  by_cases hd : (db.info key).dataLen = 0
  · have hlen : o.key.length + ([] : Blob).length = P.len db key := by
      simp [WbParams.len, hd, hk]
    have hrec := records_memcpy buffer cnt hlen
    refine ⟨memcpy buffer (cnt * P.len db key) o.key, ?_, ?_⟩
    · simp [hd, ← hk]
    · simpa [encoded, hd] using hrec
  obtain ⟨data, hdata, hdlen⟩ := hwf.data_len key o ho hd
  have hlen : o.key.length + data.length = P.len db key := by
    simp [WbParams.len, hdlen, hk]
  have hrec := records_memcpy buffer cnt hlen
  refine ⟨memcpy (memcpy buffer (cnt * P.len db key) o.key)
    (cnt * P.len db key + o.key.length) data, ?_, ?_⟩
  · rw [if_neg hd, hdata, Option.map_some, ← hk, ← hdlen, List.take_length, List.take_length]
  · simpa [encoded, hd, hdata] using hrec

/-- One object: it joins what has been written, and its callback is called. -/
theorem warmbootSyncCb_success (hwf : db.WellFormed P lchip) (hg : g p = some pdb)
    {o : WbObject} (ho : o ∈ db.objects key) {st : SyncState}
    (hcnt : st.validCnt < P.bufferLength / P.len db key) :
    ∃ st', warmbootSyncCb P g db lchip p key st o = some (.success, st') ∧
      st'.written (.objects lchip key) (P.len db key) =
        st.written (.objects lchip key) (P.len db key) ++ [encoded db key o] ∧
      st'.validCnt < P.bufferLength / P.len db key ∧
      (∀ app, app ≠ .objects lchip key → st'.redis app = st.redis app) ∧
      st'.calls = st.calls ++ if (pdb.info key).wbSyncCb then [⟨p, key, o⟩] else [] := by
  obtain ⟨buffer', hcopy, hrec⟩ := hwf.copied ho st.buffer st.validCnt
  have hcomm : (db.info key).dataLen + P.keyLen key.type = P.len db key := Nat.add_comm ..
  have hlen : P.keyLen key.type + (db.info key).dataLen = P.len db key := rfl
  have hsize := hwf.size key
  have hpos := hwf.cnt_pos key
  unfold warmbootSyncCb
  simp only [hcomm, hlen, hcopy, hg]
  by_cases hfull : st.validCnt + 1 = P.bufferLength / P.len db key
  · simp only [if_pos hfull, addEntry_eq hsize, Option.map_some]
    refine ⟨_, rfl, ?_, ?_, ?_, ?_⟩
    · split <;> simp [SyncState.written, hrec]
    · split <;> exact hpos
    · intro app happ
      split <;> simp [update_of_ne happ]
    · split <;> simp
  simp only [if_neg hfull]
  refine ⟨_, rfl, ?_, ?_, ?_, ?_⟩
  · split <;> simp [SyncState.written, hrec]
  · split
    · show st.validCnt + 1 < _
      omega
    · show st.validCnt + 1 < _
      omega
  · intro app _
    split <;> rfl
  · split <;> simp

/-- A traversal writes every object of the sub-type, whatever the batches. -/
theorem syncObjects_success (hwf : db.WellFormed P lchip) (hg : g p = some pdb)
    (os : List WbObject) (hos : ∀ o ∈ os, o ∈ db.objects key) (st : SyncState)
    (hcnt : st.validCnt < P.bufferLength / P.len db key) :
    ∃ st', syncObjects P g db lchip p key os st = some (.success, st') ∧
      st'.written (.objects lchip key) (P.len db key) =
        st.written (.objects lchip key) (P.len db key) ++ os.map (encoded db key) ∧
      (∀ app, app ≠ .objects lchip key → st'.redis app = st.redis app) ∧
      st'.calls =
        st.calls ++ if (pdb.info key).wbSyncCb then os.map fun o => ⟨p, key, o⟩ else [] := by
  induction os generalizing st with
  | nil => exact ⟨st, rfl, by simp, fun _ _ => rfl, by simp⟩
  | cons o os ih =>
    obtain ⟨st₁, h1, hw1, hc1, hr1, hcalls1⟩ :=
      warmbootSyncCb_success hwf hg (hos o (List.mem_cons_self ..)) hcnt
    obtain ⟨st₂, h2, hw2, hr2, hcalls2⟩ := ih (fun x hx => hos x (List.mem_cons_of_mem _ hx)) st₁ hc1
    refine ⟨st₂, ?_, ?_, ?_, ?_⟩
    · simp only [syncObjects, h1, h2]
    · rw [hw2, hw1]
      simp
    · intro app happ
      rw [hr2 app happ, hr1 app happ]
    · rw [hcalls2, hcalls1]
      split <;> simp

theorem syncObjects_none (hwf : db.WellFormed P lchip) (hg : g p = none) (ho : o ∈ db.objects key)
    (os : List WbObject) (st : SyncState) :
    syncObjects P g db lchip p key (o :: os) st = none := by
  obtain ⟨buffer', hcopy, -⟩ := hwf.copied ho st.buffer st.validCnt
  have hcomm : (db.info key).dataLen + P.keyLen key.type = P.len db key := Nat.add_comm ..
  have hlen : P.keyLen key.type + (db.info key).dataLen = P.len db key := rfl
  have hsize := hwf.size key
  have hnone : warmbootSyncCb P g db lchip p key st o = none := by
    unfold warmbootSyncCb
    simp only [hcomm, hlen, hcopy, hg]
    by_cases hfull : st.validCnt + 1 = P.bufferLength / P.len db key
    · simp only [if_pos hfull, addEntry_eq hsize, Option.map_some]
    · simp only [if_neg hfull]
  simp only [syncObjects, hnone]

def versionRecord (db : WbDb) (key : WbKey) : Blob :=
  wordBytes (versionKey key) ++ wordBytes (db.info key).version

@[simp] theorem take_versionRecord (db : WbDb) (key : WbKey) :
    (versionRecord db key).take 4 = wordBytes (versionKey key) := List.take_left' rfl

@[simp] theorem drop_versionRecord (db : WbDb) (key : WbKey) :
    (versionRecord db key).drop 4 = wordBytes (db.info key).version := List.drop_left' rfl

theorem syncVersion_eq (db : WbDb) (lchip : WbChip) (key : WbKey) (r : Redis) :
    syncVersion db lchip key r = some (lpush r (.version lchip) (versionRecord db key)) := by
  rfl

theorem syncKey_success (hwf : db.WellFormed P lchip) (hg : g p = some pdb) (r : Redis)
    (calls : List WbCall) (hr : r (.objects lchip key) = []) :
    ∃ r', syncKey P g db lchip p r calls key =
        some (.success, r', calls ++ callsFor p (fun key => (pdb.info key).wbSyncCb) db key) ∧
      r' (.objects lchip key) = ((db.objects key).map (encoded db key)).reverse ∧
      r' (.version lchip) = versionRecord db key :: r (.version lchip) ∧
      ∀ key', key' ≠ key → r' (.objects lchip key') = r (.objects lchip key') := by
  have hcnt := hwf.cnt_pos key
  obtain ⟨st, hst, hw, hothers, hcalls⟩ := syncObjects_success hwf hg (db.objects key)
    (fun _ h => h) ⟨fun _ => 0, 0, lpush r (.version lchip) (versionRecord db key), calls⟩ hcnt
  have hver : st.redis (.version lchip) = versionRecord db key :: r (.version lchip) := by
    rw [hothers _ (by simp)]
    simp [lpush]
  have hframe : ∀ key', key' ≠ key →
      st.redis (.objects lchip key') = r (.objects lchip key') := by
    intro key' hne
    rw [hothers _ (by simpa using hne)]
    simp [lpush, update_of_ne]
  have hwritten : (st.redis (.objects lchip key)).reverse ++
      records st.buffer (P.len db key) st.validCnt = (db.objects key).map (encoded db key) := by
    simpa [SyncState.written, lpush, hr] using hw
  have hcalls' : st.calls = calls ++ callsFor p (fun key => (pdb.info key).wbSyncCb) db key := hcalls
  unfold syncKey
  simp only [syncVersion_eq, hst, addEntry_eq (hwf.size key)]
  by_cases hlast : 0 < st.validCnt
  · simp only [if_pos hlast]
    refine ⟨_, by rw [hcalls'], ?_, ?_, ?_⟩
    · rw [update_self, ← hwritten, List.reverse_append, List.reverse_reverse]
    · rw [update_of_ne (by simp), hver]
    · intro key' hne
      rw [update_of_ne (by simpa using hne), hframe key' hne]
  have hzero : st.validCnt = 0 := by omega
  simp only [if_neg hlast]
  refine ⟨_, by rw [hcalls'], ?_, hver, hframe⟩
  rw [← hwritten, hzero]
  simp

/-- All sub-types of a list: what redis holds of each, the versions, and the calls. -/
theorem syncKeys_success (hwf : db.WellFormed P lchip) (hg : g p = some pdb) (hnd : keys.Nodup)
    (r : Redis) (calls : List WbCall) (hr : ∀ key ∈ keys, r (.objects lchip key) = []) :
    ∃ r', syncKeys P g db lchip p keys r calls = some (.success, r',
        calls ++ keys.flatMap (callsFor p (fun key => (pdb.info key).wbSyncCb) db)) ∧
      (∀ key ∈ keys, r' (.objects lchip key) = ((db.objects key).map (encoded db key)).reverse) ∧
      r' (.version lchip) = (keys.map (versionRecord db)).reverse ++ r (.version lchip) ∧
      ∀ key, key ∉ keys → r' (.objects lchip key) = r (.objects lchip key) := by
  induction keys generalizing r calls with
  | nil => exact ⟨r, by simp [syncKeys], by simp, by simp, fun _ _ => rfl⟩
  | cons key keys ih =>
    obtain ⟨hkey, hnd'⟩ := List.nodup_cons.mp hnd
    obtain ⟨r₁, h1, ho1, hv1, hf1⟩ :=
      syncKey_success hwf hg r calls (hr key (List.mem_cons_self ..))
    have hne : ∀ k ∈ keys, k ≠ key := fun k hk heq => hkey (heq ▸ hk)
    obtain ⟨r₂, h2, ho2, hv2, hf2⟩ := ih hnd' r₁
      (calls ++ callsFor p (fun key => (pdb.info key).wbSyncCb) db key) fun k hk => by
      rw [hf1 k (hne k hk)]
      exact hr k (List.mem_cons_of_mem _ hk)
    refine ⟨r₂, ?_, ?_, ?_, ?_⟩
    · simp only [syncKeys, h1, h2]
      simp
    · intro k hk
      rcases List.mem_cons.mp hk with rfl | hk
      · rw [hf2 k hkey, ho1]
      · exact ho2 k hk
    · rw [hv2, hv1]
      simp
    · intro k hk
      rw [List.mem_cons, not_or] at hk
      rw [hf2 k hk.2, hf1 k hk.1]

/-- Without a database for the chip that is looked up there is no result. -/
theorem syncKeys_none (hwf : db.WellFormed P lchip) (hg : g p = none) (hkey : key ∈ keys)
    (hne : db.objects key ≠ []) (r : Redis) (calls : List WbCall) {r' : Redis}
    {calls' : List WbCall} :
    syncKeys P g db lchip p keys r calls ≠ some (.success, r', calls') := by
  induction keys generalizing r calls with
  | nil => exact absurd hkey (List.not_mem_nil)
  | cons k keys ih =>
    intro h
    simp only [syncKeys] at h
    cases hos : db.objects k with
    | cons o os =>
      have ho : o ∈ db.objects k := by simp [hos]
      have hnone : syncKey P g db lchip p r calls k = none := by
        simp only [syncKey, syncVersion_eq, hos, syncObjects_none hwf hg ho]
      rw [hnone] at h
      exact nomatch h
    | nil =>
      have hk : key ∈ keys := by
        rcases List.mem_cons.mp hkey with rfl | hk
        · exact absurd hos hne
        · exact hk
      split at h
      · exact ih hk _ _ h
      · next hother => exact hother _ _ h

/-! ## Versions are found -/

theorem reloadVersionCheck_written (hkey : key ∈ wbKeys)
    (hr : r (.version lchip) = (wbKeys.map (versionRecord db)).reverse) :
    reloadVersionCheck P db lchip key r = some true := by
  have hlen : (r (.version lchip)).take 256 = r (.version lchip) := by
    apply List.take_of_length_le
    rw [hr, List.length_reverse, List.length_map]
    decide
  have hfind : (r (.version lchip)).find?
      (fun value => value.take (wordBytes (versionKey key)).length = wordBytes (versionKey key)) =
        some (versionRecord db key) := by
    cases hf : (r (.version lchip)).find? (fun value =>
        value.take (wordBytes (versionKey key)).length = wordBytes (versionKey key)) with
    | none =>
      have hmem : versionRecord db key ∈ r (.version lchip) := by
        rw [hr]
        exact List.mem_reverse.mpr (List.mem_map_of_mem hkey)
      exact absurd (List.find?_eq_none.mp hf _ hmem) (by simp)
    | some value =>
      have hmem := List.mem_of_find?_eq_some hf
      have hval := List.find?_some hf
      rw [hr, List.mem_reverse, List.mem_map] at hmem
      obtain ⟨key', hkey', rfl⟩ := hmem
      have heq : wordBytes (versionKey key') = wordBytes (versionKey key) := by
        simpa using hval
      rw [versionKey_inj hkey' hkey (wordBytes_inj.mp heq)]
  unfold reloadVersionCheck queryEntryByKey
  rw [hlen, hfind]
  simp [P.versionCheck_self]

/-! ## Reload -/

def absorb (P : WbParams) (db : WbDb) (key : WbKey) (st : ReloadState) (value : Blob) :
    ReloadState :=
  let data := if (db.info key).dataLen = 0 then st.data
    else some ((db.info key).wbReloadCb (value.take (P.keyLen key.type))
      (value.drop (P.keyLen key.type)))
  { st with
    data := data
    objects := update st.objects key
      (⟨value.take (P.keyLen key.type), data⟩ :: st.objects key) }

theorem reloadObject_eq (st : ReloadState) (i : Nat) : reloadObject P db key st i =
    absorb P db key st (slice st.buffer (i * P.len db key) (P.len db key)) := by
  have hslice := slice_append st.buffer (i * P.len db key) (P.keyLen key.type) (db.info key).dataLen
  change slice st.buffer (i * P.len db key) (P.len db key) = _ at hslice
  unfold reloadObject absorb
  rw [hslice, List.take_left' (length_slice ..), List.drop_left' (length_slice ..)]
  rfl

theorem foldl_absorb_buffer (values : List Blob) (st : ReloadState) (buffer : Nat → BitVec 8) :
    values.foldl (absorb P db key) { st with buffer := buffer } =
      { values.foldl (absorb P db key) st with buffer := buffer } := by
  induction values generalizing st with
  | nil => rfl
  | cons value values ih =>
    rw [List.foldl_cons, List.foldl_cons, ← ih]
    rfl

theorem buffer_foldl_absorb (values : List Blob) (st : ReloadState) :
    (values.foldl (absorb P db key) st).buffer = st.buffer := by
  induction values generalizing st with
  | nil => rfl
  | cons value values ih => exact ih (absorb P db key st value)

theorem foldl_reloadObject (cnt : Nat) (st : ReloadState) :
    (List.range cnt).foldl (reloadObject P db key) st =
      (records st.buffer (P.len db key) cnt).foldl (absorb P db key) st := by
  induction cnt with
  | zero => rfl
  | succ cnt ih =>
    rw [List.range_succ, List.foldl_append, ih, records_succ, List.foldl_append,
      List.foldl_cons, List.foldl_nil, List.foldl_cons, List.foldl_nil, reloadObject_eq,
      buffer_foldl_absorb]

theorem reloadObject_page {page : List Blob} (hpage : ∀ value ∈ page, value.length = P.len db key)
    (st : ReloadState) :
    (List.range page.length).foldl (reloadObject P db key)
        { st with buffer := memcpy st.buffer 0 page.flatten } =
      { page.foldl (absorb P db key) st with buffer := memcpy st.buffer 0 page.flatten } := by
  rw [foldl_reloadObject, records_memcpy_flatten _ hpage, foldl_absorb_buffer]

theorem reloadPages_eq (hbuf : P.len db key ≤ P.bufferLength) {l : List Blob}
    (hl : ∀ value ∈ l, value.length = P.len db key) (fuel cursor : Nat) (st : ReloadState)
    (hfuel : l.length - cursor < fuel) :
    ∃ buffer, reloadPages P db key l fuel cursor st =
      some { (l.drop cursor).foldl (absorb P db key) st with buffer := buffer } := by
  have hq : 0 < P.bufferLength / P.len db key := Nat.div_pos hbuf (P.len_pos db key)
  induction fuel generalizing cursor st with
  | zero => omega
  | succ fuel ih =>
    have htake := List.take_append_drop (P.bufferLength / P.len db key) (l.drop cursor)
    have hlen : ((l.drop cursor).take (P.bufferLength / P.len db key)).length =
        min (P.bufferLength / P.len db key) (l.length - cursor) := by simp
    have hpage : ∀ value ∈ (l.drop cursor).take (P.bufferLength / P.len db key),
        value.length = P.len db key := fun value hv =>
      hl value (List.mem_of_mem_drop (List.mem_of_mem_take hv))
    unfold reloadPages
    simp only [lrange_page l cursor hq]
    generalize (l.drop cursor).take (P.bufferLength / P.len db key) = page at htake hlen hpage ⊢
    rw [reloadObject_page hpage]
    split
    · -- the last page holds what is left
      next hlast =>
        rw [List.drop_eq_nil_of_le (by simp only [List.length_drop]; omega),
          List.append_nil] at htake
        rw [htake]
        exact ⟨_, rfl⟩
    next hfull =>
    have hcnt : page.length = P.bufferLength / P.len db key := by omega
    obtain ⟨buffer, hrest⟩ := ih (cursor + page.length)
      { page.foldl (absorb P db key) st with buffer := memcpy st.buffer 0 page.flatten }
      (by omega)
    refine ⟨buffer, ?_⟩
    rw [hrest, foldl_absorb_buffer, ← List.foldl_append, ← List.drop_drop, hcnt, htake]

/-- What a reload makes of an object when it carries `data`. -/
def reloaded (db : WbDb) (key : WbKey) (data : Option Blob) (o : WbObject) : WbObject :=
  ⟨o.key, if (db.info key).dataLen = 0 then data
    else o.data.map ((db.info key).wbReloadCb o.key)⟩

/-- The lengths that are registered for a sub-type. -/
def Fits (P : WbParams) (db : WbDb) (key : WbKey) (o : WbObject) : Prop :=
  o.key.length = P.keyLen key.type ∧ ((db.info key).dataLen ≠ 0 →
    ∃ data, o.data = some data ∧ data.length = (db.info key).dataLen)

theorem absorb_encoded (ho : Fits P db key o) (st : ReloadState) :
    absorb P db key st (encoded db key o) = { st with
        data := (reloaded db key st.data o).data
        objects := update st.objects key (reloaded db key st.data o :: st.objects key) } := by
  obtain ⟨hk, hd⟩ := ho
  unfold absorb encoded reloaded
  rw [List.take_left' hk, List.drop_left' hk]
  by_cases h0 : (db.info key).dataLen = 0
  · simp [h0]
  · obtain ⟨data, hdata, -⟩ := hd h0
    simp [h0, hdata]

theorem foldl_absorb_encoded {os : List WbObject} (hos : ∀ o ∈ os, Fits P db key o)
    (st : ReloadState) :
    ∃ data, (os.map (encoded db key)).foldl (absorb P db key) st = { st with
          data := data
          objects := update st.objects key
            ((os.map (reloaded db key st.data)).reverse ++ st.objects key) } ∧
      (data.isSome ↔ st.data.isSome ∨ (db.info key).dataLen ≠ 0 ∧ os ≠ []) := by
  induction os generalizing st with
  | nil => exact ⟨st.data, by simp, by simp⟩
  | cons o os ih =>
    have ho := hos o (List.mem_cons_self ..)
    obtain ⟨data, hfold, hdata⟩ := ih (fun x hx => hos x (List.mem_cons_of_mem _ hx)) { st with
        data := (reloaded db key st.data o).data
        objects := update st.objects key (reloaded db key st.data o :: st.objects key) }
    have hcarry : reloaded db key (reloaded db key st.data o).data = reloaded db key st.data := by
      unfold reloaded
      split <;> rfl
    refine ⟨data, ?_, ?_⟩
    · rw [List.map_cons, List.foldl_cons, absorb_encoded ho, hfold, hcarry]
      simp
    · rw [hdata]
      by_cases h0 : (db.info key).dataLen = 0
      · simp [reloaded, h0]
      · obtain ⟨d, hd, -⟩ := ho.2 h0
        simp [reloaded, h0, hd]

theorem reloadKey_written (hkey : key ∈ wbKeys) (hbuf : P.len db key ≤ P.bufferLength)
    (hr : r (.version lchip) = (wbKeys.map (versionRecord db)).reverse) {os : List WbObject}
    (hos : ∀ o ∈ os, Fits P db key o)
    (ho : r (.objects lchip key) = (os.map (encoded db key)).reverse) (st : ReloadState)
    (hst : st.objects key = []) :
    ∃ buffer data, reloadKey P db lchip r st key = some ⟨buffer, data,
        update st.objects key (os.map (reloaded db key st.data))⟩ ∧
      (data.isSome ↔ st.data.isSome ∨ (db.info key).dataLen ≠ 0 ∧ os ≠ []) := by
  have hlist : r (.objects lchip key) = os.reverse.map (encoded db key) := by
    rw [ho, List.map_reverse]
  have hlen : ∀ value ∈ r (.objects lchip key), value.length = P.len db key := by
    intro value hv
    rw [hlist, List.mem_map] at hv
    obtain ⟨o, ho, rfl⟩ := hv
    obtain ⟨hk, hd⟩ := hos o (List.mem_reverse.mp ho)
    by_cases h0 : (db.info key).dataLen = 0
    · simp [encoded, WbParams.len, h0, hk]
    · obtain ⟨data, hdata, hdlen⟩ := hd h0
      simp [encoded, WbParams.len, h0, hk, hdata, hdlen]
  obtain ⟨buffer, hpages⟩ := reloadPages_eq hbuf hlen ((r (.objects lchip key)).length + 1) 0 st
    (by omega)
  have hrev : ∀ o ∈ os.reverse, Fits P db key o := fun o ho => hos o (List.mem_reverse.mp ho)
  obtain ⟨data, hfold, hdata⟩ := foldl_absorb_encoded hrev st
  refine ⟨buffer, data, ?_, ?_⟩
  · unfold reloadKey
    simp only [reloadVersionCheck_written hkey hr, hpages]
    rw [List.drop_zero, hlist, hfold, hst]
    simp
  · simpa using hdata

/-- A sub-type with data that has an object. -/
def HasData (db : WbDb) (objects : WbKey → List WbObject) (key : WbKey) : Prop :=
  (db.info key).dataLen ≠ 0 ∧ objects key ≠ []

/-- All sub-types of a list: every object is there, with the data it had, or
without any of its own with the data that is carried. -/
theorem reloadKeys_written (hbuf : ∀ key, P.len db key ≤ P.bufferLength)
    (hr : r (.version lchip) = (wbKeys.map (versionRecord db)).reverse)
    {objects : WbKey → List WbObject} (hos : ∀ key, ∀ o ∈ objects key, Fits P db key o)
    (hsub : ∀ key ∈ keys, key ∈ wbKeys) (hnd : keys.Nodup)
    (ho : ∀ key ∈ keys, r (.objects lchip key) = ((objects key).map (encoded db key)).reverse)
    (st : ReloadState) (hst : ∀ key ∈ keys, st.objects key = []) :
    ∃ st', keys.foldlM (reloadKey P db lchip r) st = some st' ∧
      (∀ key, key ∉ keys → st'.objects key = st.objects key) ∧
      ∀ pre key post, keys = pre ++ key :: post → ∃ data : Option Blob,
        st'.objects key = (objects key).map (reloaded db key data) ∧
        (data.isSome ↔ st.data.isSome ∨ ∃ k ∈ pre, HasData db objects k) := by
  induction keys generalizing st with
  | nil => exact ⟨st, rfl, fun _ _ => rfl, fun pre key post h => by simp at h⟩
  | cons k keys ih =>
    obtain ⟨hk, hnd'⟩ := List.nodup_cons.mp hnd
    obtain ⟨buffer, data, h1, hdata⟩ := reloadKey_written (hsub k (List.mem_cons_self ..)) (hbuf k)
      hr (hos k) (ho k (List.mem_cons_self ..)) st (hst k (List.mem_cons_self ..))
    obtain ⟨st', h2, hframe, hsplit⟩ := ih (fun x hx => hsub x (List.mem_cons_of_mem _ hx)) hnd'
      (fun x hx => ho x (List.mem_cons_of_mem _ hx))
      ⟨buffer, data, update st.objects k ((objects k).map (reloaded db k st.data))⟩
      (fun x hx => by
        have hne : x ≠ k := fun h => hk (h ▸ hx)
        simpa [update_of_ne hne] using hst x (List.mem_cons_of_mem _ hx))
    refine ⟨st', ?_, ?_, ?_⟩
    · rw [List.foldlM_cons, h1]
      exact h2
    · intro x hx
      rw [List.mem_cons, not_or] at hx
      rw [hframe x hx.2]
      exact update_of_ne hx.1 ..
    · intro pre key post heq
      cases pre with
      | nil =>
        obtain ⟨rfl, rfl⟩ := List.cons.inj heq
        refine ⟨st.data, ?_, by simp⟩
        rw [hframe k hk]
        exact update_self ..
      | cons x pre =>
        obtain ⟨rfl, htail⟩ := List.cons.inj heq
        obtain ⟨d, hobj, hd⟩ := hsplit pre key post htail
        refine ⟨d, hobj, ?_⟩
        rw [hd, hdata, or_assoc]
        simp [HasData]

/-! ## The round trip -/

theorem warmboot_result (hwf : db.WellFormed P lchip) (hg : g lchip = some db)
    (hg0 : g 0 = some pdb) :
    ∃ r db', warmbootSync P g lchip = some (.success, r,
        wbKeys.flatMap (callsFor 0 (fun key => (pdb.info key).wbSyncCb) db)) ∧
      warmbootReload P db.cleared lchip r = some db' ∧
      ∀ pre key post, wbKeys = pre ++ key :: post → ∃ data : Option Blob,
        db'.objects key = (db.objects key).map (reloaded db key data) ∧
        (data.isSome ↔ ∃ k ∈ pre, HasData db db.objects k) := by
  obtain ⟨r, hsync, ho, hv, -⟩ := syncKeys_success hwf hg0 nodup_wbKeys (fun _ => []) []
    (fun _ _ => rfl)
  have hver : r (.version lchip) = (wbKeys.map (versionRecord db.cleared)).reverse :=
    hv.trans (List.append_nil _)
  have hfits : ∀ key, ∀ o ∈ db.objects key, Fits P db.cleared key o := fun key o ho =>
    ⟨hwf.key_len key o ho, hwf.data_len key o ho⟩
  have hbuf : ∀ key, P.len db.cleared key ≤ P.bufferLength := hwf.buffer
  obtain ⟨st, hreload, -, hsplit⟩ := reloadKeys_written hbuf hver hfits (fun _ h => h)
    nodup_wbKeys ho ⟨fun _ => 0, none, db.cleared.objects⟩ (fun _ _ => rfl)
  refine ⟨r, { db.cleared with objects := st.objects }, ?_, ?_, ?_⟩
  · simp only [warmbootSync, hg, hwf.switch, if_true, hsync, List.nil_append]
  · simp only [warmbootReload, hreload, Option.map_some]
  · intro pre key post heq
    obtain ⟨data, hobj, hdata⟩ := hsplit pre key post heq
    refine ⟨data, hobj, hdata.trans ⟨fun h => h.resolve_left (by simp), Or.inr⟩⟩

theorem mem_callsFor {lchip : WbChip} {cb : WbKey → Bool} {db : WbDb} {key : WbKey} {c : WbCall} :
    c ∈ callsFor lchip cb db key ↔
      cb key = true ∧ ∃ o ∈ db.objects key, c = ⟨lchip, key, o⟩ := by
  unfold callsFor
  split
  · next h => simp [h, eq_comm]
  · next h => simp [h]

theorem WbDb.WellFormed.exists_object (hwf : db.WellFormed P lchip) :
    ∃ key ∈ wbKeys, db.objects key ≠ [] := by
  refine ⟨⟨.oid, ObjectType.switch.ctorIdx⟩, by decide, fun h => ?_⟩
  have hswitch := hwf.switch
  rw [h] at hswitch
  exact nomatch hswitch

theorem chip_zero_of_sync (hwf : db.WellFormed P lchip) (hg : g lchip = some db)
    {calls : List WbCall} (h : warmbootSync P g lchip = some (.success, r, calls)) :
    ∃ pdb, g 0 = some pdb := by
  cases h0 : g 0 with
  | some pdb => exact ⟨pdb, rfl⟩
  | none =>
    obtain ⟨key, hkey, hne⟩ := hwf.exists_object
    simp only [warmbootSync, hg, hwf.switch, if_true] at h
    exact absurd h (syncKeys_none hwf h0 hkey hne _ _)

theorem calls_perm_iff (hwf : db.WellFormed P lchip) (hg : g lchip = some db)
    (hg0 : g 0 = some pdb) :
    (wbKeys.flatMap (callsFor 0 (fun key => (pdb.info key).wbSyncCb) db)).Perm
        (wbKeys.flatMap (callsFor lchip (fun key => (db.info key).wbSyncCb) db)) ↔
      lchip = 0 ∨ NoCallbacks g db := by
  constructor
  · intro hperm
    by_cases h0 : lchip = 0
    · exact .inl h0
    refine .inr fun key hkey hne => ?_
    obtain ⟨o, ho⟩ := List.exists_mem_of_ne_nil _ hne
    refine ⟨Bool.eq_false_iff.mpr fun hcb => ?_, pdb, hg0, Bool.eq_false_iff.mpr fun hcb => ?_⟩
    · have hmem := hperm.mem_iff.mpr
        (List.mem_flatMap.mpr ⟨key, hkey, mem_callsFor.mpr ⟨hcb, o, ho, rfl⟩⟩)
      obtain ⟨k, -, hk⟩ := List.mem_flatMap.mp hmem
      obtain ⟨-, o', -, heq⟩ := mem_callsFor.mp hk
      exact h0 (congrArg WbCall.lchip heq)
    · have hmem := hperm.mem_iff.mp
        (List.mem_flatMap.mpr ⟨key, hkey, mem_callsFor.mpr ⟨hcb, o, ho, rfl⟩⟩)
      obtain ⟨k, -, hk⟩ := List.mem_flatMap.mp hmem
      obtain ⟨-, o', -, heq⟩ := mem_callsFor.mp hk
      exact h0 (congrArg WbCall.lchip heq).symm
  · rintro (rfl | hnone)
    · obtain rfl : pdb = db := Option.some.inj (hg0.symm.trans hg)
      exact List.Perm.refl _
    · have hempty : ∀ (chip : WbChip) (cb : WbKey → Bool),
          (∀ key ∈ wbKeys, db.objects key ≠ [] → cb key = false) →
          wbKeys.flatMap (callsFor chip cb db) = [] := by
        intro chip cb hcb
        rw [List.flatMap_eq_nil_iff]
        intro key hkey
        unfold callsFor
        by_cases hne : db.objects key = []
        · simp [hne]
        · simp [hcb key hkey hne]
      rw [hempty 0 _ fun key hkey hne => ?_, hempty lchip _ fun key hkey hne =>
        (hnone key hkey hne).1]
      obtain ⟨-, db₀, hdb₀, hcb⟩ := hnone key hkey hne
      rwa [Option.some.inj (hg0.symm.trans hdb₀)]

/-- What is known of the objects of a sub-type when they come back. -/
theorem WbRoundTrip.back (hwf : db.WellFormed P lchip) (hg : g lchip = some db)
    (h : WbRoundTrip P g lchip db) {pre post : List WbKey} (heq : wbKeys = pre ++ key :: post) :
    ∃ data : Option Blob, (data.isSome ↔ ∃ k ∈ pre, HasData db db.objects k) ∧
      ∀ o ∈ db.objects key, ∃ o' ∈ db.objects key, restored db key o' = reloaded db key data o := by
  obtain ⟨r, calls, db', hsync, hreload, hobjects, -⟩ := h
  obtain ⟨pdb, hg0⟩ := chip_zero_of_sync hwf hg hsync
  obtain ⟨r₁, db₁, hsync₁, hreload₁, hsplit⟩ := warmboot_result hwf hg hg0
  rw [hsync] at hsync₁
  obtain ⟨rfl, rfl⟩ : r = r₁ ∧ calls = _ := by simpa using hsync₁
  obtain rfl : db' = db₁ := Option.some.inj (hreload.symm.trans hreload₁)
  obtain ⟨data, hobj, hdata⟩ := hsplit pre key post heq
  have hkey : key ∈ wbKeys := by simp [heq]
  refine ⟨data, hdata, fun o ho => ?_⟩
  have hmem : reloaded db key data o ∈ db'.objects key := by
    rw [hobj]
    exact List.mem_map_of_mem ho
  exact List.mem_map.mp ((hobjects key hkey).1.mem_iff.mp hmem)

theorem WbRoundTrip.dataLast (hwf : db.WellFormed P lchip) (hg : g lchip = some db)
    (h : WbRoundTrip P g lchip db) : DataLast db := by
  intro pre key post heq hd hne k hk hdk
  by_contra hnek
  obtain ⟨data, hdata, hback⟩ := h.back hwf hg heq
  have hsome : data.isSome := hdata.mpr ⟨k, hk, hdk, hnek⟩
  obtain ⟨o, ho⟩ := List.exists_mem_of_ne_nil _ hne
  obtain ⟨o', -, heq'⟩ := hback o ho
  have hnone : data = none := by
    have hd' := congrArg WbObject.data heq'
    simpa [restored, reloaded, hd] using hd'.symm
  simp [hnone] at hsome

theorem WbRoundTrip.dataKept (hwf : db.WellFormed P lchip) (hg : g lchip = some db)
    (h : WbRoundTrip P g lchip db) : DataKept db := by
  intro key hkey hd o ho
  obtain ⟨pre, post, heq⟩ := List.append_of_mem hkey
  obtain ⟨data, -, hback⟩ := h.back hwf hg heq
  obtain ⟨o', ho', heq'⟩ := hback o ho
  have hname := congrArg WbObject.key heq'
  have hsame : o' = o := List.inj_on_of_nodup_map (hwf.nodup key) ho' ho hname
  have hd' := congrArg WbObject.data heq'
  simpa [restored, reloaded, hd, hsame] using hd'.symm

theorem WbRoundTrip.noCallbacks (hwf : db.WellFormed P lchip) (hg : g lchip = some db)
    (h : WbRoundTrip P g lchip db) : lchip = 0 ∨ NoCallbacks g db := by
  obtain ⟨r, calls, db', hsync, -, -, hcalls⟩ := h
  obtain ⟨pdb, hg0⟩ := chip_zero_of_sync hwf hg hsync
  obtain ⟨r₁, -, hsync₁, -⟩ := warmboot_result hwf hg hg0
  rw [hsync] at hsync₁
  obtain ⟨-, rfl⟩ : r = r₁ ∧ calls = _ := by simpa using hsync₁
  exact (calls_perm_iff hwf hg hg0).mp hcalls

theorem DataLast.restored_eq (hlast : DataLast db) (hkept : DataKept db) {pre post : List WbKey}
    (heq : wbKeys = pre ++ key :: post) {data : Option Blob}
    (hdata : data.isSome ↔ ∃ k ∈ pre, HasData db db.objects k) :
    (db.objects key).map (reloaded db key data) = (db.objects key).map (restored db key) := by
  refine List.map_congr_left fun o ho => ?_
  by_cases hd : (db.info key).dataLen = 0
  · have hnone : data = none := by
      rw [← Option.not_isSome_iff_eq_none, hdata]
      rintro ⟨k, hk, hdk, hnek⟩
      exact hnek (hlast pre key post heq hd (List.ne_nil_of_mem ho) k hk hdk)
    simp [reloaded, restored, hd, hnone]
  · have hkey : key ∈ wbKeys := by simp [heq]
    simp [reloaded, restored, hd, hkept key hkey hd o ho]

theorem wbRoundTrip_of (hwf : db.WellFormed P lchip) (hg : g lchip = some db)
    (hchip : lchip = 0 ∨ NoCallbacks g db) (hlast : DataLast db) (hkept : DataKept db) :
    WbRoundTrip P g lchip db := by
  obtain ⟨pdb, hg0⟩ : ∃ pdb, g 0 = some pdb := by
    rcases hchip with rfl | hnone
    · exact ⟨db, hg⟩
    · obtain ⟨key, hkey, hne⟩ := hwf.exists_object
      obtain ⟨-, db₀, hdb₀, -⟩ := hnone key hkey hne
      exact ⟨db₀, hdb₀⟩
  obtain ⟨r, db', hsync, hreload, hsplit⟩ := warmboot_result hwf hg hg0
  refine ⟨r, _, db', hsync, hreload, fun key hkey => ?_, (calls_perm_iff hwf hg hg0).mpr hchip⟩
  obtain ⟨pre, post, heq⟩ := List.append_of_mem hkey
  obtain ⟨data, hobj, hdata⟩ := hsplit pre key post heq
  rw [hobj, hlast.restored_eq hkept heq hdata]
  refine ⟨List.Perm.refl _, ?_⟩
  have hkeys : ((db.objects key).map (restored db key)).map WbObject.key =
      (db.objects key).map WbObject.key := by
    rw [List.map_map]
    rfl
  rw [hkeys]
  exact hwf.nodup key

/-- A synchronisation and a reload restore the database of a chip and call its
own callbacks exactly when the chip is 0 or there is no callback to call, no
object without data comes after one with data, and the callbacks of the reload
leave the data alone. -/
theorem warmboot_iff (hg : g lchip = some db) (hwf : db.WellFormed P lchip) :
    WbRoundTrip P g lchip db ↔
      (lchip = 0 ∨ NoCallbacks g db) ∧ DataLast db ∧ DataKept db := by
  constructor
  · intro h
    exact ⟨h.noCallbacks hwf hg, h.dataLast hwf hg, h.dataKept hwf hg⟩
  · rintro ⟨hchip, hlast, hkept⟩
    exact wbRoundTrip_of hwf hg hchip hlast hkept

/-! ## A switch and a bridge -/

/-- Four bytes of a key, and a buffer for ten objects of a switch. -/
def smallParams : WbParams where
  bufferLength := 64
  keyLen _ := 4
  versionCheck v w := v != w
  switchKey _ := [33, 0, 0, 0]
  keyLen_pos _ := by decide
  versionCheck_self v := by simp

/-- A switch object with two bytes of data, and the bridges. -/
def smallDb (bridges : List WbObject) : WbDb where
  info key :=
    ⟨if key = ⟨.oid, ObjectType.switch.ctorIdx⟩ then 2 else 0, 1, false, fun _ data => data⟩
  objects key :=
    if key = ⟨.oid, ObjectType.switch.ctorIdx⟩ then [⟨[33, 0, 0, 0], some [1, 2]⟩]
    else if key = ⟨.oid, ObjectType.bridge.ctorIdx⟩ then bridges
    else []

theorem smallDb_wellFormed (bridges : List WbObject) (hlen : ∀ o ∈ bridges, o.key.length = 4)
    (hnd : (bridges.map WbObject.key).Nodup) (lchip : WbChip) :
    (smallDb bridges).WellFormed smallParams lchip where
  buffer key := by
    simp only [WbParams.len, smallDb, smallParams]
    split <;> decide
  size key := by
    simp only [WbParams.len, smallDb, smallParams]
    split <;> decide
  key_len key o ho := by
    simp only [smallDb] at ho
    split at ho
    · rw [List.mem_singleton.mp ho]
      rfl
    · split at ho
      · exact hlen o ho
      · exact nomatch ho
  data_len key o ho hd := by
    simp only [smallDb] at ho hd ⊢
    split at ho
    · next hkey =>
      rw [List.mem_singleton.mp ho, if_pos hkey]
      exact ⟨_, rfl, rfl⟩
    · next hkey => exact absurd (by rw [if_neg hkey]) hd
  nodup key := by
    simp only [smallDb]
    split
    · simp
    · split
      · exact hnd
      · simp
  switch := rfl

theorem warmboot_iff_switch : WbRoundTrip smallParams (fun _ => some (smallDb [])) 0 (smallDb []) :=
  (warmboot_iff rfl (smallDb_wellFormed [] (by simp) (by simp) 0)).mpr
    ⟨.inl rfl, fun pre key post _ hd hne => by
      simp only [smallDb] at hd hne
      split at hd
      · exact nomatch hd
      · next hkey => simp [hkey] at hne, fun _ _ _ _ _ => Option.map_id' ..⟩

/-- A bridge is reloaded with the data of the switch. -/
theorem warmboot_not_always : ¬ ∀ (P : WbParams) (g : SaiDb) (lchip : WbChip) (db : WbDb),
    g lchip = some db → db.WellFormed P lchip → WbRoundTrip P g lchip db := by
  intro h
  have hwf := smallDb_wellFormed [⟨[57, 0, 0, 0], none⟩] (by simp) (by simp) 0
  have hlast := (h smallParams (fun _ => some (smallDb [⟨[57, 0, 0, 0], none⟩])) 0 _ rfl hwf).dataLast
    hwf rfl
  have hnil := hlast ((List.range ObjectType.bridge.ctorIdx).map (⟨.oid, ·⟩))
    ⟨.oid, ObjectType.bridge.ctorIdx⟩ _ rfl rfl (by decide)
    ⟨.oid, ObjectType.switch.ctorIdx⟩ (by decide) (by decide)
  exact nomatch hnil

end CtcSai
