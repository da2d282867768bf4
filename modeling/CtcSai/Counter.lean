/-
# `Counter` — ctc_sai_counter.c

A counter object is created without statistics (`ctc_sai_counter_type` is
MAX); the module that first uses it asks the SDK for a statistics id and
stores it in the object, and the module that stops using it destroys that
id.  The ids alive in the SDK are kept beside the object table.
-/
import CtcSai.Chip

namespace CtcSai

open IdPool KeyedTable

/-- `sai_counter_type_t`. -/
inductive SaiCounterType where
  | regular | other
deriving DecidableEq, Repr

/-- `ctc_sai_counter_t`. -/
structure Counter where
  counterType : SaiCounterType
  ctcSaiCounterType : CounterType
  statsId : Nat
deriving DecidableEq, Repr

variable {ch : Chip}

/-- The counter objects, the ids of their numbering, and the statistics alive
in the SDK. -/
structure CounterDb (ch : Chip) where
  table : Table Oid Counter
  pool : Pool ch.counter
  stats : Pool ch.stats

def CounterDb.empty (ch : Chip) : CounterDb ch := ⟨∅, .empty _, .empty _⟩

/-- `ctcs_stats_create_statsid`: the SDK hands out an id of its own. -/
def statsCreate (sdk : Sdk) (db : CounterDb ch) (type : CounterType) :
    Status × Nat × CounterDb ch :=
  let status := mappingErrorCtc (sdk.rc (.statsCreateStatsid type))
  if status = .success then
    match db.stats.alloc with
    | none => (.insufficientResources, 0, db)
    | some (statsId, stats) => (.success, statsId, { db with stats := stats })
  else (status, 0, db)

/-- `ctcs_stats_destroy_statsid`. -/
def statsDestroy (sdk : Sdk) (db : CounterDb ch) (statsId : Nat) : Status × CounterDb ch :=
  let status := mappingErrorCtc (sdk.rc (.statsDestroyStatsid statsId))
  if status = .success then (.success, { db with stats := db.stats.free statsId })
  else (status, db)

/-- `ctc_sai_counter_id_create`: the status, `*stats_id`, the database. -/
def counterIdCreate (sdk : Sdk) (db : CounterDb ch) (counterId : Oid) (type : CounterType) :
    Status × Nat × CounterDb ch :=
  match db.table.lookup counterId with
  | none => (.itemNotFound, 0, db)
  | some c =>
    match statsCreate sdk db type with
    | (.success, statsId, db) =>
      let c := { c with statsId := statsId, ctcSaiCounterType := type }
      (.success, statsId, { db with table := db.table.insert counterId c })
    | (status, _, db) => (status, 0, db)

/-- `ctc_sai_counter_id_remove`; every caller passes a type other than HOSTIF. -/
def counterIdRemove (sdk : Sdk) (db : CounterDb ch) (counterId : Oid) :
    Status × CounterDb ch :=
  if counterId = Oid.null then (.success, db)
  else
    match db.table.lookup counterId with
    | none => (.itemNotFound, db)
    | some c =>
      match statsDestroy sdk db c.statsId with
      | (.success, db) =>
        let c := { c with statsId := 0, ctcSaiCounterType := .max }
        (.success, { db with table := db.table.insert counterId c })
      | (status, db) => (status, db)

/-! ### The objects stay while their statistics come and go -/

@[simp] theorem statsCreate_table (sdk : Sdk) (db : CounterDb ch) (type : CounterType) :
    (statsCreate sdk db type).2.2.table = db.table := by
  unfold statsCreate
  dsimp only
  split
  · split
    · rfl
    · rfl
  · rfl

@[simp] theorem statsDestroy_table (sdk : Sdk) (db : CounterDb ch) (statsId : Nat) :
    (statsDestroy sdk db statsId).2.table = db.table := by
  unfold statsDestroy
  dsimp only
  split
  · rfl
  · rfl

theorem counterIdCreate_keys (sdk : Sdk) (db : CounterDb ch) (o : Oid) (type : CounterType) :
    Table.SameKeys db.table (counterIdCreate sdk db o type).2.2.table := by
  have ht := statsCreate_table sdk db type
  unfold counterIdCreate
  split
  · exact .refl _
  next hc =>
  split
  · next heq =>
    rw [heq] at ht
    rw [← ht] at hc ⊢
    exact .insert (by rw [hc]; rfl) _
  next heq =>
  rw [heq] at ht
  rw [← ht]
  exact .refl _

theorem counterIdRemove_keys (sdk : Sdk) (db : CounterDb ch) (o : Oid) :
    Table.SameKeys db.table (counterIdRemove sdk db o).2.table := by
  unfold counterIdRemove
  split
  · exact .refl _
  split
  · exact .refl _
  next c hc =>
  have ht := statsDestroy_table sdk db c.statsId
  split
  · next heq =>
    rw [heq] at ht
    rw [← ht] at hc ⊢
    exact .insert (by rw [hc]; rfl) _
  next heq =>
  rw [heq] at ht
  rw [← ht]
  exact .refl _

/-- Statistics are only taken for a counter that is there. -/
theorem isSome_of_counterIdCreate {sdk : Sdk} {db : CounterDb ch} {o : Oid} {type : CounterType}
    (h : (counterIdCreate sdk db o type).1 = .success) : (db.table.lookup o).isSome := by
  unfold counterIdCreate at h
  split at h
  · cases h
  · next hl => rw [hl]; rfl

theorem counterIdRemove_success {sdk : Sdk} (hs : sdk.Succeeds) {db : CounterDb ch} {o : Oid}
    (h : (db.table.lookup o).isSome) : (counterIdRemove sdk db o).1 = .success := by
  obtain ⟨c, hc⟩ := Option.isSome_iff_exists.mp h
  unfold counterIdRemove
  split
  · rfl
  rw [hc]
  have hd : statsDestroy sdk db c.statsId =
      (.success, { db with stats := db.stats.free c.statsId }) := by
    unfold statsDestroy
    rw [hs.rc]
    rfl
  dsimp only
  rw [hd]

/-- `ctc_sai_counter_create_counter`: the status, `*counter_id` and the
database.  Without a TYPE attribute the status of its search is returned. -/
def createCounter (sdk : Sdk) (db : CounterDb ch) (type : Option SaiCounterType) :
    Status × Option Oid × CounterDb ch :=
  if type.isSome ∧ type ≠ some .regular then (.invalidParameter, none, db)
  else
    match db.pool.alloc with
    | none => (.insufficientResources, none, db)
    | some (statsId, pool) =>
      let oid := createObjectId .counter ch.lchip 0 0 (BitVec.ofNat 32 statsId)
      if sdk.mem .oidNode then
        let c : Counter := ⟨type.getD .regular, .max, 0⟩
        (if type.isSome then .success else .itemNotFound, some oid,
          { db with table := db.table.insert oid c, pool := pool })
      else (.noMemory, none, { db with pool := pool.free statsId })

/-- `ctc_sai_counter_remove_counter`. -/
def removeCounter (db : CounterDb ch) (counterId : Oid) : Status × CounterDb ch :=
  match db.table.lookup counterId with
  | none => (.itemNotFound, db)
  | some c =>
    if c.ctcSaiCounterType ≠ .max then (.objectInUse, db)
    else
      (.success, { db with
        table := db.table.erase counterId
        pool := db.pool.free counterId.value.toNat })

end CtcSai
