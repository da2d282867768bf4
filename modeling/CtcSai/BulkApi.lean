/-
# `BulkApi` — the bulk calls beside the single ones

Three modules code bulk calls, each by hand.  The loop of the routes leaves at
the first error with nothing written behind it, and otherwise answers SUCCESS
whatever the elements answered.  The loops of LAG members and of STP ports
fill in NOT_EXECUTED and answer FAILURE by a flag, which one of them does not
set first; of the ids to remove only the first is asked for its chip.

A call names its chip by an object id; `known` says which chips have a
database.
-/
import CtcSai.Route
import CtcSai.Stp

namespace CtcSai

open Function

variable {S α β : Type}

/-- What a bulk call returns and writes; a status that is `none` is not
written. -/
structure BulkOut (S β : Type) where
  status : Status
  statuses : List (Option Status)
  outs : List β
  state : S

/-- The bulk call is the fold of the single calls: their state, their
statuses and objects, NOT_EXECUTED behind the stop, and SUCCESS exactly when
every status is. -/
def BulkIsFold (single : S → α → Option (Status × β × S)) (mode : BulkOpErrorMode) (s : S)
    (objects : List α) (out : Option (BulkOut S β)) : Prop :=
  match bulkLoop single mode s objects with
  | none => out = none
  | some (results, s') => ∃ o, out = some o ∧ o.state = s' ∧
      o.statuses = results.map (fun r => some r.1) ++
        List.replicate (objects.length - results.length) (some .notExecuted) ∧
      o.outs = results.map (fun r => r.2) ∧
      (o.status = .success ↔ ∀ st ∈ o.statuses, st = some .success)

/-- The single calls, one after the other, with results that meet `P`. -/
def FoldMeets (single : S → α → Option (Status × β × S)) (mode : BulkOpErrorMode) (s : S)
    (objects : List α) (P : List (Status × β) → Prop) : Prop :=
  ∀ results s', bulkLoop single mode s objects = some (results, s') → P results

/-! ## Routes -/

section Routes

variable {chips : Lchip → Chip} (known : Lchip → Bool) (m : MaskToLen)

/-- The databases of the chips. -/
abbrev RouteChips (chips : Lchip → Chip) := ∀ c, RouteDb (chips c)

def onRouteChip (dbs : RouteChips chips) (e : RouteEntry)
    (f : ∀ {ch : Chip}, RouteDb ch → Status × RouteDb ch) : Status × RouteChips chips :=
  let r := f (dbs e.switchId.lchip)
  (r.1, update dbs e.switchId.lchip r.2)

/-- `ctc_sai_route_create_route`, with the chip looked up. -/
def routeCreateRoute (dbs : RouteChips chips) (o : RouteSdk × RouteEntry × List RouteAttr) :
    Status × RouteChips chips :=
  if known o.2.1.switchId.lchip then
    onRouteChip dbs o.2.1 fun db => createRoute m o.1 db o.2.1 o.2.2
  else (.uninitialized, dbs)

/-- `ctc_sai_route_remove_route`, with the chip looked up. -/
def routeRemoveRoute (dbs : RouteChips chips) (o : RouteSdk × RouteEntry) :
    Status × RouteChips chips :=
  if known o.2.switchId.lchip then onRouteChip dbs o.2 fun db => removeRoute m o.1 db o.2
  else (.uninitialized, dbs)

/-- The loop of `ctc_sai_route_bulk_create_route` and of
`ctc_sai_route_bulk_remove_route`. -/
def routeBulkLoop (chipKnown : α → Bool) (f : S → α → Status × S) (mode : BulkOpErrorMode) :
    S → List α → BulkOut S Unit
  | s, [] => ⟨.success, [], [], s⟩
  | s, a :: rest =>
    if chipKnown a then
      let r := f s a
      if r.1 ≠ .success ∧ mode = .stopOnError then
        ⟨r.1, some r.1 :: rest.map (fun _ => none), [()], r.2⟩
      else
        let out := routeBulkLoop chipKnown f mode r.2 rest
        ⟨out.status, some r.1 :: out.statuses, () :: out.outs, out.state⟩
    else ⟨.uninitialized, (a :: rest).map (fun _ => none), [], s⟩

/-- `ctc_sai_route_bulk_create_route`. -/
def routeBulkCreateRoute (dbs : RouteChips chips) (mode : BulkOpErrorMode)
    (objects : List (RouteSdk × RouteEntry × List RouteAttr)) :
    BulkOut (RouteChips chips) Unit :=
  routeBulkLoop (fun o => known o.2.1.switchId.lchip) (fun dbs o =>
    onRouteChip dbs o.2.1 fun db =>
      match routeCreate m o.1 db o.2.1 o.2.2 with
      | (.success, db) => (.success, db.count o.2.1 1)
      | (status, db) => (status, db)) mode dbs objects

/-- `ctc_sai_route_bulk_remove_route`. -/
def routeBulkRemoveRoute (dbs : RouteChips chips) (mode : BulkOpErrorMode)
    (objects : List (RouteSdk × RouteEntry)) : BulkOut (RouteChips chips) Unit :=
  routeBulkLoop (fun o => known o.2.switchId.lchip) (fun dbs o =>
    onRouteChip dbs o.2 fun db =>
      match routeRemove m o.1 db o.2 with
      | (.success, db) => (.success, db.count o.2 (-1))
      | (status, db) => (status, db)) mode dbs objects

end Routes

/-! ## LAG members and STP ports -/

/-- The loop that LAG members and STP ports share, with `is_found_error` and
the status so far; after a stop the other statuses are filled in. -/
def membersLoop (f : S → α → Option (Status × β × S)) (mode : BulkOpErrorMode) :
    S → List α → BitVec 8 → Status → Option (BitVec 8 × BulkOut S β)
  | s, [], isFoundError, status => some (isFoundError, ⟨status, [], [], s⟩)
  | s, a :: rest, isFoundError, _ =>
    match f s a with
    | none => none
    | some (status, b, s) =>
      let isFoundError := if status ≠ .success then 1 else isFoundError
      if status ≠ .success ∧ mode = .stopOnError then
        some (isFoundError,
          ⟨status, some status :: rest.map (fun _ => some .notExecuted), [b], s⟩)
      else
        (membersLoop f mode s rest isFoundError status).map fun r =>
          (r.1, ⟨r.2.status, some status :: r.2.statuses, b :: r.2.outs, r.2.state⟩)

/-- The loop, and the result by the flag. -/
def membersBulk (f : S → α → Option (Status × β × S)) (mode : BulkOpErrorMode) (s : S)
    (objects : List α) (isFoundError : BitVec 8) : Option (BulkOut S β) :=
  (membersLoop f mode s objects isFoundError .success).map fun r =>
    { r.2 with status := if r.1 = 1 then .failure else r.2.status }

section Lags

variable (known : Lchip → Bool) (pm : PortMap)

/-- `ctc_sai_lag_create_lag_member`. -/
def lagCreateLagMember (switchId : Oid) (db : LagDb) (o : LagSdk × List LagMemberAttr) :
    Status × Option Oid × LagDb :=
  if o.2.isEmpty then (.invalidParameter, none, db)
  else if known switchId.lchip then createLagMember pm o.1 db switchId.lchip o.2
  else (.uninitialized, none, db)

/-- `_ctc_sai_lag_remove_lag_member`, with its own lookup of the chip. -/
def lagRemoveMember (db : LagDb) (o : LagSdk × Oid) : Status × LagDb :=
  if known o.2.lchip then removeLagMember pm o.1 db o.2 else (.uninitialized, db)

/-- `ctc_sai_lag_remove_lag_member`. -/
def lagRemoveLagMember (db : LagDb) (o : LagSdk × Oid) : Status × LagDb :=
  if known o.2.lchip then lagRemoveMember known pm db o else (.uninitialized, db)

/-- `ctc_sai_lag_create_lag_members`; `isFoundError` is what the flag holds
before anything is written to it. -/
def lagCreateLagMembers (switchId : Oid) (db : LagDb) (mode : BulkOpErrorMode)
    (objects : List (LagSdk × List LagMemberAttr)) (isFoundError : BitVec 8) :
    Option (BulkOut LagDb (Option Oid)) :=
  if objects.isEmpty then some ⟨.invalidParameter, [], [], db⟩
  else if known switchId.lchip then
    membersBulk (fun db o => some (createLagMember pm o.1 db switchId.lchip o.2)) mode db objects
      isFoundError
  else some ⟨.uninitialized, objects.map (fun _ => none), [], db⟩

/-- `ctc_sai_lag_remove_lag_members`; of an empty list the first id is what
lies at its place in memory. -/
def lagRemoveLagMembers (beyond : Oid) (db : LagDb) (mode : BulkOpErrorMode)
    (objects : List (LagSdk × Oid)) : Option (BulkOut LagDb Unit) :=
  if known ((objects.head?.map (fun o => o.2)).getD beyond).lchip then
    membersBulk (fun db o =>
      let r := lagRemoveMember known pm db o
      some (r.1, (), r.2)) mode db objects 0
  else some ⟨.uninitialized, objects.map (fun _ => none), [], db⟩

end Lags

section Stps

variable {chips : Lchip → StpChip} (known : Lchip → Bool)

/-- The databases of the chips. -/
abbrev StpChips (chips : Lchip → StpChip) := ∀ c, StpDb (chips c)

/-- `_ctc_sai_stp_create_stp_port` on the chip of the switch. -/
def stpCreatePort (switchId : Oid) (dbs : StpChips chips) (o : StpSdk × List StpPortAttr) :
    Status × Option Oid × StpChips chips :=
  let r := createStpPort o.1 (dbs switchId.lchip) o.2
  (r.1, r.2.1, update dbs switchId.lchip r.2.2)

/-- `ctc_sai_stp_create_stp_port`. -/
def stpCreateStpPort (switchId : Oid) (dbs : StpChips chips) (o : StpSdk × List StpPortAttr) :
    Status × Option Oid × StpChips chips :=
  if o.2.isEmpty then (.invalidParameter, none, dbs)
  else if known switchId.lchip then stpCreatePort switchId dbs o
  else (.uninitialized, none, dbs)

/-- `_ctc_sai_stp_remove_stp_port`: the status of the lookup of the chip is not
looked at, and on a chip without a database no instance is found. -/
def stpRemovePort (dbs : StpChips chips) (o : StpSdk × Oid) :
    Option (Status × Unit × StpChips chips) :=
  if known o.2.lchip then
    (removeStpPort o.1 (dbs o.2.lchip) o.2).map fun r =>
      (r.1, (), update dbs o.2.lchip r.2)
  else some (if o.2 = Oid.null then .invalidObjectId else .itemNotFound, (), dbs)

/-- `ctc_sai_stp_remove_stp_port`. -/
def stpRemoveStpPort (dbs : StpChips chips) (o : StpSdk × Oid) :
    Option (Status × Unit × StpChips chips) :=
  if known o.2.lchip then stpRemovePort known dbs o else some (.uninitialized, (), dbs)

/-- `ctc_sai_stp_create_stp_ports`. -/
def stpCreateStpPorts (switchId : Oid) (dbs : StpChips chips) (mode : BulkOpErrorMode)
    (objects : List (StpSdk × List StpPortAttr)) :
    Option (BulkOut (StpChips chips) (Option Oid)) :=
  if objects.isEmpty then some ⟨.invalidParameter, [], [], dbs⟩
  else if known switchId.lchip then
    membersBulk (fun dbs o => some (stpCreatePort switchId dbs o)) mode dbs objects 0
  else some ⟨.uninitialized, objects.map (fun _ => none), [], dbs⟩

/-- `ctc_sai_stp_remove_stp_ports`. -/
def stpRemoveStpPorts (beyond : Oid) (dbs : StpChips chips) (mode : BulkOpErrorMode)
    (objects : List (StpSdk × Oid)) : Option (BulkOut (StpChips chips) Unit) :=
  if known ((objects.head?.map (fun o => o.2)).getD beyond).lchip then
    membersBulk (stpRemovePort known) mode dbs objects 0
  else some ⟨.uninitialized, objects.map (fun _ => none), [], dbs⟩

end Stps

end CtcSai
