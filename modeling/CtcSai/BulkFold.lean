/-
# `BulkFold` — when a bulk call is the fold of single calls

The loop of LAG members and STP ports is the fold, with a result by the flag
(`membersBulk_isFold`); so these calls fail the specification only by what
they do around it.  The loop of the routes is the fold only while nothing
fails, or when the last element does and that stops the call
(`routeBulk_isFold`).
-/
import CtcSai.BulkApi
import CtcSai.RouteKeys

namespace CtcSai

variable {S α β : Type} {mode : BulkOpErrorMode}

/-- The statuses that the specification asks for. -/
def foldStatuses (results : List (Status × β)) (n : Nat) : List (Option Status) :=
  results.map (fun r => some r.1) ++ List.replicate (n - results.length) (some .notExecuted)

theorem foldStatuses_cons (r : Status × β) (results : List (Status × β)) (n : Nat) :
    foldStatuses (r :: results) (n + 1) = some r.1 :: foldStatuses results n := by
  simp [foldStatuses]

theorem foldStatuses_success {results : List (Status × β)} {n : Nat} :
    (∀ st ∈ foldStatuses results n, st = some .success) ↔
      (∀ r ∈ results, r.1 = .success) ∧ n ≤ results.length := by
  unfold foldStatuses
  simp only [List.mem_append, List.mem_map, List.mem_replicate]
  constructor
  · intro h
    refine ⟨fun r hr => Option.some.inj (h _ (.inl ⟨r, hr, rfl⟩)), ?_⟩
    by_contra hlt
    have hne := h (some .notExecuted) (.inr ⟨by omega, rfl⟩)
    cases hne
  · rintro ⟨hall, hle⟩ st (⟨r, hr, rfl⟩ | ⟨hn, -⟩)
    · rw [hall r hr]
    · omega

section Members

variable {f : S → α → Option (Status × β × S)}

theorem membersLoop_eq (objects : List α) (s : S) (found : BitVec 8) (st : Status) :
    match bulkLoop f mode s objects with
    | none => membersLoop f mode s objects found st = none
    | some (results, s') => ∃ st', membersLoop f mode s objects found st =
        some (if ∃ r ∈ results, r.1 ≠ .success then 1 else found,
          ⟨st', foldStatuses results objects.length, results.map (fun r => r.2), s'⟩) ∧
        ((∀ r ∈ results, r.1 = .success) → st = .success → st' = .success) := by
  induction objects generalizing s found st with
  | nil => exact ⟨st, by simp [membersLoop, foldStatuses], fun _ h => h⟩
  | cons a rest ih =>
    unfold bulkLoop membersLoop
    cases hf : f s a with
    | none => rfl
    | some r =>
      obtain ⟨status, b, s₁⟩ := r
      dsimp only
      by_cases hstop : status ≠ .success ∧ mode = .stopOnError
      · rw [if_pos hstop, if_pos hstop, if_pos hstop.1]
        refine ⟨status, ?_, fun hall => absurd (hall _ List.mem_cons_self) hstop.1⟩
        have hex : ∃ r ∈ [(status, b)], r.1 ≠ .success :=
          ⟨_, List.mem_cons_self, hstop.1⟩
        rw [if_pos hex]
        simp [foldStatuses, List.map_const']
      rw [if_neg hstop, if_neg hstop]
      have hrest := ih s₁ (if status ≠ .success then 1 else found) status
      cases hb : bulkLoop f mode s₁ rest with
      | none =>
        rw [hb] at hrest
        rw [hrest]
        rfl
      | some q =>
        obtain ⟨results, s'⟩ := q
        rw [hb] at hrest
        obtain ⟨st', he, hst⟩ := hrest
        rw [he]
        have hflag : (if ∃ r ∈ results, r.1 ≠ .success then 1
            else if status ≠ .success then 1 else found) =
            if ∃ r ∈ (status, b) :: results, r.1 ≠ .success then (1 : BitVec 8)
            else found := by
          have hcons : (∃ r ∈ (status, b) :: results, r.1 ≠ .success) ↔
              status ≠ .success ∨ ∃ r ∈ results, r.1 ≠ .success :=
            List.exists_mem_cons_iff ..
          by_cases hex : ∃ r ∈ results, r.1 ≠ .success
          · rw [if_pos hex, if_pos (hcons.mpr (.inr hex))]
          rw [if_neg hex]
          by_cases hs : status ≠ .success
          · rw [if_pos hs, if_pos (hcons.mpr (.inl hs))]
          · rw [if_neg hs, if_neg fun h => (hcons.mp h).elim hs hex]
        refine ⟨st', ?_, fun hall _ => ?_⟩
        · rw [List.length_cons, foldStatuses_cons, ← hflag]
          rfl
        · exact hst (fun r hr => hall r (List.mem_cons_of_mem _ hr))
            (hall (status, b) List.mem_cons_self)

theorem membersBulk_eq (objects : List α) (s : S) (found : BitVec 8) :
    match bulkLoop f mode s objects with
    | none => membersBulk f mode s objects found = none
    | some (results, s') => ∃ st, membersBulk f mode s objects found =
        some ⟨st, foldStatuses results objects.length, results.map (fun r => r.2), s'⟩ ∧
        (st = .success ↔ (∀ r ∈ results, r.1 = .success) ∧ found ≠ 1) := by
  have hloop := @membersLoop_eq S α β mode f objects s found .success
  unfold membersBulk
  cases hb : bulkLoop f mode s objects with
  | none =>
    rw [hb] at hloop
    rw [hloop]
    rfl
  | some q =>
    obtain ⟨results, s'⟩ := q
    rw [hb] at hloop
    obtain ⟨st', he, hst⟩ := hloop
    rw [he]
    refine ⟨_, rfl, ?_⟩
    by_cases hex : ∃ r ∈ results, r.1 ≠ .success
    · simp only [if_pos hex]
      obtain ⟨r, hr, hne⟩ := hex
      exact iff_of_false nofun fun hand => hne (hand.1 r hr)
    simp only [if_neg hex]
    have hall : ∀ r ∈ results, r.1 = .success := fun r hr =>
      by_contra fun hne => hex ⟨r, hr, hne⟩
    by_cases h1 : found = 1
    · rw [if_pos h1]
      exact iff_of_false nofun fun hand => hand.2 h1
    · rw [if_neg h1]
      exact iff_of_true (hst hall rfl) ⟨hall, h1⟩

theorem length_of_success : ∀ {objects : List α} {s s' : S} {results : List (Status × β)},
      bulkLoop f mode s objects = some (results, s') → (∀ r ∈ results, r.1 = .success) →
      results.length = objects.length := by
  intro objects
  induction objects with
  | nil =>
    intro s s' results h _
    cases h
    rfl
  | cons a rest ih =>
    intro s s' results h hall
    unfold bulkLoop at h
    split at h
    · cases h
    split at h
    · next hstop =>
      cases h
      exact absurd (hall _ List.mem_cons_self) hstop.1
    obtain ⟨⟨q, t⟩, hq, he⟩ := Option.map_eq_some_iff.mp h
    cases he
    rw [List.length_cons, List.length_cons, ih hq fun r hr => hall r (List.mem_cons_of_mem _ hr)]

theorem bulkIsFold_some {objects : List α} {s s' : S} {results : List (Status × β)}
    (hb : bulkLoop f mode s objects = some (results, s')) (o : BulkOut S β) :
    BulkIsFold f mode s objects (some o) ↔
      o.state = s' ∧ o.statuses = foldStatuses results objects.length ∧
        o.outs = results.map (fun r => r.2) ∧
        (o.status = .success ↔ ∀ r ∈ results, r.1 = .success) := by
  have hall : (∀ st ∈ foldStatuses results objects.length, st = some .success) ↔
      ∀ r ∈ results, r.1 = .success := by
    rw [foldStatuses_success]
    exact and_iff_left_of_imp fun h => (length_of_success hb h).ge
  unfold BulkIsFold
  rw [hb]
  constructor
  · rintro ⟨o', ho, hstate, hstatuses, houts, hiff⟩
    cases ho
    refine ⟨hstate, hstatuses, houts, hiff.trans ?_⟩
    rw [hstatuses]
    exact hall
  · rintro ⟨hstate, hstatuses, houts, hiff⟩
    refine ⟨o, rfl, hstate, hstatuses, houts, hiff.trans ?_⟩
    rw [hstatuses]
    exact hall.symm

theorem foldMeets_some {objects : List α} {s s' : S} {results : List (Status × β)}
    (hb : bulkLoop f mode s objects = some (results, s')) (P : List (Status × β) → Prop) :
    FoldMeets f mode s objects P ↔ P results := by
  unfold FoldMeets
  rw [hb]
  exact ⟨fun h => h results s' rfl, fun h r₁ s₁ heq => by cases heq; exact h⟩

/-- The shared loop is the fold, but for a flag that is set from the start. -/
theorem membersBulk_isFold (objects : List α) (s : S) (found : BitVec 8) :
    BulkIsFold f mode s objects (membersBulk f mode s objects found) ↔
      FoldMeets f mode s objects fun results =>
        found ≠ 1 ∨ ∃ r ∈ results, r.1 ≠ .success := by
  have hbulk := @membersBulk_eq S α β mode f objects s found
  cases hb : bulkLoop f mode s objects with
  | none =>
    rw [hb] at hbulk
    unfold BulkIsFold FoldMeets
    rw [hb]
    exact iff_of_true hbulk nofun
  | some q =>
    obtain ⟨results, s'⟩ := q
    rw [hb] at hbulk
    obtain ⟨st, he, hst⟩ := hbulk
    rw [he, bulkIsFold_some hb, foldMeets_some hb]
    rw [hst]
    constructor
    · rintro ⟨-, -, -, hiff⟩
      by_cases hs : ∀ r ∈ results, r.1 = .success
      · exact .inl (hiff.mpr hs).2
      · right
        by_contra hno
        exact hs fun r hr => by_contra fun hne => hno ⟨r, hr, hne⟩
    · intro hor
      refine ⟨rfl, rfl, rfl, and_iff_left_of_imp fun hs => hor.resolve_right ?_⟩
      rintro ⟨r, hr, hne⟩
      exact hne (hs r hr)

end Members

/-! ## The loop of the routes -/

section Routes

variable {f : S → α → Status × S} {chipKnown : α → Bool}

/-- A single call on a route: its chip is looked up first. -/
def routeSingle (chipKnown : α → Bool) (f : S → α → Status × S) (s : S) (a : α) :
    Option (Status × Unit × S) :=
  let r := if chipKnown a then f s a else (.uninitialized, s)
  some (r.1, (), r.2)

theorem routeBulkLoop_ignore (objects : List α) (s : S)
    (h : ∀ st ∈ (routeBulkLoop chipKnown f .ignoreError s objects).statuses, st.isSome) :
    (routeBulkLoop chipKnown f .ignoreError s objects).status = .success := by
  induction objects generalizing s with
  | nil => rfl
  | cons a rest ih =>
    unfold routeBulkLoop at h ⊢
    by_cases hk : chipKnown a = true
    · rw [if_pos hk] at h ⊢
      rw [if_neg (fun hand => nomatch hand.2)] at h ⊢
      exact ih _ fun st hst => h st (List.mem_cons_of_mem _ hst)
    · rw [if_neg hk] at h
      exact absurd (h none List.mem_cons_self) (by simp)

theorem foldStatuses_isSome {results : List (Status × β)} {n : Nat} :
    ∀ st ∈ foldStatuses results n, st.isSome := by
  intro st hst
  rcases List.mem_append.mp hst with h | h
  · obtain ⟨r, -, rfl⟩ := List.mem_map.mp h
    rfl
  · rw [(List.mem_replicate.mp h).2]
    rfl

theorem fold_cons (s : S) (a : α) (rest : List α) :
    bulkLoop (routeSingle chipKnown f) mode s (a :: rest) =
      if (if chipKnown a then f s a else (.uninitialized, s)).1 ≠ .success ∧
          mode = .stopOnError then
        some ([((if chipKnown a then f s a else (.uninitialized, s)).1, ())],
          (if chipKnown a then f s a else (.uninitialized, s)).2)
      else
        (bulkLoop (routeSingle chipKnown f) mode
            (if chipKnown a then f s a else (.uninitialized, s)).2 rest).map fun r =>
          (((if chipKnown a then f s a else (.uninitialized, s)).1, ()) :: r.1, r.2) := rfl

/-- The fold of single calls never gets stuck. -/
theorem routeSingle_fold (objects : List α) (s : S) :
    ∃ q, bulkLoop (routeSingle chipKnown f) mode s objects = some q := by
  induction objects generalizing s with
  | nil => exact ⟨_, rfl⟩
  | cons a rest ih =>
    rw [fold_cons]
    generalize (if chipKnown a then f s a else (.uninitialized, s)) = r
    split
    · exact ⟨_, rfl⟩
    · obtain ⟨q, hq⟩ := ih r.2
      exact ⟨_, by rw [hq]; rfl⟩

/-- The loop of the routes is the fold while nothing fails, and where only the
last element does, on a chip that is there, in a call that stops. -/
theorem routeBulk_isFold (objects : List α) (s : S) :
    BulkIsFold (routeSingle chipKnown f) mode s objects
        (some (routeBulkLoop chipKnown f mode s objects)) ↔
      FoldMeets (routeSingle chipKnown f) mode s objects fun results =>
        (∀ r ∈ results, r.1 = .success) ∨
          (mode = .stopOnError ∧ results.length = objects.length ∧
            ∀ a ∈ objects.getLast?, chipKnown a = true) := by
  induction objects generalizing s with
  | nil =>
    have hb : bulkLoop (routeSingle chipKnown f) mode s [] = some ([], s) := rfl
    rw [bulkIsFold_some hb, foldMeets_some hb]
    exact iff_of_true ⟨rfl, rfl, rfl, iff_of_true rfl nofun⟩ (.inl nofun)
  | cons a rest ih =>
    by_cases hk : chipKnown a = true
    · by_cases hstop : (f s a).1 ≠ .success ∧ mode = .stopOnError
      · -- the call stops here, with nothing written behind
        have hb : bulkLoop (routeSingle chipKnown f) mode s (a :: rest) =
            some ([((f s a).1, ())], (f s a).2) := by
          rw [fold_cons, if_pos hk, if_pos hstop]
        rw [bulkIsFold_some hb, foldMeets_some hb]
        unfold routeBulkLoop
        rw [if_pos hk]
        rw [if_pos hstop]
        have hfail : ¬∀ r ∈ [((f s a).1, ())], r.1 = .success :=
          fun hall => hstop.1 (hall _ List.mem_cons_self)
        cases rest with
        | nil =>
          refine iff_of_true ⟨rfl, rfl, rfl, iff_of_false hstop.1 hfail⟩ (.inr ⟨hstop.2, rfl, ?_⟩)
          rintro _ ⟨⟩
          exact hk
        | cons b rest =>
          refine iff_of_false ?_ ?_
          · rintro ⟨-, hst, -⟩
            rw [List.length_cons, foldStatuses_cons] at hst
            have hnone := foldStatuses_isSome none (by
              rw [← (List.cons.inj hst).2]
              exact List.mem_cons_self)
            cases hnone
          · rintro (hall | ⟨-, hlen, -⟩)
            · exact hfail hall
            · simp at hlen
      · obtain ⟨⟨results, s'⟩, hrest⟩ :=
          @routeSingle_fold S α mode f chipKnown rest (f s a).2
        have hb : bulkLoop (routeSingle chipKnown f) mode s (a :: rest) =
            some (((f s a).1, ()) :: results, s') := by
          rw [fold_cons, if_pos hk, if_neg hstop, hrest]
          rfl
        have hih := ih (f s a).2
        rw [bulkIsFold_some hrest, foldMeets_some hrest] at hih
        rw [bulkIsFold_some hb, foldMeets_some hb]
        unfold routeBulkLoop
        rw [if_pos hk]
        rw [if_neg hstop, List.length_cons, foldStatuses_cons]
        by_cases hs : (f s a).1 = .success
        · have hforall : (∀ r ∈ ((f s a).1, ()) :: results, r.1 = .success) ↔
              ∀ r ∈ results, r.1 = .success :=
            List.forall_mem_cons.trans (and_iff_right hs)
          rw [hforall, List.map_cons]
          simp only [List.cons.injEq, true_and]
          rw [hih]
          cases rest with
          | nil =>
            cases hrest
            exact iff_of_true (.inl nofun) (.inl nofun)
          | cons b rest =>
            rw [List.getLast?_cons_cons]
            simp only [List.length_cons, Nat.add_right_cancel_iff]
        · -- an error is passed over, and so must be in the answer
          have hmode : mode = .ignoreError := by
            cases mode with
            | ignoreError => rfl
            | stopOnError => exact absurd ⟨hs, rfl⟩ hstop
          have hfail : ¬∀ r ∈ ((f s a).1, ()) :: results, r.1 = .success :=
            fun hall => hs (hall _ List.mem_cons_self)
          subst hmode
          refine iff_of_false ?_ ?_
          · rintro ⟨-, hst, -, hiff⟩
            refine hfail (hiff.mp (routeBulkLoop_ignore rest _ fun st hmem => ?_))
            rw [(List.cons.inj hst).2] at hmem
            exact foldStatuses_isSome st hmem
          · rintro (hall | ⟨hm, -⟩)
            · exact hfail hall
            · cases hm
    · -- the call returns at once, and the status of the element is not written
      obtain ⟨⟨results, s'⟩, hb⟩ :=
        @routeSingle_fold S α mode f chipKnown (a :: rest) s
      rw [bulkIsFold_some hb, foldMeets_some hb]
      rw [fold_cons, if_neg hk] at hb
      unfold routeBulkLoop
      rw [if_neg hk]
      by_cases hmode : mode = .stopOnError
      · rw [if_pos ⟨by simp, hmode⟩] at hb
        cases hb
        refine iff_of_false ?_ ?_
        · rintro ⟨-, hst, -⟩
          simp [foldStatuses] at hst
        · rintro (hall | ⟨-, hlen, hlast⟩)
          · exact absurd (hall _ List.mem_cons_self) (by simp)
          · cases rest with
            | nil => exact hk (hlast a rfl)
            | cons b rest => simp at hlen
      rw [if_neg fun hand => hmode hand.2] at hb
      obtain ⟨⟨q, t⟩, -, he⟩ := Option.map_eq_some_iff.mp hb
      cases he
      refine iff_of_false ?_ ?_
      · rintro ⟨-, hst, -⟩
        simp [foldStatuses] at hst
      · rintro (hall | ⟨hm, -⟩)
        · exact absurd (hall _ List.mem_cons_self) (by simp)
        · exact hmode hm

end Routes

/-! ## What stands around the shared loop -/

section Guards

variable {f single : S → α → Option (Status × β × S)} {isKnown : Bool}

theorem not_isFold_unwritten (a : α) (rest : List α) (s : S) (status : Status) :
    ¬BulkIsFold single mode s (a :: rest)
      (some ⟨status, (a :: rest).map (fun _ => none), [], s⟩) := by
  intro h
  cases hb : bulkLoop single mode s (a :: rest) with
  | none =>
    unfold BulkIsFold at h
    rw [hb] at h
    cases h
  | some q =>
    rw [bulkIsFold_some hb] at h
    have hnone := foldStatuses_isSome none (by
      rw [← h.2.1]
      exact List.mem_cons_self)
    cases hnone

theorem not_isFold_refused (s : S) {status : Status} (hs : status ≠ .success) :
    ¬BulkIsFold single mode s [] (some ⟨status, [], [], s⟩) := by
  have hb : bulkLoop single mode s [] = some ([], s) := rfl
  rw [bulkIsFold_some hb]
  rintro ⟨-, -, -, hiff⟩
  exact hs (hiff.mpr nofun)

theorem create_isFold (heq : isKnown = true → single = f) (objects : List α) (s : S)
    (found : BitVec 8) :
    BulkIsFold single mode s objects
        (if objects.isEmpty then some ⟨.invalidParameter, [], [], s⟩
          else if isKnown then membersBulk f mode s objects found
          else some ⟨.uninitialized, objects.map (fun _ => none), [], s⟩) ↔
      objects ≠ [] ∧ isKnown = true ∧ FoldMeets single mode s objects fun results =>
        found ≠ 1 ∨ ∃ r ∈ results, r.1 ≠ .success := by
  cases objects with
  | nil => exact iff_of_false (not_isFold_refused s nofun) fun h => h.1 rfl
  | cons a rest =>
    cases isKnown with
    | false => exact iff_of_false (not_isFold_unwritten a rest s _) fun h => nomatch h.2.1
    | true =>
      rw [heq rfl]
      refine (membersBulk_isFold (a :: rest) s found).trans ?_
      exact ⟨fun h => ⟨nofun, rfl, h⟩, fun h => h.2.2⟩

theorem remove_isFold (objects : List α) (s : S) {P : Prop} (hloop : isKnown = true →
      (BulkIsFold single mode s objects (membersBulk f mode s objects 0) ↔ P)) :
    BulkIsFold single mode s objects
        (if isKnown then membersBulk f mode s objects 0
          else some ⟨.uninitialized, objects.map (fun _ => none), [], s⟩) ↔
      isKnown = true ∧ P := by
  cases isKnown with
  | true => exact (hloop rfl).trans (and_iff_right rfl).symm
  | false =>
    refine iff_of_false ?_ fun h => nomatch h.1
    cases objects with
    | nil => exact not_isFold_refused s nofun
    | cons a rest => exact not_isFold_unwritten a rest s _

end Guards

/-! ## Two folds that differ in statuses -/

section Relate

variable {f g : S → α → Option (Status × β × S)} {good : α → Bool}

/-- Where an element is not good, both calls fail and change nothing, each
with a status of its own. -/
structure SameButStatus (f g : S → α → Option (Status × β × S)) (good : α → Bool) : Prop where
  onGood : ∀ s a, good a = true → f s a = g s a
  onBad : ∀ s a, good a ≠ true → ∃ st st' b, f s a = some (st, b, s) ∧ g s a = some (st', b, s) ∧
    st ≠ .success ∧ st' ≠ .success ∧ st ≠ st'

/-- The folds of the two. -/
theorem SameButStatus.fold (h : SameButStatus f g good) (objects : List α) (s : S) :
    match bulkLoop g mode s objects with
    | none => bulkLoop f mode s objects = none
    | some (results, s') => ∃ results', bulkLoop f mode s objects = some (results', s') ∧
        results'.length = results.length ∧
        results'.map (fun r => r.2) = results.map (fun r => r.2) ∧
        ((∀ r ∈ results', r.1 = .success) ↔ ∀ r ∈ results, r.1 = .success) ∧
        (results'.map (fun r => r.1) = results.map (fun r => r.1) ↔
          ∀ a ∈ objects.take results.length, good a = true) := by
  induction objects generalizing s with
  | nil => exact ⟨[], rfl, rfl, rfl, Iff.rfl, iff_of_true rfl nofun⟩
  | cons a rest ih =>
    unfold bulkLoop
    by_cases hgood : good a = true
    · rw [h.onGood s a hgood]
      cases hg : g s a with
      | none => rfl
      | some r =>
        obtain ⟨status, b, s₁⟩ := r
        dsimp only
        by_cases hstop : status ≠ .success ∧ mode = .stopOnError
        · rw [if_pos hstop, if_pos hstop]
          simpa using hgood
        rw [if_neg hstop, if_neg hstop]
        have hrest := ih s₁
        cases hb : bulkLoop g mode s₁ rest with
        | none =>
          rw [hb] at hrest
          rw [hrest]
          rfl
        | some q =>
          rw [hb] at hrest
          obtain ⟨results', he, hlen, houts, hall, hst⟩ := hrest
          rw [he]
          refine ⟨_, rfl, ?_, ?_, ?_, ?_⟩
          · simp [hlen]
          · simp [houts]
          · rw [List.forall_mem_cons, List.forall_mem_cons, hall]
          · simp [hst, hgood]
    · obtain ⟨st, st', b, hf, hg, hs, hs', hne⟩ := h.onBad s a hgood
      rw [hf, hg]
      dsimp only
      by_cases hstop : mode = .stopOnError
      · rw [if_pos ⟨hs', hstop⟩, if_pos ⟨hs, hstop⟩]
        refine ⟨_, rfl, rfl, rfl, ?_, ?_⟩
        · exact iff_of_false (fun hall => hs (hall _ List.mem_cons_self))
            fun hall => hs' (hall _ List.mem_cons_self)
        · simp [hne, hgood]
      rw [if_neg fun hand => hstop hand.2, if_neg fun hand => hstop hand.2]
      have hrest := ih s
      cases hb : bulkLoop g mode s rest with
      | none =>
        rw [hb] at hrest
        rw [hrest]
        rfl
      | some q =>
        rw [hb] at hrest
        obtain ⟨results', he, hlen, houts, -, -⟩ := hrest
        rw [he]
        refine ⟨_, rfl, ?_, ?_, ?_, ?_⟩
        · simp [hlen]
        · simp [houts]
        · exact iff_of_false (fun hall => hs (hall _ List.mem_cons_self))
            fun hall => hs' (hall _ List.mem_cons_self)
        · simp [hne, hgood]

theorem foldStatuses_inj {results results' : List (Status × β)} {n : Nat}
    (hlen : results'.length = results.length) :
    foldStatuses results' n = foldStatuses results n ↔
      results'.map (fun r => r.1) = results.map (fun r => r.1) := by
  have hmap : ∀ rs : List (Status × β),
      rs.map (fun r => some r.1) = (rs.map (fun r => r.1)).map some := fun rs => by
    rw [List.map_map]
    rfl
  unfold foldStatuses
  rw [hlen, List.append_left_inj, hmap, hmap]
  exact List.map_inj_right fun _ _ he => Option.some.inj he

theorem SameButStatus.membersBulk_isFold (h : SameButStatus f g good) (objects : List α) (s : S) :
    BulkIsFold g mode s objects (membersBulk f mode s objects 0) ↔
      FoldMeets g mode s objects fun results =>
        ∀ a ∈ objects.take results.length, good a = true := by
  have hbulk := @membersBulk_eq S α β mode f objects s 0
  have hfold := @SameButStatus.fold S α β mode f g good h objects s
  cases hb : bulkLoop g mode s objects with
  | none =>
    rw [hb] at hfold
    rw [hfold] at hbulk
    unfold BulkIsFold FoldMeets
    rw [hb]
    exact iff_of_true hbulk nofun
  | some q =>
    rw [hb] at hfold
    obtain ⟨results', he, hlen, houts, hall, hst⟩ := hfold
    rw [he] at hbulk
    obtain ⟨st, hout, hiff⟩ := hbulk
    rw [hout, bulkIsFold_some hb, foldMeets_some hb, ← hst]
    rw [foldStatuses_inj hlen, houts, hiff, hall]
    exact ⟨fun hand => hand.2.1, fun heq => ⟨rfl, heq, rfl, and_iff_left (by decide)⟩⟩

end Relate

/-! ## The six calls -/

section Calls

variable {known : Lchip → Bool}

/-- LAG members are created as by single calls, on a chip that is there, from
a list that is not empty, while the flag is not set before or something
fails. -/
theorem lagCreate_isFold (pm : PortMap) (switchId : Oid) (db : LagDb)
    (objects : List (LagSdk × List LagMemberAttr)) (isFoundError : BitVec 8) :
    BulkIsFold (fun db o => some (lagCreateLagMember known pm switchId db o)) mode db objects
        (lagCreateLagMembers known pm switchId db mode objects isFoundError) ↔
      objects ≠ [] ∧ known switchId.lchip = true ∧
        FoldMeets (fun db o => some (lagCreateLagMember known pm switchId db o)) mode db objects
          fun results => isFoundError ≠ 1 ∨ ∃ r ∈ results, r.1 ≠ .success := by
  refine create_isFold (fun hk => ?_) objects db isFoundError
  funext db o
  unfold lagCreateLagMember
  split
  · next he =>
    unfold createLagMember
    rw [if_pos he]
  · rfl

theorem stpCreate_isFold {chips : Lchip → StpChip} (switchId : Oid) (dbs : StpChips chips)
    (objects : List (StpSdk × List StpPortAttr)) :
    BulkIsFold (fun dbs o => some (stpCreateStpPort known switchId dbs o)) mode dbs objects
        (stpCreateStpPorts known switchId dbs mode objects) ↔
      objects ≠ [] ∧ known switchId.lchip = true := by
  have hsingle : known switchId.lchip = true →
      (fun (dbs : StpChips chips) o => some (stpCreateStpPort known switchId dbs o)) =
        fun dbs o => some (stpCreatePort switchId dbs o) := by
    intro hk
    funext dbs o
    unfold stpCreateStpPort
    split
    · next he =>
      unfold stpCreatePort createStpPort
      rw [if_pos he]
      dsimp only
      rw [Function.update_eq_self]
    · rfl
  refine (create_isFold hsingle objects dbs 0).trans ?_
  exact ⟨fun h => ⟨h.1, h.2.1⟩, fun h => ⟨h.1, h.2, fun _ _ _ => .inl (by decide)⟩⟩

/-- LAG members are removed as by single calls when the chip of the first id
is there. -/
theorem lagRemove_isFold (pm : PortMap) (beyond : Oid) (db : LagDb)
    (objects : List (LagSdk × Oid)) :
    BulkIsFold (fun db o =>
        let r := lagRemoveLagMember known pm db o
        some (r.1, (), r.2)) mode db objects
        (lagRemoveLagMembers known pm beyond db mode objects) ↔
      known ((objects.head?.map (fun o => o.2)).getD beyond).lchip = true := by
  have hsingle : (fun (db : LagDb) (o : LagSdk × Oid) =>
      let r := lagRemoveLagMember known pm db o
      some (r.1, (), r.2)) = fun db o =>
      let r := lagRemoveMember known pm db o
      some (r.1, (), r.2) := by
    funext db o
    have he : lagRemoveLagMember known pm db o = lagRemoveMember known pm db o := by
      unfold lagRemoveLagMember lagRemoveMember
      split <;> rfl
    rw [he]
  rw [hsingle]
  refine (remove_isFold objects db fun _ => membersBulk_isFold objects db 0).trans ?_
  exact and_iff_left fun _ _ _ => .inl (by decide)

/-- STP ports are removed as by single calls when every id that is got to is
of a chip that is there, the first even when the list is empty. -/
theorem stpRemove_isFold {chips : Lchip → StpChip} (beyond : Oid) (dbs : StpChips chips)
    (objects : List (StpSdk × Oid)) :
    BulkIsFold (stpRemoveStpPort known) mode dbs objects
        (stpRemoveStpPorts known beyond dbs mode objects) ↔
      known ((objects.head?.map (fun o => o.2)).getD beyond).lchip = true ∧
        FoldMeets (stpRemoveStpPort known) mode dbs objects fun results =>
          ∀ o ∈ objects.take results.length, known o.2.lchip = true := by
  have hsame : SameButStatus (@stpRemovePort chips known) (stpRemoveStpPort known)
      fun o => known o.2.lchip := by
    refine ⟨fun dbs o hk => ?_, fun dbs o hk => ?_⟩
    · rw [stpRemoveStpPort, if_pos hk]
    · rw [stpRemoveStpPort, if_neg hk, stpRemovePort, if_neg hk]
      refine ⟨_, _, _, rfl, rfl, ?_, nofun, ?_⟩
      · split <;> exact nofun
      · split <;> exact nofun
  exact remove_isFold objects dbs fun _ => hsame.membersBulk_isFold objects dbs

/-- Routes are created as by single calls while nothing fails, and where only
the last element does, on a chip that is there, in a call that stops. -/
theorem routeCreate_isFold {chips : Lchip → Chip} (m : MaskToLen) (dbs : RouteChips chips)
    (objects : List (RouteSdk × RouteEntry × List RouteAttr)) :
    BulkIsFold (fun dbs o =>
        let r := routeCreateRoute known m dbs o
        some (r.1, (), r.2)) mode dbs objects
        (some (routeBulkCreateRoute known m dbs mode objects)) ↔
      FoldMeets (fun dbs o =>
          let r := routeCreateRoute known m dbs o
          some (r.1, (), r.2)) mode dbs objects fun results =>
        (∀ r ∈ results, r.1 = .success) ∨
          (mode = .stopOnError ∧ results.length = objects.length ∧
            ∀ o ∈ objects.getLast?, known o.2.1.switchId.lchip = true) :=
  routeBulk_isFold objects dbs

theorem routeRemove_isFold {chips : Lchip → Chip} (m : MaskToLen) (dbs : RouteChips chips)
    (objects : List (RouteSdk × RouteEntry)) :
    BulkIsFold (fun dbs o =>
        let r := routeRemoveRoute known m dbs o
        some (r.1, (), r.2)) mode dbs objects
        (some (routeBulkRemoveRoute known m dbs mode objects)) ↔
      FoldMeets (fun dbs o =>
          let r := routeRemoveRoute known m dbs o
          some (r.1, (), r.2)) mode dbs objects fun results =>
        (∀ r ∈ results, r.1 = .success) ∨
          (mode = .stopOnError ∧ results.length = objects.length ∧
            ∀ o ∈ objects.getLast?, known o.2.switchId.lchip = true) :=
  routeBulk_isFold objects dbs

end Calls

/-! ## When each of the six is a fold -/

/-- A single call that makes no object. -/
def withoutObject (f : S → α → Status × S) (s : S) (a : α) : Option (Status × Unit × S) :=
  let r := f s a
  some (r.1, (), r.2)

/-- A single call that answers with an object or none. -/
def withObject (f : S → α → Status × β × S) (s : S) (a : α) : Option (Status × β × S) :=
  some (f s a)

/-- When each bulk call is the fold of its single calls: routes, LAG members
and STP ports, made and removed. -/
theorem bulk_isFold_iff (known : Lchip → Bool) (mode : BulkOpErrorMode) :
    (∀ {chips : Lchip → Chip} (m : MaskToLen) (dbs : RouteChips chips) objects,
      BulkIsFold (withoutObject (routeCreateRoute known m)) mode dbs objects
          (some (routeBulkCreateRoute known m dbs mode objects)) ↔
        FoldMeets (withoutObject (routeCreateRoute known m)) mode dbs objects fun results =>
          (∀ r ∈ results, r.1 = .success) ∨
            (mode = .stopOnError ∧ results.length = objects.length ∧
              ∀ o ∈ objects.getLast?, known o.2.1.switchId.lchip = true)) ∧
    (∀ {chips : Lchip → Chip} (m : MaskToLen) (dbs : RouteChips chips) objects,
      BulkIsFold (withoutObject (routeRemoveRoute known m)) mode dbs objects
          (some (routeBulkRemoveRoute known m dbs mode objects)) ↔
        FoldMeets (withoutObject (routeRemoveRoute known m)) mode dbs objects fun results =>
          (∀ r ∈ results, r.1 = .success) ∨
            (mode = .stopOnError ∧ results.length = objects.length ∧
              ∀ o ∈ objects.getLast?, known o.2.switchId.lchip = true)) ∧
    (∀ (pm : PortMap) (switchId : Oid) (db : LagDb) objects (isFoundError : BitVec 8),
      BulkIsFold (withObject (lagCreateLagMember known pm switchId)) mode db objects
          (lagCreateLagMembers known pm switchId db mode objects isFoundError) ↔
        objects ≠ [] ∧ known switchId.lchip = true ∧
          FoldMeets (withObject (lagCreateLagMember known pm switchId)) mode db objects
            fun results => isFoundError ≠ 1 ∨ ∃ r ∈ results, r.1 ≠ .success) ∧
    (∀ (pm : PortMap) (beyond : Oid) (db : LagDb) objects,
      BulkIsFold (withoutObject (lagRemoveLagMember known pm)) mode db objects
          (lagRemoveLagMembers known pm beyond db mode objects) ↔
        known ((objects.head?.map (fun o => o.2)).getD beyond).lchip = true) ∧
    (∀ {chips : Lchip → StpChip} (switchId : Oid) (dbs : StpChips chips) objects,
      BulkIsFold (withObject (stpCreateStpPort known switchId)) mode dbs objects
          (stpCreateStpPorts known switchId dbs mode objects) ↔
        objects ≠ [] ∧ known switchId.lchip = true) ∧
    (∀ {chips : Lchip → StpChip} (beyond : Oid) (dbs : StpChips chips) objects,
      BulkIsFold (stpRemoveStpPort known) mode dbs objects
          (stpRemoveStpPorts known beyond dbs mode objects) ↔
        known ((objects.head?.map (fun o => o.2)).getD beyond).lchip = true ∧
          FoldMeets (stpRemoveStpPort known) mode dbs objects fun results =>
            ∀ o ∈ objects.take results.length, known o.2.lchip = true) := by
  refine ⟨?_, ?_, ?_, ?_, ?_, ?_⟩
  · intro chips m dbs objects
    exact routeCreate_isFold m dbs objects
  · intro chips m dbs objects
    exact routeRemove_isFold m dbs objects
  · intro pm switchId db objects isFoundError
    exact lagCreate_isFold pm switchId db objects isFoundError
  · intro pm beyond db objects
    exact lagRemove_isFold pm beyond db objects
  · intro chips switchId dbs objects
    exact stpCreate_isFold switchId dbs objects
  · intro chips beyond dbs objects
    exact stpRemove_isFold beyond dbs objects

/-- One route without a next hop, in a call that goes on after errors: its
status is INVALID_PARAMETER, and the call's is SUCCESS. -/
theorem bulk_isFold_not_always :
    ¬ ∀ (dbs : RouteChips fun _ => .small) objects,
      BulkIsFold (withoutObject (routeCreateRoute (fun _ => true) .ones)) .ignoreError dbs objects
        (some (routeBulkCreateRoute (fun _ => true) .ones dbs .ignoreError objects)) := by
  intro h
  obtain ⟨o, ho, -, -, -, hiff⟩ :=
    h (fun _ => RouteDb.empty .small) [(.ok, route24 0x0a000000, [])]
  cases ho
  have hst := hiff.mp rfl (some .invalidParameter) List.mem_cons_self
  cases hst

end CtcSai
