import TravelPlanAgent.Lifecycle.OpenMoves

/-!
# Answers to a question about an edit

Grounding asks about the first operation that it cannot ground.  The answer is put into the first
operation without an item id, which is an earlier one whenever an earlier operation adds a place
or names its item by a name that is clear.

* `mapM_eq_error_iff`: the first failure of a loop.
* `AsksAbout`: the operation that grounding fails at, when it names its item by name.
* `clarifyOperations_eq_iff`: which operation the answer goes to.
* `clarifies_iff`: the answer goes to the operation that was asked about.
-/

namespace TravelPlanAgent

open Calendar

variable [Platform]

omit [Platform] in
/-- A loop fails with its first failure. -/
theorem mapM_eq_error_iff {ε α β : Type} {f : α → Except ε β} {l : List α} {failure : ε} :
    l.mapM f = .error failure ↔
      ∃ before a after, l = before ++ a :: after ∧ (∀ b ∈ before, ∃ value, f b = .ok value) ∧
        f a = .error failure := by
  induction l with
  | nil => exact ⟨nofun, fun ⟨before, _, _, hsplit, _⟩ => by simp at hsplit⟩
  | cons first rest ih =>
    rw [List.mapM_cons]
    cases hfirst : f first with
    | error earlier =>
      change Except.error earlier = .error failure ↔ _
      constructor
      · intro h
        obtain rfl := Except.error.inj h
        exact ⟨[], first, rest, rfl, nofun, hfirst⟩
      · rintro ⟨before, a, after, hsplit, hbefore, hfailed⟩
        cases before with
        | nil =>
          obtain ⟨rfl, rfl⟩ := List.cons.inj hsplit
          rw [Except.error.inj (hfirst.symm.trans hfailed)]
        | cons b before =>
          obtain ⟨rfl, -⟩ := List.cons.inj hsplit
          obtain ⟨value, hvalue⟩ := hbefore first List.mem_cons_self
          exact nomatch hfirst.symm.trans hvalue
    | ok value =>
      have hrest : (do let values ← rest.mapM f; pure (value :: values) : Except ε (List β)) =
          .error failure ↔ rest.mapM f = .error failure := by
        cases rest.mapM f with
        | error later => rfl
        | ok values => exact ⟨nofun, nofun⟩
      refine hrest.trans (ih.trans ⟨?_, ?_⟩)
      · rintro ⟨before, a, after, rfl, hbefore, hfailed⟩
        exact ⟨first :: before, a, after, rfl,
          List.forall_mem_cons.mpr ⟨⟨value, hfirst⟩, hbefore⟩, hfailed⟩
      · rintro ⟨before, a, after, hsplit, hbefore, hfailed⟩
        cases before with
        | nil =>
          obtain ⟨rfl, rfl⟩ := List.cons.inj hsplit
          exact nomatch hfirst.symm.trans hfailed
        | cons b before =>
          obtain ⟨rfl, rfl⟩ := List.cons.inj hsplit
          exact ⟨before, a, after, rfl, fun c hc => hbefore c (List.mem_cons_of_mem _ hc), hfailed⟩

/-! ## The question -/

/-- Grounding fails at this operation, which names its item only by name. -/
structure AsksAbout (candidate : PlanCandidate) (patch : EditPatch) (before : List EditOperation)
    (asked : EditOperation) (after : List EditOperation) : Prop where
  split : patch.operations = before ++ asked :: after
  grounded : ∀ operation ∈ before, ∃ grounded, groundOperation candidate operation = .ok grounded
  refused : ∃ failure, groundOperation candidate asked = .error failure
  unnamed : asked.itemId = none

section Question

variable {candidate : PlanCandidate} {patch : EditPatch}

/-- Grounding fails at the first operation that cannot be grounded. -/
theorem groundEditPatch_eq_error_iff {failure : Failure} :
    groundEditPatch candidate patch = .error failure ↔
      ∃ before asked after, patch.operations = before ++ asked :: after ∧
        (∀ operation ∈ before, ∃ grounded, groundOperation candidate operation = .ok grounded) ∧
        groundOperation candidate asked = .error failure := by
  rw [← mapM_eq_error_iff, groundEditPatch]
  cases patch.operations.mapM (groundOperation candidate) with
  | error later =>
    change Except.error later = .error failure ↔ Except.error later = .error failure
    exact ⟨fun h => by rw [Except.error.inj h], fun h => by rw [Except.error.inj h]⟩
  | ok _ => exact ⟨nofun, nofun⟩

end Question

/-! ## The answer -/

omit [Platform] in
/-- The answer goes to an operation without an item id exactly when all earlier ones have one. -/
theorem clarifyOperations_eq_iff {itemId : String} {before after : List EditOperation}
    {asked : EditOperation} (hunnamed : asked.itemId = none) :
    clarifyOperations itemId (before ++ asked :: after) =
        some (before ++ { asked with itemId := some itemId } :: after) ↔
      ∀ operation ∈ before, operation.itemId ≠ none := by
  induction before with
  | nil =>
    rw [List.nil_append, clarifyOperations, if_pos hunnamed]
    exact ⟨fun _ => nofun, fun _ => rfl⟩
  | cons first rest ih =>
    rw [List.cons_append, List.cons_append, List.forall_mem_cons]
    by_cases hfirst : first.itemId = none
    · rw [clarifyOperations, if_pos hfirst]
      refine ⟨fun h => ?_, fun h => absurd hfirst h.1⟩
      have hsame := (List.cons.inj (Option.some.inj h)).1
      rw [← hsame] at hfirst
      exact nomatch hfirst
    · rw [clarifyOperations, if_neg hfirst, ← ih]
      constructor
      · intro h
        obtain ⟨operations, hoperations, hcons⟩ := Option.map_eq_some_iff.mp h
        rw [hoperations, (List.cons.inj hcons).2]
        exact ⟨hfirst, rfl⟩
      · rintro ⟨-, h⟩
        rw [h]
        rfl

omit [Platform] in
/-- An operation without an item id can be answered. -/
theorem clarifyOperations_exists (itemId : String) {operations : List EditOperation}
    {operation : EditOperation} (hmem : operation ∈ operations)
    (hunnamed : operation.itemId = none) :
    ∃ clarified, clarifyOperations itemId operations = some clarified := by
  induction operations with
  | nil => exact absurd hmem List.not_mem_nil
  | cons first rest ih =>
    by_cases hfirst : first.itemId = none
    · exact ⟨_, by rw [clarifyOperations, if_pos hfirst]⟩
    · rcases List.mem_cons.mp hmem with rfl | hmem
      · exact absurd hunnamed hfirst
      · obtain ⟨clarified, hclarified⟩ := ih hmem
        exact ⟨_, by rw [clarifyOperations, if_neg hfirst, hclarified]; rfl⟩

/-- The node goes on with this patch. -/
def GoesOnWith (outcome : Result NodeOutcome) (patch : EditPatch) : Prop :=
  ∃ after, outcome = .ok (.goto after) ∧ after.editPatch = some patch

section Answer

variable {state : LifecycleState} {session : PlanSessionRecord} {request : LifecycleResumeRequest}
  {version : PlanVersion} {itemId : String} {patch : EditPatch}
  {before after : List EditOperation} {asked : EditOperation}

omit [Platform] in
/-- What the node makes of an answer with a known item id. -/
theorem goesOnWith_iff {operations : List EditOperation} (haction : state.action = some request)
    (hanswer : request.action = .clarifyEdit itemId)
    (hexpected : ensureExpected session request = .ok ())
    (hstatus : session.status = .needsEditClarification)
    (hactive : activeVersion session = .ok version)
    (hknown : itemId ∈ (identifiedItems version.candidate).map Prod.fst)
    (hpatch : state.editPatch = some patch) (hmem : asked ∈ patch.operations)
    (hunnamed : asked.itemId = none) :
    GoesOnWith (applyEditClarification state session) ⟨operations⟩ ↔
      clarifyOperations itemId patch.operations = some operations := by
  obtain ⟨clarified, hclarified⟩ := clarifyOperations_exists itemId hmem hunnamed
  rw [GoesOnWith, applyEditClarification_answer haction hanswer hexpected hstatus hactive hknown
    hpatch hclarified, hclarified]
  constructor
  · rintro ⟨next, hnext, hedit⟩
    obtain rfl := NodeOutcome.goto.inj (Except.ok.inj hnext)
    exact congrArg some (EditPatch.mk.inj (Option.some.inj hedit))
  · intro h
    rw [← Option.some.inj h]
    exact ⟨_, rfl, rfl⟩

/-- **The answer goes to the operation that was asked about** exactly when every earlier operation
names its item by id. -/
theorem clarifies_iff (haction : state.action = some request)
    (hanswer : request.action = .clarifyEdit itemId)
    (hexpected : ensureExpected session request = .ok ())
    (hstatus : session.status = .needsEditClarification)
    (hactive : activeVersion session = .ok version)
    (hknown : itemId ∈ (identifiedItems version.candidate).map Prod.fst)
    (hpatch : state.editPatch = some patch)
    (hasks : AsksAbout version.candidate patch before asked after) :
    GoesOnWith (applyEditClarification state session)
        ⟨before ++ { asked with itemId := some itemId } :: after⟩ ↔
      ∀ operation ∈ before, operation.itemId ≠ none := by
  have hmem : asked ∈ patch.operations := by
    rw [hasks.split]
    exact List.mem_append_right _ List.mem_cons_self
  rw [goesOnWith_iff haction hanswer hexpected hstatus hactive hknown hpatch hmem hasks.unnamed,
    hasks.split]
  exact clarifyOperations_eq_iff hasks.unnamed

end Answer

/-! ## An edit that adds a place first -/

namespace Sample

omit [Platform]

/-- Add a place to the first day. -/
def addition : EditOperation := ⟨.addItem, none, none, some day1, none, some "c"⟩

/-- Remove an item by a name that no item has. -/
def unclearRemoval : EditOperation := ⟨.removeItem, none, some "x", none, none, none⟩

/-- The session that is asked about an edit of the two-day trip. -/
def questionedSession (operations : List EditOperation) : PlanSession :=
  (send (selectedFrom [draft] pois) "after r1" "r2" (.edit ⟨operations⟩)).2

/-- The state in which the answer arrives. -/
def answeredState (state : LifecycleState) (itemId : String) : LifecycleState :=
  { state with action := some (request "after r2" "r3" (.clarifyEdit itemId)) }

/-- A session that waits for the answer to the question about an edit of the two-day trip. -/
structure Asked (before : List EditOperation) (state : LifecycleState) (version : PlanVersion)
    (itemId : String) : Prop where
  reachable : @Reachable plainPlatform config (questionedSession (before ++ [unclearRemoval]))
  interrupted : ∃ payload, (questionedSession (before ++ [unclearRemoval])).thread =
    some ⟨state, .interrupted "after r2" payload⟩
  status : (questionedSession (before ++ [unclearRemoval])).record.status = .needsEditClarification
  active : activeVersion (questionedSession (before ++ [unclearRemoval])).record = .ok version
  known : itemId ∈ (identifiedItems version.candidate).map Prod.fst
  pending : state.editPatch = some ⟨before ++ [unclearRemoval]⟩
  valid : EditPatch.valid ⟨before ++ [unclearRemoval]⟩ = true
  asks : @AsksAbout plainPlatform version.candidate ⟨before ++ [unclearRemoval]⟩ before
    unclearRemoval []

theorem exists_asked (before : List EditOperation)
    (hbefore : ∀ operation ∈ before, operation.itemId = none ∧ operation.itemName = none)
    (hvalid : EditPatch.valid ⟨before ++ [unclearRemoval]⟩ = true)
    (hrun : (decide ((questionedSession (before ++ [unclearRemoval])).record.status =
        .needsEditClarification) &&
      decide ((questionedSession (before ++ [unclearRemoval])).pendingInterrupts = ["after r2"]) &&
      (questionedSession (before ++ [unclearRemoval])).thread.any (fun thread =>
        decide (thread.state.editPatch = some ⟨before ++ [unclearRemoval]⟩)) &&
      okAnd (activeVersion (questionedSession (before ++ [unclearRemoval])).record) fun version =>
        !(identifiedItems version.candidate).isEmpty &&
        (@groundOperation plainPlatform version.candidate unclearRemoval).toOption.isNone) =
      true) :
    ∃ state version itemId, Asked before state version itemId := by
  simp only [Bool.and_eq_true, decide_eq_true_eq] at hrun
  obtain ⟨⟨⟨hstatus, hpending⟩, hpatch⟩, hversion⟩ := hrun
  obtain ⟨version, hactive, hversion⟩ := okAnd_eq_true hversion
  simp only [Bool.and_eq_true, Bool.not_eq_true', List.isEmpty_eq_false_iff] at hversion
  obtain ⟨hitems, hrefused⟩ := hversion
  obtain ⟨entry, hentry⟩ := List.exists_mem_of_ne_nil _ hitems
  let := plainPlatform
  obtain ⟨state, payload, hthread⟩ :=
    exists_thread_of_pending (hpending ▸ List.mem_cons_self : "after r2" ∈ _)
  rw [hthread] at hpatch
  refine ⟨state, version, entry.1, ?_, ⟨payload, hthread⟩, hstatus, hactive,
    List.mem_map_of_mem hentry, of_decide_eq_true hpatch, hvalid, rfl, ?_, ?_, rfl⟩
  · exact reachable_send (reachable_send (reachable_startedWith ..) ..) ..
  · intro operation hoperation
    obtain ⟨hid, hname⟩ := hbefore operation hoperation
    refine ⟨operation, ?_⟩
    unfold groundOperation
    rw [hid, hname]
    rfl
  · cases hground : @groundOperation plainPlatform version.candidate unclearRemoval with
    | error failure => exact ⟨failure, rfl⟩
    | ok grounded =>
      rw [hground] at hrefused
      cases hrefused

end Sample

omit [Platform] in
/-- The answer to a question about an item becomes the id of a place that is added. -/
theorem exists_not_clarifies :
    ∃ state version itemId, Sample.Asked [Sample.addition] state version itemId ∧
      ¬ GoesOnWith (applyEditClarification (Sample.answeredState state itemId)
          (Sample.questionedSession [Sample.addition, Sample.unclearRemoval]).record)
        ⟨[Sample.addition, { Sample.unclearRemoval with itemId := some itemId }]⟩ := by
  obtain ⟨state, version, itemId, hasked⟩ :=
    Sample.exists_asked [Sample.addition] (by decide) (by decide +kernel) (by decide +kernel)
  have hpatch : (Sample.answeredState state itemId).editPatch =
    some ⟨[Sample.addition, Sample.unclearRemoval]⟩ := hasked.pending
  refine ⟨state, version, itemId, hasked, fun hgoes => ?_⟩
  have hclarified := (goesOnWith_iff rfl rfl rfl hasked.status hasked.active hasked.known hpatch
    List.mem_cons_self rfl).mp hgoes
  have hidentified : ∀ operation ∈ [Sample.addition], operation.itemId ≠ none :=
    (clarifyOperations_eq_iff rfl).mp hclarified
  exact hidentified Sample.addition List.mem_cons_self rfl

omit [Platform] in
/-- The answer to a question about the only operation reaches it. -/
theorem clarifies_iff_sample :
    ∃ state version itemId, Sample.Asked [] state version itemId ∧
      GoesOnWith (applyEditClarification (Sample.answeredState state itemId)
          (Sample.questionedSession [Sample.unclearRemoval]).record)
        ⟨[{ Sample.unclearRemoval with itemId := some itemId }]⟩ := by
  obtain ⟨state, version, itemId, hasked⟩ :=
    Sample.exists_asked [] (by decide) (by decide +kernel) (by decide +kernel)
  have hpatch : (Sample.answeredState state itemId).editPatch = some ⟨[Sample.unclearRemoval]⟩ :=
    hasked.pending
  exact ⟨state, version, itemId, hasked, (@clarifies_iff plainPlatform _ _ _ _ _ _ _ _ _ rfl rfl
    rfl hasked.status hasked.active hasked.known hpatch hasked.asks).mpr nofun⟩

end TravelPlanAgent
