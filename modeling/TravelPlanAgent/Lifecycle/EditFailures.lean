import TravelPlanAgent.Lifecycle.EditEffect
import TravelPlanAgent.Lifecycle.OpenMoves

/-!
# How an edit can fail

An operation looks its item up in the version, but its POI in the days that the operations before
have left.  When one of them has already taken the POI out, the list operations of the language
fail, and no domain error is raised.

* `IsDomain`, `OnlyDomainErrors`: failures that a user can be told.
* `LooksForPlace`, `IsRefused`: what an operation does before and apart from that.
* `applyOperation_of_missing`, `applyOperation_of_refused`, `applyOperation_of_found`: the three
  ends of an operation.
* `FindsPlaces`: every operation that is reached finds its POI.
* `onlyDomainErrors_iff`: an edit fails only with domain errors.
-/

namespace TravelPlanAgent

open Calendar Buckets

/-- A failure of the domain, with a code and a message. -/
def IsDomain (failure : Failure) : Prop := ∃ code message, failure = .lifecycleAction code message

theorem not_isDomain_keyError : ¬ IsDomain .keyError := by
  rintro ⟨code, message, h⟩
  cases h

theorem not_isDomain_valueError (text : String) : ¬ IsDomain (.valueError text) := by
  rintro ⟨code, message, h⟩
  cases h

/-- A computation that returns or fails with a failure of the domain. -/
def OnlyDomainErrors {α : Type} (outcome : Result α) : Prop :=
  ∀ failure, outcome = .error failure → IsDomain failure

section Outcomes

variable {α β : Type}

theorem onlyDomainErrors_ok (a : α) : OnlyDomainErrors (.ok a : Result α) := nofun

theorem onlyDomainErrors_error {failure : Failure} :
    OnlyDomainErrors (.error failure : Result α) ↔ IsDomain failure :=
  ⟨fun h => h failure rfl, fun h _ heq => Except.error.inj heq ▸ h⟩

/-- A computation that goes on purely. -/
theorem onlyDomainErrors_bind_pure {x : Result α} {f : α → β} :
    OnlyDomainErrors (do let a ← x; return f a) ↔ OnlyDomainErrors x := by
  cases x with
  | error failure => exact onlyDomainErrors_error.trans onlyDomainErrors_error.symm
  | ok a => exact ⟨fun _ => onlyDomainErrors_ok a, fun _ => onlyDomainErrors_ok _⟩

end Outcomes

variable [Platform]

/-! ## One operation -/

/-- An operation is refused, whatever the days hold. -/
def IsRefused (context : EditContext) (dates : List Date) (operation : EditOperation) : Prop :=
  checkOperation context operation ≠ .ok () ∨
    ((operation.kind = .replaceItem ∨ operation.kind = .addItem) ∧
      newPlace context.planningPois operation = none) ∨
    ((operation.kind = .moveItem ∨ operation.kind = .reorderItem ∨ operation.kind = .addItem) ∧
      ∃ date, operation.targetDate = some date ∧ date ∉ dates)

/-- An operation gets so far that it looks for its POI. -/
structure LooksForPlace (context : EditContext) (operation : EditOperation) : Prop where
  checked : checkOperation context operation = .ok ()
  kind : operation.kind ≠ .addItem
  resolved : operation.kind = .replaceItem → newPlace context.planningPois operation ≠ none

/-- After some other operations an operation names a POI, and finds it when it looks for it. -/
structure FindsPlace (context : EditContext) (candidate : PlanCandidate)
    (days : Dict Date (List String)) (before : List EditOperation) (operation : EditOperation) :
    Prop where
  named : checkOperation context operation = .ok () → operation.kind ≠ .addItem →
    ∃ place, placeNamed candidate operation = some place ∧ place.2 ≠ ""
  held : LooksForPlace context operation → ∀ place, placeNamed candidate operation = some place →
    (before.filterMap (takesPlace candidate)).count place <
      countIn days place + (before.filterMap (putsPlace candidate context.planningPois)).count place

section Operation

variable {candidate : PlanCandidate} {context : EditContext} {state after : EditState}
  {operation : EditOperation} {index : ℕ} {failure : Failure}

/-- The guards of an operation fail only with domain errors. -/
theorem isDomain_of_checkOperation (h : checkOperation context operation = .error failure) :
    IsDomain failure := by
  unfold checkOperation at h
  split at h
  · cases h
  · rcases bind_eq_error h with h | ⟨_, -, h⟩
    · exact ⟨_, _, (require_eq_error h).2⟩
    · exact ⟨_, _, (require_eq_error h).2⟩

/-- A place is resolved, or refused with a domain error. -/
theorem isDomain_of_resolvePoi {pois : List PlanningPOI}
    (hkind : operation.kind = .addItem ∨ operation.kind = .replaceItem)
    (h : resolvePoi pois (operation.poiName.getD "") = .error failure) :
    IsDomain failure ∧ newPlace pois operation = none := by
  refine ⟨?_, by rw [newPlace, if_pos hkind, h]; rfl⟩
  unfold resolvePoi at h
  split at h
  · cases h
  · cases h
    exact ⟨_, _, rfl⟩

omit [Platform] in
/-- Without a POI an operation stops at an assertion. -/
theorem operationSource_eq_error
    (hitems : context.candidateItems = .ofList (identifiedItems candidate))
    (h : operationSource context operation = .error failure) :
    ¬ IsDomain failure ∧
      ¬ ∃ place, placeNamed candidate operation = some place ∧ place.2 ≠ "" := by
  rcases bind_eq_error h with h | ⟨⟨day, item⟩, hentry, h⟩
  · obtain ⟨hnone, rfl⟩ := orRaise_eq_error h
    rw [operationItem_eq hitems] at hnone
    refine ⟨nofun, fun ⟨place, hplace, _⟩ => ?_⟩
    rw [placeNamed, hnone] at hplace
    cases hplace
  · rcases bind_eq_error h with h | ⟨_, -, h⟩
    · obtain ⟨hgiven, rfl⟩ := require_eq_error h
      have hnamed := (operationItem_eq hitems).symm.trans (orRaise_eq_ok hentry)
      refine ⟨nofun, fun ⟨place, hplace, hne⟩ => hgiven ?_⟩
      rw [placeNamed, hnamed, Option.bind_some] at hplace
      obtain ⟨poiId, hpoiId, rfl⟩ := Option.map_eq_some_iff.mp hplace
      have hitem : item.poiId = some poiId := hpoiId
      rw [isGiven, hitem]
      exact decide_eq_true hne
    · cases h

omit [Platform] in
/-- A POI that is taken out was held. -/
theorem countIn_of_takeOut {day : Date} {poiId : String} {days : Dict Date (List String)}
    (h : takeOut context state operation = .ok (day, poiId, days)) :
    0 < countIn state.days (day, poiId) := by
  obtain ⟨-, there, hthere, hmem, -⟩ := days_of_takeOut h
  exact (mem_of_countIn hthere).mpr hmem

omit [Platform] in
/-- When no POI is taken out, none is named or it is not held. -/
theorem takeOut_eq_error
    (hitems : context.candidateItems = .ofList (identifiedItems candidate))
    (h : takeOut context state operation = .error failure) :
    ¬ IsDomain failure ∧ ((¬ ∃ place, placeNamed candidate operation = some place ∧ place.2 ≠ "") ∨
      ∃ place, placeNamed candidate operation = some place ∧ countIn state.days place = 0) := by
  rcases bind_eq_error h with h | ⟨⟨day, poiId⟩, hsource, h⟩
  · obtain ⟨hfailure, hnone⟩ := operationSource_eq_error hitems h
    exact ⟨hfailure, .inl hnone⟩
  · obtain ⟨hplace, -⟩ := placeNamed_of_operationSource hitems hsource
    rcases bind_eq_error h with h | ⟨there, hthere, h⟩
    · obtain ⟨hnone, rfl⟩ := orRaise_eq_error h
      refine ⟨not_isDomain_keyError, .inr ⟨_, hplace, ?_⟩⟩
      rw [countIn, hnone]
      rfl
    · rcases bind_eq_error h with h | ⟨left, -, h⟩
      · unfold removeFirst at h
        split at h
        · cases h
        · next hmem =>
          cases h
          refine ⟨not_isDomain_valueError _,
            .inr ⟨_, hplace, Nat.eq_zero_of_not_pos fun hpos => hmem ?_⟩⟩
          exact (mem_of_countIn (orRaise_eq_ok hthere)).mp hpos
      · cases h

/-- An operation that looks for a POI and does not have it does not find it. -/
theorem not_findsPlace (hlooks : LooksForPlace context operation)
    (h : (¬ ∃ place, placeNamed candidate operation = some place ∧ place.2 ≠ "") ∨
      ∃ place, placeNamed candidate operation = some place ∧ countIn state.days place = 0) :
    ¬ FindsPlace context candidate state.days [] operation := by
  intro hfinds
  rcases h with hnone | ⟨place, hplace, hzero⟩
  · exact hnone (hfinds.named hlooks.checked hlooks.kind)
  · have hheld := hfinds.held hlooks place hplace
    rw [hzero] at hheld
    exact absurd hheld (by simp)

/-- An operation that has its POI finds it. -/
theorem findsPlace_of_held {place : Date × String}
    (hplace : placeNamed candidate operation = some place) (hgiven : place.2 ≠ "")
    (hheld : LooksForPlace context operation → 0 < countIn state.days place) :
    FindsPlace context candidate state.days [] operation where
  named _ _ := ⟨place, hplace, hgiven⟩
  held hlooks other hother := by
    rw [← Option.some.inj (hplace.symm.trans hother)]
    exact hheld hlooks

/-- An operation that does not get to its POI has nothing to find. -/
theorem findsPlace_of_unchecked (h : checkOperation context operation ≠ .ok ()) :
    FindsPlace context candidate state.days [] operation :=
  ⟨fun hchecked => absurd hchecked h, fun hlooks => absurd hlooks.checked h⟩

theorem findsPlace_of_addition (h : operation.kind = .addItem) :
    FindsPlace context candidate state.days [] operation :=
  ⟨fun _ hkind => absurd h hkind, fun hlooks => absurd h hlooks.kind⟩

/-- The three ends of an operation. -/
inductive OperationEnd (context : EditContext) (candidate : PlanCandidate) (state : EditState)
    (operation : EditOperation) : Result EditState → Prop where
  | refused {failure : Failure} (domain : IsDomain failure)
      (refused : IsRefused context state.days.keys operation)
      (finds : FindsPlace context candidate state.days [] operation) :
      OperationEnd context candidate state operation (.error failure)
  | missing {failure : Failure} (domain : ¬ IsDomain failure)
      (finds : ¬ FindsPlace context candidate state.days [] operation) :
      OperationEnd context candidate state operation (.error failure)
  | done {after : EditState} (refused : ¬ IsRefused context state.days.keys operation)
      (finds : FindsPlace context candidate state.days [] operation) :
      OperationEnd context candidate state operation (.ok after)

section Ends

variable (hitems : context.candidateItems = .ofList (identifiedItems candidate))
  (hchecked : checkOperation context operation = .ok ())

include hitems hchecked

theorem operationEnd_removeItem (hkind : operation.kind = .removeItem) :
    OperationEnd context candidate state operation (removeItem context state operation) := by
  have hlooks : LooksForPlace context operation :=
    ⟨hchecked, by rw [hkind]; decide, fun h => by rw [hkind] at h; cases h⟩
  cases htaken : takeOut context state operation with
  | error failure =>
    obtain ⟨hfailure, hmissing⟩ := takeOut_eq_error hitems htaken
    rw [removeItem, htaken]
    exact .missing hfailure (not_findsPlace hlooks hmissing)
  | ok taken =>
    obtain ⟨day, poiId, days⟩ := taken
    obtain ⟨hplace, hgiven⟩ := placeNamed_of_operationSource hitems (days_of_takeOut htaken).1
    rw [removeItem, htaken]
    refine .done ?_ (findsPlace_of_held hplace hgiven fun _ => countIn_of_takeOut htaken)
    rintro (hunchecked | ⟨hkinds, -⟩ | ⟨hkinds, -⟩)
    · exact hunchecked hchecked
    · rw [hkind] at hkinds
      exact absurd hkinds (by decide)
    · rw [hkind] at hkinds
      exact absurd hkinds (by decide)

theorem operationEnd_moveItem (hkind : operation.kind = .moveItem ∨ operation.kind = .reorderItem) :
    OperationEnd context candidate state operation (moveItem context state operation) := by
  have hother : operation.kind ≠ .addItem ∧ operation.kind ≠ .replaceItem := by
    rcases hkind with hkind | hkind <;> rw [hkind] <;> decide
  have hlooks : LooksForPlace context operation :=
    ⟨hchecked, hother.1, fun h => absurd h hother.2⟩
  cases htaken : takeOut context state operation with
  | error failure =>
    obtain ⟨hfailure, hmissing⟩ := takeOut_eq_error hitems htaken
    rw [moveItem, htaken]
    exact .missing hfailure (not_findsPlace hlooks hmissing)
  | ok taken =>
    obtain ⟨day, poiId, days⟩ := taken
    obtain ⟨hsource, there, hthere, -, hdays⟩ := days_of_takeOut htaken
    obtain ⟨hplace, hgiven⟩ := placeNamed_of_operationSource hitems hsource
    have hfinds : FindsPlace context candidate state.days [] operation :=
      findsPlace_of_held hplace hgiven fun _ => countIn_of_takeOut htaken
    have hkeys : days.keys = state.days.keys := by
      rw [hdays, Dict.keys_set_of_mem (Dict.mem_keys_of_get? hthere)]
    rw [moveItem, htaken]
    change OperationEnd _ _ _ _ (orRaise (days.get? (operation.targetDate.getD day)) _ >>= _)
    cases htarget : days.get? (operation.targetDate.getD day) with
    | none =>
      refine .refused ⟨_, _, rfl⟩ (.inr (.inr ⟨hkind.imp_right .inl, ?_⟩)) hfinds
      rw [Dict.get?_eq_none_iff, hkeys] at htarget
      cases hdate : operation.targetDate with
      | none =>
        rw [hdate] at htarget
        exact absurd (Dict.mem_keys_of_get? hthere) htarget
      | some date =>
        rw [hdate] at htarget
        exact ⟨date, rfl, htarget⟩
    | some there' =>
      refine .done ?_ hfinds
      rintro (hunchecked | ⟨hkinds, -⟩ | ⟨-, date, hdate, hunknown⟩)
      · exact hunchecked hchecked
      · exact hkinds.elim hother.2 hother.1
      · rw [hdate] at htarget
        exact hunknown (hkeys ▸ Dict.mem_keys_of_get? htarget)

theorem operationEnd_replaceItem (hkind : operation.kind = .replaceItem) :
    OperationEnd context candidate state operation
      (replaceItem context state operation index) := by
  cases hsource : operationSource context operation with
  | error failure =>
    obtain ⟨hfailure, hmissing⟩ := operationSource_eq_error hitems hsource
    rw [replaceItem, hsource]
    exact .missing hfailure fun hfinds => hmissing
      (hfinds.named hchecked (by rw [hkind]; decide))
  | ok source =>
    obtain ⟨day, poiId⟩ := source
    obtain ⟨hplace, hgiven⟩ := placeNamed_of_operationSource hitems hsource
    rw [replaceItem, hsource]
    change OperationEnd _ _ _ _ (resolvePoi _ _ >>= _)
    cases hnew : resolvePoi context.planningPois (operation.poiName.getD "") with
    | error failure =>
      obtain ⟨hfailure, hnone⟩ := isDomain_of_resolvePoi (.inr hkind) hnew
      exact .refused hfailure (.inr (.inl ⟨.inl hkind, hnone⟩))
        (findsPlace_of_held hplace hgiven fun hlooks => absurd hnone (hlooks.resolved hkind))
    | ok newPoiId =>
      have hplaced := newPlace_eq_some (.inr hkind) hnew
      have hlooks : LooksForPlace context operation :=
        ⟨hchecked, by rw [hkind]; decide, fun _ => by rw [hplaced]; exact Option.some_ne_none _⟩
      change OperationEnd _ _ _ _ (orRaise (state.days.get? day) _ >>= _)
      cases hthere : state.days.get? day with
      | none =>
        refine .missing not_isDomain_keyError (not_findsPlace hlooks (.inr ⟨_, hplace, ?_⟩))
        rw [countIn, hthere]
        rfl
      | some there =>
        change OperationEnd _ _ _ _ (require (poiId ∈ there) _ >>= _)
        by_cases hmem : poiId ∈ there
        · rw [require, if_pos hmem]
          refine .done ?_ (findsPlace_of_held hplace hgiven fun _ =>
            (mem_of_countIn hthere).mpr hmem)
          rintro (hunchecked | ⟨-, hnone⟩ | ⟨hkinds, -⟩)
          · exact hunchecked hchecked
          · exact absurd (hplaced.symm.trans hnone) (Option.some_ne_none _)
          · rw [hkind] at hkinds
            exact absurd hkinds (by decide)
        · rw [require, if_neg hmem]
          refine .missing (not_isDomain_valueError _) (not_findsPlace hlooks (.inr ⟨_, hplace, ?_⟩))
          exact Nat.eq_zero_of_not_pos fun hpos => hmem ((mem_of_countIn hthere).mp hpos)

omit hitems in
theorem operationEnd_addItem (hkind : operation.kind = .addItem)
    (hdated : operation.targetDate ≠ none) :
    OperationEnd context candidate state operation (addItem context state operation index) := by
  obtain ⟨target, htarget⟩ := Option.ne_none_iff_exists'.mp hdated
  rw [addItem, htarget]
  change OperationEnd _ _ _ _ (orRaise (state.days.get? target) _ >>= _)
  cases hthere : state.days.get? target with
  | none =>
    exact .refused ⟨_, _, rfl⟩ (.inr (.inr ⟨.inr (.inr hkind), target, htarget,
      Dict.get?_eq_none_iff.mp hthere⟩)) (findsPlace_of_addition hkind)
  | some there =>
    change OperationEnd _ _ _ _ (resolvePoi _ _ >>= _)
    cases hnew : resolvePoi context.planningPois (operation.poiName.getD "") with
    | error failure =>
      obtain ⟨hfailure, hnone⟩ := isDomain_of_resolvePoi (.inl hkind) hnew
      exact .refused hfailure (.inr (.inl ⟨.inr hkind, hnone⟩)) (findsPlace_of_addition hkind)
    | ok newPoiId =>
      have hplaced := newPlace_eq_some (.inl hkind) hnew
      refine .done ?_ (findsPlace_of_addition hkind)
      rintro (hunchecked | ⟨-, hnone⟩ | ⟨-, date, hdate, hunknown⟩)
      · exact hunchecked hchecked
      · exact nomatch hplaced.symm.trans hnone
      · obtain rfl := Option.some.inj (htarget.symm.trans hdate)
        exact hunknown (Dict.mem_keys_of_get? hthere)

end Ends

/-- **How an operation ends**: refused, without its POI, or done. -/
theorem operationEnd_applyOperation
    (hitems : context.candidateItems = .ofList (identifiedItems candidate))
    (hdated : operation.kind = .addItem → operation.targetDate ≠ none) :
    OperationEnd context candidate state operation
      (applyOperation context state operation index) := by
  unfold applyOperation
  cases hchecked : checkOperation context operation with
  | error failure =>
    have hunchecked : checkOperation context operation ≠ .ok () := fun h =>
      nomatch hchecked.symm.trans h
    exact .refused (isDomain_of_checkOperation hchecked) (.inl hunchecked)
      (findsPlace_of_unchecked hunchecked)
  | ok _ =>
    cases hkind : operation.kind with
    | removeItem => exact operationEnd_removeItem hitems hchecked hkind
    | moveItem => exact operationEnd_moveItem hitems hchecked (.inl hkind)
    | reorderItem => exact operationEnd_moveItem hitems hchecked (.inr hkind)
    | replaceItem => exact operationEnd_replaceItem hitems hchecked hkind
    | addItem => exact operationEnd_addItem hchecked hkind (hdated hkind)

end Operation

/-! ## Whole edits -/

/-- Every operation that is reached finds its POI: none before it is refused. -/
def FindsPlaces (context : EditContext) (candidate : PlanCandidate)
    (days : Dict Date (List String)) (operations : List EditOperation) : Prop :=
  ∀ before operation after, operations = before ++ operation :: after →
    (∀ earlier ∈ before, ¬ IsRefused context days.keys earlier) →
      FindsPlace context candidate days before operation

section Runs

variable {candidate : PlanCandidate} {context : EditContext} {state : EditState}
  {operation other : EditOperation} {days next : Dict Date (List String)}
  {rest before : List EditOperation}

/-- What an operation finds after another one, told before and after it. -/
theorem findsPlace_cons_iff
    (heffect : OperationEffect candidate context.planningPois operation days next) :
    FindsPlace context candidate days (operation :: before) other ↔
      FindsPlace context candidate next before other := by
  have hcount (place : Date × String) :
      ((operation :: before).filterMap (takesPlace candidate)).count place <
        countIn days place +
          ((operation :: before).filterMap (putsPlace candidate context.planningPois)).count place ↔
      (before.filterMap (takesPlace candidate)).count place <
        countIn next place +
          (before.filterMap (putsPlace candidate context.planningPois)).count place := by
    have hone := heffect.places place
    rw [count_filterMap_cons, count_filterMap_cons]
    omega
  exact ⟨fun h => ⟨h.named, fun hlooks place hplace =>
      (hcount place).mp (h.held hlooks place hplace)⟩,
    fun h => ⟨h.named, fun hlooks place hplace => (hcount place).mpr (h.held hlooks place hplace)⟩⟩

/-- After an operation that is done the others find their POIs in what it left. -/
theorem findsPlaces_cons_iff
    (heffect : OperationEffect candidate context.planningPois operation days next)
    (hrefused : ¬ IsRefused context days.keys operation)
    (hfinds : FindsPlace context candidate days [] operation) :
    FindsPlaces context candidate days (operation :: rest) ↔
      FindsPlaces context candidate next rest := by
  constructor
  · intro h before other after hsplit hbefore
    rw [heffect.keys] at hbefore
    exact (findsPlace_cons_iff heffect).mp
      (h (operation :: before) other after (by rw [hsplit]; rfl)
      (List.forall_mem_cons.mpr ⟨hrefused, hbefore⟩))
  · intro h before other after hsplit hbefore
    cases before with
    | nil =>
      obtain ⟨rfl, -⟩ := List.cons.inj hsplit
      exact hfinds
    | cons first before =>
      obtain ⟨rfl, hrest⟩ := List.cons.inj hsplit
      refine (findsPlace_cons_iff heffect).mpr (h before other after hrest ?_)
      rw [heffect.keys]
      exact (List.forall_mem_cons.mp hbefore).2

/-- A refused operation that finds its POI is the last one that is reached. -/
theorem findsPlaces_of_refused (hrefused : IsRefused context days.keys operation)
    (hfinds : FindsPlace context candidate days [] operation) :
    FindsPlaces context candidate days (operation :: rest) := by
  intro before other after hsplit hbefore
  cases before with
  | nil =>
    obtain ⟨rfl, -⟩ := List.cons.inj hsplit
    exact hfinds
  | cons first before =>
    obtain ⟨rfl, -⟩ := List.cons.inj hsplit
    exact absurd hrefused (hbefore operation List.mem_cons_self)

/-- A run of operations fails only with domain errors exactly when those that are reached find
their POIs. -/
theorem onlyDomainErrors_applyOperations_iff
    (hitems : context.candidateItems = .ofList (identifiedItems candidate))
    {operations : List (EditOperation × ℕ)}
    (hdated : ∀ entry ∈ operations, entry.1.kind = .addItem → entry.1.targetDate ≠ none) :
    OnlyDomainErrors (applyOperations context state operations) ↔
      FindsPlaces context candidate state.days (operations.map Prod.fst) := by
  induction operations generalizing state with
  | nil => exact ⟨fun _ before _ _ hsplit => by simp at hsplit, fun _ => onlyDomainErrors_ok _⟩
  | cons entry rest ih =>
    obtain ⟨operation, index⟩ := entry
    obtain ⟨hfirst, hrest⟩ := List.forall_mem_cons.mp hdated
    have hend : OperationEnd context candidate state operation
        (applyOperation context state operation index) := operationEnd_applyOperation hitems hfirst
    change OnlyDomainErrors (applyOperation context state operation index >>= _) ↔ _
    cases happly : applyOperation context state operation index with
    | error failure =>
      rw [happly] at hend
      refine onlyDomainErrors_error.trans ?_
      cases hend with
      | refused hdomain hrefused hfinds =>
        exact ⟨fun _ => findsPlaces_of_refused hrefused hfinds, fun _ => hdomain⟩
      | missing hdomain hmissing =>
        exact ⟨fun h => absurd h hdomain, fun h => absurd (h [] operation _ rfl nofun) hmissing⟩
    | ok next =>
      rw [happly] at hend
      cases hend with
      | done hrefused hfinds =>
        have heffect := operationEffect_of_applyOperation hitems happly
        exact (ih hrest).trans (findsPlaces_cons_iff heffect hrefused hfinds).symm

end Runs

/-- What stays fixed while a patch is applied to a version. -/
def editContext (sessionId requestId : String) (trip : TripSpec) (candidate : PlanCandidate)
    (pois : List PlanningPOI) : EditContext :=
  { sessionId, requestId, trip, candidateItems := .ofList (identifiedItems candidate)
    planningPois := pois }

/-- A patch is grounded and applied. -/
def groundAndApply (sessionId requestId : String) (trip : TripSpec) (candidate : PlanCandidate)
    (draft : CandidateDraft) (pois : List PlanningPOI) (patch : EditPatch) :
    Result (CandidateDraft × Dict String String) := do
  let grounded ← groundEditPatch candidate patch
  applyEditPatch sessionId requestId trip candidate draft pois grounded

section Edits

variable {sessionId requestId : String} {trip : TripSpec} {candidate : PlanCandidate}
  {draft : CandidateDraft} {pois : List PlanningPOI} {patch grounded : EditPatch}

omit [Platform] in
/-- An addition has a date. -/
theorem dated_of_valid {operation : EditOperation} (h : operation.valid = true)
    (hkind : operation.kind = .addItem) : operation.targetDate ≠ none := by
  unfold EditOperation.valid at h
  intro hnone
  rw [hkind, hnone] at h
  simp at h

/-- Grounding an operation changes its item id only. -/
theorem groundOperation_eq_ok {operation after : EditOperation}
    (h : groundOperation candidate operation = .ok after) :
    after.kind = operation.kind ∧ after.targetDate = operation.targetDate := by
  unfold groundOperation at h
  dsimp only at h
  split at h
  · split at h
    · cases h
      exact ⟨rfl, rfl⟩
    · cases h
  · split at h
    · split at h
      · cases h
        exact ⟨rfl, rfl⟩
      · cases h
      · cases h
    · cases h
      exact ⟨rfl, rfl⟩

/-- The additions of a grounded patch have dates. -/
theorem dated_of_groundEditPatch (hvalid : patch.valid = true)
    (h : groundEditPatch candidate patch = .ok grounded) :
    ∀ operation ∈ grounded.operations, operation.kind = .addItem → operation.targetDate ≠ none := by
  obtain ⟨operations, hoperations, h⟩ := bind_eq_ok h
  cases h
  intro after hafter hkind
  obtain ⟨operation, hoperation, hground⟩ :=
    exists_of_forall₂_right (mapM_eq_ok.mp hoperations) hafter
  obtain ⟨hsame, hdate⟩ := groundOperation_eq_ok hground
  rw [EditPatch.valid, Bool.and_eq_true, List.all_eq_true] at hvalid
  rw [hdate]
  exact dated_of_valid (hvalid.2 operation hoperation) (hsame.symm.trans hkind)

/-- **An edit fails only with domain errors** exactly when every operation of the grounded patch
that is reached finds its POI. -/
theorem onlyDomainErrors_iff (hvalid : patch.valid = true) :
    OnlyDomainErrors (groundAndApply sessionId requestId trip candidate draft pois patch) ↔
      ∀ grounded, groundEditPatch candidate patch = .ok grounded →
        FindsPlaces (editContext sessionId requestId trip candidate pois) candidate
          (initialEditState candidate draft).days grounded.operations := by
  cases hground : groundEditPatch candidate patch with
  | error failure =>
    obtain ⟨code, message, rfl, -⟩ := groundEditPatch_error hground
    rw [groundAndApply, hground]
    exact ⟨fun _ => nofun, fun _ => onlyDomainErrors_error.mpr ⟨code, message, rfl⟩⟩
  | ok grounded =>
    have hdated : ∀ entry ∈ grounded.operations.zipIdx,
        entry.1.kind = .addItem → entry.1.targetDate ≠ none := fun entry hentry =>
      dated_of_groundEditPatch hvalid hground entry.1 (List.fst_mem_of_mem_zipIdx hentry)
    have hruns : OnlyDomainErrors
          (applyOperations (editContext sessionId requestId trip candidate pois)
            (initialEditState candidate draft) grounded.operations.zipIdx) ↔
        FindsPlaces (editContext sessionId requestId trip candidate pois) candidate
          (initialEditState candidate draft).days (grounded.operations.zipIdx.map Prod.fst) :=
      onlyDomainErrors_applyOperations_iff rfl hdated
    rw [List.zipIdx_map_fst] at hruns
    rw [groundAndApply, hground]
    refine (onlyDomainErrors_bind_pure.trans hruns).trans
      ⟨fun h other hother => ?_, fun h => h _ rfl⟩
    rw [← Except.ok.inj hother]
    exact h

end Edits

namespace Sample

/-- Remove the visit of a POI, and remove it again. -/
def repeatedRemoval (session : PlanSession) (poiId : String) : EditPatch :=
  ⟨(removal session poiId).operations ++ (removal session poiId).operations⟩

end Sample

omit [Platform] in
/-- The second removal of an item does not find its POI. -/
theorem exists_not_onlyDomainErrors :
    let := plainPlatform
    let patch := Sample.repeatedRemoval Sample.pairSession "a"
    Reachable Sample.config Sample.pairSession ∧ patch.valid = true ∧
      (∃ version, activeVersion Sample.pairSession.record = .ok version ∧
        ¬ OnlyDomainErrors (groundAndApply "s" "r2" Sample.trip version.candidate
          version.candidateDraft version.planningPois patch)) ∧
      (Sample.send Sample.pairSession "after r1" "r2" (.edit patch)).1 =
        .raised (.valueError "list.remove(x): x not in list") := by
  intro _ patch
  refine ⟨Sample.reachable_send (Sample.reachable_startedWith ..) .., by decide +kernel, ?_,
    by decide +kernel⟩
  have hrun : okAnd (activeVersion Sample.pairSession.record) (fun version =>
      match @groundAndApply plainPlatform "s" "r2" Sample.trip version.candidate
        version.candidateDraft version.planningPois
        (Sample.repeatedRemoval Sample.pairSession "a") with
      | .ok _ => false
      | .error failure =>
        decide (failure = .valueError "list.remove(x): x not in list")) = true := by
    decide +kernel
  obtain ⟨version, hactive, hrun⟩ := okAnd_eq_true hrun
  refine ⟨version, hactive, fun honly => ?_⟩
  split at hrun
  · cases hrun
  · next failure hfailure =>
    obtain ⟨code, message, hdomain⟩ := honly failure hfailure
    rw [hdomain] at hrun
    exact absurd (of_decide_eq_true hrun) nofun

omit [Platform] in
/-- One removal finds its POI. -/
theorem onlyDomainErrors_iff_removal :
    let := plainPlatform
    let patch := Sample.removal Sample.pairSession "a"
    ∃ version, activeVersion Sample.pairSession.record = .ok version ∧
      OnlyDomainErrors (groundAndApply "s" "r2" Sample.trip version.candidate
        version.candidateDraft version.planningPois patch) ∧
      ∀ grounded, groundEditPatch version.candidate patch = .ok grounded →
        FindsPlaces (editContext "s" "r2" Sample.trip version.candidate version.planningPois)
          version.candidate (initialEditState version.candidate version.candidateDraft).days
          grounded.operations := by
  intro _ patch
  have hrun : okAnd (activeVersion Sample.pairSession.record) (fun version =>
      okAnd (@groundAndApply plainPlatform "s" "r2" Sample.trip version.candidate
        version.candidateDraft version.planningPois (Sample.removal Sample.pairSession "a"))
        fun _ => true) = true := by decide +kernel
  obtain ⟨version, hactive, hrun⟩ := okAnd_eq_true hrun
  obtain ⟨edit, hedit, -⟩ := okAnd_eq_true hrun
  have honly : OnlyDomainErrors (groundAndApply "s" "r2" Sample.trip version.candidate
      version.candidateDraft version.planningPois patch) := hedit ▸ onlyDomainErrors_ok edit
  exact ⟨version, hactive, honly, (onlyDomainErrors_iff (by decide +kernel)).mp honly⟩

end TravelPlanAgent
