import Mathlib.Data.List.Sublists
import TravelPlanAgent.Tools.ProviderChain

/-!
# Histories of calls of a chain

Calls of one chain overlap: between the start of a call and the answer of a provider other calls
change the circuits.  A history is a list of starts and answers, with the readings of the clock.

* `ChainState`, `ChainEvent`, `ChainState.step`, `runEvents`: the calls under way and the circuits.
* `OpenAt`, `available_fst`, `available_circuits`: the circuits at the start of a call.
* `CallInvariant`, `callInvariant_step`: where a call stands among the providers it found.
* `LawfulCall`, `StaysOpen`: fail-over within a call, and circuits over a history.
* `chainLawful`: both hold in every history with a clock that does not go back.
-/

namespace TravelPlanAgent

open Calendar

variable {ι π α : Type} [DecidableEq ι] [DecidableEq π]

/-! ## Calls under way -/

/-- A call of `_execute`: the circuits and the clock at its start, what was tried, and what is left
of the available providers, the one being called first. -/
structure ChainCall (π α : Type) where
  found : π → Circuit
  startedAt : DateTime
  tried : List (π × Except CallError α)
  left : List π
  result : Option (Except CallError α)

/-- The circuits, the categories of the failures that each of them counts, and the calls. -/
structure ChainState (ι π α : Type) where
  circuits : π → Circuit
  failed : π → List ToolErrorCategory
  calls : ι → Option (ChainCall π α)

inductive ChainEvent (ι α : Type) where
  /-- A call starts. -/
  | started (id : ι) (now : DateTime)
  /-- The provider that a call waits for answers or raises. -/
  | answered (id : ι) (outcome : Except CallError α) (now : DateTime)

/-- What the clock shows. -/
def ChainEvent.time : ChainEvent ι α → DateTime
  | .started _ now => now
  | .answered _ _ now => now

/-- The call that an event belongs to. -/
def ChainEvent.call : ChainEvent ι α → ι
  | .started id _ => id
  | .answered id _ _ => id

/-- The call after its provider answered. -/
def ChainCall.answer (call : ChainCall π α) (source : π) (rest : List π)
    (outcome : Except CallError α) : ChainCall π α :=
  { call with
    tried := call.tried ++ [(source, outcome)]
    left := rest
    result := if ProviderChain.canFailover outcome ∧ rest ≠ [] then none else some outcome }

/-- Whether a circuit is open at this time. -/
def OpenAt (circuits : π → Circuit) (source : π) (now : DateTime) : Prop :=
  ∃ openUntil ∈ (circuits source).openUntil, now.instant < openUntil.instant

/-- Whether a circuit was open and its time is over. -/
def Expired (circuits : π → Circuit) (source : π) (now : DateTime) : Prop :=
  ∃ openUntil ∈ (circuits source).openUntil, openUntil.instant ≤ now.instant

instance (circuits : π → Circuit) (source : π) (now : DateTime) :
    Decidable (OpenAt circuits source now) :=
  inferInstanceAs (Decidable (∃ openUntil ∈ _, _))

instance (circuits : π → Circuit) (source : π) (now : DateTime) :
    Decidable (Expired circuits source now) :=
  inferInstanceAs (Decidable (∃ openUntil ∈ _, _))

namespace ChainState

variable (chain : ProviderChain π) (state : ChainState ι π α)

/-- The state of a new chain. -/
def new : ChainState ι π α := ⟨fun _ => {}, fun _ => [], fun _ => none⟩

/-- What an answer does to the circuit of its provider. -/
def note (source : π) (outcome : Except CallError α) (now : DateTime) : ChainState ι π α :=
  match outcome with
  | .ok _ =>
    { state with
      circuits := ProviderChain.noteSuccess state.circuits source
      failed := Function.update state.failed source [] }
  | .error (.provider error) =>
    { state with
      circuits := chain.noteFailure state.circuits source now
      failed := Function.update state.failed source (state.failed source ++ [error.category]) }
  | .error _ => state

/-- One event. -/
def step : ChainEvent ι α → ChainState ι π α
  | .started id now =>
    match state.calls id with
    | some _ => state
    | none =>
      let (available, circuits) := chain.available state.circuits now
      { circuits
        failed := fun source => if source ∈ chain.providers ∧ Expired state.circuits source now
          then [] else state.failed source
        calls := Function.update state.calls id
          (some ⟨state.circuits, now, [], available, none⟩) }
  | .answered id outcome now =>
    match state.calls id with
    | none => state
    | some call =>
      match call.result, call.left with
      | none, source :: rest =>
        { state.note chain source outcome now with
          calls := Function.update state.calls id (some (call.answer source rest outcome)) }
      | _, _ => state

end ChainState

/-- One event after the other. -/
def runEvents (chain : ProviderChain π) (events : List (ChainEvent ι α)) : ChainState ι π α :=
  events.foldl (fun state event => state.step chain event) .new

/-! ## The circuits at the start of a call -/

section Available

variable {chain : ProviderChain π} {circuits : π → Circuit} {source other : π} {now : DateTime}

omit [DecidableEq π] in
theorem not_openAt_of_expired (h : Expired circuits source now) :
    ¬ OpenAt circuits source now := by
  rintro ⟨openUntil, hopen, hlt⟩
  obtain ⟨expired, hexpired, hle⟩ := h
  obtain rfl := Option.some.inj (hopen.symm.trans hexpired)
  omega

omit [DecidableEq π] in
variable (now) in
theorem openAt_iff {openUntil : DateTime} (h : (circuits source).openUntil = some openUntil) :
    (OpenAt circuits source now ↔ now.instant < openUntil.instant) ∧
      (Expired circuits source now ↔ openUntil.instant ≤ now.instant) := by
  unfold OpenAt Expired
  rw [h]
  simp

omit [DecidableEq π] in
variable (now) in
theorem closed_of_none (h : (circuits source).openUntil = none) :
    ¬ OpenAt circuits source now ∧ ¬ Expired circuits source now := by
  unfold OpenAt Expired
  rw [h]
  simp

variable (circuits source now) in
/-- `_is_open` answers whether the circuit is open, and closes it when its time is over. -/
theorem isOpen_eq :
    ProviderChain.isOpen circuits source now =
      (decide (OpenAt circuits source now),
        if Expired circuits source now then Function.update circuits source {} else circuits) := by
  unfold ProviderChain.isOpen
  split
  · next hnone =>
    obtain ⟨hopen, hexpired⟩ := closed_of_none now hnone
    rw [decide_eq_false hopen, if_neg hexpired]
  · next openUntil hsome =>
    obtain ⟨hopen, hexpired⟩ := openAt_iff now hsome
    simp only [hopen, hexpired]
    by_cases hle : openUntil.instant ≤ now.instant
    · rw [if_pos hle, if_pos hle, decide_eq_false (not_lt.mpr hle)]
    · rw [if_neg hle, if_neg hle, decide_eq_true (not_le.mp hle)]

/-- Closing an expired circuit opens none, and closes none that is open. -/
theorem openAt_isOpen : OpenAt (ProviderChain.isOpen circuits source now).2 other now ↔
    OpenAt circuits other now := by
  rw [isOpen_eq]
  dsimp only
  split
  · next hexpired =>
    by_cases heq : other = source
    · subst heq
      refine iff_of_false ?_ (not_openAt_of_expired hexpired)
      rintro ⟨openUntil, hopen, -⟩
      simp at hopen
    · unfold OpenAt
      rw [Function.update_of_ne heq]
  · exact Iff.rfl

variable (now) in
/-- What one look at each provider finds. -/
theorem foldl_isOpen (sources closed : List π) (circuits : π → Circuit) :
    let looked := sources.foldl (fun (closed, circuits) source =>
      let (isOpen, circuits) := ProviderChain.isOpen circuits source now
      (if isOpen then closed else closed ++ [source], circuits)) (closed, circuits)
    looked.1 = closed ++ sources.filter (fun source => decide (¬ OpenAt circuits source now)) ∧
      ∀ source, looked.2 source =
        if source ∈ sources ∧ Expired circuits source now then {} else circuits source := by
  induction sources generalizing closed circuits with
  | nil => simp
  | cons source sources ih =>
    obtain ⟨hclosed, hcircuits⟩ := ih
      (if (ProviderChain.isOpen circuits source now).1 then closed else closed ++ [source])
      (ProviderChain.isOpen circuits source now).2
    refine ⟨?_, fun other => ?_⟩
    · refine hclosed.trans ?_
      simp only [openAt_isOpen]
      rw [isOpen_eq]
      by_cases hopen : OpenAt circuits source now <;> simp [hopen]
    · refine (hcircuits other).trans ?_
      rw [isOpen_eq]
      dsimp only
      by_cases hexpired : Expired circuits source now
      · rw [if_pos hexpired]
        by_cases heq : other = source
        · subst heq
          simp [hexpired]
        · have hsame : Expired (Function.update circuits source {}) other now ↔
              Expired circuits other now := by
            unfold Expired
            rw [Function.update_of_ne heq]
          rw [Function.update_of_ne heq]
          simp [heq, hsame]
      · rw [if_neg hexpired]
        by_cases heq : other = source
        · subst heq
          simp [hexpired]
        · simp [heq]

variable (chain circuits now) in
/-- The providers that a call finds: those whose circuit is not open, or the last one. -/
theorem available_fst : (chain.available circuits now).1 =
    let closed := chain.providers.filter (fun source => decide (¬ OpenAt circuits source now))
    if closed = [] then [chain.providers.getLast chain.providers_ne_nil] else closed := by
  have hlooked := (foldl_isOpen now chain.providers [] circuits).1
  rw [List.nil_append] at hlooked
  unfold ProviderChain.available
  dsimp only at hlooked ⊢
  rw [hlooked]
  simp only [List.isEmpty_iff]

variable (chain circuits now) in
/-- A call closes the circuits whose time is over. -/
theorem available_circuits (source : π) : (chain.available circuits now).2 source =
    if source ∈ chain.providers ∧ Expired circuits source now then {} else circuits source :=
  (foldl_isOpen now chain.providers [] circuits).2 source

/-- A circuit that was never opened is left alone. -/
theorem available_circuits_of_none (h : (circuits source).openUntil = none) :
    (chain.available circuits now).2 source = circuits source := by
  rw [available_circuits, if_neg fun hboth => (closed_of_none now h).2 hboth.2]

end Available

/-! ## Where a call stands -/

/-- The attempt failed with a category that lets the chain go on. -/
def FailedOver (attempt : π × Except CallError α) : Prop :=
  ProviderChain.canFailover attempt.2 = true

/-- The providers that a call tried or is trying. -/
def ChainCall.attempted (call : ChainCall π α) : List π :=
  call.tried.map Prod.fst ++ if call.result.isNone then call.left.take 1 else []

/-- Where a call stands among the providers that it found. -/
structure CallInvariant (chain : ProviderChain π) (call : ChainCall π α) : Prop where
  candidates : (chain.available call.found call.startedAt).1 =
    call.tried.map Prod.fst ++ call.left
  pending : call.result = none → call.left ≠ [] ∧ ∀ attempt ∈ call.tried, FailedOver attempt
  settled : ∀ outcome, call.result = some outcome → ∃ before source,
    call.tried = before ++ [(source, outcome)] ∧ (∀ attempt ∈ before, FailedOver attempt) ∧
      (ProviderChain.canFailover outcome = true → call.left = [])

/-- How a call treats its providers. -/
structure LawfulCall (chain : ProviderChain π) (call : ChainCall π α) : Prop where
  /-- Providers are tried in the order of the chain. -/
  order : call.attempted.Sublist chain.providers
  /-- No provider is tried twice. -/
  once : call.attempted.Nodup
  /-- An open circuit keeps its provider from being tried, unless all circuits are open. -/
  closed : ∀ source ∈ call.attempted, OpenAt call.found source call.startedAt →
    ∀ other ∈ chain.providers, OpenAt call.found other call.startedAt
  /-- When all circuits are open, only the last provider is tried. -/
  last : (∀ source ∈ chain.providers, OpenAt call.found source call.startedAt) →
    ∀ source ∈ call.attempted, source = chain.providers.getLast chain.providers_ne_nil
  /-- A result is that of the provider tried last; all others failed over. -/
  succeeded : ∀ value, call.result = some (.ok value) → ∃ before source,
    call.tried = before ++ [(source, .ok value)] ∧ ∀ attempt ∈ before, FailedOver attempt
  /-- An error is that of the provider tried last; the chain could not go on. -/
  raised : ∀ error, call.result = some (.error error) → ∃ before source,
    call.tried = before ++ [(source, .error error)] ∧ (∀ attempt ∈ before, FailedOver attempt) ∧
      (ProviderChain.canFailover (.error error : Except CallError α) = true →
        ∀ other ∈ chain.providers, ¬ OpenAt call.found other call.startedAt →
          other ∈ call.tried.map Prod.fst)
  /-- While there is no result, everything tried so far failed over. -/
  pending : call.result = none → ∀ attempt ∈ call.tried, FailedOver attempt

section Calls

variable {chain : ProviderChain π} {call : ChainCall π α} {source : π} {rest : List π}

theorem callInvariant_started (circuits : π → Circuit) (now : DateTime) :
    CallInvariant (α := α) chain
      ⟨circuits, now, [], (chain.available circuits now).1, none⟩ := by
  refine ⟨rfl, fun _ => ⟨?_, fun _ h => absurd h List.not_mem_nil⟩, fun _ h => by cases h⟩
  dsimp only
  rw [available_fst]
  dsimp only
  split
  · simp
  · assumption

theorem callInvariant_answer (h : CallInvariant chain call) (hresult : call.result = none)
    (hleft : call.left = source :: rest) (outcome : Except CallError α) :
    CallInvariant chain (call.answer source rest outcome) := by
  have htried := (h.pending hresult).2
  refine ⟨?_, fun hnone => ?_, fun last hlast => ?_⟩
  · refine h.candidates.trans ?_
    simp [ChainCall.answer, hleft]
  · dsimp only [ChainCall.answer] at hnone
    split at hnone
    · next hgoes =>
      refine ⟨hgoes.2, fun attempt hattempt => ?_⟩
      rcases List.mem_append.mp hattempt with hattempt | hattempt
      · exact htried attempt hattempt
      · rw [List.mem_singleton.mp hattempt]
        exact hgoes.1
    · cases hnone
  · dsimp only [ChainCall.answer] at hlast
    split at hlast
    · cases hlast
    · next hstops =>
      cases hlast
      refine ⟨call.tried, source, rfl, htried, fun hgoes => ?_⟩
      by_contra hrest
      exact hstops ⟨hgoes, hrest⟩

/-- What was tried or is being tried comes first among the providers that were found. -/
theorem CallInvariant.attempted_sublist (h : CallInvariant chain call) :
    call.attempted.Sublist (chain.available call.found call.startedAt).1 := by
  rw [h.candidates]
  refine List.Sublist.append (List.Sublist.refl _) ?_
  split
  · exact List.take_sublist 1 call.left
  · exact List.nil_sublist _

omit [DecidableEq π] in
theorem filter_eq_nil_iff {circuits : π → Circuit} {now : DateTime} {sources : List π} :
    sources.filter (fun source => decide (¬ OpenAt circuits source now)) = [] ↔
      ∀ source ∈ sources, OpenAt circuits source now := by
  simp [List.filter_eq_nil_iff]

theorem lawfulCall_of_invariant (hnames : chain.providers.Nodup)
    (h : CallInvariant chain call) : LawfulCall chain call := by
  have hsub := h.attempted_sublist
  rw [available_fst] at hsub
  dsimp only at hsub
  have horder : call.attempted.Sublist chain.providers := by
    refine hsub.trans ?_
    split
    · exact List.singleton_sublist.mpr (List.getLast_mem _)
    · exact List.filter_sublist
  refine ⟨horder, hnames.sublist horder, fun source hsource hopen => ?_,
    fun hall source hsource => ?_, fun value hvalue => ?_, fun error herror => ?_,
    fun hpending => (h.pending hpending).2⟩
  · have hmem := hsub.subset hsource
    split at hmem
    · next hnil => exact filter_eq_nil_iff.mp hnil
    · exact absurd hopen (of_decide_eq_true (List.mem_filter.mp hmem).2)
  · have hmem := hsub.subset hsource
    rw [if_pos (filter_eq_nil_iff.mpr hall)] at hmem
    exact List.mem_singleton.mp hmem
  · obtain ⟨before, source, htried, hbefore, -⟩ := h.settled _ hvalue
    exact ⟨before, source, htried, hbefore⟩
  · obtain ⟨before, source, htried, hbefore, hleft⟩ := h.settled _ herror
    refine ⟨before, source, htried, hbefore, fun hgoes other hother hclosed => ?_⟩
    have hcandidates := h.candidates
    rw [hleft hgoes, List.append_nil, available_fst] at hcandidates
    dsimp only at hcandidates
    split at hcandidates
    · next hnil => exact absurd (filter_eq_nil_iff.mp hnil other hother) hclosed
    · rw [← hcandidates]
      exact List.mem_filter.mpr ⟨hother, decide_eq_true hclosed⟩

end Calls

/-! ## Circuits over a history -/

/-- The answer is a success of this provider. -/
def Succeeds (state : ChainState ι π α) (event : ChainEvent ι α) (source : π) : Prop :=
  ∃ id value now call rest, event = .answered id (.ok value) now ∧
    state.calls id = some call ∧ call.result = none ∧ call.left = source :: rest

/-- No circuit is open for longer than the recovery time. -/
def OpenedBy (chain : ProviderChain π) (circuits : π → Circuit) (time : DateTime) : Prop :=
  ∀ source, ∀ openUntil ∈ (circuits source).openUntil,
    openUntil.instant ≤ (addSeconds time chain.recoverySeconds).instant

section Events

variable {chain : ProviderChain π} {state : ChainState ι π α} {event : ChainEvent ι α}
  {source : π} {openUntil time : DateTime}

omit [DecidableEq π] in
theorem OpenedBy.mono {circuits : π → Circuit} {later : DateTime}
    (h : OpenedBy chain circuits time) (hle : time.instant ≤ later.instant) :
    OpenedBy chain circuits later := by
  intro source openUntil hopen
  have := h source openUntil hopen
  simp only [addSeconds] at this ⊢
  omega

/-- What an event does to the circuit of a provider. -/
inductive CircuitStep (chain : ProviderChain π) (state : ChainState ι π α)
    (event : ChainEvent ι α) (source : π) (circuit : Circuit) : Prop where
  | same (eq : circuit = state.circuits source)
  | recovered (eq : circuit = {}) (expired : Expired state.circuits source event.time)
  | success (eq : circuit = {}) (succeeds : Succeeds state event source)
  | failure (failures : circuit.failures = (state.circuits source).failures + 1)
      (openUntil : circuit.openUntil = if circuit.failures ≥ chain.failureThreshold
        then some (addSeconds event.time chain.recoverySeconds)
        else (state.circuits source).openUntil)

variable (chain state event source) in
theorem circuitStep_step :
    CircuitStep chain state event source ((state.step chain event).circuits source) := by
  unfold ChainState.step
  cases event with
  | started id now =>
    dsimp only
    split
    · exact .same rfl
    · dsimp only
      rw [available_circuits]
      split
      · next h => exact .recovered rfl h.2
      · exact .same rfl
  | answered id outcome now =>
    dsimp only
    split
    · exact .same rfl
    · next call hcall =>
      split
      · next asked rest hresult hleft =>
        unfold ChainState.note
        by_cases heq : source = asked
        · subst heq
          rcases outcome with error | value
          · cases error with
            | provider error =>
              dsimp only [ProviderChain.noteFailure]
              rw [Function.update_self]
              exact .failure rfl rfl
            | timeout => exact .same rfl
            | raised failure => exact .same rfl
          · dsimp only [ProviderChain.noteSuccess]
            rw [Function.update_self]
            exact .success rfl ⟨id, value, now, call, rest, rfl, hcall, hresult, hleft⟩
        · refine .same ?_
          rcases outcome with error | value
          · cases error with
            | provider error => exact Function.update_of_ne heq ..
            | timeout => rfl
            | raised failure => rfl
          · exact Function.update_of_ne heq ..
      · exact .same rfl

theorem openedBy_step (h : OpenedBy chain state.circuits time)
    (hle : time.instant ≤ event.time.instant) :
    OpenedBy chain (state.step chain event).circuits event.time := by
  intro source openUntil hopen
  have hlater := h.mono hle source
  cases circuitStep_step chain state event source with
  | same eq => exact hlater openUntil (eq ▸ hopen)
  | recovered eq _ =>
    rw [eq] at hopen
    cases hopen
  | success eq _ =>
    rw [eq] at hopen
    cases hopen
  | failure _ hset =>
    rw [hset] at hopen
    split at hopen
    · cases hopen
      exact le_rfl
    · exact hlater openUntil hopen

/-- A circuit stays open before its time, unless its provider succeeds. -/
theorem exists_openUntil_step (h : OpenedBy chain state.circuits time)
    (hle : time.instant ≤ event.time.instant) (hfails : ¬ Succeeds state event source)
    (hopen : (state.circuits source).openUntil = some openUntil)
    (hbefore : event.time.instant < openUntil.instant) :
    ∃ later, ((state.step chain event).circuits source).openUntil = some later ∧
      openUntil.instant ≤ later.instant := by
  cases circuitStep_step chain state event source with
  | same eq => exact ⟨openUntil, by rw [eq, hopen], le_rfl⟩
  | recovered _ expired =>
    have hle := (openAt_iff event.time hopen).2.mp expired
    omega
  | success _ succeeds => exact absurd succeeds hfails
  | failure _ hset =>
    rw [hset]
    split
    · exact ⟨_, rfl, h.mono hle source openUntil hopen⟩
    · exact ⟨openUntil, hopen, le_rfl⟩

theorem callInvariant_step
    (h : ∀ id call, state.calls id = some call → CallInvariant chain call) :
    ∀ id call, (state.step chain event).calls id = some call → CallInvariant chain call := by
  intro id call hcall
  unfold ChainState.step at hcall
  cases event with
  | started started now =>
    dsimp only at hcall
    split at hcall
    · exact h id call hcall
    · dsimp only at hcall
      by_cases heq : id = started
      · subst heq
        rw [Function.update_self] at hcall
        cases hcall
        exact callInvariant_started state.circuits now
      · rw [Function.update_of_ne heq] at hcall
        exact h id call hcall
  | answered answered outcome now =>
    dsimp only at hcall
    split at hcall
    · exact h id call hcall
    · next found hfound =>
      split at hcall
      · next asked rest hresult hleft =>
        dsimp only at hcall
        by_cases heq : id = answered
        · subst heq
          rw [Function.update_self] at hcall
          cases hcall
          exact callInvariant_answer (h id found hfound) hresult hleft outcome
        · rw [Function.update_of_ne heq] at hcall
          exact h id call hcall
      · exact h id call hcall

end Events

/-! ## Every history -/

section Histories

variable (chain : ProviderChain π) (events : List (ChainEvent ι α))

theorem runEvents_take_succ {k : ℕ} {event : ChainEvent ι α} (h : events[k]? = some event) :
    runEvents chain (events.take (k + 1)) =
      (runEvents chain (events.take k)).step chain event := by
  rw [List.take_add_one, h]
  exact List.foldl_concat ..

theorem runEvents_take_none {k : ℕ} (h : events[k]? = none) :
    runEvents chain (events.take (k + 1)) = runEvents chain (events.take k) := by
  rw [List.take_add_one, h, Option.toList_none, List.append_nil]

/-- Where every call stands after any number of events. -/
theorem callInvariant_runEvents (k : ℕ) : ∀ id call,
    (runEvents chain (events.take k)).calls id = some call → CallInvariant chain call := by
  induction k with
  | zero => exact fun id call hcall => by cases hcall
  | succ k ih =>
    cases hevent : events[k]? with
    | none =>
      rw [runEvents_take_none chain events hevent]
      exact ih
    | some event =>
      rw [runEvents_take_succ chain events hevent]
      exact callInvariant_step ih

variable {events}

/-- No circuit is open for longer than the recovery time after the next event. -/
theorem openedBy_runEvents (hclock : events.Pairwise fun a b => a.time.instant ≤ b.time.instant)
    {k : ℕ} {event : ChainEvent ι α} (hevent : events[k]? = some event) :
    OpenedBy chain (runEvents chain (events.take k)).circuits event.time := by
  induction k generalizing event with
  | zero => exact fun source openUntil hopen => by cases hopen
  | succ k ih =>
    obtain ⟨hlt, rfl⟩ := List.getElem?_eq_some_iff.mp hevent
    have hprevious : events[k]? = some events[k] := List.getElem?_eq_getElem (by omega)
    rw [runEvents_take_succ chain events hprevious]
    refine (openedBy_step (ih hprevious) le_rfl).mono ?_
    exact List.pairwise_iff_getElem.mp hclock k (k + 1) _ _ (by omega)

/-- A circuit that is open at some moment stays open until its time, as long as its provider does
not succeed. -/
theorem stays_open (hclock : events.Pairwise fun a b => a.time.instant ≤ b.time.instant)
    {k m : ℕ} (hkm : k ≤ m) {source : π} {openUntil now : DateTime}
    (hopen : ((runEvents chain (events.take k)).circuits source).openUntil = some openUntil)
    (hbetween : ∀ j event, k ≤ j → j < m → events[j]? = some event →
      ¬ Succeeds (runEvents chain (events.take j)) event source ∧
        event.time.instant ≤ now.instant)
    (hbefore : now.instant < openUntil.instant) :
    ∃ later, ((runEvents chain (events.take m)).circuits source).openUntil = some later ∧
      openUntil.instant ≤ later.instant := by
  induction m, hkm using Nat.le_induction with
  | base => exact ⟨openUntil, hopen, le_rfl⟩
  | succ m hkm ih =>
    obtain ⟨later, hlater, hle⟩ := ih fun j event hkj hjm => hbetween j event hkj (by omega)
    cases hevent : events[m]? with
    | none =>
      rw [runEvents_take_none chain events hevent]
      exact ⟨later, hlater, hle⟩
    | some event =>
      rw [runEvents_take_succ chain events hevent]
      obtain ⟨hfails, htime⟩ := hbetween m event hkm (by omega) hevent
      obtain ⟨next, hnext, hlast⟩ := exists_openUntil_step
        (openedBy_runEvents chain hclock hevent) le_rfl hfails hlater (by omega)
      exact ⟨next, hnext, hle.trans hlast⟩

variable {chain}

/-- In every history, providers fail over in order, one provider's error or result is that of the
call, and a circuit stays open for its time unless its provider succeeds. -/
theorem chainLawful (hnames : chain.providers.Nodup)
    (hclock : events.Pairwise fun a b => a.time.instant ≤ b.time.instant) :
    (∀ k id call, (runEvents chain (events.take k)).calls id = some call →
      LawfulCall chain call) ∧
    ∀ k m source openUntil now, k ≤ m →
      ((runEvents chain (events.take k)).circuits source).openUntil = some openUntil →
      (∀ j event, k ≤ j → j < m → events[j]? = some event →
        ¬ Succeeds (runEvents chain (events.take j)) event source ∧
          event.time.instant ≤ now.instant) →
      now.instant < openUntil.instant →
      OpenAt (runEvents chain (events.take m)).circuits source now := by
  refine ⟨fun k id call hcall => ?_,
    fun k m source openUntil now hkm hopen hbetween hbefore => ?_⟩
  · exact lawfulCall_of_invariant hnames (callInvariant_runEvents chain events k id call hcall)
  · obtain ⟨later, hlater, hle⟩ := stays_open chain hclock hkm hopen hbetween hbefore
    exact ⟨later, hlater, lt_of_lt_of_le hbefore hle⟩

end Histories

/-! ## Two calls at the same time -/

namespace Sample

/-- Two providers; the second failure opens a circuit for thirty seconds. -/
def poiChain : ProviderChain String :=
  ⟨["amap", "baidu"], 2, 30, by simp, by decide, usualRecovery_pos⟩

/-- Some seconds after the start. -/
def second (n : ℕ) : DateTime := ⟨n * 1000000, 0⟩

def slow : CallError := .provider (.timeout "poi.search")

/-- Two calls find the first provider slow, and a third one does not try it. -/
def overlapping : List (ChainEvent ℕ ℕ) :=
  [.started 1 (second 0), .started 2 (second 1), .answered 1 (.error slow) (second 5),
   .answered 2 (.error slow) (second 6), .started 3 (second 7), .answered 3 (.ok 30) (second 8),
   .answered 1 (.ok 10) (second 9), .answered 2 (.ok 20) (second 9)]

end Sample

/-- The third call starts while the circuit of the first provider is open. -/
theorem chainLawful_overlapping :
    LawfulCall Sample.poiChain
        ⟨(runEvents Sample.poiChain (Sample.overlapping.take 4)).circuits, Sample.second 7,
          [("baidu", .ok 30)], [], some (.ok 30)⟩ ∧
      OpenAt (runEvents Sample.poiChain (Sample.overlapping.take 5)).circuits "amap"
        (Sample.second 35) := by
  have hclock : Sample.overlapping.Pairwise fun a b => a.time.instant ≤ b.time.instant := by
    decide
  obtain ⟨hcalls, hopen⟩ :=
    @chainLawful ℕ String ℕ _ _ Sample.poiChain Sample.overlapping (by decide) hclock
  refine ⟨hcalls 8 3 _ rfl, hopen 4 5 "amap" (Sample.second 36) (Sample.second 35) (by decide) rfl
    (fun j event hfour hfive hevent => ?_) (by decide)⟩
  obtain rfl : j = 4 := by omega
  obtain rfl : .started 3 (Sample.second 7) = event := Option.some.inj hevent
  refine ⟨?_, by decide⟩
  rintro ⟨id, value, now, call, rest, heq, -⟩
  cases heq

end TravelPlanAgent
