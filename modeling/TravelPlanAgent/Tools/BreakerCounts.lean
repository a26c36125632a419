import Mathlib.Data.Option.Basic
import TravelPlanAgent.Tools.ChainHistories

/-!
# What a circuit breaker counts

Some errors of a provider say that it is out of order, others that the request was refused.  Only
the first kind lets a chain go on to the next provider, but every error is counted.

* `CountsFailovers`: an open circuit has counted enough errors of the first kind.
* `FirstFailuresFailOver`: the errors that open a circuit are all of the first kind.
* `RefusedOnly`, `Untouched`: a history with requests that one provider refuses, and without them.
* `Alike`, `alike_step`: the two histories, event by event.
* `breakerBlind_iff`, `exists_not_breakerBlind`: what a history needs, and three bad requests.
-/

namespace TravelPlanAgent

open Calendar

variable {ι π α : Type} [DecidableEq ι] [DecidableEq π]

/-! ## Counted failures -/

/-- An open circuit has counted at least as many failures that let the chain go on as it takes
to open it. -/
def CountsFailovers (chain : ProviderChain π) (state : ChainState ι π α) : Prop :=
  ∀ source, (state.circuits source).openUntil ≠ none →
    chain.failureThreshold ≤
      ((state.failed source).filter fun category => decide (category ∈ failoverCategories)).length

/-- The failures that open a circuit let the chain go on. -/
def FirstFailuresFailOver (chain : ProviderChain π) (state : ChainState ι π α) : Prop :=
  ∀ source, chain.failureThreshold ≤ (state.failed source).length →
    ∀ category ∈ (state.failed source).take chain.failureThreshold,
      category ∈ failoverCategories

/-- Circuits count their failures, and open at the threshold. -/
structure CountInvariant (chain : ProviderChain π) (state : ChainState ι π α) : Prop where
  failures : ∀ source, (state.circuits source).failures = (state.failed source).length
  openUntil : ∀ source, (state.circuits source).openUntil ≠ none ↔
    chain.failureThreshold ≤ (state.failed source).length

/-- What an event does to the failures counted for a provider. -/
inductive FailedStep (state next : ChainState ι π α) (source : π) : Prop where
  | same (eq : next.failed source = state.failed source)
  | cleared (eq : next.failed source = [])
  | counted (category : ToolErrorCategory)
      (eq : next.failed source = state.failed source ++ [category])

section Counts

variable {chain : ProviderChain π} {state : ChainState ι π α} {event : ChainEvent ι α}
  {source : π}

omit [DecidableEq ι] [DecidableEq π] in
theorem countInvariant_new : CountInvariant chain (ChainState.new : ChainState ι π α) :=
  ⟨fun _ => rfl, fun _ => iff_of_false (fun h => h rfl)
    (Nat.not_le.mpr chain.one_le_failureThreshold)⟩

omit [DecidableEq ι] in
/-- A circuit and its failures after an answer of its provider. -/
theorem countInvariant_note (h : CountInvariant chain state) (asked : π)
    (outcome : Except CallError α) (now : DateTime) :
    CountInvariant chain (state.note chain asked outcome now) := by
  have hself (source : π) :
      ((state.note chain asked outcome now).circuits source).failures =
          ((state.note chain asked outcome now).failed source).length ∧
        (((state.note chain asked outcome now).circuits source).openUntil ≠ none ↔
          chain.failureThreshold ≤
            ((state.note chain asked outcome now).failed source).length) := by
    have hbefore := And.intro (h.failures source) (h.openUntil source)
    unfold ChainState.note
    rcases outcome with error | value
    · cases error with
      | provider error =>
        dsimp only [ProviderChain.noteFailure]
        by_cases heq : source = asked
        · subst heq
          rw [Function.update_self, Function.update_self, List.length_append, ← hbefore.1]
          refine ⟨rfl, ?_⟩
          dsimp only [List.length_singleton]
          split
          · next hge => exact iff_of_true (by simp) hge
          · next hlt =>
            refine iff_of_false (fun hopen => hlt ?_) hlt
            have := hbefore.2.mp hopen
            omega
        · rw [Function.update_of_ne heq, Function.update_of_ne heq]
          exact hbefore
      | timeout => exact hbefore
      | raised failure => exact hbefore
    · dsimp only [ProviderChain.noteSuccess]
      by_cases heq : source = asked
      · subst heq
        rw [Function.update_self, Function.update_self]
        exact ⟨rfl, iff_of_false (fun h => h rfl)
          (Nat.not_le.mpr chain.one_le_failureThreshold)⟩
      · rw [Function.update_of_ne heq, Function.update_of_ne heq]
        exact hbefore
  exact ⟨fun source => (hself source).1, fun source => (hself source).2⟩

theorem countInvariant_step (h : CountInvariant chain state) :
    CountInvariant chain (state.step chain event) := by
  unfold ChainState.step
  cases event with
  | started id now =>
    dsimp only
    split
    · exact h
    · refine ⟨fun source => ?_, fun source => ?_⟩
      · dsimp only
        rw [available_circuits]
        split
        · rfl
        · exact h.failures source
      · dsimp only
        rw [available_circuits]
        split
        · exact iff_of_false (fun h => h rfl) (Nat.not_le.mpr chain.one_le_failureThreshold)
        · exact h.openUntil source
  | answered id outcome now =>
    dsimp only
    split
    · exact h
    · split
      · next asked rest _ _ =>
        have hnote := countInvariant_note h asked outcome now
        exact ⟨hnote.failures, hnote.openUntil⟩
      · exact h

variable (chain state event source) in
theorem failedStep_step : FailedStep state (state.step chain event) source := by
  unfold ChainState.step
  cases event with
  | started id now =>
    dsimp only
    split
    · exact .same rfl
    · by_cases hrecovered : source ∈ chain.providers ∧ Expired state.circuits source now
      · exact .cleared (if_pos hrecovered)
      · exact .same (if_neg hrecovered)
  | answered id outcome now =>
    dsimp only
    split
    · exact .same rfl
    · split
      · next asked rest _ _ =>
        unfold ChainState.note
        by_cases heq : source = asked
        · subst heq
          rcases outcome with error | value
          · cases error with
            | provider error => exact .counted error.category (Function.update_self ..)
            | timeout => exact .same rfl
            | raised failure => exact .same rfl
          · exact .cleared (Function.update_self ..)
        · refine .same ?_
          rcases outcome with error | value
          · cases error with
            | provider error => exact Function.update_of_ne heq ..
            | timeout => rfl
            | raised failure => rfl
          · exact Function.update_of_ne heq ..
      · exact .same rfl

variable (chain) (events : List (ChainEvent ι α))

theorem countInvariant_runEvents (k : ℕ) :
    CountInvariant chain (runEvents chain (events.take k)) := by
  induction k with
  | zero => exact countInvariant_new
  | succ k ih =>
    cases hevent : events[k]? with
    | none => exact runEvents_take_none chain events hevent ▸ ih
    | some event => exact runEvents_take_succ chain events hevent ▸ countInvariant_step ih

/-- Failures are counted one by one. -/
theorem exists_failed_take (k : ℕ) (source : π) :
    ∀ count ≤ ((runEvents chain (events.take k)).failed source).length, ∃ j,
      (runEvents chain (events.take j)).failed source =
        ((runEvents chain (events.take k)).failed source).take count := by
  induction k with
  | zero =>
    intro count hcount
    refine ⟨0, ?_⟩
    show ([] : List ToolErrorCategory) = List.take count []
    rw [List.take_nil]
  | succ k ih =>
    cases hevent : events[k]? with
    | none => exact runEvents_take_none chain events hevent ▸ ih
    | some event =>
      intro count hcount
      have hself : ∃ j, (runEvents chain (events.take j)).failed source =
          (runEvents chain (events.take (k + 1))).failed source := ⟨k + 1, rfl⟩
      rw [runEvents_take_succ chain events hevent] at hcount hself ⊢
      cases failedStep_step chain (runEvents chain (events.take k)) event source with
      | same eq =>
        rw [eq] at hcount ⊢
        exact ih count hcount
      | cleared eq =>
        rw [eq] at hself ⊢
        rwa [List.take_nil]
      | counted category eq =>
        rw [eq] at hcount hself ⊢
        rw [List.length_append, List.length_singleton] at hcount
        rcases Nat.lt_or_ge ((runEvents chain (events.take k)).failed source).length count
          with hlt | hge
        · rw [List.take_of_length_le (by simp; omega)]
          exact hself
        · rw [List.take_append_of_le_length hge]
          exact ih count hge

/-- Open circuits have counted enough of the right failures throughout a history exactly when the
failures that opened them were all of the right kind. -/
theorem countsFailovers_iff :
    (∀ k, CountsFailovers chain (runEvents chain (events.take k))) ↔
      ∀ k, FirstFailuresFailOver chain (runEvents chain (events.take k)) := by
  constructor
  · intro hcounts k source hle category hcategory
    -- When the circuit opened, it had counted exactly these failures.
    obtain ⟨j, hj⟩ := exists_failed_take chain events k source chain.failureThreshold hle
    have hlength : ((runEvents chain (events.take j)).failed source).length =
        chain.failureThreshold := by
      rw [hj, List.length_take, Nat.min_eq_left hle]
    have hopen := ((countInvariant_runEvents chain events j).openUntil source).mpr hlength.ge
    have hall := hcounts j source hopen
    have hfilter := List.length_filter_eq_length_iff.mp (le_antisymm
      (List.length_filter_le _ _) (hlength.trans_le hall))
    exact of_decide_eq_true (hfilter category (hj ▸ hcategory))
  · intro hfirst k source hopen
    have hle := ((countInvariant_runEvents chain events k).openUntil source).mp hopen
    calc chain.failureThreshold
        = (((runEvents chain (events.take k)).failed source).take
            chain.failureThreshold).length := by rw [List.length_take, Nat.min_eq_left hle]
      _ = ((((runEvents chain (events.take k)).failed source).take
            chain.failureThreshold).filter fun category =>
              decide (category ∈ failoverCategories)).length := by
        rw [List.filter_eq_self.mpr fun category hcategory =>
          decide_eq_true (hfirst k source hle category hcategory)]
      _ ≤ _ := ((List.take_sublist _ _).filter _).length_le

end Counts

/-! ## A history with refused requests, and without them -/

/-- All failures of a provider are refusals, and so are all answers to some of the calls.  These
calls start while no other call is under way. -/
structure RefusedOnly (chain : ProviderChain π) (events : List (ChainEvent ι α)) (source : π)
    (dropped : ι → Bool) : Prop where
  refused : ∀ k, ∀ category ∈ (runEvents chain (events.take k)).failed source,
    category ∉ failoverCategories
  answers : ∀ (k : ℕ) id outcome now call asked rest,
    events[k]? = some (.answered id outcome now) → dropped id = true →
    (runEvents chain (events.take k)).calls id = some call → call.result = none →
    call.left = asked :: rest → asked = source ∧ ∃ error, outcome = .error (.provider error)
  alone : ∀ (k : ℕ) id now, events[k]? = some (.started id now) → dropped id = true →
    ∀ other call, dropped other = false →
      (runEvents chain (events.take k)).calls other = some call → call.result ≠ none

/-- The same providers were tried, with the same answers and the same result. -/
structure SameCall (a b : ChainCall π α) : Prop where
  tried : a.tried = b.tried
  left : a.left = b.left
  result : a.result = b.result

/-- The events of all other calls. -/
def others (dropped : ι → Bool) (events : List (ChainEvent ι α)) : List (ChainEvent ι α) :=
  events.filter fun event => !dropped event.call

/-- The circuit of the provider never opens, and all other calls are as they are without the
dropped ones. -/
structure Untouched (chain : ProviderChain π) (events : List (ChainEvent ι α)) (source : π)
    (dropped : ι → Bool) : Prop where
  closed : ∀ k, ((runEvents chain (events.take k)).circuits source).openUntil = none
  calls : ∀ id, dropped id = false → Option.Rel SameCall ((runEvents chain events).calls id)
    ((runEvents chain (others dropped events)).calls id)

/-- Refused requests do not switch providers: open circuits have counted enough other failures,
and requests that a provider refuses leave no trace in other requests. -/
structure BreakerBlind (chain : ProviderChain π) (events : List (ChainEvent ι α)) : Prop where
  counts : ∀ k, CountsFailovers chain (runEvents chain (events.take k))
  untouched : ∀ source dropped, RefusedOnly chain events source dropped →
    Untouched chain events source dropped

/-- The circuit was closed by the call of a dropped request, and no event comes before its time
is over; nobody else is waiting for an answer. -/
structure Lagging (chain : ProviderChain π) (dropped : ι → Bool)
    (coming : List (ChainEvent ι α)) (full reduced : ChainState ι π α) (other : π) : Prop where
  listed : other ∈ chain.providers
  reset : full.circuits other = {}
  expired : ∃ openUntil ∈ (reduced.circuits other).openUntil, ∀ event ∈ coming,
    openUntil.instant ≤ event.time.instant
  idle : ∀ id call, dropped id = false → full.calls id = some call → call.result ≠ none

/-- Two histories, of which the second one lacks some requests that `source` refused. -/
structure Alike (chain : ProviderChain π) (source : π) (dropped : ι → Bool)
    (coming : List (ChainEvent ι α)) (full reduced : ChainState ι π α) : Prop where
  circuits : ∀ other, other ≠ source → full.circuits other = reduced.circuits other ∨
    Lagging chain dropped coming full reduced other
  closed : (full.circuits source).openUntil = none
  closed' : (reduced.circuits source).openUntil = none
  failures : (reduced.circuits source).failures ≤ (full.circuits source).failures
  calls : ∀ id, dropped id = false → Option.Rel SameCall (full.calls id) (reduced.calls id)

section Alike

variable {chain : ProviderChain π} {full reduced : ChainState ι π α} {source : π}
  {dropped : ι → Bool} {coming : List (ChainEvent ι α)} {id : ι} {now : DateTime}
  {outcome : Except CallError α}

omit [DecidableEq π] in
theorem relates_update {a b : ChainCall π α}
    (h : ∀ id, dropped id = false → Option.Rel SameCall (full.calls id) (reduced.calls id))
    (hsame : SameCall a b) : ∀ other, dropped other = false →
      Option.Rel SameCall (Function.update full.calls id (some a) other)
        (Function.update reduced.calls id (some b) other) := by
  intro other hother
  by_cases heq : other = id
  · subst heq
    rw [Function.update_self, Function.update_self]
    exact .some hsame
  · rw [Function.update_of_ne heq, Function.update_of_ne heq]
    exact h other hother

omit [DecidableEq π] in
theorem update_of_dropped (hdropped : dropped id = true) (call : Option (ChainCall π α))
    {other : ι} (hother : dropped other = false) :
    Function.update full.calls id call other = full.calls other := by
  refine Function.update_of_ne ?_ ..
  rintro rfl
  rw [hdropped] at hother
  cases hother

omit [DecidableEq ι] [DecidableEq π] in
theorem Alike.tail {event : ChainEvent ι α}
    (h : Alike chain source dropped (event :: coming) full reduced) :
    Alike chain source dropped coming full reduced := by
  refine { h with circuits := fun other hne => (h.circuits other hne).imp_right fun hlag => ?_ }
  obtain ⟨openUntil, hopen, hle⟩ := hlag.expired
  exact { hlag with
    expired := ⟨openUntil, hopen, fun next hnext => hle next (List.mem_cons_of_mem _ hnext)⟩ }

omit [DecidableEq ι] in
/-- A circuit that lags is open in neither history at the next event. -/
theorem openAt_iff_of_alike {event : ChainEvent ι α}
    (h : Alike chain source dropped (event :: coming) full reduced) (other : π) :
    OpenAt full.circuits other event.time ↔ OpenAt reduced.circuits other event.time := by
  by_cases heq : other = source
  · subst heq
    exact iff_of_false (closed_of_none _ h.closed).1 (closed_of_none _ h.closed').1
  · obtain hsame | hlag := h.circuits other heq
    · unfold OpenAt
      rw [hsame]
    · obtain ⟨openUntil, hopen, hle⟩ := hlag.expired
      refine iff_of_false (closed_of_none _ (by rw [hlag.reset])).1 ?_
      exact not_openAt_of_expired ⟨openUntil, hopen, hle event List.mem_cons_self⟩

/-- A request starts in both histories. -/
theorem alike_started (h : Alike chain source dropped (.started id now :: coming) full reduced)
    (hkept : dropped id = false) :
    Alike chain source dropped coming (full.step chain (.started id now))
      (reduced.step chain (.started id now)) := by
  have hcall := h.calls id hkept
  unfold ChainState.step
  dsimp only
  rcases hfull : full.calls id with _ | call
  · rcases hreduced : reduced.calls id with _ | other
    · dsimp only
      have hopen := openAt_iff_of_alike h
      have havailable : (chain.available full.circuits now).1 =
          (chain.available reduced.circuits now).1 := by
        rw [available_fst, available_fst]
        simp only [show ∀ other, OpenAt full.circuits other now ↔
          OpenAt reduced.circuits other now from hopen]
      refine ⟨fun other hne => .inl ?_, ?_, ?_, ?_, ?_⟩
      · dsimp only
        rw [available_circuits, available_circuits]
        obtain hsame | hlag := h.circuits other hne
        · have hexpired : Expired full.circuits other now ↔
              Expired reduced.circuits other now := by
            unfold Expired
            rw [hsame]
          rw [hsame]
          simp only [hexpired]
        · obtain ⟨openUntil, hopen, hle⟩ := hlag.expired
          have hexpired : Expired reduced.circuits other now :=
            ⟨openUntil, hopen, hle _ List.mem_cons_self⟩
          rw [hlag.reset, ite_self, if_pos ⟨hlag.listed, hexpired⟩]
      · dsimp only
        rw [available_circuits_of_none h.closed]
        exact h.closed
      · dsimp only
        rw [available_circuits_of_none h.closed']
        exact h.closed'
      · dsimp only
        rw [available_circuits_of_none h.closed, available_circuits_of_none h.closed']
        exact h.failures
      · exact relates_update h.calls ⟨rfl, havailable, rfl⟩
    · rw [hfull, hreduced] at hcall
      cases hcall
  · rcases hreduced : reduced.calls id with _ | other
    · rw [hfull, hreduced] at hcall
      cases hcall
    · exact h.tail

/-- A request that will be refused starts in the full history. -/
theorem alike_started_dropped
    (h : Alike chain source dropped (.started id now :: coming) full reduced)
    (hdropped : dropped id = true)
    (hclock : ∀ event ∈ coming, now.instant ≤ event.time.instant)
    (halone : ∀ other call, dropped other = false → full.calls other = some call →
      call.result ≠ none) :
    Alike chain source dropped coming (full.step chain (.started id now)) reduced := by
  unfold ChainState.step
  dsimp only
  split
  · exact h.tail
  · have hidle (call : Option (ChainCall π α)) : ∀ other found, dropped other = false →
        Function.update full.calls id call other = some found → found.result ≠ none := by
      intro other found hother hfound
      rw [update_of_dropped hdropped _ hother] at hfound
      exact halone other found hother hfound
    refine ⟨fun other hne => ?_, ?_, h.closed', ?_, fun other hother => ?_⟩
    · obtain hsame | hlag := h.tail.circuits other hne
      · by_cases hreset : other ∈ chain.providers ∧ Expired full.circuits other now
        · obtain ⟨openUntil, hopen, hle⟩ := hreset.2
          refine .inr ⟨hreset.1, ?_, ⟨openUntil, hsame ▸ hopen, fun event hevent => ?_⟩,
            hidle _⟩
          · dsimp only
            rw [available_circuits, if_pos hreset]
          · exact le_trans hle (hclock event hevent)
        · refine .inl ?_
          dsimp only
          rw [available_circuits, if_neg hreset, hsame]
      · refine .inr { hlag with reset := ?_, idle := hidle _ }
        dsimp only
        rw [available_circuits, hlag.reset, ite_self]
    · dsimp only
      rw [available_circuits_of_none h.closed]
      exact h.closed
    · dsimp only
      rw [available_circuits_of_none h.closed]
      exact h.failures
    · dsimp only
      rw [update_of_dropped hdropped _ hother]
      exact h.calls other hother

omit [DecidableEq ι] in
/-- An answer to a call that is under way in both histories is noted alike. -/
theorem alike_note (h : Alike chain source dropped coming full reduced) {asked : π}
    (hequal : ∀ other, other ≠ source → full.circuits other = reduced.circuits other)
    (hclosed : ((full.note chain asked outcome now).circuits source).openUntil = none) :
    (∀ other, other ≠ source → (full.note chain asked outcome now).circuits other =
        (reduced.note chain asked outcome now).circuits other) ∧
      ((reduced.note chain asked outcome now).circuits source).openUntil = none ∧
      ((reduced.note chain asked outcome now).circuits source).failures ≤
        ((full.note chain asked outcome now).circuits source).failures := by
  unfold ChainState.note at hclosed ⊢
  rcases outcome with error | value
  · cases error with
    | provider error =>
      dsimp only [ProviderChain.noteFailure] at hclosed ⊢
      by_cases heq : source = asked
      · subst heq
        rw [Function.update_self] at hclosed
        have hfew : ¬ (full.circuits source).failures + 1 ≥ chain.failureThreshold := by
          intro hmany
          rw [if_pos hmany] at hclosed
          cases hclosed
        have hfailures := h.failures
        refine ⟨fun other hne => ?_, ?_, ?_⟩
        · rw [Function.update_of_ne hne, Function.update_of_ne hne]
          exact hequal other hne
        · rw [Function.update_self, if_neg (by omega)]
          exact h.closed'
        · rw [Function.update_self, Function.update_self]
          dsimp only
          omega
      · rw [Function.update_of_ne heq, Function.update_of_ne heq]
        refine ⟨fun other hne => ?_, h.closed', h.failures⟩
        by_cases hasked : other = asked
        · subst hasked
          rw [Function.update_self, Function.update_self, hequal other hne]
        · rw [Function.update_of_ne hasked, Function.update_of_ne hasked]
          exact hequal other hne
    | timeout => exact ⟨hequal, h.closed', h.failures⟩
    | raised failure => exact ⟨hequal, h.closed', h.failures⟩
  · dsimp only [ProviderChain.noteSuccess]
    by_cases heq : source = asked
    · subst heq
      rw [Function.update_self, Function.update_self]
      refine ⟨fun other hne => ?_, rfl, le_rfl⟩
      rw [Function.update_of_ne hne, Function.update_of_ne hne]
      exact hequal other hne
    · rw [Function.update_of_ne heq, Function.update_of_ne heq]
      refine ⟨fun other hne => ?_, h.closed', h.failures⟩
      by_cases hasked : other = asked
      · subst hasked
        rw [Function.update_self, Function.update_self]
      · rw [Function.update_of_ne hasked, Function.update_of_ne hasked]
        exact hequal other hne

/-- A provider answers in both histories. -/
theorem alike_answered
    (h : Alike chain source dropped (.answered id outcome now :: coming) full reduced)
    (hkept : dropped id = false)
    (hclosed : ((full.step chain (.answered id outcome now)).circuits source).openUntil = none) :
    Alike chain source dropped coming (full.step chain (.answered id outcome now))
      (reduced.step chain (.answered id outcome now)) := by
  have hcall := h.calls id hkept
  unfold ChainState.step at hclosed ⊢
  dsimp only at hclosed ⊢
  rcases hfull : full.calls id with _ | a
  · rcases hreduced : reduced.calls id with _ | b
    · exact h.tail
    · rw [hfull, hreduced] at hcall
      cases hcall
  · rcases hreduced : reduced.calls id with _ | b
    · rw [hfull, hreduced] at hcall
      cases hcall
    · rw [hfull, hreduced] at hcall
      rw [hfull] at hclosed
      obtain ⟨htried, hleft, hresult⟩ : SameCall a b := by
        cases hcall
        assumption
      dsimp only at hclosed ⊢
      rw [← hleft, ← hresult]
      split
      · next asked rest hnone hasked =>
        rw [hnone, hasked] at hclosed
        have hequal : ∀ other, other ≠ source →
            full.circuits other = reduced.circuits other := by
          intro other hne
          obtain hsame | hlag := h.circuits other hne
          · exact hsame
          · exact absurd hnone (hlag.idle id a hkept hfull)
        obtain ⟨hcircuits, hclosed', hfailures⟩ := alike_note h.tail hequal hclosed
        refine ⟨fun other hne => .inl (hcircuits other hne), hclosed, hclosed', hfailures,
          relates_update h.calls ?_⟩
        exact ⟨by simp [ChainCall.answer, htried], rfl, rfl⟩
      · exact h.tail

/-- A provider refuses a request in the full history. -/
theorem alike_answered_dropped
    (h : Alike chain source dropped (.answered id outcome now :: coming) full reduced)
    (hdropped : dropped id = true)
    (hrefused : ∀ call asked rest, full.calls id = some call → call.result = none →
      call.left = asked :: rest → asked = source ∧ ∃ error, outcome = .error (.provider error))
    (hclosed : ((full.step chain (.answered id outcome now)).circuits source).openUntil = none) :
    Alike chain source dropped coming (full.step chain (.answered id outcome now)) reduced := by
  unfold ChainState.step at hclosed ⊢
  dsimp only at hclosed ⊢
  split at hclosed
  · exact h.tail
  · next call hcall =>
    split at hclosed
    · next asked rest hnone hasked =>
      obtain ⟨rfl, error, rfl⟩ := hrefused call asked rest hcall hnone hasked
      dsimp only [ChainState.note, ProviderChain.noteFailure] at hclosed ⊢
      have hidle (other : ι) (hother : dropped other = false) (call : Option (ChainCall π α)) :
          Function.update full.calls id call other = full.calls other :=
        update_of_dropped hdropped call hother
      refine ⟨fun other hne => ?_, hclosed, h.closed', ?_, fun other hother => ?_⟩
      · refine (h.tail.circuits other hne).imp (fun hsame => ?_) fun hlag => ?_
        · dsimp only
          rw [Function.update_of_ne hne, hsame]
        · refine { hlag with reset := ?_, idle := fun other found hother hfound => ?_ }
          · dsimp only
            rw [Function.update_of_ne hne, hlag.reset]
          · exact hlag.idle other found hother ((hidle other hother _).symm.trans hfound)
      · dsimp only
        rw [Function.update_self]
        exact h.failures.trans (Nat.le_succ _)
      · dsimp only
        rw [hidle other hother]
        exact h.calls other hother
    · exact h.tail

end Alike

/-! ## Every history -/

section Histories

variable {chain : ProviderChain π} {events : List (ChainEvent ι α)} {source : π}
  {dropped : ι → Bool}

/-- A provider that only refuses is never switched off. -/
theorem closed_of_counts (hcounts : ∀ k, CountsFailovers chain (runEvents chain (events.take k)))
    (hrefused : RefusedOnly chain events source dropped) (k : ℕ) :
    ((runEvents chain (events.take k)).circuits source).openUntil = none := by
  by_contra hopen
  have hle := hcounts k source hopen
  have hnone : ((runEvents chain (events.take k)).failed source).filter
      (fun category => decide (category ∈ failoverCategories)) = [] :=
    List.filter_eq_nil_iff.mpr fun category hcategory =>
      by simpa using hrefused.refused k category hcategory
  rw [hnone] at hle
  exact Nat.not_le.mpr chain.one_le_failureThreshold hle

omit [DecidableEq ι] in
theorem others_take_succ {k : ℕ} {event : ChainEvent ι α} (h : events[k]? = some event) :
    others dropped (events.take (k + 1)) =
      if dropped event.call then others dropped (events.take k)
      else others dropped (events.take k) ++ [event] := by
  unfold others
  rw [List.take_add_one, h, Option.toList_some, List.filter_append]
  by_cases hdropped : dropped event.call = true <;> simp [hdropped]

theorem alike_runEvents (hclock : events.Pairwise fun a b => a.time.instant ≤ b.time.instant)
    (hrefused : RefusedOnly chain events source dropped)
    (hclosed : ∀ k, ((runEvents chain (events.take k)).circuits source).openUntil = none)
    (k : ℕ) : Alike chain source dropped (events.drop k) (runEvents chain (events.take k))
      (runEvents chain (others dropped (events.take k))) := by
  induction k with
  | zero => exact ⟨fun _ _ => .inl rfl, rfl, rfl, le_rfl, fun _ _ => .none⟩
  | succ k ih =>
    rcases hevent : events[k]? with _ | event
    · have hdrop : events.drop (k + 1) = events.drop k := by
        have hle := List.getElem?_eq_none_iff.mp hevent
        rw [List.drop_of_length_le hle, List.drop_of_length_le (by omega)]
      have htake : events.take (k + 1) = events.take k := by
        rw [List.take_add_one, hevent, Option.toList_none, List.append_nil]
      rwa [hdrop, htake]
    · obtain ⟨hlt, hget⟩ := List.getElem?_eq_some_iff.mp hevent
      have hdrop : events.drop k = event :: events.drop (k + 1) := by
        rw [List.drop_eq_getElem_cons hlt, hget]
      have hlater : ∀ next ∈ events.drop (k + 1), event.time.instant ≤ next.time.instant := by
        have hpairs := hclock.sublist (List.drop_sublist k events)
        rw [hdrop] at hpairs
        exact fun next hnext => List.rel_of_pairwise_cons hpairs hnext
      have hstays := hclosed (k + 1)
      rw [hdrop] at ih
      rw [runEvents_take_succ chain events hevent] at hstays ⊢
      rw [others_take_succ hevent]
      cases hdropped : dropped event.call with
      | true =>
        rw [if_pos rfl]
        cases event with
        | started id now =>
          exact alike_started_dropped ih hdropped hlater
            (hrefused.alone k id now hevent hdropped)
        | answered id outcome now =>
          exact alike_answered_dropped ih hdropped
            (hrefused.answers k id outcome now · · · hevent hdropped) hstays
      | false =>
        rw [if_neg (by simp), show runEvents chain (others dropped (events.take k) ++ [event]) =
          (runEvents chain (others dropped (events.take k))).step chain event from
            List.foldl_concat ..]
        cases event with
        | started id now => exact alike_started ih hdropped
        | answered id outcome now => exact alike_answered ih hdropped hstays

/-- Refusals switch no provider in a history exactly when the failures that open a circuit are
never refusals. -/
theorem breakerBlind_iff (hclock : events.Pairwise fun a b => a.time.instant ≤ b.time.instant) :
    BreakerBlind chain events ↔
      ∀ k, FirstFailuresFailOver chain (runEvents chain (events.take k)) := by
  constructor
  · exact fun h => (countsFailovers_iff chain events).mp h.counts
  · intro hfirst
    have hcounts := (countsFailovers_iff chain events).mpr hfirst
    refine ⟨hcounts, fun source dropped hrefused => ?_⟩
    have hclosed := closed_of_counts hcounts hrefused
    refine ⟨hclosed, fun id hid => ?_⟩
    have halike := (alike_runEvents hclock hrefused hclosed events.length).calls id hid
    rwa [List.take_length] at halike

end Histories

/-! ## Bad requests -/

namespace Sample

inductive Source where
  | amap | qweather
  deriving DecidableEq

/-- AMap before QWeather, with the default settings. -/
def weatherChain : ProviderChain Source :=
  ⟨[.amap, .qweather], 3, 30, by simp, usualThreshold_pos, usualRecovery_pos⟩

/-- The destination of a request is not unique. -/
def unresolvable : CallError :=
  .provider ⟨.invalidRequest, "weather_location_unresolved", "weather.resolve_location", false,
    "无法唯一解析天气查询地点"⟩

/-- AMap is slow three times, and QWeather answers instead; a fourth request is refused. -/
def slowRequests : List (ChainEvent ℕ ℕ) :=
  [.started 1 (second 0), .answered 1 (.error slow) (second 1), .answered 1 (.ok 10) (second 2),
   .started 2 (second 3), .answered 2 (.error slow) (second 4), .answered 2 (.ok 20) (second 5),
   .started 3 (second 6), .answered 3 (.error slow) (second 7), .answered 3 (.ok 30) (second 8),
   .started 4 (second 9), .answered 4 (.error unresolvable) (second 10)]

/-- Three requests for destinations that nobody knows. -/
def badRequests : List (ChainEvent ℕ ℕ) :=
  [.started 1 (second 0), .answered 1 (.error unresolvable) (second 1),
   .started 2 (second 2), .answered 2 (.error unresolvable) (second 3),
   .started 3 (second 4), .answered 3 (.error unresolvable) (second 5)]

end Sample

/-- The circuit of AMap is open because AMap was slow, and the refused request does not matter. -/
theorem breakerBlind_iff_slow :
    ((runEvents Sample.weatherChain Sample.slowRequests).circuits .amap).openUntil =
      some (Sample.second 37) ∧
    BreakerBlind Sample.weatherChain Sample.slowRequests := by
  refine ⟨by decide, (breakerBlind_iff (by decide)).mpr fun k source hle => ?_⟩
  have hfirst : ∀ k ∈ List.range 12, ∀ source ∈ [Sample.Source.amap, .qweather],
      3 ≤ ((runEvents Sample.weatherChain (Sample.slowRequests.take k)).failed source).length →
        ∀ category ∈ ((runEvents Sample.weatherChain
          (Sample.slowRequests.take k)).failed source).take 3, category ∈ failoverCategories := by
    decide
  rw [List.take_eq_take_min (l := Sample.slowRequests)] at hle ⊢
  refine hfirst _ (List.mem_range.mpr ?_) source (by cases source <;> decide) hle
  exact Nat.lt_succ_of_le (Nat.min_le_right k 11)

/-- Three bad requests open the circuit of the first provider. -/
theorem exists_not_breakerBlind : ¬ BreakerBlind Sample.weatherChain Sample.badRequests := by
  intro hblind
  have hcount := hblind.counts 6 .amap (by decide)
  exact absurd hcount (by decide)

end TravelPlanAgent
