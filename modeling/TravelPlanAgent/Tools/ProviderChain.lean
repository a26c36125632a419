import Mathlib.Logic.Function.Basic
import TravelPlanAgent.Domain.Platform

/-!
# Provider chains

A chain calls one provider after the other while the errors allow it.  Each provider has a circuit
that counts its failures; an open circuit keeps the provider from being called for a while.

* `ToolErrorCategory`, `ToolProviderError`, `CallError`: how a call of a provider fails.
* `Circuit`, `ProviderChain`: the state of the breaker and the settings of a chain.
* `isOpen`, `available`: the circuits at the start of a call, and the providers that are left.
* `noteFailure`, `noteSuccess`: what a call does to the circuit of its provider.
-/

namespace TravelPlanAgent

open Calendar

/-! ## Errors -/

inductive ToolErrorCategory where
  | timeout | connection | rateLimit | authentication | permission | invalidRequest
  | invalidResponse | upstreamUnavailable
  deriving DecidableEq

structure ToolProviderError where
  category : ToolErrorCategory
  code : String
  operation : String
  retryable : Bool
  safeMessage : String
  deriving DecidableEq

/-- `ToolProviderError.timeout`. -/
def ToolProviderError.timeout (operation : String) : ToolProviderError :=
  ⟨.timeout, "timeout", operation, true, "The provider timed out. Please try again."⟩

/-- How a call of a provider ends badly. -/
inductive CallError where
  | provider (error : ToolProviderError)
  /-- `asyncio.wait_for` gave up. -/
  | timeout
  /-- Any other exception. -/
  | raised (failure : Failure)

/-- `_FAILOVER_CATEGORIES`. -/
def failoverCategories : List ToolErrorCategory :=
  [.timeout, .connection, .rateLimit, .invalidResponse, .upstreamUnavailable]

/-! ## Circuits -/

/-- The state of `_Circuit`. -/
structure Circuit where
  failures : ℕ := 0
  openUntil : Option DateTime := none
  deriving DecidableEq

/-- The instant some seconds later. -/
def addSeconds (time : DateTime) (seconds : ℕ) : DateTime :=
  ⟨time.instant + seconds * 1000000, time.offset⟩

theorem usualThreshold_pos : 1 ≤ 3 := by decide

theorem usualRecovery_pos : 1 ≤ 30 := by decide

/-- `_ProviderChain`. -/
structure ProviderChain (π : Type) where
  providers : List π
  failureThreshold : ℕ := 3
  recoverySeconds : ℕ := 30
  providers_ne_nil : providers ≠ []
  one_le_failureThreshold : 1 ≤ failureThreshold
  one_le_recoverySeconds : 1 ≤ recoverySeconds

namespace ProviderChain

variable {α π : Type} [DecidableEq π] (chain : ProviderChain π)

/-- `_is_open`.  A circuit that was open for long enough is closed. -/
def isOpen (circuits : π → Circuit) (source : π) (now : DateTime) :
    Bool × (π → Circuit) :=
  match (circuits source).openUntil with
  | none => (false, circuits)
  | some openUntil =>
    if now.instant ≥ openUntil.instant then (false, Function.update circuits source {})
    else (true, circuits)

/-- The providers whose circuit is not open, or the last one when there are none. -/
def available (circuits : π → Circuit) (now : DateTime) :
    List π × (π → Circuit) :=
  let (closed, circuits) := chain.providers.foldl (fun (closed, circuits) source =>
    let (isOpen, circuits) := isOpen circuits source now
    (if isOpen then closed else closed ++ [source], circuits)) ([], circuits)
  (if closed.isEmpty then [chain.providers.getLast chain.providers_ne_nil] else closed, circuits)

/-- `_note_failure`. -/
def noteFailure (circuits : π → Circuit) (source : π) (at_ : DateTime) :
    π → Circuit :=
  let circuit := circuits source
  let failures := circuit.failures + 1
  Function.update circuits source
    ⟨failures, if failures ≥ chain.failureThreshold
      then some (addSeconds at_ chain.recoverySeconds) else circuit.openUntil⟩

/-- `_note_success`. -/
def noteSuccess (circuits : π → Circuit) (source : π) :
    π → Circuit :=
  Function.update circuits source {}

/-- `can_failover`, apart from the number of the providers that are left. -/
def canFailover : Except CallError α → Bool
  | .error (.provider error) => decide (error.category ∈ failoverCategories)
  | _ => false

end ProviderChain

end TravelPlanAgent
