import Mathlib.Data.List.Chain
import TravelPlanAgent.Graph.Updates
import TravelPlanAgent.Planning.Agreement

/-!
# The hard repair loop makes progress

A round of hard repair chooses a target, reports its violations, plans an action, applies it and
validates the result.  The record of an attempt is written at the very end of its round, while
the report that it compares with was made at the beginning.

* `RepairAttempt.Open`: the loop may go on after an attempt.
* `RepairProgress`: what the record of the attempts of a run says.
* `RepairProgress.concat`: one more attempt.
* `LoopFacts`, `loopFacts_next`: what holds before each node, and that every node keeps it.
* `hardRepair_progress`: the record of every run.
-/

namespace TravelPlanAgent

open PlanningGraph

/-! ## Records -/

/-- The loop may go on after an attempt. -/
def RepairAttempt.Open (attempt : RepairAttempt) : Prop :=
  attempt.terminalReason = none ∧ attempt.outcome ≠ .resolved

/-- The record of the attempts of a run: numbered rounds, each starting from what the one before
left behind, with fewer or as many errors, new violations and new actions, and an end after the
first attempt that resolves everything or gives up. -/
structure RepairProgress (history : List RepairAttempt) : Prop where
  rounds : history.map RepairAttempt.round = (List.range history.length).map (· + 1)
  chained : history.IsChain fun attempt next =>
    next.beforeErrorCount = attempt.afterErrorCount ∧
      next.beforeViolationFingerprint = attempt.afterViolationFingerprint
  decreasing : ∀ attempt ∈ history.dropLast, attempt.afterErrorCount ≤ attempt.beforeErrorCount
  fresh : history.Pairwise fun earlier attempt => attempt.Open →
    attempt.afterViolationFingerprint ≠ earlier.beforeViolationFingerprint ∧
      attempt.afterViolationFingerprint ≠ earlier.afterViolationFingerprint
  changed : ∀ attempt ∈ history, attempt.Open →
    attempt.afterViolationFingerprint ≠ attempt.beforeViolationFingerprint
  actions : (history.map RepairAttempt.actionFingerprint).Nodup
  ended : ∀ attempt ∈ history.dropLast, attempt.Open

/-- A report starts from what the last attempt left behind. -/
def Continues (history : List RepairAttempt) (fingerprint : String) (errorCount : ℕ) : Prop :=
  ∀ attempt ∈ history.getLast?, errorCount = attempt.afterErrorCount ∧
    fingerprint = attempt.afterViolationFingerprint

/-- Every attempt left the loop open and did not add errors. -/
def AllOpen (history : List RepairAttempt) : Prop :=
  ∀ attempt ∈ history, attempt.Open ∧ attempt.afterErrorCount ≤ attempt.beforeErrorCount

/-- What an attempt that is added to a record brings along. -/
structure NextAttempt (history : List RepairAttempt) (attempt : RepairAttempt) : Prop where
  round : attempt.round = history.length + 1
  continues : Continues history attempt.beforeViolationFingerprint attempt.beforeErrorCount
  newAction : attempt.actionFingerprint ∉ history.map RepairAttempt.actionFingerprint
  newViolations : attempt.Open → ∀ earlier ∈ history,
    attempt.afterViolationFingerprint ≠ earlier.beforeViolationFingerprint ∧
      attempt.afterViolationFingerprint ≠ earlier.afterViolationFingerprint
  changed : attempt.Open →
    attempt.afterViolationFingerprint ≠ attempt.beforeViolationFingerprint
  decreasing : attempt.Open → attempt.afterErrorCount ≤ attempt.beforeErrorCount

theorem repairProgress_nil : RepairProgress [] where
  rounds := rfl
  chained := .nil
  decreasing := by simp
  fresh := .nil
  changed := by simp
  actions := List.nodup_nil
  ended := by simp

/-- One more attempt after attempts that all left the loop open. -/
theorem RepairProgress.concat {history : List RepairAttempt} {attempt : RepairAttempt}
    (h : RepairProgress history) (hopen : AllOpen history) (hnext : NextAttempt history attempt) :
    RepairProgress (history ++ [attempt]) where
  rounds := by
    rw [List.map_append, List.length_append, List.length_singleton, List.range_succ,
      List.map_append, h.rounds, List.map_singleton, List.map_singleton, hnext.round]
  chained := by
    refine h.chained.append (List.isChain_singleton attempt) fun last hlast first hfirst => ?_
    obtain rfl := Option.some.inj hfirst
    exact hnext.continues last hlast
  decreasing := by
    rw [List.dropLast_concat]
    exact fun earlier hearlier => (hopen earlier hearlier).2
  fresh := by
    rw [List.pairwise_append]
    refine ⟨h.fresh, List.pairwise_singleton .., fun earlier hearlier last hlast => ?_⟩
    obtain rfl := List.mem_singleton.mp hlast
    exact fun hlastOpen => hnext.newViolations hlastOpen earlier hearlier
  changed := by
    intro other hother
    rcases List.mem_append.mp hother with hother | hother
    · exact h.changed other hother
    · obtain rfl := List.mem_singleton.mp hother
      exact hnext.changed
  actions := by
    rw [List.map_append, List.map_singleton, ← List.concat_eq_append]
    exact h.actions.concat hnext.newAction
  ended := by
    rw [List.dropLast_concat]
    exact fun earlier hearlier => (hopen earlier hearlier).1

/-- An attempt that leaves the loop open keeps the record open. -/
theorem AllOpen.concat {history : List RepairAttempt} {attempt : RepairAttempt}
    (hopen : AllOpen history) (hnext : NextAttempt history attempt) (h : attempt.Open) :
    AllOpen (history ++ [attempt]) := by
  intro other hother
  rcases List.mem_append.mp hother with hother | hother
  · exact hopen other hother
  · obtain rfl := List.mem_singleton.mp hother
    exact ⟨h, hnext.decreasing h⟩

/-! ## Verdicts -/

section Verdicts

variable [Platform] {state : TravelState} {report : CriticReport} {plan : RepairPlan}
  {round : ℕ} {repaired : PlanCandidate}

omit [Platform] in
/-- A violation fingerprint that was not seen before differs from all in the record. -/
theorem ne_of_not_seenBefore {history : List RepairAttempt} {fingerprint : String}
    (h : seenBefore history fingerprint = false) {attempt : RepairAttempt}
    (hattempt : attempt ∈ history) : fingerprint ≠ attempt.beforeViolationFingerprint ∧
      fingerprint ≠ attempt.afterViolationFingerprint := by
  rw [seenBefore, List.any_eq_false] at h
  have hne := h attempt hattempt
  rw [Bool.or_eq_true, decide_eq_true_iff, decide_eq_true_iff, not_or] at hne
  exact hne

/-- Only a repair that improved leaves the loop open. -/
theorem repairVerdict_open {history : List RepairAttempt}
    (hreason : (repairVerdict history report plan repaired).2 = none)
    (houtcome : (repairVerdict history report plan repaired).1 ≠ .resolved) :
    violationFingerprint repaired ≠ report.violationFingerprint ∧
      seenBefore history (violationFingerprint repaired) = false ∧
      repairImproved report plan repaired = true := by
  unfold repairVerdict at hreason houtcome
  dsimp only at hreason houtcome
  split at hreason
  · next hdeliverable => exact absurd (by rw [if_pos hdeliverable]) houtcome
  split at hreason
  · cases hreason
  · next hnew =>
    rw [not_or, Bool.not_eq_true] at hnew
    split at hreason
    · next himproved => exact ⟨hnew.1, hnew.2, himproved⟩
    · cases hreason

omit [Platform] in
/-- A repair that improved did not add errors. -/
theorem errors_le_of_repairImproved (h : repairImproved report plan repaired = true) :
    (errorViolations repaired).length ≤ report.errorCount := by
  rw [repairImproved, Bool.or_eq_true, Bool.and_eq_true] at h
  rcases h with h | ⟨_, h⟩
  · exact Nat.le_of_lt (of_decide_eq_true h)
  · exact of_decide_eq_true h

/-- The record of an attempt that follows a report. -/
theorem nextAttempt_repairAttempt
    (hround : round = state.repairHistory.length + 1)
    (hcontinues : Continues state.repairHistory report.violationFingerprint report.errorCount)
    (hnew : plan.actionFingerprint ∉ state.repairHistory.map RepairAttempt.actionFingerprint) :
    NextAttempt state.repairHistory (repairAttempt state report plan round repaired) where
  round := hround
  continues := hcontinues
  newAction := hnew
  newViolations hopen _ hearlier :=
    ne_of_not_seenBefore (repairVerdict_open hopen.1 hopen.2).2.1 hearlier
  changed hopen := (repairVerdict_open hopen.1 hopen.2).1
  decreasing hopen := errors_le_of_repairImproved (repairVerdict_open hopen.1 hopen.2).2.2

end Verdicts

/-! ## Where the loop is -/

/-- What holds of the record wherever a run is. -/
structure LoopRecord (maxRounds : ℕ) (state : TravelState) : Prop where
  progress : RepairProgress state.repairHistory
  iterations : state.iterations = state.repairHistory.length
  iterations_le : state.iterations ≤ maxRounds
  maxReplanRounds : state.maxReplanRounds = maxRounds

/-- The loop may try another round. -/
structure MayRepair (state : TravelState) : Prop where
  allOpen : AllOpen state.repairHistory
  room : state.iterations < state.maxReplanRounds
  noSoftRepair : state.pendingSoftReplanRound = none

/-- No round is pending and none was tried. -/
structure BeforeLoop (state : TravelState) : Prop where
  nothingTried : state.repairHistory = []
  notPending : state.pendingReplanRound = none
  noSoftRepair : state.pendingSoftReplanRound = none

/-- The report in the state continues the record. -/
def ReportContinues (state : TravelState) : Prop :=
  ∀ report ∈ state.criticReport,
    Continues state.repairHistory report.violationFingerprint report.errorCount

/-- The plan in the state is for the next round and has a new action. -/
def PlanIsNew (state : TravelState) : Prop :=
  ∀ plan ∈ state.repairPlan, plan.round = state.iterations + 1 ∧
    plan.actionFingerprint ∉ state.repairHistory.map RepairAttempt.actionFingerprint

/-- A round was applied and is not recorded yet. -/
structure RoundPending (state : TravelState) : Prop where
  mayRepair : MayRepair state
  pending : state.pendingReplanRound = some (state.iterations + 1)
  report : ReportContinues state
  plan : PlanIsNew state

section Loop

variable [Platform]

/-- Every candidate in the state is what the last attempt left behind. -/
def CandidatesContinue (state : TravelState) : Prop :=
  ∀ candidate ∈ state.candidates, Continues state.repairHistory (violationFingerprint candidate)
    (errorViolations candidate).length

/-- What holds of the loop before each node. -/
def LoopFacts (state : TravelState) : PlanningNode → Prop
  | .executionBudgetGuard | .buildSearchPlan | .loadPois | .resolvePoiFacts | .buildRouteMatrix
  | .buildOptimizationProblem | .solveCandidateVariants | .materializeOptimizedCandidates =>
    BeforeLoop state
  | .selectRepairTarget | .analyzeViolations =>
    MayRepair state ∧ state.pendingReplanRound = none ∧ CandidatesContinue state
  | .buildRepairPlan => MayRepair state ∧ state.pendingReplanRound = none ∧ ReportContinues state
  | .applyLocalRepair => MayRepair state ∧ state.pendingReplanRound = none ∧
    ReportContinues state ∧ PlanIsNew state
  | .collectDeltaRoutes | .loadDeltaRoutes | .materializeCandidates => RoundPending state
  | .validateCandidates => BeforeLoop state ∨ RoundPending state ∨
    (state.pendingReplanRound = none ∧ state.pendingSoftReplanRound.isSome)
  | .collectSoftDeltaRoutes | .loadSoftDeltaRoutes | .materializeSoftCandidate =>
    state.pendingReplanRound = none ∧ state.pendingSoftReplanRound.isSome
  | .selectUnvalidatedForEvaluation => True
  | _ => state.pendingReplanRound = none

/-- What holds wherever a run is. -/
def LoopInvariant (maxRounds : ℕ) (node : Option PlanningNode) (state : TravelState) : Prop :=
  LoopRecord maxRounds state ∧ ∀ n ∈ node, LoopFacts state n

/-! ## Steps -/

variable {setup : PlanningSetup} {world : PlanningWorld} {maxRounds n : ℕ}
  {run runAfter : Option RunContext} {state after : TravelState}

/-- Before the loop, a validation leads to its first round or past it. -/
theorem loopFacts_routeAfterValidation
    (hpending : state.pendingReplanRound = none)
    (hloop : state.pendingSoftReplanRound.isSome ∨
      (deliverableCandidates state = [] → state.repairTerminalReason = none →
        state.pendingSoftReplanRound = none ∧ AllOpen state.repairHistory ∧
          CandidatesContinue state)) :
    LoopFacts state (routeAfterValidation setup state) := by
  unfold routeAfterValidation
  dsimp only
  split
  · exact hpending
  next hrestore =>
  split
  · split <;> exact hpending
  next hnone =>
  rw [not_not] at hnone
  split
  · next hmay =>
    rw [mayRepair, Bool.and_eq_true, Bool.and_eq_true] at hmay
    rcases hloop with hsoft | hloop
    · exact absurd ⟨hsoft, hnone⟩ hrestore
    · obtain ⟨hsoft, hopen, hcandidates⟩ :=
        hloop hnone (Option.isNone_iff_eq_none.mp hmay.1.1)
      exact ⟨⟨hopen, of_decide_eq_true hmay.2, hsoft⟩, hpending, hcandidates⟩
  · exact hpending

/-- The attempt of a pending round continues the record. -/
theorem RoundPending.nextAttempt (h : RoundPending state)
    (hiterations : state.iterations = state.repairHistory.length) {report : CriticReport}
    {plan : RepairPlan} {repaired : PlanCandidate} (hreport : state.criticReport = some report)
    (hplan : state.repairPlan = some plan) :
    NextAttempt state.repairHistory
      (repairAttempt state report plan (state.iterations + 1) repaired) :=
  nextAttempt_repairAttempt (by rw [hiterations]) (h.report report hreport)
    (h.plan plan hplan).2

/-- A validation ends the pending round, and keeps the record when there is none. -/
theorem loopInvariant_validate (h : validate state = .ok after)
    (hrecord : LoopRecord maxRounds state) (hfacts : LoopFacts state .validateCandidates) :
    LoopRecord maxRounds after ∧ LoopFacts after (routeAfterValidation setup after) := by
  obtain ⟨_, ⟨hnone, rfl⟩ | ⟨round, attempt, hpending, hattempt, rfl⟩⟩ := validate_eq_ok h
  · refine ⟨⟨hrecord.progress, hrecord.iterations, hrecord.iterations_le,
      hrecord.maxReplanRounds⟩, loopFacts_routeAfterValidation hnone ?_⟩
    rcases hfacts with hbefore | hround | ⟨_, hsoft⟩
    · refine .inr fun _ _ => ⟨hbefore.noSoftRepair, ?_, ?_⟩
      · intro other hother
        rw [show state.repairHistory = [] from hbefore.nothingTried] at hother
        cases hother
      · intro candidate _ last hlast
        rw [show state.repairHistory = [] from hbefore.nothingTried] at hlast
        cases hlast
    · rw [hround.pending] at hnone
      cases hnone
    · exact .inl hsoft
  · obtain ⟨report, plan, repaired, hreport, hplan, hrepaired, hattempt⟩ :=
      recordRepair_eq_ok hattempt
    have hround : RoundPending state := by
      rcases hfacts with hbefore | hround | ⟨hnone, _⟩
      · exact absurd (hbefore.notPending.symm.trans hpending) (by simp)
      · exact hround
      · exact absurd (hnone.symm.trans hpending) (by simp)
    obtain rfl : state.iterations + 1 = round :=
      Option.some.inj (hround.pending.symm.trans hpending)
    have hnext : NextAttempt state.repairHistory
        (repairAttempt state report plan (state.iterations + 1) repaired) :=
      hround.nextAttempt hrecord.iterations hreport hplan
    rw [← hattempt] at hnext
    have hroom := hround.mayRepair.room
    rw [hrecord.maxReplanRounds] at hroom
    refine ⟨⟨hrecord.progress.concat hround.mayRepair.allOpen hnext, ?_, hroom,
      hrecord.maxReplanRounds⟩, loopFacts_routeAfterValidation rfl (.inr fun hnone hreason => ?_)⟩
    · dsimp only
      rw [List.length_append, List.length_singleton, hrecord.iterations]
    have hopen : attempt.Open := by
      refine ⟨hreason, ?_⟩
      rw [deliverableCandidates, hrepaired, List.filter_eq_nil_iff] at hnone
      have hundelivered : isDeliverable repaired ≠ true :=
        hnone repaired (List.mem_singleton_self _)
      rw [hattempt]
      change (repairVerdict _ report plan repaired).1 ≠ _
      unfold repairVerdict
      dsimp only
      rw [if_neg hundelivered]
      split
      · exact RepairOutcome.noConfusion
      · split <;> exact RepairOutcome.noConfusion
    refine ⟨hround.mayRepair.noSoftRepair, hround.mayRepair.allOpen.concat hnext hopen, ?_⟩
    intro candidate hcandidate last hlast
    rw [hrepaired] at hcandidate
    obtain rfl := List.mem_singleton.mp hcandidate
    rw [List.getLast?_append_of_ne_nil _ (by simp)] at hlast
    obtain rfl := Option.some.inj hlast
    rw [hattempt]
    exact ⟨rfl, rfl⟩

/-- The nodes that write something of what the loop is about. -/
def loopNodes : List PlanningNode :=
  [.validateCandidates, .applyLocalRepair, .applySoftRepair, .restoreSoftBaseline,
   .compareSoftRepair]

section Kept

variable {node : PlanningNode}

omit [Platform] in
theorem LoopRecord.keep (h : LoopRecord maxRounds state) (hframe : Frame node state after)
    (hnode : node ≠ .validateCandidates) : LoopRecord maxRounds after where
  progress := hframe.history hnode ▸ h.progress
  iterations := by rw [hframe.history hnode, hframe.iterations hnode, h.iterations]
  iterations_le := hframe.iterations hnode ▸ h.iterations_le
  maxReplanRounds := hframe.maxReplanRounds.trans h.maxReplanRounds

omit [Platform] in
/-- Outside of those nodes the loop is where it was. -/
theorem kept_of_frame (hframe : Frame node state after) (hnode : node ∉ loopNodes) :
    after.repairHistory = state.repairHistory ∧ after.iterations = state.iterations ∧
      after.pendingReplanRound = state.pendingReplanRound ∧
      after.pendingSoftReplanRound = state.pendingSoftReplanRound := by
  simp only [loopNodes, List.mem_cons, List.not_mem_nil, or_false, not_or] at hnode
  obtain ⟨hvalidate, hlocal, hsoft, hrestore, hcompare⟩ := hnode
  exact ⟨hframe.history hvalidate, hframe.iterations hvalidate,
    hframe.pending (by simp [hvalidate, hlocal]),
    hframe.softPending (by simp [hsoft, hrestore, hcompare])⟩

omit [Platform] in
theorem BeforeLoop.keep (h : BeforeLoop state) (hframe : Frame node state after)
    (hnode : node ∉ loopNodes) : BeforeLoop after := by
  obtain ⟨hhistory, _, hpending, hsoft⟩ := kept_of_frame hframe hnode
  exact ⟨hhistory.trans h.nothingTried, hpending.trans h.notPending, hsoft.trans h.noSoftRepair⟩

omit [Platform] in
theorem MayRepair.keep (h : MayRepair state) (hframe : Frame node state after)
    (hnode : node ∉ loopNodes) : MayRepair after := by
  obtain ⟨hhistory, hiterations, _, hsoft⟩ := kept_of_frame hframe hnode
  refine ⟨hhistory ▸ h.allOpen, ?_, hsoft.trans h.noSoftRepair⟩
  rw [hiterations, hframe.maxReplanRounds]
  exact h.room

omit [Platform] in
theorem RoundPending.keep (h : RoundPending state) (hframe : Frame node state after)
    (hnode : node ∉ loopNodes)
    (hrepair : node ∉ [.selectRepairTarget, .analyzeViolations, .buildRepairPlan]) :
    RoundPending after := by
  obtain ⟨hhistory, hiterations, hpending, _⟩ := kept_of_frame hframe hnode
  simp only [loopNodes, List.mem_cons, List.not_mem_nil, or_false, not_or] at hnode hrepair
  have hreport := hframe.report (by simp [hrepair])
  have hplan := hframe.repairPlan (by simp [hnode, hrepair])
  refine ⟨h.mayRepair.keep hframe (by simp [loopNodes, hnode]), ?_, ?_, ?_⟩
  · rw [hpending, hiterations, h.pending]
  · rw [ReportContinues, hreport, hhistory]
    exact h.report
  · rw [PlanIsNew, hplan, hhistory, hiterations]
    exact h.plan

end Kept

theorem loopInvariant_analyzeViolations (h : analyzeViolations state = .ok after)
    (hframe : Frame .analyzeViolations state after)
    (hrecord : LoopRecord maxRounds state) (hfacts : LoopFacts state .analyzeViolations) :
    LoopRecord maxRounds after ∧ LoopFacts after (routeAfterCritic after) := by
  obtain ⟨hmay, hnone, hcandidates⟩ := hfacts
  obtain ⟨candidate, hcandidate, rfl⟩ := analyzeViolations_eq_ok h
  refine ⟨hrecord.keep hframe (by decide), ?_⟩
  unfold routeAfterCritic
  dsimp only
  split
  · refine ⟨⟨hmay.allOpen, hmay.room, hmay.noSoftRepair⟩, hnone, fun report hreport => ?_⟩
    obtain rfl := Option.some.inj hreport
    exact hcandidates candidate hcandidate
  · exact hnone

theorem loopInvariant_createRepairPlan
    (h : createRepairPlan setup world n run state = .ok (after, runAfter))
    (hframe : Frame .buildRepairPlan state after)
    (hrecord : LoopRecord maxRounds state) (hfacts : LoopFacts state .buildRepairPlan) :
    LoopRecord maxRounds after ∧ LoopFacts after (routeAfterRepairPlan after) := by
  obtain ⟨hmay, hnone, hreport⟩ := hfacts
  obtain ⟨plan, reason, text, hplan, rfl⟩ := createRepairPlan_eq_ok h
  refine ⟨hrecord.keep hframe (by decide), ?_⟩
  unfold routeAfterRepairPlan
  split
  · exact ⟨⟨hmay.allOpen, hmay.room, hmay.noSoftRepair⟩, hnone, hreport, hplan⟩
  · exact hnone

theorem loopInvariant_applyLocalRepair (h : applyLocalRepair setup state = .ok after)
    (hframe : Frame .applyLocalRepair state after)
    (hrecord : LoopRecord maxRounds state) (hfacts : LoopFacts state .applyLocalRepair) :
    LoopRecord maxRounds after ∧ RoundPending after := by
  obtain ⟨hmay, _, hreport, hnew⟩ := hfacts
  obtain ⟨_, plan, _, _, keys, _, _, hplan, _, rfl, rfl⟩ := applyLocalRepair_eq_ok h
  obtain ⟨hround, haction⟩ := hnew plan hplan
  refine ⟨hrecord.keep hframe (by decide), ⟨hmay.allOpen, hmay.room, hmay.noSoftRepair⟩, ?_,
    hreport, ?_⟩
  · exact congrArg some hround
  · intro applied happlied
    obtain rfl := Option.some.inj happlied
    exact ⟨hround, haction⟩

/-- Every node keeps what holds of the loop. -/
theorem loopInvariant_next {node : PlanningNode}
    (h : node.execute setup world n run state = .ok (after, runAfter))
    (hbefore : LoopInvariant maxRounds (some node) state) :
    LoopInvariant maxRounds (node.next setup after) after := by
  obtain ⟨hrecord, hfacts⟩ := hbefore
  replace hfacts := hfacts node rfl
  have hframe := frame_of_execute h
  suffices hafter : LoopRecord maxRounds after ∧
      ∀ next, node.next setup after = some next → LoopFacts after next from hafter
  have hnone (hpending : state.pendingReplanRound = none)
      (hnode : node ∉ [.validateCandidates, .applyLocalRepair]) :
      after.pendingReplanRound = none := (hframe.pending hnode).trans hpending
  cases node with
  | executionBudgetGuard | buildSearchPlan | loadPois | resolvePoiFacts | buildRouteMatrix
  | buildOptimizationProblem | solveCandidateVariants =>
    refine ⟨hrecord.keep hframe (by decide), fun next hnext => ?_⟩
    cases hnext
    exact BeforeLoop.keep hfacts hframe (by decide)
  | materializeOptimizedCandidates =>
    refine ⟨hrecord.keep hframe (by decide), fun next hnext => ?_⟩
    cases hnext
    unfold validationTarget
    split
    · exact trivial
    · exact .inl (BeforeLoop.keep hfacts hframe (by decide))
  | validateCandidates =>
    obtain ⟨hafter, hroute⟩ := loopInvariant_validate (plainNode_eq_ok h) hrecord hfacts
    refine ⟨hafter, fun next hnext => ?_⟩
    cases hnext
    exact hroute
  | selectRepairTarget =>
    refine ⟨hrecord.keep hframe (by decide), fun next hnext => ?_⟩
    cases hnext
    obtain ⟨hmay, hpending, hcandidates⟩ := hfacts
    refine ⟨hmay.keep hframe (by decide), hnone hpending (by decide), ?_⟩
    rw [CandidatesContinue, hframe.candidates (by decide), hframe.history (by decide)]
    exact hcandidates
  | analyzeViolations =>
    obtain ⟨hafter, hroute⟩ :=
      loopInvariant_analyzeViolations (plainNode_eq_ok h) hframe hrecord hfacts
    refine ⟨hafter, fun next hnext => ?_⟩
    cases hnext
    exact hroute
  | buildRepairPlan =>
    obtain ⟨hafter, hroute⟩ := loopInvariant_createRepairPlan h hframe hrecord hfacts
    refine ⟨hafter, fun next hnext => ?_⟩
    cases hnext
    exact hroute
  | applyLocalRepair =>
    obtain ⟨hafter, hround⟩ :=
      loopInvariant_applyLocalRepair (plainNode_eq_ok h) hframe hrecord hfacts
    refine ⟨hafter, fun next hnext => ?_⟩
    cases hnext
    exact hround
  | collectDeltaRoutes =>
    refine ⟨hrecord.keep hframe (by decide), fun next hnext => ?_⟩
    cases hnext
    have hround := RoundPending.keep hfacts hframe (by decide) (by decide)
    unfold routeAfterDeltaRoutes
    split <;> exact hround
  | loadDeltaRoutes =>
    refine ⟨hrecord.keep hframe (by decide), fun next hnext => ?_⟩
    cases hnext
    exact RoundPending.keep hfacts hframe (by decide) (by decide)
  | materializeCandidates =>
    refine ⟨hrecord.keep hframe (by decide), fun next hnext => ?_⟩
    cases hnext
    have hround := RoundPending.keep hfacts hframe (by decide) (by decide)
    unfold validationTarget
    split
    · exact trivial
    · exact .inr (.inl hround)
  | applySoftRepair =>
    refine ⟨hrecord.keep hframe (by decide), fun next hnext => ?_⟩
    cases hnext
    refine ⟨hnone hfacts (by decide), ?_⟩
    obtain ⟨_, _, _, _, _, _, _, _, _, _, rfl⟩ :=
      PlanningGraph.applySoftRepair_eq_ok (plainNode_eq_ok h)
    rfl
  | collectSoftDeltaRoutes =>
    refine ⟨hrecord.keep hframe (by decide), fun next hnext => ?_⟩
    cases hnext
    have hsoft : after.pendingReplanRound = none ∧ after.pendingSoftReplanRound.isSome := by
      rw [hframe.softPending (by decide)]
      exact ⟨hnone hfacts.1 (by decide), hfacts.2⟩
    unfold routeAfterSoftDeltaRoutes
    split <;> exact hsoft
  | loadSoftDeltaRoutes | materializeSoftCandidate =>
    refine ⟨hrecord.keep hframe (by decide), fun next hnext => ?_⟩
    cases hnext
    have hsoft : after.pendingReplanRound = none ∧ after.pendingSoftReplanRound.isSome := by
      rw [hframe.softPending (by decide)]
      exact ⟨hnone hfacts.1 (by decide), hfacts.2⟩
    first | exact hsoft | exact .inr (.inr hsoft)
  | prepareCriticContext | softConstraintCritic | restoreSoftBaseline | compareSoftRepair
  | selectByQuality =>
    refine ⟨hrecord.keep hframe (by decide), fun next hnext => ?_⟩
    cases hnext
    exact hnone hfacts (by decide)
  | validateCriticEvidence =>
    refine ⟨hrecord.keep hframe (by decide), fun next hnext => ?_⟩
    cases hnext
    unfold routeAfterGrounding
    split <;> exact hnone hfacts (by decide)
  | qualityGate =>
    refine ⟨hrecord.keep hframe (by decide), fun next hnext => ?_⟩
    cases hnext
    unfold routeAfterQualityGate
    split
    · exact hnone hfacts (by decide)
    · split <;> exact hnone hfacts (by decide)
  | compileSoftRepairPlan =>
    refine ⟨hrecord.keep hframe (by decide), fun next hnext => ?_⟩
    cases hnext
    unfold routeAfterSoftRepairPlan
    split <;> exact hnone hfacts (by decide)
  | explainSelection | selectBest | markInfeasible | selectUnvalidatedForEvaluation =>
    exact ⟨hrecord.keep hframe (by decide), fun next hnext => by cases hnext⟩

/-- Wherever a run gets, its record of hard repairs shows progress. -/
theorem loopInvariant_of_visits {request : PlanningRequest} {position : Position}
    (h : Visits setup world request run position) :
    LoopInvariant request.maxReplanRounds position.node position.state := by
  refine reaches_preserves h ⟨⟨repairProgress_nil, rfl, Nat.zero_le _, rfl⟩, ?_⟩
    fun node n runBefore runAfter state updated hexecute => loopInvariant_next hexecute
  intro node hnode
  cases hnode
  exact ⟨rfl, rfl, rfl⟩

/-- In every run, the rounds of hard repair stay within their limit and make progress. -/
theorem hardRepair_progress {request : PlanningRequest} {position : Position}
    (h : Visits setup world request run position) :
    position.state.iterations ≤ request.maxReplanRounds ∧
      position.state.repairHistory.length ≤ request.maxReplanRounds ∧
      RepairProgress position.state.repairHistory := by
  obtain ⟨hrecord, _⟩ := loopInvariant_of_visits h
  exact ⟨hrecord.iterations_le, hrecord.iterations ▸ hrecord.iterations_le, hrecord.progress⟩

end Loop

/-! ## A run that repairs an empty plan -/

namespace PlanningSample

/-- A place that is open every day, so far north, for a visit of so many minutes. -/
def place (id : String) (hundredths minutes : ℕ) (hminutes : 0 < minutes) : POIFacts :=
  { id, name := id, city := "杭州", coordinate := Sample.north hundredths, categories := ["景点"]
    openingWindowsByWeekday :=
      Dict.ofList ((List.range 7).map fun weekday => (weekday, Sample.openingHours))
    todayOpeningWindow := none, todayOpeningDate := none
    averageCostPerPerson := some 10, suggestedDurationMinutes := some minutes
    provider := "amap", fetchedAt := Sample.at_ Sample.day1 8, dataConfidence := 9 / 10
    averageCostPerPerson_nonneg := by simp
    suggestedDurationMinutes_pos := by simpa using hminutes }

/-- Every search finds these places and every leg can be travelled. -/
def gateway (places : List POIFacts) : ToolGateway :=
  { searchPoi := fun _ => .ok (.success places none none)
    getRoute := fun query => .ok (.success
      (Sample.route query.mode (if query.mode = .driving then 14 else 19)) none none) }

/-- One day of the two-day trip. -/
def trip : TripSpec :=
  { Sample.trip with
    endDate := Sample.day1
    departure := ⟨"station", Sample.at_ Sample.day1 20, Sample.north 0⟩
    startDate_le_endDate := le_rfl
    departure_le_endDate := Sample.sameDay_departure
    arrival_lt_departure := Sample.arrival_lt_evening }

def request : PlanningRequest := { trip }

/-- Without a critic. -/
def setup : PlanningSetup :=
  { defaults := .assumeWithWarning, policy := .default, optimizationBudget := .default
    critic := none
    criticPolicy := .default, evidenceBudget := .default, overrides := { skipSoftCritic := true }
    agentMode := .singleGraph, specialists := {} }

/-- The solver answers with these days for the relaxed style, and the critic is unavailable. -/
def world (places : List POIFacts) (days : List DraftDay) : PlanningWorld :=
  { gateway := fun _ => gateway places
    solve := fun _ => .solved ⟨.feasible, "cp-sat", [⟨.relaxed, days⟩], none⟩
    critique := fun _ _ _ => .error (.unavailable "critic" "model" "timeout" 1)
    elapsedMs := fun _ _ => 0
    checkpoint := fun _ => .ok ()
    handoffTerms := fun _ _ => ⟨0, false, true⟩
    queriesCharacters := fun _ => 0
    repairCharacters := fun _ => 0
    critiqueCharacters := fun _ => 0 }

/-- The solver leaves the only day empty. -/
def emptyDay : PlanningWorld :=
  world [place "a" 1 60 (by decide)] [⟨Sample.day1, []⟩]

end PlanningSample

/-- The empty day is filled in one round. -/
theorem hardRepair_progress_emptyDay : ∃ position,
    @Visits plainPlatform PlanningSample.setup PlanningSample.emptyDay PlanningSample.request none
      position ∧
    position.state.repairHistory.length = 1 ∧ RepairProgress position.state.repairHistory := by
  let := plainPlatform
  have hrun : ((@runPlanning plainPlatform PlanningSample.setup PlanningSample.emptyDay
      PlanningSample.request none).toOption.map fun state => state.repairHistory.length) =
      some 1 := by
    decide +kernel
  obtain ⟨state, hstate, hlength⟩ := Option.map_eq_some_iff.mp hrun
  obtain ⟨position, hvisits, _, rfl⟩ := exists_of_runPlanning (eq_ok_of_mem_toOption hstate)
  exact ⟨position, hvisits, hlength, (hardRepair_progress hvisits).2.2⟩

end TravelPlanAgent
