import TravelPlanAgent.Lifecycle.StuckThread

/-!
# Runs followed from node to node

`runNodes_preserves` looks at the record alone.  Here the record, the state of the graph and the
node are followed together, up to the interrupt at which the run pauses.

* `stepNode_eq_next`: what one node hands to the next.
* `runNodes_paused`: what every node hands on holds at the interrupt.
* `runRequest_paused`: the same for a whole request, from its dispatch.
* `EveryNodeOf`, `resume_keeps`: runs whose nodes all meet a condition.
* `ThreadInvariant`: a session that waits has a payload, and an unclear one has no thread.
* `AtInterrupt`, `atInterrupt_resume`: what the state of a session that waits keeps.
-/

namespace TravelPlanAgent

variable [Platform]

section Positions

variable {config : LifecycleConfig} {services : LifecycleServices}
  {record record' : PlanSessionRecord} {state state' : LifecycleState}
  {node node' : LifecycleNode} {payload : InterruptPayload}

/-! ## One node -/

omit [Platform] in
theorem followEdge_eq_next {before after : LifecycleState}
    (h : followEdge record node before after = .next record' state' node') :
    record' = record ∧ state' = after ∧ nextNode after node = .ok node' := by
  unfold followEdge at h
  split at h
  · next next hnext =>
    cases h
    exact ⟨rfl, rfl, hnext⟩
  · cases h

/-- A node that hands on did so after it returned, along the edge of the state it left. -/
structure HandsOn (config : LifecycleConfig) (services : LifecycleServices)
    (record : PlanSessionRecord) (state : LifecycleState) (node : LifecycleNode)
    (record' : PlanSessionRecord) (state' : LifecycleState) (node' : LifecycleNode) : Prop where
  fault : services.fault = none
  acts : node ≠ .awaitUserAction
  exec : execNode config services state record node = .ok (.goto state') ∧ record' = record ∨
    execNode config services state record node = .ok (.saved record' state')
  edge : nextNode state' node = .ok node'

theorem stepNode_eq_next (h : stepNode config services record state node =
    .next record' state' node') :
    HandsOn config services record state node record' state' node' := by
  unfold stepNode at h
  split at h
  · cases h
  · next hfault =>
    split at h
    · split at h <;> cases h
    · next hacts =>
      split at h
      · cases h
      · next after hexec =>
        obtain ⟨rfl, rfl, hedge⟩ := followEdge_eq_next h
        exact ⟨hfault, hacts, .inl ⟨hexec, rfl⟩, hedge⟩
      · next saved after hexec =>
        obtain ⟨rfl, rfl, hedge⟩ := followEdge_eq_next h
        exact ⟨hfault, hacts, .inr hexec, hedge⟩
      · cases h

/-- Only the node that waits for the user pauses, and nothing changes there. -/
theorem stepNode_eq_paused (h : stepNode config services record state node =
    .ended (.paused record' state' payload)) :
    node = .awaitUserAction ∧ record' = record ∧ state' = state ∧
      interruptPayload record state = .ok payload := by
  unfold stepNode at h
  split at h
  · cases h
  · split at h
    · split at h
      · next hpayload =>
        cases h
        exact ⟨rfl, rfl, rfl, hpayload⟩
      · cases h
    · unfold followEdge at h
      split at h
      · cases h
      · split at h <;> cases h
      · split at h <;> cases h
      · cases h

/-! ## Runs -/

variable {motive : PlanSessionRecord → LifecycleState → LifecycleNode → Prop}

/-- What every node hands on holds at the interrupt at which the run pauses. -/
theorem runNodes_paused
    (step : ∀ services record state node record' state' node', motive record state node →
      HandsOn config services record state node record' state' node' →
      motive record' state' node')
    {services : ℕ → LifecycleServices} {fuel : ℕ} (h : motive record state node)
    (hrun : runNodes config services fuel record state node = .paused record' state' payload) :
    motive record' state' .awaitUserAction ∧ interruptPayload record' state' = .ok payload := by
  induction fuel generalizing record state node with
  | zero => cases hrun
  | succ fuel ih =>
    unfold runNodes at hrun
    cases hstep : stepNode config (services fuel) record state node with
    | ended runEnd =>
      rw [hstep] at hrun
      change runEnd = _ at hrun
      subst hrun
      obtain ⟨rfl, rfl, rfl, hpayload⟩ := stepNode_eq_paused hstep
      exact ⟨h, hpayload⟩
    | next after stateAfter nodeAfter =>
      rw [hstep] at hrun
      exact ih (step _ _ _ _ _ _ _ h (stepNode_eq_next hstep)) hrun

/-- The state in which the action of a request is dispatched. -/
def dispatched (record : PlanSessionRecord) (state : LifecycleState)
    (request : LifecycleResumeRequest) : LifecycleState :=
  dispatchAction { state with status := record.status } request

/-- A request that pauses was dispatched to a node, and ran from there. -/
theorem exists_runNodes_of_paused {request : LifecycleResumeRequest}
    {services : ℕ → LifecycleServices}
    (hrun : runRequest config services record state request = .paused record' state' payload) :
    ∃ node, routeAction request.action = .ok node ∧
      runNodes config services (recursionLimit - 2) record (dispatched record state request)
        node = .paused record' state' payload := by
  unfold runRequest at hrun
  split at hrun
  · cases hrun
  · cases hrun
  · dsimp only at hrun
    split at hrun
    · cases hrun
    · next runEnd _ hended =>
      unfold followEdge at hended
      split at hended
      · cases hended
      · cases hended
        cases hrun
    · next after stateAfter nodeAfter _ hnext =>
      obtain ⟨rfl, rfl, hedge⟩ := followEdge_eq_next hnext
      exact ⟨nodeAfter, hedge, hrun⟩

/-- What the nodes of a request hand on holds at the interrupt. -/
theorem runRequest_paused {request : LifecycleResumeRequest}
    (start : ∀ node, routeAction request.action = .ok node →
      motive record (dispatched record state request) node)
    (step : ∀ services record state node record' state' node', motive record state node →
      HandsOn config services record state node record' state' node' →
      motive record' state' node')
    {services : ℕ → LifecycleServices}
    (hrun : runRequest config services record state request = .paused record' state' payload) :
    motive record' state' .awaitUserAction ∧ interruptPayload record' state' = .ok payload := by
  obtain ⟨node, hroute, hnodes⟩ := exists_runNodes_of_paused hrun
  exact runNodes_paused step (start node hroute) hnodes

/-! ## Runs under a condition on every node -/

/-- The state that a node leaves. -/
def NodeOutcome.stateAfter : NodeOutcome → Option LifecycleState
  | .goto after => some after
  | .saved _ after => some after
  | .savedThenRaised _ _ => none

variable (config) in
/-- Every node of a run meets a condition on what it finds. -/
def EveryNode
    (condition : LifecycleServices → PlanSessionRecord → LifecycleState → LifecycleNode → Prop)
    (services : ℕ → LifecycleServices) :
    ℕ → PlanSessionRecord → LifecycleState → LifecycleNode → Prop
  | 0, _, _, _ => True
  | fuel + 1, record, state, node =>
    condition (services fuel) record state node ∧
      match stepNode config (services fuel) record state node with
      | .ended _ => True
      | .next record state node => EveryNode condition services fuel record state node

variable (config) in
/-- Every node that a request runs meets a condition on what it finds. -/
def EveryNodeOf
    (condition : LifecycleServices → PlanSessionRecord → LifecycleState → LifecycleNode → Prop)
    (services : ℕ → LifecycleServices) (session : PlanSession)
    (request : LifecycleResumeRequest) : Prop :=
  ∀ state interruptId payload node,
    session.thread = some ⟨state, .interrupted interruptId payload⟩ →
    routeAction request.action = .ok node →
    EveryNode config condition services (recursionLimit - 2) session.record
      (dispatched session.record state request) node

variable {condition : LifecycleServices → PlanSessionRecord → LifecycleState → LifecycleNode →
  Prop} {kept : PlanSessionRecord → Prop}

/-- Whether every node meets a condition that can be evaluated is found by running the nodes. -/
instance decidableEveryNode
    [∀ services record state node, Decidable (condition services record state node)]
    (services : ℕ → LifecycleServices) :
    ∀ fuel record state node, Decidable (EveryNode config condition services fuel record state node)
  | 0, _, _, _ => .isTrue trivial
  | fuel + 1, record, state, node =>
    match hstep : stepNode config (services fuel) record state node with
    | .ended _ => decidable_of_iff (condition (services fuel) record state node)
        (by rw [EveryNode, hstep, and_true])
    | .next after stateAfter nodeAfter =>
      have := decidableEveryNode services fuel after stateAfter nodeAfter
      decidable_of_iff (condition (services fuel) record state node ∧
        EveryNode config condition services fuel after stateAfter nodeAfter)
        (by rw [EveryNode, hstep])

instance decidableEveryNodeOf
    [∀ services record state node, Decidable (condition services record state node)]
    (services : ℕ → LifecycleServices) (session : PlanSession)
    (request : LifecycleResumeRequest) :
    Decidable (EveryNodeOf config condition services session request) :=
  match hthread : session.thread, hroute : routeAction request.action with
  | some ⟨state, .interrupted _ _⟩, .ok node =>
    decidable_of_iff (EveryNode config condition services (recursionLimit - 2) session.record
      (dispatched session.record state request) node) (by
        rw [EveryNodeOf, hthread, hroute]
        constructor
        · rintro hevery _ _ _ _ ⟨⟩ ⟨⟩
          exact hevery
        · exact fun hevery => hevery _ _ _ _ rfl rfl)
  | some ⟨_, .interrupted _ _⟩, .error _ => .isTrue (by simp [EveryNodeOf, hroute])
  | some ⟨_, .stuckAt _⟩, _ => .isTrue (by simp [EveryNodeOf, hthread])
  | none, _ => .isTrue (by simp [EveryNodeOf, hthread])

/-- What every node that meets the condition hands on holds at the interrupt. -/
theorem runNodes_paused_of_everyNode
    (step : ∀ services record state node record' state' node', motive record state node →
      condition services record state node →
      HandsOn config services record state node record' state' node' →
      motive record' state' node')
    {services : ℕ → LifecycleServices} {fuel : ℕ} (h : motive record state node)
    (hevery : EveryNode config condition services fuel record state node)
    (hrun : runNodes config services fuel record state node = .paused record' state' payload) :
    motive record' state' .awaitUserAction := by
  induction fuel generalizing record state node with
  | zero => cases hrun
  | succ fuel ih =>
    obtain ⟨hcondition, hrest⟩ := hevery
    unfold runNodes at hrun
    cases hstep : stepNode config (services fuel) record state node with
    | ended runEnd =>
      rw [hstep] at hrun
      change runEnd = _ at hrun
      subst hrun
      obtain ⟨rfl, rfl, rfl, -⟩ := stepNode_eq_paused hstep
      exact h
    | next after stateAfter nodeAfter =>
      rw [hstep] at hrun hrest
      exact ih (step _ _ _ _ _ _ _ h hcondition (stepNode_eq_next hstep)) hrest hrun

variable (condition) in
/-- A run that pauses later runs its first node, and goes on from what that node hands on. -/
theorem exists_handsOn_of_paused {services : ℕ → LifecycleServices} {fuel : ℕ}
    (hrun : runNodes config services fuel record state node = .paused record' state' payload)
    (hacts : node ≠ .awaitUserAction) :
    ∃ rest record₁ state₁ node₁,
      HandsOn config (services rest) record state node record₁ state₁ node₁ ∧
      runNodes config services rest record₁ state₁ node₁ = .paused record' state' payload ∧
      (EveryNode config condition services fuel record state node ↔
        condition (services rest) record state node ∧
          EveryNode config condition services rest record₁ state₁ node₁) := by
  cases fuel with
  | zero => cases hrun
  | succ rest =>
    unfold runNodes at hrun
    cases hstep : stepNode config (services rest) record state node with
    | ended runEnd =>
      rw [hstep] at hrun
      change runEnd = _ at hrun
      subst hrun
      exact absurd (stepNode_eq_paused hstep).1 hacts
    | next record₁ state₁ node₁ =>
      rw [hstep] at hrun
      refine ⟨rest, record₁, state₁, node₁, stepNode_eq_next hstep, hrun, ?_⟩
      rw [EveryNode, hstep]

/-- A run that waits at once pauses with what it has. -/
theorem eq_of_paused_awaitUserAction {services : ℕ → LifecycleServices} {fuel : ℕ}
    (hrun : runNodes config services fuel record state .awaitUserAction =
      .paused record' state' payload) : record' = record ∧ state' = state := by
  cases fuel with
  | zero => cases hrun
  | succ rest =>
    unfold runNodes at hrun
    cases hstep : stepNode config (services rest) record state .awaitUserAction with
    | ended runEnd =>
      rw [hstep] at hrun
      change runEnd = _ at hrun
      subst hrun
      obtain ⟨-, hrecord, hstate, -⟩ := stepNode_eq_paused hstep
      exact ⟨hrecord, hstate⟩
    | next record₁ state₁ node₁ => exact absurd rfl (stepNode_eq_next hstep).acts

variable (config) in
/-- The node that waits for the user leaves the record alone. -/
theorem record_stepNode_awaitUserAction (services : LifecycleServices)
    (record : PlanSessionRecord) (state : LifecycleState) :
    (stepNode config services record state .awaitUserAction).record = record := by
  unfold stepNode
  split
  · rfl
  · dsimp only
    split <;> rfl

/-- What every node that meets the condition keeps, with what it hands on, a run keeps. -/
theorem runNodes_keeps
    (weaken : ∀ record state node, motive record state node → kept record)
    (step : ∀ services record state node outcome, motive record state node →
      condition services record state node → node ≠ .awaitUserAction →
      execNode config services state record node = .ok outcome →
      kept (outcome.recordAfter record) ∧
        ∀ after ∈ outcome.stateAfter, ∀ node', nextNode after node = .ok node' →
          motive (outcome.recordAfter record) after node')
    {services : ℕ → LifecycleServices} {fuel : ℕ} (h : motive record state node)
    (hevery : EveryNode config condition services fuel record state node) :
    kept (runNodes config services fuel record state node).record := by
  induction fuel generalizing record state node with
  | zero => exact weaken _ _ _ h
  | succ fuel ih =>
    obtain ⟨hcondition, hrest⟩ := hevery
    unfold runNodes
    cases hstep : stepNode config (services fuel) record state node with
    | ended runEnd =>
      dsimp only
      by_cases hacts : node = .awaitUserAction
      · subst hacts
        have heq := record_stepNode_awaitUserAction config (services fuel) record state
        rw [hstep] at heq
        change runEnd.record = record at heq
        rw [heq]
        exact weaken _ _ _ h
      have hrecord := record_stepNode config (services fuel) record state node
      rw [hstep] at hrecord
      rcases hrecord with heq | ⟨outcome, hexec, heq⟩
      · change runEnd.record = record at heq
        rw [heq]
        exact weaken _ _ _ h
      · change runEnd.record = outcome.recordAfter record at heq
        rw [heq]
        exact (step _ _ _ _ _ h hcondition hacts hexec).1
    | next after stateAfter nodeAfter =>
      rw [hstep] at hrest
      have hands := stepNode_eq_next hstep
      refine ih ?_ hrest
      rcases hands.exec with ⟨hexec, rfl⟩ | hexec
      · exact (step _ _ _ _ _ h hcondition hands.acts hexec).2 _ rfl _ hands.edge
      · exact (step _ _ _ _ _ h hcondition hands.acts hexec).2 _ rfl _ hands.edge

variable (config) in
/-- A request runs from its dispatch, or leaves the record alone. -/
theorem record_runRequest_cases (services : ℕ → LifecycleServices)
    (record : PlanSessionRecord) (state : LifecycleState) (request : LifecycleResumeRequest) :
    (runRequest config services record state request).record = record ∨
      ∃ node, routeAction request.action = .ok node ∧
        runRequest config services record state request =
          runNodes config services (recursionLimit - 2) record (dispatched record state request)
            node := by
  unfold runRequest
  split
  · exact .inl rfl
  · exact .inl rfl
  · dsimp only
    split
    · exact .inl rfl
    · next runEnd _ hended =>
      have hedge := record_followEdge record .dispatchAction
        { state with status := record.status } (dispatched record state request)
      change followEdge record .dispatchAction _ (dispatched record state request) = _ at hended
      rw [hended] at hedge
      exact .inl hedge
    · next after stateAfter nodeAfter _ hnext =>
      obtain ⟨rfl, rfl, hedge⟩ := followEdge_eq_next hnext
      exact .inr ⟨nodeAfter, hedge, rfl⟩

variable (condition) in
/-- What every node that meets the condition keeps, a request keeps. -/
theorem resume_keeps
    (start : ∀ record state request node, kept record → routeAction request.action = .ok node →
      motive record (dispatched record state request) node)
    (weaken : ∀ record state node, motive record state node → kept record)
    (clarified : ∀ record request outcome record', kept record →
      record.status = .needsRequirementClarification →
      clarifiedRecord record request outcome = .ok record' → kept record')
    (step : ∀ services record state node outcome, motive record state node →
      condition services record state node → node ≠ .awaitUserAction →
      execNode config services state record node = .ok outcome →
      kept (outcome.recordAfter record) ∧
        ∀ after ∈ outcome.stateAfter, ∀ node', nextNode after node = .ok node' →
          motive (outcome.recordAfter record) after node')
    (requirements : String → Result RequirementOutcome) {services : ℕ → LifecycleServices}
    (interruptId : String) {session : PlanSession} {request : LifecycleResumeRequest}
    (h : kept session.record) (hevery : EveryNodeOf config condition services session request) :
    kept (resume config requirements services interruptId session request).2.record := by
  unfold resume
  split
  · exact h
  · split
    · next hstatus =>
      unfold resumeRequirement
      split
      · exact h
      · next record hanswer =>
        have hrecord : kept record := by
          unfold answerRequirement at hanswer
          split at hanswer
          · obtain ⟨_, -, hanswer⟩ := bind_eq_ok hanswer
            obtain ⟨outcome, -, hanswer⟩ := bind_eq_ok hanswer
            exact clarified _ _ _ _ h hstatus hanswer
          · cases hanswer
        split
        · exact hrecord
        · rw [record_startLifecycle]
          exact hrecord
    · unfold resumeLifecycle
      split
      · exact h
      · split
        · exact h
        · next thread hthread =>
          split
          · next hpending =>
            rw [record_sessionAfter]
            rcases record_runRequest_cases config services session.record thread.state
              request with heq | ⟨node, hroute, heq⟩
            · rw [heq]
              exact h
            · rw [heq]
              obtain ⟨state, position⟩ := thread
              cases position with
              | interrupted id payload =>
                exact runNodes_keeps weaken step (start _ _ _ _ h hroute)
                  (hevery _ _ _ _ hthread hroute)
              | stuckAt at_ =>
                rw [PlanSession.pendingInterrupts, hthread] at hpending
                cases hpending
          · exact h

end Positions

/-! ## Sessions -/

/-- A session that waits for an action has something to tell, and one whose requirements are
not clear has no thread. -/
structure ThreadInvariant (session : PlanSession) : Prop where
  unclear : session.record.status = .needsRequirementClarification → session.thread = none
  payload : ∀ state interruptId payload,
    session.thread = some ⟨state, .interrupted interruptId payload⟩ →
    interruptPayload session.record state = .ok payload

section Sessions

variable {config : LifecycleConfig} {session : PlanSession}

omit [Platform] in
/-- A session has an interrupt exactly when its graph paused. -/
theorem paused_of_thread {runEnd : RunEnd} {interruptId interruptId' : String}
    {state : LifecycleState} {payload : InterruptPayload}
    (h : (sessionAfter interruptId runEnd).thread =
      some ⟨state, .interrupted interruptId' payload⟩) :
    interruptId' = interruptId ∧ runEnd = .paused runEnd.record state payload := by
  cases runEnd with
  | paused record after payload' =>
    cases h
    exact ⟨rfl, rfl⟩
  | raised record node after failure => cases h

omit [Platform] in
theorem threadInvariant_startLifecycle (services : LifecycleServices) (interruptId : String)
    {record : PlanSessionRecord} (h : record.status ≠ .needsRequirementClarification) :
    ThreadInvariant (startLifecycle services interruptId record) := by
  refine ⟨fun hstatus => ?_, fun state id payload hthread => ?_⟩
  · rw [record_startLifecycle] at hstatus
    exact absurd hstatus h
  · unfold startLifecycle startRun at hthread ⊢
    dsimp only at hthread ⊢
    split at hthread
    · cases hthread
    · cases hthread
    · next hpayload =>
      rw [record_sessionAfter]
      cases hthread
      exact hpayload

theorem threadInvariant_resume (h : ThreadInvariant session)
    (requirements : String → Result RequirementOutcome) (services : ℕ → LifecycleServices)
    (interruptId : String) (request : LifecycleResumeRequest) :
    ThreadInvariant (resume config requirements services interruptId session request).2 := by
  unfold resume
  split
  · exact h
  · split
    · next hstatus =>
      unfold resumeRequirement
      split
      · exact h
      · next record hanswer =>
        have hthread := h.unclear hstatus
        split
        · refine ⟨fun _ => hthread, fun state id payload hsome => ?_⟩
          rw [hthread] at hsome
          cases hsome
        · next hclear => exact threadInvariant_startLifecycle _ _ hclear
    · next hstatus =>
      have hafter : (resumeLifecycle config services interruptId session
          request).2.record.status ≠ .needsRequirementClarification := resumeLifecycle_preserves
        (motive := fun record => record.status ≠ .needsRequirementClarification)
        (fun _ _ _ _ _ hmotive hexec => status_of_planStep hmotive (planStep_execNode hexec))
        services interruptId request hstatus
      refine ⟨fun hunclear => absurd hunclear hafter, ?_⟩
      unfold resumeLifecycle
      split
      · exact h.payload
      · split
        · exact h.payload
        · split
          · intro state id payload hthread
            rw [record_sessionAfter]
            obtain ⟨-, hrun⟩ := paused_of_thread hthread
            exact (runRequest_paused (motive := fun _ _ _ => True) (fun _ _ => trivial)
              (fun _ _ _ _ _ _ _ _ _ => trivial) hrun).2
          · exact h.payload

theorem threadInvariant_of_reachable (h : Reachable config session) :
    ThreadInvariant session := by
  induction h with
  | created hcreated =>
    cases hcreated with
    | planned sessionId snapshot services interruptId =>
      have hclear : PlanSessionStatus.awaitingCandidateSelection ≠
          .needsRequirementClarification := nofun
      exact threadInvariant_startLifecycle services interruptId hclear
    | clarifying sessionId externalInterrupt =>
      refine ⟨fun _ => rfl, fun state interruptId payload hthread => ?_⟩
      cases hthread
  | resumed requirements services interruptId request _ ih =>
    exact threadInvariant_resume ih requirements services interruptId request

/-- A completed request to a clear session ran from a node to the next interrupt. -/
theorem exists_run_of_clear {requirements : String → Result RequirementOutcome}
    {services : ℕ → LifecycleServices} {interruptId : String} {request : LifecycleResumeRequest}
    {message : Option String} (hclear : session.record.status ≠ .needsRequirementClarification)
    (hcompleted : (resume config requirements services interruptId session request).1 =
      .completed message) :
    ∃ node state oldId oldPayload stateAfter payload,
      routeAction request.action = .ok node ∧
      session.thread = some ⟨state, .interrupted oldId oldPayload⟩ ∧
      runNodes config services (recursionLimit - 2) session.record
          (dispatched session.record state request) node =
        .paused (resume config requirements services interruptId session request).2.record
          stateAfter payload ∧
      (resume config requirements services interruptId session request).2.thread =
        some ⟨stateAfter, .interrupted interruptId payload⟩ := by
  unfold resume at hcompleted ⊢
  cases hreceipt : session.record.receipts.get? request.requestId with
  | some receipt =>
    rw [hreceipt] at hcompleted
    cases hcompleted
  | none =>
    rw [hreceipt] at hcompleted
    dsimp only at hcompleted ⊢
    rw [if_neg hclear] at hcompleted ⊢
    unfold resumeLifecycle at hcompleted ⊢
    rw [hreceipt] at hcompleted ⊢
    dsimp only at hcompleted ⊢
    cases hthread : session.thread with
    | none =>
      rw [hthread] at hcompleted
      cases hcompleted
    | some thread =>
      rw [hthread] at hcompleted
      dsimp only at hcompleted ⊢
      by_cases hpending : request.interruptId ∈ session.pendingInterrupts
      · rw [if_pos hpending] at hcompleted ⊢
        dsimp only at hcompleted ⊢
        cases hrun : runRequest config services session.record thread.state request with
        | raised after node stateAfter failure =>
          rw [hrun] at hcompleted
          cases hcompleted
        | paused after stateAfter payload =>
          obtain ⟨node, hroute, hnodes⟩ := exists_runNodes_of_paused hrun
          obtain ⟨state, position⟩ := thread
          cases position with
          | interrupted oldId oldPayload =>
            exact ⟨node, state, oldId, oldPayload, stateAfter, payload, hroute, rfl, hnodes, rfl⟩
          | stuckAt at_ =>
            rw [PlanSession.pendingInterrupts, hthread] at hpending
            cases hpending
      · rw [if_neg hpending] at hcompleted
        cases hcompleted

/-- Only an answer to a requirement is completed by a session that is not clear. -/
theorem clear_of_completed {requirements : String → Result RequirementOutcome}
    {services : ℕ → LifecycleServices} {interruptId : String} {request : LifecycleResumeRequest}
    {message : Option String} {node : LifecycleNode}
    (hroute : routeAction request.action = .ok node)
    (hcompleted : (resume config requirements services interruptId session request).1 =
      .completed message) : session.record.status ≠ .needsRequirementClarification := by
  intro hunclear
  have hanswer : answerRequirement requirements session.record request =
      .error (.lifecycleAction "invalid_action" "当前正在等待需求澄清") := by
    unfold answerRequirement
    split
    · next answer haction =>
      rw [haction] at hroute
      cases hroute
    · rfl
  unfold resume at hcompleted
  split at hcompleted
  · cases hcompleted
  · rw [if_pos hunclear] at hcompleted
    unfold resumeRequirement at hcompleted
    rw [hanswer] at hcompleted
    cases hcompleted

/-- A request with a node that is completed ran from that node to the next interrupt. -/
theorem exists_run_of_completed {requirements : String → Result RequirementOutcome}
    {services : ℕ → LifecycleServices} {interruptId : String} {request : LifecycleResumeRequest}
    {message : Option String} {node : LifecycleNode}
    (hroute : routeAction request.action = .ok node)
    (hcompleted : (resume config requirements services interruptId session request).1 =
      .completed message) :
    ∃ state oldId oldPayload stateAfter payload,
      session.thread = some ⟨state, .interrupted oldId oldPayload⟩ ∧
      runNodes config services (recursionLimit - 2) session.record
          (dispatched session.record state request) node =
        .paused (resume config requirements services interruptId session request).2.record
          stateAfter payload ∧
      (resume config requirements services interruptId session request).2.thread =
        some ⟨stateAfter, .interrupted interruptId payload⟩ := by
  obtain ⟨node', state, oldId, oldPayload, stateAfter, payload, hroute', hrest⟩ :=
    exists_run_of_clear (clear_of_completed hroute hcompleted) hcompleted
  rw [hroute] at hroute'
  cases hroute'
  exact ⟨state, oldId, oldPayload, stateAfter, payload, hrest⟩

/-- A session that waits for an action does so with a record and a state that fit. -/
def AtInterrupt (waits : PlanSessionRecord → LifecycleState → Prop) (session : PlanSession) :
    Prop :=
  ∀ state interruptId payload, session.thread = some ⟨state, .interrupted interruptId payload⟩ →
    waits session.record state

omit [Platform] in
/-- A thread that starts waits with its first state. -/
theorem atInterrupt_startLifecycle {waits : PlanSessionRecord → LifecycleState → Prop}
    (services : LifecycleServices) (interruptId : String) {record : PlanSessionRecord}
    (h : waits record (initialLifecycleState record)) :
    AtInterrupt waits (startLifecycle services interruptId record) := by
  intro state id payload hthread
  rw [record_startLifecycle]
  unfold startLifecycle startRun at hthread
  dsimp only at hthread
  split at hthread
  · cases hthread
  · cases hthread
  · cases hthread
    exact h

/-- What every node that meets the condition hands on, a session waits with. -/
theorem atInterrupt_resume
    {condition : LifecycleServices → PlanSessionRecord → LifecycleState → LifecycleNode → Prop}
    {motive : PlanSessionRecord → LifecycleState → LifecycleNode → Prop}
    {waits : PlanSessionRecord → LifecycleState → Prop}
    (start : ∀ record state request node, waits record state →
      routeAction request.action = .ok node → motive record (dispatched record state request) node)
    (finish : ∀ record state, motive record state .awaitUserAction → waits record state)
    (clarified : ∀ record request outcome record',
      record.status = .needsRequirementClarification →
      clarifiedRecord record request outcome = .ok record' →
      waits record' (initialLifecycleState record'))
    (step : ∀ services record state node record' state' node', motive record state node →
      condition services record state node →
      HandsOn config services record state node record' state' node' →
      motive record' state' node')
    (requirements : String → Result RequirementOutcome) {services : ℕ → LifecycleServices}
    (interruptId : String) {request : LifecycleResumeRequest} (hinv : ThreadInvariant session)
    (h : AtInterrupt waits session)
    (hevery : EveryNodeOf config condition services session request) :
    AtInterrupt waits (resume config requirements services interruptId session request).2 := by
  unfold resume
  split
  · exact h
  · split
    · next hunclear =>
      unfold resumeRequirement
      split
      · exact h
      · next record hanswer =>
        split
        · intro state id payload hthread
          rw [hinv.unclear hunclear] at hthread
          cases hthread
        · refine atInterrupt_startLifecycle _ _ ?_
          unfold answerRequirement at hanswer
          split at hanswer
          · obtain ⟨_, -, hanswer⟩ := bind_eq_ok hanswer
            obtain ⟨outcome, -, hanswer⟩ := bind_eq_ok hanswer
            exact clarified _ _ _ _ hunclear hanswer
          · cases hanswer
    · unfold resumeLifecycle
      split
      · exact h
      · split
        · exact h
        · next thread hsome =>
          split
          · next hpending =>
            intro state id payload hthread
            rw [record_sessionAfter]
            obtain ⟨-, hrun⟩ := paused_of_thread hthread
            obtain ⟨node, hroute, hnodes⟩ := exists_runNodes_of_paused hrun
            obtain ⟨before, position⟩ := thread
            cases position with
            | interrupted oldId oldPayload =>
              exact finish _ _ (runNodes_paused_of_everyNode step
                (start _ _ _ _ (h _ _ _ hsome) hroute) (hevery _ _ _ _ hsome hroute) hnodes)
            | stuckAt at_ =>
              rw [PlanSession.pendingInterrupts, hsome] at hpending
              cases hpending
          · exact h

end Sessions

end TravelPlanAgent
