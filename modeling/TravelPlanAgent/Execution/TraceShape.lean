import TravelPlanAgent.Execution.Tracing

/-!
# The shape of a trace

A trace starts with the start of its run and ends with the only event that ends it; whatever is
dropped in between is noted.  The evaluation asks for more: it does not know cancelled runs, and
it wants an end for every node that was started.

* `Traced`: what nodes and tools may add to a trace; `Traced.trans`.
* `NodesEnd`: every started node has its end, unless an interrupt was refused.
* `nodesEnd_run`: what a call adds, by induction on the call.
* `traceWellFormed_iff`: a persisted trace is as the evaluation wants it exactly when its run was
  not cancelled and no interrupt was refused, or the trace is degraded.
* `exists_not_traceWellFormed`: a run that is cancelled.
-/

namespace TravelPlanAgent

/-! ## What is added to a trace -/

/-- `RUN_*`. -/
def TraceEventType.isRun : TraceEventType → Bool
  | .runStarted | .runCompleted | .runInterrupted | .runFailed | .runReplayed | .runCancelled =>
    true
  | .budgetExceeded | .other _ => false

/-- The events that a trace may have before the coordinator ends it. -/
def EventRecorder.normalLimit (trace : EventRecorder) : ℕ :=
  trace.budget.maxTraceEvents - trace.budget.terminalTraceReserve

/-- Every call of `record` has left an event, or the trace is degraded. -/
def EventRecorder.NotesDrops (trace : EventRecorder) : Prop :=
  trace.recordCalls = trace.events.length ∨ trace.degraded = true

/-- One run goes on from another, and has added these events. -/
structure Traced (run after : TracedRun) (new : List TracedEvent) : Prop where
  events_eq : after.trace.events = run.trace.events ++ new
  recorded : run.trace.toTraceRecorder.Recorded after.trace.toTraceRecorder
  budget_eq : after.trace.budget = run.trace.budget
  degraded : run.trace.degraded = true → after.trace.degraded = true
  notesDrops : run.trace.NotesDrops → after.trace.NotesDrops
  refused_le : run.refusedInterrupts ≤ after.refusedInterrupts

section Traced

variable {run middle after : TracedRun} {new new' : List TracedEvent}

theorem Traced.refl (run : TracedRun) : Traced run run [] :=
  ⟨(List.append_nil _).symm, .refl, rfl, id, id, le_rfl⟩

theorem Traced.trans (h : Traced run middle new) (h' : Traced middle after new') :
    Traced run after (new ++ new') := by
  refine ⟨?_, h.recorded.trans h'.recorded, h'.budget_eq.trans h.budget_eq,
    fun hd => h'.degraded (h.degraded hd), fun hn => h'.notesDrops (h.notesDrops hn),
    h.refused_le.trans h'.refused_le⟩
  rw [h'.events_eq, h.events_eq, List.append_assoc]

/-- The events that were added have the next numbers. -/
theorem Traced.numbers (h : Traced run after new) : new.map (fun event => event.sequence) =
    List.range' (run.trace.events.length + 1) new.length := by
  obtain ⟨recorded, hevents, hnumbers⟩ := h.recorded.exists_numbers
  have hrecorded : recorded = new.map TracedEvent.toTraceEvent := by
    have hboth : after.trace.events.map TracedEvent.toTraceEvent =
        run.trace.events.map TracedEvent.toTraceEvent ++ recorded := hevents
    rw [h.events_eq, List.map_append] at hboth
    exact (List.append_cancel_left hboth).symm
  have hlength : run.trace.toTraceRecorder.events.length = run.trace.events.length :=
    List.length_map _
  rwa [hrecorded, List.map_map, List.length_map, hlength] at hnumbers

/-- A charge leaves the trace alone. -/
theorem traced_charge (run : TracedRun) (operation : Metered Unit) :
    Traced run (run.charge operation).2 [] :=
  ⟨(List.append_nil _).symm, .refl, rfl, id, id, le_rfl⟩

/-- An event was dropped. -/
structure Dropped (run after : TracedRun) : Prop extends Traced run after [] where
  degraded_eq : after.trace.degraded = true
  refused_eq : after.refusedInterrupts = run.refusedInterrupts

/-- An event was recorded. -/
structure Kept (run after : TracedRun) (event : TracedEvent) : Prop
    extends Traced run after [event] where
  degraded_eq : after.trace.degraded = run.trace.degraded
  refused_eq : after.refusedInterrupts = run.refusedInterrupts

theorem addDegradation_events (trace : EventRecorder) (reason : String) :
    (trace.addDegradation reason).events = trace.events ∧
    (trace.addDegradation reason).budget = trace.budget ∧
    (trace.addDegradation reason).degraded = trace.degraded ∧
    (trace.addDegradation reason).recordCalls = trace.recordCalls := by
  unfold EventRecorder.addDegradation
  split <;> exact ⟨rfl, rfl, rfl, rfl⟩

/-- The next event of a run. -/
def TracedRun.nextEvent (run : TracedRun) (eventType : TraceEventType) (status : String)
    (parent : Option ℕ) : TracedEvent :=
  { runId := run.trace.runId, sequence := run.trace.events.length + 1, eventType, status, parent }

variable (run) in
/-- An event finds its place or is dropped. -/
theorem record_cases (eventType : TraceEventType) (status : String) (terminal : Bool)
    (parent : Option ℕ) :
    ((run.record eventType status terminal parent).1 = none ∧
      Dropped run (run.record eventType status terminal parent).2 ∧
      (terminal = false ∧ run.trace.normalLimit ≤ run.trace.events.length ∨
        run.trace.budget.maxTraceEvents ≤ run.trace.events.length)) ∨
    ((run.record eventType status terminal parent).1 = some (run.trace.events.length + 1) ∧
      Kept run (run.record eventType status terminal parent).2
        (run.nextEvent eventType status parent) ∧
      (terminal = false → run.trace.events.length < run.trace.normalLimit)) := by
  have hrecorded : run.trace.toTraceRecorder.Recorded
      (run.trace.record eventType status terminal parent).2.toTraceRecorder := by
    rw [run.trace.toTraceRecorder_record]
    exact .record eventType status terminal .refl
  have hdropped (hrecorded : run.trace.toTraceRecorder.Recorded
      (({ run.trace with recordCalls := run.trace.recordCalls + 1 } :
        EventRecorder).markDegraded.addDegradation "trace_event_limit").toTraceRecorder) :
      Dropped run { run with trace := (({ run.trace with
        recordCalls := run.trace.recordCalls + 1 } : EventRecorder).markDegraded.addDegradation
          "trace_event_limit") } := by
    obtain ⟨hevents, hbudget, hdegraded, -⟩ := addDegradation_events
      ({ run.trace with recordCalls := run.trace.recordCalls + 1 } : EventRecorder).markDegraded
      "trace_event_limit"
    exact ⟨⟨hevents.trans (List.append_nil _).symm, hrecorded, hbudget, fun _ => hdegraded,
      fun _ => .inr hdegraded, le_rfl⟩, hdegraded, rfl⟩
  unfold EventRecorder.record at hrecorded
  unfold TracedRun.record EventRecorder.record
  dsimp only at hrecorded ⊢
  by_cases hnormal : ¬terminal = true ∧
      run.trace.budget.maxTraceEvents - run.trace.budget.terminalTraceReserve ≤
        run.trace.events.length
  · rw [if_pos hnormal] at hrecorded ⊢
    exact .inl ⟨rfl, hdropped hrecorded, .inl ⟨by simpa using hnormal.1, hnormal.2⟩⟩
  rw [if_neg hnormal] at hrecorded ⊢
  by_cases hfull : run.trace.budget.maxTraceEvents ≤ run.trace.events.length
  · rw [if_pos hfull] at hrecorded ⊢
    exact .inl ⟨rfl, hdropped hrecorded, .inr hfull⟩
  rw [if_neg hfull] at hrecorded ⊢
  refine .inr ⟨rfl, ⟨⟨rfl, hrecorded, rfl, id, fun hnotes => ?_, le_rfl⟩, rfl, rfl⟩,
    fun hterminal => ?_⟩
  · rcases hnotes with hcalls | hdegraded
    · exact .inl (by simp [hcalls])
    · exact .inr hdegraded
  · by_contra hlarge
    exact hnormal ⟨by simp [hterminal], not_lt.mp hlarge⟩

/-! ## Nodes and tools -/

/-- What nodes and tools may add: they leave the reserve, and record no event of the run. -/
structure Normal (run after : TracedRun) (new : List TracedEvent) : Prop
    extends Traced run after new where
  length_le : run.trace.events.length ≤ run.trace.normalLimit →
    after.trace.events.length ≤ after.trace.normalLimit
  notRun : ∀ event ∈ new, event.eventType.isRun = false

theorem Normal.refl (run : TracedRun) : Normal run run [] :=
  ⟨Traced.refl run, id, by simp⟩

theorem Normal.trans (h : Normal run middle new) (h' : Normal middle after new') :
    Normal run after (new ++ new') :=
  ⟨h.toTraced.trans h'.toTraced, fun hle => h'.length_le (h.length_le hle), fun event hevent =>
    (List.mem_append.mp hevent).elim (h.notRun event) (h'.notRun event)⟩

theorem normalLimit_of_traced (h : Traced run after new) :
    after.trace.normalLimit = run.trace.normalLimit := by
  rw [EventRecorder.normalLimit, EventRecorder.normalLimit, h.budget_eq]

theorem normal_charge (run : TracedRun) (operation : Metered Unit) :
    Normal run (run.charge operation).2 [] :=
  ⟨traced_charge run operation, id, by simp⟩

variable (run) in
/-- An event of a node or a tool, by the number that it has got. -/
theorem normal_record (eventType : TraceEventType) (htype : eventType.isRun = false)
    (status : String) (parent : Option ℕ) :
    ∃ new, Normal run (run.record eventType status false parent).2 new ∧
      (run.record eventType status false parent).2.refusedInterrupts = run.refusedInterrupts ∧
      ((run.record eventType status false parent).2.trace.degraded = false →
        (run.record eventType status false parent).1 = some (run.trace.events.length + 1) ∧
        new = [run.nextEvent eventType status parent]) := by
  rcases record_cases run eventType status false parent with
    ⟨-, hdropped, -⟩ | ⟨hnumber, hkept, hroom⟩
  · refine ⟨[], ⟨hdropped.toTraced, ?_, by simp⟩, hdropped.refused_eq, fun hdegraded => ?_⟩
    · rw [normalLimit_of_traced hdropped.toTraced, hdropped.events_eq, List.append_nil]
      exact id
    · rw [hdropped.degraded_eq] at hdegraded
      cases hdegraded
  · refine ⟨_, ⟨hkept.toTraced, fun _ => ?_, ?_⟩, hkept.refused_eq, fun _ => ⟨hnumber, rfl⟩⟩
    · rw [normalLimit_of_traced hkept.toTraced, hkept.events_eq, List.length_append]
      exact hroom rfl
    · intro event hevent
      rw [List.mem_singleton.mp hevent]
      exact htype

/-! ## The ends of nodes -/

@[simp] theorem startedNodes_append (events events' : List TracedEvent) :
    startedNodes (events ++ events') = startedNodes events ++ startedNodes events' := by
  simp [startedNodes]

@[simp] theorem endedParents_append (events events' : List TracedEvent) :
    endedParents (events ++ events') = endedParents events ++ endedParents events' := by
  simp [endedParents]

/-- The ends that were added belong to nodes that were started, every such node has its end, and
when interrupts were refused one of them has none. -/
structure NodesEnd (run after : TracedRun) (new : List TracedEvent) : Prop where
  ends : ∀ parent ∈ endedParents new, ∃ started ∈ startedNodes new, parent = some started
  ended : after.refusedInterrupts = run.refusedInterrupts →
    ∀ started ∈ startedNodes new, some started ∈ endedParents new
  refused : run.refusedInterrupts < after.refusedInterrupts →
    ∃ started ∈ startedNodes new, some started ∉ endedParents new

/-- A node that was started has the number of its event. -/
theorem Traced.mem_startedNodes (h : Traced run after new) {started : ℕ}
    (hstarted : started ∈ startedNodes new) :
    run.trace.events.length < started ∧ started ≤ after.trace.events.length := by
  obtain ⟨event, hevent, rfl⟩ := List.mem_map.mp hstarted
  have hnumber := List.mem_map_of_mem (f := fun event : TracedEvent => event.sequence)
    (List.mem_of_mem_filter hevent)
  rw [h.numbers, List.mem_range'_1] at hnumber
  rw [h.events_eq, List.length_append]
  omega

theorem nodesEnd_of_none (h : startedNodes new = []) (h' : endedParents new = [])
    (hrefused : after.refusedInterrupts = run.refusedInterrupts) : NodesEnd run after new := by
  refine ⟨fun parent hparent => ?_, fun _ started hstarted => ?_, fun hlt => ?_⟩
  · rw [h'] at hparent
    cases hparent
  · rw [h] at hstarted
    cases hstarted
  · omega

theorem NodesEnd.trans (h : NodesEnd run middle new) (h' : NodesEnd middle after new')
    (htraced : Traced run middle new) (htraced' : Traced middle after new') :
    NodesEnd run after (new ++ new') := by
  have hle := htraced.refused_le
  have hle' := htraced'.refused_le
  refine ⟨fun parent hparent => ?_, fun hsame started hstarted => ?_, fun hlt => ?_⟩
  · rw [endedParents_append, List.mem_append] at hparent
    rw [startedNodes_append]
    rcases hparent with hparent | hparent
    · obtain ⟨started, hstarted, heq⟩ := h.ends parent hparent
      exact ⟨started, List.mem_append_left _ hstarted, heq⟩
    · obtain ⟨started, hstarted, heq⟩ := h'.ends parent hparent
      exact ⟨started, List.mem_append_right _ hstarted, heq⟩
  · rw [startedNodes_append, List.mem_append] at hstarted
    rw [endedParents_append, List.mem_append]
    rcases hstarted with hstarted | hstarted
    · exact .inl (h.ended (by omega) started hstarted)
    · exact .inr (h'.ended (by omega) started hstarted)
  · rw [startedNodes_append, endedParents_append]
    -- the numbers of both parts are apart, so neither ends a node of the other
    rcases Nat.lt_or_ge run.refusedInterrupts middle.refusedInterrupts with hfirst | hfirst
    · obtain ⟨started, hstarted, hopen⟩ := h.refused hfirst
      refine ⟨started, List.mem_append_left _ hstarted, fun hmem => ?_⟩
      rcases List.mem_append.mp hmem with hmem | hmem
      · exact hopen hmem
      · obtain ⟨other, hother, heq⟩ := h'.ends _ hmem
        obtain rfl := Option.some.inj heq
        exact absurd (htraced.mem_startedNodes hstarted).2
          (not_le.mpr (htraced'.mem_startedNodes hother).1)
    · obtain ⟨started, hstarted, hopen⟩ := h'.refused (by omega)
      refine ⟨started, List.mem_append_right _ hstarted, fun hmem => ?_⟩
      rcases List.mem_append.mp hmem with hmem | hmem
      · obtain ⟨other, hother, heq⟩ := h.ends _ hmem
        obtain rfl := Option.some.inj heq
        exact absurd (htraced.mem_startedNodes hother).2
          (not_le.mpr (htraced'.mem_startedNodes hstarted).1)
      · exact hopen hmem

/-- An event of a tool neither starts nor ends a node. -/
theorem plain_ne (eventType : PlainEventType) :
    TraceEventType.other eventType.value ∉
      [nodeStarted, nodeCompleted, nodeFailed, interruptCreated] := by
  have hplain := eventType.plain
  simpa [nodeStarted, nodeCompleted, nodeFailed, interruptCreated] using hplain

/-- What was added has to do with no node. -/
structure Aside (run after : TracedRun) (new : List TracedEvent) : Prop
    extends Normal run after new where
  refused_eq : after.refusedInterrupts = run.refusedInterrupts
  noNode : after.trace.degraded = false → startedNodes new = [] ∧ endedParents new = []

theorem aside_refl (run : TracedRun) : Aside run run [] :=
  ⟨Normal.refl run, rfl, fun _ => ⟨rfl, rfl⟩⟩

theorem aside_charge (run : TracedRun) (operation : Metered Unit) :
    Aside run (run.charge operation).2 [] :=
  ⟨normal_charge run operation, rfl, fun _ => ⟨rfl, rfl⟩⟩

theorem complete_of_traced (h : Traced run after new) (hcomplete : after.trace.degraded = false) :
    run.trace.degraded = false :=
  Bool.eq_false_of_not_eq_true fun hdegraded => by
    rw [h.degraded hdegraded] at hcomplete
    cases hcomplete

theorem Aside.trans (h : Aside run middle new) (h' : Aside middle after new') :
    Aside run after (new ++ new') := by
  refine ⟨h.toNormal.trans h'.toNormal, h'.refused_eq.trans h.refused_eq, fun hcomplete => ?_⟩
  obtain ⟨hstarted, hended⟩ := h.noNode (complete_of_traced h'.toTraced hcomplete)
  obtain ⟨hstarted', hended'⟩ := h'.noNode hcomplete
  exact ⟨by rw [startedNodes_append, hstarted, hstarted']; rfl,
    by rw [endedParents_append, hended, hended']; rfl⟩

variable (run) in
/-- An event that neither starts nor ends a node. -/
theorem aside_record (eventType : TraceEventType) (hrun : eventType.isRun = false)
    (hplain : eventType ∉ [nodeStarted, nodeCompleted, nodeFailed, interruptCreated])
    (status : String) (parent : Option ℕ) :
    ∃ new, Aside run (run.record eventType status false parent).2 new := by
  obtain ⟨new, hnormal, hrefused, hkept⟩ := normal_record run eventType hrun status parent
  refine ⟨new, hnormal, hrefused, fun hcomplete => ?_⟩
  obtain ⟨-, rfl⟩ := hkept hcomplete
  simp only [List.mem_cons, List.not_mem_nil, or_false, not_or] at hplain
  constructor
  · simp [startedNodes, TracedRun.nextEvent, hplain.1]
  · simp [endedParents, TracedRun.nextEvent, hplain.2.1, hplain.2.2.1, hplain.2.2.2]

variable (run) in
theorem aside_noteFingerprint (result : NodeResult) :
    Aside run (noteFingerprint result run).2 [] := by
  unfold noteFingerprint
  split
  · split
    · exact aside_refl run
    · exact aside_charge run _
  · exact aside_refl run

variable (run) in
theorem aside_recordDomainEvent (node : String) (result : NodeResult) :
    ∃ new, Aside run (recordDomainEvent node result run).2 new := by
  unfold recordDomainEvent
  split
  · exact aside_record run _ rfl (by decide) _ _
  split
  · have hnoted := aside_noteFingerprint run result
    split
    · next heq =>
      rw [heq] at hnoted
      exact ⟨[], hnoted⟩
    · next noted heq =>
      rw [heq] at hnoted
      obtain ⟨new, hnew⟩ := aside_record noted (.other "repair.planned") rfl (by decide)
        "planned" none
      exact ⟨_, hnoted.trans hnew⟩
  split
  · exact aside_record run _ rfl (by decide) _ _
  · exact ⟨[], aside_refl run⟩

variable (run) in
/-- A node is entered when it can be charged, and then its start is in the trace. -/
theorem enterNode_cases (call : NodeCall) :
    ∃ new, Normal run (enterNode call run).2 new ∧
      (enterNode call run).2.refusedInterrupts = run.refusedInterrupts ∧
      ((enterNode call run).2.trace.degraded = false → endedParents new = [] ∧
        match (enterNode call run).1 with
        | .error _ => startedNodes new = []
        | .ok parent => ∃ started, parent = some started ∧ startedNodes new = [started]) := by
  unfold enterNode
  have hstep := aside_charge run (Metered.consumeGraphStep call.stepClock call.terminal)
  split
  · next heq =>
    rw [heq] at hstep
    exact ⟨[], hstep.toNormal, hstep.refused_eq, fun _ => ⟨rfl, rfl⟩⟩
  · next stepped heq =>
    rw [heq] at hstep
    have hrepair : Aside stepped (if repairNodes.contains call.node
        then stepped.charge (Metered.consumeRepairRound call.repairClock)
        else (.ok (), stepped)).2 [] := by
      split
      · exact aside_charge stepped _
      · exact aside_refl stepped
    dsimp only
    split
    · next heq' =>
      rw [heq'] at hrepair
      have hboth := hstep.trans hrepair
      exact ⟨[], hboth.toNormal, hboth.refused_eq, fun _ => ⟨rfl, rfl⟩⟩
    · next charged heq' =>
      rw [heq'] at hrepair
      have hboth := hstep.trans hrepair
      obtain ⟨new, hnormal, hrefused, hkept⟩ :=
        normal_record charged nodeStarted rfl "started" none
      refine ⟨[] ++ [] ++ new, hboth.toNormal.trans hnormal, hrefused.trans hboth.refused_eq,
        fun hcomplete => ?_⟩
      obtain ⟨hnumber, rfl⟩ := hkept hcomplete
      refine ⟨?_, charged.trace.events.length + 1, hnumber, ?_⟩
      · simp [endedParents, TracedRun.nextEvent, nodeStarted, nodeCompleted, nodeFailed,
          interruptCreated]
      · simp [startedNodes, TracedRun.nextEvent]

variable (run) in
/-- The event at the end of a node. -/
theorem ended_record (eventType : TraceEventType)
    (htype : eventType ∈ [nodeCompleted, nodeFailed, interruptCreated]) (status : String)
    (parent : Option ℕ) :
    ∃ new, Normal run (run.record eventType status false parent).2 new ∧
      (run.record eventType status false parent).2.refusedInterrupts = run.refusedInterrupts ∧
      ((run.record eventType status false parent).2.trace.degraded = false →
        startedNodes new = [] ∧ endedParents new = [parent]) := by
  have hrun : eventType.isRun = false := by
    simp only [List.mem_cons, List.not_mem_nil, or_false] at htype
    rcases htype with rfl | rfl | rfl <;> rfl
  obtain ⟨new, hnormal, hrefused, hkept⟩ := normal_record run eventType hrun status parent
  refine ⟨new, hnormal, hrefused, fun hcomplete => ?_⟩
  obtain ⟨-, rfl⟩ := hkept hcomplete
  have hne : eventType ≠ nodeStarted := by
    simp only [List.mem_cons, List.not_mem_nil, or_false] at htype
    rcases htype with rfl | rfl | rfl <;> decide
  constructor
  · simp [startedNodes, TracedRun.nextEvent, hne]
  · have hkeep : (run.nextEvent eventType status parent).eventType ∈
        [nodeCompleted, nodeFailed, interruptCreated] := htype
    have hfilter : [run.nextEvent eventType status parent].filter (fun event =>
        event.eventType ∈ [nodeCompleted, nodeFailed, interruptCreated]) =
          [run.nextEvent eventType status parent] :=
      List.filter_eq_self.mpr fun event hevent => by
        rw [List.mem_singleton.mp hevent]
        exact decide_eq_true hkeep
    rw [endedParents, hfilter]
    rfl

variable (run) in
/-- A node is left with its end in the trace, unless its interrupt is refused. -/
theorem leaveNode_cases (call : NodeCall) (parent : Option ℕ)
    (result : Except RunError NodeResult) :
    ∃ new, Normal run (leaveNode call parent result run).2 new ∧
      ((leaveNode call parent result run).2.trace.degraded = false → startedNodes new = [] ∧
        (endedParents new = [parent] ∧
            (leaveNode call parent result run).2.refusedInterrupts = run.refusedInterrupts ∨
          endedParents new = [] ∧ (leaveNode call parent result run).2.refusedInterrupts =
            run.refusedInterrupts + if parent.isSome then 1 else 0)) := by
  unfold leaveNode
  split
  · next result =>
    obtain ⟨new, hnormal, hrefused, hended⟩ := ended_record run nodeCompleted (by simp)
      "completed" parent
    obtain ⟨new', haside⟩ := aside_recordDomainEvent
      (run.record nodeCompleted "completed" false parent).2 call.node result
    have hboth {after : TracedRun} (heq : (recordDomainEvent call.node result
        (run.record nodeCompleted "completed" false parent).2).2 = after) :
        Normal run after (new ++ new') ∧ (after.trace.degraded = false →
          startedNodes (new ++ new') = [] ∧ (endedParents (new ++ new') = [parent] ∧
            after.refusedInterrupts = run.refusedInterrupts ∨ endedParents (new ++ new') = [] ∧
              after.refusedInterrupts =
                run.refusedInterrupts + if parent.isSome then 1 else 0)) := by
      rw [heq] at haside
      refine ⟨hnormal.trans haside.toNormal, fun hcomplete => ?_⟩
      obtain ⟨hstarted, hparents⟩ := hended (complete_of_traced haside.toTraced hcomplete)
      obtain ⟨hstarted', hparents'⟩ := haside.noNode hcomplete
      refine ⟨by rw [startedNodes_append, hstarted, hstarted']; rfl, .inl ⟨?_, ?_⟩⟩
      · rw [endedParents_append, hparents, hparents']
        rfl
      · exact haside.refused_eq.trans hrefused
    dsimp only
    split
    · next heq => exact ⟨_, hboth (congrArg Prod.snd heq)⟩
    · next heq => exact ⟨_, hboth (congrArg Prod.snd heq)⟩
  · next error =>
    split
    · have hcharged := aside_charge run (Metered.consumeInterrupt call.interruptClock)
      split
      · next charged heq =>
        rw [heq] at hcharged
        refine ⟨[], ⟨⟨hcharged.events_eq, hcharged.recorded, hcharged.budget_eq,
          hcharged.degraded, hcharged.notesDrops, ?_⟩, hcharged.length_le, by simp⟩,
          fun _ => ⟨rfl, .inr ⟨rfl, ?_⟩⟩⟩
        · exact hcharged.refused_le.trans (Nat.le_add_right _ _)
        · rw [← hcharged.refused_eq]
      · next charged heq =>
        rw [heq] at hcharged
        obtain ⟨new, hnormal, hrefused, hended⟩ := ended_record charged interruptCreated (by simp)
          "interrupted" parent
        refine ⟨[] ++ new, hcharged.toNormal.trans hnormal, fun hcomplete => ?_⟩
        obtain ⟨hstarted, hparents⟩ := hended hcomplete
        exact ⟨hstarted, .inl ⟨hparents, hrefused.trans hcharged.refused_eq⟩⟩
    · obtain ⟨new, hnormal, hrefused, hended⟩ := ended_record run nodeFailed (by simp)
        "failed" parent
      refine ⟨new, hnormal, fun hcomplete => ?_⟩
      obtain ⟨hstarted, hparents⟩ := hended hcomplete
      exact ⟨hstarted, .inl ⟨hparents, hrefused⟩⟩

/-! ## Calls -/

theorem nodesEnd_of_aside (h : Aside run after new) (hcomplete : after.trace.degraded = false) :
    NodesEnd run after new :=
  nodesEnd_of_none (h.noNode hcomplete).1 (h.noNode hcomplete).2 h.refused_eq

/-- A node adds its start, what its body adds, and its end. -/
theorem nodesEnd_node {entered left : TracedRun} {start body ending : List TracedEvent}
    {started : ℕ} (hstart : Traced run entered start) (hstarted : startedNodes start = [started])
    (hopen : endedParents start = []) (hentered : entered.refusedInterrupts = run.refusedInterrupts)
    (hbody : Traced entered left body) (hnodes : NodesEnd entered left body)
    (hnone : startedNodes ending = [])
    (hend : endedParents ending = [some started] ∧
        after.refusedInterrupts = left.refusedInterrupts ∨
      endedParents ending = [] ∧ after.refusedInterrupts = left.refusedInterrupts + 1) :
    NodesEnd run after (start ++ body ++ ending) := by
  have hall : startedNodes (start ++ body ++ ending) = started :: startedNodes body := by
    rw [startedNodes_append, startedNodes_append, hstarted, hnone, List.append_nil]
    rfl
  have hparents : endedParents (start ++ body ++ ending) =
      endedParents body ++ endedParents ending := by
    rw [endedParents_append, endedParents_append, hopen]
    rfl
  have hle := hbody.refused_le
  have hown : some started ∉ endedParents body := by
    intro hmem
    obtain ⟨other, hother, heq⟩ := hnodes.ends _ hmem
    obtain rfl := Option.some.inj heq
    have hbefore := (hstart.mem_startedNodes (hstarted ▸ List.mem_singleton_self started)).2
    exact absurd hbefore (not_le.mpr (hbody.mem_startedNodes hother).1)
  constructor
  · intro parent hparent
    rw [hparents, List.mem_append] at hparent
    rw [hall]
    rcases hparent with hparent | hparent
    · obtain ⟨other, hother, heq⟩ := hnodes.ends parent hparent
      exact ⟨other, List.mem_cons_of_mem _ hother, heq⟩
    · rcases hend with ⟨hend, -⟩ | ⟨hend, -⟩
      · rw [hend] at hparent
        exact ⟨started, List.mem_cons_self, List.mem_singleton.mp hparent⟩
      · rw [hend] at hparent
        cases hparent
  · intro hsame other hother
    rw [hall, List.mem_cons] at hother
    rw [hparents, List.mem_append]
    rcases hother with rfl | hother
    · rcases hend with ⟨hend, -⟩ | ⟨-, hrefused⟩
      · exact .inr (hend ▸ List.mem_singleton_self _)
      · omega
    · refine .inl (hnodes.ended ?_ other hother)
      rcases hend with ⟨-, hrefused⟩ | ⟨-, hrefused⟩ <;> omega
  · intro hlt
    rw [hall, hparents]
    rcases hend with ⟨hend, hrefused⟩ | ⟨hend, -⟩
    · obtain ⟨other, hother, hmissing⟩ := hnodes.refused (by omega)
      refine ⟨other, List.mem_cons_of_mem _ hother, fun hmem => ?_⟩
      rcases List.mem_append.mp hmem with hmem | hmem
      · exact hmissing hmem
      · rw [hend, List.mem_singleton] at hmem
        obtain rfl := Option.some.inj hmem
        have hbefore := (hstart.mem_startedNodes (hstarted ▸ List.mem_singleton_self other)).2
        exact absurd hbefore (not_le.mpr (hbody.mem_startedNodes hother).1)
    · refine ⟨started, List.mem_cons_self, fun hmem => ?_⟩
      rw [hend, List.append_nil] at hmem
      exact hown hmem

/-- What a call adds: every node that it starts has its end, unless an interrupt was refused. -/
theorem nodesEnd_run (work : Work) (run : TracedRun) :
    ∃ new, Normal run (work.run run).2 new ∧
      ((work.run run).2.trace.degraded = false → NodesEnd run (work.run run).2 new) := by
  induction work generalizing run with
  | done result => exact ⟨[], Normal.refl run, nodesEnd_of_aside (aside_refl run)⟩
  | event eventType status parent rest ih =>
    obtain ⟨new, haside⟩ := aside_record run _ rfl (plain_ne eventType) status parent
    obtain ⟨new', hnormal, hnodes⟩ := ih (run.record (.other eventType.value) status false parent).2
    refine ⟨new ++ new', haside.toNormal.trans hnormal, fun hcomplete => ?_⟩
    exact (nodesEnd_of_aside haside (complete_of_traced hnormal.toTraced hcomplete)).trans
      (hnodes hcomplete) haside.toTraced hnormal.toTraced
  | charge call rest ih =>
    have haside := aside_charge run call.perform
    obtain ⟨new', hnormal, hnodes⟩ := ih (run.charge call.perform).1 (run.charge call.perform).2
    refine ⟨[] ++ new', haside.toNormal.trans hnormal, fun hcomplete => ?_⟩
    exact (nodesEnd_of_aside haside (complete_of_traced hnormal.toTraced hcomplete)).trans
      (hnodes hcomplete) haside.toTraced hnormal.toTraced
  | node call body rest ihbody ihrest =>
    obtain ⟨start, hstart, hentered, hkept⟩ := enterNode_cases run call
    rw [Work.run]
    split
    · next error entered heq =>
      rw [heq] at hstart hentered hkept
      obtain ⟨new', hnormal, hnodes⟩ := ihrest (.error error) entered
      refine ⟨start ++ new', hstart.trans hnormal, fun hcomplete => ?_⟩
      obtain ⟨hended, hstarted⟩ := hkept (complete_of_traced hnormal.toTraced hcomplete)
      exact (nodesEnd_of_none hstarted hended hentered).trans (hnodes hcomplete) hstart.toTraced
        hnormal.toTraced
    · next parent entered heq =>
      rw [heq] at hstart hentered hkept
      obtain ⟨inner, hinner, hinnerNodes⟩ := ihbody entered
      obtain ⟨ending, hending, hleft⟩ :=
        leaveNode_cases (body.run entered).2 call parent (body.run entered).1
      obtain ⟨new', hnormal, hnodes⟩ := ihrest
        (leaveNode call parent (body.run entered).1 (body.run entered).2).1
        (leaveNode call parent (body.run entered).1 (body.run entered).2).2
      have hnode := (hstart.trans hinner).trans hending
      refine ⟨start ++ inner ++ ending ++ new', hnode.trans hnormal, fun hcomplete => ?_⟩
      have hcomplete' := complete_of_traced hnormal.toTraced hcomplete
      have hcomplete'' := complete_of_traced hending.toTraced hcomplete'
      obtain ⟨hopen, started, rfl, hstarted⟩ := hkept
        (complete_of_traced hinner.toTraced hcomplete'')
      obtain ⟨hnone, hend⟩ := hleft hcomplete'
      exact (nodesEnd_node hstart.toTraced hstarted hopen hentered hinner.toTraced
        (hinnerNodes hcomplete'') hnone hend).trans (hnodes hcomplete)
        hnode.toTraced hnormal.toTraced

end Traced

/-! ## The coordinator -/

/-- The event that ends a run with this status. -/
def RunStatus.endEvent : RunStatus → TraceEventType
  | .running => .runStarted
  | .completed => .runCompleted
  | .interrupted => .runInterrupted
  | .replayed => .runReplayed
  | .failed => .runFailed
  | .cancelled => .runCancelled

section Coordinator

variable {run after : TracedRun}

/-- A run has its first event. -/
theorem started_startTraced (runId : String) (budget : RunBudget) (started : ℚ) :
    ∃ first, (startTraced runId budget started).trace.events = [first] ∧
      first.eventType = .runStarted ∧ first.sequence = 1 ∧
      (startTraced runId budget started).trace.budget = budget.toTraceBudget ∧
      (startTraced runId budget started).trace.degraded = false ∧
      (startTraced runId budget started).trace.NotesDrops ∧
      (startTraced runId budget started).refusedInterrupts = 0 := by
  have hbounds := budget.maxTraceEvents_bounds
  have hroom : ¬ budget.maxTraceEvents ≤ 0 := by omega
  unfold startTraced
  rcases record_cases ({ ledger := .start runId budget.toLedgerBudget started
                         trace := { runId, budget := budget.toTraceBudget } } : TracedRun)
      .runStarted "running" true none with ⟨-, -, hfull⟩ | ⟨-, hkept, -⟩
  · rcases hfull with ⟨⟨⟩, -⟩ | hfull
    exact absurd hfull hroom
  · exact ⟨_, hkept.events_eq, rfl, rfl, hkept.budget_eq, hkept.degraded_eq,
      hkept.notesDrops (.inl rfl), hkept.refused_eq⟩

variable (run) in
/-- An event of the coordinator finds its place in the reserve. -/
theorem kept_record (eventType : TraceEventType) (status : String)
    (hroom : run.trace.events.length < run.trace.budget.maxTraceEvents) :
    Kept run (run.record eventType status true none).2 (run.nextEvent eventType status none) := by
  rcases record_cases run eventType status true none with ⟨-, -, hfull⟩ | ⟨-, hkept, -⟩
  · rcases hfull with ⟨⟨⟩, -⟩ | hfull
    omega
  · exact hkept

/-- How the coordinator ends a run: at most one event that is none of the run, and the event of
its status. -/
structure Ends (run after : TracedRun) (status : RunStatus) (ending : List TracedEvent) :
    Prop where
  traced : Traced run after ending
  last : ∃ before last, ending = before ++ [last] ∧ last.eventType = status.endEvent ∧
    before.length ≤ 1 ∧ ∀ event ∈ before, event.eventType = .budgetExceeded
  refused_eq : after.refusedInterrupts = run.refusedInterrupts

/-- One event of the coordinator ends the run. -/
theorem ends_of_kept {status : RunStatus} {event : TracedEvent} (h : Kept run after event)
    (htype : event.eventType = status.endEvent) : Ends run after status [event] :=
  ⟨h.toTraced, ⟨[], event, rfl, htype, Nat.zero_le 1, by simp⟩, h.refused_eq⟩

/-- A failure of the sink is noted after the last event. -/
theorem ends_sink {status : RunStatus} {ending : List TracedEvent}
    (h : Ends run after status ending) (reason : String) :
    Ends run { after with trace := (after.trace.addDegradation reason).markDegraded } status
      ending := by
  obtain ⟨hevents, hbudget, -, -⟩ := addDegradation_events after.trace reason
  have hnoted : after.trace.toTraceRecorder.Recorded
      (after.trace.addDegradation reason).markDegraded.toTraceRecorder := by
    unfold EventRecorder.addDegradation
    split
    · exact .refl
    · exact .noted _ .refl
  exact ⟨⟨hevents.trans h.traced.events_eq, h.traced.recorded.trans hnoted,
    hbudget.trans h.traced.budget_eq, fun _ => rfl, fun _ => .inr rfl, h.traced.refused_le⟩,
    h.last, h.refused_eq⟩

variable (run) in
theorem ends_completeTraced (replayed sinkFails : Bool) (result : NodeResult)
    (hroom : run.trace.events.length < run.trace.budget.maxTraceEvents) :
    ∃ ending, Ends run (completeTraced replayed sinkFails result run).1
        (completeTraced replayed sinkFails result run).2.1 ending ∧
      (completeTraced replayed sinkFails result run).2.1 ∈
        [RunStatus.replayed, .interrupted, .completed] ∧
      (completeTraced replayed sinkFails result run).1.trace.degraded =
        (run.trace.degraded || sinkFails) := by
  have hsink {recorded : TracedRun} {status : RunStatus} {event : TracedEvent}
      (h : Kept run recorded event) (htype : event.eventType = status.endEvent) :
      ∃ ending, Ends run (if sinkFails then { recorded with trace :=
          (recorded.trace.addDegradation "trace_sink_failure").markDegraded } else recorded)
        status ending ∧
        (if sinkFails then { recorded with trace :=
          (recorded.trace.addDegradation "trace_sink_failure").markDegraded }
          else recorded).trace.degraded = (run.trace.degraded || sinkFails) := by
    cases sinkFails with
    | true => exact ⟨_, ends_sink (ends_of_kept h htype) _, by simp [EventRecorder.markDegraded]⟩
    | false => exact ⟨_, ends_of_kept h htype, by simp [h.degraded_eq]⟩
  unfold completeTraced
  cases replayed with
  | true =>
    obtain ⟨ending, hends, hdegraded⟩ :=
      hsink (kept_record run .runReplayed "replayed" hroom)
        (show _ = RunStatus.endEvent .replayed from rfl)
    exact ⟨ending, hends, by simp, hdegraded⟩
  | false =>
    dsimp only
    rw [if_neg Bool.false_ne_true]
    rcases hclass : classifyPayload result.toRunPayload with ⟨status, reason⟩
    dsimp only
    have hstatus : status = .completed ∨ status = .interrupted := by
      have hcases : (classifyPayload result.toRunPayload).1 = .completed ∨
          (classifyPayload result.toRunPayload).1 = .interrupted := by
        unfold classifyPayload
        split_ifs <;> simp
      rwa [hclass] at hcases
    rcases hstatus with rfl | rfl
    · obtain ⟨ending, hends, hdegraded⟩ :=
        hsink (kept_record run .runCompleted "completed" hroom)
        (show _ = RunStatus.endEvent .completed from rfl)
      exact ⟨ending, hends, by simp, hdegraded⟩
    · obtain ⟨ending, hends, hdegraded⟩ :=
        hsink (kept_record run .runInterrupted "interrupted" hroom)
        (show _ = RunStatus.endEvent .interrupted from rfl)
      exact ⟨ending, hends, by simp, hdegraded⟩

variable (run) in
theorem ends_failTraced (error : RunError)
    (hroom : run.trace.events.length + 1 < run.trace.budget.maxTraceEvents) :
    ∃ ending, Ends run (failTraced error run).1 (failTraced error run).2.1 ending ∧
      (failTraced error run).2.1 = (if error = .cancelled then .cancelled else .failed) ∧
      (failTraced error run).1.trace.degraded = run.trace.degraded := by
  by_cases hbudget : ∃ runId limit deadline, error = .budgetExceeded runId limit deadline
  · obtain ⟨runId, limit, deadline, rfl⟩ := hbudget
    have hfirst := kept_record run .budgetExceeded "failed" (by omega)
    have hsecond := kept_record (run.record .budgetExceeded "failed" true none).2
      .runFailed "failed" (by
        rw [hfirst.budget_eq, hfirst.events_eq, List.length_append]
        exact hroom)
    refine ⟨_, ⟨hfirst.toTraced.trans hsecond.toTraced, ⟨[_], _, rfl, rfl, le_rfl, ?_⟩,
      hsecond.refused_eq.trans hfirst.refused_eq⟩, rfl,
      hsecond.degraded_eq.trans hfirst.degraded_eq⟩
    intro event hevent
    rw [List.mem_singleton.mp hevent]
    rfl
  · have hone : failTraced error run = ((run.record (if decide (error = .cancelled) then
          .runCancelled else .runFailed) (if decide (error = .cancelled) then "cancelled"
            else "failed") true none).2,
        if decide (error = .cancelled) then .cancelled else .failed, classifyError error) := by
      unfold failTraced
      split
      · next runId limit deadline => exact absurd ⟨runId, limit, deadline, rfl⟩ hbudget
      · rfl
    rw [hone]
    by_cases hcancelled : error = .cancelled
    · rw [decide_eq_true hcancelled, if_pos hcancelled]
      have hkept := kept_record run .runCancelled "cancelled" (by omega)
      exact ⟨_, ends_of_kept hkept rfl, rfl, hkept.degraded_eq⟩
    · rw [decide_eq_false hcancelled, if_neg hcancelled]
      have hkept := kept_record run .runFailed "failed" (by omega)
      exact ⟨_, ends_of_kept hkept rfl, rfl, hkept.degraded_eq⟩

end Coordinator

/-! ## The persisted trace -/

/-- The events that end a run. -/
def terminalRunEvents : List TraceEventType :=
  [.runCompleted, .runInterrupted, .runFailed, .runReplayed, .runCancelled]

/-- What a persisted trace should satisfy, after so many calls of `record`. -/
structure TraceWellFormed (budget : RunBudget) (recordCalls : ℕ) (persisted : PersistedTrace) :
    Prop where
  numbers : persisted.events.map (fun event => event.sequence) =
    List.range' 1 persisted.events.length
  length_le : persisted.events.length ≤ budget.maxTraceEvents
  /-- The first event is the start, and the last one is the only end, that of the status. -/
  shape : ∃ first between last, persisted.events = first :: (between ++ [last]) ∧
    first.eventType = .runStarted ∧ last.eventType = persisted.status.endEvent ∧
    last.eventType ∈ terminalRunEvents ∧
    ∀ event ∈ first :: between, event.eventType ∉ terminalRunEvents
  dropsNoted : persisted.events.length < recordCalls → persisted.traceStatus = .degraded
  complete : persisted.traceStatus = .complete → traceIsComplete persisted.events = true

/-- The call was not cancelled and no interrupt of one of its nodes was refused, or the trace is
degraded. -/
def EndsCleanly (sinkFails : Bool) (work : Work) (start : TracedRun) : Prop :=
  (work.run start).2.trace.degraded = true ∨
    (sinkFails = true ∧ ∃ result, (work.run start).1 = .ok result) ∨
    ((work.run start).1 ≠ .error .cancelled ∧ (work.run start).2.refusedInterrupts = 0)

section Persisted

variable {first last : TracedEvent} {new before : List TracedEvent}

theorem not_terminal_of_notRun {eventType : TraceEventType} (h : eventType.isRun = false) :
    eventType ∉ terminalRunEvents := by
  intro hmem
  simp only [terminalRunEvents, List.mem_cons, List.not_mem_nil, or_false] at hmem
  rcases hmem with rfl | rfl | rfl | rfl | rfl <;> cases h

/-- The types of the events of nodes. -/
def nodeEvents : List TraceEventType := [nodeStarted, nodeCompleted, nodeFailed, interruptCreated]

theorem noNode_of_types {events : List TracedEvent}
    (h : ∀ event ∈ events, event.eventType ∉ nodeEvents) :
    startedNodes events = [] ∧ endedParents events = [] := by
  constructor
  · rw [startedNodes, List.map_eq_nil_iff, List.filter_eq_nil_iff]
    intro event hevent heq
    exact h event hevent (by rw [of_decide_eq_true heq]; simp [nodeEvents])
  · rw [endedParents, List.map_eq_nil_iff, List.filter_eq_nil_iff]
    intro event hevent heq
    exact h event hevent (List.mem_cons_of_mem _ (of_decide_eq_true heq))

theorem endEvent_not_mem_nodeEvents (status : RunStatus) : status.endEvent ∉ nodeEvents := by
  cases status <;> decide

/-- No event of a node or a tool is one of these. -/
theorem countP_of_notRun {p : TraceEventType → Bool} {events : List TracedEvent}
    (hp : ∀ eventType, p eventType = true → eventType.isRun = true)
    (h : ∀ event ∈ events, event.eventType.isRun = false) :
    events.countP (fun event => p event.eventType) = 0 := by
  rw [List.countP_eq_zero]
  intro event hevent hpe
  have hrun := hp _ hpe
  rw [h event hevent] at hrun
  cases hrun

/-- The evaluation is content with a trace of this shape when its end is one that it knows, and
every node has its end. -/
theorem traceIsComplete_iff {status : RunStatus} (hfirst : first.eventType = .runStarted)
    (hnew : ∀ event ∈ new, event.eventType.isRun = false)
    (hbefore : ∀ event ∈ before, event.eventType = .budgetExceeded)
    (hlast : last.eventType = status.endEvent) (hended : status ≠ .running)
    (hnumbers : (first :: (new ++ before ++ [last])).map (fun event => event.sequence) =
      List.range' 1 (first :: (new ++ before ++ [last])).length) :
    traceIsComplete (first :: (new ++ before ++ [last])) = true ↔
      status ≠ .cancelled ∧ ∀ started ∈ startedNodes new, some started ∈ endedParents new := by
  have hmiddle : ∀ event ∈ new ++ before, event.eventType.isRun = false := by
    intro event hevent
    rcases List.mem_append.mp hevent with hevent | hevent
    · exact hnew event hevent
    · rw [hbefore event hevent]
      rfl
  have hstarts : (first :: (new ++ before ++ [last])).countP
      (fun event => event.eventType = .runStarted) = 1 := by
    have hlater : ¬ last.eventType = .runStarted := by
      rw [hlast]
      cases status <;> simp_all [RunStatus.endEvent]
    rw [List.countP_cons, List.countP_append,
      countP_of_notRun (p := fun eventType => eventType = .runStarted) (by simp +contextual
        [TraceEventType.isRun]) hmiddle]
    simp [hfirst, hlater]
  have hends : (first :: (new ++ before ++ [last])).countP
      (fun event => event.eventType ∈ evaluatedTerminal) =
        if status = .cancelled then 0 else 1 := by
    have hfirst' : first.eventType ∉ evaluatedTerminal := by
      rw [hfirst]
      decide
    have hlast' : last.eventType ∈ evaluatedTerminal ↔ status ≠ .cancelled := by
      rw [hlast]
      cases status <;> simp_all [RunStatus.endEvent, evaluatedTerminal]
    rw [List.countP_cons, List.countP_append,
      countP_of_notRun (p := fun eventType => eventType ∈ evaluatedTerminal) (fun eventType h => by
        have hmem := of_decide_eq_true h
        simp only [evaluatedTerminal, List.mem_cons, List.not_mem_nil, or_false] at hmem
        rcases hmem with rfl | rfl | rfl | rfl <;> rfl) hmiddle]
    by_cases hcancelled : status = .cancelled <;> simp [hfirst', hlast', hcancelled]
  have hother : ∀ event ∈ [first], event.eventType ∉ nodeEvents := by
    intro event hevent
    rw [List.mem_singleton.mp hevent, hfirst]
    decide
  have hbefore' : ∀ event ∈ before ++ [last], event.eventType ∉ nodeEvents := by
    intro event hevent
    rcases List.mem_append.mp hevent with hevent | hevent
    · rw [hbefore event hevent]
      decide
    · rw [List.mem_singleton.mp hevent, hlast]
      exact endEvent_not_mem_nodeEvents status
  have hsplit : first :: (new ++ before ++ [last]) = [first] ++ (new ++ (before ++ [last])) := by
    rw [List.append_assoc]
    rfl
  have hstarted : startedNodes (first :: (new ++ before ++ [last])) = startedNodes new := by
    rw [hsplit, startedNodes_append, startedNodes_append, (noNode_of_types hother).1,
      (noNode_of_types hbefore').1, List.append_nil]
    rfl
  have hparents : endedParents (first :: (new ++ before ++ [last])) = endedParents new := by
    rw [hsplit, endedParents_append, endedParents_append, (noNode_of_types hother).2,
      (noNode_of_types hbefore').2, List.append_nil]
    rfl
  rw [traceIsComplete, decide_eq_true_iff, hstarts, hends, hnumbers, hstarted, hparents]
  by_cases hcancelled : status = .cancelled <;> simp [hcancelled]

end Persisted

/-- A run from its start: what its call has added, and how the coordinator has ended it. -/
structure Finished (budget : RunBudget) (sinkFails : Bool) (work : Work) (start : TracedRun)
    (outcome : TracedRun × RunStatus × RunTerminalReason) (first : TracedEvent)
    (new before : List TracedEvent) (last : TracedEvent) : Prop where
  start_eq : start.trace.events = [first]
  first_type : first.eventType = .runStarted
  normal : Normal start (work.run start).2 new
  nodes : (work.run start).2.trace.degraded = false → NodesEnd start (work.run start).2 new
  traced : Traced start outcome.1 (new ++ (before ++ [last]))
  last_type : last.eventType = outcome.2.1.endEvent
  before_type : ∀ event ∈ before, event.eventType = .budgetExceeded
  length_le : outcome.1.trace.events.length ≤ budget.maxTraceEvents
  ended : outcome.2.1 ≠ .running
  cancelled : outcome.2.1 = .cancelled ↔ (work.run start).1 = .error .cancelled
  degraded : outcome.1.trace.degraded = true ↔ (work.run start).2.trace.degraded = true ∨
    sinkFails = true ∧ ∃ result, (work.run start).1 = .ok result

theorem exists_finished (runId : String) (budget : RunBudget) (started : ℚ)
    (replayed sinkFails : Bool) (work : Work) :
    ∃ first new before last, first.sequence = 1 ∧
      Finished budget sinkFails work (startTraced runId budget started)
        (finishTraced replayed sinkFails work (startTraced runId budget started))
        first new before last := by
  obtain ⟨first, hfirst, htype, hnumber, hbudget, -, -, -⟩ :=
    started_startTraced runId budget started
  generalize startTraced runId budget started = start at *
  obtain ⟨new, hnormal, hnodes⟩ := nodesEnd_run work start
  have hbounds := budget.maxTraceEvents_bounds
  have hreserve := budget.terminalTraceReserve_bounds
  have hlt := budget.terminalTraceReserve_lt
  -- the call has left the reserve to the coordinator
  have hleft : (work.run start).2.trace.events.length + 2 ≤
      (work.run start).2.trace.budget.maxTraceEvents := by
    have hlimit := hnormal.length_le (by
      rw [EventRecorder.normalLimit, hbudget, hfirst, List.length_singleton]
      omega)
    rw [EventRecorder.normalLimit, hnormal.budget_eq, hbudget] at hlimit
    rw [hnormal.budget_eq, hbudget]
    omega
  have hfinish {ending : List TracedEvent} {after : TracedRun} {status : RunStatus}
      (hends : Ends (work.run start).2 after status ending) :
      ∃ before last, ending = before ++ [last] ∧ last.eventType = status.endEvent ∧
        (∀ event ∈ before, event.eventType = .budgetExceeded) ∧
        after.trace.events.length ≤ budget.maxTraceEvents := by
    obtain ⟨before, last, rfl, hlast, hlength, hbefore⟩ := hends.last
    refine ⟨before, last, rfl, hlast, hbefore, ?_⟩
    rw [hnormal.budget_eq, hbudget] at hleft
    rw [hends.traced.events_eq, List.length_append, List.length_append, List.length_singleton]
    omega
  unfold finishTraced
  split
  · next result run heq =>
    rw [heq] at hleft hfinish hnormal hnodes
    have hroom : run.trace.events.length + 2 ≤ run.trace.budget.maxTraceEvents := hleft
    obtain ⟨ending, hends, hstatus, hdegraded⟩ :=
      ends_completeTraced run replayed sinkFails result (by omega)
    obtain ⟨before, last, rfl, hlast, hbefore, hlength⟩ := hfinish hends
    refine ⟨first, new, before, last, hnumber, hfirst, htype, by rwa [heq], by rwa [heq],
      hnormal.toTraced.trans hends.traced, hlast, hbefore, hlength, ?_, ?_, ?_⟩
    · intro hrunning
      rw [hrunning] at hstatus
      simp at hstatus
    · rw [heq]
      refine iff_of_false (fun hcancelled => ?_) (by simp)
      rw [hcancelled] at hstatus
      simp at hstatus
    · rw [hdegraded, heq, Bool.or_eq_true]
      simp
  · next error run heq =>
    rw [heq] at hleft hfinish hnormal hnodes
    have hroom : run.trace.events.length + 2 ≤ run.trace.budget.maxTraceEvents := hleft
    obtain ⟨ending, hends, hstatus, hdegraded⟩ := ends_failTraced run error (by omega)
    obtain ⟨before, last, rfl, hlast, hbefore, hlength⟩ := hfinish hends
    refine ⟨first, new, before, last, hnumber, hfirst, htype, by rwa [heq], by rwa [heq],
      hnormal.toTraced.trans hends.traced, hlast, hbefore, hlength, ?_, ?_, ?_⟩
    · rw [hstatus]
      split <;> simp
    · rw [hstatus, heq]
      split
      · next hcancelled => simp [hcancelled]
      · next hother => simp [hother]
    · rw [hdegraded, heq]
      simp

/-- A persisted trace is well formed exactly when its run was not cancelled and no interrupt of a
node was refused, or the trace is degraded. -/
theorem traceWellFormed_iff (runId : String) (budget : RunBudget) (started : ℚ)
    (replayed sinkFails : Bool) (work : Work) :
    TraceWellFormed budget
        (finishTraced replayed sinkFails work
          (startTraced runId budget started)).1.trace.recordCalls
        (executeTraced runId budget started replayed sinkFails work) ↔
      EndsCleanly sinkFails work (startTraced runId budget started) := by
  obtain ⟨first, new, before, last, hnumber, hfinished⟩ :=
    exists_finished runId budget started replayed sinkFails work
  obtain ⟨-, -, -, -, -, -, hnotes, hnone⟩ := started_startTraced runId budget started
  unfold executeTraced EndsCleanly
  generalize startTraced runId budget started = start at *
  generalize finishTraced replayed sinkFails work start = outcome at *
  obtain ⟨after, status, reason⟩ := outcome
  have hevents : after.trace.events = first :: (new ++ before ++ [last]) := by
    rw [hfinished.traced.events_eq, hfinished.start_eq, List.append_assoc]
    rfl
  have hnumbers : (first :: (new ++ before ++ [last])).map (fun event => event.sequence) =
      List.range' 1 (first :: (new ++ before ++ [last])).length := by
    have hlater := hfinished.traced.numbers
    rw [hfinished.start_eq] at hlater
    rw [List.append_assoc, List.map_cons, hlater, hnumber]
    rfl
  have hcomplete_iff := traceIsComplete_iff hfinished.first_type hfinished.normal.notRun
    hfinished.before_type hfinished.last_type hfinished.ended hnumbers
  rw [← hevents] at hnumbers hcomplete_iff
  have hnodes_iff (hcomplete : (work.run start).2.trace.degraded = false) :
      (∀ started ∈ startedNodes new, some started ∈ endedParents new) ↔
        (work.run start).2.refusedInterrupts = 0 := by
    have hnodes := hfinished.nodes hcomplete
    rw [← hnone]
    constructor
    · intro hall
      by_contra hne
      obtain ⟨node, hnode, hopen⟩ := hnodes.refused
        (lt_of_le_of_ne hfinished.normal.refused_le (Ne.symm hne))
      exact hopen (hall node hnode)
    · exact hnodes.ended
  have hstatus : (after.persisted status reason).traceStatus = .degraded ↔
      after.trace.degraded = true := by
    unfold TracedRun.persisted
    dsimp only
    split <;> simp_all
  have hstatus' : (after.persisted status reason).traceStatus = .complete ↔
      after.trace.degraded = false := by
    unfold TracedRun.persisted
    dsimp only
    split <;> simp_all
  have hdegraded := hfinished.degraded
  dsimp only at hdegraded
  constructor
  · intro hwell
    by_cases hdropped : after.trace.degraded = true
    · rcases hdegraded.mp hdropped with hcall | hsink
      · exact .inl hcall
      · exact .inr (.inl hsink)
    · have hcall : (work.run start).2.trace.degraded = false := by
        by_contra hcall
        exact hdropped (hdegraded.mpr (.inl (Bool.eq_true_of_not_eq_false hcall)))
      obtain ⟨hnot, hall⟩ := hcomplete_iff.mp
        (hwell.complete (hstatus'.mpr (Bool.eq_false_of_not_eq_true hdropped)))
      exact .inr (.inr ⟨mt hfinished.cancelled.mpr hnot, (hnodes_iff hcall).mp hall⟩)
  · intro hclean
    refine ⟨hnumbers, hfinished.length_le, ⟨first, new ++ before, last, hevents,
      hfinished.first_type, hfinished.last_type, ?_, ?_⟩, fun hdropped => ?_, fun hcomplete => ?_⟩
    · rw [hfinished.last_type]
      have hended := hfinished.ended
      dsimp only at hended ⊢
      cases status <;> simp_all [RunStatus.endEvent, terminalRunEvents]
    · intro event hevent
      rcases List.mem_cons.mp hevent with rfl | hevent
      · rw [hfinished.first_type]
        decide
      · rcases List.mem_append.mp hevent with hevent | hevent
        · exact not_terminal_of_notRun (hfinished.normal.notRun event hevent)
        · rw [hfinished.before_type event hevent]
          decide
    · rw [hstatus]
      rcases hfinished.traced.notesDrops hnotes with hcalls | hdegraded'
      · exact absurd hdropped (by
          change ¬ after.trace.events.length < after.trace.recordCalls
          rw [hcalls]
          exact lt_irrefl _)
      · exact hdegraded'
    · have hkept := hstatus'.mp hcomplete
      rcases hclean with hcall | hsink | ⟨hnot, hrefused⟩
      · rw [hdegraded.mpr (.inl hcall)] at hkept
        cases hkept
      · rw [hdegraded.mpr (.inr hsink)] at hkept
        cases hkept
      · have hcall : (work.run start).2.trace.degraded = false := by
          by_contra hcall
          rw [hdegraded.mpr (.inl (Bool.eq_true_of_not_eq_false hcall))] at hkept
          cases hkept
        exact hcomplete_iff.mpr ⟨mt hfinished.cancelled.mp hnot, (hnodes_iff hcall).mpr hrefused⟩

/-! ## A run that is cancelled -/

/-- Nothing is dropped from the trace of a run that is cancelled at once, and the evaluation takes
it for incomplete. -/
theorem exists_not_traceWellFormed :
    ∃ work : Work, ¬ TraceWellFormed {}
      (finishTraced false false work (startTraced "run" {} 0)).1.trace.recordCalls
      (executeTraced "run" {} 0 false false work) := by
  refine ⟨.done (.error .cancelled), fun hwell => ?_⟩
  exact absurd (hwell.complete rfl) (by decide)

end TravelPlanAgent
