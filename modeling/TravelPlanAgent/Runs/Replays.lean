import TravelPlanAgent.Runs.Service

/-!
# When a run is called a replay

The coordinator looks for an ended run with the same request id before it makes the call, and
records the new run as replayed when it finds one, however that run has ended.

* `ExecuteCall`, `executeAll`: calls of `RunCoordinator.execute`, one after the other.
* `EarlierSuccess`, `Matched`: what makes a run a replay, and what the coordinator looks for.
* `executeCall_cases`: a call that answers stores its final record, any other stores no replay.
* `replaysSound_iff`: replays are replays exactly when what is found has succeeded.
* `exists_not_replaysSound`: a request that succeeds after it has failed.
-/

namespace TravelPlanAgent

open Selection

variable {β : Type}

/-! ## Calls -/

/-- The arguments of `RunCoordinator.execute`, and what it meets. -/
structure ExecuteCall where
  kind : RunKind
  options : ExecuteOptions
  circumstances : Circumstances

/-- One call. -/
def executeCall (budget : TraceBudget) (call : ExecuteCall) :
    Program β (RunPayload × AgentRunRecord) :=
  execute budget none call.kind call.options call.circumstances

/-- The state after a call. -/
def afterCall (budget : TraceBudget) (s : ServiceState β) (call : ExecuteCall) : ServiceState β :=
  ((executeCall budget call).alone s).elim s Prod.snd

/-- One call after the other. -/
def executeAll (budget : TraceBudget) (s : ServiceState β) (calls : List ExecuteCall) :
    ServiceState β :=
  calls.foldl (afterCall budget) s

/-! ## Replays -/

/-- What identifies a request. -/
structure RequestKey where
  requestId : Option String
  sessionId : Option String
  threadId : Option String
  deriving DecidableEq

/-- The request of a run. -/
def AgentRunRecord.requestKey (record : AgentRunRecord) : RequestKey :=
  ⟨record.requestId, record.sessionId, record.threadId⟩

/-- The request of the run that a call executes: that of the record when it was created before. -/
def ExecuteCall.requestKey (call : ExecuteCall) (s : ServiceState β) : RequestKey :=
  let given : RequestKey := ⟨call.options.requestId, call.options.sessionId, call.options.threadId⟩
  if call.options.precreated then
    ((s.repository.runs.get? call.options.runId).map AgentRunRecord.requestKey).getD given
  else given

/-- The run has ended successfully. -/
def AgentRunRecord.succeeded (record : AgentRunRecord) : Bool :=
  record.status = .completed ∨ record.status = .interrupted ∨ record.status = .replayed

/-- A run of the request has ended successfully. -/
def EarlierSuccess (s : ServiceState β) (key : RequestKey) : Prop :=
  ∃ earlier ∈ s.repository.runs.values, earlier.requestKey = key ∧ earlier.succeeded = true

/-- An ended run has the request id that is given, and the session and the thread as far as they
are given. -/
def Matched (s : ServiceState β) (options : ExecuteOptions) : Prop :=
  ∃ requestId, options.requestId = some requestId ∧ requestId ≠ "" ∧
    ∃ run ∈ s.repository.runs.values, run.requestId = some requestId ∧ run.status ≠ .running ∧
      (options.sessionId = none ∨ run.sessionId = options.sessionId) ∧
      (options.threadId = none ∨ run.threadId = options.threadId)

/-- The call answers, and nothing that the coordinator needs raises. -/
structure Answers (s : ServiceState β) (call : ExecuteCall) : Prop where
  found : (∃ requestId, call.options.requestId = some requestId ∧ requestId ≠ "") →
    call.circumstances.findError = none
  opened : if call.options.precreated then
      ∃ record, reservedRecord call.options.runId call.circumstances s = .ok record
    else call.circumstances.createError = none ∧
      s.repository.runs.get? call.options.runId = none
  answered : ∃ payload, call.circumstances.result = .ok payload
  persisted : call.circumstances.persistError = none

/-- After a call, a run that is newly recorded as replayed has an earlier success; and a call that
answers without one is recorded as completed or interrupted. -/
structure ReplaysSound (budget : TraceBudget) (s : ServiceState β) (call : ExecuteCall) : Prop where
  replayed : ∀ runId run, (afterCall budget s call).repository.runs.get? runId = some run →
    run.status = .replayed → s.repository.runs.get? runId = some run ∨
      EarlierSuccess s run.requestKey
  first : Answers s call → ¬ EarlierSuccess s (call.requestKey s) →
    ∃ run, (afterCall budget s call).repository.runs.get? call.options.runId = some run ∧
      (run.status = .completed ∨ run.status = .interrupted)

/-! ## What a call does -/

/-- The run that the coordinator takes for the first attempt. -/
def lookupPrevious (s : ServiceState β) (options : ExecuteOptions) : Option AgentRunRecord :=
  match options.requestId with
  | none => none
  | some requestId =>
    if requestId = "" then none
    else s.repository.findRequest requestId options.sessionId options.threadId

theorem isSome_lookupPrevious_iff (s : ServiceState β) (options : ExecuteOptions) :
    (lookupPrevious s options).isSome = true ↔ Matched s options := by
  unfold lookupPrevious Matched
  cases hid : options.requestId with
  | none => simp
  | some requestId =>
    by_cases hempty : requestId = ""
    · simp [hempty]
    · simp only [hempty, if_false, Option.some.injEq, exists_eq_left', ne_eq, not_false_eq_true,
        true_and]
      constructor
      · intro hfound
        obtain ⟨run, hrun⟩ := Option.isSome_iff_exists.mp hfound
        have hmem := mem_of_firstMin hrun
        obtain ⟨hvalues, hmatch⟩ := List.mem_filter.mp hmem
        exact ⟨run, hvalues, by simpa using hmatch⟩
      · rintro ⟨run, hvalues, hmatch⟩
        have hne : (s.repository.runs.values.filter fun run =>
            run.requestId = some requestId ∧ run.status ≠ .running ∧
              (options.sessionId = none ∨ run.sessionId = options.sessionId) ∧
              (options.threadId = none ∨ run.threadId = options.threadId)) ≠ [] :=
          List.ne_nil_of_mem (List.mem_filter.mpr ⟨hvalues, by simpa using hmatch⟩)
        obtain ⟨found, hfound⟩ := exists_firstMin (fun a b => b.startedAt < a.startedAt) hne
        exact Option.isSome_iff_exists.mpr ⟨found, hfound⟩

section Stages

variable (s : ServiceState β)

theorem alone_findPrevious (options : ExecuteOptions) (circumstances : Circumstances) :
    (∃ error, (∃ requestId, options.requestId = some requestId ∧ requestId ≠ "") ∧
      circumstances.findError = some error ∧
      (findPrevious options circumstances).alone s = some (.error error, s)) ∨
    ((∃ requestId, options.requestId = some requestId ∧ requestId ≠ "") →
      circumstances.findError = none) ∧
      (findPrevious options circumstances).alone s = some (.ok (lookupPrevious s options), s) := by
  unfold findPrevious lookupPrevious
  cases hid : options.requestId with
  | none =>
    refine .inr ⟨?_, rfl⟩
    rintro ⟨requestId, ⟨⟩, -⟩
  | some requestId =>
    by_cases hempty : requestId = ""
    · refine .inr ⟨?_, ?_⟩
      · rintro ⟨_, ⟨⟩, hne⟩
        exact absurd hempty hne
      · simp [hempty]
    · simp only [hempty, if_false]
      cases hfind : circumstances.findError with
      | some error => exact .inl ⟨error, ⟨requestId, rfl, hempty⟩, rfl, rfl⟩
      | none => exact .inr ⟨fun _ => rfl, rfl⟩

theorem alone_openReserved (runId : String) (circumstances : Circumstances) :
    (openReserved none runId circumstances).alone s =
      some (reservedRecord runId circumstances s, s) := rfl

/-- Creating a record fails when its id is taken. -/
theorem storing_create (record : AgentRunRecord) :
    (s.repository.runs.get? record.runId = none ∧
      s.storing (fun repository => repository.create record) =
        (.ok (), { s with repository := s.repository.put record })) ∨
    (s.repository.runs.get? record.runId ≠ none ∧ ∃ error,
      s.storing (fun repository => repository.create record) = (.error error, s)) := by
  cases hget : s.repository.runs.get? record.runId with
  | none =>
    have hcreate : s.repository.create record = .ok (s.repository.put record) := by
      rw [RunRepository.create, Dict.contains, hget]
      rfl
    exact .inl ⟨rfl, by simp only [ServiceState.storing, hcreate]⟩
  | some run =>
    have hcreate : s.repository.create record =
        .error (.valueError ("duplicate run_id: " ++ record.runId)) := by
      rw [RunRepository.create, Dict.contains, hget]
      rfl
    exact .inr ⟨by simp, .valueError ("duplicate run_id: " ++ record.runId),
      by simp only [ServiceState.storing, hcreate]⟩

/-- A final record is stored when its run is there. -/
theorem storing_finalize_of_mem {record run : AgentRunRecord} (events : List TraceEvent)
    (h : s.repository.runs.get? record.runId = some run) :
    s.storing (fun repository => repository.finalize record events) =
      (.ok (), { s with repository := { s.repository.put record with
        events := s.repository.events.set record.runId events } }) := by
  have hfinalize : s.repository.finalize record events = .ok { s.repository.put record with
      events := s.repository.events.set record.runId events } := by
    rw [RunRepository.finalize, Dict.contains, h]
    rfl
  simp only [ServiceState.storing, hfinalize]

theorem alone_openNew (budget : TraceBudget) (kind : RunKind) (options : ExecuteOptions)
    (previous : Option AgentRunRecord) (circumstances : Circumstances) :
    let record := newRecord budget kind options (previous.map AgentRunRecord.runId)
      circumstances.startedAt
    (circumstances.createError = none ∧ s.repository.runs.get? options.runId = none ∧
      (openNew budget kind options previous circumstances).alone s =
        some (.ok record, { s with repository := s.repository.put record })) ∨
    ¬(circumstances.createError = none ∧ s.repository.runs.get? options.runId = none) ∧
      ∃ error, (openNew budget kind options previous circumstances).alone s =
        some (.error error, s) := by
  intro record
  unfold openNew
  cases hcreate : circumstances.createError with
  | some error =>
    refine .inr ⟨by simp, error, ?_⟩
    exact Prog.alone_bind_error _ _ (by rw [Prog.alone_perform])
  | none =>
    rcases storing_create s record with ⟨hnew, hstored⟩ | ⟨htaken, error, hstored⟩
    · refine .inl ⟨rfl, hnew, ?_⟩
      exact (Prog.alone_bind _ _ ((Prog.alone_perform _ _ s).trans (by rw [hstored]))).trans rfl
    · refine .inr ⟨fun h => htaken h.2, error, ?_⟩
      exact Prog.alone_bind_error _ _ ((Prog.alone_perform _ _ s).trans (by rw [hstored]))

/-- The final record of a run that is stored is persisted, unless there is an error. -/
theorem alone_persist (circumstances : Circumstances) {record run : AgentRunRecord}
    (events : List TraceEvent) (h : s.repository.runs.get? record.runId = some run) :
    (∃ error, circumstances.persistError = some error ∧
      (persist none circumstances record events).alone s = some (.error error, s)) ∨
    (circumstances.persistError = none ∧
      ∃ s', (persist none circumstances record events).alone s = some (.ok (), s') ∧
        s'.repository.runs = s.repository.runs.set record.runId record) := by
  have hstep : (persist none circumstances record events).alone s =
      some (persistStep none circumstances record events s) := rfl
  rw [hstep]
  unfold persistStep
  rw [storing_finalize_of_mem s events h]
  cases circumstances.persistError with
  | some error => exact .inl ⟨error, rfl, rfl⟩
  | none => exact .inr ⟨rfl, _, rfl, rfl⟩

/-- The call and the final record, for a run that is stored. -/
theorem alone_runCall (previous : Option AgentRunRecord) (circumstances : Circumstances)
    {record run : AgentRunRecord} (h : s.repository.runs.get? record.runId = some run) :
    (∃ payload, circumstances.result = .ok payload ∧ circumstances.persistError = none ∧
      ∃ s', (runCall none previous circumstances record).alone s =
          some (.ok (payload, (completedRecord record previous circumstances payload).1), s') ∧
        s'.repository.runs = s.repository.runs.set record.runId
          (completedRecord record previous circumstances payload).1) ∨
    ¬((∃ payload, circumstances.result = .ok payload) ∧ circumstances.persistError = none) ∧
      ∃ error s', (runCall none previous circumstances record).alone s = some (.error error, s') ∧
        (s'.repository.runs = s.repository.runs ∨ ∃ failed : AgentRunRecord,
          failed.status ≠ .replayed ∧
          s'.repository.runs = s.repository.runs.set record.runId failed) := by
  have hend : (endCall none circumstances : Program β _).alone s =
      some (.ok circumstances.result, s) := rfl
  unfold runCall
  rw [Prog.alone_bind _ _ hend]
  cases hresult : circumstances.result with
  | ok payload =>
    have hconcludes := concludes_completedRecord record previous circumstances payload
    have hget := h
    rw [← hconcludes.runId] at hget
    rcases alone_persist s circumstances (completedRecord record previous circumstances payload).2
        hget with ⟨error, herror, hpersist⟩ | ⟨hnone, s', hpersist, hruns⟩
    · refine .inr ⟨by simp [herror], error, s, ?_, .inl rfl⟩
      exact Prog.alone_bind_error _ _ hpersist
    · rw [hconcludes.runId] at hruns
      refine .inl ⟨payload, rfl, hnone, s', ?_, hruns⟩
      exact (Prog.alone_bind _ _ hpersist).trans rfl
  | error error =>
    have hconcludes := concludes_failedRecord record circumstances error
    have hget := h
    rw [← hconcludes.runId] at hget
    refine .inr ⟨by simp, ?_⟩
    rcases alone_persist s circumstances (failedRecord record circumstances error).2 hget with
      ⟨error', -, hpersist⟩ | ⟨-, s', hpersist, hruns⟩
    · exact ⟨error', s, Prog.alone_bind_error _ _ hpersist, .inl rfl⟩
    · rw [hconcludes.runId] at hruns
      refine ⟨error, s', (Prog.alone_bind _ _ hpersist).trans rfl, .inr ⟨_, ?_, hruns⟩⟩
      unfold failedRecord
      dsimp only
      split <;> simp [finalRecord]

end Stages

section Call

variable (budget : TraceBudget) (s : ServiceState β) (call : ExecuteCall)

/-- The final record that a call stores when it answers. -/
structure Stores (record : AgentRunRecord) : Prop where
  answers : Answers s call
  opened : ∀ run, s.repository.runs.get? call.options.runId = some run → run.status = .running
  key : record.requestKey = call.requestKey s
  status : record.status = .replayed ∧ Matched s call.options ∨
    ¬ Matched s call.options ∧ (record.status = .completed ∨ record.status = .interrupted)
  stored : ∀ runId, (afterCall budget s call).repository.runs.get? runId =
    if runId = call.options.runId then some record else s.repository.runs.get? runId

/-- A run that has answered and was no replay is completed or interrupted. -/
theorem status_classifyPayload (payload : RunPayload) :
    (classifyPayload payload).1 = .completed ∨ (classifyPayload payload).1 = .interrupted := by
  unfold classifyPayload
  split_ifs <;> simp

theorem status_completedRecord (record : AgentRunRecord) (circumstances : Circumstances)
    (payload : RunPayload) :
    let final := (completedRecord record (lookupPrevious s call.options) circumstances payload).1
    final.status = .replayed ∧ Matched s call.options ∨
      ¬ Matched s call.options ∧ (final.status = .completed ∨ final.status = .interrupted) := by
  rw [← isSome_lookupPrevious_iff]
  unfold completedRecord
  dsimp only
  split
  · next hprevious => exact .inl ⟨rfl, hprevious⟩
  · next hnone => exact .inr ⟨hnone, status_classifyPayload payload⟩

/-- What a run that was opened leads to. -/
theorem executeCall_of_opened {record : AgentRunRecord} {opened : ServiceState β}
    (hfound : (∃ requestId, call.options.requestId = some requestId ∧ requestId ≠ "") →
      call.circumstances.findError = none)
    (hopened : if call.options.precreated then
        ∃ record, reservedRecord call.options.runId call.circumstances s = .ok record
      else call.circumstances.createError = none ∧
        s.repository.runs.get? call.options.runId = none)
    (hrun : (executeCall budget call).alone s =
      (runCall none (lookupPrevious s call.options) call.circumstances record).alone opened)
    (hid : record.runId = call.options.runId) (hkey : record.requestKey = call.requestKey s)
    (hrecord : opened.repository.runs.get? call.options.runId = some record)
    (hstatus : record.status = .running)
    (hsame : ∀ runId, runId ≠ call.options.runId →
      opened.repository.runs.get? runId = s.repository.runs.get? runId)
    (hbefore : ∀ run, s.repository.runs.get? call.options.runId = some run →
      run.status = .running) :
    (∃ record, Stores budget s call record) ∨
      ¬ Answers s call ∧ ∀ runId run,
        (afterCall budget s call).repository.runs.get? runId = some run →
          run.status = .replayed → s.repository.runs.get? runId = some run := by
  have hget := hrecord
  rw [← hid] at hget
  rcases alone_runCall opened (lookupPrevious s call.options) call.circumstances hget with
    ⟨payload, hresult, hpersist, s', halone, hruns⟩ | ⟨hfails, error, s', halone, hruns⟩
  · have hafter : afterCall budget s call = s' := by
      rw [afterCall, hrun, halone]
      rfl
    refine .inl ⟨_, ⟨hfound, hopened, ⟨payload, hresult⟩, hpersist⟩, hbefore, ?_,
      status_completedRecord s call record call.circumstances payload, fun runId => ?_⟩
    · rw [← hkey]
      unfold completedRecord
      dsimp only
      split <;> rfl
    · rw [hafter, hruns, Dict.get?_set, hid]
      split
      · rfl
      · next hother => exact hsame runId hother
  · have hafter : afterCall budget s call = s' := by
      rw [afterCall, hrun, halone]
      rfl
    refine .inr ⟨fun hanswers => hfails ⟨hanswers.answered, hanswers.persisted⟩,
      fun runId run hrun hreplayed => ?_⟩
    rw [hafter] at hrun
    have hopen : opened.repository.runs.get? runId = some run →
        s.repository.runs.get? runId = some run := by
      intro hstored
      by_cases hown : runId = call.options.runId
      · rw [hown, hrecord] at hstored
        obtain rfl := Option.some.inj hstored
        rw [hstatus] at hreplayed
        cases hreplayed
      · rw [← hsame runId hown]
        exact hstored
    rcases hruns with hruns | ⟨failed, hfailed, hruns⟩
    · rw [hruns] at hrun
      exact hopen hrun
    · rw [hruns, Dict.get?_set] at hrun
      split at hrun
      · obtain rfl := Option.some.inj hrun
        exact absurd hreplayed hfailed
      · exact hopen hrun

/-- A call that answers stores its final record; any other call stores no replay. -/
theorem executeCall_cases :
    (∃ record, Stores budget s call record) ∨
      ¬ Answers s call ∧ ∀ runId run,
        (afterCall budget s call).repository.runs.get? runId = some run →
          run.status = .replayed → s.repository.runs.get? runId = some run := by
  have hunchanged {error : RunError}
      (h : (executeCall budget call).alone s = some (.error error, s)) :
      ∀ runId run, (afterCall budget s call).repository.runs.get? runId = some run →
        run.status = .replayed → s.repository.runs.get? runId = some run := by
    intro runId run hrun _
    rw [afterCall, h] at hrun
    exact hrun
  rcases alone_findPrevious s call.options call.circumstances with
    ⟨error, hasked, herror, hfind⟩ | ⟨hfound, hfind⟩
  · refine .inr ⟨fun hanswers => ?_, hunchanged (Prog.alone_bind_error _ _ hfind)⟩
    rw [hanswers.found hasked] at herror
    cases herror
  have hexecute : (executeCall budget call).alone s =
      (if call.options.precreated then
        openReserved none call.options.runId call.circumstances >>=
          runCall none (lookupPrevious s call.options) call.circumstances
      else
        openNew budget call.kind call.options (lookupPrevious s call.options)
          call.circumstances >>=
            runCall none (lookupPrevious s call.options) call.circumstances).alone s :=
    (Prog.alone_bind _ _ hfind).trans rfl
  cases hpre : call.options.precreated with
  | true =>
    rw [hpre, if_pos rfl] at hexecute
    have hopen := alone_openReserved s call.options.runId call.circumstances
    cases hreserved : reservedRecord call.options.runId call.circumstances s with
    | error error =>
      rw [hreserved] at hopen
      refine .inr ⟨fun hanswers => ?_, hunchanged (hexecute.trans
        (Prog.alone_bind_error _ _ hopen))⟩
      have hopened := hanswers.opened
      rw [hpre, if_pos rfl, hreserved] at hopened
      obtain ⟨_, ⟨⟩⟩ := hopened
    | ok record =>
      rw [hreserved] at hopen
      obtain ⟨hget, hstatus⟩ := reservedRecord_eq_ok hreserved
      refine executeCall_of_opened budget s call hfound ?_
        (hexecute.trans (Prog.alone_bind _ _ hopen)) (s.repository.runs_keyed _ _ hget) ?_ hget
        hstatus (fun _ _ => rfl) fun run hrun => ?_
      · rw [hpre, if_pos rfl]
        exact ⟨record, hreserved⟩
      · rw [ExecuteCall.requestKey, hpre, hget]
        rfl
      · rw [hget] at hrun
        obtain rfl := Option.some.inj hrun
        exact hstatus
  | false =>
    rw [hpre, if_neg Bool.false_ne_true] at hexecute
    rcases alone_openNew s budget call.kind call.options (lookupPrevious s call.options)
        call.circumstances with ⟨hcreate, hnew, hopen⟩ | ⟨hfails, error, hopen⟩
    · refine executeCall_of_opened budget s call hfound ?_
        (hexecute.trans (Prog.alone_bind _ _ hopen)) rfl ?_ ?_ rfl (fun runId hother => ?_)
        fun run hrun => ?_
      · rw [hpre, if_neg Bool.false_ne_true]
        exact ⟨hcreate, hnew⟩
      · rw [ExecuteCall.requestKey, hpre]
        rfl
      · exact (s.repository.get?_put _ _).trans (if_pos rfl)
      · exact (s.repository.get?_put _ _).trans (if_neg hother)
      · rw [hnew] at hrun
        cases hrun
    · refine .inr ⟨fun hanswers => hfails ?_, hunchanged (hexecute.trans
        (Prog.alone_bind_error _ _ hopen))⟩
      have hopened := hanswers.opened
      rwa [hpre, if_neg Bool.false_ne_true] at hopened

/-- What the coordinator finds has to have succeeded. -/
def FindsSuccess : Prop :=
  Answers s call → Matched s call.options → EarlierSuccess s (call.requestKey s)

/-- In any state, replays are replays exactly when what the coordinator finds has succeeded. -/
theorem replaysSound_iff_findsSuccess :
    ReplaysSound budget s call ↔ FindsSuccess s call := by
  rcases executeCall_cases budget s call with
    ⟨record, hanswers, hopened, hkey, hstatus, hstored⟩ | ⟨hfails, hsame⟩
  · have hown := hstored call.options.runId
    rw [if_pos rfl] at hown
    constructor
    · intro hsound _ hmatched
      rcases hstatus with ⟨hreplayed, -⟩ | ⟨hunmatched, -⟩
      · rcases hsound.replayed _ _ hown hreplayed with hbefore | hearlier
        · have hrunning := hopened record hbefore
          rw [hreplayed] at hrunning
          cases hrunning
        · rwa [hkey] at hearlier
      · exact absurd hmatched hunmatched
    · intro hfinds
      constructor
      · intro runId run hrun hreplayed
        rw [hstored] at hrun
        split at hrun
        · obtain rfl := Option.some.inj hrun
          rcases hstatus with ⟨-, hmatched⟩ | ⟨-, hother⟩
          · exact .inr (hkey ▸ hfinds hanswers hmatched)
          · rw [hreplayed] at hother
            rcases hother with h | h <;> cases h
        · exact .inl hrun
      · intro _ hfirst
        rcases hstatus with ⟨-, hmatched⟩ | ⟨-, hended⟩
        · exact absurd (hfinds hanswers hmatched) hfirst
        · exact ⟨record, hown, hended⟩
  · refine iff_of_true ⟨fun runId run hrun hreplayed => .inl (hsame runId run hrun hreplayed),
      fun hanswers => absurd hanswers hfails⟩ fun hanswers => absurd hanswers hfails

end Call

/-- After any sequence of calls, replays are replays exactly when what the coordinator finds has
succeeded. -/
theorem replaysSound_iff (budget : TraceBudget) (before : List ExecuteCall) (call : ExecuteCall) :
    ReplaysSound budget (executeAll budget ({} : ServiceState RunJob) before) call ↔
      FindsSuccess (executeAll budget ({} : ServiceState RunJob) before) call :=
  replaysSound_iff_findsSuccess budget _ call

theorem executeAll_concat (budget : TraceBudget) (s : ServiceState β) (before : List ExecuteCall)
    (call : ExecuteCall) :
    executeAll budget s (before ++ [call]) =
      afterCall budget (executeAll budget s before) call := by
  rw [executeAll, List.foldl_append]
  rfl

/-- When every call of a sequence finds successes only, each run that is recorded as replayed at
the end has a success before one of the calls. -/
theorem exists_earlierSuccess {budget : TraceBudget} {calls : List ExecuteCall}
    (h : ∀ before call after, calls = before ++ call :: after →
      FindsSuccess (executeAll budget ({} : ServiceState RunJob) before) call)
    {runId : String} {run : AgentRunRecord}
    (hrun : (executeAll budget ({} : ServiceState RunJob) calls).repository.runs.get? runId =
      some run) (hreplayed : run.status = .replayed) :
    ∃ before call after, calls = before ++ call :: after ∧
      EarlierSuccess (executeAll budget ({} : ServiceState RunJob) before) run.requestKey := by
  induction calls using List.reverseRecOn with
  | nil => cases hrun
  | append_singleton calls call ih =>
    rw [executeAll_concat] at hrun
    have hsound := (replaysSound_iff_findsSuccess budget _ call).mpr (h calls call [] rfl)
    rcases hsound.replayed runId run hrun hreplayed with hbefore | hearlier
    · obtain ⟨before, call', after, rfl, hearlier⟩ := ih (fun before call' after heq => h before
        call' (after ++ [call]) (by rw [heq, List.append_assoc, List.cons_append])) hbefore
      exact ⟨before, call', after ++ [call], by rw [List.append_assoc, List.cons_append], hearlier⟩
    · exact ⟨calls, call, [], rfl, hearlier⟩

/-! ## A request that succeeds after it has failed -/

/-- An attempt at one request. -/
def attempt (runId : String) (startedAt : ℤ) (result : Except RunError RunPayload) : ExecuteCall :=
  { kind := .lifecycleResume
    options := { runId, requestId := some "r", sessionId := some "s", threadId := some "t" }
    circumstances := { startedAt, result } }

/-- The first success of a request is recorded as a replay of its failure. -/
theorem exists_not_replaysSound :
    ∃ (budget : TraceBudget) (before : List ExecuteCall) (call : ExecuteCall),
      ¬ ReplaysSound budget (executeAll budget ({} : ServiceState RunJob) before) call := by
  refine ⟨{}, [attempt "1" 0 (.error (.raised "builtins" "RuntimeError"))],
    attempt "2" 1 (.ok ⟨some "active", false, none⟩), fun hsound => ?_⟩
  rcases hsound.replayed "2" _ rfl rfl with hbefore | ⟨earlier, hearlier, -, hsucceeded⟩
  · cases hbefore
  · obtain rfl := List.mem_singleton.mp hearlier
    cases hsucceeded

end TravelPlanAgent
