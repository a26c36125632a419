import TravelPlanAgent.Planning.Agreement
import TravelPlanAgent.Runs.Service

/-!
# Runs that nobody executes any more

A run is stored as running before its task or its job exists, and its final record is stored by
the coordinator, by a worker or by `cancel_run`.

* `ServiceCall`: submissions, background tasks, cancellations and worker turns of one service.
* `Responsible`, `Live`: who still has to bring a running record to an end.
* `Undisturbed`: cancellations reach a task in its call, or when its final record is stored.
* `OrphanInv`: every running record is live; `OrphanStep`: the steps that keep this up.
* `Orphans.meets_startTripRun`, `Orphans.meets_backgroundTask`, …: the programs take such steps.
* `noOrphans_of_undisturbed`: then no run stays behind.
* `exists_run_orphan`: a refused job or an early cancellation does leave one behind.
-/

namespace TravelPlanAgent

variable {β ι : Type}

/-! ## The calls of a service -/

/-- What is asked of a service, and what executes its runs. -/
inductive ServiceCall where
  | createTrip (request : PlanningRequest) (principal : Principal) (tripId : String)
  | startTripRun (tripId : String) (principal : Principal) (requestId : Option String)
      (submission : Submission)
  | backgroundTask (principal : Principal) (submission : Submission)
  | cancelRun (runId : String) (principal : Principal) (circumstances : Circumstances)
  | workerTurn (circumstances : Circumstances)

/-- What a call answers, as far as runs are concerned. -/
inductive ServiceAnswer where
  | unit
  | handle (handle : RunHandle)
  | record (record : AgentRunRecord)

namespace ServiceCall

/-- The run that a call submits. -/
def submits : ServiceCall → Option String
  | startTripRun _ _ _ submission => some submission.runId
  | _ => none

/-- The run that a background task executes. -/
def executes : ServiceCall → Option String
  | backgroundTask _ submission => some submission.runId
  | _ => none

/-- The program of a call. -/
def program [DecidableEq β] (setup : ServiceSetup) (codec : JobCodec β) (process : ℕ) :
    ServiceCall → Program β ServiceAnswer
  | createTrip request principal tripId => do
    let _ ← TravelPlanAgent.createTrip process request principal tripId
    return .unit
  | startTripRun tripId principal requestId submission => do
    return .handle (← TravelPlanAgent.startTripRun setup codec process tripId principal requestId
      submission)
  | backgroundTask principal submission => do
    let _ ← TravelPlanAgent.backgroundTask setup principal submission
    return .unit
  | cancelRun runId principal circumstances => do
    return .record (← TravelPlanAgent.cancelRun setup process runId principal circumstances)
  | workerTurn circumstances => do
    TravelPlanAgent.workerTurn setup codec circumstances
    return .unit

/-- The queue and the repository answer without an error. -/
def Reliable : ServiceCall → Prop
  | startTripRun _ _ _ submission => submission.queueError = none
  | backgroundTask _ submission =>
    submission.circumstances.getError = none ∧ submission.circumstances.persistError = none
  | cancelRun _ _ circumstances => circumstances.persistError = none
  | workerTurn circumstances => circumstances.getError = none ∧ circumstances.persistError = none
  | _ => True

end ServiceCall

/-- Every run is submitted once and executed by one background task. -/
structure DistinctRuns (calls : ι → ServiceCall) : Prop where
  submits : ∀ i j runId, (calls i).submits = some runId → (calls j).submits = some runId → i = j
  executes : ∀ i j runId, (calls i).executes = some runId → (calls j).executes = some runId → i = j

/-- The calls of a service before their first step. -/
def serviceWorld [DecidableEq β] (setup : ServiceSetup) (codec : JobCodec β) (process : ℕ)
    (calls : ι → ServiceCall) (s : ServiceState β) :
    World ι (ServiceState β) (RunNote β) RunError ServiceAnswer :=
  ⟨⟨s, []⟩, fun i => (calls i).program setup codec process⟩

/-! ## Running records -/

/-- The run has a record. -/
def HasRecord (s : ServiceState β) (runId : String) : Prop := s.repository.runs.get? runId ≠ none

/-- The record of the run says that it is running. -/
def Running (s : ServiceState β) (runId : String) : Prop :=
  ∃ record, s.repository.runs.get? runId = some record ∧ record.status = .running

theorem Running.recorded {s : ServiceState β} {runId : String} (h : Running s runId) :
    HasRecord s runId := by
  obtain ⟨record, hget, _⟩ := h
  rw [HasRecord, hget]
  exact Option.some_ne_none record

/-- Records stay, and ended ones stay ended. -/
def KeepsRecords (s s' : ServiceState β) : Prop :=
  ∀ runId, HasRecord s runId → HasRecord s' runId ∧ (Running s' runId → Running s runId)

theorem KeepsRecords.trans {a b c : ServiceState β} (hab : KeepsRecords a b)
    (hbc : KeepsRecords b c) : KeepsRecords a c := by
  intro runId h
  obtain ⟨hb, hended⟩ := hab runId h
  obtain ⟨hc, hended'⟩ := hbc runId hb
  exact ⟨hc, hended ∘ hended'⟩

/-- No record appears, goes away, or comes to be running. -/
structure SettlesRuns (s s' : ServiceState β) : Prop where
  recorded : ∀ runId, HasRecord s' runId ↔ HasRecord s runId
  running : ∀ runId, Running s' runId → Running s runId

theorem SettlesRuns.of_repository {s s' : ServiceState β} (h : s'.repository = s.repository) :
    SettlesRuns s s' := by
  constructor
  · intro runId
    rw [HasRecord, HasRecord, h]
  · intro runId
    rw [Running, Running, h]
    exact id

theorem SettlesRuns.keeps {s s' : ServiceState β} (h : SettlesRuns s s') : KeepsRecords s s' :=
  fun runId hrecorded => ⟨(h.recorded runId).mpr hrecorded, h.running runId⟩

/-- A final record that is stored ends its run, and no other. -/
theorem settles_of_finalize {s s' : ServiceState β} {final : AgentRunRecord}
    {events : List TraceEvent} {repository : RunRepository} (hended : final.status ≠ .running)
    (hrecorded : HasRecord s final.runId)
    (hfinalize : s.repository.finalize final events = .ok repository)
    (hs' : s'.repository = repository) : SettlesRuns s s' ∧ ¬Running s' final.runId := by
  obtain ⟨hruns, _⟩ := RunRepository.finalize_eq_ok hfinalize
  have hget (other : String) : s'.repository.runs.get? other =
      if other = final.runId then some final else s.repository.runs.get? other := by
    rw [hs', hruns, Dict.get?_set]
  refine ⟨⟨fun other => ?_, ?_⟩, ?_⟩
  · rw [HasRecord, hget]
    split
    · next heq => exact iff_of_true (Option.some_ne_none _) (heq ▸ hrecorded)
    · rfl
  · rintro other ⟨record, hrecord, hrunning⟩
    rw [hget] at hrecord
    split at hrecord
    · rw [← Option.some.inj hrecord] at hrunning
      exact absurd hrunning hended
    · exact ⟨record, hrecord, hrunning⟩
  · rintro ⟨record, hrecord, hrunning⟩
    rw [hget, if_pos rfl] at hrecord
    rw [← Option.some.inj hrecord] at hrunning
    exact hended hrunning

/-- A run that has a record can be finalized. -/
theorem exists_finalize {s : ServiceState β} {final : AgentRunRecord}
    (h : HasRecord s final.runId) (events : List TraceEvent) :
    ∃ repository, s.repository.finalize final events = .ok repository := by
  unfold RunRepository.finalize
  rw [if_pos]
  · exact ⟨_, rfl⟩
  · rw [Dict.contains]
    exact Option.isSome_iff_ne_none.mpr h

/-! ## Who is responsible -/

/-- The call `i` still has to bring the run to an end or to hand it over: it has submitted it, or
has taken its job from the queue. -/
def Responsible [DecidableEq ι] (codec : JobCodec β) (calls : ι → ServiceCall)
    (seen : Seen ι (ServiceState β) (RunNote β)) (i : ι) (runId : String) : Prop :=
  match calls i with
  | .startTripRun .. => (calls i).submits = some runId ∧ seen.store.tasks runId = none ∧
    ∀ payload, .enqueued payload ∉ seen.own i
  | .workerTurn _ => ∃ job : RunJob, job.runId = runId ∧ .popped (codec.dump job) ∈ seen.own i
  | .cancelRun .. => ∃ job : RunJob, job.runId = runId ∧ .removed (codec.dump job) ∈ seen.own i
  | _ => False

/-- A job of the run is in the queue. -/
def Queued (codec : JobCodec β) (s : ServiceState β) (runId : String) : Prop :=
  ∃ job : RunJob, job.runId = runId ∧ codec.dump job ∈ s.redis.list

/-- The task of the run has not finished. -/
def Executing (s : ServiceState β) (runId : String) : Prop :=
  ∃ task, s.tasks runId = some task ∧ task.suspendedAt ≠ .finished

/-- Somebody will bring the run to an end. -/
def Live [DecidableEq ι] (codec : JobCodec β) (calls : ι → ServiceCall)
    (seen : Seen ι (ServiceState β) (RunNote β)) (runId : String) : Prop :=
  (∃ i, Responsible codec calls seen i runId) ∨ Queued codec seen.store runId ∨
    Executing seen.store runId

/-- The task of the run stores its final record even if it is cancelled meanwhile. -/
def CommitsLate (calls : ι → ServiceCall) (runId : String) : Prop :=
  ∃ i principal submission, calls i = .backgroundTask principal submission ∧
    submission.runId = runId ∧ submission.circumstances.lateCancel = true

/-- Where a task may be cancelled: in its call, or when its final record is being stored and the
store commits all the same. -/
def Cancellable (calls : ι → ServiceCall) (runId : String) (task : AsyncTask) : Prop :=
  task.suspendedAt = .calling ∨ task.suspendedAt = .persisting ∧ CommitsLate calls runId

/-- A step in which no task is cancelled at any other await. -/
def Undisturbed (calls : ι → ServiceCall) (_ : ι)
    (before after : Seen ι (ServiceState β) (RunNote β)) : Prop :=
  ∀ runId task, after.store.tasks runId = some task → task.cancelRequested = true →
    (∃ task', before.store.tasks runId = some task' ∧ task'.cancelRequested = true) ∨
      Cancellable calls runId task

/-! ## What holds at any time -/

/-- The await at which the task of a run is suspended. -/
def position (s : ServiceState β) (runId : String) : Option Suspension :=
  (s.tasks runId).map AsyncTask.suspendedAt

/-- What holds of the task of a run. -/
structure TaskOk (calls : ι → ServiceCall) (s : ServiceState β) (runId : String)
    (task : AsyncTask) : Prop where
  recorded : HasRecord s runId
  cancelled : task.cancelRequested = true → Cancellable calls runId task
  finished : task.suspendedAt = .finished → ¬Running s runId

/-- What holds at any time. -/
structure OrphanInv [DecidableEq ι] (codec : JobCodec β) (calls : ι → ServiceCall)
    (seen : Seen ι (ServiceState β) (RunNote β)) : Prop where
  keys : ∀ runId payload, seen.store.redis.jobs runId = some payload →
    ∃ job : RunJob, payload = codec.dump job ∧ job.runId = runId
  list : ∀ payload ∈ seen.store.redis.list,
    ∃ job : RunJob, payload = codec.dump job ∧ HasRecord seen.store job.runId
  tasks : ∀ runId task, seen.store.tasks runId = some task → TaskOk calls seen.store runId task
  live : ∀ runId, Running seen.store runId → Live codec calls seen runId

/-- A task whose cancellation is requested may be cancelled where it is. -/
theorem OrphanInv.cancelRequested_eq_false [DecidableEq ι] {codec : JobCodec β}
    {calls : ι → ServiceCall} {seen : Seen ι (ServiceState β) (RunNote β)}
    (h : OrphanInv codec calls seen) {runId : String} {suspendedAt : Suspension}
    (hposition : position seen.store runId = some suspendedAt) (hcalling : suspendedAt ≠ .calling)
    (hpersisting : suspendedAt = .persisting → ¬CommitsLate calls runId) :
    seen.store.cancelRequested (some runId) = false := by
  obtain ⟨task, htask, rfl⟩ := Option.map_eq_some_iff.mp hposition
  rw [ServiceState.cancelRequested, Option.bind_some, htask, Option.any_some]
  by_contra hrequested
  obtain hat | ⟨hat, hlate⟩ := (h.tasks runId task htask).cancelled
    (Bool.eq_true_of_not_eq_false hrequested)
  · exact hcalling hat
  · exact hpersisting hat hlate

/-! ## Steps that leave nobody behind -/

section Steps

variable [DecidableEq ι] (codec : JobCodec β) (calls : ι → ServiceCall) (i : ι)
  (seen : Seen ι (ServiceState β) (RunNote β)) (store : ServiceState β) (notes : List (RunNote β))

/-- What a step of the call `i` may do to the tasks. -/
structure TasksStep : Prop where
  kept : ∀ runId task, store.tasks runId = some task →
    seen.store.tasks runId = some task ∨ TaskOk calls store runId task
  created : ∀ runId, seen.store.tasks runId = none →
    store.tasks runId = none ∨
      (calls i).submits = some runId ∧ position store runId = some .created
  moved : ∀ runId task, seen.store.tasks runId = some task →
    ∃ task', store.tasks runId = some task' ∧
      (task'.suspendedAt = task.suspendedAt ∨ (calls i).executes = some runId)

/-- What a step of the call `i` may do to the queue. -/
structure QueueStep : Prop where
  keys : ∀ runId payload, store.redis.jobs runId = some payload →
    seen.store.redis.jobs runId = some payload ∨
      ∃ job : RunJob, payload = codec.dump job ∧ job.runId = runId
  list : ∀ payload ∈ store.redis.list, payload ∈ seen.store.redis.list ∨
    ∃ job : RunJob, payload = codec.dump job ∧ HasRecord store job.runId
  taken : ∀ job, codec.dump job ∈ seen.store.redis.list → codec.dump job ∈ store.redis.list ∨
    Responsible codec calls (seen.after i store notes) i job.runId
  enqueued : ∀ payload, .enqueued payload ∈ notes → payload ∈ store.redis.list ∧
    ∃ job : RunJob, payload = codec.dump job ∧ (calls i).submits = some job.runId

/-- A step of the call `i` that leaves nobody behind. -/
structure OrphanStep : Prop where
  recorded : ∀ runId, HasRecord seen.store runId → HasRecord store runId
  running : ∀ runId, HasRecord seen.store runId → Running store runId → Running seen.store runId
  reserved : ∀ runId, HasRecord store runId → HasRecord seen.store runId ∨
    (calls i).submits = some runId ∧ Live codec calls (seen.after i store notes) runId
  tasks : TasksStep calls i seen store
  queue : QueueStep codec calls i seen store notes

variable {codec calls i seen store notes}

omit [DecidableEq ι] in
/-- The tasks stay as they are. -/
theorem TasksStep.of_eq (h : store.tasks = seen.store.tasks) : TasksStep calls i seen store := by
  constructor
  · intro runId task htask
    exact .inl (h ▸ htask)
  · intro runId hnone
    exact .inl (h ▸ hnone)
  · intro runId task htask
    exact ⟨task, h ▸ htask, .inl rfl⟩

omit [DecidableEq ι] in
/-- One task changes. -/
theorem TasksStep.of_update {runId : String} {task : AsyncTask}
    (h : store.tasks = Function.update seen.store.tasks runId (some task))
    (hok : TaskOk calls store runId task)
    (hcreated : seen.store.tasks runId = none →
      (calls i).submits = some runId ∧ task.suspendedAt = .created)
    (hmoved : ∀ before, seen.store.tasks runId = some before →
      task.suspendedAt = before.suspendedAt ∨ (calls i).executes = some runId) :
    TasksStep calls i seen store := by
  have hself : store.tasks runId = some task := by rw [h, Function.update_self]
  have hother {other : String} (hne : other ≠ runId) :
      store.tasks other = seen.store.tasks other := by rw [h, Function.update_of_ne hne]
  constructor
  · intro other task' htask'
    by_cases heq : other = runId
    · subst heq
      rw [hself] at htask'
      obtain rfl := Option.some.inj htask'
      exact .inr hok
    · exact .inl (hother heq ▸ htask')
  · intro other hnone
    by_cases heq : other = runId
    · subst heq
      obtain ⟨hsubmits, hat⟩ := hcreated hnone
      exact .inr ⟨hsubmits, by rw [position, hself, Option.map_some, hat]⟩
    · exact .inl ((hother heq).trans hnone)
  · intro other before hbefore
    by_cases heq : other = runId
    · subst heq
      exact ⟨task, hself, hmoved before hbefore⟩
    · exact ⟨before, (hother heq).trans hbefore, .inl rfl⟩

/-- The list stays as it is, and job keys are only deleted. -/
theorem QueueStep.of_list (hlist : store.redis.list = seen.store.redis.list)
    (hkeys : ∀ runId payload, store.redis.jobs runId = some payload →
      seen.store.redis.jobs runId = some payload)
    (hnotes : ∀ payload, .enqueued payload ∉ notes) :
    QueueStep codec calls i seen store notes := by
  constructor
  · exact fun runId payload hget => .inl (hkeys runId payload hget)
  · exact fun payload hmem => .inl (hlist ▸ hmem)
  · exact fun job hmem => .inl (hlist ▸ hmem)
  · exact fun payload hmem => absurd hmem (hnotes payload)

theorem QueueStep.of_redis (h : store.redis = seen.store.redis)
    (hnotes : ∀ payload, .enqueued payload ∉ notes) :
    QueueStep codec calls i seen store notes :=
  .of_list (by rw [h]) (fun _ _ hget => h ▸ hget) hnotes

/-- A step after which no other run is running. -/
theorem OrphanStep.of_settles (h : SettlesRuns seen.store store)
    (htasks : TasksStep calls i seen store) (hqueue : QueueStep codec calls i seen store notes) :
    OrphanStep codec calls i seen store notes where
  recorded runId := (h.recorded runId).mpr
  running runId _ := h.running runId
  reserved runId hrecorded := .inl ((h.recorded runId).mp hrecorded)
  tasks := htasks
  queue := hqueue

namespace OrphanStep

variable (h : OrphanStep codec calls i seen store notes)
include h

/-- What holds of a task goes on to hold. -/
theorem taskOk (hinv : OrphanInv codec calls seen) {runId : String} {task : AsyncTask}
    (htask : store.tasks runId = some task) : TaskOk calls store runId task := by
  obtain hbefore | hok := h.tasks.kept runId task htask
  · have hok := hinv.tasks runId task hbefore
    exact ⟨h.recorded runId hok.recorded, hok.cancelled,
      fun hfinished hrunning => hok.finished hfinished (h.running runId hok.recorded hrunning)⟩
  · exact hok

/-- A run that somebody will bring to an end is handed on, or has ended. -/
theorem live (hinv : OrphanInv codec calls seen) {runId : String}
    (hlive : Live codec calls seen runId) (hrunning : Running store runId) :
    Live codec calls (seen.after i store notes) runId := by
  have hkept {j : ι} {n : RunNote β} (hn : n ∈ seen.own j) :
      n ∈ (seen.after i store notes).own j :=
    Seen.mem_own.mpr (List.mem_append_left _ (Seen.mem_own.mp hn))
  obtain ⟨j, hj⟩ | ⟨job, rfl, hmem⟩ | ⟨task, htask, hunfinished⟩ := hlive
  · unfold Responsible at hj
    split at hj
    next _ _ _ _ hcall =>
      obtain ⟨hsubmits, hnone, hnotes⟩ := hj
      obtain hstill | ⟨_, hcreated⟩ := h.tasks.created runId hnone
      · by_cases hput : ∃ payload, .enqueued payload ∈ (seen.after i store notes).own j
        · -- The call is the one that takes this step: its job is in the list now.
          obtain ⟨payload, hput⟩ := hput
          by_cases hij : i = j
          · subst hij
            rw [Seen.own_after] at hput
            obtain hold | hnew := List.mem_append.mp hput
            · exact absurd hold (hnotes payload)
            · obtain ⟨hmem, job, rfl, hjob⟩ := h.queue.enqueued payload hnew
              rw [hsubmits] at hjob
              exact .inr (.inl ⟨job, (Option.some.inj hjob).symm, hmem⟩)
          · rw [Seen.own_after_of_ne _ hij] at hput
            exact absurd hput (hnotes payload)
        · refine .inl ⟨j, ?_⟩
          rw [Responsible, hcall]
          rw [hcall] at hsubmits
          exact ⟨hsubmits, hstill, not_exists.mp hput⟩
      · obtain ⟨task, htask, hat⟩ := Option.map_eq_some_iff.mp hcreated
        exact .inr (.inr ⟨task, htask, by rw [hat]; decide⟩)
    next _ hcall =>
      obtain ⟨job, hjob, hmem⟩ := hj
      refine .inl ⟨j, ?_⟩
      rw [Responsible, hcall]
      exact ⟨job, hjob, hkept hmem⟩
    next _ _ _ hcall =>
      obtain ⟨job, hjob, hmem⟩ := hj
      refine .inl ⟨j, ?_⟩
      rw [Responsible, hcall]
      exact ⟨job, hjob, hkept hmem⟩
    next => exact hj.elim
  · obtain hstill | htaken := h.queue.taken job hmem
    · exact .inr (.inl ⟨job, rfl, hstill⟩)
    · exact .inl ⟨i, htaken⟩
  · obtain ⟨task', htask', _⟩ := h.tasks.moved runId task htask
    exact .inr (.inr ⟨task', htask', fun hfinished =>
      (h.taskOk hinv htask').finished hfinished hrunning⟩)

/-- Such a step keeps the invariant. -/
theorem inv (hinv : OrphanInv codec calls seen) :
    OrphanInv codec calls (seen.after i store notes) := by
  constructor
  · intro runId payload hget
    exact (h.queue.keys runId payload hget).elim (hinv.keys runId payload) id
  · intro payload hmem
    obtain hbefore | hnew := h.queue.list payload hmem
    · obtain ⟨job, hjob, hrecorded⟩ := hinv.list payload hbefore
      exact ⟨job, hjob, h.recorded _ hrecorded⟩
    · exact hnew
  · exact fun runId task htask => h.taskOk hinv htask
  · intro runId hrunning
    obtain hrecorded | ⟨_, hlive⟩ := h.reserved runId (Running.recorded hrunning)
    · exact h.live hinv (hinv.live runId (h.running runId hrecorded hrunning)) hrunning
    · exact hlive

end OrphanStep

end Steps

/-! ## What a call relies on -/

/-- What others do to the records and tasks of the runs that a call submits and executes. -/
structure Leaves (submitted executed : String → Prop) (s s' : ServiceState β) : Prop where
  keeps : KeepsRecords s s'
  tasked : ∀ runId, s.tasks runId ≠ none → s'.tasks runId ≠ none
  unrecorded : ∀ runId, submitted runId → HasRecord s' runId → HasRecord s runId
  untasked : ∀ runId, submitted runId → s.tasks runId = none → s'.tasks runId = none
  position : ∀ runId, executed runId → position s' runId = position s runId ∨
    position s runId = none ∧ position s' runId = some .created

namespace Leaves

variable {submitted executed submitted' executed' : String → Prop} {a b c : ServiceState β}

theorem refl (s : ServiceState β) : Leaves submitted executed s s :=
  ⟨fun _ h => ⟨h, id⟩, fun _ => id, fun _ _ => id, fun _ _ => id, fun _ _ => .inl rfl⟩

theorem trans (hab : Leaves submitted executed a b) (hbc : Leaves submitted executed b c) :
    Leaves submitted executed a c where
  keeps := hab.keeps.trans hbc.keeps
  tasked runId := hbc.tasked runId ∘ hab.tasked runId
  unrecorded runId h := hab.unrecorded runId h ∘ hbc.unrecorded runId h
  untasked runId h := hbc.untasked runId h ∘ hab.untasked runId h
  position runId h := by
    obtain heq | ⟨hnone, hcreated⟩ := hbc.position runId h
    · rw [heq]
      exact hab.position runId h
    · rw [hcreated]
      obtain heq | ⟨_, hcreated'⟩ := hab.position runId h
      · exact .inr ⟨heq ▸ hnone, rfl⟩
      · rw [hnone] at hcreated'
        cases hcreated'

theorem mono (h : Leaves submitted executed a b) (hs : ∀ runId, submitted' runId → submitted runId)
    (he : ∀ runId, executed' runId → executed runId) : Leaves submitted' executed' a b where
  keeps := h.keeps
  tasked := h.tasked
  unrecorded runId hr := h.unrecorded runId (hs runId hr)
  untasked runId hr := h.untasked runId (hs runId hr)
  position runId hr := h.position runId (he runId hr)

end Leaves

section Discipline

variable [DecidableEq ι] (codec : JobCodec β) (calls : ι → ServiceCall)

/-- What a step of the call `i` does to the runs of others. -/
theorem OrphanStep.leaves {codec : JobCodec β} {calls : ι → ServiceCall} {i : ι}
    {seen : Seen ι (ServiceState β) (RunNote β)} {store : ServiceState β}
    {notes : List (RunNote β)} (h : OrphanStep codec calls i seen store notes) :
    Leaves (fun runId => (calls i).submits ≠ some runId)
      (fun runId => (calls i).executes ≠ some runId) seen.store store where
  keeps runId hrecorded := ⟨h.recorded runId hrecorded, h.running runId hrecorded⟩
  tasked runId hsome := by
    obtain ⟨task, htask⟩ := Option.ne_none_iff_exists'.mp hsome
    obtain ⟨task', htask', _⟩ := h.tasks.moved runId task htask
    rw [htask']
    exact Option.some_ne_none task'
  unrecorded runId hother hrecorded :=
    (h.reserved runId hrecorded).elim id fun hmine => absurd hmine.1 hother
  untasked runId hother hnone :=
    (h.tasks.created runId hnone).elim id fun hmine => absurd hmine.1 hother
  position runId hother := by
    cases hbefore : seen.store.tasks runId with
    | none =>
      obtain hnone | ⟨_, hcreated⟩ := h.tasks.created runId hbefore
      · exact .inl (by rw [position, position, hnone, hbefore])
      · exact .inr ⟨by rw [position, hbefore, Option.map_none], hcreated⟩
    | some task =>
      obtain ⟨task', htask', hmoved⟩ := h.tasks.moved runId task hbefore
      have heq := hmoved.resolve_right hother
      exact .inl (by
        rw [position, position, htask', hbefore, Option.map_some, Option.map_some, heq])

/-- The discipline of the calls of a service. -/
def orphanDiscipline (hdistinct : DistinctRuns calls) :
    Discipline ι (ServiceState β) (RunNote β) where
  inv := OrphanInv codec calls
  guar i a b := (∀ j, i ≠ j → b.own j = a.own j) ∧
    Leaves (fun runId => (calls i).submits ≠ some runId)
      (fun runId => (calls i).executes ≠ some runId) a.store b.store
  rely j a b := b.own j = a.own j ∧
    Leaves (fun runId => (calls j).submits = some runId)
      (fun runId => (calls j).executes = some runId) a.store b.store
  may := Undisturbed calls
  rely_refl _ seen := ⟨rfl, .refl seen.store⟩
  rely_trans _ _ _ _ hab hbc := ⟨hbc.1.trans hab.1, hab.2.trans hbc.2⟩
  rely_of_guar i j hij a b _ _ h := by
    refine ⟨h.1 j hij, h.2.mono (fun runId hj hi => ?_) fun runId hj hi => ?_⟩
    · exact hij (hdistinct.submits i j runId hi hj)
    · exact hij (hdistinct.executes i j runId hi hj)

end Discipline

/-! ## Programs that leave nobody behind -/

namespace Orphans

variable [DecidableEq ι] {codec : JobCodec β} {calls : ι → ServiceCall} {i : ι}
  {hdistinct : DistinctRuns calls} {seen now : Seen ι (ServiceState β) (RunNote β)} {α γ : Type}
  {post : Except RunError α → Seen ι (ServiceState β) (RunNote β) → Prop}

/-- A step that leaves nobody behind, and the program that follows it. -/
theorem meets_perform_bind {run : ServiceState β → Except RunError γ × ServiceState β}
    {notes : ServiceState β → List (RunNote β)} {f : γ → Program β α}
    (h : ∀ now, (orphanDiscipline codec calls hdistinct).rely i seen now →
      OrphanInv codec calls now →
      Undisturbed calls i now (now.after i (run now.store).2 (notes now.store)) →
      OrphanStep codec calls i now (run now.store).2 (notes now.store) ∧
      ((.done (run now.store).1 : Program β γ) >>= f).Meets
        (orphanDiscipline codec calls hdistinct) i post
        (now.after i (run now.store).2 (notes now.store))) :
    (Prog.perform run notes >>= f).Meets (orphanDiscipline codec calls hdistinct) i post seen := by
  refine Prog.meets_perform_bind fun now hrely hinv hmay => ?_
  obtain ⟨hstep, hrest⟩ := h now hrely hinv hmay
  exact ⟨hstep.inv hinv, ⟨fun j hij => now.own_after_of_ne hij _ _, hstep.leaves⟩, hrest⟩

/-- A last step that leaves nobody behind. -/
theorem meets_perform {run : ServiceState β → Except RunError α × ServiceState β}
    {notes : ServiceState β → List (RunNote β)}
    (h : ∀ now, (orphanDiscipline codec calls hdistinct).rely i seen now →
      OrphanInv codec calls now →
      OrphanStep codec calls i now (run now.store).2 (notes now.store) ∧
      ∀ later, (orphanDiscipline codec calls hdistinct).rely i
          (now.after i (run now.store).2 (notes now.store)) later →
        post (run now.store).1 later) :
    (Prog.perform run notes).Meets (orphanDiscipline codec calls hdistinct) i post seen := by
  intro now hrely hinv _ _
  obtain ⟨hstep, hpost⟩ := h now hrely hinv
  exact ⟨hstep.inv hinv, ⟨fun j hij => now.own_after_of_ne hij _ _, hstep.leaves⟩,
    fun later hlater _ => hpost later hlater⟩

/-- A step that only reads, and the program that follows it. -/
theorem meets_read_bind {run : ServiceState β → Except RunError γ} {f : γ → Program β α}
    (h : ∀ now, (orphanDiscipline codec calls hdistinct).rely i seen now →
      OrphanInv codec calls now →
      ((.done (run now.store) : Program β γ) >>= f).Meets
        (orphanDiscipline codec calls hdistinct) i post now) :
    (Prog.read run >>= f).Meets (orphanDiscipline codec calls hdistinct) i post seen :=
  Prog.meets_read_bind (fun now _ => ⟨fun _ _ => rfl, .refl now.store⟩) h

/-- A step that changes neither records nor tasks nor the list. -/
theorem step_aside {store : ServiceState β} {notes : List (RunNote β)}
    (hrepository : store.repository = now.store.repository)
    (htasks : store.tasks = now.store.tasks) (hredis : store.redis = now.store.redis)
    (hnotes : ∀ payload, .enqueued payload ∉ notes) :
    OrphanStep codec calls i now store notes :=
  .of_settles (.of_repository hrepository) (.of_eq htasks) (.of_redis hredis hnotes)

/-! ### Runs that have ended -/

/-- The run has a record that is not running. -/
def Ended (s : ServiceState β) (runId : String) : Prop := HasRecord s runId ∧ ¬Running s runId

theorem ended_of_keeps {s s' : ServiceState β} (h : KeepsRecords s s') {runId : String}
    (hended : Ended s runId) : Ended s' runId := by
  obtain ⟨hrecorded, hrunning⟩ := h runId hended.1
  exact ⟨hrecorded, hended.2 ∘ hrunning⟩

/-- What a record that was read says about its run. -/
structure Known (s : ServiceState β) (runId : String) (record : AgentRunRecord) : Prop where
  runId_eq : record.runId = runId
  recorded : HasRecord s runId
  ended : record.status ≠ .running → Ended s runId

theorem known_of_get? {s : ServiceState β} {runId : String} {record : AgentRunRecord}
    (h : s.repository.runs.get? runId = some record) : Known s runId record := by
  have hrecorded : HasRecord s runId := by
    rw [HasRecord, h]
    exact Option.some_ne_none record
  refine ⟨s.repository.runs_keyed _ _ h, hrecorded, fun hne => ⟨hrecorded, ?_⟩⟩
  rintro ⟨other, hother, hrunning⟩
  rw [h] at hother
  obtain rfl := Option.some.inj hother
  exact hne hrunning

theorem Known.of_keeps {s s' : ServiceState β} {runId : String} {record : AgentRunRecord}
    (h : Known s runId record) (hkeeps : KeepsRecords s s') : Known s' runId record :=
  ⟨h.runId_eq, (hkeeps runId h.recorded).1, fun hne => ended_of_keeps hkeeps (h.ended hne)⟩

/-- What `get_run` tells about a run; the call itself does nothing. -/
theorem meets_getRun (process : ℕ) (runId : String) (principal : Principal) :
    (getRun process runId principal : Program β _).Meets (orphanDiscipline codec calls hdistinct) i
      (fun result now => (orphanDiscipline codec calls hdistinct).rely i seen now ∧
        ∀ record, result = .ok record → Known now.store runId record) seen := by
  have htrans {a b c : Seen ι (ServiceState β) (RunNote β)}
      (hbc : (orphanDiscipline codec calls hdistinct).rely i b c)
      (hab : (orphanDiscipline codec calls hdistinct).rely i a b) :
      (orphanDiscipline codec calls hdistinct).rely i a c :=
    (orphanDiscipline codec calls hdistinct).rely_trans i a b c hab hbc
  have hchecked {record : AgentRunRecord} {now : Seen ι (ServiceState β) (RunNote β)}
      (hget : now.store.repository.runs.get? runId = some record)
      (hnow : (orphanDiscipline codec calls hdistinct).rely i seen now) :
      (do Prog.done (assertOwner record.owner principal); return record :
        Program β AgentRunRecord).Meets (orphanDiscipline codec calls hdistinct) i
          (fun result now => (orphanDiscipline codec calls hdistinct).rely i seen now ∧
            ∀ record, result = .ok record → Known now.store runId record) now := by
    unfold assertOwner
    split
    · refine Prog.meets_done fun last hlast _ => ⟨htrans hlast hnow, fun other hother => ?_⟩
      obtain rfl := Except.ok.inj hother
      exact (known_of_get? hget).of_keeps hlast.2.keeps
    · exact Prog.meets_done fun last hlast _ => ⟨htrans hlast hnow, fun _ => (nomatch ·)⟩
  unfold getRun
  refine meets_read_bind fun now hnow _ => ?_
  cases hget : now.store.repository.runs.get? runId with
  | some record => exact hchecked hget hnow
  | none =>
    refine meets_read_bind fun now hnow' _ => ?_
    have hnow := htrans hnow' hnow
    cases (now.store.processes process).tasks.contains runId with
    | false => exact Prog.meets_done fun last hlast _ => ⟨htrans hlast hnow, fun _ => (nomatch ·)⟩
    | true =>
      refine meets_read_bind fun now hnow' _ => ?_
      have hnow := htrans hnow' hnow
      unfold RunRepository.get
      cases hget : now.store.repository.runs.get? runId with
      | some record => exact hchecked hget hnow
      | none =>
        exact Prog.meets_done fun last hlast _ => ⟨htrans hlast hnow, fun _ => (nomatch ·)⟩

/-! ### Submissions -/

section StartTripRun

variable {tripId : String} {principal : Principal} {requestId : Option String}
  {submission : Submission}

/-- A run that has not been submitted yet. -/
structure Unsubmitted (now : Seen ι (ServiceState β) (RunNote β)) (i : ι)
    (runId : String) : Prop where
  own : now.own i = []
  unrecorded : ¬HasRecord now.store runId
  untasked : now.store.tasks runId = none

/-- The record of a new run is stored by the call that submits it. -/
theorem step_reserve (hcall : calls i = .startTripRun tripId principal requestId submission)
    (hnew : Unsubmitted now i submission.runId) {record : AgentRunRecord}
    (hrunId : record.runId = submission.runId) :
    OrphanStep codec calls i now
      { now.store with repository := now.store.repository.put record } [] := by
  have hget (other : String) : (now.store.repository.put record).runs.get? other =
      if other = submission.runId then some record else now.store.repository.runs.get? other := by
    rw [RunRepository.get?_put, hrunId]
  have hother {runId : String} (hrecorded : HasRecord now.store runId) :
      runId ≠ submission.runId := by
    rintro rfl
    exact hnew.unrecorded hrecorded
  constructor
  · intro runId hrecorded
    rw [HasRecord, hget, if_neg (hother hrecorded)]
    exact hrecorded
  · rintro runId hrecorded ⟨found, hfound, hrunning⟩
    rw [hget, if_neg (hother hrecorded)] at hfound
    exact ⟨found, hfound, hrunning⟩
  · intro runId hrecorded
    by_cases heq : runId = submission.runId
    · subst heq
      refine .inr ⟨by rw [hcall]; rfl, .inl ⟨i, ?_⟩⟩
      rw [Responsible, hcall]
      refine ⟨rfl, hnew.untasked, fun payload => ?_⟩
      rw [Seen.own_after, hnew.own]
      exact List.not_mem_nil
    · rw [HasRecord, hget, if_neg heq] at hrecorded
      exact .inl hrecorded
  · exact .of_eq rfl
  · exact .of_redis rfl fun _ => List.not_mem_nil

/-- How a submission ends: with a run that is queued or has a task, or without a record. -/
def Submitted (codec : JobCodec β) (calls : ι → ServiceCall) (i : ι) (runId : String)
    (result : Except RunError α) (now : Seen ι (ServiceState β) (RunNote β)) : Prop :=
  match result with
  | .ok _ => ¬Responsible codec calls now i runId
  | .error _ => ¬HasRecord now.store runId

/-- A run that is submitted goes into the queue. -/
theorem meets_enqueue (hcall : calls i = .startTripRun tripId principal requestId submission)
    (hrecorded : HasRecord seen.store submission.runId) {job : RunJob}
    (hjob : job.runId = submission.runId) (handle : RunHandle) :
    (do enqueue codec none job; return handle : Program β RunHandle).Meets
      (orphanDiscipline codec calls hdistinct) i (Submitted codec calls i submission.runId)
      seen := by
  unfold enqueue
  refine meets_perform_bind fun now hnow _ _ => ⟨?_, ?_⟩
  · have hrecorded := (hnow.2.keeps _ hrecorded).1
    refine .of_settles (.of_repository rfl) (.of_eq rfl) ⟨?_, ?_, ?_, ?_⟩
    · intro runId payload hget
      dsimp only at hget
      rw [Function.update_apply] at hget
      split at hget
      · next heq => exact .inr ⟨job, (Option.some.inj hget).symm, heq.symm⟩
      · exact .inl hget
    · intro payload hmem
      obtain rfl | hmem := List.mem_cons.mp hmem
      · exact .inr ⟨job, rfl, hjob ▸ hrecorded⟩
      · exact .inl hmem
    · exact fun _ hmem => .inl (List.mem_cons_of_mem _ hmem)
    · intro payload hmem
      obtain rfl := RunNote.enqueued.inj (List.mem_singleton.mp hmem)
      refine ⟨List.mem_cons_self, job, rfl, ?_⟩
      rw [hcall, hjob]
      rfl
  · refine Prog.meets_done fun last hlast _ => ?_
    unfold Submitted Responsible
    rw [hcall]
    rintro ⟨_, _, hnotes⟩
    refine hnotes (codec.dump job) ?_
    rw [hlast.1, Seen.own_after]
    exact List.mem_append_right _ (List.mem_singleton_self _)

/-- A run that is submitted gets a task. -/
theorem meets_createTask (hcall : calls i = .startTripRun tripId principal requestId submission)
    (hrecorded : HasRecord seen.store submission.runId)
    (hnone : seen.store.tasks submission.runId = none) (process : ℕ) (handle : RunHandle) :
    (do createTask submission.runId; registerTask process submission.runId; return handle :
      Program β RunHandle).Meets
      (orphanDiscipline codec calls hdistinct) i (Submitted codec calls i submission.runId)
      seen := by
  have hsubmits : (calls i).submits = some submission.runId := by rw [hcall]; rfl
  unfold createTask registerTask
  refine meets_perform_bind fun now hnow _ _ => ⟨?_, ?_⟩
  · have hrecorded := (hnow.2.keeps _ hrecorded).1
    have hnone := hnow.2.untasked _ hsubmits hnone
    refine .of_settles (.of_repository rfl) ?_ (.of_redis rfl fun _ => List.not_mem_nil)
    refine .of_update rfl ⟨hrecorded, (nomatch ·), (nomatch ·)⟩ (fun _ => ⟨hsubmits, rfl⟩) ?_
    intro before hbefore
    rw [hnone] at hbefore
    cases hbefore
  · refine meets_perform_bind fun later hlater _ _ => ⟨?_, ?_⟩
    · exact step_aside rfl rfl rfl fun _ => List.not_mem_nil
    · refine Prog.meets_done fun last hlast _ => ?_
      unfold Submitted Responsible
      rw [hcall]
      rintro ⟨_, hnone, _⟩
      refine hlast.2.tasked submission.runId (hlater.2.tasked submission.runId ?_) hnone
      dsimp only [Seen.store_after]
      rw [Function.update_self]
      exact Option.some_ne_none _

/-- A submission ends with a run that is queued or has a task, or leaves no record. -/
theorem meets_startTripRun (setup : ServiceSetup) (process : ℕ)
    (hcall : calls i = .startTripRun tripId principal requestId submission)
    (hreliable : submission.queueError = none) (hnew : Unsubmitted seen i submission.runId) :
    (startTripRun setup codec process tripId principal requestId submission).Meets
      (orphanDiscipline codec calls hdistinct) i (Submitted codec calls i submission.runId)
      seen := by
  have hsubmits : (calls i).submits = some submission.runId := by rw [hcall]; rfl
  have hrelied {now later : Seen ι (ServiceState β) (RunNote β)}
      (hnew : Unsubmitted now i submission.runId)
      (hlater : (orphanDiscipline codec calls hdistinct).rely i now later) :
      Unsubmitted later i submission.runId :=
    ⟨hlater.1.trans hnew.own, mt (hlater.2.unrecorded _ hsubmits) hnew.unrecorded,
      hlater.2.untasked _ hsubmits hnew.untasked⟩
  have hraised {now : Seen ι (ServiceState β) (RunNote β)}
      (hnew : Unsubmitted now i submission.runId) (error : RunError) :
      (.done (.error error) : Program β RunHandle).Meets (orphanDiscipline codec calls hdistinct) i
        (Submitted codec calls i submission.runId) now :=
    Prog.meets_done fun last hlast _ => (hrelied hnew hlast).unrecorded
  unfold startTripRun
  obtain ⟨read, hread⟩ : ∃ read, (getTrip process tripId principal : Program β _) = .read read :=
    ⟨_, rfl⟩
  rw [hread]
  refine meets_read_bind fun now hnow _ => ?_
  have hnew := hrelied hnew hnow
  cases read now.store with
  | error error => exact hraised hnew error
  | ok trip =>
    unfold reservePlanRun reserve
    refine meets_perform_bind fun now hnow _ _ => ?_
    have hnew := hrelied hnew hnow
    have hown : (now.after i now.store []).own i = [] := by
      rw [Seen.own_after, hnew.own, List.append_nil]
    have hunchanged : OrphanStep codec calls i now now.store [] :=
      step_aside rfl rfl rfl fun _ => List.not_mem_nil
    dsimp only
    cases submission.circumstances.createError with
    | some error => exact ⟨hunchanged, hraised ⟨hown, hnew.unrecorded, hnew.untasked⟩ error⟩
    | none =>
      dsimp only
      unfold ServiceState.storing
      split
      next repository hcreate =>
        obtain ⟨_, rfl⟩ := RunRepository.create_eq_ok hcreate
        refine ⟨step_reserve hcall hnew rfl, ?_⟩
        have hrecorded (record : AgentRunRecord) (heq : record.runId = submission.runId) :
            HasRecord { now.store with repository := now.store.repository.put record }
              submission.runId := by
          rw [HasRecord, RunRepository.get?_put, if_pos heq.symm]
          exact Option.some_ne_none record
        rw [Prog.done_ok_bind, hreliable]
        cases setup.usesQueue with
        | true =>
          refine meets_enqueue hcall ?_ rfl _
          exact hrecorded _ rfl
        | false =>
          refine meets_createTask hcall ?_ ?_ process _
          · exact hrecorded _ rfl
          · exact hnew.untasked
      next error _ => exact ⟨hunchanged, hraised ⟨hown, hnew.unrecorded, hnew.untasked⟩ error⟩

end StartTripRun

/-! ### Executions -/

section Execution

variable {task : Option String} {runId : String} {circumstances : Circumstances}

/-- The execution of a run has come to an await, in a worker or as the task of the run. -/
def Suspended (calls : ι → ServiceCall) (i : ι) (task : Option String) (runId : String)
    (suspendedAt : Suspension) (s : ServiceState β) : Prop :=
  task = none ∨
    task = some runId ∧ (calls i).executes = some runId ∧ position s runId = some suspendedAt

/-- No payload was popped since. -/
def PopsNothing (i : ι) (seen now : Seen ι (ServiceState β) (RunNote β)) : Prop :=
  ∀ payload, .popped payload ∈ now.own i → .popped payload ∈ seen.own i

theorem suspended_of_rely {suspendedAt : Suspension}
    (h : Suspended calls i task runId suspendedAt seen.store)
    (hrely : (orphanDiscipline codec calls hdistinct).rely i seen now) :
    Suspended calls i task runId suspendedAt now.store := by
  obtain hnone | ⟨htask, hexecutes, hat⟩ := h
  · exact .inl hnone
  · obtain heq | ⟨hnone, _⟩ := hrely.2.position runId hexecutes
    · exact .inr ⟨htask, hexecutes, heq.trans hat⟩
    · rw [hnone] at hat
      cases hat

theorem popsNothing_of_rely {store : ServiceState β} {notes : List (RunNote β)}
    (hown : now.own i = seen.own i) (hnotes : ∀ payload, .popped payload ∉ notes)
    {later : Seen ι (ServiceState β) (RunNote β)}
    (hlater : (orphanDiscipline codec calls hdistinct).rely i (now.after i store notes) later) :
    PopsNothing i seen later := by
  intro payload hmem
  rw [hlater.1, Seen.own_after, hown] at hmem
  exact (List.mem_append.mp hmem).resolve_right (hnotes payload)

/-- A task that goes on leaves the records alone, and so do the others. -/
theorem keeps_moveTask {s : ServiceState β} {suspendedAt : Suspension}
    {notes : List (RunNote β)} {later : Seen ι (ServiceState β) (RunNote β)}
    (hlater : (orphanDiscipline codec calls hdistinct).rely i
      (now.after i (s.moveTask task suspendedAt) notes) later) : KeepsRecords s later.store :=
  (SettlesRuns.of_repository (s.repository_moveTask task suspendedAt)).keeps.trans hlater.2.keeps

/-- An execution that goes on to its next await. -/
theorem step_moveTask {suspendedAt next : Suspension} {s : ServiceState β}
    {notes : List (RunNote β)} (hsuspended : Suspended calls i task runId suspendedAt now.store)
    (hrecorded : HasRecord now.store runId) (htasks : s.tasks = now.store.tasks)
    (hredis : s.redis = now.store.redis) (hsettles : SettlesRuns now.store s)
    (hfinished : next = .finished → ¬Running s runId)
    (hnotes : ∀ payload, .enqueued payload ∉ notes) :
    OrphanStep codec calls i now (s.moveTask task next) notes := by
  obtain rfl | ⟨rfl, hexecutes, hat⟩ := hsuspended
  · exact .of_settles hsettles (.of_eq htasks) (.of_redis hredis hnotes)
  · refine .of_settles ⟨hsettles.recorded, hsettles.running⟩ ?_ (.of_redis hredis hnotes)
    refine .of_update (congrArg (Function.update · runId _) htasks) ?_ ?_ fun _ _ => .inr hexecutes
    · exact ⟨(hsettles.recorded runId).mpr hrecorded, (nomatch ·), hfinished⟩
    · intro hnone
      rw [position, hnone] at hat
      cases hat

omit [DecidableEq ι] in
theorem suspended_moveTask {suspendedAt next : Suspension} {s s' : ServiceState β}
    (hsuspended : Suspended calls i task runId suspendedAt s) :
    Suspended calls i task runId next (s'.moveTask task next) := by
  obtain rfl | ⟨rfl, hexecutes, _⟩ := hsuspended
  · exact .inl rfl
  · refine .inr ⟨rfl, hexecutes, ?_⟩
    unfold position ServiceState.moveTask
    dsimp only
    rw [Function.update_self, Option.map_some]

/-- An execution is cancelled in its call, or when its final record is stored all the same. -/
theorem cancelRequested_eq_false {suspendedAt : Suspension} (hinv : OrphanInv codec calls now)
    (hsuspended : Suspended calls i task runId suspendedAt now.store)
    (hcalling : suspendedAt ≠ .calling)
    (hpersisting : suspendedAt = .persisting → ¬CommitsLate calls runId) :
    now.store.cancelRequested task = false := by
  obtain rfl | ⟨rfl, _, hat⟩ := hsuspended
  · rfl
  · exact hinv.cancelRequested_eq_false hat hcalling hpersisting

/-- A resumed execution gets its answer. -/
theorem meets_resumeTask {answer : ServiceState β → Except RunError α}
    {arrive : Except RunError α → Suspension} {notes : Except RunError α → List (RunNote β)}
    {suspendedAt : Suspension} (hsuspended : Suspended calls i task runId suspendedAt seen.store)
    (hcalling : suspendedAt ≠ .calling) (hpersisting : suspendedAt ≠ .persisting)
    (h : ∀ now, (orphanDiscipline codec calls hdistinct).rely i seen now →
      OrphanStep codec calls i now (now.store.moveTask task (arrive (answer now.store)))
        (notes (answer now.store)) ∧
      ∀ later, (orphanDiscipline codec calls hdistinct).rely i
          (now.after i (now.store.moveTask task (arrive (answer now.store)))
            (notes (answer now.store))) later →
        post (answer now.store) later) :
    (resumeTask task answer arrive notes).Meets (orphanDiscipline codec calls hdistinct) i post
      seen := by
  unfold resumeTask
  refine meets_perform fun now hnow hinv => ?_
  have hcancel := cancelRequested_eq_false hinv (suspended_of_rely hsuspended hnow) hcalling
    fun heq => absurd heq hpersisting
  dsimp only
  rw [if_neg (Bool.not_eq_true _ ▸ hcancel)]
  exact h now hnow

/-- A reserved run is opened, or has ended. -/
theorem meets_openReserved (hreliable : circumstances.getError = none)
    (hsuspended : Suspended calls i task runId .reading seen.store)
    (hrecorded : HasRecord seen.store runId) :
    (openReserved task runId circumstances : Program β _).Meets
      (orphanDiscipline codec calls hdistinct) i
      (fun result now => PopsNothing i seen now ∧ match result with
        | .ok record => record.runId = runId ∧ HasRecord now.store runId ∧
            Suspended calls i task runId .calling now.store
        | .error _ => Ended now.store runId) seen := by
  refine meets_resumeTask hsuspended (by decide) (by decide) fun now hnow => ?_
  have hsuspended := suspended_of_rely hsuspended hnow
  have hrecorded := (hnow.2.keeps _ hrecorded).1
  obtain ⟨record, hget⟩ := Option.ne_none_iff_exists'.mp hrecorded
  have hknown := known_of_get? hget
  have houtcome : reservedRecord runId circumstances now.store =
      if record.status ≠ .running then
        .error (.valueError "precreated run is not in running status")
      else .ok record := by
    unfold reservedRecord unlessError RunRepository.get
    rw [hreliable, hget]
    rfl
  rw [houtcome]
  split
  next hended =>
    have hended := hknown.ended hended
    refine ⟨?_, fun later hlater => ⟨?_, ended_of_keeps (keeps_moveTask hlater) hended⟩⟩
    · exact step_moveTask hsuspended hrecorded rfl rfl (.of_repository rfl) (fun _ => hended.2)
        fun _ => List.not_mem_nil
    · exact popsNothing_of_rely hnow.1 (fun _ => List.not_mem_nil) hlater
  next =>
    refine ⟨?_, fun later hlater => ⟨?_, hknown.runId_eq, ?_, ?_⟩⟩
    · exact step_moveTask hsuspended hrecorded rfl rfl (.of_repository rfl) (nomatch ·)
        (by simp [Except.toOption])
    · exact popsNothing_of_rely hnow.1 (by simp [Except.toOption]) hlater
    · exact (keeps_moveTask hlater runId hrecorded).1
    · exact suspended_of_rely (suspended_moveTask hsuspended) hlater

/-- The call of a run ends. -/
theorem meets_endCall (hsuspended : Suspended calls i task runId .calling seen.store)
    (hrecorded : HasRecord seen.store runId) :
    (endCall task circumstances : Program β _).Meets (orphanDiscipline codec calls hdistinct) i
      (fun result now => (∃ outcome, result = .ok outcome) ∧ PopsNothing i seen now ∧
        HasRecord now.store runId ∧ Suspended calls i task runId .persisting now.store) seen := by
  refine meets_perform fun now hnow _ => ?_
  have hsuspended := suspended_of_rely hsuspended hnow
  have hrecorded := (hnow.2.keeps _ hrecorded).1
  refine ⟨?_, fun later hlater => ⟨⟨_, rfl⟩, ?_, ?_, ?_⟩⟩
  · exact step_moveTask hsuspended hrecorded rfl rfl (.of_repository rfl) (nomatch ·)
      fun _ => List.not_mem_nil
  · exact popsNothing_of_rely hnow.1 (fun _ => List.not_mem_nil) hlater
  · exact (keeps_moveTask hlater runId hrecorded).1
  · exact suspended_of_rely (suspended_moveTask hsuspended) hlater

/-- The final record of a run is stored, also when the cancellation comes late. -/
theorem meets_persist (hreliable : circumstances.persistError = none)
    (hlate : task = some runId → CommitsLate calls runId → circumstances.lateCancel = true)
    (hsuspended : Suspended calls i task runId .persisting seen.store)
    (hrecorded : HasRecord seen.store runId) {final : AgentRunRecord} (hrunId : final.runId = runId)
    (hended : final.status ≠ .running) (events : List TraceEvent) :
    (persist task circumstances final events : Program β _).Meets
      (orphanDiscipline codec calls hdistinct) i
      (fun _ now => PopsNothing i seen now ∧ Ended now.store runId) seen := by
  refine meets_perform fun now hnow hinv => ?_
  have hsuspended := suspended_of_rely hsuspended hnow
  have hrecorded := (hnow.2.keeps _ hrecorded).1
  obtain ⟨repository, hfinalize⟩ := exists_finalize (hrunId ▸ hrecorded) events
  have hstoring : (now.store.storing fun repository => repository.finalize final events) =
      (.ok (), { now.store with repository }) := by
    unfold ServiceState.storing
    dsimp only
    rw [hfinalize]
  have hpersist : (persistStep task circumstances final events now.store).2 =
      { now.store with repository }.moveTask task .finished := by
    unfold persistStep
    rw [hstoring, hreliable]
    dsimp only
    split
    · next hcancel =>
      have hcommits : circumstances.lateCancel = true := by
        by_contra hearly
        have hnever := cancelRequested_eq_false hinv hsuspended (by decide) fun _ hcommits => ?_
        · rw [hnever] at hcancel
          cases hcancel
        · obtain rfl | ⟨htask, _⟩ := hsuspended
          · cases hcancel
          · exact hearly (hlate htask hcommits)
      rw [if_pos hcommits]
    · rfl
  have hsettles : SettlesRuns now.store { now.store with repository } ∧
      ¬Running { now.store with repository } final.runId :=
    settles_of_finalize hended (hrunId ▸ hrecorded) hfinalize rfl
  rw [hpersist]
  refine ⟨?_, fun later hlater => ⟨?_, ?_⟩⟩
  · exact step_moveTask hsuspended hrecorded rfl rfl hsettles.1 (fun _ => hrunId ▸ hsettles.2)
      fun _ => List.not_mem_nil
  · exact popsNothing_of_rely hnow.1 (fun _ => List.not_mem_nil) hlater
  · exact ended_of_keeps (keeps_moveTask hlater)
      ⟨(hsettles.1.recorded runId).mpr hrecorded, hrunId ▸ hsettles.2⟩

/-- A call that is executed ends its run. -/
theorem meets_runCall (hreliable : circumstances.persistError = none)
    (hlate : task = some runId → CommitsLate calls runId → circumstances.lateCancel = true)
    (hsuspended : Suspended calls i task runId .calling seen.store)
    (hrecorded : HasRecord seen.store runId) {record : AgentRunRecord}
    (hrunId : record.runId = runId) (previous : Option AgentRunRecord)
    (hinv : OrphanInv codec calls seen) :
    (runCall task previous circumstances record : Program β _).Meets
      (orphanDiscipline codec calls hdistinct) i
      (fun _ now => PopsNothing i seen now ∧ Ended now.store runId) seen := by
  unfold runCall
  refine (meets_endCall hsuspended hrecorded).bind ?_ ?_ hinv
  · rintro ended now hinv ⟨_, hpops, hrecorded, hsuspended⟩
    have hstored {final : AgentRunRecord} {events : List TraceEvent}
        (hconcludes : Concludes record final events) 
        {next : Unit → Program β (RunPayload × AgentRunRecord)}
        (hnext : ∃ result, next () = .done result) :
        (persist task circumstances final events >>= next).Meets
          (orphanDiscipline codec calls hdistinct) i
          (fun _ now => PopsNothing i seen now ∧ Ended now.store runId) now := by
      refine (meets_persist hreliable hlate hsuspended hrecorded
        (hconcludes.runId.trans hrunId) hconcludes.ended events).bind ?_ ?_ hinv
      · rintro _ later _ ⟨hlater, hended⟩
        obtain ⟨result, hresult⟩ := hnext
        rw [hresult]
        refine Prog.meets_done fun last hlast _ => ⟨fun payload hmem => ?_, ?_⟩
        · rw [hlast.1] at hmem
          exact hpops payload (hlater payload hmem)
        · exact ended_of_keeps hlast.2.keeps hended
      · rintro _ later _ ⟨hlater, hended⟩
        exact ⟨fun payload hmem => hpops payload (hlater payload hmem), hended⟩
    cases ended with
    | ok payload => exact hstored (concludes_completedRecord _ _ _ payload) ⟨_, rfl⟩
    | error error => exact hstored (concludes_failedRecord _ _ error) ⟨_, rfl⟩
  · rintro _ _ _ ⟨⟨_, houtcome⟩, _⟩
    cases houtcome

/-- An execution of a reserved run ends it. -/
theorem meets_executePlan (setup : ServiceSetup) (threadId : String) (principal : Principal)
    (hget : circumstances.getError = none) (hpersist : circumstances.persistError = none)
    (hlate : task = some runId → CommitsLate calls runId → circumstances.lateCancel = true)
    (hsuspended : Suspended calls i task runId .reading seen.store)
    (hrecorded : HasRecord seen.store runId) (hinv : OrphanInv codec calls seen) :
    (executePlan setup task runId threadId principal circumstances : Program β _).Meets
      (orphanDiscipline codec calls hdistinct) i
      (fun _ now => PopsNothing i seen now ∧ Ended now.store runId) seen := by
  refine (meets_openReserved hget hsuspended hrecorded).bind ?_ (fun _ _ _ h => h) hinv
  rintro record now hinv ⟨hpops, hrunId, hrecorded, hsuspended⟩
  refine (meets_runCall hpersist hlate hsuspended hrecorded hrunId none hinv).mono ?_
  rintro _ later _ ⟨hlater, hended⟩
  exact ⟨fun payload hmem => hpops payload (hlater payload hmem), hended⟩

end Execution

/-- The task of a run ends it. -/
theorem meets_backgroundTask (setup : ServiceSetup) {principal : Principal}
    {submission : Submission} (hcall : calls i = .backgroundTask principal submission)
    (hreliable : (calls i).Reliable) (hnone : seen.store.tasks submission.runId = none) :
    (backgroundTask setup principal submission : Program β _).Meets
      (orphanDiscipline codec calls hdistinct) i (fun _ _ => True) seen := by
  have hexecutes : (calls i).executes = some submission.runId := by rw [hcall]; rfl
  rw [hcall] at hreliable
  unfold backgroundTask
  refine Prog.meets_waitFor_bind (fun now _ => ⟨fun _ _ => rfl, .refl now.store⟩)
    fun now hnow hinv hready => ?_
  have hsuspended : Suspended calls i (some submission.runId) submission.runId .created
      now.store := by
    refine .inr ⟨rfl, hexecutes, ?_⟩
    obtain heq | ⟨_, hcreated⟩ := hnow.2.position _ hexecutes
    · obtain ⟨task, htask⟩ := Option.isSome_iff_exists.mp hready
      rw [position, position, hnone, htask] at heq
      cases heq
    · exact hcreated
  have hrecorded : HasRecord now.store submission.runId := by
    obtain ⟨task, htask⟩ := Option.isSome_iff_exists.mp hready
    exact (hinv.tasks _ task htask).recorded
  have hstarted : (resumeTask (some submission.runId) (fun _ => .ok ())
      (fun outcome => if outcome.toOption.isSome then .reading else .finished) fun _ => [] :
      Program β Unit).Meets (orphanDiscipline codec calls hdistinct) i
        (fun _ now => HasRecord now.store submission.runId ∧
          Suspended calls i (some submission.runId) submission.runId .reading now.store) now := by
    refine meets_resumeTask hsuspended (by decide) (by decide) fun now hnow => ?_
    have hsuspended := suspended_of_rely hsuspended hnow
    have hrecorded := (hnow.2.keeps _ hrecorded).1
    refine ⟨?_, fun later hlater => ⟨(keeps_moveTask hlater _ hrecorded).1, ?_⟩⟩
    · exact step_moveTask hsuspended hrecorded rfl rfl (.of_repository rfl) (nomatch ·)
        fun _ => List.not_mem_nil
    · exact suspended_of_rely (suspended_moveTask hsuspended) hlater
  refine hstarted.bind ?_ (fun _ _ _ _ => trivial) hinv
  rintro _ now hinv ⟨hrecorded, hsuspended⟩
  have hlate (_ : some submission.runId = some submission.runId)
      (hcommits : CommitsLate calls submission.runId) :
      submission.circumstances.lateCancel = true := by
    obtain ⟨j, _, other, hj, hother, hlate⟩ := hcommits
    obtain rfl := hdistinct.executes i j _ hexecutes (by rw [hj, ← hother]; rfl)
    rw [hcall] at hj
    cases hj
    exact hlate
  exact (meets_executePlan setup _ _ hreliable.1 hreliable.2 hlate hsuspended hrecorded hinv).bind
    (fun _ _ _ _ => Prog.meets_done fun _ _ _ => trivial) (fun _ _ _ _ => trivial) hinv

/-- What a call leaves behind when it ends: it is not responsible for a run that is running. -/
def Relieved (codec : JobCodec β) (calls : ι → ServiceCall) (i : ι)
    (now : Seen ι (ServiceState β) (RunNote β)) : Prop :=
  ∀ runId, Responsible codec calls now i runId → ¬Running now.store runId

section WorkerTurn

variable {circumstances : Circumstances}

/-- What a worker has taken from the queue. -/
def Took (codec : JobCodec β) (i : ι) (job : Option RunJob)
    (now : Seen ι (ServiceState β) (RunNote β)) : Prop :=
  (∀ payload, .popped payload ∈ now.own i → job.map codec.dump = some payload) ∧
    ∀ taken, job = some taken → HasRecord now.store taken.runId

/-- A worker takes the job of a recorded run, and is responsible for it. -/
theorem meets_dequeue (hcall : calls i = .workerTurn circumstances) (hown : seen.own i = []) :
    (dequeue codec).Meets (orphanDiscipline codec calls hdistinct) i
      (fun result now => ∃ job, result = .ok job ∧ Took codec i job now) seen := by
  unfold dequeue brpop
  refine meets_perform_bind fun now hnow hinv _ => ?_
  have hown := hnow.1.trans hown
  cases hlast : now.store.redis.list.getLast? with
  | none =>
    have hnil : now.store.redis.list = [] := List.getLast?_eq_none_iff.mp hlast
    refine ⟨.of_settles (.of_repository rfl) (.of_eq rfl) (.of_list ?_ (fun _ _ h => h) ?_), ?_⟩
    · dsimp only
      rw [hnil]
      rfl
    · exact fun _ => List.not_mem_nil
    · refine Prog.meets_done fun last hlast _ =>
        ⟨none, rfl, fun payload hmem => ?_, fun taken htaken => absurd htaken.symm ?_⟩
      · rw [hlast.1, Seen.own_after, hown] at hmem
        cases hmem
      · exact Option.some_ne_none taken
  | some payload =>
    obtain ⟨rest, hlist⟩ := List.getLast?_eq_some_iff.mp hlast
    obtain ⟨job, rfl, hrecorded⟩ := hinv.list payload (by simp [hlist])
    constructor
    · refine .of_settles (.of_repository rfl) (.of_eq rfl) ⟨?_, ?_, ?_, ?_⟩
      · exact fun _ _ hget => .inl hget
      · exact fun _ hmem => .inl (List.dropLast_subset _ hmem)
      · intro other hmem
        rw [hlist] at hmem
        dsimp only
        rw [hlist, List.dropLast_concat]
        obtain hrest | hother := List.mem_append.mp hmem
        · exact .inl hrest
        · obtain rfl := codec.dump_injective (List.mem_singleton.mp hother)
          refine .inr ?_
          unfold Responsible
          rw [hcall]
          refine ⟨other, rfl, ?_⟩
          rw [Seen.own_after]
          exact List.mem_append_right _ (List.mem_singleton_self _)
      · intro payload hmem
        cases List.mem_singleton.mp hmem
    · rw [Prog.done_ok_bind]
      dsimp only
      rw [codec.validate_dump]
      refine meets_perform_bind fun later hlater _ _ => ⟨?_, ?_⟩
      · refine .of_settles (.of_repository rfl) (.of_eq rfl) (.of_list rfl ?_ ?_)
        · intro key payload hget
          dsimp only at hget
          rw [Function.update_apply] at hget
          split at hget
          · cases hget
          · exact hget
        · exact fun _ => List.not_mem_nil
      · refine Prog.meets_done fun last hlast _ => ⟨some job, rfl, fun payload hmem => ?_, ?_⟩
        · rw [hlast.1, Seen.own_after, hlater.1, Seen.own_after, hown, List.append_nil] at hmem
          obtain rfl := RunNote.popped.inj (List.mem_singleton.mp hmem)
          rfl
        · rintro taken htaken
          obtain rfl := Option.some.inj htaken
          exact (hlast.2.keeps _ (hlater.2.keeps _ hrecorded).1).1

/-- A worker ends the run whose job it has popped. -/
theorem meets_workerTurn (setup : ServiceSetup) (hcall : calls i = .workerTurn circumstances)
    (hreliable : (calls i).Reliable) (hown : seen.own i = []) (hinv : OrphanInv codec calls seen) :
    (workerTurn setup codec circumstances).Meets (orphanDiscipline codec calls hdistinct) i
      (fun _ now => Relieved codec calls i now) seen := by
  rw [hcall] at hreliable
  have hrelieved {job : Option RunJob} {now later : Seen ι (ServiceState β) (RunNote β)}
      (htook : Took codec i job now) (hpops : PopsNothing i now later)
      (hended : ∀ taken, job = some taken → Ended later.store taken.runId) :
      Relieved codec calls i later := by
    intro runId h
    unfold Responsible at h
    rw [hcall] at h
    obtain ⟨other, rfl, hmem⟩ := h
    obtain ⟨taken, htaken, hdump⟩ := Option.map_eq_some_iff.mp (htook.1 _ (hpops _ hmem))
    obtain rfl := codec.dump_injective hdump
    exact (hended taken htaken).2
  unfold workerTurn
  refine (meets_dequeue hcall hown).bind ?_ ?_ hinv
  · rintro job now hinv ⟨_, hjob, htook⟩
    obtain rfl := Except.ok.inj hjob
    cases job with
    | none =>
      refine Prog.meets_done fun last hlast _ => ?_
      refine hrelieved htook (fun payload hmem => ?_) fun _ => (nomatch ·)
      rw [hlast.1] at hmem
      exact hmem
    | some job =>
      have hexecute : (executePlan setup none job.runId job.threadId job.principal circumstances :
          Program β _).Meets (orphanDiscipline codec calls hdistinct) i
          (fun _ now' => PopsNothing i now now' ∧ Ended now'.store job.runId) now :=
        meets_executePlan setup _ _ hreliable.1 hreliable.2 (nomatch ·) (.inl rfl)
          (htook.2 job rfl) hinv
      have hended {now' last : Seen ι (ServiceState β) (RunNote β)}
          (h : PopsNothing i now now' ∧ Ended now'.store job.runId)
          (hlast : (orphanDiscipline codec calls hdistinct).rely i now' last) :
          Relieved codec calls i last := by
        refine hrelieved htook (fun payload hmem => ?_) ?_
        · rw [hlast.1] at hmem
          exact h.1 payload hmem
        · rintro taken htaken
          obtain rfl := Option.some.inj htaken
          exact ended_of_keeps hlast.2.keeps h.2
      have hturn : (executePlan setup none job.runId job.threadId job.principal circumstances >>=
          fun _ => pure () : Program β Unit).Meets (orphanDiscipline codec calls hdistinct) i
          (fun _ now' => PopsNothing i now now' ∧ Ended now'.store job.runId) now := hexecute.map
      refine hturn.tryCatch (fun _ now' _ h => hended h ?_)
        (fun _ _ _ h => Prog.meets_done fun last hlast _ => hended h hlast) hinv
      exact (orphanDiscipline codec calls hdistinct).rely_refl i now'
  · rintro _ _ _ ⟨_, hjob, _⟩
    cases hjob

end WorkerTurn

section CancelRun

variable {runId : String} {principal : Principal} {circumstances : Circumstances}

/-- A cancellation is requested where the task may be cancelled. -/
theorem step_requestCancel (hinv : OrphanInv codec calls now)
    (hmay : Undisturbed calls i now (now.after i (now.store.requestCancel runId) [])) :
    OrphanStep codec calls i now (now.store.requestCancel runId) [] := by
  have hunchanged : OrphanStep codec calls i now now.store [] :=
    step_aside rfl rfl rfl fun _ => List.not_mem_nil
  cases htask : now.store.tasks runId with
  | none =>
    have hsame : now.store.requestCancel runId = now.store := by
      rw [ServiceState.requestCancel, htask]
    rw [hsame]
    exact hunchanged
  | some task =>
    have hok := hinv.tasks runId task htask
    by_cases hfinished : task.suspendedAt = .finished
    · have hsame : now.store.requestCancel runId = now.store := by
        rw [ServiceState.requestCancel, htask]
        exact if_pos hfinished
      rw [hsame]
      exact hunchanged
    · have hrequested : now.store.requestCancel runId =
          { now.store with
            tasks := Function.update now.store.tasks runId
              (some { task with cancelRequested := true }) } := by
        rw [ServiceState.requestCancel, htask]
        exact if_neg hfinished
      rw [hrequested] at hmay ⊢
      refine .of_settles (.of_repository rfl) ?_ (.of_redis rfl fun _ => List.not_mem_nil)
      refine .of_update rfl ⟨hok.recorded, fun _ => ?_, fun h => absurd h hfinished⟩ ?_ ?_
      · obtain ⟨before, hbefore, hcancelled⟩ | hcancellable :=
          hmay runId _ (Function.update_self _ _ _) rfl
        · rw [htask] at hbefore
          obtain rfl := Option.some.inj hbefore
          exact hok.cancelled hcancelled
        · exact hcancellable
      · intro hnone
        rw [htask] at hnone
        cases hnone
      · intro before hbefore
        rw [htask] at hbefore
        obtain rfl := Option.some.inj hbefore
        exact .inl rfl

/-- What a cancellation has removed from the queue. -/
def Removes (codec : JobCodec β) (i : ι) (runId : String) (removed : Bool)
    (now : Seen ι (ServiceState β) (RunNote β)) : Prop :=
  ∀ payload, .removed payload ∈ now.own i →
    removed = true ∧ ∃ job : RunJob, payload = codec.dump job ∧ job.runId = runId

/-- A call that has removed the job of a run is responsible for this run only. -/
theorem relieved_of_removes (hcall : calls i = .cancelRun runId principal circumstances)
    {removed : Bool} (hremoves : Removes codec i runId removed now)
    (hended : removed = true → Ended now.store runId) : Relieved codec calls i now := by
  intro other h
  unfold Responsible at h
  rw [hcall] at h
  obtain ⟨job, rfl, hmem⟩ := h
  obtain ⟨hremoved, taken, hdump, hrunId⟩ := hremoves _ hmem
  obtain rfl := codec.dump_injective hdump
  exact hrunId ▸ (hended hremoved).2

theorem removes_nil (hown : now.own i = []) (removed : Bool) :
    Removes codec i runId removed now := by
  intro payload hmem
  rw [hown] at hmem
  cases hmem

theorem removes_of_own {removed : Bool} (h : Removes codec i runId removed seen)
    (hown : now.own i = seen.own i) : Removes codec i runId removed now :=
  fun payload hmem => h payload (hown ▸ hmem)

/-- `remove` notes the job that it takes. -/
theorem meets_remove [DecidableEq β] (hcall : calls i = .cancelRun runId principal circumstances)
    (hown : seen.own i = []) :
    (remove runId).Meets (orphanDiscipline codec calls hdistinct) i
      (fun result now => KeepsRecords seen.store now.store ∧
        ∃ removed, result = .ok removed ∧ Removes codec i runId removed now) seen := by
  unfold remove
  refine meets_read_bind fun now hnow hinv => ?_
  have hown := hnow.1.trans hown
  cases hget : now.store.redis.jobs runId with
  | none =>
    exact Prog.meets_done fun last hlast _ => ⟨hnow.2.keeps.trans hlast.2.keeps, false, rfl,
      removes_nil (hlast.1.trans hown) false⟩
  | some payload =>
    obtain ⟨job, rfl, hjob⟩ := hinv.keys runId payload hget
    refine meets_perform fun later hlater _ => ?_
    have hown := hlater.1.trans hown
    have hkeeps := hnow.2.keeps.trans hlater.2.keeps
    refine ⟨.of_settles (.of_repository rfl) (.of_eq rfl) ⟨?_, ?_, ?_, ?_⟩, fun last hlast => ?_⟩
    · intro key payload hkey
      dsimp only at hkey
      rw [Function.update_apply] at hkey
      split at hkey
      · cases hkey
      · exact .inl hkey
    · exact fun _ hmem => .inl (List.mem_of_mem_erase hmem)
    · intro other hmem
      by_cases heq : codec.dump other = codec.dump job
      · rw [heq] at hmem
        refine .inr ?_
        unfold Responsible
        rw [hcall, if_pos hmem]
        refine ⟨other, rfl, ?_⟩
        rw [Seen.own_after, heq]
        exact List.mem_append_right _ (List.mem_singleton_self _)
      · exact .inl ((List.mem_erase_of_ne heq).mpr hmem)
    · intro payload hmem
      obtain ⟨_, hmem⟩ := List.mem_ite_nil_right.mp hmem
      cases List.mem_singleton.mp hmem
    · refine ⟨hkeeps.trans hlast.2.keeps, _, rfl, fun payload hmem => ?_⟩
      rw [hlast.1, Seen.own_after, hown, List.nil_append] at hmem
      obtain ⟨hin, hmem⟩ := List.mem_ite_nil_right.mp hmem
      obtain rfl := RunNote.removed.inj (List.mem_singleton.mp hmem)
      exact ⟨decide_eq_true hin, job, rfl, hjob⟩

/-- A run whose job was removed is stored as cancelled. -/
theorem meets_finalizeCancelled (hreliable : circumstances.persistError = none)
    {record : AgentRunRecord} (hknown : Known seen.store runId record) {removed : Bool}
    (hremoves : Removes codec i runId removed seen) :
    (finalizeCancelled runId record circumstances : Program β Unit).Meets
      (orphanDiscipline codec calls hdistinct) i
      (fun _ now => Removes codec i runId removed now ∧ Ended now.store runId) seen := by
  unfold finalizeCancelled
  refine meets_perform fun now hnow _ => ?_
  have hknown := hknown.of_keeps hnow.2.keeps
  have hrunId : (cancelledRecord record circumstances.endedAt).runId = runId := hknown.runId_eq
  have hrecorded : HasRecord now.store (cancelledRecord record circumstances.endedAt).runId :=
    hrunId.symm ▸ hknown.recorded
  rw [hreliable]
  dsimp only
  generalize [({ runId, sequence := 1, eventType := .runCancelled, status := "cancelled" } :
    TraceEvent)] = events
  obtain ⟨repository, hfinalize⟩ := exists_finalize hrecorded events
  have hstoring : (now.store.storing fun repository => repository.finalize
      (cancelledRecord record circumstances.endedAt) events) =
      (.ok (), { now.store with repository }) := by
    unfold ServiceState.storing
    dsimp only
    rw [hfinalize]
  obtain ⟨hsettles, hended⟩ : SettlesRuns now.store { now.store with repository } ∧
      ¬Running { now.store with repository } (cancelledRecord record circumstances.endedAt).runId :=
    settles_of_finalize (by simp [cancelledRecord]) hrecorded hfinalize rfl
  simp only [hstoring]
  refine ⟨.of_settles hsettles (.of_eq rfl) (.of_redis rfl (by simp [Except.toOption])),
    fun later hlater => ⟨fun payload hmem => ?_, ?_⟩⟩
  · rw [hlater.1, Seen.own_after, hnow.1] at hmem
    refine hremoves payload ((List.mem_append.mp hmem).resolve_right ?_)
    simp [Except.toOption]
  · exact ended_of_keeps hlater.2.keeps
      ⟨(hsettles.recorded runId).mpr hknown.recorded, hrunId ▸ hended⟩

/-- A cancellation that returns has ended the run, and one that raises has taken nothing. -/
theorem meets_cancelRun [DecidableEq β] (setup : ServiceSetup) (process : ℕ)
    (hcall : calls i = .cancelRun runId principal circumstances) (hreliable : (calls i).Reliable)
    (hown : seen.own i = []) (hinv : OrphanInv codec calls seen) :
    (cancelRun setup process runId principal circumstances).Meets
      (orphanDiscipline codec calls hdistinct) i
      (fun result now => Relieved codec calls i now ∧
        ∀ record, result = .ok record → Ended now.store runId) seen := by
  rw [hcall] at hreliable
  have hnothing {now : Seen ι (ServiceState β) (RunNote β)} (hown : now.own i = []) :
      Relieved codec calls i now :=
    relieved_of_removes hcall (removes_nil hown false) (nomatch ·)
  unfold cancelRun
  refine (meets_getRun process runId principal).bind ?_ ?_ hinv
  · rintro record now hinv ⟨hnow, hknown⟩
    have hknown := hknown record rfl
    have hown := hnow.1.trans hown
    split
    next hended =>
      refine Prog.meets_done fun last hlast _ => ⟨hnothing (hlast.1.trans hown), fun _ _ => ?_⟩
      exact ended_of_keeps hlast.2.keeps (hknown.ended hended)
    next =>
      refine meets_perform_bind fun now hnow hinv hmay => ?_
      have hknown := hknown.of_keeps hnow.2.keeps
      have hown := hnow.1.trans hown
      cases howned : (now.store.processes process).tasks.contains runId with
      | true =>
        rw [howned] at hmay
        have hstep := step_requestCancel hinv hmay
        refine ⟨hstep, ?_⟩
        refine Prog.meets_waitFor_bind (fun now _ => ⟨fun _ _ => rfl, .refl now.store⟩)
          fun later hlater hinv hfinished => ?_
        have hended : Ended later.store runId := by
          obtain ⟨task, htask, hat⟩ := (Option.any_eq_true _ _).mp hfinished
          have hok := hinv.tasks runId task htask
          exact ⟨hok.recorded, hok.finished (of_decide_eq_true hat)⟩
        have hown : later.own i = [] := by
          rw [hlater.1, Seen.own_after, hown, List.append_nil]
        refine (meets_getRun process runId principal).mono fun result last _ hlast => ?_
        exact ⟨hnothing (hlast.1.1.trans hown), fun _ _ => ended_of_keeps hlast.1.2.keeps hended⟩
      | false =>
        have hunchanged : OrphanStep codec calls i now now.store [] :=
          step_aside rfl rfl rfl fun _ => List.not_mem_nil
        refine ⟨hunchanged, ?_⟩
        have hown : (now.after i now.store []).own i = [] := by
          rw [Seen.own_after, hown, List.append_nil]
        have hrest (removed : Bool) {later : Seen ι (ServiceState β) (RunNote β)}
            (hinv : OrphanInv codec calls later) (hkeeps : KeepsRecords now.store later.store)
            (hremoves : Removes codec i runId removed later) :
            (if removed then (do
                finalizeCancelled runId record circumstances
                return cancelledRecord record circumstances.endedAt)
              else throw .conflict : Program β AgentRunRecord).Meets
              (orphanDiscipline codec calls hdistinct) i
              (fun result now => Relieved codec calls i now ∧
                ∀ record, result = .ok record → Ended now.store runId) later := by
          have hknown := hknown.of_keeps hkeeps
          cases removed with
          | false =>
            refine Prog.meets_done fun last hlast _ => ⟨?_, fun _ => (nomatch ·)⟩
            exact relieved_of_removes hcall (removes_of_own hremoves hlast.1) (nomatch ·)
          | true =>
            refine (meets_finalizeCancelled hreliable hknown hremoves).bind ?_ ?_ hinv
            · rintro _ later _ ⟨hremoves, hended⟩
              refine Prog.meets_done fun last hlast _ => ?_
              have hended := ended_of_keeps hlast.2.keeps hended
              have hremoves := removes_of_own hremoves hlast.1
              exact ⟨relieved_of_removes hcall hremoves fun _ => hended, fun _ _ => hended⟩
            · rintro error later _ ⟨hremoves, hended⟩
              exact ⟨relieved_of_removes hcall hremoves fun _ => hended, fun _ => (nomatch ·)⟩
        cases setup.usesQueue with
        | true =>
          refine (meets_remove hcall hown).bind ?_ ?_ (hunchanged.inv hinv)
          · rintro removed later hinv ⟨hkeeps, _, hremoved, hremoves⟩
            obtain rfl := Except.ok.inj hremoved
            exact hrest removed hinv hkeeps hremoves
          · rintro error _ _ ⟨_, _, hremoved, _⟩
            cases hremoved
        | false =>
          exact hrest false (hunchanged.inv hinv) (fun _ h => ⟨h, id⟩) (removes_nil hown false)
  · rintro error now _ ⟨hnow, _⟩
    exact ⟨hnothing (hnow.1.trans hown), fun _ => (nomatch ·)⟩

end CancelRun

end Orphans

/-! ## No run stays behind -/

section NoOrphans

variable [DecidableEq ι] {codec : JobCodec β} {calls : ι → ServiceCall}

/-- A service that has just started: nothing is queued, running or recorded for the runs to come. -/
structure FreshService (calls : ι → ServiceCall) (s : ServiceState β) : Prop where
  redis : s.redis = {}
  tasks : ∀ runId, s.tasks runId = none
  running : ∀ runId, ¬Running s runId
  unrecorded : ∀ i runId, (calls i).submits = some runId → ¬HasRecord s runId

/-- No run is left running with nobody to end it. -/
structure NoOrphans (codec : JobCodec β) (calls : ι → ServiceCall)
    (w : World ι (ServiceState β) (RunNote β) RunError ServiceAnswer) : Prop where
  /-- A submission that raises leaves no running record. -/
  raised : ∀ i tripId principal requestId submission error,
    calls i = .startTripRun tripId principal requestId submission →
    (w.prog i).result? = some (.error error) → ¬Running w.store submission.runId
  /-- A cancellation that returns leaves a record that has ended. -/
  cancelled : ∀ i runId principal circumstances answer,
    calls i = .cancelRun runId principal circumstances →
    (w.prog i).result? = some (.ok answer) →
    HasRecord w.store runId ∧ ¬Running w.store runId
  /-- A running record belongs to a call under way, to a queued job or to an unfinished task. -/
  live : ∀ runId, Running w.store runId →
    (∃ i, (w.prog i).result? = none ∧ Responsible codec calls w.toSeen i runId) ∨
      Queued codec w.store runId ∨ Executing w.store runId

/-- What a call has done when it has ended. -/
def Settled (codec : JobCodec β) (calls : ι → ServiceCall) (i : ι)
    (result : Except RunError ServiceAnswer) (now : Seen ι (ServiceState β) (RunNote β)) : Prop :=
  Orphans.Relieved codec calls i now ∧
    match calls i, result with
    | .startTripRun _ _ _ submission, .error _ => ¬Running now.store submission.runId
    | .cancelRun runId _ _, .ok _ => HasRecord now.store runId ∧ ¬Running now.store runId
    | _, _ => True

/-- Every call leaves nobody behind. -/
theorem meets_serviceCall [DecidableEq β] (setup : ServiceSetup) (process : ℕ)
    (hdistinct : DistinctRuns calls) (hreliable : ∀ i, (calls i).Reliable) {s : ServiceState β}
    (hs : FreshService calls s) (hinv : OrphanInv codec calls ⟨s, []⟩) (i : ι) :
    ((calls i).program setup codec process).Meets (orphanDiscipline codec calls hdistinct) i
      (Settled codec calls i) ⟨s, []⟩ := by
  have hown : Seen.own ⟨s, ([] : List (ι × RunNote β))⟩ i = [] := rfl
  have hreliable := hreliable i
  cases hcall : calls i with
  | createTrip request principal tripId =>
    refine Orphans.meets_perform_bind fun now _ _ _ => ⟨?_, ?_⟩
    · exact Orphans.step_aside rfl rfl rfl fun _ => List.not_mem_nil
    · refine Prog.meets_done fun last _ _ => ?_
      unfold Settled Orphans.Relieved Responsible
      rw [hcall]
      exact ⟨fun _ h => h.elim, trivial⟩
  | startTripRun tripId principal requestId submission =>
    have hsubmits : (calls i).submits = some submission.runId := by rw [hcall]; rfl
    rw [hcall] at hreliable
    have hmine {now : Seen ι (ServiceState β) (RunNote β)} {runId : String}
        (h : Responsible codec calls now i runId) : runId = submission.runId := by
      unfold Responsible at h
      rw [hcall] at h
      exact (Option.some.inj h.1).symm
    refine ((Orphans.meets_startTripRun setup process hcall hreliable
      ⟨hown, hs.unrecorded i _ hsubmits, hs.tasks _⟩).mono ?_).map
    intro result now _ hsubmitted
    cases result with
    | ok handle =>
      refine ⟨fun runId h => ?_, ?_⟩
      · obtain rfl := hmine h
        exact absurd h hsubmitted
      · rw [hcall]
        trivial
    | error error =>
      have hended : ¬Running now.store submission.runId := mt Running.recorded hsubmitted
      refine ⟨fun runId h => ?_, ?_⟩
      · obtain rfl := hmine h
        exact hended
      · rw [hcall]
        exact hended
  | backgroundTask principal submission =>
    refine ((Orphans.meets_backgroundTask setup hcall hreliable (hs.tasks _)).mono ?_).map
    intro result now _ _
    unfold Settled Orphans.Relieved Responsible
    rw [hcall]
    exact ⟨fun _ h => h.elim, trivial⟩
  | cancelRun runId principal circumstances =>
    refine ((Orphans.meets_cancelRun setup process hcall hreliable hown hinv).mono ?_).map
    rintro result now _ ⟨hrelieved, hended⟩
    refine ⟨hrelieved, ?_⟩
    rw [hcall]
    cases result with
    | ok record => exact hended record rfl
    | error error => trivial
  | workerTurn circumstances =>
    refine ((Orphans.meets_workerTurn setup hcall hreliable hown hinv).mono ?_).map
    intro result now _ hrelieved
    refine ⟨hrelieved, ?_⟩
    rw [hcall]
    trivial

/-- Nobody is left behind when the queue and the repository answer and tasks are cancelled only in
their calls, or when their final records are stored all the same. -/
theorem noOrphans_of_undisturbed [DecidableEq β] (setup : ServiceSetup) (process : ℕ)
    (hdistinct : DistinctRuns calls) (hreliable : ∀ i, (calls i).Reliable) {s : ServiceState β}
    (hs : FreshService calls s) {w : World ι (ServiceState β) (RunNote β) RunError ServiceAnswer}
    (hrun : World.Run (Undisturbed calls) (serviceWorld setup codec process calls s) w) :
    NoOrphans codec calls w := by
  have hinv : OrphanInv codec calls (⟨s, []⟩ : Seen ι (ServiceState β) (RunNote β)) := by
    constructor
    · intro runId payload hget
      dsimp only at hget
      rw [hs.redis] at hget
      cases hget
    · intro payload hmem
      dsimp only at hmem
      rw [hs.redis] at hmem
      cases hmem
    · intro runId task htask
      dsimp only at htask
      rw [hs.tasks] at htask
      cases htask
    · exact fun runId hrunning => absurd hrunning (hs.running runId)
  have hend : w.Disciplined (orphanDiscipline codec calls hdistinct) (Settled codec calls) :=
    World.Run.sound hrun
      ⟨hinv, fun i => meets_serviceCall setup process hdistinct hreliable hs hinv i⟩
  constructor
  · intro i tripId principal requestId submission error hcall hresult
    have hpost := (hend.post_of_result hresult).2
    rw [hcall] at hpost
    exact hpost
  · intro i runId principal circumstances answer hcall hresult
    have hpost := (hend.post_of_result hresult).2
    rw [hcall] at hpost
    exact hpost
  · intro runId hrunning
    obtain ⟨i, hi⟩ | hlive := hend.inv.live runId hrunning
    · cases hresult : (w.prog i).result? with
      | none => exact .inl ⟨i, hresult, hi⟩
      | some result => exact absurd hrunning ((hend.post_of_result hresult).1 runId hi)
    · exact .inr hlive

end NoOrphans

/-! ## A run that is cancelled -/

/-- A trip is created, its run is submitted and executed by a task, and somebody cancels it. -/
def cancelledCalls : Fin 4 → ServiceCall
  | 0 => .createTrip { trip := Sample.trip } ⟨"tenant", "user"⟩ "trip"
  | 1 => .startTripRun "trip" ⟨"tenant", "user"⟩ none
      { runId := "run", threadId := "thread", circumstances := { result := .error .cancelled } }
  | 2 => .backgroundTask ⟨"tenant", "user"⟩
      { runId := "run", threadId := "thread", circumstances := { result := .error .cancelled } }
  | 3 => .cancelRun "run" ⟨"tenant", "user"⟩ { result := .error .cancelled }

/-- The tasks when that of the run has been through these states. -/
def tasksAfter (states : List AsyncTask) : String → Option AsyncTask :=
  states.foldl (fun tasks task => Function.update tasks "run" (some task)) fun _ => none

theorem tasksAfter_eq (states : List AsyncTask) (runId : String) :
    tasksAfter states runId = if runId = "run" then states.getLast? else none := by
  induction states using List.reverseRecOn with
  | nil => simp [tasksAfter]
  | append_singleton states task ih =>
    rw [tasksAfter, List.foldl_append, ← tasksAfter]
    by_cases h : runId = "run"
    · subst h
      simp
    · rw [if_neg h] at ih
      simp [h, ih]

/-- A step after which the task is to be cancelled in its call, if at all. -/
theorem next_of_tasksAfter
    {w w' : World (Fin 4) (ServiceState RunJob) (RunNote RunJob) RunError ServiceAnswer} (i : Fin 4)
    (hadvance : w.advance i = some w') (states : List AsyncTask)
    (htasks : w'.store.tasks = tasksAfter states)
    (hcalling : ∀ task ∈ states.getLast?, task.cancelRequested = true →
      task.suspendedAt = .calling) :
    World.Next (Undisturbed cancelledCalls) w w' := by
  refine ⟨i, fun runId task htask hrequested => .inr (.inl ?_), hadvance⟩
  change w'.store.tasks runId = some task at htask
  rw [htasks, tasksAfter_eq] at htask
  split at htask
  · exact hcalling task htask hrequested
  · cases htask

/-- The task is cancelled in its call: it stores that its run was cancelled, and the cancellation
finds the record ended. -/
theorem noOrphans_of_undisturbed_cancelled :
    let w := (serviceWorld { usesQueue := false } plainCodec 0 cancelledCalls {}).runAll
      [0, 1, 1, 1, 1, 2, 2, 2, 3, 3, 2, 2, 3, 3]
    (w.store.repository.runs.get? "run").map AgentRunRecord.status = some .cancelled ∧
      NoOrphans plainCodec cancelledCalls w := by
  have hsubmits (i : Fin 4) (runId : String) (h : (cancelledCalls i).submits = some runId) :
      i = 1 := by
    match i with
    | 1 => rfl
    | 0 => cases h
    | 2 => cases h
    | 3 => cases h
  have hexecutes (i : Fin 4) (runId : String) (h : (cancelledCalls i).executes = some runId) :
      i = 2 := by
    match i with
    | 2 => rfl
    | 0 => cases h
    | 1 => cases h
    | 3 => cases h
  let created : List AsyncTask := [⟨.created, false⟩]
  let calling : List AsyncTask := created ++ [⟨.reading, false⟩, ⟨.calling, false⟩]
  let cancelled : List AsyncTask := calling ++ [⟨.calling, true⟩]
  let stored : List AsyncTask := cancelled ++ [⟨.persisting, false⟩, ⟨.finished, false⟩]
  have hrun : World.Run (Undisturbed cancelledCalls)
      (serviceWorld { usesQueue := false } plainCodec 0 cancelledCalls {})
      ((serviceWorld { usesQueue := false } plainCodec 0 cancelledCalls {}).runAll
        [0, 1, 1, 1, 1, 2, 2, 2, 3, 3, 2, 2, 3, 3]) := by
    -- The trip is created and its run submitted.
    refine .head (next_of_tasksAfter 0 rfl [] rfl (by decide)) ?_
    refine .head (next_of_tasksAfter 1 rfl [] rfl (by decide)) ?_
    refine .head (next_of_tasksAfter 1 rfl [] rfl (by decide)) ?_
    refine .head (next_of_tasksAfter 1 rfl created rfl (by decide)) ?_
    refine .head (next_of_tasksAfter 1 rfl created rfl (by decide)) ?_
    -- The task comes to its call.
    refine .head (next_of_tasksAfter 2 rfl created rfl (by decide)) ?_
    refine .head (next_of_tasksAfter 2 rfl (created ++ [⟨.reading, false⟩]) rfl (by decide)) ?_
    refine .head (next_of_tasksAfter 2 rfl calling rfl (by decide)) ?_
    -- It is cancelled there, and ends its run.
    refine .head (next_of_tasksAfter 3 rfl calling rfl (by decide)) ?_
    refine .head (next_of_tasksAfter 3 rfl cancelled rfl (by decide)) ?_
    refine .head (next_of_tasksAfter 2 rfl (cancelled ++ [⟨.persisting, false⟩]) rfl
      (by decide)) ?_
    refine .head (next_of_tasksAfter 2 rfl stored rfl (by decide)) ?_
    refine .head (next_of_tasksAfter 3 rfl stored rfl (by decide)) ?_
    refine .head (next_of_tasksAfter 3 rfl stored rfl (by decide)) ?_
    exact .refl
  refine ⟨by decide +kernel,
    noOrphans_of_undisturbed { usesQueue := false } 0 ⟨?_, ?_⟩ ?_ ⟨rfl, fun _ => rfl, ?_, ?_⟩ hrun⟩
  · exact fun i j runId hi hj => (hsubmits i runId hi).trans (hsubmits j runId hj).symm
  · exact fun i j runId hi hj => (hexecutes i runId hi).trans (hexecutes j runId hj).symm
  · intro i
    match i with
    | 0 => trivial
    | 1 => rfl
    | 2 => exact ⟨rfl, rfl⟩
    | 3 => rfl
  · rintro runId ⟨record, hrecord, _⟩
    cases hrecord
  · exact fun i runId _ h => h rfl

/-- Redis refuses the job of a run. -/
def refusedServiceCalls : Fin 2 → ServiceCall
  | 0 => .createTrip { trip := Sample.trip } ⟨"tenant", "user"⟩ "trip"
  | 1 => .startTripRun "trip" ⟨"tenant", "user"⟩ none
      { runId := "run", threadId := "thread", circumstances := { result := .error .cancelled }
        queueError := some (.raised "redis.exceptions" "ConnectionError") }

/-- A refused job, or a cancellation before the task has started, leaves a running record behind. -/
theorem exists_run_orphan :
    (∃ w, World.Run (fun _ _ _ => True)
        (serviceWorld { usesQueue := true } plainCodec 0 refusedServiceCalls {}) w ∧
      ¬NoOrphans plainCodec refusedServiceCalls w) ∧
    ∃ w, World.Run (fun _ _ _ => True)
        (serviceWorld { usesQueue := false } plainCodec 0 cancelledCalls {}) w ∧
      ¬NoOrphans plainCodec cancelledCalls w := by
  constructor
  · refine ⟨_, World.run_runAll _ [0, 1, 1, 1], fun h => ?_⟩
    have hstatus : (((serviceWorld { usesQueue := true } plainCodec 0 refusedServiceCalls
        {}).runAll [0, 1, 1, 1]).store.repository.runs.get? "run").map AgentRunRecord.status =
          some .running := by
      decide +kernel
    obtain ⟨record, hrecord, hrunning⟩ := Option.map_eq_some_iff.mp hstatus
    exact h.raised 1 _ _ _ _ (.raised "redis.exceptions" "ConnectionError") rfl rfl
      ⟨record, hrecord, hrunning⟩
  · refine ⟨_, World.run_runAll _ [0, 1, 1, 1, 1, 3, 3, 2, 2, 3, 3], fun h => ?_⟩
    have hstatus : (((serviceWorld { usesQueue := false } plainCodec 0 cancelledCalls
        {}).runAll [0, 1, 1, 1, 1, 3, 3, 2, 2, 3, 3]).store.repository.runs.get? "run").map
          AgentRunRecord.status = some .running := by
      decide +kernel
    obtain ⟨record, hrecord, hrunning⟩ := Option.map_eq_some_iff.mp hstatus
    exact (h.cancelled 3 "run" _ _ _ rfl rfl).2 ⟨record, hrecord, hrunning⟩
end TravelPlanAgent
