import TravelPlanAgent.Runs.Orphans
import TravelPlanAgent.Runs.Queue

/-!
# The idempotency key of a submission

`start_trip_run` stores the key of a request with the record of the run, and looks it up nowhere:
each submission is a run of its own.

* `ServiceCall.SameKey`: submissions of one principal for one trip with the same key.
* `KeyHonoured`: one handle and one planning for each key.
* `FirstUnderKey`: a step that stores no second run under a key.
* `KeyInv`, `Quiet`: what holds at any time, and the steps that do not touch it.
* `keyHonoured_of_first`: without a second run, by either backend, the key is honoured.
-/

namespace TravelPlanAgent

variable {β ι : Type}

/-! ## Submissions under a key -/

namespace ServiceCall

/-- The trip, the principal and the `Idempotency-Key` of a submission. -/
def submissionKey : ServiceCall → Option (String × Principal × Option String)
  | startTripRun tripId principal requestId _ => some (tripId, principal, requestId)
  | _ => none

/-- Two submissions of one principal for one trip carry the same key. -/
def SameKey (a b : ServiceCall) : Prop :=
  ∃ tripId principal key, a.submissionKey = some (tripId, principal, some key) ∧
    b.submissionKey = some (tripId, principal, some key)

/-- Redis does not refuse the job, if it is asked. -/
def Accepted (setup : ServiceSetup) : ServiceCall → Prop
  | startTripRun _ _ _ submission => setup.usesQueue = true → submission.queueError = none
  | _ => True

end ServiceCall

/-- The run whose call a note says was started. -/
def RunNote.started? : RunNote β → Option String
  | .started runId => some runId
  | _ => none

/-- The runs whose calls were started, in order. -/
def startedRuns (history : List (ι × RunNote β)) : List String :=
  history.filterMap fun n => n.2.started?

/-- What an idempotency key promises. -/
structure KeyHonoured (calls : ι → ServiceCall)
    (w : World ι (ServiceState β) (RunNote β) RunError ServiceAnswer) : Prop where
  /-- Submissions under one key that succeed return the same run. -/
  sameRun : ∀ i j handle handle', (calls i).SameKey (calls j) →
    (w.prog i).result? = some (.ok (.handle handle)) →
    (w.prog j).result? = some (.ok (.handle handle')) → handle.runId = handle'.runId
  /-- No run is planned twice. -/
  planned : (startedRuns w.history).Nodup
  /-- At most one run is planned under a key. -/
  plannedOnce : ∀ i j runId runId', (calls i).SameKey (calls j) →
    (calls i).submits = some runId → (calls j).submits = some runId' →
    runId ∈ startedRuns w.history → runId' ∈ startedRuns w.history → runId = runId'
  /-- Other submissions do not share a run. -/
  apart : ∀ i j handle handle', (calls i).submissionKey ≠ (calls j).submissionKey →
    (w.prog i).result? = some (.ok (.handle handle)) →
    (w.prog j).result? = some (.ok (.handle handle')) → handle.runId ≠ handle'.runId

/-- A step that stores no run under a key while another run is stored under it. -/
def FirstUnderKey (setup : ServiceSetup) (calls : ι → ServiceCall) (_ : ι)
    (before after : Seen ι (ServiceState β) (RunNote β)) : Prop :=
  ∀ i j runId runId', i ≠ j → (calls i).SameKey (calls j) → (calls i).Accepted setup →
    (calls j).Accepted setup → (calls i).submits = some runId → (calls j).submits = some runId' →
    HasRecord before.store runId' → ¬HasRecord before.store runId → ¬HasRecord after.store runId

/-! ## What holds at any time -/

/-- What holds of keys and plannings at any time. -/
structure KeyInv [DecidableEq ι] (setup : ServiceSetup) (calls : ι → ServiceCall)
    (seen : Seen ι (ServiceState β) (RunNote β)) : Prop where
  alone : ∀ i j runId runId', (calls i).SameKey (calls j) → (calls i).Accepted setup →
    (calls j).Accepted setup → (calls i).submits = some runId → (calls j).submits = some runId' →
    HasRecord seen.store runId → HasRecord seen.store runId' → i = j
  stored : ∀ i runId, (i, .started runId) ∈ seen.history → HasRecord seen.store runId
  single : ∀ i, ((seen.own i).filterMap RunNote.started?).length ≤ 1
  queued : ∀ i payload, (i, .enqueued payload) ∈ seen.history →
    setup.usesQueue = true ∧ (calls i).Accepted setup
  tasks : ∀ runId, seen.store.tasks runId ≠ none → setup.usesQueue = false
  executed : ∀ i runId, (i, .started runId) ∈ seen.history → (calls i).executes = some runId →
    setup.usesQueue = false

section Steps

variable [DecidableEq ι] (setup : ServiceSetup) (calls : ι → ServiceCall) (i : ι)
  (seen : Seen ι (ServiceState β) (RunNote β)) (store : ServiceState β) (notes : List (RunNote β))

/-- What a step of the call `i` has to do for this. -/
structure KeyStep : Prop where
  recorded : ∀ runId, HasRecord seen.store runId → HasRecord store runId
  /-- The step stores one run at most. -/
  created : ∀ runId runId', ¬HasRecord seen.store runId → HasRecord store runId →
    ¬HasRecord seen.store runId' → HasRecord store runId' → runId = runId'
  tasks : ∀ runId, store.tasks runId ≠ none → seen.store.tasks runId ≠ none ∨
    setup.usesQueue = false
  queued : ∀ payload, .enqueued payload ∈ notes →
    setup.usesQueue = true ∧ (calls i).Accepted setup
  started : ∀ runId, .started runId ∈ notes → HasRecord store runId ∧
    ((calls i).executes = some runId → setup.usesQueue = false)
  single : (notes.filterMap RunNote.started?).length ≤ 1 ∧
    (notes.filterMap RunNote.started? = [] ∨ (seen.own i).filterMap RunNote.started? = [])

variable {setup calls i seen store notes}

/-- Such a step keeps the invariant, if it stores no second run under a key. -/
theorem KeyStep.inv (h : KeyStep setup calls i seen store notes) (hdistinct : DistinctRuns calls)
    (hinv : KeyInv setup calls seen)
    (hfirst : FirstUnderKey setup calls i seen (seen.after i store notes)) :
    KeyInv setup calls (seen.after i store notes) := by
  have hsplit {j : ι} {n : RunNote β} (hn : (j, n) ∈ seen.history ++ notes.map (Prod.mk i)) :
      (j, n) ∈ seen.history ∨ j = i ∧ n ∈ notes := by
    simpa [eq_comm, and_comm] using hn
  have hsymm {j k : ι} (hkey : (calls j).SameKey (calls k)) : (calls k).SameKey (calls j) := by
    obtain ⟨tripId, principal, key, hj, hk⟩ := hkey
    exact ⟨tripId, principal, key, hk, hj⟩
  constructor
  · intro j k runId runId' hkey hj hk hsubmits hsubmits' hrecorded hrecorded'
    by_contra hne
    by_cases hold : HasRecord seen.store runId
    · by_cases hold' : HasRecord seen.store runId'
      · exact hne (hinv.alone j k runId runId' hkey hj hk hsubmits hsubmits' hold hold')
      · exact hfirst k j runId' runId (Ne.symm hne) (hsymm hkey) hk hj hsubmits' hsubmits hold hold'
          hrecorded'
    · by_cases hold' : HasRecord seen.store runId'
      · exact hfirst j k runId runId' hne hkey hj hk hsubmits hsubmits' hold' hold hrecorded
      · obtain rfl := h.created runId runId' hold hrecorded hold' hrecorded'
        exact hne (hdistinct.submits j k runId hsubmits hsubmits')
  · intro j runId hn
    obtain hold | ⟨rfl, hnew⟩ := hsplit hn
    · exact h.recorded runId (hinv.stored j runId hold)
    · exact (h.started runId hnew).1
  · intro j
    by_cases hj : i = j
    · subst hj
      rw [Seen.own_after, List.filterMap_append, List.length_append]
      obtain ⟨hlength, hnone | hnone⟩ := h.single
      · rw [hnone]
        exact hinv.single i
      · rw [hnone, List.length_nil, Nat.zero_add]
        exact hlength
    · rw [Seen.own_after_of_ne _ hj]
      exact hinv.single j
  · intro j payload hn
    obtain hold | ⟨rfl, hnew⟩ := hsplit hn
    · exact hinv.queued j payload hold
    · exact h.queued payload hnew
  · intro runId htask
    exact (h.tasks runId htask).elim (hinv.tasks runId) id
  · intro j runId hn hexecutes
    obtain hold | ⟨rfl, hnew⟩ := hsplit hn
    · exact hinv.executed j runId hold hexecutes
    · exact (h.started runId hnew).2 hexecutes

end Steps

/-! ## Programs -/

/-- Storing a final record neither adds a record nor takes one away. -/
theorem hasRecord_of_finalize {repository repository' : RunRepository} {final : AgentRunRecord}
    {events : List TraceEvent} (h : repository.finalize final events = .ok repository')
    (runId : String) :
    repository'.runs.get? runId ≠ none ↔ repository.runs.get? runId ≠ none := by
  have hcontains : repository.runs.get? final.runId ≠ none := by
    unfold RunRepository.finalize at h
    split at h
    · next hcontains => exact Option.isSome_iff_ne_none.mp hcontains
    · cases h
  rw [(RunRepository.finalize_eq_ok h).1, Dict.get?_set]
  split
  · next heq => exact iff_of_true (Option.some_ne_none _) (heq ▸ hcontains)
  · rfl

/-- A step that stores no new record and starts nothing. -/
structure Quiet (setup : ServiceSetup) (s s' : ServiceState β) (notes : List (RunNote β)) :
    Prop where
  records : ∀ runId, HasRecord s' runId ↔ HasRecord s runId
  tasks : setup.usesQueue = true → ∀ runId, s.tasks runId = none → s'.tasks runId = none
  started : ∀ runId, .started runId ∉ notes
  enqueued : ∀ payload, .enqueued payload ∉ notes

namespace Quiet

variable {setup : ServiceSetup} {s s' : ServiceState β}

/-- A step that changes neither records nor tasks. -/
theorem aside {notes : List (RunNote β)} (hrepository : s'.repository = s.repository)
    (htasks : s'.tasks = s.tasks) (hstarted : ∀ runId, .started runId ∉ notes)
    (henqueued : ∀ payload, .enqueued payload ∉ notes) : Quiet setup s s' notes := by
  refine ⟨fun runId => ?_, fun _ runId hnone => ?_, hstarted, henqueued⟩
  · rw [HasRecord, HasRecord, hrepository]
  · rw [htasks]
    exact hnone

theorem read {α : Type} (run : ServiceState β → Except RunError α) :
    (Prog.read run : Program β α).Always (Quiet setup) :=
  Prog.always_read fun _ => aside rfl rfl (fun _ => List.not_mem_nil) fun _ => List.not_mem_nil

theorem createTrip (process : ℕ) (request : PlanningRequest) (principal : Principal)
    (tripId : String) : (createTrip process request principal tripId : Program β _).Always
      (Quiet setup) :=
  Prog.always_perform fun _ => aside rfl rfl (fun _ => List.not_mem_nil) fun _ => List.not_mem_nil

theorem getRun (process : ℕ) (runId : String) (principal : Principal) :
    (getRun process runId principal : Program β _).Always (Quiet setup) := by
  refine (read _).bind fun found => ?_
  cases found with
  | some record => exact Prog.Always.bind trivial fun _ => trivial
  | none =>
    refine (read _).bind fun pending => ?_
    cases pending
    · trivial
    · exact (read _).bind fun _ => Prog.Always.bind trivial fun _ => trivial

/-- A worker has no task, and with the local tasks every task may move. -/
theorem moveTask {task : Option String} (htask : task = none ∨ setup.usesQueue = false)
    (hrecords : ∀ runId, HasRecord s' runId ↔ HasRecord s runId) (htasks : s'.tasks = s.tasks)
    (suspendedAt : Suspension) : Quiet setup s (s'.moveTask task suspendedAt) [] := by
  refine ⟨fun runId => ?_, fun hqueue runId hnone => ?_, fun _ => List.not_mem_nil,
    fun _ => List.not_mem_nil⟩
  · rw [HasRecord, ServiceState.repository_moveTask]
    exact hrecords runId
  · obtain rfl | hlocal := htask
    · exact (congrFun htasks runId).trans hnone
    · rw [hlocal] at hqueue
      cases hqueue

theorem persist {task : Option String} (htask : task = none ∨ setup.usesQueue = false)
    (circumstances : Circumstances) (final : AgentRunRecord) (events : List TraceEvent) :
    (persist task circumstances final events : Program β _).Always (Quiet setup) := by
  refine Prog.always_perform fun s => ?_
  have hstoring : (∀ runId, HasRecord (s.storing fun repository =>
      repository.finalize final events).2 runId ↔ HasRecord s runId) ∧
      (s.storing fun repository => repository.finalize final events).2.tasks = s.tasks := by
    obtain heq | ⟨repository, hfinalize, heq⟩ := s.storing_finalize final events
    · rw [heq]
      exact ⟨fun _ => Iff.rfl, rfl⟩
    · rw [heq]
      exact ⟨hasRecord_of_finalize hfinalize, rfl⟩
  unfold persistStep
  dsimp only
  split
  · split
    · exact moveTask htask hstoring.1 hstoring.2 _
    · exact moveTask htask (fun _ => Iff.rfl) rfl _
  · split
    · exact moveTask htask (fun _ => Iff.rfl) rfl _
    · exact moveTask htask hstoring.1 hstoring.2 _

theorem runCall {task : Option String} (htask : task = none ∨ setup.usesQueue = false)
    (previous : Option AgentRunRecord) (circumstances : Circumstances) (record : AgentRunRecord) :
    (runCall task previous circumstances record : Program β _).Always (Quiet setup) := by
  refine Prog.Always.bind (Prog.always_perform fun s => ?_) fun ended => ?_
  · exact moveTask htask (fun _ => Iff.rfl) rfl _
  · cases ended with
    | ok payload => exact (persist htask circumstances _ _).bind fun _ => trivial
    | error error => exact (persist htask circumstances _ _).bind fun _ => trivial

theorem dequeue (codec : JobCodec β) : (dequeue codec).Always (Quiet setup) := by
  refine Prog.Always.bind (Prog.always_perform fun s => ?_) fun payload => ?_
  · refine aside rfl rfl (fun runId hmem => ?_) fun payload hmem => ?_
    · cases hlast : s.redis.list.getLast? <;> simp [hlast] at hmem
    · cases hlast : s.redis.list.getLast? <;> simp [hlast] at hmem
  · cases payload with
    | none => trivial
    | some payload =>
      dsimp only
      cases codec.validate payload with
      | none => trivial
      | some job =>
        refine Prog.Always.bind (Prog.always_perform fun s => ?_) fun _ => trivial
        exact aside rfl rfl (fun _ => List.not_mem_nil) fun _ => List.not_mem_nil

theorem remove [DecidableEq β] (runId : String) :
    (remove runId : Program β Bool).Always (Quiet setup) := by
  refine (read _).bind fun payload => ?_
  cases payload with
  | none => trivial
  | some payload =>
    refine Prog.always_perform fun s => aside rfl rfl (fun runId hmem => ?_) fun payload hmem => ?_
    · cases List.mem_singleton.mp (List.mem_ite_nil_right.mp hmem).2
    · cases List.mem_singleton.mp (List.mem_ite_nil_right.mp hmem).2

theorem finalizeCancelled (runId : String) (record : AgentRunRecord)
    (circumstances : Circumstances) :
    (finalizeCancelled runId record circumstances : Program β Unit).Always (Quiet setup) := by
  refine Prog.always_perform fun s => ?_
  have hnotes {condition : Prop} [Decidable condition] {n : RunNote β}
      (hmem : n ∈ if condition then [RunNote.cancelledInQueue record.runId] else []) :
      n = .cancelledInQueue record.runId :=
    List.mem_singleton.mp (List.mem_ite_nil_right.mp hmem).2
  cases circumstances.persistError with
  | some error =>
    exact aside rfl rfl (fun _ hmem => nomatch hnotes hmem) fun _ hmem => nomatch hnotes hmem
  | none =>
    obtain heq | ⟨repository, hfinalize, heq⟩ := s.storing_finalize
      (cancelledRecord record circumstances.endedAt)
      [{ runId, sequence := 1, eventType := .runCancelled, status := "cancelled" }]
    · refine aside ?_ ?_ (fun _ hmem => nomatch hnotes hmem) fun _ hmem => nomatch hnotes hmem
      · exact congrArg ServiceState.repository heq
      · exact congrArg ServiceState.tasks heq
    · refine ⟨fun runId => ?_, fun _ runId hnone => ?_, (fun _ hmem => nomatch hnotes hmem),
        fun _ hmem => nomatch hnotes hmem⟩
      · dsimp only
        rw [heq]
        exact hasRecord_of_finalize hfinalize runId
      · dsimp only
        rw [heq]
        exact hnone

/-- A cancellation that is requested creates no task. -/
theorem requestCancel (s : ServiceState β) (runId : String) :
    Quiet setup s (s.requestCancel runId) [] := by
  unfold ServiceState.requestCancel
  split
  · exact aside rfl rfl (fun _ => List.not_mem_nil) fun _ => List.not_mem_nil
  next task htask =>
  split
  · exact aside rfl rfl (fun _ => List.not_mem_nil) fun _ => List.not_mem_nil
  · refine ⟨fun _ => Iff.rfl, fun _ other hnone => ?_, fun _ => List.not_mem_nil,
      fun _ => List.not_mem_nil⟩
    have hne : other ≠ runId := by
      rintro rfl
      rw [htask] at hnone
      cases hnone
    exact (Function.update_of_ne hne _ _).trans hnone

theorem cancelRun [DecidableEq β] (process : ℕ) (runId : String) (principal : Principal)
    (circumstances : Circumstances) :
    (cancelRun setup process runId principal circumstances : Program β _).Always
      (Quiet setup) := by
  refine (getRun process runId principal).bind fun record => ?_
  split
  · trivial
  refine Prog.Always.bind (Prog.always_perform fun s => ?_) fun owned => ?_
  · split
    · exact requestCancel s runId
    · exact aside rfl rfl (fun _ => List.not_mem_nil) fun _ => List.not_mem_nil
  · cases owned with
    | true =>
      refine Prog.Always.bind (fun s => ⟨?_, trivial⟩) fun _ => getRun process runId principal
      exact aside rfl rfl (fun _ => List.not_mem_nil) fun _ => List.not_mem_nil
    | false =>
      have hrest (removed : Bool) : (if removed then (do
            TravelPlanAgent.finalizeCancelled runId record circumstances
            return cancelledRecord record circumstances.endedAt)
          else throw .conflict : Program β AgentRunRecord).Always (Quiet setup) := by
        cases removed with
        | true => exact (finalizeCancelled runId record circumstances).bind fun _ => trivial
        | false => trivial
      cases setup.usesQueue with
      | true => exact (remove runId).bind fun removed => hrest removed
      | false => exact hrest false

/-- A task that is resumed starts nothing unless its answer says so. -/
theorem resumeTask {α : Type} {task : Option String}
    (htask : task = none ∨ setup.usesQueue = false) (answer : ServiceState β → Except RunError α)
    (arrive : Except RunError α → Suspension) :
    (resumeTask task answer arrive fun _ => [] : Program β α).Always (Quiet setup) :=
  Prog.always_perform fun _ => moveTask htask (fun _ => Iff.rfl) rfl _

theorem starts_nil {notes : List (RunNote β)} (h : Quiet setup s s' notes) :
    notes.filterMap RunNote.started? = [] := by
  refine List.filterMap_eq_nil_iff.mpr fun n hn => ?_
  cases n with
  | started runId => exact absurd hn (h.started runId)
  | _ => rfl

theorem keyStep [DecidableEq ι] {calls : ι → ServiceCall} {i : ι}
    {seen : Seen ι (ServiceState β) (RunNote β)} {notes : List (RunNote β)}
    (h : Quiet setup seen.store s' notes) : KeyStep setup calls i seen s' notes := by
  constructor
  · exact fun runId => (h.records runId).mpr
  · exact fun runId _ hold hnew => absurd ((h.records runId).mp hnew) hold
  · intro runId htask
    cases hqueue : setup.usesQueue with
    | false => exact .inr rfl
    | true => exact .inl fun hnone => htask (h.tasks hqueue runId hnone)
  · exact fun payload hmem => absurd hmem (h.enqueued payload)
  · exact fun runId hmem => absurd hmem (h.started runId)
  · rw [h.starts_nil]
    exact ⟨Nat.zero_le 1, .inl rfl⟩

end Quiet

/-! ## Programs that keep the invariant -/

section Meets

variable [DecidableEq ι] {setup : ServiceSetup} {calls : ι → ServiceCall} {i : ι}
  {hdistinct : DistinctRuns calls} {seen now : Seen ι (ServiceState β) (RunNote β)} {α γ : Type}
  {post : Except RunError α → Seen ι (ServiceState β) (RunNote β) → Prop}

/-- The discipline of the keys: records stay, and no second run is stored under a key. -/
def keyDiscipline (setup : ServiceSetup) (calls : ι → ServiceCall) :
    Discipline ι (ServiceState β) (RunNote β) where
  inv := KeyInv setup calls
  guar i a b := (∀ j, i ≠ j → b.own j = a.own j) ∧
    ∀ runId, HasRecord a.store runId → HasRecord b.store runId
  rely j a b := b.own j = a.own j ∧ ∀ runId, HasRecord a.store runId → HasRecord b.store runId
  may := FirstUnderKey setup calls
  rely_refl _ _ := ⟨rfl, fun _ => id⟩
  rely_trans _ _ _ _ hab hbc := ⟨hbc.1.trans hab.1, fun runId => hbc.2 runId ∘ hab.2 runId⟩
  rely_of_guar _ j hij _ _ _ _ h := ⟨h.1 j hij, h.2⟩

namespace Keys

/-- The runs whose calls a call has started. -/
def startsOf (seen : Seen ι (ServiceState β) (RunNote β)) (i : ι) : List String :=
  (seen.own i).filterMap RunNote.started?

/-- A step that keeps the invariant, and the program that follows it. -/
theorem meets_perform_bind (hdistinct : DistinctRuns calls)
    {run : ServiceState β → Except RunError γ × ServiceState β}
    {notes : ServiceState β → List (RunNote β)} {f : γ → Program β α}
    (h : ∀ now, (keyDiscipline setup calls).rely i seen now → KeyInv setup calls now →
      KeyStep setup calls i now (run now.store).2 (notes now.store) ∧
      ((.done (run now.store).1 : Program β γ) >>= f).Meets (keyDiscipline setup calls) i post
        (now.after i (run now.store).2 (notes now.store))) :
    (Prog.perform run notes >>= f).Meets (keyDiscipline setup calls) i post seen := by
  refine Prog.meets_perform_bind fun now hrely hinv hmay => ?_
  obtain ⟨hstep, hrest⟩ := h now hrely hinv
  exact ⟨hstep.inv hdistinct hinv hmay,
    ⟨fun j hij => now.own_after_of_ne hij _ _, hstep.recorded⟩, hrest⟩

/-- Quiet steps start nothing, and records stay. -/
theorem meets_of_quiet (hdistinct : DistinctRuns calls) {p : Program β α}
    (h : p.Always (Quiet setup)) :
    p.Meets (keyDiscipline setup calls) i
      (fun _ now => startsOf now i = startsOf seen i ∧
        ∀ runId, HasRecord seen.store runId → HasRecord now.store runId) seen := by
  suffices hall : ∀ now : Seen ι (ServiceState β) (RunNote β), startsOf now i = startsOf seen i →
      (∀ runId, HasRecord seen.store runId → HasRecord now.store runId) →
      p.Meets (keyDiscipline setup calls) i
        (fun _ now => startsOf now i = startsOf seen i ∧
          ∀ runId, HasRecord seen.store runId → HasRecord now.store runId) now from
    hall seen rfl fun _ => id
  induction p with
  | done result =>
    intro now hstarts hrecords last hlast _
    refine ⟨?_, fun runId hrecord => hlast.2 runId (hrecords runId hrecord)⟩
    rw [startsOf, hlast.1]
    exact hstarts
  | step ready change notes next ih =>
    intro now hstarts hrecords later hlater hinv _ hmay
    obtain ⟨hquiet, hnext⟩ := h later.store
    have hstep : KeyStep setup calls i later (change later.store) (notes later.store) :=
      hquiet.keyStep
    refine ⟨hstep.inv hdistinct hinv hmay,
      ⟨fun j hij => later.own_after_of_ne hij _ _, hstep.recorded⟩, ih _ hnext _ ?_ ?_⟩
    · rw [startsOf, Seen.own_after, List.filterMap_append, hquiet.starts_nil, List.append_nil,
        hlater.1]
      exact hstarts
    · exact fun runId hrecord => hstep.recorded runId (hlater.2 runId (hrecords runId hrecord))

/-- The call of a reserved run is started once. -/
theorem meets_openReserved (hdistinct : DistinctRuns calls) {task : Option String}
    (htask : task = none ∨ setup.usesQueue = false) {runId : String}
    (hexecutes : (calls i).executes = some runId → setup.usesQueue = false)
    (circumstances : Circumstances) (hstarts : startsOf seen i = []) :
    (openReserved task runId circumstances : Program β _).Meets (keyDiscipline setup calls) i
      (fun _ _ => True) seen := by
  intro now hnow hinv _ hmay
  suffices hstep : KeyStep setup calls i now _ _ from
    ⟨hstep.inv hdistinct hinv hmay, ⟨fun j hij => now.own_after_of_ne hij _ _, hstep.recorded⟩,
      fun _ _ _ => trivial⟩
  have hquiet (next : Suspension) : Quiet setup now.store (now.store.moveTask task next) [] :=
    .moveTask htask (fun _ => Iff.rfl) rfl next
  dsimp only
  split
  · exact (hquiet _).keyStep
  · cases hreserved : reservedRecord runId circumstances now.store with
    | error error => exact (hquiet _).keyStep
    | ok record =>
      have hstep : KeyStep setup calls i now (now.store.moveTask task .calling) [] :=
        (hquiet .calling).keyStep
      refine ⟨hstep.recorded, hstep.created, hstep.tasks, ?_, ?_, ?_⟩
      · intro payload hmem
        cases List.mem_singleton.mp hmem
      · intro other hmem
        obtain rfl := RunNote.started.inj (List.mem_singleton.mp hmem)
        refine ⟨?_, hexecutes⟩
        rw [HasRecord, ServiceState.repository_moveTask, (reservedRecord_eq_ok hreserved).1]
        exact Option.some_ne_none record
      · refine ⟨Nat.le_refl 1, .inr ?_⟩
        rw [hnow.1]
        exact hstarts

/-- An execution starts the call of its run once. -/
theorem meets_executePlan (hdistinct : DistinctRuns calls) {task : Option String}
    (htask : task = none ∨ setup.usesQueue = false) {runId : String}
    (hexecutes : (calls i).executes = some runId → setup.usesQueue = false) (threadId : String)
    (principal : Principal) (circumstances : Circumstances) (hstarts : startsOf seen i = [])
    (hinv : KeyInv setup calls seen) :
    (executePlan setup task runId threadId principal circumstances : Program β _).Meets
      (keyDiscipline setup calls) i (fun _ _ => True) seen :=
  (meets_openReserved hdistinct htask hexecutes circumstances hstarts).bind
    (fun record _ _ _ => (meets_of_quiet hdistinct
      (Quiet.runCall htask none circumstances record)).mono fun _ _ _ _ => trivial)
    (fun _ _ _ _ => trivial) hinv

/-- A worker starts the call of one run at most. -/
theorem meets_workerTurn (hdistinct : DistinctRuns calls) (codec : JobCodec β)
    {circumstances : Circumstances} (hcall : calls i = .workerTurn circumstances)
    (hstarts : startsOf seen i = []) (hinv : KeyInv setup calls seen) :
    (workerTurn setup codec circumstances).Meets (keyDiscipline setup calls) i (fun _ _ => True)
      seen := by
  have hexecutes (runId : String) (h : (calls i).executes = some runId) :
      setup.usesQueue = false := by
    rw [hcall] at h
    cases h
  unfold workerTurn
  refine (meets_of_quiet hdistinct (Quiet.dequeue codec)).bind ?_ (fun _ _ _ _ => trivial) hinv
  rintro job now hinv ⟨hnow, _⟩
  cases job with
  | none => exact Prog.meets_done fun _ _ _ => trivial
  | some job =>
    have hturn : (executePlan setup none job.runId job.threadId job.principal circumstances >>=
        fun _ => pure () : Program β Unit).Meets (keyDiscipline setup calls) i (fun _ _ => True)
          now :=
      (meets_executePlan hdistinct (.inl rfl) (hexecutes job.runId) _ _ circumstances
        (hnow.trans hstarts) hinv).map
    exact hturn.tryCatch (fun _ _ _ _ => trivial)
      (fun _ _ _ _ => Prog.meets_done fun _ _ _ => trivial) hinv

/-- A task starts the call of its run once, and only tasks are created without a queue. -/
theorem meets_backgroundTask (hdistinct : DistinctRuns calls) (principal : Principal)
    (submission : Submission) (hstarts : startsOf seen i = []) :
    (backgroundTask setup principal submission : Program β _).Meets (keyDiscipline setup calls) i
      (fun _ _ => True) seen := by
  unfold backgroundTask
  refine Prog.meets_waitFor_bind (fun now _ => ⟨fun _ _ => rfl, fun _ => id⟩)
    fun now hnow hinv hready => ?_
  have hlocal : setup.usesQueue = false :=
    hinv.tasks submission.runId (Option.isSome_iff_ne_none.mp hready)
  have hstarts : startsOf now i = [] := by
    rw [startsOf, hnow.1]
    exact hstarts
  refine (meets_of_quiet hdistinct (Quiet.resumeTask (.inr hlocal) _ _)).bind ?_
    (fun _ _ _ _ => trivial) hinv
  rintro _ later hinv ⟨hlater, _⟩
  exact (meets_executePlan hdistinct (.inr hlocal) (fun _ => hlocal) _ _ submission.circumstances
    (hlater.trans hstarts) hinv).bind (fun _ _ _ _ => Prog.meets_done fun _ _ _ => trivial)
    (fun _ _ _ _ => trivial) hinv

/-- The record of a new run is stored. -/
theorem keyStep_put (record : AgentRunRecord) :
    KeyStep setup calls i now
      { now.store with repository := now.store.repository.put record } [] := by
  have hget (runId : String) : HasRecord { now.store with
      repository := now.store.repository.put record } runId ↔
      runId = record.runId ∨ HasRecord now.store runId := by
    rw [HasRecord, RunRepository.get?_put]
    split
    · next heq => exact iff_of_true (Option.some_ne_none record) (.inl heq)
    · next hne => exact (or_iff_right hne).symm
  constructor
  · exact fun runId hrecord => (hget runId).mpr (.inr hrecord)
  · intro runId runId' hold hnew hold' hnew'
    rw [((hget runId).mp hnew).resolve_right hold, ((hget runId').mp hnew').resolve_right hold']
  · exact fun runId htask => .inl htask
  · exact fun _ hmem => absurd hmem List.not_mem_nil
  · exact fun _ hmem => absurd hmem List.not_mem_nil
  · exact ⟨Nat.zero_le 1, .inl rfl⟩

/-- How a submission that succeeds ends: its run is stored, and was not refused. -/
def SubmittedRun (setup : ServiceSetup) (calls : ι → ServiceCall) (i : ι) (runId : String)
    (result : Except RunError RunHandle) (now : Seen ι (ServiceState β) (RunNote β)) : Prop :=
  ∀ handle, result = .ok handle → handle.runId = runId ∧ HasRecord now.store runId ∧
    (calls i).Accepted setup

theorem submittedRun_error (runId : String) (error : RunError) :
    (.done (.error error) : Program β RunHandle).Meets (keyDiscipline setup calls) i
      (SubmittedRun setup calls i runId) now :=
  Prog.meets_done fun _ _ _ _ => (nomatch ·)

/-- The handle of a run that is stored. -/
theorem submittedRun_handle {runId : String} {handle : RunHandle} (hrunId : handle.runId = runId)
    (hrecord : HasRecord now.store runId) (haccepted : (calls i).Accepted setup) :
    (.done (.ok handle) : Program β RunHandle).Meets (keyDiscipline setup calls) i
      (SubmittedRun setup calls i runId) now := by
  refine Prog.meets_done fun last hlast _ other hother => ?_
  obtain rfl := Except.ok.inj hother
  exact ⟨hrunId, hlast.2 runId hrecord, haccepted⟩

/-- A submission that succeeds has stored its run, and was not refused. -/
theorem meets_startTripRun (hdistinct : DistinctRuns calls) (codec : JobCodec β) (process : ℕ)
    {tripId : String} {principal : Principal} {requestId : Option String}
    {submission : Submission}
    (hcall : calls i = .startTripRun tripId principal requestId submission)
    (hinv : KeyInv setup calls seen) :
    (startTripRun setup codec process tripId principal requestId submission).Meets
      (keyDiscipline setup calls) i (SubmittedRun setup calls i submission.runId) seen := by
  unfold startTripRun
  refine (meets_of_quiet hdistinct (Quiet.read _)).bind ?_ (fun _ _ _ _ _ => (nomatch ·)) hinv
  rintro trip now hinv _
  unfold reservePlanRun reserve
  refine meets_perform_bind hdistinct fun now hnow hinv => ?_
  have hunchanged : KeyStep setup calls i now now.store [] :=
    (Quiet.aside rfl rfl (fun _ => List.not_mem_nil) fun _ => List.not_mem_nil).keyStep
  dsimp only
  cases submission.circumstances.createError with
  | some error => exact ⟨hunchanged, submittedRun_error _ error⟩
  | none =>
    dsimp only
    unfold ServiceState.storing
    split
    next repository hcreate =>
      obtain ⟨_, rfl⟩ := RunRepository.create_eq_ok hcreate
      refine ⟨keyStep_put _, ?_⟩
      rw [Prog.done_ok_bind]
      have hrecord (record : AgentRunRecord) (heq : record.runId = submission.runId) :
          HasRecord { now.store with repository := now.store.repository.put record }
            submission.runId := by
        rw [HasRecord, RunRepository.get?_put, if_pos heq.symm]
        exact Option.some_ne_none record
      generalize hreserved : Seen.after now i _ _ = reserved
      have hrecord : HasRecord reserved.store submission.runId := by
        rw [← hreserved]
        exact hrecord _ rfl
      cases hqueue : setup.usesQueue with
      | true =>
        change (enqueue codec submission.queueError _ >>= _).Meets _ _ _ _
        unfold enqueue
        cases herror : submission.queueError with
        | some error =>
          refine meets_perform_bind hdistinct fun later _ _ => ⟨?_, submittedRun_error _ error⟩
          exact (Quiet.aside rfl rfl (fun _ => List.not_mem_nil) fun _ => List.not_mem_nil).keyStep
        | none =>
          have haccepted : (calls i).Accepted setup := by
            rw [hcall]
            exact fun _ => herror
          refine meets_perform_bind hdistinct fun later hlater _ => ⟨?_, ?_⟩
          · refine ⟨fun _ => id, fun _ _ hold hnew => absurd hnew hold, fun _ => .inl,
              fun _ _ => ⟨hqueue, haccepted⟩, fun _ hmem => ?_, Nat.zero_le 1, .inl rfl⟩
            cases List.mem_singleton.mp hmem
          · exact submittedRun_handle rfl (hlater.2 _ hrecord) haccepted
      | false =>
        have haccepted : (calls i).Accepted setup := by
          rw [hcall]
          intro htrue
          rw [hqueue] at htrue
          cases htrue
        refine meets_perform_bind hdistinct fun later hlater _ => ⟨?_, ?_⟩
        · exact ⟨fun _ => id, fun _ _ hold hnew => absurd hnew hold, fun _ _ => .inr hqueue,
            fun _ hmem => absurd hmem List.not_mem_nil, fun _ hmem => absurd hmem List.not_mem_nil,
            Nat.zero_le 1, .inl rfl⟩
        · refine meets_perform_bind hdistinct fun last hlast _ => ⟨?_, ?_⟩
          · refine Quiet.keyStep (.aside rfl rfl ?_ ?_)
            · exact fun _ => List.not_mem_nil
            · exact fun _ => List.not_mem_nil
          · exact submittedRun_handle rfl (hlast.2 _ (hlater.2 _ hrecord)) haccepted
    next error _ => exact ⟨hunchanged, submittedRun_error _ error⟩

/-- What a call has done when it returns a handle. -/
def HandleStored (setup : ServiceSetup) (calls : ι → ServiceCall) (i : ι)
    (result : Except RunError ServiceAnswer) (now : Seen ι (ServiceState β) (RunNote β)) : Prop :=
  ∀ handle, result = .ok (.handle handle) → ∃ runId, (calls i).submits = some runId ∧
    handle.runId = runId ∧ HasRecord now.store runId ∧ (calls i).Accepted setup

/-- Every call keeps the invariant of the keys. -/
theorem meets_serviceCall [DecidableEq β] (codec : JobCodec β) (process : ℕ)
    (hdistinct : DistinctRuns calls) {s : ServiceState β}
    (hinv : KeyInv setup calls (⟨s, []⟩ : Seen ι (ServiceState β) (RunNote β))) (i : ι) :
    ((calls i).program setup codec process).Meets (keyDiscipline setup calls) i
      (HandleStored setup calls i) ⟨s, []⟩ := by
  cases hcall : calls i with
  | createTrip request principal tripId =>
    refine ((meets_of_quiet hdistinct
      (Quiet.createTrip process request principal tripId)).mono ?_).map
    intro result now _ _ handle hhandle
    cases result <;> cases hhandle
  | startTripRun tripId principal requestId submission =>
    refine ((meets_startTripRun hdistinct codec process hcall hinv).mono ?_).map
    intro result now _ hsubmitted handle hhandle
    cases result with
    | error error => cases hhandle
    | ok other =>
      obtain rfl := ServiceAnswer.handle.inj (Except.ok.inj hhandle)
      exact ⟨submission.runId, by rw [hcall]; rfl, hsubmitted other rfl⟩
  | backgroundTask principal submission =>
    refine ((meets_backgroundTask hdistinct principal submission rfl).mono ?_).map
    intro result now _ _ handle hhandle
    cases result <;> cases hhandle
  | cancelRun runId principal circumstances =>
    refine ((meets_of_quiet hdistinct
      (Quiet.cancelRun process runId principal circumstances)).mono ?_).map
    intro result now _ _ handle hhandle
    cases result <;> cases hhandle
  | workerTurn circumstances =>
    refine ((meets_workerTurn hdistinct codec hcall rfl hinv).mono ?_).map
    intro result now _ _ handle hhandle
    cases result <;> cases hhandle

end Keys

/-- Every call keeps the queue. -/
theorem meets_queue [DecidableEq β] (codec : JobCodec β) (process : ℕ)
    (hdistinct : DistinctRuns calls) {s : ServiceState β}
    (hinv : QueueInv codec (fun i => (calls i).submits) (fun i => (calls i).executes)
      (⟨s, []⟩ : Seen ι (ServiceState β) (RunNote β))) (i : ι) :
    ((calls i).program setup codec process).Meets
      (queueDiscipline codec (fun i => (calls i).submits) fun i => (calls i).executes) i
      (fun _ _ => True) ⟨s, []⟩ := by
  cases hcall : calls i with
  | createTrip request principal tripId =>
    have haside : (createTrip process request principal tripId : Program β _).Always AsideRedis :=
      Prog.always_perform fun _ => ⟨rfl, rfl⟩
    exact ((meets_of_asideRedis haside).mono fun _ _ _ _ => trivial).map
  | startTripRun tripId principal requestId submission =>
    exact (meets_startTripRun hdistinct.submits setup process tripId principal requestId
      (by rw [hcall]; rfl) rfl hinv).map
  | backgroundTask principal submission =>
    have hexecutes : (calls i).executes = some submission.runId := by rw [hcall]; rfl
    have hresume : (resumeTask (some submission.runId) (fun _ => .ok ())
        (fun outcome => if outcome.toOption.isSome then .reading else .finished) fun _ => [] :
        Program β Unit).Always AsideRedis :=
      Prog.always_perform fun s => ⟨s.redis_moveTask _ _, rfl⟩
    have htask : (backgroundTask setup principal submission : Program β _).Meets
        (queueDiscipline codec (fun i => (calls i).submits) fun i => (calls i).executes) i
        (fun _ _ => True) ⟨s, []⟩ := by
      unfold backgroundTask
      refine Prog.meets_waitFor_bind (fun _ _ _ _ => rfl) fun now _ hinv _ => ?_
      refine (meets_of_asideRedis hresume).bind ?_ (fun _ _ _ _ => trivial) hinv
      intro _ later hinv _
      refine (meets_executePlan setup _ _ _ _ ?_ hinv).bind
        (fun _ _ _ _ => Prog.meets_done fun _ _ _ => trivial) (fun _ _ _ _ => trivial) hinv
      exact .inr hexecutes
    exact htask.map
  | cancelRun runId principal circumstances =>
    exact (meets_cancelRun setup process runId principal circumstances (by simp [Seen.own])
      hinv).map
  | workerTurn circumstances =>
    exact (meets_workerTurn setup circumstances hinv).map

end Meets

/-! ## One planning for each key -/

section KeyHonoured

variable [DecidableEq ι] {setup : ServiceSetup} {codec : JobCodec β} {calls : ι → ServiceCall}

/-- The runs whose calls were started, and who started them. -/
def startedBy (history : List (ι × RunNote β)) : List (ι × String) :=
  history.filterMap fun n => n.2.started?.map (Prod.mk n.1)

omit [DecidableEq ι] in
theorem mem_startedBy {history : List (ι × RunNote β)} {i : ι} {runId : String} :
    (i, runId) ∈ startedBy history ↔ (i, .started runId) ∈ history := by
  constructor
  · intro hmem
    obtain ⟨⟨j, n⟩, hn, heq⟩ := List.mem_filterMap.mp hmem
    cases n with
    | started other =>
      cases heq
      exact hn
    | _ => cases heq
  · intro hmem
    exact List.mem_filterMap.mpr ⟨_, hmem, rfl⟩

omit [DecidableEq ι] in
theorem map_startedBy (history : List (ι × RunNote β)) :
    (startedBy history).map Prod.snd = startedRuns history := by
  rw [startedBy, startedRuns, List.map_filterMap]
  refine List.filterMap_congr fun n _ => ?_
  cases n.2.started? <;> rfl

theorem count_startedBy (seen : Seen ι (ServiceState β) (RunNote β)) (i : ι) :
    ((startedBy seen.history).map Prod.fst).count i =
      ((seen.own i).filterMap RunNote.started?).length := by
  unfold Seen.own
  generalize seen.history = history
  induction history with
  | nil => rfl
  | cons n history ih =>
    obtain ⟨j, n⟩ := n
    by_cases hj : j = i
    · subst hj
      cases hn : n.started? <;> simp_all [startedBy]
    · cases hn : n.started? <;> simp_all [startedBy]

/-- When each call has started one run at most, and no two calls the same, no run is started
twice. -/
theorem nodup_startedRuns {seen : Seen ι (ServiceState β) (RunNote β)}
    (hinv : KeyInv setup calls seen)
    (hexclusive : ∀ i j runId, (i, .started runId) ∈ seen.history →
      (j, .started runId) ∈ seen.history → i = j) : (startedRuns seen.history).Nodup := by
  have hcalls : ((startedBy seen.history).map Prod.fst).Nodup := by
    refine List.nodup_iff_count_le_one.mpr fun i => ?_
    rw [count_startedBy]
    exact hinv.single i
  rw [← map_startedBy]
  refine hcalls.of_map.map_on ?_
  rintro ⟨i, runId⟩ hi ⟨j, runId'⟩ hj rfl
  rw [hexclusive i j runId (mem_startedBy.mp hi) (mem_startedBy.mp hj)]

/-- A run that was started was popped by a worker, or its task has executed it: not both. -/
theorem started_once (hdistinct : DistinctRuns calls)
    {seen : Seen ι (ServiceState β) (RunNote β)} (hinv : KeyInv setup calls seen)
    (hqueue : QueueInv codec (fun i => (calls i).submits) (fun i => (calls i).executes) seen)
    {i j : ι} {runId : String} (hi : (i, .started runId) ∈ seen.history)
    (hj : (j, .started runId) ∈ seen.history) : i = j := by
  have hmixed {k l : ι} (hk : PoppedBy codec seen.history k runId)
      (hl : (l, .started runId) ∈ seen.history) (hexecutes : (calls l).executes = some runId) :
      False := by
    obtain ⟨job, _, hmem⟩ := hk
    obtain ⟨m, hm⟩ := hqueue.enqueued_of_taken hmem rfl
    have htrue := (hinv.queued m _ hm).1
    rw [hinv.executed l runId hl hexecutes] at htrue
    cases htrue
  obtain hpopped | hexecutes := hqueue.started i runId hi
  · obtain hpopped' | hexecutes' := hqueue.started j runId hj
    · obtain ⟨job, hjob, hmem⟩ := hpopped
      obtain ⟨job', hjob', hmem'⟩ := hpopped'
      exact congrArg Prod.fst
        (hqueue.taken_once hdistinct.submits hmem hmem' (hjob.trans hjob'.symm) rfl rfl)
    · exact (hmixed hpopped hj hexecutes').elim
  · obtain hpopped' | hexecutes' := hqueue.started j runId hj
    · exact (hmixed hpopped' hi hexecutes).elim
    · exact hdistinct.executes i j runId hexecutes hexecutes'

/-- A run that was started was submitted by a call that was not refused. -/
theorem accepted_of_started (hdistinct : DistinctRuns calls)
    {seen : Seen ι (ServiceState β) (RunNote β)} (hinv : KeyInv setup calls seen)
    (hqueue : QueueInv codec (fun i => (calls i).submits) (fun i => (calls i).executes) seen)
    {i j : ι} {runId : String} (hi : (calls i).submits = some runId)
    (hj : (j, .started runId) ∈ seen.history) : (calls i).Accepted setup := by
  obtain ⟨job, rfl, hmem⟩ | hexecutes := hqueue.started j runId hj
  · obtain ⟨k, hk⟩ := hqueue.enqueued_of_taken hmem rfl
    obtain ⟨other, hdump, hsubmits⟩ := hqueue.enqueued k _ hk
    obtain rfl := codec.dump_injective hdump
    obtain rfl := hdistinct.submits i k _ hi hsubmits
    exact (hinv.queued i _ hk).2
  · have hlocal := hinv.executed j runId hj hexecutes
    unfold ServiceCall.Accepted
    split
    · intro htrue
      rw [hlocal] at htrue
      cases htrue
    · trivial

/-- When no second run is stored under a key, the key is honoured by either backend. -/
theorem keyHonoured_of_first [DecidableEq β] (process : ℕ) (hdistinct : DistinctRuns calls)
    {s : ServiceState β} (hredis : s.redis = {}) (htasks : ∀ runId, s.tasks runId = none)
    (hnew : ∀ i runId, (calls i).submits = some runId → ¬HasRecord s runId)
    {w : World ι (ServiceState β) (RunNote β) RunError ServiceAnswer}
    (hrun : World.Run (FirstUnderKey setup calls) (serviceWorld setup codec process calls s) w) :
    KeyHonoured calls w := by
  have hkeys : KeyInv setup calls (⟨s, []⟩ : Seen ι (ServiceState β) (RunNote β)) := by
    constructor
    · exact fun i _ runId _ _ _ _ hi _ hrecord _ => absurd hrecord (hnew i runId hi)
    · exact fun _ _ hmem => absurd hmem List.not_mem_nil
    · exact fun _ => Nat.zero_le 1
    · exact fun _ _ hmem => absurd hmem List.not_mem_nil
    · exact fun runId htask => absurd (htasks runId) htask
    · exact fun _ _ hmem => absurd hmem List.not_mem_nil
  have hqueue : QueueInv codec (fun i => (calls i).submits) (fun i => (calls i).executes)
      (⟨s, []⟩ : Seen ι (ServiceState β) (RunNote β)) := by
    constructor <;> simp [hredis, takenOf, enqueuedOf]
  have hend : w.Disciplined (keyDiscipline setup calls) (Keys.HandleStored setup calls) :=
    World.Run.sound hrun ⟨hkeys, fun i => Keys.meets_serviceCall codec process hdistinct hkeys i⟩
  have hend' : w.Disciplined
      (queueDiscipline codec (fun i => (calls i).submits) fun i => (calls i).executes)
      fun _ _ _ => True :=
    World.Run.sound (hrun.mono fun _ _ _ _ => trivial)
      ⟨hqueue, fun i => meets_queue codec process hdistinct hqueue i⟩
  have hstored {i : ι} {handle : RunHandle}
      (h : (w.prog i).result? = some (.ok (.handle handle))) :=
    hend.post_of_result h handle rfl
  constructor
  · intro i j handle handle' hkey hi hj
    obtain ⟨_, hsubmits, rfl, hrecord, haccepted⟩ := hstored hi
    obtain ⟨_, hsubmits', rfl, hrecord', haccepted'⟩ := hstored hj
    obtain rfl := hend.inv.alone i j _ _ hkey haccepted haccepted' hsubmits hsubmits' hrecord
      hrecord'
    exact Option.some.inj (hsubmits.symm.trans hsubmits')
  · exact nodup_startedRuns hend.inv fun i j runId => started_once hdistinct hend.inv hend'.inv
  · intro i j runId runId' hkey hsubmits hsubmits' hstarted hstarted'
    rw [← map_startedBy] at hstarted hstarted'
    obtain ⟨⟨k, _⟩, hk, rfl⟩ := List.mem_map.mp hstarted
    obtain ⟨⟨k', _⟩, hk', rfl⟩ := List.mem_map.mp hstarted'
    have hk := mem_startedBy.mp hk
    have hk' := mem_startedBy.mp hk'
    obtain rfl := hend.inv.alone i j _ _ hkey
      (accepted_of_started hdistinct hend.inv hend'.inv hsubmits hk)
      (accepted_of_started hdistinct hend.inv hend'.inv hsubmits' hk') hsubmits hsubmits'
      (hend.inv.stored k _ hk) (hend.inv.stored k' _ hk')
    exact Option.some.inj (hsubmits.symm.trans hsubmits')
  · rintro i j handle handle' hkey hi hj hshared
    obtain ⟨_, hsubmits, rfl, _⟩ := hstored hi
    obtain ⟨_, hsubmits', rfl, _⟩ := hstored hj
    rw [hshared] at hsubmits
    exact hkey (congrArg _ (congrArg calls (hdistinct.submits i j _ hsubmits hsubmits')))

end KeyHonoured

/-- A trip is submitted under a key, its retry is refused by Redis, and a worker executes it. -/
def sampleKeyedCalls : Fin 4 → ServiceCall
  | 0 => .createTrip { trip := Sample.trip } ⟨"tenant", "user"⟩ "trip"
  | 1 => .startTripRun "trip" ⟨"tenant", "user"⟩ (some "key")
      { runId := "first", threadId := "thread", circumstances := { result := .error .cancelled } }
  | 2 => .startTripRun "trip" ⟨"tenant", "user"⟩ (some "key")
      { runId := "second", threadId := "thread", circumstances := { result := .error .cancelled }
        queueError := some (.raised "redis.exceptions" "ConnectionError") }
  | 3 => .workerTurn { result := .error .cancelled }

theorem keyHonoured_of_first_sample :
    KeyHonoured sampleKeyedCalls
      ((serviceWorld { usesQueue := true } plainCodec 0 sampleKeyedCalls {}).runAll
        [0, 1, 1, 2, 1, 2, 2, 3, 3, 3, 3, 3]) := by
  have hsubmits (i : Fin 4) (runId : String) (h : (sampleKeyedCalls i).submits = some runId) :
      i = if runId = "first" then 1 else 2 := by
    match i with
    | 0 => cases h
    | 1 =>
      obtain rfl := Option.some.inj h
      rfl
    | 2 =>
      obtain rfl := Option.some.inj h
      rfl
    | 3 => cases h
  have hdistinct : DistinctRuns sampleKeyedCalls := by
    constructor
    · exact fun i j runId hi hj => (hsubmits i runId hi).trans (hsubmits j runId hj).symm
    · intro i j runId hi hj
      match i with
      | 0 => cases hi
      | 1 => cases hi
      | 2 => cases hi
      | 3 => cases hi
  have haccepted (i : Fin 4) (tripId : String) (principal : Principal) (key : String)
      (hkey : (sampleKeyedCalls i).submissionKey = some (tripId, principal, some key))
      (h : (sampleKeyedCalls i).Accepted { usesQueue := true }) : i = 1 := by
    match i with
    | 0 => cases hkey
    | 1 => rfl
    | 2 => cases h rfl
    | 3 => cases hkey
  refine keyHonoured_of_first 0 hdistinct rfl (fun _ => rfl) (fun _ _ _ h => h rfl)
    ((World.run_runAll _ _).mono fun _ before after _ => ?_)
  rintro i j runId runId' hne ⟨tripId, principal, key, hi, hj⟩ hi' hj' _ _ _ _
  exact absurd ((haccepted i _ _ _ hi hi').trans (haccepted j _ _ _ hj hj').symm) hne

/-- A trip is submitted twice under one key. -/
def retriedCalls : Fin 3 → ServiceCall
  | 0 => .createTrip { trip := Sample.trip } ⟨"tenant", "user"⟩ "trip"
  | 1 => .startTripRun "trip" ⟨"tenant", "user"⟩ (some "key")
      { runId := "first", threadId := "thread", circumstances := { result := .error .cancelled } }
  | 2 => .startTripRun "trip" ⟨"tenant", "user"⟩ (some "key")
      { runId := "second", threadId := "thread", circumstances := { result := .error .cancelled } }

/-- A retry after the first submission has succeeded is a run of its own, by either backend. -/
theorem exists_run_not_keyHonoured :
    (∃ w, World.Run (fun _ _ _ => True)
        (serviceWorld { usesQueue := true } plainCodec 0 retriedCalls {}) w ∧
      ¬KeyHonoured retriedCalls w) ∧
    ∃ w, World.Run (fun _ _ _ => True)
        (serviceWorld { usesQueue := false } plainCodec 0 retriedCalls {}) w ∧
      ¬KeyHonoured retriedCalls w := by
  have hkey : (retriedCalls 1).SameKey (retriedCalls 2) :=
    ⟨"trip", ⟨"tenant", "user"⟩, "key", rfl, rfl⟩
  constructor
  · refine ⟨_, World.run_runAll _ [0, 1, 1, 1, 2, 2, 2], fun h => ?_⟩
    have hrun := h.sameRun 1 2 _ _ hkey rfl rfl
    revert hrun
    decide
  · refine ⟨_, World.run_runAll _ [0, 1, 1, 1, 1, 2, 2, 2, 2], fun h => ?_⟩
    have hrun := h.sameRun 1 2 _ _ hkey rfl rfl
    revert hrun
    decide

end TravelPlanAgent
