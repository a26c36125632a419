import TravelPlanAgent.Planning.Agreement
import TravelPlanAgent.Runs.Service

/-!
# Every queued job is taken once

Any number of servers and workers put jobs into one queue and take them out.  The list and the
job key of a run are changed by commands that others come between.

* `QueueCall`: what servers and workers do with the queue; the key of a job may expire.
* `QueueInv`: the list and what was taken from it are, together, what was put into it.
* `meets_enqueue`, `meets_dequeue`, `meets_remove`, …: each program keeps the invariant.
* `queue_takenOnce`: no job is lost and none is taken twice, so that no run is both executed and
  cancelled in the queue.
-/

namespace TravelPlanAgent

variable {β ι : Type} [DecidableEq β] [DecidableEq ι]

/-! ## Servers and workers -/

/-- What a server or a worker does with the queue. -/
inductive QueueCall where
  | enqueue (job : RunJob)
  | dequeue
  | remove (runId : String)
  | createTrip (process : ℕ) (request : PlanningRequest) (principal : Principal) (tripId : String)
  | startTripRun (process : ℕ) (tripId : String) (principal : Principal)
      (requestId : Option String) (submission : Submission)
  | cancelRun (process : ℕ) (runId : String) (principal : Principal)
      (circumstances : Circumstances)
  | workerTurn (circumstances : Circumstances)
  | expireJobKey (runId : String)

/-- What a call answers, as far as the queue decides it. -/
inductive QueueAnswer where
  | unit
  | job (job : Option RunJob)
  | removed (taken : Bool)

namespace QueueCall

/-- The run id of the job that a call puts into the queue. -/
def jobId : QueueCall → Option String
  | enqueue job => some job.runId
  | startTripRun _ _ _ _ submission => some submission.runId
  | _ => none

/-- The program of a call. -/
def program (budget : TraceBudget) (codec : JobCodec β) : QueueCall → Program β QueueAnswer
  | enqueue job => do
    TravelPlanAgent.enqueue codec none job
    return .unit
  | dequeue => do return .job (← TravelPlanAgent.dequeue codec)
  | remove runId => do return .removed (← TravelPlanAgent.remove runId)
  | createTrip process request principal tripId => do
    let _ ← TravelPlanAgent.createTrip process request principal tripId
    return .unit
  | startTripRun process tripId principal requestId submission => do
    let _ ← TravelPlanAgent.startTripRun { budget, usesQueue := true } codec process tripId
      principal requestId submission
    return .unit
  | cancelRun process runId principal circumstances => do
    let _ ← TravelPlanAgent.cancelRun { budget, usesQueue := true } process runId principal
      circumstances
    return .unit
  | workerTurn circumstances => do
    TravelPlanAgent.workerTurn { budget, usesQueue := true } codec circumstances
    return .unit
  | expireJobKey runId => do
    TravelPlanAgent.expireJobKey runId
    return .unit

end QueueCall

/-- The jobs that are put into the queue have different run ids. -/
def DistinctJobs (calls : ι → QueueCall) : Prop :=
  ∀ i j runId, (calls i).jobId = some runId → (calls j).jobId = some runId → i = j

/-- Servers and workers before their first step. -/
def queueWorld (budget : TraceBudget) (codec : JobCodec β) (calls : ι → QueueCall)
    (s : ServiceState β) : World ι (ServiceState β) (RunNote β) RunError QueueAnswer :=
  ⟨⟨s, []⟩, fun i => (calls i).program budget codec⟩

/-! ## What was put in and what was taken -/

/-- The payload that a note says was put into the list. -/
def RunNote.enqueued? : RunNote β → Option β
  | .enqueued payload => some payload
  | _ => none

/-- The payload that a note says was taken from the list. -/
def RunNote.taken? : RunNote β → Option β
  | .popped payload => some payload
  | .removed payload => some payload
  | _ => none

/-- What was put into the list. -/
def enqueuedOf (history : List (ι × RunNote β)) : List β := history.filterMap fun n => n.2.enqueued?

/-- What was taken from the list. -/
def takenOf (history : List (ι × RunNote β)) : List β := history.filterMap fun n => n.2.taken?

/-- The job of a run was popped by the call `i`. -/
def PoppedBy (codec : JobCodec β) (history : List (ι × RunNote β)) (i : ι)
    (runId : String) : Prop :=
  ∃ job : RunJob, job.runId = runId ∧ (i, RunNote.popped (codec.dump job)) ∈ history

/-- The job of a run was removed by the call `i`. -/
def RemovedBy (codec : JobCodec β) (history : List (ι × RunNote β)) (i : ι) (runId : String) :
    Prop :=
  ∃ job : RunJob, job.runId = runId ∧ (i, RunNote.removed (codec.dump job)) ∈ history

/-- What holds of the queue at any time. -/
structure QueueInv (codec : JobCodec β) (jobId executes : ι → Option String)
    (seen : Seen ι (ServiceState β) (RunNote β)) : Prop where
  conserved : (seen.store.redis.list ++ takenOf seen.history).Perm (enqueuedOf seen.history)
  nodup : (enqueuedOf seen.history).Nodup
  enqueued : ∀ i payload, (i, .enqueued payload) ∈ seen.history →
    ∃ job : RunJob, payload = codec.dump job ∧ jobId i = some job.runId
  single : ∀ i payload payload', (i, .enqueued payload) ∈ seen.history →
    (i, .enqueued payload') ∈ seen.history → payload = payload'
  keys : ∀ runId payload, seen.store.redis.jobs runId = some payload →
    ∃ job : RunJob, payload = codec.dump job ∧ job.runId = runId
  started : ∀ i runId, (i, .started runId) ∈ seen.history →
    PoppedBy codec seen.history i runId ∨ executes i = some runId
  cancelled : ∀ i runId, (i, .cancelledInQueue runId) ∈ seen.history →
    RemovedBy codec seen.history i runId

/-! ## Steps that keep the invariant -/

namespace QueueInv

variable {codec : JobCodec β} {jobId executes : ι → Option String}
  {seen : Seen ι (ServiceState β) (RunNote β)} {i : ι} {store : ServiceState β}

omit [DecidableEq β] [DecidableEq ι] in
theorem enqueuedOf_append (history : List (ι × RunNote β)) (i : ι) (notes : List (RunNote β)) :
    enqueuedOf (history ++ notes.map (Prod.mk i)) =
      enqueuedOf history ++ notes.filterMap RunNote.enqueued? := by
  rw [enqueuedOf, List.filterMap_append, List.filterMap_map]
  rfl

omit [DecidableEq β] [DecidableEq ι] in
theorem takenOf_append (history : List (ι × RunNote β)) (i : ι) (notes : List (RunNote β)) :
    takenOf (history ++ notes.map (Prod.mk i)) =
      takenOf history ++ notes.filterMap RunNote.taken? := by
  rw [takenOf, List.filterMap_append, List.filterMap_map]
  rfl

omit [DecidableEq β] [DecidableEq ι] in
theorem poppedBy_append {history : List (ι × RunNote β)} {j : ι} {runId : String}
    (h : PoppedBy codec history j runId) (more : List (ι × RunNote β)) :
    PoppedBy codec (history ++ more) j runId := by
  obtain ⟨job, hjob, hmem⟩ := h
  exact ⟨job, hjob, List.mem_append_left _ hmem⟩

omit [DecidableEq β] [DecidableEq ι] in
theorem removedBy_append {history : List (ι × RunNote β)} {j : ι} {runId : String}
    (h : RemovedBy codec history j runId) (more : List (ι × RunNote β)) :
    RemovedBy codec (history ++ more) j runId := by
  obtain ⟨job, hjob, hmem⟩ := h
  exact ⟨job, hjob, List.mem_append_left _ hmem⟩

omit [DecidableEq β] [DecidableEq ι] in
/-- A step keeps the invariant when it accounts for what it put in and took out, and when its own
notes are justified. -/
theorem step (h : QueueInv codec jobId executes seen) {notes : List (RunNote β)}
    (hconserved : (store.redis.list ++
      (takenOf seen.history ++ notes.filterMap RunNote.taken?)).Perm
      (enqueuedOf seen.history ++ notes.filterMap RunNote.enqueued?))
    (hnodup : (enqueuedOf seen.history ++ notes.filterMap RunNote.enqueued?).Nodup)
    (hkeys : ∀ runId payload, store.redis.jobs runId = some payload →
      ∃ job : RunJob, payload = codec.dump job ∧ job.runId = runId)
    (henqueued : ∀ payload, .enqueued payload ∈ notes →
      ∃ job : RunJob, payload = codec.dump job ∧ jobId i = some job.runId)
    (hsingle : ∀ payload payload', .enqueued payload ∈ notes →
      (i, .enqueued payload') ∈ seen.history ∨ .enqueued payload' ∈ notes → payload = payload')
    (hstarted : ∀ runId, .started runId ∈ notes →
      PoppedBy codec seen.history i runId ∨ executes i = some runId)
    (hcancelled : ∀ runId, .cancelledInQueue runId ∈ notes →
      RemovedBy codec seen.history i runId) :
    QueueInv codec jobId executes (seen.after i store notes) := by
  have hsplit {j : ι} {n : RunNote β} (hn : (j, n) ∈ seen.history ++ notes.map (Prod.mk i)) :
      (j, n) ∈ seen.history ∨ j = i ∧ n ∈ notes := by
    simpa [eq_comm, and_comm] using hn
  constructor
  · rw [Seen.history_after, Seen.store_after, takenOf_append, enqueuedOf_append]
    exact hconserved
  · rw [Seen.history_after, enqueuedOf_append]
    exact hnodup
  · intro j payload hn
    obtain hold | ⟨rfl, hnew⟩ := hsplit hn
    · exact h.enqueued j payload hold
    · exact henqueued payload hnew
  · intro j payload payload' hn hn'
    obtain hold | ⟨rfl, hnew⟩ := hsplit hn
    · obtain hold' | ⟨rfl, hnew'⟩ := hsplit hn'
      · exact h.single j payload payload' hold hold'
      · exact (hsingle payload' payload hnew' (.inl hold)).symm
    · exact hsingle payload payload' hnew ((hsplit hn').imp_right And.right)
  · exact hkeys
  · intro j runId hn
    obtain hold | ⟨rfl, hnew⟩ := hsplit hn
    · exact (h.started j runId hold).imp_left (poppedBy_append · _)
    · exact (hstarted runId hnew).imp_left (poppedBy_append · _)
  · intro j runId hn
    obtain hold | ⟨rfl, hnew⟩ := hsplit hn
    · exact removedBy_append (h.cancelled j runId hold) _
    · exact removedBy_append (hcancelled runId hnew) _

/-- A note about a step that leaves the list alone, after what was popped and removed before. -/
def Justified (codec : JobCodec β) (executes : ι → Option String)
    (history : List (ι × RunNote β)) (i : ι) : RunNote β → Prop
  | .enqueued _ | .popped _ | .removed _ => False
  | .started runId => PoppedBy codec history i runId ∨ executes i = some runId
  | .cancelledInQueue runId => RemovedBy codec history i runId
  | .pageRead .. | .sent _ => True

omit [DecidableEq β] [DecidableEq ι] in
/-- A step that leaves the list alone and only deletes job keys. -/
theorem aside (h : QueueInv codec jobId executes seen) {notes : List (RunNote β)}
    (hlist : store.redis.list = seen.store.redis.list)
    (hkeys : ∀ runId payload, store.redis.jobs runId = some payload →
      seen.store.redis.jobs runId = some payload)
    (hnotes : ∀ n ∈ notes, Justified codec executes seen.history i n) :
    QueueInv codec jobId executes (seen.after i store notes) := by
  have htaken : notes.filterMap RunNote.taken? = [] := by
    refine List.filterMap_eq_nil_iff.mpr fun n hn => ?_
    have hjustified := hnotes n hn
    cases n with
    | popped | removed => exact hjustified.elim
    | _ => rfl
  have hput : notes.filterMap RunNote.enqueued? = [] := by
    refine List.filterMap_eq_nil_iff.mpr fun n hn => ?_
    have hjustified := hnotes n hn
    cases n with
    | enqueued => exact hjustified.elim
    | _ => rfl
  refine h.step ?_ ?_ (fun runId payload hget => h.keys runId payload (hkeys runId payload hget))
    (fun _ hmem => (hnotes _ hmem).elim) (fun _ _ hmem => (hnotes _ hmem).elim)
    (fun _ hmem => hnotes _ hmem) fun _ hmem => hnotes _ hmem
  · rw [htaken, hput, hlist, List.append_nil, List.append_nil]
    exact h.conserved
  · rw [hput, List.append_nil]
    exact h.nodup

omit [DecidableEq β] [DecidableEq ι] in
/-- A step that leaves Redis alone. -/
theorem aside_of_redis (h : QueueInv codec jobId executes seen) {notes : List (RunNote β)}
    (hredis : store.redis = seen.store.redis)
    (hnotes : ∀ n ∈ notes, Justified codec executes seen.history i n) :
    QueueInv codec jobId executes (seen.after i store notes) := by
  refine h.aside ?_ ?_ hnotes
  · rw [hredis]
  · rw [hredis]
    exact fun _ _ hget => hget

end QueueInv

/-! ## Programs that leave the queue alone -/

/-- A step that leaves Redis alone, without a note. -/
def AsideRedis (s s' : ServiceState β) (notes : List (RunNote β)) : Prop :=
  s'.redis = s.redis ∧ notes = []

section Aside

variable (budget : TraceBudget) (process : ℕ) (principal : Principal) (runId : String)
  (circumstances : Circumstances)

omit [DecidableEq β] in
theorem asideRedis_read {α : Type} (run : ServiceState β → Except RunError α) :
    (Prog.read run : Program β α).Always AsideRedis :=
  Prog.always_read fun _ => ⟨rfl, rfl⟩

omit [DecidableEq β] in
theorem asideRedis_getRun : (getRun process runId principal : Program β _).Always AsideRedis := by
  refine (asideRedis_read _).bind fun found => ?_
  cases found with
  | some record => exact Prog.Always.bind trivial fun _ => trivial
  | none =>
    refine (asideRedis_read _).bind fun pending => ?_
    cases pending
    · trivial
    · exact (asideRedis_read _).bind fun _ => Prog.Always.bind trivial fun _ => trivial

omit [DecidableEq β] in
theorem asideRedis_persist (task : Option String) (record : AgentRunRecord)
    (events : List TraceEvent) :
    (persist task circumstances record events : Program β Unit).Always AsideRedis := by
  refine Prog.always_perform fun s => ⟨?_, rfl⟩
  unfold persistStep
  dsimp only
  split
  · rw [ServiceState.redis_moveTask]
    split
    · exact s.redis_storing _
    · rfl
  · split
    · exact s.redis_moveTask _ _
    · rw [ServiceState.redis_moveTask]
      exact s.redis_storing _

omit [DecidableEq β] in
theorem asideRedis_runCall (task : Option String) (previous : Option AgentRunRecord)
    (record : AgentRunRecord) :
    (runCall task previous circumstances record : Program β _).Always AsideRedis := by
  refine Prog.Always.bind (Prog.always_perform fun s => ⟨s.redis_moveTask _ _, rfl⟩) fun ended => ?_
  cases ended with
  | ok payload => exact (asideRedis_persist circumstances task _ _).bind fun _ => trivial
  | error error => exact (asideRedis_persist circumstances task _ _).bind fun _ => trivial

omit [DecidableEq β] in
theorem asideRedis_reservePlanRun (requestId : Option String) (submission : Submission)
    (setup : ServiceSetup) :
    (reservePlanRun setup principal requestId submission : Program β Unit).Always AsideRedis := by
  refine Prog.always_perform fun s => ⟨?_, rfl⟩
  split
  · rfl
  · exact s.redis_storing _

end Aside

/-! ## Programs that keep the invariant -/

section Meets

variable {codec : JobCodec β} {jobId executes : ι → Option String} {i : ι}
  {seen : Seen ι (ServiceState β) (RunNote β)} {α : Type}

/-- The discipline of the queue. -/
abbrev queueDiscipline (codec : JobCodec β) (jobId executes : ι → Option String) :
    Discipline ι (ServiceState β) (RunNote β) :=
  .ofInv (QueueInv codec jobId executes) fun _ _ _ => True

omit [DecidableEq β] in
theorem meets_of_asideRedis {p : Program β α} (h : p.Always AsideRedis) :
    p.Meets (queueDiscipline codec jobId executes) i
      (fun _ now => now.own i = seen.own i) seen := by
  refine h.meets_silent fun now s notes hinv ⟨hredis, hnotes⟩ => ⟨hnotes, ?_⟩
  exact hinv.aside_of_redis hredis (by simp [hnotes])

omit [DecidableEq β] in
/-- A job is put into the queue by a call that has put none in yet. -/
theorem meets_enqueue
    (hdistinct : ∀ i j runId, jobId i = some runId → jobId j = some runId → i = j) {job : RunJob}
    (hjob : jobId i = some job.runId) (hown : seen.own i = [])
    (queueError : Option RunError) :
    (enqueue codec queueError job).Meets (queueDiscipline codec jobId executes) i (fun _ _ => True)
      seen := by
  cases queueError with
  | some error => exact (meets_of_asideRedis (asideRedis_read _)).mono fun _ _ _ _ => trivial
  | none =>
    refine Prog.meets_perform_ofInv fun now hnow hinv _ => ⟨?_, fun _ _ _ => trivial⟩
    have hnew : codec.dump job ∉ enqueuedOf now.history := by
      intro hmem
      obtain ⟨⟨j, n⟩, hn, hpayload⟩ := List.mem_filterMap.mp hmem
      cases n with
      | enqueued payload =>
        obtain rfl := Option.some.inj hpayload
        obtain ⟨job', hdump, hjob'⟩ := hinv.enqueued j _ hn
        obtain rfl := codec.dump_injective hdump
        obtain rfl := hdistinct i j _ hjob hjob'
        rw [← Seen.mem_own, hnow, hown] at hn
        cases hn
      | _ => cases hpayload
    refine hinv.step ?_ ?_ ?_ ?_ ?_ (by simp) (by simp)
    · change (codec.dump job :: now.store.redis.list ++ (takenOf now.history ++ [])).Perm
        (enqueuedOf now.history ++ [codec.dump job])
      rw [List.append_nil, List.cons_append]
      exact (hinv.conserved.cons _).trans (List.perm_append_singleton _ _).symm
    · exact List.nodup_append'.mpr ⟨hinv.nodup, List.nodup_singleton _,
        List.disjoint_singleton.mpr hnew⟩
    · intro runId payload hget
      dsimp only at hget
      rw [Function.update_apply] at hget
      split at hget
      · next heq => exact ⟨job, (Option.some.inj hget).symm, heq.symm⟩
      · exact hinv.keys runId payload hget
    · intro payload hmem
      obtain rfl := RunNote.enqueued.inj (List.mem_singleton.mp hmem)
      exact ⟨job, rfl, hjob⟩
    · rintro payload payload' hmem (hmem' | hmem')
      · rw [← Seen.mem_own, hnow, hown] at hmem'
        cases hmem'
      · rw [RunNote.enqueued.inj (List.mem_singleton.mp hmem),
          RunNote.enqueued.inj (List.mem_singleton.mp hmem')]

omit [DecidableEq β] [DecidableEq ι] in
/-- A job key is deleted, or expires. -/
theorem QueueInv.deleteJobKey {now : Seen ι (ServiceState β) (RunNote β)}
    (h : QueueInv codec jobId executes now) (runId : String) :
    QueueInv codec jobId executes (now.after i { now.store with redis :=
      { now.store.redis with jobs := Function.update now.store.redis.jobs runId none } } []) := by
  refine h.aside rfl ?_ (by simp)
  intro key payload hget
  dsimp only at hget
  rw [Function.update_apply] at hget
  split at hget
  · cases hget
  · exact hget

omit [DecidableEq β] in
/-- The job that `dequeue` returns was popped by this call. -/
theorem meets_dequeue :
    (dequeue codec).Meets (queueDiscipline codec jobId executes) i
      (fun result now => ∀ job, result = .ok (some job) → .popped (codec.dump job) ∈ now.own i)
      seen := by
  unfold dequeue brpop
  refine Prog.meets_perform_bind_ofInv fun now _ hinv _ => ?_
  cases hlast : now.store.redis.list.getLast? with
  | none =>
    have hnil : now.store.redis.list = [] := List.getLast?_eq_none_iff.mp hlast
    refine ⟨hinv.aside ?_ (fun _ _ h => h) (by simp), ?_⟩
    · change now.store.redis.list.dropLast = _
      rw [hnil]
      rfl
    · exact fun _ _ _ job hjob => by cases hjob
  | some payload =>
    obtain ⟨rest, hlist⟩ := List.getLast?_eq_some_iff.mp hlast
    have henqueued : payload ∈ enqueuedOf now.history := by
      refine hinv.conserved.subset (List.mem_append_left _ ?_)
      rw [hlist]
      exact List.mem_append_right _ (List.mem_singleton_self _)
    obtain ⟨⟨j, n⟩, hn, hpayload⟩ := List.mem_filterMap.mp henqueued
    cases n with
    | enqueued =>
      obtain rfl := Option.some.inj hpayload
      obtain ⟨job, rfl, _⟩ := hinv.enqueued j _ hn
      constructor
      · refine hinv.step ?_ ?_ hinv.keys (by simp) (by simp) (by simp) (by simp)
        · change (now.store.redis.list.dropLast ++ (takenOf now.history ++ [codec.dump job])).Perm
            (enqueuedOf now.history ++ [])
          have hconserved := hinv.conserved
          rw [hlist] at hconserved ⊢
          rw [List.dropLast_concat, List.append_nil, ← List.append_assoc]
          refine (List.perm_append_singleton _ _).trans ?_
          refine List.Perm.trans ?_ hconserved
          rw [List.append_assoc]
          exact List.perm_middle.symm
        · exact (List.append_nil _).symm ▸ hinv.nodup
      · rw [Prog.done_ok_bind]
        dsimp only
        rw [codec.validate_dump]
        refine Prog.meets_perform_bind_ofInv fun later hlater hinv' _ =>
          ⟨hinv'.deleteJobKey job.runId, ?_⟩
        refine Prog.meets_done fun last hlast _ job' hjob' => ?_
        obtain rfl := Option.some.inj (Except.ok.inj hjob')
        change last.own i = _ at hlast
        rw [hlast, Seen.own_after, hlater, Seen.own_after]
        exact List.mem_append_left _ (List.mem_append_right _ (List.mem_singleton_self _))
    | _ => cases hpayload

/-- `remove` returns `True` exactly when it has taken the job of the run, and notes it. -/
theorem meets_remove (runId : String) (hown : ∀ payload, .removed payload ∉ seen.own i) :
    (remove runId).Meets (queueDiscipline codec jobId executes) i
      (fun result now =>
        (result = .ok true → ∃ job : RunJob, job.runId = runId ∧
          .removed (codec.dump job) ∈ now.own i) ∧
        (result ≠ .ok true → ∀ payload, .removed payload ∉ now.own i)) seen := by
  unfold remove
  refine Prog.meets_read_bind_ofInv fun now hnow hinv => ?_
  cases hget : now.store.redis.jobs runId with
  | none =>
    refine Prog.meets_done fun last hlast _ => ⟨(nomatch ·), fun _ => ?_⟩
    change last.own i = now.own i at hlast
    rw [hlast, hnow]
    exact hown
  | some payload =>
    obtain ⟨job, rfl, hjob⟩ := hinv.keys runId payload hget
    refine Prog.meets_perform_ofInv fun later hlater hinv' _ => ?_
    change later.own i = now.own i at hlater
    have hkeys (key : String) (payload : β)
        (hkey : Function.update later.store.redis.jobs runId none key = some payload) :
        ∃ job : RunJob, payload = codec.dump job ∧ job.runId = key := by
      rw [Function.update_apply] at hkey
      split at hkey
      · cases hkey
      · exact hinv'.keys key payload hkey
    by_cases hmem : codec.dump job ∈ later.store.redis.list
    · dsimp only
      rw [if_pos hmem, decide_eq_true hmem]
      constructor
      · refine hinv'.step ?_ ?_ hkeys (by simp) (by simp) (by simp) (by simp)
        · change (later.store.redis.list.erase (codec.dump job) ++
            (takenOf later.history ++ [codec.dump job])).Perm (enqueuedOf later.history ++ [])
          rw [List.append_nil, ← List.append_assoc]
          refine (List.perm_append_singleton _ _).trans (List.Perm.trans ?_ hinv'.conserved)
          exact (List.perm_cons_erase hmem).symm.append_right _
        · exact (List.append_nil _).symm ▸ hinv'.nodup
      · intro last hlast _
        refine ⟨fun _ => ⟨job, hjob, ?_⟩, fun hne => absurd rfl hne⟩
        rw [hlast]
        exact List.mem_append_right _ (List.mem_singleton_self _)
    · dsimp only
      rw [if_neg hmem, decide_eq_false hmem]
      constructor
      · refine hinv'.step ?_ ?_ hkeys (by simp) (by simp) (by simp) (by simp)
        · change (later.store.redis.list.erase (codec.dump job) ++
            (takenOf later.history ++ [])).Perm
            (enqueuedOf later.history ++ [])
          rw [List.append_nil, List.append_nil, List.erase_of_not_mem hmem]
          exact hinv'.conserved
        · exact (List.append_nil _).symm ▸ hinv'.nodup
      · intro last hlast _
        refine ⟨(nomatch ·), fun _ => ?_⟩
        rw [hlast, List.append_nil, hlater, hnow]
        exact hown

omit [DecidableEq β] in
/-- A run is noted as cancelled in the queue by a call that has removed its job. -/
theorem meets_finalizeCancelled (runId : String) {record : AgentRunRecord}
    (circumstances : Circumstances)
    (hown : ∃ job : RunJob, job.runId = record.runId ∧ .removed (codec.dump job) ∈ seen.own i) :
    (finalizeCancelled runId record circumstances : Program β Unit).Meets
      (queueDiscipline codec jobId executes) i (fun _ _ => True) seen := by
  refine Prog.meets_perform_ofInv fun now hnow hinv _ => ⟨?_, fun _ _ _ => trivial⟩
  refine hinv.aside_of_redis ?_ ?_
  · split
    · rfl
    · exact now.store.redis_storing _
  · intro n hn
    obtain ⟨_, hn⟩ := List.mem_ite_nil_right.mp hn
    obtain rfl := List.mem_singleton.mp hn
    obtain ⟨job, hjob, hmem⟩ := hown
    exact ⟨job, hjob, Seen.mem_own.mp (hnow ▸ hmem)⟩

omit [DecidableEq β] in
/-- The record that `get_run` returns is the one of the run. -/
theorem meets_getRun (process : ℕ) (runId : String) (principal : Principal) :
    (getRun process runId principal : Program β _).Meets (queueDiscipline codec jobId executes) i
      (fun result now => now.own i = seen.own i ∧
        ∀ record, result = .ok record → record.runId = runId) seen := by
  have hchecked {record : AgentRunRecord} (hrecord : record.runId = runId)
      {now : Seen ι (ServiceState β) (RunNote β)} (hnow : now.own i = seen.own i) :
      (do Prog.done (assertOwner record.owner principal); return record :
        Program β AgentRunRecord).Meets (queueDiscipline codec jobId executes) i
          (fun result now => now.own i = seen.own i ∧
            ∀ record, result = .ok record → record.runId = runId) now := by
    unfold assertOwner
    split
    · refine Prog.meets_done fun last hlast _ => ⟨Eq.trans hlast hnow, fun other hother => ?_⟩
      rw [← Except.ok.inj hother]
      exact hrecord
    · exact Prog.meets_done fun last hlast _ => ⟨Eq.trans hlast hnow, fun _ => (nomatch ·)⟩
  unfold getRun
  refine Prog.meets_read_bind_ofInv fun now hnow _ => ?_
  cases hget : now.store.repository.runs.get? runId with
  | some record => exact hchecked (now.store.repository.runs_keyed _ _ hget) hnow
  | none =>
    refine Prog.meets_read_bind_ofInv fun now hnow' _ => ?_
    have hnow := Eq.trans hnow' hnow
    cases (now.store.processes process).tasks.contains runId with
    | false => exact Prog.meets_done fun last hlast _ => ⟨Eq.trans hlast hnow, fun _ => (nomatch ·)⟩
    | true =>
      refine Prog.meets_read_bind_ofInv fun now hnow' _ => ?_
      have hnow := Eq.trans hnow' hnow
      unfold RunRepository.get
      cases hget : now.store.repository.runs.get? runId with
      | some record => exact hchecked (now.store.repository.runs_keyed _ _ hget) hnow
      | none => exact Prog.meets_done fun last hlast _ =>
        ⟨Eq.trans hlast hnow, fun _ => (nomatch ·)⟩

theorem meets_cancelRun (setup : ServiceSetup) (process : ℕ) (runId : String)
    (principal : Principal) (circumstances : Circumstances)
    (hown : ∀ payload, .removed payload ∉ seen.own i) (hinv : QueueInv codec jobId executes seen) :
    (cancelRun setup process runId principal circumstances).Meets
      (queueDiscipline codec jobId executes) i (fun _ _ => True) seen := by
  unfold cancelRun
  refine (meets_getRun process runId principal).bind ?_ (fun _ _ _ _ => trivial) hinv
  rintro record now hinv ⟨hnow, hrecord⟩
  have hrecord := hrecord record rfl
  split
  · exact Prog.meets_done fun _ _ _ => trivial
  have hchecked : (Prog.perform
      (fun s => (.ok ((s.processes process).tasks.contains runId),
        if (s.processes process).tasks.contains runId then s.requestCancel runId else s))
      fun _ => [] : Program β Bool).Always AsideRedis := by
    refine Prog.always_perform fun s => ⟨?_, rfl⟩
    split
    · exact s.redis_requestCancel _
    · rfl
  refine (meets_of_asideRedis hchecked).bind ?_ (fun _ _ _ _ => trivial) hinv
  intro owned now hinv hnow'
  have hnow := Eq.trans hnow' hnow
  cases owned with
  | true =>
    rw [if_pos rfl]
    refine (meets_of_asideRedis ?_).mono fun _ _ _ _ => trivial
    refine Prog.Always.bind (fun s => ⟨⟨rfl, rfl⟩, trivial⟩) fun _ => ?_
    exact asideRedis_getRun process principal runId
  | false =>
    cases setup.usesQueue with
    | false => exact Prog.meets_done fun _ _ _ => trivial
    | true =>
      refine (meets_remove runId (hnow ▸ hown)).bind ?_ (fun _ _ _ _ => trivial) hinv
      rintro removed now hinv ⟨hremoved, -⟩
      cases removed with
      | false => exact Prog.meets_done fun _ _ _ => trivial
      | true =>
        have hremoved := hremoved rfl
        rw [← hrecord] at hremoved
        exact (meets_finalizeCancelled runId circumstances hremoved).bind
          (fun _ _ _ _ => Prog.meets_done fun _ _ _ => trivial) (fun _ _ _ _ => trivial) hinv

omit [DecidableEq β] in
/-- The call of a run is started by a worker that has popped its job, or by its task. -/
theorem meets_openReserved {runId : String} (task : Option String) (circumstances : Circumstances)
    (hown : (∃ job : RunJob, job.runId = runId ∧ .popped (codec.dump job) ∈ seen.own i) ∨
      executes i = some runId) :
    (openReserved task runId circumstances : Program β _).Meets
      (queueDiscipline codec jobId executes) i (fun _ _ => True) seen := by
  refine Prog.meets_perform_ofInv fun now hnow hinv _ => ⟨?_, fun _ _ _ => trivial⟩
  refine hinv.aside_of_redis (now.store.redis_moveTask _ _) fun n hn => ?_
  obtain ⟨_, hn⟩ := List.mem_ite_nil_right.mp hn
  obtain rfl := List.mem_singleton.mp hn
  obtain ⟨job, hjob, hmem⟩ | hexecutes := hown
  · exact .inl ⟨job, hjob, Seen.mem_own.mp (hnow ▸ hmem)⟩
  · exact .inr hexecutes

omit [DecidableEq β] in
/-- An execution of a reserved run leaves the queue alone. -/
theorem meets_executePlan (setup : ServiceSetup) {runId : String} (task : Option String)
    (threadId : String) (principal : Principal) (circumstances : Circumstances)
    (hown : (∃ job : RunJob, job.runId = runId ∧ .popped (codec.dump job) ∈ seen.own i) ∨
      executes i = some runId) (hinv : QueueInv codec jobId executes seen) :
    (executePlan setup task runId threadId principal circumstances : Program β _).Meets
      (queueDiscipline codec jobId executes) i (fun _ _ => True) seen :=
  (meets_openReserved task circumstances hown).bind
    (fun record _ _ _ => (meets_of_asideRedis
      (asideRedis_runCall circumstances task _ record)).mono fun _ _ _ _ => trivial)
    (fun _ _ _ _ => trivial) hinv

omit [DecidableEq β] in
theorem meets_workerTurn (setup : ServiceSetup) (circumstances : Circumstances)
    (hinv : QueueInv codec jobId executes seen) :
    (workerTurn setup codec circumstances).Meets
      (queueDiscipline codec jobId executes) i (fun _ _ => True) seen := by
  unfold workerTurn
  refine meets_dequeue.bind ?_ (fun _ _ _ _ => trivial) hinv
  intro job now hinv hpopped
  cases job with
  | none => exact Prog.meets_done fun _ _ _ => trivial
  | some job =>
    have hpopped := hpopped job rfl
    have hexecute : (executePlan setup none job.runId job.threadId job.principal circumstances :
        Program β _).Meets (queueDiscipline codec jobId executes) i (fun _ _ => True) now :=
      meets_executePlan setup none job.threadId job.principal circumstances
        (.inl ⟨job, rfl, hpopped⟩) hinv
    have hturn : (executePlan setup none job.runId job.threadId job.principal circumstances >>=
        fun _ => pure () : Program β Unit).Meets
          (queueDiscipline codec jobId executes) i (fun _ _ => True) now :=
      hexecute.bind (fun _ _ _ _ => Prog.meets_done fun _ _ _ => trivial)
        (fun _ _ _ _ => trivial) hinv
    exact hturn.tryCatch (fun _ _ _ _ => trivial)
      (fun _ _ _ _ => Prog.meets_done fun _ _ _ => trivial) hinv

omit [DecidableEq β] in
theorem meets_startTripRun
    (hdistinct : ∀ i j runId, jobId i = some runId → jobId j = some runId → i = j)
    (setup : ServiceSetup) (process : ℕ) (tripId : String) (principal : Principal)
    (requestId : Option String) {submission : Submission} (hjob : jobId i = some submission.runId)
    (hown : seen.own i = []) (hinv : QueueInv codec jobId executes seen) :
    (startTripRun setup codec process tripId principal requestId submission).Meets
      (queueDiscipline codec jobId executes) i (fun _ _ => True) seen := by
  unfold startTripRun
  refine (meets_of_asideRedis (asideRedis_read _)).bind ?_ (fun _ _ _ _ => trivial) hinv
  intro trip now hinv hnow
  refine (meets_of_asideRedis (asideRedis_reservePlanRun principal requestId submission _)).bind ?_
    (fun _ _ _ _ => trivial) hinv
  intro _ later hinv hlater
  have hlater : later.own i = [] := hlater.trans (hnow.trans hown)
  cases setup.usesQueue with
  | true =>
    exact (meets_enqueue hdistinct hjob hlater submission.queueError).bind
      (fun _ _ _ _ => Prog.meets_done fun _ _ _ => trivial) (fun _ _ _ _ => trivial) hinv
  | false =>
    have htask (handle : RunHandle) : (do
        createTask submission.runId
        registerTask process submission.runId
        return handle : Program β RunHandle).Always AsideRedis :=
      Prog.Always.bind (Prog.always_perform fun _ => ⟨rfl, rfl⟩) fun _ =>
        Prog.Always.bind (Prog.always_perform fun _ => ⟨rfl, rfl⟩) fun _ => trivial
    exact (meets_of_asideRedis (htask _)).mono fun _ _ _ _ => trivial

end Meets

/-! ## Every job is taken once -/

section TakenOnce

variable {budget : TraceBudget} {codec : JobCodec β} {calls : ι → QueueCall}

/-- What a call has done when it has answered. -/
def answered (codec : JobCodec β) (calls : ι → QueueCall) (i : ι)
    (result : Except RunError QueueAnswer) (now : Seen ι (ServiceState β) (RunNote β)) : Prop :=
  match calls i with
  | .dequeue => ∀ job, result = .ok (.job (some job)) → PoppedBy codec now.history i job.runId
  | .remove runId => ∀ taken, result = .ok (.removed taken) →
    (taken = true ↔ RemovedBy codec now.history i runId)
  | _ => True

/-- Every call keeps the invariant from its start. -/
theorem meets_queueCall (hdistinct : DistinctJobs calls)
    {s : ServiceState β} (hinv : QueueInv codec (fun i => (calls i).jobId) (fun _ => none) ⟨s, []⟩)
    (i : ι) :
    ((calls i).program budget codec).Meets
      (queueDiscipline codec (fun i => (calls i).jobId) (fun _ => none)) i
      (answered codec calls i) ⟨s, []⟩ := by
  have hreturn {α : Type} {p : Program β α} {answer : α → QueueAnswer}
      (htrivial : ∀ result now, answered codec calls i result now)
      (hp : p.Meets (queueDiscipline codec (fun i => (calls i).jobId) (fun _ => none)) i
        (fun _ _ => True) ⟨s, []⟩) :
      (do return answer (← p)).Meets
        (queueDiscipline codec (fun i => (calls i).jobId) (fun _ => none)) i
          (answered codec calls i)
        ⟨s, []⟩ :=
    hp.bind (fun _ _ _ _ => Prog.meets_done fun _ _ _ => htrivial _ _)
      (fun _ _ _ _ => htrivial _ _) hinv
  cases hcall : calls i with
  | enqueue job =>
    refine hreturn (fun _ _ => ?_) (meets_enqueue hdistinct (by rw [hcall]; rfl) rfl none)
    rw [answered, hcall]
    trivial
  | dequeue =>
    refine meets_dequeue.bind (fun job now _ hpopped => ?_) (fun error now _ _ => ?_) hinv
    · refine Prog.meets_done fun last hlast _ => ?_
      rw [answered, hcall]
      intro job' hjob'
      cases hjob'
      have hmem := hpopped job' rfl
      change last.own i = now.own i at hlast
      rw [← hlast] at hmem
      exact ⟨job', rfl, Seen.mem_own.mp hmem⟩
    · rw [answered, hcall]
      intro _ herror
      cases herror
  | remove runId =>
    refine (meets_remove runId (by simp [Seen.own])).bind (fun taken now _ hremoved => ?_)
      (fun error now _ _ => ?_) hinv
    · refine Prog.meets_done fun last hlast _ => ?_
      rw [answered, hcall]
      intro taken' htaken'
      cases htaken'
      change last.own i = now.own i at hlast
      rw [← hlast] at hremoved
      constructor
      · intro htrue
        obtain ⟨job, hjob, hmem⟩ := hremoved.1 (by rw [htrue])
        exact ⟨job, hjob, Seen.mem_own.mp hmem⟩
      · rintro ⟨job, _, hmem⟩
        by_contra hfalse
        exact hremoved.2 (fun heq => hfalse (Except.ok.inj heq)) _ (Seen.mem_own.mpr hmem)
    · rw [answered, hcall]
      intro _ herror
      cases herror
  | createTrip process request principal tripId =>
    refine hreturn (fun _ _ => ?_) ?_
    · rw [answered, hcall]
      trivial
    · exact (meets_of_asideRedis (Prog.always_perform fun _ => ⟨rfl, rfl⟩)).mono
        fun _ _ _ _ => trivial
  | startTripRun process tripId principal requestId submission =>
    refine hreturn (fun _ _ => ?_) (meets_startTripRun hdistinct _ process tripId principal
      requestId (by rw [hcall]; rfl) rfl hinv)
    rw [answered, hcall]
    trivial
  | cancelRun process runId principal circumstances =>
    refine hreturn (fun _ _ => ?_) (meets_cancelRun _ process runId principal circumstances
      (by simp [Seen.own]) hinv)
    rw [answered, hcall]
    trivial
  | workerTurn circumstances =>
    refine hreturn (fun _ _ => ?_) (meets_workerTurn _ circumstances hinv)
    rw [answered, hcall]
    trivial
  | expireJobKey runId =>
    refine hreturn (fun _ _ => ?_) ?_
    · rw [answered, hcall]
      trivial
    · exact Prog.meets_perform_ofInv fun now _ hinv _ =>
        ⟨hinv.deleteJobKey runId, fun _ _ _ => trivial⟩

/-- Every job that was put into the queue is taken by at most one call, and nothing else leaves
the list. -/
structure TakenOnce (codec : JobCodec β) (calls : ι → QueueCall)
    (w : World ι (ServiceState β) (RunNote β) RunError QueueAnswer) : Prop where
  /-- Each job that was put in is still in the list or was taken. -/
  conserved : (w.store.redis.list ++ takenOf w.history).Perm (enqueuedOf w.history)
  /-- No job is taken twice, or taken and still there. -/
  nodup : (w.store.redis.list ++ takenOf w.history).Nodup
  once : ∀ i j runId, (PoppedBy codec w.history i runId ∨ RemovedBy codec w.history i runId) →
    (PoppedBy codec w.history j runId ∨ RemovedBy codec w.history j runId) → i = j
  dequeued : ∀ i job, calls i = .dequeue →
    (w.prog i).result? = some (.ok (.job (some job))) → PoppedBy codec w.history i job.runId
  removed : ∀ i runId taken, calls i = .remove runId →
    (w.prog i).result? = some (.ok (.removed taken)) →
    (taken = true ↔ RemovedBy codec w.history i runId)
  /-- What was cancelled in the queue is not executed by a worker, nor the other way round. -/
  exclusive : ∀ i j runId, (i, .cancelledInQueue runId) ∈ w.history →
    (j, .started runId) ∉ w.history

omit [DecidableEq β] [DecidableEq ι] in
/-- Two notes of a history that took the same payload are the same note. -/
theorem eq_of_taken {history : List (ι × RunNote β)} (h : (takenOf history).Nodup)
    {a b : ι × RunNote β} (ha : a ∈ history) (hb : b ∈ history) {payload : β}
    (hta : a.2.taken? = some payload) (htb : b.2.taken? = some payload) : a = b := by
  induction history with
  | nil => cases ha
  | cons n history ih =>
    have hrest : (takenOf history).Nodup :=
      h.sublist ((List.sublist_cons_self n history).filterMap _)
    have hhead {c : ι × RunNote β} (hn : n.2.taken? = some payload) (hc : c ∈ history)
        (htc : c.2.taken? = some payload) : False := by
      have hcons : takenOf (n :: history) = payload :: takenOf history :=
        List.filterMap_cons_some hn
      rw [hcons, List.nodup_cons] at h
      exact h.1 (List.mem_filterMap.mpr ⟨c, hc, htc⟩)
    obtain rfl | ha' := List.mem_cons.mp ha
    · obtain rfl | hb' := List.mem_cons.mp hb
      · rfl
      · exact (hhead hta hb' htb).elim
    · obtain rfl | hb' := List.mem_cons.mp hb
      · exact (hhead htb ha' hta).elim
      · exact ih hrest ha' hb'

namespace QueueInv

variable {jobId executes : ι → Option String} {seen : Seen ι (ServiceState β) (RunNote β)}
  (h : QueueInv codec jobId executes seen)
include h

omit [DecidableEq β] [DecidableEq ι]

theorem takenOf_nodup : (takenOf seen.history).Nodup :=
  (h.conserved.nodup_iff.mpr h.nodup).of_append_right

/-- What was taken was put in. -/
theorem enqueued_of_taken {n : ι × RunNote β} (hn : n ∈ seen.history) {payload : β}
    (htaken : n.2.taken? = some payload) : ∃ k, (k, .enqueued payload) ∈ seen.history := by
  have hmem : payload ∈ enqueuedOf seen.history :=
    h.conserved.subset (List.mem_append_right _ (List.mem_filterMap.mpr ⟨n, hn, htaken⟩))
  obtain ⟨⟨k, m⟩, hm, hpayload⟩ := List.mem_filterMap.mp hmem
  cases m with
  | enqueued payload' =>
    obtain rfl := Option.some.inj hpayload
    exact ⟨k, hm⟩
  | _ => cases hpayload

/-- Whoever took the jobs of one run took the same payload, in the same step. -/
theorem taken_once
    (hdistinct : ∀ i j runId, jobId i = some runId → jobId j = some runId → i = j)
    {a b : ι × RunNote β} (ha : a ∈ seen.history)
    (hb : b ∈ seen.history) {job job' : RunJob} (hjob : job.runId = job'.runId)
    (hta : a.2.taken? = some (codec.dump job)) (htb : b.2.taken? = some (codec.dump job')) :
    a = b := by
  obtain ⟨k, hk⟩ := h.enqueued_of_taken ha hta
  obtain ⟨k', hk'⟩ := h.enqueued_of_taken hb htb
  obtain ⟨other, hdump, hother⟩ := h.enqueued k _ hk
  obtain ⟨other', hdump', hother'⟩ := h.enqueued k' _ hk'
  obtain rfl := codec.dump_injective hdump
  obtain rfl := codec.dump_injective hdump'
  rw [← hjob] at hother'
  obtain rfl := hdistinct k k' _ hother hother'
  rw [← h.single k _ _ hk hk'] at htb
  exact eq_of_taken h.takenOf_nodup ha hb hta htb

end QueueInv

/-- Servers and workers on an empty queue take every job once, whatever the order of their
commands and whichever job keys expire. -/
theorem queue_takenOnce (hdistinct : DistinctJobs calls) {s : ServiceState β} (hs : s.redis = {})
    {w : World ι (ServiceState β) (RunNote β) RunError QueueAnswer}
    (hrun : World.Run (fun _ _ _ => True) (queueWorld budget codec calls s) w) :
    TakenOnce codec calls w := by
  have hstart : QueueInv codec (fun i => (calls i).jobId) (fun _ => none)
    (⟨s, []⟩ : Seen ι (ServiceState β) (RunNote β)) := by
    constructor <;> simp [hs, takenOf, enqueuedOf]
  have hend : w.Disciplined (queueDiscipline codec (fun i => (calls i).jobId) (fun _ => none))
    (answered codec calls) :=
    World.Run.sound hrun ⟨hstart, fun i => meets_queueCall hdistinct hstart i⟩
  have hinv := hend.inv
  refine ⟨hinv.conserved, hinv.conserved.nodup_iff.mpr hinv.nodup, ?_, ?_, ?_, ?_⟩
  · rintro i j runId (⟨job, hjob, hi⟩ | ⟨job, hjob, hi⟩) (⟨job', hjob', hj⟩ | ⟨job', hjob', hj⟩)
    all_goals
      have heq := hinv.taken_once hdistinct hi hj (hjob.trans hjob'.symm) rfl rfl
      exact congrArg Prod.fst heq
  · intro i job hcall hresult
    have hpost := hend.post_of_result hresult
    rw [answered, hcall] at hpost
    exact hpost job rfl
  · intro i runId taken hcall hresult
    have hpost := hend.post_of_result hresult
    rw [answered, hcall] at hpost
    exact hpost taken rfl
  · intro i j runId hcancelled hstarted
    obtain ⟨job, hjob, hi⟩ := hinv.cancelled i runId hcancelled
    obtain ⟨job', hjob', hj⟩ := (hinv.started j runId hstarted).resolve_right (nomatch ·)
    have heq := hinv.taken_once hdistinct hi hj (hjob.trans hjob'.symm) rfl rfl
    cases heq

end TakenOnce

/-- A job is put into the queue, a worker takes it, and a server tries to remove it. -/
def sampleQueueCalls : Fin 3 → QueueCall
  | 0 => .enqueue ⟨"run", "trip", "thread", { trip := Sample.trip }, ⟨"tenant", "user"⟩, none⟩
  | 1 => .workerTurn { result := .error .cancelled }
  | 2 => .remove "run"

theorem queue_takenOnce_sample :
    TakenOnce plainCodec sampleQueueCalls
      ((queueWorld {} plainCodec sampleQueueCalls {}).runAll [0, 2, 1, 2]) := by
  have honly (i : Fin 3) (runId : String) (h : (sampleQueueCalls i).jobId = some runId) :
      i = 0 := by
    match i with
    | 0 => rfl
    | 1 => cases h
    | 2 => cases h
  exact queue_takenOnce (fun i j runId hi hj => (honly i runId hi).trans (honly j runId hj).symm)
    rfl
    (World.run_runAll _ _)

end TravelPlanAgent
