import TravelPlanAgent.Runs.Service

/-!
# What an event stream delivers

A stream reads a page of the trace and then the status of the run, and ends when the page was
empty and the run has ended.  The final record and all events are stored in one step, which may
fall between the two reads.

* `StreamParty`: the execution of a run, and any number of streams of its events.
* `Beyond`: the events after a cursor; `beyond_eq_page_append`: a page and what is beyond it.
* `StreamProgress`: what a stream has sent and what it will still read are all it has to send.
* `delivered_iff`: a stream that has ended has delivered everything exactly when its last page was
  read after the run had ended, or there was nothing to deliver.
-/

namespace TravelPlanAgent

variable {β : Type}

/-! ## The execution and its streams -/

/-- A stream of the events of a run. -/
structure StreamParty where
  process : ℕ
  principal : Principal
  /-- `after_sequence` or `Last-Event-ID`, whichever is larger. -/
  start : ℕ
  turns : ℕ

/-- The execution of a reserved run, and streams of its events. -/
structure StreamSetup (κ : Type) where
  setup : ServiceSetup
  task : Option String
  runId : String
  threadId : String
  principal : Principal
  circumstances : Circumstances
  streams : κ → StreamParty

variable {κ : Type}

/-- The program of the execution, or of a stream. -/
def StreamSetup.program (system : StreamSetup κ) : Option κ → Program β Unit
  | none => do
    let _ ← executePlan system.setup system.task system.runId system.threadId system.principal
      system.circumstances
  | some k =>
    let stream := system.streams k
    streamRunEvents stream.process system.runId stream.principal stream.turns stream.start

/-- The execution and the streams before their first step. -/
def StreamSetup.world (system : StreamSetup κ) (s : ServiceState β) :
    World (Option κ) (ServiceState β) (RunNote β) RunError Unit :=
  ⟨⟨s, []⟩, system.program⟩

/-- The run is reserved, and has not ended. -/
def Reserved (s : ServiceState β) (runId : String) : Prop :=
  (∃ record, s.repository.runs.get? runId = some record ∧ record.status = .running) ∧
    s.repository.eventsOf runId = []

/-- The traced events of some notes. -/
def sentEvents (notes : List (RunNote β)) : List TraceEvent :=
  notes.filterMap fun
    | .sent (.trace event) => some event
    | _ => none

/-! ## Events after a cursor -/

/-- The events with a number greater than the cursor. -/
def beyond (events : List TraceEvent) (cursor : ℕ) : List TraceEvent :=
  events.filter fun event => cursor < event.sequence

/-- The numbers of the events increase. -/
def Increasing (events : List TraceEvent) : Prop :=
  events.Pairwise fun a b => a.sequence < b.sequence

theorem beyond_eq_nil_iff {events : List TraceEvent} {cursor : ℕ} :
    beyond events cursor = [] ↔ ∀ event ∈ events, event.sequence ≤ cursor := by
  simp [beyond, List.filter_eq_nil_iff]

/-- The cursor after a page that is not empty is the number of its last event. -/
theorem cursorAfter_concat (cursor : ℕ) (front : List TraceEvent) (last : TraceEvent) :
    cursorAfter cursor (front ++ [last]) = last.sequence := by
  simp [cursorAfter]

theorem beyond_beyond (events : List TraceEvent) {cursor cursor' : ℕ} (h : cursor ≤ cursor') :
    beyond (beyond events cursor) cursor' = beyond events cursor' := by
  rw [beyond, beyond, beyond, List.filter_filter]
  refine List.filter_congr fun event _ => ?_
  rw [← Bool.decide_and, decide_eq_decide]
  omega

/-- What is beyond a cursor is the next page and what is beyond the page. -/
theorem beyond_eq_page_append {events : List TraceEvent} (h : Increasing events) (cursor n : ℕ)
    (hpage : (beyond events cursor).take n ≠ []) :
    beyond events cursor = (beyond events cursor).take n ++
      beyond events (cursorAfter cursor ((beyond events cursor).take n)) := by
  have hsorted : Increasing (beyond events cursor) := h.sublist List.filter_sublist
  generalize hl : beyond events cursor = l at hpage hsorted ⊢
  obtain ⟨last, hlast⟩ := Option.ne_none_iff_exists'.mp (mt List.getLast?_eq_none_iff.mp hpage)
  obtain ⟨front, hfront⟩ := List.getLast?_eq_some_iff.mp hlast
  have hsplit : l = front ++ [last] ++ l.drop n := by rw [← hfront, List.take_append_drop]
  rw [hfront, cursorAfter_concat]
  have hmem : last ∈ beyond events cursor := by
    rw [hl, hsplit]
    simp
  have hcursor : cursor < last.sequence := of_decide_eq_true (List.mem_filter.mp hmem).2
  rw [← beyond_beyond events hcursor.le, hl]
  rw [hsplit] at hsorted
  obtain ⟨hfirst, _, hrest⟩ := List.pairwise_append.mp hsorted
  -- the page ends with the greatest of its numbers, and what follows it has greater ones
  have hnone : beyond (front ++ [last]) last.sequence = [] := by
    rw [beyond_eq_nil_iff]
    intro event hevent
    rcases List.mem_append.mp hevent with hevent | hevent
    · exact ((List.pairwise_append.mp hfirst).2.2 event hevent last (List.mem_singleton_self _)).le
    · rw [List.mem_singleton.mp hevent]
  have hall : beyond (l.drop n) last.sequence = l.drop n := by
    refine List.filter_eq_self.mpr fun event hevent => decide_eq_true ?_
    exact hrest last (List.mem_append_right _ (List.mem_singleton_self _)) event hevent
  have happend : beyond l last.sequence = l.drop n := by
    conv_lhs => rw [hsplit]
    rw [beyond, List.filter_append]
    change beyond _ _ ++ beyond _ _ = _
    rw [hnone, hall, List.nil_append]
  rw [happend]
  exact hsplit

/-! ## The discipline of the streams -/

/-- The events of a run that the repository has. -/
abbrev storedEvents (s : ServiceState β) (runId : String) : List TraceEvent :=
  s.repository.eventsOf runId

/-- An ended run stays as it is. -/
def KeepsEnded (runId : String) (s s' : ServiceState β) : Prop :=
  s.runEnded runId = true →
    s'.runEnded runId = true ∧ storedEvents s' runId = storedEvents s runId

theorem keepsEnded_of_repository {runId : String} {s s' : ServiceState β}
    (h : s'.repository = s.repository) : KeepsEnded runId s s' := by
  intro hended
  rw [ServiceState.runEnded, storedEvents, h]
  exact ⟨hended, rfl⟩

theorem KeepsEnded.trans {runId : String} {a b c : ServiceState β} (hab : KeepsEnded runId a b)
    (hbc : KeepsEnded runId b c) : KeepsEnded runId a c := by
  intro h
  obtain ⟨hb, hevents⟩ := hab h
  obtain ⟨hc, hevents'⟩ := hbc hb
  exact ⟨hc, hevents'.trans hevents⟩

variable [DecidableEq κ]

/-- A stream that has ended: everything was sent before the end exactly if the last page was read
after the end of the run or there was nothing to send. -/
structure StreamEnded (runId : String) (k : κ) (start : ℕ)
    (now : Seen (Option κ) (ServiceState β) (RunNote β)) : Prop where
  ended : now.store.runEnded runId = true
  last : ∃ earlier, now.own (some k) = earlier ++ [.sent .end] ∧ .sent .end ∉ earlier
  delivered_iff : sentEvents (now.own (some k)) = beyond (storedEvents now.store runId) start ↔
    .pageRead [] true ∈ now.own (some k) ∨ beyond (storedEvents now.store runId) start = []

/-- Before the run ends there are no events, and afterwards their numbers increase. -/
structure StreamInv (runId : String) (start : κ → ℕ)
    (seen : Seen (Option κ) (ServiceState β) (RunNote β)) : Prop where
  before : seen.store.runEnded runId = false → storedEvents seen.store runId = []
  increasing : Increasing (storedEvents seen.store runId)
  closed : ∀ k, .sent .end ∈ seen.own (some k) → StreamEnded runId k (start k) seen

theorem StreamEnded.of_keepsEnded {runId : String} {k : κ} {start : ℕ}
    {seen now : Seen (Option κ) (ServiceState β) (RunNote β)} (h : StreamEnded runId k start seen)
    (hown : now.own (some k) = seen.own (some k)) (hkeeps : KeepsEnded runId seen.store now.store) :
    StreamEnded runId k start now := by
  obtain ⟨hended, hevents⟩ := hkeeps h.ended
  refine ⟨hended, ?_, ?_⟩
  · rw [hown]
    exact h.last
  · rw [hown, hevents]
    exact h.delivered_iff

/-- Streams only read, and nobody but the execution writes. -/
def streamDiscipline (runId : String) (start : κ → ℕ) :
    Discipline (Option κ) (ServiceState β) (RunNote β) where
  inv := StreamInv runId start
  guar
    | none, a, b => KeepsEnded runId a.store b.store ∧ ∀ j, none ≠ j → b.own j = a.own j
    | some k, a, b => b.store = a.store ∧ ∀ j, some k ≠ j → b.own j = a.own j
  rely
    | none, a, b => b.store = a.store ∧ b.own none = a.own none
    | some k, a, b => KeepsEnded runId a.store b.store ∧ b.own (some k) = a.own (some k)
  may _ _ _ := True
  rely_refl i a := by
    cases i with
    | none => exact ⟨rfl, rfl⟩
    | some k => exact ⟨keepsEnded_of_repository rfl, rfl⟩
  rely_trans i a b c hab hbc := by
    cases i with
    | none => exact ⟨hbc.1.trans hab.1, hbc.2.trans hab.2⟩
    | some k => exact ⟨hab.1.trans hbc.1, hbc.2.trans hab.2⟩
  rely_of_guar i j hij a b _ _ h := by
    cases i with
    | none =>
      cases j with
      | none => exact absurd rfl hij
      | some k => exact ⟨h.1, h.2 _ hij⟩
    | some k =>
      cases j with
      | none => exact ⟨h.1, h.2 _ hij⟩
      | some k' => exact ⟨keepsEnded_of_repository (by rw [h.1]), h.2 _ hij⟩

/-! ## The execution -/

section Execution

variable {runId : String} {start : κ → ℕ}
  {seen : Seen (Option κ) (ServiceState β) (RunNote β)}

/-- A step of the execution keeps the invariant when it leaves the stored events in order. -/
theorem StreamInv.execution_step (h : StreamInv runId start seen) {store : ServiceState β}
    {notes : List (RunNote β)}
    (hbefore : store.runEnded runId = false → storedEvents store runId = [])
    (hincreasing : Increasing (storedEvents store runId))
    (hkeeps : KeepsEnded runId seen.store store) :
    StreamInv runId start (seen.after none store notes) := by
  refine ⟨hbefore, hincreasing, fun k hk => ?_⟩
  have hown : (seen.after none store notes).own (some k) = seen.own (some k) :=
    seen.own_after_of_ne (by simp) _ _
  rw [hown] at hk
  exact (h.closed k hk).of_keepsEnded hown hkeeps

/-- A step of the execution that leaves the repository alone. -/
theorem meets_execution_aside {α γ : Type}
    {run : ServiceState β → Except RunError γ × ServiceState β}
    {notes : ServiceState β → List (RunNote β)} {f : γ → Program β α}
    {post : Except RunError α → Seen (Option κ) (ServiceState β) (RunNote β) → Prop}
    (hrun : ∀ s, (run s).2.repository = s.repository)
    (h : ∀ now later : Seen (Option κ) (ServiceState β) (RunNote β), now.store = seen.store →
      later.store.repository = seen.store.repository → StreamInv runId start later →
      (Prog.done (run now.store).1 >>= f).Meets (streamDiscipline runId start) none post later) :
    (Prog.perform run notes >>= f).Meets (streamDiscipline runId start) none post seen := by
  refine Prog.meets_perform_bind fun now hnow hinv _ => ?_
  have hstore : now.store = seen.store := hnow.1
  have hkeeps : KeepsEnded runId now.store (run now.store).2 := keepsEnded_of_repository (hrun _)
  have hinv' : StreamInv runId start
      (now.after none (run now.store).2 (notes now.store)) := by
    refine StreamInv.execution_step hinv ?_ ?_ hkeeps
    · rw [ServiceState.runEnded, storedEvents, hrun]
      exact hinv.before
    · rw [storedEvents, hrun]
      exact hinv.increasing
  refine ⟨hinv', ⟨hkeeps, fun j hj => now.own_after_of_ne hj _ _⟩, ?_⟩
  exact h now _ hstore (by rw [Seen.store_after, hrun, hstore]) hinv'

/-- The final record and the events of a run that has not ended are stored together. -/
theorem meets_execution_persist {record final : AgentRunRecord} {events : List TraceEvent}
    (hfinal : Concludes record final events) (hrecord : record.runId = runId)
    (hrunning : seen.store.runEnded runId = false) (task : Option String)
    (circumstances : Circumstances) :
    (persist task circumstances final events).Meets (streamDiscipline runId start) none
      (fun _ _ => True) seen := by
  intro now hnow hinv _ _
  have hstore : now.store = seen.store := hnow.1
  rw [← hstore] at hrunning
  have hkeeps (store : ServiceState β) : KeepsEnded runId now.store store := by
    intro hended
    rw [hrunning] at hended
    cases hended
  have hinv' (store : ServiceState β)
      (hchange : store.repository = now.store.repository ∨
        ∃ repository, now.store.repository.finalize final events = .ok repository ∧
          store.repository = repository) :
      StreamInv runId start (now.after none store []) := by
    rcases hchange with hsame | ⟨repository, hfinalize, rfl⟩
    · refine StreamInv.execution_step hinv ?_ ?_ (hkeeps store)
      · rw [ServiceState.runEnded, storedEvents, hsame]
        exact hinv.before
      · rw [storedEvents, hsame]
        exact hinv.increasing
    · obtain ⟨hruns, hevents⟩ := RunRepository.finalize_eq_ok hfinalize
      have hended : store.runEnded runId = true := by
        rw [ServiceState.runEnded, hruns, hfinal.runId, hrecord, Dict.get?_set_self]
        exact decide_eq_true hfinal.ended
      have hstored : storedEvents store runId = events := by
        rw [storedEvents, RunRepository.eventsOf, hevents, hfinal.runId, hrecord,
          Dict.get?_set_self]
        rfl
      refine StreamInv.execution_step hinv ?_ ?_ (hkeeps store)
      · intro hnot
        rw [hended] at hnot
        cases hnot
      · rw [hstored]
        exact hfinal.increasing
  refine ⟨hinv' _ (repository_persistStep task circumstances final events now.store), ?_, ?_⟩
  · exact ⟨hkeeps _, fun j hj => now.own_after_of_ne hj _ _⟩
  · exact fun _ _ _ => trivial

/-- The execution of a reserved run. -/
theorem meets_execution (setup : ServiceSetup) (task : Option String) (threadId : String)
    (principal : Principal) (circumstances : Circumstances) :
    (executePlan setup task runId threadId principal circumstances).Meets
      (streamDiscipline runId start) none (fun _ _ => True) seen := by
  refine meets_execution_aside (fun s => s.repository_moveTask _ _)
    fun now later hnow hlater _ => ?_
  dsimp only
  split
  · exact Prog.meets_done fun _ _ _ => trivial
  cases hopened : reservedRecord runId circumstances now.store with
  | error error => exact Prog.meets_done fun _ _ _ => trivial
  | ok opened =>
    rw [hnow] at hopened
    obtain ⟨hrecord, hrunning⟩ := reservedRecord_eq_ok hopened
    refine meets_execution_aside (fun s => s.repository_moveTask _ _)
      fun now' last hnow' hlast hinv => ?_
    have hlast : last.store.repository = seen.store.repository := hlast.trans hlater
    have hnot : last.store.runEnded runId = false := by
      rw [ServiceState.runEnded, hlast, hrecord]
      simp [hrunning]
    have hid := seen.store.repository.runs_keyed runId opened hrecord
    dsimp only
    generalize (if now'.store.cancelRequested task then Except.error RunError.cancelled
      else circumstances.result) = ended
    cases ended with
    | ok payload =>
      exact (meets_execution_persist (concludes_completedRecord ..) hid hnot task
        circumstances).bind
        (fun _ _ _ _ => Prog.meets_done fun _ _ _ => trivial) (fun _ _ _ _ => trivial) hinv
    | error error =>
      exact (meets_execution_persist (concludes_failedRecord ..) hid hnot task circumstances).bind
        (fun _ _ _ _ => Prog.meets_done fun _ _ _ => trivial) (fun _ _ _ _ => trivial) hinv

end Execution

/-! ## A stream -/

section Stream

variable {runId : String} {start : κ → ℕ} {k : κ} {α : Type}
  {seen now : Seen (Option κ) (ServiceState β) (RunNote β)}
  {post : Except RunError α → Seen (Option κ) (ServiceState β) (RunNote β) → Prop}

/-- What a stream relies on. -/
abbrev StreamRely (runId : String) (k : κ)
    (a b : Seen (Option κ) (ServiceState β) (RunNote β)) : Prop :=
  KeepsEnded runId a.store b.store ∧ b.own (some k) = a.own (some k)

/-- A stream that goes on: it has sent nothing, or what it has sent and what is beyond its cursor
are all it has to send. -/
structure StreamProgress (runId : String) (k : κ) (start cursor : ℕ)
    (now : Seen (Option κ) (ServiceState β) (RunNote β)) : Prop where
  sent : (cursor = start ∧ sentEvents (now.own (some k)) = []) ∨
    (now.store.runEnded runId = true ∧
      sentEvents (now.own (some k)) ++ beyond (storedEvents now.store runId) cursor =
        beyond (storedEvents now.store runId) start)
  noEnd : .sent .end ∉ now.own (some k)
  noLastPage : .pageRead [] true ∉ now.own (some k)

theorem StreamProgress.of_rely {cursor start : ℕ} (h : StreamProgress runId k start cursor seen)
    (hrely : StreamRely runId k seen now) : StreamProgress runId k start cursor now := by
  obtain ⟨hkeeps, hown⟩ := hrely
  refine ⟨?_, hown ▸ h.noEnd, hown ▸ h.noLastPage⟩
  rw [hown]
  rcases h.sent with hnone | ⟨hended, hsent⟩
  · exact .inl hnone
  · obtain ⟨hended', hevents⟩ := hkeeps hended
    rw [hevents]
    exact .inr ⟨hended', hsent⟩

/-- A step of a stream takes notes; if it ends the stream, everything has to be right. -/
theorem StreamInv.stream_step (h : StreamInv runId start now) {notes : List (RunNote β)}
    (hend : .sent .end ∈ now.own (some k) ++ notes →
      StreamEnded runId k (start k) (now.after (some k) now.store notes)) :
    StreamInv runId start (now.after (some k) now.store notes) := by
  refine ⟨h.before, h.increasing, fun j hj => ?_⟩
  by_cases hk : some k = some j
  · obtain rfl := Option.some.inj hk
    rw [Seen.own_after] at hj
    exact hend hj
  · have hown := now.own_after_of_ne hk now.store notes
    rw [hown] at hj
    exact (h.closed j hj).of_keepsEnded hown (keepsEnded_of_repository rfl)

/-- A stream takes a note that does not end it. -/
theorem meets_stream_note {n : RunNote β} (hn : n ≠ .sent .end)
    (hopen : .sent .end ∉ seen.own (some k)) :
    (Prog.note n : Program β Unit).Meets (streamDiscipline runId start) (some k)
      (fun result now => result = .ok () ∧ KeepsEnded runId seen.store now.store ∧
        now.own (some k) = seen.own (some k) ++ [n]) seen := by
  intro now hnow hinv _ _
  refine ⟨hinv.stream_step fun hend => ?_, ⟨rfl, fun j hj => now.own_after_of_ne hj _ _⟩, ?_⟩
  · rw [hnow.2, List.mem_append, List.mem_singleton] at hend
    exact absurd hend (not_or.mpr ⟨hopen, hn.symm⟩)
  · intro later hlater _
    refine ⟨rfl, hnow.1.trans hlater.1, ?_⟩
    rw [hlater.2, Seen.own_after, hnow.2]

theorem runEnded_of_get? {s : ServiceState β} {record : AgentRunRecord}
    (h : s.repository.runs.get? runId = some record) :
    s.runEnded runId = true ↔ record.status ≠ .running := by
  rw [ServiceState.runEnded, h]
  exact decide_eq_true_iff

/-- The status that `get_run` returns is the one at some moment of the call. -/
theorem meets_getRun_stream (process : ℕ) (principal : Principal) :
    (getRun process runId principal : Program β _).Meets (streamDiscipline runId start) (some k)
      (fun result now => StreamRely runId k seen now ∧ ∀ record, result = .ok record →
        (record.status ≠ .running → now.store.runEnded runId = true) ∧
        (seen.store.runEnded runId = true → record.status ≠ .running)) seen := by
  have htrans {a b c : Seen (Option κ) (ServiceState β) (RunNote β)}
      (hab : StreamRely runId k a b) (hbc : StreamRely runId k b c) : StreamRely runId k a c :=
    (streamDiscipline runId start).rely_trans (some k) a b c hab hbc
  have hchecked {record : AgentRunRecord} {now : Seen (Option κ) (ServiceState β) (RunNote β)}
      (hnow : StreamRely runId k seen now)
      (hget : now.store.repository.runs.get? runId = some record) :
      (do Prog.done (assertOwner record.owner principal); return record :
        Program β AgentRunRecord).Meets (streamDiscipline runId start) (some k)
          (fun result now => StreamRely runId k seen now ∧ ∀ record, result = .ok record →
            (record.status ≠ .running → now.store.runEnded runId = true) ∧
            (seen.store.runEnded runId = true → record.status ≠ .running)) now := by
    unfold assertOwner
    split
    · refine Prog.meets_done fun last hlast _ => ⟨htrans hnow hlast, fun other hother => ?_⟩
      obtain rfl := Except.ok.inj hother
      exact ⟨fun hstatus => (hlast.1 ((runEnded_of_get? hget).mpr hstatus)).1,
        fun hended => (runEnded_of_get? hget).mp (hnow.1 hended).1⟩
    · exact Prog.meets_done fun last hlast _ => ⟨htrans hnow hlast, fun _ => (nomatch ·)⟩
  have hread (a : Seen (Option κ) (ServiceState β) (RunNote β)) (_ : StreamInv runId start a) :
      (streamDiscipline runId start).guar (some k) a a := ⟨rfl, fun _ _ => rfl⟩
  unfold getRun
  refine Prog.meets_read_bind hread fun now hnow _ => ?_
  cases hget : now.store.repository.runs.get? runId with
  | some record => exact hchecked hnow hget
  | none =>
    refine Prog.meets_read_bind hread fun later hlater _ => ?_
    have hlater : StreamRely runId k seen later := htrans hnow hlater
    cases (later.store.processes process).tasks.contains runId with
    | false =>
      exact Prog.meets_done fun last hlast _ => ⟨htrans hlater hlast, fun _ => (nomatch ·)⟩
    | true =>
      refine Prog.meets_read_bind hread fun now hnow' _ => ?_
      have hnow : StreamRely runId k seen now := htrans hlater hnow'
      unfold RunRepository.get
      cases hget : now.store.repository.runs.get? runId with
      | some record => exact hchecked hnow hget
      | none => exact Prog.meets_done fun last hlast _ => ⟨htrans hnow hlast, fun _ => (nomatch ·)⟩

/-- What a stream knows after it has read a page. -/
structure PageRead (runId : String) (k : κ) (start cursor : ℕ) (page : List TraceEvent)
    (now : Seen (Option κ) (ServiceState β) (RunNote β)) : Prop where
  noEnd : .sent .end ∉ now.own (some k)
  full : page ≠ [] → now.store.runEnded runId = true ∧ .pageRead [] true ∉ now.own (some k) ∧
    page = (beyond (storedEvents now.store runId) cursor).take 200 ∧
    sentEvents (now.own (some k)) ++ beyond (storedEvents now.store runId) cursor =
      beyond (storedEvents now.store runId) start
  empty : page = [] →
    (now.store.runEnded runId = true ∧ .pageRead [] true ∈ now.own (some k) ∧
      sentEvents (now.own (some k)) = beyond (storedEvents now.store runId) start) ∨
    (cursor = start ∧ .pageRead [] true ∉ now.own (some k) ∧ sentEvents (now.own (some k)) = [])

theorem PageRead.of_rely {start cursor : ℕ} {page : List TraceEvent}
    (h : PageRead runId k start cursor page seen) (hrely : StreamRely runId k seen now) :
    PageRead runId k start cursor page now := by
  obtain ⟨hkeeps, hown⟩ := hrely
  refine ⟨hown ▸ h.noEnd, fun hpage => ?_, fun hpage => ?_⟩
  · obtain ⟨hended, hmore, htake, hsent⟩ := h.full hpage
    obtain ⟨hended', hevents⟩ := hkeeps hended
    rw [hown, hevents]
    exact ⟨hended', hmore, htake, hsent⟩
  · rw [hown]
    rcases h.empty hpage with ⟨hended, hmore, hsent⟩ | hnone
    · obtain ⟨hended', hevents⟩ := hkeeps hended
      rw [hevents]
      exact .inl ⟨hended', hmore, hsent⟩
    · exact .inr hnone

/-- The step that reads a page. -/
theorem meets_readPage {cursor : ℕ} (hprogress : StreamProgress runId k (start k) cursor seen) :
    (Prog.perform (fun s => (.ok (s.repository.trace runId cursor 200), s))
      (fun s => [.pageRead (s.repository.trace runId cursor 200) (s.runEnded runId)]) :
        Program β (List TraceEvent)).Meets (streamDiscipline runId start) (some k)
      (fun result now => .sent .end ∉ now.own (some k) ∧
        ∀ page, result = .ok page → PageRead runId k (start k) cursor page now) seen := by
  intro now hnow hinv _ _
  have hprogress := hprogress.of_rely hnow
  have hopen : .sent .end ∉ now.own (some k) ++ [.pageRead
      (now.store.repository.trace runId cursor 200) (now.store.runEnded runId)] := by
    simpa using hprogress.noEnd
  refine ⟨hinv.stream_step fun hend => absurd hend hopen,
    ⟨rfl, fun j hj => now.own_after_of_ne hj _ _⟩, fun last hlast _ => ?_⟩
  suffices hpage : PageRead runId k (start k) cursor (now.store.repository.trace runId cursor 200)
      (now.after (some k) now.store [.pageRead (now.store.repository.trace runId cursor 200)
        (now.store.runEnded runId)]) by
    have hpage := hpage.of_rely hlast
    exact ⟨hpage.noEnd, fun page heq => Except.ok.inj heq ▸ hpage⟩
  have htrace : now.store.repository.trace runId cursor 200 =
      (beyond (storedEvents now.store runId) cursor).take 200 := rfl
  have hown (page : List TraceEvent) (ended : Bool) :
      sentEvents (now.own (some k) ++ [.pageRead page ended]) = sentEvents (now.own (some k)) := by
    simp [sentEvents]
  refine ⟨by rwa [Seen.own_after], fun hfull => ?_, fun hempty => ?_⟩
  · have hended : now.store.runEnded runId = true := by
      by_contra hrunning
      refine hfull ?_
      rw [htrace, hinv.before (Bool.eq_false_iff.mpr hrunning)]
      rfl
    rw [Seen.own_after, hown]
    refine ⟨hended, ?_, htrace, ?_⟩
    · rw [List.mem_append, List.mem_singleton, not_or]
      refine ⟨hprogress.noLastPage, fun heq => hfull ?_⟩
      exact (RunNote.pageRead.inj heq).1.symm
    · rcases hprogress.sent with ⟨rfl, hnone⟩ | ⟨_, hsent⟩
      · rw [hnone, List.nil_append]
      · exact hsent
  · rw [Seen.own_after, hown]
    cases hended : now.store.runEnded runId with
    | true =>
      refine .inl ⟨hended, ?_, ?_⟩
      · rw [hempty]
        exact List.mem_append_right _ (List.mem_singleton_self _)
      · have hnone : beyond (storedEvents now.store runId) cursor = [] := by
          rw [htrace, List.take_eq_nil_iff] at hempty
          exact hempty.resolve_left (by decide)
        rcases hprogress.sent with ⟨rfl, hsent⟩ | ⟨_, hsent⟩
        · rw [hsent]
          exact hnone.symm
        · rw [hnone, List.append_nil] at hsent
          exact hsent
    | false =>
      rcases hprogress.sent with ⟨hcursor, hsent⟩ | ⟨hended', _⟩
      · refine .inr ⟨hcursor, ?_, hsent⟩
        rw [List.mem_append, List.mem_singleton, not_or]
        exact ⟨hprogress.noLastPage, fun heq => nomatch (RunNote.pageRead.inj heq).2⟩
      · rw [hended] at hended'
        cases hended'

/-- A page of the trace is read. -/
theorem meets_getTrace_stream (process : ℕ) (principal : Principal) {cursor : ℕ}
    (hinv : StreamInv runId start seen)
    (hprogress : StreamProgress runId k (start k) cursor seen) :
    (getTrace process runId principal cursor 200 : Program β _).Meets
      (streamDiscipline runId start) (some k)
      (fun result now => .sent .end ∉ now.own (some k) ∧
        ∀ page, result = .ok page → PageRead runId k (start k) cursor page now) seen := by
  unfold getTrace
  refine (meets_getRun_stream process principal).bind ?_ ?_ hinv
  · rintro _ now hinv ⟨hnow, -⟩
    have hprogress := hprogress.of_rely hnow
    refine Prog.meets_read_bind (fun _ _ => ⟨rfl, fun _ _ => rfl⟩) fun now hnow hinv => ?_
    have hprogress := hprogress.of_rely hnow
    unfold RunRepository.get
    cases now.store.repository.runs.get? runId with
    | none =>
      refine Prog.meets_done fun last hlast _ => ⟨?_, fun _ => (nomatch ·)⟩
      exact (hprogress.of_rely hlast).noEnd
    | some record => exact meets_readPage hprogress
  · rintro _ now hinv ⟨hnow, -⟩
    exact ⟨(hprogress.of_rely hnow).noEnd, fun _ => (nomatch ·)⟩

/-- The events of a page are sent one by one. -/
theorem meets_sendEvents (page : List TraceEvent)
    {seen : Seen (Option κ) (ServiceState β) (RunNote β)}
    (hinv : StreamInv runId start seen) (hopen : .sent .end ∉ seen.own (some k)) :
    (sendEvents page : Program β Unit).Meets (streamDiscipline runId start) (some k)
      (fun result now => result = .ok () ∧ KeepsEnded runId seen.store now.store ∧
        now.own (some k) =
          seen.own (some k) ++ page.map fun event => .sent (.trace event)) seen := by
  induction page generalizing seen with
  | nil =>
    refine Prog.meets_done fun last hlast _ => ⟨rfl, hlast.1, ?_⟩
    rw [List.map_nil, List.append_nil]
    exact hlast.2
  | cons event page ih =>
    refine (meets_stream_note (by simp) hopen).bind ?_ ?_ hinv
    · rintro _ now hinv ⟨-, hkeeps, hown⟩
      refine (ih hinv ?_).mono ?_
      · rw [hown]
        simpa using hopen
      · rintro _ last _ ⟨hok, hkeeps', hown'⟩
        refine ⟨hok, hkeeps.trans hkeeps', ?_⟩
        rw [hown', hown, List.append_assoc]
        rfl
    · rintro _ _ _ ⟨hok, -⟩
      cases hok

omit [DecidableEq κ] in
@[simp] theorem sentEvents_append (a b : List (RunNote β)) :
    sentEvents (a ++ b) = sentEvents a ++ sentEvents b := List.filterMap_append

omit [DecidableEq κ] in
@[simp] theorem sentEvents_map (page : List TraceEvent) :
    sentEvents (page.map fun event => (.sent (.trace event) : RunNote β)) = page := by
  rw [sentEvents, List.filterMap_map]
  exact List.filterMap_some

/-- The end of a stream. -/
theorem meets_sendEnd {cursor : ℕ} (hpage : PageRead runId k (start k) cursor [] seen)
    (hended : seen.store.runEnded runId = true) :
    (Prog.note (.sent .end) : Program β Unit).Meets (streamDiscipline runId start) (some k)
      (fun _ _ => True) seen := by
  intro now hnow hinv _ _
  have hpage := hpage.of_rely hnow
  have hended := (hnow.1 hended).1
  refine ⟨hinv.stream_step fun _ => ?_, ⟨rfl, fun j hj => now.own_after_of_ne hj _ _⟩,
    fun _ _ _ => trivial⟩
  have hsame : sentEvents [(.sent .end : RunNote β)] = [] := rfl
  refine ⟨hended, ⟨now.own (some k), now.own_after .., hpage.noEnd⟩, ?_⟩
  rw [Seen.own_after, sentEvents_append, hsame, List.append_nil, List.mem_append]
  rcases hpage.empty rfl with ⟨_, hmore, hsent⟩ | ⟨_, hmore, hsent⟩
  · exact iff_of_true hsent (.inl (.inl hmore))
  · rw [hsent]
    constructor
    · exact fun hnone => .inr hnone.symm
    · rintro ((hmem | hmem) | hnone)
      · exact absurd hmem hmore
      · cases List.mem_singleton.mp hmem
      · exact hnone.symm

/-- After a page that was not empty, or before the run has ended, a stream goes on. -/
theorem StreamProgress.of_page {cursor : ℕ} {page : List TraceEvent}
    {last : Seen (Option κ) (ServiceState β) (RunNote β)}
    (hincreasing : Increasing (storedEvents seen.store runId))
    (hpage : PageRead runId k (start k) cursor page seen)
    (hrunning : page = [] → seen.store.runEnded runId = false)
    (hkeeps : KeepsEnded runId seen.store last.store)
    {notes : List (RunNote β)} (hown : last.own (some k) = seen.own (some k) ++ notes)
    (hnotes : sentEvents notes = page) (hend : .sent .end ∉ notes)
    (hmore : .pageRead [] true ∉ notes) :
    StreamProgress runId k (start k) (cursorAfter cursor page) last := by
  by_cases hempty : page = []
  · subst hempty
    rcases hpage.empty rfl with ⟨hended, _⟩ | ⟨hcursor, hnoMore, hsent⟩
    · rw [hrunning rfl] at hended
      cases hended
    refine ⟨.inl ⟨hcursor, ?_⟩, ?_, ?_⟩
    · rw [hown, sentEvents_append, hsent, hnotes, List.append_nil]
    · rw [hown, List.mem_append]
      exact not_or.mpr ⟨hpage.noEnd, hend⟩
    · rw [hown, List.mem_append]
      exact not_or.mpr ⟨hnoMore, hmore⟩
  · obtain ⟨hended, hnoMore, htake, hsent⟩ := hpage.full hempty
    obtain ⟨hended', hevents⟩ := hkeeps hended
    refine ⟨.inr ⟨hended', ?_⟩, ?_, ?_⟩
    · have happend := beyond_eq_page_append hincreasing cursor 200 (htake ▸ hempty)
      rw [← htake] at happend
      rw [hown, sentEvents_append, hnotes, hevents, List.append_assoc, ← happend]
      exact hsent
    · rw [hown, List.mem_append]
      exact not_or.mpr ⟨hpage.noEnd, hend⟩
    · rw [hown, List.mem_append]
      exact not_or.mpr ⟨hnoMore, hmore⟩

/-- A stream, from any of its turns on. -/
theorem meets_streamRunEvents (process : ℕ) (principal : Principal) (turns : ℕ) {cursor : ℕ}
    {seen : Seen (Option κ) (ServiceState β) (RunNote β)} (hinv : StreamInv runId start seen)
    (hprogress : StreamProgress runId k (start k) cursor seen) :
    (streamRunEvents process runId principal turns cursor).Meets (streamDiscipline runId start)
      (some k) (fun _ _ => True) seen := by
  induction turns generalizing cursor seen with
  | zero => exact Prog.meets_done fun _ _ _ => trivial
  | succ turns ih =>
    unfold streamRunEvents
    refine (meets_getTrace_stream process principal hinv hprogress).bind ?_
      (fun _ _ _ _ => trivial) hinv
    rintro page now hread ⟨-, hpage⟩
    have hpage := hpage page rfl
    refine (meets_sendEvents page hread hpage.noEnd).bind ?_ (fun _ _ _ _ => trivial) hread
    rintro _ later hinv ⟨-, hkeeps, hown⟩
    refine (meets_getRun_stream process principal).bind ?_ (fun _ _ _ _ => trivial) hinv
    rintro record last hinv ⟨hlast, hrecord⟩
    obtain ⟨hended, hstill⟩ := hrecord record rfl
    have hkeeps' : KeepsEnded runId now.store last.store := hkeeps.trans hlast.1
    have hown' := hlast.2.trans hown
    split
    · next hend =>
      obtain ⟨hstatus, rfl⟩ := hend
      rw [List.map_nil, List.append_nil] at hown'
      exact meets_sendEnd (hpage.of_rely ⟨hkeeps', hown'⟩) (hended hstatus)
    next hend =>
    have hrunning (hempty : page = []) : now.store.runEnded runId = false := by
      rw [← Bool.not_eq_true]
      intro hnow
      exact hend ⟨hstill (hkeeps hnow).1, hempty⟩
    have hopen : .sent .end ∉ last.own (some k) := by
      rw [hown', List.mem_append]
      exact not_or.mpr ⟨hpage.noEnd, by simp⟩
    have hnext {final : Seen (Option κ) (ServiceState β) (RunNote β)} {notes : List (RunNote β)}
        (hfinal : KeepsEnded runId last.store final.store)
        (hnotes : final.own (some k) = last.own (some k) ++ notes)
        (hsent : sentEvents notes = []) (hquiet : .sent .end ∉ notes)
        (hmore : .pageRead [] true ∉ notes) :
        StreamProgress runId k (start k) (cursorAfter cursor page) final := by
      rw [hown', List.append_assoc] at hnotes
      refine .of_page hread.increasing hpage hrunning (hkeeps'.trans hfinal) hnotes ?_ ?_ ?_
      · rw [sentEvents_append, sentEvents_map, hsent, List.append_nil]
      · simpa using hquiet
      · simpa using hmore
    by_cases hempty : page = []
    · rw [if_pos hempty]
      refine (meets_stream_note (by simp) hopen).bind ?_ (fun _ _ _ _ => trivial) hinv
      rintro _ final hinv ⟨-, hfinal, hnote⟩
      exact ih hinv (hnext hfinal hnote rfl (by simp) (by simp))
    · rw [if_neg hempty]
      exact ih hinv (hnext (keepsEnded_of_repository rfl) (List.append_nil _).symm rfl (by simp)
        (by simp))

end Stream

/-! ## What has been delivered when a stream ends -/

section Delivered

variable {system : StreamSetup κ} {s : ServiceState β}
  {w : World (Option κ) (ServiceState β) (RunNote β) RunError Unit} {k : κ}

/-- Before its end a stream has sent every stored event after its start once, in order. -/
def Delivered (system : StreamSetup κ)
    (w : World (Option κ) (ServiceState β) (RunNote β) RunError Unit)
    (k : κ) : Prop :=
  ∃ earlier, w.own (some k) = earlier ++ [.sent .end] ∧ .sent .end ∉ earlier ∧
    sentEvents earlier = beyond (storedEvents w.store system.runId) (system.streams k).start ∧
    Increasing (sentEvents earlier)

/-- The last page was read after the run had ended: the final record and the events were not
stored between this page and the status that ended the stream. -/
def ReadAfterEnd (w : World (Option κ) (ServiceState β) (RunNote β) RunError Unit) (k : κ) : Prop :=
  .pageRead [] true ∈ w.own (some k)

theorem Delivered.sentEvents_eq (h : Delivered system w k) :
    sentEvents (w.own (some k)) =
      beyond (storedEvents w.store system.runId) (system.streams k).start := by
  obtain ⟨earlier, hown, _, hsent, _⟩ := h
  rw [hown, sentEvents_append, ← hsent]
  exact List.append_nil _

/-- The execution and the streams keep the discipline in every run. -/
theorem streams_disciplined (hreserved : Reserved s system.runId)
    (hrun : World.Run (fun _ _ _ => True) (system.world s) w) :
    w.Disciplined (streamDiscipline system.runId fun k => (system.streams k).start)
      fun _ _ _ => True := by
  obtain ⟨⟨record, hrecord, hrunning⟩, hevents⟩ := hreserved
  have hinv : StreamInv system.runId (fun k => (system.streams k).start)
      (⟨s, []⟩ : Seen (Option κ) (ServiceState β) (RunNote β)) := by
    refine ⟨fun _ => hevents, ?_, fun k hk => by cases hk⟩
    rw [storedEvents, hevents]
    exact List.Pairwise.nil
  refine World.Run.sound (D := streamDiscipline system.runId fun k => (system.streams k).start) hrun
    ⟨hinv, fun i => ?_⟩
  cases i with
  | none =>
    exact (meets_execution system.setup system.task system.threadId system.principal
      system.circumstances).bind (fun _ _ _ _ => Prog.meets_done fun _ _ _ => trivial)
      (fun _ _ _ _ => trivial) hinv
  | some k =>
    exact meets_streamRunEvents _ _ _ hinv ⟨.inl ⟨rfl, rfl⟩, List.not_mem_nil, List.not_mem_nil⟩

/-- A stream that has ended has delivered every event exactly if its last page was read after the
end of the run, or if there was no event to deliver. -/
theorem delivered_iff (hreserved : Reserved s system.runId)
    (hrun : World.Run (fun _ _ _ => True) (system.world s) w) (hend : .sent .end ∈ w.own (some k)) :
    Delivered system w k ↔ ReadAfterEnd w k ∨
      beyond (storedEvents w.store system.runId) (system.streams k).start = [] := by
  have hinv := (streams_disciplined hreserved hrun).inv
  obtain ⟨_, ⟨earlier, hown, hfirst⟩, hiff⟩ := hinv.closed k hend
  rw [ReadAfterEnd, ← hiff]
  refine ⟨Delivered.sentEvents_eq, fun hsent => ?_⟩
  rw [hown, sentEvents_append] at hsent
  have hsent : sentEvents earlier =
      beyond (storedEvents w.store system.runId) (system.streams k).start :=
    (List.append_nil _).symm.trans hsent
  refine ⟨earlier, hown, hfirst, hsent, ?_⟩
  rw [hsent]
  exact hinv.increasing.sublist List.filter_sublist

end Delivered

/-! ## A run with one stream -/

/-- A run that is cancelled, and a stream of its events. -/
def sampleStream : StreamSetup Unit :=
  { setup := { usesQueue := false }, task := none, runId := "run", threadId := "thread"
    principal := ⟨"tenant", "user"⟩, circumstances := { result := .error .cancelled }
    streams := fun _ => { process := 0, principal := ⟨"tenant", "user"⟩, start := 0, turns := 3 } }

/-- The run is reserved. -/
def sampleReserved : ServiceState RunJob :=
  { repository := ({} : RunRepository).put (newRecord {} .structuredPlan
      { runId := "run", tenantId := "tenant", userId := "user" } none 0) }

theorem reserved_sampleReserved : Reserved sampleReserved "run" := ⟨⟨_, rfl, rfl⟩, rfl⟩

theorem delivered_iff_sample :
    Delivered sampleStream ((sampleStream.world sampleReserved).runAll
      [none, none, none, some (), some (), some (), some (), some (), some (), some (), some (),
        some (), some (), some (), some (), some ()]) () :=
  (delivered_iff reserved_sampleReserved (World.run_runAll _ _) (by decide +kernel)).mpr
    (.inl (by unfold ReadAfterEnd; decide +kernel))

/-- When the run ends between the page and the status of one turn, the stream ends without any
event. -/
theorem exists_run_not_delivered :
    ∃ w, World.Run (fun _ _ _ => True) (sampleStream.world sampleReserved) w ∧
      .sent .end ∈ w.own (some ()) ∧ ¬Delivered sampleStream w () := by
  refine ⟨_, World.run_runAll _ [some (), some (), some (), none, none, none, some (), some ()],
    by decide +kernel, fun h => ?_⟩
  exact absurd h.sentEvents_eq (by decide +kernel)

end TravelPlanAgent
