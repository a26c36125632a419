import TravelPlanAgent.Runs.EventStream

/-!
# Reading a trace page by page

A page ends the trace when it has fewer events than were asked for.  The tool clamps the limit
before it asks, and compares the length of the page with the limit that it was given.

* `getAgentTrace`, `replayExecutionTrace`, `readTrace`: the endpoint, the tool and the resource.
* `Reads`: the pages that are read by following `next_sequence`, until there is none.
* `reads_of_full_pages`: pages that are judged by the limit they were read with give everything.
* `reads_replay_iff`, `readTrace_iff`: when the tool and the resource give everything.
* `tracePaging_iff`: both entry points and the resource, for every limit.
* `exists_not_tracePaging`: one event more than the clamp, and a limit above it.
-/

namespace TravelPlanAgent

variable {β : Type}

/-! ## Pages -/

/-- `TracePage`, and what the tool answers. -/
structure TracePage where
  runId : String
  events : List TraceEvent
  nextSequence : Option ℕ
  deriving DecidableEq

/-- `values[-1].sequence if len(values) == limit else None`. -/
def nextSequence (values : List TraceEvent) (limit : ℤ) : Except RunError (Option ℕ) :=
  if (values.length : ℤ) = limit then
    match values.getLast? with
    | some last => .ok (some last.sequence)
    | none => .error (.raised "builtins" "IndexError")
  else .ok none

section Entries

variable (process : ℕ) (runId : String) (principal : Principal)

/-- A page that is read with one limit and judged by another. -/
def readPage (queried requested : ℤ) (afterSequence : ℕ) : Program β TracePage := do
  let values ← getTrace process runId principal afterSequence queried.toNat
  let next ← .done (nextSequence values requested)
  return ⟨runId, values, next⟩

/-- `get_agent_trace`.  Limits outside 1 to 500 are refused before it is called. -/
def getAgentTrace (limit : ℤ) (afterSequence : ℕ) : Program β TracePage :=
  readPage process runId principal limit limit afterSequence

/-- `replay_execution_trace`. -/
def replayExecutionTrace (limit : ℤ) (afterSequence : ℕ) : Program β TracePage :=
  readPage process runId principal (min (max limit 1) 500) limit afterSequence

/-- `read_trace`: the events that are written to the text. -/
def readTrace : Program β (List TraceEvent) := getTrace process runId principal 0 500

end Entries

/-! ## Following the pages -/

/-- The pages that are read in a state from a cursor, until one has no next cursor, give these
events together. -/
inductive Reads (page : ℕ → Program β TracePage) (s : ServiceState β) :
    ℕ → List TraceEvent → Prop where
  | last {cursor : ℕ} {read : TracePage} (hread : (page cursor).alone s = some (.ok read, s))
      (hlast : read.nextSequence = none) : Reads page s cursor read.events
  | next {cursor next : ℕ} {read : TracePage} {rest : List TraceEvent}
      (hread : (page cursor).alone s = some (.ok read, s))
      (hnext : read.nextSequence = some next) (hrest : Reads page s next rest) :
      Reads page s cursor (read.events ++ rest)

/-- The stored trace of a run of the principal: numbered in order, from one on. -/
structure StoredTrace (s : ServiceState β) (runId : String) (principal : Principal)
    (events : List TraceEvent) : Prop where
  owned : ∃ record, s.repository.runs.get? runId = some record ∧ record.owner = principal
  stored : storedEvents s runId = events
  increasing : Increasing events
  positive : ∀ event ∈ events, 1 ≤ event.sequence

section Stored

variable {s : ServiceState β} {runId : String} {principal : Principal} {events : List TraceEvent}
  {process : ℕ}

theorem alone_getTrace (h : StoredTrace s runId principal events) (cursor limit : ℕ) :
    (getTrace process runId principal cursor limit).alone s =
      some (.ok ((beyond events cursor).take limit), s) := by
  obtain ⟨record, hrecord, howner⟩ := h.owned
  have hrun : (getRun process runId principal : Program β AgentRunRecord).alone s =
      some (.ok record, s) := by
    unfold getRun
    have hread : (Except.ok (s.repository.runs.get? runId) : Except RunError _) =
        .ok (some record) := by rw [hrecord]
    rw [Prog.alone_read_bind (fun s : ServiceState β => .ok (s.repository.runs.get? runId)) hread]
    change (Prog.done (assertOwner record.owner principal) >>= fun _ => pure record).alone s = _
    rw [assertOwner, if_pos howner]
    rfl
  have hget : s.repository.get runId = .ok record := by rw [RunRepository.get, hrecord]
  have hstored : s.repository.eventsOf runId = events := h.stored
  unfold getTrace
  rw [Prog.alone_bind _ _ hrun,
    Prog.alone_read_bind (fun s : ServiceState β => s.repository.get runId) hget,
    Prog.alone_perform, RunRepository.trace, hstored]
  rfl

/-- A page of a stored trace. -/
theorem alone_readPage (h : StoredTrace s runId principal events) (queried requested : ℤ)
    (cursor : ℕ) :
    (readPage process runId principal queried requested cursor).alone s =
      match nextSequence ((beyond events cursor).take queried.toNat) requested with
      | .ok next => some (.ok ⟨runId, (beyond events cursor).take queried.toNat, next⟩, s)
      | .error error => some (.error error, s) := by
  unfold readPage
  rw [Prog.alone_bind _ _ (alone_getTrace h cursor queried.toNat)]
  cases nextSequence ((beyond events cursor).take queried.toNat) requested <;> rfl

/-! ## Pages judged by the limit they were read with -/

/-- A page of the events after a cursor ends the trace exactly when it is not full. -/
theorem nextSequence_take {limit : ℤ} (hlimit : 1 ≤ limit) (rest : List TraceEvent) :
    (rest.length < limit → nextSequence (rest.take limit.toNat) limit = .ok none) ∧
    (limit ≤ rest.length → rest.take limit.toNat ≠ [] ∧
      nextSequence (rest.take limit.toNat) limit =
        .ok (some (cursorAfter 0 (rest.take limit.toNat)))) := by
  constructor
  · intro hshort
    rw [nextSequence, if_neg]
    rw [List.length_take]
    omega
  · intro hfull
    have hlength : (rest.take limit.toNat).length = limit.toNat := by
      rw [List.length_take]
      omega
    have hne : rest.take limit.toNat ≠ [] := by
      rw [← List.length_pos_iff]
      omega
    obtain ⟨last, hlast⟩ := Option.ne_none_iff_exists'.mp (mt List.getLast?_eq_none_iff.mp hne)
    refine ⟨hne, ?_⟩
    rw [nextSequence, if_pos (by omega), cursorAfter, hlast]
    rfl

/-- The cursor after a page does not depend on the cursor before it. -/
theorem cursorAfter_of_ne_nil {page : List TraceEvent} (h : page ≠ []) (cursor cursor' : ℕ) :
    cursorAfter cursor page = cursorAfter cursor' page := by
  obtain ⟨last, hlast⟩ := Option.ne_none_iff_exists'.mp (mt List.getLast?_eq_none_iff.mp h)
  rw [cursorAfter, cursorAfter, hlast]
  rfl

/-- Pages that are judged by the limit they were read with give everything after the cursor. -/
theorem reads_of_full_pages (h : StoredTrace s runId principal events) {limit : ℤ}
    (hlimit : 1 ≤ limit) (cursor : ℕ) :
    Reads (readPage process runId principal limit limit) s cursor (beyond events cursor) := by
  -- the events that are left become fewer with every full page
  induction hn : (beyond events cursor).length using Nat.strong_induction_on
    generalizing cursor with
  | _ n ih =>
    obtain ⟨hshort, hfull⟩ := nextSequence_take hlimit (beyond events cursor)
    have hpage : (readPage process runId principal limit limit cursor).alone s = _ :=
      alone_readPage h limit limit cursor
    rcases lt_or_ge ((beyond events cursor).length : ℤ) limit with hlt | hle
    · rw [hshort hlt, List.take_of_length_le (by omega)] at hpage
      exact Reads.last hpage rfl
    · obtain ⟨hne, hnext⟩ := hfull hle
      rw [hnext] at hpage
      have hsplit := beyond_eq_page_append h.increasing cursor limit.toNat hne
      rw [cursorAfter_of_ne_nil hne cursor 0] at hsplit
      have hlength := congrArg List.length hsplit
      rw [List.length_append] at hlength
      have hpos := List.length_pos_iff.mpr hne
      have hrest := ih _ (by omega) (cursorAfter 0 ((beyond events cursor).take limit.toNat)) rfl
      rw [hsplit]
      exact Reads.next hpage rfl hrest

/-- Nothing is before the first event. -/
theorem beyond_zero (h : StoredTrace s runId principal events) : beyond events 0 = events :=
  List.filter_eq_self.mpr fun event hevent => decide_eq_true (h.positive event hevent)

theorem reads_getAgentTrace (h : StoredTrace s runId principal events) {limit : ℤ}
    (hlimit : 1 ≤ limit) : Reads (getAgentTrace process runId principal limit) s 0 events := by
  have hreads : Reads (getAgentTrace process runId principal limit) s 0 _ :=
    reads_of_full_pages h hlimit 0
  rwa [beyond_zero h] at hreads

/-! ## The clamp -/

/-- The pages of a cursor are determined. -/
theorem Reads.unique {page : ℕ → Program β TracePage} {cursor : ℕ} {left right : List TraceEvent}
    (hleft : Reads page s cursor left) (hright : Reads page s cursor right) : left = right := by
  induction hleft generalizing right with
  | last hread hlast =>
    cases hright with
    | last hread' hlast' =>
      rw [hread] at hread'
      cases hread'
      rfl
    | next hread' hnext' hrest' =>
      rw [hread] at hread'
      cases hread'
      rw [hlast] at hnext'
      cases hnext'
  | next hread hnext hrest ih =>
    cases hright with
    | last hread' hlast' =>
      rw [hread] at hread'
      cases hread'
      rw [hnext] at hlast'
      cases hlast'
    | next hread' hnext' hrest' =>
      rw [hread] at hread'
      cases hread'
      rw [hnext] at hnext'
      cases hnext'
      rw [ih hrest']

theorem Reads.exists_page {page : ℕ → Program β TracePage} {cursor : ℕ}
    (h : Reads page s cursor events) : ∃ read, (page cursor).alone s = some (.ok read, s) := by
  cases h with
  | last hread _ => exact ⟨_, hread⟩
  | next hread _ _ => exact ⟨_, hread⟩

/-- A first page without a next cursor is everything that is read. -/
theorem reads_iff_of_single {page : ℕ → Program β TracePage} {read : TracePage}
    (hread : (page 0).alone s = some (.ok read, s)) (hlast : read.nextSequence = none)
    (events : List TraceEvent) : Reads page s 0 events ↔ events = read.events := by
  constructor
  · intro h
    exact h.unique (Reads.last hread hlast)
  · rintro rfl
    exact Reads.last hread hlast

/-- What the tool needs: no more events than the clamp, and a limit that the clamp leaves or a
trace that fits into the one event that is read. -/
def FitsClamp (length : ℕ) (limit : ℤ) : Prop :=
  (1 ≤ limit → limit ≤ 500 ∨ length ≤ 500) ∧
    (limit < 1 → length ≤ 1 ∧ (limit = 0 → length = 1))

theorem reads_replay_iff (h : StoredTrace s runId principal events) (limit : ℤ) :
    Reads (replayExecutionTrace process runId principal limit) s 0 events ↔
      FitsClamp events.length limit := by
  have hpage : (replayExecutionTrace process runId principal limit 0).alone s = _ :=
    alone_readPage h (min (max limit 1) 500) limit 0
  rw [beyond_zero h] at hpage
  rcases lt_or_ge limit 1 with hlow | hlow
  · have hclamp : (min (max limit 1) 500).toNat = 1 := by omega
    rw [hclamp] at hpage
    by_cases hnothing : limit = 0 ∧ events = []
    · obtain ⟨rfl, rfl⟩ := hnothing
      refine iff_of_false (fun hreads => ?_) fun hfits => ?_
      · obtain ⟨read, hread⟩ := hreads.exists_page
        exact absurd (hread.symm.trans hpage) (by simp [nextSequence])
      · exact absurd ((hfits.2 (by omega)).2 rfl) (by simp)
    · have hpos : limit = 0 → 0 < events.length := fun hzero =>
        List.length_pos_iff.mpr fun hnil => hnothing ⟨hzero, hnil⟩
      have hnone : nextSequence (events.take 1) limit = .ok none := by
        rw [nextSequence, if_neg]
        rw [List.length_take]
        omega
      rw [hnone] at hpage
      rw [reads_iff_of_single hpage rfl, eq_comm, List.take_eq_self_iff]
      constructor
      · intro hlength
        exact ⟨fun h => absurd h (by omega), fun _ => ⟨hlength, by omega⟩⟩
      · intro hfits
        exact (hfits.2 hlow).1
  rcases le_or_gt limit 500 with hhigh | hhigh
  · have hclamp : min (max limit 1) 500 = limit := by omega
    refine iff_of_true ?_ ⟨fun _ => .inl hhigh, fun h => absurd h (by omega)⟩
    unfold replayExecutionTrace
    rw [hclamp]
    exact reads_getAgentTrace h hlow
  · have hclamp : (min (max limit 1) 500).toNat = 500 := by omega
    have hnone : nextSequence (events.take 500) limit = .ok none := by
      rw [nextSequence, if_neg]
      rw [List.length_take]
      omega
    rw [hclamp, hnone] at hpage
    rw [reads_iff_of_single hpage rfl, eq_comm, List.take_eq_self_iff]
    constructor
    · intro hlength
      exact ⟨fun _ => .inr hlength, fun h => absurd h (by omega)⟩
    · intro hfits
      exact (hfits.1 hlow).resolve_left (by omega)

theorem readTrace_iff (h : StoredTrace s runId principal events) :
    (readTrace process runId principal).alone s = some (.ok events, s) ↔ events.length ≤ 500 := by
  unfold readTrace
  rw [alone_getTrace h, beyond_zero h, ← List.take_eq_self_iff]
  constructor
  · intro hread
    exact Except.ok.inj (Prod.mk.inj (Option.some.inj hread)).1
  · intro hall
    rw [hall]

/-! ## The three ways to read a trace -/

/-- The endpoint with every limit that it accepts, the tool with this limit, and the resource
return every event once. -/
structure TracePaging (process : ℕ) (s : ServiceState β) (runId : String) (principal : Principal)
    (limit : ℤ) (events : List TraceEvent) : Prop where
  endpoint : ∀ accepted : ℤ, 1 ≤ accepted → accepted ≤ 500 →
    Reads (getAgentTrace process runId principal accepted) s 0 events
  tool : Reads (replayExecutionTrace process runId principal limit) s 0 events
  resource : (readTrace process runId principal).alone s = some (.ok events, s)

/-- A trace is returned completely exactly when it has at most as many events as the clamp
allows, and the limit is positive unless one event is all there is. -/
theorem tracePaging_iff (h : StoredTrace s runId principal events) (limit : ℤ) :
    TracePaging process s runId principal limit events ↔
      events.length ≤ 500 ∧ (limit < 1 → events.length ≤ 1 ∧ (limit = 0 → events.length = 1)) := by
  constructor
  · intro hpaging
    exact ⟨(readTrace_iff h).mp hpaging.resource, ((reads_replay_iff h limit).mp hpaging.tool).2⟩
  · rintro ⟨hlength, hlow⟩
    exact ⟨fun _ haccepted _ => reads_getAgentTrace h haccepted,
      (reads_replay_iff h limit).mpr ⟨fun _ => .inr hlength, hlow⟩, (readTrace_iff h).mpr hlength⟩

end Stored

/-! ## A trace that is longer than the clamp -/

/-- A run with this many events. -/
def tracedRun (length : ℕ) : ServiceState RunJob :=
  let record := newRecord {} .structuredPlan
    { runId := "run", tenantId := "tenant", userId := "user" } none 0
  let events := (List.range' 1 length).map fun sequence =>
    { runId := "run", sequence, eventType := .other "node.started", status := "started" }
  { repository := { ({} : RunRepository).put record with
      events := (∅ : Dict String (List TraceEvent)).set "run" events } }

theorem storedTrace_tracedRun (length : ℕ) :
    StoredTrace (tracedRun length) "run" ⟨"tenant", "user"⟩
      ((List.range' 1 length).map fun sequence =>
        { runId := "run", sequence, eventType := .other "node.started", status := "started" }) := by
  refine ⟨⟨_, rfl, rfl⟩, rfl, ?_, ?_⟩
  · exact List.pairwise_map.mpr List.pairwise_lt_range'
  · intro event hevent
    obtain ⟨sequence, hsequence, rfl⟩ := List.mem_map.mp hevent
    exact (List.mem_range'_1.mp hsequence).1

/-- Three events, two of them asked for at a time. -/
theorem tracePaging_iff_three :
    TracePaging 0 (tracedRun 3) "run" ⟨"tenant", "user"⟩ 2
      ((List.range' 1 3).map fun sequence =>
        { runId := "run", sequence, eventType := .other "node.started", status := "started" }) :=
  (tracePaging_iff (storedTrace_tracedRun 3) 2).mpr ⟨by decide, fun h => absurd h (by decide)⟩

/-- For 501 events and the limit 1000, the tool returns 500 events and no next cursor. -/
theorem exists_not_tracePaging :
    ∃ (s : ServiceState RunJob) (events : List TraceEvent) (limit : ℤ),
      StoredTrace s "run" ⟨"tenant", "user"⟩ events ∧
        ¬ Reads (replayExecutionTrace 0 "run" ⟨"tenant", "user"⟩ limit) s 0 events ∧
        ¬ TracePaging 0 s "run" ⟨"tenant", "user"⟩ limit events := by
  have hstored := storedTrace_tracedRun 501
  have hmissed : ¬ Reads (replayExecutionTrace 0 "run" ⟨"tenant", "user"⟩ 1000) (tracedRun 501) 0
      _ := fun hreads => by
    have hfits := ((reads_replay_iff hstored 1000).mp hreads).1 (by omega)
    rw [List.length_map, List.length_range'] at hfits
    omega
  exact ⟨_, _, 1000, hstored, hmissed, fun hpaging => hmissed hpaging.tool⟩

end TravelPlanAgent
