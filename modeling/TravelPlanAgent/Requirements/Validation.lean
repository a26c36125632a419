import TravelPlanAgent.Requirements.Models

/-!
# From a draft to a trip

A draft is validated, and from a draft without issues and the places of its anchors a trip is
assembled, which checks for itself.  The two checks agree but for one: the daily times are compared
by the validation only when both are given, and by the trip with the default for a missing one.

* `validateRequirement`, `assembleTripSpec`: the two functions.
* `Supports`, `supports_of_valid`: what a draft without issues has.
* `AssembledFrom`: the fields of a trip are those of the draft, or the defaults.
* `assembleTripSpec_iff`: the trip is assembled exactly when a single daily time fits the default.
* `exists_not_assembled`: a late start without an end.
* `exists_tripSpec`: what is assembled is a trip for the planner.
-/

namespace TravelPlanAgent

open Calendar

variable [Platform]

/-! ## Validation -/

inductive RequirementIssueCode where
  | missing | ambiguous | conflict | notFound | invalid
  deriving DecidableEq

structure RequirementIssue where
  code : RequirementIssueCode
  field : String
  message : String
  question : Option String
  blocking : Bool
  deriving DecidableEq

/-- `_issue`, when there is one. -/
def issueWhen (found : Bool) (code : RequirementIssueCode) (field message question : String) :
    List RequirementIssue :=
  if found then [⟨code, field, message, some question, true⟩] else []

/-- The required fields, whether they are missing, and `_MISSING_QUESTIONS`. -/
def requiredFields (draft : RequirementDraft) : List (String × Bool × String) :=
  [("destination", !given draft.destination, "这次旅行的目的地城市是哪里？"),
    ("start_date", draft.startDate.isNone, "行程从哪一天开始？请提供完整日期。"),
    ("end_date", draft.endDate.isNone, "行程在哪一天结束？请提供完整日期。"),
    ("arrival.name", !draft.arrival.any fun anchor => given anchor.name,
      "你会从哪个车站、机场或地点抵达？"),
    ("arrival.at", !draft.arrival.any fun anchor => anchor.instant.isSome,
      "预计何时抵达？请提供日期和时间。"),
    ("departure.name", !draft.departure.any fun anchor => given anchor.name,
      "你会从哪个车站、机场或地点离开？"),
    ("departure.at", !draft.departure.any fun anchor => anchor.instant.isSome,
      "预计何时离开？请提供日期和时间。")]

def missingIssues (draft : RequirementDraft) : List RequirementIssue :=
  (requiredFields draft).flatMap fun (field, isMissing, question) =>
    issueWhen isMissing .missing field ("缺少必要字段 " ++ field) question

def dateRangeIssues (draft : RequirementDraft) : List RequirementIssue :=
  match draft.startDate, draft.endDate with
  | some startDate, some endDate =>
    issueWhen (decide (endDate < startDate)) .conflict "date_range" "行程结束日期早于开始日期"
      "请确认正确的开始日期和结束日期。"
  | _, _ => []

/-- `draft.arrival.at if draft.arrival else None`, and the same for the departure. -/
def momentOf (anchor : Option AnchorDraft) : Option WallDateTime := anchor.bind AnchorDraft.instant

def transportIssues (draft : RequirementDraft) (zone : Zone) : Result (List RequirementIssue) :=
  match momentOf draft.arrival, momentOf draft.departure with
  | some arrivalAt, some departureAt => do
    let arrival ← localized zone arrivalAt
    let departure ← localized zone departureAt
    return issueWhen (decide (wallClock departure ≤ wallClock arrival)) .conflict "transport_time"
      "离开时间必须晚于抵达时间" "请确认正确的抵达和离开日期时间。"
  | _, _ => .ok []

def arrivalIssues (draft : RequirementDraft) (zone : Zone) : Result (List RequirementIssue) :=
  match momentOf draft.arrival, draft.startDate with
  | some arrivalAt, some startDate => do
    let arrival ← localized zone arrivalAt
    return issueWhen (decide (arrival.date < startDate)) .conflict "arrival.at"
      "抵达日期不能早于行程开始日期" "请确认行程开始日期或抵达时间。"
  | _, _ => .ok []

def departureIssues (draft : RequirementDraft) (zone : Zone) : Result (List RequirementIssue) :=
  match momentOf draft.departure, draft.endDate with
  | some departureAt, some endDate => do
    let departure ← localized zone departureAt
    return issueWhen (decide (endDate < departure.date)) .conflict "departure.at"
      "离开日期不能晚于行程结束日期" "请确认行程结束日期或离开时间。"
  | _, _ => .ok []

def travelersIssues (draft : RequirementDraft) : List RequirementIssue :=
  issueWhen (draft.travelers.any fun travelers => !decide (1 ≤ travelers ∧ travelers ≤ 20)) .invalid
    "travelers" "出行人数必须在 1 到 20 之间" "这次共有多少位旅行者？"

def budgetIssues (draft : RequirementDraft) : List RequirementIssue :=
  issueWhen (draft.totalBudget.any fun budget => decide (budget ≤ 0)) .invalid "total_budget"
    "预算必须为正数" "请提供一个大于 0 的总预算，或说明暂不限制预算。"

def windowIssues (draft : RequirementDraft) : Result (List RequirementIssue) :=
  match draft.dailyStart, draft.dailyEnd with
  | some dailyStart, some dailyEnd => do
    let closed ← dailyEnd.le dailyStart
    return issueWhen closed .conflict "daily_window" "每日结束时间必须晚于开始时间"
      "每天希望从几点游玩到几点？"
  | _, _ => .ok []

/-- `validate_requirement`. -/
def validateRequirement (draft : RequirementDraft) (zone : Zone) :
    Result (List RequirementIssue) := do
  let transport ← transportIssues draft zone
  let arrival ← arrivalIssues draft zone
  let departure ← departureIssues draft zone
  let window ← windowIssues draft
  return missingIssues draft ++ dateRangeIssues draft ++ transport ++ arrival ++ departure ++
    travelersIssues draft ++ budgetIssues draft ++ window

/-! ## Assembly -/

/-- The places found for the anchors. -/
abbrev AnchorResolutions := Dict AnchorRole AnchorResolution

/-- The place of the accommodation, if the draft names one. -/
def resolvedAccommodation (draft : RequirementDraft) (resolutions : AnchorResolutions) :
    Result (Option LocationAnchor) :=
  if given draft.accommodationName then do
    let resolution ← orRaise (resolutions.get? .accommodation)
      (.valueError "accommodation anchor must be resolved")
    return some ⟨resolution.resolvedName, resolution.coordinate⟩
  else .ok none

/-- The anchor of an arrival or a departure. -/
def assembledAnchor (anchor : Option AnchorDraft) (zone : Zone) (resolution : AnchorResolution) :
    Result TransportAnchor := do
  let value ← orRaise (momentOf anchor) .assertionError
  let moment ← localized zone value
  return ⟨resolution.resolvedName, moment, resolution.coordinate⟩

/-- `time(9, 0)`. -/
def defaultDailyStart : ClockTime := .ofHourMinute 9 0

/-- `time(20, 0)`. -/
def defaultDailyEnd : ClockTime := .ofHourMinute 20 0

/-- `assemble_trip_spec`. -/
def assembleTripSpec (draft : RequirementDraft) (resolutions : AnchorResolutions) (zone : Zone) :
    Result TripFields := do
  let issues ← validateRequirement draft zone
  require (issues = []) (.valueError ("cannot assemble TripSpec with requirement issues: " ++
    ", ".intercalate (issues.map RequirementIssue.field)))
  let unresolved := Failure.valueError "arrival and departure anchors must be resolved"
  let arrivalResolution ← orRaise (resolutions.get? .arrival) unresolved
  let departureResolution ← orRaise (resolutions.get? .departure) unresolved
  let destination ← orRaise draft.destination .assertionError
  let startDate ← orRaise draft.startDate .assertionError
  let endDate ← orRaise draft.endDate .assertionError
  require (draft.arrival.any fun anchor => given anchor.name && anchor.instant.isSome)
    .assertionError
  require (draft.departure.any fun anchor => given anchor.name && anchor.instant.isSome)
    .assertionError
  let accommodation ← resolvedAccommodation draft resolutions
  let arrival ← assembledAnchor draft.arrival zone arrivalResolution
  let departure ← assembledAnchor draft.departure zone departureResolution
  createTripSpec {
    destination, startDate, endDate
    travelers := draft.travelers.getD 1
    arrival, departure, accommodation
    totalBudget := draft.totalBudget
    interests := draft.interests
    avoid := draft.avoid
    mustVisit := draft.mustVisit
    pace := draft.pace.getD .balanced
    mobility := draft.mobility.getD {}
    dailyStart := draft.dailyStart.getD defaultDailyStart
    dailyEnd := draft.dailyEnd.getD defaultDailyEnd }

/-! ## What a draft without issues has -/

/-- A name is given and the moment is this one. -/
def AnchorAt (anchor : Option AnchorDraft) (zone : Zone) (moment : DateTime) : Prop :=
  ∃ written value, anchor = some written ∧ given written.name = true ∧
    written.instant = some value ∧ localized zone value = .ok moment

/-- A draft has what a trip needs, and its fields agree with each other. -/
structure Supports (draft : RequirementDraft) (zone : Zone) (destination : String)
    (startDate endDate : Date) (arrival departure : DateTime) : Prop where
  destination_eq : draft.destination = some destination
  destination_ne : destination ≠ ""
  startDate_eq : draft.startDate = some startDate
  endDate_eq : draft.endDate = some endDate
  arrivalAt : AnchorAt draft.arrival zone arrival
  departureAt : AnchorAt draft.departure zone departure
  dates : startDate ≤ endDate
  arrives : startDate ≤ arrival.date
  leaves : departure.date ≤ endDate
  order : wallClock arrival < wallClock departure
  travelers : ∀ travelers ∈ draft.travelers, 1 ≤ travelers ∧ travelers ≤ 20
  budget : ∀ budget ∈ draft.totalBudget, 0 < budget
  window : ∀ dailyStart ∈ draft.dailyStart, ∀ dailyEnd ∈ draft.dailyEnd,
    dailyEnd.le dailyStart = .ok false

section Valid

variable {draft : RequirementDraft} {zone : Zone}

omit [Platform] in
theorem issueWhen_eq_nil {found : Bool} {code : RequirementIssueCode}
    {field message question : String} :
    issueWhen found code field message question = [] ↔ found = false := by
  cases found <;> simp [issueWhen]

omit [Platform] in
theorem given_eq_true {text : Option String} (h : given text = true) :
    ∃ value, text = some value ∧ value ≠ "" := by
  cases text with
  | none => exact absurd h (by decide)
  | some value => exact ⟨value, rfl, of_decide_eq_true h⟩

omit [Platform] in
/-- An anchor that is neither without a name nor without a moment. -/
theorem anchor_of_not_missing {anchor : Option AnchorDraft}
    (hname : (!anchor.any fun written => given written.name) = false)
    (hmoment : (!anchor.any fun written => written.instant.isSome) = false) :
    ∃ written value, anchor = some written ∧ given written.name = true ∧
      written.instant = some value := by
  cases anchor with
  | none => cases hname
  | some written =>
    obtain ⟨value, hvalue⟩ := Option.isSome_iff_exists.mp (by simpa using hmoment)
    exact ⟨written, value, rfl, by simpa using hname, hvalue⟩

/-- A draft without issues has what a trip needs. -/
theorem supports_of_valid (hvalid : validateRequirement draft zone = .ok []) :
    ∃ destination startDate endDate arrival departure,
      Supports draft zone destination startDate endDate arrival departure := by
  obtain ⟨transport, htransport, hvalid⟩ := bind_eq_ok hvalid
  obtain ⟨arrivals, harrivals, hvalid⟩ := bind_eq_ok hvalid
  obtain ⟨departures, hdepartures, hvalid⟩ := bind_eq_ok hvalid
  obtain ⟨window, hwindow, hvalid⟩ := bind_eq_ok hvalid
  have hnone := Except.ok.inj hvalid
  simp only [List.append_eq_nil_iff] at hnone
  obtain ⟨⟨⟨⟨⟨⟨⟨hmissing, hrange⟩, rfl⟩, rfl⟩, rfl⟩, htravelers⟩, hbudget⟩, rfl⟩ := hnone
  -- no required field is missing
  have hfields : ∀ entry ∈ requiredFields draft, entry.2.1 = false := fun entry hentry =>
    issueWhen_eq_nil.mp (List.flatMap_eq_nil_iff.mp hmissing entry hentry)
  simp only [requiredFields, List.forall_mem_cons, List.not_mem_nil, false_implies, implies_true,
    and_true] at hfields
  obtain ⟨hdestination, hstart, hend, harrivalName, harrivalAt, hdepartureName, hdepartureAt⟩ :=
    hfields
  obtain ⟨destination, hdestination, hne⟩ := given_eq_true (by simpa using hdestination)
  obtain ⟨startDate, hstart⟩ := Option.isSome_iff_exists.mp (by simpa using hstart)
  obtain ⟨endDate, hend⟩ := Option.isSome_iff_exists.mp (by simpa using hend)
  obtain ⟨arrivalDraft, arrivalValue, harrival, harrivalName, harrivalAt⟩ :=
    anchor_of_not_missing harrivalName harrivalAt
  obtain ⟨departureDraft, departureValue, hdeparture, hdepartureName, hdepartureAt⟩ :=
    anchor_of_not_missing hdepartureName hdepartureAt
  have harrivalOf : momentOf draft.arrival = some arrivalValue := by
    rw [harrival]
    exact harrivalAt
  have hdepartureOf : momentOf draft.departure = some departureValue := by
    rw [hdeparture]
    exact hdepartureAt
  -- and no two fields are in conflict
  rw [transportIssues, harrivalOf, hdepartureOf] at htransport
  obtain ⟨arrival, harrivalIn, htransport⟩ := bind_eq_ok htransport
  obtain ⟨departure, hdepartureIn, htransport⟩ := bind_eq_ok htransport
  have horder := of_decide_eq_false (issueWhen_eq_nil.mp (Except.ok.inj htransport))
  rw [arrivalIssues, harrivalOf, hstart] at harrivals
  dsimp only at harrivals
  rw [harrivalIn] at harrivals
  have harrives := of_decide_eq_false (issueWhen_eq_nil.mp (Except.ok.inj harrivals))
  rw [departureIssues, hdepartureOf, hend] at hdepartures
  dsimp only at hdepartures
  rw [hdepartureIn] at hdepartures
  have hleaves := of_decide_eq_false (issueWhen_eq_nil.mp (Except.ok.inj hdepartures))
  rw [dateRangeIssues, hstart, hend] at hrange
  have hdates := of_decide_eq_false (issueWhen_eq_nil.mp hrange)
  refine ⟨destination, startDate, endDate, arrival, departure, hdestination, hne, hstart, hend,
    ⟨arrivalDraft, arrivalValue, harrival, harrivalName, harrivalAt, harrivalIn⟩,
    ⟨departureDraft, departureValue, hdeparture, hdepartureName, hdepartureAt, hdepartureIn⟩,
    not_lt.mp hdates, not_lt.mp harrives, not_lt.mp hleaves, not_le.mp horder, ?_, ?_, ?_⟩
  · intro travelers htraveling
    have hcount := issueWhen_eq_nil.mp htravelers
    rw [Option.mem_def.mp htraveling] at hcount
    simpa using hcount
  · intro budget hknown
    have hpositive := issueWhen_eq_nil.mp hbudget
    rw [Option.mem_def.mp hknown] at hpositive
    simpa using hpositive
  · intro dailyStart hstartOf dailyEnd hendOf
    rw [windowIssues, Option.mem_def.mp hstartOf, Option.mem_def.mp hendOf] at hwindow
    obtain ⟨closed, hclosed, hwindow⟩ := bind_eq_ok hwindow
    rw [hclosed, issueWhen_eq_nil.mp (Except.ok.inj hwindow)]

end Valid

/-! ## What the trip checks for itself -/

/-- An anchor of a trip: the place that was found, at the moment that was given. -/
def AnchorFrom (anchor : Option AnchorDraft) (zone : Zone) (resolution : Option AnchorResolution)
    (transport : TransportAnchor) : Prop :=
  AnchorAt anchor zone transport.instant ∧
    ∃ found, resolution = some found ∧ transport.name = found.resolvedName ∧
      transport.coordinate = found.coordinate

/-- The fields of a trip are those of a draft, with a default where the draft has none. -/
structure AssembledFrom (draft : RequirementDraft) (zone : Zone)
    (resolutions : AnchorResolutions) (trip : TripFields) : Prop where
  destination : draft.destination = some trip.destination
  startDate : draft.startDate = some trip.startDate
  endDate : draft.endDate = some trip.endDate
  travelers : trip.travelers = draft.travelers.getD 1
  arrival : AnchorFrom draft.arrival zone (resolutions.get? .arrival) trip.arrival
  departure : AnchorFrom draft.departure zone (resolutions.get? .departure) trip.departure
  accommodation : trip.accommodation = if given draft.accommodationName then
    (resolutions.get? .accommodation).map fun found => ⟨found.resolvedName, found.coordinate⟩
      else none
  totalBudget : trip.totalBudget = draft.totalBudget
  interests : trip.interests = draft.interests
  avoid : trip.avoid = draft.avoid
  mustVisit : trip.mustVisit = draft.mustVisit
  pace : trip.pace = draft.pace.getD .balanced
  mobility : trip.mobility = draft.mobility.getD {}
  dailyStart : trip.dailyStart = draft.dailyStart.getD (.ofHourMinute 9 0)
  dailyEnd : trip.dailyEnd = draft.dailyEnd.getD (.ofHourMinute 20 0)

/-- A daily time that is given alone has no offset and fits the default for the other one. -/
def WindowFits (draft : RequirementDraft) : Prop :=
  match draft.dailyStart, draft.dailyEnd with
  | some dailyStart, none => dailyStart.offset = none ∧ dailyStart.time < .ofHourMinute 20 0
  | none, some dailyEnd => dailyEnd.offset = none ∧ .ofHourMinute 9 0 < dailyEnd.time
  | _, _ => True

section Assembly

variable {draft : RequirementDraft} {zone : Zone} {resolutions : AnchorResolutions}

/-- Terms that the draft has normalised stay as they are. -/
theorem normalizePreferenceTerms_of_normalized {terms : List String} (h : Normalized terms) :
    normalizePreferenceTerms terms = terms := by
  have hmap : terms.map strip = terms :=
    (List.map_congr_left fun term hterm => (h term hterm).1).trans (List.map_id _)
  rw [normalizePreferenceTerms, hmap, List.filter_eq_self]
  exact fun term hterm => decide_eq_true (h term hterm).2

omit [Platform] in
theorem le_of_offset_none {a b : ClockTime} (ha : a.offset = none) (hb : b.offset = none) :
    a.le b = .ok (decide (a.time ≤ b.time)) := by
  rw [ClockTime.le, if_pos (ha.trans hb.symm)]

omit [Platform] in
/-- A time with an offset does not compare with one without. -/
theorem le_of_offset_ne {a b : ClockTime} (hne : a.offset ≠ b.offset)
    (hnone : a.offset = none ∨ b.offset = none) : a.le b = .error .typeError := by
  rw [ClockTime.le, if_neg hne]
  rcases hnone with hnone | hnone
  · rw [hnone]
  · rw [hnone]
    cases a.offset <;> rfl

/-- With the defaults filled in, the day ends after it starts exactly when a daily time that is
given alone fits. -/
theorem windowFits_iff (hwindow : ∀ dailyStart ∈ draft.dailyStart, ∀ dailyEnd ∈ draft.dailyEnd,
      dailyEnd.le dailyStart = .ok false) :
    WindowFits draft ↔ (draft.dailyEnd.getD defaultDailyEnd).le
      (draft.dailyStart.getD defaultDailyStart) = .ok false := by
  cases hstart : draft.dailyStart with
  | none =>
    cases hend : draft.dailyEnd with
    | none =>
      simp only [WindowFits, hstart, hend, Option.getD_none, true_iff]
      decide +kernel
    | some dailyEnd =>
      simp only [WindowFits, hstart, hend, Option.getD_some, Option.getD_none]
      by_cases hplain : dailyEnd.offset = none
      · rw [le_of_offset_none hplain rfl]
        simp only [hplain, true_and, Except.ok.injEq, decide_eq_false_iff_not, not_le]
        rfl
      · rw [le_of_offset_ne (b := defaultDailyStart) hplain (Or.inr rfl)]
        simp [hplain]
  | some dailyStart =>
    cases hend : draft.dailyEnd with
    | none =>
      simp only [WindowFits, hstart, hend, Option.getD_some, Option.getD_none]
      by_cases hplain : dailyStart.offset = none
      · rw [le_of_offset_none rfl hplain]
        simp only [hplain, true_and, Except.ok.injEq, decide_eq_false_iff_not, not_le]
        rfl
      · rw [le_of_offset_ne (a := defaultDailyEnd) (Ne.symm hplain) (Or.inl rfl)]
        simp [hplain]
    | some dailyEnd =>
      simp only [WindowFits, hstart, hend, Option.getD_some, true_iff]
      exact hwindow dailyStart hstart dailyEnd hend

/-- The checks of a trip whose fields are within their bounds and in order come down to that of
its daily times. -/
theorem createTripSpec_eq_ok {fields trip : TripFields} (hbounds : fields.WithinBounds)
    (hdates : fields.startDate ≤ fields.endDate)
    (harrives : fields.startDate ≤ fields.arrival.instant.date)
    (hleaves : fields.departure.instant.date ≤ fields.endDate)
    (horder : wallClock fields.arrival.instant < wallClock fields.departure.instant)
    (hinterests : Normalized fields.interests) (havoid : Normalized fields.avoid)
    (hmustVisit : Normalized fields.mustVisit) :
    createTripSpec fields = .ok trip ↔
      fields.dailyEnd.le fields.dailyStart = .ok false ∧ fields = trip := by
  have hchecked : createTripSpec fields = (fields.dailyEnd.le fields.dailyStart >>= fun closed =>
      require (closed = false) (.validationError "TripSpec") >>= fun _ => .ok fields) := by
    rw [createTripSpec, require_eq_ok_iff.mpr hbounds, require_eq_ok_iff.mpr hdates,
      require_eq_ok_iff.mpr harrives, require_eq_ok_iff.mpr hleaves, require_eq_ok_iff.mpr horder,
      normalizePreferenceTerms_of_normalized hinterests,
      normalizePreferenceTerms_of_normalized havoid,
      normalizePreferenceTerms_of_normalized hmustVisit]
    rfl
  rw [hchecked]
  constructor
  · intro h
    obtain ⟨closed, hclosed, h⟩ := bind_eq_ok h
    obtain ⟨_, hopen, h⟩ := bind_eq_ok h
    exact ⟨require_eq_ok hopen ▸ hclosed, Except.ok.inj h⟩
  · rintro ⟨hopen, rfl⟩
    rw [hopen]
    rfl

omit [Platform] in
/-- With a name and a moment for an anchor, its place is put at this moment. -/
theorem assembledAnchor_eq {anchor : Option AnchorDraft} {moment : DateTime}
    (h : AnchorAt anchor zone moment) (resolution : AnchorResolution) :
    assembledAnchor anchor zone resolution =
      .ok ⟨resolution.resolvedName, moment, resolution.coordinate⟩ := by
  obtain ⟨written, value, rfl, -, hvalue, hmoment⟩ := h
  have hmomentOf : momentOf (some written) = some value := hvalue
  rw [assembledAnchor, hmomentOf]
  change (localized zone value >>= _) = _
  rw [hmoment]
  rfl

omit [Platform] in
theorem any_of_anchorAt {anchor : Option AnchorDraft} {moment : DateTime}
    (h : AnchorAt anchor zone moment) :
    (anchor.any fun written => given written.name && written.instant.isSome) = true ∧
      (anchor.any fun written => given written.name) = true := by
  obtain ⟨written, value, rfl, hname, hvalue, -⟩ := h
  simp [hname, hvalue]

/-- The fields that a draft without issues is assembled to. -/
def assembledFields (draft : RequirementDraft) (destination : String) (startDate endDate : Date)
    (arrival departure : TransportAnchor) (accommodation : Option LocationAnchor) : TripFields :=
  { destination, startDate, endDate
    travelers := draft.travelers.getD 1
    arrival, departure, accommodation
    totalBudget := draft.totalBudget
    interests := draft.interests
    avoid := draft.avoid
    mustVisit := draft.mustVisit
    pace := draft.pace.getD .balanced
    mobility := draft.mobility.getD {}
    dailyStart := draft.dailyStart.getD defaultDailyStart
    dailyEnd := draft.dailyEnd.getD defaultDailyEnd }

/-- A draft without issues, with a place for every anchor, is assembled exactly when its daily
times are in order, and then to its own fields. -/
theorem assembleTripSpec_eq_ok (hvalid : validateRequirement draft zone = .ok [])
    (hroles : ∀ role ∈ requiredAnchorRoles draft, (resolutions.get? role).isSome) :
    ∃ fields, AssembledFrom draft zone resolutions fields ∧
      ∀ trip, assembleTripSpec draft resolutions zone = .ok trip ↔
        WindowFits draft ∧ fields = trip := by
  obtain ⟨destination, startDate, endDate, arrival, departure, hsupports⟩ :=
    supports_of_valid hvalid
  obtain ⟨harrivalAny, harrivalRole⟩ := any_of_anchorAt hsupports.arrivalAt
  obtain ⟨hdepartureAny, hdepartureRole⟩ := any_of_anchorAt hsupports.departureAt
  obtain ⟨arrivalPlace, harrivalPlace⟩ := Option.isSome_iff_exists.mp
    (hroles .arrival (by simp [requiredAnchorRoles, harrivalRole]))
  obtain ⟨departurePlace, hdeparturePlace⟩ := Option.isSome_iff_exists.mp
    (hroles .departure (by simp [requiredAnchorRoles, hdepartureRole]))
  obtain ⟨accommodation, haccommodation, hplaced⟩ : ∃ accommodation,
      resolvedAccommodation draft resolutions = .ok accommodation ∧
        accommodation = if given draft.accommodationName then
          (resolutions.get? .accommodation).map
            fun found => (⟨found.resolvedName, found.coordinate⟩ : LocationAnchor)
          else none := by
    by_cases hnamed : given draft.accommodationName = true
    · obtain ⟨place, hplace⟩ := Option.isSome_iff_exists.mp
        (hroles .accommodation (by simp [requiredAnchorRoles, hnamed]))
      refine ⟨some ⟨place.resolvedName, place.coordinate⟩, ?_, ?_⟩
      · rw [resolvedAccommodation, if_pos hnamed, hplace]
        rfl
      · rw [if_pos hnamed, hplace]
        rfl
    · exact ⟨none, by rw [resolvedAccommodation, if_neg hnamed], by rw [if_neg hnamed]⟩
  refine ⟨assembledFields draft destination startDate endDate
    ⟨arrivalPlace.resolvedName, arrival, arrivalPlace.coordinate⟩
    ⟨departurePlace.resolvedName, departure, departurePlace.coordinate⟩ accommodation, ?_, ?_⟩
  · exact {
      destination := hsupports.destination_eq
      startDate := hsupports.startDate_eq
      endDate := hsupports.endDate_eq
      travelers := rfl
      arrival := ⟨hsupports.arrivalAt, arrivalPlace, harrivalPlace, rfl, rfl⟩
      departure := ⟨hsupports.departureAt, departurePlace, hdeparturePlace, rfl, rfl⟩
      accommodation := hplaced
      totalBudget := rfl, interests := rfl, avoid := rfl, mustVisit := rfl, pace := rfl
      mobility := rfl, dailyStart := rfl, dailyEnd := rfl }
  · intro trip
    have hassembled : assembleTripSpec draft resolutions zone =
        createTripSpec (assembledFields draft destination startDate endDate
          ⟨arrivalPlace.resolvedName, arrival, arrivalPlace.coordinate⟩
          ⟨departurePlace.resolvedName, departure, departurePlace.coordinate⟩ accommodation) := by
      rw [assembleTripSpec, hvalid]
      change (orRaise (resolutions.get? .arrival) _ >>= _) = _
      rw [harrivalPlace]
      change (orRaise (resolutions.get? .departure) _ >>= _) = _
      rw [hdeparturePlace, hsupports.destination_eq, hsupports.startDate_eq, hsupports.endDate_eq,
        require_eq_ok_iff.mpr harrivalAny, require_eq_ok_iff.mpr hdepartureAny, haccommodation,
        assembledAnchor_eq hsupports.arrivalAt]
      change (assembledAnchor draft.departure zone departurePlace >>= _) = _
      rw [assembledAnchor_eq hsupports.departureAt]
      rfl
    have htravelers : 1 ≤ draft.travelers.getD 1 ∧ draft.travelers.getD 1 ≤ 20 := by
      cases hcount : draft.travelers with
      | none => decide
      | some travelers => exact hsupports.travelers travelers hcount
    rw [hassembled, windowFits_iff hsupports.window]
    exact createTripSpec_eq_ok
      ⟨hsupports.destination_ne, htravelers, hsupports.budget, draft.interests_normalized.2,
        draft.avoid_normalized.2, draft.mustVisit_normalized.2⟩
      hsupports.dates hsupports.arrives hsupports.leaves hsupports.order
      draft.interests_normalized.1 draft.avoid_normalized.1 draft.mustVisit_normalized.1

/-- **From a draft to a trip.**  For a draft without issues and with a place for every anchor, a
trip with the fields of the draft, or their defaults, is assembled exactly when a daily time that
is given alone fits the default for the other one. -/
theorem assembleTripSpec_iff (hvalid : validateRequirement draft zone = .ok [])
    (hroles : ∀ role ∈ requiredAnchorRoles draft, (resolutions.get? role).isSome) :
    (∃ trip, assembleTripSpec draft resolutions zone = .ok trip ∧
        AssembledFrom draft zone resolutions trip) ↔ WindowFits draft := by
  obtain ⟨fields, hfields, hassembled⟩ := assembleTripSpec_eq_ok hvalid hroles
  constructor
  · rintro ⟨trip, htrip, -⟩
    exact ((hassembled trip).mp htrip).1
  · intro hfits
    exact ⟨fields, (hassembled fields).mpr ⟨hfits, rfl⟩, hfields⟩

end Assembly

/-! ## Trips for the planner -/

/-- The fields of a trip. -/
def TripSpec.fields (trip : TripSpec) : TripFields :=
  { destination := trip.destination, startDate := trip.startDate, endDate := trip.endDate
    travelers := trip.travelers, arrival := trip.arrival, departure := trip.departure
    accommodation := trip.accommodation, totalBudget := trip.totalBudget
    interests := trip.interests, avoid := trip.avoid, mustVisit := trip.mustVisit
    pace := trip.pace, mobility := trip.mobility
    dailyStart := ⟨trip.dailyStart, none⟩, dailyEnd := ⟨trip.dailyEnd, none⟩ }

/-- What passes the checks is a trip for the planner, when its daily times have no offset and the
clocks are not changed in between. -/
theorem exists_tripSpec {fields checked : TripFields} (h : createTripSpec fields = .ok checked)
    (hstart : checked.dailyStart.offset = none) (hend : checked.dailyEnd.offset = none)
    (hzone : checked.arrival.instant.offset = checked.departure.instant.offset) :
    ∃ trip : TripSpec, trip.fields = checked := by
  obtain ⟨_, hbounds, h⟩ := bind_eq_ok h
  obtain ⟨_, hdates, h⟩ := bind_eq_ok h
  obtain ⟨_, harrives, h⟩ := bind_eq_ok h
  obtain ⟨_, hleaves, h⟩ := bind_eq_ok h
  obtain ⟨_, horder, h⟩ := bind_eq_ok h
  obtain ⟨closed, hclosed, h⟩ := bind_eq_ok h
  obtain ⟨_, hopen, h⟩ := bind_eq_ok h
  obtain ⟨-, htravelers, hbudget, -⟩ := require_eq_ok hbounds
  have hbefore := require_eq_ok horder
  have hwindow : fields.dailyStart.time < fields.dailyEnd.time := by
    cases h
    rw [le_of_offset_none hend hstart, require_eq_ok hopen] at hclosed
    exact not_le.mp (of_decide_eq_false (Except.ok.inj hclosed))
  cases h
  have hinstants : fields.arrival.instant.instant < fields.departure.instant.instant := by
    have hsame : fields.arrival.instant.offset = fields.departure.instant.offset := hzone
    unfold wallClock at hbefore
    omega
  refine ⟨{
    destination := fields.destination, startDate := fields.startDate, endDate := fields.endDate
    travelers := fields.travelers.toNat, arrival := fields.arrival, departure := fields.departure
    accommodation := fields.accommodation, totalBudget := fields.totalBudget
    interests := normalizePreferenceTerms fields.interests
    avoid := normalizePreferenceTerms fields.avoid
    mustVisit := normalizePreferenceTerms fields.mustVisit
    pace := fields.pace, mobility := fields.mobility
    dailyStart := fields.dailyStart.time, dailyEnd := fields.dailyEnd.time
    startDate_le_endDate := require_eq_ok hdates
    startDate_le_arrival := require_eq_ok harrives
    departure_le_endDate := require_eq_ok hleaves
    arrival_lt_departure := hinstants
    dailyStart_lt_dailyEnd := hwindow
    totalBudget_pos := hbudget }, ?_⟩
  have hcount : (fields.travelers.toNat : ℤ) = fields.travelers := by omega
  have hfrom : (⟨fields.dailyStart.time, none⟩ : ClockTime) = fields.dailyStart := by rw [← hstart]
  have huntil : (⟨fields.dailyEnd.time, none⟩ : ClockTime) = fields.dailyEnd := by rw [← hend]
  simp only [TripSpec.fields, hcount, hfrom, huntil]

/-! ## Examples -/

namespace Sample

/-- China Standard Time. -/
def chinaZone : Zone := ⟨fun _ => 8 * 60 * minuteMicros, fun _ _ => 8 * 60 * minuteMicros⟩

/-- A clock that shows this hour of a day in October 2026. -/
def hourOf (day : Fin 31) (hour : Fin 24) : WallDateTime where
  wall := (Date.ofYmd 2026 10 1).days * dayMicros + (day * 24 + hour) * 3600000000
  fold := false
  offset := none
  wall_bounds := by
    have hday := day.isLt
    have hhour := hour.isLt
    have hfirst : (Date.ofYmd 2026 10 1).days = 739889 := by decide +kernel
    rw [hfirst, calendarMicros, dayMicros]
    omega

/-- A weekend in Hangzhou, with these daily times. -/
def requirement (dailyStart dailyEnd : Option ClockTime) : RequirementDraft where
  destination := some "杭州"
  startDate := some (Date.ofYmd 2026 10 1)
  endDate := some (Date.ofYmd 2026 10 2)
  travelers := some 2
  arrival := some ⟨some "杭州东站", some (hourOf 0 10)⟩
  departure := some ⟨some "杭州东站", some (hourOf 1 18)⟩
  accommodationName := none
  totalBudget := none
  interests := []
  avoid := []
  mustVisit := []
  pace := none
  mobility := none
  dailyStart := dailyStart
  dailyEnd := dailyEnd
  interests_normalized := ⟨fun _ hterm => absurd hterm List.not_mem_nil, by decide⟩
  avoid_normalized := ⟨fun _ hterm => absurd hterm List.not_mem_nil, by decide⟩
  mustVisit_normalized := ⟨fun _ hterm => absurd hterm List.not_mem_nil, by decide⟩

/-- The railway station. -/
def station (role : AnchorRole) : AnchorResolution :=
  ⟨role, "杭州东站", "杭州东站", "B0", ⟨120, 30⟩, "amap", 1⟩

def stations : AnchorResolutions :=
  Dict.ofList [(.arrival, station .arrival), (.departure, station .departure)]

end Sample

omit [Platform] in
/-- A start at ten fits the default end. -/
theorem assembleTripSpec_iff_tenOClock :
    ∃ trip, @assembleTripSpec plainPlatform
        (@Sample.requirement plainPlatform (some (.ofHourMinute 10 0)) none) Sample.stations
          Sample.chinaZone = .ok trip ∧
      @AssembledFrom plainPlatform
        (@Sample.requirement plainPlatform (some (.ofHourMinute 10 0)) none) Sample.chinaZone
          Sample.stations trip := by
  let := plainPlatform
  refine (assembleTripSpec_iff ?_ ?_).mpr ⟨rfl, ?_⟩
  · decide +kernel
  · decide +kernel
  · decide +kernel

omit [Platform] in
/-- A start at nine in the evening without an end has no issues, and no trip. -/
theorem exists_not_assembled :
    @validateRequirement plainPlatform
        (@Sample.requirement plainPlatform (some (.ofHourMinute 21 0)) none) Sample.chinaZone =
          .ok [] ∧
      (∀ role ∈ @requiredAnchorRoles plainPlatform
          (@Sample.requirement plainPlatform (some (.ofHourMinute 21 0)) none),
        (Sample.stations.get? role).isSome) ∧
      ¬∃ trip, @assembleTripSpec plainPlatform
          (@Sample.requirement plainPlatform (some (.ofHourMinute 21 0)) none) Sample.stations
            Sample.chinaZone = .ok trip := by
  let := plainPlatform
  have hvalid : validateRequirement (Sample.requirement (some (.ofHourMinute 21 0)) none)
      Sample.chinaZone = .ok [] := by decide +kernel
  have hroles : ∀ role ∈ requiredAnchorRoles
      (Sample.requirement (some (.ofHourMinute 21 0)) none),
        (Sample.stations.get? role).isSome := by decide +kernel
  have hlate : ¬TimeOfDay.ofHourMinute 21 0 < TimeOfDay.ofHourMinute 20 0 := by decide +kernel
  refine ⟨hvalid, hroles, fun hexists => ?_⟩
  obtain ⟨trip, htrip⟩ := hexists
  obtain ⟨fields, -, hassembled⟩ := assembleTripSpec_eq_ok hvalid hroles
  exact hlate ((hassembled trip).mp htrip).1.2

end TravelPlanAgent
