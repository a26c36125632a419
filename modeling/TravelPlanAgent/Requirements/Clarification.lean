import TravelPlanAgent.Requirements.Validation
import TravelPlanAgent.Library.Selection

/-!
# Clarification patches

An answer of the user becomes a patch of the draft.  Only the fields that were asked for may
change.  A patch is flattened to named fields, each is compared with the draft and written into the
payload of the draft, and the payload is validated.

* `RequirementField`, `FieldValue`: the named fields and what they hold.
* `DraftFields.validate`, `DraftFields.accepted_iff`: what a draft is after its validators.
* `mergeRequirementPatch`: the merge; `invalidatedAnchorRoles`: which places it makes stale.
* `mergePayload_valueAt`: the payload, field by field.
* `PatchMerged`, `patchMerged_iff`: the merge does what it should exactly when no list of the patch
  that may be written has more than 100 terms.
* `exists_not_patchMerged`: a list of 101 interests, which a patch may have and a draft may not.
-/

namespace TravelPlanAgent

open Calendar Selection

/-! ## Fields -/

/-- The fields of a patch under their names, in the order of `_non_null_patch_values`. -/
inductive RequirementField where
  | destination | startDate | endDate | travelers | accommodationName | totalBudget
  | interests | avoid | mustVisit | pace | mobility | dailyStart | dailyEnd
  | arrivalName | arrivalAt | departureName | departureAt
  deriving DecidableEq

namespace RequirementField

/-- The name of a field. -/
def path : RequirementField → String
  | destination => "destination"
  | startDate => "start_date"
  | endDate => "end_date"
  | travelers => "travelers"
  | accommodationName => "accommodation_name"
  | totalBudget => "total_budget"
  | interests => "interests"
  | avoid => "avoid"
  | mustVisit => "must_visit"
  | pace => "pace"
  | mobility => "mobility"
  | dailyStart => "daily_start"
  | dailyEnd => "daily_end"
  | arrivalName => "arrival.name"
  | arrivalAt => "arrival.at"
  | departureName => "departure.name"
  | departureAt => "departure.at"

def all : List RequirementField :=
  [destination, startDate, endDate, travelers, accommodationName, totalBudget, interests, avoid,
    mustVisit, pace, mobility, dailyStart, dailyEnd, arrivalName, arrivalAt, departureName,
    departureAt]

theorem mem_all (field : RequirementField) : field ∈ all := by
  cases field <;> decide

theorem path_injective {a b : RequirementField} (h : a.path = b.path) : a = b := by
  have hall : ∀ a ∈ all, ∀ b ∈ all, a.path = b.path → a = b := by decide
  exact hall a (mem_all a) b (mem_all b) h

/-- The field with a name. -/
def ofPath? (name : String) : Option RequirementField := all.find? fun field => field.path = name

theorem ofPath?_eq_some {name : String} {field : RequirementField} :
    ofPath? name = some field ↔ field.path = name := by
  constructor
  · intro h
    simpa using List.find?_some h
  · rintro rfl
    have hfound : (ofPath? field.path).isSome := by
      rw [ofPath?, List.find?_isSome]
      exact ⟨field, mem_all field, by simp⟩
    obtain ⟨other, hother⟩ := Option.isSome_iff_exists.mp hfound
    have hpath : other.path = field.path := by simpa using List.find?_some hother
    rw [hother, path_injective hpath]

end RequirementField

open RequirementField (ofPath? ofPath?_eq_some)

/-- What a field holds. -/
abbrev FieldValue : RequirementField → Type
  | .destination | .accommodationName | .arrivalName | .departureName => String
  | .startDate | .endDate => Date
  | .travelers => ℤ
  | .totalBudget => ℚ
  | .interests | .avoid | .mustVisit => List String
  | .pace => Pace
  | .mobility => MobilityConstraints
  | .dailyStart | .dailyEnd => ClockTime
  | .arrivalAt | .departureAt => WallDateTime

/-- `==` of times: both without an offset by the clock, both with one in UTC. -/
def ClockTime.same (a b : ClockTime) : Bool :=
  if a.offset = b.offset then decide (a.time = b.time)
  else match a.offset, b.offset with
    | some offset, some offset' => decide (a.utcMicros offset = b.utcMicros offset')
    | _, _ => false

/-- `==` of dates with times. -/
def WallDateTime.same (a b : WallDateTime) : Bool :=
  if a.offset = b.offset then decide (a.wall = b.wall)
  else match a.offset, b.offset with
    | some offset, some offset' => decide (a.wall - offset = b.wall - offset')
    | _, _ => false

/-- `==` of two values of a field. -/
def sameValue : (field : RequirementField) → FieldValue field → FieldValue field → Bool
  | .destination, a, b | .accommodationName, a, b | .arrivalName, a, b
  | .departureName, a, b => decide (a = b)
  | .startDate, a, b | .endDate, a, b => decide (a = b)
  | .travelers, a, b => decide (a = b)
  | .totalBudget, a, b => decide (a = b)
  | .interests, a, b | .avoid, a, b | .mustVisit, a, b => decide (a = b)
  | .pace, a, b => decide (a = b)
  | .mobility, a, b => decide (a = b)
  | .dailyStart, a, b | .dailyEnd, a, b => a.same b
  | .arrivalAt, a, b | .departureAt, a, b => a.same b

theorem sameValue_self (field : RequirementField) (value : FieldValue field) :
    sameValue field value value = true := by
  cases field <;> simp [sameValue, ClockTime.same, WallDateTime.same]

/-! ## Drafts and patches -/

/-- The payload of a draft: what `model_dump` gives and `model_validate` reads. -/
structure DraftFields where
  destination : Option String
  startDate : Option Date
  endDate : Option Date
  travelers : Option ℤ
  arrival : Option AnchorDraft
  departure : Option AnchorDraft
  accommodationName : Option String
  totalBudget : Option ℚ
  interests : List String
  avoid : List String
  mustVisit : List String
  pace : Option Pace
  mobility : Option MobilityConstraints
  dailyStart : Option ClockTime
  dailyEnd : Option ClockTime

/-- `_value_at`. -/
def DraftFields.valueAt (draft : DraftFields) : (field : RequirementField) →
    Option (FieldValue field)
  | .destination => draft.destination
  | .startDate => draft.startDate
  | .endDate => draft.endDate
  | .travelers => draft.travelers
  | .accommodationName => draft.accommodationName
  | .totalBudget => draft.totalBudget
  | .interests => some draft.interests
  | .avoid => some draft.avoid
  | .mustVisit => some draft.mustVisit
  | .pace => draft.pace
  | .mobility => draft.mobility
  | .dailyStart => draft.dailyStart
  | .dailyEnd => draft.dailyEnd
  | .arrivalName => draft.arrival.bind AnchorDraft.name
  | .arrivalAt => draft.arrival.bind AnchorDraft.instant
  | .departureName => draft.departure.bind AnchorDraft.name
  | .departureAt => draft.departure.bind AnchorDraft.instant

/-- A value is written into the payload; a missing parent is created with it. -/
def DraftFields.setAt (draft : DraftFields) : (field : RequirementField) → FieldValue field →
    DraftFields
  | .destination, value => { draft with destination := some value }
  | .startDate, value => { draft with startDate := some value }
  | .endDate, value => { draft with endDate := some value }
  | .travelers, value => { draft with travelers := some value }
  | .accommodationName, value => { draft with accommodationName := some value }
  | .totalBudget, value => { draft with totalBudget := some value }
  | .interests, value => { draft with interests := value }
  | .avoid, value => { draft with avoid := value }
  | .mustVisit, value => { draft with mustVisit := value }
  | .pace, value => { draft with pace := some value }
  | .mobility, value => { draft with mobility := some value }
  | .dailyStart, value => { draft with dailyStart := some value }
  | .dailyEnd, value => { draft with dailyEnd := some value }
  | .arrivalName, value =>
    { draft with arrival := some ⟨some value, draft.arrival.bind AnchorDraft.instant⟩ }
  | .arrivalAt, value =>
    { draft with arrival := some ⟨draft.arrival.bind AnchorDraft.name, some value⟩ }
  | .departureName, value =>
    { draft with departure := some ⟨some value, draft.departure.bind AnchorDraft.instant⟩ }
  | .departureAt, value =>
    { draft with departure := some ⟨draft.departure.bind AnchorDraft.name, some value⟩ }

theorem DraftFields.valueAt_setAt_self (draft : DraftFields) (field : RequirementField)
    (value : FieldValue field) : (draft.setAt field value).valueAt field = some value := by
  cases field <;> rfl

theorem DraftFields.valueAt_setAt_of_ne (draft : DraftFields) {field other : RequirementField}
    (h : other ≠ field) (value : FieldValue field) :
    (draft.setAt field value).valueAt other = draft.valueAt other := by
  cases field <;> cases other <;> first | rfl | exact absurd rfl h

/-- `RequirementPatch`. -/
structure RequirementPatch where
  destination : Option String
  startDate : Option Date
  endDate : Option Date
  travelers : Option ℤ
  arrival : Option AnchorDraft
  departure : Option AnchorDraft
  accommodationName : Option String
  totalBudget : Option ℚ
  interests : Option (List String)
  avoid : Option (List String)
  mustVisit : Option (List String)
  pace : Option Pace
  mobility : Option MobilityConstraints
  dailyStart : Option ClockTime
  dailyEnd : Option ClockTime

/-- `_non_null_patch_values`. -/
def RequirementPatch.valueAt (patch : RequirementPatch) : (field : RequirementField) →
    Option (FieldValue field)
  | .destination => patch.destination
  | .startDate => patch.startDate
  | .endDate => patch.endDate
  | .travelers => patch.travelers
  | .accommodationName => patch.accommodationName
  | .totalBudget => patch.totalBudget
  | .interests => patch.interests
  | .avoid => patch.avoid
  | .mustVisit => patch.mustVisit
  | .pace => patch.pace
  | .mobility => patch.mobility
  | .dailyStart => patch.dailyStart
  | .dailyEnd => patch.dailyEnd
  | .arrivalName => patch.arrival.bind AnchorDraft.name
  | .arrivalAt => patch.arrival.bind AnchorDraft.instant
  | .departureName => patch.departure.bind AnchorDraft.name
  | .departureAt => patch.departure.bind AnchorDraft.instant

/-! ## Validators -/

variable [Platform]

/-- `normalize_optional_text` and `normalize_name`. -/
def normalizeOptionalText (value : Option String) : Option String :=
  value.bind fun value => if strip value = "" then none else some (strip value)

/-- The validators of `AnchorDraft`. -/
def AnchorDraft.validate (anchor : AnchorDraft) : AnchorDraft :=
  { anchor with name := normalizeOptionalText anchor.name }

/-- `RequirementDraft.model_validate`. -/
def DraftFields.validate (fields : DraftFields) : Result DraftFields := do
  require (fields.interests.length ≤ 100 ∧ fields.avoid.length ≤ 100 ∧
    fields.mustVisit.length ≤ 100) (.validationError "RequirementDraft")
  return { fields with
    destination := normalizeOptionalText fields.destination
    arrival := fields.arrival.map AnchorDraft.validate
    departure := fields.departure.map AnchorDraft.validate
    accommodationName := normalizeOptionalText fields.accommodationName
    interests := normalizeTerms [] fields.interests
    avoid := normalizeTerms [] fields.avoid
    mustVisit := normalizeTerms [] fields.mustVisit }

/-- The validators of `RequirementPatch`.  They do not bound the lists. -/
def RequirementPatch.validate (patch : RequirementPatch) : RequirementPatch :=
  { patch with
    destination := normalizeOptionalText patch.destination
    arrival := patch.arrival.map AnchorDraft.validate
    departure := patch.departure.map AnchorDraft.validate
    accommodationName := normalizeOptionalText patch.accommodationName
    interests := patch.interests.map (normalizeTerms [])
    avoid := patch.avoid.map (normalizeTerms [])
    mustVisit := patch.mustVisit.map (normalizeTerms []) }

/-- The validators leave the value as it is. -/
def NormalValue : (field : RequirementField) → FieldValue field → Prop
  | .destination, value | .accommodationName, value | .arrivalName, value
  | .departureName, value => strip value = value ∧ value ≠ ""
  | .interests, value | .avoid, value | .mustVisit, value => normalizeTerms [] value = value
  | _, _ => True

/-- The value is not too long for a draft. -/
def FitsDraft : (field : RequirementField) → FieldValue field → Prop
  | .interests, value | .avoid, value | .mustVisit, value => value.length ≤ 100
  | _, _ => True

theorem normalizeOptionalText_eq_self {text : Option String} :
    normalizeOptionalText text = text ↔ ∀ value, text = some value →
      strip value = value ∧ value ≠ "" := by
  cases text with
  | none => simp [normalizeOptionalText]
  | some value =>
    simp only [normalizeOptionalText, Option.bind_some, Option.some.injEq, forall_eq']
    constructor
    · intro h
      split at h
      · cases h
      · next hne =>
        rw [Option.some.injEq] at h
        exact ⟨h, h ▸ hne⟩
    · rintro ⟨hstrip, hne⟩
      rw [hstrip, if_neg hne]

theorem validateAnchor_eq_self {anchor : Option AnchorDraft} :
    anchor.map AnchorDraft.validate = anchor ↔ ∀ value, anchor.bind AnchorDraft.name = some value →
      strip value = value ∧ value ≠ "" := by
  cases anchor with
  | none => simp
  | some anchor =>
    obtain ⟨name, moment⟩ := anchor
    rw [Option.map_some, Option.some.injEq, AnchorDraft.validate, AnchorDraft.mk.injEq,
      normalizeOptionalText_eq_self]
    simp

/-- The validators leave a draft as it is. -/
theorem DraftFields.validate_eq_self {draft : DraftFields} :
    draft.validate = .ok draft ↔
      (draft.interests.length ≤ 100 ∧ draft.avoid.length ≤ 100 ∧ draft.mustVisit.length ≤ 100) ∧
      normalizeOptionalText draft.destination = draft.destination ∧
      draft.arrival.map AnchorDraft.validate = draft.arrival ∧
      draft.departure.map AnchorDraft.validate = draft.departure ∧
      normalizeOptionalText draft.accommodationName = draft.accommodationName ∧
      normalizeTerms [] draft.interests = draft.interests ∧
      normalizeTerms [] draft.avoid = draft.avoid ∧
      normalizeTerms [] draft.mustVisit = draft.mustVisit := by
  constructor
  · intro h
    obtain ⟨_, hlengths, h⟩ := bind_eq_ok h
    have heq := Except.ok.inj h
    refine ⟨require_eq_ok hlengths, ?_⟩
    cases draft
    simp only [DraftFields.mk.injEq] at heq
    tauto
  · rintro ⟨hlengths, hdestination, harrival, hdeparture, hname, hinterests, havoid, hmust⟩
    rw [validate, require, if_pos hlengths, hdestination, harrival, hdeparture, hname, hinterests,
      havoid, hmust]
    rfl

/-- A draft that the validators leave as it is, field by field. -/
theorem DraftFields.accepted_iff {draft : DraftFields} :
    draft.validate = .ok draft ↔ ∀ field value, draft.valueAt field = some value →
      NormalValue field value ∧ FitsDraft field value := by
  rw [validate_eq_self, normalizeOptionalText_eq_self, validateAnchor_eq_self,
    validateAnchor_eq_self, normalizeOptionalText_eq_self]
  constructor
  · rintro ⟨⟨hlength, hlength', hlength''⟩, hdestination, harrival, hdeparture, hname, hinterests,
      havoid, hmust⟩ field value hvalue
    cases field
    case destination => exact ⟨hdestination value hvalue, trivial⟩
    case accommodationName => exact ⟨hname value hvalue, trivial⟩
    case arrivalName => exact ⟨harrival value hvalue, trivial⟩
    case departureName => exact ⟨hdeparture value hvalue, trivial⟩
    case interests => cases hvalue; exact ⟨hinterests, hlength⟩
    case avoid => cases hvalue; exact ⟨havoid, hlength'⟩
    case mustVisit => cases hvalue; exact ⟨hmust, hlength''⟩
    all_goals exact ⟨trivial, trivial⟩
  · intro h
    exact ⟨⟨(h .interests _ rfl).2, (h .avoid _ rfl).2, (h .mustVisit _ rfl).2⟩,
      fun value hvalue => (h .destination value hvalue).1,
      fun value hvalue => (h .arrivalName value hvalue).1,
      fun value hvalue => (h .departureName value hvalue).1,
      fun value hvalue => (h .accommodationName value hvalue).1,
      (h .interests _ rfl).1, (h .avoid _ rfl).1, (h .mustVisit _ rfl).1⟩

/-- The values of a patch that its validators leave as it is. -/
theorem RequirementPatch.normalValue {patch : RequirementPatch} (h : patch.validate = patch)
    {field : RequirementField} {value : FieldValue field}
    (hvalue : patch.valueAt field = some value) : NormalValue field value := by
  have hall : normalizeOptionalText patch.destination = patch.destination ∧
      patch.arrival.map AnchorDraft.validate = patch.arrival ∧
      patch.departure.map AnchorDraft.validate = patch.departure ∧
      normalizeOptionalText patch.accommodationName = patch.accommodationName ∧
      patch.interests.map (normalizeTerms []) = patch.interests ∧
      patch.avoid.map (normalizeTerms []) = patch.avoid ∧
      patch.mustVisit.map (normalizeTerms []) = patch.mustVisit := by
    cases patch
    simp only [validate, RequirementPatch.mk.injEq] at h
    tauto
  rw [normalizeOptionalText_eq_self, validateAnchor_eq_self, validateAnchor_eq_self,
    normalizeOptionalText_eq_self] at hall
  obtain ⟨hdestination, harrival, hdeparture, hname, hinterests, havoid, hmust⟩ := hall
  cases field
  case destination => exact hdestination value hvalue
  case accommodationName => exact hname value hvalue
  case arrivalName => exact harrival value hvalue
  case departureName => exact hdeparture value hvalue
  case interests =>
    change patch.interests = some value at hvalue
    rw [hvalue, Option.map_some, Option.some.injEq] at hinterests
    exact hinterests
  case avoid =>
    change patch.avoid = some value at hvalue
    rw [hvalue, Option.map_some, Option.some.injEq] at havoid
    exact havoid
  case mustVisit =>
    change patch.mustVisit = some value at hvalue
    rw [hvalue, Option.map_some, Option.some.injEq] at hmust
    exact hmust
  all_goals exact trivial

/-! ## The merge -/

/-- One round of the loop of `merge_requirement_patch`. -/
def mergeField (draft : DraftFields) (patch : RequirementPatch)
    (merged : DraftFields × List String) (name : String) : DraftFields × List String :=
  match ofPath? name with
  | none => merged
  | some field =>
    match patch.valueAt field with
    | none => merged
    | some value =>
      if (draft.valueAt field).any fun current => sameValue field current value then merged
      else (merged.1.setAt field value, merged.2 ++ [name])

/-- The payload and the changed fields after the loop. -/
def mergePayload (draft : DraftFields) (patch : RequirementPatch) (allowedFields : List String) :
    DraftFields × List String :=
  (sortedSet allowedFields).foldl (mergeField draft patch) (draft, [])

/-- The non-null fields of the patch that are not allowed. -/
def rejectedFields (patch : RequirementPatch) (allowedFields : List String) : List String :=
  sortedSet (((RequirementField.all.filter fun field => (patch.valueAt field).isSome).map
    RequirementField.path).filter fun name => name ∉ allowedFields)

/-- `merge_requirement_patch`. -/
def mergeRequirementPatch (draft : DraftFields) (patch : RequirementPatch)
    (allowedFields : List String) : Result (DraftFields × List String × List String) := do
  let rejected := rejectedFields patch allowedFields
  let (payload, changed) := mergePayload draft patch allowedFields
  return (← payload.validate, changed, rejected)

/-- `_ANCHOR_FIELD_TO_ROLE`, without the destination. -/
def anchorFieldRole : String → Option AnchorRole
  | "arrival.name" => some .arrival
  | "departure.name" => some .departure
  | "accommodation_name" => some .accommodation
  | _ => none

/-- `invalidated_anchor_roles`. -/
def invalidatedAnchorRoles (changedFields : List String) : List AnchorRole :=
  if "destination" ∈ changedFields then [.accommodation, .arrival, .departure]
  else [.accommodation, .arrival, .departure].filter fun role =>
    role ∈ changedFields.filterMap anchorFieldRole

/-! ## The payload, field by field -/

section Payload

omit [Platform]

variable {draft : DraftFields} {patch : RequirementPatch} {allowedFields : List String}

/-- The patch has a value for the field, which is not the draft's. -/
def Changes (draft : DraftFields) (patch : RequirementPatch) (field : RequirementField) : Prop :=
  ∃ value, patch.valueAt field = some value ∧
    (draft.valueAt field).any (fun current => sameValue field current value) = false

/-- A round writes its field when the patch changes it, and nothing else. -/
theorem mergeField_cases (draft : DraftFields) (patch : RequirementPatch)
    (merged : DraftFields × List String) (name : String) :
    (∃ field value, field.path = name ∧ Changes draft patch field ∧
      patch.valueAt field = some value ∧
      mergeField draft patch merged name = (merged.1.setAt field value, merged.2 ++ [name])) ∨
    (∀ field : RequirementField, field.path = name → ¬ Changes draft patch field) ∧
      mergeField draft patch merged name = merged := by
  rw [mergeField]
  split
  · next hnone =>
    refine .inr ⟨fun field hpath _ => ?_, rfl⟩
    rw [ofPath?_eq_some.mpr hpath] at hnone
    cases hnone
  · next field hfield =>
    have hpath := ofPath?_eq_some.mp hfield
    split
    · next hnone =>
      refine .inr ⟨fun other hother hchanges => ?_, rfl⟩
      obtain rfl := RequirementField.path_injective (hother.trans hpath.symm)
      obtain ⟨value, hvalue, -⟩ := hchanges
      rw [hnone] at hvalue
      cases hvalue
    · next value hvalue =>
      split
      · next hsame =>
        refine .inr ⟨fun other hother hchanges => ?_, rfl⟩
        obtain rfl := RequirementField.path_injective (hother.trans hpath.symm)
        obtain ⟨value', hvalue', hdiffers⟩ := hchanges
        rw [hvalue, Option.some.injEq] at hvalue'
        rw [← hvalue', hsame] at hdiffers
        cases hdiffers
      · next hdiffers =>
        exact .inl ⟨field, value, hpath, ⟨value, hvalue, by simpa using hdiffers⟩, hvalue, rfl⟩

open Classical in
/-- After the loop a field of the payload has the value of the patch, if its name was met and the
patch changes it, and else the value from before. -/
theorem foldl_mergeField_valueAt (names : List String) (merged : DraftFields × List String)
    (field : RequirementField) :
    (names.foldl (mergeField draft patch) merged).1.valueAt field =
      if field.path ∈ names ∧ Changes draft patch field then patch.valueAt field
      else merged.1.valueAt field := by
  induction names generalizing merged with
  | nil => simp
  | cons name names ih =>
    rw [List.foldl_cons, ih]
    obtain ⟨other, value, hpath, hchanges, hvalue, heq⟩ | ⟨hnot, heq⟩ :=
      mergeField_cases draft patch merged name
    · rw [heq]
      by_cases hfield : field = other
      · subst hfield
        rw [DraftFields.valueAt_setAt_self, hvalue, ite_self, if_pos]
        exact ⟨hpath ▸ List.mem_cons_self, hchanges⟩
      · have hne : field.path ≠ name := fun hname =>
          hfield (RequirementField.path_injective (hname.trans hpath.symm))
        rw [DraftFields.valueAt_setAt_of_ne _ hfield]
        simp only [List.mem_cons, hne, false_or]
    · rw [heq]
      by_cases hname : field.path = name
      · have hno : ¬ Changes draft patch field := hnot field hname
        simp only [hno, and_false, if_false]
      · simp only [List.mem_cons, hname, false_or]

theorem foldl_mergeField_changed (names : List String) (merged : DraftFields × List String)
    (name : String) :
    name ∈ (names.foldl (mergeField draft patch) merged).2 ↔ name ∈ merged.2 ∨
      ∃ field : RequirementField, field.path = name ∧ name ∈ names ∧
        Changes draft patch field := by
  induction names generalizing merged with
  | nil => simp
  | cons first names ih =>
    rw [List.foldl_cons, ih]
    obtain ⟨other, value, hpath, hchanges, -, heq⟩ | ⟨hnot, heq⟩ :=
      mergeField_cases draft patch merged first
    · rw [heq]
      constructor
      · rintro (hmem | ⟨field, hfield, hmem, hrest⟩)
        · rcases List.mem_append.mp hmem with hmem | hmem
          · exact .inl hmem
          · obtain rfl := List.mem_singleton.mp hmem
            exact .inr ⟨other, hpath, List.mem_cons_self, hchanges⟩
        · exact .inr ⟨field, hfield, List.mem_cons_of_mem _ hmem, hrest⟩
      · rintro (hmem | ⟨field, hfield, hmem, hrest⟩)
        · exact .inl (List.mem_append_left _ hmem)
        · rcases List.mem_cons.mp hmem with rfl | hmem
          · exact .inl (List.mem_append_right _ (List.mem_singleton.mpr rfl))
          · exact .inr ⟨field, hfield, hmem, hrest⟩
    · rw [heq]
      refine or_congr_right (exists_congr fun field => and_congr_right fun hfield => ?_)
      refine and_congr_left fun hrest => ⟨List.mem_cons_of_mem _, fun hmem => ?_⟩
      rcases List.mem_cons.mp hmem with rfl | hmem
      · exact absurd hrest (hnot field hfield)
      · exact hmem

/-- What every written field keeps, the loop keeps. -/
theorem foldl_mergeField_keeps {β : Type} (part : DraftFields → β) (names : List String)
    (merged : DraftFields × List String)
    (h : ∀ field value before, field.path ∈ names → Changes draft patch field →
      part (DraftFields.setAt before field value) = part before) :
    part (names.foldl (mergeField draft patch) merged).1 = part merged.1 := by
  induction names generalizing merged with
  | nil => rfl
  | cons name names ih =>
    rw [List.foldl_cons, ih _ fun field value before hmem =>
      h field value before (List.mem_cons_of_mem _ hmem)]
    obtain ⟨field, value, hpath, hchanges, -, heq⟩ | ⟨-, heq⟩ :=
      mergeField_cases draft patch merged name
    · rw [heq]
      exact h field value merged.1 (hpath ▸ List.mem_cons_self) hchanges
    · rw [heq]

theorem mem_mergePayload {name : String} :
    name ∈ (mergePayload draft patch allowedFields).2 ↔ ∃ field : RequirementField,
      field.path = name ∧ name ∈ allowedFields ∧ Changes draft patch field := by
  rw [mergePayload, foldl_mergeField_changed]
  simp

open Classical in
theorem mergePayload_valueAt (field : RequirementField) :
    (mergePayload draft patch allowedFields).1.valueAt field =
      if field.path ∈ (mergePayload draft patch allowedFields).2 then patch.valueAt field
      else draft.valueAt field := by
  have hmem : field.path ∈ (mergePayload draft patch allowedFields).2 ↔
      field.path ∈ allowedFields ∧ Changes draft patch field := by
    rw [mem_mergePayload]
    constructor
    · rintro ⟨other, hpath, hrest⟩
      rw [← RequirementField.path_injective hpath]
      exact ⟨hpath ▸ hrest.1, hrest.2⟩
    · exact fun h => ⟨field, rfl, h⟩
  rw [mergePayload, foldl_mergeField_valueAt, ← mergePayload]
  simp only [mem_sortedSet, hmem]

/-- A field that is not changed, although the patch may write it, has the value of the patch. -/
theorem same_of_not_changes {field : RequirementField} {value : FieldValue field}
    (hvalue : patch.valueAt field = some value) (h : ¬ Changes draft patch field) :
    ∃ current, draft.valueAt field = some current ∧ sameValue field current value = true := by
  cases hdraft : draft.valueAt field with
  | none => exact absurd ⟨value, hvalue, by rw [hdraft]; rfl⟩ h
  | some current =>
    refine ⟨current, rfl, ?_⟩
    by_contra hdiffers
    exact h ⟨value, hvalue, by rw [hdraft]; simpa using hdiffers⟩

/-- Without a change the loop changes nothing. -/
theorem mergePayload_eq_self (h : ∀ field : RequirementField, field.path ∈ allowedFields →
    ¬ Changes draft patch field) : mergePayload draft patch allowedFields = (draft, []) := by
  have hchanged : (mergePayload draft patch allowedFields).2 = [] := by
    rw [List.eq_nil_iff_forall_not_mem]
    intro name hmem
    obtain ⟨field, hpath, hallowed, hchanges⟩ := mem_mergePayload.mp hmem
    exact h field (hpath ▸ hallowed) hchanges
  have hpayload : (mergePayload draft patch allowedFields).1 = draft := by
    refine foldl_mergeField_keeps id _ _ fun field value before hmem hchanges => ?_
    exact absurd hchanges (h field (mem_sortedSet.mp hmem))
  exact Prod.ext hpayload hchanged

theorem mem_rejectedFields {name : String} :
    name ∈ rejectedFields patch allowedFields ↔ ∃ field : RequirementField, field.path = name ∧
      patch.valueAt field ≠ none ∧ name ∉ allowedFields := by
  rw [rejectedFields, mem_sortedSet, List.mem_filter, decide_eq_true_eq, List.mem_map]
  constructor
  · rintro ⟨⟨field, hfield, hpath⟩, hnot⟩
    rw [List.mem_filter, Option.isSome_iff_ne_none] at hfield
    exact ⟨field, hpath, hfield.2, hnot⟩
  · rintro ⟨field, hpath, hsome, hnot⟩
    refine ⟨⟨field, List.mem_filter.mpr ⟨field.mem_all, ?_⟩, hpath⟩, hnot⟩
    exact Option.isSome_iff_ne_none.mpr hsome

/-! ## What a merge does -/

/-- Two optional values are equal, as the program compares them. -/
def SameAt (field : RequirementField) : Option (FieldValue field) → Option (FieldValue field) → Prop
  | none, none => True
  | some a, some b => sameValue field a b = true
  | _, _ => False

theorem sameAt_self (field : RequirementField) (value : Option (FieldValue field)) :
    SameAt field value value := by
  cases value with
  | none => trivial
  | some value => exact sameValue_self field value

end Payload

variable {draft : DraftFields} {patch : RequirementPatch} {allowedFields : List String}

/-- What a merge should do. -/
structure PatchMerged (draft : DraftFields) (patch : RequirementPatch)
    (allowedFields : List String) (merged : DraftFields) (changed rejected : List String) :
    Prop where
  /-- The result is a draft. -/
  accepted : merged.validate = .ok merged
  /-- The draft differs in the changed fields and in no other. -/
  mem_changed : ∀ name, name ∈ changed ↔ ∃ field : RequirementField, field.path = name ∧
    ¬ SameAt field (draft.valueAt field) (merged.valueAt field)
  unchanged : ∀ field : RequirementField, field.path ∉ changed →
    merged.valueAt field = draft.valueAt field
  arrival : "arrival.name" ∉ changed → "arrival.at" ∉ changed → merged.arrival = draft.arrival
  departure : "departure.name" ∉ changed → "departure.at" ∉ changed →
    merged.departure = draft.departure
  /-- A changed field is allowed and has the value of the patch. -/
  changed_value : ∀ field : RequirementField, field.path ∈ changed → field.path ∈ allowedFields ∧
    patch.valueAt field ≠ none ∧ merged.valueAt field = patch.valueAt field
  /-- What the patch has for an allowed field, the result has. -/
  written : ∀ (field : RequirementField) value, field.path ∈ allowedFields →
    patch.valueAt field = some value → SameAt field (merged.valueAt field) (some value)
  /-- Nothing is erased. -/
  kept : ∀ field, patch.valueAt field = none → merged.valueAt field = draft.valueAt field
  mem_rejected : ∀ name, name ∈ rejected ↔ ∃ field : RequirementField, field.path = name ∧
    patch.valueAt field ≠ none ∧ name ∉ allowedFields
  /-- The same patch again changes nothing. -/
  again : mergeRequirementPatch merged patch allowedFields = .ok (merged, [], rejected)

/-- The lists of the patch that may be written have at most 100 terms. -/
def PatchFits (patch : RequirementPatch) (allowedFields : List String) : Prop :=
  ∀ (field : RequirementField) value, patch.valueAt field = some value →
    field.path ∈ allowedFields → FitsDraft field value

theorem mergeRequirementPatch_eq (draft : DraftFields) (patch : RequirementPatch)
    (allowedFields : List String) :
    mergeRequirementPatch draft patch allowedFields =
      (mergePayload draft patch allowedFields).1.validate >>= fun merged =>
        .ok (merged, (mergePayload draft patch allowedFields).2,
          rejectedFields patch allowedFields) := rfl

/-- The payload is a draft when the lists of the patch fit. -/
theorem mergePayload_accepted (hdraft : draft.validate = .ok draft)
    (hpatch : patch.validate = patch) (hfits : PatchFits patch allowedFields) :
    (mergePayload draft patch allowedFields).1.validate =
      .ok (mergePayload draft patch allowedFields).1 := by
  rw [DraftFields.accepted_iff] at hdraft ⊢
  intro field value hvalue
  rw [mergePayload_valueAt] at hvalue
  split at hvalue
  · next hmem =>
    obtain ⟨other, hpath, hallowed, -⟩ := mem_mergePayload.mp hmem
    exact ⟨RequirementPatch.normalValue hpatch hvalue, hfits field value hvalue hallowed⟩
  · exact hdraft field value hvalue

/-- What a merge returns. -/
theorem mergeRequirementPatch_eq_ok (hdraft : draft.validate = .ok draft)
    (hpatch : patch.validate = patch) {merged : DraftFields} {changed rejected : List String}
    (h : mergeRequirementPatch draft patch allowedFields = .ok (merged, changed, rejected)) :
    merged = (mergePayload draft patch allowedFields).1 ∧
      changed = (mergePayload draft patch allowedFields).2 ∧ merged.validate = .ok merged := by
  rw [mergeRequirementPatch_eq] at h
  obtain ⟨validated, hvalidated, h⟩ := bind_eq_ok h
  -- the payload passed the check of the lengths, so the lists of the patch fit
  obtain ⟨_, hlengths, -⟩ := bind_eq_ok hvalidated
  obtain ⟨hlength, hlength', hlength''⟩ := require_eq_ok hlengths
  have haccepted : (mergePayload draft patch allowedFields).1.validate =
      .ok (mergePayload draft patch allowedFields).1 := by
    rw [DraftFields.accepted_iff] at hdraft ⊢
    intro field value hvalue
    have hfits : FitsDraft field value := by
      cases field
      case interests => cases hvalue; exact hlength
      case avoid => cases hvalue; exact hlength'
      case mustVisit => cases hvalue; exact hlength''
      all_goals exact trivial
    rw [mergePayload_valueAt] at hvalue
    split at hvalue
    · exact ⟨RequirementPatch.normalValue hpatch hvalue, hfits⟩
    · exact hdraft field value hvalue
  rw [haccepted, Except.ok.injEq] at hvalidated
  have heq := Except.ok.inj h
  rw [Prod.mk.injEq, Prod.mk.injEq] at heq
  obtain ⟨rfl, rfl, -⟩ := heq
  rw [← hvalidated]
  exact ⟨rfl, rfl, haccepted⟩

/-- What the merge returns is what it should be. -/
theorem patchMerged_mergePayload (hdraft : draft.validate = .ok draft)
    (hpatch : patch.validate = patch) (hfits : PatchFits patch allowedFields) :
    PatchMerged draft patch allowedFields (mergePayload draft patch allowedFields).1
      (mergePayload draft patch allowedFields).2 (rejectedFields patch allowedFields) := by
  have haccepted := mergePayload_accepted hdraft hpatch hfits
  -- the changed fields are those that the patch may change and does
  have hchanged : ∀ field : RequirementField,
      field.path ∈ (mergePayload draft patch allowedFields).2 →
        field.path ∈ allowedFields ∧ Changes draft patch field := by
    intro field hmem
    obtain ⟨other, hpath, hallowed, hchanges⟩ := mem_mergePayload.mp hmem
    exact ⟨hallowed, RequirementField.path_injective hpath ▸ hchanges⟩
  have hunchanged : ∀ field : RequirementField,
      field.path ∉ (mergePayload draft patch allowedFields).2 →
        (mergePayload draft patch allowedFields).1.valueAt field = draft.valueAt field :=
    fun field hnot => by rw [mergePayload_valueAt, if_neg hnot]
  have hwritten : ∀ (field : RequirementField) value, field.path ∈ allowedFields →
      patch.valueAt field = some value → ∃ current,
        (mergePayload draft patch allowedFields).1.valueAt field = some current ∧
          sameValue field current value = true := by
    intro field value hallowed hvalue
    rw [mergePayload_valueAt]
    split
    · exact ⟨value, hvalue, sameValue_self field value⟩
    · next hnot =>
      refine same_of_not_changes hvalue fun hchanges => hnot ?_
      exact mem_mergePayload.mpr ⟨field, rfl, hallowed, hchanges⟩
  constructor
  case accepted => exact haccepted
  case mem_changed =>
    intro name
    constructor
    · intro hmem
      obtain ⟨field, hpath, hallowed, value, hvalue, hdiffers⟩ := mem_mergePayload.mp hmem
      refine ⟨field, hpath, ?_⟩
      rw [mergePayload_valueAt, if_pos (hpath ▸ hmem), hvalue]
      cases hcurrent : draft.valueAt field with
      | none => exact not_false
      | some current =>
        rw [hcurrent, Option.any_some] at hdiffers
        rw [SameAt, hdiffers]
        exact Bool.false_ne_true
    · rintro ⟨field, rfl, hdiffers⟩
      by_contra hnot
      rw [hunchanged field hnot] at hdiffers
      exact hdiffers (sameAt_self field _)
  case unchanged => exact hunchanged
  case arrival =>
    intro hname hat
    refine foldl_mergeField_keeps DraftFields.arrival _ _ fun field value before hmem hchanges => ?_
    have hnot : field.path ∈ (mergePayload draft patch allowedFields).2 :=
      mem_mergePayload.mpr ⟨field, rfl, mem_sortedSet.mp hmem, hchanges⟩
    cases field <;> first | rfl | exact absurd hnot hname | exact absurd hnot hat
  case departure =>
    intro hname hat
    refine foldl_mergeField_keeps DraftFields.departure _ _
      fun field value before hmem hchanges => ?_
    have hnot : field.path ∈ (mergePayload draft patch allowedFields).2 :=
      mem_mergePayload.mpr ⟨field, rfl, mem_sortedSet.mp hmem, hchanges⟩
    cases field <;> first | rfl | exact absurd hnot hname | exact absurd hnot hat
  case changed_value =>
    intro field hmem
    obtain ⟨hallowed, value, hvalue, -⟩ := hchanged field hmem
    refine ⟨hallowed, by rw [hvalue]; simp, ?_⟩
    rw [mergePayload_valueAt, if_pos hmem]
  case written =>
    intro field value hallowed hvalue
    obtain ⟨current, hcurrent, hsame⟩ := hwritten field value hallowed hvalue
    rw [hcurrent]
    exact hsame
  case kept =>
    intro field hnone
    refine hunchanged field fun hmem => ?_
    obtain ⟨-, value, hvalue, -⟩ := hchanged field hmem
    rw [hnone] at hvalue
    cases hvalue
  case mem_rejected => exact fun name => mem_rejectedFields
  case again =>
    have hself : mergePayload (mergePayload draft patch allowedFields).1 patch allowedFields =
        ((mergePayload draft patch allowedFields).1, []) := by
      refine mergePayload_eq_self fun field hallowed hchanges => ?_
      obtain ⟨value, hvalue, hdiffers⟩ := hchanges
      obtain ⟨current, hcurrent, hsame⟩ := hwritten field value hallowed hvalue
      rw [hcurrent, Option.any_some, hsame] at hdiffers
      cases hdiffers
    rw [mergeRequirementPatch_eq, hself, haccepted]
    rfl

/-- **Patches are merged as they should be exactly when their lists fit.** -/
theorem patchMerged_iff (hdraft : draft.validate = .ok draft) (hpatch : patch.validate = patch) :
    (∃ merged changed rejected,
      mergeRequirementPatch draft patch allowedFields = .ok (merged, changed, rejected) ∧
        PatchMerged draft patch allowedFields merged changed rejected) ↔
      PatchFits patch allowedFields := by
  constructor
  · rintro ⟨merged, changed, rejected, -, hmerged⟩ field value hvalue hallowed
    have haccepted := DraftFields.accepted_iff.mp hmerged.accepted
    have hwritten := hmerged.written field value hallowed hvalue
    cases hcurrent : merged.valueAt field with
    | none =>
      rw [hcurrent] at hwritten
      exact absurd hwritten not_false
    | some current =>
      rw [hcurrent] at hwritten
      have hfits := (haccepted field current hcurrent).2
      -- lists are compared term by term, so the list of the patch is the one in the draft
      cases field
      case interests => exact of_decide_eq_true hwritten ▸ hfits
      case avoid => exact of_decide_eq_true hwritten ▸ hfits
      case mustVisit => exact of_decide_eq_true hwritten ▸ hfits
      all_goals exact trivial
  · intro hfits
    have haccepted := mergePayload_accepted hdraft hpatch hfits
    refine ⟨_, _, _, ?_, patchMerged_mergePayload hdraft hpatch hfits⟩
    rw [mergeRequirementPatch_eq, haccepted]
    rfl

/-! ## A patch that is merged, and one that is not -/

omit [Platform]

namespace Sample

/-- A draft of which nothing is known. -/
def blankDraft : DraftFields :=
  ⟨none, none, none, none, none, none, none, none, [], [], [], none, none, none, none⟩

/-- A patch with interests and the time of arrival. -/
def interestsPatch (interests : List String) : RequirementPatch :=
  ⟨none, none, none, none, some ⟨none, some (hourOf 0 9)⟩, none, none, none, some interests, none,
    none, none, none, none, none⟩

/-- The numbers below `n`, as texts. -/
def numerals : ℕ → List String
  | 0 => []
  | n + 1 => toString n :: numerals n

end Sample

open Sample

theorem patchMerged_iff_museum :
    letI := plainPlatform
    ∃ merged changed rejected,
      mergeRequirementPatch blankDraft (interestsPatch ["museum"]) ["interests", "arrival.at"] =
        .ok (merged, changed, rejected) ∧
      PatchMerged blankDraft (interestsPatch ["museum"]) ["interests", "arrival.at"]
        merged changed rejected := by
  let := plainPlatform
  have hfits : PatchFits (interestsPatch ["museum"]) ["interests", "arrival.at"] := by
    intro field value hvalue _
    cases field
    case interests =>
      cases hvalue
      exact Nat.le_of_ble_eq_true rfl
    case avoid => cases hvalue
    case mustVisit => cases hvalue
    all_goals exact trivial
  exact (patchMerged_iff rfl rfl).mpr hfits

/-- A patch may have 101 interests, a draft may not. -/
theorem exists_not_patchMerged :
    letI := plainPlatform
    blankDraft.validate = .ok blankDraft ∧
      (interestsPatch (numerals 101)).validate = interestsPatch (numerals 101) ∧
      ¬ ∃ merged changed rejected,
        mergeRequirementPatch blankDraft (interestsPatch (numerals 101)) ["interests"] =
          .ok (merged, changed, rejected) ∧
        PatchMerged blankDraft (interestsPatch (numerals 101)) ["interests"]
          merged changed rejected := by
  let := plainPlatform
  refine ⟨rfl, ?_, ?_⟩
  · have hnormal : normalizeTerms [] (numerals 101) = numerals 101 := by decide +kernel
    have hvalidate : ∀ interests, (interestsPatch interests).validate =
        interestsPatch (normalizeTerms [] interests) := fun _ => rfl
    rw [hvalidate, hnormal]
  · rintro ⟨merged, changed, rejected, hmerge, -⟩
    rw [mergeRequirementPatch_eq] at hmerge
    obtain ⟨draft, hdraft, -⟩ := bind_eq_ok hmerge
    obtain ⟨_, hlengths, -⟩ := bind_eq_ok hdraft
    have hlength := (require_eq_ok hlengths).1
    have hchanges : Changes blankDraft (interestsPatch (numerals 101)) .interests :=
      ⟨numerals 101, rfl, rfl⟩
    have hmem : RequirementField.interests.path ∈
        (mergePayload blankDraft (interestsPatch (numerals 101)) ["interests"]).2 :=
      mem_mergePayload.mpr ⟨.interests, rfl, List.mem_singleton.mpr rfl, hchanges⟩
    have hvalue : (mergePayload blankDraft (interestsPatch (numerals 101))
        ["interests"]).1.valueAt .interests = _ := mergePayload_valueAt .interests
    rw [if_pos hmem] at hvalue
    have hinterests := Option.some.inj hvalue
    rw [hinterests] at hlength
    exact absurd hlength (by decide +kernel)

end TravelPlanAgent
