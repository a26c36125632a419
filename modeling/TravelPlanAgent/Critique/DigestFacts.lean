import TravelPlanAgent.Critique.Evidence
import TravelPlanAgent.Planning.Agreement
import TravelPlanAgent.Library.Blocks

/-!
# What a digest holds

The facts of a candidate are written block after block, each block about one subject, and the id
of a fact is a hash of its subject and its field.  Facts about the same subject have the same ids,
so the ids of a digest tell its facts apart exactly when no subject comes twice.

* `EvidenceSubject`, `subjectsOf`: what facts are about, in the order of the facts.
* `map_key_candidateItems`: the facts are the blocks of the subjects.
* `evidenceIdentity_inj`: the hashed text tells subjects and fields apart.
* `nodup_ids_take_iff`: the first ids are distinct exactly when the subjects begun are.
* `fittingCount`, `takeWithin_eq`: a digest takes the facts that fit.
* `SoundDigests`, `DistinctSubjects`: well-formed digests, and the candidates that have them.
* `soundDigests_iff`: when the digests are well formed.
* `exists_not_soundDigests`: two prices that are unknown since different hours.
-/

namespace TravelPlanAgent

open Calendar Blocks

variable [Platform]

/-! ## Subjects -/

/-- What a block of facts is about. -/
inductive EvidenceSubject where
  | preferences
  | metrics
  | day (date : Date)
  | visit (date : Date) (poiId : String)
  | place (poiId : String)
  | times (date : Date) (poiId : String)
  | route (date : Date) (poiId : String)
  | assumed (field : String)
  deriving DecidableEq

/-- What the id of a fact is made from, next to the candidate. -/
abbrev EvidenceKey := EvidenceKind × Option Date × Option String × String

/-- The facts of a block, by what their ids are made from. -/
def EvidenceSubject.keys : EvidenceSubject → List EvidenceKey
  | .preferences =>
    ["pace", "interests", "avoid", "must_visit", "needs_frequent_rest",
      "max_daily_activity_minutes", "max_daily_walking_meters"].map
      fun field => (.tripPreference, none, none, field)
  | .metrics =>
    ["preference_match", "diversity", "fatigue_score", "data_confidence", "total_travel_minutes",
      "walking_distance_meters", "known_estimated_cost", "unknown_cost_item_count"].map
      fun field => (.candidateMetric, none, none, field)
  | .day date =>
    ["activity_count", "activity_minutes", "occupied_span_minutes", "total_travel_minutes",
      "walking_distance_meters", "fatigue_score"].map
      fun field => (.dayMetric, some date, none, field)
  | .visit date poiId =>
    ["name", "must_visit"].map fun field => (.scheduleFact, some date, some poiId, field)
  | .place poiId =>
    ["categories", "duration_minutes", "data_confidence"].map
      fun field => (.poiFact, none, some poiId, field)
  | .times date poiId =>
    ["position", "start_at", "end_at"].map
      fun field => (.scheduleFact, some date, some poiId, field)
  | .route date poiId =>
    ["travel_minutes_from_previous", "distance_meters_from_previous"].map
      fun field => (.routeFact, some date, some poiId, field)
  | .assumed field => [(.assumption, none, none, field)]

/-- The subjects of the facts of a candidate, in order. -/
def subjectsOf (candidate : PlanCandidate) (pois : List PlanningPOI) : List EvidenceSubject :=
  let placed := placedItems candidate
  [.preferences, .metrics] ++ candidate.days.map (fun day => .day day.date) ++
    placed.map (fun (date, _, _, poiId) => .visit date poiId) ++
    placed.filterMap (fun (_, _, _, poiId) =>
      (poiById pois poiId).map fun poi => .place poi.facts.id) ++
    placed.map (fun (date, _, _, poiId) => .times date poiId) ++
    placed.map (fun (date, _, _, poiId) => .route date poiId) ++
    candidate.assumptions.map (fun assumption => .assumed assumption.field)

/-- What the id of a fact is made from. -/
def EvidenceItem.key (item : EvidenceItem) : EvidenceKey :=
  (item.kind, item.day, item.entityId, item.field)

omit [Platform] in
/-- Blocks are written one after the other. -/
theorem map_key_flatMap {β : Type} {l : List β} {facts : β → List EvidenceItem}
    {subject : β → Option EvidenceSubject}
    (h : ∀ b, (facts b).map EvidenceItem.key = (subject b).toList.flatMap EvidenceSubject.keys) :
    (l.flatMap facts).map EvidenceItem.key =
      (l.filterMap subject).flatMap EvidenceSubject.keys := by
  induction l with
  | nil => rfl
  | cons b rest ih =>
    rw [List.flatMap_cons, List.map_append, ih, h b]
    cases hsubject : subject b with
    | none => simp [hsubject]
    | some s => simp [hsubject]

/-- The facts of a candidate are the blocks of its subjects. -/
theorem map_key_candidateItems (trip : TripSpec) (candidate : PlanCandidate)
    (pois : List PlanningPOI) :
    (candidateItems trip candidate pois).map EvidenceItem.key =
      (subjectsOf candidate pois).flatMap EvidenceSubject.keys := by
  rw [candidateItems, subjectsOf]
  dsimp only
  rw [← List.filterMap_eq_map' (f := fun day : DayPlan => EvidenceSubject.day day.date),
    ← List.filterMap_eq_map' (f := fun entry : Date × ℕ × PlanItem × String =>
      EvidenceSubject.visit entry.1 entry.2.2.2),
    ← List.filterMap_eq_map' (f := fun entry : Date × ℕ × PlanItem × String =>
      EvidenceSubject.times entry.1 entry.2.2.2),
    ← List.filterMap_eq_map' (f := fun entry : Date × ℕ × PlanItem × String =>
      EvidenceSubject.route entry.1 entry.2.2.2)]
  simp only [List.map_append, List.flatMap_append]
  congr 7
  · exact map_key_flatMap fun day => rfl
  · exact map_key_flatMap fun entry => rfl
  · refine map_key_flatMap fun entry => ?_
    cases poiById pois entry.2.2.2 <;> rfl
  · exact map_key_flatMap fun entry => rfl
  · exact map_key_flatMap fun entry => rfl
  · rw [List.map_map, List.flatMap_map]
    exact List.map_eq_flatMap ..

/-- The text that is hashed for the id of a fact. -/
def evidenceIdentity (candidateId : String) (key : EvidenceKey) : String :=
  "|".intercalate
    [candidateId, key.1.value, (key.2.1.map Date.isoformat).getD "", key.2.2.1.getD "", key.2.2.2]

/-- The id of a fact is the hash of its identity. -/
theorem id_of_mem_candidateItems {trip : TripSpec} {candidate : PlanCandidate}
    {pois : List PlanningPOI} {item : EvidenceItem}
    (h : item ∈ candidateItems trip candidate pois) :
    item.id = "ev_" ++ prefixText 20 (sha256 (evidenceIdentity candidate.id item.key)) := by
  have hfacts : ∀ {fields : List (String × EvidenceValue)} {kind day entityId source confidence},
      item ∈ fields.map (fun entry =>
        evidenceItem candidate.id kind entry.1 entry.2 day entityId source confidence) →
      item.id = "ev_" ++ prefixText 20 (sha256 (evidenceIdentity candidate.id item.key)) := by
    intro fields kind day entityId source confidence h
    obtain ⟨_, -, rfl⟩ := List.mem_map.mp h
    rfl
  rw [candidateItems] at h
  simp only [List.mem_append, List.mem_flatMap] at h
  rcases h with ((((((h | h) | ⟨_, _, h⟩) | ⟨_, _, h⟩) | ⟨entry, _, h⟩) | ⟨_, _, h⟩) |
    ⟨_, _, h⟩) | h
  · exact hfacts h
  · exact hfacts h
  · exact hfacts h
  · exact hfacts h
  · cases hpoi : poiById pois entry.2.2.2 with
    | none => simp [hpoi] at h
    | some poi =>
      rw [hpoi] at h
      exact hfacts h
  · exact hfacts h
  · exact hfacts h
  · obtain ⟨_, -, rfl⟩ := List.mem_map.mp h
    rfl

/-! ## Identities -/

section Identities

omit [Platform]

/-- The subject of a block that has a fact with this key. -/
def EvidenceKey.subject : EvidenceKey → Option EvidenceSubject
  | (.tripPreference, _, _, _) => some .preferences
  | (.candidateMetric, _, _, _) => some .metrics
  | (.dayMetric, some date, _, _) => some (.day date)
  | (.scheduleFact, some date, some poiId, field) =>
    if field ∈ ["name", "must_visit"] then some (.visit date poiId) else some (.times date poiId)
  | (.poiFact, _, some poiId, _) => some (.place poiId)
  | (.routeFact, some date, some poiId, _) => some (.route date poiId)
  | (.assumption, _, _, field) => some (.assumed field)
  | _ => none

theorem subject_of_mem_keys {s : EvidenceSubject} {key : EvidenceKey} (h : key ∈ s.keys) :
    EvidenceKey.subject key = some s := by
  cases s <;> simp only [EvidenceSubject.keys, List.mem_map] at h
  case assumed field =>
    rw [List.mem_singleton.mp h]
    rfl
  case visit date poiId =>
    obtain ⟨field, hfield, rfl⟩ := h
    exact if_pos hfield
  case times date poiId =>
    obtain ⟨field, hfield, rfl⟩ := h
    refine if_neg ?_
    revert field
    decide
  all_goals
    obtain ⟨field, -, rfl⟩ := h
    rfl

/-- The keys of a block, by their kind: whether they name a day and an entity, and that the
separator is in no field other than an assumed one. -/
theorem shape_of_mem_keys {s : EvidenceSubject} {key : EvidenceKey} (h : key ∈ s.keys) :
    key.2.1.isSome = decide (key.1 ∈ [.dayMetric, .scheduleFact, .routeFact]) ∧
      key.2.2.1.isSome = decide (key.1 ∈ [.scheduleFact, .poiFact, .routeFact]) ∧
      (key.1 ≠ .assumption → '|' ∉ key.2.2.2.toList) := by
  cases s <;> simp only [EvidenceSubject.keys, List.mem_map] at h
  case assumed field =>
    rw [List.mem_singleton.mp h]
    exact ⟨rfl, rfl, fun hkind => absurd rfl hkind⟩
  all_goals
    obtain ⟨field, hfield, rfl⟩ := h
    have hbar : '|' ∉ field.toList := by
      revert field
      decide
    exact ⟨rfl, rfl, fun _ => hbar⟩

theorem bar_not_mem_dayText (day : Option Date) :
    '|' ∉ ((day.map Date.isoformat).getD "").toList := by
  cases day with
  | none => decide
  | some date =>
    intro h
    rcases Date.mem_isoformat h with hdigit | hdash
    · exact absurd hdigit (by decide)
    · exact absurd hdash (by decide)

theorem dayText_inj {day day' : Option Date} (hsome : day.isSome = day'.isSome)
    (h : (day.map Date.isoformat).getD "" = (day'.map Date.isoformat).getD "") : day = day' := by
  cases day <;> cases day'
  · rfl
  · exact Bool.noConfusion hsome
  · exact Bool.noConfusion hsome
  · exact congrArg some (Date.isoformat_injective h)

theorem entityText_inj {entityId entityId' : Option String}
    (hsome : entityId.isSome = entityId'.isSome)
    (h : entityId.getD "" = entityId'.getD "") : entityId = entityId' := by
  cases entityId <;> cases entityId'
  · rfl
  · exact Bool.noConfusion hsome
  · exact Bool.noConfusion hsome
  · exact congrArg some h

theorem toList_evidenceIdentity (candidateId : String) (key : EvidenceKey) :
    (evidenceIdentity candidateId key).toList = candidateId.toList ++ '|' :: (key.1.value.toList ++
      '|' :: (((key.2.1.map Date.isoformat).getD "").toList ++
        '|' :: ((key.2.2.1.getD "").toList ++ '|' :: key.2.2.2.toList))) := by
  rw [evidenceIdentity, String.toList_intercalate]
  simp [List.intercalate]

/-- The hashed text tells the facts of a candidate apart. -/
theorem evidenceIdentity_inj {candidateId : String} {s t : EvidenceSubject} {k k' : EvidenceKey}
    (hs : k ∈ s.keys) (ht : k' ∈ t.keys)
    (h : evidenceIdentity candidateId k = evidenceIdentity candidateId k') : k = k' := by
  obtain ⟨hday, hentity, hfield⟩ := shape_of_mem_keys hs
  obtain ⟨hday', hentity', hfield'⟩ := shape_of_mem_keys ht
  have htext := congrArg String.toList h
  rw [toList_evidenceIdentity, toList_evidenceIdentity, List.append_cancel_left_eq,
    List.cons_inj_right] at htext
  have hbar : ∀ kind : EvidenceKind, '|' ∉ kind.value.toList := by
    intro kind
    cases kind <;> decide
  obtain ⟨hkind, htext⟩ := append_sep_inj (hbar _) (hbar _) htext
  have hkind : k.1 = k'.1 := by
    have hvalue : k.1.value = k'.1.value := String.toList_inj.mp hkind
    revert hvalue
    cases k.1 <;> cases k'.1 <;> decide
  obtain ⟨hdayText, htext⟩ := append_sep_inj (bar_not_mem_dayText _) (bar_not_mem_dayText _) htext
  have hday : k.2.1 = k'.2.1 :=
    dayText_inj (by rw [hday, hday', hkind]) (String.toList_inj.mp hdayText)
  have hsome : k.2.2.1.isSome = k'.2.2.1.isSome := by rw [hentity, hentity', hkind]
  obtain ⟨hentity, hfield⟩ : k.2.2.1 = k'.2.2.1 ∧ k.2.2.2 = k'.2.2.2 := by
    by_cases hassumed : k.1 = .assumption
    · have hnone : k.2.2.1 = none := by
        rw [hassumed] at hentity
        exact Option.not_isSome_iff_eq_none.mp (by rw [hentity]; decide)
      have hnone' : k'.2.2.1 = none := by
        rw [← hkind, hassumed] at hentity'
        exact Option.not_isSome_iff_eq_none.mp (by rw [hentity']; decide)
      rw [hnone, hnone', List.append_cancel_left_eq, List.cons_inj_right] at htext
      exact ⟨hnone.trans hnone'.symm, String.toList_inj.mp htext⟩
    · obtain ⟨hentityText, htext⟩ := append_sep_inj_right (hfield hassumed)
        (hfield' (hkind ▸ hassumed)) htext
      exact ⟨entityText_inj hsome (String.toList_inj.mp hentityText), String.toList_inj.mp htext⟩
  exact Prod.ext hkind (Prod.ext hday (Prod.ext hentity hfield))

theorem keys_ne_nil (s : EvidenceSubject) : s.keys ≠ [] := by
  cases s <;> simp [EvidenceSubject.keys]

theorem nodup_keys (s : EvidenceSubject) : s.keys.Nodup := by
  cases s <;> simp [EvidenceSubject.keys]

theorem keys_disjoint (s t : EvidenceSubject) (key : EvidenceKey) (hs : key ∈ s.keys)
    (ht : key ∈ t.keys) : s = t :=
  Option.some.inj ((subject_of_mem_keys hs).symm.trans (subject_of_mem_keys ht))

end Identities

/-! ## Ids -/

section Ids

variable {trip : TripSpec} {candidate : PlanCandidate} {pois : List PlanningPOI}

/-- The hash of some texts has no collisions. -/
def HashDistinct (texts : List String) : Prop :=
  ∀ text ∈ texts, ∀ text' ∈ texts,
    prefixText 20 (sha256 text) = prefixText 20 (sha256 text') → text = text'

/-- The texts that are hashed for the ids of a candidate's facts. -/
def identitiesOf (trip : TripSpec) (pois : List PlanningPOI) (candidate : PlanCandidate) :
    List String :=
  (candidateItems trip candidate pois).map fun item => evidenceIdentity candidate.id item.key

/-- Every fact is in the block of a subject. -/
theorem exists_mem_keys {item : EvidenceItem} (h : item ∈ candidateItems trip candidate pois) :
    ∃ s : EvidenceSubject, item.key ∈ s.keys := by
  have hmem := List.mem_map_of_mem (f := EvidenceItem.key) h
  rw [map_key_candidateItems] at hmem
  obtain ⟨s, -, hs⟩ := List.mem_flatMap.mp hmem
  exact ⟨s, hs⟩

/-- Without collisions facts have the same id when their ids are made from the same. -/
theorem id_eq_iff (hhash : HashDistinct (identitiesOf trip pois candidate))
    {item item' : EvidenceItem} (hitem : item ∈ candidateItems trip candidate pois)
    (hitem' : item' ∈ candidateItems trip candidate pois) :
    item.id = item'.id ↔ item.key = item'.key := by
  rw [id_of_mem_candidateItems hitem, id_of_mem_candidateItems hitem', String.append_right_inj]
  constructor
  · intro h
    obtain ⟨s, hs⟩ := exists_mem_keys hitem
    obtain ⟨t, ht⟩ := exists_mem_keys hitem'
    exact evidenceIdentity_inj hs ht
      (hhash _ (List.mem_map_of_mem hitem) _ (List.mem_map_of_mem hitem') h)
  · intro h
    rw [h]

/-- The first ids are distinct exactly when the subjects begun are. -/
theorem nodup_ids_take_iff (hhash : HashDistinct (identitiesOf trip pois candidate)) (n : ℕ) :
    (((candidateItems trip candidate pois).take n).map EvidenceItem.id).Nodup ↔
      (begun EvidenceSubject.keys n (subjectsOf candidate pois)).Nodup := by
  rw [← nodup_take_flatMap_iff keys_ne_nil nodup_keys keys_disjoint, ← map_key_candidateItems trip,
    ← List.map_take, List.Nodup, List.Nodup, List.pairwise_map, List.pairwise_map]
  refine List.Pairwise.iff_of_mem fun hitem hitem' => not_congr ?_
  exact id_eq_iff hhash (List.mem_of_mem_take hitem) (List.mem_of_mem_take hitem')

end Ids

/-! ## Budgets -/

/-- How many of some facts fit into so many characters, one after the other. -/
def fittingCount (chars : ℕ) (items : List EvidenceItem) : ℕ :=
  Nat.findGreatest (fun n => ∀ m < n, evidenceChars (items.take (m + 1)) ≤ chars) items.length

theorem fittingCount_le (chars : ℕ) (items : List EvidenceItem) :
    fittingCount chars items ≤ items.length :=
  Nat.findGreatest_le _

/-- The facts that fit do. -/
theorem evidenceChars_fitting {chars : ℕ} {items : List EvidenceItem}
    (h : 0 < fittingCount chars items) :
    evidenceChars (items.take (fittingCount chars items)) ≤ chars := by
  have hfits := Nat.findGreatest_of_ne_zero rfl h.ne' (fittingCount chars items - 1)
    (Nat.sub_lt h Nat.one_pos)
  rwa [Nat.sub_add_cancel h] at hfits

/-- From some facts on, the others are taken as long as they fit. -/
theorem exists_takeWithin (chars : ℕ) (items : List EvidenceItem) {k : ℕ}
    (hk : k ≤ items.length) :
    ∃ n, k ≤ n ∧ n ≤ items.length ∧
      takeWithin chars (items.take k) (items.drop k) =
        (items.take n, decide (n < items.length)) ∧
      (∀ m, k ≤ m → m < n → evidenceChars (items.take (m + 1)) ≤ chars) ∧
      (n < items.length → chars < evidenceChars (items.take (n + 1))) := by
  induction hrest : items.length - k generalizing k with
  | zero =>
    obtain rfl : k = items.length := by omega
    refine ⟨items.length, le_rfl, le_rfl, ?_, fun m hm hlt => absurd hm (by omega),
      fun hlt => absurd hlt (lt_irrefl _)⟩
    rw [List.drop_length, takeWithin]
    simp
  | succ rest ih =>
    have hlt : k < items.length := by omega
    have htake : items.take k ++ [items[k]] = items.take (k + 1) := by
      rw [List.take_add_one, List.getElem?_eq_getElem hlt, Option.toList_some]
    rw [List.drop_eq_getElem_cons hlt, takeWithin, htake]
    by_cases hfull : chars < evidenceChars (items.take (k + 1))
    · refine ⟨k, le_rfl, hk, ?_, fun m hm hlt => absurd hm (by omega), fun _ => hfull⟩
      rw [if_pos hfull, decide_eq_true hlt]
    · obtain ⟨n, hkn, hn, htaken, hfits, hstop⟩ := ih hlt (by omega)
      refine ⟨n, by omega, hn, by rw [if_neg hfull, htaken], fun m hm hmn => ?_, hstop⟩
      rcases hm.eq_or_lt with rfl | hm
      · exact not_lt.mp hfull
      · exact hfits m hm hmn

/-- A digest takes the facts that fit. -/
theorem takeWithin_eq (chars : ℕ) (items : List EvidenceItem) :
    takeWithin chars [] items = (items.take (fittingCount chars items),
      decide (fittingCount chars items < items.length)) := by
  obtain ⟨n, -, hn, htaken, hfits, hstop⟩ := exists_takeWithin chars items (Nat.zero_le _)
  have hcount : fittingCount chars items = n := by
    refine (Nat.findGreatest_eq_iff).mpr ⟨hn, fun _ m hm => hfits m (Nat.zero_le m) hm, ?_⟩
    intro m hnm hm hall
    exact absurd (hall n hnm) (not_le.mpr (hstop (by omega)))
  rw [hcount]
  exact htaken

/-! ## Digests -/

/-- The digest of a candidate: its first facts, at most so many, and whether more are missing. -/
structure SoundDigest (trip : TripSpec) (pois : List PlanningPOI) (maxItems : ℕ)
    (candidate : PlanCandidate) (digest : CandidateEvidenceDigest) : Prop where
  candidateId : digest.candidateId = candidate.id
  style : digest.style = candidate.style
  facts : digest.evidence <+: candidateItems trip candidate pois
  count : digest.evidence.length ≤ maxItems
  inputChars : digest.inputChars = evidenceChars digest.evidence
  truncated : digest.truncated = true ↔ digest.evidence ≠ candidateItems trip candidate pois

/-- Digests of the first of some candidates, within so many characters, that tell their facts
apart. -/
structure SoundDigests (trip : TripSpec) (pois : List PlanningPOI) (maxItems chars : ℕ)
    (candidates : List PlanCandidate) (digests : List CandidateEvidenceDigest) : Prop where
  chars : (digests.map CandidateEvidenceDigest.inputChars).sum ≤ chars
  each : List.Forall₂ (SoundDigest trip pois maxItems) (candidates.take digests.length) digests
  distinct : ∀ digest ∈ digests, (digest.evidence.map EvidenceItem.id).Nodup

/-- No candidate comes to the same subject twice before its facts are cut off. -/
def DistinctSubjects (trip : TripSpec) (pois : List PlanningPOI) (maxItems : ℕ) :
    ℕ → List PlanCandidate → Prop
  | _, [] => True
  | chars, candidate :: rest =>
    let items := (candidateItems trip candidate pois).take maxItems
    let count := fittingCount chars items
    0 < count →
      (begun EvidenceSubject.keys count (subjectsOf candidate pois)).Nodup ∧
        DistinctSubjects trip pois maxItems (chars - evidenceChars (items.take count)) rest

section Digests

variable {trip : TripSpec} {pois : List PlanningPOI} {maxItems chars : ℕ}

/-- The digest of the first of some candidates, if any of its facts fits. -/
theorem digestsWithin_cons (candidate : PlanCandidate) (rest : List PlanCandidate) :
    let items := (candidateItems trip candidate pois).take maxItems
    let count := fittingCount chars items
    digestsWithin trip pois maxItems chars (candidate :: rest) =
      if count = 0 then []
      else
        { candidateId := candidate.id, style := candidate.style, evidence := items.take count
          inputChars := evidenceChars (items.take count)
          truncated := decide (maxItems < (candidateItems trip candidate pois).length) ||
            decide (count < items.length) } ::
        digestsWithin trip pois maxItems (chars - evidenceChars (items.take count)) rest := by
  intro items count
  have hcount : count ≤ items.length := fittingCount_le chars items
  have hempty : (items.take count).isEmpty = true ↔ count = 0 := by
    rw [List.isEmpty_iff, List.take_eq_nil_iff]
    constructor
    · rintro (h | h)
      · exact h
      · rw [h] at hcount
        exact Nat.le_zero.mp hcount
    · exact .inl
  rw [digestsWithin]
  simp only [takeWithin_eq]
  exact if_congr hempty rfl rfl

/-- The facts that fit are the first ones of the candidate. -/
theorem take_take_fitting (items : List EvidenceItem) :
    (items.take maxItems).take (fittingCount chars (items.take maxItems)) =
      items.take (fittingCount chars (items.take maxItems)) := by
  rw [List.take_take, min_eq_left]
  exact (fittingCount_le _ _).trans (List.length_take_le ..)

/-- A digest of the facts that fit is sound. -/
theorem soundDigest_fitting (candidate : PlanCandidate) :
    SoundDigest trip pois maxItems candidate
      { candidateId := candidate.id, style := candidate.style
        evidence := ((candidateItems trip candidate pois).take maxItems).take
          (fittingCount chars ((candidateItems trip candidate pois).take maxItems))
        inputChars := evidenceChars (((candidateItems trip candidate pois).take maxItems).take
          (fittingCount chars ((candidateItems trip candidate pois).take maxItems)))
        truncated := decide (maxItems < (candidateItems trip candidate pois).length) ||
          decide (fittingCount chars ((candidateItems trip candidate pois).take maxItems) <
            ((candidateItems trip candidate pois).take maxItems).length) } := by
  have hcount := fittingCount_le chars ((candidateItems trip candidate pois).take maxItems)
  have hlength := List.length_take (i := maxItems) (l := candidateItems trip candidate pois)
  refine ⟨rfl, rfl, ?_, ?_, rfl, ?_⟩
  · rw [take_take_fitting]
    exact List.take_prefix ..
  · rw [take_take_fitting, List.length_take]
    omega
  · rw [take_take_fitting, Bool.or_eq_true, decide_eq_true_eq, decide_eq_true_eq, Ne,
      List.take_eq_self_iff]
    omega

/-- The digests are those of the first candidates. -/
theorem forall₂_digestsWithin (candidates : List PlanCandidate) :
    List.Forall₂ (SoundDigest trip pois maxItems)
      (candidates.take (digestsWithin trip pois maxItems chars candidates).length)
      (digestsWithin trip pois maxItems chars candidates) := by
  induction candidates generalizing chars with
  | nil => exact List.Forall₂.nil
  | cons candidate rest ih =>
    rw [digestsWithin_cons]
    split
    · exact List.Forall₂.nil
    · rw [List.length_cons, List.take_succ_cons]
      exact List.Forall₂.cons (soundDigest_fitting candidate) ih

/-- The digests are within their budget. -/
theorem sum_inputChars_digestsWithin (candidates : List PlanCandidate) :
    ((digestsWithin trip pois maxItems chars candidates).map
      CandidateEvidenceDigest.inputChars).sum ≤ chars := by
  induction candidates generalizing chars with
  | nil => exact Nat.zero_le _
  | cons candidate rest ih =>
    rw [digestsWithin_cons]
    split
    · exact Nat.zero_le _
    · next hcount =>
      have hfits := evidenceChars_fitting (Nat.pos_of_ne_zero hcount)
      have hrest := @ih (chars - evidenceChars
        (((candidateItems trip candidate pois).take maxItems).take
          (fittingCount chars ((candidateItems trip candidate pois).take maxItems))))
      rw [List.map_cons, List.sum_cons]
      dsimp only
      omega

/-- No digest is empty. -/
theorem evidence_ne_nil_of_mem_digestsWithin {candidates : List PlanCandidate}
    {digest : CandidateEvidenceDigest}
    (h : digest ∈ digestsWithin trip pois maxItems chars candidates) : digest.evidence ≠ [] := by
  induction candidates generalizing chars with
  | nil => exact absurd h List.not_mem_nil
  | cons candidate rest ih =>
    rw [digestsWithin] at h
    dsimp only at h
    split at h
    · exact absurd h List.not_mem_nil
    · next hsome =>
      rcases List.mem_cons.mp h with rfl | h
      · exact fun hnil => hsome (List.isEmpty_iff.mpr hnil)
      · exact ih h

/-- The ids of the digests are distinct exactly when no subject comes twice. -/
theorem distinct_digestsWithin_iff {candidates : List PlanCandidate}
    (hhash : ∀ candidate ∈ candidates, HashDistinct (identitiesOf trip pois candidate)) :
    (∀ digest ∈ digestsWithin trip pois maxItems chars candidates,
        (digest.evidence.map EvidenceItem.id).Nodup) ↔
      DistinctSubjects trip pois maxItems chars candidates := by
  induction candidates generalizing chars with
  | nil => simp [digestsWithin, DistinctSubjects]
  | cons candidate rest ih =>
    have ih := fun chars => @ih chars fun other hother =>
      hhash other (List.mem_cons_of_mem _ hother)
    rw [digestsWithin_cons, DistinctSubjects]
    by_cases hcount : fittingCount chars ((candidateItems trip candidate pois).take maxItems) = 0
    · rw [if_pos hcount, hcount]
      simp
    rw [if_neg hcount, List.forall_mem_cons, ih,
      ← nodup_ids_take_iff (hhash candidate List.mem_cons_self), take_take_fitting]
    exact ⟨fun h _ => h, fun h => h (Nat.pos_of_ne_zero hcount)⟩

/-- Subjects that never come twice do not before a cut. -/
theorem distinctSubjects_of_nodup {candidates : List PlanCandidate}
    (h : ∀ candidate ∈ candidates, (subjectsOf candidate pois).Nodup) :
    DistinctSubjects trip pois maxItems chars candidates := by
  induction candidates generalizing chars with
  | nil => trivial
  | cons candidate rest ih =>
    intro _
    refine ⟨(h candidate List.mem_cons_self).sublist (begun_isPrefix _ _).sublist, ?_⟩
    exact ih fun other hother => h other (List.mem_cons_of_mem _ hother)

end Digests

/-- **Evidence digests.**  They are within their budgets, hold the first facts of their
candidates and know whether something is missing; and when the hash has no collisions, the ids of
every digest are distinct exactly when no candidate comes to the same subject twice before its
facts are cut off. -/
theorem soundDigests_iff {trip : TripSpec} {candidates : List PlanCandidate}
    {pois : List PlanningPOI} {budget : EvidenceBudget}
    (hhash : ∀ candidate ∈ candidates, HashDistinct (identitiesOf trip pois candidate)) :
    SoundDigests trip pois budget.maxItemsPerCandidate budget.maxInputChars
        (candidates.take budget.maxCandidates)
        (buildEvidenceDigests trip candidates pois budget) ↔
      DistinctSubjects trip pois budget.maxItemsPerCandidate budget.maxInputChars
        (candidates.take budget.maxCandidates) := by
  rw [buildEvidenceDigests, ← distinct_digestsWithin_iff fun candidate hcandidate =>
    hhash candidate (List.mem_of_mem_take hcandidate)]
  exact ⟨SoundDigests.distinct, fun hdistinct =>
    ⟨sum_inputChars_digestsWithin _, forall₂_digestsWithin _, hdistinct⟩⟩

/-! ## Two unknown prices -/

namespace Sample

omit [Platform]

/-- An hour at a place. -/
def hourAt (poiId : String) (start finish : Fin 24)
    (h : (at_ day1 start).instant < (at_ day1 finish).instant) : PlanItem :=
  ⟨none, .activity, poiId, at_ day1 start, at_ day1 finish, some poiId, 15, 1400, none, false,
    false, h, noCost_nonneg⟩

/-- That a price is unknown, as of this hour. -/
def unknownCost (hour : Fin 24) : PlanningAssumption :=
  ⟨"party_cost", "unknown", "no price", .default, [], at_ day1 hour⟩

/-- A day with two places, and these assumptions. -/
def twoHours (assumptions : List PlanningAssumption) : PlanCandidate :=
  ⟨"balanced-r0", .balanced,
    [⟨day1, "theme", "area", [hourAt "a" 10 11 (by decide +kernel),
      hourAt "b" 12 13 (by decide +kernel)], 0, 2, 30, 0, 20⟩],
    ⟨0, 0, 9 / 10, 30, 0, 0, 2, 20⟩, none, none, assumptions⟩

/-- The texts that are hashed for the facts of a candidate, read off its subjects. -/
def hashedTexts (candidate : PlanCandidate) : List String :=
  ((subjectsOf candidate pois).flatMap EvidenceSubject.keys).map (evidenceIdentity candidate.id)

/-- A platform whose hash numbers some texts, and on which a fact takes two hundred characters. -/
@[reducible] def numberingPlatform (texts : List String) : Platform :=
  { plainPlatform with
    sha256 := fun text => String.ofList [Char.ofNat (texts.idxOf text)]
    jsonLength := fun
      | .arr items => 200 * items.length
      | _ => 200 }

theorem identitiesOf_eq_hashedTexts (platform : Platform) (trip : TripSpec)
    (candidate : PlanCandidate) :
    @identitiesOf platform trip pois candidate = hashedTexts candidate := by
  rw [hashedTexts, ← @map_key_candidateItems platform trip candidate pois, List.map_map]
  rfl

/-- Numbered texts have hashes of their own. -/
theorem hashDistinct_numberingPlatform {texts : List String} (h : texts.length < 50000) :
    @HashDistinct (numberingPlatform texts) texts := by
  intro text htext text' htext' hsame
  have hlist := congrArg String.toList hsame
  rw [prefixText, prefixText, String.toList_ofList, String.toList_ofList] at hlist
  change (String.ofList [Char.ofNat (texts.idxOf text)]).toList.take 20 =
    (String.ofList [Char.ofNat (texts.idxOf text')]).toList.take 20 at hlist
  rw [String.toList_ofList, String.toList_ofList] at hlist
  have hchar : Char.ofNat (texts.idxOf text) = Char.ofNat (texts.idxOf text') :=
    (List.cons.inj hlist).1
  have hnumber : ∀ text ∈ texts, (Char.ofNat (texts.idxOf text)).toNat = texts.idxOf text := by
    intro text htext
    have hlt := List.idxOf_lt_length_iff.mpr htext
    have hvalid : (texts.idxOf text).isValidChar := .inl (by omega)
    rw [Char.ofNat, dif_pos hvalid]
    rfl
  refine (List.idxOf_inj htext).mp ?_
  rw [← hnumber text htext, ← hnumber text' htext', hchar]

/-- The two places, for a price unknown once. -/
def clearCandidate : PlanCandidate := twoHours [unknownCost 6]

/-- The two places, each with a price unknown as of an hour of its own. -/
def ambiguousCandidate : PlanCandidate := twoHours [unknownCost 6, unknownCost 7]

/-- A platform that numbers the texts of the first candidate. -/
@[reducible] def clearPlatform : Platform := numberingPlatform (hashedTexts clearCandidate)

/-- A platform that numbers the texts of the second candidate. -/
@[reducible] def ambiguousPlatform : Platform := numberingPlatform (hashedTexts ambiguousCandidate)

end Sample

omit [Platform] in
/-- The digest of a candidate without repeated subjects is sound. -/
theorem soundDigests_iff_clear :
    @SoundDigests Sample.clearPlatform Sample.trip Sample.pois 48 24000 [Sample.clearCandidate]
      (@buildEvidenceDigests Sample.clearPlatform Sample.trip [Sample.clearCandidate]
        Sample.pois {}) := by
  let := Sample.clearPlatform
  have hhash : ∀ candidate ∈ [Sample.clearCandidate],
      HashDistinct (identitiesOf Sample.trip Sample.pois candidate) := by
    intro candidate hcandidate
    obtain rfl := List.mem_singleton.mp hcandidate
    rw [Sample.identitiesOf_eq_hashedTexts]
    exact Sample.hashDistinct_numberingPlatform (by decide +kernel)
  have hiff := @soundDigests_iff Sample.clearPlatform Sample.trip _ Sample.pois {} hhash
  refine hiff.mpr (distinctSubjects_of_nodup ?_)
  intro candidate hcandidate
  obtain rfl := List.mem_singleton.mp hcandidate
  decide +kernel

omit [Platform] in
/-- The two unknown prices have the same id, although the hash has no collisions and everything
fits. -/
theorem exists_not_soundDigests :
    @HashDistinct Sample.ambiguousPlatform (@identitiesOf Sample.ambiguousPlatform Sample.trip
        Sample.pois Sample.ambiguousCandidate) ∧
      ¬@SoundDigests Sample.ambiguousPlatform Sample.trip Sample.pois 48 24000
        [Sample.ambiguousCandidate] (@buildEvidenceDigests Sample.ambiguousPlatform Sample.trip
          [Sample.ambiguousCandidate] Sample.pois {}) := by
  let := Sample.ambiguousPlatform
  have hhash : HashDistinct
      (identitiesOf Sample.trip Sample.pois Sample.ambiguousCandidate) := by
    rw [Sample.identitiesOf_eq_hashedTexts]
    exact Sample.hashDistinct_numberingPlatform (by decide +kernel)
  refine ⟨hhash, fun hsound => ?_⟩
  have hlength :
      (candidateItems Sample.trip Sample.ambiguousCandidate Sample.pois).length = 43 := by
    rw [← List.length_map EvidenceItem.key, map_key_candidateItems]
    decide +kernel
  have hall : (candidateItems Sample.trip Sample.ambiguousCandidate Sample.pois).take 48 =
      candidateItems Sample.trip Sample.ambiguousCandidate Sample.pois :=
    List.take_of_length_le (by omega)
  have hcount : fittingCount 24000
      (candidateItems Sample.trip Sample.ambiguousCandidate Sample.pois) = 43 := by
    rw [← hlength]
    refine Nat.findGreatest_eq fun m hm => ?_
    have hchars : evidenceChars ((candidateItems Sample.trip Sample.ambiguousCandidate
        Sample.pois).take (m + 1)) = 200 * (m + 1) := by
      change 200 * (List.map _ _).length = _
      rw [List.length_map, List.length_take]
      omega
    omega
  have hdistinct : DistinctSubjects Sample.trip Sample.pois 48 24000 [Sample.ambiguousCandidate] :=
    (distinct_digestsWithin_iff fun candidate hcandidate =>
      List.mem_singleton.mp hcandidate ▸ hhash).mp hsound.distinct
  rw [DistinctSubjects] at hdistinct
  simp only [hall, hcount] at hdistinct
  have hnodup := (hdistinct (by decide)).1
  revert hnodup
  decide +kernel

end TravelPlanAgent
