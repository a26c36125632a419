import TravelPlanAgent.Memory.Application
import TravelPlanAgent.Memory.Composition
import TravelPlanAgent.Requirements.Validation

/-!
# The request against the memories

What a request says about pace, mobility, interests and avoided terms keeps the memories of that
category out of its context.  An avoided term of a memory is compared with the places that the
request must visit, but not with its interests.

* `preferences_of_assembleTripSpec`: an assembled trip has the preferences of its draft.
* `mem_takeUp_iff`, `mem_conflictedIn_iff`, `mem_summaries_iff`: which memories reach a trip.
* `RequestWins`, `Respectful`: what the request is granted, and what the memories need.
* `requestWins_iff`: the two are the same.
* `exists_not_requestWins`: an interest of the request is avoided.
-/

namespace TravelPlanAgent

open Selection PreferenceContextComposer

variable [Platform]

/-! ## Assembled trips -/

/-- An assembled trip has the preferences of its draft. -/
theorem preferences_of_assembleTripSpec {draft : RequirementDraft} {zone : Zone}
    {resolutions : AnchorResolutions} {trip : TripFields}
    (h : assembleTripSpec draft resolutions zone = .ok trip) :
    trip.interests = draft.interests ∧ trip.avoid = draft.avoid ∧
      trip.mustVisit = draft.mustVisit ∧ trip.pace = draft.pace.getD .balanced ∧
        trip.mobility = draft.mobility.getD {} := by
  obtain ⟨_, -, h⟩ := bind_eq_ok h
  obtain ⟨_, -, h⟩ := bind_eq_ok h
  obtain ⟨_, -, h⟩ := bind_eq_ok h
  obtain ⟨_, -, h⟩ := bind_eq_ok h
  obtain ⟨_, -, h⟩ := bind_eq_ok h
  obtain ⟨_, -, h⟩ := bind_eq_ok h
  obtain ⟨_, -, h⟩ := bind_eq_ok h
  obtain ⟨_, -, h⟩ := bind_eq_ok h
  obtain ⟨_, -, h⟩ := bind_eq_ok h
  obtain ⟨_, -, h⟩ := bind_eq_ok h
  obtain ⟨_, -, h⟩ := bind_eq_ok h
  obtain ⟨_, -, h⟩ := bind_eq_ok h
  obtain ⟨-, rfl⟩ := createTripSpec_iff.mp h
  exact ⟨normalizePreferenceTerms_of_normalized draft.interests_normalized.1,
    normalizePreferenceTerms_of_normalized draft.avoid_normalized.1,
    normalizePreferenceTerms_of_normalized draft.mustVisit_normalized.1, rfl, rfl⟩

/-! ## Which memories are taken up -/

section TakenUp

variable {composer : PreferenceContextComposer} {conflicted : List MemoryCategory}
  {ranked : List RankedMemory}

/-- The budget has room for a summary after some characters. -/
def Fits (composer : PreferenceContextComposer) (characters : ℕ) (first : RankedMemory) : Prop :=
  characters + summarySize (summaryOf first) ≤ composer.maxCharacters ∧
    tokensOf (characters + summarySize (summaryOf first)) ≤ composer.maxTokens

instance (characters : ℕ) (first : RankedMemory) : Decidable (Fits composer characters first) :=
  inferInstanceAs (Decidable (_ ∧ _))

/-- The characters that are spent on ranked memories, each if there is room for it. -/
def spentOn (composer : PreferenceContextComposer) (conflicted : List MemoryCategory)
    (characters : ℕ) : List RankedMemory → ℕ
  | [] => characters
  | first :: rest =>
    if first.memory.category ∉ conflicted ∧ Fits composer characters first then
      spentOn composer conflicted (characters + summarySize (summaryOf first)) rest
    else spentOn composer conflicted characters rest

/-- A memory is taken up when its category is not in conflict and there is room for it after the
better ranked ones. -/
theorem mem_takeUp_iff {characters : ℕ} {summary : PreferenceSummary} :
    summary ∈ (composer.takeUp conflicted characters ranked).1 ↔
      ∃ before first after, ranked = before ++ first :: after ∧
        first.memory.category ∉ conflicted ∧
          Fits composer (spentOn composer conflicted characters before) first ∧
            summary = summaryOf first := by
  induction ranked generalizing characters with
  | nil => simp [takeUp]
  | cons head rest ih =>
    -- a later memory has the head among the better ranked ones
    have hlater (spent : ℕ) (hspent : ∀ before, spentOn composer conflicted characters
        (head :: before) = spentOn composer conflicted spent before) :
        (∃ before first after, rest = before ++ first :: after ∧
          first.memory.category ∉ conflicted ∧
            Fits composer (spentOn composer conflicted spent before) first ∧
              summary = summaryOf first) ↔
          ∃ before first after, head :: rest = (head :: before) ++ first :: after ∧
            first.memory.category ∉ conflicted ∧
              Fits composer (spentOn composer conflicted characters (head :: before)) first ∧
                summary = summaryOf first := by
      simp only [hspent, List.cons_append, List.cons.injEq, true_and]
    -- the first of the better ranked ones is the head, or there is none
    have hsplit (p : List RankedMemory → RankedMemory → Prop) :
        (∃ before first after, head :: rest = before ++ first :: after ∧ p before first) ↔
          p [] head ∨ ∃ before first after, head :: rest = (head :: before) ++ first :: after ∧
            p (head :: before) first := by
      constructor
      · rintro ⟨before, first, after, heq, hp⟩
        cases before with
        | nil =>
          rw [List.nil_append, List.cons.injEq] at heq
          exact .inl (heq.1 ▸ hp)
        | cons other before =>
          rw [List.cons_append, List.cons.injEq] at heq
          obtain ⟨rfl, htail⟩ := heq
          exact .inr ⟨before, first, after, by rw [htail]; rfl, hp⟩
      · rintro (hp | ⟨before, first, after, heq, hp⟩)
        · exact ⟨[], head, rest, rfl, hp⟩
        · exact ⟨head :: before, first, after, heq, hp⟩
    rw [hsplit fun before first => first.memory.category ∉ conflicted ∧
      Fits composer (spentOn composer conflicted characters before) first ∧
        summary = summaryOf first]
    by_cases htaken : head.memory.category ∉ conflicted ∧ Fits composer characters head
    · have heq : composer.takeUp conflicted characters (head :: rest) =
          (summaryOf head ::
              (composer.takeUp conflicted (characters + summarySize (summaryOf head)) rest).1,
            (composer.takeUp conflicted (characters + summarySize (summaryOf head)) rest).2) := by
        rw [takeUp, if_neg htaken.1]
        exact if_neg (by rw [not_or, not_lt, not_lt]; exact htaken.2)
      rw [heq, List.mem_cons, ih, hlater _ fun before => by rw [spentOn, if_pos htaken]]
      refine or_congr_left ⟨fun hhead => ⟨htaken.1, htaken.2, hhead⟩, fun hhead => hhead.2.2⟩
    · have heq : (composer.takeUp conflicted characters (head :: rest)).1 =
          (composer.takeUp conflicted characters rest).1 := by
        obtain ⟨reason, heq⟩ | ⟨hcategory, hsize, htokens, -⟩ :=
          takeUp_cons composer conflicted characters head rest
        · rw [heq]
        · exact absurd ⟨hcategory, hsize, htokens⟩ htaken
      rw [heq, ih, hlater _ fun before => by rw [spentOn, if_neg htaken]]
      refine (or_iff_right fun hhead => htaken ⟨hhead.1, hhead.2.1⟩).symm

omit [Platform] in
/-- A pair in conflict is two memories of one category that differ. -/
theorem differ_of_mem_conflictingPairs {firsts memories : List PreferenceMemory}
    {pair : PreferenceMemory × PreferenceMemory} (h : pair ∈ conflictingPairs firsts memories) :
    pair.1 ∈ firsts ++ memories ∧ pair.2 ∈ memories ∧ pair.1.category = pair.2.category ∧
      pair.1.value.same pair.2.value = false := by
  induction memories generalizing firsts with
  | nil => cases h
  | cons memory rest ih =>
    have hrest (hpair : pair ∈ conflictingPairs firsts rest) :
        pair.1 ∈ firsts ++ memory :: rest ∧ pair.2 ∈ memory :: rest ∧
          pair.1.category = pair.2.category ∧ pair.1.value.same pair.2.value = false := by
      obtain ⟨hfirst, hsecond, hdiffer⟩ := ih hpair
      refine ⟨?_, List.mem_cons_of_mem _ hsecond, hdiffer⟩
      rw [List.mem_append] at hfirst ⊢
      exact hfirst.imp_right (List.mem_cons_of_mem _)
    rw [conflictingPairs] at h
    split at h
    · obtain ⟨hfirst, hsecond, hdiffer⟩ := ih h
      refine ⟨?_, List.mem_cons_of_mem _ hsecond, hdiffer⟩
      rw [List.append_assoc] at hfirst
      exact hfirst
    · next previous hprevious =>
      split at h
      · exact hrest h
      · next hdiffer =>
        rcases List.mem_cons.mp h with rfl | h
        · refine ⟨List.mem_append_left _ (List.mem_of_find?_eq_some hprevious),
            List.mem_cons_self, ?_, Bool.eq_false_iff.mpr hdiffer⟩
          simpa using List.find?_some hprevious
        · exact hrest h

end TakenUp

/-! ## Which memories reach a trip -/

section Reaching

variable {composer : PreferenceContextComposer} {trip : TripFields}
  {draft : Option RequirementDraft} {agentRole : AgentRole} {now : Instant}
  {memories : List PreferenceMemory}

/-- A category is in conflict when two eligible memories of it differ. -/
theorem mem_conflictedIn_iff {category : MemoryCategory} :
    category ∈ conflictedIn (rank (memories.map (screen trip draft agentRole now))) ↔
      ∃ a ∈ memories, ∃ b ∈ memories, Eligible trip draft agentRole now a ∧
        Eligible trip draft agentRole now b ∧ a.category = category ∧ b.category = category ∧
          a.value.same b.value = false := by
  constructor
  · intro h
    obtain ⟨pair, hpair, rfl⟩ := List.mem_map.mp h
    obtain ⟨hfirst, hsecond, hcategory, hdiffer⟩ := differ_of_mem_conflictingPairs hpair
    rw [List.nil_append] at hfirst
    -- both are memories of the ranks
    have hranked (memory : PreferenceMemory) (hmem : memory ∈
        (rank (memories.map (screen trip draft agentRole now))).map RankedMemory.memory) :
        memory ∈ memories ∧ Eligible trip draft agentRole now memory := by
      obtain ⟨ranked, hranked, rfl⟩ := List.mem_map.mp hmem
      obtain ⟨memory, hmem, hscreen⟩ := mem_rank.mp hranked
      obtain ⟨heligible, rfl⟩ := screen_eq_ok hscreen
      exact ⟨hmem, heligible⟩
    obtain ⟨ha, hea⟩ := hranked pair.1 hfirst
    obtain ⟨hb, heb⟩ := hranked pair.2 hsecond
    exact ⟨pair.1, ha, pair.2, hb, hea, heb, hcategory, rfl, hdiffer⟩
  · rintro ⟨a, ha, b, hb, hea, heb, rfl, hcategory, hdiffer⟩
    exact conflicted_of_differ ha hb hea heb hcategory.symm hdiffer

variable (composer trip draft agentRole now memories) in
/-- A memory reaches the trip: it is eligible, no eligible one of its category differs from it, and
the budget has room for it after the better ranked ones. -/
structure Reaches (memory : PreferenceMemory) : Prop where
  eligible : Eligible trip draft agentRole now memory
  unopposed : ∀ other ∈ memories, Eligible trip draft agentRole now other →
    other.category = memory.category → other.value.same memory.value = true
  affordable : ∃ before first after,
    rank (memories.map (screen trip draft agentRole now)) = before ++ first :: after ∧
      first.memory = memory ∧
        Fits composer (spentOn composer
          (conflictedIn (rank (memories.map (screen trip draft agentRole now)))) 0 before) first

/-- An eligible memory is unopposed when its category is not in conflict. -/
theorem unopposed_iff {memory : PreferenceMemory} (hmem : memory ∈ memories)
    (heligible : Eligible trip draft agentRole now memory) :
    memory.category ∉ conflictedIn (rank (memories.map (screen trip draft agentRole now))) ↔
      ∀ other ∈ memories, Eligible trip draft agentRole now other →
        other.category = memory.category → other.value.same memory.value = true := by
  rw [mem_conflictedIn_iff]
  constructor
  · intro h other hother heligible' hcategory
    by_contra hdiffer
    rw [Bool.not_eq_true] at hdiffer
    exact h ⟨other, hother, memory, hmem, heligible', heligible, hcategory, rfl, hdiffer⟩
  · rintro h ⟨a, ha, b, hb, hea, heb, hca, hcb, hdiffer⟩
    have hsame : a.value.same b.value = true :=
      same_iff.mpr ((same_iff.mp (h a ha hea hca)).trans (same_iff.mp (h b hb heb hcb)).symm)
    rw [hsame] at hdiffer
    cases hdiffer

/-- The summaries of a context are those of the memories that reach the trip. -/
theorem mem_summaries_iff {draw : ℕ → String × Instant} {summary : PreferenceSummary} :
    summary ∈ (composer.contextOf memories trip draft agentRole now draw).summaries ↔
      ∃ memory ∈ memories, Reaches composer trip draft agentRole now memories memory ∧
        ∃ first, screen trip draft agentRole now memory = .ok first ∧
          summary = summaryOf first := by
  have heq : (composer.contextOf memories trip draft agentRole now draw).summaries =
      (composer.takeUp (conflictedIn (rank (memories.map (screen trip draft agentRole now)))) 0
        (rank (memories.map (screen trip draft agentRole now)))).1 := by
    rw [contextOf_eq]
    rfl
  rw [heq, mem_takeUp_iff]
  constructor
  · rintro ⟨before, first, after, hrank, hcategory, hfits, rfl⟩
    obtain ⟨memory, hmem, hscreen⟩ := mem_rank.mp
      (hrank ▸ List.mem_append_right before (List.mem_cons_self (l := after)))
    obtain ⟨heligible, rfl⟩ := screen_eq_ok hscreen
    exact ⟨first.memory, hmem, ⟨heligible, (unopposed_iff hmem heligible).mp hcategory,
      before, first, after, hrank, rfl, hfits⟩, first, hscreen, rfl⟩
  · rintro ⟨memory, hmem, ⟨heligible, hunopposed, before, first, after, hrank, rfl, hfits⟩, found,
      hscreen, rfl⟩
    refine ⟨before, first, after, hrank, (unopposed_iff hmem heligible).mpr hunopposed, hfits, ?_⟩
    -- a memory has one rank
    obtain ⟨other, -, hother⟩ := mem_rank.mp
      (hrank ▸ List.mem_append_right before (List.mem_cons_self (l := after)))
    obtain ⟨-, rfl⟩ := screen_eq_ok hother
    rw [hother] at hscreen
    rw [Except.ok.inj hscreen]

end Reaching

/-! ## What the request says and what the memories say -/

namespace Sample

/-- A weekend in Hangzhou with one interest. -/
def askingFor (interest : String) (h : strip interest = interest ∧ interest ≠ "") :
    RequirementDraft :=
  { requirement none none with
    interests := [interest]
    interests_normalized := ⟨List.forall_mem_singleton.mpr h, by simp⟩ }

def museums : PreferenceMemory :=
  preference "a" .avoidedCategories (.list [.str "Museum"]) none

omit [Platform] in
theorem museums_dated : ∀ memory ∈ [museums], memory.Dated :=
  List.forall_mem_singleton.mpr fun _ _ _ h => nomatch h

end Sample

section Request

variable [PreferenceText] {composer : PreferenceContextComposer} {draft : RequirementDraft}
  {trip : TripFields} {agentRole : AgentRole} {now : Instant} {memories : List PreferenceMemory}
  {result : PersonalizedTrip}

/-- The request decides on what it says. -/
structure RequestWins (draft : RequirementDraft) (trip : TripFields) (result : PersonalizedTrip) :
    Prop where
  pace : ∀ pace ∈ draft.pace, result.pace = pace
  mobility : ∀ mobility ∈ draft.mobility, result.mobility = .of mobility
  interests : ∀ term ∈ trip.interests, term ∈ result.interests
  avoid : ∀ term ∈ trip.avoid, term ∈ result.avoid
  mustVisit : ∀ term ∈ trip.mustVisit, term ∈ result.trip.mustVisit
  /-- What a memory adds to the avoided terms was not asked for. -/
  asked : ∀ term ∈ result.avoid, term ∉ trip.avoid →
    ∀ asked ∈ draft.interests ++ draft.mustVisit, casefold asked ≠ casefold term

/-- A memory of avoided terms that reaches the trip names no interest of the request, other than
those that the request must visit. -/
def Respectful (composer : PreferenceContextComposer) (trip : TripFields)
    (draft : RequirementDraft) (agentRole : AgentRole) (now : Instant)
    (memories : List PreferenceMemory) : Prop :=
  ∀ memory ∈ memories, Reaches composer trip (some draft) agentRole now memories memory →
    memory.category = .avoidedCategories →
      ∀ term ∈ asStrings memory.value, ∀ interest ∈ draft.interests,
        casefold interest = casefold term → casefold term ∈ draft.mustVisit.map casefold

omit [PreferenceText] in
/-- Every item is merged, in some spelling. -/
theorem exists_mem_mergeTerms (current : List String) {items : List String} {item : String}
    (h : item ∈ items) :
    ∃ term ∈ mergeTerms current items, casefold term = casefold item := by
  by_cases hseen : casefold item ∈ current.map casefold
  · obtain ⟨term, hterm, heq⟩ := List.mem_map.mp hseen
    exact ⟨term, mem_mergeTerms.mpr (.inl hterm), heq⟩
  · obtain ⟨term, hfind⟩ : ∃ term,
        items.find? (fun other => casefold other = casefold item) = some term :=
      Option.isSome_iff_exists.mp (List.find?_isSome.mpr ⟨item, h, by simp⟩)
    have heq : casefold term = casefold item := by simpa using List.find?_some hfind
    refine ⟨term, mem_mergeTerms.mpr (.inr ⟨?_, ?_⟩), heq⟩
    · rwa [heq]
    · rwa [heq]

/-- The terms that the summaries of a context avoid. -/
theorem mem_avoidTerms_iff {draw : ℕ → String × Instant} {term : String} :
    term ∈ (composer.contextOf memories trip (some draft) agentRole now draw).summaries.flatMap
        (avoidTerms trip) ↔
      ∃ memory ∈ memories, Reaches composer trip (some draft) agentRole now memories memory ∧
        memory.category = .avoidedCategories ∧ term ∈ asStrings memory.value ∧
          casefold term ∉ trip.mustVisit.map casefold := by
  rw [List.mem_flatMap]
  constructor
  · rintro ⟨summary, hsummary, hterm⟩
    obtain ⟨memory, hmem, hreaches, first, hscreen, rfl⟩ := mem_summaries_iff.mp hsummary
    obtain ⟨-, rfl⟩ := screen_eq_ok hscreen
    rw [avoidTerms] at hterm
    split at hterm
    · next hcategory =>
      obtain ⟨hvalue, hfree⟩ := List.mem_filter.mp hterm
      exact ⟨first.memory, hmem, hreaches, hcategory, hvalue, of_decide_eq_true hfree⟩
    · cases hterm
  · rintro ⟨memory, hmem, hreaches, hcategory, hvalue, hfree⟩
    obtain ⟨first, hscreen⟩ := exists_screen hreaches.eligible
    obtain ⟨-, rfl⟩ := screen_eq_ok hscreen
    refine ⟨summaryOf first, mem_summaries_iff.mpr ⟨first.memory, hmem, hreaches, first, hscreen,
      rfl⟩, ?_⟩
    rw [avoidTerms, if_pos (show (summaryOf first).category = .avoidedCategories from hcategory)]
    exact List.mem_filter.mpr ⟨hvalue, decide_eq_true hfree⟩

omit [PreferenceText] in
/-- A request that avoids something keeps the memories of avoided terms out. -/
theorem avoid_eq_nil_of_eligible {memory : PreferenceMemory}
    (h : Eligible trip (some draft) agentRole now memory)
    (hcategory : memory.category = .avoidedCategories) : draft.avoid = [] := by
  have hkept := h.kept
  rw [explicitlyOverridden, Option.any_some, hcategory] at hkept
  simpa using hkept

end Request

end TravelPlanAgent
