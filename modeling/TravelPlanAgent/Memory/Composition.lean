import TravelPlanAgent.Memory.Context

/-!
# What a composed context contains

The memories are ranked by score and id, so that a context does not depend on the order in which
they come.  Every memory is taken up or counted as excluded.

* `get?_countReasons`, `sum_countReasons`: the counted reasons.
* `mem_conflictingPairs`: categories with two values are in conflict.
* `length_takeUp`, `takeUp_within`, `mem_takeUp`: what the budget lets through.
* `WellComposed`, `wellComposed`: every context is independent of the order, bounded and free of
  conflicts; `WellComposes`: or there is none, for any order.
-/

namespace TravelPlanAgent

open Selection PreferenceContextComposer

/-! ## Counted reasons -/

section Reasons

theorem get?_foldl_count (reasons : List String) (counts : Dict String ℕ) (reason : String) :
    (reasons.foldl (fun counts reason =>
      counts.set reason ((counts.get? reason).getD 0 + 1)) counts).get? reason =
      if reason ∈ reasons then some ((counts.get? reason).getD 0 + reasons.count reason)
      else counts.get? reason := by
  induction reasons generalizing counts with
  | nil => simp
  | cons first rest ih =>
    rw [List.foldl_cons, ih, Dict.get?_set]
    by_cases heq : reason = first
    · subst heq
      by_cases hrest : reason ∈ rest
      · simp [hrest]
        omega
      · simp [hrest, List.count_eq_zero_of_not_mem hrest]
    · have hcount : (first :: rest).count reason = rest.count reason :=
        List.count_cons_of_ne (Ne.symm heq)
      rw [if_neg heq, hcount]
      simp [heq]

/-- A reason is counted as often as it occurs. -/
theorem get?_countReasons (reasons : List String) (reason : String) :
    (countReasons reasons).get? reason =
      if reason ∈ reasons then some (reasons.count reason) else none := by
  rw [countReasons, get?_foldl_count]
  simp

theorem sum_setIn {key : String} {n : ℕ} {entries : List (String × ℕ)}
    (h : Dict.lookupIn key entries = some n) :
    ((Dict.setIn key (n + 1) entries).map Prod.snd).sum = (entries.map Prod.snd).sum + 1 := by
  induction entries with
  | nil => cases h
  | cons entry rest ih =>
    obtain ⟨other, m⟩ := entry
    rw [Dict.lookupIn] at h
    rw [Dict.setIn]
    split at h
    · next heq =>
      cases h
      rw [if_pos heq]
      simp
      omega
    · next hne =>
      rw [if_neg hne, List.map_cons, List.sum_cons, ih h, List.map_cons, List.sum_cons]
      omega

/-- All counts together are the number of reasons. -/
theorem sum_countReasons (reasons : List String) :
    (countReasons reasons).values.sum = reasons.length := by
  have hfold (counts : Dict String ℕ) :
      (reasons.foldl (fun counts reason =>
        counts.set reason ((counts.get? reason).getD 0 + 1)) counts).values.sum =
        counts.values.sum + reasons.length := by
    induction reasons generalizing counts with
    | nil => rfl
    | cons reason rest ih =>
      have hset : (counts.set reason ((counts.get? reason).getD 0 + 1)).values.sum =
          counts.values.sum + 1 := by
        cases hget : counts.get? reason with
        | none =>
          have hkey := Dict.get?_eq_none_iff.mp hget
          rw [Dict.values, Dict.entries_set_of_not_mem hkey]
          simp [Dict.values]
        | some n => exact sum_setIn hget
      rw [List.foldl_cons, ih, hset, List.length_cons]
      omega
  rw [countReasons, hfold]
  simp

end Reasons

/-! ## Conflicts -/

theorem PreferenceValue.same_refl (a : PreferenceValue) : a.same a = true := same_iff.mpr rfl

/-- A memory that differs from the first of its category puts the category in conflict. -/
theorem mem_conflictingPairs_of_first {firsts memories : List PreferenceMemory}
    {memory first : PreferenceMemory} (hmem : memory ∈ memories)
    (hfirst : (firsts ++ memories).find? (fun first => first.category = memory.category) =
      some first) (hdiffers : first.value.same memory.value = false) :
    ∃ pair ∈ conflictingPairs firsts memories, pair.2.category = memory.category := by
  induction memories generalizing firsts with
  | nil => cases hmem
  | cons head rest ih =>
    rw [conflictingPairs]
    split
    · next hnone =>
      rcases List.mem_cons.mp hmem with rfl | hrest
      · -- the memory is the first of its category itself
        rw [List.find?_append, hnone, Option.none_or, List.find?_cons_of_pos (by simp)] at hfirst
        cases hfirst
        rw [PreferenceValue.same_refl] at hdiffers
        cases hdiffers
      · refine ih hrest ?_
        rw [List.append_assoc]
        exact hfirst
    · next previous hprevious =>
      have hlater {rest' : List (PreferenceMemory × PreferenceMemory)}
          (hrest : memory ∈ rest)
          (hsub : ∀ pair ∈ conflictingPairs firsts rest, pair ∈ rest') :
          ∃ pair ∈ rest', pair.2.category = memory.category := by
        obtain ⟨pair, hpair, hcategory⟩ := ih hrest (by
          rw [List.find?_append] at hfirst ⊢
          cases hfound : firsts.find? fun first => first.category = memory.category with
          | some found =>
            rw [hfound, Option.some_or] at hfirst
            rw [Option.some_or]
            exact hfirst
          | none =>
            have hne : head.category ≠ memory.category := by
              intro heq
              rw [heq, hfound] at hprevious
              cases hprevious
            rw [hfound, Option.none_or, List.find?_cons_of_neg (by simpa using hne)] at hfirst
            rw [Option.none_or]
            exact hfirst)
        exact ⟨pair, hsub pair hpair, hcategory⟩
      split
      · next hsame =>
        rcases List.mem_cons.mp hmem with rfl | hrest
        · rw [List.find?_append, hprevious, Option.some_or] at hfirst
          cases hfirst
          rw [hsame] at hdiffers
          cases hdiffers
        · exact hlater hrest fun pair hpair => hpair
      · rcases List.mem_cons.mp hmem with rfl | hrest
        · exact ⟨_, List.mem_cons_self, rfl⟩
        · exact hlater hrest fun pair hpair => List.mem_cons_of_mem _ hpair

/-- Two memories of a category that differ put it in conflict. -/
theorem mem_conflictingPairs {memories : List PreferenceMemory} {a b : PreferenceMemory}
    (ha : a ∈ memories) (hb : b ∈ memories) (hcategory : a.category = b.category)
    (hdiffer : a.value.same b.value = false) :
    ∃ pair ∈ conflictingPairs [] memories, pair.2.category = a.category := by
  obtain ⟨first, hfirst⟩ : ∃ first,
      memories.find? (fun first => first.category = a.category) = some first :=
    Option.isSome_iff_exists.mp (List.find?_isSome.mpr ⟨a, ha, by simp⟩)
  by_cases hsame : first.value.same a.value = true
  · -- then the first one differs from the other
    have hother : first.value.same b.value = false := by
      rw [Bool.eq_false_iff]
      intro heq
      rw [Bool.eq_false_iff] at hdiffer
      exact hdiffer (same_iff.mpr ((same_iff.mp hsame).symm.trans (same_iff.mp heq)))
    obtain ⟨pair, hpair, heq⟩ := @mem_conflictingPairs_of_first [] memories b first hb
      (by rw [List.nil_append, ← hcategory]; exact hfirst) hother
    exact ⟨pair, hpair, heq.trans hcategory.symm⟩
  · exact @mem_conflictingPairs_of_first [] memories a first ha hfirst
      (Bool.eq_false_iff.mpr hsame)

/-! ## The budget -/

section Budget

variable [Platform] {composer : PreferenceContextComposer} {conflicted : List MemoryCategory}
  {characters : ℕ} {ranked : List RankedMemory}

/-- What the third loop does with one memory. -/
theorem takeUp_cons (composer : PreferenceContextComposer) (conflicted : List MemoryCategory)
    (characters : ℕ) (first : RankedMemory) (rest : List RankedMemory) :
    (∃ reason, composer.takeUp conflicted characters (first :: rest) =
        ((composer.takeUp conflicted characters rest).1,
          reason :: (composer.takeUp conflicted characters rest).2)) ∨
      first.memory.category ∉ conflicted ∧
        characters + summarySize (summaryOf first) ≤ composer.maxCharacters ∧
        tokensOf (characters + summarySize (summaryOf first)) ≤ composer.maxTokens ∧
        composer.takeUp conflicted characters (first :: rest) =
          (summaryOf first ::
              (composer.takeUp conflicted (characters + summarySize (summaryOf first)) rest).1,
            (composer.takeUp conflicted (characters + summarySize (summaryOf first)) rest).2) := by
  rw [takeUp]
  split
  · exact .inl ⟨_, rfl⟩
  · next hconflicted =>
    dsimp only
    split
    · exact .inl ⟨_, rfl⟩
    · next hfits =>
      rw [not_or, not_lt, not_lt] at hfits
      exact .inr ⟨hconflicted, hfits.1, hfits.2, rfl⟩

variable (composer conflicted characters ranked) in
/-- Every memory is taken up or left out for a reason. -/
theorem length_takeUp : (composer.takeUp conflicted characters ranked).1.length +
    (composer.takeUp conflicted characters ranked).2.length = ranked.length := by
  induction ranked generalizing characters with
  | nil => rfl
  | cons first rest ih =>
    obtain ⟨reason, heq⟩ | ⟨-, -, -, heq⟩ :=
      takeUp_cons composer conflicted characters first rest
    · have hrest := ih characters
      simp only [heq, List.length_cons]
      omega
    · have hrest := ih (characters + summarySize (summaryOf first))
      simp only [heq, List.length_cons]
      omega

variable (conflicted ranked) in
/-- The budget is kept. -/
theorem takeUp_within (hcharacters : characters ≤ composer.maxCharacters)
    (htokens : tokensOf characters ≤ composer.maxTokens) :
    characters + ((composer.takeUp conflicted characters ranked).1.map summarySize).sum ≤
        composer.maxCharacters ∧
      tokensOf (characters +
        ((composer.takeUp conflicted characters ranked).1.map summarySize).sum) ≤
          composer.maxTokens := by
  induction ranked generalizing characters with
  | nil => exact ⟨hcharacters, htokens⟩
  | cons first rest ih =>
    obtain ⟨reason, heq⟩ | ⟨-, hsize, hsizeTokens, heq⟩ :=
      takeUp_cons composer conflicted characters first rest
    · rw [heq]
      exact ih hcharacters htokens
    · rw [heq, List.map_cons, List.sum_cons, ← Nat.add_assoc]
      exact ih hsize hsizeTokens

/-- What is taken up is one of the memories, of a category without conflict. -/
theorem mem_takeUp {summary : PreferenceSummary}
    (h : summary ∈ (composer.takeUp conflicted characters ranked).1) :
    ∃ first ∈ ranked, first.memory.category ∉ conflicted ∧ summary = summaryOf first := by
  induction ranked generalizing characters with
  | nil => cases h
  | cons first rest ih =>
    obtain ⟨reason, heq⟩ | ⟨hconflicted, -, -, heq⟩ :=
      takeUp_cons composer conflicted characters first rest
    · rw [heq] at h
      obtain ⟨other, hother, hrest⟩ := ih h
      exact ⟨other, List.mem_cons_of_mem _ hother, hrest⟩
    · rw [heq] at h
      rcases List.mem_cons.mp h with rfl | h
      · exact ⟨first, List.mem_cons_self, hconflicted, rfl⟩
      · obtain ⟨other, hother, hrest⟩ := ih h
        exact ⟨other, List.mem_cons_of_mem _ hother, hrest⟩

end Budget

/-! ## Ranks -/

section Ranks

variable [Platform] {composer : PreferenceContextComposer} {trip : TripFields}
  {draft : Option RequirementDraft} {agentRole : AgentRole} {now : Instant}
  {memories memories' : List PreferenceMemory}

variable (trip draft agentRole now) in
/-- A memory that may be taken up: active, in scope, not overridden and of use for the role. -/
structure Eligible (memory : PreferenceMemory) : Prop where
  active : memory.Active now
  scope : scopeMatches memory trip = true
  kept : explicitlyOverridden memory draft = false
  relevant : 0 < roleWeight memory.category agentRole

/-- Eligible memories get a rank. -/
theorem screen_eq_ok {memory : PreferenceMemory} {ranked : RankedMemory}
    (h : screen trip draft agentRole now memory = .ok ranked) :
    Eligible trip draft agentRole now memory ∧ ranked.memory = memory := by
  unfold screen at h
  split at h
  · cases h
  · next hactive =>
    split at h
    · cases h
    · next hscope =>
      split at h
      · cases h
      · next hkept =>
        split at h
        · cases h
        · next hrelevant =>
          cases h
          exact ⟨⟨by simpa using hactive, by simpa using hscope, by simpa using hkept,
            not_le.mp hrelevant⟩, rfl⟩

theorem exists_screen (h : Eligible trip draft agentRole now memory) :
    ∃ ranked, screen trip draft agentRole now memory = .ok ranked := by
  unfold screen
  rw [if_neg (by simp [h.active]), if_neg (by simp [h.scope]), if_neg (by simp [h.kept]),
    if_neg (not_le.mpr h.relevant)]
  exact ⟨_, rfl⟩

variable (trip draft agentRole now) in
/-- The memories of the ranks are the eligible ones. -/
def eligibleRanks (memories : List PreferenceMemory) : List RankedMemory :=
  (memories.map (screen trip draft agentRole now)).filterMap Except.toOption

theorem mem_eligibleRanks {ranked : RankedMemory} :
    ranked ∈ eligibleRanks trip draft agentRole now memories ↔
      ∃ memory ∈ memories, screen trip draft agentRole now memory = .ok ranked := by
  rw [eligibleRanks, List.filterMap_map, List.mem_filterMap]
  refine exists_congr fun memory => and_congr_right fun _ => ?_
  cases hscreen : screen trip draft agentRole now memory with
  | error reason => simp [hscreen, Except.toOption]
  | ok found => simp [hscreen, Except.toOption]

variable (trip draft agentRole now memories) in
/-- A memory is excluded or gets a rank. -/
theorem length_eligibleRanks : (eligibleRanks trip draft agentRole now memories).length +
    ((memories.map (screen trip draft agentRole now)).filterMap exclusionOf).length =
      memories.length := by
  unfold eligibleRanks
  induction memories with
  | nil => rfl
  | cons memory rest ih =>
    rw [List.map_cons]
    cases hscreen : screen trip draft agentRole now memory with
    | error reason =>
      simp only [List.filterMap_cons, Except.toOption, exclusionOf, List.length_cons]
      omega
    | ok found =>
      simp only [List.filterMap_cons, Except.toOption, exclusionOf, List.length_cons]
      omega

variable (trip draft agentRole now memories) in
theorem map_memory_eligibleRanks :
    ((eligibleRanks trip draft agentRole now memories).map RankedMemory.memory).Sublist
      memories := by
  unfold eligibleRanks
  induction memories with
  | nil => exact .refl _
  | cons memory rest ih =>
    rw [List.map_cons]
    cases hscreen : screen trip draft agentRole now memory with
    | error reason =>
      rw [List.filterMap_cons_none rfl]
      exact ih.cons memory
    | ok found =>
      have hhead := (screen_eq_ok hscreen).2
      rw [show List.filterMap Except.toOption
        (.ok found :: rest.map (screen trip draft agentRole now)) =
          found :: (rest.map (screen trip draft agentRole now)).filterMap Except.toOption from rfl,
        List.map_cons, hhead]
      exact ih.cons_cons memory

/-- Ids of their own make ranks of their own. -/
theorem nodup_rank_keys (hids : (memories.map PreferenceMemory.memoryId).Nodup) :
    ((eligibleRanks trip draft agentRole now memories).map fun ranked =>
      toLex (-ranked.score, ranked.memory.memoryId)).Nodup := by
  have hsub := (map_memory_eligibleRanks trip draft agentRole now memories).map
    PreferenceMemory.memoryId
  refine List.Nodup.of_map (fun key => (ofLex key).2) ?_
  rw [List.map_map]
  rw [List.map_map] at hsub
  exact hids.sublist hsub

/-- The ranking does not depend on the order of the memories. -/
theorem rank_perm (hids : (memories.map PreferenceMemory.memoryId).Nodup)
    (hperm : memories'.Perm memories) :
    rank (memories'.map (screen trip draft agentRole now)) =
      rank (memories.map (screen trip draft agentRole now)) := by
  have hids' : (memories'.map PreferenceMemory.memoryId).Nodup :=
    (hperm.map _).nodup_iff.mpr hids
  refine List.Perm.eq_of_pairwise ?_ (pairwise_sortByKey (nodup_rank_keys hids'))
    (pairwise_sortByKey (nodup_rank_keys hids)) ?_
  · intro a b _ _ hab hba
    exact absurd hab (lt_asymm hba)
  · exact (perm_sortByKey _ _).trans
      (((hperm.map _).filterMap _).trans (perm_sortByKey _ _).symm)

/-! ## Composed contexts -/

/-- What a context is, for the memories that it was composed of. -/
structure WellComposed (composer : PreferenceContextComposer) (trip : TripFields)
    (draft : Option RequirementDraft) (agentRole : AgentRole) (now : Instant)
    (draw : ℕ → String × Instant) (memories : List PreferenceMemory)
    (context : PreferenceContext) : Prop where
  /-- The order of the memories does not matter. -/
  permutation : ∀ memories' : List PreferenceMemory, memories'.Perm memories →
    ∃ context', composer.compose memories' trip draft agentRole now draw = .ok context' ∧
      context'.Same context
  counted : context.summaries.length + context.manifest.excludedCount = memories.length
  characters : context.manifest.characterCount = (context.summaries.map summarySize).sum ∧
    context.manifest.characterCount ≤ composer.maxCharacters
  tokens : context.manifest.estimatedTokens = tokensOf context.manifest.characterCount ∧
    context.manifest.estimatedTokens ≤ composer.maxTokens
  oneValue : ∀ a ∈ context.summaries, ∀ b ∈ context.summaries, a.category = b.category →
    a.value.same b.value = true
  reported : ∀ a ∈ memories, ∀ b ∈ memories, Eligible trip draft agentRole now a →
    Eligible trip draft agentRole now b → a.category = b.category →
      a.value.same b.value = false →
        (∃ conflict ∈ context.conflicts, conflict.category = a.category) ∧
          ∀ summary ∈ context.summaries, summary.category ≠ a.category
  /-- What is taken up was an eligible memory. -/
  selected : ∀ summary ∈ context.summaries, ∃ memory ∈ memories,
    memory.memoryId = summary.memoryId ∧ memory.category = summary.category ∧
      memory.value = summary.value ∧ Eligible trip draft agentRole now memory

/-- The categories in conflict among ranked memories. -/
def conflictedIn (active : List RankedMemory) : List MemoryCategory :=
  (conflictingPairs [] (active.map RankedMemory.memory)).map fun pair => pair.2.category

/-- The rest of `compose` after its first loop and the two sorts. -/
def assembled (composer : PreferenceContextComposer) (agentRole : AgentRole)
    (draw : ℕ → String × Instant) (active : List RankedMemory) (overridden : List String)
    (excluded : List String) : PreferenceContext :=
  let taken := composer.takeUp (conflictedIn active) 0 active
  let exclusion := countReasons (excluded ++ taken.2)
  let characters := (taken.1.map summarySize).sum
  let selected := taken.1.map PreferenceSummary.memoryId
  let contentHash := manifestHash agentRole selected overridden
  { summaries := taken.1
    manifest :=
      { contextId := "ctx-" ++ prefixText 24 contentHash
        agentRole
        selectedMemoryIds := selected
        selectedCategories := taken.1.map PreferenceSummary.category
        excludedCount := exclusion.values.sum
        exclusionReasons := exclusion
        estimatedTokens := tokensOf characters
        characterCount := characters
        maxTokens := composer.maxTokens
        maxCharacters := composer.maxCharacters
        overriddenMemoryIds := overridden
        contentHash }
    conflicts := memoryConflicts draw (conflictingPairs [] (active.map RankedMemory.memory)) }

/-- The ids of the memories that the request overrides. -/
def overriddenIds (trip : TripFields) (draft : Option RequirementDraft) (agentRole : AgentRole)
    (now : Instant) (memories : List PreferenceMemory) : List String :=
  (memories.filter fun memory =>
    exclusionOf (screen trip draft agentRole now memory) = some "current_request_override").map
      PreferenceMemory.memoryId

theorem contextOf_eq (composer : PreferenceContextComposer) (draw : ℕ → String × Instant)
    (memories : List PreferenceMemory) :
    composer.contextOf memories trip draft agentRole now draw =
      assembled composer agentRole draw (rank (memories.map (screen trip draft agentRole now)))
        (sortByKey id (overriddenIds trip draft agentRole now memories))
        ((memories.map (screen trip draft agentRole now)).filterMap exclusionOf) :=
  rfl

/-- The reasons may come in any order. -/
theorem same_assembled (draw : ℕ → String × Instant) (active : List RankedMemory)
    (overridden : List String) {excluded excluded' : List String}
    (hperm : excluded'.Perm excluded) :
    (assembled composer agentRole draw active overridden excluded').Same
      (assembled composer agentRole draw active overridden excluded) := by
  have hreasons := hperm.append_right (composer.takeUp (conflictedIn active) 0 active).2
  refine ⟨rfl, ⟨?_, fun reason => ?_⟩, rfl⟩
  · simp only [assembled, sum_countReasons, hreasons.length_eq]
  · simp only [assembled, get?_countReasons, hreasons.mem_iff, hreasons.count_eq]

theorem contextOf_perm (composer : PreferenceContextComposer) (draw : ℕ → String × Instant)
    (hids : (memories.map PreferenceMemory.memoryId).Nodup) (hperm : memories'.Perm memories) :
    (composer.contextOf memories' trip draft agentRole now draw).Same
      (composer.contextOf memories trip draft agentRole now draw) := by
  have hoverridden : sortByKey id (overriddenIds trip draft agentRole now memories') =
      sortByKey id (overriddenIds trip draft agentRole now memories) := by
    have hsub : (overriddenIds trip draft agentRole now memories).Sublist
        (memories.map PreferenceMemory.memoryId) := List.filter_sublist.map _
    have hnodup : ((overriddenIds trip draft agentRole now memories).map id).Nodup := by
      rw [List.map_id]
      exact hids.sublist hsub
    have hids' : (overriddenIds trip draft agentRole now memories').Perm
        (overriddenIds trip draft agentRole now memories) :=
      (hperm.filter _).map _
    refine List.Perm.eq_of_pairwise (fun a b _ _ hab hba => absurd hab (lt_asymm hba))
      (pairwise_sortByKey ((hids'.map id).nodup_iff.mpr hnodup)) (pairwise_sortByKey hnodup) ?_
    exact (perm_sortByKey _ _).trans (hids'.trans (perm_sortByKey _ _).symm)
  rw [contextOf_eq, contextOf_eq, rank_perm hids hperm, hoverridden]
  exact same_assembled draw _ _ ((hperm.map _).filterMap _)

theorem mem_rank {ranked : RankedMemory} :
    ranked ∈ rank (memories.map (screen trip draft agentRole now)) ↔
      ∃ memory ∈ memories, screen trip draft agentRole now memory = .ok ranked :=
  mem_sortByKey.trans mem_eligibleRanks

/-- Two eligible memories that differ are reported, and their category is not taken up. -/
theorem conflicted_of_differ {a b : PreferenceMemory} (ha : a ∈ memories) (hb : b ∈ memories)
    (hea : Eligible trip draft agentRole now a) (heb : Eligible trip draft agentRole now b)
    (hcategory : a.category = b.category) (hdiffer : a.value.same b.value = false) :
    a.category ∈ conflictedIn (rank (memories.map (screen trip draft agentRole now))) := by
  have hactive (memory : PreferenceMemory) (hmem : memory ∈ memories)
      (helig : Eligible trip draft agentRole now memory) :
      memory ∈ (rank (memories.map (screen trip draft agentRole now))).map
        RankedMemory.memory := by
    obtain ⟨ranked, hranked⟩ := exists_screen helig
    exact List.mem_map.mpr ⟨ranked, mem_rank.mpr ⟨memory, hmem, hranked⟩,
      (screen_eq_ok hranked).2⟩
  obtain ⟨pair, hpair, heq⟩ :=
    mem_conflictingPairs (hactive a ha hea) (hactive b hb heb) hcategory hdiffer
  exact List.mem_map.mpr ⟨pair, hpair, heq⟩

omit [Platform] in
theorem mem_memoryConflicts (draw : ℕ → String × Instant)
    {pairs : List (PreferenceMemory × PreferenceMemory)} {category : MemoryCategory}
    (h : category ∈ pairs.map fun pair => pair.2.category) :
    ∃ conflict ∈ memoryConflicts draw pairs, conflict.category = category := by
  obtain ⟨pair, hpair, rfl⟩ := List.mem_map.mp h
  obtain ⟨i, hi, rfl⟩ := List.mem_iff_getElem.mp hpair
  exact ⟨_, List.mem_mapIdx.mpr ⟨i, hi, rfl⟩, rfl⟩

theorem compose_of_dated (composer : PreferenceContextComposer) (draw : ℕ → String × Instant)
    (h : ∀ memory ∈ memories, memory.Dated) :
    composer.compose memories trip draft agentRole now draw =
      .ok (composer.contextOf memories trip draft agentRole now draw) := by
  rw [compose, onlyActive_of_dated h]
  rfl

/-- A context is composed of dated memories. -/
theorem compose_eq_ok {composer : PreferenceContextComposer} {draw : ℕ → String × Instant}
    {context : PreferenceContext}
    (h : composer.compose memories trip draft agentRole now draw = .ok context) :
    (∀ memory ∈ memories, memory.Dated) ∧
      context = composer.contextOf memories trip draft agentRole now draw := by
  rw [compose] at h
  cases hactive : onlyActive now memories with
  | error error =>
    rw [hactive] at h
    cases h
  | ok active =>
    rw [hactive] at h
    cases h
    exact ⟨(onlyActive_eq_ok hactive).1, rfl⟩

/-- Dated memories give a good context. -/
theorem wellComposed_of_dated (composer : PreferenceContextComposer)
    (hids : (memories.map PreferenceMemory.memoryId).Nodup)
    (hdated : ∀ memory ∈ memories, memory.Dated) (trip : TripFields)
    (draft : Option RequirementDraft) (agentRole : AgentRole) (now : Instant)
    (draw : ℕ → String × Instant) :
    WellComposed composer trip draft agentRole now draw memories
      (composer.contextOf memories trip draft agentRole now draw) := by
  have hselected : ∀ summary ∈
      (composer.contextOf memories trip draft agentRole now draw).summaries,
      ∃ memory ∈ memories, memory.memoryId = summary.memoryId ∧
        memory.category = summary.category ∧ memory.value = summary.value ∧
          Eligible trip draft agentRole now memory ∧ summary.category ∉
            conflictedIn (rank (memories.map (screen trip draft agentRole now))) := by
    intro summary hsummary
    rw [contextOf_eq] at hsummary
    obtain ⟨ranked, hranked, hcategory, rfl⟩ := mem_takeUp hsummary
    obtain ⟨memory, hmem, hscreen⟩ := mem_rank.mp hranked
    obtain ⟨heligible, rfl⟩ := screen_eq_ok hscreen
    exact ⟨_, hmem, rfl, rfl, rfl, heligible, hcategory⟩
  have hreported {a b : PreferenceMemory} (ha : a ∈ memories) (hb : b ∈ memories)
      (hea : Eligible trip draft agentRole now a) (heb : Eligible trip draft agentRole now b)
      (hcategory : a.category = b.category) (hdiffer : a.value.same b.value = false) :=
    conflicted_of_differ ha hb hea heb hcategory hdiffer
  let active := rank (memories.map (screen trip draft agentRole now))
  have hwithin := takeUp_within (conflictedIn active) active
    (Nat.zero_le composer.maxCharacters) (Nat.zero_le composer.maxTokens)
  constructor
  case permutation =>
    intro memories' hperm
    exact ⟨_, compose_of_dated composer draw fun memory hmem =>
      hdated memory (hperm.mem_iff.mp hmem), contextOf_perm composer draw hids hperm⟩
  case counted =>
    have htaken := length_takeUp composer (conflictedIn active) 0 active
    have hranks : active.length = (eligibleRanks trip draft agentRole now memories).length :=
      (perm_sortByKey _ _).length_eq
    have hall := length_eligibleRanks trip draft agentRole now memories
    simp only [contextOf_eq, assembled, sum_countReasons, List.length_append]
    dsimp only [active] at htaken hranks
    omega
  case characters =>
    refine ⟨rfl, ?_⟩
    have hcharacters := hwithin.1
    rw [Nat.zero_add] at hcharacters
    exact hcharacters
  case tokens =>
    refine ⟨rfl, ?_⟩
    have htokens := hwithin.2
    rw [Nat.zero_add] at htokens
    exact htokens
  case oneValue =>
    intro a ha b hb hcategory
    obtain ⟨memory, hmem, -, hcat, hvalue, heligible, hnot⟩ := hselected a ha
    obtain ⟨other, hother, -, hcat', hvalue', heligible', -⟩ := hselected b hb
    by_contra hdiffer
    rw [← hvalue, ← hvalue', Bool.not_eq_true] at hdiffer
    rw [← hcat] at hnot
    exact hnot (hreported hmem hother heligible heligible'
      (hcat.trans (hcategory.trans hcat'.symm)) hdiffer)
  case reported =>
    intro a ha b hb hea heb hcategory hdiffer
    have hconflicted := hreported ha hb hea heb hcategory hdiffer
    refine ⟨mem_memoryConflicts draw hconflicted, fun summary hsummary heq => ?_⟩
    obtain ⟨-, -, -, -, -, -, hnot⟩ := hselected summary hsummary
    exact hnot (heq ▸ hconflicted)
  case selected =>
    intro summary hsummary
    obtain ⟨memory, hmem, hid, hcat, hvalue, heligible, -⟩ := hselected summary hsummary
    exact ⟨memory, hmem, hid, hcat, hvalue, heligible⟩

variable (trip draft agentRole now memories) in
/-- What composing memories gives: a good context, or the same error for every order of them. -/
def WellComposes (composer : PreferenceContextComposer) (draw : ℕ → String × Instant) : Prop :=
  match composer.compose memories trip draft agentRole now draw with
  | .ok context => WellComposed composer trip draft agentRole now draw memories context
  | .error error => ∀ memories' : List PreferenceMemory, memories'.Perm memories →
    composer.compose memories' trip draft agentRole now draw = .error error

/-- **A context is independent of the order, bounded and free of conflicts.** -/
theorem wellComposed (composer : PreferenceContextComposer)
    (hids : (memories.map PreferenceMemory.memoryId).Nodup) (trip : TripFields)
    (draft : Option RequirementDraft) (agentRole : AgentRole) (now : Instant)
    (draw : ℕ → String × Instant) :
    WellComposes trip draft agentRole now memories composer draw := by
  unfold WellComposes
  by_cases hdated : ∀ memory ∈ memories, memory.Dated
  · rw [compose_of_dated composer draw hdated]
    exact wellComposed_of_dated composer hids hdated trip draft agentRole now draw
  · -- whether every memory is dated does not depend on their order
    have hfails (memories' : List PreferenceMemory) (hperm : memories'.Perm memories) :
        composer.compose memories' trip draft agentRole now draw = .error .typeError := by
      have hdated' : ¬ ∀ memory ∈ memories', memory.Dated := fun h =>
        hdated fun memory hmem => h memory (hperm.mem_iff.mpr hmem)
      rw [compose, onlyActive_of_not_dated hdated']
      rfl
    rw [hfails memories (.refl _)]
    exact hfails

namespace Sample

/-- Two paces, and a style that ends at the third moment. -/
def paces : List PreferenceMemory :=
  [preference "a" .pace (.scalar (.str "relaxed")) none,
    preference "b" .pace (.scalar (.str "intensive")) none,
    preference "c" .budgetStyle (.scalar (.str "comfort")) (some 3)]

end Sample

omit [Platform] in
/-- Two paces are in conflict, and a memory has expired. -/
theorem wellComposed_conflicting :
    let := plainPlatform
    ∃ context, PreferenceContextComposer.compose {} Sample.paces Sample.weekendTrip none .planner 5
        (fun i => (toString i, 5)) = .ok context ∧
      WellComposed {} Sample.weekendTrip none .planner 5 (fun i => (toString i, 5)) Sample.paces
        context := by
  intro platform
  have hcomposes : WellComposes Sample.weekendTrip none .planner 5 Sample.paces {}
      fun i => (toString i, 5) :=
    wellComposed {} (by decide) Sample.weekendTrip none .planner 5 fun i => (toString i, 5)
  obtain ⟨context, hcontext⟩ : ∃ context, PreferenceContextComposer.compose {} Sample.paces
      Sample.weekendTrip none .planner 5 (fun i => (toString i, 5)) = .ok context :=
    ⟨_, rfl⟩
  rw [WellComposes, hcontext] at hcomposes
  exact ⟨context, hcontext, hcomposes⟩

end Ranks

end TravelPlanAgent
