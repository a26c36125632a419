import TravelPlanAgent.Lifecycle.SessionInvariant

/-!
# The history of versions

The difference between a version and its parent is not stored with the version.  It is that of
the preview which became the version, and the preview is searched for: it is the approved one of
the parent with the candidate of the version.

* `PlanSessionRecord.diff`: the difference between two stored plans.
* `HistoryInvariant`: every version with a parent has its approved preview, and no other has one.
* `historyInvariant_of_recordStep`: every step keeps it.
* `ExplainedHistory`, `reachable_explainedHistory`: the search finds the right preview, in every
  reachable session.
-/

namespace TravelPlanAgent

/-! ## The difference between two plans -/

/-- The answer when a difference is not known. -/
def diffNotFound : Failure := .lifecycleAction "plan_diff_not_found" "计划差异不存在"

/-- The preview was approved, for this base and with this candidate. -/
def PlanPreview.Becomes (preview : PlanPreview) (baseId : String) (candidate : PlanCandidate) :
    Prop :=
  preview.status = .approved ∧ preview.baseVersionId = baseId ∧ preview.candidate = candidate

instance (preview : PlanPreview) (baseId : String) (candidate : PlanCandidate) :
    Decidable (preview.Becomes baseId candidate) :=
  inferInstanceAs (Decidable (_ ∧ _ ∧ _))

/-- `PlanLifecycleService.diff`. -/
def PlanSessionRecord.diff (session : PlanSessionRecord) (fromId toId : String) :
    Result PlanDiff :=
  if prefixText 1 toId = "P" then do
    let preview ← orRaise (session.previews.get? toId) diffNotFound
    require (preview.baseVersionId = fromId) diffNotFound
    return preview.diff
  else do
    let target ← orRaise (session.versions.get? toId) diffNotFound
    require (target.parentVersionId = some fromId) diffNotFound
    let preview ← orRaise (session.previews.values.find? fun preview =>
      decide (preview.Becomes fromId target.candidate)) diffNotFound
    return { preview.diff with toId }

theorem prefixText_versionName (i : ℕ) : prefixText 1 (versionName i) ≠ "P" := by
  rw [prefixText, versionName, String.toList_append]
  change String.ofList ['V'] ≠ "P"
  decide

theorem prefixText_previewName (i : ℕ) : prefixText 1 (previewName i) = "P" := by
  rw [prefixText, previewName, String.toList_append]
  rfl

/-! ## The invariant -/

/-- The difference stored with a preview is that between its base and its candidate. -/
def Reported (config : LifecycleConfig) (session : PlanSessionRecord) (key : String)
    (preview : PlanPreview) : Prop :=
  ∃ base, session.versions.get? preview.baseVersionId = some base ∧
    ∃ score, softScore config preview.softCritique = .ok score ∧
      buildPlanDiff base.candidate preview.candidate preview.baseVersionId key none score =
        .ok preview.diff

/-- Versions and approved previews belong together: a version with a parent has the preview that
became it, no base has two, and the active version has none yet. -/
structure HistoryInvariant (config : LifecycleConfig) (session : PlanSessionRecord) : Prop where
  stored : SessionInvariant config session
  reported : ∀ key preview, session.previews.get? key = some preview →
    Reported config session key preview
  approved : ∀ versionId version parentId, session.versions.get? versionId = some version →
    version.parentVersionId = some parentId → ∃ key preview,
      session.previews.get? key = some preview ∧ preview.Becomes parentId version.candidate
  once : ∀ key preview key' preview', session.previews.get? key = some preview →
    session.previews.get? key' = some preview' → preview.status = .approved →
    preview'.status = .approved → preview.baseVersionId = preview'.baseVersionId → key = key'
  spent : ∀ key preview, session.previews.get? key = some preview → preview.status = .approved →
    some preview.baseVersionId ≠ session.activeVersionId

section Steps

variable {config : LifecycleConfig} {session record : PlanSessionRecord}

theorem historyInvariant_created (sessionId : String) (status : PlanSessionStatus)
    (snapshot : Option PlanningSnapshot) (externalInterrupt : Option String)
    (h : status = .awaitingCandidateSelection ∨ status = .needsRequirementClarification) :
    HistoryInvariant config (.created sessionId status snapshot externalInterrupt) where
  stored := sessionInvariant_created _ _ _ _ h
  reported _ _ hget := absurd hget (by simp [PlanSessionRecord.created])
  approved _ _ _ hget := absurd hget (by simp [PlanSessionRecord.created])
  once _ _ _ _ hget := absurd hget (by simp [PlanSessionRecord.created])
  spent _ _ hget := absurd hget (by simp [PlanSessionRecord.created])

/-- Only the versions, the previews and the active version matter. -/
theorem HistoryInvariant.congr {a b : PlanSessionRecord} (h : HistoryInvariant config a)
    (hstored : SessionInvariant config b) (hactive : b.activeVersionId = a.activeVersionId)
    (hversions : b.versions = a.versions) (hpreviews : b.previews = a.previews) :
    HistoryInvariant config b where
  stored := hstored
  reported key preview hget := by
    rw [hpreviews] at hget
    obtain ⟨base, hbase, hdiff⟩ := h.reported key preview hget
    exact ⟨base, hversions ▸ hbase, hdiff⟩
  approved := by rw [hversions, hpreviews]; exact h.approved
  once := by rw [hpreviews]; exact h.once
  spent := by rw [hpreviews, hactive]; exact h.spent

/-- The base of a preview is a stored version. -/
theorem HistoryInvariant.base_mem (h : HistoryInvariant config session) {key : String}
    {preview : PlanPreview} (hget : session.previews.get? key = some preview) :
    preview.baseVersionId ∈ session.versions.keys := by
  obtain ⟨base, hbase, -⟩ := h.reported key preview hget
  exact Dict.mem_keys_of_get? hbase

/-- A new version takes nothing from what was reported. -/
theorem HistoryInvariant.reported_addVersion (h : HistoryInvariant config session)
    {version : PlanVersion} (hversions : record.versions =
      session.versions.set (versionName (session.versions.size + 1)) version) {key : String}
    {preview : PlanPreview} (hreported : Reported config session key preview) :
    Reported config record key preview := by
  obtain ⟨base, hbase, hdiff⟩ := hreported
  refine ⟨base, ?_, hdiff⟩
  rw [hversions, Dict.get?_set_of_ne, hbase]
  intro hname
  have hnew := h.stored.versions.next_not_mem versionName_injective
  exact hnew (hname ▸ Dict.mem_keys_of_get? hbase)

/-- A new preview is not approved. -/
theorem HistoryInvariant.previewed (h : HistoryInvariant config session) {preview : PlanPreview}
    (hstored : SessionInvariant config record) (hname : preview.previewId = nextPreviewId session)
    (hstatus : preview.status ≠ .approved)
    (hreported : Reported config session preview.previewId preview)
    (hactive : record.activeVersionId = session.activeVersionId)
    (hversions : record.versions = session.versions)
    (hpreviews : record.previews = session.previews.set preview.previewId preview) :
    HistoryInvariant config record := by
  have hnew : preview.previewId ∉ session.previews.keys := by
    rw [hname]
    exact h.stored.previews.next_not_mem previewName_injective
  -- an approved preview was there before
  have hold : ∀ key stored, record.previews.get? key = some stored → stored.status = .approved →
      session.previews.get? key = some stored := by
    intro key stored hget happroved
    rw [hpreviews, Dict.get?_set] at hget
    split at hget
    · cases hget
      exact absurd happroved hstatus
    · exact hget
  refine ⟨hstored, ?_, ?_, ?_, ?_⟩
  · intro key stored hget
    rw [hpreviews, Dict.get?_set] at hget
    split at hget
    · rename_i hkey
      cases hget
      obtain ⟨base, hbase, hdiff⟩ := hreported
      exact ⟨base, hversions ▸ hbase, hkey ▸ hdiff⟩
    · obtain ⟨base, hbase, hdiff⟩ := h.reported key stored hget
      exact ⟨base, hversions ▸ hbase, hdiff⟩
  · intro versionId version parentId hget hparent
    rw [hversions] at hget
    obtain ⟨key, stored, hkey, hbecomes⟩ := h.approved versionId version parentId hget hparent
    refine ⟨key, stored, ?_, hbecomes⟩
    rw [hpreviews, Dict.get?_set_of_ne, hkey]
    rintro rfl
    exact hnew (Dict.mem_keys_of_get? hkey)
  · intro key stored key' stored' hget hget' happroved happroved'
    exact h.once key stored key' stored' (hold key stored hget happroved)
      (hold key' stored' hget' happroved') happroved happroved'
  · intro key stored hget happroved
    rw [hactive]
    exact h.spent key stored (hold key stored hget happroved) happroved

/-- The preview that waits for approval, with its key. -/
theorem approvable_of_awaiting (h : SessionInvariant config session)
    (awaiting : session.status = .awaitingChangeApproval) {preview : PlanPreview}
    (hpending : pendingPreview session = .ok preview) :
    ∃ key, session.pendingPreviewId = some key ∧ session.previews.get? key = some preview ∧
      Approvable session preview := by
  obtain ⟨key, stored, hkey, hget, happrovable⟩ := h.pending awaiting
  have hpreview := orRaise_eq_ok hpending
  rw [hkey, Option.bind_some, hget] at hpreview
  obtain rfl := Option.some.inj hpreview
  exact ⟨key, hkey, hget, happrovable⟩

/-- Rejecting a preview that was not approved leaves the approved ones as they are. -/
theorem HistoryInvariant.rejected (h : HistoryInvariant config session) {preview : PlanPreview}
    (awaiting : session.status = .awaitingChangeApproval)
    (hpending : pendingPreview session = .ok preview) (hstored : SessionInvariant config record)
    (hactive : record.activeVersionId = session.activeVersionId)
    (hversions : record.versions = session.versions)
    (hpreviews : record.previews = session.previews.set (session.pendingPreviewId.getD "")
      { preview with status := .rejected }) : HistoryInvariant config record := by
  obtain ⟨key, hkey, hget, happrovable⟩ := approvable_of_awaiting h.stored awaiting hpending
  rw [hkey, Option.getD_some] at hpreviews
  have hold : ∀ other stored, record.previews.get? other = some stored →
      stored.status = .approved → session.previews.get? other = some stored := by
    intro other stored hother happroved
    rw [hpreviews, Dict.get?_set] at hother
    split at hother
    · cases hother
      cases happroved
    · exact hother
  refine ⟨hstored, ?_, ?_, ?_, ?_⟩
  · intro other stored hother
    rw [hpreviews, Dict.get?_set] at hother
    split at hother
    · rename_i hsame
      cases hother
      obtain ⟨base, hbase, hdiff⟩ := h.reported key preview hget
      exact ⟨base, hversions ▸ hbase, hsame ▸ hdiff⟩
    · obtain ⟨base, hbase, hdiff⟩ := h.reported other stored hother
      exact ⟨base, hversions ▸ hbase, hdiff⟩
  · intro versionId version parentId hversion hparent
    rw [hversions] at hversion
    obtain ⟨other, stored, hother, hbecomes⟩ :=
      h.approved versionId version parentId hversion hparent
    refine ⟨other, stored, ?_, hbecomes⟩
    rw [hpreviews, Dict.get?_set_of_ne, hother]
    rintro rfl
    obtain rfl := Option.some.inj (hget.symm.trans hother)
    exact absurd (happrovable.status.symm.trans hbecomes.1) (by simp)
  · intro other stored other' stored' hother hother' happroved happroved'
    exact h.once other stored other' stored' (hold other stored hother happroved)
      (hold other' stored' hother' happroved') happroved happroved'
  · intro other stored hother happroved
    rw [hactive]
    exact h.spent other stored (hold other stored hother happroved) happroved

/-- The approved preview is that of the new version, and of no other: its base was active, and the
new version is nobody's base. -/
theorem HistoryInvariant.approve (h : HistoryInvariant config session) {preview : PlanPreview}
    {version : PlanVersion} (awaiting : session.status = .awaitingChangeApproval)
    (hpending : pendingPreview session = .ok preview) (hstored : SessionInvariant config record)
    (hcandidate : version.candidate = preview.candidate)
    (hparent : version.parentVersionId = some preview.baseVersionId)
    (hactive : record.activeVersionId = some (versionName (session.versions.size + 1)))
    (hversions : record.versions =
      session.versions.set (versionName (session.versions.size + 1)) version)
    (hpreviews : record.previews = session.previews.set (session.pendingPreviewId.getD "")
      { preview with status := .approved }) : HistoryInvariant config record := by
  obtain ⟨key, hkey, hget, happrovable⟩ := approvable_of_awaiting h.stored awaiting hpending
  rw [hkey, Option.getD_some] at hpreviews
  have hcases : ∀ other stored, record.previews.get? other = some stored →
      stored.status = .approved → other = key ∧ stored.baseVersionId = preview.baseVersionId ∨
        session.previews.get? other = some stored := by
    intro other stored hother _
    rw [hpreviews, Dict.get?_set] at hother
    split at hother
    · rename_i hsame
      cases hother
      exact Or.inl ⟨hsame, rfl⟩
    · exact Or.inr hother
  have hbase : ∀ other stored, session.previews.get? other = some stored →
      stored.status = .approved → stored.baseVersionId ≠ preview.baseVersionId := by
    intro other stored hother happroved hsame
    exact h.spent other stored hother happroved
      ((congrArg some hsame).trans happrovable.base)
  refine ⟨hstored, ?_, ?_, ?_, ?_⟩
  · intro other stored hother
    rw [hpreviews, Dict.get?_set] at hother
    refine h.reported_addVersion hversions ?_
    split at hother
    · rename_i hsame
      cases hother
      obtain ⟨base, hbaseOf, hdiff⟩ := h.reported key preview hget
      exact ⟨base, hbaseOf, hsame ▸ hdiff⟩
    · exact h.reported other stored hother
  · intro versionId version' parentId hversion hparent'
    rw [hversions, Dict.get?_set] at hversion
    split at hversion
    · cases hversion
      rw [hparent] at hparent'
      refine ⟨key, { preview with status := .approved }, ?_, rfl, Option.some.inj hparent',
        hcandidate.symm⟩
      rw [hpreviews, Dict.get?_set_self]
    · obtain ⟨other, stored, hother, hbecomes⟩ :=
        h.approved versionId version' parentId hversion hparent'
      refine ⟨other, stored, ?_, hbecomes⟩
      rw [hpreviews, Dict.get?_set_of_ne, hother]
      rintro rfl
      obtain rfl := Option.some.inj (hget.symm.trans hother)
      exact absurd (happrovable.status.symm.trans hbecomes.1) (by simp)
  · intro other stored other' stored' hother hother' happroved happroved' hsame
    rcases hcases other stored hother happroved with ⟨rfl, hown⟩ | hother
    · rcases hcases other' stored' hother' happroved' with ⟨rfl, -⟩ | hother'
      · rfl
      · exact absurd (hsame.symm.trans hown) (hbase other' stored' hother' happroved')
    · rcases hcases other' stored' hother' happroved' with ⟨rfl, hown⟩ | hother'
      · exact absurd (hsame.trans hown) (hbase other stored hother happroved)
      · exact h.once other stored other' stored' hother hother' happroved happroved' hsame
  · intro other stored hother happroved hspent
    -- the new version is not yet a base
    have hmem : stored.baseVersionId ∈ session.versions.keys := by
      rcases hcases other stored hother happroved with ⟨-, hown⟩ | hother
      · rw [hown]
        exact h.base_mem hget
      · exact h.base_mem hother
    rw [hactive] at hspent
    rw [Option.some.inj hspent] at hmem
    exact h.stored.versions.next_not_mem versionName_injective hmem

end Steps

/-! ## Every step -/

section EveryStep

variable [Platform] {config : LifecycleConfig} {session record : PlanSessionRecord}
  {request : LifecycleResumeRequest}

/-- The first version has no parent, and there is no preview yet. -/
theorem HistoryInvariant.selected (h : HistoryInvariant config session)
    {snapshot : PlanningSnapshot} {candidate : PlanCandidate} {draft : CandidateDraft}
    (awaiting : session.status = .awaitingCandidateSelection)
    (hstored : SessionInvariant config record)
    (hversions : record.versions =
      session.versions.set "V1" (firstVersion session snapshot request candidate draft))
    (hpreviews : record.previews = session.previews) : HistoryInvariant config record := by
  have hempty : session.versions = ∅ := Dict.eq_empty_of_size (h.stored.unselected (.inl awaiting))
  have hnone : ∀ key preview, record.previews.get? key ≠ some preview := by
    intro key preview hget
    rw [hpreviews] at hget
    have hbase := h.base_mem hget
    rw [hempty] at hbase
    exact absurd hbase List.not_mem_nil
  refine ⟨hstored, fun key preview hget => absurd hget (hnone key preview), ?_,
    fun key preview _ _ hget => absurd hget (hnone key preview),
    fun key preview hget => absurd hget (hnone key preview)⟩
  intro versionId version parentId hget hparent
  rw [hversions, hempty, Dict.get?_set] at hget
  split at hget
  · cases hget
    cases hparent
  · exact absurd hget (by simp)

/-- Every step keeps the history. -/
theorem historyInvariant_of_recordStep (h : HistoryInvariant config session)
    (step : RecordStep config session request record) : HistoryInvariant config record := by
  have hstored := sessionInvariant_of_recordStep h.stored step
  cases step with
  | settled status eventId settles => exact h.congr hstored rfl rfl rfl
  | selected snapshot candidate draft awaiting deliverable =>
    exact h.selected awaiting hstored rfl rfl
  | locked version locks editable active changed => exact h.congr hstored rfl rfl rfl
  | previewed version preview eventId active previewId base validated status locksHold reported =>
    refine h.previewed hstored previewId ?_ ?_ rfl rfl rfl
    · rw [status]
      split <;> simp
    · obtain ⟨score, hscore, hdiff⟩ := reported
      refine ⟨version, ?_, score, hscore, base ▸ hdiff⟩
      have hversion := h.stored.activeVersion_eq_ok active
      obtain ⟨key, hkey, hget⟩ := bind_eq_ok active
      rw [orRaise_eq_ok hkey] at hversion
      rw [base, Option.some.inj hversion]
      exact orRaise_eq_ok hget
  | rejected preview awaiting pending => exact h.rejected awaiting pending hstored rfl rfl rfl
  | approved preview awaiting pending base room =>
    exact h.approve awaiting pending hstored rfl rfl rfl rfl rfl

theorem historyInvariant_of_planStep (h : HistoryInvariant config session)
    (step : PlanStep config session record) : HistoryInvariant config record := by
  have hstored := sessionInvariant_of_planStep h.stored step
  cases step with
  | unchanged => exact h
  | clarified request outcome record status clarifies =>
    cases outcome <;> cases clarifies <;> exact h.congr hstored rfl rfl rfl
  | weather record same =>
    exact h.congr hstored same.activeVersionId same.versions same.previews
  | changed request plan record step same =>
    exact (historyInvariant_of_recordStep h step).congr hstored same.activeVersionId same.versions
      same.previews

theorem historyInvariant_of_reachable {session : PlanSession} (h : Reachable config session) :
    HistoryInvariant config session.record :=
  reachable_of_planStep (motive := HistoryInvariant config)
    (fun _ _ _ _ hstatus => historyInvariant_created _ _ _ _ hstatus)
    (fun _ _ hinv step => historyInvariant_of_planStep hinv step) h

end EveryStep

/-! ## The search for a preview -/

/-- Every difference of the history is found: that of a version is the one that was computed when
its preview was built, and that of a preview is the stored one. -/
structure ExplainedHistory (config : LifecycleConfig) (session : PlanSessionRecord) : Prop where
  version : ∀ versionId version parentId, session.versions.get? versionId = some version →
    version.parentVersionId = some parentId → ∃ parent key preview score,
      session.versions.get? parentId = some parent ∧
        session.previews.get? key = some preview ∧
        preview.Becomes parentId version.candidate ∧
        softScore config preview.softCritique = .ok score ∧
        buildPlanDiff parent.candidate version.candidate parentId key none score =
          .ok preview.diff ∧
        session.diff parentId versionId = .ok { preview.diff with toId := versionId }
  ownPreview : ∀ key preview, session.previews.get? key = some preview →
    ∀ versionId version versionId' version', session.versions.get? versionId = some version →
      session.versions.get? versionId' = some version' →
      version.parentVersionId = some preview.baseVersionId →
      version'.parentVersionId = some preview.baseVersionId → versionId = versionId'
  preview : ∀ key preview, session.previews.get? key = some preview → ∀ fromId,
    session.diff fromId key =
      if preview.baseVersionId = fromId then .ok preview.diff else .error diffNotFound

section Search

variable {config : LifecycleConfig} {session : PlanSessionRecord}

/-- A search finds the only value that passes. -/
theorem find?_values_eq_some {previews : Dict String PlanPreview} {key : String}
    {preview : PlanPreview} {p : PlanPreview → Bool} (hget : previews.get? key = some preview)
    (hp : p preview = true) (honly : ∀ other stored, previews.get? other = some stored →
      p stored = true → other = key) : previews.values.find? p = some preview := by
  have hsome : (previews.values.find? p).isSome :=
    List.find?_isSome.mpr ⟨preview, Dict.mem_values_iff.mpr ⟨key, hget⟩, hp⟩
  obtain ⟨found, hfound⟩ := Option.isSome_iff_exists.mp hsome
  obtain ⟨other, hother⟩ := Dict.mem_values_iff.mp (List.mem_of_find?_eq_some hfound)
  obtain rfl := honly other found hother (List.find?_some hfound)
  rw [hfound, ← hother, hget]

/-- The parent of a version is the one before it. -/
theorem parent_eq {i : ℕ} {version : PlanVersion} {parentId : String}
    (hat : VersionAt (i + 1) version) (hparent : version.parentVersionId = some parentId) :
    some parentId = some (versionName i) := by
  rw [← hparent, hat.parentVersionId]
  split
  · rename_i hfirst
    rw [hat.parentVersionId, if_pos hfirst] at hparent
    cases hparent
  · rfl

theorem HistoryInvariant.explainedHistory (h : HistoryInvariant config session) :
    ExplainedHistory config session where
  version versionId version parentId hget hparent := by
    obtain ⟨key, preview, hkey, hbecomes⟩ := h.approved versionId version parentId hget hparent
    obtain ⟨parent, hbase, score, hscore, hdiff⟩ := h.reported key preview hkey
    obtain ⟨happroved, rfl, hcandidate⟩ := hbecomes
    refine ⟨parent, key, preview, score, hbase, hkey, ⟨happroved, rfl, hcandidate⟩, hscore,
      hcandidate ▸ hdiff, ?_⟩
    obtain ⟨i, -, rfl⟩ := h.stored.versions.mem_keys_iff.mp (Dict.mem_keys_of_get? hget)
    have hfind : session.previews.values.find? (fun stored =>
        decide (stored.Becomes preview.baseVersionId version.candidate)) = some preview := by
      refine find?_values_eq_some hkey (decide_eq_true ⟨happroved, rfl, hcandidate⟩) ?_
      intro other stored hother hbecomes
      obtain ⟨happroved', hsame, -⟩ := of_decide_eq_true hbecomes
      exact h.once other stored key preview hother hkey happroved' happroved hsame
    rw [PlanSessionRecord.diff, if_neg (prefixText_versionName _), hget]
    change (require (version.parentVersionId = some preview.baseVersionId) _ >>= _) = _
    rw [require_eq_ok_iff.mpr hparent]
    change (orRaise _ _ >>= _) = _
    rw [hfind]
    rfl
  ownPreview key preview hkey versionId version versionId' version' hget hget'
      hparent hparent' := by
    obtain ⟨i, -, rfl⟩ := h.stored.versions.mem_keys_iff.mp (Dict.mem_keys_of_get? hget)
    obtain ⟨j, -, rfl⟩ := h.stored.versions.mem_keys_iff.mp (Dict.mem_keys_of_get? hget')
    have hbase : some preview.baseVersionId = some (versionName i) :=
      parent_eq (h.stored.versionAt i version hget) hparent
    have hbase' : some preview.baseVersionId = some (versionName j) :=
      parent_eq (h.stored.versionAt j version' hget') hparent'
    exact congrArg (fun n => versionName (n + 1))
      (versionName_injective (Option.some.inj (hbase.symm.trans hbase')))
  preview key preview hkey fromId := by
    obtain ⟨i, -, rfl⟩ := h.stored.previews.mem_keys_iff.mp (Dict.mem_keys_of_get? hkey)
    rw [PlanSessionRecord.diff, if_pos (prefixText_previewName _), hkey]
    change (require (preview.baseVersionId = fromId) _ >>= _) = _
    by_cases hbase : preview.baseVersionId = fromId
    · rw [require_eq_ok_iff.mpr hbase, if_pos hbase]
      rfl
    · rw [require, if_neg hbase, if_neg hbase]
      rfl

variable [Platform]

/-- **The history of versions.**  In every reachable session the difference between a version and
its parent is found, and it is the one that was computed when the preview of the version was
built; no two versions have a preview in common; and the difference of a preview is found from
its base and from nowhere else. -/
theorem reachable_explainedHistory {config : LifecycleConfig} {session : PlanSession}
    (h : Reachable config session) : ExplainedHistory config session.record :=
  (historyInvariant_of_reachable h).explainedHistory

end Search

/-- Approving the removal of a place stores a second version, whose difference is found. -/
theorem reachable_explainedHistory_approvedDrop :
    Sample.approvedDrop.record.versions.keys = ["V1", "V2"] ∧
      ExplainedHistory Sample.config Sample.approvedDrop.record :=
  ⟨Sample.versions_approvedDrop, @reachable_explainedHistory plainPlatform _ _
    (Sample.reachable_send (Sample.reachable_send (Sample.reachable_send
      (Sample.reachable_startedWith ..) ..) ..) ..)⟩

end TravelPlanAgent
