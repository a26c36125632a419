import Mathlib.Data.List.Basic

/-!
# Attempts one after the other

A list of attempts is made in order.  An attempt may change a state, and its result says whether
another attempt may follow; the result of the last attempt that was made is the result.  What
the attempts leave behind is often a journal, and the question is whether each entry was
justified by the entries before it.

* `attemptAll`, `made`: the attempts, and those that are really made with the states they find.
* `attemptAll_rule`: an invariant of the attempts that are made, with what the result satisfies.
* `attemptAll_extends`: what an attempt leaves behind is still there in the end.
* `Justified`, `justified_concat`: every entry of a journal, in view of the entries before it.
-/

namespace Attempts

/-! ## Attempts -/

section Loop

variable {ι σ ρ : Type} (attempt : ι → σ → ρ × σ) (goesOn : ρ → Bool)

/-- Make the first attempt, and go on with the others while the results allow it. -/
def attemptAll : ι → List ι → σ → ρ × σ
  | first, [], state => attempt first state
  | first, next :: rest, state =>
    if goesOn (attempt first state).1 then attemptAll next rest (attempt first state).2
    else attempt first state

/-- The attempts that are made, with the states that they find. -/
def made : ι → List ι → σ → List (ι × σ)
  | first, [], state => [(first, state)]
  | first, next :: rest, state =>
    (first, state) ::
      if goesOn (attempt first state).1 then made next rest (attempt first state).2 else []

variable {attempt goesOn}

/-- What every attempt that is made keeps, and what it ensures of its result. -/
theorem attemptAll_rule (Inv : σ → Prop) (Post : ρ → σ → Prop) {first : ι} {rest : List ι}
    {state : σ} (hinv : Inv state)
    (hstep : ∀ p ∈ made attempt goesOn first rest state, Inv p.2 →
      Inv (attempt p.1 p.2).2 ∧ Post (attempt p.1 p.2).1 (attempt p.1 p.2).2) :
    Inv (attemptAll attempt goesOn first rest state).2 ∧
      Post (attemptAll attempt goesOn first rest state).1
        (attemptAll attempt goesOn first rest state).2 := by
  induction rest generalizing first state with
  | nil => exact hstep (first, state) (List.mem_singleton_self _) hinv
  | cons next rest ih =>
    have hfirst := hstep (first, state) List.mem_cons_self hinv
    rw [attemptAll]
    split
    · next hgoes =>
      refine ih hfirst.1 fun p hp => hstep p ?_
      rw [made, if_pos hgoes]
      exact List.mem_cons_of_mem _ hp
    · exact hfirst

variable (attempt goesOn) in
/-- What an attempt leaves behind is still there in the end. -/
theorem attemptAll_extends (Extends : σ → σ → Prop) (hrefl : ∀ s, Extends s s)
    (htrans : ∀ s t u, Extends s t → Extends t u → Extends s u)
    (hstep : ∀ i s, Extends s (attempt i s).2) (first : ι) (rest : List ι) (state : σ) :
    Extends state (attemptAll attempt goesOn first rest state).2 ∧
      ∀ p ∈ made attempt goesOn first rest state,
        Extends (attempt p.1 p.2).2 (attemptAll attempt goesOn first rest state).2 := by
  induction rest generalizing first state with
  | nil =>
    refine ⟨hstep first state, fun p hp => ?_⟩
    obtain rfl := List.mem_singleton.mp hp
    exact hrefl _
  | cons next rest ih =>
    rw [attemptAll, made]
    by_cases hgoes : goesOn (attempt first state).1 = true
    · rw [if_pos hgoes, if_pos hgoes]
      obtain ⟨hstate, hmade⟩ := ih next (attempt first state).2
      refine ⟨htrans _ _ _ (hstep first state) hstate, fun p hp => ?_⟩
      obtain rfl | hp := List.mem_cons.mp hp
      · exact hstate
      · exact hmade p hp
    · rw [if_neg hgoes, if_neg hgoes]
      refine ⟨hstep first state, fun p hp => ?_⟩
      obtain rfl := List.mem_singleton.mp hp
      exact hrefl _

end Loop

/-! ## Journals -/

section Journal

variable {α : Type} {P : List α → α → Prop} {journal : List α} {entry : α}

/-- Every entry satisfies `P` of the entries before it. -/
def Justified (P : List α → α → Prop) (journal : List α) : Prop :=
  ∀ before entry after, journal = before ++ entry :: after → P before entry

theorem justified_nil : Justified P [] := fun before _ _ h => by simp at h

/-- A journal grows by an entry that the journal so far justifies. -/
theorem justified_concat :
    Justified P (journal ++ [entry]) ↔ Justified P journal ∧ P journal entry := by
  constructor
  · refine fun h => ⟨fun before inner after heq => ?_, h journal entry [] rfl⟩
    exact h before inner (after ++ [entry]) (by rw [heq, List.append_assoc, List.cons_append])
  · rintro ⟨hjournal, hentry⟩ before inner after heq
    rcases List.eq_nil_or_concat after with rfl | ⟨after, last, rfl⟩
    · obtain ⟨rfl, hlast⟩ := List.append_inj' heq rfl
      obtain rfl := (List.cons.inj hlast).1
      exact hentry
    · have hsplit : journal ++ [entry] = (before ++ inner :: after) ++ [last] := by
        rw [heq, List.append_assoc, List.cons_append, List.concat_eq_append]
      exact hjournal before inner after (List.append_inj' hsplit rfl).1

end Journal

end Attempts
