import Mathlib.Data.List.Sort
import Mathlib.Data.List.Dedup
import Mathlib.Data.Prod.Lex
import Mathlib.Order.WithBot
import Mathlib.Data.Rat.Floor
import Mathlib.Data.Set.Finite.Lemmas
import Mathlib.Data.String.Basic
import Mathlib.Algebra.Order.Ring.Rat

/-!
# Choosing, sorting and rounding

* `firstMin`: the first least element of a list for a strict comparison.
* `not_lt_firstMin`: nothing is less than it.
* `insertionSort_concat`: where a stable sort puts the last element.
* `minByKey`, `sortByKey`: the first least element for a key, and a stable sort by a key.
* `mem_take_sortByKey`, `subset_take_sortByKey`: which elements are among the first ones.
* `sortedSet`: the distinct elements of a list in increasing order.
* `exists_mem_take_eraseDups`: when a part of a list is among its first distinct elements.
* `lastWith`: the last element of a list that passes a test.
* `roundHalfEven`, `roundTo`: rounding to the nearest integer, ties to even, and to decimals.
* `roundTo_bounds`: rounding stays within bounds.
-/

universe u

namespace Selection

variable {α : Type u}

/-! ## Least elements -/

/-- The first least element of a list for the strict comparison `lt`. -/
def firstMin (lt : α → α → Bool) : List α → Option α
  | [] => none
  | a :: l => some (l.foldl (fun best x => if lt x best then x else best) a)

theorem foldl_min_mem (lt : α → α → Bool) (l : List α) (a : α) :
    l.foldl (fun best x => if lt x best then x else best) a ∈ a :: l := by
  induction l generalizing a with
  | nil => simp
  | cons b l ih =>
    rw [List.foldl_cons]
    have hmem := ih (if lt b a then b else a)
    split at hmem <;> simp only [List.mem_cons] at hmem ⊢ <;> split <;> tauto

/-- The least element is an element. -/
theorem mem_of_firstMin {lt : α → α → Bool} {l : List α} {a : α} (h : firstMin lt l = some a) :
    a ∈ l := by
  cases l with
  | nil => exact absurd h (by simp [firstMin])
  | cons b l =>
    rw [firstMin, Option.some.injEq] at h
    exact h ▸ foldl_min_mem lt l b

/-- A nonempty list has a least element. -/
theorem exists_firstMin (lt : α → α → Bool) {l : List α} (h : l ≠ []) :
    ∃ a, firstMin lt l = some a := by
  cases l with
  | nil => exact absurd rfl h
  | cons b l => exact ⟨_, rfl⟩

section Strict

variable {lt : α → α → Bool}

theorem foldl_min_le (htrans : ∀ a b c, lt a b = true → lt b c = true → lt a c = true)
    (l : List α) (a : α) :
    l.foldl (fun best x => if lt x best then x else best) a = a ∨
      lt (l.foldl (fun best x => if lt x best then x else best) a) a = true := by
  induction l generalizing a with
  | nil => exact .inl rfl
  | cons x l ih =>
    rw [List.foldl_cons]
    split
    · next hx =>
      rcases ih x with h | h
      · exact .inr (h.symm ▸ hx)
      · exact .inr (htrans _ _ _ h hx)
    · exact ih a

/-- Nothing is less than the least element. -/
theorem not_lt_firstMin (hirrefl : ∀ a, lt a a = false)
    (htrans : ∀ a b c, lt a b = true → lt b c = true → lt a c = true) {l : List α} {a : α}
    (h : firstMin lt l = some a) : ∀ b ∈ l, lt b a = false := by
  have hfold : ∀ (l : List α) (a : α), ∀ b ∈ a :: l,
      lt b (l.foldl (fun best x => if lt x best then x else best) a) = false := by
    intro l
    induction l with
    | nil =>
      intro a b hb
      rw [List.mem_singleton.mp hb]
      exact hirrefl a
    | cons x l ih =>
      intro a b hb
      rw [List.foldl_cons]
      have hle := foldl_min_le htrans l a
      split
      · next hx =>
        rcases List.mem_cons.mp hb with rfl | hb
        · by_contra hlt
          have hxr := htrans _ _ _ hx (Bool.not_eq_false _ ▸ hlt)
          rw [ih x x List.mem_cons_self] at hxr
          exact Bool.noConfusion hxr
        · exact ih x b hb
      · next hx =>
        rcases List.mem_cons.mp hb with rfl | hb
        · exact ih b b List.mem_cons_self
        rcases List.mem_cons.mp hb with rfl | hb
        · rcases hle with hr | hr
          · rw [hr]
            exact Bool.not_eq_true _ ▸ hx
          · by_contra hlt
            exact hx (htrans _ _ _ (Bool.not_eq_false _ ▸ hlt) hr)
        · exact ih a b (List.mem_cons_of_mem _ hb)
  cases l with
  | nil => exact absurd h (by simp [firstMin])
  | cons c l =>
    rw [firstMin, Option.some.injEq] at h
    exact h ▸ hfold l c

end Strict

/-! ## Insertion -/

section Insertion

variable {r : α → α → Prop} [DecidableRel r]

/-- An element is inserted behind those that it may not come before. -/
theorem orderedInsert_append {a : α} {before : List α} (h : ∀ b ∈ before, ¬ r a b)
    (after : List α) :
    (before ++ after).orderedInsert r a = before ++ after.orderedInsert r a := by
  induction before with
  | nil => rfl
  | cons b before ih =>
    obtain ⟨hb, hbefore⟩ := List.forall_mem_cons.mp h
    rw [List.cons_append, List.orderedInsert_cons, if_neg hb, ih hbefore, List.cons_append]

/-- An element is inserted before the first one that it may come before. -/
theorem orderedInsert_append_cons {a x : α} (h : r a x) (before after : List α) :
    (before ++ x :: after).orderedInsert r a = before.orderedInsert r a ++ x :: after := by
  induction before with
  | nil =>
    rw [List.nil_append, List.orderedInsert_cons, if_pos h, List.orderedInsert_nil]
    rfl
  | cons b before ih =>
    rw [List.cons_append, List.orderedInsert_cons, List.orderedInsert_cons]
    split
    · rfl
    · rw [ih, List.cons_append]

/-- The last element of a list is sorted behind exactly those that may come before it. -/
theorem insertionSort_concat (htrans : ∀ a b c, r a b → r b c → r a c) (l : List α) (x : α) :
    ∃ before after, (l ++ [x]).insertionSort r = before ++ x :: after ∧
      before.Perm (l.filter fun a => decide (r a x)) := by
  induction l with
  | nil => exact ⟨[], [], rfl, .refl _⟩
  | cons a l ih =>
    obtain ⟨before, after, hsort, hbefore⟩ := ih
    rw [List.cons_append, List.insertionSort_cons, hsort]
    by_cases hax : r a x
    · refine ⟨before.orderedInsert r a, after, orderedInsert_append_cons hax before after, ?_⟩
      rw [List.filter_cons_of_pos (by simpa using hax)]
      exact (List.perm_orderedInsert r a before).trans (hbefore.cons a)
    · have hbehind : ∀ b ∈ before, ¬ r a b := by
        intro b hb hab
        have hbx : r b x := by simpa using (List.mem_filter.mp (hbefore.mem_iff.mp hb)).2
        exact hax (htrans a b x hab hbx)
      refine ⟨before, after.orderedInsert r a, ?_, ?_⟩
      · rw [orderedInsert_append hbehind, List.orderedInsert_cons, if_neg hax]
      · rw [List.filter_cons_of_neg (by simpa using hax)]
        exact hbefore

end Insertion

/-! ## Keys -/

section Keys

variable {κ : Type*} [LinearOrder κ]

/-- The first element with the least key. -/
def minByKey (key : α → κ) (l : List α) : Option α :=
  firstMin (fun a b => decide (key a < key b)) l

theorem mem_of_minByKey {key : α → κ} {l : List α} {a : α} (h : minByKey key l = some a) : a ∈ l :=
  mem_of_firstMin h

theorem exists_minByKey (key : α → κ) {l : List α} (h : l ≠ []) : ∃ a, minByKey key l = some a :=
  exists_firstMin _ h

/-- Sort by a key; elements with equal keys keep their order. -/
def sortByKey (key : α → κ) (l : List α) : List α := l.insertionSort fun a b => key a ≤ key b

@[simp] theorem mem_sortByKey {key : α → κ} {l : List α} {a : α} :
    a ∈ sortByKey key l ↔ a ∈ l := by
  rw [sortByKey, List.mem_insertionSort]

theorem perm_sortByKey (key : α → κ) (l : List α) : (sortByKey key l).Perm l :=
  List.perm_insertionSort ..

/-- Elements with keys of their own are sorted strictly. -/
theorem pairwise_sortByKey {key : α → κ} {l : List α} (hkeys : (l.map key).Nodup) :
    (sortByKey key l).Pairwise fun a b => key a < key b := by
  have hle : (sortByKey key l).Pairwise fun a b => key a ≤ key b := by
    have : Std.Total fun a b => key a ≤ key b := ⟨fun a b => le_total (key a) (key b)⟩
    have : IsTrans α fun a b => key a ≤ key b := ⟨fun _ _ _ => le_trans⟩
    exact List.pairwise_insertionSort _ l
  have hne : (sortByKey key l).Pairwise fun a b => key a ≠ key b :=
    List.pairwise_map.mp (((perm_sortByKey key l).map key).nodup_iff.mpr hkeys)
  exact hle.imp₂ (fun _ _ => lt_of_le_of_ne) hne

/-- The element at a place of a strictly sorted list has as many elements below it as stand before
it. -/
theorem mem_take_of_pairwise {key : α → κ} {l : List α} (h : l.Pairwise fun a b => key a < key b)
    {a : α} (ha : a ∈ l) (n : ℕ) :
    a ∈ l.take n ↔ (l.filter fun b => decide (key b < key a)).length < n := by
  induction l generalizing n with
  | nil => simp at ha
  | cons b l ih =>
    obtain ⟨hb, hl⟩ := List.pairwise_cons.mp h
    cases n with
    | zero => simp
    | succ n =>
      rw [List.take_succ_cons, List.mem_cons]
      rcases List.mem_cons.mp ha with rfl | ha
      · have hnone : (a :: l).filter (fun b => decide (key b < key a)) = [] := by
          refine List.filter_eq_nil_iff.mpr fun c hc hlt => ?_
          rw [decide_eq_true_eq] at hlt
          rcases List.mem_cons.mp hc with rfl | hc
          · exact lt_irrefl _ hlt
          · exact lt_asymm hlt (hb c hc)
        simp [hnone]
      · have hne : a ≠ b := fun heq => lt_irrefl _ (heq ▸ hb a ha)
        have hbelow : (b :: l).filter (fun c => decide (key c < key a)) =
            b :: l.filter fun c => decide (key c < key a) :=
          List.filter_cons_of_pos (decide_eq_true (hb a ha))
        rw [hbelow, List.length_cons, Nat.add_lt_add_iff_right, ← ih hl ha]
        simp [hne]

/-- An element is among the first `n` of the sorted list when fewer than `n` have a smaller
key. -/
theorem mem_take_sortByKey {key : α → κ} {l : List α} (hkeys : (l.map key).Nodup) {a : α}
    (ha : a ∈ l) (n : ℕ) :
    a ∈ (sortByKey key l).take n ↔ (l.filter fun b => decide (key b < key a)).length < n := by
  rw [mem_take_of_pairwise (pairwise_sortByKey hkeys) (mem_sortByKey.mpr ha)]
  exact ((perm_sortByKey key l).filter _).length_eq ▸ Iff.rfl

/-- The elements without a property whose key is below that of one with it. -/
def outrankers (key : α → κ) (p : α → Bool) (l : List α) : List α :=
  l.filter fun b => !p b && (l.filter p).any fun a => decide (key b < key a)

theorem mem_outrankers {key : α → κ} {p : α → Bool} {l : List α} {b : α} :
    b ∈ outrankers key p l ↔ b ∈ l ∧ p b = false ∧ ∃ a ∈ l, p a = true ∧ key b < key a := by
  simp only [outrankers, List.mem_filter, Bool.and_eq_true, Bool.not_eq_true', List.any_eq_true,
    decide_eq_true_eq, and_assoc]

/-- When there are at most `n` elements with a property, the first `n` of the sorted list contain
them all exactly when they and those that outrank one of them are at most `n` together. -/
theorem subset_take_sortByKey {key : α → κ} {p : α → Bool} {l : List α}
    (hkeys : (l.map key).Nodup) {n : ℕ} (hn : (l.filter p).length ≤ n) :
    (∀ a ∈ l, p a = true → a ∈ (sortByKey key l).take n) ↔
      (l.filter p).length + (outrankers key p l).length ≤ n := by
  have hnodup : l.Nodup := List.Nodup.of_map key hkeys
  have hdisjoint : (l.filter p ++ outrankers key p l).Nodup := by
    refine (hnodup.filter _).append (hnodup.filter _) fun a ha hb => ?_
    have hout := (mem_outrankers.mp hb).2.1
    rw [(List.mem_filter.mp ha).2] at hout
    exact Bool.noConfusion hout
  rw [← List.length_append]
  constructor
  · intro hall
    rcases eq_or_ne (l.filter p) [] with hnil | hne
    · have hout : outrankers key p l = [] := by
        refine List.filter_eq_nil_iff.mpr fun b _ => ?_
        simp [hnil]
      rwa [hout, List.append_nil]
    -- All of them are the last element with the property or come before it.
    obtain ⟨a, ha, hmax⟩ := Set.exists_max_image _ key (List.finite_toSet (l.filter p))
      (List.exists_mem_of_ne_nil _ hne)
    obtain ⟨hmem, hp⟩ := List.mem_filter.mp ha
    have hfew := (mem_take_sortByKey hkeys hmem n).mp (hall a hmem hp)
    have hsub : l.filter p ++ outrankers key p l ⊆
        a :: l.filter fun b => decide (key b < key a) := by
      intro b hb
      rw [List.mem_cons, List.mem_filter, decide_eq_true_eq]
      rcases List.mem_append.mp hb with hb | hb
      · have hbmem := (List.mem_filter.mp hb).1
        rcases (hmax b hb).lt_or_eq with hlt | heq
        · exact .inr ⟨hbmem, hlt⟩
        · exact .inl (List.inj_on_of_nodup_map hkeys hbmem hmem heq)
      · obtain ⟨hbmem, -, c, hc, hpc, hlt⟩ := mem_outrankers.mp hb
        exact .inr ⟨hbmem, hlt.trans_le (hmax c (List.mem_filter.mpr ⟨hc, hpc⟩))⟩
    have hlength := hdisjoint.length_le_of_subset hsub
    rw [List.length_cons] at hlength
    omega
  · intro hle a ha hp
    rw [mem_take_sortByKey hkeys ha]
    have hbelow : (a :: l.filter fun b => decide (key b < key a)).Nodup := by
      refine List.nodup_cons.mpr ⟨fun hmem => ?_, hnodup.filter _⟩
      exact lt_irrefl _ (of_decide_eq_true (List.mem_filter.mp hmem).2)
    have hsub : a :: l.filter (fun b => decide (key b < key a)) ⊆
        l.filter p ++ outrankers key p l := by
      intro b hb
      rw [List.mem_append]
      rcases List.mem_cons.mp hb with rfl | hb
      · exact .inl (List.mem_filter.mpr ⟨ha, hp⟩)
      · obtain ⟨hmem, hlt⟩ := List.mem_filter.mp hb
        cases hpb : p b with
        | true => exact .inl (List.mem_filter.mpr ⟨hmem, hpb⟩)
        | false => exact .inr (mem_outrankers.mpr ⟨hmem, hpb, a, ha, hp, of_decide_eq_true hlt⟩)
    have hlength := hbelow.length_le_of_subset hsub
    rw [List.length_cons] at hlength
    omega

end Keys

/-! ## Sorted sets -/

/-- The distinct elements of a list in increasing order. -/
def sortedSet [LinearOrder α] (l : List α) : List α := l.dedup.insertionSort (· ≤ ·)

@[simp] theorem mem_sortedSet [LinearOrder α] {l : List α} {a : α} : a ∈ sortedSet l ↔ a ∈ l := by
  rw [sortedSet, List.mem_insertionSort, List.mem_dedup]

/-! ## The first and the last match -/

/-- A first match is an element and matches. -/
theorem of_find?_decide {p : α → Prop} [DecidablePred p] {l : List α} {a : α}
    (h : l.find? (fun a => decide (p a)) = some a) : a ∈ l ∧ p a :=
  ⟨List.mem_of_find?_eq_some h, by simpa using List.find?_some h⟩

/-- A key that is carried once finds the element that carries it. -/
theorem find?_key_of_nodup {β : Type} [DecidableEq β] {key : α → β} {l : List α}
    (h : (l.map key).Nodup) {a : α} (ha : a ∈ l) :
    l.find? (fun b => decide (key b = key a)) = some a := by
  obtain ⟨found, hfound⟩ : ∃ found, l.find? (fun b => decide (key b = key a)) = some found :=
    Option.isSome_iff_exists.mp (List.find?_isSome.mpr ⟨a, ha, decide_eq_true rfl⟩)
  obtain ⟨hmem, hkey⟩ := of_find?_decide hfound
  rw [hfound, List.inj_on_of_nodup_map h hmem ha hkey]

/-- The last element of a list that passes a test. -/
def lastWith (p : α → Bool) (l : List α) : Option α := l.reverse.find? p

theorem mem_of_lastWith {p : α → Bool} {l : List α} {a : α} (h : lastWith p l = some a) :
    a ∈ l :=
  List.mem_reverse.mp (List.mem_of_find?_eq_some h)

theorem pos_of_lastWith {p : α → Bool} {l : List α} {a : α} (h : lastWith p l = some a) :
    p a = true :=
  List.find?_some h

/-- The only element with a property is the last one with it. -/
theorem lastWith_eq_some_of_unique {p : α → Bool} {l : List α} {a : α} (ha : a ∈ l)
    (hpos : p a = true) (hunique : ∀ b ∈ l, p b = true → b = a) : lastWith p l = some a := by
  cases h : lastWith p l with
  | none => exact absurd hpos (List.find?_eq_none.mp h a (List.mem_reverse.mpr ha))
  | some b => rw [hunique b (mem_of_lastWith h) (pos_of_lastWith h)]

/-- Among the elements with a property there is a last one. -/
theorem exists_last_of_mem {p : α → Prop} {l : List α} {a : α} (ha : a ∈ l)
    (hpos : p a) : ∃ before last after, l = before ++ last :: after ∧ p last ∧
      ∀ b ∈ after, ¬ p b := by
  induction l using List.reverseRecOn with
  | nil => exact absurd ha List.not_mem_nil
  | append_singleton rest b ih =>
    by_cases hb : p b
    · exact ⟨rest, b, [], rfl, hb, nofun⟩
    · have hrest : a ∈ rest := by
        rcases List.mem_append.mp ha with hrest | hlast
        · exact hrest
        · exact absurd (List.mem_singleton.mp hlast ▸ hpos) hb
      obtain ⟨before, last, after, rfl, hlast, hnone⟩ := ih hrest
      refine ⟨before, last, after ++ [b], by simp, hlast, fun c hc => ?_⟩
      rcases List.mem_append.mp hc with hafter | hc
      · exact hnone c hafter
      · exact List.mem_singleton.mp hc ▸ hb

/-! ## The first distinct elements -/

section FirstDistinct

variable [DecidableEq α]

theorem nodup_eraseDups (l : List α) : l.eraseDups.Nodup := by
  induction hlength : l.length using Nat.strong_induction_on generalizing l with
  | _ n ih =>
    cases l with
    | nil => exact List.nodup_nil
    | cons a rest =>
      rw [List.eraseDups_cons]
      have hless : (rest.filter fun b => !b == a).length < n :=
        hlength ▸ Nat.lt_succ_of_le (List.length_filter_le _ _)
      exact List.nodup_cons.mpr ⟨by simp [List.mem_eraseDups], ih _ hless _ rfl⟩

/-- Some element of a part of a list is among the first `n` distinct ones exactly when the part
before has fewer than `n` distinct elements, or one of its first `n` is in the part too. -/
theorem exists_mem_take_eraseDups {before own after : List α} (hown : own ≠ []) (n : ℕ) :
    (∃ a ∈ own, a ∈ (before ++ (own ++ after)).eraseDups.take n) ↔
      before.eraseDups.length < n ∨ ∃ a ∈ own, a ∈ before.eraseDups.take n := by
  obtain ⟨a, rest, rfl⟩ := List.exists_cons_of_ne_nil hown
  rw [List.eraseDups_append, List.take_append]
  by_cases hroom : before.eraseDups.length < n
  · refine ⟨fun _ => .inl hroom, fun _ => ⟨a, List.mem_cons_self, List.mem_append.mpr ?_⟩⟩
    by_cases hseen : a ∈ before
    · left
      rw [List.take_of_length_le hroom.le]
      exact List.mem_eraseDups.mpr hseen
    · right
      have hfirst : (a :: rest ++ after).removeAll before =
          a :: (rest ++ after).removeAll before := by
        simp [List.removeAll, hseen]
      obtain ⟨m, hm⟩ : ∃ m, n - before.eraseDups.length = m + 1 :=
        ⟨n - before.eraseDups.length - 1, by omega⟩
      rw [hfirst, List.eraseDups_cons, hm, List.take_succ_cons]
      exact List.mem_cons_self
  · have hnone : n - before.eraseDups.length = 0 := by omega
    rw [hnone, List.take_zero, List.append_nil]
    simp only [hroom, false_or]

end FirstDistinct

/-! ## Rounding -/

/-- Rounding to the nearest integer; a tie goes to the even neighbour. -/
def roundHalfEven (q : ℚ) : ℤ :=
  let below := q.floor
  let rest := q - below
  if rest < 1 / 2 then below
  else if 1 / 2 < rest then below + 1
  else if below % 2 = 0 then below else below + 1

/-- Rounding does not go below an integer that the number does not go below. -/
theorem le_roundHalfEven {q : ℚ} {n : ℤ} (h : (n : ℚ) ≤ q) : n ≤ roundHalfEven q := by
  have hbelow : n ≤ q.floor := Rat.le_floor_iff.mpr h
  unfold roundHalfEven
  dsimp only
  split_ifs <;> omega

/-- Rounding does not go above an integer that the number exceeds by less than a half. -/
theorem roundHalfEven_le {q : ℚ} {n : ℤ} (h : q < n + 1 / 2) : roundHalfEven q ≤ n := by
  have hfloor : (q.floor : ℚ) ≤ q := Rat.floor_le q
  have hbelow : q.floor ≤ n := by
    have hlt : (q.floor : ℚ) < n + 1 := by linarith
    exact Int.lt_add_one_iff.mp (by exact_mod_cast hlt)
  have habove : 1 / 2 ≤ q - q.floor → q.floor + 1 ≤ n := by
    intro hrest
    have hlt : (q.floor : ℚ) < n := by linarith
    exact_mod_cast hlt
  unfold roundHalfEven
  dsimp only
  split_ifs with hlow hhigh heven
  · exact hbelow
  · exact habove hhigh.le
  · exact hbelow
  · exact habove (not_lt.mp hlow)

/-- Rounding keeps the order. -/
theorem roundHalfEven_mono {a b : ℚ} (h : a ≤ b) : roundHalfEven a ≤ roundHalfEven b := by
  have hfloor : a.floor ≤ b.floor := Rat.le_floor_iff.mpr ((Rat.floor_le a).trans h)
  rcases hfloor.lt_or_eq with hlt | heq
  · have habove : roundHalfEven a ≤ a.floor + 1 := by
      unfold roundHalfEven
      dsimp only
      split_ifs <;> omega
    have hbelow : b.floor ≤ roundHalfEven b := le_roundHalfEven (Rat.floor_le b)
    omega
  · unfold roundHalfEven
    dsimp only
    rw [heq]
    split_ifs <;> first | omega | (exfalso; linarith)
/-- Rounding to `digits` decimals. -/
def roundTo (digits : ℕ) (q : ℚ) : ℚ := roundHalfEven (q * 10 ^ digits) / 10 ^ digits

/-- Rounding to decimals stays between two integers, the upper one missed by less than half a
step. -/
theorem roundTo_bounds {digits : ℕ} {q : ℚ} {low high : ℤ} (hlow : (low : ℚ) ≤ q)
    (hhigh : q * 10 ^ digits < high * 10 ^ digits + 1 / 2) :
    (low : ℚ) ≤ roundTo digits q ∧ roundTo digits q ≤ high := by
  have hpos : (0 : ℚ) < 10 ^ digits := by positivity
  rw [roundTo, le_div_iff₀ hpos, div_le_iff₀ hpos]
  constructor
  · have hbelow : low * 10 ^ digits ≤ roundHalfEven (q * 10 ^ digits) := by
      refine le_roundHalfEven ?_
      push_cast
      exact mul_le_mul_of_nonneg_right hlow hpos.le
    exact_mod_cast hbelow
  · have habove : roundHalfEven (q * 10 ^ digits) ≤ high * 10 ^ digits := by
      refine roundHalfEven_le ?_
      push_cast
      exact hhigh
    exact_mod_cast habove

example : roundTo 2 (66665 / 1000) = 6666 / 100 := by decide +kernel

end Selection
