import Mathlib.Data.List.Forall2
import TravelPlanAgent.Library.Calendar
import TravelPlanAgent.Library.OrderedDict
import TravelPlanAgent.Library.Selection

/-!
# What the program takes from its platform

Text folding, hashing and floating-point geometry come from the Python runtime.  They are
collected in one class, so that every result of this development holds whatever they compute.
Numbers that the program keeps as floats or decimals are rationals here.

* `Platform`, `plainPlatform`: the operations taken from the runtime, and a simple instance.
* `Json`: the values that are hashed.
* `normalize`, `textIn`: the comparison of names used all over the program.
* `Failure`: the exceptions that leave a function, with their codes and texts.
-/

universe u

namespace TravelPlanAgent

open Calendar

/-! ## Hashed values -/

/-- A value that is dumped as JSON before it is hashed. -/
inductive Json where
  | null
  | bool (b : Bool)
  | num (q : ℚ)
  /-- A number whose text has a point. -/
  | float (q : ℚ)
  | str (s : String)
  | arr (items : List Json)
  | obj (fields : List (String × Json))

/-- A point in degrees. -/
structure Coordinate where
  longitude : ℚ
  latitude : ℚ
  deriving DecidableEq

/-- The operations that the program takes from the Python runtime. -/
class Platform where
  /-- `str.strip`. -/
  strip : String → String
  /-- `str.casefold`. -/
  casefold : String → String
  /-- `repr` of a text. -/
  textRepr : String → String
  /-- SHA-256 of a text, in hexadecimal digits. -/
  sha256 : String → String
  /-- SHA-256 of the JSON text of a value, in hexadecimal digits. -/
  jsonHash : Json → String
  /-- The number of characters of the JSON text of a value. -/
  jsonLength : Json → ℕ
  /-- `str` of a decimal amount. -/
  decimalText : ℚ → String
  /-- Great-circle distance in whole metres. -/
  haversineDistanceMeters : Coordinate → Coordinate → ℕ

export Platform (strip casefold textRepr sha256 jsonHash jsonLength decimalText
  haversineDistanceMeters)

/-! ## A platform to evaluate on -/

mutual

/-- The text of a value, with sorted fields left to the caller. -/
def Json.text : Json → String
  | .null => "null"
  | .bool b => if b then "true" else "false"
  | .num q => toString q
  | .float q => toString q ++ "."
  | .str s => "\"" ++ s ++ "\""
  | .arr items => "[" ++ Json.itemsText items ++ "]"
  | .obj fields => "\x7b" ++ Json.fieldsText fields ++ "\x7d"

def Json.itemsText : List Json → String
  | [] => ""
  | item :: rest => Json.text item ++ "," ++ Json.itemsText rest

def Json.fieldsText : List (String × Json) → String
  | [] => ""
  | (name, value) :: rest =>
    "\"" ++ name ++ "\":" ++ Json.text value ++ "," ++ Json.fieldsText rest

end

/-- One number more in a checksum of sixteen digits. -/
def mixed (checksum n : ℕ) : ℕ := (checksum * 257 + n) % 10 ^ 16

/-- The checksum of the bytes of a text. -/
def textChecksum (s : String) : ℕ :=
  s.toByteArray.data.toList.foldl (fun checksum byte => mixed checksum byte.toNat) 5

mutual

/-- The checksum of a value, without the names of its fields. -/
def Json.checksum : Json → ℕ
  | .null => 1
  | .bool b => if b then 2 else 3
  | .num q => mixed (mixed 4 (2 * q.num.natAbs + q.num.sign.toNat)) q.den
  | .float q => mixed (mixed 6 (2 * q.num.natAbs + q.num.sign.toNat)) q.den
  | .str s => textChecksum s
  | .arr items => Json.itemsChecksum items
  | .obj fields => Json.fieldsChecksum fields

def Json.itemsChecksum : List Json → ℕ
  | [] => 7
  | item :: rest => mixed (Json.itemsChecksum rest) (Json.checksum item)

def Json.fieldsChecksum : List (String × Json) → ℕ
  | [] => 8
  | (_, value) :: rest => mixed (Json.fieldsChecksum rest) (Json.checksum value)

end

/-- ASCII texts that are their own hashes, short checksums of values, and distances along one
meridian.  Concrete runs are evaluated on this platform. -/
@[reducible] def plainPlatform : Platform where
  strip s := String.ofList ((s.toList.dropWhile Char.isWhitespace).reverse.dropWhile
    Char.isWhitespace).reverse
  casefold s := String.ofList (s.toList.map Char.toLower)
  textRepr s := "'" ++ s ++ "'"
  sha256 s := s
  jsonHash value := String.ofList (padded 16 value.checksum)
  jsonLength value := value.text.utf8ByteSize
  decimalText q := toString q
  haversineDistanceMeters a b := (Selection.roundHalfEven
    (|a.latitude - b.latitude| * 6371000 * (314159265 / 18000000000))).toNat

/-! ## Text -/

/-- `value.strip().casefold()`. -/
def normalize [Platform] (value : String) : String := casefold (strip value)

/-- Python's `needle in text` on strings. -/
def textIn (needle text : String) : Bool := decide (needle.toList <:+: text.toList)

/-- One of two names contains the other. -/
def namesOverlap [Platform] (a b : String) : Bool :=
  textIn (normalize a) (normalize b) || textIn (normalize b) (normalize a)

/-- The first `n` characters. -/
def prefixText (n : ℕ) (s : String) : String := String.ofList (s.toList.take n)

/-- A rational written with six decimals. -/
def fixedSix (q : ℚ) : String :=
  let micro := (Selection.roundHalfEven (|q| * 1000000)).toNat
  String.ofList
    ((if q < 0 then ['-'] else []) ++ Nat.toDigits 10 (micro / 1000000) ++
      '.' :: padded 6 (micro % 1000000))

/-- Two numbers with the same decimal text are the same. -/
theorem toString_nat_injective : Function.Injective (toString : ℕ → String) := by
  intro m n h
  have hdigits : Nat.toDigits 10 m = Nat.toDigits 10 n := String.ofList_injective h
  have hread := congrArg (Nat.ofDigitChars 10 · 0) hdigits
  simpa only [Nat.ofDigitChars_ten_toDigits] using hread

/-! ## Exceptions -/

/-- The exceptions that leave a function of the program. -/
inductive Failure where
  /-- `LifecycleActionError`. -/
  | lifecycleAction (code message : String)
  /-- `LifecycleConflictError`. -/
  | lifecycleConflict (code : String)
  /-- `LifecycleNotFoundError`. -/
  | lifecycleNotFound
  /-- `ToolUnavailableError`. -/
  | toolUnavailable
  /-- `WeatherUnavailableError`. -/
  | weatherUnavailable
  /-- The edit model is unavailable. -/
  | editUnavailable
  /-- `CriticUnavailableError`. -/
  | criticUnavailable
  /-- `ExecutionBudgetExceeded`. -/
  | executionBudgetExceeded
  /-- `SpecialistContextRejected`. -/
  | specialistRejected (code : String)
  /-- `SpecialistTimeout`. -/
  | specialistTimeout
  /-- A graph needs more steps than its recursion limit. -/
  | graphRecursion
  /-- `MissingPlanningPOI`. -/
  | missingPlanningPoi (poiId : String)
  /-- `MissingRouteResult`. -/
  | missingRouteResult (routeKey : String)
  | keyError
  | valueError (message : String)
  | assertionError
  | runtimeError (message : String)
  | stopIteration
  | typeError
  | overflowError
  /-- `pydantic.ValidationError` of the named model. -/
  | validationError (model : String)
  deriving DecidableEq

/-- A value or the exception raised instead. -/
abbrev Result (α : Type u) := Except Failure α

/-- `assert`. -/
def require (p : Prop) [Decidable p] (failure : Failure) : Result Unit :=
  if p then .ok () else .error failure

/-- Read an optional value, or raise. -/
def orRaise {α : Type u} (value : Option α) (failure : Failure) : Result α :=
  match value with
  | some a => .ok a
  | none => .error failure

section Peeling

variable {α β : Type u}

theorem eq_ok_of_mem_toOption {α : Type} {x : Result α} {a : α} (h : a ∈ x.toOption) :
    x = .ok a := by
  cases x with
  | error => cases h
  | ok => cases h; rfl

theorem bind_eq_ok {x : Result α} {f : α → Result β} {b : β} (h : x >>= f = .ok b) :
    ∃ a, x = .ok a ∧ f a = .ok b := by
  cases x with
  | error e => exact absurd h (by simp [bind, Except.bind])
  | ok a => exact ⟨a, rfl, h⟩

/-- A sequence of two fails in the first or in the second. -/
theorem bind_eq_error {x : Result α} {f : α → Result β} {e : Failure}
    (h : x >>= f = .error e) : x = .error e ∨ ∃ a, x = .ok a ∧ f a = .error e := by
  cases x with
  | error e' => exact Or.inl (congrArg Except.error (Except.error.inj h))
  | ok a => exact Or.inr ⟨a, rfl, h⟩

/-- A sequence of two that both succeed. -/
theorem bind_exists {x : Result α} {f : α → Result β} (hx : ∃ a, x = .ok a)
    (hf : ∀ a, x = .ok a → ∃ b, f a = .ok b) : ∃ b, x >>= f = .ok b := by
  obtain ⟨a, ha⟩ := hx
  obtain ⟨b, hb⟩ := hf a ha
  exact ⟨b, by rw [ha]; exact hb⟩

theorem require_eq_error {p : Prop} [Decidable p] {e e' : Failure}
    (h : require p e = .error e') : ¬p ∧ e' = e := by
  by_cases hp : p
  · rw [require, if_pos hp] at h
    cases h
  · rw [require, if_neg hp] at h
    exact ⟨hp, (Except.error.inj h).symm⟩

theorem orRaise_eq_error {value : Option α} {e e' : Failure}
    (h : orRaise value e = .error e') : value = none ∧ e' = e := by
  cases value with
  | none => exact ⟨rfl, (Except.error.inj h).symm⟩
  | some a => cases h

theorem require_eq_ok {p : Prop} [Decidable p] {e : Failure} {u : Unit}
    (h : require p e = .ok u) : p := by
  by_contra hp
  rw [require, if_neg hp] at h
  exact absurd h (by simp)

theorem orRaise_eq_ok {value : Option α} {e : Failure} {a : α}
    (h : orRaise value e = .ok a) : value = some a := by
  cases value with
  | none => exact absurd h (by simp [orRaise])
  | some b => rw [orRaise, Except.ok.injEq] at h; rw [h]

/-- A list is mapped when every element is, in order. -/
theorem mapM_eq_ok {f : α → Result β} {l : List α} {bs : List β} :
    l.mapM f = .ok bs ↔ List.Forall₂ (fun a b => f a = .ok b) l bs := by
  induction l generalizing bs with
  | nil =>
    rw [List.forall₂_nil_left_iff]
    exact ⟨fun h => (Except.ok.inj h).symm, fun h => h ▸ rfl⟩
  | cons a l ih =>
    rw [List.mapM_cons, List.forall₂_cons_left_iff]
    constructor
    · intro h
      obtain ⟨b, hb, h⟩ := bind_eq_ok h
      obtain ⟨rest, hrest, h⟩ := bind_eq_ok h
      exact ⟨b, rest, hb, ih.mp hrest, (Except.ok.inj h).symm⟩
    · rintro ⟨b, rest, hb, hrest, rfl⟩
      rw [hb, ih.mpr hrest]
      rfl

theorem exists_of_forall₂_left {R : α → β → Prop} {l : List α} {m : List β}
    (h : List.Forall₂ R l m) {a : α} (ha : a ∈ l) : ∃ b ∈ m, R a b := by
  obtain ⟨i, hi, rfl⟩ := List.mem_iff_getElem.mp ha
  have hlt : i < m.length := h.length_eq ▸ hi
  exact ⟨m[i], List.getElem_mem hlt, List.Forall₂.get h hi hlt⟩

theorem exists_of_forall₂_right {R : α → β → Prop} {l : List α} {m : List β}
    (h : List.Forall₂ R l m) {b : β} (hb : b ∈ m) : ∃ a ∈ l, R a b :=
  exists_of_forall₂_left h.flip hb

theorem mapM_congr {f g : α → Result β} {l : List α} (h : ∀ a ∈ l, f a = g a) :
    l.mapM f = l.mapM g := by
  induction l with
  | nil => rfl
  | cons a rest ih =>
    obtain ⟨ha, hrest⟩ := List.forall_mem_cons.mp h
    rw [List.mapM_cons, List.mapM_cons, ha, ih hrest]

theorem exists_of_mapM {f : α → Result β} {l : List α} {bs : List β} (h : l.mapM f = .ok bs)
    {a : α} (ha : a ∈ l) : ∃ b ∈ bs, f a = .ok b :=
  exists_of_forall₂_left (mapM_eq_ok.mp h) ha

theorem exists_mapM {f : α → Result β} {l : List α} (h : ∀ a ∈ l, ∃ b, f a = .ok b) :
    ∃ bs, l.mapM f = .ok bs := by
  induction l with
  | nil => exact ⟨[], rfl⟩
  | cons a l ih =>
    obtain ⟨b, hb⟩ := h a List.mem_cons_self
    obtain ⟨bs, hbs⟩ := ih fun x hx => h x (List.mem_cons_of_mem _ hx)
    exact ⟨b :: bs, mapM_eq_ok.mpr (.cons hb (mapM_eq_ok.mp hbs))⟩

/-- Mapping a list fails at an element. -/
theorem exists_of_mapM_error {f : α → Result β} {l : List α} {e : Failure}
    (h : l.mapM f = .error e) : ∃ a ∈ l, f a = .error e := by
  induction l with
  | nil => exact absurd h (by simp [pure, Except.pure])
  | cons a l ih =>
    rw [List.mapM_cons] at h
    rcases bind_eq_error h with ha | ⟨b, -, h⟩
    · exact ⟨a, List.mem_cons_self, ha⟩
    rcases bind_eq_error h with hrest | ⟨bs, -, h⟩
    · obtain ⟨a', hmem, ha'⟩ := ih hrest
      exact ⟨a', List.mem_cons_of_mem _ hmem, ha'⟩
    · exact absurd h (by simp [pure, Except.pure])

/-- A computation returns a value that passes a test. -/
def okAnd (x : Result α) (test : α → Bool) : Bool :=
  match x with
  | .ok a => test a
  | .error _ => false

theorem okAnd_eq_true {x : Result α} {test : α → Bool} (h : okAnd x test = true) :
    ∃ a, x = .ok a ∧ test a = true := by
  cases x with
  | error e => exact nomatch h
  | ok a => exact ⟨a, rfl, h⟩

theorem require_eq_ok_iff {p : Prop} [Decidable p] {e : Failure} :
    require p e = .ok ⟨⟩ ↔ p :=
  ⟨require_eq_ok, fun hp => by rw [require, if_pos hp]⟩

/-- A check of every element passes when each check passes. -/
theorem forM_eq_ok {f : α → Result PUnit} {l : List α} :
    l.forM f = .ok ⟨⟩ ↔ ∀ a ∈ l, f a = .ok ⟨⟩ := by
  induction l with
  | nil => exact ⟨fun _ => by simp, fun _ => rfl⟩
  | cons a l ih =>
    rw [List.forall_mem_cons, ← ih]
    change (f a >>= fun _ => l.forM f) = _ ↔ _
    constructor
    · intro h
      obtain ⟨_, ha, h⟩ := bind_eq_ok h
      exact ⟨ha, h⟩
    · rintro ⟨ha, h⟩
      rw [ha]
      exact h

theorem forM_require_eq_ok {p : α → Prop} [DecidablePred p] {e : α → Failure} {l : List α} :
    l.forM (fun a => require (p a) (e a)) = .ok ⟨⟩ ↔ ∀ a ∈ l, p a := by
  simp only [forM_eq_ok, require_eq_ok_iff]

end Peeling

end TravelPlanAgent
