import Mathlib.Algebra.GroupWithZero.Nat
import Mathlib.Data.Int.Order.Basic
import Mathlib.Data.Nat.Basic
import Mathlib.Order.Lattice

/-!
# Dates, times of day and instants

The proleptic Gregorian calendar as far as a scheduler needs it.  A `Date` is the number of
days since 0001-01-01, so that order and distance are those of numbers; the year, month and
day are read off when the date is written.  A `DateTime` is an instant together with the UTC
offset it is written with, and two of them are compared as instants.

* `civil` / `civil_spec`: the year, the month and the day of a date, and the way back.
* `Date.isoformat`, `Date.fromisoformat`: the text of a date.
* `Date.fromisoformat_isoformat`: reading the text of a date gives the date.
* `DateTime.combine`, `DateTime.add`: wall clock to instant, and moving an instant.
-/

namespace Calendar

/-! ## Years and months -/

/-- Leap years of the Gregorian calendar. -/
def isLeap (year : ℕ) : Bool :=
  year % 4 = 0 ∧ (year % 100 ≠ 0 ∨ year % 400 = 0)

/-- The lengths of the twelve months. -/
def monthLengths (leap : Bool) : List ℕ :=
  [31, if leap then 29 else 28, 31, 30, 31, 30, 31, 31, 30, 31, 30, 31]

/-- The number of days in the first `years` years. -/
def daysBeforeYear (years : ℕ) : ℕ :=
  365 * years + years / 4 - years / 100 + years / 400

/-- The number of complete years before day `n`, and the day of the year. -/
def splitYear (n : ℕ) : ℕ × ℕ :=
  let cycles := n / 146097
  let r := n % 146097
  let centuries := min (r / 36524) 3
  let r := r - centuries * 36524
  let fours := r / 1461
  let r := r % 1461
  let ones := min (r / 365) 3
  (400 * cycles + 100 * centuries + 4 * fours + ones, r - ones * 365)

/-- Which of the consecutive lengths position `n` falls into, and how far into it. -/
def locate : List ℕ → ℕ → ℕ × ℕ
  | [], n => (0, n)
  | len :: rest, n =>
    if n < len then (0, n) else ((locate rest (n - len)).1 + 1, (locate rest (n - len)).2)

theorem sum_take_locate (lens : List ℕ) (n : ℕ) :
    (lens.take (locate lens n).1).sum + (locate lens n).2 = n := by
  induction lens generalizing n with
  | nil => simp [locate]
  | cons len rest ih =>
    by_cases h : n < len
    · simp [locate, h]
    · have hrest := ih (n - len)
      simp only [locate, h, ↓reduceIte, List.take_succ_cons, List.sum_cons]
      omega

theorem splitYear_spec (n : ℕ) :
    daysBeforeYear (splitYear n).1 + (splitYear n).2 = n := by
  simp only [splitYear, daysBeforeYear]
  generalize hr : n % 146097 = r
  have hr' : r < 146097 := by omega
  generalize hb : min (r / 36524) 3 = b
  generalize hs : r - b * 36524 = s
  have hs' : s ≤ 36524 := by omega
  generalize hc : s / 1461 = c
  generalize ht : s % 1461 = t
  generalize hd : min (t / 365) 3 = d
  generalize ha : n / 146097 = a
  have hy4 : (400 * a + 100 * b + 4 * c + d) / 4 = 100 * a + 25 * b + c := by omega
  have hy100 : (400 * a + 100 * b + 4 * c + d) / 100 = 4 * a + b := by omega
  have hy400 : (400 * a + 100 * b + 4 * c + d) / 400 = a := by omega
  rw [hy4, hy100, hy400]
  omega

/-- The year, the month and the day of day number `n`, counted from 0001-01-01. -/
def civil (n : ℕ) : ℕ × ℕ × ℕ :=
  let (years, dayOfYear) := splitYear n
  let (month, day) := locate (monthLengths (isLeap (years + 1))) dayOfYear
  (years + 1, month + 1, day + 1)

/-- The day number of a year, a month and a day. -/
def ofCivil (year month day : ℕ) : ℕ :=
  daysBeforeYear (year - 1) + ((monthLengths (isLeap year)).take (month - 1)).sum + (day - 1)

/-- A day number is recovered from its year, month and day. -/
theorem civil_spec (n : ℕ) : ofCivil (civil n).1 (civil n).2.1 (civil n).2.2 = n := by
  simp only [civil, ofCivil, Nat.add_sub_cancel]
  have hmonth := sum_take_locate
    (monthLengths (isLeap ((splitYear n).1 + 1))) (splitYear n).2
  have hyear := splitYear_spec n
  omega

/-! ## Decimal fields -/

/-- Decimal digits, padded with zeros on the left. -/
def padded (width n : ℕ) : List Char :=
  List.replicate (width - (Nat.toDigits 10 n).length) '0' ++ Nat.toDigits 10 n

theorem ofDigitChars_padded (width n : ℕ) : Nat.ofDigitChars 10 (padded width n) 0 = n := by
  rw [padded, Nat.ofDigitChars_append, Nat.ofDigitChars_replicate_zero, Nat.mul_zero,
    Nat.ofDigitChars_ten_toDigits]

theorem isDigit_of_mem_padded {width n : ℕ} {c : Char} (h : c ∈ padded width n) :
    c.isDigit = true := by
  rw [padded, List.mem_append, List.mem_replicate] at h
  rcases h with ⟨_, rfl⟩ | h
  · decide
  · exact Nat.isDigit_of_mem_toDigits (by decide) (by decide) h

theorem ne_dash_of_mem_padded {width n : ℕ} {c : Char} (h : c ∈ padded width n) : c ≠ '-' := by
  rintro rfl
  exact absurd (isDigit_of_mem_padded h) (by decide)

/-- The decimal field before the next dash, and what follows the dash. -/
def dashField (cs : List Char) : ℕ × List Char :=
  (Nat.ofDigitChars 10 (cs.takeWhile (· ≠ '-')) 0, (cs.dropWhile (· ≠ '-')).drop 1)

theorem dashField_padded (width n : ℕ) (rest : List Char) :
    dashField (padded width n ++ '-' :: rest) = (n, rest) := by
  have hall : ∀ c ∈ padded width n, decide (c ≠ '-') = true := fun c hc =>
    decide_eq_true (ne_dash_of_mem_padded hc)
  rw [dashField, List.takeWhile_append_of_pos hall, List.dropWhile_append_of_pos hall]
  simp [ofDigitChars_padded]

theorem dashField_padded_end (width n : ℕ) : dashField (padded width n) = (n, []) := by
  have hall : ∀ c ∈ padded width n, decide (c ≠ '-') = true := fun c hc =>
    decide_eq_true (ne_dash_of_mem_padded hc)
  rw [dashField, ← List.append_nil (padded width n), List.takeWhile_append_of_pos hall,
    List.dropWhile_append_of_pos hall]
  simp [ofDigitChars_padded]

/-! ## Dates -/

/-- A day of the proleptic Gregorian calendar. -/
structure Date where
  /-- Days since 0001-01-01. -/
  days : ℕ
  deriving DecidableEq, Inhabited

namespace Date

theorem days_injective : Function.Injective Date.days := fun a b h => by
  cases a; cases b; simpa using h

instance : LinearOrder Date := LinearOrder.lift' Date.days days_injective

theorem le_iff {a b : Date} : a ≤ b ↔ a.days ≤ b.days := Iff.rfl

theorem lt_iff {a b : Date} : a < b ↔ a.days < b.days := Iff.rfl

/-- The date with this year, month and day. -/
def ofYmd (year month day : ℕ) : Date := ⟨ofCivil year month day⟩

/-- `n` days later. -/
def addDays (d : Date) (n : ℕ) : Date := ⟨d.days + n⟩

/-- Monday is `0`. -/
def weekday (d : Date) : ℕ := d.days % 7

/-- `YYYY-MM-DD`. -/
def isoformat (d : Date) : String :=
  let (year, month, day) := civil d.days
  String.ofList (padded 4 year ++ '-' :: (padded 2 month ++ '-' :: padded 2 day))

/-- The text of a date is made of digits and dashes. -/
theorem mem_isoformat {d : Date} {c : Char} (h : c ∈ d.isoformat.toList) :
    c.isDigit = true ∨ c = '-' := by
  simp only [isoformat, String.toList_ofList, List.mem_append, List.mem_cons] at h
  rcases h with h | h | h | h | h
  · exact .inl (isDigit_of_mem_padded h)
  · exact .inr h
  · exact .inl (isDigit_of_mem_padded h)
  · exact .inr h
  · exact .inl (isDigit_of_mem_padded h)

/-- The date whose text this is, if there is one. -/
def fromisoformat (s : String) : Option Date :=
  let (year, rest) := dashField s.toList
  let (month, rest) := dashField rest
  let (day, _) := dashField rest
  let d := ofYmd year month day
  if d.isoformat = s then some d else none

/-- Reading the text of a date gives the date. -/
theorem fromisoformat_isoformat (d : Date) : fromisoformat d.isoformat = some d := by
  have hd : ofYmd (civil d.days).1 (civil d.days).2.1 (civil d.days).2.2 = d := by
    rw [ofYmd, civil_spec]
  simp only [fromisoformat, isoformat, String.toList_ofList, dashField_padded,
    dashField_padded_end]
  rw [hd, if_pos rfl]

theorem isoformat_eq_of_fromisoformat {s : String} {d : Date} (h : fromisoformat s = some d) :
    d.isoformat = s := by
  simp only [fromisoformat] at h
  split at h
  · next heq => rw [← Option.some.inj h]; exact heq
  · exact absurd h (by simp)

theorem isoformat_injective : Function.Injective isoformat := fun a b h => by
  have ha := fromisoformat_isoformat a
  rw [h, fromisoformat_isoformat] at ha
  exact (Option.some.inj ha).symm

theorem isoformat_inj {a b : Date} : a.isoformat = b.isoformat ↔ a = b :=
  isoformat_injective.eq_iff

example : (ofYmd 2026 10 1).isoformat = "2026-10-01" := by decide

/-- The dates from `first` to `last`, both included. -/
def range (first last : Date) : List Date :=
  (List.range (last.days + 1 - first.days)).map first.addDays

theorem mem_range {first last d : Date} : d ∈ range first last ↔ first ≤ d ∧ d ≤ last := by
  simp only [range, List.mem_map, List.mem_range, le_iff, addDays]
  constructor
  · rintro ⟨i, hi, rfl⟩
    constructor <;> dsimp only <;> omega
  · rintro ⟨hfirst, hlast⟩
    refine ⟨d.days - first.days, by omega, ?_⟩
    cases d
    simp only [Date.mk.injEq] at *
    omega

end Date

/-! ## Times of day and instants -/

/-- One day in microseconds. -/
def dayMicros : ℕ := 86400000000

/-- A wall-clock time. -/
structure TimeOfDay where
  /-- Microseconds since midnight. -/
  micros : ℕ
  lt_day : micros < dayMicros
  deriving DecidableEq

namespace TimeOfDay

theorem micros_injective : Function.Injective TimeOfDay.micros := fun a b h => by
  cases a; cases b; simpa using h

instance : LinearOrder TimeOfDay := LinearOrder.lift' TimeOfDay.micros micros_injective

theorem lt_iff {a b : TimeOfDay} : a < b ↔ a.micros < b.micros := Iff.rfl

/-- Hours, minutes and days of a month can be written as numerals. -/
instance neZeroHours : NeZero 24 := ⟨by decide⟩

instance neZeroMinutes : NeZero 60 := ⟨by decide⟩

instance neZeroDays : NeZero 31 := ⟨by decide⟩

/-- `hour:minute` on the wall clock. -/
def ofHourMinute (hour : Fin 24) (minute : Fin 60) : TimeOfDay :=
  ⟨(hour * 60 + minute) * 60000000, by
    have := hour.isLt
    have := minute.isLt
    unfold dayMicros
    omega⟩

end TimeOfDay

/-- One minute in microseconds. -/
def minuteMicros : ℤ := 60000000

/-- An instant, together with the fixed UTC offset it is written with. -/
structure DateTime where
  /-- Microseconds since 0001-01-01T00:00 UTC. -/
  instant : ℤ
  /-- UTC offset in microseconds. -/
  offset : ℤ
  deriving DecidableEq

namespace DateTime

/-- The instant at which a wall clock with this offset shows this date and time. -/
def combine (d : Date) (t : TimeOfDay) (offset : ℤ) : DateTime :=
  ⟨d.days * dayMicros + t.micros - offset, offset⟩

/-- The instant `minutes` later, on the same wall clock. -/
def addMinutes (dt : DateTime) (minutes : ℤ) : DateTime :=
  ⟨dt.instant + minutes * minuteMicros, dt.offset⟩

/-- The date on the wall clock. -/
def date (dt : DateTime) : Date := ⟨((dt.instant + dt.offset) / dayMicros).toNat⟩

/-- The later of two instants, the first one when they coincide. -/
def later (a b : DateTime) : DateTime := if a.instant < b.instant then b else a

/-- The earlier of two instants, the first one when they coincide. -/
def earlier (a b : DateTime) : DateTime := if b.instant < a.instant then b else a

@[simp] theorem offset_combine (d : Date) (t : TimeOfDay) (o : ℤ) :
    (combine d t o).offset = o := rfl

@[simp] theorem offset_addMinutes (dt : DateTime) (m : ℤ) :
    (dt.addMinutes m).offset = dt.offset := rfl

@[simp] theorem instant_addMinutes (dt : DateTime) (m : ℤ) :
    (dt.addMinutes m).instant = dt.instant + m * minuteMicros := rfl

theorem instant_later (a b : DateTime) : (later a b).instant = max a.instant b.instant := by
  unfold later
  split <;> omega

theorem instant_earlier (a b : DateTime) :
    (earlier a b).instant = min a.instant b.instant := by
  unfold earlier
  split <;> omega

theorem offset_later {a b : DateTime} (h : a.offset = b.offset) :
    (later a b).offset = a.offset := by
  unfold later
  split
  · exact h.symm
  · rfl

/-- `YYYY-MM-DDTHH:MM:SS.ffffff+HH:MM`; the fraction is left out when it is zero. -/
def isoformat (dt : DateTime) : String :=
  let wall := dt.instant + dt.offset
  let micros := (wall % dayMicros).toNat
  let seconds := micros / 1000000
  let fraction := micros % 1000000
  let zone := (dt.offset.natAbs / 60000000)
  dt.date.isoformat ++ String.ofList
    ('T' :: padded 2 (seconds / 3600) ++ ':' :: padded 2 (seconds / 60 % 60) ++
      ':' :: padded 2 (seconds % 60) ++
      (if fraction = 0 then [] else '.' :: padded 6 fraction) ++
      (if dt.offset < 0 then '-' else '+') :: padded 2 (zone / 60) ++
      ':' :: padded 2 (zone % 60))

end DateTime

end Calendar
