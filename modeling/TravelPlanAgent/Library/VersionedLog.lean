import Mathlib.Data.List.Chain
import Mathlib.Data.Nat.Notation

/-!
# A register with versions

A register is written by compare-and-set on a version that every write increments.  The values
that it held, newest first, are then counted, and a write that succeeds was computed from the
current value and from no other, although it only compared versions.

* `Counted`: each value has the version after the value below it.
* `Counted.eq_of_version`: a version names one value of the log.
* `Counted.read_eq`: no lost update.
* `Counted.push`: a write keeps the log counted.
-/

universe u

namespace VersionedLog

variable {α : Type u} {version : α → ℕ} {log : List α}

/-- Each value, newest first, has the version after the value below it. -/
def Counted (version : α → ℕ) (log : List α) : Prop :=
  log.IsChain fun newer older => version newer = version older + 1

theorem counted_singleton (value : α) : Counted version [value] := List.isChain_singleton value

theorem Counted.tail {value : α} (h : Counted version (value :: log)) : Counted version log :=
  List.IsChain.tail h

/-- Older values have smaller versions. -/
theorem Counted.lt_of_mem {newest value : α} (h : Counted version (newest :: log))
    (hmem : value ∈ log) : version value < version newest := by
  induction log generalizing newest with
  | nil => exact absurd hmem List.not_mem_nil
  | cons next rest ih =>
    have hnext : version newest = version next + 1 := (List.isChain_cons_cons.mp h).1
    rcases List.mem_cons.mp hmem with rfl | hrest
    · omega
    · have := ih h.tail hrest
      omega

/-- A version names one value of the log. -/
theorem Counted.eq_of_version (h : Counted version log) {a b : α} (ha : a ∈ log) (hb : b ∈ log)
    (heq : version a = version b) : a = b := by
  induction log with
  | nil => exact absurd ha List.not_mem_nil
  | cons newest rest ih =>
    rcases List.mem_cons.mp ha with rfl | ha' <;> rcases List.mem_cons.mp hb with rfl | hb'
    · rfl
    · exact absurd heq (h.lt_of_mem hb').ne'
    · exact absurd heq (h.lt_of_mem ha').ne
    · exact ih h.tail ha' hb'

/-- No lost update: a value that was read and still has the current version is current. -/
theorem Counted.read_eq (h : Counted version log) {current read : α}
    (hcurrent : log.head? = some current) (hread : read ∈ log)
    (heq : version current = version read) : read = current :=
  h.eq_of_version hread (List.mem_of_mem_head? hcurrent) heq.symm

/-- A write of the next version keeps the log counted. -/
theorem Counted.push (h : Counted version log) {current written : α}
    (hcurrent : log.head? = some current) (hversion : version written = version current + 1) :
    Counted version (written :: log) := by
  cases log with
  | nil => cases hcurrent
  | cons newest rest =>
    cases hcurrent
    exact List.isChain_cons_cons.mpr ⟨hversion, h⟩

end VersionedLog
