import Mathlib.Logic.Relation
import Mathlib.Order.Basic
import Mathlib.Data.Nat.Notation

/-!
# Deterministic machines that halt or fail

A machine takes a state to the next one, fails with an error, or has halted.  `Machine.run`
allows it a number of steps and aborts when they are used up.

* `Machine.Steps`, `Machine.Reaches`: the states after some steps.
* `Machine.Reaches.preserves`: what every step preserves holds wherever the machine gets.
* `Machine.run_eq_ok_iff`: a run ends well exactly when the machine halts in time.
* `Machine.Steps.length_le`: a rank that every step lowers bounds the number of steps.
* `Machine.Steps.length_le_or`: the same until something has happened.
* `Machine.FollowsOrFails.run_eq`: a machine that follows another one ends where that one ends, or
  fails on the way.
-/

universe u v w

/-- A machine over the states `σ` that fails with errors `ε`; `none` is a halt. -/
structure Machine (σ : Type u) (ε : Type v) where
  step : σ → Option (Except ε σ)

namespace Machine

variable {σ : Type u} {ε : Type v} {τ : Type w} (m : Machine σ ε)

/-! ## Steps -/

/-- One successful step. -/
def Next (a b : σ) : Prop := m.step a = some (.ok b)

/-- The machine stops in a state. -/
def Halted (a : σ) : Prop := m.step a = none

/-- The machine takes exactly `n` steps from one state to another. -/
inductive Steps (a : σ) : ℕ → σ → Prop where
  | refl : Steps a 0 a
  | snoc {n : ℕ} {b c : σ} : Steps a n b → m.Next b c → Steps a (n + 1) c

/-- The machine gets from one state to another. -/
def Reaches (a b : σ) : Prop := ∃ n, m.Steps a n b

variable {m} {a b c : σ}

theorem Steps.cons {n : ℕ} (hfirst : m.Next a b) (h : m.Steps b n c) : m.Steps a (n + 1) c := by
  induction h with
  | refl => exact .snoc .refl hfirst
  | snoc _ hlast ih => exact .snoc ih hlast

theorem Steps.trans {k n : ℕ} (hfirst : m.Steps a k b) (h : m.Steps b n c) :
    m.Steps a (k + n) c := by
  induction h with
  | refl => exact hfirst
  | snoc _ hlast ih => exact .snoc ih hlast

/-- Steps are determined by their number. -/
theorem Steps.deterministic {n : ℕ} (hb : m.Steps a n b) (hc : m.Steps a n c) : b = c := by
  induction hb generalizing c with
  | refl => cases hc; rfl
  | snoc _ hlast ih =>
    obtain _ | ⟨hrest, hlast'⟩ := hc
    have heq := ih hrest
    subst heq
    rw [Next] at hlast hlast'
    rw [hlast] at hlast'
    exact Except.ok.inj (Option.some.inj hlast')

theorem Reaches.refl (a : σ) : m.Reaches a a := ⟨0, .refl⟩

theorem Reaches.next (h : m.Reaches a b) (hlast : m.Next b c) : m.Reaches a c := by
  obtain ⟨n, hn⟩ := h
  exact ⟨n + 1, hn.snoc hlast⟩

theorem Reaches.trans (hfirst : m.Reaches a b) (h : m.Reaches b c) : m.Reaches a c := by
  obtain ⟨k, hk⟩ := hfirst
  obtain ⟨n, hn⟩ := h
  exact ⟨k + n, hk.trans hn⟩

/-- Follow a run from its start. -/
theorem Reaches.induction {motive : σ → Prop} (h : m.Reaches a b) (start : motive a)
    (step : ∀ b c, m.Reaches a b → motive b → m.Next b c → motive c) : motive b := by
  obtain ⟨n, hn⟩ := h
  induction hn with
  | refl => exact start
  | snoc hprefix hlast ih => exact step _ _ ⟨_, hprefix⟩ ih hlast

/-- What every step preserves holds wherever the machine gets. -/
theorem Reaches.preserves {motive : σ → Prop} (h : m.Reaches a b) (start : motive a)
    (step : ∀ b c, motive b → m.Next b c → motive c) : motive b :=
  h.induction start fun b c _ => step b c

/-- A run that is not over yet goes on through a first step. -/
theorem Reaches.head (h : m.Reaches a b) : a = b ∨ ∃ c, m.Next a c ∧ m.Reaches c b := by
  refine h.preserves (motive := fun b => a = b ∨ ∃ c, m.Next a c ∧ m.Reaches c b) (.inl rfl)
    fun b c ih hlast => ?_
  obtain rfl | ⟨d, hfirst, hrest⟩ := ih
  · exact .inr ⟨c, hlast, .refl c⟩
  · exact .inr ⟨d, hfirst, hrest.next hlast⟩

/-- Two states of one run: one of them comes first. -/
theorem Reaches.total {d : σ} (hb : m.Reaches a b) (hd : m.Reaches a d) :
    m.Reaches b d ∨ m.Reaches d b := by
  refine hb.preserves (motive := fun b => m.Reaches b d ∨ m.Reaches d b) (.inl hd)
    fun b c ih hlast => ?_
  obtain hbd | hdb := ih
  · obtain rfl | ⟨e, hfirst, hrest⟩ := hbd.head
    · exact .inr ((Reaches.refl b).next hlast)
    · rw [Next] at hlast hfirst
      rw [hlast] at hfirst
      obtain rfl := Except.ok.inj (Option.some.inj hfirst)
      exact .inl hrest
  · exact .inr (hdb.next hlast)

/-! ## Counting steps -/

/-- A rank that every step lowers bounds the number of steps. -/
theorem Steps.length_le {rank : σ → ℕ}
    (lowers : ∀ b c, m.Reaches a b → m.Next b c → rank c + 1 ≤ rank b)
    {n : ℕ} (h : m.Steps a n b) : n + rank b ≤ rank a := by
  induction h with
  | refl => exact Nat.le_of_eq (Nat.zero_add _)
  | snoc hprefix hlast ih =>
    have hlower := lowers _ _ ⟨_, hprefix⟩ hlast
    omega

/-- A rank that every step lowers until something has happened bounds the number of steps before
it happens. -/
theorem Steps.length_le_or {rank : σ → ℕ} {happened : σ → Prop}
    (stays : ∀ b c, m.Reaches a b → m.Next b c → happened b → happened c)
    (lowers : ∀ b c, m.Reaches a b → m.Next b c → happened c ∨ rank c + 1 ≤ rank b)
    {n : ℕ} (h : m.Steps a n b) : happened b ∨ n + rank b ≤ rank a := by
  induction h with
  | refl => exact .inr (Nat.le_of_eq (Nat.zero_add _))
  | snoc hbefore hlast ih =>
    rcases ih with hseen | hle
    · exact .inl (stays _ _ ⟨_, hbefore⟩ hlast hseen)
    · rcases lowers _ _ ⟨_, hbefore⟩ hlast with hseen | hlower
      · exact .inl hseen
      · exact .inr (by omega)

/-! ## Bounded runs -/

variable (m)

/-- Run for at most `n` steps. -/
def run (abort : ε) : ℕ → σ → Except ε σ
  | 0, a => match m.step a with
    | none => .ok a
    | some _ => .error abort
  | n + 1, a => match m.step a with
    | none => .ok a
    | some after => after >>= run abort n

variable {m} {abort : ε}

theorem run_of_halted (h : m.Halted a) (n : ℕ) : m.run abort n a = .ok a := by
  rw [Halted] at h
  cases n <;> rw [run, h]

theorem run_of_next (h : m.Next a b) (n : ℕ) : m.run abort (n + 1) a = m.run abort n b := by
  rw [Next] at h
  rw [run, h]
  rfl

theorem run_of_error {e : ε} (h : m.step a = some (.error e)) (n : ℕ) :
    m.run abort (n + 1) a = .error e := by
  rw [run, h]
  rfl

theorem run_zero_of_step {after : Except ε σ} (h : m.step a = some after) :
    m.run abort 0 a = .error abort := by
  rw [run, h]

/-- A run ends well exactly when the machine halts in time. -/
theorem run_eq_ok_iff {n : ℕ} :
    m.run abort n a = .ok b ↔ ∃ k ≤ n, m.Steps a k b ∧ m.Halted b := by
  constructor
  · intro h
    induction n generalizing a with
    | zero =>
      cases hstep : m.step a with
      | none =>
        rw [run_of_halted hstep] at h
        obtain rfl := Except.ok.inj h
        exact ⟨0, Nat.le_refl 0, .refl, hstep⟩
      | some after => exact absurd h (by rw [run_zero_of_step hstep]; nofun)
    | succ n ih =>
      cases hstep : m.step a with
      | none =>
        rw [run_of_halted hstep] at h
        obtain rfl := Except.ok.inj h
        exact ⟨0, Nat.zero_le _, .refl, hstep⟩
      | some after =>
        cases after with
        | error e => exact absurd h (by rw [run_of_error hstep]; nofun)
        | ok c =>
          rw [run_of_next hstep] at h
          obtain ⟨k, hk, hsteps, hhalted⟩ := ih h
          exact ⟨k + 1, by omega, .cons hstep hsteps, hhalted⟩
  · rintro ⟨k, hk, hsteps, hhalted⟩
    obtain ⟨spare, rfl⟩ := Nat.exists_eq_add_of_le hk
    suffices h : ∀ spare, m.run abort (k + spare) a = m.run abort spare b by
      rw [h, run_of_halted hhalted]
    clear hhalted hk
    induction hsteps with
    | refl => exact fun spare => by rw [Nat.zero_add]
    | @snoc n b c _ hlast ih =>
      intro spare
      rw [show n + 1 + spare = n + (spare + 1) by omega, ih, run_of_next hlast]

theorem reaches_of_run {n : ℕ} (h : m.run abort n a = .ok b) : m.Reaches a b ∧ m.Halted b := by
  obtain ⟨k, _, hsteps, hhalted⟩ := run_eq_ok_iff.mp h
  exact ⟨⟨k, hsteps⟩, hhalted⟩

/-- The state after exactly `n` successful steps, if there are as many. -/
def afterSteps (m : Machine σ ε) : ℕ → σ → Option σ
  | 0, a => some a
  | n + 1, a => (m.step a).bind fun outcome => outcome.toOption.bind (afterSteps m n)

theorem reaches_of_afterSteps {n : ℕ} (h : m.afterSteps n a = some b) : m.Reaches a b := by
  induction n generalizing a with
  | zero =>
    obtain rfl := Option.some.inj h
    exact .refl a
  | succ n ih =>
    obtain ⟨outcome, hstep, h⟩ := Option.bind_eq_some_iff.mp h
    cases outcome with
    | error e => cases h
    | ok c =>
      obtain ⟨k, hk⟩ := ih h
      exact ⟨k + 1, hk.cons hstep⟩

/-! ## Two machines -/

/-- A machine follows another one: related states halt together, and a successful step of the
first is matched by a step of the second to related states. -/
structure Follows (m : Machine σ ε) (m' : Machine τ ε) (related : σ → τ → Prop) : Prop where
  halted : ∀ {a : σ} {a' : τ}, related a a' → m.Halted a → m'.Halted a'
  next : ∀ {a b : σ} {a' : τ}, related a a' → m.Next a b →
    ∃ b', m'.Next a' b' ∧ related b b'

/-- A machine follows another one as above, or fails for one of some reasons. -/
structure FollowsOrFails (m : Machine σ ε) (m' : Machine τ ε) (related : σ → τ → Prop)
    (failing : τ → ε → Prop) : Prop where
  halted : ∀ {a : σ} {a' : τ}, related a a' → m.Halted a → m'.Halted a'
  next : ∀ {a b : σ} {a' : τ}, related a a' → m.Next a b →
    (∃ b', m'.Next a' b' ∧ related b b') ∨ ∃ e, m'.step a' = some (.error e) ∧ failing a' e

/-- A machine that follows another one ends where that one ends, or fails on the way. -/
theorem FollowsOrFails.run_eq {m' : Machine τ ε} {related : σ → τ → Prop}
    {failing : τ → ε → Prop} (follows : m.FollowsOrFails m' related failing) {n : ℕ} {a' : τ}
    (hstart : related a a') (h : m.run abort n a = .ok b) :
    (∃ b', m'.run abort n a' = .ok b' ∧ related b b') ∨
      ∃ c e, m'.Reaches a' c ∧ failing c e ∧ m'.run abort n a' = .error e := by
  induction n generalizing a a' with
  | zero =>
    cases hstep : m.step a with
    | none =>
      rw [run_of_halted hstep] at h
      obtain rfl := Except.ok.inj h
      exact .inl ⟨a', run_of_halted (follows.halted hstart hstep) 0, hstart⟩
    | some after =>
      rw [run_zero_of_step hstep] at h
      cases h
  | succ n ih =>
    cases hstep : m.step a with
    | none =>
      rw [run_of_halted hstep] at h
      obtain rfl := Except.ok.inj h
      exact .inl ⟨a', run_of_halted (follows.halted hstart hstep) _, hstart⟩
    | some after =>
      cases after with
      | error e =>
        rw [run_of_error hstep] at h
        cases h
      | ok c =>
        rw [run_of_next hstep] at h
        obtain ⟨c', hnext, hrelated⟩ | ⟨e, hfails, hreason⟩ := follows.next hstart hstep
        · rw [run_of_next hnext]
          obtain hok | ⟨d, e, ⟨k, hk⟩, hreason, herror⟩ := ih hrelated h
          · exact .inl hok
          · exact .inr ⟨d, e, ⟨k + 1, hk.cons hnext⟩, hreason, herror⟩
        · exact .inr ⟨a', e, .refl a', hreason, run_of_error hfails n⟩

/-- A machine that follows another one ends where that one ends. -/
theorem Follows.run_eq_ok {m' : Machine τ ε} {related : σ → τ → Prop}
    (follows : m.Follows m' related) {n : ℕ} {a' : τ} (hstart : related a a')
    (h : m.run abort n a = .ok b) : ∃ b', m'.run abort n a' = .ok b' ∧ related b b' := by
  have hfollows : m.FollowsOrFails m' related fun _ _ => False :=
    ⟨follows.halted, fun hrelated hnext => .inl (follows.next hrelated hnext)⟩
  obtain hok | ⟨c, e, -, hfalse, -⟩ := hfollows.run_eq hstart h
  · exact hok
  · exact hfalse.elim

end Machine
