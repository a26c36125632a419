import Mathlib.Logic.Function.Basic
import Mathlib.Logic.Relation

/-!
# Programs that share a store

A program takes atomic steps on a store, and other programs take theirs in between.  A step waits
until the store is ready for it and leaves notes for an observer; no program reads them.

* `Prog`: the programs, a monad with exceptions; `Prog.perform`, `Prog.waitFor`: single steps.
* `Prog.alone`: a program by itself.
* `World.advance`, `World.Run`: some programs side by side, one step of one of them at a time.
* `Discipline`: an invariant of the store, what each program may do to it, and what each program
  relies on about the others.
* `Prog.Meets`: a program keeps a discipline and ends with a postcondition.
* `Discipline.ofInv`: the discipline of an invariant and the notes of each program.
* `Prog.Meets.bind`, `Prog.meets_perform_bind`: the rules for programs.
* `Prog.Always`: every step of a program is of a kind.
* `World.Run.sound`: programs that keep a discipline one by one keep it side by side.
-/

universe u

/-- A program over the store `σ` with notes `ν` that returns an `α` or fails with an `ε`. -/
inductive Prog (σ ν ε : Type) (α : Type) where
  | done (result : Except ε α)
  | step (ready : σ → Bool) (change : σ → σ) (notes : σ → List ν) (next : σ → Prog σ ν ε α)

namespace Prog

variable {σ ν ε α β : Type}

/-! ## The monad of programs -/

/-- Go on with the result of a program; a failure ends it. -/
def bind (p : Prog σ ν ε α) (f : α → Prog σ ν ε β) : Prog σ ν ε β :=
  match p with
  | done (.ok a) => f a
  | done (.error e) => done (.error e)
  | step ready change notes next => step ready change notes fun s => (next s).bind f

/-- Handle the failure of a program. -/
def tryCatch (p : Prog σ ν ε α) (handler : ε → Prog σ ν ε α) : Prog σ ν ε α :=
  match p with
  | done (.ok a) => done (.ok a)
  | done (.error e) => handler e
  | step ready change notes next => step ready change notes fun s => (next s).tryCatch handler

instance : Monad (Prog σ ν ε) where
  pure a := done (.ok a)
  bind := bind

instance : MonadExcept ε (Prog σ ν ε) where
  throw e := done (.error e)
  tryCatch := tryCatch

/-- One step that reads and changes the store, with notes about it. -/
def perform (run : σ → Except ε α × σ) (notes : σ → List ν) : Prog σ ν ε α :=
  step (fun _ => true) (fun s => (run s).2) notes fun s => done (run s).1

/-- One step that only reads. -/
def read (run : σ → Except ε α) : Prog σ ν ε α := perform (fun s => (run s, s)) fun _ => []

/-- One step that only leaves a note. -/
def note (n : ν) : Prog σ ν ε Unit := perform (fun s => (.ok (), s)) fun _ => [n]

/-- A step that waits for a condition. -/
def waitFor (ready : σ → Bool) : Prog σ ν ε Unit := step ready id (fun _ => []) fun _ => pure ()

/-- The result of a program that has ended. -/
def result? : Prog σ ν ε α → Option (Except ε α)
  | done result => some result
  | step .. => none

theorem done_ok_bind (a : α) (f : α → Prog σ ν ε β) : (done (.ok a) >>= f) = f a := rfl

/-- What a program does when no other one takes a step; nothing when it waits for ever. -/
def alone : Prog σ ν ε α → σ → Option (Except ε α × σ)
  | done result, s => some (result, s)
  | step ready change _ next, s => if ready s then (next s).alone (change s) else none

theorem alone_bind (p : Prog σ ν ε α) (f : α → Prog σ ν ε β) {s s' : σ} {a : α}
    (h : p.alone s = some (.ok a, s')) : (p >>= f).alone s = (f a).alone s' := by
  induction p generalizing s with
  | done result =>
    obtain ⟨rfl, rfl⟩ := Prod.mk.inj (Option.some.inj h)
    rfl
  | step ready change notes next ih =>
    rw [alone] at h
    change (if ready s then ((next s).bind f).alone (change s) else none) = _
    split
    · next hready =>
      rw [if_pos hready] at h
      exact ih s h
    · next hready =>
      rw [if_neg hready] at h
      cases h

theorem alone_bind_error (p : Prog σ ν ε α) (f : α → Prog σ ν ε β) {s s' : σ} {e : ε}
    (h : p.alone s = some (.error e, s')) : (p >>= f).alone s = some (.error e, s') := by
  induction p generalizing s with
  | done result =>
    obtain ⟨rfl, rfl⟩ := Prod.mk.inj (Option.some.inj h)
    rfl
  | step ready change notes next ih =>
    rw [alone] at h
    change (if ready s then ((next s).bind f).alone (change s) else none) = _
    split
    · next hready =>
      rw [if_pos hready] at h
      exact ih s h
    · next hready =>
      rw [if_neg hready] at h
      cases h

@[simp] theorem alone_pure (a : α) (s : σ) :
    (pure a : Prog σ ν ε α).alone s = some (.ok a, s) := rfl

@[simp] theorem alone_perform (run : σ → Except ε α × σ) (notes : σ → List ν) (s : σ) :
    (perform run notes).alone s = some ((run s).1, (run s).2) := rfl

@[simp] theorem alone_read (run : σ → Except ε α) (s : σ) :
    (read run : Prog σ ν ε α).alone s = some (run s, s) := rfl

theorem alone_read_bind (run : σ → Except ε α) {s : σ} {a : α} (h : run s = .ok a)
    (f : α → Prog σ ν ε β) : (read run >>= f).alone s = (f a).alone s :=
  alone_bind _ _ (by rw [alone_read, h])

end Prog

/-! ## Side by side -/

/-- What the programs share, and the notes taken so far. -/
structure Seen (ι σ ν : Type) where
  store : σ
  history : List (ι × ν)

/-- Some programs on a shared store. -/
structure World (ι σ ν ε α : Type) extends Seen ι σ ν where
  prog : ι → Prog σ ν ε α

variable {ι σ ν ε α β : Type}

namespace Seen

/-- A step of the program `i`. -/
def after (seen : Seen ι σ ν) (i : ι) (store : σ) (notes : List ν) : Seen ι σ ν :=
  ⟨store, seen.history ++ notes.map (Prod.mk i)⟩

@[simp] theorem store_after (seen : Seen ι σ ν) (i : ι) (store : σ) (notes : List ν) :
    (seen.after i store notes).store = store := rfl

@[simp] theorem history_after (seen : Seen ι σ ν) (i : ι) (store : σ) (notes : List ν) :
    (seen.after i store notes).history = seen.history ++ notes.map (Prod.mk i) := rfl

/-- The notes of the program `i`. -/
def own [DecidableEq ι] (seen : Seen ι σ ν) (i : ι) : List ν :=
  (seen.history.filter fun n => n.1 = i).map Prod.snd

variable [DecidableEq ι]

theorem mem_own {seen : Seen ι σ ν} {i : ι} {n : ν} : n ∈ seen.own i ↔ (i, n) ∈ seen.history := by
  simp [own]

theorem own_after (seen : Seen ι σ ν) (i : ι) (store : σ) (notes : List ν) :
    (seen.after i store notes).own i = seen.own i ++ notes := by
  simp [own, List.filter_append, List.filter_map, Function.comp_def]

theorem own_after_of_ne (seen : Seen ι σ ν) {i j : ι} (h : i ≠ j) (store : σ) (notes : List ν) :
    (seen.after i store notes).own j = seen.own j := by
  simp [own, List.filter_append, List.filter_map, Function.comp_def, h]

end Seen

namespace World

variable [DecidableEq ι]

/-- The program `i` takes its next step, if it has one and the store is ready for it. -/
def advance (w : World ι σ ν ε α) (i : ι) : Option (World ι σ ν ε α) :=
  match w.prog i with
  | .done _ => none
  | .step ready change notes next =>
    if ready w.store then
      some ⟨w.toSeen.after i (change w.store) (notes w.store),
        Function.update w.prog i (next w.store)⟩
    else none

/-- The programs take steps in the given order; a program that cannot is passed over. -/
def runAll (w : World ι σ ν ε α) (schedule : List ι) : World ι σ ν ε α :=
  schedule.foldl (fun w i => (w.advance i).getD w) w

/-- Some program takes a step that may be taken. -/
def Next (may : ι → Seen ι σ ν → Seen ι σ ν → Prop) (w w' : World ι σ ν ε α) : Prop :=
  ∃ i, may i w.toSeen w'.toSeen ∧ w.advance i = some w'

/-- The programs take any number of steps that may be taken. -/
def Run (may : ι → Seen ι σ ν → Seen ι σ ν → Prop) : World ι σ ν ε α → World ι σ ν ε α → Prop :=
  Relation.ReflTransGen (Next may)

/-- The step that a program takes. -/
theorem advance_eq_some {w w' : World ι σ ν ε α} {i : ι} (h : w.advance i = some w') :
    ∃ ready change notes next, w.prog i = .step ready change notes next ∧
      ready w.store = true ∧ w' = ⟨w.toSeen.after i (change w.store) (notes w.store),
        Function.update w.prog i (next w.store)⟩ := by
  unfold advance at h
  split at h
  · cases h
  next ready change notes next hprog =>
  split at h
  · next hready => exact ⟨ready, change, notes, next, hprog, hready, (Option.some.inj h).symm⟩
  · cases h

/-- A schedule is a run. -/
theorem run_runAll (w : World ι σ ν ε α) (schedule : List ι) :
    Run (fun _ _ _ => True) w (w.runAll schedule) := by
  induction schedule generalizing w with
  | nil => exact .refl
  | cons i schedule ih =>
    rw [runAll, List.foldl_cons]
    cases h : w.advance i with
    | none => exact ih w
    | some w' => exact .head ⟨i, trivial, h⟩ (ih w')

theorem Run.mono {may may' : ι → Seen ι σ ν → Seen ι σ ν → Prop} {w w' : World ι σ ν ε α}
    (h : Run may w w') (hmay : ∀ i a b, may i a b → may' i a b) : Run may' w w' :=
  Relation.ReflTransGen.mono (r := Next may) (p := Next may')
    (fun _ _ ⟨i, hi, hstep⟩ => ⟨i, hmay i _ _ hi, hstep⟩) w w' h

end World

/-! ## Disciplines -/

/-- An invariant, and what each program guarantees to the others and relies on. -/
structure Discipline (ι σ ν : Type) where
  inv : Seen ι σ ν → Prop
  guar : ι → Seen ι σ ν → Seen ι σ ν → Prop
  rely : ι → Seen ι σ ν → Seen ι σ ν → Prop
  /-- The steps that a program may take. -/
  may : ι → Seen ι σ ν → Seen ι σ ν → Prop
  rely_refl : ∀ i seen, rely i seen seen
  rely_trans : ∀ i a b c, rely i a b → rely i b c → rely i a c
  rely_of_guar : ∀ i j, i ≠ j → ∀ a b, inv a → inv b → guar i a b → rely j a b

/-- The discipline of an invariant: a program relies on its own notes only. -/
def Discipline.ofInv [DecidableEq ι] (inv : Seen ι σ ν → Prop)
    (may : ι → Seen ι σ ν → Seen ι σ ν → Prop) : Discipline ι σ ν where
  inv
  guar i a b := ∀ j, i ≠ j → b.own j = a.own j
  rely j a b := b.own j = a.own j
  may
  rely_refl _ _ := rfl
  rely_trans _ _ _ _ hab hbc := hbc.trans hab
  rely_of_guar _ j hij _ _ _ _ h := h j hij

namespace Prog

variable (D : Discipline ι σ ν) (i : ι) (post : Except ε α → Seen ι σ ν → Prop)

/-- The program, run as `i` from the given state on, keeps the discipline whatever the others do
that it relies on, and ends with the postcondition. -/
def Meets : Prog σ ν ε α → Seen ι σ ν → Prop
  | done result, seen => ∀ now, D.rely i seen now → D.inv now → post result now
  | step ready change notes next, seen =>
    ∀ now, D.rely i seen now → D.inv now → ready now.store = true →
      D.may i now (now.after i (change now.store) (notes now.store)) →
      D.inv (now.after i (change now.store) (notes now.store)) ∧
      D.guar i now (now.after i (change now.store) (notes now.store)) ∧
      (next now.store).Meets (now.after i (change now.store) (notes now.store))

variable {D i post} {p : Prog σ ν ε α} {seen now : Seen ι σ ν}

/-- What a program relies on does not disturb it. -/
theorem Meets.of_rely (h : p.Meets D i post seen) (hrely : D.rely i seen now) :
    p.Meets D i post now := by
  cases p with
  | done result => exact fun later hlater => h later (D.rely_trans i _ _ _ hrely hlater)
  | step ready change notes next =>
    exact fun later hlater => h later (D.rely_trans i _ _ _ hrely hlater)

theorem Meets.mono {post' : Except ε α → Seen ι σ ν → Prop} (h : p.Meets D i post seen)
    (hpost : ∀ result now, D.inv now → post result now → post' result now) :
    p.Meets D i post' seen := by
  induction p generalizing seen with
  | done result => exact fun now hrely hinv => hpost _ _ hinv (h now hrely hinv)
  | step ready change notes next ih =>
    intro now hrely hinv hready hmay
    obtain ⟨hinv', hguar, hnext⟩ := h now hrely hinv hready hmay
    exact ⟨hinv', hguar, ih _ hnext⟩

/-- A result that stays right is right. -/
theorem meets_done {result : Except ε α}
    (h : ∀ now, D.rely i seen now → D.inv now → post result now) :
    (done result : Prog σ ν ε α).Meets D i post seen := h

/-- One program after the other. -/
theorem Meets.bind {f : α → Prog σ ν ε β} {post' : Except ε β → Seen ι σ ν → Prop}
    (h : p.Meets D i post seen)
    (hok : ∀ a now, D.inv now → post (.ok a) now → (f a).Meets D i post' now)
    (herror : ∀ e now, D.inv now → post (.error e) now → post' (.error e) now)
    (hinv : D.inv seen) : (p >>= f).Meets D i post' seen := by
  induction p generalizing seen with
  | done result =>
    cases result with
    | ok a => exact hok a seen hinv (h seen (D.rely_refl i seen) hinv)
    | error e => exact fun now hrely hinv => herror e now hinv (h now hrely hinv)
  | step ready change notes next ih =>
    intro now hrely hinv hready hmay
    obtain ⟨hinv', hguar, hnext⟩ := h now hrely hinv hready hmay
    exact ⟨hinv', hguar, ih _ hnext hinv'⟩

/-- A program whose result is changed at the end. -/
theorem Meets.map {f : α → β} {post : Except ε β → Seen ι σ ν → Prop}
    (h : p.Meets D i (fun result now => post (result.map f) now) seen) :
    (p >>= fun a => pure (f a)).Meets D i post seen := by
  induction p generalizing seen with
  | done result =>
    cases result with
    | ok a => exact h
    | error e => exact h
  | step ready change notes next ih =>
    intro now hrely hinv hready hmay
    obtain ⟨hinv', hguar, hnext⟩ := h now hrely hinv hready hmay
    exact ⟨hinv', hguar, ih _ hnext⟩

/-- A program whose failure is handled. -/
theorem Meets.tryCatch {handler : ε → Prog σ ν ε α} {post' : Except ε α → Seen ι σ ν → Prop}
    (h : p.Meets D i post seen)
    (hok : ∀ a now, D.inv now → post (.ok a) now → post' (.ok a) now)
    (herror : ∀ e now, D.inv now → post (.error e) now → (handler e).Meets D i post' now)
    (hinv : D.inv seen) : (Prog.tryCatch p handler).Meets D i post' seen := by
  induction p generalizing seen with
  | done result =>
    cases result with
    | ok a => exact fun now hrely hinv => hok a now hinv (h now hrely hinv)
    | error e => exact herror e seen hinv (h seen (D.rely_refl i seen) hinv)
  | step ready change notes next ih =>
    intro now hrely hinv hready hmay
    obtain ⟨hinv', hguar, hnext⟩ := h now hrely hinv hready hmay
    exact ⟨hinv', hguar, ih _ hnext hinv'⟩

/-- A step, and the program that follows it. -/
theorem meets_perform_bind {run : σ → Except ε β × σ} {notes : σ → List ν}
    {f : β → Prog σ ν ε α}
    (h : ∀ now, D.rely i seen now → D.inv now →
      D.may i now (now.after i (run now.store).2 (notes now.store)) →
      D.inv (now.after i (run now.store).2 (notes now.store)) ∧
      D.guar i now (now.after i (run now.store).2 (notes now.store)) ∧
      ((done (run now.store).1 : Prog σ ν ε β) >>= f).Meets D i post
        (now.after i (run now.store).2 (notes now.store))) :
    (perform run notes >>= f).Meets D i post seen :=
  fun now hrely hinv _ hmay => h now hrely hinv hmay

/-- A step that only reads, and the program that follows it. -/
theorem meets_read_bind {run : σ → Except ε β} {f : β → Prog σ ν ε α}
    (hguar : ∀ now, D.inv now → D.guar i now now)
    (h : ∀ now, D.rely i seen now → D.inv now →
      ((done (run now.store) : Prog σ ν ε β) >>= f).Meets D i post now) :
    (read run >>= f).Meets D i post seen := by
  intro now hrely hinv _ _
  have hafter : now.after i now.store [] = now := by
    rw [Seen.after, List.map_nil, List.append_nil]
  refine ⟨?_, ?_, ?_⟩ <;> dsimp only <;> rw [hafter]
  · exact hinv
  · exact hguar now hinv
  · exact h now hrely hinv

/-- A step that waits for a condition, and the program that follows it. -/
theorem meets_waitFor_bind {ready : σ → Bool} {f : Unit → Prog σ ν ε α}
    (hguar : ∀ now, D.inv now → D.guar i now now)
    (h : ∀ now, D.rely i seen now → D.inv now → ready now.store = true →
      (f ()).Meets D i post now) :
    (waitFor ready >>= f).Meets D i post seen := by
  intro now hrely hinv hready _
  have hafter : now.after i now.store [] = now := by
    rw [Seen.after, List.map_nil, List.append_nil]
  refine ⟨?_, ?_, ?_⟩ <;> dsimp only [id] <;> rw [hafter]
  · exact hinv
  · exact hguar now hinv
  · exact h now hrely hinv hready

/-! ## Programs that rely on their own notes -/

section OfInv

variable [DecidableEq ι] {inv : Seen ι σ ν → Prop} {may : ι → Seen ι σ ν → Seen ι σ ν → Prop}

/-- A step that keeps the invariant, and the program that follows it. -/
theorem meets_perform_bind_ofInv {run : σ → Except ε β × σ} {notes : σ → List ν}
    {f : β → Prog σ ν ε α}
    (h : ∀ now, now.own i = seen.own i → inv now →
      may i now (now.after i (run now.store).2 (notes now.store)) →
      inv (now.after i (run now.store).2 (notes now.store)) ∧
      ((done (run now.store).1 : Prog σ ν ε β) >>= f).Meets (.ofInv inv may) i post
        (now.after i (run now.store).2 (notes now.store))) :
    (perform run notes >>= f).Meets (.ofInv inv may) i post seen := by
  refine meets_perform_bind fun now hrely hinv hmay => ?_
  obtain ⟨hafter, hrest⟩ := h now hrely hinv hmay
  exact ⟨hafter, fun j hij => now.own_after_of_ne hij _ _, hrest⟩

/-- A last step that keeps the invariant. -/
theorem meets_perform_ofInv {run : σ → Except ε α × σ} {notes : σ → List ν}
    (h : ∀ now, now.own i = seen.own i → inv now →
      may i now (now.after i (run now.store).2 (notes now.store)) →
      inv (now.after i (run now.store).2 (notes now.store)) ∧
      ∀ later : Seen ι σ ν, later.own i = now.own i ++ notes now.store → inv later →
        post (run now.store).1 later) :
    (perform run notes).Meets (.ofInv inv may) i post seen := by
  intro now hrely hinv _ hmay
  obtain ⟨hafter, hpost⟩ := h now hrely hinv hmay
  refine ⟨hafter, fun j hij => now.own_after_of_ne hij _ _, fun later hlater hinv' => ?_⟩
  exact hpost later (Eq.trans hlater (now.own_after i _ _)) hinv'

/-- A step that only reads, and the program that follows it. -/
theorem meets_read_bind_ofInv {run : σ → Except ε β} {f : β → Prog σ ν ε α}
    (h : ∀ now, now.own i = seen.own i → inv now →
      ((done (run now.store) : Prog σ ν ε β) >>= f).Meets (.ofInv inv may) i post now) :
    (read run >>= f).Meets (.ofInv inv may) i post seen :=
  meets_read_bind (fun _ _ _ _ => rfl) fun now hrely hinv => h now hrely hinv

end OfInv

/-! ## Programs that keep something in every step -/

/-- Every step of the program is of a kind, whatever the store is. -/
def Always (kind : σ → σ → List ν → Prop) : Prog σ ν ε α → Prop
  | done _ => True
  | step _ change notes next => ∀ s, kind s (change s) (notes s) ∧ (next s).Always kind

variable {kind : σ → σ → List ν → Prop}

theorem Always.bind {f : α → Prog σ ν ε β} (h : p.Always kind) (hf : ∀ a, (f a).Always kind) :
    (p >>= f).Always kind := by
  induction p with
  | done result =>
    cases result with
    | ok a => exact hf a
    | error e => trivial
  | step ready change notes next ih => exact fun s => ⟨(h s).1, ih s (h s).2⟩

theorem Always.tryCatch {handler : ε → Prog σ ν ε α} (h : p.Always kind)
    (hhandler : ∀ e, (handler e).Always kind) : (Prog.tryCatch p handler).Always kind := by
  induction p with
  | done result =>
    cases result with
    | ok a => trivial
    | error e => exact hhandler e
  | step ready change notes next ih => exact fun s => ⟨(h s).1, ih s (h s).2⟩

theorem always_perform {run : σ → Except ε α × σ} {notes : σ → List ν}
    (h : ∀ s, kind s (run s).2 (notes s)) : (perform run notes).Always kind :=
  fun s => ⟨h s, trivial⟩

theorem always_read {run : σ → Except ε α} (h : ∀ s, kind s s []) : (read run).Always kind :=
  fun s => ⟨h s, trivial⟩

/-- A program of harmless steps keeps a discipline. -/
theorem Always.meets (h : p.Always kind)
    (hkind : ∀ now s notes, D.inv now → kind now.store s notes →
      D.inv (now.after i s notes) ∧ D.guar i now (now.after i s notes)) :
    p.Meets D i (fun _ _ => True) seen := by
  induction p generalizing seen with
  | done result => exact fun _ _ _ => trivial
  | step ready change notes next ih =>
    intro now _ hinv _ _
    obtain ⟨hstep, hnext⟩ := h now.store
    obtain ⟨hinv', hguar⟩ := hkind now _ _ hinv hstep
    exact ⟨hinv', hguar, ih _ hnext⟩

/-- A program of silent steps keeps its own notes. -/
theorem Always.meets_silent [DecidableEq ι] {inv : Seen ι σ ν → Prop}
    {may : ι → Seen ι σ ν → Seen ι σ ν → Prop} (h : p.Always kind)
    (hkind : ∀ now s notes, inv now → kind now.store s notes →
      notes = [] ∧ inv (now.after i s notes)) :
    p.Meets (.ofInv inv may) i (fun _ now => now.own i = seen.own i) seen := by
  suffices hall : ∀ now : Seen ι σ ν, now.own i = seen.own i →
      p.Meets (.ofInv inv may) i (fun _ now => now.own i = seen.own i) now from hall seen rfl
  induction p with
  | done result => exact fun now hnow later hlater _ => Eq.trans hlater hnow
  | step ready change notes next ih =>
    intro now hnow later hlater hinv _ _
    obtain ⟨hstep, hnext⟩ := h later.store
    obtain ⟨hnotes, hinv'⟩ := hkind later _ _ hinv hstep
    refine ⟨hinv', fun j hij => later.own_after_of_ne hij _ _, ih _ hnext _ ?_⟩
    rw [hnotes, Seen.own_after, List.append_nil]
    exact Eq.trans hlater hnow

end Prog

namespace World

variable [DecidableEq ι] {D : Discipline ι σ ν} {post : ι → Except ε α → Seen ι σ ν → Prop}
  {w w' : World ι σ ν ε α}

/-- Every program of a world keeps the discipline from here on. -/
structure Disciplined (D : Discipline ι σ ν) (post : ι → Except ε α → Seen ι σ ν → Prop)
    (w : World ι σ ν ε α) : Prop where
  inv : D.inv w.toSeen
  meets : ∀ i, (w.prog i).Meets D i (post i) w.toSeen

theorem Disciplined.next (h : w.Disciplined D post) (hnext : Next D.may w w') :
    w'.Disciplined D post := by
  obtain ⟨i, hmay, hadvance⟩ := hnext
  obtain ⟨ready, change, notes, next, hprog, hready, rfl⟩ := advance_eq_some hadvance
  have hstep := h.meets i
  rw [hprog] at hstep
  obtain ⟨hinv, hguar, hrest⟩ := hstep _ (D.rely_refl i _) h.inv hready hmay
  refine ⟨hinv, fun j => ?_⟩
  by_cases hj : j = i
  · subst hj
    change Prog.Meets D j (post j) (Function.update w.prog j _ j) _
    rw [Function.update_self]
    exact hrest
  · change Prog.Meets D j (post j) (Function.update w.prog i _ j) _
    rw [Function.update_of_ne hj]
    exact (h.meets j).of_rely (D.rely_of_guar i j (Ne.symm hj) _ _ h.inv hinv hguar)

/-- Programs that keep a discipline one by one keep it side by side. -/
theorem Run.sound (h : Run D.may w w') (hstart : w.Disciplined D post) :
    w'.Disciplined D post := by
  induction h with
  | refl => exact hstart
  | tail _ hnext ih => exact ih.next hnext

omit [DecidableEq ι] in
/-- A program that has ended meets its postcondition. -/
theorem Disciplined.post_of_result (h : w.Disciplined D post) {i : ι} {result : Except ε α}
    (hresult : (w.prog i).result? = some result) : post i result w.toSeen := by
  have hmeets := h.meets i
  cases hprog : w.prog i with
  | done r =>
    rw [hprog] at hmeets hresult
    obtain rfl := Option.some.inj hresult
    exact hmeets _ (D.rely_refl i _) h.inv
  | step =>
    rw [hprog] at hresult
    cases hresult

end World
