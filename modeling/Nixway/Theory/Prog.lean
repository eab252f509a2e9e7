/-
# Theory.Prog -- straight-line programs made of atomic steps

A `Prog σ α` is a finite program over a shared store `σ`: it is either done with
a result, or it performs one atomic step and continues with what the step read.
A step is split into its effect on the store and its continuation, both read at
the store the step finds; one statement of a database, one section under a lock
and one message handed to a stream are all such steps.

`Prog.run` executes a program alone.  Interleaved executions of several programs
are in `Theory.Pool`.  `Prog.Every` says that all the effects a program can ever
perform satisfy a predicate, whatever it reads; it is the frame rule used for
everything a program leaves alone.
-/
import Mathlib.Algebra.Order.Ring.Int
import Mathlib.Logic.Function.Basic

namespace Nixway.Theory

set_option autoImplicit false

universe u v w

/-- A program over the store `σ` with result `α`, one constructor per atomic step. -/
inductive Prog (σ : Type u) (α : Type v) : Type (max u v) where
  | done (result : α)
  | step (effect : σ → σ) (next : σ → Prog σ α)

namespace Prog

variable {σ : Type u} {α β γ : Type v}

/-- Sequencing: the second program starts where the first one is done. -/
protected def bind : Prog σ α → (α → Prog σ β) → Prog σ β
  | .done a, f => f a
  | .step effect next, f => .step effect fun s => (next s).bind f

instance : Monad (Prog σ) where
  pure := .done
  bind := Prog.bind

@[simp] theorem pure_eq (a : α) : (pure a : Prog σ α) = .done a := rfl

@[simp] theorem done_bind (a : α) (f : α → Prog σ β) : (Prog.done a >>= f) = f a := rfl

@[simp] theorem step_bind (effect : σ → σ) (next : σ → Prog σ α) (f : α → Prog σ β) :
    (Prog.step effect next >>= f) = .step effect fun s => next s >>= f := rfl

theorem step_congr {effect : σ → σ} {next next' : σ → Prog σ α} (same : ∀ s, next s = next' s) :
    Prog.step effect next = .step effect next' :=
  congrArg _ (funext same)

theorem bind_done (p : Prog σ α) : (p >>= Prog.done) = p := by
  induction p with
  | done a => rfl
  | step effect next ih =>
    rw [step_bind]
    congr 1
    funext s
    exact ih s

theorem bind_assoc' (p : Prog σ α) (f : α → Prog σ β) (g : β → Prog σ γ) :
    (p >>= f >>= g) = p >>= fun a => f a >>= g := by
  induction p with
  | done a => rfl
  | step effect next ih =>
    simp only [step_bind]
    congr 1
    funext s
    exact ih s

instance : LawfulMonad (Prog σ) := LawfulMonad.mk' (Prog σ)
  (fun p => bind_done p) (fun _ _ => rfl) (fun p f g => bind_assoc' p f g)

/-- A statement that changes the store and returns nothing. -/
def exec (f : σ → σ) : Prog σ PUnit := .step f fun _ => .done ⟨⟩

/-- A statement that only reads. -/
def query (f : σ → α) : Prog σ α := .step id fun s => .done (f s)

/-- A statement that reads and writes at once. -/
def atomic (f : σ → σ × α) : Prog σ α := .step (fun s => (f s).1) fun s => .done (f s).2

/-- A loop over a list that is fixed when the loop starts. -/
def forEach {ι : Type w} : List ι → (ι → Prog σ PUnit) → Prog σ PUnit
  | [], _ => .done ⟨⟩
  | x :: xs, body => body x >>= fun _ => forEach xs body

def ignore (p : Prog σ α) : Prog σ PUnit := p >>= fun _ => .done ⟨⟩

/-- No step is left. -/
def isDone : Prog σ α → Bool
  | .done _ => true
  | .step _ _ => false

/-! ## Running a program alone -/

/-- The store a program leaves and its result, when nothing runs beside it. -/
def run : Prog σ α → σ → σ × α
  | .done a, s => (s, a)
  | .step effect next, s => (next s).run (effect s)

def out (p : Prog σ α) (s : σ) : σ := (p.run s).1

def result (p : Prog σ α) (s : σ) : α := (p.run s).2

@[simp] theorem run_done (a : α) (s : σ) : (Prog.done a).run s = (s, a) := rfl

@[simp] theorem run_step (effect : σ → σ) (next : σ → Prog σ α) (s : σ) :
    (Prog.step effect next).run s = (next s).run (effect s) := rfl

theorem run_bind (p : Prog σ α) (f : α → Prog σ β) (s : σ) :
    (p >>= f).run s = (f (p.run s).2).run (p.run s).1 := by
  induction p generalizing s with
  | done a => rfl
  | step effect next ih =>
    simp only [step_bind, run_step]
    exact ih s (effect s)

@[simp] theorem run_exec (f : σ → σ) (s : σ) : (exec f : Prog σ PUnit).run s = (f s, ⟨⟩) := rfl

@[simp] theorem run_query (f : σ → α) (s : σ) : (query f).run s = (s, f s) := rfl

@[simp] theorem run_atomic (f : σ → σ × α) (s : σ) : (atomic f).run s = f s := rfl

@[simp] theorem run_exec_bind (f : σ → σ) (g : PUnit → Prog σ β) (s : σ) :
    (exec f >>= g).run s = (g ⟨⟩).run (f s) := rfl

@[simp] theorem run_query_bind (f : σ → α) (g : α → Prog σ β) (s : σ) :
    (query f >>= g).run s = (g (f s)).run s := rfl

@[simp] theorem run_atomic_bind (f : σ → σ × α) (g : α → Prog σ β) (s : σ) :
    (atomic f >>= g).run s = (g (f s).2).run (f s).1 := rfl

@[simp] theorem run_map (f : α → β) (p : Prog σ α) (s : σ) :
    (f <$> p).run s = ((p.run s).1, f (p.run s).2) := by
  rw [map_eq_pure_bind, run_bind]
  rfl

/-- The program on the second part of a larger store. -/
def onSnd {τ : Type u} : Prog τ α → Prog (σ × τ) α
  | .done a => .done a
  | .step effect next => .step (fun s => (s.1, effect s.2)) fun s => (next s.2).onSnd

theorem run_onSnd {τ : Type u} (p : Prog τ α) (s : σ × τ) :
    p.onSnd.run s = ((s.1, (p.run s.2).1), (p.run s.2).2) := by
  induction p generalizing s with
  | done a => rfl
  | step effect next ih =>
    show (next s.2).onSnd.run (s.1, effect s.2) = _
    rw [ih]
    rfl

section Loops

variable {ι : Type w}

@[simp] theorem run_forEach_nil (body : ι → Prog σ PUnit) (s : σ) :
    (forEach [] body).run s = (s, ⟨⟩) := rfl

theorem run_forEach_cons (x : ι) (xs : List ι) (body : ι → Prog σ PUnit) (s : σ) :
    (forEach (x :: xs) body).run s = (forEach xs body).run ((body x).run s).1 := by
  rw [forEach, run_bind]

end Loops

/-! ## What every step of a program does -/

/-- Every effect the program can perform satisfies `P`, whatever the steps read. -/
def Every (P : (σ → σ) → Prop) : Prog σ α → Prop
  | .done _ => True
  | .step effect next => P effect ∧ ∀ s, (next s).Every P

section Every

variable {P Q : (σ → σ) → Prop}

@[simp] theorem every_done (a : α) : (Prog.done a : Prog σ α).Every P := trivial

@[simp] theorem every_step (effect : σ → σ) (next : σ → Prog σ α) :
    (Prog.step effect next).Every P ↔ P effect ∧ ∀ s, (next s).Every P := Iff.rfl

@[simp] theorem every_exec (f : σ → σ) : (exec f : Prog σ PUnit).Every P ↔ P f := by
  simp [exec]

@[simp] theorem every_query (f : σ → α) : (query f : Prog σ α).Every P ↔ P id := by
  simp only [query, every_step, every_done, implies_true, and_true]

@[simp] theorem every_atomic (f : σ → σ × α) :
    (atomic f : Prog σ α).Every P ↔ P fun s => (f s).1 := by
  simp only [atomic, every_step, every_done, implies_true, and_true]

theorem every_true (p : Prog σ α) : p.Every fun _ => True := by
  induction p with
  | done a => trivial
  | step effect next ih => exact ⟨trivial, ih⟩

theorem Every.bind {p : Prog σ α} {f : α → Prog σ β} (first : p.Every P)
    (rest : ∀ a, (f a).Every P) : (p >>= f).Every P := by
  induction p with
  | done a => exact rest a
  | step effect next ih => exact ⟨first.1, fun s => ih s (first.2 s)⟩

theorem Every.forEach {ι : Type w} {body : ι → Prog σ PUnit} (xs : List ι)
    (each : ∀ x ∈ xs, (body x).Every P) : (forEach xs body).Every P := by
  induction xs with
  | nil => trivial
  | cons x xs ih =>
    refine Every.bind (each x List.mem_cons_self) fun _ => ih ?_
    exact fun y hy => each y (List.mem_cons_of_mem x hy)

theorem Every.mono {p : Prog σ α} (weaker : ∀ effect, P effect → Q effect) (every : p.Every P) :
    p.Every Q := by
  induction p with
  | done a => trivial
  | step effect next ih => exact ⟨weaker effect every.1, fun s => ih s (every.2 s)⟩

/-- Every result the program can have satisfies `Q`, whatever the steps read. -/
def Yields (Q : α → Prop) : Prog σ α → Prop
  | .done a => Q a
  | .step _ next => ∀ s, (next s).Yields Q

theorem yields_true (p : Prog σ α) : p.Yields fun _ => True := by
  induction p with
  | done a => trivial
  | step effect next ih => exact ih

theorem Yields.bind {R : α → Prop} {S : β → Prop} {p : Prog σ α} {f : α → Prog σ β}
    (first : p.Yields R) (rest : ∀ a, R a → (f a).Yields S) : (p >>= f).Yields S := by
  induction p with
  | done a => exact rest a first
  | step effect next ih => exact fun s => ih s (first s)

theorem Yields.bind_query {S : β → Prop} {g : σ → α} {f : α → Prog σ β}
    (rest : ∀ s, (f (g s)).Yields S) : (query g >>= f).Yields S := rest

/-- A read followed by a program that relies on what was read. -/
theorem Every.bind_query {g : σ → α} {f : α → Prog σ β} (reads : P id)
    (rest : ∀ s, (f (g s)).Every P) : (query g >>= f).Every P := ⟨reads, rest⟩

/-- Sequencing, where the second program may rely on what the first one yields. -/
theorem Every.bind_yields {R : α → Prop} {p : Prog σ α} {f : α → Prog σ β} (first : p.Every P)
    (yields : p.Yields R) (rest : ∀ a, R a → (f a).Every P) : (p >>= f).Every P := by
  induction p with
  | done a => exact rest a yields
  | step effect next ih => exact ⟨first.1, fun s => ih s (first.2 s) (yields s)⟩

/-- **The frame rule.**  What every effect preserves, a run preserves. -/
theorem Every.run_preserves {I : σ → Prop} {p : Prog σ α}
    (every : p.Every fun effect => ∀ s, I s → I (effect s)) {s : σ} (start : I s) :
    I (p.run s).1 := by
  induction p generalizing s with
  | done a => exact start
  | step effect next ih => exact ih s (every.2 s) (every.1 s start)

/-- A projection of the store that no effect changes is the same after a run. -/
theorem Every.run_unchanged {δ : Type w} (view : σ → δ) {p : Prog σ α}
    (every : p.Every fun effect => ∀ s, view (effect s) = view s) (s : σ) :
    view (p.run s).1 = view s := by
  refine Every.run_preserves (I := fun t => view t = view s) (every.mono ?_) rfl
  intro effect keeps t same
  rw [keeps t, same]

end Every

/-! ## A part of a larger store -/

section Within

variable {τ : Type u} (get : τ → σ) (put : τ → σ → τ)

/-- The program on a part of a larger store; `put` takes the part back. -/
def within : Prog σ α → Prog τ α
  | .done a => .done a
  | .step effect next =>
    .step (fun t => put t (effect (get t))) fun t => (next (get t)).within

theorem within_bind (p : Prog σ α) (f : α → Prog σ β) :
    (p >>= f).within get put = p.within get put >>= fun a => (f a).within get put := by
  induction p with
  | done a => rfl
  | step effect next ih => exact Prog.step_congr fun t => ih (get t)

variable {get put}

/-- The part and the result are those of the program alone. -/
theorem run_within (part : ∀ t s, get (put t s) = s) (p : Prog σ α) (t : τ) :
    get ((p.within get put).run t).1 = (p.run (get t)).1 ∧
      ((p.within get put).run t).2 = (p.run (get t)).2 := by
  induction p generalizing t with
  | done a => exact ⟨rfl, rfl⟩
  | step effect next ih =>
    have rest := ih (get t) (put t (effect (get t)))
    rw [part] at rest
    exact rest

/-- Where the part is put back as it was taken, nothing else of the store changes. -/
theorem run_within_eq (part : ∀ t s, get (put t s) = s)
    (again : ∀ t s s', put (put t s) s' = put t s') (self : ∀ t, put t (get t) = t)
    (p : Prog σ α) (t : τ) :
    (p.within get put).run t = (put t (p.run (get t)).1, (p.run (get t)).2) := by
  induction p generalizing t with
  | done a => exact Prod.ext (self t).symm rfl
  | step effect next ih =>
    have rest := ih (get t) (put t (effect (get t)))
    rw [part, again] at rest
    exact rest

theorem Every.within {P : (σ → σ) → Prop} {Q : (τ → τ) → Prop}
    (lift : ∀ effect, P effect → Q fun t => put t (effect (get t))) {p : Prog σ α}
    (every : p.Every P) : (p.within get put).Every Q := by
  induction p with
  | done a => trivial
  | step effect next ih => exact ⟨lift effect every.1, fun t => ih (get t) (every.2 (get t))⟩

theorem Yields.within {Q : α → Prop} {p : Prog σ α} (yields : p.Yields Q) :
    (p.within get put).Yields Q := by
  induction p with
  | done a => exact yields
  | step effect next ih => exact fun t => ih (get t) (yields (get t))

end Within

end Prog

end Nixway.Theory
