/-
# Theory.Runs -- machines that take one event after another

A machine is a step function; a run is the fold of its steps over a list of events.
`Runs.Along` says that every event of a run meets a condition in the state it finds, and
`Runs.along_iff_throughout` is the rule for conditions that are exact: what a step keeps
just if the event meets the condition holds throughout just the runs that meet it.
-/
import Nixway.Theory.Pool

namespace Nixway.Theory.Runs

set_option autoImplicit false

universe u v

variable {σ : Type u} {α : Type v} (step : σ → α → σ)

/-- Every event satisfies `ok` in the state it finds. -/
def Along (ok : σ → α → Prop) : σ → List α → Prop
  | _, [] => True
  | s, a :: events => ok s a ∧ Along ok (step s a) events

instance alongDecidable (ok : σ → α → Prop) [∀ s a, Decidable (ok s a)] :
    ∀ (s : σ) (events : List α), Decidable (Along step ok s events)
  | _, [] => isTrue trivial
  | s, a :: events =>
    have := alongDecidable ok (step s a) events
    inferInstanceAs (Decidable (_ ∧ _))

variable {step}

/-- The invariant rule for runs whose events meet a condition. -/
theorem Along.invariant {ok : σ → α → Prop} {I : σ → Prop}
    (kept : ∀ s a, ok s a → I s → I (step s a)) {s : σ} {events : List α}
    (along : Along step ok s events) (start : I s) : I (events.foldl step s) := by
  induction events generalizing s with
  | nil => exact start
  | cons a events ih => exact ih along.2 (kept s a along.1 start)

/-- The first part of a run that meets a condition meets it. -/
theorem Along.of_prefix {ok : σ → α → Prop} {s : σ} {earlier events : List α}
    (along : Along step ok s events) (first : earlier <+: events) : Along step ok s earlier := by
  induction earlier generalizing s events with
  | nil => trivial
  | cons a earlier ih =>
    obtain ⟨rest, rfl⟩ := first
    exact ⟨along.1, ih along.2 (List.prefix_append _ _)⟩

/-- The exact rule; `J` is what every step keeps. -/
theorem along_iff_throughout {ok : σ → α → Prop} {I J : σ → Prop}
    (known : ∀ s a, J s → J (step s a)) (kept : ∀ s a, J s → I s → (I (step s a) ↔ ok s a))
    {s : σ} (knows : J s) (start : I s) (events : List α) :
    (∀ earlier, earlier <+: events → I (earlier.foldl step s)) ↔ Along step ok s events := by
  induction events generalizing s with
  | nil => exact forall_prefix_nil.trans (iff_of_true start trivial)
  | cons a events ih =>
    rw [forall_prefix_cons]
    constructor
    · rintro ⟨-, throughout⟩
      have first : I (step s a) := throughout [] List.nil_prefix
      exact ⟨(kept s a knows start).mp first, (ih (known s a knows) first).mp throughout⟩
    · rintro ⟨meets, rest⟩
      exact ⟨start, (ih (known s a knows) ((kept s a knows start).mpr meets)).mpr rest⟩

end Nixway.Theory.Runs
