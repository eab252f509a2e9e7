/-
# Theory.Crew -- a process that starts a handler for each command

A `Machine` receives commands; each may change the shared state at once and starts handlers,
and any handler may take its next step at any time.  A step says with which handlers it goes
on: none when the handler is done, and more than one when it starts others.  A restart drops
the handlers and leaves the shared state.

`Held.step` is the rule for an invariant that has a part for the shared state and a part for
each handler: a step has to keep the parts of the others.  `Covered` is about what is still to
be done: each duty is done or owed by some handler, so that all are done when none is left.
-/
import Nixway.Theory.Runs

namespace Nixway.Theory

set_option autoImplicit false

universe u v w x y

/-- Shared state `σ`, handlers `κ`, commands `γ`, outcomes of a step `ο`, other events `ε`. -/
structure Machine (σ : Type u) (κ : Type v) (γ : Type w) (ο : Type x) (ε : Type y) where
  start : γ → σ → σ × List κ
  turn : κ → ο → σ → σ × List κ
  outside : ε → σ → σ

structure Crew (σ : Type u) (κ : Type v) where
  shared : σ
  handlers : List κ := []

inductive Move (γ : Type w) (ο : Type x) (ε : Type y) where
  | command (c : γ)
  | turn (i : Nat) (o : ο)
  | restart
  | outside (e : ε)
deriving DecidableEq

namespace Crew

variable {σ : Type u} {κ : Type v} {γ : Type w} {ο : Type x} {ε : Type y}

/-- The handlers beside the one at `i`. -/
def others (c : Crew σ κ) (i : Nat) : List κ := c.handlers.eraseIdx i

/-- The handler at `i` replaced by those it goes on with. -/
def replace (handlers : List κ) (i : Nat) (next : List κ) : List κ :=
  handlers.take i ++ next ++ handlers.drop (i + 1)

def step (m : Machine σ κ γ ο ε) (c : Crew σ κ) : Move γ ο ε → Crew σ κ
  | .command cmd => ⟨(m.start cmd c.shared).1, c.handlers ++ (m.start cmd c.shared).2⟩
  | .turn i o =>
    match c.handlers[i]? with
    | none => c
    | some k => ⟨(m.turn k o c.shared).1, replace c.handlers i (m.turn k o c.shared).2⟩
  | .restart => ⟨c.shared, []⟩
  | .outside e => ⟨m.outside e c.shared, c.handlers⟩

def run (m : Machine σ κ γ ο ε) (c : Crew σ κ) (moves : List (Move γ ο ε)) : Crew σ κ :=
  moves.foldl (step m) c

theorem mem_replace {handlers next : List κ} {i : Nat} {k : κ} :
    k ∈ replace handlers i next ↔ k ∈ next ∨ k ∈ handlers.eraseIdx i := by
  rw [replace, List.eraseIdx_eq_take_drop_succ]
  simp only [List.mem_append]
  tauto

theorem eq_or_mem_eraseIdx {handlers : List κ} {i : Nat} {k k' : κ}
    (found : handlers[i]? = some k) (member : k' ∈ handlers) :
    k' = k ∨ k' ∈ handlers.eraseIdx i := by
  obtain ⟨bound, rfl⟩ := List.getElem?_eq_some_iff.mp found
  rw [← List.take_append_drop i handlers, List.drop_eq_getElem_cons bound] at member
  rw [List.eraseIdx_eq_take_drop_succ]
  simp only [List.mem_append, List.mem_cons] at member ⊢
  tauto

theorem step_turn {m : Machine σ κ γ ο ε} {c : Crew σ κ} {i : Nat} {k : κ} (o : ο)
    (found : c.handlers[i]? = some k) :
    step m c (.turn i o) =
      ⟨(m.turn k o c.shared).1, replace c.handlers i (m.turn k o c.shared).2⟩ := by
  simp only [step, found]

/-- An invariant of the shared state, and one of each handler. -/
structure Held (I : σ → Prop) (own : σ → κ → Prop) (c : Crew σ κ) : Prop where
  shared : I c.shared
  each : ∀ k ∈ c.handlers, own c.shared k

/-- **The invariant rule for one move.** -/
theorem Held.step {m : Machine σ κ γ ο ε} {I : σ → Prop} {own : σ → κ → Prop} {c : Crew σ κ}
    {move : Move γ ο ε} (held : Held I own c)
    (starts : ∀ cmd, move = .command cmd → I (m.start cmd c.shared).1 ∧
      (∀ k ∈ c.handlers, own (m.start cmd c.shared).1 k) ∧
      ∀ k ∈ (m.start cmd c.shared).2, own (m.start cmd c.shared).1 k)
    (turns : ∀ i o k, move = .turn i o → c.handlers[i]? = some k → own c.shared k →
      I (m.turn k o c.shared).1 ∧ (∀ k' ∈ c.others i, own (m.turn k o c.shared).1 k') ∧
      ∀ k' ∈ (m.turn k o c.shared).2, own (m.turn k o c.shared).1 k')
    (outsides : ∀ e, move = .outside e → I (m.outside e c.shared) ∧
      ∀ k ∈ c.handlers, own (m.outside e c.shared) k) :
    Held I own (c.step m move) := by
  cases move with
  | command cmd =>
    obtain ⟨shared, old, new⟩ := starts cmd rfl
    refine ⟨shared, fun k member => ?_⟩
    rcases List.mem_append.mp member with early | late
    · exact old k early
    · exact new k late
  | turn i o =>
    cases found : c.handlers[i]? with
    | none => simpa only [Crew.step, found] using held
    | some k =>
      obtain ⟨shared, rest, next⟩ := turns i o k rfl found
        (held.each k (List.mem_of_getElem? found))
      rw [step_turn o found]
      refine ⟨shared, fun k' member => ?_⟩
      rcases mem_replace.mp member with new | old
      · exact next k' new
      · exact rest k' old
  | restart => exact ⟨held.shared, fun k member => absurd member List.not_mem_nil⟩
  | outside e =>
    obtain ⟨shared, rest⟩ := outsides e rfl
    exact ⟨shared, rest⟩

/-! ## Duties

A duty is done in the shared state or owed by a handler.  A handler that takes a step hands on
what it owes to those it goes on with, or does it; a step that undoes a duty leaves a handler
behind that owes it. -/

section Duties

variable {δ : Type*} {done : σ → δ → Prop} {owes : σ → κ → δ → Prop}

/-- The duty is done, or one of the handlers owes it. -/
def Covers (done : σ → δ → Prop) (owes : σ → κ → δ → Prop) (s : σ) (handlers : List κ)
    (d : δ) : Prop :=
  done s d ∨ ∃ k ∈ handlers, owes s k d

/-- A change of the shared state that does not concern the duty. -/
structure Unmoved (done : σ → δ → Prop) (owes : σ → κ → δ → Prop) (s s' : σ) (d : δ) : Prop where
  done : done s d → done s' d
  owes : ∀ k, owes s k d → owes s' k d

def Covered (done : σ → δ → Prop) (owes : σ → κ → δ → Prop) (c : Crew σ κ) : Prop :=
  ∀ d, Covers done owes c.shared c.handlers d

theorem Covered.command {m : Machine σ κ γ ο ε} {c : Crew σ κ} {cmd : γ}
    (covered : Covered done owes c)
    (rest : ∀ d, Unmoved done owes c.shared (m.start cmd c.shared).1 d ∨
      Covers done owes (m.start cmd c.shared).1 (m.start cmd c.shared).2 d) :
    Covered done owes (c.step m (.command cmd)) := by
  intro d
  rcases rest d with unmoved | finished | ⟨k, member, owed⟩
  · rcases covered d with finished | ⟨k, member, owed⟩
    · exact .inl (unmoved.done finished)
    · exact .inr ⟨k, List.mem_append_left _ member, unmoved.owes k owed⟩
  · exact .inl finished
  · exact .inr ⟨k, List.mem_append_right _ member, owed⟩

theorem Covered.turn {m : Machine σ κ γ ο ε} {c : Crew σ κ} {i : Nat} {o : ο}
    (covered : Covered done owes c)
    (handsOn : ∀ k, c.handlers[i]? = some k → ∀ d, owes c.shared k d →
      Covers done owes (m.turn k o c.shared).1 (m.turn k o c.shared).2 d)
    (rest : ∀ k, c.handlers[i]? = some k → ∀ d,
      Unmoved done owes c.shared (m.turn k o c.shared).1 d ∨
        Covers done owes (m.turn k o c.shared).1 (m.turn k o c.shared).2 d) :
    Covered done owes (c.step m (.turn i o)) := by
  cases found : c.handlers[i]? with
  | none => simpa only [Crew.step, found] using covered
  | some k =>
    intro d
    rw [step_turn o found]
    have next : Covers done owes (m.turn k o c.shared).1 (m.turn k o c.shared).2 d →
        Covers done owes (m.turn k o c.shared).1
          (replace c.handlers i (m.turn k o c.shared).2) d := by
      rintro (finished | ⟨k', member, owed⟩)
      · exact .inl finished
      · exact .inr ⟨k', mem_replace.mpr (.inl member), owed⟩
    rcases rest k found d with unmoved | taken
    · rcases covered d with finished | ⟨k', member, owed⟩
      · exact .inl (unmoved.done finished)
      · rcases eq_or_mem_eraseIdx found member with rfl | other
        · exact next (handsOn k' found d owed)
        · exact .inr ⟨k', mem_replace.mpr (.inr other), unmoved.owes k' owed⟩
    · exact next taken

theorem Covered.done_of_idle {c : Crew σ κ} (covered : Covered done owes c)
    (idle : c.handlers = []) (d : δ) : done c.shared d := by
  rcases covered d with finished | ⟨k, member, -⟩
  · exact finished
  · rw [idle] at member
    cases member

end Duties

end Crew

end Nixway.Theory
