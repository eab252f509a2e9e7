/-
# Theory.FirstFree -- a walk to the first free place

A loop that starts at a place and goes from place to place as long as it is inside and the place
is taken.  It answers the place where it stops, if that is inside and free.  `Path` lists the places
that it goes through when all of them are taken, which is to say that there is an end; the answer of
the walk is then the first free place of the path, and the walk ends whatever is taken.
-/
import Mathlib.Algebra.Order.Ring.Int
import Mathlib.Data.List.Basic

namespace Nixway.Theory.FirstFree

set_option autoImplicit false

universe u

variable {α : Type u} (inside : α → Prop) (next : α → Option α)

/-- A run of the loop from a place, with its answer. -/
inductive Walk (taken : α → Prop) : α → Option α → Prop where
  | left {a : α} (out : ¬ inside a) : Walk taken a none
  | found {a : α} (here : inside a) (free : ¬ taken a) : Walk taken a (some a)
  | stopped {a : α} (here : inside a) (used : taken a) (last : next a = none) : Walk taken a none
  | passed {a b : α} {answer : Option α} (here : inside a) (used : taken a) (go : next a = some b)
      (rest : Walk taken b answer) : Walk taken a answer

/-- The places from one on. -/
inductive Path : α → List α → Prop where
  | left {a : α} (out : ¬ inside a) : Path a []
  | last {a : α} (here : inside a) (last : next a = none) : Path a [a]
  | more {a b : α} {places : List α} (here : inside a) (go : next a = some b)
      (rest : Path b places) : Path a (a :: places)

variable {inside next}

/-- **A walk along a path ends, at the first free place.** -/
theorem Path.walk {a : α} {places : List α} (path : Path inside next a places) (taken : α → Prop)
    [DecidablePred taken] :
    Walk inside next taken a (places.find? fun b => ¬ taken b) := by
  induction path with
  | left out => exact .left out
  | @last a here last =>
    by_cases used : taken a
    · rw [List.find?_cons_of_neg (by simpa using used)]
      exact .stopped here used last
    · rw [List.find?_cons_of_pos (by simpa using used)]
      exact .found here used
  | @more a b places here go rest ih =>
    by_cases used : taken a
    · rw [List.find?_cons_of_neg (by simpa using used)]
      exact .passed here used go ih
    · rw [List.find?_cons_of_pos (by simpa using used)]
      exact .found here used

/-- The first free place of a list in order is the least. -/
theorem find?_least {r : α → α → Prop} {places : List α} (order : places.Pairwise r)
    {free : α → Bool} {a : α} (found : places.find? free = some a) :
    a ∈ places ∧ free a = true ∧ ∀ b ∈ places, free b = true → b = a ∨ r a b := by
  obtain ⟨is, before, after, split, used⟩ := List.find?_eq_some_iff_append.mp found
  subst split
  refine ⟨List.mem_append_right _ List.mem_cons_self, is, fun b member frees => ?_⟩
  rcases List.mem_append.mp member with earlier | later
  · have taken := used b earlier
    rw [frees] at taken
    cases taken
  · rcases List.mem_cons.mp later with same | later
    · exact .inl same
    · exact .inr ((List.pairwise_cons.mp (List.pairwise_append.mp order).2.1).1 b later)

end Nixway.Theory.FirstFree
