/-
# Theory.Ranked -- stable sorts by a rank

A comparison `less` is by a rank if `less a b` says that the rank of `a` is the smaller one.  The
stable sort by such a comparison is sorted by rank, so that of two elements the one that is cut
off has not the smaller rank (`rank_le_of_left`).  Where no two elements have the same rank the
sort does not depend on the order of what is sorted (`stable_eq_of_perm`).
-/
import Mathlib.Algebra.Order.Ring.Int
import Mathlib.Data.List.Sort

namespace Nixway.Theory.Ranked

set_option autoImplicit false

universe u v

variable {α : Type u} {κ : Type v} [LinearOrder κ]

/-- The comparison is that of the ranks. -/
def ByRank (less : α → α → Bool) (rank : α → κ) : Prop := ∀ a b, less a b = true ↔ rank a < rank b

/-- What does not come before what stands ahead of it stays there. -/
def stable (less : α → α → Bool) (l : List α) : List α := l.insertionSort fun a b => !less b a

variable {less : α → α → Bool} {rank : α → κ}

theorem stable_perm (less : α → α → Bool) (l : List α) : (stable less l).Perm l :=
  List.perm_insertionSort _ l

theorem not_less_iff (byRank : ByRank less rank) (a b : α) :
    (!less b a) = true ↔ rank a ≤ rank b := by
  rw [Bool.not_eq_true', ← not_lt, ← byRank b a, Bool.not_eq_true]

/-- **The sort is sorted by rank.** -/
theorem stable_sorted (byRank : ByRank less rank) (l : List α) :
    (stable less l).Pairwise fun a b => rank a ≤ rank b := by
  have total : Std.Total fun a b : α => (!less b a) = true :=
    ⟨fun a b => by rw [not_less_iff byRank, not_less_iff byRank]; exact le_total _ _⟩
  have trans : IsTrans α fun a b : α => (!less b a) = true :=
    ⟨fun a b c first second => by
      rw [not_less_iff byRank] at first second ⊢
      exact first.trans second⟩
  exact (List.pairwise_insertionSort _ l).imp fun {a b} h => (not_less_iff byRank a b).mp h

/-- **What is cut off has not the smaller rank.** -/
theorem rank_le_of_left (byRank : ByRank less rank) {l : List α} {n : Nat} {a b : α}
    (taken : a ∈ (stable less l).take n) (here : b ∈ l) (left : b ∉ (stable less l).take n) :
    rank a ≤ rank b := by
  have sorted := stable_sorted byRank l
  rw [← List.take_append_drop n (stable less l), List.pairwise_append] at sorted
  have inside : b ∈ (stable less l).take n ++ (stable less l).drop n := by
    rw [List.take_append_drop]
    exact (stable_perm less l).mem_iff.mpr here
  rcases List.mem_append.mp inside with first | rest
  · exact absurd first left
  · exact sorted.2.2 a taken b rest

/-- **The order of what is sorted does not matter** where no two elements have the same rank. -/
theorem stable_eq_of_perm (byRank : ByRank less rank) {l l' : List α} (perm : l.Perm l')
    (apart : ∀ a ∈ l, ∀ b ∈ l, rank a = rank b → a = b) : stable less l = stable less l' := by
  refine ((stable_perm less l).trans (perm.trans (stable_perm less l').symm)).eq_of_pairwise ?_
    (stable_sorted byRank l) (stable_sorted byRank l')
  intro a b first second le ge
  refine apart a ((stable_perm less l).mem_iff.mp first) b ?_ (le_antisymm le ge)
  exact perm.mem_iff.mpr ((stable_perm less l').mem_iff.mp second)

end Nixway.Theory.Ranked
