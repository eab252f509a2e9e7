/-
# Agent.Backoff -- how long the agent waits before it connects again

`ConnectWithRetry` and `backoffDuration` of `apps/agent/client.go`.  A duration is a 64-bit number of
nanoseconds, so that a product wraps around; the power of two is exact.

The cap is applied to the product.  From the 35th failure in a row on the product has wrapped, and
the wait is negative or nothing at all: `reconnects_iff`.
-/
import Mathlib.Algebra.Order.Ring.Int
import Mathlib.Tactic.Ring
import Mathlib.Tactic.SplitIfs

namespace Nixway.Agent.Backoff

set_option autoImplicit false

/-- `time.Second`, in nanoseconds. -/
def second : Int := 1000000000

def minBackoff : Int := 1 * second

def maxBackoff : Int := 30 * second

def mul64 (a b : Int) : Int := (a * b).bmod (2 ^ 64)

def backoffDuration (attempt : Nat) : Int :=
  let d := mul64 (2 ^ attempt) minBackoff
  if maxBackoff < d then maxBackoff else d

/-- What an attempt comes to, and whether the context ends while the agent waits behind it. -/
structure Attempt where
  dialed : Bool
  streamed : Bool
  cancelled : Bool := false

def Attempt.connected (a : Attempt) : Bool := a.dialed && a.streamed

/-- The waits of `ConnectWithRetry`, as far as the attempts go; `attempt` is its counter. -/
def waits (attempt : Nat) : List Attempt → List Int
  | [] => []
  | a :: rest =>
    if a.connected then []
    else backoffDuration attempt :: if a.cancelled then [] else waits (attempt + 1) rest

/-- The failures one after the other that the run sees. -/
def failures : List Attempt → Nat
  | [] => 0
  | a :: rest => if a.connected then 0 else if a.cancelled then 1 else failures rest + 1

/-- Every wait is in its bounds, and none is shorter than one before it. -/
structure Steady (waits : List Int) : Prop where
  bounds : ∀ wait ∈ waits, minBackoff ≤ wait ∧ wait ≤ maxBackoff
  nondecreasing : waits.Pairwise (· ≤ ·)

instance (waits : List Int) : Decidable (Steady waits) :=
  decidable_of_iff ((∀ wait ∈ waits, minBackoff ≤ wait ∧ wait ≤ maxBackoff) ∧ waits.Pairwise (· ≤ ·))
    ⟨fun ⟨bounds, nondecreasing⟩ => ⟨bounds, nondecreasing⟩,
      fun ⟨bounds, nondecreasing⟩ => ⟨bounds, nondecreasing⟩⟩

/-- There is a wait behind each failure, and the counter has counted those before it. -/
theorem waits_eq (attempt : Nat) (attempts : List Attempt) :
    waits attempt attempts = (List.range' attempt (failures attempts)).map backoffDuration := by
  induction attempts generalizing attempt with
  | nil => rfl
  | cons a rest ih =>
    unfold waits failures
    split_ifs with connected cancelled
    · rfl
    · rfl
    · rw [ih, List.range'_succ, List.map_cons]

theorem Steady.fewer {m n : Nat} (fewer : m ≤ n)
    (steady : Steady ((List.range' 0 n).map backoffDuration)) :
    Steady ((List.range' 0 m).map backoffDuration) := by
  have first : ((List.range' 0 m).map backoffDuration) <+: (List.range' 0 n).map backoffDuration := by
    obtain ⟨k, rfl⟩ := Nat.exists_eq_add_of_le fewer
    rw [← List.range'_append_1, List.map_append]
    exact List.prefix_append _ _
  exact ⟨fun wait member => steady.bounds wait (first.subset member),
    steady.nondecreasing.sublist first.sublist⟩

/-- **The waits of a run are steady just when it sees at most 34 failures in a row.** -/
theorem reconnects_iff (attempts : List Attempt) : Steady (waits 0 attempts) ↔ failures attempts ≤ 34 := by
  rw [waits_eq]
  constructor
  · intro steady
    by_contra more
    -- the wait behind the 35th failure
    have member : backoffDuration 34 ∈ (List.range' 0 (failures attempts)).map backoffDuration :=
      List.mem_map_of_mem (List.mem_range'_1.mpr ⟨Nat.zero_le 34, by omega⟩)
    have wrapped : ¬ minBackoff ≤ backoffDuration 34 := by decide
    exact wrapped (steady.bounds _ member).1
  · intro few
    have steady : Steady ((List.range' 0 34).map backoffDuration) := by decide +kernel
    exact steady.fewer few

/-- With the control plane away for a quarter of an hour the agent stops waiting. -/
theorem outage_of_35_failures :
    let attempts := List.replicate 35 { dialed := true, streamed := false : Attempt }
    failures attempts = 35 ∧ ¬ Steady (waits 0 attempts) ∧
      ((waits 0 attempts).take 34).sum = 901 * second ∧
      (waits 0 attempts).getLast? = some (-1266874889709551616) := by
  decide +kernel

end Nixway.Agent.Backoff
