/-
# Theory.Expiring -- counters that vanish, and what they have counted

A store of counters in the manner of a key-value server: `incr` raises the counter of a key, or
makes one that stands at one and has no expiry; `expire` gives the counter of a key an expiry,
behind which it is as if it were not there.

`Tallied` ties a store to the log of the `incr`s it has executed: a counter stands at no more
than the entries of its key since it was made.  It is kept by every command and by the clock, so
what a counter that was made a moment ago says about the last moment can be read off it
(`Tallied.lately`).
-/
import Mathlib.Algebra.Order.Ring.Int
import Mathlib.Logic.Function.Basic
import Mathlib.Data.List.Basic

namespace Nixway.Theory

set_option autoImplicit false

universe u

/-- A counter; `born` is the time of the command that made it. -/
structure Counter where
  value : Nat
  expireAt : Option Nat := none
  born : Nat
  deriving DecidableEq, Repr

abbrev Counters (κ : Type u) := κ → Option Counter

abbrev Tally (κ : Type u) := List (κ × Nat)

namespace Counter

/-- The expiry has not been reached. -/
def live (now : Nat) (c : Counter) : Bool :=
  match c.expireAt with
  | none => true
  | some expireAt => now < expireAt

/-- The counter behind an `incr` that finds this one. -/
def next (now : Nat) : Option Counter → Counter
  | some c => { c with value := c.value + 1 }
  | none => { value := 1, born := now }

end Counter

namespace Counters

variable {κ : Type u}

/-- The counter of a key, if there is one that has not expired. -/
def find (cs : Counters κ) (now : Nat) (key : κ) : Option Counter :=
  (cs key).filter (Counter.live now)

theorem eq_of_find {cs : Counters κ} {now : Nat} {key : κ} {c : Counter}
    (found : cs.find now key = some c) : cs key = some c :=
  (Option.filter_eq_some_iff.mp found).1

variable [DecidableEq κ]

/-- `INCR`. -/
def incr (cs : Counters κ) (now : Nat) (key : κ) : Counters κ :=
  Function.update cs key (Counter.next now (cs.find now key))

/-- `EXPIRE`, which leaves a key that is not there alone. -/
def expire (cs : Counters κ) (now ttl : Nat) (key : κ) : Counters κ :=
  match cs.find now key with
  | none => cs
  | some c => Function.update cs key (some { c with expireAt := some (now + ttl) })

end Counters

namespace Tally

variable {κ : Type u} [DecidableEq κ]

/-- How often the key was counted from `since` on. -/
def since (log : Tally κ) (key : κ) (since : Nat) : Nat :=
  (log.filter fun e => e.1 = key ∧ since ≤ e.2).length

/-- How often the key was counted in the time `span` that ends with `t`. -/
def lately (log : Tally κ) (key : κ) (span t : Nat) : Nat :=
  (log.filter fun e => e.1 = key ∧ t < e.2 + span ∧ e.2 ≤ t).length

theorem since_le_cons (log : Tally κ) (e : κ × Nat) (key : κ) (t : Nat) :
    log.since key t ≤ since (e :: log) key t :=
  ((List.sublist_cons_self e log).filter _).length_le

theorem lately_le_cons (log : Tally κ) (e : κ × Nat) (key : κ) (span t : Nat) :
    log.lately key span t ≤ lately (e :: log) key span t :=
  ((List.sublist_cons_self e log).filter _).length_le

theorem since_cons_self (log : Tally κ) (key : κ) {t now : Nat} (later : t ≤ now) :
    since ((key, now) :: log) key t = log.since key t + 1 := by
  simp [since, later]

theorem lately_cons_quiet {log : Tally κ} {key : κ} {span now : Nat}
    (quiet : ∀ e ∈ log, e.1 = key → e.2 + span ≤ now) :
    lately ((key, now) :: log) key span now ≤ 1 := by
  have rest : log.lately key span now = 0 := by
    rw [lately, List.length_eq_zero_iff, List.filter_eq_nil_iff]
    rintro e mem holds
    obtain ⟨same, late, -⟩ := of_decide_eq_true holds
    have := quiet e mem same
    omega
  unfold lately at rest ⊢
  rw [List.filter_cons]
  split
  · exact Nat.le_of_eq (by rw [List.length_cons, rest])
  · exact Nat.le_trans (Nat.le_of_eq rest) (Nat.zero_le 1)

end Tally

/-- The counters count what is in the log, and nothing was counted or made later than now. -/
structure Tallied {κ : Type u} [DecidableEq κ] (cs : Counters κ) (log : Tally κ) (now : Nat) :
    Prop where
  value : ∀ key c, cs key = some c → c.value ≤ log.since key c.born
  born : ∀ key c, cs key = some c → c.born ≤ now
  past : ∀ e ∈ log, e.2 ≤ now

namespace Tallied

variable {κ : Type u} [DecidableEq κ] {cs : Counters κ} {log : Tally κ} {now : Nat}

theorem empty (now : Nat) : Tallied (fun _ : κ => none) [] now :=
  ⟨fun _ _ h => (by cases h), fun _ _ h => (by cases h), fun _ h => (by cases h)⟩

theorem later (tallied : Tallied cs log now) (d : Nat) : Tallied cs log (now + d) where
  value := tallied.value
  born key c here := Nat.le_add_right_of_le (tallied.born key c here)
  past e mem := Nat.le_add_right_of_le (tallied.past e mem)

theorem next (tallied : Tallied cs log now) (key : κ) :
    (Counter.next now (cs.find now key)).value ≤
        Tally.since ((key, now) :: log) key (Counter.next now (cs.find now key)).born ∧
      (Counter.next now (cs.find now key)).born ≤ now := by
  cases found : cs.find now key with
  | none =>
    refine ⟨?_, Nat.le_refl now⟩
    show 1 ≤ Tally.since ((key, now) :: log) key now
    rw [Tally.since_cons_self log key (Nat.le_refl now)]
    omega
  | some c =>
    have here := Counters.eq_of_find found
    refine ⟨?_, tallied.born key c here⟩
    show c.value + 1 ≤ Tally.since ((key, now) :: log) key c.born
    rw [Tally.since_cons_self log key (tallied.born key c here)]
    exact Nat.succ_le_succ (tallied.value key c here)

theorem incr (tallied : Tallied cs log now) (key : κ) :
    Tallied (cs.incr now key) ((key, now) :: log) now where
  value k c here := by
    obtain ⟨value, -⟩ := tallied.next key
    unfold Counters.incr at here
    by_cases same : k = key
    · subst same
      rw [Function.update_self] at here
      cases here
      exact value
    · rw [Function.update_of_ne same] at here
      exact Nat.le_trans (tallied.value k c here) (Tally.since_le_cons log _ k c.born)
  born k c here := by
    obtain ⟨-, born⟩ := tallied.next key
    unfold Counters.incr at here
    by_cases same : k = key
    · subst same
      rw [Function.update_self] at here
      cases here
      exact born
    · rw [Function.update_of_ne same] at here
      exact tallied.born k c here
  past e mem := by
    rcases List.mem_cons.mp mem with rfl | old
    · exact Nat.le_refl now
    · exact tallied.past e old

/-- An expiry changes neither what a counter says nor when it was made. -/
theorem expire (tallied : Tallied cs log now) (ttl : Nat) (key : κ) :
    Tallied (cs.expire now ttl key) log now := by
  unfold Counters.expire
  cases found : cs.find now key with
  | none => exact tallied
  | some c =>
    have there := Counters.eq_of_find found
    have old : ∀ k c', Function.update cs key (some { c with expireAt := some (now + ttl) }) k =
        some c' → ∃ c'', cs k = some c'' ∧ c'.value = c''.value ∧ c'.born = c''.born := by
      intro k c' here
      by_cases same : k = key
      · subst same
        rw [Function.update_self] at here
        cases here
        exact ⟨c, there, rfl, rfl⟩
      · rw [Function.update_of_ne same] at here
        exact ⟨c', here, rfl, rfl⟩
    refine ⟨fun k c' here => ?_, fun k c' here => ?_, tallied.past⟩
    · obtain ⟨c'', before, value, born⟩ := old k c' here
      rw [value, born]
      exact tallied.value k c'' before
    · obtain ⟨c'', before, -, born⟩ := old k c' here
      rw [born]
      exact tallied.born k c'' before

/-- **What a young counter says about the last moment.** -/
theorem lately (tallied : Tallied cs log now) {key : κ} {c : Counter} (here : cs key = some c)
    {span : Nat} (young : now < c.born + span) : c.value ≤ log.lately key span now := by
  refine Nat.le_trans (tallied.value key c here) ?_
  apply List.Sublist.length_le
  rw [show log.filter (fun e => decide (e.1 = key ∧ now < e.2 + span ∧ e.2 ≤ now)) =
      log.filter (fun e => decide (e.1 = key ∧ now < e.2 + span)) from ?_]
  · apply List.monotone_filter_right
    intro e old
    simp only [decide_eq_true_eq] at old ⊢
    exact ⟨old.1, by omega⟩
  · apply List.filter_congr
    intro e mem
    have := tallied.past e mem
    simp [this]

end Tallied

end Nixway.Theory
