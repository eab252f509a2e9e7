/-
# Theory.Scanner -- lines read through a buffer

`scanLines` is the split function of a line reader: of what the buffer holds it says how far to
advance and which token that gives, or that more has to be read.  `lines` is the text cut all at
once, over any alphabet.  A token is the first line of what is left (`lines_line`) or, at the end
of the text, the last one (`lines_open`); a buffer without a newline is the beginning of a single
line (`lines_held`), so that a full one means a line that does not fit.
-/
import Mathlib.Algebra.Order.Ring.Int
import Mathlib.Data.List.Basic

namespace Nixway.Theory.Scanner

set_option autoImplicit false

universe u

variable {α : Type u} [DecidableEq α] (newline cr : α)

/-- The lines of a text; the last one need not end with a newline. -/
def lines : List α → List (List α)
  | [] => []
  | c :: text =>
    if c = newline then [] :: lines text
    else
      match lines text with
      | [] => [[c]]
      | line :: rest => (c :: line) :: rest

def dropCR (line : List α) : List α :=
  if line.getLast? = some cr then line.dropLast else line

/-- How far to advance in the data, and the token there. -/
def scanLines (data : List α) (atEOF : Bool) : Option (Nat × List α) :=
  if newline ∈ data then
    let i := data.idxOf newline
    some (i + 1, dropCR cr (data.take i))
  else if atEOF = true ∧ data ≠ [] then some (data.length, dropCR cr data)
  else none

variable {newline}

/-- What the buffer may hold: a whole line, the end of the text, or too little. -/
theorem scanLines_cases (held : List α) (atEOF : Bool) :
    (∃ line rest, newline ∉ line ∧ held = line ++ newline :: rest ∧
      scanLines newline cr held atEOF = some (line.length + 1, dropCR cr line)) ∨
    newline ∉ held ∧
      (atEOF = true ∧ held ≠ [] ∧
        scanLines newline cr held atEOF = some (held.length, dropCR cr held) ∨
      (atEOF = true → held = []) ∧ scanLines newline cr held atEOF = none) := by
  by_cases member : newline ∈ held
  · obtain ⟨line, rest, rfl, whole⟩ := List.eq_append_cons_of_mem member
    have index : (line ++ newline :: rest).idxOf newline = line.length := by
      rw [List.idxOf_append_of_notMem whole, List.idxOf_cons_self, Nat.add_zero]
    refine .inl ⟨line, rest, whole, rfl, ?_⟩
    rw [scanLines, if_pos member, index]
    show some (line.length + 1, dropCR cr ((line ++ newline :: rest).take line.length)) = _
    rw [List.take_left]
  · refine .inr ⟨member, ?_⟩
    rw [scanLines, if_neg member]
    by_cases last : atEOF = true ∧ held ≠ []
    · rw [if_pos last]
      exact .inl ⟨last.1, last.2, rfl⟩
    · rw [if_neg last]
      exact .inr ⟨fun ended => by simpa [ended] using last, rfl⟩

theorem lines_line {line : List α} (whole : newline ∉ line) (rest : List α) :
    lines newline (line ++ newline :: rest) = line :: lines newline rest := by
  induction line with
  | nil => simp [lines]
  | cons c line ih =>
    simp only [List.mem_cons, not_or] at whole
    rw [List.cons_append, lines, if_neg (Ne.symm whole.1), ih whole.2]

/-- **An open line only grows.** -/
theorem lines_held {c : α} {held : List α} (whole : newline ∉ c :: held) (text : List α) :
    ∃ more rest, lines newline (c :: held ++ text) = (c :: held ++ more) :: rest := by
  have other : c ≠ newline := fun same => whole (same ▸ List.mem_cons_self)
  rw [List.cons_append, lines, if_neg other]
  cases held with
  | nil =>
    cases lines newline ([] ++ text) with
    | nil => exact ⟨[], [], rfl⟩
    | cons line rest => exact ⟨line, rest, rfl⟩
  | cons d held =>
    obtain ⟨more, rest, cut⟩ := lines_held (List.not_mem_of_not_mem_cons whole) text
    rw [cut]
    exact ⟨more, rest, rfl⟩

theorem lines_open {held : List α} (some : held ≠ []) (whole : newline ∉ held) :
    lines newline held = [held] := by
  induction held with
  | nil => exact absurd rfl some
  | cons c held ih =>
    have other : c ≠ newline := fun same => whole (same ▸ List.mem_cons_self)
    rw [lines, if_neg other]
    cases held with
    | nil => rfl
    | cons d held => rw [ih (List.cons_ne_nil d held) (List.not_mem_of_not_mem_cons whole)]

end Nixway.Theory.Scanner
