/-
# Theory.Lines -- texts as lines, and readers with a limit

`lines` cuts a text at its newlines and `unlines` ends every line with one; a text that ends
with a newline is cut independently of what follows it (`lines_append`), so a log that is only
ever appended whole lines is the lines of its parts.

`scanned` is what a line reader with a bounded buffer delivers: it stops for good at the first
line that does not fit, and drops a carriage return at the end of a line.
-/
import Mathlib.Algebra.Order.Ring.Int
import Mathlib.Data.List.TakeWhile

namespace Nixway.Theory.Lines

set_option autoImplicit false

/-! ## Lines -/

/-- The lines of a text; the last one need not end with a newline. -/
def lines : List Char → List (List Char)
  | [] => []
  | c :: cs =>
    if c = '\n' then [] :: lines cs
    else
      match lines cs with
      | [] => [[c]]
      | line :: rest => (c :: line) :: rest

def unlines (ls : List (List Char)) : List Char := ls.flatMap fun line => line ++ ['\n']

/-- The text is empty or ends with a newline. -/
def Terminated (cs : List Char) : Prop := cs = [] ∨ ∃ earlier, cs = earlier ++ ['\n']

variable {cs : List Char} {ls : List (List Char)}

@[simp] theorem lines_nil : lines [] = [] := rfl

@[simp] theorem unlines_nil : unlines [] = [] := rfl

theorem unlines_cons (line : List Char) (ls : List (List Char)) :
    unlines (line :: ls) = line ++ '\n' :: unlines ls := by
  simp [unlines]

theorem unlines_append (first rest : List (List Char)) :
    unlines (first ++ rest) = unlines first ++ unlines rest :=
  List.flatMap_append

theorem newline_not_mem_lines : ∀ line ∈ lines cs, '\n' ∉ line := by
  induction cs with
  | nil => simp
  | cons c cs ih =>
    rw [lines]
    split
    · simpa using ih
    · next other =>
      split
      · simpa using Ne.symm other
      · next line rest cut =>
        rw [cut] at ih
        intro l member
        rcases List.mem_cons.mp member with rfl | later
        · simpa [Ne.symm other] using ih line List.mem_cons_self
        · exact ih l (List.mem_cons_of_mem _ later)

theorem lines_line {line : List Char} (whole : '\n' ∉ line) (cs : List Char) :
    lines (line ++ '\n' :: cs) = line :: lines cs := by
  induction line with
  | nil => simp [lines]
  | cons c line ih =>
    simp only [List.mem_cons, not_or] at whole
    rw [List.cons_append, lines, if_neg (Ne.symm whole.1), ih whole.2]

theorem lines_unlines (whole : ∀ line ∈ ls, '\n' ∉ line) : lines (unlines ls) = ls := by
  induction ls with
  | nil => rfl
  | cons line ls ih =>
    rw [unlines_cons, lines_line (whole line List.mem_cons_self),
      ih fun l member => whole l (List.mem_cons_of_mem _ member)]

theorem lines_ne_nil (some : cs ≠ []) : lines cs ≠ [] := by
  cases cs with
  | nil => exact absurd rfl some
  | cons c cs =>
    rw [lines]
    split
    · exact List.cons_ne_nil _ _
    · split <;> exact List.cons_ne_nil _ _

theorem Terminated.nil : Terminated [] := .inl rfl

theorem terminated_newline (cs : List Char) : Terminated (cs ++ ['\n']) := .inr ⟨cs, rfl⟩

theorem Terminated.append {first rest : List Char} (firstEnds : Terminated first)
    (restEnds : Terminated rest) : Terminated (first ++ rest) := by
  rcases restEnds with rfl | ⟨earlier, rfl⟩
  · rwa [List.append_nil]
  · exact .inr ⟨first ++ earlier, (List.append_assoc _ _ _).symm⟩

theorem terminated_unlines (ls : List (List Char)) : Terminated (unlines ls) := by
  induction ls with
  | nil => exact .nil
  | cons line ls ih =>
    have head : Terminated (line ++ ['\n']) := terminated_newline line
    simpa [unlines_cons] using head.append ih

/-- **What follows a newline is cut by itself.** -/
theorem lines_append (ends : Terminated cs) (rest : List Char) :
    lines (cs ++ rest) = lines cs ++ lines rest := by
  induction cs with
  | nil => rfl
  | cons c cs ih =>
    obtain ⟨earlier, same⟩ := ends.resolve_left (List.cons_ne_nil _ _)
    have tail : cs = [] ∧ c = '\n' ∨ cs ≠ [] ∧ Terminated cs := by
      cases earlier with
      | nil =>
        obtain ⟨rfl, rfl⟩ := List.cons.inj same
        exact .inl ⟨rfl, rfl⟩
      | cons d earlier =>
        obtain ⟨-, rfl⟩ := List.cons.inj same
        exact .inr ⟨by simp, terminated_newline earlier⟩
    obtain ⟨rfl, rfl⟩ | ⟨some, tailEnds⟩ := tail
    · simp [lines]
    · rw [List.cons_append, lines, lines, ih tailEnds]
      split
      · rfl
      · obtain ⟨line, more, cut⟩ := List.exists_cons_of_ne_nil (lines_ne_nil some)
        rw [cut]
        rfl

theorem lines_flatMap {α : Type} {f : α → List Char} {xs : List α}
    (each : ∀ x ∈ xs, Terminated (f x)) :
    lines (xs.flatMap f) = xs.flatMap fun x => lines (f x) := by
  induction xs with
  | nil => rfl
  | cons x xs ih =>
    rw [List.flatMap_cons, List.flatMap_cons, lines_append (each x List.mem_cons_self),
      ih fun y member => each y (List.mem_cons_of_mem _ member)]

theorem unlines_flatMap {α : Type} (f : α → List (List Char)) (xs : List α) :
    unlines (xs.flatMap f) = xs.flatMap fun x => unlines (f x) := by
  induction xs with
  | nil => rfl
  | cons x xs ih => rw [List.flatMap_cons, List.flatMap_cons, unlines_append, ih]

/-! ## Lists of parts, measured part by part -/

section Parts

variable {α β : Type} {xs : List α}

/-- Equal sums of terms that are ordered pairwise are sums of equal terms. -/
theorem eq_of_sum_eq {f g : α → Nat} (le : ∀ x ∈ xs, f x ≤ g x)
    (same : (xs.map f).sum = (xs.map g).sum) : ∀ x ∈ xs, f x = g x := by
  induction xs with
  | nil => intro x member; cases member
  | cons y ys ih =>
    simp only [List.map_cons, List.sum_cons] at same
    have headLe : f y ≤ g y := le y List.mem_cons_self
    have tailLe : ∀ x ∈ ys, f x ≤ g x := fun x member => le x (List.mem_cons_of_mem _ member)
    have sumLe : (ys.map f).sum ≤ (ys.map g).sum := by
      clear ih same le
      induction ys with
      | nil => exact Nat.le_refl 0
      | cons z zs ih =>
        simp only [List.map_cons, List.sum_cons]
        exact Nat.add_le_add (tailLe z List.mem_cons_self)
          (ih fun x member => tailLe x (List.mem_cons_of_mem _ member))
    intro x member
    rcases List.mem_cons.mp member with rfl | later
    · omega
    · exact ih tailLe (by omega) x later

/-- Equal lists whose parts have equal lengths have equal parts. -/
theorem eq_of_flatMap_eq {f g : α → List β} (lengths : ∀ x ∈ xs, (f x).length = (g x).length)
    (same : xs.flatMap f = xs.flatMap g) : ∀ x ∈ xs, f x = g x := by
  induction xs with
  | nil => intro x member; cases member
  | cons y ys ih =>
    rw [List.flatMap_cons, List.flatMap_cons] at same
    obtain ⟨head, tail⟩ := List.append_inj same (lengths y List.mem_cons_self)
    intro x member
    rcases List.mem_cons.mp member with rfl | later
    · exact head
    · exact ih (fun z m => lengths z (List.mem_cons_of_mem _ m)) tail x later

end Parts

/-! ## A reader with a limit -/

def byteSize (cs : List Char) : Nat := (cs.map Char.utf8Size).sum

/-- The line without a carriage return at its end. -/
def dropCR (line : List Char) : List Char :=
  if line.getLast? = some '\r' then line.dropLast else line

section Reader

variable (limit : Nat)

/-- The line fits into a buffer of this size. -/
def Fits (line : List Char) : Prop := byteSize line < limit

instance (line : List Char) : Decidable (Fits limit line) :=
  inferInstanceAs (Decidable (_ < _))

/-- The lines that are delivered. -/
def scanned (cs : List Char) : List (List Char) :=
  ((lines cs).takeWhile fun line => Fits limit line).map dropCR

/-- The reader has stopped before the end. -/
def gaveUp (cs : List Char) : Bool := (lines cs).any fun line => ¬ Fits limit line

end Reader

variable {limit : Nat}

theorem dropCR_cases (line : List Char) :
    dropCR line = line ∧ line.getLast? ≠ some '\r' ∨ line = dropCR line ++ ['\r'] := by
  unfold dropCR
  split
  · next ends =>
    obtain ⟨earlier, rfl⟩ := List.getLast?_eq_some_iff.mp ends
    rw [List.dropLast_concat]
    exact .inr rfl
  · next other => exact .inl ⟨rfl, other⟩

theorem dropCR_eq_iff {line : List Char} : dropCR line = line ↔ line.getLast? ≠ some '\r' := by
  constructor
  · intro same
    obtain ⟨-, other⟩ | ends := dropCR_cases line
    · exact other
    · have lengths := congrArg List.length ends
      rw [same, List.length_append] at lengths
      exact absurd lengths (by simp)
  · intro other
    rw [dropCR, if_neg other]

theorem dropCR_subset (line : List Char) : dropCR line ⊆ line := by
  obtain ⟨same, -⟩ | ends := dropCR_cases line
  · rw [same]
    exact List.Subset.refl line
  · intro c member
    rw [ends]
    exact List.mem_append_left _ member

theorem byteSize_dropCR_le (line : List Char) : byteSize (dropCR line) ≤ byteSize line := by
  obtain ⟨same, -⟩ | ends := dropCR_cases line
  · rw [same]
  · rw [congrArg byteSize ends, byteSize, byteSize, List.map_append, List.sum_append]
    exact Nat.le_add_right _ _

theorem scanned_eq (fits : ∀ line ∈ lines cs, Fits limit line) :
    scanned limit cs = (lines cs).map dropCR := by
  rw [scanned, List.takeWhile_eq_self_iff.mpr fun line member => decide_eq_true (fits line member)]

theorem gaveUp_iff : gaveUp limit cs = false ↔ ∀ line ∈ lines cs, Fits limit line := by
  simp [gaveUp]

/-- Every delivered line fits and is a line. -/
theorem of_mem_scanned {line : List Char} (member : line ∈ scanned limit cs) :
    Fits limit line ∧ '\n' ∉ line := by
  obtain ⟨raw, taken, rfl⟩ := List.mem_map.mp member
  have fits : Fits limit raw :=
    of_decide_eq_true (List.mem_takeWhile_imp (p := fun line => decide (Fits limit line)) taken)
  refine ⟨Nat.lt_of_le_of_lt (byteSize_dropCR_le raw) fits, fun newline => ?_⟩
  exact newline_not_mem_lines raw ((List.takeWhile_prefix _).subset taken) (dropCR_subset raw newline)

theorem lines_unlines_scanned : lines (unlines (scanned limit cs)) = scanned limit cs :=
  lines_unlines fun _ member => (of_mem_scanned member).2

end Nixway.Theory.Lines
