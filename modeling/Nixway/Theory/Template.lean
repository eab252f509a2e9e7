/-
# Theory.Template -- texts made of fixed parts and quoted values

A template is a list of parts: text that is fixed, and values in quotes.  A text reads as a template
when the lexer finds in it the elements of the fixed parts, each read by itself, and one literal for
each value.  `reads_iff` says that this is no more than being the template's text, as long as no part
runs into what follows it.
-/
import Mathlib.Data.List.TakeWhile
import Nixway.Theory.Literals

namespace Nixway.Theory.Lexical

set_option autoImplicit false

inductive Part where
  | fixed (text : List Char)
  | quoted (quote : Char) (value : List Char)

def Part.text : Part → List Char
  | .fixed text => text
  | .quoted quote value => quote :: (value ++ [quote])

def Part.elements (lexer : Lexer) : Part → List Element
  | .fixed text => lex lexer text
  | .quoted quote value => [⟨.literal, quote :: (value ++ [quote])⟩]

/-- The lexer reads a text as a template. -/
def Reads (lexer : Lexer) (text : List Char) (template : List Part) : Prop :=
  lex lexer text = template.flatMap (Part.elements lexer)

variable {lexer : Lexer}

/-- A part ends where it should. -/
def Closed (lexer : Lexer) (part : Part) (rest : List Char) : Prop :=
  lex lexer (part.text ++ rest) = part.elements lexer ++ lex lexer rest

/-- Every part ends before the next. -/
inductive Apart (lexer : Lexer) : List Part → Prop where
  | nil : Apart lexer []
  | cons {part : Part} {template : List Part} (closed : Closed lexer part (template.flatMap Part.text))
      (later : Apart lexer template) : Apart lexer (part :: template)

theorem flatMap_elements (part : Part) : (part.elements lexer).flatMap Element.text = part.text := by
  cases part with
  | fixed text => exact flatMap_lex lexer text
  | quoted quote value => exact List.append_nil _

theorem reads_self {template : List Part} (apart : Apart lexer template) :
    Reads lexer (template.flatMap Part.text) template := by
  induction apart with
  | nil => rfl
  | cons closed later rest =>
    unfold Reads at rest ⊢
    rw [List.flatMap_cons, List.flatMap_cons, closed, rest]

/-- **A text reads as a template if it is its text.** -/
theorem reads_iff {template : List Part} (apart : Apart lexer template) {text : List Char} :
    Reads lexer text template ↔ text = template.flatMap Part.text := by
  constructor
  · intro reads
    have whole := congrArg (List.flatMap Element.text) reads
    rw [flatMap_lex, List.flatMap_assoc] at whole
    simpa only [flatMap_elements] using whole
  · rintro rfl
    exact reads_self apart

/-! ## Where parts end -/

theorem closed_last (text : List Char) : Closed lexer (.fixed text) [] := by
  unfold Closed Part.text Part.elements
  rw [List.append_nil]
  exact (List.append_nil _).symm

/-- A value ends with its quote. -/
theorem closed_quoted {quote : Char} {value rest : List Char}
    (reads : lexer quote (value ++ quote :: rest) = (.literal, value.length + 1)) :
    Closed lexer (.quoted quote value) rest := by
  have split : value ++ quote :: rest = (value ++ [quote]) ++ rest := by simp
  have length : (value ++ [quote]).length = value.length + 1 := List.length_append
  show lex lexer (quote :: (value ++ [quote]) ++ rest) = _
  rw [List.cons_append, ← split, lex_cons, reads, split, List.take_left' length, List.drop_left' length]
  rfl

/-- What a lexer makes of plain characters: of one that stops, by itself; of another, with the word
that it begins. -/
structure ReadsPlain (lexer : Lexer) (plain stops begins inWord : Char → Bool) (kind : Char → Kind) :
    Prop where
  stop : ∀ c rest, stops c = true → lexer c rest = (kind c, 0)
  apart : ∀ c, stops c = true → inWord c = false
  read : ∀ c d rest, plain c = true → plain d = true → lexer c (d :: rest) =
    (kind c, if begins c then ((d :: rest).takeWhile inWord).length else 0)

theorem length_takeWhile_lt {p : Char → Bool} {text : List Char} {c : Char} (member : c ∈ text)
    (stops : p c = false) : (text.takeWhile p).length < text.length := by
  refine Nat.lt_of_le_of_ne (List.takeWhile_prefix p).length_le fun full => ?_
  have whole := (List.takeWhile_prefix p).eq_of_length full
  have inside := List.takeWhile_eq_self_iff.mp whole c member
  rw [stops] at inside
  cases inside

/-- Plain text that ends with a stop ends there. -/
theorem closed_plain {plain stops begins inWord : Char → Bool} {kind : Char → Kind}
    (reads : ReadsPlain lexer plain stops begins inWord kind) {text : List Char}
    (all : text.all plain = true) (ends : text.getLast?.any stops = true) (rest : List Char) :
    Closed lexer (.fixed text) rest := by
  show lex lexer (text ++ rest) = lex lexer text ++ lex lexer rest
  induction size : text.length using Nat.strongRecOn generalizing text with
  | _ n ih =>
    match text, all, ends with
    | [c], _, ends =>
      have alone := reads.stop c
      rw [List.singleton_append, lex_cons, lex_cons, alone rest ends, alone [] ends]
      rfl
    | c :: d :: tail, all, ends =>
      obtain ⟨plainC, all⟩ := Bool.and_eq_true_iff.mp all
      have plainD := (Bool.and_eq_true_iff.mp all).1
      rw [List.getLast?_cons_cons] at ends
      obtain ⟨last, isLast, stopsLast⟩ := (Option.any_eq_true _ _).mp ends
      have short := @length_takeWhile_lt inWord (d :: tail) last (List.mem_of_getLast? isLast)
        (reads.apart last stopsLast)
      -- the element ends before the stop
      obtain ⟨reach, before, here, alone⟩ : ∃ reach, reach < (d :: tail).length ∧
          lexer c (d :: tail ++ rest) = (kind c, reach) ∧ lexer c (d :: tail) = (kind c, reach) := by
        rw [List.cons_append, reads.read c d _ plainC plainD, reads.read c d _ plainC plainD,
          ← List.cons_append, length_takeWhile_append short]
        by_cases word : begins c = true
        · exact ⟨_, short, by rw [if_pos word], by rw [if_pos word]⟩
        · exact ⟨0, Nat.succ_pos _, by rw [if_neg word], by rw [if_neg word]⟩
      have size' : (d :: tail).length + 1 = n := size
      have later := @ih ((d :: tail).drop reach).length (by rw [List.length_drop]; omega)
        ((d :: tail).drop reach)
        (List.all_eq_true.mpr fun x member => List.all_eq_true.mp all x (List.mem_of_mem_drop member))
        (by rw [List.getLast?_drop, if_neg (by omega)]; exact ends) rfl
      rw [List.cons_append, lex_cons, lex_cons c, here, alone,
        List.take_append_of_le_length (by omega), List.drop_append_of_le_length (by omega), later]
      rfl

end Nixway.Theory.Lexical
