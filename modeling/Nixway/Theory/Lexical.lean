/-
# Theory.Lexical -- the statements of a text

A `Lexer` says of what kind the element at the front of a text is and how far it reaches; one of a
`StateLexer` hands on a state.  `lex` and `lexFrom` cut a text into its elements and lose nothing
(`flatMap_lexFrom`).  Semicolons separate the
statements, blanks and comments do not count (`statements`).  The first element that counts
begins the first statement (`statements_of_front`), and it stands `InSight` when only
separators are before it and one, or the end, is behind it.
-/
import Mathlib.Algebra.Order.Ring.Int
import Mathlib.Data.List.Basic

namespace Nixway.Theory.Lexical

set_option autoImplicit false

inductive Kind where
  | blank | comment | literal | semicolon | word | other
deriving DecidableEq

structure Element where
  kind : Kind
  text : List Char

/-- Of the element that a character begins: its kind, and how many characters follow in it. -/
abbrev Lexer := Char → List Char → Kind × Nat

/-- A lexer for each state, and the state behind the element. -/
abbrev StateLexer (σ : Type) := σ → Char → List Char → (Kind × Nat) × σ

/-- At most `fuel` elements. -/
def lexUpTo {σ : Type} (lexer : StateLexer σ) : Nat → σ → List Char → List Element
  | 0, _, _ => []
  | _ + 1, _, [] => []
  | fuel + 1, s, c :: rest =>
    ⟨(lexer s c rest).1.1, c :: rest.take (lexer s c rest).1.2⟩ ::
      lexUpTo lexer fuel (lexer s c rest).2 (rest.drop (lexer s c rest).1.2)

def lexFrom {σ : Type} (lexer : StateLexer σ) (start : σ) (text : List Char) : List Element :=
  lexUpTo lexer text.length start text

/-- The lexer with nothing to hand on. -/
def Lexer.still (lexer : Lexer) : StateLexer Unit := fun _ c rest => (lexer c rest, ())

def lex (lexer : Lexer) (text : List Char) : List Element := lexFrom lexer.still () text

/-! ## Reaches of elements -/

/-- Up to the end of the line. -/
def lineReach (breaks : List Char) (text : List Char) : Nat :=
  (text.takeWhile fun c => c ∉ breaks).length

/-- Behind the end of a comment at a depth; `nests` says at which depths another one may open. -/
def blockReach (nests : Nat → Bool) : Nat → List Char → Nat
  | _, [] => 0
  | _, [_] => 1
  | depth, c :: d :: rest =>
    if c = '*' ∧ d = '/' then
      if depth = 0 then 2 else 2 + blockReach nests (depth - 1) rest
    else if c = '/' ∧ d = '*' ∧ nests depth then 2 + blockReach nests (depth + 1) rest
    else 1 + blockReach nests depth (d :: rest)

/-- Behind the closing quote; a doubled quote does not close, and with `escapes` neither does one
behind a backslash. -/
def quotedReach (quote : Char) (escapes : Bool) : List Char → Nat
  | [] => 0
  | [_] => 1
  | c :: d :: rest =>
    if c = quote then if d = quote then 2 + quotedReach quote escapes rest else 1
    else if escapes ∧ c = '\\' then 2 + quotedReach quote escapes rest
    else 1 + quotedReach quote escapes (d :: rest)

/-- Behind at most `fuel` further parts of a quoted text, each behind a gap that leads to its opening
quote. -/
def continuedReach (quote : Char) (escapes : Bool) (gap : List Char → Option Nat) :
    Nat → List Char → Nat
  | 0, _ => 0
  | fuel + 1, text =>
    let closed := quotedReach quote escapes text
    match gap (text.drop closed) with
    | none => closed
    | some opened =>
      closed + opened + continuedReach quote escapes gap fuel (text.drop (closed + opened))

/-- Behind the next occurrence of a mark. -/
def markReach (mark : List Char) : List Char → Nat
  | [] => 0
  | c :: rest => if mark.isPrefixOf (c :: rest) then mark.length else 1 + markReach mark rest

/-! ## Statements -/

/-- The element is part of a statement. -/
def Element.Significant (e : Element) : Prop :=
  e.kind ≠ .blank ∧ e.kind ≠ .comment ∧ e.kind ≠ .semicolon

instance (e : Element) : Decidable e.Significant := inferInstanceAs (Decidable (_ ∧ _ ∧ _))

/-- What stands between semicolons, without blanks and comments. -/
def pieces : List Element → List (List Element)
  | [] => [[]]
  | e :: rest =>
    if e.kind = .semicolon then [] :: pieces rest
    else if e.Significant then (pieces rest).modifyHead (e :: ·)
    else pieces rest

def statements (elements : List Element) : List (List Element) :=
  (pieces elements).filter fun piece => piece ≠ []

/-- Only separators stand before the first element that counts, and behind it one or nothing. -/
def InSight (separator : Char → Bool) (elements : List Element) : Prop :=
  ∃ front e back, elements = front ++ e :: back ∧ (∀ x ∈ front, ¬ x.Significant) ∧ e.Significant ∧
    (∀ c ∈ front.flatMap Element.text, separator c = true) ∧
    ∀ c, (back.flatMap Element.text).head? = some c → separator c = true

variable {σ : Type} {lexer : StateLexer σ}

theorem flatMap_lexUpTo {fuel : Nat} {s : σ} {text : List Char} (enough : text.length ≤ fuel) :
    (lexUpTo lexer fuel s text).flatMap Element.text = text := by
  induction fuel generalizing s text with
  | zero => rw [List.length_eq_zero_iff.mp (Nat.le_zero.mp enough), lexUpTo, List.flatMap_nil]
  | succ fuel ih =>
    cases text with
    | nil => rfl
    | cons c rest =>
      have shorter : (rest.drop (lexer s c rest).1.2).length ≤ fuel := by
        rw [List.length_drop]
        rw [List.length_cons] at enough
        omega
      rw [lexUpTo, List.flatMap_cons, ih shorter, List.cons_append, List.take_append_drop]

/-- **Lexing loses nothing.** -/
theorem flatMap_lexFrom (lexer : StateLexer σ) (start : σ) (text : List Char) :
    (lexFrom lexer start text).flatMap Element.text = text :=
  flatMap_lexUpTo (Nat.le_refl _)

theorem flatMap_lex (lexer : Lexer) (text : List Char) :
    (lex lexer text).flatMap Element.text = text := flatMap_lexFrom _ _ _

theorem pieces_ne_nil (elements : List Element) : pieces elements ≠ [] := by
  induction elements with
  | nil => exact List.cons_ne_nil _ _
  | cons e rest ih =>
    unfold pieces
    split
    · exact List.cons_ne_nil _ _
    · split
      · cases found : pieces rest with
        | nil => exact absurd found ih
        | cons piece more => exact List.cons_ne_nil _ _
      · exact ih

theorem statements_skip {e : Element} (rest : List Element) (skipped : ¬ e.Significant) :
    statements (e :: rest) = statements rest := by
  unfold statements
  rw [pieces]
  by_cases ends : e.kind = .semicolon
  · rw [if_pos ends]
    exact List.filter_cons_of_neg (by simp)
  · rw [if_neg ends, if_neg skipped]

/-- **The first element that counts begins the first statement.** -/
theorem statements_of_front {front : List Element} {e : Element} (back : List Element)
    (skipped : ∀ x ∈ front, ¬ x.Significant) (counts : e.Significant) :
    ∃ more later, statements (front ++ e :: back) = (e :: more) :: later := by
  induction front with
  | nil =>
    rw [List.nil_append, statements, pieces, if_neg counts.2.2, if_pos counts]
    cases found : pieces back with
    | nil => exact absurd found (pieces_ne_nil back)
    | cons piece later =>
      refine ⟨piece, later.filter fun piece => piece ≠ [], ?_⟩
      rw [List.modifyHead_cons, List.filter_cons_of_pos (by simp)]
  | cons x front ih =>
    rw [List.cons_append, statements_skip _ (skipped x List.mem_cons_self)]
    exact ih fun y member => skipped y (List.mem_cons_of_mem x member)

theorem InSight.split {separator : Char → Bool} {elements : List Element}
    (sight : InSight separator elements) {e : Element} {more : List Element}
    {later : List (List Element)} (first : statements elements = (e :: more) :: later) :
    ∃ before behind, elements.flatMap Element.text = before ++ (e.text ++ behind) ∧
      (∀ c ∈ before, separator c = true) ∧ ∀ c, behind.head? = some c → separator c = true := by
  obtain ⟨front, d, back, rfl, skipped, counts, before, behind⟩ := sight
  obtain ⟨more', later', found⟩ := statements_of_front back skipped counts
  rw [found] at first
  obtain ⟨rfl, -⟩ := List.cons.inj (List.cons.inj first).1
  refine ⟨front.flatMap Element.text, back.flatMap Element.text, ?_, before, behind⟩
  rw [List.flatMap_append, List.flatMap_cons]

end Nixway.Theory.Lexical
