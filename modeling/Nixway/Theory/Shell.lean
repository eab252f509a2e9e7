/-
# Theory.Shell -- the command a shell reads

The token recognition of a POSIX shell, a byte at a time (`step`), for what is written with
unquoted words, single quotes, backslashes and the redirections `<` and `>`.  Whatever else a text
has outside of quotes (expansions, patterns, comments, double quotes, other operators, a number
before a redirection) is not read at all, so that a text that is read has none of it.

Reading is compositional (`feed_append`), and a text that `singleQuote` has quoted is read back as
itself, whatever its bytes and wherever it stands in a word (`feed_singleQuote`).
-/
import Mathlib.Algebra.Order.Ring.Int
import Mathlib.Data.List.Basic

namespace Nixway.Theory.Shell

set_option autoImplicit false

abbrev Bytes := List UInt8

/-- The bytes of an ASCII text. -/
def ascii (text : String) : Bytes := text.toList.map fun c => UInt8.ofNat c.toNat

/-! ## Tokens -/

inductive Direction where
  | input | output
deriving DecidableEq

inductive Token where
  | word (text : Bytes)
  | redirect (direction : Direction)
deriving DecidableEq

/-- Where the reader stands: between words, in a word, in single quotes of one, behind a backslash
of one, or right behind a redirection. -/
inductive Mode where
  | gap
  | word (text : Bytes)
  | single (text : Bytes)
  | escape (text : Bytes)
  | operator
deriving DecidableEq

def apostrophe : UInt8 := 39

def backslash : UInt8 := 92

def isBlank (c : UInt8) : Bool := c = 32 || c = 9

/-- A byte that stands for itself outside of quotes. -/
def isPlain (c : UInt8) : Bool :=
  (48 ≤ c && c ≤ 57) || (65 ≤ c && c ≤ 90) || (97 ≤ c && c ≤ 122) || c ∈ ascii "-_./:=,@%+"

/-- The next mode and the tokens that are complete. -/
def step (mode : Mode) (c : UInt8) : Option (Mode × List Token) :=
  match mode with
  | .gap =>
    if isBlank c then some (.gap, [])
    else if c = apostrophe then some (.single [], [])
    else if c = backslash then some (.escape [], [])
    else if c = 60 then some (.operator, [.redirect .input])
    else if c = 62 then some (.operator, [.redirect .output])
    else if isPlain c then some (.word [c], [])
    else none
  | .word text =>
    if isBlank c then some (.gap, [.word text])
    else if c = apostrophe then some (.single text, [])
    else if c = backslash then some (.escape text, [])
    else if isPlain c then some (.word (text ++ [c]), [])
    else none
  | .single text =>
    if c = apostrophe then some (.word text, []) else some (.single (text ++ [c]), [])
  | .escape text => if c = 10 then none else some (.word (text ++ [c]), [])
  | .operator => if isBlank c then some (.gap, []) else none

def feed : Mode → Bytes → Option (Mode × List Token)
  | mode, [] => some (mode, [])
  | mode, c :: rest =>
    match step mode c with
    | none => none
    | some (next, ready) => (feed next rest).map fun read => (read.1, ready ++ read.2)

def Mode.finish : Mode → Option (List Token)
  | .gap => some []
  | .word text => some [.word text]
  | _ => none

def tokens (text : Bytes) : Option (List Token) :=
  (feed .gap text).bind fun read => read.1.finish.map (read.2 ++ ·)

/-! ## Commands -/

/-- A simple command. -/
structure Command where
  words : List Bytes := []
  redirects : List (Direction × Bytes) := []

def commandOf : List Token → Option Command
  | [] => some {}
  | .word text :: rest =>
    (commandOf rest).map fun command => { command with words := text :: command.words }
  | .redirect direction :: .word text :: rest =>
    (commandOf rest).map fun command =>
      { command with redirects := (direction, text) :: command.redirects }
  | .redirect _ :: _ => none

def reserved : List Bytes :=
  ["!", "case", "do", "done", "elif", "else", "esac", "fi", "for", "if", "in", "then", "until",
    "while"].map ascii

/-- The first word is the name of a command: no reserved word and no assignment. -/
def Command.Named (command : Command) : Prop :=
  ∃ name, command.words.head? = some name ∧ name ∉ reserved ∧ 61 ∉ name

instance (command : Command) : Decidable command.Named :=
  match found : command.words.head? with
  | none => isFalse fun ⟨_, same, _⟩ => by rw [found] at same; cases same
  | some name =>
    if fine : name ∉ reserved ∧ 61 ∉ name then isTrue ⟨name, found, fine⟩
    else isFalse fun ⟨_, same, holds⟩ => by
      rw [found] at same
      cases same
      exact fine holds

/-- **The one command of a text.** -/
def read (text : Bytes) : Option Command :=
  ((tokens text).bind commandOf).filter fun command => command.Named

/-! ## Reading on -/

theorem feed_append {mode next last : Mode} {front back : Bytes} {ts us : List Token}
    (first : feed mode front = some (next, ts)) (second : feed next back = some (last, us)) :
    feed mode (front ++ back) = some (last, ts ++ us) := by
  induction front generalizing mode ts with
  | nil =>
    cases first
    exact second
  | cons c front ih =>
    rw [feed] at first
    rw [List.cons_append, feed]
    cases stepped : step mode c with
    | none =>
      rw [stepped] at first
      cases first
    | some read =>
      rw [stepped] at first
      obtain ⟨later, here, same⟩ := Option.map_eq_some_iff.mp first
      cases same
      dsimp only
      rw [ih here, Option.map_some, List.append_assoc]

theorem tokens_of_feed_word {text last : Bytes} {ts : List Token}
    (fed : feed .gap text = some (.word last, ts)) : tokens text = some (ts ++ [Token.word last]) := by
  rw [tokens, fed]
  rfl

theorem read_of_tokens {text : Bytes} {ts : List Token} {command : Command}
    (has : tokens text = some ts) (parsed : commandOf ts = some command) (named : command.Named) :
    read text = some command := by
  rw [read, has, Option.bind_some, parsed]
  exact if_pos (decide_eq_true named)

/-! ## Single quotes -/

/-- The text in single quotes; a quote in it is written outside of them. -/
def singleQuote (text : Bytes) : Bytes :=
  apostrophe :: (text.flatMap fun c =>
    if c = apostrophe then [apostrophe, backslash, apostrophe, apostrophe] else [c]) ++ [apostrophe]

theorem feed_quoted (text word : Bytes) :
    feed (.single word) ((text.flatMap fun c =>
      if c = apostrophe then [apostrophe, backslash, apostrophe, apostrophe] else [c]) ++
        [apostrophe]) = some (.word (word ++ text), []) := by
  induction text generalizing word with
  | nil =>
    rw [List.append_nil]
    rfl
  | cons c text ih =>
    have longer : word ++ c :: text = (word ++ [c]) ++ text := by
      rw [List.append_assoc]
      rfl
    rw [List.flatMap_cons, List.append_assoc, longer]
    have first : feed (.single word)
        (if c = apostrophe then [apostrophe, backslash, apostrophe, apostrophe] else [c]) =
        some (.single (word ++ [c]), []) := by
      by_cases quote : c = apostrophe
      · subst quote
        rfl
      · rw [if_neg quote, feed, step, if_neg quote]
        rfl
    exact feed_append first (ih (word ++ [c]))

/-- **Quoting keeps a text**, in a word that has begun and in one that begins with it. -/
theorem feed_singleQuote (text word : Bytes) :
    feed (.word word) (singleQuote text) = some (.word (word ++ text), []) := by
  have opened : feed (.word word) [apostrophe] = some (.single word, []) := rfl
  exact feed_append opened (feed_quoted text word)

theorem feed_gap_singleQuote (text : Bytes) :
    feed .gap (singleQuote text) = some (.word text, []) := by
  have opened : feed .gap [apostrophe] = some (.single [], []) := rfl
  exact feed_append opened (feed_quoted text [])

end Nixway.Theory.Shell
