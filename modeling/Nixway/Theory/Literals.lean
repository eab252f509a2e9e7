/-
# Theory.Literals -- the tokens of a text and the values of its literals

The tokens of a text are its elements without blanks and comments, each decoded (`tokens`).  A text
is read from its front: a piece whose elements are settled within it, and then the rest
(`tokens_piece`).  That a text does
not have certain tokens is shown by counting: what the tokens cost of one character cannot be more
than the text has (`sum_cost_le`).

Quotes are escaped by doubling them (`doubled`, `undouble`), or with a backslash; a text between two
marks ends at the first of them (`markReach_append`, `not_infix_of_markReach`).
-/
import Nixway.Theory.Lexical
import Mathlib.Data.List.Infix
import Mathlib.Algebra.BigOperators.Group.List.Basic

namespace Nixway.Theory.Lexical

set_option autoImplicit false

variable {lexer : Lexer}

/-! ## From the front -/

/-- The elements of a piece of a text, where what the lexer says of each is settled within the
piece. -/
def pieceElements (lexer : Lexer) (settles : Char → List Char → Bool) :
    Nat → List Char → Option (List Element)
  | _, [] => some []
  | 0, _ :: _ => none
  | fuel + 1, c :: rest =>
    if settles c rest ∧ (lexer c rest).2 ≤ rest.length then
      (pieceElements lexer settles fuel (rest.drop (lexer c rest).2)).map
        (⟨(lexer c rest).1, c :: rest.take (lexer c rest).2⟩ :: ·)
    else none

theorem lexUpTo_enough {fuel : Nat} {text : List Char} (enough : text.length ≤ fuel) :
    lexUpTo lexer.still fuel () text = lex lexer text := by
  suffices ∀ more less : Nat, text.length ≤ more → text.length ≤ less →
      lexUpTo lexer.still more () text = lexUpTo lexer.still less () text from
    this _ _ enough (Nat.le_refl _)
  clear enough
  intro more
  induction more generalizing text with
  | zero =>
    intro less none _
    rw [List.length_eq_zero_iff.mp (Nat.le_zero.mp none)]
    cases less <;> rfl
  | succ more ih =>
    intro less enough enough'
    cases text with
    | nil => cases less <;> rfl
    | cons c rest =>
      cases less with
      | zero => cases enough'
      | succ less =>
        have shorter : (rest.drop (lexer c rest).2).length ≤ rest.length := by
          rw [List.length_drop]
          exact Nat.sub_le _ _
        have enough := Nat.le_of_succ_le_succ enough
        have enough' := Nat.le_of_succ_le_succ enough'
        rw [lexUpTo, lexUpTo]
        exact congrArg _ (ih less (shorter.trans enough) (shorter.trans enough'))

theorem lex_cons (c : Char) (rest : List Char) :
    lex lexer (c :: rest) =
      ⟨(lexer c rest).1, c :: rest.take (lexer c rest).2⟩ ::
        lex lexer (rest.drop (lexer c rest).2) := by
  have shorter : (rest.drop (lexer c rest).2).length ≤ rest.length := by
    rw [List.length_drop]
    exact Nat.sub_le _ _
  show lexUpTo lexer.still (rest.length + 1) () (c :: rest) = _
  rw [lexUpTo]
  exact congrArg _ (lexUpTo_enough shorter)

/-- What is settled does not depend on what follows. -/
theorem lex_piece {settles : Char → List Char → Bool}
    (settled : ∀ c piece rest, settles c piece = true → lexer c (piece ++ rest) = lexer c piece)
    {fuel : Nat} {piece : List Char} {elements : List Element}
    (has : pieceElements lexer settles fuel piece = some elements) (rest : List Char) :
    lex lexer (piece ++ rest) = elements ++ lex lexer rest := by
  induction fuel generalizing piece elements with
  | zero =>
    cases piece with
    | nil =>
      cases has
      rfl
    | cons c piece => cases has
  | succ fuel ih =>
    cases piece with
    | nil =>
      cases has
      rfl
    | cons c piece =>
      rw [pieceElements] at has
      split at has
      · next holds =>
        obtain ⟨later, found, rfl⟩ := Option.map_eq_some_iff.mp has
        rw [List.cons_append, lex_cons, settled c piece rest holds.1,
          List.take_append_of_le_length holds.2, List.drop_append_of_le_length holds.2,
          ih found, List.cons_append]
      · cases has

theorem mem_lex {text : List Char} {e : Element} (member : e ∈ lex lexer text) :
    ∃ c rest, e = ⟨(lexer c rest).1, c :: rest.take (lexer c rest).2⟩ := by
  unfold lex lexFrom at member
  generalize text.length = fuel at member
  induction fuel generalizing text with
  | zero => cases member
  | succ fuel ih =>
    cases text with
    | nil => cases member
    | cons c rest =>
      rcases List.mem_cons.mp member with rfl | later
      · exact ⟨c, rest, rfl⟩
      · exact ih later

theorem infix_of_mem_lex {text : List Char} {e : Element} (member : e ∈ lex lexer text) :
    e.text <:+: text := by
  obtain ⟨front, back, split⟩ := List.append_of_mem member
  have whole := flatMap_lex lexer text
  rw [split, List.flatMap_append, List.flatMap_cons, ← List.append_assoc] at whole
  exact ⟨_, _, whole⟩

/-! ## Tokens -/

/-- The element is no blank and no comment. -/
def Element.Counts (e : Element) : Prop := e.kind ≠ .blank ∧ e.kind ≠ .comment

instance (e : Element) : Decidable e.Counts := inferInstanceAs (Decidable (_ ∧ _))

section Tokens

variable {τ : Type} {decode : Element → τ}

def tokensOf (decode : Element → τ) (elements : List Element) : List τ :=
  (elements.filter fun e => e.Counts).map decode

/-- What a text consists of. -/
def tokens (lexer : Lexer) (decode : Element → τ) (text : List Char) : List τ :=
  tokensOf decode (lex lexer text)

/-- **The tokens of a piece and of what follows.** -/
theorem tokens_piece {settles : Char → List Char → Bool}
    (settled : ∀ c piece rest, settles c piece = true → lexer c (piece ++ rest) = lexer c piece)
    (fuel : Nat) {piece : List Char} {ts : List τ}
    (has : (pieceElements lexer settles fuel piece).map (tokensOf decode) = some ts)
    (rest : List Char) :
    tokens lexer decode (piece ++ rest) = ts ++ tokens lexer decode rest := by
  obtain ⟨elements, found, rfl⟩ := Option.map_eq_some_iff.mp has
  unfold tokens tokensOf
  rw [lex_piece settled found, List.filter_append, List.map_append]

theorem tokens_cons {c : Char} {rest : List Char} {kind : Kind} {reach : Nat}
    (reads : lexer c rest = (kind, reach)) (counts : kind ≠ .blank ∧ kind ≠ .comment) :
    tokens lexer decode (c :: rest) =
      decode ⟨kind, c :: rest.take reach⟩ :: tokens lexer decode (rest.drop reach) := by
  unfold tokens tokensOf
  rw [lex_cons, reads, List.filter_cons_of_pos, List.map_cons]
  exact decide_eq_true counts

theorem mem_tokens {text : List Char} {t : τ} (member : t ∈ tokens lexer decode text) :
    ∃ c rest, decode ⟨(lexer c rest).1, c :: rest.take (lexer c rest).2⟩ = t := by
  obtain ⟨e, there, rfl⟩ := List.mem_map.mp member
  obtain ⟨c, rest, rfl⟩ := mem_lex (List.mem_filter.mp there).1
  exact ⟨c, rest, rfl⟩

/-- **Counting.**  Tokens whose cost is in their texts cost no more than the text has. -/
theorem sum_cost_le {cost : τ → Nat} {mark : Char}
    (paid : ∀ e, cost (decode e) ≤ e.text.count mark) (text : List Char) :
    ((tokens lexer decode text).map cost).sum ≤ text.count mark := by
  suffices ∀ elements : List Element,
      ((tokensOf decode elements).map cost).sum ≤ (elements.flatMap Element.text).count mark by
    have whole := this (lex lexer text)
    rwa [flatMap_lex] at whole
  intro elements
  induction elements with
  | nil => exact Nat.le_refl 0
  | cons e rest ih =>
    rw [List.flatMap_cons, List.count_append]
    by_cases counts : e.Counts
    · rw [tokensOf, List.filter_cons_of_pos (p := fun e : Element => e.Counts) (decide_eq_true counts),
        List.map_cons, List.map_cons, List.sum_cons]
      exact Nat.add_le_add (paid e) ih
    · rw [tokensOf, List.filter_cons_of_neg (p := fun e : Element => e.Counts)
        (by simpa using counts)]
      exact Nat.le_trans ih (Nat.le_add_left _ _)

end Tokens

/-! ## Doubled quotes -/

/-- The text with its quotes doubled. -/
def doubled (quote : Char) (text : List Char) : List Char :=
  text.flatMap fun c => if c = quote then [quote, quote] else [c]

/-- A literal that is closed within a piece. -/
theorem quotedReach_append {quote : Char} {escapes : Bool} {piece : List Char}
    (inside : quotedReach quote escapes piece < piece.length) (rest : List Char) :
    quotedReach quote escapes (piece ++ rest) = quotedReach quote escapes piece := by
  fun_induction quotedReach quote escapes piece with
  | case1 => cases inside
  | case2 => exact absurd inside (Nat.lt_irrefl 1)
  | case3 piece ih =>
    have later : quotedReach quote escapes piece < piece.length := by
      rw [List.length_cons, List.length_cons] at inside
      omega
    rw [List.cons_append, List.cons_append, quotedReach, if_pos rfl, if_pos rfl, ih later]
  | case4 d piece other => rw [List.cons_append, List.cons_append, quotedReach, if_pos rfl, if_neg other]
  | case5 c d piece other escaped ih =>
    have later : quotedReach quote escapes piece < piece.length := by
      rw [List.length_cons, List.length_cons] at inside
      omega
    rw [List.cons_append, List.cons_append, quotedReach, if_neg other, if_pos escaped, ih later]
  | case6 c d piece other plain ih =>
    have later : quotedReach quote escapes (d :: piece) < (d :: piece).length := by
      rw [List.length_cons] at inside
      omega
    rw [List.cons_append, List.cons_append, quotedReach, if_neg other, if_neg plain,
      ← List.cons_append, ih later]

theorem length_takeWhile_append {p : Char → Bool} {piece : List Char}
    (inside : (piece.takeWhile p).length < piece.length) (rest : List Char) :
    ((piece ++ rest).takeWhile p).length = (piece.takeWhile p).length := by
  rw [List.takeWhile_append, if_neg (Nat.ne_of_lt inside)]

/-- The value of what stands from behind an opening quote up to the closing one. -/
def undouble (quote : Char) : List Char → Option (List Char)
  | [] => none
  | [c] => if c = quote then some [] else none
  | c :: d :: rest =>
    if c = quote then
      if d = quote then (undouble quote rest).map (quote :: ·) else none
    else (undouble quote (d :: rest)).map (c :: ·)

section Quotes

variable {quote : Char}

theorem doubled_cons_self (text : List Char) :
    doubled quote (quote :: text) = quote :: quote :: doubled quote text := by
  rw [doubled, List.flatMap_cons, if_pos rfl]
  rfl

theorem doubled_cons {c : Char} (other : c ≠ quote) (text : List Char) :
    doubled quote (c :: text) = c :: doubled quote text := by
  rw [doubled, List.flatMap_cons, if_neg other]
  rfl

theorem doubled_of_free {text : List Char} (free : quote ∉ text) : doubled quote text = text := by
  induction text with
  | nil => rfl
  | cons c text ih =>
    obtain ⟨other, free⟩ := not_or.mp (List.mem_cons.not.mp free)
    rw [doubled_cons (Ne.symm other), ih free]

theorem count_doubled (text : List Char) :
    (doubled quote text).count quote = 2 * text.count quote := by
  induction text with
  | nil => rfl
  | cons c text ih =>
    by_cases here : c = quote
    · rw [here, doubled_cons_self, List.count_cons_self, List.count_cons_self,
        List.count_cons_self, ih]
      omega
    · rw [doubled_cons here, List.count_cons_of_ne here, List.count_cons_of_ne here, ih]

theorem count_doubled_of_ne {c : Char} (other : c ≠ quote) (text : List Char) :
    (doubled quote text).count c = text.count c := by
  induction text with
  | nil => rfl
  | cons d text ih =>
    by_cases here : d = quote
    · rw [here, doubled_cons_self, List.count_cons_of_ne (Ne.symm other),
        List.count_cons_of_ne (Ne.symm other), List.count_cons_of_ne (Ne.symm other), ih]
    · rw [doubled_cons here, List.count_cons, List.count_cons, ih]

theorem mem_doubled {c : Char} {text : List Char} : c ∈ doubled quote text ↔ c ∈ text := by
  induction text with
  | nil => exact Iff.rfl
  | cons d text ih =>
    by_cases here : d = quote
    · rw [here, doubled_cons_self, List.mem_cons, List.mem_cons, List.mem_cons, ih, or_self_left]
    · rw [doubled_cons here, List.mem_cons, List.mem_cons, ih]

theorem quotedReach_cons {c : Char} (other : c ≠ quote) {rest : List Char} (more : rest ≠ []) :
    quotedReach quote false (c :: rest) = 1 + quotedReach quote false rest := by
  cases rest with
  | nil => exact absurd rfl more
  | cons d rest =>
    rw [quotedReach, if_neg other, if_neg]
    exact fun both => Bool.false_ne_true both.1

theorem head_append_ne {piece : List Char} {c : Char} (starts : piece.head? = some c)
    (other : c ≠ quote) (rest : List Char) : (piece ++ rest).head? ≠ some quote := by
  rw [List.head?_append, starts]
  exact fun same => other (Option.some.inj same)

/-- A literal ends with the quote that closes it. -/
theorem quotedReach_doubled (text : List Char) {rest : List Char} (ends : rest.head? ≠ some quote) :
    quotedReach quote false (doubled quote text ++ quote :: rest) =
      (doubled quote text).length + 1 := by
  induction text with
  | nil =>
    show quotedReach quote false (quote :: rest) = 1
    cases rest with
    | nil => rfl
    | cons d rest =>
      have other : d ≠ quote := fun same => ends (congrArg some same)
      rw [quotedReach, if_pos rfl, if_neg other]
  | cons c text ih =>
    by_cases here : c = quote
    · rw [here, doubled_cons_self, List.cons_append, List.cons_append, quotedReach, if_pos rfl,
        if_pos rfl, ih, List.length_cons, List.length_cons]
      omega
    · rw [doubled_cons here, List.cons_append, quotedReach_cons here (by simp), ih,
        List.length_cons]
      omega

theorem undouble_cons {c : Char} (other : c ≠ quote) {rest : List Char} (more : rest ≠ []) :
    undouble quote (c :: rest) = (undouble quote rest).map (c :: ·) := by
  cases rest with
  | nil => exact absurd rfl more
  | cons d rest => rw [undouble, if_neg other]

theorem undouble_doubled (text : List Char) :
    undouble quote (doubled quote text ++ [quote]) = some text := by
  induction text with
  | nil => exact if_pos rfl
  | cons c text ih =>
    by_cases here : c = quote
    · rw [here, doubled_cons_self, List.cons_append, List.cons_append, undouble, if_pos rfl,
        if_pos rfl, ih]
      rfl
    · rw [doubled_cons here, List.cons_append, undouble_cons here (by simp), ih]
      rfl

/-- What has a value is that value with its quotes doubled. -/
theorem eq_doubled_of_undouble {text value : List Char} (has : undouble quote text = some value) :
    text = doubled quote value ++ [quote] := by
  fun_induction undouble quote text generalizing value with
  | case1 => cases has
  | case2 =>
    cases has
    rfl
  | case3 c other => cases has
  | case4 rest ih =>
    obtain ⟨later, here, rfl⟩ := Option.map_eq_some_iff.mp has
    rw [ih here, doubled_cons_self]
    rfl
  | case5 d rest other => cases has
  | case6 c d rest other ih =>
    obtain ⟨later, here, rfl⟩ := Option.map_eq_some_iff.mp has
    rw [ih here, doubled_cons other]
    rfl

end Quotes

/-! ## Marks -/

section Marks

variable {mark : List Char}

theorem prefix_append_cons {d : Char} (foreign : d ∉ mark) {front back : List Char} :
    mark <+: front ++ d :: back ↔ mark <+: front := by
  constructor
  · intro here
    rcases List.prefix_or_prefix_of_prefix here (List.prefix_append front (d :: back)) with
      inside | ⟨more, rfl⟩
    · exact inside
    · rw [List.prefix_append_right_inj] at here
      cases more with
      | nil => rw [List.append_nil]
      | cons c more =>
        obtain ⟨rfl, -⟩ := List.cons_prefix_cons.mp here
        exact absurd (List.mem_append_right front List.mem_cons_self) foreign
  · exact fun here => here.trans (List.prefix_append front _)

theorem infix_append_cons {d : Char} (nonempty : mark ≠ []) (foreign : d ∉ mark) {front back : List Char} :
    mark <:+: front ++ d :: back ↔ mark <:+: front ∨ mark <:+: back := by
  induction front with
  | nil =>
    have start : ¬ mark <+: d :: back := by
      intro here
      exact nonempty (List.prefix_nil.mp ((@prefix_append_cons mark d foreign [] back).mp here))
    rw [List.nil_append, List.infix_cons_iff, or_iff_right start, List.infix_nil,
      or_iff_right nonempty]
  | cons c front ih =>
    rw [List.cons_append, List.infix_cons_iff, List.infix_cons_iff, ih, ← List.cons_append,
      prefix_append_cons foreign, or_assoc]

theorem infix_doubled {quote : Char} (nonempty : mark ≠ []) (foreign : quote ∉ mark) {text : List Char} :
    mark <:+: doubled quote text ↔ mark <:+: text := by
  have starts : ∀ text, mark <+: doubled quote text ↔ mark <+: text := by
    intro text
    clear nonempty
    induction text generalizing mark with
    | nil => exact Iff.rfl
    | cons c text ih =>
      by_cases here : c = quote
      · subst here
        rw [doubled_cons_self]
        exact (@prefix_append_cons mark c foreign [] _).trans
          (@prefix_append_cons mark c foreign [] text).symm
      · rw [doubled_cons here]
        cases mark with
        | nil => exact iff_of_true List.nil_prefix List.nil_prefix
        | cons d mark =>
          rw [List.cons_prefix_cons, List.cons_prefix_cons,
            ih fun mem => foreign (List.mem_cons_of_mem d mem)]
  induction text with
  | nil => exact Iff.rfl
  | cons c text ih =>
    by_cases here : c = quote
    · subst here
      have skip : ∀ back, mark <:+: c :: back ↔ mark <:+: back := by
        intro back
        rw [← List.nil_append (c :: back), infix_append_cons nonempty foreign, List.infix_nil,
          or_iff_right nonempty]
      rw [doubled_cons_self, skip, skip, skip]
      exact ih
    · have cut : mark <:+: doubled quote (c :: text) ↔
          mark <+: doubled quote (c :: text) ∨ mark <:+: doubled quote text := by
        rw [doubled_cons here]
        exact List.infix_cons_iff
      exact (cut.trans (or_congr (starts (c :: text)) ih)).trans List.infix_cons_iff.symm

theorem markReach_append {text : List Char} (nonempty : mark ≠ [])
    (first : ¬ mark <:+: text ++ mark.dropLast) (rest : List Char) :
    markReach mark (text ++ mark ++ rest) = text.length + mark.length := by
  induction text with
  | nil =>
    obtain ⟨c, more, rfl⟩ := List.exists_cons_of_ne_nil nonempty
    rw [List.nil_append, List.cons_append, markReach, if_pos]
    · exact (Nat.zero_add _).symm
    · exact List.isPrefixOf_iff_prefix.mpr (List.prefix_append (c :: more) rest)
  | cons c text ih =>
    have later : ¬ mark <:+: text ++ mark.dropLast := by
      intro inside
      exact first (List.infix_cons inside)
    have here : ¬ mark <+: c :: text ++ mark ++ rest := by
      intro starts
      refine first (List.IsPrefix.isInfix ?_)
      have front : c :: text ++ mark.dropLast <+: c :: text ++ mark ++ rest :=
        ((List.prefix_append_right_inj (c :: text)).mpr (List.dropLast_prefix mark)).trans
          (List.prefix_append _ rest)
      refine List.prefix_of_prefix_length_le starts front ?_
      rw [List.length_append, List.length_dropLast, List.length_cons]
      omega
    rw [List.cons_append, List.cons_append, markReach, if_neg, ih later, List.length_cons]
    · omega
    · exact fun starts => here (List.isPrefixOf_iff_prefix.mp starts)

/-- What a mark closes does not have the mark in it. -/
theorem not_infix_of_markReach {text value : List Char} (nonempty : mark ≠ [])
    (closed : text.take (markReach mark text) = value ++ mark) : ¬ mark <:+: value := by
  induction text generalizing value with
  | nil =>
    have empty := congrArg List.length closed
    rw [List.take_nil, List.length_append] at empty
    have := List.length_pos_iff.mpr nonempty
    rw [List.length_nil] at empty
    omega
  | cons c rest ih =>
    rw [markReach] at closed
    by_cases starts : mark.isPrefixOf (c :: rest)
    · rw [if_pos starts] at closed
      have here := List.isPrefixOf_iff_prefix.mp starts
      have length := congrArg List.length closed
      rw [List.length_append, List.length_take] at length
      have none : value = [] := List.length_eq_zero_iff.mp (by omega)
      rw [none, List.infix_nil]
      exact nonempty
    · rw [if_neg starts, Nat.add_comm, List.take_succ_cons] at closed
      cases value with
      | nil =>
        rw [List.infix_nil]
        exact nonempty
      | cons d value =>
        obtain ⟨first, later⟩ := List.cons.inj closed
        subst first
        rw [List.infix_cons_iff, not_or]
        refine ⟨fun here => starts (List.isPrefixOf_iff_prefix.mpr ?_), ih later⟩
        have front : value ++ mark <+: rest := by
          rw [show value ++ mark = _ from later.symm]
          exact List.take_prefix _ _
        exact here.trans ((List.cons_prefix_cons.mpr ⟨rfl,
          (List.prefix_append value mark).trans front⟩))

end Marks

/-! ## Clipping -/

/-- As many characters as have room in a number of bytes. -/
def clip : Nat → List Char → List Char
  | _, [] => []
  | room, c :: rest => if c.utf8Size ≤ room then c :: clip (room - c.utf8Size) rest else []

/-- The bytes of a text in UTF-8. -/
def bytes (text : List Char) : Nat := (text.map Char.utf8Size).sum

theorem bytes_clip (room : Nat) (text : List Char) : bytes (clip room text) ≤ room := by
  induction text generalizing room with
  | nil => exact Nat.zero_le room
  | cons c rest ih =>
    unfold clip
    split
    · have := ih (room - c.utf8Size)
      rw [bytes, List.map_cons, List.sum_cons]
      rw [bytes] at this
      omega
    · exact Nat.zero_le room

theorem clip_of_le {room : Nat} {text : List Char} (fits : bytes text ≤ room) :
    clip room text = text := by
  induction text generalizing room with
  | nil => rfl
  | cons c rest ih =>
    rw [bytes, List.map_cons, List.sum_cons] at fits
    have later : bytes rest ≤ room - c.utf8Size := by
      rw [bytes]
      omega
    rw [clip, if_pos (by omega), ih later]

theorem clip_sublist (room : Nat) (text : List Char) : (clip room text).Sublist text := by
  induction text generalizing room with
  | nil => exact List.nil_sublist _
  | cons c rest ih =>
    unfold clip
    split
    · exact (ih _).cons_cons c
    · exact List.nil_sublist _

end Nixway.Theory.Lexical
