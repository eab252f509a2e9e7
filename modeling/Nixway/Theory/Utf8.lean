/-
# Theory.Utf8 -- which bytes are text

A text of bytes is `Valid` when it is the encoding of characters.  Validity of a join is
validity of its parts wherever the cut lies between characters (`valid_append_iff`,
`Valid.append_of_start`), so that a valid text cut at a position stays valid just when the
byte there begins a character (`Valid.take_iff`), and an ASCII text between two others
separates them (`valid_separated_iff`).
-/
import Mathlib.Algebra.Order.Ring.Int
import Mathlib.Data.List.Basic

namespace Nixway.Theory.Utf8

set_option autoImplicit false

abbrev Bytes := List UInt8

def encode (chars : List Char) : Bytes := chars.flatMap String.utf8EncodeChar

def utf8 (text : String) : Bytes := encode text.toList

/-- The bytes are the encoding of characters. -/
def Valid (b : Bytes) : Prop := ∃ chars, encode chars = b

theorem valid_iff {b : Bytes} : Valid b ↔ b.toByteArray.IsValidUTF8 := by
  constructor
  · rintro ⟨chars, rfl⟩
    exact ⟨chars, rfl⟩
  · rintro ⟨chars, same⟩
    exact ⟨chars, (List.toByteArray_inj.mp same).symm⟩

instance (b : Bytes) : Decidable (Valid b) := decidable_of_iff _ valid_iff.symm

/-- The character at the front, if the bytes begin with one. -/
def decodeRune (b : Bytes) : Option Char := b.toByteArray.utf8DecodeChar? 0

/-- The characters of any bytes, at most `fuel` of them; a byte that begins none stands alone. -/
def runesUpTo : Nat → Bytes → List (Option Char)
  | 0, _ => []
  | _ + 1, [] => []
  | fuel + 1, x :: rest =>
    match decodeRune (x :: rest) with
    | some c => some c :: runesUpTo fuel ((x :: rest).drop c.utf8Size)
    | none => none :: runesUpTo fuel rest

def runes (b : Bytes) : List (Option Char) := runesUpTo b.length b

theorem encode_cons (c : Char) (chars : List Char) :
    encode (c :: chars) = String.utf8EncodeChar c ++ encode chars := rfl

theorem encode_append (front back : List Char) :
    encode (front ++ back) = encode front ++ encode back := List.flatMap_append

theorem valid_encode (chars : List Char) : Valid (encode chars) := ⟨chars, rfl⟩

theorem valid_utf8 (text : String) : Valid (utf8 text) := valid_encode text.toList

theorem Valid.append {a b : Bytes} (front : Valid a) (back : Valid b) : Valid (a ++ b) := by
  obtain ⟨first, rfl⟩ := front
  obtain ⟨second, rfl⟩ := back
  exact ⟨first ++ second, encode_append first second⟩

/-- The first character of a text can be read off it. -/
theorem utf8EncodeChar_append_inj {c d : Char} {a b : Bytes}
    (same : String.utf8EncodeChar c ++ a = String.utf8EncodeChar d ++ b) : c = d ∧ a = b := by
  have first : c = d := by
    have decoded := congrArg (fun text => decodeRune text) same
    simp only [decodeRune, List.toByteArray_append, ByteArray.utf8DecodeChar?_utf8EncodeChar_append]
      at decoded
    exact Option.some.inj decoded
  subst first
  exact ⟨rfl, List.append_cancel_left same⟩

theorem valid_append_iff {a b : Bytes} (front : Valid a) : Valid (a ++ b) ↔ Valid b := by
  refine ⟨?_, front.append⟩
  obtain ⟨chars, rfl⟩ := front
  induction chars with
  | nil => exact id
  | cons c chars ih =>
    rintro ⟨all, same⟩
    cases all with
    | nil =>
      have sizes := congrArg List.length same
      rw [encode_cons, List.length_append, List.length_append, String.length_utf8EncodeChar]
        at sizes
      have positive := c.utf8Size_pos
      simp only [encode, List.flatMap_nil, List.length_nil] at sizes
      omega
    | cons d all =>
      rw [encode_cons, encode_cons, List.append_assoc] at same
      exact ih ⟨all, (utf8EncodeChar_append_inj same).2⟩

/-- A byte inside the encoding of a character begins none. -/
theorem not_first_of_split {c : Char} {a b : Bytes} {x : UInt8}
    (split : String.utf8EncodeChar c = a ++ x :: b) (inside : a ≠ []) : ¬ x.IsUTF8FirstByte := by
  have bound : a.length < (String.utf8EncodeChar c).length := by simp [split]
  have here : (String.utf8EncodeChar c)[a.length] = x := by simp [split]
  rw [← here, UInt8.isUTF8FirstByte_getElem_utf8EncodeChar]
  exact fun zero => inside (List.length_eq_zero_iff.mp zero)

theorem Valid.first {x : UInt8} {b : Bytes} (valid : Valid (x :: b)) : x.IsUTF8FirstByte := by
  obtain ⟨chars, same⟩ := valid
  cases chars with
  | nil => cases same
  | cons c chars =>
    have bound : 0 < (String.utf8EncodeChar c).length := by
      rw [String.length_utf8EncodeChar]
      exact c.utf8Size_pos
    have here : (String.utf8EncodeChar c)[0] = x := by
      rw [encode_cons] at same
      have first : (String.utf8EncodeChar c ++ encode chars)[0]? = some x := by rw [same]; rfl
      rw [List.getElem?_append_left bound, List.getElem?_eq_getElem bound] at first
      exact Option.some.inj first
    rw [← here, UInt8.isUTF8FirstByte_getElem_utf8EncodeChar]

/-- A valid text cut before the first byte of a character is cut between characters. -/
theorem Valid.append_of_start {a b : Bytes} {x : UInt8} (valid : Valid (a ++ x :: b))
    (starts : x.IsUTF8FirstByte) : Valid a := by
  obtain ⟨chars, same⟩ := valid
  induction chars generalizing a with
  | nil => exact absurd same.symm (List.append_ne_nil_of_right_ne_nil _ (List.cons_ne_nil _ _))
  | cons c chars ih =>
    rw [encode_cons] at same
    rcases List.append_eq_append_iff.mp same with ⟨rest, rfl, back⟩ | ⟨rest, split, back⟩
    · obtain ⟨more, text⟩ := ih back
      exact ⟨c :: more, by rw [encode_cons, text]⟩
    · cases a with
      | nil => exact ⟨[], rfl⟩
      | cons y a =>
        cases rest with
        | nil =>
          rw [List.append_nil] at split
          exact ⟨[c], by rw [encode_cons, split]; exact List.append_nil _⟩
        | cons z rest =>
          obtain ⟨rfl, -⟩ := List.cons.inj back
          exact absurd starts (not_first_of_split split (List.cons_ne_nil _ _))

/-- A valid text cut at a position is valid just when no character is cut. -/
theorem Valid.take_iff {b : Bytes} (valid : Valid b) (n : Nat) :
    Valid (b.take n) ↔ ∀ x, b[n]? = some x → x.IsUTF8FirstByte := by
  constructor
  · intro front x found
    obtain ⟨bound, rfl⟩ := List.getElem?_eq_some_iff.mp found
    rw [← List.take_append_drop n b, valid_append_iff front, List.drop_eq_getElem_cons bound]
      at valid
    exact valid.first
  · intro starts
    cases found : b[n]? with
    | none => rwa [List.take_of_length_le (List.getElem?_eq_none_iff.mp found)]
    | some x =>
      obtain ⟨bound, rfl⟩ := List.getElem?_eq_some_iff.mp found
      rw [← List.take_append_drop n b, List.drop_eq_getElem_cons bound] at valid
      exact valid.append_of_start (starts _ found)

/-- A text that is valid stands between two others: the join is valid just when both are. -/
theorem valid_separated_iff {a s b : Bytes} (between : Valid s) (some : s ≠ []) :
    Valid (a ++ (s ++ b)) ↔ Valid a ∧ Valid b := by
  constructor
  · intro valid
    cases s with
    | nil => exact absurd rfl some
    | cons x s =>
      have front := valid.append_of_start between.first
      exact ⟨front, (valid_append_iff between).mp ((valid_append_iff front).mp valid)⟩
  · rintro ⟨front, back⟩
    exact front.append (between.append back)

end Nixway.Theory.Utf8
