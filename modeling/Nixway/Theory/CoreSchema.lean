/-
# Theory.CoreSchema -- what a plain scalar stands for

The core schema of YAML 1.2 for plain scalars without a sign in front: null, a boolean, an integer, a
float, or else text.

What a dash joins is text, unless digits alone follow the dash (`core_dash`): of the others only a
float has a dash, in front of its exponent.
-/
import Mathlib.Data.List.TakeWhile
import Nixway.Theory.Quoted

namespace Nixway.Theory.Yaml

set_option autoImplicit false

/-- A scalar; a float is a power of ten times its digits. -/
inductive Scalar where
  | null
  | bool (value : Bool)
  | int (value : Int)
  | float (digits : Nat) (exponent : Int)
  | text (value : String)
deriving DecidableEq

instance : Coe String Scalar := ⟨.text⟩

def numeral (ofBase : Char → Bool) (digits : List Char) : Bool :=
  !digits.isEmpty && digits.all ofBase

/-- `0o` or `0x`, and what is behind it. -/
def behind (letter : Char) (w : List Char) : Option (List Char) :=
  if w.take 2 = ['0', letter] then some (w.drop 2) else none

def readDecimal (digits : List Char) : Option Nat :=
  if numeral Char.isDigit digits then some (Nat.ofDigitChars 10 digits 0) else none

/-- `[eE] -? [0-9]+`, or nothing. -/
def readExponent : List Char → Option Int
  | [] => some 0
  | mark :: rest =>
    if mark ∉ ['e', 'E'] then none
    else if rest.head? = some '-' then (readDecimal rest.tail).map fun size : Nat => -(size : Int)
    else (readDecimal rest).map Int.ofNat

/-- `[0-9]+ (. [0-9]*)? ([eE] -? [0-9]+)?`. -/
def readFloat (w : List Char) : Option (Nat × Int) :=
  let whole := w.takeWhile Char.isDigit
  let rest := w.dropWhile Char.isDigit
  let point := rest.head? = some '.'
  let fraction := if point then rest.tail.takeWhile Char.isDigit else []
  let rest := if point then rest.tail.dropWhile Char.isDigit else rest
  if whole = [] then none
  else (readExponent rest).map fun exponent =>
    (Nat.ofDigitChars 10 (whole ++ fraction) 0, exponent - fraction.length)

def readInt (w : List Char) : Option Nat :=
  let octal := (behind 'o' w).filter (numeral fun c => '0' ≤ c && c ≤ '7')
  let hex := (behind 'x' w).filter (numeral fun c => (hexDigit c).isSome)
  (readDecimal w).or ((octal.map (Nat.ofDigitChars 8 · 0)).or
    (hex.map (List.foldl (fun n c => 16 * n + (hexDigit c).getD 0) 0)))

def nulls : List (List Char) :=
  [[], ['~'], ['n', 'u', 'l', 'l'], ['N', 'u', 'l', 'l'], ['N', 'U', 'L', 'L']]

def trues : List (List Char) := [['t', 'r', 'u', 'e'], ['T', 'r', 'u', 'e'], ['T', 'R', 'U', 'E']]

def falses : List (List Char) :=
  [['f', 'a', 'l', 's', 'e'], ['F', 'a', 'l', 's', 'e'], ['F', 'A', 'L', 'S', 'E']]

def core (w : List Char) : Scalar :=
  if w ∈ nulls then .null
  else if w ∈ trues then .bool true
  else if w ∈ falses then .bool false
  else
    match readInt w with
    | some n => .int n
    | none =>
      match readFloat w with
      | some (digits, exponent) => .float digits exponent
      | none => .text (String.ofList w)

/-- What a mapping or a sequence that names it finds. -/
def IsText (w : String) : Prop := core w.toList = .text w

instance (w : String) : Decidable (IsText w) := inferInstanceAs (Decidable (_ = _))

example : core "0x1f".toList = .int 31 := by decide

example : core "12e-3".toList = .float 12 (-3) := by decide

example : core "12e-3b".toList = .text "12e-3b" := by decide

/-! ### Numbers in decimal -/

theorem core_toString {n : Int} (positive : 0 < n) : core (toString n).toList = .int n := by
  obtain ⟨m, rfl⟩ := Int.eq_ofNat_of_zero_le positive.le
  have list : (toString (m : Int)).toList = Nat.toDigits 10 m := Nat.toList_repr
  have digits : ∀ c ∈ Nat.toDigits 10 m, c.isDigit := fun c mem =>
    Nat.isDigit_of_mem_toDigits (by decide) (by decide) mem
  have fixed : ∀ words ∈ [nulls.tail, trues, falses], Nat.toDigits 10 m ∉ words := by
    intro words listed mem
    have letter : ∀ words ∈ [nulls.tail, trues, falses], ∀ w ∈ words, ¬ w.all Char.isDigit := by
      decide
    exact letter words listed _ mem (List.all_eq_true.mpr digits)
  have null : Nat.toDigits 10 m ∉ nulls := fun mem =>
    (List.mem_cons.mp mem).elim Nat.toDigits_ne_nil (fixed nulls.tail (by decide))
  have number : readInt (Nat.toDigits 10 m) = some m := by
    have some : numeral Char.isDigit (Nat.toDigits 10 m) = true := by
      rw [numeral, List.all_eq_true.mpr digits]
      simp [Nat.toDigits_ne_nil]
    rw [readInt, readDecimal, if_pos some, Nat.ofDigitChars_toDigits (by decide) (by decide)]
    rfl
  rw [list, core, if_neg null, if_neg (fixed trues (by decide)), if_neg (fixed falses (by decide)),
    number]

/-! ### Dashes -/

theorem noDash_of_digits {digits : List Char} (all : ∀ c ∈ digits, c.isDigit) : '-' ∉ digits :=
  fun mem => absurd (all _ mem) (by decide)

theorem numeral_all {ofBase : Char → Bool} {digits : List Char} (is : numeral ofBase digits) :
    ∀ c ∈ digits, ofBase c := by
  rw [numeral, Bool.and_eq_true] at is
  exact List.all_eq_true.mp is.2

theorem readDecimal_digits {digits : List Char} {n : Nat} (read : readDecimal digits = some n) :
    ∀ c ∈ digits, c.isDigit := by
  unfold readDecimal at read
  split at read
  · next number => exact numeral_all number
  · cases read

/-- A dash is in an exponent only, in front of its digits. -/
theorem readExponent_dash {rest : List Char} {exponent : Int} (read : readExponent rest = some exponent)
    (dash : '-' ∈ rest) :
    ∃ front back, rest = front ++ '-' :: back ∧ '-' ∉ front ∧ ∀ c ∈ back, c.isDigit := by
  cases rest with
  | nil => cases dash
  | cons mark rest =>
    rw [readExponent] at read
    split at read
    · cases read
    next letter =>
    have other : '-' ∉ [mark] := by
      intro same
      rw [← List.mem_singleton.mp same] at letter
      exact letter (by decide)
    split at read
    · next sign =>
      obtain ⟨back, rfl⟩ := List.head?_eq_some_iff.mp sign
      obtain ⟨n, read, -⟩ := Option.map_eq_some_iff.mp read
      exact ⟨[mark], back, rfl, other, readDecimal_digits read⟩
    · obtain ⟨n, read, -⟩ := Option.map_eq_some_iff.mp read
      exact absurd ((List.mem_append (s := [mark])).mp dash)
        (not_or.mpr ⟨other, noDash_of_digits (readDecimal_digits read)⟩)

theorem readFloat_dash {w : List Char} {value : Nat × Int} (read : readFloat w = some value)
    (dash : '-' ∈ w) :
    ∃ front back, w = front ++ '-' :: back ∧ '-' ∉ front ∧ ∀ c ∈ back, c.isDigit := by
  unfold readFloat at read
  dsimp only at read
  split at read
  · cases read
  obtain ⟨exponent, read, -⟩ := Option.map_eq_some_iff.mp read
  -- the digits in front of the exponent
  obtain ⟨front, split, free⟩ : ∃ front, w = front ++ (if (w.dropWhile Char.isDigit).head? = some '.'
      then (w.dropWhile Char.isDigit).tail.dropWhile Char.isDigit
      else w.dropWhile Char.isDigit) ∧ '-' ∉ front := by
    have whole := noDash_of_digits fun c => List.mem_takeWhile_imp (l := w) (p := Char.isDigit)
    split
    · next point =>
      obtain ⟨rest, same⟩ := List.head?_eq_some_iff.mp point
      have fraction := noDash_of_digits fun c => List.mem_takeWhile_imp (l := rest)
        (p := Char.isDigit)
      refine ⟨w.takeWhile Char.isDigit ++ '.' :: rest.takeWhile Char.isDigit, ?_, ?_⟩
      · rw [same, List.tail_cons, List.append_assoc, List.cons_append,
          List.takeWhile_append_dropWhile, ← same, List.takeWhile_append_dropWhile]
      · simp [whole, fraction]
    · exact ⟨w.takeWhile Char.isDigit, List.takeWhile_append_dropWhile.symm, whole⟩
  have later : '-' ∈ _ := (List.mem_append.mp (split ▸ dash)).resolve_left free
  obtain ⟨mark, back, same, noDash, digits⟩ := readExponent_dash read later
  refine ⟨front ++ mark, back, ?_, ?_, digits⟩
  · rw [List.append_assoc, ← same]
    exact split
  · rw [List.mem_append, not_or]
    exact ⟨free, noDash⟩

/-- **What a dash joins is text**, unless digits alone follow. -/
theorem core_dash {front back : List Char} (letter : ∃ c ∈ back, ¬ c.isDigit) :
    core (front ++ '-' :: back) = .text (String.ofList (front ++ '-' :: back)) := by
  have dash : '-' ∈ front ++ '-' :: back := by simp
  have fixed : ∀ words ∈ [nulls, trues, falses], front ++ '-' :: back ∉ words := by
    intro words listed mem
    have free : ∀ words ∈ [nulls, trues, falses], ∀ w ∈ words, '-' ∉ w := by decide
    exact free words listed _ mem dash
  have based : ∀ {ofBase : Char → Bool}, ofBase '-' = false → ∀ mark, mark ≠ '-' →
      (behind mark (front ++ '-' :: back)).filter (numeral ofBase) = none := by
    intro ofBase none mark other
    unfold behind
    split
    · next start =>
      have split := List.take_append_drop 2 (front ++ '-' :: back)
      rw [start] at split
      have later : '-' ∈ (front ++ '-' :: back).drop 2 := by
        rw [← split] at dash
        simpa [other.symm] using dash
      rw [Option.filter_some, if_neg]
      intro number
      exact absurd (numeral_all number _ later) (by simp [none])
    · rfl
  have noFloat : readFloat (front ++ '-' :: back) = none := by
    rw [Option.eq_none_iff_forall_ne_some]
    intro value read
    obtain ⟨front', back', same, free, digits⟩ := readFloat_dash read dash
    obtain ⟨c, mem, other⟩ := letter
    rcases List.append_eq_append_iff.mp same with ⟨more, rfl, tail⟩ | ⟨more, rfl, tail⟩
    · cases more with
      | nil =>
        cases tail
        exact other (digits c mem)
      | cons d more =>
        cases tail
        exact free (by simp)
    · cases more with
      | nil =>
        cases tail
        exact other (digits c mem)
      | cons d more =>
        cases tail
        exact noDash_of_digits digits (by simp)
  have noInt : readInt (front ++ '-' :: back) = none := by
    have decimal : readDecimal (front ++ '-' :: back) = none :=
      if_neg fun number => noDash_of_digits (numeral_all number) dash
    rw [readInt, decimal, based (by decide) 'o' (by decide), based (by decide) 'x' (by decide)]
    rfl
  rw [core, if_neg (fixed nulls (by decide)), if_neg (fixed trues (by decide)),
    if_neg (fixed falses (by decide)), noInt, noFloat]

theorem isText_dash {front back : String} (letter : ∃ c ∈ back.toList, ¬ c.isDigit) :
    IsText (front ++ "-" ++ back) := by
  have list : (front ++ "-" ++ back).toList = front.toList ++ '-' :: back.toList := by simp
  rw [IsText, list, core_dash letter, ← list, String.ofList_toList]

end Nixway.Theory.Yaml
