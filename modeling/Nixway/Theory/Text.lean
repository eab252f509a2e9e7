/-
# Theory.Text -- names and numbers in texts

Names built for another system are cleaned: characters outside an alphabet are
replaced by a separator, runs of the separator are collapsed, and separators at
the ends are cut off.  The operations are stated on strings and reasoned about
on their lists of characters.  A decimal number is read from its characters.
-/
import Mathlib.Algebra.Order.Ring.Int
import Mathlib.Data.List.DropRight

namespace Nixway.Theory.Text

set_option autoImplicit false

variable {keep : Char → Bool} {sep : Char}

/-! ## The operations -/

/-- Every character that is not kept becomes `sep`. -/
def replaceUnless (keep : Char → Bool) (sep : Char) (s : String) : String :=
  String.ofList (s.toList.map fun c => if keep c then c else sep)

/-- Cut `sep` off the right end. -/
def trimRight (sep : Char) (s : String) : String :=
  String.ofList (s.toList.rdropWhile (· == sep))

/-- Cut `sep` off both ends. -/
def trim (sep : Char) (s : String) : String :=
  trimRight sep (String.ofList (s.toList.dropWhile (· == sep)))

/-- A run of `sep` becomes a single one. -/
def collapseChars (sep : Char) : List Char → List Char
  | [] => []
  | c :: rest =>
    if c = sep ∧ rest.head? = some sep then collapseChars sep rest
    else c :: collapseChars sep rest

def collapse (sep : Char) (s : String) : String := String.ofList (collapseChars sep s.toList)

/-- At most the first `n` characters. -/
def takeChars (n : Nat) (s : String) : String := String.ofList (s.toList.take n)

/-! ## Numbers -/

def isDigit (c : Char) : Bool := '0' ≤ c && c ≤ '9'

/-- The value of a text of digits. -/
def digitsValue (cs : List Char) : Nat := cs.foldl (fun n c => n * 10 + (c.toNat - 48)) 0

/-- `strconv.Atoi`. -/
def atoi (cs : List Char) : Option Int :=
  let (negative, digits) := match cs with
    | '-' :: rest => (true, rest)
    | '+' :: rest => (false, rest)
    | _ => (false, cs)
  if digits = [] ∨ !digits.all isDigit then none
  else
    let n : Int := if negative then -digitsValue digits else digitsValue digits
    if -2 ^ 63 ≤ n ∧ n < 2 ^ 63 then some n else none

theorem isDigit_toString {n : Nat} {c : Char} (mem : c ∈ (toString n).toList) : c.isDigit := by
  have digits : (toString n).toList = Nat.toDigits 10 n := Nat.toList_repr
  rw [digits] at mem
  exact Nat.isDigit_of_mem_toDigits (by decide) (by decide) mem

theorem toString_inj {m n : Nat} (same : toString m = toString n) : m = n := by
  have digits : Nat.toDigits 10 m = Nat.toDigits 10 n := by
    rw [← Nat.toList_repr, ← Nat.toList_repr]
    exact congrArg String.toList same
  have value := congrArg (fun cs => Nat.ofDigitChars 10 cs 0) digits
  simpa using value

theorem isDigit_toString_int {n : Int} {c : Char} (mem : c ∈ (toString n).toList) :
    c = '-' ∨ c.isDigit := by
  cases n with
  | ofNat m => exact .inr (@isDigit_toString m c mem)
  | negSucc m =>
    have text : (toString (Int.negSucc m)).toList = '-' :: (toString (m + 1)).toList := by
      show ("-" ++ toString (m + 1)).toList = _
      rw [String.toList_append]
      rfl
    rw [text] at mem
    rcases List.mem_cons.mp mem with sign | digit
    · exact .inl sign
    · exact .inr (isDigit_toString digit)

/-! ## Ends of a text -/

def hasPrefix (s start : String) : Bool := start.toList.isPrefixOf s.toList

def hasSuffix (s ending : String) : Bool := ending.toList.isSuffixOf s.toList

def trimPrefix (s start : String) : String :=
  if hasPrefix s start then String.ofList (s.toList.drop start.toList.length) else s

def trimSuffix (s ending : String) : String :=
  if hasSuffix s ending then
    String.ofList (s.toList.take (s.toList.length - ending.toList.length))
  else s

theorem hasPrefix_iff {s start : String} : hasPrefix s start ↔ start.toList <+: s.toList := by
  rw [hasPrefix, List.isPrefixOf_iff_prefix]

theorem hasSuffix_iff {s ending : String} : hasSuffix s ending ↔ ∃ front, s = front ++ ending := by
  rw [hasSuffix, List.isSuffixOf_iff_suffix]
  constructor
  · rintro ⟨front, split⟩
    refine ⟨String.ofList front, String.toList_inj.mp ?_⟩
    rw [String.toList_append, String.toList_ofList, split]
  · rintro ⟨front, rfl⟩
    rw [String.toList_append]
    exact List.suffix_append _ _

theorem trimSuffix_append (front ending : String) : trimSuffix (front ++ ending) ending = front := by
  rw [trimSuffix, if_pos (hasSuffix_iff.mpr ⟨front, rfl⟩)]
  apply String.toList_inj.mp
  simp

/-! ## What is left -/

theorem mem_collapseChars {c : Char} {cs : List Char} (mem : c ∈ collapseChars sep cs) :
    c ∈ cs := by
  induction cs with
  | nil => exact mem
  | cons d rest ih =>
    rw [collapseChars] at mem
    split at mem
    · exact List.mem_cons_of_mem d (ih mem)
    · rcases List.mem_cons.mp mem with rfl | mem
      · exact List.mem_cons_self
      · exact List.mem_cons_of_mem d (ih mem)

theorem mem_trimRight {c : Char} {s : String} (mem : c ∈ (trimRight sep s).toList) :
    c ∈ s.toList := by
  rw [trimRight, String.toList_ofList] at mem
  exact (List.rdropWhile_prefix _ _).subset mem

theorem mem_trim {c : Char} {s : String} (mem : c ∈ (trim sep s).toList) : c ∈ s.toList := by
  have inner := mem_trimRight mem
  rw [String.toList_ofList] at inner
  exact (List.dropWhile_sublist _).subset inner

theorem mem_replaceUnless {c : Char} {s : String} (mem : c ∈ (replaceUnless keep sep s).toList) :
    keep c ∨ c = sep := by
  rw [replaceUnless, String.toList_ofList] at mem
  obtain ⟨d, -, rfl⟩ := List.mem_map.mp mem
  by_cases kept : keep d
  · simp [kept]
  · simp [kept]

theorem trim_head {c : Char} {cs : List Char} {s : String} (starts : (trim sep s).toList = c :: cs) :
    c ≠ sep := by
  rw [trim, trimRight, String.toList_ofList, String.toList_ofList] at starts
  obtain ⟨tail, split⟩ :=
    List.rdropWhile_prefix (fun x : Char => x == sep) (s.toList.dropWhile (· == sep))
  rw [starts, List.cons_append] at split
  have first : (s.toList.dropWhile (· == sep)).head? = some c := by
    rw [← split, List.head?_cons]
  intro same
  have stops := List.head?_dropWhile_not (fun x : Char => x == sep) s.toList
  rw [first] at stops
  simp [same] at stops

/-! ## Where the operations change nothing -/

theorem replaceUnless_append (s t : String) :
    replaceUnless keep sep (s ++ t) = replaceUnless keep sep s ++ replaceUnless keep sep t := by
  apply String.toList_inj.mp
  simp [replaceUnless]

theorem replaceUnless_eq_self {s : String} (kept : ∀ c ∈ s.toList, keep c) :
    replaceUnless keep sep s = s := by
  apply String.toList_inj.mp
  rw [replaceUnless, String.toList_ofList]
  have same : s.toList.map (fun c => if keep c then c else sep) = s.toList.map id :=
    List.map_congr_left fun c mem => by simp [kept c mem]
  rw [same, List.map_id]

/-- Nothing is cut off the left of a text that begins with another character. -/
theorem trim_of_head {c : Char} {cs : List Char} {s : String} (starts : s.toList = c :: cs)
    (other : c ≠ sep) : trim sep s = trimRight sep s := by
  rw [trim, starts, List.dropWhile_cons_of_neg (by simpa using other), ← starts, String.ofList_toList]

/-- Nothing is cut off the right of a text that ends with another character. -/
theorem trimRight_of_last {s t : String} {c : Char} (ends : t.toList.getLast? = some c)
    (other : c ≠ sep) : trimRight sep (s ++ t) = s ++ t := by
  obtain ⟨front, split⟩ : ∃ front, t.toList = front ++ [c] := by
    obtain ⟨nonempty, last⟩ := List.getLast?_eq_some_iff.mp ends
    exact ⟨nonempty, last⟩
  apply String.toList_inj.mp
  rw [trimRight, String.toList_ofList, String.toList_append, split, ← List.append_assoc]
  exact List.rdropWhile_concat_neg _ _ _ (by simpa using other)

/-! ## Comparing names by their ends -/

/-- Texts that end in parts of one length agree when both pieces do. -/
theorem append_eq_append_iff {s t u v : String} (sameLength : t.toList.length = v.toList.length) :
    s ++ t = u ++ v ↔ s = u ∧ t = v := by
  constructor
  · intro same
    have lists := congrArg String.toList same
    rw [String.toList_append, String.toList_append] at lists
    obtain ⟨left, right⟩ := List.append_inj' lists sameLength
    exact ⟨String.toList_inj.mp left, String.toList_inj.mp right⟩
  · rintro ⟨rfl, rfl⟩
    rfl

end Nixway.Theory.Text
