/-
# Theory.Paths -- lexical cleaning of slash-separated paths

`clean` removes empty parts and dots from a path and resolves a pair of dots against the part
before it, without looking at a file system.  A path from the root whose parts are plain names is
left as it is (`clean_rooted`).
-/
import Mathlib.Algebra.Order.Ring.Int
import Mathlib.Data.List.Basic

namespace Nixway.Theory.Paths

set_option autoImplicit false

/-- The parts between the slashes. -/
def parts : List Char → List (List Char)
  | [] => [[]]
  | c :: cs =>
    if c = '/' then [] :: parts cs
    else
      match parts cs with
      | [] => [[c]]
      | part :: rest => (c :: part) :: rest

def push (rooted : Bool) (kept : List (List Char)) (part : List Char) : List (List Char) :=
  if part = [] ∨ part = ['.'] then kept
  else if part = ['.', '.'] then
    match kept.getLast? with
    | some last => if last = ['.', '.'] then kept ++ [part] else kept.dropLast
    | none => if rooted then kept else [part]
  else kept ++ [part]

/-- `path.Clean`. -/
def clean (path : String) : String :=
  let rooted := path.toList.head? = some '/'
  let kept := (parts path.toList).foldl (push rooted) []
  if rooted then String.ofList ('/' :: List.intercalate ['/'] kept)
  else if kept = [] then "."
  else String.ofList (List.intercalate ['/'] kept)

/-- A name: it has no slash and is not empty, a dot or a pair of dots. -/
structure Plain (part : List Char) : Prop where
  slash : '/' ∉ part
  nonempty : part ≠ []
  dot : part ≠ ['.']
  dots : part ≠ ['.', '.']

/-- The path from the root through the names. -/
def rooted (names : List (List Char)) : String :=
  String.ofList (names.flatMap fun name => '/' :: name)

theorem parts_of_not_mem {cs : List Char} (none : '/' ∉ cs) : parts cs = [cs] := by
  induction cs with
  | nil => rfl
  | cons c cs ih =>
    simp only [List.mem_cons, not_or] at none
    rw [parts, if_neg (Ne.symm none.1), ih none.2]

theorem parts_append_slash {cs : List Char} (none : '/' ∉ cs) (rest : List Char) :
    parts (cs ++ '/' :: rest) = cs :: parts rest := by
  induction cs with
  | nil => simp [parts]
  | cons c cs ih =>
    simp only [List.mem_cons, not_or] at none
    rw [List.cons_append, parts, if_neg (Ne.symm none.1), ih none.2]

theorem parts_rooted {name : List Char} {names : List (List Char)}
    (plain : ∀ part ∈ name :: names, Plain part) :
    parts ((name :: names).flatMap fun part => '/' :: part) = [] :: name :: names := by
  induction names generalizing name with
  | nil =>
    have slash := (plain name List.mem_cons_self).slash
    simp [parts, parts_of_not_mem slash]
  | cons next names ih =>
    have slash := (plain name List.mem_cons_self).slash
    have rest := ih fun part mem => plain part (List.mem_cons_of_mem _ mem)
    rw [List.flatMap_cons, List.flatMap_cons] at *
    rw [List.cons_append, parts, if_pos rfl]
    rw [List.cons_append, parts, if_pos rfl] at rest
    rw [List.cons_append, parts_append_slash slash]
    injection rest with _ tail
    rw [tail]

theorem push_plain {part : List Char} (plain : Plain part) (isRooted : Bool)
    (kept : List (List Char)) : push isRooted kept part = kept ++ [part] := by
  simp [push, plain.nonempty, plain.dot, plain.dots]

theorem foldl_push_plain (isRooted : Bool) {names : List (List Char)}
    (plain : ∀ part ∈ names, Plain part) (kept : List (List Char)) :
    names.foldl (push isRooted) kept = kept ++ names := by
  induction names generalizing kept with
  | nil => simp
  | cons name names ih =>
    rw [List.foldl_cons, push_plain (plain name List.mem_cons_self),
      ih fun part mem => plain part (List.mem_cons_of_mem _ mem)]
    simp

theorem slash_intercalate (name : List Char) (names : List (List Char)) :
    '/' :: List.intercalate ['/'] (name :: names) =
      (name :: names).flatMap fun part => '/' :: part := by
  induction names generalizing name with
  | nil => simp
  | cons next names ih =>
    rw [List.flatMap_cons, ← ih next]
    simp [List.intercalate]

/-- **A plain path from the root is clean.** -/
theorem clean_rooted {names : List (List Char)} (some : names ≠ [])
    (plain : ∀ part ∈ names, Plain part) : clean (rooted names) = rooted names := by
  obtain ⟨name, names, rfl⟩ := List.exists_cons_of_ne_nil some
  have head : ((name :: names).flatMap fun part => '/' :: part).head? = Option.some '/' := rfl
  unfold clean rooted
  simp only [String.toList_ofList, head, if_true]
  rw [parts_rooted plain, List.foldl_cons]
  have empty : push (decide True) [] [] = [] := by simp [push]
  rw [empty, foldl_push_plain _ plain, List.nil_append, slash_intercalate]

end Nixway.Theory.Paths
