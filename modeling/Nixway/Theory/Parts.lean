/-
# Theory.Parts -- the parts of a text and the separators between them

`parts` are what stands between the separators of a text, the empty ones left out.  A text whose
runs of separators are collapsed, and whose ends are cut off, is its parts with one separator between
any two (`trim_collapse`).  A text is `Tidy` when no separator stands at an end or beside another;
then neither changes anything (`Tidy.collapse`, `Tidy.trim`).
-/
import Mathlib.Data.List.Chain
import Nixway.Theory.Text

namespace Nixway.Theory.Text

set_option autoImplicit false

variable {sep : Char}

def parts (sep : Char) (cs : List Char) : List (List Char) :=
  (cs.splitOnP (· == sep)).filter (· ≠ [])

/-- With one separator between any two. -/
def joined (sep : Char) (ps : List (List Char)) : List Char := [sep].intercalate ps

/-- Texts without separators, none of them empty. -/
def Whole (sep : Char) (ps : List (List Char)) : Prop := ∀ p ∈ ps, p ≠ [] ∧ sep ∉ p

theorem joined_cons_cons (p q : List Char) (ps : List (List Char)) :
    joined sep (p :: q :: ps) = p ++ sep :: joined sep (q :: ps) := by
  rw [joined, List.intercalate_cons_cons, List.append_assoc]
  rfl

theorem joined_append {front back : List (List Char)} (some : front ≠ []) (more : back ≠ []) :
    joined sep (front ++ back) = joined sep front ++ sep :: joined sep back := by
  induction front with
  | nil => exact absurd rfl some
  | cons p front ih =>
    cases front with
    | nil =>
      obtain ⟨q, back, rfl⟩ := List.exists_cons_of_ne_nil more
      rw [joined, joined, List.intercalate_singleton]
      exact joined_cons_cons p q back
    | cons q front =>
      rw [List.cons_append, List.cons_append, joined_cons_cons, joined_cons_cons,
        ← List.cons_append, ih (List.cons_ne_nil _ _), List.append_assoc, List.cons_append]

theorem joined_ne_nil {ps : List (List Char)} (whole : Whole sep ps) (some : ps ≠ []) :
    joined sep ps ≠ [] := by
  obtain ⟨p, ps, rfl⟩ := List.exists_cons_of_ne_nil some
  have first := (whole p List.mem_cons_self).1
  cases ps with
  | nil => simpa [joined, List.intercalate_singleton] using first
  | cons q ps =>
    rw [joined_cons_cons]
    simp

theorem filter_singleton_ne_nil (p : List Char) :
    [p].filter (fun q => q ≠ []) = if p = [] then [] else [p] := by
  cases p <;> rfl

theorem parts_append_cons {p : List Char} (free : sep ∉ p) (cs : List Char) :
    parts sep (p ++ sep :: cs) = (if p = [] then [] else [p]) ++ parts sep cs := by
  have inside : ∀ c ∈ p, (c == sep) = false := fun c member =>
    beq_eq_false_iff_ne.mpr fun same => free (same ▸ member)
  unfold parts
  rw [List.splitOnP_append_cons_of_forall_mem inside sep (beq_self_eq_true sep),
    ← List.singleton_append, List.filter_append, filter_singleton_ne_nil]

theorem parts_of_free {p : List Char} (free : sep ∉ p) :
    parts sep p = if p = [] then [] else [p] := by
  have inside : ∀ c ∈ p, (c == sep) = false := fun c member =>
    beq_eq_false_iff_ne.mpr fun same => free (same ▸ member)
  unfold parts
  rw [List.splitOnP_eq_singleton inside, filter_singleton_ne_nil]

theorem free_or_split (sep : Char) (cs : List Char) :
    sep ∉ cs ∨ ∃ p rest, cs = p ++ sep :: rest ∧ sep ∉ p := by
  by_cases member : sep ∈ cs
  · exact .inr (List.eq_append_cons_of_mem member)
  · exact .inl member

/-- The induction over the separators of a text. -/
theorem split_induction {motive : List Char → Prop} (sep : Char)
    (free : ∀ p, sep ∉ p → motive p)
    (split : ∀ p rest, sep ∉ p → motive rest → motive (p ++ sep :: rest)) (cs : List Char) :
    motive cs := by
  induction size : cs.length using Nat.strongRecOn generalizing cs with
  | ind n ih =>
    rcases free_or_split sep cs with none | ⟨p, rest, rfl, before⟩
    · exact free cs none
    · refine split p rest before (ih rest.length ?_ rest rfl)
      rw [← size, List.length_append, List.length_cons]
      omega

theorem parts_whole (cs : List Char) : Whole sep (parts sep cs) := by
  induction cs using split_induction sep with
  | free p none =>
    rw [parts_of_free none]
    split_ifs with empty
    · exact fun _ member => absurd member List.not_mem_nil
    · exact List.forall_mem_singleton.mpr ⟨empty, none⟩
  | split p rest none ih =>
    rw [parts_append_cons none]
    split_ifs with empty
    · exact ih
    · exact List.forall_mem_cons.mpr ⟨⟨empty, none⟩, ih⟩

/-! ## Collapsing and trimming -/

theorem rdropWhile_append {α : Type} {p : α → Bool} (xs ys : List α) :
    (xs ++ ys).rdropWhile p =
      if ys.rdropWhile p = [] then xs.rdropWhile p else xs ++ ys.rdropWhile p := by
  unfold List.rdropWhile
  rw [List.reverse_append, List.dropWhile_append]
  by_cases none : (ys.reverse.dropWhile p) = []
  · simp [none]
  · simp [none]

theorem dropWhile_cons_sep (cs : List Char) :
    (sep :: cs).dropWhile (· == sep) = cs.dropWhile (· == sep) :=
  List.dropWhile_cons_of_pos (beq_self_eq_true sep)

theorem collapseChars_of_free {p : List Char} (free : sep ∉ p) (cs : List Char) :
    collapseChars sep (p ++ cs) = p ++ collapseChars sep cs := by
  induction p with
  | nil => rfl
  | cons c p ih =>
    have other : c ≠ sep := fun same => free (same ▸ List.mem_cons_self)
    rw [List.cons_append, collapseChars, if_neg fun both => other both.1,
      ih fun member => free (List.mem_cons_of_mem c member), List.cons_append]

theorem collapseChars_cons_sep (cs : List Char) :
    collapseChars sep (sep :: cs) = sep :: (collapseChars sep cs).dropWhile (· == sep) := by
  induction cs with
  | nil => simp [collapseChars]
  | cons c cs ih =>
    by_cases same : c = sep
    · obtain rfl := same
      have step : collapseChars c (c :: c :: cs) = collapseChars c (c :: cs) := by
        rw [collapseChars, if_pos ⟨rfl, rfl⟩]
      rw [step, ih, dropWhile_cons_sep, List.dropWhile_idempotent]
    · have stays : collapseChars sep (c :: cs) = c :: collapseChars sep cs := by
        rw [collapseChars, if_neg fun both => same both.1]
      rw [collapseChars, if_neg (by simpa using same), stays,
        List.dropWhile_cons_of_neg (by simpa using same)]

/-- **Collapsed and trimmed, a text is its parts with one separator between any two.** -/
theorem trim_collapse (cs : List Char) :
    ((collapseChars sep cs).dropWhile (· == sep)).rdropWhile (· == sep) =
      joined sep (parts sep cs) := by
  have stays : ∀ p : List Char, sep ∉ p → ∀ rest, p ≠ [] →
      (p ++ rest).dropWhile (· == sep) = p ++ rest := by
    intro p none rest some
    obtain ⟨c, p, rfl⟩ := List.exists_cons_of_ne_nil some
    have other : c ≠ sep := fun same => none (same ▸ List.mem_cons_self)
    exact List.dropWhile_cons_of_neg (by simpa using other)
  have ends : ∀ p : List Char, sep ∉ p → p.rdropWhile (· == sep) = p := by
    intro p none
    rw [List.rdropWhile_eq_self_iff]
    intro some last
    exact none (beq_iff_eq.mp last ▸ List.getLast_mem some)
  induction cs using split_induction sep with
  | free p none =>
    have same : collapseChars sep p = p := by simpa [collapseChars] using collapseChars_of_free none []
    rw [same, parts_of_free none]
    split_ifs with empty
    · rw [empty]
      rfl
    · rw [← List.append_nil p, stays p none [] empty, List.append_nil, ends p none, joined,
        List.intercalate_singleton]
  | split p rest none ih =>
    rw [collapseChars_of_free none, collapseChars_cons_sep, parts_append_cons none]
    split_ifs with empty
    · rw [empty, List.nil_append, List.nil_append, dropWhile_cons_sep, List.dropWhile_idempotent]
      exact ih
    · have front : ∀ cs : List Char, (sep :: cs).rdropWhile (· == sep) =
          if cs.rdropWhile (· == sep) = [] then [] else sep :: cs.rdropWhile (· == sep) := by
        intro cs
        rw [← List.singleton_append, rdropWhile_append]
        simp [List.rdropWhile_singleton]
      have single : joined sep [p] = p := List.intercalate_singleton
      rw [stays p none _ empty, rdropWhile_append, front, ih, List.singleton_append]
      by_cases last : parts sep rest = []
      · have nothing : joined sep [] = [] := rfl
        rw [last, nothing, if_pos rfl, if_pos rfl, ends p none, single]
      · have some := joined_ne_nil (parts_whole rest) last
        have split := @joined_append sep [p] (parts sep rest) (List.cons_ne_nil p []) last
        rw [single] at split
        rw [if_neg some, if_neg (List.cons_ne_nil _ _)]
        exact split.symm

/-! ## Where the separators are -/

/-- **The separators of joined parts stand behind their first parts.** -/
theorem getElem?_joined_eq_sep {ps : List (List Char)} (whole : Whole sep ps) (i : Nat) :
    (joined sep ps)[i]? = some sep ↔
      ∃ front back, ps = front ++ back ∧ front ≠ [] ∧ back ≠ [] ∧ (joined sep front).length = i := by
  constructor
  · intro found
    induction ps generalizing i with
    | nil => cases found
    | cons p ps ih =>
      have free := (whole p List.mem_cons_self).2
      have single : joined sep [p] = p := List.intercalate_singleton
      cases ps with
      | nil =>
        rw [single] at found
        exact absurd (List.mem_of_getElem? found) free
      | cons q ps =>
        rw [joined_cons_cons] at found
        rcases Nat.lt_trichotomy i p.length with before | rfl | behind
        · rw [List.getElem?_append_left before] at found
          exact absurd (List.mem_of_getElem? found) free
        · exact ⟨[p], q :: ps, rfl, List.cons_ne_nil _ _, List.cons_ne_nil _ _, by rw [single]⟩
        · have shift : i - p.length = (i - p.length - 1) + 1 := by omega
          rw [List.getElem?_append_right behind.le, shift, List.getElem?_cons_succ] at found
          obtain ⟨front, back, same, some, more, size⟩ :=
            ih (fun r member => whole r (List.mem_cons_of_mem p member)) _ found
          obtain ⟨r, front, rfl⟩ := List.exists_cons_of_ne_nil some
          refine ⟨p :: r :: front, back, by rw [same]; rfl, List.cons_ne_nil _ _, more, ?_⟩
          rw [joined_cons_cons, List.length_append, List.length_cons, size]
          omega
  · rintro ⟨front, back, rfl, some, more, rfl⟩
    rw [joined_append some more, List.getElem?_append_right le_rfl, Nat.sub_self,
      List.getElem?_cons_zero]

/-! ## Tidy texts -/

/-- No separator stands at an end or beside another. -/
structure Tidy (sep : Char) (cs : List Char) : Prop where
  apart : cs.IsChain fun a b => ¬ (a = sep ∧ b = sep)
  head : cs.head? ≠ some sep
  last : cs.getLast? ≠ some sep

theorem collapseChars_eq_self {cs : List Char} (apart : cs.IsChain fun a b => ¬ (a = sep ∧ b = sep)) :
    collapseChars sep cs = cs := by
  induction cs with
  | nil => rfl
  | cons c cs ih =>
    have tail := ih apart.tail
    have stays : ¬ (c = sep ∧ cs.head? = some sep) := by
      rintro ⟨here, next⟩
      cases cs with
      | nil => cases next
      | cons d cs => exact apart.rel ⟨here, Option.some.inj next⟩
    rw [collapseChars, if_neg stays, tail]

theorem collapseChars_apart (cs : List Char) :
    (collapseChars sep cs).IsChain fun a b => ¬ (a = sep ∧ b = sep) := by
  induction cs with
  | nil => exact .nil
  | cons c cs ih =>
    rw [collapseChars]
    split
    · exact ih
    · next stays =>
      refine List.isChain_cons.mpr ⟨fun d first both => ?_, ih⟩
      -- the text goes on as its collapsed form does
      have same : cs.head? = some d := by
        cases cs with
        | nil => cases first
        | cons e cs =>
          by_cases mark : e = sep
          · rw [mark, collapseChars_cons_sep] at first
            rw [← first, mark]
            rfl
          · rw [collapseChars, if_neg fun here => mark here.1] at first
            exact first
      exact stays ⟨both.1, both.2 ▸ same⟩

/-- A beginning of the parts of a text is tidy, if it does not end with a separator. -/
theorem tidy_of_prefix {cs front : List Char} (first : front <+: joined sep (parts sep cs))
    (last : front.getLast? ≠ some sep) : Tidy sep front := by
  obtain ⟨rest, split⟩ := first
  refine ⟨?_, ?_, last⟩
  · -- it lies within the collapsed text
    have within : front <:+: collapseChars sep cs := by
      rw [← trim_collapse] at split
      have trimmed := (List.rdropWhile_prefix (· == sep) ((collapseChars sep cs).dropWhile (· == sep))).isInfix
      have cut := (List.dropWhile_suffix (l := collapseChars sep cs) (· == sep)).isInfix
      exact ((List.prefix_append front rest).isInfix.trans (split ▸ trimmed)).trans cut
    obtain ⟨before, after, same⟩ := within
    have apart := @collapseChars_apart sep cs
    rw [← same] at apart
    exact apart.left_of_append.right_of_append
  · intro head
    cases front with
    | nil => cases head
    | cons c front =>
      obtain rfl := Option.some.inj head
      have found : (joined c (parts c cs))[0]? = some c := by
        rw [← split]
        rfl
      obtain ⟨ps, back, same, some, -, size⟩ :=
        (getElem?_joined_eq_sep (parts_whole cs) 0).mp found
      have whole : Whole c ps := fun p member =>
        parts_whole cs p (same ▸ List.mem_append_left back member)
      exact joined_ne_nil whole some (List.length_eq_zero_iff.mp size)

theorem Tidy.trim {s : String} (tidy : Tidy sep s.toList) : trim sep s = s := by
  have front : s.toList.dropWhile (· == sep) = s.toList := by
    cases chars : s.toList with
    | nil => rfl
    | cons c cs =>
      refine List.dropWhile_cons_of_neg ?_
      rw [beq_iff_eq]
      rintro rfl
      exact tidy.head (by rw [chars]; rfl)
  have back : s.toList.rdropWhile (· == sep) = s.toList := by
    rw [List.rdropWhile_eq_self_iff]
    intro some ends
    exact tidy.last (by rw [List.getLast?_eq_some_getLast some, beq_iff_eq.mp ends])
  apply String.toList_inj.mp
  rw [Text.trim, trimRight, String.toList_ofList, String.toList_ofList, front, back]

theorem Tidy.collapse {s : String} (tidy : Tidy sep s.toList) : collapse sep s = s := by
  apply String.toList_inj.mp
  rw [Text.collapse, String.toList_ofList, collapseChars_eq_self tidy.apart]

end Nixway.Theory.Text
