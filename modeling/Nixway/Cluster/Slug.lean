/-
# Cluster.Slug -- the slugs of clusters

`GenerateSlug` and `ValidateSlug` of `internal/cluster/slug.go`.  The dashes at the ends are trimmed
before the slug is cut to 63 characters, so that the cut can leave one at the end: such a slug is not
valid, and generating it again gives a shorter one.

In terms of the words of the name `generateSlug_iff` is exact: it happens when the first words,
joined with dashes, have 62 characters and there is a word behind them.
-/
import Nixway.Store.Slug
import Nixway.Theory.Parts
import Nixway.Theory.Utf8

namespace Nixway.Cluster

open Nixway.Theory.Text Nixway.Theory.Utf8
open Nixway.Store (trimSpace toLowerRune slugChar)

set_option autoImplicit false

namespace Slug

/-- `len`, in bytes. -/
def len (s : String) : Nat := (utf8 s).length

/-- Lower case, with a dash for whatever is no slug character. -/
def dashed (name : String) : String :=
  replaceUnless slugChar '-' (String.ofList ((trimSpace name).toList.map toLowerRune))

def generateSlug (name : String) : String :=
  let slug := dashed name
  let slug := collapse '-' slug
  let slug := trim '-' slug
  let slug := if slug = "" then "cluster" else slug
  if 63 < len slug then takeChars 63 slug else slug

/-- The class `[a-z0-9]`. -/
def alnumChar (c : Char) : Bool := ('a' ≤ c && c ≤ 'z') || ('0' ≤ c && c ≤ '9')

/-- `^[a-z0-9]([a-z0-9-]*[a-z0-9])?$`. -/
def slugPattern : List Char → Bool
  | [] => false
  | c :: rest =>
    alnumChar c &&
      (rest = [] || (rest.dropLast.all slugChar && rest.getLast?.any alnumChar))

def validateSlug (slug : String) : Bool :=
  if slug = "" ∨ 63 < len slug then false else slugPattern slug.toList

/-! ## Words -/

/-- The words of a name: the letters and digits that stand together in it. -/
def words (name : String) : List (List Char) :=
  (((trimSpace name).toList.map toLowerRune).splitOnP fun c => !alnumChar c).filter (· ≠ [])

/-- Some first words, joined with dashes, have 62 characters, and there is a word behind them. -/
def CutBehindDash (name : String) : Prop :=
  ∃ front back, words name = front ++ back ∧ front ≠ [] ∧ back ≠ [] ∧ (joined '-' front).length = 62

/-- Splitting at a class is splitting at the separator that replaces it. -/
theorem splitOnP_map {f : Char → Char} {sep : Char} {p : Char → Bool}
    (marks : ∀ c, (f c == sep) = p c) (keeps : ∀ c, p c = false → f c = c) (cs : List Char) :
    (cs.map f).splitOnP (· == sep) = cs.splitOnP p := by
  induction cs with
  | nil => rfl
  | cons c cs ih =>
    rw [List.map_cons, List.splitOnP_cons_eq_if_modifyHead, List.splitOnP_cons_eq_if_modifyHead, ih,
      marks c]
    by_cases separates : p c = true
    · rw [if_pos separates, if_pos separates]
    · rw [if_neg separates, if_neg separates, keeps c (Bool.not_eq_true _ ▸ separates)]

theorem slugChar_eq (c : Char) : slugChar c = (alnumChar c || c = '-') := rfl

theorem words_eq (name : String) : words name = parts '-' (dashed name).toList := by
  have replaced : ∀ c, ((if slugChar c then c else '-') == '-') = !alnumChar c := by
    intro c
    rw [slugChar_eq]
    by_cases dash : c = '-'
    · subst dash
      decide
    · by_cases alnum : alnumChar c = true
      · simp [alnum, dash]
      · simp [alnum, dash]
  have kept : ∀ c, (!alnumChar c) = false → (if slugChar c then c else '-') = c := by
    intro c alnum
    rw [Bool.not_eq_false'] at alnum
    rw [slugChar_eq, alnum, Bool.true_or, if_pos rfl]
  unfold words parts dashed replaceUnless
  rw [String.toList_ofList, String.toList_ofList, splitOnP_map replaced kept]

theorem toList_trim_collapse (name : String) :
    (trim '-' (collapse '-' (dashed name))).toList = joined '-' (words name) := by
  rw [words_eq, ← trim_collapse, trim, trimRight, collapse]
  simp only [String.toList_ofList]

/-! ## Sound slugs -/

/-- Slug characters, as many as fit, with single dashes inside. -/
structure Sound (s : String) : Prop where
  chars : ∀ c ∈ s.toList, slugChar c
  tidy : Tidy '-' s.toList
  nonempty : s ≠ ""
  fits : s.toList.length ≤ 63

/-- What is used of slug characters: they have one byte, are no white space and are in lower case. -/
theorem slugChar_facts {c : Char} (slug : slugChar c) :
    c.utf8Size = 1 ∧ Store.isSpace c = false ∧ toLowerRune c = c := by
  have ascii : c.toNat < 128 := by
    have upper : c ≤ 'z' := by
      simp only [slugChar, Bool.or_eq_true, Bool.and_eq_true, decide_eq_true_eq] at slug
      rcases slug with (⟨-, upper⟩ | ⟨-, upper⟩) | rfl
      · exact upper
      · exact Char.le_trans upper (by decide)
      · decide
    exact Nat.lt_of_le_of_lt upper (by decide)
  have table : ∀ n < 128, slugChar (Char.ofNat n) = true → (Char.ofNat n).utf8Size = 1 ∧
      Store.isSpace (Char.ofNat n) = false ∧ toLowerRune (Char.ofNat n) = Char.ofNat n := by
    decide
  have row := table c.toNat ascii
  rw [Char.ofNat_toNat] at row
  exact row slug

theorem len_of_chars {s : String} (chars : ∀ c ∈ s.toList, slugChar c) : len s = s.toList.length := by
  have one : ∀ cs : List Char, (∀ c ∈ cs, slugChar c) → (encode cs).length = cs.length := by
    intro cs all
    induction cs with
    | nil => rfl
    | cons c cs ih =>
      rw [encode_cons, List.length_append, String.length_utf8EncodeChar,
        (slugChar_facts (all c List.mem_cons_self)).1,
        ih fun d member => all d (List.mem_cons_of_mem c member), List.length_cons, Nat.add_comm]
  exact one s.toList chars

theorem alnum_of_slugChar {c : Char} (slug : slugChar c) (other : c ≠ '-') : alnumChar c := by
  rw [slugChar_eq, Bool.or_eq_true, decide_eq_true_eq] at slug
  exact slug.resolve_right other

theorem Sound.valid {s : String} (sound : Sound s) : validateSlug s := by
  unfold validateSlug
  rw [len_of_chars sound.chars, if_neg (not_or.mpr ⟨sound.nonempty, Nat.not_lt.mpr sound.fits⟩)]
  have alnum : ∀ c ∈ s.toList, c ≠ '-' → alnumChar c := fun c member => alnum_of_slugChar (sound.chars c member)
  have head := sound.tidy.head
  have last := sound.tidy.last
  have some : s.toList ≠ [] := fun empty => sound.nonempty (String.toList_inj.mp empty)
  have all := sound.chars
  cases chars : s.toList with
  | nil => exact absurd chars some
  | cons c rest =>
    rw [chars] at alnum head last all
    have first : alnumChar c := alnum c List.mem_cons_self fun dash => head (by rw [dash]; rfl)
    unfold slugPattern
    dsimp only
    rw [first, Bool.true_and]
    by_cases single : rest = []
    · simp [single]
    · have inside : rest.dropLast.all slugChar := by
        rw [List.all_eq_true]
        exact fun d member => all d (List.mem_cons_of_mem c (List.dropLast_subset rest member))
      have ends : alnumChar (rest.getLast single) := by
        refine alnum _ (List.mem_cons_of_mem c (List.getLast_mem single)) fun dash => last ?_
        rw [List.getLast?_eq_some_getLast (List.cons_ne_nil c rest), List.getLast_cons single, dash]
      rw [inside, List.getLast?_eq_some_getLast single]
      simp [ends]

theorem Sound.stable {s : String} (sound : Sound s) : generateSlug s = s := by
  have unblank : ∀ c ∈ s.toList, ¬ Store.isSpace c = true := fun c member => by
    simp [(slugChar_facts (sound.chars c member)).2.1]
  have trimmed : trimSpace s = s := by
    have front : s.toList.dropWhile Store.isSpace = s.toList := by
      cases chars : s.toList with
      | nil => rfl
      | cons c cs => exact List.dropWhile_cons_of_neg (unblank c (chars ▸ List.mem_cons_self))
    have back : s.toList.rdropWhile Store.isSpace = s.toList :=
      List.rdropWhile_eq_self_iff.mpr fun some => unblank _ (List.getLast_mem some)
    rw [trimSpace, front, back, String.ofList_toList]
  have lower : s.toList.map toLowerRune = s.toList := by
    have same : s.toList.map toLowerRune = s.toList.map id :=
      List.map_congr_left fun c member => (slugChar_facts (sound.chars c member)).2.2
    rw [same, List.map_id]
  have same : dashed s = s := by
    unfold dashed
    rw [trimmed, lower, String.ofList_toList, replaceUnless_eq_self sound.chars]
  unfold generateSlug
  dsimp only
  rw [same, sound.tidy.collapse, sound.tidy.trim, if_neg sound.nonempty,
    if_neg (by rw [len_of_chars sound.chars]; exact Nat.not_lt.mpr sound.fits)]

/-! ## Generated slugs -/

theorem chars_trim_collapse (name : String) :
    ∀ c ∈ (trim '-' (collapse '-' (dashed name))).toList, slugChar c := by
  intro c member
  have inside := mem_trim member
  rw [collapse, String.toList_ofList] at inside
  rcases mem_replaceUnless (mem_collapseChars inside) with kept | rfl
  · exact kept
  · rfl

theorem generateSlug_of_words {name : String} (some : words name ≠ []) :
    (generateSlug name).toList = (joined '-' (words name)).take 63 := by
  have whole : Whole '-' (words name) := words_eq name ▸ parts_whole _
  have nonempty : trim '-' (collapse '-' (dashed name)) ≠ "" := by
    intro empty
    have list := toList_trim_collapse name
    rw [empty] at list
    exact joined_ne_nil whole some list.symm
  unfold generateSlug
  dsimp only
  rw [if_neg nonempty, len_of_chars (chars_trim_collapse name)]
  split
  · rw [takeChars, String.toList_ofList, toList_trim_collapse]
  · next fits =>
    rw [toList_trim_collapse] at fits ⊢
    rw [List.take_of_length_le (Nat.not_lt.mp fits)]

theorem generateSlug_of_nothing {name : String} (none : words name = []) :
    generateSlug name = "cluster" := by
  have empty : trim '-' (collapse '-' (dashed name)) = "" := by
    apply String.toList_inj.mp
    rw [toList_trim_collapse, none]
    rfl
  unfold generateSlug
  dsimp only
  rw [empty, if_pos rfl]
  decide

/-- **A slug ends with a dash just when it is cut behind one.** -/
theorem ends_with_dash_iff {name : String} (some : words name ≠ []) :
    (generateSlug name).toList.getLast? = Option.some '-' ↔ CutBehindDash name := by
  have whole : Whole '-' (words name) := words_eq name ▸ parts_whole _
  rw [generateSlug_of_words some, List.getLast?_eq_getElem?, List.length_take]
  constructor
  · intro last
    by_cases long : 63 ≤ (joined '-' (words name)).length
    · rw [Nat.min_eq_left long, List.getElem?_take_of_lt (by decide)] at last
      exact (getElem?_joined_eq_sep whole 62).mp last
    · -- a whole slug ends with a word
      rw [Nat.min_eq_right (by omega), List.take_of_length_le (by omega)] at last
      obtain ⟨front, back, same, first, more, size⟩ := (getElem?_joined_eq_sep whole _).mp last
      have rest : joined '-' back ≠ [] :=
        joined_ne_nil (fun p member => whole p (same ▸ List.mem_append_right front member)) more
      have length := congrArg List.length (congrArg (joined '-') same)
      rw [joined_append first more, List.length_append, List.length_cons] at length
      have positive := List.length_pos_iff.mpr rest
      omega
  · rintro ⟨front, back, same, first, more, size⟩
    have long : 63 ≤ (joined '-' (words name)).length := by
      rw [same, joined_append first more, List.length_append, List.length_cons, size]
      omega
    rw [Nat.min_eq_left long, List.getElem?_take_of_lt (by decide)]
    exact (getElem?_joined_eq_sep whole 62).mpr ⟨front, back, same, first, more, size⟩

/-- **Any other slug is sound.** -/
theorem sound_generateSlug {name : String} (apart : ¬ CutBehindDash name) : Sound (generateSlug name) := by
  by_cases none : words name = []
  · rw [generateSlug_of_nothing none]
    exact ⟨List.all_eq_true.mp (by decide), ⟨by decide, by decide, by decide⟩,
      by decide, by decide⟩
  · have list := generateSlug_of_words none
    have first : (generateSlug name).toList <+: joined '-' (parts '-' (dashed name).toList) := by
      rw [list, words_eq]
      exact List.take_prefix _ _
    refine ⟨fun c member => ?_, tidy_of_prefix first fun last => apart ((ends_with_dash_iff none).mp last),
      fun empty => ?_, ?_⟩
    · refine chars_trim_collapse name c ?_
      rw [toList_trim_collapse]
      exact List.mem_of_mem_take (list ▸ member)
    · have nothing : (joined '-' (words name)).take 63 = [] := by
        rw [← list, empty]
        rfl
      have whole : Whole '-' (words name) := words_eq name ▸ parts_whole _
      exact (List.take_eq_nil_iff.mp nothing).elim (by decide) (joined_ne_nil whole none)
    · rw [list, List.length_take]
      exact Nat.min_le_left _ _

theorem not_valid_of_dash {s : String} (last : s.toList.getLast? = some '-') : validateSlug s = false := by
  unfold validateSlug
  split
  · rfl
  · cases chars : s.toList with
    | nil => rfl
    | cons c rest =>
      rw [chars] at last
      unfold slugPattern
      dsimp only
      by_cases single : rest = []
      · rw [single] at last
        obtain rfl := Option.some.inj last
        rfl
      · rw [List.getLast?_eq_some_getLast (List.cons_ne_nil c rest), List.getLast_cons single] at last
        rw [List.getLast?_eq_some_getLast single, Option.some.inj last]
        simp [single, alnumChar]

/-- **A generated slug is valid and stable just when it is not cut behind a dash.** -/
theorem generateSlug_iff (name : String) :
    (validateSlug (generateSlug name) = true ∧ generateSlug (generateSlug name) = generateSlug name) ↔
      ¬ CutBehindDash name := by
  constructor
  · rintro ⟨valid, -⟩ cut
    have some : words name ≠ [] := by
      obtain ⟨front, back, same, first, -, -⟩ := cut
      rw [same]
      exact List.append_ne_nil_of_left_ne_nil first back
    rw [not_valid_of_dash ((ends_with_dash_iff some).mpr cut)] at valid
    cases valid
  · intro apart
    exact ⟨(sound_generateSlug apart).valid, (sound_generateSlug apart).stable⟩

/-- A first word of 62 letters, and another one. -/
def longName : String := String.ofList (List.replicate 62 'a' ++ [' ', 'b'])

theorem longName_cut : validateSlug (generateSlug longName) = false ∧
    generateSlug (generateSlug longName) ≠ generateSlug longName ∧
    generateSlug longName = String.ofList (List.replicate 62 'a' ++ ['-']) := by
  have two : words longName = [List.replicate 62 'a', ['b']] := by
    unfold words trimSpace longName
    rw [String.toList_ofList, String.toList_ofList]
    decide
  have cut : (generateSlug longName).toList = List.replicate 62 'a' ++ ['-'] := by
    rw [generateSlug_of_words (two ▸ List.cons_ne_nil _ _), two]
    decide
  have slug : generateSlug longName = String.ofList (List.replicate 62 'a' ++ ['-']) :=
    String.toList_inj.mp (cut.trans String.toList_ofList.symm)
  have one : words (generateSlug longName) = [List.replicate 62 'a'] := by
    unfold words trimSpace
    rw [cut, String.toList_ofList]
    decide
  have again : (generateSlug (generateSlug longName)).toList = List.replicate 62 'a' := by
    rw [generateSlug_of_words (one ▸ List.cons_ne_nil _ _), one]
    decide
  refine ⟨not_valid_of_dash (by rw [cut]; decide), fun same => ?_, slug⟩
  rw [same, cut] at again
  exact absurd again (by decide)

example : generateSlug "Production US-East" = "production-us-east" := by decide

end Slug

end Nixway.Cluster
