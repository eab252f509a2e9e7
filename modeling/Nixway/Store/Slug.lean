/-
# Store.Slug -- the slugs an app row can hold

`apps.slug` is written once, by `Create` of `internal/app/service.go`, with
`generateSlug` of the name given then; `UPDATE apps` leaves the column alone.
-/
import Nixway.Store.Schema
import Nixway.Theory.Text

namespace Nixway.Store

open Nixway.Theory.Text

set_option autoImplicit false

/-- `unicode.IsSpace`. -/
def isSpace (c : Char) : Bool :=
  c ∈ ['\t', '\n', '\x0b', '\x0c', '\r', ' ', '\u0085', '\u00a0', '\u1680', '\u2028', '\u2029',
    '\u202f', '\u205f', '\u3000'] || ('\u2000' ≤ c && c ≤ '\u200a')

/-- `strings.TrimSpace`. -/
def trimSpace (s : String) : String :=
  String.ofList ((s.toList.dropWhile isSpace).rdropWhile isSpace)

/-- `unicode.ToLower` as far as a slug can see it: besides `A` to `Z`, the dotted
capital I and the Kelvin sign are the only characters whose lower case is ASCII, and
any other character is replaced by a dash right after. -/
def toLowerRune (c : Char) : Char :=
  if c = '\u0130' then 'i' else if c = '\u212a' then 'k' else c.toLower

/-- The class `[a-z0-9-]`. -/
def slugChar (c : Char) : Bool := ('a' ≤ c && c ≤ 'z') || ('0' ≤ c && c ≤ '9') || c = '-'

def generateSlug (name : String) : String :=
  let slug := String.ofList ((trimSpace name).toList.map toLowerRune)
  let slug := replaceUnless slugChar '-' slug
  let slug := collapse '-' slug
  let slug := trim '-' slug
  let slug := if slug = "" then "app" else slug
  if 63 < slug.toList.length then takeChars 63 slug else slug

/-! ## The shape of a slug -/

/-- A text of slug characters that does not begin with a dash. -/
structure SlugShaped (slug : String) : Prop where
  chars : ∀ c ∈ slug.toList, slugChar c
  starts : ∃ c cs, slug.toList = c :: cs ∧ c ≠ '-'

theorem slugShaped_trimmed {slug : String} (chars : ∀ c ∈ slug.toList, slugChar c) :
    SlugShaped (if trim '-' slug = "" then "app" else trim '-' slug) := by
  split
  · have chars : "app".toList.all slugChar = true := by decide
    exact ⟨List.all_eq_true.mp chars, 'a', ['p', 'p'], rfl, by decide⟩
  · next nonempty =>
    refine ⟨fun c mem => chars c (mem_trim mem), ?_⟩
    match list : (trim '-' slug).toList with
    | [] => exact absurd (String.toList_inj.mp list) nonempty
    | c :: cs => exact ⟨c, cs, rfl, trim_head list⟩

theorem SlugShaped.take {slug : String} (shaped : SlugShaped slug) (n : Nat) :
    SlugShaped (takeChars (n + 1) slug) := by
  obtain ⟨c, cs, list, other⟩ := shaped.starts
  refine ⟨fun d mem => shaped.chars d ?_, c, cs.take n, ?_, other⟩
  · rw [takeChars, String.toList_ofList] at mem
    exact List.mem_of_mem_take mem
  · rw [takeChars, String.toList_ofList, list, List.take_succ_cons]

theorem SlugShaped.cut {slug : String} (shaped : SlugShaped slug) (n : Nat) :
    SlugShaped (if n + 1 < slug.toList.length then takeChars (n + 1) slug else slug) := by
  split
  · exact shaped.take n
  · exact shaped

/-- Every slug a row can hold has this shape.  A slug cut at 63 bytes may still end
with a dash. -/
theorem generateSlug_shaped (name : String) : SlugShaped (generateSlug name) := by
  have chars : ∀ c ∈ (collapse '-' (replaceUnless slugChar '-'
      (String.ofList ((trimSpace name).toList.map toLowerRune)))).toList, slugChar c := by
    intro c mem
    rw [collapse, String.toList_ofList] at mem
    rcases mem_replaceUnless (mem_collapseChars mem) with kept | rfl
    · exact kept
    · decide
  exact (slugShaped_trimmed chars).cut 62

example : generateSlug "  My App (v2)! " = "my-app-v2" := by decide +kernel

end Nixway.Store
