/-
# Github.Repositories -- the repositories of an installation, page by page

`ListRepositories` of `internal/github/service.go`: a loop without a bound of its own that asks for
one page after the other.  It stops at a page that is not full, and when it has as many repositories
as there are said to be.

`Read` is what the loop has done before it asks for a page; `listRepositories_all` follows: a list
served in pages is returned as it is, with as many requests as it has pages, and one for none.
-/
import Mathlib.Algebra.Order.Ring.Int
import Mathlib.Data.Int.Order.Basic
import Mathlib.Tactic.SplitIfs

namespace Nixway.Github.Repositories

set_option autoImplicit false

variable {Repository : Type}

def perPage : Nat := 100

/-- The body of a response. -/
structure Page (Repository : Type) where
  totalCount : Int
  repositories : List Repository

/-- What comes back for a request: the error of the transport or of reading the body, a status with
its body, and what the body is decoded to. -/
structure Response (Repository : Type) where
  transport : Option String := none
  status : Nat := 200
  body : String := ""
  decoded : Except String (Page Repository)

/-- The page of a response, or the error that is returned for it. -/
def Response.page (response : Response Repository) : Except String (Page Repository) :=
  match response.transport with
  | some err => .error err
  | none =>
    if response.status ≠ 200 then
      .error ("list repositories: unexpected status " ++ toString response.status ++ ": " ++
        response.body)
    else response.decoded.mapError fun err => "decode repositories: " ++ err

/-- The pages that were asked for, and what is returned. -/
structure Listing (Repository : Type) where
  requests : List Nat
  returned : Except String (List Repository)

/-- The loop from a page on, at most `fuel` rounds of it. -/
def listFrom (github : Nat → Response Repository) :
    Nat → Nat → List Repository → Option (Listing Repository)
  | 0, _, _ => none
  | fuel + 1, page, all =>
    match (github page).page with
    | .error err => some ⟨[page], .error err⟩
    | .ok result =>
      let all := all ++ result.repositories
      if result.repositories.length < perPage ∨ result.totalCount ≤ all.length then
        some ⟨[page], .ok all⟩
      else
        (listFrom github fuel (page + 1) all).map fun listing =>
          { listing with requests := page :: listing.requests }

def listRepositories (github : Nat → Response Repository) (fuel : Nat) :
    Option (Listing Repository) := listFrom github fuel 1 []

/-! ## A list served in pages -/

variable (repos : List Repository)

/-- The page with this number; the first is 1. -/
def serve (page : Nat) : Response Repository where
  decoded := .ok
    { totalCount := repos.length
      repositories := (repos.drop ((page - 1) * perPage)).take perPage }

/-- As many as there are pages, and one if there are none. -/
def requestsNeeded (n : Nat) : Nat := max 1 ((n + perPage - 1) / perPage)

/-- Before the loop asks for a page: it has all that come before it, and it is not the first only
if there are more. -/
structure Read (page : Nat) (all : List Repository) : Prop where
  before : all = repos.take ((page - 1) * perPage)
  more : 1 < page → (page - 1) * perPage < repos.length

variable {repos}

theorem Read.append {page : Nat} {all : List Repository} (read : Read repos page all) (first : 0 < page) :
    all ++ (repos.drop ((page - 1) * perPage)).take perPage = repos.take (page * perPage) := by
  have next : page * perPage = (page - 1) * perPage + perPage := by
    rw [← Nat.succ_mul, Nat.succ_eq_add_one, Nat.sub_add_cancel first]
  rw [read.before, next, List.take_add]

/-- **The last page**: it is not full, or all are there. -/
theorem stops_iff {page : Nat} {all : List Repository} (read : Read repos page all) (first : 0 < page) :
    (((repos.drop ((page - 1) * perPage)).take perPage).length < perPage ∨
      (repos.length : Int) ≤ (all ++ (repos.drop ((page - 1) * perPage)).take perPage).length) ↔
        repos.length ≤ page * perPage := by
  rw [read.append first, List.length_take, List.length_take, List.length_drop]
  have next : page * perPage = (page - 1) * perPage + perPage := by
    rw [← Nat.succ_mul, Nat.succ_eq_add_one, Nat.sub_add_cancel first]
  have full : 0 < perPage := by decide
  omega

/-- The pages of a list are counted by its length. -/
theorem requestsNeeded_eq {page n : Nat} (first : 0 < page) (last : n ≤ page * perPage)
    (more : 1 < page → (page - 1) * perPage < n) : requestsNeeded n = page := by
  unfold requestsNeeded perPage at *
  omega

/-- **From any page on the rest is read.** -/
theorem listFrom_serve (fuel : Nat) {page : Nat} {all : List Repository} (first : 0 < page)
    (read : Read repos page all) (enough : requestsNeeded repos.length < page + fuel) :
    listFrom (serve repos) fuel page all =
      some ⟨List.range' page (requestsNeeded repos.length + 1 - page), .ok repos⟩ := by
  induction fuel generalizing page all with
  | zero =>
    -- the page asked for is one of those needed
    have inside : page ≤ requestsNeeded repos.length := by
      by_cases one : 1 < page
      · have more := read.more one
        unfold requestsNeeded perPage at *
        omega
      · exact Nat.le_trans (Nat.not_lt.mp one) (Nat.le_max_left _ _)
    omega
  | succ fuel ih =>
    have page_eq : (serve repos page).page = .ok
        { totalCount := repos.length
          repositories := (repos.drop ((page - 1) * perPage)).take perPage } := rfl
    unfold listFrom
    rw [page_eq]
    dsimp only
    by_cases last : repos.length ≤ page * perPage
    · have needed := requestsNeeded_eq first last read.more
      rw [if_pos ((stops_iff read first).mpr last), read.append first, List.take_of_length_le last,
        needed, Nat.add_sub_cancel_left]
      rfl
    · have next : Read repos (page + 1) (repos.take (page * perPage)) :=
        ⟨by rw [Nat.add_sub_cancel], fun _ => by rw [Nat.add_sub_cancel]; exact Nat.not_le.mp last⟩
      have later : page + 1 ≤ requestsNeeded repos.length := by
        unfold requestsNeeded perPage at *
        omega
      rw [if_neg fun stops => last ((stops_iff read first).mp stops), read.append first,
        ih (Nat.succ_pos page) next (by omega), Option.map_some]
      have count : requestsNeeded repos.length + 1 - page =
          (requestsNeeded repos.length + 1 - (page + 1)) + 1 := by omega
      rw [count, List.range'_succ]

/-- **Every repository once, in order**, after as many requests as there are pages, and after one if
there are none. -/
theorem listRepositories_all (repos : List Repository) (spare : Nat) :
    listRepositories (serve repos) (requestsNeeded repos.length + spare) =
      some ⟨List.range' 1 (requestsNeeded repos.length), .ok repos⟩ := by
  have start : Read repos 1 [] := ⟨by simp, fun more => absurd more (Nat.lt_irrefl 1)⟩
  have all := listFrom_serve (requestsNeeded repos.length + spare) Nat.one_pos start (by omega)
  rwa [Nat.add_sub_cancel] at all

example : [0, 1, 99, 100, 101, 200].map requestsNeeded = [1, 1, 1, 1, 2, 2] := by decide

end Nixway.Github.Repositories
