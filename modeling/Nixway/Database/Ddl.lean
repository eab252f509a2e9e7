/-
# Database.Ddl -- when no DDL passes the gate

The gate refuses a text whose leading keyword is a DDL verb.  It looks at one word, and finds it by
a fixed set of separators: a DDL verb behind a comment, behind white space it does not cut off,
in front of something it does not take for a separator, or at the front of a later statement is
not found.  `ddl_iff` says that this is all: a verb that begins the first statement and stands
between separators is refused.
-/
import Nixway.Database.Gate

namespace Nixway.Database

open Nixway.Store Nixway.Agent Nixway.Theory.Lexical

set_option autoImplicit false

/-- No statement that reaches the database begins with a DDL verb. -/
def GuardsDDL (version : Nat) (driver : SqlDriver) (req : QueryRequest) : Prop :=
  Reaches driver req → ∀ st ∈ statementsOf version driver req.query, leadsWith ddlKeywords st = false

/-- No later statement begins with a DDL verb, and the verb of the first one stands between
separators if it is one. -/
structure DDLInSight (version : Nat) (driver : SqlDriver) (query : String) : Prop where
  later : ∀ st ∈ (statementsOf version driver query).tail, leadsWith ddlKeywords st = false
  first : ∀ st, (statementsOf version driver query).head? = some st →
    leadsWith ddlKeywords st = true → InSight isSeparator (elementsOf version driver query)

/-- **No DDL passes the gate just when the check of the keyword refuses the text, or no later statement
begins with a DDL verb and the verb of the first stands between separators if it is one.** -/
theorem ddl_iff (version : Nat) (driver : SqlDriver) (req : QueryRequest) :
    GuardsDDL version driver req ↔ ¬ Passes req ∨ DDLInSight version driver req.query := by
  unfold GuardsDDL
  rw [reaches_iff]
  constructor
  · intro guards
    by_cases passes : Passes req
    · refine .inr ⟨fun st member => guards passes st (List.mem_of_mem_tail member), ?_⟩
      intro st first leads
      exact absurd leads (by simp [guards passes st (List.mem_of_head? first)])
    · exact .inl passes
  · rintro (refused | sight) passes st member
    · exact absurd passes refused
    · cases found : statementsOf version driver req.query with
      | nil => exact absurd (found ▸ member) List.not_mem_nil
      | cons first later =>
        rw [found] at member
        rcases List.mem_cons.mp member with rfl | behind
        · cases leads : leadsWith ddlKeywords st with
          | false => rfl
          | true =>
            have shown := sight.first st (by rw [found, List.head?_cons]) leads
            exact absurd (keyword_of_sight (by decide) shown found leads) passes.noDDL
        · exact sight.later st (by rwa [found, List.tail_cons])

/-- A later statement in read mode; and in write mode a comment before the verb, a form feed the
check does not cut off, and a comment right behind the verb. -/
theorem ddl_passes :
    ¬ GuardsDDL 80000 .pgx { query := "SELECT 1; DROP TABLE users" } ∧
      ¬ GuardsDDL 80000 .mysql { query := "/* a */ DROP TABLE users", writeMode := true } ∧
      ¬ GuardsDDL 80000 .pgx { query := ";\x0cDROP TABLE users", writeMode := true } ∧
      ¬ GuardsDDL 80000 .mysql { query := "DROP/**/TABLE users", writeMode := true } := by
  have passes : ∀ {req : QueryRequest}, sqlOperation (normalOperation req.operation) = .select →
      trimSpace req.query ≠ "" → firstQueryKeyword req.query ∉ ddlKeywords →
      (req.writeMode = false → firstQueryKeyword req.query ∈ readKeywords) →
      ∀ driver, Reaches driver req :=
    fun select nonempty noDDL reads driver => reaches_iff.mpr ⟨select, nonempty, noDDL, reads⟩
  refine ⟨fun guards => ?_, fun guards => ?_, fun guards => ?_, fun guards => ?_⟩
  · exact absurd (guards (passes (by decide) (by decide) (by decide)
      (by decide) _)) (by decide)
  · exact absurd (guards (passes (by decide) (by decide) (by decide)
      (by decide) _)) (by decide)
  · exact absurd (guards (passes (by decide) (by decide) (by decide)
      (by decide) _)) (by decide)
  · exact absurd (guards (passes (by decide) (by decide) (by decide)
      (by decide) _)) (by decide)

end Nixway.Database
