/-
# Database.Gate -- which texts reach a SQL database, and how it reads them

The engines read a text with lexers of their own, which know white space, comments and literals
that the check of the leading keyword does not.  `reaches_iff` says which requests reach the
database, and `firstQueryKeyword_of_sight` that the check finds a word that stands between
separators; what the engine finds elsewhere is not checked.

A text is assumed to be run with all its statements.
-/
import Nixway.Agent.DatabaseQuery
import Nixway.Theory.Lexical

namespace Nixway.Database

open Nixway.Store Nixway.Agent Nixway.Theory.Lexical Nixway.Theory.Text

set_option autoImplicit false

/-! ## The engines -/

def sqlSpace (c : Char) : Bool := c ∈ [' ', '\t', '\n', '\r', '\x0b', '\x0c']

def wordStart (c : Char) : Bool :=
  ('a' ≤ c && c ≤ 'z') || ('A' ≤ c && c ≤ 'Z') || c = '_' || '\x80' ≤ c

def wordChar (c : Char) : Bool := wordStart c || isDigit c || c = '$'

/-- The tag of a dollar-quoted text, behind its first dollar. -/
def dollarTag (rest : List Char) : Option (List Char) :=
  let tag := rest.takeWhile fun c => wordStart c || isDigit c
  if (rest.drop tag.length).head? = some '$' ∧ tag.head?.all (fun c => !isDigit c) then some tag
  else none

def lineBreaks : List Char := ['\n', '\r']

/-- From a closing quote on: behind the quote that continues the literal on a later line, if one
does.  Blanks and comments to the end of the line may stand between the two. -/
def continuation : Bool → Bool → List Char → Option Nat
  | _, _, [] => none
  | comment, line, c :: rest =>
    if c ∈ lineBreaks then (continuation false true rest).map (1 + ·)
    else if comment ∨ sqlSpace c then (continuation comment line rest).map (1 + ·)
    else if c = '\x27' then if line then some 1 else none
    else if c = '-' ∧ rest.head? = some '-' then (continuation true line rest).map (1 + ·)
    else none

/-- The lexer of PostgreSQL.  Comments nest, and an `E` literal reads backslashes in all its
parts. -/
def postgres : Lexer := fun c rest =>
  if sqlSpace c then (.blank, 0)
  else if c = ';' then (.semicolon, 0)
  else if c = '-' ∧ rest.head? = some '-' then (.comment, lineReach lineBreaks rest)
  else if c = '/' ∧ rest.head? = some '*' then
    (.comment, 1 + blockReach (fun _ => true) 0 (rest.drop 1))
  else if c ∈ ['\x27', '\x22'] then (.literal, quotedReach c false rest)
  else if c ∈ ['E', 'e'] ∧ rest.head? = some '\x27' then
    (.literal, 1 + continuedReach '\x27' true (continuation false false) rest.length (rest.drop 1))
  else if c = '$' then
    match dollarTag rest with
    | some tag =>
      (.literal, tag.length + 1 + markReach ('$' :: tag ++ ['$']) (rest.drop (tag.length + 1)))
    | none => (.other, 0)
  else if wordStart c then (.word, (rest.takeWhile wordChar).length)
  else (.other, 0)

/-- The version an executable comment of MySQL asks for, behind its exclamation mark: five digits or
six, or none. -/
def askedVersion (rest : List Char) : List Char :=
  let digits := (rest.takeWhile isDigit).take 6
  if digits.length < 5 then [] else digits

/-- What has to stand behind two dashes for MySQL to read a comment. -/
def dashEnd (c : Char) : Bool := c ≤ ' ' || c = '\x7f'

/-- The lexer of MySQL.  What stands in an executable comment for the version of the server is read
as if the comment were not there; the state says whether one is open.  No comment opens in a comment
but one in an executable comment for a later server. -/
def mysqlFrom (version : Nat) : StateLexer Bool := fun inside c rest =>
  if sqlSpace c then ((.blank, 0), inside)
  else if c = ';' then ((.semicolon, 0), false)
  else if c = '#' then ((.comment, lineReach ['\n'] rest), inside)
  else if c = '-' ∧ rest.head? = some '-' ∧ (rest.drop 1).head?.all dashEnd then
    ((.comment, lineReach ['\n'] rest), inside)
  else if c = '/' ∧ rest.take 2 = ['*', '!'] then
    if digitsValue (askedVersion (rest.drop 2)) ≤ version then
      ((.blank, 2 + (askedVersion (rest.drop 2)).length), true)
    else ((.comment, 1 + blockReach (fun depth => depth = 0) 0 (rest.drop 1)), inside)
  else if c = '/' ∧ rest.head? = some '*' then
    ((.comment, 1 + blockReach (fun _ => false) 0 (rest.drop 1)), inside)
  else if c = '*' ∧ rest.head? = some '/' ∧ inside then ((.blank, 1), false)
  else if c ∈ ['\x27', '\x22'] then ((.literal, quotedReach c true rest), inside)
  else if c = '\x60' then ((.literal, quotedReach c false rest), inside)
  else if wordStart c ∨ c = '$' ∨ isDigit c then
    ((.word, (rest.takeWhile wordChar).length), inside)
  else ((.other, 0), inside)

/-- MySQL outside of executable comments. -/
def mysql (version : Nat) : Lexer := fun c rest => (mysqlFrom version false c rest).1

/-- How the database behind a driver reads a text, outside of executable comments. -/
def engine (version : Nat) : SqlDriver → Lexer
  | .pgx => postgres
  | .mysql => mysql version

/-- The elements of a text, as the database reads it. -/
def elementsOf (version : Nat) : SqlDriver → String → List Element
  | .pgx, query => lex postgres query.toList
  | .mysql, query => lexFrom (mysqlFrom version) false query.toList

theorem flatMap_elementsOf (version : Nat) (driver : SqlDriver) (query : String) :
    (elementsOf version driver query).flatMap Element.text = query.toList := by
  cases driver with
  | pgx => exact flatMap_lexFrom _ _ _
  | mysql => exact flatMap_lexFrom _ _ _

/-- The statements of a text. -/
def statementsOf (version : Nat) (driver : SqlDriver) (query : String) : List (List Element) :=
  statements (elementsOf version driver query)

def leadsWith (verbs : List String) : List Element → Bool
  | [] => false
  | e :: _ => e.kind = .word && String.ofList (e.text.map Char.toUpper) ∈ verbs

/-! ## What reaches the database -/

/-- The request passes the control plane and the agent, and its text is run. -/
def Reaches (driver : SqlDriver) (req : QueryRequest) : Prop :=
  sqlOperation (normalOperation req.operation) = .select ∧
    ∃ around requestID cmd isWrite, executeQuery around requestID req = .ok cmd ∧
      isSQLDB cmd.databaseType = true ∧ engineOf (normalOperation cmd.databaseType) = .sql driver ∧
      checkSQL driver cmd = .ok (req.query, isWrite)

structure Passes (req : QueryRequest) : Prop where
  operation : sqlOperation (normalOperation req.operation) = .select
  nonempty : trimSpace req.query ≠ ""
  noDDL : firstQueryKeyword req.query ∉ ddlKeywords
  reads : req.writeMode = false → firstQueryKeyword req.query ∈ readKeywords

theorem sqlOperation_select {op : String} : sqlOperation op = .select ↔ op = "" ∨ op = "select" := by
  unfold sqlOperation
  split <;> simp_all

theorem normalOperation_select {op : String} (select : sqlOperation op = .select) :
    sqlOperation (normalOperation op) = .select := by
  rcases sqlOperation_select.mp select with rfl | rfl
  · decide
  · decide

theorem explicit_of_select {req : QueryRequest} {dbType : String} (sql : isSQLDB dbType = true)
    (select : sqlOperation (normalOperation req.operation) = .select) :
    req.explicit dbType = true := by
  rcases sqlOperation_select.mp select with op | op
  · simp [QueryRequest.explicit, sql, op]
  · simp [QueryRequest.explicit, sql, op]

theorem check_iff {req : QueryRequest} {dbType : String} (sql : isSQLDB dbType = true)
    (select : sqlOperation (normalOperation req.operation) = .select) :
    req.check dbType = .ok () ↔ Passes req := by
  unfold QueryRequest.check
  rw [explicit_of_select sql select, if_neg Bool.true_eq_false.mp]
  constructor
  · intro passed
    split at passed
    · cases passed
    · next nonempty =>
      split at passed
      · cases passed
      · next noDDL =>
        split at passed
        · cases passed
        · next reads => exact ⟨select, nonempty, noDDL, fun off => by simpa [off] using reads⟩
  · rintro ⟨-, nonempty, noDDL, reads⟩
    rw [if_neg nonempty, if_neg noDDL, if_neg fun both => both.2 (reads both.1)]

/-- A command that is sent is that of the request, whose text was checked. -/
theorem executeQuery_ok {around : Surroundings} {requestID : String} {req : QueryRequest}
    {cmd : DatabaseQueryCommand} (sent : executeQuery around requestID req = .ok cmd) :
    ∃ dbType, cmd = req.command requestID dbType ∧ req.check dbType = .ok () := by
  unfold executeQuery at sent
  split at sent
  · cases sent
  · split at sent
    · cases sent
    · split at sent
      · cases sent
      · split at sent
        · next checked _ _ _ _ => exact ⟨_, (Except.ok.inj sent).symm, checked⟩
        · cases sent
        · cases sent
        · cases sent
        · cases sent
        · cases sent

theorem buildSQLForOperation_select {driver : SqlDriver} {cmd : DatabaseQueryCommand}
    (select : sqlOperation (normalOperation cmd.operation) = .select) :
    ∃ isWrite, buildSQLForOperation driver cmd = .ok (cmd.query, isWrite) := by
  unfold buildSQLForOperation
  rw [select]
  exact ⟨_, rfl⟩

theorem checkSQL_of_keyword {driver : SqlDriver} {cmd : DatabaseQueryCommand}
    (select : sqlOperation (normalOperation cmd.operation) = .select)
    (noDDL : firstKeyword cmd.query ∉ ddlKeywords)
    (reads : cmd.writeMode = false → firstKeyword cmd.query ∈ readKeywords) :
    ∃ isWrite, checkSQL driver cmd = .ok (cmd.query, isWrite) := by
  obtain ⟨isWrite, built⟩ := @buildSQLForOperation_select driver cmd select
  unfold checkSQL
  simp only [built]
  rw [if_neg noDDL, if_neg fun both => both.2 (reads both.1)]
  exact ⟨isWrite, rfl⟩

@[simp] theorem command_databaseType (req : QueryRequest) (requestID dbType : String) :
    (req.command requestID dbType).databaseType = dbType := rfl

/-- The type of a database behind a driver. -/
def sqlType : SqlDriver → String
  | .pgx => "postgresql"
  | .mysql => "mysql"

/-- **A request reaches the database just when the check lets its text pass.** -/
theorem reaches_iff {driver : SqlDriver} {req : QueryRequest} : Reaches driver req ↔ Passes req := by
  constructor
  · rintro ⟨select, around, requestID, cmd, isWrite, sent, sql, -, -⟩
    obtain ⟨dbType, rfl, checked⟩ := executeQuery_ok sent
    exact (check_iff sql select).mp checked
  · intro passes
    have same : dbTypeForQueryTemplate (sqlType driver) = sqlType driver := by cases driver <;> rfl
    have sql : isSQLDB (sqlType driver) = true := by cases driver <;> decide
    have here : engineOf (normalOperation (sqlType driver)) = .sql driver := by
      cases driver <;> decide
    have checked := (check_iff sql passes.operation).mpr passes
    have select : sqlOperation (normalOperation (req.command "" (sqlType driver)).operation) = .select :=
      normalOperation_select passes.operation
    obtain ⟨isWrite, runs⟩ := @checkSQL_of_keyword driver _ select passes.noDDL passes.reads
    refine ⟨passes.operation, { database := .ok ("running", sqlType driver) }, "",
      req.command "" (sqlType driver), isWrite, ?_, ?_, ?_, runs⟩
    · simp [executeQuery, same, checked]
    · rw [command_databaseType, sql]
    · rw [command_databaseType, here]

/-! ## Words in sight -/

/-- A character that is neither cut off nor separates. -/
structure Plain (c : Char) : Prop where
  separator : isSeparator c = false
  opener : c ∉ openers
  space : isSpace c = false

section Words

variable {p : Char → Bool} {before word behind : List Char}

theorem dropWhile_word (nonempty : word ≠ []) (stops : ∀ c ∈ word, p c = false) :
    (before ++ (word ++ behind)).dropWhile p = before.dropWhile p ++ (word ++ behind) := by
  cases word with
  | nil => exact absurd rfl nonempty
  | cons c word =>
    rw [List.dropWhile_append]
    split
    · next empty =>
      rw [List.isEmpty_iff.mp empty, List.nil_append, List.cons_append,
        List.dropWhile_cons_of_neg (by simp [stops c List.mem_cons_self])]
    · rfl

theorem rdropWhile_word (nonempty : word ≠ []) (stops : ∀ c ∈ word, p c = false) :
    (before ++ (word ++ behind)).rdropWhile p = before ++ (word ++ behind.rdropWhile p) := by
  have reversed : (before ++ (word ++ behind)).reverse =
      behind.reverse ++ (word.reverse ++ before.reverse) := by
    simp
  rw [List.rdropWhile, reversed, dropWhile_word (List.reverse_ne_nil_iff.mpr nonempty)
    fun c member => stops c (List.mem_reverse.mp member)]
  simp [List.rdropWhile]

theorem words_of_sight (nonempty : word ≠ []) (inside : ∀ c ∈ word, p c = false)
    (separated : ∀ c ∈ before, p c = true) (follows : ∀ c, behind.head? = some c → p c = true) :
    ∃ more, ((before ++ (word ++ behind)).splitOnP p).filter (· ≠ []) = word :: more := by
  induction before with
  | nil =>
    rw [List.nil_append]
    cases behind with
    | nil =>
      rw [List.append_nil, List.splitOnP_eq_singleton inside]
      exact ⟨[], by simp [nonempty]⟩
    | cons c rest =>
      rw [List.splitOnP_append_cons_of_forall_mem inside c (follows c rfl)]
      exact ⟨(rest.splitOnP p).filter (· ≠ []), List.filter_cons_of_pos (by simp [nonempty])⟩
  | cons c before ih =>
    rw [List.cons_append, List.splitOnP_cons_eq_if_modifyHead,
      if_pos (separated c List.mem_cons_self), List.filter_cons_of_neg (by simp)]
    exact ih fun d member => separated d (List.mem_cons_of_mem c member)

end Words

/-- **The check finds a word that stands between separators.** -/
theorem firstQueryKeyword_of_sight {query : String} {before word behind : List Char}
    (split : query.toList = before ++ (word ++ behind)) (nonempty : word ≠ [])
    (plain : ∀ c ∈ word, Plain c) (separated : ∀ c ∈ before, isSeparator c = true)
    (follows : ∀ c, behind.head? = some c → isSeparator c = true) :
    firstQueryKeyword query = String.ofList (word.map toUpperRune) := by
  have trimmed : (trimSpace query).toList =
      before.dropWhile isSpace ++ (word ++ behind.rdropWhile isSpace) := by
    rw [trimSpace, String.toList_ofList, split,
      dropWhile_word nonempty fun c member => (plain c member).space,
      rdropWhile_word nonempty fun c member => (plain c member).space]
  have left : ∀ c ∈ (before.dropWhile isSpace).dropWhile (· ∈ openers), isSeparator c = true :=
    fun c member => separated c
      ((List.dropWhile_sublist _).subset ((List.dropWhile_sublist _).subset member))
  have right : ∀ c, (behind.rdropWhile isSpace).head? = some c → isSeparator c = true := by
    intro c first
    obtain ⟨rest, whole⟩ := List.rdropWhile_prefix isSpace behind
    refine follows c ?_
    rw [← whole, List.head?_append, first]
    rfl
  obtain ⟨more, words⟩ := words_of_sight nonempty (fun c member => (plain c member).separator) left right
  unfold firstQueryKeyword
  simp only [trimmed]
  rw [dropWhile_word nonempty fun c member => by simpa using (plain c member).opener, words]

def capital (c : Char) : Bool := 'A' ≤ c && c ≤ 'Z'

/-- Verbs in capital letters. -/
def Capital (verbs : List String) : Bool :=
  verbs.all fun verb => verb.toList ≠ [] && verb.toList.all capital

theorem letter_le {c : Char} (letter : capital c.toUpper = true) : 'A' ≤ c ∧ c ≤ 'z' := by
  rw [capital, Bool.and_eq_true, decide_eq_true_eq, decide_eq_true_eq] at letter
  unfold Char.toUpper at letter
  split at letter
  · next lower => exact ⟨Char.le_trans (by decide) lower.1, lower.2⟩
  · exact ⟨letter.1, Char.le_trans letter.2 (by decide)⟩

theorem plain_of_letter {c : Char} (letter : capital c.toUpper = true) : Plain c := by
  have other : ∀ chars : List Char, (chars.all fun d => !capital d.toUpper) = true → c ∉ chars := by
    intro chars none member
    have small := List.all_eq_true.mp none c member
    rw [letter] at small
    cases small
  refine ⟨?_, other openers (by decide), ?_⟩
  · rw [isSeparator, decide_eq_false_iff_not]
    exact other _ (by decide)
  · rw [isSpace, Bool.or_eq_false_iff, decide_eq_false_iff_not, Bool.and_eq_false_iff,
      decide_eq_false_iff_not]
    refine ⟨other _ (by decide), .inl fun wide => ?_⟩
    exact absurd (Char.le_trans wide (letter_le letter).2) (by decide)

theorem toUpperRune_of_letter {c : Char} (letter : capital c.toUpper = true) :
    toUpperRune c = c.toUpper := by
  have ascii := (letter_le letter).2
  have longS : c ≠ '\u017f' := by
    rintro rfl
    exact absurd ascii (by decide)
  have dotless : c ≠ '\u0131' := by
    rintro rfl
    exact absurd ascii (by decide)
  rw [toUpperRune, if_neg longS, if_neg dotless]

/-- **A verb in sight is the keyword that is checked.** -/
theorem keyword_of_sight {version : Nat} {driver : SqlDriver} {query : String} {verbs : List String}
    (known : Capital verbs = true) (sight : InSight isSeparator (elementsOf version driver query))
    {first : List Element} {later : List (List Element)}
    (begins : statementsOf version driver query = first :: later)
    (leads : leadsWith verbs first = true) : firstQueryKeyword query ∈ verbs := by
  cases first with
  | nil => cases leads
  | cons e more =>
    have verb : String.ofList (e.text.map Char.toUpper) ∈ verbs := by
      have both := leads
      rw [leadsWith, Bool.and_eq_true, decide_eq_true_eq, decide_eq_true_eq] at both
      exact both.2
    have shape := List.all_eq_true.mp known _ verb
    rw [Bool.and_eq_true, decide_eq_true_eq, String.toList_ofList, List.all_eq_true] at shape
    obtain ⟨nonempty, letters⟩ := shape
    have letter : ∀ c ∈ e.text, capital c.toUpper = true :=
      fun c member => letters _ (List.mem_map_of_mem member)
    obtain ⟨before, behind, split, separated, follows⟩ := sight.split begins
    rw [flatMap_elementsOf] at split
    have word : e.text ≠ [] := fun none => nonempty (by rw [none, List.map_nil])
    rw [firstQueryKeyword_of_sight split word (fun c member => plain_of_letter (letter c member))
      separated follows]
    have same : e.text.map toUpperRune = e.text.map Char.toUpper :=
      List.map_congr_left fun c member => toUpperRune_of_letter (letter c member)
    rwa [same]

end Nixway.Database
