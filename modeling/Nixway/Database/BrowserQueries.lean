/-
# Database.BrowserQueries -- the queries of the table browser

`buildSQLForOperation` of `apps/agent/db_query.go` for the operations that are not the user's own
query.  Names go into the text behind a check and in quotes, so what the database reads is the
template with each name in its place (`Reads`).  The page of `get_rows` is multiplied in 64 bits:
`intended_iff` says for which requests the offset is the product it should be.
-/
import Nixway.Database.Gate
import Nixway.Theory.Template

namespace Nixway.Database

open Nixway.Store Nixway.Agent Nixway.Theory.Lexical Nixway.Theory.Text

set_option autoImplicit false

/-! ## What the engines make of plain characters -/

def letter (c : Char) : Bool := ('a' ≤ c && c ≤ 'z') || ('A' ≤ c && c ≤ 'Z') || c = '_'

/-- Marks that are elements by themselves, whatever follows. -/
def stopMark (c : Char) : Bool := c ∈ [' ', ',', '.', '=', '(', ')']

def plainMark (c : Char) : Bool := letter c || stopMark c || c = '*'

def plainKind (c : Char) : Kind :=
  if c = ' ' then .blank else if letter c then .word else .other

theorem ne_of_letter {c d : Char} (is : letter c = true) (other : letter d = false) : c ≠ d := by
  rintro rfl
  rw [is] at other
  cases other

theorem wordStart_of_letter {c : Char} (is : letter c = true) : wordStart c = true := by
  unfold letter at is
  unfold wordStart
  rw [is, Bool.true_or]

theorem engine_letter (version : Nat) (driver : SqlDriver) {c d : Char} (is : letter c = true)
    (unquoted : d ≠ '\'') (rest : List Char) : engine version driver c (d :: rest) =
      (.word, ((d :: rest).takeWhile wordChar).length) := by
  have apart : ∀ chars : List Char, (chars.all fun d => !letter d) = true → c ∉ chars := by
    intro chars none member
    have marked := List.all_eq_true.mp none c member
    rw [is] at marked
    cases marked
  have space : sqlSpace c = false := decide_eq_false (apart _ (by decide))
  have marks := apart [';', '#', '-', '/', '*', '\x27', '\x22', '\x60', '$'] (by decide)
  simp only [List.mem_cons, List.not_mem_nil, or_false, not_or] at marks
  obtain ⟨semicolon, hash, minus, slash, star, single, double, back, dollar⟩ := marks
  have start := wordStart_of_letter is
  cases driver with
  | pgx =>
    show postgres c (d :: rest) = _
    simp [postgres, space, semicolon, minus, slash, single, double, dollar, start, unquoted]
  | mysql =>
    show mysql version c (d :: rest) = _
    simp [mysql, mysqlFrom, space, semicolon, hash, minus, slash, star, single, double, back, start]

theorem engine_stop (version : Nat) (driver : SqlDriver) {c : Char} (is : stopMark c = true)
    (rest : List Char) : engine version driver c rest = (plainKind c, 0) := by
  have marks : c = ' ' ∨ c = ',' ∨ c = '.' ∨ c = '=' ∨ c = '(' ∨ c = ')' := by
    simpa [stopMark] using is
  cases driver <;> rcases marks with rfl | rfl | rfl | rfl | rfl | rfl <;> rfl

theorem engine_star (version : Nat) (driver : SqlDriver) (rest : List Char) :
    engine version driver '*' rest = (.other, 0) := by
  cases driver with
  | pgx => rfl
  | mysql =>
    show mysql version '*' rest = _
    have digit : isDigit '*' = false := by decide
    simp [mysql, mysqlFrom, sqlSpace, wordStart, digit]

theorem readsPlain (version : Nat) (driver : SqlDriver) :
    ReadsPlain (engine version driver) plainMark stopMark letter wordChar plainKind where
  stop c rest is := engine_stop version driver is rest
  apart c is := by
    have marks : c = ' ' ∨ c = ',' ∨ c = '.' ∨ c = '=' ∨ c = '(' ∨ c = ')' := by
      simpa [stopMark] using is
    rcases marks with rfl | rfl | rfl | rfl | rfl | rfl <;> rfl
  read c d rest plainC plainD := by
    have unquoted : d ≠ '\'' := by
      rintro rfl
      cases plainD
    by_cases is : letter c = true
    · have space : c ≠ ' ' := ne_of_letter is rfl
      rw [engine_letter version driver is unquoted, if_pos is, plainKind, if_neg space, if_pos is]
    · rw [if_neg is]
      have marks : stopMark c = true ∨ c = '*' := by
        simpa [plainMark, is] using plainC
      rcases marks with stop | rfl
      · exact engine_stop version driver stop _
      · exact engine_star version driver _

/-! ## What the queries should be -/

def identQuote : SqlDriver → Char
  | .pgx => '"'
  | .mysql => '\x60'

def fixed (text : String) : Part := .fixed text.toList

def literal (name : String) : Part := .quoted '\'' name.toList

def identifier (driver : SqlDriver) (name : String) : Part := .quoted (identQuote driver) name.toList

def pageOf (cmd : DatabaseQueryCommand) : Int := max 0 (intValue (param cmd "page"))

def limitOf (cmd : DatabaseQueryCommand) : Int :=
  let limit := intValue (param cmd "limit")
  if limit ≤ 0 ∨ 1000 < limit then 100 else limit

def orderOf (cmd : DatabaseQueryCommand) : String :=
  let order := String.ofList ((param cmd "order").toList.map toUpperRune)
  if order = "ASC" ∨ order = "DESC" then order else "ASC"

/-- What `list_schemas` leaves out. -/
def systemSchemas : SqlDriver → String
  | .pgx => "'pg_catalog','information_schema','pg_toast'"
  | .mysql => "'mysql','information_schema','performance_schema','sys'"

/-- The end of `list_tables`. -/
def tablesText : SqlDriver → String
  | .pgx => " AND table_type IN ('BASE TABLE','VIEW') ORDER BY table_name"
  | .mysql => " ORDER BY table_name"

/-- The page of rows from an offset on. -/
def rowsText (limit offset : Int) : String := " LIMIT " ++ toString limit ++ " OFFSET " ++ toString offset

/-- The end of `get_rows`: the order, if a column is given that can be one, and the page. -/
def rowsTemplate (driver : SqlDriver) (cmd : DatabaseQueryCommand) (offset : Int) : List Part :=
  if param cmd "sort" ≠ "" ∧ isSafeIdent (param cmd "sort") then
    [fixed " ORDER BY ", identifier driver (param cmd "sort"),
      fixed (" " ++ orderOf cmd ++ rowsText (limitOf cmd) offset)]
  else [fixed (rowsText (limitOf cmd) offset)]

/-- The query of an operation, with an offset for `get_rows`. -/
def template (driver : SqlDriver) (cmd : DatabaseQueryCommand) (offset : Int) : List Part :=
  let schema := param cmd "schema"
  let table := param cmd "table"
  match sqlOperation (normalOperation cmd.operation) with
  | .listSchemas =>
    [fixed ("SELECT schema_name FROM information_schema.schemata WHERE schema_name NOT IN (" ++
      systemSchemas driver ++ ") ORDER BY schema_name")]
  | .listTables =>
    [fixed "SELECT table_name FROM information_schema.tables WHERE table_schema = ", literal schema,
      fixed (tablesText driver)]
  | .listColumns =>
    [fixed "SELECT column_name, data_type FROM information_schema.columns WHERE table_schema = ",
      literal schema, fixed " AND table_name = ", literal table, fixed " ORDER BY ordinal_position"]
  | .getRows =>
    fixed "SELECT * FROM " :: identifier driver schema :: fixed "." :: identifier driver table ::
      rowsTemplate driver cmd offset
  | .countRows =>
    [fixed "SELECT COUNT(*) FROM ", identifier driver schema, fixed ".", identifier driver table]
  | .select | .unknown => []

/-- The operation is refused, or the database reads its template, which passes the gate as a query
that does not write; and a page has 1 to 1000 rows, from the product of its number and that on. -/
structure Intended (version : Nat) (driver : SqlDriver) (cmd : DatabaseQueryCommand) : Prop where
  gate : ∀ query isWrite, buildSQLForOperation driver cmd = .ok (query, isWrite) →
    isWrite = false ∧ checkSQL driver cmd = .ok (query, false)
  reads : ∀ query isWrite, buildSQLForOperation driver cmd = .ok (query, isWrite) →
    Reads (engine version driver) query.toList (template driver cmd (pageOf cmd * limitOf cmd))
  limit : 1 ≤ limitOf cmd ∧ limitOf cmd ≤ 1000

/-! ## Names -/

theorem chars_of_safe {name : String} (safe : isSafeIdent name = true) :
    ∀ c ∈ name.toList, identRune false c = true := by
  unfold isSafeIdent at safe
  split at safe
  · cases safe
  · split at safe
    · next none =>
      rw [none]
      exact nofun
    · next c rest chars =>
      obtain ⟨first, later⟩ := Bool.and_eq_true_iff.mp safe
      rw [chars]
      refine List.forall_mem_cons.mpr ⟨?_, fun d member => List.all_eq_true.mp later d member⟩
      unfold identRune at first ⊢
      rw [Bool.not_true, Bool.false_and, Bool.or_false] at first
      rw [first, Bool.true_or]

theorem not_mem_of_safe {name : String} (safe : isSafeIdent name = true) {c : Char}
    (mark : identRune false c = false) : c ∉ name.toList := by
  intro member
  rw [chars_of_safe safe c member] at mark
  cases mark

/-- A quote that is not in a text closes it, with and without escapes. -/
theorem quotedReach_free {quote : Char} {escapes : Bool} {text rest : List Char} (free : quote ∉ text)
    (plain : '\\' ∉ text) (ends : rest.head? ≠ some quote) :
    quotedReach quote escapes (text ++ quote :: rest) = text.length + 1 := by
  induction text with
  | nil =>
    cases rest with
    | nil => rfl
    | cons d rest =>
      have other : d ≠ quote := fun same => ends (congrArg some same)
      show quotedReach quote escapes (quote :: d :: rest) = 1
      rw [quotedReach, if_pos rfl, if_neg other]
  | cons c text ih =>
    obtain ⟨other, free⟩ := not_or.mp (List.mem_cons.not.mp free)
    obtain ⟨unescaped, plain⟩ := not_or.mp (List.mem_cons.not.mp plain)
    have step : quotedReach quote escapes (c :: (text ++ quote :: rest)) =
        1 + quotedReach quote escapes (text ++ quote :: rest) := by
      cases text with
      | nil =>
        show quotedReach quote escapes (c :: quote :: rest) = _
        rw [quotedReach, if_neg (Ne.symm other), if_neg fun both => unescaped both.2.symm]
        rfl
      | cons d text =>
        show quotedReach quote escapes (c :: d :: (text ++ quote :: rest)) = _
        rw [quotedReach, if_neg (Ne.symm other), if_neg fun both => unescaped both.2.symm]
        rfl
    rw [List.cons_append, step, ih free plain, List.length_cons]
    omega

section Names

variable (version : Nat) (driver : SqlDriver) {name : String} {rest : List Char}

theorem closed_literal (safe : isSafeIdent name = true) (ends : rest.head? ≠ some '\'') :
    Closed (engine version driver) (literal name) rest := by
  refine closed_quoted ?_
  have reach (escapes : Bool) := @quotedReach_free '\'' escapes name.toList rest
    (not_mem_of_safe safe rfl) (not_mem_of_safe safe rfl) ends
  cases driver with
  | pgx => exact congrArg (Prod.mk Kind.literal) (reach false)
  | mysql => exact congrArg (Prod.mk Kind.literal) (reach true)

theorem closed_identifier (safe : isSafeIdent name = true)
    (ends : rest.head? ≠ some (identQuote driver)) :
    Closed (engine version driver) (identifier driver name) rest := by
  refine closed_quoted ?_
  cases driver with
  | pgx =>
    exact congrArg (Prod.mk Kind.literal) (quotedReach_free (not_mem_of_safe safe rfl)
      (not_mem_of_safe safe rfl) ends)
  | mysql =>
    exact congrArg (Prod.mk Kind.literal) (quotedReach_free (not_mem_of_safe safe rfl)
      (not_mem_of_safe safe rfl) ends)

theorem closed_fixed {text : String} (plain : text.toList.all plainMark = true)
    (ends : text.toList.getLast?.any stopMark = true) :
    Closed (engine version driver) (fixed text) rest :=
  closed_plain (readsPlain version driver) plain ends rest

end Names

/-! ## Queries -/

section Queries

variable {driver : SqlDriver} {cmd : DatabaseQueryCommand}

/-- What is known of a query that is built. -/
structure Built (driver : SqlDriver) (cmd : DatabaseQueryCommand) (query : String) (offset : Int) : Prop where
  text : query.toList = (template driver cmd offset).flatMap Part.text
  apart : ∀ version offset, Apart (engine version driver) (template driver cmd offset)
  leads : ∃ behind, query.toList = "SELECT".toList ++ ' ' :: behind

theorem leads_of_fixed {query first : String} {later : List Part}
    (text : query.toList = (fixed first :: later).flatMap Part.text)
    (verb : "SELECT ".toList.isPrefixOf first.toList = true) :
    ∃ behind, query.toList = "SELECT".toList ++ ' ' :: behind := by
  obtain ⟨rest, split⟩ := List.isPrefixOf_iff_prefix.mp verb
  have cut : "SELECT ".toList = "SELECT".toList ++ [' '] := by decide
  refine ⟨rest ++ later.flatMap Part.text, ?_⟩
  rw [text, List.flatMap_cons]
  show first.toList ++ _ = _
  rw [← split, cut, List.append_assoc, List.append_assoc]
  rfl

theorem ends_fixed {first : String} {later : List Part} {quote : Char}
    (other : first.toList.head?.any (· ≠ quote) = true) :
    ((fixed first :: later).flatMap Part.text).head? ≠ some quote := by
  obtain ⟨c, starts, apart⟩ := (Option.any_eq_true _ _).mp other
  exact head_append_ne starts (of_decide_eq_true apart) _

theorem toList_literal {front back front' back' name : String}
    (opened : front.toList = front'.toList ++ ['\'']) (closed : back.toList = '\'' :: back'.toList) :
    (front ++ name ++ back).toList = [fixed front', literal name, fixed back'].flatMap Part.text := by
  rw [String.toList_append, String.toList_append, opened, closed]
  simp [Part.text, fixed, literal]

theorem toList_literals {front middle back front' middle' back' name name' : String}
    (opened : front.toList = front'.toList ++ ['\''])
    (between : middle.toList = '\'' :: (middle'.toList ++ ['\'']))
    (closed : back.toList = '\'' :: back'.toList) :
    (front ++ name ++ middle ++ name' ++ back).toList =
      [fixed front', literal name, fixed middle', literal name', fixed back'].flatMap Part.text := by
  rw [String.toList_append, String.toList_append, String.toList_append, String.toList_append, opened,
    between, closed]
  simp [Part.text, fixed, literal]

theorem Built.reads {query : String} {offset : Int} (built : Built driver cmd query offset)
    (version : Nat) (offset' : Int) :
    Reads (engine version driver) query.toList (template driver cmd offset') ↔
      (template driver cmd offset).flatMap Part.text = (template driver cmd offset').flatMap Part.text := by
  have apart := built.apart version offset'
  rw [reads_iff apart, built.text]

theorem toList_quoteIdent (driver : SqlDriver) (name : String) :
    (quoteIdent driver name).toList = (identifier driver name).text := by
  cases driver with
  | pgx =>
    show ("\"" ++ name ++ "\"").toList = '"' :: (name.toList ++ ['"'])
    rw [String.toList_append, String.toList_append]
    rfl
  | mysql =>
    show ("\x60" ++ name ++ "\x60").toList = '\x60' :: (name.toList ++ ['\x60'])
    rw [String.toList_append, String.toList_append]
    rfl

theorem built_listSchemas {query : String} {isWrite : Bool} (offset : Int)
    (op : sqlOperation (normalOperation cmd.operation) = .listSchemas)
    (built : buildSQLForOperation driver cmd = .ok (query, isWrite)) :
    isWrite = false ∧ Built driver cmd query offset := by
  unfold buildSQLForOperation at built
  rw [op] at built
  have known : query = "SELECT schema_name FROM information_schema.schemata WHERE schema_name NOT IN (" ++
      systemSchemas driver ++ ") ORDER BY schema_name" ∧ isWrite = false := by
    obtain ⟨rfl, rfl⟩ := Prod.mk.inj (Except.ok.inj built)
    cases driver <;> exact ⟨rfl, rfl⟩
  obtain ⟨rfl, rfl⟩ := known
  have whole : ∀ offset, template driver cmd offset =
      [fixed ("SELECT schema_name FROM information_schema.schemata WHERE schema_name NOT IN (" ++
        systemSchemas driver ++ ") ORDER BY schema_name")] := by
    intro offset
    unfold template
    rw [op]
  have text : ∀ text : String, text.toList = [fixed text].flatMap Part.text := fun _ =>
    (List.append_nil _).symm
  refine ⟨rfl, ⟨?_, fun version offset => ?_, leads_of_fixed (text _) ?_⟩⟩
  · rw [whole]
    exact text _
  · rw [whole]
    exact .cons (closed_last _) .nil
  · rw [String.toList_append, String.toList_append, String.toList_ofList, String.toList_ofList]
    rfl

theorem built_listTables {query : String} {isWrite : Bool} (offset : Int)
    (op : sqlOperation (normalOperation cmd.operation) = .listTables)
    (built : buildSQLForOperation driver cmd = .ok (query, isWrite)) :
    isWrite = false ∧ Built driver cmd query offset := by
  unfold buildSQLForOperation at built
  rw [op] at built
  dsimp only at built
  by_cases safe : isSafeIdent (param cmd "schema") = true
  · rw [if_neg (by simp [safe])] at built
    obtain ⟨rfl, rfl⟩ := Prod.mk.inj (Except.ok.inj built)
    have whole : ∀ offset, template driver cmd offset =
        [fixed "SELECT table_name FROM information_schema.tables WHERE table_schema = ",
          literal (param cmd "schema"), fixed (tablesText driver)] := by
      intro offset
      unfold template
      rw [op]
    have opened : "SELECT table_name FROM information_schema.tables WHERE table_schema = '".toList =
        "SELECT table_name FROM information_schema.tables WHERE table_schema = ".toList ++ ['\''] := by
      rw [String.toList_ofList, String.toList_ofList]
      rfl
    have closed : (match driver with
          | .pgx => "' AND table_type IN ('BASE TABLE','VIEW') ORDER BY table_name"
          | .mysql => "' ORDER BY table_name").toList = '\'' :: (tablesText driver).toList := by
      cases driver <;> (unfold tablesText; repeat rw [String.toList_ofList])
    have text := @toList_literal _ _ _ _ (param cmd "schema") opened closed
    refine ⟨rfl, ⟨(whole offset).symm ▸ text, fun version offset => ?_,
      leads_of_fixed text (by rw [String.toList_ofList, String.toList_ofList]; rfl)⟩⟩
    rw [whole]
    refine .cons (closed_fixed _ _ (by rw [String.toList_ofList]; decide)
        (by rw [String.toList_ofList]; decide))
      (.cons (closed_literal _ _ safe (ends_fixed ?_)) (.cons (closed_last _) .nil))
    cases driver <;> decide
  · rw [if_pos (by simpa using safe)] at built
    cases built

/-- Operations on a table check both names. -/
theorem safe_of_built {α : Type} {value : α} {ok : Except String α}
    (built : (if (!isSafeIdent (param cmd "schema") || !isSafeIdent (param cmd "table")) = true then
      .error "invalid schema or table name" else ok) = .ok value) :
    isSafeIdent (param cmd "schema") = true ∧ isSafeIdent (param cmd "table") = true ∧ ok = .ok value := by
  by_cases bad : (!isSafeIdent (param cmd "schema") || !isSafeIdent (param cmd "table")) = true
  · rw [if_pos bad] at built
    cases built
  · rw [if_neg bad] at built
    simp only [Bool.or_eq_true, not_or, Bool.not_eq_true', Bool.not_eq_false] at bad
    exact ⟨bad.1, bad.2, built⟩

theorem built_listColumns {query : String} {isWrite : Bool} (offset : Int)
    (op : sqlOperation (normalOperation cmd.operation) = .listColumns)
    (built : buildSQLForOperation driver cmd = .ok (query, isWrite)) :
    isWrite = false ∧ Built driver cmd query offset := by
  unfold buildSQLForOperation at built
  rw [op] at built
  obtain ⟨safeSchema, safeTable, built⟩ := safe_of_built built
  obtain ⟨rfl, rfl⟩ := Prod.mk.inj (Except.ok.inj built)
  have whole : ∀ offset, template driver cmd offset =
      [fixed "SELECT column_name, data_type FROM information_schema.columns WHERE table_schema = ",
        literal (param cmd "schema"), fixed " AND table_name = ", literal (param cmd "table"),
        fixed " ORDER BY ordinal_position"] := by
    intro offset
    unfold template
    rw [op]
  have opened : "SELECT column_name, data_type FROM information_schema.columns WHERE table_schema = '".toList =
      "SELECT column_name, data_type FROM information_schema.columns WHERE table_schema = ".toList ++
        ['\''] := by
    rw [String.toList_ofList, String.toList_ofList]
    rfl
  have text := @toList_literals _ "' AND table_name = '" "' ORDER BY ordinal_position" _
    " AND table_name = " " ORDER BY ordinal_position" (param cmd "schema") (param cmd "table") opened
    (by decide) (by decide)
  refine ⟨rfl, ⟨(whole offset).symm ▸ text, fun version offset => ?_,
    leads_of_fixed text (by rw [String.toList_ofList, String.toList_ofList]; rfl)⟩⟩
  rw [whole]
  exact .cons (closed_fixed _ _ (by rw [String.toList_ofList]; decide)
      (by rw [String.toList_ofList]; decide))
    (.cons (closed_literal _ _ safeSchema (ends_fixed (by decide)))
    (.cons (closed_fixed _ _ (by decide) (by decide))
    (.cons (closed_literal _ _ safeTable (ends_fixed (by decide)))
    (.cons (closed_last _) .nil))))

theorem toList_ordered {front back front' name order rows : String} {quote : Char}
    (opened : front.toList = front'.toList ++ [quote]) (closed : back.toList = quote :: " ".toList) :
    (front ++ name ++ back ++ order).toList ++ rows.toList =
      [fixed front', .quoted quote name.toList, fixed (" " ++ order ++ rows)].flatMap Part.text := by
  rw [String.toList_append, String.toList_append, String.toList_append, opened, closed]
  simp [Part.text, fixed]

theorem toList_rows (driver : SqlDriver) (cmd : DatabaseQueryCommand) (offset : Int) :
    (orderClause driver cmd).toList ++ (rowsText (limitOf cmd) offset).toList =
      (rowsTemplate driver cmd offset).flatMap Part.text := by
  unfold rowsTemplate orderClause
  by_cases sorted : param cmd "sort" ≠ "" ∧ isSafeIdent (param cmd "sort") = true
  · rw [if_pos sorted, if_pos sorted]
    cases driver with
    | pgx => exact toList_ordered (by decide) (by decide)
    | mysql => exact toList_ordered (by decide) (by decide)
  · have none : "".toList = [] := rfl
    rw [if_neg sorted, if_neg sorted, none, List.nil_append]
    exact (List.append_nil _).symm

theorem apart_rows (version : Nat) (driver : SqlDriver) (cmd : DatabaseQueryCommand) (offset : Int) :
    Apart (engine version driver) (rowsTemplate driver cmd offset) := by
  unfold rowsTemplate
  by_cases sorted : param cmd "sort" ≠ "" ∧ isSafeIdent (param cmd "sort") = true
  · rw [if_pos sorted]
    have ends : ∀ rows : String, ([fixed (" " ++ orderOf cmd ++ rows)].flatMap Part.text).head? ≠
        some (identQuote driver) := by
      intro rows
      have blank : (" " ++ orderOf cmd ++ rows).toList = ' ' :: ((orderOf cmd).toList ++ rows.toList) := by
        rw [String.toList_append, String.toList_append]
        rfl
      show (Part.text (fixed _) ++ []).head? ≠ _
      unfold Part.text fixed
      rw [blank]
      cases driver <;> exact nofun
    exact .cons (closed_fixed _ _ (by decide) (by decide))
      (.cons (closed_identifier _ _ sorted.2 (ends _)) (.cons (closed_last _) .nil))
  · rw [if_neg sorted]
    exact .cons (closed_last _) .nil

theorem ends_rows (driver : SqlDriver) (cmd : DatabaseQueryCommand) (offset : Int) :
    ((rowsTemplate driver cmd offset).flatMap Part.text).head? ≠ some (identQuote driver) := by
  unfold rowsTemplate
  by_cases sorted : param cmd "sort" ≠ "" ∧ isSafeIdent (param cmd "sort") = true
  · rw [if_pos sorted]
    cases driver <;> exact ends_fixed (by decide)
  · rw [if_neg sorted]
    have front : (rowsText (limitOf cmd) offset).toList = " LIMIT ".toList ++
        ((toString (limitOf cmd)).toList ++ (" OFFSET ".toList ++ (toString offset).toList)) := by
      unfold rowsText
      simp only [String.toList_append, List.append_assoc]
    show (Part.text (fixed _) ++ []).head? ≠ _
    unfold Part.text fixed
    rw [front]
    cases driver <;> exact nofun

theorem built_getRows {query : String} {isWrite : Bool}
    (op : sqlOperation (normalOperation cmd.operation) = .getRows)
    (built : buildSQLForOperation driver cmd = .ok (query, isWrite)) :
    isWrite = false ∧ isSafeIdent (param cmd "schema") = true ∧ isSafeIdent (param cmd "table") = true ∧
      Built driver cmd query ((pageOf cmd * limitOf cmd).bmod (2 ^ 64)) := by
  unfold buildSQLForOperation at built
  rw [op] at built
  obtain ⟨safeSchema, safeTable, built⟩ := safe_of_built built
  obtain ⟨rfl, rfl⟩ := Prod.mk.inj (Except.ok.inj built)
  have whole : ∀ offset, template driver cmd offset =
      fixed "SELECT * FROM " :: identifier driver (param cmd "schema") :: fixed "." ::
        identifier driver (param cmd "table") :: rowsTemplate driver cmd offset := by
    intro offset
    unfold template
    rw [op]
  have rows : limitClause cmd = rowsText (limitOf cmd) ((pageOf cmd * limitOf cmd).bmod (2 ^ 64)) := rfl
  have text : ("SELECT * FROM " ++ quoteIdent driver (param cmd "schema") ++ "." ++
      quoteIdent driver (param cmd "table") ++ orderClause driver cmd ++ limitClause cmd).toList =
      (fixed "SELECT * FROM " :: identifier driver (param cmd "schema") :: fixed "." ::
        identifier driver (param cmd "table") ::
          rowsTemplate driver cmd ((pageOf cmd * limitOf cmd).bmod (2 ^ 64))).flatMap Part.text := by
    simp only [String.toList_append, toList_quoteIdent, List.append_assoc, rows, List.flatMap_cons]
    rw [toList_rows]
    rfl
  refine ⟨rfl, safeSchema, safeTable, ⟨(whole _).symm ▸ text, fun version offset => ?_,
    leads_of_fixed text (by decide)⟩⟩
  rw [whole]
  refine .cons (closed_fixed _ _ (by decide) (by decide))
    (.cons (closed_identifier _ _ safeSchema ?_)
    (.cons (closed_fixed _ _ (by decide) (by decide))
    (.cons (closed_identifier _ _ safeTable (ends_rows driver cmd offset))
    (apart_rows version driver cmd offset))))
  cases driver <;> exact ends_fixed (by decide)

theorem built_countRows {query : String} {isWrite : Bool} (offset : Int)
    (op : sqlOperation (normalOperation cmd.operation) = .countRows)
    (built : buildSQLForOperation driver cmd = .ok (query, isWrite)) :
    isWrite = false ∧ Built driver cmd query offset := by
  unfold buildSQLForOperation at built
  rw [op] at built
  obtain ⟨safeSchema, safeTable, built⟩ := safe_of_built built
  obtain ⟨rfl, rfl⟩ := Prod.mk.inj (Except.ok.inj built)
  have whole : ∀ offset, template driver cmd offset =
      [fixed "SELECT COUNT(*) FROM ", identifier driver (param cmd "schema"), fixed ".",
        identifier driver (param cmd "table")] := by
    intro offset
    unfold template
    rw [op]
  have text : ("SELECT COUNT(*) FROM " ++ quoteIdent driver (param cmd "schema") ++ "." ++
      quoteIdent driver (param cmd "table")).toList =
      [fixed "SELECT COUNT(*) FROM ", identifier driver (param cmd "schema"), fixed ".",
        identifier driver (param cmd "table")].flatMap Part.text := by
    simp only [String.toList_append, toList_quoteIdent, List.append_assoc, List.flatMap_cons,
      List.flatMap_nil, List.append_nil]
    rfl
  refine ⟨rfl, ⟨(whole _).symm ▸ text, fun version offset => ?_, leads_of_fixed text (by decide)⟩⟩
  rw [whole]
  refine .cons (closed_fixed _ _ (by decide) (by decide))
    (.cons (closed_identifier _ _ safeSchema ?_)
    (.cons (closed_fixed _ _ (by decide) (by decide))
    (.cons (closed_identifier _ _ safeTable nofun) .nil)))
  cases driver <;> exact ends_fixed (by decide)

theorem checkSQL_of_leads {query : String} {isWrite : Bool}
    (built : buildSQLForOperation driver cmd = .ok (query, isWrite))
    (leads : ∃ behind, query.toList = "SELECT".toList ++ ' ' :: behind) :
    checkSQL driver cmd = .ok (query, isWrite) := by
  obtain ⟨behind, text⟩ := leads
  have plain : ∀ c ∈ "SELECT".toList, Plain c := by
    have letters : ("SELECT".toList.all fun c => capital c.toUpper) = true := by decide
    exact fun c member => plain_of_letter (List.all_eq_true.mp letters c member)
  have keyword : firstKeyword query = String.ofList ("SELECT".toList.map toUpperRune) :=
    @firstQueryKeyword_of_sight query [] "SELECT".toList (' ' :: behind) text (by decide) plain
      nofun fun c first => Option.some.inj first ▸ rfl
  have verb : firstKeyword query = "SELECT" := keyword.trans (by decide)
  unfold checkSQL
  simp only [built]
  rw [verb, if_neg (by decide), if_neg fun both => both.2 (by decide)]

theorem limitOf_bounds (cmd : DatabaseQueryCommand) : 1 ≤ limitOf cmd ∧ limitOf cmd ≤ 1000 := by
  unfold limitOf
  dsimp only
  split <;> omega

/-- What an operation other than `get_rows` is given is what it should be. -/
theorem intended_of_built (version : Nat) {query : String} {isWrite : Bool}
    (ok : buildSQLForOperation driver cmd = .ok (query, isWrite)) (reading : isWrite = false)
    (built : Built driver cmd query (pageOf cmd * limitOf cmd)) : Intended version driver cmd where
  gate query' isWrite' ok' := by
    obtain ⟨rfl, rfl⟩ := Prod.mk.inj (Except.ok.inj (ok.symm.trans ok'))
    subst reading
    exact ⟨rfl, checkSQL_of_leads ok built.leads⟩
  reads query' isWrite' ok' := by
    obtain ⟨rfl, rfl⟩ := Prod.mk.inj (Except.ok.inj (ok.symm.trans ok'))
    exact (built.reads version _).mpr rfl
  limit := limitOf_bounds cmd

/-! ## Pages -/

theorem fits_of_error {err : String} {P : Prop} (refused : buildSQLForOperation driver cmd = .error err)
    (op : sqlOperation (normalOperation cmd.operation) = .getRows)
    (safeSchema : isSafeIdent (param cmd "schema") = true)
    (safeTable : isSafeIdent (param cmd "table") = true) : P := by
  unfold buildSQLForOperation at refused
  rw [op] at refused
  dsimp only at refused
  rw [if_neg (by simp [safeSchema, safeTable])] at refused
  cases refused

theorem toString_int_inj {m n : Int} (same : toString m = toString n) : m = n := by
  have sign : ∀ k l : Nat, toString (Int.ofNat k) ≠ toString (Int.negSucc l) := by
    intro k l same
    have minus : '-' ∈ (toString (Int.negSucc l)).toList := by
      show '-' ∈ ("-" ++ toString (l + 1)).toList
      rw [String.toList_append]
      exact List.mem_append_left _ (by decide)
    rw [← same] at minus
    cases @isDigit_toString k '-' minus
  cases m with
  | ofNat k =>
    cases n with
    | ofNat l => exact congrArg Int.ofNat (toString_inj same)
    | negSucc l => exact absurd same (sign k l)
  | negSucc k =>
    cases n with
    | ofNat l => exact absurd same.symm (sign l k)
    | negSucc l =>
      have texts : ("-" ++ toString (k + 1)).toList = ("-" ++ toString (l + 1)).toList :=
        congrArg String.toList same
      rw [String.toList_append, String.toList_append] at texts
      have digits := toString_inj (String.toList_inj.mp (List.append_cancel_left texts))
      exact congrArg Int.negSucc (Nat.succ.inj digits)

theorem offset_of_template {offset offset' : Int}
    (op : sqlOperation (normalOperation cmd.operation) = .getRows)
    (same : (template driver cmd offset).flatMap Part.text =
      (template driver cmd offset').flatMap Part.text) : offset = offset' := by
  have rows : (rowsTemplate driver cmd offset).flatMap Part.text =
      (rowsTemplate driver cmd offset').flatMap Part.text := by
    unfold template at same
    rw [op] at same
    simpa only [List.flatMap_cons, List.append_cancel_left_eq] using same
  rw [← toList_rows, ← toList_rows] at rows
  have texts := List.append_cancel_left rows
  unfold rowsText at texts
  rw [String.toList_append, @String.toList_append _ (toString offset')] at texts
  exact toString_int_inj (String.toList_inj.mp (List.append_cancel_left texts))

/-- The product of two numbers that are not negative wraps from 2^63 on. -/
theorem bmod_eq_iff {n : Int} (nonneg : 0 ≤ n) : n.bmod (2 ^ 64) = n ↔ n < 2 ^ 63 := by
  rw [Int.bmod_def]
  constructor
  · intro same
    by_contra large
    split at same <;> omega
  · intro small
    rw [Int.emod_eq_of_lt nonneg (by omega), if_pos (by omega)]

end Queries

/-- **Browser queries are what they should be, up to offsets of 2^63.**  For every operation but the
user's query and all parameters: it is refused or the database reads its template, exactly if the
product of the page and the limit of a `get_rows` fits in 64 bits. -/
theorem intended_iff (version : Nat) (driver : SqlDriver) (cmd : DatabaseQueryCommand)
    (browses : sqlOperation (normalOperation cmd.operation) ≠ .select) :
    Intended version driver cmd ↔
      (sqlOperation (normalOperation cmd.operation) = .getRows →
        isSafeIdent (param cmd "schema") = true → isSafeIdent (param cmd "table") = true →
        pageOf cmd * limitOf cmd < 2 ^ 63) := by
  cases ok : buildSQLForOperation driver cmd with
  | error err =>
    have refused : ∀ query isWrite, buildSQLForOperation driver cmd ≠ .ok (query, isWrite) := by
      intro query isWrite other
      cases ok.symm.trans other
    exact iff_of_true
      ⟨fun query isWrite other => absurd other (refused query isWrite),
        fun query isWrite other => absurd other (refused query isWrite), limitOf_bounds cmd⟩
      fun op schema table => fits_of_error ok op schema table
  | ok answer =>
    obtain ⟨query, isWrite⟩ := answer
    cases op : sqlOperation (normalOperation cmd.operation) with
    | select => exact absurd op browses
    | unknown =>
      unfold buildSQLForOperation at ok
      rw [op] at ok
      cases ok
    | listSchemas =>
      have ⟨reading, built⟩ := built_listSchemas (pageOf cmd * limitOf cmd) op ok
      exact iff_of_true (intended_of_built version ok reading built) nofun
    | listTables =>
      have ⟨reading, built⟩ := built_listTables (pageOf cmd * limitOf cmd) op ok
      exact iff_of_true (intended_of_built version ok reading built) nofun
    | listColumns =>
      have ⟨reading, built⟩ := built_listColumns (pageOf cmd * limitOf cmd) op ok
      exact iff_of_true (intended_of_built version ok reading built) nofun
    | countRows =>
      have ⟨reading, built⟩ := built_countRows (pageOf cmd * limitOf cmd) op ok
      exact iff_of_true (intended_of_built version ok reading built) nofun
    | getRows =>
      obtain ⟨reading, safeSchema, safeTable, built⟩ := built_getRows op ok
      have limit := limitOf_bounds cmd
      have nonneg : 0 ≤ pageOf cmd * limitOf cmd :=
        Int.mul_nonneg (Int.le_max_left _ _) (by omega)
      rw [← bmod_eq_iff nonneg]
      constructor
      · intro intended _ _ _
        exact offset_of_template op ((built.reads version _).mp (intended.reads query isWrite ok))
      · intro fits
        rw [fits rfl safeSchema safeTable] at built
        exact intended_of_built version ok reading built

/-! ## Rows of a table -/

/-- The parameters of `GetTableRows`, if it accepts the names; `safeIdent` is `isSafeIdent`. -/
def rowsParams (schema table : String) (page limit : Int) (sortColumn sortOrder : String) :
    Option (List (String × String)) :=
  if !isSafeIdent schema || !isSafeIdent table then none
  else
    let limit := if limit ≤ 0 ∨ 1000 < limit then 100 else limit
    let order := String.ofList ((trimSpace sortOrder).toList.map toUpperRune)
    let order := if order ≠ "ASC" ∧ order ≠ "DESC" then "ASC" else order
    some ([("schema", schema), ("table", table), ("page", toString (max 0 page)),
      ("limit", toString limit), ("order", order)] ++
        if sortColumn ≠ "" ∧ isSafeIdent sortColumn then [("sort", sortColumn)] else [])

def ordersPage (page limit : Int) : DatabaseQueryCommand where
  requestID := "rows"
  databaseType := "postgresql"
  operation := "get_rows"
  params := (rowsParams "public" "orders" page limit "total" "desc").getD []

theorem fourth_page : sqlOperation (normalOperation (ordersPage 3 50).operation) ≠ .select ∧
    Intended 80000 .mysql (ordersPage 3 50) :=
  ⟨by decide, (intended_iff 80000 .mysql (ordersPage 3 50) (by decide)).mpr
    fun _ _ _ => by decide⟩

/-- A page far out is answered with the first one. -/
theorem offset_wraps :
    buildSQLForOperation .pgx (ordersPage (2 ^ 62) 4) =
        .ok ("SELECT * FROM \"public\".\"orders\" ORDER BY \"total\" DESC LIMIT 4 OFFSET 0", false) ∧
      pageOf (ordersPage (2 ^ 62) 4) * limitOf (ordersPage (2 ^ 62) 4) = 2 ^ 64 ∧
      ∀ version, ¬ Intended version .pgx (ordersPage (2 ^ 62) 4) := by
  have ok : buildSQLForOperation .pgx (ordersPage (2 ^ 62) 4) =
      .ok ("SELECT * FROM \"public\".\"orders\" ORDER BY \"total\" DESC LIMIT 4 OFFSET 0", false) := by
    decide
  have op : sqlOperation (normalOperation (ordersPage (2 ^ 62) 4).operation) = .getRows := by
    decide
  refine ⟨ok, by decide, fun version intended => ?_⟩
  obtain ⟨-, -, -, built⟩ := built_getRows op ok
  have same := offset_of_template op ((built.reads version _).mp (intended.reads _ _ ok))
  revert same
  decide

end Nixway.Database
