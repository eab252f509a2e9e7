/-
# Agent.PostInit -- the SQL script that creates the application's user

`postInitPostgres` of `apps/agent/db_post_init.go` writes the user, the password and the name of
the database into the text of a script.  The password is quoted with `sqlSingleQuote`, inside of
the dollars that quote the body of a `DO`; the name of the database stands in double quotes as it
is.

The script is read back by PostgreSQL's lexer.  `postgresReads_iff` is exact: it reads as its
template just if the password has no two dollars in a row, and the name no double quote and no
more bytes than an identifier.
-/
import Nixway.Database.Gate
import Nixway.Deploy.Precedence
import Nixway.Theory.Literals

namespace Nixway.Agent.PostInit

open Nixway.Store Nixway.Theory.Lexical Nixway.Database

set_option autoImplicit false

/-! ## The scripts -/

/-- `sqlSingleQuote`. -/
def sqlSingleQuote (s : String) : String := "'" ++ Deploy.replaceAll s "'" "''" ++ "'"

/-- `NIXWAY_APP_USER`, as `buildEnv` sets it. -/
def appUser : String := "app_user"

/-- What stands between the dollars. -/
def postgresBody (appUser appPass : String) : String :=
  "\nBEGIN\n  IF NOT EXISTS (SELECT 1 FROM pg_roles WHERE rolname = '" ++ appUser ++
  "') THEN\n    EXECUTE format('CREATE USER %I WITH PASSWORD %L', '" ++ appUser ++ "', " ++
  sqlSingleQuote appPass ++
  ");\n  ELSE\n    EXECUTE format('ALTER USER %I WITH PASSWORD %L', '" ++ appUser ++ "', " ++
  sqlSingleQuote appPass ++ ");\n  END IF;\nEND "

/-- The script of `postInitPostgres`. -/
def postInitPostgres (appUser appPass dbName : String) : String :=
  let dbName := if dbName = "" then "postgres" else dbName
  "\nDO $$" ++ postgresBody appUser appPass ++ "$$;\nGRANT CONNECT ON DATABASE \"" ++ dbName ++
  "\" TO \"" ++ appUser ++ "\";\nGRANT ALL PRIVILEGES ON DATABASE \"" ++ dbName ++
  "\" TO \"" ++ appUser ++ "\";\nGRANT ALL ON SCHEMA public TO \"" ++ appUser ++
  "\";\nGRANT ALL ON ALL TABLES IN SCHEMA public TO \"" ++ appUser ++
  "\";\nGRANT ALL ON ALL SEQUENCES IN SCHEMA public TO \"" ++ appUser ++
  "\";\nALTER DEFAULT PRIVILEGES IN SCHEMA public GRANT ALL ON TABLES TO \"" ++ appUser ++
  "\";\nALTER DEFAULT PRIVILEGES IN SCHEMA public GRANT ALL ON SEQUENCES TO \"" ++ appUser ++
  "\";\n"

/-! ## How PostgreSQL reads -/

inductive SqlToken where
  | word (text : String)
  | semicolon
  | symbol (text : String)
  | string (value : String)
  | identifier (value : String)
  | dollar (tag body : String)
  | invalid
deriving DecidableEq

/-- An identifier has at most 63 bytes; of a longer one PostgreSQL takes the front. -/
def identifierBytes : Nat := 63

/-- The value of a literal by its first character.  Of the escape strings, which no script has, no
value is taken. -/
def sqlLiteral : List Char → SqlToken
  | '\x27' :: rest =>
    match undouble '\x27' rest with
    | some value => .string (String.ofList value)
    | none => .invalid
  | '\x22' :: rest =>
    match undouble '\x22' rest with
    | some value => .identifier (String.ofList (clip identifierBytes value))
    | none => .invalid
  | '$' :: rest =>
    match dollarTag rest with
    | some tag =>
      let mark := '$' :: tag ++ ['$']
      let inner := rest.drop (tag.length + 1)
      if mark.isSuffixOf inner then
        .dollar (String.ofList tag) (String.ofList (inner.take (inner.length - mark.length)))
      else .invalid
    | none => .invalid
  | _ => .invalid

def sqlToken (e : Element) : SqlToken :=
  match e.kind with
  | .word => .word (String.ofList e.text)
  | .semicolon => .semicolon
  | .literal => sqlLiteral e.text
  | _ => .symbol (String.ofList e.text)

/-- The tokens PostgreSQL reads; a text with a zero character is no text to it. -/
def sqlTokens (script : String) : Option (List SqlToken) :=
  if Char.ofNat 0 ∈ script.toList then none
  else some (tokens postgres sqlToken script.toList)

section Statements

open SqlToken

/-- The statements of the body. -/
def bodyTokens (user pass : String) : List SqlToken :=
  [word "BEGIN",
    word "IF", word "NOT", word "EXISTS", symbol "(", word "SELECT", symbol "1", word "FROM",
      word "pg_roles", word "WHERE", word "rolname", symbol "=", string user, symbol ")",
      word "THEN",
    word "EXECUTE", word "format", symbol "(", string "CREATE USER %I WITH PASSWORD %L",
      symbol ",", string user, symbol ",", string pass, symbol ")", semicolon,
    word "ELSE",
    word "EXECUTE", word "format", symbol "(", string "ALTER USER %I WITH PASSWORD %L",
      symbol ",", string user, symbol ",", string pass, symbol ")", semicolon,
    word "END", word "IF", semicolon,
    word "END"]

/-- The statements behind the `DO`. -/
def grantTokens (user name : String) : List SqlToken :=
  [word "GRANT", word "CONNECT", word "ON", word "DATABASE", identifier name, word "TO",
      identifier user, semicolon,
    word "GRANT", word "ALL", word "PRIVILEGES", word "ON", word "DATABASE", identifier name,
      word "TO", identifier user, semicolon,
    word "GRANT", word "ALL", word "ON", word "SCHEMA", word "public", word "TO", identifier user,
      semicolon,
    word "GRANT", word "ALL", word "ON", word "ALL", word "TABLES", word "IN", word "SCHEMA",
      word "public", word "TO", identifier user, semicolon,
    word "GRANT", word "ALL", word "ON", word "ALL", word "SEQUENCES", word "IN", word "SCHEMA",
      word "public", word "TO", identifier user, semicolon,
    word "ALTER", word "DEFAULT", word "PRIVILEGES", word "IN", word "SCHEMA", word "public",
      word "GRANT", word "ALL", word "ON", word "TABLES", word "TO", identifier user, semicolon,
    word "ALTER", word "DEFAULT", word "PRIVILEGES", word "IN", word "SCHEMA", word "public",
      word "GRANT", word "ALL", word "ON", word "SEQUENCES", word "TO", identifier user, semicolon]

/-- **The script reads as its template**: a `DO` whose body reads as the template of the body, and
the grants. -/
def PostgresReads (script user pass name : String) : Prop :=
  ∃ body, sqlTokens script = some ([word "DO", dollar "" body, semicolon] ++ grantTokens user name) ∧
    sqlTokens body = some (bodyTokens user pass)

end Statements

/-! ## Quotes -/

theorem toList_replaceAll {old : String} {c : Char} (one : old.toList = [c]) (s new : String) :
    (Deploy.replaceAll s old new).toList =
      s.toList.flatMap fun d => if d = c then new.toList else [d] := by
  unfold Deploy.replaceAll
  rw [String.toList_ofList, one]
  generalize s.toList = cs
  suffices ∀ n, cs.length ≤ n → Deploy.replaceChars [c] new.toList n cs =
      cs.flatMap fun d => if d = c then new.toList else [d] from this cs.length (Nat.le_refl _)
  induction cs with
  | nil =>
    intro n _
    cases n <;> rfl
  | cons d cs ih =>
    intro n enough
    cases n with
    | zero => cases enough
    | succ n =>
      have later := ih n (Nat.le_of_succ_le_succ enough)
      rw [Deploy.replaceChars, List.flatMap_cons]
      by_cases here : d = c
      · rw [if_pos (by simp [here]), if_pos here, ← later]
        rfl
      · rw [if_neg (by simp [Ne.symm here]), if_neg here, ← later]
        rfl

theorem toList_sqlSingleQuote (s : String) :
    (sqlSingleQuote s).toList = '\'' :: (doubled '\'' s.toList ++ ['\'']) := by
  unfold sqlSingleQuote
  rw [String.toList_append, String.toList_append, @toList_replaceAll _ '\'' rfl]
  rfl

/-! ## What PostgreSQL reads -/

/-- What the lexer says here is settled within the piece. -/
def sqlSettles (c : Char) (piece : List Char) : Bool :=
  c ∈ [' ', '\n', ';', ',', '(', ')'] ||
    (c ∉ ['-', '/', '$'] && !(c ∈ ['E', 'e'] && piece.head? = some '\x27') &&
      decide ((postgres c piece).2 < piece.length))

theorem postgres_append (c : Char) (piece rest : List Char) (settles : sqlSettles c piece = true) :
    postgres c (piece ++ rest) = postgres c piece := by
  rcases Bool.or_eq_true_iff.mp settles with single | inside
  · have : c = ' ' ∨ c = '\n' ∨ c = ';' ∨ c = ',' ∨ c = '(' ∨ c = ')' := by simpa using single
    rcases this with rfl | rfl | rfl | rfl | rfl | rfl
    all_goals rfl
  · obtain ⟨calm, inside⟩ := Bool.and_eq_true_iff.mp inside
    have inside := of_decide_eq_true inside
    obtain ⟨calm, noEscape⟩ := Bool.and_eq_true_iff.mp calm
    have calm : c ≠ '-' ∧ c ≠ '/' ∧ c ≠ '$' := by simpa using calm
    obtain ⟨noMinus, noSlash, noDollar⟩ := calm
    obtain ⟨d, tail, rfl⟩ := List.exists_cons_of_length_pos (Nat.zero_lt_of_lt inside)
    have noEscape : ¬ (c ∈ ['E', 'e'] ∧ some d = some '\x27') := by
      simpa [imp_iff_not_or, not_or] using noEscape
    unfold postgres at inside ⊢
    simp only [noMinus, noSlash, noDollar, noEscape, false_and, if_false, List.cons_append,
      List.head?_cons, List.drop_succ_cons, List.drop_zero] at inside ⊢
    split_ifs at inside ⊢ with space semicolon quote word
    · rfl
    · rfl
    · rw [← List.cons_append, quotedReach_append inside]
    · rw [← List.cons_append, length_takeWhile_append inside]
    · rfl

theorem cons_take_closed {quote : Char} {text rest : List Char} :
    (quote :: (doubled quote text ++ quote :: rest).take ((doubled quote text).length + 1)) =
      quote :: (doubled quote text ++ [quote]) := by
  rw [List.take_append, List.take_of_length_le (Nat.le_succ _), Nat.add_sub_cancel_left]
  rfl

theorem drop_closed {quote : Char} (text rest : List Char) :
    (doubled quote text ++ quote :: rest).drop ((doubled quote text).length + 1) = rest := by
  rw [List.drop_append, List.drop_of_length_le (Nat.le_succ _), Nat.add_sub_cancel_left]
  rfl

theorem tokens_string (text : List Char) {rest : List Char} (ends : rest.head? ≠ some '\'') :
    tokens postgres sqlToken ('\'' :: (doubled '\'' text ++ '\'' :: rest)) =
      .string (String.ofList text) :: tokens postgres sqlToken rest := by
  have reads : postgres '\'' (doubled '\'' text ++ '\'' :: rest) =
      (.literal, (doubled '\'' text).length + 1) :=
    congrArg (Prod.mk Kind.literal) (quotedReach_doubled text ends)
  rw [tokens_cons reads (by decide), cons_take_closed, drop_closed]
  congr 1
  show sqlLiteral ('\'' :: (doubled '\'' text ++ ['\''])) = _
  rw [sqlLiteral, undouble_doubled]

theorem tokens_identifier {text : List Char} (fits : bytes text ≤ identifierBytes)
    {rest : List Char} (ends : rest.head? ≠ some '"') :
    tokens postgres sqlToken ('"' :: (doubled '"' text ++ '"' :: rest)) =
      .identifier (String.ofList text) :: tokens postgres sqlToken rest := by
  have reads : postgres '"' (doubled '"' text ++ '"' :: rest) =
      (.literal, (doubled '"' text).length + 1) :=
    congrArg (Prod.mk Kind.literal) (quotedReach_doubled text ends)
  rw [tokens_cons reads (by decide), cons_take_closed, drop_closed]
  congr 1
  show sqlLiteral ('"' :: (doubled '"' text ++ ['"'])) = _
  rw [sqlLiteral, undouble_doubled]
  dsimp only
  rw [clip_of_le fits]

theorem tokens_dollar {text : List Char} (first : ¬ ['$', '$'] <:+: text ++ ['$'])
    (rest : List Char) :
    tokens postgres sqlToken ('$' :: '$' :: (text ++ ['$', '$'] ++ rest)) =
      .dollar "" (String.ofList text) :: tokens postgres sqlToken rest := by
  have reach : markReach ['$', '$'] (text ++ ['$', '$'] ++ rest) = text.length + 2 :=
    markReach_append (by decide) first rest
  have reads : postgres '$' ('$' :: (text ++ ['$', '$'] ++ rest)) =
      (.literal, 1 + (text.length + 2)) := congrArg (fun n => (Kind.literal, 1 + n)) reach
  rw [tokens_cons reads (by decide), Nat.add_comm, List.take_succ_cons, List.drop_succ_cons,
    List.drop_left' (by rw [List.length_append]; rfl), List.take_left' (by rw [List.length_append]; rfl)]
  congr 1
  show sqlLiteral ('$' :: '$' :: (text ++ ['$', '$'])) = _
  have tag : dollarTag ('$' :: (text ++ ['$', '$'])) = some [] := rfl
  have closed : ['$', '$'].isSuffixOf (text ++ ['$', '$']) = true :=
    List.isSuffixOf_iff_suffix.mpr (List.suffix_append text _)
  rw [sqlLiteral, tag]
  show (if ['$', '$'].isSuffixOf (text ++ ['$', '$']) = true then
      SqlToken.dollar "" (String.ofList
        ((text ++ ['$', '$']).take ((text ++ ['$', '$']).length - 2)))
    else .invalid) = _
  rw [if_pos closed, List.length_append, List.length_cons, List.length_cons, List.length_nil,
    Nat.add_sub_cancel, List.take_left]

/-! ### What its tokens tell -/

theorem literal_of_sqlToken {e : Element} {t : SqlToken} (reads : sqlToken e = t)
    (literal : (∃ v, t = .string v) ∨ (∃ v, t = .identifier v) ∨ ∃ tag body, t = .dollar tag body) :
    e.kind = .literal ∧ sqlLiteral e.text = t := by
  unfold sqlToken at reads
  split at reads
  · subst reads
    rcases literal with ⟨_, other⟩ | ⟨_, other⟩ | ⟨_, _, other⟩ <;> cases other
  · subst reads
    rcases literal with ⟨_, other⟩ | ⟨_, other⟩ | ⟨_, _, other⟩ <;> cases other
  · next kind => exact ⟨kind, reads⟩
  · subst reads
    rcases literal with ⟨_, other⟩ | ⟨_, other⟩ | ⟨_, _, other⟩ <;> cases other

/-- The text of a literal, by its token. -/
inductive Written : List Char → SqlToken → Prop where
  | string (value : List Char) : Written ('\'' :: (doubled '\'' value ++ ['\'']))
      (.string (String.ofList value))
  | identifier (value : List Char) : Written ('"' :: (doubled '"' value ++ ['"']))
      (.identifier (String.ofList (clip identifierBytes value)))
  | dollar {rest tag : List Char} (tagged : dollarTag rest = some tag) (body : List Char)
      (closed : rest.drop (tag.length + 1) = body ++ ('$' :: tag ++ ['$'])) :
      Written ('$' :: rest) (.dollar (String.ofList tag) (String.ofList body))
  | invalid (text : List Char) : Written text .invalid

theorem written (text : List Char) : Written text (sqlLiteral text) := by
  unfold sqlLiteral
  split
  · next rest =>
    split
    · next value has =>
      rw [eq_doubled_of_undouble has]
      exact .string value
    · exact .invalid _
  · next rest =>
    split
    · next value has =>
      rw [eq_doubled_of_undouble has]
      exact .identifier value
    · exact .invalid _
  · next rest =>
    split
    · next tag tagged =>
      dsimp only
      split
      · next closed =>
        obtain ⟨body, here⟩ := List.isSuffixOf_iff_suffix.mp closed
        refine .dollar tagged _ ?_
        rw [← here, List.length_append, Nat.add_sub_cancel, List.take_left]
      · exact .invalid _
    · exact .invalid _
  · exact .invalid _

/-- What a token needs of the double quotes of its text. -/
def quoteCost : SqlToken → Nat
  | .string value => value.toList.count '"'
  | .identifier value => 2 + 2 * value.toList.count '"'
  | .dollar _ body => body.toList.count '"'
  | _ => 0

theorem quoteCost_le (e : Element) : quoteCost (sqlToken e) ≤ e.text.count '"' := by
  unfold sqlToken
  split
  · exact Nat.zero_le _
  · exact Nat.zero_le _
  · have shape := written e.text
    generalize sqlLiteral e.text = t at shape
    generalize e.text = text at shape
    cases shape with
    | string value =>
      rw [quoteCost, String.toList_ofList, List.count_cons_of_ne (by decide), List.count_append,
        count_doubled_of_ne (by decide)]
      exact Nat.le_add_right _ _
    | identifier value =>
      have clipped := (clip_sublist identifierBytes value).count_le '"'
      rw [quoteCost, String.toList_ofList, List.count_cons_self, List.count_append, count_doubled]
      rw [List.count_singleton_self]
      omega
    | dollar tagged body closed =>
      rename_i rest tag
      have part : body.count '"' ≤ (rest.drop (tag.length + 1)).count '"' := by
        rw [closed, List.count_append]
        exact Nat.le_add_right _ _
      rw [quoteCost, String.toList_ofList]
      exact part.trans (((List.drop_sublist _ rest).trans (List.sublist_cons_self _ rest)).count_le '"')
    | invalid => exact Nat.zero_le _
  · exact Nat.zero_le _

theorem bytes_of_identifier {e : Element} {name : String} (reads : sqlToken e = .identifier name) :
    bytes name.toList ≤ identifierBytes := by
  obtain ⟨-, literal⟩ := literal_of_sqlToken reads (.inr (.inl ⟨name, rfl⟩))
  have shape := written e.text
  rw [literal] at shape
  generalize e.text = text at shape
  cases shape with
  | identifier value =>
    rw [String.toList_ofList]
    exact bytes_clip _ _

/-- The text of a string stands in the text that is read. -/
theorem infix_of_string {e : Element} {value : String} (reads : sqlToken e = .string value) :
    doubled '\'' value.toList <:+: e.text := by
  obtain ⟨-, literal⟩ := literal_of_sqlToken reads (.inl ⟨value, rfl⟩)
  have shape := written e.text
  rw [literal] at shape
  generalize e.text = text at shape
  cases shape with
  | string value =>
    rw [String.toList_ofList]
    exact ⟨['\''], ['\''], rfl⟩

theorem dollarTag_nil {text : List Char} (tagged : dollarTag text = some []) :
    text.head? = some '$' := by
  unfold dollarTag at tagged
  dsimp only at tagged
  split at tagged
  · next holds =>
    rw [Option.some.inj tagged] at holds
    exact holds.1
  · cases tagged

/-- **A text between two dollars has no two dollars in a row.** -/
theorem dollars_of_body {c : Char} {rest : List Char} {body : String}
    (reads : sqlToken ⟨(postgres c rest).1, c :: rest.take (postgres c rest).2⟩ =
      .dollar "" body) : ¬ ['$', '$'] <:+: body.toList := by
  obtain ⟨-, literal⟩ := literal_of_sqlToken reads (.inr (.inr ⟨"", body, rfl⟩))
  have shape := written (c :: rest.take (postgres c rest).2)
  rw [literal] at shape
  generalize tagText : "" = tag at shape
  generalize taken : rest.take (postgres c rest).2 = inner at shape
  cases shape with
  | dollar tagged body closed =>
    rename_i tag
    have none : tag = [] := by simpa using congrArg String.toList tagText.symm
    subst none
    have head := dollarTag_nil tagged
    rw [← taken, List.head?_take] at head
    split at head
    · cases head
    · obtain ⟨inside, rfl⟩ : ∃ inside, rest = '$' :: inside := by
        cases rest with
        | nil => cases head
        | cons d inside =>
          cases head
          exact ⟨inside, rfl⟩
      rw [String.toList_ofList]
      have reach : (postgres '$' ('$' :: inside)).2 = markReach ['$', '$'] inside + 1 :=
        Nat.add_comm _ _
      rw [← taken, reach, List.take_succ_cons] at closed
      exact not_infix_of_markReach (by decide) closed

/-! ## The SQL script -/

/-- The body of the `DO` around its two passwords. -/
def bodyFront : List Char :=
  "\nBEGIN\n  IF NOT EXISTS (SELECT 1 FROM pg_roles WHERE rolname = '".toList ++
    (appUser.toList ++ ("') THEN\n    EXECUTE format('CREATE USER %I WITH PASSWORD %L', '".toList ++
      (appUser.toList ++ "', ".toList)))

def bodyMiddle : List Char :=
  ");\n  ELSE\n    EXECUTE format('ALTER USER %I WITH PASSWORD %L', '".toList ++
    (appUser.toList ++ "', ".toList)

def bodyBack : List Char := ");\n  END IF;\nEND ".toList

theorem toList_postgresBody (pass : String) :
    (postgresBody appUser pass).toList =
      bodyFront ++ '\'' :: (doubled '\'' pass.toList ++ '\'' ::
        (bodyMiddle ++ '\'' :: (doubled '\'' pass.toList ++ '\'' :: bodyBack))) := by
  unfold postgresBody bodyFront bodyMiddle bodyBack
  simp only [String.toList_append, toList_sqlSingleQuote, List.append_assoc, List.cons_append,
    List.nil_append]

theorem infix_postgresBody (pass : String) :
    ['$', '$'] <:+: (postgresBody appUser pass).toList ++ ['$'] ↔ ['$', '$'] <:+: pass.toList := by
  have cut : ∀ {front back : List Char},
      ['$', '$'] <:+: front ++ '\'' :: back ↔ ['$', '$'] <:+: front ∨ ['$', '$'] <:+: back :=
    infix_append_cons (by decide) (by decide)
  have same : ['$', '$'] <:+: doubled '\'' pass.toList ↔ ['$', '$'] <:+: pass.toList :=
    infix_doubled (by decide) (by decide)
  have front : ¬ ['$', '$'] <:+: bodyFront := by
    unfold bodyFront
    repeat rw [String.toList_ofList]
    decide +kernel
  have middle : ¬ ['$', '$'] <:+: bodyMiddle := by
    unfold bodyMiddle
    repeat rw [String.toList_ofList]
    decide +kernel
  have back : ¬ ['$', '$'] <:+: bodyBack ++ ['$'] := by
    unfold bodyBack
    repeat rw [String.toList_ofList]
    decide
  rw [toList_postgresBody, List.append_assoc, List.cons_append, List.append_assoc, List.cons_append,
    List.append_assoc, List.cons_append, List.append_assoc, List.cons_append, cut, cut, cut, cut,
    same, or_iff_right front, or_iff_right middle, or_iff_left back, or_self]

section Reads

open SqlToken

/-- **The body reads as its template**, whatever the password. -/
theorem tokens_postgresBody (pass : String) :
    tokens postgres sqlToken (postgresBody appUser pass).toList = bodyTokens appUser pass := by
  have front : ∀ rest, tokens postgres sqlToken (bodyFront ++ rest) =
      (bodyTokens appUser "").take 22 ++ tokens postgres sqlToken rest :=
    tokens_piece postgres_append 100 (by
      unfold bodyFront
      repeat rw [String.toList_ofList]
      decide +kernel)
  have middle : ∀ rest, tokens postgres sqlToken (bodyMiddle ++ rest) =
      ((bodyTokens appUser "").drop 23).take 10 ++ tokens postgres sqlToken rest :=
    tokens_piece postgres_append 100 (by
      unfold bodyMiddle
      repeat rw [String.toList_ofList]
      decide)
  have back : ∀ rest, tokens postgres sqlToken (bodyBack ++ rest) =
      (bodyTokens appUser "").drop 34 ++ tokens postgres sqlToken rest :=
    tokens_piece postgres_append 100 (by
      unfold bodyBack
      repeat rw [String.toList_ofList]
      decide)
  have closing : bodyMiddle.head? = some ')' := by
    unfold bodyMiddle
    repeat rw [String.toList_ofList]
    decide
  rw [toList_postgresBody, front, tokens_string _ (head_append_ne closing (by decide) _), middle,
    tokens_string _ (by decide), ← List.append_nil bodyBack, back, String.ofList_toList]
  rfl

/-! ### The grants -/

def connectText : List Char := ";\nGRANT CONNECT ON DATABASE ".toList

def privilegesText : List Char :=
  " TO \"".toList ++ (appUser.toList ++ "\";\nGRANT ALL PRIVILEGES ON DATABASE ".toList)

def grantsText : List Char :=
  " TO \"".toList ++ (appUser.toList ++ ("\";\nGRANT ALL ON SCHEMA public TO \"".toList ++
  (appUser.toList ++ ("\";\nGRANT ALL ON ALL TABLES IN SCHEMA public TO \"".toList ++
  (appUser.toList ++ ("\";\nGRANT ALL ON ALL SEQUENCES IN SCHEMA public TO \"".toList ++
  (appUser.toList ++
    ("\";\nALTER DEFAULT PRIVILEGES IN SCHEMA public GRANT ALL ON TABLES TO \"".toList ++
  (appUser.toList ++
    ("\";\nALTER DEFAULT PRIVILEGES IN SCHEMA public GRANT ALL ON SEQUENCES TO \"".toList ++
  (appUser.toList ++ "\";\n".toList)))))))))))

theorem toList_postInitPostgres (pass : String) {name : String} (given : name ≠ "") :
    (postInitPostgres appUser pass name).toList =
      "\nDO ".toList ++ '$' :: '$' :: ((postgresBody appUser pass).toList ++ ['$', '$'] ++
        (connectText ++ '"' :: (name.toList ++ '"' ::
          (privilegesText ++ '"' :: (name.toList ++ '"' :: grantsText))))) := by
  have start : "\nDO $$".toList = "\nDO ".toList ++ ['$', '$'] := by decide
  have connect : "$$;\nGRANT CONNECT ON DATABASE \"".toList =
    '$' :: '$' :: (connectText ++ ['"']) := by decide
  have grantee : "\" TO \"".toList = '"' :: " TO \"".toList := by decide
  have privileges : "\";\nGRANT ALL PRIVILEGES ON DATABASE \"".toList =
    "\";\nGRANT ALL PRIVILEGES ON DATABASE ".toList ++ ['"'] := by decide
  unfold postInitPostgres privilegesText grantsText
  dsimp only
  rw [if_neg given]
  simp only [String.toList_append, start, connect, grantee, privileges, List.append_assoc,
    List.cons_append, List.nil_append]

/-- **The script reads as its template** where the name fits in an identifier and the password has
no two dollars in a row. -/
theorem tokens_postInitPostgres {pass name : String} (given : name ≠ "") (quote : '"' ∉ name.toList)
    (size : bytes name.toList ≤ identifierBytes) (dollars : ¬ ['$', '$'] <:+: pass.toList) :
    tokens postgres sqlToken (postInitPostgres appUser pass name).toList =
      [word "DO", dollar "" (postgresBody appUser pass), semicolon] ++ grantTokens appUser name := by
  have start : ∀ rest, tokens postgres sqlToken ("\nDO ".toList ++ rest) =
      [word "DO"] ++ tokens postgres sqlToken rest :=
    tokens_piece postgres_append 100 (by decide)
  have connect : ∀ rest, tokens postgres sqlToken (connectText ++ rest) =
      semicolon :: (grantTokens appUser "").take 4 ++ tokens postgres sqlToken rest :=
    tokens_piece postgres_append 100 (by
      unfold connectText
      repeat rw [String.toList_ofList]
      decide)
  have privileges : ∀ rest, tokens postgres sqlToken (privilegesText ++ rest) =
      ((grantTokens appUser "").drop 5).take 8 ++ tokens postgres sqlToken rest :=
    tokens_piece postgres_append 100 (by
      unfold privilegesText
      repeat rw [String.toList_ofList]
      decide)
  have grants : ∀ rest, tokens postgres sqlToken (grantsText ++ rest) =
      (grantTokens appUser "").drop 14 ++ tokens postgres sqlToken rest :=
    tokens_piece postgres_append 200 (by
      unfold grantsText
      repeat rw [String.toList_ofList]
      decide +kernel)
  have name' : name.toList = doubled '"' name.toList := (doubled_of_free quote).symm
  have blank : privilegesText.head? = some ' ' := by
    unfold privilegesText
    repeat rw [String.toList_ofList]
    decide
  rw [toList_postInitPostgres pass given, start, tokens_dollar (mt (infix_postgresBody pass).mp dollars),
    connect, name', tokens_identifier size (head_append_ne blank (by decide) _), privileges,
    tokens_identifier size (by decide), ← List.append_nil grantsText, grants,
    String.ofList_toList, String.ofList_toList]
  rfl

/-! ### Exactly when -/

/-- The password has no two dollars in a row, the name fits in an identifier without double quotes,
and neither has a zero character. -/
structure SqlSafe (pass name : String) : Prop where
  dollars : ¬ ['$', '$'] <:+: pass.toList
  quote : '"' ∉ name.toList
  size : bytes name.toList ≤ identifierBytes
  zeroPass : Char.ofNat 0 ∉ pass.toList
  zeroName : Char.ofNat 0 ∉ name.toList

theorem zero_postgresBody (pass : String) :
    Char.ofNat 0 ∈ (postgresBody appUser pass).toList ↔ Char.ofNat 0 ∈ pass.toList := by
  have front : Char.ofNat 0 ∉ bodyFront := by
    unfold bodyFront
    repeat rw [String.toList_ofList]
    decide
  have middle : Char.ofNat 0 ∉ bodyMiddle := by
    unfold bodyMiddle
    repeat rw [String.toList_ofList]
    decide
  have back : Char.ofNat 0 ∉ bodyBack := by
    unfold bodyBack
    repeat rw [String.toList_ofList]
    decide
  rw [toList_postgresBody]
  simp only [List.mem_append, List.mem_cons, mem_doubled, front, middle, back,
    show ¬ Char.ofNat 0 = '\'' by decide, false_or, or_false, or_self]

theorem zero_postInitPostgres (pass : String) {name : String} (given : name ≠ "") :
    Char.ofNat 0 ∈ (postInitPostgres appUser pass name).toList ↔
      Char.ofNat 0 ∈ pass.toList ∨ Char.ofNat 0 ∈ name.toList := by
  have start : Char.ofNat 0 ∉ "\nDO ".toList := by decide
  have connect : Char.ofNat 0 ∉ connectText := by
    unfold connectText
    repeat rw [String.toList_ofList]
    decide
  have privileges : Char.ofNat 0 ∉ privilegesText := by
    unfold privilegesText
    repeat rw [String.toList_ofList]
    decide
  have grants : Char.ofNat 0 ∉ grantsText := by
    unfold grantsText
    repeat rw [String.toList_ofList]
    decide
  rw [toList_postInitPostgres pass given]
  simp only [List.mem_append, List.mem_cons, zero_postgresBody, start, connect, privileges, grants,
    show ¬ Char.ofNat 0 = '"' by decide, show ¬ Char.ofNat 0 = '$' by decide, List.not_mem_nil,
    false_or, or_false, or_self]

/-- The name stands twice in the script, and the password in its body. -/
theorem count_postInitPostgres (pass : String) {name : String} (given : name ≠ "") :
    (postInitPostgres appUser pass name).toList.count '"' =
      18 + 2 * name.toList.count '"' + 2 * pass.toList.count '"' := by
  have body : (postgresBody appUser pass).toList.count '"' = 2 * pass.toList.count '"' := by
    have front : bodyFront.count '"' = 0 := by
      unfold bodyFront
      repeat rw [String.toList_ofList]
      decide
    have middle : bodyMiddle.count '"' = 0 := by
      unfold bodyMiddle
      repeat rw [String.toList_ofList]
      decide
    have back : bodyBack.count '"' = 0 := by
      unfold bodyBack
      repeat rw [String.toList_ofList]
      decide
    have same : (doubled '\'' pass.toList).count '"' = pass.toList.count '"' :=
      count_doubled_of_ne (by decide) _
    have other : '\'' ≠ '"' := by decide
    rw [toList_postgresBody]
    simp only [List.count_append, List.count_cons_of_ne other, front, middle, back, same]
    omega
  have start : "\nDO ".toList.count '"' = 0 := by decide
  have connect : connectText.count '"' = 0 := by
    unfold connectText
    repeat rw [String.toList_ofList]
    decide
  have privileges : privilegesText.count '"' = 2 := by
    unfold privilegesText
    repeat rw [String.toList_ofList]
    decide
  have grants : grantsText.count '"' = 12 := by
    unfold grantsText
    repeat rw [String.toList_ofList]
    decide +kernel
  have other : '$' ≠ '"' := by decide
  rw [toList_postInitPostgres pass given]
  simp only [List.count_append, List.count_cons_self, List.count_cons_of_ne other, List.count_nil, body,
    start, connect, privileges, grants]
  omega

/-- **The SQL script.** -/
theorem postgresReads_iff (pass : String) {name : String} (given : name ≠ "") :
    PostgresReads (postInitPostgres appUser pass name) appUser pass name ↔ SqlSafe pass name := by
  constructor
  · rintro ⟨body, script, inner⟩
    unfold sqlTokens at script inner
    split at script
    · cases script
    next zero =>
    split at inner
    · cases inner
    rw [zero_postInitPostgres pass given, not_or] at zero
    have script := Option.some.inj script
    have inner := Option.some.inj inner
    refine ⟨fun inside => ?_, ?_, ?_, zero.1, zero.2⟩
    · -- the password stands in the body, and the body ends at two dollars
      have member : dollar "" body ∈
          tokens postgres sqlToken (postInitPostgres appUser pass name).toList := by
        rw [script]
        exact List.mem_cons_of_mem _ List.mem_cons_self
      obtain ⟨c, rest, reads⟩ := mem_tokens member
      refine dollars_of_body reads ?_
      have quoted : string pass ∈ tokens postgres sqlToken body.toList := by
        rw [inner]
        simp [bodyTokens]
      obtain ⟨e, there, value⟩ := List.mem_map.mp quoted
      have part := infix_of_mem_lex (List.mem_filter.mp there).1
      have same : ['$', '$'] <:+: doubled '\'' pass.toList :=
        (infix_doubled (by decide) (by decide)).mpr inside
      exact same.trans ((infix_of_string value).trans part)
    · -- each double quote of the name would have to be there twice
      have paid := @sum_cost_le postgres _ _ _ _ quoteCost_le
        (postInitPostgres appUser pass name).toList
      have paidBody := @sum_cost_le postgres _ _ _ _ quoteCost_le body.toList
      rw [script, count_postInitPostgres pass given] at paid
      rw [inner] at paidBody
      have user : appUser.toList.count '"' = 0 := by decide
      have create : "CREATE USER %I WITH PASSWORD %L".toList.count '"' = 0 := by decide
      have alter : "ALTER USER %I WITH PASSWORD %L".toList.count '"' = 0 := by decide
      simp only [grantTokens, bodyTokens, List.cons_append, List.nil_append, List.map_cons,
        List.map_nil, List.sum_cons, List.sum_nil, quoteCost, user, create, alter] at paid paidBody
      exact List.count_eq_zero.mp (by omega)
    · have member : identifier name ∈
          tokens postgres sqlToken (postInitPostgres appUser pass name).toList := by
        rw [script]
        simp [grantTokens]
      obtain ⟨c, rest, reads⟩ := mem_tokens member
      exact bytes_of_identifier reads
  · intro safe
    refine ⟨postgresBody appUser pass, ?_, ?_⟩
    · rw [sqlTokens, if_neg]
      · rw [tokens_postInitPostgres given safe.quote safe.size safe.dollars]
      · rw [zero_postInitPostgres pass given, not_or]
        exact ⟨safe.zeroPass, safe.zeroName⟩
    · rw [sqlTokens, if_neg, tokens_postgresBody]
      rw [zero_postgresBody]
      exact safe.zeroPass

end Reads

end Nixway.Agent.PostInit
