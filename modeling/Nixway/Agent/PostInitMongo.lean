/-
# Agent.PostInitMongo -- the scripts that create the application's user, in JavaScript and SQL

`postInitMongo` of `apps/agent/db_post_init.go` puts each value through `jsSingleQuote`, which
escapes backslashes and quotes, and no line break.  JavaScript has none in a literal, so the script
reads as its template just if no value has one (`mongoReads_iff`).

`scripts_read_iff` is about both scripts, for every name `Provision` accepts.
-/
import Nixway.Agent.PostInit

namespace Nixway.Agent.PostInit

open Nixway.Store Nixway.Theory.Lexical Nixway.Database

set_option autoImplicit false

/-! ## The script -/

/-- `jsSingleQuote`. -/
def jsSingleQuote (s : String) : String :=
  let r := Deploy.replaceAll s "\\" "\\\\"
  let r := Deploy.replaceAll r "'" "\\'"
  "'" ++ r ++ "'"

/-- The script of `postInitMongo`. -/
def postInitMongo (appUser appPass dbName : String) : String :=
  let dbName := if dbName = "" then "admin" else dbName
  "\nconst target = db.getSiblingDB(" ++ jsSingleQuote dbName ++
  ");\nconst existing = target.getUser(" ++ jsSingleQuote appUser ++
  ");\nif (existing) \x7b\n  target.changeUserPassword(" ++ jsSingleQuote appUser ++ ", " ++
  jsSingleQuote appPass ++ ");\n\x7d else \x7b\n  target.createUser(\x7buser: " ++
  jsSingleQuote appUser ++ ", pwd: " ++ jsSingleQuote appPass ++
  ", roles: [\x7brole: \"readWrite\", db: " ++ jsSingleQuote dbName ++ "\x7d]\x7d);\n\x7d\n"

/-! ## How JavaScript reads -/

def lineBreak (c : Char) : Bool := c = '\n' || c = '\r'

/-- Behind the closing quote; a line break ends a literal that is not closed. -/
def scriptReach (quote : Char) : List Char → Nat
  | [] => 0
  | [c] => if lineBreak c then 0 else 1
  | c :: d :: rest =>
    if c = quote then 1
    else if lineBreak c then 0
    else if c = '\\' then 2 + scriptReach quote rest
    else 1 + scriptReach quote (d :: rest)

/-- The lexer of JavaScript; outside of the literals stands the template, which has no templates,
regular expressions and numbers. -/
def javascript : Lexer := fun c rest =>
  if sqlSpace c then (.blank, 0)
  else if c = ';' then (.semicolon, 0)
  else if c = '/' ∧ rest.head? = some '/' then (.comment, lineReach ['\n', '\r'] rest)
  else if c = '/' ∧ rest.head? = some '*' then
    (.comment, 1 + blockReach (fun _ => false) 0 (rest.drop 1))
  else if c ∈ ['\x27', '\x22'] then (.literal, scriptReach c rest)
  else if wordStart c ∨ c = '$' then (.word, (rest.takeWhile wordChar).length)
  else (.other, 0)

/-- The value of what stands from behind the opening quote up to the closing one; only quotes and
backslashes are escaped in a script. -/
def unescape (quote : Char) : List Char → Option (List Char)
  | [] => none
  | [c] => if c = quote then some [] else none
  | c :: d :: rest =>
    if c = quote then none
    else if c = '\\' then
      if d ∈ ['\\', '\x27', '\x22'] then (unescape quote rest).map (d :: ·) else none
    else (unescape quote (d :: rest)).map (c :: ·)

inductive JsToken where
  | word (text : String)
  | semicolon
  | symbol (text : String)
  | string (value : String)
  | invalid
deriving DecidableEq

def jsLiteral : List Char → JsToken
  | [] => .invalid
  | quote :: rest =>
    match unescape quote rest with
    | some value => .string (String.ofList value)
    | none => .invalid

def jsToken (e : Element) : JsToken :=
  match e.kind with
  | .word => .word (String.ofList e.text)
  | .semicolon => .semicolon
  | .literal => jsLiteral e.text
  | _ => .symbol (String.ofList e.text)

section Statements

open JsToken

def mongoTokens (user pass name : String) : List JsToken :=
  [word "const", word "target", symbol "=", word "db", symbol ".", word "getSiblingDB", symbol "(",
      string name, symbol ")", semicolon,
    word "const", word "existing", symbol "=", word "target", symbol ".", word "getUser",
      symbol "(", string user, symbol ")", semicolon,
    word "if", symbol "(", word "existing", symbol ")", symbol "\x7b",
    word "target", symbol ".", word "changeUserPassword", symbol "(", string user, symbol ",",
      string pass, symbol ")", semicolon,
    symbol "\x7d", word "else", symbol "\x7b",
    word "target", symbol ".", word "createUser", symbol "(", symbol "\x7b", word "user",
      symbol ":", string user, symbol ",", word "pwd", symbol ":", string pass, symbol ",",
      word "roles", symbol ":", symbol "[", symbol "\x7b", word "role", symbol ":",
      string "readWrite", symbol ",", word "db", symbol ":", string name, symbol "\x7d", symbol "]",
      symbol "\x7d", symbol ")", semicolon,
    symbol "\x7d"]

/-- **The script reads as its template.** -/
def MongoReads (script user pass name : String) : Prop :=
  tokens javascript jsToken script.toList = mongoTokens user pass name

end Statements

/-! ## Quotes -/

/-- What `jsSingleQuote` puts between the quotes. -/
def escaped (text : List Char) : List Char :=
  text.flatMap fun c => if c = '\\' then ['\\', '\\'] else if c = '\'' then ['\\', '\''] else [c]

theorem toList_jsSingleQuote (s : String) :
    (jsSingleQuote s).toList = '\'' :: (escaped s.toList ++ ['\'']) := by
  have once : (Deploy.replaceAll (Deploy.replaceAll s "\\" "\\\\") "'" "\\'").toList =
      escaped s.toList := by
    rw [@toList_replaceAll _ '\'' rfl, @toList_replaceAll _ '\\' rfl, List.flatMap_assoc,
      escaped]
    congr 1
    funext c
    split
    · rfl
    · rw [List.flatMap_singleton]
      rfl
  unfold jsSingleQuote
  dsimp only
  rw [String.toList_append, String.toList_append, once]
  rfl

/-! ## What JavaScript reads -/

theorem scriptReach_append {quote : Char} (ordinary : lineBreak quote = false) {piece : List Char}
    (inside : scriptReach quote piece < piece.length) (rest : List Char) :
    scriptReach quote (piece ++ rest) = scriptReach quote piece := by
  fun_induction scriptReach quote piece with
  | case1 => cases inside
  | case2 c broken =>
    have other : c ≠ quote := by
      rintro rfl
      exact Bool.false_ne_true (ordinary.symm.trans broken)
    cases rest with
    | nil => rw [List.append_nil, scriptReach, if_pos broken]
    | cons d rest =>
      rw [List.cons_append, List.nil_append, scriptReach, if_neg other, if_pos broken]
  | case3 => exact absurd inside (Nat.lt_irrefl 1)
  | case4 d piece => rw [List.cons_append, List.cons_append, scriptReach, if_pos rfl]
  | case5 c d piece other broken =>
    rw [List.cons_append, List.cons_append, scriptReach, if_neg other, if_pos broken]
  | case6 d piece other plain ih =>
    have later : scriptReach quote piece < piece.length := by
      rw [List.length_cons, List.length_cons] at inside
      omega
    rw [List.cons_append, List.cons_append, scriptReach, if_neg other, if_neg plain, if_pos rfl,
      ih later]
  | case7 c d piece other plain noEscape ih =>
    have later : scriptReach quote (d :: piece) < (d :: piece).length := by
      rw [List.length_cons] at inside
      omega
    rw [List.cons_append, List.cons_append, scriptReach, if_neg other, if_neg plain,
      if_neg noEscape, ← List.cons_append, ih later]

/-- What the lexer says here is settled within the piece. -/
def jsSettles (c : Char) (piece : List Char) : Bool :=
  c ∈ [' ', '\n', '('] || (c ≠ '/' && decide ((javascript c piece).2 < piece.length))

theorem javascript_append (c : Char) (piece rest : List Char) (settles : jsSettles c piece = true) :
    javascript c (piece ++ rest) = javascript c piece := by
  rcases Bool.or_eq_true_iff.mp settles with single | inside
  · have : c = ' ' ∨ c = '\n' ∨ c = '(' := by simpa using single
    rcases this with rfl | rfl | rfl
    all_goals rfl
  · obtain ⟨noSlash, inside⟩ := Bool.and_eq_true_iff.mp inside
    have inside := of_decide_eq_true inside
    have noSlash : c ≠ '/' := of_decide_eq_true noSlash
    unfold javascript at inside ⊢
    simp only [noSlash, false_and, if_false] at inside ⊢
    split_ifs at inside ⊢ with space semicolon quote word
    · rfl
    · rfl
    · have ordinary : lineBreak c = false := by
        have : c = '\x27' ∨ c = '\x22' := by simpa using quote
        rcases this with rfl | rfl
        all_goals rfl
      rw [scriptReach_append ordinary inside]
    · rw [length_takeWhile_append inside]
    · rfl

section Escapes

variable {quote c : Char}

theorem scriptReach_cons (other : c ≠ quote) (plain : lineBreak c = false) (noEscape : c ≠ '\\')
    {rest : List Char} (more : rest ≠ []) :
    scriptReach quote (c :: rest) = 1 + scriptReach quote rest := by
  cases rest with
  | nil => exact absurd rfl more
  | cons d rest =>
    rw [scriptReach, if_neg other, if_neg (Bool.eq_false_iff.mp plain), if_neg noEscape]

theorem unescape_cons (other : c ≠ quote) (noEscape : c ≠ '\\') {rest : List Char}
    (more : rest ≠ []) : unescape quote (c :: rest) = (unescape quote rest).map (c :: ·) := by
  cases rest with
  | nil => exact absurd rfl more
  | cons d rest => rw [unescape, if_neg other, if_neg noEscape]

theorem escaped_cons (c : Char) (text : List Char) :
    ((c = '\\' ∨ c = '\'') ∧ escaped (c :: text) = '\\' :: c :: escaped text) ∨
      (c ≠ '\\' ∧ c ≠ '\'' ∧ escaped (c :: text) = c :: escaped text) := by
  rw [escaped, List.flatMap_cons]
  by_cases backslash : c = '\\'
  · rw [if_pos backslash, backslash]
    exact .inl ⟨.inl rfl, rfl⟩
  · by_cases apostrophe : c = '\''
    · rw [if_neg backslash, if_pos apostrophe, apostrophe]
      exact .inl ⟨.inr rfl, rfl⟩
    · rw [if_neg backslash, if_neg apostrophe]
      exact .inr ⟨backslash, apostrophe, rfl⟩

theorem scriptReach_escape (c : Char) (rest : List Char) :
    scriptReach '\'' ('\\' :: c :: rest) = 2 + scriptReach '\'' rest := by
  rw [scriptReach, if_neg (by decide), if_neg (by decide), if_pos rfl]

theorem unescape_escape (escapes : c = '\\' ∨ c = '\'') (rest : List Char) :
    unescape '\'' ('\\' :: c :: rest) = (unescape '\'' rest).map (c :: ·) := by
  rw [unescape, if_neg (by decide), if_pos rfl, if_pos]
  rcases escapes with rfl | rfl
  all_goals decide

theorem scriptReach_escaped {text : List Char} (clean : ∀ c ∈ text, lineBreak c = false)
    (rest : List Char) :
    scriptReach '\'' (escaped text ++ '\'' :: rest) = (escaped text).length + 1 := by
  induction text with
  | nil => cases rest <;> rfl
  | cons c text ih =>
    have later := ih fun d mem => clean d (List.mem_cons_of_mem c mem)
    rcases escaped_cons c text with ⟨-, same⟩ | ⟨noEscape, other, same⟩
    · rw [same, List.cons_append, List.cons_append, scriptReach_escape, later, List.length_cons,
        List.length_cons]
      omega
    · rw [same, List.cons_append, scriptReach_cons other (clean c List.mem_cons_self) noEscape
        (by simp), later, List.length_cons]
      omega

theorem unescape_escaped (text : List Char) : unescape '\'' (escaped text ++ ['\'']) = some text := by
  induction text with
  | nil => rfl
  | cons c text ih =>
    rcases escaped_cons c text with ⟨escapes, same⟩ | ⟨noEscape, other, same⟩
    · rw [same, List.cons_append, List.cons_append, unescape_escape escapes, ih]
      rfl
    · rw [same, List.cons_append, unescape_cons other noEscape (by simp), ih]
      rfl

theorem unescape_open (text : List Char) : unescape '\'' (escaped text) = none := by
  induction text with
  | nil => rfl
  | cons c text ih =>
    rcases escaped_cons c text with ⟨escapes, same⟩ | ⟨noEscape, other, same⟩
    · rw [same, unescape_escape escapes, ih]
      rfl
    · rw [same]
      by_cases last : escaped text = []
      · rw [last, unescape, if_neg other]
      · rw [unescape_cons other noEscape last, ih]
        rfl

theorem take_scriptReach_broken {text : List Char} (broken : ∃ c ∈ text, lineBreak c = true)
    (rest : List Char) : ∃ front, (escaped text ++ '\'' :: rest).take
      (scriptReach '\'' (escaped text ++ '\'' :: rest)) = escaped front := by
  induction text with
  | nil =>
    obtain ⟨c, member, -⟩ := broken
    cases member
  | cons c text ih =>
    rcases escaped_cons c text with ⟨escapes, same⟩ | ⟨noEscape, other, same⟩
    · have plain : lineBreak c = false := by
        rcases escapes with rfl | rfl
        all_goals rfl
      obtain ⟨d, member, breaks⟩ := broken
      obtain ⟨front, there⟩ := ih ⟨d, (List.mem_cons.mp member).resolve_left
        (fun here => by rw [here, plain] at breaks; cases breaks), breaks⟩
      refine ⟨c :: front, ?_⟩
      rw [same, List.cons_append, List.cons_append, scriptReach_escape, Nat.add_comm,
        List.take_succ_cons, List.take_succ_cons, there]
      rcases escaped_cons c front with ⟨-, same⟩ | ⟨noEscape, other, -⟩
      · exact same.symm
      · exact absurd escapes (not_or.mpr ⟨noEscape, other⟩)
    · cases plain : lineBreak c with
      | true =>
        refine ⟨[], ?_⟩
        have none : scriptReach '\'' (c :: (escaped text ++ '\'' :: rest)) = 0 := by
          cases escaped text ++ '\'' :: rest with
          | nil => rw [scriptReach, if_pos plain]
          | cons d rest => rw [scriptReach, if_neg other, if_pos plain]
        rw [same, List.cons_append, none]
        rfl
      | false =>
        obtain ⟨d, member, breaks⟩ := broken
        obtain ⟨front, there⟩ := ih ⟨d, (List.mem_cons.mp member).resolve_left
          (fun here => by rw [here, plain] at breaks; cases breaks), breaks⟩
        refine ⟨c :: front, ?_⟩
        rw [same, List.cons_append, scriptReach_cons other plain noEscape (by simp), Nat.add_comm,
          List.take_succ_cons, there]
        rcases escaped_cons c front with ⟨escapes, -⟩ | ⟨-, -, same⟩
        · exact absurd escapes (not_or.mpr ⟨noEscape, other⟩)
        · exact same.symm

end Escapes

/-! ### The literals -/

theorem tokens_js {text : List Char} (clean : ∀ c ∈ text, lineBreak c = false) (rest : List Char) :
    tokens javascript jsToken ('\'' :: (escaped text ++ '\'' :: rest)) =
      .string (String.ofList text) :: tokens javascript jsToken rest := by
  have reads : javascript '\'' (escaped text ++ '\'' :: rest) =
      (.literal, (escaped text).length + 1) :=
    congrArg (Prod.mk Kind.literal) (scriptReach_escaped clean rest)
  have taken : (escaped text ++ '\'' :: rest).take ((escaped text).length + 1) =
      escaped text ++ ['\''] := by
    rw [List.take_append, List.take_of_length_le (Nat.le_succ _), Nat.add_sub_cancel_left]
    rfl
  have dropped : (escaped text ++ '\'' :: rest).drop ((escaped text).length + 1) = rest := by
    rw [List.drop_append, List.drop_of_length_le (Nat.le_succ _), Nat.add_sub_cancel_left]
    rfl
  rw [tokens_cons reads (by decide), taken, dropped]
  congr 1
  show jsLiteral ('\'' :: (escaped text ++ ['\''])) = _
  rw [jsLiteral, unescape_escaped]

theorem tokens_js_broken {text : List Char} (broken : ∃ c ∈ text, lineBreak c = true)
    (rest : List Char) : .invalid ∈
      tokens javascript jsToken ('\'' :: (escaped text ++ '\'' :: rest)) := by
  obtain ⟨front, taken⟩ := take_scriptReach_broken broken rest
  have reads : javascript '\'' (escaped text ++ '\'' :: rest) =
    (.literal, scriptReach '\'' (escaped text ++ '\'' :: rest)) := rfl
  rw [tokens_cons reads (by decide), taken]
  have none : jsToken ⟨.literal, '\'' :: escaped front⟩ = .invalid := by
    show jsLiteral ('\'' :: escaped front) = _
    rw [jsLiteral, unescape_open]
  rw [none]
  exact List.mem_cons_self

/-! ## The JavaScript -/

def userText : List Char :=
  ");\nconst existing = target.getUser(".toList ++ ((jsSingleQuote appUser).toList ++
    (");\nif (existing) \x7b\n  target.changeUserPassword(".toList ++
      ((jsSingleQuote appUser).toList ++ ", ".toList)))

def createText : List Char :=
  ");\n\x7d else \x7b\n  target.createUser(\x7buser: ".toList ++
    ((jsSingleQuote appUser).toList ++ ", pwd: ".toList)

def rolesText : List Char := ", roles: [\x7brole: \"readWrite\", db: ".toList

def endText : List Char := "\x7d]\x7d);\n\x7d\n".toList

theorem toList_postInitMongo (pass : String) {name : String} (given : name ≠ "") :
    (postInitMongo appUser pass name).toList =
      "\nconst target = db.getSiblingDB(".toList ++ '\'' :: (escaped name.toList ++ '\'' ::
        (userText ++ '\'' :: (escaped pass.toList ++ '\'' ::
          (createText ++ '\'' :: (escaped pass.toList ++ '\'' ::
            (rolesText ++ '\'' :: (escaped name.toList ++ '\'' :: endText))))))) := by
  unfold postInitMongo userText createText rolesText endText
  dsimp only
  rw [if_neg given]
  simp only [String.toList_append, toList_jsSingleQuote, List.append_assoc, List.cons_append,
    List.nil_append]

/-- No value has a line break. -/
structure JsSafe (pass name : String) : Prop where
  pass : ∀ c ∈ pass.toList, lineBreak c = false
  name : ∀ c ∈ name.toList, lineBreak c = false

/-- **The JavaScript.** -/
theorem mongoReads_iff (pass : String) {name : String} (given : name ≠ "") :
    MongoReads (postInitMongo appUser pass name) appUser pass name ↔ JsSafe pass name := by
  have target : ∀ rest, tokens javascript jsToken ("\nconst target = db.getSiblingDB(".toList ++ rest) =
      (mongoTokens appUser "" "").take 7 ++ tokens javascript jsToken rest :=
    tokens_piece javascript_append 100 (by decide)
  have user : ∀ rest, tokens javascript jsToken (userText ++ rest) =
      ((mongoTokens appUser "" "").drop 8).take 23 ++ tokens javascript jsToken rest :=
    tokens_piece javascript_append 100 (by decide +kernel)
  have create : ∀ rest, tokens javascript jsToken (createText ++ rest) =
      ((mongoTokens appUser "" "").drop 32).take 16 ++ tokens javascript jsToken rest :=
    tokens_piece javascript_append 100 (by decide)
  have roles : ∀ rest, tokens javascript jsToken (rolesText ++ rest) =
      ((mongoTokens appUser "" "").drop 49).take 11 ++ tokens javascript jsToken rest :=
    tokens_piece javascript_append 100 (by decide)
  have close : ∀ rest, tokens javascript jsToken (endText ++ rest) =
      (mongoTokens appUser "" "").drop 61 ++ tokens javascript jsToken rest :=
    tokens_piece javascript_append 100 (by decide)
  have noInvalid : ∀ text, MongoReads text appUser pass name →
      JsToken.invalid ∉ tokens javascript jsToken text.toList := by
    intro text reads
    rw [show tokens javascript jsToken text.toList = _ from reads]
    simp [mongoTokens]
  constructor
  · intro reads
    have valid := noInvalid _ reads
    rw [toList_postInitMongo pass given, target] at valid
    have name' : ∀ c ∈ name.toList, lineBreak c = false := by
      by_contra broken
      have broken : ∃ c ∈ name.toList, lineBreak c = true := by simpa using broken
      exact valid (List.mem_append_right _ (tokens_js_broken broken _))
    refine ⟨?_, name'⟩
    by_contra broken
    have broken : ∃ c ∈ pass.toList, lineBreak c = true := by simpa using broken
    rw [tokens_js name', user] at valid
    exact valid (List.mem_append_right _ (List.mem_cons_of_mem _
      (List.mem_append_right _ (tokens_js_broken broken _))))
  · intro safe
    unfold MongoReads
    rw [toList_postInitMongo pass given, target, tokens_js safe.name, user, tokens_js safe.pass,
      create, tokens_js safe.pass, roles, tokens_js safe.name, ← List.append_nil endText, close,
      String.ofList_toList, String.ofList_toList]
    rfl

/-! ## Both scripts -/

/-- **The scripts of a database.**  For every name that `Provision` accepts, which is what is left
of the request's name between its blanks, and every password. -/
theorem scripts_read_iff (given pass : String) (accepted : trimSpace given ≠ "") :
    (PostgresReads (postInitPostgres appUser pass (trimSpace given)) appUser pass (trimSpace given) ↔
      SqlSafe pass (trimSpace given)) ∧
    (MongoReads (postInitMongo appUser pass (trimSpace given)) appUser pass (trimSpace given) ↔
      JsSafe pass (trimSpace given)) :=
  ⟨postgresReads_iff pass accepted, mongoReads_iff pass accepted⟩

/-- A name with quotes of the other kind, and a generated password. -/
theorem scripts_read_orders :
    PostgresReads (postInitPostgres appUser "aB-_9$" (trimSpace " O'Brien ")) appUser "aB-_9$"
        (trimSpace " O'Brien ") ∧
      MongoReads (postInitMongo appUser "aB-_9$" (trimSpace " O'Brien ")) appUser "aB-_9$"
        (trimSpace " O'Brien ") := by
  obtain ⟨sql, js⟩ := scripts_read_iff " O'Brien " "aB-_9$" (by decide)
  refine ⟨sql.mpr ⟨by decide, by decide, by decide, by decide,
    by decide⟩, js.mpr ⟨?_, ?_⟩⟩
  · exact fun c member => by
      have all : "aB-_9$".toList.all (fun c => !lineBreak c) = true := by decide
      simpa using List.all_eq_true.mp all c member
  · exact fun c member => by
      have all : (trimSpace " O'Brien ").toList.all (fun c => !lineBreak c) = true := by
        decide
      simpa using List.all_eq_true.mp all c member

/-- A name with a double quote, and one with a line break. -/
theorem scripts_misread :
    (trimSpace "a\"b" ≠ "" ∧ ¬ PostgresReads (postInitPostgres appUser "pw" (trimSpace "a\"b"))
      appUser "pw" (trimSpace "a\"b")) ∧
    (trimSpace "a\nb" ≠ "" ∧ ¬ MongoReads (postInitMongo appUser "pw" (trimSpace "a\nb"))
      appUser "pw" (trimSpace "a\nb")) := by
  have quoted : trimSpace "a\"b" ≠ "" := by decide
  have broken : trimSpace "a\nb" ≠ "" := by decide
  refine ⟨⟨quoted, fun reads => ?_⟩, broken, fun reads => ?_⟩
  · have safe := (postgresReads_iff "pw" quoted).mp reads
    exact safe.quote (by decide)
  · have safe := (mongoReads_iff "pw" broken).mp reads
    exact Bool.false_ne_true (safe.name '\n' (by decide)).symm

end Nixway.Agent.PostInit
