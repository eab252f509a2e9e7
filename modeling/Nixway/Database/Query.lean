/-
# Database.Query -- queries of the database tooling, in the control plane

`ExecuteQuery` of `internal/database/query.go`: which requests are passed on to the agent and as
which command, and what `recordQueryHistory` and `WriteDatabaseQueryExecuted` of
`internal/audit/audit.go` record of them.  The leading keyword of a text is found as the agent
finds it; it decides whether a text is refused as DDL, and in read mode whether it is passed on.
-/
import Nixway.Store.Slug
import Nixway.Theory.Utf8

namespace Nixway.Database

open Nixway.Store Nixway.Theory.Utf8

set_option autoImplicit false

/-! ## The leading keyword -/

/-- The characters cut off the front of a text: opening brackets, quotes, blanks and
semicolons. -/
def openers : List Char :=
  ['(', '\x22', '\x60', '\x27', '[', ' ', '\t', '\n', ';']

/-- The characters that separate the words of a text. -/
def isSeparator (c : Char) : Bool := c ∈ [' ', '\t', '\n', '\r', ';', '(']

/-- `unicode.ToUpper` as far as an ASCII keyword can see it: besides `a` to `z`, the long s and
the dotless i are the only characters whose upper case is ASCII. -/
def toUpperRune (c : Char) : Char :=
  if c = '\u017f' then 'S' else if c = '\u0131' then 'I' else c.toUpper

/-- `firstQueryKeyword`, and `firstKeyword` of the agent. -/
def firstQueryKeyword (query : String) : String :=
  let q := (trimSpace query).toList.dropWhile (· ∈ openers)
  match (q.splitOnP isSeparator).filter (· ≠ []) with
  | [] => ""
  | word :: _ => String.ofList (word.map toUpperRune)

def ddlKeywords : List String := ["DROP", "ALTER", "TRUNCATE", "CREATE", "GRANT", "REVOKE"]

def readKeywords : List String := ["SELECT", "SHOW", "EXPLAIN", "WITH", "DESCRIBE", "DESC"]

/-! ## Requests and commands -/

structure QueryRequest where
  query : String := ""
  writeMode : Bool := false
  operation : String := ""
  params : List (String × String) := []
  timeoutSec : Int := 0
  maxRows : Int := 0

structure DatabaseQueryCommand where
  requestID : String
  databaseType : String
  query : String := ""
  writeMode : Bool := false
  maxRows : Int := 0
  operation : String := ""
  params : List (String × String) := []

/-- `strings.ToLower(strings.TrimSpace(operation))`. -/
def normalOperation (operation : String) : String :=
  String.ofList ((trimSpace operation).toList.map toLowerRune)

def dbTypeForQueryTemplate : String → String
  | "postgres" | "postgresql" => "postgresql"
  | "mysql" | "mariadb" => "mysql"
  | "mongodb" | "mongo" => "mongodb"
  | "redis" => "redis"
  | slug => slug

def isSQLDB (dbType : String) : Bool := dbType = "postgresql" || dbType = "mysql"

/-- The request carries a text of its own for a SQL database. -/
def QueryRequest.explicit (req : QueryRequest) (dbType : String) : Bool :=
  isSQLDB dbType && (normalOperation req.operation = "" || normalOperation req.operation = "select")

def QueryRequest.check (req : QueryRequest) (dbType : String) : Except String Unit :=
  if req.explicit dbType = false then .ok ()
  else if trimSpace req.query = "" then .error "query is required"
  else if firstQueryKeyword req.query ∈ ddlKeywords then
    .error "DDL is not permitted (DROP/ALTER/TRUNCATE/CREATE/GRANT/REVOKE)"
  else if req.writeMode = false ∧ firstQueryKeyword req.query ∉ readKeywords then
    .error ("write_mode is off; query must start with SELECT/SHOW/EXPLAIN/WITH/DESCRIBE (got \"" ++
      firstQueryKeyword req.query ++ "\")")
  else .ok ()

/-- What else decides whether a request is passed on: the row of the database, its template, the
rate limit, the password, the agent of the server and whether it takes the command. -/
structure Surroundings where
  database : Except String (String × String)
  template : Bool := true
  limited : Except String Unit := .ok ()
  password : Except String Unit := .ok ()
  agent : Except String Unit := .ok ()
  sent : Except String Unit := .ok ()

def QueryRequest.command (req : QueryRequest) (requestID dbType : String) : DatabaseQueryCommand where
  requestID := requestID
  databaseType := dbType
  query := req.query
  writeMode := req.writeMode
  maxRows := if req.maxRows ≤ 0 then 1000 else req.maxRows
  operation := normalOperation req.operation
  params := req.params

/-- `ExecuteQuery` up to the command it sends; a database is its status and the slug of its
template. -/
def executeQuery (around : Surroundings) (requestID : String) (req : QueryRequest) :
    Except String DatabaseQueryCommand :=
  match around.database with
  | .error err => .error ("get database: " ++ err)
  | .ok (status, slug) =>
    if status ≠ "running" then .error ("database not running (status=" ++ status ++ ")")
    else if around.template = false then .error ("template not found: " ++ slug)
    else
      match req.check (dbTypeForQueryTemplate slug), around.limited, around.password, around.agent,
          around.sent with
      | .ok (), .ok (), .ok (), .ok (), .ok () =>
        .ok (req.command requestID (dbTypeForQueryTemplate slug))
      | .error err, _, _, _, _ => .error err
      | _, .error err, _, _, _ => .error err
      | _, _, .error err, _, _ => .error ("resolve app credentials: " ++ err)
      | _, _, _, .error err, _ => .error err
      | _, _, _, _, .error err => .error ("send to agent: " ++ err)

/-! ## Records -/

/-- The text `recordQueryHistory` records, before it is cut. -/
def QueryRequest.recorded (req : QueryRequest) : String :=
  if req.query = "" then
    "[" ++ String.ofList (req.operation.toList.map toLowerRune) ++ "]"
  else req.query

/-- The column `query_text`: at most 8192 bytes. -/
def QueryRequest.queryText (req : QueryRequest) : Bytes :=
  if 8192 < (utf8 req.recorded).length then (utf8 req.recorded).take 8192 else utf8 req.recorded

/-- A character in a JSON text. -/
def escapeRune (c : Char) : String :=
  if c = '\x22' then "\\\"" else if c = '\\' then "\\\\"
  else if c = '\n' then "\\n" else if c = '\r' then "\\r" else if c = '\t' then "\\t"
  else if c = '\x08' then "\\b" else if c = '\x0c' then "\\f"
  else if c.toNat < 0x20 ∨ c ∈ ['<', '>', '&', '\u2028', '\u2029'] then
    "\\u" ++ String.ofList ((List.range 4).reverse.map fun i =>
      ((Nat.toDigits 16 (c.toNat / 16 ^ i % 16)).headD '0'))
  else String.ofList [c]

/-- `json.Marshal` of a text: a byte that is no UTF-8 becomes the replacement character. -/
def jsonString (text : Bytes) : String :=
  "\"" ++ String.join ((runes text).map fun rune => (rune.map escapeRune).getD "\\ufffd") ++ "\""

/-- The text in the metadata of `WriteDatabaseQueryExecuted`. -/
def auditQuery (query : String) : Bytes :=
  if 500 < (utf8 query).length then (utf8 query).take 500 ++ utf8 "...(truncated)" else utf8 query

/-- The texts that are stored of a query and its error: the metadata are marshalled. -/
def auditTexts (query : String) (queryError : Bytes) : List Bytes :=
  utf8 (jsonString (auditQuery query)) ::
    if queryError = [] then [] else [utf8 (jsonString queryError)]

end Nixway.Database
