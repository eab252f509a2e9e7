/-
# Agent.DatabaseQuery -- the agent runs a query against a database

`HandleDatabaseQuery` of `apps/agent/db_query.go`.  What a database and its driver answer is an
argument: texts from there are any bytes, and what is rendered by the agent itself (a time, a
number, a JSON document) is text.  Documents are rendered by `json.Marshal` and `MarshalExtJSON`,
which both replace what is no UTF-8.
-/
import Nixway.Database.Query
import Nixway.Theory.Text

namespace Nixway.Agent

open Nixway.Store Nixway.Theory.Utf8 Nixway.Theory.Text
open Nixway.Database (DatabaseQueryCommand firstQueryKeyword ddlKeywords readKeywords normalOperation)

set_option autoImplicit false

/-! ## Results -/

structure ColumnMeta where
  name : Bytes
  typeName : Bytes

structure QueryRow where
  values : List Bytes
  nulls : List Bool

structure DatabaseQueryResult where
  requestID : String
  success : Bool := false
  error : Bytes := []
  columns : List ColumnMeta := []
  rows : List QueryRow := []
  affectedRows : Int := 0
  rawText : Bytes := []
  truncated : Bool := false

/-- The string fields. -/
def DatabaseQueryResult.texts (res : DatabaseQueryResult) : List Bytes :=
  utf8 res.requestID :: res.error :: res.rawText ::
    (res.columns.flatMap (fun c => [c.name, c.typeName]) ++ res.rows.flatMap QueryRow.values)

def DatabaseQueryResult.failed (res : DatabaseQueryResult) (error : Bytes) : DatabaseQueryResult :=
  { res with success := false, error := error }

/-! ## Error texts -/

/-- The last character, if the bytes end with one. -/
def lastRune (b : Bytes) : Option Char :=
  [1, 2, 3, 4].findSome? fun size =>
    if size ≤ b.length then
      (decodeRune (b.drop (b.length - size))).filter fun c => c.utf8Size = size
    else none

/-- White space cut off the front, at most `fuel` characters. -/
def trimFront : Nat → Bytes → Bytes
  | 0, b => b
  | fuel + 1, b =>
    match (decodeRune b).filter isSpace with
    | some c => trimFront fuel (b.drop c.utf8Size)
    | none => b

def trimBack : Nat → Bytes → Bytes
  | 0, b => b
  | fuel + 1, b =>
    match (lastRune b).filter isSpace with
    | some c => trimBack fuel (b.take (b.length - c.utf8Size))
    | none => b

/-- `strings.TrimSpace` of any bytes. -/
def trimSpaceBytes (b : Bytes) : Bytes := trimBack b.length (trimFront b.length b)

/-- `strings.Index`. -/
def index (sub : Bytes) : Bytes → Option Nat
  | [] => if sub = [] then some 0 else none
  | x :: b => if sub.isPrefixOf (x :: b) then some 0 else (index sub b).map (· + 1)

/-- Where an error text seems to hold the user of a DSN: after `:/`, up to an `@` behind it. -/
def userinfo (msg : Bytes) : Option (Nat × Nat) :=
  match index (utf8 ":/") msg, index (utf8 "@") msg with
  | some i, some host => if i < host then some (i + 3, host) else none
  | _, _ => none

/-- What stands there is replaced. -/
def scrub (msg : Bytes) : Bytes :=
  match userinfo msg with
  | some (start, host) => msg.take start ++ (utf8 "***" ++ msg.drop host)
  | none => msg

def sanitizeError (msg : Bytes) : Bytes :=
  if 512 < (scrub (trimSpaceBytes msg)).length then
    (scrub (trimSpaceBytes msg)).take 512 ++ utf8 "...(truncated)"
  else scrub (trimSpaceBytes msg)

/-! ## SQL -/

inductive SqlDriver where
  | pgx | mysql
deriving DecidableEq

def SqlDriver.name : SqlDriver → String
  | .pgx => "pgx"
  | .mysql => "mysql"

/-- `firstKeyword`. -/
def firstKeyword (query : String) : String := firstQueryKeyword query

def identRune (first : Bool) (c : Char) : Bool :=
  ('a' ≤ c && c ≤ 'z') || ('A' ≤ c && c ≤ 'Z') || c = '_' || (!first && isDigit c)

def isSafeIdent (s : String) : Bool :=
  if s = "" ∨ 63 < (utf8 s).length then false
  else
    match s.toList with
    | [] => true
    | c :: rest => identRune true c && rest.all (identRune false)

/-- `strconv.Atoi` and `strconv.ParseInt` with the error ignored: the nearest number for one that
is out of range, and zero for what is no number. -/
def intValue (s : String) : Int :=
  let (negative, digits) := match s.toList with
    | '-' :: rest => (true, rest)
    | '+' :: rest => (false, rest)
    | cs => (false, cs)
  if digits = [] ∨ !digits.all isDigit then 0
  else
    let n : Int := if negative then -digitsValue digits else digitsValue digits
    max (-2 ^ 63) (min n (2 ^ 63 - 1))

def param (cmd : DatabaseQueryCommand) (key : String) : String :=
  ((cmd.params.find? fun entry => entry.1 = key).map Prod.snd).getD ""

/-- The order of `get_rows`. -/
def orderClause (driver : SqlDriver) (cmd : DatabaseQueryCommand) : String :=
  let sortCol := param cmd "sort"
  let order := String.ofList ((param cmd "order").toList.map Database.toUpperRune)
  let order := if order = "ASC" ∨ order = "DESC" then order else "ASC"
  if sortCol ≠ "" ∧ isSafeIdent sortCol then
    match driver with
    | .pgx => " ORDER BY \"" ++ sortCol ++ "\" " ++ order
    | .mysql => " ORDER BY \x60" ++ sortCol ++ "\x60 " ++ order
  else ""

/-- The page of `get_rows`. -/
def limitClause (cmd : DatabaseQueryCommand) : String :=
  let page := max 0 (intValue (param cmd "page"))
  let limit := intValue (param cmd "limit")
  let limit := if limit ≤ 0 ∨ 1000 < limit then 100 else limit
  " LIMIT " ++ toString limit ++ " OFFSET " ++ toString ((page * limit).bmod (2 ^ 64))

/-- A name quoted as the database has it. -/
def quoteIdent (driver : SqlDriver) (name : String) : String :=
  match driver with
  | .pgx => "\"" ++ name ++ "\""
  | .mysql => "\x60" ++ name ++ "\x60"

inductive SqlOperation where
  | select | listSchemas | listTables | listColumns | getRows | countRows | unknown
deriving DecidableEq

def sqlOperation : String → SqlOperation
  | "" | "select" => .select
  | "list_schemas" => .listSchemas
  | "list_tables" => .listTables
  | "list_columns" => .listColumns
  | "get_rows" => .getRows
  | "count_rows" => .countRows
  | _ => .unknown

/-- `buildSQLForOperation`: the text to run, and whether it is a write. -/
def buildSQLForOperation (driver : SqlDriver) (cmd : DatabaseQueryCommand) :
    Except String (String × Bool) :=
  let schema := param cmd "schema"
  let table := param cmd "table"
  match sqlOperation (normalOperation cmd.operation) with
  | .select =>
    .ok (cmd.query, cmd.writeMode && !(firstKeyword cmd.query ∈ readKeywords : Bool))
  | .listSchemas =>
    .ok ("SELECT schema_name FROM information_schema.schemata WHERE schema_name NOT IN (" ++
      (match driver with
        | .pgx => "'pg_catalog','information_schema','pg_toast'"
        | .mysql => "'mysql','information_schema','performance_schema','sys'") ++
      ") ORDER BY schema_name", false)
  | .listTables =>
    if !isSafeIdent schema then .error "invalid schema name"
    else
      .ok ("SELECT table_name FROM information_schema.tables WHERE table_schema = '" ++ schema ++
        (match driver with
          | .pgx => "' AND table_type IN ('BASE TABLE','VIEW') ORDER BY table_name"
          | .mysql => "' ORDER BY table_name"), false)
  | .listColumns =>
    if !isSafeIdent schema || !isSafeIdent table then .error "invalid schema or table name"
    else
      .ok ("SELECT column_name, data_type FROM information_schema.columns WHERE table_schema = '" ++
        schema ++ "' AND table_name = '" ++ table ++ "' ORDER BY ordinal_position", false)
  | .getRows =>
    if !isSafeIdent schema || !isSafeIdent table then .error "invalid schema or table name"
    else
      .ok ("SELECT * FROM " ++ quoteIdent driver schema ++ "." ++ quoteIdent driver table ++
        orderClause driver cmd ++ limitClause cmd, false)
  | .countRows =>
    if !isSafeIdent schema || !isSafeIdent table then .error "invalid schema or table name"
    else .ok ("SELECT COUNT(*) FROM " ++ quoteIdent driver schema ++ "." ++ quoteIdent driver table, false)
  | .unknown =>
    .error ("unknown operation \"" ++ normalOperation cmd.operation ++ "\" for driver \"" ++
      driver.name ++ "\"")

/-- The checks of `runSQLQuery`: the text that is run, and whether it is a write. -/
def checkSQL (driver : SqlDriver) (cmd : DatabaseQueryCommand) : Except String (String × Bool) :=
  match buildSQLForOperation driver cmd with
  | .error err => .error err
  | .ok (query, isWrite) =>
    if firstKeyword query ∈ ddlKeywords then
      .error "DDL statements are not permitted (DROP/ALTER/TRUNCATE/CREATE/GRANT/REVOKE)"
    else if cmd.writeMode = false ∧ firstKeyword query ∉ readKeywords then
      .error ("write_mode is off; only read queries (SELECT/SHOW/EXPLAIN/WITH/DESCRIBE) are " ++
        "permitted, got \"" ++ firstKeyword query ++ "\"")
    else .ok (query, isWrite)

/-- A scanned value.  What the agent renders itself is text. -/
inductive Value where
  | null
  | bytes (b : Bytes)
  | text (b : Bytes)
  | time (formatted : String)
  | bool (b : Bool)
  | int (n : Int)
  | float (formatted : String)
  | other (printed : Bytes)
deriving DecidableEq

def sqlValueToString : Value → Bytes
  | .null => []
  | .bytes b => b
  | .text b => b
  | .time formatted => utf8 formatted
  | .bool b => utf8 (if b then "true" else "false")
  | .int n => utf8 (toString n)
  | .float formatted => utf8 formatted
  | .other printed => printed

/-- What a query yields: its columns, what the scan of each row gives, and the error after the
last row. -/
structure Cursor where
  columns : Except Bytes (List ColumnMeta)
  rows : List (Except Bytes (List Value)) := []
  ends : Option Bytes := none

/-- What a database and its driver answer. -/
structure SqlDatabase where
  opened : Except Bytes Unit := .ok ()
  pinged : Except Bytes Unit := .ok ()
  exec : String → Except Bytes (Option Int)
  query : String → Except Bytes Cursor

def rowOf (values : List Value) : QueryRow where
  values := values.map sqlValueToString
  nulls := values.map fun v => (v = .null : Bool)

/-- The rows up to `maxRows`, and whether a scan failed. -/
def scanRows (maxRows : Int) : List (Except Bytes (List Value)) → DatabaseQueryResult →
    DatabaseQueryResult × Bool
  | [], res => (res, false)
  | scanned :: rest, res =>
    if maxRows ≤ res.rows.length then ({ res with truncated := true }, false)
    else
      match scanned with
      | .error err => (res.failed (sanitizeError err), true)
      | .ok values => scanRows maxRows rest { res with rows := res.rows ++ [rowOf values] }

def readCursor (maxRows : Int) (cursor : Cursor) (res : DatabaseQueryResult) : DatabaseQueryResult :=
  match cursor.columns with
  | .error err => res.failed (sanitizeError err)
  | .ok columns =>
    match scanRows maxRows cursor.rows { res with columns := columns } with
    | (res, true) => res
    | (res, false) =>
      match cursor.ends with
      | some err => res.failed (sanitizeError err)
      | none => { res with success := true }

def runSQLQuery (driver : SqlDriver) (db : SqlDatabase) (cmd : DatabaseQueryCommand) (maxRows : Int)
    (res : DatabaseQueryResult) : DatabaseQueryResult :=
  match checkSQL driver cmd with
  | .error err => res.failed (utf8 err)
  | .ok (query, isWrite) =>
    match db.opened with
    | .error err => res.failed (utf8 "open db: " ++ sanitizeError err)
    | .ok () =>
      match db.pinged with
      | .error err => res.failed (utf8 "connect: " ++ sanitizeError err)
      | .ok () =>
        if isWrite then
          match db.exec query with
          | .error err => res.failed (sanitizeError err)
          | .ok affected =>
            { res with
              affectedRows := (affected.map fun n => n.bmod (2 ^ 32)).getD res.affectedRows
              success := true }
        else
          match db.query query with
          | .error err => res.failed (sanitizeError err)
          | .ok cursor => readCursor maxRows cursor res

/-! ## MongoDB -/

/-- What a database and its driver answer; documents come as they are rendered. -/
structure MongoDatabase where
  connected : Except Bytes Unit := .ok ()
  listCollectionNames : Except Bytes String
  parseFilter : String → Except Bytes Unit := fun _ => .ok ()
  /-- Collection, filter, limit and skip. -/
  find : String → String → Int → Int → Except Bytes String
  findOne : String → String → Except Bytes String

/-- A document that is found, or the error. -/
def DatabaseQueryResult.answer (res : DatabaseQueryResult) (found : Except Bytes String) :
    DatabaseQueryResult :=
  match found with
  | .error err => res.failed (sanitizeError err)
  | .ok document => { res with rawText := utf8 document, success := true }

/-- The filter of `mongo_find`, which is not read if it is empty. -/
def parsedFilter (db : MongoDatabase) (cmd : DatabaseQueryCommand) : Except Bytes Unit :=
  let filter := trimSpace (param cmd "filter")
  if filter ≠ "" ∧ filter ≠ "\x7b\x7d" then db.parseFilter filter else .ok ()

def foundDocs (db : MongoDatabase) (cmd : DatabaseQueryCommand) (maxRows : Int) :
    Except Bytes String :=
  let limit := intValue (param cmd "limit")
  let limit := if 0 < limit ∧ limit ≤ maxRows then limit else maxRows
  db.find (param cmd "collection") (trimSpace (param cmd "filter")) limit
    (max 0 (intValue (param cmd "skip")))

/-- `mongo_find`. -/
def mongoFind (db : MongoDatabase) (cmd : DatabaseQueryCommand) (maxRows : Int)
    (res : DatabaseQueryResult) : DatabaseQueryResult :=
  if param cmd "collection" = "" then res.failed (utf8 "params.collection is required")
  else
    match parsedFilter db cmd with
    | .error err => res.failed (utf8 "invalid filter JSON: " ++ err)
    | .ok () => res.answer (foundDocs db cmd maxRows)

inductive MongoOperation where
  | listCollections | find | getDoc | unknown

def mongoOperation : String → MongoOperation
  | "" | "mongo_list_collections" => .listCollections
  | "mongo_find" => .find
  | "mongo_get_doc" => .getDoc
  | _ => .unknown

def runMongoQuery (db : MongoDatabase) (cmd : DatabaseQueryCommand) (maxRows : Int)
    (res : DatabaseQueryResult) : DatabaseQueryResult :=
  match db.connected with
  | .error err => res.failed (utf8 "connect: " ++ sanitizeError err)
  | .ok () =>
    match mongoOperation (normalOperation cmd.operation) with
    | .listCollections => res.answer db.listCollectionNames
    | .find => mongoFind db cmd maxRows res
    | .getDoc =>
      if param cmd "collection" = "" ∨ param cmd "id" = "" then
        res.failed (utf8 "params.collection and params.id are required")
      else res.answer (db.findOne (param cmd "collection") (param cmd "id"))
    | .unknown => res.failed (utf8 ("unknown mongo operation: " ++ cmd.operation))

/-! ## Redis -/

/-- What a server and its driver answer; documents come as they are rendered. -/
structure RedisServer where
  /-- Cursor, pattern and count. -/
  scan : Nat → String → Int → Except Bytes String
  type : String → Except Bytes Bytes
  ttl : String → Except Bytes String
  /-- The value of a key of a type, as it goes into the document. -/
  value : Bytes → String → Except Bytes Unit := fun _ _ => .ok ()
  document : Bytes → String → String
  info : String → Except Bytes Bytes
  configGet : String → Except Bytes String

/-- `strconv.ParseUint` of a cursor, zero when it fails. -/
def cursorValue (s : String) : Nat :=
  if s = "" ∨ !s.toList.all isDigit ∨ 2 ^ 64 ≤ digitsValue s.toList then 0 else digitsValue s.toList

/-- `strconv.ParseInt` of a count, 100 when it fails or is not positive. -/
def countValue (s : String) : Int :=
  match atoi s.toList with
  | some n => if 0 < n then n else 100
  | none => 100

def orDefault (value default : String) : String := if value = "" then default else value

/-- `redis_keys`. -/
def RedisServer.keys (server : RedisServer) (cmd : DatabaseQueryCommand) (maxRows : Int) :
    Except Bytes String :=
  server.scan (cursorValue (param cmd "cursor")) (orDefault (param cmd "pattern") "*")
    (min (countValue (param cmd "count")) maxRows)

/-- The types whose value is asked for. -/
def valueTypes : List Bytes := ["string", "list", "set", "hash", "zset", "stream"].map utf8

instance (kind : Bytes) : Decidable (kind ∈ valueTypes) :=
  decidable_of_iff (valueTypes.any fun name => decide (name = kind)) (by simp)

/-- The value, if its type is one of these. -/
def RedisServer.valueOf (server : RedisServer) (kind : Bytes) (key : String) : Except Bytes Unit :=
  if kind ∈ valueTypes then server.value kind key else .ok ()

/-- `redis_get`. -/
def redisGet (server : RedisServer) (key : String) (res : DatabaseQueryResult) :
    DatabaseQueryResult :=
  match server.type key with
  | .error err => res.failed (sanitizeError err)
  | .ok kind =>
    match server.valueOf kind key with
    | .error err => res.failed (sanitizeError err)
    | .ok () => { res with rawText := utf8 (server.document kind key), success := true }

/-- An operation on a key, which has to be named. -/
def onKey (cmd : DatabaseQueryCommand) (res : DatabaseQueryResult)
    (run : String → DatabaseQueryResult) : DatabaseQueryResult :=
  if param cmd "key" = "" then res.failed (utf8 "params.key is required") else run (param cmd "key")

/-- A reply that is passed on as it is. -/
def DatabaseQueryResult.reply (res : DatabaseQueryResult) (reply : Except Bytes Bytes) :
    DatabaseQueryResult :=
  match reply with
  | .error err => res.failed (sanitizeError err)
  | .ok text => { res with rawText := text, success := true }

inductive RedisOperation where
  | keys | type | ttl | get | info | config | unknown

def redisOperation : String → RedisOperation
  | "redis_keys" => .keys
  | "redis_type" => .type
  | "redis_ttl" => .ttl
  | "redis_get" => .get
  | "redis_info" => .info
  | "redis_config" => .config
  | _ => .unknown

def runRedisQuery (server : RedisServer) (cmd : DatabaseQueryCommand) (maxRows : Int)
    (res : DatabaseQueryResult) : DatabaseQueryResult :=
  match redisOperation (normalOperation cmd.operation) with
  | .keys => res.answer (server.keys cmd maxRows)
  | .type => onKey cmd res fun key => res.reply (server.type key)
  | .ttl => onKey cmd res fun key => res.answer (server.ttl key)
  | .get => onKey cmd res fun key => redisGet server key res
  | .info => res.reply (server.info (param cmd "section"))
  | .config => res.answer (server.configGet (orDefault (param cmd "pattern") "*"))
  | .unknown => res.failed (utf8 ("unknown redis operation: " ++ cmd.operation))

/-! ## The handler -/

structure Databases where
  sql : SqlDatabase
  mongo : MongoDatabase
  redis : RedisServer

inductive Engine where
  | sql (driver : SqlDriver)
  | mongo
  | redis
  | unknown
deriving DecidableEq

def engineOf : String → Engine
  | "postgresql" | "postgres" => .sql .pgx
  | "mysql" | "mariadb" => .sql .mysql
  | "mongodb" | "mongo" => .mongo
  | "redis" => .redis
  | _ => .unknown

def rowLimit (cmd : DatabaseQueryCommand) : Int := if cmd.maxRows ≤ 0 then 1000 else cmd.maxRows

/-- **`HandleDatabaseQuery`**: the result it sends. -/
def handleDatabaseQuery (dbs : Databases) (cmd : DatabaseQueryCommand) : DatabaseQueryResult :=
  let res : DatabaseQueryResult := { requestID := cmd.requestID }
  match engineOf (normalOperation cmd.databaseType) with
  | .sql driver => runSQLQuery driver dbs.sql cmd (rowLimit cmd) res
  | .mongo => runMongoQuery dbs.mongo cmd (rowLimit cmd) res
  | .redis => runRedisQuery dbs.redis cmd (rowLimit cmd) res
  | .unknown => res.failed (utf8 ("unsupported database_type: " ++ cmd.databaseType))

end Nixway.Agent
