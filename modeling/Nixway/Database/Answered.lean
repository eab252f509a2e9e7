/-
# Database.Answered -- which queries are answered and recorded

A result reaches the control plane only if its string fields are UTF-8, and a text reaches a table
only if it is.  The agent passes on what the database gives byte for byte, and cuts an error
text at byte positions; the control plane cuts the text of a query at a byte position.
`answered_iff` is exact: everything is UTF-8 just when what comes from the database, as far as it
is kept, is UTF-8, and the query is not cut inside a character.  The audit entry is UTF-8 in
any case, since `json.Marshal` replaces what is not.
-/
import Nixway.Agent.DatabaseQuery

namespace Nixway.Database

open Nixway.Store Nixway.Agent Nixway.Theory.Utf8

set_option autoImplicit false

def AllValid (texts : List Bytes) : Prop := ∀ text ∈ texts, Valid text

instance (texts : List Bytes) : Decidable (AllValid texts) :=
  inferInstanceAs (Decidable (∀ text ∈ texts, Valid text))

@[simp] theorem allValid_nil : AllValid [] := fun _ member => absurd member List.not_mem_nil

@[simp] theorem allValid_cons {text : Bytes} {texts : List Bytes} :
    AllValid (text :: texts) ↔ Valid text ∧ AllValid texts := List.forall_mem_cons

@[simp] theorem allValid_append {front back : List Bytes} :
    AllValid (front ++ back) ↔ AllValid front ∧ AllValid back := List.forall_mem_append

theorem allValid_flatMap {α : Type} {texts : α → List Bytes} {items : List α} :
    AllValid (items.flatMap texts) ↔ ∀ item ∈ items, AllValid (texts item) := by
  simp only [AllValid, List.mem_flatMap]
  exact ⟨fun all item member text here => all text ⟨item, member, here⟩,
    fun all text ⟨item, member, here⟩ => all item member text here⟩

/-! ## What comes from the database -/

/-- The parts of an error text that are kept: its first 512 bytes, or those before and behind what
was taken for the user of a DSN. -/
def errorKept (msg : Bytes) : List Bytes :=
  match userinfo (trimSpaceBytes msg) with
  | some (start, host) =>
    [((trimSpaceBytes msg).take start).take 512,
      ((trimSpaceBytes msg).drop host).take (512 - ((trimSpaceBytes msg).take start).length - 3)]
  | none => [(trimSpaceBytes msg).take 512]

/-- The bytes of a value that are passed on as they are. -/
def valueOutside : Value → List Bytes
  | .bytes b | .text b | .other b => [b]
  | .null | .time _ | .bool _ | .int _ | .float _ => []

/-- The rows that are read, and the error of the scan that fails. -/
def rowsRead (maxRows : Int) : Nat → List (Except Bytes (List Value)) →
    List (List Value) × Option Bytes
  | _, [] => ([], none)
  | count, scanned :: rest =>
    if maxRows ≤ count then ([], none)
    else
      match scanned with
      | .error err => ([], some err)
      | .ok values =>
        (values :: (rowsRead maxRows (count + 1) rest).1, (rowsRead maxRows (count + 1) rest).2)

def cursorOutside (maxRows : Int) (cursor : Cursor) : List Bytes :=
  match cursor.columns with
  | .error err => errorKept err
  | .ok columns =>
    columns.flatMap (fun c => [c.name, c.typeName]) ++
      ((rowsRead maxRows 0 cursor.rows).1.flatMap fun values => values.flatMap valueOutside) ++
      match (rowsRead maxRows 0 cursor.rows).2 with
      | some err => errorKept err
      | none => (cursor.ends.map errorKept).getD []

def sqlOutside (driver : SqlDriver) (db : SqlDatabase) (cmd : DatabaseQueryCommand) (maxRows : Int) :
    List Bytes :=
  match checkSQL driver cmd with
  | .error _ => []
  | .ok (query, isWrite) =>
    match db.opened, db.pinged with
    | .error err, _ => errorKept err
    | .ok (), .error err => errorKept err
    | .ok (), .ok () =>
      if isWrite then
        match db.exec query with
        | .error err => errorKept err
        | .ok _ => []
      else
        match db.query query with
        | .error err => errorKept err
        | .ok cursor => cursorOutside maxRows cursor

/-- A document is text, so that only its error counts. -/
def documentOutside (found : Except Bytes String) : List Bytes :=
  match found with
  | .error err => errorKept err
  | .ok _ => []

def replyOutside (reply : Except Bytes Bytes) : List Bytes :=
  match reply with
  | .error err => errorKept err
  | .ok text => [text]

def mongoOutside (db : MongoDatabase) (cmd : DatabaseQueryCommand) (maxRows : Int) : List Bytes :=
  match db.connected with
  | .error err => errorKept err
  | .ok () =>
    match mongoOperation (normalOperation cmd.operation) with
    | .listCollections => documentOutside db.listCollectionNames
    | .find =>
      if param cmd "collection" = "" then []
      else
        match parsedFilter db cmd with
        | .error err => [err]
        | .ok () => documentOutside (foundDocs db cmd maxRows)
    | .getDoc =>
      if param cmd "collection" = "" ∨ param cmd "id" = "" then []
      else documentOutside (db.findOne (param cmd "collection") (param cmd "id"))
    | .unknown => []

def redisGetOutside (server : RedisServer) (key : String) : List Bytes :=
  match server.type key with
  | .error err => errorKept err
  | .ok kind =>
    match server.valueOf kind key with
    | .error err => errorKept err
    | .ok () => []

/-- Of an operation on a key only if one is named. -/
def keyOutside (cmd : DatabaseQueryCommand) (texts : String → List Bytes) : List Bytes :=
  if param cmd "key" = "" then [] else texts (param cmd "key")

def redisOutside (server : RedisServer) (cmd : DatabaseQueryCommand) (maxRows : Int) : List Bytes :=
  match redisOperation (normalOperation cmd.operation) with
  | .keys => documentOutside (server.keys cmd maxRows)
  | .type => keyOutside cmd fun key => replyOutside (server.type key)
  | .ttl => keyOutside cmd fun key => documentOutside (server.ttl key)
  | .get => keyOutside cmd (redisGetOutside server)
  | .info => replyOutside (server.info (param cmd "section"))
  | .config => documentOutside (server.configGet (orDefault (param cmd "pattern") "*"))
  | .unknown => []

/-- **What comes from the database**, as far as it is kept: the names and types of the columns, the
values that are bytes, texts or of a type the agent does not know, a reply of Redis that is
no document, and an error text. -/
def outside (dbs : Databases) (cmd : DatabaseQueryCommand) : List Bytes :=
  match engineOf (normalOperation cmd.databaseType) with
  | .sql driver => sqlOutside driver dbs.sql cmd (rowLimit cmd)
  | .mongo => mongoOutside dbs.mongo cmd (rowLimit cmd)
  | .redis => redisOutside dbs.redis cmd (rowLimit cmd)
  | .unknown => []

/-! ## Error texts -/

theorem valid_cut_iff {b mark : Bytes} (n : Nat) (plain : Valid mark) (some : mark ≠ []) :
    Valid (if n < b.length then b.take n ++ mark else b) ↔ Valid (b.take n) := by
  split
  · have separated := valid_separated_iff (a := b.take n) (b := []) plain some
    rw [List.append_nil] at separated
    rw [separated, and_iff_left ⟨[], rfl⟩]
  · next fits => rw [List.take_of_length_le (Nat.not_lt.mp fits)]

theorem valid_stars (k : Nat) : Valid ((utf8 "***").take k) := by
  rw [(valid_utf8 "***").take_iff]
  intro x found
  have star : ∀ y ∈ utf8 "***", y.IsUTF8FirstByte := by decide +kernel
  exact star x (List.mem_of_getElem? found)

theorem valid_starred_iff (a b : Bytes) (n : Nat) :
    Valid ((a ++ (utf8 "***" ++ b)).take n) ↔ Valid (a.take n) ∧ Valid (b.take (n - a.length - 3)) := by
  have size : (utf8 "***").length = 3 := by decide
  rw [List.take_append, List.take_append, size]
  by_cases none : (utf8 "***").take (n - a.length) = []
  · have short : n - a.length - 3 = 0 := by
      have zero := congrArg List.length none
      rw [List.length_take, size, List.length_nil] at zero
      omega
    rw [none, short, List.take_zero, List.append_nil, List.append_nil, and_iff_left ⟨[], rfl⟩]
  · exact valid_separated_iff (valid_stars _) none

/-- **An error text is UTF-8 just when the parts that are kept are.** -/
theorem valid_sanitizeError (msg : Bytes) : Valid (sanitizeError msg) ↔ AllValid (errorKept msg) := by
  unfold sanitizeError
  rw [valid_cut_iff 512 (valid_utf8 _) (by decide)]
  unfold scrub errorKept
  cases userinfo (trimSpaceBytes msg) with
  | none => simp
  | some spots => simp [valid_starred_iff]

theorem valid_after (start : String) (b : Bytes) : Valid (utf8 start ++ b) ↔ Valid b :=
  valid_append_iff (valid_utf8 start)

/-! ## Results -/

/-- The result so far holds no text. -/
def fresh (requestID : String) : DatabaseQueryResult := { requestID := requestID }

section Results

variable {requestID : String}

theorem allValid_failed (error : Bytes) :
    AllValid ((fresh requestID).failed error).texts ↔ Valid error := by
  simp [DatabaseQueryResult.texts, DatabaseQueryResult.failed, fresh, valid_utf8,
    show Valid [] from ⟨[], rfl⟩]

theorem allValid_raw (text : Bytes) :
    AllValid ({ fresh requestID with rawText := text, success := true }).texts ↔ Valid text := by
  simp [DatabaseQueryResult.texts, fresh, valid_utf8, show Valid [] from ⟨[], rfl⟩]

/-- A failure the agent words itself. -/
theorem allValid_refused (error : String) :
    AllValid ((fresh requestID).failed (utf8 error)).texts ↔ AllValid [] := by
  rw [allValid_failed]
  exact iff_of_true (valid_utf8 error) allValid_nil

theorem allValid_sanitized (msg : Bytes) :
    AllValid ((fresh requestID).failed (sanitizeError msg)).texts ↔ AllValid (errorKept msg) := by
  rw [allValid_failed, valid_sanitizeError]

theorem allValid_sanitized_after (start : String) (msg : Bytes) :
    AllValid ((fresh requestID).failed (utf8 start ++ sanitizeError msg)).texts ↔
      AllValid (errorKept msg) := by
  rw [allValid_failed, valid_after, valid_sanitizeError]

theorem allValid_answer (found : Except Bytes String) :
    AllValid ((fresh requestID).answer found).texts ↔ AllValid (documentOutside found) := by
  cases found with
  | error err => exact allValid_sanitized err
  | ok document =>
    exact (allValid_raw (utf8 document)).trans (iff_of_true (valid_utf8 document) allValid_nil)

theorem allValid_reply (reply : Except Bytes Bytes) :
    AllValid ((fresh requestID).reply reply).texts ↔ AllValid (replyOutside reply) := by
  cases reply with
  | error err => exact allValid_sanitized err
  | ok text =>
    refine (allValid_raw text).trans ?_
    simp [replyOutside]

/-! ## Rows -/

theorem valid_value (v : Value) : Valid (sqlValueToString v) ↔ AllValid (valueOutside v) := by
  cases v with
  | bytes b | text b | other b => simp [sqlValueToString, valueOutside]
  | null => simp [sqlValueToString, valueOutside, show Valid [] from ⟨[], rfl⟩]
  | time formatted | float formatted => simp [sqlValueToString, valueOutside, valid_utf8]
  | bool b => simp [sqlValueToString, valueOutside, valid_utf8]
  | int n => simp [sqlValueToString, valueOutside, valid_utf8]

theorem allValid_row (values : List Value) :
    AllValid (rowOf values).values ↔ AllValid (values.flatMap valueOutside) := by
  rw [allValid_flatMap]
  simp only [rowOf, AllValid, List.forall_mem_map, valid_value]

theorem scanRows_eq (maxRows : Int) (rows : List (Except Bytes (List Value)))
    (res : DatabaseQueryResult) :
    ∃ truncated success, scanRows maxRows rows res =
      ({ res with
          rows := res.rows ++ (rowsRead maxRows res.rows.length rows).1.map rowOf
          error := ((rowsRead maxRows res.rows.length rows).2.map sanitizeError).getD res.error
          truncated := truncated
          success := success },
        (rowsRead maxRows res.rows.length rows).2.isSome) := by
  induction rows generalizing res with
  | nil => exact ⟨res.truncated, res.success, by simp [scanRows, rowsRead]⟩
  | cons scanned rest ih =>
    unfold scanRows rowsRead
    by_cases full : maxRows ≤ res.rows.length
    · exact ⟨true, res.success, by simp [full]⟩
    · simp only [if_neg full]
      cases scanned with
      | error err => exact ⟨res.truncated, false, by simp [DatabaseQueryResult.failed]⟩
      | ok values =>
        obtain ⟨truncated, success, same⟩ := ih { res with rows := res.rows ++ [rowOf values] }
        refine ⟨truncated, success, same.trans ?_⟩
        simp

theorem allValid_rows (read : List (List Value)) :
    AllValid ((read.map rowOf).flatMap QueryRow.values) ↔
      AllValid (read.flatMap fun values => values.flatMap valueOutside) := by
  rw [allValid_flatMap, allValid_flatMap, List.forall_mem_map]
  exact forall₂_congr fun values _ => allValid_row values

/-- A result with a table and an error. -/
theorem allValid_table (columns : List ColumnMeta) (read : List (List Value)) (error : Bytes)
    (truncated success : Bool) :
    AllValid ({ fresh requestID with
        columns := columns, rows := read.map rowOf, error := error, truncated := truncated,
        success := success } : DatabaseQueryResult).texts ↔
      AllValid (columns.flatMap (fun c => [c.name, c.typeName]) ++
        read.flatMap fun values => values.flatMap valueOutside) ∧ Valid error := by
  rw [allValid_append, ← allValid_rows]
  simp only [DatabaseQueryResult.texts, fresh, allValid_cons, allValid_append, valid_utf8,
    show Valid [] from ⟨[], rfl⟩, true_and]
  tauto

theorem allValid_readCursor (maxRows : Int) (cursor : Cursor) :
    AllValid (readCursor maxRows cursor (fresh requestID)).texts ↔
      AllValid (cursorOutside maxRows cursor) := by
  unfold readCursor cursorOutside
  cases cursor.columns with
  | error err => exact allValid_sanitized err
  | ok columns =>
    obtain ⟨truncated, success, same⟩ :=
      scanRows_eq maxRows cursor.rows { fresh requestID with columns := columns }
    have empty : ({ fresh requestID with columns := columns } : DatabaseQueryResult).rows = [] := rfl
    rw [empty, List.nil_append, List.length_nil] at same
    simp only [same]
    cases failing : (rowsRead maxRows 0 cursor.rows).2 with
    | some err =>
      rw [allValid_append, ← valid_sanitizeError]
      exact allValid_table columns _ (sanitizeError err) truncated success
    | none =>
      cases cursor.ends with
      | some err =>
        refine Iff.trans ?_ allValid_append.symm
        simp only [Option.map_some, Option.getD_some, ← valid_sanitizeError]
        exact allValid_table columns _ (sanitizeError err) truncated false
      | none =>
        refine Iff.trans ?_ allValid_append.symm
        refine (allValid_table columns _ [] truncated true).trans ?_
        exact and_congr_right' (iff_of_true ⟨[], rfl⟩ allValid_nil)

/-! ## Answers -/

theorem allValid_runSQLQuery (driver : SqlDriver) (db : SqlDatabase) (cmd : DatabaseQueryCommand)
    (maxRows : Int) :
    AllValid (runSQLQuery driver db cmd maxRows (fresh requestID)).texts ↔
      AllValid (sqlOutside driver db cmd maxRows) := by
  unfold runSQLQuery sqlOutside
  cases checkSQL driver cmd with
  | error err => exact allValid_refused err
  | ok run =>
    obtain ⟨query, isWrite⟩ := run
    dsimp only
    cases db.opened with
    | error err => exact allValid_sanitized_after "open db: " err
    | ok _ =>
      cases db.pinged with
      | error err => exact allValid_sanitized_after "connect: " err
      | ok _ =>
        cases isWrite with
        | true =>
          simp only [if_true]
          cases db.exec query with
          | error err => exact allValid_sanitized err
          | ok affected =>
            exact (allValid_raw []).trans (iff_of_true ⟨[], rfl⟩ allValid_nil)
        | false =>
          simp only [Bool.false_eq_true, if_false]
          cases db.query query with
          | error err => exact allValid_sanitized err
          | ok cursor => exact allValid_readCursor maxRows cursor

theorem allValid_runMongoQuery (db : MongoDatabase) (cmd : DatabaseQueryCommand) (maxRows : Int) :
    AllValid (runMongoQuery db cmd maxRows (fresh requestID)).texts ↔
      AllValid (mongoOutside db cmd maxRows) := by
  unfold runMongoQuery mongoOutside
  cases db.connected with
  | error err => exact allValid_sanitized_after "connect: " err
  | ok _ =>
    dsimp only
    cases mongoOperation (normalOperation cmd.operation) with
    | listCollections => exact allValid_answer _
    | find =>
      dsimp only [mongoFind]
      split
      · exact allValid_refused _
      · cases parsedFilter db cmd with
        | error err =>
          refine (allValid_failed _).trans ?_
          rw [valid_after]
          simp
        | ok _ => exact allValid_answer _
    | getDoc =>
      dsimp only
      split
      · exact allValid_refused _
      · exact allValid_answer _
    | unknown => exact allValid_refused _

theorem allValid_onKey (cmd : DatabaseQueryCommand) {run : String → DatabaseQueryResult}
    {texts : String → List Bytes} (runs : ∀ key, AllValid (run key).texts ↔ AllValid (texts key)) :
    AllValid (onKey cmd (fresh requestID) run).texts ↔ AllValid (keyOutside cmd texts) := by
  unfold onKey keyOutside
  split
  · exact allValid_refused _
  · exact runs _

theorem allValid_redisGet (server : RedisServer) (key : String) :
    AllValid (redisGet server key (fresh requestID)).texts ↔ AllValid (redisGetOutside server key) := by
  unfold redisGet redisGetOutside
  cases server.type key with
  | error err => exact allValid_sanitized err
  | ok kind =>
    dsimp only
    cases server.valueOf kind key with
    | error err => exact allValid_sanitized err
    | ok _ => exact (allValid_raw _).trans (iff_of_true (valid_utf8 _) allValid_nil)

theorem allValid_runRedisQuery (server : RedisServer) (cmd : DatabaseQueryCommand) (maxRows : Int) :
    AllValid (runRedisQuery server cmd maxRows (fresh requestID)).texts ↔
      AllValid (redisOutside server cmd maxRows) := by
  unfold runRedisQuery redisOutside
  cases redisOperation (normalOperation cmd.operation) with
  | keys => exact allValid_answer _
  | type => exact allValid_onKey cmd fun key => allValid_reply _
  | ttl => exact allValid_onKey cmd fun key => allValid_answer _
  | get => exact allValid_onKey cmd fun key => allValid_redisGet server key
  | info => exact allValid_reply _
  | config => exact allValid_answer _
  | unknown => exact allValid_refused _

end Results

/-- **A result is UTF-8 just when what comes from the database is.** -/
theorem allValid_handle (dbs : Databases) (cmd : DatabaseQueryCommand) :
    AllValid (handleDatabaseQuery dbs cmd).texts ↔ AllValid (outside dbs cmd) := by
  unfold handleDatabaseQuery outside
  cases engineOf (normalOperation cmd.databaseType) with
  | sql driver => exact allValid_runSQLQuery _ _ _ _
  | mongo => exact allValid_runMongoQuery _ _ _
  | redis => exact allValid_runRedisQuery _ _ _
  | unknown => exact allValid_refused _

/-! ## Records -/

/-- The text that is recorded is not cut inside a character. -/
def QueryRequest.CutClean (req : QueryRequest) : Prop :=
  ∀ x : UInt8, (utf8 req.recorded)[8192]? = some x → x.IsUTF8FirstByte

theorem valid_queryText (req : QueryRequest) : Valid req.queryText ↔ req.CutClean := by
  have cut : req.queryText = (utf8 req.recorded).take 8192 := by
    unfold QueryRequest.queryText
    split
    · rfl
    · next fits => exact (List.take_of_length_le (Nat.not_lt.mp fits)).symm
  rw [cut, (valid_utf8 req.recorded).take_iff]
  rfl

/-- The audit entry is marshalled, so that a cut inside a character leaves it valid. -/
theorem allValid_auditTexts (query : String) (queryError : Bytes) :
    AllValid (auditTexts query queryError) := by
  unfold auditTexts
  split
  · simp [valid_utf8]
  · simp [valid_utf8]

/-- The texts that are stored of a query that ran: the history row and the audit entry. -/
def storedTexts (req : QueryRequest) (res : DatabaseQueryResult) : List Bytes :=
  req.queryText :: res.error :: auditTexts req.query res.error

/-- **Everything that is sent and stored is UTF-8 just when what comes from the database, as far as
it is kept, is, and the query is not cut inside a character.** -/
theorem answered_iff (dbs : Databases) (cmd : DatabaseQueryCommand) (req : QueryRequest) :
    AllValid ((handleDatabaseQuery dbs cmd).texts ++ storedTexts req (handleDatabaseQuery dbs cmd)) ↔
      AllValid (outside dbs cmd) ∧ req.CutClean := by
  have error : AllValid (handleDatabaseQuery dbs cmd).texts →
      Valid (handleDatabaseQuery dbs cmd).error := by
    intro all
    exact all _ (List.mem_cons_of_mem _ List.mem_cons_self)
  rw [allValid_append, storedTexts, allValid_cons, allValid_cons, valid_queryText,
    ← allValid_handle]
  constructor
  · rintro ⟨sent, clean, -⟩
    exact ⟨sent, clean⟩
  · rintro ⟨sent, clean⟩
    exact ⟨sent, clean, error sent, allValid_auditTexts _ _⟩

/-! ## Queries without an answer -/

def filesTable : SqlDatabase where
  exec _ := .ok none
  query _ := .ok {
    columns := .ok [⟨utf8 "data", utf8 "BYTEA"⟩]
    rows := [.ok [.bytes [0xff]]] }

/-- A server that refuses, naming an address that is no DSN. -/
def refusing : SqlDatabase where
  opened := .error (utf8 "dial unix:/é@db")
  exec _ := .ok none
  query _ := .error []

def databasesWith (sql : SqlDatabase) : Databases where
  sql := sql
  mongo := {
    listCollectionNames := .ok "[]"
    find := fun _ _ _ _ => .ok "\x7b\x7d"
    findOne := fun _ _ => .ok "\x7b\x7d" }
  redis := {
    scan := fun _ _ _ => .ok "[]"
    type := fun _ => .ok (utf8 "none")
    ttl := fun _ => .ok "0"
    document := fun _ _ => "\x7b\x7d"
    info := fun _ => .ok []
    configGet := fun _ => .ok "\x7b\x7d" }

def selectFiles : DatabaseQueryCommand where
  requestID := "1"
  databaseType := "postgresql"
  query := "SELECT data FROM files"

/-- A text of `n` letters before a character of two bytes. -/
def endingIn (n : Nat) : String := String.ofList (List.replicate n 'a' ++ ['é'])

theorem endingIn_cut (n : Nat) : (utf8 (endingIn n))[n + 1]? = some 0xa9 := by
  have one : String.utf8EncodeChar 'a' = [97] := by decide
  have two : String.utf8EncodeChar 'é' = [0xc3, 0xa9] := by decide
  have front : encode (List.replicate n 'a') = List.replicate n (97 : UInt8) := by
    rw [encode, List.flatMap_replicate, one]
    simp
  have bytes : utf8 (endingIn n) = List.replicate n 97 ++ [0xc3, 0xa9] := by
    rw [utf8, endingIn, String.toList_ofList, encode_append, front, encode, List.flatMap_singleton,
      two]
  rw [bytes, List.getElem?_append_right (by simp), List.length_replicate, Nat.add_sub_cancel_left]
  rfl

theorem not_answered :
    ¬ AllValid (handleDatabaseQuery (databasesWith filesTable) selectFiles).texts ∧
      ¬ AllValid (handleDatabaseQuery (databasesWith refusing) selectFiles).texts ∧
      ¬ Valid (QueryRequest.queryText { query := endingIn 8191 }) := by
  refine ⟨by decide, by decide, ?_⟩
  rw [valid_queryText]
  intro clean
  have cut := endingIn_cut 8191
  have some : endingIn 8191 ≠ "" := by
    intro empty
    rw [empty] at cut
    cases cut
  refine absurd (clean 0xa9 ?_) (by decide)
  rw [QueryRequest.recorded, if_neg some]
  exact cut

end Nixway.Database
