/-
# Agent.BackupCommands -- the commands of a dump and of a restore

`dumpInContainer` and `restoreInContainer` of `apps/agent/backup.go` hand most of their work to a
shell inside of the container, as one string with the name of the superuser, the password, the name
of the database and a file in it, all of them any bytes.  Each is quoted by `shellSingleQuote`; for
MongoDB, user and password are put into a URI by `urlEncode` before.

`commands_read` says that a shell reads the strings of each tool as the commands the tool is meant to
run (`dumpCommands`, `restoreCommands`), with every value a word or a redirection of its own, and
that the URI gives user and password back.
-/
import Nixway.Store.Slug
import Nixway.Theory.Shell
import Nixway.Theory.Utf8

namespace Nixway.Agent.BackupCommands

open Nixway.Store Nixway.Theory Nixway.Theory.Shell

set_option autoImplicit false

/-! ## The strings -/

/-- The characters of a text as bytes; a byte that begins no character stands alone. -/
def segmentsUpTo : Nat → Bytes → List Bytes
  | 0, _ => []
  | _ + 1, [] => []
  | fuel + 1, x :: rest =>
    match Utf8.decodeRune (x :: rest) with
    | some c => (x :: rest).take c.utf8Size :: segmentsUpTo fuel ((x :: rest).drop c.utf8Size)
    | none => [x] :: segmentsUpTo fuel rest

/-- `strings.TrimSpace` of any bytes. -/
def trimSpace (text : Bytes) : Bytes :=
  let isSpace := fun segment => (Utf8.decodeRune segment).any isSpace
  (((segmentsUpTo text.length text).dropWhile isSpace).rdropWhile isSpace).flatten

/-- `orDefault`. -/
def orDefault (s fallback : Bytes) : Bytes := if s = [] then fallback else s

/-- `shellSingleQuote`: `strings.ReplaceAll` of the quotes, in quotes. -/
def shellSingleQuote (s : Bytes) : Bytes :=
  ascii "'" ++ (s.flatMap fun c => if c = 39 then ascii "'\\''" else [c]) ++ ascii "'"

/-- A digit of `%02X`. -/
def hexDigit (n : UInt8) : UInt8 := if n < 10 then 48 + n else 55 + n

/-- `urlEncode`. -/
def urlEncode (s : Bytes) : Bytes :=
  s.flatMap fun c =>
    if c ∈ ascii ":@/?#%&+ " then [37, hexDigit (c / 16), hexDigit (c % 16)] else [c]

/-- A command for a backup or a restore, as far as the tools read it. -/
structure BackupCommand where
  superuser : Bytes
  superuserPassword : Bytes
  dbname : Bytes

/-- What is run in the container: by its arguments, or as a string for `sh -c`; with the variables
set by `-e`. -/
inductive Exec where
  | argv (env : List Bytes) (words : List Bytes)
  | shell (env : List Bytes) (text : Bytes)

/-- The uri of `mongodump` and `mongorestore`. -/
def mongoURI (user pass : Bytes) : Bytes :=
  ascii "mongodb://" ++ urlEncode (orDefault user (ascii "admin")) ++ ascii ":" ++
    urlEncode pass ++ ascii "@localhost:27017/?authSource=admin"

/-- The password of `redis-cli`. -/
def redisAuth (pass : Bytes) : Bytes :=
  if pass = [] then [] else ascii "-a " ++ shellSingleQuote pass ++ ascii " --no-auth-warning "

/-- The commands of the tools. -/
inductive Action where
  | pgDump | mysqldump | mongodump | lastSave | bgSave | copyDump
  | pgRestore | mysql | mongorestore | redisLoad

/-- How a command is run, on a file in the container. -/
def Action.exec (cmd : BackupCommand) (file : Bytes) : Action → Exec
  | .pgDump =>
    .argv [ascii "PGPASSWORD=" ++ cmd.superuserPassword]
      [ascii "pg_dump", ascii "-Fc", ascii "-U",
        orDefault (trimSpace cmd.superuser) (ascii "postgres"), ascii "-d",
        orDefault (trimSpace cmd.dbname) (ascii "postgres"), ascii "-f", file]
  | .mysqldump =>
    .shell [ascii "MYSQL_PWD=" ++ cmd.superuserPassword]
      (ascii "mysqldump -u " ++
        shellSingleQuote (orDefault (trimSpace cmd.superuser) (ascii "root")) ++
        ascii " --single-transaction --routines --triggers " ++
        shellSingleQuote (orDefault (trimSpace cmd.dbname) []) ++ ascii " > " ++
        shellSingleQuote file)
  | .mongodump =>
    .shell []
      (ascii "mongodump --uri=" ++
        shellSingleQuote (mongoURI (trimSpace cmd.superuser) cmd.superuserPassword) ++
        ascii " --archive=" ++ shellSingleQuote file ++ ascii " --gzip")
  | .lastSave => .shell [] (ascii "redis-cli " ++ redisAuth cmd.superuserPassword ++ ascii "LASTSAVE")
  | .bgSave => .shell [] (ascii "redis-cli " ++ redisAuth cmd.superuserPassword ++ ascii "BGSAVE")
  | .copyDump => .shell [] (ascii "cp /data/dump.rdb " ++ shellSingleQuote file)
  | .pgRestore =>
    .argv [ascii "PGPASSWORD=" ++ cmd.superuserPassword]
      [ascii "pg_restore", ascii "-U", orDefault (trimSpace cmd.superuser) (ascii "postgres"),
        ascii "-d", orDefault (trimSpace cmd.dbname) (ascii "postgres"), ascii "--clean",
        ascii "--if-exists", ascii "--no-owner", file]
  | .mysql =>
    .shell [ascii "MYSQL_PWD=" ++ cmd.superuserPassword]
      (ascii "mysql -u " ++
        shellSingleQuote (orDefault (trimSpace cmd.superuser) (ascii "root")) ++ ascii " " ++
        shellSingleQuote (orDefault (trimSpace cmd.dbname) []) ++ ascii " < " ++
        shellSingleQuote file)
  | .mongorestore =>
    .shell []
      (ascii "mongorestore --uri=" ++
        shellSingleQuote (mongoURI (trimSpace cmd.superuser) cmd.superuserPassword) ++
        ascii " --archive=" ++ shellSingleQuote file ++ ascii " --gzip --drop")
  | .redisLoad => .shell [] (ascii "cp " ++ shellSingleQuote file ++ ascii " /data/dump.rdb")

/-- What `docker exec` answered to the commands of a run, one after the other: the output, or an
error.  The run ends with the list. -/
abbrev Answers := List (Option Bytes)

/-- The loop of `redis-bgsave`. -/
def pollLastSave (before : Bytes) : Answers → List Action
  | [] => []
  | none :: rest => .lastSave :: pollLastSave before rest
  | some out :: rest =>
    if trimSpace out ≠ [] ∧ trimSpace out ≠ before then [.lastSave, .copyDump]
    else .lastSave :: pollLastSave before rest

def dumpActions (tool : String) (answers : Answers) : List Action :=
  match tool with
  | "pg_dump" => [.pgDump]
  | "mysqldump" => [.mysqldump]
  | "mongodump" => [.mongodump]
  | "redis-bgsave" =>
    match answers with
    | [] => []
    | none :: _ => [.lastSave]
    | [some _] => [.lastSave]
    | some _ :: none :: _ => [.lastSave, .bgSave]
    | some before :: some _ :: rest => .lastSave :: .bgSave :: pollLastSave (trimSpace before) rest
  | _ => []

/-- The commands `dumpInContainer` runs; an unsupported tool runs none. -/
def dumpInContainer (cmd : BackupCommand) (tool : String) (containerTmp : Bytes)
    (answers : Answers) : List Exec :=
  (dumpActions tool answers).map (Action.exec cmd containerTmp)

def restoreActions (tool : String) : List Action :=
  match tool with
  | "pg_restore" => [.pgRestore]
  | "mysql" => [.mysql]
  | "mongorestore" => [.mongorestore]
  | "redis-load" => [.redisLoad]
  | _ => []

/-- The commands `restoreInContainer` runs. -/
def restoreInContainer (cmd : BackupCommand) (tool : String) (containerFile : Bytes) : List Exec :=
  (restoreActions tool).map (Action.exec cmd containerFile)

/-! ## What they should be -/

/-- A command, word by word. -/
def Action.command (cmd : BackupCommand) (file : Bytes) : Action → Command
  | .mysqldump =>
    { words := [ascii "mysqldump", ascii "-u", orDefault (trimSpace cmd.superuser) (ascii "root"),
        ascii "--single-transaction", ascii "--routines", ascii "--triggers",
        trimSpace cmd.dbname]
      redirects := [(.output, file)] }
  | .mongodump =>
    { words := [ascii "mongodump",
        ascii "--uri=" ++ mongoURI (trimSpace cmd.superuser) cmd.superuserPassword,
        ascii "--archive=" ++ file, ascii "--gzip"] }
  | .lastSave =>
    { words := [ascii "redis-cli"] ++
        (if cmd.superuserPassword = [] then []
          else [ascii "-a", cmd.superuserPassword, ascii "--no-auth-warning"]) ++
        [ascii "LASTSAVE"] }
  | .bgSave =>
    { words := [ascii "redis-cli"] ++
        (if cmd.superuserPassword = [] then []
          else [ascii "-a", cmd.superuserPassword, ascii "--no-auth-warning"]) ++
        [ascii "BGSAVE"] }
  | .copyDump => { words := [ascii "cp", ascii "/data/dump.rdb", file] }
  | .mysql =>
    { words := [ascii "mysql", ascii "-u", orDefault (trimSpace cmd.superuser) (ascii "root"),
        trimSpace cmd.dbname]
      redirects := [(.input, file)] }
  | .mongorestore =>
    { words := [ascii "mongorestore",
        ascii "--uri=" ++ mongoURI (trimSpace cmd.superuser) cmd.superuserPassword,
        ascii "--archive=" ++ file, ascii "--gzip", ascii "--drop"] }
  | .redisLoad => { words := [ascii "cp", file, ascii "/data/dump.rdb"] }
  | .pgDump =>
    { words := [ascii "pg_dump", ascii "-Fc", ascii "-U",
        orDefault (trimSpace cmd.superuser) (ascii "postgres"), ascii "-d",
        orDefault (trimSpace cmd.dbname) (ascii "postgres"), ascii "-f", file] }
  | .pgRestore =>
    { words := [ascii "pg_restore", ascii "-U",
        orDefault (trimSpace cmd.superuser) (ascii "postgres"), ascii "-d",
        orDefault (trimSpace cmd.dbname) (ascii "postgres"), ascii "--clean",
        ascii "--if-exists", ascii "--no-owner", file] }

/-- The time of the last save that Redis answers is a new one. -/
def Saved (before : Bytes) (answer : Option Bytes) : Bool :=
  answer.any fun out => trimSpace out ≠ [] ∧ trimSpace out ≠ trimSpace before

/-- What `redis-bgsave` is to run: it asks for the last save, starts one, asks until the answer is a
new one, and copies the dump.  A run that breaks off has run the first of these. -/
def redisDump (cmd : BackupCommand) (file : Bytes) : Answers → List Command
  | [] => []
  | [_] => [Action.lastSave.command cmd file]
  | none :: _ :: _ => [Action.lastSave.command cmd file]
  | some _ :: none :: _ => [Action.lastSave.command cmd file, Action.bgSave.command cmd file]
  | some before :: some _ :: polls =>
    let old := polls.takeWhile fun answer => !Saved before answer
    [Action.lastSave.command cmd file, Action.bgSave.command cmd file] ++
      List.replicate old.length (Action.lastSave.command cmd file) ++
      if old.length = polls.length then []
      else [Action.lastSave.command cmd file, Action.copyDump.command cmd file]

/-- The commands a dump is to run, tool by tool. -/
def dumpCommands (cmd : BackupCommand) (file : Bytes) (answers : Answers) (tool : String) :
    List Command :=
  if tool = "pg_dump" then [Action.pgDump.command cmd file]
  else if tool = "mysqldump" then [Action.mysqldump.command cmd file]
  else if tool = "mongodump" then [Action.mongodump.command cmd file]
  else if tool = "redis-bgsave" then redisDump cmd file answers
  else []

/-- The commands a restore is to run. -/
def restoreCommands (cmd : BackupCommand) (file : Bytes) (tool : String) : List Command :=
  if tool = "pg_restore" then [Action.pgRestore.command cmd file]
  else if tool = "mysql" then [Action.mysql.command cmd file]
  else if tool = "mongorestore" then [Action.mongorestore.command cmd file]
  else if tool = "redis-load" then [Action.redisLoad.command cmd file]
  else []

def Exec.read : Exec → Option Command
  | .argv _ words => some { words := words }
  | .shell _ text => Shell.read text

/-! ### The URI -/

structure Credentials where
  scheme : Bytes
  user : Bytes
  password : Bytes
  host : Bytes

/-- What stands before and behind the first occurrence of a byte. -/
def cut (c : UInt8) : Bytes → Option (Bytes × Bytes)
  | [] => none
  | d :: rest =>
    if d = c then some ([], rest) else (cut c rest).map fun parts => (d :: parts.1, parts.2)

def hexValue (c : UInt8) : Option UInt8 :=
  if 48 ≤ c ∧ c ≤ 57 then some (c - 48)
  else if 65 ≤ c ∧ c ≤ 70 then some (c - 55)
  else if 97 ≤ c ∧ c ≤ 102 then some (c - 87)
  else none

def hexPair (a b : UInt8) : Option UInt8 := do
  let x ← hexValue a
  let y ← hexValue b
  some (x * 16 + y)

def percentDecode : Bytes → Option Bytes
  | [] => some []
  | [c] => if c = 37 then none else some [c]
  | [c, d] => if c = 37 ∨ d = 37 then none else some [c, d]
  | c :: a :: b :: rest =>
    if c = 37 then
      match hexPair a b with
      | some d => (percentDecode rest).map (d :: ·)
      | none => none
    else (percentDecode (a :: b :: rest)).map (c :: ·)

/-- Scheme, user, password and host of a URI; the host has no second `@`. -/
def readURI (uri : Bytes) : Option Credentials := do
  let (scheme, rest) ← cut 58 uri
  if rest.take 2 ≠ ascii "//" then none
  let authority := (rest.drop 2).takeWhile fun c => c ∉ ascii "/?#"
  let (userinfo, host) ← cut 64 authority
  if 64 ∈ host then none
  let (user, password) ← cut 58 userinfo
  let user ← percentDecode user
  let password ← percentDecode password
  some { scheme, user, password, host }

/-! ## What is read -/

theorem shellSingleQuote_eq (s : Bytes) : shellSingleQuote s = singleQuote s := by
  have once : ascii "'\\''" = [apostrophe, backslash, apostrophe, apostrophe] := by decide
  unfold shellSingleQuote
  rw [once]
  rfl

theorem feed_blank {word rest : Bytes} {next : Mode} {ts : List Token}
    (fed : feed .gap rest = some (next, ts)) :
    feed (.word word) (32 :: rest) = some (next, .word word :: ts) := by
  have ends : feed (.word word) [32] = some (.gap, [.word word]) := rfl
  exact feed_append ends fed

theorem read_of_feed {text last : Bytes} {ts : List Token} {command : Command}
    (fed : feed .gap text = some (.word last, ts))
    (parsed : Shell.commandOf (ts ++ [Token.word last]) = some command) (named : command.Named) :
    read text = some command :=
  read_of_tokens (tokens_of_feed_word fed) parsed named

theorem cut_append {c : UInt8} {front : Bytes} (free : c ∉ front) (back : Bytes) :
    cut c (front ++ c :: back) = some (front, back) := by
  induction front with
  | nil => exact if_pos rfl
  | cons d front ih =>
    obtain ⟨other, later⟩ := not_or.mp (List.mem_cons.not.mp free)
    rw [List.cons_append, cut, if_neg (Ne.symm other), ih later]
    rfl

/-! ### Percent signs -/

/-- How a byte is encoded: by its number, or not at all. -/
theorem urlEncode_cons (c : UInt8) (s : Bytes) :
    (c ∈ ascii ":@/?#%&+ " ∧ urlEncode (c :: s) = [37, hexDigit (c / 16), hexDigit (c % 16)] ++ urlEncode s) ∨
      (c ∉ ascii ":@/?#%&+ " ∧ urlEncode (c :: s) = c :: urlEncode s) := by
  rw [urlEncode, List.flatMap_cons]
  by_cases special : c ∈ ascii ":@/?#%&+ "
  · exact .inl ⟨special, by rw [if_pos special]; rfl⟩
  · exact .inr ⟨special, by rw [if_neg special]; rfl⟩

theorem percentDecode_cons {c : UInt8} (plain : c ≠ 37) (rest : Bytes) :
    percentDecode (c :: rest) = (percentDecode rest).map (c :: ·) := by
  match rest with
  | [] => exact if_neg plain
  | [d] =>
    rw [percentDecode, percentDecode]
    by_cases percent : d = 37
    · rw [if_pos (.inr percent), if_pos percent]
      rfl
    · rw [if_neg (not_or.mpr ⟨plain, percent⟩), if_neg percent]
      rfl
  | a :: b :: rest => rw [percentDecode, if_neg plain]

/-- **Percent-encoding keeps a text.** -/
theorem percentDecode_urlEncode (s : Bytes) : percentDecode (urlEncode s) = some s := by
  have digits : ∀ d ∈ ascii ":@/?#%&+ ", decide (hexPair (hexDigit (d / 16)) (hexDigit (d % 16)) =
      some d) = true := List.all_eq_true.mp (by decide)
  induction s with
  | nil => rfl
  | cons c s ih =>
    rcases urlEncode_cons c s with ⟨special, same⟩ | ⟨plain, same⟩
    · rw [same, List.cons_append, List.cons_append, List.cons_append, List.nil_append,
        percentDecode, if_pos rfl, of_decide_eq_true (digits c special)]
      dsimp only
      rw [ih]
      rfl
    · have percent : c ≠ 37 := by
        rintro rfl
        exact plain (by decide)
      rw [same, percentDecode_cons percent, ih]
      rfl

/-- What is encoded has no separator of a URI in it. -/
theorem not_mem_urlEncode {c : UInt8} (separates : c ∈ ascii ":@/?#") (s : Bytes) :
    c ∉ urlEncode s := by
  have digits : ∀ d ∈ ascii ":@/?#%&+ ", (ascii ":@/?#").all (fun c =>
      c ∉ [37, hexDigit (d / 16), hexDigit (d % 16)]) = true := List.all_eq_true.mp (by decide)
  have among : ∀ d ∈ ascii ":@/?#", decide (d ∈ ascii ":@/?#%&+ ") = true :=
    List.all_eq_true.mp (by decide)
  induction s with
  | nil => exact List.not_mem_nil
  | cons d s ih =>
    rcases urlEncode_cons d s with ⟨special, same⟩ | ⟨plain, same⟩
    · rw [same, List.mem_append, not_or]
      exact ⟨of_decide_eq_true (List.all_eq_true.mp (digits d special) c separates), ih⟩
    · rw [same, List.mem_cons, not_or]
      refine ⟨?_, ih⟩
      rintro rfl
      exact plain (of_decide_eq_true (among c separates))

/-- **The URI gives user and password back.** -/
theorem readURI_mongoURI (user pass : Bytes) :
    readURI (mongoURI user pass) =
      some { scheme := ascii "mongodb", user := orDefault user (ascii "admin"), password := pass
             host := ascii "localhost:27017" } := by
  generalize named : orDefault user (ascii "admin") = name
  have start : ascii "mongodb://" = ascii "mongodb" ++ [58, 47, 47] := by decide
  have middle : ascii ":" = [58] := by decide
  have back : ascii "@localhost:27017/?authSource=admin" =
    64 :: (ascii "localhost:27017" ++ ascii "/?authSource=admin") := by decide
  have shape : mongoURI user pass = ascii "mongodb" ++ 58 :: ([47, 47] ++
      (((urlEncode name ++ 58 :: urlEncode pass) ++ 64 :: ascii "localhost:27017") ++
        ascii "/?authSource=admin")) := by
    rw [mongoURI, named, start, middle, back]
    simp only [List.append_assoc, List.cons_append, List.nil_append]
  have slashes : ascii "//" = [47, 47] := by decide
  have authority : ((((urlEncode name ++ 58 :: urlEncode pass) ++ 64 :: ascii "localhost:27017") ++
      ascii "/?authSource=admin").takeWhile fun c => c ∉ ascii "/?#") =
        (urlEncode name ++ 58 :: urlEncode pass) ++ 64 :: ascii "localhost:27017" := by
    have ends : (ascii "/?authSource=admin").takeWhile (fun c => c ∉ ascii "/?#") = [] := by
      decide
    rw [List.takeWhile_append_of_pos, ends, List.append_nil]
    have among : ∀ c ∈ ascii "/?#", decide (c ∈ ascii ":@/?#") = true :=
      List.all_eq_true.mp (by decide)
    have encoded : ∀ s, ∀ c ∈ urlEncode s, c ∉ ascii "/?#" := fun s c member inside =>
      not_mem_urlEncode (of_decide_eq_true (among c inside)) s member
    have host : ∀ c ∈ 64 :: ascii "localhost:27017", decide (c ∉ ascii "/?#") = true :=
      List.all_eq_true.mp (by decide)
    intro c member
    rcases List.mem_append.mp member with userinfo | member
    · rcases List.mem_append.mp userinfo with user | password
      · exact decide_eq_true (encoded name c user)
      · rcases List.mem_cons.mp password with rfl | password
        · decide
        · exact decide_eq_true (encoded pass c password)
    · exact host c member
  have scheme : 58 ∉ ascii "mongodb" := by decide
  have noAt : 64 ∉ urlEncode name ++ 58 :: urlEncode pass := by
    rw [List.mem_append, List.mem_cons, not_or, not_or]
    exact ⟨not_mem_urlEncode (by decide) name, by decide,
      not_mem_urlEncode (by decide) pass⟩
  have noColon : 58 ∉ urlEncode name := not_mem_urlEncode (by decide) name
  have host : 64 ∉ ascii "localhost:27017" := by decide
  unfold readURI
  rw [shape, cut_append scheme]
  dsimp only [bind, Option.bind]
  rw [slashes, if_neg fun differ => differ rfl, List.cons_append, List.cons_append, List.nil_append,
    List.drop_succ_cons, List.drop_succ_cons, List.drop_zero, authority, cut_append noAt]
  dsimp only
  rw [if_neg host, cut_append noColon]
  dsimp only
  rw [percentDecode_urlEncode, percentDecode_urlEncode]

/-! ### The commands -/

section Commands

variable (cmd : BackupCommand) (file : Bytes)

/-- What the password adds to `redis-cli`. -/
theorem feed_redisAuth (pass : Bytes) :
    feed .gap (redisAuth pass) = some (.gap,
      (if pass = [] then [] else [ascii "-a", pass, ascii "--no-auth-warning"]).map .word) := by
  unfold redisAuth
  by_cases empty : pass = []
  · rw [if_pos empty, if_pos empty]
    rfl
  · have option : feed .gap (ascii "-a ") = some (.gap, [.word (ascii "-a")]) := by decide
    have blank : ascii " --no-auth-warning " = 32 :: ascii "--no-auth-warning " := by decide
    have warning : feed .gap (ascii "--no-auth-warning ") =
      some (.gap, [.word (ascii "--no-auth-warning")]) := by decide
    rw [if_neg empty, if_neg empty, shellSingleQuote_eq, blank]
    exact feed_append (feed_append option (feed_gap_singleQuote pass)) (feed_blank warning)

/-- `redis-cli` with a request. -/
theorem read_redis {request : String} (plain : feed .gap (ascii request) = some (.word (ascii request), []))
    (pass : Bytes) :
    read (ascii "redis-cli " ++ redisAuth pass ++ ascii request) =
      some { words := [ascii "redis-cli"] ++
        (if pass = [] then [] else [ascii "-a", pass, ascii "--no-auth-warning"]) ++
          [ascii request] } := by
  have client : feed .gap (ascii "redis-cli ") = some (.gap, [.word (ascii "redis-cli")]) := by
    decide
  have fed := feed_append (feed_append client (feed_redisAuth pass)) plain
  refine read_of_feed fed ?_ ⟨ascii "redis-cli", rfl, by decide, by decide⟩
  split
  · rfl
  · rfl

theorem orDefault_nil (s : Bytes) : orDefault s [] = s := by
  unfold orDefault
  split
  · next empty => exact empty.symm
  · rfl

theorem named {command : Command} {name : String} {rest : List Bytes}
    (words : command.words = ascii name :: rest)
    (fine : ascii name ∉ reserved ∧ 61 ∉ ascii name) : command.Named :=
  ⟨ascii name, by rw [words]; rfl, fine.1, fine.2⟩

theorem feed_mongo {tool options : String} {more : List Token} {last : Bytes}
    (start : feed .gap (ascii tool) = some (.word (ascii "--uri="), more)) (uri : Bytes)
    {ts : List Token} (behind : feed .gap (ascii options) = some (.word last, ts)) :
    feed .gap (ascii tool ++ shellSingleQuote uri ++ ascii " --archive=" ++ shellSingleQuote file ++
        32 :: ascii options) =
      some (.word last, more ++ (.word (ascii "--uri=" ++ uri) ::
        .word (ascii "--archive=" ++ file) :: ts)) := by
  have blank : ascii " --archive=" = 32 :: ascii "--archive=" := by decide
  have archive : feed .gap (ascii "--archive=") = some (.word (ascii "--archive="), []) := by
    decide
  rw [shellSingleQuote_eq, shellSingleQuote_eq, blank]
  have first := feed_append start (feed_singleQuote uri (ascii "--uri="))
  have second := feed_append (feed_append first (feed_blank archive))
    (feed_singleQuote file (ascii "--archive="))
  have whole := feed_append second (feed_blank behind)
  rw [whole]
  simp only [List.append_nil, List.append_assoc, List.cons_append, List.nil_append]

/-- **Every command is read as it is meant.** -/
theorem read_exec (action : Action) :
    (action.exec cmd file).read = some (action.command cmd file) := by
  have output : feed .gap (ascii "> ") = some (.gap, [.redirect .output]) := by decide
  have input : feed .gap (ascii "< ") = some (.gap, [.redirect .input]) := by decide
  have behindOutput : ascii " > " = 32 :: ascii "> " := by decide
  have behindInput : ascii " < " = 32 :: ascii "< " := by decide
  have blank : ascii " " = [32] := by decide
  cases action with
  | pgDump => rfl
  | pgRestore => rfl
  | lastSave => exact read_redis (by decide) cmd.superuserPassword
  | bgSave => exact read_redis (by decide) cmd.superuserPassword
  | mysqldump =>
    have start : feed .gap (ascii "mysqldump -u ") =
      some (.gap, [.word (ascii "mysqldump"), .word (ascii "-u")]) := by decide
    have behind : ascii " --single-transaction --routines --triggers " =
      32 :: ascii "--single-transaction --routines --triggers " := by decide
    have options : feed .gap (ascii "--single-transaction --routines --triggers ") =
      some (.gap, [.word (ascii "--single-transaction"), .word (ascii "--routines"),
        .word (ascii "--triggers")]) := by decide
    have user := feed_append start
      (feed_gap_singleQuote (orDefault (trimSpace cmd.superuser) (ascii "root")))
    have name := feed_append (feed_append user (feed_blank options))
      (feed_gap_singleQuote (trimSpace cmd.dbname))
    have fed := feed_append (feed_append name (feed_blank output)) (feed_gap_singleQuote file)
    rw [← behind, ← behindOutput, ← shellSingleQuote_eq, ← shellSingleQuote_eq,
      ← shellSingleQuote_eq, ← orDefault_nil (trimSpace cmd.dbname)] at fed
    refine read_of_feed fed ?_ (named rfl (by decide))
    rw [orDefault_nil]
    rfl
  | mysql =>
    have start : feed .gap (ascii "mysql -u ") =
      some (.gap, [.word (ascii "mysql"), .word (ascii "-u")]) := by decide
    have user := feed_append start
      (feed_gap_singleQuote (orDefault (trimSpace cmd.superuser) (ascii "root")))
    have name := feed_append (feed_append user (@feed_blank _ [] .gap [] rfl))
      (feed_gap_singleQuote (trimSpace cmd.dbname))
    have fed := feed_append (feed_append name (feed_blank input)) (feed_gap_singleQuote file)
    rw [← blank, ← behindInput, ← shellSingleQuote_eq, ← shellSingleQuote_eq,
      ← shellSingleQuote_eq, ← orDefault_nil (trimSpace cmd.dbname)] at fed
    refine read_of_feed fed ?_ (named rfl (by decide))
    rw [orDefault_nil]
    rfl
  | mongodump =>
    have start : feed .gap (ascii "mongodump --uri=") =
      some (.word (ascii "--uri="), [.word (ascii "mongodump")]) := by decide
    have gzip : feed .gap (ascii "--gzip") = some (.word (ascii "--gzip"), []) := by decide
    have behind : ascii " --gzip" = 32 :: ascii "--gzip" := by decide
    have fed := feed_mongo file start (mongoURI (trimSpace cmd.superuser) cmd.superuserPassword) gzip
    rw [← behind] at fed
    exact read_of_feed fed rfl (named rfl (by decide))
  | mongorestore =>
    have start : feed .gap (ascii "mongorestore --uri=") =
      some (.word (ascii "--uri="), [.word (ascii "mongorestore")]) := by decide
    have drop : feed .gap (ascii "--gzip --drop") =
      some (.word (ascii "--drop"), [.word (ascii "--gzip")]) := by decide
    have behind : ascii " --gzip --drop" = 32 :: ascii "--gzip --drop" := by decide
    have fed := feed_mongo file start (mongoURI (trimSpace cmd.superuser) cmd.superuserPassword) drop
    rw [← behind] at fed
    exact read_of_feed fed rfl (named rfl (by decide))
  | copyDump =>
    have start : feed .gap (ascii "cp /data/dump.rdb ") =
      some (.gap, [.word (ascii "cp"), .word (ascii "/data/dump.rdb")]) := by decide
    have fed := feed_append start (feed_gap_singleQuote file)
    rw [← shellSingleQuote_eq] at fed
    exact read_of_feed fed rfl (named rfl (by decide))
  | redisLoad =>
    have start : feed .gap (ascii "cp ") = some (.gap, [.word (ascii "cp")]) := by decide
    have dump : feed .gap (ascii "/data/dump.rdb") =
      some (.word (ascii "/data/dump.rdb"), []) := by decide
    have behind : ascii " /data/dump.rdb" = 32 :: ascii "/data/dump.rdb" := by decide
    have fed := feed_append (feed_append start (feed_gap_singleQuote file)) (feed_blank dump)
    rw [← behind, ← shellSingleQuote_eq] at fed
    exact read_of_feed fed rfl (named rfl (by decide))

theorem read_execs (actions : List Action) :
    (actions.map (Action.exec cmd file)).map Exec.read =
      (actions.map (Action.command cmd file)).map some := by
  rw [List.map_map, List.map_map]
  exact List.map_congr_left fun action _ => read_exec cmd file action

/-! ### Tool by tool -/

theorem commands_pollLastSave (before : Bytes) (polls : Answers) :
    (pollLastSave (trimSpace before) polls).map (Action.command cmd file) =
      let old := polls.takeWhile fun answer => !Saved before answer
      List.replicate old.length (Action.lastSave.command cmd file) ++
        if old.length = polls.length then []
        else [Action.lastSave.command cmd file, Action.copyDump.command cmd file] := by
  induction polls with
  | nil => rfl
  | cons answer polls ih =>
    cases saved : Saved before answer with
    | true =>
      cases answer with
      | none => cases saved
      | some out =>
        rw [pollLastSave, if_pos (of_decide_eq_true saved)]
        simp [saved]
    | false =>
      have goes : pollLastSave (trimSpace before) (answer :: polls) =
          .lastSave :: pollLastSave (trimSpace before) polls := by
        cases answer with
        | none => rfl
        | some out => exact if_neg (of_decide_eq_false saved)
      rw [goes, List.map_cons, ih, List.takeWhile_cons_of_pos (by rw [saved]; rfl)]
      simp [List.replicate_succ]

theorem commands_dump (tool : String) (answers : Answers) :
    (dumpActions tool answers).map (Action.command cmd file) =
      dumpCommands cmd file answers tool := by
  unfold dumpActions dumpCommands
  split
  · rfl
  · rfl
  · rfl
  · rw [if_neg (by decide), if_neg (by decide), if_neg (by decide), if_pos rfl]
    split
    · rfl
    · next rest => cases rest <;> rfl
    · next answer => cases answer <;> rfl
    · rfl
    · next before _ polls =>
      rw [List.map_cons, List.map_cons, commands_pollLastSave]
      rfl
  · next pg mysql mongo redis => rw [if_neg pg, if_neg mysql, if_neg mongo, if_neg redis]; rfl

theorem commands_restore (tool : String) :
    (restoreActions tool).map (Action.command cmd file) = restoreCommands cmd file tool := by
  unfold restoreActions restoreCommands
  split
  · rfl
  · rfl
  · rfl
  · rfl
  · next pg mysql mongo redis => rw [if_neg pg, if_neg mysql, if_neg mongo, if_neg redis]; rfl

end Commands

/-- **Dumps and restores keep their arguments**: a shell reads what a dump and a restore run as the
commands their tool is meant to run, and the URI gives user and password back. -/
theorem commands_read (cmd : BackupCommand) (tool : String) (file : Bytes) (answers : Answers) :
    (dumpInContainer cmd tool file answers).map Exec.read =
        (dumpCommands cmd file answers tool).map some ∧
      (restoreInContainer cmd tool file).map Exec.read =
        (restoreCommands cmd file tool).map some ∧
      readURI (mongoURI (trimSpace cmd.superuser) cmd.superuserPassword) =
        some { scheme := ascii "mongodb"
               user := orDefault (trimSpace cmd.superuser) (ascii "admin")
               password := cmd.superuserPassword
               host := ascii "localhost:27017" } := by
  refine ⟨?_, ?_, readURI_mongoURI _ _⟩
  · rw [dumpInContainer, read_execs, commands_dump]
  · rw [restoreInContainer, read_execs, commands_restore]

end Nixway.Agent.BackupCommands
