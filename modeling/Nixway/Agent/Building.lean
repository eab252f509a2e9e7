/-
# Agent.Building -- a build on an agent, and the messages it sends

`HandleBuildCommand` of `apps/agent/build.go`: the messages it sends, in order, for everything
that the commands it runs can do.  What a command writes is streamed line by line and collected;
in some of the failure branches the collected text is sent once more.  The lines are read by a
`bufio.Scanner`, which stops at a line that does not fit into its buffer.  Nobody reads the pipe
after that, so a command that has more to write than the pipe holds never ends.

A handler that blocks for good has sent messages and has no result, so a `Sending` is both.
-/
import Nixway.Intake.Handlers
import Nixway.Theory.Lines
import Nixway.Theory.Paths
import Nixway.Store.Slug

namespace Nixway.Agent

open Nixway.Theory Nixway.Store
open Nixway.Intake (BuildOutput)

set_option autoImplicit false

/-! ## Handlers that send -/

/-- What a handler has sent, and its result unless it blocks for good. -/
structure Sending (α : Type) where
  sent : List BuildOutput
  result : Option α

namespace Sending

protected def bind {α β : Type} (x : Sending α) (f : α → Sending β) : Sending β :=
  match x.result with
  | none => ⟨x.sent, none⟩
  | some a => ⟨x.sent ++ (f a).sent, (f a).result⟩

instance : Monad Sending where
  pure a := ⟨[], some a⟩
  bind := Sending.bind

theorem bind_some {α β : Type} {x : Sending α} {a : α} (here : x.result = some a)
    (f : α → Sending β) : x >>= f = ⟨x.sent ++ (f a).sent, (f a).result⟩ := by
  show x.bind f = _
  rw [Sending.bind, here]

theorem bind_none {α β : Type} {x : Sending α} (blocked : x.result = none) (f : α → Sending β) :
    x >>= f = ⟨x.sent, none⟩ := by
  show x.bind f = _
  rw [Sending.bind, blocked]

theorem bind_assoc' {α β γ : Type} (x : Sending α) (f : α → Sending β) (g : β → Sending γ) :
    x >>= f >>= g = x >>= fun a => f a >>= g := by
  cases here : x.result with
  | none => rw [bind_none here, bind_none here, bind_none rfl]
  | some a =>
    rw [bind_some here, bind_some here]
    cases further : (f a).result with
    | none => rw [bind_none rfl, bind_none further]
    | some b => rw [bind_some (a := b) rfl, bind_some further, List.append_assoc]

theorem pure_bind' {α β : Type} (a : α) (f : α → Sending β) : (pure a : Sending α) >>= f = f a := by
  rw [bind_some (a := a) rfl]
  rfl

end Sending

/-! ## The command and the machine -/

structure RegistryAuth where
  server : String
  username : String := ""
  password : String := ""

structure BuildCommand where
  buildID : UUID
  repoURL : String
  authToken : String := ""
  branch : String := ""
  commitSha : String := ""
  rootPath : String := ""
  builder : String := "auto"
  dockerfilePath : String := ""
  imageTag : String := ""
  buildArgs : EnvMap := []
  registry : Option RegistryAuth := none

/-- `exec.Cmd`. -/
structure Exec where
  name : String
  args : List String
  dir : String := ""
  stdin : String := ""

/-- What becomes of a command: whether it starts, all that it writes to both of its outputs, how
it ends, and whether it has more to write than the pipe holds should its reader stop. -/
structure CommandRun where
  start : Option String := none
  output : String := ""
  exit : Option String := none
  stuck : Bool := false

/-- `bufio.MaxScanTokenSize`: the buffer holds a line and its newline. -/
def maxScanTokenSize : Nat := 64 * 1024

namespace CommandRun

def text (run : CommandRun) : List Char := if run.start.isSome then [] else run.output.toList

/-- The error of `Start` or of `Wait`. -/
def error (run : CommandRun) : Option String := run.start.or run.exit

/-- What the reader delivers of it. -/
def collected (run : CommandRun) : List Char :=
  Lines.unlines (Lines.scanned maxScanTokenSize run.text)

/-- The reader has stopped, and the command does not end. -/
def Stuck (run : CommandRun) : Prop :=
  Lines.gaveUp maxScanTokenSize run.text = true ∧ run.stuck = true

end CommandRun

/-- The machine of the agent. -/
structure Machine where
  run : Exec → CommandRun
  fileExists : (dir name : String) → Bool := fun _ _ => false

namespace BuildCommand

variable (cmd : BuildCommand) (machine : Machine)

/-- The message of `sendOutput`. -/
def output (phase output : String) (finished success : Bool) (errMsg imageID : String) :
    BuildOutput :=
  { buildID := some cmd.buildID, output, phase, finished, success, error := errMsg, imageID }

def sendOutput (phase output : String) (finished success : Bool) (errMsg imageID : String) :
    Sending Unit :=
  ⟨[cmd.output phase output finished success errMsg imageID], some ()⟩

/-- One unfinished message for each of the texts. -/
def sendEach (phase : String) (texts : List String) : Sending Unit :=
  ⟨texts.map fun text => cmd.output phase text false false "" "", some ()⟩

/-- `cmd.Wait` when the reader has stopped: a command that is stuck does not end. -/
def wait (run : CommandRun) (gaveUp : Bool) : Sending (Option String) :=
  if gaveUp ∧ run.stuck then ⟨[], none⟩ else ⟨[], some run.exit⟩

/-- The collected output, and the error. -/
def runCommandStreamingExec (e : Exec) (phase : String) : Sending (String × Option String) :=
  let run := machine.run e
  match run.start with
  | some err => return ("", some err)
  | none => do
    let output := (Lines.scanned maxScanTokenSize run.output.toList).map fun line =>
      String.ofList line ++ "\n"
    cmd.sendEach phase output
    let err ← wait run (Lines.gaveUp maxScanTokenSize run.output.toList)
    return (String.join output, err)

/-! ## HandleBuildCommand -/

/-- `strings.Replace(s, old, new, 1)`. -/
def replaceFirst (old new : List Char) : List Char → List Char
  | [] => if old = [] then new else []
  | c :: cs =>
    if old.isPrefixOf (c :: cs) then new ++ (c :: cs).drop old.length
    else c :: replaceFirst old new cs

/-- Sorted by key. -/
def envFlagArgs (flag : String) (env : EnvMap) : List String :=
  (env.insertionSort fun a b => a.1 ≤ b.1).flatMap fun entry => [flag, entry.1 ++ "=" ++ entry.2]

def buildBaseDir : String := "/var/nixway/builds"

def buildDir : String := Paths.clean (buildBaseDir ++ "/" ++ cmd.buildID.text)

def cloneArgs : List String :=
  let repoURL := if cmd.authToken ≠ "" then
      String.ofList (replaceFirst "https://".toList
        ("https://x-access-token:" ++ cmd.authToken ++ "@").toList cmd.repoURL.toList)
    else cmd.repoURL
  ["clone", "--depth", "1"] ++ (if cmd.branch ≠ "" then ["--branch", cmd.branch] else []) ++
    [repoURL, cmd.buildDir]

def workDir : String :=
  if cmd.rootPath ≠ "" ∧ cmd.rootPath ≠ "/" then
    let rest := if cmd.rootPath.toList.head? = some '/' then cmd.rootPath.toList.tail
      else cmd.rootPath.toList
    Paths.clean (cmd.buildDir ++ "/" ++ String.ofList rest)
  else cmd.buildDir

def detectBuilder : String :=
  let dockerfilePath := if cmd.dockerfilePath = "" then "Dockerfile" else cmd.dockerfilePath
  if machine.fileExists cmd.workDir dockerfilePath then "dockerfile"
  else if machine.fileExists cmd.workDir "nixpacks.toml" then "nixpacks"
  else if machine.fileExists cmd.workDir "Procfile" then "buildpacks"
  else "nixpacks"

/-- The `switch` over the builder. -/
def buildExec (builder : String) : Exec :=
  let nixpacks : Exec :=
    { name := "nixpacks"
      args := ["build", ".", "--name", cmd.imageTag] ++ envFlagArgs "--env" cmd.buildArgs
      dir := cmd.workDir }
  if builder = "dockerfile" then
    { name := "docker"
      args := ["build", "-t", cmd.imageTag, "-f",
          if cmd.dockerfilePath = "" then "Dockerfile" else cmd.dockerfilePath] ++
        envFlagArgs "--build-arg" cmd.buildArgs ++ ["."]
      dir := cmd.workDir }
  else if builder = "nixpacks" then nixpacks
  else if builder = "buildpacks" then
    { name := "pack"
      args := ["build", cmd.imageTag, "--builder", "heroku/builder:24"] ++
        envFlagArgs "--env" cmd.buildArgs
      dir := cmd.workDir }
  else if builder = "railpack" then
    { name := "railpack"
      args := ["build", "--tag", cmd.imageTag] ++ envFlagArgs "--env" cmd.buildArgs
      dir := cmd.workDir }
  else nixpacks

def loginExec (auth : RegistryAuth) : Exec :=
  { name := "docker"
    args := ["login", "-u", auth.username, "--password-stdin", auth.server]
    stdin := auth.password }

def pushExec : Exec := { name := "docker", args := ["push", cmd.imageTag] }

def logoutExec (auth : RegistryAuth) : Exec := { name := "docker", args := ["logout", auth.server] }

/-- `docker logout`, whose failure is no failure of the push. -/
def logout (auth : RegistryAuth) : Sending Unit :=
  match (machine.run (logoutExec auth)).error with
  | some err =>
    cmd.sendOutput "pushing" ("Warning: docker logout failed: " ++ err ++ "\n") false false "" ""
  | none => return

/-- The error of the push. -/
def pushImage (auth : RegistryAuth) : Sending (Option String) := do
  cmd.sendOutput "pushing" ("Logging in to " ++ auth.server ++ "...\n") false false "" ""
  let login := machine.run (loginExec auth)
  match login.error with
  | some err =>
    let loginOut := String.ofList login.text
    return some ("docker login: " ++ trimSpace loginOut ++ ": " ++ err)
  | none =>
    cmd.sendOutput "pushing" ("Pushing " ++ cmd.imageTag ++ "...\n") false false "" ""
    let (_, err) ← cmd.runCommandStreamingExec machine cmd.pushExec "pushing"
    match err with
    | some err => return some ("docker push: " ++ err)
    | none =>
      cmd.logout machine auth
      cmd.sendOutput "pushing" "Push completed.\n" false false "" ""
      return none

def completed : Sending Unit :=
  cmd.sendOutput "building" "Build completed successfully.\n" true true "" cmd.imageTag

def publish : Sending Unit :=
  match cmd.registry.filter fun auth => auth.server ≠ "" with
  | none => cmd.completed
  | some auth => do
    match ← cmd.pushImage machine auth with
    | some err => cmd.sendOutput "pushing" "" true false ("push failed: " ++ err) ""
    | none => cmd.completed

/-- The builder, detected if need be. -/
def chosenBuilder : String :=
  if cmd.builder = "auto" then cmd.detectBuilder machine else cmd.builder

def detect : Sending Unit :=
  if cmd.builder = "auto" then
    cmd.sendOutput "detecting" ("Auto-detected builder: " ++ cmd.detectBuilder machine ++ "\n") false
      false "" ""
  else return

def buildWith (builder : String) : Sending Unit := do
  cmd.sendOutput "building" ("Building with " ++ builder ++ "...\n") false false "" ""
  let (buildOut, err) ← cmd.runCommandStreamingExec machine (cmd.buildExec builder) "building"
  match err with
  | some err => cmd.sendOutput "building" buildOut true false ("build failed: " ++ err) ""
  | none => cmd.publish machine

def build : Sending Unit := do
  cmd.detect machine
  cmd.buildWith machine (cmd.chosenBuilder machine)

def fetchExec : Exec :=
  { name := "git", args := ["fetch", "--depth", "1", "origin", cmd.commitSha], dir := cmd.buildDir }

def checkoutExec : Exec :=
  { name := "git", args := ["checkout", "--detach", cmd.commitSha], dir := cmd.buildDir }

def cloneExec : Exec := { name := "git", args := cmd.cloneArgs }

/-- A fetch that failed is no failure of the build. -/
def warnFetch (fetchOut : String) : Option String → Sending Unit
  | some err =>
    cmd.sendOutput "cloning" (fetchOut ++ ("Warning: fetch commit failed: " ++ err ++ "\n")) false
      false "" ""
  | none => return

def checkout : Sending Unit := do
  let (checkoutOut, checkoutErr) ← cmd.runCommandStreamingExec machine cmd.checkoutExec "cloning"
  match checkoutErr with
  | some err =>
    cmd.sendOutput "cloning" checkoutOut true false ("checkout commit failed: " ++ err) ""
  | none => cmd.build machine

/-- The commit the command names. -/
def fetchCommit : Sending Unit := do
  cmd.sendOutput "cloning" ("Checking out commit " ++ cmd.commitSha ++ "...\n") false false "" ""
  let (fetchOut, fetchErr) ← cmd.runCommandStreamingExec machine cmd.fetchExec "cloning"
  cmd.warnFetch fetchOut fetchErr
  cmd.checkout machine

def handleBuildCommand : Sending Unit := do
  cmd.sendOutput "cloning" "Cloning repository...\n" false false "" ""
  let (cloneOut, err) ← cmd.runCommandStreamingExec machine cmd.cloneExec "cloning"
  match err with
  | some err => cmd.sendOutput "cloning" cloneOut true false ("clone failed: " ++ err) ""
  | none => if cmd.commitSha ≠ "" then cmd.fetchCommit machine else cmd.build machine

end BuildCommand

end Nixway.Agent
