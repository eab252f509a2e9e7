/-
# Agent.Deploying -- what an agent reports while it starts a container

`HandleDeployCommand` of `apps/agent/deploy.go`, for apps and databases alike: the
messages it sends, in order, for everything docker, the health check and the clock can
answer.  The rounds of a health check are the probes made before the deadline; a check
that runs out of them has timed out.

Whatever the answers, the handler sends at most four messages, and the last one, and only
that one, is finished (`handleDeployCommand_concludes`).
-/
import Nixway.Deploy.Reports
import Nixway.Store.Slug

namespace Nixway.Agent

open Nixway.Store
open Nixway.Deploy (DeployOutput)

set_option autoImplicit false

/-! ## The command and the answers -/

/-- What the handler reads of a `DeployCommand`. -/
structure DeployOrder where
  deployID : UUID
  targetID : UUID
  containerName : String
  port : Int
  labels : EnvMap := []
  /-- `cmd.Registry.Server`, blank without a registry. -/
  registryServer : String := ""
  /-- `cmd.ExecHealthCheck.Command`, blank without one. -/
  execHealthCheck : String := ""

/-- One round of a health check: whether `docker inspect` finds the container running,
its last log lines, and whether the check passes. -/
structure Probe where
  running : Bool
  logs : String := ""
  passes : Bool := false

/-- What docker and the clock answer while one command is handled. -/
structure Host where
  /-- `pullDeployImage`. -/
  pull : Except String Unit := .ok ()
  /-- `docker run`: its output, or the text of its failure. -/
  run : Except String String
  /-- The rounds before the deadline. -/
  probes : List Probe := []
  /-- `runDatabasePostInit`, and the log lines read when it fails. -/
  postInit : Except String Unit := .ok ()
  postInitLogs : String := ""
  /-- What five attempts at the container's address print; `none` is an error. -/
  addresses : Fin 5 → Option String := fun _ => none
  /-- The log lines read after the deadline. -/
  lastLogs : String := ""

/-! ## HandleDeployCommand -/

namespace DeployOrder

/-- `sendOutput`. -/
def output (order : DeployOrder) (phase containerID : String) (finished success : Bool)
    (error : String) : DeployOutput :=
  { deployID := some order.deployID
    targetID := some order.targetID
    phase := phase
    containerID := containerID
    finished := finished
    success := success
    error := error }

def failed (order : DeployOrder) (containerID error : String) : DeployOutput :=
  order.output "failed" containerID true false error

/-- `cmd.Labels["nixway.kind"] == "database"`. -/
def isDatabase (order : DeployOrder) : Bool :=
  (order.labels.find? fun label => label.1 = "nixway.kind").any fun label => label.2 = "database"

/-- After the exec check has passed: a database gets its application user first. -/
def passed (order : DeployOrder) (host : Host) (containerID : String) : List DeployOutput :=
  let healthy := order.output "healthy" containerID true true ""
  if order.isDatabase then
    order.output "post_init" containerID false false "" ::
      match host.postInit with
      | .error err =>
        [order.failed containerID ("post-init failed: " ++ err ++ "\n" ++ host.postInitLogs)]
      | .ok () => [healthy]
  else [healthy]

/-- A health check loop; `pass` is what it sends when a round passes, `late` after the
deadline. -/
def check (order : DeployOrder) (containerID : String) (pass : List DeployOutput)
    (late : String) : List Probe → List DeployOutput
  | [] => [order.failed containerID late]
  | probe :: rest =>
    if !probe.running then
      [order.failed containerID ("container exited unexpectedly. Logs:\n" ++ probe.logs)]
    else if probe.passes then pass
    else order.check containerID pass late rest

/-- The address of the container: the first of five answers that is not blank. -/
def address (host : Host) : Option String :=
  ((List.finRange 5).filterMap fun i => (host.addresses i).map trimSpace).find? (· ≠ "")

/-- The TCP check of a container without an exec check. -/
def dial (order : DeployOrder) (host : Host) (containerID : String) : List DeployOutput :=
  match address host with
  | none => [order.failed containerID "could not determine container IP"]
  | some _ =>
    order.check containerID [order.output "healthy" containerID true true ""]
      ("health check timed out: nothing accepted TCP on container port " ++ toString order.port ++
        ". Does the app listen on this port? Logs:\n" ++ host.lastLogs) host.probes

end DeployOrder

/-- The container id an agent reports: what `docker run` prints, cut at twelve. -/
def containerIDOf (output : String) : String :=
  let id := trimSpace output
  if 12 < id.toList.length then Theory.Text.takeChars 12 id else id

/-- **`HandleDeployCommand`**: the messages it sends. -/
def handleDeployCommand (order : DeployOrder) (host : Host) : List DeployOutput :=
  order.output "starting" "" false false "" ::
    match if order.registryServer ≠ "" then host.pull else .ok () with
    | .error err => [order.failed "" err]
    | .ok () =>
      match host.run with
      | .error err => [order.failed "" ("docker run failed: " ++ err)]
      | .ok output =>
        let containerID := containerIDOf output
        order.output "health_checking" containerID false false "" ::
          if order.execHealthCheck ≠ "" then
            order.check containerID (order.passed host containerID)
              "exec health check timed out" host.probes
          else order.dial host containerID

/-! ## How many messages -/

/-- At most `n` messages, of which the last one and no other is finished. -/
inductive Concludes : Nat → List DeployOutput → Prop
  | last {n : Nat} {out : DeployOutput} (finished : out.finished = true) : Concludes (n + 1) [out]
  | more {n : Nat} {out : DeployOutput} {rest : List DeployOutput}
      (unfinished : out.finished = false) (later : Concludes n rest) : Concludes (n + 1) (out :: rest)

namespace Concludes

theorem mono {n m : Nat} {outs : List DeployOutput} (concludes : Concludes n outs)
    (larger : n ≤ m) : Concludes m outs := by
  induction concludes generalizing m with
  | last finished =>
    obtain ⟨k, rfl⟩ : ∃ k, m = k + 1 := ⟨m - 1, by omega⟩
    exact .last finished
  | more unfinished later ih =>
    obtain ⟨k, rfl⟩ : ∃ k, m = k + 1 := ⟨m - 1, by omega⟩
    exact .more unfinished (ih (by omega))

theorem length_le {n : Nat} {outs : List DeployOutput} (concludes : Concludes n outs) :
    outs.length ≤ n := by
  induction concludes with
  | last => simp
  | more _ _ ih =>
    rw [List.length_cons]
    omega

end Concludes

namespace DeployOrder

variable {order : DeployOrder} {host : Host} {containerID : String}

theorem passed_concludes : Concludes 2 (order.passed host containerID) := by
  unfold passed
  split
  · cases host.postInit with
    | error err => exact .more rfl (.last rfl)
    | ok => exact .more rfl (.last rfl)
  · exact .last rfl

theorem check_concludes {n : Nat} {pass : List DeployOutput} {late : String}
    (passes : Concludes (n + 1) pass) (probes : List Probe) :
    Concludes (n + 1) (order.check containerID pass late probes) := by
  induction probes with
  | nil => exact .last rfl
  | cons probe rest ih =>
    unfold check
    split
    · exact .last rfl
    · split
      · exact passes
      · exact ih

theorem dial_concludes : Concludes 1 (order.dial host containerID) := by
  unfold dial
  split
  · exact .last rfl
  · exact check_concludes (.last rfl) _

end DeployOrder

/-- **At most four messages, the last one finished.**  The handler never sends after its
finished message, and never ends without one. -/
theorem handleDeployCommand_concludes (order : DeployOrder) (host : Host) :
    Concludes 4 (handleDeployCommand order host) := by
  refine .more rfl ?_
  split
  · exact .last rfl
  · split
    · exact .last rfl
    · refine .more rfl ?_
      split
      · exact DeployOrder.check_concludes DeployOrder.passed_concludes _
      · exact DeployOrder.dial_concludes.mono (by omega)

/-! ## A success -/

namespace DeployOrder

variable {order : DeployOrder} {host : Host} {containerID : String} {out : DeployOutput}

theorem passed_success (mem : out ∈ order.passed host containerID) (success : out.success = true) :
    out = order.output "healthy" containerID true true "" := by
  unfold passed at mem
  split at mem
  · rcases List.mem_cons.mp mem with rfl | later
    · cases success
    · cases init : host.postInit with
      | error err =>
        simp only [init] at later
        obtain rfl := List.mem_singleton.mp later
        cases success
      | ok =>
        simp only [init] at later
        exact List.mem_singleton.mp later
  · exact List.mem_singleton.mp mem

theorem check_success {pass : List DeployOutput} {late : String} {probes : List Probe}
    (mem : out ∈ order.check containerID pass late probes) (success : out.success = true) :
    out ∈ pass := by
  induction probes with
  | nil =>
    obtain rfl := List.mem_singleton.mp mem
    cases success
  | cons probe rest ih =>
    unfold check at mem
    split at mem
    · obtain rfl := List.mem_singleton.mp mem
      cases success
    · split at mem
      · exact mem
      · exact ih mem

theorem dial_success (mem : out ∈ order.dial host containerID) (success : out.success = true) :
    out = order.output "healthy" containerID true true "" := by
  unfold dial at mem
  split at mem
  · obtain rfl := List.mem_singleton.mp mem
    cases success
  · exact List.mem_singleton.mp (check_success mem success)

end DeployOrder

/-- **A success is reported once docker ran the container, with the id it printed.** -/
theorem handleDeployCommand_success {order : DeployOrder} {host : Host} {out : DeployOutput}
    (mem : out ∈ handleDeployCommand order host) (success : out.success = true) :
    ∃ output, host.run = .ok output ∧
      out = order.output "healthy" (containerIDOf output) true true "" := by
  unfold handleDeployCommand at mem
  rcases List.mem_cons.mp mem with rfl | mem
  · cases success
  · split at mem
    · obtain rfl := List.mem_singleton.mp mem
      cases success
    · split at mem
      · obtain rfl := List.mem_singleton.mp mem
        cases success
      · next output ran =>
        refine ⟨output, ran, ?_⟩
        rcases List.mem_cons.mp mem with rfl | mem
        · cases success
        · split at mem
          · exact DeployOrder.passed_success (DeployOrder.check_success mem success) success
          · exact DeployOrder.dial_success mem success

end Nixway.Agent
