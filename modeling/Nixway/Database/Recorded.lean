/-
# Database.Recorded -- the record of a failed provision

`awaitDeployHealthy`, `publishProvision` and `markError` of `internal/database/service.go`, for
every order of deploy messages, timer and cancellation.  A store call fails once its context is
cancelled, at whatever call that is.  The branch of `ctx.Done()` makes its record with the context
whose end it reports, so none of it is written.

`wait_recorded_iff` says when a wait that fails is recorded: it ends by the timer or by a failed
message, and its context lives until the last of its calls.
-/
import Nixway.Database.Backups
import Nixway.Deploy.Reports
import Nixway.Store.Slug

namespace Nixway.Database

open Nixway.Theory Nixway.Store
open Nixway.Deploy (DeployOutput)

set_option autoImplicit false

/-! ## What is written -/

structure ProvisionEvent where
  step : String
  level : String
  message : String
  terminal : Bool := false
  success : Bool := false

/-- The row as far as a provision records itself in it, what went over its channel, and how many
store calls were made. -/
structure Console where
  status : DatabaseStatus := .provisioning
  errorMessage : Option String := none
  provisionLog : List ProvisionEvent := []
  published : List ProvisionEvent := []
  calls : Nat := 0

/-- A context, with the store call that first finds it cancelled. -/
structure Context where
  cancelledAt : Option Nat := none

def Context.alive (ctx : Context) (calls : Nat) : Bool := ctx.cancelledAt.all fun n => calls < n

def Context.over : Context := ⟨some 0⟩

namespace Console

variable (ctx : Context)

def call (f : Console → Console) (c : Console) : Console :=
  { (if ctx.alive c.calls then f c else c) with calls := c.calls + 1 }

/-- The row first, then the channel. -/
def publishProvision (evt : ProvisionEvent) (c : Console) : Console :=
  let c := c.call ctx fun c => { c with provisionLog := c.provisionLog ++ [evt] }
  c.call ctx fun c => { c with published := c.published ++ [evt] }

def markError (cause : String) (c : Console) : Console :=
  c.call ctx fun c => { c with status := .error, errorMessage := some cause }

end Console

/-! ## The wait -/

/-- A case of the `select` that was taken; a cancelled context has an error. -/
inductive Seen where
  | message (out : DeployOutput)
  | timer
  | cancelled (err : String)

/-- As many bytes of a text as there is room for.  Of a character that is cut, the bytes that are
left over read as replacement characters. -/
def cutBytes : Nat → List Char → List Char
  | _, [] => []
  | room, c :: cs =>
    if c.utf8Size ≤ room then c :: cutBytes (room - c.utf8Size) cs
    else List.replicate room '\uFFFD'

def truncateOneLine (s : String) (max : Nat) : String :=
  let line := trimSpace (s.map fun c => if c = '\n' then ' ' else c)
  if line.utf8ByteSize ≤ max then line
  else String.ofList (cutBytes max line.toList) ++ "...(truncated)"

/-- `healthCheckTimeout + 60*time.Second`. -/
def awaitTimeout : String := "2m30s"

def phaseEvent (res : DeployOutput) : ProvisionEvent :=
  { step := "deploy:" ++ res.phase
    level := if res.error ≠ "" then "warn" else "info"
    message := "phase=" ++ res.phase ++
      (if res.containerID ≠ "" then " container=" ++ res.containerID else "") ++
      (if res.error ≠ "" then " error=" ++ truncateOneLine res.error 240 else "") }

/-- The terminal event of a failure. -/
def failure (message : String) : ProvisionEvent :=
  { step := "deploy", level := "error", message := message, terminal := true }

/-- The event of a success, which is not the last one of the provision. -/
def healthyEvent : ProvisionEvent :=
  { step := "deploy", level := "info", message := "container healthy and post-init complete" }

/-- `markError` and the terminal event. -/
def Console.fail (ctx : Context) (cause message : String) (c : Console) : Console :=
  (c.markError ctx cause).publishProvision ctx (failure message)

/-- The answer, unless the wait goes on, and what was written. -/
def awaitDeployHealthy (ctx : Context) : List Seen → Console → Option Bool × Console
  | [], c => (none, c)
  | .cancelled err :: _, c =>
    (some false, c.fail .over ("await deploy: " ++ err) ("deploy aborted: " ++ err))
  | .timer :: _, c =>
    (some false, c.fail ctx ("deploy did not become healthy within " ++ awaitTimeout)
      ("deploy timed out after " ++ awaitTimeout ++ " waiting for healthy"))
  | .message res :: rest, c =>
    let c := c.publishProvision ctx (phaseEvent res)
    if !res.finished then awaitDeployHealthy ctx rest c
    else if !res.success then
      (some false, c.fail ctx ("deploy failed phase=" ++ res.phase ++ ": " ++ res.error)
        ("deploy failed: " ++ truncateOneLine res.error 240))
    else (some true, c.publishProvision ctx healthyEvent)

/-! ## The record -/

/-- The row is in error, and one terminal event more is in its log and on its channel. -/
structure Recorded (before after : Console) : Prop where
  status : after.status = .error
  event : ∃ evt : ProvisionEvent, evt.terminal = true ∧
    after.provisionLog.filter ProvisionEvent.terminal =
      before.provisionLog.filter ProvisionEvent.terminal ++ [evt] ∧
    after.published.filter ProvisionEvent.terminal =
      before.published.filter ProvisionEvent.terminal ++ [evt]

/-- A wait that fails is recorded, and one that succeeds leaves the status alone. -/
structure Accounted (ctx : Context) (seen : List Seen) (c : Console) : Prop where
  failed : (awaitDeployHealthy ctx seen c).1 = some false →
    Recorded c (awaitDeployHealthy ctx seen c).2
  healthy : (awaitDeployHealthy ctx seen c).1 = some true →
    (awaitDeployHealthy ctx seen c).2.status = c.status

/-- The wait does not end by a cancelled context, and if it fails the context lives until the last
of its calls: two for each message, one for the status and two for the terminal event. -/
def Undisturbed (ctx : Context) : List Seen → Nat → Prop
  | [], _ => True
  | .cancelled _ :: _, _ => False
  | .timer :: _, calls => ctx.alive (calls + 2) = true
  | .message res :: rest, calls =>
    if !res.finished then Undisturbed ctx rest (calls + 2)
    else res.success = true ∨ ctx.alive (calls + 4) = true

section Writes

variable {ctx : Context} {c : Console}

theorem Context.alive_of_le {m n : Nat} (le : m ≤ n) (later : ctx.alive n = true) :
    ctx.alive m = true := by
  unfold Context.alive at *
  cases cancelled : ctx.cancelledAt with
  | none => rfl
  | some limit =>
    rw [cancelled] at later
    simp only [Option.all_some, decide_eq_true_iff] at later ⊢
    omega

@[simp] theorem calls_publishProvision (evt : ProvisionEvent) :
    (c.publishProvision ctx evt).calls = c.calls + 2 := rfl

@[simp] theorem calls_markError (cause : String) : (c.markError ctx cause).calls = c.calls + 1 := rfl

/-- The same status, and the same terminal events. -/
structure SameRecord (c c' : Console) : Prop where
  status : c'.status = c.status
  provisionLog : c'.provisionLog.filter ProvisionEvent.terminal =
    c.provisionLog.filter ProvisionEvent.terminal
  published : c'.published.filter ProvisionEvent.terminal =
    c.published.filter ProvisionEvent.terminal

theorem sameRecord_publish {evt : ProvisionEvent} (quiet : evt.terminal = false) (ctx : Context)
    (c : Console) : SameRecord c (c.publishProvision ctx evt) := by
  unfold Console.publishProvision Console.call
  dsimp only
  constructor
  · split <;> split <;> rfl
  · split <;> split <;> simp [quiet]
  · split <;> split <;> simp [quiet]

theorem Recorded.behind {c c' after : Console} (same : SameRecord c c') :
    Recorded c' after ↔ Recorded c after := by
  constructor
  · rintro ⟨status, evt, terminal, log, published⟩
    exact ⟨status, evt, terminal, same.provisionLog ▸ log, same.published ▸ published⟩
  · rintro ⟨status, evt, terminal, log, published⟩
    exact ⟨status, evt, terminal, same.provisionLog ▸ log, same.published ▸ published⟩

/-- **The record of a failure is written just if the context lives until its last call.** -/
theorem recorded_fail_iff (ctx : Context) (cause message : String) (c : Console) :
    Recorded c (c.fail ctx cause message) ↔ ctx.alive (c.calls + 2) = true := by
  unfold Console.fail Console.publishProvision Console.markError Console.call
  dsimp only
  constructor
  · rintro ⟨-, evt, -, -, published⟩
    by_contra cancelled
    rw [if_neg cancelled] at published
    have lengths := congrArg List.length published
    rw [List.length_append, List.length_singleton] at lengths
    refine absurd lengths ?_
    split <;> split <;> simp
  · intro alive
    rw [if_pos (Context.alive_of_le (Nat.le_add_right c.calls 2) alive), if_pos alive,
      if_pos (Context.alive_of_le (Nat.le_succ (c.calls + 1)) alive)]
    refine ⟨rfl, failure message, rfl, ?_, ?_⟩
    · simp [failure]
    · simp [failure]

end Writes

section Last

variable {ctx : Context} {c : Console} {res : DeployOutput} (rest : List Seen)
  (finished : res.finished = true)

include finished

theorem accounted_of_success (success : res.success = true) :
    Accounted ctx (.message res :: rest) c := by
  have ends : awaitDeployHealthy ctx (.message res :: rest) c =
      (some true, (c.publishProvision ctx (phaseEvent res)).publishProvision ctx healthyEvent) := by
    simp [awaitDeployHealthy, finished, success]
  refine ⟨fun failed => ?_, fun _ => ?_⟩
  · rw [ends] at failed
    cases failed
  · rw [ends]
    exact (sameRecord_publish rfl ctx _).status.trans (sameRecord_publish rfl ctx c).status

theorem accounted_of_failure (failure : ¬ res.success = true) :
    Accounted ctx (.message res :: rest) c ↔ ctx.alive (c.calls + 4) = true := by
  have ends : awaitDeployHealthy ctx (.message res :: rest) c =
      (some false, (c.publishProvision ctx (phaseEvent res)).fail ctx
        ("deploy failed phase=" ++ res.phase ++ ": " ++ res.error)
        ("deploy failed: " ++ truncateOneLine res.error 240)) := by
    simp [awaitDeployHealthy, finished, failure]
  have written := recorded_fail_iff ctx ("deploy failed phase=" ++ res.phase ++ ": " ++ res.error)
    ("deploy failed: " ++ truncateOneLine res.error 240) (c.publishProvision ctx (phaseEvent res))
  have same : SameRecord c (c.publishProvision ctx (phaseEvent res)) :=
    sameRecord_publish rfl ctx c
  constructor
  · rintro ⟨failed, -⟩
    rw [ends] at failed
    exact written.mp ((Recorded.behind same).mpr (failed rfl))
  · intro alive
    refine ⟨fun _ => ?_, fun healthy => ?_⟩
    · rw [ends]
      exact (Recorded.behind same).mp (written.mpr alive)
    · rw [ends] at healthy
      cases healthy

end Last

theorem accounted_of_unfinished {ctx : Context} {c : Console} {res : DeployOutput}
    (rest : List Seen) (unfinished : res.finished = false) :
    Accounted ctx (.message res :: rest) c ↔
      Accounted ctx rest (c.publishProvision ctx (phaseEvent res)) := by
  have goes : awaitDeployHealthy ctx (.message res :: rest) c =
      awaitDeployHealthy ctx rest (c.publishProvision ctx (phaseEvent res)) := by
    simp [awaitDeployHealthy, unfinished]
  have same : SameRecord c (c.publishProvision ctx (phaseEvent res)) :=
    sameRecord_publish rfl ctx c
  constructor
  · rintro ⟨failed, healthy⟩
    rw [goes] at failed healthy
    exact ⟨fun no => (Recorded.behind same).mpr (failed no),
      fun yes => (healthy yes).trans same.status.symm⟩
  · rintro ⟨failed, healthy⟩
    refine ⟨fun no => ?_, fun yes => ?_⟩
    · rw [goes] at no ⊢
      exact (Recorded.behind same).mp (failed no)
    · rw [goes] at yes ⊢
      exact (healthy yes).trans same.status

/-- **When a wait is accounted for.** -/
theorem wait_recorded_iff (ctx : Context) (seen : List Seen) (c : Console) :
    Accounted ctx seen c ↔ Undisturbed ctx seen c.calls := by
  induction seen generalizing c with
  | nil => exact iff_of_true ⟨nofun, nofun⟩ trivial
  | cons first rest ih =>
    cases first with
    | cancelled err =>
      refine iff_of_false (fun accounted => ?_) not_false
      have written := (recorded_fail_iff .over ("await deploy: " ++ err)
        ("deploy aborted: " ++ err) c).mp (accounted.failed rfl)
      exact absurd written (by simp [Context.over, Context.alive])
    | timer =>
      have written := recorded_fail_iff ctx
        ("deploy did not become healthy within " ++ awaitTimeout)
        ("deploy timed out after " ++ awaitTimeout ++ " waiting for healthy") c
      exact ⟨fun accounted => written.mp (accounted.failed rfl),
        fun alive => ⟨fun _ => written.mpr alive, nofun⟩⟩
    | message res =>
      unfold Undisturbed
      cases finished : res.finished with
      | false =>
        rw [accounted_of_unfinished rest finished, ih]
        rfl
      | true =>
        by_cases success : res.success = true
        · exact iff_of_true (accounted_of_success rest finished success) (.inl success)
        · rw [accounted_of_failure rest finished success]
          exact (or_iff_right success).symm

/-! ### A cancelled context -/

/-- The container starts, and the agent gives up on its health check. -/
def unhealthy : List Seen :=
  [.message { deployID := some 1, targetID := some 2, phase := "starting" },
   .message { deployID := some 1, targetID := some 2, phase := "failed", finished := true,
              error := "health check timed out" }]

theorem unhealthy_recorded : Undisturbed {} unhealthy 0 ∧ Accounted {} unhealthy {} := by
  have alive : Undisturbed {} unhealthy 0 := by simp [unhealthy, Undisturbed, Context.alive]
  exact ⟨alive, (wait_recorded_iff {} unhealthy {}).mpr alive⟩

/-- The five minutes of the provision are over: the wait fails, and the row stays as it was. -/
theorem cancelled_wait_unrecorded :
    awaitDeployHealthy ⟨some 0⟩ [.cancelled "context deadline exceeded"] {} =
        (some false, { calls := 3 }) ∧
      ¬ Accounted ⟨some 0⟩ [.cancelled "context deadline exceeded"] {} := by
  have left : awaitDeployHealthy ⟨some 0⟩ [.cancelled "context deadline exceeded"] {} =
      (some false, { calls := 3 }) := rfl
  refine ⟨left, fun accounted => ?_⟩
  have recorded := accounted.failed (by rw [left])
  rw [left] at recorded
  exact absurd recorded.status (by decide)

end Nixway.Database
