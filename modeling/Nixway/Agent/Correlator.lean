/-
# Agent.Correlator -- a request waits for the one result that answers it

Four callers send a command to an agent and wait for its result: `dispatch` of
`internal/volume/service.go`, `ExecuteQuery`, `sendAlterUser` and
`RestoreFromBackup` of `internal/database`.  Each puts a one-slot channel under its
request id into a map, sends, waits for the channel, the context or the clock, and
deletes the id again when it returns.  The handler of the results takes the channel
out of the map and sends without blocking.  The four have one shape, `Correlator`.

A waiter and a handler are numbered; every mutex section, channel operation and
`SendToAgent` is one step, and the steps of all of them interleave in any order.
-/
import Mathlib.Algebra.Order.Ring.Int
import Mathlib.Logic.Function.Basic

namespace Nixway.Agent.Correlation

set_option autoImplicit false

/-! ## The four correlators -/

structure VolumeResult where
  requestID : String
  volumeID : String := ""
  success : Bool := true
  error : String := ""
  sizeBytes : Int := 0
  usedBytes : Int := 0
  snapshotPath : String := ""
deriving DecidableEq

structure DatabaseQueryResult where
  requestID : String
  success : Bool := true
  error : String := ""
  executionTimeMs : Int := 0
  columns : List (String × String) := []
  rows : List (List String × List Bool) := []
  affectedRows : Int := 0
  rawText : String := ""
  truncated : Bool := false

structure DatabaseAlterUserResult where
  requestID : String
  databaseID : String := ""
  success : Bool := true
  error : String := ""

structure RestoreResult where
  requestID : String
  backupID : String := ""
  success : Bool := true
  error : String := ""

/-- What one of the four has of its own: where a result keeps its request id, the
texts of its errors, and what it makes of a result it received. -/
structure Correlator (ρ : Type) where
  requestID : ρ → String
  sendError : String
  timeoutError : String
  accept : ρ → Except String ρ

def dispatch : Correlator VolumeResult where
  requestID := VolumeResult.requestID
  sendError := "send to agent: "
  timeoutError := "timed out waiting for agent result"
  accept := .ok

def executeQuery : Correlator DatabaseQueryResult where
  requestID := DatabaseQueryResult.requestID
  sendError := "send to agent: "
  timeoutError := "timed out waiting for agent query result"
  accept := .ok

def sendAlterUser : Correlator DatabaseAlterUserResult where
  requestID := DatabaseAlterUserResult.requestID
  sendError := "send to agent: "
  timeoutError := "timed out waiting for agent ALTER result"
  accept res := if res.success then .ok res else .error ("agent ALTER failed: " ++ res.error)

def restoreFromBackup : Correlator RestoreResult where
  requestID := RestoreResult.requestID
  sendError := "send restore to agent: "
  timeoutError := "timed out waiting for restore result"
  accept res := if res.success then .ok res else .error ("restore failed: " ++ res.error)

/-! ## Waiters and handlers -/

inductive Outcome (ρ : Type) where
  | refused (err : String)
  | sendFailed (err : String)
  | delivered (result : ρ)
  | cancelled (err : String)
  | timedOut
deriving DecidableEq

inductive Phase (ρ : Type) where
  | idle
  | sending
  | waiting
  /-- The result of the `select` is known, the deferred delete has not run. -/
  | leaving (outcome : Outcome ρ)
  | returned (outcome : Outcome ρ)
deriving DecidableEq

/-- Between the section that puts the channel into the map and the deferred one. -/
def Phase.registered {ρ : Type} : Phase ρ → Bool
  | .sending => true
  | .waiting => true
  | .leaving _ => true
  | _ => false

/-- A caller.  `buffer` is its channel.  `received` and `first` are history: what it
took from the channel, and the first result for its id whose handler ran while it was
registered; no step reads them. -/
structure Waiter (ρ : Type) where
  phase : Phase ρ := .idle
  buffer : Option ρ := none
  received : List ρ := []
  first : Option ρ := none

/-- A call of the handler, with the channel it took out of the map. -/
inductive Handling (ρ : Type) where
  | idle
  | pushing (result : ρ) (channel : Nat)
  | done

structure System (ρ : Type) where
  pending : String → Option Nat := fun _ => none
  waiters : Nat → Waiter ρ := fun _ => {}
  handlers : Nat → Handling ρ := fun _ => .idle

inductive Event (ρ : Type) where
  | refuse (i : Nat) (err : String)
  | register (i : Nat)
  | sent (i : Nat) (err : Option String)
  /-- The handler is called, up to the end of its mutex section. -/
  | arrive (h : Nat) (result : Option ρ)
  /-- The handler's `select`. -/
  | push (h : Nat)
  | receive (i : Nat)
  | timeOut (i : Nat)
  | cancel (i : Nat) (err : String)
  | cleanUp (i : Nat)

section Model

variable {ρ : Type} (c : Correlator ρ) (ids : Nat → String)

def System.setWaiter (sys : System ρ) (i : Nat) (w : Waiter ρ) : System ρ :=
  { sys with waiters := Function.update sys.waiters i w }

def System.setHandler (sys : System ρ) (h : Nat) (handling : Handling ρ) : System ρ :=
  { sys with handlers := Function.update sys.handlers h handling }

/-- A registered waiter keeps the first result that names its request. -/
def Waiter.observe (w : Waiter ρ) (result : ρ) : Waiter ρ :=
  if w.phase.registered then { w with first := w.first.or (some result) } else w

def System.observe (sys : System ρ) (result : ρ) : System ρ :=
  { sys with
    waiters := fun i =>
      if ids i = c.requestID result then (sys.waiters i).observe result else sys.waiters i }

/-- The mutex section of `HandleResult`. -/
def System.lookUp (sys : System ρ) (h : Nat) (result : ρ) : System ρ :=
  match sys.pending (c.requestID result) with
  | none => sys.setHandler h .done
  | some channel =>
    { sys with pending := Function.update sys.pending (c.requestID result) none }.setHandler h
      (.pushing result channel)

/-- `HandleResult` to the end of its mutex section. -/
def System.handleResult (sys : System ρ) (h : Nat) : Option ρ → System ρ
  | none => sys.setHandler h .done
  | some result =>
    if c.requestID result = "" then sys.setHandler h .done
    else (sys.observe c ids result).lookUp c h result

/-- The non-blocking send into a channel with one slot. -/
def Waiter.offer (w : Waiter ρ) (result : ρ) : Waiter ρ :=
  match w.buffer with
  | none => { w with buffer := some result }
  | some _ => w

def System.step (sys : System ρ) : Event ρ → System ρ
  | .refuse i err =>
    match (sys.waiters i).phase with
    | .idle => sys.setWaiter i { sys.waiters i with phase := .returned (.refused err) }
    | _ => sys
  | .register i =>
    match (sys.waiters i).phase with
    | .idle =>
      { sys with pending := Function.update sys.pending (ids i) (some i) }.setWaiter i
        { sys.waiters i with phase := .sending }
    | _ => sys
  | .sent i err =>
    match (sys.waiters i).phase with
    | .sending =>
      match err with
      | none => sys.setWaiter i { sys.waiters i with phase := .waiting }
      | some err => sys.setWaiter i { sys.waiters i with phase := .leaving (.sendFailed err) }
    | _ => sys
  | .arrive h result =>
    match sys.handlers h with
    | .idle => sys.handleResult c ids h result
    | _ => sys
  | .push h =>
    match sys.handlers h with
    | .pushing result channel =>
      (sys.setWaiter channel ((sys.waiters channel).offer result)).setHandler h .done
    | _ => sys
  | .receive i =>
    match (sys.waiters i).phase, (sys.waiters i).buffer with
    | .waiting, some result =>
      sys.setWaiter i
        { sys.waiters i with
          phase := .leaving (.delivered result)
          buffer := none
          received := (sys.waiters i).received ++ [result] }
    | _, _ => sys
  | .timeOut i =>
    match (sys.waiters i).phase with
    | .waiting => sys.setWaiter i { sys.waiters i with phase := .leaving .timedOut }
    | _ => sys
  | .cancel i err =>
    match (sys.waiters i).phase with
    | .waiting => sys.setWaiter i { sys.waiters i with phase := .leaving (.cancelled err) }
    | _ => sys
  | .cleanUp i =>
    match (sys.waiters i).phase with
    | .leaving outcome =>
      { sys with pending := Function.update sys.pending (ids i) none }.setWaiter i
        { sys.waiters i with phase := .returned outcome }
    | _ => sys

def System.run (sys : System ρ) (events : List (Event ρ)) : System ρ :=
  events.foldl (System.step c ids) sys

end Model

/-! ## The property -/

/-- **Exact correlation.**  A waiter takes at most one result, one for its own id,
and the first that arrived while it was registered; that result is not dropped while
the waiter waits; a handler that holds a channel ends with its next step, and that
step puts the result into the channel; and the id of a waiter that has returned is
not in the map. -/
structure Exact {ρ : Type} (c : Correlator ρ) (ids : Nat → String) (sys : System ρ) :
    Prop where
  once : ∀ i, (sys.waiters i).received.length ≤ 1
  own : ∀ i, ∀ result ∈ (sys.waiters i).received, c.requestID result = ids i
  first : ∀ i, ∀ result ∈ (sys.waiters i).received, (sys.waiters i).first = some result
  delivered : ∀ i result,
    (sys.waiters i).phase = .returned (.delivered result) ↔
      (∃ outcome, (sys.waiters i).phase = .returned outcome) ∧
        (sys.waiters i).received = [result]
  kept : ∀ i result, (sys.waiters i).phase = .waiting → (sys.waiters i).first = some result →
    (sys.waiters i).buffer = some result ∨ ∃ h, sys.handlers h = .pushing result i
  unblocked : ∀ h result i, sys.handlers h = .pushing result i →
    (sys.step c ids (.push h)).handlers h = .done ∧
      ((sys.step c ids (.push h)).waiters i).buffer = some result
  forgotten : ∀ i outcome, (sys.waiters i).phase = .returned outcome →
    sys.pending (ids i) = none

/-! ## The invariant -/

structure Tracked {ρ : Type} (c : Correlator ρ) (ids : Nat → String) (sys : System ρ) :
    Prop where
  entry : ∀ x i, sys.pending x = some i →
    ids i = x ∧ (sys.waiters i).phase.registered ∧ (sys.waiters i).first = none
  awaiting : ∀ i, (sys.waiters i).phase.registered → (sys.waiters i).first = none →
    sys.pending (ids i) = some i
  unregistered : ∀ i, (sys.waiters i).phase = .idle → (sys.waiters i).first = none
  answers : ∀ i result, (sys.waiters i).first = some result → c.requestID result = ids i
  pushing : ∀ h result i, sys.handlers h = .pushing result i →
    (sys.waiters i).first = some result ∧ (sys.waiters i).buffer = none ∧
      (sys.waiters i).received = []
  single : ∀ h h' result result' i, sys.handlers h = .pushing result i →
    sys.handlers h' = .pushing result' i → h = h'
  buffered : ∀ i result, (sys.waiters i).buffer = some result →
    (sys.waiters i).first = some result ∧ (sys.waiters i).received = []
  received : ∀ i, (sys.waiters i).received = [] ∨
    ∃ result, (sys.waiters i).received = [result] ∧ (sys.waiters i).first = some result ∧
      ((sys.waiters i).phase = .leaving (.delivered result) ∨
        (sys.waiters i).phase = .returned (.delivered result))
  taken : ∀ i result, (sys.waiters i).phase = .leaving (.delivered result) ∨
    (sys.waiters i).phase = .returned (.delivered result) → (sys.waiters i).received = [result]
  kept : ∀ i result, (sys.waiters i).first = some result → (sys.waiters i).received = [] →
    (sys.waiters i).buffer = some result ∨ ∃ h, sys.handlers h = .pushing result i

section Steps

variable {ρ : Type} {c : Correlator ρ} {ids : Nat → String} {sys : System ρ}

theorem tracked_initial : Tracked c ids ({} : System ρ) := by
  constructor <;> simp [Phase.registered]

/-- Steps that move one waiter between phases and touch neither map nor channel. -/
theorem Tracked.setPhase (inv : Tracked c ids sys) {i : Nat} {phase : Phase ρ}
    (before : (sys.waiters i).phase = .sending ∨ (sys.waiters i).phase = .waiting)
    (after : phase.registered) (undelivered : ∀ result, phase ≠ .leaving (.delivered result)) :
    Tracked c ids (sys.setWaiter i { sys.waiters i with phase := phase }) := by
  cases inv
  constructor <;> simp only [System.setWaiter, Function.update_apply] <;>
    grind -ring -linarith [Phase.registered]

theorem tracked_refuse (inv : Tracked c ids sys) (i : Nat) (err : String) :
    Tracked c ids (sys.step c ids (.refuse i err)) := by
  simp only [System.step]
  split
  · next idle =>
    cases inv
    constructor <;> simp only [System.setWaiter, Function.update_apply] <;>
      grind -ring -linarith [Phase.registered]
  · exact inv

theorem tracked_register (distinct : Function.Injective ids) (inv : Tracked c ids sys) (i : Nat) :
    Tracked c ids (sys.step c ids (.register i)) := by
  simp only [System.step]
  split
  · next idle =>
    have same : ∀ j, ids j = ids i → j = i := fun j equal => distinct equal
    cases inv
    constructor <;> simp only [System.setWaiter, Function.update_apply] <;>
      grind -ring -linarith [Phase.registered]
  · exact inv

theorem tracked_sent (inv : Tracked c ids sys) (i : Nat) (err : Option String) :
    Tracked c ids (sys.step c ids (.sent i err)) := by
  simp only [System.step]
  split
  · next sending =>
    cases err with
    | none => exact inv.setPhase (.inl sending) rfl (by simp)
    | some err => exact inv.setPhase (.inl sending) rfl (by simp)
  · exact inv

theorem tracked_timeOut (inv : Tracked c ids sys) (i : Nat) :
    Tracked c ids (sys.step c ids (.timeOut i)) := by
  simp only [System.step]
  split
  · next waiting => exact inv.setPhase (.inr waiting) rfl (by simp)
  · exact inv

theorem tracked_cancel (inv : Tracked c ids sys) (i : Nat) (err : String) :
    Tracked c ids (sys.step c ids (.cancel i err)) := by
  simp only [System.step]
  split
  · next waiting => exact inv.setPhase (.inr waiting) rfl (by simp)
  · exact inv

theorem Tracked.ignore (inv : Tracked c ids sys) {h : Nat} (idle : sys.handlers h = .idle) :
    Tracked c ids (sys.setHandler h .done) := by
  cases inv
  constructor <;> simp only [System.setHandler, Function.update_apply] <;> grind -ring -linarith

/-- A result whose id is not in the map: a registered waiter has its first result already. -/
theorem observe_of_unknown (inv : Tracked c ids sys) {result : ρ}
    (unknown : sys.pending (c.requestID result) = none) : sys.observe c ids result = sys := by
  have unchanged : ∀ i, ids i = c.requestID result →
      (sys.waiters i).observe result = sys.waiters i := by
    intro i named
    have seen : (sys.waiters i).phase.registered → (sys.waiters i).first ≠ none := by
      intro registered unseen
      have present := inv.awaiting i registered unseen
      rw [named, unknown] at present
      cases present
    unfold Waiter.observe
    split
    · next registered =>
      obtain ⟨earlier, known⟩ := Option.ne_none_iff_exists'.mp (seen registered)
      rw [known]
      show { sys.waiters i with first := some earlier } = sys.waiters i
      rw [← known]
    · rfl
  cases sys with
  | mk pending waiters handlers =>
    simp only [System.observe, System.mk.injEq, true_and, and_true]
    funext i
    split
    · next named => exact unchanged i named
    · rfl

theorem Tracked.untouched (inv : Tracked c ids sys) {i : Nat}
    (unseen : (sys.waiters i).first = none) :
    (sys.waiters i).buffer = none ∧ (sys.waiters i).received = [] := by
  constructor
  · by_contra full
    obtain ⟨result, full⟩ := Option.ne_none_iff_exists'.mp full
    have first := (inv.buffered i result full).1
    rw [unseen] at first
    cases first
  · obtain none | ⟨result, -, first, -⟩ := inv.received i
    · exact none
    · rw [unseen] at first
      cases first

/-- A result whose id is in the map is the first one, and goes to the waiter of its id. -/
theorem Tracked.claim (distinct : Function.Injective ids) (inv : Tracked c ids sys) {h i : Nat}
    {result : ρ} (idle : sys.handlers h = .idle)
    (found : sys.pending (c.requestID result) = some i) :
    Tracked c ids ((sys.observe c ids result).lookUp c h result) := by
  have same : ∀ j, ids j = c.requestID result → j = i := by
    intro j named
    exact distinct (named.trans (inv.entry _ _ found).1.symm)
  obtain ⟨named, registered, unseen⟩ := inv.entry _ _ found
  have lookUp : (sys.observe c ids result).lookUp c h result =
      { pending := Function.update sys.pending (c.requestID result) none
        waiters := Function.update sys.waiters i { sys.waiters i with first := some result }
        handlers := Function.update sys.handlers h (.pushing result i) } := by
    have observed : (fun j => if ids j = c.requestID result then (sys.waiters j).observe result
        else sys.waiters j) =
        Function.update sys.waiters i { sys.waiters i with first := some result } := by
      funext j
      by_cases here : j = i
      · subst here
        simp [named, Waiter.observe, registered, unseen]
      · have other : ids j ≠ c.requestID result := fun equal => here (same j equal)
        simp [here, other]
    simp [System.lookUp, System.observe, found, System.setHandler, observed]
  rw [lookUp]
  clear lookUp
  obtain ⟨empty, fresh⟩ := inv.untouched unseen
  obtain ⟨entry, awaiting, unregistered, answers, pushing, single, buffered, received, taken,
    kept⟩ := inv
  constructor
  case kept =>
    intro j other first undelivered
    by_cases here : j = i
    · subst here
      obtain rfl : result = other := by simpa using first
      exact .inr ⟨h, by simp⟩
    · simp only [Function.update_apply, here, if_false] at first undelivered ⊢
      obtain full | ⟨k, pushed⟩ := kept j other first undelivered
      · exact .inl full
      · have busy : k ≠ h := by
          rintro rfl
          rw [idle] at pushed
          cases pushed
        exact .inr ⟨k, by simpa [busy] using pushed⟩
  all_goals
    simp only [Function.update_apply]
    grind -ring -linarith [Phase.registered]

theorem tracked_arrive (distinct : Function.Injective ids) (inv : Tracked c ids sys) (h : Nat)
    (result : Option ρ) : Tracked c ids (sys.step c ids (.arrive h result)) := by
  simp only [System.step]
  split
  · next idle =>
    match result with
    | none => exact inv.ignore idle
    | some result =>
      simp only [System.handleResult]
      split
      · exact inv.ignore idle
      · match found : sys.pending (c.requestID result) with
        | none =>
          rw [observe_of_unknown inv found]
          simpa only [System.lookUp, found] using inv.ignore idle
        | some i => exact inv.claim distinct idle found
  · exact inv

theorem tracked_push (inv : Tracked c ids sys) (h : Nat) :
    Tracked c ids (sys.step c ids (.push h)) := by
  simp only [System.step]
  split
  · next result i pushing =>
    have empty := (inv.pushing h result i pushing).2.1
    simp only [Waiter.offer, empty]
    cases inv
    constructor <;> simp only [System.setWaiter, System.setHandler, Function.update_apply] <;>
      grind -ring -linarith
  · exact inv

theorem tracked_receive (inv : Tracked c ids sys) (i : Nat) :
    Tracked c ids (sys.step c ids (.receive i)) := by
  simp only [System.step]
  split
  · next result waiting full =>
    have empty := (inv.buffered i result full).2
    simp only [empty, List.nil_append]
    cases inv
    constructor <;> simp only [System.setWaiter, Function.update_apply] <;>
      grind -ring -linarith [Phase.registered]
  · exact inv

theorem tracked_cleanUp (distinct : Function.Injective ids) (inv : Tracked c ids sys) (i : Nat) :
    Tracked c ids (sys.step c ids (.cleanUp i)) := by
  simp only [System.step]
  split
  · next outcome leaving =>
    have same : ∀ j, ids j = ids i → j = i := fun j equal => distinct equal
    cases inv
    constructor <;> simp only [System.setWaiter, Function.update_apply] <;>
      grind -ring -linarith [Phase.registered]
  · exact inv

theorem tracked_step (distinct : Function.Injective ids) (inv : Tracked c ids sys)
    (event : Event ρ) : Tracked c ids (sys.step c ids event) := by
  cases event with
  | refuse i err => exact tracked_refuse inv i err
  | register i => exact tracked_register distinct inv i
  | sent i err => exact tracked_sent inv i err
  | arrive h result => exact tracked_arrive distinct inv h result
  | push h => exact tracked_push inv h
  | receive i => exact tracked_receive inv i
  | timeOut i => exact tracked_timeOut inv i
  | cancel i err => exact tracked_cancel inv i err
  | cleanUp i => exact tracked_cleanUp distinct inv i

theorem tracked_run (distinct : Function.Injective ids) (inv : Tracked c ids sys)
    (events : List (Event ρ)) : Tracked c ids (sys.run c ids events) := by
  induction events generalizing sys with
  | nil => exact inv
  | cons event rest ih => exact ih (tracked_step distinct inv event)

/-! ## What the invariant says -/

theorem Tracked.unblocked (inv : Tracked c ids sys) {h i : Nat} {result : ρ}
    (pushing : sys.handlers h = .pushing result i) :
    (sys.step c ids (.push h)).handlers h = .done ∧
      ((sys.step c ids (.push h)).waiters i).buffer = some result := by
  have empty := (inv.pushing h result i pushing).2.1
  simp [System.step, pushing, System.setHandler, System.setWaiter, Waiter.offer, empty]

theorem Tracked.forgotten (distinct : Function.Injective ids) (inv : Tracked c ids sys) {i : Nat}
    {outcome : Outcome ρ} (returned : (sys.waiters i).phase = .returned outcome) :
    sys.pending (ids i) = none := by
  by_contra present
  obtain ⟨j, entry⟩ := Option.ne_none_iff_exists'.mp present
  obtain ⟨same, registered, -⟩ := inv.entry _ _ entry
  obtain rfl := distinct same
  rw [returned] at registered
  cases registered

theorem Tracked.exact (distinct : Function.Injective ids) (inv : Tracked c ids sys) :
    Exact c ids sys where
  once i := by
    obtain none | ⟨result, one, -⟩ := inv.received i
    · simp [none]
    · simp [one]
  own i result taken := by
    obtain none | ⟨only, one, first, -⟩ := inv.received i
    · simp [none] at taken
    · obtain rfl : result = only := by simpa [one] using taken
      exact inv.answers i result first
  first i result taken := by
    obtain none | ⟨only, one, first, -⟩ := inv.received i
    · simp [none] at taken
    · obtain rfl : result = only := by simpa [one] using taken
      exact first
  delivered i result := by
    constructor
    · intro returned
      exact ⟨⟨_, returned⟩, inv.taken i result (.inr returned)⟩
    · rintro ⟨⟨outcome, returned⟩, one⟩
      obtain none | ⟨only, alone, -, leaving | delivered⟩ := inv.received i
      · simp [none] at one
      · rw [leaving] at returned
        cases returned
      · obtain rfl : only = result := by simpa [alone] using one
        exact delivered
  kept i result waiting first := by
    apply inv.kept i result first
    obtain none | ⟨only, -, -, leaving | delivered⟩ := inv.received i
    · exact none
    · rw [waiting] at leaving
      cases leaving
    · rw [waiting] at delivered
      cases delivered
  unblocked h result i pushing := inv.unblocked pushing
  forgotten i outcome returned := inv.forgotten distinct returned

end Steps

/-- **Request/response correlation is exact** in the volume, query, alter-user and
restore correlators: for any number of requests with distinct ids, in every state of
every interleaving of their registrations, sends, results, timeouts and
cancellations. -/
theorem correlation_exact (ids : Nat → String) (distinct : Function.Injective ids) :
    (∀ events, Exact dispatch ids (System.run dispatch ids {} events)) ∧
    (∀ events, Exact executeQuery ids (System.run executeQuery ids {} events)) ∧
    (∀ events, Exact sendAlterUser ids (System.run sendAlterUser ids {} events)) ∧
    (∀ events, Exact restoreFromBackup ids (System.run restoreFromBackup ids {} events)) := by
  refine ⟨?_, ?_, ?_, ?_⟩
  all_goals
    intro events
    exact (tracked_run distinct tracked_initial events).exact distinct

def numbered (i : Nat) : String := String.ofList (List.replicate i 'r')

theorem numbered_injective : Function.Injective numbered := by
  intro i j equal
  have lengths := congrArg (fun s => s.toList.length) equal
  simpa [numbered] using lengths

/-- A result that overtakes the send's return, and its duplicate. -/
def answeredTwice : List (Event VolumeResult) :=
  [.register 1, .arrive 0 (some { requestID := "r", sizeBytes := 7 }),
    .arrive 1 (some { requestID := "r", sizeBytes := 9 }), .sent 1 none, .push 0, .push 1,
    .receive 1, .cleanUp 1]

theorem correlation_exact_answeredTwice :
    Function.Injective numbered ∧
      ((System.run dispatch numbered {} answeredTwice).waiters 1).phase =
        .returned (.delivered { requestID := "r", sizeBytes := 7 }) ∧
      Exact dispatch numbered (System.run dispatch numbered {} answeredTwice) :=
  ⟨numbered_injective, by decide +kernel,
    (correlation_exact numbered numbered_injective).1 answeredTwice⟩

end Nixway.Agent.Correlation
