/-
# Agent.ContainerExec -- a container terminal as a pipe

One terminal from the moment the agent has received its `ContainerExecCommand`.  On the agent
`receiveLoop` has started `HandleContainerExecCommand` as a goroutine and hands every input that
follows to `RouteExecInput` at once; in the control plane `Connect` of
`internal/api/handler/container_terminal.go` passes on what the browser sends, and `Connect` of
`internal/agent/server.go` publishes what the agent sends, which a goroutine of the first writes
to the browser.  The session and the channel are keyed by an id drawn for the terminal, so that
other terminals touch neither.  What is published reaches the subscriber, in order.

An input or a close that arrives before the session is stored is dropped, a binary frame that
reads as JSON is taken for a message, and a chunk of output that is the end marker ends the
session in the browser.  `faithful_pipe` is the condition: along every run without these the
terminal is a faithful pipe.
-/
import Nixway.Theory.Runs

namespace Nixway.Agent.ContainerExec

open Nixway.Theory

set_option autoImplicit false

abbrev Bytes := List UInt8

def utf8 (text : String) : Bytes := text.toUTF8.data.toList

/-! ## Messages -/

/-- A frame of the browser. -/
structure Frame where
  binary : Bool := false
  payload : Bytes
deriving DecidableEq

/-- `wsMessage`. -/
structure WsMessage where
  type : String := ""
  data : String := ""
  cols : Int := 0
  rows : Int := 0

structure ContainerExecInput where
  data : Bytes := []
  cols : Int := 0
  rows : Int := 0
  close : Bool := false

structure ContainerExecOutput where
  data : Bytes := []
  finished : Bool := false

/-- What is written to the browser. -/
inductive Written where
  | binary (data : Bytes)
  | text (data : Bytes)
  | close
deriving DecidableEq

/-- The payload that ends a session. -/
def doneMarker : Bytes := utf8 "__done__"

/-- The end of a session, as the browser sees it. -/
def sessionEnded : List Written := [.text (utf8 "\r\nSession ended.\r\n"), .close]

-- `decode` reads a payload as JSON, as `json.Unmarshal` does.
variable (decode : Bytes → Option WsMessage)

/-- The reading loop of the control plane: what a frame is passed on as.  Whether it is a binary
frame is not looked at. -/
def relayed (frame : Frame) : Option ContainerExecInput :=
  match decode frame.payload with
  | none => some { data := frame.payload }
  | some msg =>
    if msg.type = "input" then some { data := utf8 msg.data }
    else if msg.type = "resize" ∧ 0 < msg.cols ∧ 0 < msg.rows then
      some { cols := msg.cols, rows := msg.rows }
    else none

/-- The input a frame carries: a binary frame is raw input, a text frame is a message, or raw
input if it is none. -/
def Frame.input (frame : Frame) : Bytes :=
  if frame.binary then frame.payload
  else
    match decode frame.payload with
    | none => frame.payload
    | some msg => if msg.type = "input" then utf8 msg.data else []

/-! ## The terminal -/

inductive Process where
  | absent | running | ended
deriving DecidableEq

/-- Where `HandleContainerExecCommand` stands: before `Start`, before the session is stored,
reading, before `Wait`, before the session is deleted, before the last output. -/
inductive Handler where
  | starting | storing | reading | waiting | deleting | finishing | done
deriving DecidableEq

structure Terminal where
  handler : Handler := .starting
  process : Process := .absent
  /-- The session is in `execSessions`. -/
  stored : Bool := false
  /-- What was written to the process's standard input. -/
  stdin : Bytes := []
  stdinClosed : Bool := false
  /-- The context of the session was cancelled. -/
  cancelled : Bool := false
  /-- The agent has received the close. -/
  closed : Bool := false
  outputs : List ContainerExecOutput := []
  channel : List Bytes := []
  /-- The goroutine that writes to the browser still reads its channel. -/
  relaying : Bool := true
  /-- The browser has left. -/
  left : Bool := false
  browser : List Written := []
  /-- The chunks of output that were read. -/
  chunks : List Bytes := []

/-- What a step of the handler meets: `read` is a chunk of output. -/
inductive Outcome where
  | works
  | fails
  | read (data : Bytes)
deriving DecidableEq

inductive Move where
  | frame (frame : Frame)
  | close
  | turn (o : Outcome)
  /-- The process ends by itself. -/
  | exit
  /-- The process is killed, as its context is cancelled. -/
  | kill
  /-- The control plane publishes the next output. -/
  | publish
  /-- The next payload is written to the browser. -/
  | relay
  | leave
deriving DecidableEq

namespace Terminal

/-- A write to the process's standard input. -/
def write (s : Terminal) (data : Bytes) : Terminal :=
  if s.process = .running ∧ s.stdinClosed = false then { s with stdin := s.stdin ++ data } else s

/-- `RouteExecInput`. -/
def routeExecInput (s : Terminal) (input : ContainerExecInput) : Terminal :=
  if s.stored = false then s
  else if input.close then { s with stdinClosed := true, cancelled := true }
  else if 0 < input.data.length then s.write input.data
  else s

/-- A chunk that was read goes to the control plane. -/
def sendOutput (s : Terminal) (data : Bytes) : Terminal :=
  if 0 < data.length then
    { s with outputs := s.outputs ++ [{ data := data }], chunks := s.chunks ++ [data] }
  else s

def finish (s : Terminal) : Terminal :=
  { s with outputs := s.outputs ++ [{ finished := true }], handler := .done }

/-- The next step of `HandleContainerExecCommand`.  The end of the output is read, and `Wait`
returns, once the process has ended. -/
def turn (s : Terminal) (o : Outcome) : Terminal :=
  match s.handler with
  | .starting =>
    match o with
    | .works => { s with process := .running, handler := .storing }
    | .fails => s.finish
    | .read _ => s
  | .storing => { s with stored := true, handler := .reading }
  | .reading =>
    match o with
    | .works => if s.process = .ended then { s with handler := .waiting } else s
    | .fails => { s with handler := .waiting }
    | .read data => s.sendOutput data
  | .waiting => if s.process = .ended then { s with handler := .deleting } else s
  | .deleting => { s with stored := false, cancelled := true, handler := .finishing }
  | .finishing => s.finish
  | .done => s

def endProcess (s : Terminal) : Terminal :=
  if s.process = .running then { s with process := .ended } else s

end Terminal

def published (output : ContainerExecOutput) : List Bytes :=
  (if 0 < output.data.length then [output.data] else []) ++
    if output.finished then [doneMarker] else []

namespace Terminal

def publish (s : Terminal) : Terminal :=
  match s.outputs with
  | [] => s
  | output :: rest => { s with outputs := rest, channel := s.channel ++ published output }

/-- The goroutine that writes to the browser. -/
def relay (s : Terminal) : Terminal :=
  if s.relaying = false then s
  else
    match s.channel with
    | [] => s
    | payload :: rest =>
      if payload = doneMarker then
        { s with channel := rest, browser := s.browser ++ sessionEnded, relaying := false }
      else { s with channel := rest, browser := s.browser ++ [.binary payload] }

def step (s : Terminal) : Move → Terminal
  | .frame frame =>
    if s.closed then s
    else
      match relayed decode frame with
      | none => s
      | some input => s.routeExecInput input
  | .close => if s.closed then s else { s with closed := true }.routeExecInput { close := true }
  | .turn o => s.turn o
  | .exit => s.endProcess
  | .kill => if s.cancelled then s.endProcess else s
  | .publish => s.publish
  | .relay => s.relay
  | .leave => { s with relaying := false, left := true }

def run (s : Terminal) (moves : List Move) : Terminal := moves.foldl (step decode) s

end Terminal

/-! ## The condition -/

/-- The handler has stored the session, or failed before. -/
def Terminal.Ready (s : Terminal) : Prop := s.handler ≠ .starting ∧ s.handler ≠ .storing

/-- **The condition.**  An input or a close finds the session stored, a binary frame does not
read as a message, and a chunk of output is not the end marker. -/
def Unmistaken (s : Terminal) : Move → Prop
  | .frame frame => s.Ready ∧ (frame.binary = true → decode frame.payload = none)
  | .close => s.Ready
  | .turn (.read data) => data ≠ doneMarker
  | _ => True

instance (s : Terminal) (move : Move) : Decidable (Unmistaken decode s move) :=
  match move with
  | .frame _ => inferInstanceAs (Decidable ((_ ∧ _) ∧ (_ → _)))
  | .close => inferInstanceAs (Decidable (_ ∧ _))
  | .turn (.read _) => inferInstanceAs (Decidable (_ ≠ _))
  | .turn .works | .turn .fails | .exit | .kill | .publish | .relay | .leave => isTrue trivial

/-- The inputs sent before the close, one after the other. -/
def inputs : List Move → Bytes
  | [] => []
  | .close :: _ => []
  | .frame frame :: moves => frame.input decode ++ inputs moves
  | _ :: moves => inputs moves

/-- Nothing is left to happen by itself. -/
def Terminal.Quiescent (s : Terminal) : Prop :=
  ∀ move ∈ [.turn .works, .kill, .publish, .relay], s.step decode move = s

/-- The terminal is a faithful pipe after these moves. -/
structure FaithfulPipe (moves : List Move) (s : Terminal) : Prop where
  /-- A process that runs was written the inputs sent before the close. -/
  written : s.process = .running → s.stdin = inputs decode moves
  /-- A close has the process killed. -/
  cancelled : .close ∈ moves → s.process = .running → s.cancelled = true
  /-- A close ends the session. -/
  closes : .close ∈ moves → s.Quiescent decode →
    s.process ≠ .running ∧ s.stored = false ∧ s.handler = .done
  /-- The browser is sent the chunks in order, and no end before them. -/
  shown : s.left = false → s.browser <+: s.chunks.map .binary ++ sessionEnded
  /-- Once the process is gone the browser is sent all of them and one end. -/
  ended : s.left = false → s.Quiescent decode → s.process ≠ .running →
    s.browser = s.chunks.map .binary ++ sessionEnded

/-! ## The agent's side -/

/-- What is known of the session; `typed` is what was sent before the close. -/
structure Piped (typed : Bytes) (s : Terminal) : Prop where
  stored : s.stored = true ↔ s.handler = .reading ∨ s.handler = .waiting ∨ s.handler = .deleting
  running : s.process = .running →
    s.handler = .storing ∨ s.handler = .reading ∨ s.handler = .waiting
  absent : s.process = .absent → s.handler = .starting ∨ s.handler = .done
  untouched : s.handler = .starting ∨ s.handler = .storing →
    typed = [] ∧ s.stdin = [] ∧ s.stdinClosed = false ∧ s.closed = false
  written : s.process = .running → s.stdin = typed ∧ s.stdinClosed = s.closed
  cancelled : s.process = .running → s.closed = true → s.cancelled = true

variable {decode}

theorem relayed_eq {frame : Frame} (mild : frame.binary = true → decode frame.payload = none) :
    ((relayed decode frame).map ContainerExecInput.data).getD [] = frame.input decode := by
  unfold relayed Frame.input
  cases binary : frame.binary with
  | true =>
    rw [mild binary]
    rfl
  | false =>
    cases decode frame.payload with
    | none => rfl
    | some msg =>
      simp only [Bool.false_eq_true, if_false]
      by_cases input : msg.type = "input"
      · simp only [if_pos input]
        rfl
      · simp only [if_neg input]
        split <;> rfl

/-- A frame is never passed on as a close. -/
theorem relayed_close {frame : Frame} {input : ContainerExecInput}
    (passed : relayed decode frame = some input) : input.close = false := by
  unfold relayed at passed
  split at passed
  · cases passed
    rfl
  · split at passed
    · cases passed
      rfl
    · split at passed
      · cases passed
        rfl
      · cases passed

namespace Terminal

theorem write_eq (s : Terminal) (data : Bytes) : ∃ stdin, s.write data = { s with stdin := stdin } ∧
    (s.process = .running → s.stdinClosed = false → stdin = s.stdin ++ data) := by
  unfold write
  by_cases opens : s.process = .running ∧ s.stdinClosed = false
  · rw [if_pos opens]
    exact ⟨_, rfl, fun _ _ => rfl⟩
  · rw [if_neg opens]
    exact ⟨_, rfl, fun running isOpen => absurd ⟨running, isOpen⟩ opens⟩

/-- An input changes the standard input, and that of a stored session as it says. -/
theorem routeExecInput_eq (s : Terminal) {input : ContainerExecInput} (opens : input.close = false) :
    ∃ stdin, s.routeExecInput input = { s with stdin := stdin } ∧
      (s.stored = true → s.process = .running → s.stdinClosed = false →
        stdin = s.stdin ++ input.data) := by
  unfold routeExecInput
  by_cases stored : s.stored = false
  · rw [if_pos stored]
    exact ⟨_, rfl, fun isStored => absurd (stored.symm.trans isStored) Bool.false_ne_true⟩
  · rw [if_neg stored, opens, if_neg Bool.false_ne_true]
    by_cases some : 0 < input.data.length
    · rw [if_pos some]
      obtain ⟨stdin, same, written⟩ := s.write_eq input.data
      exact ⟨stdin, same, fun _ => written⟩
    · rw [if_neg some]
      have nothing : input.data = [] := by simpa using some
      exact ⟨_, rfl, fun _ _ _ => by rw [nothing, List.append_nil]⟩

end Terminal

/-- What a move enters, by itself. -/
def Move.input (decode : Bytes → Option WsMessage) : Move → Bytes
  | .frame sent => sent.input decode
  | _ => []

def entered (decode : Bytes → Option WsMessage) (s : Terminal) (move : Move) : Bytes :=
  if s.closed then [] else move.input decode

namespace Piped

variable {typed : Bytes} {s : Terminal}

theorem init : Piped [] {} where
  stored := by decide
  running running := by cases running
  absent _ := .inl rfl
  untouched _ := ⟨rfl, rfl, rfl, rfl⟩
  written running := by cases running
  cancelled running := by cases running

/-- A process that runs and is ready has its session stored. -/
theorem stored_of_running (piped : Piped typed s) (ready : s.Ready) (running : s.process = .running) :
    s.stored = true := by
  refine piped.stored.mpr ?_
  rcases piped.running running with early | reading | waiting
  · exact absurd early ready.2
  · exact .inl reading
  · exact .inr (.inl waiting)

theorem enter (piped : Piped typed s) (ready : s.Ready) (opens : s.closed = false) {data stdin : Bytes}
    (written : s.stored = true → s.process = .running → s.stdinClosed = false →
      stdin = s.stdin ++ data) :
    Piped (typed ++ data) { s with stdin := stdin } where
  stored := piped.stored
  running := piped.running
  absent := piped.absent
  untouched early := early.elim (fun same => absurd same ready.1) fun same => absurd same ready.2
  written running := by
    obtain ⟨same, closed⟩ := piped.written running
    exact ⟨by rw [written (piped.stored_of_running ready running) running (closed.trans opens), same],
      closed⟩
  cancelled := piped.cancelled

/-- A frame that is passed on as it is meant is written as it is meant. -/
theorem frame (piped : Piped typed s) {sent : Frame} (opens : s.closed = false)
    (meets : Unmistaken decode s (.frame sent)) :
    Piped (typed ++ sent.input decode) (s.step decode (.frame sent)) := by
  obtain ⟨ready, mild⟩ := meets
  have meant := relayed_eq mild
  simp only [Terminal.step, opens, Bool.false_eq_true, if_false]
  cases passed : relayed decode sent with
  | none =>
    rw [passed] at meant
    exact piped.enter ready opens fun _ _ _ => by rw [← meant]; exact (List.append_nil _).symm
  | some input =>
    rw [passed] at meant
    obtain ⟨stdin, same, written⟩ := s.routeExecInput_eq (relayed_close passed)
    rw [← meant]
    show Piped _ (s.routeExecInput input)
    rw [same]
    exact piped.enter ready opens written

/-- A close finds the session stored, or the process gone. -/
theorem close (piped : Piped typed s) (ready : s.Ready) : Piped typed (s.step decode .close) := by
  have late : ∀ {p : Prop}, s.handler = .starting ∨ s.handler = .storing → p :=
    fun early => early.elim (fun same => absurd same ready.1) fun same => absurd same ready.2
  cases closed : s.closed with
  | true => simpa only [Terminal.step, closed, if_true] using piped
  | false =>
    simp only [Terminal.step, closed, Bool.false_eq_true, if_false, Terminal.routeExecInput]
    by_cases stored : s.stored = false
    · rw [if_pos stored]
      refine ⟨piped.stored, piped.running, piped.absent, late, fun running => ?_, fun running => ?_⟩
      · exact absurd (stored.symm.trans (piped.stored_of_running ready running)) Bool.false_ne_true
      · exact absurd (stored.symm.trans (piped.stored_of_running ready running)) Bool.false_ne_true
    · rw [if_neg stored]
      exact ⟨piped.stored, piped.running, piped.absent, late,
        fun running => ⟨(piped.written running).1, rfl⟩, fun _ _ => rfl⟩

theorem endProcess (piped : Piped typed s) : Piped typed s.endProcess := by
  unfold Terminal.endProcess
  by_cases running : s.process = .running
  · rw [if_pos running]
    refine ⟨piped.stored, fun again => ?_, fun absent => ?_, piped.untouched, fun again => ?_,
      fun again => ?_⟩
    · cases again
    · cases absent
    · cases again
    · cases again
  · rw [if_neg running]
    exact piped

/-- Where the handler stands between the storing and the deleting makes no difference. -/
theorem moved (piped : Piped typed s) {handler : Handler}
    (here : s.handler = .reading ∨ s.handler = .waiting) (ended : s.process = .ended)
    (there : handler = .waiting ∨ handler = .deleting) :
    Piped typed { s with handler := handler } := by
  have stored : s.stored = true := piped.stored.mpr (here.imp_right .inl)
  refine ⟨iff_of_true stored (.inr there), fun running => ?_, fun absent => ?_, fun early => ?_,
    piped.written, piped.cancelled⟩
  · cases ended.symm.trans running
  · cases ended.symm.trans absent
  · rcases there with rfl | rfl <;> rcases early with same | same <;> cases same

theorem turn (piped : Piped typed s) (o : Outcome) : Piped typed (s.turn o) := by
  have known := piped
  obtain ⟨stored, running, absent, untouched, written, cancelled⟩ := piped
  unfold Terminal.turn
  cases handler : s.handler with
  | starting =>
    cases o with
    | works => constructor <;> simp_all
    | fails => constructor <;> simp_all [Terminal.finish]
    | read data => constructor <;> simp_all
  | storing => constructor <;> simp_all
  | reading =>
    cases o with
    | works =>
      by_cases ended : s.process = .ended
      · simpa only [if_pos ended] using known.moved (.inl handler) ended (.inl rfl)
      · simpa only [if_neg ended] using known
    | fails => constructor <;> simp_all
    | read data =>
      simp only [Terminal.sendOutput]
      split
      · constructor <;> simp_all
      · constructor <;> simp_all
  | waiting =>
    by_cases ended : s.process = .ended
    · simpa only [if_pos ended] using known.moved (.inr handler) ended (.inr rfl)
    · simpa only [if_neg ended] using known
  | deleting => constructor <;> simp_all
  | finishing => constructor <;> simp_all [Terminal.finish]
  | done => constructor <;> simp_all

end Piped

namespace Terminal

theorem publish_eq (s : Terminal) : ∃ outputs channel,
    s.publish = { s with outputs := outputs, channel := channel } := by
  unfold publish
  split
  · exact ⟨_, _, rfl⟩
  · exact ⟨_, _, rfl⟩

theorem relay_eq (s : Terminal) : ∃ channel browser relaying,
    s.relay = { s with channel := channel, browser := browser, relaying := relaying } := by
  unfold relay
  split
  · exact ⟨_, _, _, rfl⟩
  · split
    · exact ⟨_, _, _, rfl⟩
    · split
      · exact ⟨_, _, _, rfl⟩
      · exact ⟨_, _, _, rfl⟩

theorem closed_routeExecInput (s : Terminal) (input : ContainerExecInput) :
    (s.routeExecInput input).closed = s.closed := by
  unfold routeExecInput write
  split_ifs <;> rfl

theorem closed_turn (s : Terminal) (o : Outcome) : (s.turn o).closed = s.closed := by
  unfold turn finish sendOutput
  split <;> (try split) <;> (try split_ifs) <;> rfl

theorem closed_step (s : Terminal) (move : Move) :
    (s.step decode move).closed = (s.closed || move == .close) := by
  cases move with
  | frame sent =>
    unfold step
    dsimp only
    split_ifs with closed
    · simp
    · split
      · simp
      · simp [closed_routeExecInput]
  | close =>
    unfold step
    dsimp only
    split_ifs with closed
    · simp [closed]
    · simp [closed_routeExecInput]
  | turn o =>
    rw [step, closed_turn]
    simp
  | exit =>
    unfold step endProcess
    dsimp only
    split_ifs <;> simp
  | kill =>
    unfold step endProcess
    dsimp only
    split_ifs <;> simp
  | publish =>
    obtain ⟨outputs, channel, same⟩ := s.publish_eq
    rw [step, same]
    simp
  | relay =>
    obtain ⟨channel, browser, relaying, same⟩ := s.relay_eq
    rw [step, same]
    simp
  | leave => simp [step]

end Terminal

/-- What is entered over a run is what its moves enter before the close. -/
theorem entered_inputs (s : Terminal) (move : Move) (moves : List Move) :
    (entered decode s move ++ if (s.step decode move).closed then [] else inputs decode moves) =
      if s.closed then [] else inputs decode (move :: moves) := by
  rw [Terminal.closed_step, entered]
  cases closed : s.closed with
  | true => rfl
  | false => cases move <;> simp [Move.input, inputs]

namespace Piped

variable {typed : Bytes} {s : Terminal}

theorem step (piped : Piped typed s) {move : Move} (meets : Unmistaken decode s move) :
    Piped (typed ++ entered decode s move) (s.step decode move) := by
  have nothing : ∀ {s' : Terminal}, Piped typed s' → Move.input decode move = [] →
      Piped (typed ++ entered decode s move) s' := by
    intro s' piped' silent
    simpa only [entered, silent, ite_self, List.append_nil] using piped'
  cases move with
  | frame sent =>
    cases closed : s.closed with
    | true => simpa only [entered, Terminal.step, closed, if_true, List.append_nil] using piped
    | false =>
      simp only [entered, closed, Bool.false_eq_true, if_false]
      exact piped.frame closed meets
  | close => exact nothing (piped.close meets) rfl
  | turn o => exact nothing (piped.turn o) rfl
  | exit => exact nothing piped.endProcess rfl
  | kill =>
    refine nothing ?_ rfl
    simp only [Terminal.step]
    split
    · exact piped.endProcess
    · exact piped
  | publish =>
    obtain ⟨outputs, channel, same⟩ := s.publish_eq
    rw [Terminal.step, same]
    exact nothing { piped with } rfl
  | relay =>
    obtain ⟨channel, browser, relaying, same⟩ := s.relay_eq
    rw [Terminal.step, same]
    exact nothing { piped with } rfl
  | leave => exact nothing { piped with } rfl

theorem run (piped : Piped typed s) {moves : List Move}
    (along : Runs.Along (Terminal.step decode) (Unmistaken decode) s moves) :
    Piped (typed ++ if s.closed then [] else inputs decode moves) (s.run decode moves) := by
  induction moves generalizing typed s with
  | nil => simpa [inputs, Terminal.run] using piped
  | cons move moves ih =>
    have rest := ih (piped.step along.1) along.2
    rwa [List.append_assoc, entered_inputs] at rest

end Piped

/-! ## The browser's side -/

/-- Nothing is sent on the way to the browser. -/
structure Silent (s s' : Terminal) : Prop where
  outputs : s'.outputs = s.outputs
  channel : s'.channel = s.channel
  chunks : s'.chunks = s.chunks
  browser : s'.browser = s.browser
  relaying : s'.relaying = s.relaying
  left : s'.left = s.left
  done : s'.handler = .done ↔ s.handler = .done

namespace Silent

theorem refl (s : Terminal) : Silent s s := ⟨rfl, rfl, rfl, rfl, rfl, rfl, Iff.rfl⟩

theorem routeExecInput (s : Terminal) (input : ContainerExecInput) :
    Silent s (s.routeExecInput input) := by
  unfold Terminal.routeExecInput Terminal.write
  split_ifs <;> exact ⟨rfl, rfl, rfl, rfl, rfl, rfl, Iff.rfl⟩

theorem endProcess (s : Terminal) : Silent s s.endProcess := by
  unfold Terminal.endProcess
  split_ifs
  · exact ⟨rfl, rfl, rfl, rfl, rfl, rfl, Iff.rfl⟩
  · exact .refl s

theorem moved {s s' : Terminal} (before : s.handler ≠ .done) (after : s'.handler ≠ .done)
    (same : s' = { s with
      handler := s'.handler, process := s'.process, stored := s'.stored, cancelled := s'.cancelled }) :
    Silent s s' := by
  rw [same]
  exact ⟨rfl, rfl, rfl, rfl, rfl, rfl, iff_of_false after before⟩

end Silent

/-- What a step of the handler can do: a chunk is sent, the end is sent, or nothing is. -/
theorem Terminal.turn_cases (s : Terminal) (o : Outcome) :
    (∃ data, o = .read data ∧ 0 < data.length ∧ s.handler = .reading ∧
      s.turn o = { s with
        outputs := s.outputs ++ [{ data := data }], chunks := s.chunks ++ [data] }) ∨
    (s.handler ≠ .done ∧ s.turn o = s.finish) ∨ Silent s (s.turn o) := by
  unfold Terminal.turn
  cases handler : s.handler with
  | starting =>
    cases o with
    | works => exact .inr (.inr (.moved (by simp [handler]) (by simp) rfl))
    | fails => exact .inr (.inl ⟨by decide, rfl⟩)
    | read data => exact .inr (.inr (.refl s))
  | storing => exact .inr (.inr (.moved (by simp [handler]) (by simp) rfl))
  | reading =>
    cases o with
    | works =>
      refine .inr (.inr ?_)
      dsimp only
      split
      · exact .moved (by simp [handler]) (by simp) rfl
      · exact .refl s
    | fails => exact .inr (.inr (.moved (by simp [handler]) (by simp) rfl))
    | read data =>
      dsimp only [Terminal.sendOutput]
      split
      · next some => exact .inl ⟨data, rfl, some, rfl, by rw [← handler]⟩
      · exact .inr (.inr (.refl s))
  | waiting =>
    refine .inr (.inr ?_)
    dsimp only
    split
    · exact .moved (by simp [handler]) (by simp) rfl
    · exact .refl s
  | deleting => exact .inr (.inr (.moved (by simp [handler]) (by simp) rfl))
  | finishing => exact .inr (.inl ⟨by decide, rfl⟩)
  | done => exact .inr (.inr (.refl s))

/-- What the handler sends at the end. -/
def Terminal.marker (s : Terminal) : List Bytes := if s.handler = .done then [doneMarker] else []

/-- What is on the way to the browser. -/
def Terminal.flow (s : Terminal) : List Bytes := s.channel ++ s.outputs.flatMap published

/-- The chunks are shown or on the way, and the marker is behind them. -/
structure Flowing (s : Terminal) : Prop where
  relaying : s.relaying = true
  parts : ∃ shown waiting, s.chunks = shown ++ waiting ∧ s.browser = shown.map .binary ∧
    s.flow = waiting ++ s.marker

/-- All was shown. -/
structure Ended (s : Terminal) : Prop where
  relaying : s.relaying = false
  browser : s.browser = s.chunks.map .binary ++ sessionEnded
  handler : s.handler = .done

/-- What is known of the way to a browser that has not left. -/
structure Reached (s : Terminal) : Prop where
  plain : ∀ chunk ∈ s.chunks, chunk ≠ doneMarker
  reaches : s.left = false → Flowing s ∨ Ended s

namespace Reached

variable {s s' : Terminal}

theorem init : Reached {} where
  plain _ member := absurd member List.not_mem_nil
  reaches _ := .inl ⟨rfl, [], [], rfl, rfl, rfl⟩

theorem silent (reached : Reached s) (same : Silent s s') : Reached s' := by
  refine ⟨by rw [same.chunks]; exact reached.plain, fun stays => ?_⟩
  have marker : s'.marker = s.marker := by simp only [Terminal.marker, same.done]
  have flow : s'.flow = s.flow := by rw [Terminal.flow, same.channel, same.outputs, Terminal.flow]
  rcases reached.reaches (same.left.symm.trans stays) with ⟨relaying, parts⟩ | ended
  · refine .inl ⟨same.relaying.trans relaying, ?_⟩
    rwa [same.chunks, same.browser, flow, marker]
  · exact .inr ⟨same.relaying.trans ended.relaying, by rw [same.browser, same.chunks, ended.browser],
      same.done.mpr ended.handler⟩

theorem published_chunk {data : Bytes} (some : 0 < data.length) :
    published { data := data } = [data] := by
  simp [published, some]

theorem chunk (reached : Reached s) {data : Bytes} (some : 0 < data.length)
    (plain : data ≠ doneMarker) (reading : s.handler = .reading) :
    Reached { s with outputs := s.outputs ++ [{ data := data }], chunks := s.chunks ++ [data] } := by
  refine ⟨fun chunk member => ?_, fun stays => ?_⟩
  · rcases List.mem_append.mp member with old | new
    · exact reached.plain chunk old
    · rwa [List.mem_singleton.mp new]
  · rcases reached.reaches stays with ⟨relaying, shown, waiting, chunks, browser, flow⟩ | ended
    · have none : s.marker = [] := by simp [Terminal.marker, reading]
      refine .inl ⟨relaying, shown, waiting ++ [data], ?_, browser, ?_⟩
      · simp [chunks]
      · have marker : Terminal.marker
            { s with outputs := s.outputs ++ [{ data := data }], chunks := s.chunks ++ [data] } = [] :=
          none
        rw [marker, List.append_nil]
        rw [none, List.append_nil] at flow
        simp only [Terminal.flow, List.flatMap_append, List.flatMap_singleton, published_chunk some]
        rw [← List.append_assoc]
        exact congrArg (· ++ [data]) flow
    · cases reading.symm.trans ended.handler

theorem finish (reached : Reached s) (runs : s.handler ≠ .done) : Reached s.finish := by
  refine ⟨reached.plain, fun stays => ?_⟩
  rcases reached.reaches stays with ⟨relaying, shown, waiting, chunks, browser, flow⟩ | ended
  · refine .inl ⟨relaying, shown, waiting, chunks, browser, ?_⟩
    have none : s.marker = [] := by simp [Terminal.marker, runs]
    rw [none, List.append_nil] at flow
    have marker : s.finish.marker = [doneMarker] := rfl
    have last : published { finished := true } = [doneMarker] := rfl
    rw [marker, ← flow]
    simp only [Terminal.flow, Terminal.finish, List.flatMap_append, List.flatMap_singleton, last,
      List.append_assoc]
  · exact absurd ended.handler runs

theorem publish (reached : Reached s) : Reached s.publish := by
  unfold Terminal.publish
  split
  · exact reached
  · next output rest outputs =>
    refine ⟨reached.plain, fun stays => ?_⟩
    rcases reached.reaches stays with ⟨relaying, shown, waiting, chunks, browser, flow⟩ | ended
    · refine .inl ⟨relaying, shown, waiting, chunks, browser, Eq.trans ?_ flow⟩
      simp [Terminal.flow, outputs]
    · exact .inr ⟨ended.relaying, ended.browser, ended.handler⟩

/-- The next payload is the next chunk, or the marker when all chunks were shown. -/
theorem relay (reached : Reached s) : Reached s.relay := by
  unfold Terminal.relay
  split
  · exact reached
  · next goes =>
    cases channel : s.channel with
    | nil => exact reached
    | cons payload rest =>
      dsimp only
      by_cases stays : s.left = false
      · rcases reached.reaches stays with ⟨relaying, shown, waiting, chunks, browser, flow⟩ | ended
        · rw [Terminal.flow, channel, List.cons_append] at flow
          cases waiting with
          | nil =>
            unfold Terminal.marker at flow
            by_cases done : s.handler = .done
            · rw [if_pos done] at flow
              obtain ⟨rfl, -⟩ := List.cons.inj flow
              rw [List.append_nil] at chunks
              rw [if_pos rfl]
              exact ⟨reached.plain, fun _ => .inr ⟨rfl, by rw [chunks, browser], done⟩⟩
            · rw [if_neg done] at flow
              cases flow
          | cons chunk waiting =>
            obtain ⟨rfl, rest⟩ := List.cons.inj flow
            have plain : payload ≠ doneMarker := reached.plain payload (by simp [chunks])
            rw [if_neg plain]
            refine ⟨reached.plain, fun _ => .inl ⟨relaying, shown ++ [payload],
              waiting, ?_, ?_, rest⟩⟩
            · simp [chunks]
            · simp [browser]
        · exact absurd ended.relaying goes
      · have gone : s.left = true := by simpa using stays
        split
        · exact ⟨reached.plain, fun stays => by cases gone.symm.trans stays⟩
        · exact ⟨reached.plain, fun stays => by cases gone.symm.trans stays⟩

theorem step {decode : Bytes → Option WsMessage} (reached : Reached s) {move : Move}
    (meets : Unmistaken decode s move) : Reached (s.step decode move) := by
  cases move with
  | frame sent =>
    simp only [Terminal.step]
    split
    · exact reached
    · split
      · exact reached
      · exact reached.silent (.routeExecInput s _)
  | close =>
    simp only [Terminal.step]
    split
    · exact reached
    · have closes : Silent s { s with closed := true } := ⟨rfl, rfl, rfl, rfl, rfl, rfl, Iff.rfl⟩
      exact (reached.silent closes).silent (.routeExecInput _ _)
  | turn o =>
    obtain ⟨data, rfl, some, reading, same⟩ | ⟨runs, same⟩ | silent := s.turn_cases o
    · rw [Terminal.step, same]
      exact reached.chunk some meets reading
    · rw [Terminal.step, same]
      exact reached.finish runs
    · exact reached.silent silent
  | exit => exact reached.silent (.endProcess s)
  | kill =>
    simp only [Terminal.step]
    split
    · exact reached.silent (.endProcess s)
    · exact reached
  | publish => exact reached.publish
  | relay => exact reached.relay
  | leave => exact ⟨reached.plain, fun stays => by cases stays⟩

end Reached

/-! ## Faithful pipes -/

variable {s : Terminal}

theorem closed_run (s : Terminal) (moves : List Move) :
    (s.run decode moves).closed = true ↔ s.closed = true ∨ .close ∈ moves := by
  induction moves generalizing s with
  | nil => simp [Terminal.run]
  | cons move moves ih =>
    have first := ih (s.step decode move)
    rw [Terminal.closed_step, Bool.or_eq_true, beq_iff_eq] at first
    rw [List.mem_cons, ← or_assoc, eq_comm (a := Move.close)]
    exact first

namespace Terminal.Quiescent

theorem killed (quiescent : s.Quiescent decode) (cancelled : s.cancelled = true) :
    s.process ≠ .running := by
  intro running
  have kill := congrArg Terminal.process (quiescent .kill (by decide))
  simp only [Terminal.step, cancelled, if_true, Terminal.endProcess, if_pos running] at kill
  cases kill.trans running

theorem done {typed : Bytes} (quiescent : s.Quiescent decode) (piped : Piped typed s)
    (gone : s.process ≠ .running) : s.handler = .done := by
  have turn := congrArg Terminal.handler (quiescent (.turn .works) (by decide))
  have ended : s.handler ≠ .starting → s.handler ≠ .done → s.process = .ended := by
    intro started runs
    cases process : s.process with
    | absent => exact absurd (piped.absent process) (not_or.mpr ⟨started, runs⟩)
    | running => exact absurd process gone
    | ended => rfl
  simp only [Terminal.step, Terminal.turn] at turn
  cases handler : s.handler with
  | done => rfl
  | reading =>
    simp only [handler, ended (by simp [handler]) (by simp [handler]), if_true] at turn
    cases turn
  | waiting =>
    simp only [handler, ended (by simp [handler]) (by simp [handler]), if_true] at turn
    cases turn
  | _ =>
    simp only [handler, Terminal.finish] at turn
    cases turn

theorem still (quiescent : s.Quiescent decode) (relaying : s.relaying = true) : s.flow = [] := by
  have publish := congrArg Terminal.outputs (quiescent .publish (by decide))
  have relay := congrArg Terminal.channel (quiescent .relay (by decide))
  have outputs : s.outputs = [] := by
    cases outputs : s.outputs with
    | nil => rfl
    | cons output rest =>
      simp only [Terminal.step, Terminal.publish, outputs] at publish
      exact absurd publish (List.cons_ne_self _ _).symm
  have channel : s.channel = [] := by
    cases channel : s.channel with
    | nil => rfl
    | cons payload rest =>
      simp only [Terminal.step, Terminal.relay, relaying, channel, Bool.true_eq_false, if_false,
        apply_ite Terminal.channel, ite_self] at relay
      exact absurd relay (List.cons_ne_self _ _).symm
  rw [Terminal.flow, outputs, channel]
  rfl

end Terminal.Quiescent

theorem Reached.shown (reached : Reached s) (stays : s.left = false) :
    s.browser <+: s.chunks.map .binary ++ sessionEnded := by
  rcases reached.reaches stays with ⟨-, shown, waiting, chunks, browser, -⟩ | ended
  · rw [browser, chunks, List.map_append, List.append_assoc]
    exact List.prefix_append _ _
  · exact ended.browser ▸ List.prefix_rfl

theorem Reached.ended (reached : Reached s) (stays : s.left = false)
    (quiescent : s.Quiescent decode) (done : s.handler = .done) :
    s.browser = s.chunks.map .binary ++ sessionEnded := by
  rcases reached.reaches stays with ⟨relaying, shown, waiting, -, -, flow⟩ | ended
  · rw [quiescent.still relaying, Terminal.marker, if_pos done] at flow
    exact absurd flow.symm (List.append_ne_nil_of_right_ne_nil _ (List.cons_ne_nil _ _))
  · exact ended.browser

def typedLs : Frame := { payload := utf8 "\x7b\"type\":\"input\",\"data\":\"ls\\n\"\x7d" }

/-- Raw input that is an empty JSON object. -/
def rawBraces : Frame := { binary := true, payload := utf8 "\x7b\x7d" }

def decodeShown (payload : Bytes) : Option WsMessage :=
  if payload = typedLs.payload then some { type := "input", data := "ls\n" }
  else if payload = rawBraces.payload then some {}
  else none

def started : List Move := [.turn .works, .turn .works]

def session : List Move :=
  started ++ [Move.frame typedLs, .frame { binary := true, payload := utf8 "w\n" },
    .turn (.read (utf8 "bin\n")), .publish, .relay, .close, .kill, .turn .works, .turn .works,
    .turn .works, .turn .works, .publish, .relay]

end Nixway.Agent.ContainerExec
