/-
# Servers.RemoteCommand -- the output of a remote command, line by line

`RunCommandStreaming` lets both outputs of a remote command go into one pipe, reads the pipe with
a `bufio.Scanner` in the caller's goroutine, and has a second goroutine wait for the session,
hand its result over and close the pipe.  A write into the pipe blocks until all of it was read,
and `Wait` returns when all output was written, so each of the three waits for another.

A run is any order of their turns.  Only a line that fills the scanner's buffer ends the reading
early; then nobody reads the pipe any more (`streams_iff`).
-/
import Nixway.Theory.Scanner

namespace Nixway.Servers.RemoteCommand

open Nixway.Theory.Scanner

set_option autoImplicit false

/-- `bufio.MaxScanTokenSize`, which the buffer never outgrows. -/
def maxScanTokenSize : Nat := 64 * 1024

/-- The goroutine that waits for the session. -/
inductive Waiter where
  | waiting | sent | closed
deriving DecidableEq

/-- `RunCommandStreaming` after `session.Start`. -/
structure Streaming where
  /-- What is still to be written into the pipe, write by write. -/
  writes : List (List UInt8)
  /-- What the scanner's buffer holds. -/
  held : List UInt8 := []
  /-- A read has returned `io.EOF`. -/
  atEOF : Bool := false
  /-- `Scan` has returned false. -/
  stopped : Bool := false
  /-- The calls of `onOutput`. -/
  calls : List (List UInt8) := []
  waiter : Waiter := .waiting
  done : Option (Except String Unit) := none
  returned : Option (Except String Unit) := none

inductive Turn where
  | scan
  | read (n : Nat)
  | written
  | wait
  | closePipe
  | receive

/-- What `Scan` finds in the buffer. -/
def Streaming.token (s : Streaming) : Option (Nat × List UInt8) :=
  scanLines 10 13 s.held s.atEOF

/-- One turn; `exit` is what the exit status makes of `session.Wait`.  A read takes as much of one
write as there is room for in the buffer, which may be smaller than it can grow. -/
def step (exit : Except String Unit) (s : Streaming) : Turn → Option Streaming
  | .scan =>
    if s.stopped then none
    else
      match s.token with
      | some (advance, line) =>
        some { s with held := s.held.drop advance, calls := s.calls ++ [line] }
      | none =>
        if s.atEOF ∨ maxScanTokenSize ≤ s.held.length then some { s with stopped := true }
        else none
  | .read n =>
    if s.stopped ∨ s.atEOF ∨ s.token.isSome ∨ maxScanTokenSize ≤ s.held.length then none
    else
      match s.writes with
      | [] => if s.waiter = .closed then some { s with atEOF := true } else none
      | data :: rest =>
        if 0 < n ∧ n ≤ data.length ∧ s.held.length + n ≤ maxScanTokenSize then
          some { s with held := s.held ++ data.take n, writes := data.drop n :: rest }
        else none
  | .written =>
    match s.writes with
    | [] :: rest => some { s with writes := rest }
    | _ => none
  | .wait =>
    if s.waiter = .waiting ∧ s.writes = [] then some { s with waiter := .sent, done := some exit }
    else none
  | .closePipe => if s.waiter = .sent then some { s with waiter := .closed } else none
  | .receive =>
    if s.stopped then
      s.done.map fun result => { s with done := none, returned := some result }
    else none

def run (exit : Except String Unit) (s : Streaming) (turns : List Turn) : Option Streaming :=
  turns.foldlM (step exit) s

/-- The command ends in every order of turns, after each line was handed over, with the result of
the session. -/
def StreamsWhole (writes : List (List UInt8)) (exit : Except String Unit) : Prop :=
  ∃ bound, ∀ turns s, run exit { writes } turns = some s →
    turns.length ≤ bound ∧ (s.returned = none → ∃ turn, (step exit s turn).isSome) ∧
      ∀ result, s.returned = some result →
        result = exit ∧ s.calls = (lines 10 writes.flatten).map (dropCR 13)

/-! ## Every run ends -/

def Waiter.left : Waiter → Nat
  | .waiting => 3
  | .sent => 1
  | .closed => 0

/-- The turns that are left, at most. -/
def Streaming.left (s : Streaming) : Nat :=
  2 * s.writes.flatten.length + s.writes.length + s.held.length + (!s.atEOF).toNat +
    (!s.stopped).toNat + s.waiter.left + s.done.toList.length

variable {exit : Except String Unit} {s t : Streaming} {turn : Turn}

/-- The invariant; `output` is the combined output. -/
structure Reached (output : List UInt8) (exit : Except String Unit) (s : Streaming) : Prop where
  /-- Lines that fit were handed over, and the others are still to come. -/
  read : ∃ given, s.calls = given.map (dropCR 13) ∧
    (∀ line ∈ given, line.length < maxScanTokenSize) ∧
      given ++ lines 10 (s.held ++ s.writes.flatten) = lines 10 output
  room : s.held.length ≤ maxScanTokenSize
  ended : s.atEOF = true → 10 ∉ s.held ∧ s.held.length < maxScanTokenSize ∧ s.writes = []
  halted : s.stopped = true →
    s.held = [] ∧ s.writes = [] ∨ 10 ∉ s.held ∧ maxScanTokenSize ≤ s.held.length
  waited : s.waiter ≠ .waiting → s.writes = [] ∧ (s.done = some exit ∨ s.returned = some exit)
  result : s.waiter = .waiting → s.done = none ∧ s.returned = none
  sent : ∀ result, s.done = some result → result = exit
  returned : ∀ result, s.returned = some result → result = exit ∧ s.stopped = true

theorem reached_start (writes : List (List UInt8)) :
    Reached writes.flatten exit { writes } where
  read := ⟨[], rfl, by simp, rfl⟩
  room := Nat.zero_le _
  ended := nofun
  halted := nofun
  waited := fun moved => absurd rfl moved
  result := fun _ => ⟨rfl, rfl⟩
  sent := nofun
  returned := nofun

/-- A turn of the scanner. -/
theorem Reached.scan {output : List UInt8} (reached : Reached output exit s)
    (moved : step exit s .scan = some t) : Reached output exit t ∧ t.left < s.left := by
  obtain ⟨given, calls, fit, whole⟩ := reached.read
  have going : s.stopped = false := by
    by_contra stopped
    rw [step, if_pos (by simpa using stopped)] at moved
    cases moved
  rw [step, if_neg (by simp [going]), Streaming.token] at moved
  obtain ⟨line, rest, apart, same, token⟩ | ⟨apart, ⟨ended, some, token⟩ | ⟨empty, token⟩⟩ :=
    scanLines_cases 13 s.held s.atEOF
  · -- a whole line
    rw [token] at moved
    obtain rfl := Option.some.inj moved
    have left : s.held.drop (line.length + 1) = rest := by
      rw [same, ← List.singleton_append, ← List.append_assoc, List.drop_left' (by simp)]
    have size : s.held.length = line.length + (rest.length + 1) := by rw [same]; simp
    have notEnded : s.atEOF = false := by
      by_contra ended
      exact (reached.ended (by simpa using ended)).1 (by rw [same]; simp)
    have room := reached.room
    refine ⟨{ reached with
      read := ⟨given ++ [line], ?_, ?_, ?_⟩, room := ?_, ended := ?_, halted := ?_ }, ?_⟩
    · simp [calls]
    · exact List.forall_mem_append.mpr ⟨fit, List.forall_mem_singleton.mpr (by omega)⟩
    · simp only [left]
      rw [← whole, same, List.append_assoc, List.append_assoc, List.singleton_append,
        List.cons_append, lines_line apart]
    · simp only [left]
      omega
    · intro ended
      rw [notEnded] at ended
      cases ended
    · intro stopped
      rw [going] at stopped
      cases stopped
    · simp only [Streaming.left, left, size]
      omega
  · -- the last line, which no newline ends
    rw [token] at moved
    obtain rfl := Option.some.inj moved
    obtain ⟨-, short, written⟩ := reached.ended ended
    have size : 0 < s.held.length := List.length_pos_iff.mpr some
    refine ⟨{ reached with
      read := ⟨given ++ [s.held], ?_, ?_, ?_⟩, room := ?_, ended := ?_, halted := ?_ }, ?_⟩
    · simp [calls]
    · exact List.forall_mem_append.mpr ⟨fit, List.forall_mem_singleton.mpr short⟩
    · rw [← whole, written]
      simp [lines, lines_open some apart]
    · simp
    · exact fun _ => ⟨by simp, by simp [maxScanTokenSize], written⟩
    · exact fun _ => .inl ⟨by simp, written⟩
    · simp only [Streaming.left, List.drop_length, List.length_nil]
      omega
  · rw [token] at moved
    simp only at moved
    split at moved
    · next over' =>
      obtain rfl := Option.some.inj moved
      refine ⟨{ reached with halted := fun _ => ?_, returned := ?_ }, ?_⟩
      · obtain ended | full := over'
        · exact .inl ⟨empty ended, (reached.ended ended).2.2⟩
        · exact .inr ⟨apart, full⟩
      · exact fun result returned => ⟨(reached.returned result returned).1, rfl⟩
      · simp [Streaming.left, going]
    · cases moved

theorem Reached.waiting_of_write {output data : List UInt8} {rest : List (List UInt8)}
    (reached : Reached output exit s) (head : s.writes = data :: rest) : s.waiter = .waiting := by
  by_contra moved
  rw [(reached.waited moved).1] at head
  cases head

theorem Reached.step {output : List UInt8} (reached : Reached output exit s)
    (moved : step exit s turn = some t) : Reached output exit t ∧ t.left < s.left := by
  cases turn with
  | scan => exact reached.scan moved
  | read n =>
    rw [RemoteCommand.step] at moved
    split at moved
    · cases moved
    · next wants =>
      simp only [not_or, Bool.not_eq_true, Option.isSome_eq_false_iff, Option.isNone_iff_eq_none,
        Nat.not_le] at wants
      obtain ⟨going, early, token, short⟩ := wants
      have apart : 10 ∉ s.held := by
        obtain ⟨line, rest, -, -, found⟩ | ⟨apart, -⟩ := scanLines_cases 13 s.held s.atEOF
        · rw [Streaming.token, found] at token
          cases token
        · exact apart
      split at moved
      · next written =>
        split at moved
        · obtain rfl := Option.some.inj moved
          refine ⟨{ reached with
            ended := fun _ => ⟨apart, short, written⟩, halted := ?_ }, ?_⟩
          · exact fun stopped => absurd (going.symm.trans stopped) Bool.false_ne_true
          · simp [Streaming.left, early]
        · cases moved
      · next data rest head =>
        split at moved
        · next fits =>
          obtain rfl := Option.some.inj moved
          have waiting : s.waiter = .waiting := reached.waiting_of_write head
          obtain ⟨given, calls, fit, whole⟩ := reached.read
          have taken : (data.take n).length = n := List.length_take_of_le fits.2.1
          refine ⟨{ reached with
            read := ⟨given, calls, fit, ?_⟩, room := ?_, ended := ?_, halted := ?_,
            waited := fun moved => absurd waiting moved }, ?_⟩
          · rw [← whole, head]
            simp only [List.flatten_cons, List.append_assoc]
            rw [← List.append_assoc (data.take n), List.take_append_drop]
          · simp only [List.length_append, taken]
            exact fits.2.2
          · exact fun ended => absurd (early.symm.trans ended) Bool.false_ne_true
          · exact fun stopped => absurd (going.symm.trans stopped) Bool.false_ne_true
          · simp only [Streaming.left, head, List.flatten_cons, List.length_append, taken,
              List.length_drop, List.length_cons]
            omega
        · cases moved
  | written =>
    rw [RemoteCommand.step] at moved
    split at moved
    · next rest head =>
      obtain rfl := Option.some.inj moved
      have waiting : s.waiter = .waiting := reached.waiting_of_write head
      refine ⟨{ reached with
        read := ?_, ended := ?_, halted := ?_, waited := fun moved => absurd waiting moved }, ?_⟩
      · simpa [head] using reached.read
      · intro ended
        have written := (reached.ended ended).2.2
        rw [head] at written
        cases written
      · intro stopped
        obtain ⟨-, written⟩ | full := reached.halted stopped
        · rw [head] at written
          cases written
        · exact .inr full
      · simp [Streaming.left, head]
    · cases moved
  | wait =>
    rw [RemoteCommand.step] at moved
    split at moved
    · next ready =>
      obtain rfl := Option.some.inj moved
      refine ⟨{ reached with
        waited := fun _ => ⟨ready.2, .inl rfl⟩, result := nofun,
        sent := fun result same => (Option.some.inj same).symm }, ?_⟩
      simp [Streaming.left, ready.1, (reached.result ready.1).1, Waiter.left]
    · cases moved
  | closePipe =>
    rw [RemoteCommand.step] at moved
    split at moved
    · next sent =>
      obtain rfl := Option.some.inj moved
      refine ⟨{ reached with
        waited := fun _ => reached.waited (by rw [sent]; nofun), result := nofun }, ?_⟩
      simp [Streaming.left, sent, Waiter.left]
    · cases moved
  | receive =>
    rw [RemoteCommand.step] at moved
    split at moved
    · next stopped =>
      obtain ⟨result, done, rfl⟩ := Option.map_eq_some_iff.mp moved
      obtain rfl := reached.sent result done
      have moved : s.waiter ≠ .waiting := by
        intro waiting
        rw [(reached.result waiting).1] at done
        cases done
      refine ⟨{ reached with
        waited := fun _ => ⟨(reached.waited moved).1, .inr rfl⟩,
        result := fun waiting => absurd waiting moved, sent := nofun,
        returned := fun _ same => ⟨(Option.some.inj same).symm, stopped⟩ }, ?_⟩
      simp [Streaming.left, done]
    · cases moved

/-- Of a run; each of its turns uses up one that was left. -/
theorem Reached.run {output : List UInt8} {turns : List Turn} (reached : Reached output exit s)
    (ran : run exit s turns = some t) : Reached output exit t ∧ turns.length + t.left ≤ s.left := by
  induction turns generalizing s with
  | nil =>
    obtain rfl := Option.some.inj ran
    exact ⟨reached, by simp⟩
  | cons turn turns ih =>
    obtain ⟨next, moved, rest⟩ := Option.bind_eq_some_iff.mp ran
    obtain ⟨kept, fewer⟩ := reached.step moved
    obtain ⟨last, left⟩ := ih kept rest
    refine ⟨last, ?_⟩
    rw [List.length_cons]
    omega

/-! ## No turn left -/

/-- While all lines fit, the scanner stops at the end only. -/
theorem Reached.written {output : List UInt8} (reached : Reached output exit s)
    (fit : ∀ line ∈ lines 10 output, line.length < maxScanTokenSize) (stopped : s.stopped = true) :
    s.held = [] ∧ s.writes = [] := by
  obtain ended | ⟨apart, full⟩ := reached.halted stopped
  · exact ended
  · obtain ⟨given, -, -, whole⟩ := reached.read
    cases held : s.held with
    | nil =>
      rw [held] at full
      exact absurd full (by decide)
    | cons c rest =>
      rw [held] at apart full whole
      obtain ⟨more, later, cut⟩ := lines_held apart s.writes.flatten
      have long := fit (c :: rest ++ more) (by rw [← whole, cut]; simp)
      rw [List.length_append] at long
      omega

theorem Reached.free {output : List UInt8} (reached : Reached output exit s)
    (fit : ∀ line ∈ lines 10 output, line.length < maxScanTokenSize) (running : s.returned = none) :
    ∃ turn, (RemoteCommand.step exit s turn).isSome := by
  by_cases waits : s.waiter = .waiting ∧ s.writes = []
  · exact ⟨.wait, by simp [RemoteCommand.step, waits]⟩
  by_cases stopped : s.stopped = true
  · have written := (reached.written fit stopped).2
    have moved : s.waiter ≠ .waiting := fun still => waits ⟨still, written⟩
    obtain done | returned := (reached.waited moved).2
    · exact ⟨.receive, by simp [RemoteCommand.step, stopped, done]⟩
    · rw [running] at returned
      cases returned
  by_cases scans : s.token.isSome = true ∨ s.atEOF = true ∨ maxScanTokenSize ≤ s.held.length
  · refine ⟨.scan, ?_⟩
    rw [RemoteCommand.step, if_neg stopped]
    cases token : s.token with
    | some found => rfl
    | none =>
      rw [token] at scans
      simp [scans.resolve_left (by simp)]
  -- the scanner reads
  have wants : ¬ (s.stopped = true ∨ s.atEOF = true ∨ s.token.isSome = true ∨
      maxScanTokenSize ≤ s.held.length) := by tauto
  cases writes : s.writes with
  | nil =>
    cases waiter : s.waiter with
    | waiting => exact absurd ⟨waiter, writes⟩ waits
    | sent => exact ⟨.closePipe, by simp [RemoteCommand.step, waiter]⟩
    | closed => exact ⟨.read 0, by simp [RemoteCommand.step, wants, writes, waiter]⟩
  | cons data rest =>
    cases data with
    | nil => exact ⟨.written, by simp [RemoteCommand.step, writes]⟩
    | cons c data =>
      refine ⟨.read 1, ?_⟩
      rw [RemoteCommand.step, if_neg wants, writes]
      have room : s.held.length + 1 ≤ maxScanTokenSize := by omega
      simp [room]

/-- Unless it returns, a run goes on for ever. -/
theorem longer (runs : ∀ turns s, run exit t turns = some s →
    s.returned = none ∧ ∃ turn, (step exit s turn).isSome) (n : Nat) :
    ∃ turns s, turns.length = n ∧ run exit t turns = some s := by
  induction n with
  | zero => exact ⟨[], t, rfl, rfl⟩
  | succ n ih =>
    obtain ⟨turns, s, rfl, ran⟩ := ih
    obtain ⟨-, turn, moves⟩ := runs turns s ran
    obtain ⟨next, moved⟩ := Option.isSome_iff_exists.mp moves
    refine ⟨turns ++ [turn], next, by simp, ?_⟩
    rw [run, List.foldlM_append, show turns.foldlM (step exit) t = some s from ran]
    simpa using moved

/-- A run that returns has handed all lines over, and only lines that fit. -/
theorem StreamsWhole.fit {writes : List (List UInt8)} (ends : StreamsWhole writes exit) :
    ∀ line ∈ lines 10 writes.flatten, line.length < maxScanTokenSize := by
  obtain ⟨bound, ends⟩ := ends
  obtain ⟨turns, s, ran, result, returned⟩ : ∃ turns s, run exit { writes } turns = some s ∧
      ∃ result, s.returned = some result := by
    by_contra never
    have runs : ∀ turns s, run exit { writes } turns = some s →
        s.returned = none ∧ ∃ turn, (step exit s turn).isSome := by
      intro turns s ran
      have running : s.returned = none := by
        by_contra result
        exact never ⟨turns, s, ran, Option.ne_none_iff_exists'.mp result⟩
      exact ⟨running, (ends turns s ran).2.1 running⟩
    obtain ⟨turns, s, length, ran⟩ := longer runs (bound + 1)
    have short := (ends turns s ran).1
    omega
  obtain ⟨-, calls⟩ := (ends turns s ran).2.2 result returned
  obtain ⟨given, same, fit, whole⟩ := ((reached_start writes).run ran).1.read
  have count := congrArg List.length (same.symm.trans calls)
  have sizes := congrArg List.length whole
  rw [List.length_map, List.length_map] at count
  rw [List.length_append] at sizes
  have nothing : lines 10 (s.held ++ s.writes.flatten) = [] :=
    List.eq_nil_of_length_eq_zero (by omega)
  rw [nothing, List.append_nil] at whole
  rwa [← whole]

/-- **A command ends whole just if every line of its output is shorter than the buffer.** -/
theorem streams_iff (writes : List (List UInt8)) (exit : Except String Unit) :
    StreamsWhole writes exit ↔
      ∀ line ∈ lines 10 writes.flatten, line.length < maxScanTokenSize := by
  refine ⟨fun ends => ends.fit, fun fit => ⟨({ writes } : Streaming).left, fun turns s ran => ?_⟩⟩
  obtain ⟨reached, left⟩ := (reached_start writes).run ran
  refine ⟨by omega, reached.free fit, fun result returned => ?_⟩
  obtain ⟨same, stopped⟩ := reached.returned result returned
  obtain ⟨given, calls, -, whole⟩ := reached.read
  obtain ⟨held, written⟩ := reached.written fit stopped
  rw [held, written] at whole
  refine ⟨same, ?_⟩
  rw [calls, ← whole]
  simp [lines]

theorem lines_long (n : Nat) :
    lines (10 : UInt8) [List.replicate n 97, List.replicate n 97, [97, 10]].flatten =
      [List.replicate n 97 ++ List.replicate n 97 ++ [97]] := by
  have whole : (10 : UInt8) ∉ List.replicate n 97 ++ List.replicate n 97 ++ [97] := by
    simp [List.mem_replicate]
  have cut := lines_line whole []
  rw [List.append_assoc, List.append_assoc, List.singleton_append] at cut
  simpa only [lines, List.flatten_cons, List.flatten_nil, List.append_nil,
    List.append_assoc] using cut

/-- A line of 65537 bytes, in writes of 32 KiB. -/
theorem long_line_lost : ¬ StreamsWhole
    [List.replicate 32768 97, List.replicate 32768 97, [97, 10]] (.ok ()) := by
  intro ends
  have long := ends.fit
  rw [lines_long, List.forall_mem_singleton, List.length_append, List.length_append,
    List.length_replicate] at long
  exact absurd long (by decide)

end Nixway.Servers.RemoteCommand
