/-
# Agent.BuildLogs -- the logs of a build

`plan` is the log that a run of `HandleBuildCommand` should leave: its status lines and the output
of the commands it streams.  `follows_plan` says that the messages of a run are its plan, up to
the outputs that are sent again.  The server appends what it receives to the `logs` of the build,
and `build_logs_exact_iff` says for which runs the two are the same.
-/
import Nixway.Agent.Building

namespace Nixway.Agent

open Nixway.Theory Nixway.Store
open Nixway.Intake (BuildOutput)

set_option autoImplicit false

namespace BuildCommand

variable (cmd : BuildCommand) (machine : Machine)

/-! ## The log a run should leave -/

/-- A status line, or the output of a command that is streamed; `again` if the handler sends the
collected output once more should the command fail. -/
inductive Piece where
  | status (line : String)
  | output (run : CommandRun) (again : Bool)

/-- The lines the piece adds to the log. -/
def Piece.lines : Piece → List (List Char)
  | .status line => [line.toList]
  | .output run _ => Lines.lines run.text

/-- The end of a push, and what comes after it. -/
def pushPlan (auth : RegistryAuth) (rest : List Piece) : List Piece :=
  .status ("Logging in to " ++ auth.server ++ "...") ::
    if (machine.run (loginExec auth)).error.isSome then []
    else .status ("Pushing " ++ cmd.imageTag ++ "...") ::
      .output (machine.run cmd.pushExec) false ::
        if (machine.run cmd.pushExec).error.isSome then []
        else ((machine.run (logoutExec auth)).error.map fun err =>
            .status ("Warning: docker logout failed: " ++ err)).toList ++
          .status "Push completed." :: rest

def publishPlan : List Piece :=
  let rest := [.status "Build completed successfully."]
  match cmd.registry.filter fun auth => auth.server ≠ "" with
  | none => rest
  | some auth => cmd.pushPlan machine auth rest

def buildPlan : List Piece :=
  let builder := cmd.chosenBuilder machine
  let run := machine.run (cmd.buildExec builder)
  (if cmd.builder = "auto" then [.status ("Auto-detected builder: " ++ builder)] else []) ++
    .status ("Building with " ++ builder ++ "...") :: .output run true ::
      if run.error.isSome then [] else cmd.publishPlan machine

def checkoutPlan : List Piece :=
  let run := machine.run cmd.checkoutExec
  .output run true :: if run.error.isSome then [] else cmd.buildPlan machine

def fetchPlan : List Piece :=
  let run := machine.run cmd.fetchExec
  .status ("Checking out commit " ++ cmd.commitSha ++ "...") :: .output run true ::
    ((run.error.map fun err => .status ("Warning: fetch commit failed: " ++ err)).toList ++
      cmd.checkoutPlan machine)

/-- The status lines of a run and the commands it streams, in order. -/
def plan : List Piece :=
  let clone := machine.run cmd.cloneExec
  .status "Cloning repository..." :: .output clone true ::
    if clone.error.isSome then []
    else if cmd.commitSha ≠ "" then cmd.fetchPlan machine else cmd.buildPlan machine

/-- The status lines and the output lines, each once and in order. -/
def exactLog : String :=
  String.ofList (Lines.unlines ((cmd.plan machine).flatMap Piece.lines))

/-! ## What a run writes -/

/-- The text the handler sends for the piece. -/
def Piece.written : Piece → List Char
  | .status line => line.toList ++ ['\n']
  | .output run again => run.collected ++ if again && run.error.isSome then run.collected else []

/-- The command of the piece is stuck. -/
def Piece.Stuck : Piece → Prop
  | .status _ => False
  | .output run _ => run.Stuck

def textOf (sent : List BuildOutput) : List Char := sent.flatMap fun m => m.output.toList

/-- The last message, and no other, is finished. -/
def Concludes (sent : List BuildOutput) : Prop :=
  ∃ earlier last, sent = earlier ++ [last] ∧ last.finished = true ∧
    ∀ m ∈ earlier, m.finished = false

/-- A handler that writes `extra` and then the pieces: it blocks at a stuck command, without a
finished message, or ends with one. -/
structure Follows (cmd : BuildCommand) (x : Sending Unit) (extra : List Char)
    (pieces : List Piece) : Prop where
  mine : ∀ m ∈ x.sent, m.buildID = some cmd.buildID
  blocked : x.result = none → (∃ p ∈ pieces, p.Stuck) ∧ ∀ m ∈ x.sent, m.finished = false
  ended : x.result = some () →
    textOf x.sent = extra ++ pieces.flatMap Piece.written ∧ Concludes x.sent

section Follows

variable {cmd : BuildCommand} {machine : Machine} {x : Sending Unit} {extra : List Char}
  {pieces : List Piece}

theorem follows_finish (cmd : BuildCommand) (phase text : String) (success : Bool)
    (errMsg imageID : String) :
    Follows cmd (cmd.sendOutput phase text true success errMsg imageID) text.toList [] where
  mine m member := by
    rw [List.mem_singleton.mp member]
    rfl
  blocked none := nomatch none
  ended _ := ⟨by simp [sendOutput, output, textOf],
    [], cmd.output phase text true success errMsg imageID, rfl, rfl, fun m member => nomatch member⟩

theorem Follows.behind {α : Type} {a : α} {rest : α → Sending Unit}
    (follows : Follows cmd (rest a) extra pieces) (first : Sending α) (done : first.result = some a)
    (mine : ∀ m ∈ first.sent, m.buildID = some cmd.buildID)
    (unfinished : ∀ m ∈ first.sent, m.finished = false) :
    Follows cmd (first >>= rest) (textOf first.sent ++ extra) pieces := by
  rw [Sending.bind_some done]
  refine ⟨fun m member => ?_, fun none => ?_, fun some => ?_⟩
  · rcases List.mem_append.mp member with early | late
    · exact mine m early
    · exact follows.mine m late
  · obtain ⟨stuck, later⟩ := follows.blocked none
    refine ⟨stuck, fun m member => ?_⟩
    rcases List.mem_append.mp member with early | late
    · exact unfinished m early
    · exact later m late
  · obtain ⟨text, earlier, last, same, finished, others⟩ := follows.ended some
    refine ⟨?_, first.sent ++ earlier, last, ?_, finished, fun m member => ?_⟩
    · rw [textOf, List.flatMap_append, ← textOf, ← textOf, text, List.append_assoc]
    · show first.sent ++ (rest a).sent = _
      rw [same, List.append_assoc]
    · rcases List.mem_append.mp member with early | late
      · exact unfinished m early
      · exact others m late

theorem Follows.say (rest : Unit → Sending Unit) (follows : Follows cmd (rest ()) extra pieces)
    (phase text : String) :
    Follows cmd (cmd.sendOutput phase text false false "" "" >>= rest) (text.toList ++ extra)
      pieces := by
  have front := follows.behind (cmd.sendOutput phase text false false "" "") rfl
    (fun m member => by rw [List.mem_singleton.mp member]; rfl)
    (fun m member => by rw [List.mem_singleton.mp member]; rfl)
  simpa [sendOutput, output, textOf] using front

/-- The text at the front is a status line. -/
theorem Follows.absorb {line : String}
    (follows : Follows cmd x (extra ++ (line ++ "\n").toList) pieces) :
    Follows cmd x extra (.status line :: pieces) where
  mine := follows.mine
  blocked none := by
    obtain ⟨⟨p, member, stuck⟩, unfinished⟩ := follows.blocked none
    exact ⟨⟨p, List.mem_cons_of_mem _ member, stuck⟩, unfinished⟩
  ended some := by
    obtain ⟨text, concludes⟩ := follows.ended some
    refine ⟨?_, concludes⟩
    rw [text, List.flatMap_cons, Piece.written, String.toList_append, List.append_assoc]
    rfl

theorem Follows.status {rest : Unit → Sending Unit} (follows : Follows cmd (rest ()) [] pieces)
    {phase line text : String} (same : text = line ++ "\n") :
    Follows cmd (cmd.sendOutput phase text false false "" "" >>= rest) []
      (.status line :: pieces) := by
  refine .absorb ?_
  rw [List.nil_append, ← same, ← List.append_nil text.toList]
  exact .say rest follows phase text

theorem toList_join_lines (ls : List (List Char)) :
    (String.join (ls.map fun line => String.ofList line ++ "\n")).toList = Lines.unlines ls := by
  rw [String.toList_join, List.flatMap_map]
  refine congrArg (List.flatMap · ls) (funext fun line => ?_)
  rw [String.toList_append, String.toList_ofList]
  rfl

theorem textOf_sendEach (cmd : BuildCommand) (phase : String) (texts : List String) :
    textOf (cmd.sendEach phase texts).sent = (String.join texts).toList := by
  rw [sendEach, textOf, List.flatMap_map, String.toList_join]
  rfl

theorem mem_sendEach {phase : String} {texts : List String} {m : BuildOutput}
    (member : m ∈ (cmd.sendEach phase texts).sent) :
    m.buildID = some cmd.buildID ∧ m.finished = false := by
  obtain ⟨text, -, rfl⟩ := List.mem_map.mp member
  exact ⟨rfl, rfl⟩

theorem wait_stuck {run : CommandRun} (stuck : run.Stuck) :
    wait run (Lines.gaveUp maxScanTokenSize run.text) = ⟨[], none⟩ := if_pos stuck

theorem wait_ended {run : CommandRun} (free : ¬ run.Stuck) :
    wait run (Lines.gaveUp maxScanTokenSize run.text) = ⟨[], some run.exit⟩ := if_neg free

/-- What is streamed of a command, as one program before its end is awaited. -/
theorem streaming_eq (cmd : BuildCommand) (machine : Machine) (e : Exec) (phase : String)
    (started : (machine.run e).start = none) :
    let lines := (Lines.scanned maxScanTokenSize (machine.run e).text).map fun line =>
      String.ofList line ++ "\n"
    cmd.runCommandStreamingExec machine e phase =
      ⟨(cmd.sendEach phase lines).sent,
        (wait (machine.run e) (Lines.gaveUp maxScanTokenSize (machine.run e).text)).result.map
          fun err => (String.join lines, err)⟩ := by
  have text : (machine.run e).text = (machine.run e).output.toList := by
    simp [CommandRun.text, started]
  simp only [runCommandStreamingExec, started, text]
  rw [Sending.bind_some (a := ()) rfl]
  unfold wait
  split
  · rw [Sending.bind_none rfl, List.append_nil]
    rfl
  · rw [Sending.bind_some (a := (machine.run e).exit) rfl]
    simp [pure]

/-- The text at the front is what is written of a command. -/
theorem Follows.absorb_output {run : CommandRun} {again : Bool}
    (follows : Follows cmd x
      (run.collected ++ if again && run.error.isSome then run.collected else []) pieces) :
    Follows cmd x [] (.output run again :: pieces) where
  mine := follows.mine
  blocked none := by
    obtain ⟨⟨p, member, stuck⟩, unfinished⟩ := follows.blocked none
    exact ⟨⟨p, List.mem_cons_of_mem _ member, stuck⟩, unfinished⟩
  ended some := by
    obtain ⟨text, concludes⟩ := follows.ended some
    exact ⟨text, concludes⟩

/-- **A command that is streamed**, and what follows it with the collected output. -/
theorem Follows.stream {e : Exec} {phase : String} {again : Bool}
    {rest : String × Option String → Sending Unit}
    (follows : ∀ collected : String, collected.toList = (machine.run e).collected →
      Follows cmd (rest (collected, (machine.run e).error))
        (if again && (machine.run e).error.isSome then (machine.run e).collected else []) pieces) :
    Follows cmd (cmd.runCommandStreamingExec machine e phase >>= rest) []
      (.output (machine.run e) again :: pieces) := by
  cases start : (machine.run e).start with
  | some err =>
    have nothing : (machine.run e).collected = [] := by
      simp [CommandRun.collected, CommandRun.text, start, Lines.scanned]
    have error : (machine.run e).error = some err := by simp [CommandRun.error, start]
    have failed : cmd.runCommandStreamingExec machine e phase = ⟨[], some ("", some err)⟩ := by
      simp only [runCommandStreamingExec, start]
      rfl
    refine .absorb_output ?_
    rw [failed, Sending.bind_some (a := ("", some err)) rfl, nothing, List.nil_append]
    have after := follows "" nothing.symm
    rw [error, nothing] at after
    rwa [error]
  | none =>
    rw [streaming_eq cmd machine e phase start]
    by_cases stuck : (machine.run e).Stuck
    · rw [wait_stuck stuck, Sending.bind_none rfl]
      exact ⟨fun m member => (mem_sendEach member).1,
        fun _ => ⟨⟨_, List.mem_cons_self, stuck⟩, fun m member => (mem_sendEach member).2⟩,
        fun some => by cases some⟩
    · refine .absorb_output ?_
      have error : (machine.run e).error = (machine.run e).exit := by
        simp [CommandRun.error, start]
      rw [wait_ended stuck, ← error]
      have front := (follows _ (toList_join_lines _)).behind
        ⟨(cmd.sendEach phase ((Lines.scanned maxScanTokenSize (machine.run e).text).map
          fun line => String.ofList line ++ "\n")).sent, some (_, (machine.run e).error)⟩ rfl
        (fun m member => (mem_sendEach member).1) (fun m member => (mem_sendEach member).2)
      rwa [textOf_sendEach, toList_join_lines] at front

theorem follows_pushImage (cmd : BuildCommand) (machine : Machine) (auth : RegistryAuth)
    {rest : Option String → Sending Unit} (failed : ∀ err, Follows cmd (rest (some err)) [] [])
    (pushed : Follows cmd (rest none) [] pieces) :
    Follows cmd (cmd.pushImage machine auth >>= rest) [] (cmd.pushPlan machine auth pieces) := by
  unfold pushImage pushPlan
  rw [Sending.bind_assoc']
  refine .status ?_ (by simp [String.append_assoc])
  cases login : (machine.run (loginExec auth)).error with
  | some err =>
    simp only [login, Option.isSome_some, if_true]
    rw [Sending.pure_bind']
    exact failed _
  | none =>
    simp only [login, Option.isSome_none, Bool.false_eq_true, if_false]
    rw [Sending.bind_assoc']
    refine .status ?_ (by simp [String.append_assoc])
    rw [Sending.bind_assoc']
    refine .stream fun collected _ => ?_
    simp only [Bool.false_and, Bool.false_eq_true, if_false]
    cases (machine.run cmd.pushExec).error with
    | some err =>
      simp only [Option.isSome_some, if_true]
      rw [Sending.pure_bind']
      exact failed _
    | none =>
      simp only [Option.isSome_none, Bool.false_eq_true, if_false]
      unfold logout
      cases (machine.run (logoutExec auth)).error with
      | some err =>
        rw [Sending.bind_assoc']
        refine .status ?_ (by simp [String.append_assoc])
        rw [Sending.bind_assoc']
        refine .status ?_ rfl
        rw [Sending.pure_bind']
        exact pushed
      | none =>
        rw [Sending.pure_bind', Sending.bind_assoc']
        refine .status ?_ rfl
        rw [Sending.pure_bind']
        exact pushed

theorem follows_completed (cmd : BuildCommand) :
    Follows cmd cmd.completed [] [.status "Build completed successfully."] := by
  refine .absorb ?_
  exact follows_finish cmd "building" _ true "" cmd.imageTag

theorem follows_publish (cmd : BuildCommand) (machine : Machine) :
    Follows cmd (cmd.publish machine) [] (cmd.publishPlan machine) := by
  unfold publish publishPlan
  cases cmd.registry.filter fun auth => auth.server ≠ "" with
  | none => exact follows_completed cmd
  | some auth =>
    refine follows_pushImage cmd machine auth (fun err => ?_) (follows_completed cmd)
    exact follows_finish cmd "pushing" "" false _ ""

theorem follows_buildWith (cmd : BuildCommand) (machine : Machine) (builder : String) :
    Follows cmd (cmd.buildWith machine builder) []
      (.status ("Building with " ++ builder ++ "...") ::
        .output (machine.run (cmd.buildExec builder)) true ::
          if (machine.run (cmd.buildExec builder)).error.isSome then []
          else cmd.publishPlan machine) := by
  unfold buildWith
  refine .status ?_ (by simp [String.append_assoc])
  refine .stream fun collected text => ?_
  cases (machine.run (cmd.buildExec builder)).error with
  | some err =>
    rw [← text]
    exact follows_finish cmd "building" collected false _ ""
  | none => exact follows_publish cmd machine

theorem follows_build (cmd : BuildCommand) (machine : Machine) :
    Follows cmd (cmd.build machine) [] (cmd.buildPlan machine) := by
  have built := follows_buildWith cmd machine (cmd.chosenBuilder machine)
  unfold build buildPlan detect
  split
  · next auto =>
    refine .status built ?_
    rw [chosenBuilder, if_pos auto]
  · rw [Sending.pure_bind']
    exact built

theorem follows_checkout (cmd : BuildCommand) (machine : Machine) :
    Follows cmd (cmd.checkout machine) [] (cmd.checkoutPlan machine) := by
  unfold checkout checkoutPlan
  refine .stream fun collected text => ?_
  cases (machine.run cmd.checkoutExec).error with
  | some err =>
    rw [← text]
    exact follows_finish cmd "cloning" collected false _ ""
  | none => exact follows_build cmd machine

theorem follows_fetchCommit (cmd : BuildCommand) (machine : Machine) :
    Follows cmd (cmd.fetchCommit machine) [] (cmd.fetchPlan machine) := by
  have checkedOut := follows_checkout cmd machine
  unfold fetchCommit fetchPlan
  refine .status ?_ (by simp [String.append_assoc])
  refine .stream fun collected text => ?_
  cases (machine.run cmd.fetchExec).error with
  | some err =>
    -- the warning comes behind the output that is sent again
    refine .absorb ?_
    rw [← text]
    have warned := Follows.say (fun _ => cmd.checkout machine) checkedOut "cloning"
      (collected ++ ("Warning: fetch commit failed: " ++ err ++ "\n"))
    rw [String.toList_append, List.append_nil] at warned
    exact warned
  | none =>
    show Follows cmd (pure () >>= fun _ => cmd.checkout machine) [] _
    rw [Sending.pure_bind']
    exact checkedOut

/-- **The messages of a run are its plan**, up to what is sent again. -/
theorem follows_plan (cmd : BuildCommand) (machine : Machine) :
    Follows cmd (cmd.handleBuildCommand machine) [] (cmd.plan machine) := by
  unfold handleBuildCommand plan
  refine .status ?_ rfl
  refine .stream fun collected text => ?_
  cases (machine.run cmd.cloneExec).error with
  | some err =>
    rw [← text]
    exact follows_finish cmd "cloning" collected false _ ""
  | none =>
    show Follows cmd (if cmd.commitSha ≠ "" then _ else _) [] (if cmd.commitSha ≠ "" then _ else _)
    split
    · exact follows_fetchCommit cmd machine
    · exact follows_build cmd machine

end Follows

/-! ## When what is written is the plan -/

/-- Every line of the output fits into the reader's buffer and ends without a carriage return;
and a command whose output is sent again when it fails has written nothing if it fails. -/
def Piece.Clean : Piece → Prop
  | .status _ => True
  | .output run again =>
    (∀ line ∈ Lines.lines run.text,
      Lines.Fits maxScanTokenSize line ∧ line.getLast? ≠ some '\r') ∧
    (again = true → run.error.isSome = true → run.text = [])

instance : DecidablePred Piece.Clean
  | .status _ => isTrue trivial
  | .output _ _ => inferInstanceAs (Decidable (_ ∧ _))

/-- The text of the piece in the plan. -/
def Piece.expected (p : Piece) : List Char := Lines.unlines p.lines

namespace Piece

theorem terminated_written (p : Piece) : Lines.Terminated p.written := by
  cases p with
  | status line => exact Lines.terminated_newline _
  | output run again =>
    refine (Lines.terminated_unlines _).append ?_
    split
    · exact Lines.terminated_unlines _
    · exact .nil

theorem terminated_expected (p : Piece) : Lines.Terminated p.expected := Lines.terminated_unlines _

theorem lines_expected (run : CommandRun) (again : Bool) :
    Lines.lines (Piece.output run again).expected = Lines.lines run.text :=
  Lines.lines_unlines Lines.newline_not_mem_lines

theorem lines_written (run : CommandRun) (again : Bool) :
    Lines.lines (Piece.output run again).written =
      Lines.scanned maxScanTokenSize run.text ++
        if again && run.error.isSome then Lines.scanned maxScanTokenSize run.text else [] := by
  rw [written, CommandRun.collected, Lines.lines_append (Lines.terminated_unlines _),
    Lines.lines_unlines_scanned]
  split
  · rw [Lines.lines_unlines_scanned]
  · rfl

theorem written_status (line : String) : (Piece.status line).written = (Piece.status line).expected := by
  simp [written, expected, lines, Lines.unlines]

theorem Clean.written_eq {p : Piece} (clean : p.Clean) : p.written = p.expected := by
  cases p with
  | status line => exact written_status line
  | output run again =>
    obtain ⟨each, silent⟩ := clean
    have delivered : Lines.scanned maxScanTokenSize run.text = Lines.lines run.text := by
      rw [Lines.scanned_eq fun line member => (each line member).1]
      exact List.map_congr_left (fun line member => Lines.dropCR_eq_iff.mpr (each line member).2)
        |>.trans (List.map_id _)
    have collected : run.collected = Lines.unlines (Lines.lines run.text) :=
      congrArg Lines.unlines delivered
    rw [written, collected]
    split
    · next sentAgain =>
      obtain ⟨again, failed⟩ := Bool.and_eq_true_iff.mp sentAgain
      rw [expected, lines, silent again failed]
      rfl
    · exact List.append_nil _

/-- A line that does not fit is not delivered. -/
theorem long_written (run : CommandRun) (again : Bool) :
    ((Lines.lines (Piece.output run again).written).countP
      fun line => ¬ Lines.Fits maxScanTokenSize line) = 0 := by
  rw [lines_written]
  refine List.countP_eq_zero.mpr fun line member => ?_
  have delivered : line ∈ Lines.scanned maxScanTokenSize run.text := by
    rcases List.mem_append.mp member with first | again
    · exact first
    · split at again
      · exact again
      · cases again
  simpa using (Lines.of_mem_scanned delivered).1

theorem long_le (p : Piece) :
    ((Lines.lines p.written).countP fun line => ¬ Lines.Fits maxScanTokenSize line) ≤
      (Lines.lines p.expected).countP fun line => ¬ Lines.Fits maxScanTokenSize line := by
  cases p with
  | status line => rw [written_status]
  | output run again =>
    rw [long_written]
    exact Nat.zero_le _

/-- As many lines that do not fit are written as should be: none. -/
theorem fits_of_long {run : CommandRun} {again : Bool}
    (same : ((Lines.lines (Piece.output run again).written).countP
        fun line => ¬ Lines.Fits maxScanTokenSize line) =
      (Lines.lines (Piece.output run again).expected).countP
        fun line => ¬ Lines.Fits maxScanTokenSize line) :
    ∀ line ∈ Lines.lines run.text, Lines.Fits maxScanTokenSize line := by
  rw [long_written, lines_expected] at same
  intro line member
  simpa using List.countP_eq_zero.mp same.symm line member

/-- When all lines fit, each is delivered at least once. -/
theorem length_le {p : Piece}
    (fits : ∀ run again, p = .output run again →
      ∀ line ∈ Lines.lines run.text, Lines.Fits maxScanTokenSize line) :
    (Lines.lines p.expected).length ≤ (Lines.lines p.written).length := by
  cases p with
  | status line => rw [written_status]
  | output run again =>
    rw [lines_expected, lines_written, Lines.scanned_eq (fits run again rfl), List.length_append,
      List.length_map]
    exact Nat.le_add_right _ _

/-- Lines that all fit, as many as should be, and the same. -/
theorem Clean.of_lines {run : CommandRun} {again : Bool}
    (fits : ∀ line ∈ Lines.lines run.text, Lines.Fits maxScanTokenSize line)
    (same : Lines.lines (Piece.output run again).written =
      Lines.lines (Piece.output run again).expected) : (Piece.output run again).Clean := by
  rw [lines_expected, lines_written, Lines.scanned_eq fits] at same
  have lengths := congrArg List.length same
  rw [List.length_append, List.length_map] at lengths
  have silent : (if again && run.error.isSome then (Lines.lines run.text).map Lines.dropCR
      else []) = [] := List.length_eq_zero_iff.mp (by omega)
  rw [silent, List.append_nil] at same
  refine ⟨fun line member => ⟨fits line member, ?_⟩, fun isAgain failed => ?_⟩
  · have kept : (Lines.lines run.text).map Lines.dropCR = (Lines.lines run.text).map id := by
      rw [same, List.map_id]
    exact Lines.dropCR_eq_iff.mp (List.map_inj_left.mp kept line member)
  · rw [isAgain, failed, Bool.and_self, if_pos rfl, List.map_eq_nil_iff] at silent
    by_contra some
    exact Lines.lines_ne_nil some silent

end Piece

/-- **The written text is the plan exactly for clean pieces.** -/
theorem written_eq_iff (pieces : List Piece) :
    pieces.flatMap Piece.written = Lines.unlines (pieces.flatMap Piece.lines) ↔
      ∀ p ∈ pieces, p.Clean := by
  rw [Lines.unlines_flatMap]
  constructor
  · intro same
    have cut : pieces.flatMap (fun p => Lines.lines p.written) =
        pieces.flatMap fun p => Lines.lines p.expected := by
      rw [← Lines.lines_flatMap fun p _ => p.terminated_written,
        ← Lines.lines_flatMap fun p _ => p.terminated_expected]
      exact congrArg Lines.lines same
    -- no line is lost to the buffer: there are as many long lines in both
    have long := Lines.eq_of_sum_eq (fun p (_ : p ∈ pieces) => p.long_le) (by
      have counts := congrArg
        (List.countP fun line => ¬ Lines.Fits maxScanTokenSize line) cut
      rwa [List.countP_flatMap, List.countP_flatMap] at counts)
    have fits : ∀ p ∈ pieces, ∀ run again, p = .output run again →
        ∀ line ∈ Lines.lines run.text, Lines.Fits maxScanTokenSize line := by
      rintro p member run again rfl
      exact Piece.fits_of_long (long _ member)
    -- no output is sent again: there are as many lines in both
    have lengths := Lines.eq_of_sum_eq (fun p member => Piece.length_le (fits p member)) (by
      have counts := congrArg List.length cut
      rw [List.length_flatMap, List.length_flatMap] at counts
      exact counts.symm)
    have parts := Lines.eq_of_flatMap_eq (fun p member => (lengths p member).symm) cut
    intro p member
    cases p with
    | status line => trivial
    | output run again => exact Piece.Clean.of_lines (fits _ member run again rfl) (parts _ member)
  · intro clean
    exact List.flatMap_congr fun p member => (clean p member).written_eq

end BuildCommand

end Nixway.Agent

namespace Nixway.Intake

open Nixway.Theory Nixway.Store

/-! ## What the server appends -/

/-- The output a message carries about the build. -/
def aboutBuild (id : UUID) : Message → Option BuildOutput
  | .buildOutput out => if out.buildID = some id then some out else none
  | _ => none

/-- The `logs` of the build. -/
def Store.logsOf (st : Store) (id : UUID) : Option String := (st.builds.find? id).map Build.logs

/-- Messages of any streams as they come, each with the agent id that its stream has by then. -/
def receiveMixed (parse : String → Option UUID) (st : Store) (messages : List (String × Message)) :
    Store :=
  messages.foldl (fun st m => (receive parse (m.1, st) m.2).2) st

section Logs

variable (parse : String → Option UUID) (agentID : String) (st : Store) (id : UUID)

theorem builds_recordMetrics (samples : List MetricSample) :
    (st.recordMetrics samples).builds = st.builds := by
  unfold Store.recordMetrics
  induction samples generalizing st with
  | nil => rfl
  | cons sample rest ih =>
    rw [List.foldl_cons, ih]
    unfold Store.recordMetric
    split <;> rfl

theorem builds_linkAgentToServer : (linkAgentToServer parse agentID st).builds = st.builds := by
  unfold linkAgentToServer
  split <;> rfl

theorem builds_notifyMesh (memberID : UUID) (callback : UUID → MeshCallback) :
    (notifyMesh st memberID callback).builds = st.builds := by
  unfold notifyMesh
  split <;> rfl

theorem builds_handleMeshHealthReport (memberID : Option UUID) (peers : List PeerHealthInfo) :
    (handleMeshHealthReport st memberID peers).builds = st.builds := by
  unfold handleMeshHealthReport
  split
  · rfl
  · next member found =>
    clear found
    induction peers generalizing st with
    | nil => rfl
    | cons p rest ih =>
      rw [List.foldl_cons, ih]
      unfold recordPeer
      split <;> rfl

theorem builds_receive (m : Message) (other : ∀ out, m ≠ .buildOutput out) :
    (receive parse (agentID, st) m).2.builds = st.builds := by
  cases m with
  | heartbeat carried =>
    simp only [receive]
    split
    · exact builds_linkAgentToServer _ _ _
    · rfl
  | healthReport carried report =>
    simp only [receive, handleHealthReport]
    split
    · rfl
    · exact builds_recordMetrics _ _
  | metricReport carried containers =>
    simp only [receive, handleMetricReport]
    split
    · rfl
    · exact builds_recordMetrics _ _
  | resourceReport carried report =>
    simp only [receive, handleResourceReport]
    have linked : (if agentID = "" then linkAgentToServer parse carried st else st).builds =
        st.builds := by
      split
      · exact builds_linkAgentToServer _ _ _
      · rfl
    split
    · exact linked
    · exact (builds_recordMetrics _ _).trans linked
  | provisionOutput out =>
    simp only [receive, handleProvisionOutput]
    repeat' split
    all_goals rfl
  | wireguardKeygenResult memberID publicKey success =>
    simp only [receive, handleWireGuardKeyGenResult]
    repeat' split
    · rfl
    · exact builds_notifyMesh _ _ _
    · rfl
  | wireguardApplyResult memberID success error =>
    simp only [receive]
    split
    · rfl
    · exact builds_notifyMesh _ _ _
  | wireguardTeardownResult memberID success =>
    simp only [receive]
    split
    · rfl
    · exact builds_notifyMesh _ _ _
  | meshHealthReport memberID peers => exact builds_handleMeshHealthReport _ _ _
  | buildOutput out => exact absurd rfl (other out)
  | deployOutput out =>
    simp only [receive, handleDeployOutput]
    repeat' split
    all_goals rfl
  | other => rfl

theorem logsOf_appendBuildLogs (target : UUID) (logs : String) :
    (st.appendBuildLogs target logs).logsOf id =
      (st.logsOf id).map fun earlier => if target = id then earlier ++ logs else earlier := by
  rw [Store.logsOf, Store.logsOf, Store.appendBuildLogs, Table.find?_update]
  by_cases same : id = target
  · rw [if_pos same, Option.map_map, Option.map_map]
    simp only [same, if_true]
    rfl
  · simp only [if_neg same, if_neg (Ne.symm same)]
    exact Option.map_id'.symm

theorem logsOf_update (target : UUID) (f : Build → Build) (keeps : ∀ b, Keyed.key (f b) = Keyed.key b)
    (logs : ∀ b, (f b).logs = b.logs) :
    ({ st with builds := st.builds.update target f keeps } : Store).logsOf id = st.logsOf id := by
  rw [Store.logsOf, Store.logsOf, Table.find?_update]
  split
  · rw [Option.map_map]
    exact congrArg (Option.map · _) (funext logs)
  · rfl

theorem logsOf_updateBuildStatus (target : UUID) (status : String) :
    (st.updateBuildStatus target status).logsOf id = st.logsOf id := by
  unfold Store.updateBuildStatus
  split
  · rfl
  · exact logsOf_update st id target _ _ fun _ => rfl

theorem logsOf_completeBuild (target : UUID) (status : BuildStatus) (imageTag : String)
    (serverID : Option UUID) (error : Option String) :
    (st.completeBuild target status imageTag serverID error).logsOf id = st.logsOf id := by
  unfold Store.completeBuild
  split
  · exact logsOf_update st id target _ _ fun _ => rfl
  · rfl

theorem logsOf_finishBuild (out : BuildOutput) (target : UUID) :
    (finishBuild parse agentID st out target).logsOf id = st.logsOf id := by
  unfold finishBuild
  dsimp only
  split <;> split <;> exact logsOf_completeBuild st id target _ _ _ _

/-- **An output of the build is appended to its logs**, and no other is. -/
theorem logsOf_handleBuildOutput (out : BuildOutput) :
    (handleBuildOutput parse agentID st out).logsOf id =
      (st.logsOf id).map fun earlier =>
        if out.buildID = some id then earlier ++ out.output else earlier := by
  unfold handleBuildOutput
  cases out.buildID with
  | none => simp
  | some target =>
    have logged : (if out.output ≠ "" then st.appendBuildLogs target out.output else st).logsOf id =
        (st.logsOf id).map fun earlier =>
          if some target = some id then earlier ++ out.output else earlier := by
      split
      · rw [logsOf_appendBuildLogs]
        simp only [Option.some.injEq]
      · next empty =>
        rw [not_not] at empty
        simp [empty]
    dsimp only
    split
    · exact (logsOf_finishBuild _ _ _ _ _ _).trans logged
    · split
      · exact (logsOf_updateBuildStatus _ _ _ _).trans logged
      · exact logged

theorem logsOf_receive (m : Message) :
    (receive parse (agentID, st) m).2.logsOf id =
      (st.logsOf id).map fun earlier =>
        earlier ++ String.join ((aboutBuild id m).toList.map BuildOutput.output) := by
  by_cases output : ∃ out, m = .buildOutput out
  · obtain ⟨out, rfl⟩ := output
    refine (logsOf_handleBuildOutput parse agentID st id out).trans ?_
    rw [aboutBuild]
    split <;> simp
  · have nothing : aboutBuild id m = none := by
      cases m with
      | buildOutput out => exact absurd ⟨out, rfl⟩ output
      | _ => rfl
    rw [Store.logsOf, builds_receive parse agentID st m fun out same => output ⟨out, same⟩, nothing]
    simp only [Option.toList_none, List.map_nil, String.join_nil, String.append_empty]
    exact Option.map_id'.symm

/-- **The logs of a build are what is received about it, in order.** -/
theorem logsOf_receiveMixed (messages : List (String × Message)) :
    (receiveMixed parse st messages).logsOf id =
      (st.logsOf id).map fun earlier => earlier ++
        String.join ((messages.filterMap fun m => aboutBuild id m.2).map BuildOutput.output) := by
  induction messages generalizing st with
  | nil => simp [receiveMixed]
  | cons m rest ih =>
    have tail := ih (receive parse (m.1, st) m.2).2
    rw [logsOf_receive, Option.map_map] at tail
    refine tail.trans (congrArg (Option.map · _) (funext fun earlier => ?_))
    rw [Function.comp_apply, String.append_assoc, ← String.join_append, ← List.map_append]
    cases here : aboutBuild id m.2 with
    | none =>
      rw [List.filterMap_cons_none (f := fun m : String × Message => aboutBuild id m.2) here]
      rfl
    | some out =>
      rw [List.filterMap_cons_some (f := fun m : String × Message => aboutBuild id m.2) here]
      rfl

end Logs

end Nixway.Intake

namespace Nixway.Agent.BuildCommand

open Nixway.Theory Nixway.Store
open Nixway.Intake (BuildOutput Message aboutBuild receiveMixed logsOf_receiveMixed)

/-! ## Exact logs -/

/-- The handler ends with one finished message, and the log of the build is its plan behind what
the log held before. -/
structure ExactLogs (cmd : BuildCommand) (machine : Machine) (before : String) (st : Intake.Store) :
    Prop where
  ends : (cmd.handleBuildCommand machine).result = some ()
  concludes : Concludes (cmd.handleBuildCommand machine).sent
  logs : st.logsOf cmd.buildID = some (before ++ cmd.exactLog machine)

/-- A piece that is stuck is not clean. -/
theorem Piece.Clean.not_stuck {p : Piece} (clean : p.Clean) : ¬ p.Stuck := by
  cases p with
  | status line => exact not_false
  | output run again =>
    rintro ⟨gaveUp, -⟩
    have fits := Lines.gaveUp_iff.mpr fun line member => (clean.1 line member).1
    rw [fits] at gaveUp
    cases gaveUp

theorem delivered_alone (cmd : BuildCommand) (machine : Machine) (agentID : String) :
    ((cmd.handleBuildCommand machine).sent.map fun m =>
        (agentID, Message.buildOutput m)).filterMap (fun m => aboutBuild cmd.buildID m.2) =
      (cmd.handleBuildCommand machine).sent := by
  rw [List.filterMap_map]
  refine (List.filterMap_congr fun m member => ?_).trans List.filterMap_some
  exact if_pos ((follows_plan cmd machine).mine m member)

theorem join_outputs (sent : List BuildOutput) :
    (String.join (sent.map BuildOutput.output)).toList = textOf sent := by
  rw [String.toList_join, List.flatMap_map]
  rfl

/-- **The logs are exact exactly for clean pieces**: the outputs that are streamed have lines
that fit and end without a carriage return, and a clone, fetch, checkout or build that fails has
written nothing. -/
theorem build_logs_exact_iff (parse : String → Option UUID) (cmd : BuildCommand) (machine : Machine)
    (st : Intake.Store) (b : Intake.Build) (delivered : List (String × Message))
    (here : st.builds.find? cmd.buildID = some b)
    (inOrder : delivered.filterMap (fun m => aboutBuild cmd.buildID m.2) =
      (cmd.handleBuildCommand machine).sent) :
    ExactLogs cmd machine b.logs (receiveMixed parse st delivered) ↔
      ∀ p ∈ cmd.plan machine, p.Clean := by
  have follows := follows_plan cmd machine
  have logs : (receiveMixed parse st delivered).logsOf cmd.buildID =
      some (b.logs ++
        String.join ((cmd.handleBuildCommand machine).sent.map BuildOutput.output)) := by
    rw [logsOf_receiveMixed, inOrder, Intake.Store.logsOf, here]
    rfl
  cases result : (cmd.handleBuildCommand machine).result with
  | none =>
    obtain ⟨⟨p, member, stuck⟩, -⟩ := follows.blocked result
    constructor
    · intro exact
      exact nomatch exact.ends.symm.trans result
    · intro clean
      exact absurd stuck (clean p member).not_stuck
  | some =>
    obtain ⟨text, concludes⟩ := follows.ended result
    rw [List.nil_append] at text
    have same : (receiveMixed parse st delivered).logsOf cmd.buildID =
          some (b.logs ++ cmd.exactLog machine) ↔
        (cmd.plan machine).flatMap Piece.written =
          Lines.unlines ((cmd.plan machine).flatMap Piece.lines) := by
      rw [logs, Option.some_inj, ← String.toList_inj, String.toList_append, String.toList_append,
        List.append_cancel_left_eq, join_outputs, text, exactLog, String.toList_ofList]
    rw [← written_eq_iff, ← same]
    exact ⟨fun exact => exact.logs, fun logs => ⟨result, concludes, logs⟩⟩

def shopBuild : BuildCommand :=
  { buildID := 7, repoURL := "https://github.com/acme/shop.git", branch := "main",
    builder := "nixpacks", imageTag := "shop:7" }

def quietMachine : Machine where
  run e := { output := if e.name = "git" then "Cloning into '7'...\n" else "#1 build\n#2 done\n" }

def lostMachine : Machine where
  run _ := { output := "fatal: Remote branch main not found\n", exit := some "exit status 128" }

def shopStore : Intake.Store :=
  { builds := ⟨[{ id := 7, appID := 1, environmentID := 2 }], by decide⟩ }

/-- The server, after the messages of the build. -/
def afterBuild (machine : Machine) : Intake.Store :=
  receiveMixed (fun _ => none) shopStore
    ((shopBuild.handleBuildCommand machine).sent.map fun m => ("", .buildOutput m))

theorem quiet_build_logged :
    ExactLogs shopBuild quietMachine "" (afterBuild quietMachine) ∧
      shopBuild.exactLog quietMachine =
        "Cloning repository...\nCloning into '7'...\nBuilding with nixpacks...\n#1 build\n#2 done\n" ++
          "Build completed successfully.\n" :=
  ⟨(build_logs_exact_iff (fun _ => none) shopBuild quietMachine shopStore
      { id := 7, appID := 1, environmentID := 2 } _ rfl
      (delivered_alone shopBuild quietMachine "")).mpr (by decide), by decide⟩

/-- The output of a clone that fails is logged twice. -/
theorem failed_clone_logged_twice :
    (afterBuild lostMachine).logsOf 7 =
        some ("Cloning repository...\nfatal: Remote branch main not found\n" ++
          "fatal: Remote branch main not found\n") ∧
      ¬ ExactLogs shopBuild lostMachine "" (afterBuild lostMachine) := by
  have logged : (afterBuild lostMachine).logsOf 7 =
      some ("Cloning repository...\nfatal: Remote branch main not found\n" ++
        "fatal: Remote branch main not found\n") := by decide
  refine ⟨logged, fun exact => ?_⟩
  have once : some ("" ++ shopBuild.exactLog lostMachine) = _ := exact.logs.symm.trans logged
  revert once
  decide

end Nixway.Agent.BuildCommand
