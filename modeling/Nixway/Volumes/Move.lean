/-
# Volumes.Move -- a volume is copied while its container writes

`Move` marks the volume, sends the command and waits; `HandleVolumeMove` lets rsync read every
file of the source once, removes the source and reports.  Nothing stops the container: a volume
that is attached may be moved, and its container goes on writing to the source.

`move_loses_nothing` gives the runs in which a `Move` that succeeds has every write at the target,
and one that fails has left the source alone.  The poles are `quiet_move` and `moves_that_lose`.
-/
import Nixway.Volumes.Service
import Nixway.Theory.Pool

namespace Nixway.Volumes.Move

open Nixway.Theory Nixway.Store
open Nixway.Theory.Prog (query exec)

set_option autoImplicit false

/-! ## Files -/

/-- The files of a directory with their contents; the last write of a file stands first. -/
abbrev Dir := List (String × String)

def Dir.write (d : Dir) (name content : String) : Dir := (name, content) :: d

def Dir.names (d : Dir) : List String := (d.map Prod.fst).eraseDups

/-- One directory holds all files of another. -/
def Dir.Holds (d other : Dir) : Prop :=
  ∀ name content, other.lookup name = some content → d.lookup name = some content

theorem Dir.lookup_write (d : Dir) (name content file : String) :
    (d.write name content).lookup file = if file = name then some content else d.lookup file := by
  unfold Dir.write
  by_cases same : file = name
  · rw [List.lookup_cons, beq_iff_eq.mpr same, if_pos same]
  · rw [List.lookup_cons, beq_eq_false_iff_ne.mpr same, if_neg same]

theorem Dir.mem_names {d : Dir} {name content : String} (found : d.lookup name = some content) :
    name ∈ d.names := by
  obtain ⟨front, back, split, -⟩ := List.lookup_eq_some_iff.mp found
  unfold Dir.names
  rw [List.mem_eraseDups]
  refine List.mem_map.mpr ⟨(name, content), ?_, rfl⟩
  rw [split]
  exact List.mem_append_right _ List.mem_cons_self

/-! ## The agent and the container -/

/-- A `Move`, with how its command fares. -/
structure Call where
  req : MoveRequest
  /-- The statements that fail. -/
  faults : Faults := fun _ => false
  /-- The command cannot be sent. -/
  unreachable : Bool := false
  /-- It is sent and does not arrive. -/
  lost : Bool := false
  /-- The result does not come back. -/
  silent : Bool := false
  /-- The order in which rsync reads the files. -/
  order : List String → List String := id
  /-- rsync fails behind so many files. -/
  failsAfter : Option Nat := none

structure MoveAgent where
  /-- All that is written before the source is removed. -/
  contents : Dir
  /-- The directory on the target server. -/
  target : Dir := []
  removed : Bool := false
  arrived : List VolumeCommand := []
  result : Option VolumeResult := none
  /-- What `Move` has returned, and whether that is an error. -/
  returned : Option Bool := none

abbrev MoveStore := VolumeStore MoveAgent

/-- The directory on the source server. -/
def MoveAgent.source (a : MoveAgent) : Dir := if a.removed then [] else a.contents

section Call

variable (call : Call)

/-- The files that are read. -/
def Call.reads (names : List String) : List String :=
  match call.failsAfter with
  | none => call.order names
  | some count => (call.order names).take count

def arrive (command : VolumeCommand) (s : MoveStore) : MoveStore :=
  if call.lost then s
  else { s with agents := { s.agents with arrived := s.agents.arrived ++ [command] } }

def answer (success : Bool) (s : MoveStore) : MoveStore :=
  if call.silent then s
  else { s with agents := { s.agents with result := some { success := success } } }

/-- A file is read from the source and written at the target. -/
def copy (name : String) (s : MoveStore) : MoveStore :=
  match s.agents.source.lookup name with
  | none => s
  | some content =>
    { s with agents := { s.agents with target := s.agents.target.write name content } }

def removeSource (s : MoveStore) : MoveStore :=
  { s with agents := { s.agents with removed := true } }

/-- A write of the container; what is written to a removed directory is gone. -/
def write (name content : String) (s : MoveStore) : MoveStore :=
  if s.agents.removed then s
  else { s with agents := { s.agents with contents := s.agents.contents.write name content } }

def returns (ok : Bool) (s : MoveStore) : MoveStore :=
  { s with agents := { s.agents with returned := some ok } }

def rsync : List String → Prog MoveStore Unit
  | [] => .done ()
  | name :: rest => do
    exec (copy name)
    rsync rest

/-- `HandleVolumeMove` behind rsync. -/
def afterRsync : Prog MoveStore Unit := do
  if call.failsAfter.isSome then
    exec (answer call false)
  else
    exec removeSource
    exec (answer call true)

def handleVolumeMove (sourcePath targetWireguardIp targetPath : String) : Prog MoveStore Unit := do
  if sourcePath = "" ∨ targetWireguardIp = "" ∨ targetPath = "" then
    exec (answer call false)
  else
    let names ← query fun s => s.agents.source.names
    rsync (call.reads names)
    afterRsync call

def handle : VolumeCommand → Prog MoveStore Unit
  | .move _ sourcePath ip targetPath => handleVolumeMove call sourcePath ip targetPath
  | _ => .done ()

def spawnHandler : Spawn MoveStore := fun s t =>
  (t.agents.arrived.drop s.agents.arrived.length).map (handle call)

def dispatchMove : Dispatch MoveAgent := fun _ _ command => do
  if call.unreachable then
    return none
  exec (arrive call command)
  query fun s => s.agents.result

/-- `Move`, up to what it returns. -/
def Call.code : Prog MoveStore Unit := do
  let answer ← move call.faults (dispatchMove call) call.req
  exec (returns answer.isOk)

end Call

def writer : List (String × String) → Prog MoveStore Unit
  | [] => .done ()
  | (name, content) :: rest => do
    exec (write name content)
    writer rest

/-! ## Step by step -/

inductive Point where
  | get
  | member (vol : Volume)
  | mark (vol : Volume) (target : ClusterMember)
  | send (vol : Volume) (target : ClusterMember)
  | wait (vol : Volume)
  | fail (vol : Volume)
  | server (vol : Volume)
  | finish (ok : Bool)
  | list
  | copy (name : String) (rest : List String)
  | remove
  | report (success : Bool)
  | write (name content : String) (rest : List (String × String))
  | halt

namespace Point

variable (call : Call)

def gotten : Option Volume → Point
  | none => .finish false
  | some vol =>
    if vol.status ≠ .unattached ∧ vol.status ≠ .attached then .finish false
    else if call.req.targetServerID = vol.serverID then .finish false
    else .member vol

def joined (vol : Volume) : Option ClusterMember → Point
  | none => .finish false
  | some target => if target.clusterID ≠ vol.clusterID then .finish false else .mark vol target

def marked (vol : Volume) (target : ClusterMember) : Option Volume → Point
  | none => .finish false
  | some _ => if call.unreachable then .fail vol else .send vol target

def answered (vol : Volume) (answer : Option VolumeResult) : Point :=
  if answer.all fun res => !res.success then .fail vol else .server vol

def copying : List String → Point
  | [] => if call.failsAfter.isSome then .report false else .remove
  | name :: rest => .copy name rest

def writing : List (String × String) → Point
  | [] => .halt
  | (name, content) :: rest => .write name content rest

def start : VolumeCommand → Point
  | .move _ sourcePath ip targetPath =>
    if sourcePath = "" ∨ ip = "" ∨ targetPath = "" then .report false else .list
  | _ => .halt

def moving (vol : Volume) (target : ClusterMember) : VolumeCommand :=
  .move vol.id vol.hostPath target.wireguardIp (volumeHostPath vol.id)

def markMoving (vol : Volume) (s : MoveStore) : MoveStore × Option Volume :=
  if call.faults .markStatus then (s, none)
  else s.updateVolumeStatus vol.id call.req.teamID .moving

def failStatus (vol : Volume) (s : MoveStore) : MoveStore × Option Volume :=
  if call.faults .failStatus then (s, none)
  else s.updateVolumeStatus vol.id call.req.teamID .error

def updateServer (vol : Volume) (s : MoveStore) : MoveStore × Option Volume :=
  if call.faults .updateVolumeServer then (s, none)
  else s.updateVolumeServer vol.id call.req.teamID call.req.targetServerID vol.status

def act : Point → Option ((MoveStore → MoveStore) × (MoveStore → Point))
  | .get => some (id, fun s => gotten call
      (if call.faults .getVolume then none else s.getVolume call.req.volumeID call.req.teamID))
  | .member vol => some (id, fun s => joined vol
      (if call.faults .getMember then none else s.members.find? call.req.targetServerID))
  | .mark vol target => some (fun s => (markMoving call vol s).1,
      fun s => marked call vol target (markMoving call vol s).2)
  | .send vol target => some (arrive call (moving vol target), fun _ => .wait vol)
  | .wait vol => some (id, fun s => answered vol s.agents.result)
  | .fail vol => some (fun s => (failStatus call vol s).1, fun _ => .finish false)
  | .server vol => some (fun s => (updateServer call vol s).1,
      fun s => .finish (updateServer call vol s).2.isSome)
  | .finish ok => some (returns ok, fun _ => .halt)
  | .list => some (id, fun s => copying call (call.reads s.agents.source.names))
  | .copy name rest => some (Move.copy name, fun _ => copying call rest)
  | .remove => some (removeSource, fun _ => .report true)
  | .report success => some (answer call success, fun _ => .halt)
  | .write name content rest => some (Move.write name content, fun _ => writing rest)
  | .halt => none

/-- `Move` returns what it has come to. -/
def returning (p : Prog MoveStore (Except VolumeError Volume)) : Prog MoveStore Unit := do
  let answer ← p
  exec (returns answer.isOk)

def code : Point → Prog MoveStore Unit
  | .get => call.code
  | .member vol => returning (do
      let some target ← read (call.faults .getMember) fun s =>
          s.members.find? call.req.targetServerID
        | return .error .targetNotInCluster
      if target.clusterID ≠ vol.clusterID then
        return .error .targetInOtherCluster
      let some _ ← statement (call.faults .markStatus) fun s =>
          s.updateVolumeStatus vol.id call.req.teamID .moving
        | return .error .markMoving
      let answer ← dispatchMove call call.req.teamID vol.serverID (moving vol target)
      settleMove call.faults call.req vol answer)
  | .mark vol target => returning (do
      let some _ ← statement (call.faults .markStatus) fun s =>
          s.updateVolumeStatus vol.id call.req.teamID .moving
        | return .error .markMoving
      let answer ← dispatchMove call call.req.teamID vol.serverID (moving vol target)
      settleMove call.faults call.req vol answer)
  | .send vol target => returning (do
      exec (arrive call (moving vol target))
      let answer ← query fun s => s.agents.result
      settleMove call.faults call.req vol answer)
  | .wait vol => returning (do
      let answer ← query fun s => s.agents.result
      settleMove call.faults call.req vol answer)
  | .fail vol => returning (do
      let _ ← statement (call.faults .failStatus) fun s =>
        s.updateVolumeStatus vol.id call.req.teamID .error
      return .error .moveFailed)
  | .server vol => returning (do
      let some updated ← statement (call.faults .updateVolumeServer) fun s =>
          s.updateVolumeServer vol.id call.req.teamID call.req.targetServerID vol.status
        | return .error .updateServer
      return .ok updated)
  | .finish ok => exec (returns ok)
  | .list => do
    let names ← query fun s => s.agents.source.names
    rsync (call.reads names)
    afterRsync call
  | .copy name rest => do
    rsync (name :: rest)
    afterRsync call
  | .remove => do
    exec removeSource
    exec (answer call true)
  | .report success => exec (answer call success)
  | .write name content rest => writer ((name, content) :: rest)
  | .halt => .done ()

theorem code_start (command : VolumeCommand) : (start command).code call = handle call command := by
  cases command with
  | move id sourcePath ip targetPath =>
    unfold start handle handleVolumeMove
    by_cases missing : sourcePath = "" ∨ ip = "" ∨ targetPath = ""
    · simp only [if_pos missing]
      rfl
    · simp only [if_neg missing]
      rfl
  | _ => rfl

theorem code_writing (writes : List (String × String)) :
    (writing writes).code call = writer writes := by
  cases writes with
  | nil => rfl
  | cons first rest => rfl

theorem code_copying (names : List String) :
    (copying call names).code call = (do rsync names; afterRsync call) := by
  cases names with
  | nil =>
    unfold copying afterRsync
    cases call.failsAfter with
    | none => rfl
    | some count => rfl
  | cons name rest => rfl

theorem code_answered (vol : Volume) (answer : Option VolumeResult) :
    (answered vol answer).code call =
      returning (settleMove call.faults call.req vol answer) := by
  unfold answered settleMove
  by_cases failed : (answer.all fun res => !res.success) = true
  · simp only [if_pos failed]
    rfl
  · simp only [if_neg failed]
    rfl

/-- **The graph is `Move`, its handler and the container.** -/
theorem presents : (⟨act call⟩ : Flow MoveStore Point).Presents (code call) where
  halted k here := by
    cases k with
    | halt => rfl
    | _ => cases here
  moves k effect next here := by
    cases k with
    | halt => cases here
    | fail vol => cases here; rfl
    | finish ok => cases here; rfl
    | remove => cases here; rfl
    | report success => cases here; rfl
    | send vol target => cases here; rfl
    | get =>
      cases here
      refine Prog.step_congr fun s => ?_
      dsimp only [Prog.bind]
      cases (if call.faults .getVolume then none
          else s.getVolume call.req.volumeID call.req.teamID) with
      | none => rfl
      | some vol =>
        dsimp only [gotten]
        by_cases busy : vol.status ≠ .unattached ∧ vol.status ≠ .attached
        · simp only [if_pos busy]
          rfl
        simp only [if_neg busy]
        by_cases same : call.req.targetServerID = vol.serverID
        · simp only [if_pos same]
          rfl
        · simp only [if_neg same]
          rfl
    | member vol =>
      cases here
      refine Prog.step_congr fun s => ?_
      dsimp only [Prog.bind]
      cases (if call.faults .getMember then none
          else s.members.find? call.req.targetServerID) with
      | none => rfl
      | some target =>
        dsimp only [joined]
        by_cases other : target.clusterID ≠ vol.clusterID
        · simp only [if_pos other]
          rfl
        · simp only [if_neg other]
          rfl
    | mark vol target =>
      cases here
      refine Prog.step_congr fun s => ?_
      dsimp only [Prog.bind, markMoving]
      cases (if call.faults .markStatus then (s, none)
          else s.updateVolumeStatus vol.id call.req.teamID .moving).2 with
      | none => rfl
      | some row =>
        dsimp only [marked, dispatchMove]
        cases call.unreachable with
        | true => rfl
        | false => rfl
    | wait vol =>
      cases here
      refine Prog.step_congr fun s => ?_
      exact (code_answered call vol _).symm
    | server vol =>
      cases here
      refine Prog.step_congr fun s => ?_
      dsimp only [Prog.bind, updateServer]
      cases (if call.faults .updateVolumeServer then (s, none)
          else s.updateVolumeServer vol.id call.req.teamID call.req.targetServerID
            vol.status).2 with
      | none => rfl
      | some row => rfl
    | list =>
      cases here
      refine Prog.step_congr fun s => ?_
      exact (code_copying call _).symm
    | copy name rest =>
      cases here
      refine Prog.step_congr fun s => ?_
      exact (code_copying call _).symm
    | write name content rest =>
      cases here
      refine Prog.step_congr fun s => ?_
      exact (code_writing call _).symm

end Point

def copies (call : Call) : Flow MoveStore Point := ⟨Point.act call⟩

/-- The handler a step starts. -/
def startHandler (s t : MoveStore) : List Point :=
  (t.agents.arrived.drop s.agents.arrived.length).map Point.start

theorem startHandler_of_arrived {s t : MoveStore} (same : t.agents.arrived = s.agents.arrived) :
    startHandler s t = [] := by
  simp [startHandler, same]

/-! ## Who runs where -/

inductive Kind where
  | control | agent | container | done
deriving DecidableEq

namespace Point

def kind : Point → Kind
  | .get | .member _ | .mark _ _ | .send _ _ | .wait _ | .fail _ | .server _ | .finish _ => .control
  | .list | .copy _ _ | .remove | .report _ => .agent
  | .write _ _ _ => .container
  | .halt => .done

def unsent : Point → Bool
  | .get | .member _ | .mark _ _ | .send _ _ => true
  | _ => false

/-- `Move` may still fail without a word from the agent, or fails. -/
def early : Point → Bool
  | .get | .member _ | .mark _ _ | .send _ _ | .fail _ | .finish false => true
  | _ => false

def waits : Point → Bool
  | .wait _ => true
  | _ => false

theorem early_of_waits {k : Point} (waiting : k.waits = true) : k.early = false := by
  cases k with
  | wait vol => rfl
  | _ => cases waiting

theorem control_of_waits {k : Point} (waiting : k.waits = true) : k.kind = .control := by
  cases k with
  | wait vol => rfl
  | _ => cases waiting

theorem control_of_early {k : Point} (first : k.early = true) : k.kind = .control := by
  cases k <;> first | rfl | cases first

theorem control_of_unsent {k : Point} (before : k.unsent = true) : k.kind = .control := by
  cases k <;> first | rfl | cases before

end Point

/-- `Move` is the first thread, and its one handler starts behind the `n` threads there are. -/
structure Shape (n : Nat) (threads : List Point) : Prop where
  control : ∀ (i : Nat) (k : Point), threads[i]? = some k → k.kind = .control → i = 0
  agent : ∀ (i : Nat) (k : Point), threads[i]? = some k → k.kind = .agent → i = n
  unsent : ∀ k ∈ threads, k.unsent = true → threads.length = n

section Shape

variable {n : Nat} {threads : List Point} {i : Nat} {k k' : Point}

theorem Shape.set (shape : Shape n threads) (here : threads[i]? = some k)
    (kind : k'.kind = k.kind ∨ k'.kind = .done) (unsent : k'.unsent = true → k.unsent = true) :
    Shape n (threads.set i k') := by
  have at_ : ∀ {j : Nat} {p : Point}, (threads.set i k')[j]? = some p →
      (j = i ∧ p = k') ∨ threads[j]? = some p := by
    intro j p there
    rw [List.getElem?_set] at there
    split at there
    · next same =>
      split at there
      · exact .inl ⟨same.symm, (Option.some.inj there).symm⟩
      · cases there
    · exact .inr there
  have same : ∀ {kind' : Kind}, kind' ≠ .done → k'.kind = kind' → k.kind = kind' := by
    rintro kind' live rfl
    rcases kind with eq | dead
    · exact eq.symm
    · exact absurd dead live
  refine ⟨?_, ?_, ?_⟩
  · intro j p there control
    rcases at_ there with ⟨rfl, rfl⟩ | old
    · exact shape.control j k here (same (by decide) control)
    · exact shape.control j p old control
  · intro j p there agent
    rcases at_ there with ⟨rfl, rfl⟩ | old
    · exact shape.agent j k here (same (by decide) agent)
    · exact shape.agent j p old agent
  · intro p member before
    rw [List.length_set]
    rcases List.mem_or_eq_of_mem_set member with old | rfl
    · exact shape.unsent p old before
    · exact shape.unsent k (List.mem_of_getElem? here) (unsent before)

theorem Shape.others (shape : Shape n threads) (here : threads[i]? = some k) {p : Point}
    (member : p ∈ threads.set i k') :
    p = k' ∨ (p ∈ threads ∧ (p.kind = .control → k.kind ≠ .control) ∧
      (p.kind = .agent → k.kind ≠ .agent)) := by
  obtain ⟨j, there⟩ := List.mem_iff_getElem?.mp member
  rw [List.getElem?_set] at there
  split at there
  · split at there
    · exact .inl (Option.some.inj there).symm
    · cases there
  · next other =>
    refine .inr ⟨List.mem_of_getElem? there, fun first control => other ?_,
      fun first agent => other ?_⟩
    · rw [shape.control i k here control, shape.control j p there first]
    · rw [shape.agent i k here agent, shape.agent j p there first]

theorem Shape.send {vol : Volume} {target : ClusterMember} (shape : Shape n threads)
    (here : threads[i]? = some (.send vol target)) {handler : Point}
    (kind : handler.kind = .agent ∨ handler.kind = .done) (sent : handler.unsent = false) :
    Shape n (threads.set i (.wait vol) ++ [handler]) := by
  have length : threads.length = n := shape.unsent _ (List.mem_of_getElem? here) rfl
  have base : Shape n (threads.set i (.wait vol)) := shape.set here (.inl rfl) fun no => nomatch no
  have at_ : ∀ {j : Nat} {p : Point}, (threads.set i (.wait vol) ++ [handler])[j]? = some p →
      (j = n ∧ p = handler) ∨ (threads.set i (.wait vol))[j]? = some p := by
    intro j p there
    rcases Nat.lt_or_ge j (threads.set i (.wait vol)).length with inside | outside
    · rw [List.getElem?_append_left inside] at there
      exact .inr there
    · rw [List.getElem?_append_right outside, List.length_set, length,
        List.getElem?_singleton] at there
      rw [List.length_set, length] at outside
      split at there
      · exact .inl ⟨by omega, (Option.some.inj there).symm⟩
      · cases there
  refine ⟨?_, ?_, ?_⟩
  · intro j p there control
    rcases at_ there with ⟨-, rfl⟩ | old
    · rw [control] at kind
      rcases kind with wrong | wrong <;> cases wrong
    · exact base.control j p old control
  · intro j p there agent
    rcases at_ there with ⟨same, -⟩ | old
    · exact same
    · exact base.agent j p old agent
  · intro p member before
    rcases List.mem_append.mp member with old | new
    · -- the first thread has sent its command, and no other thread sends one
      rcases shape.others here old with rfl | ⟨-, control, -⟩
      · cases before
      · exact absurd rfl (control (Point.control_of_unsent before))
    · rw [List.mem_singleton.mp new, sent] at before
      cases before

end Shape

/-! ## The invariant -/

section Safe

variable (call : Call) (n : Nat)

/-- The files still to read, and those that are at the target as they are. -/
def Reading (a : MoveAgent) (names : List String) : Prop :=
  a.removed = false ∧ (call.failsAfter = none → ∀ name content,
    a.contents.lookup name = some content →
      name ∈ names ∨ a.target.lookup name = some content)

/-- What a thread knows. -/
def Point.Sees (a : MoveAgent) : Point → Prop
  | .server _ => a.removed = true
  | .finish ok => ok = true → a.removed = true
  | .list => a.removed = false
  | .copy name rest => Reading call a (name :: rest)
  | .remove => a.removed = false ∧ a.target.Holds a.contents
  | .report success => success = true → a.removed = true
  | _ => True

structure Safe (c : MoveStore × List Point) : Prop where
  shape : Shape n c.2
  sees : ∀ k ∈ c.2, k.Sees call c.1.agents
  pending : ∀ k ∈ c.2, k.kind = .control → c.1.agents.returned = none
  late : c.1.agents.removed = true → ∀ k ∈ c.2, k.early = false
  kept : c.1.agents.removed = true →
    c.1.agents.target.Holds c.1.agents.contents ∧ c.1.agents.returned ≠ some false
  result : ∀ res, c.1.agents.result = some res → res.success = true → c.1.agents.removed = true
  success : c.1.agents.returned = some true → c.1.agents.removed = true

/-- The file is still to be read, if a copy is under way that will count. -/
def Point.stillReads (name : String) : Point → Prop
  | .copy next rest => call.failsAfter.isSome ∨ name ∈ next :: rest
  | .remove => False
  | _ => True

/-- A file is written while it is still to be read, or once the source is gone; the source is
removed while `Move` waits; `Move` stops waiting in vain only while the source is there; and the
statement that records the new server finds the row and does not fail. -/
def Point.Orderly (c : MoveStore × List Point) : Point → Prop
  | .write name _ _ => c.1.agents.removed = true ∨ ∀ k ∈ c.2, k.stillReads call name
  | .remove => ∃ k ∈ c.2, k.waits = true
  | .wait _ => (c.1.agents.result.all fun res => !res.success) → c.1.agents.removed = false
  | .server vol => call.faults .updateVolumeServer = false ∧
      (c.1.getVolume vol.id call.req.teamID).isSome
  | _ => True

def OrderlyMove (c : MoveStore × List Point) (i : Nat) : Prop :=
  ∀ k ∈ c.2[i]?, k.Orderly call c

instance (name : String) (k : Point) : Decidable (k.stillReads call name) :=
  match k with
  | .copy _ _ => inferInstanceAs (Decidable (_ ∨ _))
  | .remove => isFalse id
  | .get | .member _ | .mark _ _ | .send _ _ | .wait _ | .fail _ | .server _ | .finish _
  | .list | .report _ | .write _ _ _ | .halt => isTrue trivial

instance (c : MoveStore × List Point) (k : Point) : Decidable (k.Orderly call c) :=
  match k with
  | .write _ _ _ => inferInstanceAs (Decidable (_ ∨ ∀ _ ∈ _, _))
  | .remove => inferInstanceAs (Decidable (∃ _ ∈ _, _))
  | .wait _ => inferInstanceAs (Decidable (_ → _))
  | .server _ => inferInstanceAs (Decidable (_ ∧ _))
  | .get | .member _ | .mark _ _ | .send _ _ | .fail _ | .finish _
  | .list | .copy _ _ | .report _ | .halt => isTrue trivial

instance (c : MoveStore × List Point) (i : Nat) : Decidable (OrderlyMove call c i) :=
  inferInstanceAs (Decidable (∀ _ ∈ _, _))

variable {call n}

theorem sees_copying {a : MoveAgent} {names : List String} (reading : Reading call a names) :
    (Point.copying call names).Sees call a := by
  cases names with
  | cons name rest => exact reading
  | nil =>
    unfold Point.copying
    cases fails : call.failsAfter with
    | some count => exact fun no => nomatch no
    | none =>
      refine ⟨reading.1, fun name content found => ?_⟩
      exact (reading.2 fails name content found).resolve_left List.not_mem_nil

theorem kind_copying (names : List String) : (Point.copying call names).kind = .agent := by
  cases names with
  | cons name rest => rfl
  | nil =>
    unfold Point.copying
    cases call.failsAfter with
    | some count => rfl
    | none => rfl

theorem unsent_copying (names : List String) : (Point.copying call names).unsent = false := by
  cases names with
  | cons name rest => rfl
  | nil =>
    unfold Point.copying
    cases call.failsAfter with
    | some count => rfl
    | none => rfl

section Steps

variable {c : MoveStore × List Point} {i : Nat} {k k' : Point} {s' : MoveStore}

theorem Safe.same (safe : Safe call n c) (here : c.2[i]? = some k)
    (agents : s'.agents = c.1.agents) (kind : k'.kind = k.kind)
    (unsent : k'.unsent = true → k.unsent = true) (sees : k'.Sees call c.1.agents)
    (late : c.1.agents.removed = true → k'.early = false) :
    Safe call n (s', c.2.set i k' ++ startHandler c.1 s') := by
  rw [startHandler_of_arrived (congrArg MoveAgent.arrived agents), List.append_nil]
  refine ⟨safe.shape.set here (.inl kind) unsent, ?_, ?_, ?_, ?_, ?_, ?_⟩
  all_goals dsimp only; rw [agents]
  · intro p member
    rcases List.mem_or_eq_of_mem_set member with old | rfl
    · exact safe.sees p old
    · exact sees
  · intro p member control
    rcases List.mem_or_eq_of_mem_set member with old | rfl
    · exact safe.pending p old control
    · exact safe.pending k (List.mem_of_getElem? here) (kind.symm.trans control)
  · intro removed p member
    rcases List.mem_or_eq_of_mem_set member with old | rfl
    · exact safe.late removed p old
    · exact late removed
  · exact safe.kept
  · exact safe.result
  · exact safe.success

theorem Safe.send {vol : Volume} {target : ClusterMember} (safe : Safe call n c)
    (here : c.2[i]? = some (.send vol target)) :
    Safe call n (arrive call (Point.moving vol target) c.1, c.2.set i (.wait vol) ++
      startHandler c.1 (arrive call (Point.moving vol target) c.1)) := by
  have there : c.1.agents.removed = false := by
    cases removed : c.1.agents.removed with
    | false => rfl
    | true => cases safe.late removed _ (List.mem_of_getElem? here)
  unfold arrive
  cases call.lost with
  | true => exact safe.same here rfl rfl (fun no => nomatch no) trivial (fun _ => rfl)
  | false =>
    have started : startHandler c.1 { c.1 with agents := { c.1.agents with
        arrived := c.1.agents.arrived ++ [Point.moving vol target] } } =
          [Point.start (Point.moving vol target)] := by
      simp [startHandler]
    have handler : Point.start (Point.moving vol target) = .report false ∨
        Point.start (Point.moving vol target) = .list := by
      unfold Point.start Point.moving
      dsimp only
      split
      · exact .inl rfl
      · exact .inr rfl
    simp only [Bool.false_eq_true, if_false]
    rw [started]
    refine ⟨safe.shape.send here ?_ ?_, ?_, ?_, ?_, ?_, safe.result, safe.success⟩
    · rcases handler with eq | eq <;> rw [eq] <;> exact .inl rfl
    · rcases handler with eq | eq <;> rw [eq] <;> rfl
    · intro p member
      rcases List.mem_append.mp member with old | new
      · rcases List.mem_or_eq_of_mem_set old with stays | rfl
        · exact safe.sees p stays
        · trivial
      · rw [List.mem_singleton.mp new]
        rcases handler with eq | eq <;> rw [eq]
        · exact fun no => nomatch no
        · exact there
    · intro _ _ _
      exact safe.pending _ (List.mem_of_getElem? here) rfl
    · intro removed
      rw [there] at removed
      cases removed
    · intro removed
      rw [there] at removed
      cases removed

/-- What the threads beside the handler see does not depend on the files. -/
theorem Point.Sees.beside {a a' : MoveAgent} {p : Point} (sees : p.Sees call a)
    (removed : a'.removed = a.removed) (other : p.kind ≠ .agent) : p.Sees call a' := by
  cases p with
  | server vol => exact removed.trans sees
  | finish ok => exact fun success => removed.trans (sees success)
  | list => exact absurd rfl other
  | copy name rest => exact absurd rfl other
  | remove => exact absurd rfl other
  | report success => exact absurd rfl other
  | _ => trivial

theorem Safe.finish {ok : Bool} (safe : Safe call n c) (here : c.2[i]? = some (.finish ok)) :
    Safe call n (returns ok c.1, c.2.set i .halt ++ startHandler c.1 (returns ok c.1)) := by
  have inside := List.mem_of_getElem? here
  have started : startHandler c.1 (returns ok c.1) = [] := startHandler_of_arrived rfl
  rw [started, List.append_nil]
  refine ⟨safe.shape.set here (.inr rfl) (fun no => nomatch no), ?_, ?_, ?_, ?_, safe.result, ?_⟩
  · intro p member
    rcases List.mem_or_eq_of_mem_set member with old | rfl
    · have sees := safe.sees p old
      cases p <;> exact sees
    · trivial
  · intro p member control
    rcases safe.shape.others here member with rfl | ⟨-, first, -⟩
    · cases control
    · exact absurd rfl (first control)
  · intro removed p member
    rcases List.mem_or_eq_of_mem_set member with old | rfl
    · exact safe.late removed p old
    · rfl
  · intro removed
    refine ⟨(safe.kept removed).1, fun failed => ?_⟩
    cases Option.some.inj failed
    cases safe.late removed _ inside
  · intro success
    exact safe.sees _ inside (Option.some.inj success)

theorem Safe.copy {name : String} {rest : List String} (safe : Safe call n c)
    (here : c.2[i]? = some (.copy name rest)) :
    Safe call n (Move.copy name c.1, c.2.set i (Point.copying call rest) ++
      startHandler c.1 (Move.copy name c.1)) := by
  have inside := List.mem_of_getElem? here
  obtain ⟨there, reading⟩ := safe.sees _ inside
  have source : c.1.agents.source = c.1.agents.contents := by
    unfold MoveAgent.source
    rw [there]
    rfl
  have kind : (Point.copying call rest).kind = (Point.copy name rest).kind := kind_copying rest
  have unsent : (Point.copying call rest).unsent = true → (Point.copy name rest).unsent = true := by
    rw [unsent_copying]
    exact fun no => nomatch no
  have early : c.1.agents.removed = true → ∀ {P : Prop}, P := by
    intro removed
    rw [there] at removed
    cases removed
  unfold Move.copy
  rw [source]
  cases found : c.1.agents.contents.lookup name with
  | none =>
    refine safe.same here rfl kind unsent (sees_copying ⟨there, ?_⟩) fun removed => early removed
    intro fails file content stored
    rcases reading fails file content stored with next | held
    · rcases List.mem_cons.mp next with rfl | later
      · rw [found] at stored
        cases stored
      · exact .inl later
    · exact .inr held
  | some content =>
    have started : startHandler c.1 { c.1 with agents := { c.1.agents with
        target := c.1.agents.target.write name content } } = [] := startHandler_of_arrived rfl
    dsimp only
    rw [started, List.append_nil]
    refine ⟨safe.shape.set here (.inl kind) unsent, ?_, ?_, fun removed => early removed,
      fun removed => early removed, safe.result, safe.success⟩
    · intro p member
      rcases safe.shape.others here member with rfl | ⟨old, -, agent⟩
      · refine sees_copying ⟨there, fun fails file content' stored => ?_⟩
        dsimp only at stored ⊢
        rw [Dir.lookup_write]
        by_cases same : file = name
        · rw [same, found] at stored
          exact .inr ((if_pos same).trans stored)
        · rw [if_neg same]
          rcases reading fails file content' stored with next | held
          · exact .inl ((List.mem_cons.mp next).resolve_left same)
          · exact .inr held
      · exact (safe.sees p old).beside rfl fun first => agent first rfl
    · intro p member control
      rcases safe.shape.others here member with rfl | ⟨old, -, -⟩
      · rw [kind] at control
        cases control
      · exact safe.pending p old control

theorem Safe.remove (safe : Safe call n c) (here : c.2[i]? = some .remove)
    (waits : ∃ k ∈ c.2, k.waits = true) :
    Safe call n (removeSource c.1, c.2.set i (.report true) ++
      startHandler c.1 (removeSource c.1)) := by
  obtain ⟨-, holds⟩ := safe.sees _ (List.mem_of_getElem? here)
  have started : startHandler c.1 (removeSource c.1) = [] := startHandler_of_arrived rfl
  obtain ⟨w, waiting, waits⟩ := waits
  have control := Point.control_of_waits waits
  obtain ⟨w0, atFront⟩ := List.mem_iff_getElem?.mp waiting
  rw [started, List.append_nil]
  refine ⟨safe.shape.set here (.inl rfl) (fun no => nomatch no), ?_, ?_, ?_, ?_, ?_, ?_⟩
  · intro p member
    rcases safe.shape.others here member with rfl | ⟨old, -, agent⟩
    · exact fun _ => rfl
    · have sees := safe.sees p old
      cases p with
      | server vol => rfl
      | finish ok => exact fun _ => rfl
      | list => exact absurd rfl (agent rfl)
      | copy name rest => exact absurd rfl (agent rfl)
      | remove => exact absurd rfl (agent rfl)
      | report success => exact fun _ => rfl
      | _ => trivial
  · intro p member first
    rcases safe.shape.others here member with rfl | ⟨old, -, -⟩
    · cases first
    · exact safe.pending p old first
  · -- the one thread of `Move` is the one that waits
    intro _ p member
    rcases List.mem_or_eq_of_mem_set member with old | rfl
    · cases quick : p.early with
      | false => rfl
      | true =>
        have first := Point.control_of_early quick
        obtain ⟨j, there⟩ := List.mem_iff_getElem?.mp old
        rw [safe.shape.control j p there first] at there
        rw [safe.shape.control w0 w atFront control] at atFront
        cases Option.some.inj (there.symm.trans atFront)
        rw [Point.early_of_waits waits] at quick
        cases quick
    · rfl
  · intro _
    refine ⟨holds, ?_⟩
    rw [show (removeSource c.1).agents.returned = none from safe.pending w waiting control]
    exact fun no => nomatch no
  · exact fun _ _ _ => rfl
  · exact fun _ => rfl

theorem Point.aside {p : Point} (kind : p.kind = .container ∨ p.kind = .done) (a : MoveAgent) :
    p.Sees call a ∧ p.early = false ∧ p.unsent = false ∧ p.kind ≠ .control := by
  cases p with
  | write name content rest => exact ⟨trivial, rfl, rfl, fun no => nomatch no⟩
  | halt => exact ⟨trivial, rfl, rfl, fun no => nomatch no⟩
  | _ => rcases kind with no | no <;> cases no

/-- A step of a handler or a container that is its last or leaves the files alone. -/
theorem Safe.aside (safe : Safe call n c) (here : c.2[i]? = some k)
    (kind : k'.kind = k.kind ∨ k'.kind = .done) (aside : k'.kind = .container ∨ k'.kind = .done)
    {result : Option VolumeResult}
    (reported : ∀ res, result = some res → res.success = true → c.1.agents.removed = true) :
    Safe call n ({ c.1 with agents := { c.1.agents with result := result } }, c.2.set i k') := by
  obtain ⟨-, early, unsent, control⟩ : k'.Sees call c.1.agents ∧ _ := Point.aside aside _
  refine ⟨safe.shape.set here kind ?_, ?_, ?_, ?_, safe.kept, reported, safe.success⟩
  · rw [unsent]
    exact fun no => nomatch no
  · intro p member
    rcases List.mem_or_eq_of_mem_set member with old | rfl
    · have seen := safe.sees p old
      cases p <;> exact seen
    · exact (Point.aside aside _).1
  · intro p member first
    rcases List.mem_or_eq_of_mem_set member with old | rfl
    · exact safe.pending p old first
    · exact absurd first control
  · intro removed p member
    rcases List.mem_or_eq_of_mem_set member with old | rfl
    · exact safe.late removed p old
    · exact early

theorem Safe.report {success : Bool} (safe : Safe call n c)
    (here : c.2[i]? = some (.report success)) :
    Safe call n (answer call success c.1, c.2.set i .halt ++
      startHandler c.1 (answer call success c.1)) := by
  have known := safe.sees _ (List.mem_of_getElem? here)
  have started : startHandler c.1 (answer call success c.1) = [] := by
    unfold answer
    split <;> exact startHandler_of_arrived rfl
  rw [started, List.append_nil]
  unfold answer
  split
  · exact safe.aside here (.inr rfl) (.inr rfl) safe.result
  · refine safe.aside here (.inr rfl) (.inr rfl) fun res answered reported => ?_
    cases Option.some.inj answered
    exact known reported

theorem Safe.write {name content : String} {rest : List (String × String)} (safe : Safe call n c)
    (here : c.2[i]? = some (.write name content rest))
    (orderly : c.1.agents.removed = true ∨ ∀ k ∈ c.2, k.stillReads call name) :
    Safe call n (Move.write name content c.1, c.2.set i (Point.writing rest) ++
      startHandler c.1 (Move.write name content c.1)) := by
  have kind : (Point.writing rest).kind = .container ∨ (Point.writing rest).kind = .done := by
    cases rest with
    | nil => exact .inr rfl
    | cons next rest => exact .inl rfl
  have started : startHandler c.1 (Move.write name content c.1) = [] := by
    unfold Move.write
    split <;> exact startHandler_of_arrived rfl
  rw [started, List.append_nil]
  unfold Move.write
  split
  · exact safe.aside here kind kind safe.result
  · next there =>
    have still := orderly.resolve_left there
    have base := safe.aside here kind kind safe.result
    have never : c.1.agents.removed = true → ∀ {P : Prop}, P := fun removed => absurd removed there
    refine ⟨base.shape, ?_, base.pending, fun removed => never removed,
      fun removed => never removed, base.result, base.success⟩
    intro p member
    rcases List.mem_or_eq_of_mem_set member with old | rfl
    · have seen := safe.sees p old
      have spared := still p old
      cases p with
      | copy next files =>
        refine ⟨seen.1, fun fails file content' stored => ?_⟩
        dsimp only at stored ⊢
        rw [Dir.lookup_write] at stored
        by_cases same : file = name
        · rw [same]
          refine .inl (spared.resolve_left fun failing => ?_)
          rw [fails] at failing
          cases failing
        · rw [if_neg same] at stored
          exact seen.2 fails file content' stored
      | remove => exact spared.elim
      | _ => exact seen
    · exact (Point.aside kind _).1

theorem Safe.early (safe : Safe call n c) (here : c.2[i]? = some k) (first : k.early = true)
    (agents : s'.agents = c.1.agents) (unsent : k'.unsent = true → k.unsent = true)
    (next : k'.kind = .control ∧ k'.Sees call c.1.agents) :
    Safe call n (s', c.2.set i k' ++ startHandler c.1 s') := by
  have kind : k'.kind = k.kind := next.1.trans (Point.control_of_early first).symm
  refine safe.same here agents kind unsent next.2 fun removed => ?_
  rw [safe.late removed k (List.mem_of_getElem? here)] at first
  cases first

end Steps

/-! ## Where the steps of `Move` lead -/

section Next

variable {a : MoveAgent}

theorem finish_next : (Point.finish false).kind = .control ∧ (Point.finish false).Sees call a :=
  ⟨rfl, fun no => nomatch no⟩

theorem gotten_next (row : Option Volume) :
    (Point.gotten call row).kind = .control ∧ (Point.gotten call row).Sees call a := by
  cases row with
  | none => exact finish_next
  | some vol =>
    by_cases busy : vol.status ≠ .unattached ∧ vol.status ≠ .attached
    · simp only [Point.gotten, if_pos busy]
      exact finish_next
    by_cases same : call.req.targetServerID = vol.serverID
    · simp only [Point.gotten, if_neg busy, if_pos same]
      exact finish_next
    · simp only [Point.gotten, if_neg busy, if_neg same]
      exact ⟨rfl, trivial⟩

theorem joined_next (vol : Volume) (row : Option ClusterMember) :
    (Point.joined vol row).kind = .control ∧ (Point.joined vol row).Sees call a := by
  cases row with
  | none => exact finish_next
  | some target =>
    by_cases other : target.clusterID ≠ vol.clusterID
    · simp only [Point.joined, if_pos other]
      exact finish_next
    · simp only [Point.joined, if_neg other]
      exact ⟨rfl, trivial⟩

theorem marked_next (vol : Volume) (target : ClusterMember) (row : Option Volume) :
    (Point.marked call vol target row).kind = .control ∧
      (Point.marked call vol target row).Sees call a := by
  cases row with
  | none => exact finish_next
  | some updated =>
    unfold Point.marked
    cases call.unreachable with
    | true => exact ⟨rfl, trivial⟩
    | false => exact ⟨rfl, trivial⟩

theorem agents_updateServer (vol : Volume) (s : MoveStore) :
    (Point.updateServer call vol s).1.agents = s.agents := by
  unfold Point.updateServer
  split <;> rfl

theorem agents_markMoving (vol : Volume) (s : MoveStore) :
    (Point.markMoving call vol s).1.agents = s.agents := by
  unfold Point.markMoving
  split <;> rfl

theorem agents_failStatus (vol : Volume) (s : MoveStore) :
    (Point.failStatus call vol s).1.agents = s.agents := by
  unfold Point.failStatus
  split <;> rfl

theorem updateServer_isSome {vol : Volume} {s : MoveStore}
    (works : call.faults .updateVolumeServer = false)
    (found : (s.getVolume vol.id call.req.teamID).isSome) :
    (Point.updateServer call vol s).2.isSome = true := by
  unfold Point.updateServer
  rw [works]
  exact (Option.isSome_map ..).trans found

end Next

/-! ## Runs -/

/-- **One step.**  rsync's files are all the files it finds. -/
theorem Safe.advance (covers : ∀ names, ∀ name ∈ names, name ∈ call.order names)
    {c : MoveStore × List Point} (safe : Safe call n c) {i : Nat}
    (orderly : OrderlyMove call c i) : Safe call n ((copies call).advance startHandler c i) := by
  obtain ⟨same, -⟩ | ⟨k, effect, next, here, edge, moved⟩ :=
    (copies call).advance_split startHandler c i
  · rw [same]
    exact safe
  rw [moved]
  have inside := List.mem_of_getElem? here
  have known := safe.sees k inside
  have ok : k.Orderly call c := orderly k here
  cases k with
  | halt => cases edge
  | get =>
    cases edge
    exact safe.early here rfl rfl (fun _ => rfl) (gotten_next _)
  | member vol =>
    cases edge
    exact safe.early here rfl rfl (fun _ => rfl) (joined_next vol _)
  | mark vol target =>
    cases edge
    exact safe.early here rfl (agents_markMoving vol c.1) (fun _ => rfl) (marked_next vol target _)
  | send vol target =>
    cases edge
    exact safe.send here
  | wait vol =>
    cases edge
    unfold Point.answered
    by_cases failed : (c.1.agents.result.all fun res => !res.success) = true
    · simp only [if_pos failed]
      have there : c.1.agents.removed = false := ok failed
      refine safe.same here rfl rfl (fun no => nomatch no) trivial fun removed => ?_
      rw [there] at removed
      cases removed
    · simp only [if_neg failed]
      refine safe.same here rfl rfl (fun no => nomatch no) ?_ fun _ => rfl
      cases answered : c.1.agents.result with
      | none => simp [answered] at failed
      | some res => exact safe.result res answered (by simpa [answered] using failed)
  | fail vol =>
    cases edge
    exact safe.early here rfl (agents_failStatus vol c.1) (fun no => nomatch no) finish_next
  | server vol =>
    cases edge
    have done : (Point.updateServer call vol c.1).2.isSome = true :=
      updateServer_isSome ok.1 ok.2
    dsimp only
    rw [done]
    exact safe.same here (agents_updateServer vol c.1) rfl (fun no => nomatch no)
      (fun _ => known) fun _ => rfl
  | finish success =>
    cases edge
    exact safe.finish here
  | list =>
    cases edge
    have there : c.1.agents.removed = false := known
    refine safe.same here rfl (kind_copying _) ?_ (sees_copying ⟨there, ?_⟩) fun removed => ?_
    · rw [unsent_copying]
      exact fun no => nomatch no
    · intro fails name content stored
      refine .inl ?_
      unfold Call.reads MoveAgent.source
      rw [fails, there]
      exact covers _ _ (Dir.mem_names stored)
    · rw [there] at removed
      cases removed
  | copy name rest =>
    cases edge
    exact safe.copy here
  | remove =>
    cases edge
    exact safe.remove here ok
  | report success =>
    cases edge
    exact safe.report here
  | write name content rest =>
    cases edge
    exact safe.write here ok

theorem Safe.start {s : MoveStore} (writers : List (List (String × String)))
    (there : s.agents.removed = false) (unreturned : s.agents.returned = none)
    (unanswered : s.agents.result = none) :
    Safe call (writers.length + 1) (s, .get :: writers.map Point.writing) := by
  have kinds : ∀ k ∈ writers.map Point.writing, k.kind = .container ∨ k.kind = .done := by
    intro k member
    obtain ⟨writes, -, rfl⟩ := List.mem_map.mp member
    cases writes with
    | nil => exact .inr rfl
    | cons first rest => exact .inl rfl
  have never : s.agents.removed = true → ∀ {P : Prop}, P := by
    intro removed
    rw [there] at removed
    cases removed
  refine ⟨⟨?_, ?_, ?_⟩, ?_, fun _ _ _ => unreturned, fun removed => never removed,
    fun removed => never removed, ?_, ?_⟩
  · intro i k at_ control
    cases i with
    | zero => rfl
    | succ i =>
      have aside := kinds k (List.mem_of_getElem? at_)
      rw [control] at aside
      rcases aside with no | no <;> cases no
  · intro i k at_ agent
    cases i with
    | zero =>
      cases Option.some.inj at_
      cases agent
    | succ i =>
      have aside := kinds k (List.mem_of_getElem? at_)
      rw [agent] at aside
      rcases aside with no | no <;> cases no
  · intro _ _ _
    simp
  · intro k member
    rcases List.mem_cons.mp member with rfl | other
    · trivial
    · exact (Point.aside (kinds k other) _).1
  · intro res answered
    rw [unanswered] at answered
    cases answered
  · intro success
    rw [unreturned] at success
    cases success

end Safe

/-- `Move` beside the containers that write to the volume. -/
def moveAndWriters (call : Call) (s : MoveStore) (writers : List (List (String × String))) :
    Pool MoveStore :=
  ⟨s, call.code :: writers.map writer⟩

theorem moveAndWriters_run (call : Call) (s : MoveStore) (writers : List (List (String × String)))
    (schedule : List Nat) :
    (moveAndWriters call s writers).run (spawnHandler call) schedule =
      Flow.pool (Point.code call)
        ((copies call).run startHandler (s, .get :: writers.map Point.writing) schedule) := by
  have spawned : spawnHandler call =
      fun s t => (startHandler s t).map (Point.code call) := by
    funext s t
    unfold spawnHandler startHandler
    rw [List.map_map]
    exact List.map_congr_left fun command _ => (Point.code_start call command).symm
  have pool : moveAndWriters call s writers =
      Flow.pool (Point.code call) (s, .get :: writers.map Point.writing) := by
    unfold moveAndWriters Flow.pool
    rw [List.map_cons, List.map_map]
    refine congrArg (Pool.mk s) (congrArg (call.code :: ·) ?_)
    exact List.map_congr_left fun writes _ => (Point.code_writing call writes).symm
  rw [spawned, pool]
  exact Flow.run_coded (Point.presents call) startHandler _ schedule

/-- **A move under writes.**  For all contents, all writers and every interleaving of their writes
with `Move` and its handler: where every file is written while it is still to be read (or once the
source is gone), the source is removed while `Move` waits, `Move` gives up only while the source
is there, and the new server can be recorded, a `Move` that has succeeded has every write at the
target, and one that has failed has left the source as it is. -/
theorem move_loses_nothing {call : Call} {s : MoveStore}
    (writers : List (List (String × String)))
    (reads : ∀ names, (call.order names).Perm names) (there : s.agents.removed = false)
    (unreturned : s.agents.returned = none) (unanswered : s.agents.result = none)
    {schedule : List Nat}
    (orderly : (copies call).Along startHandler (OrderlyMove call)
      (s, .get :: writers.map Point.writing) schedule) :
    ∀ earlier, earlier <+: schedule →
      let final := ((moveAndWriters call s writers).run (spawnHandler call) earlier).store.agents
      (final.returned = some true → final.target.Holds final.contents) ∧
        (final.returned = some false → final.source = final.contents) := by
  rintro earlier ⟨later, rfl⟩
  have covers : ∀ names, ∀ name ∈ names, name ∈ call.order names :=
    fun names name member => (reads names).mem_iff.mpr member
  have safe : Safe call (writers.length + 1) ((copies call).run startHandler
      (s, .get :: writers.map Point.writing) earlier) :=
    Flow.Along.invariant (fun _ _ orderly safe => safe.advance covers orderly)
      (Flow.along_append.mp orderly).1 (Safe.start writers there unreturned unanswered)
  rw [moveAndWriters_run]
  constructor
  · intro success
    exact (safe.kept (safe.success success)).1
  · intro failed
    have kept : (((copies call).run startHandler
        (s, .get :: writers.map Point.writing) earlier)).1.agents.removed = false := by
      cases removed : (((copies call).run startHandler
          (s, .get :: writers.map Point.writing) earlier)).1.agents.removed with
      | false => rfl
      | true => exact absurd failed (safe.kept removed).2
    show MoveAgent.source _ = _
    unfold MoveAgent.source
    rw [show (Flow.pool (Point.code call) _).store.agents.removed = false from kept]
    rfl

/-! ## A container that is quiet, and one that is not -/

/-- An attached volume with two files, and a server to move it to. -/
def attachedVolume : MoveStore :=
  { volumes := ⟨[{ id := 7, teamID := 1, clusterID := 5, serverID := 21, name := "data",
                   sizeGb := 10, mountPath := some "/data", containerName := some "app",
                   status := .attached, hostPath := volumeHostPath 7 }], by decide⟩
    members := ⟨[{ serverID := 22, clusterID := 5, wireguardIp := "10.0.0.2" }], by decide⟩
    agents := { contents := [("a", "1"), ("b", "2")] } }

def toOther : Call := { req := { teamID := 1, volumeID := 7, targetServerID := 22 } }

/-- The container writes before the copy, and again when the source is gone. -/
def quietSchedule : List Nat := [0, 0, 0, 0, 1, 2, 2, 2, 2, 2, 0, 0, 0, 1]

theorem quiet_move :
    let final := ((moveAndWriters toOther attachedVolume [[("a", "3"), ("a", "4")]]).run
      (spawnHandler toOther) quietSchedule).store.agents
    final.returned = some true ∧ final.target.lookup "a" = some "3" ∧
      final.target.Holds final.contents := by
  have success : ((moveAndWriters toOther attachedVolume [[("a", "3"), ("a", "4")]]).run
      (spawnHandler toOther) quietSchedule).store.agents.returned = some true := by decide
  refine ⟨success, by decide, ?_⟩
  have orderly : (copies toOther).Along startHandler (OrderlyMove toOther)
      (attachedVolume, .get :: [[("a", "3"), ("a", "4")]].map Point.writing) quietSchedule := by
    decide
  exact (move_loses_nothing _ (fun names => List.Perm.refl names) rfl rfl rfl orderly
    quietSchedule List.prefix_rfl).1 success

/-- **Moves that lose.**  A write behind the copy of its file is not at the target, and the source
is gone; and a result that is lost makes `Move` fail with the source removed. -/
theorem moves_that_lose :
    (∃ schedule, let final := ((moveAndWriters toOther attachedVolume [[("a", "3")]]).run
        (spawnHandler toOther) schedule).store.agents
      final.returned = some true ∧ final.contents.lookup "a" = some "3" ∧
        final.target.lookup "a" = some "1" ∧ final.source.lookup "a" = none) ∧
    ∃ schedule, let final := ((moveAndWriters { toOther with silent := true } attachedVolume []).run
        (spawnHandler { toOther with silent := true }) schedule).store.agents
      final.returned = some false ∧ final.contents.lookup "a" = some "1" ∧
        final.source.lookup "a" = none := by
  refine ⟨⟨[0, 0, 0, 0, 2, 2, 1, 2, 2, 2, 0, 0, 0], by decide⟩, ?_⟩
  exact ⟨[0, 0, 0, 0, 1, 1, 1, 1, 1, 0, 0, 0], by decide⟩

end Nixway.Volumes.Move
