/-
# Volumes.Resize -- the recorded size and the size of the image

`Resize` checks the size it is asked for against the row, sends the command, and stores the size
when the agent has answered; `HandleVolumeResize` checks it against the image file, grows the
file and lets the file system follow.  Each check and each write is a step of its own, requests
overlap, and a result may be lost or come too late.

`sizes_agree` gives the runs in which the stored size never decreases and is the size of the
image once nothing is under way.  Between the growth of the image and the store of its size the
two differ; the invariant `Tracks` keeps account of the requests in between.
-/
import Nixway.Volumes.Service
import Nixway.Theory.Pool

namespace Nixway.Volumes

open Nixway.Theory Nixway.Store
open Nixway.Theory.Prog (query exec atomic ignore)

set_option autoImplicit false

/-! ## The agent -/

/-- A `Resize` request, with how its command fares. -/
structure ResizeCall where
  requestID : UUID
  teamID : UUID
  volumeID : UUID
  newSizeGb : Int
  /-- The command cannot be sent. -/
  unreachable : Bool := false
  /-- It is sent and does not arrive. -/
  lost : Bool := false
  truncateFails : Bool := false
  /-- One of the tools behind `truncate` fails. -/
  toolsFail : Bool := false
  /-- The result does not come back. -/
  silent : Bool := false
deriving DecidableEq

structure ImageAgent where
  /-- The size of the image file of the volume, in bytes. -/
  image : Int
  /-- The commands that have arrived. -/
  arrived : List (ResizeCall × VolumeCommand) := []
  results : List (UUID × VolumeResult) := []
  /-- The requests whose command has grown the file. -/
  grown : List ResizeCall := []

abbrev ResizeStore := VolumeStore ImageAgent

def gib : Int := 1024 * 1024 * 1024

namespace VolumeStore

/-- A command arrives, unless it is lost. -/
def arrive (s : ResizeStore) (r : ResizeCall) (command : VolumeCommand) : ResizeStore :=
  if r.lost then s
  else { s with agents := { s.agents with arrived := s.agents.arrived ++ [(r, command)] } }

/-- A result comes back, unless it is lost. -/
def answer (s : ResizeStore) (r : ResizeCall) (success : Bool) : ResizeStore :=
  if r.silent then s
  else
    { s with agents := { s.agents with
        results := s.agents.results ++ [(r.requestID, { success := success })] } }

/-- The image file is grown. -/
def truncate (s : ResizeStore) (r : ResizeCall) (newSizeGb : Int) : ResizeStore :=
  { s with agents := { s.agents with
      image := newSizeGb * gib, grown := r :: s.agents.grown } }

end VolumeStore

/-- `HandleVolumeResize` with `growLoopbackVolume`, for a volume with an image file. -/
def handleVolumeResize (r : ResizeCall) (hostPath : String) (newSizeGb : Int) :
    Prog ResizeStore Unit := do
  if hostPath = "" then
    exec fun s => s.answer r false
  else if newSizeGb ≤ 0 then
    exec fun s => s.answer r false
  else
    let current ← query fun s => s.agents.image
    if newSizeGb * gib ≤ current then
      exec fun s => s.answer r false
    else if r.truncateFails then
      exec fun s => s.answer r false
    else
      exec fun s => s.truncate r newSizeGb
      exec fun s => s.answer r (!r.toolsFail)

/-- The agent starts a handler for every command that arrives. -/
def handle : ResizeCall × VolumeCommand → Prog ResizeStore Unit
  | (r, .resize _ hostPath newSizeGb) => handleVolumeResize r hostPath newSizeGb
  | _ => .done ()

def spawnHandlers : Spawn ResizeStore := fun s t =>
  (t.agents.arrived.drop s.agents.arrived.length).map handle

/-- The command is sent, and the request looks for a result when it stops waiting. -/
def dispatchResize (r : ResizeCall) : Dispatch ImageAgent := fun _ _ command => do
  if r.unreachable then
    return none
  exec fun s => s.arrive r command
  query fun s => s.agents.results.lookup r.requestID

def noFaults : Faults := fun _ => false

def ResizeCall.code (r : ResizeCall) : Prog ResizeStore Unit :=
  ignore (resize noFaults (dispatchResize r) r.teamID r.volumeID r.newSizeGb)

/-! ## Requests and handlers, step by step -/

inductive ResizePoint where
  | get (r : ResizeCall)
  | mark (r : ResizeCall) (vol : Volume)
  | send (r : ResizeCall) (vol : Volume)
  | wait (r : ResizeCall) (vol : Volume)
  | undo (r : ResizeCall) (vol : Volume)
  | size (r : ResizeCall) (vol : Volume)
  | restore (r : ResizeCall) (vol : Volume)
  | stat (r : ResizeCall) (newSizeGb : Int)
  | grow (r : ResizeCall) (newSizeGb : Int)
  | report (r : ResizeCall) (success : Bool)
  | halt

namespace ResizePoint

def read (r : ResizeCall) : Option Volume → ResizePoint
  | none => .halt
  | some vol => if r.newSizeGb ≤ vol.sizeGb then .halt else .mark r vol

def marked (r : ResizeCall) (vol : Volume) : Option Volume → ResizePoint
  | none => .halt
  | some _ => if r.unreachable then .undo r vol else .send r vol

def answered (r : ResizeCall) (vol : Volume) (answer : Option VolumeResult) : ResizePoint :=
  if answer.all fun res => !res.success then .undo r vol else .size r vol

def sized (r : ResizeCall) (vol : Volume) : Option Volume → ResizePoint
  | none => .halt
  | some _ => .restore r vol

def statted (r : ResizeCall) (newSizeGb current : Int) : ResizePoint :=
  if newSizeGb * gib ≤ current then .report r false
  else if r.truncateFails then .report r false
  else .grow r newSizeGb

def start : ResizeCall × VolumeCommand → ResizePoint
  | (r, .resize _ hostPath newSizeGb) =>
    if hostPath = "" then .report r false
    else if newSizeGb ≤ 0 then .report r false
    else .stat r newSizeGb
  | _ => .halt

def act : ResizePoint → Option ((ResizeStore → ResizeStore) × (ResizeStore → ResizePoint))
  | .get r => some (id, fun s => read r (s.getVolume r.volumeID r.teamID))
  | .mark r vol => some (fun s => (s.updateVolumeStatus vol.id r.teamID .resizing).1,
      fun s => marked r vol (s.updateVolumeStatus vol.id r.teamID .resizing).2)
  | .send r vol => some (fun s => s.arrive r (.resize vol.id vol.hostPath r.newSizeGb),
      fun _ => .wait r vol)
  | .wait r vol => some (id, fun s => answered r vol (s.agents.results.lookup r.requestID))
  | .undo r vol => some (fun s => (s.updateVolumeStatus vol.id r.teamID vol.status).1,
      fun _ => .halt)
  | .size r vol => some (fun s => (s.updateVolumeSize vol.id r.teamID r.newSizeGb).1,
      fun s => sized r vol (s.updateVolumeSize vol.id r.teamID r.newSizeGb).2)
  | .restore r vol => some (fun s => (s.updateVolumeStatus vol.id r.teamID vol.status).1,
      fun _ => .halt)
  | .stat r newSizeGb => some (id, fun s => statted r newSizeGb s.agents.image)
  | .grow r newSizeGb => some (fun s => s.truncate r newSizeGb, fun _ => .report r (!r.toolsFail))
  | .report r success => some (fun s => s.answer r success, fun _ => .halt)
  | .halt => none

def code : ResizePoint → Prog ResizeStore Unit
  | .get r => r.code
  | .mark r vol => ignore (do
      let some _ ← statement false fun s => s.updateVolumeStatus vol.id r.teamID .resizing
        | return .error .markResizing
      let answer ← dispatchResize r r.teamID vol.serverID (.resize vol.id vol.hostPath r.newSizeGb)
      settleResize noFaults r.teamID r.newSizeGb vol answer)
  | .send r vol => ignore (do
      exec fun s => s.arrive r (.resize vol.id vol.hostPath r.newSizeGb)
      let answer ← query fun s => s.agents.results.lookup r.requestID
      settleResize noFaults r.teamID r.newSizeGb vol answer)
  | .wait r vol => ignore (do
      let answer ← query fun s => s.agents.results.lookup r.requestID
      settleResize noFaults r.teamID r.newSizeGb vol answer)
  | .undo r vol => .step (fun s => (s.updateVolumeStatus vol.id r.teamID vol.status).1)
      fun _ => .done ()
  | .size r vol => ignore (do
      let some updated ← statement false fun s => s.updateVolumeSize vol.id r.teamID r.newSizeGb
        | return (.error .updateSize : Except VolumeError Volume)
      let _ ← statement false fun s => s.updateVolumeStatus vol.id r.teamID vol.status
      return .ok updated)
  | .restore r vol => .step (fun s => (s.updateVolumeStatus vol.id r.teamID vol.status).1)
      fun _ => .done ()
  | .stat r newSizeGb => do
    let current ← query fun s => s.agents.image
    if newSizeGb * gib ≤ current then
      exec fun s => s.answer r false
    else if r.truncateFails then
      exec fun s => s.answer r false
    else
      exec fun s => s.truncate r newSizeGb
      exec fun s => s.answer r (!r.toolsFail)
  | .grow r newSizeGb => do
    exec fun s => s.truncate r newSizeGb
    exec fun s => s.answer r (!r.toolsFail)
  | .report r success => exec fun s => s.answer r success
  | .halt => .done ()

theorem code_start (command : ResizeCall × VolumeCommand) : (start command).code = handle command := by
  obtain ⟨r, command⟩ := command
  cases command with
  | resize id hostPath newSizeGb =>
    unfold start handle handleVolumeResize
    by_cases empty : hostPath = ""
    · simp only [if_pos empty]
      rfl
    · simp only [if_neg empty]
      by_cases positive : newSizeGb ≤ 0
      · simp only [if_pos positive]
        rfl
      · simp only [if_neg positive]
        rfl
  | _ => rfl

theorem code_answered (r : ResizeCall) (vol : Volume) (answer : Option VolumeResult) :
    (answered r vol answer).code =
      ignore (settleResize noFaults r.teamID r.newSizeGb vol answer) := by
  unfold answered settleResize
  by_cases failed : (answer.all fun res => !res.success) = true
  · simp only [if_pos failed]
    rfl
  · simp only [if_neg failed]
    rfl

/-- **The graph is the requests and the handlers.** -/
theorem presents : (⟨act⟩ : Flow ResizeStore ResizePoint).Presents code where
  halted k here := by
    cases k with
    | halt => rfl
    | _ => cases here
  moves k effect next here := by
    cases k with
    | halt => cases here
    | undo r vol => cases here; rfl
    | restore r vol => cases here; rfl
    | grow r newSizeGb => cases here; rfl
    | report r success => cases here; rfl
    | send r vol => cases here; rfl
    | get r =>
      cases here
      refine Prog.step_congr fun s => ?_
      dsimp only [Prog.bind, noFaults]
      simp only [Bool.false_eq_true, if_false]
      cases s.getVolume r.volumeID r.teamID with
      | none => rfl
      | some vol =>
        dsimp only [read]
        by_cases small : r.newSizeGb ≤ vol.sizeGb
        · simp only [if_pos small]
          rfl
        · simp only [if_neg small]
          rfl
    | mark r vol =>
      cases here
      refine Prog.step_congr fun s => ?_
      dsimp only [Prog.bind]
      simp only [Bool.false_eq_true, if_false]
      cases (s.updateVolumeStatus vol.id r.teamID .resizing).2 with
      | none => rfl
      | some row =>
        dsimp only [marked, dispatchResize]
        cases unreachable : r.unreachable with
        | true => rfl
        | false => rfl
    | wait r vol =>
      cases here
      refine Prog.step_congr fun s => ?_
      exact (code_answered r vol _).symm
    | size r vol =>
      cases here
      refine Prog.step_congr fun s => ?_
      dsimp only [Prog.bind]
      simp only [Bool.false_eq_true, if_false]
      cases (s.updateVolumeSize vol.id r.teamID r.newSizeGb).2 with
      | none => rfl
      | some row => rfl
    | stat r newSizeGb =>
      cases here
      refine Prog.step_congr fun s => ?_
      dsimp only [Prog.bind, statted]
      by_cases enough : newSizeGb * gib ≤ s.agents.image
      · simp only [if_pos enough]
        rfl
      · simp only [if_neg enough]
        cases failed : r.truncateFails with
        | true => rfl
        | false => rfl

/-- The request that has sent its command and has neither given up nor stored the size. -/
def open_ : ResizePoint → Option ResizeCall
  | .wait r _ => some r
  | .size r _ => some r
  | _ => none

end ResizePoint

def resizing : Flow ResizeStore ResizePoint := ⟨ResizePoint.act⟩

def startHandlers (s t : ResizeStore) : List ResizePoint :=
  (t.agents.arrived.drop s.agents.arrived.length).map ResizePoint.start

def VolumeStore.sizeOf (s : ResizeStore) (id : UUID) : Int :=
  ((s.volumes.find? id).map Volume.sizeGb).getD 0

/-! ## The invariant -/

section Sizes

variable (requests : List ResizeCall) (id teamID : UUID)

/-- What a thread knows. -/
def ResizePoint.Valid (grown : List ResizeCall) : ResizePoint → Prop
  | .get r => r ∈ requests
  | .mark r vol => r ∈ requests ∧ vol.id = id ∧ r.teamID = teamID
  | .send r vol => r ∈ requests ∧ vol.id = id ∧ r.teamID = teamID
  | .wait r vol => r ∈ requests ∧ vol.id = id ∧ r.teamID = teamID
  | .undo r vol => r ∈ requests ∧ vol.id = id ∧ r.teamID = teamID
  | .size r vol => (r ∈ requests ∧ vol.id = id ∧ r.teamID = teamID) ∧ r ∈ grown
  | .restore r vol => r ∈ requests ∧ vol.id = id ∧ r.teamID = teamID
  | .stat r newSizeGb => r ∈ requests ∧ newSizeGb = r.newSizeGb
  | .grow r newSizeGb => r ∈ requests ∧ newSizeGb = r.newSizeGb
  | .report r success => r ∈ requests ∧ (success → r ∈ grown)
  | .halt => True

/-- **The invariant.**  The image is as large as what is stored and what has grown it; and it is
the stored size, or that of a request that is still to store it. -/
structure Tracks (c : ResizeStore × List ResizePoint) : Prop where
  valid : ∀ k ∈ c.2, k.Valid requests id teamID c.1.agents.grown
  results : ∀ result ∈ c.1.agents.results, result.2.success →
    ∃ r ∈ requests, r ∈ c.1.agents.grown ∧ r.requestID = result.1
  row : ∃ row, c.1.volumes.find? id = some row ∧ row.teamID = teamID
  stored : c.1.sizeOf id * gib ≤ c.1.agents.image
  grown : ∀ r ∈ c.1.agents.grown, r.newSizeGb * gib ≤ c.1.agents.image
  exact_ : c.1.agents.image = c.1.sizeOf id * gib ∨
    ∃ r ∈ c.1.agents.grown, (∃ k ∈ c.2, k.open_ = some r) ∧
      c.1.agents.image = r.newSizeGb * gib

/-- A size is stored when no larger one is stored; the image is grown when it is no larger, for a
request that still waits; and a request gives up only when its command has not grown the image. -/
def ResizePoint.Orderly (c : ResizeStore × List ResizePoint) : ResizePoint → Prop
  | .size r _ => c.1.sizeOf id ≤ r.newSizeGb
  | .grow r newSizeGb => c.1.agents.image ≤ newSizeGb * gib ∧ ∃ k ∈ c.2, k.open_ = some r
  | .wait r _ => ((c.1.agents.results.lookup r.requestID).all fun res => !res.success) →
      r ∉ c.1.agents.grown
  | _ => True

def OrderlyResize (c : ResizeStore × List ResizePoint) (i : Nat) : Prop :=
  ∀ k ∈ c.2[i]?, k.Orderly id c

instance (c : ResizeStore × List ResizePoint) (k : ResizePoint) : Decidable (k.Orderly id c) :=
  match k with
  | .size _ _ => inferInstanceAs (Decidable (_ ≤ _))
  | .grow _ _ => inferInstanceAs (Decidable (_ ∧ _))
  | .wait _ _ => inferInstanceAs (Decidable (_ → _))
  | .get _ => isTrue trivial
  | .mark _ _ => isTrue trivial
  | .send _ _ => isTrue trivial
  | .undo _ _ => isTrue trivial
  | .restore _ _ => isTrue trivial
  | .stat _ _ => isTrue trivial
  | .report _ _ => isTrue trivial
  | .halt => isTrue trivial

instance (c : ResizeStore × List ResizePoint) (i : Nat) : Decidable (OrderlyResize id c i) :=
  inferInstanceAs (Decidable (∀ _ ∈ _, _))

variable {requests id teamID}

theorem ResizePoint.Valid.mono {grown grown' : List ResizeCall} (more : ∀ r ∈ grown, r ∈ grown')
    {k : ResizePoint} (valid : k.Valid requests id teamID grown) :
    k.Valid requests id teamID grown' := by
  cases k with
  | size r vol => exact ⟨valid.1, more r valid.2⟩
  | report r success => exact ⟨valid.1, fun ok => more r (valid.2 ok)⟩
  | _ => exact valid

/-- A step that leaves the sizes alone, of a thread that does not stop waiting in vain. -/
theorem Tracks.quiet {c : ResizeStore × List ResizePoint} (tracks : Tracks requests id teamID c)
    {i : Nat} {k k' : ResizePoint} (here : c.2[i]? = some k) {s' : ResizeStore}
    {started : List ResizePoint}
    (row : ∃ row, s'.volumes.find? id = some row ∧ row.teamID = teamID)
    (size : s'.sizeOf id = c.1.sizeOf id) (image : s'.agents.image = c.1.agents.image)
    (grown : s'.agents.grown = c.1.agents.grown)
    (results : ∀ result ∈ s'.agents.results, result ∈ c.1.agents.results ∨
      (result.2.success → ∃ r ∈ requests, r ∈ c.1.agents.grown ∧ r.requestID = result.1))
    (valid : ∀ k ∈ k' :: started, k.Valid requests id teamID c.1.agents.grown)
    (keeps : ∀ r ∈ c.1.agents.grown, k.open_ = some r → k'.open_ = some r) :
    Tracks requests id teamID (s', c.2.set i k' ++ started) := by
  refine ⟨?_, ?_, row, ?_, ?_, ?_⟩
  · intro p member
    dsimp only at member ⊢
    rw [grown]
    rcases List.mem_append.mp member with old | new
    · rcases List.mem_or_eq_of_mem_set old with stays | rfl
      · exact tracks.valid p stays
      · exact valid p List.mem_cons_self
    · exact valid p (List.mem_cons_of_mem _ new)
  · intro result member success
    dsimp only at member ⊢
    rw [grown]
    rcases results result member with old | new
    · exact tracks.results result old success
    · exact new success
  · dsimp only
    rw [size, image]
    exact tracks.stored
  · dsimp only
    rw [grown, image]
    exact tracks.grown
  · dsimp only
    rw [size, image, grown]
    refine tracks.exact_.imp_right ?_
    rintro ⟨r, mem, ⟨p, inside, waits⟩, same⟩
    refine ⟨r, mem, ?_, same⟩
    rcases mem_set_or_eq here inside k' with rfl | stays
    · exact ⟨k', List.mem_append_left _ (mem_set_new here k'), keeps r mem waits⟩
    · exact ⟨p, List.mem_append_left _ stays, waits⟩

/-! ## The statements -/

section Statements

variable {s : ResizeStore} (f : Volume → Volume) (keeps : ∀ vol, (f vol).id = vol.id)

theorem sizeOf_updateVolume (same : ∀ vol, (f vol).sizeGb = vol.sizeGb) (volumeID team : UUID) :
    (s.updateVolume volumeID team f keeps).1.sizeOf id = s.sizeOf id := by
  unfold VolumeStore.sizeOf
  rw [VolumeStore.find?_updateVolume, Option.map_map]
  cases s.volumes.find? id with
  | none => rfl
  | some vol =>
    by_cases here : vol.id = volumeID ∧ vol.teamID = team
    · simp [here, same]
    · simp [here]

theorem row_updateVolume (same : ∀ vol, (f vol).teamID = vol.teamID)
    (row : ∃ row, s.volumes.find? id = some row ∧ row.teamID = teamID) (volumeID team : UUID) :
    ∃ row, (s.updateVolume volumeID team f keeps).1.volumes.find? id = some row ∧
      row.teamID = teamID := by
  obtain ⟨row, found, owner⟩ := row
  rw [VolumeStore.find?_updateVolume, found]
  refine ⟨_, rfl, ?_⟩
  dsimp only
  split
  · rw [same, owner]
  · exact owner

theorem startHandlers_of_agents {t : ResizeStore} (same : t.agents.arrived = s.agents.arrived) :
    startHandlers s t = [] := by
  simp [startHandlers, same]

theorem sizeOf_updateVolumeSize (row : ∃ row, s.volumes.find? id = some row ∧ row.teamID = teamID)
    (sizeGb : Int) : (s.updateVolumeSize id teamID sizeGb).1.sizeOf id = sizeGb := by
  obtain ⟨row, found, owner⟩ := row
  have key : row.id = id := Table.key_of_find? found
  unfold VolumeStore.sizeOf VolumeStore.updateVolumeSize
  rw [VolumeStore.find?_updateVolume, found]
  simp [key, owner]

end Statements

/-! ## What the next control point knows -/

section Next

variable {r : ResizeCall} {vol : Volume} {grown : List ResizeCall}

theorem ResizePoint.valid_read (asked : r ∈ requests) {answer : Option Volume}
    (known : ∀ vol, answer = some vol → vol.id = id ∧ r.teamID = teamID) :
    (read r answer).Valid requests id teamID grown := by
  cases answer with
  | none => trivial
  | some vol =>
    by_cases small : r.newSizeGb ≤ vol.sizeGb
    · simp only [read, if_pos small]
      trivial
    · simp only [read, if_neg small]
      exact ⟨asked, known vol rfl⟩

theorem ResizePoint.valid_marked (known : r ∈ requests ∧ vol.id = id ∧ r.teamID = teamID)
    (answer : Option Volume) : (marked r vol answer).Valid requests id teamID grown := by
  cases answer with
  | none => trivial
  | some row =>
    dsimp only [marked]
    cases r.unreachable with
    | true => exact known
    | false => exact known

theorem ResizePoint.valid_sized (known : r ∈ requests ∧ vol.id = id ∧ r.teamID = teamID)
    (answer : Option Volume) : (sized r vol answer).Valid requests id teamID grown := by
  cases answer with
  | none => trivial
  | some row => exact known

theorem ResizePoint.valid_statted (asked : r ∈ requests) (current : Int) :
    (statted r r.newSizeGb current).Valid requests id teamID grown := by
  have failing : (ResizePoint.report r false).Valid requests id teamID grown :=
    ⟨asked, fun no => nomatch no⟩
  by_cases enough : r.newSizeGb * gib ≤ current
  · simp only [statted, if_pos enough]
    exact failing
  · simp only [statted, if_neg enough]
    cases r.truncateFails with
    | true => exact failing
    | false => exact ⟨asked, rfl⟩

theorem ResizePoint.valid_start (asked : r ∈ requests) (volumeID : UUID) (hostPath : String) :
    (start (r, .resize volumeID hostPath r.newSizeGb)).Valid requests id teamID grown := by
  have failing : (ResizePoint.report r false).Valid requests id teamID grown :=
    ⟨asked, fun no => nomatch no⟩
  by_cases empty : hostPath = ""
  · simp only [start, if_pos empty]
    exact failing
  by_cases positive : r.newSizeGb ≤ 0
  · simp only [start, if_neg empty, if_pos positive]
    exact failing
  · simp only [start, if_neg empty, if_neg positive]
    exact ⟨asked, rfl⟩

end Next

theorem Tracks.status {c : ResizeStore × List ResizePoint} (tracks : Tracks requests id teamID c)
    {i : Nat} {k k' : ResizePoint} (here : c.2[i]? = some k) (volumeID team : UUID)
    (status : VolumeStatus) (valid : k'.Valid requests id teamID c.1.agents.grown) (calm : k.open_ = none) :
    Tracks requests id teamID ((c.1.updateVolumeStatus volumeID team status).1, c.2.set i k' ++
        startHandlers c.1 (c.1.updateVolumeStatus volumeID team status).1) ∧
      (c.1.updateVolumeStatus volumeID team status).1.sizeOf id = c.1.sizeOf id := by
  have size : (c.1.updateVolumeStatus volumeID team status).1.sizeOf id = c.1.sizeOf id := by
    exact sizeOf_updateVolume (fun vol => { vol with status := status }) _ (fun _ => rfl) _ _
  have row : ∃ row, (c.1.updateVolumeStatus volumeID team status).1.volumes.find? id = some row ∧
      row.teamID = teamID := by
    exact row_updateVolume (fun vol => { vol with status := status }) _ (fun _ => rfl) tracks.row
      _ _
  have started : startHandlers c.1 (c.1.updateVolumeStatus volumeID team status).1 = [] :=
    startHandlers_of_agents rfl
  refine ⟨?_, size⟩
  rw [started]
  refine tracks.quiet here row size rfl rfl (fun result member => .inl member) ?_ ?_
  · intro p member
    rw [List.mem_singleton.mp member]
    exact valid
  · intro r _ waits
    rw [calm] at waits
    cases waits

theorem Tracks.reads {c : ResizeStore × List ResizePoint} (tracks : Tracks requests id teamID c)
    {i : Nat} {k k' : ResizePoint} (here : c.2[i]? = some k)
    (valid : k'.Valid requests id teamID c.1.agents.grown)
    (keeps : ∀ r ∈ c.1.agents.grown, k.open_ = some r → k'.open_ = some r) :
    Tracks requests id teamID (c.1, c.2.set i k' ++ startHandlers c.1 c.1) := by
  have started : startHandlers c.1 c.1 = [] := startHandlers_of_agents rfl
  rw [started]
  refine tracks.quiet here tracks.row rfl rfl rfl (fun result member => .inl member) ?_ keeps
  intro p member
  rw [List.mem_singleton.mp member]
  exact valid

theorem Tracks.size {c : ResizeStore × List ResizePoint} (tracks : Tracks requests id teamID c)
    {i : Nat} {r : ResizeCall} {vol : Volume} (here : c.2[i]? = some (.size r vol))
    (orderly : c.1.sizeOf id ≤ r.newSizeGb) {k' : ResizePoint}
    (valid : k'.Valid requests id teamID c.1.agents.grown) :
    Tracks requests id teamID ((c.1.updateVolumeSize vol.id r.teamID r.newSizeGb).1,
        c.2.set i k' ++ startHandlers c.1 (c.1.updateVolumeSize vol.id r.teamID r.newSizeGb).1) ∧
      c.1.sizeOf id ≤ (c.1.updateVolumeSize vol.id r.teamID r.newSizeGb).1.sizeOf id := by
  obtain ⟨⟨-, rfl, rfl⟩, grew⟩ := tracks.valid _ (List.mem_of_getElem? here)
  have size := sizeOf_updateVolumeSize tracks.row r.newSizeGb
  have large := tracks.grown r grew
  have started : startHandlers c.1 (c.1.updateVolumeSize vol.id r.teamID r.newSizeGb).1 = [] :=
    startHandlers_of_agents rfl
  rw [started, List.append_nil]
  refine ⟨⟨?_, tracks.results, ?_, ?_, tracks.grown, ?_⟩, ?_⟩
  · intro p member
    rcases List.mem_or_eq_of_mem_set member with old | rfl
    · exact tracks.valid p old
    · exact valid
  · exact row_updateVolume (fun vol => { vol with sizeGb := r.newSizeGb }) _ (fun _ => rfl)
      tracks.row _ _
  · dsimp only
    rw [size]
    exact large
  · dsimp only
    rw [size]
    show c.1.agents.image = _ ∨ ∃ q ∈ c.1.agents.grown, _ ∧ c.1.agents.image = _
    rcases tracks.exact_ with same | ⟨q, mem, ⟨p, inside, waits⟩, same⟩
    · -- the image is no larger than what was stored, and no smaller than the new size
      unfold gib at *
      omega
    · rcases mem_set_or_eq here inside k' with rfl | stays
      · cases waits
        exact .inl same
      · exact .inr ⟨q, mem, ⟨p, stays, waits⟩, same⟩
  · rw [size]
    exact orderly

theorem Tracks.grow {c : ResizeStore × List ResizePoint} (tracks : Tracks requests id teamID c)
    {i : Nat} {r : ResizeCall} {newSizeGb : Int} (here : c.2[i]? = some (.grow r newSizeGb))
    (larger : c.1.agents.image ≤ newSizeGb * gib) (waits : ∃ k ∈ c.2, k.open_ = some r) :
    Tracks requests id teamID (c.1.truncate r newSizeGb,
      c.2.set i (.report r (!r.toolsFail)) ++ startHandlers c.1 (c.1.truncate r newSizeGb)) := by
  obtain ⟨asked, rfl⟩ := tracks.valid _ (List.mem_of_getElem? here)
  have started : startHandlers c.1 (c.1.truncate r r.newSizeGb) = [] := startHandlers_of_agents rfl
  have more : ∀ q ∈ c.1.agents.grown, q ∈ (c.1.truncate r r.newSizeGb).agents.grown :=
    fun q mem => List.mem_cons_of_mem _ mem
  rw [started, List.append_nil]
  refine ⟨?_, ?_, tracks.row, ?_, ?_, ?_⟩
  · intro p member
    rcases List.mem_or_eq_of_mem_set member with old | rfl
    · exact (tracks.valid p old).mono more
    · exact ⟨asked, fun _ => List.mem_cons_self⟩
  · intro result member success
    obtain ⟨q, known, grew, same⟩ := tracks.results result member success
    exact ⟨q, known, more q grew, same⟩
  · exact Int.le_trans tracks.stored larger
  · intro q mem
    rcases List.mem_cons.mp mem with rfl | old
    · exact Int.le_refl _
    · exact Int.le_trans (tracks.grown q old) larger
  · obtain ⟨p, inside, open_⟩ := waits
    refine .inr ⟨r, List.mem_cons_self, ⟨p, ?_, open_⟩, rfl⟩
    rcases mem_set_or_eq here inside (.report r (!r.toolsFail)) with rfl | stays
    · cases open_
    · exact stays

theorem Tracks.send {c : ResizeStore × List ResizePoint} (tracks : Tracks requests id teamID c)
    {i : Nat} {r : ResizeCall} {vol : Volume} (here : c.2[i]? = some (.send r vol)) :
    Tracks requests id teamID (c.1.arrive r (.resize vol.id vol.hostPath r.newSizeGb),
      c.2.set i (.wait r vol) ++
        startHandlers c.1 (c.1.arrive r (.resize vol.id vol.hostPath r.newSizeGb))) := by
  have known := tracks.valid _ (List.mem_of_getElem? here)
  unfold VolumeStore.arrive
  cases r.lost with
  | true =>
    refine tracks.reads here known ?_
    exact fun q _ waits => nomatch waits
  | false =>
    refine tracks.quiet here tracks.row rfl rfl rfl (fun result member => .inl member) ?_ ?_
    · intro p member
      rcases List.mem_cons.mp member with rfl | started
      · exact known
      · have handler : p = .start (r, .resize vol.id vol.hostPath r.newSizeGb) := by
          simpa [startHandlers] using started
        rw [handler]
        exact ResizePoint.valid_start known.1 _ _
    · exact fun q _ waits => nomatch waits

theorem Tracks.report {c : ResizeStore × List ResizePoint} (tracks : Tracks requests id teamID c)
    {i : Nat} {r : ResizeCall} {success : Bool} (here : c.2[i]? = some (.report r success)) :
    Tracks requests id teamID (c.1.answer r success,
      c.2.set i .halt ++ startHandlers c.1 (c.1.answer r success)) := by
  obtain ⟨asked, grew⟩ := tracks.valid _ (List.mem_of_getElem? here)
  unfold VolumeStore.answer
  cases r.silent with
  | true => exact tracks.reads here trivial fun q _ waits => nomatch waits
  | false =>
    have started : startHandlers c.1 { c.1 with agents := { c.1.agents with
        results := c.1.agents.results ++ [(r.requestID, { success := success })] } } = [] :=
      startHandlers_of_agents rfl
    simp only [Bool.false_eq_true, if_false]
    rw [started]
    refine tracks.quiet here tracks.row rfl rfl rfl ?_ ?_ fun q _ waits => nomatch waits
    · intro result member
      rcases List.mem_append.mp member with old | new
      · exact .inl old
      · rw [List.mem_singleton.mp new]
        exact .inr fun success => ⟨r, asked, grew success, rfl⟩
    · intro p member
      rw [List.mem_singleton.mp member]
      trivial

/-- A result that reports success is of a request whose command has grown the image. -/
theorem Tracks.answered {c : ResizeStore × List ResizePoint} (tracks : Tracks requests id teamID c)
    (distinct : ∀ r ∈ requests, ∀ q ∈ requests, r.requestID = q.requestID → r = q)
    {r : ResizeCall} (asked : r ∈ requests)
    (success : ¬ ((c.1.agents.results.lookup r.requestID).all fun res => !res.success)) :
    r ∈ c.1.agents.grown := by
  cases found : c.1.agents.results.lookup r.requestID with
  | none => simp [found] at success
  | some result =>
    have reported : result.success = true := by simpa [found] using success
    obtain ⟨front, back, split, -⟩ := List.lookup_eq_some_iff.mp found
    have member : (r.requestID, result) ∈ c.1.agents.results := by simp [split]
    obtain ⟨q, known, grew, same⟩ := tracks.results _ member reported
    rw [distinct r asked q known same.symm]
    exact grew

/-- **One step** keeps the invariant and does not lower the stored size. -/
theorem Tracks.advance (one : ∀ r ∈ requests, r.volumeID = id)
    (distinct : ∀ r ∈ requests, ∀ q ∈ requests, r.requestID = q.requestID → r = q)
    {c : ResizeStore × List ResizePoint} (tracks : Tracks requests id teamID c) {i : Nat}
    (orderly : OrderlyResize id c i) :
    Tracks requests id teamID (resizing.advance startHandlers c i) ∧
      c.1.sizeOf id ≤ (resizing.advance startHandlers c i).1.sizeOf id := by
  obtain ⟨same, -⟩ | ⟨k, effect, next, here, edge, moved⟩ :=
    resizing.advance_split startHandlers c i
  · rw [same]
    exact ⟨tracks, Int.le_refl _⟩
  rw [moved]
  have known := tracks.valid k (List.mem_of_getElem? here)
  have ok : k.Orderly id c := orderly k here
  cases k with
  | halt => cases edge
  | get r =>
    cases edge
    refine ⟨tracks.reads here (ResizePoint.valid_read known ?_) ?_, Int.le_refl _⟩
    · intro vol found
      obtain ⟨row, owner⟩ := VolumeStore.getVolume_eq_some_iff.mp found
      rw [one r known] at row
      obtain ⟨row', stored, owner'⟩ := tracks.row
      cases Option.some.inj (row.symm.trans stored)
      exact ⟨Table.key_of_find? row, owner.symm.trans owner'⟩
    · exact fun q _ waits => nomatch waits
  | mark r vol =>
    cases edge
    obtain ⟨kept, size⟩ := tracks.status here vol.id r.teamID .resizing
      (ResizePoint.valid_marked known _) rfl
    exact ⟨kept, size.ge⟩
  | send r vol =>
    cases edge
    refine ⟨tracks.send here, ?_⟩
    unfold VolumeStore.arrive
    cases r.lost <;> exact Int.le_refl _
  | wait r vol =>
    cases edge
    refine ⟨?_, Int.le_refl _⟩
    by_cases failed : ((c.1.agents.results.lookup r.requestID).all fun res => !res.success) = true
    · refine tracks.reads here ?_ ?_
      · simp only [ResizePoint.answered, if_pos failed]
        exact known
      · intro q grew waits
        cases waits
        exact absurd grew (ok failed)
    · have grew := tracks.answered distinct known.1 failed
      refine tracks.reads here ?_ ?_
      · simp only [ResizePoint.answered, if_neg failed]
        exact ⟨known, grew⟩
      · intro q _ waits
        simp only [ResizePoint.answered, if_neg failed]
        exact waits
  | undo r vol =>
    cases edge
    have done : ResizePoint.halt.Valid requests id teamID c.1.agents.grown := trivial
    obtain ⟨kept, size⟩ := tracks.status here vol.id r.teamID vol.status done rfl
    exact ⟨kept, size.ge⟩
  | size r vol =>
    cases edge
    exact tracks.size here ok (ResizePoint.valid_sized known.1 _)
  | restore r vol =>
    cases edge
    have done : ResizePoint.halt.Valid requests id teamID c.1.agents.grown := trivial
    obtain ⟨kept, size⟩ := tracks.status here vol.id r.teamID vol.status done rfl
    exact ⟨kept, size.ge⟩
  | stat r newSizeGb =>
    cases edge
    obtain ⟨asked, rfl⟩ := known
    refine ⟨tracks.reads here (ResizePoint.valid_statted asked _) ?_, Int.le_refl _⟩
    exact fun q _ waits => nomatch waits
  | grow r newSizeGb =>
    cases edge
    exact ⟨tracks.grow here ok.1 ok.2, Int.le_refl _⟩
  | report r success =>
    cases edge
    refine ⟨tracks.report here, ?_⟩
    unfold VolumeStore.answer
    cases r.silent <;> exact Int.le_refl _

/-- **A whole run.** -/
theorem Tracks.run (one : ∀ r ∈ requests, r.volumeID = id)
    (distinct : ∀ r ∈ requests, ∀ q ∈ requests, r.requestID = q.requestID → r = q)
    {c : ResizeStore × List ResizePoint} (tracks : Tracks requests id teamID c)
    {schedule : List Nat} (orderly : resizing.Along startHandlers (OrderlyResize id) c schedule) :
    Tracks requests id teamID (resizing.run startHandlers c schedule) ∧
      c.1.sizeOf id ≤ (resizing.run startHandlers c schedule).1.sizeOf id := by
  induction schedule generalizing c with
  | nil => exact ⟨tracks, Int.le_refl _⟩
  | cons i schedule ih =>
    obtain ⟨kept, step⟩ := tracks.advance one distinct orderly.1
    obtain ⟨final, rest⟩ := ih kept orderly.2
    exact ⟨final, Int.le_trans step rest⟩

end Sizes

/-! ## The requests together -/

def resizes (s : ResizeStore) (requests : List ResizeCall) : Pool ResizeStore :=
  ⟨s, requests.map ResizeCall.code⟩

theorem resizes_run (s : ResizeStore) (requests : List ResizeCall) (schedule : List Nat) :
    (resizes s requests).run spawnHandlers schedule = Flow.pool ResizePoint.code
      (resizing.run startHandlers (s, requests.map .get) schedule) := by
  have spawned : spawnHandlers = fun s t => (startHandlers s t).map ResizePoint.code := by
    funext s t
    unfold spawnHandlers startHandlers
    rw [List.map_map]
    exact List.map_congr_left fun command _ => (ResizePoint.code_start command).symm
  have pool : resizes s requests = Flow.pool ResizePoint.code (s, requests.map .get) := by
    unfold resizes Flow.pool
    rw [List.map_map]
    rfl
  rw [spawned, pool]
  exact Flow.run_coded ResizePoint.presents startHandlers _ schedule

theorem Tracks.start {s : ResizeStore} {id : UUID} {vol : Volume} (requests : List ResizeCall)
    (found : s.volumes.find? id = some vol) (agents : s.agents = { image := vol.sizeGb * gib }) :
    Tracks requests id vol.teamID (s, requests.map .get) := by
  have size : s.sizeOf id = vol.sizeGb := by
    unfold VolumeStore.sizeOf
    rw [found]
    rfl
  refine ⟨?_, ?_, ⟨vol, found, rfl⟩, ?_, ?_, .inl ?_⟩
  · intro k member
    obtain ⟨r, asked, rfl⟩ := List.mem_map.mp member
    exact asked
  · dsimp only
    rw [agents]
    exact fun result member => nomatch member
  · dsimp only
    rw [size, agents]
  · dsimp only
    rw [agents]
    exact fun r member => nomatch member
  · dsimp only
    rw [size, agents]

/-- Once nothing is under way, no request is still to store its size. -/
theorem Tracks.settled {requests : List ResizeCall} {id teamID : UUID}
    {c : ResizeStore × List ResizePoint} (tracks : Tracks requests id teamID c)
    (halted : ∀ k ∈ c.2, resizing.act k = none) : c.1.agents.image = c.1.sizeOf id * gib := by
  rcases tracks.exact_ with same | ⟨r, -, ⟨k, inside, waits⟩, -⟩
  · exact same
  · have still := halted k inside
    cases k with
    | halt => cases waits
    | _ => cases still

/-- **The sizes.**  Requests to resize one volume run in any interleaving with each other and with
the handlers of their commands.  Where every size is stored over no larger one, every growth of
the image finds it no larger and its request still there to store it, and no request gives up
behind the growth: the stored size never decreases, and whenever nothing is under way it is the
size of the image. -/
theorem sizes_agree {requests : List ResizeCall} {id : UUID} {s : ResizeStore} {vol : Volume}
    (found : s.volumes.find? id = some vol) (agents : s.agents = { image := vol.sizeGb * gib })
    (one : ∀ r ∈ requests, r.volumeID = id)
    (distinct : (requests.map ResizeCall.requestID).Nodup) {schedule : List Nat}
    (orderly : resizing.Along startHandlers (OrderlyResize id) (s, requests.map .get) schedule) :
    (∀ first rest, first ++ rest <+: schedule →
      ((resizes s requests).run spawnHandlers first).store.sizeOf id ≤
        ((resizes s requests).run spawnHandlers (first ++ rest)).store.sizeOf id) ∧
    ∀ earlier, earlier <+: schedule → ((resizes s requests).run spawnHandlers earlier).Finished →
      ((resizes s requests).run spawnHandlers earlier).store.agents.image =
        ((resizes s requests).run spawnHandlers earlier).store.sizeOf id * gib := by
  have start := Tracks.start requests found agents
  have known : ∀ r ∈ requests, ∀ q ∈ requests, r.requestID = q.requestID → r = q :=
    fun r asked q asked' same => List.inj_on_of_nodup_map distinct asked asked' same
  have within : ∀ {earlier : List Nat}, earlier <+: schedule →
      resizing.Along startHandlers (OrderlyResize id) (s, requests.map .get) earlier := by
    rintro earlier ⟨later, rfl⟩
    exact (Flow.along_append.mp orderly).1
  constructor
  · intro first rest part
    obtain ⟨before, after⟩ := Flow.along_append.mp (within part)
    have tracks := (start.run one known before).1
    rw [resizes_run, resizes_run, Flow.run_append]
    exact (tracks.run one known after).2
  · intro earlier part finished
    have tracks := (start.run one known (within part)).1
    rw [resizes_run] at finished ⊢
    exact tracks.settled ((Flow.finished_coded ResizePoint.presents _).mp finished)

/-! ## One that is answered, and some that are not -/

def dataVolume : Volume :=
  { id := 7, teamID := 1, clusterID := 5, serverID := 21, name := "data", sizeGb := 10,
    hostPath := volumeHostPath 7 }

def tenGib : ResizeStore :=
  { volumes := ⟨[dataVolume], by decide⟩, agents := { image := dataVolume.sizeGb * gib } }

def toTwenty : ResizeCall := { requestID := 61, teamID := 1, volumeID := 7, newSizeGb := 20 }

def toThirty : ResizeCall := { requestID := 62, teamID := 1, volumeID := 7, newSizeGb := 30 }

def inTurn : List Nat := [0, 0, 0, 2, 2, 2, 0, 0, 0, 1, 1, 1, 3, 3, 3, 1, 1, 1]

theorem tenGib_grows :
    ((resizes tenGib [toTwenty, toThirty]).run spawnHandlers inTurn).Finished ∧
      ((resizes tenGib [toTwenty, toThirty]).run spawnHandlers inTurn).store.agents.image =
        30 * gib ∧
      ((resizes tenGib [toTwenty, toThirty]).run spawnHandlers inTurn).store.agents.image =
        ((resizes tenGib [toTwenty, toThirty]).run spawnHandlers inTurn).store.sizeOf 7 * gib := by
  have finished : ((resizes tenGib [toTwenty, toThirty]).run spawnHandlers inTurn).Finished := by
    decide
  refine ⟨finished, by decide, ?_⟩
  have found : tenGib.volumes.find? 7 = some dataVolume := by decide
  have orderly : resizing.Along startHandlers (OrderlyResize 7)
      (tenGib, [toTwenty, toThirty].map .get) inTurn := by decide
  exact (sizes_agree found rfl (by decide) (by decide) orderly).2 inTurn List.prefix_rfl finished

/-- The result of the command is lost. -/
def unanswered : ResizeCall := { toTwenty with silent := true }

/-- **A result that is lost** leaves the two sides apart; and of two requests that both read the
row, the smaller size is stored last. -/
theorem sizes_part :
    (∃ schedule, ((resizes tenGib [unanswered]).run spawnHandlers schedule).Finished ∧
      ((resizes tenGib [unanswered]).run spawnHandlers schedule).store.agents.image = 20 * gib ∧
      ((resizes tenGib [unanswered]).run spawnHandlers schedule).store.sizeOf 7 = 10) ∧
    ∃ first rest, ((resizes tenGib [toTwenty, toThirty]).run spawnHandlers first).store.sizeOf 7 =
        30 ∧
      ((resizes tenGib [toTwenty, toThirty]).run spawnHandlers (first ++ rest)).store.sizeOf 7 =
        20 := by
  refine ⟨⟨[0, 0, 0, 1, 1, 1, 0, 0], by decide⟩, ?_⟩
  refine ⟨[0, 0, 0, 2, 2, 2, 1, 1, 1, 3, 3, 3, 1, 1], [0, 0], ?_⟩
  decide

end Nixway.Volumes
