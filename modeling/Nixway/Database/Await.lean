/-
# Database.Await -- waiting for the end of a database deploy

`registerDeploy`, `HandleDeployResult` and `awaitDeployHealthy` of
`internal/database/service.go`, as a machine of four parties: the stream of the agent that
handles the command, the handler that takes its messages one by one, the buffered channel
between, and the goroutine that waits.  The channel is registered before the command is
dispatched, a message may be lost on the way, and the goroutine may be slower than the
stream by any amount; when several cases of its `select` are ready, any of them may be
taken.

A full channel drops what is sent to it.  `deploy_never_dropped` says that this never
happens to a deploy: the agent's whole report fits into the buffer.
-/
import Nixway.Agent.Deploying

namespace Nixway.Database

open Nixway.Store Nixway.Agent
open Nixway.Deploy (DeployOutput)

set_option autoImplicit false

/-! ## The machine -/

/-- `make(chan *agentv1.DeployOutput, 8)`. -/
def capacity : Nat := 8

/-- What ended the wait. -/
inductive Answer where
  | message (out : DeployOutput)
  | timer
  | cancelled
deriving DecidableEq

/-- Where the goroutine stands. -/
inductive Waiter where
  | dispatching
  | waiting
  | returned (answer : Answer)
deriving DecidableEq

/-- A message sent to the channel, and whether there was room for it. -/
structure Send where
  out : DeployOutput
  stored : Bool
deriving DecidableEq

structure Watch where
  /-- `pendingDeploy` has the channel of this deploy. -/
  registered : Bool := true
  /-- The messages the agent's stream still holds, in order. -/
  arriving : List DeployOutput
  /-- The message whose channel the handler has looked up and found. -/
  handling : Option DeployOutput := none
  buffer : List DeployOutput := []
  waiter : Waiter := .dispatching
  /-- The sends so far, in order. -/
  sends : List Send := []

inductive Event where
  /-- `HandleDeployResult` takes the next message and looks its channel up. -/
  | lookUp
  /-- The next message is lost with its stream. -/
  | lose
  /-- The `select` of `HandleDeployResult`: send, or drop when the buffer is full. -/
  | send
  /-- `dispatchDeploy` has returned without error. -/
  | dispatched
  /-- A case of the `select` of `awaitDeployHealthy`. -/
  | receive
  | timer
  | cancel
  /-- The deferred `unregisterDeploy`. -/
  | unregister
deriving DecidableEq

namespace Watch

/-- The wait goes on until a finished message. -/
def take (out : DeployOutput) : Waiter :=
  if out.finished then .returned (.message out) else .waiting

/-- One step; an event that is not possible changes nothing. -/
def step (s : Watch) : Event → Watch
  | .lookUp =>
    match s.handling, s.arriving with
    | none, out :: rest =>
      { s with arriving := rest, handling := if s.registered then some out else none }
    | _, _ => s
  | .lose =>
    match s.handling with
    | none => { s with arriving := s.arriving.tail }
    | some _ => s
  | .send =>
    match s.handling with
    | none => s
    | some out =>
      if s.buffer.length < capacity then
        { s with handling := none, buffer := s.buffer ++ [out], sends := s.sends ++ [⟨out, true⟩] }
      else { s with handling := none, sends := s.sends ++ [⟨out, false⟩] }
  | .dispatched => if s.waiter = .dispatching then { s with waiter := .waiting } else s
  | .receive =>
    match s.waiter, s.buffer with
    | .waiting, out :: rest => { s with buffer := rest, waiter := take out }
    | _, _ => s
  | .timer => if s.waiter = .waiting then { s with waiter := .returned .timer } else s
  | .cancel => if s.waiter = .waiting then { s with waiter := .returned .cancelled } else s
  | .unregister =>
    match s.waiter with
    | .returned _ => { s with registered := false }
    | _ => s

def run (s : Watch) (events : List Event) : Watch := events.foldl step s

/-- The channel is registered, and the agent handles the command it is about to get. -/
def start (order : DeployOrder) (host : Host) : Watch :=
  { arriving := handleDeployCommand order host }

def answer (s : Watch) : Option Answer :=
  match s.waiter with
  | .returned answer => some answer
  | _ => none

end Watch

/-! ## The invariant -/

/-- The messages not yet received, in the order they will be: those in the buffer, the one
that is handled, and those on the stream. -/
def Watch.pending (s : Watch) : List DeployOutput :=
  s.buffer ++ s.handling.toList ++ s.arriving

/-- No message comes after a finished one. -/
def Conclusive (outs : List DeployOutput) : Prop :=
  outs.Pairwise fun earlier _ => earlier.finished = false

/-- The messages the handler has sent, has in hand and will still get. -/
def Watch.stream (s : Watch) : List DeployOutput :=
  s.sends.map Send.out ++ s.handling.toList ++ s.arriving

/-- What is pending fits into the buffer, nothing comes after a finished message, nothing
was dropped, and a finished message that was sent waits in the buffer or has been received. -/
structure Roomy (s : Watch) : Prop where
  room : s.pending.length ≤ 4
  conclusive : Conclusive s.pending
  single : Conclusive s.stream
  stored : ∀ sent ∈ s.sends, sent.stored = true
  sent : ∀ out ∈ s.buffer, ⟨out, true⟩ ∈ s.sends
  kept : ∀ sent ∈ s.sends, sent.out.finished = true → sent.out ∈ s.buffer ∨ s.answer ≠ none
  answered : ∀ out, s.answer = some (.message out) → out.finished = true ∧ ⟨out, true⟩ ∈ s.sends

theorem conclusive_of_concludes {n : Nat} {outs : List DeployOutput}
    (concludes : Concludes n outs) : Conclusive outs := by
  induction concludes with
  | last => exact List.pairwise_singleton _ _
  | more unfinished _ ih => exact List.pairwise_cons.mpr ⟨fun _ _ => unfinished, ih⟩

theorem Conclusive.unique {outs : List DeployOutput} (conclusive : Conclusive outs)
    {a b : DeployOutput} (first : a ∈ outs) (second : b ∈ outs) (doneA : a.finished = true)
    (doneB : b.finished = true) : a = b := by
  induction conclusive with
  | nil => cases first
  | cons earlier _ ih =>
    rcases List.mem_cons.mp first with rfl | laterA
    · rcases List.mem_cons.mp second with rfl | laterB
      · rfl
      · exact absurd (earlier b laterB) (by simp [doneA])
    · rcases List.mem_cons.mp second with rfl | laterB
      · exact absurd (earlier a laterA) (by simp [doneB])
      · exact ih laterA laterB

theorem roomy_start (order : DeployOrder) (host : Host) : Roomy (Watch.start order host) where
  room := (handleDeployCommand_concludes order host).length_le
  conclusive := conclusive_of_concludes (handleDeployCommand_concludes order host)
  single := conclusive_of_concludes (handleDeployCommand_concludes order host)
  stored _ mem := nomatch mem
  sent _ mem := nomatch mem
  kept _ mem := nomatch mem
  answered _ here := nomatch here

section Steps

variable {s : Watch}

/-- A step that sends nothing, receives nothing and does not end the wait. -/
theorem Roomy.shrink (roomy : Roomy s) {s' : Watch}
    (fewer : (s'.handling.toList ++ s'.arriving).Sublist (s.handling.toList ++ s.arriving))
    (buffer : s'.buffer = s.buffer) (sends : s'.sends = s.sends) (answer : s'.answer = s.answer) :
    Roomy s' where
  room := by
    have smaller := fewer.length_le
    have room := roomy.room
    simp only [Watch.pending, List.append_assoc, List.length_append, buffer] at *
    omega
  conclusive := by
    refine roomy.conclusive.sublist ?_
    simp only [Watch.pending, List.append_assoc, buffer]
    exact fewer.append_left s.buffer
  single := by
    refine roomy.single.sublist ?_
    simp only [Watch.stream, List.append_assoc, sends]
    exact fewer.append_left _
  stored := by rw [sends]; exact roomy.stored
  sent := by rw [buffer, sends]; exact roomy.sent
  kept := by rw [buffer, sends, answer]; exact roomy.kept
  answered := by rw [sends, answer]; exact roomy.answered

theorem Roomy.lookUp (roomy : Roomy s) : Roomy (s.step .lookUp) := by
  simp only [Watch.step]
  split
  · next out rest idle next =>
    refine roomy.shrink ?_ rfl rfl rfl
    rw [idle, next]
    cases s.registered with
    | true => exact List.Sublist.refl _
    | false => exact List.sublist_cons_self out rest
  · exact roomy

theorem Roomy.lose (roomy : Roomy s) : Roomy (s.step .lose) := by
  simp only [Watch.step]
  split
  · refine roomy.shrink ?_ rfl rfl rfl
    exact (List.tail_sublist s.arriving).append_left s.handling.toList
  · exact roomy

/-- The send finds room: what is in the buffer is part of what is pending. -/
theorem Roomy.send (roomy : Roomy s) : Roomy (s.step .send) := by
  simp only [Watch.step]
  split
  · exact roomy
  · next out here =>
    have same : s.pending = s.buffer ++ out :: s.arriving := by
      simp [Watch.pending, here]
    have fits : s.buffer.length < capacity := by
      have room := roomy.room
      rw [same, List.length_append] at room
      unfold capacity
      omega
    rw [if_pos fits]
    have pending : ({ s with
        handling := none, buffer := s.buffer ++ [out],
        sends := s.sends ++ [⟨out, true⟩] } : Watch).pending = s.pending := by
      rw [same]
      simp [Watch.pending]
    exact {
      room := by rw [pending]; exact roomy.room
      conclusive := by rw [pending]; exact roomy.conclusive
      single := by
        have single := roomy.single
        simpa [Watch.stream, here] using single
      stored := by
        intro sent mem
        rcases List.mem_append.mp mem with old | new
        · exact roomy.stored sent old
        · rw [List.mem_singleton.mp new]
      sent := by
        intro out' mem
        rcases List.mem_append.mp mem with old | new
        · exact List.mem_append_left _ (roomy.sent out' old)
        · rw [List.mem_singleton.mp new]
          exact List.mem_append_right _ List.mem_cons_self
      kept := by
        intro sent mem finished
        rcases List.mem_append.mp mem with old | new
        · exact (roomy.kept sent old finished).imp_left (List.mem_append_left _)
        · rw [List.mem_singleton.mp new]
          exact .inl (List.mem_append_right _ List.mem_cons_self)
      answered := by
        intro out' ended
        obtain ⟨finished, mem⟩ := roomy.answered out' ended
        exact ⟨finished, List.mem_append_left _ mem⟩ }

theorem answer_waiting (waiting : s.waiter = .waiting) : s.answer = none := by
  rw [Watch.answer, waiting]

theorem Roomy.receive (roomy : Roomy s) : Roomy (s.step .receive) := by
  simp only [Watch.step]
  split
  · next out rest waiting next =>
    have open' : s.answer = none := answer_waiting waiting
    have fewer : (rest ++ s.handling.toList ++ s.arriving).Sublist s.pending := by
      simp only [Watch.pending, next, List.cons_append]
      exact List.sublist_cons_self out _
    have ended : ∀ answer, ({ s with buffer := rest, waiter := Watch.take out } : Watch).answer =
        some answer → out.finished = true ∧ answer = .message out := by
      intro answer here
      cases finished : out.finished with
      | false => simp [Watch.answer, Watch.take, finished] at here
      | true =>
        simp only [Watch.answer, Watch.take, finished, if_true, Option.some.injEq] at here
        exact ⟨rfl, here.symm⟩
    exact {
      room := Nat.le_trans fewer.length_le roomy.room
      conclusive := roomy.conclusive.sublist fewer
      single := roomy.single
      stored := roomy.stored
      sent := fun out' mem => roomy.sent out' (next ▸ List.mem_cons_of_mem out mem)
      kept := by
        intro sent mem finished
        rcases roomy.kept sent mem finished with held | already
        · rw [next] at held
          rcases List.mem_cons.mp held with rfl | later
          · exact .inr (by simp [Watch.answer, Watch.take, finished])
          · exact .inl later
        · exact absurd open' already
      answered := by
        intro out' here
        obtain ⟨finished, same⟩ := ended _ here
        cases same
        exact ⟨finished, roomy.sent _ (next ▸ List.mem_cons_self)⟩ }
  · exact roomy

theorem Roomy.expire (roomy : Roomy s) {answer : Answer} (other : ∀ out, answer ≠ .message out) :
    Roomy { s with waiter := .returned answer } where
  room := roomy.room
  conclusive := roomy.conclusive
  single := roomy.single
  stored := roomy.stored
  sent := roomy.sent
  kept _ _ _ := .inr nofun
  answered out here := absurd (Option.some.inj here) (other out)

theorem roomy_step (roomy : Roomy s) (event : Event) : Roomy (s.step event) := by
  cases event with
  | lookUp => exact roomy.lookUp
  | lose => exact roomy.lose
  | send => exact roomy.send
  | receive => exact roomy.receive
  | dispatched =>
    simp only [Watch.step]
    split
    · next dispatching =>
      refine roomy.shrink (List.Sublist.refl _) rfl rfl ?_
      simp [Watch.answer, dispatching]
    · exact roomy
  | timer =>
    simp only [Watch.step]
    split
    · exact roomy.expire nofun
    · exact roomy
  | cancel =>
    simp only [Watch.step]
    split
    · exact roomy.expire nofun
    · exact roomy
  | unregister =>
    simp only [Watch.step]
    split
    · exact roomy.shrink (List.Sublist.refl _) rfl rfl rfl
    · exact roomy

theorem roomy_run (roomy : Roomy s) (events : List Event) : Roomy (s.run events) := by
  induction events generalizing s with
  | nil => exact roomy
  | cons event rest ih => exact ih (roomy_step roomy event)

end Steps

/-! ## The wait ends -/

/-- Once a finished message is in the buffer nothing comes after it. -/
theorem Roomy.final {s : Watch} (roomy : Roomy s) {out : DeployOutput} (here : out ∈ s.buffer)
    (finished : out.finished = true) :
    ∃ front, s.buffer = front ++ [out] ∧ s.handling = none ∧ s.arriving = [] ∧
      ∀ earlier ∈ front, earlier.finished = false := by
  obtain ⟨front, back, split⟩ := List.append_of_mem here
  have conclusive := roomy.conclusive
  have pending : s.pending = front ++ out :: (back ++ s.handling.toList ++ s.arriving) := by
    simp [Watch.pending, split]
  rw [Conclusive, pending, List.pairwise_append, List.pairwise_cons] at conclusive
  obtain ⟨-, ⟨last, -⟩, before⟩ := conclusive
  have nothing : back ++ s.handling.toList ++ s.arriving = [] := by
    refine List.eq_nil_iff_forall_not_mem.mpr fun later mem => ?_
    have unfinished := last later mem
    rw [finished] at unfinished
    cases unfinished
  obtain ⟨⟨back, handling⟩, arriving⟩ :=
    (List.append_eq_nil_iff.mp nothing).imp_left List.append_eq_nil_iff.mp
  refine ⟨front, by rw [split, back], Option.toList_eq_nil_iff.mp handling, arriving, ?_⟩
  exact fun earlier mem => before earlier mem out List.mem_cons_self

theorem waiter_of_answer {s : Watch} {answer : Answer} (ended : s.answer = some answer) :
    s.waiter = .returned answer := by
  unfold Watch.answer at ended
  split at ended
  · next here => rw [here, Option.some.inj ended]
  · cases ended

/-- A wait that has ended stays ended. -/
theorem answer_run {s : Watch} {answer : Answer} (ended : s.answer = some answer)
    (events : List Event) : (s.run events).answer = some answer := by
  have step : ∀ s : Watch, s.waiter = .returned answer → ∀ event,
      (s.step event).waiter = .returned answer := by
    intro s here event
    cases event with
    | lookUp =>
      simp only [Watch.step]
      split <;> exact here
    | lose =>
      simp only [Watch.step]
      split <;> exact here
    | send =>
      simp only [Watch.step]
      split
      · exact here
      · split <;> exact here
    | dispatched => simp [Watch.step, here]
    | receive => simp [Watch.step, here]
    | timer => simp [Watch.step, here]
    | cancel => simp [Watch.step, here]
    | unregister => simp [Watch.step, here]
  have kept : (s.run events).waiter = .returned answer := by
    have start := waiter_of_answer ended
    clear ended
    induction events generalizing s with
    | nil => exact start
    | cons event rest ih => exact ih (step s start event)
  rw [Watch.answer, kept]

/-- With a finished message in the buffer the wait is over after as many receives as there
are messages in it, whatever else happens, unless the timer or the context ends it. -/
theorem answer_of_receives {s : Watch} {front : List DeployOutput} {out : DeployOutput}
    (waiting : s.waiter = .waiting) (buffer : s.buffer = front ++ [out])
    (idle : s.handling = none) (silent : s.arriving = [])
    (earlier : ∀ x ∈ front, x.finished = false) (finished : out.finished = true)
    {more : List Event} (unexpired : .timer ∉ more ∧ .cancel ∉ more)
    (enough : front.length < more.count .receive) :
    (s.run more).answer = some (.message out) := by
  induction more generalizing s front with
  | nil => simp at enough
  | cons event rest ih =>
    have later : .timer ∉ rest ∧ .cancel ∉ rest :=
      ⟨fun mem => unexpired.1 (List.mem_cons_of_mem _ mem),
        fun mem => unexpired.2 (List.mem_cons_of_mem _ mem)⟩
    -- an event that is no receive finds nothing to do
    have pass : event ≠ .receive → s.step event = s → (s.run (event :: rest)).answer =
        some (.message out) := by
      intro other same
      show ((s.step event).run rest).answer = _
      rw [List.count_cons_of_ne other] at enough
      rw [same]
      exact ih waiting buffer idle silent earlier later enough
    cases event with
    | lookUp => exact pass nofun (by simp [Watch.step, idle, silent])
    | lose => exact pass nofun (by simp [Watch.step, idle, silent]; cases s; simp_all)
    | send => exact pass nofun (by simp [Watch.step, idle])
    | dispatched => exact pass nofun (by simp [Watch.step, waiting])
    | unregister => exact pass nofun (by simp [Watch.step, waiting])
    | timer => exact absurd List.mem_cons_self unexpired.1
    | cancel => exact absurd List.mem_cons_self unexpired.2
    | receive =>
      show ((s.step .receive).run rest).answer = _
      rw [List.count_cons_self] at enough
      cases front with
      | nil =>
        refine answer_run ?_ rest
        simp [Watch.step, waiting, buffer, Watch.answer, Watch.take, finished]
      | cons first front =>
        have unfinished := earlier first List.mem_cons_self
        have moved : s.step .receive = { s with buffer := front ++ [out] } := by
          simp [Watch.step, waiting, buffer, Watch.take, unfinished]
        rw [moved]
        have settled : ∀ x ∈ front, x.finished = false :=
          fun x mem => earlier x (List.mem_cons_of_mem first mem)
        refine ih waiting rfl idle silent settled later ?_
        simp only [List.length_cons] at enough
        omega

/-- **The end of a deploy is never dropped.**  In every run every message that finds its
channel registered is stored in it, the finished one too; a wait that goes on ends with the
finished message, once it was sent, after as many receives as the buffer then holds, unless
the timer or the context ends it first; and no other message ever ends a wait. -/
theorem deploy_never_dropped (order : DeployOrder) (host : Host) (events : List Event) :
    let s := (Watch.start order host).run events
    (∀ sent ∈ s.sends, sent.stored = true) ∧
      (∀ sent ∈ s.sends, sent.out.finished = true → s.waiter = .waiting →
        ∀ more : List Event, .timer ∉ more → .cancel ∉ more →
          s.buffer.length ≤ more.count .receive →
            (s.run more).answer = some (.message sent.out)) ∧
      (∀ sent ∈ s.sends, sent.out.finished = true → s.answer ≠ none →
        s.answer = some (.message sent.out) ∨ s.answer = some .timer ∨
          s.answer = some .cancelled) ∧
      ∀ out, s.answer = some (.message out) → out.finished = true ∧ ⟨out, true⟩ ∈ s.sends := by
  intro s
  have roomy : Roomy s := roomy_run (roomy_start order host) events
  refine ⟨roomy.stored, ?_, ?_, roomy.answered⟩
  · intro sent mem finished waiting more untimed uncancelled enough
    rcases roomy.kept sent mem finished with held | ended
    · obtain ⟨front, buffer, idle, silent, earlier⟩ := roomy.final held finished
      refine answer_of_receives waiting buffer idle silent earlier finished
        ⟨untimed, uncancelled⟩ ?_
      rw [buffer, List.length_append, List.length_singleton] at enough
      exact enough
    · exact absurd (answer_waiting waiting) ended
  · intro sent mem finished ended
    obtain ⟨answer, here⟩ := Option.ne_none_iff_exists'.mp ended
    rw [here]
    cases answer with
    | timer => exact .inr (.inl rfl)
    | cancelled => exact .inr (.inr rfl)
    | message out =>
      obtain ⟨done, sentToo⟩ := roomy.answered out here
      have onStream : ∀ sent ∈ s.sends, sent.out ∈ s.stream := fun sent mem =>
        List.mem_append_left _ (List.mem_append_left _ (List.mem_map_of_mem mem))
      have same : out = sent.out :=
        roomy.single.unique (onStream _ sentToo) (onStream sent mem) done finished
      exact .inl (by rw [same])

/-! ## A database that comes up -/

def redisOrder : DeployOrder :=
  { deployID := 1, targetID := 2, containerName := "nw-db-shop-cache", port := 6379,
    labels := [("nixway.kind", "database")],
    execHealthCheck := "redis-cli -a $REDIS_PASSWORD --no-auth-warning ping" }

def goodHost : Host :=
  { run := .ok "4f5e6d7c8b9a0011223344556677889900aabbccddeeff001122334455667788\n"
    probes := [⟨true, "", false⟩, ⟨true, "", true⟩] }

/-- All four messages are sent before the goroutine receives the first one; it returns with
the last. -/
def slowWaiter : List Event :=
  [.lookUp, .send, .lookUp, .send, .lookUp, .send, .lookUp, .send, .dispatched]

theorem slow_waiter_ends :
    (((Watch.start redisOrder goodHost).run slowWaiter).run
        (List.replicate 4 .receive)).answer =
      some (.message (redisOrder.output "healthy" "4f5e6d7c8b9a" true true "")) := by
  have ends := (deploy_never_dropped redisOrder goodHost slowWaiter).2.1
    ⟨redisOrder.output "healthy" "4f5e6d7c8b9a" true true "", true⟩ (by decide) rfl
    (by decide) (List.replicate 4 .receive) (by decide) (by decide) (by decide)
  exact ends

end Nixway.Database
