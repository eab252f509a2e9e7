/-
# Agent.Streams -- commands reach the live stream

A stream that reconnects overlaps with the one it replaces.  `Routed` says that a
command is handed to the most recently started open stream the manager has heard
from.  It can be lost in three ways: a stream whose first message is a health or
metric report is never registered; the deferred `Disconnect` of one stream removes
the entry another one uses; and the entry keeps only the stream that was stored
last.  `Orderly` is the condition on an event under which none of them happens.
-/
import Nixway.Agent.Connect
import Mathlib.Data.Nat.Find

namespace Nixway.Agent

set_option autoImplicit false

/-! ## The property -/

/-- An open stream whose handler knows the agent. -/
def Stream.named (s : Stream) : Bool := s.isOpen && s.agentID ≠ ""

/-- An open stream the manager has heard from. -/
def Stream.live (s : Stream) : Bool := s.isOpen && s.heard

/-- The handler is on its way from a first message to `SetStream`. -/
def Stream.entering (s : Stream) : Bool :=
  match s.handler with
  | .looking _ => true
  | .registering _ => true
  | .storing _ => true
  | _ => false

/-- The message a handler is working on. -/
def Handler.message : Handler → Option AgentMessage
  | .looking msg => some msg
  | .registering msg => some msg
  | .storing msg => some msg
  | .beating msg => some msg
  | _ => none

/-- The agent's commands go to its most recently started live stream. -/
def Routed (agentID : String) (sys : System) : Prop :=
  ∀ k, (sys.streams k).live → (∀ j, k < j → ¬ (sys.streams j).live) →
    sys.manager.sendToAgent agentID = .ok k ∧ (sys.manager.getState agentID).isSome

/-! ## The condition -/

/-- The event carries the agent's id, if any. -/
def Event.isOf (agentID : String) : Event → Prop
  | .deliver _ msg => ∀ id ∈ msg.agentID, id = agentID
  | _ => True

/-- A first message registers the stream, and finds the other named streams of the
agent started earlier and stored; the last live stream hangs up only when it is the
only one; and no named stream is open when another one disconnects. -/
def Orderly (sys : System) : Event → Prop
  | .start => True
  | .deliver k msg =>
    (sys.streams k).handler = .waiting → (sys.streams k).agentID = "" → msg.agentID.isSome →
      msg.registers ∧ ∀ j < sys.started, j ≠ k → (sys.streams j).named →
        j < k ∧ ¬ (sys.streams j).entering
  | .operate k _ =>
    (sys.streams k).handler = .returning → (sys.streams k).agentID ≠ "" →
      ∀ j < sys.started, ¬ (sys.streams j).named
  | .hangUp k =>
    (sys.streams k).handler = .waiting → (sys.streams k).live →
      (∀ j < sys.started, k < j → ¬ (sys.streams j).live) → ∀ j < k, ¬ (sys.streams j).live

/-! ## The invariant -/

structure Connected (agentID : String) (sys : System) : Prop where
  unopened : ∀ k, sys.started ≤ k → sys.streams k = {}
  ids : ∀ k, (sys.streams k).agentID = "" ∨ (sys.streams k).agentID = agentID
  unnamed : ∀ k, (sys.streams k).isOpen → (sys.streams k).agentID = "" →
    (sys.streams k).handler = .waiting ∧ (sys.streams k).heard = false
  heard : ∀ k, (sys.streams k).named → (sys.streams k).heard ∨ (sys.streams k).entering
  unheard : ∀ k, (sys.streams k).entering → (sys.streams k).heard = false
  beats : ∀ k id, (sys.streams k).handler.message = some (.heartbeat id) → id = agentID
  alone : ∀ k, (sys.streams k).entering → ∀ j, j ≠ k → (sys.streams j).named →
    j < k ∧ ¬ (sys.streams j).entering
  first : ∀ k msg, (sys.streams k).handler = .registering msg →
    ∀ j, j ≠ k → ¬ (sys.streams j).named
  present : ∀ k msg, (sys.streams k).handler = .storing msg → (sys.manager agentID).isSome
  routed : ∀ k, (sys.streams k).live → (∀ j, k < j → ¬ (sys.streams j).live) →
    (sys.manager agentID).map ConnEntry.stream = some (some k)

section Steps

variable {agentID : String} {sys : System}

theorem connected_start (inv : Connected agentID sys) : Connected agentID (sys.step .start) := by
  have new := inv.unopened sys.started (Nat.le_refl _)
  cases inv
  constructor <;>
    simp only [System.step, System.setStream, Function.update_apply] <;>
    grind -ring -linarith
      [Stream.isOpen, Stream.named, Stream.live, Stream.entering, Handler.message]

theorem connected_hangUp (inv : Connected agentID sys) {k : Nat}
    (orderly : Orderly sys (.hangUp k)) : Connected agentID (sys.step (.hangUp k)) := by
  simp only [System.step]
  split
  · next waiting =>
    have single : ∀ i, i < k → (sys.streams k).live → (∀ j, k < j → ¬ (sys.streams j).live) →
        ¬ (sys.streams i).live := by
      intro i earlier live last
      exact orderly waiting live (fun j _ later => last j later) i earlier
    cases inv
    constructor <;>
      simp only [System.setStream, Function.update_apply] <;>
      grind -ring -linarith
        [Stream.isOpen, Stream.named, Stream.live, Stream.entering, Handler.message]
  · exact inv

theorem Connected.lt_started (inv : Connected agentID sys) {k : Nat}
    (named : (sys.streams k).named) : k < sys.started := by
  by_contra late
  rw [inv.unopened k (by omega)] at named
  cases named

theorem Connected.named_of_live (inv : Connected agentID sys) {k : Nat}
    (live : (sys.streams k).live) : (sys.streams k).named := by
  simp only [Stream.live, Bool.and_eq_true] at live
  by_contra unnamed
  simp only [Stream.named, live.1, Bool.true_and, decide_eq_true_eq, not_not] at unnamed
  have unheard := (inv.unnamed k live.1 unnamed).2
  rw [live.2] at unheard
  cases unheard

theorem Connected.exists_last (inv : Connected agentID sys) {k : Nat}
    (live : (sys.streams k).live) :
    ∃ last, (sys.streams last).live ∧ ∀ j, last < j → ¬ (sys.streams j).live := by
  have bound : ∀ j, (sys.streams j).live → j ≤ sys.started := fun j live =>
    Nat.le_of_lt (inv.lt_started (inv.named_of_live live))
  refine ⟨Nat.findGreatest (fun j => (sys.streams j).live) sys.started,
    Nat.findGreatest_spec (P := fun j => (sys.streams j).live) (bound k live) live,
    fun j later liveJ => ?_⟩
  exact Nat.findGreatest_is_greatest later (bound j liveJ) liveJ

theorem Connected.same (inv : Connected agentID sys) {k : Nat} :
    Connected agentID (sys.setStream k (sys.streams k)) := by
  rw [System.setStream, Function.update_eq_self]
  exact inv

theorem connected_beating (inv : Connected agentID sys) {k : Nat} {msg : AgentMessage}
    (waiting : (sys.streams k).handler = .waiting) (known : (sys.streams k).agentID ≠ "")
    (ofAgent : ∀ id, msg = .heartbeat id → id = agentID) :
    Connected agentID (sys.setStream k { sys.streams k with handler := .beating msg }) := by
  cases inv
  constructor <;>
    simp only [System.setStream, Function.update_apply] <;>
    grind -ring -linarith
      [Stream.isOpen, Stream.named, Stream.live, Stream.entering, Handler.message]

/-- A first message that registers the stream. -/
theorem connected_deliver_first (inv : Connected agentID sys) {k : Nat} {msg : AgentMessage}
    (real : agentID ≠ "") (waiting : (sys.streams k).handler = .waiting)
    (unknown : (sys.streams k).agentID = "")
    (ofAgent : ∀ id, msg = .heartbeat id → id = agentID)
    (others : ∀ j, j ≠ k → (sys.streams j).named → j < k ∧ ¬ (sys.streams j).entering) :
    Connected agentID
      (sys.setStream k { sys.streams k with agentID := agentID, handler := .looking msg }) := by
  cases inv
  constructor <;>
    simp only [System.setStream, Function.update_apply] <;>
    grind -ring -linarith
      [Stream.isOpen, Stream.named, Stream.live, Stream.entering, Handler.message]

theorem connected_deliver (inv : Connected agentID sys) (real : agentID ≠ "") {k : Nat}
    {msg : AgentMessage} (ofAgent : (Event.deliver k msg).isOf agentID)
    (orderly : Orderly sys (.deliver k msg)) : Connected agentID (sys.step (.deliver k msg)) := by
  simp only [System.step]
  split
  · next waiting =>
    by_cases known : (sys.streams k).agentID = ""
    · have entered : ∀ id ∈ msg.agentID, msg.registers →
          System.receive (sys.streams k) msg =
            { sys.streams k with agentID := id, handler := .looking msg } := by
        intro id carries registers
        cases msg <;> cases registers <;> cases carries <;>
          simp only [System.receive, if_pos known]
      cases carries : msg.agentID with
      | none =>
        cases msg <;> cases carries
        exact inv.same
      | some id =>
        obtain ⟨registers, others⟩ := orderly waiting known (by rw [carries]; rfl)
        obtain rfl := ofAgent id carries
        rw [entered id carries registers]
        refine connected_deliver_first inv real waiting known ?_ fun j other named =>
          others j (inv.lt_started named) other named
        rintro id' rfl
        exact ofAgent id' rfl
    · cases msg with
      | heartbeat id =>
        rw [System.receive, if_neg known]
        refine connected_beating inv waiting known fun id same => ?_
        cases same
        exact ofAgent _ rfl
      | resourceReport id report =>
        rw [System.receive, if_neg known]
        exact connected_beating inv waiting known fun id other => nomatch other
      | healthReport id =>
        rw [System.receive, if_neg known]
        exact inv.same
      | metricReport id =>
        rw [System.receive, if_neg known]
        exact inv.same
      | other => exact inv.same
  · exact inv

/-! ## The operations of a handler -/

theorem modify_stream (m : ConnManager) (f : ConnEntry → ConnEntry)
    (keeps : ∀ entry, (f entry).stream = entry.stream) :
    ((m.modify agentID f) agentID).map ConnEntry.stream = (m agentID).map ConnEntry.stream := by
  rw [ConnManager.modify, Function.update_self, Option.map_map]
  congr 1
  funext entry
  exact keeps entry

/-- `GetState` finds no entry, so no other stream of the agent is named. -/
theorem connected_lookup_none (inv : Connected agentID sys) {k : Nat} {msg : AgentMessage}
    (looking : (sys.streams k).handler = .looking msg) (missing : sys.manager agentID = none) :
    Connected agentID (sys.setStream k { sys.streams k with handler := .registering msg }) := by
  have noneLive : ∀ j, ¬ (sys.streams j).live := by
    intro j live
    obtain ⟨last, lastLive, latest⟩ := inv.exists_last live
    have entry := inv.routed last lastLive latest
    rw [missing] at entry
    cases entry
  cases inv
  constructor <;>
    simp only [System.setStream, Function.update_apply] <;>
    grind -ring -linarith
      [Stream.isOpen, Stream.named, Stream.live, Stream.entering, Handler.message]

theorem connected_lookup_some (inv : Connected agentID sys) {k : Nat} {msg : AgentMessage}
    (looking : (sys.streams k).handler = .looking msg) (found : (sys.manager agentID).isSome) :
    Connected agentID (sys.setStream k { sys.streams k with handler := .storing msg }) := by
  cases inv
  constructor <;>
    simp only [System.setStream, Function.update_apply] <;>
    grind -ring -linarith
      [Stream.isOpen, Stream.named, Stream.live, Stream.entering, Handler.message]

/-- `Register` replaces the entry while no other stream uses it. -/
theorem connected_register (inv : Connected agentID sys) {k : Nat} {msg : AgentMessage}
    (registering : (sys.streams k).handler = .registering msg) {m : ConnManager}
    (entry : (m agentID).isSome) :
    Connected agentID { sys.setStream k { sys.streams k with handler := .storing msg } with
      manager := m } := by
  cases inv
  constructor <;>
    simp only [System.setStream, Function.update_apply] <;>
    grind -ring -linarith
      [Stream.isOpen, Stream.named, Stream.live, Stream.entering, Handler.message]

/-- `SetStream` makes the stream the last one. -/
theorem connected_store (inv : Connected agentID sys) {k : Nat} {msg : AgentMessage}
    (storing : (sys.streams k).handler = .storing msg) {m : ConnManager}
    (stored : (m agentID).map ConnEntry.stream = some (some k)) :
    Connected agentID
      { sys.setStream k { sys.streams k with handler := .beating msg, heard := true } with
        manager := m } := by
  cases inv
  constructor <;>
    simp only [System.setStream, Function.update_apply] <;>
    grind -ring -linarith
      [Stream.isOpen, Stream.named, Stream.live, Stream.entering, Handler.message]

/-- `Heartbeat` and `UpdateResources` leave the stream of the entry. -/
theorem connected_touch (inv : Connected agentID sys) {k : Nat} {h : Handler}
    (settled : (∃ msg, (sys.streams k).handler = .beating msg) ∨
      ∃ report, (sys.streams k).handler = .updating report)
    (next : h = .waiting ∨ ∃ report, h = .updating report) {m : ConnManager}
    (same : (m agentID).map ConnEntry.stream = (sys.manager agentID).map ConnEntry.stream) :
    Connected agentID
      { sys.setStream k { sys.streams k with handler := h, heard := true } with manager := m } := by
  have entry : (m agentID).isSome = (sys.manager agentID).isSome := by
    simpa using congrArg Option.isSome same
  cases inv
  constructor <;>
    simp only [System.setStream, Function.update_apply] <;>
    grind -ring -linarith
      [Stream.isOpen, Stream.named, Stream.live, Stream.entering, Handler.message]

/-- `Disconnect` removes the entry while no named stream is open. -/
theorem connected_disconnect (inv : Connected agentID sys) {k : Nat} {m : ConnManager}
    (returning : (sys.streams k).handler = .returning)
    (safe : m = sys.manager ∨ ∀ j, ¬ (sys.streams j).named) :
    Connected agentID
      { sys.setStream k { sys.streams k with handler := .returned } with manager := m } := by
  cases inv
  constructor <;>
    simp only [System.setStream, Function.update_apply] <;>
    grind -ring -linarith
      [Stream.isOpen, Stream.named, Stream.live, Stream.entering, Handler.message]

theorem Connected.busy (inv : Connected agentID sys) (k : Nat) (isOpen : (sys.streams k).isOpen)
    (busy : (sys.streams k).handler ≠ .waiting) :
    (sys.streams k).agentID = agentID ∧ (sys.streams k).named := by
  have known : (sys.streams k).agentID ≠ "" := fun unknown =>
    busy (inv.unnamed k isOpen unknown).1
  refine ⟨(inv.ids k).resolve_left known, ?_⟩
  simp [Stream.named, isOpen, known]

theorem connected_operate (inv : Connected agentID sys) {k now : Nat}
    (orderly : Orderly sys (.operate k now)) :
    Connected agentID (sys.step (.operate k now)) := by
  simp only [System.step, System.operate]
  split
  · next msg looking =>
    obtain ⟨rfl, -⟩ := inv.busy k (by simp [Stream.isOpen, looking]) (by simp [looking])
    split
    · next missing => exact connected_lookup_none inv looking missing
    · next entry found =>
      refine connected_lookup_some inv looking ?_
      rw [show sys.manager _ = some entry from found]
      rfl
  · next msg registering =>
    obtain ⟨rfl, -⟩ := inv.busy k (by simp [Stream.isOpen, registering]) (by simp [registering])
    refine connected_register inv registering ?_
    rw [ConnManager.register, Function.update_self]
    rfl
  · next msg storing =>
    obtain ⟨rfl, -⟩ := inv.busy k (by simp [Stream.isOpen, storing]) (by simp [storing])
    refine connected_store inv storing ?_
    obtain ⟨entry, present⟩ := Option.isSome_iff_exists.mp (inv.present k msg storing)
    rw [ConnManager.setStream, ConnManager.modify, Function.update_self, present]
    rfl
  · next msg beating =>
    obtain ⟨same, -⟩ := inv.busy k (by simp [Stream.isOpen, beating]) (by simp [beating])
    have beat : System.beatID (sys.streams k) msg = agentID := by
      cases msg with
      | heartbeat id => exact inv.beats k id (by rw [beating]; rfl)
      | resourceReport id report => exact same
      | healthReport id => exact same
      | metricReport id => exact same
      | other => exact same
    rw [beat]
    refine connected_touch inv (.inl ⟨msg, beating⟩) ?_ (modify_stream _ _ fun _ => rfl)
    cases msg <;> simp [System.afterBeat]
  · next report updating =>
    obtain ⟨rfl, named⟩ := inv.busy k (by simp [Stream.isOpen, updating]) (by simp [updating])
    have heard : (sys.streams k).heard = true := by
      rcases inv.heard k named with heard | entering
      · exact heard
      · simp [Stream.entering, updating] at entering
    rw [heard]
    exact connected_touch inv (.inr ⟨report, updating⟩) (.inl rfl)
      (modify_stream _ _ fun _ => rfl)
  · next returning =>
    refine connected_disconnect inv returning ?_
    by_cases unknown : (sys.streams k).agentID = ""
    · exact .inl (if_pos unknown)
    · refine .inr fun j named => ?_
      exact orderly returning unknown j (inv.lt_started named) named
  · exact inv
  · exact inv
  · exact inv

end Steps

/-! ## Runs -/

/-- Every event of the run is orderly in the system it finds. -/
def OrderlyRun : System → List Event → Prop
  | _, [] => True
  | sys, event :: rest => Orderly sys event ∧ OrderlyRun (sys.step event) rest

/-- A handler only changes its own stream. -/
theorem operate_frame (sys : System) (j now : Nat) :
    (sys.operate j now).started = sys.started ∧
      ∀ k, k ≠ j → (sys.operate j now).streams k = sys.streams k := by
  have set : ∀ s, (sys.setStream j s).started = sys.started ∧
      ∀ k, k ≠ j → (sys.setStream j s).streams k = sys.streams k := fun s =>
    ⟨rfl, fun k other => Function.update_of_ne other _ _⟩
  unfold System.operate
  dsimp only
  split
  · split
    · exact set _
    · exact set _
  · exact set _
  · exact set _
  · exact set _
  · exact set _
  · exact set _
  · exact ⟨rfl, fun _ _ => rfl⟩
  · exact ⟨rfl, fun _ _ => rfl⟩
  · exact ⟨rfl, fun _ _ => rfl⟩

/-- A stream that was not started has done nothing, whatever the events. -/
theorem unopened_step {sys : System} (unopened : ∀ k, sys.started ≤ k → sys.streams k = {})
    (event : Event) : ∀ k, (sys.step event).started ≤ k → (sys.step event).streams k = {} := by
  intro k late
  cases event with
  | start =>
    simp only [System.step, System.setStream] at late ⊢
    rw [Function.update_of_ne (by omega)]
    exact unopened k (by omega)
  | deliver j msg =>
    simp only [System.step] at late ⊢
    split at late
    · next waiting =>
      rw [if_pos waiting]
      have other : k ≠ j := by
        rintro rfl
        rw [unopened k late] at waiting
        cases waiting
      exact (Function.update_of_ne other _ _).trans (unopened k late)
    · next busy =>
      rw [if_neg busy]
      exact unopened k late
  | operate j now =>
    obtain ⟨started, others⟩ := operate_frame sys j now
    have old : sys.started ≤ k := by
      rw [← started]
      exact late
    by_cases same : k = j
    · subst same
      have idle : sys.operate k now = sys := by
        rw [System.operate, unopened k old]
      rw [System.step, idle]
      exact unopened k old
    · exact (others k same).trans (unopened k old)
  | hangUp j =>
    simp only [System.step] at late ⊢
    split at late
    · next waiting =>
      rw [if_pos waiting]
      have other : k ≠ j := by
        rintro rfl
        rw [unopened k late] at waiting
        cases waiting
      exact (Function.update_of_ne other _ _).trans (unopened k late)
    · next busy =>
      rw [if_neg busy]
      exact unopened k late

theorem unopened_run {sys : System} (unopened : ∀ k, sys.started ≤ k → sys.streams k = {})
    (events : List Event) :
    ∀ k, (sys.run events).started ≤ k → (sys.run events).streams k = {} := by
  induction events generalizing sys with
  | nil => exact unopened
  | cons event rest ih => exact ih (unopened_step unopened event)

theorem connected_initial (agentID : String) : Connected agentID {} where
  unopened _ _ := rfl
  ids _ := .inl rfl
  unnamed _ isOpen := nomatch isOpen
  heard _ named := nomatch named
  unheard _ entering := nomatch entering
  beats _ _ message := nomatch message
  alone _ entering := nomatch entering
  first _ _ registering := nomatch registering
  present _ _ storing := nomatch storing
  routed _ live := nomatch live

theorem connected_run {agentID : String} (real : agentID ≠ "") {sys : System} {events : List Event}
    (inv : Connected agentID sys) (ofAgent : ∀ event ∈ events, event.isOf agentID)
    (orderly : OrderlyRun sys events) : Connected agentID (sys.run events) := by
  induction events generalizing sys with
  | nil => exact inv
  | cons event rest ih =>
    refine ih ?_ (fun e mem => ofAgent e (List.mem_cons_of_mem _ mem)) orderly.2
    cases event with
    | start => exact connected_start inv
    | deliver k msg =>
      exact connected_deliver inv real (ofAgent _ List.mem_cons_self) orderly.1
    | operate k now => exact connected_operate inv orderly.1
    | hangUp k => exact connected_hangUp inv orderly.1

theorem Connected.isRouted {agentID : String} {sys : System} (inv : Connected agentID sys) :
    Routed agentID sys := by
  intro k live last
  obtain ⟨entry, found, stream⟩ := Option.map_eq_some_iff.mp (inv.routed k live last)
  simp [ConnManager.sendToAgent, ConnManager.getState, found, stream]

/-- **In an orderly run every command reaches the live stream.** -/
theorem routed_of_orderly {agentID : String} (real : agentID ≠ "") {events : List Event}
    (ofAgent : ∀ event ∈ events, event.isOf agentID) (orderly : OrderlyRun {} events) :
    Routed agentID (System.run {} events) :=
  (connected_run real (connected_initial agentID) ofAgent orderly).isRouted

section Reconnect

/-- A stream is started and its first heartbeat handled in `n` operations. -/
def joins (k n : Nat) : List Event :=
  .start :: .deliver k (.heartbeat "a") :: List.replicate n (.operate k 0)

/-- The agent reconnects while its old stream is dying, whose handler returns last. -/
def reconnect : List Event := joins 0 4 ++ joins 1 3 ++ [Event.hangUp 0, .operate 0 0]

/-- **The dying stream disconnects its successor.** -/
theorem reconnect_loses_agent :
    (∀ event ∈ reconnect, event.isOf "a") ∧ (System.run {} reconnect).manager.getState "a" = none ∧
      ((System.run {} reconnect).streams 1).live ∧ ¬ Routed "a" (System.run {} reconnect) := by
  have live : ((System.run {} reconnect).streams 1).live := by decide
  have missing : (System.run {} reconnect).manager.getState "a" = none := by decide
  refine ⟨?_, missing, live, fun routed => ?_⟩
  · simp [reconnect, joins, Event.isOf, AgentMessage.agentID]
  · have last : ∀ j, 1 < j → ¬ ((System.run {} reconnect).streams j).live := by
      intro j later
      have started : (System.run {} reconnect).started = 2 := by decide
      rw [unopened_run (fun _ _ => rfl) reconnect j (by omega)]
      decide
    have entry := (routed 1 live last).2
    rw [missing] at entry
    cases entry

instance (sys : System) (event : Event) : Decidable (Orderly sys event) := by
  cases event <;> unfold Orderly <;> infer_instance

/-- The old stream's handler returns before the new one is heard. -/
theorem orderly_reconnect :
    Routed "a" (System.run {} (joins 0 4 ++ [Event.hangUp 0, .operate 0 0] ++ joins 1 4)) := by
  refine routed_of_orderly (by decide) ?_ ?_
  · simp [joins, Event.isOf, AgentMessage.agentID]
  · simp only [joins, List.cons_append, List.nil_append, List.replicate, OrderlyRun]
    decide

end Reconnect

end Nixway.Agent
