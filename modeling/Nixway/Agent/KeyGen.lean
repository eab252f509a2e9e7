/-
# Agent.KeyGen -- the key pair of a node and the key the control plane stores

`HandleWireGuardKeyGen` of `apps/agent/wireguard.go`, started by `receiveLoop` as a goroutine
for every command, and the storing of its result.  The handler looks for a public key, and if
there is none makes a private key, writes it, derives the public key, writes that and sends
it.  Two handlers that both find no public key each write a private key; the second write
leaves the first handler with a key whose private half is gone, and it goes on to publish it
(`published_key_lost`).

`stored_key_matches` is the condition: along every run in which a private key is written only
while no key is published or held by another handler, every stored key is that of the
private-key file.
-/
import Nixway.Theory.Crew
import Nixway.Store.Schema

namespace Nixway.Agent.KeyGen

open Nixway.Theory Nixway.Store

set_option autoImplicit false

variable {Private Public : Type}

/-- The two key files of the node, the results under way and the keys of the member rows.
A public-key file without a key, missing or blank, is `none`. -/
structure Node (Private Public : Type) where
  privateKey : Option Private := none
  publicKey : Option Public := none
  results : List (UUID × Public) := []
  stored : UUID → Option Public := fun _ => none

/-- Where a handler stands. -/
inductive Handler (Private Public : Type) where
  | install (memberID : UUID)
  | look (memberID : UUID)
  | generate (memberID : UUID)
  | save (memberID : UUID) (key : Private)
  | derive (memberID : UUID) (key : Private)
  | publish (memberID : UUID) (key : Public)
  | send (memberID : UUID) (key : Public)

/-- What `wg genkey` prints, or that the step fails. -/
inductive Outcome (Private : Type) where
  | works (key : Private)
  | fails

/-- What happens beside the handlers: a result is handled or lost, a member row is deleted. -/
inductive Event where
  | deliver (i : Nat)
  | lose (i : Nat)
  | forget (memberID : UUID)

variable (pubkey : Private → Public)

/-- A key that is there is sent again. -/
def Node.afterLook (n : Node Private Public) (memberID : UUID) : Handler Private Public :=
  match n.publicKey with
  | some key => .send memberID key
  | none => .generate memberID

/-- The next step of `HandleWireGuardKeyGen`.  A failure is answered with a result that stores
nothing, except that an unreadable public key is taken for a missing one and that the write of
the public key is not checked. -/
def turn : Handler Private Public → Outcome Private → Node Private Public →
    Node Private Public × List (Handler Private Public)
  | .install memberID, .works _, n => (n, [.look memberID])
  | .install _, .fails, n => (n, [])
  | .look memberID, .works _, n => (n, [n.afterLook memberID])
  | .look memberID, .fails, n => (n, [.generate memberID])
  | .generate memberID, .works key, n => (n, [.save memberID key])
  | .generate _, .fails, n => (n, [])
  | .save memberID key, .works _, n => ({ n with privateKey := some key }, [.derive memberID key])
  | .save _ _, .fails, n => (n, [])
  | .derive memberID key, .works _, n => (n, [.publish memberID (pubkey key)])
  | .derive _ _, .fails, n => (n, [])
  | .publish memberID key, .works _, n => ({ n with publicKey := some key }, [.send memberID key])
  | .publish memberID key, .fails, n => (n, [.send memberID key])
  | .send memberID key, .works _, n => ({ n with results := n.results ++ [(memberID, key)] }, [])
  | .send _ _, .fails, n => (n, [])

/-- `UpdateClusterMemberPublicKey` for the result at `i`. -/
def Node.deliver (n : Node Private Public) (i : Nat) : Node Private Public :=
  match n.results[i]? with
  | none => n
  | some entry =>
    { n with
      results := n.results.eraseIdx i
      stored := Function.update n.stored entry.1 (some entry.2) }

def outside : Event → Node Private Public → Node Private Public
  | .deliver i, n => n.deliver i
  | .lose i, n => { n with results := n.results.eraseIdx i }
  | .forget memberID, n => { n with stored := Function.update n.stored memberID none }

/-- A command carries the id of the member. -/
def machine : Machine (Node Private Public) (Handler Private Public) UUID (Outcome Private) Event where
  start memberID n := (n, [.install memberID])
  turn := turn pubkey
  outside := outside

/-! ## The condition -/

/-- The handler holds a key it has written or read. -/
def Handler.holdsKey : Handler Private Public → Bool
  | .derive _ _ | .publish _ _ | .send _ _ => true
  | _ => false

/-- The handler is about to write a private key. -/
def Handler.saves : Handler Private Public → Bool
  | .save _ _ => true
  | _ => false

/-- No key is out: not in the file, not under way, not stored. -/
structure Unpublished (n : Node Private Public) : Prop where
  file : n.publicKey = none
  results : n.results = []
  stored : ∀ memberID, n.stored memberID = none

/-- A private key is written only while no key is out and no other handler holds one. -/
def Exclusive (c : Crew (Node Private Public) (Handler Private Public)) :
    Move UUID (Outcome Private) Event → Prop
  | .turn i (.works _) => c.handlers[i]?.any Handler.saves →
      Unpublished c.shared ∧ ∀ k ∈ c.others i, ¬ k.holdsKey
  | _ => True

/-! ## The invariant -/

/-- The key is that of the private-key file. -/
def Node.Matches (n : Node Private Public) (key : Public) : Prop :=
  n.privateKey.map pubkey = some key

structure Node.Consistent (n : Node Private Public) : Prop where
  file : ∀ key, n.publicKey = some key → n.Matches pubkey key
  results : ∀ entry ∈ n.results, n.Matches pubkey entry.2
  stored : ∀ memberID key, n.stored memberID = some key → n.Matches pubkey key

/-- The key a handler holds is that of the private-key file. -/
def Holds (n : Node Private Public) : Handler Private Public → Prop
  | .derive _ key => n.privateKey = some key
  | .publish _ key | .send _ key => n.Matches pubkey key
  | _ => True

variable {pubkey}

theorem holds_of_not_holdsKey {n : Node Private Public} {k : Handler Private Public}
    (bare : ¬ k.holdsKey) : Holds pubkey n k := by
  cases k with
  | derive memberID key => exact absurd rfl bare
  | publish memberID key => exact absurd rfl bare
  | send memberID key => exact absurd rfl bare
  | _ => trivial

theorem Holds.congr {n n' : Node Private Public} {k : Handler Private Public}
    (same : n'.privateKey = n.privateKey) (holds : Holds pubkey n k) : Holds pubkey n' k := by
  cases k with
  | derive memberID key => exact same.trans holds
  | publish memberID key => exact (congrArg (Option.map pubkey) same).trans holds
  | send memberID key => exact (congrArg (Option.map pubkey) same).trans holds
  | _ => trivial

theorem Node.Consistent.deliver {n : Node Private Public} (consistent : n.Consistent pubkey)
    (i : Nat) : (n.deliver i).Consistent pubkey := by
  unfold Node.deliver
  cases found : n.results[i]? with
  | none => exact consistent
  | some entry =>
    refine ⟨consistent.file, fun other member => ?_, fun memberID key stored => ?_⟩
    · exact consistent.results other (List.mem_of_mem_eraseIdx member)
    · have stored : Function.update n.stored entry.1 (some entry.2) memberID = some key := stored
      by_cases same : memberID = entry.1
      · subst same
        rw [Function.update_self] at stored
        cases stored
        exact consistent.results entry (List.mem_of_getElem? found)
      · rw [Function.update_of_ne same] at stored
        exact consistent.stored memberID key stored

theorem Node.Consistent.outside {n : Node Private Public} (consistent : n.Consistent pubkey)
    (e : Event) : (outside e n).Consistent pubkey := by
  cases e with
  | deliver i => exact consistent.deliver i
  | lose i =>
    exact ⟨consistent.file,
      fun other member => consistent.results other (List.mem_of_mem_eraseIdx member),
      consistent.stored⟩
  | forget memberID =>
    refine ⟨consistent.file, consistent.results, fun other key stored => ?_⟩
    have stored : Function.update n.stored memberID none other = some key := stored
    by_cases same : other = memberID
    · subst same
      rw [Function.update_self] at stored
      cases stored
    · rw [Function.update_of_ne same] at stored
      exact consistent.stored other key stored

theorem privateKey_outside (e : Event) (n : Node Private Public) :
    (outside e n).privateKey = n.privateKey := by
  cases e with
  | deliver i =>
    unfold outside Node.deliver
    dsimp only
    split <;> rfl
  | lose i => rfl
  | forget memberID => rfl

/-- Only the write of a private key changes the private-key file. -/
theorem privateKey_turn (pubkey : Private → Public) (k : Handler Private Public)
    (o : Outcome Private) (n : Node Private Public) :
    (turn pubkey k o n).1.privateKey = n.privateKey ∨
      ∃ memberID key drawn, k = .save memberID key ∧ o = .works drawn := by
  cases k with
  | save memberID key =>
    cases o with
    | works drawn => exact .inr ⟨memberID, key, drawn, rfl, rfl⟩
    | fails => exact .inl rfl
  | _ => cases o <;> exact .inl rfl

/-- A step other than that write keeps the node consistent, and goes on with a key of the
private-key file. -/
theorem turn_consistent {n : Node Private Public} {k : Handler Private Public}
    {o : Outcome Private} (consistent : n.Consistent pubkey) (holds : Holds pubkey n k)
    (other : ¬ ∃ memberID key drawn, k = .save memberID key ∧ o = .works drawn) :
    (turn pubkey k o n).1.Consistent pubkey ∧
      ∀ k' ∈ (turn pubkey k o n).2, Holds pubkey n k' := by
  have ends : ∀ k' ∈ ([] : List (Handler Private Public)), Holds pubkey n k' :=
    fun k' member => absurd member List.not_mem_nil
  have goes : ∀ k' : Handler Private Public, Holds pubkey n k' → ∀ k'' ∈ [k'], Holds pubkey n k'' :=
    fun k' held k'' member => List.mem_singleton.mp member ▸ held
  cases o with
  | fails =>
    cases k with
    | look memberID => exact ⟨consistent, goes _ trivial⟩
    | publish memberID key => exact ⟨consistent, goes (.send memberID key) holds⟩
    | _ => exact ⟨consistent, ends⟩
  | works drawn =>
    cases k with
    | install memberID => exact ⟨consistent, goes _ trivial⟩
    | look memberID =>
      refine ⟨consistent, goes (n.afterLook memberID) ?_⟩
      unfold Node.afterLook
      cases file : n.publicKey with
      | none => trivial
      | some key => exact consistent.file key file
    | generate memberID => exact ⟨consistent, goes _ trivial⟩
    | save memberID key => exact absurd ⟨memberID, key, drawn, rfl, rfl⟩ other
    | derive memberID key =>
      exact ⟨consistent, goes (.publish memberID (pubkey key)) (congrArg (Option.map pubkey) holds)⟩
    | publish memberID key =>
      refine ⟨⟨?_, consistent.results, consistent.stored⟩, goes (.send memberID key) holds⟩
      intro written same
      exact Option.some.inj same ▸ holds
    | send memberID key =>
      refine ⟨⟨consistent.file, fun entry member => ?_, consistent.stored⟩, ends⟩
      rcases List.mem_append.mp member with old | new
      · exact consistent.results entry old
      · exact List.mem_singleton.mp new ▸ holds

/-- One turn: the node stays consistent, and so does what the handlers hold. -/
theorem turn_held {c : Crew (Node Private Public) (Handler Private Public)} {i : Nat}
    {o : Outcome Private} {k : Handler Private Public} (consistent : c.shared.Consistent pubkey)
    (each : ∀ k' ∈ c.handlers, Holds pubkey c.shared k') (found : c.handlers[i]? = some k)
    (exclusive : Exclusive c (.turn i o)) :
    (turn pubkey k o c.shared).1.Consistent pubkey ∧
      (∀ k' ∈ c.others i, Holds pubkey (turn pubkey k o c.shared).1 k') ∧
      ∀ k' ∈ (turn pubkey k o c.shared).2, Holds pubkey (turn pubkey k o c.shared).1 k' := by
  by_cases writes : ∃ memberID key drawn, k = .save memberID key ∧ o = .works drawn
  · obtain ⟨memberID, key, drawn, rfl, rfl⟩ := writes
    obtain ⟨unpublished, bare⟩ := exclusive (by rw [found]; rfl)
    refine ⟨⟨fun out file => ?_, fun entry member => ?_, fun id out stored => ?_⟩, ?_, ?_⟩
    · exact absurd (unpublished.file.symm.trans file) (by simp)
    · exact absurd (unpublished.results ▸ member) List.not_mem_nil
    · exact absurd ((unpublished.stored id).symm.trans stored) (by simp)
    · exact fun k' member => holds_of_not_holdsKey (bare k' member)
    · exact fun k' member => List.mem_singleton.mp member ▸ rfl
  · have file := (privateKey_turn pubkey k o c.shared).resolve_right writes
    obtain ⟨kept, next⟩ :=
      turn_consistent consistent (each k (List.mem_of_getElem? found)) writes
    exact ⟨kept, fun k' member => (each k' (List.mem_of_mem_eraseIdx member)).congr file,
      fun k' member => (next k' member).congr file⟩

/-- Node and handlers stay consistent along a run that keeps the condition. -/
theorem held_step {c : Crew (Node Private Public) (Handler Private Public)}
    {move : Move UUID (Outcome Private) Event} (exclusive : Exclusive c move)
    (held : Crew.Held (Node.Consistent pubkey) (Holds pubkey) c) :
    Crew.Held (Node.Consistent pubkey) (Holds pubkey) (c.step (machine pubkey) move) := by
  refine held.step (fun memberID _ => ?_) (fun i o k same found holds => ?_) (fun e _ => ?_)
  · exact ⟨held.shared, held.each, fun k member => List.mem_singleton.mp member ▸ trivial⟩
  · exact turn_held held.shared held.each found (same ▸ exclusive)
  · exact ⟨held.shared.outside e, fun k member =>
      (held.each k member).congr (privateKey_outside e c.shared)⟩

/-- **Along every run in which a private key is written only while no key is out and no other
handler holds one, every stored key is that of the private-key file.** -/
theorem stored_key_matches (pubkey : Private → Public)
    (moves : List (Move UUID (Outcome Private) Event))
    (exclusive : Runs.Along (Crew.step (machine pubkey)) Exclusive ⟨{}, []⟩ moves)
    (memberID : UUID) (key : Public)
    (stored : (Crew.run (machine pubkey) ⟨{}, []⟩ moves).shared.stored memberID = some key) :
    (Crew.run (machine pubkey) ⟨{}, []⟩ moves).shared.privateKey.map pubkey = some key := by
  have start : Crew.Held (Node.Consistent pubkey) (Holds pubkey) ⟨{}, []⟩ := by
    refine ⟨⟨fun key file => ?_, fun entry member => ?_, fun id key stored => ?_⟩,
      fun k member => absurd member List.not_mem_nil⟩
    · cases file
    · cases member
    · cases stored
  have kept : ∀ c move, Exclusive c move →
      Crew.Held (Node.Consistent pubkey) (Holds pubkey) c →
      Crew.Held (Node.Consistent pubkey) (Holds pubkey) (c.step (machine pubkey) move) :=
    fun c move meets held => held_step meets held
  have held := Runs.Along.invariant kept exclusive start
  exact held.shared.stored memberID key stored

/-- The steps of one handler that all work, the drawn key being `key`. -/
def handled (i : Nat) (key : Nat) : List (Move UUID (Outcome Nat) Event) :=
  List.replicate 7 (.turn i (.works key))

/-- Two commands, one after the other: the second finds the key of the first. -/
def oneAfterTheOther : List (Move UUID (Outcome Nat) Event) :=
  .command 7 :: handled 0 1 ++ [Move.outside (.deliver 0), .command 7]

theorem first_key_stored :
    (Crew.run (machine id) ⟨{}, []⟩ oneAfterTheOther).shared.privateKey.map id = some 1 := by
  refine stored_key_matches id oneAfterTheOther ?_ 7 1 (by decide +kernel)
  refine ⟨trivial, fun saves => absurd saves (by decide), fun saves => absurd saves (by decide),
    fun saves => absurd saves (by decide), fun _ => ⟨⟨rfl, rfl, fun _ => rfl⟩, by decide⟩,
    fun saves => absurd saves (by decide), fun saves => absurd saves (by decide),
    fun saves => absurd saves (by decide), trivial, trivial, trivial⟩

/-- Two handlers that both find no public key: the second writes its private key over that of
the first, and the first publishes last. -/
def overlapping : List (Move UUID (Outcome Nat) Event) :=
  [.command 7, .command 7, .turn 0 (.works 1), .turn 0 (.works 1), .turn 1 (.works 2),
    .turn 1 (.works 2), .turn 0 (.works 1), .turn 1 (.works 2), .turn 0 (.works 1),
    .turn 1 (.works 2), .turn 1 (.works 2), .turn 1 (.works 2), .turn 1 (.works 2),
    .turn 0 (.works 1), .turn 0 (.works 1), .turn 0 (.works 1), .outside (.deliver 0),
    .outside (.deliver 0)]

/-- Nothing runs and nothing is under way, and the stored key is not that of the file. -/
theorem published_key_lost :
    (Crew.run (machine id) ⟨{}, []⟩ overlapping).handlers.length = 0 ∧
      (Crew.run (machine id) ⟨{}, []⟩ overlapping).shared.results = [] ∧
      (Crew.run (machine id) ⟨{}, []⟩ overlapping).shared.stored 7 = some 1 ∧
      (Crew.run (machine id) ⟨{}, []⟩ overlapping).shared.privateKey = some 2 := by
  decide +kernel

end Nixway.Agent.KeyGen
