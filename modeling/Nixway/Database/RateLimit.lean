/-
# Database.RateLimit -- the ten queries a second of a user

`rateLimitPerUser` counts a user's queries in one key of Redis: an INCR, and behind the INCR
that answers 1 an EXPIRE of a second whose error nobody looks at.  The two are commands of their
own, so calls of the same user come between them, time passes between them, and either can be
cut off.  Where the EXPIRE does not come the counter stays, and every later query of the user is
refused.

The machine is one server with its clock, the counters and the calls under way; its events are
the clock, a new call, and the next command of a call with what becomes of it.  A counter that
refuses is trusted as long as it was made less than a second ago (`Timely`), and then the
limiter is fair (`never_locked_out`).
-/
import Nixway.Theory.Expiring
import Nixway.Theory.Runs
import Nixway.Store.Schema

namespace Nixway.Database.RateLimit

open Nixway.Theory Nixway.Store

set_option autoImplicit false

/-- Redis counts time in milliseconds. -/
def second : Nat := 1000

def queryRateLimitPerSecond : Nat := 10

/-- What becomes of a command: it is executed and answered, it is not executed, or it is executed
and the caller gets an error instead of the answer. -/
inductive Fate where
  | answered
  | failed
  | cutOff
  deriving DecidableEq, Repr

/-- Where a call of `rateLimitPerUser` stands: in front of its INCR, in front of the EXPIRE, or
returned. -/
inductive Stage where
  | incr
  | expire (count : Nat)
  | returned (answer : Except String Unit)
  deriving DecidableEq

/-- A call; `time` is when its INCR was sent. -/
structure Call where
  userID : UUID
  stage : Stage
  time : Nat
  deriving DecidableEq

/-- The last test of `rateLimitPerUser`. -/
def limit (count : Nat) : Stage :=
  .returned (if count > queryRateLimitPerSecond then
    .error "rate limit exceeded (10 queries/sec per user)" else .ok ())

/-- `rateLimitPerUser`, up to its first command; `redis` is whether there is a client. -/
def rateLimitPerUser (redis : Bool) (userID : UUID) : Stage :=
  if redis = false ∨ userID = 0 then .returned (.ok ()) else .incr

/-- Behind the INCR; `none` is an error of Redis. -/
def counted : Option Nat → Stage
  | none => .returned (.ok ())    -- a failure of Redis does not block
  | some count => if count = 1 then .expire count else limit count

/-- The server and the calls; `log` is when which user was counted. -/
structure Limiter where
  redis : Bool
  now : Nat
  counters : Counters UUID
  calls : List Call
  log : Tally UUID

inductive Event where
  | tick (d : Nat)
  | call (userID : UUID)
  | pick (i : Nat) (fate : Fate)
  deriving DecidableEq

/-- The counter behind the INCR of a user. -/
def Limiter.raised (w : Limiter) (userID : UUID) : Counter :=
  Counter.next w.now (w.counters.find w.now userID)

def Limiter.incr (w : Limiter) (userID : UUID) : Limiter :=
  { w with
    counters := w.counters.incr w.now userID
    log := (userID, w.now) :: w.log }

def Limiter.expire (w : Limiter) (userID : UUID) : Limiter :=
  { w with counters := w.counters.expire w.now second userID }

/-- The call at `i` goes on. -/
def Limiter.move (w : Limiter) (i : Nat) (call : Call) : Limiter :=
  { w with calls := w.calls.set i call }

/-- The next command of the call at `i`. -/
def Limiter.pick (w : Limiter) (i : Nat) (fate : Fate) : Limiter :=
  match w.calls[i]? with
  | none => w
  | some call =>
    match call.stage, fate with
    | .incr, .answered =>
      (w.incr call.userID).move i
        { call with stage := counted (some (w.raised call.userID).value), time := w.now }
    | .incr, .cutOff =>
      (w.incr call.userID).move i
        { call with stage := counted none, time := w.now }
    | .incr, .failed =>
      w.move i { call with stage := counted none, time := w.now }
    | .expire count, .failed => w.move i { call with stage := limit count }
    | .expire count, _ => (w.expire call.userID).move i { call with stage := limit count }
    | .returned _, _ => w

def step (w : Limiter) : Event → Limiter
  | .tick d => { w with now := w.now + d }
  | .call userID => { w with calls := w.calls ++ [⟨userID, rateLimitPerUser w.redis userID, w.now⟩] }
  | .pick i fate => w.pick i fate

/-- A server without counters, before the first call. -/
def opened (redis : Bool) (now : Nat) : Limiter := ⟨redis, now, fun _ => none, [], []⟩

/-! ## Fairness -/

/-- The call was refused. -/
def Call.Refused (call : Call) : Prop := ∃ err, call.stage = .returned (.error err)

/-- Who was refused had been counted more than ten times in the second that ended then. -/
def Fair (w : Limiter) : Prop :=
  ∀ call ∈ w.calls, call.Refused →
    queryRateLimitPerSecond < w.log.lately call.userID second call.time

/-- The user was not counted for a second. -/
def Quiet (w : Limiter) (userID : UUID) : Prop :=
  ∀ e ∈ w.log, e.1 = userID → e.2 + second ≤ w.now

/-- An answered INCR that finds the ten queries used up finds a counter made less than a second
ago. -/
def Timely (w : Limiter) : Event → Prop
  | .pick i .answered =>
    ∀ call ∈ w.calls[i]?, call.stage = .incr → ∀ c ∈ w.counters.find w.now call.userID,
      queryRateLimitPerSecond ≤ c.value → w.now < c.born + second
  | _ => True

instance (w : Limiter) : DecidablePred (Timely w)
  | .pick i .answered => inferInstanceAs (Decidable (∀ call ∈ w.calls[i]?, call.stage = .incr →
      ∀ c ∈ w.counters.find w.now call.userID,
        queryRateLimitPerSecond ≤ c.value → w.now < c.born + second))
  | .pick _ .failed => isTrue trivial
  | .pick _ .cutOff => isTrue trivial
  | .tick _ => isTrue trivial
  | .call _ => isTrue trivial

/-- What every step keeps. -/
structure Sound (w : Limiter) : Prop where
  tallied : Tallied w.counters w.log w.now
  first : ∀ call ∈ w.calls, ∀ count, call.stage = .expire count → count = 1
  fair : Fair w

/-! ### One step -/

theorem refused_limit {userID : UUID} {count time : Nat}
    (refused : Call.Refused ⟨userID, limit count, time⟩) : queryRateLimitPerSecond < count := by
  obtain ⟨err, stage⟩ := refused
  by_contra small
  rw [limit, if_neg small] at stage
  cases stage

theorem refused_counted {userID : UUID} {time : Nat} {answer : Option Nat}
    (refused : Call.Refused ⟨userID, counted answer, time⟩) :
    ∃ count, answer = some count ∧ queryRateLimitPerSecond < count := by
  obtain ⟨err, stage⟩ := refused
  cases answer with
  | none => cases stage
  | some count =>
    refine ⟨count, rfl, ?_⟩
    rw [counted] at stage
    split at stage
    · cases stage
    · exact refused_limit ⟨err, stage⟩

theorem counted_expire (answer : Option Nat) (count : Nat)
    (stage : counted answer = .expire count) : count = 1 := by
  cases answer with
  | none => cases stage
  | some n =>
    rw [counted] at stage
    split at stage
    · rename_i one
      cases stage
      exact one
    · cases stage

/-- A call goes on in a sound limiter; the log has grown by at most one entry. -/
theorem Sound.move {w w' : Limiter} (sound : Sound w) {i : Nat} {call : Call}
    (calls : w'.calls = w.calls) (tallied : Tallied w'.counters w'.log w'.now)
    (log : w'.log = w.log ∨ ∃ e, w'.log = e :: w.log)
    (first : ∀ count, call.stage = .expire count → count = 1)
    (fair : call.Refused →
      queryRateLimitPerSecond < w'.log.lately call.userID second call.time) :
    Sound (w'.move i call) where
  tallied := tallied
  first other mem := by
    rcases List.mem_or_eq_of_mem_set mem with old | rfl
    · exact sound.first other (calls ▸ old)
    · exact first
  fair other mem refused := by
    rcases List.mem_or_eq_of_mem_set mem with old | rfl
    · have before := sound.fair other (calls ▸ old) refused
      show queryRateLimitPerSecond < w'.log.lately other.userID second other.time
      obtain same | ⟨e, grown⟩ := log
      · rw [same]
        exact before
      · rw [grown]
        exact Nat.lt_of_lt_of_le before (Tally.lately_le_cons _ _ _ _ _)
    · exact fair refused

/-- The counter that refuses was made less than a second ago, so what it says is of the last
second. -/
theorem raised_lately {w : Limiter} (sound : Sound w) {userID : UUID}
    (young : ∀ c ∈ w.counters.find w.now userID,
      queryRateLimitPerSecond ≤ c.value → w.now < c.born + second)
    (more : queryRateLimitPerSecond < (w.raised userID).value) :
    queryRateLimitPerSecond < (w.incr userID).log.lately userID second w.now := by
  have here : (w.incr userID).counters userID = some (w.raised userID) := Function.update_self ..
  refine Nat.lt_of_lt_of_le more ((sound.tallied.incr userID).lately here ?_)
  unfold Limiter.raised at more ⊢
  cases found : w.counters.find w.now userID with
  | none =>
    rw [found] at more
    have more : queryRateLimitPerSecond < 1 := more
    exact absurd more (by decide)
  | some c =>
    rw [found] at more
    exact young c found (Nat.lt_succ_iff.mp more)

theorem Sound.pick {w : Limiter} (sound : Sound w) {i : Nat} {fate : Fate}
    (timely : Timely w (.pick i fate)) : Sound (w.pick i fate) := by
  unfold Limiter.pick
  cases there : w.calls[i]? with
  | none => exact sound
  | some call =>
    obtain ⟨userID, stage, time⟩ := call
    have incr := sound.tallied.incr userID
    cases stage with
    | incr =>
      cases fate with
      | answered =>
        refine sound.move rfl incr (.inr ⟨_, rfl⟩) (counted_expire (some _))
          fun refused => ?_
        obtain ⟨count, same, more⟩ := refused_counted refused
        cases same
        exact raised_lately sound (timely _ there rfl) more
      | failed =>
        refine sound.move rfl sound.tallied (.inl rfl) (counted_expire none)
          fun refused => ?_
        obtain ⟨count, same, -⟩ := refused_counted refused
        cases same
      | cutOff =>
        refine sound.move rfl incr (.inr ⟨_, rfl⟩) (counted_expire none)
          fun refused => ?_
        obtain ⟨count, same, -⟩ := refused_counted refused
        cases same
    | expire count =>
      -- only the first INCR of a counter has an EXPIRE behind it, and it is not refused
      have one : count = 1 := sound.first _ (List.mem_of_getElem? there) count rfl
      have admitted : ¬ Call.Refused ⟨userID, limit count, time⟩ := fun refused =>
        absurd (refused_limit refused) (by rw [one]; decide)
      have set := sound.tallied.expire second userID
      cases fate with
      | failed => exact sound.move rfl sound.tallied (.inl rfl) nofun fun no => absurd no admitted
      | answered => exact sound.move rfl set (.inl rfl) nofun fun no => absurd no admitted
      | cutOff => exact sound.move rfl set (.inl rfl) nofun fun no => absurd no admitted
    | returned answer => exact sound

theorem Sound.step {w : Limiter} (sound : Sound w) {event : Event} (timely : Timely w event) :
    Sound (step w event) := by
  cases event with
  | tick d => exact ⟨sound.tallied.later d, sound.first, sound.fair⟩
  | call userID =>
    have new : ∀ call ∈ (RateLimit.step w (.call userID)).calls, call ∈ w.calls ∨
        call.stage = .incr ∨ call.stage = .returned (.ok ()) := by
      intro call mem
      refine (List.mem_append.mp mem).imp_right fun last => ?_
      rw [List.mem_singleton.mp last]
      dsimp only
      unfold rateLimitPerUser
      split
      · exact .inr rfl
      · exact .inl rfl
    refine ⟨sound.tallied, fun call mem count waits => ?_, fun call mem refused => ?_⟩
    · obtain old | starts | skipped := new call mem
      · exact sound.first call old count waits
      · rw [starts] at waits
        cases waits
      · rw [skipped] at waits
        cases waits
    · obtain old | starts | skipped := new call mem
      · exact sound.fair call old refused
      · obtain ⟨err, stage⟩ := refused
        rw [starts] at stage
        cases stage
      · obtain ⟨err, stage⟩ := refused
        rw [skipped] at stage
        cases stage
  | pick i fate => exact sound.pick timely

theorem sound_opened (redis : Bool) (now : Nat) : Sound (opened redis now) :=
  ⟨Tallied.empty now, fun _ mem => (by cases mem), fun _ mem => (by cases mem)⟩

/-- A step that refuses a call is its INCR, counted now. -/
theorem refused_by {w : Limiter} (sound : Sound w) {i : Nat} {fate : Fate} {call call' : Call}
    (there : w.calls[i]? = some call) (admitted : ¬ call.Refused)
    (behind : (w.pick i fate).calls[i]? = some call') (refused : call'.Refused) :
    (w.pick i fate).log = (call.userID, w.now) :: w.log ∧ call'.userID = call.userID ∧
      call'.time = w.now := by
  obtain ⟨inside, -⟩ := List.getElem?_eq_some_iff.mp there
  have set : ∀ x, (w.calls.set i x)[i]? = some call' → x = call' := fun x here => by
    rw [List.getElem?_set_self inside] at here
    exact Option.some.inj here
  obtain ⟨userID, stage, time⟩ := call
  unfold Limiter.pick at behind ⊢
  rw [there] at behind ⊢
  cases stage with
  | incr =>
    cases fate with
    | answered =>
      cases set _ behind
      exact ⟨rfl, rfl, rfl⟩
    | failed =>
      cases set _ behind
      obtain ⟨count, same, -⟩ := refused_counted refused
      cases same
    | cutOff =>
      cases set _ behind
      obtain ⟨count, same, -⟩ := refused_counted refused
      cases same
  | expire count =>
    have one : count = 1 := sound.first _ (List.mem_of_getElem? there) count rfl
    have more : queryRateLimitPerSecond < count := by
      cases fate <;> (cases set _ behind; exact refused_limit refused)
    rw [one] at more
    exact absurd more (by decide)
  | returned answer =>
    cases there.symm.trans behind
    exact absurd refused admitted

/-- Behind a second without queries the next one is admitted. -/
theorem admitted_of_quiet {w : Limiter} (sound : Sound w) {i : Nat} {fate : Fate}
    (timely : Timely w (.pick i fate)) {call call' : Call} (there : w.calls[i]? = some call)
    (admitted : ¬ call.Refused) (quiet : Quiet w call.userID)
    (behind : (w.pick i fate).calls[i]? = some call') : ¬ call'.Refused := by
  intro refused
  obtain ⟨log, userID, time⟩ := refused_by sound there admitted behind refused
  have many := (sound.pick timely).fair call' (List.mem_of_getElem? behind) refused
  rw [log, userID, time] at many
  have few : Tally.lately ((call.userID, w.now) :: w.log) call.userID second w.now ≤ 1 :=
    Tally.lately_cons_quiet quiet
  exact absurd (Nat.lt_of_lt_of_le many few) (by decide)

/-! ### Runs -/

/-- The claim about a limiter: who is refused was counted more than ten times in the last second,
and a user who was not counted in the last second is not refused by the next step. -/
structure NeverLocksOut (w : Limiter) : Prop where
  fair : Fair w
  quiet : ∀ i fate call call', Timely w (.pick i fate) → w.calls[i]? = some call →
    ¬ call.Refused → Quiet w call.userID → (w.pick i fate).calls[i]? = some call' →
      ¬ call'.Refused

/-- **The limiter locks nobody out** along the runs in which no counter that refuses has outlived
its second. -/
theorem never_locked_out (redis : Bool) (now : Nat) (events : List Event)
    (timely : Runs.Along step Timely (opened redis now) events) :
    NeverLocksOut (events.foldl step (opened redis now)) := by
  have sound : Sound (events.foldl step (opened redis now)) :=
    timely.invariant (I := Sound) (fun _ _ ok sound => sound.step ok) (sound_opened redis now)
  exact ⟨sound.fair, fun _ _ _ _ ok there admitted quiet behind =>
    admitted_of_quiet sound ok there admitted quiet behind⟩

/-- Eleven queries of user 7 within a second, the first of them with its EXPIRE. -/
def burst : List Event :=
  [Event.call 7, .pick 0 .answered, .pick 0 .answered] ++
    (List.range' 1 10).flatMap fun i => [Event.tick 90, .call 7, .pick i .answered]

/-- The last of the burst is refused, and it is the eleventh in its second. -/
theorem never_locked_out_burst :
    ((burst.foldl step (opened true 0)).calls.map fun call => call.stage).getLast? =
        some (limit 11) ∧ NeverLocksOut (burst.foldl step (opened true 0)) :=
  ⟨by decide +kernel, never_locked_out true 0 burst (by decide +kernel)⟩

/-- Eleven queries a second apart; the EXPIRE of the first is cut off before it is executed. -/
def lostExpire : List Event :=
  [Event.call 7, .pick 0 .answered, .pick 0 .failed] ++
    (List.range' 1 10).flatMap fun i => [Event.tick second, .call 7, .pick i .answered]

/-- The eleventh is refused, the only query of its second. -/
theorem lostExpire_locks_out :
    ((lostExpire.foldl step (opened true 0)).calls.map fun call => call.stage).getLast? =
        some (limit 11) ∧
      (lostExpire.foldl step (opened true 0)).log.lately 7 second (10 * second) = 1 ∧
      ¬ Fair (lostExpire.foldl step (opened true 0)) := by
  have once : (lostExpire.foldl step (opened true 0)).log.lately 7 second (10 * second) = 1 := by
    decide +kernel
  refine ⟨by decide +kernel, once, fun fair => ?_⟩
  have last : ⟨7, limit 11, 10 * second⟩ ∈ (lostExpire.foldl step (opened true 0)).calls := by
    decide +kernel
  have many := fair _ last ⟨_, rfl⟩
  rw [once] at many
  exact absurd many (by decide)

end Nixway.Database.RateLimit
