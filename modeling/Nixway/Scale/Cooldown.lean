/-
# Scale.Cooldown -- how far apart the successful calls of a rule are

A pass reads `last_triggered_at` once, with all the rules, and writes it only after
the whole of `ScaleApp` has returned.  Between the two another pass can make the
same call.  `NotStale` is what a call needs when it returns: the timestamp is still
the one its pass read, and every earlier successful call of the rule has been
marked.  In a run in which no call returns stale, successful calls of one rule are
their cooldown apart.
-/
import Nixway.Scale.Calls

namespace Nixway.Scale

open Nixway.Theory Nixway.Store

set_option autoImplicit false

/-- Of two successful calls of one rule, the later one was made at least the cooldown
of its direction after the earlier one returned. -/
def Spaced (w : World) : Prop :=
  w.scaled.Pairwise fun earlier later => earlier.1.rule.id = later.1.rule.id →
    (earlier.2 : Int) + ScaleCall.cooldown later.1 ≤ later.1.calledAt

instance (w : World) : Decidable (Spaced w) := inferInstanceAs (Decidable (List.Pairwise _ _))

/-- The rule's timestamp is the one the call's pass read, and no earlier successful call
of the rule waits for its mark. -/
def NotStale (w : World) (call : ScaleCall) : Prop :=
  (w.rules.find? call.rule.id).map AutoscalingRule.lastTriggeredAt =
      some call.rule.lastTriggeredAt ∧
    ∀ earlier ∈ w.scaled, earlier.1.rule.id = call.rule.id →
      ∃ triggered ∈ call.rule.lastTriggeredAt, earlier.2 ≤ triggered

instance (w : World) (call : ScaleCall) : Decidable (NotStale w call) :=
  have : DecidablePred fun earlier : ScaleCall × Nat => earlier.1.rule.id = call.rule.id →
      ∃ triggered ∈ call.rule.lastTriggeredAt, earlier.2 ≤ triggered := fun _ =>
    inferInstanceAs (Decidable (_ → _))
  have : Decidable (∀ earlier ∈ w.scaled, earlier.1.rule.id = call.rule.id →
      ∃ triggered ∈ call.rule.lastTriggeredAt, earlier.2 ≤ triggered) :=
    List.decidableBAll _ _
  inferInstanceAs (Decidable (_ ∧ _))

/-- A call that returns in the step is not stale. -/
def Fresh (s t : World) : Prop :=
  ∀ returned ∈ t.scaled.drop s.scaled.length, NotStale s returned.1

instance (s t : World) : Decidable (Fresh s t) := List.decidableBAll _ _

theorem spaced_step {s t : World} (step : Logged s t) (fresh : Fresh s t) (spaced : Spaced s) :
    Spaced t := by
  rcases step.scaled with same | ⟨call, rested, -, added⟩
  · rw [Spaced, same]
    exact spaced
  · rw [Spaced, added, List.pairwise_append]
    refine ⟨spaced, List.pairwise_singleton _ _, fun earlier old later new sameRule => ?_⟩
    obtain rfl := List.mem_singleton.mp new
    have notStale : NotStale s call := fresh (call, s.now) (by simp [added])
    obtain ⟨triggered, read, marked⟩ := notStale.2 earlier old sameRule
    have cooled := rested triggered read
    show (earlier.2 : Int) + ScaleCall.cooldown call ≤ (call.calledAt : Int)
    omega

/-- **Where no call returns stale, the cooldown is kept.** -/
theorem spaced_of_fresh
    {triggerDeploy : UUID → UUID → UUID → Prog World (Except String Deployment)}
    {spawn : Spawn World} {c : Pool World} (evaluating : Evaluating triggerDeploy spawn c)
    (start : c.store.scaled = []) {schedule : List Nat} (fresh : c.Along spawn Fresh schedule) :
    Spaced (c.run spawn schedule).store := by
  refine evaluating.run_keeps (C := Fresh) (fun s t => spaced_step) ?_ fresh
  rw [Spaced, start]
  exact List.Pairwise.nil

/-- Two passes read the rule before either has marked it, and both scale the app. -/
theorem overlapping_passes_scale_twice :
    ((passes 2 (busyApp 1 0)).run Pool.noSpawn
        [0, 0, 0, 1, 1, 1, 0, 0, 0, 0, 0, 0, 0, 1, 1, 1, 1, 1, 1, 1]).store.scaled.map
          (fun returned => (returned.1.rule.id, returned.1.requested, returned.2)) =
        [(4, 3, 0), (4, 3, 0)] ∧
      ¬ Spaced ((passes 2 (busyApp 1 0)).run Pool.noSpawn
        [0, 0, 0, 1, 1, 1, 0, 0, 0, 0, 0, 0, 0, 1, 1, 1, 1, 1, 1, 1]).store := by
  decide +kernel

/-- One pass after the other keeps the cooldown: the second one finds it active. -/
theorem serial_passes_spaced :
    Spaced ((passes 2 (busyApp 1 0)).run Pool.noSpawn
      (List.replicate 10 0 ++ List.replicate 10 1)).store :=
  spaced_of_fresh (passes_evaluating 2 (busyApp 1 0)) rfl (by decide +kernel)

end Nixway.Scale
