/-
# Database.CatchUp -- the runs that were missed

`shouldRun` of `internal/database/cron.go` walks no more than 24 hours back.  That is enough for a
schedule that fires every day.  A schedule of some days of the week or the month may have fired
before that, and then the run is lost: nothing looks for it again until it fires the next time.
-/
import Nixway.Database.Scheduled

namespace Nixway.Database

open Nixway.Theory.Text Nixway.Store

set_option autoImplicit false

namespace CronSchedule

/-! ## What the walk has to find -/

/-- The length of the walk. -/
def catchUp : Nat := 24 * 60 * minute

section Zone

variable (zone : Nat → Civil) (c : CronSchedule)

/-- A whole minute after the last run, up to now, in which the schedule fired. -/
def Missed (lastRun now m : Nat) : Prop :=
  lastRun < m * minute ∧ m * minute ≤ now ∧ c.matchesTime (zone m) = true

instance (lastRun now m : Nat) : Decidable (Missed zone c lastRun now m) :=
  inferInstanceAs (Decidable (_ ∧ _ ∧ _))

/-- A firing that is too far back for the walk is followed by one that is not. -/
def WithinReach (lastRun now : Nat) : Prop :=
  ∀ m, Missed zone c lastRun now m → m < minuteOf (now - catchUp) →
    ∃ m', Missed zone c lastRun now m' ∧ minuteOf (now - catchUp) ≤ m'

end Zone

variable {zone : Nat → Civil} {c : CronSchedule} {lastRun now m : Nat}

theorem lt_minute_iff {time : Nat} : time < m * minute ↔ minuteOf time < m :=
  (Nat.div_lt_iff_lt_mul (by decide)).symm

theorem minute_le_iff {time : Nat} : m * minute ≤ time ↔ m ≤ minuteOf time :=
  (Nat.le_div_iff_mul_le (by decide)).symm

/-- The walk finds the firings that were missed in the last 24 hours. -/
theorem any_window_iff : ((window lastRun now).any fun m => c.matchesTime (zone m)) = true ↔
    ∃ m, Missed zone c lastRun now m ∧ minuteOf (now - catchUp) ≤ m := by
  have next : minuteOf (lastRun + minute) = minuteOf lastRun + 1 :=
    Nat.add_div_right lastRun (by decide)
  rw [List.any_eq_true]
  constructor
  · rintro ⟨m, inside, fires⟩
    rw [window, List.mem_range'_1, next] at inside
    have late : minuteOf (now - catchUp) ≤ m := Nat.le_trans (Nat.le_max_right _ _) inside.1
    refine ⟨m, ⟨lt_minute_iff.mpr ?_, minute_le_iff.mpr ?_, fires⟩, late⟩
    · omega
    · omega
  · rintro ⟨m, ⟨after, before, fires⟩, late⟩
    rw [lt_minute_iff] at after
    rw [minute_le_iff] at before
    refine ⟨m, ?_, fires⟩
    rw [window, List.mem_range'_1, next]
    unfold catchUp at late
    omega

/-! ## Which expressions have fields -/

theorem every_of_parseFields {expr : String} (parsed : parseFields expr = .ok c) : c.every = 0 := by
  unfold parseFields at parsed
  split at parsed
  next min hour dom mon dow split =>
    cases first : named "minute" (parseCronField min 0 59) with
    | error e => simp only [first, bind, Except.bind] at parsed; cases parsed
    | ok min =>
      cases second : named "hour" (parseCronField hour 0 23) with
      | error e => simp only [first, second, bind, Except.bind] at parsed; cases parsed
      | ok hour =>
        cases third : named "day-of-month" (parseCronField dom 1 31) with
        | error e => simp only [first, second, third, bind, Except.bind] at parsed; cases parsed
        | ok dom =>
          cases fourth : named "month" (parseCronField mon 1 12) with
          | error e =>
            simp only [first, second, third, fourth, bind, Except.bind] at parsed
            cases parsed
          | ok mon =>
            cases fifth : named "day-of-week" (parseCronField dow 0 6) with
            | error e =>
              simp only [first, second, third, fourth, fifth, bind, Except.bind] at parsed
              cases parsed
            | ok dow =>
              simp only [first, second, third, fourth, fifth, bind, Except.bind] at parsed
              rw [← Except.ok.inj parsed]
  next => cases parsed

theorem every_of_fields {expr : String} (parsed : parseCronSchedule expr = .ok c)
    (fields : hasPrefix (trimSpace expr) "@every " = false) : c.every = 0 := by
  unfold parseCronSchedule at parsed
  dsimp only at parsed
  by_cases empty : trimSpace expr = ""
  · rw [if_pos empty] at parsed
    cases parsed
  · rw [if_neg empty, if_neg (by rw [fields]; exact Bool.false_ne_true)] at parsed
    by_cases hourly : trimSpace expr = "@hourly"
    · rw [if_pos hourly] at parsed
      exact Except.ok.inj parsed ▸ rfl
    · rw [if_neg hourly] at parsed
      by_cases daily : trimSpace expr = "@daily" ∨ trimSpace expr = "@midnight"
      · rw [if_pos daily] at parsed
        exact Except.ok.inj parsed ▸ rfl
      · rw [if_neg daily] at parsed
        by_cases weekly : trimSpace expr = "@weekly"
        · rw [if_pos weekly] at parsed
          exact Except.ok.inj parsed ▸ rfl
        · rw [if_neg weekly] at parsed
          by_cases monthly : trimSpace expr = "@monthly"
          · rw [if_pos monthly] at parsed
            exact Except.ok.inj parsed ▸ rfl
          · rw [if_neg monthly] at parsed
            exact every_of_parseFields parsed

/-! ## What is caught up -/

/-- **A missed firing is caught up exactly if it, or a later one, is within 24 hours.** -/
theorem shouldRun_iff_missed {expr : String} (parsed : parseCronSchedule expr = .ok c)
    (fields : hasPrefix (trimSpace expr) "@every " = false) (lastRun now : Nat) :
    (c.shouldRun utc lastRun now = true ↔ ∃ m, Missed utc c lastRun now m) ↔
      WithinReach utc c lastRun now := by
  have walk : c.shouldRun utc lastRun now = true ↔
      ∃ m, Missed utc c lastRun now m ∧ minuteOf (now - catchUp) ≤ m := by
    rw [← any_window_iff]
    unfold shouldRun
    rw [every_of_fields parsed fields, if_neg (by decide)]
  rw [walk]
  constructor
  · intro caught m missed early
    obtain ⟨m', missed', late⟩ := caught.mpr ⟨m, missed⟩
    exact ⟨m', missed', late⟩
  · intro reach
    refine ⟨fun ⟨m, missed, _⟩ => ⟨m, missed⟩, fun ⟨m, missed⟩ => ?_⟩
    rcases Nat.lt_or_ge m (minuteOf (now - catchUp)) with early | late
    · exact reach m missed early
    · exact ⟨m, missed, late⟩

theorem utc_next_day (m days : Nat) :
    (utc (m + 1440 * days)).minute = (utc m).minute ∧ (utc (m + 1440 * days)).hour = (utc m).hour := by
  have minute : (m + 1440 * days) % 60 = m % 60 := by omega
  have hour : (m + 1440 * days) / 60 % 24 = m / 60 % 24 := by omega
  exact ⟨congrArg Nat.cast minute, congrArg Nat.cast hour⟩

/-- A schedule of every day looks at the time of day alone. -/
theorem matchesTime_daily (dom : c.dom = none) (mon : c.mon = none) (dow : c.dow = none) (t : Civil) :
    c.matchesTime t = (cronFieldMatches c.min t.minute && cronFieldMatches c.hour t.hour) := by
  have any (v : Int) : cronFieldMatches none v = true := rfl
  rw [matchesTime, dom, mon, dow, any, any, any, Bool.and_true, Bool.and_true, Bool.and_true]

theorem minuteOf_day_ago (far : catchUp ≤ now) : minuteOf now = minuteOf (now - catchUp) + 1440 := by
  have length : catchUp = minute * 1440 := by decide
  have positive : 0 < minute := by decide
  rw [length] at far ⊢
  unfold minuteOf
  generalize minute = unit at positive far
  calc now / unit = (now - unit * 1440 + unit * 1440) / unit := by rw [Nat.sub_add_cancel far]
    _ = (now - unit * 1440) / unit + 1440 := Nat.add_mul_div_left _ _ positive

/-- A schedule that fires on every day is always within reach. -/
theorem withinReach_of_daily (dom : c.dom = none) (mon : c.mon = none) (dow : c.dow = none) :
    WithinReach utc c lastRun now := by
  intro m ⟨after, before, fires⟩ early
  -- the first minute of that time of day in the walk
  let m' := m + 1440 * ((minuteOf (now - catchUp) - m + 1439) / 1440)
  have day : minuteOf now = minuteOf (now - catchUp) + 1440 := by
    refine minuteOf_day_ago (Nat.le_of_lt (Nat.lt_of_not_le fun near => ?_))
    rw [Nat.sub_eq_zero_of_le near, minuteOf, Nat.zero_div] at early
    exact absurd early (Nat.not_lt_zero m)
  have late : minuteOf (now - catchUp) ≤ m' := by
    show _ ≤ m + 1440 * _
    omega
  refine ⟨m', ⟨?_, ?_, ?_⟩, late⟩
  · rw [lt_minute_iff] at after ⊢
    omega
  · rw [minute_le_iff]
    show m + 1440 * _ ≤ _
    omega
  · obtain ⟨minute, hour⟩ := utc_next_day m ((minuteOf (now - catchUp) - m + 1439) / 1440)
    rw [matchesTime_daily dom mon dow, Bool.and_eq_true] at fires ⊢
    exact ⟨minute ▸ fires.1, hour ▸ fires.2⟩

/-- Midnight is caught up after three days. -/
theorem daily_caught_up :
    let daily : CronSchedule := { min := some [0], hour := some [0] }
    let lastRun := (739000 * 1440 + 600) * minute
    let now := (739003 * 1440 + 600) * minute
    parseCronSchedule "@daily" = .ok daily ∧
      (daily.shouldRun utc lastRun now = true ↔ ∃ m, Missed utc daily lastRun now m) :=
  ⟨by decide +kernel,
    (@shouldRun_iff_missed { min := some [0], hour := some [0] } "@daily" (by decide +kernel)
      (by decide +kernel) _ _).mpr (withinReach_of_daily rfl rfl rfl)⟩

/-- A control plane that is down from Saturday to Tuesday never makes the backup of Sunday. -/
theorem weekly_lost :
    let weekly : CronSchedule := { min := some [0], hour := some [0], dow := some [0] }
    let lastRun := (738995 * 1440 + 600) * minute
    let now := (738998 * 1440 + 600) * minute
    parseCronSchedule "@weekly" = .ok weekly ∧ Missed utc weekly lastRun now (738996 * 1440) ∧
      weekly.shouldRun utc lastRun now = false := by
  decide +kernel

end CronSchedule

end Nixway.Database
