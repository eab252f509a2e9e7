/-
# Database.Cron -- when a schedule is due

`internal/database/cron.go`: the expressions the backup scheduler understands, and
`shouldRun`, which walks the minutes since the last run.

A time is a number of nanoseconds since Go's zero time, so 0 is `IsZero`, and a minute is
named by its number on the same scale.  What the clock on the wall shows in a minute
depends on the time zone of the control plane, which is a parameter.
-/
import Mathlib.Data.List.Dedup
import Nixway.Store.Slug

namespace Nixway.Database

open Nixway.Theory.Text Nixway.Store

set_option autoImplicit false

/-! ## Durations -/

/-- The units of `time.ParseDuration`, in nanoseconds. -/
def durationUnit : List Char → Option Nat
  | ['n', 's'] => some 1
  | ['u', 's'] => some 1000
  | ['\u00b5', 's'] => some 1000
  | ['\u03bc', 's'] => some 1000
  | ['m', 's'] => some 1000000
  | ['s'] => some 1000000000
  | ['m'] => some 60000000000
  | ['h'] => some 3600000000000
  | _ => none

/-- `leadingFraction`: digits past the precision of 64 bits are read and dropped. -/
def leadingFraction (digits : List Char) : Nat × Nat :=
  let (f, scale, _) := digits.foldl (fun (f, scale, full) c =>
    let y := f * 10 + (c.toNat - 48)
    if full || decide ((2 ^ 63 - 1) / 10 < f) || decide (2 ^ 63 < y) then (f, scale, true)
    else (y, scale * 10, false)) (0, 1, false)
  (f, scale)

/-- The terms of a duration, added up; each reads at least one character. -/
def durationTerms : Nat → List Char → Nat → Option Nat
  | _, [], d => some d
  | 0, _ :: _, _ => none
  | fuel + 1, s, d =>
    let whole := s.takeWhile isDigit
    let s := s.dropWhile isDigit
    let (fraction, s) := match s with
      | '.' :: rest => (rest.takeWhile isDigit, rest.dropWhile isDigit)
      | _ => ([], s)
    let unit := s.takeWhile fun c => c ≠ '.' && !isDigit c
    let rest := s.dropWhile fun c => c ≠ '.' && !isDigit c
    if whole = [] ∧ fraction = [] then none
    else match durationUnit unit with
      | none => none
      | some unit =>
        let v := digitsValue whole
        let (f, scale) := leadingFraction fraction
        if 2 ^ 63 < v ∨ 2 ^ 63 / unit < v then none
        else
          let v := v * unit + f * unit / scale
          if 2 ^ 63 < v ∨ 2 ^ 63 < d + v then none
          else durationTerms fuel rest (d + v)

/-- `time.ParseDuration`, in nanoseconds. -/
def parseDuration (text : String) : Option Int :=
  let (negative, s) := match text.toList with
    | '-' :: rest => (true, rest)
    | '+' :: rest => (false, rest)
    | cs => (false, cs)
  if s = ['0'] then some 0
  else if s = [] then none
  else match durationTerms s.length s 0 with
    | none => none
    | some d =>
      if negative then some (-d)
      else if 2 ^ 63 - 1 < d then none
      else some d

/-! ## Expressions -/

/-- `cronSchedule`; a field that is `none` takes any value. -/
structure CronSchedule where
  every : Int := 0
  min : Option (List Int) := none
  hour : Option (List Int) := none
  dom : Option (List Int) := none
  mon : Option (List Int) := none
  dow : Option (List Int) := none
deriving DecidableEq

/-- `%q` of a text without characters to escape. -/
def quoted (cs : List Char) : String := "\"" ++ String.ofList cs ++ "\""

/-- The values of one part of a field, a number or a range. -/
def cronPart (lo hi : Int) (part : List Char) : Except String (List Int) :=
  match part.dropWhile (· ≠ '-') with
  | _ :: ending =>
    let start := part.takeWhile (· ≠ '-')
    match atoi start with
    | none => .error ("invalid range start " ++ quoted start)
    | some a =>
      match atoi ending with
      | none => .error ("invalid range end " ++ quoted ending)
      | some b =>
        if a < lo ∨ hi < b ∨ b < a then
          .error ("range " ++ toString a ++ "-" ++ toString b ++ " outside [" ++ toString lo ++
            "," ++ toString hi ++ "]")
        else .ok ((List.range (b - a + 1).toNat).map fun i : Nat => a + i)
  | [] =>
    match atoi part with
    | none => .error ("invalid value " ++ quoted part)
    | some v =>
      if v < lo ∨ hi < v then
        .error ("value " ++ toString v ++ " outside [" ++ toString lo ++ "," ++ toString hi ++ "]")
      else .ok [v]

/-- The parts of a field, up to the first one that is refused. -/
def cronParts (lo hi : Int) : List (List Char) → Except String (List Int)
  | [] => .ok []
  | part :: parts => do
    let values ← cronPart lo hi part
    return values ++ (← cronParts lo hi parts)

/-- The values are the keys of a map, which come in some order. -/
def parseCronField (field : List Char) (lo hi : Int) : Except String (Option (List Int)) := do
  if field = ['*'] then
    return none
  let values ← cronParts lo hi (field.splitOnP (· == ','))
  if values = [] then
    throw "no values matched"
  return some values.dedup

/-- The name of the field comes before its error. -/
def named {α : Type} (name : String) (parsed : Except String α) : Except String α :=
  parsed.mapError fun err => name ++ ": " ++ err

/-- `strings.Fields`. -/
def fieldsOf (s : String) : List (List Char) := (s.toList.splitOnP isSpace).filter (· ≠ [])

/-- The standard form of five fields. -/
def parseFields (expr : String) : Except String CronSchedule := do
  match fieldsOf expr with
  | [min, hour, dom, mon, dow] =>
    let min ← named "minute" (parseCronField min 0 59)
    let hour ← named "hour" (parseCronField hour 0 23)
    let dom ← named "day-of-month" (parseCronField dom 1 31)
    let mon ← named "month" (parseCronField mon 1 12)
    let dow ← named "day-of-week" (parseCronField dow 0 6)
    return { min := min, hour := hour, dom := dom, mon := mon, dow := dow }
  | fields => throw ("cron expression must have 5 fields, got " ++ toString fields.length)

def parseCronSchedule (expr : String) : Except String CronSchedule :=
  let expr := trimSpace expr
  if expr = "" then .error "empty cron expression"
  else if hasPrefix expr "@every " then
    match parseDuration (trimPrefix expr "@every ") with
    | none => .error "invalid @every duration"
    | some dur =>
      if dur ≤ 0 then .error "@every duration must be positive" else .ok { every := dur }
  else if expr = "@hourly" then .ok { min := some [0] }
  else if expr = "@daily" ∨ expr = "@midnight" then .ok { min := some [0], hour := some [0] }
  else if expr = "@weekly" then .ok { min := some [0], hour := some [0], dow := some [0] }
  else if expr = "@monthly" then .ok { min := some [0], hour := some [0], dom := some [1] }
  else parseFields expr

/-! ## Times -/

/-- What a clock shows in a minute; Sunday is 0. -/
structure Civil where
  minute : Int
  hour : Int
  day : Int
  month : Int
  weekday : Int

/-- A minute on the clock, which counts nanoseconds. -/
def minute : Nat := 60 * 1000000000

/-- `Truncate(time.Minute)`, as the number of the minute. -/
def minuteOf (time : Nat) : Nat := time / minute

def cronFieldMatches (allowed : Option (List Int)) (v : Int) : Bool :=
  match allowed with
  | none => true
  | some values => values.contains v

namespace CronSchedule

def matchesTime (c : CronSchedule) (t : Civil) : Bool :=
  cronFieldMatches c.min t.minute && cronFieldMatches c.hour t.hour &&
    cronFieldMatches c.dom t.day && cronFieldMatches c.mon t.month &&
    cronFieldMatches c.dow t.weekday

/-- The minutes `shouldRun` walks through: from the one after the last run, but no more than
24 hours back, to the present one. -/
def window (lastRun now : Nat) : List Nat :=
  let start := max (minuteOf (lastRun + minute)) (minuteOf (now - 24 * 60 * minute))
  List.range' start (minuteOf now + 1 - start)

section Zone

variable (zone : Nat → Civil) (c : CronSchedule)

/-- The minutes that are due: they match and lie in the window. -/
def firing (lastRun now : Nat) : List Nat :=
  if 0 < c.every then [] else (window lastRun now).filter fun m => c.matchesTime (zone m)

def shouldRun (lastRun now : Nat) : Bool :=
  if 0 < c.every then
    if lastRun = 0 then true else decide (c.every ≤ (now : Int) - lastRun)
  else (window lastRun now).any fun m => c.matchesTime (zone m)

/-! ## The window -/

/-- A minute that is due is later than the last run, at most 24 hours old, and not to come. -/
theorem firing_bounds {zone : Nat → Civil} {c : CronSchedule} {lastRun now m : Nat}
    (mem : m ∈ c.firing zone lastRun now) :
    minuteOf lastRun < m ∧ minuteOf (now - 24 * 60 * minute) ≤ m ∧ m ≤ minuteOf now := by
  unfold firing at mem
  split at mem
  · cases mem
  · have inside := List.mem_of_mem_filter mem
    rw [window, List.mem_range'_1] at inside
    have next : minuteOf (lastRun + minute) = minuteOf lastRun + 1 :=
      Nat.add_div_right lastRun (by decide)
    rw [next] at inside
    omega

end Zone

end CronSchedule

theorem minuteOf_mono {a b : Nat} (le : a ≤ b) : minuteOf a ≤ minuteOf b :=
  Nat.div_le_div_right le

end Nixway.Database
