/-
# Database.CronFields -- the grammar of a field

Which texts `parseCronField` of `internal/database/cron.go` takes, and what it makes of them.  `Item`
is the grammar of what stands between the commas: an integer, or a range of two, within the bounds of
the field.  Integers are those of `strconv.Atoi` without a minus sign, except that a range may end
with a zero that has one: the dash of the range is the first one, and `Atoi` reads what follows.
-/
import Nixway.Database.Cron

namespace Nixway.Database

open Nixway.Theory.Text Nixway.Store

set_option autoImplicit false

/-! ## The grammar -/

/-- The bounds that `parseCronSchedule` uses. -/
def fieldBounds : List (Int × Int) := [(0, 59), (0, 23), (1, 31), (1, 12), (0, 6)]

/-- An integer in the syntax of `Atoi`, without a minus sign. -/
def IsNumber (text : List Char) (n : Int) : Prop := '-' ∉ text ∧ atoi text = some n

/-- An item of a field, with the first and the last value it covers. -/
inductive Item (lo hi : Int) : List Char → Int → Int → Prop where
  | number {text : List Char} {n : Int} (is : IsNumber text n) (low : lo ≤ n) (high : n ≤ hi) :
      Item lo hi text n n
  | range {start ending : List Char} {a b : Int} (first : IsNumber start a) (last : IsNumber ending b)
      (low : lo ≤ a) (order : a ≤ b) (high : b ≤ hi) : Item lo hi (start ++ '-' :: ending) a b
  | minusZero {start ending : List Char} {a : Int} (first : IsNumber start a)
      (last : atoi ('-' :: ending) = some 0) (low : lo ≤ a) (order : a ≤ 0) (high : 0 ≤ hi) :
      Item lo hi (start ++ '-' :: '-' :: ending) a 0

/-- What stands between the commas. -/
def itemsOf (field : List Char) : List (List Char) := field.splitOnP (· == ',')

def IsList (lo hi : Int) (field : List Char) : Prop := ∀ item ∈ itemsOf field, ∃ a b, Item lo hi item a b

/-- The items cover a value. -/
def Covers (lo hi : Int) (field : List Char) (v : Int) : Prop :=
  ∃ item ∈ itemsOf field, ∃ a b, Item lo hi item a b ∧ a ≤ v ∧ v ≤ b

/-! ## Numbers -/

theorem atoi_some {text : List Char} {n : Int} (value : atoi text = some n) :
    ∃ digits, digits.all isDigit = true ∧ (text = '-' :: digits ∧ n = -digitsValue digits ∨
      (text = '+' :: digits ∨ text = digits) ∧ n = digitsValue digits) := by
  unfold atoi at value
  split at value
  next negative digits same =>
    have shape : text = '-' :: digits ∧ negative = true ∨
        (text = '+' :: digits ∨ text = digits) ∧ negative = false := by
      split at same
      · obtain ⟨rfl, rfl⟩ := Prod.mk.inj same
        exact .inl ⟨rfl, rfl⟩
      · obtain ⟨rfl, rfl⟩ := Prod.mk.inj same
        exact .inr ⟨.inl rfl, rfl⟩
      · obtain ⟨rfl, rfl⟩ := Prod.mk.inj same
        exact .inr ⟨.inr rfl, rfl⟩
    by_cases bad : digits = [] ∨ (!digits.all isDigit) = true
    · rw [if_pos bad] at value
      cases value
    · rw [if_neg bad] at value
      have all : digits.all isDigit = true := by
        simpa using (not_or.mp bad).2
      refine ⟨digits, all, ?_⟩
      have read := Option.some.inj (Option.ite_none_right_eq_some.mp value).2
      rcases shape with ⟨text, rfl⟩ | ⟨text, rfl⟩
      · rw [if_pos rfl] at read
        exact .inl ⟨text, read.symm⟩
      · rw [if_neg Bool.false_ne_true] at read
        exact .inr ⟨text, read.symm⟩

/-- A number with a minus sign in it begins with one, and is not positive. -/
theorem atoi_of_minus {text : List Char} {n : Int} (minus : '-' ∈ text) (value : atoi text = some n) :
    (∃ rest, text = '-' :: rest) ∧ n ≤ 0 := by
  obtain ⟨digits, all, ⟨rfl, rfl⟩ | ⟨rfl | rfl, -⟩⟩ := atoi_some value
  · exact ⟨⟨digits, rfl⟩, by omega⟩
  · have inside : '-' ∈ digits := (List.mem_cons.mp minus).resolve_left (by decide)
    exact absurd (List.all_eq_true.mp all '-' inside) (by decide)
  · exact absurd (List.all_eq_true.mp all '-' minus) (by decide)

/-! ## Items -/

def span (a b : Int) : List Int := (List.range (b - a + 1).toNat).map fun i : Nat => a + i

theorem mem_span {a b v : Int} : v ∈ span a b ↔ a ≤ v ∧ v ≤ b := by
  unfold span
  rw [List.mem_map]
  constructor
  · rintro ⟨i, inside, rfl⟩
    rw [List.mem_range] at inside
    omega
  · rintro ⟨low, high⟩
    exact ⟨(v - a).toNat, List.mem_range.mpr (by omega), by omega⟩

theorem span_self (n : Int) : span n n = [n] := by
  have one : (n - n + 1).toNat = 1 := by omega
  rw [span, one]
  simp

variable {lo hi : Int}

theorem dropWhile_dash {part : List Char} (none : '-' ∉ part) : part.dropWhile (· ≠ '-') = [] := by
  rw [List.dropWhile_eq_nil_iff]
  intro c member
  exact decide_eq_true fun same => none (same ▸ member)

theorem cut_at_dash {start ending : List Char} (none : '-' ∉ start) :
    (start ++ '-' :: ending).takeWhile (· ≠ '-') = start ∧
      (start ++ '-' :: ending).dropWhile (· ≠ '-') = '-' :: ending := by
  have apart : ∀ c ∈ start, decide (c ≠ '-') = true := fun c member =>
    decide_eq_true fun same => none (same ▸ member)
  constructor
  · rw [List.takeWhile_append_of_pos apart, List.takeWhile_cons_of_neg (by decide), List.append_nil]
  · rw [List.dropWhile_append_of_pos apart, List.dropWhile_cons_of_neg (by decide)]

theorem cut_inj {start ending start' ending' : List Char} (none : '-' ∉ start) (none' : '-' ∉ start')
    (same : start ++ '-' :: ending = start' ++ '-' :: ending') : start = start' ∧ ending = ending' := by
  have first := @cut_at_dash start ending none
  have second := @cut_at_dash start' ending' none'
  rw [same] at first
  exact ⟨first.1.symm.trans second.1, (List.cons.inj (first.2.symm.trans second.2)).2⟩

theorem cronPart_range {start ending : List Char} (none : '-' ∉ start) {values : List Int} :
    cronPart lo hi (start ++ '-' :: ending) = .ok values ↔
      ∃ a b, atoi start = some a ∧ atoi ending = some b ∧ ¬ (a < lo ∨ hi < b ∨ b < a) ∧
        values = span a b := by
  unfold cronPart
  rw [(cut_at_dash none).2]
  dsimp only
  rw [(cut_at_dash none).1]
  cases first : atoi start with
  | none =>
    refine ⟨nofun, ?_⟩
    rintro ⟨a, b, is, -⟩
    cases is
  | some a =>
    cases last : atoi ending with
    | none =>
      refine ⟨nofun, ?_⟩
      rintro ⟨a, b, -, is, -⟩
      cases is
    | some b =>
      dsimp only
      by_cases outside : a < lo ∨ hi < b ∨ b < a
      · rw [if_pos outside]
        refine ⟨nofun, ?_⟩
        rintro ⟨a, b, ⟨⟩, ⟨⟩, inside, -⟩
        exact absurd outside inside
      · rw [if_neg outside]
        constructor
        · intro taken
          exact ⟨a, b, rfl, rfl, outside, (Except.ok.inj taken).symm⟩
        · rintro ⟨a, b, ⟨⟩, ⟨⟩, -, rfl⟩
          rfl

theorem cronPart_number {part : List Char} (none : '-' ∉ part) {values : List Int} :
    cronPart lo hi part = .ok values ↔ ∃ n, atoi part = some n ∧ ¬ (n < lo ∨ hi < n) ∧ values = [n] := by
  unfold cronPart
  rw [dropWhile_dash none]
  dsimp only
  cases value : atoi part with
  | none =>
    refine ⟨nofun, ?_⟩
    rintro ⟨n, is, -⟩
    cases is
  | some n =>
    dsimp only
    by_cases outside : n < lo ∨ hi < n
    · rw [if_pos outside]
      refine ⟨nofun, ?_⟩
      rintro ⟨n, ⟨⟩, inside, -⟩
      exact absurd outside inside
    · rw [if_neg outside]
      constructor
      · intro taken
        exact ⟨n, rfl, outside, (Except.ok.inj taken).symm⟩
      · rintro ⟨n, ⟨⟩, -, rfl⟩
        rfl

/-- **An item is taken for what it covers.** -/
theorem cronPart_iff (nonneg : 0 ≤ lo) {part : List Char} {values : List Int} :
    cronPart lo hi part = .ok values ↔ ∃ a b, Item lo hi part a b ∧ values = span a b := by
  by_cases dash : '-' ∈ part
  · obtain ⟨start, ending, rfl, none⟩ := List.eq_append_cons_of_mem dash
    rw [cronPart_range none]
    constructor
    · rintro ⟨a, b, first, last, inside, rfl⟩
      refine ⟨a, b, ?_, rfl⟩
      by_cases minus : '-' ∈ ending
      -- behind the first dash a minus sign leaves only the zero
      · obtain ⟨⟨rest, rfl⟩, nonpos⟩ := atoi_of_minus minus last
        obtain rfl : b = 0 := by omega
        exact .minusZero ⟨none, first⟩ last (by omega) (by omega) (by omega)
      · exact .range ⟨none, first⟩ ⟨minus, last⟩ (by omega) (by omega) (by omega)
    · rintro ⟨a, b, item, rfl⟩
      generalize text : start ++ '-' :: ending = part at item dash
      cases item with
      | number is low high => exact absurd dash is.1
      | range first last low order high =>
        obtain ⟨rfl, rfl⟩ := cut_inj none first.1 text
        exact ⟨a, b, first.2, last.2, by omega, rfl⟩
      | minusZero first last low order high =>
        obtain ⟨rfl, rfl⟩ := cut_inj none first.1 text
        exact ⟨a, 0, first.2, last, by omega, rfl⟩
  · rw [cronPart_number dash]
    constructor
    · rintro ⟨n, value, inside, rfl⟩
      exact ⟨n, n, .number ⟨dash, value⟩ (by omega) (by omega), (span_self n).symm⟩
    · rintro ⟨a, b, item, rfl⟩
      cases item with
      | number is low high => exact ⟨a, is.2, by omega, span_self a⟩
      | range => exact absurd (List.mem_append_right _ List.mem_cons_self) dash
      | minusZero => exact absurd (List.mem_append_right _ List.mem_cons_self) dash

/-! ## Fields -/

theorem cronParts_iff (nonneg : 0 ≤ lo) {parts : List (List Char)} {values : List Int} :
    cronParts lo hi parts = .ok values →
      (∀ part ∈ parts, ∃ a b, Item lo hi part a b) ∧
        ∀ v, v ∈ values ↔ ∃ part ∈ parts, ∃ a b, Item lo hi part a b ∧ a ≤ v ∧ v ≤ b := by
  induction parts generalizing values with
  | nil =>
    rintro ⟨⟩
    exact ⟨nofun, fun v => ⟨nofun, fun ⟨_, absent, _⟩ => nomatch absent⟩⟩
  | cons part parts ih =>
    intro taken
    unfold cronParts at taken
    cases first : cronPart lo hi part with
    | error e => rw [first] at taken; cases taken
    | ok here =>
      cases later : cronParts lo hi parts with
      | error e => rw [first, later] at taken; cases taken
      | ok others =>
        rw [first, later] at taken
        cases taken
        obtain ⟨a, b, item, rfl⟩ := (cronPart_iff nonneg).mp first
        obtain ⟨rest, covered⟩ := ih later
        refine ⟨List.forall_mem_cons.mpr ⟨⟨a, b, item⟩, rest⟩, fun v => ?_⟩
        rw [List.mem_append, mem_span, covered, List.exists_mem_cons_iff]
        refine or_congr_left ⟨fun inside => ⟨a, b, item, inside⟩, ?_⟩
        rintro ⟨a', b', same, inside⟩
        -- what an item covers is what the parser made of it
        have spans := ((cronPart_iff nonneg).mpr ⟨a', b', same, rfl⟩).symm.trans first
        rw [← mem_span, ← Except.ok.inj spans, mem_span]
        exact inside

theorem cronParts_ok (nonneg : 0 ≤ lo) {parts : List (List Char)}
    (all : ∀ part ∈ parts, ∃ a b, Item lo hi part a b) : ∃ values, cronParts lo hi parts = .ok values := by
  induction parts with
  | nil => exact ⟨[], rfl⟩
  | cons part parts ih =>
    obtain ⟨⟨a, b, item⟩, rest⟩ := List.forall_mem_cons.mp all
    obtain ⟨others, later⟩ := ih rest
    refine ⟨span a b ++ others, ?_⟩
    unfold cronParts
    rw [(cronPart_iff nonneg).mpr ⟨a, b, item, rfl⟩, later]
    rfl

theorem Item.order {part : List Char} {a b : Int} (item : Item lo hi part a b) : a ≤ b := by
  cases item with
  | number => exact Int.le_refl _
  | range _ _ _ order _ => exact order
  | minusZero _ _ _ order _ => exact order

theorem star_not_list : ¬ IsList lo hi ['*'] := by
  intro list
  have items : itemsOf ['*'] = [['*']] := by decide
  obtain ⟨a, b, item⟩ := list ['*'] (items ▸ List.mem_cons_self)
  generalize text : ['*'] = part at item
  have dash : '-' ∉ part := text ▸ by decide
  cases item with
  | number is =>
    have unread : atoi ['*'] = none := by decide
    exact Option.some_ne_none a (is.2.symm.trans (text ▸ unread))
  | range => exact dash (List.mem_append_right _ List.mem_cons_self)
  | minusZero => exact dash (List.mem_append_right _ List.mem_cons_self)

/-- What the parser makes of a list of items. -/
theorem parseCronField_list (nonneg : 0 ≤ lo) {field : List Char} (list : IsList lo hi field) :
    ∃ values, parseCronField field lo hi = .ok (some values) ∧ values ≠ [] ∧ values.Nodup ∧
      ∀ v, v ∈ values ↔ Covers lo hi field v := by
  obtain ⟨values, taken⟩ := cronParts_ok nonneg list
  have covered := (cronParts_iff nonneg taken).2
  have some : values ≠ [] := by
    obtain ⟨item, member⟩ := List.exists_mem_of_ne_nil (itemsOf field) (List.splitOnP_ne_nil _ field)
    obtain ⟨a, b, is⟩ := list item member
    exact List.ne_nil_of_mem ((covered a).mpr ⟨item, member, a, b, is, Int.le_refl a, is.order⟩)
  refine ⟨values.dedup, ?_, ?_, List.nodup_dedup values, fun v => List.mem_dedup.trans (covered v)⟩
  · unfold parseCronField
    rw [if_neg fun star => star_not_list (star ▸ list)]
    unfold itemsOf at taken
    simp only [taken, bind, Except.bind, pure, Except.pure]
    rw [if_neg some]
  · obtain ⟨v, member⟩ := List.exists_mem_of_ne_nil values some
    exact List.ne_nil_of_mem (List.mem_dedup.mpr member)

theorem parseCronField_other (nonneg : 0 ≤ lo) {field : List Char} (other : field ≠ ['*'])
    (list : ¬ IsList lo hi field) {result : Option (List Int)} : parseCronField field lo hi ≠ .ok result := by
  intro parsed
  unfold parseCronField at parsed
  rw [if_neg other] at parsed
  cases taken : cronParts lo hi (field.splitOnP (· == ',')) with
  | error e => simp [taken, bind, Except.bind] at parsed
  | ok values => exact list (cronParts_iff nonneg taken).1

theorem fieldBounds_nonneg {bounds : Int × Int} (known : bounds ∈ fieldBounds) : 0 ≤ bounds.1 := by
  revert bounds
  decide

/-- **The fields that are taken are the star and the lists of items, and they mean what they
cover.** -/
theorem parseCronField_iff {lo hi : Int} (known : (lo, hi) ∈ fieldBounds) (field : List Char) :
    ((∃ result, parseCronField field lo hi = .ok result) ↔ field = ['*'] ∨ IsList lo hi field) ∧
      ∀ result, parseCronField field lo hi = .ok result →
        (result = none ↔ field = ['*']) ∧
        (∀ values, result = some values →
          values ≠ [] ∧ values.Nodup ∧ ∀ v, v ∈ values ↔ Covers lo hi field v) ∧
        ∀ v, lo ≤ v → v ≤ hi →
          (cronFieldMatches result v = true ↔ field = ['*'] ∨ Covers lo hi field v) := by
  have nonneg : 0 ≤ lo := fieldBounds_nonneg known
  by_cases star : field = ['*']
  · subst star
    refine ⟨⟨fun _ => .inl rfl, fun _ => ⟨none, rfl⟩⟩, ?_⟩
    rintro result ⟨⟩
    exact ⟨⟨fun _ => rfl, fun _ => rfl⟩, nofun, fun v low high => ⟨fun _ => .inl rfl, fun _ => rfl⟩⟩
  · by_cases list : IsList lo hi field
    · obtain ⟨values, parsed, nonempty, nodup, covered⟩ := parseCronField_list nonneg list
      refine ⟨⟨fun _ => .inr list, fun _ => ⟨some values, parsed⟩⟩, ?_⟩
      rintro result again
      obtain rfl : some values = result := Except.ok.inj (parsed.symm.trans again)
      refine ⟨⟨nofun, fun same => absurd same star⟩, ?_, fun v low high => ?_⟩
      · rintro _ ⟨⟩
        exact ⟨nonempty, nodup, covered⟩
      · rw [or_iff_right star, ← covered]
        exact List.contains_iff_mem
    · refine ⟨⟨fun ⟨result, parsed⟩ => ?_, fun either => ?_⟩, fun result parsed => ?_⟩
      · exact absurd parsed (parseCronField_other nonneg star list)
      · exact absurd either (not_or.mpr ⟨star, list⟩)
      · exact absurd parsed (parseCronField_other nonneg star list)

/-- A minute is a list of one item. -/
theorem parseCronField_minute : (0, 59) ∈ fieldBounds ∧ IsList 0 59 ['7'] :=
  ⟨by decide, ((parseCronField_iff (by decide) ['7']).1.mp ⟨some [7], by decide⟩).resolve_left (by decide)⟩

/-- A range may end with a zero that has a minus sign, though it is not a range of two numbers
without one. -/
theorem range_to_minus_zero :
    (0, 59) ∈ fieldBounds ∧ parseCronField ['0', '-', '-', '0'] 0 59 = .ok (some [0]) ∧
      itemsOf ['0', '-', '-', '0'] = [['0', '-', '-', '0']] ∧
      (∀ n, ¬ IsNumber ['0', '-', '-', '0'] n) ∧
      ∀ start ending a b, ['0', '-', '-', '0'] = start ++ '-' :: ending → IsNumber start a →
        ¬ IsNumber ending b := by
  refine ⟨by decide, by decide, by decide, fun n is => is.1 (by decide), ?_⟩
  intro start ending a b text first last
  have cut : ['0'] ++ '-' :: ['-', '0'] = start ++ '-' :: ending := text
  obtain ⟨-, rfl⟩ := cut_inj (by decide) first.1 cut
  exact last.1 List.mem_cons_self

end Nixway.Database
