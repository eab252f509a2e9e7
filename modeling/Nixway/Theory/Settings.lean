/-
# Theory.Settings -- files of settings in sections

A line is the header of a section or a `key = value`; the blanks around a header, a key and a value
do not count, and from `#` on a line is not read.

Whatever the text is, a value that is read is `Plain` (`plain_of_mem_sections`).  What is written of
plain values comes back (`sections_paragraphs`).
-/
import Mathlib.Data.List.DropRight
import Nixway.Theory.Lines

namespace Nixway.Theory.Settings

open Nixway.Theory.Lines

set_option autoImplicit false

/-- The line in front of its comment. -/
def uncommented (line : List Char) : List Char := line.takeWhile (· ≠ '#')

theorem uncommented_of_not_mem {line : List Char} (plain : '#' ∉ line) : uncommented line = line := by
  rw [uncommented, List.takeWhile_eq_self_iff]
  intro c member
  exact decide_eq_true fun same => plain (same ▸ member)

theorem mark_not_mem_uncommented (line : List Char) : '#' ∉ uncommented line := by
  intro member
  have other := List.mem_takeWhile_imp member
  simp at other

theorem mem_of_mem_uncommented {line : List Char} {c : Char} (member : c ∈ uncommented line) :
    c ∈ line :=
  (List.takeWhile_prefix _).subset member

/-- Cut off the blanks at both ends. -/
def trim (blank : Char → Bool) (cs : List Char) : List Char :=
  (cs.dropWhile blank).rdropWhile blank

section Blank

variable {blank : Char → Bool}

theorem mem_of_mem_trim {cs : List Char} {c : Char} (member : c ∈ trim blank cs) : c ∈ cs :=
  (List.dropWhile_sublist _).subset ((List.rdropWhile_prefix _ _).subset member)

theorem trim_cons_of_blank {c : Char} (skipped : blank c) (cs : List Char) :
    trim blank (c :: cs) = trim blank cs := by
  rw [trim, List.dropWhile_cons_of_pos skipped, trim]

theorem trim_trim (cs : List Char) : trim blank (trim blank cs) = trim blank cs := by
  have front : (trim blank cs).dropWhile blank = trim blank cs := by
    cases left : trim blank cs with
    | nil => rfl
    | cons c rest =>
      obtain ⟨tail, split⟩ := List.rdropWhile_prefix blank (cs.dropWhile blank)
      rw [← trim, left, List.cons_append] at split
      have stops := List.head?_dropWhile_not blank cs
      rw [← split, List.head?_cons] at stops
      exact List.dropWhile_cons_of_neg (by simpa using stops)
  rw [trim, front, trim, List.rdropWhile_idempotent]

theorem trim_of_unblank {cs : List Char} (none : ∀ c ∈ cs, blank c = false) : trim blank cs = cs := by
  have front : cs.dropWhile blank = cs := by
    cases cs with
    | nil => rfl
    | cons c cs => exact List.dropWhile_cons_of_neg (by simp [none c List.mem_cons_self])
  rw [trim, front, List.rdropWhile_eq_self_iff]
  intro some
  simp [none _ (List.getLast_mem some)]

theorem trim_concat_of_unblank {cs : List Char} {c : Char} (none : ∀ d ∈ cs, blank d = false)
    (skipped : blank c) : trim blank (cs ++ [c]) = cs := by
  cases cs with
  | nil => rw [List.nil_append, trim_cons_of_blank skipped]; rfl
  | cons d cs =>
    have unblank : ¬ blank d = true := by simp [none d List.mem_cons_self]
    have same := trim_of_unblank none
    rw [trim, List.dropWhile_cons_of_neg unblank] at same
    rw [trim, List.cons_append, List.dropWhile_cons_of_neg unblank, ← List.cons_append,
      List.rdropWhile_concat_pos _ _ _ skipped, same]

end Blank

variable {blank : Char → Bool}

/-! ## Sections -/

/-- A header with the keys and values below it. -/
structure Section where
  header : List Char
  settings : List (List Char × List Char)
deriving DecidableEq

/-- The values of a key. -/
def Section.values (s : Section) (key : List Char) : List (List Char) :=
  (s.settings.filter fun entry => entry.1 = key).map Prod.snd

/-- The value of a key that stands there once. -/
theorem Section.values_of_mem {s : Section} (distinct : (s.settings.map Prod.fst).Nodup)
    {key value : List Char} (member : (key, value) ∈ s.settings) : s.values key = [value] := by
  obtain ⟨header, settings⟩ := s
  dsimp only at distinct member
  unfold values
  dsimp only
  induction settings with
  | nil => cases member
  | cons entry rest ih =>
    obtain ⟨fresh, later⟩ := List.nodup_cons.mp distinct
    rcases List.mem_cons.mp member with rfl | inside
    · have none : rest.filter (fun e => e.1 = key) = [] := by
        rw [List.filter_eq_nil_iff]
        intro e below
        rw [decide_eq_true_eq]
        exact fun same => fresh (List.mem_map.mpr ⟨e, below, same⟩)
      have kept : ((key, value) :: rest).filter (fun e => e.1 = key) =
          (key, value) :: rest.filter fun e => e.1 = key := List.filter_cons_of_pos (decide_eq_true rfl)
      rw [kept, none]
      rfl
    · have other : ¬ decide (entry.1 = key) = true := by
        rw [decide_eq_true_eq]
        exact fun same => fresh (List.mem_map.mpr ⟨(key, value), inside, same.symm⟩)
      have skipped : (entry :: rest).filter (fun e => e.1 = key) =
          rest.filter fun e => e.1 = key := List.filter_cons_of_neg other
      rw [skipped]
      exact ih later inside

inductive Line where
  | empty
  | header (text : List Char)
  | setting (key value : List Char)

section Reading

variable (blank : Char → Bool)

/-- What a line says: a `[` in front makes it a header. -/
def lineOf (line : List Char) : Line :=
  match (uncommented line).dropWhile blank with
  | [] => .empty
  | '[' :: _ => .header (trim blank (uncommented line))
  | _ => .setting (trim blank ((uncommented line).takeWhile (· ≠ '=')))
      (trim blank (((uncommented line).dropWhile (· ≠ '=')).drop 1))

/-- The settings before the first header, and the sections. -/
def gather : List Line → List (List Char × List Char) × List Section
  | [] => ([], [])
  | .empty :: rest => gather rest
  | .header text :: rest => ([], ⟨text, (gather rest).1⟩ :: (gather rest).2)
  | .setting key value :: rest => ((key, value) :: (gather rest).1, (gather rest).2)

/-- The sections of a text. -/
def sections (text : List Char) : List Section := (gather ((lines text).map (lineOf blank))).2

/-- A value that stands as it is behind its key. -/
structure Plain (value : List Char) : Prop where
  whole : '\n' ∉ value
  uncommented : '#' ∉ value
  trimmed : trim blank value = value

/-- A key: no blank, and none of the marks. -/
structure Key (key : List Char) : Prop where
  nonempty : key ≠ []
  unblank : ∀ c ∈ key, blank c = false
  unmarked : ∀ c ∈ key, c ∉ ['[', '=', '#', '\n']

structure Header (header : List Char) : Prop where
  plain : Plain blank header
  bracketed : ∃ rest, header = '[' :: rest

structure Section.Plain (s : Section) : Prop where
  header : Header blank s.header
  keys : ∀ entry ∈ s.settings, Key blank entry.1
  values : ∀ entry ∈ s.settings, Settings.Plain blank entry.2

end Reading

instance (value : List Char) : Decidable (Plain blank value) :=
  decidable_of_iff ('\n' ∉ value ∧ '#' ∉ value ∧ trim blank value = value)
    ⟨fun ⟨whole, uncommented, trimmed⟩ => ⟨whole, uncommented, trimmed⟩,
      fun ⟨whole, uncommented, trimmed⟩ => ⟨whole, uncommented, trimmed⟩⟩

instance (key : List Char) : Decidable (Key blank key) :=
  have _unblank : Decidable (∀ c ∈ key, blank c = false) := List.decidableBAll _ key
  have _unmarked : Decidable (∀ c ∈ key, c ∉ ['[', '=', '#', '\n']) := List.decidableBAll _ key
  decidable_of_iff (key ≠ [] ∧ (∀ c ∈ key, blank c = false) ∧ ∀ c ∈ key, c ∉ ['[', '=', '#', '\n'])
    ⟨fun ⟨nonempty, unblank, unmarked⟩ => ⟨nonempty, unblank, unmarked⟩,
      fun ⟨nonempty, unblank, unmarked⟩ => ⟨nonempty, unblank, unmarked⟩⟩

theorem plain_of_unblank {value : List Char} (whole : '\n' ∉ value) (uncommented : '#' ∉ value)
    (unblank : ∀ c ∈ value, blank c = false) : Plain blank value :=
  ⟨whole, uncommented, trim_of_unblank unblank⟩

/-! ### What is read -/

theorem plain_of_lineOf {line key value : List Char} (whole : '\n' ∉ line)
    (reads : lineOf blank line = .setting key value) : Plain blank value := by
  have value_eq : value = trim blank (((uncommented line).dropWhile (· ≠ '=')).drop 1) := by
    unfold lineOf at reads
    split at reads
    · cases reads
    · cases reads
    · exact (Line.setting.inj reads).2.symm
  have inside : ∀ c ∈ value, c ∈ uncommented line := by
    intro c member
    rw [value_eq] at member
    exact (List.dropWhile_sublist _).subset (List.mem_of_mem_drop (mem_of_mem_trim member))
  refine ⟨fun member => whole (mem_of_mem_uncommented (inside _ member)),
    fun member => mark_not_mem_uncommented line (inside _ member), ?_⟩
  rw [value_eq, trim_trim]

theorem setting_of_gather {ls : List Line} {entry : List Char × List Char}
    (member : entry ∈ (gather ls).1 ∨ ∃ s ∈ (gather ls).2, entry ∈ s.settings) :
    .setting entry.1 entry.2 ∈ ls := by
  induction ls with
  | nil => simp [gather] at member
  | cons line rest ih =>
    cases line with
    | empty => exact List.mem_cons_of_mem _ (ih member)
    | header text =>
      refine List.mem_cons_of_mem _ (ih ?_)
      rcases member with none | ⟨s, inside, own⟩
      · exact absurd none List.not_mem_nil
      · rcases List.mem_cons.mp inside with rfl | later
        · exact .inl own
        · exact .inr ⟨s, later, own⟩
    | setting key value =>
      rcases member with front | inside
      · rcases List.mem_cons.mp front with rfl | later
        · exact List.mem_cons_self
        · exact List.mem_cons_of_mem _ (ih (.inl later))
      · exact List.mem_cons_of_mem _ (ih (.inr inside))

/-- **What is read as a value is plain.** -/
theorem plain_of_mem_sections {text : List Char} {s : Section} (member : s ∈ sections blank text)
    {key value : List Char} (found : value ∈ s.values key) : Plain blank value := by
  obtain ⟨entry, kept, rfl⟩ := List.mem_map.mp found
  obtain ⟨line, inside, reads⟩ := List.mem_map.mp
    (setting_of_gather (.inr ⟨s, member, (List.mem_filter.mp kept).1⟩))
  exact plain_of_lineOf (newline_not_mem_lines line inside) reads

/-! ### What is written -/

def settingLine (entry : List Char × List Char) : List Char := entry.1 ++ ' ' :: '=' :: ' ' :: entry.2

def Section.lines (s : Section) : List (List Char) := s.header :: s.settings.map settingLine

theorem lineOf_header {header : List Char} (is : Header blank header) (mark : blank '[' = false) :
    lineOf blank header = .header header := by
  obtain ⟨rest, rfl⟩ := is.bracketed
  have stays : ('[' :: rest).dropWhile blank = '[' :: rest :=
    List.dropWhile_cons_of_neg (by simp [mark])
  unfold lineOf
  rw [uncommented_of_not_mem is.plain.uncommented, stays]
  exact congrArg Line.header is.plain.trimmed

theorem lineOf_settingLine {entry : List Char × List Char} (key : Key blank entry.1)
    (value : Plain blank entry.2) (space : blank ' ') :
    lineOf blank (settingLine entry) = .setting entry.1 entry.2 := by
  obtain ⟨k, v⟩ := entry
  dsimp only at key value
  have unmarked : '#' ∉ settingLine (k, v) := by
    simp only [settingLine, List.mem_append, List.mem_cons, not_or]
    exact ⟨fun inside => key.unmarked '#' inside (by decide), by decide, by decide, by decide,
      value.uncommented⟩
  have apart : ∀ c ∈ k ++ [' '], decide (c ≠ '=') = true := by
    intro c member
    rcases List.mem_append.mp member with inside | last
    · exact decide_eq_true fun same => key.unmarked c inside (by simp [same])
    · rw [List.mem_singleton.mp last]
      decide
  have text : settingLine (k, v) = (k ++ [' ']) ++ '=' :: ' ' :: v := by simp [settingLine]
  have front : (settingLine (k, v)).takeWhile (· ≠ '=') = k ++ [' '] := by
    rw [text, List.takeWhile_append_of_pos apart, List.takeWhile_cons_of_neg (by decide),
      List.append_nil]
  have back : (settingLine (k, v)).dropWhile (· ≠ '=') = '=' :: ' ' :: v := by
    rw [text, List.dropWhile_append_of_pos apart, List.dropWhile_cons_of_neg (by decide)]
  unfold lineOf
  rw [uncommented_of_not_mem unmarked, front, back, trim_concat_of_unblank key.unblank space,
    List.drop_one, List.tail_cons, trim_cons_of_blank space, value.trimmed]
  cases chars : k with
  | nil => exact absurd chars key.nonempty
  | cons c rest =>
    have unblank : ¬ blank c = true := by
      simp [key.unblank c (chars ▸ List.mem_cons_self)]
    have other : c ≠ '[' := fun same => key.unmarked c (chars ▸ List.mem_cons_self) (by simp [same])
    have stays : (settingLine (c :: rest, v)).dropWhile blank = settingLine (c :: rest, v) :=
      List.dropWhile_cons_of_neg unblank
    rw [stays]
    unfold settingLine
    rw [List.cons_append]
    split
    · next none => cases none
    · next same => exact absurd (List.cons.inj same).1 other
    · rfl

theorem Section.Plain.whole {s : Section} (plain : s.Plain blank) : ∀ line ∈ s.lines, '\n' ∉ line := by
  intro line member
  rcases List.mem_cons.mp member with rfl | below
  · exact plain.header.plain.whole
  · obtain ⟨entry, inside, rfl⟩ := List.mem_map.mp below
    simp only [settingLine, List.mem_append, List.mem_cons, not_or]
    exact ⟨fun here => (plain.keys entry inside).unmarked '\n' here (by decide), by decide, by decide,
      by decide, (plain.values entry inside).whole⟩

section Written

variable (space : blank ' ') (mark : blank '[' = false)

include space mark

theorem gather_section {s : Section} (plain : s.Plain blank) (ls : List Line) :
    gather (s.lines.map (lineOf blank) ++ ls) =
      ([], ⟨s.header, s.settings ++ (gather ls).1⟩ :: (gather ls).2) := by
  obtain ⟨header, settings⟩ := s
  have below : ∀ entries : List (List Char × List Char), (∀ e ∈ entries, e ∈ settings) →
      gather ((entries.map settingLine).map (lineOf blank) ++ ls) =
        (entries ++ (gather ls).1, (gather ls).2) := by
    intro entries inside
    induction entries with
    | nil => rfl
    | cons e entries ih =>
      have own := inside e List.mem_cons_self
      rw [List.map_cons, List.map_cons, List.cons_append,
        lineOf_settingLine (plain.keys e own) (plain.values e own) space, gather,
        ih fun d member => inside d (List.mem_cons_of_mem e member), List.cons_append]
  rw [Section.lines, List.map_cons, List.cons_append, lineOf_header plain.header mark, gather,
    below settings fun _ member => member]

/-- **Sections with a blank line between them are read back.** -/
theorem sections_paragraphs {first : Section} {rest : List Section}
    (plain : ∀ s ∈ first :: rest, s.Plain blank) :
    sections blank (unlines (first.lines ++ rest.flatMap fun s => [] :: s.lines)) = first :: rest := by
  have cut : lines (unlines (first.lines ++ rest.flatMap fun s => [] :: s.lines)) =
      first.lines ++ rest.flatMap fun s => [] :: s.lines := by
    refine lines_unlines fun line member => ?_
    rcases List.mem_append.mp member with front | later
    · exact (plain first List.mem_cons_self).whole line front
    · obtain ⟨s, inside, own⟩ := List.mem_flatMap.mp later
      rcases List.mem_cons.mp own with rfl | own
      · exact List.not_mem_nil
      · exact (plain s (List.mem_cons_of_mem first inside)).whole line own
  have later : gather ((rest.flatMap fun s => [] :: s.lines).map (lineOf blank)) = ([], rest) := by
    clear cut
    induction rest with
    | nil => rfl
    | cons s rest ih =>
      have skipped : lineOf blank [] = .empty := rfl
      have tail := ih fun t member => plain t (by
        rcases List.mem_cons.mp member with rfl | inside
        · exact List.mem_cons_self
        · exact List.mem_cons_of_mem _ (List.mem_cons_of_mem s inside))
      rw [List.flatMap_cons, List.map_append, List.map_cons, List.cons_append, skipped, gather,
        gather_section space mark (plain s (List.mem_cons_of_mem first List.mem_cons_self)), tail,
        List.append_nil]
  rw [sections, cut, List.map_append, gather_section space mark (plain first List.mem_cons_self),
    later, List.append_nil]

end Written

end Nixway.Theory.Settings
