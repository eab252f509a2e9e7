/-
# Theory.Quoted -- the double-quoted scalars of YAML

A double-quoted scalar of YAML 1.2 is scanned a character at a time (`scan`): escapes are decoded,
breaks are folded, blanks around them are lost.  How far the lines of a scalar are indented is not
looked at.

What a scan gives back is what stood there exactly when no character of it means anything else
(`scan_exact`, `scan_clean`).  The first direction counts: no step gives out more than it takes
(`feed_more`), an escape and a break with blanks around it give out less, and a break that does not
gives out another character.
-/
import Mathlib.Algebra.Order.Ring.Int
import Mathlib.Data.List.TakeWhile

namespace Nixway.Theory.Yaml

set_option autoImplicit false

/-! ## Characters -/

def isBreak (c : Char) : Bool := c = '\n' || c = '\r'

def isBlank (c : Char) : Bool := c = ' ' || c = '\t'

/-- `nb-json` without the blanks, the quote and the backslash. -/
def isOrdinary (c : Char) : Bool := ' ' < c && c ≠ '"' && c ≠ '\\'

/-- What a double-quoted scalar may hold as it is. -/
def isClean (c : Char) : Bool := isBlank c || isOrdinary c

def hexDigit (c : Char) : Option Nat :=
  if '0' ≤ c ∧ c ≤ '9' then some (c.toNat - 48)
  else if 'a' ≤ c ∧ c ≤ 'f' then some (c.toNat - 87)
  else if 'A' ≤ c ∧ c ≤ 'F' then some (c.toNat - 55)
  else none

def escaped : Char → Option Char
  | '0' => some (Char.ofNat 0x00)
  | 'a' => some (Char.ofNat 0x07)
  | 'b' => some (Char.ofNat 0x08)
  | 't' => some '\t'
  | '\t' => some '\t'
  | 'n' => some '\n'
  | 'v' => some (Char.ofNat 0x0b)
  | 'f' => some (Char.ofNat 0x0c)
  | 'r' => some '\r'
  | 'e' => some (Char.ofNat 0x1b)
  | ' ' => some ' '
  | '"' => some '"'
  | '/' => some '/'
  | '\\' => some '\\'
  | 'N' => some (Char.ofNat 0x85)
  | '_' => some (Char.ofNat 0xa0)
  | 'L' => some (Char.ofNat 0x2028)
  | 'P' => some (Char.ofNat 0x2029)
  | _ => none

/-- The number of digits of the escapes by code. -/
def codeWidth : Char → Option Nat
  | 'x' => some 2
  | 'u' => some 4
  | 'U' => some 8
  | _ => none

/-! ## A double-quoted scalar -/

/-- Where a scan stands: behind some blanks of a line; between two lines, behind a break that `glue`
replaces and some empty lines; behind a backslash; in the digits of an escape. -/
inductive Scan where
  | line (blanks : List Char)
  | between (glue : List Char) (empty : Nat) (afterCR : Bool)
  | escape
  | digits (left value : Nat)

/-- What comes before the next character that is not a blank. -/
def Scan.pending : Scan → List Char
  | .line blanks => blanks
  | .between glue empty _ => if empty = 0 then glue else List.replicate empty '\n'
  | .escape => []
  | .digits _ _ => []

inductive Feed where
  | bad
  | closed (out : List Char)
  | more (next : Scan) (out : List Char)

/-- The character behind a backslash. -/
def feedEscape (c : Char) : Feed :=
  if isBreak c then .more (.between [] 0 (c = '\r')) []
  else
    match escaped c with
    | some d => .more (.line []) [d]
    | none =>
      match codeWidth c with
      | some width => .more (.digits width 0) []
      | none => .bad

def feedDigit (left value : Nat) (c : Char) : Feed :=
  match hexDigit c with
  | none => .bad
  | some d =>
    if 1 < left then .more (.digits (left - 1) (value * 16 + d)) []
    else if (value * 16 + d).isValidChar then .more (.line []) [Char.ofNat (value * 16 + d)]
    else .bad

/-- A break, after what stands before it. -/
def Scan.broken (s : Scan) (c : Char) : Scan :=
  match s with
  | .between glue empty afterCR =>
    if afterCR ∧ c = '\n' then .between glue empty false
    else .between glue (empty + 1) (c = '\r')
  | _ => .between [' '] 0 (c = '\r')

/-- A blank: kept until it is known whether a break follows, dropped behind one. -/
def Scan.blanked (s : Scan) (c : Char) : Scan :=
  match s with
  | .line blanks => .line (blanks ++ [c])
  | .between glue empty _ => .between glue empty false
  | other => other

/-- A character outside of escapes. -/
def feedPlain (s : Scan) (c : Char) : Feed :=
  if c = '"' then .closed s.pending
  else if c = '\\' then .more .escape s.pending
  else if isBreak c then .more (s.broken c) []
  else if isBlank c then .more (s.blanked c) []
  else if isOrdinary c then .more (.line []) (s.pending ++ [c])
  else .bad

def feed (s : Scan) (c : Char) : Feed :=
  match s with
  | .escape => feedEscape c
  | .digits left value => feedDigit left value c
  | .line blanks => feedPlain (.line blanks) c
  | .between glue empty afterCR => feedPlain (.between glue empty afterCR) c

/-- The scalar up to its closing quote, and what follows that. -/
def scan : Scan → List Char → Option (List Char × List Char)
  | _, [] => none
  | s, c :: rest =>
    match feed s c with
    | .bad => none
    | .closed out => some (out, rest)
    | .more next out => (scan next rest).map fun read => (out ++ read.1, read.2)

/-- What a character does outside of escapes, by its kind. -/
inductive FeedsPlain (s : Scan) (c : Char) : Feed → Prop where
  | quote (is : c = '"') : FeedsPlain s c (.closed s.pending)
  | backslash (is : c = '\\') : FeedsPlain s c (.more .escape s.pending)
  | lineBreak (is : isBreak c) : FeedsPlain s c (.more (s.broken c) [])
  | blank (is : isBlank c) : FeedsPlain s c (.more (s.blanked c) [])
  | ordinary (is : isOrdinary c) : FeedsPlain s c (.more (.line []) (s.pending ++ [c]))
  | control (unclean : ¬ isClean c) : FeedsPlain s c .bad

theorem feedsPlain (s : Scan) (c : Char) : FeedsPlain s c (feedPlain s c) := by
  unfold feedPlain
  split
  · next is => exact .quote is
  split
  · next is => exact .backslash is
  split
  · next is => exact .lineBreak is
  split
  · next is => exact .blank is
  split
  · next is => exact .ordinary is
  · next noBlank noOrdinary => exact .control (by simp [isClean, noBlank, noOrdinary])

/-! ### What a scan makes of clean characters -/

theorem feedPlain_ordinary (s : Scan) {c : Char} (ordinary : isOrdinary c) :
    feedPlain s c = .more (.line []) (s.pending ++ [c]) := by
  have above : ' ' < c ∧ c ≠ '"' ∧ c ≠ '\\' := by
    simpa [isOrdinary, and_assoc] using ordinary
  obtain ⟨above, noQuote, noBackslash⟩ := above
  have noBreak : ¬ isBreak c := by
    intro broken
    rcases (by simpa [isBreak] using broken : c = '\n' ∨ c = '\r') with rfl | rfl
    · exact absurd above (by decide)
    · exact absurd above (by decide)
  have noBlank : ¬ isBlank c := by
    intro blank
    rcases (by simpa [isBlank] using blank : c = ' ' ∨ c = '\t') with rfl | rfl
    · exact absurd above (by decide)
    · exact absurd above (by decide)
  rw [feedPlain, if_neg noQuote, if_neg noBackslash, if_neg noBreak, if_neg noBlank,
    if_pos ordinary]

theorem feed_ordinary {blanks : List Char} {c : Char} (ordinary : isOrdinary c) :
    feed (.line blanks) c = .more (.line []) (blanks ++ [c]) :=
  feedPlain_ordinary (.line blanks) ordinary

theorem feed_blank {blanks : List Char} {c : Char} (blank : isBlank c) :
    feed (.line blanks) c = .more (.line (blanks ++ [c])) [] := by
  rcases (by simpa [isBlank] using blank : c = ' ' ∨ c = '\t') with rfl | rfl
  · rfl
  · rfl

theorem scan_clean {cs : List Char} (clean : ∀ c ∈ cs, isClean c) {m : Char} (ordinary : isOrdinary m)
    (blanks rest : List Char) :
    scan (.line blanks) (cs ++ m :: rest) =
      (scan (.line []) rest).map fun read => (blanks ++ cs ++ m :: read.1, read.2) := by
  induction cs generalizing blanks with
  | nil =>
    rw [List.nil_append, scan, feed_ordinary ordinary]
    simp
  | cons c cs ih =>
    have later : ∀ c ∈ cs, isClean c := fun d mem => clean d (List.mem_cons_of_mem c mem)
    have first := clean c List.mem_cons_self
    rw [List.cons_append, scan]
    rcases Bool.or_eq_true_iff.mp first with blank | ordinary
    · rw [feed_blank blank]
      simp [ih later, Function.comp_def]
    · rw [feed_ordinary ordinary]
      simp [ih later, Function.comp_def]

theorem scan_closed {cs : List Char} (clean : ∀ c ∈ cs, isClean c) (blanks rest : List Char) :
    scan (.line blanks) (cs ++ '"' :: rest) = some (blanks ++ cs, rest) := by
  induction cs generalizing blanks with
  | nil =>
    rw [List.append_nil]
    rfl
  | cons c cs ih =>
    have later : ∀ c ∈ cs, isClean c := fun d mem => clean d (List.mem_cons_of_mem c mem)
    have first := clean c List.mem_cons_self
    rw [List.cons_append, scan]
    rcases Bool.or_eq_true_iff.mp first with blank | ordinary
    · rw [feed_blank blank]
      simp [ih later]
    · rw [feed_ordinary ordinary]
      simp [ih later]

/-! ### What a scan makes of anything else -/

/-- A break is kept as at most one character, in the place of what it takes away. -/
theorem pending_broken (s : Scan) (c : Char) :
    (s.broken c).pending.length ≤ s.pending.length + 1 := by
  cases s with
  | between glue empty afterCR =>
    rw [Scan.broken]
    split
    · exact Nat.le_succ _
    · rw [Scan.pending, if_neg (Nat.succ_ne_zero empty), List.length_replicate, Scan.pending]
      split
      · omega
      · rw [List.length_replicate]
  | _ => exact Nat.le_add_left _ _

theorem pending_blanked (s : Scan) (c : Char) :
    (s.blanked c).pending.length ≤ s.pending.length + 1 := by
  cases s with
  | line blanks => exact (@List.length_append _ blanks [c]).le
  | _ => exact Nat.le_succ _

theorem feedPlain_more {s next : Scan} {c : Char} {out : List Char}
    (fed : feedPlain s c = .more next out) :
    out.length + next.pending.length ≤ s.pending.length + 1 := by
  have spec := feedsPlain s c
  rw [fed] at spec
  cases spec with
  | backslash is => exact Nat.le_succ _
  | lineBreak is => simpa using pending_broken s c
  | blank is => simpa using pending_blanked s c
  | ordinary is => simp [Scan.pending]

/-- An escape gives out one character, of its two or more. -/
theorem feedEscape_more {next : Scan} {c : Char} {out : List Char}
    (fed : feedEscape c = .more next out) : out.length + next.pending.length ≤ 1 := by
  unfold feedEscape at fed
  split at fed
  · cases fed
    simp [Scan.pending]
  · split at fed
    · cases fed
      simp [Scan.pending]
    · split at fed
      · cases fed
        simp [Scan.pending]
      · cases fed

theorem feedDigit_more {left value : Nat} {next : Scan} {c : Char} {out : List Char}
    (fed : feedDigit left value c = .more next out) : out.length + next.pending.length ≤ 1 := by
  unfold feedDigit at fed
  split at fed
  · cases fed
  · split at fed
    · cases fed
      simp [Scan.pending]
    · split at fed
      · cases fed
        simp [Scan.pending]
      · cases fed

/-- What a step gives out and keeps is at most one character more than what was kept. -/
theorem feed_more {s next : Scan} {c : Char} {out : List Char} (fed : feed s c = .more next out) :
    out.length + next.pending.length ≤ s.pending.length + 1 := by
  cases s with
  | line blanks => exact feedPlain_more fed
  | between glue empty afterCR => exact feedPlain_more fed
  | escape => exact feedEscape_more fed
  | digits left value => exact feedDigit_more fed

theorem feed_closed {s : Scan} {c : Char} {out : List Char} (fed : feed s c = .closed out) :
    out = s.pending := by
  have plain : ∀ {s : Scan}, feedPlain s c = .closed out → out = s.pending := by
    intro s fed
    have spec := feedsPlain s c
    rw [fed] at spec
    cases spec with
    | quote is => rfl
  cases s with
  | line blanks => exact plain fed
  | between glue empty afterCR => exact plain fed
  | escape =>
    have fed : feedEscape c = .closed out := fed
    unfold feedEscape at fed
    repeat' split at fed
    all_goals cases fed
  | digits left value =>
    have fed : feedDigit left value c = .closed out := fed
    unfold feedDigit at fed
    repeat' split at fed
    all_goals cases fed

/-- A character that only stands for itself: it begins no escape's code and is no digit. -/
structure Marker (m : Char) : Prop where
  ordinary : isOrdinary m
  escape : feedEscape m = .bad
  digit : hexDigit m = none

theorem Marker.feed {m : Char} (marker : Marker m) (s : Scan) :
    Yaml.feed s m = .bad ∨ Yaml.feed s m = .more (.line []) (s.pending ++ [m]) := by
  cases s with
  | line blanks => exact .inr (feedPlain_ordinary _ marker.ordinary)
  | between glue empty afterCR => exact .inr (feedPlain_ordinary _ marker.ordinary)
  | escape => exact .inl marker.escape
  | digits left value =>
    refine .inl ?_
    show feedDigit left value m = .bad
    rw [feedDigit, marker.digit]

section Marked

variable {m : Char} (marker : Marker m)

theorem length_takeWhile_append (p : Char → Bool) (front back : List Char) :
    ((front ++ back).takeWhile p).length ≤ front.length + (back.takeWhile p).length := by
  rw [List.takeWhile_append]
  split
  · rw [List.length_append]
  · exact Nat.le_trans (List.takeWhile_prefix p).length_le (Nat.le_add_right _ _)

include marker

/-- **A scan never puts off a marker**: it stands no later in what is read than in the text. -/
theorem scan_le {cs : List Char} (without : m ∉ cs) {s : Scan} {rest : List Char}
    {read : List Char × List Char} (scanned : scan s (cs ++ m :: rest) = some read) :
    (read.1.takeWhile (· ≠ m)).length ≤ s.pending.length + cs.length := by
  induction cs generalizing s read with
  | nil =>
    rw [List.nil_append, scan] at scanned
    rcases marker.feed s with fed | fed
    · rw [fed] at scanned
      cases scanned
    · rw [fed] at scanned
      obtain ⟨later, -, rfl⟩ := Option.map_eq_some_iff.mp scanned
      have front := length_takeWhile_append (· ≠ m) s.pending (m :: later.1)
      rw [List.takeWhile_cons_of_neg (by simp)] at front
      simpa using front
  | cons c cs ih =>
    have later : m ∉ cs := fun mem => without (List.mem_cons_of_mem c mem)
    rw [List.cons_append, scan] at scanned
    cases fed : feed s c with
    | bad =>
      rw [fed] at scanned
      cases scanned
    | closed out =>
      rw [fed] at scanned
      cases scanned
      rw [feed_closed fed]
      exact Nat.le_trans (List.takeWhile_prefix _).length_le (Nat.le_add_right _ _)
    | more next out =>
      rw [fed] at scanned
      obtain ⟨after, scannedAfter, rfl⟩ := Option.map_eq_some_iff.mp scanned
      have step := feed_more fed
      have bound := ih later scannedAfter
      have whole := length_takeWhile_append (· ≠ m) out after.1
      rw [List.length_cons]
      simp only [ne_eq, decide_not] at bound whole ⊢
      omega

/-- Behind a break stands the space it is folded to, or less than what stood there. -/
theorem scan_between {cs : List Char} (without : m ∉ cs) {afterCR : Bool} {rest : List Char}
    {read : List Char × List Char}
    (scanned : scan (.between [' '] 0 afterCR) (cs ++ m :: rest) = some read) :
    read.1.head? = some ' ' ∨ (read.1.takeWhile (· ≠ m)).length ≤ cs.length := by
  cases cs with
  | nil =>
    rw [List.nil_append, scan] at scanned
    rcases marker.feed (.between [' '] 0 afterCR) with fed | fed
    · rw [fed] at scanned
      cases scanned
    · rw [fed] at scanned
      obtain ⟨later, -, rfl⟩ := Option.map_eq_some_iff.mp scanned
      exact .inl rfl
  | cons c cs =>
    have later : m ∉ cs := fun mem => without (List.mem_cons_of_mem c mem)
    rw [List.cons_append, scan] at scanned
    have spec : FeedsPlain (.between [' '] 0 afterCR) c (feed (.between [' '] 0 afterCR) c) :=
      feedsPlain _ c
    cases fed : feed (.between [' '] 0 afterCR) c with
    | bad =>
      rw [fed] at scanned
      cases scanned
    | closed out =>
      rw [fed] at scanned
      cases scanned
      rw [feed_closed fed]
      exact .inl rfl
    | more next out =>
      rw [fed] at scanned spec
      obtain ⟨after, scannedAfter, rfl⟩ := Option.map_eq_some_iff.mp scanned
      have bound := scan_le marker later scannedAfter
      cases spec with
      | backslash is => exact .inl rfl
      | ordinary is => exact .inl rfl
      | blank is =>
        refine .inr (Nat.le_trans bound ?_)
        exact (Nat.add_comm 1 cs.length).le
      | lineBreak is =>
        refine .inr (Nat.le_trans bound ?_)
        have one : ((Scan.between [' '] 0 afterCR).broken c).pending.length = 1 := by
          rw [Scan.broken]
          split
          · rfl
          · rfl
        rw [one, Nat.add_comm]
        rfl

omit marker in
theorem takeWhile_marked {front : List Char} (free : m ∉ front) (back : List Char) :
    (front ++ m :: back).takeWhile (· ≠ m) = front := by
  rw [List.takeWhile_append_of_pos, List.takeWhile_cons_of_neg (by simp), List.append_nil]
  intro c mem
  have other : c ≠ m := fun same => free (same ▸ mem)
  simpa using other

/-- **What a scan gives back as it stood is clean.** -/
theorem scan_exact {cs : List Char} (without : m ∉ cs) {blanks rest after left : List Char}
    (free : m ∉ blanks)
    (scanned : scan (.line blanks) (cs ++ m :: rest) = some (blanks ++ cs ++ m :: after, left)) :
    (∀ c ∈ cs, isClean c) ∧ scan (.line []) rest = some (after, left) := by
  induction cs generalizing blanks with
  | nil =>
    rw [List.nil_append, scan, feed_ordinary marker.ordinary] at scanned
    obtain ⟨read, there, same⟩ := Option.map_eq_some_iff.mp scanned
    refine ⟨nofun, ?_⟩
    simp only [List.append_nil, List.append_assoc, List.singleton_append, Prod.mk.injEq,
      List.append_cancel_left_eq, List.cons.injEq, true_and] at same
    rw [there, ← same.1, ← same.2]
  | cons c cs ih =>
    have later : m ∉ cs := fun mem => without (List.mem_cons_of_mem c mem)
    have other : m ≠ c := fun same => without (same ▸ List.mem_cons_self)
    have stands : ((blanks ++ c :: cs ++ m :: after).takeWhile (· ≠ m)).length =
        blanks.length + cs.length + 1 := by
      rw [takeWhile_marked (by simp [free, other, later])]
      simp [Nat.add_assoc]
    rw [List.cons_append, scan] at scanned
    have spec : FeedsPlain (.line blanks) c (feed (.line blanks) c) := feedsPlain _ c
    cases fed : feed (.line blanks) c with
    | bad =>
      rw [fed] at scanned
      cases scanned
    | closed out =>
      -- the scalar ends in front of the character
      rw [fed, feed_closed fed] at scanned
      have short := congrArg (fun read => read.1.length) (Option.some.inj scanned)
      simp [Scan.pending] at short
    | more next out =>
      rw [fed] at scanned spec
      obtain ⟨read, there, pair⟩ := Option.map_eq_some_iff.mp scanned
      obtain ⟨same, rest⟩ := Prod.mk.inj pair
      subst rest
      have bound := scan_le marker later there
      have whole := length_takeWhile_append (· ≠ m) out read.1
      rw [same, stands] at whole
      cases spec with
      | backslash is =>
        -- two characters have become one
        simp only [Scan.pending, List.length_nil] at bound whole
        omega
      | ordinary is =>
        have same : read.1 = [] ++ cs ++ m :: after := by simpa [Scan.pending] using same
        obtain ⟨clean, left⟩ := ih later (List.not_mem_nil (a := m)) (by rw [there, ← same])
        exact ⟨List.forall_mem_cons.mpr ⟨by simp [isClean, is], clean⟩, left⟩
      | blank is =>
        have same : read.1 = (blanks ++ [c]) ++ cs ++ m :: after := by simpa using same
        obtain ⟨clean, left⟩ := ih later
          (show m ∉ blanks ++ [c] by simp [free, other]) (by rw [← same]; exact there)
        exact ⟨List.forall_mem_cons.mpr ⟨by simp [isClean, is], clean⟩, left⟩
      | lineBreak is =>
        -- the break has become a space
        rcases scan_between marker later there with space | short
        · cases blanks with
          | nil =>
            rw [List.nil_append] at same
            rw [same] at space
            cases space
            cases is
          | cons first others =>
            have kept : ((Scan.line (first :: others)).broken c).pending.length = 1 := rfl
            simp only [kept, List.length_nil, List.length_cons] at bound whole
            omega
        · simp only [List.length_nil] at whole
          omega

end Marked

end Nixway.Theory.Yaml
