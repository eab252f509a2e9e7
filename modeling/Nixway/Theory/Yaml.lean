/-
# Theory.Yaml -- reading block collections

A reader for the part of YAML 1.2 that generated configuration uses: block mappings whose keys are
words, block sequences, words, double-quoted scalars (`Theory.Quoted`) and the empty mapping.  A
text outside of it is not read.  A word is what the core schema makes of it (`Theory.CoreSchema`), a
quoted scalar is text.

The lines of a text are put together from the last to the first: a line takes the deeper items that
follow it (`attach`).  A text written line by line is read from what each line reads as
(`read_lines`), and what is read has each key once (`read_keyed`).
-/
import Mathlib.Data.List.Forall2
import Nixway.Theory.CoreSchema

namespace Nixway.Theory.Yaml

set_option autoImplicit false

/-! ## Lines -/

inductive Node where
  | scalar (value : Scalar)
  | seq (items : List Node)
  | map (entries : List (Scalar × Node))

/-- How a line begins: with a key, with the dash of a sequence, or with a scalar of its own. -/
inductive Head where
  | key (name : Scalar)
  | dash
  | item

structure Line where
  indent : Nat
  head : Head
  value : Option Node := none

def isWord (c : Char) : Bool := c.isAlphanum || c = '-' || c = '_' || c = '.' || c = '/'

def readWord : List Char → Option (Scalar × List Char)
  | [] => none
  | c :: rest =>
    if c.isAlphanum then some (core (c :: rest.takeWhile isWord), rest.dropWhile isWord)
    else none

/-- What stands behind a key, to the end of its line. -/
def readValue : List Char → Option (Node × List Char)
  | '"' :: text =>
    match scan (.line []) text with
    | some (value, '\n' :: rest) => some (.scalar (String.ofList value), rest)
    | _ => none
  | '{' :: '}' :: '\n' :: rest => some (.map [], rest)
  | text =>
    match readWord text with
    | some (word, '\n' :: rest) => some (.scalar word, rest)
    | _ => none

def readEntry (indent : Nat) (text : List Char) : Option (Line × List Char) :=
  match readWord text with
  | some (word, '\n' :: rest) => some (⟨indent, .item, some (.scalar word)⟩, rest)
  | some (word, ':' :: '\n' :: rest) => some (⟨indent, .key word, none⟩, rest)
  | some (word, ':' :: ' ' :: text) =>
    (readValue text).map fun read => (⟨indent, .key word, some read.1⟩, read.2)
  | _ => none

/-- The entry behind a dash is a line of its own, two columns in. -/
def readContent (indent : Nat) : List Char → Option (List Line × List Char)
  | '-' :: ' ' :: text =>
    (readEntry (indent + 2) text).map fun read => ([⟨indent, .dash, none⟩, read.1], read.2)
  | text => (readEntry indent text).map fun read => ([read.1], read.2)

def readLine (text : List Char) : Option (List Line × List Char) :=
  readContent (text.takeWhile (· = ' ')).length (text.dropWhile (· = ' '))

def readLines : Nat → List Char → Option (List Line)
  | _, [] => some []
  | 0, _ :: _ => none
  | fuel + 1, text =>
    (readLine text).bind fun read => (readLines fuel read.2).map (read.1 ++ ·)

/-! ## The collections -/

/-- A node with the line it begins at. -/
structure Item where
  indent : Nat
  head : Head
  node : Node

def entryOf (item : Item) : Option (Scalar × Node) :=
  match item.head with
  | .key name => some (name, item.node)
  | _ => none

def elementOf (item : Item) : Option Node :=
  match item.head with
  | .dash => some item.node
  | _ => none

/-- The collection some items of one depth make up; a key occurs once. -/
def nodeOf : List Item → Option Node
  | [] => some (.scalar .null)
  | first :: rest =>
    if rest.all fun item => item.indent = first.indent then
      match first.head with
      | .key _ =>
        ((first :: rest).mapM entryOf).bind fun entries =>
          if (entries.map Prod.fst).Nodup then some (.map entries) else none
      | .dash => ((first :: rest).mapM elementOf).map .seq
      | .item => if rest.isEmpty then some first.node else none
    else none

/-- A line in front of some items: those that are deeper belong to it. -/
def attach (line : Line) (items : List Item) : Option (List Item) :=
  let inner := items.takeWhile fun item => line.indent < item.indent
  let outer := items.dropWhile fun item => line.indent < item.indent
  match line.value with
  | some value =>
    if inner.isEmpty then some (⟨line.indent, line.head, value⟩ :: outer) else none
  | none => (nodeOf inner).map fun node => ⟨line.indent, line.head, node⟩ :: outer

def itemsOf : List Line → Option (List Item)
  | [] => some []
  | line :: rest => (itemsOf rest).bind (attach line)

/-- Each line takes at least one character of the text. -/
def read (text : String) : Option Node :=
  (readLines text.toList.length text.toList).bind fun lines => (itemsOf lines).bind nodeOf

/-! ### Reading what is written line by line -/

/-- A line of a text, and what it is read as. -/
def Reads (line : List Char) (out : List Line) : Prop :=
  ∀ rest, readLine (line ++ '\n' :: rest) = some (out, rest)

theorem readLines_cons {line : List Char} {out : List Line} (reads : Reads line out) (fuel : Nat)
    (rest : List Char) :
    readLines (fuel + 1) (line ++ '\n' :: rest) = (readLines fuel rest).map (out ++ ·) := by
  rw [readLines, reads rest]
  · rfl
  · simp

theorem readLines_first {fuel : Nat} {text : List Char} {all : List Line} (some : text ≠ [])
    (read : readLines fuel text = .some all) :
    ∃ first fuel more, readLine text = .some first ∧ readLines fuel first.2 = .some more ∧
      all = first.1 ++ more := by
  cases text with
  | nil => exact absurd rfl some
  | cons c rest =>
    cases fuel with
    | zero => cases read
    | succ fuel =>
      obtain ⟨first, found, behind⟩ := Option.bind_eq_some_iff.mp read
      obtain ⟨more, there, rfl⟩ := Option.map_eq_some_iff.mp behind
      exact ⟨first, fuel, more, found, there, rfl⟩

theorem readLines_behind {line rest : List Char} {out all : List Line} (reads : Reads line out)
    {fuel : Nat} (read : readLines fuel (line ++ '\n' :: rest) = some all) :
    ∃ fuel more, readLines fuel rest = some more ∧ all = out ++ more := by
  obtain ⟨first, fuel, more, found, behind, same⟩ := readLines_first (by simp) read
  cases (reads rest).symm.trans found
  exact ⟨fuel, more, behind, same⟩

theorem readLines_all {lines : List (List Char)} {out : List (List Line)}
    (reads : List.Forall₂ Reads lines out) {fuel : Nat} (enough : lines.length ≤ fuel) :
    readLines fuel (lines.flatMap (· ++ ['\n'])) = some out.flatten := by
  induction reads generalizing fuel with
  | nil => cases fuel <;> rfl
  | @cons line first lines out reads _ ih =>
    cases fuel with
    | zero => cases enough
    | succ fuel =>
      rw [List.flatMap_cons, List.append_assoc, List.singleton_append, readLines_cons reads,
        ih (Nat.le_of_succ_le_succ enough)]
      rfl

/-- A text is read line by line. -/
theorem read_lines {lines : List (List Char)} {out : List (List Line)}
    (reads : List.Forall₂ Reads lines out) {text : String}
    (written : text.toList = lines.flatMap (· ++ ['\n'])) :
    read text = (itemsOf out.flatten).bind nodeOf := by
  have enough : ∀ lines : List (List Char),
      lines.length ≤ (lines.flatMap (· ++ ['\n'])).length := by
    intro lines
    induction lines with
    | nil => exact Nat.le_refl 0
    | cons line rest ih =>
      rw [List.flatMap_cons, List.length_append, List.length_append, List.length_cons,
        List.length_singleton]
      omega
  rw [read, written, readLines_all reads (enough lines), Option.bind_some]

/-- A text that is read as a word. -/
structure IsWord (w : String) : Prop where
  starts : ∃ c cs, w.toList = c :: cs ∧ c.isAlphanum
  chars : ∀ c ∈ w.toList, isWord c

theorem IsWord.read {w : String} (word : IsWord w) {stop : Char} (stops : ¬ isWord stop)
    (rest : List Char) :
    readWord (w.toList ++ stop :: rest) = some (core w.toList, stop :: rest) := by
  obtain ⟨⟨c, cs, split, first⟩, chars⟩ := word
  have later : ∀ d ∈ cs, isWord d := fun d mem => chars d (split ▸ List.mem_cons_of_mem c mem)
  rw [split, List.cons_append, readWord, if_pos first, List.takeWhile_append_of_pos later,
    List.dropWhile_append_of_pos later, List.takeWhile_cons_of_neg stops,
    List.dropWhile_cons_of_neg stops, List.append_nil]

theorem readLine_indented (n : Nat) {c : Char} (other : c ≠ ' ') (rest : List Char) :
    readLine (List.replicate n ' ' ++ c :: rest) = readContent n (c :: rest) := by
  have blanks : ∀ d ∈ List.replicate n ' ', (decide (d = ' ')) = true := by
    intro d mem
    simp [List.eq_of_mem_replicate mem]
  unfold readLine
  rw [List.takeWhile_append_of_pos blanks, List.dropWhile_append_of_pos blanks,
    List.takeWhile_cons_of_neg (by simpa using other),
    List.dropWhile_cons_of_neg (by simpa using other), List.append_nil, List.length_replicate]

/-- An entry of a line, without what it is indented by. -/
def ReadsEntry (n : Nat) (text : List Char) (line : Line) : Prop :=
  ∀ rest, readEntry n (text ++ '\n' :: rest) = some (line, rest)

theorem readEntry_starts {n : Nat} {text : List Char} {read : Line × List Char}
    (entry : readEntry n text = some read) : ∃ c cs, text = c :: cs ∧ c.isAlphanum := by
  cases text with
  | nil => cases entry
  | cons c cs =>
    refine ⟨c, cs, rfl, ?_⟩
    by_cases first : c.isAlphanum
    · exact first
    · rw [readEntry, readWord, if_neg first] at entry
      cases entry

theorem ReadsEntry.reads {n : Nat} {text : List Char} {line : Line} (entry : ReadsEntry n text line) :
    Reads (List.replicate n ' ' ++ text) [line] := by
  intro rest
  have read := entry rest
  obtain ⟨c, cs, split, first⟩ := readEntry_starts read
  have noSpace : c ≠ ' ' := fun same => by simp [same] at first
  have noDash : c ≠ '-' := fun same => by simp [same] at first
  rw [List.append_assoc, split, readLine_indented n noSpace, readContent, ← split, read]
  · rfl
  · intro text same
    exact noDash (List.cons.inj same).1

theorem ReadsEntry.reads_dash {n : Nat} {text : List Char} {line : Line}
    (entry : ReadsEntry (n + 2) text line) :
    Reads (List.replicate n ' ' ++ ('-' :: ' ' :: text)) [⟨n, .dash, none⟩, line] := by
  intro rest
  rw [List.append_assoc, List.cons_append, readLine_indented n (by decide), List.cons_append,
    readContent, entry rest]
  rfl

theorem IsWord.reads_key {w : String} (word : IsWord w) (n : Nat) :
    ReadsEntry n (w.toList ++ [':']) ⟨n, .key (core w.toList), none⟩ := by
  intro rest
  rw [List.append_assoc, readEntry, List.singleton_append, word.read (by decide)]
  rfl

theorem IsWord.reads_value {w : String} (word : IsWord w) (n : Nat) {text : List Char} {node : Node}
    (value : ∀ rest, readValue (text ++ '\n' :: rest) = some (node, rest)) :
    ReadsEntry n (w.toList ++ ':' :: ' ' :: text) ⟨n, .key (core w.toList), some node⟩ := by
  intro rest
  rw [List.append_assoc, List.cons_append, readEntry, word.read (by decide)]
  show (readValue (text ++ '\n' :: rest)).map _ = _
  rw [value]
  rfl

theorem IsWord.value {w : String} (word : IsWord w) (rest : List Char) :
    readValue (w.toList ++ '\n' :: rest) = some (.scalar (core w.toList), rest) := by
  have read := word.read (show ¬ isWord '\n' by decide) rest
  obtain ⟨⟨c, cs, split, first⟩, -⟩ := word
  have noQuote : c ≠ '"' := fun same => by simp [same] at first
  have noBrace : c ≠ '{' := fun same => by simp [same] at first
  rw [split, List.cons_append] at read ⊢
  rw [readValue]
  · rw [read]
    rfl
  · intro text same
    exact noQuote (List.cons.inj same).1
  · intro text same
    exact noBrace (List.cons.inj same).1

/-- A word that stands for its own text. -/
structure IsName (w : String) : Prop extends IsWord w where
  text : IsText w

theorem IsName.reads_key {w : String} (name : IsName w) (n : Nat) :
    ReadsEntry n (w.toList ++ [':']) ⟨n, .key w, none⟩ := by
  have reads := name.toIsWord.reads_key n
  rwa [name.text] at reads

theorem IsName.reads_value {w : String} (name : IsName w) (n : Nat) {text : List Char} {node : Node}
    (value : ∀ rest, readValue (text ++ '\n' :: rest) = some (node, rest)) :
    ReadsEntry n (w.toList ++ ':' :: ' ' :: text) ⟨n, .key w, some node⟩ := by
  have reads := name.toIsWord.reads_value n value
  rwa [name.text] at reads

theorem IsName.value {w : String} (name : IsName w) (rest : List Char) :
    readValue (w.toList ++ '\n' :: rest) = some (.scalar w, rest) := by
  rw [name.toIsWord.value, name.text]

/-- A quoted text of clean characters. -/
theorem readValue_quoted {text : String} (clean : ∀ c ∈ text.toList, isClean c) (rest : List Char) :
    readValue (('"' :: (text.toList ++ ['"'])) ++ '\n' :: rest) = some (.scalar text, rest) := by
  rw [List.cons_append, List.append_assoc, readValue]
  rw [show ['"'] ++ '\n' :: rest = '"' :: '\n' :: rest from rfl, scan_closed clean]
  simp

/-! ### Putting lines together -/

section Stop

variable {α : Type} {p : α → Bool} {front back : List α}

theorem takeWhile_append_of_stop (stop : back.takeWhile p = []) :
    (front ++ back).takeWhile p = front.takeWhile p := by
  rw [List.takeWhile_append, stop, List.append_nil]
  split
  · next full => exact ((List.takeWhile_prefix p).eq_of_length full).symm
  · rfl

theorem dropWhile_append_of_stop (stop : back.dropWhile p = back) :
    (front ++ back).dropWhile p = front.dropWhile p ++ back := by
  rw [List.dropWhile_append]
  split
  · next none => rw [stop, List.isEmpty_iff.mp none, List.nil_append]
  · rfl

end Stop

theorem attach_append {line : Line} {items outer : List Item}
    (shallow : ∀ item ∈ outer.head?, item.indent ≤ line.indent) :
    attach line (items ++ outer) = (attach line items).map (· ++ outer) := by
  have stop : outer.takeWhile (fun item => line.indent < item.indent) = [] ∧
      outer.dropWhile (fun item => line.indent < item.indent) = outer := by
    cases outer with
    | nil => exact ⟨rfl, rfl⟩
    | cons first rest =>
      have not : ¬ (decide (line.indent < first.indent)) = true := by
        simpa using shallow first rfl
      exact ⟨List.takeWhile_cons_of_neg not, List.dropWhile_cons_of_neg not⟩
  unfold attach
  rw [takeWhile_append_of_stop stop.1, dropWhile_append_of_stop stop.2]
  cases line.value with
  | none =>
    dsimp only
    rw [Option.map_map]
    rfl
  | some value =>
    dsimp only
    split
    · rfl
    · rfl

theorem itemsOf_append {front back : List Line} {items outer : List Item}
    (read : itemsOf front = some items) (readBack : itemsOf back = some outer)
    (shallow : ∀ line ∈ front, ∀ item ∈ outer.head?, item.indent ≤ line.indent) :
    itemsOf (front ++ back) = some (items ++ outer) := by
  induction front generalizing items with
  | nil =>
    cases read
    exact readBack
  | cons line front ih =>
    rw [itemsOf] at read
    obtain ⟨inner, there, attached⟩ := Option.bind_eq_some_iff.mp read
    have later := ih there fun line mem => shallow line (List.mem_cons_of_mem _ mem)
    rw [List.cons_append, itemsOf, later, Option.bind_some,
      attach_append (shallow line List.mem_cons_self), attached]
    rfl

/-- The items of a mapping's entries. -/
def entryItem (n : Nat) (entry : Scalar × Node) : Item := ⟨n, .key entry.1, entry.2⟩

def elementItem (n : Nat) (node : Node) : Item := ⟨n, .dash, node⟩

theorem nodeOf_entries (n : Nat) {entries : List (Scalar × Node)} (some : entries ≠ [])
    (once : (entries.map Prod.fst).Nodup) :
    nodeOf (entries.map (entryItem n)) = .some (.map entries) := by
  have all : ∀ entries : List (Scalar × Node),
      (entries.map (entryItem n)).mapM entryOf = .some entries := by
    intro entries
    induction entries with
    | nil => rfl
    | cons entry rest ih =>
      rw [List.map_cons, List.mapM_cons, ih]
      rfl
  cases entries with
  | nil => exact absurd rfl some
  | cons entry rest =>
    have level : ((rest.map (entryItem n)).all fun item =>
        item.indent = (entryItem n entry).indent) = true := by
      simp [entryItem]
    have read := all (entry :: rest)
    rw [List.map_cons] at read ⊢
    rw [nodeOf, if_pos level]
    show ((entryItem n entry :: rest.map (entryItem n)).mapM entryOf).bind _ = _
    rw [read, Option.bind_some, if_pos once]

theorem nodeOf_elements (n : Nat) {nodes : List Node} (some : nodes ≠ []) :
    nodeOf (nodes.map (elementItem n)) = .some (.seq nodes) := by
  have all : ∀ nodes : List Node, (nodes.map (elementItem n)).mapM elementOf = .some nodes := by
    intro nodes
    induction nodes with
    | nil => rfl
    | cons node rest ih =>
      rw [List.map_cons, List.mapM_cons, ih]
      rfl
  cases nodes with
  | nil => exact absurd rfl some
  | cons node rest =>
    have level : ((rest.map (elementItem n)).all fun item =>
        item.indent = (elementItem n node).indent) = true := by
      simp [elementItem]
    have read := all (node :: rest)
    rw [List.map_cons] at read ⊢
    rw [nodeOf, if_pos level]
    show ((elementItem n node :: rest.map (elementItem n)).mapM elementOf).map _ = _
    rw [read]
    rfl

theorem attach_inner {n m : Nat} (deeper : n < m) {head : Head} {items : List Item} {node : Node}
    (level : ∀ item ∈ items, item.indent = m) (made : nodeOf items = some node) :
    attach ⟨n, head, none⟩ items = some [⟨n, head, node⟩] := by
  have all : ∀ item ∈ items, decide (n < item.indent) = true := by
    intro item mem
    rw [level item mem]
    exact decide_eq_true deeper
  unfold attach
  dsimp only
  rw [List.takeWhile_eq_self_iff.mpr all, List.dropWhile_eq_nil_iff.mpr all, made]
  rfl

theorem attach_entries {n m : Nat} (deeper : n < m) (name : Scalar) {entries : List (Scalar × Node)}
    (some : entries ≠ []) (once : (entries.map Prod.fst).Nodup) :
    attach ⟨n, .key name, none⟩ (entries.map (entryItem m)) =
      .some [entryItem n (name, .map entries)] := by
  refine attach_inner deeper ?_ (nodeOf_entries m some once)
  intro item mem
  obtain ⟨entry, -, rfl⟩ := List.mem_map.mp mem
  rfl

/-- What some elements make up; none make up nothing. -/
def seqOf : List Node → Node
  | [] => .scalar .null
  | nodes => .seq nodes

theorem attach_elements {n m : Nat} (deeper : n < m) (name : Scalar) (nodes : List Node) :
    attach ⟨n, .key name, none⟩ (nodes.map (elementItem m)) =
      some [entryItem n (name, seqOf nodes)] := by
  refine attach_inner deeper ?_ ?_
  · intro item mem
    obtain ⟨node, -, rfl⟩ := List.mem_map.mp mem
    rfl
  · cases nodes with
    | nil => rfl
    | cons node rest => exact nodeOf_elements m (List.cons_ne_nil node rest)

/-- The items of blocks that stand at one depth, one behind the other. -/
theorem itemsOf_blocks {α : Type} {n : Nat} {block : α → List Line} {item : α → Item} {xs : List α}
    (reads : ∀ x ∈ xs, itemsOf (block x) = some [item x])
    (deep : ∀ x ∈ xs, ∀ line ∈ block x, n ≤ line.indent) (level : ∀ x ∈ xs, (item x).indent = n) :
    itemsOf (xs.flatMap block) = some (xs.map item) := by
  induction xs with
  | nil => rfl
  | cons x xs ih =>
    have later := ih (fun y mem => reads y (List.mem_cons_of_mem x mem))
      (fun y mem => deep y (List.mem_cons_of_mem x mem))
      (fun y mem => level y (List.mem_cons_of_mem x mem))
    rw [List.flatMap_cons]
    refine itemsOf_append (reads x List.mem_cons_self) later ?_
    intro line mem next first
    cases xs with
    | nil => cases first
    | cons y xs =>
      cases first
      rw [level y (by simp)]
      exact deep x List.mem_cons_self line mem

/-! ### What comes first -/

/-- A mapping that begins with this entry. -/
def Begins (name : Scalar) (node first : Node) : Prop :=
  ∃ rest, node = .map ((name, first) :: rest)

theorem nodeOf_begins {item : Item} {items : List Item} {node : Node} {name : Scalar}
    (key : item.head = .key name) (made : nodeOf (item :: items) = some node) :
    Begins name node item.node := by
  rw [nodeOf] at made
  split at made
  · rw [key] at made
    obtain ⟨entries, all, made⟩ := Option.bind_eq_some_iff.mp made
    split at made
    · cases made
      rw [List.mapM_cons, entryOf, key] at all
      simp only [Option.pure_def, Option.bind_eq_bind, Option.bind_some,
        Option.bind_eq_some_iff] at all
      obtain ⟨rest, -, same⟩ := all
      cases same
      exact ⟨rest, rfl⟩
    · cases made
  · cases made

theorem attach_value {line : Line} {value : Node} (given : line.value = some value)
    {items out : List Item} (attached : attach line items = some out) :
    ∃ rest, out = ⟨line.indent, line.head, value⟩ :: rest := by
  unfold attach at attached
  rw [given] at attached
  dsimp only at attached
  split at attached
  · cases attached
    exact ⟨_, rfl⟩
  · cases attached

theorem attach_begins {line : Line} (open' : line.value = none) {item : Item} {items out : List Item}
    {name : Scalar} (key : item.head = .key name) (deeper : line.indent < item.indent)
    (attached : attach line (item :: items) = some out) :
    ∃ node rest, out = ⟨line.indent, line.head, node⟩ :: rest ∧ Begins name node item.node := by
  unfold attach at attached
  rw [open'] at attached
  dsimp only at attached
  rw [List.takeWhile_cons_of_pos (by simpa using deeper)] at attached
  obtain ⟨node, made, rfl⟩ := Option.map_eq_some_iff.mp attached
  exact ⟨node, _, rfl, nodeOf_begins key made⟩

/-! ### Keys occur once -/

/-- No mapping has a key twice. -/
inductive Keyed : Node → Prop where
  | scalar (value : Scalar) : Keyed (.scalar value)
  | seq {items : List Node} (all : ∀ node ∈ items, Keyed node) : Keyed (.seq items)
  | map {entries : List (Scalar × Node)} (once : (entries.map Prod.fst).Nodup)
      (all : ∀ entry ∈ entries, Keyed entry.2) : Keyed (.map entries)

theorem mem_mapM {α β : Type} {f : α → Option β} {xs : List α} {ys : List β}
    (all : xs.mapM f = some ys) {y : β} (mem : y ∈ ys) : ∃ x ∈ xs, f x = some y := by
  induction xs generalizing ys with
  | nil =>
    cases all
    cases mem
  | cons x xs ih =>
    simp only [List.mapM_cons, Option.pure_def, Option.bind_eq_bind, Option.bind_eq_some_iff] at all
    obtain ⟨first, found, rest, there, same⟩ := all
    cases same
    rcases List.mem_cons.mp mem with rfl | later
    · exact ⟨x, List.mem_cons_self, found⟩
    · obtain ⟨x', inside, same⟩ := ih there later
      exact ⟨x', List.mem_cons_of_mem x inside, same⟩

theorem nodeOf_keyed {items : List Item} (all : ∀ item ∈ items, Keyed item.node) {node : Node}
    (made : nodeOf items = some node) : Keyed node := by
  cases items with
  | nil =>
    cases made
    exact .scalar .null
  | cons first rest =>
    rw [nodeOf] at made
    split at made
    · split at made
      · obtain ⟨entries, read, made⟩ := Option.bind_eq_some_iff.mp made
        split at made
        · next once =>
          cases made
          refine .map once fun entry mem => ?_
          obtain ⟨item, inside, same⟩ := mem_mapM read mem
          unfold entryOf at same
          split at same
          · cases same
            exact all item inside
          · cases same
        · cases made
      · obtain ⟨nodes, read, rfl⟩ := Option.map_eq_some_iff.mp made
        refine .seq fun node mem => ?_
        obtain ⟨item, inside, same⟩ := mem_mapM read mem
        unfold elementOf at same
        split at same
        · cases same
          exact all item inside
        · cases same
      · split at made
        · cases made
          exact all first List.mem_cons_self
        · cases made
    · cases made

theorem attach_keyed {line : Line} (value : ∀ node ∈ line.value, Keyed node) {items out : List Item}
    (all : ∀ item ∈ items, Keyed item.node) (attached : attach line items = some out) :
    ∀ item ∈ out, Keyed item.node := by
  have outer : ∀ p : Item → Bool, ∀ item ∈ items.dropWhile p, Keyed item.node := fun p item mem =>
    all item ((List.dropWhile_sublist p).subset mem)
  have inner : ∀ p : Item → Bool, ∀ item ∈ items.takeWhile p, Keyed item.node := fun p item mem =>
    all item ((List.takeWhile_sublist p).subset mem)
  unfold attach at attached
  cases given : line.value with
  | some node =>
    rw [given] at attached
    dsimp only at attached
    split at attached
    · cases attached
      exact List.forall_mem_cons.mpr ⟨value node given, outer _⟩
    · cases attached
  | none =>
    rw [given] at attached
    obtain ⟨node, made, rfl⟩ := Option.map_eq_some_iff.mp attached
    exact List.forall_mem_cons.mpr ⟨nodeOf_keyed (inner _) made, outer _⟩

theorem itemsOf_keyed {lines : List Line} (values : ∀ line ∈ lines, ∀ node ∈ line.value, Keyed node)
    {items : List Item} (put : itemsOf lines = some items) : ∀ item ∈ items, Keyed item.node := by
  induction lines generalizing items with
  | nil =>
    cases put
    exact nofun
  | cons line lines ih =>
    obtain ⟨first, later⟩ := List.forall_mem_cons.mp values
    obtain ⟨behind, there, attached⟩ := Option.bind_eq_some_iff.mp put
    exact attach_keyed first (ih later there) attached

/-- What stands behind a key is a scalar or the empty mapping. -/
theorem readValue_keyed {text : List Char} {read : Node × List Char}
    (found : readValue text = some read) : Keyed read.1 := by
  unfold readValue at found
  split at found
  · split at found
    · cases found
      exact .scalar _
    · cases found
  · cases found
    exact .map List.nodup_nil nofun
  · split at found
    · cases found
      exact .scalar _
    · cases found

theorem readEntry_keyed {n : Nat} {text : List Char} {read : Line × List Char}
    (found : readEntry n text = some read) : ∀ node ∈ read.1.value, Keyed node := by
  unfold readEntry at found
  split at found
  · cases found
    rintro node ⟨⟩
    exact .scalar _
  · cases found
    rintro node ⟨⟩
  · obtain ⟨value, there, rfl⟩ := Option.map_eq_some_iff.mp found
    rintro node ⟨⟩
    exact readValue_keyed there
  · cases found

theorem readLine_keyed {text : List Char} {read : List Line × List Char}
    (found : readLine text = some read) : ∀ line ∈ read.1, ∀ node ∈ line.value, Keyed node := by
  unfold readLine readContent at found
  split at found
  · obtain ⟨entry, there, rfl⟩ := Option.map_eq_some_iff.mp found
    intro line mem
    rcases List.mem_pair.mp mem with rfl | rfl
    · rintro node ⟨⟩
    · exact readEntry_keyed there
  · obtain ⟨entry, there, rfl⟩ := Option.map_eq_some_iff.mp found
    intro line mem
    rw [List.mem_singleton.mp mem]
    exact readEntry_keyed there

theorem readLines_keyed {fuel : Nat} {text : List Char} {all : List Line}
    (read : readLines fuel text = some all) : ∀ line ∈ all, ∀ node ∈ line.value, Keyed node := by
  induction fuel generalizing text all with
  | zero =>
    cases text with
    | nil =>
      cases read
      exact nofun
    | cons c rest => cases read
  | succ fuel ih =>
    cases text with
    | nil =>
      cases read
      exact nofun
    | cons c rest =>
      obtain ⟨first, found, behind⟩ := Option.bind_eq_some_iff.mp read
      obtain ⟨more, there, rfl⟩ := Option.map_eq_some_iff.mp behind
      intro line mem
      rcases List.mem_append.mp mem with own | later
      · exact readLine_keyed found line own
      · exact ih there line later

/-- **What is read has each key once.** -/
theorem read_keyed {text : String} {doc : Node} (found : read text = some doc) : Keyed doc := by
  obtain ⟨lines, readAll, built⟩ := Option.bind_eq_some_iff.mp found
  obtain ⟨items, put, made⟩ := Option.bind_eq_some_iff.mp built
  exact nodeOf_keyed (itemsOf_keyed (readLines_keyed readAll) put) made

end Nixway.Theory.Yaml
