import DesignTokens.Import.Statement
import DesignTokens.Text.Line

/-! # The import statements of a text

A text is read from left to right, a line at a time: where a line begins with an import statement
the statement is taken and reading goes on with the line after the one it ends on. The outline
keeps all text between the statements, so that it can be written back.

## Main definitions

* `Import.Outline` - the statements of a text with the text in between
* `Import.Outline.read` - the outline of a text
* `Import.statements` - the statements of a text, each with its place
* `Import.spans` - the places of the statements

## Main results

* `Import.Outline.text_read` - an outline has every character of the text it was read from
-/

namespace DesignTokens.Import

open Character Text

/-- The statements of a text, each with the text between it and the one before, and the text after
the last. -/
structure Outline where
  entries : List (Text × Statement)
  rest : Text
  deriving Repr, DecidableEq

namespace Outline

/-- The characters of an outline. -/
def text (o : Outline) : Text :=
  o.entries.flatMap (fun entry => entry.1 ++ entry.2.text) ++ o.rest

/-- An outline with more text in front. -/
def prepend (lead : Text) (o : Outline) : Outline :=
  match o.entries with
  | [] => { o with rest := lead ++ o.rest }
  | (before, s) :: more => { o with entries := (lead ++ before, s) :: more }

/-- An outline with a statement in front. -/
def push (s : Statement) (o : Outline) : Outline :=
  { o with entries := ([], s) :: o.entries }

theorem text_prepend (lead : Text) (o : Outline) : (o.prepend lead).text = lead ++ o.text := by
  unfold prepend
  split <;> rename_i h <;> simp [text, h]

theorem text_push (s : Statement) (o : Outline) : (o.push s).text = s.text ++ o.text := by
  simp [push, text]

/-- The outline of a text that starts where a line does. -/
def read (t : Text) : Outline :=
  match _h : Statement.read? t with
  | some (s, rest) =>
    -- What follows a statement on its line is text in front of the next one.
    let line := rest.takeWhile (· ≠ '\n')
    match _hr : rest.dropWhile (· ≠ '\n') with
    | [] => push s ⟨[], line⟩
    | c :: rest' => push s (prepend (line ++ [c]) (read rest'))
  | none =>
    let line := t.takeWhile (· ≠ '\n')
    match _ht : t.dropWhile (· ≠ '\n') with
    | [] => ⟨[], line⟩
    | c :: rest => prepend (line ++ [c]) (read rest)
termination_by t.length
decreasing_by
  · have h1 := Statement.length_lt_of_read? _h
    have h2 := (List.dropWhile_suffix (l := rest) (· ≠ '\n')).length_le
    rw [_hr] at h2
    simp at h2
    omega
  · have h2 := (List.dropWhile_suffix (l := t) (· ≠ '\n')).length_le
    rw [_ht] at h2
    simp at h2
    omega

theorem text_read (t : Text) : (read t).text = t := by
  fun_induction read t with
  | case1 t s rest h line hr =>
    rw [text_push, ← Statement.text_append_of_read? h]
    have h1 := List.takeWhile_append_dropWhile (p := (· ≠ '\n')) (l := rest)
    rw [hr, List.append_nil] at h1
    simp only [text, List.flatMap_nil, List.nil_append, line, h1]
  | case2 t s rest h line c rest' hr ih =>
    rw [text_push, text_prepend, ih, ← Statement.text_append_of_read? h]
    have h1 := List.takeWhile_append_dropWhile (p := (· ≠ '\n')) (l := rest)
    rw [hr] at h1
    simp only [line, List.append_assoc, List.singleton_append, h1]
  | case3 t h line ht =>
    have h1 := List.takeWhile_append_dropWhile (p := (· ≠ '\n')) (l := t)
    rw [ht, List.append_nil] at h1
    simp only [text, List.flatMap_nil, List.nil_append, line, h1]
  | case4 t h line c rest ht ih =>
    rw [text_prepend, ih]
    have h1 := List.takeWhile_append_dropWhile (p := (· ≠ '\n')) (l := t)
    rw [ht] at h1
    simp only [line, List.append_assoc, List.singleton_append, h1]

end Outline

/-- A part of a text, from a first byte up to but not including a last. -/
structure Span where
  start : Nat
  stop : Nat
  deriving Repr, DecidableEq

/-- Whether an offset lies in a span. -/
def Span.contains (span : Span) (offset : Nat) : Bool :=
  span.start ≤ offset && offset < span.stop

/-- A statement with the text before it and the text after it. -/
structure Placed where
  before : Text
  statement : Statement
  after : Text
  deriving Repr, DecidableEq

namespace Placed

/-- The span of the statement. -/
def span (p : Placed) : Span :=
  ⟨byteSize p.before, byteSize p.before + byteSize p.statement.text⟩

/-- The text up to the clause of the statement. -/
def beforeClause (p : Placed) : Text :=
  p.before ++ (p.statement.indent ++ importWord)

/-- The span of the clause, if the statement has one. -/
def clauseSpan (p : Placed) : Option Span :=
  p.statement.clause.map fun clause =>
    let start := byteSize p.before + byteSize p.statement.indent + byteSize importWord
    ⟨start, start + byteSize clause⟩

/-- The number of the line that the statement starts on, counted from one. -/
def line (p : Placed) : Nat :=
  lineFeeds p.before + 1

end Placed

/-- The statements of entries that follow the text `before` and come before the text `rest`, and the
text of the entries with that rest. -/
def placeFrom (before rest : Text) : List (Text × Statement) → List Placed × Text
  | [] => ([], rest)
  | (lead, s) :: more =>
    let upTo := before ++ lead
    let (placed, after) := placeFrom (upTo ++ s.text) rest more
    (⟨upTo, s, after⟩ :: placed, lead ++ (s.text ++ after))

/-- The statements of an outline, each with its place. -/
def Outline.placed (o : Outline) : List Placed :=
  (placeFrom [] o.rest o.entries).1

/-- The import statements of a text, in order, each with its place. -/
def statements (content : Text) : List Placed :=
  (Outline.read content).placed

/-- The spans of entries that begin at an offset. -/
def spansFrom (offset : Nat) : List (Text × Statement) → List Span
  | [] => []
  | (lead, s) :: more =>
    let start := offset + byteSize lead
    let stop := start + byteSize s.text
    ⟨start, stop⟩ :: spansFrom stop more

/-- The spans of the import statements of a text. -/
def spans (content : Text) : List Span :=
  spansFrom 0 (Outline.read content).entries

/-! ### Places -/

/-- Each statement has the text of the entries that follow it after it. -/
theorem placeFrom_snd (before rest : Text) (entries : List (Text × Statement)) :
    (placeFrom before rest entries).2 = (Outline.mk entries rest).text := by
  induction entries generalizing before with
  | nil => simp [placeFrom, Outline.text]
  | cons entry more ih =>
    obtain ⟨lead, s⟩ := entry
    simp [placeFrom, ih, Outline.text]

theorem map_statement_placeFrom (before rest : Text) (entries : List (Text × Statement)) :
    (placeFrom before rest entries).1.map (·.statement) = entries.map (·.2) := by
  induction entries generalizing before with
  | nil => rfl
  | cons entry more ih => simp [placeFrom, ih]

end DesignTokens.Import
