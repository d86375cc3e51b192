import DesignTokens.Text.Word

/-! # Import statements

An import statement begins a line, after spaces and tabs at most: the word `import`, then either a
clause and the word `from` or nothing, then the name of a module in quotes, and on the line of the
closing quote perhaps a semicolon. A clause has no quote and no semicolon in it; it may go over
several lines. A statement keeps every character it was read from, so that writing it gives back
the text.

## Main definitions

* `Import.Statement` - an import statement, and `Import.Statement.text` its characters
* `Import.Statement.read?` - the statement at the beginning of a text, and what follows it
* `Import.Statement.isTypeOnly` - whether a statement imports types only
* `Import.Statement.Cut` - how a text is cut into the parts of a statement

## Main results

* `Import.Statement.text_append_of_read?` - reading keeps every character
* `Import.Statement.length_lt_of_read?` - what follows a statement is shorter than the text
-/

namespace DesignTokens.Import

open Character Text

/-- The word that starts a statement. -/
def importWord : Text := ['i', 'm', 'p', 'o', 'r', 't']

/-- The word between a clause and a module. -/
def fromWord : Text := ['f', 'r', 'o', 'm']

/-- Spaces and tabs. -/
def isIndent (c : Char) : Bool :=
  c = ' ' || c = '\t'

/-- The quotes around the name of a module. -/
def isQuote (c : Char) : Bool :=
  c = '\'' || c = '"'

/-- The characters that a clause stops at. -/
def endsClause (c : Char) : Bool :=
  isQuote c || c = ';'

/-- The characters that the name of a module stops at. -/
def endsModule (c : Char) : Bool :=
  isQuote c || c = '\n'

/-- An import statement with every character it was read from. -/
structure Statement where
  /-- Spaces and tabs in front. -/
  indent : Text
  /-- The text between `import` and `from`, unless the import is for its effect only. -/
  clause : Option Text
  /-- White space in front of the opening quote. -/
  gap : Text
  quote : Char
  module : Text
  /-- The closing quote, which may differ from the opening one. -/
  closing : Char
  /-- Spaces and tabs after the closing quote. -/
  trail : Text
  semicolon : Bool
  deriving Repr, DecidableEq

namespace Statement

/-- The clause with the word that follows it. -/
def clauseText : Option Text → Text
  | some clause => clause ++ fromWord
  | none => []

/-- The characters after the clause and its word. -/
def tail (s : Statement) : Text :=
  s.gap ++ (s.quote :: (s.module ++ (s.closing :: (s.trail ++ if s.semicolon then [';'] else []))))

/-- The characters of a statement. -/
def text (s : Statement) : Text :=
  s.indent ++ (importWord ++ (clauseText s.clause ++ s.tail))

/-- Reads the text between the word `import` and the opening quote as a clause, if there is one,
and the white space in front of the quote. A clause is followed by `from` as a word of its own. -/
def splitHead? (head : Text) : Option (Option Text × Text) :=
  let gap := (head.reverse.takeWhile isBlank).reverse
  let core := trimEnd head
  if core.isEmpty then some (none, gap)
  else
    match after? fromWord.reverse core.reverse with
    | none => none
    | some rest =>
      match rest with
      | [] => none
      | last :: _ => if isWord last then none else some (some rest.reverse, gap)

/-- Reads the statement at the beginning of a text. The second part is what follows it. -/
def read? (t : Text) : Option (Statement × Text) :=
  match after? importWord (t.dropWhile isIndent) with
  | none => none
  | some rest =>
    -- A longer word is not the word.
    if isWordSide rest.head? then none
    else
      match rest.dropWhile (!endsClause ·) with
      | [] => none
      | quote :: rest' =>
        if !isQuote quote then none
        else
          match splitHead? (rest.takeWhile (!endsClause ·)) with
          | none => none
          | some (clause, gap) =>
            let module := rest'.takeWhile (!endsModule ·)
            match rest'.dropWhile (!endsModule ·) with
            | [] => none
            | closing :: rest'' =>
              -- Any quote closes the module, whichever opened it.
              if module.isEmpty || !isQuote closing then none
              else
                let trail := rest''.takeWhile isIndent
                let indent := t.takeWhile isIndent
                match rest''.dropWhile isIndent with
                | ';' :: tail =>
                  some (⟨indent, clause, gap, quote, module, closing, trail, true⟩, tail)
                | tail => some (⟨indent, clause, gap, quote, module, closing, trail, false⟩, tail)

/-- Whether a clause starts with the word `type` before a blank, a brace or a star. -/
def startsWithType (clause : Text) : Bool :=
  match after? ['t', 'y', 'p', 'e'] (trimStart clause) with
  | some (c :: _) => isBlank c || c = '{' || c = '*'
  | _ => false

/-- Whether a statement imports types only. -/
def isTypeOnly (s : Statement) : Bool :=
  s.clause.any startsWithType

/-! ### Reading keeps every character -/

theorem append_of_after? {start t rest : Text} (h : after? start t = some rest) :
    start ++ rest = t := by
  induction start generalizing t with
  | nil => simpa [after?, eq_comm] using h
  | cons c start ih =>
    cases t with
    | nil => simp [after?] at h
    | cons d t =>
      simp only [after?] at h
      split at h
      · rename_i hcd; simp [hcd, ih h]
      · simp at h

theorem trimEnd_append_blanks (t : Text) :
    trimEnd t ++ (t.reverse.takeWhile isBlank).reverse = t := by
  rw [trimEnd, dropEndWhile, ← List.reverse_append, List.takeWhile_append_dropWhile,
    List.reverse_reverse]

theorem clauseText_append_of_splitHead? {head gap : Text} {clause : Option Text}
    (h : splitHead? head = some (clause, gap)) : clauseText clause ++ gap = head := by
  have hsplit := trimEnd_append_blanks head
  revert h
  fun_cases splitHead? head with
  | case1 blanks core hempty =>
    intro h
    obtain ⟨rfl, hgap⟩ := Prod.mk.inj (Option.some.inj h)
    have hnil : trimEnd head = [] := List.isEmpty_iff.mp hempty
    rw [hnil] at hsplit
    rw [clauseText, ← hgap, hsplit]
  | case5 blanks core hempty last rest hlast hfrom =>
    intro h
    obtain ⟨rfl, hgap⟩ := Prod.mk.inj (Option.some.inj h)
    have hcore := congrArg List.reverse (append_of_after? hfrom)
    rw [List.reverse_append, List.reverse_reverse, List.reverse_reverse] at hcore
    rw [clauseText, hcore, ← hgap, hsplit]
  | _ => exact nofun
/-- How a text is cut into the parts of a statement: `head` is what follows the word `import`,
`inner` what follows the opening quote and `outer` what follows the closing one. -/
structure Cut (t : Text) (s : Statement) (rest head inner outer : Text) : Prop where
  indent : t.takeWhile isIndent = s.indent
  word : after? importWord (t.dropWhile isIndent) = some head
  apart : isWordSide head.head? = false
  clause : splitHead? (head.takeWhile (!endsClause ·)) = some (s.clause, s.gap)
  opening : head.dropWhile (!endsClause ·) = s.quote :: inner
  quote : isQuote s.quote = true
  module : inner.takeWhile (!endsModule ·) = s.module
  module_ne_nil : s.module ≠ []
  ending : inner.dropWhile (!endsModule ·) = s.closing :: outer
  closing : isQuote s.closing = true
  trail : outer.takeWhile isIndent = s.trail
  below : outer.dropWhile isIndent = (if s.semicolon then [';'] else []) ++ rest
  semicolon : s.semicolon = false → rest.head? ≠ some ';'

theorem exists_cut_of_read? {t rest : Text} {s : Statement} (h : read? t = some (s, rest)) :
    ∃ head inner outer, Cut t s rest head inner outer := by
  revert h
  fun_cases read? t with
  | case8 head hword hapart quote inner hopening hquote clause gap hclause module closing outer
      hending hmodule trail indent below hbelow =>
    rintro ⟨⟩
    simp only [Bool.or_eq_true, Bool.not_eq_true', not_or, Bool.not_eq_false, List.isEmpty_iff,
      Bool.not_eq_true] at hmodule hquote hapart
    exact ⟨head, inner, outer, rfl, hword, hapart, hclause, hopening, hquote, rfl, hmodule.1,
      hending, hmodule.2, rfl, hbelow, by simp⟩
  | case9 head hword hapart quote inner hopening hquote clause gap hclause module closing outer
      hending hmodule trail indent hsemicolon =>
    rintro ⟨⟩
    simp only [Bool.or_eq_true, Bool.not_eq_true', not_or, Bool.not_eq_false, List.isEmpty_iff,
      Bool.not_eq_true] at hmodule hquote hapart
    refine ⟨head, inner, outer, rfl, hword, hapart, hclause, hopening, hquote, rfl, hmodule.1,
      hending, hmodule.2, rfl, rfl, fun _ hhead => ?_⟩
    obtain ⟨below, hbelow⟩ := List.head?_eq_some_iff.mp hhead
    exact hsemicolon below hbelow
  | _ => exact nofun

theorem Cut.read?_eq {t rest head inner outer : Text} {s : Statement}
    (h : Cut t s rest head inner outer) : read? t = some (s, rest) := by
  obtain ⟨indent, clause, gap, quote, module, closing, trail, semicolon⟩ := s
  obtain ⟨rfl, hword, hapart, hclause, hopening, hquote, rfl, hmodule, hending, hclosing, rfl,
    hbelow, hsemicolon⟩ := h
  simp only at hclause hopening hquote hmodule hending hclosing hbelow hsemicolon
  simp only [read?, hword, hapart, hopening, hquote, hclause, hending, hclosing, hbelow,
    Bool.false_eq_true, if_false, Bool.not_true, Bool.or_false, List.isEmpty_iff, hmodule]
  cases semicolon with
  | true => rfl
  | false =>
    cases rest with
    | nil => rfl
    | cons c rest =>
      have hc : c ≠ ';' := by simpa using hsemicolon rfl
      simp only [Bool.false_eq_true, if_false, List.nil_append]
      split
      · rename_i heq
        exact absurd (List.cons.inj heq).1 hc
      · rfl

theorem text_append_of_read? {t rest : Text} {s : Statement} (h : read? t = some (s, rest)) :
    s.text ++ rest = t := by
  obtain ⟨head, inner, outer, hread⟩ := exists_cut_of_read? h
  have hhead : clauseText s.clause ++ s.gap ++ s.quote :: inner = head := by
    rw [clauseText_append_of_splitHead? hread.clause, ← hread.opening,
      List.takeWhile_append_dropWhile]
  have hinner : s.module ++ s.closing :: outer = inner := by
    rw [← hread.module, ← hread.ending, List.takeWhile_append_dropWhile]
  have houter : s.trail ++ ((if s.semicolon then [';'] else []) ++ rest) = outer := by
    rw [← hread.trail, ← hread.below, List.takeWhile_append_dropWhile]
  calc s.text ++ rest
      = s.indent ++ (importWord ++ (clauseText s.clause ++ s.gap ++ s.quote ::
          (s.module ++ s.closing ::
            (s.trail ++ ((if s.semicolon then [';'] else []) ++ rest))))) := by
        simp [text, tail]
    _ = s.indent ++ (importWord ++ head) := by rw [houter, hinner, hhead]
    _ = t.takeWhile isIndent ++ t.dropWhile isIndent := by
        rw [hread.indent, append_of_after? hread.word]
    _ = t := List.takeWhile_append_dropWhile

theorem importWord_length_le_text (s : Statement) : 6 ≤ s.text.length := by
  simp [text, importWord]; omega

theorem length_lt_of_read? {t rest : Text} {s : Statement} (h : read? t = some (s, rest)) :
    rest.length < t.length := by
  have h1 := congrArg List.length (text_append_of_read? h)
  have h2 := importWord_length_le_text s
  rw [List.length_append] at h1
  omega

end Statement

end DesignTokens.Import
