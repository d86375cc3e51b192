import DesignTokens.Report.Markdown
import Mathlib.Data.List.Forall2

/-! # The printed section of a file

A section opens with a heading that ends in the number of the findings, and shows the findings one
after the other. What is printed can be counted: a heading gives its number back when it is read
from behind, and each finding has one line that opens with a dash, whatever its texts are.

## Main definitions

* `Report.Shows` - lines show a finding
* `Report.SectionOf` - lines are the section of a file
* `Report.headingNumber?`, `Report.isItem` - what a printed line counts

## Main results

* `Report.SectionOf.filterMap_headingNumber?` - a section has one heading, with the number of the
  findings
* `Report.SectionOf.countP_isItem` - a section has one item for each finding
* `Report.sectionOf_fileSection` - the lines of a section show the findings of its file
-/

namespace DesignTokens.Report

/-! ### What is printed -/

/-- The place of a finding. -/
inductive PlaceText : Nat → String → Prop where
  /-- Line zero is the whole file. -/
  | file : PlaceText 0 "File"
  | line {n : Nat} (hpos : 0 < n) : PlaceText n ("Line " ++ toString n)

/-- The text for a finding. -/
inductive LabelText (finding : Finding) : String → Prop where
  | description (h : finding.description ≠ "") : LabelText finding finding.description
  | rule {id : String} (h : finding.description = "") (hid : finding.ruleId = some id) :
    LabelText finding id
  | kind (h : finding.description = "") (hid : finding.ruleId = none) :
    LabelText finding finding.kind.word

/-- The mark of a failure. -/
inductive MarkText : Finding.Kind → String → Prop where
  | detection : MarkText .detection ""
  | failure {kind : Finding.Kind} (h : kind ≠ .detection) :
    MarkText kind (" [" ++ kind.word ++ "]")

/-- Lines show a finding. -/
inductive Shows (finding : Finding) : List String → Prop where
  | plain {place label mark : String} (hplace : PlaceText finding.line place)
    (hlabel : LabelText finding label) (hmark : MarkText finding.kind mark)
    (hsnippet : finding.snippet = "") :
    Shows finding ["- " ++ place ++ ": " ++ label ++ mark]
  | quoting {place label mark : String} (hplace : PlaceText finding.line place)
    (hlabel : LabelText finding label) (hmark : MarkText finding.kind mark)
    (hsnippet : finding.snippet ≠ "") :
    Shows finding ["- " ++ place ++ ": " ++ label ++ mark, "  `" ++ finding.snippet ++ "`"]

/-- Lines are the section of a file with its findings. -/
inductive SectionOf (path : Path) (findings : List Finding) : List String → Prop where
  | intro {items : List (List String)} (hitems : List.Forall₂ Shows findings items) :
    SectionOf path findings
      ("" :: ("### " ++ path.text ++ " (" ++ toString findings.length ++ ")") :: "" ::
        items.flatten)

/-! ### Reading what is printed -/

/-- The number in brackets at the end of a heading. -/
def headingNumber? (line : String) : Option Nat :=
  let digits := (line.toList.dropLast.reverse.takeWhile Char.isDigit).reverse
  if "### ".toList <+: line.toList ∧ digits ≠ [] ∧ '(' :: digits ++ [')'] <:+ line.toList then
    some (Nat.ofDigitChars 10 digits 0)
  else none

/-- Whether a line opens an item. -/
def isItem (line : String) : Bool :=
  "- ".toList <+: line.toList

theorem headingNumber?_heading (title : String) (n : Nat) :
    headingNumber? ("### " ++ title ++ " (" ++ toString n ++ ")") = some n := by
  have hline : ("### " ++ title ++ " (" ++ toString n ++ ")").toList =
      "### ".toList ++ (title.toList ++ [' ']) ++ '(' :: Nat.toDigits 10 n ++ [')'] := by
    simp
  -- Read from behind, the digits stop at the bracket.
  have hdigits : (("### " ++ title ++ " (" ++ toString n ++ ")").toList.dropLast.reverse.takeWhile
      Char.isDigit).reverse = Nat.toDigits 10 n := by
    have hall : ∀ c ∈ (Nat.toDigits 10 n).reverse, c.isDigit = true := fun c hc =>
      Nat.isDigit_of_mem_toDigits (by decide) (by decide) (List.mem_reverse.mp hc)
    have hbracket : Char.isDigit '(' = false := by decide
    rw [hline, List.dropLast_concat, List.reverse_append, List.reverse_cons, List.append_assoc,
      List.takeWhile_append_of_pos hall]
    simp [hbracket]
  have hopening : "### ".toList <+: ("### " ++ title ++ " (" ++ toString n ++ ")").toList := by
    rw [hline, List.append_assoc, List.append_assoc]
    exact List.prefix_append _ _
  have hclosing : '(' :: Nat.toDigits 10 n ++ [')'] <:+
      ("### " ++ title ++ " (" ++ toString n ++ ")").toList := by
    rw [hline, List.append_assoc]
    exact List.suffix_append _ _
  rw [headingNumber?, hdigits, if_pos ⟨hopening, Nat.toDigits_ne_nil, hclosing⟩,
    Nat.ofDigitChars_ten_toDigits]

theorem headingNumber?_eq_none {line : String} (h : ¬ "### ".toList <+: line.toList) :
    headingNumber? line = none := by
  rw [headingNumber?, if_neg fun hheading => h hheading.1]

variable {finding : Finding} {findings : List Finding} {items : List (List String)}
  {lines : List String} {path : Path}

theorem isItem_item (s : String) : isItem ("- " ++ s) = true := by
  simp [isItem]

theorem headingNumber?_item (s : String) : headingNumber? ("- " ++ s) = none :=
  headingNumber?_eq_none (by simp)

theorem isItem_snippet (s : String) : isItem ("  `" ++ s) = false := by
  simp [isItem]

theorem headingNumber?_snippet (s : String) : headingNumber? ("  `" ++ s) = none :=
  headingNumber?_eq_none (by simp)

/-- The lines for a finding are no headings. -/
theorem Shows.filterMap_headingNumber? (h : Shows finding lines) :
    lines.filterMap headingNumber? = [] := by
  cases h <;> simp [String.append_assoc, headingNumber?_item, headingNumber?_snippet]

/-- One of the lines for a finding opens its item. -/
theorem Shows.countP_isItem (h : Shows finding lines) : lines.countP isItem = 1 := by
  cases h <;> simp [String.append_assoc, isItem_item, isItem_snippet]

theorem filterMap_headingNumber?_flatten (h : List.Forall₂ Shows findings items) :
    items.flatten.filterMap headingNumber? = [] := by
  induction h with
  | nil => rfl
  | cons hshows _ ih =>
    rw [List.flatten_cons, List.filterMap_append, hshows.filterMap_headingNumber?, ih,
      List.append_nil]

theorem countP_isItem_flatten (h : List.Forall₂ Shows findings items) :
    items.flatten.countP isItem = findings.length := by
  induction h with
  | nil => rfl
  | cons hshows _ ih =>
    rw [List.flatten_cons, List.countP_append, hshows.countP_isItem, ih, List.length_cons,
      Nat.add_comm]

/-- A section has one heading, with the number of the findings. -/
theorem SectionOf.filterMap_headingNumber? (h : SectionOf path findings lines) :
    lines.filterMap headingNumber? = [findings.length] := by
  obtain ⟨hitems⟩ := h
  have hblank : headingNumber? "" = none := headingNumber?_eq_none (by decide)
  rw [List.filterMap_cons_none hblank, List.filterMap_cons_some (headingNumber?_heading _ _),
    List.filterMap_cons_none hblank, filterMap_headingNumber?_flatten hitems]

/-- A section has one item for each finding. -/
theorem SectionOf.countP_isItem (h : SectionOf path findings lines) :
    lines.countP isItem = findings.length := by
  obtain ⟨hitems⟩ := h
  have hblank : isItem "" = false := by decide
  have hheading :
      isItem ("### " ++ path.text ++ " (" ++ toString findings.length ++ ")") = false := by
    simp [isItem]
  simp only [List.countP_cons, hblank, hheading, countP_isItem_flatten hitems]
  simp

/-! ### The lines that are written -/

theorem shows_findingLines (finding : Finding) : Shows finding (findingLines finding) := by
  have hplace : PlaceText finding.line
      (if finding.line = 0 then "File" else "Line " ++ toString finding.line) := by
    cases finding.line with
    | zero => exact .file
    | succ n => exact .line (Nat.succ_pos n)
  have hlabel : LabelText finding (label finding) := by
    by_cases hdescription : finding.description = ""
    · rw [label, if_pos (String.isEmpty_iff.mpr hdescription)]
      cases hid : finding.ruleId with
      | none => exact .kind hdescription hid
      | some id => exact .rule hdescription hid
    · rw [label, if_neg (mt String.isEmpty_iff.mp hdescription)]
      exact .description hdescription
  have hmark : MarkText finding.kind
      (if finding.kind.isFailure then " [" ++ finding.kind.word ++ "]" else "") := by
    cases finding.kind with
    | detection => exact .detection
    | _ => exact .failure (by decide)
  by_cases hsnippet : finding.snippet = ""
  · rw [findingLines, if_pos (String.isEmpty_iff.mpr hsnippet)]
    exact .plain hplace hlabel hmark hsnippet
  · rw [findingLines, if_neg (mt String.isEmpty_iff.mp hsnippet)]
    exact .quoting hplace hlabel hmark hsnippet

/-- The lines of a section show the findings of its file. -/
theorem sectionOf_fileSection (entry : Path × List Finding) :
    SectionOf entry.1 entry.2 (fileSection entry) := by
  have hitems : List.Forall₂ Shows entry.2 (entry.2.map findingLines) := by
    rw [List.forall₂_map_right_iff, List.forall₂_same]
    exact fun finding _ => shows_findingLines finding
  exact .intro hitems

end DesignTokens.Report
