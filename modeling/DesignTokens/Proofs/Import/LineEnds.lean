import DesignTokens.Proofs.Import.Frame
import DesignTokens.Proofs.Scan.Comments
import Mathlib.Logic.Relation

/-! # Line ends of texts with names added

A text in which every line feed stands behind a carriage return stays such a text when names are
added to it, in one call or in many. A call writes the list between two braces of one line anew, or
puts in a line with a pair of its own. Neither comes between the two characters of a pair, so a pair
stays together while the text before it and the text after it go through edits of the same kind.

## Main definitions

* `Import.Paired` - every line feed of a text stands behind a carriage return
* `Import.LineEdit` - a text with another list between two braces, or with a line put in
* `Import.AddsNames` - a text with names added from one module
* `Import.LineEndsKept` - a text with the line ends of another one

## Main results

* `Import.LineEdit.paired`, `Import.LineEdit.exists_pair` - what one edit does to the line ends
* `Import.AddsNames.lineEdit` - a call that adds names is such an edit, or it changes nothing
* `Import.lineEndsKept_of_addsNames` - any number of calls keeps the line ends
-/

namespace DesignTokens.Import

open Character Text

/-- A carriage return and a line feed. -/
def pair : Text := ['\r', '\n']

/-- Every line feed of a text stands behind a carriage return. -/
def Paired (t : Text) : Prop :=
  ∀ before after, t = before ++ '\n' :: after → before.getLast? = some '\r'

/-- A text between two braces. -/
def braces (inner : Text) : Text := '{' :: (inner ++ ['}'])

/-- A text with another list between two braces of one line, or with a line put in: in front of the
text, behind it, or between two of its lines. -/
inductive LineEdit : Text → Text → Prop
  | relisted (before inner inner' after : Text) (h : '\n' ∉ inner) (h' : '\n' ∉ inner') :
    LineEdit (before ++ (braces inner ++ after)) (before ++ (braces inner' ++ after))
  | first (line t : Text) (h : '\n' ∉ line) : LineEdit t (line ++ (pair ++ t))
  | last (t line : Text) (h : '\n' ∉ line) : LineEdit t (t ++ (pair ++ line))
  | between (before line after : Text) (h : '\n' ∉ line) :
    LineEdit (before ++ (pair ++ after)) (before ++ (pair ++ (line ++ (pair ++ after))))

/-- A text with names added from one module. -/
def AddsNames (content new : Text) : Prop :=
  ∃ (hosts : List Host) (module : String) (required : Names), '\n' ∉ module.toList ∧
    (∀ x ∈ required, isIdentifier x.toList = true) ∧ ensure hosts content module required = .ok new

/-- A text with the line ends of another one: each of its line feeds stands behind a carriage
return, and each pair of the other text is a pair of it. What stands before the pair and what stands
behind it went through edits of their own. -/
structure LineEndsKept (content new : Text) : Prop where
  mem : '\n' ∈ new
  paired : Paired new
  pairs : ∀ before after, content = before ++ (pair ++ after) →
    ∃ before' after', new = before' ++ (pair ++ after') ∧
      Relation.ReflTransGen LineEdit before before' ∧ Relation.ReflTransGen LineEdit after after'

section

variable {a b m t u v w x before after : Text}

/-! ### Texts with pairs -/

theorem paired_of_not_mem (h : '\n' ∉ t) : Paired t := by
  intro before after heq
  exact absurd (heq ▸ by simp) h

/-- A text that does not end with a carriage return does not matter to the text behind it. -/
theorem paired_append (ha : a.getLast? ≠ some '\r') : Paired (a ++ b) ↔ Paired a ∧ Paired b := by
  constructor
  · intro h
    constructor
    · rintro before after rfl
      exact h before (after ++ b) (by simp)
    · rintro before after rfl
      have hlast := h (a ++ before) after (by simp)
      -- The carriage return is not the last character of `a`, so it stands in `b`.
      by_cases hnil : before = []
      · rw [hnil, List.append_nil] at hlast
        exact absurd hlast ha
      · rwa [List.getLast?_append_of_ne_nil a hnil] at hlast
  · rintro ⟨hpaired, hbehind⟩ before after heq
    -- The line feed stands in `b`, or it stands in `a`.
    rcases append_eq_append_cons heq with ⟨w, ha, -⟩ | ⟨w, rfl, hw⟩
    · exact hpaired before w ha
    · rw [List.getLast?_append, hbehind w after hw]
      rfl

theorem paired_append_of_not_mem (h : '\n' ∉ b) : Paired (a ++ b) ↔ Paired a := by
  constructor
  · rintro hpaired before after rfl
    exact hpaired before (after ++ b) (by simp)
  · rintro hpaired before after heq
    rcases append_eq_append_cons heq with ⟨w, ha, -⟩ | ⟨w, -, rfl⟩
    · exact hpaired before w ha
    · exact absurd (by simp) h

theorem paired_concat_pair (h : Paired a) : Paired (a ++ pair) := by
  intro before after heq
  have hfront : Paired (a ++ ['\r']) := (paired_append_of_not_mem (by decide)).mpr h
  have hsplit : a ++ ['\r'] ++ ['\n'] = before ++ '\n' :: after := by
    rw [← heq]
    simp [pair]
  rcases append_eq_append_cons hsplit with ⟨w, hw, -⟩ | ⟨w, rfl, hw⟩
  · exact hfront before w hw
  · cases w with
    | nil => simp
    | cons c w => simp at hw

/-- Texts with a pair between them do not matter to each other. -/
theorem paired_append_pair : Paired (a ++ (pair ++ b)) ↔ Paired a ∧ Paired b := by
  have hlast : (a ++ pair).getLast? ≠ some '\r' := by simp [pair]
  rw [← List.append_assoc, paired_append hlast]
  constructor
  · rintro ⟨ha, hb⟩
    refine ⟨?_, hb⟩
    rintro before after rfl
    exact ha before (after ++ pair) (by simp)
  · rintro ⟨ha, hb⟩
    exact ⟨paired_concat_pair ha, hb⟩

theorem exists_pair_of_mem (h : Paired t) (hmem : '\n' ∈ t) :
    ∃ before after, t = before ++ (pair ++ after) := by
  obtain ⟨before, after, rfl⟩ := List.append_of_mem hmem
  obtain ⟨front, rfl⟩ := List.getLast?_eq_some_iff.mp (h before after rfl)
  exact ⟨front, after, by simp [pair]⟩

/-! ### One edit -/

theorem newline_not_mem_braces (h : '\n' ∉ m) : '\n' ∉ braces m := by
  simp [braces, h]

theorem getLast?_braces (m : Text) : (braces m).getLast? = some '}' := by
  rw [braces, ← List.cons_append, List.getLast?_concat]

theorem paired_append_braces (h : '\n' ∉ m) :
    Paired (a ++ (braces m ++ b)) ↔ Paired a ∧ Paired b := by
  have hlast : (a ++ braces m).getLast? ≠ some '\r' := by
    rw [List.getLast?_append, getLast?_braces]
    simp
  rw [← List.append_assoc, paired_append hlast, paired_append_of_not_mem (newline_not_mem_braces h)]

/-- Every line feed of an edited text stands behind a carriage return. -/
theorem LineEdit.paired (h : LineEdit t u) (ht : Paired t) : Paired u := by
  cases h with
  | relisted before inner inner' after h h' =>
    exact (paired_append_braces h').mpr ((paired_append_braces h).mp ht)
  | first line t h => exact paired_append_pair.mpr ⟨paired_of_not_mem h, ht⟩
  | last t line h => exact paired_append_pair.mpr ⟨ht, paired_of_not_mem h⟩
  | between before line after h =>
    obtain ⟨hbefore, hafter⟩ := paired_append_pair.mp ht
    have hline := paired_append_pair.mpr ⟨paired_of_not_mem h, hafter⟩
    exact paired_append_pair.mpr ⟨hbefore, hline⟩

/-- A pair is not cut by a text that does not start with a line feed. -/
theorem cases_pair_append (h : pair ++ v = w ++ x) (hx : x.head? ≠ some '\n') :
    (w = [] ∧ x = pair ++ v) ∨ ∃ w', w = pair ++ w' ∧ v = w' ++ x := by
  rcases w with _ | ⟨c, _ | ⟨d, w⟩⟩
  · exact .inl ⟨rfl, h.symm⟩
  · obtain ⟨-, rfl⟩ := List.cons.inj h
    exact absurd rfl hx
  · simp only [pair, List.cons_append, List.nil_append, List.cons.injEq] at h
    obtain ⟨rfl, rfl, rfl⟩ := h
    exact .inr ⟨w, rfl, rfl⟩

/-- Two pairs of a text are the same, or one stands in front of the other. -/
theorem cases_pairs (h : a ++ (pair ++ b) = u ++ (pair ++ v)) :
    (∃ w, a = u ++ (pair ++ w) ∧ v = w ++ (pair ++ b)) ∨ (u = a ∧ v = b) ∨
      ∃ w, u = a ++ (pair ++ w) ∧ b = w ++ (pair ++ v) := by
  have hhead : ∀ t : Text, (pair ++ t).head? ≠ some '\n' := by simp [pair]
  rcases List.append_eq_append_iff.mp h with ⟨w, rfl, hw⟩ | ⟨w, rfl, hw⟩
  · rcases cases_pair_append hw (hhead v) with ⟨rfl, hb⟩ | ⟨w', rfl, rfl⟩
    · exact .inr (.inl ⟨List.append_nil a, List.append_cancel_left hb⟩)
    · exact .inr (.inr ⟨w', rfl, rfl⟩)
  · rcases cases_pair_append hw (hhead b) with ⟨rfl, hv⟩ | ⟨w', rfl, rfl⟩
    · exact .inr (.inl ⟨(List.append_nil u).symm, (List.append_cancel_left hv).symm⟩)
    · exact .inl ⟨w', rfl, rfl⟩

/-- A pair of a text stands in front of two braces of one line or behind them. -/
theorem cases_braces (hm : '\n' ∉ m) (h : a ++ (braces m ++ b) = u ++ (pair ++ v)) :
    (∃ w, a = u ++ (pair ++ w) ∧ v = w ++ (braces m ++ b)) ∨
      ∃ w, u = a ++ (braces m ++ w) ∧ b = w ++ (pair ++ v) := by
  rcases List.append_eq_append_iff.mp h with ⟨w, rfl, hw⟩ | ⟨w, rfl, hw⟩
  · rcases List.append_eq_append_iff.mp hw with ⟨w', rfl, rfl⟩ | ⟨z, hz, hz'⟩
    · exact .inr ⟨w', rfl, rfl⟩
    · -- The pair starts within the braces, but it can neither be in them nor go over their end.
      rcases z with _ | ⟨c, _ | ⟨d, z⟩⟩
      · refine .inr ⟨[], ?_, hz'.symm⟩
        rw [hz, List.append_nil, List.append_nil]
      · obtain ⟨rfl, -⟩ := List.cons.inj hz'
        have hlast := congrArg List.getLast? hz
        rw [getLast?_braces, List.getLast?_concat] at hlast
        cases hlast
      · simp only [pair, List.cons_append, List.nil_append, List.cons.injEq] at hz'
        obtain ⟨-, rfl, -⟩ := hz'
        exact absurd (hz ▸ by simp) (newline_not_mem_braces hm)
  · rcases cases_pair_append hw (by simp [braces]) with ⟨-, hbrace⟩ | ⟨w', rfl, rfl⟩
    · cases hbrace
    · exact .inl ⟨w', rfl, rfl⟩

/-- A pair stays together in an edited text. What stands before it is as it was or is edited, and so
is what stands behind it. -/
theorem LineEdit.exists_pair (h : LineEdit t u) (ht : t = before ++ (pair ++ after)) :
    ∃ before' after', u = before' ++ (pair ++ after') ∧
      Relation.ReflGen LineEdit before before' ∧ Relation.ReflGen LineEdit after after' := by
  cases h with
  | relisted front inner inner' back h h' =>
    rcases cases_braces h ht with ⟨w, rfl, rfl⟩ | ⟨w, rfl, rfl⟩
    · refine ⟨before, w ++ (braces inner' ++ back), by simp, .refl, .single ?_⟩
      exact .relisted w inner inner' back h h'
    · refine ⟨front ++ (braces inner' ++ w), after, by simp, .single ?_, .refl⟩
      exact .relisted front inner inner' w h h'
  | first line t h =>
    subst ht
    exact ⟨line ++ (pair ++ before), after, by simp, .single (.first line before h), .refl⟩
  | last t line h =>
    subst ht
    exact ⟨before, after ++ (pair ++ line), by simp, .refl, .single (.last after line h)⟩
  | between front line back h =>
    rcases cases_pairs ht with ⟨w, rfl, rfl⟩ | ⟨rfl, rfl⟩ | ⟨w, rfl, rfl⟩
    · refine ⟨before, w ++ (pair ++ (line ++ (pair ++ back))), by simp, .refl, .single ?_⟩
      exact .between w line back h
    · -- The line is put in behind this very pair, so it counts to the text in front of a pair.
      refine ⟨before ++ (pair ++ line), after, by simp, .single ?_, .refl⟩
      exact .last before line h
    · refine ⟨front ++ (pair ++ (line ++ (pair ++ w))), after, by simp, .single ?_, .refl⟩
      exact .between front line w h

/-! ### Many edits -/

theorem LineEndsKept.refl (h : Paired t) (hmem : '\n' ∈ t) : LineEndsKept t t where
  mem := hmem
  paired := h
  pairs := fun before after ht => ⟨before, after, ht, .refl, .refl⟩

/-- Line ends that are kept twice are kept. -/
theorem LineEndsKept.trans (h : LineEndsKept t u) (h' : LineEndsKept u v) : LineEndsKept t v where
  mem := h'.mem
  paired := h'.paired
  pairs := by
    intro before after ht
    obtain ⟨before', after', hu, hbefore, hafter⟩ := h.pairs before after ht
    obtain ⟨before₂, after₂, hv, hbefore₂, hafter₂⟩ := h'.pairs before' after' hu
    exact ⟨before₂, after₂, hv, hbefore.trans hbefore₂, hafter.trans hafter₂⟩

/-- An edit keeps the line ends. -/
theorem LineEdit.lineEndsKept (h : LineEdit t u) (ht : Paired t) (hmem : '\n' ∈ t) :
    LineEndsKept t u where
  mem := by
    obtain ⟨before, after, heq⟩ := exists_pair_of_mem ht hmem
    obtain ⟨before', after', rfl, -, -⟩ := h.exists_pair heq
    simp [pair]
  paired := h.paired ht
  pairs := by
    intro before after heq
    obtain ⟨before', after', hu, hbefore, hafter⟩ := h.exists_pair heq
    exact ⟨before', after', hu, hbefore.to_reflTransGen, hafter.to_reflTransGen⟩

end

/-! ### Names that are added -/

section

variable {hosts : List Host} {content new : Text} {module : String} {required : Names}
  {block : Block} {i : Nat}

theorem lineEnd_of_paired (h : Paired content) (hmem : '\n' ∈ content) :
    content.lineEnd = pair := by
  obtain ⟨before, after, heq⟩ := exists_pair_of_mem h hmem
  have hpart : hasPart ['\r', '\n'] content = true :=
    hasPart_iff.mpr ⟨before, after, by simp [heq, pair]⟩
  rw [lineEnd, if_pos hpart]
  rfl

/-- A line is put in between two lines of such a text, in front of it or behind it. -/
theorem LineEdit.of_lineAdded {line : Text} (h : LineAdded content new line) (hline : '\n' ∉ line)
    (hpaired : Paired content) (hmem : '\n' ∈ content) : LineEdit content new := by
  have hend := lineEnd_of_paired hpaired hmem
  cases h with
  | first hnew =>
    rw [hnew, hend]
    exact .first line content hline
  | below before after hcontent hafter hwhole hnew =>
    rw [hnew, hend]
    rcases hafter with rfl | ⟨lineEnd, more, rfl | rfl, rfl⟩
    · rw [List.append_nil] at hcontent ⊢
      subst hcontent
      exact .last content line hline
    · -- A line feed alone would have a carriage return in front of it, which was not cut off.
      exact absurd (hpaired before more hcontent) (hwhole rfl)
    · subst hcontent
      exact .between before line more hline
  | last hcontent hnew => exact absurd hmem hcontent.2

theorem newline_not_mem_listText {symbols : List String}
    (h : ∀ x ∈ symbols, isIdentifier x.toList = true) : '\n' ∉ listText symbols :=
  not_mem_listText h (by decide) (by decide) (by decide)

/-- A list that is written anew stands between two braces of one line. -/
theorem lineEdit_text_add (hblock : (Outline.read content).blockAt? i = some block)
    (h : ∀ x ∈ required, isIdentifier x.toList = true) :
    Relation.ReflGen LineEdit content (block.add required).text := by
  obtain ⟨lead, s, b, he, hclause, hplain, hof⟩ := Outline.blockAt?_eq_some_iff.mp hblock
  have htext : block.text = content := by
    rw [hof, Outline.text_blockOf he hclause, Outline.text_read]
  rcases Outline.add_cases hblock h with ⟨-, hadd, -⟩ | ⟨symbols, hadd, hident, -⟩
  · rw [hadd, htext]
  · rw [hadd, ← htext]
    -- A clause with a list to edit is on one line, and so is the list that is written.
    have hinner : '\n' ∉ b.inner := by
      intro hmem
      apply hplain.newline
      rw [Braced.clause]
      simp [hmem]
    have hinner' : '\n' ∉ ' ' :: listText symbols ++ [' '] := by
      simpa using newline_not_mem_listText hident
    apply Relation.ReflGen.single
    have hedit := LineEdit.relisted
      (Outline.flat ((Outline.read content).entries.take i) ++ lead ++ (s.indent ++ importWord) ++
        b.before) b.inner (' ' :: listText symbols ++ [' '])
      (b.after ++ fromWord ++ s.tail ++
        (Outline.flat ((Outline.read content).entries.drop (i + 1)) ++ (Outline.read content).rest))
      hinner hinner'
    simpa [hof, Outline.blockOf, Block.text, Block.relist, braces] using hedit

theorem newline_not_mem_importText {quote : Char} (hquote : isQuote quote = true)
    (semicolon : Bool) {module : String} (hmodule : '\n' ∉ module.toList) {symbols : List String}
    (h : ∀ x ∈ symbols, isIdentifier x.toList = true) :
    '\n' ∉ importText quote semicolon module symbols := by
  have hne : '\n' ≠ quote := by
    rintro rfl
    cases hquote
  have hlist := newline_not_mem_listText h
  cases semicolon <;> simp [importText, importWord, fromWord, hlist, hmodule, hne]

/-- One call writes a list anew or puts a line in, or it leaves the text as it is. -/
theorem AddsNames.lineEdit (h : AddsNames content new) (hpaired : Paired content)
    (hmem : '\n' ∈ content) : Relation.ReflGen LineEdit content new := by
  obtain ⟨hosts, module, required, hmodule, hrequired, hensure⟩ := h
  by_cases hne : required = []
  · subst hne
    cases hensure
    exact .refl
  obtain ⟨block, hslot, rfl⟩ := exists_slot_of_ensure hne hrequired hensure
  -- The names join a list of the text, or they are the list of a new line.
  rcases slot_eq_ok hslot with ⟨i, hblock⟩ | rfl
  · exact lineEdit_text_add hblock hrequired
  · rw [← insert_eq_text_add hne hrequired, insert_eq_insertLine]
    apply Relation.ReflGen.single
    apply LineEdit.of_lineAdded (lineAdded_insertLine content _) _ hpaired hmem
    apply newline_not_mem_importText (isQuote_newQuote content) _ hmodule
    intro x hx
    exact hrequired x (mem_sortSymbols.mp hx)

/-! ### Any number of calls -/

/-- A call keeps the line ends. -/
theorem AddsNames.lineEndsKept (h : AddsNames content new) (hpaired : Paired content)
    (hmem : '\n' ∈ content) : LineEndsKept content new := by
  rcases h.lineEdit hpaired hmem with _ | hedit
  · exact .refl hpaired hmem
  · exact hedit.lineEndsKept hpaired hmem

/-- A text in which every line feed stands behind a carriage return stays such a text, and none of
its pairs is split, when names are added to it in any number of calls. -/
theorem lineEndsKept_of_addsNames (h : Relation.ReflTransGen AddsNames content new)
    (hpaired : Paired content) (hmem : '\n' ∈ content) : LineEndsKept content new := by
  -- The induction is on the calls: what one of them leaves is a text that the next may take.
  induction h with
  | refl => exact .refl hpaired hmem
  | tail _ hcall ih => exact ih.trans (hcall.lineEndsKept ih.paired ih.mem)

end

/-- Names that join a list, and then an import behind a last line that has no end. -/
theorem lineEndsKept_of_addsNames_twice :
    ensure [] "import { b } from 'm'\r\nimport { c } from 'n'".toList "m" ["a"] =
        .ok "import { a, b } from 'm'\r\nimport { c } from 'n'".toList ∧
      ensure [] "import { a, b } from 'm'\r\nimport { c } from 'n'".toList "o" ["d"] =
        .ok "import { a, b } from 'm'\r\nimport { c } from 'n'\r\nimport { d } from 'o'".toList ∧
      LineEndsKept "import { b } from 'm'\r\nimport { c } from 'n'".toList
        "import { a, b } from 'm'\r\nimport { c } from 'n'\r\nimport { d } from 'o'".toList := by
  have hfirst : ensure [] "import { b } from 'm'\r\nimport { c } from 'n'".toList "m" ["a"] =
      .ok "import { a, b } from 'm'\r\nimport { c } from 'n'".toList := by
    simp only [ensure, merge, insert, sortSymbols_eq_insertionSort]
    decide +kernel
  have hsecond : ensure [] "import { a, b } from 'm'\r\nimport { c } from 'n'".toList "o" ["d"] =
      .ok "import { a, b } from 'm'\r\nimport { c } from 'n'\r\nimport { d } from 'o'".toList := by
    decide +kernel
  have hpaired : Paired ("import { b } from 'm'".toList ++
      (pair ++ "import { c } from 'n'".toList)) :=
    paired_append_pair.mpr ⟨paired_of_not_mem (by decide), paired_of_not_mem (by decide)⟩
  have hcalls : Relation.ReflTransGen AddsNames
      "import { b } from 'm'\r\nimport { c } from 'n'".toList
      "import { a, b } from 'm'\r\nimport { c } from 'n'\r\nimport { d } from 'o'".toList :=
    .tail (.single ⟨[], "m", ["a"], by decide, by decide, hfirst⟩)
      ⟨[], "o", ["d"], by decide, by decide, hsecond⟩
  exact ⟨hfirst, hsecond, lineEndsKept_of_addsNames hcalls hpaired (by decide)⟩

end DesignTokens.Import
