import DesignTokens.Proofs.Import.Editable
import DesignTokens.Proofs.Scan.Comments
import DesignTokens.Proofs.Text.FirstLine

/-! # Where statements start

A statement that cannot be edited starts on a line of its own, and stays on it when names of other
modules are added to the text: a list that takes names is on one line before and after, and a new
statement goes below the last line that a statement ends on. The line keeps its number and, but for
blanks at its end, its text.

## Main definitions

* `Import.Starts` - a statement of a module that cannot be edited starts on a line

## Main results

* `Import.starts_of_findBlock` - an error names a line where a statement starts
* `Import.Starts.growth` - the line stays when names are added
* `Import.Starts.exists_line` - the line in the text
-/

namespace DesignTokens.Import

open Character Text

/-- A statement of a module that cannot be edited starts on the line with a number. The text of the
line without the blanks around it is `snippet`. -/
inductive Starts (content : Text) (module : String) (number : Nat) (snippet : Text) : Prop where
  | mk (front back : List (Text × Statement)) (lead : Text) (s : Statement)
    (hentries : (Outline.read content).entries = front ++ (lead, s) :: back)
    (hmodule : s.module = module.toList) (hedit : s.isEditable = false)
    (hnumber : number = lineFeeds (Outline.flat front ++ lead) + 1)
    (hsnippet : snippet = trim (firstLine
      (s.text ++ (Outline.flat back ++ (Outline.read content).rest))))

variable {content new : Text} {module other : String} {number : Nat} {snippet : Text}
  {required : Names} {front back : List (Text × Statement)} {lead : Text} {s : Statement}

/-! ### Statements among others -/

theorem Outline.Linked.of_append {entries : List (Text × Statement)} {rest : Text}
    (h : Outline.Linked (front ++ entries) rest) : Outline.Linked entries rest := by
  induction front with
  | nil => exact h
  | cons entry front ih =>
    obtain ⟨lead, s⟩ := entry
    exact ih h.2.2.2

/-- A line feed stands in front of every statement but the first. -/
theorem Outline.Linked.newline {rest : Text}
    (h : Outline.Linked (front ++ (lead, s) :: back) rest) (hne : front ≠ []) :
    lead.getLast? = some '\n' := by
  induction front with
  | nil => exact absurd rfl hne
  | cons entry front ih =>
    obtain ⟨own, t⟩ := entry
    cases front with
    | nil => exact h.2.2.1 (lead, s) rfl
    | cons entry' front => exact ih h.2.2.2 (by simp)

/-- In front of a statement there are whole lines. -/
theorem wholeLines_of_entries
    (h : (Outline.read content).entries = front ++ (lead, s) :: back) :
    WholeLines (Outline.flat front ++ lead) := by
  obtain ⟨hlinked, hfirst⟩ := Outline.started_read content
  rw [h] at hlinked hfirst
  cases front with
  | nil =>
    rw [Outline.flat_nil, List.nil_append]
    exact wholeLines_iff.mpr (hfirst (lead, s) rfl)
  | cons entry front =>
    refine .inr ?_
    rw [List.getLast?_append, hlinked.newline (by simp)]
    rfl

/-- A line feed stands behind a statement with others after it, in front of the next one. -/
theorem newline_mem_of_entries {entry : Text × Statement}
    (h : (Outline.read content).entries = front ++ (lead, s) :: entry :: back) :
    '\n' ∈ entry.1 := by
  obtain ⟨hlinked, -⟩ := Outline.started_read content
  rw [h] at hlinked
  have hnext := hlinked.of_append.2.2.1 entry rfl
  exact List.mem_of_getLast? hnext

/-! ### A line where a statement starts -/

theorem getElem?_statements (front : List (Text × Statement)) (lead : Text) (s : Statement)
    (h : (Outline.read content).entries = front ++ (lead, s) :: back) :
    (statements content)[front.length]? = some ⟨Outline.flat front ++ lead, s,
      Outline.flat back ++ (Outline.read content).rest⟩ := by
  rw [statements, Outline.placed, getElem?_placeFrom, h]
  simp

/-- A statement of a text is that of an entry of its outline. -/
theorem exists_entries_of_mem_statements {p : Placed} (h : p ∈ statements content) :
    ∃ front back lead, (Outline.read content).entries = front ++ (lead, p.statement) :: back ∧
      p.before = Outline.flat front ++ lead ∧
      p.after = Outline.flat back ++ (Outline.read content).rest := by
  obtain ⟨i, hi⟩ := List.getElem?_of_mem h
  rw [statements, Outline.placed, getElem?_placeFrom] at hi
  obtain ⟨⟨lead, s⟩, hentry, rfl⟩ := Option.map_eq_some_iff.mp hi
  obtain ⟨hlt, heq⟩ := List.getElem?_eq_some_iff.mp hentry
  refine ⟨(Outline.read content).entries.take i, (Outline.read content).entries.drop (i + 1), lead,
    ?_, by simp, rfl⟩
  rw [← heq, List.getElem_cons_drop, List.take_append_drop]

theorem isBlank_of_mem_importWord : ∀ c ∈ importWord, isBlank c = false := by
  have hall : importWord.all (!isBlank ·) = true := by decide
  intro c hc
  exact (Bool.not_eq_true' _).mp (List.all_eq_true.mp hall c hc)

/-- The line in the text where a statement starts. -/
theorem Starts.exists_line (h : Starts content module number snippet) :
    ∃ line, (lines content)[number - 1]? = some line ∧ 1 ≤ number ∧ snippet = trim line ∧
      importWord <+: trim line ∧ ∃ p ∈ statements content, p.statement.module = module.toList ∧
        lineAt content p.span.start = number := by
  obtain ⟨front, back, lead, s, hentries, hmodule, -, rfl, rfl⟩ := h
  have hp := List.mem_of_getElem? (getElem?_statements front lead s hentries)
  have htext := text_of_mem_statements hp
  dsimp only at htext
  have hne : s.text ++ (Outline.flat back ++ (Outline.read content).rest) ≠ [] := by
    simp [Statement.text, importWord]
  obtain ⟨line, hline, htrim⟩ := exists_line_of_wholeLines (wholeLines_of_entries hentries) hne
  rw [htext] at hline
  refine ⟨line, by simpa using hline, by omega, htrim.symm, ?_, _, hp, hmodule, ?_⟩
  · -- The line starts with the beginning of the statement, which has no line feed in it.
    have hmem : (lead, s) ∈ (Outline.read content).entries := hentries ▸ by simp
    have hvalid : s.Valid := Outline.valid_of_mem_read hmem
    rw [htrim, Statement.text, List.append_assoc, List.append_assoc, ← List.append_assoc,
      firstLine_append_of_not_mem hvalid.newline_not_mem_start, List.append_assoc]
    refine prefix_trim ?_ isBlank_of_mem_importWord (by decide)
    exact fun c hc => Statement.isBlank_of_isIndent (hvalid.indent c hc)
  · rw [lineAt, Placed.span, ← htext, takeBytes_append]

/-- An error names a line where a statement starts. -/
theorem starts_of_findBlock {e : Error} (h : findBlock content module = .error e) :
    ∃ line, (lines content)[e.line - 1]? = some line ∧
      Starts content module e.line (trim line) := by
  -- There is an error only where no import of the module can be edited, and it names the first.
  rcases findBlock_cases_editable content module with ⟨-, hnone⟩ |
    ⟨p, back, shape, heq, hnot, herror⟩ | ⟨_, _, _, _, -, -, -, hsome⟩
  · cases h.symm.trans hnone
  · obtain rfl := Except.error.inj (h.symm.trans herror)
    have hmem : p ∈ valueImports content module := heq ▸ List.mem_cons_self
    obtain ⟨hp, hmodule, -⟩ := mem_valueImports.mp hmem
    obtain ⟨front, back, lead, hentries, hbefore, hafter⟩ := exists_entries_of_mem_statements hp
    have hedit : p.statement.isEditable = false := by
      rw [← isOk_block, ← Bool.not_eq_true, isOk_block_iff]
      exact hnot p hmem
    have hstarts := Starts.mk front back lead p.statement hentries hmodule hedit rfl rfl
    obtain ⟨line, hline, -, hsnippet, -⟩ := hstarts.exists_line
    rw [hsnippet, ← hbefore] at hstarts
    rw [← hbefore] at hline
    exact ⟨line, hline, hstarts⟩
  · cases h.symm.trans hsome

/-! ### Where names are added -/

/-- A list on one line has as many line feeds as before with other names: none. -/
theorem lineFeeds_relist {b : Braced} {symbols : List String} (hclause : s.clause = some b.clause)
    (hplain : b.Plain) (h : ∀ x ∈ symbols, isIdentifier x.toList = true) :
    lineFeeds (s.relist b symbols).text = lineFeeds s.text := by
  have hnone : (b.relist symbols).clause.count '\n' = 0 :=
    List.count_eq_zero.mpr
      (not_mem_relist_clause h (by decide) (by decide) (by decide) hplain.newline)
  have hnone' : b.clause.count '\n' = 0 := List.count_eq_zero.mpr hplain.newline
  have htail : (s.relist b symbols).tail = s.tail := rfl
  have hindent : (s.relist b symbols).indent = s.indent := rfl
  have hrelist : (s.relist b symbols).clause = some (b.relist symbols).clause := rfl
  rw [lineFeeds, lineFeeds, Statement.text, Statement.text, htail, hindent, hrelist, hclause]
  simp only [Statement.clauseText, List.count_append, hnone, hnone']

/-- What comes behind the lead of the next statement is not on the line of a statement. -/
theorem firstLine_flat (u : Text) {entry : Text × Statement} (h : '\n' ∈ entry.1)
    (back : List (Text × Statement)) (rest : Text) :
    firstLine (u ++ (Outline.flat (entry :: back) ++ rest)) = firstLine (u ++ entry.1) := by
  have hmem : '\n' ∈ u ++ entry.1 := List.mem_append_right u h
  rw [Outline.flat_cons, ← firstLine_append_of_mem hmem
    (entry.2.text ++ (Outline.flat back ++ rest))]
  simp

/-- A new statement goes below the line that the last one ends on. -/
theorem trim_firstLine_insertionPoint (u v : Text) (hne : (Outline.read content).entries ≠ []) :
    trim (firstLine (u ++ ((insertionPoint content).1 ++ v))) =
      trim (firstLine (u ++ (Outline.read content).rest)) := by
  rw [insertionPoint, if_neg hne]
  split
  · rename_i first rest hsplit
    obtain ⟨lineEnd, below, hend, hrest, rfl, -⟩ := exists_lineEnd_of_splitLineEnd? hsplit
    rw [hrest, ← List.append_assoc u first, trim_firstLine_append _ hend, List.append_assoc,
      ← List.append_assoc u first, trim_firstLine_append _ (lineEnd_cases content)]
  · rw [List.append_assoc, ← List.append_assoc u, trim_firstLine_append _ (lineEnd_cases content)]

/-- The line of a statement does not depend on what comes behind the lead of the next one. -/
theorem firstLine_relisted {lead₀ : Text} {s₀ s₁ : Statement} {w back₀ : List (Text × Statement)}
    (h : (Outline.read content).entries = front ++ (lead, s) :: (w ++ (lead₀, s₀) :: back₀))
    (rest : Text) :
    firstLine (s.text ++ (Outline.flat (w ++ (lead₀, s₁) :: back₀) ++ rest)) =
      firstLine (s.text ++ (Outline.flat (w ++ (lead₀, s₀) :: back₀) ++ rest)) := by
  cases w with
  | nil =>
    have hmem : '\n' ∈ lead₀ := newline_mem_of_entries h
    have hflat : ∀ t : Statement, firstLine (s.text ++
      (Outline.flat ((lead₀, t) :: back₀) ++ rest)) =
        firstLine (s.text ++ lead₀) :=
      fun t => @firstLine_flat s.text (lead₀, t) hmem back₀ rest
    rw [List.nil_append, List.nil_append, hflat, hflat]
  | cons entry w =>
    have hmem : '\n' ∈ entry.1 := newline_mem_of_entries h
    rw [List.cons_append, List.cons_append, firstLine_flat _ hmem, firstLine_flat _ hmem]

/-- Another statement in place of one that can be edited, with as many line feeds, leaves the line
where a statement starts. -/
theorem Starts.replaced {lead₀ : Text} {s₀ s₁ : Statement} {front₀ back₀ : List (Text × Statement)}
    (h : Starts content module number snippet)
    (hentries₀ : (Outline.read content).entries = front₀ ++ (lead₀, s₀) :: back₀)
    (hnew : (Outline.read new).entries = front₀ ++ (lead₀, s₁) :: back₀)
    (hrest : (Outline.read new).rest = (Outline.read content).rest)
    (hedit₀ : s₀.isEditable = true) (hfeeds : lineFeeds s₁.text = lineFeeds s₀.text) :
    Starts new module number snippet := by
  obtain ⟨front, back, lead, s, hentries, hmodule, hedit, rfl, rfl⟩ := h
  have hother : s ≠ s₀ := by
    rintro rfl
    rw [hedit₀] at hedit
    cases hedit
  rcases append_eq_append_cons (hentries.symm.trans hentries₀) with ⟨w, rfl, rfl⟩ | ⟨w, rfl, hw⟩
  · -- The other statement comes before and keeps the number of the line.
    refine ⟨front₀ ++ (lead₀, s₁) :: w, back, lead, s, ?_, hmodule, hedit, ?_, ?_⟩
    · rw [hnew, List.append_assoc]
      rfl
    · rw [lineFeeds, lineFeeds] at hfeeds
      simp only [lineFeeds, Outline.flat_append, Outline.flat_cons, List.count_append, hfeeds]
    · rw [hrest]
  · cases w with
    | nil =>
      cases hw
      exact absurd rfl hother
    | cons entry w =>
      -- The other statement comes later, behind the lead of the next one.
      rw [List.cons_append] at hw
      obtain ⟨rfl, rfl⟩ := List.cons.inj hw
      refine ⟨front, w ++ (lead₀, s₁) :: back₀, lead, s, ?_, hmodule, hedit, rfl, ?_⟩
      · rw [hnew, List.append_assoc]
        rfl
      · rw [hrest]
        exact congrArg trim (firstLine_relisted hentries _).symm

/-- A new statement leaves the line where a statement starts. -/
theorem Starts.inserted (h : Starts content module number snippet)
    (hread : Outline.read new = withStatement content (newStatement content other required)) :
    Starts new module number snippet := by
  obtain ⟨front, back, lead, s, hentries, hmodule, hedit, rfl, rfl⟩ := h
  have hne : (Outline.read content).entries ≠ [] := by simp [hentries]
  refine ⟨front, back ++ [((insertionPoint content).1, newStatement content other required)], lead,
    s, ?_, hmodule, hedit, rfl, ?_⟩
  · rw [hread, withStatement, hentries, List.append_assoc]
    rfl
  · -- Behind the last statement the new one starts below its line; another one keeps its own.
    rw [hread, withStatement]
    cases back with
    | nil =>
      rw [List.nil_append, Outline.flat_cons, Outline.flat_nil, List.nil_append, List.append_nil,
        List.append_assoc, trim_firstLine_insertionPoint s.text _ hne]
    | cons entry back =>
      have hmem : '\n' ∈ entry.1 := newline_mem_of_entries hentries
      rw [List.cons_append, firstLine_flat _ hmem, firstLine_flat _ hmem]

/-- The line where a statement starts stays when names are added. -/
theorem Starts.growth (h : Starts content module number snippet)
    (hgrowth : Growth content new other required) : Starts new module number snippet := by
  cases hgrowth with
  | same heq => exact heq ▸ h
  | relisted i lead₀ s₀ b symbols he hclause hplain hident _ _ hread =>
    obtain ⟨front₀, back₀, hentries₀, hset⟩ := exists_front_more he
    have hnew : (Outline.read new).entries = front₀ ++ (lead₀, s₀.relist b symbols) :: back₀ := by
      rw [hread]
      exact hset _
    have hrest : (Outline.read new).rest = (Outline.read content).rest := by
      rw [hread]
      rfl
    exact h.replaced hentries₀ hnew hrest (isEditable_of_plain hclause hplain)
      (lineFeeds_relist hclause hplain hident)
  | inserted hnone hread => exact h.inserted hread

end DesignTokens.Import
