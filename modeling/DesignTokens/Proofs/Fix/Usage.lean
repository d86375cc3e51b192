import DesignTokens.Fix
import DesignTokens.Proofs.Import.Growth
import DesignTokens.Proofs.Text.FirstLine

/-! # Where names are used

A name is used on a line that starts outside all imports. Such lines stand before the first import,
between the line that one import ends on and the next import, and below the line that the last one
ends on. What is done to imports does not touch them, so a name is used in a text with imports added
exactly if it was used before.

## Main definitions

* `Import.Outline.outside` - the texts made of the lines that start outside all imports
* `Fix.usedIn` - whether a name is used on a line of a text that has no imports

## Main results

* `Fix.isUsed_eq_any_outside` - a name is used in a text if it is on one of these lines
* `Fix.isUsed_growth` - adding names to imports does not change what is used
-/

namespace DesignTokens

open Text

namespace Import.Outline

/-- The texts between the imports. -/
def gaps (o : Outline) : List Text :=
  o.entries.map (·.1) ++ [o.rest]

/-- The texts made of the lines that start outside all imports: what follows an import on its last
line is not among them. -/
def outside (o : Outline) : List Text :=
  match o.gaps with
  | [] => []
  | first :: more => first :: more.map below

/-- An outline without its first line, which has no import. -/
def belowFirst : Outline → Outline
  | ⟨[], rest⟩ => ⟨[], below rest⟩
  | ⟨(lead, s) :: more, rest⟩ => ⟨(below lead, s) :: more, rest⟩

theorem outside_nil (rest : Text) : outside ⟨[], rest⟩ = [rest] := rfl

theorem outside_cons (lead : Text) (s : Statement) (more : List (Text × Statement)) (rest : Text) :
    outside ⟨(lead, s) :: more, rest⟩ = lead :: outside (belowFirst ⟨more, rest⟩) := by
  cases more <;> rfl

/-- A text that starts within a line has no line feed, or it has a first line with no import on it.
-/
theorem text_belowFirst {entries : List (Text × Statement)}
    (h : ∀ e ∈ entries.head?, e.1.getLast? = some '\n') (rest : Text) :
    (entries = [] ∧ '\n' ∉ rest) ∨ ∃ line, '\n' ∉ line ∧
      (mk entries rest).text = line ++ '\n' :: (belowFirst ⟨entries, rest⟩).text ∧
      ∀ offset, spansFrom offset entries =
        spansFrom (offset + byteSize (line ++ ['\n'])) (belowFirst ⟨entries, rest⟩).entries := by
  cases entries with
  | nil =>
    rcases line_cases rest with hnot | ⟨line, below, rfl, hline⟩
    · exact .inl ⟨rfl, hnot⟩
    · exact .inr ⟨line, hline, by simp [text, belowFirst, below_line hline], fun _ => rfl⟩
  | cons e more =>
    obtain ⟨lead, s⟩ := e
    rcases line_cases lead with hnot | ⟨line, below, rfl, hline⟩
    · exact absurd (List.mem_of_getLast? (h (lead, s) rfl)) hnot
    · refine .inr ⟨line, hline, by simp [text, belowFirst, below_line hline], fun offset => ?_⟩
      simp [belowFirst, below_line hline, spansFrom, byteSize, Nat.add_assoc]

/-- What an outline that starts within a line has in common with what is below its first line. -/
theorem started_belowFirst (entries : List (Text × Statement)) (rest : Text)
    (h : (mk entries rest).Broken) : (belowFirst ⟨entries, rest⟩).Started := by
  cases entries with
  | nil => exact ⟨trivial, by simp [belowFirst]⟩
  | cons e more =>
    obtain ⟨lead, s⟩ := e
    refine ⟨h.1, ?_⟩
    rintro e ⟨⟩ c hc
    have hlast := h.2 (lead, s) rfl
    rcases line_cases lead with hnot | ⟨line, below, rfl, hline⟩
    · rw [below_of_not_mem hnot] at hc
      cases hc
    · rw [below_line hline] at hc
      rw [List.getLast?_append, List.getLast?_cons] at hlast
      rw [hc] at hlast
      simpa using hlast

theorem length_belowFirst (o : Outline) : o.belowFirst.entries.length = o.entries.length := by
  obtain ⟨entries, rest⟩ := o
  cases entries <;> rfl

/-- Only the texts between the imports matter. -/
theorem outside_congr {o o' : Outline} (h : o'.gaps = o.gaps) : o'.outside = o.outside := by
  rw [outside, outside, h]

end Import.Outline

namespace Fix

open Import

section

variable {usage : UsageImport} {spans : List Span} {offset : Nat} {content new : Text}

/-- Whether a name is used on a line, outside comments. -/
def usedOn (usage : UsageImport) (raw : Text) : Bool :=
  let line := dropEndWhile (fun c => c = '\n' || c = '\r') raw
  (usage.usedAt? line).any fun at_ => !Scan.isCommented line at_

/-- Whether a name is used on a line of a text that has no imports. -/
def usedIn (usage : UsageImport) (t : Text) : Bool :=
  (rawLines t).any (usedOn usage)

theorem isUsedFrom_cons (raw : Text) (more : List Text) :
    isUsedFrom usage spans offset (raw :: more) =
      (!spans.any (·.contains offset) && usedOn usage raw ||
        isUsedFrom usage spans (offset + byteSize raw) more) := rfl

theorem isUsedFrom_append (as bs : List Text) :
    isUsedFrom usage spans offset (as ++ bs) = (isUsedFrom usage spans offset as ||
      isUsedFrom usage spans (offset + byteSize as.flatten) bs) := by
  induction as generalizing offset with
  | nil => simp [isUsedFrom]
  | cons raw as ih =>
    rw [List.cons_append, isUsedFrom_cons, ih, isUsedFrom_cons, List.flatten_cons, byteSize_append,
      Nat.add_assoc, Bool.or_assoc]

theorem contains_eq_true_iff {span : Span} :
    span.contains offset = true ↔ span.start ≤ offset ∧ offset < span.stop := by
  simp [Span.contains]

/-- Lines that start outside all spans. -/
theorem isUsedFrom_eq_any {raws : List Text} (hne : ∀ raw ∈ raws, raw ≠ [])
    (h : ∀ span ∈ spans, span.stop ≤ offset ∨ offset + byteSize raws.flatten ≤ span.start) :
    isUsedFrom usage spans offset raws = raws.any (usedOn usage) := by
  induction raws generalizing offset with
  | nil => rfl
  | cons raw raws ih =>
    have hpos := byteSize_pos (hne raw List.mem_cons_self)
    rw [List.flatten_cons, byteSize_append] at h
    have hfree : spans.any (·.contains offset) = false := by
      rw [List.any_eq_false]
      intro span hspan hcontains
      rw [contains_eq_true_iff] at hcontains
      rcases h span hspan with hstop | hstart <;> omega
    -- The spans are before this line or behind it, and so are they for the lines that follow.
    have hspans : ∀ span ∈ spans, span.stop ≤ offset + byteSize raw ∨
        offset + byteSize raw + byteSize raws.flatten ≤ span.start := by
      intro span hspan
      rcases h span hspan with hstop | hstart
      · exact .inl (by omega)
      · exact .inr (by omega)
    rw [isUsedFrom_cons, hfree, ih (fun raw hraw => hne raw (List.mem_cons_of_mem _ hraw)) hspans,
      List.any_cons]
    rfl

/-- A text whose lines start outside all spans. -/
theorem isUsedFrom_of_outside {t : Text} (h : ∀ span ∈ spans,
    span.stop ≤ offset ∨ offset + byteSize t ≤ span.start) :
    isUsedFrom usage spans offset (rawLines t) = usedIn usage t := by
  rw [usedIn]
  refine isUsedFrom_eq_any (fun raw hraw => ne_nil_of_mem_rawLines hraw) ?_
  rwa [flatten_rawLines]

/-- The lines of an import, with what follows it on its last line, start within its span. -/
theorem isUsedFrom_within (usage : UsageImport) {x line : Text} (hx : x ≠ [])
    (hlast : x.getLast? ≠ some '\n') (hline : '\n' ∉ line)
    (hspan : ∃ span ∈ spans, span.start ≤ offset ∧
      offset + byteSize x ≤ span.stop) :
    (∀ rest, isUsedFrom usage spans offset (rawLines (x ++ (line ++ '\n' :: rest))) =
      isUsedFrom usage spans (offset + byteSize (x ++ (line ++ ['\n']))) (rawLines rest)) ∧
    isUsedFrom usage spans offset (rawLines (x ++ line)) = false := by
  induction hn : x.length using Nat.strongRecOn generalizing x offset with
  | _ n ih =>
    obtain ⟨span, hmem, hstart, hstop⟩ := hspan
    have hpos := byteSize_pos hx
    have hwithin : spans.any (·.contains offset) = true :=
      List.any_eq_true.mpr ⟨span, hmem, contains_eq_true_iff.mpr ⟨hstart, by omega⟩⟩
    rcases line_cases x with hnot | ⟨front, more, rfl, hfront⟩
    · -- The import ends on this line.
      have hall : '\n' ∉ x ++ line := by simp [hnot, hline]
      constructor
      · intro rest
        rw [← List.append_assoc, rawLines_line hall, isUsedFrom_cons, hwithin]
        simp
      · rw [rawLines_of_not_mem hall (by simp [hx]), isUsedFrom_cons, hwithin]
        rfl
    · have hne : more ≠ [] := by
        rintro rfl
        simp at hlast
      have hmore : more.getLast? ≠ some '\n' := by
        obtain ⟨c, rest, rfl⟩ := List.exists_cons_of_ne_nil hne
        simpa using hlast
      have hspan : ∃ span ∈ spans, span.start ≤ offset + byteSize (front ++ ['\n']) ∧
          offset + byteSize (front ++ ['\n']) + byteSize more ≤ span.stop :=
        ⟨span, hmem, by omega, by simp [byteSize] at hstop ⊢; omega⟩
      have hnext := ih more.length (by simp at hn; omega) hne hmore hspan rfl
      constructor
      · intro rest
        rw [List.append_assoc, List.cons_append, rawLines_line hfront, isUsedFrom_cons, hwithin,
          hnext.1 rest]
        simp [byteSize, Nat.add_assoc]
      · rw [List.append_assoc, List.cons_append, rawLines_line hfront, isUsedFrom_cons, hwithin,
          hnext.2]
        rfl

/-- Spans start where they are looked for or later. -/
theorem le_start_of_mem_spansFrom {entries : List (Text × Statement)} {span : Span}
    (h : span ∈ spansFrom offset entries) : offset ≤ span.start := by
  induction entries generalizing offset with
  | nil => cases h
  | cons e more ih =>
    obtain ⟨lead, s⟩ := e
    rcases List.mem_cons.mp h with rfl | h
    · exact Nat.le_add_right _ _
    · exact Nat.le_trans (by omega) (ih h)

/-- The lines in front of an import, after imports that end before them. -/
theorem isUsedFrom_lead (usage : UsageImport) {passed : List Span}
    (hpassed : ∀ span ∈ passed, span.stop ≤ offset) (lead : Text) (s : Statement)
    (more : List (Text × Statement)) :
    isUsedFrom usage (passed ++ spansFrom offset ((lead, s) :: more)) offset (rawLines lead) =
      usedIn usage lead := by
  refine isUsedFrom_of_outside fun span hspan => ?_
  rcases List.mem_append.mp hspan with hspan | hspan
  · exact .inl (hpassed span hspan)
  · rcases List.mem_cons.mp hspan with rfl | hspan
    · exact .inr (Nat.le_refl _)
    · exact .inr (Nat.le_trans (by omega) (le_start_of_mem_spansFrom hspan))

/-- The lines of an outline, after imports that end before it. -/
theorem isUsedFrom_text (usage : UsageImport) {entries : List (Text × Statement)} {rest : Text}
    {passed : List Span}
    (hlinked : Outline.Linked entries rest)
    (hfirst : ∀ e ∈ entries.head?, ∀ c ∈ e.1.getLast?, c = '\n')
    (hpassed : ∀ span ∈ passed, span.stop ≤ offset) :
    isUsedFrom usage (passed ++ spansFrom offset entries) offset
        (rawLines (Outline.mk entries rest).text) =
      (Outline.mk entries rest).outside.any (usedIn usage) := by
  -- What is below the line of the first import is an outline too, with one import less, so the
  -- induction is on their number.
  induction hn : entries.length generalizing entries rest passed offset with
  | zero =>
    obtain rfl := List.length_eq_zero_iff.mp hn
    rw [isUsedFrom_of_outside]
    · simp [Outline.text, Outline.outside_nil]
    · intro span hspan
      rw [spansFrom, List.append_nil] at hspan
      exact .inl (hpassed span hspan)
  | succ n ih =>
    obtain ⟨⟨lead, s⟩, more, rfl⟩ := List.exists_cons_of_length_eq_add_one hn
    obtain ⟨hvalid, -, hbreak, hmore⟩ := hlinked
    have hne := s.text_ne_nil
    have hlast : s.text.getLast? ≠ some '\n' := hvalid.getLast?_text_ne (by decide)
    have hlead : rawLines (Outline.mk ((lead, s) :: more) rest).text =
        rawLines lead ++ rawLines (s.text ++ (Outline.mk more rest).text) := by
      rw [← (wholeLines_iff.mpr (hfirst (lead, s) rfl)).rawLines_append]
      simp [Outline.text]
    -- The spans are those passed, that of the first import, and those below.
    let span : Span := ⟨offset + byteSize lead, offset + byteSize lead + byteSize s.text⟩
    have hspans : passed ++ spansFrom offset ((lead, s) :: more) =
        (passed ++ [span]) ++ spansFrom span.stop more := by
      simp [spansFrom, span]
    have hspan : ∃ p ∈ passed ++ spansFrom offset ((lead, s) :: more),
        p.start ≤ offset + byteSize lead ∧ offset + byteSize lead + byteSize s.text ≤ p.stop :=
      ⟨span, by simp [hspans], Nat.le_refl _, Nat.le_refl _⟩
    rw [hlead, isUsedFrom_append, flatten_rawLines, isUsedFrom_lead usage hpassed,
      Outline.outside_cons, List.any_cons]
    congr 1
    rcases Outline.text_belowFirst hbreak rest with ⟨rfl, hrest⟩ | ⟨line, hline, hbelow, hnext⟩
    · have hwithin := (isUsedFrom_within usage hne hlast hrest hspan).2
      simpa [Outline.text, Outline.belowFirst, below_of_not_mem hrest, Outline.outside_nil,
        usedIn] using hwithin
    · rw [hbelow, (isUsedFrom_within usage hne hlast hline hspan).1, hspans, hnext]
      have hstop : offset + byteSize lead + byteSize (s.text ++ (line ++ ['\n'])) =
          span.stop + byteSize (line ++ ['\n']) := by
        simp only [span, byteSize_append, Nat.add_assoc]
      have hpassed' : ∀ p ∈ passed ++ [span], p.stop ≤ span.stop + byteSize (line ++ ['\n']) := by
        intro p hp
        rcases List.mem_append.mp hp with hp | hp
        · exact Nat.le_trans (hpassed p hp) (by simp only [span]; omega)
        · rw [List.mem_singleton.mp hp]
          exact Nat.le_add_right _ _
      have hstarted := Outline.started_belowFirst more rest ⟨hmore, hbreak⟩
      have hlength : (Outline.belowFirst ⟨more, rest⟩).entries.length = n := by
        rw [Outline.length_belowFirst]
        simpa using hn
      rw [hstop]
      exact ih hstarted.1 hstarted.2 hpassed' hlength

/-- A name is used in a text if it is on a line that starts outside all imports. -/
theorem isUsed_eq_any_outside (usage : UsageImport) (t : Text) :
    isUsed usage t = (Outline.read t).outside.any (usedIn usage) := by
  obtain ⟨hlinked, hfirst⟩ := Outline.started_read t
  have htext : (Outline.mk (Outline.read t).entries (Outline.read t).rest).text = t :=
    Outline.text_read t
  have hpassed : ∀ span ∈ ([] : List Span), span.stop ≤ 0 := by simp
  have hfrom := isUsedFrom_text usage hlinked hfirst hpassed
  rwa [htext] at hfrom

/-! ### Imports that are added -/

/-- The end of a line does not matter. -/
theorem usedIn_line (usage : UsageImport) {first lineEnd : Text}
    (h : lineEnd = ['\n'] ∨ lineEnd = ['\r', '\n'])
    (hfirst : '\n' ∉ first) (rest : Text) :
    usedIn usage (first ++ (lineEnd ++ rest)) = (usedOn usage first || usedIn usage rest) := by
  have hends : usedOn usage (first ++ lineEnd) = usedOn usage first := by
    have hdrop : dropEndWhile (fun c => c = '\n' || c = '\r') (first ++ lineEnd) =
        dropEndWhile (fun c => c = '\n' || c = '\r') first := by
      rcases h with rfl | rfl <;> simp [dropEndWhile]
    simp only [usedOn, hdrop]
  rw [← hends, usedIn, usedIn]
  rcases h with rfl | rfl
  · rw [List.singleton_append, rawLines_line hfirst, List.any_cons]
  · have hcr : '\n' ∉ first ++ ['\r'] := by simp [hfirst]
    have htext : first ++ (['\r', '\n'] ++ rest) = (first ++ ['\r']) ++ '\n' :: rest := by simp
    rw [htext, rawLines_line hcr, List.any_cons, List.append_assoc, List.singleton_append]

theorem below_lineEnd {first lineEnd : Text} (h : lineEnd = ['\n'] ∨ lineEnd = ['\r', '\n'])
    (hfirst : '\n' ∉ first) (rest : Text) : below (first ++ (lineEnd ++ rest)) = rest := by
  rcases h with rfl | rfl
  · exact below_line hfirst rest
  · have hcr : '\n' ∉ first ++ ['\r'] := by simp [hfirst]
    have htext : first ++ (['\r', '\n'] ++ rest) = (first ++ ['\r']) ++ '\n' :: rest := by simp
    rw [htext, below_line hcr]

/-- Where a text with imports is cut for a new one, all lines below are kept. -/
theorem usedIn_below_insertionPoint (usage : UsageImport) {content : Text}
    (hne : (Outline.read content).entries ≠ []) :
    (usedIn usage (below (insertionPoint content).1) ||
      usedIn usage (below (insertionPoint content).2)) =
        usedIn usage (below (Outline.read content).rest) := by
  have hend := lineEnd_cases content
  rw [insertionPoint, if_neg hne]
  cases hsplit : splitLineEnd? (Outline.read content).rest with
  | none =>
    have hrest := splitLineEnd?_eq_none hsplit
    have hfirst := below_lineEnd hend hrest []
    rw [List.append_nil] at hfirst
    simp only [hfirst, below_of_not_mem hrest]
    rfl
  | some p =>
    obtain ⟨first, rest⟩ := p
    obtain ⟨lineEnd, below, hlineEnd, hrest, rfl, hfirst⟩ := exists_lineEnd_of_splitLineEnd? hsplit
    have hnew := below_lineEnd hend hfirst []
    have hold := below_lineEnd hlineEnd List.not_mem_nil below
    rw [List.append_nil] at hnew
    rw [List.nil_append] at hold
    simp only [hnew, hold, hrest, below_lineEnd hlineEnd hfirst]
    rfl

/-- Where a text without imports is cut for a new one, all lines are kept. -/
theorem usedIn_insertionPoint (usage : UsageImport) {content : Text}
    (hnil : (Outline.read content).entries = []) :
    (usedIn usage (insertionPoint content).1 ||
      usedIn usage (below (insertionPoint content).2)) = usedIn usage content := by
  have hend := lineEnd_cases content
  rw [insertionPoint, if_pos hnil]
  split
  · rename_i hhash
    -- The new statement goes below the interpreter line, which may be all of the text.
    cases hsplit : splitLineEnd? content with
    | none =>
      have hcontent := splitLineEnd?_eq_none hsplit
      have hne : content ≠ [] := by
        obtain ⟨rest, rfl⟩ := hasInterpreterLine_iff.mp hhash
        simp
      have hfirst := usedIn_line usage hend hcontent []
      have hbelow := below_lineEnd hend List.not_mem_nil []
      rw [List.append_nil] at hfirst
      rw [List.nil_append, List.append_nil] at hbelow
      simp only [hfirst, hbelow]
      simp [usedIn, rawLines_of_not_mem hcontent hne]
    | some p =>
      obtain ⟨first, rest⟩ := p
      obtain ⟨lineEnd, below, hlineEnd, hcontent, rfl, hfirst⟩ :=
        exists_lineEnd_of_splitLineEnd? hsplit
      have hnew := usedIn_line usage hend hfirst []
      have hbelow := below_lineEnd hlineEnd List.not_mem_nil below
      rw [List.append_nil] at hnew
      rw [List.nil_append] at hbelow
      simp only [hnew, hbelow]
      conv_rhs => rw [hcontent, usedIn_line usage hlineEnd hfirst]
      simp [usedIn]
  · have hbelow := below_lineEnd hend List.not_mem_nil content
    rw [List.nil_append] at hbelow
    simp [hbelow, usedIn]

/-- A new statement is on a line of its own, between lines that start outside all imports. -/
theorem any_outside_withStatement (usage : UsageImport) (content : Text) (s : Statement) :
    (withStatement content s).outside.any (usedIn usage) =
      (Outline.read content).outside.any (usedIn usage) := by
  cases hentries : (Outline.read content).entries with
  | nil =>
    have hcontent : Outline.read content = ⟨[], content⟩ := by
      conv_rhs => rw [← Outline.text_read content]
      exact Outline.text_of_entries_eq_nil hentries
    rw [withStatement, hentries, hcontent, Outline.outside_nil]
    have huse := usedIn_insertionPoint usage hentries
    simpa [Outline.outside, Outline.gaps] using huse
  | cons e more =>
    have hne : (Outline.read content).entries ≠ [] := by simp [hentries]
    have huse := usedIn_below_insertionPoint usage hne
    -- Only the last gap is cut in two, where the new statement stands.
    have hnew : (withStatement content s).gaps = e.1 :: (more.map (·.1) ++
        [(insertionPoint content).1, (insertionPoint content).2]) := by
      simp [withStatement, Outline.gaps, hentries]
    have hold : (Outline.read content).gaps =
        e.1 :: (more.map (·.1) ++ [(Outline.read content).rest]) := by
      simp [Outline.gaps, hentries]
    simp only [Outline.outside, hnew, hold, List.map_append, List.any_cons, List.any_append,
      List.map_cons, List.map_nil, List.any_nil, Bool.or_false, huse]

/-- Adding names to imports does not change what is used. -/
theorem isUsed_growth {module : String} {required : Names}
    (h : Growth content new module required) (usage : UsageImport) :
    isUsed usage new = isUsed usage content := by
  rw [isUsed_eq_any_outside, isUsed_eq_any_outside]
  cases h with
  | same heq => rw [heq]
  | relisted i lead s b symbols he _ _ _ _ _ hread =>
    rw [hread, Outline.outside_congr]
    obtain ⟨front, more, hentries, hset⟩ := exists_front_more he
    rw [Outline.gaps, Outline.gaps, Outline.set, hset, hentries, List.map_append, List.map_append]
    rfl
  | inserted _ hread => rw [hread, any_outside_withStatement]

end

end Fix

end DesignTokens
