import DesignTokens.Proofs.Import.Declared
import DesignTokens.Proofs.Import.Frame
import DesignTokens.Proofs.Text.Seams

/-! # Parts of a text that imports do not make

When names are added to the imports of a text, its characters stay, and further ones come in: a list
of names between braces, or a line with an import. A part of the new text of a kind that imports
stay clear of is a part of the old text, between the same neighbours or ones that do as well.

## Main definitions

* `Import.Clear` - a kind of parts that imports stay clear of
* `Import.Absent` - a text has no part of a kind

## Main results

* `Import.Growth.absent` - adding names makes no part of such a kind
-/

namespace DesignTokens.Import

open Character Text

/-- A kind of parts of texts that imports stay clear of; `P u w v` says that the part `w` between
`u` and `v` is of this kind. Of its neighbours it matters only whether they are characters of words.
It has no braces, but a colon or a dot on its first line. It does not end with a line, and no line
within it starts as an import does. -/
structure Clear (P : Text → Text → Text → Prop) : Prop where
  sides : ∀ {u u' w v v'}, P u w v → isWordSide u'.getLast? = isWordSide u.getLast? →
    isWordSide v'.head? = isWordSide v.head? → P u' w v'
  braces : ∀ {u w v}, P u w v → '{' ∉ w ∧ '}' ∉ w
  mark : ∀ {u w v}, P u w v → ∃ x d y, w = x ++ d :: y ∧ (d = ':' ∨ d = '.') ∧
    ∀ c ∈ x, c ≠ '\n' ∧ c ≠ '\r'
  last : ∀ {u w v}, P u w v → ∀ c ∈ w.getLast?, c ≠ '\n' ∧ c ≠ '\r'
  step : ∀ {u w v}, P u w v → ∀ x y, w ≠ x ++ '\n' :: 'i' :: y

/-- No part of a text is of a kind. -/
def Absent (P : Text → Text → Text → Prop) (t : Text) : Prop :=
  ∀ u w v, t = u ++ (w ++ v) → ¬ P u w v

section

variable {P : Text → Text → Text → Prop} {a b i i' t u w v z after before lineEnd line : Text}

theorem Clear.ne_nil (hP : Clear P) (h : P u w v) : w ≠ [] := by
  obtain ⟨x, d, y, rfl, -⟩ := hP.mark h
  simp

/-- A part without a character lies on one side of it. -/
theorem cases_of_not_mem {c : Char} (hc : c ∉ w) (hw : w ≠ []) (h : a ++ c :: b = u ++ (w ++ v)) :
    (∃ z, a = u ++ (w ++ z) ∧ v = z ++ c :: b) ∨ ∃ z, u = a ++ c :: z ∧ b = z ++ (w ++ v) := by
  rcases append_eq_append h with ⟨z, rfl, hz⟩ | ⟨x, hx, rfl, hx'⟩
  · cases z with
    | nil =>
      obtain ⟨e, w, rfl⟩ := List.exists_cons_of_ne_nil hw
      obtain ⟨rfl, -⟩ := List.cons.inj hz
      exact absurd List.mem_cons_self hc
    | cons e z =>
      obtain ⟨rfl, hb⟩ := List.cons.inj hz
      exact .inr ⟨z, rfl, hb⟩
  · rcases append_eq_append hx' with ⟨z, rfl, hz⟩ | ⟨y, hy, rfl, hy'⟩
    · exact .inl ⟨z, rfl, hz⟩
    · obtain ⟨e, y, rfl⟩ := List.exists_cons_of_ne_nil hy
      obtain ⟨rfl, -⟩ := List.cons.inj hy'
      exact absurd (List.mem_append_right x List.mem_cons_self) hc

/-- Another list of names in braces makes no part of the kind. -/
theorem Absent.relist (hP : Clear P) (h : Absent P (a ++ '{' :: (i ++ '}' :: b)))
    (hi' : ':' ∉ i' ∧ '.' ∉ i') : Absent P (a ++ '{' :: (i' ++ '}' :: b)) := by
  intro u w v htext hw
  have hne := hP.ne_nil hw
  rcases cases_of_not_mem (hP.braces hw).1 hne htext with ⟨z, rfl, rfl⟩ | ⟨z, rfl, hz⟩
  · refine h u w (z ++ '{' :: (i ++ '}' :: b)) (by simp) (hP.sides hw rfl ?_)
    cases z <;> rfl
  · rcases cases_of_not_mem (hP.braces hw).2 hne hz with ⟨z', rfl, rfl⟩ | ⟨z', rfl, rfl⟩
    · obtain ⟨x, d, y, rfl, hd, -⟩ := hP.mark hw
      rcases hd with rfl | rfl
      · exact hi'.1 (by simp)
      · exact hi'.2 (by simp)
    · refine h (a ++ '{' :: (i ++ '}' :: z')) w v (by simp) (hP.sides hw ?_ rfl)
      simp [List.getLast?_append, List.getLast?_cons]

/-- A part that starts in a text without colons and dots goes on beyond it. -/
theorem Clear.exists_beyond (hP : Clear P) (hw : P u w v) (hz : ':' ∉ z ∧ '.' ∉ z)
    (h : w ++ v = z ++ after) : ∃ x d rest, after = x ++ d :: rest ∧ (d = ':' ∨ d = '.') ∧
      ∀ c ∈ z ++ x, c ≠ '\n' ∧ c ≠ '\r' := by
  obtain ⟨x, d, y, rfl, hd, hx⟩ := hP.mark hw
  rw [List.append_assoc, List.cons_append] at h
  rcases append_eq_append h with ⟨z', rfl, hz'⟩ | ⟨x', -, rfl, rfl⟩
  · cases z' with
    | nil => exact ⟨[], d, y ++ v, hz'.symm, hd, by simpa using hx⟩
    | cons e z' =>
      obtain ⟨rfl, -⟩ := List.cons.inj hz'
      rcases hd with rfl | rfl
      · exact absurd (List.mem_append_right x List.mem_cons_self) hz.1
      · exact absurd (List.mem_append_right x List.mem_cons_self) hz.2
  · exact ⟨x', d, y ++ v, rfl, hd, hx⟩

theorem not_mem_lineEnd (h : lineEnd = ['\n'] ∨ lineEnd = ['\r', '\n']) :
    ':' ∉ lineEnd ∧ '.' ∉ lineEnd := by
  rcases h with rfl | rfl
  · decide
  · decide

/-- A line in front of a text makes no part of the kind. -/
theorem Absent.first (hP : Clear P) (h : Absent P t) (hline : ':' ∉ line ∧ '.' ∉ line)
    (hend : lineEnd = ['\n'] ∨ lineEnd = ['\r', '\n']) : Absent P (line ++ (lineEnd ++ t)) := by
  intro u w v htext hw
  obtain ⟨front, hlast⟩ : ∃ front, line ++ lineEnd = front ++ ['\n'] := by
    rcases hend with rfl | rfl
    · exact ⟨line, rfl⟩
    · exact ⟨line ++ ['\r'], by simp⟩
  have hmark : ':' ∉ line ++ lineEnd ∧ '.' ∉ line ++ lineEnd := by
    have := not_mem_lineEnd hend
    simp [hline, this]
  rw [← List.append_assoc] at htext
  -- The window starts behind the line end, or in the new line and goes on beyond it.
  rcases append_eq_append htext with ⟨z, rfl, hz⟩ | ⟨z, hz, heq, hbeyond⟩
  · refine h z w v hz (hP.sides hw ?_ rfl)
    rw [hlast, List.append_assoc, List.getLast?_append]
    cases z with
    | nil => rfl
    | cons c z => simp [List.getLast?_cons]
  · rw [heq] at hmark
    obtain ⟨x, d, rest, -, -, hx⟩ := hP.exists_beyond hw
      ⟨fun hmem => hmark.1 (List.mem_append_right u hmem),
        fun hmem => hmark.2 (List.mem_append_right u hmem)⟩ hbeyond
    have hnewline : '\n' ∈ z := by
      have hlast := congrArg List.getLast? (hlast.symm.trans heq)
      rw [List.getLast?_concat, List.getLast?_append_of_ne_nil _ hz] at hlast
      exact List.mem_of_getLast? hlast.symm
    exact (hx '\n' (List.mem_append_left x hnewline)).1 rfl

theorem isWordSide_of_newline {c : Option Char} (h : ∀ d ∈ c, d = '\n' ∨ d = '\r') :
    isWordSide c = false := by
  cases c with
  | none => rfl
  | some d => rcases h d rfl with rfl | rfl <;> rfl

/-- A part does not go on over the end of a line into an import. -/
theorem Clear.not_over_lineEnd (hP : Clear P) (hw : P u (a ++ b) v) (hb : b ≠ [])
    (hend : lineEnd = ['\n'] ∨ lineEnd = ['\r', '\n']) :
    ¬ b ++ v = lineEnd ++ 'i' :: t := by
  have hlast : ∀ a' c, a ++ b = a' ++ [c] → c ≠ '\n' ∧ c ≠ '\r' := fun a' c heq =>
    hP.last hw c (by rw [heq, List.getLast?_concat]; rfl)
  have hstep := hP.step hw
  obtain ⟨c, b, rfl⟩ := List.exists_cons_of_ne_nil hb
  -- A line feed of the window is not its last character, nor does the letter follow it there.
  have hnewline : ∀ a' b', a ++ c :: b = a' ++ '\n' :: b' → ¬ b' ++ v = 'i' :: t := by
    intro a' b' heq h
    cases b' with
    | nil => exact (hlast a' '\n' heq).1 rfl
    | cons d b' =>
      obtain ⟨rfl, -⟩ := List.cons.inj h
      exact hstep a' b' heq
  rcases hend with rfl | rfl
  · intro h
    simp only [List.cons_append, List.nil_append, List.cons.injEq] at h
    obtain ⟨rfl, h⟩ := h
    exact hnewline a b rfl h
  · intro h
    simp only [List.cons_append, List.nil_append, List.cons.injEq] at h
    obtain ⟨rfl, h⟩ := h
    cases b with
    | nil => exact (hlast a '\r' rfl).2 rfl
    | cons d b =>
      simp only [List.cons_append, List.cons.injEq] at h
      obtain ⟨rfl, h⟩ := h
      exact hnewline (a ++ ['\r']) b (by simp) h

/-- What stands at the end of a line has a mark of the kind only behind the end of the line. -/
theorem not_forall_ne_lineEnd_of_mark {d : Char} {x rest : Text} (heq : after = x ++ d :: rest)
    (hafter : ∀ c ∈ after.head?, c = '\n' ∨ c = '\r') (hd : d = ':' ∨ d = '.') :
    ¬ ∀ c ∈ x, c ≠ '\n' ∧ c ≠ '\r' := by
  intro hx
  rw [heq] at hafter
  cases x with
  | nil => rcases hd with rfl | rfl <;> simp at hafter
  | cons c x =>
    have := hx c List.mem_cons_self
    simp [this] at hafter

/-- A line below another makes no part of the kind. -/
theorem Absent.below (hP : Clear P) (h : Absent P (before ++ after))
    (hline : ':' ∉ 'i' :: line ∧ '.' ∉ 'i' :: line)
    (hend : lineEnd = ['\n'] ∨ lineEnd = ['\r', '\n'])
    (hafter : ∀ c ∈ after.head?, c = '\n' ∨ c = '\r') :
    Absent P (before ++ (lineEnd ++ 'i' :: line ++ after)) := by
  intro u w v htext hw
  rcases append_eq_append htext with ⟨z, rfl, hz⟩ | ⟨z, hz, rfl, hover⟩
  · rcases append_eq_append hz with ⟨z', rfl, rfl⟩ | ⟨x, hx, heq, hover⟩
    · -- The part lies below the line, and not at once.
      cases z' with
      | nil =>
        obtain ⟨x, d, y, rfl, hd, hx⟩ := hP.mark hw
        have heq : x ++ d :: y ++ v = x ++ d :: (y ++ v) := by simp
        exact not_forall_ne_lineEnd_of_mark heq hafter hd hx
      | cons c z' =>
        refine h (before ++ c :: z') w v (by simp) (hP.sides hw ?_ rfl)
        simp [List.getLast?_append, List.getLast?_cons]
    · have hmark : ':' ∉ lineEnd ++ 'i' :: line ∧ '.' ∉ lineEnd ++ 'i' :: line := by
        have := not_mem_lineEnd hend
        rw [List.mem_append, not_or, List.mem_append, not_or]
        exact ⟨⟨this.1, hline.1⟩, this.2, hline.2⟩
      rw [heq] at hmark
      obtain ⟨x', d, rest, hrest, hd, hx'⟩ := hP.exists_beyond hw
        ⟨fun hmem => hmark.1 (List.mem_append_right z hmem),
          fun hmem => hmark.2 (List.mem_append_right z hmem)⟩ hover
      exact not_forall_ne_lineEnd_of_mark hrest hafter hd fun c hc => hx' c
        (List.mem_append_right x hc)
  · rcases append_eq_append hover with ⟨z', rfl, rfl⟩ | ⟨x, hx, rfl, hx'⟩
    · refine h u w (z' ++ after) (by simp) (hP.sides hw rfl ?_)
      cases z' with
      | nil =>
        rw [List.nil_append, List.nil_append, isWordSide_of_newline hafter]
        rcases hend with rfl | rfl <;> rfl
      | cons c z' => rfl
    · exact hP.not_over_lineEnd (t := line ++ after) hw hx hend (by rw [← hx']; simp)

/-- The end of a line makes no part of the kind. -/
theorem Absent.append_lineEnd (hP : Clear P) (h : Absent P t)
    (hend : lineEnd = ['\n'] ∨ lineEnd = ['\r', '\n']) : Absent P (t ++ lineEnd) := by
  intro u w v htext hw
  rcases append_eq_append htext with ⟨z, rfl, hz⟩ | ⟨z, -, rfl, hover⟩
  · have hmark := not_mem_lineEnd hend
    obtain ⟨x, d, y, rfl, hd, -⟩ := hP.mark hw
    rw [hz] at hmark
    rcases hd with rfl | rfl
    · exact hmark.1 (by simp)
    · exact hmark.2 (by simp)
  · -- The window ends in front of the line end, or in it.
    rcases append_eq_append hover with ⟨z', rfl, rfl⟩ | ⟨x, hx, rfl, hx'⟩
    · refine h u w z' (by simp) (hP.sides hw rfl ?_)
      cases z' with
      | nil => rcases hend with rfl | rfl <;> rfl
      | cons c z' => rfl
    · have hlast := hP.last hw (x.getLast hx)
        (by rw [List.getLast?_append_of_ne_nil _ hx, List.getLast?_eq_some_getLast hx]; rfl)
      have hmem : x.getLast hx ∈ lineEnd := by
        rw [hx']
        exact List.mem_append_left v (List.getLast_mem hx)
      rcases hend with rfl | rfl
      · exact hlast.1 (List.mem_singleton.mp hmem)
      · rcases List.mem_cons.mp hmem with heq | hmem
        · exact hlast.2 heq
        · exact hlast.1 (List.mem_singleton.mp hmem)

end

/-! ### Imports -/

section

variable {P : Text → Text → Text → Prop} {content new : Text} {module : String} {required : Names}

theorem not_mem_text_newStatement {c : Char} (content : Text) (hmodule : c ∉ module.toList)
    (hrequired : ∀ x ∈ required, isIdentifier x.toList = true) (hc : isIdentifierPart c = false)
    (hmarks : c ∉ [' ', ',', '{', '}', ';']) (hquote : isQuote c = false) :
    c ∉ (newStatement content module required).text := by
  have hsorted : ∀ x ∈ sortSymbols required, isIdentifier x.toList = true := fun x hx =>
    hrequired x (mem_sortSymbols.mp hx)
  simp only [List.mem_cons, List.not_mem_nil, or_false, not_or] at hmarks
  obtain ⟨hspace, hcomma, hopen, hclose, hsemi⟩ := hmarks
  have hinner : c ∉ (emptyBraces.relist (sortSymbols required)).inner :=
    not_mem_relist_inner hsorted hc hcomma hspace
  have hwords : ∀ d ∈ importWord ++ fromWord, c ≠ d := by
    have hpart : ∀ d ∈ importWord ++ fromWord, isIdentifierPart d = true :=
      List.all_eq_true.mp (by decide)
    rintro d hd rfl
    rw [hpart c hd] at hc
    cases hc
  have hnew : c ≠ newQuote content := by
    rintro rfl
    rw [isQuote_newQuote] at hquote
    cases hquote
  have hend : c ∉ semicolonText content := by
    rw [semicolonText]
    split
    · simpa using hsemi
    · simp
  intro hmem
  simp only [text_newStatement, sourceText, List.mem_append, List.mem_cons, List.not_mem_nil,
    or_false, hspace, hopen, hclose, hinner, hmodule, hnew, hend, false_or] at hmem
  rcases hmem with hmem | hmem
  · exact hwords c (List.mem_append_left _ hmem) rfl
  · exact hwords c (List.mem_append_right _ hmem) rfl

/-- A new import is a line without colons and dots. -/
theorem exists_text_newStatement (content : Text) (hmodule : Modest module)
    (hdot : '.' ∉ module.toList) (hrequired : ∀ x ∈ required, isIdentifier x.toList = true) :
    ∃ line, (newStatement content module required).text = 'i' :: line ∧
      ':' ∉ 'i' :: line ∧ '.' ∉ 'i' :: line := by
  have hcolon : ':' ∉ module.toList := by
    intro hmem
    exact absurd (List.all_eq_true.mp hmodule.2 ':' hmem) (by decide)
  have htext : ∃ line, (newStatement content module required).text = 'i' :: line :=
    ⟨_, text_newStatement content module required⟩
  obtain ⟨line, htext⟩ := htext
  refine ⟨line, htext, ?_, ?_⟩
  · rw [← htext]
    exact not_mem_text_newStatement content hcolon hrequired (by decide) (by decide) (by decide)
  · rw [← htext]
    exact not_mem_text_newStatement content hdot hrequired (by decide) (by decide) (by decide)

/-- Adding names to the imports of a text makes no part that imports stay clear of. -/
theorem Growth.absent (h : Growth content new module required) (hP : Clear P)
    (hmodule : Modest module) (hdot : '.' ∉ module.toList)
    (hrequired : ∀ x ∈ required, isIdentifier x.toList = true) (habsent : Absent P content) :
    Absent P new := by
  cases h with
  | same h => exact h ▸ habsent
  | relisted i lead s b symbols he hclause hplain hidentifier hsymbols hkept hread =>
    obtain ⟨u, w, hold, hnew⟩ := exists_text_relist he hclause hread
    rw [hold] at habsent
    rw [hnew]
    exact habsent.relist hP
      ⟨not_mem_relist_inner hidentifier (by decide) (by decide) (by decide),
        not_mem_relist_inner hidentifier (by decide) (by decide) (by decide)⟩
  | inserted hnone hread =>
    have hnew := Outline.text_read new
    rw [hread, ← insertLine_eq_text] at hnew
    obtain ⟨line, hline, hmark⟩ := exists_text_newStatement content hmodule hdot hrequired
    have hend := lineEnd_cases content
    rw [← hnew, hline]
    -- The new line is the first one, or stands below a line, whose end may have to be added.
    rcases lineAdded_insertLine content ('i' :: line) with
      hnew | ⟨before, after, hcontent, hafter, -, hnew⟩ | ⟨-, hnew⟩
    · rw [hnew]
      exact habsent.first hP hmark hend
    · rw [hnew, ← List.append_assoc content.lineEnd]
      refine (hcontent ▸ habsent).below hP hmark hend ?_
      rcases hafter with rfl | ⟨lineEnd, more, hend, rfl⟩
      · simp
      · rcases hend with rfl | rfl <;> simp
    · rw [hnew, ← List.append_assoc content.lineEnd]
      refine (habsent.append_lineEnd hP hend).below hP hmark hend ?_
      rcases hend with hend | hend <;> simp [hend]

end

end DesignTokens.Import
