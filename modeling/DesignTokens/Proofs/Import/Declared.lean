import DesignTokens.Proofs.Declaration.Exchange
import DesignTokens.Proofs.Import.Growth
import DesignTokens.Proofs.Text.Tokens
import Mathlib.Data.List.TakeWhile

/-! # Declared names of a text that grows

When names are added to the imports of a text, every name that the text declared is declared or
imported afterwards, as long as nothing but white space follows the last import on its line. A
pattern that is still open where a line is put in goes on over the line; a name of a list that a
pattern took for its own is imported.

## Main definitions

* `Import.Tidy` - nothing but white space follows the last import of a text on its line
* `Import.Modest` - a module whose name has neither brackets nor separators

## Main results

* `Import.Growth.tidy` - a text stays tidy when it grows
* `Import.Growth.declared` - a declared name stays so or is imported
-/

namespace DesignTokens.Import

open Character Text Declaration

/-- Nothing but white space follows the last import of a text on its line. A text without imports
does not start with the line that names an interpreter. -/
structure Tidy (content : Text) : Prop where
  last : ∀ p ∈ (statements content).getLast?, Blank (p.after.takeWhile (· ≠ '\n'))
  first : statements content = [] → hasInterpreterLine content = false

/-- The name of a module that can stand between quotes, with neither brackets nor separators. -/
def Modest (module : String) : Prop :=
  Quotable module ∧ module.toList.all
    (fun c => !isOpening c && !isClosing c && !separators.contains c) = true

instance (module : String) : Decidable (Modest module) :=
  inferInstanceAs (Decidable (_ ∧ _))

/-! ### The characters around a line -/

section

variable {c q : Char} {t u v : Text}

/-- The characters after the closing quote of an import: white space and a semicolon. -/
def EndsLine (t : Text) : Prop :=
  ∀ c ∈ t, isBlank c = true ∨ c = ';'

theorem EndsLine.append (ht : EndsLine t) (hu : EndsLine u) : EndsLine (t ++ u) := fun c hc =>
  (List.mem_append.mp hc).elim (ht c) (hu c)

theorem EndsLine.idle (h : EndsLine t) : ∀ c ∈ t, continuesName c = false := by
  intro c hc
  rcases h c hc with hblank | rfl
  · have hdollar : c ≠ '$' := ne_of_isBlank hblank (by decide)
    simp [continuesName, isWord_of_isBlank hblank, hdollar]
  · decide

/-- A character that is neither a bracket nor a separator. -/
def IsMild (c : Char) : Prop :=
  (isOpening c = false ∧ isClosing c = false) ∧ ∀ separator ∈ separators, separator ≠ c

theorem EndsLine.mild (h : EndsLine t) : ∀ c ∈ t, IsMild c := by
  intro c hc
  rcases h c hc with hblank | rfl
  · have hsolid : ∀ separator ∈ separators, isBlank separator = false := by
      simp [separators, isBlank]
    exact ⟨plain_of_isBlank hblank, fun sep hsep => (ne_of_isBlank hblank (hsolid sep hsep)).symm⟩
  · exact ⟨by decide, by simp [separators]⟩

theorem level_of_mild (h : ∀ c ∈ t, IsMild c) : Level t :=
  level_of_plain (fun c hc => (h c hc).1) fun sep hsep hmem => (h sep hmem).2 sep hsep rfl

theorem isMild_of_isQuote (h : isQuote c = true) : IsMild c := by
  simp only [isQuote, Bool.or_eq_true, decide_eq_true_eq] at h
  rcases h with rfl | rfl
  · exact ⟨by decide, by simp [separators]⟩
  · exact ⟨by decide, by simp [separators]⟩

theorem stops_of_isQuote (h : isQuote c = true) : Stops c := by
  simp only [isQuote, Bool.or_eq_true, decide_eq_true_eq] at h
  rcases h with rfl | rfl
  · exact ⟨by decide, by decide, by decide, by decide⟩
  · exact ⟨by decide, by decide, by decide, by decide⟩

/-- A stretch that starts with a quote and ends with mild characters, not all of them blank. -/
theorem opaque_append (hq : isQuote q = true) (hlevel : Level (q :: u))
    (hv : ∀ c ∈ v, IsMild c) (hsolid : ∃ c ∈ v, isBlank c = false) : Opaque (q :: (u ++ v)) where
  level := hlevel.append (level_of_mild hv)
  quote := ⟨q, u ++ v, rfl, by simpa [isQuote] using hq⟩
  last := by
    intro c hc
    rw [← List.cons_append, trimEnd_append, if_neg (trimEnd_ne_nil hsolid),
      List.getLast?_append_of_ne_nil _ (trimEnd_ne_nil hsolid)] at hc
    obtain ⟨b, -, heq⟩ := exists_blanks_trimEnd v
    exact (hv c (by rw [heq]; exact List.mem_append_left _ (List.mem_of_getLast? hc))).1.2

theorem opaque_of_mild (hq : isQuote q = true) (ht : ∀ c ∈ t, IsMild c) : Opaque (q :: t) where
  level := level_of_mild (List.forall_mem_cons.mpr ⟨isMild_of_isQuote hq, ht⟩)
  quote := ⟨q, t, rfl, by simpa [isQuote] using hq⟩
  last := by
    intro c hc
    obtain ⟨b, -, heq⟩ := exists_blanks_trimEnd (q :: t)
    have hmem : c ∈ q :: t := by
      rw [heq]
      exact List.mem_append_left _ (List.mem_of_getLast? hc)
    rcases List.mem_cons.mp hmem with rfl | hmem
    · exact (isMild_of_isQuote hq).1.2
    · exact (ht c hmem).1.2

end

/-! ### A list that is written anew -/

section

variable {content new : Text} {module x : String} {required : Names} {i : Nat} {lead : Text}
  {s : Statement} {b : Braced} {symbols : List String}

theorem text_of_clause (hclause : s.clause = some b.clause) : s.text =
    s.indent ++ importWord ++ b.before ++
      '{' :: (b.inner ++ '}' :: (b.after ++ fromWord ++ s.tail)) := by
  simp [Statement.text, hclause, Statement.clauseText, Braced.clause]

/-- The texts around a list that is written anew. -/
theorem exists_text_relist (he : (Outline.read content).entries[i]? = some (lead, s))
    (hclause : s.clause = some b.clause)
    (hread : Outline.read new = (Outline.read content).set i (lead, s.relist b symbols)) :
    ∃ u w, content = u ++ '{' :: (b.inner ++ '}' :: w) ∧
      new = u ++ '{' :: ((b.relist symbols).inner ++ '}' :: w) := by
  obtain ⟨front, more, hentries, hset⟩ := exists_front_more he
  have hold := Outline.text_read content
  have hnew := Outline.text_read new
  rw [hread, Outline.set, hset, Outline.text_mk, Outline.flat_append, Outline.flat_cons,
    text_of_clause (s := s.relist b symbols) rfl] at hnew
  rw [Outline.text, hentries] at hold
  change Outline.flat (front ++ (lead, s) :: more) ++ _ = _ at hold
  rw [Outline.flat_append, Outline.flat_cons, text_of_clause hclause] at hold
  have hkept : (s.relist b symbols).indent = s.indent ∧ (s.relist b symbols).tail = s.tail :=
    ⟨rfl, rfl⟩
  refine ⟨Outline.flat front ++ (lead ++ (s.indent ++ importWord ++ b.before)),
    b.after ++ fromWord ++ s.tail ++ (Outline.flat more ++ (Outline.read content).rest),
    hold.symm.trans (by simp), hnew.symm.trans (by simp [Braced.relist, hkept])⟩

/-- A name that a text declares is declared or imported when a list of the text is written anew. -/
theorem declared_relist (he : (Outline.read content).entries[i]? = some (lead, s))
    (hclause : s.clause = some b.clause) (hplain : b.Plain)
    (hidentifier : ∀ x ∈ symbols, isIdentifier x.toList = true)
    (hkept : ∀ name ∈ listEntries b.inner, String.ofList name ∈ symbols)
    (hread : Outline.read new = (Outline.read content).set i (lead, s.relist b symbols))
    (hx : x ∈ declaredNames content) : x ∈ declaredNames new ∨ x ∈ boundNames new := by
  obtain ⟨u, w, hold, hnew⟩ := exists_text_relist he hclause hread
  have hlisted : Listed (b.relist symbols).inner := listed_of_names fun name hname => by
    rw [listEntries_relist hidentifier] at hname
    obtain ⟨y, hy, rfl⟩ := List.mem_map.mp hname
    exact hidentifier y hy
  rw [mem_declaredNames, hold] at hx
  -- The name is one of the list, which binds it, or is declared elsewhere.
  rcases mem_foundNames_relist (listed_of_names hplain.names) hlisted hx with hx | hx
  · refine .inr (mem_boundNames.mpr ⟨(lead, s.relist b symbols), ?_, ?_⟩)
    · obtain ⟨front, more, -, hset⟩ := exists_front_more he
      rw [hread, Outline.set, hset]
      simp
    · rw [names_relist hplain hidentifier]
      have hsymbol := hkept _ hx
      rw [String.ofList_toList] at hsymbol
      exact List.mem_append_left _ (List.mem_map_of_mem hsymbol)
  · exact .inl (mem_declaredNames.mpr (hnew ▸ hx))

/-! ### A line that is put in -/

theorem endsLine_of_blank (h : Blank t) : EndsLine t := fun c hc => .inl (h c hc)

theorem endsLine_lineEnd (t : Text) : EndsLine t.lineEnd := by
  rcases lineEnd_cases t with h | h
  · rw [h]
    exact endsLine_of_blank (by decide)
  · rw [h]
    exact endsLine_of_blank (by decide)

/-- The characters of a statement up to its closing quote, and those after it. -/
theorem exists_text_closing (hs : s.Valid) : ∃ u tail, s.text = u ++ s.closing :: tail ∧
    EndsLine tail := by
  refine ⟨s.indent ++ (importWord ++ (Statement.clauseText s.clause ++
    (s.gap ++ (s.quote :: s.module)))), s.trail ++ if s.semicolon then [';'] else [], ?_, ?_⟩
  · simp [Statement.text, Statement.tail]
  · refine EndsLine.append (fun c hc => .inl (Statement.isBlank_of_isIndent (hs.trail c hc))) ?_
    split
    · exact fun c hc => .inr (List.mem_singleton.mp hc)
    · exact fun c hc => by cases hc

/-- A new import behind its braces, up to its closing quote. -/
def sourceText (content : Text) (module : String) : Text :=
  [' '] ++ fromWord ++ [' ', newQuote content] ++ module.toList

/-- What follows the closing quote of a new import. -/
def semicolonText (content : Text) : Text :=
  if newSemicolon content then [';'] else []

theorem text_newStatement (content : Text) (module : String) (required : Names) :
    (newStatement content module required).text =
      importWord ++ [' '] ++
        ('{' :: ((emptyBraces.relist (sortSymbols required)).inner ++ ['}'])) ++
        sourceText content module ++ newQuote content :: semicolonText content := by
  simp [newStatement, emptyImport, Statement.relist, Statement.text, Statement.clauseText,
    Statement.tail, Braced.clause, Braced.relist, emptyBraces, sourceText, semicolonText]

theorem statements_eq_nil_iff : statements content = [] ↔ (Outline.read content).entries = [] := by
  rw [← List.getLast?_eq_none_iff, getLast?_statements, Option.map_eq_none_iff,
    List.getLast?_eq_none_iff]

/-- A text is tidy by what follows its last import, or by its start if it has none. -/
theorem tidy_iff : Tidy content ↔
    ((Outline.read content).entries ≠ [] →
      Blank ((Outline.read content).rest.takeWhile (· ≠ '\n'))) ∧
    ((Outline.read content).entries = [] → hasInterpreterLine content = false) := by
  constructor
  · rintro ⟨hlast, hfirst⟩
    refine ⟨fun hne => ?_, fun hnil => hfirst (statements_eq_nil_iff.mpr hnil)⟩
    rw [getLast?_statements, List.getLast?_eq_some_getLast hne] at hlast
    exact hlast _ rfl
  · rintro ⟨hlast, hfirst⟩
    refine ⟨fun p hp => ?_, fun hnil => hfirst (statements_eq_nil_iff.mp hnil)⟩
    rw [getLast?_statements] at hp
    obtain ⟨e, he, rfl⟩ := Option.map_eq_some_iff.mp hp
    exact hlast fun hnil => by rw [hnil] at he; cases he

/-- Where a new import goes below the last one of a tidy text: after white space, at the end of the
line. -/
theorem exists_insertionPoint (htidy : Tidy content) (hne : (Outline.read content).entries ≠ []) :
    ∃ first below, (Outline.read content).rest = first ++ below ∧
      insertionPoint content = (first ++ content.lineEnd, below) ∧ Blank first ∧
        Blank (below.takeWhile (· ≠ '\n')) := by
  have hblank := (tidy_iff.mp htidy).1 hne
  rw [insertionPoint, if_neg hne]
  cases hsplit : splitLineEnd? (Outline.read content).rest with
  | none =>
    have hnl := splitLineEnd?_eq_none hsplit
    refine ⟨_, [], (List.append_nil _).symm, rfl, ?_, blank_nil⟩
    rwa [List.takeWhile_eq_self_iff.mpr (forall_ne_newline hnl)] at hblank
  | some p =>
    obtain ⟨first, below⟩ := p
    obtain ⟨hrest, hfirst, -⟩ := splitLineEnd?_eq_some hsplit
    rw [hrest, List.takeWhile_append_of_pos (forall_ne_newline hfirst)] at hblank
    exact ⟨first, below, hrest, rfl, fun c hc => hblank c (List.mem_append_left _ hc),
      fun c hc => hblank c (List.mem_append_right _ hc)⟩

theorem blank_takeWhile_lineEnd (t u : Text) : Blank ((t.lineEnd ++ u).takeWhile (· ≠ '\n')) := by
  rcases lineEnd_cases t with h | h
  · rw [h]
    simp
  · rw [h]
    simp [Blank, isBlank]

/-- A new import goes in front of a tidy text without imports. -/
theorem insertionPoint_of_tidy (htidy : Tidy content) (hnil : (Outline.read content).entries = []) :
    insertionPoint content = ([], content.lineEnd ++ content) := by
  rw [insertionPoint, if_pos hnil, (tidy_iff.mp htidy).2 hnil]
  rfl

/-- A text stays tidy when names are added to its imports. -/
theorem Growth.tidy (h : Growth content new module required) (htidy : Tidy content) : Tidy new := by
  cases h with
  | same h => exact h ▸ htidy
  | relisted i lead s b symbols he hclause hplain hidentifier hsymbols hkept hread =>
    have hne : (Outline.read content).entries ≠ [] := fun hnil => by rw [hnil] at he; cases he
    rw [tidy_iff, hread]
    refine ⟨fun _ => (tidy_iff.mp htidy).1 hne, fun hnil => ?_⟩
    rw [Outline.set, List.set_eq_nil_iff] at hnil
    exact absurd hnil hne
  | inserted hnone hread =>
    rw [tidy_iff, hread]
    refine ⟨fun _ => ?_, fun hnil => by simp [withStatement] at hnil⟩
    by_cases hnil : (Outline.read content).entries = []
    · rw [withStatement, insertionPoint_of_tidy htidy hnil]
      exact blank_takeWhile_lineEnd _ _
    · obtain ⟨first, below, -, hpoint, -, hbelow⟩ := exists_insertionPoint htidy hnil
      rw [withStatement, hpoint]
      exact hbelow

theorem endsLine_semicolonText (content : Text) : EndsLine (semicolonText content) := by
  rw [semicolonText]
  split
  · exact fun c hc => .inr (List.mem_singleton.mp hc)
  · exact fun c hc => by cases hc

/-- The end of a new import, behind its braces. -/
theorem mild_end_newStatement (content : Text) (hmodule : Modest module) :
    ∀ c ∈ sourceText content module ++ newQuote content :: semicolonText content, IsMild c := by
  have hword : ∀ c ∈ [' '] ++ fromWord ++ [' '], IsMild c := by
    simp [fromWord, IsMild, separators, isOpening, isClosing]
  have hquote := isMild_of_isQuote (isQuote_newQuote content)
  have hname : ∀ c ∈ module.toList, IsMild c := by
    intro c hc
    have := List.all_eq_true.mp hmodule.2 c hc
    simp only [Bool.and_eq_true, Bool.not_eq_true', List.contains_eq_mem,
      decide_eq_false_iff_not] at this
    exact ⟨this.1, fun sep hsep heq => this.2 (heq ▸ hsep)⟩
  intro c hc
  simp only [sourceText, List.mem_append, List.mem_cons, List.not_mem_nil, or_false] at hc hword
  rcases hc with ((((hc | hc) | hc | rfl) | hc) | rfl | hc)
  · exact hword c (.inl (.inl hc))
  · exact hword c (.inl (.inr hc))
  · exact hword c (.inr hc)
  · exact hquote
  · exact hname c hc
  · exact hquote
  · exact (endsLine_semicolonText content).mild c hc

/-- A new import below a quote and the end of its line is a stretch that patterns pass over. -/
theorem opaque_newStatement {q : Char} {tail : Text} (content : Text) (hmodule : Modest module)
    (hrequired : ∀ x ∈ required, isIdentifier x.toList = true) (hq : isQuote q = true)
    (htail : EndsLine tail) :
    Opaque (q :: (tail ++ (newStatement content module required).text)) := by
  have hlisted : Listed (emptyBraces.relist (sortSymbols required)).inner := by
    have hsorted : ∀ x ∈ sortSymbols required, isIdentifier x.toList = true := fun x hx =>
      hrequired x (mem_sortSymbols.mp hx)
    refine listed_of_names fun name hname => ?_
    rw [listEntries_relist hsorted] at hname
    obtain ⟨y, hy, rfl⟩ := List.mem_map.mp hname
    exact hsorted y hy
  have hstart : Level (q :: (tail ++ (importWord ++ [' ']))) := by
    refine level_of_mild (List.forall_mem_cons.mpr ⟨isMild_of_isQuote hq, fun c hc => ?_⟩)
    rcases List.mem_append.mp hc with hc | hc
    · exact htail.mild c hc
    · have hword : ∀ c ∈ importWord ++ [' '], IsMild c := by
        simp [importWord, IsMild, separators, isOpening, isClosing]
      exact hword c hc
  -- From the quote up to the new one there is only a line end, a list in braces and mild text.
  have hopaque := opaque_append hq (u := tail ++ (importWord ++ [' ']) ++
    ('{' :: ((emptyBraces.relist (sortSymbols required)).inner ++ ['}'])))
    (hstart.append (level_braces hlisted.plain)) (mild_end_newStatement content hmodule)
    ⟨newQuote content, by simp, (stops_of_isQuote (isQuote_newQuote content)).blank⟩
  rw [text_newStatement]
  simpa using hopaque

/-- No name that a tidy text declares is lost when an import is put in. -/
theorem declared_inserted (hmodule : Modest module)
    (hrequired : ∀ x ∈ required, isIdentifier x.toList = true) (htidy : Tidy content)
    (hread : Outline.read new = withStatement content (newStatement content module required))
    (hx : x ∈ declaredNames content) : x ∈ declaredNames new := by
  rw [mem_declaredNames] at hx ⊢
  have hnew := Outline.text_read new
  have hquote := isQuote_newQuote content
  have hsemi := endsLine_semicolonText content
  rw [hread, withStatement, Outline.text_mk] at hnew
  rw [← hnew]
  -- The new statement stands at the beginning of the text, or below the last statement.
  by_cases hnil : (Outline.read content).entries = []
  · rw [insertionPoint_of_tidy htidy hnil, hnil]
    have := mem_foundNames_append (stops_of_isQuote hquote)
      (hsemi.append (endsLine_lineEnd content)).idle (l := importWord ++ [' '] ++
        ('{' :: ((emptyBraces.relist (sortSymbols required)).inner ++ ['}'])) ++
          sourceText content module) hx
    simpa [text_newStatement] using this
  · obtain ⟨first, below, hrest, hpoint, hfirst, -⟩ := exists_insertionPoint htidy hnil
    obtain ⟨front, ⟨lead, last⟩, hentries⟩ := List.eq_nil_or_concat' (Outline.read content).entries
      |>.resolve_left hnil
    have hmem : (lead, last) ∈ (Outline.read content).entries := by simp [hentries]
    have hvalid : last.Valid := Outline.valid_of_mem_read hmem
    obtain ⟨u, tail, htext, htail⟩ := exists_text_closing hvalid
    have hold : content = Outline.flat front ++ (lead ++ u) ++
        last.closing :: (tail ++ first ++ below) := by
      conv_lhs => rw [← Outline.text_read content]
      change Outline.flat (Outline.read content).entries ++ (Outline.read content).rest = _
      rw [hentries, hrest]
      simp [htext]
    rw [hold] at hx
    have hends := htail.append (endsLine_of_blank hfirst)
    have := mem_foundNames_insert (stops_of_isQuote hvalid.closing)
      (isMild_of_isQuote hvalid.closing).1.1 hends.idle (stops_of_isQuote hquote) hsemi.idle
      (opaque_of_mild hvalid.closing hends.mild)
      (l := content.lineEnd ++ (importWord ++ [' '] ++
        ('{' :: ((emptyBraces.relist (sortSymbols required)).inner ++ ['}'])) ++
          sourceText content module))
      (by
        have hopaque := opaque_newStatement content hmodule hrequired hvalid.closing
          (hends.append (endsLine_lineEnd content))
        rw [text_newStatement] at hopaque
        simpa using hopaque) hx
    rw [hpoint, hentries]
    simpa [text_newStatement, htext] using this

/-- A name that is imported stays so when names are added to the imports of a text. -/
theorem Growth.bound (h : Growth content new module required) (hx : x ∈ boundNames content) :
    x ∈ boundNames new := by
  rw [mem_boundNames] at hx ⊢
  cases h with
  | same h => exact h ▸ hx
  | relisted i lead s b symbols he hclause hplain hidentifier hsymbols hkept hread =>
    rw [hread, binds_set_relist he hclause hplain hidentifier]
    · exact .inl hx
    · intro y hy
      have hname := hkept _ (mem_symbols_blockOf_iff.mp hy)
      rwa [String.ofList_toList] at hname
  | inserted hnone hread =>
    obtain ⟨e, he, hmem⟩ := hx
    exact ⟨e, by rw [hread]; exact List.mem_append_left _ he, hmem⟩

/-- Every name that a tidy text declares is declared or imported when names are added to its
imports. -/
theorem Growth.declared (h : Growth content new module required) (hmodule : Modest module)
    (hrequired : ∀ x ∈ required, isIdentifier x.toList = true) (htidy : Tidy content)
    (hx : x ∈ declaredNames content) : x ∈ declaredNames new ∨ x ∈ boundNames new := by
  cases h with
  | same h => exact .inl (h ▸ hx)
  | relisted i lead s b symbols he hclause hplain hidentifier hsymbols hkept hread =>
    exact declared_relist he hclause hplain hidentifier hkept hread hx
  | inserted hnone hread => exact .inl (declared_inserted hmodule hrequired htidy hread hx)

end

end DesignTokens.Import
