import DesignTokens.Proofs.Import.OutlineEdit
import DesignTokens.Proofs.Import.SymbolList

/-! # Clauses with other names in their braces

A clause that can be edited keeps all but the text between its braces. The edited clause has the
form of one, binds the new names in the place of the old, imports values if the old one did, and can
be edited again if the word `as` is in none of its names.

## Main definitions

* `Import.Braced.clause` - the text of a clause that was cut at its braces
* `Import.Braced.relist` - a clause with other names in its braces
* `Import.Statement.relist` - a statement with such a clause

## Main results

* `Import.editable_eq_ok_iff` - which clauses can be edited
* `Import.editable_relist` - an edited clause can be edited again
* `Import.clauseNames_relist` - the names an edited clause binds
* `Import.Statement.Valid.relist` - a statement with an edited clause has the form of one
-/

namespace DesignTokens.Import

open Character Text

/-! ### Braces -/

namespace Braced

/-- The text of a clause that was cut at its braces. -/
def clause (b : Braced) : Text :=
  b.before ++ '{' :: (b.inner ++ '}' :: b.after)

/-- A clause with other names in its braces. -/
def relist (b : Braced) (symbols : List String) : Braced :=
  { b with inner := ' ' :: listText symbols ++ [' '] }

/-- The names that a clause binds outside its braces. -/
def outerNames (b : Braced) : List Text :=
  ((pieces ',' (b.before ++ [' '] ++ b.after)).filterMap boundName?).filter
    (· ≠ ['t', 'y', 'p', 'e'])

end Braced

theorem braced?_eq_some_iff {clause : Text} {b : Braced} :
    braced? clause = some b ↔ clause = b.clause ∧ '{' ∉ b.before ∧ '}' ∉ b.after := by
  unfold braced?
  constructor
  · intro h
    split at h
    · cases h
    · rename_i before rest hfirst
      split at h
      · cases h
      · rename_i inner after hlast
        -- The clause was cut at the first opening brace and the last closing one.
        obtain rfl := Option.some.inj h
        obtain ⟨rfl, hbefore⟩ := splitFirst?_eq_some_iff.mp hfirst
        obtain ⟨rfl, hafter⟩ := splitLast?_eq_some_iff.mp hlast
        exact ⟨rfl, hbefore, hafter⟩
  · rintro ⟨rfl, hbefore, hafter⟩
    rw [Braced.clause, splitFirst?_eq_some_iff.mpr ⟨rfl, hbefore⟩]
    simp only [splitLast?_eq_some_iff.mpr ⟨rfl, hafter⟩]

/-- A clause with braces that is one line of plain names, perhaps after a default name. -/
structure Braced.Plain (b : Braced) : Prop where
  newline : '\n' ∉ b.clause
  opening : '{' ∉ b.before ∧ '{' ∉ b.inner ∧ '{' ∉ b.after
  closing : '}' ∉ b.after
  star : '*' ∉ b.before ∧ '*' ∉ b.after
  noAlias : hasAlias b.inner = false
  names : ∀ name ∈ listEntries b.inner, isIdentifier name = true

/-- Which clauses can be edited. -/
theorem editable_eq_ok_iff {clause : Option Text} {b : Braced} {names : List Text} :
    editable clause = .ok (b, names) ↔
      clause = some b.clause ∧ b.Plain ∧ names = listEntries b.inner := by
  constructor
  · fun_cases editable clause with
    | case7 cl hnewline b' hb hopen hstar halias hnames =>
      -- All checks are passed.
      intro h
      obtain ⟨rfl, rfl⟩ := Prod.mk.inj (Except.ok.inj h)
      obtain ⟨rfl, hbefore, hafter⟩ := braced?_eq_some_iff.mp hb
      simp only [Bool.or_eq_true, List.contains_eq_mem, decide_eq_true_eq, not_or]
        at hnewline hopen hstar
      exact ⟨rfl, ⟨hnewline, ⟨hbefore, hopen.1, hopen.2⟩, hafter, hstar, by simpa using halias,
        by simpa using hnames⟩, rfl⟩
    | _ => exact nofun
  · rintro ⟨rfl, ⟨hnewline, ⟨hbefore, hinner, hafter⟩, hclosing, ⟨hstar, hstar'⟩, halias, hnames⟩,
      rfl⟩
    have hb := braced?_eq_some_iff.mpr ⟨rfl, hbefore, hclosing⟩
    simpa [editable, hb, hnewline, hinner, hafter, hstar, hstar', halias] using hnames

/-! ### Names in braces -/

section

variable {b : Braced} {symbols : List String}

theorem mem_listText {c : Char} (h : c ∈ listText symbols) :
    c = ',' ∨ c = ' ' ∨ ∃ name ∈ symbols, c ∈ name.toList := by
  rw [listText] at h
  induction symbols with
  | nil => cases h
  | cons name symbols ih =>
    cases symbols with
    | nil => exact .inr (.inr ⟨name, by simp, h⟩)
    | cons name' symbols =>
      have htext : joinWith [',', ' '] ((name :: name' :: symbols).map String.toList) =
          name.toList ++ [',', ' '] ++ joinWith [',', ' '] ((name' :: symbols).map String.toList) :=
        rfl
      rw [htext, List.mem_append, List.mem_append] at h
      rcases h with (h | h) | h
      · exact .inr (.inr ⟨name, by simp, h⟩)
      · rcases List.mem_pair.mp h with rfl | rfl
        · exact .inl rfl
        · exact .inr (.inl rfl)
      · rcases ih h with h | h | ⟨x, hx, h⟩
        · exact .inl h
        · exact .inr (.inl h)
        · exact .inr (.inr ⟨x, List.mem_cons_of_mem name hx, h⟩)

/-- The characters of a written list are those of identifiers, commas and spaces. -/
theorem not_mem_listText (h : ∀ x ∈ symbols, isIdentifier x.toList = true) {c : Char}
    (hc : isIdentifierPart c = false) (hcomma : c ≠ ',') (hspace : c ≠ ' ') :
    c ∉ listText symbols := by
  intro hmem
  rcases mem_listText hmem with h' | h' | ⟨x, hx, hmem⟩
  · exact hcomma h'
  · exact hspace h'
  · exact not_mem_of_isIdentifier (h x hx) hc hmem

theorem not_mem_relist_inner (h : ∀ x ∈ symbols, isIdentifier x.toList = true) {c : Char}
    (hc : isIdentifierPart c = false) (hcomma : c ≠ ',') (hspace : c ≠ ' ') :
    c ∉ (b.relist symbols).inner := by
  have hlist := not_mem_listText h hc hcomma hspace
  simp [Braced.relist, hlist, hspace]

theorem not_mem_relist_clause (h : ∀ x ∈ symbols, isIdentifier x.toList = true) {c : Char}
    (hc : isIdentifierPart c = false) (hcomma : c ≠ ',') (hspace : c ≠ ' ') (hb : c ∉ b.clause) :
    c ∉ (b.relist symbols).clause := by
  have hinner := not_mem_relist_inner (b := b) h hc hcomma hspace
  simp only [Braced.clause, List.mem_append, List.mem_cons, not_or] at hb ⊢
  exact ⟨hb.1, hb.2.1, hinner, hb.2.2.2⟩

theorem listEntries_relist (h : ∀ x ∈ symbols, isIdentifier x.toList = true) :
    listEntries (b.relist symbols).inner = symbols.map String.toList :=
  listEntries_spaced (by simpa using h)

/-- An edited clause can be edited again. -/
theorem Braced.Plain.relist (hb : b.Plain) (h : ∀ x ∈ symbols, isIdentifier x.toList = true)
    (halias : ∀ x ∈ symbols, hasAlias x.toList = false) : (b.relist symbols).Plain where
  newline := not_mem_relist_clause h (by decide) (by decide) (by decide) hb.newline
  opening := ⟨hb.opening.1, not_mem_relist_inner h (by decide) (by decide) (by decide),
    hb.opening.2.2⟩
  closing := hb.closing
  star := hb.star
  noAlias := hasAlias_spaced (by simpa using halias)
  names := by
    rw [listEntries_relist h]
    simpa using h

theorem editable_relist (hb : b.Plain) (h : ∀ x ∈ symbols, isIdentifier x.toList = true)
    (halias : ∀ x ∈ symbols, hasAlias x.toList = false) :
    editable (some (b.relist symbols).clause) =
      .ok (b.relist symbols, symbols.map String.toList) :=
  editable_eq_ok_iff.mpr ⟨rfl, hb.relist h halias, (listEntries_relist h).symm⟩

theorem clauseNames_of_plain (hb : b.Plain) :
    clauseNames b.clause = listEntries b.inner ++ b.outerNames := by
  rw [clauseNames, braced?_eq_some_iff.mpr ⟨rfl, hb.opening.1, hb.closing⟩]
  simp only [filterMap_boundName?_pieces hb.names]
  rfl

/-- The names an edited clause binds. -/
theorem clauseNames_relist (hb : b.Plain) (h : ∀ x ∈ symbols, isIdentifier x.toList = true) :
    clauseNames (b.relist symbols).clause = symbols.map String.toList ++ b.outerNames := by
  have hentries := listEntries_relist (b := b) h
  have hident : ∀ t ∈ listEntries (b.relist symbols).inner, isIdentifier t = true := by
    rw [hentries]
    simpa using h
  have hbound := filterMap_boundName?_pieces hident
  have hcut : braced? (b.relist symbols).clause = some (b.relist symbols) :=
    braced?_eq_some_iff.mpr ⟨rfl, hb.opening.1, hb.closing⟩
  rw [clauseNames, hcut]
  simp only [hbound, hentries]
  rfl

end

/-! ### Statements -/

namespace Statement

/-- A statement with other names in the braces of its clause. -/
def relist (s : Statement) (b : Braced) (symbols : List String) : Statement :=
  { s with clause := some (b.relist symbols).clause }

variable {s : Statement} {b : Braced} {symbols : List String}

theorem endsClause_eq_false_iff {c : Char} :
    endsClause c = false ↔ c ≠ '\'' ∧ c ≠ '"' ∧ c ≠ ';' := by
  simp [endsClause, isQuote, and_assoc]

theorem endsClause_of_isIdentifierPart {c : Char} (h : isIdentifierPart c = true) :
    endsClause c = false := by
  rw [endsClause_eq_false_iff]
  refine ⟨?_, ?_, ?_⟩ <;> rintro rfl <;> revert h <;> decide

theorem Valid.relist (hs : s.Valid) (hclause : s.clause = some b.clause)
    (h : ∀ x ∈ symbols, isIdentifier x.toList = true) : (s.relist b symbols).Valid where
  indent := hs.indent
  clause := by
    rintro cl ⟨⟩ c hc
    by_contra hends
    -- A character that ends a clause was not in the old one and is no part of an identifier.
    have hold : c ∉ b.clause := fun hmem => hends (hs.clause _ hclause c hmem)
    have hpart : isIdentifierPart c = false := by
      by_contra hpart
      exact hends (endsClause_of_isIdentifierPart (by simpa using hpart))
    refine not_mem_relist_clause h hpart ?_ ?_ hold hc <;> rintro rfl <;> exact hends (by decide)
  clause_head := by
    rintro cl ⟨⟩
    have hhead := hs.clause_head _ hclause
    cases hb : b.before with
    | nil =>
      have hbrace : isWordSide (some '{') = false := by decide
      simpa [Braced.clause, Braced.relist, hb] using hbrace
    | cons c before => simpa [Braced.clause, Braced.relist, hb] using hhead
  clause_last := by
    rintro cl ⟨⟩
    refine ⟨by simp [Braced.clause], ?_⟩
    have hlast := (hs.clause_last _ hclause).2
    simpa [Braced.clause, Braced.relist, List.getLast?_append, List.getLast?_cons] using hlast
  gap := hs.gap
  quote := hs.quote
  module := hs.module
  module_ne_nil := hs.module_ne_nil
  closing := hs.closing
  trail := hs.trail

theorem exchange_relist (lead : Text) (hs : s.Valid) (hclause : s.clause = some b.clause)
    (h : ∀ x ∈ symbols, isIdentifier x.toList = true) :
    Outline.Exchange (lead, s.relist b symbols) (lead, s) :=
  ⟨rfl, hs.relist hclause h, by simp [relist, hclause], rfl⟩

/-- Whether a clause is of types only is seen in front of its braces. -/
theorem startsWithType_append_brace (before t t' : Text) :
    startsWithType (before ++ '{' :: t) = startsWithType (before ++ '{' :: t') := by
  have htrim : ∀ u, trimStart (before ++ '{' :: u) = trimStart before ++ '{' :: u :=
    dropWhile_append_stop_cons (by decide) before
  simp only [startsWithType, htrim]
  cases h : after? ['t', 'y', 'p', 'e'] (trimStart before) with
  | some more =>
    rw [after?_eq_some_iff.mp h]
    simp only [List.append_assoc, after?_append]
    cases more <;> rfl
  | none =>
    -- The word is not in front of the brace, and it has no brace in it.
    have hnone : ∀ u, after? ['t', 'y', 'p', 'e'] (trimStart before ++ '{' :: u) = none := by
      intro u
      by_contra hne
      obtain ⟨r, hr⟩ := Option.ne_none_iff_exists'.mp hne
      rcases List.append_eq_append_iff.mp (after?_eq_some_iff.mp hr) with ⟨w, hw, hr⟩ | ⟨w, hw, -⟩
      · cases w with
        | nil =>
          rw [List.append_nil] at hw
          rw [← hw] at h
          cases h
        | cons d w =>
          obtain ⟨rfl, -⟩ := List.cons.inj hr
          have hmem : '{' ∈ ['t', 'y', 'p', 'e'] := by simp [hw]
          exact absurd hmem (by decide)
      · rw [hw, after?_append] at h
        cases h
    rw [hnone, hnone]

theorem isTypeOnly_relist (hclause : s.clause = some b.clause) :
    (s.relist b symbols).isTypeOnly = s.isTypeOnly := by
  simp only [isTypeOnly, relist, hclause, Option.any_some]
  exact startsWithType_append_brace b.before _ _

end Statement

end DesignTokens.Import
