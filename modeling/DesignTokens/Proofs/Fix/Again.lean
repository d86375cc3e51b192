import DesignTokens.Proofs.Fix.Unresolved
import DesignTokens.Proofs.Import.Windows

/-! # Fixing a fixed text

When rules and canonical spellings leave a fixed text alone, fixing it once more does nothing. The
names that are still asked for are those that were asked for before; each of them was imported or
declared then, or it has been imported since, or it was reported because its module is blocked. What
was declared is declared or imported afterwards, as long as the settled text is tidy.

## Main results

* `Fix.absent_newText` - imports make no part of a kind that they stay clear of
* `Fix.declared_newText` - what the settled text declares
* `Fix.addImports_of_blocked` - names of blocked modules are not added
* `Fix.file_newText` - fixing a fixed text that is left alone otherwise
-/

namespace DesignTokens.Fix

open Text Import Declaration

section

variable {set : RuleSet} {path : Path} {t : Text} {module x : String}

/-- What holds of the settled text and is preserved by growing holds of the fixed text. -/
theorem newText_induction {P : Text → Prop} (hset : set.AsksForIdentifiers)
    (hmodules : ∀ module ∈ set.modules, Modest module)
    (hgrowth : ∀ content new module required, module ∈ set.modules →
      (∀ x ∈ required, isIdentifier x.toList = true) → Growth content new module required →
        P content → P new)
    (h : P (settle set path.extension t).1) : P (file set path t).newText := by
  rw [text_file]
  refine foldl_addImport_induction (fun content new need hneed hgrow => ?_)
    (valid_needs hset fun module hmodule => (hmodules module hmodule).1) h
  obtain ⟨hmodule, hsymbols⟩ := valid_of_mem_needs hset need hneed
  exact hgrowth content new need.1 need.2 hmodule hsymbols hgrow

/-- Imports make no part of a kind that they stay clear of. -/
theorem absent_newText {P : Text → Text → Text → Prop} (hset : set.AsksForIdentifiers)
    (hmodules : ∀ module ∈ set.modules, Modest module)
    (hdots : ∀ module ∈ set.modules, '.' ∉ module.toList) (hP : Clear P)
    (h : Absent P (settle set path.extension t).1) : Absent P (file set path t).newText :=
  newText_induction hset hmodules (fun _ _ module _ hmodule hsymbols hgrowth habsent =>
    hgrowth.absent hP (hmodules module hmodule) (hdots module hmodule) hsymbols habsent) h

/-- A name that the settled text declares is declared or imported in the fixed text. -/
theorem declared_newText (hset : set.AsksForIdentifiers)
    (hmodules : ∀ module ∈ set.modules, Modest module)
    (htidy : Tidy (settle set path.extension t).1)
    (hx : x ∈ declaredNames (settle set path.extension t).1) :
    x ∈ declaredNames (file set path t).newText ∨ x ∈ boundNames (file set path t).newText := by
  refine (newText_induction (P := fun u => Tidy u ∧ (x ∈ declaredNames u ∨ x ∈ boundNames u)) hset
    hmodules ?_ ⟨htidy, .inl hx⟩).2
  rintro content new module required hmodule hsymbols hgrowth ⟨htidy, hx⟩
  refine ⟨hgrowth.tidy htidy, ?_⟩
  rcases hx with hx | hx
  · exact hgrowth.declared (hmodules module hmodule) hsymbols htidy hx
  · exact .inr (hgrowth.bound hx)

/-- Names of blocked modules are not added. -/
theorem addImports_of_blocked (file : Path) {needed : ByName Names} (hvalid : Valid needed)
    (hblocked : ∀ need ∈ needed, Blocked t need.1) :
    (addImports set file t needed).text = t ∧ (addImports set file t needed).added = [] := by
  have hfold : ∀ unresolved, (needed.foldl (addImport set file) ⟨t, [], unresolved⟩).text = t ∧
      (needed.foldl (addImport set file) ⟨t, [], unresolved⟩).added = [] := by
    induction needed with
    | nil => exact fun unresolved => ⟨rfl, rfl⟩
    | cons need needed ih =>
      intro unresolved
      obtain ⟨-, hne, hsymbols⟩ := hvalid need List.mem_cons_self
      obtain ⟨e, herror⟩ := (blocked_iff_ensure set.importHosts hne hsymbols).mp
        (hblocked need List.mem_cons_self)
      rw [List.foldl_cons, addImport_of_error herror]
      exact ih (fun n hn => hvalid n (List.mem_cons_of_mem need hn))
        (fun n hn => hblocked n (List.mem_cons_of_mem need hn)) _
  exact hfold []

/-- What a fixed text that is left alone otherwise still asks for was reported. -/
theorem blocked_of_mem_needs_newText (hset : set.AsksForIdentifiers)
    (hmodules : ∀ module ∈ set.modules, Modest module)
    (htidy : Tidy (settle set path.extension t).1)
    (hrest : settle set path.extension (file set path t).newText = ((file set path t).newText, []))
    {need : String × Names} (hneed : need ∈ needs set path (file set path t).newText) :
    Blocked (file set path t).newText need.1 := by
  have hquotable : ∀ module ∈ set.modules, Quotable module := fun module hmodule =>
    (hmodules module hmodule).1
  -- A name that is needed again was needed before and not added, so that its module was reported.
  obtain ⟨x, hx⟩ := List.exists_mem_of_ne_nil need.2 (ne_nil_of_mem_requirements hneed)
  obtain ⟨hasks, hunbound, hundeclared⟩ := (lists_needs_newText_iff hset hquotable
    (congrArg Prod.fst hrest)).mp ⟨need.2, hneed, hx⟩
  have hcovers := covers_addImports hset hquotable path t
  have hasks' : Asks set (settle set path.extension t).1
      (settle set path.extension t).2 need.1 x := by
    cases hasks with
    | required rule r hfired =>
      rw [hrest] at hfired
      cases hfired
    | used usage husage hused hmodule hsymbol => exact .used usage husage hused hmodule hsymbol
  have hlists : Lists (needs set path t) need.1 x := by
    rw [needs, lists_requirements_iff]
    refine ⟨hasks', fun hbound => hunbound ((hcovers.bound x).mpr (.inl hbound)),
      fun hdeclared => ?_⟩
    rcases declared_newText hset hmodules htidy hdeclared with h | h
    · exact hundeclared h
    · exact hunbound h
  obtain ⟨symbols, hmem, hxs⟩ := hlists
  rcases hcovers.resolved (need.1, symbols) hmem with hbound | ⟨f, hf, hreports⟩
  · exact absurd (hbound x hxs) hunbound
  · have hblocked := blocked_of_mem_unresolved hset hquotable
      ((mem_unresolved_file hreports.kind).mpr hf) hreports.kind
    rwa [hreports.module] at hblocked

/-- Fixing a fixed text does nothing, if rules and canonical spellings leave it alone and the
settled text it comes from was tidy. -/
theorem file_newText (hset : set.AsksForIdentifiers)
    (hmodules : ∀ module ∈ set.modules, Modest module)
    (htidy : Tidy (settle set path.extension t).1)
    (hrest : settle set path.extension (file set path t).newText =
      ((file set path t).newText, [])) :
    (file set path (file set path t).newText).newText = (file set path t).newText ∧
      (file set path (file set path t).newText).changed = false ∧
      (file set path (file set path t).newText).fired = [] ∧
      (file set path (file set path t).newText).importsAdded = [] := by
  have hvalid : Valid (needs set path (file set path t).newText) :=
    valid_needs hset fun module hmodule => (hmodules module hmodule).1
  have hblocked : ∀ need ∈ needs set path (file set path t).newText,
      Blocked (file set path t).newText need.1 := fun need hneed =>
    blocked_of_mem_needs_newText hset hmodules htidy hrest hneed
  obtain ⟨htext, hadded⟩ := @addImports_of_blocked set _ path _ hvalid hblocked
  have hnew : (file set path (file set path t).newText).newText = (file set path t).newText := by
    rw [text_file, hrest]
    exact htext
  refine ⟨hnew, ?_, ?_, ?_⟩
  · have hchanged : (file set path (file set path t).newText).changed =
        decide ((file set path (file set path t).newText).newText ≠
          (file set path t).newText) := rfl
    rw [hchanged, hnew]
    simp
  · have hfired : (file set path (file set path t).newText).fired =
        (settle set path.extension (file set path t).newText).2.map (·.id) := rfl
    rw [hfired, hrest]
    rfl
  · rw [importsAdded_file, hrest]
    exact hadded

end

end DesignTokens.Fix
