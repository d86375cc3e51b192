import DesignTokens.Proofs.Import.Ensure

/-! # Laws of adding imports

Adding imports loses none and adds those that are wanted and no others. It does so step by step or
at once with the same result.

## Main results

* `Import.boundNames_ensure` - what a text with names added binds
* `Import.ensure_union` - names added in two steps are names added at once
-/

namespace DesignTokens.Import

open Character Text

/-! ### Bound names -/

/-- The names that the statements of an outline bind. -/
def Outline.Binds (o : Outline) (x : String) : Prop :=
  ∃ e ∈ o.entries, x.toList ∈ e.2.names

theorem mem_boundNames {content : Text} {x : String} :
    x ∈ boundNames content ↔ (Outline.read content).Binds x := by
  rw [boundNames, Names.mem_ofList, List.mem_map]
  constructor
  · rintro ⟨name, hname, rfl⟩
    obtain ⟨e, he, hmem⟩ := List.mem_flatMap.mp hname
    exact ⟨e, he, by rwa [String.toList_ofList]⟩
  · rintro ⟨e, he, hmem⟩
    exact ⟨x.toList, List.mem_flatMap.mpr ⟨e, he, hmem⟩, String.ofList_toList⟩

theorem exists_front_more {α : Type} {l : List α} {i : Nat} {a : α} (h : l[i]? = some a) :
    ∃ front more, l = front ++ a :: more ∧ ∀ b, l.set i b = front ++ b :: more := by
  obtain ⟨hlt, rfl⟩ := List.getElem?_eq_some_iff.mp h
  refine ⟨l.take i, l.drop (i + 1), ?_, fun b => ?_⟩
  · rw [List.getElem_cons_drop, List.take_append_drop]
  · rw [List.set_eq_take_append_cons_drop, if_pos hlt]

section

variable {o : Outline} {i : Nat} {lead : Text} {s : Statement} {b : Braced} {symbols : List String}

theorem names_of_plain (hclause : s.clause = some b.clause) (hb : b.Plain) :
    s.names = listEntries b.inner ++ b.outerNames := by
  rw [Statement.names, hclause]
  exact clauseNames_of_plain hb

theorem names_relist (hb : b.Plain) (h : ∀ x ∈ symbols, isIdentifier x.toList = true) :
    (s.relist b symbols).names = symbols.map String.toList ++ b.outerNames :=
  clauseNames_relist hb h

theorem mem_symbols_blockOf_iff {x : String} :
    x ∈ (o.blockOf i lead s b).symbols ↔ x.toList ∈ listEntries b.inner := by
  rw [Outline.blockOf, List.mem_map]
  constructor
  · rintro ⟨name, hname, rfl⟩
    rwa [String.toList_ofList]
  · intro h
    exact ⟨x.toList, h, String.ofList_toList⟩

/-- What a text with other names in one list binds: the new names, and all that it bound before
except perhaps the names that were in the list. -/
theorem binds_set_relist (he : o.entries[i]? = some (lead, s)) (hclause : s.clause = some b.clause)
    (hb : b.Plain) (h : ∀ x ∈ symbols, isIdentifier x.toList = true)
    (hsub : ∀ x ∈ (o.blockOf i lead s b).symbols, x ∈ symbols) {x : String} :
    (o.set i (lead, s.relist b symbols)).Binds x ↔ o.Binds x ∨ x ∈ symbols := by
  obtain ⟨front, more, hentries, hset⟩ := exists_front_more he
  have hold : x.toList ∈ s.names ↔ x ∈ (o.blockOf i lead s b).symbols ∨
      x.toList ∈ b.outerNames := by
    rw [names_of_plain hclause hb, List.mem_append, mem_symbols_blockOf_iff]
  have hnew : x.toList ∈ (s.relist b symbols).names ↔ x ∈ symbols ∨ x.toList ∈ b.outerNames := by
    simp [names_relist hb h, String.toList_inj]
  rw [Outline.Binds, Outline.Binds, Outline.set, hset, hentries]
  simp only [List.mem_append, List.mem_cons, or_and_right, exists_or, exists_eq_left, hold, hnew]
  have hmem := hsub x
  grind

end

/-- What a text with names added to one of its lists binds. -/
theorem mem_boundNames_text_add {content : Text} {i : Nat} {block : Block} {required : List String}
    (hblock : (Outline.read content).blockAt? i = some block)
    (h : ∀ x ∈ required, isIdentifier x.toList = true) {x : String} :
    x ∈ boundNames (block.add required).text ↔ x ∈ boundNames content ∨ x ∈ required := by
  obtain ⟨lead, s, b, he, hclause, hplain, rfl⟩ := Outline.blockAt?_eq_some_iff.mp hblock
  have hbound : x ∈ ((Outline.read content).blockOf i lead s b).symbols →
      (Outline.read content).Binds x := by
    intro hx
    refine ⟨(lead, s), List.mem_of_getElem? he, ?_⟩
    rw [names_of_plain hclause hplain, List.mem_append]
    exact .inl (mem_symbols_blockOf_iff.mp hx)
  rw [mem_boundNames, mem_boundNames]
  rcases Outline.add_cases hblock h with ⟨hsub, hadd, htext⟩ | ⟨symbols, hadd, hident, hmem⟩
  · rw [hadd, htext]
    exact ⟨.inl, fun hx => hx.elim id fun hx => hbound (hsub x hx)⟩
  · rw [hadd]
    rw [Outline.read_relist he hclause hident,
      binds_set_relist he hclause hplain hident fun y hy => (hmem y).mpr (.inl hy), hmem]
    exact ⟨fun hx => hx.elim .inl fun hx => hx.elim (fun hx => .inl (hbound hx)) .inr,
      fun hx => hx.elim .inl fun hx => .inr (.inr hx)⟩

/-- An import of no names binds none. -/
theorem binds_withEmptyImport {content : Text} {module : String} {x : String} :
    (withEmptyImport content module).Binds x ↔ (Outline.read content).Binds x := by
  have hnone : (emptyImport (newQuote content) (newSemicolon content) module).names = [] := by
    rw [names_of_plain rfl emptyBraces_plain]
    decide
  simp [Outline.Binds, withEmptyImport, withStatement, or_and_right, exists_or, hnone]

/-- A text with names added binds what it bound before and the names that were wanted. -/
theorem mem_boundNames_ensure {hosts : List Host} {content new : Text} {module x : String}
    {required : Names} (hmodule : Quotable module)
    (hrequired : ∀ x ∈ required, isIdentifier x.toList = true)
    (h : ensure hosts content module required = .ok new) :
    x ∈ boundNames new ↔ x ∈ boundNames content ∨ x ∈ required := by
  by_cases hne : required = []
  · subst hne
    cases h
    simp
  obtain ⟨block, hslot, rfl⟩ := exists_slot_of_ensure hne hrequired h
  rcases slot_eq_ok hslot with ⟨i, hblock⟩ | rfl
  · exact mem_boundNames_text_add hblock hrequired
  · -- The names of a new import are added to one that binds nothing.
    have hread := read_withEmptyImport content hmodule
    have hblock : (Outline.read (withEmptyImport content module).text).blockAt?
        (Outline.read content).entries.length = some (newBlock content module) := by
      rw [hread]
      exact blockAt?_withEmptyImport
    rw [mem_boundNames_text_add hblock hrequired, mem_boundNames, mem_boundNames, hread,
      binds_withEmptyImport]

/-- What a text with names added binds: what it bound before and the names that were wanted. -/
theorem boundNames_ensure {hosts : List Host} {content new : Text} {module : String}
    {required : Names} (hmodule : Quotable module)
    (hrequired : ∀ x ∈ required, isIdentifier x.toList = true)
    (h : ensure hosts content module required = .ok new) :
    boundNames new = (boundNames content).union required := by
  have hincreasing : Names.Increasing (boundNames content) := Names.increasing_ofList _
  refine Names.Increasing.ext (Names.increasing_ofList _)
    (Names.increasing_union required hincreasing) fun x => ?_
  rw [Names.mem_union]
  exact mem_boundNames_ensure hmodule hrequired h

/-- The names of a module that go to the import of a host, after its default name. -/
theorem boundNames_ensure_host :
    ensure [⟨"m", "n", some "B"⟩] "import D, { B } from \"n\"\nD(B)".toList "m" ["A"] =
        .ok "import D, { A, B } from \"n\"\nD(B)".toList ∧
      boundNames "import D, { A, B } from \"n\"\nD(B)".toList = ["A", "B", "D"] := by
  have hensure : ensure [⟨"m", "n", some "B"⟩] "import D, { B } from \"n\"\nD(B)".toList "m" ["A"] =
      .ok "import D, { A, B } from \"n\"\nD(B)".toList := by
    simp only [ensure, merge, insert, sortSymbols_eq_insertionSort]
    decide +kernel
  refine ⟨hensure, (boundNames_ensure (by decide) (by decide) hensure).trans ?_⟩
  decide +kernel

/-! ### Adding in steps -/

section

variable {hosts : List Host} {content : Text} {module : String} {a b : Names}

theorem ensure_nil : ensure hosts content module [] = .ok content := rfl

theorem ensure_bind_ensure (hmodule : Quotable module) (ha : Names.Increasing a)
    (hb : Names.Increasing b) (hident : ∀ x ∈ a ++ b, isIdentifier x.toList = true)
    (halias : ∀ x ∈ a ++ b, hasAlias x.toList = false) :
    (ensure hosts content module a >>= fun text => ensure hosts text module b) =
      ensure hosts content module (a.union b) := by
  by_cases hanil : a = []
  · subst hanil
    rw [Names.union_comm ha hb]
    rfl
  by_cases hbnil : b = []
  · subst hbnil
    simp only [ensure_nil]
    exact bind_pure _
  have hunil : a.union b ≠ [] := by
    obtain ⟨x, rest, rfl⟩ := List.exists_cons_of_ne_nil hanil
    exact List.ne_nil_of_mem (Names.mem_union.mpr (.inl List.mem_cons_self))
  have hia : ∀ x ∈ a, isIdentifier x.toList = true := fun x hx => hident x (by simp [hx])
  have hib : ∀ x ∈ b, isIdentifier x.toList = true := fun x hx => hident x (by simp [hx])
  have hiu : ∀ x ∈ a.union b, isIdentifier x.toList = true :=
    fun x hx => (Names.mem_union.mp hx).elim (hia x) (hib x)
  rw [ensure_eq_map_slot hanil hia, ensure_eq_map_slot hunil hiu]
  cases hslot : slot hosts content module with
  | error e => rfl
  | ok block =>
    -- The second step finds the list that the first one left.
    have hagain := slot_text_add hmodule hia (fun x hx => halias x (by simp [hx])) hslot
    change ensure hosts (block.add a).text module b = .ok (block.add (a.union b)).text
    rw [ensure_eq_map_slot hbnil hib, hagain, ← Block.add_add block ha hb]
    rfl

/-- Names added in two steps are names added at once, with the same text or the same error. So
adding twice is adding once, and either of two steps may come first. -/
theorem ensure_union (hmodule : Quotable module) (ha : Names.Increasing a)
    (hb : Names.Increasing b) (hident : ∀ x ∈ a ++ b, isIdentifier x.toList = true)
    (halias : ∀ x ∈ a ++ b, hasAlias x.toList = false) :
    (ensure hosts content module a >>= fun text => ensure hosts text module b) =
        ensure hosts content module (a.union b) ∧
      (ensure hosts content module a >>= fun text => ensure hosts text module a) =
        ensure hosts content module a ∧
      (ensure hosts content module a >>= fun text => ensure hosts text module b) =
        ensure hosts content module b >>= fun text => ensure hosts text module a := by
  have hmem : ∀ x, x ∈ b ++ a → x ∈ a ++ b := by simp [or_comm]
  have hdouble : ∀ x, x ∈ a ++ a → x ∈ a ++ b := by simp; tauto
  refine ⟨ensure_bind_ensure hmodule ha hb hident halias, ?_, ?_⟩
  · rw [ensure_bind_ensure hmodule ha ha (fun x hx => hident x (hdouble x hx))
      fun x hx => halias x (hdouble x hx), Names.union_eq_self ha fun x hx => hx]
  · rw [ensure_bind_ensure hmodule ha hb hident halias,
      ensure_bind_ensure hmodule hb ha (fun x hx => hident x (hmem x hx))
        fun x hx => halias x (hmem x hx), Names.union_comm ha hb]

end

/-- A name that is inserted and one that joins it. -/
theorem ensure_union_new :
    (ensure [] "#!node\nrun()".toList "m" ["b"] >>= fun text => ensure [] text "m" ["A"]) =
      .ok "#!node\nimport { A, b } from 'm';\nrun()".toList := by
  refine (ensure_union (by decide) (by decide) (by decide) (by decide) (by decide)).1.trans ?_
  simp only [ensure, merge, insert, sortSymbols_eq_insertionSort]
  decide +kernel

end DesignTokens.Import
