import DesignTokens.Proofs.Import.Frame
import DesignTokens.Proofs.Text.Tokens

/-! # The grammar of imports

Import declarations as the language has them, in any layout: a declaration has tokens, and between
two tokens stands as much white space as one likes.

The last word of what stands between two commas is the name that is bound there. This is so since
every binding ends with its name and since a word is set off from the word in front of it.

## Main definitions

* `Import.Form` - an import declaration, and `Import.Form.locals` the names it binds
* `Import.Form.Spelling` - a layout of a declaration
* `Import.Written` - whether a text consists of declarations, each at the start of a line
* `Import.Form.ReadAs` - what a statement has in common with a declaration

## Main results

* `Import.mem_clauseNames_iff_of_laid` - the names that a clause binds
* `Import.startsWithType_of_laid` - whether a clause is of types only
* `Import.clause_of_laid` - what stands in front of `from` has the form of a clause
-/

namespace DesignTokens.Import

open Character Text

/-! ### Declarations -/

/-- The word in front of what is imported as a type. -/
def typeWord : Text := ['t', 'y', 'p', 'e']

/-- The word in front of another name for what is imported. -/
def asWord : Text := ['a', 's']

/-- A name in an import: an identifier other than `type`. -/
structure Local where
  text : Text
  identifier : isIdentifier text = true
  ne_typeWord : text ≠ typeWord

/-- The token of a name. -/
def Local.token (n : Local) : Token :=
  .word n.text

/-- The word `type`, or nothing. -/
def typeTokens (ofType : Bool) : List Token :=
  if ofType then [.word typeWord] else []

/-- A member of a list of names. -/
structure Member where
  ofType : Bool
  name : Local
  /-- Another name for it. -/
  alias? : Option Local

namespace Member

/-- The tokens of a member. -/
def tokens (m : Member) : List Token :=
  match m.alias? with
  | none => typeTokens m.ofType ++ [m.name.token]
  | some other => typeTokens m.ofType ++ [m.name.token, .word asWord, other.token]

/-- The name that a member binds. -/
def bound (m : Member) : Local :=
  m.alias?.getD m.name

end Member

/-- Items with a comma between each and the next. -/
def separated : List (List Token) → List Token
  | [] => []
  | [item] => item
  | item :: items => item ++ .mark ',' :: separated items

/-- What is imported of a module: all of it under one name, or members of it. A list may have a
comma after its last member. -/
inductive Group where
  | whole (name : Local)
  | list (members : List Member) (comma : Bool)

namespace Group

/-- The items between the braces of a list; after the last comma there is nothing. -/
def listItems (members : List Member) (comma : Bool) : List (List Token) :=
  members.map Member.tokens ++ if comma then [[]] else []

/-- The tokens of a group. -/
def tokens : Group → List Token
  | whole name => [.mark '*', .word asWord, name.token]
  | list members comma => .mark '{' :: (separated (listItems members comma) ++ [.mark '}'])

/-- The names that a group binds. -/
def locals : Group → List Text
  | whole name => [name.text]
  | list members _ => members.map (·.bound.text)

end Group

/-- What a declaration binds: the default of a module, a group, or both. -/
inductive Bindings where
  | default (name : Local)
  | group (group : Group)
  | both (name : Local) (group : Group)

namespace Bindings

/-- The tokens of bindings. -/
def tokens : Bindings → List Token
  | default name => [name.token]
  | group g => g.tokens
  | both name g => name.token :: .mark ',' :: g.tokens

/-- The names that are bound. -/
def locals : Bindings → List Text
  | default name => [name.text]
  | group g => g.locals
  | both name g => name.text :: g.locals

end Bindings

/-- What stands between the words `import` and `from`. -/
structure Clause where
  ofType : Bool
  bindings : Bindings

/-- The tokens of a clause. -/
def Clause.tokens (c : Clause) : List Token :=
  typeTokens c.ofType ++ c.bindings.tokens

/-- An import declaration. Without a clause it is for its effect only. -/
structure Form where
  clause? : Option Clause
  quote : Char
  isQuote_quote : isQuote quote = true
  module : Text
  module_ne_nil : module ≠ []
  /-- Neither a quote nor a line break stands in the name of the module. -/
  endsModule_module : ∀ c ∈ module, endsModule c = false
  semicolon : Bool

namespace Form

/-- The tokens between the word `import` and the opening quote. -/
def tokens (d : Form) : List Token :=
  match d.clause? with
  | none => []
  | some c => c.tokens ++ [.word fromWord]

/-- Whether a declaration is of types only. -/
def ofType (d : Form) : Bool :=
  d.clause?.any (·.ofType)

/-- The names that a declaration binds. -/
def locals (d : Form) : List Text :=
  match d.clause? with
  | none => []
  | some c => c.bindings.locals

/-- A layout of a declaration. The semicolon stands on the line of the closing quote. -/
structure Spelling (d : Form) where
  indent : Text
  isIndent_indent : ∀ c ∈ indent, isIndent c = true
  head : Text
  laid_head : Laid true d.tokens head
  gap : Text
  blank_gap : Blank gap
  trail : Text
  isIndent_trail : ∀ c ∈ trail, isIndent c = true

/-- The characters of a layout. -/
def Spelling.text {d : Form} (sp : d.Spelling) : Text :=
  sp.indent ++ (importWord ++ (sp.head ++ (sp.gap ++ (d.quote :: (d.module ++ (d.quote ::
    (if d.semicolon then sp.trail ++ [';'] else [])))))))

/-- What a statement that was read has in common with a declaration. -/
structure ReadAs (d : Form) (s : Statement) : Prop where
  module : s.module = d.module
  quote : s.quote = d.quote
  semicolon : s.semicolon = d.semicolon
  ofType : s.isTypeOnly = d.ofType
  clause : s.clause = none ↔ d.clause? = none
  names : ∀ x, x ∈ s.names ↔ x ∈ d.locals

end Form

/-- A text of declarations, each at the start of a line, with white space between them. -/
inductive Written : List Form → Text → Prop
  | blank {t : Text} (h : Blank t) : Written [] t
  | last {d : Form} {lead tail : Text} (sp : d.Spelling) (hlead : Blank lead)
      (hstart : ∀ c ∈ lead.getLast?, c = '\n') (htail : Blank tail) (hline : '\n' ∉ tail) :
      Written [d] (lead ++ (sp.text ++ tail))
  | cons {d : Form} {ds : List Form} {lead tail rest : Text} (sp : d.Spelling) (hlead : Blank lead)
      (hstart : ∀ c ∈ lead.getLast?, c = '\n') (htail : Blank tail) (hline : '\n' ∉ tail)
      (hrest : Written ds rest) :
      Written (d :: ds) (lead ++ (sp.text ++ (tail ++ '\n' :: rest)))

/-! ### The characters of a clause -/

section

variable {afterWord : Bool} {ts : List Token} {items inner : List (List Token)} {t trail : Text}
  {k : Token} {c : Char} {cl : Clause} {x : Text}

theorem mem_separated (h : k ∈ separated items) :
    k = .mark ',' ∨ ∃ item ∈ items, k ∈ item := by
  fun_induction separated items with
  | case1 => cases h
  | case2 item => exact .inr ⟨item, List.mem_singleton_self item, h⟩
  | case3 item items _ ih =>
    rcases List.mem_append.mp h with h | h
    · exact .inr ⟨item, List.mem_cons_self, h⟩
    · rcases List.mem_cons.mp h with h | h
      · exact .inl h
      · obtain hcomma | ⟨item', hitem', hk⟩ := ih h
        · exact .inl hcomma
        · exact .inr ⟨item', List.mem_cons_of_mem item hitem', hk⟩

/-- The marks of clauses. -/
def clauseMarks : List Char :=
  ['*', ',', '{', '}']

/-- A token of clauses. -/
def InClause : Token → Prop
  | .word w => isIdentifier w = true
  | .mark c => c ∈ clauseMarks

theorem Local.inClause (n : Local) : InClause n.token :=
  n.identifier

theorem inClause_typeTokens {ofType : Bool} (h : k ∈ typeTokens ofType) : InClause k := by
  cases ofType with
  | false => cases h
  | true =>
    obtain rfl := List.mem_singleton.mp h
    exact (by decide : isIdentifier typeWord = true)

theorem Member.inClause_tokens {m : Member} (h : k ∈ m.tokens) : InClause k := by
  have has : InClause (.word asWord) := (by decide : isIdentifier asWord = true)
  rw [Member.tokens] at h
  split at h
  · rcases List.mem_append.mp h with h | h
    · exact inClause_typeTokens h
    · exact List.mem_singleton.mp h ▸ m.name.inClause
  · rename_i other _
    rcases List.mem_append.mp h with h | h
    · exact inClause_typeTokens h
    · simp only [List.mem_cons, List.not_mem_nil, or_false] at h
      rcases h with rfl | rfl | rfl
      · exact m.name.inClause
      · exact has
      · exact other.inClause

theorem Group.inClause_tokens {g : Group} (h : k ∈ g.tokens) : InClause k := by
  have hmark : ∀ c ∈ clauseMarks, InClause (.mark c) := fun c hc => hc
  cases g with
  | whole name =>
    simp only [Group.tokens, List.mem_cons, List.not_mem_nil, or_false] at h
    rcases h with rfl | rfl | rfl
    · exact hmark _ (by decide)
    · exact (by decide : isIdentifier asWord = true)
    · exact name.inClause
  | list members comma =>
    simp only [Group.tokens, List.mem_cons, List.mem_append, List.not_mem_nil, or_false] at h
    rcases h with rfl | h | rfl
    · exact hmark _ (by decide)
    · obtain rfl | ⟨item, hitem, hk⟩ := mem_separated h
      · exact hmark _ (by decide)
      · rw [Group.listItems, List.mem_append, List.mem_map] at hitem
        obtain ⟨m, -, rfl⟩ | hitem := hitem
        · exact m.inClause_tokens hk
        · split at hitem <;> simp_all
    · exact hmark _ (by decide)

theorem Clause.inClause_tokens (h : k ∈ cl.tokens) : InClause k := by
  have hcomma : InClause (.mark ',') := (by decide : ',' ∈ clauseMarks)
  rw [Clause.tokens, List.mem_append] at h
  rcases h with h | h
  · exact inClause_typeTokens h
  · cases hb : cl.bindings with
    | default name =>
      rw [hb] at h
      exact List.mem_singleton.mp h ▸ name.inClause
    | group g =>
      rw [hb] at h
      exact g.inClause_tokens h
    | both name g =>
      rw [hb] at h
      rcases List.mem_cons.mp h with rfl | h
      · exact name.inClause
      · rcases List.mem_cons.mp h with rfl | h
        · exact hcomma
        · exact g.inClause_tokens h

/-- A mark is no part of a word and no blank. -/
theorem class_of_mem_clauseMarks (h : c ∈ clauseMarks) :
    isIdentifierPart c = false ∧ isBlank c = false ∧ isWord c = false ∧ endsClause c = false := by
  simp only [clauseMarks, List.mem_cons, List.not_mem_nil, or_false] at h
  rcases h with rfl | rfl | rfl | rfl <;> decide

/-- A mark stands in a layout only where it is one of the tokens. -/
theorem not_mem_of_laid (h : Laid afterWord ts t) (hts : ∀ k ∈ ts, InClause k)
    (hc : c ∈ clauseMarks) (hmark : .mark c ∉ ts) : c ∉ t := by
  intro hmem
  obtain ⟨hpart, hblank, -⟩ := class_of_mem_clauseMarks hc
  obtain hb | ⟨k, hk, hck⟩ := mem_of_laid h hmem
  · rw [hblank] at hb
    cases hb
  · cases k with
    | word w =>
      rw [isIdentifierPart_of_isIdentifier (hts _ hk) c hck] at hpart
      cases hpart
    | mark d =>
      obtain rfl : c = d := List.mem_singleton.mp hck
      exact hmark hk

/-! ### The names of a clause -/

/-- What stands between two commas: nothing, or tokens that end with a name, which no mark comes
right in front of. -/
structure Item (ts : List Token) : Prop where
  comma : .mark ',' ∉ ts
  inClause : ∀ k ∈ ts, InClause k
  name : ts = [] ∨ ∃ front w, ts = front ++ [.word w] ∧ endsInWord true front = true

theorem inClause_separated (hitems : ∀ item ∈ items, Item item) :
    ∀ k ∈ separated items, InClause k := by
  intro k hk
  obtain rfl | ⟨item, hitem, hmem⟩ := mem_separated hk
  · exact (by decide : ',' ∈ clauseMarks)
  · exact (hitems item hitem).inClause k hmem

/-- The last of several tokens, if it is a word. -/
def itemName? (ts : List Token) : Option Text :=
  match ts.getLast? with
  | some (.word w) => some w
  | _ => none

theorem boundName?_of_blank (h : Blank t) : boundName? t = none := by
  have hwords : words t = [] := by
    simpa [words, wordsFrom] using wordsFrom_append_of_blanks h []
  rw [boundName?, hwords]
  rfl

/-- The name bound between two commas is the last word there. -/
theorem boundName?_of_item (h : Laid afterWord ts t) (hts : Item ts) (htrail : Blank trail) :
    boundName? (t ++ trail) = itemName? ts := by
  rcases hts.name with rfl | ⟨front, w, rfl, hfront⟩
  · obtain rfl : t = [] := h
    exact boundName?_of_blank htrail
  · obtain ⟨u, gap, rfl, hu, hgap, hapart⟩ := laid_concat.mp h
    have hw : isIdentifier w = true := hts.inClause (.word w) (by simp)
    have hset : u = [] ∨ gap ≠ [] := by
      cases front with
      | nil => exact .inl hu
      | cons k front => exact .inr (hapart hfront rfl)
    have hlast := getLast?_words hgap htrail (ne_nil_of_isIdentifier hw)
      (isBlank_of_isIdentifier hw) hset
    simp only [List.append_assoc, Token.text]
    rw [boundName?, hlast, itemName?, List.getLast?_concat]
    exact if_pos hw

/-- The names bound between commas are the last words of the items. -/
theorem filterMap_boundName?_of_separated (h : Laid afterWord (separated items) t)
    (hitems : ∀ item ∈ items, Item item) (htrail : Blank trail) :
    (pieces ',' (t ++ trail)).filterMap boundName? = items.filterMap itemName? := by
  have hcomma : ',' ∉ trail := htrail.not_mem (by decide)
  have hnot : ∀ {afterWord item u}, Item item → Laid afterWord item u → ',' ∉ u :=
    fun hitem hu => not_mem_of_laid hu hitem.inClause (by decide) hitem.comma
  induction items using separated.induct generalizing afterWord t with
  | case1 =>
    obtain rfl : t = [] := h
    rw [List.nil_append, pieces_of_not_mem hcomma]
    simp [boundName?_of_blank htrail]
  | case2 item =>
    have hitem := hitems item (List.mem_singleton_self item)
    rw [separated] at h
    have hmem : ',' ∉ t ++ trail := by simp [hnot hitem h, hcomma]
    rw [pieces_of_not_mem hmem, List.filterMap_cons, boundName?_of_item h hitem htrail]
    rfl
  | case3 item items hne ih =>
    obtain ⟨hitem, hrest⟩ := List.forall_mem_cons.mp hitems
    rw [separated] at h
    · -- The text is cut at the comma behind the first item, as the item has none.
      obtain ⟨u, v, rfl, hu, gap, rest, rfl, hgap, -, hlaid⟩ := laid_append.mp h
      have hmem : ',' ∉ u ++ gap := by simp [hnot hitem hu, hgap.not_mem (c := ',') (by decide)]
      have heq : u ++ (gap ++ (Token.text (.mark ',') ++ rest)) ++ trail =
          (u ++ gap) ++ ',' :: (rest ++ trail) := by simp [Token.text]
      rw [heq, pieces_append_cons hmem, List.filterMap_cons, boundName?_of_item hu hitem hgap,
        ih hlaid hrest, List.filterMap_cons]
    · exact hne

/-- The names of a clause without braces. -/
theorem clauseNames_of_separated (h : Laid afterWord (separated items) t)
    (hitems : ∀ item ∈ items, Item item) (hbrace : .mark '{' ∉ separated items)
    (htrail : Blank trail) :
    clauseNames (t ++ trail) = (items.filterMap itemName?).filter (· ≠ typeWord) := by
  have hnot : '{' ∉ t ++ trail := by
    simp [not_mem_of_laid h (inClause_separated hitems) (by decide) hbrace,
      htrail.not_mem (c := '{') (by decide)]
  have hnone : braced? (t ++ trail) = none := by
    cases hb : braced? (t ++ trail) with
    | none => rfl
    | some b =>
      rw [(braced?_eq_some_iff.mp hb).1, Braced.clause] at hnot
      simp at hnot
  rw [clauseNames, hnone]
  exact congrArg _ (filterMap_boundName?_of_separated h hitems htrail)

/-- The names of a clause with a list in braces. -/
theorem clauseNames_of_braces
    (h : Laid afterWord (separated items ++ .mark '{' :: (separated inner ++ [.mark '}'])) t)
    (hitems : ∀ item ∈ items, Item item) (hinner : ∀ item ∈ inner, Item item)
    (hbrace : .mark '{' ∉ separated items) (htrail : Blank trail) :
    clauseNames (t ++ trail) =
      inner.filterMap itemName? ++ (items.filterMap itemName?).filter (· ≠ typeWord) := by
  obtain ⟨u, v, rfl, hu, gap, rest, rfl, hgap, -, hlaid⟩ := laid_append.mp h
  obtain ⟨w, gap', rfl, hw, hgap', -⟩ := laid_concat.mp hlaid
  -- The braces of the group are the first of the clause, and the last.
  have hbefore : '{' ∉ u ++ gap := by
    simp [not_mem_of_laid hu (inClause_separated hitems) (by decide) hbrace,
      hgap.not_mem (c := '{') (by decide)]
  have hsome : braced? (u ++ (gap ++ (Token.text (.mark '{') ++
      (w ++ (gap' ++ Token.text (.mark '}'))))) ++ trail) =
      some ⟨u ++ gap, w ++ gap', trail⟩ :=
    braced?_eq_some_iff.mpr ⟨by simp [Braced.clause, Token.text], hbefore,
      htrail.not_mem (by decide)⟩
  have houter : Blank (gap ++ ([' '] ++ trail)) :=
    hgap.append (Blank.append (by decide) htrail)
  rw [clauseNames, hsome]
  simp only [List.append_assoc]
  rw [filterMap_boundName?_of_separated hw hinner hgap',
    filterMap_boundName?_of_separated hu hitems houter]
  rfl

/-! ### The items of a declaration -/

theorem item_nil : Item [] where
  comma := List.not_mem_nil
  inClause := by simp
  name := .inl rfl

/-- A name after tokens that do not end with a mark. -/
theorem item_concat {front : List Token} (n : Local) (hcomma : .mark ',' ∉ front)
    (hfront : ∀ k ∈ front, InClause k) (hends : endsInWord true front = true) :
    Item (front ++ [n.token]) where
  comma := by simp [hcomma, Local.token]
  inClause := by
    intro k hk
    rcases List.mem_append.mp hk with hk | hk
    · exact hfront k hk
    · exact List.mem_singleton.mp hk ▸ n.inClause
  name := .inr ⟨front, n.text, rfl, hends⟩

theorem mark_not_mem_typeTokens (c : Char) (ofType : Bool) : .mark c ∉ typeTokens ofType := by
  cases ofType <;> simp [typeTokens]

theorem endsInWord_typeTokens (ofType : Bool) : endsInWord true (typeTokens ofType) = true := by
  cases ofType <;> rfl

theorem item_typeTokens (ofType : Bool) : Item (typeTokens ofType) where
  comma := mark_not_mem_typeTokens ',' ofType
  inClause := fun _ => inClause_typeTokens
  name := by
    cases ofType with
    | false => exact .inl rfl
    | true => exact .inr ⟨[], typeWord, rfl, rfl⟩

theorem item_default (ofType : Bool) (n : Local) : Item (typeTokens ofType ++ [n.token]) :=
  item_concat n (mark_not_mem_typeTokens ',' ofType) (fun _ => inClause_typeTokens)
    (endsInWord_typeTokens ofType)

theorem item_whole (ofType : Bool) (n : Local) :
    Item (typeTokens ofType ++ [.mark '*', .word asWord, n.token]) := by
  have hstar : InClause (.mark '*') := (by decide : '*' ∈ clauseMarks)
  have has : InClause (.word asWord) := (by decide : isIdentifier asWord = true)
  have hfront : ∀ k ∈ typeTokens ofType ++ [.mark '*', .word asWord], InClause k := by
    simp only [List.mem_append, List.mem_cons, List.not_mem_nil, or_false]
    rintro k (hk | rfl | rfl)
    · exact inClause_typeTokens hk
    · exact hstar
    · exact has
  have := item_concat n (by simp [mark_not_mem_typeTokens]) hfront
    (by simp [endsInWord, Token.isWord])
  simpa using this

theorem Member.item_tokens (m : Member) : Item m.tokens := by
  have has : InClause (.word asWord) := (by decide : isIdentifier asWord = true)
  rw [Member.tokens]
  split
  · exact item_default m.ofType m.name
  · rename_i other _
    have hfront : ∀ k ∈ typeTokens m.ofType ++ [m.name.token, .word asWord], InClause k := by
      simp only [List.mem_append, List.mem_cons, List.not_mem_nil, or_false]
      rintro k (hk | rfl | rfl)
      · exact inClause_typeTokens hk
      · exact m.name.inClause
      · exact has
    have := item_concat other (by simp [mark_not_mem_typeTokens, Local.token]) hfront
      (by simp [endsInWord, Token.isWord])
    simpa using this

@[simp] theorem itemName?_nil : itemName? [] = none := rfl

@[simp] theorem itemName?_append_cons (front : List Token) (k : Token) (ts : List Token) :
    itemName? (front ++ k :: ts) = itemName? (k :: ts) := by
  rw [itemName?, itemName?, List.getLast?_append_of_ne_nil front (List.cons_ne_nil k ts)]

@[simp] theorem itemName?_token (n : Local) : itemName? [n.token] = some n.text := rfl

theorem Member.itemName?_tokens (m : Member) : itemName? m.tokens = some m.bound.text := by
  rw [Member.tokens, Member.bound]
  split <;> rename_i h <;> rw [h, itemName?_append_cons] <;> rfl

theorem Group.item_of_mem_listItems {members : List Member} {comma : Bool} :
    ∀ item ∈ listItems members comma, Item item := by
  intro item hitem
  rw [listItems, List.mem_append, List.mem_map] at hitem
  obtain ⟨m, -, rfl⟩ | hitem := hitem
  · exact m.item_tokens
  · split at hitem
    · exact List.mem_singleton.mp hitem ▸ item_nil
    · cases hitem

theorem Group.filterMap_itemName?_listItems (members : List Member) (comma : Bool) :
    (listItems members comma).filterMap itemName? = members.map (·.bound.text) := by
  have hmembers : (members.map Member.tokens).filterMap itemName? =
      members.map (·.bound.text) := by
    rw [List.filterMap_map]
    induction members with
    | nil => rfl
    | cons m members ih =>
      rw [List.filterMap_cons_some (by exact m.itemName?_tokens), ih, List.map_cons]
  rw [listItems, List.filterMap_append, hmembers]
  cases comma <;> simp

/-- A clause binds the names of its declaration. -/
theorem mem_clauseNames_iff_of_laid (h : Laid true cl.tokens t) (htrail : Blank trail) :
    x ∈ clauseNames (t ++ trail) ↔ x ∈ cl.bindings.locals := by
  obtain ⟨ofType, bindings⟩ := cl
  have hdefault := item_default ofType
  -- One case for each form of the bindings: names between commas, and names in braces behind them.
  cases bindings with
  | default n =>
    have hnames := clauseNames_of_separated
      (show Laid true (separated [typeTokens ofType ++ [n.token]]) t from h)
      (by simp [hdefault n]) (by simp [separated, mark_not_mem_typeTokens, Local.token]) htrail
    rw [hnames]
    simp [Bindings.locals, n.ne_typeWord]
  | group g =>
    cases g with
    | whole n =>
      have hnames := clauseNames_of_separated
        (show Laid true (separated [typeTokens ofType ++ [.mark '*', .word asWord, n.token]]) t
          from h)
        (by simp [item_whole ofType n])
        (by simp [separated, mark_not_mem_typeTokens, Local.token]) htrail
      rw [hnames]
      simp [Bindings.locals, Group.locals, itemName?, Local.token, n.ne_typeWord]
    | list members comma =>
      have hnames := clauseNames_of_braces
        (show Laid true (separated [typeTokens ofType] ++ .mark '{' ::
          (separated (Group.listItems members comma) ++ [.mark '}'])) t from h)
        (by simp [item_typeTokens]) Group.item_of_mem_listItems
        (by simp [separated, mark_not_mem_typeTokens]) htrail
      rw [hnames, Group.filterMap_itemName?_listItems]
      cases ofType <;> simp [Bindings.locals, Group.locals, itemName?, typeTokens]
  | both n g =>
    cases g with
    | whole m =>
      have hwhole : Item [.mark '*', .word asWord, m.token] := item_whole false m
      have hnames := clauseNames_of_separated
        (show Laid true (separated [typeTokens ofType ++ [n.token],
          [.mark '*', .word asWord, m.token]]) t by
            simpa [separated, Clause.tokens, Bindings.tokens, Group.tokens] using h)
        (by simp [hdefault n, hwhole])
        (by simp [separated, mark_not_mem_typeTokens, Local.token]) htrail
      rw [hnames]
      simp [Bindings.locals, Group.locals, itemName?, Local.token, n.ne_typeWord, m.ne_typeWord]
    | list members comma =>
      have hnames := clauseNames_of_braces
        (show Laid true (separated [typeTokens ofType ++ [n.token], []] ++ .mark '{' ::
          (separated (Group.listItems members comma) ++ [.mark '}'])) t by
            simpa [separated, Clause.tokens, Bindings.tokens, Group.tokens] using h)
        (by simp [hdefault n, item_nil]) Group.item_of_mem_listItems
        (by simp [separated, mark_not_mem_typeTokens, Local.token]) htrail
      rw [hnames, Group.filterMap_itemName?_listItems]
      simp [Bindings.locals, Group.locals, n.ne_typeWord, or_comm]

/-! ### Types only -/

theorem Bindings.exists_head (b : Bindings) : ∃ k ts, b.tokens = k :: ts ∧
    ((∃ n : Local, k = n.token) ∨ k = .mark '{' ∨ k = .mark '*') := by
  cases b with
  | default n => exact ⟨_, _, rfl, .inl ⟨n, rfl⟩⟩
  | both n g => exact ⟨_, _, rfl, .inl ⟨n, rfl⟩⟩
  | group g =>
    cases g with
    | whole n => exact ⟨_, _, rfl, .inr (.inr rfl)⟩
    | list members comma => exact ⟨_, _, rfl, .inr (.inl rfl)⟩

theorem trimStart_append_of_blank {gap u : Text} (hgap : Blank gap)
    (hu : ∀ c ∈ u.head?, isBlank c = false) : trimStart (gap ++ u) = u :=
  dropWhile_append_stop hgap hu

/-- A name other than the word `type` does not start with that word and something that ends it. -/
theorem startsWithType_local {gap rest : Text} (hgap : Blank gap) (n : Local)
    (hrest : ∀ c ∈ rest.head?, isIdentifierPart c = false) :
    Statement.startsWithType (gap ++ (n.text ++ rest)) = false := by
  have hhead : ∀ c ∈ (n.text ++ rest).head?, isBlank c = false := by
    rw [List.head?_append_of_ne_nil _ (ne_nil_of_isIdentifier n.identifier)]
    intro c hc
    exact isBlank_of_isIdentifier n.identifier c (List.mem_of_mem_head? hc)
  rw [Statement.startsWithType, trimStart_append_of_blank hgap hhead]
  split
  · rename_i c rest' hafter
    by_contra hends
    -- The longest identifier in front is the name, and it is the word.
    have hc : isIdentifierPart c = false := by
      simp only [Bool.not_eq_false, Bool.or_eq_true, decide_eq_true_eq] at hends
      rcases hends with (hblank | rfl) | rfl
      · exact isIdentifierPart_of_isBlank hblank
      · decide
      · decide
    have hword : (n.text ++ rest).takeWhile isIdentifierPart = typeWord := by
      rw [after?_eq_some_iff.mp hafter]
      exact takeWhile_append_stop (isIdentifierPart_of_isIdentifier (by decide))
        (by simpa using hc)
    rw [takeWhile_append_stop (isIdentifierPart_of_isIdentifier n.identifier) hrest] at hword
    exact n.ne_typeWord hword
  · rfl

/-- Whether a clause is of types only. -/
theorem startsWithType_of_laid (h : Laid true cl.tokens t) (htrail : Blank trail) :
    Statement.startsWithType (t ++ trail) = cl.ofType := by
  obtain ⟨ofType, bindings⟩ := cl
  obtain ⟨k, ts, htokens, hk⟩ := bindings.exists_head
  have hin : ∀ k' ∈ k :: ts, InClause k' := by
    intro k' hk'
    have hmem : k' ∈ (Clause.mk ofType bindings).tokens := by simp [Clause.tokens, htokens, hk']
    exact Clause.inClause_tokens hmem
  cases ofType with
  | true =>
    rw [Clause.tokens, htokens] at h
    obtain ⟨gap, rest, rfl, hgap, -, gap', rest', rfl, hgap', hapart, -⟩ := h
    have hhead : ∀ c ∈ (typeWord ++ (gap' ++ (k.text ++ rest') ++ trail)).head?,
        isBlank c = false := by
      rintro c ⟨⟩
      decide
    have hafter := after?_append typeWord (gap' ++ (k.text ++ rest') ++ trail)
    simp only [Token.text, List.append_assoc] at hhead hafter ⊢
    rw [Statement.startsWithType, trimStart_append_of_blank hgap hhead]
    rw [typeWord] at hafter ⊢
    rw [hafter]
    -- Behind the word stands a blank, or a mark that opens what the word belongs to.
    cases gap' with
    | cons c gap' => simp [hgap' c List.mem_cons_self]
    | nil =>
      rcases hk with ⟨n, rfl⟩ | rfl | rfl
      · exact absurd rfl (hapart rfl rfl)
      · rfl
      · rfl
  | false =>
    rw [Clause.tokens, htokens] at h
    obtain ⟨gap, rest, rfl, hgap, -, hrest⟩ := h
    simp only [List.append_assoc]
    rcases hk with ⟨n, rfl⟩ | rfl | rfl
    · -- A name may start with the word, but then it goes on behind it.
      refine startsWithType_local hgap n fun c hc => ?_
      rw [List.head?_append, Option.mem_def, Option.or_eq_some_iff] at hc
      rcases hc with hc | ⟨-, hc⟩
      · obtain hblank | hmark := head?_of_laid hrest hc
        · exact isIdentifierPart_of_isBlank hblank
        · exact (class_of_mem_clauseMarks
            (hin _ (List.mem_cons_of_mem _ (List.mem_of_mem_head? hmark)))).1
      · exact isIdentifierPart_of_isBlank (htrail c (List.mem_of_mem_head? hc))
    · rw [Statement.startsWithType, trimStart_append_of_blank hgap (by rintro c ⟨⟩; decide)]
      rfl
    · rw [Statement.startsWithType, trimStart_append_of_blank hgap (by rintro c ⟨⟩; decide)]
      rfl

/-! ### Reading declarations -/

/-- No quote and no semicolon is in a clause. -/
theorem endsClause_of_laid (h : Laid true cl.tokens t) (hc : c ∈ t) : endsClause c = false := by
  obtain hb | ⟨k, hk, hck⟩ := mem_of_laid h hc
  · exact Statement.endsClause_of_isBlank hb
  · have hin := Clause.inClause_tokens hk
    cases k with
    | word w =>
      exact Statement.endsClause_of_isIdentifierPart (isIdentifierPart_of_isIdentifier hin c hck)
    | mark d =>
      obtain rfl : c = d := List.mem_singleton.mp hck
      exact (class_of_mem_clauseMarks hin).2.2.2

/-- A clause does not go on the word in front of it. -/
theorem isWordSide_head?_of_laid {gap : Text} (h : Laid true cl.tokens t) (hgap : Blank gap) :
    isWordSide (t ++ gap).head? = false := by
  rw [isWordSide, Option.any_eq_false]
  intro c hc
  rw [List.head?_append, Option.or_eq_some_iff] at hc
  rcases hc with hc | ⟨-, hc⟩
  · obtain hb | hmark := head?_of_laid h hc
    · exact isWord_of_isBlank hb
    · exact (class_of_mem_clauseMarks (Clause.inClause_tokens (List.mem_of_mem_head? hmark))).2.2.1
  · exact isWord_of_isBlank (hgap c (List.mem_of_mem_head? hc))

/-- The word behind a clause does not go on the clause. -/
theorem isWordSide_getLast?_of_laid {gap : Text} (h : Laid true cl.tokens t) (hgap : Blank gap)
    (hapart : endsInWord true cl.tokens = true → gap ≠ []) :
    t ++ gap ≠ [] ∧ isWordSide (t ++ gap).getLast? = false := by
  cases hlast : gap.getLast? with
  | some c =>
    have hne : gap ≠ [] := by
      rintro rfl
      cases hlast
    rw [List.getLast?_append, hlast, Option.some_or]
    exact ⟨by simp [hne], isWord_of_isBlank (hgap c (List.mem_of_getLast? hlast))⟩
  | none =>
    -- Without a gap the clause ends with a mark.
    obtain rfl := List.getLast?_eq_none_iff.mp hlast
    obtain ⟨c, hc, hmark⟩ := getLast?_of_laid h (by simpa using hapart)
    have hne : t ≠ [] := by
      rintro rfl
      cases hc
    rw [List.append_nil, hc]
    exact ⟨hne, (class_of_mem_clauseMarks (Clause.inClause_tokens hmark)).2.2.1⟩

/-- The text in front of `from` is a clause. -/
theorem clause_of_laid {gap : Text} (h : Laid true cl.tokens t) (hgap : Blank gap)
    (hapart : endsInWord true cl.tokens = true → gap ≠ []) :
    (∀ c ∈ t ++ gap, endsClause c = false) ∧ isWordSide (t ++ gap).head? = false ∧
      t ++ gap ≠ [] ∧ isWordSide (t ++ gap).getLast? = false := by
  refine ⟨fun c hc => ?_, isWordSide_head?_of_laid h hgap,
    isWordSide_getLast?_of_laid h hgap hapart⟩
  rcases List.mem_append.mp hc with hc | hc
  · exact endsClause_of_laid h hc
  · exact Statement.endsClause_of_isBlank (hgap c hc)

end

end DesignTokens.Import
