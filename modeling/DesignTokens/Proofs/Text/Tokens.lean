import DesignTokens.Proofs.Text.Parts

/-! # Texts in free layout

A text in free layout has tokens in a given order, each with white space in front of it or none.
Only where one word follows another must there be some.

## Main definitions

* `Text.Token` - a word or a mark
* `Text.Laid` - whether a text is a layout of tokens

## Main results

* `Text.laid_append` - a layout of two runs of tokens is cut between them
* `Text.mem_of_laid` - the characters of a layout are blanks and those of its tokens
* `Text.getLast?_words` - the last word of a text
-/

namespace DesignTokens.Text

open Character

/-- A word or a mark of one character. -/
inductive Token where
  | word (t : Text)
  | mark (c : Char)
  deriving Repr, DecidableEq

namespace Token

/-- The characters of a token. -/
def text : Token → Text
  | word t => t
  | mark c => [c]

/-- Whether a token is a word. -/
def isWord : Token → Bool
  | word _ => true
  | mark _ => false

end Token

/-- White space of any kind, or none. -/
def Blank (t : Text) : Prop :=
  ∀ c ∈ t, isBlank c = true

instance (t : Text) : Decidable (Blank t) :=
  decidable_of_iff (t.all isBlank = true) List.all_eq_true

/-- Whether a text is a layout of tokens, each with white space in front. `afterWord` says that a
word comes before the text, from which the first token must be set off if it is a word too. -/
def Laid : Bool → List Token → Text → Prop
  | _, [], t => t = []
  | afterWord, token :: tokens, t =>
    ∃ gap rest, t = gap ++ (token.text ++ rest) ∧ Blank gap ∧
      (afterWord = true → token.isWord = true → gap ≠ []) ∧ Laid token.isWord tokens rest

/-- Whether a word comes last, in front of several tokens or among them. -/
def endsInWord : Bool → List Token → Bool
  | afterWord, [] => afterWord
  | _, token :: tokens => endsInWord token.isWord tokens

variable {afterWord : Bool} {ts us : List Token} {t gap : Text}

@[simp] theorem blank_nil : Blank [] := by
  simp [Blank]

theorem Blank.append {a b : Text} (ha : Blank a) (hb : Blank b) : Blank (a ++ b) := by
  intro c hc
  exact (List.mem_append.mp hc).elim (ha c) (hb c)

theorem Blank.not_mem (h : Blank t) {c : Char} (hc : isBlank c = false) : c ∉ t := by
  intro hmem
  rw [h c hmem] at hc
  cases hc

@[simp] theorem endsInWord_append (afterWord : Bool) (ts us : List Token) :
    endsInWord afterWord (ts ++ us) = endsInWord (endsInWord afterWord ts) us := by
  induction ts generalizing afterWord with
  | nil => rfl
  | cons k ts ih => exact ih k.isWord

/-- A layout of two runs of tokens is cut between them. -/
theorem laid_append : Laid afterWord (ts ++ us) t ↔
    ∃ u v, t = u ++ v ∧ Laid afterWord ts u ∧ Laid (endsInWord afterWord ts) us v := by
  induction ts generalizing afterWord t with
  | nil => simp [Laid, endsInWord]
  | cons k ts ih =>
    constructor
    · rintro ⟨gap, rest, rfl, hgap, hapart, hrest⟩
      obtain ⟨u, v, rfl, hu, hv⟩ := ih.mp hrest
      exact ⟨gap ++ (k.text ++ u), v, by simp, ⟨gap, u, rfl, hgap, hapart, hu⟩, hv⟩
    · rintro ⟨_, v, rfl, ⟨gap, u, rfl, hgap, hapart, hu⟩, hv⟩
      exact ⟨gap, u ++ v, by simp, hgap, hapart, ih.mpr ⟨u, v, rfl, hu, hv⟩⟩

/-- A layout with one more token at its end. -/
theorem laid_concat {k : Token} : Laid afterWord (ts ++ [k]) t ↔
    ∃ u gap, t = u ++ (gap ++ k.text) ∧ Laid afterWord ts u ∧ Blank gap ∧
      (endsInWord afterWord ts = true → k.isWord = true → gap ≠ []) := by
  rw [laid_append]
  constructor
  · rintro ⟨u, _, rfl, hu, gap, _, rfl, hgap, hapart, rfl⟩
    exact ⟨u, gap, by simp, hu, hgap, hapart⟩
  · rintro ⟨u, gap, rfl, hu, hgap, hapart⟩
    exact ⟨u, gap ++ k.text, rfl, hu, gap, [], by simp, hgap, hapart, rfl⟩

/-- The characters of a layout are blanks and those of its tokens. -/
theorem mem_of_laid (h : Laid afterWord ts t) {c : Char} (hc : c ∈ t) :
    isBlank c = true ∨ ∃ k ∈ ts, c ∈ k.text := by
  induction ts generalizing afterWord t with
  | nil =>
    rw [Laid] at h
    simp [h] at hc
  | cons k ts ih =>
    obtain ⟨gap, rest, rfl, hgap, -, hrest⟩ := h
    rw [List.mem_append, List.mem_append] at hc
    rcases hc with hc | hc | hc
    · exact .inl (hgap c hc)
    · exact .inr ⟨k, List.mem_cons_self, hc⟩
    · obtain hblank | ⟨k', hk', hmem⟩ := ih hrest hc
      · exact .inl hblank
      · exact .inr ⟨k', List.mem_cons_of_mem k hk', hmem⟩

/-- A layout after a word starts with a blank or a mark. -/
theorem head?_of_laid (h : Laid true ts t) {c : Char} (hc : c ∈ t.head?) :
    isBlank c = true ∨ .mark c ∈ ts.head? := by
  cases ts with
  | nil =>
    rw [Laid] at h
    simp [h] at hc
  | cons k ts =>
    obtain ⟨gap, rest, rfl, hgap, hapart, -⟩ := h
    cases gap with
    | cons d gap =>
      obtain rfl : d = c := Option.some.inj hc
      exact .inl (hgap d List.mem_cons_self)
    | nil =>
      cases k with
      | word w => exact absurd rfl (hapart rfl rfl)
      | mark d =>
        obtain rfl : d = c := Option.some.inj hc
        exact .inr rfl

/-- Without a word at its end, a layout after a word ends with a mark. -/
theorem getLast?_of_laid (h : Laid true ts t) (hends : endsInWord true ts = false) :
    ∃ c, t.getLast? = some c ∧ .mark c ∈ ts := by
  rcases List.eq_nil_or_concat' ts with rfl | ⟨ts, k, rfl⟩
  · cases hends
  · rw [endsInWord_append] at hends
    cases k with
    | word w => cases hends
    | mark c =>
      obtain ⟨u, gap, rfl, -⟩ := laid_concat.mp h
      exact ⟨c, by simp [Token.text], by simp⟩

/-! ### Words -/

theorem wordsFrom_append_blank {c : Char} (hc : isBlank c = true) (word a b : Text) :
    wordsFrom word (a ++ c :: b) = wordsFrom word a ++ wordsFrom [] b := by
  induction a generalizing word with
  | nil =>
    cases word with
    | nil => simp [wordsFrom, hc]
    | cons d word => simp [wordsFrom, hc]
  | cons d a ih =>
    rw [List.cons_append, wordsFrom, wordsFrom]
    split
    · split
      · exact ih []
      · rw [ih [], List.cons_append]
    · exact ih (d :: word)

/-- The last word of a text is what is set off by blanks from what comes before and followed by
blanks only. -/
theorem getLast?_words {u name trail : Text} (hgap : Blank gap) (htrail : Blank trail)
    (hne : name ≠ []) (hname : ∀ c ∈ name, isBlank c = false) (hapart : u = [] ∨ gap ≠ []) :
    (words (u ++ (gap ++ (name ++ trail)))).getLast? = some name := by
  have halone : ∀ g, Blank g → wordsFrom [] (g ++ (name ++ trail)) = [name] := by
    intro g hg
    rw [wordsFrom_append_of_blanks hg, wordsFrom_append_of_no_blanks [] hname, List.append_nil,
      wordsFrom_of_blanks (by simpa using hne) htrail, List.reverse_reverse]
  rcases hapart with rfl | hgapne
  · rw [List.nil_append, words, halone gap hgap, List.getLast?_singleton]
  · obtain ⟨c, g, rfl⟩ := List.exists_cons_of_ne_nil hgapne
    have hg : Blank g := fun x hx => hgap x (List.mem_cons_of_mem c hx)
    rw [words, List.cons_append, wordsFrom_append_blank (hgap c List.mem_cons_self), halone g hg,
      List.getLast?_append, List.getLast?_singleton, Option.some_or]

end DesignTokens.Text
