import DesignTokens.Config.Builtin
import DesignTokens.Proofs.Pattern.Bracket
import DesignTokens.Proofs.Pattern.Reading
import DesignTokens.Proofs.Pattern.Run

/-! # The rules for font weights

The replacing rules that come with the program match a font weight that is written as a number in
quotes. What one of their patterns accepts does not depend on what stands around it.

-/

namespace DesignTokens.FontWeight

open Pattern Text

/-! ### Reading the patterns -/

/-- The quotes around a weight. -/
def quotes : CharClass := ⟨[(0x22, 0x22), (0x27, 0x27), (0x60, 0x60)]⟩

/-- The white space in front of a weight. -/
def blanks : CharClass :=
  ⟨[(0x09, 0x0D), (0x20, 0x20), (0x85, 0x85), (0xA0, 0xA0), (0x1680, 0x1680), (0x2000, 0x200A),
    (0x2028, 0x2029), (0x202F, 0x202F), (0x205F, 0x205F), (0x3000, 0x3000)]⟩

/-- The name of the property, with its colon. -/
def key : Text := ['f', 'o', 'n', 't', 'W', 'e', 'i', 'g', 'h', 't', ':']

/-- The expression of the pattern for weights with the first digit `digit`. -/
def expr (digit : Char) : Expr :=
  .seq (.literal key) (.seq (.rep 0 none true (.one blanks))
    (.seq (.one quotes) (.seq (.literal [digit, '0', '0']) (.one quotes))))

/-- The automaton of that expression. -/
def automaton (digit : Char) : Automaton :=
  ⟨#[.accept, .take quotes 0, .take (.char '0') 1, .take (.char '0') 2, .take (.char digit) 3,
      .take quotes 4, .fork 7 5, .take blanks 6, .take (.char ':') 6, .take (.char 't') 8,
      .take (.char 'h') 9, .take (.char 'g') 10, .take (.char 'i') 11, .take (.char 'e') 12,
      .take (.char 'W') 13, .take (.char 't') 14, .take (.char 'n') 15, .take (.char 'o') 16,
      .take (.char 'f') 17], 18,
    #[[1], [2], [3], [4], [5], [6], [8, 7], [6], [9], [10], [11], [12], [13], [14], [15], [16],
      [17], [18], []]⟩

theorem build_expr (digit : Char) :
    Draft.build (expr digit) ⟨#[.accept], 0⟩ = ⟨(automaton digit).states, 18⟩ := by
  have hblanks : (Expr.one blanks).minWidth? = some 1 := rfl
  simp [Draft.build, expr, key, Draft.push, Draft.rounds, Draft.loop, Draft.forkOf, automaton,
    hblanks]

theorem ofExpr_expr (digit : Char) : Automaton.ofExpr (expr digit) = automaton digit := by
  have hsources : Automaton.sourcesOf (automaton '0').states = (automaton '0').sources := by
    decide
  rw [Automaton.ofExpr, build_expr]
  -- The digit makes no difference to where the states lead.
  refine congrArg (Automaton.mk _ _) ((Automaton.sourcesOf_congr ?_).trans hsources)
  simp [automaton, State.targets]

theorem readClass_quotes (t : Text) :
    readClass {} ("['\"`]".toList ++ t) = .ok (⟨quotes, 2⟩, t) := by
  have hquotes : RangeTable.unionAll ([('\'', '\''), ('"', '"'), ('\x60', '\x60')].map rangeClass) =
      quotes :=
    RangeTable.ofRanges_eq_of_perm (0x22, 0x22) [(0x27, 0x27), (0x60, 0x60)] (by decide)
      (by decide)
  rw [← hquotes]
  exact readClass_writtenRanges [('\'', '\''), ('"', '"'), ('\x60', '\x60')] (by decide) (by decide)
    t

theorem readEscape_blanks (t : Text) : readEscape {} ('s' :: t) = .ok (.named blanks, t) := rfl

theorem readExpr_expr {digit : Char} (hdigit : isPlain digit = true) :
    readExpr (key ++ ('\\' :: 's' :: '*' :: ("['\"`]".toList ++ ([digit, '0', '0'] ++
      ("['\"`]".toList ++ []))))) = .ok (expr digit, []) := by
  have hnumber : [digit, '0', '0'].all isPlain = true := by
    simp only [List.all_cons, hdigit, Bool.true_and]
    decide
  have hkey : key.all isPlain = true := by decide
  have hread := (Reaches.plains (p := {}) rfl hkey _).trans <|
    (Reaches.escape rfl (readEscape_blanks _) (by simp)).trans <|
    (Reaches.star rfl rfl (by rintro ⟨⟩)).trans <|
    (Reaches.bracket rfl (readClass_quotes _) (by simp)).trans <|
    (Reaches.plains rfl hnumber _).trans <|
    Reaches.bracket rfl (readClass_quotes []) (by simp)
  exact readExpr_of_reaches hread rfl (Nat.le_of_ble_eq_true rfl)

theorem read_expr {source : String} {digit : Char} (hdigit : isPlain digit = true)
    (hfits : (expr digit).fits = true)
    (hsource : source.toList = key ++ ('\\' :: 's' :: '*' :: ("['\"`]".toList ++
      ([digit, '0', '0'] ++ ("['\"`]".toList ++ []))))) :
    Pattern.read source = .ok ⟨source, automaton digit, []⟩ := by
  rw [Pattern.read, hsource, readExpr_expr hdigit, ← ofExpr_expr]
  simp [hfits, bind, Except.bind, pure, Except.pure]

/-! ### What the patterns accept -/

/-- A weight in the form that is replaced. -/
def IsWeight (digit : Char) (w : Text) : Prop :=
  ∃ bs q q', w = key ++ (bs ++ [q, digit, '0', '0', q']) ∧ (∀ b ∈ bs, blanks.contains b = true) ∧
    quotes.contains q = true ∧ quotes.contains q' = true

theorem contains_char {c d : Char} : (CharClass.char c).contains d = true ↔ d = c := by
  have hin : (CharClass.char c).contains d = true ↔ d.toNat = c.toNat := by
    simp only [CharClass.char, RangeTable.single, RangeTable.contains, RangeTable.has,
      RangeTable.containsIn]
    split <;> simp <;> omega
  rw [hin]
  exact ⟨fun h => Char.ext (UInt32.toNat_inj.mp h), congrArg Char.toNat⟩

/-- States spell a text: each takes the next character, on the way from `p` to `q`. -/
def Spells (a : Automaton) : Nat → Text → Nat → Prop
  | p, [], q => p = q
  | p, c :: cs, q =>
    p ≠ 0 ∧ ∃ next, a.states[p]? = some (.take (.char c) next) ∧ Spells a next cs q

theorem run_of_spells {a : Automaton} {before after : Option Char} {p q : Nat} {cs t : Text}
    (hspells : Spells a p cs q) (h : a.Run before p t after) :
    ∃ before' rest, t = cs ++ rest ∧ a.Run before' q rest after := by
  induction cs generalizing before p t with
  | nil =>
    obtain rfl : p = q := hspells
    exact ⟨before, t, rfl, h⟩
  | cons c cs ih =>
    obtain ⟨hp, next, hstate, hspells⟩ := hspells
    obtain ⟨d, t, rfl, hd, hnext⟩ := h.of_take hp hstate
    obtain rfl := contains_char.mp hd
    obtain ⟨before', rest, rfl, hrest⟩ := ih hspells hnext
    exact ⟨before', rest, rfl, hrest⟩

section

variable {digit : Char} {before after : Option Char} {t : Text}

theorem run_of_blanks (h : (automaton digit).Run before 6 t after) :
    ∃ bs before' rest, t = bs ++ rest ∧ (∀ b ∈ bs, blanks.contains b = true) ∧
      (automaton digit).Run before' 5 rest after := by
  induction hn : t.length using Nat.strongRecOn generalizing before t with
  | _ n ih =>
    rcases h.of_fork (by decide) rfl with hblank | hrest
    · obtain ⟨b, rest, rfl, hb, hrun⟩ := hblank.of_take (by decide) rfl
      obtain ⟨bs, before', rest, rfl, hbs, hrun⟩ := ih rest.length (by simp at hn; omega) hrun rfl
      exact ⟨b :: bs, before', rest, rfl, List.forall_mem_cons.mpr ⟨hb, hbs⟩, hrun⟩
    · exact ⟨[], before, t, rfl, by simp, hrest⟩

/-- What an automaton accepts is a weight. -/
theorem isWeight_of_run (h : (automaton digit).Run before 18 t after) : IsWeight digit t := by
  have hkey : Spells (automaton digit) 18 key 6 := by
    exact ⟨by decide, 17, rfl, by decide, 16, rfl, by decide, 15, rfl, by decide, 14, rfl,
      by decide, 13, rfl, by decide, 12, rfl, by decide, 11, rfl, by decide, 10, rfl,
      by decide, 9, rfl, by decide, 8, rfl, by decide, 6, rfl, rfl⟩
  have hnumber : Spells (automaton digit) 4 [digit, '0', '0'] 1 :=
    ⟨by decide, 3, rfl, by decide, 2, rfl, by decide, 1, rfl, rfl⟩
  obtain ⟨_, t₁, rfl, h₁⟩ := run_of_spells hkey h
  obtain ⟨bs, _, t₂, rfl, hbs, h₂⟩ := run_of_blanks h₁
  obtain ⟨q, t₃, rfl, hq, h₃⟩ := h₂.of_take (by decide) rfl
  obtain ⟨_, t₄, rfl, h₄⟩ := run_of_spells hnumber h₃
  obtain ⟨q', t₅, rfl, hq', h₅⟩ := h₄.of_take (by decide) rfl
  obtain rfl := h₅.of_accept rfl
  exact ⟨bs, q, q', rfl, hbs, hq, hq'⟩

end

end DesignTokens.FontWeight
