import DesignTokens.Proofs.Names.Separate
import DesignTokens.Proofs.Pattern.Size
import DesignTokens.Proofs.Rule.Faults
import DesignTokens.Proofs.Rule.Weightless

/-! # The configuration that comes with the program loads

Its patterns are read and fit, those of its spellings and names among them, and its replacing rules
are those for font weights. None of them matches what they put in place of a weight or a canonical
spelling, as those have no quotes, and no canonical spelling shares a character with a spelling to
replace.

## Main definitions

* `Config.Builtin.ReplacesWeight` - an entry that replaces weights

## Main results

* `Config.Builtin.usable_of_mem` - a rule can be made from each entry
* `Config.Builtin.exists_replaces`, `Config.Builtin.exists_rule` - the replacing rules and the
  weights
* `Config.Builtin.separate_names` - the canonical spellings
* `Config.Builtin.valid_builtin`, `Config.Builtin.exists_load_builtin` - the configuration loads
-/

namespace DesignTokens.Config.Builtin

open Character FontWeight Pattern Text

/-! ### Patterns -/

/-- An expression that fits is made into a pattern. -/
theorem exists_read {source : String} {e : Expr} {names : List (String × Nat)}
    (hread : readExpr source.toList = .ok (e, names)) (hfits : e.fits = true) :
    ∃ pattern, Pattern.read source = .ok pattern := by
  refine ⟨⟨source, .ofExpr e, names⟩, ?_⟩
  rw [Pattern.read, hread]
  simp [hfits, bind, Except.bind, pure, Except.pure]

/-- Blanks in any number take a bounded room. -/
theorem takes_blanks : (Expr.rep 0 none true (.one blanks)).Takes 57576 :=
  ((Expr.takes_one blanks).rep 0 true).mono (by decide)

/-- The quotes that a color is looked for in. -/
def marks : CharClass := ⟨[(0x22, 0x22), (0x27, 0x27)]⟩

/-- The expression of a color in quotes, after the name of the property. -/
def quotedColor (color : Expr) (rest : Expr) : Expr :=
  .seq (.literal ['c', 'o', 'l', 'o', 'r', ':']) (.seq (.rep 0 none true (.one blanks))
    (.seq (.one marks) (.seq color rest)))

/-- The hexadecimal digits. -/
def hexDigits : CharClass := ⟨[(0x30, 0x39), (0x41, 0x46), (0x61, 0x66)]⟩

/-! Classes and escapes are read one by one: what a pattern is read as is then followed from part to
part. -/

theorem readClass_marks (t : Text) :
    readClass {} ("[\"']".toList ++ t) = .ok (⟨marks, 2⟩, t) := by
  have hmarks : RangeTable.unionAll ([('"', '"'), ('\'', '\'')].map rangeClass) = marks :=
    RangeTable.ofRanges_eq_of_perm (0x22, 0x22) [(0x27, 0x27)] (by decide) (by decide)
  rw [← hmarks]
  exact readClass_writtenRanges [('"', '"'), ('\'', '\'')] (by decide) (by decide) t

theorem readClass_hexDigits (t : Text) :
    readClass {} ("[0-9A-Fa-f]".toList ++ t) = .ok (⟨hexDigits, 2⟩, t) := by
  have hdigits : RangeTable.unionAll ([('0', '9'), ('A', 'F'), ('a', 'f')].map rangeClass) =
      hexDigits :=
    RangeTable.ofRanges_eq_of_perm (0x30, 0x39) [(0x41, 0x46), (0x61, 0x66)] (by decide)
      (by decide)
  rw [← hdigits]
  exact readClass_writtenRanges [('0', '9'), ('A', 'F'), ('a', 'f')] (by decide) (by decide) t

theorem readEscape_point (t : Text) : readEscape {} ('.' :: t) = .ok (.literal '.', t) := rfl

theorem readEscape_boundary : readEscape {} ['b'] = .ok (.look (.wordBoundary false), []) := rfl

theorem readCounts_six (t : Text) :
    readCounts false ('6' :: '\x7d' :: t) = .ok (6, some 6, t) := rfl

theorem readExpr_whiteTextLiteral : readExpr whiteTextLiteral.pattern.toList =
    .ok (quotedColor (.literal ['w', 'h', 'i', 't', 'e']) (.one marks), []) := by
  have hkey : "color:".toList.all isPlain = true := by decide
  have hwhite : "white".toList.all isPlain = true := by decide
  have hread := (Reaches.plains (p := {}) rfl hkey _).trans <|
    (Reaches.escape rfl (readEscape_blanks _) (by simp)).trans <|
    (Reaches.star rfl rfl (by rintro ⟨⟩)).trans <|
    (Reaches.bracket rfl (readClass_marks _) (by simp)).trans <|
    (Reaches.plains rfl hwhite _).trans <|
    Reaches.bracket rfl (readClass_marks []) (by simp)
  exact readExpr_of_reaches hread rfl (by decide)

theorem readExpr_blackTextLiteral : readExpr blackTextLiteral.pattern.toList =
    .ok (quotedColor (.literal ['b', 'l', 'a', 'c', 'k']) (.one marks), []) := by
  have hkey : "color:".toList.all isPlain = true := by decide
  have hblack : "black".toList.all isPlain = true := by decide
  have hread := (Reaches.plains (p := {}) rfl hkey _).trans <|
    (Reaches.escape rfl (readEscape_blanks _) (by simp)).trans <|
    (Reaches.star rfl rfl (by rintro ⟨⟩)).trans <|
    (Reaches.bracket rfl (readClass_marks _) (by simp)).trans <|
    (Reaches.plains rfl hblack _).trans <|
    Reaches.bracket rfl (readClass_marks []) (by simp)
  exact readExpr_of_reaches hread rfl (by decide)

theorem readExpr_hexTextColor : readExpr hexTextColor.pattern.toList =
    .ok (quotedColor (.literal ['#']) (.seq (.rep 6 (some 6) true (.one hexDigits)) (.one marks)),
      []) := by
  have hkey : "color:".toList.all isPlain = true := by decide
  have hhash : "#".toList.all isPlain = true := by decide
  have hread := (Reaches.plains (p := {}) rfl hkey _).trans <|
    (Reaches.escape rfl (readEscape_blanks _) (by simp)).trans <|
    (Reaches.star rfl rfl (by rintro ⟨⟩)).trans <|
    (Reaches.bracket rfl (readClass_marks _) (by simp)).trans <|
    (Reaches.plains rfl hhash _).trans <|
    (Reaches.bracket rfl (readClass_hexDigits _) (by simp)).trans <|
    (Reaches.counted rfl rfl (readCounts_six _) rfl (by rintro ⟨⟩) (by simp)).trans <|
    Reaches.bracket rfl (readClass_marks []) (by simp)
  exact readExpr_of_reaches hread rfl (by decide)

theorem readExpr_colorsWhiteBlack : readExpr colorsWhiteBlack.pattern.toList =
    .ok (.seq (.literal "color:".toList) (.seq (.rep 0 none true (.one blanks))
      (.seq (.literal "COLORS.".toList)
        (.seq (.group 1 (.alt (.literal "white".toList) (.literal "black".toList)))
          (.look (.wordBoundary false))))), []) := by
  have hkey : "color:".toList.all isPlain = true := by decide
  have hcolors : "COLORS".toList.all isPlain = true := by decide
  have hwhite : "white".toList.all isPlain = true := by decide
  have hblack : "black".toList.all isPlain = true := by decide
  have hread := (Reaches.plains (p := {}) rfl hkey _).trans <|
    (Reaches.escape rfl (readEscape_blanks _) (by simp)).trans <|
    (Reaches.star rfl rfl (by rintro ⟨⟩)).trans <|
    (Reaches.plains rfl hcolors _).trans <|
    (Reaches.escape rfl (readEscape_point _) (by simp)).trans <|
    (Reaches.opening rfl rfl rfl le_rfl).trans <|
    (Reaches.plains rfl hwhite _).trans <|
    (Reaches.branch rfl _).trans <|
    (Reaches.plains rfl hblack _).trans <|
    (Reaches.closing rfl rfl _).trans <|
    Reaches.escape rfl readEscape_boundary (by simp)
  exact readExpr_of_reaches hread rfl (by decide)

theorem readExpr_whiteBackground : readExpr whiteBackground.pattern.toList =
    .ok (.seq (.literal "backgroundColor:".toList) (.seq (.rep 0 none true (.one blanks))
      (.seq (.literal "COLORS.white".toList) (.look (.wordBoundary false)))), []) := by
  have hkey : "backgroundColor:".toList.all isPlain = true := by decide
  have hcolors : "COLORS".toList.all isPlain = true := by decide
  have hwhite : "white".toList.all isPlain = true := by decide
  have hread := (Reaches.plains (p := {}) rfl hkey _).trans <|
    (Reaches.escape rfl (readEscape_blanks _) (by simp)).trans <|
    (Reaches.star rfl rfl (by rintro ⟨⟩)).trans <|
    (Reaches.plains rfl hcolors _).trans <|
    (Reaches.escape rfl (readEscape_point _) (by simp)).trans <|
    (Reaches.plains rfl hwhite _).trans <|
    Reaches.escape rfl readEscape_boundary (by simp)
  exact readExpr_of_reaches hread rfl (by decide)

theorem readExpr_deprecatedPaperTypography : readExpr deprecatedPaperTypography.pattern.toList =
    .ok (.seq (.literal "<".toList)
      (.seq (.group 1 (.alt (.literal "Title".toList) (.literal "Paragraph".toList)))
        (.look (.wordBoundary false))), []) := by
  have hstart : "<".toList.all isPlain = true := by decide
  have htitle : "Title".toList.all isPlain = true := by decide
  have hparagraph : "Paragraph".toList.all isPlain = true := by decide
  have hread := (Reaches.plains (p := {}) rfl hstart _).trans <|
    (Reaches.opening rfl rfl rfl le_rfl).trans <|
    (Reaches.plains rfl htitle _).trans <|
    (Reaches.branch rfl _).trans <|
    (Reaches.plains rfl hparagraph _).trans <|
    (Reaches.closing rfl rfl _).trans <|
    Reaches.escape rfl readEscape_boundary (by simp)
  exact readExpr_of_reaches hread rfl (by decide)
/-! The classes of digits and of characters of words are read without going through their tables. -/

theorem readEscape_digit (t : Text) :
    readEscape {} ('d' :: t) = .ok (.named Category.decimalNumberTable, t) := by
  have hdigit : shorthand true 'd' = Category.decimalNumberTable := by simp [shorthand]
  rw [← hdigit]
  rfl

theorem readEscape_word (t : Text) : readEscape {} ('w' :: t) = .ok (.named wordTable, t) := by
  have hword : shorthand true 'w' = wordTable := by simp [shorthand]
  rw [← hword]
  rfl

theorem readExpr_hardcodedFontSize : readExpr hardcodedFontSize.pattern.toList =
    .ok (.seq (.literal "fontSize:".toList) (.seq (.rep 0 none true (.one blanks))
      (.rep 1 none true (.ofClass Category.decimalNumberTable))), []) := by
  have hkey : "fontSize:".toList.all isPlain = true := by decide
  have hread := (Reaches.plains (p := {}) rfl hkey _).trans <|
    (Reaches.escape rfl (readEscape_blanks _) (by simp)).trans <|
    (Reaches.star rfl rfl (by rintro ⟨⟩)).trans <|
    Reaches.someOf (t := []) rfl (readEscape_digit _) (by rintro ⟨⟩)
  exact readExpr_of_reaches hread rfl (by decide)

theorem readExpr_staticTextStyle : readExpr staticTextStyle.pattern.toList =
    .ok (.seq (.literal "<Text".toList) (.seq (.rep 1 none true (.ofClass blanks))
      (.seq (.literal "style=\x7bstyles.".toList)
        (.seq (.rep 1 none true (.ofClass wordTable)) (.literal "\x7d>".toList)))), []) := by
  have hstart : "<Text".toList.all isPlain = true := by decide
  have hstyle : "style=".toList.all isPlain = true := by decide
  have hstyles : "styles".toList.all isPlain = true := by decide
  have hend : ">".toList.all isPlain = true := by decide
  have hmeta : ∀ c ∈ ['\x7b', '.', '\x7d'], ∀ t,
      readEscape {} (c :: t) = .ok (.literal c, t) := by
    simp only [List.forall_mem_cons]
    exact ⟨fun _ => rfl, fun _ => rfl, fun _ => rfl, by simp⟩
  have hread := (Reaches.plains (p := {}) rfl hstart _).trans <|
    (Reaches.someOf rfl (readEscape_blanks _) (by rintro ⟨⟩)).trans <|
    (Reaches.plains rfl hstyle _).trans <|
    (Reaches.escape rfl (hmeta '\x7b' (by simp) _) (by simp)).trans <|
    (Reaches.plains rfl hstyles _).trans <|
    (Reaches.escape rfl (hmeta '.' (by simp) _) (by simp)).trans <|
    (Reaches.someOf rfl (readEscape_word _) (by rintro ⟨⟩)).trans <|
    (Reaches.escape rfl (hmeta '\x7d' (by simp) _) (by simp)).trans <|
    Reaches.plains rfl hend []
  exact readExpr_of_reaches hread rfl (by decide)

/-! Each expression fits; what takes room are the classes beyond ASCII. -/

theorem fits_quotedColor {color rest : Expr} {m n : Nat} (hcolor : color.Takes m)
    (hrest : rest.Takes n) (h : m + n ≤ 1000000) : (quotedColor color rest).fits = true := by
  have hquote : (Expr.one marks).Takes (64 + 5740 * 2) := Expr.takes_one marks
  refine Expr.fits_of_takes
    ((Expr.takes_literal _).seq (takes_blanks.seq (hquote.seq (hcolor.seq hrest)))) ?_
  have hlimit : Layout.limit = 10485760 := rfl
  have hkey : byteSize ['c', 'o', 'l', 'o', 'r', ':'] = 6 := rfl
  omega

theorem exists_read_whiteTextLiteral :
    ∃ pattern, Pattern.read whiteTextLiteral.pattern = .ok pattern :=
  exists_read readExpr_whiteTextLiteral
    (fits_quotedColor (Expr.takes_literal _) (Expr.takes_one marks) (by decide))

theorem exists_read_blackTextLiteral :
    ∃ pattern, Pattern.read blackTextLiteral.pattern = .ok pattern :=
  exists_read readExpr_blackTextLiteral
    (fits_quotedColor (Expr.takes_literal _) (Expr.takes_one marks) (by decide))

theorem exists_read_hexTextColor :
    ∃ pattern, Pattern.read hexTextColor.pattern = .ok pattern := by
  have hdigits : (Expr.rep 6 (some 6) true (.one hexDigits)).Takes (6 * (64 + 5740 * 3)) :=
    (Expr.takes_one hexDigits).times 6 true
  exact exists_read readExpr_hexTextColor
    (fits_quotedColor (Expr.takes_literal _) (hdigits.seq (Expr.takes_one marks)) (by decide))

theorem exists_read_colorsWhiteBlack :
    ∃ pattern, Pattern.read colorsWhiteBlack.pattern = .ok pattern := by
  have hcolors : (Expr.alt (.literal "white".toList) (.literal "black".toList)).Takes 1000 :=
    Expr.takes_alt_literal (by decide)
  exact exists_read readExpr_colorsWhiteBlack (Expr.fits_of_takes ((Expr.takes_literal _).seq
    (takes_blanks.seq ((Expr.takes_literal _).seq ((hcolors.group 1).seq (Expr.takes_look _)))))
    (by decide))

theorem exists_read_whiteBackground :
    ∃ pattern, Pattern.read whiteBackground.pattern = .ok pattern :=
  exists_read readExpr_whiteBackground (Expr.fits_of_takes ((Expr.takes_literal _).seq
    (takes_blanks.seq ((Expr.takes_literal _).seq (Expr.takes_look _)))) (by decide))

theorem exists_read_deprecatedPaperTypography :
    ∃ pattern, Pattern.read deprecatedPaperTypography.pattern = .ok pattern := by
  have htypography : (Expr.alt (.literal "Title".toList) (.literal "Paragraph".toList)).Takes
      1000 :=
    Expr.takes_alt_literal (by decide)
  exact exists_read readExpr_deprecatedPaperTypography (Expr.fits_of_takes
    ((Expr.takes_literal _).seq ((htypography.group 1).seq (Expr.takes_look _))) (by decide))

theorem exists_read_hardcodedFontSize :
    ∃ pattern, Pattern.read hardcodedFontSize.pattern = .ok pattern := by
  have hdigits : (Expr.ofClass Category.decimalNumberTable).Takes (64 + 5740 * 71) :=
    (Expr.takes_ofClass _).mono (by rw [length_ranges_decimalNumberTable])
  exact exists_read readExpr_hardcodedFontSize (Expr.fits_of_takes
    ((Expr.takes_literal _).seq (takes_blanks.seq (hdigits.rep 1 true))) (by decide))

theorem exists_read_staticTextStyle :
    ∃ pattern, Pattern.read staticTextStyle.pattern = .ok pattern := by
  have hblanks : (Expr.ofClass blanks).Takes (64 + 5740 * 10) := Expr.takes_ofClass blanks
  have hword : (Expr.ofClass wordTable).Takes (64 + 5740 * 1387) :=
    (Expr.takes_ofClass _).mono (Nat.add_le_add_left
      (Nat.mul_le_mul_left _ length_ranges_wordTable_le) _)
  exact exists_read readExpr_staticTextStyle (Expr.fits_of_takes
    ((Expr.takes_literal _).seq ((hblanks.rep 1 true).seq ((Expr.takes_literal _).seq
      ((hword.rep 1 true).seq (Expr.takes_literal _))))) (by decide))

/-! ### Rules for font weights -/

theorem fits_expr {digit : Char} (hdigit : digit.utf8Size = 1) : (expr digit).fits = true := by
  have hquote : (Expr.one quotes).Takes (64 + 5740 * 3) := Expr.takes_one quotes
  refine Expr.fits_of_takes ((Expr.takes_literal _).seq (takes_blanks.seq
    (hquote.seq ((Expr.takes_literal _).seq hquote)))) ?_
  have hlimit : Layout.limit = 10485760 := rfl
  have hkey : byteSize key = 11 := rfl
  have hnumber : byteSize [digit, '0', '0'] = 3 := by
    rw [byteSize, hdigit]
    rfl
  omega

/-- Whether a character may stand in what is put in place of a weight, after its start. -/
def isNamePart (c : Char) : Bool :=
  c != 'f' && c != '$' && !quotes.contains c

/-- An entry that replaces the weights with the first digit `digit`, in every file, by the name of
a weight. -/
structure ReplacesWeight (entry : RuleEntry) (digit : Char) : Prop where
  mem_digits : digit ∈ digits
  kind : entry.kind = .replace
  source : entry.pattern.toList = key ++ ('\\' :: 's' :: '*' :: ("['\"`]".toList ++
    ([digit, '0', '0'] ++ ("['\"`]".toList ++ []))))
  appliesTo : entry.appliesTo = []
  replacement : ∃ r name, entry.replacement = some r ∧ r.toList = 'f' :: name ∧
    key ++ [' ', 'F'] <+: 'f' :: name ∧ name.all isNamePart = true

theorem replacesWeight_fontWeight400 : ReplacesWeight fontWeight400 '4' :=
  ⟨by decide, rfl, rfl, rfl, _, "ontWeight: FONT_WEIGHT.regular".toList, rfl, rfl,
    by decide, by decide⟩

theorem replacesWeight_fontWeight500 : ReplacesWeight fontWeight500 '5' :=
  ⟨by decide, rfl, rfl, rfl, _, "ontWeight: FONT_WEIGHT.medium".toList, rfl, rfl,
    by decide, by decide⟩

theorem replacesWeight_fontWeight600 : ReplacesWeight fontWeight600 '6' :=
  ⟨by decide, rfl, rfl, rfl, _, "ontWeight: FONT_WEIGHT.semibold".toList, rfl, rfl,
    by decide, by decide⟩

theorem replacesWeight_fontWeight700 : ReplacesWeight fontWeight700 '7' :=
  ⟨by decide, rfl, rfl, rfl, _, "ontWeight: FONT_WEIGHT.bold".toList, rfl, rfl,
    by decide, by decide⟩

/-- For each weight there is an entry. -/
theorem exists_replacesWeight {digit : Char} (h : digit ∈ digits) :
    ∃ entry ∈ rules, ReplacesWeight entry digit := by
  simp only [digits, List.mem_cons, List.not_mem_nil, or_false] at h
  rcases h with rfl | rfl | rfl | rfl
  · exact ⟨_, by simp [rules], replacesWeight_fontWeight400⟩
  · exact ⟨_, by simp [rules], replacesWeight_fontWeight500⟩
  · exact ⟨_, by simp [rules], replacesWeight_fontWeight600⟩
  · exact ⟨_, by simp [rules], replacesWeight_fontWeight700⟩

/-- No other entry replaces anything. -/
theorem replacesWeight_of_mem {entry : RuleEntry} (h : entry ∈ rules)
    (hreplacement : entry.replacement.isSome = true) : ∃ digit, ReplacesWeight entry digit := by
  simp only [rules, List.mem_cons, List.not_mem_nil, or_false] at h
  rcases h with rfl | rfl | rfl | rfl | rfl | rfl | rfl | rfl | rfl | rfl | rfl | rfl
  · cases hreplacement
  · cases hreplacement
  · cases hreplacement
  · cases hreplacement
  · cases hreplacement
  · cases hreplacement
  · cases hreplacement
  · exact ⟨_, replacesWeight_fontWeight400⟩
  · exact ⟨_, replacesWeight_fontWeight500⟩
  · exact ⟨_, replacesWeight_fontWeight600⟩
  · exact ⟨_, replacesWeight_fontWeight700⟩
  · cases hreplacement

namespace ReplacesWeight

variable {entry : RuleEntry} {rule : Rule} {digit : Char} {r : String}

theorem read (h : ReplacesWeight entry digit) :
    Pattern.read entry.pattern = .ok ⟨entry.pattern, automaton digit, []⟩ := by
  have hdigit := h.mem_digits
  have hplain : isPlain digit = true ∧ digit.utf8Size = 1 := by
    simp only [digits, List.mem_cons, List.not_mem_nil, or_false] at hdigit
    rcases hdigit with rfl | rfl | rfl | rfl <;> decide
  exact read_expr hplain.1 (fits_expr hplain.2) h.source

/-- What is put in place of a weight shares no character with one, and is no weight itself. -/
theorem apart (h : ReplacesWeight entry digit) (hr : entry.replacement = some r) :
    Apart r.toList ∧ '$' ∉ r.toList ∧ ∀ c ∈ r.toList, quotes.contains c = false := by
  obtain ⟨r', name, hr', htext, hstart, hname⟩ := h.replacement
  obtain rfl : r' = r := Option.some.inj (hr'.symm.trans hr)
  -- The characters of a name are none of those that a weight starts with, that stand for a group,
  -- or that quote.
  have hall : ∀ c ∈ name, c ≠ 'f' ∧ c ≠ '$' ∧ quotes.contains c = false := by
    intro c hc
    have hpart := List.all_eq_true.mp hname c hc
    simpa [isNamePart, and_assoc] using hpart
  rw [htext]
  refine ⟨apart_cons (fun hmem => (hall 'f' hmem).1 rfl) (.inr hstart), ?_, ?_⟩
  · intro hmem
    rcases List.mem_cons.mp hmem with heq | hmem
    · cases heq
    · exact (hall '$' hmem).2.1 rfl
  · intro c hc
    rcases List.mem_cons.mp hc with rfl | hc
    · decide
    · exact (hall c hc).2.2

/-- The rule made from the entry replaces weights. -/
theorem replaces (h : ReplacesWeight entry digit) (hmade : rule.MadeFrom entry) :
    Replaces rule digit := by
  obtain ⟨r, _, hr, -⟩ := h.replacement
  obtain ⟨hapart, hdollar, -⟩ := h.apart hr
  have hpattern : rule.pattern = ⟨entry.pattern, automaton digit, []⟩ :=
    Except.ok.inj (hmade.pattern.symm.trans h.read)
  refine ⟨h.mem_digits, ?_, Pattern.sourced_of_read hmade.pattern, by rw [hpattern], ?_⟩
  · simp [Rule.isReplacing, hmade.kind, h.kind, hmade.replacement, hr]
  · intro found marks
    rw [Rule.put, hmade.replacement, hr, Option.getD_some,
      Pattern.Template.expand_read_of_literal hdollar]
    exact hapart

/-- The rule made from the entry is for every file. -/
theorem isFor (h : ReplacesWeight entry digit) (hmade : rule.MadeFrom entry) (extension : String) :
    rule.isFor extension = true := by
  rw [Rule.isFor, hmade.appliesTo, h.appliesTo]
  rfl

end ReplacesWeight

/-! ### Loading -/

theorem usable_of_requires_none {entry : RuleEntry} (hid : (RuleSet.idOf entry).isEmpty = false)
    (hread : ∃ pattern, Pattern.read entry.pattern = .ok pattern)
    (hreplacement : entry.replacement = none) (hrequires : entry.requires = none) :
    RuleSet.Usable entry :=
  ⟨hid, hread, fun _ => ⟨hreplacement, hrequires⟩, by simp [hrequires]⟩

theorem ReplacesWeight.usable {entry : RuleEntry} {digit : Char} (h : ReplacesWeight entry digit)
    (hid : (RuleSet.idOf entry).isEmpty = false)
    (hrequires : entry.requires = some ⟨tokenModule, ["FONT_WEIGHT"]⟩) : RuleSet.Usable entry := by
  refine ⟨hid, ⟨_, h.read⟩, fun hkind => ?_, ?_⟩
  · rw [h.kind] at hkind
    cases hkind
  · intro r hr x hx
    rw [hrequires] at hr
    cases hr
    obtain rfl := List.mem_singleton.mp hx
    decide

/-- A rule can be made from each entry. -/
theorem usable_of_mem {entry : RuleEntry} (h : entry ∈ rules) : RuleSet.Usable entry := by
  simp only [rules, List.mem_cons, List.not_mem_nil, or_false] at h
  rcases h with rfl | rfl | rfl | rfl | rfl | rfl | rfl | rfl | rfl | rfl | rfl | rfl
  · exact usable_of_requires_none (by decide) exists_read_hexTextColor rfl rfl
  · exact usable_of_requires_none (by decide) exists_read_colorsWhiteBlack rfl rfl
  · exact usable_of_requires_none (by decide) exists_read_whiteTextLiteral rfl rfl
  · exact usable_of_requires_none (by decide) exists_read_blackTextLiteral rfl rfl
  · exact usable_of_requires_none (by decide) exists_read_whiteBackground rfl rfl
  · exact usable_of_requires_none (by decide) exists_read_staticTextStyle rfl rfl
  · exact usable_of_requires_none (by decide) exists_read_hardcodedFontSize rfl rfl
  · exact replacesWeight_fontWeight400.usable (by decide) rfl
  · exact replacesWeight_fontWeight500.usable (by decide) rfl
  · exact replacesWeight_fontWeight600.usable (by decide) rfl
  · exact replacesWeight_fontWeight700.usable (by decide) rfl
  · exact usable_of_requires_none (by decide) exists_read_deprecatedPaperTypography rfl rfl

/-- The spellings to replace and the canonical ones share no character in any text. -/
theorem separate_names : CanonicalNames.Separate canonicalNames.names := by
  decide

/-- No canonical spelling has a quote, or the letter that a weight starts with, or starts with a
character of weights. -/
theorem canonicalNames_plain : canonicalNames.names.all (fun entry =>
    entry.2.toList.all (fun c => c != 'f' && !quotes.contains c) &&
      entry.2.toList.head?.any (!mayWeigh ·)) = true := by
  decide

section

variable {compiled : List Rule}

/-- Every replacing rule replaces weights. -/
theorem exists_replaces (h : RuleSet.compileFrom [] 0 rules = .ok compiled) {rule : Rule}
    (hrule : rule ∈ compiled) (hreplaces : rule.isReplacing = true) :
    ∃ entry digit, ReplacesWeight entry digit ∧ rule.MadeFrom entry := by
  obtain ⟨entry, hentry, hmade⟩ := RuleSet.madeFrom_of_compileFrom h rule hrule
  obtain ⟨r, hr⟩ := Rule.exists_replacement hreplaces
  obtain ⟨digit, hweight⟩ := replacesWeight_of_mem hentry (by rw [← hmade.replacement, hr]; rfl)
  exact ⟨entry, digit, hweight, hmade⟩

/-- For every weight there is a rule. -/
theorem exists_rule (h : RuleSet.compileFrom [] 0 rules = .ok compiled) {digit : Char}
    (hdigit : digit ∈ digits) (extension : String) :
    ∃ rule ∈ compiled, rule.isFor extension = true ∧ Replaces rule digit := by
  obtain ⟨entry, hentry, hweight⟩ := exists_replacesWeight hdigit
  obtain ⟨rule, hrule, hmade⟩ := RuleSet.exists_madeFrom_of_compileFrom h entry hentry
  exact ⟨rule, hrule, hweight.isFor hmade extension, hweight.replaces hmade⟩

end

/-- No entry that replaces matches a text without quotes. -/
theorem hasMatch_eq_false {entry : RuleEntry} (hentry : entry ∈ rules)
    (hreplaces : entry.replaces = true) {t : String}
    (ht : ∀ c ∈ t.toList, quotes.contains c = false) : entry.hasMatch t = false := by
  rw [RuleEntry.replaces, Bool.and_eq_true] at hreplaces
  obtain ⟨_, hweight⟩ := replacesWeight_of_mem hentry hreplaces.2
  have hread := hweight.read
  have hmatch := isMatch_eq_false (Pattern.sourced_of_read hread) rfl (weightless_of_not_quotes ht)
  rw [RuleEntry.hasMatch, hread]
  exact hmatch

/-- The spellings to replace are words, and have a pattern. -/
theorem hasPattern_matcher :
    RuleSet.HasPattern (CanonicalNames.matcher canonicalNames.names) := by
  refine CanonicalNames.hasPattern_matcher_of_words (by decide) (by decide) ?_ (by decide)
  decide

theorem hasPattern_usagePattern {usage : UsageEntry} (h : usage ∈ imports) :
    RuleSet.HasPattern (UsageImport.usagePattern usage.symbol) := by
  have hshort : ∀ usage ∈ imports,
      usage.symbol ≠ "" ∧ byteSize usage.symbol.toList ≤ 327671 := by decide
  obtain ⟨hne, hsize⟩ := hshort usage h
  exact (UsageImport.hasPattern_usagePattern_iff hne).mpr hsize

/-- The configuration that comes with the program has no fault: what is put in place of a weight and
the canonical spellings have no quotes. -/
theorem valid_builtin : RuleSet.Valid builtin where
  usable := fun _ h => usable_of_mem h
  distinct := by decide
  converges := by
    intro front later back hsplit hlater r hr _ entry hentry hreplaces
    have hmem : ∀ e ∈ front ++ [later], e ∈ rules := by
      intro e he
      rw [show rules = front ++ later :: back from hsplit, List.append_cons]
      exact List.mem_append_left back he
    -- A rule that is checked against others puts a font weight, and all of them look for quotes.
    obtain ⟨_, hweight⟩ := replacesWeight_of_mem (hmem later (by simp)) (hr ▸ rfl)
    exact hasMatch_eq_false (hmem entry hentry) hreplaces (hweight.apart hr).2.2
  matcher := fun _ => hasPattern_matcher
  settled := by
    intro spelling hspelling
    have hchain := CanonicalNames.chain?_eq_none_of_separate separate_names
    exact Bool.eq_false_iff.mpr (List.find?_eq_none.mp hchain spelling hspelling)
  canonical := by
    intro spelling hspelling entry hentry hreplaces
    refine hasMatch_eq_false hentry hreplaces fun c hc => ?_
    have hplain := List.all_eq_true.mp canonicalNames_plain spelling hspelling
    rw [Bool.and_eq_true] at hplain
    have hchar := List.all_eq_true.mp hplain.1 c hc
    rw [Bool.and_eq_true, Bool.not_eq_true'] at hchar
    exact hchar.2
  usages := by
    have hidentifier : ∀ usage ∈ imports, isIdentifier usage.symbol.toList = true := by
      decide
    exact fun usage husage => ⟨hidentifier usage husage, hasPattern_usagePattern husage⟩

/-- The configuration that comes with the program loads. -/
theorem exists_load_builtin : ∃ set, RuleSet.load builtin = .ok set := by
  have hnames : Names.Increasing (builtin.canonicalNames.names.map (·.1)) := by decide
  rw [(RuleSet.stopsAtFirst_load hnames).exists_ok_iff, RuleSet.faults_eq_nil_iff]
  exact valid_builtin

end DesignTokens.Config.Builtin
