import DesignTokens.Proofs.Declaration.Exchange
import DesignTokens.Proofs.Declaration.Grammar
import DesignTokens.Proofs.Text.Places

/-! # Destructured names

The names of a destructuring declaration are found wherever the declaration stands, if its first
word is read as such. It is read as something else where it goes on a word, and where it comes right
after another first word, whose name it is taken for; that word may be the end of a comment or of a
member.

## Main definitions

* `Declaration.Unnamed` - the beginning of a declaration, up to its name
* `Declaration.AwaitsName` - a text ends with the beginning of a declaration

## Main results

* `Declaration.read?_append` - a declaration found in front of a place ends there at the latest,
  unless a name is awaited
* `Declaration.mem_declarationsFrom` - so the search comes to the place
* `Declaration.mem_declaredNames_of_target` - destructured names are declared
-/

namespace DesignTokens.Declaration

open Character Text

/-- The first words of declarations of variables. -/
def variableWords : List Text :=
  ["const".toList, "let".toList, "var".toList]

/-- The first words of declarations. -/
def firstWords : List Text :=
  variableWords ++ ["function".toList, "class".toList]

/-- What may stand between the first word of a declaration and the white space in front of its name:
nothing, or the star of a function. -/
def IsStar (word star : Text) : Prop :=
  star = [] ∨ word = "function".toList ∧ ∃ b, Gap b ∧ star = b ++ ['*']

/-- The beginning of a declaration up to its name: the first word and white space. -/
def Unnamed (t : Text) : Prop :=
  ∃ word star gap, t = word ++ (star ++ gap) ∧ word ∈ firstWords ∧ IsStar word star ∧ Gap gap ∧
    gap ≠ []

/-- A text that follows the character `before` ends with the beginning of a declaration, so that a
word behind it is taken for the name. -/
def AwaitsNameFrom (before : Option Char) (t : Text) : Prop :=
  ∃ front unnamed, t = front ++ unnamed ∧ isWordSide (front.getLast?.or before) = false ∧
    Unnamed unnamed

/-- A text ends with the beginning of a declaration. -/
def AwaitsName (t : Text) : Prop :=
  AwaitsNameFrom none t

/-- A text ends with a character that no name goes on after. -/
def Ends (t : Text) : Prop :=
  ∃ front c, t = front ++ [c] ∧ continuesName c = false

section

variable {before : Option Char} {found : Found} {k : Char} {after t u v w word : Text}

theorem Ends.ne_nil (h : Ends t) : t ≠ [] := by
  obtain ⟨front, c, rfl, -⟩ := h
  simp

theorem Ends.of_getLast? (hne : u ≠ [])
    (h : (u.getLast?.or before).any continuesName = false) : Ends u := by
  obtain ⟨front, c, rfl⟩ := (List.eq_nil_or_concat' u).resolve_left hne
  rw [List.getLast?_concat] at h
  exact ⟨front, c, rfl, h⟩

theorem Ends.of_append (h : Ends (u ++ v)) (hv : v ≠ []) : Ends v := by
  obtain ⟨front, c, heq, hc⟩ := h
  obtain ⟨v, d, rfl⟩ := (List.eq_nil_or_concat' v).resolve_left hv
  rw [← List.append_assoc] at heq
  obtain ⟨-, hlast⟩ := List.append_inj' heq rfl
  obtain rfl : d = c := List.singleton_inj.mp hlast
  exact ⟨v, d, rfl, hc⟩

theorem Ends.of_append_cons {c : Char} (h : Ends (u ++ c :: v)) (hc : continuesName c = true) :
    Ends v := by
  have hcons : Ends ([c] ++ v) := h.of_append (List.cons_ne_nil c v)
  refine hcons.of_append ?_
  -- The text does not end with the character itself.
  rintro rfl
  obtain ⟨front, d, heq, hd⟩ := hcons
  have hmem : d ∈ [c] := by
    rw [List.append_nil] at heq
    simp [heq]
  rw [List.mem_singleton.mp hmem, hc] at hd
  cases hd

/-- Where a text ends so, a name that begins in it ends in it. -/
theorem Ends.dropWhile (h : Ends u) (w : Text) :
    ∃ v, (u ++ w).dropWhile continuesName = v ++ w := by
  obtain ⟨front, c, rfl, hc⟩ := h
  have hne : (front ++ [c]).dropWhile continuesName ≠ [] := dropWhile_ne_nil ⟨c, by simp, hc⟩
  exact ⟨_, by rw [List.dropWhile_append, if_neg (by simpa using hne)]⟩

/-- A first word that begins in such a text ends in it. -/
theorem after?_append_of_ends (hends : Ends u) (hword : word.all continuesName = true)
    (h : after? word (u ++ w) = some t) : ∃ v, u = word ++ v ∧ t = v ++ w ∧ Ends v := by
  have hshort : ∀ v, word ≠ u ++ v := by
    rintro v rfl
    obtain ⟨front, c, rfl, hc⟩ := hends
    exact not_mem_of_continues hc hword (by simp)
  rw [after?_eq_some_iff] at h
  rcases List.append_eq_append_iff.mp h with ⟨v, heq, -⟩ | ⟨v, rfl, ht⟩
  · exact absurd heq (hshort v)
  · refine ⟨v, rfl, ht, hends.of_append ?_⟩
    rintro rfl
    exact hshort [] (by simp)

/-! ### What is read in front of a place -/

theorem continuesName_of_startsName {c : Char} (h : startsName c = true) :
    continuesName c = true := by
  simp only [startsName, Bool.or_eq_true, decide_eq_true_eq] at h
  rcases h with (halpha | rfl) | rfl
  · simp [continuesName, isWord, toNat_lt_of_isAlpha halpha, Char.isAlphanum, halpha]
  · decide
  · decide

/-- A name behind white space ends where its characters end. -/
theorem spacedName?_eq_some (h : spacedName? t = some (found, after)) :
    ∃ c rest, t.dropWhile isBlank = c :: rest ∧ startsName c = true ∧
      after = rest.dropWhile continuesName := by
  cases t with
  | nil => cases h
  | cons b t =>
    rw [spacedName?] at h
    split at h
    · cases h
    · cases hdrop : (b :: t).dropWhile isBlank with
      | nil =>
        rw [hdrop] at h
        cases h
      | cons c rest =>
        rw [hdrop] at h
        by_cases hstart : startsName c = true
        · simp only [hstart, if_true, Option.some.injEq, Prod.mk.injEq] at h
          exact ⟨c, rest, rfl, hstart, h.2.symm⟩
        · simp [hstart] at h

/-- A text that is not all white space begins with another character behind its white space. -/
theorem exists_dropWhile_isBlank (h : ¬ Gap u) (w : Text) : ∃ b c v, u = b ++ c :: v ∧ Gap b ∧
    (u ++ w).dropWhile isBlank = c :: (v ++ w) := by
  have hne : u.dropWhile isBlank ≠ [] := by
    refine dropWhile_ne_nil ?_
    by_contra hall
    exact h fun c hc => by_contra fun hblank => hall ⟨c, hc, by simpa using hblank⟩
  obtain ⟨c, v, hdrop⟩ := List.exists_cons_of_ne_nil hne
  refine ⟨u.takeWhile isBlank, c, v, ?_, fun c hc => mem_takeWhile hc, ?_⟩
  · rw [← hdrop, List.takeWhile_append_dropWhile]
  · rw [List.dropWhile_append, if_neg (by simpa using hne), hdrop, List.cons_append]

/-- A name with white space in front of it ends in front of a place, unless it begins there. -/
theorem spacedName?_append (hends : Ends u) (h : spacedName? (u ++ w) = some (found, after)) :
    w.length ≤ after.length ∨ Gap u := by
  by_cases hgap : Gap u
  · exact .inr hgap
  · obtain ⟨c, rest, hname, hstart, rfl⟩ := spacedName?_eq_some h
    obtain ⟨b, d, v, rfl, -, hdrop⟩ := exists_dropWhile_isBlank hgap w
    rw [hname, List.cons.injEq] at hdrop
    obtain ⟨rfl, rfl⟩ := hdrop
    obtain ⟨v, hv⟩ := (hends.of_append_cons (continuesName_of_startsName hstart)).dropWhile w
    rw [hv, List.length_append]
    exact .inl (Nat.le_add_left _ _)

/-- The same of what follows the first word of a declaration of variables. -/
theorem variables?_append (hends : Ends u) (h : variables? (u ++ w) = some (found, after)) :
    w.length ≤ after.length ∨ Gap u := by
  by_cases hgap : Gap u
  · exact .inr hgap
  · obtain ⟨b, c, v, -, -, hdrop⟩ := exists_dropWhile_isBlank hgap w
    rw [variables?, hdrop] at h
    split at h
    · rename_i heq
      cases h
      rw [← (List.cons.inj heq).2, List.length_append]
      exact .inl (Nat.le_add_left _ _)
    · rename_i heq
      cases h
      rw [← (List.cons.inj heq).2, List.length_append]
      exact .inl (Nat.le_add_left _ _)
    · exact spacedName?_append hends h

/-- The same of what follows the first word of a function, where the name may also begin at the
place behind a star. -/
theorem function?_append (hends : Ends u) (hw : ∀ c ∈ w.head?, isBlank c = false)
    (h : function? (u ++ w) = some (found, after)) :
    w.length ≤ after.length ∨ ∃ star gap, u = star ++ gap ∧ IsStar "function".toList star ∧
      Gap gap ∧ gap ≠ [] := by
  have hplain : Gap u → ∃ star gap, u = star ++ gap ∧ IsStar "function".toList star ∧ Gap gap ∧
      gap ≠ [] := fun hgap => ⟨[], u, rfl, .inl rfl, hgap, hends.ne_nil⟩
  by_cases hgap : Gap u
  · exact .inr (hplain hgap)
  · obtain ⟨b, c, v, rfl, hb, hdrop⟩ := exists_dropWhile_isBlank hgap w
    rw [function?, hdrop] at h
    split at h
    · rename_i rest heq
      obtain ⟨rfl, rfl⟩ := List.cons.inj heq
      cases v with
      | nil =>
        -- There is no white space between the star and the place.
        cases w with
        | nil => cases h
        | cons d w =>
          rw [List.nil_append, spacedName?, hw d rfl] at h
          cases h
      | cons d v =>
        have hends' : Ends (d :: v) :=
          (hends.of_append (List.cons_ne_nil _ _)).of_append (u := ['*']) (List.cons_ne_nil d v)
        refine (spacedName?_append hends' h).imp_right fun hgap' => ?_
        exact ⟨b ++ ['*'], d :: v, by simp, .inr ⟨rfl, b, hb, rfl⟩, hgap', List.cons_ne_nil d v⟩
    · exact (spacedName?_append hends h).imp_right hplain

/-- The first word of a declaration that is found in front of a place ends in front of it. -/
theorem bind_after?_append {f : Text → Option (Found × Text)} (hends : Ends u)
    (hword : word ∈ firstWords) (h : (after? word (u ++ w)).bind f = some (found, after)) :
    ∃ v, u = word ++ v ∧ Ends v ∧ f (v ++ w) = some (found, after) := by
  have hall : ∀ word ∈ firstWords, word.all continuesName = true := by decide
  obtain ⟨t, hafter, hread⟩ := Option.bind_eq_some_iff.mp h
  obtain ⟨v, rfl, rfl, hv⟩ := after?_append_of_ends hends (hall word hword) hafter
  exact ⟨v, rfl, hv, hread⟩

theorem unnamed_of_gap {gap : Text} (hword : word ∈ firstWords) (hgap : Gap gap)
    (hne : gap ≠ []) : Unnamed (word ++ gap) :=
  ⟨word, [], gap, rfl, hword, .inl rfl, hgap, hne⟩

/-- A declaration that is found in front of a place ends there at the latest, unless the text up to
the place is the beginning of one. -/
theorem read?_append (hends : Ends u) (hw : ∀ c ∈ w.head?, isBlank c = false)
    (h : read? (u ++ w) = some (found, after)) : w.length ≤ after.length ∨ Unnamed u := by
  have hvariables : ∀ word ∈ variableWords,
      (after? word (u ++ w)).bind variables? = some (found, after) →
        w.length ≤ after.length ∨ Unnamed u := by
    intro word hmem hbind
    have hword : word ∈ firstWords := List.mem_append_left _ hmem
    obtain ⟨v, rfl, hv, hread⟩ := bind_after?_append hends hword hbind
    exact (variables?_append hv hread).imp_right fun hgap => unnamed_of_gap hword hgap hv.ne_nil
  -- One case for each word that a declaration starts with.
  simp only [read?, Option.or_eq_some_iff] at h
  rcases h with hconst | ⟨-, hlet | ⟨-, hvar | ⟨-, hfunction | ⟨-, hclass⟩⟩⟩⟩
  · exact hvariables _ (by decide) hconst
  · exact hvariables _ (by decide) hlet
  · exact hvariables _ (by decide) hvar
  · obtain ⟨v, rfl, hv, hread⟩ := bind_after?_append hends (by decide) hfunction
    refine (function?_append hv hw hread).imp_right ?_
    rintro ⟨star, gap, rfl, hstar, hgap, hne⟩
    exact ⟨_, star, gap, rfl, by decide, hstar, hgap, hne⟩
  · obtain ⟨v, rfl, hv, hread⟩ := bind_after?_append hends (by decide) hclass
    exact (spacedName?_append hv hread).imp_right fun hgap =>
      unnamed_of_gap (by decide) hgap hv.ne_nil

/-! ### The search up to a place -/

theorem AwaitsNameFrom.cons {c : Char} (h : AwaitsNameFrom (some c) t) :
    AwaitsNameFrom before (c :: t) := by
  obtain ⟨front, unnamed, rfl, hside, hunnamed⟩ := h
  exact ⟨c :: front, unnamed, rfl, by rwa [getLast?_cons_or], hunnamed⟩

/-- The declaration at a place is found, unless it goes on a word there or a name is awaited. -/
theorem mem_declarationsFrom (hw : ∀ c ∈ w.head?, isBlank c = false)
    (hread : read? w = some (found, after)) {skip : Nat} (hskip : skip ≤ u.length)
    (hlast : (u.getLast?.or before).any continuesName = false)
    (hawaits : ¬ AwaitsNameFrom before u) : found ∈ declarationsFrom skip before (u ++ w) := by
  induction u generalizing skip before with
  | nil =>
    have hside : isWordSide before = false := by
      cases before with
      | none => rfl
      | some c => exact isWord_of_continuesName hlast
    obtain rfl := Nat.le_zero.mp hskip
    cases w with
    | nil => cases hread
    | cons c w =>
      rw [List.nil_append, declarationsFrom, if_neg (by simp [hside]), hread]
      exact List.mem_cons_self
  | cons c u ih =>
    have hlast' : (u.getLast?.or (some c)).any continuesName = false := by
      rwa [getLast?_cons_or] at hlast
    have hawaits' : ¬ AwaitsNameFrom (some c) u := fun h => hawaits h.cons
    cases skip with
    | succ skip =>
      exact ih (Nat.le_of_succ_le_succ hskip) hlast' hawaits'
    | zero =>
      rw [List.cons_append, declarationsFrom]
      by_cases hside : isWordSide before = true
      · rw [if_pos hside]
        exact ih (Nat.zero_le _) hlast' hawaits'
      · rw [if_neg hside]
        cases hfirst : read? (c :: (u ++ w)) with
        | none => exact ih (Nat.zero_le _) hlast' hawaits'
        | some pair =>
          obtain ⟨other, behind⟩ := pair
          refine List.mem_cons_of_mem _ (ih ?_ hlast' hawaits')
          -- The other declaration ends within the text in front, or a name is awaited there.
          have hends : Ends (c :: u) := .of_getLast? (List.cons_ne_nil c u) hlast
          rcases read?_append hends hw hfirst with hlength | hunnamed
          · rw [List.length_append]
            omega
          · exact absurd ⟨[], c :: u, rfl, by simpa using hside, hunnamed⟩ hawaits

/-! ### Destructuring declarations -/

/-- A pattern behind a first word and white space is read. -/
theorem read?_pattern (hword : word ∈ variableWords) {gap rest : Text} (hgap : Gap gap)
    (hk : k = '{' ∨ k = '[') :
    read? (word ++ (gap ++ k :: rest)) = some (.pattern rest, rest) := by
  have hdrop : (gap ++ k :: rest).dropWhile isBlank = k :: rest :=
    dropWhile_append_stop hgap (by rcases hk with rfl | rfl <;> rintro c ⟨⟩ <;> decide)
  have hread : variables? (gap ++ k :: rest) = some (.pattern rest, rest) := by
    rw [variables?, hdrop]
    rcases hk with rfl | rfl <;> rfl
  -- No word of a declaration is read where another one stands.
  have hafter : ∀ t, after? "const".toList ("let".toList ++ t) = none ∧
      after? "const".toList ("var".toList ++ t) = none ∧
      after? "let".toList ("var".toList ++ t) = none := fun t => ⟨rfl, rfl, rfl⟩
  obtain ⟨hlet, hvar, hvar'⟩ := hafter (gap ++ k :: rest)
  simp only [variableWords, List.mem_cons, List.not_mem_nil, or_false] at hword
  rcases hword with rfl | rfl | rfl
  · rw [read?, after?_append, Option.bind_some, hread, Option.some_or]
  · rw [read?, hlet, after?_append, Option.bind_some, hread, Option.bind_none, Option.none_or,
      Option.some_or]
  · rw [read?, hvar, hvar', after?_append, Option.bind_some, hread, Option.bind_none,
      Option.none_or, Option.none_or, Option.some_or]

/-- The pattern ends with its closing bracket. -/
theorem enclosed?_of_balanced {body rest : Text} {q : Char} (h : Balanced body)
    (hq : isClosing q = true) : enclosed? (body ++ q :: rest) = some body := by
  rw [enclosed?, enclosedFrom?_append_of_held h.held, h.depth, enclosedFrom?,
    if_pos (by simp [hq])]
  simp

/-- A name that the body of a pattern binds is declared by it. -/
theorem mem_names_of_body {body rest x : Text} {names hidden : List Text} {q : Char}
    (h : Body body names hidden) (hq : isClosing q = true) (hx : x ∈ names) (hfree : x ∉ hidden) :
    x ∈ (Found.pattern (body ++ q :: rest)).names := by
  rw [Found.names, enclosed?_of_balanced h.balanced hq]
  exact mem_patternNames_iff.mpr (h.mem hx hfree)

/-- Every target that is no name is the body of a pattern in brackets. -/
theorem Target.exists_body {pattern : Text} {names hidden : List Text}
    (h : Target pattern names hidden) (hpattern : isIdentifier pattern = false) :
    ∃ o body q, pattern = o :: (body ++ [q]) ∧ (o = '{' ∨ o = '[') ∧ isClosing q = true ∧
      Body body names hidden := by
  cases h with
  | name n hname =>
    rw [hname] at hpattern
    cases hpattern
  | object h => exact ⟨'{', _, '}', rfl, .inl rfl, by decide, h⟩
  | array h => exact ⟨'[', _, ']', rfl, .inr rfl, by decide, h⟩

theorem isBlank_of_continuesName {c : Char} (h : continuesName c = true) : isBlank c = false := by
  by_contra hblank
  rw [Bool.not_eq_false] at hblank
  have hdollar : c ≠ '$' := ne_of_isBlank hblank (by decide)
  simp [continuesName, isWord_of_isBlank hblank, hdollar] at h

/-- The beginning of a declaration is a word or a star with white space behind it. -/
theorem Unnamed.exists_last (h : Unnamed t) : ∃ front c gap, t = front ++ [c] ++ gap ∧ Gap gap ∧
    (continuesName c = true ∨ c = '*') := by
  obtain ⟨word, star, gap, rfl, hword, hstar, hgap, -⟩ := h
  rcases hstar with rfl | ⟨-, b, -, rfl⟩
  · have hall : ∀ word ∈ firstWords, word ≠ [] ∧ word.all continuesName = true := by decide
    obtain ⟨hne, hcontinues⟩ := hall word hword
    obtain ⟨front, c, rfl⟩ := (List.eq_nil_or_concat' word).resolve_left hne
    exact ⟨front, c, gap, by simp, hgap, .inl (List.all_eq_true.mp hcontinues c (by simp))⟩
  · exact ⟨word ++ b, '*', gap, by simp, hgap, .inr rfl⟩

/-- No name is awaited behind anything but a word or a star. -/
theorem not_awaitsName
    (h : (trimEnd t).getLast?.any (fun c => continuesName c || c = '*') = false) :
    ¬ AwaitsName t := by
  rintro ⟨front, unnamed, rfl, -, hunnamed⟩
  -- Apart from blanks, a text that awaits a name ends with a word or a star.
  obtain ⟨rest, c, gap, rfl, hgap, hc⟩ := hunnamed.exists_last
  have hblank : isBlank c = false := by
    rcases hc with hc | rfl
    · exact isBlank_of_continuesName hc
    · decide
  have htrim : trimEnd (front ++ (rest ++ [c] ++ gap)) = front ++ rest ++ [c] := by
    rw [← List.append_assoc, trimEnd_append_of_blanks hgap, ← List.append_assoc, trimEnd_eq_self]
    rw [List.getLast?_concat]
    rintro d ⟨⟩
    exact hblank
  rw [htrim, List.getLast?_concat, Option.any_some, Bool.or_eq_false_iff] at h
  rcases hc with hc | rfl
  · rw [hc] at h
    cases h.1
  · cases h.2

/-- The names that a destructuring pattern binds are declared by every text that contains its
declaration, but for those that a colon in a default may hide. The declaration must not go on a word
or be taken for the name of another one. -/
theorem mem_declaredNames_of_target {before gap pattern rest : Text} {names hidden : List Text}
    (hword : word ∈ variableWords) (hgap : Gap gap) (hpattern : Target pattern names hidden)
    (hbrackets : isIdentifier pattern = false)
    (hlast : before.getLast?.any continuesName = false) (hawaits : ¬ AwaitsName before) :
    ∀ name ∈ names, name ∉ hidden →
      String.ofList name ∈ declaredNames (before ++ (word ++ (gap ++ (pattern ++ rest)))) := by
  intro name hname hfree
  obtain ⟨o, body, q, rfl, ho, hq, hbody⟩ := hpattern.exists_body hbrackets
  have hread : read? (word ++ (gap ++ (o :: (body ++ [q]) ++ rest))) =
      some (.pattern (body ++ q :: rest), body ++ q :: rest) := by
    have htext : o :: (body ++ [q]) ++ rest = o :: (body ++ q :: rest) := by simp
    rw [htext]
    exact read?_pattern hword hgap ho
  have hhead : ∀ c ∈ (word ++ (gap ++ (o :: (body ++ [q]) ++ rest))).head?, isBlank c = false := by
    simp only [variableWords, List.mem_cons, List.not_mem_nil, or_false] at hword
    rcases hword with rfl | rfl | rfl <;> rintro c ⟨⟩ <;> decide
  rw [mem_declaredNames, String.toList_ofList, foundNames, List.mem_flatMap]
  refine ⟨_, mem_declarationsFrom hhead hread (Nat.zero_le _) ?_ hawaits,
    mem_names_of_body hbody hq hname hfree⟩
  rwa [Option.or_none]

/-- Names of several elements, some of them nested, with defaults of several kinds. -/
theorem mem_declaredNames_of_target_nested :
    Target "{ a = x => y, b: [, c = d >= e], f: g = h ? i : j, ...k }".toList
        ["a".toList, "c".toList, "g".toList, "k".toList] [] ∧
      ∀ name ∈ ["a".toList, "c".toList, "g".toList, "k".toList], String.ofList name ∈ declaredNames
        "f();\nconst\n { a = x => y, b: [, c = d >= e], f: g = h ? i : j, ...k } = l;".toList := by
  have hnone : Gap [] := .of_all rfl
  have hblank : Gap [' '] := .of_all rfl
  have hline : Gap ['\n', ' '] := .of_all rfl
  have hkey : ∀ k ∈ [" b".toList, " f".toList],
      Balanced k ∧ Quiet ',' 0 k ∧ Quiet ':' 0 k := by
    intro k hk
    have hplain : ∀ k ∈ [" b".toList, " f".toList],
        k.all (fun c => !isOpening c && !isClosing c) = true ∧ ',' ∉ k ∧ ':' ∉ k := by decide
    obtain ⟨hbrackets, hcomma, hcolon⟩ := hplain k hk
    exact ⟨balanced_of_plain (plain_of_all hbrackets), quiet_of_not_mem hcomma 0,
      quiet_of_not_mem hcolon 0⟩
  -- The elements of the pattern, each with the names that it binds.
  have hfirst : Element " a = x => y".toList ["a".toList] [] :=
    .bare hblank (.name ['a'] (by decide)) hblank
      (.of_plain (t := " x => y".toList) rfl (by decide)) (quiet_of_not_mem (by decide) 0)
  have hinner : Body ", c = d >= e".toList ["c".toList] [] :=
    .next (.hole hnone) <| .last <| .bare hblank (.name ['c'] (by decide)) hblank
      (.of_plain (t := " d >= e".toList) rfl (by decide)) (quiet_of_not_mem (by decide) 0)
  have hsecond : Element " b: [, c = d >= e]".toList ["c".toList] [] := by
    obtain ⟨hbalanced, hcomma, hcolon⟩ := hkey " b".toList (by decide)
    exact .keyed hbalanced hcomma hcolon hblank (.array hinner) hnone .none
  have hthird : Element " f: g = h ? i : j".toList ["g".toList] [] := by
    obtain ⟨hbalanced, hcomma, hcolon⟩ := hkey " f".toList (by decide)
    exact .keyed hbalanced hcomma hcolon hblank (.name ['g'] (by decide)) hblank
      (.of_plain (t := " h ? i : j".toList) rfl (by decide))
  have hlast : Element " ...k ".toList ["k".toList] [] :=
    .rest hblank hnone (.name ['k'] (by decide)) hblank
  have hpattern : Target "{ a = x => y, b: [, c = d >= e], f: g = h ? i : j, ...k }".toList
      ["a".toList, "c".toList, "g".toList, "k".toList] [] :=
    .object (.next hfirst (.next hsecond (.next hthird (.last hlast))))
  have hword : "const".toList ∈ variableWords := by decide
  have hawaits : ¬ AwaitsName "f();\n".toList := not_awaitsName (by decide)
  refine ⟨hpattern, fun name hname => ?_⟩
  exact mem_declaredNames_of_target hword hline hpattern (by decide) (by decide)
    hawaits name hname List.not_mem_nil

/-- A colon in a default behind a target without a key is taken for that of the key, and a
declaration behind the first word of another one for the name of that. -/
theorem not_mem_declaredNames_of_conditional :
    Target "{ a = b ? c : d }".toList ["a".toList] ["a".toList] ∧
      "a" ∉ declaredNames "const { a = b ? c : d } = e;".toList ∧
      Target "{ a }".toList ["a".toList] [] ∧
      "a" ∉ declaredNames "x.class\nconst { a } = b;".toList := by
  have hblank : Gap [' '] := .of_all rfl
  have hname : Target "a".toList ["a".toList] [] := .name ['a'] (by decide)
  have hdefault : Default "= b ? c : d ".toList :=
    .of_plain (t := " b ? c : d ".toList) rfl (by decide)
  have hshort : Element " a ".toList ["a".toList] [] :=
    .bare hblank hname hblank .none trivial
  have hlong : Element " a = b ? c : d ".toList ["a".toList] ["a".toList] :=
    .hidden hblank hname hblank hdefault
  exact ⟨.object (.last hlong), by decide, .object (.last hshort), by decide⟩

end

end DesignTokens.Declaration
