import DesignTokens.Proofs.Declaration.Lists

/-! # The texts of destructuring patterns

A pattern is written as a list of elements between brackets. An element is a hole, a target that may
have a key in front and a default behind it, or a target behind three dots; a target is a name or a
pattern again, and white space may stand anywhere between them. A default is any text whose brackets
are balanced and that has no comma outside of them.

An element is first cut at a colon, for its key, and then at an equals sign, for its default. So the
target is found, with one exception: behind a target without a key, a colon in the default is taken
for that of a key, unless there are brackets around it.

## Main definitions

* `Declaration.Balanced` - a text that closes the brackets it opens and no others
* `Declaration.Target`, `Declaration.Body`, `Declaration.Element` - the texts of patterns, with the
  names that they bind and the names that a default hides

## Main results

* `Declaration.Target.level` - a target is passed over as a whole
* `Declaration.bindingTarget_bare`, `Declaration.bindingTarget_keyed`,
  `Declaration.bindingTarget_rest` - the target of an element is found
* `Declaration.Body.mem` - a pattern binds the names that its text says it binds
-/

namespace DesignTokens.Declaration

open Character Text

/-! ### Balanced brackets -/

/-- A text that closes the brackets it opens and no others. Brackets of all kinds count alike. -/
structure Balanced (t : Text) : Prop where
  held : Held 1 t
  depth : depthThrough 1 t = 1

/-- A stretch of white space, which may be empty. -/
def Gap (t : Text) : Prop :=
  ∀ c ∈ t, isBlank c = true

section

variable {separator o q : Char} {depth : Nat} {a b t : Text}

theorem depthAfter_succ {c : Char} (h : ¬ (isClosing c = true ∧ depth = 0)) :
    depthAfter (depth + 1) c = depthAfter depth c + 1 := by
  rw [depthAfter, depthAfter]
  split
  · rfl
  · split
    · rename_i hclose
      have hpos : depth ≠ 0 := fun hzero => h ⟨hclose, hzero⟩
      omega
    · rfl

theorem held_succ (h : Held depth t) : Held (depth + 1) t := by
  induction t generalizing depth with
  | nil => trivial
  | cons c t ih =>
    obtain ⟨hc, ht⟩ := h
    have hzero : ¬ (isClosing c = true ∧ depth = 0) := fun hclose => hc ⟨hclose.1, by omega⟩
    exact ⟨fun hclose => hc ⟨hclose.1, by omega⟩, depthAfter_succ hzero ▸ ih ht⟩

/-- Where no bracket closes the last open one, the depth is one less if that one is left out. -/
theorem depthThrough_succ (h : Held (depth + 1) t) :
    depthThrough (depth + 1) t = depthThrough depth t + 1 := by
  induction t generalizing depth with
  | nil => rfl
  | cons c t ih =>
    obtain ⟨hc, ht⟩ := h
    have hzero : ¬ (isClosing c = true ∧ depth = 0) := fun hclose => hc ⟨hclose.1, by omega⟩
    rw [depthAfter_succ hzero] at ht
    rw [depthThrough_cons, depthThrough_cons, depthAfter_succ hzero, ih ht]

/-- Within brackets that are not closed no separator counts. -/
theorem quiet_of_held (hdepth : 1 ≤ depth) (h : Held depth t) : Quiet separator depth t := by
  induction t generalizing depth with
  | nil => trivial
  | cons c t ih =>
    have hrest : 1 ≤ depthAfter depth c :=
      one_le_depthThrough (u := [c]) hdepth ⟨h.1, trivial⟩
    exact ⟨fun heq => by omega, ih hrest h.2⟩

theorem Balanced.held_of_pos (h : Balanced t) (hdepth : 1 ≤ depth) : Held depth t := by
  induction hdepth with
  | refl => exact h.held
  | step _ ih => exact held_succ ih

/-- A balanced text leaves every depth as it is. -/
theorem Balanced.depth_eq (h : Balanced t) (depth : Nat) : depthThrough depth t = depth := by
  induction depth with
  | zero =>
    have hsucc : depthThrough (0 + 1) t = depthThrough 0 t + 1 := depthThrough_succ h.held
    rw [Nat.zero_add, h.depth] at hsucc
    omega
  | succ depth ih => rw [depthThrough_succ (h.held_of_pos (Nat.succ_pos _)), ih]

theorem Balanced.append (ha : Balanced a) (hb : Balanced b) : Balanced (a ++ b) where
  held := held_append.mpr ⟨ha.held, by rw [ha.depth]; exact hb.held⟩
  depth := by rw [depthThrough_append, ha.depth, hb.depth]

theorem Level.balanced (h : Level t) : Balanced t :=
  ⟨h.held 1 (Nat.le_refl 1), h.depth 1⟩

theorem balanced_of_plain (h : ∀ c ∈ t, isOpening c = false ∧ isClosing c = false) : Balanced t :=
  ⟨held_of_plain h 1, depthThrough_of_plain h 1⟩

theorem plain_of_all (h : t.all (fun c => !isOpening c && !isClosing c) = true) :
    ∀ c ∈ t, isOpening c = false ∧ isClosing c = false := by
  intro c hc
  simpa using List.all_eq_true.mp h c hc

theorem plain_of_mem_separators (h : separator ∈ separators) :
    isOpening separator = false ∧ isClosing separator = false :=
  plain_of_all (t := separators) rfl separator h

theorem Balanced.cons (ho : isOpening o = false) (ho' : isClosing o = false) (h : Balanced t) :
    Balanced (o :: t) :=
  (balanced_of_plain (t := [o]) (by simp [ho, ho'])).append h

/-- Balanced texts one after the other have the separators of both. -/
theorem Balanced.quiet_append (ha : Balanced a) (hquiet : Quiet separator 0 a)
    (hb : Quiet separator 0 b) : Quiet separator 0 (a ++ b) :=
  Declaration.quiet_append.mpr ⟨hquiet, by rwa [ha.depth_eq]⟩

/-- What has no brackets can be left out. -/
theorem Balanced.of_append_plain (ha : ∀ c ∈ a, isOpening c = false ∧ isClosing c = false)
    (h : Balanced (a ++ b)) : Balanced b := by
  have hheld := (held_append.mp h.held).2
  have hdepth := h.depth
  rw [depthThrough_of_plain ha] at hheld
  rw [depthThrough_append, depthThrough_of_plain ha] at hdepth
  exact ⟨hheld, hdepth⟩

theorem quiet_of_append_plain (ha : ∀ c ∈ a, isOpening c = false ∧ isClosing c = false)
    (h : Quiet separator depth (a ++ b)) : Quiet separator depth b := by
  have hquiet := (Declaration.quiet_append.mp h).2
  rwa [depthThrough_of_plain ha] at hquiet

/-- A balanced text in brackets is passed over as a whole. -/
theorem level_bracketed (ho : isOpening o = true) (hq : isOpening q = false)
    (hq' : isClosing q = true) (h : Balanced t) : Level (o :: (t ++ [q])) := by
  have hopen : ∀ d, depthAfter d o = d + 1 := fun d => by rw [depthAfter, if_pos ho]
  have hclose : ∀ d, depthAfter d q = d - 1 := fun d => by simp [depthAfter, hq, hq']
  refine ⟨fun d => ?_, fun sep hmem d => ?_, fun d hd => ?_⟩
  · rw [depthThrough_cons, hopen, depthThrough_append, h.depth_eq, depthThrough_cons, hclose,
      depthThrough_nil, Nat.add_sub_cancel]
  · refine ⟨?_, ?_⟩
    · rintro ⟨rfl, -⟩
      rw [(plain_of_mem_separators hmem).1] at ho
      cases ho
    · rw [hopen, Declaration.quiet_append, h.depth_eq]
      exact ⟨quiet_of_held (by omega) (h.held_of_pos (by omega)), fun heq => by omega, trivial⟩
  · refine ⟨?_, ?_⟩
    · rintro ⟨hclosing, -⟩
      revert ho hclosing
      simp only [isOpening, isClosing, Bool.or_eq_true, decide_eq_true_eq]
      rintro ((rfl | rfl) | rfl) ((h | h) | h) <;> cases h
    · rw [hopen, held_append, h.depth_eq]
      exact ⟨h.held_of_pos (by omega), fun hlast => by omega, trivial⟩

theorem Gap.of_all (h : t.all isBlank = true) : Gap t :=
  List.all_eq_true.mp h

theorem Gap.plain (h : Gap t) : ∀ c ∈ t, isOpening c = false ∧ isClosing c = false :=
  fun c hc => plain_of_isBlank (h c hc)

theorem Gap.balanced (h : Gap t) : Balanced t :=
  balanced_of_plain h.plain

theorem Gap.quiet (h : Gap t) (hseparator : isBlank separator = false) (depth : Nat) :
    Quiet separator depth t := by
  refine quiet_of_not_mem (fun hmem => ?_) depth
  rw [h separator hmem] at hseparator
  cases hseparator

end

/-! ### The grammar -/

/-- A default: nothing, or an equals sign and an expression with balanced brackets that has no comma
outside of them. -/
inductive Default : Text → Prop where
  | none : Default []
  | some (e : Text) (hbalanced : Balanced e) (hcomma : Quiet ',' 0 e) : Default ('=' :: e)

mutual

/-- The text of a target, the names it binds, and those of them that a default within it hides. -/
inductive Target : Text → List Text → List Text → Prop where
  | name (n : Text) (h : isIdentifier n = true) : Target n [n] []
  | object {t : Text} {names hidden : List Text} (h : Body t names hidden) :
    Target ('{' :: (t ++ ['}'])) names hidden
  | array {t : Text} {names hidden : List Text} (h : Body t names hidden) :
    Target ('[' :: (t ++ [']'])) names hidden

/-- The text of the elements of a pattern, with commas between them. -/
inductive Body : Text → List Text → List Text → Prop where
  | last {t : Text} {names hidden : List Text} (h : Element t names hidden) : Body t names hidden
  | next {t t' : Text} {names names' hidden hidden' : List Text} (h : Element t names hidden)
    (h' : Body t' names' hidden') : Body (t ++ ',' :: t') (names ++ names') (hidden ++ hidden')

/-- The text of an element of a pattern. -/
inductive Element : Text → List Text → List Text → Prop where
  | hole {a : Text} (ha : Gap a) : Element a [] []
  /-- A target without a key. No colon stands outside the brackets of its default. -/
  | bare {a t b d : Text} {names hidden : List Text} (ha : Gap a) (h : Target t names hidden)
    (hb : Gap b) (hd : Default d) (hcolon : Quiet ':' 0 d) :
    Element (a ++ (t ++ (b ++ d))) names hidden
  /-- A target without a key. A colon in its default may hide it. -/
  | hidden {a t b d : Text} {names hidden : List Text} (ha : Gap a) (h : Target t names hidden)
    (hb : Gap b) (hd : Default d) : Element (a ++ (t ++ (b ++ d))) names names
  /-- A target with a key, which may be an expression in brackets. -/
  | keyed {k a t b d : Text} {names hidden : List Text} (hk : Balanced k) (hcomma : Quiet ',' 0 k)
    (hcolon : Quiet ':' 0 k) (ha : Gap a) (h : Target t names hidden) (hb : Gap b)
    (hd : Default d) : Element (k ++ ':' :: (a ++ (t ++ (b ++ d)))) names hidden
  /-- A target for the rest. -/
  | rest {a b t c : Text} {names hidden : List Text} (ha : Gap a) (hb : Gap b)
    (h : Target t names hidden) (hc : Gap c) :
    Element (a ++ (('.' :: '.' :: '.' :: (b ++ t)) ++ c)) names hidden

end

/-! ### What is passed over as a whole -/

section

variable {t d : Text} {names hidden : List Text} {separator : Char}

theorem Default.balanced (h : Default d) : Balanced d := by
  cases h with
  | none => exact balanced_of_plain (by simp)
  | some e hbalanced hcomma => exact hbalanced.cons (by decide) (by decide)

theorem Default.quiet (h : Default d) : Quiet ',' 0 d := by
  cases h with
  | none => trivial
  | some e hbalanced hcomma => exact ⟨by simp, hcomma⟩

/-- A default whose expression has neither brackets nor commas. -/
theorem Default.of_plain (h : t.all (fun c => !isOpening c && !isClosing c) = true)
    (hcomma : ',' ∉ t) : Default ('=' :: t) :=
  .some t (balanced_of_plain (plain_of_all h)) (quiet_of_not_mem hcomma 0)

theorem level_of_isIdentifier (h : isIdentifier t = true) : Level t := by
  have hpart := isIdentifierPart_of_isIdentifier h
  refine level_of_plain (fun c hc => ?_) fun sep hsep hmem => ?_
  · obtain ⟨hopen, hclose, -⟩ := plain_of_isIdentifierPart (hpart c hc)
    exact ⟨hopen, hclose⟩
  · exact (plain_of_isIdentifierPart (hpart sep hmem)).2.2.2 hsep

/-- A target with white space around it and a default. -/
theorem balanced_and_quiet_padded {a b : Text} (ha : Gap a) (ht : Level t) (hb : Gap b)
    (hd : Default d) : Balanced (a ++ (t ++ (b ++ d))) ∧ Quiet ',' 0 (a ++ (t ++ (b ++ d))) := by
  refine ⟨ha.balanced.append (ht.balanced.append (hb.balanced.append hd.balanced)), ?_⟩
  refine ha.balanced.quiet_append (ha.quiet (by decide) 0) ?_
  refine ht.balanced.quiet_append (ht.quiet _ (by decide) 0) ?_
  exact hb.balanced.quiet_append (hb.quiet (by decide) 0) hd.quiet

mutual

/-- A target is passed over as a whole. -/
theorem Target.level {t : Text} {names hidden : List Text} : Target t names hidden → Level t
  | .name n h => level_of_isIdentifier h
  | .object h => level_bracketed (by decide) (by decide) (by decide) h.balanced
  | .array h => level_bracketed (by decide) (by decide) (by decide) h.balanced

/-- The elements of a pattern close their brackets. -/
theorem Body.balanced {t : Text} {names hidden : List Text} : Body t names hidden → Balanced t
  | .last h => h.balanced_and_quiet.1
  | .next h h' => h.balanced_and_quiet.1.append (h'.balanced.cons (by decide) (by decide))

/-- An element closes its brackets, and it has no comma outside of them. -/
theorem Element.balanced_and_quiet {t : Text} {names hidden : List Text} :
    Element t names hidden → Balanced t ∧ Quiet ',' 0 t
  | .hole ha => ⟨ha.balanced, ha.quiet (by decide) 0⟩
  | .bare ha h hb hd _ => balanced_and_quiet_padded ha h.level hb hd
  | .hidden ha h hb hd => balanced_and_quiet_padded ha h.level hb hd
  | .keyed hk hcomma _ ha h hb hd => by
    obtain ⟨hbalanced, hquiet⟩ := balanced_and_quiet_padded ha h.level hb hd
    exact ⟨hk.append (hbalanced.cons (by decide) (by decide)),
      hk.quiet_append hcomma ⟨by simp, hquiet⟩⟩
  | .rest ha hb h hc => by
    have hdots : Balanced ['.', '.', '.'] := balanced_of_plain (plain_of_all rfl)
    have hinner := hb.balanced.append h.level.balanced
    refine ⟨ha.balanced.append ((hdots.append hinner).append hc.balanced), ?_⟩
    refine ha.balanced.quiet_append (ha.quiet (by decide) 0) ?_
    refine (hdots.append hinner).quiet_append ?_ (hc.quiet (by decide) 0)
    refine hdots.quiet_append (quiet_of_not_mem (by decide) 0) ?_
    exact hb.balanced.quiet_append (hb.quiet (by decide) 0) (h.level.quiet _ (by decide) 0)

end

end

/-! ### Targets -/

/-- A text without white space at its ends and without dots in front. -/
structure Solid (t : Text) : Prop where
  head : ∃ c rest, t = c :: rest ∧ isBlank c = false ∧ c ≠ '.'
  last : ∀ c ∈ t.getLast?, isBlank c = false

/-- A text that shows a target: there is nothing else in it but white space and what may follow
behind an equals sign. -/
def Shows (t v : Text) : Prop :=
  ∃ a b d, v = a ++ (t ++ (b ++ d)) ∧ Gap a ∧ Gap b ∧ ∀ c ∈ d.head?, c = '='

section

variable {a b c d e k t v : Text} {names hidden : List Text} {separator : Char}

theorem Solid.head?_append (h : Solid t) (v : Text) : ∀ c ∈ (t ++ v).head?, isBlank c = false := by
  obtain ⟨first, rest, rfl, hblank, -⟩ := h.head
  rintro c ⟨⟩
  exact hblank

theorem solid_of_brackets {o q : Char} (ho : isBlank o = false ∧ o ≠ '.') (hq : isBlank q = false) :
    Solid (o :: (t ++ [q])) where
  head := ⟨o, _, rfl, ho⟩
  last := by
    rw [← List.cons_append, List.getLast?_concat]
    rintro c ⟨⟩
    exact hq

theorem Target.solid (h : Target t names hidden) : Solid t := by
  cases h with
  | object h => exact solid_of_brackets (by decide) (by decide)
  | array h => exact solid_of_brackets (by decide) (by decide)
  | name n hid =>
    have hblank := isBlank_of_isIdentifier hid
    refine ⟨?_, fun c hc => hblank c (List.mem_of_getLast? hc)⟩
    obtain ⟨c, rest, rfl⟩ := List.exists_cons_of_ne_nil (ne_nil_of_isIdentifier hid)
    refine ⟨c, rest, rfl, hblank c List.mem_cons_self, ?_⟩
    rintro rfl
    exact not_mem_of_isIdentifier hid (by decide : isIdentifierPart '.' = false) List.mem_cons_self

theorem Default.head? (h : Default d) : ∀ c ∈ d.head?, c = '=' := by
  cases h with
  | none => simp
  | some e => simp

/-- A text without separators outside of brackets is not cut. -/
theorem splitTopLevel_of_quiet (h : Quiet separator 0 v) : splitTopLevel separator v = [v] := by
  have hsplit := splitTopLevelFrom_append_of_quiet h []
  rwa [List.append_nil, foldr_consFirst_splitTopLevelFrom_nil] at hsplit

/-- A balanced text is cut off at a separator behind it. -/
theorem splitTopLevel_append_cons (hk : Balanced k) (hquiet : Quiet separator 0 k)
    (hsep : isOpening separator = false ∧ isClosing separator = false) (v : Text) :
    splitTopLevel separator (k ++ separator :: v) = k :: splitTopLevel separator v := by
  rw [splitTopLevel, splitTopLevelFrom_append_of_quiet hquiet, hk.depth_eq, splitTopLevelFrom,
    if_pos (by simp [hsep]), foldr_consFirst_cons, List.append_nil]
  rfl

/-- In front of what shows a target, up to the equals sign, no separator is met. -/
theorem quiet_of_shows (ht : Level t) (ha : Gap a) (hb : Gap b) (hsep : separator ∈ separators) :
    Balanced (a ++ (t ++ b)) ∧ Quiet separator 0 (a ++ (t ++ b)) := by
  have hblank : isBlank separator = false := by
    revert hsep
    simp only [separators, List.mem_cons, List.not_mem_nil, or_false]
    rintro (rfl | rfl | rfl) <;> decide
  refine ⟨ha.balanced.append (ht.balanced.append hb.balanced), ?_⟩
  refine ha.balanced.quiet_append (ha.quiet hblank 0) ?_
  exact ht.balanced.quiet_append (ht.quiet separator hsep 0) (hb.quiet hblank 0)

/-- What is left of a text without its default is the target. -/
theorem Shows.trim_withoutDefault (ht : Level t) (hsolid : Solid t) (h : Shows t v) :
    trim (withoutDefault v) = t := by
  obtain ⟨a, b, d, rfl, ha, hb, hd⟩ := h
  obtain ⟨hbalanced, hquiet⟩ := quiet_of_shows ht ha hb (by decide : '=' ∈ separators)
  have hfirst : withoutDefault (a ++ (t ++ (b ++ d))) = a ++ (t ++ b) := by
    rw [withoutDefault, ← List.append_assoc t, ← List.append_assoc a]
    cases d with
    | nil => rw [List.append_nil, splitTopLevel_of_quiet hquiet, List.headD_cons]
    | cons c e =>
      obtain rfl := hd c rfl
      rw [splitTopLevel_append_cons hbalanced hquiet (by decide), List.headD_cons]
  rw [hfirst, ← List.append_assoc]
  have hhead := hsolid.head?_append []
  rw [List.append_nil] at hhead
  exact trim_append_of_blanks ha hb hhead hsolid.last

/-- Up to a colon the text shows the target still. -/
theorem Shows.headD_splitTopLevel (ht : Level t) (h : Shows t v) :
    Shows t ((splitTopLevel ':' v).headD []) := by
  obtain ⟨a, b, d, rfl, ha, hb, hd⟩ := h
  obtain ⟨hbalanced, hquiet⟩ := quiet_of_shows ht ha hb (by decide : ':' ∈ separators)
  obtain ⟨first, parts, hfirst⟩ := splitTopLevelFrom_ne_nil ':' 0 d
  refine ⟨a, b, first, ?_, ha, hb, ?_⟩
  · rw [← List.append_assoc t, ← List.append_assoc a, splitTopLevel,
      splitTopLevelFrom_append_of_quiet hquiet, hbalanced.depth_eq, hfirst, foldr_consFirst_cons,
      List.headD_cons]
    simp only [List.append_assoc]
  · -- What follows the target is empty or a default, whose equals sign is no colon.
    cases d with
    | nil =>
      rw [splitTopLevelFrom, List.cons.injEq] at hfirst
      rw [← hfirst.1]
      simp
    | cons c e =>
      obtain rfl := hd c rfl
      obtain ⟨rest, more, hrest⟩ := splitTopLevelFrom_ne_nil ':' (depthAfter 0 '=') e
      rw [splitTopLevelFrom, if_neg (by decide), hrest, consFirst, List.cons.injEq] at hfirst
      rw [← hfirst.1]
      simp

theorem bindingTarget_of_shows (ht : Level t) (hsolid : Solid t)
    (h : Shows t (valueOf (dropDots (trim e)))) : bindingTarget e = t := by
  rw [bindingTarget_eq]
  exact h.trim_withoutDefault ht hsolid

theorem valueOf_of_quiet (h : Quiet ':' 0 v) : valueOf v = v := by
  rw [valueOf, splitTopLevel_of_quiet h]

theorem dropDots_of_head {x : Text} (h : x.head? ≠ some '.') : dropDots x = x := by
  simpa [dropDots] using dropDots_append [] h

theorem exists_dots (t : Text) : ∃ dots, t = dots ++ dropDots t ∧ ∀ c ∈ dots, c = '.' := by
  fun_induction dropDots t with
  | case1 rest ih =>
    obtain ⟨dots, heq, hdots⟩ := ih
    refine ⟨'.' :: '.' :: '.' :: dots, ?_, ?_⟩
    · rw [List.cons_append, List.cons_append, List.cons_append, ← heq]
    · simpa using hdots
  | case2 t => exact ⟨[], rfl, by simp⟩

/-- White space is taken off the end of a target and its default. -/
theorem exists_trimEnd_padded (hsolid : Solid t) (hb : Gap b) (hd : ∀ c ∈ d.head?, c = '=')
    (a : Text) : ∃ b' d', trimEnd (a ++ (t ++ (b ++ d))) = a ++ (t ++ (b' ++ d')) ∧ Gap b' ∧
      d' <+: d ∧ ∀ c ∈ d'.head?, c = '=' := by
  cases d with
  | nil =>
    -- The blanks behind the target are trimmed with the end.
    refine ⟨[], [], ?_, by simp [Gap], List.prefix_rfl, by simp⟩
    have hlast : ∀ c ∈ (a ++ t).getLast?, isBlank c = false := by
      obtain ⟨first, rest, rfl, -⟩ := hsolid.head
      rw [List.getLast?_append_of_ne_nil _ (List.cons_ne_nil _ _)]
      exact hsolid.last
    rw [List.append_nil, ← List.append_assoc, trimEnd_append_of_blanks hb, trimEnd_eq_self hlast]
    simp
  | cons c e =>
    -- The default is trimmed, and keeps its equals sign.
    obtain rfl := hd c rfl
    have hne : trimEnd ('=' :: e) ≠ [] := trimEnd_ne_nil ⟨'=', List.mem_cons_self, by decide⟩
    obtain ⟨blanks, -, hprefix⟩ := exists_blanks_trimEnd ('=' :: e)
    obtain ⟨first, rest, htrim⟩ := List.exists_cons_of_ne_nil hne
    refine ⟨b, trimEnd ('=' :: e), ?_, hb, ⟨blanks, hprefix.symm⟩, ?_⟩
    · rw [← List.append_assoc t, ← List.append_assoc a, trimEnd_append, if_neg hne]
      simp only [List.append_assoc]
    · rw [htrim, List.cons_append, List.cons.injEq] at hprefix
      rw [htrim]
      rintro c ⟨⟩
      exact hprefix.1.symm

theorem trimStart_append_of_solid (ha : Gap a) (hsolid : Solid t) (v : Text) :
    trimStart (a ++ (t ++ v)) = t ++ v :=
  dropWhile_append_stop ha (hsolid.head?_append v)

theorem Solid.head?_ne_dot (h : Solid t) (v : Text) : (t ++ v).head? ≠ some '.' := by
  obtain ⟨first, rest, rfl, -, hdot⟩ := h.head
  intro hhead
  exact hdot (Option.some.inj hhead)

/-- The target of an element without a key, where no colon is taken for that of a key. -/
theorem bindingTarget_bare (ht : Level t) (hsolid : Solid t) (ha : Gap a) (hb : Gap b)
    (hd : Default d) (hcolon : Quiet ':' 0 d) : bindingTarget (a ++ (t ++ (b ++ d))) = t := by
  obtain ⟨b', d', htrim, hb', hprefix, hhead⟩ := exists_trimEnd_padded hsolid hb hd.head? []
  obtain ⟨more, rfl⟩ := hprefix
  rw [List.nil_append, List.nil_append] at htrim
  have hquiet : Quiet ':' 0 (t ++ (b' ++ d')) := by
    refine ht.balanced.quiet_append (ht.quiet _ (by decide) 0) ?_
    exact hb'.balanced.quiet_append (hb'.quiet (by decide) 0) (quiet_append.mp hcolon).1
  refine bindingTarget_of_shows ht hsolid ?_
  rw [trim, trimStart_append_of_solid ha hsolid, htrim, dropDots_of_head (hsolid.head?_ne_dot _),
    valueOf_of_quiet hquiet]
  exact ⟨[], b', d', rfl, by simp [Gap], hb', hhead⟩

/-- A key is a key still without the blanks and the dots in front of it. -/
theorem quiet_dropDots_trimStart (hk : Balanced k) (hquiet : Quiet separator 0 k) :
    Balanced (dropDots (trimStart k)) ∧ Quiet separator 0 (dropDots (trimStart k)) := by
  have hblanks : k = k.takeWhile isBlank ++ trimStart k := List.takeWhile_append_dropWhile.symm
  obtain ⟨dots, hdots, hall⟩ := exists_dots (trimStart k)
  rw [hdots] at hblanks
  have hplain : ∀ c ∈ k.takeWhile isBlank ++ dots, isOpening c = false ∧ isClosing c = false := by
    intro c hc
    rcases List.mem_append.mp hc with hc | hc
    · exact plain_of_isBlank (mem_takeWhile hc)
    · obtain rfl := hall c hc
      decide
  rw [hblanks, ← List.append_assoc] at hk hquiet
  exact ⟨hk.of_append_plain hplain, quiet_of_append_plain hplain hquiet⟩

/-- The target of an element with a key. -/
theorem bindingTarget_keyed (hk : Balanced k) (hcolon : Quiet ':' 0 k) (ht : Level t)
    (hsolid : Solid t) (ha : Gap a) (hb : Gap b) (hd : Default d) :
    bindingTarget (k ++ ':' :: (a ++ (t ++ (b ++ d)))) = t := by
  obtain ⟨b', d', htrim, hb', -, hhead⟩ := exists_trimEnd_padded hsolid hb hd.head?
    (trimStart k ++ ':' :: a)
  have htrim' : trim (k ++ ':' :: (a ++ (t ++ (b ++ d)))) =
      trimStart k ++ ':' :: (a ++ (t ++ (b' ++ d'))) := by
    have hstart : ∀ v, trimStart (k ++ ':' :: v) = trimStart k ++ ':' :: v :=
      dropWhile_append_stop_cons (by decide) k
    rw [trim, hstart]
    simpa using htrim
  have hkey := quiet_dropDots_trimStart hk hcolon
  refine bindingTarget_of_shows ht hsolid ?_
  rw [htrim', dropDots_append _ (by simp), valueOf,
    splitTopLevel_append_cons hkey.1 hkey.2 (by decide)]
  have hshows : Shows t (a ++ (t ++ (b' ++ d'))) := ⟨a, b', d', rfl, ha, hb', hhead⟩
  have hfirst := hshows.headD_splitTopLevel ht
  obtain ⟨first, parts, hsplit⟩ := splitTopLevelFrom_ne_nil ':' 0 (a ++ (t ++ (b' ++ d')))
  rw [splitTopLevel, hsplit] at hfirst ⊢
  exact hfirst

/-- The target of a rest element. -/
theorem bindingTarget_rest (ht : Level t) (hsolid : Solid t) (ha : Gap a) (hb : Gap b)
    (hc : Gap c) : bindingTarget (a ++ (('.' :: '.' :: '.' :: (b ++ t)) ++ c)) = t := by
  have htrim : trim (a ++ (('.' :: '.' :: '.' :: (b ++ t)) ++ c)) =
      '.' :: '.' :: '.' :: (b ++ t) := by
    rw [← List.append_assoc]
    refine trim_append_of_blanks ha hc (by rintro c ⟨⟩; decide) ?_
    obtain ⟨first, rest, rfl, -⟩ := hsolid.head
    rw [← List.cons_append, ← List.cons_append, ← List.cons_append,
      List.getLast?_append_of_ne_nil _ (List.cons_ne_nil _ _)]
    exact hsolid.last
  -- What follows the dots does not start with another one.
  have hhead : (b ++ t).head? ≠ some '.' := by
    cases b with
    | nil =>
      have hdot := hsolid.head?_ne_dot []
      rwa [List.append_nil] at hdot
    | cons x b =>
      intro hx
      obtain rfl := Option.some.inj hx
      exact absurd (hb '.' List.mem_cons_self) (by decide)
  have hquiet : Quiet ':' 0 (b ++ t) :=
    hb.balanced.quiet_append (hb.quiet (by decide) 0) (ht.quiet _ (by decide) 0)
  refine bindingTarget_of_shows ht hsolid ?_
  rw [htrim, dropDots, dropDots_of_head hhead, valueOf_of_quiet hquiet]
  exact ⟨b, [], [], by simp, hb, by simp [Gap], by simp⟩

end

/-! ### The names of a pattern -/

section

variable {n : Nat} {e t x : Text} {names hidden : List Text}

/-- A target within an element is a name or the body of a pattern. -/
theorem mem_elementNames_of_name (htarget : bindingTarget e = t) (ht : isIdentifier t = true) :
    t ∈ elementNames n e := by
  have hnone : nestedBody? (bindingTarget e) = none := by
    refine nestedBody?_eq_none (.inl fun c hc => ?_)
    rw [htarget] at hc
    exact (plain_of_isIdentifierPart
      (isIdentifierPart_of_isIdentifier ht c (List.mem_of_mem_head? hc))).1
  exact mem_elementNames.mpr (.inr ⟨hnone, ht, htarget.symm⟩)

theorem mem_elementNames_of_body {o q : Char} (htarget : bindingTarget e = o :: (t ++ [q]))
    (ho : o = '{' ∨ o = '[') (hq : q = '}' ∨ q = ']') (hx : x ∈ patternNamesWithin n t) :
    x ∈ elementNames n e := by
  have hsome : nestedBody? (bindingTarget e) = some t :=
    nestedBody?_eq_some_iff.mpr ⟨o, q, htarget, ho, hq⟩
  exact mem_elementNames.mpr (.inl ⟨t, hsome, hx⟩)

mutual

/-- A pattern binds the names that its text says it binds, but for hidden ones. -/
theorem Body.mem {t x : Text} {names hidden : List Text} :
    Body t names hidden → x ∈ names → x ∉ hidden → ∃ n, x ∈ patternNamesWithin n t
  | .last h, hx, hfree => by
    obtain ⟨n, hn⟩ := h.mem hx hfree
    refine ⟨n + 1, ?_⟩
    rw [patternNamesWithin_succ, splitTopLevel_of_quiet h.balanced_and_quiet.2]
    simpa using hn
  | .next h h', hx, hfree => by
    obtain ⟨hbalanced, hquiet⟩ := h.balanced_and_quiet
    rw [List.mem_append, not_or] at hfree
    rcases List.mem_append.mp hx with hx | hx
    · obtain ⟨n, hn⟩ := h.mem hx hfree.1
      refine ⟨n + 1, ?_⟩
      rw [patternNamesWithin_succ, splitTopLevel_append_cons hbalanced hquiet (by decide)]
      exact List.mem_append_left _ hn
    · -- The body is split at its first comma, and the rest of it as a body of its own.
      obtain ⟨n, hn⟩ := h'.mem hx hfree.2
      cases n with
      | zero => cases hn
      | succ n =>
        refine ⟨n + 1, ?_⟩
        rw [patternNamesWithin_succ, splitTopLevel_append_cons hbalanced hquiet (by decide)]
        exact List.mem_append_right _ hn

theorem Element.mem {e x : Text} {names hidden : List Text} :
    Element e names hidden → x ∈ names → x ∉ hidden → ∃ n, x ∈ elementNames n e
  | .hole _, hx, _ => absurd hx List.not_mem_nil
  | .bare ha h hb hd hcolon, hx, hfree =>
    h.mem (bindingTarget_bare h.level h.solid ha hb hd hcolon) hx hfree
  | .hidden .., hx, hfree => absurd hx hfree
  | .keyed hk _ hcolon ha h hb hd, hx, hfree =>
    h.mem (bindingTarget_keyed hk hcolon h.level h.solid ha hb hd) hx hfree
  | .rest ha hb h hc, hx, hfree =>
    h.mem (bindingTarget_rest h.level h.solid ha hb hc) hx hfree

theorem Target.mem {e t x : Text} {names hidden : List Text} :
    Target t names hidden → bindingTarget e = t → x ∈ names → x ∉ hidden →
      ∃ n, x ∈ elementNames n e
  | .name n h, htarget, hx, _ => by
    obtain rfl := List.mem_singleton.mp hx
    exact ⟨0, mem_elementNames_of_name htarget h⟩
  | .object h, htarget, hx, hfree => by
    obtain ⟨n, hn⟩ := h.mem hx hfree
    exact ⟨n, mem_elementNames_of_body htarget (.inl rfl) (.inl rfl) hn⟩
  | .array h, htarget, hx, hfree => by
    obtain ⟨n, hn⟩ := h.mem hx hfree
    exact ⟨n, mem_elementNames_of_body htarget (.inr rfl) (.inr rfl) hn⟩

end

end

end DesignTokens.Declaration
