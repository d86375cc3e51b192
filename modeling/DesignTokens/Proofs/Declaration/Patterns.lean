import DesignTokens.Proofs.Declaration.Brackets
import DesignTokens.Proofs.Text.Parts

/-! # Patterns with a stretch of text exchanged

A destructuring pattern may have an import within it, as far as its brackets go. When the import is
written anew, or another one is put behind it, the pattern is cut at the same separators, and the
stretch that is exchanged stays within one piece of it. A piece with a quote in it is no name.

## Main definitions

* `Declaration.Family` - texts of several kinds that may stand in the same place
* `Declaration.Fits` - whether such texts are passed over between given texts
* `Declaration.Outcome` - whether what is made of a text does not depend on the stretch, or has a
  stretch of the same kind in it
* `Declaration.Opaque` - a stretch from one quote to another, as that of whole imports

## Main results

* `Declaration.mem_patternNames_iff` - the names of a pattern, without regard to its depth
* `Declaration.outcome_bindingTarget` - what an element of a pattern binds
* `Declaration.patternNamesWithin_opaqueStretch` - opaque stretches make no difference
-/

namespace DesignTokens.Declaration

open Character Text

/-! ### The names of a pattern -/

/-- The names that an element of a pattern binds, for patterns nested less than `depth` deep. -/
def elementNames (depth : Nat) (element : Text) : List Text :=
  match nestedBody? (bindingTarget element) with
  | some inner => patternNamesWithin depth inner
  | none => if isIdentifier (bindingTarget element) then [bindingTarget element] else []

theorem patternNamesWithin_succ (depth : Nat) (body : Text) :
    patternNamesWithin (depth + 1) body =
      (splitTopLevel ',' body).flatMap (elementNames depth) := rfl

section

variable {n m : Nat} {body element inner target x : Text}

theorem elementNames_of_some (h : nestedBody? (bindingTarget element) = some inner) :
    elementNames n element = patternNamesWithin n inner := by
  rw [elementNames, h]

theorem elementNames_of_none (h : nestedBody? (bindingTarget element) = none)
    (hname : isIdentifier (bindingTarget element) = false) : elementNames n element = [] := by
  rw [elementNames, h]
  exact if_neg (Bool.eq_false_iff.mp hname)

theorem nestedBody?_eq_some_iff : nestedBody? target = some inner ↔
    ∃ c d, target = c :: (inner ++ [d]) ∧ (c = '{' ∨ c = '[') ∧ (d = '}' ∨ d = ']') := by
  cases target with
  | nil => simp [nestedBody?]
  | cons c rest =>
    rcases List.eq_nil_or_concat' rest with rfl | ⟨front, d, rfl⟩
    · simp [nestedBody?]
    · simp only [nestedBody?, List.reverse_append, List.reverse_singleton, List.singleton_append,
        List.reverse_reverse, List.cons.injEq]
      constructor
      · intro h
        split at h
        · rename_i hc
          split at h
          · rename_i hd
            cases h
            exact ⟨c, d, ⟨rfl, rfl⟩, by simpa using hc, by simpa using hd⟩
          · cases h
        · cases h
      · rintro ⟨c', d', ⟨rfl, heq⟩, hc, hd⟩
        obtain ⟨rfl, hlast⟩ := List.append_inj' heq rfl
        obtain rfl : d = d' := List.singleton_inj.mp hlast
        rw [if_pos (by simpa using hc), if_pos (by simpa using hd)]

/-- Only what starts with a bracket and ends with one is a nested pattern. -/
theorem nestedBody?_eq_none (h : (∀ c ∈ target.head?, isOpening c = false) ∨
    ∀ c ∈ target.getLast?, isClosing c = false) : nestedBody? target = none := by
  cases hbody : nestedBody? target with
  | none => rfl
  | some inner =>
    obtain ⟨c, d, rfl, hc, hd⟩ := nestedBody?_eq_some_iff.mp hbody
    have hlast : (c :: (inner ++ [d])).getLast? = some d := by
      rw [← List.cons_append, List.getLast?_concat]
    rcases h with h | h
    · have := h c rfl
      rcases hc with rfl | rfl <;> simp [isOpening] at this
    · have := h d hlast
      rcases hd with rfl | rfl <;> simp [isClosing] at this

/-- What stands around a stretch decides whether there is a nested pattern, unless the text starts
or ends with the stretch. -/
theorem nestedBody?_around {u v : Text} (hu : u ≠ []) (hv : v ≠ []) :
    (∃ u' v', ∀ r, nestedBody? (u ++ (r ++ v)) = some (u' ++ (r ++ v'))) ∨
      ∀ r, nestedBody? (u ++ (r ++ v)) = none := by
  obtain ⟨c, u, rfl⟩ := List.exists_cons_of_ne_nil hu
  obtain ⟨v, d, rfl⟩ := (List.eq_nil_or_concat' v).resolve_left hv
  by_cases hbrackets : (c = '{' ∨ c = '[') ∧ (d = '}' ∨ d = ']')
  · exact .inl ⟨u, v, fun r => nestedBody?_eq_some_iff.mpr ⟨c, d, by simp, hbrackets⟩⟩
  · refine .inr fun r => ?_
    cases hbody : nestedBody? (c :: u ++ (r ++ (v ++ [d]))) with
    | none => rfl
    | some inner =>
      obtain ⟨c', d', heq, hb⟩ := nestedBody?_eq_some_iff.mp hbody
      simp only [List.cons_append, List.cons.injEq, ← List.append_assoc] at heq
      obtain ⟨rfl, heq⟩ := heq
      obtain ⟨-, hlast⟩ := List.append_inj' heq rfl
      obtain rfl : d = d' := List.singleton_inj.mp hlast
      exact absurd hb hbrackets

theorem length_dropWhile_le (p : Char → Bool) (t : Text) : (t.dropWhile p).length ≤ t.length :=
  (List.dropWhile_suffix p).length_le

theorem length_trim_le (t : Text) : (trim t).length ≤ t.length := by
  rw [trim, trimEnd, dropEndWhile, List.length_reverse]
  refine Nat.le_trans (length_dropWhile_le isBlank _) ?_
  rw [List.length_reverse]
  exact length_dropWhile_le isBlank t

theorem length_dropDots_le (t : Text) : (dropDots t).length ≤ t.length := by
  fun_induction dropDots t with
  | case1 rest ih => simp only [List.length_cons]; omega
  | case2 => exact Nat.le_refl _

/-- What follows the key of an element, or all of it if it has none. -/
def valueOf (element : Text) : Text :=
  match splitTopLevel ':' element with
  | _ :: value :: _ => value
  | _ => element

/-- What comes before the default of an element. -/
def withoutDefault (element : Text) : Text :=
  (splitTopLevel '=' element).headD []

theorem bindingTarget_eq (element : Text) :
    bindingTarget element = trim (withoutDefault (valueOf (dropDots (trim element)))) := rfl

theorem length_bindingTarget_le (element : Text) :
    (bindingTarget element).length ≤ element.length := by
  have hvalue : ∀ t, (valueOf t).length ≤ t.length := by
    intro t
    rw [valueOf]
    split
    · rename_i h
      exact length_le_of_mem_splitTopLevelFrom (h ▸ by simp : _ ∈ splitTopLevel ':' t)
    · exact Nat.le_refl _
  have hdefault : ∀ t, (withoutDefault t).length ≤ t.length := by
    intro t
    obtain ⟨part, parts, heq⟩ := splitTopLevelFrom_ne_nil '=' 0 t
    rw [withoutDefault, splitTopLevel, heq, List.headD_cons]
    exact length_le_of_mem_splitTopLevelFrom (heq ▸ List.mem_cons_self)
  calc (bindingTarget element).length
      ≤ (withoutDefault (valueOf (dropDots (trim element)))).length := length_trim_le _
    _ ≤ (valueOf (dropDots (trim element))).length := hdefault _
    _ ≤ (dropDots (trim element)).length := hvalue _
    _ ≤ (trim element).length := length_dropDots_le _
    _ ≤ element.length := length_trim_le _

theorem mem_elementNames : x ∈ elementNames n element ↔
    (∃ inner, nestedBody? (bindingTarget element) = some inner ∧ x ∈ patternNamesWithin n inner) ∨
      nestedBody? (bindingTarget element) = none ∧ isIdentifier x = true ∧
        x = bindingTarget element := by
  rw [elementNames]
  cases nestedBody? (bindingTarget element) with
  | some inner => simp
  | none =>
    simp only [reduceCtorEq, false_and, exists_false, true_and, false_or]
    split
    · rename_i h
      rw [List.mem_singleton]
      exact ⟨fun heq => ⟨heq ▸ h, heq⟩, fun heq => heq.2⟩
    · rename_i h
      constructor
      · intro hmem
        cases hmem
      · rintro ⟨hx, rfl⟩
        exact absurd hx h

/-- A greater bound on the depth leaves out no name. -/
theorem patternNamesWithin_mono (h : n ≤ m) (hx : x ∈ patternNamesWithin n body) :
    x ∈ patternNamesWithin m body := by
  induction n generalizing m body with
  | zero => cases hx
  | succ n ih =>
    obtain ⟨m, rfl⟩ : ∃ k, m = k + 1 := ⟨m - 1, by omega⟩
    rw [patternNamesWithin_succ, List.mem_flatMap] at hx ⊢
    obtain ⟨element, helement, hx⟩ := hx
    refine ⟨element, helement, ?_⟩
    rw [mem_elementNames] at hx ⊢
    rcases hx with ⟨inner, hinner, hx⟩ | hx
    · exact .inl ⟨inner, hinner, ih (by omega) hx⟩
    · exact .inr hx

/-- The length of a pattern bounds its depth. -/
theorem mem_patternNames_iff : x ∈ patternNames body ↔ ∃ n, x ∈ patternNamesWithin n body := by
  refine ⟨fun h => ⟨_, h⟩, ?_⟩
  rintro ⟨n, hx⟩
  induction n generalizing body with
  | zero => cases hx
  | succ n ih =>
    rw [patternNamesWithin_succ, List.mem_flatMap] at hx
    obtain ⟨element, helement, hx⟩ := hx
    rw [patternNames, patternNamesWithin_succ, List.mem_flatMap]
    refine ⟨element, helement, ?_⟩
    rw [mem_elementNames] at hx ⊢
    rcases hx with ⟨inner, hinner, hx⟩ | hx
    · -- A nested pattern is shorter than the one around it, so the length is depth enough.
      refine .inl ⟨inner, hinner, patternNamesWithin_mono ?_ (ih hx)⟩
      obtain ⟨c, d, htarget, -⟩ := nestedBody?_eq_some_iff.mp hinner
      have htarget := congrArg List.length htarget
      have hle := length_bindingTarget_le element
      have hle' := length_le_of_mem_splitTopLevelFrom helement
      simp only [List.length_cons, List.length_append, List.length_nil] at htarget
      omega
    · exact .inr hx

end

/-! ### Exchanged stretches -/

section

variable {ι : Type} {F : ι → Text → Prop} {f g : Text → Text} {u v t : Text} {separator : Char}

/-- Texts of several kinds that may stand in the same place of a pattern: trimming makes none of
another kind of them, and leaves something of them. -/
structure Family (F : ι → Text → Prop) : Prop where
  dot : ∀ k r, F k r → r.head? ≠ some '.'
  solid : ∀ k r, F k r → ∃ c ∈ r, isBlank c = false
  trimStart : ∀ k r, F k r → F k (trimStart r)
  trimEnd : ∀ k r, F k r → F k (trimEnd r)

/-- Between two texts, texts of a family are passed over, and they all lead to the same depth. -/
def Fits (F : ι → Text → Prop) (u v : Text) : Prop :=
  ∃ depth, ∀ k r, F k r → (∀ separator ∈ separators, Quiet separator (depthThrough 0 u) r) ∧
    (v = [] ∨ depthThrough (depthThrough 0 u) r = depth)

/-- Two texts around a place are what is left of two others there. -/
structure Narrows (F : ι → Text → Prop) (u v u' v' : Text) : Prop where
  fits : Fits F u' v'
  start : u = [] → u' = []
  stop : v = [] → v' = []

/-- What a function makes of a text with a stretch of a family does not depend on the stretch, or it
has a stretch of the same kind in a narrower place. -/
def Outcome (F : ι → Text → Prop) (f : Text → Text) (u v : Text) : Prop :=
  (∃ a, ∀ k r, F k r → f (u ++ (r ++ v)) = a) ∨
    ∃ u' v', Narrows F u v u' v' ∧
      ∀ k r, F k r → ∃ r', F k r' ∧ f (u ++ (r ++ v)) = u' ++ (r' ++ v')

theorem Narrows.trans {u' v' u'' v'' : Text} (h : Narrows F u v u' v')
    (h' : Narrows F u' v' u'' v'') : Narrows F u v u'' v'' :=
  ⟨h'.fits, fun hu => h'.start (h.start hu), fun hv => h'.stop (h.stop hv)⟩

theorem Outcome.comp (hf : Outcome F f u v) (hg : ∀ u v, Fits F u v → Outcome F g u v) :
    Outcome F (g ∘ f) u v := by
  rcases hf with ⟨a, ha⟩ | ⟨u', v', hnarrow, hf⟩
  · exact .inl ⟨g a, fun k r hr => congrArg g (ha k r hr)⟩
  · rcases hg u' v' hnarrow.fits with ⟨a, ha⟩ | ⟨u'', v'', hnarrow', hg⟩
    · refine .inl ⟨a, fun k r hr => ?_⟩
      obtain ⟨r', hr', heq⟩ := hf k r hr
      rw [Function.comp_apply, heq, ha k r' hr']
    · refine .inr ⟨u'', v'', hnarrow.trans hnarrow', fun k r hr => ?_⟩
      obtain ⟨r', hr', heq⟩ := hf k r hr
      obtain ⟨r'', hr'', heq'⟩ := hg k r' hr'
      exact ⟨r'', hr'', by rw [Function.comp_apply, heq, heq']⟩

/-- The depth in front of a place is all that matters of the text there. -/
theorem Fits.of_depth {u' v' : Text} (h : Fits F u v)
    (hu : depthThrough 0 u' = depthThrough 0 u) (hv : v = [] → v' = []) : Fits F u' v' := by
  obtain ⟨depth, hF⟩ := h
  refine ⟨depth, fun k r hr => ?_⟩
  rw [hu]
  exact ⟨(hF k r hr).1, (hF k r hr).2.imp_left hv⟩

/-- The pieces of a text with a stretch: one of them has the stretch, the others do not depend on
it. -/
theorem exists_splitTopLevel (h : Fits F u v) (hsep : separator ∈ separators) :
    ∃ front p s back, Narrows F u v p s ∧ ∀ k r, F k r →
      splitTopLevel separator (u ++ (r ++ v)) = front ++ (p ++ (r ++ s)) :: back := by
  obtain ⟨front, p, hsplit, hp⟩ := exists_splitTopLevelFrom_append separator 0 u
  have hdepth : depthThrough 0 p = depthThrough 0 u := by
    rcases hp with ⟨-, rfl⟩ | ⟨-, -, hdepth⟩
    · rfl
    · exact hdepth
  have hstart : u = [] → p = [] := by
    rintro rfl
    rcases hp with ⟨-, rfl⟩ | ⟨hne, -⟩
    · rfl
    · exact absurd rfl hne
  obtain ⟨depth, hF⟩ := id h
  -- Behind the stretch the text is cut alike, as the depth there is the same for all of them.
  obtain ⟨s, back, hs, hstop⟩ : ∃ s back, (∀ k r, F k r →
      splitTopLevelFrom separator (depthThrough (depthThrough 0 u) r) v = s :: back) ∧
        (v = [] → s = []) := by
    cases v with
    | nil => exact ⟨[], [], fun _ _ _ => rfl, id⟩
    | cons c v =>
      obtain ⟨s, back, hs⟩ := splitTopLevelFrom_ne_nil separator depth (c :: v)
      refine ⟨s, back, fun k r hr => ?_, fun hnil => by cases hnil⟩
      rw [(hF k r hr).2.resolve_left (List.cons_ne_nil c v), hs]
  refine ⟨front, p, s, back, ⟨h.of_depth hdepth hstop, hstart, hstop⟩, fun k r hr => ?_⟩
  rw [splitTopLevel, hsplit, splitTopLevelFrom_append_of_quiet ((hF k r hr).1 separator hsep),
    hs k r hr, foldr_consFirst_cons, foldr_consFirst_cons]

theorem outcome_valueOf (h : Fits F u v) : Outcome F valueOf u v := by
  obtain ⟨front, p, s, back, hnarrow, hsplit⟩ := exists_splitTopLevel h
    (by decide : ':' ∈ separators)
  -- The stretch stands in the only part, in the key, in the value, or behind it.
  match front, back with
  | [], [] =>
    refine .inr ⟨u, v, ⟨h, id, id⟩, fun k r hr => ⟨r, hr, ?_⟩⟩
    rw [valueOf, hsplit k r hr]
    rfl
  | [], value :: back =>
    refine .inl ⟨value, fun k r hr => ?_⟩
    rw [valueOf, hsplit k r hr]
    rfl
  | [key], back =>
    refine .inr ⟨p, s, hnarrow, fun k r hr => ⟨r, hr, ?_⟩⟩
    rw [valueOf, hsplit k r hr]
    rfl
  | key :: value :: front, back =>
    refine .inl ⟨value, fun k r hr => ?_⟩
    rw [valueOf, hsplit k r hr]
    rfl

theorem outcome_withoutDefault (h : Fits F u v) : Outcome F withoutDefault u v := by
  obtain ⟨front, p, s, back, hnarrow, hsplit⟩ := exists_splitTopLevel h
    (by decide : '=' ∈ separators)
  cases front with
  | nil =>
    refine .inr ⟨p, s, hnarrow, fun k r hr => ⟨r, hr, ?_⟩⟩
    rw [withoutDefault, hsplit k r hr]
    rfl
  | cons first front =>
    refine .inl ⟨first, fun k r hr => ?_⟩
    rw [withoutDefault, hsplit k r hr]
    rfl

theorem plain_of_isBlank {c : Char} (h : isBlank c = true) :
    isOpening c = false ∧ isClosing c = false := by
  have hne : ∀ d, isBlank d = false → c ≠ d := fun d hd => ne_of_isBlank h hd
  simp only [isOpening, isClosing, Bool.or_eq_false_iff, decide_eq_false_iff_not]
  exact ⟨⟨⟨hne _ (by decide), hne _ (by decide)⟩, hne _ (by decide)⟩,
    ⟨hne _ (by decide), hne _ (by decide)⟩, hne _ (by decide)⟩

theorem depthThrough_of_blanks (h : ∀ c ∈ t, isBlank c = true) (depth : Nat) :
    depthThrough depth t = depth :=
  depthThrough_of_plain (fun c hc => plain_of_isBlank (h c hc)) depth

theorem depthThrough_trimStart (depth : Nat) (t : Text) :
    depthThrough depth (trimStart t) = depthThrough depth t := by
  conv_rhs => rw [← List.takeWhile_append_dropWhile (p := isBlank) (l := t)]
  rw [depthThrough_append, depthThrough_of_blanks fun c => mem_takeWhile]
  rfl

/-- Dots in front of a text are taken off, and what follows them stays. -/
theorem dropDots_append (u : Text) {x : Text} (hx : x.head? ≠ some '.') :
    dropDots (u ++ x) = dropDots u ++ x := by
  fun_induction dropDots u with
  | case1 rest ih => simpa [dropDots] using ih
  | case2 t ht =>
    rw [dropDots]
    intro rest heq
    match t, heq with
    | [], heq => simp_all
    | [c], heq => simp_all
    | [c, d], heq => simp_all
    | c :: d :: e :: t, heq => exact ht t (by simp_all)

theorem depthThrough_dropDots (depth : Nat) (t : Text) :
    depthThrough depth (dropDots t) = depthThrough depth t := by
  fun_induction dropDots t with
  | case1 rest ih => exact ih
  | case2 => rfl

theorem outcome_dropDots (hF : Family F) (h : Fits F u v) : Outcome F dropDots u v := by
  refine .inr ⟨dropDots u, v, ⟨h.of_depth (depthThrough_dropDots 0 u) id, ?_, id⟩,
    fun k r hr => ⟨r, hr, dropDots_append u ?_⟩⟩
  · rintro rfl
    rfl
  · obtain ⟨c, hc, -⟩ := hF.solid k r hr
    rw [List.head?_append_of_ne_nil _ (List.ne_nil_of_mem hc)]
    exact hF.dot k r hr

theorem trimStart_append (u x : Text) :
    trimStart (u ++ x) = if trimStart u = [] then trimStart x else trimStart u ++ x := by
  rw [trimStart, List.dropWhile_append]
  simp only [List.isEmpty_iff]
  rfl

theorem trimEnd_append (x v : Text) :
    trimEnd (x ++ v) = if trimEnd v = [] then trimEnd x else x ++ trimEnd v := by
  rw [trimEnd, dropEndWhile, List.reverse_append, List.dropWhile_append]
  simp only [trimEnd, dropEndWhile, List.reverse_eq_nil_iff, List.isEmpty_iff]
  split
  · rfl
  · rw [List.reverse_append, List.reverse_reverse]

theorem dropWhile_ne_nil {p : Char → Bool} {r : Text} (h : ∃ c ∈ r, p c = false) :
    r.dropWhile p ≠ [] := by
  obtain ⟨c, hc, hfalse⟩ := h
  intro hnil
  have hsplit := List.takeWhile_append_dropWhile (p := p) (l := r)
  rw [hnil, List.append_nil] at hsplit
  have htrue : p c = true := by
    rw [← hsplit] at hc
    exact mem_takeWhile hc
  rw [htrue] at hfalse
  cases hfalse

theorem trimStart_ne_nil {r : Text} (h : ∃ c ∈ r, isBlank c = false) : trimStart r ≠ [] :=
  dropWhile_ne_nil h

theorem trimEnd_ne_nil {r : Text} (h : ∃ c ∈ r, isBlank c = false) : trimEnd r ≠ [] := by
  rw [trimEnd, dropEndWhile, Ne, List.reverse_eq_nil_iff]
  exact dropWhile_ne_nil (by simpa using h)

theorem outcome_trim (hF : Family F) (h : Fits F u v) : Outcome F trim u v := by
  refine .inr ⟨trimStart u, trimEnd v, ⟨h.of_depth (depthThrough_trimStart 0 u) ?_, ?_, ?_⟩,
    fun k r hr => ?_⟩
  · rintro rfl
    rfl
  · rintro rfl
    rfl
  · rintro rfl
    rfl
  · -- The stretch loses its blanks where nothing solid stands beside it.
    obtain ⟨r', hr', hstart⟩ : ∃ r', F k r' ∧
        trimStart (u ++ (r ++ v)) = trimStart u ++ (r' ++ v) := by
      rw [trimStart_append]
      split
      · rename_i hu
        refine ⟨trimStart r, hF.trimStart k r hr, ?_⟩
        rw [hu, trimStart_append, if_neg (trimStart_ne_nil (hF.solid k r hr))]
        rfl
      · exact ⟨r, hr, rfl⟩
    rw [trim, hstart, ← List.append_assoc, trimEnd_append]
    split
    · rename_i hv
      refine ⟨trimEnd r', hF.trimEnd k r' hr', ?_⟩
      rw [hv, trimEnd_append, if_neg (trimEnd_ne_nil (hF.solid k r' hr')), List.append_nil]
    · exact ⟨r', hr', by rw [List.append_assoc]⟩

/-- What an element of a pattern binds does not depend on a stretch within it, or has a stretch of
the same kind in it. -/
theorem outcome_bindingTarget (hF : Family F) (h : Fits F u v) : Outcome F bindingTarget u v :=
  ((((outcome_trim hF h).comp fun _ _ => outcome_dropDots hF).comp
    fun _ _ => outcome_valueOf).comp fun _ _ => outcome_withoutDefault).comp
      fun _ _ => outcome_trim hF

end

/-! ### Opaque stretches -/

/-- A stretch that starts with a quote and does not end with a bracket, and that is passed over at
every depth. -/
structure Opaque (r : Text) : Prop where
  level : Level r
  quote : ∃ q rest, r = q :: rest ∧ (q = '\'' ∨ q = '"')
  last : ∀ c ∈ (trimEnd r).getLast?, isClosing c = false

theorem isBlank_quote {q : Char} (h : q = '\'' ∨ q = '"') : isBlank q = false := by
  rcases h with rfl | rfl <;> decide

/-- The family of opaque stretches, all of one kind. -/
def opaqueFamily (_ : Unit) (r : Text) : Prop :=
  Opaque r

section

variable {r r' u v : Text}

theorem Opaque.solid (h : Opaque r) : ∃ c ∈ r, isBlank c = false := by
  obtain ⟨q, rest, rfl, hq⟩ := h.quote
  exact ⟨q, List.mem_cons_self, isBlank_quote hq⟩

theorem Opaque.trimEnd (h : Opaque r) : Opaque (trimEnd r) := by
  obtain ⟨b, hb, heq⟩ := exists_blanks_trimEnd r
  have hplain : ∀ c ∈ b, isOpening c = false ∧ isClosing c = false :=
    fun c hc => plain_of_isBlank (hb c hc)
  refine ⟨⟨fun d => ?_, fun sep hsep d => ?_, fun d hd => ?_⟩, ?_, ?_⟩
  · have hdepth := h.level.depth d
    rwa [heq, depthThrough_append, depthThrough_of_plain hplain] at hdepth
  · have hquiet := h.level.quiet sep hsep d
    rw [heq, quiet_append] at hquiet
    exact hquiet.1
  · have hheld := h.level.held d hd
    rw [heq, held_append] at hheld
    exact hheld.1
  · obtain ⟨q, rest, hr, hq⟩ := h.quote
    obtain ⟨d, rest', htrim⟩ := List.exists_cons_of_ne_nil (trimEnd_ne_nil h.solid)
    rw [htrim, hr, List.cons_append, List.cons.injEq] at heq
    exact ⟨d, rest', htrim, heq.1 ▸ hq⟩
  · have htrim : Text.trimEnd (Text.trimEnd r) = Text.trimEnd r :=
      trimEnd_eq_self (getLast?_trimEnd r)
    rw [htrim]
    exact h.last

theorem family_opaqueFamily : Family opaqueFamily where
  dot _ r h := by
    obtain ⟨q, rest, rfl, rfl | rfl⟩ := Opaque.quote h <;> simp
  solid _ r h := Opaque.solid h
  trimStart _ r h := by
    obtain ⟨q, rest, rfl, hq⟩ := Opaque.quote h
    rwa [Text.trimStart, List.dropWhile_cons_of_neg (by simp [isBlank_quote hq])]
  trimEnd _ r h := Opaque.trimEnd h

theorem fits_opaqueFamily (u v : Text) : Fits opaqueFamily u v :=
  ⟨depthThrough 0 u, fun _ _ hr => ⟨fun sep hsep => hr.level.quiet sep hsep _,
    .inr (hr.level.depth _)⟩⟩

/-- An opaque stretch does not end with a bracket. -/
theorem Opaque.getLast? (h : Opaque r) : ∀ c ∈ r.getLast?, isClosing c = false := by
  obtain ⟨b, hb, heq⟩ := exists_blanks_trimEnd r
  intro c hc
  rw [heq] at hc
  cases hlast : b.getLast? with
  | none =>
    rw [List.getLast?_eq_none_iff.mp hlast, List.append_nil] at hc
    exact h.last c hc
  | some d =>
    rw [List.getLast?_append, hlast, Option.some_or] at hc
    obtain rfl := Option.some.inj hc
    exact (plain_of_isBlank (hb d (List.mem_of_getLast? hlast))).2

/-- A text with a quote in it is no identifier. -/
theorem isIdentifier_of_mem {c : Char} {t : Text} (hc : c ∈ t) (h : isIdentifierPart c = false) :
    isIdentifier t = false := by
  cases hid : isIdentifier t with
  | false => rfl
  | true => exact absurd hc (not_mem_of_isIdentifier hid h)

theorem Opaque.isIdentifier (h : Opaque r) (u v : Text) : isIdentifier (u ++ (r ++ v)) = false := by
  obtain ⟨q, rest, rfl, rfl | rfl⟩ := h.quote
  · exact isIdentifier_of_mem (by simp : '\'' ∈ _) (by decide)
  · exact isIdentifier_of_mem (by simp : '"' ∈ _) (by decide)

/-- A text that starts or ends with an opaque stretch is no nested pattern. -/
theorem Opaque.nestedBody?_eq_none (h : Opaque r) (hedge : u = [] ∨ v = []) :
    nestedBody? (u ++ (r ++ v)) = none := by
  refine Declaration.nestedBody?_eq_none ?_
  rcases hedge with rfl | rfl
  · obtain ⟨q, rest, rfl, rfl | rfl⟩ := h.quote <;> exact .inl (by simp [isOpening])
  · right
    obtain ⟨c, hc, -⟩ := h.solid
    rw [List.append_nil, List.getLast?_append_of_ne_nil _ (List.ne_nil_of_mem hc)]
    exact h.getLast?

/-- An element whose target is no nested pattern around its opaque stretch binds no name. -/
theorem elementNames_eq_nil {n : Nat} {element : Text} (hr : Opaque r)
    (htarget : bindingTarget element = u ++ (r ++ v)) (hnone : nestedBody? (u ++ (r ++ v)) = none) :
    elementNames n element = [] :=
  elementNames_of_none (htarget ▸ hnone) (htarget ▸ hr.isIdentifier u v)

/-- One opaque stretch in the place of another makes no difference to the names of an element, when
it makes none to the patterns nested in it. -/
theorem elementNames_opaqueStretch {n : Nat} (hr : Opaque r) (hr' : Opaque r')
    (hnested : ∀ (u v : Text) {r r' : Text}, Opaque r → Opaque r' →
      patternNamesWithin n (u ++ (r ++ v)) = patternNamesWithin n (u ++ (r' ++ v))) (u v : Text) :
    elementNames n (u ++ (r ++ v)) = elementNames n (u ++ (r' ++ v)) := by
  rcases outcome_bindingTarget family_opaqueFamily (fits_opaqueFamily u v) with
    ⟨a, ha⟩ | ⟨u', v', -, htarget⟩
  · -- The stretch stands in front of the target or in the default, which are both left out.
    rw [elementNames, elementNames, ha () r hr, ha () r' hr']
  · obtain ⟨r₁, hr₁, heq⟩ := htarget () r hr
    obtain ⟨r₂, hr₂, heq'⟩ := htarget () r' hr'
    by_cases hedge : u' = [] ∨ v' = []
    · rw [elementNames_eq_nil hr₁ heq (hr₁.nestedBody?_eq_none hedge),
        elementNames_eq_nil hr₂ heq' (hr₂.nestedBody?_eq_none hedge)]
    · rw [not_or] at hedge
      rcases nestedBody?_around hedge.1 hedge.2 with ⟨u'', v'', hsome⟩ | hnone
      · rw [elementNames_of_some (heq ▸ hsome r₁), elementNames_of_some (heq' ▸ hsome r₂)]
        exact hnested u'' v'' hr₁ hr₂
      · rw [elementNames_eq_nil hr₁ heq (hnone r₁), elementNames_eq_nil hr₂ heq' (hnone r₂)]

/-- One opaque stretch in the place of another makes no difference to the names of a pattern. -/
theorem patternNamesWithin_opaqueStretch (n : Nat) (u v : Text) (hr : Opaque r) (hr' : Opaque r') :
    patternNamesWithin n (u ++ (r ++ v)) = patternNamesWithin n (u ++ (r' ++ v)) := by
  induction n generalizing u v r r' with
  | zero => rfl
  | succ n ih =>
    obtain ⟨front, p, s, back, -, hsplit⟩ :=
      exists_splitTopLevel (fits_opaqueFamily u v) (by decide : ',' ∈ separators)
    rw [patternNamesWithin_succ, patternNamesWithin_succ, hsplit () r hr, hsplit () r' hr',
      List.flatMap_append, List.flatMap_append, List.flatMap_cons, List.flatMap_cons,
      elementNames_opaqueStretch hr hr' (fun u v _ _ => ih u v) p s]

end

end DesignTokens.Declaration
