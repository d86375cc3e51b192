import DesignTokens.Pattern.Quote
import DesignTokens.Proofs.Pattern.Reading
import DesignTokens.Proofs.Pattern.Size

/-! # Patterns of texts are read back

The pattern of a text stands for the text itself as a literal, with the boundaries that were asked
for, and several of them with bars between them stand for the choice between the texts. Such a
pattern therefore has no fault but one, its size.

## Main definitions

* `Pattern.ReadsAs` - a piece of a pattern that is read as some parts
* `Pattern.quotedExpr` - the expression of a text between boundaries

## Main results

* `Pattern.readExpr_quoteBetween`, `Pattern.readExpr_intercalate_quoteBetween` - what the patterns
  of texts stand for
* `Pattern.isOk_read_quoteBetween_iff` - the longest texts between boundaries that have a pattern
-/

namespace DesignTokens.Pattern

/-! ### Pieces of patterns -/

/-- Progress with further parts of the current branch. -/
def Progress.pushAll (p : Progress) (parts : List Expr) : Progress :=
  parts.foldl (fun p part => p.push ⟨part, 0⟩) p

@[simp] theorem Progress.flags_pushAll (p : Progress) (parts : List Expr) :
    (p.pushAll parts).flags = p.flags := by
  induction parts generalizing p with
  | nil => rfl
  | cons part parts ih => exact ih _

@[simp] theorem Progress.pushAll_append (p : Progress) (parts more : List Expr) :
    p.pushAll (parts ++ more) = (p.pushAll parts).pushAll more :=
  List.foldl_append

theorem Progress.pushAll_eq (p : Progress) (parts : List Expr) :
    p.pushAll parts = { p with branches := { p.branches with
      parts := parts.reverse.map (fun part => some ⟨part, 0⟩) ++ p.branches.parts } } := by
  induction parts generalizing p with
  | nil => rfl
  | cons part parts ih =>
    rw [pushAll, List.foldl_cons, ← pushAll, ih]
    simp [push, Branches.push]

/-- A piece of a pattern is read as some parts wherever it stands, unless what follows is taken for
a count or the name of a boundary. -/
def ReadsAs (t : Text) (parts : List Expr) : Prop :=
  ∀ (p : Progress) (rest : Text), p.flags = {} → rest.head? ≠ some '\x7b' →
    Reaches p (t ++ rest) (p.pushAll parts) rest

/-- What is no character of its own meaning stands for itself wherever a part may start. -/
theorem isPlain_of_not_isMeta {c : Char} (h : isMeta c = false) : isPlain c = true := by
  have hsubset : "()|[?*+\x7b\\.^$".toList ⊆ "\\.+*?()|[]\x7b\x7d^$#&-~".toList := by decide
  rw [isMeta, List.contains_eq_mem, decide_eq_false_iff_not] at h
  rw [isPlain, Bool.not_eq_true', List.contains_eq_mem, decide_eq_false_iff_not]
  exact fun hmem => h (hsubset hmem)

theorem readEscape_of_isMeta {c : Char} (h : isMeta c = true) (t : Text) :
    readEscape {} (c :: t) = .ok (.literal c, t) := by
  rw [isMeta, List.contains_iff_mem] at h
  simp only [String.reduceToList, List.mem_cons, List.not_mem_nil, or_false] at h
  rcases h with rfl | rfl | rfl | rfl | rfl | rfl | rfl | rfl | rfl | rfl | rfl | rfl | rfl | rfl |
    rfl | rfl | rfl | rfl <;> rfl

theorem readEscape_boundary_of_head?_ne {t : Text} (h : t.head? ≠ some '\x7b') :
    readEscape {} ('b' :: t) = .ok (.look (.wordBoundary false), t) := by
  cases t with
  | nil => rfl
  | cons c t =>
    change readBoundary {} (c :: t) = _
    rw [readBoundary.eq_def]
    split
    · rename_i heq
      rw [heq] at h
      exact absurd rfl h
    · rfl

namespace ReadsAs

variable {t t' : Text} {parts parts' : List Expr}

theorem nil : ReadsAs [] [] :=
  fun _ _ _ _ => ⟨0, by simp, fun _ => rfl⟩

theorem append (h : ReadsAs t parts) (h' : ReadsAs t' parts') (ht' : t'.head? ≠ some '\x7b') :
    ReadsAs (t ++ t') (parts ++ parts') := by
  intro p rest hflags hrest
  have hnext : (t' ++ rest).head? ≠ some '\x7b' := by
    rw [List.head?_append]
    cases hhead : t'.head? with
    | none => exact hrest
    | some c =>
      rw [hhead] at ht'
      exact ht'
  rw [List.append_assoc, Progress.pushAll_append]
  exact (h p _ hflags hnext).trans (h' _ rest (by rw [Progress.flags_pushAll, hflags]) hrest)

theorem quoteChar (c : Char) :
    ReadsAs (if isMeta c then ['\\', c] else [c]) [.literal [c]] := by
  intro p rest hflags _
  cases hmeta : isMeta c with
  | true =>
    have hliteral : p.primitive (.literal c) = .literal [c] := by
      simp [Progress.primitive, Progress.literal, hflags]
    have hread := Reaches.escape hflags (readEscape_of_isMeta hmeta rest) (Nat.le_succ _)
    rwa [hliteral] at hread
  | false => exact Reaches.plain hflags (isPlain_of_not_isMeta hmeta) rest

end ReadsAs

theorem head?_quote_ne (t : Text) : (quote t).head? ≠ some '\x7b' := by
  cases t with
  | nil => simp [quote]
  | cons c t =>
    rw [quote, List.flatMap_cons, List.head?_append]
    cases hmeta : isMeta c with
    | true => simp
    | false =>
      rintro ⟨⟩
      cases hmeta

/-- The pattern of a text is read as the characters of the text. -/
theorem readsAs_quote (t : Text) : ReadsAs (quote t) (t.map fun c => .literal [c]) := by
  induction t with
  | nil => exact .nil
  | cons c t ih => exact (ReadsAs.quoteChar c).append ih (head?_quote_ne t)

/-- The part that a boundary is read as, if one is wanted. -/
def boundaryParts (wanted : Bool) : List Expr :=
  if wanted then [.look (.wordBoundary false)] else []

theorem readsAs_quoteBoundary (wanted : Bool) :
    ReadsAs (quoteBoundary wanted) (boundaryParts wanted) := by
  cases wanted with
  | false => exact .nil
  | true =>
    intro p rest hflags hrest
    exact Reaches.escape hflags (readEscape_boundary_of_head?_ne hrest) (Nat.le_succ _)

/-- The parts that a text between boundaries is read as. -/
def quotedParts (lead trail : Bool) (t : Text) : List Expr :=
  boundaryParts lead ++ (t.map fun c => .literal [c]) ++ boundaryParts trail

theorem head?_quoteBoundary_ne (wanted : Bool) : (quoteBoundary wanted).head? ≠ some '\x7b' := by
  cases wanted <;> simp [quoteBoundary]

theorem readsAs_quoteBetween (lead trail : Bool) (t : Text) :
    ReadsAs (quoteBetween lead trail t) (quotedParts lead trail t) :=
  ((readsAs_quoteBoundary lead).append (readsAs_quote t) (head?_quote_ne t)).append
    (readsAs_quoteBoundary trail) (head?_quoteBoundary_ne trail)

/-! ### Whole patterns -/

/-- The expression of parts in a row. -/
def branchOf (parts : List Expr) : Nested :=
  .ofParts Expr.concat (parts.map (⟨·, 0⟩))

theorem Progress.current_pushAll (p : Progress) (parts : List Expr) (h : p.branches.parts = []) :
    (p.pushAll parts).branches.current = branchOf parts := by
  rw [pushAll_eq, Branches.current, branchOf, h]
  simp [Function.comp_def]

/-- Pieces with bars between them are read as one branch after the other. -/
theorem exists_reaches_intercalate {texts : List Text} {branches : List (List Expr)}
    (h : List.Forall₂ ReadsAs texts branches) (hne : texts ≠ []) {p : Progress}
    (hflags : p.flags = {}) (hparts : p.branches.parts = []) :
    ∃ p', Reaches p (['|'].intercalate texts) p' [] ∧ p'.enclosing = p.enclosing ∧
      p'.names = p.names ∧
      p'.branches.close =
        .ofParts Expr.choice (p.branches.done.reverse ++ branches.map branchOf) := by
  -- What was read before is in the branches that are done, and the current one is always empty.
  induction h generalizing p with
  | nil => exact absurd rfl hne
  | @cons t parts texts branches ht htexts ih =>
    cases htexts with
    | nil =>
      have hread := ht p [] hflags (by simp)
      refine ⟨_, by simpa using hread, ?_, ?_, ?_⟩
      · rw [Progress.pushAll_eq]
      · rw [Progress.pushAll_eq]
      · rw [Branches.close, Progress.current_pushAll p parts hparts, Progress.pushAll_eq]
        simp
    | @cons t' parts' texts branches ht' htexts =>
      have hnext : ((p.pushAll parts).branches.next).done = branchOf parts :: p.branches.done := by
        rw [Branches.next, Progress.current_pushAll p parts hparts, Progress.pushAll_eq]
      obtain ⟨p', hreach, henclosing, hnames, hclose⟩ :=
        @ih (by simp) { p.pushAll parts with branches := (p.pushAll parts).branches.next }
          (by simpa using hflags) rfl
      refine ⟨p', ?_, ?_, ?_, ?_⟩
      · have hread := ht p ('|' :: ['|'].intercalate (t' :: texts)) hflags (by simp)
        rw [List.intercalate_cons_cons, List.append_assoc]
        exact (hread.trans (Reaches.branch (by simpa using hflags) _)).trans hreach
      · rw [henclosing, Progress.pushAll_eq]
      · rw [hnames, Progress.pushAll_eq]
      · rw [hclose, hnext]
        simp

/-- The parts of a sequence that a text makes: a literal, if it is not empty. -/
def literalParts : Text → List Expr
  | [] => []
  | t => [.literal t]

/-- The expression of a text between boundaries. -/
def quotedExpr (lead trail : Bool) (t : Text) : Expr :=
  .ofFactors (boundaryParts lead ++ literalParts t ++ boundaryParts trail)

/-- Characters in a row are one literal. -/
theorem joinLiterals_map_append (t : Text) (trail : Bool) :
    Expr.joinLiterals ((t.map fun c => .literal [c]) ++ boundaryParts trail) =
      literalParts t ++ boundaryParts trail := by
  induction t with
  | nil => cases trail <;> rfl
  | cons c t ih =>
    simp only [List.map_cons, List.cons_append, Expr.joinLiterals, ih]
    cases t <;> cases trail <;> rfl

theorem factors_of_mem_quotedParts {lead trail : Bool} {t : Text} {e : Expr}
    (h : e ∈ quotedParts lead trail t) : e.factors = [e] := by
  have hboundary : ∀ wanted, ∀ e ∈ boundaryParts wanted, e.factors = [e] := by
    intro wanted e he
    cases wanted with
    | false => cases he
    | true =>
      rw [List.mem_singleton.mp he]
      rfl
  rw [quotedParts, List.mem_append, List.mem_append, List.mem_map] at h
  rcases h with (h | ⟨c, -, rfl⟩) | h
  · exact hboundary lead e h
  · rfl
  · exact hboundary trail e h

theorem concat_quotedParts (lead trail : Bool) (t : Text) :
    Expr.concat (quotedParts lead trail t) = quotedExpr lead trail t := by
  have hfactors : (quotedParts lead trail t).flatMap Expr.factors = quotedParts lead trail t := by
    rw [List.flatMap_congr fun e he => factors_of_mem_quotedParts he, List.flatMap_singleton']
  have hlead : ∀ parts, Expr.joinLiterals (boundaryParts lead ++ parts) =
      boundaryParts lead ++ Expr.joinLiterals parts := by
    intro parts
    cases lead <;> rfl
  rw [Expr.concat, hfactors, quotedParts, quotedExpr, List.append_assoc, hlead,
    joinLiterals_map_append, List.append_assoc]

/-- The expression of a text between boundaries is no choice. -/
theorem branches_quotedExpr (lead trail : Bool) (t : Text) :
    (quotedExpr lead trail t).branches = [quotedExpr lead trail t] := by
  cases lead <;> cases trail <;> cases t <;> rfl

theorem choice_singleton {e : Expr} (h : e.branches = [e]) : Expr.choice [e] = e := by
  rw [Expr.choice, List.flatMap_singleton, h]

theorem Nested.depth_ofParts_le {combine : List Expr → Expr} {parts : List Nested} {n : Nat}
    (h : ∀ part ∈ parts, part.depth ≤ n) : (Nested.ofParts combine parts).depth ≤ n + 1 := by
  have hfold : ∀ d ≤ n + 1, parts.foldl (fun d part => max d (part.depth + 1)) d ≤ n + 1 := by
    induction parts with
    | nil => exact fun d hd => hd
    | cons part parts ih =>
      rw [List.forall_mem_cons] at h
      exact fun d hd => ih h.2 _ (max_le hd (Nat.succ_le_succ h.1))
  rw [ofParts.eq_def]
  split
  · exact Nat.le_succ_of_le (h _ (List.mem_singleton_self _))
  · exact hfold 0 (Nat.zero_le _)

/-- A single part is no level of its own, whichever way parts are combined. -/
theorem Nested.expr_ofParts {combine : List Expr → Expr} {parts : List Nested}
    (h : ∀ part ∈ parts, combine [part.expr] = part.expr) :
    (Nested.ofParts combine parts).expr = combine (parts.map (·.expr)) := by
  rw [ofParts.eq_def]
  split
  · exact (h _ (List.mem_singleton_self _)).symm
  · rfl

theorem expr_branchOf_quotedParts (lead trail : Bool) (t : Text) :
    (branchOf (quotedParts lead trail t)).expr = quotedExpr lead trail t := by
  rw [branchOf, Nested.expr_ofParts, List.map_map, ← concat_quotedParts]
  · exact congrArg Expr.concat (List.map_id _)
  · intro part hpart
    obtain ⟨e, he, rfl⟩ := List.mem_map.mp hpart
    have hfactors := factors_of_mem_quotedParts he
    rw [Expr.concat, List.flatMap_singleton, hfactors]
    cases e <;> rfl

/-- The patterns of texts between boundaries, with bars between them, stand for the choice between
the texts. -/
theorem readExpr_intercalate_quoteBetween (lead trail : Text → Bool) {texts : List Text}
    (hne : texts ≠ []) :
    readExpr (['|'].intercalate (texts.map fun t => quoteBetween (lead t) (trail t) t)) =
      .ok (.choice (texts.map fun t => quotedExpr (lead t) (trail t) t), []) := by
  have hreads : List.Forall₂ ReadsAs (texts.map fun t => quoteBetween (lead t) (trail t) t)
      (texts.map fun t => quotedParts (lead t) (trail t) t) := by
    rw [List.forall₂_map_left_iff, List.forall₂_map_right_iff, List.forall₂_same]
    exact fun t _ => readsAs_quoteBetween (lead t) (trail t) t
  obtain ⟨p, hreach, henclosing, hnames, hclose⟩ :=
    exists_reaches_intercalate (p := {}) hreads (by simpa using hne) rfl rfl
  have hclose : p.branches.close = .ofParts Expr.choice
      (texts.map fun t => branchOf (quotedParts (lead t) (trail t) t)) := by
    rw [hclose, List.map_map]
    rfl
  have hdepth : p.branches.close.depth ≤ 2 := by
    rw [hclose]
    refine Nested.depth_ofParts_le fun part hpart => ?_
    obtain ⟨t, -, rfl⟩ := List.mem_map.mp hpart
    refine Nested.depth_ofParts_le fun part hpart => ?_
    obtain ⟨e, -, rfl⟩ := List.mem_map.mp hpart
    exact Nat.le_refl 0
  rw [readExpr_of_reaches hreach henclosing (Nat.le_trans hdepth (by decide)), hclose, hnames,
    Nested.expr_ofParts]
  · simp only [List.map_map, Function.comp_def, expr_branchOf_quotedParts]
  · intro part hpart
    obtain ⟨t, -, rfl⟩ := List.mem_map.mp hpart
    rw [expr_branchOf_quotedParts]
    exact choice_singleton (branches_quotedExpr (lead t) (trail t) t)

/-- The pattern of a text between boundaries stands for the text. -/
theorem readExpr_quoteBetween (lead trail : Bool) (t : Text) :
    readExpr (quoteBetween lead trail t) = .ok (quotedExpr lead trail t, []) := by
  have hread := readExpr_intercalate_quoteBetween (fun _ => lead) (fun _ => trail)
    (List.cons_ne_nil t [])
  rwa [List.map_singleton, List.map_singleton, List.intercalate_singleton,
    choice_singleton (branches_quotedExpr lead trail t)] at hread

/-! ### Choices between words -/

/-- A literal with a boundary behind it. -/
def endedExpr (t : Text) : Expr :=
  .seq (.literal t) (.look (.wordBoundary false))

/-- The expression of a word: a literal between two boundaries. -/
def wordExpr (t : Text) : Expr :=
  .seq (.look (.wordBoundary false)) (endedExpr t)

theorem quotedExpr_true_true {t : Text} (ht : t ≠ []) : quotedExpr true true t = wordExpr t := by
  cases t with
  | nil => exact absurd rfl ht
  | cons c t => rfl

/-- Two words that differ begin with the boundary alike, and so do they with further ones. -/
theorem sharedStart_words {t t' : Text} (hne : t ≠ t') (texts : List Text) :
    Expr.sharedStart ((t :: t' :: texts).map wordExpr) = [.look (.wordBoundary false)] := by
  have hfactors : ∀ t, (wordExpr t).factors =
      [.look (.wordBoundary false), .literal t, .look (.wordBoundary false)] := fun t => rfl
  have hrest : (texts.map (Expr.factors ∘ wordExpr)).foldl Expr.commonStart
      [.look (.wordBoundary false)] = [.look (.wordBoundary false)] := by
    induction texts with
    | nil => rfl
    | cons t texts ih => simpa [hfactors, Expr.commonStart] using ih
  have hall : (((t :: t' :: texts).map wordExpr).map Expr.factors).all (1 < ·.length) = true := by
    simp [hfactors]
  rw [List.map_map] at hall
  rw [Expr.sharedStart, List.map_map]
  simp only [List.map_cons, Function.comp_apply] at hall ⊢
  rw [if_pos hall, List.foldl_cons, hfactors, hfactors]
  simpa [Expr.commonStart, hne] using hrest

/-- The choice between words looks for the boundary in front of them once. -/
theorem choice_words {t t' : Text} (hne : t ≠ t') (texts : List Text) :
    Expr.choice ((t :: t' :: texts).map wordExpr) =
      .seq (.look (.wordBoundary false)) (.ofBranches ((t :: t' :: texts).map endedExpr)) := by
  have hbranches : ∀ {f : Text → Expr}, (∀ t, (f t).branches = [f t]) →
      ∀ texts : List Text, (texts.map f).flatMap Expr.branches = texts.map f := by
    intro f hf texts
    rw [List.flatMap_map, List.flatMap_congr fun t _ => hf t, ← List.map_eq_flatMap]
  have hrests : ((t :: t' :: texts).map wordExpr).map (fun part =>
      Expr.concat (part.factors.drop 1)) = (t :: t' :: texts).map endedExpr := by
    rw [List.map_map]
    rfl
  have hchoose : Expr.choose ((t :: t' :: texts).map endedExpr) =
      .ofBranches ((t :: t' :: texts).map endedExpr) := by
    rw [Expr.choose, hbranches fun t => rfl]
    rfl
  have hstart := sharedStart_words hne texts
  rw [Expr.choice, hbranches fun t => rfl]
  simp only [List.map_cons] at hstart hrests hchoose ⊢
  rw [hstart]
  simp only
  rw [List.length_singleton, hrests, hchoose]
  rfl

/-- A choice between words takes a state for each byte and little more for each word. -/
theorem takes_choice_words {texts : List Text} (hne : texts ≠ []) (hdistinct : texts.Nodup) :
    (Expr.choice (texts.map wordExpr)).Takes
      (32 * (texts.map Text.byteSize).sum + 36 * texts.length + 96) := by
  have hended : ∀ texts : List Text, List.Forall₂ Expr.Takes (texts.map endedExpr)
      (texts.map fun t => 32 * Text.byteSize t + 32) := by
    intro texts
    rw [List.forall₂_map_left_iff, List.forall₂_map_right_iff, List.forall₂_same]
    exact fun t _ => (Expr.takes_literal t).seq (Expr.takes_look _)
  have hsum : ∀ texts : List Text, (texts.map fun t => 32 * Text.byteSize t + 32).sum =
      32 * (texts.map Text.byteSize).sum + 32 * texts.length := by
    intro texts
    induction texts with
    | nil => rfl
    | cons t texts ih =>
      rw [List.map_cons, List.sum_cons, ih, List.map_cons, List.sum_cons, List.length_cons]
      omega
  -- One word is no choice, and from two on the boundary in front is taken out.
  match texts with
  | [] => exact absurd rfl hne
  | [t] =>
    rw [List.map_singleton, choice_singleton rfl]
    refine ((Expr.takes_look _).seq ((Expr.takes_literal t).seq (Expr.takes_look _))).mono ?_
    simp
    omega
  | t :: t' :: texts =>
    have hdiffer : t ≠ t' := by
      rintro rfl
      exact (List.nodup_cons.mp hdistinct).1 List.mem_cons_self
    have hchoice := Expr.takes_ofBranches (List.forall_mem_map.mpr fun t _ => rfl)
      (List.forall_mem_map.mpr fun t _ => rfl) (hended (t :: t' :: texts))
    rw [choice_words hdiffer]
    refine ((Expr.takes_look _).seq hchoice).mono ?_
    rw [hsum, List.length_map]
    omega

/-! ### Sizes -/

/-- Where the expression of a pattern is known, the pattern is refused for its size only. -/
theorem isOk_read_eq_fits {source : String} {e : Expr} {names : List (String × Nat)}
    (h : readExpr source.toList = .ok (e, names)) : (read source).isOk = e.fits := by
  rw [read, h]
  simp only [bind, Except.bind]
  cases e.fits <;> rfl

/-- A text between two boundaries takes a state for each byte, two for the boundaries, and those
around it. -/
theorem fits_wordExpr_iff {t : Text} : (wordExpr t).fits = true ↔ Text.byteSize t ≤ 327671 := by
  constructor
  · intro hfits
    have hdictionary : (wordExpr t).isDictionary = false := rfl
    have hstart : (wordExpr t).isAtStart = false := by
      simp [wordExpr, endedExpr, Expr.isAtStart, Expr.isWidthless]
    rw [Expr.fits, hdictionary, Bool.false_or, Bool.and_eq_true] at hfits
    obtain ⟨l, hl⟩ := Option.isSome_iff_exists.mp hfits.1
    rw [Expr.lay, hstart] at hl
    -- Each part spends states, one part after the other, and none are given back.
    have hspends := (((LayoutStep.Spends.states 3 16).andThen (.states 1 0)).andThen
      ((LayoutStep.Spends.states 1 0).andThen
        ((LayoutStep.Spends.states (Text.byteSize t) 0).andThen (.states 1 0)))).andThen
      (.states 2 0)
    have hroom := hspends Layout.start l hl
    simp only [Layout.start, Layout.limit] at hroom
    omega
  · intro hsize
    refine Expr.fits_of_takes
      ((Expr.takes_look _).seq ((Expr.takes_literal _).seq (Expr.takes_look _))) ?_
    have hlimit : Layout.limit = 10485760 := rfl
    omega

/-- The longest texts between boundaries that have a pattern. -/
theorem isOk_read_quoteBetween_iff {t : Text} (ht : t ≠ []) :
    (read (String.ofList (quoteBetween true true t))).isOk = true ↔ Text.byteSize t ≤ 327671 := by
  have hread : readExpr (String.ofList (quoteBetween true true t)).toList =
      .ok (wordExpr t, []) := by
    rw [String.toList_ofList, readExpr_quoteBetween, quotedExpr_true_true ht]
  rw [isOk_read_eq_fits hread, fits_wordExpr_iff]

end DesignTokens.Pattern
