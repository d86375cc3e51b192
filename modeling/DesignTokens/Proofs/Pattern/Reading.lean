import DesignTokens.Pattern.Match

/-! # Reading patterns part by part

A pattern is read from one part to the next, and each part takes at least as many characters as
rounds, so that the rounds suffice. The parts of a pattern are followed here one after the other,
which gives the expression that a written pattern stands for.

## Main definitions

* `Pattern.Reaches` - reading goes from one place of a pattern to another

## Main results

* `Pattern.readExpr_of_reaches` - the expression of a pattern that was followed to its end
-/

namespace DesignTokens.Pattern

/-- Reading goes from a place of a pattern to another, in no more rounds than characters. -/
def Reaches (p : Progress) (t : Text) (p' : Progress) (t' : Text) : Prop :=
  ∃ k, k + t'.length ≤ t.length ∧ ∀ n, readFrom (n + k) p t = readFrom n p' t'

/-- The characters that stand for themselves wherever a part may start. -/
def isPlain (c : Char) : Bool :=
  !"()|[?*+\x7b\\.^$".toList.contains c

/-- A class takes a character. -/
theorem Expr.isWidthless_ofClass (members : CharClass) :
    (Expr.ofClass members).isWidthless = false := by
  rw [ofClass]
  split
  · split <;> rfl
  · rfl

namespace Reaches

variable {p p' p'' : Progress} {t t' t'' : Text}

theorem trans (h : Reaches p t p' t') (h' : Reaches p' t' p'' t'') : Reaches p t p'' t'' := by
  obtain ⟨k, hk, hread⟩ := h
  obtain ⟨k', hk', hread'⟩ := h'
  refine ⟨k' + k, by omega, fun n => ?_⟩
  rw [← Nat.add_assoc, hread, hread']

theorem of_step (hlength : t'.length < t.length)
    (h : ∀ n, readFrom (n + 1) p t = readFrom n p' t') : Reaches p t p' t' :=
  ⟨1, by omega, h⟩

/-- A character that stands for itself. -/
theorem plain {c : Char} (hflags : p.flags = {}) (hc : isPlain c = true) (t : Text) :
    Reaches p (c :: t) (p.push ⟨.literal [c], 0⟩) t := by
  refine of_step (Nat.lt_succ_self _) fun n => ?_
  have hliteral : p.literal c = .literal [c] := by simp [Progress.literal, hflags]
  rw [readFrom.eq_def]
  simp only [hflags, skip, Bool.false_eq_true, if_false]
  split <;> first | rw [hliteral] | simp_all [isPlain]

/-- Characters that stand for themselves. -/
theorem plains {cs : Text} (hflags : p.flags = {}) (hcs : cs.all isPlain = true) (t : Text) :
    Reaches p (cs ++ t) (cs.foldl (fun p c => p.push ⟨.literal [c], 0⟩) p) t := by
  induction cs generalizing p with
  | nil => exact ⟨0, by simp, fun _ => rfl⟩
  | cons c cs ih =>
    rw [List.all_cons, Bool.and_eq_true] at hcs
    exact (plain hflags hcs.1 _).trans (ih hflags hcs.2)

theorem escape {primitive : Primitive} (hflags : p.flags = {})
    (h : readEscape {} t = .ok (primitive, t')) (hlength : t'.length ≤ t.length) :
    Reaches p ('\\' :: t) (p.push ⟨p.primitive primitive, 0⟩) t' := by
  refine of_step (by simp; omega) fun n => ?_
  simp [readFrom, hflags, skip, h, bind, Except.bind]

theorem bracket {whole : ClassPart} (hflags : p.flags = {})
    (h : readClass {} ('[' :: t) = .ok (whole, t')) (hlength : t'.length ≤ t.length) :
    Reaches p ('[' :: t) (p.push ⟨.ofClass whole.members, whole.depth⟩) t' := by
  refine of_step (by simp; omega) fun n => ?_
  simp [readFrom, hflags, skip, h, bind, Except.bind]

theorem readLazyMark_of_head?_ne (ht : t.head? ≠ some '?') : readLazyMark t = (false, t) := by
  cases t with
  | nil => rfl
  | cons c t => rw [readLazyMark]; rintro rest ⟨⟩; exact ht rfl

theorem star (hflags : p.flags = {}) (h : p.repeatLast 0 none true = .ok p')
    (ht : t.head? ≠ some '?') : Reaches p ('*' :: t) p' t := by
  refine of_step (Nat.lt_succ_self _) fun n => ?_
  simp [readFrom, hflags, skip, readLazyMark_of_head?_ne ht, h, bind, Except.bind]

theorem plus (hflags : p.flags = {}) (h : p.repeatLast 1 none true = .ok p')
    (ht : t.head? ≠ some '?') : Reaches p ('+' :: t) p' t := by
  refine of_step (Nat.lt_succ_self _) fun n => ?_
  simp [readFrom, hflags, skip, readLazyMark_of_head?_ne ht, h, bind, Except.bind]

theorem counted {least : Nat} {most : Option Nat} (hflags : p.flags = {})
    (hrepeat : p.canRepeat = true) (hcounts : readCounts false t = .ok (least, most, t'))
    (h : p.repeatLast least most true = .ok p') (ht : t'.head? ≠ some '?')
    (hlength : t'.length ≤ t.length) : Reaches p ('\x7b' :: t) p' t' := by
  refine of_step (by simp; omega) fun n => ?_
  simp [readFrom, hflags, skip, hrepeat, hcounts, readLazyMark_of_head?_ne ht, h, bind, Except.bind]

theorem opening {mark : Opening} (hflags : p.flags = {}) (h : readOpening {} t = .ok (mark, t'))
    (hopened : p.opened mark = .ok p') (hlength : t'.length ≤ t.length) :
    Reaches p ('(' :: t) p' t' := by
  refine of_step (by simp; omega) fun n => ?_
  simp [readFrom, hflags, skip, h, hopened, bind, Except.bind]

theorem branch (hflags : p.flags = {}) (t : Text) :
    Reaches p ('|' :: t) { p with branches := p.branches.next } t := by
  refine of_step (Nat.lt_succ_self _) fun n => ?_
  simp [readFrom, hflags, skip]

theorem closing (hflags : p.flags = {}) (hclosed : p.closed = .ok p') (t : Text) :
    Reaches p (')' :: t) p' t := by
  refine of_step (Nat.lt_succ_self _) fun n => ?_
  simp [readFrom, hflags, skip, hclosed, bind, Except.bind]

/-- At least one character of a class that has a letter. -/
theorem someOf {letter : Char} {members : CharClass} (hflags : p.flags = {})
    (h : readEscape {} (letter :: '+' :: t) = .ok (.named members, '+' :: t))
    (ht : t.head? ≠ some '?') :
    Reaches p ('\\' :: letter :: '+' :: t)
      (p.push ⟨.rep 1 none true (.ofClass members), 1⟩) t := by
  refine (escape hflags h (Nat.le_succ _)).trans (plus hflags ?_ ht)
  have hrounds : (Expr.ofClass members).repeated 1 none true =
      .rep 1 none true (.ofClass members) := by
    simp [Expr.repeated, Expr.isWidthless_ofClass]
  simp only [Progress.repeatLast, Progress.push, Branches.push, Progress.primitive, hflags,
    Bool.bne_false, hrounds]

end Reaches

/-- The expression of a pattern that was followed to its end. -/
theorem readExpr_of_reaches {p : Progress} {t : Text} (h : Reaches {} t p [])
    (henclosing : p.enclosing = []) (hdepth : p.branches.close.depth ≤ maxDepth) :
    readExpr t = .ok (p.branches.close.expr, p.names) := by
  obtain ⟨k, hk, hread⟩ := h
  obtain ⟨n, hn⟩ : ∃ n, t.length + 1 = n + 1 + k := ⟨t.length - k, by simp at hk; omega⟩
  have hread : readFrom (t.length + 1) {} t = .ok p := by
    rw [hn, hread, readFrom_nil]
  simp [readExpr, hread, henclosing, Nat.not_lt.mpr hdepth, bind, Except.bind, pure, Except.pure]

end DesignTokens.Pattern
