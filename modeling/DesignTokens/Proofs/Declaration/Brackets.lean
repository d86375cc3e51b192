import DesignTokens.Import.Declaration

/-! # Brackets and separators

Going through a text changes the depth of brackets. Where a text is cut at separators outside all
brackets, or up to a closing bracket, a stretch of it that leaves the depth as it is and has no
separators outside of brackets of its own is passed over as a whole.

## Main definitions

* `Declaration.depthThrough` - the depth of brackets after a text
* `Declaration.Quiet` - no separator stands outside all brackets
* `Declaration.Held` - no bracket closes the last open one
* `Declaration.Level` - a text that is passed over as a whole at every depth

## Main results

* `Declaration.exists_splitTopLevelFrom_append` - a text is cut in front of a place whatever follows
* `Declaration.enclosedFrom?_cases` - brackets are closed in front of a place whatever follows
-/

namespace DesignTokens.Declaration

open Character Text

/-- The separators within patterns. -/
def separators : List Char :=
  [',', ':', '=']

/-- The depth of brackets after a text that starts at depth `depth`. -/
def depthThrough (depth : Nat) (t : Text) : Nat :=
  t.foldl depthAfter depth

/-- No separator of a text that starts at depth `depth` stands outside all brackets. -/
def Quiet (separator : Char) : Nat → Text → Prop
  | _, [] => True
  | depth, c :: t => ¬ (c = separator ∧ depth = 0) ∧ Quiet separator (depthAfter depth c) t

/-- No bracket of a text that starts at depth `depth` closes the last open one. -/
def Held : Nat → Text → Prop
  | _, [] => True
  | depth, c :: t => ¬ (isClosing c = true ∧ depth ≤ 1) ∧ Held (depthAfter depth c) t

/-- A text that leaves the depth of brackets as it is, with no separator outside of brackets of its
own. -/
structure Level (r : Text) : Prop where
  depth : ∀ depth, depthThrough depth r = depth
  quiet : ∀ separator ∈ separators, ∀ depth, Quiet separator depth r
  held : ∀ depth, 1 ≤ depth → Held depth r

section

variable {separator c : Char} {depth : Nat} {a b r t u : Text} {parts : List Text}

@[simp] theorem depthThrough_nil (depth : Nat) : depthThrough depth [] = depth := rfl

@[simp] theorem depthThrough_cons (depth : Nat) (c : Char) (t : Text) :
    depthThrough depth (c :: t) = depthThrough (depthAfter depth c) t := rfl

@[simp] theorem depthThrough_append (depth : Nat) (a b : Text) :
    depthThrough depth (a ++ b) = depthThrough (depthThrough depth a) b :=
  List.foldl_append

theorem depthAfter_of_plain (h : isOpening c = false) (h' : isClosing c = false) (depth : Nat) :
    depthAfter depth c = depth := by
  simp [depthAfter, h, h']

/-- Texts without brackets leave the depth as it is. -/
theorem depthThrough_of_plain (h : ∀ c ∈ t, isOpening c = false ∧ isClosing c = false)
    (depth : Nat) : depthThrough depth t = depth := by
  induction t generalizing depth with
  | nil => rfl
  | cons c t ih =>
    rw [List.forall_mem_cons] at h
    rw [depthThrough_cons, depthAfter_of_plain h.1.1 h.1.2, ih h.2]

theorem quiet_append : Quiet separator depth (a ++ b) ↔
    Quiet separator depth a ∧ Quiet separator (depthThrough depth a) b := by
  induction a generalizing depth with
  | nil => simp [Quiet]
  | cons c a ih => simp only [List.cons_append, Quiet, ih, depthThrough_cons, and_assoc]

theorem held_append : Held depth (a ++ b) ↔ Held depth a ∧ Held (depthThrough depth a) b := by
  induction a generalizing depth with
  | nil => simp [Held]
  | cons c a ih => simp only [List.cons_append, Held, ih, depthThrough_cons, and_assoc]

theorem quiet_of_not_mem (h : separator ∉ t) (depth : Nat) : Quiet separator depth t := by
  induction t generalizing depth with
  | nil => trivial
  | cons c t ih =>
    rw [List.mem_cons, not_or] at h
    exact ⟨fun heq => h.1 heq.1.symm, ih h.2 _⟩

/-- Within brackets separators do not matter. -/
theorem quiet_succ_of_plain (h : ∀ c ∈ t, isOpening c = false ∧ isClosing c = false)
    (depth : Nat) : Quiet separator (depth + 1) t := by
  induction t with
  | nil => trivial
  | cons c t ih =>
    rw [List.forall_mem_cons] at h
    exact ⟨fun heq => by omega, depthAfter_of_plain h.1.1 h.1.2 _ ▸ ih h.2⟩

theorem held_of_plain (h : ∀ c ∈ t, isOpening c = false ∧ isClosing c = false) (depth : Nat) :
    Held depth t := by
  induction t generalizing depth with
  | nil => trivial
  | cons c t ih =>
    rw [List.forall_mem_cons] at h
    exact ⟨fun heq => by simp [h.1.2] at heq, ih h.2 _⟩

theorem Level.append (ha : Level a) (hb : Level b) : Level (a ++ b) where
  depth d := by rw [depthThrough_append, ha.depth, hb.depth]
  quiet sep hsep d := quiet_append.mpr ⟨ha.quiet sep hsep d, hb.quiet sep hsep _⟩
  held d hd := held_append.mpr ⟨ha.held d hd, by rw [ha.depth]; exact hb.held d hd⟩

theorem level_of_plain (h : ∀ c ∈ t, isOpening c = false ∧ isClosing c = false)
    (hsep : ∀ separator ∈ separators, separator ∉ t) : Level t where
  depth := depthThrough_of_plain h
  quiet sep hmem := quiet_of_not_mem (hsep sep hmem)
  held d _ := held_of_plain h d

/-- A list in braces without further brackets is passed over as a whole. -/
theorem level_braces (h : ∀ c ∈ t, isOpening c = false ∧ isClosing c = false) :
    Level ('{' :: (t ++ ['}'])) := by
  have hopen : ∀ d, depthAfter d '{' = d + 1 := fun d => rfl
  have hclose : ∀ d, depthAfter d '}' = d - 1 := fun d => rfl
  have hbrace : ∀ sep ∈ separators, sep ≠ '{' ∧ sep ≠ '}' := by simp [separators]
  refine ⟨fun d => ?_, fun sep hsep d => ?_, fun d hd => ?_⟩
  · rw [depthThrough_cons, hopen, depthThrough_append, depthThrough_of_plain h, depthThrough_cons,
      hclose, depthThrough_nil, Nat.add_sub_cancel]
  · refine ⟨fun heq => (hbrace sep hsep).1 heq.1.symm, quiet_append.mpr
      ⟨hopen d ▸ quiet_succ_of_plain h d, fun heq => (hbrace sep hsep).2 heq.1.symm, trivial⟩⟩
  · refine ⟨fun heq => by simp [isClosing] at heq, held_append.mpr ⟨held_of_plain h _, ?_, trivial⟩⟩
    rw [hopen, depthThrough_of_plain h]
    omega

/-! ### Cutting at separators -/

theorem foldr_consFirst_cons (u part : Text) (parts : List Text) :
    u.foldr consFirst (part :: parts) = (u ++ part) :: parts := by
  induction u with
  | nil => rfl
  | cons c u ih => rw [List.foldr_cons, ih, consFirst, List.cons_append]

theorem splitTopLevelFrom_ne_nil (separator : Char) (depth : Nat) (t : Text) :
    ∃ part parts, splitTopLevelFrom separator depth t = part :: parts := by
  cases t with
  | nil => exact ⟨[], [], rfl⟩
  | cons c t =>
    rw [splitTopLevelFrom]
    split
    · exact ⟨_, _, rfl⟩
    · cases splitTopLevelFrom separator (depthAfter depth c) t with
      | nil => exact ⟨_, _, rfl⟩
      | cons part parts => exact ⟨_, _, rfl⟩

/-- Nothing is cut off behind the end of a text. -/
theorem foldr_consFirst_splitTopLevelFrom_nil (separator : Char) (depth : Nat) (u : Text) :
    u.foldr consFirst (splitTopLevelFrom separator depth []) = [u] := by
  rw [splitTopLevelFrom, foldr_consFirst_cons, List.append_nil]

theorem length_le_of_mem_splitTopLevelFrom {part : Text}
    (h : part ∈ splitTopLevelFrom separator depth t) : part.length ≤ t.length := by
  induction t generalizing depth part with
  | nil =>
    rw [splitTopLevelFrom, List.mem_singleton] at h
    simp [h]
  | cons c t ih =>
    rw [splitTopLevelFrom] at h
    split at h
    · rcases List.mem_cons.mp h with rfl | h
      · exact Nat.zero_le _
      · exact Nat.le_trans (ih h) (Nat.le_succ _)
    · obtain ⟨first, parts, heq⟩ := splitTopLevelFrom_ne_nil separator (depthAfter depth c) t
      rw [heq, consFirst] at h
      rcases List.mem_cons.mp h with rfl | h
      · have := ih (heq ▸ List.mem_cons_self)
        simpa using this
      · exact Nat.le_trans (ih (heq ▸ List.mem_cons_of_mem first h)) (Nat.le_succ _)

/-- A stretch without separators outside brackets is part of one piece. -/
theorem splitTopLevelFrom_append_of_quiet (h : Quiet separator depth r) (t : Text) :
    splitTopLevelFrom separator depth (r ++ t) =
      r.foldr consFirst (splitTopLevelFrom separator (depthThrough depth r) t) := by
  induction r generalizing depth with
  | nil => rfl
  | cons c r ih =>
    obtain ⟨hc, hr⟩ := h
    rw [List.cons_append, splitTopLevelFrom, if_neg (by simpa using fun _ _ h => not_and.mp hc h),
      ih hr]
    rfl

/-- A text is cut in front of a place whatever follows: into whole pieces and the start of another,
at whose end the depth is that after the text. -/
theorem exists_splitTopLevelFrom_append (separator : Char) (depth : Nat) (u : Text) :
    ∃ front part, (∀ t, splitTopLevelFrom separator depth (u ++ t) =
        front ++ part.foldr consFirst (splitTopLevelFrom separator (depthThrough depth u) t)) ∧
      (front = [] ∧ part = u ∨
        u ≠ [] ∧ front ≠ [] ∧ depthThrough 0 part = depthThrough depth u) := by
  induction u generalizing depth with
  | nil => exact ⟨[], [], fun t => rfl, .inl ⟨rfl, rfl⟩⟩
  | cons c u ih =>
    -- The text is cut at the character, or the character goes in front of the first part of the
    -- rest.
    by_cases hcut : (!isOpening c && !isClosing c && c = separator && depth = 0) = true
    · simp only [Bool.and_eq_true, Bool.not_eq_true', decide_eq_true_eq] at hcut
      obtain ⟨⟨⟨hopen, hclose⟩, rfl⟩, rfl⟩ := hcut
      obtain ⟨front, part, hsplit, hpart⟩ := ih 0
      have hdepth : depthThrough 0 part = depthThrough 0 u := by
        rcases hpart with ⟨-, rfl⟩ | ⟨-, -, hdepth⟩
        · rfl
        · exact hdepth
      refine ⟨[] :: front, part, fun t => ?_, .inr ⟨by simp, by simp, ?_⟩⟩
      · rw [List.cons_append, splitTopLevelFrom, if_pos (by simp [hopen, hclose]), hsplit,
          depthThrough_cons, depthAfter_of_plain hopen hclose, List.cons_append]
      · rw [depthThrough_cons, depthAfter_of_plain hopen hclose, hdepth]
    · obtain ⟨front, part, hsplit, hpart⟩ := ih (depthAfter depth c)
      cases front with
      | nil =>
        refine ⟨[], c :: part, fun t => ?_, ?_⟩
        · rw [List.cons_append, splitTopLevelFrom, if_neg hcut, hsplit]
          rfl
        · rcases hpart with ⟨-, rfl⟩ | ⟨-, hfront, -⟩
          · exact .inl ⟨rfl, rfl⟩
          · exact absurd rfl hfront
      | cons first front =>
        refine ⟨(c :: first) :: front, part, fun t => ?_, .inr ⟨by simp, by simp, ?_⟩⟩
        · rw [List.cons_append, splitTopLevelFrom, if_neg hcut, hsplit]
          rfl
        · rcases hpart with ⟨hnil, -⟩ | ⟨-, -, hdepth⟩
          · cases hnil
          · exact hdepth

/-! ### Closing brackets -/

/-- A stretch that does not close the last open bracket is enclosed as a whole. -/
theorem enclosedFrom?_append_of_held (h : Held depth r) (t : Text) :
    enclosedFrom? depth (r ++ t) =
      (enclosedFrom? (depthThrough depth r) t).map (r ++ ·) := by
  induction r generalizing depth with
  | nil => simp
  | cons c r ih =>
    obtain ⟨hc, hr⟩ := h
    rw [List.cons_append, enclosedFrom?, if_neg (by simpa using hc), ih hr, Option.map_map]
    rfl

/-- Brackets are closed in front of a place whatever follows, or they are still open there. -/
theorem enclosedFrom?_cases (depth : Nat) (u : Text) :
    (∃ inner, ∀ t, enclosedFrom? depth (u ++ t) = some inner) ∨ Held depth u := by
  induction u generalizing depth with
  | nil => exact .inr trivial
  | cons c u ih =>
    by_cases hclose : isClosing c = true ∧ depth ≤ 1
    · refine .inl ⟨[], fun t => ?_⟩
      rw [List.cons_append, enclosedFrom?, if_pos (by simpa using hclose)]
    · rcases ih (depthAfter depth c) with ⟨inner, hinner⟩ | hheld
      · refine .inl ⟨c :: inner, fun t => ?_⟩
        rw [List.cons_append, enclosedFrom?, if_neg (by simpa using hclose), hinner]
        rfl
      · exact .inr ⟨hclose, hheld⟩

/-- Within open brackets the depth does not fall to zero. -/
theorem one_le_depthThrough (hdepth : 1 ≤ depth) (h : Held depth u) :
    1 ≤ depthThrough depth u := by
  induction u generalizing depth with
  | nil => exact hdepth
  | cons c u ih =>
    obtain ⟨hc, hu⟩ := h
    refine ih ?_ hu
    rw [depthAfter]
    split
    · omega
    · split
      · rename_i hclose
        have : ¬ depth ≤ 1 := fun hle => hc ⟨hclose, hle⟩
        omega
      · exact hdepth

end

end DesignTokens.Declaration
