import DesignTokens.Proofs.Text.Parts
import DesignTokens.Text.Line

/-! # Lines of a text

A text is cut into lines after each line feed. Cutting a text at its first line feed gives its first
line and the lines of the text below it.

## Main definitions

* `Text.below` - the text below the first line

## Main results

* `Text.line_cases` - a text is one line, or a line with a text below it
* `Text.rawLines_line` - the lines of a text are its first line and those below it
-/

namespace DesignTokens.Text

variable {line rest t : Text}

/-- No character of a text without line feeds is one. -/
theorem forall_ne_newline (h : '\n' ∉ t) : ∀ c ∈ t, decide (c ≠ '\n') = true := by
  intro c hc
  have hne : c ≠ '\n' := fun heq => h (heq ▸ hc)
  simpa using hne

/-- A text has no line feed, or a first one. -/
theorem line_cases (t : Text) :
    '\n' ∉ t ∨ ∃ line rest, t = line ++ '\n' :: rest ∧ '\n' ∉ line := by
  by_cases h : '\n' ∈ t
  · obtain ⟨line, rest, heq, hline⟩ := List.eq_append_cons_of_mem h
    exact .inr ⟨line, rest, heq, hline⟩
  · exact .inl h

/-- The text below the first line. -/
def below (t : Text) : Text :=
  (t.dropWhile (· ≠ '\n')).drop 1

theorem below_line (h : '\n' ∉ line) (rest : Text) : below (line ++ '\n' :: rest) = rest := by
  rw [below, dropWhile_append_stop]
  · rfl
  · exact forall_ne_newline h
  · simp

theorem below_of_not_mem (h : '\n' ∉ t) : below t = [] := by
  have hall := dropWhile_append_stop (forall_ne_newline h) (b := []) (by simp)
  rw [List.append_nil] at hall
  rw [below, hall]
  rfl

@[simp] theorem rawLines_nil : rawLines [] = [] := rfl

theorem rawLines_line (h : '\n' ∉ line) (rest : Text) :
    rawLines (line ++ '\n' :: rest) = (line ++ ['\n']) :: rawLines rest := by
  induction line with
  | nil => simp [rawLines]
  | cons c line ih =>
    rw [List.mem_cons, not_or] at h
    rw [List.cons_append, rawLines, if_neg (Ne.symm h.1), ih h.2]
    rfl

theorem rawLines_of_not_mem (h : '\n' ∉ t) (hne : t ≠ []) : rawLines t = [t] := by
  induction t with
  | nil => exact absurd rfl hne
  | cons c t ih =>
    rw [List.mem_cons, not_or] at h
    rw [rawLines, if_neg (Ne.symm h.1)]
    cases t with
    | nil => rfl
    | cons d t => rw [ih h.2 (by simp)]; rfl

/-- The lines together are the text. -/
theorem flatten_rawLines (t : Text) : (rawLines t).flatten = t := by
  induction t with
  | nil => rfl
  | cons c t ih =>
    rw [rawLines]
    split
    · rw [List.flatten_cons, ih, List.singleton_append]
    · cases hlines : rawLines t with
      | nil =>
        rw [hlines] at ih
        simp [consFirst, ← ih]
      | cons line more =>
        rw [hlines] at ih
        simpa [consFirst] using ih

theorem ne_nil_of_mem_rawLines (h : line ∈ rawLines t) : line ≠ [] := by
  induction t generalizing line with
  | nil => cases h
  | cons c t ih =>
    rw [rawLines] at h
    split at h
    · rcases List.mem_cons.mp h with rfl | h
      · simp
      · exact ih h
    · cases hlines : rawLines t with
      | nil =>
        rw [hlines, consFirst, List.mem_singleton] at h
        simp [h]
      | cons first more =>
        rw [hlines] at h ih
        rcases List.mem_cons.mp h with rfl | h
        · simp
        · exact ih (List.mem_cons_of_mem first h)

theorem byteSize_pos (h : t ≠ []) : 0 < byteSize t := by
  obtain ⟨c, rest, rfl⟩ := List.exists_cons_of_ne_nil h
  have hpos := c.utf8Size_pos
  rw [byteSize]
  omega

/-- The lines of whole lines with a text after them. -/
theorem rawLines_append {lines : Text} (h : lines.getLast? = some '\n') (rest : Text) :
    rawLines (lines ++ rest) = rawLines lines ++ rawLines rest := by
  induction hn : lines.length using Nat.strongRecOn generalizing lines with
  | _ n ih =>
    rcases line_cases lines with hnot | ⟨line, more, rfl, hline⟩
    · exact absurd (List.mem_of_getLast? h) hnot
    · rw [List.append_assoc, List.cons_append, rawLines_line hline, rawLines_line hline]
      cases more with
      | nil => rfl
      | cons c more =>
        have hlast : (c :: more).getLast? = some '\n' := by simpa using h
        rw [ih _ (by simp at hn ⊢; omega) hlast rfl, List.cons_append]

/-- A text is cut in front of the end of its first line. -/
theorem exists_lineEnd_of_splitLineEnd? {first : Text} (h : splitLineEnd? t = some (first, rest)) :
    ∃ lineEnd below, (lineEnd = ['\n'] ∨ lineEnd = ['\r', '\n']) ∧
      t = first ++ (lineEnd ++ below) ∧ rest = lineEnd ++ below ∧ '\n' ∉ first := by
  fun_induction splitLineEnd? t generalizing first with
  | case1 => cases h
  | case2 below =>
    cases h
    exact ⟨['\n'], below, .inl rfl, rfl, rfl, by simp⟩
  | case3 below =>
    cases h
    exact ⟨['\r', '\n'], below, .inr rfl, rfl, rfl, by simp⟩
  -- The character is none of a line end, and the text is split behind it.
  | case4 c t hc hcr ih =>
    obtain ⟨⟨first', rest'⟩, hsome, heq⟩ := Option.map_eq_some_iff.mp h
    cases heq
    obtain ⟨lineEnd, below, hend, rfl, hrest, hfirst⟩ := ih hsome
    refine ⟨lineEnd, below, hend, rfl, hrest, ?_⟩
    rw [List.mem_cons, not_or]
    exact ⟨fun h => hc h.symm, hfirst⟩

/-- A carriage return in front of a line feed is not cut off from it. -/
theorem getLast?_of_splitLineEnd? {first more : Text}
    (h : splitLineEnd? t = some (first, '\n' :: more)) : first.getLast? ≠ some '\r' := by
  fun_induction splitLineEnd? t generalizing first with
  | case1 => cases h
  | case2 below =>
    cases h
    simp
  | case3 below => cases h
  | case4 c t hc hcr ih =>
    obtain ⟨⟨first', rest'⟩, hsome, heq⟩ := Option.map_eq_some_iff.mp h
    cases heq
    cases first' with
    | nil =>
      -- The line feed would follow the character itself.
      obtain ⟨lineEnd, below, -, rfl, hrest, -⟩ := exists_lineEnd_of_splitLineEnd? hsome
      intro hlast
      rw [List.getLast?_singleton, Option.some.injEq] at hlast
      rw [List.nil_append] at hcr
      exact hcr more hlast hrest.symm
    | cons d first' =>
      rw [List.getLast?_cons_cons]
      exact ih hsome

end DesignTokens.Text
