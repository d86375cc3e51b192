import DesignTokens.Proofs.Text.Lines
import DesignTokens.Proofs.Text.Parts
import Mathlib.Data.List.TakeWhile

/-! # The line at a place

Behind whole lines a text goes on with the line whose number is that of the line feeds before it.
How the line ends makes no difference once the blanks around it are gone, as carriage returns are
blanks.

## Main definitions

* `Text.firstLine` - a text up to its first line feed
* `Text.WholeLines` - a text that is empty or ends with a line feed

## Main results

* `Text.trim_firstLine_append` - a line whose end is another one
* `Text.exists_line_of_wholeLines` - the line behind whole lines
-/

namespace DesignTokens.Text

open Character

variable {a b t u : Text}

/-- A text up to its first line feed. -/
def firstLine (t : Text) : Text :=
  t.takeWhile (· ≠ '\n')

/-- A text of lines that all have an end. -/
def WholeLines (t : Text) : Prop :=
  t = [] ∨ t.getLast? = some '\n'

theorem wholeLines_iff : WholeLines t ↔ ∀ c ∈ t.getLast?, c = '\n' := by
  rw [WholeLines]
  cases hlast : t.getLast? with
  | none => simp [List.getLast?_eq_none_iff.mp hlast]
  | some c =>
    have hne : t ≠ [] := by
      rintro rfl
      cases hlast
    simp [hne]

theorem firstLine_of_not_mem (h : '\n' ∉ t) : firstLine t = t := by
  rw [firstLine, List.takeWhile_eq_self_iff]
  exact forall_ne_newline h

theorem firstLine_append_of_not_mem (h : '\n' ∉ a) (b : Text) :
    firstLine (a ++ b) = a ++ firstLine b :=
  List.takeWhile_append_of_pos (forall_ne_newline h)

theorem firstLine_line (h : '\n' ∉ a) (b : Text) : firstLine (a ++ '\n' :: b) = a := by
  rw [firstLine, takeWhile_append_stop (forall_ne_newline h)]
  simp

/-- What comes after a line feed is not on the first line. -/
theorem firstLine_append_of_mem (h : '\n' ∈ a) (b : Text) : firstLine (a ++ b) = firstLine a := by
  obtain ⟨line, rest, rfl, hline⟩ := List.eq_append_cons_of_mem h
  rw [List.append_assoc, List.cons_append, firstLine_line hline, firstLine_line hline]

theorem trim_append_cr (t : Text) : trim (t ++ ['\r']) = trim t := by
  obtain ⟨x, y, hx, hy, heq⟩ := exists_blanks_trim t
  have hblank : ∀ c ∈ y ++ ['\r'], isBlank c = true := by
    intro c hc
    rcases List.mem_append.mp hc with hc | hc
    · exact hy c hc
    · rw [List.mem_singleton.mp hc]
      decide
  conv_lhs => rw [heq, List.append_assoc]
  exact trim_append_of_blanks hx hblank (head?_trim t) (getLast?_trimEnd _)

/-- The end of a line makes no difference to its text without the blanks around it. -/
theorem trim_firstLine_append (a : Text) {lineEnd : Text}
    (h : lineEnd = ['\n'] ∨ lineEnd = ['\r', '\n']) (b : Text) :
    trim (firstLine (a ++ (lineEnd ++ b))) = trim (firstLine a) := by
  by_cases hmem : '\n' ∈ a
  · rw [firstLine_append_of_mem hmem]
  · rcases h with rfl | rfl
    · rw [List.singleton_append, firstLine_line hmem, firstLine_of_not_mem hmem]
    · have hcr : '\n' ∉ a ++ ['\r'] := by simp [hmem]
      have hsplit : a ++ (['\r', '\n'] ++ b) = (a ++ ['\r']) ++ '\n' :: b := by simp
      rw [hsplit, firstLine_line hcr, firstLine_of_not_mem hmem, trim_append_cr]

/-- A word behind blanks is what a text starts with once the blanks around it are gone. -/
theorem prefix_trim {w x : Text} (ha : ∀ c ∈ a, isBlank c = true)
    (hw : ∀ c ∈ w, isBlank c = false) (hne : w ≠ []) : w <+: trim (a ++ (w ++ x)) := by
  obtain ⟨y, hy, heq⟩ := exists_blanks_trimEnd x
  have hhead : ∀ c ∈ (w ++ trimEnd x).head?, isBlank c = false := by
    obtain ⟨c, rest, rfl⟩ := List.exists_cons_of_ne_nil hne
    rintro d ⟨⟩
    exact hw c List.mem_cons_self
  have hlast : ∀ c ∈ (w ++ trimEnd x).getLast?, isBlank c = false := by
    intro c hc
    rw [List.getLast?_append] at hc
    cases hend : (trimEnd x).getLast? with
    | none =>
      rw [hend, Option.none_or] at hc
      exact hw c (List.mem_of_getLast? hc)
    | some _ =>
      rw [hend] at hc
      cases hc
      exact getLast?_trimEnd x c hend
  have htrim := trim_append_of_blanks ha hy hhead hlast
  rw [List.append_assoc, List.append_assoc, ← heq] at htrim
  rw [htrim]
  exact List.prefix_append w _

/-! ### Lines by number -/

theorem trim_withoutEnd_line (t : Text) : trim (withoutEnd (t ++ ['\n'])) = trim t := by
  rw [withoutEnd, List.reverse_append, List.reverse_singleton, List.singleton_append]
  cases hreverse : t.reverse with
  | nil =>
    obtain rfl := List.reverse_eq_nil_iff.mp hreverse
    rfl
  | cons c rest =>
    obtain rfl : t = rest.reverse ++ [c] := by
      rw [← List.reverse_reverse t, hreverse, List.reverse_cons]
    by_cases hcr : c = '\r'
    · subst hcr
      exact (trim_append_cr _).symm
    · split
      · rename_i heq
        cases heq
        exact absurd rfl hcr
      · rename_i heq
        cases heq
        rw [List.reverse_cons]
      · rename_i hnot
        exact absurd rfl (hnot _)

theorem withoutEnd_of_not_mem (h : '\n' ∉ t) : withoutEnd t = t := by
  have hhead : ∀ rest, t.reverse ≠ '\n' :: rest := by
    intro rest heq
    refine h (List.mem_reverse.mp ?_)
    rw [heq]
    exact List.mem_cons_self
  rw [withoutEnd]
  split
  · rename_i heq
    exact absurd heq (hhead _)
  · rename_i heq
    exact absurd heq (hhead _)
  · rfl

/-- The first of the lines of a text. -/
theorem exists_head?_lines (h : t ≠ []) :
    ∃ line, (lines t).head? = some line ∧ trim line = trim (firstLine t) := by
  rcases line_cases t with hnot | ⟨line, rest, rfl, hline⟩
  · refine ⟨t, ?_, ?_⟩
    · rw [lines, rawLines_of_not_mem hnot h, List.map_singleton, withoutEnd_of_not_mem hnot]
      rfl
    · rw [firstLine_of_not_mem hnot]
  · refine ⟨withoutEnd (line ++ ['\n']), ?_, ?_⟩
    · rw [lines, rawLines_line hline]
      rfl
    · rw [trim_withoutEnd_line, firstLine_line hline]

theorem WholeLines.rest {line rest : Text} (h : WholeLines (line ++ '\n' :: rest)) :
    WholeLines rest := by
  rcases h with hnil | hlast
  · simp at hnil
  · cases rest with
    | nil => exact .inl rfl
    | cons c rest => exact .inr (by simpa using hlast)

/-- Whole lines have a line for each line feed. -/
theorem length_rawLines (h : WholeLines t) : (rawLines t).length = lineFeeds t := by
  induction hn : t.length using Nat.strongRecOn generalizing t with
  | _ n ih =>
    rcases line_cases t with hnot | ⟨line, rest, rfl, hline⟩
    · rcases h with rfl | hlast
      · rfl
      · exact absurd (List.mem_of_getLast? hlast) hnot
    · have hrest := ih rest.length (by simp at hn; omega) h.rest rfl
      rw [rawLines_line hline, List.length_cons, hrest, lineFeeds, lineFeeds, List.count_append,
        List.count_eq_zero_of_not_mem hline, List.count_cons_self, Nat.zero_add]

theorem WholeLines.rawLines_append (h : WholeLines a) (b : Text) :
    rawLines (a ++ b) = rawLines a ++ rawLines b := by
  rcases h with rfl | hlast
  · rfl
  · exact Text.rawLines_append hlast b

/-- The line behind whole lines has the number of their line feeds. -/
theorem exists_line_of_wholeLines (h : WholeLines a) (hb : b ≠ []) :
    ∃ line, (lines (a ++ b))[lineFeeds a]? = some line ∧ trim line = trim (firstLine b) := by
  obtain ⟨line, hhead, htrim⟩ := exists_head?_lines hb
  refine ⟨line, ?_, htrim⟩
  rw [lines, h.rawLines_append, List.map_append, ← length_rawLines h,
    List.getElem?_append_right (by simp), List.length_map, Nat.sub_self, ← List.head?_eq_getElem?]
  exact hhead

end DesignTokens.Text
