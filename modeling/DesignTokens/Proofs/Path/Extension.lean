import DesignTokens.Path
import DesignTokens.Proofs.Character.Disjoint
import DesignTokens.Proofs.Text.Parts

/-! # Extensions in normal form

The normal form of an extension has no blanks around it, no point in front and no capital letter of
ASCII. The extension of a path has no point at all, so that its normal form stays what it is.

## Main results

* `Path.normalizeExtension_extension` - the extension of a path is in normal form
-/

namespace DesignTokens

open Character Text

variable {c : Char}

/-- A capital letter gives a small one. -/
theorem Character.toLower_of_isUpper (h : c.isUpper = true) :
    c.toLower.isLower = true ∧ c.toLower.isUpper = false := by
  have hascii : ∀ n < 91, (Char.ofNat n).isUpper = true →
      (Char.ofNat n).toLower.isLower = true ∧ (Char.ofNat n).toLower.isUpper = false := by decide
  have hcode : c.toNat < 91 :=
    Nat.lt_succ_of_le (UInt32.le_iff_toNat_le.mp (of_decide_eq_true h).2)
  simpa only [Char.ofNat_toNat] using hascii c.toNat hcode (by rwa [Char.ofNat_toNat])

theorem Character.toLower_of_isUpper_eq_false (h : c.isUpper = false) : c.toLower = c :=
  dif_neg (of_decide_eq_false h)

theorem Character.isBlank_of_isAlpha (h : c.isAlpha = true) : isBlank c = false := by
  by_contra hblank
  have hcode := isBlank_iff_mem_blankCodes.mp (Bool.not_eq_false _ ▸ hblank)
  obtain ⟨-, hupper, hlower, -⟩ := not_ascii_of_mem_blankCodes hcode
  rw [isAlpha_eq] at h
  simp [hupper, hlower] at h

/-- Letters are blanks in no form, and other characters have no form of their own. -/
theorem Character.isBlank_toLower (c : Char) : isBlank c.toLower = isBlank c := by
  cases hupper : c.isUpper with
  | true =>
    have hlower := (toLower_of_isUpper hupper).1
    have hletter : c.isAlpha = true := Bool.or_eq_true_iff.mpr (.inl hupper)
    have hsmall : c.toLower.isAlpha = true := Bool.or_eq_true_iff.mpr (.inr hlower)
    rw [isBlank_of_isAlpha hletter, isBlank_of_isAlpha hsmall]
  | false => rw [toLower_of_isUpper_eq_false hupper]

theorem Character.toLower_ne_point (h : c ≠ '.') : c.toLower ≠ '.' := by
  cases hupper : c.isUpper with
  | true =>
    intro hpoint
    have hlower := (toLower_of_isUpper hupper).1
    rw [hpoint] at hlower
    cases hlower
  | false => rwa [toLower_of_isUpper_eq_false hupper]

theorem Character.toLower_toLower (c : Char) : c.toLower.toLower = c.toLower := by
  cases hupper : c.isUpper with
  | true => exact toLower_of_isUpper_eq_false (toLower_of_isUpper hupper).2
  | false => rw [toLower_of_isUpper_eq_false hupper, toLower_of_isUpper_eq_false hupper]

theorem Text.dropWhile_point {t : Text} (h : '.' ∉ t) : t.dropWhile (· = '.') = t := by
  cases t with
  | nil => rfl
  | cons c t =>
    rw [List.dropWhile_cons_of_neg]
    simpa [eq_comm] using fun hc : '.' = c => h (hc ▸ List.mem_cons_self)

/-- A text without blanks around it has none in small letters either. -/
theorem Text.trim_map_toLower (t : Text) :
    trim ((trim t).map Char.toLower) = (trim t).map Char.toLower := by
  have hends := trim_append_of_blanks (a := []) (b := []) (t := (trim t).map Char.toLower)
    (by simp) (by simp) ?_ ?_
  · simpa using hends
  · rw [List.head?_map]
    intro _ hc
    obtain ⟨d, hd, rfl⟩ := Option.map_eq_some_iff.mp hc
    rw [isBlank_toLower]
    exact head?_trim _ d hd
  · rw [List.getLast?_map]
    intro _ hc
    obtain ⟨d, hd, rfl⟩ := Option.map_eq_some_iff.mp hc
    rw [isBlank_toLower]
    exact getLast?_trimEnd _ d hd

/-- The normal form of an extension without points is one of its own. -/
theorem normalizeExtension_normalizeExtension {extension : String} (h : '.' ∉ extension.toList) :
    normalizeExtension (normalizeExtension extension) = normalizeExtension extension := by
  have htrim : '.' ∉ trim extension.toList := by
    obtain ⟨a, b, -, -, heq⟩ := exists_blanks_trim extension.toList
    intro hmem
    rw [heq] at h
    exact h (List.mem_append_left b (List.mem_append_right a hmem))
  have hpoint : '.' ∉ (trim extension.toList).map Char.toLower := by
    rintro hmem
    obtain ⟨c, hc, hlower⟩ := List.mem_map.mp hmem
    exact toLower_ne_point (fun heq => htrim (heq ▸ hc)) hlower
  simp only [normalizeExtension, String.toList_ofList, dropWhile_point htrim, trim_map_toLower,
    dropWhile_point hpoint, List.map_map]
  congr 2
  funext c
  exact toLower_toLower c

/-- The extension of a path is in normal form. -/
theorem Path.normalizeExtension_extension (path : Path) :
    normalizeExtension path.extension = path.extension := by
  rw [extension]
  cases hextension : path.fileName?.bind extensionOfName? with
  | none => rfl
  | some extension =>
    refine normalizeExtension_normalizeExtension ?_
    obtain ⟨name, -, hname⟩ := Option.bind_eq_some_iff.mp hextension
    rw [extensionOfName?] at hname
    split at hname
    · cases hname
    · rename_i own hsplit
      cases hname
      rw [String.toList_ofList]
      exact (splitLast?_eq_some_iff.mp hsplit).2
    · cases hname

end DesignTokens
