import DesignTokens.Proofs.Declaration.Places

/-! # Declared names of an edited text

When a list of names in braces is written anew, a text declares what it declared before, but perhaps
for names of the list that a pattern took for its own. When a line is put in behind a quote, nothing
is lost.

## Main definitions

* `Declaration.foundNames` - the names that the declarations of a text declare, in order

## Main results

* `Declaration.mem_declaredNames` - the declared names of a text
* `Declaration.mem_foundNames_exchange` - the names of a text that goes on differently
* `Declaration.mem_foundNames_relist` - the names of a text with another list in it
* `Declaration.mem_foundNames_insert` - the names of a text with a line put in
-/

namespace DesignTokens.Declaration

open Character Text

/-- The names that the declarations of a text declare, in order. -/
def foundNames (t : Text) : List Text :=
  (declarationsFrom 0 none t).flatMap Found.names

theorem mem_declaredNames {content : Text} {x : String} :
    x ∈ declaredNames content ↔ x.toList ∈ foundNames content := by
  rw [declaredNames, Names.mem_ofList, List.mem_map]
  constructor
  · rintro ⟨name, hname, rfl⟩
    rwa [String.toList_ofList]
  · exact fun h => ⟨_, h, String.ofList_toList⟩

section

variable {P : Prop} {q q' : Char} {a b i i' l r r' t tail tail' u v v' w x : Text}

/-- The body of a pattern ends in front of a stretch, or it goes on over any stretch that is passed
over. -/
theorem enclosed?_append_cases (b : Text) :
    (∃ inner, ∀ t, enclosed? (b ++ t) = some inner) ∨
      ∃ depth, ∀ r, Level r → ∀ v, enclosed? (b ++ (r ++ v)) =
        (enclosedFrom? depth v).map fun inner => b ++ (r ++ inner) := by
  rcases enclosedFrom?_cases 1 b with hinner | hheld
  · exact .inl hinner
  · refine .inr ⟨depthThrough 1 b, fun r hr v => ?_⟩
    have hdepth := one_le_depthThrough (Nat.le_refl 1) hheld
    rw [enclosed?, enclosedFrom?_append_of_held hheld,
      enclosedFrom?_append_of_held (hr.held _ hdepth), hr.depth, Option.map_map]
    rfl

/-- A name of a pattern that goes on over a stretch is one of the pattern with another stretch, if
this holds of the bodies of patterns. -/
theorem mem_names_pattern (hr : Level r) (hr' : Level r')
    (hnames : ∀ n u v, x ∈ patternNamesWithin n (u ++ (r ++ v)) →
      P ∨ x ∈ patternNamesWithin n (u ++ (r' ++ v)))
    (hx : x ∈ (Found.pattern (b ++ (r ++ v))).names) :
    P ∨ x ∈ (Found.pattern (b ++ (r' ++ v))).names := by
  rcases enclosed?_append_cases b with ⟨inner, hinner⟩ | ⟨depth, hgoes⟩
  · -- The pattern ends in front of the stretch.
    rw [Found.names, hinner] at hx
    rw [Found.names, hinner]
    exact .inr hx
  · -- The stretch is passed over at the same depth, whichever it is.
    rw [Found.names, hgoes r hr] at hx
    rw [Found.names, hgoes r' hr']
    cases henclosed : enclosedFrom? depth v with
    | none =>
      rw [henclosed] at hx
      cases hx
    | some inner =>
      rw [henclosed] at hx
      obtain ⟨n, hx⟩ := mem_patternNames_iff.mp hx
      exact (hnames n b inner hx).imp_right fun h => mem_patternNames_iff.mpr ⟨n, h⟩

/-- What a text declares that goes on differently behind a place. Up to the place both texts are
read alike, so a name can be lost by a pattern that goes on over the place, by one whose bracket
stands there, or behind the place. -/
theorem mem_foundNames_exchange (hq : Stops q)
    (hover : ∀ b, x ∈ (Found.pattern (b ++ q :: v)).names →
      P ∨ x ∈ (Found.pattern (b ++ q :: v')).names)
    (hhere : isOpening q = true → x ∈ (Found.pattern v).names → P ∨ x ∈ (Found.pattern v').names)
    (hbehind : x ∈ (declarationsFrom 0 (some q) v).flatMap Found.names →
      P ∨ x ∈ (declarationsFrom 0 (some q) v').flatMap Found.names)
    (hx : x ∈ foundNames (a ++ q :: v)) : P ∨ x ∈ foundNames (a ++ q :: v') := by
  obtain ⟨hits, hopening, hdecl⟩ := exists_hits hq 0 none a (Nat.zero_le _)
  rw [foundNames, hdecl, List.flatMap_append, List.mem_append] at hx
  rw [foundNames, hdecl, List.flatMap_append, List.mem_append]
  -- The declaration starts in front of the stop or behind it.
  rcases hx with hx | hx
  · obtain ⟨found, hfound, hx⟩ := List.mem_flatMap.mp hx
    obtain ⟨hit, hhit, rfl⟩ := List.mem_map.mp hfound
    have hsame : P ∨ x ∈ (hit.at q v').1.names := by
      cases hit with
      | name n b => exact .inr hx
      | pattern b => exact hover b hx
      | here => exact hhere (hopening hhit) hx
    exact hsame.imp_right fun hx =>
      .inl (List.mem_flatMap.mpr ⟨_, List.mem_map_of_mem hhit, hx⟩)
  · exact (hbehind hx).imp_right .inr

/-! ### Another list -/

theorem stops_brace : Stops '{' where
  continues := by decide
  starts := by decide
  blank := by decide
  star := by decide

/-- What a text declares that has another list of names in braces. -/
theorem mem_foundNames_relist (hi : Listed i) (hi' : Listed i')
    (hx : x ∈ foundNames (a ++ '{' :: (i ++ '}' :: w))) :
    x ∈ Import.listEntries i ∨ x ∈ foundNames (a ++ '{' :: (i' ++ '}' :: w)) := by
  refine mem_foundNames_exchange stops_brace (fun b hx => ?_) (fun _ hx => ?_) (fun hx => ?_) hx
  · have hbraces : ∀ i : Text, b ++ '{' :: (i ++ '}' :: w) = b ++ ('{' :: (i ++ ['}']) ++ w) :=
      fun i => by simp
    rw [hbraces] at hx ⊢
    exact mem_names_pattern (level_braces hi.plain) (level_braces hi'.plain)
      (fun n u v => mem_patternNamesWithin_braces hi hi') hx
  · -- The list is the pattern.
    have hbody : enclosed? (i ++ '}' :: w) = some i := by
      rw [enclosed?, enclosedFrom?_append_of_held (held_of_plain hi.plain 1),
        depthThrough_of_plain hi.plain, enclosedFrom?, if_pos (by decide)]
      simp
    rw [Found.names, hbody] at hx
    obtain ⟨n, hx⟩ := mem_patternNames_iff.mp hx
    exact .inl (mem_listEntries_of_mem_patternNamesWithin hi hx)
  · rw [declarationsFrom_tight hi.tight hi.chars] at hx
    rw [declarationsFrom_tight hi'.tight hi'.chars]
    exact .inr hx

/-! ### A further line -/

/-- A line in front of a text, with a quote and characters that are none of names at its end, takes
no declaration from it. -/
theorem mem_foundNames_append (hq : Stops q) (htail : ∀ c ∈ tail, continuesName c = false)
    (hx : x ∈ foundNames t) : x ∈ foundNames (l ++ q :: (tail ++ t)) := by
  obtain ⟨front, hdecl⟩ := exists_declarationsFrom_append hq htail none l t
  rw [foundNames, hdecl, List.flatMap_append]
  exact List.mem_append_right _ hx

/-- A line that is put in behind a quote takes no declaration from a text. -/
theorem mem_foundNames_insert (hq : Stops q) (hopen : isOpening q = false)
    (htail : ∀ c ∈ tail, continuesName c = false) (hq' : Stops q')
    (htail' : ∀ c ∈ tail', continuesName c = false) (hr : Opaque (q :: tail))
    (hr' : Opaque (q :: (tail ++ (l ++ q' :: tail'))))
    (hx : x ∈ foundNames (a ++ q :: (tail ++ t))) :
    x ∈ foundNames (a ++ q :: (tail ++ (l ++ q' :: (tail' ++ t)))) := by
  have hside : isWordSide (some q) = false := isWord_of_continuesName hq.continues
  refine (mem_foundNames_exchange (P := False) hq (fun b hx => ?_) (fun hopening => ?_)
    (fun hx => ?_) hx).resolve_left id
  · -- A pattern that reaches over the stop passes over an opaque stretch.
    have hsplit : q :: (tail ++ (l ++ q' :: (tail' ++ t))) =
        q :: (tail ++ (l ++ q' :: tail')) ++ t := by simp
    rw [← List.cons_append] at hx
    rw [hsplit]
    exact mem_names_pattern hr.level hr'.level
      (fun n u v h => .inr (patternNamesWithin_opaqueStretch n u v hr hr' ▸ h)) hx
  · rw [hopen] at hopening
    cases hopening
  · rw [declarationsFrom_idle htail hside] at hx ⊢
    exact .inr (mem_foundNames_append hq' htail' hx)

end

end DesignTokens.Declaration
