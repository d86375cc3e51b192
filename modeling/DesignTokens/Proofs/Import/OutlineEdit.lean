import DesignTokens.Import.Outline
import DesignTokens.Proofs.Import.StatementForm
import DesignTokens.Proofs.Text.Lines
import Mathlib.Data.List.Forall2

/-! # Outlines of edited texts

An edit exchanges a statement for another of its kind, or puts text after the last statement. The
outline of the edited text is the outline that was edited: no statement is lost, none appears in the
text between them, and what follows the last one is read on its own.

## Main definitions

* `Import.Outline.afterLine` - the outline of a text that starts within a line
* `Import.Outline.Exchange` - a statement in the place of another of its kind, and
  `Import.Outline.Exchanges` what comes of it in a text
* `Import.Outline.Linked` - what entries that were read have in common

## Main results

* `Import.Outline.started_read` - entries that were read are linked
* `Import.Outline.read_exchange` - the outline of a text with statements exchanged and with another
  text after the last of them
-/

namespace DesignTokens.Import.Outline

open Character Text Statement

/-! ### Texts that start within a line -/

/-- The outline of a text that starts within a line. -/
def afterLine (t : Text) : Outline :=
  match t.dropWhile (· ≠ '\n') with
  | [] => ⟨[], t⟩
  | c :: rest => prepend (t.takeWhile (· ≠ '\n') ++ [c]) (read rest)

theorem takeWhile_of_dropWhile_eq_nil {t : Text} (h : t.dropWhile (· ≠ '\n') = []) :
    t.takeWhile (· ≠ '\n') = t := by
  have hsplit := List.takeWhile_append_dropWhile (p := (· ≠ '\n')) (l := t)
  rw [h, List.append_nil] at hsplit
  exact hsplit

theorem read_of_read?_eq_some {t rest : Text} {s : Statement} (h : read? t = some (s, rest)) :
    read t = push s (afterLine rest) := by
  rw [read, afterLine]
  split
  · rename_i s' rest' h'
    rw [h, Option.some.injEq, Prod.mk.injEq] at h'
    obtain ⟨rfl, rfl⟩ := h'
    split
    · rename_i hrest
      rw [hrest, takeWhile_of_dropWhile_eq_nil hrest]
    · rename_i hrest
      rw [hrest]
  · rename_i h'
    rw [h] at h'
    cases h'

theorem read_of_read?_eq_none {t : Text} (h : read? t = none) : read t = afterLine t := by
  rw [read, afterLine]
  split
  · rename_i h'
    rw [h] at h'
    cases h'
  · split
    · rename_i ht
      rw [ht, takeWhile_of_dropWhile_eq_nil ht]
    · rename_i ht
      rw [ht]

theorem prepend_prepend (a b : Text) (o : Outline) :
    (o.prepend b).prepend a = o.prepend (a ++ b) := by
  obtain ⟨entries, rest⟩ := o
  cases entries <;> simp [prepend]

@[simp] theorem afterLine_nil : afterLine [] = ⟨[], []⟩ := rfl

theorem afterLine_newline (t : Text) : afterLine ('\n' :: t) = (read t).prepend ['\n'] := by
  simp [afterLine]

/-- Text within a line stands in front of what follows it. -/
theorem afterLine_append {line : Text} (h : '\n' ∉ line) (t : Text) :
    afterLine (line ++ t) = (afterLine t).prepend line := by
  have hline := forall_ne_newline h
  simp only [afterLine, List.dropWhile_append_of_pos hline, List.takeWhile_append_of_pos hline]
  split
  · rfl
  · rw [prepend_prepend, List.append_assoc]

theorem afterLine_of_not_mem {t : Text} (h : '\n' ∉ t) : afterLine t = ⟨[], t⟩ := by
  have := afterLine_append h []
  simpa [prepend] using this

theorem text_afterLine (t : Text) : (afterLine t).text = t := by
  rcases line_cases t with h | ⟨line, rest, rfl, hline⟩
  · simp [afterLine_of_not_mem h, text]
  · rw [afterLine_append hline, afterLine_newline, text_prepend, text_prepend, text_read]
    rfl

/-- Reading goes from line to line: a property of texts holds of all if it holds of each text for
which it holds of the text after the first line, and after the line that a statement in front ends
on. -/
theorem read_induction {P : Text → Prop}
    (step : ∀ t, (∀ line rest, t = line ++ '\n' :: rest → P rest) →
      (∀ s line rest, read? t = some (s, line ++ '\n' :: rest) → P rest) → P t)
    (t : Text) : P t := by
  induction hn : t.length using Nat.strongRecOn generalizing t with
  | _ n ih =>
    refine step t ?_ ?_
    · rintro line rest rfl
      exact ih rest.length (by simp at hn; omega) rest rfl
    · intro s line rest hread
      have hlt := length_lt_of_read? hread
      exact ih rest.length (by simp at hlt; omega) rest rfl

/-! ### Entries that were read -/

/-- Every statement has the form of one and ends where the text after it begins, and a line break
stands in front of every statement but the first. -/
def Linked : List (Text × Statement) → Text → Prop
  | [], _ => True
  | (_, s) :: more, rest =>
    s.Valid ∧ s.Ends (Outline.mk more rest).text ∧ (∀ e ∈ more.head?, e.1.getLast? = some '\n') ∧
      Linked more rest

/-- What the outline of a text has: linked entries, the first of which starts a line. -/
def Started (o : Outline) : Prop :=
  Linked o.entries o.rest ∧ ∀ e ∈ o.entries.head?, ∀ c ∈ e.1.getLast?, c = '\n'

/-- What the outline of a text that starts within a line has: linked entries with a line break in
front of the first. -/
def Broken (o : Outline) : Prop :=
  Linked o.entries o.rest ∧ ∀ e ∈ o.entries.head?, e.1.getLast? = some '\n'

theorem Broken.started {o : Outline} (h : o.Broken) : o.Started := by
  refine ⟨h.1, fun e he c hc => ?_⟩
  rw [h.2 e he] at hc
  exact (Option.some.inj hc).symm

theorem Started.broken_prepend {lead : Text} {o : Outline} (h : o.Started)
    (hlead : lead.getLast? = some '\n') : (o.prepend lead).Broken := by
  obtain ⟨entries, rest⟩ := o
  cases entries with
  | nil => exact ⟨trivial, by simp [prepend]⟩
  | cons e more =>
    obtain ⟨lead₀, s⟩ := e
    refine ⟨h.1, ?_⟩
    rintro e ⟨⟩
    rw [List.getLast?_append]
    cases hlast : lead₀.getLast? with
    | none => simpa using hlead
    | some c => simpa using h.2 (lead₀, s) rfl c hlast

theorem broken_afterLine_of {t : Text}
    (h : ∀ line rest, t = line ++ '\n' :: rest → (read rest).Started) : (afterLine t).Broken := by
  rcases line_cases t with hnot | ⟨line, rest, heq, hnot⟩
  · rw [afterLine_of_not_mem hnot]
    exact ⟨trivial, by simp⟩
  · have hrest := h line rest heq
    rw [heq, afterLine_append hnot, afterLine_newline, prepend_prepend]
    exact hrest.broken_prepend (by simp)

theorem started_read (t : Text) : (read t).Started := by
  induction t using read_induction with
  | step t hline hstmt =>
    cases hread : read? t with
    | none =>
      rw [read_of_read?_eq_none hread]
      exact (broken_afterLine_of hline).started
    | some p =>
      obtain ⟨s, rest⟩ := p
      obtain ⟨-, hvalid, hends⟩ := read?_eq_some_iff.mp hread
      obtain ⟨hlinked, hbreak⟩ := broken_afterLine_of fun line rest' heq =>
        hstmt s line rest' (heq ▸ hread)
      rw [← text_afterLine rest] at hends
      rw [read_of_read?_eq_some hread]
      exact ⟨⟨hvalid, hends, hbreak, hlinked⟩, by rintro e ⟨⟩; simp⟩

theorem broken_afterLine (t : Text) : (afterLine t).Broken :=
  broken_afterLine_of fun _ rest _ => started_read rest

/-! ### Exchanging statements -/

/-- The characters of entries. -/
def flat (entries : List (Text × Statement)) : Text :=
  entries.flatMap fun entry => entry.1 ++ entry.2.text

@[simp] theorem flat_nil : flat [] = [] := rfl

@[simp] theorem flat_cons (e : Text × Statement) (more : List (Text × Statement)) :
    flat (e :: more) = e.1 ++ (e.2.text ++ flat more) := by
  simp [flat]

@[simp] theorem flat_append (as bs : List (Text × Statement)) :
    flat (as ++ bs) = flat as ++ flat bs := by
  simp [flat]

theorem text_mk (entries : List (Text × Statement)) (rest : Text) :
    (Outline.mk entries rest).text = flat entries ++ rest := rfl

/-- An outline with more entries in front. -/
def after (o : Outline) (entries : List (Text × Statement)) : Outline :=
  ⟨entries ++ o.entries, o.rest⟩

/-- A statement of the right form in the place of another: it has a clause if that one has, and a
semicolon if that one has. -/
structure Exchange (e' e : Text × Statement) : Prop where
  lead : e'.1 = e.1
  valid : e'.2.Valid
  clause : e'.2.clause.isSome = e.2.clause.isSome
  semicolon : e'.2.semicolon = e.2.semicolon

theorem Exchange.refl {e : Text × Statement} (h : e.2.Valid) : Exchange e e :=
  ⟨rfl, h, rfl, rfl⟩

/-- How a statement ends depends on the first character after it only. -/
theorem ends_append_of_ends {s s' : Statement} {lead rest rest' : Text} (h : s.Ends (lead ++ rest))
    (hne : lead ≠ []) (hsemi : s'.semicolon = s.semicolon) : s'.Ends (lead ++ rest') := by
  obtain ⟨c, lead', rfl⟩ := List.exists_cons_of_ne_nil hne
  simpa [Ends, hsemi] using h

/-- Statements of a text can be exchanged, with another text after the last of them: the outline has
the new statements with the old text between them, and then that of the new text. -/
def Exchanges (tail t : Text) : Prop :=
  ∀ es rest es', read t = ⟨es, rest⟩ → es ≠ [] → List.Forall₂ Exchange es' es →
    (∀ e ∈ es'.getLast?, e.2.Ends tail) → read (flat es' ++ tail) = (afterLine tail).after es'

section

variable {t rest tail : Text} {es es' : List (Text × Statement)}

/-- What an exchange does to the outline of a text that starts within a line follows from what it
does to that of the next line. -/
theorem afterLine_exchange_of (hline : ∀ line t', t = line ++ '\n' :: t' → Exchanges tail t')
    (h : afterLine t = ⟨es, rest⟩) (hne : es ≠ []) (hex : List.Forall₂ Exchange es' es)
    (hends : ∀ e ∈ es'.getLast?, e.2.Ends tail) :
    afterLine (flat es' ++ tail) = (afterLine tail).after es' := by
  rcases line_cases t with hnot | ⟨line, t', rfl, hnot⟩
  · rw [afterLine_of_not_mem hnot, Outline.mk.injEq] at h
    exact absurd h.1.symm hne
  · rw [afterLine_append hnot, afterLine_newline, prepend_prepend] at h
    cases hread : read t' with
    | mk es₀ rest₀ =>
      cases es₀ with
      | nil =>
        rw [hread, prepend, Outline.mk.injEq] at h
        exact absurd h.1.symm hne
      | cons e₀ more =>
        obtain ⟨lead₀, s₀⟩ := e₀
        rw [hread, prepend, Outline.mk.injEq] at h
        obtain ⟨rfl, rfl⟩ := h
        cases hex with
        | @cons e' _ more' _ he hmore =>
          obtain ⟨lead', s'⟩ := e'
          obtain rfl : lead' = _ := he.lead
          -- The line stands in front of what the exchange gives from the next line on.
          have hnext := hline line t' rfl _ _ ((lead₀, s') :: more') hread (by simp)
            (.cons ⟨rfl, he.valid, he.clause, he.semicolon⟩ hmore)
            (by
              intro e he'
              cases more' with
              | nil =>
                obtain rfl : (lead₀, s') = e := by simpa using he'
                exact hends (line ++ ['\n'] ++ lead₀, s') (by simp)
              | cons e₁ more₁ => exact hends e (by simpa [List.getLast?_cons] using he'))
          have htext : flat ((line ++ ['\n'] ++ lead₀, s') :: more') ++ tail =
              line ++ '\n' :: (flat ((lead₀, s') :: more') ++ tail) := by
            simp
          rw [htext, afterLine_append hnot, afterLine_newline, hnext, prepend_prepend]
          rfl

/-- A line that starts no statement starts none after the exchange, so that it stands in front of
the text from the next line on. -/
theorem Exchanges.of_line (hread : read? t = none)
    (hline : ∀ line t', t = line ++ '\n' :: t' → Exchanges tail t') : Exchanges tail t := by
  intro es rest es' h hne hex hends
  rw [read_of_read?_eq_none hread] at h
  have hafter := afterLine_exchange_of hline h hne hex hends
  cases hex with
  | nil => exact absurd rfl hne
  | @cons e' e more' more he hmore =>
    obtain ⟨lead, s⟩ := e
    obtain ⟨lead', s'⟩ := e'
    obtain rfl : lead' = lead := he.lead
    obtain ⟨⟨hvalid, hs, -, -⟩, hbreak⟩ := h ▸ broken_afterLine t
    -- The first statement below is exchanged, which does not change how this line is read.
    have htext : t = lead' ++ (s.text ++ (flat more ++ rest)) := by
      rw [← text_afterLine t, h, text_mk, flat_cons, List.append_assoc, List.append_assoc]
    rw [htext] at hread
    have hnone : read? (lead' ++ (s'.text ++ (flat more' ++ tail))) = none :=
      read?_append_eq_none (hbreak _ rfl) hvalid hs he.valid he.clause hread
    have htext' : flat ((lead', s') :: more') ++ tail =
        lead' ++ (s'.text ++ (flat more' ++ tail)) := by
      simp
    rw [htext', read_of_read?_eq_none hnone, ← htext', hafter]

/-- A statement in front of a text is exchanged for one that ends where it ended. -/
theorem Exchanges.of_statement {s : Statement} {r : Text} (hread : read? t = some (s, r))
    (hline : ∀ line t', r = line ++ '\n' :: t' → Exchanges tail t') : Exchanges tail t := by
  intro es rest es' h hne hex hends
  obtain ⟨-, hvalid, hs⟩ := read?_eq_some_iff.mp hread
  obtain ⟨more, rest₁, hafter⟩ : ∃ more rest₁, afterLine r = ⟨more, rest₁⟩ := ⟨_, _, rfl⟩
  rw [read_of_read?_eq_some hread, hafter, push, Outline.mk.injEq] at h
  obtain ⟨rfl, rfl⟩ := h
  cases hex with
  | @cons e' _ more' _ he hmore =>
    obtain ⟨lead', s'⟩ := e'
    obtain rfl : lead' = [] := he.lead
    have htext : flat (([], s') :: more') ++ tail = s'.text ++ (flat more' ++ tail) := by
      simp
    cases hmore with
    | nil =>
      have hread' := read?_text_append he.valid (hends ([], s') (by simp))
      rw [htext, flat_nil, List.nil_append, read_of_read?_eq_some hread']
      rfl
    | @cons e₁' e₁ more₁' more₁ he₁ hmore₁ =>
      have hlast : ∀ e ∈ (e₁' :: more₁').getLast?, e.2.Ends tail :=
        fun e he' => hends e (by rw [List.getLast?_cons_cons]; exact he')
      have hrec := afterLine_exchange_of hline hafter (by simp) (.cons he₁ hmore₁) hlast
      have hbreak : e₁.1.getLast? = some '\n' :=
        (broken_afterLine r).2 e₁ (by rw [hafter]; rfl)
      have hne₁ : e₁.1 ≠ [] := by
        intro hnil
        rw [hnil] at hbreak
        cases hbreak
      -- The text up to the next statement is as before, so the statement ends there as before.
      have hends' : s'.Ends (flat (e₁' :: more₁') ++ tail) := by
        rw [← text_afterLine r, hafter, text_mk, flat_cons, List.append_assoc] at hs
        rw [flat_cons, List.append_assoc, he₁.lead]
        exact ends_append_of_ends hs hne₁ he.semicolon
      rw [htext, read_of_read?_eq_some (read?_text_append he.valid hends'), hrec]
      rfl

theorem exchanges (tail t : Text) : Exchanges tail t := by
  induction t using read_induction with
  | step t hline hstmt =>
    cases hread : read? t with
    | none => exact .of_line hread hline
    | some p => exact .of_statement hread fun line t' heq => hstmt p.1 line t' (heq ▸ hread)

/-- The outline of a text in which statements are exchanged and another text follows the last of
them: the new statements with the old text between them, and then the outline of the new text. -/
theorem read_exchange (h : read t = ⟨es, rest⟩) (hne : es ≠ [])
    (hex : List.Forall₂ Exchange es' es) (hends : ∀ e ∈ es'.getLast?, e.2.Ends tail) :
    read (flat es' ++ tail) = (afterLine tail).after es' :=
  exchanges tail t es rest es' h hne hex hends

end

/-! ### One statement for another -/

/-- An outline with another entry in a place. -/
def set (o : Outline) (i : Nat) (e : Text × Statement) : Outline :=
  { o with entries := o.entries.set i e }

theorem Linked.valid {entries : List (Text × Statement)} {rest : Text} (h : Linked entries rest) :
    ∀ e ∈ entries, e.2.Valid := by
  induction entries with
  | nil => simp
  | cons e more ih =>
    obtain ⟨hvalid, -, -, hmore⟩ := h
    intro e' he'
    rcases List.mem_cons.mp he' with rfl | he'
    · exact hvalid
    · exact ih hmore e' he'

theorem Linked.ends_getLast {entries : List (Text × Statement)} {rest : Text}
    (h : Linked entries rest) : ∀ e ∈ entries.getLast?, e.2.Ends rest := by
  induction entries with
  | nil => simp
  | cons e more ih =>
    obtain ⟨-, hends, -, hmore⟩ := h
    cases more with
    | nil =>
      rintro e' ⟨⟩
      exact hends
    | cons e₁ more =>
      rw [List.getLast?_cons_cons]
      exact ih hmore

theorem valid_of_mem_read {t : Text} {e : Text × Statement} (h : e ∈ (read t).entries) :
    e.2.Valid :=
  (started_read t).1.valid e h

/-- Nothing that follows the last statement is one. -/
theorem afterLine_rest (t : Text) (hne : (read t).entries ≠ []) :
    afterLine (read t).rest = ⟨[], (read t).rest⟩ := by
  have hread := read_exchange rfl hne
    (List.forall₂_same.mpr fun e he => Exchange.refl (valid_of_mem_read he))
    (started_read t).1.ends_getLast
  rw [← text_mk, show (Outline.mk (read t).entries (read t).rest).text = t from text_read t]
    at hread
  have hentries : (afterLine (read t).rest).entries = [] :=
    List.append_right_eq_self.mp (congrArg Outline.entries hread).symm
  have htext := text_afterLine (read t).rest
  cases hafter : afterLine (read t).rest with
  | mk es r =>
    rw [hafter] at hentries htext
    obtain rfl : es = [] := hentries
    rw [← htext]
    simp [text]

theorem getElem?_of_forall₂ {es' es : List (Text × Statement)} (h : List.Forall₂ Exchange es' es)
    {j : Nat} {e' : Text × Statement} (he : es'[j]? = some e') : ∃ e ∈ es[j]?, Exchange e' e := by
  obtain ⟨hj, rfl⟩ := List.getElem?_eq_some_iff.mp he
  have hj' : j < es.length := h.length_eq ▸ hj
  exact ⟨es[j], List.getElem?_eq_getElem hj', h.get hj hj'⟩

/-- The outline of a text with another statement in the place of one. -/
theorem read_text_set {t : Text} {i : Nat} {e e' : Text × Statement}
    (he : (read t).entries[i]? = some e) (hex : Exchange e' e) :
    read ((read t).set i e').text = (read t).set i e' := by
  have hlinked := (started_read t).1
  have hne : (read t).entries ≠ [] := by
    rintro hnil
    rw [hnil] at he
    cases he
  -- The entries are exchanged one by one, all but one of them for themselves.
  have hall : List.Forall₂ Exchange ((read t).entries.set i e') (read t).entries := by
    refine List.forall₂_iff_get.mpr ⟨by simp, fun j hj hj' => ?_⟩
    rw [List.get_eq_getElem, List.get_eq_getElem, List.getElem_set]
    split
    · rename_i hij
      subst hij
      obtain ⟨_, rfl⟩ := List.getElem?_eq_some_iff.mp he
      exact hex
    · exact Exchange.refl (hlinked.valid _ (List.getElem_mem _))
  have hlast : ∀ x ∈ ((read t).entries.set i e').getLast?, x.2.Ends (read t).rest := by
    intro x hx
    obtain ⟨y, hy, hxy⟩ : ∃ y ∈ (read t).entries.getLast?, Exchange x y := by
      rw [List.getLast?_eq_getElem?, List.length_set] at hx
      rw [List.getLast?_eq_getElem?]
      exact getElem?_of_forall₂ hall hx
    have hends := hlinked.ends_getLast y hy
    simpa only [Ends, hxy.semicolon] using hends
  have hread := read_exchange rfl hne hall hlast
  rw [afterLine_rest t hne] at hread
  simpa [set, text_mk, after] using hread

end DesignTokens.Import.Outline
