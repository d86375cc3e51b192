import DesignTokens.Text.Search
import Mathlib.Data.List.Basic

/-! # The places of hits

A text that is cut into hits and what lies between them is still the whole text. Every hit is what
the probe accepts at its place, and a probe answers only at places that a hit touches; a place where
it accepts a character lies in a hit. The bound on the number of rounds is never reached.

## Main definitions

* `Text.flat` - the text of parts
* `Text.answers` - whether a probe answers at a place
* `Text.TouchesHit` - whether a place touches a hit, or the next character lies in it

## Main results

* `Text.flat_hits` - the parts of a text are the text
* `Text.probe_of_hits` - a hit is what the probe accepts at its place
* `Text.touches_of_probe` - where a probe answers a hit lies
* `Text.exists_answers_of_hit` - a text with a hit has a place where the probe answers
-/

namespace DesignTokens.Text

variable {α β γ : Type}

/-- The text of parts. -/
def flat (parts : List (Part β α)) : List β :=
  parts.flatMap Part.text

@[simp] theorem flat_nil : flat ([] : List (Part β α)) = [] := rfl

@[simp] theorem flat_cons (part : Part β α) (parts : List (Part β α)) :
    flat (part :: parts) = part.text ++ flat parts := rfl

@[simp] theorem flat_append (as bs : List (Part β α)) : flat (as ++ bs) = flat as ++ flat bs :=
  List.flatMap_append

@[simp] theorem text_kept (t : List β) : (Part.kept t : Part β α).text = t := rfl

@[simp] theorem text_hit (t : List β) (value : α) : (Part.hit t value).text = t := rfl

theorem flat_map (f : β → γ) (parts : List (Part β α)) :
    flat (parts.map (·.map f)) = (flat parts).map f := by
  induction parts with
  | nil => rfl
  | cons part parts ih =>
    rw [List.map_cons, flat_cons, flat_cons, ih, List.map_append]
    cases part <;> rfl

/-- Whether a probe answers at the place in front of `y`, in a text that starts with `x` and follows
`before`. -/
def answers (probe : Probe β α) (before : Option β) (x y : List β) : Prop :=
  (probe (x.getLast?.or before) y).isSome = true

/-- The place after `n` elements touches a hit: it lies in the hit or at an end of it. Where `taken`
is not zero, it does not lie at the second end. -/
def TouchesHit (parts : List (Part β α)) (n taken : Nat) : Prop :=
  ∃ front found value back, parts = front ++ .hit found value :: back ∧
    (flat front).length ≤ n ∧ n + min taken 1 ≤ (flat front).length + found.length

section

variable {probe : Probe β α} {before : Option β} {t x y : List β}

theorem getLast?_cons_or {c : β} : (c :: x).getLast?.or before = x.getLast?.or (some c) := by
  rw [List.getLast?_cons]
  cases x.getLast? <;> rfl

theorem getLast?_append_or {z : List β} :
    (x ++ z).getLast?.or before = z.getLast?.or (x.getLast?.or before) := by
  rw [List.getLast?_append, Option.or_assoc]

theorem answers_cons {c : β} : answers probe before (c :: x) y ↔ answers probe (some c) x y := by
  rw [answers, answers, getLast?_cons_or]

/-! ### The first hit -/

theorem findFrom_eq_none (h : findFrom probe before t = none) (heq : t = x ++ y) :
    ¬ answers probe before x y := by
  induction t generalizing before x with
  | nil =>
    obtain ⟨rfl, rfl⟩ : x = [] ∧ y = [] := by simpa [eq_comm] using heq
    rw [findFrom] at h
    intro hanswers
    cases hprobe : probe before [] with
    | none => simp [answers, hprobe] at hanswers
    | some p => simp [hprobe] at h
  | cons c t ih =>
    rw [findFrom] at h
    cases hprobe : probe before (c :: t) with
    | some p => simp [hprobe] at h
    | none =>
      simp only [hprobe, Option.map_eq_none_iff] at h
      cases x with
      | nil =>
        rw [List.nil_append] at heq
        subst heq
        simp [answers, hprobe]
      | cons d x =>
        obtain ⟨rfl, htail⟩ := List.cons.inj heq
        rw [answers_cons]
        exact ih h htail

/-- The first hit: the probe accepts it there and answers nowhere before. -/
theorem findFrom_eq_some {hit : Hit β α} (h : findFrom probe before t = some hit) :
    t = hit.lead ++ (hit.found ++ hit.rest) ∧
      (∃ n, probe (hit.lead.getLast?.or before) (hit.found ++ hit.rest) = some (n, hit.value) ∧
        hit.found = (hit.found ++ hit.rest).take n) ∧
      ∀ x y, t = x ++ y → x.length < hit.lead.length → ¬ answers probe before x y := by
  induction t generalizing before hit with
  | nil =>
    rw [findFrom] at h
    cases hprobe : probe before [] with
    | none => simp [hprobe] at h
    | some p =>
      simp only [hprobe, Option.some.injEq] at h
      subst h
      exact ⟨by simp, ⟨p.1, by simp [hprobe], by simp⟩, by simp⟩
  | cons c t ih =>
    rw [findFrom] at h
    cases hprobe : probe before (c :: t) with
    | some p =>
      simp only [hprobe, Option.some.injEq] at h
      subst h
      exact ⟨by simp, ⟨p.1, by simp [hprobe], by simp⟩, by simp⟩
    | none =>
      simp only [hprobe, Option.map_eq_some_iff] at h
      obtain ⟨hit', hfind, rfl⟩ := h
      obtain ⟨htext, haccepts, hbefore⟩ := ih hfind
      refine ⟨by simp [← htext], by rwa [getLast?_cons_or], ?_⟩
      -- At the first character the probe does not answer, and further on the search goes on.
      intro x y heq hlt
      cases x with
      | nil =>
        rw [List.nil_append] at heq
        subst heq
        simp [answers, hprobe]
      | cons d x =>
        obtain ⟨rfl, htail⟩ := List.cons.inj heq
        rw [answers_cons]
        exact hbefore x y htail (by simpa using hlt)

/-! ### All hits -/

theorem hitsFrom_succ (rounds : Nat) (justHit : Bool) (before : Option β) (t : List β) :
    hitsFrom probe (rounds + 1) justHit before t =
      match findFrom probe before t with
      | none => [.kept t]
      | some hit =>
        if justHit && hit.lead.isEmpty && hit.found.isEmpty then
          match t with
          | [] => []
          | c :: rest => .kept [c] :: hitsFrom probe rounds false (some c) rest
        else
          .kept hit.lead :: .hit hit.found hit.value ::
            hitsFrom probe rounds true ((hit.lead ++ hit.found).getLast?.or before) hit.rest := by
  cases t <;> rfl

theorem flat_hitsFrom (rounds : Nat) (justHit : Bool) (before : Option β) (t : List β) :
    flat (hitsFrom probe rounds justHit before t) = t := by
  induction rounds generalizing justHit before t with
  | zero => simp [hitsFrom]
  | succ rounds ih =>
    rw [hitsFrom_succ]
    split
    · simp
    · rename_i hit hfind
      split
      · split
        · rfl
        · simp [ih]
      · simp [ih, (findFrom_eq_some hfind).1]

/-- The parts of a text are the text. -/
theorem flat_hits (t : List β) : flat (hits probe t) = t :=
  flat_hitsFrom _ _ _ _

theorem TouchesHit.weaken {parts : List (Part β α)} {n taken taken' : Nat}
    (h : TouchesHit parts n taken) (hle : min taken' 1 ≤ min taken 1) :
    TouchesHit parts n taken' := by
  obtain ⟨front, found, value, back, heq, hle', hge⟩ := h
  exact ⟨front, found, value, back, heq, hle', by omega⟩

theorem TouchesHit.cons (part : Part β α) {parts : List (Part β α)} {n taken : Nat}
    (h : TouchesHit parts n taken) : TouchesHit (part :: parts) (part.text.length + n) taken := by
  obtain ⟨front, found, value, back, rfl, hle, hge⟩ := h
  refine ⟨part :: front, found, value, back, rfl, ?_, ?_⟩ <;>
    rw [flat_cons, List.length_append] <;> omega

/-- A text that was cut in two goes on behind a beginning that is no longer than its first part. -/
theorem exists_beyond {a b : List β} (h : x ++ y = a ++ b) (hle : a.length ≤ x.length) :
    ∃ z, x = a ++ z ∧ b = z ++ y := by
  obtain ⟨z, rfl⟩ := List.prefix_of_prefix_length_le ⟨b, rfl⟩ ⟨y, h⟩ hle
  rw [List.append_assoc] at h
  exact ⟨z, rfl, (List.append_cancel_left h).symm⟩

/-- What the probe accepts at the place of the first hit is the hit. -/
theorem length_take_of_lead {hit : Hit β α} {p : Nat × α}
    (hfind : findFrom probe before (x ++ y) = some hit)
    (h : probe (x.getLast?.or before) y = some p) (hx : x = hit.lead) :
    (y.take p.1).length = hit.found.length := by
  obtain ⟨htext, ⟨n, haccepts, hfound⟩, -⟩ := findFrom_eq_some hfind
  subst hx
  obtain rfl : y = hit.found ++ hit.rest := List.append_cancel_left htext
  obtain rfl := Option.some.inj (h.symm.trans haccepts)
  rw [← hfound]

/-- A hit that is not passed over leaves rounds enough for what follows it. -/
theorem rounds_of_not_skipped {hit : Hit β α} {rounds : Nat} {justHit : Bool}
    (hfind : findFrom probe before t = some hit)
    (hrounds : 2 * t.length + (if justHit then 1 else 2) ≤ rounds + 1)
    (hskip : ¬ (justHit && hit.lead.isEmpty && hit.found.isEmpty) = true) :
    2 * hit.rest.length + 1 ≤ rounds := by
  have hsplit := congrArg List.length (findFrom_eq_some hfind).1
  simp only [List.length_append] at hsplit
  cases justHit with
  | false =>
    simp only [Bool.false_eq_true, if_false] at hrounds
    omega
  | true =>
    -- A hit right after a hit is not empty, so a character is taken.
    have htaken : 0 < hit.lead.length + hit.found.length := by
      by_contra hzero
      have hlead : hit.lead = [] := List.eq_nil_of_length_eq_zero (by omega)
      have hfound : hit.found = [] := List.eq_nil_of_length_eq_zero (by omega)
      simp [hlead, hfound] at hskip
    simp only [if_true] at hrounds
    omega

/-- Where a probe answers a hit lies, or else one has just ended and the probe accepts no character.
The rounds suffice: two are used for a character at most, and none is needed for the hit that has
just ended. -/
theorem touches_of_probe_hitsFrom {rounds : Nat} {justHit : Bool} {p : Nat × α}
    (hrounds : 2 * t.length + (if justHit then 1 else 2) ≤ rounds) (heq : t = x ++ y)
    (h : probe (x.getLast?.or before) y = some p) :
    TouchesHit (hitsFrom probe rounds justHit before t) x.length (y.take p.1).length ∨
      x = [] ∧ justHit = true ∧ y.take p.1 = [] := by
  have hanswers : answers probe before x y := by
    rw [answers, h]
    rfl
  induction rounds generalizing justHit before t x with
  | zero => split at hrounds <;> omega
  | succ rounds ih =>
    rw [hitsFrom_succ]
    cases hfind : findFrom probe before t with
    | none => exact absurd hanswers (findFrom_eq_none hfind heq)
    | some hit =>
      have hsame : x = hit.lead → (y.take p.1).length = hit.found.length :=
        length_take_of_lead (heq ▸ hfind) h
      simp only
      split
      · -- The hit is passed over: it is empty, and the place is that of the hit or comes later.
        rename_i hskip
        simp only [Bool.and_eq_true, List.isEmpty_iff] at hskip
        obtain ⟨⟨rfl, hlead⟩, hnil⟩ := hskip
        cases x with
        | nil =>
          refine .inr ⟨rfl, rfl, List.eq_nil_of_length_eq_zero ?_⟩
          rw [hsame hlead.symm, hnil]
          rfl
        | cons c x =>
          subst heq
          have hlength : 2 * (x ++ y).length + 2 ≤ rounds := by
            simp only [List.cons_append, List.length_cons, if_true] at hrounds
            omega
          rw [getLast?_cons_or] at h
          have hnext : TouchesHit (hitsFrom probe rounds false (some c) (x ++ y)) x.length _ ∨
              x = [] ∧ false = true ∧ _ := ih hlength rfl h (answers_cons.mp hanswers)
          rcases hnext with htouch | ⟨-, hfalse, -⟩
          · left
            simpa [Nat.add_comm] using htouch.cons (.kept [c])
          · cases hfalse
      · rename_i hskip
        left
        obtain ⟨htext, -, hbefore⟩ := findFrom_eq_some hfind
        rcases Nat.lt_or_ge x.length hit.lead.length with hlt | hge
        · exact absurd hanswers (hbefore x y heq hlt)
        · by_cases hin : x.length + min (y.take p.1).length 1 ≤ hit.lead.length + hit.found.length
          · exact ⟨[.kept hit.lead], hit.found, hit.value, _, rfl, by simpa using hge,
              by simpa using hin⟩
          · -- The place lies beyond this hit, in what is searched next.
            obtain ⟨z, rfl, hrest⟩ : ∃ z, x = hit.lead ++ hit.found ++ z ∧ hit.rest = z ++ y := by
              rw [← List.append_assoc, heq] at htext
              exact exists_beyond htext (by rw [List.length_append]; omega)
            have hlength : 2 * hit.rest.length + 1 ≤ rounds :=
              rounds_of_not_skipped hfind hrounds hskip
            rw [getLast?_append_or] at h
            have hnext : TouchesHit (hitsFrom probe rounds true
                ((hit.lead ++ hit.found).getLast?.or before) hit.rest) z.length _ ∨
                z = [] ∧ true = true ∧ _ := ih hlength hrest h (by rw [answers, h]; rfl)
            rcases hnext with htouch | ⟨rfl, -, hnil⟩
            · simpa [Nat.add_assoc] using
                (htouch.cons (.hit hit.found hit.value)).cons (.kept hit.lead)
            · simp [hnil] at hin

/-- Where a probe answers a hit lies, which has the next character if the probe accepts it. -/
theorem touches_of_probe {p : Nat × α} (heq : t = x ++ y) (h : probe x.getLast? y = some p) :
    TouchesHit (hits probe t) x.length (y.take p.1).length := by
  rw [← Option.or_none (o := x.getLast?)] at h
  have htouches : TouchesHit (hits probe t) x.length (y.take p.1).length ∨
      x = [] ∧ false = true ∧ y.take p.1 = [] :=
    touches_of_probe_hitsFrom (Nat.le_refl _) heq h
  rcases htouches with htouch | ⟨-, hfalse, -⟩
  · exact htouch
  · cases hfalse

theorem probe_of_hitsFrom {rounds : Nat} {justHit : Bool} {front back : List (Part β α)}
    {found : List β} {value : α}
    (h : hitsFrom probe rounds justHit before t = front ++ .hit found value :: back) :
    ∃ n, probe ((flat front).getLast?.or before) (found ++ flat back) = some (n, value) ∧
      found = (found ++ flat back).take n := by
  have hkept : ∀ front u, [.kept u] ≠ front ++ .hit found value :: back := by
    intro front u heq
    cases front <;> simp at heq
  induction rounds generalizing justHit before t front with
  | zero => exact absurd h (hkept front t)
  | succ rounds ih =>
    rw [hitsFrom_succ] at h
    cases hfind : findFrom probe before t with
    | none =>
      rw [hfind] at h
      exact absurd h (hkept front t)
    | some hit =>
      obtain ⟨-, haccepts, -⟩ := findFrom_eq_some hfind
      simp only [hfind] at h
      split at h
      · -- A hit is passed over: the character in its place is kept, and the search goes on behind
        -- it.
        cases t with
        | nil => simp at h
        | cons c t =>
          cases front with
          | nil => cases h
          | cons first front =>
            obtain ⟨rfl, hrest⟩ := List.cons.inj h
            have hnext := ih hrest
            rwa [← getLast?_cons_or] at hnext
      · cases front with
        | nil => cases h
        | cons first front =>
          obtain ⟨rfl, hrest⟩ := List.cons.inj h
          -- The hit asked for is this one, or it is found later.
          cases front with
          | nil =>
            obtain ⟨hhit, rfl⟩ := List.cons.inj hrest
            cases hhit
            rw [flat_hitsFrom, flat_cons, flat_nil, text_kept, List.append_nil]
            exact haccepts
          | cons second front =>
            obtain ⟨rfl, hmore⟩ := List.cons.inj hrest
            have hnext := ih hmore
            rwa [← getLast?_append_or, List.append_assoc] at hnext

/-- A hit is what the probe accepts at its place. -/
theorem probe_of_hits {front back : List (Part β α)} {found : List β} {value : α}
    (h : hits probe t = front ++ .hit found value :: back) :
    ∃ n, probe (flat front).getLast? (found ++ flat back) = some (n, value) ∧
      found = (found ++ flat back).take n := by
  have hprobe := probe_of_hitsFrom h
  rwa [Option.or_none] at hprobe

/-- A text with a hit has a place where the probe answers. -/
theorem exists_answers_of_hit (h : (hits probe t).any Part.isHit = true) :
    ∃ x y, t = x ++ y ∧ answers probe none x y := by
  obtain ⟨part, hpart, hhit⟩ := List.any_eq_true.mp h
  cases part with
  | kept t => cases hhit
  | hit found value =>
    obtain ⟨front, back, heq⟩ := List.append_of_mem hpart
    obtain ⟨n, hprobe, -⟩ := probe_of_hits heq
    refine ⟨flat front, found ++ flat back, ?_, ?_⟩
    · have htext : flat (hits probe t) = t := flat_hits t
      rw [← htext, heq, flat_append, flat_cons, text_hit]
    · rw [answers, Option.or_none, hprobe]
      rfl

end

end DesignTokens.Text
