import DesignTokens.Proofs.Import.Starts

/-! # Places of statements

The statements of a text stand one behind the other, each on lines of its own: a line feed comes
between a statement and the next, since a statement starts a line and ends within one. What is said
of a statement in bytes is said of characters, as the parts of a text are made of whole characters.
No statement is passed over but those that another one takes in.

## Main definitions

* `Import.Span.Covers` - a span is the place of a part of a text
* `Import.WellPlaced` - what the places of a statement, its clause and its module have in common
* `Import.Precedes` - a statement stands in front of another, on lines above it

## Main results

* `Import.pairwise_precedes` - the statements of a text are in order
* `Import.exists_mem_statements_of_read?` - a statement is found unless another one takes it in
* `Import.wellPlaced_statements` - the places of the statements of a text
-/

namespace DesignTokens.Import

open Character Text

/-- A span is the place of a part of a text. Both its ends lie between characters. -/
def Span.Covers (span : Span) (content part : Text) : Prop :=
  ∃ before after, content = before ++ (part ++ after) ∧ span.start = byteSize before ∧
    span.stop = byteSize before + byteSize part

/-- A span lies strictly inside another. -/
def Span.Inside (inner outer : Span) : Prop :=
  outer.start < inner.start ∧ inner.stop < outer.stop

/-- An offset is the start of a text or comes right behind a line feed. -/
def StartsLine (content : Text) (offset : Nat) : Prop :=
  ∃ before after, content = before ++ after ∧ offset = byteSize before ∧ WholeLines before

/-- The places of a statement, its clause and its module in a text. -/
structure WellPlaced (content : Text) (p : Placed) : Prop where
  covers : p.span.Covers content p.statement.text
  nonempty : p.span.start < p.span.stop
  within : p.span.stop ≤ byteSize content
  line : StartsLine content p.span.start
  /-- The clause has neither quotes nor semicolons, and the word `from` follows it. -/
  clause : ∀ span ∈ p.clauseSpan, span.Inside p.span ∧
    (∃ clause ∈ p.statement.clause, span.Covers content clause ∧
      ∀ c ∈ clause, c ≠ '\'' ∧ c ≠ '"' ∧ c ≠ ';') ∧
    ∃ stop, Span.Inside ⟨span.stop, stop⟩ p.span ∧ Span.Covers ⟨span.stop, stop⟩ content fromWord
  /-- The name of the module is not empty and has neither quotes nor line feeds. -/
  module : p.statement.module ≠ [] ∧
    (∀ c ∈ p.statement.module, c ≠ '\'' ∧ c ≠ '"' ∧ c ≠ '\n') ∧
    ∃ span : Span, span.Inside p.span ∧ span.Covers content p.statement.module
  typeOnly : p.statement.isTypeOnly = true → p.clauseSpan.isSome = true

/-- A statement stands in front of another: they have no byte in common and start on different
lines. -/
structure Precedes (content : Text) (p q : Placed) : Prop where
  start : p.span.start < q.span.start
  stop : p.span.stop ≤ q.span.start
  line : lineAt content p.span.start < lineAt content q.span.start

section

variable {content before t rest : Text} {s : Statement} {p q : Placed}

/-! ### One statement -/

theorem byteSize_text_pos (s : Statement) : 0 < byteSize s.text :=
  byteSize_pos s.text_ne_nil

theorem valid_of_mem_statements (h : p ∈ statements content) : p.statement.Valid := by
  obtain ⟨e, he, heq⟩ := mem_entries_of_mem_statements h
  rw [← heq]
  exact Outline.valid_of_mem_read he

theorem wholeLines_of_mem_statements (h : p ∈ statements content) : WholeLines p.before := by
  obtain ⟨front, back, lead, hentries, hbefore, -⟩ := exists_entries_of_mem_statements h
  rw [hbefore]
  exact wholeLines_of_entries hentries

/-- The line of a statement is counted by the line feeds in front of it. -/
theorem lineAt_start (h : p ∈ statements content) :
    lineAt content p.span.start = lineFeeds p.before + 1 := by
  rw [lineAt, Placed.span, ← text_of_mem_statements h, takeBytes_append]

theorem Span.Covers.stop_le {span : Span} {part : Text} (h : span.Covers content part) :
    span.stop ≤ byteSize content := by
  obtain ⟨before, after, rfl, -, hstop⟩ := h
  rw [hstop, byteSize_append, byteSize_append]
  omega

/-- What stands in the middle of a part of a text has its place inside that of the part. -/
theorem Span.Covers.middle {span : Span} {a b c : Text} (h : span.Covers content (a ++ (b ++ c)))
    (ha : a ≠ []) (hc : c ≠ []) {start stop : Nat} (hstart : start = span.start + byteSize a)
    (hstop : stop = start + byteSize b) :
    Span.Inside ⟨start, stop⟩ span ∧ Span.Covers ⟨start, stop⟩ content b := by
  obtain ⟨before, after, hcontent, hfirst, hlast⟩ := h
  have hapos := byteSize_pos ha
  have hcpos := byteSize_pos hc
  simp only [byteSize_append] at hlast
  refine ⟨⟨?_, ?_⟩, before ++ a, c ++ after, ?_, ?_, ?_⟩
  · dsimp only
    omega
  · dsimp only
    omega
  · rw [hcontent]
    simp only [List.append_assoc]
  · rw [byteSize_append]
    dsimp only
    omega
  · rw [byteSize_append]
    dsimp only
    omega

theorem covers_of_mem_statements (h : p ∈ statements content) :
    p.span.Covers content p.statement.text :=
  ⟨p.before, p.after, (text_of_mem_statements h).symm, rfl, rfl⟩

/-- A clause stands within its statement, in front of the word `from`. -/
theorem clause_inside (h : p ∈ statements content) {clause : Text}
    (hclause : p.statement.clause = some clause) {span : Span} (hspan : p.clauseSpan = some span) :
    (span.Inside p.span ∧ span.Covers content clause) ∧
      ∃ stop, Span.Inside ⟨span.stop, stop⟩ p.span ∧
        Span.Covers ⟨span.stop, stop⟩ content fromWord := by
  have htext : p.statement.text =
      (p.statement.indent ++ importWord) ++ (clause ++ (fromWord ++ p.statement.tail)) := by
    simp [Statement.text, Statement.clauseText, hclause]
  have htext' : p.statement.text =
      (p.statement.indent ++ (importWord ++ clause)) ++ (fromWord ++ p.statement.tail) := by
    rw [htext]
    simp only [List.append_assoc]
  have hcovers := covers_of_mem_statements h
  have htail : p.statement.tail ≠ [] := by simp [Statement.tail]
  rw [Placed.clauseSpan, hclause, Option.map_some, Option.some.injEq] at hspan
  subst hspan
  refine ⟨?_, _, Span.Covers.middle (htext' ▸ hcovers) (by simp [importWord]) htail ?_ rfl⟩
  · apply Span.Covers.middle (htext ▸ hcovers) (by simp [importWord]) (by simp [fromWord]) _ rfl
    simp only [Placed.span, byteSize_append]
    omega
  · simp only [Placed.span, byteSize_append]
    omega

/-- The name of a module stands within its statement. -/
theorem module_inside (h : p ∈ statements content) :
    ∃ span : Span, span.Inside p.span ∧ span.Covers content p.statement.module := by
  have htext : p.statement.text = (p.statement.indent ++ (importWord ++
      (Statement.clauseText p.statement.clause ++ (p.statement.gap ++ [p.statement.quote])))) ++
        (p.statement.module ++ p.statement.closing ::
          (p.statement.trail ++ if p.statement.semicolon then [';'] else [])) := by
    simp [Statement.text, Statement.tail]
  exact ⟨_, Span.Covers.middle (htext ▸ covers_of_mem_statements h) (by simp) (by simp) rfl rfl⟩

theorem wellPlaced_of_mem_statements (h : p ∈ statements content) : WellPlaced content p where
  covers := covers_of_mem_statements h
  nonempty := Nat.lt_add_of_pos_right (byteSize_text_pos p.statement)
  within := (covers_of_mem_statements h).stop_le
  line := ⟨p.before, p.statement.text ++ p.after, (text_of_mem_statements h).symm, rfl,
    wholeLines_of_mem_statements h⟩
  clause := by
    intro span hspan
    obtain ⟨clause, hclause, -⟩ := Option.map_eq_some_iff.mp hspan
    obtain ⟨⟨hinside, hcovers⟩, hfrom⟩ := clause_inside h hclause hspan
    have hvalid := (valid_of_mem_statements h).clause clause hclause
    exact ⟨hinside, ⟨clause, hclause, hcovers,
      fun c hc => Statement.endsClause_eq_false_iff.mp (hvalid c hc)⟩, hfrom⟩
  module := by
    have hvalid := valid_of_mem_statements h
    refine ⟨hvalid.module_ne_nil, ?_, module_inside h⟩
    intro c hc
    have hends := hvalid.module c hc
    simpa [endsModule, isQuote, and_assoc] using hends
  typeOnly := by
    intro htype
    rw [Statement.isTypeOnly] at htype
    rw [Placed.clauseSpan, Option.isSome_map]
    exact Option.isSome_of_any htype

/-! ### One statement behind another -/

/-- Behind entries that end with a line feed in front of the next, every statement comes after a
line feed. -/
theorem exists_newline_of_mem_placeFrom {entries : List (Text × Statement)}
    (hlinked : Outline.Linked entries rest) (hfirst : ∀ e ∈ entries.head?, e.1.getLast? = some '\n')
    (h : q ∈ (placeFrom before rest entries).1) : ∃ gap, q.before = before ++ gap ∧ '\n' ∈ gap := by
  induction entries generalizing before with
  | nil => cases h
  | cons entry more ih =>
    obtain ⟨lead, s⟩ := entry
    have hlead : '\n' ∈ lead := List.mem_of_getLast? (hfirst (lead, s) rfl)
    obtain ⟨-, -, hnext, hmore⟩ := hlinked
    rw [placeFrom] at h
    rcases List.mem_cons.mp h with rfl | h
    · exact ⟨lead, rfl, hlead⟩
    · obtain ⟨gap, hgap, -⟩ := ih hmore hnext h
      exact ⟨lead ++ (s.text ++ gap), by simp [hgap], by simp [hlead]⟩

/-- Between two statements there is a line feed. -/
theorem pairwise_placeFrom {entries : List (Text × Statement)}
    (hlinked : Outline.Linked entries rest) : (placeFrom before rest entries).1.Pairwise
      fun p q => ∃ gap, q.before = p.before ++ (p.statement.text ++ gap) ∧ '\n' ∈ gap := by
  induction entries generalizing before with
  | nil => exact List.Pairwise.nil
  | cons entry more ih =>
    obtain ⟨lead, s⟩ := entry
    obtain ⟨-, -, hnext, hmore⟩ := hlinked
    rw [placeFrom]
    apply List.pairwise_cons.mpr
    refine ⟨?_, ih hmore⟩
    intro q hq
    obtain ⟨gap, hgap, hnewline⟩ := exists_newline_of_mem_placeFrom hmore hnext hq
    exact ⟨gap, by simp [hgap], hnewline⟩

/-- The statements of a text are in order. -/
theorem pairwise_precedes (content : Text) : (statements content).Pairwise (Precedes content) := by
  have hpairs : (statements content).Pairwise
      fun p q => ∃ gap, q.before = p.before ++ (p.statement.text ++ gap) ∧ '\n' ∈ gap :=
    pairwise_placeFrom (Outline.started_read content).1
  refine hpairs.imp_of_mem ?_
  rintro p q hp hq ⟨gap, hgap, hnewline⟩
  have hsize : byteSize q.before =
      byteSize p.before + (byteSize p.statement.text + byteSize gap) := by
    rw [hgap, byteSize_append, byteSize_append]
  have hpos := byteSize_text_pos p.statement
  -- The gap between two statements has a line feed, which sets their lines apart.
  have hfeeds : 0 < lineFeeds gap := List.count_pos_iff.mpr hnewline
  refine ⟨?_, ?_, ?_⟩
  · simp only [Placed.span]
    omega
  · simp only [Placed.span]
    omega
  · rw [lineAt_start hp, lineAt_start hq, hgap]
    simp only [lineFeeds, List.count_append] at hfeeds ⊢
    omega

/-! ### No statement is passed over -/

/-- Entries that say where a statement at a place is: it is one of them, or it starts within one. -/
def Finds (entries : List (Text × Statement)) (before : Text) (s : Statement) : Prop :=
  ∃ front lead t back, entries = front ++ (lead, t) :: back ∧
    (before = Outline.flat front ++ lead ∧ t = s ∨
      ∃ u v, u ≠ [] ∧ v ≠ [] ∧ t.text = u ++ v ∧ before = Outline.flat front ++ lead ++ u)

theorem Finds.prepend {o : Outline} (h : Finds o.entries before s) (line : Text) :
    Finds (o.prepend line).entries (line ++ before) s := by
  obtain ⟨front, lead, t, back, hentries, hfound⟩ := h
  have hmore : ∃ front' lead', (o.prepend line).entries = front' ++ (lead', t) :: back ∧
      Outline.flat front' ++ lead' = line ++ (Outline.flat front ++ lead) := by
    rw [Outline.prepend, hentries]
    cases front with
    | nil => exact ⟨[], line ++ lead, rfl, rfl⟩
    | cons entry front => exact ⟨(line ++ entry.1, entry.2) :: front, lead, rfl, by simp⟩
  obtain ⟨front', lead', hentries', hflat⟩ := hmore
  refine ⟨front', lead', t, back, hentries', ?_⟩
  rcases hfound with ⟨rfl, hs⟩ | ⟨u, v, hu, hv, htext, rfl⟩
  · exact .inl ⟨hflat.symm, hs⟩
  · exact .inr ⟨u, v, hu, hv, htext, by rw [hflat, List.append_assoc line]⟩

theorem Finds.push {o : Outline} (h : Finds o.entries before s) (r : Statement) :
    Finds (o.push r).entries (r.text ++ before) s := by
  obtain ⟨front, lead, t, back, hentries, hfound⟩ := h
  refine ⟨([], r) :: front, lead, t, back, by rw [Outline.push, hentries, List.cons_append], ?_⟩
  rcases hfound with ⟨rfl, hs⟩ | ⟨u, v, hu, hv, htext, rfl⟩
  · exact .inl ⟨by simp, hs⟩
  · exact .inr ⟨u, v, hu, hv, htext, by simp⟩

/-- Behind the first line feed reading goes on as in the text there. -/
theorem finds_afterLine (hne : before ≠ []) (hlines : WholeLines before)
    (h : ∀ line more, before = line ++ '\n' :: more →
      Finds (Outline.read (more ++ t)).entries more s) :
    Finds (Outline.afterLine (before ++ t)).entries before s := by
  have hmem : '\n' ∈ before := List.mem_of_getLast? (hlines.resolve_left hne)
  obtain ⟨line, more, rfl, hline⟩ := List.eq_append_cons_of_mem hmem
  have hfinds := (h line more rfl).prepend (line ++ ['\n'])
  rw [List.append_assoc, List.cons_append, Outline.afterLine_append hline,
    Outline.afterLine_newline, Outline.prepend_prepend]
  simpa using hfinds

/-- Reading a text finds the statements at the start of each of its lines. -/
theorem finds_read (hlines : WholeLines before) (hread : Statement.read? t = some (s, rest)) :
    Finds (Outline.read (before ++ t)).entries before s := by
  generalize hcontent : before ++ t = content
  induction content using Outline.read_induction generalizing before with
  | step content hline hstmt =>
    subst hcontent
    by_cases hne : before = []
    · subst hne
      rw [List.nil_append, Outline.read_of_read?_eq_some hread]
      exact ⟨[], [], s, (Outline.afterLine rest).entries, rfl, .inl ⟨rfl, rfl⟩⟩
    cases hfirst : Statement.read? (before ++ t) with
    | none =>
      rw [Outline.read_of_read?_eq_none hfirst]
      refine finds_afterLine hne hlines ?_
      rintro line more rfl
      exact hline line (more ++ t) (by simp) hlines.rest rfl
    | some result =>
      obtain ⟨r, after⟩ := result
      obtain ⟨htext, hvalid, -⟩ := Statement.read?_eq_some_iff.mp hfirst
      rw [Outline.read_of_read?_eq_some hfirst]
      rcases List.append_eq_append_iff.mp htext with ⟨v, hv, -⟩ | ⟨more, hmore, hafter⟩
      · -- The place is within the statement that the text starts with, whose last character is no
        -- line feed.
        refine ⟨[], [], r, (Outline.afterLine after).entries, rfl,
          .inr ⟨before, v, hne, ?_, hv, rfl⟩⟩
        rintro rfl
        apply hvalid.getLast?_text_ne (c := '\n') (by decide)
        rw [hv, List.append_nil]
        exact hlines.resolve_left hne
      · -- The place is behind it, and behind a line feed there.
        have hmoreNe : more ≠ [] := by
          rintro rfl
          apply hvalid.getLast?_text_ne (c := '\n') (by decide)
          rw [← List.append_nil r.text, ← hmore]
          exact hlines.resolve_left hne
        have hmoreLines : WholeLines more := by
          have hlast := hlines.resolve_left hne
          rw [hmore, List.getLast?_append_of_ne_nil _ hmoreNe] at hlast
          exact .inr hlast
        rw [hmore]
        refine Finds.push ?_ r
        rw [hafter]
        refine finds_afterLine hmoreNe hmoreLines ?_
        rintro line below rfl
        refine hstmt r line (below ++ t) ?_ hmoreLines.rest rfl
        rw [hfirst, hafter]
        simp

/-- At the start of a line a statement is found, or the place is within another one. -/
theorem exists_mem_statements_of_read? (hcontent : content = before ++ t)
    (hlines : WholeLines before) (hread : Statement.read? t = some (s, rest)) :
    ∃ p ∈ statements content, p.before = before ∧ p.statement = s ∨
      p.span.start < byteSize before ∧ byteSize before < p.span.stop := by
  have hfinds := finds_read hlines hread
  rw [← hcontent] at hfinds
  obtain ⟨front, lead, r, back, hentries, hfound⟩ := hfinds
  refine ⟨_, List.mem_of_getElem? (getElem?_statements front lead r hentries), ?_⟩
  rcases hfound with ⟨rfl, rfl⟩ | ⟨u, v, hu, hv, htext, rfl⟩
  · exact .inl ⟨rfl, rfl⟩
  · have hupos := byteSize_pos hu
    have hvpos := byteSize_pos hv
    refine .inr ⟨?_, ?_⟩
    · simp only [Placed.span, byteSize_append]
      omega
    · simp only [Placed.span, htext, byteSize_append]
      omega

end

/-! ### All statements -/

/-- The statements of a text are well placed and in order, and at the start of a line no statement
is missing but for one that another takes in. -/
theorem wellPlaced_statements (content : Text) :
    (∀ p ∈ statements content, WellPlaced content p) ∧
      (statements content).Pairwise (Precedes content) ∧
      ∀ before t s rest, content = before ++ t → WholeLines before →
        Statement.read? t = some (s, rest) →
        ∃ p ∈ statements content, p.before = before ∧ p.statement = s ∨
          p.span.start < byteSize before ∧ byteSize before < p.span.stop := by
  refine ⟨?_, pairwise_precedes content, ?_⟩
  · intro p hp
    exact wellPlaced_of_mem_statements hp
  · intro before t s rest hcontent hlines hread
    exact exists_mem_statements_of_read? hcontent hlines hread

/-- A line that starts an import and goes on behind the line feed takes in the next one. -/
example : (statements "import a\nimport b from 'é';\n\timport 'n'".toList).map (·.span) =
    [⟨0, 28⟩, ⟨29, 40⟩] := by
  decide +kernel

end DesignTokens.Import
