import DesignTokens.Proofs.Import.Editable

/-! # Lists with names added

Names wanted from a module are added to the list of the module, to that of the first host that
offers one, or to that of a new import. Read back from the new text, the list is in order: it has
every name that it had, as often as it had it, and each of the new names once.

## Main definitions

* `Import.Offers` - a host has a list that may take the names
* `Import.Chosen` - the module that names are added to an import of, and the names in its list

## Main results

* `Import.exists_chosen_of_slot` - where names are added there is a list to add them to
* `Import.findBlock_of_ensure` - what is read back of the list
-/

namespace DesignTokens.Import

open Character Text

/-- An import of a host has a list that can be edited and that has the anchor. -/
def Offers (content : Text) (host : Host) (block : Block) : Prop :=
  findBlock content host.host = .ok (some block) ∧ ∀ x ∈ host.anchor, x ∈ block.symbols

/-- The list that names wanted from a module are added to: that of `source`, which has the names
`old`. -/
inductive Chosen (hosts : List Host) (content : Text) (module : String) :
    (source : String) → (old : List String) → Prop
  | own (block : Block) (hfind : findBlock content module = .ok (some block)) :
    Chosen hosts content module module block.symbols
  /-- The first of the hosts of the module that offers a list. -/
  | host (front back : List Host) (host : Host) (block : Block)
      (hnone : findBlock content module = .ok none)
      (hhosts : hosts.filter (·.module = module) = front ++ host :: back)
      (hoffers : Offers content host block)
      (hfirst : ∀ other ∈ front, ∀ block, ¬ Offers content other block) :
    Chosen hosts content module host.host block.symbols
  | new (hnone : findBlock content module = .ok none)
      (hno : ∀ host ∈ hosts, host.module = module → ∀ block, ¬ Offers content host block) :
    Chosen hosts content module module []

/-- A list to which names were added, as it is read back: in order, with every name that it had as
often as it had it and each of the others once. -/
structure Merged (old : List String) (required : Names) (symbols : List String) : Prop where
  ordered : symbols.Pairwise fun a b => symbolLe a b = true
  all : ∀ x ∈ required, x ∈ symbols
  count : ∀ x, symbols.count x = old.count x + if x ∈ required ∧ x ∉ old then 1 else 0
  nodup : old.Nodup → symbols.Nodup

variable {hosts : List Host} {content new : Text} {module source : String} {required : Names}
  {old : List String} {block : Block}

/-! ### Lists in order -/

/-- The names of a list with those that it lacks, in order. -/
theorem merged_sortSymbols (old : List String) (h : required.Nodup) :
    Merged old required (sortSymbols (addMissing old required)) := by
  -- Putting names in order keeps how often each occurs, and those that are added occur once.
  have hcount : ∀ x, (sortSymbols (addMissing old required)).count x =
      old.count x + if x ∈ required ∧ x ∉ old then 1 else 0 := by
    intro x
    rw [sortSymbols, (List.mergeSort_perm (addMissing old required) symbolLe).count_eq, addMissing,
      List.count_append]
    congr 1
    rw [(h.filter _).count]
    simp
  refine ⟨List.pairwise_mergeSort symbolLe_trans symbolLe_total _, ?_, hcount, ?_⟩
  · intro x hx
    exact mem_sortSymbols.mpr (mem_addMissing.mpr (.inr hx))
  · intro hold
    rw [List.nodup_iff_count_le_one]
    intro x
    rw [hcount]
    by_cases hx : x ∈ old
    · rw [if_neg fun hnew => hnew.2 hx]
      exact List.nodup_iff_count_le_one.mp hold x
    · rw [List.count_eq_zero_of_not_mem hx]
      split <;> omega

/-! ### Reading back -/

theorem text_of_findBlock (h : findBlock content source = .ok (some block)) :
    block.text = content := by
  obtain ⟨_, _, _, _, _, _, -, -, -, hlist⟩ := findBlock_eq_some_iff.mp h
  rw [Block.text, ← hlist.text]

/-! ### The list that is chosen -/

theorem Host.block?_eq_some_iff_offers {host : Host} :
    host.block? content = some block ↔ Offers content host block := by
  rw [Host.block?, Offers]
  cases hfind : findBlock content host.host with
  | error e => simp
  | ok found =>
    cases found with
    | none => simp
    | some found =>
      have hall : host.anchor.all (found.symbols.contains ·) = true ↔
          ∀ x ∈ host.anchor, x ∈ found.symbols := by
        cases host.anchor <;> simp
      simp only [hall, Except.ok.injEq, Option.some.injEq]
      constructor
      · intro h
        split at h
        · rename_i hanchor
          cases h
          exact ⟨rfl, hanchor⟩
        · cases h
      · rintro ⟨rfl, hanchor⟩
        rw [if_pos hanchor]

theorem Host.block?_eq_none_iff_offers {host : Host} :
    host.block? content = none ↔ ∀ block, ¬ Offers content host block := by
  rw [Option.eq_none_iff_forall_ne_some]
  exact forall_congr' fun block => not_congr Host.block?_eq_some_iff_offers

/-- Where names can be added there is a list to add them to. -/
theorem exists_chosen_of_slot (h : slot hosts content module = .ok block) :
    ∃ source old, Chosen hosts content module source old := by
  rw [slot] at h
  cases hfind : findBlock content module with
  | error e =>
    rw [hfind] at h
    cases h
  | ok found =>
    cases found with
    | some block => exact ⟨_, _, .own block hfind⟩
    | none =>
      -- Without a block of the module's own, the first host that offers one serves.
      cases hhost : (hosts.filter (·.module = module)).findSome? (·.block? content) with
      | some block =>
        obtain ⟨front, host, back, hhosts, hoffers, hfirst⟩ := List.findSome?_eq_some_iff.mp hhost
        exact ⟨_, _, .host front back host block hfind hhosts
          (Host.block?_eq_some_iff_offers.mp hoffers)
          fun other hother => Host.block?_eq_none_iff_offers.mp (hfirst other hother)⟩
      | none =>
        refine ⟨_, _, .new hfind fun host hmem hof => Host.block?_eq_none_iff_offers.mp ?_⟩
        exact List.findSome?_eq_none_iff.mp hhost host
          (List.mem_filter.mpr ⟨hmem, by simpa using hof⟩)

theorem slot_of_offers {front back : List Host} {host : Host}
    (hnone : findBlock content module = .ok none)
    (hhosts : hosts.filter (·.module = module) = front ++ host :: back)
    (hoffers : Offers content host block)
    (hfirst : ∀ other ∈ front, ∀ block, ¬ Offers content other block) :
    slot hosts content module = .ok block := by
  have hsome : (hosts.filter (·.module = module)).findSome? (·.block? content) = some block := by
    refine List.findSome?_eq_some_iff.mpr ⟨front, host, back, hhosts, ?_, ?_⟩
    · exact Host.block?_eq_some_iff_offers.mpr hoffers
    · intro other hother
      exact Host.block?_eq_none_iff_offers.mpr (hfirst other hother)
  rw [slot, hnone]
  simp only [hsome]

theorem slot_of_not_offers (hnone : findBlock content module = .ok none)
    (hno : ∀ host ∈ hosts, host.module = module → ∀ block, ¬ Offers content host block) :
    slot hosts content module = .ok (newBlock content module) := by
  have hall : (hosts.filter (·.module = module)).findSome? (·.block? content) = none := by
    rw [List.findSome?_eq_none_iff]
    intro host hhost
    obtain ⟨hmem, hof⟩ := List.mem_filter.mp hhost
    exact Host.block?_eq_none_iff_offers.mpr (hno host hmem (of_decide_eq_true hof))
  rw [slot, hnone]
  simp only [hall]

/-- Names are added to the list that is chosen, and it is read back from the new text. -/
theorem exists_slot_of_chosen (hchosen : Chosen hosts content module source old)
    (hmodule : Quotable module) (hne : required ≠ [])
    (hrequired : ∀ x ∈ required, isIdentifier x.toList = true)
    (halias : ∀ x ∈ required, hasAlias x.toList = false) :
    ∃ block, slot hosts content module = .ok block ∧ block.symbols = old ∧
      findBlock (block.add required).text source = .ok (some (block.add required)) ∧
      ((∀ x ∈ required, x ∈ old) → (block.add required).text = content) := by
  have hkept : ∀ {source : String} {block : Block}, findBlock content source = .ok (some block) →
      (∀ x ∈ required, x ∈ block.symbols) → (block.add required).text = content := by
    intro source block hfind hall
    rw [Block.add_of_subset hall]
    exact text_of_findBlock hfind
  cases hchosen with
  | own block hfind =>
    refine ⟨block, ?_, rfl, findBlock_text_add hfind hrequired halias, hkept hfind⟩
    rw [slot, hfind]
  | host front back host block hnone hhosts hoffers hfirst =>
    exact ⟨block, slot_of_offers hnone hhosts hoffers hfirst, rfl,
      findBlock_text_add hoffers.1 hrequired halias, hkept hoffers.1⟩
  | new hnone hno =>
    refine ⟨newBlock content module, slot_of_not_offers hnone hno, rfl,
      findBlock_newBlock_add hmodule hnone hrequired halias, ?_⟩
    -- A new list has no names, so it lacks whichever are wanted.
    intro hall
    obtain ⟨x, hx⟩ := List.exists_mem_of_ne_nil required hne
    cases hall x hx

/-- Where names are added there is one list that they are added to. If it has them all the text
stays as it is. If the text becomes another one, the list is read back from it as the list of the
same module, in order, with the names that it had and each of the others once. -/
theorem findBlock_of_ensure (hmodule : Quotable module) (hne : required ≠ [])
    (hnodup : required.Nodup) (hrequired : ∀ x ∈ required, isIdentifier x.toList = true)
    (halias : ∀ x ∈ required, hasAlias x.toList = false)
    (h : ensure hosts content module required = .ok new) :
    (∃ source old, Chosen hosts content module source old) ∧
      ∀ source old, Chosen hosts content module source old →
        ((∀ x ∈ required, x ∈ old) → new = content) ∧
          (new ≠ content → ∃ block, findBlock new source = .ok (some block) ∧
            Merged old required block.symbols) := by
  rw [ensure_eq_map_slot hne hrequired] at h
  constructor
  · cases hslot : slot hosts content module with
    | error e =>
      rw [hslot] at h
      cases h
    | ok block => exact exists_chosen_of_slot hslot
  · intro source old hchosen
    obtain ⟨block, hslot, rfl, hfind, hkept⟩ :=
      exists_slot_of_chosen hchosen hmodule hne hrequired halias
    rw [hslot] at h
    obtain rfl := Except.ok.inj h
    refine ⟨hkept, fun hchanged => ⟨_, hfind, ?_⟩⟩
    -- As the text changed, some name was not in the list, and the list was put in order.
    rw [Block.add_of_not_subset fun hall => hchanged (hkept hall)]
    exact merged_sortSymbols block.symbols hnodup

/-- A list of a host that has a name twice takes another name. -/
theorem findBlock_of_ensure_host : ∃ block,
    findBlock "import { A, b, c, c } from \"n\"".toList "n" = .ok (some block) ∧
      Merged ["c", "b", "c"] ["A"] block.symbols := by
  have hensure : ensure [⟨"m", "n", some "b"⟩] "import { c, b, c } from \"n\"".toList "m" ["A"] =
      .ok "import { A, b, c, c } from \"n\"".toList := by
    simp only [ensure, merge, insert, sortSymbols_eq_insertionSort]
    decide +kernel
  have hfind : findBlock "import { c, b, c } from \"n\"".toList "n" = .ok (some
      ⟨1, "import \x7b".toList, " c, b, c ".toList, "\x7d from \"n\"".toList,
        ["c", "b", "c"]⟩) := by
    decide +kernel
  have hchosen : Chosen [⟨"m", "n", some "b"⟩] "import { c, b, c } from \"n\"".toList "m" "n"
      ["c", "b", "c"] := by
    refine .host [] [] ⟨"m", "n", some "b"⟩ _ ?_ rfl ⟨hfind, ?_⟩ (by simp)
    · decide +kernel
    · simp
  have hadded := findBlock_of_ensure (by decide) (by decide) (by decide) (by decide) (by decide)
    hensure
  exact (hadded.2 "n" ["c", "b", "c"] hchosen).2 (by decide)

end DesignTokens.Import
