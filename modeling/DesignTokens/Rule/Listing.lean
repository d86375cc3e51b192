import DesignTokens.Rule.RuleSet

/-! # Rules on the console

## Main definitions

* `RuleSet.listing` - the lines that a rule set is shown as
-/

namespace DesignTokens

/-- The word for what a rule does. -/
def Rule.actionWord (rule : Rule) : String :=
  if rule.isFlagOnly then "flag" else rule.kind.word

/-- A text with blanks after it up to a width. -/
def padded (width : Nat) (s : String) : String :=
  s ++ String.ofList (List.replicate (width - s.length) ' ')

/-- The lines for a rule. -/
def Rule.listing (rule : Rule) : List String :=
  let extensions :=
    if rule.appliesTo.isEmpty then "*" else String.intercalate "," rule.appliesTo
  (padded 8 rule.actionWord ++ " " ++ rule.id ++ " [" ++ extensions ++ "] " ++ rule.description) ::
    (rule.requires.map fun r =>
      "         requires \x7b " ++ String.intercalate ", " r.symbols ++ " \x7d from '" ++
        r.module ++ "'").toList

/-- The lines for the canonical spellings. -/
def CanonicalNames.listing (table : CanonicalNames) : List String :=
  if table.names.isEmpty then []
  else
    ("\nCanonical names v" ++ toString table.version ++ " (" ++ toString table.names.length ++
      " names)") ::
      table.names.map fun (spelling, canonical) => "  " ++ spelling ++ " -> " ++ canonical

/-- The lines that a rule set is shown as. -/
def RuleSet.listing (set : RuleSet) : List String :=
  set.rules.flatMap Rule.listing ++ set.canonical.listing

end DesignTokens
