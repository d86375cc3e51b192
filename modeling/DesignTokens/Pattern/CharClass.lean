import DesignTokens.Character.BreakValue
import DesignTokens.Character.Case
import DesignTokens.Character.Class
import DesignTokens.Character.Edition
import DesignTokens.Character.Script
import DesignTokens.Text.Basic

/-! # Classes in patterns

What one place of a pattern accepts is a set of characters: one that is written out, or one that a
name stands for.

## Main definitions

* `CharClass` - a set of characters, as a table of ranges
* `CharClass.ofPosix?` - the class that a bracketed name stands for
* `CharClass.ofProperty?` - the class that the name of a property stands for
-/

namespace DesignTokens

open Character

/-- What one place of a pattern accepts: a set of characters. -/
abbrev CharClass := RangeTable

namespace CharClass

/-- The class of one character. -/
def char (c : Char) : CharClass :=
  .single c.toNat c.toNat

/-- The class of the characters between the ends of several ranges. -/
def between (ranges : List (Char × Char)) : CharClass :=
  RangeTable.ofRanges (ranges.map fun r => (r.1.toNat, r.2.toNat))

/-- The members of a class and the ASCII letters that differ from one by case only. -/
def anyAsciiCase (members : CharClass) : CharClass :=
  let capitals := members.inter (between [('A', 'Z')])
  let smalls := members.inter (between [('a', 'z')])
  RangeTable.ofRanges
    (members.ranges ++ (capitals.ranges.map fun (lo, hi) => (lo + 32, hi + 32)) ++
      smalls.ranges.map fun (lo, hi) => (lo - 32, hi - 32))

/-- The ASCII class that a bracketed name such as `[:alpha:]` stands for. -/
def ofPosix? : String → Option CharClass
  | "alnum" => some (between [('0', '9'), ('A', 'Z'), ('a', 'z')])
  | "alpha" => some (between [('A', 'Z'), ('a', 'z')])
  | "ascii" => some (.single 0 0x7F)
  | "blank" => some (between [('\t', '\t'), (' ', ' ')])
  | "cntrl" => some (RangeTable.ofRanges [(0, 0x1F), (0x7F, 0x7F)])
  | "digit" => some (between [('0', '9')])
  | "graph" => some (between [('!', '~')])
  | "lower" => some (between [('a', 'z')])
  | "print" => some (between [(' ', '~')])
  | "punct" => some (between [('!', '/'), (':', '@'), ('[', '`'), ('\x7b', '~')])
  | "space" => some (between [('\t', '\r'), (' ', ' ')])
  | "upper" => some (between [('A', 'Z')])
  | "word" => some (between [('0', '9'), ('A', 'Z'), ('_', '_'), ('a', 'z')])
  | "xdigit" => some (between [('0', '9'), ('A', 'F'), ('a', 'f')])
  | _ => none

/-! ### Properties by name -/

/-- The general categories and the groups of them, each with its loose names. The surrogates are
part of a group and have no name of their own, as no character is one. -/
def categoryNames : List (List String × List Category) :=
  [(["l", "letter"],
      [.uppercaseLetter, .lowercaseLetter, .titlecaseLetter, .modifierLetter, .otherLetter]),
   (["lc", "casedletter"], [.uppercaseLetter, .lowercaseLetter, .titlecaseLetter]),
   (["lu", "uppercaseletter"], [.uppercaseLetter]),
   (["ll", "lowercaseletter"], [.lowercaseLetter]),
   (["lt", "titlecaseletter"], [.titlecaseLetter]),
   (["lm", "modifierletter"], [.modifierLetter]),
   (["lo", "otherletter"], [.otherLetter]),
   (["m", "mark", "combiningmark"], [.nonspacingMark, .spacingMark, .enclosingMark]),
   (["mn", "nonspacingmark"], [.nonspacingMark]),
   (["mc", "spacingmark"], [.spacingMark]),
   (["me", "enclosingmark"], [.enclosingMark]),
   (["n", "number"], [.decimalNumber, .letterNumber, .otherNumber]),
   (["nd", "decimalnumber", "digit"], [.decimalNumber]),
   (["nl", "letternumber"], [.letterNumber]),
   (["no", "othernumber"], [.otherNumber]),
   (["p", "punctuation", "punct"],
      [.connectorPunctuation, .dashPunctuation, .openPunctuation, .closePunctuation,
       .initialPunctuation, .finalPunctuation, .otherPunctuation]),
   (["pc", "connectorpunctuation"], [.connectorPunctuation]),
   (["pd", "dashpunctuation"], [.dashPunctuation]),
   (["ps", "openpunctuation"], [.openPunctuation]),
   (["pe", "closepunctuation"], [.closePunctuation]),
   (["pi", "initialpunctuation"], [.initialPunctuation]),
   (["pf", "finalpunctuation"], [.finalPunctuation]),
   (["po", "otherpunctuation"], [.otherPunctuation]),
   (["s", "symbol"], [.mathSymbol, .currencySymbol, .modifierSymbol, .otherSymbol]),
   (["sm", "mathsymbol"], [.mathSymbol]),
   (["sc", "currencysymbol"], [.currencySymbol]),
   (["sk", "modifiersymbol"], [.modifierSymbol]),
   (["so", "othersymbol"], [.otherSymbol]),
   (["z", "separator"], [.spaceSeparator, .lineSeparator, .paragraphSeparator]),
   (["zs", "spaceseparator"], [.spaceSeparator]),
   (["zl", "lineseparator"], [.lineSeparator]),
   (["zp", "paragraphseparator"], [.paragraphSeparator]),
   (["c", "other"], [.control, .format, .surrogate, .privateUse, .unassigned]),
   (["cc", "control", "cntrl"], [.control]),
   (["cf", "format"], [.format]),
   (["co", "privateuse"], [.privateUse]),
   (["cn", "unassigned"], [.unassigned])]

/-- The loose form of a name: small letters, no blanks, underscores or hyphens, no `is` in front
and nothing that is not ASCII. The one name that starts with `is` itself and would be taken for
another without it is kept. -/
def looseName (name : Text) : String :=
  let loose (name : Text) : Text :=
    (name.filter fun c => c.toNat < 128 && c != ' ' && c != '_' && c != '-').map Char.toLower
  match name with
  | c :: d :: rest =>
    if c.toLower = 'i' && d.toLower = 's' then
      if loose rest = ['c'] then "isc" else String.ofList (loose rest)
    else String.ofList (loose name)
  | _ => String.ofList (loose name)

/-- The class of a general category by its loose name. -/
def ofCategory? : String → Option CharClass
  | "any" => some .full
  | "assigned" => some Category.unassignedTable.complement
  | "ascii" => some (.single 0 0x7F)
  | name =>
    (categoryNames.find? (·.1.contains name)).map fun entry =>
      match entry.2 with
      | [kind] => kind.table
      | kinds => .unionAll (kinds.map Category.table)

/-- The class of a yes-or-no property, a general category or a script by its loose name. Three
short names of categories are also names of properties of another kind and mean the categories. -/
def ofName? (name : String) : Option CharClass :=
  let property :=
    if name = "cf" || name = "sc" || name = "lc" then none
    else (Property.ofName? name).map (·.table)
  (property.or (ofCategory? name)).or ((Script.ofName? name).map (·.own))

/-- The class of the characters whose property, given by its loose name, has a value. The value of
an edition takes in all editions before it. -/
def ofNamedValue? (property value : String) : Option CharClass :=
  match property with
  | "gc" | "generalcategory" => ofCategory? value
  | "sc" | "script" => (Script.ofName? value).map (·.own)
  | "scx" | "scriptextensions" => (Script.ofName? value).map (·.inUse)
  | "age" => (Edition.upTo? value).map RangeTable.unionAll
  | "gcb" | "graphemeclusterbreak" => BreakValue.find? BreakValue.graphemes value
  | "wb" | "wordbreak" => BreakValue.find? BreakValue.words value
  | "sb" | "sentencebreak" => BreakValue.find? BreakValue.sentences value
  | _ => none

/-- Reads the name of a property, with a value after `!=`, `:` or `=`: its class, and whether the
characters outside the class are meant. -/
def ofProperty? (name : Text) : Option (CharClass × Bool) :=
  match splitNotEqual name with
  | some (property, value) =>
    (ofNamedValue? (looseName property) (looseName value)).map (·, true)
  | none =>
    match (Text.splitFirst? ':' name).or (Text.splitFirst? '=' name) with
    | some (property, value) =>
      (ofNamedValue? (looseName property) (looseName value)).map (·, false)
    | none => (ofName? (looseName name)).map (·, false)
where
  /-- A text cut at its first `!=`. -/
  splitNotEqual : Text → Option (Text × Text)
    | [] => none
    | '!' :: '=' :: rest => some ([], rest)
    | c :: rest => (splitNotEqual rest).map fun (before, after) => (c :: before, after)

end CharClass

end DesignTokens
