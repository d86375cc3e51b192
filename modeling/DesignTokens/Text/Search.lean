import DesignTokens.Text.Basic

/-! # Searching and replacing

A search is given by what it accepts at a place: a probe looks at the character before the place
and at the text after it, and answers with the number of characters it accepts. The first place at
which a probe answers is a hit. To go through all hits, the search goes on where the last hit
ended; an empty hit right there is passed over.

What is searched is a list of characters, or of characters with notes about their places.

## Main definitions

* `Text.Probe` - what a search accepts at a place
* `Text.find` - the first hit in a text
* `Text.hits` - a text cut into its hits and what lies between them
* `Text.replaceAll` - a text with every hit replaced, if there is any
-/

namespace DesignTokens.Text

variable {α β : Type}

/-- What a search accepts at a place: given the character before the place and the text after it,
the number of characters accepted and what is known about them. -/
abbrev Probe (β α : Type) := Option β → List β → Option (Nat × α)

/-- A hit: the text passed over, the text accepted, the text after it and what is known about it. -/
structure Hit (β α : Type) where
  lead : List β
  found : List β
  rest : List β
  value : α
  deriving Repr

/-- The offset in bytes of a hit from where the search began. -/
def Hit.offset (hit : Hit Char α) : Nat :=
  byteSize hit.lead

/-- A hit among characters with notes as one among the characters. -/
def Hit.map {γ : Type} (f : β → γ) (hit : Hit β α) : Hit γ α :=
  ⟨hit.lead.map f, hit.found.map f, hit.rest.map f, hit.value⟩

/-- The first hit in a text that follows the character `before`. -/
def findFrom (probe : Probe β α) (before : Option β) (t : List β) : Option (Hit β α) :=
  match probe before t with
  | some (n, value) => some ⟨[], t.take n, t.drop n, value⟩
  | none =>
    match t with
    | [] => none
    | c :: rest =>
      (findFrom probe (some c) rest).map fun hit => { hit with lead := c :: hit.lead }

/-- The first hit in a text. -/
def find (probe : Probe β α) (t : List β) : Option (Hit β α) :=
  findFrom probe none t

/-- A part of a text: one that a search passed over, or one that it accepted. -/
inductive Part (β α : Type) where
  | kept (t : List β)
  | hit (t : List β) (value : α)
  deriving Repr

/-- The text of a part. -/
def Part.text : Part β α → List β
  | kept t => t
  | hit t _ => t

/-- Whether a part was accepted. -/
def Part.isHit : Part β α → Bool
  | kept _ => false
  | hit _ _ => true

/-- A part made of characters with notes as one of the characters. -/
def Part.map {γ : Type} (f : β → γ) : Part β α → Part γ α
  | kept t => kept (t.map f)
  | hit t value => hit (t.map f) value

/-- The parts of a text that follows the character `before`. `justHit` says that a hit ended here,
so that an empty hit is passed over. Every two rounds take a character, which bounds their
number. -/
def hitsFrom (probe : Probe β α) : Nat → Bool → Option β → List β → List (Part β α)
  | 0, _, _, t => [.kept t]
  | rounds + 1, justHit, before, t =>
    match findFrom probe before t with
    | none => [.kept t]
    | some hit =>
      if justHit && hit.lead.isEmpty && hit.found.isEmpty then
        match t with
        | [] => []
        | c :: rest => .kept [c] :: hitsFrom probe rounds false (some c) rest
      else
        .kept hit.lead :: .hit hit.found hit.value ::
          hitsFrom probe rounds true ((hit.lead ++ hit.found).getLast?.or before) hit.rest

/-- A text cut into its hits and what lies between them. -/
def hits (probe : Probe β α) (t : List β) : List (Part β α) :=
  hitsFrom probe (2 * t.length + 2) false none t

/-- Whether a search has a hit in a text. -/
def matches? (probe : Probe β α) (t : List β) : Bool :=
  (find probe t).isSome

/-- The text of parts with every hit replaced. -/
def replaceParts (replace : Text → α → Text) (parts : List (Part Char α)) : Text :=
  parts.flatMap fun
    | .kept t => t
    | .hit t value => replace t value

/-- The text of parts with every hit replaced; nothing if there is no hit. -/
def replaceHits (replace : Text → α → Text) (parts : List (Part Char α)) : Option Text :=
  if parts.any Part.isHit then some (replaceParts replace parts) else none

/-- A text with every hit replaced by what `replace` makes of it; nothing if there is no hit. -/
def replaceAll (probe : Probe Char α) (replace : Text → α → Text) (t : Text) : Option Text :=
  replaceHits replace (hits probe t)

end DesignTokens.Text
