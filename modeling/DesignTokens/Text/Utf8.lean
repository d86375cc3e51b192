import DesignTokens.Text.Basic

/-! # Bytes of texts

A text is stored as the bytes of its UTF-8 form. Reading bytes as a text fails at the first byte
that does not begin the form of a character, and tells whether the bytes there are wrong or merely
end too soon.

## Main definitions

* `Text.encode` - the bytes of a text
* `Text.decode` - the text of bytes
* `Text.Undecodable` - where and how bytes fail to be a text
-/

namespace DesignTokens

/-- The content of a file. -/
abbrev Bytes := List UInt8

namespace Text

/-- The bytes of a text. -/
def encode (t : Text) : Bytes :=
  t.flatMap String.utf8EncodeChar

/-- Where and how bytes fail to be a text. -/
structure Undecodable where
  /-- The number of bytes before the ones that fail. -/
  index : Nat
  /-- The number of bytes that cannot begin a character; nothing if the bytes end too soon. -/
  wrong : Option Nat
  deriving Repr, DecidableEq

/-- The wording of a failure. -/
def Undecodable.message (e : Undecodable) : String :=
  match e.wrong with
  | some n => "invalid utf-8 sequence of " ++ toString n ++ " bytes from index " ++ toString e.index
  | none => "incomplete utf-8 byte sequence from index " ++ toString e.index

/-- What the first byte of a character says: the bits it holds, the least and the greatest byte
that may come second, and the number of bytes that follow. -/
structure Lead where
  bits : Nat
  low : Nat
  high : Nat
  more : Nat
  deriving Repr, DecidableEq

/-- What a first byte says, if it can be one. -/
def lead? (byte : Nat) : Option Lead :=
  if byte < 0x80 then some ⟨byte, 0, 0, 0⟩
  else if byte < 0xc2 then none
  else if byte < 0xe0 then some ⟨byte - 0xc0, 0x80, 0xbf, 1⟩
  else if byte = 0xe0 then some ⟨0, 0xa0, 0xbf, 2⟩
  else if byte = 0xed then some ⟨0xd, 0x80, 0x9f, 2⟩
  else if byte < 0xf0 then some ⟨byte - 0xe0, 0x80, 0xbf, 2⟩
  else if byte = 0xf0 then some ⟨0, 0x90, 0xbf, 3⟩
  else if byte < 0xf4 then some ⟨byte - 0xf0, 0x80, 0xbf, 3⟩
  else if byte = 0xf4 then some ⟨4, 0x80, 0x8f, 3⟩
  else none

/-- A character of which some bytes were read. -/
structure Unfinished where
  /-- The number of bytes before it. -/
  index : Nat
  /-- The number of its bytes that were read. -/
  size : Nat
  /-- The least and the greatest byte that may come next. -/
  low : Nat
  high : Nat
  /-- The number of bytes that follow the next one. -/
  more : Nat
  /-- The bits read so far. -/
  value : Nat
  deriving Repr, DecidableEq

/-- Whether a byte can come next. -/
def Unfinished.accepts (u : Unfinished) (byte : Nat) : Bool :=
  u.low ≤ byte && byte ≤ u.high

/-- The bits after one more byte. -/
def Unfinished.bits (u : Unfinished) (byte : Nat) : Nat :=
  u.value * 64 + (byte - 0x80)

/-- Puts a character in front of the text of the bytes that follow. -/
def prepend (value : Nat) (rest : Except Undecodable Text) : Except Undecodable Text :=
  rest.map (Char.ofNat value :: ·)

/-- The text of bytes that come after `index` others, the last of which may belong to a character
that is not finished. -/
def decodeFrom (index : Nat) : Option Unfinished → Bytes → Except Undecodable Text
  | none, [] => .ok []
  | some u, [] => .error ⟨u.index, none⟩
  | none, byte :: rest =>
    match lead? byte.toNat with
    | none => .error ⟨index, some 1⟩
    | some ⟨bits, _, _, 0⟩ => prepend bits (decodeFrom (index + 1) none rest)
    | some ⟨bits, low, high, more + 1⟩ =>
      decodeFrom (index + 1) (some ⟨index, 1, low, high, more, bits⟩) rest
  | some u, byte :: rest =>
    if u.accepts byte.toNat then
      let value := u.bits byte.toNat
      match u.more with
      | 0 => prepend value (decodeFrom (index + 1) none rest)
      | more + 1 =>
        decodeFrom (index + 1) (some ⟨u.index, u.size + 1, 0x80, 0xbf, more, value⟩) rest
    else .error ⟨u.index, some u.size⟩

/-- The text of bytes. -/
def decode (bytes : Bytes) : Except Undecodable Text :=
  decodeFrom 0 none bytes

end Text

end DesignTokens
