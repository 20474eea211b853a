import Portrayal.Text.Hexadecimal

/-!
Percent coding of query components. The bytes of a text's UTF-8 form are kept when they are ASCII
letters, digits or one of nine marks, and written as `%` and two upper-case hexadecimal digits
otherwise. Reading takes any `%` with two hexadecimal digits for one byte and every other character
for its own bytes, so it undoes writing.
-/

namespace Portrayal.Text.Percent

/-- The marks that stand for themselves. -/
def marks : List Char := ['-', '_', '.', '!', '~', '*', '\'', '(', ')']

/-- Whether a byte is written as the character it encodes. -/
def isPlain (byte : UInt8) : Bool :=
  let c := Char.ofNat byte.toNat
  c.isAlphanum || marks.contains c

/-- The written form of one byte. -/
def encodeByte (byte : UInt8) : List Char :=
  if isPlain byte then [Char.ofNat byte.toNat]
  else ['%', upperHexDigit (byte.toNat / 16), upperHexDigit (byte.toNat % 16)]

/-- The written form of a text. -/
def encode (s : String) : String :=
  String.ofList (s.toUTF8.data.toList.flatMap encodeByte)

/-- The bytes that a written form stands for; a `%` needs two hexadecimal digits after it. -/
def decodeBytes? : List Char → Option (List UInt8)
  | [] => some []
  | c :: rest =>
    if c = '%' then
      match rest with
      | high :: low :: rest' => do
        let h ← hexValue? high
        let l ← hexValue? low
        let bytes ← decodeBytes? rest'
        some (UInt8.ofNat (16 * h + l) :: bytes)
      | _ => none
    else (decodeBytes? rest).map (String.utf8EncodeChar c ++ ·)

/-- The text that a written form stands for, if its bytes are UTF-8. -/
def decode? (s : String) : Option String := do
  let bytes ← decodeBytes? s.toList
  String.fromUTF8? ⟨bytes.toArray⟩

end Portrayal.Text.Percent
