import Polystore.Text.Utf8

/-!
# Form encoding

Texts inside an address are written byte by byte: letters, digits and four marks stand for
themselves, a space becomes a plus sign, and every other byte a percent sign with two capital
hexadecimal digits.

* `isUnreserved`, `formByte`;
* `formEncoded`.
-/

namespace Polystore.Text

/-- The characters that stand for themselves. -/
def isUnreserved (c : Char) : Bool :=
  c.isAlphanum || c == '_' || c == '.' || c == '-' || c == '~'

/-- The capital digit of a value below sixteen. -/
def capitalHexDigit (n : Nat) : Char := if n < 10 then Char.ofNat (48 + n) else Char.ofNat (55 + n)

def formByte (b : UInt8) : List Char :=
  let c := Char.ofNat b.toNat
  if isUnreserved c then [c]
  else if c == ' ' then ['+']
  else ['%', capitalHexDigit (b.toNat / 16), capitalHexDigit (b.toNat % 16)]

def formEncoded (s : String) : String := String.ofList ((encodeUtf8 s).flatMap formByte)

end Polystore.Text
