/-!
# Base64

Three bytes are written with four characters of an alphabet of sixty-four. Reading is lenient:
characters outside the alphabet are skipped, and what follows a complete padding is not read.

* `base64Value?`: the six bits of a character;
* `readBase64?`: the bytes of a text.
-/

namespace Polystore.Text

/-- The six bits that a character of the alphabet stands for. -/
def base64Value? (c : Char) : Option Nat :=
  let n := c.toNat
  if 65 ≤ n ∧ n ≤ 90 then some (n - 65)
  else if 97 ≤ n ∧ n ≤ 122 then some (n - 71)
  else if 48 ≤ n ∧ n ≤ 57 then some (n + 4)
  else if c = '+' then some 62
  else if c = '/' then some 63
  else none

/-- Read on with `quad` characters of the current group behind, `carry` the bits of the last one
that belong to no byte yet, and `pads` padding characters since then. -/
def readBase64From? (quad carry pads : Nat) : List Char → Option (List UInt8)
  | [] => if quad = 0 then some [] else none
  | '=' :: rest =>
    if 2 ≤ quad then
      if 4 ≤ quad + (pads + 1) then some [] else readBase64From? quad carry (pads + 1) rest
    else readBase64From? quad carry pads rest
  | c :: rest =>
    match base64Value? c with
    | none => readBase64From? quad carry pads rest
    | some v =>
      match quad with
      | 0 => readBase64From? 1 v 0 rest
      | 1 => (readBase64From? 2 (v % 16) 0 rest).map (UInt8.ofNat (carry * 4 + v / 16) :: ·)
      | 2 => (readBase64From? 3 (v % 4) 0 rest).map (UInt8.ofNat (carry * 16 + v / 4) :: ·)
      | _ => (readBase64From? 0 0 0 rest).map (UInt8.ofNat (carry * 64 + v) :: ·)

/-- The bytes of a text; a group that is cut short has none. -/
def readBase64? (cs : List Char) : Option (List UInt8) := readBase64From? 0 0 0 cs

end Polystore.Text
