/-!
# Hexadecimal text

Bytes are written with two lower-case digits each.

* `hexDigit`, `hexDigit?`: a digit of base sixteen, written and read;
* `hexBytes`: the text of a sequence of bytes, with `length_hexBytes`;
* `hexPadded`: a number with at least a given count of digits;
* `readHexBytes?`: the bytes of a text with two digits each.
-/

namespace Polystore.Text

/-- The lower-case digit of a value below sixteen. -/
def hexDigit (n : Nat) : Char := if n < 10 then Char.ofNat (48 + n) else Char.ofNat (87 + n)

/-- The value of a digit of base sixteen, in either case. -/
def hexDigit? (c : Char) : Option Nat :=
  let n := c.toNat
  if 48 ≤ n ∧ n ≤ 57 then some (n - 48)
  else if 97 ≤ n ∧ n ≤ 102 then some (n - 87)
  else if 65 ≤ n ∧ n ≤ 70 then some (n - 55)
  else none

def hexByte (b : UInt8) : List Char := [hexDigit (b.toNat / 16), hexDigit (b.toNat % 16)]

def hexBytes (bytes : List UInt8) : List Char := bytes.flatMap hexByte

/-- A number in base sixteen, filled with zeros to at least `width` digits. -/
def hexPadded (width n : Nat) : List Char :=
  let digits := Nat.toDigits 16 n
  List.replicate (width - digits.length) '0' ++ digits

/-- The number that a text of hexadecimal digits stands for; the empty text stands for none. -/
def readHex? : List Char → Option Nat
  | [] => none
  | cs => cs.foldl (fun acc c => do return 16 * (← acc) + (← hexDigit? c)) (some 0)

/-- The bytes of a text with two digits for each. -/
def readHexBytes? : List Char → Option (List UInt8)
  | [] => some []
  | [_] => none
  | high :: low :: rest => do
    let h ← hexDigit? high
    let l ← hexDigit? low
    return UInt8.ofNat (16 * h + l) :: (← readHexBytes? rest)

theorem hexDigit?_hexDigit {n : Nat} (h : n < 16) : hexDigit? (hexDigit n) = some n := by
  have : ∀ m : Fin 16, hexDigit? (hexDigit m.val) = some m.val := by decide
  exact this ⟨n, h⟩

theorem length_hexBytes (bytes : List UInt8) : (hexBytes bytes).length = 2 * bytes.length := by
  induction bytes with
  | nil => rfl
  | cons b rest ih =>
    simp only [hexBytes, List.flatMap_cons, List.length_append, hexByte, List.length_cons,
      List.length_nil] at ih ⊢
    omega

/-- The text of bytes reads back as the bytes. -/
theorem readHexBytes?_hexBytes (bytes : List UInt8) :
    readHexBytes? (hexBytes bytes) = some bytes := by
  induction bytes with
  | nil => rfl
  | cons b rest ih =>
    have hb : b.toNat < 256 := b.toNat_lt
    have hh := hexDigit?_hexDigit (n := b.toNat / 16) (by omega)
    have hl := hexDigit?_hexDigit (n := b.toNat % 16) (by omega)
    have hs : UInt8.ofNat (16 * (b.toNat / 16) + b.toNat % 16) = b := by
      rw [show 16 * (b.toNat / 16) + b.toNat % 16 = b.toNat by omega]
      exact UInt8.ofNat_toNat
    simp only [hexBytes] at ih
    simp [hexBytes, hexByte, readHexBytes?, hh, hl, ih, hs, -UInt8.ofNat_add, -UInt8.ofNat_mul]

end Polystore.Text
