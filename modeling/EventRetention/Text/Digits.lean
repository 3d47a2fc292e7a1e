/-!
Decimal digits: the value of a digit, the number that a run of digits denotes,
and fixed-width writing. Every script has its ten digits in a row, in order.
-/

namespace EventRetention.Text

def digitValue? (c : Char) : Option Nat :=
  if c.isDigit then some (c.toNat - '0'.toNat) else none

def zeroDigits : List Nat := [
  0x30, 0x660, 0x6F0, 0x7C0, 0x966, 0x9E6, 0xA66, 0xAE6, 0xB66, 0xBE6, 0xC66, 0xCE6, 0xD66, 0xDE6,
  0xE50, 0xED0, 0xF20, 0x1040, 0x1090, 0x17E0, 0x1810, 0x1946, 0x19D0, 0x1A80, 0x1A90, 0x1B50,
  0x1BB0, 0x1C40, 0x1C50, 0xA620, 0xA8D0, 0xA900, 0xA9D0, 0xA9F0, 0xAA50, 0xABF0, 0xFF10, 0x104A0,
  0x10D30, 0x11066, 0x110F0, 0x11136, 0x111D0, 0x112F0, 0x11450, 0x114D0, 0x11650, 0x116C0,
  0x11730, 0x118E0, 0x11950, 0x11C50, 0x11D50, 0x11DA0, 0x16A60, 0x16AC0, 0x16B50, 0x1D7CE,
  0x1D7D8, 0x1D7E2, 0x1D7EC, 0x1D7F6, 0x1E140, 0x1E2F0, 0x1E950, 0x1FBF0]

def unicodeDigit? (c : Char) : Option Nat :=
  (zeroDigits.find? fun first => first ≤ c.toNat && c.toNat < first + 10).map (c.toNat - ·)

def ofDigitValues (base : Nat) (digits : List Nat) : Nat :=
  digits.foldl (fun total digit => total * base + digit) 0

def natural? (text : List Char) : Option Nat :=
  match text with
  | [] => none
  | _ => (text.mapM digitValue?).map (ofDigitValues 10)

def shortRun? (least most : Nat) (text : List Char) : Option (Nat × List Char) :=
  let digits := (text.take most).takeWhile Char.isDigit
  if digits.length < least then none
  else (Text.natural? digits).map fun n => (n, text.drop digits.length)

def after? (c : Char) : List Char → Option (List Char)
  | first :: rest => if first = c then some rest else none
  | [] => none

def zeroPadded (width n : Nat) : String :=
  let digits := toString n
  String.ofList (List.replicate (width - digits.length) '0') ++ digits

def decimalLimit : Nat := 4300

def hasDecimal (n : Int) : Bool := (Nat.toDigits 10 n.natAbs).length ≤ decimalLimit

def limitMessage : String :=
  "Exceeds the limit (" ++ toString decimalLimit ++
    " digits) for integer string conversion; use sys.set_int_max_str_digits() to increase the limit"

def fraction (micros : Nat) : String :=
  if micros = 0 then "" else "." ++ zeroPadded 6 micros

end EventRetention.Text
