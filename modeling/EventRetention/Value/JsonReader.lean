import EventRetention.Text.Digits
import EventRetention.Text.Layout
import EventRetention.Value.Basic

/-!
Reading JSON text. Beside the standard grammar the words `NaN`, `Infinity` and
`-Infinity` are numbers; of a repeated key the last value counts.
-/

namespace EventRetention.Json

inductive Fault where
  | expectingValue
  | expectingName
  | expectingColon
  | expectingComma
  | extraData
  | controlCharacter
  | badEscape
  | badUnicodeEscape
  | unterminatedString
  | byteOrderMark
deriving DecidableEq, Repr

namespace Fault

def message : Fault → String
  | .expectingValue => "Expecting value"
  | .expectingName => "Expecting property name enclosed in double quotes"
  | .expectingColon => "Expecting ':' delimiter"
  | .expectingComma => "Expecting ',' delimiter"
  | .extraData => "Extra data"
  | .controlCharacter => "Invalid control character at"
  | .badEscape => "Invalid \\escape"
  | .badUnicodeEscape => "Invalid \\uXXXX escape"
  | .unterminatedString => "Unterminated string starting at"
  | .byteOrderMark => "Unexpected UTF-8 BOM (decode using utf-8-sig)"

end Fault

structure Stop where
  fault : Fault
  left : Nat
deriving DecidableEq, Repr

abbrev Reader (α : Type) := List Char → Except Stop (α × List Char)

def skipBlank (text : List Char) : List Char :=
  text.dropWhile fun c => c = ' ' || c = '\t' || c = '\n' || c = '\r'

def hexValue? (c : Char) : Option Nat :=
  if c.isDigit then some (c.toNat - 48)
  else if 'a' ≤ c ∧ c ≤ 'f' then some (c.toNat - 87)
  else if 'A' ≤ c ∧ c ≤ 'F' then some (c.toNat - 55)
  else none

def hexQuad? : List Char → Option (Nat × List Char)
  | a :: b :: c :: d :: rest =>
      ([a, b, c, d].mapM hexValue?).map fun digits => (Text.ofDigitValues 16 digits, rest)
  | _ => none

/-- The character of a code unit; a pair of surrogates makes one character,
    and a lone surrogate stands for the replacement character. -/
def unitCharacter (unit : Nat) (rest : List Char) : Char × List Char :=
  if 0xD800 ≤ unit ∧ unit < 0xDC00 then
    match rest with
    | '\\' :: 'u' :: more =>
        match hexQuad? more with
        | some (low, after) =>
            if 0xDC00 ≤ low ∧ low < 0xE000 then
              (Char.ofNat (0x10000 + (unit - 0xD800) * 0x400 + (low - 0xDC00)), after)
            else (Char.ofNat 0xFFFD, rest)
        | none => (Char.ofNat 0xFFFD, rest)
    | _ => (Char.ofNat 0xFFFD, rest)
  else if 0xDC00 ≤ unit ∧ unit < 0xE000 then (Char.ofNat 0xFFFD, rest)
  else (Char.ofNat unit, rest)

def simpleEscape? : Char → Option Char
  | '"' => some '"'
  | '\\' => some '\\'
  | '/' => some '/'
  | 'b' => some '\x08'
  | 'f' => some '\x0c'
  | 'n' => some '\n'
  | 'r' => some '\r'
  | 't' => some '\t'
  | _ => none

/-- The rest of a string after its opening quote; `start` is what was left
    before the quote, and the characters read so far come reversed. -/
def stringRest (start : Nat) : (fuel : Nat) → List Char → Reader String
  | 0, _, _ => .error ⟨.unterminatedString, start⟩
  | _ + 1, _, [] => .error ⟨.unterminatedString, start⟩
  | _ + 1, done, '"' :: rest => .ok (String.ofList done.reverse, rest)
  | fuel + 1, done, '\\' :: rest =>
      match rest with
      | [] => .error ⟨.unterminatedString, start⟩
      | 'u' :: more =>
          match hexQuad? more with
          | none => .error ⟨.badUnicodeEscape, more.length + 1⟩
          | some (unit, after) =>
              let (c, after) := unitCharacter unit after
              stringRest start fuel (c :: done) after
      | e :: more =>
          match simpleEscape? e with
          | none => .error ⟨.badEscape, rest.length + 1⟩
          | some c => stringRest start fuel (c :: done) more
  | fuel + 1, done, c :: rest =>
      if c.toNat < 0x20 then .error ⟨.controlCharacter, rest.length + 1⟩
      else stringRest start fuel (c :: done) rest

def string : Reader String := fun text => stringRest (text.length + 1) (text.length + 1) [] text

def digits (text : List Char) : List Char × List Char :=
  (text.takeWhile Char.isDigit, text.dropWhile Char.isDigit)

def fractionDigits : List Char → List Char × List Char
  | '.' :: rest => if (digits rest).1.isEmpty then ([], '.' :: rest) else digits rest
  | text => ([], text)

def exponent? (text : List Char) : Option (Int × List Char) :=
  match text with
  | c :: rest =>
      if c = 'e' || c = 'E' then
        let (negative, rest) := match rest with
          | '-' :: more => (true, more)
          | '+' :: more => (false, more)
          | _ => (false, rest)
        match Text.natural? (digits rest).1 with
        | some n => some (if negative then -(n : Int) else n, (digits rest).2)
        | none => none
      else none
  | [] => none

def number? (negative : Bool) (text : List Char) : Option (Value × List Char) :=
  let (whole, rest) := match text with
    | '0' :: more => (['0'], more)
    | _ => digits text
  match Text.natural? whole with
  | none => none
  | some n =>
      let (fraction, rest) := fractionDigits rest
      let power := exponent? rest
      match fraction, power with
      | [], none => some (.int (if negative then -(n : Int) else n), rest)
      | _, _ =>
          let (e, rest) := power.getD (0, rest)
          let all := (Text.natural? (whole ++ fraction)).getD 0
          some (.real (Binary64.ofScientific negative all (e - fraction.length)), rest)

def word? (word : String) (text : List Char) : Option (List Char) :=
  if word.toList.isPrefixOf text then some (text.drop word.length) else none

def scalar : Reader Value := fun text =>
  match word? "null" text, word? "true" text, word? "false" text, word? "NaN" text,
      word? "Infinity" text, word? "-Infinity" text with
  | some rest, _, _, _, _, _ => .ok (.null, rest)
  | _, some rest, _, _, _, _ => .ok (.bool true, rest)
  | _, _, some rest, _, _, _ => .ok (.bool false, rest)
  | _, _, _, some rest, _, _ => .ok (.real .nan, rest)
  | _, _, _, _, some rest, _ => .ok (.real (.infinite false), rest)
  | _, _, _, _, _, some rest => .ok (.real (.infinite true), rest)
  | _, _, _, _, _, _ =>
      let found := match text with
        | '-' :: rest => number? true rest
        | _ => number? false text
      match found with
      | some result => .ok result
      | none => .error ⟨.expectingValue, text.length⟩

mutual

def value : (fuel : Nat) → Reader Value
  | 0, text => .error ⟨.expectingValue, text.length⟩
  | fuel + 1, text =>
      match text with
      | '"' :: rest => (string rest).map fun (s, rest) => (.text s, rest)
      | '[' :: rest =>
          match skipBlank rest with
          | ']' :: rest => .ok (.list [], rest)
          | rest => (items fuel [] rest).map fun (all, rest) => (.list all, rest)
      | '\x7b' :: rest =>
          match skipBlank rest with
          | '\x7d' :: rest => .ok (.map [], rest)
          | rest => (fields fuel [] rest).map fun (all, rest) => (.map all, rest)
      | _ => scalar text

def items : (fuel : Nat) → List Value → Reader (List Value)
  | 0, _, text => .error ⟨.expectingValue, text.length⟩
  | fuel + 1, done, text => do
      let (item, rest) ← value fuel text
      match skipBlank rest with
      | ',' :: rest => items fuel (item :: done) (skipBlank rest)
      | ']' :: rest => .ok ((item :: done).reverse, rest)
      | rest => .error ⟨.expectingComma, rest.length⟩

def fields : (fuel : Nat) → Entries → Reader Entries
  | 0, _, text => .error ⟨.expectingName, text.length⟩
  | fuel + 1, done, text =>
      match text with
      | '"' :: rest => do
          let (name, rest) ← string rest
          match skipBlank rest with
          | ':' :: rest => do
              let (item, rest) ← value fuel (skipBlank rest)
              let done := done.insert (.text name) item
              match skipBlank rest with
              | ',' :: rest => fields fuel done (skipBlank rest)
              | '\x7d' :: rest => .ok (done, rest)
              | rest => .error ⟨.expectingComma, rest.length⟩
          | rest => .error ⟨.expectingColon, rest.length⟩
      | _ => .error ⟨.expectingName, text.length⟩

end

def read (text : String) : Except Stop Value := do
  let chars := text.toList
  if chars.head? = some '\ufeff' then throw ⟨.byteOrderMark, chars.length⟩
  let (v, rest) ← value (chars.length + 1) (skipBlank chars)
  match skipBlank rest with
  | [] => return v
  | rest => throw ⟨.extraData, rest.length⟩

def Stop.message (stop : Stop) (text : String) : String :=
  let chars := text.toList
  let offset := chars.length - stop.left
  let (line, column) := Text.lineColumn chars offset
  stop.fault.message ++ ": line " ++ toString line ++ " column " ++ toString column ++
    " (char " ++ toString offset ++ ")"

end EventRetention.Json
