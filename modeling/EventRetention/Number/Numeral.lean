import EventRetention.Number.Binary64
import EventRetention.Text.Digits
import EventRetention.Text.Layout
import EventRetention.Text.LetterCase
import EventRetention.Text.Quoted

/-!
Numerals: what a numeric column of a result row may hold, and the integer it
stands for.
-/

namespace EventRetention

inductive Numeral where
  | int (n : Int)
  | real (x : Binary64)
  | text (s : String)
  | other
deriving DecidableEq, Repr

namespace Numeral

inductive Fault where
  | malformed (text : String)
  | tooManyDigits (count : Nat)
  | notANumber
  | infinite
  | notNumeric
deriving DecidableEq, Repr

def Fault.message : Fault → String
  | .malformed s =>
      "invalid literal for int() with base 10: " ++
        String.ofList ((Text.quoted s).toList.take 200)
  | .tooManyDigits n =>
      "Exceeds the limit (4300 digits) for integer string conversion: value has " ++ toString n ++
        " digits; use sys.set_int_max_str_digits() to increase the limit"
  | .notANumber => "cannot convert float NaN to integer"
  | .infinite => "cannot convert float infinity to integer"
  | .notNumeric => "not a number"

def separatedDigits? (digit? : Char → Option Nat) : List Char → Option (List Nat)
  | [] => none
  | [c] => (digit? c).map ([·])
  | c :: '_' :: rest => do
      let d ← digit? c
      return d :: (← separatedDigits? digit? rest)
  | c :: rest => do
      let d ← digit? c
      return d :: (← separatedDigits? digit? rest)

def splitSign : List Char → Bool × List Char
  | '-' :: rest => (true, rest)
  | '+' :: rest => (false, rest)
  | unsigned => (false, unsigned)

/-- The integer a text denotes: spaces around it, a sign, and digits of any
    script with single underscores between them. -/
def ofText (s : String) : Except Fault Int :=
  let (negative, body) := splitSign (Text.trimBy Text.isBlank s.toList)
  match separatedDigits? Text.unicodeDigit? body with
  | none => .error (.malformed s)
  | some digits =>
      if 4300 < digits.length then .error (.tooManyDigits digits.length)
      else
        let n : Int := Text.ofDigitValues 10 digits
        .ok (if negative then -n else n)

def digitsBefore (stop : Char → Bool) (text : List Char) : Option (List Nat) × List Char :=
  let run := text.takeWhile fun c => !stop c
  (if run.isEmpty then some [] else separatedDigits? Text.unicodeDigit? run, text.drop run.length)

def realOfText? (s : String) : Option Binary64 := do
  let (negative, body) := splitSign (Text.trimBy Text.isBlank s.toList)
  match Text.lower (String.ofList body) with
  | "inf" | "infinity" => return .infinite negative
  | "nan" => return .nan
  | _ =>
      let startsExponent := fun (c : Char) => c = 'e' || c = 'E'
      let (whole, rest) := digitsBefore (fun c => c = '.' || startsExponent c) body
      let (fraction, rest) := match rest with
        | '.' :: more => digitsBefore startsExponent more
        | _ => (some [], rest)
      let digits := (← whole) ++ (← fraction)
      if digits.isEmpty then none
      let exponent ← match rest with
        | [] => some 0
        | _ :: more =>
            let (down, power) := splitSign more
            (separatedDigits? Text.unicodeDigit? power).map fun power =>
              let n : Int := Text.ofDigitValues 10 power
              if down then -n else n
      return .ofScientific negative (Text.ofDigitValues 10 digits)
        (exponent - ((← fraction).length : Int))

def toInt : Numeral → Except Fault Int
  | .int n => .ok n
  | .real .nan => .error .notANumber
  | .real (.infinite _) => .error .infinite
  | .real x => .ok (x.truncate?.getD 0)
  | .text s => ofText s
  | .other => .error .notNumeric

end Numeral

end EventRetention
