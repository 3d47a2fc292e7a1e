import EventRetention.Number.Numeral
import EventRetention.Time.Instant
import EventRetention.Value.Basic

/-!
What a plain scalar stands for: null, a truth value, a number, a date or time,
and else a text. Numbers may hold underscores, and a leading zero has no
meaning of its own.
-/

namespace EventRetention.Yaml

inductive Fault where
  | malformed
  | duplicateKey
  | number (fault : Numeral.Fault)
  | notReal (text : String)
  | date (message : String)
  | notBoolean
deriving DecidableEq, Repr

def withoutSeparators (text : List Char) : List Char := text.filter (· ≠ '_')

def isDigitRun (base : Nat) (text : List Char) : Bool :=
  !text.isEmpty && text.all fun c => c = '_' || (digitOf c).any (· < base)
where
  digitOf (c : Char) : Option Nat :=
    if c.isDigit then some (c.toNat - 48)
    else if 'a' ≤ c ∧ c ≤ 'f' then some (c.toNat - 87)
    else if 'A' ≤ c ∧ c ≤ 'F' then some (c.toNat - 55)
    else none

def digitsValue (base : Nat) (text : List Char) : Except Fault Nat :=
  match (withoutSeparators text).mapM isDigitRun.digitOf with
  | some (d :: ds) =>
      if base = 10 && 4300 < ds.length + 1 then .error (.number (.tooManyDigits (ds.length + 1)))
      else .ok (Text.ofDigitValues base (d :: ds))
  | _ => .error (.number (.malformed (String.ofList (withoutSeparators text))))

def integerForm? (body : List Char) : Option (Nat × List Char) :=
  match body with
  | '0' :: 'b' :: digits => if isDigitRun 2 digits then some (2, digits) else none
  | '0' :: 'o' :: digits => if isDigitRun 8 digits then some (8, digits) else none
  | '0' :: 'x' :: digits => if isDigitRun 16 digits then some (16, digits) else none
  | _ => if isDigitRun 10 body then some (10, body) else none

def integer? (text : List Char) : Option (Except Fault Int) :=
  let (negative, body) := Numeral.splitSign text
  if text.head? = some '_' then none
  else
    (integerForm? body).map fun (base, digits) =>
      (digitsValue base digits).map fun n => if negative then -(n : Int) else n

def exponent? (signNeeded : Bool) : List Char → Option (Option Int)
  | [] => some none
  | c :: rest =>
      if c = 'e' || c = 'E' then
        match rest with
        | '-' :: digits => (Text.natural? digits).map fun n => some (-(n : Int))
        | '+' :: digits => (Text.natural? digits).map fun n => some (n : Int)
        | digits => if signNeeded then none else (Text.natural? digits).map fun n => some (n : Int)
      else none

def realOf (negative : Bool) (whole fraction : List Char) (exponent : Option Int) :
    Except Fault Binary64 :=
  let fraction := withoutSeparators fraction
  match Text.natural? (withoutSeparators whole ++ fraction) with
  | some n => .ok (.ofScientific negative n (exponent.getD 0 - fraction.length))
  | none => .error (.notReal ".")

def real? (text : List Char) : Option (Except Fault Binary64) :=
  let (negative, body) := Numeral.splitSign text
  let isRun := fun (c : Char) => c.isDigit || c = '_'
  match body with
  | '.' :: rest =>
      if [".inf", ".Inf", ".INF"].contains (String.ofList body) then some (.ok (.infinite negative))
      else if [".nan", ".NaN", ".NAN"].contains (String.ofList text) then some (.ok .nan)
      else
        let fraction := rest.takeWhile isRun
        if fraction.isEmpty then none
        else (exponent? true (rest.drop fraction.length)).map (realOf negative [] fraction)
  | c :: _ =>
      if !c.isDigit then none
      else
        let whole := body.takeWhile isRun
        match body.drop whole.length with
        | '.' :: rest =>
            let fraction := rest.takeWhile isRun
            (exponent? false (rest.drop fraction.length)).map (realOf negative whole fraction)
        | rest =>
            match exponent? false rest with
            | some (some e) => some (realOf negative whole [] (some e))
            | _ => none
  | [] => none

def isOffset (text : List Char) : Bool :=
  match text.dropWhile fun c => c = ' ' || c = '\t' with
  | [] => text.isEmpty
  | ['Z'] => true
  | sign :: rest =>
      (sign = '+' || sign = '-') &&
        match Text.shortRun? 1 2 rest with
        | some (_, []) => true
        | some (_, ':' :: minutes) => minutes.length = 2 && minutes.all Char.isDigit
        | _ => false

def timeOfDay? (text : List Char) : Option (Nat × Nat × Nat × List Char) := do
  let (hour, rest) ← Text.shortRun? 1 2 text
  let (minute, rest) ← Text.shortRun? 2 2 (← Text.after? ':' rest)
  let (second, rest) ← Text.shortRun? 2 2 (← Text.after? ':' rest)
  let (fraction, rest) := match rest with
    | '.' :: more => (more.takeWhile Char.isDigit, more.dropWhile Char.isDigit)
    | _ => ([], rest)
  if isOffset rest then some (hour, minute, second, fraction) else none

def dateFault? (d : Date) : Option String :=
  if d.year = 0 then some "year 0 is out of range"
  else if d.month < 1 || 12 < d.month then some "month must be in 1..12"
  else if d.isValid then none
  else some "day is out of range for month"

def timeFault? (hour minute second : Nat) (fraction : List Char) : Option String :=
  if 23 < hour then some "hour must be in 0..23"
  else if 59 < minute then some "minute must be in 0..59"
  else if 59 < second then some "second must be in 0..59"
  else if (fraction.take 6).length = 6 && (fraction.take 6).all (· = '9') &&
      (fraction.drop 6).head?.any (fun c => '4' < c) then
    some "microsecond must be in 0..999999"
  else none

def moment? (text : List Char) : Option (Except Fault Value) := do
  let (year, rest) ← Text.shortRun? 4 4 text
  let (month, rest) ← Text.shortRun? 1 2 (← Text.after? '-' rest)
  let (day, rest) ← Text.shortRun? 1 2 (← Text.after? '-' rest)
  let moment : Value := .moment (String.ofList text)
  let date : Date := ⟨year, month, day⟩
  let checked := fun (fault : Option String) =>
    match fault with
    | some message => Except.error (Fault.date message)
    | none => .ok moment
  match rest with
  | [] => if text.length = 10 then some (checked (dateFault? date)) else none
  | c :: more =>
      let time ← if c = 'T' || c = 't' then timeOfDay? more
        else if c = ' ' || c = '\t' then timeOfDay? (rest.dropWhile fun c => c = ' ' || c = '\t')
        else none
      let (hour, minute, second, fraction) := time
      return checked (dateFault? date <|> timeFault? hour minute second fraction)

def isNull (text : String) : Bool := ["", "~", "null", "Null", "NULL"].contains text

def boolean? (text : String) : Option Bool :=
  if ["true", "True", "TRUE"].contains text then some true
  else if ["false", "False", "FALSE"].contains text then some false
  else none

/-- The value of a plain scalar without a tag. The merge mark and the value
    mark stand for nothing. -/
def resolve (text : String) : Except Fault Value :=
  if isNull text then .ok .null
  else if text = "<<" || text = "=" then .error .malformed
  else match boolean? text, real? text.toList, integer? text.toList, moment? text.toList with
    | some b, _, _, _ => .ok (.bool b)
    | _, some x, _, _ => x.map .real
    | _, _, some n, _ => n.map .int
    | _, _, _, some t => t
    | _, _, _, _ => .ok (.text text)

end EventRetention.Yaml
