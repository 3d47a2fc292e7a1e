import EventRetention.Number.Numeral
import EventRetention.Settings.Problem
import EventRetention.Text.LetterCase
import EventRetention.Value.Basic

/-!
Scalars of a settings document: which values stand for an integer, a truth
value, a text or a log level.
-/

namespace EventRetention.Settings

def integerOfText? (s : String) : Option Int :=
  let (negative, body) := Numeral.splitSign (Text.trimBy Text.isBlank s.toList)
  let whole := body.takeWhile (· ≠ '.')
  let isWhole := match body.drop whole.length with
    | [] => true
    | _ :: zeros => !zeros.isEmpty && zeros.all (· = '0')
  if isWhole then
    (Numeral.separatedDigits? Text.digitValue? whole).map fun digits =>
      let n : Int := Text.ofDigitValues 10 digits
      if negative then -n else n
  else none

def isWithinWord (n : Int) : Bool := -9223372036854775808 < n && n < 9223372036854775808

def integerOfReal (x : Binary64) : Except Problem Int :=
  match x with
  | .finite .. =>
      match x.integral? with
      | none => .error .fraction
      | some n => if isWithinWord n then .ok n else .error .integerSize
  | _ => .error .notFinite

def integer : Value → Except Problem Int
  | .bool b => .ok (if b then 1 else 0)
  | .int n => .ok n
  | .real x => integerOfReal x
  | .text s =>
      if 4300 < (Text.trimBy Text.isBlank s.toList).length then .error .integerSize
      else match integerOfText? s with
        | some n => .ok n
        | none => .error .integerText
  | _ => .error .integerKind

def positive (value : Value) : Except Problem { n : Nat // 0 < n } := do
  let n ← integer value
  if h : 0 < n then return ⟨n.toNat, by omega⟩ else throw .notPositive

def positiveUpTo (bound : Nat) (value : Value) : Except Problem { n : Nat // 0 < n ∧ n ≤ bound } := do
  let n ← positive value
  if h : n.val ≤ bound then return ⟨n.val, n.property, h⟩ else throw (.tooLarge bound)

def booleanOfWord? : String → Option Bool
  | "0" | "off" | "f" | "false" | "n" | "no" => some false
  | "1" | "on" | "t" | "true" | "y" | "yes" => some true
  | _ => none

def booleanOfInt (n : Int) : Except Problem Bool :=
  if n = 0 then .ok false else if n = 1 then .ok true else .error .booleanText

def boolean : Value → Except Problem Bool
  | .bool b => .ok b
  | .int n =>
      if -9223372036854775808 ≤ n ∧ n < 9223372036854775808 then booleanOfInt n
      else .error .booleanKind
  | .real x =>
      match integerOfReal x with
      | .ok n => booleanOfInt n
      | .error _ => .error .booleanKind
  | .text s =>
      match booleanOfWord? (Text.lower s) with
      | some b => .ok b
      | none => .error .booleanText
  | _ => .error .booleanKind

def text : Value → Except Problem String
  | .text s => .ok s
  | _ => .error .textKind

end EventRetention.Settings
