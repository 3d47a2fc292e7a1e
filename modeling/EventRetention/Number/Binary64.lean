/-!
Binary floating-point numbers with 53 significant bits, in exact integer
arithmetic: rounding of a quotient to the nearest such number (a tie goes to
the even significand), and reading the exact value back.
-/

namespace EventRetention

/-- A binary64 number. A finite one is `± significand * 2 ^ exponent`, where the
    significand has 53 bits unless the exponent is the least one, -1074. -/
inductive Binary64 where
  | finite (negative : Bool) (significand : Nat) (exponent : Int)
  | infinite (negative : Bool)
  | nan
deriving DecidableEq, Repr

namespace Binary64

/-- The quotient of two naturals rounded to the nearest natural; a tie goes to
    the even neighbour. -/
def roundHalfEven (num den : Nat) : Nat :=
  let q := num / den
  let r := num % den
  if 2 * r < den then q
  else if den < 2 * r then q + 1
  else if q % 2 = 0 then q else q + 1

def scaled (num den : Nat) (exponent : Int) : Nat × Nat :=
  if exponent < 0 then (num * Nat.pow 2 exponent.natAbs, den)
  else (num, den * Nat.pow 2 exponent.natAbs)

def exponentFor (num den : Nat) : Int :=
  let guess : Int := (num.log2 : Int) - den.log2 - 53
  let (n, d) := scaled num den guess
  max (-1074) (if n / d < Nat.pow 2 53 then guess else guess + 1)

def ofQuotient (negative : Bool) (num den : Nat) : Binary64 :=
  if num = 0 then .finite negative 0 (-1074)
  else
    let e := exponentFor num den
    let (n, d) := scaled num den e
    let m := roundHalfEven n d
    let (m, e) := if m = Nat.pow 2 53 then (Nat.pow 2 52, e + 1) else (m, e)
    if 971 < e then .infinite negative else .finite negative m e

/-- The number nearest to `± digits * 10 ^ power`. Powers far beyond the range
    of binary64 are settled without computing them. -/
def ofScientific (negative : Bool) (digits : Nat) (power : Int) : Binary64 :=
  let size := power + (digits.log2 * 3 / 10 : Nat)
  if digits = 0 then .finite negative 0 (-1074)
  else if 400 < size then .infinite negative
  else if power + (digits.log2 : Int) < -400 then .finite negative 0 (-1074)
  else if power < 0 then ofQuotient negative digits (Nat.pow 10 power.natAbs)
  else ofQuotient negative (digits * Nat.pow 10 power.natAbs) 1

def ofInt (n : Int) : Binary64 := ofQuotient (n < 0) n.natAbs 1

def magnitude (significand : Nat) (exponent : Int) : Nat × Nat :=
  if exponent < 0 then (significand, Nat.pow 2 exponent.natAbs)
  else (significand * Nat.pow 2 exponent.natAbs, 1)

def truncate? : Binary64 → Option Int
  | .finite negative m e =>
      let (n, d) := magnitude m e
      some (if negative then -(n / d : Nat) else (n / d : Nat))
  | _ => none

def ceil? : Binary64 → Option Int
  | .finite negative m e =>
      let (n, d) := magnitude m e
      some (if negative then -(n / d : Nat) else ((n + d - 1) / d : Nat))
  | _ => none

def integral? : Binary64 → Option Int
  | .finite negative m e =>
      let (n, d) := magnitude m e
      if n % d = 0 then some (if negative then -(n / d : Nat) else (n / d : Nat)) else none
  | _ => none

/-- The quotient of two integers, correctly rounded; none when it is too large
    for a finite number. The divisor is not zero. -/
def quotient? (a b : Int) : Option Binary64 :=
  match ofQuotient ((a < 0) != (b < 0)) a.natAbs b.natAbs with
  | .infinite _ => none
  | x => some x

end Binary64

end EventRetention
