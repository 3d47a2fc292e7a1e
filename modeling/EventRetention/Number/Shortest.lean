import EventRetention.Number.Binary64
import EventRetention.Text.Digits

/-!
The shortest decimal text of a binary64 number: the fewest digits that read
back as the same number, and among those the digits nearest to it.
-/

namespace EventRetention.Binary64

/-- Whether `num / den` rounds to the finite number `m * 2 ^ e`: it lies
    between the midpoints to the two neighbours, which belong to an even
    significand. -/
def roundsTo (m : Nat) (e : Int) (num den : Nat) : Bool :=
  -- in quarters of the unit `2 ^ e`
  let (n, d) := scaled num den (e - 2)
  let low := 4 * m - (if m = Nat.pow 2 52 && -1074 < e then 1 else 2)
  let high := 4 * m + 2
  if m % 2 = 0 then low * d ≤ n && n ≤ high * d else low * d < n && n < high * d

def tenPower (power : Int) : Nat × Nat :=
  if power < 0 then (1, Nat.pow 10 power.natAbs) else (Nat.pow 10 power.natAbs, 1)

def leadingPower (num den : Nat) : (steps : Nat) → Int → Int
  | 0, p => p
  | steps + 1, p =>
      let (a, b) := tenPower (p + 1)
      if a * den ≤ num * b then leadingPower num den steps (p + 1) else p

/-- The neighbour of `num / den` on the grid of units `10 ^ power` that rounds
    to `m * 2 ^ e`; of two the nearer, and of two equally near the even one. -/
def gridPoint? (m : Nat) (e : Int) (num den : Nat) (power : Int) : Option Nat :=
  let (a, b) := tenPower power
  let below := num * b / (den * a)
  let hits := fun k => roundsTo m e (k * a) b
  let nearest := roundHalfEven (num * b) (den * a)
  match hits below, hits (below + 1) with
  | true, true => some nearest
  | true, false => some below
  | false, true => some (below + 1)
  | false, false => none

def shortestFrom (m : Nat) (e : Int) (num den : Nat) : (grids : Nat) → Int → Nat × Int
  | 0, power => (num * (tenPower power).2 / (den * (tenPower power).1), power)
  | grids + 1, power =>
      match gridPoint? m e num den power with
      | some k => (k, power)
      | none => shortestFrom m e num den grids (power - 1)

def dropZeros : (most : Nat) → Nat → Int → Nat × Int
  | 0, n, p => (n, p)
  | most + 1, n, p => if n ≠ 0 && n % 10 = 0 then dropZeros most (n / 10) (p + 1) else (n, p)

def shortest (m : Nat) (e : Int) : Nat × Int :=
  let (num, den) := magnitude m e
  let start : Int := ((num.log2 : Int) - den.log2 - 1) * 30103 / 100000 - 1
  let lead := leadingPower num den 8 start
  let (digits, power) := shortestFrom m e num den 17 lead
  dropZeros 20 digits power

/-- Positional text for leading digits from `10 ^ -4` up to `10 ^ 15`, else a
    mantissa and an exponent of at least two digits. -/
def finiteText (m : Nat) (e : Int) : String :=
  if m = 0 then "0.0"
  else
    let (n, power) := shortest m e
    let digits := (toString n).toList
    let lead := power + (digits.length : Int) - 1
    if lead < -4 || 16 ≤ lead then
      let (first, rest) := (digits.take 1, digits.drop 1)
      String.ofList first ++ (if rest.isEmpty then "" else "." ++ String.ofList rest) ++
        (if lead < 0 then "e-" else "e+") ++ Text.zeroPadded 2 lead.natAbs
    else if lead < 0 then
      "0." ++ String.ofList (List.replicate (lead.natAbs - 1) '0' ++ digits)
    else if 0 ≤ power then
      String.ofList (digits ++ List.replicate power.natAbs '0') ++ ".0"
    else
      let whole := digits.length - power.natAbs
      String.ofList (digits.take whole) ++ "." ++ String.ofList (digits.drop whole)

def text : Binary64 → String
  | .finite negative m e => (if negative then "-" else "") ++ finiteText m e
  | .infinite negative => if negative then "-inf" else "inf"
  | .nan => "nan"

end EventRetention.Binary64
