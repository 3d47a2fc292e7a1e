import EventRetention.Number.Shortest

/-!
Binary64 numbers with a given number of places or of significant digits,
rounded from the exact value; a tie goes to the even digit.
-/

namespace EventRetention.Binary64

def pointed (digits places : Nat) (keepPoint : Bool) : String :=
  let padded := (Text.zeroPadded (places + 1) digits).toList
  let whole := padded.length - places
  String.ofList (padded.take whole) ++
    (if places = 0 then (if keepPoint then "." else "")
      else "." ++ String.ofList (padded.drop whole))

def fixedText (m : Nat) (e : Int) (places : Nat) (keepPoint : Bool) : String :=
  let (num, den) := magnitude m e
  pointed (roundHalfEven (num * Nat.pow 10 places) den) places keepPoint

def significant (m : Nat) (e : Int) (count : Nat) : Nat × Int :=
  if m = 0 then (0, 0)
  else
    let (num, den) := magnitude m e
    let start : Int := ((num.log2 : Int) - den.log2 - 1) * 30103 / 100000 - 1
    let lead := leadingPower num den 8 start
    let (a, b) := tenPower (lead - ((count : Int) - 1))
    let n := roundHalfEven (num * b) (den * a)
    if n = Nat.pow 10 count then (Nat.pow 10 (count - 1), lead + 1) else (n, lead)

def exponentText (e : Int) : String :=
  (if e < 0 then "e-" else "e+") ++ Text.zeroPadded 2 e.natAbs

def scientificText (m : Nat) (e : Int) (places : Nat) (keepPoint : Bool) : String :=
  let (digits, power) := significant m e (places + 1)
  pointed digits places keepPoint ++ exponentText power

def trimFraction (s : String) : String :=
  let (whole, fraction) := (s.toList.takeWhile (· ≠ '.'), s.toList.dropWhile (· ≠ '.'))
  let kept := (fraction.reverse.dropWhile (· = '0')).reverse
  String.ofList (if kept = ['.'] then whole else whole ++ kept)

def generalText (m : Nat) (e : Int) (count : Nat) (keepPoint : Bool) : String :=
  let count := max 1 count
  let (digits, power) := significant m e count
  let trim := fun s => if keepPoint then s else trimFraction s
  if power < -4 || (count : Int) ≤ power then
    trim (pointed digits (count - 1) keepPoint) ++ exponentText power
  else
    let places := ((count : Int) - 1 - power).toNat
    trim (pointed digits places keepPoint)

end EventRetention.Binary64
