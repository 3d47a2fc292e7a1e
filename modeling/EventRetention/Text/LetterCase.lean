/-!
Letter case, as far as the other case is an ASCII letter. Names are compared
with ASCII names only, so no other letter can make a difference.
-/

namespace EventRetention.Text

/-- The capital form of a character: ASCII letters, the dotless i, the long s,
    and the letters whose capital form is two or three ASCII letters. -/
def capital (c : Char) : List Char :=
  if 'a' ≤ c ∧ c ≤ 'z' then [Char.ofNat (c.toNat - 32)]
  else match c.toNat with
    | 0x131 => ['I']
    | 0x17F => ['S']
    | 0xDF => ['S', 'S']
    | 0xFB00 => ['F', 'F']
    | 0xFB01 => ['F', 'I']
    | 0xFB02 => ['F', 'L']
    | 0xFB03 => ['F', 'F', 'I']
    | 0xFB04 => ['F', 'F', 'L']
    | 0xFB05 => ['S', 'T']
    | 0xFB06 => ['S', 'T']
    | _ => [c]

def small (c : Char) : Char :=
  if 'A' ≤ c ∧ c ≤ 'Z' then Char.ofNat (c.toNat + 32)
  else if c.toNat = 0x212A then 'k'
  else c

def upper (s : String) : String := String.ofList (s.toList.flatMap capital)

def lower (s : String) : String := String.ofList (s.toList.map small)

end EventRetention.Text
