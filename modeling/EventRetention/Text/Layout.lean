/-!
The layout of texts: blank characters, line ends, places by line and column, and
the style sequences of terminals. Numbers are trimmed of characters with the
white-space property; names are also trimmed of the four information separators.
-/

namespace EventRetention.Text

def isBlank (c : Char) : Bool :=
  let n := c.toNat
  (9 ≤ n && n ≤ 13) || n = 0x20 || n = 0x85 || n = 0xA0 || n = 0x1680 ||
    (0x2000 ≤ n && n ≤ 0x200A) || n = 0x2028 || n = 0x2029 || n = 0x202F || n = 0x205F ||
    n = 0x3000

def isSpacing (c : Char) : Bool := isBlank c || (0x1C ≤ c.toNat && c.toNat ≤ 0x1F)

def trimEndBy (drop : Char → Bool) (text : List Char) : List Char :=
  (text.reverse.dropWhile drop).reverse

def trimBy (drop : Char → Bool) (text : List Char) : List Char :=
  trimEndBy drop (text.dropWhile drop)

def padRight (width : Nat) (text : String) : String :=
  text ++ String.ofList (List.replicate (width - text.length) ' ')

-- A carriage return before a line feed belongs to it.
def joinPairs : List Char → List Char
  | '\r' :: '\n' :: rest => '\n' :: joinPairs rest
  | c :: rest => c :: joinPairs rest
  | [] => []

def unifyLineEnds (text : List Char) : List Char :=
  (joinPairs text).map fun c => if c = '\r' then '\n' else c

/-- Line and column of the character at an offset, both from 1; only a line feed
    ends a line. -/
def lineColumn (text : List Char) (offset : Nat) : Nat × Nat :=
  let before := text.take offset
  (before.count '\n' + 1, (before.reverse.takeWhile (· ≠ '\n')).length + 1)

def afterStyle? : List Char → Option (List Char)
  | '\x1b' :: '[' :: rest =>
      match rest.dropWhile fun c => c = ';' || c = '?' || c.isDigit with
      | c :: rest => if c.isAlpha then some rest else none
      | [] => none
  | _ => none

-- Characters are skipped as long as they belong to the sequence before them.
def cutStyles : (skip : Nat) → List Char → List Char
  | _, [] => []
  | skip + 1, _ :: rest => cutStyles skip rest
  | 0, c :: rest =>
      match afterStyle? (c :: rest) with
      | some after => cutStyles (rest.length - after.length) rest
      | none => c :: cutStyles 0 rest

def unstyled (text : String) : String := String.ofList (cutStyles 0 text.toList)

end EventRetention.Text
