/-!
The characters of YAML text: line breaks, the ends of words, and the marks
that separate documents.
-/

namespace EventRetention.Yaml

def isBreak (c : Char) : Bool :=
  c = '\n' || c = '\r' || c = '\x85' || c = '\u2028' || c = '\u2029'

def endsLine : Option Char → Bool
  | none => true
  | some c => c = '\n' || c = '\r' || c = '\x85'

def endsWord : Option Char → Bool
  | some ' ' => true
  | some '\t' => true
  | other => endsLine other

def isFlowMark (c : Char) : Bool := [',', '[', ']', '\x7b', '\x7d'].contains c

def lineBreak? : List Char → Option (Char × List Char)
  | '\r' :: '\n' :: rest => some ('\n', rest)
  | c :: rest =>
      if endsLine (some c) then some ('\n', rest)
      else if isBreak c then some (c, rest)
      else none
  | [] => none

/-- Whether a line starts with a mark of three equal characters that stands
    as a word of its own. -/
def startsWithMark (mark : Char) : List Char → Bool
  | a :: b :: c :: rest => a = mark && b = mark && c = mark && endsWord rest.head?
  | _ => false

def separatesDocuments (line : List Char) : Bool :=
  startsWithMark '-' line || startsWithMark '.' line

def isPrintable (c : Char) : Bool :=
  let n := c.toNat
  n = 9 || n = 10 || n = 13 || (0x20 ≤ n && n ≤ 0x7E) || n = 0x85 || (0xA0 ≤ n && n ≤ 0xD7FF) ||
    (0xE000 ≤ n && n ≤ 0xFFFD) || 0x10000 ≤ n

def isNameCharacter (c : Char) : Bool :=
  let n := c.toNat
  (0x21 ≤ n && n ≤ 0x7E) || (0xA0 ≤ n && n ≤ 0xD7FF) ||
    (0xE000 ≤ n && n ≤ 0xFFFD && n ≠ 0xFEFF) || 0x10000 ≤ n

end EventRetention.Yaml
