import EventRetention.Number.Shortest
import EventRetention.Value.Basic

/-!
Writing values as JSON text in ASCII: other characters are escaped, those
beyond the basic plane as a pair of surrogates.
-/

namespace EventRetention.Json

def hexDigit (n : Nat) : Char := if n < 10 then Char.ofNat (48 + n) else Char.ofNat (87 + n)

def unitEscape (unit : Nat) : List Char :=
  ['\\', 'u', hexDigit (unit / 4096 % 16), hexDigit (unit / 256 % 16), hexDigit (unit / 16 % 16),
    hexDigit (unit % 16)]

def escaped (c : Char) : List Char :=
  if c = '"' then ['\\', '"']
  else if c = '\\' then ['\\', '\\']
  else if c = '\n' then ['\\', 'n']
  else if c = '\r' then ['\\', 'r']
  else if c = '\t' then ['\\', 't']
  else if c = '\x0c' then ['\\', 'f']
  else if c = '\x08' then ['\\', 'b']
  else if 0x20 ≤ c.toNat ∧ c.toNat < 0x7f then [c]
  else if c.toNat < 0x10000 then unitEscape c.toNat
  else
    let n := c.toNat - 0x10000
    unitEscape (0xD800 + n / 0x400) ++ unitEscape (0xDC00 + n % 0x400)

def quoted (s : String) : String := "\"" ++ String.ofList (s.toList.flatMap escaped) ++ "\""

def real : Binary64 → String
  | .infinite negative => if negative then "-Infinity" else "Infinity"
  | .nan => "NaN"
  | x => x.text

mutual

/-- The JSON text of a value; a key that is no text is written as the text of
    its own JSON. -/
def write : Value → String
  | .null => "null"
  | .bool b => if b then "true" else "false"
  | .int n => toString n
  | .real x => real x
  | .text s => quoted s
  | .moment s => quoted s
  | .list items => "[" ++ writeItems items ++ "]"
  | .map entries => "\x7b" ++ writeEntries entries ++ "\x7d"

def writeItems : List Value → String
  | [] => ""
  | [item] => write item
  | item :: rest => write item ++ ", " ++ writeItems rest

def writeEntries : List (Value × Value) → String
  | [] => ""
  | [(key, item)] => writeKey key ++ ": " ++ write item
  | (key, item) :: rest => writeKey key ++ ": " ++ write item ++ ", " ++ writeEntries rest

def writeKey : Value → String
  | .text s => quoted s
  | key => quoted (write key)

end

def isKey : Value → Bool
  | .int n => Text.hasDecimal n
  | .moment _ | .list _ | .map _ => false
  | _ => true

mutual

/-- Whether a value can be written: no integer in it has too many digits, and
    every key in it can be one. -/
def writable : Value → Bool
  | .int n => Text.hasDecimal n
  | .list items => writableItems items
  | .map entries => writableEntries entries
  | _ => true

def writableItems : List Value → Bool
  | [] => true
  | item :: rest => writable item && writableItems rest

def writableEntries : List (Value × Value) → Bool
  | [] => true
  | (key, item) :: rest => isKey key && writable item && writableEntries rest

end

def text? (value : Value) : Option String :=
  if writable value then some (write value) else none

end EventRetention.Json
