import EventRetention.Number.Numeral
import EventRetention.Toml.Reader

/-!
Explicit conversions: a text that starts with a mark such as `@int` says what
the rest of it is to become. Texts from the environment are read as TOML values
otherwise, and stay as they are when they are none.
-/

namespace EventRetention.Sections

inductive Conversion where
  | text
  | integer
  | real
  | boolean
  | json
  | nothing
  | merge
deriving DecidableEq, Repr

namespace Conversion

def all : List (String × Conversion) :=
  [("@str", text), ("@int", integer), ("@float", real), ("@bool", boolean), ("@json", json),
    ("@none", nothing), ("@merge", merge)]

/-- Whether a text starts with a mark, be it only as a part of a longer
    word. -/
def isMarked (text : List Char) : Bool := all.any fun mark => mark.1.toList.isPrefixOf text

def trueWords : List String := ["t", "true", "enabled", "1", "on", "yes"]

-- Characters are skipped as long as they belong to the object before them.
def jsonObjects : (skip : Nat) → List Char → List Value
  | _, [] => []
  | skip + 1, _ :: rest => jsonObjects skip rest
  | 0, c :: rest =>
      if c = '\x7b' then
        match Json.value (rest.length + 2) (c :: rest) with
        | .ok (found, after) => found :: jsonObjects (rest.length - after.length) rest
        | .error _ => jsonObjects 0 rest
      else jsonObjects 0 rest

def isNameCharacter (c : Char) : Bool := c.isAlphanum || c = '_' || c = ' '

def isValueCharacter (c : Char) : Bool := c.isAlphanum || c = '-' || c = ' ' || c = ':'

/-- Names and values with an equals sign between them, which are skipped before
    the next pair is looked for. -/
def pairs : (skip : Nat) → List Char → List (List Char × List Char)
  | _, [] => []
  | skip + 1, _ :: rest => pairs skip rest
  | 0, c :: rest =>
      let name := (c :: rest).takeWhile isNameCharacter
      match (c :: rest).drop name.length with
      | '=' :: more =>
          let value := more.takeWhile isValueCharacter
          (name, value) :: pairs (name.length + value.length) rest
      | _ => pairs 0 rest

def tomlOrText (text : List Char) : Value :=
  let s := String.ofList text
  (Toml.read? s).getD (.text s)

/-- The entries to merge that a text denotes: a table, a JSON object, or pairs.
    Anything else becomes a list. -/
def mergeValue (text : List Char) : Value :=
  match tomlOrText text with
  | .text s =>
      match jsonObjects 0 s.toList, pairs 0 s.toList with
      | [found], _ => found
      | _, [] => .list ((s.splitOn ",").map .text)
      | _, all => .map (all.foldl (fun entries (name, value) =>
          Entries.insert entries (.text (String.ofList (Text.trimBy Text.isSpacing name)))
            (tomlOrText (Text.trimEndBy Text.isSpacing value))) [])
  | .map entries => .map entries
  | .list items => .list items
  | other => .list [other]

def apply (conversion : Conversion) (rest : List Char) : Option Value :=
  let s := String.ofList rest
  match conversion with
  | text => some (.text s)
  | integer =>
      match Numeral.ofText s with
      | .ok n => some (.int n)
      | .error _ => none
  | real => (Numeral.realOfText? s).map .real
  | boolean => some (.bool (trueWords.contains (Text.lower s)))
  | json =>
      match Json.read s with
      | .ok value => some value
      | .error _ => none
  | nothing => some .null
  | merge => some (mergeValue rest)

end Conversion

def convertText (s : String) : Option Value :=
  let text := s.toList
  if Conversion.isMarked text then do
    let word := text.takeWhile (· ≠ ' ')
    let conversion ← Conversion.all.lookup (String.ofList word)
    conversion.apply (text.drop (word.length + 1))
  else some (.text s)

mutual

def convert : Value → Option Value
  | .text s => convertText s
  | .list items => (convertItems items).map .list
  | .map entries => (convertEntries entries).map .map
  | other => some other

def convertItems : List Value → Option (List Value)
  | [] => some []
  | item :: rest => do return (← convert item) :: (← convertItems rest)

def convertEntries : List (Value × Value) → Option (List (Value × Value))
  | [] => some []
  | (key, value) :: rest => do return (key, ← convert value) :: (← convertEntries rest)

end

/-- The value of an environment variable: converted if it has a mark, else read
    as TOML, where the truth values may start with a capital letter. -/
def environmentValue (s : String) : Option Value :=
  if Conversion.isMarked s.toList then convertText s
  else
    let trimmed := String.ofList (Text.trimBy Text.isSpacing s.toList)
    let s := if trimmed = "True" || trimmed = "False" then Text.lower s else s
    some (Conversion.tomlOrText s.toList)

end EventRetention.Sections
