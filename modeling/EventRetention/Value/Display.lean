import EventRetention.Number.Shortest
import EventRetention.Text.Quoted
import EventRetention.Value.Basic

/-!
Values as text for console lines and messages: constants by name, text in
quotes, lists in brackets and maps in braces.
-/

namespace EventRetention.Value

mutual

def display : Value → String
  | .null => "None"
  | .bool b => if b then "True" else "False"
  | .int n => toString n
  | .real x => x.text
  | .text s => Text.quoted s
  | .moment s => Text.quoted s
  | .list items => "[" ++ displayItems items ++ "]"
  | .map entries => "\x7b" ++ displayEntries entries ++ "\x7d"

def displayItems : List Value → String
  | [] => ""
  | [item] => display item
  | item :: rest => display item ++ ", " ++ displayItems rest

def displayEntries : List (Value × Value) → String
  | [] => ""
  | [(key, item)] => display key ++ ": " ++ display item
  | (key, item) :: rest => display key ++ ": " ++ display item ++ ", " ++ displayEntries rest

end

def plain : Value → String
  | .text s => s
  | value => display value

mutual

def hasText : Value → Bool
  | .int n => Text.hasDecimal n
  | .list items => haveText items
  | .map entries => entriesHaveText entries
  | _ => true

def haveText : List Value → Bool
  | [] => true
  | item :: rest => hasText item && haveText rest

def entriesHaveText : List (Value × Value) → Bool
  | [] => true
  | (key, item) :: rest => hasText key && hasText item && entriesHaveText rest

end

end EventRetention.Value
