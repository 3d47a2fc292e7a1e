import EventRetention.Text.LetterCase
import EventRetention.Yaml.Node
import EventRetention.Yaml.Scalar

/-!
The value of a YAML document.
-/

namespace EventRetention.Yaml

def coreTag (name : String) : String := "tag:yaml.org,2002:" ++ name

def taggedBoolean (text : String) : Except Fault Value :=
  match Text.lower text with
  | "yes" | "y" | "true" | "on" => .ok (.bool true)
  | "no" | "n" | "false" | "off" => .ok (.bool false)
  | _ => .error .notBoolean

def taggedReal (text : String) : Except Fault Value :=
  let chars := withoutSeparators text.toList
  match real? chars, integer? chars with
  | some x, _ => x.map .real
  | _, some n => n.map fun n => .real (.ofInt n)
  | _, _ => .error (.notReal (String.ofList chars))

def scalarValue (tag : Option String) (isPlain : Bool) (text : String) : Except Fault Value :=
  match tag with
  | none => if isPlain then resolve text else .ok (.text text)
  | some tag =>
      if tag = "!" then resolve text
      else if tag = coreTag "str" then .ok (.text text)
      else if tag = coreTag "null" then .ok .null
      else if tag = coreTag "bool" then taggedBoolean text
      else if tag = coreTag "int" then
        match integer? text.toList with
        | some n => n.map .int
        | none => .error (.number (.malformed text))
      else if tag = coreTag "float" then taggedReal text
      else if tag = coreTag "timestamp" then (moment? text.toList).getD (.error .malformed)
      else .error .malformed

def allowsTag (kind : String) (tag : Option String) : Bool :=
  tag = none || tag = some "!" || tag = some (coreTag kind)

def isMergeKey : Node → Bool
  | .scalar tag isPlain text =>
      tag = some (coreTag "merge") ||
        (text = "<<" && (tag = some "!" || (tag = none && isPlain)))
  | _ => false

def isValueKey : Node → Bool
  | .scalar tag isPlain text =>
      tag = some (coreTag "value") ||
        (text = "=" && (tag = some "!" || (tag = none && isPlain)))
  | _ => false

def insertNew : Entries → List (Value × Value) → Except Fault Entries
  | done, [] => .ok done
  | done, (key, value) :: rest =>
      if (done.get? key).isSome then .error .duplicateKey
      else insertNew (done ++ [(key, value)]) rest

/-- The entries that a merged value brings; of several mappings the first
    counts most. -/
def mergedEntries : Value → Except Fault Entries
  | .map entries => .ok entries
  | .list items => do
      let all ← items.mapM fun item =>
        match item with
        | .map entries => .ok entries
        | _ => Except.error Fault.malformed
      return all.foldr (fun entries total => Entries.merge total entries) []
  | _ => .error .malformed

/-- Puts the entries of a mapping together: merged ones come first, and yield
    to those that are written out. -/
def assemble (merged : List Value) (own : List (Value × Value)) : Except Fault Entries :=
  match merged with
  | [] => insertNew [] own
  | [value] => do return (Entries.merge [] (← mergedEntries value)).merge own
  | _ => .error .duplicateKey

mutual

def Node.value : Node → Except Fault Value
  | .scalar tag isPlain text => scalarValue tag isPlain text
  | .sequence tag items => do
      let values ← itemValues items
      if allowsTag "seq" tag then return .list values else throw .malformed
  | .mapping tag entries => do
      let (merged, own) ← entryValues entries
      let all ← assemble merged own
      if allowsTag "map" tag then return .map all else throw .malformed

def itemValues : List Node → Except Fault (List Value)
  | [] => .ok []
  | item :: rest => do return (← item.value) :: (← itemValues rest)

def entryValues : List (Node × Node) → Except Fault (List Value × List (Value × Value))
  | [] => .ok ([], [])
  | (key, value) :: rest => do
      if isMergeKey key then
        let first ← value.value
        let (merged, own) ← entryValues rest
        return (first :: merged, own)
      else
        let name ← if isValueKey key then .ok (.text "=") else key.value
        match name with
        | .map _ => throw .malformed
        | _ =>
            let first ← value.value
            let (merged, own) ← entryValues rest
            return (merged, (name, first) :: own)

end

def read (text : String) : Except Fault Value :=
  match tokens? text.toList with
  | none => .error .malformed
  | some tokens =>
      match document? tokens with
      | none => .error .malformed
      | some none => .ok .null
      | some (some found) => found.value

end EventRetention.Yaml
