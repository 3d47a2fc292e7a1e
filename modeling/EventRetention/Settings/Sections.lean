import EventRetention.Settings.Conversion
import EventRetention.Value.Display

/-!
Sections gathered from several sources. Names count in any letter case; a later
map is merged into an earlier one of its section, and any other later value
takes its place.
-/

namespace EventRetention.Sections

def splitName : List Char → List (List Char)
  | [] => [[]]
  | '_' :: '_' :: rest => [] :: splitName rest
  | '.' :: rest => [] :: splitName rest
  | c :: rest =>
      match splitName rest with
      | part :: parts => (c :: part) :: parts
      | [] => [[c]]

def sameName (a b : String) : Bool := Text.lower a == Text.lower b

def underscored (name : String) : String :=
  String.ofList (name.toList.map fun c => if c = ' ' then '_' else c)

/-- How the first of some keys that has a name spells it. Keys behind one that
    is no text are not looked at. -/
def firstSpelling? (name : String) : Entries → Option Value
  | [] => none
  | (.text s, _) :: rest =>
      if sameName s name || sameName (underscored s) name then some (.text s)
      else firstSpelling? name rest
  | _ => none

def spelling? (entries : Entries) (key : Value) : Option Value :=
  if (entries.get? key).isSome then some key
  else match key with
    | .text name => firstSpelling? name entries
    | _ => some key

/-- New entries with their keys spelled as in the old ones; those that are
    spelled there move behind the others. -/
def respell (old new : Entries) : Entries :=
  new.foldl (fun all entry =>
    match spelling? old entry.1, all.get? entry.1 with
    | some key, some value => (all.erase entry.1).insert key value
    | _, _ => all) new

def mergeEntries (old new : Entries) : Entries :=
  let new := respell old new
  new ++ old.filter fun entry => (new.get? entry.1).isNone

def mergeValues (old : Option Value) (new : Value) : Value :=
  match old, new with
  | some (.map old), .map new => .map (mergeEntries old new)
  | _, _ => new

def setSection (sections : Entries) (name : List Char) (value : Value) : Entries :=
  let key : Value := .text (Text.upper (String.ofList (Text.trimBy Text.isSpacing name)))
  sections.insert key (mergeValues (sections.get? key) value)

def nested (path : List (List Char)) (value : Value) : Value :=
  path.foldr (fun part inner => .map [(.text (String.ofList part), inner)]) value

def assign (sections : Entries) (name : String) (value : Value) : Option Entries := do
  let value ← convert value
  match splitName name.toList with
  | first :: path => return setSection sections first (nested path value)
  | [] => return sections

def assignAll (sections : Entries) : List (String × Value) → Option Entries
  | [] => some sections
  | (name, value) :: rest => do assignAll (← assign sections name value) rest

def capitalStart (name : String) : String := String.ofList (go name.toList)
where
  go : List Char → List Char
    | [] => []
    | '_' :: '_' :: rest => '_' :: '_' :: rest
    | c :: rest => Text.capital c ++ go rest

/-- The names of a document's entries with their values; of two spellings of a
    name the later value counts, as a whole. -/
def namedValues (document : Entries) : List (String × Value) :=
  let entries := document.foldl (fun all (key, value) =>
    Entries.insert all (.text (capitalStart key.plain)) value) []
  entries.map fun (key, value) => (key.plain, value)

def lowerKeys : Value → Option Value
  | .map entries =>
      (entries.mapM fun ((key, value) : Value × Value) =>
        key.text?.map fun s => (Value.text (Text.lower s), value)).map
        fun all => .map (Entries.merge [] all)
  | other => some other

def internalNames : List String := ["LOAD_DOTENV", "ENVIRONMENTS", "SETTINGS_FILES"]

def isInternal (name : Value) : Bool := internalNames.any fun internal => name == .text internal

/-- The sections in small letters, without the loader's own, whose keys are not
    looked at. -/
def lowerNames (sections : Entries) : Option Entries :=
  (sections.filter fun entry => !isInternal entry.1).mapM fun ((key, value) : Value × Value) =>
    (lowerKeys value).map fun value => (.text (Text.lower key.plain), value)

end EventRetention.Sections
