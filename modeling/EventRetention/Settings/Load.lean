import EventRetention.Settings.Basic
import EventRetention.Settings.Sections
import EventRetention.Text.Layout
import EventRetention.Yaml.Document

/-!
Loading settings: a settings file is read first, then the environment is laid
over it, and the whole is checked. What neither gives has its default.
-/

namespace EventRetention.Settings

inductive SourceFault where
  | fileMissing (path : String)
  | yaml (fault : Yaml.Fault)
  | json (stop : Json.Stop) (text : String)
  | notAMap
  | nameTooLong
  | conversion
  | keyNotText

inductive LoadFault where
  | source (fault : SourceFault)
  | invalid (complaints : List Complaint)

def SourceFault.message : SourceFault → String
  | fileMissing path => "Config file not found: " ++ path
  | yaml (.number fault) => fault.message
  | yaml (.notReal text) => "could not convert string to float: " ++ Text.quoted text
  | yaml (.date message) => message
  | yaml _ => "malformed document"
  | json stop text => stop.message text
  | notAMap => "document is no map"
  | nameTooLong => Text.limitMessage
  | conversion => "failed conversion"
  | keyNotText => "key is no text"

inductive FileKind where
  | yaml
  | json
deriving DecidableEq, Repr

def FileKind.ofPath? (path : String) : Option FileKind :=
  if path.endsWith ".yaml" || path.endsWith ".yml" then some .yaml
  else if path.endsWith ".json" then some .json
  else none

structure File where
  path : String
  text : String

def File.document (file : File) : Except SourceFault Value :=
  let text := String.ofList (Text.unifyLineEnds file.text.toList)
  match FileKind.ofPath? file.path with
  | some .yaml => (Yaml.read text).mapError .yaml
  | some .json => (Json.read text).mapError fun stop => .json stop text
  | none => .ok .null

/-- Whether a document counts as empty: null, false, zero, or without
    content. -/
def isEmptyDocument : Value → Bool
  | .null => true
  | .bool b => !b
  | .int n => n = 0
  | .real x => x.integral? = some 0
  | .text s => s.isEmpty
  | .list items => items.isEmpty
  | .map entries => entries.isEmpty
  | .moment _ => false

def documentEntries (document : Value) : Except SourceFault Entries :=
  match document with
  | .map entries => if entries.all fun entry => entry.1.hasText then .ok entries else .error .nameTooLong
  | other => if isEmptyDocument other then .ok [] else .error .notAMap

def environmentMark : String := "AUTOSCALER_EVENTS_"

def markedVariables (environment : List (String × String)) : List (String × String) :=
  environment.filterMap fun (name, value) =>
    if environmentMark.toList.isPrefixOf name.toList then
      some (String.ofList (name.toList.drop environmentMark.length), value)
    else none

def fileSections (file : Option File) : Except SourceFault Entries := do
  match file with
  | none => return []
  | some file =>
      let entries ← documentEntries (← file.document)
      match Sections.assignAll [] (Sections.namedValues entries) with
      | some sections => return sections
      | none => throw .conversion

def environmentSections (sections : Entries) (environment : List (String × String)) :
    Except SourceFault Entries :=
  let values := (markedVariables environment).mapM fun (name, value) =>
    (Sections.environmentValue value).map fun value => (name, value)
  match values.bind (Sections.assignAll sections) with
  | some sections => .ok sections
  | none => .error .conversion

def gathered (file : Option File) (environment : List (String × String)) :
    Except SourceFault Entries := do
  let sections ← environmentSections (← fileSections file) environment
  match Sections.lowerNames sections with
  | some document => return document
  | none => throw .keyNotText

def load (file : Option File) (environment : List (String × String)) : Except LoadFault Settings :=
  match gathered file environment with
  | .error fault => .error (.source fault)
  | .ok document => (check document).mapError .invalid

end EventRetention.Settings
