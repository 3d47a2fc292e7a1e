import EventRetention.Cli.Finding
import EventRetention.Settings.Load
import EventRetention.Workspace.Location

/-!
Running a command in a folder: its settings are loaded, from the settings file
if there is one, then its database is opened, and then it is carried out. Bad
settings, a database that cannot be reached and a cause that the database
itself reports are told to the user; anything else is not expected.
-/

namespace EventRetention

inductive Trouble where
  | settings (source : String) (complaints : List Settings.Complaint)
  | source (fault : Settings.SourceFault)
  | connection (fault : ConnectionFault)
  | store (cause : Failure)

structure Surroundings where
  environment : List (String × String)
  clock : Clock

structure Conclusion where
  answer : Except Trouble Finding
  notices : List Notice := []
  logging : LoggingSettings := {}

namespace Folder

/-- The settings that hold in a folder: those of the settings file, if there is
    one, and of the environment. A folder in place of the file has none. -/
def settings (f : Folder) (path : Path) (environment : List (String × String)) :
    Except Trouble Settings :=
  let file := (f.text? path).map fun text => ⟨path.text, text⟩
  match Settings.load file environment with
  | .ok settings => .ok settings
  | .error (.source fault) => .error (.source fault)
  | .error (.invalid complaints) =>
      .error (.settings (if f.has path then path.text else "environment") complaints)

end Folder

namespace Request

def address (r : Request) (settings : DatabaseSettings) : String :=
  match r.database with
  | none | some "" => settings.url
  | some url => url

def locate (r : Request) (settings : DatabaseSettings) (f : Folder) :
    Except ConnectionFault (Location × Folder) := do
  let location ← Location.ofText (r.address settings)
  return (location, ← (f.makeRoom location).mapError .folder)

def trouble (r : Request) (cause : Failure) : Trouble :=
  match r.command with
  | .init => .connection (.database cause)
  | _ => .store cause

def run (r : Request) (surroundings : Surroundings) (f : Folder) : Conclusion × Folder :=
  match f.settings r.settingsPath surroundings.environment with
  | .error trouble => ({ answer := .error trouble }, f)
  | .ok settings =>
      match r.locate settings.database f with
      | .error fault =>
          ({ answer := .error (.connection fault), logging := settings.logging }, f)
      | .ok (location, f) =>
          match f.openAt location with
          | .error cause =>
              ({ answer := .error (r.trouble cause), logging := settings.logging }, f)
          | .ok db =>
              let (outcome, db) := r.command.perform settings.retention surroundings.clock db
              ({ answer := outcome.answer.mapError r.trouble
                 notices := outcome.notices
                 logging := settings.logging }, f.keep location db)

end Request

namespace Conclusion

def exitCode (c : Conclusion) : Nat :=
  match c.answer with
  | .ok finding => finding.exitCode
  | .error _ => 1

end Conclusion

end EventRetention
