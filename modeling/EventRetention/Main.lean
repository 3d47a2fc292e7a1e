import EventRetention.Cli.Output
import Std.Time.DateTime.Timestamp

/-!
The program: it looks at the files that a run may need, runs, and writes back
the databases and folders that the run leaves behind.
-/

namespace EventRetention.Program

def environment : IO (List (String × String)) := do
  let bytes ← try IO.FS.readBinFile "/proc/self/environ" catch _ => pure .empty
  let text := (String.fromUTF8? bytes).getD ""
  return (text.splitOn "\x00").filterMap fun entry =>
    match entry.toList.span (· ≠ '=') with
    | (name, _ :: value) => some (String.ofList name, String.ofList value)
    | _ => none

def now : IO Reading := do
  let time ← Std.Time.Timestamp.now
  let micros := time.toNanosecondsSinceUnixEpoch.toInt / 1000 + 62135596800000000
  return .ofInstant ((Instant.ofMicros? micros).getD Instant.earliest)

def entryAt (path : Path) : IO (Option FolderEntry) := do
  try
    let bytes ← IO.FS.readBinFile path.text
    return some (.text ((String.fromUTF8? bytes).getD "\x00"))
  catch
    | .noFileOrDirectory .. => return none
    | _ => return some .folder

def observe (folder : Folder) (path : Path) : IO Folder := do
  let mut folder := folder
  for step in path.settled.leading do
    match ← entryAt step with
    | some entry =>
        folder := folder.put step entry
        if !entry.isFolder then return folder
    | none => return folder
  return folder

def observed (request : Request) (vars : List (String × String)) : IO Folder := do
  let folder ← observe {} request.settingsPath
  match folder.settings request.settingsPath vars with
  | .error _ => return folder
  | .ok settings =>
      match Location.ofText (request.address settings.database) with
      | .ok (.file path) => observe folder path
      | _ => return folder

def store (folder : Folder) : IO Unit := do
  for (path, entry) in folder.entries.reverse do
    match entry with
    | .folder => IO.FS.createDirAll path.text
    | .database table => IO.FS.writeFile path.text (Archive.write table)
    | .text _ => pure ()

def secondsText (milliseconds : Nat) : String :=
  let hundredths := (milliseconds + 5) / 10
  toString (hundredths / 100) ++ "." ++ Text.zeroPadded 2 (hundredths % 100)

def tell (c : Conclusion) (time : Reading) (milliseconds : Nat) : IO UInt32 := do
  for line in c.log ⟨time.text, .real (Binary64.ofQuotient false milliseconds 1000)⟩ do
    IO.eprintln line
  for line in c.complaint do
    IO.eprintln line
  if let .error trouble := c.answer then
    if let some message := trouble.unexpected? then
      IO.eprintln ("Unexpected: " ++ message)
  IO.print (c.output (secondsText milliseconds))
  return c.exitCode.toUInt32

def perform (request : Request) : IO UInt32 := do
  let vars ← environment
  let time ← now
  let folder ← observed request vars
  let start ← IO.monoMsNow
  let (conclusion, folder) := request.run ⟨vars, .fixed time⟩ folder
  store folder
  tell conclusion time ((← IO.monoMsNow) - start)

end EventRetention.Program

open EventRetention in
def main (arguments : List String) : IO UInt32 := do
  match Invocation.ofArguments arguments with
  | .ok .version =>
      IO.println versionText
      return 0
  | .ok .help =>
      for line in usageLines do
        IO.println line
      return 0
  | .ok (.request request) => Program.perform request
  | .error misuse =>
      IO.eprintln ("Error: " ++ misuse.message)
      return 2
