import EventRetention.Workspace.Archive
import EventRetention.Workspace.Path

/-!
The files and folders that commands find and leave behind. A folder holds
texts, databases and folders; making a folder makes those that lead to it, and
fails where a file is in the way.
-/

namespace EventRetention

inductive FolderEntry where
  | folder
  | text (content : String)
  | database (table : Option Table)

def FolderEntry.isFolder : FolderEntry → Bool
  | .folder => true
  | _ => false

structure Folder where
  entries : List (Path × FolderEntry) := []

inductive FolderFault where
  | taken (path : Path)
  | underFile (path : Path)
deriving DecidableEq, Repr

def FolderFault.message : FolderFault → String
  | .taken path => "[Errno 17] File exists: " ++ Text.quoted path.text
  | .underFile path => "[Errno 20] Not a directory: " ++ Text.quoted path.text

namespace Folder

def entry? (f : Folder) (path : Path) : Option FolderEntry :=
  let path := path.settled
  if path.isStart then some .folder else f.entries.lookup path

def has (f : Folder) (path : Path) : Bool := (f.entry? path).isSome

def put (f : Folder) (path : Path) (entry : FolderEntry) : Folder :=
  let path := path.settled
  { f with entries := (path, entry) :: f.entries.filter fun other => other.1 ≠ path }

def admits (f : Folder) (path : Path) : Bool := (f.entry? path).all FolderEntry.isFolder

def makeFolder (f : Folder) (path : Path) : Except FolderFault Folder :=
  let way := path.settled.leading
  if !f.admits path then .error (.taken path)
  else if !way.all f.admits then .error (.underFile path)
  else .ok (way.foldl (fun f step => if f.has step then f else f.put step .folder) f)

def putText (f : Folder) (path : Path) (content : String) : Except FolderFault Folder :=
  (f.makeFolder path.parent).map (·.put path (.text content))

def text? (f : Folder) (path : Path) : Option String :=
  match f.entry? path with
  | some (.text content) => some content
  | some (.database table) => some (Archive.write table)
  | _ => none

def openDatabase (f : Folder) (path : Path) : Except Failure (Option Table) :=
  match f.entry? path with
  | none =>
      if (f.entry? path.settled.parent).any FolderEntry.isFolder then .ok none
      else .error .fileNotOpenable
  | some .folder => .error .fileNotOpenable
  | some (.text content) =>
      match Archive.read? content with
      | some table => .ok table
      | none => .error .fileNotDatabase
  | some (.database table) => .ok table

end Folder

end EventRetention
