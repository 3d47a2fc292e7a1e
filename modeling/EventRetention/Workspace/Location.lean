import EventRetention.Store.Database
import EventRetention.Workspace.Folder
import EventRetention.Workspace.Url

/-!
Where a database lives: in memory, for as long as it is open, or in a file. A
file database has the folder that holds it made, and its file appears as soon
as it is opened.
-/

namespace EventRetention

inductive Location where
  | memory
  | file (path : Path)
deriving DecidableEq, Repr

inductive ConnectionFault where
  | url (fault : Url.Fault)
  | unknownDialect (scheme : String)
  | serverNamed (url : Url)
  | folder (fault : FolderFault)
  | database (cause : Failure)

namespace Failure

def databaseText? (cause : Failure) : Option String :=
  cause.databaseClass?.map fun name => "(sqlite3." ++ name ++ ") " ++ cause.message

end Failure

def dialectName (scheme : String) : String :=
  String.ofList (scheme.toList.map fun c => if c = '+' then '.' else c)

def ConnectionFault.message : ConnectionFault → String
  | .url fault => fault.message
  | .unknownDialect scheme => "Can't load plugin: sqlalchemy.dialects:" ++ dialectName scheme
  | .serverNamed address =>
      "Invalid SQLite URL: " ++ address.text ++
        "\nValid SQLite URL forms are sqlite:///:memory: or sqlite:////absolute/path"
  | .folder fault => fault.message
  | .database cause => cause.databaseText?.getD cause.message

namespace Location

def schemes : List String := ["sqlite", "sqlite+pysqlite"]

def ofUrl (url : Url) : Except ConnectionFault Location :=
  if !schemes.contains url.scheme then .error (.unknownDialect url.scheme)
  else if url.namesServer then .error (.serverNamed url)
  else match url.database with
    | none | some "" | some ":memory:" => .ok .memory
    | some path => .ok (.file (.ofText path))

def ofText (text : String) : Except ConnectionFault Location := do
  ofUrl (← (Url.ofText text).mapError .url)

end Location

namespace Folder

def makeRoom (f : Folder) : Location → Except FolderFault Folder
  | .memory => .ok f
  | .file path => if path.steps.head? = some "~" then .ok f else f.makeFolder path.parent

def openAt (f : Folder) : Location → Except Failure Database
  | .memory => .ok (.opened none)
  | .file path => (f.openDatabase path).map .opened

def keep (f : Folder) (location : Location) (db : Database) : Folder :=
  match location, db with
  | .file path, .opened table => f.put path (.database table)
  | _, _ => f

end Folder

end EventRetention
