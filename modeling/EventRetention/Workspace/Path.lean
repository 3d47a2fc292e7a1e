/-!
Paths of files and folders. Empty steps and `.` steps do not count; `..` steps
are kept when a path is shown and resolved when it is followed.
-/

namespace EventRetention

structure Path where
  root : String := ""
  steps : List String
deriving DecidableEq, Repr

namespace Path

def rootOf (text : List Char) : String :=
  match (text.takeWhile (· = '/')).length with
  | 0 => ""
  | 2 => "//"
  | _ => "/"

def ofText (text : String) : Path where
  root := rootOf text.toList
  steps := (text.splitOn "/").filter fun step => step ≠ "" && step ≠ "."

def text (path : Path) : String :=
  let text := path.root ++ String.intercalate "/" path.steps
  if text.isEmpty then "." else text

def parent (path : Path) : Path := { path with steps := path.steps.dropLast }

/-- One step further, where `..` takes the last step back; at the root there
    is nothing to take back, and before the start of a relative path `..`
    remains. -/
def follow (root : String) (before : List String) (step : String) : List String :=
  if step ≠ ".." then before ++ [step]
  else if before.all (· = "..") && root = "" then before ++ [step]
  else before.dropLast

def settled (path : Path) : Path :=
  { path with steps := path.steps.foldl (follow path.root) [] }

def isStart (path : Path) : Bool := path.steps.all (· = "..")

def leading (path : Path) : List Path :=
  (List.range path.steps.length).map fun n => { path with steps := path.steps.take (n + 1) }

end Path

end EventRetention
