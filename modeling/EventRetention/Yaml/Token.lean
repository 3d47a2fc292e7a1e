import EventRetention.Yaml.Block
import EventRetention.Yaml.Quoted

/-!
The tokens of a YAML text. Blocks are marked by their indentation, and a key is
known as a key only at the colon after it: the marks that it needs are then put
before its tokens.
-/

namespace EventRetention.Yaml

inductive Token where
  | directive (name : String) (version : Option (Nat × Nat))
  | documentStart
  | documentEnd
  | blockSequenceStart
  | blockMappingStart
  | blockEnd
  | flowSequenceStart
  | flowSequenceEnd
  | flowMappingStart
  | flowMappingEnd
  | blockEntry
  | flowEntry
  | key
  | value
  | reference (name : String)
  | anchor (name : String)
  | tag (handle : Option String) (name : String)
  | scalar (isPlain : Bool) (text : String)
deriving DecidableEq, Repr

structure Cursor where
  rest : List Char
  index : Nat := 0
  line : Nat := 0
  column : Nat := 0

namespace Cursor

def past (c : Cursor) : List Char → Cursor
  | [] => c
  | ch :: more =>
      let c := { c with rest := c.rest.drop 1, index := c.index + 1 }
      if isBreak ch then past { c with line := c.line + 1, column := 0 } more
      else past { c with column := if ch = '\ufeff' then c.column else c.column + 1 } more

def moveTo (c : Cursor) (tail : List Char) : Cursor :=
  c.past (c.rest.take (c.rest.length - tail.length))

end Cursor

/-- What comes behind blanks, comments and line ends, and whether a line ended
    there. -/
def afterBlank : (inComment endedLine : Bool) → List Char → List Char × Bool
  | _, endedLine, [] => ([], endedLine)
  | inComment, endedLine, c :: rest =>
      if endsLine (some c) then afterBlank false true rest
      else if inComment then afterBlank true endedLine rest
      else if isBreak c then afterBlank false true rest
      else if c = ' ' then afterBlank false endedLine rest
      else if c = '#' then afterBlank true endedLine rest
      else (c :: rest, endedLine)

structure KeyStart where
  before : Nat
  index : Nat
  line : Nat
  column : Nat
  isRequired : Bool

/-- The state of scanning: tokens come newest first, and the open brackets and
    the possible keys innermost first. -/
structure Scanner where
  cursor : Cursor
  tokens : List Token := []
  indent : Int := -1
  outer : List Int := []
  brackets : List Char := []
  keys : List (Option KeyStart) := [none]
  keyAllowed : Bool := true

namespace Scanner

def inFlow (s : Scanner) : Bool := !s.brackets.isEmpty

def emit (s : Scanner) (token : Token) (tail : List Char) : Scanner :=
  { s with tokens := token :: s.tokens, cursor := s.cursor.moveTo tail }

def putBefore (s : Scanner) (before : Nat) (token : Token) : Scanner :=
  let later := s.tokens.length - before
  { s with tokens := s.tokens.take later ++ token :: s.tokens.drop later }

def dropKey (s : Scanner) : Option Scanner :=
  match s.keys with
  | some key :: rest => if key.isRequired then none else some { s with keys := none :: rest }
  | _ => some s

def noteKey (s : Scanner) : Option Scanner :=
  if s.keyAllowed then do
    let s ← s.dropKey
    let key : KeyStart := {
      before := s.tokens.length, index := s.cursor.index, line := s.cursor.line
      column := s.cursor.column, isRequired := !s.inFlow && s.indent = s.cursor.column }
    return { s with keys := some key :: s.keys.drop 1 }
  else some s

/-- Forgets the possible keys that are too far back: a key stands on one line
    and has at most 1024 characters. -/
def dropStale (s : Scanner) : Option Scanner := do
  let isStale := fun (key : KeyStart) =>
    key.line ≠ s.cursor.line || 1024 < s.cursor.index - key.index
  if s.keys.any fun key => key.any fun key => isStale key && key.isRequired then none
  return { s with keys := s.keys.map fun key => key.filter fun key => !isStale key }

def closeBlocks (column : Int) : (enclosing : List Int) → Scanner → Scanner
  | [], s => s
  | indent :: rest, s =>
      if column < s.indent then
        closeBlocks column rest
          { s with indent, outer := rest, tokens := .blockEnd :: s.tokens }
      else s

def unwind (s : Scanner) (column : Int) : Scanner :=
  if s.inFlow then s else closeBlocks column s.outer s

def deepen (s : Scanner) (column : Nat) : Option Scanner :=
  if s.indent < column then
    some { s with outer := s.indent :: s.outer, indent := column }
  else none

def openBlock (s : Scanner) (mark : Token) : Scanner :=
  match s.deepen s.cursor.column with
  | some s => { s with tokens := mark :: s.tokens }
  | none => s

/-- A key may start on a new line of a block. -/
def skipBlank (s : Scanner) : Scanner :=
  let (rest, endedLine) := afterBlank false false s.cursor.rest
  { s with cursor := s.cursor.moveTo rest, keyAllowed := s.keyAllowed || (endedLine && !s.inFlow) }

def leaveBlocks (s : Scanner) : Option Scanner := do
  let s ← (s.unwind (-1)).dropKey
  return { s with keyAllowed := false }

def startNode (s : Scanner) (token : Token) (tail : List Char) : Option Scanner := do
  return { (← s.noteKey).emit token tail with keyAllowed := false }

def lineEnd? (text : List Char) : Option (List Char) := restOfHeader? text

def directive? (text : List Char) : Option (Token × List Char) := do
  let name := text.takeWhile fun c => c.isAlphanum || ['-', '_', ':', '.'].contains c
  let rest := text.drop name.length
  if name.isEmpty || !(endsWord rest.head? && rest.head? ≠ some '\t') then none
  if name = "YAML".toList then
    let rest := rest.dropWhile (· = ' ')
    let major := rest.takeWhile Char.isDigit
    let minor ← match rest.drop major.length with
      | '.' :: more => some (more.takeWhile Char.isDigit)
      | _ => none
    let version := (← Text.natural? major, ← Text.natural? minor)
    let rest ← lineEnd? (rest.drop (major.length + 1 + minor.length))
    return (.directive "YAML" (some version), rest)
  else
    return (.directive (String.ofList name) none, text.dropWhile fun c => !endsLine (some c))

def name? (text : List Char) : Option (String × List Char) :=
  let name := text.takeWhile fun c => isNameCharacter c && !isFlowMark c
  let rest := text.drop name.length
  let ends := match rest.head? with
    | none => true
    | some c => c = ' ' || c = '\t' || isBreak c || isFlowMark c
  if name.isEmpty || !ends then none else some (String.ofList name, rest)

def isTagCharacter (c : Char) : Bool := c.isAlphanum || "-;/?:@&=+$,_.!~*'()[]%".toList.contains c

def tag? (text : List Char) : Option (Token × List Char) := do
  let (token, rest) ← match text with
    | '<' :: more =>
        let name := more.takeWhile isTagCharacter
        match name, more.drop name.length with
        | _ :: _, '>' :: rest => some (Token.tag none (String.ofList name), rest)
        | _, _ => none
    | _ =>
        if endsWord text.head? then some (Token.tag none "!", text)
        else
          let word := text.takeWhile fun c => !(c = ' ' || isBreak c)
          let (handle, body) ← if word.contains '!' then
              let handle := text.takeWhile fun c => c.isAlphanum || c = '-' || c = '_'
              match text.drop handle.length with
              | '!' :: rest => some ("!" ++ String.ofList handle ++ "!", rest)
              | _ => none
            else some ("!", text)
          let name := body.takeWhile isTagCharacter
          if name.isEmpty then none
          else some (Token.tag (some handle) (String.ofList name), body.drop name.length)
  if rest.isEmpty || rest.head? = some ' ' || rest.head?.any isBreak then return (token, rest)
  else none

def openBracket (s : Scanner) (bracket : Char) (token : Token) (tail : List Char) :
    Option Scanner := do
  let s ← s.noteKey
  return { s.emit token tail with
    brackets := bracket :: s.brackets, keys := none :: s.keys, keyAllowed := true }

def closeBracket (s : Scanner) (token : Token) (tail : List Char) : Option Scanner := do
  let s ← s.dropKey
  let keys := if s.inFlow then s.keys.drop 1 else s.keys
  return { s.emit token tail with brackets := s.brackets.drop 1, keys, keyAllowed := false }

def entry (s : Scanner) (tail : List Char) : Option Scanner := do
  let s ← if s.inFlow then some s
    else if s.keyAllowed then some (s.openBlock .blockSequenceStart)
    else none
  return { (← s.dropKey).emit .blockEntry tail with keyAllowed := true }

def explicitKey (s : Scanner) (tail : List Char) : Option Scanner := do
  let s ← if s.inFlow then some s
    else if s.keyAllowed then some (s.openBlock .blockMappingStart)
    else none
  return { (← s.dropKey).emit .key tail with keyAllowed := !s.inFlow }

/-- A value mark. It makes the tokens since the possible key of this level a
    key, which may start a mapping. -/
def valueMark (s : Scanner) (tail : List Char) : Option Scanner :=
  match s.keys with
  | some key :: rest =>
      let s := { s with keys := none :: rest }.putBefore key.before .key
      let s := if s.inFlow then s
        else match s.deepen key.column with
          | some s => s.putBefore key.before .blockMappingStart
          | none => s
      some { s.emit .value tail with keyAllowed := false }
  | _ => do
      let s ← if s.inFlow then some s
        else if s.keyAllowed then some (s.openBlock .blockMappingStart)
        else none
      return { (← s.dropKey).emit .value tail with keyAllowed := !s.inFlow }

def isValueMark (s : Scanner) (next : Option Char) : Bool :=
  match s.brackets with
  | '\x7b' :: _ => true
  | _ => endsWord next

def blockText (s : Scanner) (fold : Bool) (tail : List Char) : Option Scanner := do
  let s ← s.dropKey
  let (text, rest) ← blockScalar? fold s.indent tail
  return { s.emit (.scalar false (String.ofList text)) rest with keyAllowed := true }

def plainText (s : Scanner) (text : List Char) : Option Scanner := do
  let scalar := plain s.inFlow (s.indent + 1) text
  let s ← s.startNode (.scalar true (String.ofList scalar.text)) scalar.rest
  return { s with keyAllowed := scalar.endedLine }

def scanNext (s : Scanner) (c : Char) (tail : List Char) : Option Scanner :=
  let text := c :: tail
  let atMargin := s.cursor.column = 0
  if c = '%' && atMargin then do
    let s ← s.leaveBlocks
    let (token, rest) ← directive? tail
    return s.emit token rest
  else if atMargin && startsWithMark '-' text then do
    return (← s.leaveBlocks).emit .documentStart (text.drop 3)
  else if atMargin && startsWithMark '.' text then do
    return (← s.leaveBlocks).emit .documentEnd (text.drop 3)
  else if c = '[' then s.openBracket c .flowSequenceStart tail
  else if c = '\x7b' then s.openBracket c .flowMappingStart tail
  else if c = ']' then s.closeBracket .flowSequenceEnd tail
  else if c = '\x7d' then s.closeBracket .flowMappingEnd tail
  else if c = ',' then do
    return { (← s.dropKey).emit .flowEntry tail with keyAllowed := true }
  else if c = '-' && endsWord tail.head? then s.entry tail
  else if c = '?' && (s.inFlow || endsWord tail.head?) then s.explicitKey tail
  else if c = ':' && s.isValueMark tail.head? then s.valueMark tail
  else if c = '*' then do
    let (name, rest) ← name? tail
    s.startNode (.reference name) rest
  else if c = '&' then do
    let (name, rest) ← name? tail
    s.startNode (.anchor name) rest
  else if c = '!' then do
    let (token, rest) ← tag? tail
    s.startNode token rest
  else if c = '|' && !s.inFlow then s.blockText false tail
  else if c = '>' && !s.inFlow then s.blockText true tail
  else if c = '\'' then do
    let (text, rest) ← singleQuoted (tail.length + 1) tail
    s.startNode (.scalar false (String.ofList text)) rest
  else if c = '"' then do
    let (text, rest) ← doubleQuoted (tail.length + 1) tail
    s.startNode (.scalar false (String.ofList text)) rest
  else if startsPlain s.inFlow c tail.head? then s.plainText text
  else none

def run : (fuel : Nat) → Scanner → Option (List Token)
  | 0, _ => none
  | fuel + 1, s => do
      let s ← s.skipBlank.dropStale
      match s.cursor.rest with
      | [] => return ((← s.leaveBlocks).tokens.reverse)
      | c :: tail => run fuel (← (s.unwind s.cursor.column).scanNext c tail)

end Scanner

def tokens? (text : List Char) : Option (List Token) :=
  if text.all isPrintable then
    let text := if text.head? = some '\ufeff' then text.drop 1 else text
    Scanner.run (text.length + 1) { cursor := { rest := text } }
  else none

end EventRetention.Yaml
