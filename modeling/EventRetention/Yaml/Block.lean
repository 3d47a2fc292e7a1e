import EventRetention.Text.Digits
import EventRetention.Yaml.Character

/-!
Block scalars: the lines below a `|` or `>` mark, as far as they are indented.
The first keeps its line breaks; the second turns a single one between two
lines into a blank. The mark may say how line breaks at the end are kept, and
how deep the lines are indented.
-/

namespace EventRetention.Yaml

inductive Chomping where
  | strip
  | clip
  | keep
deriving DecidableEq

def chomping? : List Char → Option (Chomping × List Char)
  | '+' :: rest => some (.keep, rest)
  | '-' :: rest => some (.strip, rest)
  | _ => none

def indentDigit? : List Char → Option (Option Nat × List Char)
  | c :: rest =>
      match Text.digitValue? c with
      | some 0 => none
      | some n => some (some n, rest)
      | none => some (none, c :: rest)
  | [] => some (none, [])

def blockHeader? (text : List Char) : Option (Chomping × Option Nat × List Char) :=
  match chomping? text with
  | some (chomping, rest) =>
      (indentDigit? rest).map fun (digit, rest) => (chomping, digit, rest)
  | none => do
      let (digit, rest) ← indentDigit? text
      match digit, chomping? rest with
      | some n, some (chomping, rest) => return (chomping, some n, rest)
      | _, _ => return (.clip, digit, rest)

def restOfHeader? (text : List Char) : Option (List Char) :=
  let text := text.dropWhile (· = ' ')
  let text := if text.head? = some '#' then text.dropWhile fun c => !endsLine (some c) else text
  if endsLine text.head? then
    match lineBreak? text with
    | some (_, rest) => some rest
    | none => some text
  else none

structure Lead where
  breaks : List Char
  column : Nat
  text : List Char

def Lead.behind (b : Char) (lead : Lead) : Lead := { lead with breaks := b :: lead.breaks }

def leadAt (indent : Nat) : (column : Nat) → List Char → Lead
  | column, [] => ⟨[], column, []⟩
  | column, c :: rest =>
      if c = ' ' && column < indent then leadAt indent (column + 1) rest
      else if c = '\r' && rest.head? = some '\n' then leadAt indent column rest
      else
        match lineBreak? (c :: rest) with
        | none => ⟨[], column, c :: rest⟩
        | some (b, _) => (leadAt indent 0 rest).behind b

/-- The blank lines that come first, and the largest column that a blank
    reaches in them or before the first line. -/
def leadAny : (column : Nat) → List Char → Lead × Nat
  | column, [] => (⟨[], column, []⟩, 0)
  | column, c :: rest =>
      if c = ' ' then
        let (lead, deepest) := leadAny (column + 1) rest
        (lead, max deepest (column + 1))
      else if c = '\r' && rest.head? = some '\n' then leadAny column rest
      else
        match lineBreak? (c :: rest) with
        | none => (⟨[], column, c :: rest⟩, 0)
        | some (b, _) =>
            let (lead, deepest) := leadAny 0 rest
            (lead.behind b, deepest)

def chomped (chomping : Chomping) (last : List Char) (breaks : List Char) : List Char :=
  match chomping with
  | .strip => []
  | .clip => last
  | .keep => last ++ breaks

def isIndented (c : Option Char) : Bool := c = some ' ' || c = some '\t'

/-- The lines of a block scalar, whose characters are skipped once a line is taken.
    `last` is the line break before the blank lines, `joins` whether the line before
    that may be joined to the next, and `breaks` and `column` belong to the lead of
    the text. -/
def blockLines (fold topLevel : Bool) (chomping : Chomping) (indent : Nat) :
    (skip : Nat) → (last : List Char) → (joins : Bool) → (breaks : List Char) → (column : Nat) →
      List Char → List Char × List Char
  | _, last, _, breaks, _, [] => (chomped chomping last breaks, [])
  | skip + 1, last, joins, breaks, column, _ :: rest =>
      blockLines fold topLevel chomping indent skip last joins breaks column rest
  | 0, last, joins, breaks, column, c :: rest =>
      let ended := topLevel && !last.isEmpty && column = 0 && separatesDocuments (c :: rest)
      if column = indent && !ended then
        let leads := !isIndented (some c)
        let between :=
          if fold && joins && last = ['\n'] && leads then if breaks.isEmpty then [' '] else []
          else last
        let line := (c :: rest).takeWhile fun c => !endsLine (some c)
        let after := (c :: rest).drop line.length
        let (b, after) := match lineBreak? after with
          | some (b, after) => ([b], after)
          | none => ([], after)
        let next := leadAt indent 0 after
        let (more, left) := blockLines fold topLevel chomping indent
          (rest.length - next.text.length) b leads next.breaks next.column rest
        (between ++ breaks ++ line ++ more, left)
      else (chomped chomping last breaks, c :: rest)

def blockScalar? (fold : Bool) (outer : Int) (text : List Char) :
    Option (List Char × List Char) := do
  let (chomping, digit, rest) ← blockHeader? text
  let rest ← restOfHeader? rest
  let least := (outer + 1).toNat
  let (lead, indent) :=
    match digit with
    | none =>
        let (lead, deepest) := leadAny 0 rest
        (lead, max least deepest)
    | some n =>
        let indent := max least 1 + n - 1
        (leadAt indent 0 rest, indent)
  return blockLines fold (digit.isNone && least = 0) chomping indent 0 [] false lead.breaks lead.column
    lead.text

end EventRetention.Yaml
