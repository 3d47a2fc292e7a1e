import EventRetention.Yaml.Character

/-!
Plain scalars: text without quotes. It runs over blanks and over line breaks
as long as the next line is indented deeper than the enclosing block; a single
line break between two runs counts as a blank.
-/

namespace EventRetention.Yaml

/-- Whether a character ends a run of a plain scalar, given the one after it:
    a colon only before the end of a word, brackets and commas only inside of
    brackets. -/
def endsRun (inFlow : Bool) (c : Char) (next : Option Char) : Bool :=
  if c = ':' then endsWord next
  else if c = '?' then false
  else endsWord (some c) || (inFlow && isFlowMark c)

def plainRun (inFlow : Bool) : List Char → List Char × List Char
  | [] => ([], [])
  | c :: rest =>
      if endsRun inFlow c rest.head? then ([], c :: rest)
      else
        let (run, after) := plainRun inFlow rest
        (c :: run, after)

structure Gap where
  text : List Char
  rest : List Char
  column : Option Nat

def blankLines : (column : Nat) → List Char → Option (List Char) × List Char × Nat
  | column, [] => (some [], [], column)
  | column, c :: rest =>
      if c = ' ' then blankLines (column + 1) rest
      else if c = '\r' && rest.head? = some '\n' then blankLines column rest
      else
        match lineBreak? (c :: rest) with
        | none => (some [], c :: rest, column)
        | some (b, _) =>
            if separatesDocuments rest then (none, rest, 0)
            else
              let (breaks, after, column) := blankLines 0 rest
              (breaks.map (b :: ·), after, column)

def folded (b : Char) (breaks : List Char) : List Char :=
  if b ≠ '\n' then b :: breaks else if breaks.isEmpty then [' '] else breaks

def plainGap (text : List Char) : Gap :=
  let blanks := text.takeWhile (· = ' ')
  let rest := text.drop blanks.length
  match lineBreak? rest with
  | none => ⟨blanks, rest, none⟩
  | some (b, rest) =>
      if separatesDocuments rest then ⟨[], rest, some 0⟩
      else
        match blankLines 0 rest with
        | (none, after, column) => ⟨[], after, some column⟩
        | (some breaks, after, column) => ⟨folded b breaks, after, some column⟩

/-- A plain scalar: its text, the text after it, and whether the gap after its
    last run ended a line. -/
structure Plain where
  text : List Char
  rest : List Char
  endedLine : Bool

/-- Reads runs and gaps, whose characters are skipped then. `indent` is the least
    column of a further line in a block, and `gap` is the text between the last run
    and here. -/
def plainFrom (inFlow : Bool) (indent : Int) :
    (skip : Nat) → (gap : List Char) → (endedLine : Bool) → List Char → Plain
  | _, _, endedLine, [] => ⟨[], [], endedLine⟩
  | skip + 1, gap, endedLine, _ :: rest => plainFrom inFlow indent skip gap endedLine rest
  | 0, gap, endedLine, c :: rest =>
      let (run, after) := plainRun inFlow (c :: rest)
      if c = '#' || run.isEmpty then ⟨[], c :: rest, endedLine⟩
      else
        let next := plainGap after
        let endedLine := next.column.isSome
        let outdented := !inFlow && next.column.any fun column => decide ((column : Int) < indent)
        if next.text.isEmpty || next.rest.head? = some '#' || outdented then
          ⟨gap ++ run, next.rest, endedLine⟩
        else
          let more :=
            plainFrom inFlow indent (rest.length - next.rest.length) next.text endedLine rest
          ⟨gap ++ run ++ more.text, more.rest, more.endedLine⟩

def plain (inFlow : Bool) (indent : Int) (text : List Char) : Plain :=
  plainFrom inFlow indent 0 [] false text

def startsPlain (inFlow : Bool) (c : Char) (next : Option Char) : Bool :=
  if c = '-' then !endsWord next
  else if c = ':' then
    if inFlow then next ≠ some ' ' && next ≠ some '\t' else !endsWord next
  else if c = '?' then !inFlow && !endsWord next
  else
    !(endsWord (some c) || isBreak c || isFlowMark c ||
      ['#', '&', '*', '!', '|', '>', '\'', '"', '%', '@', '\x60'].contains c)

end EventRetention.Yaml
