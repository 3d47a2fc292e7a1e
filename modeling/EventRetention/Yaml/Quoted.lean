import EventRetention.Value.JsonReader
import EventRetention.Yaml.Plain

/-!
Quoted scalars. In single quotes a quote is written twice; in double quotes a
backslash starts an escape. A line break between two words counts as a blank,
and indentation does not matter.
-/

namespace EventRetention.Yaml

def quotedBreaks : (fuel : Nat) → List Char → Option (List Char × List Char)
  | 0, _ => none
  | fuel + 1, text =>
      if separatesDocuments text then none
      else
        let text := text.dropWhile fun c => c = ' ' || c = '\t'
        match lineBreak? text with
        | none => some ([], text)
        | some (b, rest) => (quotedBreaks fuel rest).map fun (breaks, after) => (b :: breaks, after)

def quotedGap (text : List Char) : Option (List Char × List Char) :=
  let blanks := text.takeWhile fun c => c = ' ' || c = '\t'
  let rest := text.drop blanks.length
  match lineBreak? rest with
  | none => some (blanks, rest)
  | some (b, rest) =>
      (quotedBreaks (rest.length + 1) rest).map fun (breaks, after) => (folded b breaks, after)

def simpleEscape? : Char → Option Char
  | '0' => some '\x00'
  | 'a' => some '\x07'
  | 'b' => some '\x08'
  | 't' => some '\t'
  | '\t' => some '\t'
  | 'n' => some '\n'
  | 'v' => some '\x0b'
  | 'f' => some '\x0c'
  | 'r' => some '\r'
  | 'e' => some '\x1b'
  | ' ' => some ' '
  | '"' => some '"'
  | '/' => some '/'
  | '\\' => some '\\'
  | 'N' => some '\x85'
  | '_' => some '\xa0'
  | 'L' => some '\u2028'
  | 'P' => some '\u2029'
  | _ => none

def escapeWidth? : Char → Option Nat
  | 'x' => some 2
  | 'u' => some 4
  | 'U' => some 8
  | _ => none

def numericEscape? (width : Nat) (text : List Char) : Option (Char × List Char) := do
  let digits := text.take width
  if digits.length < width then none
  let unit := Text.ofDigitValues 16 (← digits.mapM Json.hexValue?)
  if 0x110000 ≤ unit then none
  return Json.unitCharacter unit (text.drop width)

def escape? (text : List Char) : Option (List Char × List Char) :=
  match text with
  | [] => none
  | c :: rest =>
      match simpleEscape? c, escapeWidth? c, lineBreak? text with
      | some replacement, _, _ => some ([replacement], rest)
      | _, some width, _ => (numericEscape? width rest).map fun (c, after) => ([c], after)
      | _, _, some (_, rest) => quotedBreaks (rest.length + 1) rest
      | _, _, _ => none

def doubleQuoted : (fuel : Nat) → List Char → Option (List Char × List Char)
  | 0, _ => none
  | _ + 1, [] => none
  | fuel + 1, c :: rest =>
      let andMore := fun (read : Option (List Char × List Char)) => do
        let (piece, after) ← read
        let (more, after) ← doubleQuoted fuel after
        return (piece ++ more, after)
      if c = '"' then some ([], rest)
      else if c = '\\' then andMore (escape? rest)
      else if c = ' ' || c = '\t' || isBreak c then andMore (quotedGap (c :: rest))
      else andMore (some ([c], rest))

def singleQuoted : (fuel : Nat) → List Char → Option (List Char × List Char)
  | 0, _ => none
  | _ + 1, [] => none
  | fuel + 1, c :: rest =>
      let andMore := fun (read : Option (List Char × List Char)) => do
        let (piece, after) ← read
        let (more, after) ← singleQuoted fuel after
        return (piece ++ more, after)
      if c = '\'' then
        match rest with
        | '\'' :: rest => andMore (some (['\''], rest))
        | _ => some ([], rest)
      else if c = ' ' || c = '\t' || isBreak c then andMore (quotedGap (c :: rest))
      else andMore (some ([c], rest))

end EventRetention.Yaml
