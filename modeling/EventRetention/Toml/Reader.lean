import EventRetention.Number.Numeral
import EventRetention.Text.Layout
import EventRetention.Time.Calendar
import EventRetention.Value.JsonReader

/-!
TOML values, as they stand after the equals sign of a line: texts, integers,
numbers, truth values, dates and times, arrays and inline tables, with an
optional comment at the end.
-/

namespace EventRetention.Toml

abbrev Reader (α : Type) := List Char → Option (α × List Char)

def skipBlank (text : List Char) : List Char := text.dropWhile fun c => c = ' ' || c = '\t'

def isControl (c : Char) : Bool := (c.toNat < 0x20 && c ≠ '\t') || c.toNat = 0x7F

def skipFiller : (inComment : Bool) → List Char → Option (List Char)
  | _, [] => some []
  | inComment, c :: rest =>
      if c = '\n' then skipFiller false rest
      else if inComment then if isControl c then none else skipFiller true rest
      else if c = ' ' || c = '\t' then skipFiller false rest
      else if c = '#' then skipFiller true rest
      else some (c :: rest)

def numericEscape? (width : Nat) (text : List Char) : Option (Char × List Char) := do
  let digits := text.take width
  if digits.length < width then none
  let code := Text.ofDigitValues 16 (← digits.mapM Json.hexValue?)
  if code < 0xD800 ∨ (0xE000 ≤ code ∧ code < 0x110000) then
    return (Char.ofNat code, text.drop width)
  else none

def escape? : List Char → Option (Char × List Char)
  | 'u' :: rest => numericEscape? 4 rest
  | 'U' :: rest => numericEscape? 8 rest
  | '/' :: _ => none
  | c :: rest => (Json.simpleEscape? c).map fun replacement => (replacement, rest)
  | [] => none

def basicText : (fuel : Nat) → Reader (List Char)
  | 0, _ => none
  | _ + 1, [] => none
  | fuel + 1, c :: rest =>
      if c = '"' then some ([], rest)
      else if c = '\\' then do
        let (replacement, after) ← escape? rest
        let (more, after) ← basicText fuel after
        return (replacement :: more, after)
      else if isControl c then none
      else do
        let (more, after) ← basicText fuel rest
        return (c :: more, after)

def literalText (text : List Char) : Option (List Char × List Char) :=
  let body := text.takeWhile (· ≠ '\'')
  if body.any isControl then none
  else match text.drop body.length with
    | _ :: rest => some (body, rest)
    | [] => none

/-- The end of a text of several lines after its three quotes: up to two more
    quotes belong to the text. -/
def longEnd (quote : Char) : List Char → List Char × List Char
  | a :: b :: rest =>
      if a = quote && b = quote then ([a, b], rest)
      else if a = quote then ([a], b :: rest)
      else ([], a :: b :: rest)
  | [a] => if a = quote then ([a], []) else ([], [a])
  | [] => ([], [])

/-- The rest of a text of several lines; only in double quotes are there
    escapes, and a backslash at the end of a line drops the blanks after it. -/
def longText (quote : Char) : (fuel : Nat) → Reader (List Char)
  | 0, _ => none
  | _ + 1, [] => none
  | fuel + 1, c :: rest =>
      let andMore := fun (piece : Char) (after : List Char) => do
        let (more, after) ← longText quote fuel after
        return (piece :: more, after)
      if c = quote && rest.take 2 = [quote, quote] then some (longEnd quote (rest.drop 2))
      else if c = '\\' && quote = '"' then
        let blank := skipBlank rest
        match blank, rest with
        | '\n' :: _, _ =>
            longText quote fuel (blank.dropWhile fun c => c = ' ' || c = '\t' || c = '\n')
        | _, _ => do
            let (replacement, after) ← escape? rest
            andMore replacement after
      else if isControl c && c ≠ '\n' then none
      else andMore c rest

def text? : List Char → Option (String × List Char)
  | '"' :: '"' :: '"' :: rest => long '"' rest
  | '\'' :: '\'' :: '\'' :: rest => long '\'' rest
  | '"' :: rest => (basicText (rest.length + 1) rest).map fun (s, after) => (String.ofList s, after)
  | '\'' :: rest => (literalText rest).map fun (s, after) => (String.ofList s, after)
  | _ => none
where
  /-- A text of several lines; a line end right after its quotes is dropped. -/
  long (quote : Char) (text : List Char) : Option (String × List Char) :=
    let text := if text.head? = some '\n' then text.drop 1 else text
    (longText quote (text.length + 1) text).map fun (s, after) => (String.ofList s, after)

def digitRun (isDigit : Char → Bool) : List Char → List Char × List Char
  | c :: '_' :: d :: rest =>
      if isDigit c then
        if isDigit d then
          let (run, after) := digitRun isDigit (d :: rest)
          (c :: run, after)
        else ([c], '_' :: d :: rest)
      else ([], c :: '_' :: d :: rest)
  | c :: rest =>
      if isDigit c then
        let (run, after) := digitRun isDigit rest
        (c :: run, after)
      else ([], c :: rest)
  | [] => ([], [])

def based? : List Char → Option (Value × List Char)
  | '0' :: mark :: rest => do
      let base ← match mark with
        | 'x' => some 16
        | 'o' => some 8
        | 'b' => some 2
        | _ => none
      let (digits, after) := digitRun (fun c => (Json.hexValue? c).any (· < base)) rest
      if digits.isEmpty then none
      return (.int (Text.ofDigitValues base (← digits.mapM Json.hexValue?)), after)
  | _ => none

def exponent? : List Char → Option (Int × List Char)
  | c :: rest =>
      if c = 'e' || c = 'E' then
        let (negative, rest) := Numeral.splitSign rest
        let (digits, after) := digitRun Char.isDigit rest
        (Text.natural? digits).map fun n => (if negative then -(n : Int) else n, after)
      else none
  | [] => none

def decimal? (text : List Char) : Option (Value × List Char) := do
  let (negative, body) := Numeral.splitSign text
  let (whole, rest) := match body with
    | '0' :: more => (['0'], more)
    | _ => digitRun Char.isDigit body
  let n ← Text.natural? whole
  let (fraction, rest) := match rest with
    | '.' :: more =>
        let (digits, after) := digitRun Char.isDigit more
        if digits.isEmpty then ([], rest) else (digits, after)
    | _ => ([], rest)
  match fraction, exponent? rest with
  | [], none => return (.int (if negative then -(n : Int) else n), rest)
  | _, power =>
      let (e, rest) := power.getD (0, rest)
      let digits ← Text.natural? (whole ++ fraction)
      return (.real (.ofScientific negative digits (e - fraction.length)), rest)

def special? (text : List Char) : Option (Value × List Char) :=
  let (negative, body) := Numeral.splitSign text
  match body with
  | 'i' :: 'n' :: 'f' :: rest => some (.real (.infinite negative), rest)
  | 'n' :: 'a' :: 'n' :: rest => some (.real .nan, rest)
  | _ => none

def skipFraction (text : List Char) : List Char :=
  match text with
  | '.' :: rest =>
      let digits := rest.takeWhile Char.isDigit
      if digits.isEmpty then text else rest.drop digits.length
  | _ => text

def timeOfDay? (text : List Char) : Option (List Char) := do
  let (hour, rest) ← Text.shortRun? 2 2 text
  let (minute, rest) ← Text.shortRun? 2 2 (← Text.after? ':' rest)
  let (second, rest) ← Text.shortRun? 2 2 (← Text.after? ':' rest)
  if hour < 24 && minute < 60 && second < 60 then some (skipFraction rest) else none

def offset? (text : List Char) : Option (List Char) :=
  match text with
  | 'Z' :: rest | 'z' :: rest => some rest
  | sign :: rest =>
      if sign = '+' || sign = '-' then do
        let (hour, rest) ← Text.shortRun? 2 2 rest
        let (minute, rest) ← Text.shortRun? 2 2 (← Text.after? ':' rest)
        if hour < 24 && minute < 60 then some rest else none
      else none
  | [] => none

/-- A date with an optional time and offset, or a time: what follows it, and
    whether the calendar has the date. -/
def moment? (text : List Char) : Option (Bool × List Char) :=
  date? <|> (timeOfDay? text).map fun rest => (true, rest)
where
  date? : Option (Bool × List Char) := do
    let (year, rest) ← Text.shortRun? 4 4 text
    let (month, rest) ← Text.shortRun? 2 2 (← Text.after? '-' rest)
    let (day, rest) ← Text.shortRun? 2 2 (← Text.after? '-' rest)
    if month < 1 || 12 < month || day < 1 || 31 < day then none
    let isValid := (⟨year, month, day⟩ : Date).isValid
    let time := match rest with
      | c :: more => if c = 'T' || c = 't' || c = ' ' then timeOfDay? more else none
      | [] => none
    match time with
    | some rest => return (isValid, (offset? rest).getD rest)
    | none => return (isValid, rest)

def keyPart? (text : List Char) : Option (String × List Char) :=
  match text with
  | '"' :: rest => (basicText (rest.length + 1) rest).map fun (s, after) => (String.ofList s, after)
  | '\'' :: rest => (literalText rest).map fun (s, after) => (String.ofList s, after)
  | _ =>
      let word := text.takeWhile fun c => c.isAlphanum || c = '_' || c = '-'
      if word.isEmpty then none else some (String.ofList word, text.drop word.length)

def key? : (fuel : Nat) → Reader (List String)
  | 0, _ => none
  | fuel + 1, text => do
      let (part, rest) ← keyPart? text
      match skipBlank rest with
      | '.' :: rest =>
          let (parts, rest) ← key? fuel (skipBlank rest)
          return (part :: parts, rest)
      | rest => return ([part], rest)

def define? (entries : Entries) : (path : List String) → Value → Option Entries
  | [], _ => none
  | [last], value =>
      if (entries.field? last).isSome then none else some (entries.insert (.text last) value)
  | first :: path, value =>
      match entries.field? first with
      | none => (define? [] path value).map fun inner => entries.insert (.text first) (.map inner)
      | some (.map inner) =>
          (define? inner path value).map fun inner => entries.insert (.text first) (.map inner)
      | some _ => none

mutual

def value : (fuel : Nat) → Reader Value
  | 0, _ => none
  | fuel + 1, text =>
      match text with
      | '"' :: _ | '\'' :: _ => (text? text).map fun (s, rest) => (.text s, rest)
      | 't' :: 'r' :: 'u' :: 'e' :: rest => some (.bool true, rest)
      | 'f' :: 'a' :: 'l' :: 's' :: 'e' :: rest => some (.bool false, rest)
      | '[' :: rest => do
          let (items, rest) ← array fuel rest
          return (.list items, rest)
      | '\x7b' :: rest =>
          match skipBlank rest with
          | '\x7d' :: rest => some (.map [], rest)
          | rest => (table fuel [] rest).map fun (entries, rest) => (.map entries, rest)
      | _ =>
          match moment? text with
          | some (isValid, rest) =>
              let written := text.take (text.length - rest.length)
              if isValid then some (.moment (String.ofList written), rest) else none
          | none => based? text <|> decimal? text <|> special? text

def array : (fuel : Nat) → Reader (List Value)
  | 0, _ => none
  | fuel + 1, text => do
      match ← skipFiller false text with
      | ']' :: rest => return ([], rest)
      | text =>
          let (item, rest) ← value fuel text
          match ← skipFiller false rest with
          | ']' :: rest => return ([item], rest)
          | ',' :: rest =>
              let (items, rest) ← array fuel rest
              return (item :: items, rest)
          | _ => none

def table : (fuel : Nat) → Entries → Reader Entries
  | 0, _, _ => none
  | fuel + 1, done, text => do
      let (path, rest) ← key? (text.length + 1) text
      let (item, rest) ← match rest with
        | '=' :: rest => value fuel (skipBlank rest)
        | _ => none
      let done ← define? done path item
      match skipBlank rest with
      | '\x7d' :: rest => return (done, rest)
      | ',' :: rest => table fuel done (skipBlank rest)
      | _ => none

end

def read? (text : String) : Option Value := do
  let chars := Text.joinPairs text.toList
  let (found, rest) ← value (chars.length + 1) (skipBlank chars)
  if skipFiller false rest = some [] then some found else none

end EventRetention.Toml
