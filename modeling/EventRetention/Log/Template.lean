import EventRetention.Number.Fixed
import EventRetention.Number.Numeral
import EventRetention.Value.Display

/-!
Message templates: `%` marks where an argument goes, with optional flags,
width, precision and a conversion letter. Arguments are taken in order, or by
key when a single map is given; all of them have to be used.
-/

namespace EventRetention.Log

inductive TemplateFault where
  | notEnoughArguments
  | unusedArguments
  | mapNeeded
  | unknownKey (key : String)
  | integerNeeded
  | numberNeeded
  | characterNeeded
  | incomplete
  | incompleteKey
  | widthTooBig
  | precisionTooBig
  | unknownConversion (c : Char) (index : Nat)
  | notANumber
  | tooManyDigits
  | infinite
  | integerTooLarge
  | widthOutOfRange
  | precisionOutOfRange
  | precisionTooLarge
  | characterOutOfRange
  /-- A code point that is asked for as a character and is none: half of a
      surrogate pair. -/
  | loneSurrogate
deriving DecidableEq, Repr

inductive FaultKind where
  | type
  | value
  | key
  | overflow
deriving DecidableEq, Repr

namespace TemplateFault

def kind : TemplateFault → FaultKind
  | .unknownKey _ => .key
  | .incomplete | .incompleteKey | .widthTooBig | .precisionTooBig | .unknownConversion ..
  | .notANumber | .tooManyDigits | .loneSurrogate => .value
  | .infinite | .integerTooLarge | .widthOutOfRange | .precisionOutOfRange | .precisionTooLarge
  | .characterOutOfRange => .overflow
  | .notEnoughArguments | .unusedArguments | .mapNeeded | .integerNeeded | .numberNeeded
  | .characterNeeded => .type

/-- The text of a fault; none where it depends on the argument and its type. -/
def message? : TemplateFault → Option String
  | .notEnoughArguments => some "not enough arguments for format string"
  | .unusedArguments => some "not all arguments converted during string formatting"
  | .mapNeeded => some "format requires a mapping"
  | .unknownKey key => some (Text.quoted key)
  | .integerNeeded | .numberNeeded | .characterNeeded | .loneSurrogate => none
  | .incomplete => some "incomplete format"
  | .incompleteKey => some "incomplete format key"
  | .widthTooBig => some "width too big"
  | .precisionTooBig => some "precision too big"
  | .unknownConversion c index =>
      let shown := if 31 ≤ c.toNat && c.toNat ≤ 126 then c else '?'
      some ("unsupported format character '" ++ String.singleton shown ++ "' (0x" ++
        String.ofList (Nat.toDigits 16 c.toNat) ++ ") at index " ++ toString index)
  | .notANumber => some "cannot convert float NaN to integer"
  | .tooManyDigits => some Text.limitMessage
  | .infinite => some "cannot convert float infinity to integer"
  | .integerTooLarge => some "int too large to convert to float"
  | .widthOutOfRange => some "Python int too large to convert to C ssize_t"
  | .precisionOutOfRange => some "Python int too large to convert to C int"
  | .precisionTooLarge => some "precision too large"
  | .characterOutOfRange => some "%c arg not in range(0x110000)"

end TemplateFault

structure Placeholder where
  alternate : Bool := false
  zeros : Bool := false
  left : Bool := false
  blank : Bool := false
  plus : Bool := false
  width : Nat := 0
  precision : Option Nat := none

/-- Arguments still to be used: a list in order, or a map together with the
    one value that a placeholder without a key would take. -/
inductive Arguments where
  | ordered (rest : List Value)
  | keyed (entries : Entries) (next : Option Value)

namespace Arguments

/-- The arguments of a call: a single map that is not empty is used by key. -/
def ofList : List Value → Arguments
  | [.map (entry :: entries)] =>
      .keyed (entry :: entries) (some (.map (entry :: entries)))
  | values => .ordered values

def next : Arguments → Except TemplateFault (Value × Arguments)
  | .ordered (value :: rest) => .ok (value, .ordered rest)
  | .keyed entries (some value) => .ok (value, .keyed entries none)
  | _ => .error .notEnoughArguments

def select (key : String) : Arguments → Except TemplateFault Arguments
  | .ordered _ => .error .mapNeeded
  | .keyed entries _ =>
      match entries.field? key with
      | some value => .ok (.keyed entries (some value))
      | none => .error (.unknownKey key)

end Arguments

namespace Placeholder

def padText (p : Placeholder) (s : String) : String :=
  let blanks := String.ofList (List.replicate (p.width - s.length) ' ')
  if p.left then s ++ blanks else blanks ++ s

def padNumber (p : Placeholder) (negative : Bool) (mark digits : String) : String :=
  let sign := if negative then "-" else if p.plus then "+" else if p.blank then " " else ""
  let missing := p.width - (sign.length + mark.length + digits.length)
  if p.left then sign ++ mark ++ digits ++ String.ofList (List.replicate missing ' ')
  else if p.zeros then
    sign ++ mark ++ String.ofList (List.replicate missing '0') ++ digits
  else String.ofList (List.replicate missing ' ') ++ sign ++ mark ++ digits

def fillText (p : Placeholder) (s : String) : String :=
  p.padText (match p.precision with
    | some n => String.ofList (s.toList.take n)
    | none => s)

-- The limit on digits is one of decimal texts only.
def fillInteger (p : Placeholder) (base : Nat) (mark : String) (capital : Bool) (n : Int) :
    Except TemplateFault String :=
  if 2147483644 < p.precision.getD 1 then .error .precisionTooLarge
  else if base = 10 && !Text.hasDecimal n then .error .tooManyDigits
  else
    let digits := Nat.toDigits base n.natAbs
    let digits := if capital then digits.map Char.toUpper else digits
    let zeros := List.replicate (p.precision.getD 1 - digits.length) '0'
    .ok (p.padNumber (n < 0) (if p.alternate then mark else "") (String.ofList (zeros ++ digits)))

def truncated : Value → Except TemplateFault Int
  | .int n => .ok n
  | .bool b => .ok (if b then 1 else 0)
  | .real .nan => .error .notANumber
  | .real (.infinite _) => .error .infinite
  | .real x => .ok (x.truncate?.getD 0)
  | _ => .error .numberNeeded

def wholeNumber : Value → Except TemplateFault Int
  | .int n => .ok n
  | .bool b => .ok (if b then 1 else 0)
  | _ => .error .integerNeeded

def number : Value → Except TemplateFault Binary64
  | .real x => .ok x
  | .bool b => .ok (Binary64.ofInt (if b then 1 else 0))
  | .int n =>
      match Binary64.ofInt n with
      | .infinite _ => .error .integerTooLarge
      | x => .ok x
  | _ => .error .numberNeeded

def fillReal (p : Placeholder) (conversion : Char) (capital : Bool) (x : Binary64) : String :=
  let places := p.precision.getD 6
  let (negative, digits) := match x with
    | .finite negative m e =>
        (negative,
          if conversion = 'e' then Binary64.scientificText m e places p.alternate
          else if conversion = 'f' then Binary64.fixedText m e places p.alternate
          else Binary64.generalText m e places p.alternate)
    | .infinite negative => (negative, "inf")
    | .nan => (false, "nan")
  p.padNumber negative "" (if capital then digits.map Char.toUpper else digits)

def character : Value → Except TemplateFault String
  | .int n =>
      if n < 0 ∨ 0x110000 ≤ n then .error .characterOutOfRange
      else if n.toNat.isValidChar then .ok (String.singleton (Char.ofNat n.toNat))
      else .error .loneSurrogate
  | .bool b => .ok (String.singleton (Char.ofNat (if b then 1 else 0)))
  | .text s => if s.length = 1 then .ok s else .error .characterNeeded
  | _ => .error .characterNeeded

def ascii (s : String) : String :=
  String.ofList (s.toList.flatMap fun c =>
    if c.toNat < 0x80 then [c]
    else if c.toNat < 0x100 then '\\' :: 'x' :: Text.hexDigits 2 c.toNat
    else if c.toNat < 0x10000 then '\\' :: 'u' :: Text.hexDigits 4 c.toNat
    else '\\' :: 'U' :: Text.hexDigits 8 c.toNat)

def fillShown (p : Placeholder) (value : Value) (text : String) : Except TemplateFault String :=
  if value.hasText then .ok (p.fillText text) else .error .tooManyDigits

def fill (p : Placeholder) (conversion : Char) (index : Nat) (value : Value) :
    Except TemplateFault String :=
  match conversion with
  | 's' => p.fillShown value value.plain
  | 'r' => p.fillShown value value.display
  | 'a' => p.fillShown value (ascii value.display)
  | 'c' => (character value).map p.padText
  | 'd' | 'i' | 'u' => truncated value >>= p.fillInteger 10 "" false
  | 'x' => wholeNumber value >>= p.fillInteger 16 "0x" false
  | 'X' => wholeNumber value >>= p.fillInteger 16 "0X" true
  | 'o' => wholeNumber value >>= p.fillInteger 8 "0o" false
  | 'e' | 'f' | 'g' => (number value).map (p.fillReal conversion false)
  | 'E' => (number value).map (p.fillReal 'e' true)
  | 'F' => (number value).map (p.fillReal 'f' true)
  | 'G' => (number value).map (p.fillReal 'g' true)
  | c => .error (.unknownConversion c index)

def flags (p : Placeholder) : List Char → Placeholder × List Char
  | '#' :: rest => flags { p with alternate := true } rest
  | '0' :: rest => flags { p with zeros := true } rest
  | '-' :: rest => flags { p with left := true } rest
  | ' ' :: rest => flags { p with blank := true } rest
  | '+' :: rest => flags { p with plus := true } rest
  | rest => (p, rest)

def count (most : Nat) (tooBig outOfRange : TemplateFault) (text : List Char) (args : Arguments) :
    Except TemplateFault (Int × List Char × Arguments) :=
  match text with
  | '*' :: rest => do
      let (value, args) ← args.next
      let n ← wholeNumber value
      if n < -most - 1 || most < n then throw outOfRange
      return (n, rest, args)
  | _ =>
      let digits := text.takeWhile Char.isDigit
      let n := (Text.natural? digits).getD 0
      if most < n then .error tooBig else .ok (n, text.drop digits.length, args)

-- A width fits in 64 bits with its sign, a precision in 32.
def readWidth : List Char → Arguments → Except TemplateFault (Int × List Char × Arguments) :=
  count 9223372036854775807 .widthTooBig .widthOutOfRange

def readPrecision : List Char → Arguments → Except TemplateFault (Int × List Char × Arguments) :=
  count 2147483647 .precisionTooBig .precisionOutOfRange

end Placeholder

def splitKey : (depth : Nat) → List Char → Option (List Char × List Char)
  | _, [] => none
  | depth, c :: rest =>
      if c = ')' && depth = 0 then some ([], rest)
      else
        let depth := if c = '(' then depth + 1 else if c = ')' then depth - 1 else depth
        (splitKey depth rest).map fun (key, after) => (c :: key, after)

/-- Fills the placeholder after a `%`. The index of a character is the length
    of the whole template less that of the text from it on. -/
def fillNext (length : Nat) (text : List Char) (args : Arguments) :
    Except TemplateFault (String × List Char × Arguments) := do
  let (text, args) ← match text with
    | '(' :: rest =>
        match args with
        | .ordered _ => throw .mapNeeded
        | .keyed .. =>
            match splitKey 0 rest with
            | none => throw .incompleteKey
            | some (key, after) => pure (after, ← args.select (String.ofList key))
    | _ => pure (text, args)
  let (p, text) := Placeholder.flags {} text
  let (width, text, args) ← Placeholder.readWidth text args
  let p := { p with width := width.natAbs, left := p.left || width < 0 }
  let (p, text, args) ← match text with
    | '.' :: rest => do
        let (precision, rest, args) ← Placeholder.readPrecision rest args
        pure ({ p with precision := some precision.toNat }, rest, args)
    | _ => pure (p, text, args)
  let text := match text with
    | c :: rest => if c = 'h' || c = 'l' || c = 'L' then rest else text
    | [] => []
  match text with
  | [] => throw .incomplete
  | c :: rest =>
      let (value, args) ← args.next
      return (← p.fill c (length - text.length) value, rest, args)

/-- Fills all placeholders from left to right; a doubled `%` stands for one. The
    characters of a placeholder are skipped once it is filled. -/
def fillFrom (length : Nat) : (skip : Nat) → List Char → Arguments → Except TemplateFault String
  | _, [], .ordered (_ :: _) => .error .unusedArguments
  | _, [], _ => .ok ""
  | skip + 1, _ :: rest, args => fillFrom length skip rest args
  | 0, '%' :: '%' :: rest, args => do return "%" ++ (← fillFrom length 0 rest args)
  | 0, '%' :: rest, args => do
      let (piece, after, args) ← fillNext length rest args
      return piece ++ (← fillFrom length (rest.length - after.length) rest args)
  | 0, c :: rest, args => do return String.singleton c ++ (← fillFrom length 0 rest args)

def formatMessage (template : String) (arguments : List Value) : Except TemplateFault String :=
  if arguments.isEmpty then .ok template
  else fillFrom template.length 0 template.toList (Arguments.ofList arguments)

end EventRetention.Log
