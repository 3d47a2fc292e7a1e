import EventRetention.Number.Numeral

/-!
Database addresses: a scheme and its mark, then a user and a password before
an at sign, a host, a socket number after a colon, a database after a slash,
and a query after a question mark. All but the scheme may be absent.
-/

namespace EventRetention

structure Url where
  scheme : String
  user : Option String := none
  password : Option String := none
  host : Option String := none
  socket : Option Int := none
  database : Option String := none
  query : Option String := none
deriving DecidableEq, Repr

namespace Url

inductive Fault where
  | malformed
  | socketMissing
  | socket (fault : Numeral.Fault)
deriving DecidableEq, Repr

def Fault.message : Fault → String
  | .malformed => "Could not parse SQLAlchemy URL from given URL string"
  | .socketMissing => "Port argument must be an integer or None"
  | .socket fault => fault.message

def isSchemeCharacter (c : Char) : Bool := c.isAlphanum || c = '_' || c = '+'

def scheme? (text : List Char) : Option (String × List Char) :=
  match text.span isSchemeCharacter with
  | ([], _) => none
  | (name, ':' :: '/' :: '/' :: rest) => some (String.ofList name, rest)
  | _ => none

def atLast? (mark : Char) (text : List Char) : Option (List Char × List Char) :=
  match text.reverse.span (· ≠ mark) with
  | (after, _ :: before) => some (before.reverse, after.reverse)
  | (_, []) => none

/-- A user before an `@`, perhaps with a password after a colon. A password
    may hold anything but an `@`; a user alone neither a colon nor a slash. -/
def credentialPart (text : List Char) : Option String × Option String × List Char :=
  let (run, rest) := text.span fun c => c ≠ ':' && c ≠ '/'
  let (password, behind) := (rest.drop 1).span (· ≠ '@')
  match rest.head?, behind with
  | some ':', _ :: address =>
      (some (String.ofList run), some (String.ofList password), address)
  | _, _ =>
      match atLast? '@' run with
      | some (user, start) => (some (String.ofList user), none, start ++ rest)
      | none => (none, none, text)

def namedHost (text : List Char) : Option String × List Char :=
  match text.span fun c => c ≠ '/' && c ≠ ':' && c ≠ '?' with
  | ([], _) => (none, text)
  | (name, rest) => (some (String.ofList name), rest)

def hostPart (text : List Char) : Option String × List Char :=
  match text with
  | '[' :: inner =>
      let (run, rest) := inner.span fun c => c ≠ '/' && c ≠ '?'
      match atLast? ']' run with
      | some (address, after) =>
          if address.isEmpty then namedHost text
          else (some (String.ofList address), after ++ rest)
      | none => namedHost text
  | _ => namedHost text

def markedPart (mark : Char) (ends : List Char) (text : List Char) :
    Option String × List Char :=
  match text with
  | [] => (none, [])
  | c :: rest =>
      if c = mark then
        let (part, rest) := rest.span fun c => !ends.contains c
        (some (String.ofList part), rest)
      else (none, text)

def socketNumber (text : String) : Except Fault Int :=
  if text.isEmpty then .error .socketMissing else (Numeral.ofText text).mapError .socket

def ofText (text : String) : Except Fault Url :=
  match scheme? text.toList with
  | none => .error .malformed
  | some (scheme, rest) => do
      let (user, password, rest) := credentialPart rest
      let (host, rest) := hostPart rest
      let (socket, rest) := markedPart ':' ['/', '?'] rest
      let (database, rest) := markedPart '/' ['?'] rest
      let (query, _) := markedPart '?' ['\n'] rest
      let socket ← socket.mapM socketNumber
      return { scheme, user, password, host, socket, database, query }

def namesServer (url : Url) : Bool :=
  url.user.any (· ≠ "") || url.password.any (· ≠ "") || url.host.any (· ≠ "") ||
    url.socket.any (· ≠ 0)

def written (mark : String) (part : Option String) : String := part.elim "" (mark ++ ·)

def writtenHost (name : String) : String :=
  if name.toList.contains ':' then "[" ++ name ++ "]" else name

def text (url : Url) : String :=
  url.scheme ++ "://" ++ url.user.elim "" (fun user => user ++ written ":" url.password ++ "@") ++
    url.host.elim "" writtenHost ++ written ":" (url.socket.map toString) ++
    written "/" url.database ++ written "?" url.query

end Url

end EventRetention
