import EventRetention.Yaml.Token

/-!
The nodes of a YAML document, built from its tokens. A reference stands for the
node of its anchor, which must come before it.
-/

namespace EventRetention.Yaml

inductive Node where
  | scalar (tag : Option String) (isPlain : Bool) (text : String)
  | sequence (tag : Option String) (items : List Node)
  | mapping (tag : Option String) (entries : List (Node × Node))
deriving Repr, Inhabited

namespace Node

def absent : Node := .scalar none true ""

def tagged (tag : Option String) : Node → Node
  | scalar _ isPlain text => scalar tag isPlain text
  | sequence _ items => sequence tag items
  | mapping _ entries => mapping tag entries

end Node

structure Source where
  tokens : List Token
  anchors : List (String × Node) := []

namespace Source

def rest (s : Source) : Source := { s with tokens := s.tokens.drop 1 }

def nextIn (s : Source) (tokens : List Token) : Bool := s.tokens.head?.any tokens.contains

end Source

abbrev NodeReader (α : Type) := Source → Option (α × Source)

def wholeTag? : Option String → String → Option String
  | none, name => some name
  | some "!", name => some ("!" ++ name)
  | some "!!", name => some ("tag:yaml.org,2002:" ++ name)
  | some _, _ => none

def properties : NodeReader (Option String × Option String) := fun s =>
  match s.tokens with
  | .anchor name :: .tag handle tag :: _ => do
      return ((some name, some (← wholeTag? handle tag)), s.rest.rest)
  | .anchor name :: _ => some ((some name, none), s.rest)
  | .tag handle tag :: .anchor name :: _ => do
      return ((some name, some (← wholeTag? handle tag)), s.rest.rest)
  | .tag handle tag :: _ => do return ((none, some (← wholeTag? handle tag)), s.rest)
  | _ => some ((none, none), s)

mutual

/-- A node. Only in a block may it be a block, and only as a part of a mapping
    a sequence that is not indented. -/
def node (inBlock inMapping : Bool) : (fuel : Nat) → NodeReader Node
  | 0, _ => none
  | fuel + 1, s =>
      match s.tokens with
      | .reference name :: _ => (s.anchors.lookup name).map fun found => (found, s.rest)
      | _ => do
          let ((anchor, tag), s) ← properties s
          let (found, s) ← content inBlock inMapping (anchor.isSome || tag.isSome) fuel s
          let found := found.tagged tag
          match anchor with
          | some name => return (found, { s with anchors := (name, found) :: s.anchors })
          | none => return (found, s)

def content (inBlock inMapping hasProperties : Bool) : (fuel : Nat) → NodeReader Node
  | 0, _ => none
  | fuel + 1, s =>
      match s.tokens with
      | .blockEntry :: _ =>
          if inMapping then
            (flatEntries fuel s).map fun (items, s) => (.sequence none items, s)
          else if hasProperties then some (.absent, s) else none
      | .scalar isPlain text :: _ => some (.scalar none isPlain text, s.rest)
      | .flowSequenceStart :: _ =>
          (flowItems fuel true s.rest).map fun (items, s) => (.sequence none items, s)
      | .flowMappingStart :: _ =>
          (flowEntries fuel true s.rest).map fun (entries, s) => (.mapping none entries, s)
      | .blockSequenceStart :: _ =>
          if inBlock then
            (blockItems fuel s.rest).map fun (items, s) => (.sequence none items, s)
          else if hasProperties then some (.absent, s) else none
      | .blockMappingStart :: _ =>
          if inBlock then
            (blockEntries fuel s.rest).map fun (entries, s) => (.mapping none entries, s)
          else if hasProperties then some (.absent, s) else none
      | _ => if hasProperties then some (.absent, s) else none

def flatEntries : (fuel : Nat) → NodeReader (List Node)
  | 0, _ => none
  | fuel + 1, s =>
      match s.tokens with
      | .blockEntry :: _ => do
          let (first, s) ←
            if s.rest.nextIn [.blockEntry, .key, .value, .blockEnd] then some (.absent, s.rest)
            else node true false fuel s.rest
          let (others, s) ← flatEntries fuel s
          return (first :: others, s)
      | _ => some ([], s)

def blockItems : (fuel : Nat) → NodeReader (List Node)
  | 0, _ => none
  | fuel + 1, s =>
      match s.tokens with
      | .blockEntry :: _ => do
          let (first, s) ←
            if s.rest.nextIn [.blockEntry, .blockEnd] then some (.absent, s.rest)
            else node true false fuel s.rest
          let (others, s) ← blockItems fuel s
          return (first :: others, s)
      | .blockEnd :: _ => some ([], s.rest)
      | _ => none

def blockEntries : (fuel : Nat) → NodeReader (List (Node × Node))
  | 0, _ => none
  | fuel + 1, s => do
      let part := fun (s : Source) =>
        if s.nextIn [.key, .value, .blockEnd] then some (.absent, s) else node true true fuel s
      let valueThen := fun (key : Node) (s : Source) => do
        let (value, s) ← if s.nextIn [.value] then part s.rest else some (.absent, s)
        let (others, s) ← blockEntries fuel s
        return ((key, value) :: others, s)
      match s.tokens with
      | .key :: _ =>
          let (key, s) ← part s.rest
          valueThen key s
      | .value :: _ => valueThen .absent s
      | .blockEnd :: _ => some ([], s.rest)
      | _ => none

def flowItems : (fuel : Nat) → (first : Bool) → NodeReader (List Node)
  | 0, _, _ => none
  | fuel + 1, first, s =>
      if s.nextIn [.flowSequenceEnd] then some ([], s.rest)
      else do
        let s ← if first then some s else if s.nextIn [.flowEntry] then some s.rest else none
        let part := fun (ends : List Token) (s : Source) =>
          if s.nextIn ends then some (.absent, s) else node false false fuel s
        if s.nextIn [.key] then
          let (key, s) ← part [.value, .flowEntry, .flowSequenceEnd] s.rest
          let (value, s) ←
            if s.nextIn [.value] then part [.flowEntry, .flowSequenceEnd] s.rest
            else some (.absent, s)
          let (others, s) ← flowItems fuel false s
          return (.mapping none [(key, value)] :: others, s)
        else if s.nextIn [.flowSequenceEnd] then return ([], s.rest)
        else
          let (item, s) ← node false false fuel s
          let (others, s) ← flowItems fuel false s
          return (item :: others, s)

def flowEntries : (fuel : Nat) → (first : Bool) → NodeReader (List (Node × Node))
  | 0, _, _ => none
  | fuel + 1, first, s =>
      if s.nextIn [.flowMappingEnd] then some ([], s.rest)
      else do
        let s ← if first then some s else if s.nextIn [.flowEntry] then some s.rest else none
        let part := fun (ends : List Token) (s : Source) =>
          if s.nextIn ends then some (.absent, s) else node false false fuel s
        let valueThen := fun (key : Node) (s : Source) => do
          let (value, s) ←
            if s.nextIn [.value] then part [.flowEntry, .flowMappingEnd] s.rest
            else some (.absent, s)
          let (others, s) ← flowEntries fuel false s
          return ((key, value) :: others, s)
        if s.nextIn [.key] then
          let (key, s) ← part [.value, .flowEntry, .flowMappingEnd] s.rest
          valueThen key s
        else if s.nextIn [.value] then valueThen .absent s
        else if s.nextIn [.flowMappingEnd] then return ([], s.rest)
        else
          let (key, s) ← node false false fuel s
          let (others, s) ← flowEntries fuel false s
          return ((key, .absent) :: others, s)

end

/-- Skips the directives before a document; the version is given at most once
    and is one of the first major version. -/
def skipDirectives : (versionSeen : Bool) → List Token → Option (List Token)
  | seen, .directive _ version :: rest =>
      match version with
      | some (major, _) => if seen || major ≠ 1 then none else skipDirectives true rest
      | none => skipDirectives seen rest
  | _, tokens => some tokens

def document? (tokens : List Token) : Option (Option Node) :=
  if tokens.isEmpty then some none
  else do
    let fuel := 4 * tokens.length + 8
    let (found, s) ← match tokens with
      | .directive .. :: _ | .documentStart :: _ => do
          match ← skipDirectives false tokens with
          | .documentStart :: rest =>
              let s : Source := { tokens := rest }
              let isBare := rest.isEmpty || match rest.head? with
                | some (.directive ..) => true
                | some .documentStart => true
                | some .documentEnd => true
                | _ => false
              if isBare then some (Node.absent, s) else node true false fuel s
          | _ => none
      | _ => node true false fuel { tokens }
    let s := if s.nextIn [.documentEnd] then s.rest else s
    if s.tokens.isEmpty then return some found else none

end EventRetention.Yaml
