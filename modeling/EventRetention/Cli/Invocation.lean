import EventRetention.Cli.Options
import EventRetention.Settings.Basic
import EventRetention.Workspace.Path

/-!
What a command line asks for: the version, help, or a command with its options.
The first of the options for version and help decides, and either comes before
any command.
-/

namespace EventRetention

structure Purge where
  ttlSeconds : Option { n : Nat // 0 < n ∧ n ≤ maxTtlSeconds } := none
  batchSize : Option { n : Nat // 0 < n } := none
  dryRun : Bool := false

inductive Command where
  | init
  | events (jobKey reason : String) (eventKey : Option String)
  | purge (options : Purge)

structure Request where
  command : Command
  database : Option String := none
  settingsPath : Path := ⟨"", ["settings.yaml"]⟩

inductive Invocation where
  | version
  | help
  | request (request : Request)

namespace Purge

def retention (p : Purge) (settings : RetentionSettings) : RetentionSettings :=
  let ttl := p.ttlSeconds.getD ⟨settings.ttlSeconds, settings.ttlInRange⟩
  let batch := p.batchSize.getD ⟨settings.batchSize, settings.batchPositive⟩
  { ttlSeconds := ttl.val, batchSize := batch.val, ttlInRange := ttl.property
    batchPositive := batch.property }

end Purge

namespace Cli

def globalForms : List OptionForm := [⟨"--version", some 'V', false⟩, ⟨"--help", none, false⟩]

def sharedForms : List OptionForm :=
  [⟨"--database", some 'd', true⟩, ⟨"--settings", some 's', true⟩, ⟨"--help", none, false⟩]

def eventsForms : List OptionForm := ⟨"--event-key", some 'k', true⟩ :: sharedForms

def purgeForms : List OptionForm :=
  [⟨"--ttl-seconds", some 't', true⟩, ⟨"--batch-size", some 'b', true⟩,
    ⟨"--dry-run", none, false⟩] ++ sharedForms

def number (s : Scan) (name : String) (read : Value → Except Settings.Problem α) :
    Except Misuse (Option α) :=
  (s.value? name).mapM fun text => (read (.text text)).mapError fun _ => .badValue name text

def noMore : List String → Except Misuse Unit
  | [] => .ok ()
  | extra :: _ => .error (.unexpectedArgument extra)

def requestOf (s : Scan) (command : Command) : Request where
  command := command
  database := s.value? "--database"
  settingsPath := .ofText ((s.value? "--settings").getD "settings.yaml")

def unlessHelp (s : Scan) (command : Except Misuse Command) : Except Misuse Invocation :=
  if s.has "--help" then .ok .help else command.map fun command => .request (requestOf s command)

def initCommand (s : Scan) : Except Misuse Command := do
  noMore s.positional
  return .init

def eventsCommand (s : Scan) : Except Misuse Command :=
  match s.positional with
  | [] => .error (.missingArgument "JOB_KEY")
  | [_] => .error (.missingArgument "REASON")
  | jobKey :: reason :: more => do
      noMore more
      return .events jobKey reason (s.value? "--event-key")

def purgeCommand (s : Scan) : Except Misuse Command := do
  let ttlSeconds ← number s "--ttl-seconds" (Settings.positiveUpTo maxTtlSeconds)
  let batchSize ← number s "--batch-size" Settings.positive
  noMore s.positional
  return .purge { ttlSeconds, batchSize, dryRun := s.has "--dry-run" }

def commandOf (name : String) (arguments : List String) : Except Misuse Invocation := do
  match name with
  | "init" =>
      let s ← Scan.ofArguments sharedForms true arguments
      unlessHelp s (initCommand s)
  | "events" =>
      let s ← Scan.ofArguments eventsForms true arguments
      unlessHelp s (eventsCommand s)
  | "purge" =>
      let s ← Scan.ofArguments purgeForms true arguments
      unlessHelp s (purgeCommand s)
  | _ => throw (.unknownCommand name)

def global? (s : Scan) : Option Invocation :=
  match s.given with
  | ("--version", _) :: _ => some .version
  | ("--help", _) :: _ => some .help
  | _ => none

end Cli

open Cli in
def Invocation.ofArguments (arguments : List String) : Except Misuse Invocation := do
  let s ← Scan.ofArguments globalForms false arguments
  match global? s, s.positional with
  | some invocation, _ => return invocation
  | none, [] => throw .missingCommand
  | none, name :: rest => commandOf name rest

end EventRetention
