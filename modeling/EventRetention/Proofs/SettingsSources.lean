import EventRetention.Proofs.EntryLookup
import EventRetention.Proofs.NameCase
import EventRetention.Settings.Load

/-!
Where settings come from. A source, be it a name in the file or a variable,
contributes a value to one section, or a part of its map. The sections are what
all contributions come to, one after the other, from none.
-/

namespace EventRetention

namespace Sections

def sectionKey (first : List Char) : Value :=
  .text (Text.upper (String.ofList (Text.trimBy Text.isSpacing first)))

def placed (name : String) (value : Value) : Value × Value :=
  let parts := splitName name.toList
  (sectionKey (parts.headD []), nested parts.tail value)

def contribution? (source : String × Value) : Option (Value × Value) :=
  (convert source.2).map (placed source.1)

def receive (sections : Entries) (given : Value × Value) : Entries :=
  sections.insert given.1 (mergeValues (sections.get? given.1) given.2)

theorem assign_contribution (sections : Entries) (name : String) (value : Value) :
    assign sections name value = (contribution? (name, value)).map (receive sections) := by
  unfold assign contribution? placed
  cases convert value with
  | none => rfl
  | some value =>
      cases parts : splitName name.toList with
      | nil => exact absurd parts (splitName_ne_nil name.toList)
      | cons first path =>
          simp only [Option.bind_eq_bind, Option.bind_some]
          rfl

theorem assignAll_contributions (sections : Entries) (sources : List (String × Value)) :
    assignAll sections sources =
      (sources.mapM contribution?).map fun all => all.foldl receive sections := by
  induction sources generalizing sections with
  | nil => rfl
  | cons source rest ih =>
      obtain ⟨name, value⟩ := source
      rw [assignAll, assign_contribution, List.mapM_cons]
      cases contribution? (name, value) with
      | none => rfl
      | some given =>
          simp only [Option.map_some, Option.bind_eq_bind, Option.bind_some, ih]
          cases rest.mapM contribution? with
          | none => rfl
          | some all => rfl

theorem receive_fresh (all : Entries) (given : Value × Value) (fresh : given.1 ∉ all.keys) :
    receive all given = all ++ [given] := by
  rw [receive, (all.get?_eq_none given.1).mpr fresh]
  exact all.insert_fresh given.1 given.2 fresh

theorem received_fresh (all given : Entries) (fresh : (all.keys ++ given.keys).Nodup) :
    given.foldl receive all = all ++ given := by
  have received := Entries.foldl_append_fresh receive id receive_fresh given all
  rw [List.map_id] at received
  exact received fresh

end Sections

namespace Settings

def sourceEntries (file : Option File) : Except SourceFault Entries :=
  match file with
  | none => .ok []
  | some file => file.document.bind documentEntries

def overrides? (environment : List (String × String)) : Option (List (String × Value)) :=
  (markedVariables environment).mapM fun (name, value) =>
    (Sections.environmentValue value).map fun value => (name, value)

/-- All that a document and the environment contribute, in the order in which it
    counts; none if a conversion fails. -/
def contributions? (entries : Entries) (environment : List (String × String)) :
    Option (List (Value × Value)) :=
  (overrides? environment).bind fun overrides =>
    (Sections.namedValues entries ++ overrides).mapM Sections.contribution?

theorem ok_of_found [BEq α] [LawfulBEq α] (result : Except ε α) (value : α)
    (found : (result.toOption == some value) = true) : result = .ok value := by
  cases result with
  | error fault => cases found
  | ok other => rw [Option.some.inj (eq_of_beq found)]

theorem fileSections_assigned (file : Option File) :
    fileSections file = (sourceEntries file).bind fun entries =>
      match Sections.assignAll [] (Sections.namedValues entries) with
      | some sections => .ok sections
      | none => .error .conversion := by
  cases file with
  | none => rfl
  | some file =>
      simp only [fileSections, sourceEntries, bind]
      cases file.document with
      | error fault => rfl
      | ok document =>
          cases documentEntries document with
          | error fault => rfl
          | ok entries => rfl

theorem environmentSections_assigned (sections : Entries) (environment : List (String × String)) :
    environmentSections sections environment =
      match (overrides? environment).bind (Sections.assignAll sections) with
      | some sections => .ok sections
      | none => .error .conversion := rfl

theorem gathered_contributions (file : Option File) (environment : List (String × String)) :
    gathered file environment = (sourceEntries file).bind fun entries =>
      match contributions? entries environment with
      | none => .error .conversion
      | some all =>
          match Sections.lowerNames (all.foldl Sections.receive []) with
          | some document => .ok document
          | none => .error .keyNotText := by
  unfold gathered
  rw [fileSections_assigned]
  cases sourceEntries file with
  | error fault => rfl
  | ok entries =>
      have assigned (sections : Entries) : Sections.assignAll sections = fun sources =>
          (sources.mapM Sections.contribution?).map fun all => all.foldl Sections.receive sections :=
        funext (Sections.assignAll_contributions sections)
      simp only [bind, Except.bind, contributions?, environmentSections_assigned, assigned,
        List.mapM_append]
      -- A conversion fails in the file, or in reading a variable, or after that.
      cases (Sections.namedValues entries).mapM Sections.contribution? with
      | none => cases overrides? environment <;> rfl
      | some written =>
          cases overrides? environment with
          | none => rfl
          | some overrides =>
              simp only [Option.map_some, Option.bind_some]
              cases overrides.mapM Sections.contribution? with
              | none => rfl
              | some set =>
                  simp only [Option.map_some, Option.pure_def, Option.bind_some, List.foldl_append]
                  rfl

end Settings

end EventRetention
