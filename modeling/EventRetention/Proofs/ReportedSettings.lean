import EventRetention.Cli.Output
import EventRetention.Proofs.SettingsSources

/-!
When settings are answered, by being accepted or by complaints about them, and
when their sources fail instead. A key that is no text fails them in a section
that is a map, unless a later source puts something else than a map in its
place or the section is one of the loader's own. A command tells complaints and ends; it does not expect a source to fail.
-/

namespace EventRetention

namespace Value

def oddlyKeyed : Value → Bool
  | .map entries => entries.any fun entry => entry.1.text?.isNone
  | _ => false

def isMap (value : Value) : Bool := value.entries?.isSome

end Value

namespace Entries

def HasOddKey (entries : Entries) : Prop := ∃ key ∈ entries.keys, key.text? = none

theorem oddlyKeyed_iff (entries : Entries) :
    (Value.map entries).oddlyKeyed = true ↔ entries.HasOddKey := by
  simp [Value.oddlyKeyed, HasOddKey, keys]

theorem hasOddKey_insert (entries : Entries) (key value : Value) :
    (insert entries key value).HasOddKey ↔ key.text? = none ∨ entries.HasOddKey := by
  unfold HasOddKey
  rw [keys_insert]
  by_cases present : key ∈ entries.keys
  · rw [if_pos present]
    exact (or_iff_right_of_imp fun odd => ⟨key, present, odd⟩).symm
  · rw [if_neg present]
    simp only [List.mem_append, List.mem_singleton]
    constructor
    · rintro ⟨other, here | rfl, odd⟩
      · exact Or.inr ⟨other, here, odd⟩
      · exact Or.inl odd
    · rintro (odd | ⟨other, here, odd⟩)
      · exact ⟨key, Or.inr rfl, odd⟩
      · exact ⟨other, Or.inl here, odd⟩

theorem mem_keys_erase (entries : Entries) (key other : Value) :
    other ∈ (erase entries key).keys ↔ other ∈ entries.keys ∧ other ≠ key := by
  simp only [keys, erase, List.mem_map, List.mem_filter, bne_iff_ne]
  constructor
  · rintro ⟨entry, ⟨here, apart⟩, rfl⟩
    exact ⟨⟨entry, here, rfl⟩, apart⟩
  · rintro ⟨⟨entry, here, rfl⟩, apart⟩
    exact ⟨entry, ⟨here, apart⟩, rfl⟩

end Entries

namespace Sections

open Entries (HasOddKey)

theorem firstSpelling?_text (name : String) (entries : Entries) (key : Value)
    (found : firstSpelling? name entries = some key) : key.text? ≠ none := by
  induction entries with
  | nil => cases found
  | cons entry rest ih =>
      obtain ⟨first, value⟩ := entry
      cases first with
      | text s =>
          unfold firstSpelling? at found
          split at found
          · cases found
            exact Option.some_ne_none s
          · exact ih found
      | _ => cases found

/-- A key that is no text is spelled as it is; a text is spelled as a text. -/
theorem spelling?_kind (entries : Entries) (key spelled : Value)
    (found : spelling? entries key = some spelled) :
    spelled = key ∨ key.text? ≠ none ∧ spelled.text? ≠ none := by
  unfold spelling? at found
  split at found
  · exact Or.inl (Option.some.inj found).symm
  · cases key with
    | text name => exact Or.inr ⟨Option.some_ne_none name, firstSpelling?_text name _ _ found⟩
    | _ => exact Or.inl (Option.some.inj found).symm

def respellEntry (old all : Entries) (entry : Value × Value) : Entries :=
  ((spelling? old entry.1).bind fun key =>
    (all.get? entry.1).map fun value => (all.erase entry.1).insert key value).getD all

theorem respell_entries (old new : Entries) :
    respell old new = new.foldl (respellEntry old) new := by
  unfold respell
  congr 1
  funext all entry
  unfold respellEntry
  cases spelling? old entry.1 with
  | none => rfl
  | some key => cases all.get? entry.1 <;> rfl

theorem respell_hasOddKey_one (all : Entries) (key spelled value : Value)
    (kind : spelled = key ∨ key.text? ≠ none ∧ spelled.text? ≠ none) (here : key ∈ all.keys) :
    ((all.erase key).insert spelled value).HasOddKey ↔ all.HasOddKey := by
  rw [Entries.hasOddKey_insert]
  constructor
  · rintro (odd | ⟨other, inside, odd⟩)
    · rcases kind with rfl | ⟨-, text⟩
      · exact ⟨spelled, here, odd⟩
      · exact absurd odd text
    · exact ⟨other, ((all.mem_keys_erase key other).mp inside).1, odd⟩
  · rintro ⟨other, inside, odd⟩
    by_cases same : other = key
    · subst same
      rcases kind with rfl | ⟨text, -⟩
      · exact Or.inl odd
      · exact absurd odd text
    · exact Or.inr ⟨other, (all.mem_keys_erase key other).mpr ⟨inside, same⟩, odd⟩

theorem respellEntry_hasOddKey (old all : Entries) (entry : Value × Value) :
    (respellEntry old all entry).HasOddKey ↔ all.HasOddKey := by
  unfold respellEntry
  cases found : spelling? old entry.1 with
  | none => exact Iff.rfl
  | some spelled =>
      cases held : all.get? entry.1 with
      | none => exact Iff.rfl
      | some value =>
          have here := (all.get?_isSome entry.1).mp (Option.isSome_iff_exists.mpr ⟨value, held⟩)
          exact respell_hasOddKey_one all entry.1 spelled value
            (spelling?_kind old entry.1 spelled found) here

theorem respell_hasOddKey (old new : Entries) : (respell old new).HasOddKey ↔ new.HasOddKey := by
  rw [respell_entries]
  -- The entries that are gone through need not be those that are collected.
  suffices step : ∀ (these all : Entries),
      (these.foldl (respellEntry old) all).HasOddKey ↔ all.HasOddKey from step new new
  intro these
  induction these with
  | nil => exact fun all => Iff.rfl
  | cons entry rest ih => exact fun all => (ih _).trans (respellEntry_hasOddKey old all entry)

theorem mergeEntries_hasOddKey (old new : Entries) :
    (mergeEntries old new).HasOddKey ↔ new.HasOddKey ∨ old.HasOddKey := by
  unfold mergeEntries
  rw [← respell_hasOddKey old new]
  dsimp only
  generalize respell old new = new
  unfold HasOddKey
  rw [Entries.keys_append]
  constructor
  · rintro ⟨key, inside, odd⟩
    rcases List.mem_append.mp inside with new | kept
    · exact Or.inl ⟨key, new, odd⟩
    · obtain ⟨entry, present, rfl⟩ := List.mem_map.mp kept
      exact Or.inr ⟨entry.1, List.mem_map.mpr ⟨entry, (List.mem_filter.mp present).1, rfl⟩, odd⟩
  · rintro (⟨key, inside, odd⟩ | ⟨key, inside, odd⟩)
    · exact ⟨key, List.mem_append_left _ inside, odd⟩
    · refine ⟨key, List.mem_append.mpr ?_, odd⟩
      by_cases again : key ∈ new.keys
      · exact Or.inl again
      · obtain ⟨entry, present, rfl⟩ := List.mem_map.mp inside
        have missing : (new.get? entry.1).isNone = true :=
          Option.isNone_iff_eq_none.mpr ((new.get?_eq_none entry.1).mpr again)
        exact Or.inr (List.mem_map.mpr ⟨entry, List.mem_filter.mpr ⟨present, missing⟩, rfl⟩)

theorem mergeValues_oddlyKeyed (old : Option Value) (new : Value) :
    (mergeValues old new).oddlyKeyed = true ↔
      new.oddlyKeyed = true ∨ new.isMap = true ∧ ∃ value, old = some value ∧ value.oddlyKeyed = true := by
  unfold mergeValues
  split
  · rename_i old new
    rw [Entries.oddlyKeyed_iff, Entries.oddlyKeyed_iff, mergeEntries_hasOddKey]
    simp [Value.isMap, Value.entries?, Entries.oddlyKeyed_iff]
  · rename_i apart
    refine (or_iff_left ?_).symm
    rintro ⟨map, value, rfl, odd⟩
    cases new with
    | map new =>
        cases value with
        | map old => exact apart old new rfl rfl
        | _ => cases odd
    | _ => cases map

/-- Some contribution brings its section a key that is no text, and no later one
    puts something else than a map in its place. -/
def KeepsOddKey (all : List (Value × Value)) (name : Value) : Prop :=
  ∃ before value after, all = before ++ (name, value) :: after ∧ value.oddlyKeyed = true ∧
    ∀ later ∈ after, later.1 = name → later.2.isMap = true

def OddSection (sections : Entries) (name : Value) : Prop :=
  ∃ value, sections.get? name = some value ∧ value.oddlyKeyed = true

theorem oddSection_receive (sections : Entries) (given : Value × Value) (name : Value) :
    OddSection (receive sections given) name ↔ if given.1 = name then
      given.2.oddlyKeyed = true ∨ given.2.isMap = true ∧ OddSection sections name
    else OddSection sections name := by
  unfold OddSection receive
  rw [Entries.get?_insert]
  by_cases same : given.1 = name
  · subst same
    rw [if_pos rfl, if_pos rfl, ← mergeValues_oddlyKeyed]
    simp
  · rw [if_neg same, if_neg same]

theorem keepsOddKey_cons (given : Value × Value) (rest : List (Value × Value)) (name : Value) :
    KeepsOddKey (given :: rest) name ↔
      (given.1 = name ∧ given.2.oddlyKeyed = true ∧
        ∀ later ∈ rest, later.1 = name → later.2.isMap = true) ∨ KeepsOddKey rest name := by
  constructor
  · rintro ⟨before, value, after, same, odd, maps⟩
    cases before with
    | nil =>
        cases same
        exact Or.inl ⟨rfl, odd, maps⟩
    | cons first before =>
        cases same
        exact Or.inr ⟨before, value, after, rfl, odd, maps⟩
  · rintro (⟨rfl, odd, maps⟩ | ⟨before, value, after, rfl, odd, maps⟩)
    · exact ⟨[], given.2, rest, rfl, odd, maps⟩
    · exact ⟨given :: before, value, after, rfl, odd, maps⟩

theorem oddSection_received (sections : Entries) (all : List (Value × Value)) (name : Value) :
    OddSection (all.foldl receive sections) name ↔ KeepsOddKey all name ∨
      OddSection sections name ∧ ∀ later ∈ all, later.1 = name → later.2.isMap = true := by
  induction all generalizing sections with
  | nil => simp [KeepsOddKey]
  | cons given rest ih =>
      rw [List.foldl_cons, ih, oddSection_receive, keepsOddKey_cons]
      simp only [List.forall_mem_cons]
      by_cases same : given.1 = name
      · simp only [same, if_true, true_and, true_implies]
        grind
      · simp only [same, if_false, false_and, false_implies, true_and, false_or]

theorem mapM_eq_none (read : α → Option β) (items : List α) :
    items.mapM read = none ↔ ∃ item ∈ items, read item = none := by
  induction items with
  | nil => simp
  | cons item rest ih =>
      have either : (∃ other ∈ item :: rest, read other = none) ↔
          read item = none ∨ rest.mapM read = none := by
        rw [ih]
        simp only [List.mem_cons, or_and_right, exists_or, exists_eq_left]
      rw [either, List.mapM_cons]
      cases read item with
      | none => simp
      | some first => cases rest.mapM read <;> simp

theorem lowerKeys_none (value : Value) : lowerKeys value = none ↔ value.oddlyKeyed = true := by
  cases value with
  | map entries =>
      rw [lowerKeys, Option.map_eq_none_iff, mapM_eq_none, Value.oddlyKeyed, List.any_eq_true]
      simp only [Option.map_eq_none_iff, Option.isNone_iff_eq_none]
  | _ => simp [lowerKeys, Value.oddlyKeyed]

theorem lowerNames_none (sections : Entries) (single : sections.keys.Nodup) :
    lowerNames sections = none ↔ ∃ name, isInternal name = false ∧ OddSection sections name := by
  rw [lowerNames, mapM_eq_none]
  simp only [Option.map_eq_none_iff, lowerKeys_none, List.mem_filter, Bool.not_eq_true']
  constructor
  · rintro ⟨⟨name, value⟩, ⟨here, other⟩, odd⟩
    exact ⟨name, other, value, sections.get?_of_mem name value single here, odd⟩
  · rintro ⟨name, other, value, found, odd⟩
    exact ⟨(name, value), ⟨sections.mem_of_get? name value found, other⟩, odd⟩

-- The loader's own sections may have any keys.
example : lowerNames [(.text "ENVIRONMENTS", .map [(.int 1, .int 2)])] = some [] := rfl

theorem received_keys_nodup (sections : Entries) (all : List (Value × Value))
    (single : sections.keys.Nodup) : (all.foldl receive sections).keys.Nodup := by
  induction all generalizing sections with
  | nil => exact single
  | cons given rest ih => exact ih _ (sections.keys_insert_nodup _ _ single)

theorem lowerNames_received (all : List (Value × Value)) :
    lowerNames (all.foldl receive []) = none ↔
      ∃ name, isInternal name = false ∧ KeepsOddKey all name := by
  rw [lowerNames_none _ (received_keys_nodup [] all List.nodup_nil)]
  refine exists_congr fun name => and_congr_right fun _ =>
    (oddSection_received [] all name).trans (or_iff_left ?_)
  rintro ⟨⟨value, found, -⟩, -⟩
  cases found

end Sections

namespace Settings

def Answered (loaded : Except LoadFault Settings) : Prop :=
  (∃ settings, loaded = .ok settings) ∨ ∃ complaints, loaded = .error (.invalid complaints)

/-- The sources can be read and put together: the document is a map, each name of
    which has a text, or empty, all conversions succeed, and no section, the loader's
    own apart, is left with a key that is no text. -/
def Sound (file : Option File) (environment : List (String × String)) : Prop :=
  ∃ entries all, sourceEntries file = .ok entries ∧
    contributions? entries environment = some all ∧
    ∀ name, Sections.isInternal name = false → ¬ Sections.KeepsOddKey all name

theorem gathered_iff (file : Option File) (environment : List (String × String)) :
    (∃ document, gathered file environment = .ok document) ↔ Sound file environment := by
  unfold Sound
  rw [gathered_contributions]
  cases sourceEntries file with
  | error fault => simp [Except.bind]
  | ok entries =>
      simp only [Except.bind, Except.ok.injEq, exists_and_left, exists_eq_left']
      cases contributions? entries environment with
      | none => simp
      | some all =>
          simp only [Option.some.injEq, exists_eq_left']
          have kept := Sections.lowerNames_received all
          cases lowered : Sections.lowerNames (all.foldl Sections.receive []) with
          | none =>
              obtain ⟨name, other, odd⟩ := kept.mp lowered
              refine iff_of_false ?_ fun clean => clean name other odd
              rintro ⟨-, ⟨⟩⟩
          | some document =>
              refine iff_of_true ⟨document, rfl⟩ fun name other odd => ?_
              cases lowered.symm.trans (kept.mpr ⟨name, other, odd⟩)

theorem answered_iff (file : Option File) (environment : List (String × String)) :
    Answered (load file environment) ↔ Sound file environment := by
  rw [← gathered_iff]
  unfold Answered load
  cases gathered file environment with
  | error fault => simp
  | ok document =>
      dsimp only
      cases check document <;> simp [Except.mapError]

theorem source_iff (file : Option File) (environment : List (String × String)) :
    (∃ fault, load file environment = .error (.source fault)) ↔ ¬ Sound file environment := by
  rw [← answered_iff]
  unfold Answered
  cases load file environment with
  | ok settings => simp
  | error fault => cases fault <;> simp

end Settings

def Trouble.isOfSettings : Trouble → Bool
  | .settings .. | .source .. => true
  | _ => false

namespace Request

def file (r : Request) (f : Folder) : Option Settings.File :=
  (f.text? r.settingsPath).map fun text => ⟨r.settingsPath.text, text⟩

def origin (r : Request) (f : Folder) : String :=
  if f.has r.settingsPath then r.settingsPath.text else "environment"

/-- How a run deals with its settings. It ends with the trouble of a source
    exactly when the sources are not sound, and tells the user nothing then.
    Exactly for complaints about the settings it ends with them, exit code 1 and
    their lines. Neither leaves anything behind. -/
structure Reports (r : Request) (surroundings : Surroundings) (f : Folder)
    (done : Conclusion × Folder) : Prop where
  unsound : (∃ fault, done.1.answer = .error (.source fault)) ↔
    ¬ Settings.Sound (r.file f) surroundings.environment
  untold : ∀ fault, done.1.answer = .error (.source fault) → done.1.complaint = [] ∧ done.2 = f
  complained : ∀ origin complaints, done.1.answer = .error (.settings origin complaints) ↔
    Settings.load (r.file f) surroundings.environment = .error (.invalid complaints) ∧
      origin = r.origin f
  told : ∀ origin complaints, done.1.answer = .error (.settings origin complaints) →
    done.1.exitCode = 1 ∧ done.1.complaint = (("Error: invalid settings in " ++ origin ++ ":") ::
      complaints.map Settings.Complaint.line).map Text.unstyled ∧ done.2 = f

theorem settings_file (r : Request) (f : Folder) (environment : List (String × String)) :
    f.settings r.settingsPath environment =
      match Settings.load (r.file f) environment with
      | .ok settings => .ok settings
      | .error (.source fault) => .error (.source fault)
      | .error (.invalid complaints) => .error (.settings (r.origin f) complaints) := rfl

theorem trouble_elsewhere (r : Request) (cause : Failure) :
    (r.trouble cause).isOfSettings = false := by
  unfold trouble
  cases r.command <;> rfl

/-- Once the settings hold, a run ends with no trouble about them. -/
theorem run_accepted (r : Request) (surroundings : Surroundings) (f : Folder) (settings : Settings)
    (trouble : Trouble)
    (accepted : f.settings r.settingsPath surroundings.environment = .ok settings)
    (ended : (r.run surroundings f).1.answer = .error trouble) : trouble.isOfSettings = false := by
  unfold run at ended
  rw [accepted] at ended
  dsimp only at ended
  cases located : r.locate settings.database f with
  | error fault =>
      rw [located] at ended
      cases ended
      rfl
  | ok place =>
      obtain ⟨location, f⟩ := place
      rw [located] at ended
      dsimp only at ended
      cases opened : f.openAt location with
      | error cause =>
          rw [opened] at ended
          cases ended
          exact r.trouble_elsewhere cause
      | ok db =>
          rw [opened] at ended
          dsimp only at ended
          cases answer : (r.command.perform settings.retention surroundings.clock db).1.answer with
          | ok finding =>
              rw [answer] at ended
              cases ended
          | error cause =>
              rw [answer] at ended
              cases ended
              exact r.trouble_elsewhere cause

theorem run_stopped (r : Request) (surroundings : Surroundings) (f : Folder) (trouble : Trouble)
    (stopped : f.settings r.settingsPath surroundings.environment = .error trouble) :
    r.run surroundings f = ({ answer := .error trouble }, f) := by
  unfold run
  rw [stopped]

theorem reports_accepted (r : Request) (surroundings : Surroundings) (f : Folder)
    (accepted : Settings)
    (loaded : Settings.load (r.file f) surroundings.environment = .ok accepted) :
    r.Reports surroundings f (r.run surroundings f) := by
  have settings := r.settings_file f surroundings.environment
  have failed := Settings.source_iff (r.file f) surroundings.environment
  rw [loaded] at settings failed
  have source (fault : Settings.SourceFault) :
      (r.run surroundings f).1.answer ≠ .error (.source fault) := fun same =>
    Bool.noConfusion (r.run_accepted surroundings f accepted _ settings same)
  have complaint (origin : String) (complaints : List Settings.Complaint) :
      (r.run surroundings f).1.answer ≠ .error (.settings origin complaints) := fun same =>
    Bool.noConfusion (r.run_accepted surroundings f accepted _ settings same)
  refine ⟨?_, fun fault same => absurd same (source fault), fun origin complaints => ?_,
    fun origin complaints same => absurd same (complaint origin complaints)⟩
  · rw [← failed]
    exact iff_of_false (fun ⟨fault, same⟩ => source fault same) (fun ⟨_, same⟩ => by cases same)
  · rw [loaded]
    exact iff_of_false (complaint origin complaints) (fun ⟨same, _⟩ => by cases same)

theorem reports_source (r : Request) (surroundings : Surroundings) (f : Folder)
    (fault : Settings.SourceFault)
    (loaded : Settings.load (r.file f) surroundings.environment = .error (.source fault)) :
    r.Reports surroundings f (r.run surroundings f) := by
  have settings := r.settings_file f surroundings.environment
  rw [loaded] at settings
  rw [r.run_stopped surroundings f _ settings]
  refine ⟨?_, fun _ _ => ⟨rfl, rfl⟩, fun origin complaints => ?_, ?_⟩
  · exact iff_of_true ⟨fault, rfl⟩ ((Settings.source_iff _ _).mp ⟨fault, loaded⟩)
  · rw [loaded]
    exact iff_of_false (fun same => by cases same) (fun ⟨same, _⟩ => by cases same)
  · rintro origin complaints ⟨⟩

theorem reports_complaints (r : Request) (surroundings : Surroundings) (f : Folder)
    (found : List Settings.Complaint)
    (loaded : Settings.load (r.file f) surroundings.environment = .error (.invalid found)) :
    r.Reports surroundings f (r.run surroundings f) := by
  have settings := r.settings_file f surroundings.environment
  have failed := Settings.source_iff (r.file f) surroundings.environment
  rw [loaded] at settings failed
  rw [r.run_stopped surroundings f _ settings]
  refine ⟨?_, ?_, fun origin complaints => ?_, ?_⟩
  · rw [← failed]
    exact iff_of_false (fun ⟨_, same⟩ => by cases same) (fun ⟨_, same⟩ => by cases same)
  · rintro fault ⟨⟩
  · rw [loaded]
    constructor
    · rintro ⟨⟩
      exact ⟨rfl, rfl⟩
    · rintro ⟨⟨⟩, rfl⟩
      rfl
  · rintro origin complaints ⟨⟩
    exact ⟨rfl, rfl, rfl⟩

theorem run_reports (r : Request) (surroundings : Surroundings) (f : Folder) :
    r.Reports surroundings f (r.run surroundings f) := by
  cases loaded : Settings.load (r.file f) surroundings.environment with
  | ok accepted => exact r.reports_accepted surroundings f accepted loaded
  | error fault =>
      cases fault with
      | source fault => exact r.reports_source surroundings f fault loaded
      | invalid found => exact r.reports_complaints surroundings f found loaded

def numbered : Settings.File := ⟨"settings.yaml", "retention:\n  1: 2\n"⟩

def numberedFolder : Folder := { entries := [(⟨"", ["settings.yaml"]⟩, .text numbered.text)] }

end Request

end EventRetention
