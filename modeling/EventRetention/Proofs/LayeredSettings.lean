import EventRetention.Proofs.MergedFields

/-!
Settings from a file and variables, field by field. A document that gives fields
of the sections in any letter case, and variables that each stand for a field,
come to the same as a document in small letters, in which a field has the value
of its variable, or else that of the file, or else its default.
-/

namespace EventRetention

namespace Settings

def standing? (environment : List (String × String)) : Option (List (String × Value)) :=
  (markedVariables environment).mapM fun (name, text) =>
    ((Sections.environmentValue text).bind Sections.convert).map fun value => (name, value)

end Settings

namespace Sections

theorem mapM_bind (read : α → Option β) (change : β → Option γ) (items : List α) :
    ((items.mapM read).bind fun found => found.mapM change) =
      items.mapM fun item => (read item).bind change := by
  induction items with
  | nil => rfl
  | cons item rest ih =>
      simp only [List.mapM_cons, Option.bind_eq_bind, Option.pure_def, ← ih]
      cases read item with
      | none => rfl
      | some first =>
          cases rest.mapM read with
          | none => simp
          | some found => simp [List.mapM_cons]

theorem contributions_standing (entries : Entries) (environment : List (String × String)) :
    Settings.contributions? entries environment =
      ((namedValues entries).mapM contribution?).bind fun written =>
        (Settings.standing? environment).map fun overrides =>
          written ++ overrides.map fun set => placed set.1 set.2 := by
  -- A variable is read first and converted after that, or both at once.
  have converted : ((Settings.overrides? environment).bind fun overrides =>
      overrides.mapM contribution?) = (Settings.standing? environment).map fun overrides =>
        overrides.map fun set => placed set.1 set.2 := by
    have all (overrides : List (String × Value)) :
        (overrides.mapM fun set => some (placed set.1 set.2)) =
          some (overrides.map fun set => placed set.1 set.2) :=
      mapM_some _ _ overrides fun _ _ => rfl
    rw [Option.map_eq_bind]
    simp only [Function.comp_def, ← all]
    unfold Settings.overrides? Settings.standing?
    rw [mapM_bind, mapM_bind]
    congr 1
    funext set
    obtain ⟨name, text⟩ := set
    simp only [Option.bind_map, contribution?, Function.comp_def]
    cases environmentValue text with
    | none => rfl
    | some value =>
        simp only [Option.bind_some]
        cases convert value <;> rfl
  unfold Settings.contributions?
  simp only [List.mapM_append]
  cases (namedValues entries).mapM contribution? with
  | none => simp
  | some written =>
      simp only [Option.bind_eq_bind, Option.bind_some, Option.pure_def]
      have joined := congrArg (Option.map (written ++ ·)) converted
      rw [Option.map_map, Option.map_bind] at joined
      simpa only [Function.comp_def, Option.map_eq_bind] using joined

end Sections

namespace Settings

open Sections Text

def filled (value? : String → String → Option Value) : Entries :=
  fields.map fun (top, inner) =>
    (.text top, .map (inner.map fun (field, default) =>
      (.text field, (value? top field).getD default)))

/-- The document in which each field has the value that is set for it, or else
    the one that is written, or else its default. -/
def layered (entries : Entries) (overrides : List (String × Value)) : Entries :=
  filled fun top field => (set? overrides top field).or (written? entries top field)

def lowerEntry (change : Value → Value) (entry : Value × Value) : Value × Value :=
  (.text (lower entry.1.plain), change entry.2)

def lowered : Value → Value
  | .map inner => .map (inner.map (lowerEntry id))
  | value => value

theorem field?_lowered (change : Value → Value) (entries : Entries)
    (known : ∀ entry ∈ entries, ∃ name, Entries.lowerKey entry = some name) (name : String) :
    Entries.field? (entries.map (lowerEntry change)) name = (entries.spelled? name).map change := by
  refine entries.get?_renamed _ change (.text name) name (fun entry here => ?_) fun _ _ => rfl
  obtain ⟨other, small⟩ := known entry here
  rw [small, lowerEntry, Entries.lower_plain entry other small]
  exact ⟨fun same => congrArg some (Value.text.inj same), fun same =>
    congrArg Value.text (Option.some.inj same)⟩

theorem lowerKeys_named (names : List String) (inner : Entries) (named : inner.Named names) :
    lowerKeys (.map inner) = some (lowered (.map inner)) := by
  have once : (Entries.keys (inner.map (lowerEntry id))).Nodup := by
    rw [Entries.keys, List.map_map]
    refine Entries.nodup_map_of _ _ inner named.once fun first here last there same => ?_
    obtain ⟨name, -, small⟩ := named.known first here
    obtain ⟨other, -, next⟩ := named.known last there
    have keys : lower first.1.plain = lower last.1.plain := Value.text.inj same
    rw [Entries.lower_plain first name small, Entries.lower_plain last other next] at keys
    exact small.trans (keys ▸ next.symm)
  have read := mapM_some (fun entry : Value × Value =>
      entry.1.text?.map fun s => (Value.text (lower s), entry.2)) (lowerEntry id) inner
    (fun entry here => by
      obtain ⟨name, -, small⟩ := named.known entry here
      obtain ⟨spelling, text, rfl⟩ := (Entries.lowerKey_eq_some entry name).mp small
      rw [lowerEntry, text]
      rfl)
  have merged := Entries.foldl_insert_fresh id (inner.map (lowerEntry id)) []
  rw [List.map_id, List.nil_append] at merged
  unfold lowerKeys
  refine (congrArg (Option.map _) read).trans ?_
  exact congrArg (fun entries => some (Value.map entries)) (merged once)

theorem not_isInternal (top : String) (member : top ∈ sectionNames) :
    (!isInternal (.text (upper top))) = true := by
  simp only [sectionNames, fields, List.map_cons, List.map_nil, List.mem_cons, List.not_mem_nil,
    or_false] at member
  rcases member with rfl | rfl | rfl <;> rfl

structure Lowered (document : Entries) (value? : String → String → Option Value) : Prop where
  maps : ∀ top ∈ sectionNames, ∀ value, document.field? top = some value → ∃ inner, value = .map inner
  values : ∀ top ∈ sectionNames, ∀ field ∈ fieldNames top,
    ((document.field? top).bind Value.entries?).bind (Entries.field? · field) = value? top field

theorem Gathered.lowerNames (sections : Entries) (value? : String → String → Option Value)
    (gathered : Gathered sections value?) :
    ∃ document, lowerNames sections = some document ∧ Lowered document value? := by
  have tops : ∀ entry ∈ sections, ∃ name, Entries.lowerKey entry = some name := by
    intro entry here
    obtain ⟨top, member, inner, rfl, -⟩ := gathered.shape entry here
    exact ⟨_, rfl⟩
  have known : sections.filter (fun entry => !isInternal entry.1) = sections := by
    refine List.filter_eq_self.mpr fun entry here => ?_
    obtain ⟨top, member, inner, rfl, -⟩ := gathered.shape entry here
    exact not_isInternal top member
  refine ⟨sections.map (lowerEntry lowered), ?_, ?_, ?_⟩
  · rw [Sections.lowerNames, known]
    refine mapM_some _ _ _ fun entry here => ?_
    obtain ⟨top, member, inner, rfl, named⟩ := gathered.shape entry here
    exact congrArg (Option.map _) (lowerKeys_named (fieldNames top) inner named)
  · intro top member value found
    rw [field?_lowered lowered sections tops] at found
    obtain ⟨old, held, rfl⟩ := Option.map_eq_some_iff.mp found
    obtain ⟨inner, rfl, -⟩ := gathered.shape.section_map sections top member old held
    exact ⟨_, rfl⟩
  · intro top member field inside
    rw [← gathered.values top member field inside, field?_lowered lowered sections tops, written?]
    cases held : sections.spelled? top with
    | none => rfl
    | some old =>
        obtain ⟨inner, rfl, named⟩ := gathered.shape.section_map sections top member old held
        refine (field?_lowered id inner (fun entry here => ?_) field).trans (congrFun Option.map_id _)
        obtain ⟨name, -, small⟩ := named.known entry here
        exact ⟨name, small⟩

/-- A field that is filled with a value for its default is checked as before. -/
theorem field_filled (place : List String) (name : String) (default : α)
    (read : Value → Except Problem α) (given : Value) (same : read given = .ok default)
    (entries others : Entries) (filled : others.field? name = some ((entries.field? name).getD given)) :
    field place name default read others = field place name default read entries := by
  unfold field
  rw [filled]
  cases entries.field? name with
  | none => simp [same, Except.mapError]
  | some value => rfl

def Fills (top : String) (entries others : Entries) : Prop :=
  ∀ given ∈ (fields.lookup top).getD [],
    others.field? given.1 = some ((entries.field? given.1).getD given.2)

theorem database_filled (place : List String) (entries others : Entries)
    (fills : Fills "database" entries others) :
    DatabaseSettings.check place others = DatabaseSettings.check place entries := by
  obtain ⟨url, rest⟩ := List.forall_mem_cons.mp fills
  obtain ⟨echo, -⟩ := List.forall_mem_cons.mp rest
  unfold DatabaseSettings.check
  rw [field_filled place "url" _ text _ rfl entries others url,
    field_filled place "echo" _ boolean _ rfl entries others echo]

theorem retention_filled (place : List String) (entries others : Entries)
    (fills : Fills "retention" entries others) :
    RetentionSettings.check place others = RetentionSettings.check place entries := by
  obtain ⟨ttl, rest⟩ := List.forall_mem_cons.mp fills
  obtain ⟨batch, -⟩ := List.forall_mem_cons.mp rest
  let default : RetentionSettings := {}
  unfold RetentionSettings.check
  dsimp only
  rw [field_filled place "ttl_seconds" ⟨default.ttlSeconds, default.ttlInRange⟩
      (positiveUpTo maxTtlSeconds) _ rfl entries others ttl,
    field_filled place "batch_size" ⟨default.batchSize, default.batchPositive⟩ positive _ rfl
      entries others batch]

theorem logging_filled (place : List String) (entries others : Entries)
    (fills : Fills "logging" entries others) :
    LoggingSettings.check place others = LoggingSettings.check place entries := by
  obtain ⟨level, rest⟩ := List.forall_mem_cons.mp fills
  obtain ⟨jsonOutput, -⟩ := List.forall_mem_cons.mp rest
  unfold LoggingSettings.check
  rw [field_filled place "level" _ LogLevel.ofValue _ rfl entries others level,
    field_filled place "json_output" _ boolean _ rfl entries others jsonOutput]

namespace Lowered

variable (document : Entries) (value? : String → String → Option Value)
  (lowered : Lowered document value?)
include lowered

/-- The fields of a section; none if the section is missing. -/
theorem field?_section (top field : String) (member : top ∈ sectionNames)
    (inside : field ∈ fieldNames top) :
    Entries.field? (((document.field? top).bind Value.entries?).getD []) field =
      value? top field := by
  rw [← lowered.values top member field inside]
  cases (document.field? top).bind Value.entries? <;> rfl

/-- A section that is missing is checked as one without fields. -/
theorem checkSection_fields (name title : String) (member : name ∈ sectionNames) (default : α)
    (check : List String → Entries → Checked α) (missing : check [name] [] = .ok default) :
    checkSection name title default check document =
      check [name] (((document.field? name).bind Value.entries?).getD []) := by
  unfold checkSection
  cases found : document.field? name with
  | none => exact missing.symm
  | some value =>
      obtain ⟨inner, rfl⟩ := lowered.maps name member value found
      rfl

/-- Each section is checked as the one that is filled with its defaults. -/
theorem check_filled : check document = check (filled value?) := by
  have value := lowered.field?_section document value?
  have fills (top : String) (member : top ∈ sectionNames) (others : Entries)
      (same : others = ((fields.lookup top).getD []).map fun (field, default) =>
        (.text field, (value? top field).getD default)) :
      Fills top (((document.field? top).bind Value.entries?).getD []) others := by
    subst same
    intro given here
    have inside : given.1 ∈ fieldNames top := List.mem_map.mpr ⟨given, here, rfl⟩
    rw [value top given.1 member inside]
    refine Entries.get?_of_mem _ _ _ ?_ (List.mem_map.mpr ⟨given, here, rfl⟩)
    rw [Entries.keys, List.map_map]
    exact Entries.nodup_map_of _ _ _ (fieldNames_once top member) fun _ _ _ _ same =>
      Value.text.inj same
  unfold check
  rw [lowered.checkSection_fields document value? "database" _ (by decide) _ _ rfl,
    lowered.checkSection_fields document value? "retention" _ (by decide) _ _ rfl,
    lowered.checkSection_fields document value? "logging" _ (by decide) _ _ rfl,
    ← database_filled ["database"] _ _ (fills "database" (by decide) _ rfl),
    ← retention_filled ["retention"] _ _ (fills "retention" (by decide) _ rfl),
    ← logging_filled ["logging"] _ _ (fills "logging" (by decide) _ rfl)]
  rfl

end Lowered

theorem load_filled (file : Option File) (environment : List (String × String)) (entries : Entries)
    (overrides : List (String × Value)) (read : sourceEntries file = .ok entries)
    (written : Written entries) (standing : standing? environment = some overrides)
    (sets : SetsFields overrides) :
    load file environment = (check (layered entries overrides)).mapError .invalid := by
  have received := received_fresh [] (entries.map capitalEntry) written.capital_keys
  have gathered := (written.gathered).receive_all _ _ overrides sets
  obtain ⟨document, small, lowered⟩ := gathered.lowerNames
  have all : contributions? entries environment = some (entries.map capitalEntry ++
      overrides.map fun set => placed set.1 set.2) := by
    rw [contributions_standing, written.contributions, standing]
    rfl
  rw [layered, ← lowered.check_filled]
  unfold load
  rw [gathered_contributions, read]
  simp only [Except.bind, all, List.foldl_append, received, List.nil_append, small]

def Respelled (entries others : Entries) : Prop :=
  List.Forall₂ (fun entry other => Entries.lowerKey entry = Entries.lowerKey other ∧
    ∃ inner kept, entry.2 = .map inner ∧ other.2 = .map kept ∧ Entries.Respelled inner kept)
    entries others

theorem Respelled.lowerKeys (entries others : Entries) (same : Respelled entries others) :
    entries.map Entries.lowerKey = others.map Entries.lowerKey :=
  Entries.map_eq_of_forall₂ _ _ _ (fun _ _ head => head.1) entries others same

theorem Respelled.written? (entries others : Entries) (same : Respelled entries others)
    (top field : String) : written? entries top field = written? others top field := by
  induction same with
  | nil => rfl
  | cons head _ ih =>
      obtain ⟨keys, inner, kept, map, changed, respelled⟩ := head
      rw [Settings.written?, Settings.written?, Entries.spelled?_cons, Entries.spelled?_cons, keys]
      split
      · rw [map, changed]
        exact respelled.spelled? inner kept field
      · exact ih

theorem Respelled.written (entries others : Entries) (same : Respelled entries others)
    (written : Written entries) : Written others := by
  refine ⟨same.lowerKeys ▸ written.once, ?_⟩
  have sections := written.sections
  clear written
  induction same with
  | nil => simp
  | cons head _ ih =>
      obtain ⟨⟨top, member, inner, small, map, named, plain⟩, later⟩ :=
        List.forall_mem_cons.mp sections
      obtain ⟨keys, source, kept, held, changed, respelled⟩ := head
      cases map.symm.trans held
      refine List.forall_mem_cons.mpr ⟨⟨top, member, kept, keys ▸ small, changed, ?_, ?_⟩, ih later⟩
      · exact respelled.named _ _ _ named
      · exact respelled.forall_values (fun value => isPlain value = true) _ _ plain

def Renamed (sets others : List (String × α)) : Prop :=
  List.Forall₂ (fun set other => lower set.1 = lower other.1 ∧ set.2 = other.2) sets others

theorem Renamed.set? (sets others : List (String × Value)) (same : Renamed sets others)
    (top field : String) : set? sets top field = set? others top field := by
  induction same with
  | nil => rfl
  | cons head _ ih => rw [set?_cons, set?_cons, head.1, head.2, ih]

theorem Renamed.names (sets others : List (String × α)) (same : Renamed sets others) :
    (sets.map fun set => lower set.1) = others.map fun set => lower set.1 :=
  Entries.map_eq_of_forall₂ _ _ _ (fun _ _ head => head.1) sets others same

theorem Renamed.setsFields (sets others : List (String × Value)) (same : Renamed sets others)
    (known : SetsFields sets) : SetsFields others := by
  refine ⟨same.names ▸ known.once, fun other here => ?_⟩
  obtain ⟨set, inside, names⟩ := Entries.exists_of_map_eq _ _ _ _ same.names other here
  rw [← names]
  exact known.known set inside

theorem Renamed.standing? (environment changed : List (String × String))
    (same : Renamed (markedVariables environment) (markedVariables changed))
    (overrides : List (String × Value)) (standing : standing? environment = some overrides) :
    ∃ others, standing? changed = some others ∧ Renamed overrides others := by
  unfold Settings.standing? at standing ⊢
  generalize markedVariables environment = marked at same standing
  generalize markedVariables changed = renamed at same ⊢
  induction same generalizing overrides with
  | nil =>
      cases standing
      exact ⟨[], rfl, .nil⟩
  | @cons first other _ _ head _ ih =>
      obtain ⟨name, text⟩ := first
      obtain ⟨another, text⟩ := other
      obtain ⟨names, rfl⟩ := head
      rw [List.mapM_cons] at standing ⊢
      dsimp only at standing ⊢
      obtain ⟨set, value, rest⟩ := Option.bind_eq_some_iff.mp standing
      obtain ⟨found, read, rfl⟩ := Option.map_eq_some_iff.mp value
      obtain ⟨more, tail, last⟩ := Option.bind_eq_some_iff.mp rest
      cases last
      obtain ⟨others, all, renamed⟩ := ih more tail
      refine ⟨(another, found) :: others, ?_, .cons ⟨names, rfl⟩ renamed⟩
      rw [read, all]
      rfl

/-- A document that counts as empty gives no entries. -/
theorem sourceEntries_empty (file : File) (document : Value) (read : file.document = .ok document)
    (empty : isEmptyDocument document = true) : sourceEntries (some file) = .ok [] := by
  rw [sourceEntries, read]
  change documentEntries document = .ok []
  cases document with
  | map entries =>
      rw [documentEntries, List.isEmpty_iff.mp empty]
      rfl
  | _ => rw [documentEntries, if_pos empty]; simp

/-- Settings are laid field by field over those of the file, and those over the
    defaults. The letter case of the names in the file and of the variables does
    not matter, and without a file they are those of an empty one. -/
theorem load_layered (file : Option File) (environment : List (String × String)) (entries : Entries)
    (overrides : List (String × Value)) (read : sourceEntries file = .ok entries)
    (written : Written entries) (standing : standing? environment = some overrides)
    (sets : SetsFields overrides) :
    load file environment = (check (layered entries overrides)).mapError .invalid ∧
      (∀ another others changed, sourceEntries another = .ok others → Respelled entries others →
        Renamed (markedVariables environment) (markedVariables changed) →
          load another changed = load file environment) ∧
      ∀ (empty : File) document, empty.document = .ok document → isEmptyDocument document = true →
        load (some empty) environment = load none environment := by
  have filled := load_filled file environment entries overrides read written standing sets
  refine ⟨filled, fun another others changed again respelled renamed => ?_,
    fun empty document found none => ?_⟩
  · obtain ⟨kept, known, same⟩ := renamed.standing? _ _ overrides standing
    have layers : layered others kept = layered entries overrides := by
      unfold layered
      congr 1
      funext top field
      rw [same.set?, respelled.written?]
    rw [load_filled another changed others kept again (respelled.written _ _ written) known
      (same.setsFields _ _ sets), layers, filled]
  · have nothing := sourceEntries_empty empty document found none
    unfold load
    rw [gathered_contributions, gathered_contributions, nothing]
    rfl

def mixedFile : File :=
  ⟨"settings.yaml", "Retention:\n  BATCH_SIZE: 500\n  ttl_seconds: 60\nlogging:\n  level: debug\n"⟩

def mixedEntries : Entries :=
  [(.text "Retention", .map [(.text "BATCH_SIZE", .int 500), (.text "ttl_seconds", .int 60)]),
    (.text "logging", .map [(.text "level", .text "debug")])]

theorem mixedEntries_written : Written mixedEntries := by
  refine ⟨by decide, List.forall_mem_cons.mpr ⟨?_, List.forall_mem_singleton.mpr ?_⟩⟩
  · exact ⟨"retention", by decide, _, by decide, rfl, ⟨by decide, by decide⟩, by decide⟩
  · exact ⟨"logging", by decide, _, by decide, rfl, ⟨by decide, by decide⟩, by decide⟩

def mixedEnvironment : List (String × String) :=
  [("AUTOSCALER_EVENTS_retention__Batch_Size", "50"), ("HOME", "/home"),
    ("AUTOSCALER_EVENTS_DATABASE__ECHO", " True")]

def plainEnvironment : List (String × String) :=
  [("AUTOSCALER_EVENTS_RETENTION__BATCH_SIZE", "50"), ("AUTOSCALER_EVENTS_DATABASE__ECHO", " True")]

theorem load_layered_mixed :
    load (some mixedFile) mixedEnvironment =
        .ok { database := { echo := true }, retention := { ttlSeconds := 60, batchSize := 50 }
              logging := { level := .debug } } ∧
      load (some mixedFile) plainEnvironment = load (some mixedFile) mixedEnvironment := by
  have read : sourceEntries (some mixedFile) = .ok mixedEntries :=
    ok_of_found _ _ (by decide +kernel)
  have standing : standing? mixedEnvironment =
      some [("retention__Batch_Size", .int 50), ("DATABASE__ECHO", .bool true)] := by decide +kernel
  obtain ⟨filled, recased, -⟩ := load_layered (some mixedFile) mixedEnvironment mixedEntries _ read
    mixedEntries_written standing ⟨by decide, by decide⟩
  refine ⟨filled.trans rfl, recased (some mixedFile) mixedEntries plainEnvironment read ?_ ?_⟩
  · exact .cons ⟨rfl, _, _, rfl, rfl, List.forall₂_same.mpr fun _ _ => ⟨rfl, rfl⟩⟩
      (.cons ⟨rfl, _, _, rfl, rfl, List.forall₂_same.mpr fun _ _ => ⟨rfl, rfl⟩⟩ .nil)
  · have mixed : markedVariables mixedEnvironment =
        [("retention__Batch_Size", "50"), ("DATABASE__ECHO", " True")] := by decide +kernel
    have plain : markedVariables plainEnvironment =
        [("RETENTION__BATCH_SIZE", "50"), ("DATABASE__ECHO", " True")] := by decide +kernel
    rw [mixed, plain]
    exact .cons ⟨by decide, rfl⟩ (.cons ⟨rfl, rfl⟩ .nil)

end Settings

end EventRetention
