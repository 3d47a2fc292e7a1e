import EventRetention.Proofs.AcceptedSettings
import EventRetention.Proofs.LayeredSettings
import EventRetention.Proofs.YamlFields

/-!
An integer setting means the same wherever it comes from: from a settings file, as a
number or in quotes, from a variable, or given to the check.
-/

namespace EventRetention

/-- The parts of an accepted time to live. -/
theorem RetentionSettings.ttl_parts (s : RetentionSettings) :
    s.ttl.days * 86400 + s.ttl.seconds = s.ttlSeconds ∧ 0 ≤ s.ttl.seconds ∧
      s.ttl.seconds < 86400 ∧ s.ttl.subseconds = 0 := by
  have days : s.ttl.days = (s.ttlSeconds * 1000000 : Int) / 86400000000 := rfl
  have seconds : s.ttl.seconds = (s.ttlSeconds * 1000000 : Int) % 86400000000 / 1000000 := rfl
  have rest : s.ttl.subseconds = (s.ttlSeconds * 1000000 : Int) % 1000000 := rfl
  omega

namespace Settings

def filledSection (value? : String → String → Option Value) (top : String) : Entries :=
  ((fields.lookup top).getD []).map fun (field, default) =>
    (.text field, (value? top field).getD default)

theorem filledSection_congr (first second : String → String → Option Value) (top : String)
    (same : ∀ field ∈ fieldNames top, first top field = second top field) :
    filledSection first top = filledSection second top := by
  refine List.map_congr_left fun entry inside => ?_
  exact congrArg (fun value => (Value.text entry.1, value.getD entry.2))
    (same entry.1 (List.mem_map_of_mem inside))

theorem check_sections (value? : String → String → Option Value) :
    check (filled value?) =
      (Checked.both (DatabaseSettings.check ["database"] (filledSection value? "database"))
        (Checked.both (RetentionSettings.check ["retention"] (filledSection value? "retention"))
          (LoggingSettings.check ["logging"] (filledSection value? "logging")))).map
            fun (database, retention, logging) => { database, retention, logging } := rfl

/-- Both fields of the retention section are read, each on its own. -/
theorem retention_reads (value? : String → String → Option Value) :
    RetentionSettings.check ["retention"] (filledSection value? "retention") =
      (Checked.both
        ((positiveUpTo maxTtlSeconds ((value? "retention" "ttl_seconds").getD (.int 7776000))).mapError
          fun problem => [⟨["retention", "ttl_seconds"], problem⟩])
        ((positive ((value? "retention" "batch_size").getD (.int 4096))).mapError
          fun problem => [⟨["retention", "batch_size"], problem⟩])).map
        fun (ttl, batch) =>
          { ttlSeconds := ttl.val, batchSize := batch.val, ttlInRange := ttl.property
            batchPositive := batch.property } := rfl

/-- Sources that give fields of the sections and nothing else: a field has the value of
    its variable, or else that of the file. -/
def Sourced (file : Option File) (environment : List (String × String))
    (value? : String → String → Option Value) : Prop :=
  ∃ entries overrides, sourceEntries file = .ok entries ∧ Written entries ∧
    standing? environment = some overrides ∧ SetsFields overrides ∧
      ∀ top ∈ sectionNames, ∀ field ∈ fieldNames top,
        value? top field = (set? overrides top field).or (written? entries top field)

/-- The values of the fields are all that the sources come to. -/
theorem Sourced.load (file : Option File) (environment : List (String × String))
    (value? : String → String → Option Value) (sourced : Sourced file environment value?) :
    load file environment = (check (filled value?)).mapError .invalid := by
  obtain ⟨entries, overrides, read, written, standing, sets, values⟩ := sourced
  have part (top : String) (member : top ∈ sectionNames) :=
    filledSection_congr value?
      (fun top field => (set? overrides top field).or (written? entries top field)) top
      (values top member)
  rw [load_filled file environment entries overrides read written standing sets, layered,
    check_sections, check_sections value?, part "database" (by decide), part "retention" (by decide),
    part "logging" (by decide)]

inductive IntegerField where
  | ttlSeconds
  | batchSize
deriving DecidableEq

namespace IntegerField

def name : IntegerField → String
  | ttlSeconds => "ttl_seconds"
  | batchSize => "batch_size"

def given (field : IntegerField) (value : Value) : Entries :=
  [(.text "retention", .map [(.text field.name, value)])]

def put (field : IntegerField) (n : Nat) (range : 0 < n ∧ n ≤ maxTtlSeconds) (s : Settings) :
    Settings :=
  match field with
  | ttlSeconds => { s with retention := { s.retention with ttlSeconds := n, ttlInRange := range } }
  | batchSize =>
      { s with retention := { s.retention with batchSize := n, batchPositive := range.1 } }

def yamlText (field : IntegerField) (body : String) : String :=
  "retention:\n  " ++ field.name ++ ": " ++ body ++ "\n"

def jsonText (field : IntegerField) (body : String) : String :=
  "\x7b\"retention\": \x7b\"" ++ field.name ++ "\": " ++ body ++ "\x7d\x7d"

variable (field : IntegerField)

theorem known : field.name ∈ fieldNames "retention" := by
  cases field <;> decide

theorem lower_name : Text.lower field.name = field.name := by
  cases field <;> rfl

/-! The check of a value that is read as a number. -/

section Accepted

variable (n : Nat) (range : 0 < n ∧ n ≤ maxTtlSeconds) (value : Value)
  (read : integer value = .ok n)
include read

theorem section_given (place : List String) :
    RetentionSettings.check place [(.text field.name, value)] =
      .ok (field.put n range {}).retention := by
  have ttl := positiveUpTo_read maxTtlSeconds value n range.1 range.2 read
  have batch := positive_read value n range.1 read
  have named : Entries.field? [(.text field.name, value)] field.name = some value := by
    rw [Entries.field?, Entries.get?_cons, if_pos rfl]
  cases field with
  | ttlSeconds =>
      have other : Entries.field? [(.text (name .ttlSeconds), value)] "batch_size" = none := rfl
      simp only [RetentionSettings.check, Settings.field, name] at named other ⊢
      simp only [named, other, ttl]
      rfl
  | batchSize =>
      have other : Entries.field? [(.text (name .batchSize), value)] "ttl_seconds" = none := rfl
      simp only [RetentionSettings.check, Settings.field, name] at named other ⊢
      simp only [named, other, batch]
      rfl

theorem check_given : check (field.given value) = .ok (field.put n range {}) := by
  have retention : checkSection "retention" "RetentionSettings" {} RetentionSettings.check
      (field.given value) = .ok (field.put n range {}).retention :=
    field.section_given n range value read ["retention"]
  have database : checkSection "database" "DatabaseSettings" {} DatabaseSettings.check
      (field.given value) = .ok {} := rfl
  have logging : checkSection "logging" "LoggingSettings" {} LoggingSettings.check
      (field.given value) = .ok {} := rfl
  rw [check, retention, database, logging]
  cases field <;> rfl

end Accepted

/-- Two values that are read alike make no difference, whatever the other fields hold. -/
theorem check_congr (first second : String → String → Option Value) (value other : Value)
    (read : integer value = integer other) (here : first "retention" field.name = some value)
    (there : second "retention" field.name = some other)
    (same : ∀ top ∈ sectionNames, ∀ another ∈ fieldNames top,
      (top, another) ≠ ("retention", field.name) → first top another = second top another) :
    check (filled first) = check (filled second) := by
  -- The other sections do not have the field.
  have apart (top : String) (member : top ∈ sectionNames) (elsewhere : top ≠ "retention") :
      filledSection first top = filledSection second top :=
    filledSection_congr first second top fun another inside =>
      same top member another inside fun equal => elsewhere (congrArg Prod.fst equal)
  have batch : positive value = positive other := by rw [positive, positive, read]
  have ttl : positiveUpTo maxTtlSeconds value = positiveUpTo maxTtlSeconds other := by
    rw [positiveUpTo, positiveUpTo, batch]
  have retention : RetentionSettings.check ["retention"] (filledSection first "retention") =
      RetentionSettings.check ["retention"] (filledSection second "retention") := by
    cases field with
    | ttlSeconds =>
        have kept := same "retention" (by decide) "batch_size" (by decide) (by decide)
        have held : first "retention" "ttl_seconds" = some value := here
        have replaced : second "retention" "ttl_seconds" = some other := there
        rw [retention_reads, retention_reads, kept, held, replaced, Option.getD_some, Option.getD_some, ttl]
    | batchSize =>
        have kept := same "retention" (by decide) "ttl_seconds" (by decide) (by decide)
        have held : first "retention" "batch_size" = some value := here
        have replaced : second "retention" "batch_size" = some other := there
        rw [retention_reads, retention_reads, kept, held, replaced, Option.getD_some, Option.getD_some,
          batch]
  rw [check_sections, check_sections, apart "database" (by decide) (by decide), retention,
    apart "logging" (by decide) (by decide)]

/-! Sources that give the field and nothing else. -/

theorem written_given (value : Value) (top other : String) :
    written? (field.given value) top other =
      if "retention" = top ∧ field.name = other then some value else none := by
  have outer : Entries.lowerKey (.text "retention", .map [(.text field.name, value)]) =
      some "retention" := rfl
  have inner : Entries.lowerKey (.text field.name, value) = some field.name :=
    congrArg some field.lower_name
  rw [written?, given, Entries.spelled?_cons, outer]
  by_cases here : "retention" = top
  · subst here
    rw [if_pos rfl, Option.bind_some, Value.entries?, Option.bind_some, Entries.spelled?_cons, inner]
    simp only [Option.some.injEq, true_and]
    rfl
  · rw [if_neg fun same => here (Option.some.inj same), if_neg fun both => here both.1]
    rfl

theorem given_written (value : Value) (plain : isPlain value = true) :
    Written (field.given value) := by
  have named : Entries.Named (fieldNames "retention") [(.text field.name, value)] := by
    refine ⟨List.forall_mem_singleton.mpr ⟨field.name, field.known, ?_⟩, List.nodup_singleton _⟩
    exact congrArg some field.lower_name
  exact ⟨List.nodup_singleton _, List.forall_mem_singleton.mpr
    ⟨"retention", by decide, _, rfl, rfl, named, List.forall_mem_singleton.mpr plain⟩⟩

/-- A variable gives the field as a document does. -/
theorem set_written (name : String) (value : Value)
    (same : Text.lower name = variableName "retention" field.name) (top other : String)
    (member : top ∈ sectionNames) (inside : other ∈ fieldNames top) :
    set? [(name, value)] top other = written? (field.given value) top other := by
  have either : variableName "retention" field.name = variableName top other ↔
      "retention" = top ∧ field.name = other := by
    constructor
    · exact variableName_injective "retention" (by decide) field.name field.known top member other inside
    · rintro ⟨rfl, rfl⟩
      rfl
  rw [written_given, set?_cons, same]
  simp only [either]
  rfl

theorem sourced_file (file : File) (environment : List (String × String)) (value : Value)
    (document : file.document = .ok (.map (field.given value))) (plain : isPlain value = true)
    (bare : markedVariables environment = []) :
    Sourced (some file) environment (written? (field.given value)) := by
  have read : sourceEntries (some file) = .ok (field.given value) := by
    rw [sourceEntries, document]
    rfl
  have standing : standing? environment = some [] := by
    rw [standing?, bare]
    rfl
  exact ⟨_, [], read, field.given_written value plain, standing, ⟨List.nodup_nil, by simp⟩,
    fun _ _ _ _ => rfl⟩

theorem sourced_variable (environment : List (String × String)) (name text : String) (value : Value)
    (same : Text.lower name = variableName "retention" field.name)
    (marked : markedVariables environment = [(name, text)])
    (stands : Sections.standing text = some value) :
    Sourced none environment (written? (field.given value)) := by
  have standing : standing? environment = some [(name, value)] := by
    rw [Sections.standing] at stands
    simp only [standing?, marked, List.mapM_cons, stands]
    rfl
  have sets : SetsFields [(name, value)] :=
    ⟨List.nodup_singleton _, List.forall_mem_singleton.mpr
      ⟨"retention", by decide, field.name, field.known, same⟩⟩
  refine ⟨[], _, rfl, ⟨List.nodup_nil, by simp⟩, standing, sets, fun top member other inside => ?_⟩
  rw [field.set_written name value same top other member inside]
  exact (Option.or_none).symm

theorem load_given (file : Option File) (environment : List (String × String)) (n : Nat)
    (range : 0 < n ∧ n ≤ maxTtlSeconds) (value : Value) (read : integer value = .ok n)
    (sourced : Sourced file environment (written? (field.given value))) :
    load file environment = .ok (field.put n range {}) := by
  -- What is filled in is the default that a missing field has anyway.
  have alone : check (filled (written? (field.given value))) = check (field.given value) := by
    cases field <;> rfl
  rw [sourced.load, alone, field.check_given n range value read]
  rfl

/-! The texts of the sources. -/

theorem yamlText_block (body : List Char) :
    field.yamlText (String.ofList body) =
      String.ofList (Yaml.block "retention".toList field.name.toList body) := by
  refine String.toList_injective ?_
  unfold yamlText Yaml.block
  simp

theorem jsonText_braced (body : List Char) :
    field.jsonText (String.ofList body) =
      String.ofList (Json.braced "retention".toList (Json.braced field.name.toList body)) := by
  refine String.toList_injective ?_
  unfold jsonText Json.braced
  simp

theorem section_isName : Yaml.IsName "retention".toList :=
  ⟨by decide, by decide, by decide, rfl⟩

theorem name_isName : Yaml.IsName field.name.toList := by
  cases field <;> exact ⟨by decide, by decide, by decide, rfl⟩

/-! A text without line ends of another kind is read as it stands. -/

theorem unified (text : String) (plain : '\r' ∉ text.toList) :
    String.ofList (Text.unifyLineEnds text.toList) = text := by
  rw [Text.unifyLineEnds_plain text.toList plain, String.ofList_toList]

theorem document_yaml (path text : String) (plain : '\r' ∉ text.toList)
    (kind : FileKind.ofPath? path = some .yaml) :
    File.document ⟨path, text⟩ = (Yaml.read text).mapError .yaml := by
  simp only [File.document, kind, unified text plain]

theorem document_json (path text : String) (plain : '\r' ∉ text.toList)
    (kind : FileKind.ofPath? path = some .json) :
    File.document ⟨path, text⟩ = (Json.read text).mapError fun stop => .json stop text := by
  simp only [File.document, kind, unified text plain]

section Files

variable (path : String) (environment : List (String × String)) (body : List Char) (v : Value)
  (plain : '\r' ∉ body) (single : isPlain v = true) (bare : markedVariables environment = [])
include plain single bare

theorem sourced_yaml (kind : FileKind.ofPath? path = some .yaml) (isPlain : Bool) (text : String)
    (scans : Yaml.Scanner.ScansTo body (.scalar isPlain text))
    (printable : body.all Yaml.isPrintable = true)
    (value : Yaml.scalarValue none isPlain text = .ok v) :
    Sourced (some ⟨path, field.yamlText (String.ofList body)⟩) environment
      (written? (field.given v)) := by
  have unbroken : '\r' ∉ (field.yamlText (String.ofList body)).toList := by
    rw [yamlText_block, String.toList_ofList]
    cases field <;> simp [Yaml.block, name, plain]
  have read := Yaml.read_block "retention".toList field.name.toList body isPlain text v
    section_isName field.name_isName scans printable value
  refine field.sourced_file _ environment v ?_ single bare
  rw [document_yaml path _ unbroken kind, yamlText_block, read, String.ofList_toList,
    String.ofList_toList]
  rfl

theorem sourced_json (kind : FileKind.ofPath? path = some .json) (stands : Json.Stands 1 body v) :
    Sourced (some ⟨path, field.jsonText (String.ofList body)⟩) environment
      (written? (field.given v)) := by
  have unbroken : '\r' ∉ (field.jsonText (String.ofList body)).toList := by
    rw [jsonText_braced, String.toList_ofList]
    cases field <;> simp [Json.braced, name, plain]
  have read := Json.read_braced "retention".toList field.name.toList body v section_isName.word
    field.name_isName.word stands
  refine field.sourced_file _ environment v ?_ single bare
  rw [document_json path _ unbroken kind, jsonText_braced, read, String.ofList_toList,
    String.ofList_toList]
  rfl

end Files

/-! Decimal text in a file. -/

section Digits

variable (path : String) (environment : List (String × String)) (digits : List Char) (n : Nat)
  (decimal : Text.Decimal digits n) (bare : markedVariables environment = [])
include decimal bare

theorem sourced_yaml_number (kind : FileKind.ofPath? path = some .yaml) :
    Sourced (some ⟨path, field.yamlText (String.ofList digits)⟩) environment
      (written? (field.given (.int n))) :=
  field.sourced_yaml path environment digits (.int n) (decimal.ne_mark '\r' rfl) rfl bare kind true _
    (Yaml.Scanner.scansTo_word digits decimal.present decimal.isWord)
    (Yaml.word_printable digits decimal.isWord) (Yaml.resolve_decimal decimal)

theorem sourced_json_number (kind : FileKind.ofPath? path = some .json) :
    Sourced (some ⟨path, field.jsonText (String.ofList digits)⟩) environment
      (written? (field.given (.int n))) :=
  field.sourced_json path environment digits (.int n) (decimal.ne_mark '\r' rfl) rfl bare kind
    (Json.stands_decimal digits n decimal)

omit bare in
theorem text_plain : isPlain (.text (String.ofList digits)) = true := by
  rw [isPlain, String.toList_ofList]
  exact decide_eq_true (decimal.head_mark '@' rfl)

theorem sourced_yaml_quoted (kind : FileKind.ofPath? path = some .yaml) (quote : Char)
    (either : quote = '"' ∨ quote = '\'') :
    Sourced (some ⟨path, field.yamlText (String.ofList (quote :: (digits ++ [quote])))⟩) environment
      (written? (field.given (.text (String.ofList digits)))) := by
  have marks : Yaml.isPrintable quote = true ∧ quote ≠ '\r' := by
    rcases either with rfl | rfl <;> decide
  have printable : (quote :: (digits ++ [quote])).all Yaml.isPrintable = true := by
    simp only [List.all_cons, List.all_append, List.all_nil, marks.1,
      Yaml.word_printable digits decimal.isWord, Bool.and_true]
  exact field.sourced_yaml path environment _ _ (Toml.word_lineEnd digits decimal.isWord quote marks.2)
    (text_plain digits n decimal) bare kind false _
    (Yaml.Scanner.scansTo_quoted quote either digits decimal.isWord) printable rfl

theorem sourced_json_quoted (kind : FileKind.ofPath? path = some .json) :
    Sourced (some ⟨path, field.jsonText (String.ofList ('"' :: (digits ++ ['"'])))⟩) environment
      (written? (field.given (.text (String.ofList digits)))) :=
  field.sourced_json path environment _ _
    (Toml.word_lineEnd digits decimal.isWord '"' (by decide)) (text_plain digits n decimal) bare kind
    (Json.stands_word digits decimal.isWord)

end Digits

/-! The forms of a number, and what they are read as. -/

section Forms

def enclosed (quote : Char) (s : String) : String := String.ofList (quote :: (s.toList ++ [quote]))

def yamlForms (n : Nat) : List String :=
  [toString n, enclosed '"' (toString n), enclosed '\'' (toString n)]

def jsonForms (n : Nat) : List String := [toString n, enclosed '"' (toString n)]

def variableForms (n : Nat) : List String := ("@int " ++ toString n) :: yamlForms n

def valueForms (n : Nat) : List Value := [.int n, .text (toString n)]

variable (n : Nat) (range : 0 < n ∧ n ≤ maxTtlSeconds)
include range

theorem decimal_inRange : Text.Decimal (toString n).toList n := by
  have small := range.2
  unfold maxTtlSeconds at small
  exact Text.decimal_toString n range.1 (by omega)

theorem integer_forms : ∀ value ∈ valueForms n, integer value = .ok n := by
  have word := (decimal_inRange n range).integer
  rw [String.ofList_toList] at word
  exact List.forall_mem_cons.mpr ⟨rfl, List.forall_mem_singleton.mpr word⟩

/-- Whatever else is set, a variable stands for the number or its text. -/
theorem standing_forms :
    ∀ text ∈ variableForms n, ∃ value ∈ valueForms n, Sections.standing text = some value := by
  have decimal := decimal_inRange n range
  have number := Sections.standing_decimal _ n decimal
  have quoted := Sections.standing_quoted _ n decimal
  have marked := Sections.standing_marked _ n decimal
  have mark : String.ofList ("@int ".toList ++ (toString n).toList) = "@int " ++ toString n :=
    String.toList_injective (by simp)
  rw [String.ofList_toList] at number quoted
  rw [mark] at marked
  have first : .int n ∈ valueForms n := List.mem_cons_self
  have last : .text (toString n) ∈ valueForms n := List.mem_cons_of_mem _ List.mem_cons_self
  rw [variableForms, yamlForms, List.forall_mem_cons, List.forall_mem_cons, List.forall_mem_cons,
    List.forall_mem_singleton]
  exact ⟨⟨_, first, marked⟩, ⟨_, first, number⟩, ⟨_, last, quoted '"' (Or.inl rfl)⟩,
    ⟨_, last, quoted '\'' (Or.inr rfl)⟩⟩

variable (path : String) (environment : List (String × String))
  (bare : markedVariables environment = [])
include bare

theorem yaml_forms (kind : FileKind.ofPath? path = some .yaml) :
    ∀ body ∈ yamlForms n, ∃ value ∈ valueForms n,
      Sourced (some ⟨path, field.yamlText body⟩) environment (written? (field.given value)) := by
  have decimal := decimal_inRange n range
  have number := field.sourced_yaml_number path environment _ n decimal bare kind
  have quoted := field.sourced_yaml_quoted path environment _ n decimal bare kind
  rw [String.ofList_toList] at number quoted
  have last : .text (toString n) ∈ valueForms n := List.mem_cons_of_mem _ List.mem_cons_self
  rw [yamlForms, List.forall_mem_cons, List.forall_mem_cons, List.forall_mem_singleton]
  exact ⟨⟨_, List.mem_cons_self, number⟩, ⟨_, last, quoted '"' (Or.inl rfl)⟩,
    ⟨_, last, quoted '\'' (Or.inr rfl)⟩⟩

theorem json_forms (kind : FileKind.ofPath? path = some .json) :
    ∀ body ∈ jsonForms n, ∃ value ∈ valueForms n,
      Sourced (some ⟨path, field.jsonText body⟩) environment (written? (field.given value)) := by
  have decimal := decimal_inRange n range
  have number := field.sourced_json_number path environment _ n decimal bare kind
  have quoted := field.sourced_json_quoted path environment _ n decimal bare kind
  rw [String.ofList_toList] at number quoted
  rw [jsonForms, List.forall_mem_cons, List.forall_mem_singleton]
  exact ⟨⟨_, List.mem_cons_self, number⟩, _, List.mem_cons_of_mem _ List.mem_cons_self, quoted⟩

end Forms

/-- A number in range is the same setting from every source: given to the check as it is
    or as text, in a file as it is or in quotes, and in a variable as it is, in quotes or
    behind the mark. So sources in which only the form of the number differs come to the
    same, whatever else they give. A time to live that is accepted does not overflow. -/
theorem integer_sources (field : IntegerField) (n : Nat) (range : 0 < n ∧ n ≤ maxTtlSeconds) :
    let s := field.put n range {}
    (∀ value ∈ valueForms n, check (field.given value) = .ok s ∧
        ∀ place, RetentionSettings.check place [(.text field.name, value)] = .ok s.retention) ∧
      (∀ path environment, markedVariables environment = [] →
        (FileKind.ofPath? path = some .yaml → ∀ body ∈ yamlForms n,
          load (some ⟨path, field.yamlText body⟩) environment = .ok s) ∧
        (FileKind.ofPath? path = some .json → ∀ body ∈ jsonForms n,
          load (some ⟨path, field.jsonText body⟩) environment = .ok s)) ∧
      (∀ text ∈ variableForms n, (∃ value ∈ valueForms n, Sections.standing text = some value) ∧
        ∀ name environment, Text.lower name = variableName "retention" field.name →
          markedVariables environment = [(name, text)] → load none environment = .ok s) ∧
      (∀ file another environment changed first second,
        Sourced file environment first → Sourced another changed second →
          (∃ value ∈ valueForms n, first "retention" field.name = some value) →
          (∃ value ∈ valueForms n, second "retention" field.name = some value) →
          (∀ top ∈ sectionNames, ∀ other ∈ fieldNames top,
            (top, other) ≠ ("retention", field.name) → first top other = second top other) →
          load file environment = load another changed) ∧
      ∀ accepted : RetentionSettings,
        accepted.ttl.days * 86400 + accepted.ttl.seconds = accepted.ttlSeconds ∧
          0 ≤ accepted.ttl.seconds ∧ accepted.ttl.seconds < 86400 ∧ accepted.ttl.subseconds = 0 ∧
          Duration.ofParts 0 accepted.ttlSeconds 0 = .ok accepted.ttl := by
  intro s
  have reads := integer_forms n range
  refine ⟨fun value here => ?_, fun path environment bare => ⟨fun kind body here => ?_,
    fun kind body here => ?_⟩, fun text here => ?_,
    fun file another environment changed first second sourced again here there same => ?_,
    fun accepted => ?_⟩
  · exact ⟨field.check_given n range value (reads value here),
      field.section_given n range value (reads value here)⟩
  · obtain ⟨value, form, sourced⟩ := field.yaml_forms n range path environment bare kind body here
    exact field.load_given _ environment n range value (reads value form) sourced
  · obtain ⟨value, form, sourced⟩ := field.json_forms n range path environment bare kind body here
    exact field.load_given _ environment n range value (reads value form) sourced
  · obtain ⟨value, form, stands⟩ := standing_forms n range text here
    refine ⟨⟨value, form, stands⟩, fun name environment same alone => ?_⟩
    have sourced := field.sourced_variable environment name text value same alone stands
    exact field.load_given none environment n range value (reads value form) sourced
  · obtain ⟨value, form, held⟩ := here
    obtain ⟨other, shape, kept⟩ := there
    have alike := (reads value form).trans (reads other shape).symm
    rw [sourced.load, again.load, field.check_congr first second value other alike held kept same]
  · obtain ⟨whole, later, bounded, fraction⟩ := accepted.ttl_parts
    exact ⟨whole, later, bounded, fraction, accepted.ttl_ofParts⟩

def setLargest : List (String × String) :=
  [("HOME", "/home"), ("AUTOSCALER_EVENTS_retention__TTL_SECONDS", "@int 86399999913600")]

theorem integer_sources_largest :
    (0 < 86399999913600 ∧ 86399999913600 ≤ maxTtlSeconds) ∧
      ∃ s : Settings, s.retention.ttlSeconds = 86399999913600 ∧
        load (some ⟨"settings.yml", "retention:\n  ttl_seconds: '86399999913600'\n"⟩)
          [("HOME", "/home")] = .ok s ∧
        load (some ⟨"settings.json", "\x7b\"retention\": \x7b\"ttl_seconds\": 86399999913600\x7d\x7d"⟩)
          [] = .ok s ∧
        load none setLargest = .ok s ∧
        Duration.ofParts 0 86399999913600 0 = .ok s.retention.ttl := by
  have range : 0 < 86399999913600 ∧ 86399999913600 ≤ maxTtlSeconds := by decide
  obtain ⟨-, files, set, -, ttl⟩ := integer_sources ttlSeconds 86399999913600 range
  have yaml : yamlText ttlSeconds (enclosed '\'' (toString 86399999913600)) =
      "retention:\n  ttl_seconds: '86399999913600'\n" := by decide +kernel
  have json : jsonText ttlSeconds (toString 86399999913600) =
      "\x7b\"retention\": \x7b\"ttl_seconds\": 86399999913600\x7d\x7d" := by decide +kernel
  have mark : "@int 86399999913600" ∈ variableForms 86399999913600 := by decide +kernel
  obtain ⟨-, -, -, -, span⟩ := ttl (ttlSeconds.put 86399999913600 range {}).retention
  rw [← yaml, ← json]
  refine ⟨range, ttlSeconds.put 86399999913600 range {}, rfl, ?_, ?_, ?_, span⟩
  · exact (files "settings.yml" [("HOME", "/home")] (by decide +kernel)).1 (by decide +kernel) _
      (by simp [yamlForms])
  · exact (files "settings.json" [] rfl).2 (by decide +kernel) _ (by simp [jsonForms])
  · exact (set _ mark).2 "retention__TTL_SECONDS" setLargest (by decide) (by decide +kernel)

end IntegerField

end Settings

end EventRetention
