import EventRetention.Proofs.EntryLookup
import EventRetention.Settings.Basic
import Mathlib.Data.List.Perm.Basic

/-!
The check of a settings document against the checks of its parts. A document is
accepted if each field is, given alone; a document that is refused gets the
complaints about its parts, in the order of the fields. Nothing else of it counts.
-/

namespace EventRetention

namespace Entries

def isKnown (names : List String) (entry : Value × Value) : Bool :=
  names.any fun name => entry.1 == .text name

def Rearranged (names : List String) (entries others : Entries) : Prop :=
  entries.keys.Nodup ∧ (entries.filter (isKnown names)).Perm (others.filter (isKnown names))

theorem get?_perm (entries others : Entries) (key : Value) (single : entries.keys.Nodup)
    (same : entries.Perm others) : others.get? key = entries.get? key := by
  have keys : entries.keys.Perm others.keys := same.map Prod.fst
  cases found : entries.get? key with
  | none =>
      rw [get?_eq_none] at found ⊢
      exact fun inside => found (keys.mem_iff.mpr inside)
  | some value =>
      exact others.get?_of_mem key value (keys.nodup_iff.mp single)
        (same.mem_iff.mp (entries.mem_of_get? key value found))

theorem field?_known (names : List String) (entries : Entries) (name : String)
    (known : name ∈ names) :
    Entries.field? (entries.filter (isKnown names)) name = entries.field? name := by
  unfold field? get?
  rw [List.find?_filter]
  congr 2
  funext entry
  by_cases here : entry.1 = .text name
  · have inside : isKnown names entry = true := List.any_eq_true.mpr ⟨name, known, by simp [here]⟩
    simp [inside, ← beq_eq_decide]
  · simp [here]

theorem Rearranged.field? (names : List String) (entries others : Entries)
    (same : Rearranged names entries others) (name : String) (known : name ∈ names) :
    others.field? name = entries.field? name := by
  have single : (keys (entries.filter (isKnown names))).Nodup :=
    same.1.sublist (List.filter_sublist.map Prod.fst)
  rw [← field?_known names others name known, ← field?_known names entries name known]
  exact get?_perm _ _ _ single same.2

end Entries

namespace Settings

namespace Checked

inductive Judged : Checked α → List Complaint → Prop where
  | accepted (a : α) : Judged (.ok a) []
  | refused (all : List Complaint) (some : all ≠ []) : Judged (.error all) all

theorem Judged.accepted_iff (checked : Checked α) (all : List Complaint) (judged : checked.Judged all) :
    (∃ a, checked = .ok a) ↔ all = [] := by
  cases judged with
  | accepted a => simp
  | refused all some => simp [some]

theorem Judged.error_iff (checked : Checked α) (all found : List Complaint) (judged : checked.Judged all) :
    checked = .error found ↔ found = all ∧ all ≠ [] := by
  cases judged with
  | accepted a => simp
  | refused all some => simp [some, eq_comm]

theorem Judged.both (first : Checked α) (second : Checked β) (early late : List Complaint)
    (here : first.Judged early) (there : second.Judged late) :
    (first.both second).Judged (early ++ late) := by
  cases here with
  | accepted a =>
      cases there with
      | accepted b => exact .accepted (a, b)
      | refused late some => exact .refused _ some
  | refused early some =>
      cases there with
      | accepted b =>
          rw [List.append_nil]
          exact .refused early some
      | refused late other => exact .refused _ (List.append_ne_nil_of_left_ne_nil some late)

theorem Judged.map (change : α → β) (checked : Checked α) (all : List Complaint)
    (judged : checked.Judged all) : Judged (checked.map change) all := by
  cases judged with
  | accepted a => exact .accepted (change a)
  | refused all some => exact .refused all some

theorem both_ok (first : Checked α) (second : Checked β) (a : α) (b : β) :
    first.both second = .ok (a, b) ↔ first = .ok a ∧ second = .ok b := by
  cases first <;> cases second <;> simp [both]

theorem map_ok (change : α → β) (checked : Checked α) (b : β) :
    checked.map change = .ok b ↔ ∃ a, checked = .ok a ∧ change a = b := by
  cases checked <;> simp [Except.map]

end Checked

def refused? (read : Value → Except Problem α) (value : Value) : Option Problem :=
  match read value with
  | .ok _ => none
  | .error problem => some problem

structure FieldRule where
  name : String
  refused? : Value → Option Problem

structure SectionRule where
  name : String
  title : String
  fields : List FieldRule

def rules : List SectionRule :=
  [⟨"database", "DatabaseSettings", [⟨"url", refused? text⟩, ⟨"echo", refused? boolean⟩]⟩,
    ⟨"retention", "RetentionSettings",
      [⟨"ttl_seconds", refused? (positiveUpTo maxTtlSeconds)⟩, ⟨"batch_size", refused? positive⟩]⟩,
    ⟨"logging", "LoggingSettings",
      [⟨"level", refused? LogLevel.ofValue⟩, ⟨"json_output", refused? boolean⟩]⟩]

def FieldRule.complaints (rule : FieldRule) (place : List String) (inner : Entries) :
    List Complaint :=
  ((inner.field? rule.name).bind rule.refused?).toList.map fun problem =>
    ⟨place ++ [rule.name], problem⟩

def SectionRule.complaints (rule : SectionRule) (entries : Entries) : List Complaint :=
  match entries.field? rule.name with
  | none => []
  | some (.map inner) => rule.fields.flatMap (·.complaints [rule.name] inner)
  | some _ => [⟨[rule.name], .sectionKind rule.title⟩]

theorem field_judged (place : List String) (name : String) (default : α)
    (read : Value → Except Problem α) (entries : Entries) :
    (field place name default read entries).Judged
      (FieldRule.complaints ⟨name, refused? read⟩ place entries) := by
  unfold field FieldRule.complaints
  cases entries.field? name with
  | none => exact .accepted default
  | some value =>
      simp only [Option.bind_some, refused?]
      cases read value with
      | ok a => exact .accepted a
      | error problem => exact .refused _ (List.cons_ne_nil _ _)

/-- A section of two fields. -/
theorem fields_judged (place : List String) (inner : Entries) (first last : FieldRule)
    (here : Checked α) (there : Checked β) (change : α × β → γ)
    (early : here.Judged (first.complaints place inner))
    (late : there.Judged (last.complaints place inner)) :
    Checked.Judged ((here.both there).map change)
      ([first, last].flatMap (·.complaints place inner)) := by
  rw [List.flatMap_cons, List.flatMap_singleton]
  exact .map change _ _ (.both here there _ _ early late)

theorem checkSection_judged (rule : SectionRule) (default : α)
    (check : List String → Entries → Checked α) (entries : Entries)
    (inside : ∀ inner, (check [rule.name] inner).Judged
      (rule.fields.flatMap (·.complaints [rule.name] inner))) :
    (checkSection rule.name rule.title default check entries).Judged (rule.complaints entries) := by
  unfold checkSection SectionRule.complaints
  cases entries.field? rule.name with
  | none => exact .accepted default
  | some value =>
      cases value with
      | map inner => exact inside inner
      | _ => exact .refused _ (List.cons_ne_nil _ _)

/-- The complaints about a document are those about its fields, one after the other. -/
theorem check_judged (entries : Entries) :
    (check entries).Judged (rules.flatMap (·.complaints entries)) := by
  have database := checkSection_judged ⟨"database", "DatabaseSettings",
    [⟨"url", refused? text⟩, ⟨"echo", refused? boolean⟩]⟩ {} DatabaseSettings.check entries
    fun inner => fields_judged _ inner _ _ _ _ _ (field_judged ..) (field_judged ..)
  have retention := checkSection_judged ⟨"retention", "RetentionSettings",
    [⟨"ttl_seconds", refused? (positiveUpTo maxTtlSeconds)⟩, ⟨"batch_size", refused? positive⟩]⟩ {}
    RetentionSettings.check entries
    fun inner => fields_judged _ inner _ _ _ _ _ (field_judged ..) (field_judged ..)
  have logging := checkSection_judged ⟨"logging", "LoggingSettings",
    [⟨"level", refused? LogLevel.ofValue⟩, ⟨"json_output", refused? boolean⟩]⟩ {}
    LoggingSettings.check entries
    fun inner => fields_judged _ inner _ _ _ _ _ (field_judged ..) (field_judged ..)
  unfold check
  simp only [rules, List.flatMap_cons, List.flatMap_nil, List.append_nil]
  exact .map _ _ _ (.both _ _ _ _ database (.both _ _ _ _ retention logging))

def given? (entries : Entries) (top name : String) : Option Value :=
  ((entries.field? top).bind Value.entries?).bind (Entries.field? · name)

def Taken (given : Option Value) (read : Value → Except Problem α) (default held : α) : Prop :=
  match given with
  | none => held = default
  | some value => read value = .ok held

structure Holds (entries : Entries) (s : Settings) : Prop where
  url : Taken (given? entries "database" "url") text ({} : DatabaseSettings).url s.database.url
  echo : Taken (given? entries "database" "echo") boolean ({} : DatabaseSettings).echo s.database.echo
  ttlSeconds : Taken (given? entries "retention" "ttl_seconds") (positiveUpTo maxTtlSeconds)
    ⟨({} : RetentionSettings).ttlSeconds, ({} : RetentionSettings).ttlInRange⟩
    ⟨s.retention.ttlSeconds, s.retention.ttlInRange⟩
  batchSize : Taken (given? entries "retention" "batch_size") positive
    ⟨({} : RetentionSettings).batchSize, ({} : RetentionSettings).batchPositive⟩
    ⟨s.retention.batchSize, s.retention.batchPositive⟩
  level : Taken (given? entries "logging" "level") LogLevel.ofValue ({} : LoggingSettings).level
    s.logging.level
  jsonOutput : Taken (given? entries "logging" "json_output") boolean
    ({} : LoggingSettings).jsonOutput s.logging.jsonOutput

theorem field_taken (place : List String) (name : String) (default held : α)
    (read : Value → Except Problem α) (entries : Entries)
    (accepted : field place name default read entries = .ok held) :
    Taken (entries.field? name) read default held := by
  unfold field at accepted
  cases given : entries.field? name with
  | none =>
      rw [given] at accepted
      exact (Except.ok.inj accepted).symm
  | some value =>
      rw [given] at accepted
      dsimp only at accepted
      cases done : read value with
      | ok a =>
          rw [done] at accepted
          exact done.trans (congrArg Except.ok (Except.ok.inj accepted))
      | error problem =>
          rw [done] at accepted
          cases accepted

/-- An accepted section was checked as a map, or as one without entries. -/
theorem checkSection_accepted (name title : String) (default held : α)
    (check : List String → Entries → Checked α) (entries : Entries)
    (missing : check [name] [] = .ok default)
    (accepted : checkSection name title default check entries = .ok held) :
    check [name] (((entries.field? name).bind Value.entries?).getD []) = .ok held := by
  unfold checkSection at accepted
  cases given : entries.field? name with
  | none =>
      rw [given] at accepted
      exact missing.trans accepted
  | some value =>
      rw [given] at accepted
      cases value with
      | map inner => exact accepted
      | _ => cases accepted

theorem given?_inside (entries : Entries) (top name : String) :
    Entries.field? (((entries.field? top).bind Value.entries?).getD []) name =
      given? entries top name := by
  unfold given?
  cases (entries.field? top).bind Value.entries? <;> rfl

theorem check_holds (entries : Entries) (s : Settings) (accepted : check entries = .ok s) :
    Holds entries s := by
  unfold check at accepted
  obtain ⟨⟨database, retention, logging⟩, sections, rfl⟩ := (Checked.map_ok _ _ _).mp accepted
  obtain ⟨first, rest⟩ := (Checked.both_ok _ _ _ _).mp sections
  obtain ⟨second, third⟩ := (Checked.both_ok _ _ _ _).mp rest
  have first := checkSection_accepted _ _ _ _ _ entries rfl first
  have second := checkSection_accepted _ _ _ _ _ entries rfl second
  have third := checkSection_accepted _ _ _ _ _ entries rfl third
  obtain ⟨⟨url, echo⟩, databaseFields, rfl⟩ := (Checked.map_ok _ _ _).mp first
  obtain ⟨⟨ttl, batch⟩, retentionFields, rfl⟩ := (Checked.map_ok _ _ _).mp second
  obtain ⟨⟨level, jsonOutput⟩, loggingFields, rfl⟩ := (Checked.map_ok _ _ _).mp third
  obtain ⟨url, echo⟩ := (Checked.both_ok _ _ _ _).mp databaseFields
  obtain ⟨ttl, batch⟩ := (Checked.both_ok _ _ _ _).mp retentionFields
  obtain ⟨level, jsonOutput⟩ := (Checked.both_ok _ _ _ _).mp loggingFields
  constructor
  all_goals rw [← given?_inside]
  · exact field_taken _ _ _ _ _ _ url
  · exact field_taken _ _ _ _ _ _ echo
  · exact field_taken _ _ _ _ _ _ ttl
  · exact field_taken _ _ _ _ _ _ batch
  · exact field_taken _ _ _ _ _ _ level
  · exact field_taken _ _ _ _ _ _ jsonOutput

/-! Parts given alone. -/

def sectionAlone (top : String) (value : Value) : Entries := [(.text top, value)]

def fieldAlone (top name : String) (value : Value) : Entries :=
  sectionAlone top (.map [(.text name, value)])

def Checked.complaints : Checked α → List Complaint
  | .ok _ => []
  | .error all => all

theorem Checked.Judged.complaints (checked : Checked α) (all : List Complaint)
    (judged : checked.Judged all) : checked.complaints = all := by
  cases judged <;> rfl

/-- What is said of the parts of a section when each is given alone. -/
def SectionRule.separately (rule : SectionRule) (entries : Entries) : List Complaint :=
  match entries.field? rule.name with
  | none => []
  | some (.map inner) => rule.fields.flatMap fun field =>
      match Entries.field? inner field.name with
      | none => []
      | some value => (check (fieldAlone rule.name field.name value)).complaints
  | some other => (check (sectionAlone rule.name other)).complaints

theorem flatMap_single (name : α → String) (parts : α → List β) (items : List α) (item : α)
    (once : (items.map name).Nodup) (member : item ∈ items)
    (others : ∀ other ∈ items, name other ≠ name item → parts other = []) :
    items.flatMap parts = parts item := by
  induction items with
  | nil => cases member
  | cons first rest ih =>
      obtain ⟨fresh, once⟩ := List.nodup_cons.mp once
      obtain ⟨here, later⟩ := List.forall_mem_cons.mp others
      rw [List.flatMap_cons]
      rcases List.mem_cons.mp member with rfl | inside
      · have nothing : rest.flatMap parts = [] := by
          refine List.flatMap_eq_nil_iff.mpr fun other last => later other last fun same => ?_
          exact fresh (same ▸ List.mem_map_of_mem last)
        rw [nothing, List.append_nil]
      · have apart : name first ≠ name item := fun same =>
          fresh (same ▸ List.mem_map_of_mem inside)
        rw [here apart, List.nil_append, ih once inside later]

theorem rules_once : (rules.map (·.name)).Nodup := by decide

theorem fields_once : ∀ rule ∈ rules, (rule.fields.map (·.name)).Nodup := by decide

theorem field?_single (name other : String) (value : Value) :
    Entries.field? [(.text name, value)] other = if name = other then some value else none := by
  rw [Entries.field?, Entries.get?_cons]
  simp only [Value.text.injEq]
  rfl

theorem sectionAlone_judged (rule : SectionRule) (member : rule ∈ rules) (value : Value) :
    (check (sectionAlone rule.name value)).complaints =
      rule.complaints (sectionAlone rule.name value) := by
  rw [(check_judged _).complaints]
  refine flatMap_single (·.name) _ rules rule rules_once member fun other _ apart => ?_
  rw [SectionRule.complaints, sectionAlone, field?_single, if_neg (Ne.symm apart)]

/-- A value that is no map gives one complaint about its section. -/
theorem sectionAlone_complaints (rule : SectionRule) (member : rule ∈ rules) (value : Value)
    (odd : value.entries? = none) :
    (check (sectionAlone rule.name value)).complaints = [⟨[rule.name], .sectionKind rule.title⟩] := by
  rw [sectionAlone_judged rule member, SectionRule.complaints, sectionAlone, field?_single, if_pos rfl]
  cases value with
  | map inner => cases odd
  | _ => rfl

theorem fieldAlone_complaints (rule : SectionRule) (member : rule ∈ rules) (field : FieldRule)
    (inside : field ∈ rule.fields) (value : Value) :
    (check (fieldAlone rule.name field.name value)).complaints =
      (field.refused? value).toList.map fun problem => ⟨[rule.name, field.name], problem⟩ := by
  rw [fieldAlone, sectionAlone_judged rule member, SectionRule.complaints, sectionAlone,
    field?_single, if_pos rfl]
  dsimp only
  rw [flatMap_single (·.name) _ rule.fields field (fields_once rule member) inside]
  · rw [FieldRule.complaints, field?_single, if_pos rfl]
    rfl
  · intro other _ apart
    rw [FieldRule.complaints, field?_single, if_neg (Ne.symm apart)]
    rfl

theorem separately_complaints (rule : SectionRule) (member : rule ∈ rules) (entries : Entries) :
    rule.separately entries = rule.complaints entries := by
  unfold SectionRule.separately SectionRule.complaints
  cases entries.field? rule.name with
  | none => rfl
  | some value =>
      cases value with
      | map inner =>
          refine List.flatMap_congr fun field inside => ?_
          unfold FieldRule.complaints
          cases Entries.field? inner field.name with
          | none => rfl
          | some value => exact fieldAlone_complaints rule member field inside value
      | _ => exact sectionAlone_complaints rule member _ rfl

def Acceptable (top name : String) (value : Value) : Prop :=
  ∃ s, check (fieldAlone top name value) = .ok s

theorem acceptable_iff (top name : String) (value : Value) :
    Acceptable top name value ↔ (check (fieldAlone top name value)).complaints = [] := by
  have judged := check_judged (fieldAlone top name value)
  rw [judged.complaints]
  exact judged.accepted_iff

theorem separately_nil (rule : SectionRule) (member : rule ∈ rules) (entries : Entries) :
    rule.separately entries = [] ↔ ∀ value, entries.field? rule.name = some value →
      ∃ inner, value = .map inner ∧ ∀ field ∈ rule.fields, ∀ part,
        Entries.field? inner field.name = some part → Acceptable rule.name field.name part := by
  have refused (value : Value) (odd : value.entries? = none) :
      (check (sectionAlone rule.name value)).complaints ≠ [] := by
    rw [sectionAlone_complaints rule member value odd]
    exact List.cons_ne_nil _ _
  unfold SectionRule.separately
  cases entries.field? rule.name with
  | none => simp
  | some value =>
      cases value with
      | map inner =>
          simp only [List.flatMap_eq_nil_iff, acceptable_iff, Option.some.injEq, forall_eq',
            Value.map.injEq, exists_eq_left']
          refine forall₂_congr fun field inside => ?_
          cases Entries.field? inner field.name <;> simp
      | _ => exact iff_of_false (refused _ rfl) (by simp)

/-! Keys that do not count, and the order of keys. -/

def SectionRule.fieldNames (rule : SectionRule) : List String := rule.fields.map (·.name)

/-- An entry with the same key; its value is the same too, or the same section but
    for unknown keys and the order of keys. -/
def SameSection (entry other : Value × Value) : Prop :=
  entry.1 = other.1 ∧ (entry.2 = other.2 ∨ ∃ rule ∈ rules, entry.1 = .text rule.name ∧
    ∃ inner kept, entry.2 = .map inner ∧ other.2 = .map kept ∧
      Entries.Rearranged rule.fieldNames inner kept)

def Rearranged (entries others : Entries) : Prop :=
  ∃ middle, Entries.Rearranged (rules.map (·.name)) entries middle ∧
    List.Forall₂ SameSection middle others

def SectionRule.Agrees (rule : SectionRule) (entries others : Entries) : Prop :=
  others.field? rule.name = entries.field? rule.name ∨
    ∃ inner kept, entries.field? rule.name = some (.map inner) ∧
      others.field? rule.name = some (.map kept) ∧
      ∀ field ∈ rule.fields, Entries.field? kept field.name = Entries.field? inner field.name

theorem sameSections_agree (rule : SectionRule) (member : rule ∈ rules) (entries others : Entries)
    (same : List.Forall₂ SameSection entries others) : rule.Agrees entries others := by
  induction same with
  | nil => exact Or.inl rfl
  | @cons entry other rest later head _ ih =>
      obtain ⟨key, value⟩ := entry
      obtain ⟨spelled, changed⟩ := other
      obtain ⟨rfl, alike⟩ := head
      unfold SectionRule.Agrees Entries.field? at ih ⊢
      rw [Entries.get?_cons, Entries.get?_cons]
      by_cases here : key = .text rule.name
      · rw [if_pos here, if_pos here]
        rcases alike with equal | ⟨other, another, named, inner, kept, map, changed, rearranged⟩
        · exact Or.inl (congrArg some equal.symm)
        · have names : other.name = rule.name := Value.text.inj (named.symm.trans here)
          obtain rfl : other = rule := List.inj_on_of_nodup_map rules_once another member names
          refine Or.inr ⟨inner, kept, congrArg some map, congrArg some changed, fun field inside => ?_⟩
          exact rearranged.field? _ inner kept field.name (List.mem_map_of_mem inside)
      · rw [if_neg here, if_neg here]
        exact ih

theorem Rearranged.agrees (entries others : Entries) (same : Rearranged entries others)
    (rule : SectionRule) (member : rule ∈ rules) : rule.Agrees entries others := by
  obtain ⟨middle, outside, inside⟩ := same
  have kept := outside.field? _ entries middle rule.name (List.mem_map_of_mem member)
  have agrees := sameSections_agree rule member middle others inside
  unfold SectionRule.Agrees at agrees ⊢
  rwa [kept] at agrees

theorem checkSection_agrees (rule : SectionRule) (default : α)
    (check : List String → Entries → Checked α) (entries others : Entries)
    (agrees : rule.Agrees entries others)
    (inside : ∀ inner kept : Entries,
      (∀ field ∈ rule.fields, kept.field? field.name = inner.field? field.name) →
        check [rule.name] kept = check [rule.name] inner) :
    checkSection rule.name rule.title default check others =
      checkSection rule.name rule.title default check entries := by
  unfold checkSection
  rcases agrees with same | ⟨inner, kept, here, there, fields⟩
  · rw [same]
  · rw [here, there]
    exact inside inner kept fields

theorem field_agrees (place : List String) (name : String) (default : α)
    (read : Value → Except Problem α) (entries others : Entries)
    (same : others.field? name = entries.field? name) :
    field place name default read others = field place name default read entries := by
  unfold field
  rw [same]

/-- The check of a document sees its fields and nothing else. -/
theorem check_agrees (entries others : Entries)
    (agrees : ∀ rule ∈ rules, rule.Agrees entries others) : check others = check entries := by
  obtain ⟨database, rest⟩ := List.forall_mem_cons.mp agrees
  obtain ⟨retention, rest⟩ := List.forall_mem_cons.mp rest
  obtain ⟨logging, -⟩ := List.forall_mem_cons.mp rest
  unfold check
  congr 2
  · refine checkSection_agrees _ _ _ entries others database fun inner kept fields => ?_
    obtain ⟨url, rest⟩ := List.forall_mem_cons.mp fields
    obtain ⟨echo, -⟩ := List.forall_mem_cons.mp rest
    unfold DatabaseSettings.check
    rw [field_agrees _ _ _ _ inner kept url, field_agrees _ _ _ _ inner kept echo]
  · congr 1
    · refine checkSection_agrees _ _ _ entries others retention fun inner kept fields => ?_
      obtain ⟨ttl, rest⟩ := List.forall_mem_cons.mp fields
      obtain ⟨batch, -⟩ := List.forall_mem_cons.mp rest
      unfold RetentionSettings.check
      dsimp only
      rw [field_agrees _ _ _ _ inner kept ttl, field_agrees _ _ _ _ inner kept batch]
    · refine checkSection_agrees _ _ _ entries others logging fun inner kept fields => ?_
      obtain ⟨level, rest⟩ := List.forall_mem_cons.mp fields
      obtain ⟨jsonOutput, -⟩ := List.forall_mem_cons.mp rest
      unfold LoggingSettings.check
      rw [field_agrees _ _ _ _ inner kept level, field_agrees _ _ _ _ inner kept jsonOutput]

theorem flatMap_separately (entries : Entries) :
    rules.flatMap (·.separately entries) = rules.flatMap (·.complaints entries) :=
  List.flatMap_congr fun rule member => separately_complaints rule member entries

/-- The check of a document comes to the checks of its parts: it accepts what they all
    accept, with the values they give, and otherwise says what they say, one after the
    other. A part complains of itself only. Unknown keys and the order of keys do not
    count. -/
theorem check_separately (entries : Entries) :
    ((∃ s, check entries = .ok s) ↔ ∀ rule ∈ rules, ∀ value, entries.field? rule.name = some value →
      ∃ inner, value = .map inner ∧ ∀ field ∈ rule.fields, ∀ part,
        Entries.field? inner field.name = some part → Acceptable rule.name field.name part) ∧
      (∀ s, check entries = .ok s → Holds entries s) ∧
      (∀ complaints, check entries = .error complaints →
        complaints = rules.flatMap (·.separately entries)) ∧
      (∀ rule ∈ rules,
        (∀ field ∈ rule.fields, ∀ value,
          (check (fieldAlone rule.name field.name value)).complaints =
            (field.refused? value).toList.map fun problem => ⟨[rule.name, field.name], problem⟩) ∧
        ∀ value, value.entries? = none →
          (check (sectionAlone rule.name value)).complaints =
            [⟨[rule.name], .sectionKind rule.title⟩]) ∧
      ∀ others, Rearranged entries others → check others = check entries := by
  have judged := check_judged entries
  rw [← flatMap_separately] at judged
  refine ⟨?_, check_holds entries, fun complaints refused => ?_, fun rule member => ⟨?_, ?_⟩, ?_⟩
  · rw [judged.accepted_iff, List.flatMap_eq_nil_iff]
    exact forall₂_congr fun rule member => separately_nil rule member entries
  · exact ((judged.error_iff _ _ complaints).mp refused).1
  · exact fieldAlone_complaints rule member
  · exact sectionAlone_complaints rule member
  · exact fun others same => check_agrees entries others (same.agrees entries others)

def faulty : Entries :=
  [(.text "logging", .map [(.text "json_output", .int 2), (.text "LEVEL", .int 1)]),
    (.text "retention", .text "off"), (.text "extra", .null),
    (.text "database", .map [(.text "echo", .text "maybe"), (.text "url", .int 5)])]

def reordered : Entries :=
  [(.text "database", .map [(.text "url", .int 5), (.text "path", .null),
      (.text "echo", .text "maybe")]),
    (.text "logging", .map [(.text "json_output", .int 2)]), (.text "retention", .text "off")]

theorem check_separately_faulty :
    let complaints : List Complaint := [⟨["database", "url"], .textKind⟩,
      ⟨["database", "echo"], .booleanText⟩, ⟨["retention"], .sectionKind "RetentionSettings"⟩,
      ⟨["logging", "json_output"], .booleanText⟩]
    check faulty = .error complaints ∧ rules.flatMap (·.separately faulty) = complaints ∧
      check reordered = .error complaints := by
  intro complaints
  obtain ⟨-, -, refused, -, same⟩ := check_separately faulty
  have found : check faulty = .error complaints := rfl
  have rearranged : Rearranged faulty reordered := by
    refine ⟨[(.text "database", .map [(.text "echo", .text "maybe"), (.text "url", .int 5)]),
      (.text "logging", .map [(.text "json_output", .int 2), (.text "LEVEL", .int 1)]),
      (.text "retention", .text "off")], ⟨by decide, by decide⟩, ?_⟩
    refine .cons ⟨rfl, Or.inr ⟨_, List.mem_cons_self, rfl, _, _, rfl, rfl, by decide, by decide⟩⟩ ?_
    refine .cons ⟨rfl, Or.inr ⟨_, List.mem_cons_of_mem _ (List.mem_cons_of_mem _ List.mem_cons_self),
      rfl, _, _, rfl, rfl, by decide, by decide⟩⟩ ?_
    exact .cons ⟨rfl, Or.inl rfl⟩ .nil
  exact ⟨found, (refused complaints found).symm, (same reordered rearranged).trans found⟩

end Settings

end EventRetention
