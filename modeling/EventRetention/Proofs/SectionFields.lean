import EventRetention.Proofs.SettingsSources

/-!
Sections and their fields by name. A document of fields with plain values, in
any letter case, contributes its sections under capital names. A variable that
is named for a field contributes that field to its section.
-/

namespace EventRetention

namespace Settings

open Sections Text

def fields : List (String × List (String × Value)) :=
  [("database", [("url", .text "sqlite:///./state/autoscaler_events.db"), ("echo", .bool false)]),
    ("retention", [("ttl_seconds", .int 7776000), ("batch_size", .int 4096)]),
    ("logging", [("level", .text "INFO"), ("json_output", .bool false)])]

def sectionNames : List String := fields.map Prod.fst

def fieldNames (top : String) : List String := ((fields.lookup top).getD []).map Prod.fst

def variableName (top field : String) : String := top ++ "__" ++ field

theorem sectionNames_plain : ∀ top ∈ sectionNames,
    'k' ∉ top.toList ∧ '_' ∉ top.toList ∧ top.toList.any isSpacing = false := by
  decide

theorem sectionNames_upper : ∀ top ∈ sectionNames,
    lower (upper top) = top ∧ splitName (upper top).toList = [(upper top).toList] := by
  decide

theorem fieldNames_clean : ∀ top ∈ sectionNames, ∀ field ∈ fieldNames top, ' ' ∉ field.toList := by
  decide

theorem fieldNames_once : ∀ top ∈ sectionNames, (fieldNames top).Nodup := by
  decide

theorem splitName_variable : ∀ top ∈ sectionNames, ∀ field ∈ fieldNames top,
    splitName (variableName top field).toList = [top.toList, field.toList] := by
  decide

theorem variableName_injective : ∀ top ∈ sectionNames, ∀ field ∈ fieldNames top,
    ∀ other ∈ sectionNames, ∀ name ∈ fieldNames other,
      variableName top field = variableName other name → top = other ∧ field = name := by
  decide

theorem upper_section (top name : String) (member : top ∈ sectionNames) (same : lower name = top) :
    upper name = upper top := by
  obtain ⟨plain, -, -⟩ := sectionNames_plain top member
  subst same
  exact (upper_lower name plain).symm

theorem upper_injective (top other : String) (member : top ∈ sectionNames)
    (another : other ∈ sectionNames) (same : upper top = upper other) : top = other := by
  rw [← (sectionNames_upper top member).1, same, (sectionNames_upper other another).1]

theorem sectionKey_named (top : String) (member : top ∈ sectionNames) (first : List Char)
    (same : first.map small = top.toList) : sectionKey first = .text (upper top) := by
  obtain ⟨-, -, clean⟩ := sectionNames_plain top member
  rw [sectionKey, trim_named first (same ▸ clean), upper_section top _ member]
  rw [lower, String.toList_ofList, same, String.ofList_toList]

theorem placed_section (top : String) (member : top ∈ sectionNames) (value : Value) :
    placed (upper top) value = (.text (upper top), value) := by
  obtain ⟨small, split⟩ := sectionNames_upper top member
  have key : sectionKey (upper top).toList = .text (upper top) :=
    sectionKey_named top member _ (by rw [← toList_lower, small])
  simp only [placed, split, List.headD_cons, List.tail_cons, key]
  rfl

theorem placed_variable (top field name : String) (member : top ∈ sectionNames)
    (inside : field ∈ fieldNames top) (same : lower name = variableName top field) (value : Value) :
    ∃ spelling, lower spelling = field ∧
      placed name value = (.text (upper top), .map [(.text spelling, value)]) := by
  have split := splitName_variable top member field inside
  rw [← same, toList_lower, splitName_small] at split
  obtain ⟨first, rest, parts, head, tail⟩ := List.map_eq_cons_iff.mp split
  obtain ⟨last, none, rfl, spelled, empty⟩ := List.map_eq_cons_iff.mp tail
  rw [List.map_eq_nil_iff.mp empty] at parts
  refine ⟨String.ofList last, ?_, ?_⟩
  · rw [lower, String.toList_ofList, spelled, String.ofList_toList]
  · unfold placed
    rw [parts]
    exact congrArg (·, _) (sectionKey_named top member first head)

def isPlain : Value → Bool
  | .text s => s.toList.head? ≠ some '@'
  | .list _ | .map _ => false
  | _ => true

end Settings

namespace Sections

theorem isMarked_plain (text : List Char) (other : text.head? ≠ some '@') :
    Conversion.isMarked text = false := by
  cases text with
  | nil => rfl
  | cons c rest =>
      have apart : ('@' == c) = false := by
        simpa using fun same => other (congrArg some same.symm)
      simp [Conversion.isMarked, Conversion.all, List.isPrefixOf, apart]

theorem convert_plain (value : Value) (plain : Settings.isPlain value = true) :
    convert value = some value := by
  cases value with
  | text s =>
      have unmarked := isMarked_plain s.toList (of_decide_eq_true plain)
      rw [convert, convertText]
      simp [unmarked]
  | list items => cases plain
  | map entries => cases plain
  | _ => rfl

theorem convertEntries_plain (entries : Entries)
    (plain : ∀ entry ∈ entries, Settings.isPlain entry.2 = true) :
    convertEntries entries = some entries := by
  induction entries with
  | nil => rfl
  | cons entry rest ih =>
      obtain ⟨here, later⟩ := List.forall_mem_cons.mp plain
      rw [convertEntries, convert_plain _ here, ih later]
      rfl

theorem mapM_some (read : α → Option β) (change : α → β) (items : List α)
    (total : ∀ item ∈ items, read item = some (change item)) :
    items.mapM read = some (items.map change) := by
  induction items with
  | nil => rfl
  | cons item rest ih =>
      obtain ⟨here, later⟩ := List.forall_mem_cons.mp total
      rw [List.mapM_cons, here, ih later]
      rfl

end Sections

namespace Settings

open Sections Text

/-- A document of sections, in any letter case, with plain values for fields. -/
structure Written (entries : Entries) : Prop where
  once : (entries.map Entries.lowerKey).Nodup
  sections : ∀ entry ∈ entries, ∃ top ∈ sectionNames, ∃ inner,
    Entries.lowerKey entry = some top ∧ entry.2 = .map inner ∧ Entries.Named (fieldNames top) inner ∧
      ∀ leaf ∈ inner, isPlain leaf.2 = true

def written? (entries : Entries) (top field : String) : Option Value :=
  ((entries.spelled? top).bind Value.entries?).bind fun inner => Entries.spelled? inner field

def capitalEntry (entry : Value × Value) : Value × Value :=
  (.text (upper entry.1.plain), entry.2)

theorem capitalEntry_section (entry : Value × Value) (top : String) (member : top ∈ sectionNames)
    (same : Entries.lowerKey entry = some top) : capitalEntry entry = (.text (upper top), entry.2) := by
  obtain ⟨spelling, key, small⟩ := (Entries.lowerKey_eq_some entry top).mp same
  rw [capitalEntry, key]
  exact congrArg (fun name => (Value.text name, entry.2)) (upper_section top spelling member small)

namespace Written

variable (entries : Entries) (written : Written entries)
include written

/-- The capital forms of the keys are different, as their small forms are. -/
theorem capital_once : (entries.map fun entry => (capitalEntry entry).1).Nodup := by
  refine Entries.nodup_map_of _ _ entries written.once fun first here last there same => ?_
  obtain ⟨top, member, -, small, -⟩ := written.sections first here
  obtain ⟨other, another, -, lowered, -⟩ := written.sections last there
  rw [capitalEntry_section first top member small, capitalEntry_section last other another lowered] at same
  have tops := upper_injective top other member another (Value.text.inj same)
  exact small.trans (tops ▸ lowered.symm)

theorem capital_keys : (Entries.keys (entries.map capitalEntry)).Nodup := by
  rw [Entries.keys, List.map_map]
  exact written.capital_once

theorem namedValues_capital : namedValues entries = entries.map fun entry =>
    (upper entry.1.plain, entry.2) := by
  have names : ∀ entry ∈ entries, capitalStart entry.1.plain = upper entry.1.plain := by
    intro entry here
    obtain ⟨top, member, -, small, -⟩ := written.sections entry here
    obtain ⟨spelling, key, rfl⟩ := (Entries.lowerKey_eq_some entry top).mp small
    rw [key]
    exact capitalStart_whole spelling (sectionNames_plain _ member).2.1
  let started (entry : Value × Value) : Value × Value :=
    (.text (capitalStart entry.1.plain), entry.2)
  have once : (Entries.keys (entries.map started)).Nodup := by
    rw [Entries.keys, List.map_map]
    refine (List.map_congr_left fun entry here => ?_) ▸ written.capital_once
    exact congrArg Value.text (names entry here).symm
  have all := Entries.foldl_insert_fresh started entries [] once
  refine (congrArg (List.map fun entry : Value × Value => (entry.1.plain, entry.2)) all).trans ?_
  rw [List.nil_append, List.map_map]
  exact List.map_congr_left fun entry here => congrArg (·, entry.2) (names entry here)

theorem contributions : (namedValues entries).mapM contribution? = some (entries.map capitalEntry) := by
  rw [written.namedValues_capital]
  refine (mapM_some _ (fun set => (.text set.1, set.2)) _ ?_).trans ?_
  · intro set here
    obtain ⟨entry, inside, rfl⟩ := List.mem_map.mp here
    obtain ⟨top, member, inner, small, map, -, plain⟩ := written.sections entry inside
    obtain ⟨spelling, key, lowered⟩ := (Entries.lowerKey_eq_some entry top).mp small
    rw [contribution?, map, convert, convertEntries_plain inner plain, key]
    have capital := upper_section top spelling member lowered
    have found := placed_section top member (.map inner)
    rw [← capital] at found
    exact congrArg some found
  · rw [List.map_map]
    rfl

end Written

end Settings

end EventRetention
