import EventRetention.Proofs.SectionFields

/-!
Fields merged into sections. A field that is merged into a map in which each name
stands once, in any letter case, replaces the field of its name and no other. So
after all variables a field has the value that is set for it, or else its own.
-/

namespace EventRetention

namespace Sections

open Entries (lowerKey)
open Text (lower)

theorem respell_single (old : Entries) (key value : Value) :
    respell old [(key, value)] = [((spelling? old key).getD key, value)] := by
  have held : Entries.get? [(key, value)] key = some value := by
    rw [Entries.get?_cons, if_pos rfl]
  have erased : Entries.erase [(key, value)] key = [] := by simp [Entries.erase]
  rw [respell, List.foldl_cons, List.foldl_nil, held, erased]
  cases spelling? old key <;> rfl

theorem firstSpelling?_lower (name : String) (old : Entries)
    (clean : ∀ entry ∈ old, ∃ key, entry.1 = .text key ∧ ' ' ∉ (lower key).toList) :
    firstSpelling? name old =
      (old.find? fun entry => lowerKey entry == some (lower name)).map Prod.fst := by
  induction old with
  | nil => rfl
  | cons entry rest ih =>
      obtain ⟨⟨key, text, blank⟩, later⟩ := List.forall_mem_cons.mp clean
      obtain ⟨first, value⟩ := entry
      cases text
      have head : (lowerKey (.text key, value) == some (lower name)) = sameName key name := rfl
      rw [firstSpelling?, underscored_clean key blank, Bool.or_self, List.find?_cons, head, ih later]
      cases sameName key name <;> rfl

variable (names : List String) (old : Entries) (named : old.Named names)
  (clean : ∀ name ∈ names, ' ' ∉ name.toList) (spelling : String)
include named clean

/-- A name is spelled as the entry that has it, or as it is if none has it. -/
theorem spelling?_named : ∃ found, (spelling? old (.text spelling)).getD (.text spelling) = .text found ∧
    lower found = lower spelling ∧
      ∀ entry ∈ old, entry.1 = .text found ↔ lowerKey entry = some (lower spelling) := by
  have texts : ∀ entry ∈ old, ∃ key, entry.1 = .text key ∧ ' ' ∉ (lower key).toList := by
    intro entry here
    obtain ⟨name, member, small⟩ := named.known entry here
    obtain ⟨key, text, rfl⟩ := (Entries.lowerKey_eq_some entry name).mp small
    exact ⟨key, text, clean _ member⟩
  have same (entry : Value × Value) (found : String) (text : entry.1 = .text found) :
      lowerKey entry = some (lower found) := (Entries.lowerKey_eq_some entry _).mpr ⟨found, text, rfl⟩
  -- An entry that has the name is the only one.
  have only (entry : Value × Value) (here : entry ∈ old) (found : String)
      (text : entry.1 = .text found) (small : lower found = lower spelling) :
      ∀ other ∈ old, other.1 = .text found ↔ lowerKey other = some (lower spelling) := by
    intro other there
    constructor
    · intro text
      rw [same other found text, small]
    · intro lowered
      have equal := List.inj_on_of_nodup_map named.once here there
        ((same entry found text).trans ((congrArg some small).trans lowered.symm))
      exact equal ▸ text
  unfold spelling?
  by_cases present : (old.get? (.text spelling)).isSome = true
  · obtain ⟨entry, here, text⟩ := List.mem_map.mp ((old.get?_isSome _).mp present)
    rw [if_pos present]
    exact ⟨spelling, rfl, rfl, only entry here spelling text rfl⟩
  · rw [if_neg present]
    dsimp only
    rw [firstSpelling?_lower spelling old texts]
    cases found : old.find? fun entry => lowerKey entry == some (lower spelling) with
    | some entry =>
        have here := List.mem_of_find?_eq_some found
        have small : lowerKey entry = some (lower spelling) := by
          simpa using List.find?_some found
        obtain ⟨key, text, lowered⟩ := (Entries.lowerKey_eq_some entry _).mp small
        exact ⟨key, text, lowered, only entry here key text lowered⟩
    | none =>
        have missing := List.find?_eq_none.mp found
        refine ⟨spelling, rfl, rfl, fun entry here => ?_⟩
        have absent : lowerKey entry ≠ some (lower spelling) := by simpa using missing entry here
        exact iff_of_false (fun text => absent (same entry spelling text)) absent

theorem mergeEntries_single (value : Value) : ∃ found, lower found = lower spelling ∧
    mergeEntries old [(.text spelling, value)] =
      (.text found, value) :: old.filter fun entry => lowerKey entry ≠ some (lower spelling) := by
  obtain ⟨found, key, small, exact⟩ := spelling?_named names old named clean spelling
  refine ⟨found, small, ?_⟩
  rw [mergeEntries, respell_single, key]
  refine congrArg ((Value.text found, value) :: ·) (List.filter_congr fun entry here => ?_)
  rw [Entries.get?_cons]
  by_cases same : entry.1 = .text found
  · rw [if_pos same.symm]
    simpa using (exact entry here).mp same
  · rw [if_neg (Ne.symm same)]
    simpa [Entries.get?_nil] using fun small => same ((exact entry here).mpr small)

/-- A field that is merged into entries is the only change. -/
theorem merged_single (member : lower spelling ∈ names) (value : Value) :
    (mergeEntries old [(.text spelling, value)]).Named names ∧
      ∀ name, (mergeEntries old [(.text spelling, value)]).spelled? name =
        if name = lower spelling then some value else old.spelled? name := by
  obtain ⟨found, small, merged⟩ := mergeEntries_single names old named clean spelling value
  have head : lowerKey (.text found, value) = some (lower spelling) := congrArg some small
  rw [merged]
  refine ⟨⟨fun entry here => ?_, ?_⟩, fun name => ?_⟩
  · rcases List.mem_cons.mp here with rfl | kept
    · exact ⟨_, member, head⟩
    · exact named.known entry (List.mem_filter.mp kept).1
  · rw [List.map_cons, head]
    refine List.nodup_cons.mpr ⟨fun inside => ?_, (List.filter_sublist.map lowerKey).nodup named.once⟩
    obtain ⟨entry, kept, same⟩ := List.mem_map.mp inside
    exact absurd same (by simpa using (List.mem_filter.mp kept).2)
  · rw [Entries.spelled?_cons, head]
    by_cases same : name = lower spelling
    · rw [if_pos same, if_pos (congrArg some same.symm)]
    · rw [if_neg same, if_neg fun here => same (Option.some.inj here).symm,
        old.spelled?_filter _ name same]

end Sections

namespace Settings

open Sections Text

def Shaped (sections : Entries) : Prop :=
  ∀ entry ∈ sections, ∃ top ∈ sectionNames, ∃ inner,
    entry = (.text (upper top), .map inner) ∧ Entries.Named (fieldNames top) inner

namespace Shaped

variable (sections : Entries) (shape : Shaped sections)
include shape

theorem get?_section (top : String) (member : top ∈ sectionNames) :
    sections.get? (.text (upper top)) = sections.spelled? top := by
  have found := sections.get?_renamed id id (.text (upper top)) top (fun entry here => ?_)
    fun _ _ => rfl
  · rwa [List.map_id, Option.map_id] at found
  · obtain ⟨other, another, inner, rfl, -⟩ := shape entry here
    have small : Entries.lowerKey (.text (upper other), .map inner) = some other :=
      congrArg some (sectionNames_upper other another).1
    rw [small, Option.some.injEq]
    constructor
    · exact fun same => upper_injective other top another member (Value.text.inj same)
    · exact fun same => congrArg (fun name => Value.text (upper name)) same

/-- A section that is there is a map of its fields. -/
theorem section_map (top : String) (member : top ∈ sectionNames) (value : Value)
    (found : sections.spelled? top = some value) :
    ∃ inner, value = .map inner ∧ Entries.Named (fieldNames top) inner := by
  rw [← shape.get?_section sections top member] at found
  obtain ⟨other, another, inner, same, named⟩ := shape _ (sections.mem_of_get? _ _ found)
  obtain ⟨key, rfl⟩ := Prod.mk.inj same
  have tops := upper_injective top other member another (Value.text.inj key)
  exact ⟨inner, rfl, tops ▸ named⟩

/-- The value of a section after a field of it is set. -/
theorem mergeValues_field (top : String) (member : top ∈ sectionNames) (spelling : String)
    (inside : lower spelling ∈ fieldNames top) (value : Value) :
    ∃ inner, mergeValues (sections.spelled? top) (.map [(.text spelling, value)]) = .map inner ∧
      Entries.Named (fieldNames top) inner ∧ ∀ name, Entries.spelled? inner name =
        if name = lower spelling then some value else written? sections top name := by
  unfold written?
  cases found : sections.spelled? top with
  | none =>
      have head : Entries.lowerKey (.text spelling, value) = some (lower spelling) := rfl
      refine ⟨_, rfl, ⟨?_, List.nodup_singleton _⟩, fun name => ?_⟩
      · exact List.forall_mem_singleton.mpr ⟨_, inside, head⟩
      · rw [Entries.spelled?_cons, head]
        simp only [Option.some.injEq, eq_comm]
        rfl
  | some old =>
      obtain ⟨entries, rfl, named⟩ := shape.section_map sections top member old found
      obtain ⟨kept, change⟩ :=
        merged_single _ entries named (fieldNames_clean top member) spelling inside value
      exact ⟨_, rfl, kept, change⟩

theorem insert_section (top : String) (member : top ∈ sectionNames) (inner : Entries)
    (named : inner.Named (fieldNames top)) :
    Shaped (sections.insert (.text (upper top)) (.map inner)) := by
  intro entry here
  rcases sections.mem_insert _ _ entry here with rfl | old
  · exact ⟨top, member, inner, rfl, named⟩
  · exact shape entry old

end Shaped

structure Gathered (sections : Entries) (value? : String → String → Option Value) : Prop where
  shape : Shaped sections
  values : ∀ top ∈ sectionNames, ∀ field ∈ fieldNames top,
    written? sections top field = value? top field

theorem Written.gathered (entries : Entries) (written : Written entries) :
    Gathered (entries.map capitalEntry) (written? entries) := by
  refine ⟨fun entry here => ?_, fun top _ field _ => ?_⟩
  · obtain ⟨source, inside, rfl⟩ := List.mem_map.mp here
    obtain ⟨top, member, inner, small, map, named, -⟩ := written.sections source inside
    rw [capitalEntry_section source top member small, map]
    exact ⟨top, member, inner, rfl, named⟩
  · have same : Entries.Respelled (entries.map capitalEntry) entries := by
      refine List.forall₂_map_left_iff.mpr (List.forall₂_same.mpr fun entry here => ⟨?_, rfl⟩)
      obtain ⟨top, member, -, small, -⟩ := written.sections entry here
      rw [capitalEntry_section entry top member small, small]
      exact congrArg some (sectionNames_upper top member).1
    rw [written?, same.spelled?, written?]

/-- A variable sets its field and no other. -/
theorem Gathered.receive_field (sections : Entries) (value? : String → String → Option Value)
    (gathered : Gathered sections value?) (top field name : String) (member : top ∈ sectionNames)
    (inside : field ∈ fieldNames top) (same : lower name = variableName top field) (value : Value) :
    Gathered (receive sections (placed name value)) fun other another =>
      if other = top ∧ another = field then some value else value? other another := by
  obtain ⟨spelling, rfl, place⟩ := placed_variable top field name member inside same value
  obtain ⟨inner, merged, named, change⟩ :=
    gathered.shape.mergeValues_field sections top member spelling inside value
  have shape := gathered.shape.insert_section sections top member inner named
  have after : receive sections (placed name value) =
      sections.insert (.text (upper top)) (.map inner) := by
    rw [place, receive, gathered.shape.get?_section sections top member, merged]
  rw [after]
  refine ⟨shape, fun other another label known => ?_⟩
  rw [written?, ← shape.get?_section _ other another, Entries.get?_insert]
  by_cases here : top = other
  · subst here
    rw [if_pos rfl]
    refine (change label).trans ?_
    rw [gathered.values top member label known]
    simp only [true_and]
  · have apart : Value.text (upper top) ≠ .text (upper other) := fun same =>
      here (upper_injective top other member another (Value.text.inj same))
    rw [if_neg apart, if_neg fun both => here both.1.symm,
      gathered.shape.get?_section sections other another]
    exact gathered.values other another label known

structure SetsFields (overrides : List (String × Value)) : Prop where
  once : (overrides.map fun set => Text.lower set.1).Nodup
  known : ∀ set ∈ overrides, ∃ top ∈ sectionNames, ∃ field ∈ fieldNames top,
    Text.lower set.1 = variableName top field

def set? (overrides : List (String × Value)) (top field : String) : Option Value :=
  (overrides.find? fun set => Text.lower set.1 == variableName top field).map Prod.snd

theorem set?_cons (first : String × Value) (rest : List (String × Value)) (top field : String) :
    set? (first :: rest) top field =
      if lower first.1 = variableName top field then some first.2 else set? rest top field := by
  unfold set?
  by_cases same : lower first.1 = variableName top field
  · rw [if_pos same, List.find?_cons_of_pos (by simpa using same)]
    rfl
  · rw [if_neg same, List.find?_cons_of_neg (by simpa using same)]

/-- After all variables, each field has the value that is set for it, or else the
    one that it had. -/
theorem Gathered.receive_all (sections : Entries) (value? : String → String → Option Value)
    (gathered : Gathered sections value?) (overrides : List (String × Value))
    (sets : SetsFields overrides) :
    Gathered ((overrides.map fun set => placed set.1 set.2).foldl receive sections)
      fun top field => (set? overrides top field).or (value? top field) := by
  induction overrides generalizing sections value? with
  | nil => exact ⟨gathered.shape, gathered.values⟩
  | cons first rest ih =>
      obtain ⟨fresh, once⟩ := List.nodup_cons.mp sets.once
      obtain ⟨here, later⟩ := List.forall_mem_cons.mp sets.known
      obtain ⟨top, member, field, inside, name⟩ := here
      have next := ih _ _ (gathered.receive_field sections value? top field first.1 member inside
        name first.2) ⟨once, later⟩
      refine ⟨next.shape, fun other another label known => ?_⟩
      refine (next.values other another label known).trans ?_
      rw [set?_cons, name]
      by_cases same : variableName top field = variableName other label
      · obtain ⟨rfl, rfl⟩ := variableName_injective top member field inside other another label known same
        have unset : set? rest top field = none := by
          rw [set?, Option.map_eq_none_iff, List.find?_eq_none]
          intro set there again
          exact fresh (List.mem_map.mpr ⟨set, there, (eq_of_beq again).trans name.symm⟩)
        simp [unset]
      · have apart : ¬ (other = top ∧ label = field) := by
          rintro ⟨rfl, rfl⟩
          exact same rfl
        rw [if_neg same, if_neg apart]

end Settings

end EventRetention
