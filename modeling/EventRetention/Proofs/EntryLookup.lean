import EventRetention.Text.LetterCase
import EventRetention.Value.Display
import Mathlib.Data.List.Forall2
import Mathlib.Data.List.Nodup

/-!
Looking entries up, by key and by name. A name is found in whatever letter case
its key is written. Entries that are put in with other keys leave an entry where
it is found.
-/

namespace EventRetention

instance : DecidableEq Value := instDecidableEqOfLawfulBEq

namespace Entries

def keys (entries : Entries) : List Value := entries.map Prod.fst

theorem map_eq_of_forall₂ (related : α → β → Prop) (first : α → γ) (second : β → γ)
    (agree : ∀ a b, related a b → first a = second b) (items : List α) (others : List β)
    (same : List.Forall₂ related items others) : items.map first = others.map second := by
  induction same with
  | nil => rfl
  | cons head _ ih => rw [List.map_cons, List.map_cons, agree _ _ head, ih]

theorem exists_of_map_eq (first : α → γ) (second : β → γ) (items : List α) (others : List β)
    (same : items.map first = others.map second) (other : β) (here : other ∈ others) :
    ∃ item ∈ items, first item = second other := by
  have key : second other ∈ items.map first := same ▸ List.mem_map.mpr ⟨other, here, rfl⟩
  exact List.mem_map.mp key

/-- Where items differ in one way, they differ in a way that tells as much. -/
theorem nodup_map_of (first : α → β) (second : α → γ) (items : List α)
    (once : (items.map first).Nodup)
    (tells : ∀ a ∈ items, ∀ b ∈ items, second a = second b → first a = first b) :
    (items.map second).Nodup :=
  List.pairwise_map.mpr ((List.pairwise_map.mp once).imp_of_mem fun here there apart same =>
    apart (tells _ here _ there same))

theorem keys_cons (entry : Value × Value) (rest : Entries) :
    keys (entry :: rest) = entry.1 :: keys rest := rfl

theorem keys_append (entries others : Entries) :
    keys (entries ++ others) = entries.keys ++ others.keys := List.map_append

theorem get?_nil (key : Value) : get? [] key = none := rfl

theorem get?_cons (first value key : Value) (rest : Entries) :
    get? ((first, value) :: rest) key = if first = key then some value else get? rest key := by
  unfold get?
  by_cases same : first = key
  · rw [if_pos same, List.find?_cons_of_pos (by simpa using same)]
    rfl
  · rw [if_neg same, List.find?_cons_of_neg (by simpa using same)]

theorem insert_nil (key value : Value) : insert [] key value = [(key, value)] := rfl

theorem insert_cons (first old key value : Value) (rest : Entries) :
    insert ((first, old) :: rest) key value =
      if first = key then (first, value) :: rest else (first, old) :: insert rest key value := by
  simp only [insert, beq_iff_eq]

theorem get?_insert (entries : Entries) (key value other : Value) :
    (insert entries key value).get? other =
      if key = other then some value else entries.get? other := by
  induction entries with
  | nil => rw [insert_nil, get?_cons]
  | cons entry rest ih =>
      obtain ⟨first, old⟩ := entry
      rw [insert_cons]
      by_cases same : first = key
      · subst same
        rw [if_pos rfl, get?_cons, get?_cons]
        split <;> rfl
      · rw [if_neg same, get?_cons, get?_cons, ih]
        by_cases here : first = other
        · subst here
          rw [if_pos rfl, if_pos rfl, if_neg (Ne.symm same)]
        · rw [if_neg here, if_neg here]

theorem insert_fresh (entries : Entries) (key value : Value) (fresh : key ∉ entries.keys) :
    insert entries key value = entries ++ [(key, value)] := by
  induction entries with
  | nil => rfl
  | cons entry rest ih =>
      obtain ⟨first, old⟩ := entry
      obtain ⟨other, absent⟩ := List.ne_and_not_mem_of_not_mem_cons fresh
      rw [insert_cons, if_neg (Ne.symm other), ih absent, List.cons_append]

theorem keys_insert (entries : Entries) (key value : Value) :
    (insert entries key value).keys =
      if key ∈ entries.keys then entries.keys else entries.keys ++ [key] := by
  induction entries with
  | nil => rfl
  | cons entry rest ih =>
      obtain ⟨first, old⟩ := entry
      rw [insert_cons]
      by_cases same : first = key
      · rw [if_pos same, keys_cons, keys_cons, if_pos (same ▸ List.mem_cons_self)]
      · have apart : key ∈ first :: keys rest ↔ key ∈ keys rest :=
          List.mem_cons.trans (or_iff_right (Ne.symm same))
        rw [if_neg same, keys_cons, keys_cons, ih]
        simp only [apart]
        split <;> rfl

theorem keys_insert_nodup (entries : Entries) (key value : Value) (single : entries.keys.Nodup) :
    (insert entries key value).keys.Nodup := by
  rw [keys_insert]
  by_cases present : key ∈ entries.keys
  · rwa [if_pos present]
  · rw [if_neg present]
    refine List.nodup_append.mpr ⟨single, by simp, fun other inside last here same => ?_⟩
    cases List.mem_singleton.mp here
    exact present (same ▸ inside)

theorem erase_insert (entries : Entries) (key value : Value) :
    (entries.insert key value).erase key = entries.erase key := by
  induction entries with
  | nil => simp [insert_nil, erase]
  | cons entry rest ih =>
      obtain ⟨first, old⟩ := entry
      rw [insert_cons]
      unfold erase at ih ⊢
      split
      · rename_i same
        simp [same]
      · simp only [List.filter_cons, ih]

theorem get?_isSome (entries : Entries) (key : Value) :
    (entries.get? key).isSome ↔ key ∈ entries.keys := by
  induction entries with
  | nil => simp [get?_nil, keys]
  | cons entry rest ih =>
      obtain ⟨first, value⟩ := entry
      rw [get?_cons]
      by_cases same : first = key
      · simp [same, keys]
      · rw [if_neg same, ih]
        exact (List.mem_cons.trans (or_iff_right (Ne.symm same))).symm

theorem get?_eq_none (entries : Entries) (key : Value) :
    entries.get? key = none ↔ key ∉ entries.keys := by
  rw [← get?_isSome, Option.not_isSome_iff_eq_none]

theorem mem_of_get? (entries : Entries) (key value : Value) (found : entries.get? key = some value) :
    (key, value) ∈ entries := by
  obtain ⟨entry, hit, rfl⟩ := Option.map_eq_some_iff.mp found
  have same : (entry.1 == key) = true := by
    simpa using List.find?_some hit
  rw [← eq_of_beq same]
  exact List.mem_of_find?_eq_some hit

theorem get?_of_mem (entries : Entries) (key value : Value) (single : entries.keys.Nodup)
    (member : (key, value) ∈ entries) : entries.get? key = some value := by
  induction entries with
  | nil => cases member
  | cons entry rest ih =>
      obtain ⟨first, old⟩ := entry
      obtain ⟨fresh, single⟩ := List.nodup_cons.mp single
      rw [get?_cons]
      rcases List.mem_cons.mp member with same | later
      · cases same
        rw [if_pos rfl]
      · have other : first ≠ key := fun same =>
          fresh (same ▸ List.mem_map.mpr ⟨(key, value), later, rfl⟩)
        rw [if_neg other, ih single later]

def lowerKey (entry : Value × Value) : Option String := entry.1.text?.map Text.lower

def spelled? (entries : Entries) (name : String) : Option Value :=
  (entries.find? fun entry => lowerKey entry == some name).map Prod.snd

structure Named (names : List String) (entries : Entries) : Prop where
  known : ∀ entry ∈ entries, ∃ name ∈ names, lowerKey entry = some name
  once : (entries.map lowerKey).Nodup

theorem lowerKey_eq_some (entry : Value × Value) (name : String) :
    lowerKey entry = some name ↔ ∃ spelling, entry.1 = .text spelling ∧ Text.lower spelling = name := by
  unfold lowerKey
  cases entry.1 <;> simp [Value.text?]

theorem lower_plain (entry : Value × Value) (name : String) (small : lowerKey entry = some name) :
    Text.lower entry.1.plain = name := by
  obtain ⟨spelling, text, rfl⟩ := (lowerKey_eq_some entry name).mp small
  rw [text]
  rfl

theorem spelled?_cons (entry : Value × Value) (rest : Entries) (name : String) :
    spelled? (entry :: rest) name =
      if lowerKey entry = some name then some entry.2 else spelled? rest name := by
  unfold spelled?
  by_cases same : lowerKey entry = some name
  · rw [if_pos same, List.find?_cons_of_pos (by simpa using same)]
    rfl
  · rw [if_neg same, List.find?_cons_of_neg (by simpa using same)]

theorem spelled?_filter (entries : Entries) (name other : String) (apart : other ≠ name) :
    spelled? (entries.filter fun entry => lowerKey entry ≠ some name) other =
      entries.spelled? other := by
  induction entries with
  | nil => rfl
  | cons entry rest ih =>
      by_cases same : lowerKey entry = some name
      · have passed : lowerKey entry ≠ some other := fun here =>
          apart (Option.some.inj (here.symm.trans same))
        rw [List.filter_cons_of_neg (by simpa using same), ih, spelled?_cons, if_neg passed]
      · rw [List.filter_cons_of_pos (by simpa using same), spelled?_cons, spelled?_cons, ih]

def Respelled (entries others : Entries) : Prop :=
  List.Forall₂ (fun entry other => lowerKey entry = lowerKey other ∧ entry.2 = other.2) entries others

theorem Respelled.lowerKeys (entries others : Entries) (same : Respelled entries others) :
    entries.map lowerKey = others.map lowerKey :=
  map_eq_of_forall₂ _ _ _ (fun _ _ head => head.1) entries others same

theorem Respelled.spelled? (entries others : Entries) (same : Respelled entries others)
    (name : String) : entries.spelled? name = others.spelled? name := by
  induction same with
  | nil => rfl
  | cons head _ ih => rw [spelled?_cons, spelled?_cons, head.1, head.2, ih]

theorem Respelled.named (names : List String) (entries others : Entries)
    (same : Respelled entries others) (named : entries.Named names) : others.Named names := by
  refine ⟨fun other here => ?_, same.lowerKeys ▸ named.once⟩
  obtain ⟨entry, inside, keys⟩ := exists_of_map_eq _ _ _ _ same.lowerKeys other here
  rw [← keys]
  exact named.known entry inside

theorem Respelled.forall_values (p : Value → Prop) (entries others : Entries)
    (same : Respelled entries others) (all : ∀ entry ∈ entries, p entry.2) :
    ∀ other ∈ others, p other.2 := by
  induction same with
  | nil => simp
  | cons head _ ih =>
      obtain ⟨here, later⟩ := List.forall_mem_cons.mp all
      exact List.forall_mem_cons.mpr ⟨head.2 ▸ here, ih later⟩

/-- Entries that a renaming puts under a key are found there. -/
theorem get?_renamed (entries : Entries) (rename : Value × Value → Value × Value)
    (change : Value → Value) (key : Value) (name : String)
    (moved : ∀ entry ∈ entries, (rename entry).1 = key ↔ lowerKey entry = some name)
    (changed : ∀ entry ∈ entries, (rename entry).2 = change entry.2) :
    get? (entries.map rename) key = (entries.spelled? name).map change := by
  induction entries with
  | nil => rfl
  | cons entry rest ih =>
      obtain ⟨here, later⟩ := List.forall_mem_cons.mp moved
      obtain ⟨same, others⟩ := List.forall_mem_cons.mp changed
      rw [List.map_cons, get?_cons, spelled?_cons, ih later others, same]
      simp only [here]
      split <;> rfl

theorem mem_insert (entries : Entries) (key value : Value) (entry : Value × Value)
    (here : entry ∈ insert entries key value) : entry = (key, value) ∨ entry ∈ entries := by
  induction entries with
  | nil => exact Or.inl (List.mem_singleton.mp here)
  | cons first rest ih =>
      obtain ⟨other, old⟩ := first
      rw [insert_cons] at here
      by_cases same : other = key
      · rw [if_pos same, same] at here
        exact (List.mem_cons.mp here).imp_right (List.mem_cons_of_mem _)
      · rw [if_neg same] at here
        rcases List.mem_cons.mp here with rfl | later
        · exact Or.inr List.mem_cons_self
        · exact (ih later).imp_right (List.mem_cons_of_mem _)

/-- Items that each append their entry, as long as its key is new, append all of
    them. -/
theorem foldl_append_fresh (grow : Entries → α → Entries) (entry : α → Value × Value)
    (appends : ∀ all item, (entry item).1 ∉ keys all → grow all item = all ++ [entry item])
    (items : List α) (all : Entries) (fresh : (all.keys ++ keys (items.map entry)).Nodup) :
    items.foldl grow all = all ++ items.map entry := by
  induction items generalizing all with
  | nil => simp
  | cons item rest ih =>
      have absent : (entry item).1 ∉ all.keys := fun inside =>
        (List.nodup_append.mp fresh).2.2 _ inside _ List.mem_cons_self rfl
      rw [List.foldl_cons, appends all item absent, ih]
      · simp
      · simpa [keys_append, keys] using fresh

theorem foldl_insert_fresh (entry : α → Value × Value) (items : List α) (all : Entries)
    (fresh : (all.keys ++ keys (items.map entry)).Nodup) :
    items.foldl (fun all item => insert all (entry item).1 (entry item).2) all =
      all ++ items.map entry :=
  foldl_append_fresh _ entry (fun all _ => all.insert_fresh _ _) items all fresh

end Entries

end EventRetention
