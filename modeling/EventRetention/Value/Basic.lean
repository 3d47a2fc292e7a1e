import EventRetention.Number.Binary64

/-!
Document values: what a settings document or a log field may hold. Keys of a
map are values too, and keep the order in which they were first written.
-/

namespace EventRetention

inductive Value where
  | null
  | bool (b : Bool)
  | int (n : Int)
  | real (x : Binary64)
  | text (s : String)
  | moment (s : String)
  | list (items : List Value)
  | map (entries : List (Value × Value))
deriving Repr, Inhabited

namespace Value

mutual

/-- Whether two values are the same; reals are compared by their parts. -/
def same : Value → Value → Bool
  | null, null => true
  | bool a, bool b => a == b
  | int a, int b => a == b
  | real x, real y => x == y
  | text a, text b => a == b
  | moment a, moment b => a == b
  | list items, list others => sameItems items others
  | map entries, map others => sameEntries entries others
  | _, _ => false

def sameItems : List Value → List Value → Bool
  | [], [] => true
  | item :: rest, other :: others => same item other && sameItems rest others
  | _, _ => false

def sameEntries : List (Value × Value) → List (Value × Value) → Bool
  | [], [] => true
  | (key, value) :: rest, (otherKey, other) :: others =>
      same key otherKey && same value other && sameEntries rest others
  | _, _ => false

end

instance : BEq Value := ⟨same⟩

mutual

theorem same_iff (a b : Value) : same a b = true ↔ a = b := by
  cases a with
  | list items =>
      cases b with
      | list others => simp only [same, list.injEq, sameItems_iff items others]
      | _ => simp [same]
  | map entries =>
      cases b with
      | map others => simp only [same, map.injEq, sameEntries_iff entries others]
      | _ => simp [same]
  | _ => cases b <;> simp [same]

theorem sameItems_iff (items others : List Value) :
    sameItems items others = true ↔ items = others := by
  cases items with
  | nil => cases others <;> simp [sameItems]
  | cons item rest =>
      cases others with
      | nil => simp [sameItems]
      | cons other others => simp [sameItems, same_iff item other, sameItems_iff rest others]

theorem sameEntries_iff (entries others : List (Value × Value)) :
    sameEntries entries others = true ↔ entries = others := by
  cases entries with
  | nil => cases others <;> simp [sameEntries]
  | cons entry rest =>
      obtain ⟨key, value⟩ := entry
      cases others with
      | nil => simp [sameEntries]
      | cons other others =>
          simp [sameEntries, same_iff key other.1, same_iff value other.2,
            sameEntries_iff rest others, Prod.ext_iff]

end

instance : LawfulBEq Value where
  eq_of_beq := (same_iff _ _).mp
  rfl := (same_iff _ _).mpr rfl

end Value

abbrev Entries := List (Value × Value)

namespace Entries

def insert (entries : Entries) (key value : Value) : Entries :=
  match entries with
  | [] => [(key, value)]
  | (k, v) :: rest =>
      if k == key then (k, value) :: rest else (k, v) :: Entries.insert rest key value

def get? (entries : Entries) (key : Value) : Option Value :=
  (entries.find? fun entry => entry.1 == key).map Prod.snd

def field? (entries : Entries) (name : String) : Option Value :=
  Entries.get? entries (.text name)

def erase (entries : Entries) (key : Value) : Entries := entries.filter fun entry => entry.1 != key

def merge (entries others : Entries) : Entries :=
  others.foldl (fun all entry => Entries.insert all entry.1 entry.2) entries

end Entries

namespace Value

def entries? : Value → Option Entries
  | .map entries => some entries
  | _ => none

def text? : Value → Option String
  | .text s => some s
  | _ => none

end Value

end EventRetention
