import EventRetention.Settings.Sections

/-!
Names in different letter cases. Where a name in small letters has no k, its
capital form is the same in every letter case; the marks that split a name, and
the characters that are cut off around its parts, have no other case.
-/

namespace EventRetention

namespace Text

theorem small_cases (c : Char) : small c = c ∨
    (∃ n : Fin 26, c = Char.ofNat (n + 65) ∧ small c = Char.ofNat (n + 97)) ∨
      c = Char.ofNat 0x212A ∧ small c = 'k' := by
  unfold small
  by_cases letter : 'A' ≤ c ∧ c ≤ 'Z'
  · have low : 65 ≤ c.toNat := letter.1
    have high : c.toNat ≤ 90 := letter.2
    refine Or.inr (Or.inl ⟨⟨c.toNat - 65, by omega⟩, ?_, ?_⟩)
    · rw [Nat.sub_add_cancel low, Char.ofNat_toNat]
    · rw [if_pos letter]
      congr 1
      change c.toNat + 32 = c.toNat - 65 + 97
      omega
  · rw [if_neg letter]
    by_cases kelvin : c.toNat = 0x212A
    · rw [if_pos kelvin, ← kelvin, Char.ofNat_toNat]
      exact Or.inr (Or.inr ⟨rfl, rfl⟩)
    · rw [if_neg kelvin]
      exact Or.inl rfl

theorem capital_letter (n : Fin 26) :
    capital (Char.ofNat (n + 97)) = capital (Char.ofNat (n + 65)) := by
  revert n
  decide

theorem capital_small (c : Char) (other : small c ≠ 'k') : capital (small c) = capital c := by
  rcases small_cases c with same | ⟨n, rfl, letter⟩ | ⟨-, kelvin⟩
  · rw [same]
  · rw [letter, capital_letter]
  · exact absurd kelvin other

/-- A character that is no letter is small only of itself. -/
theorem small_eq_iff (c mark : Char) (plain : small mark = mark)
    (other : ∀ n : Fin 26, Char.ofNat (n + 97) ≠ mark) : small c = mark ↔ c = mark := by
  constructor
  · intro same
    rcases small_cases c with plain | ⟨n, -, letter⟩ | ⟨-, kelvin⟩
    · exact plain.symm.trans same
    · exact absurd (letter.symm.trans same) (other n)
    · exact absurd (kelvin.symm.trans same) (other 10)
  · rintro rfl
    exact plain

theorem isSpacing_letter (n : Fin 26) :
    isSpacing (Char.ofNat (n + 97)) = false ∧ isSpacing (Char.ofNat (n + 65)) = false := by
  revert n
  decide

theorem isSpacing_small (c : Char) : isSpacing (small c) = isSpacing c := by
  rcases small_cases c with same | ⟨n, rfl, letter⟩ | ⟨rfl, kelvin⟩
  · rw [same]
  · rw [letter, (isSpacing_letter n).1, (isSpacing_letter n).2]
  · rw [kelvin]
    decide

theorem toList_lower (s : String) : (lower s).toList = s.toList.map small := String.toList_ofList

theorem upper_lower (s : String) (other : 'k' ∉ (lower s).toList) : upper (lower s) = upper s := by
  rw [toList_lower] at other
  have capitals : (s.toList.map small).map capital = s.toList.map capital := by
    rw [List.map_map]
    exact List.map_congr_left fun c here =>
      capital_small c fun same => other (List.mem_map.mpr ⟨c, here, same⟩)
  unfold upper
  rw [toList_lower, List.flatMap_def, capitals, List.flatMap_def]

theorem trimBy_clean (drop : Char → Bool) (text : List Char) (clean : ∀ c ∈ text, drop c = false) :
    trimBy drop text = text := by
  have kept (text : List Char) (clean : ∀ c ∈ text, drop c = false) : text.dropWhile drop = text := by
    cases text with
    | nil => rfl
    | cons c rest => rw [List.dropWhile_cons, clean c List.mem_cons_self, if_neg Bool.false_ne_true]
  unfold trimBy trimEndBy
  rw [kept text clean, kept text.reverse fun c here => clean c (List.mem_reverse.mp here),
    List.reverse_reverse]

theorem trim_named (text : List Char) (clean : (text.map small).any isSpacing = false) :
    trimBy isSpacing text = text := by
  refine trimBy_clean isSpacing text fun c here => ?_
  rw [← isSpacing_small c]
  exact Bool.eq_false_iff.mpr (List.any_eq_false.mp clean _ (List.mem_map.mpr ⟨c, here, rfl⟩))

end Text

namespace Sections

open Text

theorem splitName_ne_nil (name : List Char) : splitName name ≠ [] := by
  fun_cases splitName name <;> simp

theorem splitName_plain (c : Char) (rest : List Char) (dot : c ≠ '.')
    (single : c = '_' → ∀ more, rest ≠ '_' :: more) :
    splitName (c :: rest) =
      (c :: (splitName rest).headD []) :: (splitName rest).tail := by
  rw [splitName]
  · cases splitName rest <;> rfl
  · exact fun more mark same => single mark more same
  · exact dot

theorem splitName_small (name : List Char) :
    splitName (name.map small) = (splitName name).map (List.map small) := by
  have mark (c : Char) : small c = '_' ↔ c = '_' := small_eq_iff c '_' (by decide) (by decide)
  have dot (c : Char) : small c = '.' ↔ c = '.' := small_eq_iff c '.' (by decide) (by decide)
  induction name using splitName.induct with
  | case1 => rfl
  | case2 rest ih => exact congrArg ([] :: ·) ih
  | case3 rest ih => exact congrArg ([] :: ·) ih
  | case4 c rest single other part parts found ih =>
      have apart : small c = '_' → ∀ more, rest.map small ≠ '_' :: more := by
        intro same more follows
        cases rest with
        | nil => cases follows
        | cons next rest =>
            obtain ⟨second, -⟩ := List.cons.inj follows
            exact single rest ((mark c).mp same) (congrArg (· :: rest) ((mark next).mp second))
      rw [splitName_plain c rest other fun mark more => single more mark, List.map_cons,
        splitName_plain _ _ (fun same => other ((dot c).mp same)) apart, ih, found]
      rfl
  | case5 c rest single other found ih => exact absurd found (splitName_ne_nil rest)

theorem capitalStart_go (name : List Char) (single : '_' ∉ name) :
    capitalStart.go name = name.flatMap capital := by
  fun_induction capitalStart.go name with
  | case1 => rfl
  | case2 rest => exact absurd List.mem_cons_self single
  | case3 c rest other ih =>
      rw [ih fun inside => single (List.mem_cons_of_mem c inside), List.flatMap_cons]

theorem mem_lower (name : String) (mark : Char) (plain : small mark = mark)
    (absent : mark ∉ (lower name).toList) : mark ∉ name.toList := fun inside =>
  absent (toList_lower name ▸ List.mem_map.mpr ⟨mark, inside, plain⟩)

theorem capitalStart_whole (name : String) (single : '_' ∉ (lower name).toList) :
    capitalStart name = upper name :=
  congrArg String.ofList (capitalStart_go name.toList (mem_lower name '_' (by decide) single))

theorem underscored_clean (name : String) (clean : ' ' ∉ (lower name).toList) :
    underscored name = name := by
  have blank := mem_lower name ' ' (by decide) clean
  have same : (name.toList.map fun c => if c = ' ' then '_' else c) = name.toList := by
    refine (List.map_congr_left fun c here => if_neg ?_).trans (List.map_id name.toList)
    rintro rfl
    exact blank here
  rw [underscored, same, String.ofList_toList]

end Sections

end EventRetention
