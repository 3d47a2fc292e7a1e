import EventRetention.Proofs.DecimalText
import EventRetention.Toml.Reader
import EventRetention.Yaml.Quoted

/-!
Words of letters, digits and underscores. In quotes of any kind a word stands for
itself, as no character of it has a meaning of its own there.
-/

namespace EventRetention

namespace Text

def isWordCharacter (c : Char) : Bool :=
  c.isDigit || (65 ≤ c.toNat && c.toNat ≤ 90) || (97 ≤ c.toNat && c.toNat ≤ 122) || c = '_'

def IsWord (word : List Char) : Prop := ∀ c ∈ word, isWordCharacter c = true

instance (word : List Char) : Decidable (IsWord word) :=
  decidable_of_iff (word.all isWordCharacter = true) List.all_eq_true

theorem IsWord.tail (c : Char) (rest : List Char) (word : IsWord (c :: rest)) : IsWord rest :=
  (List.forall_mem_cons.mp word).2

theorem Decimal.isWord (digits : List Char) (n : Nat) (decimal : Decimal digits n) :
    IsWord digits := fun c here => by
  simp [isWordCharacter, decimal.all c here]

theorem word_ne (c mark : Char) (word : isWordCharacter c = true)
    (other : isWordCharacter mark = false) : c ≠ mark := by
  rintro rfl
  rw [word] at other
  cases other

theorem word_range (c : Char) (word : isWordCharacter c = true) :
    48 ≤ c.toNat ∧ c.toNat ≤ 122 := by
  simp only [isWordCharacter, isDigit_range, Bool.or_eq_true, Bool.and_eq_true,
    decide_eq_true_eq] at word
  rcases word with ((digit | capital) | small) | rfl
  · omega
  · omega
  · omega
  · decide

end Text

namespace Json

open Text

theorem stringRest_word (start fuel : Nat) (done word rest : List Char) (isWord : IsWord word)
    (enough : word.length < fuel) :
    stringRest start fuel done (word ++ '"' :: rest) =
      .ok (String.ofList (done.reverse ++ word), rest) := by
  induction word generalizing done fuel with
  | nil =>
      obtain ⟨fuel, rfl⟩ := Nat.exists_eq_succ_of_ne_zero (Nat.ne_of_gt enough)
      rw [List.nil_append, stringRest, List.append_nil]
  | cons c word ih =>
      obtain ⟨fuel, rfl⟩ := Nat.exists_eq_succ_of_ne_zero (Nat.ne_of_gt (Nat.zero_lt_of_lt enough))
      have here := isWord c List.mem_cons_self
      have visible : ¬ c.toNat < 0x20 := by
        have := (word_range c here).1
        omega
      rw [List.cons_append, stringRest, if_neg visible,
        ih fuel (c :: done) (isWord.tail c word) (Nat.lt_of_succ_lt_succ enough), List.reverse_cons,
        List.append_assoc, List.singleton_append]
      · exact word_ne c '"' here rfl
      · exact word_ne c '\\' here rfl

end Json

namespace Toml

open Text

theorem word_control (c : Char) (word : isWordCharacter c = true) : isControl c = false := by
  obtain ⟨low, high⟩ := word_range c word
  simp only [isControl, Bool.or_eq_false_iff, Bool.and_eq_false_iff, decide_eq_false_iff_not]
  omega

theorem basicText_word (fuel : Nat) (word rest : List Char) (isWord : IsWord word)
    (enough : word.length < fuel) : basicText fuel (word ++ '"' :: rest) = some (word, rest) := by
  induction word generalizing fuel with
  | nil =>
      obtain ⟨fuel, rfl⟩ := Nat.exists_eq_succ_of_ne_zero (Nat.ne_of_gt enough)
      rw [List.nil_append, basicText, if_pos rfl]
  | cons c word ih =>
      obtain ⟨fuel, rfl⟩ := Nat.exists_eq_succ_of_ne_zero (Nat.ne_of_gt (Nat.zero_lt_of_lt enough))
      have here := isWord c List.mem_cons_self
      rw [List.cons_append, basicText, if_neg (word_ne c '"' here rfl), if_neg (word_ne c '\\' here rfl),
        word_control c here, if_neg Bool.false_ne_true,
        ih fuel (isWord.tail c word) (Nat.lt_of_succ_lt_succ enough)]
      rfl

theorem literalText_word (word rest : List Char) (isWord : IsWord word) :
    literalText (word ++ '\'' :: rest) = some (word, rest) := by
  have body : (word ++ '\'' :: rest).takeWhile (· ≠ '\'') = word := by
    have inside (c : Char) (here : c ∈ word) : decide (c ≠ '\'') = true :=
      decide_eq_true (word_ne c '\'' (isWord c here) rfl)
    rw [List.takeWhile_append_of_pos inside, List.takeWhile_cons_of_neg (by simp), List.append_nil]
  have clean : word.any isControl = false :=
    List.any_eq_false.mpr fun c here => by rw [word_control c (isWord c here)]; exact Bool.false_ne_true
  simp only [literalText, body, clean, Bool.false_eq_true, if_false, List.drop_left]

end Toml

namespace Yaml

open Text

theorem word_break (c : Char) (word : isWordCharacter c = true) : isBreak c = false := by
  have apart (mark : Char) (other : isWordCharacter mark = false) : decide (c = mark) = false :=
    decide_eq_false (word_ne c mark word other)
  simp only [isBreak, apart '\n' rfl, apart '\r' rfl, apart '\x85' rfl, apart '\u2028' rfl,
    apart '\u2029' rfl, Bool.or_false]

theorem doubleQuoted_word (fuel : Nat) (word rest : List Char) (isWord : IsWord word)
    (enough : word.length < fuel) : doubleQuoted fuel (word ++ '"' :: rest) = some (word, rest) := by
  induction word generalizing fuel with
  | nil =>
      obtain ⟨fuel, rfl⟩ := Nat.exists_eq_succ_of_ne_zero (Nat.ne_of_gt enough)
      rw [List.nil_append, doubleQuoted, if_pos rfl]
  | cons c word ih =>
      obtain ⟨fuel, rfl⟩ := Nat.exists_eq_succ_of_ne_zero (Nat.ne_of_gt (Nat.zero_lt_of_lt enough))
      have here := isWord c List.mem_cons_self
      have plain : ¬ (decide (c = ' ') || decide (c = '\t') || isBreak c) = true := by
        simp [word_break c here, word_ne c ' ' here rfl, word_ne c '\t' here rfl]
      rw [List.cons_append, doubleQuoted]
      dsimp only
      rw [if_neg (word_ne c '"' here rfl), if_neg (word_ne c '\\' here rfl), if_neg plain]
      rw [Option.bind_eq_bind, Option.bind_some,
        ih fuel (isWord.tail c word) (Nat.lt_of_succ_lt_succ enough)]
      rfl

theorem singleQuoted_word (fuel : Nat) (word rest : List Char) (isWord : IsWord word)
    (last : rest.head? ≠ some '\'') (enough : word.length < fuel) :
    singleQuoted fuel (word ++ '\'' :: rest) = some (word, rest) := by
  induction word generalizing fuel with
  | nil =>
      obtain ⟨fuel, rfl⟩ := Nat.exists_eq_succ_of_ne_zero (Nat.ne_of_gt enough)
      rw [List.nil_append, singleQuoted]
      · rw [if_pos rfl]
      · rintro more rfl
        exact last rfl
  | cons c word ih =>
      obtain ⟨fuel, rfl⟩ := Nat.exists_eq_succ_of_ne_zero (Nat.ne_of_gt (Nat.zero_lt_of_lt enough))
      have here := isWord c List.mem_cons_self
      have plain : ¬ (decide (c = ' ') || decide (c = '\t') || isBreak c) = true := by
        simp [word_break c here, word_ne c ' ' here rfl, word_ne c '\t' here rfl]
      rw [List.cons_append]
      unfold singleQuoted
      dsimp only
      rw [if_neg (word_ne c '\'' here rfl), if_neg plain]
      rw [Option.bind_eq_bind, Option.bind_some,
        ih fuel (isWord.tail c word) (Nat.lt_of_succ_lt_succ enough)]
      rfl

end Yaml

end EventRetention
