import EventRetention.Proofs.WordText
import EventRetention.Settings.Conversion

/-!
Decimal text where settings come from: as a number in JSON, as a TOML value, plain or
in quotes, and behind the mark of an explicit conversion.
-/

namespace EventRetention

namespace Text

theorem joinPairs_plain (text : List Char) (plain : '\r' ∉ text) : joinPairs text = text := by
  induction text with
  | nil => rfl
  | cons c rest ih =>
      obtain ⟨other, later⟩ := List.ne_and_not_mem_of_not_mem_cons plain
      rw [joinPairs, ih later]
      rintro more rfl
      exact absurd rfl other

theorem unifyLineEnds_plain (text : List Char) (plain : '\r' ∉ text) : unifyLineEnds text = text := by
  unfold unifyLineEnds
  rw [joinPairs_plain text plain]
  refine (List.map_congr_left fun c here => if_neg ?_).trans (List.map_id text)
  rintro rfl
  exact plain here

end Text

namespace Json

open Text

section Numbers

variable {digits : List Char} {n : Nat} (decimal : Decimal digits n)
include decimal

theorem word?_decimal (word : String) (c : Char) (rest more : List Char)
    (letters : word.toList = c :: more) (other : c.isDigit = false) :
    word? word (digits ++ rest) = none := by
  have present := decimal.present
  have all := decimal.all
  cases digits with
  | nil => exact absurd rfl present
  | cons first digits =>
      have apart : (c == first) = false :=
        beq_false_of_ne (digit_ne first c (all first List.mem_cons_self) other).symm
      simp only [word?, letters, List.cons_append, List.isPrefixOf, apart, Bool.false_and,
        Bool.false_eq_true, if_false]

theorem number?_decimal (rest : List Char) :
    number? false (digits ++ '\x7d' :: rest) = some (.int n, '\x7d' :: rest) := by
  have run : Json.digits (digits ++ '\x7d' :: rest) = (digits, '\x7d' :: rest) := by
    unfold Json.digits
    rw [List.takeWhile_append_of_pos decimal.all, List.dropWhile_append_of_pos decimal.all,
      List.takeWhile_cons_of_neg (by decide), List.dropWhile_cons_of_neg (by decide), List.append_nil]
  have brace : fractionDigits ('\x7d' :: rest) = ([], '\x7d' :: rest) := rfl
  have power : exponent? ('\x7d' :: rest) = none := rfl
  rw [number?]
  · simp only [run, decimal.natural, brace, power, Bool.false_eq_true, if_false]
  · exact decimal.ne_cons '0' (fun same => decimal.leading same) _

theorem scalar_decimal (rest : List Char) :
    scalar (digits ++ '\x7d' :: rest) = .ok (.int n, '\x7d' :: rest) := by
  -- The reading of a sign is passed over.
  have unsigned := decimal.ne_cons '-' (decimal.head_mark '-' rfl) ('\x7d' :: rest)
  simp [scalar, word?_decimal decimal "null" 'n' _ _ rfl rfl,
    word?_decimal decimal "true" 't' _ _ rfl rfl, word?_decimal decimal "false" 'f' _ _ rfl rfl,
    word?_decimal decimal "NaN" 'N' _ _ rfl rfl, word?_decimal decimal "Infinity" 'I' _ _ rfl rfl,
    word?_decimal decimal "-Infinity" '-' _ _ rfl rfl, number?_decimal decimal rest]

end Numbers

structure Stands (depth : Nat) (body : List Char) (v : Value) : Prop where
  visible : ∀ rest, skipBlank (body ++ '\x7d' :: rest) = body ++ '\x7d' :: rest
  read : ∀ fuel rest, value (fuel + depth) (body ++ '\x7d' :: rest) = .ok (v, '\x7d' :: rest)

theorem skipBlank_visible (c : Char) (rest : List Char)
    (visible : (c = ' ' || c = '\t' || c = '\n' || c = '\r') = false) :
    skipBlank (c :: rest) = c :: rest := by
  rw [skipBlank, List.dropWhile_cons, visible, if_neg Bool.false_ne_true]

theorem stands_decimal (digits : List Char) (n : Nat) (decimal : Decimal digits n) :
    Stands 1 digits (.int n) := by
  refine ⟨fun rest => ?_, fun fuel rest => ?_⟩
  · obtain ⟨c, more, rfl⟩ := List.exists_cons_of_ne_nil decimal.present
    have apart (mark : Char) (other : mark.isDigit = false) : decide (c = mark) = false :=
      decide_eq_false (digit_ne c mark (decimal.all c List.mem_cons_self) other)
    refine skipBlank_visible c _ ?_
    simp only [apart ' ' rfl, apart '\t' rfl, apart '\n' rfl, apart '\r' rfl, Bool.or_false]
  · have first (mark : Char) (other : mark.isDigit = false) (more : List Char) :=
      decimal.ne_cons mark (decimal.head_mark mark other) ('\x7d' :: rest) more
    rw [value]
    · exact scalar_decimal decimal rest
    · exact first '"' rfl
    · exact first '[' rfl
    · exact first '\x7b' rfl

theorem stands_word (word : List Char) (isWord : IsWord word) :
    Stands 1 ('"' :: (word ++ ['"'])) (.text (String.ofList word)) := by
  refine ⟨fun rest => skipBlank_visible '"' _ rfl, fun fuel rest => ?_⟩
  have enough : word.length < (word ++ '"' :: '\x7d' :: rest).length + 1 := by
    rw [List.length_append]
    omega
  have whole : '"' :: (word ++ ['"']) ++ '\x7d' :: rest = '"' :: (word ++ '"' :: '\x7d' :: rest) := by
    simp
  rw [whole, value, string, stringRest_word _ _ [] word _ isWord enough]
  rfl

def braced (name body : List Char) : List Char :=
  '\x7b' :: '"' :: (name ++ '"' :: ':' :: ' ' :: (body ++ ['\x7d']))

theorem value_braced (depth fuel : Nat) (name body rest : List Char) (v : Value)
    (isWord : IsWord name) (stands : Stands depth body v) :
    value (fuel + (depth + 2)) (braced name body ++ rest) =
      .ok (.map [(.text (String.ofList name), v)], rest) := by
  let entry := name ++ '"' :: ':' :: ' ' :: (body ++ '\x7d' :: rest)
  have whole : braced name body ++ rest = '\x7b' :: '"' :: entry := by
    simp [braced, entry]
  have enough : name.length < entry.length + 1 := by
    rw [List.length_append]
    omega
  have named : string entry = .ok (String.ofList name, ':' :: ' ' :: (body ++ '\x7d' :: rest)) :=
    stringRest_word _ _ [] name _ isWord enough
  have fields : fields (fuel + depth + 1) [] ('"' :: entry) =
      .ok ([(.text (String.ofList name), v)], rest) := by
    have blank : skipBlank (' ' :: (body ++ '\x7d' :: rest)) = body ++ '\x7d' :: rest :=
      stands.visible rest
    rw [Json.fields, named]
    simp only [bind, Except.bind, skipBlank_visible ':' _ rfl, blank, stands.read fuel rest,
      skipBlank_visible '\x7d' _ rfl]
    rfl
  rw [whole, ← Nat.add_assoc, value, skipBlank_visible '"' _ rfl]
  exact congrArg (Except.map fun found => (Value.map found.1, found.2)) fields

theorem stands_braced (depth : Nat) (name body : List Char) (v : Value) (isWord : IsWord name)
    (stands : Stands depth body v) :
    Stands (depth + 2) (braced name body) (.map [(.text (String.ofList name), v)]) :=
  ⟨fun _ => skipBlank_visible '\x7b' _ rfl, fun fuel rest =>
    value_braced depth fuel name body ('\x7d' :: rest) v isWord stands⟩

/-- A document of one section with one field. -/
theorem read_braced (top field body : List Char) (v : Value) (topWord : IsWord top)
    (fieldWord : IsWord field) (stands : Stands 1 body v) :
    read (String.ofList (braced top (braced field body))) =
      .ok (.map [(.text (String.ofList top), .map [(.text (String.ofList field), v)])]) := by
  -- The length of the text is more than the depth of its value.
  have long : ∃ fuel, (braced top (braced field body)).length + 1 = fuel + (1 + 2 + 2) := by
    refine ⟨(braced top (braced field body)).length - 4, ?_⟩
    simp only [braced, List.length_cons, List.length_append]
    omega
  obtain ⟨fuel, long⟩ := long
  have inner := stands_braced 1 field body v fieldWord stands
  have found := value_braced 3 fuel top _ [] _ topWord inner
  rw [List.append_nil] at found
  have visible : skipBlank (braced top (braced field body)) = braced top (braced field body) :=
    skipBlank_visible '\x7b' _ rfl
  have unmarked : (braced top (braced field body)).head? ≠ some '\ufeff' := by
    intro same
    cases same
  simp only [read, String.toList_ofList, unmarked, if_false, visible, long, found, bind, Except.bind]
  rfl

end Json

namespace Toml

open Text

section Numbers

variable {digits : List Char} {n : Nat} (decimal : Decimal digits n)
include decimal

/-- No mark stands behind some of the first digits. -/
theorem after?_shortRun (least most : Nat) (found : Nat × List Char) (mark : Char)
    (other : mark.isDigit = false) (run : shortRun? least most digits = some found) :
    after? mark found.2 = none := by
  unfold shortRun? at run
  dsimp only at run
  split at run
  · cases run
  · obtain ⟨value, -, rfl⟩ := Option.map_eq_some_iff.mp run
    cases rest : digits.drop ((digits.take most).takeWhile Char.isDigit).length with
    | nil => rfl
    | cons c more =>
        have here : c ∈ digits := List.mem_of_mem_drop (rest ▸ List.mem_cons_self)
        exact if_neg (digit_ne c mark (decimal.all c here) other)

theorem moment?_decimal : moment? digits = none := by
  -- A date needs a minus behind its year, and a time a colon behind its hour.
  have date : moment?.date? digits = none := by
    unfold moment?.date?
    cases run : shortRun? 4 4 digits with
    | none => rfl
    | some found =>
        have stop := after?_shortRun decimal 4 4 found '-' rfl run
        simp only [Option.bind_eq_bind, Option.bind_some, stop, Option.bind_none]
  have time : timeOfDay? digits = none := by
    unfold timeOfDay?
    cases run : shortRun? 2 2 digits with
    | none => rfl
    | some found =>
        have stop := after?_shortRun decimal 2 2 found ':' rfl run
        simp only [Option.bind_eq_bind, Option.bind_some, stop, Option.bind_none]
  rw [moment?, date, time]
  rfl

omit decimal in
theorem digitRun_all (run : List Char) (all : ∀ c ∈ run, c.isDigit = true) :
    digitRun Char.isDigit run = (run, []) := by
  induction run with
  | nil => rfl
  | cons c rest ih =>
      obtain ⟨here, later⟩ := List.forall_mem_cons.mp all
      rw [digitRun, here, if_pos rfl, ih later]
      rintro d more rfl
      cases later '_' List.mem_cons_self

theorem decimal?_decimal : decimal? digits = some (.int n, []) := by
  have unpadded := decimal.ne_cons '0' decimal.leading []
  rw [List.append_nil] at unpadded
  simp [decimal?, decimal.splitSign, digitRun_all digits decimal.all, decimal.natural, exponent?]

theorem value_decimal (fuel : Nat) : value (fuel + 1) digits = some (.int n, []) := by
  have first (mark : Char) (head : digits.head? ≠ some mark) (more : List Char) :
      digits ≠ mark :: more := by
    have apart := decimal.ne_cons mark head [] more
    rwa [List.append_nil] at apart
  have mark (c : Char) (other : c.isDigit = false) := first c (decimal.head_mark c other)
  have base : based? digits = none := by
    rw [based?]
    exact fun c rest => first '0' decimal.leading (c :: rest)
  rw [value, moment?_decimal decimal, base, decimal?_decimal decimal]
  · rfl
  · exact mark '"' rfl
  · exact mark '\'' rfl
  · exact fun rest => mark 't' rfl _
  · exact fun rest => mark 'f' rfl _
  · exact mark '[' rfl
  · exact mark '\x7b' rfl

end Numbers

theorem skipBlank_visible (c : Char) (rest : List Char)
    (visible : (c = ' ' || c = '\t') = false) : skipBlank (c :: rest) = c :: rest := by
  rw [skipBlank, List.dropWhile_cons, visible, if_neg Bool.false_ne_true]

/-- A text without a line end or a blank before it that is read as a whole. -/
theorem read?_whole (text : List Char) (v : Value) (plain : '\r' ∉ text)
    (visible : skipBlank text = text)
    (whole : value (text.length + 1) text = some (v, [])) :
    read? (String.ofList text) = some v := by
  unfold read?
  rw [String.toList_ofList, joinPairs_plain text plain]
  simp only [visible, whole, Option.bind_eq_bind, Option.bind_some]
  rfl

/-- Decimal text is a TOML integer. -/
theorem read?_decimal (digits : List Char) (n : Nat) (decimal : Decimal digits n) :
    read? (String.ofList digits) = some (.int n) := by
  refine read?_whole digits _ (decimal.ne_mark '\r' rfl) ?_ (value_decimal decimal _)
  obtain ⟨c, more, rfl⟩ := List.exists_cons_of_ne_nil decimal.present
  have apart (mark : Char) (other : mark.isDigit = false) : decide (c = mark) = false :=
    decide_eq_false (digit_ne c mark (decimal.all c List.mem_cons_self) other)
  refine skipBlank_visible c more ?_
  rw [apart ' ' rfl, apart '\t' rfl]
  rfl

theorem word_lineEnd (word : List Char) (isWord : IsWord word) (quote : Char) (other : quote ≠ '\r') :
    '\r' ∉ quote :: (word ++ [quote]) := by
  intro inside
  rcases List.mem_cons.mp inside with same | rest
  · exact other same.symm
  · rcases List.mem_append.mp rest with here | last
    · exact word_ne '\r' '\r' (isWord '\r' here) rfl rfl
    · exact other (List.mem_singleton.mp last).symm

/-- A word in double quotes is a TOML text. -/
theorem read?_basic (word : List Char) (isWord : IsWord word) (present : word ≠ []) :
    read? (String.ofList ('"' :: (word ++ ['"']))) = some (.text (String.ofList word)) := by
  refine read?_whole _ _ (word_lineEnd word isWord '"' (by decide)) (skipBlank_visible '"' _ rfl) ?_
  obtain ⟨c, more, rfl⟩ := List.exists_cons_of_ne_nil present
  have enough : (c :: more).length < (c :: more ++ ['"']).length + 1 := by
    rw [List.length_append]
    omega
  have single : c ≠ '"' := word_ne c '"' (isWord c List.mem_cons_self) rfl
  rw [value, text?, basicText_word _ (c :: more) [] isWord enough]
  · rfl
  · rintro rest same
    exact single (List.cons.inj same).1

/-- A word in single quotes is one too. -/
theorem read?_literal (word : List Char) (isWord : IsWord word) (present : word ≠ []) :
    read? (String.ofList ('\'' :: (word ++ ['\'']))) = some (.text (String.ofList word)) := by
  refine read?_whole _ _ (word_lineEnd word isWord '\'' (by decide)) (skipBlank_visible '\'' _ rfl) ?_
  obtain ⟨c, more, rfl⟩ := List.exists_cons_of_ne_nil present
  have single : c ≠ '\'' := word_ne c '\'' (isWord c List.mem_cons_self) rfl
  rw [value, text?, literalText_word (c :: more) [] isWord]
  · rfl
  · rintro rest same
    exact single (List.cons.inj same).1

end Toml

namespace Sections

open Text

/-- A variable is read as TOML unless it starts with a mark or is a capital word. -/
theorem environmentValue_toml (text : List Char) (v : Value) (unmarked : text.head? ≠ some '@')
    (capital : text.head? ≠ some 'T' ∧ text.head? ≠ some 'F')
    (clean : ∀ c ∈ text, isSpacing c = false) (read : Toml.read? (String.ofList text) = some v) :
    environmentValue (String.ofList text) = some v := by
  have words (word : String) (head : word.toList.head? ≠ text.head?) :
      decide (String.ofList text = word) = false := by
    refine decide_eq_false fun same => head ?_
    rw [← same, String.toList_ofList]
  simp only [environmentValue, String.toList_ofList, isMarked_plain text unmarked,
    trimBy_clean isSpacing text clean, words "True" (Ne.symm capital.1),
    words "False" (Ne.symm capital.2), Bool.or_false, Bool.false_eq_true, if_false,
    Conversion.tomlOrText, read, Option.getD_some]

/-- What a variable stands for: its value, converted again if that has a mark. -/
def standing (s : String) : Option Value := (environmentValue s).bind convert

variable (digits : List Char) (n : Nat) (decimal : Decimal digits n)
include decimal

theorem standing_decimal : standing (String.ofList digits) = some (.int n) := by
  have value := environmentValue_toml digits (.int n) (decimal.head_mark '@' rfl)
    ⟨decimal.head_mark 'T' rfl, decimal.head_mark 'F' rfl⟩
    (fun c here => (digit_notBlank c (decimal.all c here)).2) (Toml.read?_decimal digits n decimal)
  rw [standing, value]
  rfl

/-- In quotes of either kind it stands for its text. -/
theorem standing_quoted (quote : Char) (either : quote = '"' ∨ quote = '\'') :
    standing (String.ofList (quote :: (digits ++ [quote]))) = some (.text (String.ofList digits)) := by
  have read : Toml.read? (String.ofList (quote :: (digits ++ [quote]))) =
      some (.text (String.ofList digits)) := by
    rcases either with rfl | rfl
    · exact Toml.read?_basic digits decimal.isWord decimal.present
    · exact Toml.read?_literal digits decimal.isWord decimal.present
  have other : quote ≠ '@' ∧ quote ≠ 'T' ∧ quote ≠ 'F' ∧ isSpacing quote = false := by
    rcases either with rfl | rfl <;> decide
  obtain ⟨mark, capital, small, blank⟩ := other
  have value := environmentValue_toml (quote :: (digits ++ [quote])) _ (fun same => mark (Option.some.inj same))
    ⟨fun same => capital (Option.some.inj same), fun same => small (Option.some.inj same)⟩
    (fun c here => ?_) read
  · rw [standing, value, Option.bind_some]
    refine convert_plain _ (decide_eq_true ?_)
    rw [String.toList_ofList]
    exact decimal.head_mark '@' rfl
  · rcases List.mem_cons.mp here with rfl | rest
    · exact blank
    · rcases List.mem_append.mp rest with inside | last
      · exact (digit_notBlank c (decimal.all c inside)).2
      · rw [List.mem_singleton.mp last]
        exact blank

/-- Behind the mark for integers it stands for its number. -/
theorem standing_marked : standing (String.ofList ("@int ".toList ++ digits)) = some (.int n) := by
  have marked : Conversion.isMarked ("@int ".toList ++ digits) = true := rfl
  have word : ("@int ".toList ++ digits).takeWhile (· ≠ ' ') = "@int".toList := rfl
  have mark : Conversion.all.lookup (String.ofList "@int".toList) = some .integer := by decide
  have rest : ("@int ".toList ++ digits).drop ("@int".toList.length + 1) = digits := rfl
  have converted : convertText (String.ofList ("@int ".toList ++ digits)) = some (.int n) := by
    simp only [convertText, String.toList_ofList, marked, word, mark, rest, if_true, Option.bind_eq_bind,
      Option.bind_some, Conversion.apply, decimal.ofText]
  rw [standing, environmentValue, String.toList_ofList, marked, if_pos rfl, converted]
  rfl

end Sections

end EventRetention
