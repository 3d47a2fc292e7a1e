import EventRetention.Proofs.DecimalSources
import EventRetention.Yaml.Document

/-!
A YAML document of one section with one field, token by token: the words before the
colons become keys of nested blocks, and the field has the value of the scalar.
-/

namespace EventRetention.Yaml

open Text

def isVisible (c : Char) : Bool := !isBreak c && c ≠ '\ufeff'

theorem word_visible (c : Char) (word : isWordCharacter c = true) : isVisible c = true := by
  have marked : c ≠ '\ufeff' := word_ne c '\ufeff' word rfl
  simp [isVisible, word_break c word, marked]

namespace Cursor

theorem past_visible (run rest : List Char) (index line column : Nat)
    (visible : ∀ c ∈ run, isVisible c = true) :
    past ⟨run ++ rest, index, line, column⟩ run =
      ⟨rest, index + run.length, line, column + run.length⟩ := by
  induction run generalizing index column with
  | nil => rfl
  | cons c run ih =>
      obtain ⟨here, later⟩ := List.forall_mem_cons.mp visible
      simp only [isVisible, Bool.and_eq_true, Bool.not_eq_true', decide_eq_true_eq] at here
      rw [past, here.1, if_neg Bool.false_ne_true, if_neg here.2]
      refine (ih (index + 1) (column + 1) later).trans ?_
      rw [List.length_cons, Nat.add_assoc, Nat.add_assoc, Nat.add_comm 1]

theorem moveTo_append (run rest : List Char) (index line column : Nat) :
    moveTo ⟨run ++ rest, index, line, column⟩ rest = past ⟨run ++ rest, index, line, column⟩ run := by
  rw [moveTo, List.length_append, Nat.add_sub_cancel, List.take_left]

theorem moveTo_visible (run rest : List Char) (index line column : Nat)
    (visible : ∀ c ∈ run, isVisible c = true) :
    moveTo ⟨run ++ rest, index, line, column⟩ rest =
      ⟨rest, index + run.length, line, column + run.length⟩ := by
  rw [moveTo_append, past_visible run rest index line column visible]

theorem past_rest (c : Cursor) (run : List Char) : (c.past run).rest = c.rest.drop run.length := by
  induction run generalizing c with
  | nil => rfl
  | cons first run ih =>
      rw [past]
      split <;> rw [ih, List.drop_drop, List.length_cons, Nat.add_comm 1]

theorem moveTo_rest (run rest : List Char) (index line column : Nat) :
    ∃ index' line' column', moveTo ⟨run ++ rest, index, line, column⟩ rest =
      ⟨rest, index', line', column'⟩ := by
  have left : (past ⟨run ++ rest, index, line, column⟩ run).rest = rest := by
    rw [past_rest, List.drop_left]
  rw [moveTo_append]
  exact ⟨_, _, _, congrArg (fun text => Cursor.mk text _ _ _) left⟩

end Cursor

theorem word_endsWord (c : Char) (word : isWordCharacter c = true) : endsWord (some c) = false := by
  have apart (mark : Char) (other : isWordCharacter mark = false) : c ≠ mark :=
    word_ne c mark word other
  rw [endsWord]
  · simp [endsLine, apart '\n' rfl, apart '\r' rfl, apart '\x85' rfl]
  · exact fun same => apart ' ' rfl (Option.some.inj same)
  · exact fun same => apart '\t' rfl (Option.some.inj same)

theorem plainRun_word (word rest : List Char) (isWord : IsWord word)
    (stops : plainRun false rest = ([], rest)) : plainRun false (word ++ rest) = (word, rest) := by
  induction word with
  | nil => exact stops
  | cons c word ih =>
      have here := isWord c List.mem_cons_self
      have goes : endsRun false c (word ++ rest).head? = false := by
        simp [endsRun, word_ne c ':' here rfl, word_endsWord c here]
      rw [List.cons_append, plainRun, goes, if_neg Bool.false_ne_true, ih (isWord.tail c word)]

/-- A plain scalar of one word ends where its run ends, if the gap after that is
    empty or leads out of the block. -/
theorem plain_word (indent : Int) (word rest : List Char) (present : word ≠ [])
    (isWord : IsWord word) (stops : plainRun false rest = ([], rest))
    (ends : (plainGap rest).text = [] ∨ ∃ column, (plainGap rest).column = some column ∧
      (column : Int) < indent) :
    plain false indent (word ++ rest) =
      ⟨word, (plainGap rest).rest, (plainGap rest).column.isSome⟩ := by
  obtain ⟨c, more, rfl⟩ := List.exists_cons_of_ne_nil present
  have mark : c ≠ '#' := word_ne c '#' (isWord c List.mem_cons_self) rfl
  have run : plainRun false (c :: (more ++ rest)) = (c :: more, rest) :=
    plainRun_word (c :: more) rest isWord stops
  have start : (decide (c = '#') || (c :: more).isEmpty) = false := by simp [mark]
  have stopped : ((plainGap rest).text.isEmpty || decide ((plainGap rest).rest.head? = some '#') ||
      !false && (plainGap rest).column.any fun column => decide ((column : Int) < indent)) = true := by
    rcases ends with empty | ⟨column, reached, outside⟩
    · simp [empty]
    · simp [reached, outside]
  rw [plain, List.cons_append, plainFrom]
  simp only [run]
  rw [start, if_neg Bool.false_ne_true, stopped, if_pos rfl]
  rfl

/-- A word before a colon at the end of a word. -/
theorem plain_key (indent : Int) (word more : List Char) (m : Char) (present : word ≠ [])
    (isWord : IsWord word) (ends : endsWord (some m) = true) :
    plain false indent (word ++ ':' :: m :: more) = ⟨word, ':' :: m :: more, false⟩ := by
  have stops : plainRun false (':' :: m :: more) = ([], ':' :: m :: more) := by
    rw [plainRun, endsRun, if_pos rfl, List.head?_cons, ends, if_pos rfl]
  have gap : plainGap (':' :: m :: more) = ⟨[], ':' :: m :: more, none⟩ := rfl
  have whole := plain_word indent word _ present isWord stops (Or.inl (by rw [gap]))
  rwa [gap] at whole

/-- A word at the end of the last line. -/
theorem plain_last (indent : Int) (word : List Char) (present : word ≠ [])
    (isWord : IsWord word) (inside : 0 < indent) :
    plain false indent (word ++ ['\n']) = ⟨word, [], true⟩ := by
  have gap : plainGap ['\n'] = ⟨[' '], [], some 0⟩ := rfl
  have whole := plain_word indent word ['\n'] present isWord rfl
    (Or.inr ⟨0, by rw [gap], inside⟩)
  rwa [gap] at whole

structure IsName (name : List Char) : Prop where
  present : name ≠ []
  word : IsWord name
  short : name.length ≤ 1024
  text : resolve (String.ofList name) = .ok (.text (String.ofList name))

def block (top field body : List Char) : List Char :=
  top ++ ':' :: '\n' :: ' ' :: ' ' :: (field ++ ':' :: ' ' :: (body ++ ['\n']))

namespace Scanner

theorem afterBlank_blanks (endedLine : Bool) (blanks : Nat) (c : Char) (more : List Char)
    (blank : c ≠ ' ') (comment : c ≠ '#') (visible : isBreak c = false) :
    afterBlank false endedLine (List.replicate blanks ' ' ++ c :: more) = (c :: more, endedLine) := by
  induction blanks with
  | zero =>
      have inLine : endsLine (some c) = false := by
        simp only [isBreak, Bool.or_eq_false_iff] at visible
        simp [endsLine, visible]
      rw [List.replicate_zero, List.nil_append, afterBlank, inLine, visible, if_neg Bool.false_ne_true,
        if_neg Bool.false_ne_true, if_neg Bool.false_ne_true, if_neg blank, if_neg comment]
  | succ blanks ih => exact ih

/-- Blanks before a character are skipped. -/
theorem skipBlank_blanks (s : Scanner) (blanks : Nat) (c : Char) (more : List Char)
    (index line column : Nat)
    (cursor : s.cursor = ⟨List.replicate blanks ' ' ++ c :: more, index, line, column⟩)
    (blank : c ≠ ' ') (comment : c ≠ '#') (visible : isBreak c = false) :
    s.skipBlank = { s with cursor := ⟨c :: more, index + blanks, line, column + blanks⟩ } := by
  have moved := Cursor.moveTo_visible (List.replicate blanks ' ') (c :: more) index line column
    fun d here => by rw [List.eq_of_mem_replicate here]; decide
  rw [List.length_replicate] at moved
  rw [skipBlank, cursor, afterBlank_blanks false blanks c more blank comment visible]
  simp only [moved, Bool.false_and, Bool.or_false]

theorem skipBlank_visible (s : Scanner) (c : Char) (more : List Char)
    (rest : s.cursor.rest = c :: more) (blank : c ≠ ' ') (comment : c ≠ '#')
    (visible : isBreak c = false) : s.skipBlank = s := by
  have cursor : s.cursor = ⟨List.replicate 0 ' ' ++ c :: more, s.cursor.index, s.cursor.line,
    s.cursor.column⟩ := congrArg (fun text => Cursor.mk text _ _ _) rest
  rw [s.skipBlank_blanks 0 c more _ _ _ cursor blank comment visible, ← rest]
  rfl

/-- Only what comes behind blanks matters. -/
theorem run_skip (fuel : Nat) (s t : Scanner) (skipped : s.skipBlank = t) (visible : t.skipBlank = t) :
    run (fuel + 1) s = run (fuel + 1) t := by
  rw [run, run, skipped, visible]

/-- On a line that is indented by two blanks a key may come next. -/
theorem run_indented (fuel : Nat) (c : Char) (more : List Char) (tokens : List Token) (indent : Int)
    (outer : List Int) (index line column : Nat) (word : isWordCharacter c = true) :
    run (fuel + 1) {
        cursor := ⟨'\n' :: ' ' :: ' ' :: c :: more, index, line, column⟩, tokens, indent, outer
        keyAllowed := false } =
      run (fuel + 1) { cursor := ⟨c :: more, index + 1 + 2, line + 1, 2⟩, tokens, indent, outer } := by
  have blank := word_ne c ' ' word rfl
  have comment := word_ne c '#' word rfl
  refine run_skip fuel _ _ ?_ (skipBlank_visible _ c more rfl blank comment (word_break c word))
  have behind : afterBlank false false ('\n' :: ' ' :: ' ' :: c :: more) = (c :: more, true) :=
    afterBlank_blanks true 2 c more blank comment (word_break c word)
  have moved : Cursor.moveTo ⟨'\n' :: ' ' :: ' ' :: c :: more, index, line, column⟩ (c :: more) =
      ⟨c :: more, index + 1 + 2, line + 1, 2⟩ :=
    Cursor.moveTo_append ['\n', ' ', ' '] (c :: more) index line column
  rw [skipBlank, behind]
  simp only [moved]
  rfl

theorem closeBlocks_inside (column : Int) (outer : List Int) (s : Scanner)
    (inside : ¬ column < s.indent) : closeBlocks column outer s = s := by
  cases outer with
  | nil => rfl
  | cons indent rest => rw [closeBlocks, if_neg inside]

theorem startsWithMark_other (mark c : Char) (tail : List Char) (other : c ≠ mark) :
    startsWithMark mark (c :: tail) = false := by
  match tail with
  | [] => rfl
  | [_] => rfl
  | _ :: _ :: _ => simp [startsWithMark, other]

def indicators : List Char :=
  ['-', '.', ':', '?', ',', '[', ']', '\x7b', '\x7d', '#', '&', '*', '!', '|', '>', '\'', '"', '%',
    '@', '\x60']

theorem indicators_other (mark : Char) (here : mark ∈ indicators) : isWordCharacter mark = false := by
  have all : (indicators.all fun mark => !isWordCharacter mark) = true := by decide
  simpa using List.all_eq_true.mp all mark here

/-- A word starts a plain scalar. -/
theorem scanNext_word (s : Scanner) (c : Char) (tail : List Char)
    (word : isWordCharacter c = true) : s.scanNext c tail = s.plainText (c :: tail) := by
  have apart : c ∉ indicators := fun here => word_ne c c word (indicators_other c here) rfl
  simp only [indicators, List.mem_cons, List.not_mem_nil, or_false, not_or] at apart
  have starts : startsPlain s.inFlow c tail.head? = true := by
    simp [startsPlain, isFlowMark, word_endsWord c word, word_break c word, apart]
  simp [scanNext, apart, starts, startsWithMark_other]

theorem scanNext_colon (s : Scanner) (tail : List Char) (mark : s.isValueMark tail.head? = true) :
    s.scanNext ':' tail = s.valueMark tail := by
  simp [scanNext, mark, startsWithMark_other]

theorem putBefore_append (s : Scanner) (front back : List Token) (token : Token)
    (tokens : s.tokens = front ++ back) :
    s.putBefore back.length token = { s with tokens := front ++ token :: back } := by
  rw [putBefore, tokens, List.length_append, Nat.add_sub_cancel, List.take_left, List.drop_left]

theorem run_next (fuel : Nat) (s t u : Scanner) (c : Char) (tail : List Char)
    (ready : s.skipBlank.dropStale = some t)
    (rest : t.cursor.rest = c :: tail)
    (next : (t.unwind t.cursor.column).scanNext c tail = some u) : run (fuel + 1) s = run fuel u := by
  rw [run, ready]
  simp only [Option.bind_eq_bind, Option.bind_some, rest, next]

/-- A word that may be a key. -/
theorem run_word (fuel : Nat) (word more : List Char) (m : Char) (tokens : List Token) (indent : Int)
    (outer : List Int) (index line column : Nat) (present : word ≠ []) (isWord : IsWord word)
    (ends : endsWord (some m) = true) (deeper : indent < column) :
    run (fuel + 1) { cursor := ⟨word ++ ':' :: m :: more, index, line, column⟩, tokens, indent, outer } =
      run fuel {
        cursor := ⟨':' :: m :: more, index + word.length, line, column + word.length⟩
        tokens := .scalar true (String.ofList word) :: tokens
        indent, outer
        keys := [some ⟨tokens.length, index, line, column, false⟩], keyAllowed := false } := by
  obtain ⟨c, rest, rfl⟩ := List.exists_cons_of_ne_nil present
  have here := isWord c List.mem_cons_self
  -- Nothing is skipped and no block ends, so the word is the next token.
  let s : Scanner :=
    { cursor := ⟨c :: rest ++ ':' :: m :: more, index, line, column⟩, tokens, indent, outer }
  have blank : s.skipBlank = s :=
    s.skipBlank_visible c _ rfl (word_ne c ' ' here rfl) (word_ne c '#' here rfl) (word_break c here)
  have inside : ¬ (column : Int) < indent := by omega
  have level : indent ≠ column := by omega
  have unwound : s.unwind column = s := closeBlocks_inside column outer s inside
  have moved : s.cursor.moveTo (':' :: m :: more) =
      ⟨':' :: m :: more, index + (c :: rest).length, line, column + (c :: rest).length⟩ :=
    Cursor.moveTo_visible (c :: rest) _ index line column fun c inside =>
      word_visible c (isWord c inside)
  refine run_next fuel s s _ c (rest ++ ':' :: m :: more) (by rw [blank]; rfl) rfl ?_
  have scalar : plain s.inFlow (s.indent + 1) (c :: (rest ++ ':' :: m :: more)) =
      ⟨c :: rest, ':' :: m :: more, false⟩ :=
    plain_key (indent + 1) (c :: rest) more m present isWord ends
  have noted : s.noteKey =
      some { s with keys := [some ⟨tokens.length, index, line, column, false⟩] } := by
    simp [noteKey, dropKey, inFlow, s, level]
  rw [show s.cursor.column = column from rfl, unwound, scanNext_word s c _ here, plainText]
  simp only [scalar, startNode, noted, emit, moved, Option.bind_eq_bind, Option.bind_some]
  rfl

/-- The colon makes it a key, which opens a block if it stands deeper than the last. -/
theorem run_colon (fuel : Nat) (text : Token) (more : List Char) (m : Char) (tokens : List Token)
    (indent : Int) (outer : List Int) (index line column width : Nat) (short : width ≤ 1024)
    (ends : endsWord (some m) = true) (deeper : indent < column) :
    run (fuel + 1) {
        cursor := ⟨':' :: m :: more, index + width, line, column + width⟩
        tokens := text :: tokens, indent, outer
        keys := [some ⟨tokens.length, index, line, column, false⟩], keyAllowed := false } =
      run fuel {
        cursor := ⟨m :: more, index + width + 1, line, column + width + 1⟩
        tokens := .value :: text :: .key :: .blockMappingStart :: tokens
        indent := column, outer := indent :: outer, keyAllowed := false } := by
  let s : Scanner := {
    cursor := ⟨':' :: m :: more, index + width, line, column + width⟩
    tokens := text :: tokens, indent, outer
    keys := [some ⟨tokens.length, index, line, column, false⟩], keyAllowed := false }
  have blank : s.skipBlank = s :=
    s.skipBlank_visible ':' _ rfl (by decide) (by decide) (by decide)
  -- The key is not stale: it stands on this line and is short enough.
  have fresh : s.dropStale = some s := by
    simp [dropStale, s, short]
  have inside : ¬ (s.cursor.column : Int) < indent := by
    change ¬ ((column + width : Nat) : Int) < indent
    omega
  have unwound : s.unwind s.cursor.column = s := closeBlocks_inside _ outer s inside
  have moved : Cursor.moveTo ⟨':' :: m :: more, index + width, line, column + width⟩ (m :: more) =
      ⟨m :: more, index + width + 1, line, column + width + 1⟩ :=
    Cursor.moveTo_visible [':'] (m :: more) _ line _ (List.forall_mem_singleton.mpr rfl)
  refine run_next fuel s s _ ':' (m :: more) (by rw [blank, fresh]) rfl ?_
  rw [unwound, s.scanNext_colon (m :: more) ends]
  -- Both marks go before the tokens of the key.
  have key := putBefore_append { s with keys := [none] } [text] tokens .key rfl
  have block := putBefore_append
    { s with keys := [none], tokens := text :: .key :: tokens, indent := column, outer := indent :: outer }
    [text, .key] tokens .blockMappingStart rfl
  simp only [List.cons_append, List.nil_append] at key block
  simp only [valueMark, s, key, inFlow, deepen, deeper, if_true, block, emit, List.isEmpty_nil,
    Bool.not_true, Bool.false_eq_true, if_false, moved]

/-- A word and its colon. -/
theorem run_key (fuel : Nat) (word more : List Char) (m : Char) (tokens : List Token) (indent : Int)
    (outer : List Int) (index line column : Nat) (present : word ≠ []) (isWord : IsWord word)
    (short : word.length ≤ 1024) (ends : endsWord (some m) = true) (deeper : indent < column) :
    run (fuel + 2) { cursor := ⟨word ++ ':' :: m :: more, index, line, column⟩, tokens, indent, outer } =
      run fuel {
        cursor := ⟨m :: more, index + word.length + 1, line, column + word.length + 1⟩
        tokens := .value :: .scalar true (String.ofList word) :: .key :: .blockMappingStart :: tokens
        indent := column, outer := indent :: outer, keyAllowed := false } := by
  rw [run_word (fuel + 1) word more m tokens indent outer index line column present isWord ends deeper]
  exact run_colon fuel _ more m tokens indent outer index line column word.length
    short ends deeper

/-- Behind the last scalar of a text both blocks end. -/
theorem run_end (fuel : Nat) (tokens : List Token) (allowed : Bool) (rest : List Char)
    (index line column : Nat) (last : rest = [] ∨ rest = ['\n']) :
    run (fuel + 1) {
        cursor := ⟨rest, index, line, column⟩, tokens, indent := 2, outer := [0, -1]
        keyAllowed := allowed } =
      some (tokens.reverse ++ [.blockEnd, .blockEnd]) := by
  have both : tokens.reverse ++ [.blockEnd, .blockEnd] =
      (.blockEnd :: .blockEnd :: tokens).reverse := by simp
  rw [both]
  -- A line end changes the cursor only.
  rcases last with rfl | rfl <;> rfl

/-- A text that is scanned as one scalar, behind a blank and at the end of the two
    blocks. -/
def ScansTo (body : List Char) (token : Token) : Prop :=
  ∀ fuel tokens index line column, run (fuel + 2) {
      cursor := ⟨' ' :: (body ++ ['\n']), index, line, column + 2⟩, tokens, indent := 2
      outer := [0, -1], keyAllowed := false } =
    some (tokens.reverse ++ [token, .blockEnd, .blockEnd])

/-- It is enough that the scanner takes the scalar off the text. -/
theorem scansTo (c : Char) (tail used rest : List Char) (token : Token) (blank : c ≠ ' ')
    (comment : c ≠ '#') (visible : isBreak c = false) (split : c :: tail ++ ['\n'] = used ++ rest)
    (last : rest = [] ∨ rest = ['\n'])
    (scans : ∀ s : Scanner, s.brackets = [] → s.indent = 2 → s.keyAllowed = false →
      ∃ allowed, s.scanNext c (tail ++ ['\n']) = some { s.emit token rest with keyAllowed := allowed }) :
    ScansTo (c :: tail) token := by
  intro fuel tokens index line column
  let start : Scanner := {
    cursor := ⟨' ' :: (c :: tail ++ ['\n']), index, line, column + 2⟩, tokens, indent := 2
    outer := [0, -1], keyAllowed := false }
  let s : Scanner := { start with cursor := ⟨c :: tail ++ ['\n'], index + 1, line, column + 2 + 1⟩ }
  have ready : start.skipBlank.dropStale = some s := by
    rw [start.skipBlank_blanks 1 c (tail ++ ['\n']) index line (column + 2) rfl blank comment visible]
    rfl
  have inside : ¬ ((column + 2 + 1 : Nat) : Int) < 2 := by omega
  have unwound : s.unwind s.cursor.column = s := closeBlocks_inside _ [0, -1] s inside
  obtain ⟨allowed, next⟩ := scans s rfl rfl rfl
  obtain ⟨index', line', column', moved⟩ := Cursor.moveTo_rest used rest (index + 1) line (column + 2 + 1)
  rw [← split] at moved
  rw [run_next (fuel + 1) start s _ c (tail ++ ['\n']) ready rfl (by rw [unwound]; exact next)]
  simp only [emit, s, start, moved]
  rw [run_end fuel (token :: tokens) allowed rest index' line' column' last, List.reverse_cons,
    List.append_assoc]
  rfl

theorem scansTo_word (word : List Char) (present : word ≠ []) (isWord : IsWord word) :
    ScansTo word (.scalar true (String.ofList word)) := by
  obtain ⟨c, more, rfl⟩ := List.exists_cons_of_ne_nil present
  have here := isWord c List.mem_cons_self
  refine scansTo c more _ [] _ (word_ne c ' ' here rfl) (word_ne c '#' here rfl) (word_break c here)
    (List.append_nil _).symm (Or.inl rfl) fun s brackets indent allowed => ⟨true, ?_⟩
  have scalar : plain s.inFlow (s.indent + 1) (c :: (more ++ ['\n'])) = ⟨c :: more, [], true⟩ := by
    rw [inFlow, brackets, indent]
    exact plain_last 3 (c :: more) present isWord (by decide)
  have noted : s.noteKey = some s := by simp [noteKey, allowed]
  rw [scanNext_word s c _ here, plainText]
  simp only [scalar, startNode, noted, Option.bind_eq_bind, Option.bind_some]
  rfl

/-- A word in quotes of either kind. -/
theorem scansTo_quoted (quote : Char) (either : quote = '"' ∨ quote = '\'') (word : List Char)
    (isWord : IsWord word) :
    ScansTo (quote :: (word ++ [quote])) (.scalar false (String.ofList word)) := by
  have plain : quote ≠ ' ' ∧ quote ≠ '#' ∧ isBreak quote = false := by
    rcases either with rfl | rfl <;> decide
  refine scansTo quote (word ++ [quote]) (quote :: (word ++ [quote])) ['\n'] _ plain.1 plain.2.1
    plain.2.2 rfl (Or.inr rfl) fun s brackets indent allowed => ⟨false, ?_⟩
  have noted : s.noteKey = some s := by simp [noteKey, allowed]
  rw [List.append_assoc, List.singleton_append]
  rcases either with rfl | rfl
  · have text := doubleQuoted_word (word.length + 2 + 1) word ['\n'] isWord (by omega)
    simp [scanNext, startsWithMark_other, text, startNode, noted]
  · have text := singleQuoted_word (word.length + 2 + 1) word ['\n'] isWord (by decide) (by omega)
    simp [scanNext, startsWithMark_other, text, startNode, noted]

theorem run_block (fuel : Nat) (top field body : List Char) (token : Token) (topName : IsName top)
    (fieldName : IsName field) (scans : ScansTo body token) :
    run (fuel + 6) { cursor := { rest := block top field body } } =
      some [.blockMappingStart, .key, .scalar true (String.ofList top), .value, .blockMappingStart,
        .key, .scalar true (String.ofList field), .value, token, .blockEnd, .blockEnd] := by
  -- Six rounds: two for each key, one for the scalar and one for the end.
  let inner := field ++ ':' :: ' ' :: (body ++ ['\n'])
  have outside := run_key (fuel + 4) top (' ' :: ' ' :: inner) '\n' [] (-1) [] 0 0 0 topName.present
    topName.word topName.short rfl (by decide)
  have inside := run_key (fuel + 2) field (body ++ ['\n']) ' '
    [.value, .scalar true (String.ofList top), .key, .blockMappingStart] 0 [-1]
    (0 + top.length + 1 + 1 + 2) 1 2 fieldName.present fieldName.word fieldName.short rfl (by decide)
  obtain ⟨c, rest, rfl⟩ := List.exists_cons_of_ne_nil fieldName.present
  have indented := run_indented (fuel + 3) c (rest ++ ':' :: ' ' :: (body ++ ['\n']))
    [.value, .scalar true (String.ofList top), .key, .blockMappingStart] 0 [-1] (0 + top.length + 1) 0
    (0 + top.length + 1) (fieldName.word c List.mem_cons_self)
  refine (outside.trans (indented.trans inside)).trans ?_
  have value := scans fuel [.value, .scalar true (String.ofList (c :: rest)), .key, .blockMappingStart,
    .value, .scalar true (String.ofList top), .key, .blockMappingStart]
    (0 + top.length + 1 + 1 + 2 + (c :: rest).length + 1) 1 ((c :: rest).length + 1)
  have columns : 2 + (c :: rest).length + 1 = (c :: rest).length + 1 + 2 := by omega
  rw [columns]
  exact value

end Scanner

namespace Node

theorem document_block (top field text : String) (isPlain : Bool) :
    document? [.blockMappingStart, .key, .scalar true top, .value, .blockMappingStart, .key,
        .scalar true field, .value, .scalar isPlain text, .blockEnd, .blockEnd] =
      some (some (.mapping none
        [(.scalar none true top, .mapping none [(.scalar none true field, .scalar none isPlain text)])])) :=
  rfl

/-- A mapping with one key that is a text. -/
theorem value_single (name : String) (inner : Node) (v : Value) (text : resolve name = .ok (.text name))
    (value : inner.value = .ok v) :
    (mapping none [(scalar none true name, inner)]).value = .ok (.map [(.text name, v)]) := by
  -- The two names with a meaning of their own are not read as texts.
  have apart (mark : String) (malformed : resolve mark = .error .malformed) :
      decide (name = mark) = false := by
    refine decide_eq_false fun same => ?_
    rw [same, malformed] at text
    cases text
  have merge : isMergeKey (.scalar none true name) = false := by
    rw [isMergeKey, apart "<<" rfl]
    rfl
  have default : isValueKey (.scalar none true name) = false := by
    rw [isValueKey, apart "=" rfl]
    rfl
  have key : (scalar none true name).value = .ok (.text name) := text
  simp only [Node.value, entryValues, merge, default, value]
  rw [Node.value] at key
  simp only [key]
  rfl

end Node

theorem word_printable (word : List Char) (isWord : IsWord word) : word.all isPrintable = true := by
  refine List.all_eq_true.mpr fun c here => ?_
  obtain ⟨low, high⟩ := word_range c (isWord c here)
  have inside : 0x20 ≤ c.toNat ∧ c.toNat ≤ 0x7E := by omega
  simp [isPrintable, inside]

/-- What a scalar is worth as the value of a field. -/
theorem read_block (top field body : List Char) (isPlain : Bool) (text : String) (v : Value)
    (topName : IsName top) (fieldName : IsName field)
    (scans : Scanner.ScansTo body (.scalar isPlain text)) (printable : body.all isPrintable = true)
    (value : scalarValue none isPlain text = .ok v) :
    read (String.ofList (block top field body)) =
      .ok (.map [(.text (String.ofList top), .map [(.text (String.ofList field), v)])]) := by
  have visible : (block top field body).all isPrintable = true := by
    have marks : isPrintable ':' = true ∧ isPrintable '\n' = true ∧ isPrintable ' ' = true := by decide
    simp only [block, List.all_append, List.all_cons, List.all_nil, word_printable top topName.word,
      word_printable field fieldName.word, printable, marks, Bool.and_true]
  have unmarked : (block top field body).head? ≠ some '\ufeff' := by
    intro same
    rw [block, List.head?_append_of_ne_nil _ topName.present] at same
    exact word_ne _ _ (topName.word _ (List.mem_of_mem_head? same)) rfl rfl
  obtain ⟨fuel, long⟩ : ∃ fuel, (block top field body).length + 1 = fuel + 6 := by
    refine ⟨(block top field body).length - 5, ?_⟩
    simp only [block, List.length_append, List.length_cons]
    omega
  have tokens := Scanner.run_block fuel top field body _ topName fieldName scans
  have inner := Node.value_single (String.ofList field) (.scalar none isPlain text) v fieldName.text value
  have outer := Node.value_single (String.ofList top) _ _ topName.text inner
  simp only [read, tokens?, String.toList_ofList, visible, unmarked, if_true, if_false, long, tokens,
    Node.document_block, outer]

/-! Decimal text as a plain scalar. -/

section Numbers

variable {digits : List Char} {n : Nat} (decimal : Decimal digits n)
include decimal

theorem ne_word (word : String) (other : word.toList.all Char.isDigit = false ∨ word = "") :
    String.ofList digits ≠ word := by
  rintro rfl
  rw [String.toList_ofList] at other
  rcases other with mark | empty
  · rw [List.all_eq_true.mpr decimal.all] at mark
    cases mark
  · exact decimal.present (String.ofList_eq_empty_iff.mp empty)

theorem real?_decimal : real? digits = none := by
  have whole : digits.takeWhile (fun c => c.isDigit || c = '_') = digits :=
    List.takeWhile_eq_self_iff.mpr fun c here => by rw [decimal.all c here, Bool.true_or]
  obtain ⟨c, rest, rfl⟩ := List.exists_cons_of_ne_nil decimal.present
  have digit := decimal.all c List.mem_cons_self
  have point : c ≠ '.' := digit_ne c '.' digit rfl
  rw [real?, decimal.splitSign]
  simp only [digit, whole, List.drop_length]
  rfl

omit decimal in
theorem digitOf_reads : ReadsDigits isDigitRun.digitOf := fun c digit => by
  rw [isDigitRun.digitOf, if_pos digit]

theorem integer?_decimal : integer? digits = some (.ok (n : Int)) := by
  have head : digits.head? ≠ some '_' := decimal.head_mark '_' rfl
  have run : isDigitRun 10 digits = true := by
    rw [isDigitRun, Bool.and_eq_true]
    refine ⟨by simpa using decimal.present, List.all_eq_true.mpr fun c here => ?_⟩
    obtain ⟨low, high⟩ := (isDigit_range c).mp (decimal.all c here)
    have small : c.toNat - 48 < 10 := by omega
    rw [digitOf_reads c (decimal.all c here)]
    simp [small]
  have form : integerForm? digits = some (10, digits) := by
    have base (mark : Char) (rest : List Char) (same : digits = '0' :: mark :: rest) : False :=
      decimal.leading (congrArg List.head? same)
    rw [integerForm?, run, if_pos rfl]
    · exact base 'b'
    · exact base 'o'
    · exact base 'x'
  have plain : withoutSeparators digits = digits :=
    List.filter_eq_self.mpr fun c here => decide_eq_true (digit_ne c '_' (decimal.all c here) rfl)
  have value : digitsValue 10 digits = .ok n := by
    have read := decimal.mapM_values _ digitOf_reads
    have value := decimal.ofDigitValues_values
    have short := decimal.short
    obtain ⟨c, rest, rfl⟩ := List.exists_cons_of_ne_nil decimal.present
    have few : ¬ 4300 < (Decimal.values rest).length + 1 := by
      rw [Decimal.values, List.length_map]
      exact Nat.not_lt.mpr short
    simp only [Decimal.values, List.map_cons] at read value few
    simp only [digitsValue, plain, read, value, few, decide_false, Bool.and_false, Bool.false_eq_true,
      if_false]
  simp only [integer?, decimal.splitSign, head, if_false, form, Option.map_some, value]
  rfl

theorem resolve_decimal : resolve (String.ofList digits) = .ok (.int n) := by
  have apart (word : String) (other : word.toList.all Char.isDigit = false) :=
    ne_word decimal word (Or.inl other)
  have null : isNull (String.ofList digits) = false := by
    simp [isNull, ne_word decimal "" (Or.inr rfl), apart "~" rfl, apart "null" rfl, apart "Null" rfl,
      apart "NULL" rfl]
  have boolean : boolean? (String.ofList digits) = none := by
    simp [boolean?, apart "true" rfl, apart "True" rfl, apart "TRUE" rfl, apart "false" rfl,
      apart "False" rfl, apart "FALSE" rfl]
  simp only [resolve, null, apart "<<" rfl, apart "=" rfl, boolean, String.toList_ofList,
    real?_decimal decimal, integer?_decimal decimal, Bool.false_eq_true, if_false]
  rfl

end Numbers

end EventRetention.Yaml
