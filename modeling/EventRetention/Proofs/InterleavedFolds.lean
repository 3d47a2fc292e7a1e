import EventRetention.Proofs.WholeActions
import Mathlib.Algebra.BigOperators.Group.List.Basic

/-!
Clients that fold occurrences of one series, each in two statements between
which others take turns. A write stores the count that its lookup read, and one
more: when the row was counted up in between, occurrences are lost. The counts
never exceed the folds, and match them exactly as long as every update finds
the count that its client read.
-/

namespace EventRetention

theorem sum_bounded (rows : List Event) (count due : Event → Int)
    (bounded : ∀ r ∈ rows, count r ≤ due r) :
    (rows.map count).sum ≤ (rows.map due).sum ∧
      ((rows.map count).sum = (rows.map due).sum ↔ ∀ r ∈ rows, count r = due r) := by
  induction rows with
  | nil => simp
  | cons row rest ih =>
      obtain ⟨below, exact⟩ := ih fun r member => bounded r (List.mem_cons_of_mem row member)
      have first := bounded row List.mem_cons_self
      simp only [List.map_cons, List.sum_cons, List.forall_mem_cons, ← exact]
      omega

theorem sum_raised (ids : List Int) (due : Int → Int) (id : Int) (distinct : ids.Nodup)
    (member : id ∈ ids) :
    (ids.map fun i => if i = id then due i + 1 else due i).sum = (ids.map due).sum + 1 := by
  induction ids with
  | nil => cases member
  | cons first rest ih =>
      obtain ⟨absent, tail⟩ := List.nodup_cons.mp distinct
      simp only [List.map_cons, List.sum_cons]
      by_cases same : first = id
      · subst same
        have others : (rest.map fun i => if i = first then due i + 1 else due i) = rest.map due := by
          apply List.map_congr_left
          intro i inside
          have apart : i ≠ first := fun equal => absent (equal ▸ inside)
          rw [if_neg apart]
        rw [others, if_pos rfl]
        omega
      · have inside : id ∈ rest := by
          rcases List.mem_cons.mp member with equal | inside
          · exact absurd equal.symm same
          · exact inside
        rw [ih tail inside, if_neg same]
        omega

structure Series where
  jobKey : String
  reason : String
  eventKey : String
deriving DecidableEq

namespace Series

def occurrence (series : Series) (message : String) : Fold.Occurrence :=
  ⟨series.jobKey, series.reason, series.eventKey, message⟩

def holds (series : Series) (e : Event) : Bool :=
  e.inSeries series.jobKey series.reason series.eventKey

end Series

/-- The write of a fold succeeds if its clock is readable, an identifier is left
    and the count fits. -/
theorem Fold.write_succeeds (t : Table) (clock : Clock) (series : Series) (message : String)
    (latest : Option Event) (readable : ∃ time, clock.instant = .ok time) (roomy : t.Roomy)
    (present : ∀ e ∈ latest, e.id ∈ t.ids) (fits : ∀ e ∈ latest, Storable (e.eventCount + 1)) :
    ∃ answer, ((write clock (series.occurrence message) latest).perform Table.run t).1.answer =
      .ok answer := by
  obtain ⟨time, read⟩ := readable
  cases latest with
  | none =>
      have created := Operation.create_succeeds t clock series.jobKey series.reason message
        series.eventKey (some EventType.normal.label) none time read roomy
      refine ⟨.created, ?_⟩
      simp only [write, perform_answering, Outcome.map, Series.occurrence, created]
      rfl
  | some e =>
      have updated := Operation.update_succeeds t clock e.id message (e.eventCount + 1) time read
        (fits e rfl) (present e rfl)
      refine ⟨.updated e.id (e.eventCount + 1), ?_⟩
      simp only [write, perform_answering, Outcome.map, Series.occurrence, updated]
      rfl

namespace Table

def ofSeries (t : Table) (series : Series) : List Event := t.rows.filter series.holds

def counted (t : Table) (series : Series) : Int :=
  ((t.ofSeries series).map fun r => r.eventCount).sum

theorem mem_ofSeries (t : Table) (series : Series) (e : Event) :
    e ∈ t.ofSeries series ↔ e ∈ t.rows ∧ series.holds e = true := List.mem_filter

theorem ofSeries_revise (t : Table) (series : Series) (id : Int) (time : Instant) (text : String)
    (count : Int) :
    (t.revise id time text count).ofSeries series =
      (t.ofSeries series).map fun e => if e.id = id then repeated e time text count else e := by
  change (t.rows.map _).filter _ = (t.rows.filter _).map _
  rw [List.filter_map]
  congr 1
  apply List.filter_congr
  intro e _
  simp only [Function.comp_apply]
  split <;> rfl

/-- With one more due for a row, the sum of what is due grows by one. -/
theorem due_revised (t : Table) (series : Series) (id : Int) (time : Instant) (text : String)
    (count : Int) (due : Int → Int) (member : id ∈ (t.ofSeries series).map (·.id)) :
    (((t.revise id time text count).ofSeries series).map
        fun r => if r.id = id then due r.id + 1 else due r.id).sum =
      ((t.ofSeries series).map fun r => due r.id).sum + 1 := by
  have ids : (((t.revise id time text count).ofSeries series).map
        fun r => if r.id = id then due r.id + 1 else due r.id) =
      ((t.ofSeries series).map (·.id)).map fun i => if i = id then due i + 1 else due i := by
    rw [t.ofSeries_revise, List.map_map, List.map_map]
    apply List.map_congr_left
    intro old _
    by_cases hit : old.id = id <;> simp [hit, Table.repeated]
  have distinct : ((t.ofSeries series).map (·.id)).Nodup :=
    (List.filter_sublist.map _).nodup t.ids_nodup
  rw [ids, sum_raised _ due id distinct member, List.map_map]
  rfl

theorem ofSeries_add (t : Table) (series : Series) (e : Event) (fresh : ∀ r ∈ t.rows, r.id ≠ e.id)
    (fits : Storable e.id) (own : series.holds e = true) :
    ((t.add e fresh fits).ofSeries series).Perm (e :: t.ofSeries series) := by
  have whole := (insertRow_perm e t.rows).filter series.holds
  rwa [List.filter_cons_of_pos own] at whole

end Table

inductive FoldPhase where
  | ready
  | found (latest : Option Event)
deriving DecidableEq

structure FoldCrew where
  table : Table
  clients : List FoldPhase
  answers : List Folded := []

structure FoldTurn where
  who : Nat
  clock : Clock
  message : String

namespace FoldCrew

def start (t : Table) (count : Nat) : FoldCrew := ⟨t, List.replicate count .ready, []⟩

variable (series : Series)

def take (s : FoldCrew) (turn : FoldTurn) : FoldCrew :=
  let o := series.occurrence turn.message
  match s.clients[turn.who]? with
  | none => s
  | some .ready =>
      let (found, table) := (Fold.lookup o).perform Table.run s.table
      match found.answer with
      | .error _ => { s with table }
      | .ok latest => { s with table, clients := s.clients.set turn.who (.found latest) }
  | some (.found latest) =>
      let (written, table) := (Fold.write turn.clock o latest).perform Table.run s.table
      { table
        clients := s.clients.set turn.who .ready
        answers := s.answers ++ written.answer.toOption.toList }

def run (s : FoldCrew) (turns : List FoldTurn) : FoldCrew := turns.foldl (take series) s

/-- A turn completes a fold by an update, but the row no longer has the count
    that the lookup of this fold read. -/
def Overtaken (s : FoldCrew) (turn : FoldTurn) : Prop :=
  ∃ e r, s.clients[turn.who]? = some (.found (some e)) ∧ r ∈ s.table.rows ∧ r.id = e.id ∧
    r.eventCount ≠ e.eventCount ∧ s.answers.length < (s.take series turn).answers.length

def Lowers (s : FoldCrew) (turn : FoldTurn) : Prop :=
  ∃ r ∈ s.table.rows, ∃ changed ∈ (s.take series turn).table.rows,
    changed.id = r.id ∧ changed.eventCount < r.eventCount

instance (s : FoldCrew) (turn : FoldTurn) : Decidable (s.Lowers series turn) :=
  inferInstanceAs (Decidable (∃ r ∈ s.table.rows, ∃ changed ∈ (s.take series turn).table.rows,
    changed.id = r.id ∧ changed.eventCount < r.eventCount))

def Smooth (s : FoldCrew) (turns : List FoldTurn) : Prop :=
  ∀ past turn, past ++ [turn] <+: turns → ¬ (s.run series past).Overtaken series turn

theorem run_snoc (s : FoldCrew) (turns : List FoldTurn) (turn : FoldTurn) :
    s.run series (turns ++ [turn]) = (s.run series turns).take series turn :=
  List.foldl_append

theorem smooth_snoc (s : FoldCrew) (turns : List FoldTurn) (turn : FoldTurn) :
    s.Smooth series (turns ++ [turn]) ↔
      s.Smooth series turns ∧ ¬ (s.run series turns).Overtaken series turn := by
  constructor
  · intro smooth
    exact ⟨fun past last inside => smooth past last (inside.trans (List.prefix_append turns [turn])),
      smooth turns turn List.prefix_rfl⟩
  · rintro ⟨before, now⟩ past last inside
    rcases List.prefix_concat_iff.mp inside with whole | earlier
    · obtain ⟨rfl, same⟩ := List.append_inj' whole rfl
      cases same
      exact now
    · exact before past last earlier

inductive Taken (s : FoldCrew) (turn : FoldTurn) : FoldCrew → Prop where
  | missing (gone : s.clients[turn.who]? = none) : Taken s turn s
  | looked (here : s.clients[turn.who]? = some .ready) :
      Taken s turn { s with
        clients := s.clients.set turn.who
          (.found (Fold.found s.table (series.occurrence turn.message))) }
  | failed (latest : Option Event) (here : s.clients[turn.who]? = some (.found latest)) :
      Taken s turn { s with clients := s.clients.set turn.who .ready }
  | created (here : s.clients[turn.who]? = some (.found none)) (e : Event)
      (fresh : ∀ r ∈ s.table.rows, r.id ≠ e.id) (fits : Storable e.id) (own : series.holds e = true)
      (first : e.eventCount = 1) :
      Taken s turn ⟨s.table.add e fresh fits, s.clients.set turn.who .ready, s.answers ++ [.created]⟩
  | updated (e : Event) (here : s.clients[turn.who]? = some (.found (some e)))
      (present : e.id ∈ s.table.ids) (time : Instant) :
      Taken s turn ⟨s.table.revise e.id time turn.message (e.eventCount + 1),
        s.clients.set turn.who .ready, s.answers ++ [.updated e.id (e.eventCount + 1)]⟩

theorem take_ready (s : FoldCrew) (turn : FoldTurn) (here : s.clients[turn.who]? = some .ready) :
    s.take series turn = { s with
      clients := s.clients.set turn.who
        (.found (Fold.found s.table (series.occurrence turn.message))) } := by
  simp only [take, here, Fold.perform_lookup]

theorem take_found (s : FoldCrew) (turn : FoldTurn) (latest : Option Event)
    (here : s.clients[turn.who]? = some (.found latest)) :
    let done := (Fold.write turn.clock (series.occurrence turn.message) latest).perform Table.run
      s.table
    s.take series turn = ⟨done.2, s.clients.set turn.who .ready,
      s.answers ++ done.1.answer.toOption.toList⟩ := by
  simp only [take, here]

/-- Two turns of a client in a row are a fold. -/
theorem take_fold (s : FoldCrew) (first second : FoldTurn) (same : first.who = second.who)
    (here : s.clients[first.who]? = some .ready) :
    let done := fold Table.run second.clock (series.occurrence second.message) s.table
    (s.take series first).take series second =
      ⟨done.2, s.clients, s.answers ++ done.1.answer.toOption.toList⟩ := by
  obtain ⟨inside, ready⟩ := List.getElem?_eq_some_iff.mp here
  have waits : (s.take series first).clients[second.who]? =
      some (.found (Fold.found s.table (series.occurrence second.message))) := by
    rw [take_ready series s first here, ← same]
    exact List.getElem?_set_self inside
  have back : (s.clients.set first.who
      (.found (Fold.found s.table (series.occurrence first.message)))).set second.who .ready =
      s.clients := by
    rw [← same, List.set_set, ← ready]
    exact List.set_getElem_self inside
  rw [take_found series _ second _ waits, take_ready series s first here, Fold.fold_write]
  simp only [back]

theorem take_taken (s : FoldCrew) (turn : FoldTurn) : Taken series s turn (s.take series turn) := by
  have failed : ∀ latest, s.clients[turn.who]? = some (.found latest) →
      Taken series s turn ⟨s.table, s.clients.set turn.who .ready, s.answers ++ []⟩ := by
    intro latest here
    rw [List.append_nil]
    exact .failed latest here
  cases here : s.clients[turn.who]? with
  | none =>
      simp only [take, here]
      exact .missing here
  | some client =>
      cases client with
      | ready =>
          rw [take_ready series s turn here]
          exact .looked here
      | found latest =>
          rw [take_found series s turn latest here]
          cases latest with
          | none =>
              rcases Fold.write_none s.table turn.clock (series.occurrence turn.message) with
                ⟨cause, answer, same⟩ | ⟨e, fresh, fits, answer, added, made⟩
              · rw [answer, same]
                exact failed none here
              · rw [answer, added]
                exact .created here e fresh fits made.inSeries made.eventCount
          | some e =>
              rcases Fold.write_some s.table turn.clock (series.occurrence turn.message) e with
                ⟨cause, answer, same⟩ | ⟨time, text, answer, revised, present, -, message⟩
              · rw [answer, same]
                exact failed (some e) here
              · cases message
                rw [answer, revised]
                exact .updated e here present time

/-- What the rows would count if no occurrence had been lost: `due` tells it for
    an identifier, and all folds completed since the start are in it. A client
    that waits to write has read no more than is due, and if as much, its row
    has not changed since. -/
structure Accounted (initial : Int) (smooth : Prop) (s : FoldCrew) (due : Int → Int) : Prop where
  bounded : ∀ r ∈ s.table.ofSeries series, r.eventCount ≤ due r.id
  total : ((s.table.ofSeries series).map fun r => due r.id).sum = initial + s.answers.length
  waiting : ∀ (who : Nat) (e : Event), s.clients[who]? = some (.found (some e)) →
    e.eventCount ≤ due e.id ∧ ∃ r ∈ s.table.ofSeries series, r.id = e.id ∧
      (e.eventCount = due e.id → r.eventCount = e.eventCount)
  exact : (∀ r ∈ s.table.ofSeries series, r.eventCount = due r.id) ↔ smooth

theorem start_accounted (t : Table) (count : Nat) :
    ∃ due, Accounted series (t.counted series) True (start t count) due := by
  let due (id : Int) : Int := ((t.rows.find? fun r => r.id == id).map (·.eventCount)).getD 0
  have own : ∀ r ∈ t.ofSeries series, r.eventCount = due r.id := by
    intro r member
    have present := ((t.mem_ofSeries series r).mp member).1
    obtain ⟨found, same⟩ : ∃ found, t.rows.find? (fun other => other.id == r.id) = some found :=
      Option.isSome_iff_exists.mp (List.find?_isSome.mpr ⟨r, present, by simp⟩)
    have equal : found = r := t.id_unique found r (List.mem_of_find?_eq_some same) present
      (by simpa using List.find?_some same)
    simp only [due, same, equal, Option.map_some, Option.getD_some]
  refine ⟨due, fun r member => Int.le_of_eq (own r member), ?_, fun who e waits => ?_,
    iff_true_intro own⟩
  · change _ = (_ : Int) + ((0 : Nat) : Int)
    rw [Int.natCast_zero, Int.add_zero]
    exact congrArg List.sum (List.map_congr_left fun r member => (own r member).symm)
  · have ready := List.eq_of_mem_replicate (List.mem_of_getElem? waits)
    cases ready

/-- What the clients wait for after one of them has got ready, or was before. -/
theorem waiting_set (s : FoldCrew) (who other : Nat) (e : Event)
    (waits : (s.clients.set who .ready)[other]? = some (.found (some e))) :
    s.clients[other]? = some (.found (some e)) := by
  by_cases own : who = other
  · subst own
    rw [List.getElem?_set_self'] at waits
    cases here : s.clients[who]? <;> simp [here] at waits
  · rwa [List.getElem?_set_ne own] at waits

namespace Accounted

variable {series} {initial : Int} {smooth : Prop} {s : FoldCrew} {due : Int → Int}

theorem looked (who : Nat) (message : String) (known : Accounted series initial smooth s due) :
    Accounted series initial smooth { s with
      clients := s.clients.set who (.found (Fold.found s.table (series.occurrence message))) } due := by
  refine { known with waiting := fun other e waits => ?_ }
  by_cases own : who = other
  · subst own
    have found : Fold.found s.table (series.occurrence message) = some e := by
      rw [List.getElem?_set_self'] at waits
      cases here : s.clients[who]? with
      | none => simp [here] at waits
      | some phase => simpa [here] using waits
    obtain ⟨member, holds, -⟩ := (Fold.found_iff _ _ e).mp found
    have present := (s.table.mem_ofSeries series e).mpr ⟨member, holds⟩
    exact ⟨known.bounded e present, e, present, rfl, fun _ => rfl⟩
  · exact known.waiting other e (by rwa [List.getElem?_set_ne own] at waits)

theorem failed (who : Nat) (known : Accounted series initial smooth s due) :
    Accounted series initial smooth { s with clients := s.clients.set who .ready } due :=
  { known with waiting := fun other e waits => known.waiting other e (waiting_set s who other e waits) }

theorem created (who : Nat) (e : Event) (fresh : ∀ r ∈ s.table.rows, r.id ≠ e.id)
    (fits : Storable e.id) (own : series.holds e = true) (first : e.eventCount = 1)
    (known : Accounted series initial smooth s due) :
    Accounted series initial smooth
      ⟨s.table.add e fresh fits, s.clients.set who .ready, s.answers ++ [.created]⟩
      (fun id => if id = e.id then 1 else due id) := by
  have rows := s.table.ofSeries_add series e fresh fits own
  have apart : ∀ r ∈ s.table.ofSeries series, r.id ≠ e.id :=
    fun r member => fresh r ((s.table.mem_ofSeries series r).mp member).1
  -- What is due for the other rows is as it was.
  have same : ∀ r ∈ s.table.ofSeries series, (if r.id = e.id then 1 else due r.id) = due r.id :=
    fun r member => if_neg (apart r member)
  constructor
  · intro r member
    rcases List.mem_cons.mp (rows.mem_iff.mp member) with new | old
    · rw [new, if_pos rfl, first]
    · rw [same r old]
      exact known.bounded r old
  · rw [(rows.map _).sum_eq, List.map_cons, List.sum_cons, if_pos rfl, List.map_congr_left same,
      known.total, List.length_append, List.length_singleton]
    omega
  · intro other f waits
    obtain ⟨below, r, member, same', kept⟩ := known.waiting other f (waiting_set s who other f waits)
    have different : f.id ≠ e.id := same' ▸ apart r member
    rw [if_neg different]
    exact ⟨below, r, rows.mem_iff.mpr (List.mem_cons_of_mem e member), same', kept⟩
  · rw [← known.exact]
    constructor
    · intro exact r member
      have whole := exact r (rows.mem_iff.mpr (List.mem_cons_of_mem e member))
      rwa [same r member] at whole
    · intro exact r member
      rcases List.mem_cons.mp (rows.mem_iff.mp member) with new | old
      · rw [new, if_pos rfl, first]
      · rw [same r old]
        exact exact r old

theorem updated (who : Nat) (e r : Event) (time : Instant) (text : String) (answer : Folded)
    (here : s.clients[who]? = some (.found (some e))) (present : r ∈ s.table.rows)
    (same : r.id = e.id) (known : Accounted series initial smooth s due) :
    Accounted series initial (smooth ∧ r.eventCount = e.eventCount)
      ⟨s.table.revise e.id time text (e.eventCount + 1), s.clients.set who .ready,
        s.answers ++ [answer]⟩
      (fun id => if id = e.id then due id + 1 else due id) := by
  have rows := s.table.ofSeries_revise series e.id time text (e.eventCount + 1)
  obtain ⟨below, row, inside, here', kept⟩ := known.waiting who e here
  obtain rfl : row = r := s.table.id_unique row r ((s.table.mem_ofSeries series row).mp inside).1
    present (here'.trans same.symm)
  have bound := known.bounded row inside
  -- Only this row has the identifier, so counts and dues change in one place.
  have changed : ∀ other ∈ s.table.ofSeries series, other.id = e.id → other = row :=
    fun other member equal => s.table.id_unique other row
      ((s.table.mem_ofSeries series other).mp member).1 present (equal.trans same.symm)
  constructor
  · rw [rows]
    intro r member
    obtain ⟨old, before, rfl⟩ := List.mem_map.mp member
    by_cases hit : old.id = e.id
    · simp only [hit, ↓reduceIte, Table.repeated]
      omega
    · simp only [hit, ↓reduceIte]
      exact known.bounded old before
  · have due_more := s.table.due_revised series e.id time text (e.eventCount + 1) due
      (same ▸ List.mem_map_of_mem inside)
    rw [due_more, known.total, List.length_append, List.length_singleton]
    omega
  · intro other f waits
    obtain ⟨low, old, before, equal, still⟩ := known.waiting other f (waiting_set s who other f waits)
    refine ⟨by split <;> omega, _, rows ▸ List.mem_map_of_mem before, ?_, ?_⟩
    · by_cases hit : old.id = e.id <;> simp [hit, Table.repeated, ← equal]
    · by_cases hit : f.id = e.id
      · rw [if_pos hit]
        omega
      · have apart : old.id ≠ e.id := equal ▸ hit
        rw [if_neg hit, if_neg apart]
        exact still
  · rw [← known.exact, rows]
    constructor
    · intro exact
      have full := exact _ (List.mem_map_of_mem inside)
      simp only [same, ↓reduceIte, Table.repeated] at full
      -- If the row counts all that is due after the update, it counted all before it.
      have unchanged := kept (by omega)
      refine ⟨fun old before => ?_, unchanged⟩
      by_cases hit : old.id = e.id
      · rw [changed old before hit, same]
        omega
      · have whole := exact _ (List.mem_map_of_mem before)
        simpa only [hit, ↓reduceIte] using whole
    · rintro ⟨exact, unchanged⟩ r member
      obtain ⟨old, before, rfl⟩ := List.mem_map.mp member
      by_cases hit : old.id = e.id
      · have full := exact row inside
        simp only [hit, ↓reduceIte, Table.repeated]
        rw [same] at full
        omega
      · simp only [hit, ↓reduceIte]
        exact exact old before

/-- One turn: the accounts stay, and they stay exact unless the turn is an
    overtaken update. -/
theorem take (turn : FoldTurn) (known : Accounted series initial smooth s due) :
    ∃ due', Accounted series initial (smooth ∧ ¬ s.Overtaken series turn) (s.take series turn) due' := by
  -- A turn that completes no update is not overtaken.
  have still : ∀ after due', ¬ s.Overtaken series turn →
      Accounted series initial smooth after due' →
      ∃ due', Accounted series initial (smooth ∧ ¬ s.Overtaken series turn) after due' := by
    intro after due' free accounts
    exact ⟨due', by simpa only [free, not_false_eq_true, and_true] using accounts⟩
  have taken := take_taken series s turn
  generalize whole : s.take series turn = after at taken
  cases taken with
  | missing gone =>
      refine still _ due ?_ known
      rintro ⟨e, r, here, -⟩
      rw [gone] at here
      cases here
  | looked ready =>
      refine still _ due ?_ (known.looked turn.who turn.message)
      rintro ⟨e, r, here, -⟩
      rw [ready] at here
      cases here
  | failed latest here =>
      refine still _ due ?_ (known.failed turn.who)
      rintro ⟨e, r, -, -, -, -, more⟩
      rw [whole] at more
      exact Nat.lt_irrefl _ more
  | created nothing e fresh fits own first =>
      refine still _ _ ?_ (known.created turn.who e fresh fits own first)
      rintro ⟨f, r, here, -⟩
      rw [nothing] at here
      cases here
  | updated e here present time =>
      obtain ⟨r, member, same⟩ := List.mem_map.mp present
      have accounts := known.updated turn.who e r time turn.message
        (.updated e.id (e.eventCount + 1)) here member same
      have free : ¬ s.Overtaken series turn ↔ r.eventCount = e.eventCount := by
        constructor
        · intro free
          by_contra other
          exact free ⟨e, r, here, member, same, other, by rw [whole]; simp⟩
        · rintro equal ⟨f, row, there, inside, own, other, -⟩
          rw [here] at there
          cases there
          rw [s.table.id_unique row r inside member (own.trans same.symm)] at other
          exact other equal
      exact ⟨_, by rw [free]; exact accounts⟩

/-- The row that a client waits to update is there: nobody deletes. -/
theorem present (who : Nat) (e : Event) (here : s.clients[who]? = some (.found (some e)))
    (known : Accounted series initial smooth s due) : e.id ∈ s.table.ids := by
  obtain ⟨-, r, member, same, -⟩ := known.waiting who e here
  exact same ▸ List.mem_map_of_mem ((s.table.mem_ofSeries series r).mp member).1

end Accounted

theorem run_accounted (t : Table) (count : Nat) (turns : List FoldTurn) :
    ∃ due, Accounted series (t.counted series) ((start t count).Smooth series turns)
      ((start t count).run series turns) due := by
  induction turns using List.reverseRecOn with
  | nil =>
      have smooth : (start t count).Smooth series [] := by
        intro past turn inside
        exact absurd (List.prefix_nil.mp inside) (List.append_ne_nil_of_right_ne_nil _ (by simp))
      rw [eq_true smooth]
      exact start_accounted series t count
  | append_singleton past turn ih =>
      obtain ⟨due, known⟩ := ih
      rw [run_snoc, smooth_snoc]
      exact known.take turn

/-- A write completes its fold if the clock is readable, an identifier is left
    and the count fits. -/
theorem take_completes (s : FoldCrew) (turn : FoldTurn) (latest : Option Event)
    (here : s.clients[turn.who]? = some (.found latest))
    (present : ∀ e ∈ latest, e.id ∈ s.table.ids)
    (readable : ∃ time, turn.clock.instant = .ok time) (roomy : s.table.Roomy)
    (fits : ∀ e ∈ latest, Storable (e.eventCount + 1)) :
    (s.take series turn).answers.length = s.answers.length + 1 := by
  obtain ⟨answer, done⟩ := Fold.write_succeeds s.table turn.clock series turn.message latest readable
    roomy present fits
  rw [take_found series s turn latest here, done, List.length_append]
  rfl

/-- Only an overtaken update lowers the count of a row. -/
theorem lowers_overtaken (s : FoldCrew) (turn : FoldTurn) (lowers : s.Lowers series turn) :
    s.Overtaken series turn := by
  obtain ⟨r, member, changed, after, same, less⟩ := lowers
  have taken := take_taken series s turn
  generalize whole : s.take series turn = next at taken after
  have kept : changed ∈ s.table.rows → False := by
    intro old
    rw [s.table.id_unique changed r old member same] at less
    exact Int.lt_irrefl _ less
  cases taken with
  | missing gone => exact (kept after).elim
  | looked ready => exact (kept after).elim
  | failed latest here => exact (kept after).elim
  | created nothing e fresh fits own first =>
      rcases Table.mem_insertRow.mp after with new | old
      · exact absurd (new ▸ same.symm) (fresh r member)
      · exact (kept old).elim
  | updated e here present time =>
      obtain ⟨old, before, rfl⟩ := List.mem_map.mp after
      by_cases hit : old.id = e.id
      · simp only [hit, ↓reduceIte, Table.repeated] at same less
        refine ⟨e, r, here, member, same.symm, by omega, by rw [whole]; simp⟩
      · simp only [hit, ↓reduceIte] at kept
        exact (kept before).elim

/-- Clients that fold occurrences of one series while nobody deletes. The rows
    never count more than was folded, and count all of it exactly if no update
    was overtaken; only an overtaken update lowers a count; and a write with a
    readable clock completes its fold while identifiers and counts are left. -/
theorem folds_counted_iff (t : Table) (count : Nat) (turns : List FoldTurn) :
    let s := (start t count).run series turns
    s.table.counted series ≤ t.counted series + s.answers.length ∧
      (s.table.counted series = t.counted series + s.answers.length ↔
        ∀ past turn, past ++ [turn] <+: turns →
          ¬ ((start t count).run series past).Overtaken series turn) ∧
      ∀ past turn, past ++ [turn] <+: turns →
        let before := (start t count).run series past
        let after := (start t count).run series (past ++ [turn])
        (before.Lowers series turn → before.Overtaken series turn) ∧
        ∀ latest, before.clients[turn.who]? = some (.found latest) →
          (∃ time, turn.clock.instant = .ok time) → before.table.Roomy →
          (∀ e ∈ latest, Storable (e.eventCount + 1)) →
          after.answers.length = before.answers.length + 1 := by
  intro s
  obtain ⟨due, known⟩ := run_accounted series t count turns
  obtain ⟨below, equal⟩ := sum_bounded _ (fun r => r.eventCount) (fun r => due r.id) known.bounded
  rw [known.total] at below equal
  refine ⟨below, equal.trans known.exact, fun past turn _ => ?_⟩
  obtain ⟨owed, accounts⟩ := run_accounted series t count past
  refine ⟨lowers_overtaken series _ turn, fun latest here readable roomy fits => ?_⟩
  rw [run_snoc]
  refine take_completes series _ turn latest here (fun e found => ?_) readable roomy fits
  cases found
  exact accounts.present turn.who e here

/-! Of two clients one reads the count 1 and waits. The other one folds twice
meanwhile, and both occurrences are lost when the first client stores 2. -/

def oneSeries : Series := ⟨"job", "reason", "key"⟩

def turnOf (who : Nat) : FoldTurn := ⟨who, .settable Clock.defaultStart, "text"⟩

def overwritten : List FoldTurn := [0, 0, 0, 1, 1, 1, 1, 0].map turnOf

theorem overwritten_counts :
    let s := (start .empty 2).run oneSeries overwritten
    (∀ client ∈ s.clients, client = .ready) ∧ s.answers.length = 4 ∧
      s.table.counted oneSeries = 2 := by
  decide

theorem overwritten_readable : ∀ turn ∈ overwritten, ∃ time, turn.clock.instant = .ok time := by
  intro turn member
  obtain ⟨who, -, rfl⟩ := List.mem_map.mp member
  exact ⟨Clock.defaultStart, rfl⟩

theorem occurrences_lost :
    (¬ ∀ (series : Series) (count : Nat) (turns : List FoldTurn),
      (∀ turn ∈ turns, ∃ time, turn.clock.instant = .ok time) →
      let s := (start .empty count).run series turns
      (∀ client ∈ s.clients, client = .ready) → s.table.counted series = s.answers.length) ∧
    ¬ ∀ (series : Series) (count : Nat) (turns : List FoldTurn),
      (∀ turn ∈ turns, ∃ time, turn.clock.instant = .ok time) →
      ∀ past turn, past ++ [turn] <+: turns →
        ¬ ((start .empty count).run series past).Lowers series turn := by
  obtain ⟨ready, folds, total⟩ := overwritten_counts
  constructor
  · intro none
    have equal := none oneSeries 2 overwritten overwritten_readable ready
    rw [folds, total] at equal
    cases equal
  · intro never
    have lowers : ((start .empty 2).run oneSeries ([0, 0, 0, 1, 1, 1, 1].map turnOf)).Lowers oneSeries
        (turnOf 0) := by decide
    exact never oneSeries 2 overwritten overwritten_readable _ (turnOf 0) List.prefix_rfl lowers

theorem folds_counted_overwritten :
    (∃ past turn, past ++ [turn] <+: overwritten ∧
      ((start .empty 2).run oneSeries past).Overtaken oneSeries turn) ∧
    ((start .empty 2).run oneSeries overwritten).answers.length =
      ((start .empty 2).run oneSeries (overwritten.take 7)).answers.length + 1 := by
  obtain ⟨-, folds, total⟩ := overwritten_counts
  obtain ⟨-, exact, turns⟩ := folds_counted_iff oneSeries .empty 2 overwritten
  constructor
  · by_contra smooth
    have equal := exact.mpr fun past turn inside overtaken => smooth ⟨past, turn, inside, overtaken⟩
    rw [folds, total] at equal
    cases equal
  · obtain ⟨-, completes⟩ := turns (overwritten.take 7) (turnOf 0) List.prefix_rfl
    exact completes (some ⟨1, Clock.defaultStart, Clock.defaultStart, "job", "reason", "Normal",
      "text", 1, "key"⟩) (by decide) ⟨Clock.defaultStart, rfl⟩ (by decide) (by decide)

end FoldCrew

end EventRetention
