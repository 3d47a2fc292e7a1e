import EventRetention.Proofs.ExpiryPrefix
import EventRetention.Proofs.SessionStates

/-!
The one row that a create or an update writes. A create adds its row behind all
others, and a lookup of exactly its three keys finds it from then on, while
every other lookup answers as before. An update changes three fields of the row
that has its identifier. Whatever else can come of them leaves the table as it
was: a time outside the years 1 to 9999, a null text, an identifier that no row
has.
-/

namespace EventRetention

namespace Clock

/-- A reading stands for the instant with its microseconds in universal time. -/
theorem normalise_within (r : Reading) (time : Instant) (same : time.micros = r.micros) :
    normalise r = .ok time := by
  have inside : 0 ≤ r.micros ∧ r.micros < 315537897600000000 := same ▸ time.inRange
  have read : r.toUtc? = some time := by
    unfold Reading.toUtc? Instant.ofMicros?
    rw [dif_pos inside, Option.some.injEq, Instant.mk.injEq]
    exact same.symm
  simp only [normalise, read]

theorem normalise_outside (r : Reading) (outside : ∀ time : Instant, time.micros ≠ r.micros) :
    normalise r = .error .instantOutOfRange := by
  have read : r.toUtc? = none := dif_neg fun inside => outside ⟨r.micros, inside⟩ rfl
  simp only [normalise, read]

end Clock

/-! Null fields of a new row. -/

/-- Whether a draft leaves a column of its row null; a missing identifier is
    assigned. -/
def Draft.isNull (d : Draft) : Column → Bool
  | .id => false
  | .createTime => d.createTime.isNone
  | .updateTime => d.updateTime.isNone
  | .jobKey => d.jobKey.isNone
  | .reason => d.reason.isNone
  | .eventType => d.eventType.isNone
  | .message => d.message.isNone
  | .eventCount => d.eventCount.isNone
  | .eventKey => d.eventKey.isNone

namespace Table

/-- Of several null fields the first in table order is reported. -/
theorem event_null (t : Table) (d : Draft) (column : Column)
    (first : Column.all.find? d.isNull = some column) : t.event d = .error (.nullColumn column) := by
  obtain ⟨id, created, updated, job, reason, type, text, count, key⟩ := d
  rcases created with _ | created
  · cases first
    rfl
  rcases updated with _ | updated
  · cases first
    rfl
  rcases job with _ | job
  · cases first
    rfl
  rcases reason with _ | reason
  · cases first
    rfl
  rcases type with _ | type
  · cases first
    rfl
  rcases text with _ | text
  · cases first
    rfl
  rcases count with _ | count
  · cases first
    rfl
  rcases key with _ | key
  · cases first
    rfl
  · cases first

theorem insert_null (t : Table) (d : Draft) (column : Column) (fit : fits d = true)
    (first : Column.all.find? d.isNull = some column) : t.insert d = .error (.nullColumn column) := by
  unfold insert
  rw [fit, t.event_null d column first]
  rfl

end Table

/-! The row of a create. -/

namespace Event

theorem inSeries_iff (e : Event) (jobKey reason eventKey : Option String) :
    e.inSeries jobKey reason eventKey = true ↔
      (jobKey, reason, eventKey) = (some e.jobKey, some e.reason, some e.eventKey) := by
  simp only [inSeries, concerns, Bool.and_eq_true, beq_iff_eq, Prod.mk.injEq]
  constructor
  · rintro ⟨⟨job, why⟩, key⟩
    exact ⟨job.symm, why.symm, key.symm⟩
  · rintro ⟨job, why, key⟩
    exact ⟨⟨job.symm, why.symm⟩, key.symm⟩

end Event

namespace Table

theorem nextId_max (t : Table) (roomy : t.Roomy) : t.nextId = t.ids.max?.elim 1 (· + 1) := by
  unfold nextId ids
  rw [ascending_max t.rows t.ascending]
  cases last : t.rows.getLast? with
  | none => rfl
  | some e => exact if_pos (roomy e (List.mem_of_getLast? last))

theorem latest_own (t after : Table) (e : Event) (added : after.rows = t.rows ++ [e]) :
    after.latest (some e.jobKey) (some e.reason) (some e.eventKey) = some e := by
  have own := (e.inSeries_iff (some e.jobKey) (some e.reason) (some e.eventKey)).mpr rfl
  unfold latest
  rw [added, List.filter_append, List.filter_singleton, own]
  exact List.getLast?_concat

theorem latest_other (t after : Table) (e : Event) (added : after.rows = t.rows ++ [e])
    (jobKey reason eventKey : Option String)
    (other : (jobKey, reason, eventKey) ≠ (some e.jobKey, some e.reason, some e.eventKey)) :
    after.latest jobKey reason eventKey = t.latest jobKey reason eventKey := by
  have foreign : e.inSeries jobKey reason eventKey = false :=
    eq_false_of_ne_true fun own => other ((e.inSeries_iff jobKey reason eventKey).mp own)
  unfold latest
  rw [added, List.filter_append, List.filter_singleton, foreign]
  exact congrArg List.getLast? (List.append_nil _)

end Table

namespace Session

section

variable (t : Table) (clocks : List Clock) (who : Nat)

def creation (jobKey reason eventType message eventKey : Option String)
    (createTime : Option Reading) : Step :=
  ⟨who, .store (.create jobKey reason eventType message eventKey createTime)⟩

theorem step_creation (jobKey reason eventType message eventKey : String)
    (createTime : Option Reading) (time : Instant) (roomy : t.Roomy)
    (read : time.micros = (createTime.getD ((opened t clocks).clockOf who).now).micros) :
    let e : Event := ⟨t.ids.max?.elim 1 (· + 1), time, time, jobKey, reason, eventType, message, 1,
      eventKey⟩
    ∃ after, after.rows = t.rows ++ [e] ∧
      (opened t clocks).step (creation who (some jobKey) (some reason) (some eventType)
          (some message) (some eventKey) createTime) =
        ({ answer := .ok .done
           notices := [.eventCreated (some jobKey) (some reason) (some eventKey)] },
          opened after clocks) := by
  intro e
  have normal := Clock.normalise_within _ time read
  have whole := Operation.perform_create t ((opened t clocks).clockOf who) jobKey reason message
    eventKey (some eventType) createTime time normal roomy
  let row : Event := ⟨t.nextId, time, time, jobKey, reason, eventType, message, 1, eventKey⟩
  refine ⟨t.add row (t.nextId_fresh roomy) (t.nextId_storable roomy), ?_, ?_⟩
  · change Table.insertRow row t.rows = t.rows ++ [e]
    have same : row = e := congrArg (fun id => { e with id }) (t.nextId_max roomy)
    rw [Table.insertRow_last row t.rows (t.nextId_above roomy), same]
  · rw [creation, step_store]
    simp only [StoreAction.perform, whole]
    rfl

theorem step_creation_null (jobKey reason eventType message eventKey : Option String)
    (createTime : Option Reading) (time : Instant)
    (read : time.micros = (createTime.getD ((opened t clocks).clockOf who).now).micros)
    (column : Column)
    (first : Column.all.find? (Operation.newEvent time jobKey reason eventType message eventKey).isNull
      = some column) :
    (opened t clocks).step (creation who jobKey reason eventType message eventKey createTime) =
      ({ answer := .error (.nullColumn column) }, opened t clocks) := by
  have normal := Clock.normalise_within _ time read
  have refused := t.insert_null _ column rfl first
  rw [creation, step_store]
  simp only [StoreAction.perform, Operation.perform, Operation.create, normal, bind, Except.bind,
    pure, Except.pure, Table.run, refused]
  rfl

theorem step_creation_outside (jobKey reason eventType message eventKey : Option String)
    (createTime : Option Reading)
    (outside : ∀ time : Instant,
      time.micros ≠ (createTime.getD ((opened t clocks).clockOf who).now).micros) :
    (opened t clocks).step (creation who jobKey reason eventType message eventKey createTime) =
      ({ answer := .error .instantOutOfRange }, opened t clocks) := by
  have failed := Clock.normalise_outside _ outside
  rw [creation, step_store]
  simp only [StoreAction.perform, Operation.perform, Operation.create, failed, bind, Except.bind]
  rfl

end

/-- A create at a time within the years 1 to 9999, with all its texts, adds a row
    behind the others, which lookups of its keys find as it is and no other
    lookup sees. A null text is refused by the first column that would be null,
    a time outside those years by itself, and then nothing has changed. -/
theorem created_row_found (t : Table) (clocks : List Clock) (who : Nat)
    (createTime : Option Reading) :
    let start := opened t clocks
    let stamp := createTime.getD (start.clockOf who).now
    (∀ (jobKey reason eventType message eventKey : String) (time : Instant), t.Roomy →
      time.micros = stamp.micros →
      let e : Event := ⟨t.ids.max?.elim 1 (· + 1), time, time, jobKey, reason, eventType, message, 1,
        eventKey⟩
      ∃ after, after.rows = t.rows ++ [e] ∧
        start.step (creation who (some jobKey) (some reason) (some eventType) (some message)
            (some eventKey) createTime) =
          ({ answer := .ok .done
             notices := [.eventCreated (some jobKey) (some reason) (some eventKey)] },
            opened after clocks) ∧
        (∀ reader, (opened after clocks).step
            (lookup (some jobKey) (some reason) (some eventKey) reader) =
          ({ answer := .ok (.event (some e)) }, opened after clocks)) ∧
        ∀ job why key reader,
          (job, why, key) ≠ (some jobKey, some reason, some eventKey) →
          ((opened after clocks).step (lookup job why key reader)).1 =
            (start.step (lookup job why key reader)).1) ∧
    ∀ jobKey reason eventType message eventKey : Option String,
      (∀ time : Instant, time.micros = stamp.micros →
        (jobKey = none ∨ reason = none ∨ message = none ∨ eventKey = none) →
        ∃ column,
          Column.all.find?
            (Operation.newEvent time jobKey reason eventType message eventKey).isNull = some column ∧
          start.step (creation who jobKey reason eventType message eventKey createTime) =
            ({ answer := .error (.nullColumn column) }, start)) ∧
      ((∀ time : Instant, time.micros ≠ stamp.micros) →
        start.step (creation who jobKey reason eventType message eventKey createTime) =
          ({ answer := .error .instantOutOfRange }, start)) := by
  intro start stamp
  constructor
  · intro jobKey reason eventType message eventKey time roomy read e
    obtain ⟨after, added, created⟩ := step_creation t clocks who jobKey reason eventType message
      eventKey createTime time roomy read
    refine ⟨after, added, created, fun reader => ?_, fun job why key reader other => ?_⟩
    · have found : after.latest (some jobKey) (some reason) (some eventKey) = some e :=
        t.latest_own after e added
      rw [step_lookup, found]
    · rw [step_lookup, step_lookup, t.latest_other after e added job why key other]
  · intro jobKey reason eventType message eventKey
    refine ⟨fun time read missing => ?_,
      step_creation_outside t clocks who jobKey reason eventType message eventKey createTime⟩
    let draft := Operation.newEvent time jobKey reason eventType message eventKey
    -- The first null column need not be the one that is known to be null.
    have found : (Column.all.find? draft.isNull).isSome = true := by
      rw [List.find?_isSome]
      rcases missing with absent | absent | absent | absent
      · exact ⟨.jobKey, by decide, Option.isNone_iff_eq_none.mpr absent⟩
      · exact ⟨.reason, by decide, Option.isNone_iff_eq_none.mpr absent⟩
      · exact ⟨.message, by decide, Option.isNone_iff_eq_none.mpr absent⟩
      · exact ⟨.eventKey, by decide, Option.isNone_iff_eq_none.mpr absent⟩
    obtain ⟨column, first⟩ := Option.isSome_iff_exists.mp found
    exact ⟨column, first, step_creation_null t clocks who jobKey reason eventType message eventKey
      createTime time read column first⟩

/-! At noon by a clock five and a half hours and fifteen seconds ahead; a key that
ends in a null character, and the same key without it. -/

theorem created_row_found_offset :
    let start := opened Operation.skewedTable []
    let stamp : Reading := ⟨Operation.noon, some ⟨19815, by decide⟩⟩
    let time : Instant := ⟨23385000000, by decide⟩
    let e : Event := ⟨10, time, time, "job", "reason", "Warning", "text", 1, "key\x00"⟩
    (∃ after, after.rows = Operation.skewedTable.rows ++ [e] ∧
      (start.step (creation 0 (some "job") (some "reason") (some "Warning") (some "text")
        (some "key\x00") (some stamp))).2 = opened after [] ∧
      (opened after []).step (lookup (some "job") (some "reason") (some "key\x00") 1) =
        ({ answer := .ok (.event (some e)) }, opened after []) ∧
      ((opened after []).step (lookup (some "job") (some "reason") (some "key") 1)).1 =
        (start.step (lookup (some "job") (some "reason") (some "key") 1)).1) ∧
    start.step (creation 0 (some "job") none (some "Warning") none (some "key") (some stamp)) =
      ({ answer := .error (.nullColumn .reason) }, start) ∧
    start.step (creation 0 none none none none none
        (some ⟨.earliest, some ⟨3600, by decide⟩⟩)) =
      ({ answer := .error .instantOutOfRange }, start) := by
  intro start stamp time e
  obtain ⟨adds, refused⟩ := created_row_found Operation.skewedTable [] 0 (some stamp)
  obtain ⟨after, added, created, own, other⟩ := adds "job" "reason" "Warning" "text" "key\x00" time
    (by decide) rfl
  obtain ⟨column, first, null⟩ := (refused (some "job") none (some "Warning") none (some "key")).1 time
    rfl (Or.inr (Or.inl rfl))
  have early := ((created_row_found Operation.skewedTable [] 0
    (some ⟨.earliest, some ⟨3600, by decide⟩⟩)).2 none none none none none).2
  refine ⟨⟨after, added, congrArg Prod.snd created, own 1, other _ _ _ 1 (by decide)⟩, ?_, early ?_⟩
  · cases first
    exact null
  · intro instant same
    have inside := instant.inRange
    change instant.micros = 0 - 3600 * 1000000 at same
    omega

end Session

/-! The row of an update. -/

namespace Table

/-- A revision changes the one row with its identifier in its place. -/
theorem revise_split (t : Table) (e : Event) (member : e ∈ t.rows) (time : Instant) (text : String)
    (count : Int) :
    ∃ front back, t.rows = front ++ e :: back ∧
      (t.revise e.id time text count).rows = front ++ repeated e time text count :: back := by
  obtain ⟨front, back, split⟩ := List.append_of_mem member
  refine ⟨front, back, split, ?_⟩
  have order := t.ascending
  rw [split] at order
  obtain ⟨-, behind, across⟩ := List.pairwise_append.mp order
  have before : ∀ r ∈ front, r.id ≠ e.id :=
    fun r early => Int.ne_of_lt (across r early e List.mem_cons_self)
  have after : ∀ r ∈ back, r.id ≠ e.id :=
    fun r late => Int.ne_of_gt ((List.pairwise_cons.mp behind).1 r late)
  change t.rows.map (fun r => if r.id = e.id then repeated r time text count else r) = _
  rw [split, List.map_append, List.map_cons, if_pos rfl]
  congr 1
  · exact (List.map_congr_left fun r early => if_neg (before r early)).trans (List.map_id' front)
  · congr 1
    exact (List.map_congr_left fun r late => if_neg (after r late)).trans (List.map_id' back)

end Table

namespace Session

def updating (id : Int) (message : Option String) (count : Int) (who : Nat) : Step :=
  ⟨who, .store (.update id message count)⟩

theorem step_updating (t : Table) (clocks : List Clock) (id : Int) (message : Option String)
    (count : Int) (who : Nat) :
    (opened t clocks).step (updating id message count who) =
      let done := (Operation.update ((opened t clocks).clockOf who) id message count).perform
        Table.run t
      (done.1.map fun _ => .done, opened done.2 clocks) := by
  rw [updating, step_store]
  rfl

/-- An update of an identifier without a row is a violation, whatever its message;
    with a row and no message it is refused; and in these cases nothing has
    changed. Otherwise it succeeds, and changes that row's time of update, message
    and count, in its place among the others, which stay as they are. -/
theorem update_exact (t : Table) (clocks : List Clock) (id : Int) (message : Option String)
    (count : Int) (who : Nat) (time : Instant) (reach : Storable id) (fits : Storable count)
    (read : time.micros = ((opened t clocks).clockOf who).now.micros) :
    let start := opened t clocks
    (id ∉ t.ids → start.step (updating id message count who) =
      ({ answer := .error (.stateViolation id 0), notices := [.updateViolation id 0] }, start)) ∧
    ∀ e ∈ t.rows, e.id = id →
      (message = none → start.step (updating id message count who) =
        ({ answer := .error (.nullColumn .message) }, start)) ∧
      ∀ text, message = some text → ∃ after front back,
        start.step (updating id message count who) =
          ({ answer := .ok .done, notices := [.eventUpdated id count] }, opened after clocks) ∧
        t.rows = front ++ e :: back ∧
        after.rows =
          front ++ { e with updateTime := time, message := text, eventCount := count } :: back := by
  intro start
  have normal : (start.clockOf who).instant = .ok time := Clock.normalise_within _ time read
  have whole := Operation.perform_update t (start.clockOf who) id message count time normal reach fits
  have step := step_updating t clocks id message count who
  change start.step _ = _ at step
  rw [step, whole]
  constructor
  · intro absent
    rw [if_neg absent]
    rfl
  · intro e member same
    have present : id ∈ t.ids := same ▸ List.mem_map_of_mem member
    rw [if_pos present]
    constructor
    · rintro rfl
      rfl
    · rintro text rfl
      obtain ⟨front, back, split, revised⟩ := t.revise_split e member time text count
      exact ⟨t.revise id time text count, front, back, rfl, split, same ▸ revised⟩

/-! At noon by a clock one hour behind, in a table with the identifiers -4, 5, 6
and 9. -/

theorem update_exact_skewed :
    let start := opened Operation.skewedTable [.fixed ⟨Operation.noon, some ⟨-3600, by decide⟩⟩]
    let time : Instant := ⟨46800000000, by decide⟩
    let e := Operation.hourMark 6 9 (by decide)
    start.step (updating 7 none (-3) 0) =
      ({ answer := .error (.stateViolation 7 0), notices := [.updateViolation 7 0] }, start) ∧
    start.step (updating 6 none (-3) 0) = ({ answer := .error (.nullColumn .message) }, start) ∧
    ∃ after front back,
      (start.step (updating 6 (some "again") (-3) 0)).2 = opened after start.clocks ∧
      Operation.skewedTable.rows = front ++ e :: back ∧
      after.rows =
        front ++ { e with updateTime := time, message := "again", eventCount := -3 } :: back := by
  intro start time e
  have present : e ∈ Operation.skewedTable.rows := by decide
  obtain ⟨missing, -⟩ := update_exact Operation.skewedTable start.clocks 7 none (-3) 0 time
    (by decide) (by decide) rfl
  obtain ⟨-, null⟩ := update_exact Operation.skewedTable start.clocks 6 none (-3) 0 time
    (by decide) (by decide) rfl
  obtain ⟨-, written⟩ := update_exact Operation.skewedTable start.clocks 6 (some "again") (-3) 0 time
    (by decide) (by decide) rfl
  obtain ⟨after, front, back, step, split, changed⟩ := (written e present rfl).2 "again" rfl
  exact ⟨missing (by decide), (null e present rfl).1 rfl, after, front, back,
    congrArg Prod.snd step, split, changed⟩

end Session

end EventRetention
