import EventRetention.Proofs.TablePrefix
import EventRetention.Store.Session

/-!
What each operation on the store does to the table. A lookup leaves it as it
is, a delete drops a prefix, an update keeps identifiers and creation times,
and a create adds one row under the next identifier or nothing at all.
-/

namespace EventRetention

namespace StoreAction

def isCreate : StoreAction → Bool
  | .create .. => true
  | _ => false

def isUpdate : StoreAction → Bool
  | .update .. => true
  | _ => false

def isDelete : StoreAction → Bool
  | .delete .. => true
  | _ => false

def isQuery : StoreAction → Bool
  | .latest .. | .events .. | .expired .. => true
  | _ => false

def isSingle : StoreAction → Bool
  | .clean .. | .fold .. => false
  | _ => true

end StoreAction

namespace Table

def lost (before after : Table) : List Event :=
  before.rows.filter fun e => !after.ids.contains e.id

def revise (t : Table) (id : Int) (time : Instant) (message : String) (count : Int) : Table :=
  t.mapRows (fun e => if e.id = id then repeated e time message count else e)
    (fun e => by split <;> rfl)

def Roomy (t : Table) : Prop := ∀ e ∈ t.rows, e.id < 9223372036854775807

instance (t : Table) : Decidable t.Roomy :=
  inferInstanceAs (Decidable (∀ e ∈ t.rows, e.id < 9223372036854775807))

theorem mem_lost (before after : Table) (e : Event) :
    e ∈ before.lost after ↔ e ∈ before.rows ∧ e.id ∉ after.ids := by
  simp [lost]

theorem lost_eq_nil (before after : Table) (kept : ∀ id ∈ before.ids, id ∈ after.ids) :
    before.lost after = [] := by
  apply List.filter_eq_nil_iff.mpr
  intro e member
  have := kept e.id (List.mem_map_of_mem member)
  simp [this]

theorem dropFirst_zero (t : Table) : t.dropFirst 0 = t := ext_rows _ _ rfl

theorem lost_dropFirst (t : Table) (count : Nat) : t.lost (t.dropFirst count) = t.rows.take count := by
  have apart := early_below_late t.rows t.ascending count
  have early : ∀ e ∈ t.rows.take count, (!(t.dropFirst count).ids.contains e.id) = true := by
    intro e member
    have absent : e.id ∉ (t.dropFirst count).ids := by
      intro present
      obtain ⟨later, kept, same⟩ := List.mem_map.mp present
      have := apart e member later kept
      omega
    simpa using absent
  have late : ∀ e ∈ t.rows.drop count, ¬ (!(t.dropFirst count).ids.contains e.id) = true := by
    intro e member
    have present : e.id ∈ (t.dropFirst count).ids := List.mem_map_of_mem member
    simp [present]
  unfold lost
  conv_lhs => rw [← List.take_append_drop count t.rows, List.filter_append]
  rw [List.filter_eq_self.mpr early, List.filter_eq_nil_iff.mpr late, List.append_nil]

theorem nextId_above (t : Table) (roomy : t.Roomy) (e : Event) (member : e ∈ t.rows) :
    e.id < t.nextId := by
  unfold nextId
  cases last : t.rows.getLast? with
  | none => simp [List.getLast?_eq_none_iff.mp last] at member
  | some final =>
      -- The last row has the largest identifier.
      obtain ⟨front, split⟩ := List.getLast?_eq_some_iff.mp last
      have present : final ∈ t.rows := by rw [split]; simp
      have room := roomy final present
      simp only [room, ↓reduceIte]
      rw [split] at member
      rcases List.mem_append.mp member with early | same
      · have order := t.ascending
        rw [split] at order
        have := (List.pairwise_append.mp order).2.2 e early final (by simp)
        omega
      · rw [List.mem_singleton.mp same]
        omega

theorem nextId_fresh (t : Table) (roomy : t.Roomy) : ∀ r ∈ t.rows, r.id ≠ t.nextId :=
  fun r member => Int.ne_of_lt (t.nextId_above roomy r member)

theorem nextId_storable (t : Table) (roomy : t.Roomy) : Storable t.nextId := by
  unfold nextId
  cases last : t.rows.getLast? with
  | none => exact (by decide : Storable 1)
  | some final =>
      have present := List.mem_of_getLast? last
      have room := roomy final present
      have low := (t.storable final present).1
      simp only [room, ↓reduceIte]
      unfold Storable
      omega

theorem nextId_pos (t : Table) (positive : ∀ id ∈ t.ids, 1 ≤ id) (roomy : t.Roomy) : 1 ≤ t.nextId := by
  unfold nextId
  cases last : t.rows.getLast? with
  | none => exact Int.le_refl 1
  | some final =>
      have present := List.mem_of_getLast? last
      have room := roomy final present
      have low := positive final.id (List.mem_map_of_mem present)
      simp only [room, ↓reduceIte]
      omega

/-- The next identifier is at most one more than a bound on the others. -/
theorem nextId_le (t : Table) (bound : Nat) (below : ∀ id ∈ t.ids, id ≤ bound)
    (roomy : t.Roomy) : t.nextId ≤ bound + 1 := by
  unfold nextId
  cases last : t.rows.getLast? with
  | none => exact Int.le_add_of_nonneg_left (Int.natCast_nonneg bound)
  | some final =>
      have present := List.mem_of_getLast? last
      have room := roomy final present
      have high := below final.id (List.mem_map_of_mem present)
      simp only [room, ↓reduceIte]
      omega

theorem revise_ids (t : Table) (id : Int) (time : Instant) (message : String) (count : Int) :
    (t.revise id time message count).ids = t.ids := by
  unfold ids revise mapRows
  rw [List.map_map]
  apply List.map_congr_left
  intro e _
  simp only [Function.comp_apply]
  split <;> rfl

theorem insertRow_perm (e : Event) (rows : List Event) : (insertRow e rows).Perm (e :: rows) := by
  induction rows with
  | nil => exact .refl _
  | cons row rest ih =>
      unfold insertRow
      split
      · exact .refl _
      · exact (ih.cons row).trans (.swap e row rest)

theorem insertRow_last (e : Event) (rows : List Event) (below : ∀ r ∈ rows, r.id < e.id) :
    insertRow e rows = rows ++ [e] := by
  induction rows with
  | nil => rfl
  | cons row rest ih =>
      have less := below row List.mem_cons_self
      have after : ¬ e.id < row.id := by omega
      simp only [insertRow, after, ↓reduceIte, List.cons_append]
      exact congrArg (List.cons row) (ih fun r member => below r (List.mem_cons_of_mem row member))

theorem required_bind (column : Column) (field : Option α) (rest : α → Except Failure β) (b : β) :
    (required column field >>= rest) = .ok b ↔ ∃ value, field = some value ∧ rest value = .ok b := by
  cases field with
  | none => simp [required, bind, Except.bind]
  | some value => simp [required, bind, Except.bind]

/-- The event of a draft has all fields of the draft, and the next identifier
    unless the draft has one of its own. -/
theorem event_fields (t : Table) (d : Draft) (e : Event) (made : t.event d = .ok e) :
    e.id = d.id.getD t.nextId ∧ d.createTime.map (·.wall) = some e.createTime ∧
      d.updateTime.map (·.wall) = some e.updateTime ∧ d.jobKey = some e.jobKey ∧
      d.reason = some e.reason ∧ d.eventType = some e.eventType ∧ d.message = some e.message ∧
      d.eventCount = some e.eventCount ∧ d.eventKey = some e.eventKey := by
  unfold event at made
  simp only [required_bind] at made
  obtain ⟨created, hasCreated, updated, hasUpdated, job, hasJob, reason, hasReason, type, hasType,
    message, hasMessage, count, hasCount, key, hasKey, same⟩ := made
  cases same
  exact ⟨rfl, by rw [hasCreated]; rfl, by rw [hasUpdated]; rfl, hasJob, hasReason, hasType,
    hasMessage, hasCount, hasKey⟩

theorem insert_adds (t after : Table) (d : Draft) (done : t.insert d = .ok after) :
    ∃ e fresh fits, after = t.add e fresh fits ∧ t.event d = .ok e := by
  unfold insert at done
  cases fit : fits d with
  | false =>
      rw [fit] at done
      cases done
  | true =>
      cases made : t.event d with
      | error cause =>
          rw [fit, made] at done
          cases done
      | ok e =>
          rw [fit, made] at done
          change t.place e = .ok after at done
          unfold place at done
          split at done
          · rename_i storable
            split at done
            · rename_i fresh
              cases done
              exact ⟨e, fresh, storable, rfl, rfl⟩
            · cases done
          · cases done

theorem lost_add (t : Table) (e : Event) (fresh : ∀ r ∈ t.rows, r.id ≠ e.id)
    (fits : Storable e.id) : (t.add e fresh fits).lost t = [e] := by
  have absent : e.id ∉ t.ids := by
    intro present
    obtain ⟨r, member, same⟩ := List.mem_map.mp present
    exact fresh r member same
  have alone : ∀ x, x ∈ (t.add e fresh fits).lost t ↔ x ∈ [e] := by
    intro x
    rw [mem_lost, List.mem_singleton]
    change x ∈ insertRow e t.rows ∧ _ ↔ _
    rw [mem_insertRow]
    constructor
    · rintro ⟨same | old, gone⟩
      · exact same
      · exact absurd (List.mem_map_of_mem old) gone
    · rintro rfl
      exact ⟨Or.inl rfl, absent⟩
  -- No row stands twice in a table, so the one lost row is the whole list.
  have single : ((t.add e fresh fits).lost t).Nodup :=
    (List.Nodup.of_map _ (t.add e fresh fits).ids_nodup).filter _
  exact List.perm_singleton.mp ((List.perm_ext_iff_of_nodup single (List.nodup_singleton e)).mpr alone)

theorem countP_id (t : Table) (id : Int) :
    t.rows.countP (·.id == id) = if id ∈ t.ids then 1 else 0 := by
  have counts : t.rows.countP (·.id == id) = t.ids.count id := by
    rw [ids, List.count_eq_countP, List.countP_map]
    rfl
  rw [counts]
  split
  · rename_i present
    exact List.count_eq_one_of_mem t.ids_nodup present
  · rename_i absent
    exact List.count_eq_zero.mpr absent

theorem update_unstorable (t : Table) (id : Int) (time : Instant) (message : Option String)
    (count : Int) (outside : ¬ (Storable id ∧ Storable count)) :
    t.update id time message count = .error .integerNotStorable := by
  have refused : (!(decide (Storable id) && decide (Storable count))) = true := by
    simpa only [Bool.not_eq_true', Bool.and_eq_false_iff, decide_eq_false_iff_not,
      ← not_and_or] using outside
  simp only [update, refused, ↓reduceIte]
  rfl

theorem update_eq (t : Table) (id : Int) (time : Instant) (message : Option String) (count : Int)
    (reach : Storable id) (fits : Storable count) :
    t.update id time message count =
      if id ∈ t.ids then (required .message message).map fun text =>
        (t.revise id time text count, 1)
      else .ok (t, 0) := by
  simp only [update, reach, fits, decide_true, Bool.and_self, Bool.not_true, Bool.false_eq_true,
    ↓reduceIte, countP_id]
  by_cases present : id ∈ t.ids
  · simp only [present, ↓reduceIte]
    cases message <;> rfl
  · simp only [present, ↓reduceIte]
    rfl

/-! Lookups. -/

def latest (t : Table) (jobKey reason eventKey : Option String) : Option Event :=
  (t.rows.filter (·.inSeries jobKey reason eventKey)).getLast?

theorem latest_iff (t : Table) (jobKey reason eventKey : Option String) (e : Event) :
    t.latest jobKey reason eventKey = some e ↔
      e ∈ t.rows ∧ e.inSeries jobKey reason eventKey = true ∧
        ∀ r ∈ t.rows, r.inSeries jobKey reason eventKey = true → r.id ≤ e.id := by
  unfold latest
  rw [ascending_last _ (t.ascending.filter _)]
  simp only [List.mem_filter, and_imp, and_assoc]

theorem latest_none (t : Table) (jobKey reason eventKey : Option String) :
    t.latest jobKey reason eventKey = none ↔
      ∀ r ∈ t.rows, r.inSeries jobKey reason eventKey = false := by
  unfold latest
  simp only [List.getLast?_eq_none_iff, List.filter_eq_nil_iff, Bool.not_eq_true]

end Table

namespace Record

/-- A stored event is loaded as it was stored. -/
theorem load_ofEvent (e : EventOf τ) : load (ofEvent e) = .ok e := by
  have stored : ∀ column (t : Instant),
      instant column (some (some (Reading.ofInstant t).naive)) = .ok t := by
    intro column t
    change Clock.normalise (Reading.ofInstant t).naive = .ok t
    have read : (Reading.ofInstant t).naive.toUtc? = some t := by
      simp [Reading.toUtc?, Reading.naive, Reading.ofInstant, Reading.micros, Instant.ofMicros?,
        t.inRange]
    simp only [Clock.normalise, read]
  simp only [load, ofEvent, stored]
  rfl

theorem load_all (events : List (EventOf τ)) : (events.map ofEvent).mapM load = .ok events := by
  induction events with
  | nil => rfl
  | cons e rest ih =>
      rw [List.map_cons, List.mapM_cons, load_ofEvent, ih]
      rfl

end Record

namespace Operation

/-- A failing operation leaves the state alone. -/
theorem perform_failed (execute : Executor σ τ) (op : Operation τ α) (s : σ) (cause : Failure)
    (fails : (op.perform execute s).1.answer = .error cause) : (op.perform execute s).2 = s := by
  unfold perform at fails ⊢
  cases states : op.statement with
  | error early => rfl
  | ok statement =>
      cases ran : execute s statement with
      | error early => simp only [ran]
      | ok made =>
          simp only [states, ran] at fails ⊢
          cases done : (op.conclude made.2).answer with
          | error late => rfl
          | ok value =>
              simp only [done] at fails
              cases fails

/-! Operations on a table. -/

theorem latestOf_ascending (events : List (EventOf τ))
    (order : events.Pairwise fun a b => a.id < b.id) : latestOf events = events.getLast? := by
  induction events using List.reverseRecOn with
  | nil => rfl
  | append_singleton front last ih =>
      obtain ⟨early, -, below⟩ := List.pairwise_append.mp order
      have before := ih early
      unfold latestOf at before ⊢
      rw [List.foldl_append, before, List.getLast?_concat]
      cases front using List.reverseRecOn with
      | nil => rfl
      | append_singleton older newest =>
          have less := below newest (by simp) last (by simp)
          simp [less]

theorem perform_latest (t : Table) (jobKey reason eventKey : Option String) :
    (latest jobKey reason eventKey).perform Table.run t =
      ({ answer := .ok (t.latest jobKey reason eventKey) }, t) := by
  have order := t.ascending.filter (·.inSeries jobKey reason eventKey)
  simp only [perform, latest, Table.run, Record.load_all, Except.map,
    latestOf_ascending _ order, Table.latest]

theorem perform_events (t : Table) (jobKey reason : Option String) :
    ((events jobKey reason).perform Table.run t).2 = t := by
  simp only [perform, events, Table.run]
  split <;> rfl

theorem perform_expired (t : Table) (clock : Clock) (ttl : Duration) :
    (expired clock ttl).perform Table.run t =
      ({ answer := .ok (some
          ⟨(t.expiry (clock.cutoff ttl)).1, (t.expiry (clock.cutoff ttl)).2⟩) }, t) := by
  simp only [perform, expired, Table.run]
  cases (t.expiry (clock.cutoff ttl)).2 <;> rfl

theorem perform_delete (t : Table) (target batch : Int) (positive : 0 < batch)
    (reach : Storable target) (fits : Storable batch) :
    (delete target batch).perform Table.run t =
      ({ answer := .ok (t.taken target batch : Int)
         notices := [.batchDeleted target batch (t.taken target batch)] },
        t.dropFirst (t.taken target batch)) := by
  have admitted : ¬ batch ≤ 0 := by omega
  simp only [perform, delete, admitted, ↓reduceIte, Table.run,
    t.deleteBatch_eq target batch reach fits]
  rfl

theorem perform_delete_nonpositive (t : Table) (target batch : Int) (stopped : batch ≤ 0) :
    (delete target batch).perform Table.run t =
      ({ answer := .error (.batchNotPositive batch) }, t) := by
  simp only [perform, delete, stopped, ↓reduceIte]

theorem perform_delete_unstorable (t : Table) (target batch : Int) (positive : 0 < batch)
    (outside : ¬ (Storable target ∧ Storable batch)) :
    (delete target batch).perform Table.run t = ({ answer := .error .integerNotStorable }, t) := by
  have admitted : ¬ batch ≤ 0 := by omega
  simp only [perform, delete, admitted, ↓reduceIte, Table.run,
    t.deleteBatch_unstorable target batch outside]
  rfl

theorem perform_delete_refused (t : Table) (target batch : Int)
    (refused : ¬ (0 < batch ∧ Storable target ∧ Storable batch)) :
    ∃ cause, (delete target batch).perform Table.run t = ({ answer := .error cause }, t) := by
  by_cases positive : 0 < batch
  · have outside : ¬ (Storable target ∧ Storable batch) := fun inside => refused ⟨positive, inside⟩
    exact ⟨.integerNotStorable, perform_delete_unstorable t target batch positive outside⟩
  · exact ⟨.batchNotPositive batch, perform_delete_nonpositive t target batch (by omega)⟩

/-- Whatever a delete answers, it drops rows up to its target only. -/
theorem delete_effect (t : Table) (target batch : Int) :
    ∃ count, count ≤ (t.upTo target).length ∧
      ((delete target batch).perform Table.run t).2 = t.dropFirst count := by
  by_cases inside : 0 < batch ∧ Storable target ∧ Storable batch
  · refine ⟨t.taken target batch, t.taken_le target batch, ?_⟩
    rw [perform_delete t target batch inside.1 inside.2.1 inside.2.2]
  · obtain ⟨cause, same⟩ := perform_delete_refused t target batch inside
    exact ⟨0, Nat.zero_le _, by rw [same, Table.dropFirst_zero]⟩

structure Created (t : Table) (clock : Clock)
    (jobKey reason eventType message eventKey : Option String) (createTime : Option Reading)
    (e : Event) : Prop where
  id : e.id = t.nextId
  time : Clock.normalise (createTime.getD clock.now) = .ok e.createTime
  untouched : e.updateTime = e.createTime
  jobKey : jobKey = some e.jobKey
  reason : reason = some e.reason
  eventType : storedType eventType = e.eventType
  message : message = some e.message
  eventCount : e.eventCount = 1
  eventKey : eventKey = some e.eventKey

theorem Created.inSeries (t : Table) (clock : Clock)
    (jobKey reason eventType message eventKey : Option String) (createTime : Option Reading)
    (e : Event) (made : Created t clock jobKey reason eventType message eventKey createTime e) :
    e.inSeries jobKey reason eventKey = true := by
  simp [Event.inSeries, Event.concerns, made.jobKey, made.reason, made.eventKey]

/-- A create fails and leaves the table as it is, or adds the row of its
    arguments under the next identifier. -/
theorem create_effect (t : Table) (clock : Clock)
    (jobKey reason eventType message eventKey : Option String) (createTime : Option Reading) :
    let done := (create clock jobKey reason eventType message eventKey
      createTime).perform Table.run t
    (∃ cause, done.1.answer = .error cause ∧ done.2 = t) ∨
      ∃ e fresh fits, done.1.answer = .ok () ∧ done.2 = t.add e fresh fits ∧
        Created t clock jobKey reason eventType message eventKey createTime e := by
  intro done
  have whole : done = (create clock jobKey reason eventType message eventKey
    createTime).perform Table.run t := rfl
  cases read : Clock.normalise (createTime.getD clock.now) with
  | error cause =>
      simp only [perform, create, read, bind, Except.bind] at whole
      exact Or.inl ⟨cause, by rw [whole], by rw [whole]⟩
  | ok time =>
      simp only [perform, create, read, bind, Except.bind, pure, Except.pure, Table.run] at whole
      cases made : t.insert (newEvent time jobKey reason eventType message eventKey) with
      | error cause =>
          rw [made] at whole
          exact Or.inl ⟨cause, by rw [whole], by rw [whole]⟩
      | ok after =>
          rw [made] at whole
          obtain ⟨e, fresh, fits, same, event⟩ := t.insert_adds after _ made
          obtain ⟨id, created, updated, job, why, type, text, count, key⟩ :=
            t.event_fields _ e event
          cases created
          refine Or.inr ⟨e, fresh, fits, by rw [whole], by rw [whole]; exact same, ?_⟩
          exact ⟨id, read, (Option.some.inj updated).symm, job, why, Option.some.inj type, text,
            (Option.some.inj count).symm, key⟩

/-- With all texts present, a readable time and an identifier left a create adds
    the row of its arguments. -/
theorem perform_create (t : Table) (clock : Clock) (jobKey reason message eventKey : String)
    (eventType : Option String) (createTime : Option Reading) (time : Instant)
    (read : Clock.normalise (createTime.getD clock.now) = .ok time) (roomy : t.Roomy) :
    (create clock (some jobKey) (some reason) eventType (some message) (some eventKey)
        createTime).perform Table.run t =
      ({ answer := .ok ()
         notices := [.eventCreated (some jobKey) (some reason) (some eventKey)] },
        t.add ⟨t.nextId, time, time, jobKey, reason, storedType eventType, message, 1, eventKey⟩
          (t.nextId_fresh roomy) (t.nextId_storable roomy)) := by
  let e : Event := ⟨t.nextId, time, time, jobKey, reason, storedType eventType, message, 1, eventKey⟩
  have made : t.insert (newEvent time (some jobKey) (some reason) eventType (some message)
      (some eventKey)) = t.place e := rfl
  have placed : t.place e = .ok (t.add e (t.nextId_fresh roomy) (t.nextId_storable roomy)) := by
    unfold Table.place
    rw [dif_pos (t.nextId_storable roomy), dif_pos (t.nextId_fresh roomy)]
  simp only [perform, create, read, bind, Except.bind, pure, Except.pure, Table.run, made, placed]
  rfl

theorem create_succeeds (t : Table) (clock : Clock) (jobKey reason message eventKey : String)
    (eventType : Option String) (createTime : Option Reading) (time : Instant)
    (read : Clock.normalise (createTime.getD clock.now) = .ok time) (roomy : t.Roomy) :
    ((create clock (some jobKey) (some reason) eventType (some message) (some eventKey)
      createTime).perform Table.run t).1.answer = .ok () := by
  rw [perform_create t clock jobKey reason message eventKey eventType createTime time read roomy]

theorem perform_update (t : Table) (clock : Clock) (id : Int) (message : Option String)
    (count : Int) (time : Instant) (read : clock.instant = .ok time) (reach : Storable id)
    (fits : Storable count) :
    ((update clock id message count).perform Table.run t) =
      if id ∈ t.ids then
        match message with
        | some text =>
            ({ answer := .ok (), notices := [.eventUpdated id count] }, t.revise id time text count)
        | none => ({ answer := .error (.nullColumn .message) }, t)
      else
        ({ answer := .error (.stateViolation id 0), notices := [.updateViolation id 0] }, t) := by
  simp only [perform, update, read, bind, Except.bind, pure, Except.pure, Table.run,
    t.update_eq id time message count reach fits]
  by_cases present : id ∈ t.ids
  · simp only [present, ↓reduceIte]
    cases message <;> rfl
  · simp only [present, ↓reduceIte]
    rfl

theorem perform_update_unreadable (t : Table) (clock : Clock) (id : Int) (message : Option String)
    (count : Int) (cause : Failure) (read : clock.instant = .error cause) :
    (update clock id message count).perform Table.run t = ({ answer := .error cause }, t) := by
  simp only [perform, update, read, bind, Except.bind]

theorem perform_update_unstorable (t : Table) (clock : Clock) (id : Int) (message : Option String)
    (count : Int) (time : Instant) (read : clock.instant = .ok time)
    (outside : ¬ (Storable id ∧ Storable count)) :
    (update clock id message count).perform Table.run t =
      ({ answer := .error .integerNotStorable }, t) := by
  simp only [perform, update, read, bind, Except.bind, pure, Except.pure, Table.run,
    t.update_unstorable id time message count outside]

theorem update_refused (t : Table) (clock : Clock) (id : Int) (message : Option String)
    (count : Int)
    (refused : ¬ ((∃ time, clock.instant = .ok time) ∧ Storable id ∧ Storable count)) :
    ∃ cause, (update clock id message count).perform Table.run t = ({ answer := .error cause }, t) ∧
      ∀ affected, cause ≠ .stateViolation id affected := by
  cases read : clock.instant with
  | error cause =>
      have range : cause = .instantOutOfRange := by
        unfold Clock.instant Clock.normalise at read
        split at read <;> cases read
        rfl
      exact ⟨cause, perform_update_unreadable t clock id message count cause read,
        fun affected same => by cases range.symm.trans same⟩
  | ok time =>
      have outside : ¬ (Storable id ∧ Storable count) := fun inside => refused ⟨⟨time, read⟩, inside⟩
      exact ⟨.integerNotStorable, perform_update_unstorable t clock id message count time read outside,
        fun affected same => by cases same⟩

/-- An update fails and leaves the table as it is, or changes the row of its
    identifier at the time that its clock shows. -/
theorem update_effect (t : Table) (clock : Clock) (id : Int) (message : Option String)
    (count : Int) :
    let done := (update clock id message count).perform Table.run t
    (∃ cause, done.1.answer = .error cause ∧ done.2 = t) ∨
      ∃ time text, done.1.answer = .ok () ∧ done.2 = t.revise id time text count ∧ id ∈ t.ids ∧
        clock.instant = .ok time ∧ message = some text := by
  intro done
  by_cases inside : (∃ time, clock.instant = .ok time) ∧ Storable id ∧ Storable count
  · obtain ⟨⟨time, read⟩, reach, fits⟩ := inside
    have whole : done = _ := perform_update t clock id message count time read reach fits
    by_cases present : id ∈ t.ids
    · rw [if_pos present] at whole
      cases message with
      | none => exact Or.inl ⟨_, by rw [whole], by rw [whole]⟩
      | some text => exact Or.inr ⟨time, text, by rw [whole], by rw [whole], present, read, rfl⟩
    · rw [if_neg present] at whole
      exact Or.inl ⟨_, by rw [whole], by rw [whole]⟩
  · obtain ⟨cause, whole, -⟩ := update_refused t clock id message count inside
    exact Or.inl ⟨cause, congrArg (·.1.answer) whole, congrArg Prod.snd whole⟩

/-- With a text, a readable clock and numbers that fit an update of a row that
    is there succeeds. -/
theorem update_succeeds (t : Table) (clock : Clock) (id : Int) (text : String) (count : Int)
    (time : Instant) (read : clock.instant = .ok time) (fits : Storable count)
    (present : id ∈ t.ids) :
    ((update clock id (some text) count).perform Table.run t).1.answer = .ok () := by
  obtain ⟨e, member, rfl⟩ := List.mem_map.mp present
  rw [perform_update t clock e.id (some text) count time read (t.storable e member) fits,
    if_pos present]

end Operation

namespace StoreAction

inductive Effect (t : Table) : StoreAction → Table → Prop where
  | same (action : StoreAction) : Effect t action t
  | added (jobKey reason eventType message eventKey : Option String) (createTime : Option Reading)
      (e : Event) (fresh : ∀ r ∈ t.rows, r.id ≠ e.id) (fits : Storable e.id)
      (next : e.id = t.nextId) (series : e.inSeries jobKey reason eventKey = true) :
      Effect t (.create jobKey reason eventType message eventKey createTime) (t.add e fresh fits)
  | revised (id : Int) (message : Option String) (count : Int) (time : Instant) (text : String) :
      Effect t (.update id message count) (t.revise id time text count)
  | dropped (target batch : Int) (count : Nat) (reach : count ≤ (t.upTo target).length) :
      Effect t (.delete target batch) (t.dropFirst count)

theorem perform_effect (t : Table) (clock : Clock) (action : StoreAction)
    (single : action.isSingle = true) : Effect t action (action.perform Table.run clock t).2 := by
  cases action with
  | create jobKey reason eventType message eventKey createTime =>
      change Effect t _ ((Operation.create clock jobKey reason eventType message eventKey
        createTime).perform Table.run t).2
      rcases Operation.create_effect t clock jobKey reason eventType message eventKey createTime
        with ⟨cause, -, same⟩ | ⟨e, fresh, fits, -, added, made⟩
      · rw [same]
        exact .same _
      · rw [added]
        exact .added jobKey reason eventType message eventKey createTime e fresh fits made.id
          made.inSeries
  | update id message count =>
      change Effect t _ ((Operation.update clock id message count).perform Table.run t).2
      rcases Operation.update_effect t clock id message count with
        ⟨cause, -, same⟩ | ⟨time, text, -, same, -⟩
      · rw [same]
        exact .same _
      · rw [same]
        exact .revised id message count time text
  | delete target batch =>
      change Effect t _ ((Operation.delete target batch).perform Table.run t).2
      obtain ⟨count, reach, same⟩ := Operation.delete_effect t target batch
      rw [same]
      exact .dropped target batch count reach
  | latest jobKey reason eventKey =>
      change Effect t _ ((Operation.latest jobKey reason eventKey).perform Table.run t).2
      rw [Operation.perform_latest]
      exact .same _
  | events jobKey reason =>
      change Effect t _ ((Operation.events jobKey reason).perform Table.run t).2
      rw [Operation.perform_events]
      exact .same _
  | expired ttl =>
      change Effect t _ ((Operation.expired clock ttl).perform Table.run t).2
      rw [Operation.perform_expired]
      exact .same _
  | clean ttl batchSize => cases single
  | fold occurrence => cases single

end StoreAction

end EventRetention
