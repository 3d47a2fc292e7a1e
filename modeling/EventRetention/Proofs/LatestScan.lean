import EventRetention.Cli.Output
import EventRetention.Proofs.ExpiryPrefix
import EventRetention.Proofs.SessionStates
import Mathlib.Data.List.Perm.Basic

/-!
The scan behind a lookup. It goes once over the result rows, in whatever order the
database hands them out, and keeps an event until one with a larger identifier
comes. So it ends with the first event whose identifier is the largest; the order
of the rows decides only between equal identifiers. On a table a lookup finds what
the listing of its job and reason shows under its key.
-/

namespace EventRetention

namespace Record

def Loaded (rows : List (Record τ)) (events : List (EventOf τ)) : Prop :=
  List.Forall₂ (fun row e => load row = .ok e) rows events

theorem mapM_load_ok (rows : List (Record τ)) (events : List (EventOf τ)) :
    rows.mapM load = .ok events ↔ Loaded rows events := by
  induction rows generalizing events with
  | nil =>
      constructor
      · rintro ⟨⟩
        exact .nil
      · rintro ⟨⟩
        rfl
  | cons row rest ih =>
      rw [List.mapM_cons]
      constructor
      · intro all
        cases first : load row with
        | error cause =>
            rw [first] at all
            cases all
        | ok e =>
            cases others : rest.mapM load with
            | error cause =>
                rw [first, others] at all
                cases all
            | ok loaded =>
                rw [first, others] at all
                cases all
                exact .cons first ((ih loaded).mp others)
      · rintro (_ | ⟨first, others⟩)
        rw [first, (ih _).mpr others]
        rfl

/-- Loading rows fails with the fault of the first row that has one. -/
theorem mapM_load_error (rows : List (Record τ)) (cause : Failure) :
    rows.mapM load = .error cause ↔ ∃ before bad after, rows = before ++ bad :: after ∧
      (∀ row ∈ before, ∃ e, load row = .ok e) ∧ load bad = .error cause := by
  induction rows with
  | nil =>
      constructor
      · rintro ⟨⟩
      · rintro ⟨before, bad, after, same, -⟩
        simp at same
  | cons row rest ih =>
      rw [List.mapM_cons]
      cases first : load row with
      | error early =>
          constructor
          · rintro ⟨⟩
            exact ⟨[], row, rest, rfl, by simp, first⟩
          · rintro ⟨_ | ⟨head, before⟩, bad, after, same, loads, fails⟩
            · cases same
              exact congrArg Except.error (Except.error.inj (first.symm.trans fails))
            -- The row before the bad one is this one, which does not load.
            · cases same
              obtain ⟨e, loaded⟩ := loads row List.mem_cons_self
              cases first.symm.trans loaded
      | ok e =>
          have later : (do let others ← rest.mapM load; return e :: others : Except Failure _) =
              .error cause ↔ rest.mapM load = .error cause := by
            cases rest.mapM load with
            | error late => exact Iff.rfl
            | ok others => exact iff_of_false (fun same => by cases same) (fun same => by cases same)
          refine later.trans (ih.trans ⟨?_, ?_⟩)
          · rintro ⟨before, bad, after, rfl, loads, fails⟩
            exact ⟨row :: before, bad, after, rfl,
              List.forall_mem_cons.mpr ⟨⟨e, first⟩, loads⟩, fails⟩
          · rintro ⟨_ | ⟨head, before⟩, bad, after, same, loads, fails⟩
            · cases same
              cases first.symm.trans fails
            · cases same
              exact ⟨before, bad, after, rfl, (List.forall_mem_cons.mp loads).2, fails⟩

end Record

namespace Operation

def Largest (events : List (EventOf τ)) (e : EventOf τ) : Prop :=
  e ∈ events ∧ ∀ x ∈ events, x.id ≤ e.id

def FirstLargest (events : List (EventOf τ)) (e : EventOf τ) : Prop :=
  ∃ before after, events = before ++ e :: after ∧ (∀ x ∈ before, x.id < e.id) ∧
    ∀ x ∈ after, x.id ≤ e.id

def newer (latest : Option (EventOf τ)) (current : EventOf τ) : Option (EventOf τ) :=
  match latest with
  | none => some current
  | some e => if e.id < current.id then some current else some e

theorem latestOf_append (early late : List (EventOf τ)) :
    latestOf (early ++ late) = late.foldl newer (latestOf early) :=
  List.foldl_append

theorem newer_kept (e : EventOf τ) (late : List (EventOf τ)) (below : ∀ x ∈ late, x.id ≤ e.id) :
    late.foldl newer (some e) = some e := by
  induction late with
  | nil => rfl
  | cons x rest ih =>
      obtain ⟨here, later⟩ := List.forall_mem_cons.mp below
      rw [List.foldl_cons, newer, if_neg (Int.not_lt.mpr here), ih later]

theorem latestOf_snoc (front : List (EventOf τ)) (last : EventOf τ) :
    latestOf (front ++ [last]) = newer (latestOf front) last := latestOf_append front [last]

theorem latestOf_none (events : List (EventOf τ)) : latestOf events = none ↔ events = [] := by
  cases events using List.reverseRecOn with
  | nil => exact iff_of_true rfl rfl
  | append_singleton front last =>
      have found : newer (latestOf front) last ≠ none := by
        unfold newer
        cases latestOf front with
        | none => exact Option.some_ne_none last
        | some e =>
            dsimp only
            split <;> exact Option.some_ne_none _
      rw [latestOf_snoc]
      exact iff_of_false found (by simp)

namespace FirstLargest

variable (events : List (EventOf τ)) (e last : EventOf τ)

theorem largest (first : FirstLargest events e) : Largest events e := by
  obtain ⟨before, after, rfl, less, most⟩ := first
  refine ⟨by simp, fun x here => ?_⟩
  rcases List.mem_append.mp here with early | late
  · exact Int.le_of_lt (less x early)
  · rcases List.mem_cons.mp late with rfl | late
    · exact Int.le_refl _
    · exact most x late

theorem exceeded (first : FirstLargest events e) (larger : e.id < last.id) :
    FirstLargest (events ++ [last]) last :=
  ⟨events, [], rfl, fun x here => Int.lt_of_le_of_lt (first.largest.2 x here) larger, by simp⟩

theorem kept (first : FirstLargest events e) (smaller : last.id ≤ e.id) :
    FirstLargest (events ++ [last]) e := by
  obtain ⟨before, after, rfl, less, most⟩ := first
  refine ⟨before, after ++ [last], by simp, less, fun x here => ?_⟩
  rcases List.mem_append.mp here with late | same
  · exact most x late
  · exact List.mem_singleton.mp same ▸ smaller

/-- Where no identifier comes twice, it does not matter which comes first. -/
theorem of_distinct (distinct : (events.map EventOf.id).Nodup) (largest : Largest events e) :
    FirstLargest events e := by
  obtain ⟨before, after, rfl⟩ := List.append_of_mem largest.1
  refine ⟨before, after, rfl, fun x early => ?_, fun x late => largest.2 x (by simp [late])⟩
  have most := largest.2 x (List.mem_append_left _ early)
  rw [List.map_append, List.map_cons] at distinct
  have apart := (List.nodup_append.mp distinct).2.2 x.id (List.mem_map_of_mem early) e.id
    List.mem_cons_self
  omega

end FirstLargest

/-- What the scan holds is the first largest of the events so far. -/
theorem latestOf_held (events : List (EventOf τ)) (e : EventOf τ)
    (held : latestOf events = some e) : FirstLargest events e := by
  induction events using List.reverseRecOn generalizing e with
  | nil => cases held
  | append_singleton front last ih =>
      rw [latestOf_snoc] at held
      cases before : latestOf front with
      | none =>
          rw [before, newer] at held
          cases held
          rw [(latestOf_none front).mp before]
          exact ⟨[], [], rfl, by simp, by simp⟩
      | some old =>
          rw [before, newer] at held
          by_cases larger : old.id < last.id
          · rw [if_pos larger] at held
            cases held
            exact (ih old before).exceeded front old last larger
          · rw [if_neg larger] at held
            cases held
            exact (ih e before).kept front e last (Int.not_lt.mp larger)

theorem latestOf_iff (events : List (EventOf τ)) (e : EventOf τ) :
    latestOf events = some e ↔ FirstLargest events e := by
  refine ⟨latestOf_held events e, ?_⟩
  rintro ⟨before, after, rfl, less, most⟩
  have reached : newer (latestOf before) e = some e := by
    cases held : latestOf before with
    | none => rfl
    | some old => rw [newer, if_pos (less old (latestOf_held before old held).largest.1)]
  rw [latestOf_append, List.foldl_cons, reached, newer_kept e after most]

theorem latestOf_distinct (events : List (EventOf τ)) (distinct : (events.map EventOf.id).Nodup)
    (e : EventOf τ) : latestOf events = some e ↔ Largest events e :=
  (latestOf_iff events e).trans
    ⟨fun first => first.largest, fun largest => .of_distinct events e distinct largest⟩

theorem latestOf_perm (events others : List (EventOf τ)) (same : events.Perm others)
    (distinct : (events.map EventOf.id).Nodup) : latestOf others = latestOf events := by
  ext e
  rw [latestOf_distinct events distinct,
    latestOf_distinct others ((same.map EventOf.id).nodup_iff.mp distinct)]
  simp only [Largest, same.mem_iff]

/-! Lookups. -/

def HandsOut (execute : Executor σ τ) (s : σ) (statement : Statement) (rows : List (Record τ)) :
    Prop :=
  ∃ after reply, execute s statement = .ok (after, reply) ∧ reply.rows = rows

/-- What a lookup makes of the rows that it is handed: the first largest of their
    events, or the fault of the first row that cannot be loaded. -/
structure Scanned (rows : List (Record τ)) (answer : Except Failure (Option (EventOf τ))) : Prop where
  found : ∀ events, Record.Loaded rows events → ∃ found, answer = .ok found ∧
    (found = none ↔ rows = []) ∧ ∀ e, found = some e ↔ FirstLargest events e
  failed : ∀ cause, answer = .error cause ↔ ∃ before bad after, rows = before ++ bad :: after ∧
    (∀ row ∈ before, ∃ e, row.load = .ok e) ∧ bad.load = .error cause

theorem latest_rows (execute : Executor σ τ) (s : σ) (jobKey reason eventKey : Option String)
    (rows : List (Record τ)) (handed : HandsOut execute s (.selectSeries jobKey reason eventKey) rows) :
    ((latest jobKey reason eventKey).perform execute s).1.answer =
      (rows.mapM Record.load).map latestOf := by
  obtain ⟨after, reply, ran, rfl⟩ := handed
  simp only [perform, latest, ran]
  cases reply.rows.mapM Record.load <;> rfl

theorem latest_loaded (execute : Executor σ τ) (s : σ) (jobKey reason eventKey : Option String)
    (rows : List (Record τ)) (handed : HandsOut execute s (.selectSeries jobKey reason eventKey) rows)
    (events : List (EventOf τ)) (loaded : Record.Loaded rows events) :
    ((latest jobKey reason eventKey).perform execute s).1.answer = .ok (latestOf events) := by
  rw [latest_rows execute s jobKey reason eventKey rows handed,
    (Record.mapM_load_ok rows events).mpr loaded]
  rfl

theorem latest_scanned (execute : Executor σ τ) (s : σ) (jobKey reason eventKey : Option String)
    (rows : List (Record τ)) (handed : HandsOut execute s (.selectSeries jobKey reason eventKey) rows) :
    Scanned rows ((latest jobKey reason eventKey).perform execute s).1.answer := by
  refine ⟨fun events loaded => ?_, fun cause => ?_⟩
  · refine ⟨_, latest_loaded execute s jobKey reason eventKey rows handed events loaded, ?_,
      latestOf_iff events⟩
    rw [latestOf_none, ← List.length_eq_zero_iff, ← List.length_eq_zero_iff, loaded.length_eq]
  · rw [latest_rows execute s jobKey reason eventKey rows handed, ← Record.mapM_load_error]
    cases rows.mapM Record.load with
    | error early => simp only [Except.map, Except.error.injEq]
    | ok events => exact iff_of_false (fun same => by cases same) (fun same => by cases same)

theorem latest_permuted (execute : Executor σ τ) (s : σ) (other : Executor υ τ) (u : υ)
    (jobKey reason eventKey : Option String) (rows others : List (Record τ))
    (handed : HandsOut execute s (.selectSeries jobKey reason eventKey) rows)
    (again : HandsOut other u (.selectSeries jobKey reason eventKey) others)
    (same : rows.Perm others) (events : List (EventOf τ)) (loaded : Record.Loaded rows events)
    (distinct : (events.map EventOf.id).Nodup) :
    ((latest jobKey reason eventKey).perform other u).1.answer =
      ((latest jobKey reason eventKey).perform execute s).1.answer := by
  obtain ⟨moved, reloaded, order⟩ := List.perm_comp_forall₂ same.symm loaded
  rw [latest_loaded execute s jobKey reason eventKey rows handed events loaded,
    latest_loaded other u jobKey reason eventKey others again moved reloaded,
    latestOf_perm events moved order.symm distinct]

end Operation

/-! Listings of a table. -/

def Table.listing (t : Table) (jobKey reason : Option String) : List Event :=
  t.rows.filter (·.concerns jobKey reason)

namespace Operation

theorem perform_listing (t : Table) (jobKey reason : Option String) :
    (events jobKey reason).perform Table.run t = ({ answer := .ok (t.listing jobKey reason) }, t) := by
  simp only [perform, events, Table.run, Record.load_all]
  rfl

theorem byId_ascending (events : List (EventOf τ)) (order : events.Pairwise fun a b => a.id < b.id) :
    byId events = events :=
  List.mergeSort_of_pairwise (order.imp fun less => decide_eq_true (Int.le_of_lt less))

def under (eventKey : Option String) (listing : List Event) : List Event :=
  listing.filter fun e => some e.eventKey == eventKey

/-- A lookup and a listing agree on what stands under a key: the lookup finds the
    largest event there, and none exactly if the listing shows none. -/
structure Agrees (eventKey : Option String) (listing : List Event) (found : Option Event) : Prop where
  missing : found = none ↔ under eventKey listing = []
  largest : ∀ e, found = some e ↔ Largest (under eventKey listing) e

theorem under_listing (t : Table) (jobKey reason eventKey : Option String) :
    under eventKey (t.listing jobKey reason) = t.rows.filter (·.inSeries jobKey reason eventKey) := by
  rw [under, Table.listing, List.filter_filter]
  exact List.filter_congr fun e _ => Bool.and_comm _ _

theorem latest_agrees (t : Table) (jobKey reason eventKey : Option String) :
    Agrees eventKey (t.listing jobKey reason) (t.latest jobKey reason eventKey) := by
  refine ⟨?_, fun e => ?_⟩
  · rw [under_listing, Table.latest, List.getLast?_eq_none_iff]
  · rw [under_listing, Table.latest, ascending_last _ (t.ascending.filter _), Largest]

/-- What the command shows with a key, against the listing that it shows without
    one: the two agree, it fails if nothing is under the key, and else its one line
    is a line of the listing. -/
structure Shown (eventKey : String) (listing : List Event) (found : Option Event) : Prop extends
    Agrees (some eventKey) listing found where
  fails : (Finding.latest found).exitCode = 1 ↔ under (some eventKey) listing = []
  line : ∀ e, found = some e → ∀ elapsed, (Finding.latest found).lines elapsed = [e.listed] ∧
    e.listed ∈ (Finding.events listing).lines elapsed

theorem Agrees.shown (eventKey : String) (listing : List Event) (found : Option Event)
    (agrees : Agrees (some eventKey) listing found) : Shown eventKey listing found := by
  refine ⟨agrees, ?_, ?_⟩
  · rw [← agrees.missing]
    cases found with
    | none => exact iff_of_true rfl rfl
    | some e => exact iff_of_false Nat.zero_ne_one (Option.some_ne_none e)
  · rintro e rfl elapsed
    have member : e ∈ listing := (List.mem_filter.mp ((agrees.largest e).mp rfl).1).1
    refine ⟨rfl, ?_⟩
    cases listing with
    | nil => cases member
    | cons first rest => exact List.mem_map.mpr ⟨e, member, rfl⟩

theorem command_listing (jobKey reason : String) (settings : RetentionSettings) (clock : Clock)
    (t : Table) :
    ((Command.events jobKey reason none).perform settings clock (.opened (some t))).1.answer =
      .ok (.events (t.listing (some jobKey) (some reason))) := by
  have order : byId (t.listing (some jobKey) (some reason)) = t.listing (some jobKey) (some reason) :=
    byId_ascending _ (t.ascending.filter _)
  simp only [Command.perform, perform_opened, perform_listing, Prod.map, Outcome.map, Except.map, order]

theorem command_latest (jobKey reason eventKey : String) (settings : RetentionSettings)
    (clock : Clock) (t : Table) :
    ((Command.events jobKey reason (some eventKey)).perform settings clock
        (.opened (some t))).1.answer =
      .ok (.latest (t.latest (some jobKey) (some reason) (some eventKey))) := by
  simp only [Command.perform, perform_opened, perform_latest, Prod.map, Outcome.map, Except.map]

/-- A lookup does not depend on the order of the rows, and agrees with the listing.
    Of any rows it answers the first largest event, or else the fault of the first
    row that has one; if no identifier comes twice, the rows in another order make no
    difference. On a table it finds the largest event that the listing shows under
    its key, and so does the command. -/
theorem latest_order_free (jobKey reason eventKey : Option String) :
    (∀ {σ τ : Type} (execute : Executor σ τ) (s : σ) (rows : List (Record τ)),
      HandsOut execute s (.selectSeries jobKey reason eventKey) rows →
        Scanned rows ((latest jobKey reason eventKey).perform execute s).1.answer ∧
        ∀ {υ : Type} (other : Executor υ τ) (u : υ) (others : List (Record τ)),
          HandsOut other u (.selectSeries jobKey reason eventKey) others → rows.Perm others →
            ∀ events, Record.Loaded rows events → (events.map EventOf.id).Nodup →
              ((latest jobKey reason eventKey).perform other u).1.answer =
                ((latest jobKey reason eventKey).perform execute s).1.answer) ∧
      (∀ t : Table, ∃ listing found,
        ((events jobKey reason).perform Database.run (.opened (some t))).1.answer = .ok listing ∧
          ((latest jobKey reason eventKey).perform Database.run (.opened (some t))).1.answer =
            .ok found ∧ Agrees eventKey listing found) ∧
      ∀ (job why key : String) (settings : RetentionSettings) (clock : Clock) (t : Table),
        ∃ listing found,
          ((Command.events job why none).perform settings clock (.opened (some t))).1.answer =
            .ok (.events listing) ∧
          ((Command.events job why (some key)).perform settings clock (.opened (some t))).1.answer =
            .ok (.latest found) ∧ Shown key listing found := by
  refine ⟨fun execute s rows handed => ?_, fun t => ?_, fun job why key settings clock t => ?_⟩
  · refine ⟨latest_scanned execute s jobKey reason eventKey rows handed, ?_⟩
    intro υ other u others again same events loaded distinct
    exact latest_permuted execute s other u jobKey reason eventKey rows others handed again same
      events loaded distinct
  · have agrees := latest_agrees t jobKey reason eventKey
    refine ⟨t.listing jobKey reason, t.latest jobKey reason eventKey, ?_, ?_, agrees⟩
    · rw [perform_opened, perform_listing]
    · rw [perform_opened, perform_latest]
  · have agrees := latest_agrees t (some job) (some why) (some key)
    exact ⟨_, _, command_listing job why settings clock t,
      command_latest job why key settings clock t, agrees.shown key _ _⟩

def numbered (id : Numeral) (hour : Nat) (inside : hour ≤ 24) : Record String :=
  { Record.ofEvent (hourMark 0 hour inside) with id := some id }

/-- Identifiers as numbers and as text, one of them twice; rows in two orders; and a
    row that cannot be loaded behind one with a larger identifier. -/
theorem latest_order_free_mixed :
    let lookup := fun rows : List (Record String) =>
      ((latest (some "job") (some "reason") (some "key")).perform (preparedReply { rows }) ()).1.answer
    lookup [numbered (.int 3) 1 (by decide), numbered (.text " 1_0 ") 2 (by decide),
        numbered (.int 10) 4 (by decide)] = .ok (some (hourMark 10 2 (by decide))) ∧
      lookup [numbered (.text "+2") 1 (by decide), numbered (.int 10) 4 (by decide)] =
        lookup [numbered (.int 10) 4 (by decide), numbered (.text "+2") 1 (by decide)] ∧
      lookup [numbered (.int 9) 1 (by decide), numbered (.text "x") 2 (by decide),
        numbered (.int 1) 4 (by decide)] = .error (.unreadableNumeral (.malformed "x")) := by
  intro lookup
  obtain ⟨scan, -⟩ := latest_order_free (some "job") (some "reason") (some "key")
  have handed (rows : List (Record String)) : HandsOut (preparedReply { rows }) ()
      (.selectSeries (some "job") (some "reason") (some "key")) rows := ⟨(), { rows }, rfl, rfl⟩
  refine ⟨?_, ?_, ?_⟩
  · obtain ⟨⟨largest, -⟩, -⟩ := scan (preparedReply _) () _ (handed [numbered (.int 3) 1 (by decide),
      numbered (.text " 1_0 ") 2 (by decide), numbered (.int 10) 4 (by decide)])
    obtain ⟨found, answer, -, first⟩ := largest [hourMark 3 1 (by decide),
      hourMark 10 2 (by decide), hourMark 10 4 (by decide)] (.cons rfl (.cons rfl (.cons rfl .nil)))
    rw [(first (hourMark 10 2 (by decide))).mpr
      ⟨[hourMark 3 1 (by decide)], [hourMark 10 4 (by decide)], rfl, by decide, by decide⟩] at answer
    exact answer
  · obtain ⟨-, permuted⟩ := scan (preparedReply _) () _ (handed [numbered (.int 10) 4 (by decide),
      numbered (.text "+2") 1 (by decide)])
    exact permuted (preparedReply _) () _ (handed _) (.swap _ _ _)
      [hourMark 10 4 (by decide), hourMark 2 1 (by decide)] (.cons rfl (.cons rfl .nil)) (by decide)
  · obtain ⟨⟨-, failed⟩, -⟩ := scan (preparedReply _) () _ (handed [numbered (.int 9) 1 (by decide),
      numbered (.text "x") 2 (by decide), numbered (.int 1) 4 (by decide)])
    exact (failed _).mpr ⟨[numbered (.int 9) 1 (by decide)], _, [numbered (.int 1) 4 (by decide)],
      rfl, List.forall_mem_singleton.mpr ⟨hourMark 9 1 (by decide), rfl⟩, rfl⟩

end Operation

end EventRetention
