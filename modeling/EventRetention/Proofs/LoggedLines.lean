import EventRetention.Log.Stream
import EventRetention.Proofs.EventFields
import Mathlib.Data.List.Forall2

/-!
The lines of structured calls. Each call whose message can be filled, whose
severity reaches the level and whose fields can be written as JSON writes one
line: level, time and message are its own, and any other field is that of the
call, else the bound one, else that of the context. A call whose message cannot
be filled raises what its template raises.
-/

namespace EventRetention

theorem Json.writableEntries_iff (entries : Entries) : writableEntries entries = true ↔
    ∀ entry ∈ entries, isKey entry.1 = true ∧ writable entry.2 = true := by
  induction entries with
  | nil => simp [writableEntries]
  | cons entry rest ih => simp [writableEntries, ih, and_assoc]

theorem Json.write_of_text? (value : Value) (text : String) (written : text? value = some text) :
    write value = text := by
  unfold text? at written
  split at written
  · exact Option.some.inj written
  · cases written

theorem Json.text?_isSome (value : Value) : (text? value).isSome = writable value := by
  unfold text?
  cases writable value <;> rfl

namespace Log

def controlNames : List String := ["positional_args", "exc_info", "stack_info"]

structure Uncontrolled (fields : Entries) : Prop where
  once : fields.keys.Nodup
  free : ∀ name ∈ controlNames, fields.field? name = none

def ownKeys : List Value := [.text "level", .text "timestamp", .text "msg"]

structure Carries (line : Entries) (level timestamp message : String)
    (fields : Value → Option Value) : Prop where
  once : line.keys.Nodup
  level : line.field? "level" = some (.text level)
  timestamp : line.field? "timestamp" = some (.text timestamp)
  message : line.field? "msg" = some (.text message)
  others : ∀ key, key ∉ ownKeys → line.get? key = fields key

structure Ready (given : Value → Option Value) (level timestamp message : String)
    (fields : Value → Option Value) : Prop where
  level : given (.text "level") = some (.text level)
  timestamp : given (.text "timestamp") = some (.text timestamp)
  message : given (.text "event") = some (.text message)
  record : ∃ value, given (.text "_record") = some value
  origin : ∃ value, given (.text "_from_structlog") = some value
  unasked : given (.text "exc_info") = none
  others : ∀ key, key ∉ transient → key ∉ [Value.text "level", .text "timestamp"] →
    given key = fields key

/-- An event that is ready is rendered as a line with its fields, but for the
    transient ones. -/
theorem Ready.renders {given : Value → Option Value} {level timestamp message : String}
    {fields : Value → Option Value} (ready : Ready given level timestamp message fields)
    (moment : Moment) (name : String) {event : Entries} (holds : event.Holds given) :
    ∃ object, process name (render moment) event = .ok object ∧
      Carries object level timestamp message fun key =>
        if key ∈ transient then none else fields key := by
  obtain ⟨record, carried⟩ := ready.record
  obtain ⟨source, origin⟩ := ready.origin
  obtain ⟨object, rendered, shown⟩ :=
    takes_render name moment carried origin ready.unasked ready.message event holds
  refine ⟨object, rendered, shown.once, ?_, ?_, ?_, fun key other => ?_⟩
  · exact (shown.found _).trans ((renamed_other (by decide)).trans ready.level)
  · exact (shown.found _).trans ((renamed_other (by decide)).trans ready.timestamp)
  · exact (shown.found _).trans (Function.update_self ..)
  · simp only [ownKeys, List.mem_cons, List.not_mem_nil, or_false, not_or] at other
    rw [shown.found, renamed_other other.2.2]
    by_cases passing : key ∈ transient
    · rw [if_pos passing, if_pos passing]
    · rw [if_neg passing, if_neg passing, ready.others key passing (by simp [other])]

/-- Lines with one level and one message, over the same fields, differ in their
    times only. -/
theorem Carries.agree {line other : Entries} {level timestamp later message : String}
    {fields others : Value → Option Value} (first : Carries line level timestamp message fields)
    (second : Carries other level later message others) {key : Value}
    (untimed : key ≠ .text "timestamp") (same : fields key = others key) :
    line.get? key = other.get? key := by
  by_cases leveled : key = .text "level"
  · subst leveled
    exact first.level.trans second.level.symm
  · by_cases titled : key = .text "msg"
    · subst titled
      exact first.message.trans second.message.symm
    · have own : key ∉ ownKeys := by simp [ownKeys, leveled, untimed, titled]
      exact (first.others key own).trans (same.trans (second.others key own).symm)

/-- A line can be written exactly when its other fields can. -/
theorem Carries.writable_iff {line : Entries} {level timestamp message : String}
    {fields : Value → Option Value} (carries : Carries line level timestamp message fields) :
    Json.writable (.map line) = true ↔ ∀ key, key ∉ ownKeys → ∀ value, fields key = some value →
      Json.isKey key = true ∧ Json.writable value = true := by
  rw [Json.writable, Json.writableEntries_iff]
  constructor
  · intro all key other value shown
    exact all (key, value) (line.mem_of_get? key value ((carries.others key other).trans shown))
  · rintro all ⟨key, value⟩ here
    have found := line.get?_of_mem key value carries.once here
    by_cases own : key ∈ ownKeys
    · simp only [ownKeys, List.mem_cons, List.not_mem_nil, or_false] at own
      rcases own with rfl | rfl | rfl
      · cases found.symm.trans carries.level
        exact ⟨rfl, rfl⟩
      · cases found.symm.trans carries.timestamp
        exact ⟨rfl, rfl⟩
      · cases found.symm.trans carries.message
        exact ⟨rfl, rfl⟩
    · exact all key own value ((carries.others key own).symm.trans found)

namespace Call

/-- The message of a structured call, or what the call raises: a keyword that
    repeats a parameter, or a message that cannot be filled. -/
def outcome (call : Call) : Except CallFault String :=
  match call.repeatedParameter? with
  | some name => .error (.repeatedParameter name)
  | none => (formatMessage call.message call.arguments).mapError .template

theorem outcome_ok_iff (call : Call) (message : String) :
    call.outcome = .ok message ↔
      call.repeatedParameter? = none ∧ formatMessage call.message call.arguments = .ok message := by
  unfold outcome
  cases call.repeatedParameter? with
  | some name => simp
  | none => cases formatMessage call.message call.arguments <;> simp [Except.mapError]

theorem outcome_error_iff (call : Call) (fault : CallFault) :
    call.outcome = .error fault ↔
      (∃ name, call.repeatedParameter? = some name ∧ fault = .repeatedParameter name) ∨
      (∃ cause, call.repeatedParameter? = none ∧
        formatMessage call.message call.arguments = .error cause ∧ fault = .template cause) := by
  unfold outcome
  cases call.repeatedParameter? with
  | some name => simp [eq_comm]
  | none => cases formatMessage call.message call.arguments <;> simp [Except.mapError, eq_comm]

end Call

/-- A structured call and its setup, with fields of any names but those that
    control the chain, and with a message of characters. -/
structure Ordinary (setup : Setup) (call : Call) : Prop where
  structured : call.isPlain = false
  context : Uncontrolled setup.context
  bound : Uncontrolled setup.bound
  keywords : Uncontrolled call.fields
  characters : formatMessage call.message call.arguments ≠ .error .loneSurrogate

namespace Setup

def field? (setup : Setup) (call : Call) (key : Value) : Option Value :=
  ((call.fields.get? key).or (setup.bound.get? key)).or (setup.context.get? key)

def shown? (setup : Setup) (call : Call) (key : Value) : Option Value :=
  if key ∈ transient then none else setup.field? call key

/-- Whether the fields of a call can be written as JSON, each as it would be shown;
    those that its line has for itself always can. -/
def writable (setup : Setup) (call : Call) : Bool :=
  (call.fields ++ setup.bound ++ setup.context).all fun entry =>
    ownKeys.contains entry.1 || (setup.shown? call entry.1).all fun value =>
      Json.isKey entry.1 && Json.writable value

theorem writable_iff (setup : Setup) (call : Call) : setup.writable call = true ↔
    ∀ key, key ∉ ownKeys → ∀ value, setup.shown? call key = some value →
      Json.isKey key = true ∧ Json.writable value = true := by
  simp only [writable, List.all_eq_true, Bool.or_eq_true, List.contains_iff_mem, Option.all_eq_true,
    Bool.and_eq_true]
  constructor
  · intro all key other value shown
    -- A field that is shown comes from one of the sources.
    have present : ∃ entry ∈ call.fields ++ setup.bound ++ setup.context, entry.1 = key := by
      have found : ((call.fields.get? key).or (setup.bound.get? key)).or (setup.context.get? key) =
          some value := by
        unfold shown? at shown
        split at shown
        · cases shown
        · exact shown
      simp only [List.mem_append]
      rcases Option.or_eq_some_iff.mp found with found | ⟨-, found⟩
      · rcases Option.or_eq_some_iff.mp found with found | ⟨-, found⟩
        · exact ⟨_, Or.inl (Or.inl (Entries.mem_of_get? _ _ _ found)), rfl⟩
        · exact ⟨_, Or.inl (Or.inr (Entries.mem_of_get? _ _ _ found)), rfl⟩
      · exact ⟨_, Or.inr (Entries.mem_of_get? _ _ _ found), rfl⟩
    obtain ⟨entry, here, rfl⟩ := present
    exact (all entry here).resolve_left other value shown
  · intro all entry _
    exact or_iff_not_imp_left.mpr fun other value shown => all entry.1 other value shown

def entering (setup : Setup) (call : Call) : Value → Option Value :=
  Function.update (fun key => (call.fields.get? key).or (setup.bound.get? key)) (.text "event")
    (some (.text call.message))

section OneCall

variable (setup : Setup) (moment : Moment) (call : Call)

theorem entering_other (key : Value) (other : key ≠ .text "event") :
    (setup.entering call key).or (setup.context.get? key) = setup.field? call key := by
  rw [entering, Function.update_of_ne other]
  rfl

variable (ordinary : Ordinary setup call)
include ordinary

theorem field?_control (name : String) (control : name ∈ controlNames) :
    setup.field? call (.text name) = none := by
  have own := ordinary.keywords.free name control
  have bound := ordinary.bound.free name control
  have context := ordinary.context.free name control
  unfold Entries.field? at own bound context
  rw [field?, own, bound, context]
  rfl

theorem entering_control (name : String) (control : name ∈ controlNames)
    (other : Value.text name ≠ .text "event") :
    setup.entering call (.text name) = none ∧ setup.context.field? name = none := by
  have missing := setup.field?_control call ordinary name control
  rw [← setup.entering_other call _ other] at missing
  exact Option.or_eq_none_iff.mp missing

theorem event_holds : (setup.event call).Holds (setup.entering call) := by
  have bound := Entries.Holds.of_nodup ordinary.bound.once
  exact (bound.merge ordinary.keywords.once).insert _ _

/-- A structured call that raises something does so at any level. -/
theorem emit_failed (fault : CallFault) (failed : call.outcome = .error fault) :
    setup.emit moment call = .error fault := by
  simp only [emit, ordinary.structured, Bool.false_eq_true, ↓reduceIte, structured]
  rcases (call.outcome_error_iff fault).mp failed with ⟨name, again, rfl⟩ | ⟨cause, single, unfilled, rfl⟩
  · rw [again]
    rfl
  -- The chain stops at the message, before the level is looked at.
  · have stopped := fails_shared (severityName call.severity) setup.context moment
      (Function.update_self ..) unfilled _ (setup.event_holds call ordinary)
    rw [single, stopped]
    rfl

/-- The event of a structured call is ready when it has passed the shared chain and
    got its record. -/
theorem passed_ready (message : String) :
    Ready (attached (passed (setup.entering call) setup.context (severityName call.severity)
        moment.timestamp message) true)
      (severityName call.severity) moment.timestamp message (setup.field? call) := by
  obtain ⟨record, origin⟩ := attached_record (passed (setup.entering call) setup.context
    (severityName call.severity) moment.timestamp message) true
  refine ⟨?_, ?_, ?_, ⟨_, record⟩, ⟨_, origin⟩, ?_, fun key passing other => ?_⟩
  · rw [attached_other (by decide), passed_level]
  · rw [attached_other (by decide), passed_timestamp]
  · rw [attached_other (by decide), passed_event]
  · rw [attached_other (by decide), passed_other (by decide),
      setup.entering_other call _ (by decide), setup.field?_control call ordinary _ (by decide)]
  · simp only [transient, List.mem_cons, List.not_mem_nil, or_false, not_or] at passing other
    rw [attached_other (by simp [passing]), passed_other (by simp [passing, other]),
      setup.entering_other call key passing.1]

theorem emit_passed (single : call.repeatedParameter? = none) (event : Entries)
    (passed : process (severityName call.severity) (shared setup.context moment call.arguments)
      (setup.event call) = .ok event) :
    setup.emit moment call = .ok (if setup.admits call.severity then
      some ⟨call.severity, attachRecord event true⟩ else none) := by
  simp only [emit, ordinary.structured, Bool.false_eq_true, ↓reduceIte, structured, single, passed]
  rfl

/-- A structured call that raises nothing hands a line to the handler if its
    severity reaches the level. -/
theorem emit_filled (message : String) (done : call.outcome = .ok message) :
    ∃ (line : Line) (object : Entries),
      setup.emit moment call = .ok (if setup.admits call.severity then some line else none) ∧
      line.object? moment = some object ∧
      Carries object (severityName call.severity) moment.timestamp message (setup.shown? call) := by
  obtain ⟨single, filled⟩ := (call.outcome_ok_iff message).mp done
  have quiet := setup.entering_control call ordinary "stack_info" (by decide) (by decide)
  obtain ⟨event, passed, holds⟩ := takes_shared (severityName call.severity) setup.context moment
    (Function.update_self ..) filled quiet _ (setup.event_holds call ordinary)
  obtain ⟨object, rendered, carries⟩ := (setup.passed_ready moment call ordinary message).renders
    moment (severityName call.severity) (attachRecord_holds holds true)
  refine ⟨_, object, setup.emit_passed moment call ordinary single event passed, ?_, carries⟩
  rw [Line.object?, rendered]
  rfl

end OneCall

def writes (setup : Setup) (made : Moment × Call) : Bool :=
  setup.admits made.2.severity && made.2.outcome.isOk && setup.writable made.2

/-- A line records a call: it is an object with the level, the time and the filled
    message of the call, over its fields. -/
def Records (setup : Setup) (made : Moment × Call) (line : String) : Prop :=
  ∃ message object, made.2.outcome = .ok message ∧
    Carries object (severityName made.2.severity) made.1.timestamp message (setup.shown? made.2) ∧
    Json.text? (.map object) = some line

variable (setup : Setup)

theorem run_cons (json : Bool) (stream : List String) (made : Moment × Call)
    (rest : List (Moment × Call)) :
    setup.run json stream (made :: rest) =
      ((setup.emit made.1 made.2).map (fun _ => ()) ::
          (setup.run json (stream ++ (setup.line? json made.1 made.2).toList) rest).1,
        (setup.run json (stream ++ (setup.line? json made.1 made.2).toList) rest).2) := rfl

/-- A call answers with what it raises, whatever the level. -/
theorem emit_answer (made : Moment × Call) (ordinary : Ordinary setup made.2) :
    (setup.emit made.1 made.2).map (fun _ => ()) = made.2.outcome.map fun _ => () := by
  cases done : made.2.outcome with
  | error fault => rw [setup.emit_failed made.1 made.2 ordinary fault done]; rfl
  | ok message =>
      obtain ⟨line, -, emitted, -⟩ := setup.emit_filled made.1 made.2 ordinary message done
      rw [emitted]
      rfl

theorem log_emitted (moment : Moment) (call : Call) (line : Line) (object : Entries) (admitted : Bool)
    (emitted : setup.emit moment call = .ok (if admitted then some line else none))
    (rendered : line.object? moment = some object) :
    setup.log moment call = .ok (if admitted then some object else none) := by
  rw [log, emitted]
  cases admitted with
  | false => rfl
  | true => exact congrArg Except.ok rendered

/-- The line of a call is the text of the object that becomes of it. -/
theorem line?_log (moment : Moment) (call : Call) : setup.line? true moment call =
    (setup.log moment call).toOption.join.bind fun object => Json.text? (.map object) := by
  rw [line?, log]
  rcases setup.emit moment call with _ | _ | line <;> rfl

/-- A call either writes one line, which records it, or nothing. -/
theorem line?_records (made : Moment × Call) (ordinary : Ordinary setup made.2) :
    (∃ line, setup.writes made = true ∧ setup.line? true made.1 made.2 = some line ∧
      setup.Records made line) ∨
    (setup.writes made = false ∧ setup.line? true made.1 made.2 = none) := by
  cases done : made.2.outcome with
  | error fault =>
      refine Or.inr ⟨by simp [writes, done, Except.isOk, Except.toBool], ?_⟩
      rw [line?, setup.emit_failed made.1 made.2 ordinary fault done]
      rfl
  | ok message =>
      obtain ⟨line, object, emitted, rendered, carries⟩ :=
        setup.emit_filled made.1 made.2 ordinary message done
      have written := setup.line?_log made.1 made.2
      rw [setup.log_emitted made.1 made.2 line object _ emitted rendered] at written
      have kept : setup.writes made = (setup.admits made.2.severity && setup.writable made.2) := by
        simp [writes, done, Except.isOk, Except.toBool]
      -- What the sources of the fields allow is what the object allows.
      have possible : Json.writable (.map object) = setup.writable made.2 :=
        Bool.eq_iff_iff.mpr (carries.writable_iff.trans (setup.writable_iff made.2).symm)
      have text : Json.text? (.map object) =
          if setup.writable made.2 then some (Json.write (.map object)) else none := by
        rw [Json.text?, possible]
      rw [kept]
      cases admitted : setup.admits made.2.severity <;> rw [admitted] at written
      · exact Or.inr ⟨rfl, written⟩
      · cases able : setup.writable made.2 <;> rw [able] at text
        · exact Or.inr ⟨rfl, written.trans text⟩
        · exact Or.inl ⟨_, rfl, written.trans text, message, object, done, carries, text⟩

theorem run_answers (calls : List (Moment × Call)) (ordinary : ∀ made ∈ calls, Ordinary setup made.2)
    (stream : List String) :
    (setup.run true stream calls).1 = calls.map fun made => made.2.outcome.map fun _ => () := by
  induction calls generalizing stream with
  | nil => rfl
  | cons made rest ih =>
      obtain ⟨here, later⟩ := List.forall_mem_cons.mp ordinary
      rw [run_cons, List.map_cons]
      exact congrArg₂ _ (setup.emit_answer made here) (ih later _)

theorem run_lines (calls : List (Moment × Call)) (ordinary : ∀ made ∈ calls, Ordinary setup made.2)
    (stream : List String) :
    ∃ written, (setup.run true stream calls).2 = stream ++ written ∧
      List.Forall₂ setup.Records (calls.filter setup.writes) written := by
  induction calls generalizing stream with
  | nil => exact ⟨[], (List.append_nil stream).symm, List.Forall₂.nil⟩
  | cons made rest ih =>
      obtain ⟨here, later⟩ := List.forall_mem_cons.mp ordinary
      obtain ⟨written, grown, lines⟩ := ih later (stream ++ (setup.line? true made.1 made.2).toList)
      rw [run_cons]
      rcases setup.line?_records made here with ⟨line, kept, wrote, records⟩ | ⟨left, silent⟩
      · rw [wrote, Option.toList_some] at grown ⊢
        refine ⟨line :: written, ?_, ?_⟩
        · rw [grown, List.append_assoc, List.singleton_append]
        · rw [List.filter_cons_of_pos kept]
          exact List.Forall₂.cons records lines
      · rw [silent, Option.toList_none] at grown ⊢
        rw [List.append_nil] at grown ⊢
        refine ⟨written, grown, ?_⟩
        rwa [List.filter_cons_of_neg (Bool.eq_false_iff.mp left)]

/-- The calls that write nothing leave the stream to the others. -/
theorem run_filter (calls : List (Moment × Call)) (ordinary : ∀ made ∈ calls, Ordinary setup made.2)
    (stream : List String) :
    (setup.run true stream (calls.filter setup.writes)).2 = (setup.run true stream calls).2 := by
  induction calls generalizing stream with
  | nil => rfl
  | cons made rest ih =>
      obtain ⟨here, later⟩ := List.forall_mem_cons.mp ordinary
      rcases setup.line?_records made here with ⟨line, kept, -, -⟩ | ⟨left, silent⟩
      · rw [List.filter_cons_of_pos kept, run_cons, run_cons]
        exact ih later _
      -- A call that is left out appends nothing, so the rest runs on the same stream.
      · rw [List.filter_cons_of_neg (Bool.eq_false_iff.mp left), run_cons, silent, Option.toList_none,
          List.append_nil]
        exact ih later stream

/-- Structured calls, in any number, one after the other on a stream of JSON. Each
    raises what filling its message raises, if no keyword repeats a parameter of
    it. The stream grows by one line for each call that raises nothing, whose
    severity reaches the level and whose fields can be written, in the order of the
    calls: an object with the level, the time and the message of its call, whose
    other fields are those of the call, else the bound ones, else those of the
    context. The other calls might as well not have been made. -/
theorem lines_exact (calls : List (Moment × Call)) (ordinary : ∀ made ∈ calls, Ordinary setup made.2)
    (stream : List String) :
    (setup.run true stream calls).1 = calls.map (fun made => made.2.outcome.map fun _ => ()) ∧
      (∃ written, (setup.run true stream calls).2 = stream ++ written ∧
        List.Forall₂ setup.Records (calls.filter setup.writes) written) ∧
      (setup.run true stream (calls.filter setup.writes)).2 = (setup.run true stream calls).2 :=
  ⟨setup.run_answers calls ordinary stream, setup.run_lines calls ordinary stream,
    setup.run_filter calls ordinary stream⟩

/-! Calls that collide in each of their fields with the context, the bound
fields and what a line has of its own. One of them fails, one is below the level,
and one has a field with a key that JSON cannot have. -/

def crowded : Setup where
  level := Severity.info.rank
  context := [(.text "request", .text "r"), (.text "msg", .text "mine"), (.text "user", .int 1)]
  bound := [(.text "request", .text "b"), (.text "level", .int 3)]

def exchange : List (Moment × Call) :=
  [(.untraced "t1", ⟨.info, "%d of %s", [.int 3, .text "x"],
      [(.text "timestamp", .text "never"), (.text "request", .null)], false⟩),
    (.untraced "t2", ⟨.error, "%d", [.text "x"], [], false⟩),
    (.untraced "t3", ⟨.debug, "%s", [.null], [], false⟩),
    (.untraced "t4", ⟨.error, "days", [], [(.text "by", .map [(.moment "2024-01-01", .int 1)])], false⟩),
    (.untraced "t5", ⟨.critical, "100%", [], [], false⟩)]

theorem lines_exact_exchange :
    (∀ made ∈ exchange, Ordinary crowded made.2) ∧
      ∃ first second : Entries, crowded.run true [] exchange =
          ([.ok (), .error (.template .numberNeeded), .ok (), .ok (), .ok ()],
            [Json.write (.map first), Json.write (.map second)]) ∧
        first.field? "msg" = some (.text "3 of x") ∧ first.field? "timestamp" = some (.text "t1") ∧
        first.field? "request" = some .null ∧ first.field? "user" = some (.int 1) ∧
        second.field? "msg" = some (.text "100%") ∧ second.field? "level" = some (.text "critical") ∧
        second.field? "request" = some (.text "b") := by
  have context : Uncontrolled crowded.context := ⟨by decide, by decide⟩
  have bound : Uncontrolled crowded.bound := ⟨by decide, by decide⟩
  have ordinary : ∀ made ∈ exchange, Ordinary crowded made.2 := by
    refine List.forall_mem_cons.mpr ⟨?_, List.forall_mem_cons.mpr ⟨?_, List.forall_mem_cons.mpr ⟨?_,
      List.forall_mem_cons.mpr ⟨?_, List.forall_mem_singleton.mpr ?_⟩⟩⟩⟩ <;>
      exact ⟨rfl, context, bound, ⟨by decide, by decide⟩, by decide⟩
  obtain ⟨answers, ⟨written, grown, lines⟩, -⟩ := lines_exact crowded exchange ordinary []
  have kept : exchange.filter crowded.writes = [exchange[0], exchange[4]] := rfl
  rw [kept] at lines
  obtain ⟨line, last, ⟨message, first, filled, carries, text⟩, behind, rfl⟩ :=
    List.forall₂_cons_left_iff.mp lines
  obtain ⟨line', left, ⟨message', second, filled', carries', text'⟩, nothing, rfl⟩ :=
    List.forall₂_cons_left_iff.mp behind
  cases List.forall₂_nil_left_iff.mp nothing
  cases filled
  cases filled'
  refine ⟨ordinary, first, second, Prod.ext answers ?_, carries.message, carries.timestamp,
    carries.others (.text "request") (by decide), carries.others (.text "user") (by decide),
    carries'.message, carries'.level, carries'.others (.text "request") (by decide)⟩
  rw [Json.write_of_text? _ _ text, Json.write_of_text? _ _ text']
  exact grown

theorem fault_of_missing_key :
    ¬ ∀ (setup : Setup) (moment : Moment) (call : Call), Ordinary setup call →
      (∃ cause, formatMessage call.message call.arguments = .error cause) →
      ∃ fault, setup.log moment call = .error fault ∧ fault.kind = .type := by
  intro always
  let call : Call := { severity := .info, message := "%(a)s", arguments := [.map [(.text "b", .int 1)]] }
  have unfilled : formatMessage "%(a)s" [.map [(.text "b", .int 1)]] = .error (.unknownKey "a") := by rfl
  have ordinary : Ordinary { level := 20 } call :=
    ⟨rfl, ⟨by decide, by decide⟩, ⟨by decide, by decide⟩, ⟨by decide, by decide⟩,
      fun same => by cases unfilled.symm.trans same⟩
  have failed := (call.outcome_error_iff (.template (.unknownKey "a"))).mpr
    (Or.inr ⟨_, rfl, unfilled, rfl⟩)
  obtain ⟨fault, raised, kind⟩ := always { level := 20 } (.untraced "t") call ordinary ⟨_, unfilled⟩
  rw [log, emit_failed _ (.untraced "t") call ordinary _ failed] at raised
  cases raised
  cases kind

theorem line_of_unwritable_field :
    ¬ ∀ (setup : Setup) (moment : Moment) (call : Call), Ordinary setup call →
      setup.admits call.severity = true → (∃ message, call.outcome = .ok message) →
      ∃ line, setup.line? true moment call = some line := by
  intro always
  let days : Value := .map [(.moment "2024-01-01", .int 1)]
  let call : Call := { severity := .info, message := "days", fields := [(.text "by", days)] }
  have ordinary : Ordinary { level := 20 } call :=
    ⟨rfl, ⟨by decide, by decide⟩, ⟨by decide, by decide⟩, ⟨by decide, by decide⟩, by decide⟩
  obtain ⟨line, wrote⟩ := always { level := 20 } (.untraced "t") call ordinary rfl ⟨"days", rfl⟩
  rcases line?_records { level := 20 } (.untraced "t", call) ordinary with ⟨_, kept, -⟩ | ⟨-, silent⟩
  · cases kept
  · cases wrote.symm.trans silent

/-- A call whose message cannot be filled may raise another fault than one of type,
    and a call that raises nothing and reaches the level may have no line. -/
theorem not_every_fault_or_line :
    (¬ ∀ (setup : Setup) (moment : Moment) (call : Call), Ordinary setup call →
      (∃ cause, formatMessage call.message call.arguments = .error cause) →
      ∃ fault, setup.log moment call = .error fault ∧ fault.kind = .type) ∧
    ¬ ∀ (setup : Setup) (moment : Moment) (call : Call), Ordinary setup call →
      setup.admits call.severity = true → (∃ message, call.outcome = .ok message) →
      ∃ line, setup.line? true moment call = some line :=
  ⟨fault_of_missing_key, line_of_unwritable_field⟩

end Setup

end Log

end EventRetention
