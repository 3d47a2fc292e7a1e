import EventRetention.Proofs.LoggedLines

/-!
The two kinds of loggers. A plain logger fills its message when the record is
written and runs the chain over the record, with the level by the name that the
record has for it. What it writes is what a structured logger without fields of
its own writes for the same call, at another time.
-/

namespace EventRetention.Log

/-- A record has the name of its level that a structured call has. -/
theorem lower_levelName (severity : Severity) :
    Text.lower (levelName severity.rank) = severityName severity := by
  cases severity <;> rfl

def announced (message : String) : Value → Option Value :=
  attached (Function.update (fun _ => none) (.text "event") (some (.text message))) false

theorem announced_holds (message : String) :
    (attachRecord [(.text "event", .text message)] false).Holds (announced message) := by
  have empty : Entries.Holds [] fun _ => none := ⟨List.nodup_nil, fun _ => rfl⟩
  exact attachRecord_holds (empty.insert _ _) false

theorem announced_other (message : String) (key : Value) (other : key ∉ transient) :
    announced message key = none := by
  simp only [transient, List.mem_cons, List.not_mem_nil, or_false, not_or] at other
  rw [announced, attached_other (by simp [other]), Function.update_of_ne other.1]

theorem announced_event (message : String) :
    announced message (.text "event") = some (.text message) := by
  rw [announced, attached_other (by decide), Function.update_self]

theorem formatMessage_bare (message : String) : formatMessage message [] = .ok message := rfl

namespace Setup

variable (setup : Setup) (moment : Moment) (call : Call)

variable (context : Uncontrolled setup.context)
include context

/-- The event of a record is ready when it has passed the shared chain. -/
theorem announced_ready (message : String) :
    Ready (passed (announced message) setup.context (severityName call.severity) moment.timestamp
        message)
      (severityName call.severity) moment.timestamp message setup.context.get? := by
  obtain ⟨record, origin⟩ := attached_record
    (Function.update (fun _ => none) (.text "event") (some (.text message))) false
  refine ⟨passed_level, passed_timestamp, passed_event,
    ⟨.null, ?_⟩, ⟨.bool false, ?_⟩, ?_, fun key passing other => ?_⟩
  -- The event has its record before the context is added, which cannot replace it.
  · rw [passed_other (by decide), announced, record, Option.some_or]
  · rw [passed_other (by decide), announced, origin, Option.some_or]
  · rw [passed_other (by decide), announced_other _ _ (by decide), Option.none_or]
    exact context.free "exc_info" (by decide)
  · have bare := announced_other message key passing
    simp only [transient, List.mem_cons, List.not_mem_nil, or_false, not_or] at passing other
    rw [passed_other (by simp [passing, other]), bare, Option.none_or]

/-- A plain call whose message can be filled hands a line to the handler if its
    severity reaches the level, with the fields of the context. -/
theorem emit_plain (plain : call.isPlain = true) (message : String)
    (filled : formatMessage call.message call.arguments = .ok message) :
    ∃ (line : Line) (object : Entries),
      setup.emit moment call = .ok (if setup.admits call.severity then some line else none) ∧
      line.object? moment = some object ∧
      Carries object (severityName call.severity) moment.timestamp message
        (fun key => if key ∈ transient then none else setup.context.get? key) := by
  -- The message is filled already; the chain gets no arguments and leaves it.
  obtain ⟨event, passed, holds⟩ := takes_shared (severityName call.severity) setup.context moment
    (announced_event message) (formatMessage_bare message)
    ⟨announced_other _ _ (by decide), context.free _ (by decide)⟩ _ (announced_holds message)
  obtain ⟨object, rendered, carries⟩ := (setup.announced_ready moment call context message).renders
    moment (severityName call.severity) holds
  refine ⟨⟨call.severity, event⟩, object, ?_, ?_, carries⟩
  · simp only [emit, plain, ↓reduceIte, Setup.plain, lower_levelName, filled]
    simp only [Except.mapError, bind, Except.bind, passed]
    rfl
  · rw [Line.object?, rendered]
    rfl

end Setup

/-- One call through both kinds of loggers, neither with fields of its own, in a
    context with fields of any names but those that control the chain. If its
    message can be filled, both of them raise nothing, and make an object exactly
    when the severity reaches the level. Both objects have each key once, and the
    same value under it, but for the time; both can be written as JSON or none. -/
theorem routes_agree (level : Nat) (context : Entries) (own : Uncontrolled context)
    (severity : Severity) (template message : String) (arguments : List Value)
    (filled : formatMessage template arguments = .ok message) (moment later : Moment) :
    let setup : Setup := { level, context }
    let call : Call := { severity, message := template, arguments }
    ∃ line other : Entries,
      setup.log moment call = .ok (if level ≤ severity.rank then some line else none) ∧
      setup.log later { call with isPlain := true } =
        .ok (if level ≤ severity.rank then some other else none) ∧
      line.keys.Nodup ∧ other.keys.Nodup ∧
      (∀ key, key ≠ .text "timestamp" → line.get? key = other.get? key) ∧
      (Json.text? (.map line)).isSome = (Json.text? (.map other)).isSome := by
  intro setup call
  have bare : Uncontrolled [] := ⟨List.nodup_nil, fun _ _ => rfl⟩
  have characters : formatMessage template arguments ≠ .error .loneSurrogate := by simp [filled]
  have ordinary : Ordinary setup call := ⟨rfl, own, bare, bare, characters⟩
  have done : call.outcome = .ok message := (call.outcome_ok_iff message).mpr ⟨rfl, filled⟩
  -- Both lines carry the level and the message of the call, over the context.
  obtain ⟨line, object, emitted, rendered, carries⟩ :=
    setup.emit_filled moment call ordinary message done
  obtain ⟨line', object', emitted', rendered', carries'⟩ :=
    setup.emit_plain later { call with isPlain := true } own rfl message filled
  have logged := setup.log_emitted moment call line object _ emitted rendered
  have logged' := setup.log_emitted later { call with isPlain := true } line' object' _ emitted' rendered'
  simp only [Setup.admits, decide_eq_true_eq] at logged logged'
  refine ⟨object, object', logged, logged', carries.once, carries'.once, fun key untimed => ?_, ?_⟩
  · exact carries.agree carries' untimed rfl
  · rw [Json.text?_isSome, Json.text?_isSome]
    exact Bool.eq_iff_iff.mpr (carries.writable_iff.trans carries'.writable_iff.symm)

/-! A context with fields of the names that events, records and lines use, and a
message with marks of both kinds. -/

def collisions : Entries :=
  [(.text "event", .int 1), (.text "_record", .int 2), (.text "level", .null),
    (.text "msg", .text "mine"), (.text "user", .bool true)]

theorem routes_agree_collisions :
    let setup : Setup := { level := 30, context := collisions }
    let call : Call := { severity := .warning, message := "100%% of %d", arguments := [.int 7] }
    Uncontrolled collisions ∧ formatMessage "100%% of %d" [.int 7] = .ok "100% of 7" ∧
      ∃ line other : Entries, setup.log (.untraced "t") call = .ok (some line) ∧
        setup.log (.untraced "u") { call with isPlain := true } = .ok (some other) ∧
        line.field? "msg" = other.field? "msg" ∧ line.field? "level" = other.field? "level" ∧
        line.field? "user" = other.field? "user" := by
  intro setup call
  have own : Uncontrolled collisions := ⟨by decide, by decide⟩
  have filled : formatMessage "100%% of %d" [.int 7] = .ok "100% of 7" := by rfl
  obtain ⟨line, other, logged, logged', -, -, same, -⟩ := routes_agree 30 collisions own .warning
    "100%% of %d" "100% of 7" [.int 7] filled (.untraced "t") (.untraced "u")
  exact ⟨own, filled, line, other, logged, logged', same _ (by decide), same _ (by decide),
    same _ (by decide)⟩

end EventRetention.Log
