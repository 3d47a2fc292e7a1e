import EventRetention.Log.Call
import EventRetention.Proofs.EntryLookup
import Mathlib.Logic.Function.Basic

/-!
What processors do to the fields of an event. An event holds the fields that a
function gives for each key; a processor takes events that hold some fields to
ones that hold others, and so does a chain of them.
-/

namespace EventRetention

namespace Entries

theorem erase_cons (first value key : Value) (rest : Entries) :
    erase ((first, value) :: rest) key =
      if first = key then erase rest key else (first, value) :: erase rest key := by
  unfold erase
  by_cases same : first = key
  · rw [if_pos same, List.filter_cons_of_neg (by simpa using same)]
  · rw [if_neg same, List.filter_cons_of_pos (by simpa using same)]

theorem get?_erase (entries : Entries) (key other : Value) :
    (entries.erase key).get? other = if other = key then none else entries.get? other := by
  induction entries with
  | nil => simp [erase, get?_nil]
  | cons entry rest ih =>
      obtain ⟨first, value⟩ := entry
      rw [erase_cons, get?_cons]
      by_cases same : first = key
      · subst same
        rw [if_pos rfl, ih]
        by_cases here : other = first
        · rw [if_pos here, if_pos here]
        · rw [if_neg here, if_neg here, if_neg (Ne.symm here)]
      · rw [if_neg same, get?_cons, ih]
        by_cases here : first = other
        · rw [if_pos here, if_pos here, if_neg (here ▸ same)]
        · rw [if_neg here, if_neg here]

theorem complete_cons (entries rest : Entries) (entry : Value × Value) :
    entries.complete (entry :: rest) =
      (if (entries.get? entry.1).isSome then entries else entries.insert entry.1 entry.2).complete
        rest := rfl

theorem merge_cons (entries rest : Entries) (entry : Value × Value) :
    entries.merge (entry :: rest) = (entries.insert entry.1 entry.2).merge rest := rfl

-- Of entries with one key the first is added, and the first is looked up.
theorem get?_complete (entries others : Entries) (key : Value) :
    (entries.complete others).get? key = (entries.get? key).or (others.get? key) := by
  induction others generalizing entries with
  | nil => rw [get?_nil, Option.or_none]; rfl
  | cons entry rest ih =>
      obtain ⟨first, value⟩ := entry
      rw [complete_cons, ih, get?_cons]
      by_cases same : first = key
      · subst same
        rw [if_pos rfl]
        cases known : entries.get? first with
        | some old => simp [known]
        | none => simp [get?_insert]
      · rw [if_neg same]
        split
        · rfl
        · rw [get?_insert, if_neg same]

-- The last entry of a key stays, so each key may be there once only.
theorem get?_merge (entries others : Entries) (single : others.keys.Nodup) (key : Value) :
    (entries.merge others).get? key = (others.get? key).or (entries.get? key) := by
  induction others generalizing entries with
  | nil => rfl
  | cons entry rest ih =>
      obtain ⟨first, value⟩ := entry
      obtain ⟨fresh, single⟩ := List.nodup_cons.mp single
      rw [merge_cons, ih _ single, get?_cons, get?_insert]
      by_cases same : first = key
      · subst same
        rw [if_pos rfl, if_pos rfl, (get?_eq_none rest first).mpr fresh, Option.none_or, Option.some_or]
      · rw [if_neg same, if_neg same]

theorem keys_erase_nodup (entries : Entries) (key : Value) (single : entries.keys.Nodup) :
    (entries.erase key).keys.Nodup :=
  (List.filter_sublist.map Prod.fst).nodup single

theorem keys_complete_nodup (entries others : Entries) (single : entries.keys.Nodup) :
    (entries.complete others).keys.Nodup := by
  induction others generalizing entries with
  | nil => exact single
  | cons entry rest ih =>
      rw [complete_cons]
      split
      · exact ih _ single
      · exact ih _ (entries.keys_insert_nodup _ _ single)

theorem keys_merge_nodup (entries others : Entries) (single : entries.keys.Nodup) :
    (entries.merge others).keys.Nodup := by
  induction others generalizing entries with
  | nil => exact single
  | cons entry rest ih => exact ih _ (entries.keys_insert_nodup _ _ single)

/-! What is erased is left out of the parts, too. -/

theorem erase_insert_other (entries : Entries) (key other value : Value) (apart : key ≠ other) :
    (entries.insert key value).erase other = (entries.erase other).insert key value := by
  induction entries with
  | nil => rw [insert_nil, erase_cons, if_neg apart]; rfl
  | cons entry rest ih =>
      obtain ⟨first, old⟩ := entry
      rw [insert_cons, erase_cons]
      by_cases same : first = key
      · subst same
        rw [if_pos rfl, erase_cons, if_neg apart, if_neg apart, insert_cons, if_pos rfl]
      · rw [if_neg same, erase_cons, ih]
        split
        · rfl
        · rw [insert_cons, if_neg same]

theorem erase_comm (entries : Entries) (key other : Value) :
    (entries.erase key).erase other = (entries.erase other).erase key := by
  simp only [erase, List.filter_filter, Bool.and_comm]

theorem erase_complete (entries others : Entries) (key : Value) :
    (entries.complete others).erase key = (entries.erase key).complete (others.erase key) := by
  induction others generalizing entries with
  | nil => rfl
  | cons entry rest ih =>
      obtain ⟨first, value⟩ := entry
      rw [complete_cons, ih, erase_cons]
      by_cases same : first = key
      · subst same
        rw [if_pos rfl]
        split
        · rfl
        · rw [erase_insert]
      · rw [if_neg same, complete_cons, get?_erase, if_neg same]
        split
        · rfl
        · rw [erase_insert_other _ _ _ _ same]

theorem erase_merge (entries others : Entries) (key : Value) :
    (entries.merge others).erase key = (entries.erase key).merge (others.erase key) := by
  induction others generalizing entries with
  | nil => rfl
  | cons entry rest ih =>
      obtain ⟨first, value⟩ := entry
      rw [merge_cons, ih, erase_cons]
      by_cases same : first = key
      · subst same
        rw [if_pos rfl, erase_insert]
      · rw [if_neg same, merge_cons, erase_insert_other _ _ _ _ same]

structure Holds (entries : Entries) (given : Value → Option Value) : Prop where
  once : entries.keys.Nodup
  found : ∀ key, entries.get? key = given key

namespace Holds

variable {entries others : Entries} {given : Value → Option Value}

theorem of_nodup (single : entries.keys.Nodup) : entries.Holds entries.get? :=
  ⟨single, fun _ => rfl⟩

variable (holds : entries.Holds given)
include holds

theorem insert (key value : Value) :
    (entries.insert key value).Holds (Function.update given key (some value)) := by
  refine ⟨entries.keys_insert_nodup key value holds.once, fun other => ?_⟩
  rw [get?_insert, holds.found, Function.update_apply]
  simp only [eq_comm]

theorem erase (key : Value) : (entries.erase key).Holds (Function.update given key none) := by
  refine ⟨entries.keys_erase_nodup key holds.once, fun other => ?_⟩
  rw [get?_erase, holds.found, Function.update_apply]

theorem complete (others : Entries) :
    (entries.complete others).Holds fun key => (given key).or (others.get? key) :=
  ⟨entries.keys_complete_nodup others holds.once, fun key => by rw [get?_complete, holds.found]⟩

theorem merge (single : others.keys.Nodup) :
    (entries.merge others).Holds fun key => (others.get? key).or (given key) :=
  ⟨entries.keys_merge_nodup others holds.once, fun key => by rw [get?_merge _ _ single, holds.found]⟩

end Holds

end Entries

namespace Log

open Processor

def Takes (level : String) (processors : List Processor) (before after : Value → Option Value) : Prop :=
  ∀ event : Entries, event.Holds before →
    ∃ next, process level processors event = .ok next ∧ next.Holds after

def Fails (level : String) (processors : List Processor) (before : Value → Option Value)
    (fault : CallFault) : Prop :=
  ∀ event : Entries, event.Holds before → process level processors event = .error fault

theorem process_cons (level : String) (first : Processor) (rest : List Processor) (event : Entries) :
    process level (first :: rest) event =
      match process level [first] event with
      | .ok next => process level rest next
      | .error fault => .error fault := by
  simp only [process]
  cases first level event <;> rfl

theorem process_single (level : String) (step : Processor) (event : Entries) :
    process level [step] event = step level event := by
  simp only [process]
  cases step level event <;> rfl

variable {level : String} {given middle after : Value → Option Value} {first : Processor}
  {rest : List Processor}

theorem Takes.cons (step : Takes level [first] given middle) (run : Takes level rest middle after) :
    Takes level (first :: rest) given after := by
  intro event holds
  obtain ⟨next, taken, held⟩ := step event holds
  obtain ⟨last, finished, kept⟩ := run next held
  exact ⟨last, by rw [process_cons, taken]; exact finished, kept⟩

theorem Takes.fails {fault : CallFault} (step : Takes level [first] given middle)
    (run : Fails level rest middle fault) : Fails level (first :: rest) given fault := by
  intro event holds
  obtain ⟨next, taken, held⟩ := step event holds
  rw [process_cons, taken]
  exact run next held

/-! One processor. -/

theorem takes_addContext (context : Entries) :
    Takes level [addContext context] given fun key => (given key).or (context.get? key) :=
  fun _ holds => ⟨_, rfl, holds.complete context⟩

theorem takes_addLevel :
    Takes level [addLevel] given (Function.update given (.text "level") (some (.text level))) :=
  fun _ holds => ⟨_, rfl, holds.insert _ _⟩

theorem takes_addTimestamp (timestamp : String) :
    Takes level [addTimestamp timestamp] given
      (Function.update given (.text "timestamp") (some (.text timestamp))) :=
  fun _ holds => ⟨_, rfl, holds.insert _ _⟩

def withMessage (given : Value → Option Value) (message : String) : Value → Option Value :=
  Function.update given (.text "event") (some (.text message))

section Message

variable {template : String} {arguments : List Value}
  (shown : given (.text "event") = some (.text template))
include shown

theorem takes_fillMessage {message : String} (filled : formatMessage template arguments = .ok message) :
    Takes level [fillMessage arguments] given (withMessage given message) := by
  intro event holds
  rw [process_single]
  cases arguments with
  | nil =>
      -- Without arguments a text is its own message, so the fields are what they were.
      cases filled
      have settled : withMessage given template = given := by
        rw [withMessage, ← shown, Function.update_eq_self]
      exact ⟨event, rfl, settled.symm ▸ holds⟩
  | cons first others =>
      simp only [fillMessage, Entries.field?, holds.found, shown, filled]
      exact ⟨_, rfl, holds.insert _ _⟩

theorem fails_fillMessage {fault : TemplateFault}
    (failed : formatMessage template arguments = .error fault) :
    Fails level (fillMessage arguments :: rest) given (.template fault) := by
  intro event holds
  rw [process_cons, process_single]
  cases arguments with
  | nil => cases failed
  | cons first others =>
      simp only [fillMessage, Entries.field?, holds.found, shown, failed]
      rfl

end Message

theorem takes_showTrace (asked shown : String) (trace : Value → Option String)
    (unasked : given (.text asked) = none) : Takes level [showTrace asked shown trace] given given := by
  intro event holds
  rw [process_single]
  simp only [showTrace, Entries.field?, holds.found, unasked, Option.bind_none]
  refine ⟨_, rfl, ?_⟩
  have erased := holds.erase (.text asked)
  rwa [← unasked, Function.update_eq_self] at erased

theorem takes_drop {name : String} {value : Value} (held : given (.text name) = some value) :
    Takes level [drop name] given (Function.update given (.text name) none) := by
  intro event holds
  rw [process_single]
  simp only [drop, Entries.field?, holds.found, held]
  exact ⟨_, rfl, holds.erase _⟩

theorem takes_dropBookkeeping {record source : Value}
    (carried : given (.text "_record") = some record)
    (origin : given (.text "_from_structlog") = some source) :
    Takes level [dropBookkeeping] given (Function.update (Function.update given (.text "_record") none)
      (.text "_from_structlog") none) := by
  intro event holds
  rw [process_single]
  have next : Function.update given (.text "_record") none (.text "_from_structlog") = some source := by
    rw [Function.update_of_ne (by decide), origin]
  exact Takes.cons (takes_drop carried) (takes_drop next) event holds

theorem takes_rename {name other : String} {value : Value} (held : given (.text name) = some value) :
    Takes level [rename name other] given
      (Function.update (Function.update given (.text name) none) (.text other) (some value)) := by
  intro event holds
  rw [process_single]
  simp only [rename, Entries.field?, holds.found, held]
  exact ⟨_, rfl, (holds.erase _).insert _ _⟩

/-! The chain that is shared, and the rendering. -/

def stamped (given : Value → Option Value) (context : Entries) (level timestamp : String) :
    Value → Option Value :=
  Function.update
    (Function.update (fun key => (given key).or (context.get? key)) (.text "level") (some (.text level)))
    (.text "timestamp") (some (.text timestamp))

theorem stamped_own {context : Entries} {timestamp : String} {key : Value}
    (own : key ∉ [Value.text "level", .text "timestamp"]) :
    stamped given context level timestamp key = (given key).or (context.get? key) := by
  simp only [List.mem_cons, List.not_mem_nil, or_false, not_or] at own
  rw [stamped, Function.update_of_ne own.2, Function.update_of_ne own.1]

/-- Fields as the shared chain leaves them: stamped, and with the message filled. -/
def passed (given : Value → Option Value) (context : Entries) (level timestamp message : String) :
    Value → Option Value :=
  withMessage (stamped given context level timestamp) message

theorem passed_other {context : Entries} {timestamp message : String} {key : Value}
    (other : key ∉ [Value.text "event", .text "level", .text "timestamp"]) :
    passed given context level timestamp message key = (given key).or (context.get? key) := by
  simp only [List.mem_cons, List.not_mem_nil, or_false, not_or] at other
  rw [passed, withMessage, Function.update_of_ne other.1, stamped_own (by simp [other])]

theorem passed_event {context : Entries} {timestamp message : String} :
    passed given context level timestamp message (.text "event") = some (.text message) := by
  rw [passed, withMessage, Function.update_self]

theorem passed_level {context : Entries} {timestamp message : String} :
    passed given context level timestamp message (.text "level") = some (.text level) := by
  rw [passed, withMessage, Function.update_of_ne (by decide), stamped,
    Function.update_of_ne (by decide), Function.update_self]

theorem passed_timestamp {context : Entries} {timestamp message : String} :
    passed given context level timestamp message (.text "timestamp") = some (.text timestamp) := by
  rw [passed, withMessage, Function.update_of_ne (by decide), stamped, Function.update_self]

section Shared

variable (level) (context : Entries) (moment : Moment) {template : String} {arguments : List Value}
  (shown : given (.text "event") = some (.text template))
include shown

theorem stamped_event :
    stamped given context level moment.timestamp (.text "event") = some (.text template) := by
  rw [stamped_own (by decide), shown, Option.some_or]

theorem takes_shared {message : String} (filled : formatMessage template arguments = .ok message)
    (unasked : given (.text "stack_info") = none ∧ context.field? "stack_info" = none) :
    Takes level (shared context moment arguments) given
      (passed given context level moment.timestamp message) := by
  have quiet : passed given context level moment.timestamp message (.text "stack_info") = none := by
    rw [passed_other (by decide), unasked.1, Option.none_or]
    exact unasked.2
  exact Takes.cons (takes_addContext context) <|
    Takes.cons takes_addLevel <|
    Takes.cons (takes_addTimestamp _) <|
    Takes.cons (takes_fillMessage (stamped_event level context moment shown) filled) <|
    takes_showTrace _ _ _ quiet

theorem fails_shared {fault : TemplateFault}
    (failed : formatMessage template arguments = .error fault) :
    Fails level (shared context moment arguments) given (.template fault) :=
  Takes.fails (takes_addContext context) <|
    Takes.fails takes_addLevel <|
    Takes.fails (takes_addTimestamp _) <|
    fails_fillMessage (stamped_event level context moment shown) failed

end Shared

def attached (given : Value → Option Value) (structured : Bool) : Value → Option Value :=
  Function.update (Function.update given (.text "_record") (some .null)) (.text "_from_structlog")
    (some (.bool structured))

theorem attachRecord_holds {event : Entries} (holds : event.Holds given) (structured : Bool) :
    (attachRecord event structured).Holds (attached given structured) :=
  (holds.insert _ _).insert _ _

theorem attached_other {structured : Bool} {key : Value}
    (other : key ∉ [Value.text "_record", .text "_from_structlog"]) :
    attached given structured key = given key := by
  simp only [List.mem_cons, List.not_mem_nil, or_false, not_or] at other
  rw [attached, Function.update_of_ne other.2, Function.update_of_ne other.1]

theorem attached_record (given : Value → Option Value) (structured : Bool) :
    attached given structured (.text "_record") = some .null ∧
      attached given structured (.text "_from_structlog") = some (.bool structured) := by
  unfold attached
  rw [Function.update_of_ne (by decide), Function.update_self, Function.update_self]
  exact ⟨rfl, rfl⟩

/-- An event with a record and a message can be made an object. -/
theorem object?_attached (severity : Severity) (event : Entries) (structured : Bool) (moment : Moment)
    (message : Value) (held : event.field? "event" = some message) :
    ∃ object : Entries,
      (⟨severity, attachRecord event structured⟩ : Line).object? moment = some object ∧
        object.field? "msg" = some message := by
  have record : (attachRecord event structured).field? "_record" = some .null := by
    simp [attachRecord, Entries.field?, Entries.get?_insert]
  have origin : ((attachRecord event structured).erase (.text "_record")).field? "_from_structlog" =
      some (.bool structured) := by
    simp [attachRecord, Entries.field?, Entries.get?_insert, Entries.get?_erase]
  let bare := ((attachRecord event structured).erase (.text "_record")).erase (.text "_from_structlog")
  have kept : bare.field? "event" = some message := by
    simpa [bare, attachRecord, Entries.field?, Entries.get?_insert, Entries.get?_erase] using held
  -- A trace that is shown goes into a field of its own.
  obtain ⟨traced, shown, same⟩ : ∃ traced, showTrace "exc_info" "exception" moment.exception
      (severityName severity) bare = .ok traced ∧ traced.field? "event" = some message := by
    unfold showTrace
    split
    · exact ⟨_, rfl, by simpa [Entries.field?, Entries.get?_insert, Entries.get?_erase] using kept⟩
    · exact ⟨_, rfl, by simpa [Entries.field?, Entries.get?_erase] using kept⟩
  refine ⟨(traced.erase (.text "event")).insert (.text "msg") message, ?_, ?_⟩
  · have dropped : dropBookkeeping (severityName severity) (attachRecord event structured) = .ok bare := by
      simp only [dropBookkeeping, process, drop, record, origin, bind, Except.bind]
      rfl
    simp only [Line.object?, render, process, dropped, bind, Except.bind, shown, rename, same]
    rfl
  · simp [Entries.field?, Entries.get?_insert]

def renamed (given : Value → Option Value) (message : Value) : Value → Option Value :=
  Function.update (Function.update (Function.update (Function.update given (.text "_record") none)
    (.text "_from_structlog") none) (.text "event") none) (.text "msg") (some message)

def transient : List Value := [.text "event", .text "_record", .text "_from_structlog"]

theorem renamed_other {message key : Value} (other : key ≠ .text "msg") :
    renamed given message key = if key ∈ transient then none else given key := by
  unfold renamed transient
  rw [Function.update_of_ne other]
  simp only [Function.update_apply, List.mem_cons, List.not_mem_nil, or_false]
  by_cases event : key = .text "event" <;> by_cases source : key = .text "_from_structlog" <;>
    by_cases record : key = .text "_record" <;> simp [event, source, record]

variable (level) in
theorem takes_render (moment : Moment) {record source message : Value}
    (carried : given (.text "_record") = some record)
    (origin : given (.text "_from_structlog") = some source)
    (unasked : given (.text "exc_info") = none) (shown : given (.text "event") = some message) :
    Takes level (render moment) given (renamed given message) := by
  refine Takes.cons (takes_dropBookkeeping carried origin) <|
    Takes.cons (takes_showTrace _ _ _ ?_) (takes_rename ?_)
  · rw [Function.update_of_ne (by decide), Function.update_of_ne (by decide), unasked]
  · rw [Function.update_of_ne (by decide), Function.update_of_ne (by decide), shown]

end Log

end EventRetention
