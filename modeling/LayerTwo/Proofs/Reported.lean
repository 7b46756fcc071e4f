import LayerTwo.Message.Build
import LayerTwo.Proofs.Json.Shown
import LayerTwo.Proofs.Payload.Block
import LayerTwo.Proofs.Payload.BlockRange
import LayerTwo.Proofs.Payload.Raw
import LayerTwo.Proofs.Payload.Scalar

/-! What a failure leaves in the log. A payload that is refused and a call that cannot be encoded
are logged once, as an error with the message of the failure, and nothing on the way out logs them
again or turns them into another failure. A success logs no error; about a payload it logs
nothing. A failure that cannot be shown is not logged, and is neither of the two; none comes from raw
JSON. -/
namespace LayerTwo

open Schema Operation

variable {σ α β : Type}

/-- A success that left no record, or a refused payload that left one, an error with its message. -/
inductive Outcome.Parsed : Outcome σ α → Prop where
  | accepted (state : σ) (a : α) : Parsed ⟨[], state, .ok a⟩
  | refused (state : σ) (area : Area) {error : ParseError} {message : String}
      (shown : error.message? = some message) :
      Parsed ⟨[⟨.error, area, message⟩], state, .error (.parse error)⟩

/-- A failure to show an error, which left no record. -/
structure Outcome.Hidden (outcome : Outcome σ α) : Prop where
  log : outcome.log = []
  result : outcome.result = .error (.badValue .unprintable)

/-- The messages that were logged as errors. -/
def Outcome.errors (outcome : Outcome σ α) : List String :=
  (outcome.log.filter (·.level = .error)).map (·.message)

/-- A success left no error, and a call that could not be encoded left one, its message. -/
structure Outcome.Encoded (outcome : Outcome σ α) : Prop where
  success : ∀ a, outcome.result = .ok a → outcome.errors = []
  failure : ∀ error, outcome.result = .error (.encoding error) →
    ∃ message, error.message? = some message ∧ outcome.errors = [message]

/-! Payloads -/

theorem parsed_refused (area : Area) {error : ParseError} (shown : error.message?.isSome = true)
    (state : σ) : (parsed area (.error error : Except ParseError α) state).Parsed := by
  obtain ⟨message, written⟩ := Option.isSome_iff_exists.mp shown
  have runs : parsed area (.error error : Except ParseError α) state =
      ⟨[⟨.error, area, message⟩], state, .error (.parse error)⟩ := by
    simp only [parsed, logged, Failure.message?, written]
    rfl
  rw [runs]
  exact .refused state area written

theorem hidden_refused (area : Area) {error : ParseError} (hidden : error.message? = none)
    (state : σ) : (parsed area (.error error : Except ParseError α) state).Hidden := by
  simp only [parsed, logged, Failure.message?, hidden]
  exact ⟨rfl, rfl⟩

/-- A payload is parsed or refused, if its error can be shown under the condition. -/
theorem parsed_cases (area : Area) {read : Except ParseError α} {condition : Prop}
    (shown : ∀ error, read = .error error → condition → error.message?.isSome = true) (state : σ) :
    (parsed area read state).Parsed ∨ ¬condition ∧ (parsed area read state).Hidden := by
  cases read with
  | ok a => exact Or.inl (.accepted state a)
  | error error =>
    cases message : error.message? with
    | some text => exact Or.inl (parsed_refused area (Option.isSome_of_eq_some message) state)
    | none =>
      exact Or.inr ⟨not_of_eq_none (shown error rfl) message, hidden_refused area message state⟩

theorem Outcome.Parsed.bind {operation : Operation σ α} {next : α → Operation σ β} {state : σ}
    (first : (operation state).Parsed)
    (rest : ∀ a state', (operation state).result = .ok a → (next a state').Parsed) :
    ((operation >>= next) state).Parsed := by
  generalize ran : operation state = outcome at first rest
  cases first with
  | accepted after a =>
    rw [bind_of_ok (congrArg Outcome.result ran), ran]
    exact rest a after rfl
  | refused after area shown =>
    rw [bind_of_error (congrArg Outcome.result ran), ran]
    exact .refused after area shown

theorem Outcome.Hidden.bind {operation : Operation σ α} {next : α → Operation σ β} {state : σ}
    (first : (operation state).Hidden) : ((operation >>= next) state).Hidden := by
  rw [bind_of_error first.result]
  exact ⟨first.log, rfl⟩

/-- A model that takes whatever was read adds no failure of its own. -/
theorem parsed_checked {read : Except ParseError Entries} {check : Entries → Checked α}
    {kind : Kind} (takes : ∀ inputs, read = .ok inputs → ∃ a, check inputs = .ok a) {area : Area}
    {state : σ} (first : (parsed area read state).Parsed) :
    ((parsed area read >>= fun inputs => ofExcept ((check inputs).result kind)) state).Parsed := by
  refine first.bind fun inputs after ran => ?_
  have ok : read = .ok inputs := by
    rw [answers_parsed area read state] at ran
    exact Result.mapError_eq_ok_iff.mp ran
  obtain ⟨a, checked⟩ := takes inputs ok
  rw [checked]
  exact .accepted after a

theorem BlockRange.check_of_read {value : Value} {inputs : Entries}
    (read : inputsOfWire value = .ok inputs) : ∃ range, check inputs = .ok range := by
  obtain ⟨_, _, read⟩ := Result.bind_eq_ok_iff.mp read
  obtain ⟨first, _, read⟩ := Result.bind_eq_ok_iff.mp read
  obtain ⟨last, _, read⟩ := Result.bind_eq_ok_iff.mp read
  cases read
  exact ⟨⟨first, last⟩, check_of_natural first last⟩

theorem Block.check_of_read {value : Value} {inputs : Entries}
    (read : inputsOfWire value = .ok inputs) : ∃ block, check inputs = .ok block := by
  unfold inputsOfWire at read
  split at read
  · obtain ⟨block, checked, _⟩ := check_of_leaves (leaves_lookup read (by decide))
    exact ⟨block, checked⟩
  · contradiction

theorem BlockRange.parsed_ofWire (value : Value) (state : σ) : (ofWire value state).Parsed := by
  have shown : ∀ error, inputsOfWire value = .error error → True → error.message?.isSome = true :=
    fun _ unread _ => shown_of_inputsOfWire unread
  rcases parsed_cases .wire shown state with parsed | ⟨never, _⟩
  · exact parsed_checked (fun _ => check_of_read) parsed
  · exact absurd trivial never

theorem Block.parsed_ofWire (value : Value) (state : σ) :
    (ofWire value state).Parsed ∨ ¬value.Short ∧ (ofWire value state).Hidden := by
  have shown : ∀ error, inputsOfWire value = .error error → value.Short →
      error.message?.isSome = true := fun _ => shown_of_inputsOfWire
  rcases parsed_cases .wire shown state with parsed | ⟨long, hidden⟩
  · exact Or.inl (parsed_checked (fun _ => check_of_read) parsed)
  · exact Or.inr ⟨long, hidden.bind⟩

/-- Raw JSON that is refused is refused with a place in it, or with the name of a type. -/
theorem Payload.parsed_raw (subject : Subject) (raw : Value) (state : σ) :
    (Payload.raw subject raw state).Parsed := by
  unfold Payload.raw
  cases Json.readRaw raw with
  | ok value => exact .accepted state value
  | error fault => exact parsed_refused .payloads rfl state

theorem Payload.short_of_raw {subject : Subject} {raw value : Value} {state : σ}
    (read : (Payload.raw subject raw state).result = .ok value) : value.Short := by
  rw [Payload.raw, answers_parsed .payloads _ state, Result.mapError_eq_ok_iff,
    Result.mapError_eq_ok_iff] at read
  exact Json.short_of_readRaw read

theorem BlockRange.parsed_ofRaw (raw : Value) (state : σ) : (ofRaw raw state).Parsed :=
  (Payload.parsed_raw _ raw state).bind fun value after _ => parsed_ofWire value after

theorem Block.parsed_ofRaw (raw : Value) (state : σ) : (ofRaw raw state).Parsed := by
  refine (Payload.parsed_raw _ raw state).bind fun value after read => ?_
  rcases parsed_ofWire value after with parsed | ⟨long, _⟩
  · exact parsed
  · exact absurd (Payload.short_of_raw read) long

theorem Payload.parsed_quantity (field : Option String) (value : Value) (state : σ) :
    (Payload.quantity field value state).Parsed := by
  unfold Payload.quantity
  cases read : Hex.readQuantity value with
  | ok n => exact .accepted state n
  | error fault =>
    have shown : (ParseError.message? ⟨.hex fault, field⟩).isSome = true :=
      Hex.isSome_message?_of_readQuantity read field
    exact parsed_refused .wire shown state

theorem Payload.parsed_data (field : Option String) (size : Option Int) (value : Value) (state : σ) :
    (Payload.data field size value state).Parsed ∨
      ¬Payload.Showable value size ∧ (Payload.data field size value state).Hidden := by
  refine parsed_cases .wire ?_ state
  rintro error unread ⟨short, sized⟩
  obtain ⟨fault, failed, rfl⟩ := Result.mapError_eq_error_iff.mp unread
  exact Hex.isSome_message?_of_readData failed short sized field

/-! Calls -/

/-- In every state the operation reports what could not be encoded. -/
def Operation.Reports (operation : Operation σ α) : Prop := ∀ state, (operation state).Encoded

namespace Operation

variable {operation : Operation σ α} {next : α → Operation σ β}

/-- An operation that always succeeds has no error to log. -/
theorem reports_of_quiet
    (quiet : ∀ state, (operation state).errors = [] ∧ ∃ a, (operation state).result = .ok a) :
    Reports operation := by
  intro state
  obtain ⟨none, a, result⟩ := quiet state
  constructor
  · intro _ _
    exact none
  · intro error failed
    rw [result] at failed
    contradiction

theorem reports_pure (a : α) : Reports (pure a : Operation σ α) :=
  reports_of_quiet fun _ => ⟨rfl, a, rfl⟩

theorem reports_log {level : Level} (below : level ≠ .error) (area : Area) (message : String) :
    Reports (log level area message : Operation σ Unit) := by
  refine reports_of_quiet fun state => ⟨?_, (), rfl⟩
  simp [Outcome.errors, log, below]

/-- A failure of another kind is reported as it may be. -/
theorem reports_of_answers {failure : Failure} (fails : Answers operation (.error failure))
    (other : ∀ error, failure ≠ .encoding error) : Reports operation := by
  intro state
  constructor
  · intro a result
    rw [fails state] at result
    contradiction
  · intro error result
    rw [fails state] at result
    exact absurd (Except.error.inj result) (other error)

theorem reports_ofExcept {result : Except Failure α}
    (other : ∀ error, result ≠ .error (.encoding error)) :
    Reports (ofExcept result : Operation σ α) := fun _ =>
  ⟨fun _ _ => rfl, fun error failed => absurd failed (other error)⟩

/-- What cannot be said is a failure of another kind. -/
theorem reports_logShown {level : Level} (below : level ≠ .error) (area : Area)
    (message? : Option String) : Reports (logShown level area message? : Operation σ Unit) := by
  cases message? with
  | some message => exact reports_log below area message
  | none =>
    refine reports_of_answers (answers_logShown_none level area) ?_
    rintro error ⟨⟩

theorem reports_logged (area : Area) (error : EncodingError) :
    Reports (logged area (.encoding error) : Operation σ α) := by
  cases written : error.message? with
  | none =>
    have unsaid : raised (.encoding error) = .badValue .unprintable := raised_of_eq_none written
    refine reports_of_answers (unsaid ▸ answers_logged area (.encoding error)) ?_
    rintro other ⟨⟩
  | some message =>
    have runs : ∀ state, (logged area (.encoding error) : Operation σ α) state =
        ⟨[⟨.error, area, message⟩], state, .error (.encoding error)⟩ := by
      intro state
      simp only [logged, Failure.message?, written]
      rfl
    intro state
    rw [runs]
    constructor
    · rintro a ⟨⟩
    · rintro other ⟨⟩
      exact ⟨message, written, rfl⟩

theorem Reports.bind (first : Reports operation) (rest : ∀ a, Reports (next a)) :
    Reports (operation >>= next) := by
  intro state
  obtain ⟨success, failure⟩ := first state
  cases ran : (operation state).result with
  | error refusal =>
    rw [bind_of_error ran]
    constructor
    · rintro b ⟨⟩
    · intro error same
      exact failure error (ran.trans (congrArg Except.error (Except.error.inj same)))
  | ok a =>
    have before : (operation state).errors = [] := success a ran
    obtain ⟨success, failure⟩ := rest a (operation state).state
    have same : ((operation >>= next) state).errors =
        (next a (operation state).state).errors := by
      rw [bind_of_ok ran]
      simp only [Outcome.errors, List.filter_append, List.map_append] at before ⊢
      rw [before, List.nil_append]
    rw [bind_of_ok ran] at same ⊢
    constructor
    · intro b result
      exact same.trans (success b result)
    · intro error result
      obtain ⟨message, shown, logged⟩ := failure error result
      exact ⟨message, shown, same.trans logged⟩

end Operation

theorem Abi.Interface.reports_load (interface : Interface) : Reports interface.load := by
  refine (reports_of_quiet fun state => ⟨rfl, state, rfl⟩).bind fun loaded => ?_
  split_ifs
  · exact reports_pure ()
  · refine (reports_log (by decide) _ _).bind fun _ => ?_
    exact reports_of_quiet fun _ => ⟨rfl, (), rfl⟩

theorem Abi.reports_encodeCall (name function arguments : Value) :
    Reports (encodeCall name function arguments) := by
  unfold encodeCall
  split
  · exact reports_logged _ _
  · rename_i interface _
    refine interface.reports_load.bind fun _ => ?_
    split
    · exact reports_pure _
    · exact reports_logged _ _

namespace Record

variable (record : Record)

theorem call_ne_encoding (member : Member) (error : EncodingError) :
    record.call member ≠ .error (.encoding error) := by
  unfold call
  split
  · rintro ⟨⟩
  · rintro ⟨⟩

/-- A model that is refused is no call that could not be encoded. -/
theorem makeCall_ne_encoding (recipient value data : Value) (error : EncodingError) :
    record.makeCall recipient value data ≠ .error (.encoding error) := by
  unfold makeCall
  cases called : record.call .options with
  | error failure =>
    intro same
    cases same
    exact record.call_ne_encoding .options error called
  | ok _ =>
    change (CallMessage.check _).result .call ≠ _
    generalize CallMessage.check _ = checked
    cases checked with
    | ok message => rintro ⟨⟩
    | faulty issues => rintro ⟨⟩

theorem reports_built (what : String) (recipient value data : Value) :
    Reports (ofExcept (record.makeCall recipient value data) >>= fun message => do
      logBuilt what message
      return message) := by
  refine (reports_ofExcept (record.makeCall_ne_encoding _ _ _)).bind fun message => ?_
  exact (reports_logShown (by decide) _ _).bind fun _ => reports_pure message

theorem reports_isNativeToken (token : Value) :
    Reports (ofExcept (isNativeToken token) : Operation σ Bool) := by
  refine reports_ofExcept fun error => ?_
  unfold isNativeToken
  split
  · rintro ⟨⟩
  · rintro ⟨⟩
  · rintro ⟨⟩

theorem reports_chooseBridge (default : Value) : Reports (record.chooseBridge default) := by
  unfold chooseBridge
  dsimp only
  generalize (if (record.get "bridge_address").truthy then _ else default) = bridge
  by_cases none : bridge.isNull
  -- the lack of a bridge is logged as an error too, but it is no call that could not be encoded
  · rw [if_pos none]
    cases record.noBridgeNotice? with
    | some notice =>
      refine reports_of_answers ((answers_log .error .messages notice).bind (answers_fail _)) ?_
      rintro error ⟨⟩
    | none =>
      refine reports_of_answers (answers_logShown_none .error .messages).bind_error ?_
      rintro error ⟨⟩
  · rw [if_neg none]
    exact reports_pure bridge

theorem reports_transferCall : Reports record.transferCall := by
  have warns : Reports record.warnZeroAmount := by
    unfold warnZeroAmount
    split_ifs
    · exact reports_logShown (by decide) _ _
    · exact reports_pure ()
  refine warns.bind fun _ => (reports_isNativeToken _).bind fun native => ?_
  cases native with
  | true => exact record.reports_built "transfer" _ _ _
  | false =>
    refine (Abi.reports_encodeCall _ _ _).bind fun data => ?_
    exact record.reports_built "transfer" _ _ _

theorem reports_withdrawalCall (default : Value) : Reports (record.withdrawalCall default) := by
  have notes : Reports record.noteIgnoredBridge := by
    unfold noteIgnoredBridge
    split_ifs
    · exact reports_pure ()
    · exact reports_log (by decide) _ _
  refine (reports_isNativeToken _).bind fun native => ?_
  cases native with
  | true =>
    refine notes.bind fun _ => (Abi.reports_encodeCall _ _ _).bind fun data => ?_
    exact record.reports_built "withdrawal" _ _ _
  | false =>
    refine (Abi.reports_encodeCall _ _ _).bind fun data => ?_
    refine (record.reports_chooseBridge default).bind fun bridge => ?_
    exact record.reports_built "withdrawal" _ _ _

theorem reports_toCall (default : Value) : Reports (record.toCall default) := by
  unfold toCall
  refine (reports_ofExcept (record.call_ne_encoding .call)).bind fun _ => ?_
  split
  · exact record.reports_transferCall
  · exact record.reports_withdrawalCall default
  · refine reports_of_answers (answers_fail _) ?_
    rintro error ⟨⟩

end Record

/-- A raw payload becomes a model with nothing logged, or is refused with one record, an error with
its message; the same holds of each part that is read of a payload, unless an integer in it is too
long to be shown, and then nothing is logged. A call that could not be encoded has left one error, its
message, and one that was encoded none. -/
theorem failures_reported :
    (∀ (raw : Value) (state : σ),
      (BlockRange.ofRaw raw state).Parsed ∧ (Block.ofRaw raw state).Parsed) ∧
    (∀ (value : Value) (state : σ), (BlockRange.ofWire value state).Parsed ∧
      ((Block.ofWire value state).Parsed ∨ ¬value.Short ∧ (Block.ofWire value state).Hidden) ∧
      ∀ field, (Payload.quantity field value state).Parsed ∧
        ∀ size, (Payload.data field size value state).Parsed ∨
          ¬Payload.Showable value size ∧ (Payload.data field size value state).Hidden) ∧
    (∀ name function arguments loaded, (Abi.encodeCall name function arguments loaded).Encoded) ∧
    (∀ (transfer : Transfer) loaded, (transfer.toCall loaded).Encoded) ∧
    (∀ (withdrawal : Withdrawal) default loaded, (withdrawal.toCall default loaded).Encoded) ∧
    ∀ (record : Record) default loaded, (record.toCall default loaded).Encoded := by
  refine ⟨?_, ?_, Abi.reports_encodeCall, fun transfer => transfer.record.reports_transferCall,
    fun withdrawal => withdrawal.record.reports_withdrawalCall, Record.reports_toCall⟩
  · intro raw state
    exact ⟨BlockRange.parsed_ofRaw raw state, Block.parsed_ofRaw raw state⟩
  · intro value state
    refine ⟨BlockRange.parsed_ofWire value state, Block.parsed_ofWire value state, fun field => ?_⟩
    exact ⟨Payload.parsed_quantity field value state,
      fun size => Payload.parsed_data field size value state⟩

end LayerTwo
