import LayerTwo.Operation

/-! How operations compose, and results that do not depend on the state. Such a result is found step
by step: an operation that succeeds in every state hands its value on, one that fails in every state
ends the run. Where only successes matter, what each of them gives is followed in the same way. -/
namespace LayerTwo.Operation

variable {σ α β : Type} {first : Operation σ α} {next : α → Operation σ β}

theorem bind_of_ok {state : σ} {a : α} (ran : (first state).result = .ok a) :
    (first >>= next) state = ⟨(first state).log ++ (next a (first state).state).log,
      (next a (first state).state).state, (next a (first state).state).result⟩ := by
  change Operation.bind first next state = _
  simp only [Operation.bind, ran]

theorem bind_of_error {state : σ} {failure : Failure}
    (ran : (first state).result = .error failure) :
    (first >>= next) state = ⟨(first state).log, (first state).state, .error failure⟩ := by
  change Operation.bind first next state = _
  simp only [Operation.bind, ran]

theorem bind_pure_self : first >>= pure = first := by
  funext state
  cases ran : (first state).result with
  | ok a =>
    rw [bind_of_ok ran]
    change Outcome.mk ((first state).log ++ []) (first state).state (.ok a) = first state
    rw [List.append_nil, ← ran]
  | error failure => rw [bind_of_error ran, ← ran]

theorem bind_bind {γ : Type} {last : β → Operation σ γ} :
    first >>= next >>= last = first >>= fun a => next a >>= last := by
  funext state
  cases ran : (first state).result with
  | error failure =>
    have stopped : (first >>= next) state = _ := bind_of_error ran
    rw [bind_of_error ran, bind_of_error (congrArg Outcome.result stopped), stopped]
  | ok a =>
    have went : (first >>= next) state = _ := bind_of_ok ran
    rw [bind_of_ok ran]
    cases ranOn : (next a (first state).state).result with
    | error failure =>
      rw [bind_of_error ranOn, bind_of_error ((congrArg Outcome.result went).trans ranOn), went]
    | ok b =>
      rw [bind_of_ok ranOn, bind_of_ok ((congrArg Outcome.result went).trans ranOn), went]
      simp only [List.append_assoc]

instance : LawfulMonad (Operation σ) :=
  LawfulMonad.mk' _ (fun _ => bind_pure_self) (fun _ _ => rfl) fun _ _ _ => bind_bind

theorem bind_return (f : α → β) (state : σ) : (first >>= fun a => pure (f a)) state =
    ⟨(first state).log, (first state).state, (first state).result.map f⟩ := by
  cases ran : (first state).result with
  | error failure =>
    rw [bind_of_error ran]
    rfl
  | ok a =>
    rw [bind_of_ok ran]
    change Outcome.mk ((first state).log ++ []) _ _ = _
    rw [List.append_nil]
    rfl

/-- In a run each operation gives its own result, a failure included. -/
theorem runAll_cons (operations : List (Operation σ α)) (state : σ) :
    runAll (first :: operations) state =
      ⟨(first state).log ++ (runAll operations (first state).state).log,
        (runAll operations (first state).state).state,
        (runAll operations (first state).state).result.map ((first state).result :: ·)⟩ := by
  have attempted : (attempt first state).result = .ok (first state).result := rfl
  rw [runAll, List.mapM_cons, bind_of_ok attempted, bind_return]
  rfl

theorem result_runAll_cons {operations : List (Operation σ α)} {state : σ}
    {results : List (Except Failure α)}
    (others : (runAll operations (first state).state).result = .ok results) :
    (runAll (first :: operations) state).result = .ok ((first state).result :: results) := by
  rw [runAll_cons, others]
  rfl

/-! Results that hold in every state -/

/-- The operation has the result in every state. -/
def Answers (operation : Operation σ α) (result : Except Failure α) : Prop :=
  ∀ state, (operation state).result = result

theorem answers_pure (a : α) : Answers (pure a : Operation σ α) (.ok a) := fun _ => rfl

theorem answers_fail (failure : Failure) : Answers (fail failure : Operation σ α) (.error failure) :=
  fun _ => rfl

theorem answers_ofExcept (result : Except Failure α) :
    Answers (ofExcept result : Operation σ α) result := fun _ => rfl

theorem answers_log (level : Level) (area : Area) (message : String) :
    Answers (log level area message : Operation σ Unit) (.ok ()) := fun _ => rfl

theorem Answers.bind {a : α} {result : Except Failure β} (succeeds : Answers first (.ok a))
    (continued : Answers (next a) result) : Answers (first >>= next) result := by
  intro state
  rw [bind_of_ok (succeeds state)]
  exact continued _

theorem Answers.bind_error {failure : Failure} (fails : Answers first (.error failure)) :
    Answers (first >>= next) (.error failure) := by
  intro state
  rw [bind_of_error (fails state)]

theorem answers_set (state : σ) : Answers (set state) (.ok ()) := fun _ => rfl

/-- Reading the state does not matter if what follows has one result for all states. -/
theorem answers_get_bind {next : σ → Operation σ β} {result : Except Failure β}
    (each : ∀ state, Answers (next state) result) : Answers (Operation.get >>= next) result :=
  fun state => each state state

/-! Messages that may not be shown -/

theorem answers_logShown {message? : Option String} (level : Level) (area : Area)
    (shown : message?.isSome = true) :
    Answers (logShown level area message? : Operation σ Unit) (.ok ()) := by
  obtain ⟨message, rfl⟩ := Option.isSome_iff_exists.mp shown
  exact answers_log level area message

theorem answers_logShown_none (level : Level) (area : Area) :
    Answers (logShown level area none : Operation σ Unit) (.error (.badValue .unprintable)) :=
  answers_fail _

/-- What is raised for a failure: the lack of a message comes before the failure itself. -/
def raised (failure : Failure) : Failure :=
  match failure.message? with
  | some _ => failure
  | none => .badValue .unprintable

theorem raised_of_isSome {failure : Failure} (shown : failure.message?.isSome = true) :
    raised failure = failure := by
  obtain ⟨message, some⟩ := Option.isSome_iff_exists.mp shown
  rw [raised, some]

theorem raised_of_eq_none {failure : Failure} (hidden : failure.message? = none) :
    raised failure = .badValue .unprintable := by
  rw [raised, hidden]

/-- Where there is no message, what would give one does not hold. -/
theorem not_of_eq_none {message? : Option String} {condition : Prop}
    (shown : condition → message?.isSome = true) (hidden : message? = none) : ¬condition :=
  fun met => Option.not_isSome_iff_eq_none.mpr hidden (shown met)

/-- A failure that can be shown under a condition is raised, unless the condition fails. -/
theorem raised_cases {failure : Failure} {condition : Prop}
    (shown : condition → failure.message?.isSome = true) :
    raised failure = failure ∨ ¬condition ∧ raised failure = .badValue .unprintable := by
  cases message : failure.message? with
  | some _ => exact Or.inl (raised_of_isSome (Option.isSome_of_eq_some message))
  | none => exact Or.inr ⟨not_of_eq_none shown message, raised_of_eq_none message⟩

theorem answers_logged (area : Area) (failure : Failure) :
    Answers (logged area failure : Operation σ α) (.error (raised failure)) := by
  cases message : failure.message? with
  | some _ =>
    rw [raised_of_isSome (Option.isSome_of_eq_some message), logged, message]
    exact (answers_log _ _ _).bind (answers_fail failure)
  | none =>
    rw [raised_of_eq_none message, logged, message]
    exact (answers_logShown_none _ _).bind_error

/-! What a success gives -/

/-- Whatever the operation succeeds with, in whatever state, has the property. -/
def Yields (operation : Operation σ α) (property : α → Prop) : Prop :=
  ∀ state a, (operation state).result = .ok a → property a

variable {property : α → Prop} {conclusion : β → Prop}

theorem yields_pure {a : α} (holds : property a) : Yields (pure a : Operation σ α) property := by
  rintro state b ⟨⟩
  exact holds

theorem yields_fail (failure : Failure) : Yields (fail failure : Operation σ α) property := by
  rintro state a ⟨⟩

theorem yields_ofExcept {result : Except Failure α} (holds : ∀ a, result = .ok a → property a) :
    Yields (ofExcept result : Operation σ α) property := fun _ => holds

theorem Yields.bind (succeeds : Yields first property)
    (continued : ∀ a, property a → Yields (next a) conclusion) :
    Yields (first >>= next) conclusion := by
  intro state b ran
  cases result : (first state).result with
  | ok a =>
    rw [bind_of_ok result] at ran
    exact continued a (succeeds state a result) _ b ran
  | error failure =>
    rw [bind_of_error result] at ran
    contradiction

/-- Where the property comes from a later step, what the first one gives does not matter. -/
theorem yields_bind (continued : ∀ a, Yields (next a) conclusion) :
    Yields (first >>= next) conclusion :=
  Yields.bind (fun _ _ _ => trivial) fun a _ => continued a

end LayerTwo.Operation
