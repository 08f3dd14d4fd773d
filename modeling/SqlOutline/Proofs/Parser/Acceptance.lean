import SqlOutline.Parser

set_option autoImplicit false

namespace SqlOutline

namespace Parser

variable {V α β : Type}

theorem bind_ok {action : ParseM V α} {next : α → ParseM V β} {before after : Parser V} {result : β} :
    (action >>= next) before = .ok result after ↔
      ∃ value middle, action before = .ok value middle ∧ next value middle = .ok result after := by
  change EStateM.bind action next before = _ ↔ _
  unfold EStateM.bind
  cases action before with
  | error error middle => simp
  | ok value middle =>
      constructor
      · exact fun success => ⟨value, middle, rfl, success⟩
      · rintro ⟨_, _, ⟨⟩, success⟩
        exact success

theorem pure_ok {before after : Parser V} {value result : α} :
    (pure value : ParseM V α) before = .ok result after ↔ value = result ∧ before = after := by
  change EStateM.Result.ok value before = _ ↔ _
  simp

theorem throw_ok {before after : Parser V} {error : ParseError} {result : α} :
    (throw error : ParseM V α) before = .ok result after ↔ False := by
  change EStateM.Result.error error before = _ ↔ _
  simp

theorem change_ok {update : V → V} {before after : Parser V} {result : Unit} :
    change update before = .ok result after ↔ { before with value := update before.value } = after := by
  change EStateM.Result.ok () { before with value := update before.value } = _ ↔ _
  simp

theorem commit_ok {what : String} {valid : Bool} {add : V → V} {before after : Parser V} {result : Unit} :
    commit what valid add before = .ok result after ↔
      valid = true ∧ { before with value := add before.value } = after := by
  cases valid <;> simp [commit, throw_ok, change_ok]

theorem fail_ok {error : ParseError} {before after : Parser V} {result : Option α} :
    fail error before = .ok result after ↔ none = result ∧ before.record error = after := by
  change EStateM.Result.ok none (before.record error) = _ ↔ _
  simp

theorem record_error (parser : Parser V) (error : ParseError) : (parser.record error).error? ≠ none := by
  simp only [record]
  split <;> simp

theorem next_ok {value : V} {tokens : List Token} {consumed : Nat} {error? : Option ParseError} {token : Token}
    {after : Parser V} :
    next ⟨value, ⟨tokens, consumed⟩, error?⟩ = .ok token after ↔
      ∃ rest, tokens = token :: rest ∧ token.kind ≠ .error ∧ ⟨value, ⟨rest, consumed + 1⟩, error?⟩ = after := by
  cases tokens with
  | nil => simp [next, Cursor.next?]
  | cons head rest =>
      by_cases broken : head.kind = .error
      · simp only [next, Cursor.next?, checked, if_pos broken]
        constructor
        · intro success
          contradiction
        · rintro ⟨_, ⟨⟩, readable, _⟩
          exact absurd broken readable
      · simp only [next, Cursor.next?, checked, if_neg broken]
        constructor
        · rintro ⟨⟩
          exact ⟨rest, rfl, broken, rfl⟩
        · rintro ⟨_, ⟨⟩, _, rfl⟩
          rfl

theorem skip_ok {value : V} {tokens : List Token} {consumed : Nat} {error? : Option ParseError} {result : Unit}
    {after : Parser V} :
    skip ⟨value, ⟨tokens, consumed⟩, error?⟩ = .ok result after ↔
      ∃ token rest, tokens = token :: rest ∧ token.kind ≠ .error ∧
        ⟨value, ⟨rest, consumed + 1⟩, error?⟩ = after := by
  simp only [skip, bind_ok, next_ok, pure_ok]
  constructor
  · rintro ⟨token, _, ⟨rest, pending, readable, rfl⟩, _, rfl⟩
    exact ⟨token, rest, pending, readable, rfl⟩
  · rintro ⟨token, rest, pending, readable, rfl⟩
    exact ⟨token, _, ⟨rest, pending, readable, rfl⟩, trivial, rfl⟩

theorem peek_ok {value : V} {tokens : List Token} {consumed : Nat} {error? : Option ParseError} {token : Token}
    {after : Parser V} :
    peek ⟨value, ⟨tokens, consumed⟩, error?⟩ = .ok token after ↔
      ∃ rest, tokens = token :: rest ∧ token.kind ≠ .error ∧ ⟨value, ⟨tokens, consumed⟩, error?⟩ = after := by
  cases tokens with
  | nil => simp [peek, Cursor.peek?]
  | cons head rest =>
      by_cases broken : head.kind = .error
      · simp only [peek, Cursor.peek?, List.head?_cons, checked, if_pos broken]
        constructor
        · intro success
          contradiction
        · rintro ⟨_, ⟨⟩, readable, _⟩
          exact absurd broken readable
      · simp only [peek, Cursor.peek?, List.head?_cons, checked, if_neg broken]
        constructor
        · rintro ⟨⟩
          exact ⟨rest, rfl, broken, rfl⟩
        · rintro ⟨_, ⟨⟩, _, rfl⟩
          rfl

theorem bind_of_ok {action : ParseM V α} {further : α → ParseM V β} {before middle : Parser V} {value : α}
    (done : action before = .ok value middle) : (action >>= further) before = further value middle := by
  change EStateM.bind action further before = _
  simp only [EStateM.bind, done]

theorem next_bind {further : Token → ParseM V β} (value : V) (token : Token) (rest : List Token) (consumed : Nat)
    (error? : Option ParseError) (readable : token.kind ≠ .error) :
    (Parses.next >>= further) ⟨value, ⟨token :: rest, consumed⟩, error?⟩ =
      further token ⟨value, ⟨rest, consumed + 1⟩, error?⟩ := by
  have taken := next_of_cons ⟨value, ⟨token :: rest, consumed⟩, error?⟩ token rest rfl readable
  change EStateM.bind next further _ = _
  simp only [EStateM.bind, taken]

theorem skip_bind {further : Unit → ParseM V β} (value : V) (token : Token) (rest : List Token) (consumed : Nat)
    (error? : Option ParseError) (readable : token.kind ≠ .error) :
    (Parses.skip >>= further) ⟨value, ⟨token :: rest, consumed⟩, error?⟩ =
      further () ⟨value, ⟨rest, consumed + 1⟩, error?⟩ := by
  have taken : (skip : ParseM V Unit) ⟨value, ⟨token :: rest, consumed⟩, error?⟩ =
      .ok () ⟨value, ⟨rest, consumed + 1⟩, error?⟩ := next_bind value token rest consumed error? readable
  change EStateM.bind skip further _ = _
  simp only [EStateM.bind, taken]

theorem peek_bind {further : Token → ParseM V β} (value : V) (token : Token) (rest : List Token) (consumed : Nat)
    (error? : Option ParseError) (readable : token.kind ≠ .error) :
    (Parses.peek >>= further) ⟨value, ⟨token :: rest, consumed⟩, error?⟩ =
      further token ⟨value, ⟨token :: rest, consumed⟩, error?⟩ := by
  have seen := peek_of_cons ⟨value, ⟨token :: rest, consumed⟩, error?⟩ token rest rfl readable
  change EStateM.bind peek further _ = _
  simp only [EStateM.bind, seen]

theorem change_bind {further : Unit → ParseM V β} (update : V → V) (parser : Parser V) :
    (Parses.change update >>= further) parser = further () { parser with value := update parser.value } :=
  rfl

def Ensures (action : ParseM V α) (before : Parser V) (holds : α → Parser V → Prop) : Prop :=
  ∀ (result : α) (after : Parser V), action before = .ok result after → holds result after

theorem ensures_imp {action : ParseM V α} {before : Parser V} {holds weaker : α → Parser V → Prop}
    (ensures : Ensures action before holds) (implies : ∀ result after, holds result after → weaker result after) :
    Ensures action before weaker :=
  fun result after success => implies result after (ensures result after success)

theorem ensures_bind {action : ParseM V α} {next : α → ParseM V β} {before : Parser V} {holds : β → Parser V → Prop}
    (first : Ensures action before fun value middle => Ensures (next value) middle holds) :
    Ensures (action >>= next) before holds := by
  intro result after success
  obtain ⟨value, middle, done, success⟩ := bind_ok.mp success
  exact first value middle done result after success

theorem ensures_pure {before : Parser V} {result : α} {holds : α → Parser V → Prop} (holding : holds result before) :
    Ensures (pure result) before holds := by
  intro _ _ success
  obtain ⟨rfl, rfl⟩ := pure_ok.mp success
  exact holding

theorem ensures_throw {error : ParseError} {before : Parser V} {holds : α → Parser V → Prop} :
    Ensures (throw error) before holds := by
  intro _ _ success
  exact (throw_ok.mp success).elim

theorem ensures_change {update : V → V} {before : Parser V} {holds : Unit → Parser V → Prop}
    (holding : holds () { before with value := update before.value }) : Ensures (change update) before holds := by
  intro _ _ success
  rw [← change_ok.mp success]
  exact holding

theorem ensures_commit {what : String} {valid : Bool} {add : V → V} {before : Parser V} {holds : Unit → Parser V → Prop}
    (holding : valid = true → holds () { before with value := add before.value }) :
    Ensures (commit what valid add) before holds := by
  intro _ _ success
  obtain ⟨isValid, rfl⟩ := commit_ok.mp success
  exact holding isValid

theorem ensures_fail {error : ParseError} {before : Parser V} {holds : Option α → Parser V → Prop} :
    Ensures (fail error) before fun result after => after.error? = none → holds result after := by
  intro _ _ success clean
  obtain ⟨_, rfl⟩ := fail_ok.mp success
  exact absurd clean (record_error before error)

theorem ensures_next {value : V} {tokens : List Token} {consumed : Nat} {error? : Option ParseError}
    {holds : Token → Parser V → Prop}
    (holding : ∀ token rest, tokens = token :: rest → holds token ⟨value, ⟨rest, consumed + 1⟩, error?⟩) :
    Ensures next ⟨value, ⟨tokens, consumed⟩, error?⟩ holds := by
  intro _ _ success
  obtain ⟨rest, pending, _, rfl⟩ := next_ok.mp success
  exact holding _ rest pending

theorem ensures_skip {value : V} {tokens : List Token} {consumed : Nat} {error? : Option ParseError}
    {holds : Unit → Parser V → Prop}
    (holding : ∀ token rest, tokens = token :: rest → holds () ⟨value, ⟨rest, consumed + 1⟩, error?⟩) :
    Ensures skip ⟨value, ⟨tokens, consumed⟩, error?⟩ holds := by
  intro _ _ success
  obtain ⟨token, rest, pending, _, rfl⟩ := skip_ok.mp success
  exact holding token rest pending

theorem ensures_peek {value : V} {tokens : List Token} {consumed : Nat} {error? : Option ParseError}
    {holds : Token → Parser V → Prop}
    (holding : ∀ token rest, tokens = token :: rest → token.kind ≠ .error →
      holds token ⟨value, ⟨tokens, consumed⟩, error?⟩) :
    Ensures peek ⟨value, ⟨tokens, consumed⟩, error?⟩ holds := by
  intro _ _ success
  obtain ⟨rest, pending, readable, rfl⟩ := peek_ok.mp success
  exact holding _ rest pending readable

end Parser

-- A chain of steps, each from a state, a value and the tokens to come. The last one names no state.
inductive Accepts {V State : Type} (Step : State → V → List Token → Option State → V → List Token → Prop) :
    State → V → List Token → V → Prop where
  | last (state : State) (value result : V) (tokens rest : List Token)
      (step : Step state value tokens none result rest) : Accepts Step state value tokens result
  | more (state following : State) (value changed result : V) (tokens rest : List Token)
      (step : Step state value tokens (some following) changed rest)
      (run : Accepts Step following changed rest result) : Accepts Step state value tokens result

namespace Grammar

variable {V State : Type} {Step : State → V → List Token → Option State → V → List Token → Prop}

-- The relation holds exactly for the steps that succeed without recording an error.
structure Describes (Step : State → V → List Token → Option State → V → List Token → Prop)
    (grammar : Grammar V State) : Prop where
  sound : ∀ (state : State) (value : V) (tokens : List Token) (consumed : Nat) (following? : Option State)
    (after : Parser V), grammar.step state ⟨value, ⟨tokens, consumed⟩, none⟩ = .ok following? after →
    after.error? = none → Step state value tokens following? after.value after.tokens.rest
  complete : ∀ (state : State) (value changed : V) (tokens rest : List Token) (consumed : Nat)
    (following? : Option State), Step state value tokens following? changed rest →
    ∃ taken, grammar.step state ⟨value, ⟨tokens, consumed⟩, none⟩ = .ok following? ⟨changed, ⟨rest, taken⟩, none⟩

theorem run_sound (grammar : Grammar V State) (describes : grammar.Describes Step) (state : State) (value result : V)
    (tokens : List Token) (consumed : Nat)
    (run : grammar.run state ⟨value, ⟨tokens, consumed⟩, none⟩ = ⟨result, none⟩) :
    Accepts Step state value tokens result := by
  cases step : grammar.step state ⟨value, ⟨tokens, consumed⟩, none⟩ with
  | error error after =>
      rw [grammar.run_of_error _ _ _ _ step] at run
      exact absurd (congrArg Parsed.error? run) (Parser.record_error after error)
  | ok following? after =>
      obtain ⟨changed, ⟨rest, taken⟩, error?⟩ := after
      cases following? with
      | none =>
          rw [grammar.run_of_none _ _ _ step] at run
          cases run
          exact .last _ _ _ _ _ (describes.sound _ _ _ _ _ _ step rfl)
      | some following =>
          rw [grammar.run_of_some _ _ _ _ step] at run
          cases error? with
          | some error => cases run
          | none =>
              exact .more _ _ _ _ _ _ _ (describes.sound _ _ _ _ _ _ step rfl)
                (run_sound grammar describes following changed result rest taken run)
termination_by grammar.distance state ⟨value, ⟨tokens, consumed⟩, none⟩
decreasing_by
  subst_vars
  exact grammar.step_distance _ _ _ _ step

theorem run_complete (grammar : Grammar V State) (describes : grammar.Describes Step) (state : State)
    (value result : V) (tokens : List Token) (consumed : Nat) (accepts : Accepts Step state value tokens result) :
    grammar.run state ⟨value, ⟨tokens, consumed⟩, none⟩ = ⟨result, none⟩ := by
  induction accepts generalizing consumed with
  | last state value result tokens rest step =>
      obtain ⟨taken, done⟩ := describes.complete _ _ _ _ _ consumed _ step
      rw [grammar.run_of_none _ _ _ done]
      rfl
  | more state following value changed result tokens rest step _ ih =>
      obtain ⟨taken, done⟩ := describes.complete _ _ _ _ _ consumed _ step
      rw [grammar.run_of_some _ _ _ _ done]
      exact ih taken

theorem run_iff_accepts (grammar : Grammar V State) (describes : grammar.Describes Step) (state : State)
    (value result : V) (tokens : List Token) (consumed : Nat) :
    grammar.run state ⟨value, ⟨tokens, consumed⟩, none⟩ = ⟨result, none⟩ ↔
      Accepts Step state value tokens result :=
  ⟨grammar.run_sound describes state value result tokens consumed,
    grammar.run_complete describes state value result tokens consumed⟩

end Grammar

theorem error_none_iff {V Form : Type} (parsed : Parsed V) (spelled : Form → Prop) (value : Form → V)
    (accepted : ∀ result, parsed = ⟨result, none⟩ ↔ ∃ form, spelled form ∧ value form = result) :
    parsed.error? = none ↔ ∃ form, spelled form := by
  constructor
  · intro clean
    obtain ⟨form, found, _⟩ := (accepted parsed.value).mp (congrArg (Parsed.mk _) clean)
    exact ⟨form, found⟩
  · rintro ⟨form, found⟩
    exact congrArg Parsed.error? ((accepted (value form)).mpr ⟨form, found, rfl⟩)

end SqlOutline
