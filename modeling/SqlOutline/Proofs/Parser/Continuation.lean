import SqlOutline.Proofs.Parser.Lookahead

set_option autoImplicit false

namespace SqlOutline

variable {V State : Type}

def Continues (Step : State → V → List Token → Option State → V → List Token → Prop) (state : State) (value : V)
    (front : List Token) : Prop :=
  ∃ rest result, Accepts Step state value (front ++ rest) result

theorem continues_more {Step : State → V → List Token → Option State → V → List Token → Prop}
    {state following : State} {value changed : V} {front : List Token} (extra : List Token)
    (step : ∀ rest, Step state value (front ++ (extra ++ rest)) (some following) changed rest)
    (continues : Continues Step following changed []) : Continues Step state value front := by
  obtain ⟨rest, result, accepts⟩ := continues
  exact ⟨extra ++ rest, result, .more _ _ _ _ _ _ _ (step rest) accepts⟩

theorem continues_step {Step : State → V → List Token → Option State → V → List Token → Prop}
    {state following : State} {value changed : V} {front left : List Token}
    (step : ∀ rest, Step state value (front ++ rest) (some following) changed (left ++ rest))
    (continues : Continues Step following changed left) : Continues Step state value front := by
  obtain ⟨rest, result, accepts⟩ := continues
  exact ⟨rest, result, .more _ _ _ _ _ _ _ (step rest) accepts⟩

namespace Grammar

variable {Step : State → V → List Token → Option State → V → List Token → Prop}

-- A grammar whose steps only add to the value and ask for a token only where they can be continued. The
-- invariant relates the state to what is in the value.
structure Incremental (Step : State → V → List Token → Option State → V → List Token → Prop) (Extends : V → V → Prop)
    (Invariant : State → V → Prop) (grammar : Grammar V State) : Prop where
  describes : grammar.Describes Step
  refl : ∀ value, Extends value value
  trans : ∀ first second third, Extends first second → Extends second third → Extends first third
  keeps : ∀ state following value changed tokens rest, Step state value tokens (some following) changed rest →
    Invariant state value → Invariant following changed
  reads : ∀ state value, Invariant state value →
    Parser.Reading Extends (Continues Step state value) value [] none (grammar.step state)

variable {Extends : V → V → Prop} {Invariant : State → V → Prop} (grammar : Grammar V State)
variable (incremental : grammar.Incremental Step Extends Invariant)

theorem run_of_stopped (state : State) (parser : Parser V) (changed : V) (error : ParseError)
    (stopped : Parser.Stopped (grammar.step state parser) changed error) :
    grammar.run state parser = ⟨changed, some error⟩ := by
  rcases stopped with ⟨tokens, step⟩ | ⟨following?, tokens, step⟩
  · rw [grammar.run_of_error _ _ _ _ step]
    rfl
  · cases following? with
    | none =>
        rw [grammar.run_of_none _ _ _ step]
        rfl
    | some following =>
        rw [grammar.run_of_some _ _ _ _ step]
        rfl

include incremental

theorem run_extends_step (state : State) (value : V) (tokens : List Token) (consumed : Nat)
    (holds : Invariant state value) :
    Extends (Parser.valueAfter (grammar.step state ⟨value, ⟨tokens, consumed⟩, none⟩))
      (grammar.run state ⟨value, ⟨tokens, consumed⟩, none⟩).value := by
  cases step : grammar.step state ⟨value, ⟨tokens, consumed⟩, none⟩ with
  | error error after =>
      rw [grammar.run_of_error _ _ _ _ step, Parser.finish_record]
      exact incremental.refl after.value
  | ok following? after =>
      cases following? with
      | none =>
          rw [grammar.run_of_none _ _ _ step]
          exact incremental.refl after.value
      | some following =>
          rw [grammar.run_of_some _ _ _ _ step]
          obtain ⟨changed, ⟨rest, taken⟩, error?⟩ := after
          cases error? with
          | some error => exact incremental.refl changed
          | none =>
              have kept := incremental.keeps _ _ _ _ _ _ (incremental.describes.sound _ _ _ _ _ _ step rfl) holds
              have next := Parser.reading_grows incremental.refl incremental.trans
                (incremental.reads following changed kept) rest taken nofun
              exact incremental.trans _ _ _ next (run_extends_step following changed rest taken kept)
termination_by grammar.distance state ⟨value, ⟨tokens, consumed⟩, none⟩
decreasing_by
  subst_vars
  exact grammar.step_distance _ _ _ _ step

omit incremental

inductive RunLooks (Step : State → V → List Token → Option State → V → List Token → Prop) (Extends : V → V → Prop)
    (grammar : Grammar V State) (state : State) (value : V) (front : List Token) : Prop where
  | settled (parsed : Parsed V) (own : ∀ error ∈ parsed.error?, error.Own)
      (same : ∀ rest consumed, grammar.run state ⟨value, ⟨front ++ rest, consumed⟩, none⟩ = parsed) :
      RunLooks Step Extends grammar state value front
  | asks (reached : V) (continues : Continues Step state value front)
      (broken : ∀ error rest consumed, error.kind = .error →
        grammar.run state ⟨value, ⟨front ++ error :: rest, consumed⟩, none⟩ = ⟨reached, some error.lexError⟩)
      (grows : ∀ rest consumed, Extends reached (grammar.run state ⟨value, ⟨front ++ rest, consumed⟩, none⟩).value) :
      RunLooks Step Extends grammar state value front

include incremental

theorem run_looks (state : State) (value : V) (front : List Token) (consumed : Nat) (readable : Readable front)
    (holds : Invariant state value) : RunLooks Step Extends grammar state value front := by
  cases Parser.reading_looks incremental.refl incremental.trans (incremental.reads state value holds) front readable nofun with
  | stopped changed error own same =>
      refine .settled ⟨changed, some error⟩ (fun _ found => Option.some.inj found ▸ own) fun rest consumed => ?_
      exact grammar.run_of_stopped state _ changed error (same rest consumed)
  | asks reached viable broken grows =>
      refine .asks reached viable (fun error rest consumed isError => ?_) fun rest consumed => ?_
      · obtain ⟨tokens, step⟩ := broken error rest consumed isError
        rw [grammar.run_of_error _ _ _ _ step]
        rfl
      · exact incremental.trans _ _ _ (grows rest consumed) (run_extends_step grammar incremental state value _ consumed holds)
  | settled following? changed left suffix same =>
      cases following? with
      | none =>
          refine .settled ⟨changed, none⟩ nofun fun rest consumed => ?_
          obtain ⟨taken, step⟩ := same rest consumed
          rw [grammar.run_of_none _ _ _ step]
          rfl
      | some following =>
          have goes (rest : List Token) (consumed : Nat) : ∃ taken,
              grammar.run state ⟨value, ⟨front ++ rest, consumed⟩, none⟩ =
                grammar.run following ⟨changed, ⟨left ++ rest, taken⟩, none⟩ := by
            obtain ⟨taken, step⟩ := same rest consumed
            exact ⟨taken, grammar.run_of_some _ _ _ _ step⟩
          have steps (rest : List Token) : Step state value (front ++ rest) (some following) changed (left ++ rest) := by
            obtain ⟨taken, step⟩ := same rest 0
            exact incremental.describes.sound _ _ _ _ _ _ step rfl
          have kept := incremental.keeps _ _ _ _ _ _ (steps []) holds
          obtain ⟨taken, step⟩ := same [] consumed
          have nearer := grammar.step_distance _ _ _ _ step
          rw [List.append_nil, List.append_nil] at nearer
          cases run_looks following changed left taken (readable_suffix left front suffix readable) kept with
          | settled parsed own same =>
              refine .settled parsed own fun rest consumed => ?_
              obtain ⟨taken, run⟩ := goes rest consumed
              rw [run, same]
          | asks reached continues broken grows =>
              have viable := continues_step steps continues
              refine .asks reached viable (fun error rest consumed isError => ?_) fun rest consumed => ?_
              · obtain ⟨taken, run⟩ := goes (error :: rest) consumed
                rw [run, broken error rest taken isError]
              · obtain ⟨taken, run⟩ := goes rest consumed
                rw [run]
                exact grows rest taken
termination_by grammar.distance state ⟨value, ⟨front, consumed⟩, none⟩
decreasing_by
  subst_vars
  simpa only [List.append_nil] using nearer

end Grammar

-- With an error after `front`, the value shows what every longer input completes before it, unless `front`
-- settles the parse. In that case nothing after `front` matters.
def ShowsCompleted (parse : List Token → Parsed V) (IsPartOf : V → V → Prop) (front : List Token) (error : Token) : Prop :=
  ((parse (front ++ [error])).error? = some (.lex error.line error.text) ∧
      ∀ rest, IsPartOf (parse (front ++ [error])).value (parse (front ++ rest)).value) ∨
    ((parse (front ++ [error])).error? ≠ some (.lex error.line error.text) ∧
      ∀ rest, parse (front ++ rest) = parse (front ++ [error]))

-- With an error after `front`, the parse tells whether `front` can be continued to an accepted input.
def ShowsViable (parse : List Token → Parsed V) (front : List Token) (error : Token) : Prop :=
  (∃ rest, (parse (front ++ rest)).error? = none) ↔
    (parse (front ++ [error])).error? = none ∨
      (parse (front ++ [error])).error? = some (.lex error.line error.text)

namespace Grammar

variable {Step : State → V → List Token → Option State → V → List Token → Prop} {Extends : V → V → Prop}
variable (grammar : Grammar V State) (state : State) (value : V) (front : List Token) (error : Token)

theorem shows_completed (looks : RunLooks Step Extends grammar state value front) (isError : error.kind = .error) :
    ShowsCompleted (fun tokens => grammar.run state ⟨value, ⟨tokens, 0⟩, none⟩) Extends front error := by
  cases looks with
  | settled parsed own same =>
      refine .inr ⟨fun found => ?_, fun rest => (same rest 0).trans (same [error] 0).symm⟩
      have foreign := own error.lexError ((congrArg Parsed.error? (same [error] 0)).symm.trans found)
      exact foreign error rfl
  | asks reached continues broken grows =>
      have stopped := broken error [] 0 isError
      refine .inl ⟨congrArg Parsed.error? stopped, fun rest => ?_⟩
      simp only [stopped]
      exact grows rest 0

theorem shows_viable (describes : grammar.Describes Step) (looks : RunLooks Step Extends grammar state value front)
    (isError : error.kind = .error) :
    ShowsViable (fun tokens => grammar.run state ⟨value, ⟨tokens, 0⟩, none⟩) front error := by
  cases looks with
  | settled parsed own same =>
      have foreign : parsed.error? ≠ some error.lexError := fun found => own error.lexError found error rfl
      simp only [ShowsViable, same, exists_const]
      exact ⟨.inl, fun either => either.resolve_right foreign⟩
  | asks reached continues broken grows =>
      obtain ⟨rest, result, accepts⟩ := continues
      have accepted := grammar.run_complete describes state value result (front ++ rest) 0 accepts
      have stopped := broken error [] 0 isError
      exact ⟨fun _ => .inr (congrArg Parsed.error? stopped), fun _ => ⟨rest, congrArg Parsed.error? accepted⟩⟩

end Grammar

end SqlOutline
