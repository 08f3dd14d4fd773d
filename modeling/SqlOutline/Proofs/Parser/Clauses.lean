import SqlOutline.Proofs.Parser.Calls

set_option autoImplicit false

namespace SqlOutline

open SqlOutline.Parser

-- How a token is read in a state, and what that means for the clause that the token stands in.
structure Reader (V State : Type) where
  read : ∀ {M : Type → Type} [Monad M] [MonadExceptOf ParseError M] [Parses V M], State → Token → M (Option State)
  forward : ∀ {S : Type} [Parses V (EStateM ParseError S)] {remaining : S → Nat}, Progress remaining →
    ∀ state token, Forward remaining (read state token : EStateM ParseError S (Option State))
  -- What comes after the token is for another call.
  closes : State → Token → Bool
  -- What comes after the token is for a call that reads nothing.
  abandons : State → Token → Bool

inductive Clause (State : Type) where
  | reads (state : State)
  | ignores

theorem Grammar.run_of_same_step {V State : Type} (grammar : Grammar V State) (state other : State) (before after : Parser V)
    (same : grammar.step state before = grammar.step other after) : grammar.run state before = grammar.run other after := by
  cases step : grammar.step other after with
  | error error later => rw [grammar.run_of_error _ _ _ _ step, grammar.run_of_error _ _ _ _ (same.trans step)]
  | ok following? later =>
      cases following? with
      | none => rw [grammar.run_of_none _ _ _ step, grammar.run_of_none _ _ _ (same.trans step)]
      | some following => rw [grammar.run_of_some _ _ _ _ step, grammar.run_of_some _ _ _ _ (same.trans step)]

namespace Reader

inductive Turn (State : Type) where
  | stay (following : State)
  | pass (following : State)
  | ignore
  | stop

variable {V State : Type}

def Turn.following? : Turn State → Option State
  | .stay following | .pass following => some following
  | .ignore | .stop => none

variable (reader : Reader V State)

def turn (state : State) (token : Token) : Option State → Turn State
  | some following => if reader.closes state token then .pass following else .stay following
  | none => if reader.abandons state token then .ignore else .stop

section Steps

variable {M : Type → Type} [Monad M] [MonadExceptOf ParseError M] [Parses V M]

def step (state : State) : M (Option State) := do
  reader.read state (← Parses.next)

def readToken (state : State) : M (Turn State) := do
  let token ← Parses.next
  return reader.turn state token (← reader.read state token)

end Steps

section Progress

variable {S : Type} [Parses V (EStateM ParseError S)] {remaining : S → Nat}

theorem takes_token (progress : Progress remaining) (state : State) :
    Takes remaining (reader.readToken state : EStateM ParseError S (Turn State)) :=
  takes_bind progress.next fun token => forward_bind (reader.forward progress state token) fun _ => forward_pure _

def readClause (progress : Progress remaining) (state : State) : EStateM ParseError S (Option (Clause State)) := fun before =>
  match _step : (reader.readToken state : EStateM ParseError S (Turn State)) before with
  | .error error after => .error error after
  | .ok (.stay following) after => readClause progress following after
  | .ok (.pass following) after => .ok (some (.reads following)) after
  | .ok .ignore after => .ok (some .ignores) after
  | .ok .stop after => .ok none after
termination_by before => remaining before
decreasing_by exact reader.takes_token progress _ _ _ _ _step

theorem read_clause_eq (progress : Progress remaining) (state : State) :
    reader.readClause progress state = (do
      match ← reader.readToken state with
      | .stay following => reader.readClause progress following
      | .pass following => return some (.reads following)
      | .ignore => return some .ignores
      | .stop => return none) := by
  funext before
  change _ = EStateM.bind (reader.readToken state) _ before
  rw [readClause, EStateM.bind]
  split
  · rename_i failed
    rw [failed]
  all_goals
    rename_i read
    rw [read]
  all_goals rfl

theorem takes_clause (progress : Progress remaining) (state : State) (before after : S)
    (following? : Option (Clause State)) (success : reader.readClause progress state before = .ok following? after) : remaining after < remaining before := by
  rw [readClause] at success
  split at success
  · contradiction
  · rename_i following middle read
    have fewer := reader.takes_token progress state before middle _ read
    exact Nat.lt_trans (takes_clause progress following middle after following? success) fewer
  all_goals
    rename_i read
    cases success
    exact reader.takes_token progress state before after _ read
termination_by remaining before
decreasing_by exact fewer

def clauseStep (progress : Progress remaining) : Clause State → EStateM ParseError S (Option (Clause State))
  | .ignores => pure none
  | .reads state => reader.readClause progress state

end Progress

def tokenwise : Grammar V State where
  step := reader.step
  distance _ parser := parser.remaining
  step_distance state following before after success :=
    takes_bind takes_next (reader.forward Parser.progress state) before after (some following) success

def clausewise : Grammar V (Clause State) where
  step := reader.clauseStep Parser.progress
  distance
    | .ignores, _ => 0
    | .reads _, parser => parser.remaining + 1
  step_distance := by
    intro clause following before after success
    cases clause with
    | ignores => cases success
    | reads state =>
        have fewer := reader.takes_clause Parser.progress state before after _ success
        cases following <;> simp only <;> omega

theorem turn_following (state : State) (token : Token) (following? : Option State) :
    (reader.turn state token following?).following? = following? := by
  cases following? <;> simp only [turn] <;> split <;> rfl

theorem tokenwise_step (state : State) : reader.tokenwise.step state = Turn.following? <$> reader.readToken state := by
  simp only [tokenwise, step, readToken, map_eq_pure_bind, bind_assoc, pure_bind, turn_following, bind_pure]

theorem tokenwise_step_of_ok (state : State) (turn : Turn State) (before after : Parser V)
    (read : (reader.readToken state : ParseM V (Turn State)) before = .ok turn after) :
    reader.tokenwise.step state before = .ok turn.following? after := by
  rw [tokenwise_step]
  change EStateM.map Turn.following? (reader.readToken state) before = _
  simp only [EStateM.map, read]

theorem tokenwise_step_of_error (state : State) (error : ParseError) (before after : Parser V)
    (failed : (reader.readToken state : ParseM V (Turn State)) before = .error error after) :
    reader.tokenwise.step state before = .error error after := by
  rw [tokenwise_step]
  change EStateM.map Turn.following? (reader.readToken state) before = _
  simp only [EStateM.map, failed]

def Resolves : Prop :=
  ∀ (all : List Token) (state : State) (token : Token) (before : Parser V), Clean all before →
    Reports all (reader.read state token) (reader.read state token) before (Resolved all)

def Turn.Holds (all : List Token) (after : Parser V) : Turn State → Prop
  | .stay _ | .pass _ => Clean all after
  | .ignore | .stop => Ended all after

section Resolves

variable {reader} (resolves : reader.Resolves) {all : List Token}

include resolves

theorem token_reports (state : State) (before : Parser V) (clean : Clean all before) :
    Reports all (reader.readToken state) (reader.readToken state) before fun turn after => turn.Holds all after := by
  refine reports_bind (reports_next clean fun token middle clean => ?_)
  refine reports_bind ((resolves all state token middle clean).imp fun following? after resolved => reports_pure ?_)
  cases following? with
  | none =>
      simp only [turn]
      split <;> exact resolved.toEnded
  | some following =>
      have goesOn : Clean all after := ⟨resolved.goesOn rfl, resolved.within⟩
      simp only [turn]
      split <;> exact goesOn

theorem clause_reports (state : State) (before : Parser V) (clean : Clean all before) :
    Reports all (reader.readClause Parser.progress state) (reader.readClause Traced.progress state) before
      fun _ after => Ended all after := by
  rw [read_clause_eq, read_clause_eq]
  refine reports_bind ((token_reports resolves state before clean).imp_of_ok fun turn middle read holds => ?_)
  cases turn with
  | stay following =>
      have fewer := reader.takes_token Parser.progress state before middle _ read
      exact clause_reports following middle holds
  | pass following => exact reports_pure holds.ended
  | ignore => exact reports_pure holds
  | stop => exact reports_pure holds
termination_by before.remaining
decreasing_by exact fewer

theorem tokenwise_measured : reader.tokenwise.Measured reader.step where
  takes := reader.tokenwise.step_distance
  reports all state _ clean :=
    reports_bind (reports_next clean fun token middle clean =>
      (resolves all state token middle clean).imp fun _ _ resolved => resolved.toEnded)

theorem clausewise_measured : reader.clausewise.Measured (reader.clauseStep Traced.progress) where
  takes clause following before after step := by
    cases clause with
    | ignores => cases step
    | reads state => exact reader.takes_clause Parser.progress state before after _ step
  reports all clause before clean := by
    cases clause with
    | ignores => exact reports_pure clean.ended
    | reads state => exact clause_reports resolves state before clean

-- A call that goes on over several tokens does what a call for each of them does.
theorem clausewise_run (state : State) (parser : Parser V) (clean : Clean all parser) :
    reader.clausewise.run (.reads state) parser = reader.tokenwise.run state parser := by
  have reports := token_reports resolves state parser clean
  have clause : reader.clausewise.step (.reads state) parser = reader.readClause Parser.progress state parser := rfl
  rw [readClause] at clause
  split at clause
  · rename_i error after failed
    rw [Grammar.run_of_error _ _ _ _ _ clause,
      Grammar.run_of_error _ _ _ _ _ (reader.tokenwise_step_of_error state error parser after failed)]
  · rename_i following after read
    have holds : Clean all after := (reports.of_ok read).2
    have token := Grammar.run_of_some _ _ _ _ _ (reader.tokenwise_step_of_ok state _ parser after read)
    rw [holds.unrecorded] at token
    have fewer := reader.takes_token Parser.progress state parser after _ read
    rw [token]
    refine Eq.trans ?_ (clausewise_run following after holds)
    exact Grammar.run_of_same_step _ _ _ _ _ clause
  · rename_i following after read
    have holds : Clean all after := (reports.of_ok read).2
    have token := Grammar.run_of_some _ _ _ _ _ (reader.tokenwise_step_of_ok state _ parser after read)
    have call := Grammar.run_of_some _ _ _ _ _ clause
    rw [holds.unrecorded] at token call
    have fewer := reader.takes_token Parser.progress state parser after _ read
    rw [token, call]
    exact clausewise_run following after holds
  · rename_i after read
    have ignored : reader.clausewise.run .ignores after = after.finish := Grammar.run_of_none _ _ _ _ rfl
    rw [Grammar.run_of_none _ _ _ _ (reader.tokenwise_step_of_ok state _ parser after read),
      Grammar.run_of_some _ _ _ _ _ clause, ignored, ite_self]
  · rename_i after read
    rw [Grammar.run_of_none _ _ _ _ (reader.tokenwise_step_of_ok state _ parser after read),
      Grammar.run_of_none _ _ _ _ clause]
termination_by parser.remaining
decreasing_by all_goals exact fewer

theorem stops (state : State) (value : V) (tokens : List Token) :
    reader.tokenwise.Stops reader.step state value tokens ∧
      reader.clausewise.Stops (reader.clauseStep Traced.progress) (.reads state) value tokens ∧
      reader.clausewise.run (.reads state) (ofTokens value tokens) = reader.tokenwise.run state (ofTokens value tokens) :=
  ⟨(tokenwise_measured resolves).stops state value tokens,
    (clausewise_measured resolves).stops (.reads state) value tokens,
    clausewise_run resolves state _ (clean_of_tokens value tokens)⟩

end Resolves

end Reader

end SqlOutline
