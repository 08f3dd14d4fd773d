import Mathlib.Data.List.Chain
import SqlOutline.Proofs.Parser.Requests

set_option autoImplicit false

namespace SqlOutline

def Parser.leftBy {V α : Type} : EStateM.Result ParseError (Parser V) α → Parser V
  | .ok _ after => after
  | .error _ after => after

namespace Grammar

variable {V State : Type}

structure Call (V State : Type) where
  state : State
  before : Parser V

-- How many tokens were left at each request of the call.
def Call.requests (traced : State → TraceM V (Option State)) (call : Call V State) : List Nat :=
  Traced.requests (traced call.state ⟨call.before, []⟩)

def conclude : EStateM.Result ParseError (Parser V) (Option State) → Parsed V
  | .ok _ after => after.finish
  | .error error after => (after.record error).finish

section Calls

variable (grammar : Grammar V State)

def calls (state : State) (parser : Parser V) : List (Call V State) :=
  match _step : grammar.step state parser with
  | .error _ _ => [⟨state, parser⟩]
  | .ok none _ => [⟨state, parser⟩]
  | .ok (some following) after =>
      if after.error?.isSome then [⟨state, parser⟩] else ⟨state, parser⟩ :: calls following after
termination_by grammar.distance state parser
decreasing_by exact grammar.step_distance state following parser after _step

theorem calls_cases (state : State) (parser : Parser V) :
    (grammar.calls state parser = [⟨state, parser⟩] ∧
      grammar.run state parser = conclude (grammar.step state parser)) ∨
    ∃ following after, grammar.step state parser = .ok (some following) after ∧ after.error? = none ∧
      grammar.calls state parser = ⟨state, parser⟩ :: grammar.calls following after ∧
      grammar.run state parser = grammar.run following after := by
  rw [calls]
  split
  · rename_i failed
    exact .inl ⟨rfl, by rw [grammar.run_of_error _ _ _ _ failed, failed]; rfl⟩
  · rename_i ended
    exact .inl ⟨rfl, by rw [grammar.run_of_none _ _ _ ended, ended]; rfl⟩
  · rename_i following after goesOn
    have run := grammar.run_of_some _ _ _ _ goesOn
    split
    · rename_i recorded
      exact .inl ⟨rfl, by rw [run, if_pos recorded, goesOn]; rfl⟩
    · rename_i unrecorded
      have clean : after.error? = none := by simpa using unrecorded
      exact .inr ⟨following, after, goesOn, clean, rfl, by rw [run, if_neg unrecorded]⟩

theorem calls_induction {holds : State → Parser V → Prop}
    (last : ∀ state parser, grammar.calls state parser = [⟨state, parser⟩] →
      grammar.run state parser = conclude (grammar.step state parser) → holds state parser)
    (more : ∀ state parser following after, grammar.step state parser = .ok (some following) after →
      after.error? = none → grammar.calls state parser = ⟨state, parser⟩ :: grammar.calls following after →
      grammar.run state parser = grammar.run following after → holds following after → holds state parser)
    (state : State) (parser : Parser V) : holds state parser := by
  rcases grammar.calls_cases state parser with ⟨calls, run⟩ | ⟨following, after, step, clean, calls, run⟩
  · exact last state parser calls run
  · exact more state parser following after step clean calls run (calls_induction last more following after)
termination_by grammar.distance state parser
decreasing_by exact grammar.step_distance state following parser after step

theorem calls_cons (state : State) (parser : Parser V) : ∃ others, grammar.calls state parser = ⟨state, parser⟩ :: others := by
  rcases grammar.calls_cases state parser with ⟨calls, _⟩ | ⟨following, after, _, _, calls, _⟩
  · exact ⟨[], calls⟩
  · exact ⟨_, calls⟩

-- Each call but the last names the state of the next one and leaves its parser.
def Call.LeadsTo (call later : Call V State) : Prop :=
  grammar.step call.state call.before = .ok (some later.state) later.before

theorem calls_linked (state : State) (parser : Parser V) :
    (grammar.calls state parser).IsChain (Call.LeadsTo grammar) := by
  induction state, parser using calls_induction grammar with
  | last state parser calls run =>
      rw [calls]
      exact .singleton _
  | more state parser following after step _ calls run ih =>
      obtain ⟨others, next⟩ := grammar.calls_cons following after
      rw [calls]
      rw [next] at ih ⊢
      exact .cons_cons step ih

theorem exists_last (state : State) (parser : Parser V) :
    ∃ front last, grammar.calls state parser = front ++ [last] ∧
      grammar.run state parser = conclude (grammar.step last.state last.before) := by
  induction state, parser using calls_induction grammar with
  | last state parser calls run => exact ⟨[], ⟨state, parser⟩, calls, run⟩
  | more state parser following after _ _ calls run ih =>
      obtain ⟨front, last, others, ended⟩ := ih
      exact ⟨⟨state, parser⟩ :: front, last, by rw [calls, others, List.cons_append], run.trans ended⟩

theorem run_of_failed_call (state : State) (parser : Parser V) :
    ∀ call ∈ grammar.calls state parser, ∀ error after, grammar.step call.state call.before = .error error after →
      grammar.run state parser = (after.record error).finish := by
  induction state, parser using calls_induction grammar with
  | last state parser calls run =>
      intro call member error after failed
      rw [calls, List.mem_singleton] at member
      subst member
      rw [run, failed]
      rfl
  | more state parser following middle step _ calls run ih =>
      intro call member error after failed
      rw [calls] at member
      rcases List.mem_cons.mp member with rfl | member
      · rw [step] at failed
        contradiction
      · exact run.trans (ih call member error after failed)

end Calls

structure Measured (grammar : Grammar V State) (traced : State → TraceM V (Option State)) : Prop where
  takes : ∀ state following before after, grammar.step state before = .ok (some following) after →
    after.remaining < before.remaining
  reports : ∀ all state before, Parser.Clean all before →
    Parser.Reports all (grammar.step state) (traced state) before fun _ after => Parser.Ended all after

structure Stops (grammar : Grammar V State) (traced : State → TraceM V (Option State)) (state : State) (value : V)
    (tokens : List Token) : Prop where
  -- The run is made of these calls and comes to its end with the last of them.
  starts : (grammar.calls state (Parser.ofTokens value tokens)).head? = some ⟨state, Parser.ofTokens value tokens⟩
  linked : (grammar.calls state (Parser.ofTokens value tokens)).IsChain (Call.LeadsTo grammar)
  ends : ∃ front last, grammar.calls state (Parser.ofTokens value tokens) = front ++ [last] ∧
    grammar.run state (Parser.ofTokens value tokens) = conclude (grammar.step last.state last.before)
  bounded : (grammar.calls state (Parser.ofTokens value tokens)).length ≤ tokens.length + 1
  progress : ∀ call ∈ grammar.calls state (Parser.ofTokens value tokens), ∀ following after,
    grammar.step call.state call.before = .ok (some following) after →
      call.before.tokens.consumed < after.tokens.consumed
  within : ∀ call ∈ grammar.calls state (Parser.ofTokens value tokens),
    (Parser.leftBy (grammar.step call.state call.before)).tokens.Within tokens
  -- With its requests written down a call does the same. One of them came too late just if a token is said to be missing.
  plain : ∀ call ∈ grammar.calls state (Parser.ofTokens value tokens),
    Traced.plain (traced call.state ⟨call.before, []⟩) = grammar.step call.state call.before
  missing : (grammar.run state (Parser.ofTokens value tokens)).error? = some .noToken ↔
    ∃ call ∈ grammar.calls state (Parser.ofTokens value tokens), 0 ∈ call.requests traced

namespace Measured

variable {grammar : Grammar V State} {traced : State → TraceM V (Option State)} (measured : grammar.Measured traced)

include measured

theorem calls_length (state : State) (parser : Parser V) : (grammar.calls state parser).length ≤ parser.remaining + 1 := by
  induction state, parser using grammar.calls_induction with
  | last state parser calls run =>
      rw [calls]
      exact Nat.le_add_left 1 parser.remaining
  | more state parser following after step _ calls run ih =>
      have fewer := measured.takes state following parser after step
      rw [calls, List.length_cons]
      omega

theorem ended_of_ok {all : List Token} {state : State} {following? : Option State} {before after : Parser V}
    (clean : Parser.Clean all before) (step : grammar.step state before = .ok following? after) :
    Parser.Ended all after :=
  ((measured.reports all state before clean).of_ok step).2

theorem clean_of_error {all : List Token} {state : State} {error : ParseError} {before after : Parser V}
    (clean : Parser.Clean all before) (step : grammar.step state before = .error error after) :
    Parser.Clean all after :=
  ((measured.reports all state before clean).of_error step).2

theorem calls_clean (all : List Token) (state : State) (parser : Parser V) (clean : Parser.Clean all parser) :
    ∀ call ∈ grammar.calls state parser, Parser.Clean all call.before := by
  induction state, parser using grammar.calls_induction with
  | last state parser calls run =>
      rw [calls]
      exact List.forall_mem_singleton.mpr clean
  | more state parser following after step unrecorded calls run ih =>
      rw [calls]
      exact List.forall_mem_cons.mpr ⟨clean, ih ⟨unrecorded, (measured.ended_of_ok clean step).within⟩⟩

theorem consumed_lt {all : List Token} {state following : State} {before after : Parser V}
    (clean : Parser.Clean all before) (step : grammar.step state before = .ok (some following) after) :
    before.tokens.consumed < after.tokens.consumed := by
  have fewer := measured.takes state following before after step
  have later := (measured.ended_of_ok clean step).within
  rw [Parser.remaining, Parser.remaining, clean.within.rest, later.rest, List.length_drop, List.length_drop] at fewer
  have bounded := later.bounded
  omega

theorem left_within {all : List Token} {state : State} {before : Parser V} (clean : Parser.Clean all before) :
    (Parser.leftBy (grammar.step state before)).tokens.Within all := by
  cases step : grammar.step state before with
  | ok following? after => exact (measured.ended_of_ok clean step).within
  | error error after => exact (measured.clean_of_error clean step).within

theorem missing_iff {all : List Token} (state : State) (parser : Parser V) (clean : Parser.Clean all parser) :
    (grammar.run state parser).error? = some .noToken ↔
      ∃ call ∈ grammar.calls state parser, 0 ∈ call.requests traced := by
  have cleanCalls := measured.calls_clean all state parser clean
  constructor
  · intro missing
    obtain ⟨front, last, calls, run⟩ := grammar.exists_last state parser
    have member : last ∈ grammar.calls state parser := by simp [calls]
    have cleanLast := cleanCalls last member
    rw [run] at missing
    cases step : grammar.step last.state last.before with
    | ok following? after =>
        rw [step] at missing
        exact absurd rfl ((measured.ended_of_ok cleanLast step).found .noToken missing)
    | error error after =>
        obtain ⟨requests, cleanAfter⟩ := (measured.reports all _ _ cleanLast).of_error step
        rw [step] at missing
        refine ⟨last, member, requests.mpr ?_⟩
        simpa [conclude, Parser.record, Parser.finish, cleanAfter.unrecorded] using missing
  · rintro ⟨call, member, late⟩
    have reports := measured.reports all call.state call.before (cleanCalls call member)
    cases step : grammar.step call.state call.before with
    | ok following? after => exact absurd late (reports.of_ok step).1
    | error error after =>
        obtain ⟨requests, cleanAfter⟩ := reports.of_error step
        rw [grammar.run_of_failed_call state parser call member error after step]
        simp [Parser.record, Parser.finish, cleanAfter.unrecorded, requests.mp late]

theorem stops (state : State) (value : V) (tokens : List Token) : grammar.Stops traced state value tokens := by
  have clean := Parser.clean_of_tokens value tokens
  have cleanCalls := measured.calls_clean tokens state _ clean
  obtain ⟨others, first⟩ := grammar.calls_cons state (Parser.ofTokens value tokens)
  exact {
    starts := by rw [first, List.head?_cons]
    linked := grammar.calls_linked state _
    ends := grammar.exists_last state _
    bounded := measured.calls_length state _
    progress := fun call member following after step => measured.consumed_lt (cleanCalls call member) step
    within := fun call member => measured.left_within (cleanCalls call member)
    plain := fun call member => (measured.reports tokens call.state call.before (cleanCalls call member)).plain
    missing := measured.missing_iff state _ clean
  }

end Measured

end Grammar

end SqlOutline
