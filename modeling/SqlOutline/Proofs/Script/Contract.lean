import SqlOutline.Proofs.Script.Action

set_option autoImplicit false

namespace SqlOutline

open ParseError (joinAll?)

section Cut

variable {α : Type} (stops : α → Bool)

def throughFirst : List α → List α
  | [] => []
  | entry :: rest => if stops entry then [entry] else entry :: throughFirst rest

-- The shortest front, but not an empty one, of which the last entry stops, or all entries if there is none that stops.
structure ThroughFirst (front all : List α) : Prop where
  starts : front <+: all
  started : all ≠ [] → front ≠ []
  goesOn : ∀ entry ∈ front.dropLast, stops entry = false
  ends : front = all ∨ ∃ entry ∈ front.getLast?, stops entry = true

theorem through_first (all : List α) : ThroughFirst stops (throughFirst stops all) all := by
  induction all with
  | nil => exact ⟨List.prefix_rfl, id, nofun, .inl rfl⟩
  | cons entry rest ih =>
      unfold throughFirst
      split
      · rename_i stop
        exact ⟨(List.prefix_cons_inj entry).mpr List.nil_prefix, fun _ => List.cons_ne_nil _ _, nofun,
          .inr ⟨entry, rfl, stop⟩⟩
      · rename_i goesOn
        refine ⟨(List.prefix_cons_inj entry).mpr ih.starts, fun _ => List.cons_ne_nil _ _, ?_, ?_⟩
        · cases cut : throughFirst stops rest with
          | nil => exact nofun
          | cons next further =>
              rw [List.dropLast_cons_cons]
              exact List.forall_mem_cons.mpr ⟨Bool.eq_false_iff.mpr goesOn, cut ▸ ih.goesOn⟩
        · rcases ih.ends with same | ⟨last, found, stop⟩
          · exact .inl (congrArg (entry :: ·) same)
          · refine .inr ⟨last, ?_, stop⟩
            rw [Option.mem_def, List.getLast?_cons, Option.mem_def.mp found]
            rfl

end Cut

namespace Script

-- A step, with the tokens that are left when it is its turn, and whether an error has been recorded before.
structure Turn where
  step : Step
  tokens : List Token
  failed : Bool

namespace Turn

def answer (turn : Turn) : Except ParseError Reply :=
  turn.step.action.reply turn.tokens turn.failed

def returned? (turn : Turn) : Option ParseError :=
  match turn.answer with
  | .ok _ => none
  | .error error => if turn.step.decisive then some error else none

def stops (turn : Turn) : Bool :=
  turn.returned?.isSome

end Turn

def turns : List Step → List Token → Bool → List Turn
  | [], _, _ => []
  | step :: rest, tokens, failed =>
      ⟨step, tokens, failed⟩ :: turns rest (step.action.rest tokens) (failed || !step.action.errors.isEmpty)

def left (tokens : List Token) (turns : List Turn) : List Token :=
  turns.foldl (fun tokens turn => turn.step.action.rest tokens) tokens

structure Visit where
  stage : Stage
  tokens : List Token

namespace Visit

def planned (visit : Visit) : List Turn :=
  Script.turns visit.stage.steps visit.tokens false

def turns (visit : Visit) : List Turn :=
  throughFirst Turn.stops visit.planned

def log (visit : Visit) : List Entry :=
  .started :: visit.turns.map fun turn => .result turn.answer

def items (visit : Visit) : List Item :=
  visit.turns.flatMap fun turn => turn.step.action.items

def recorded (visit : Visit) : List ParseError :=
  visit.turns.flatMap fun turn => turn.step.action.errors

def ending (visit : Visit) : Ending :=
  match visit.turns.findSome? Turn.returned? with
  | some error => .error error
  | none => visit.stage.ending

def returned (visit : Visit) : List ParseError :=
  match visit.ending with
  | .error error => [error]
  | .goOn | .done => []

-- A recorded error stops the run even if the stage would go on.
def stops (visit : Visit) : Bool :=
  match visit.ending with
  | .goOn => !visit.recorded.isEmpty
  | .done | .error _ => true

def rest (visit : Visit) : List Token :=
  left visit.tokens visit.turns

end Visit

def visits : List Stage → List Token → List Visit
  | [], _ => []
  | stage :: rest, tokens => ⟨stage, tokens⟩ :: visits rest (Visit.rest ⟨stage, tokens⟩)

def Record.extend (record : Record) (turns : List Turn) : Record where
  items := record.items ++ turns.flatMap fun turn => turn.step.action.items
  log := record.log ++ turns.map fun turn => .result turn.answer

theorem Record.extend_nil (record : Record) : record.extend [] = record := by
  simp [extend]

theorem Record.extend_cons (record : Record) (turn : Turn) (rest : List Turn) :
    record.extend (turn :: rest) =
      extend ⟨record.items ++ turn.step.action.items, record.log ++ [.result turn.answer]⟩ rest := by
  simp [extend]

theorem add_items (items : List Item) (record : Record) :
    items.foldl (fun record item => addItem item record) record = ⟨record.items ++ items, record.log⟩ := by
  induction items generalizing record with
  | nil => rw [List.foldl_nil, List.append_nil]
  | cons item rest ih => rw [List.foldl_cons, ih, addItem, List.append_assoc, List.singleton_append]

theorem perform_noted (action : Action) (record : Record) (tokens : List Token) (consumed : Nat)
    (errors : List ParseError) :
    ∃ taken, perform action ⟨record, ⟨tokens, consumed⟩, joinAll? errors⟩ =
      .ok (action.reply tokens (!errors.isEmpty))
        ⟨⟨record.items ++ action.items, record.log ++ [.result (action.reply tokens (!errors.isEmpty))]⟩,
          ⟨action.rest tokens, taken⟩, joinAll? (errors ++ action.errors)⟩ := by
  have done := action.perform_answered addItem record tokens consumed errors
  refine ⟨consumed + (tokens.length - (action.rest tokens).length), ?_⟩
  rw [Action.after, add_items] at done
  unfold perform
  change EStateM.bind _ _ _ = _
  simp only [EStateM.bind, done]
  cases action.reply tokens (!errors.isEmpty) <;> rfl

theorem run_steps_turn (turn : Turn) (rest : List Step) (before middle : Parser Record)
    (noted : perform turn.step.action before = .ok turn.answer middle) :
    runSteps (turn.step :: rest) before =
      match turn.returned? with
      | some error => .error error middle
      | none => runSteps rest middle := by
  rw [runSteps]
  change EStateM.bind _ _ _ = _
  simp only [EStateM.bind, noted, Turn.returned?]
  cases turn.answer with
  | ok reply => rfl
  | error error => cases turn.step.decisive <;> rfl

def verdict (turns : List Turn) : Except ParseError Unit :=
  match turns.findSome? Turn.returned? with
  | some error => .error error
  | none => .ok ()

theorem run_steps_taken (steps : List Step) (record : Record) (tokens : List Token) (consumed : Nat)
    (errors : List ParseError) (taken : List Turn)
    (cut : taken = throughFirst Turn.stops (turns steps tokens (!errors.isEmpty))) :
    ∃ count, runSteps steps ⟨record, ⟨tokens, consumed⟩, joinAll? errors⟩ =
      (Parser.mk (record.extend taken) ⟨left tokens taken, count⟩
        (joinAll? (errors ++ taken.flatMap fun turn => turn.step.action.errors))).answered (verdict taken) := by
  induction steps generalizing record tokens consumed errors taken with
  | nil =>
      subst cut
      refine ⟨consumed, ?_⟩
      rw [turns, throughFirst, Record.extend_nil, List.flatMap_nil, List.append_nil]
      rfl
  | cons step rest ih =>
      obtain ⟨count, noted⟩ := perform_noted step.action record tokens consumed errors
      have turned := run_steps_turn ⟨step, tokens, !errors.isEmpty⟩ rest _ _ noted
      rw [turns, throughFirst] at cut
      rw [turned]
      cases returned : Turn.returned? ⟨step, tokens, !errors.isEmpty⟩ with
      | some error =>
          have stops : Turn.stops ⟨step, tokens, !errors.isEmpty⟩ = true := congrArg Option.isSome returned
          rw [if_pos stops] at cut
          subst cut
          refine ⟨count, ?_⟩
          rw [Record.extend_cons, Record.extend_nil, List.flatMap_singleton, verdict, List.findSome?_cons, returned]
          rfl
      | none =>
          have goesOn : ¬ Turn.stops ⟨step, tokens, !errors.isEmpty⟩ = true := by rw [Turn.stops, returned]; exact nofun
          rw [if_neg goesOn] at cut
          have failed : (!(errors ++ step.action.errors).isEmpty) = (!errors.isEmpty || !step.action.errors.isEmpty) := by
            cases errors <;> rfl
          obtain ⟨count, further⟩ := ih _ _ count (errors ++ step.action.errors) _ rfl
          refine ⟨count, further.trans ?_⟩
          subst cut
          rw [failed, Record.extend_cons, List.flatMap_cons, List.append_assoc, verdict, verdict, List.findSome?_cons,
            returned]
          rfl

theorem run_stage_visit (visit : Visit) (rest : List Stage) (record : Record) (consumed : Nat) :
    ∃ count, grammar.step (visit.stage :: rest) ⟨record, ⟨visit.tokens, consumed⟩, none⟩ =
      (Parser.mk ⟨record.items ++ visit.items, record.log ++ visit.log⟩ ⟨visit.rest, count⟩
        (joinAll? visit.recorded)).answered
        (match visit.ending with
          | .goOn => .ok (some rest)
          | .done => .ok none
          | .error error => .error error) := by
  obtain ⟨count, taken⟩ := run_steps_taken visit.stage.steps ⟨record.items, record.log ++ [.started]⟩ visit.tokens
    consumed [] visit.turns rfl
  refine ⟨count, ?_⟩
  change EStateM.bind (runSteps visit.stage.steps) _
    ⟨⟨record.items, record.log ++ [.started]⟩, ⟨visit.tokens, consumed⟩, joinAll? []⟩ = _
  rw [EStateM.bind, taken, verdict, Visit.ending]
  have noted : record.log ++ visit.log = record.log ++ [.started] ++ visit.turns.map fun turn => .result turn.answer := by
    rw [Visit.log, List.append_assoc, List.singleton_append]
  rw [noted]
  cases visit.turns.findSome? Turn.returned? with
  | some error => rfl
  | none => cases visit.stage.ending <;> rfl

theorem run_of_stops (visit : Visit) (rest : List Stage) (record : Record) (consumed : Nat) (stops : visit.stops = true) :
    grammar.run (visit.stage :: rest) ⟨record, ⟨visit.tokens, consumed⟩, none⟩ =
      ⟨⟨record.items ++ visit.items, record.log ++ visit.log⟩, joinAll? (visit.recorded ++ visit.returned)⟩ := by
  obtain ⟨count, visited⟩ := run_stage_visit visit rest record consumed
  unfold Visit.stops at stops
  unfold Visit.returned
  cases ending : visit.ending with
  | error error =>
      simp only [ending, Parser.answered] at visited
      rw [grammar.run_of_error _ _ _ _ visited, Parser.record_join_all]
      rfl
  | done =>
      simp only [ending, Parser.answered] at visited
      rw [grammar.run_of_none _ _ _ visited, List.append_nil]
      rfl
  | goOn =>
      simp only [ending, Parser.answered] at visited stops
      have failed := (ParseError.join_all_is_some visit.recorded).trans stops
      rw [grammar.run_of_some _ _ _ _ visited, if_pos failed, List.append_nil]
      rfl

theorem run_of_goes_on (visit : Visit) (rest : List Stage) (record : Record) (consumed : Nat)
    (goesOn : visit.stops = false) :
    visit.recorded ++ visit.returned = [] ∧ ∃ count,
      grammar.run (visit.stage :: rest) ⟨record, ⟨visit.tokens, consumed⟩, none⟩ =
        grammar.run rest ⟨⟨record.items ++ visit.items, record.log ++ visit.log⟩, ⟨visit.rest, count⟩, none⟩ := by
  obtain ⟨count, visited⟩ := run_stage_visit visit rest record consumed
  unfold Visit.stops at goesOn
  unfold Visit.returned
  cases ending : visit.ending with
  | error error => simp [ending] at goesOn
  | done => simp [ending] at goesOn
  | goOn =>
      simp only [ending, Parser.answered, Bool.not_eq_false', List.isEmpty_iff] at visited goesOn
      rw [goesOn] at visited
      refine ⟨by rw [goesOn]; rfl, count, ?_⟩
      rw [grammar.run_of_some _ _ _ _ visited]
      rfl

-- The log ends with a note if the run has come to the end of the script.
def exhausted (started : List Visit) : List Entry :=
  if started.any Visit.stops then [] else [.exhausted]

theorem run_visits (stages : List Stage) (record : Record) (tokens : List Token) (consumed : Nat) (started : List Visit)
    (cut : started = throughFirst Visit.stops (visits stages tokens)) :
    grammar.run stages ⟨record, ⟨tokens, consumed⟩, none⟩ =
      ⟨⟨record.items ++ started.flatMap Visit.items, record.log ++ (started.flatMap Visit.log ++ exhausted started)⟩,
        joinAll? (started.flatMap fun visit => visit.recorded ++ visit.returned)⟩ := by
  induction stages generalizing record tokens consumed started with
  | nil =>
      subst cut
      rw [grammar.run_of_none _ _ _ rfl]
      simp [visits, throughFirst, exhausted, Parser.finish, joinAll?]
  | cons stage rest ih =>
      rw [visits, throughFirst] at cut
      cases stops : Visit.stops ⟨stage, tokens⟩ with
      | true =>
          rw [if_pos stops] at cut
          subst cut
          have stopped := run_of_stops ⟨stage, tokens⟩ rest record consumed stops
          simpa [exhausted, stops] using stopped
      | false =>
          rw [if_neg (Bool.eq_false_iff.mp stops)] at cut
          subst cut
          obtain ⟨clean, count, goesOn⟩ := run_of_goes_on ⟨stage, tokens⟩ rest record consumed stops
          refine goesOn.trans ((ih _ _ count _ rfl).trans ?_)
          simp [exhausted, stops, List.append_eq_nil_iff.mp clean]

theorem started_append (items : List Item) (front back : List Entry) :
    (Record.mk items (front ++ back)).started = (Record.mk items front).started + (Record.mk items back).started :=
  List.countP_append

theorem started_visit (items : List Item) (visit : Visit) : (Record.mk items visit.log).started = 1 := by
  simp [Record.started, Visit.log, List.countP_map, Function.comp_def]

theorem started_exhausted (items : List Item) (visits : List Visit) : (Record.mk items (exhausted visits)).started = 0 := by
  unfold exhausted
  split <;> rfl

theorem started_visits (items : List Item) (visits : List Visit) :
    (Record.mk items (visits.flatMap Visit.log)).started = visits.length := by
  induction visits with
  | nil => rfl
  | cons visit rest ih => rw [List.flatMap_cons, started_append, started_visit, ih, List.length_cons, Nat.add_comm]

-- A run starts the stages through the first that stops it, or all of them, and each of them takes its steps through the
-- first that returns an error, or all of them. The items and the errors of the run are those of the steps, in order.
theorem run_contract (stages : List Stage) (tokens : List Token) :
    ∃ started, ThroughFirst Visit.stops started (visits stages tokens) ∧
      (∀ visit ∈ started, ThroughFirst Turn.stops visit.turns visit.planned) ∧
      (run stages tokens).value.started = started.length ∧
      (run stages tokens).value.log = started.flatMap Visit.log ++ exhausted started ∧
      (run stages tokens).value.items = started.flatMap Visit.items ∧
      (run stages tokens).error? = joinAll? (started.flatMap fun visit => visit.recorded ++ visit.returned) := by
  have whole : run stages tokens = _ := run_visits stages ⟨[], []⟩ tokens 0 _ rfl
  simp only [List.nil_append] at whole
  refine ⟨throughFirst Visit.stops (visits stages tokens), through_first _ _, fun visit _ => through_first _ _, ?_⟩
  rw [whole, started_append, started_visits, started_exhausted]
  exact ⟨rfl, rfl, rfl, rfl⟩

-- The second stage asks to go on, but it has recorded an error, so the third one is not started.
example :
    (run [⟨[⟨.commit (.text "a") "text", true⟩], .goOn⟩, ⟨[⟨.fail .noToken, true⟩, ⟨.next, false⟩], .goOn⟩,
      ⟨[], .done⟩] []).value.started = 2 := by
  decide +kernel

end Script

end SqlOutline
