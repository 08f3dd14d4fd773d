import SqlOutline.Parser.Progress

set_option autoImplicit false

namespace SqlOutline

-- As many entries were taken as the cursor says, and those after them are still to come.
structure Cursor.Within {α : Type} (all : List α) (cursor : Cursor α) : Prop where
  bounded : cursor.consumed ≤ all.length
  rest : cursor.rest = all.drop cursor.consumed

theorem Cursor.Within.advance {α : Type} {all rest : List α} {entry : α} {consumed : Nat}
    (within : Cursor.Within all ⟨entry :: rest, consumed⟩) : Cursor.Within all ⟨rest, consumed + 1⟩ := by
  have pending : all.drop consumed = entry :: rest := within.rest.symm
  have inside : consumed < all.length := by
    have counted := congrArg List.length pending
    rw [List.length_drop, List.length_cons] at counted
    omega
  refine ⟨inside, ?_⟩
  rw [List.drop_eq_getElem_cons inside] at pending
  exact (List.cons.inj pending).2.symm

-- A parser and, for each request that was made of it, how many tokens were left.
structure Traced (V : Type) where
  parser : Parser V
  asked : List Nat

abbrev TraceM (V : Type) := EStateM ParseError (Traced V)

namespace TraceM

variable {V α : Type}

def quietly (action : ParseM V α) : TraceM V α := fun before =>
  match action before.parser with
  | .ok result after => .ok result ⟨after, before.asked⟩
  | .error error after => .error error ⟨after, before.asked⟩

def asking (action : ParseM V α) : TraceM V α := fun before =>
  quietly action ⟨before.parser, before.asked ++ [before.parser.remaining]⟩

instance : Parses V (TraceM V) where
  next := asking Parser.next
  peek := asking Parser.peek
  skip := asking Parser.skip
  fail error := quietly (Parser.fail error)
  change update := quietly (Parser.change update)
  commit what valid add := quietly (Parser.commit what valid add)

end TraceM

namespace Traced

variable {V α : Type}

def remaining (traced : Traced V) : Nat :=
  traced.parser.remaining

def plain : EStateM.Result ParseError (Traced V) α → EStateM.Result ParseError (Parser V) α
  | .ok result after => .ok result after.parser
  | .error error after => .error error after.parser

def requests : EStateM.Result ParseError (Traced V) α → List Nat
  | .ok _ after => after.asked
  | .error _ after => after.asked

theorem success_of_quietly {action : ParseM V α} {before after : Traced V} {result : α}
    (success : TraceM.quietly action before = .ok result after) : action before.parser = .ok result after.parser := by
  unfold TraceM.quietly at success
  split at success
  · rename_i done
    cases success
    exact done
  · contradiction

theorem success_of_asking {action : ParseM V α} {before after : Traced V} {result : α}
    (success : TraceM.asking action before = .ok result after) : action before.parser = .ok result after.parser := by
  have noted : TraceM.quietly action ⟨before.parser, before.asked ++ [before.parser.remaining]⟩ = .ok result after := success
  have done := success_of_quietly noted
  exact done

theorem forward_quietly {action : ParseM V α} (forward : Forward Parser.remaining action) :
    Forward remaining (TraceM.quietly action) :=
  fun before after result success => forward before.parser after.parser result (success_of_quietly success)

theorem forward_asking {action : ParseM V α} (forward : Forward Parser.remaining action) :
    Forward remaining (TraceM.asking action) :=
  fun before after result success => forward before.parser after.parser result (success_of_asking success)

theorem takes_asking {action : ParseM V α} (takes : Takes Parser.remaining action) :
    Takes remaining (TraceM.asking action) :=
  fun before after result success => takes before.parser after.parser result (success_of_asking success)

theorem progress : Progress (remaining : Traced V → Nat) where
  next := takes_asking Parser.progress.next
  peek := forward_asking Parser.progress.peek
  skip := forward_asking Parser.progress.skip
  fail error := forward_quietly (Parser.progress.fail error)
  change update := forward_quietly (Parser.progress.change update)
  commit what valid add := forward_quietly (Parser.progress.commit what valid add)

end Traced

namespace Parser

variable {V State α β : Type}

structure Clean (all : List Token) (parser : Parser V) : Prop where
  unrecorded : parser.error? = none
  within : parser.tokens.Within all

theorem clean_of_tokens (value : V) (tokens : List Token) : Clean tokens (ofTokens value tokens) :=
  ⟨rfl, Nat.zero_le _, List.drop_zero.symm⟩

-- The same outcome with and without notes. An error that is returned is the only one, and it says that a token is missing
-- just if a request came when none was left.
inductive Accounts (all : List Token) (holds : α → Parser V → Prop) (asked made : List Nat) :
    EStateM.Result ParseError (Parser V) α → EStateM.Result ParseError (Traced V) α → Prop where
  | ok (result : α) (after : Parser V) (found : 0 ∉ made) (holding : holds result after) :
      Accounts all holds asked made (.ok result after) (.ok result ⟨after, asked ++ made⟩)
  | error (error : ParseError) (after : Parser V) (missing : 0 ∈ made ↔ error = .noToken) (clean : Clean all after) :
      Accounts all holds asked made (.error error after) (.error error ⟨after, asked ++ made⟩)

def Reports (all : List Token) (action : ParseM V α) (traced : TraceM V α) (before : Parser V)
    (holds : α → Parser V → Prop) : Prop :=
  ∀ asked, ∃ made, Accounts all holds asked made (action before) (traced ⟨before, asked⟩)

def Settled (all : List Token) (holds : α → Parser V → Prop) : EStateM.Result ParseError (Parser V) α → Prop
  | .ok result after => holds result after
  | .error error after => error ≠ .noToken ∧ Clean all after

-- How a step ends that returns no error. An error that it recorded is not about a token that is missing.
structure Ended (all : List Token) (after : Parser V) : Prop where
  within : after.tokens.Within all
  found : ∀ error ∈ after.error?, error ≠ .noToken

structure Resolved (all : List Token) (following? : Option State) (after : Parser V) : Prop extends Ended all after where
  goesOn : following?.isSome = true → after.error? = none

theorem Clean.ended {all : List Token} {parser : Parser V} (clean : Clean all parser) : Ended all parser where
  within := clean.within
  found error recorded := by
    rw [clean.unrecorded] at recorded
    contradiction

theorem Clean.resolved {all : List Token} {parser : Parser V} (clean : Clean all parser) (following? : Option State) :
    Resolved all following? parser :=
  ⟨clean.ended, fun _ => clean.unrecorded⟩

section Actions

variable {all : List Token} {before : Parser V}

section Rules

variable {action : ParseM V α} {traced : TraceM V α} {holds weaker : α → Parser V → Prop}

theorem Reports.imp_of_ok (reports : Reports all action traced before holds)
    (implies : ∀ result after, action before = .ok result after → holds result after → weaker result after) :
    Reports all action traced before weaker := by
  intro asked
  obtain ⟨made, accounts⟩ := reports asked
  refine ⟨made, ?_⟩
  generalize done : action before = outcome, traced ⟨before, asked⟩ = tracedOutcome at accounts ⊢
  cases accounts with
  | ok result after found holding => exact .ok result after found (implies result after done holding)
  | error error after missing clean => exact .error error after missing clean

theorem Reports.imp (reports : Reports all action traced before holds)
    (implies : ∀ result after, holds result after → weaker result after) : Reports all action traced before weaker :=
  reports.imp_of_ok fun result after _ => implies result after

theorem Reports.plain (reports : Reports all action traced before holds) :
    Traced.plain (traced ⟨before, []⟩) = action before := by
  obtain ⟨made, accounts⟩ := reports []
  generalize action before = outcome, traced ⟨before, []⟩ = tracedOutcome at accounts
  cases accounts <;> rfl

theorem Reports.of_ok {result : α} {after : Parser V} (reports : Reports all action traced before holds)
    (success : action before = .ok result after) :
    0 ∉ Traced.requests (traced ⟨before, []⟩) ∧ holds result after := by
  obtain ⟨made, accounts⟩ := reports []
  rw [success] at accounts
  generalize traced ⟨before, []⟩ = tracedOutcome at accounts
  cases accounts with
  | ok _ _ found holding => exact ⟨found, holding⟩

theorem Reports.of_error {error : ParseError} {after : Parser V} (reports : Reports all action traced before holds)
    (failed : action before = .error error after) :
    (0 ∈ Traced.requests (traced ⟨before, []⟩) ↔ error = .noToken) ∧ Clean all after := by
  obtain ⟨made, accounts⟩ := reports []
  rw [failed] at accounts
  generalize traced ⟨before, []⟩ = tracedOutcome at accounts
  cases accounts with
  | error _ _ missing clean => exact ⟨missing, clean⟩

theorem reports_bind {further : α → ParseM V β} {tracedFurther : α → TraceM V β} {holds : β → Parser V → Prop}
    (first : Reports all action traced before fun result middle =>
      Reports all (further result) (tracedFurther result) middle holds) :
    Reports all (action >>= further) (traced >>= tracedFurther) before holds := by
  intro asked
  obtain ⟨made, accounts⟩ := first asked
  change ∃ made, Accounts all holds asked made (EStateM.bind action further before)
    (EStateM.bind traced tracedFurther ⟨before, asked⟩)
  rw [EStateM.bind, EStateM.bind]
  generalize action before = outcome, traced ⟨before, asked⟩ = tracedOutcome at accounts
  cases accounts with
  | error error after missing clean => exact ⟨made, .error error after missing clean⟩
  | ok result middle found reports =>
      obtain ⟨more, accounts⟩ := reports (asked ++ made)
      refine ⟨made ++ more, ?_⟩
      change Accounts all holds asked (made ++ more) (further result middle) (tracedFurther result ⟨middle, asked ++ made⟩)
      generalize further result middle = outcome, tracedFurther result ⟨middle, asked ++ made⟩ = tracedOutcome at accounts
      cases accounts with
      | ok last after stillFound holding =>
          rw [List.append_assoc]
          exact .ok last after (by simp [found, stillFound]) holding
      | error error after missing clean =>
          rw [List.append_assoc]
          exact .error error after (by simp [found, missing]) clean

theorem reports_quietly (settled : Settled all holds (action before)) :
    Reports all action (TraceM.quietly action) before holds := by
  intro asked
  refine ⟨[], ?_⟩
  rw [TraceM.quietly]
  generalize action before = outcome at settled
  cases outcome with
  | ok result after =>
      have accounts : Accounts all holds asked [] (.ok result after) (.ok result ⟨after, asked ++ []⟩) :=
        .ok result after nofun settled
      rwa [List.append_nil] at accounts
  | error error after =>
      have accounts : Accounts all holds asked [] (.error error after) (.error error ⟨after, asked ++ []⟩) :=
        .error error after (iff_of_false nofun settled.1) settled.2
      rwa [List.append_nil] at accounts

-- A request fails for want of a token just if none is left.
theorem reports_asking (missing : before.tokens.rest = [] → action before = .error .noToken before)
    (clean : Clean all before) (found : before.tokens.rest ≠ [] → Settled all holds (action before)) :
    Reports all action (TraceM.asking action) before holds := by
  intro asked
  refine ⟨[before.remaining], ?_⟩
  rw [TraceM.asking, TraceM.quietly]
  by_cases empty : before.tokens.rest = []
  · rw [missing empty]
    exact .error .noToken before (iff_of_true (by simp [remaining, empty]) rfl) clean
  · have left : 0 ∉ [before.remaining] := by simpa [remaining, eq_comm] using empty
    have settled := found empty
    generalize action before = outcome at settled
    cases outcome with
    | ok result after => exact .ok result after left settled
    | error error after => exact .error error after (iff_of_false left settled.1) settled.2

theorem reports_pure {result : α} (holding : holds result before) : Reports all (pure result) (pure result) before holds :=
  reports_quietly holding

theorem reports_throw {error : ParseError} (clean : Clean all before) (found : error ≠ .noToken) :
    Reports all (throw error : ParseM V α) (throw error) before holds :=
  reports_quietly ⟨found, clean⟩

end Rules

theorem reports_fail {error : ParseError} (clean : Clean all before) (found : error ≠ .noToken) :
    Reports all (Parses.fail error : ParseM V (Option State)) (Parses.fail error) before (Resolved all) := by
  have recorded : before.record error = { before with error? := some error } := by
    simp only [record, clean.unrecorded]
  apply reports_quietly
  change Resolved all none (before.record error)
  rw [recorded]
  exact ⟨⟨clean.within, fun _ same => Option.some.inj same ▸ found⟩, fun goesOn => absurd goesOn Bool.false_ne_true⟩

theorem reports_change {update : V → V} {holds : Unit → Parser V → Prop} (clean : Clean all before)
    (holding : ∀ after, Clean all after → holds () after) :
    Reports all (Parses.change update) (Parses.change update) before holds :=
  reports_quietly (holding _ ⟨clean.unrecorded, clean.within⟩)

theorem reports_commit {what : String} {valid : Bool} {add : V → V} {holds : Unit → Parser V → Prop}
    (clean : Clean all before) (holding : ∀ after, Clean all after → holds () after) :
    Reports all (Parses.commit what valid add) (Parses.commit what valid add) before holds := by
  apply reports_quietly
  cases valid with
  | false => exact ⟨nofun, clean⟩
  | true => exact holding _ ⟨clean.unrecorded, clean.within⟩

theorem next_settled {holds : Token → Parser V → Prop} (clean : Clean all before) (pending : before.tokens.rest ≠ [])
    (holding : ∀ token after, Clean all after → holds token after) : Settled all holds (next before) := by
  obtain ⟨value, ⟨rest, consumed⟩, error?⟩ := before
  cases rest with
  | nil => exact absurd rfl pending
  | cons token rest =>
      have after : Clean all ⟨value, ⟨rest, consumed + 1⟩, error?⟩ := ⟨clean.unrecorded, clean.within.advance⟩
      by_cases broken : token.kind = .error
      · simp only [next, Cursor.next?, checked, if_pos broken]
        exact ⟨by simp, after⟩
      · simp only [next, Cursor.next?, checked, if_neg broken]
        exact holding token _ after

theorem reports_next {holds : Token → Parser V → Prop} (clean : Clean all before)
    (holding : ∀ token after, Clean all after → holds token after) :
    Reports all Parses.next Parses.next before holds :=
  reports_asking (next_of_nil before) clean fun pending => next_settled clean pending holding

theorem reports_skip {holds : Unit → Parser V → Prop} (clean : Clean all before)
    (holding : ∀ after, Clean all after → holds () after) : Reports all Parses.skip Parses.skip before holds := by
  refine reports_asking (fun empty => ?_) clean fun pending => ?_
  · change EStateM.bind next _ before = _
    rw [EStateM.bind, next_of_nil before empty]
  · have settled : Settled all (fun _ after => holds () after) (next before) :=
      next_settled clean pending fun _ => holding
    change Settled all holds (EStateM.bind next _ before)
    rw [EStateM.bind]
    generalize next before = outcome at settled
    cases outcome with
    | ok token after => exact settled
    | error error after => exact settled

theorem reports_peek {holds : Token → Parser V → Prop} (clean : Clean all before)
    (holding : ∀ token, holds token before) : Reports all Parses.peek Parses.peek before holds := by
  refine reports_asking (peek_of_nil before) clean fun pending => ?_
  change Settled all holds (peek before)
  obtain ⟨value, ⟨rest, consumed⟩, error?⟩ := before
  cases rest with
  | nil => exact absurd rfl pending
  | cons token rest =>
      by_cases broken : token.kind = .error
      · simp only [peek, Cursor.peek?, List.head?_cons, checked, if_pos broken]
        exact ⟨by simp, clean⟩
      · simp only [peek, Cursor.peek?, List.head?_cons, checked, if_neg broken]
        exact holding token

theorem commit_resolves {what : String} {valid : Bool} {add : V → V} {following? : Option State} (clean : Clean all before) :
    Reports all (Parses.commit what valid add >>= fun _ => pure following?)
      (Parses.commit what valid add >>= fun _ => pure following?) before (Resolved all) :=
  reports_bind (reports_commit clean fun _ added => reports_pure (added.resolved following?))

theorem skip_resolves {following? : Option State} (clean : Clean all before) :
    Reports all (Parses.skip >>= fun _ => pure following?) (Parses.skip >>= fun _ => pure following?) before (Resolved all) :=
  reports_bind (reports_skip clean fun _ taken => reports_pure (taken.resolved following?))

end Actions

end Parser

end SqlOutline
