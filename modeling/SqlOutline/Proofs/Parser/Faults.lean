import SqlOutline.Proofs.Parser.Continuation
import SqlOutline.Proofs.Token.Ending

set_option autoImplicit false

namespace SqlOutline

-- What the error repeats is found in one of the tokens, and if it is an error of the text, in the last one.
def ParseError.IsAbout (tokens : List Token) : ParseError → Prop
  | .lex line message => tokens.getLast? = some ⟨.error, message, line⟩
  | .unexpectedToken _ kind text line => kind ≠ .error ∧ Token.mk kind text line ∈ tokens
  | .unsupportedKeyword keyword line => Token.mk .keyword keyword line ∈ tokens
  | .expected _ found line => ∃ kind, kind ≠ .error ∧ Token.mk kind found line ∈ tokens
  | .ambiguousIdentifier _ _ ident => ∃ token ∈ tokens, token.kind.isName = true ∧ token.text = ident
  | .invalidValue _ => True
  | .noToken | .multiple _ => False

def ParseError.line? : ParseError → Option Nat
  | .lex line _ | .unexpectedToken _ _ _ line | .unsupportedKeyword _ line | .expected _ _ line => some line
  | .noToken | .ambiguousIdentifier .. | .invalidValue _ | .multiple _ => none

namespace ParseError.IsAbout

variable {all rest : List Token} {token : Token}

theorem lexical (ahead : Ahead all (token :: rest)) (broken : token.kind = .error) :
    (ParseError.lex token.line token.text).IsAbout all := by
  obtain ⟨kind, text, line⟩ := token
  obtain rfl : kind = .error := broken
  exact ahead.last rfl

theorem unexpected (state : String) (readable : token.kind ≠ .error) (member : token ∈ all) :
    (ParseError.unexpected state token).IsAbout all :=
  ⟨readable, member⟩

theorem unsupported (isKeyword : token.kind = .keyword) (member : token ∈ all) :
    (ParseError.unsupported token).IsAbout all := by
  obtain ⟨kind, text, line⟩ := token
  obtain rfl : kind = .keyword := isKeyword
  exact member

theorem not_found (wanted : String) (readable : token.kind ≠ .error) (member : token ∈ all) :
    (ParseError.notFound wanted token).IsAbout all :=
  ⟨token.kind, readable, member⟩

theorem ambiguous (name label : String) (isName : token.kind.isName = true) (member : token ∈ all) :
    (ParseError.ambiguousIdentifier name label token.text).IsAbout all :=
  ⟨token, member, isName, rfl⟩

theorem line_mem {error : ParseError} (about : error.IsAbout all) : ∀ line ∈ error.line?, ∃ token ∈ all, token.line = line := by
  intro line given
  cases error with
  | lex =>
      obtain rfl := Option.some.inj given
      exact ⟨_, List.mem_of_getLast? about, rfl⟩
  | unexpectedToken =>
      obtain rfl := Option.some.inj given
      exact ⟨_, about.2, rfl⟩
  | unsupportedKeyword =>
      obtain rfl := Option.some.inj given
      exact ⟨_, about, rfl⟩
  | expected =>
      obtain rfl := Option.some.inj given
      obtain ⟨kind, _, member⟩ := about
      exact ⟨_, member, rfl⟩
  | noToken | ambiguousIdentifier | invalidValue | multiple => contradiction

end ParseError.IsAbout

namespace Parser

variable {V α β : Type} (all : List Token) (left : V → Prop)

structure Returned (error : ParseError) (after : Parser V) : Prop where
  single : after.error? = none
  about : error.IsAbout all
  remains : left after.value

def Recorded (_ : α) (after : Parser V) : Prop :=
  ∀ error ∈ after.error?, error.IsAbout all ∧ left after.value

-- What holds after the action if it succeeds. If it returns an error, that is a single one and about the tokens.
def Blames (action : ParseM V α) (before : Parser V) (holds : α → Parser V → Prop) : Prop :=
  match action before with
  | .ok result after => holds result after
  | .error error after => Returned all left error after

variable {all left} {value : V} {tokens : List Token} {consumed : Nat} {before : Parser V}

theorem blames_imp {action : ParseM V α} {holds weaker : α → Parser V → Prop} (blames : Blames all left action before holds)
    (implies : ∀ result after, holds result after → weaker result after) : Blames all left action before weaker := by
  unfold Blames at blames ⊢
  split
  · rename_i done
    rw [done] at blames
    exact implies _ _ blames
  · rename_i failed
    rw [failed] at blames
    exact blames

theorem blames_bind {action : ParseM V α} {further : α → ParseM V β} {holds : β → Parser V → Prop}
    (first : Blames all left action before fun result middle => Blames all left (further result) middle holds) :
    Blames all left (action >>= further) before holds := by
  change match EStateM.bind action further before with
    | .ok result after => holds result after
    | .error error after => Returned all left error after
  unfold Blames at first
  unfold EStateM.bind
  cases done : action before with
  | ok result middle =>
      rw [done] at first
      exact first
  | error error middle =>
      rw [done] at first
      exact first

theorem blames_pure {result : α} {holds : α → Parser V → Prop} (holding : holds result before) :
    Blames all left (pure result) before holds :=
  holding

theorem blames_throw {error : ParseError} {holds : α → Parser V → Prop} (about : error.IsAbout all) (remains : left value) :
    Blames all left (throw error) ⟨value, ⟨tokens, consumed⟩, none⟩ holds :=
  ⟨rfl, about, remains⟩

theorem blames_fail {error : ParseError} (about : error.IsAbout all) (remains : left value) :
    Blames all left (fail error : ParseM V (Option α)) ⟨value, ⟨tokens, consumed⟩, none⟩ (Recorded all left) :=
  fun _ recorded => Option.some.inj recorded ▸ ⟨about, remains⟩

theorem blames_change {update : V → V} {holds : Unit → Parser V → Prop}
    (holding : holds () { before with value := update before.value }) : Blames all left (change update) before holds :=
  holding

theorem blames_commit {what : String} {valid : Bool} {add : V → V} {holds : Unit → Parser V → Prop} (remains : left value)
    (holding : holds () ⟨add value, ⟨tokens, consumed⟩, none⟩) :
    Blames all left (commit what valid add) ⟨value, ⟨tokens, consumed⟩, none⟩ holds := by
  cases valid with
  | false => exact blames_throw trivial remains
  | true => exact blames_change holding

theorem blames_next {holds : Token → Parser V → Prop} (ahead : Ahead all tokens) (remains : left value)
    (holding : ∀ token rest, tokens = token :: rest → token.kind ≠ .error →
      holds token ⟨value, ⟨rest, consumed + 1⟩, none⟩) :
    Blames all left next ⟨value, ⟨tokens, consumed⟩, none⟩ holds := by
  cases tokens with
  | nil => exact absurd rfl ahead.stream.ne_nil
  | cons token rest =>
      by_cases broken : token.kind = .error
      · simp only [Blames, next, Cursor.next?, checked, if_pos broken]
        exact ⟨rfl, .lexical ahead broken, remains⟩
      · simp only [Blames, next, Cursor.next?, checked, if_neg broken]
        exact holding token rest rfl broken

theorem blames_peek {holds : Token → Parser V → Prop} (ahead : Ahead all tokens) (remains : left value)
    (holding : ∀ token rest, tokens = token :: rest → token.kind ≠ .error →
      holds token ⟨value, ⟨tokens, consumed⟩, none⟩) :
    Blames all left peek ⟨value, ⟨tokens, consumed⟩, none⟩ holds := by
  cases tokens with
  | nil => exact absurd rfl ahead.stream.ne_nil
  | cons token rest =>
      by_cases broken : token.kind = .error
      · simp only [Blames, peek, Cursor.peek?, List.head?_cons, checked, if_pos broken]
        exact ⟨rfl, .lexical ahead broken, remains⟩
      · simp only [Blames, peek, Cursor.peek?, List.head?_cons, checked, if_neg broken]
        exact holding token rest rfl broken

theorem blames_skip {holds : Unit → Parser V → Prop} (ahead : Ahead all tokens) (remains : left value)
    (holding : ∀ token rest, tokens = token :: rest → holds () ⟨value, ⟨rest, consumed + 1⟩, none⟩) :
    Blames all left skip ⟨value, ⟨tokens, consumed⟩, none⟩ holds :=
  blames_bind (blames_next ahead remains fun token rest pending _ => blames_pure (holding token rest pending))

end Parser

-- The value is whole, or there is an error about the tokens and the value is what that error left behind.
def Parsed.Accounts {V : Type} (all : List Token) (Left Whole : V → Prop) (parsed : Parsed V) : Prop :=
  match parsed.error? with
  | none => Whole parsed.value
  | some error => error.IsAbout all ∧ Left parsed.value

namespace Parsed.Accounts

variable {V : Type} {all : List Token} {Left Whole : V → Prop} {parsed : Parsed V}

theorem about (accounts : parsed.Accounts all Left Whole) : ∀ error ∈ parsed.error?, error.IsAbout all := by
  intro error found
  rw [Accounts, Option.mem_def.mp found] at accounts
  exact accounts.1

theorem whole (accounts : parsed.Accounts all Left Whole) (clean : parsed.error? = none) : Whole parsed.value := by
  rw [Accounts, clean] at accounts
  exact accounts

theorem left (accounts : parsed.Accounts all Left Whole) (implies : ∀ value, Whole value → Left value) :
    Left parsed.value := by
  cases found : parsed.error? with
  | none => exact implies _ (accounts.whole found)
  | some error =>
      rw [Accounts, found] at accounts
      exact accounts.2

end Parsed.Accounts

namespace Grammar

variable {V State : Type} {Step : State → V → List Token → Option State → V → List Token → Prop}
variable {Leaves : State → V → V → Prop} {Holds : State → V → List Token → Prop} {Left Whole : V → Prop}

-- A grammar of which no step takes the last token of a text and goes on, and every step that stops does so with an
-- error about a token. `Leaves` relates the value before a step to those that an error in the step can leave behind.
structure Accountable (all : List Token) (Step : State → V → List Token → Option State → V → List Token → Prop)
    (Leaves : State → V → V → Prop) (grammar : Grammar V State) : Prop where
  describes : grammar.Describes Step
  goesOn : ∀ state following value changed tokens rest, Step state value tokens (some following) changed rest →
    Ahead all tokens → Ahead all rest
  stops : ∀ state value tokens consumed, Ahead all tokens →
    Parser.Blames all (Leaves state value) (grammar.step state) ⟨value, ⟨tokens, consumed⟩, none⟩
      (Parser.Recorded all (Leaves state value))

structure Maintains (all : List Token) (Step : State → V → List Token → Option State → V → List Token → Prop)
    (Leaves : State → V → V → Prop) (Holds : State → V → List Token → Prop) (Left Whole : V → Prop) : Prop where
  step : ∀ state following value changed tokens rest, Step state value tokens (some following) changed rest →
    Ahead all tokens → Holds state value tokens → Holds following changed rest
  last : ∀ state value changed tokens rest, Step state value tokens none changed rest → Holds state value tokens →
    Whole changed
  stop : ∀ state value changed tokens, Leaves state value changed → Holds state value tokens → Left changed

theorem run_accounts {all : List Token} (grammar : Grammar V State) (accountable : grammar.Accountable all Step Leaves)
    (maintains : Maintains all Step Leaves Holds Left Whole) (state : State) (value : V) (tokens : List Token)
    (consumed : Nat) (ahead : Ahead all tokens) (holds : Holds state value tokens) :
    (grammar.run state ⟨value, ⟨tokens, consumed⟩, none⟩).Accounts all Left Whole := by
  have stops := accountable.stops state value tokens consumed ahead
  unfold Parser.Blames at stops
  cases step : grammar.step state ⟨value, ⟨tokens, consumed⟩, none⟩ with
  | error error after =>
      obtain ⟨changed, cursor, _⟩ := after
      rw [step] at stops
      obtain ⟨rfl, about, remains⟩ := stops
      rw [grammar.run_of_error _ _ _ _ step]
      exact ⟨about, maintains.stop _ _ _ _ remains holds⟩
  | ok following? after =>
      obtain ⟨changed, ⟨rest, taken⟩, error?⟩ := after
      rw [step] at stops
      cases error? with
      | some error =>
          obtain ⟨about, remains⟩ := stops error rfl
          rw [grammar.run_of_stopped state _ changed error (.inr ⟨following?, _, step⟩)]
          exact ⟨about, maintains.stop _ _ _ _ remains holds⟩
      | none =>
          have done := accountable.describes.sound _ _ _ _ _ _ step rfl
          cases following? with
          | none =>
              rw [grammar.run_of_none _ _ _ step]
              exact maintains.last _ _ _ _ _ done holds
          | some following =>
              rw [grammar.run_of_some _ _ _ _ step]
              exact run_accounts grammar accountable maintains following changed rest taken
                (accountable.goesOn _ _ _ _ _ _ done ahead) (maintains.step _ _ _ _ _ _ done ahead holds)
termination_by grammar.distance state ⟨value, ⟨tokens, consumed⟩, none⟩
decreasing_by
  subst_vars
  exact grammar.step_distance _ _ _ _ step

theorem run_error_about {all : List Token} (grammar : Grammar V State) (accountable : grammar.Accountable all Step Leaves)
    (state : State) (value : V) (tokens : List Token) (consumed : Nat) (ahead : Ahead all tokens) :
    ∀ error ∈ (grammar.run state ⟨value, ⟨tokens, consumed⟩, none⟩).error?, error.IsAbout all := by
  have maintains : Maintains all Step Leaves (fun _ _ _ => True) (fun _ => True) fun _ => True :=
    ⟨fun _ _ _ _ _ _ _ _ _ => trivial, fun _ _ _ _ _ _ _ => trivial, fun _ _ _ _ _ _ => trivial⟩
  exact (grammar.run_accounts accountable maintains state value tokens consumed ahead trivial).about

end Grammar

end SqlOutline
