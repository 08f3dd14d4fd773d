import SqlOutline.Parser
import SqlOutline.Proofs.Token.Respelling

set_option autoImplicit false

namespace SqlOutline

namespace ParseError

mutual
def map (text : String → String) (line : Nat → Nat) : ParseError → ParseError
  | .lex row message => .lex (line row) (text message)
  | .noToken => .noToken
  | .unexpectedToken state kind found row => .unexpectedToken state kind (text found) (line row)
  | .unsupportedKeyword keyword row => .unsupportedKeyword (text keyword) (line row)
  | .ambiguousIdentifier name label ident => .ambiguousIdentifier (text name) (text label) (text ident)
  | .invalidValue what => .invalidValue what
  | .expected wanted found row => .expected (text wanted) (text found) (line row)
  | .multiple errors => .multiple (mapAll text line errors)
def mapAll (text : String → String) (line : Nat → Nat) : List ParseError → List ParseError
  | [] => []
  | error :: rest => error.map text line :: mapAll text line rest
end

section Map

variable (text : String → String) (line : Nat → Nat)

theorem map_all_append (front back : List ParseError) :
    mapAll text line (front ++ back) = mapAll text line front ++ mapAll text line back := by
  induction front with
  | nil => rfl
  | cons error front ih => simp only [List.cons_append, mapAll, ih]

theorem errors_map (error : ParseError) : (error.map text line).errors = mapAll text line error.errors := by
  cases error <;> rfl

theorem join_map (first second : ParseError) :
    (first.join second).map text line = (first.map text line).join (second.map text line) := by
  simp only [join, map, errors_map, map_all_append]

end Map

def Respells (respelling : Respelling) (error other : ParseError) : Prop :=
  other.map respelling.text respelling.line = error.map respelling.text respelling.line

namespace Respells

variable {respelling : Respelling} {token other : Token} (respells : token.Respells respelling other)

include respells

theorem lex : (ParseError.lex token.line token.text).Respells respelling (.lex other.line other.text) := by
  simp only [Respells, map, respells.same, respells.line]

theorem unexpected (state : String) : (unexpected state token).Respells respelling (.unexpected state other) := by
  simp only [Respells, ParseError.unexpected, map, respells.same, respells.line, respells.kind]

theorem unsupported : (unsupported token).Respells respelling (.unsupported other) := by
  simp only [Respells, ParseError.unsupported, map, respells.same, respells.line]

theorem not_found (wanted otherWanted : String) (same : respelling.text otherWanted = respelling.text wanted) :
    (notFound wanted token).Respells respelling (.notFound otherWanted other) := by
  simp only [Respells, notFound, map, respells.same, respells.line, same]

end Respells

end ParseError

theorem failed_alike {respelling : Respelling} {error? other? : Option ParseError}
    (alike : Option.Rel (ParseError.Respells respelling) error? other?) : other?.isSome = error?.isSome := by
  cases alike <;> rfl

namespace Parser

variable {V α β State : Type}

structure Respells (respelling : Respelling) (onValue : V → V) (parser other : Parser V) : Prop where
  value : other.value = onValue parser.value
  tokens : List.Forall₂ (Token.Respells respelling) parser.tokens.rest other.tokens.rest
  error : Option.Rel (ParseError.Respells respelling) parser.error? other.error?

-- Two actions end alike: with results that correspond to each other, or with errors.
inductive EndAlike (respelling : Respelling) (onValue : V → V) (same : α → α → Prop) :
    EStateM.Result ParseError (Parser V) α → EStateM.Result ParseError (Parser V) α → Prop where
  | ok (result other : α) (after otherAfter : Parser V) (alike : same result other)
      (respells : after.Respells respelling onValue otherAfter) :
      EndAlike respelling onValue same (.ok result after) (.ok other otherAfter)
  | error (error other : ParseError) (after otherAfter : Parser V) (alike : error.Respells respelling other)
      (respells : after.Respells respelling onValue otherAfter) :
      EndAlike respelling onValue same (.error error after) (.error other otherAfter)

def Alike (respelling : Respelling) (onValue : V → V) (same : α → α → Prop) (action other : ParseM V α) : Prop :=
  ∀ parser otherParser : Parser V, parser.Respells respelling onValue otherParser →
    EndAlike respelling onValue same (action parser) (other otherParser)

def SameToken (respelling : Respelling) (token other : Token) : Prop :=
  token.Respells respelling other ∧ token.kind ≠ .error

variable {respelling : Respelling} {onValue : V → V}

theorem record_respells {parser other : Parser V} {error otherError : ParseError}
    (respells : parser.Respells respelling onValue other) (alike : error.Respells respelling otherError) :
    (parser.record error).Respells respelling onValue (other.record otherError) := by
  obtain ⟨value, tokens, errors⟩ := respells
  obtain ⟨parserValue, parserTokens, parserError?⟩ := parser
  obtain ⟨otherValue, otherTokens, otherError?⟩ := other
  cases errors with
  | none => exact ⟨value, tokens, .some alike⟩
  | some earlier =>
      refine ⟨value, tokens, .some ?_⟩
      simp only [ParseError.Respells, ParseError.join_map] at earlier alike ⊢
      rw [earlier, alike]

theorem alike_pure {same : α → α → Prop} {result other : α} (alike : same result other) :
    Alike respelling onValue same (pure result) (pure other) :=
  fun parser otherParser respells => .ok result other parser otherParser alike respells

theorem alike_throw {same : α → α → Prop} {error other : ParseError} (alike : error.Respells respelling other) :
    Alike respelling onValue same (throw error) (throw other) :=
  fun parser otherParser respells => .error error other parser otherParser alike respells

theorem alike_fail {same : Option α → Option α → Prop} {error other : ParseError}
    (alike : error.Respells respelling other) (none : same none none) :
    Alike respelling onValue same (fail error) (fail other) :=
  fun _ _ respells => .ok _ _ _ _ none (record_respells respells alike)

theorem alike_bind {same : α → α → Prop} {further : β → β → Prop} {action other : ParseM V α}
    {next otherNext : α → ParseM V β} (first : Alike respelling onValue same action other)
    (second : ∀ result otherResult, same result otherResult →
      Alike respelling onValue further (next result) (otherNext otherResult)) :
    Alike respelling onValue further (action >>= next) (other >>= otherNext) := by
  intro parser otherParser respells
  change EndAlike respelling onValue further (EStateM.bind action next parser) (EStateM.bind other otherNext otherParser)
  unfold EStateM.bind
  have both := first parser otherParser respells
  generalize action parser = outcome at both
  generalize other otherParser = otherOutcome at both
  cases both with
  | ok result otherResult after otherAfter alike respells => exact second result otherResult alike after otherAfter respells
  | error error otherError after otherAfter alike respells => exact .error error otherError after otherAfter alike respells

theorem checked_alike {token other : Token} {after otherAfter : Parser V} (same : token.Respells respelling other)
    (respells : after.Respells respelling onValue otherAfter) :
    EndAlike respelling onValue (SameToken respelling)
      (match checked token with
      | .ok token => .ok token after
      | .error error => .error error after)
      (match checked other with
      | .ok token => .ok token otherAfter
      | .error error => .error error otherAfter) := by
  by_cases broken : token.kind = .error
  · have otherBroken : other.kind = .error := same.kind.trans broken
    simp only [checked, if_pos broken, if_pos otherBroken]
    exact .error _ _ _ _ (.lex same) respells
  · have otherReadable : ¬ other.kind = .error := same.kind ▸ broken
    simp only [checked, if_neg broken, if_neg otherReadable]
    exact .ok _ _ _ _ ⟨same, broken⟩ respells

theorem alike_next : Alike respelling onValue (SameToken respelling) next next := by
  intro parser otherParser respells
  obtain ⟨value, ⟨rest, consumed⟩, error?⟩ := parser
  obtain ⟨otherValue, ⟨otherRest, otherConsumed⟩, otherError?⟩ := otherParser
  obtain ⟨values, tokens, errors⟩ := respells
  cases tokens with
  | nil => exact .error _ _ _ _ rfl ⟨values, .nil, errors⟩
  | cons same tokens => exact checked_alike same ⟨values, tokens, errors⟩

theorem alike_peek : Alike respelling onValue (SameToken respelling) peek peek := by
  intro parser otherParser respells
  obtain ⟨value, ⟨rest, consumed⟩, error?⟩ := parser
  obtain ⟨otherValue, ⟨otherRest, otherConsumed⟩, otherError?⟩ := otherParser
  obtain ⟨values, tokens, errors⟩ := respells
  cases tokens with
  | nil => exact .error _ _ _ _ rfl ⟨values, .nil, errors⟩
  | cons same tokens => exact checked_alike same ⟨values, .cons same tokens, errors⟩

theorem alike_skip : Alike respelling onValue Eq skip skip :=
  alike_bind alike_next fun _ _ _ => alike_pure rfl

theorem alike_change {update otherUpdate : V → V} (commutes : ∀ value, otherUpdate (onValue value) = onValue (update value)) :
    Alike respelling onValue Eq (change update) (change otherUpdate) := by
  intro parser otherParser respells
  refine .ok () () _ _ rfl ⟨?_, respells.tokens, respells.error⟩
  change otherUpdate otherParser.value = onValue (update parser.value)
  rw [respells.value, commutes]

theorem alike_commit (what : String) {valid otherValid : Bool} {add otherAdd : V → V} (same : otherValid = valid)
    (commutes : ∀ value, otherAdd (onValue value) = onValue (add value)) :
    Alike respelling onValue Eq (commit what valid add) (commit what otherValid otherAdd) := by
  subst same
  cases otherValid with
  | false => exact alike_throw rfl
  | true => exact alike_change commutes

end Parser

namespace Grammar

variable {V State : Type} (grammar : Grammar V State) {respelling : Respelling} {onValue : V → V} {onState : State → State}

theorem run_alike
    (steps : ∀ state, Parser.Alike respelling onValue (fun following? other? => other? = following?.map onState)
      (grammar.step state) (grammar.step (onState state)))
    (state : State) (parser other : Parser V) (respells : parser.Respells respelling onValue other) :
    (grammar.run (onState state) other).value = onValue (grammar.run state parser).value ∧
      Option.Rel (ParseError.Respells respelling) (grammar.run state parser).error?
        (grammar.run (onState state) other).error? := by
  have both := steps state parser other respells
  generalize step : grammar.step state parser = result at both
  generalize otherStep : grammar.step (onState state) other = otherResult at both
  cases both with
  | error error otherError after otherAfter alike respells =>
      rw [grammar.run_of_error _ _ _ _ step, grammar.run_of_error _ _ _ _ otherStep]
      have recorded := Parser.record_respells respells alike
      exact ⟨recorded.value, recorded.error⟩
  | ok following? other? after otherAfter alike respells =>
      subst alike
      cases following? with
      | none =>
          rw [grammar.run_of_none _ _ _ step, grammar.run_of_none _ _ _ otherStep]
          exact ⟨respells.value, respells.error⟩
      | some following =>
          rw [grammar.run_of_some _ _ _ _ step, grammar.run_of_some _ _ _ _ otherStep]
          rw [failed_alike respells.error]
          split
          · exact ⟨respells.value, respells.error⟩
          · exact run_alike steps following after otherAfter respells
termination_by grammar.distance state parser
decreasing_by exact grammar.step_distance state following parser after step

end Grammar

end SqlOutline
