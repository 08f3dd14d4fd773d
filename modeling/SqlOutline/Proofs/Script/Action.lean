import SqlOutline.Parser.Script

set_option autoImplicit false

namespace SqlOutline

namespace ParseError

def joinAll? : List ParseError → Option ParseError
  | [] => none
  | error :: rest => some (rest.foldl join error)

theorem join_all_is_some (errors : List ParseError) : (joinAll? errors).isSome = !errors.isEmpty := by
  cases errors <;> rfl

end ParseError

open ParseError (joinAll?)

theorem Parser.record_join_all {V : Type} (value : V) (tokens : Cursor Token) (errors : List ParseError)
    (error : ParseError) :
    (Parser.mk value tokens (joinAll? errors)).record error = ⟨value, tokens, joinAll? (errors ++ [error])⟩ := by
  cases errors with
  | nil => rfl
  | cons first rest => simp [record, joinAll?, List.foldl_append]

def Parser.answered {V α : Type} (after : Parser V) : Except ParseError α → EStateM.Result ParseError (Parser V) α
  | .ok value => .ok value after
  | .error error => .error error after

theorem Parser.answered_map {V α β : Type} {action : ParseM V α} {before after : Parser V} {answer : Except ParseError α}
    (convert : α → β) (done : action before = after.answered answer) :
    (do return convert (← action)) before = after.answered (answer.map convert) := by
  change EStateM.bind action _ before = _
  rw [EStateM.bind, done]
  cases answer <;> rfl

namespace Action

-- What the next of the tokens gives to whoever asks for it.
def seen : List Token → Except ParseError Token
  | [] => .error .noToken
  | token :: _ => if token.kind = .error then .error (.lex token.line token.text) else .ok token

-- The answer to an action, where an error may have been recorded before it.
def reply (tokens : List Token) (failed : Bool) : Action → Except ParseError Reply
  | .next | .peek => (seen tokens).map .token
  | .skip => (seen tokens).map fun _ => .skipped
  | .hasError => .ok (.flag failed)
  | .fail _ => .ok (.flag true)
  | .commit item what => if item.isValid then .ok .committed else .error (.invalidValue what)

-- The tokens that are left. One that stands for an error of the text is taken like any other.
def rest (tokens : List Token) : Action → List Token
  | .next | .skip => tokens.tail
  | .peek | .hasError | .fail _ | .commit _ _ => tokens

def items : Action → List Item
  | .commit item _ => if item.isValid then [item] else []
  | .next | .peek | .skip | .hasError | .fail _ => []

def errors : Action → List ParseError
  | .fail error => [error]
  | .next | .peek | .skip | .hasError | .commit _ _ => []

variable {V : Type} (add : Item → V → V) (value : V) (tokens : List Token) (consumed : Nat) (recorded : List ParseError)

def after (action : Action) : Parser V where
  value := action.items.foldl (fun value item => add item value) value
  tokens := ⟨action.rest tokens, consumed + (tokens.length - (action.rest tokens).length)⟩
  error? := joinAll? (recorded ++ action.errors)

section

variable (error? : Option ParseError)

theorem next_answered :
    (Parser.next : ParseM V Token) ⟨value, ⟨tokens, consumed⟩, error?⟩ =
      (Parser.mk value ⟨tokens.tail, consumed + (tokens.length - tokens.tail.length)⟩ error?).answered (seen tokens) := by
  cases tokens with
  | nil => rfl
  | cons token rest =>
      by_cases broken : token.kind = .error
      · simp [Parser.next, Cursor.next?, Parser.checked, seen, broken, Parser.answered]
      · simp [Parser.next, Cursor.next?, Parser.checked, seen, broken, Parser.answered]

theorem peek_answered :
    (Parser.peek : ParseM V Token) ⟨value, ⟨tokens, consumed⟩, error?⟩ =
      (Parser.mk value ⟨tokens, consumed⟩ error?).answered (seen tokens) := by
  cases tokens with
  | nil => rfl
  | cons token rest =>
      by_cases broken : token.kind = .error
      · simp [Parser.peek, Cursor.peek?, Parser.checked, seen, broken, Parser.answered]
      · simp [Parser.peek, Cursor.peek?, Parser.checked, seen, broken, Parser.answered]

end

theorem perform_answered (action : Action) :
    action.perform add ⟨value, ⟨tokens, consumed⟩, joinAll? recorded⟩ =
      (action.after add value tokens consumed recorded).answered (action.reply tokens (!recorded.isEmpty)) := by
  cases action with
  | next =>
      simp only [after, items, rest, errors, List.append_nil, List.foldl_nil]
      exact Parser.answered_map Reply.token (next_answered value tokens consumed (joinAll? recorded))
  | peek =>
      simp only [after, items, rest, errors, List.append_nil, List.foldl_nil, Nat.sub_self, Nat.add_zero]
      exact Parser.answered_map Reply.token (peek_answered value tokens consumed (joinAll? recorded))
  | skip =>
      simp only [after, items, rest, errors, List.append_nil, List.foldl_nil]
      have taken := next_answered value tokens consumed (joinAll? recorded)
      have skipped := Parser.answered_map (fun _ => Reply.skipped) (Parser.answered_map (fun _ => ()) taken)
      have same : (((seen tokens).map fun _ => ()).map fun _ => Reply.skipped) = (seen tokens).map fun _ => .skipped := by
        cases seen tokens <;> rfl
      rw [same] at skipped
      exact skipped
  | hasError =>
      simp only [after, items, rest, errors, List.append_nil, List.foldl_nil, Nat.sub_self, Nat.add_zero, reply,
        ← ParseError.join_all_is_some]
      rfl
  | fail error =>
      simp only [after, items, rest, errors, List.foldl_nil, Nat.sub_self, Nat.add_zero, ← Parser.record_join_all]
      rfl
  | commit item what =>
      simp only [after, rest, errors, List.append_nil, Nat.sub_self, Nat.add_zero, perform, reply, items]
      cases item.isValid <;> rfl

end Action

end SqlOutline
