import SqlOutline.Proofs.Script.Action

set_option autoImplicit false

namespace SqlOutline

open ParseError (joinAll?)

inductive TokenRequest where
  | next
  | peek
  | skip
deriving DecidableEq

namespace TokenRequest

def answer (token? : Option Token) : TokenRequest → Except ParseError Reply
  | .next | .peek => (Action.seen token?.toList).map .token
  | .skip => (Action.seen token?.toList).map fun _ => .skipped

-- The index goes on to the next token while there are tokens left, also over one that stands for an error.
def advance (tokens : List Token) (index : Nat) : TokenRequest → Nat
  | .next | .skip => if index < tokens.length then index + 1 else index
  | .peek => index

def read (tokens : List Token) : Nat → List TokenRequest → List (Except ParseError Reply) × Nat
  | index, [] => ([], index)
  | index, request :: rest =>
      let result := read tokens (request.advance tokens index) rest
      (request.answer tokens[index]? :: result.1, result.2)

end TokenRequest

namespace Action

def request? : Action → Option TokenRequest
  | .next => some .next
  | .peek => some .peek
  | .skip => some .skip
  | .hasError | .fail _ | .commit _ _ => none

def records : Action → Bool
  | .fail _ => true
  | .next | .peek | .skip | .hasError | .commit _ _ => false

def answersToRequests (actions : List Action) (answers : List (Except ParseError Reply)) : List (Except ParseError Reply) :=
  ((actions.zip answers).filter fun entry => entry.1.request?.isSome).map Prod.snd

def replies : List Action → List Token → Bool → List (Except ParseError Reply)
  | [], _, _ => []
  | action :: others, tokens, failed =>
      action.reply tokens failed :: replies others (action.rest tokens) (failed || action.records)

def left (tokens : List Token) (actions : List Action) : List Token :=
  actions.foldl (fun tokens action => action.rest tokens) tokens

theorem rest_suffix (tokens : List Token) (action : Action) : action.rest tokens <:+ tokens := by
  cases action with
  | next | skip => exact List.tail_suffix tokens
  | peek | hasError | fail | commit => exact List.suffix_refl tokens

theorem left_suffix (tokens : List Token) (actions : List Action) : left tokens actions <:+ tokens := by
  induction actions generalizing tokens with
  | nil => exact List.suffix_refl tokens
  | cons action others ih => exact (ih (action.rest tokens)).trans (action.rest_suffix tokens)

section Perform

variable {V : Type} (add : Item → V → V)

theorem perform_all_cons (action : Action) (others : List Action) (before after : Parser V)
    (answer : Except ParseError Reply) (done : action.perform add before = after.answered answer) :
    performAll add (action :: others) before =
      (answer :: (performAll add others after).1, (performAll add others after).2) := by
  cases answer <;> simp only [performAll, done, Parser.answered]

theorem perform_all_answered (actions : List Action) (value : V) (tokens : List Token) (consumed : Nat)
    (recorded : List ParseError) :
    performAll add actions ⟨value, ⟨tokens, consumed⟩, joinAll? recorded⟩ =
      (replies actions tokens (!recorded.isEmpty),
        ⟨(actions.flatMap items).foldl (fun value item => add item value) value,
          ⟨left tokens actions, consumed + (tokens.length - (left tokens actions).length)⟩,
          joinAll? (recorded ++ actions.flatMap errors)⟩) := by
  induction actions generalizing value tokens consumed recorded with
  | nil => simp [performAll, replies, left]
  | cons action others ih =>
      have failed : (!(recorded ++ action.errors).isEmpty) = (!recorded.isEmpty || action.records) := by
        cases recorded <;> cases action <;> rfl
      have shorter := (action.rest_suffix tokens).length_le
      have further := (left_suffix (action.rest tokens) others).length_le
      have counted : consumed + (tokens.length - (action.rest tokens).length) +
          ((action.rest tokens).length - (left (action.rest tokens) others).length) =
            consumed + (tokens.length - (left (action.rest tokens) others).length) := by
        omega
      rw [perform_all_cons add action others _ _ _ (action.perform_answered add value tokens consumed recorded), after, ih,
        failed, counted, List.flatMap_cons, List.flatMap_cons, List.foldl_append, List.append_assoc]
      rfl

end Perform

theorem replies_length (actions : List Action) (tokens : List Token) (failed : Bool) :
    (replies actions tokens failed).length = actions.length := by
  induction actions generalizing tokens failed with
  | nil => rfl
  | cons action others ih => rw [replies, List.length_cons, List.length_cons, ih]

theorem replies_get (front back : List Action) (action : Action) (tokens : List Token) (failed : Bool) :
    (replies (front ++ action :: back) tokens failed)[front.length]? =
      some (action.reply (left tokens front) (failed || front.any records)) := by
  induction front generalizing tokens failed with
  | nil => simp [replies, left]
  | cons first front ih => simp [replies, left, ih, Bool.or_assoc]

section Requests

variable (all : List Token) (index : Nat)

theorem seen_drop : seen (all.drop index) = seen all[index]?.toList := by
  rw [← List.head?_drop]
  cases all.drop index <;> rfl

theorem tail_drop : (all.drop index).tail = all.drop (if index < all.length then index + 1 else index) := by
  rw [List.tail_drop]
  split
  · rfl
  · rename_i ended
    rw [List.drop_eq_nil_of_le (Nat.le_of_not_lt ended), List.drop_eq_nil_of_le (by omega)]

theorem reply_of_request (action : Action) (request : TokenRequest) (asks : action.request? = some request)
    (failed : Bool) :
    action.reply (all.drop index) failed = request.answer all[index]? ∧
      action.rest (all.drop index) = all.drop (request.advance all index) := by
  cases action with
  | next =>
      cases asks
      exact ⟨congrArg (Except.map Reply.token) (seen_drop all index), tail_drop all index⟩
  | peek =>
      cases asks
      exact ⟨congrArg (Except.map Reply.token) (seen_drop all index), rfl⟩
  | skip =>
      cases asks
      exact ⟨congrArg (Except.map fun _ => Reply.skipped) (seen_drop all index), tail_drop all index⟩
  | hasError | fail | commit => cases asks

theorem rest_of_other (action : Action) (other : action.request? = none) (tokens : List Token) :
    action.rest tokens = tokens := by
  cases action with
  | next | peek | skip => cases other
  | hasError | fail | commit => rfl

theorem replies_to_requests (actions : List Action) (failed : Bool) :
    answersToRequests actions (replies actions (all.drop index) failed) =
        (TokenRequest.read all index (actions.filterMap request?)).1 ∧
      left (all.drop index) actions = all.drop (TokenRequest.read all index (actions.filterMap request?)).2 := by
  induction actions generalizing index failed with
  | nil => exact ⟨rfl, rfl⟩
  | cons action others ih =>
      cases asks : action.request? with
      | none =>
          obtain ⟨answers, rest⟩ := ih index (failed || action.records)
          rw [List.filterMap_cons_none asks, replies, left, List.foldl_cons, rest_of_other action asks]
          refine ⟨?_, rest⟩
          rw [← answers]
          simp [answersToRequests, asks]
      | some request =>
          obtain ⟨answer, after⟩ := reply_of_request all index action request asks failed
          obtain ⟨answers, rest⟩ := ih (request.advance all index) (failed || action.records)
          rw [List.filterMap_cons_some asks, replies, left, List.foldl_cons, answer, after, TokenRequest.read]
          refine ⟨?_, rest⟩
          rw [← answers]
          simp [answersToRequests, asks]

end Requests

end Action

theorem TokenRequest.read_bounded (tokens : List Token) (index : Nat) (requests : List TokenRequest)
    (bounded : index ≤ tokens.length) :
    (TokenRequest.read tokens index requests).2 ≤ tokens.length := by
  induction requests generalizing index with
  | nil => exact bounded
  | cons request rest ih =>
      refine ih _ ?_
      cases request with
      | peek => exact bounded
      | next | skip =>
          simp only [advance]
          split <;> omega

namespace Action

variable {V : Type}

-- Requests read the tokens by an index that nothing else moves, the value comes from the valid items that were
-- committed, and the error from those that were recorded and from no other.
theorem perform_all_independent (add : Item → V → V) (value : V) (tokens : List Token) (actions : List Action) :
    (performAll add actions (Parser.ofTokens value tokens)).1.length = actions.length ∧
    answersToRequests actions (performAll add actions (Parser.ofTokens value tokens)).1 =
      (TokenRequest.read tokens 0 (actions.filterMap request?)).1 ∧
    (performAll add actions (Parser.ofTokens value tokens)).2.tokens.consumed =
      (TokenRequest.read tokens 0 (actions.filterMap request?)).2 ∧
    (performAll add actions (Parser.ofTokens value tokens)).2.value =
      (actions.flatMap items).foldl (fun value item => add item value) value ∧
    (performAll add actions (Parser.ofTokens value tokens)).2.error? = joinAll? (actions.flatMap errors) ∧
    ∀ front back, (performAll add (front ++ .hasError :: back) (Parser.ofTokens value tokens)).1[front.length]? =
      some (.ok (.flag (front.any records))) := by
  have performed (actions : List Action) := perform_all_answered add actions value tokens 0 []
  have start : Parser.ofTokens value tokens = ⟨value, ⟨tokens, 0⟩, joinAll? []⟩ := rfl
  obtain ⟨answers, rest⟩ := replies_to_requests tokens 0 actions false
  have bounded := TokenRequest.read_bounded tokens 0 (actions.filterMap request?) (Nat.zero_le _)
  rw [List.drop_zero] at answers rest
  rw [start, performed]
  refine ⟨replies_length actions tokens _, answers, ?_, rfl, rfl, fun front back => ?_⟩
  · simp only [rest, List.length_drop, Nat.zero_add]
    omega
  · rw [performed, replies_get]
    rfl

theorem perform_all_independent_unread :
    let tokens : List Token := [⟨.identifier, "a", 1⟩, ⟨.error, "unterminated backtick", 2⟩, ⟨.comma, ",", 2⟩]
    let actions : List Action := [.hasError, .next, .commit (.text "a") "word", .peek, .fail .noToken, .next,
      .commit (.table {}) "table", .hasError, .skip, .fail (.invalidValue "word"), .next]
    let performed := performAll (fun item items => items ++ [item]) actions (Parser.ofTokens ([] : List Item) tokens)
    performed.1.length = 11 ∧
    answersToRequests actions performed.1 =
      [.ok (.token ⟨.identifier, "a", 1⟩), .error (.lex 2 "unterminated backtick"),
        .error (.lex 2 "unterminated backtick"), .ok .skipped, .error .noToken] ∧
    performed.2.tokens.consumed = 3 ∧ performed.2.value = [.text "a"] ∧
    performed.2.error? = some (.multiple [.noToken, .invalidValue "word"]) ∧
    performed.1[0]? = some (.ok (.flag false)) ∧ performed.1[7]? = some (.ok (.flag true)) := by
  intro tokens actions performed
  obtain ⟨answered, answers, consumed, value, error, flags⟩ :=
    perform_all_independent (fun item items => items ++ [item]) ([] : List Item) tokens actions
  exact ⟨answered, answers, consumed, value, error, flags [] (actions.drop 1), flags (actions.take 7) (actions.drop 8)⟩

end Action

end SqlOutline
