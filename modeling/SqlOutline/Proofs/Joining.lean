import SqlOutline.Proofs.Script.Action

set_option autoImplicit false

namespace SqlOutline

namespace ParseError

theorem join_errors (first second : ParseError) : (first.join second).errors = first.errors ++ second.errors :=
  rfl

theorem join_assoc (first second third : ParseError) :
    (first.join second).join third = first.join (second.join third) := by
  simp only [join, errors, List.append_assoc]

theorem messages_eq_map (errors : List ParseError) : messages errors = errors.map message := by
  induction errors with
  | nil => rfl
  | cons error rest ih => rw [messages, ih, List.map_cons]

theorem message_eq (error : ParseError) : error.message = "\n".intercalate (error.errors.map message) := by
  cases error with
  | multiple errors =>
      have shown : (multiple errors).message = "\n".intercalate (messages errors) := rfl
      rw [shown, messages_eq_map, ParseError.errors]
  | lex | noToken | unexpectedToken | unsupportedKeyword | ambiguousIdentifier | invalidValue | expected =>
      simp only [errors, List.map_cons, List.map_nil, String.intercalate_singleton]

theorem join_message (first second : ParseError) (someFirst : first.errors ≠ []) (someSecond : second.errors ≠ []) :
    (first.join second).message = first.message ++ "\n" ++ second.message := by
  have firstLines : first.errors.map message ≠ [] := fun none => someFirst (List.map_eq_nil_iff.mp none)
  have secondLines : second.errors.map message ≠ [] := fun none => someSecond (List.map_eq_nil_iff.mp none)
  rw [message_eq (first.join second), join_errors, List.map_append,
    String.intercalate_append_of_ne_nil firstLines secondLines, ← message_eq, ← message_eq]

-- An error contains itself, and what its errors contain, to whatever depth.
inductive Contains : ParseError → ParseError → Prop where
  | self (error : ParseError) : Contains error error
  | entry (errors : List ParseError) (part inner : ParseError) (member : part ∈ errors) (contains : Contains part inner) :
      Contains (.multiple errors) inner

def IsNested (error : ParseError) : Prop :=
  ∃ outer inner, error.Contains (.multiple outer) ∧ ∃ part ∈ outer, part.Contains (.multiple inner)

theorem Contains.of_multiple {error : ParseError} {inner : List ParseError} (contains : error.Contains (.multiple inner)) :
    ∃ errors, error = .multiple errors := by
  cases contains with
  | self => exact ⟨inner, rfl⟩
  | entry errors => exact ⟨errors, rfl⟩

theorem is_nested_iff (error : ParseError) : error.IsNested ↔ ∃ inner, .multiple inner ∈ error.errors := by
  constructor
  · rintro ⟨outer, inner, contains, part, member, deeper⟩
    cases contains with
    | self =>
        obtain ⟨errors, rfl⟩ := deeper.of_multiple
        exact ⟨errors, member⟩
    | entry errors top _ listed below =>
        obtain ⟨others, rfl⟩ := below.of_multiple
        exact ⟨others, listed⟩
  · rintro ⟨inner, listed⟩
    cases error with
    | multiple errors => exact ⟨errors, inner, .self _, _, listed, .self _⟩
    | lex | noToken | unexpectedToken | unsupportedKeyword | ambiguousIdentifier | invalidValue | expected =>
        simp [errors] at listed

end ParseError

open ParseError (joinAll?)

-- A way to join errors, two at a time.
inductive Joining where
  | single (error : ParseError)
  | pair (front back : Joining)

namespace Joining

def inputs : Joining → List ParseError
  | .single error => [error]
  | .pair front back => front.inputs ++ back.inputs

def outcome : Joining → ParseError
  | .single error => error
  | .pair front back => front.outcome.join back.outcome

theorem outcome_errors (joining : Joining) : joining.outcome.errors = joining.inputs.flatMap ParseError.errors := by
  induction joining with
  | single error => exact (List.flatMap_singleton ParseError.errors error).symm
  | pair front back first second =>
      rw [outcome, ParseError.join_errors, first, second, inputs, List.flatMap_append]

theorem outcome_eq (joining : Joining) (several : 2 ≤ joining.inputs.length) :
    joining.outcome = .multiple (joining.inputs.flatMap ParseError.errors) := by
  cases joining with
  | single error => simp [inputs] at several
  | pair front back => exact congrArg ParseError.multiple (outcome_errors (.pair front back))

theorem outcome_nested_iff (joining : Joining) :
    joining.outcome.IsNested ↔ ∃ error ∈ joining.inputs, error.IsNested := by
  simp only [ParseError.is_nested_iff, outcome_errors, List.mem_flatMap]
  constructor
  · rintro ⟨inner, error, member, listed⟩
    exact ⟨error, member, inner, listed⟩
  · rintro ⟨error, member, inner, listed⟩
    exact ⟨inner, error, member, listed⟩

def onto (joining : Joining) (errors : List ParseError) : Joining :=
  errors.foldl (fun joined error => .pair joined (.single error)) joining

theorem onto_inputs (errors : List ParseError) (joining : Joining) :
    (joining.onto errors).inputs = joining.inputs ++ errors := by
  induction errors generalizing joining with
  | nil => exact (List.append_nil _).symm
  | cons error rest ih => exact (ih _).trans (List.append_assoc _ _ _)

theorem onto_outcome (errors : List ParseError) (joining : Joining) :
    (joining.onto errors).outcome = errors.foldl ParseError.join joining.outcome := by
  induction errors generalizing joining with
  | nil => rfl
  | cons error rest ih => exact ih _

end Joining

theorem ParseError.join_all_several (errors : List ParseError) (several : 2 ≤ errors.length) :
    joinAll? errors = some (.multiple (errors.flatMap ParseError.errors)) := by
  cases errors with
  | nil => contradiction
  | cons first rest =>
      have inputs : ((Joining.single first).onto rest).inputs = first :: rest := Joining.onto_inputs rest _
      have joined := Joining.outcome_eq ((Joining.single first).onto rest) (inputs ▸ several)
      rw [inputs, Joining.onto_outcome] at joined
      exact congrArg some joined

theorem Parser.record_all {V : Type} (value : V) (tokens : Cursor Token) (errors earlier : List ParseError) :
    errors.foldl Parser.record ⟨value, tokens, joinAll? earlier⟩ = ⟨value, tokens, joinAll? (earlier ++ errors)⟩ := by
  induction errors generalizing earlier with
  | nil => rw [List.append_nil]; rfl
  | cons error rest ih => rw [List.foldl_cons, Parser.record_join_all, ih, List.append_assoc, List.singleton_append]

-- Joining keeps every error and its place, and makes no deeper nesting. A parser that records several errors joins them
-- one by one, which is one way among the others.
theorem joining_keeps_errors :
    (∀ first second : ParseError, (first.join second).errors = first.errors ++ second.errors) ∧
      (∀ first second third : ParseError, (first.join second).join third = first.join (second.join third)) ∧
      (∀ joining : Joining, 2 ≤ joining.inputs.length →
        joining.outcome = .multiple (joining.inputs.flatMap ParseError.errors)) ∧
      (∀ joining : Joining, (∀ error ∈ joining.inputs, ¬ error.IsNested) → ¬ joining.outcome.IsNested) ∧
      (∀ first second : ParseError, first.errors ≠ [] → second.errors ≠ [] →
        (first.join second).message = first.message ++ "\n" ++ second.message) ∧
      ∀ (V : Type) (parser : Parser V) (errors : List ParseError), parser.error? = none → 2 ≤ errors.length →
        (errors.foldl Parser.record parser).error? = some (.multiple (errors.flatMap ParseError.errors)) := by
  refine ⟨ParseError.join_errors, ParseError.join_assoc, Joining.outcome_eq, ?_, ParseError.join_message, ?_⟩
  · intro joining flat nested
    obtain ⟨error, member, deep⟩ := joining.outcome_nested_iff.mp nested
    exact flat error member deep
  · rintro V ⟨value, tokens, _⟩ errors rfl several
    have recorded : errors.foldl Parser.record ⟨value, tokens, none⟩ = ⟨value, tokens, joinAll? errors⟩ :=
      Parser.record_all value tokens errors []
    rw [recorded, ParseError.join_all_several errors several]

theorem joining_keeps_errors_nested :
    (∃ joining : Joining, joining.inputs = [.noToken, .multiple [.multiple [], .noToken], .multiple []] ∧
      2 ≤ joining.inputs.length ∧ joining.outcome = .multiple [.noToken, .multiple [], .noToken]) ∧
    (∃ joining : Joining, joining.inputs = [.multiple [.noToken, .noToken], .invalidValue "table"] ∧
      (∀ error ∈ joining.inputs, ¬ error.IsNested) ∧ ¬ joining.outcome.IsNested) ∧
    (∃ first : ParseError, first.errors = [.multiple [.noToken, .invalidValue "table"], .noToken] ∧
      (first.join (.invalidValue "column")).message = first.message ++ "\n" ++ "invalid column") ∧
    ([ParseError.noToken, .multiple [.noToken]].foldl Parser.record (Parser.ofTokens () [])).error? =
      some (.multiple [.noToken, .noToken]) := by
  obtain ⟨_, _, grouped, flat, shown, recorded⟩ := joining_keeps_errors
  refine ⟨?_, ?_, ?_, recorded Unit _ _ rfl (by decide)⟩
  · let back := Joining.pair (.single (.multiple [.multiple [], .noToken])) (.single (.multiple []))
    exact ⟨.pair (.single .noToken) back, rfl, by decide, grouped _ (by decide)⟩
  · have inputs : ∀ error ∈ [ParseError.multiple [.noToken, .noToken], .invalidValue "table"], ¬ error.IsNested := by
      simp [ParseError.is_nested_iff, ParseError.errors]
    exact ⟨.pair (.single (.multiple [.noToken, .noToken])) (.single (.invalidValue "table")), rfl, inputs, flat _ inputs⟩
  · refine ⟨.multiple [.multiple [.noToken, .invalidValue "table"], .noToken], rfl, shown _ (.invalidValue "column") ?_ ?_⟩
    · exact List.cons_ne_nil _ _
    · exact List.cons_ne_nil _ _

end SqlOutline
