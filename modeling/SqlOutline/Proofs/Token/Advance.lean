import SqlOutline.Proofs.Token.Boundary
import SqlOutline.Proofs.Token.Recognition

set_option autoImplicit false

namespace SqlOutline

def Place.after (place : Place) (gap : List Char) : Place :=
  if gap = [] then place else .gap

theorem Place.after_of_empty_iff (place : Place) (gap other : List Char) (empty : other = [] ↔ gap = []) :
    place.after other = place.after gap := by
  simp only [after, empty]

namespace Lexeme

-- In a chain a word or a dot is taken for a part of the chain.
def readAt (place : Place) (input : List Char) : Except LexError Lexeme :=
  match place with
  | .chain =>
      match readDotted? input with
      | some lexeme => .ok lexeme
      | none => read input
  | _ => read input

theorem read_at_of_dotted (input : List Char) (lexeme : Lexeme) (dotted : readDotted? input = some lexeme) :
    readAt .chain input = .ok lexeme := by
  simp only [readAt, dotted]

theorem read_at_of_undotted (place : Place) (input : List Char) (undotted : place = .chain → readDotted? input = none) :
    readAt place input = read input := by
  cases place with
  | gap => rfl
  | finished => rfl
  | chain => simp only [readAt, undotted rfl]

theorem dotted_none_iff (c : Char) (rest : List Char) : readDotted? (c :: rest) = none ↔ c ≠ '.' ∧ isWordChar c = false := by
  by_cases dot : c = '.'
  · simp [readDotted?, dot]
  · simp [readDotted?, dot]

theorem read_at_cases (place : Place) (input : List Char) (lexeme : Lexeme) (accepted : readAt place input = .ok lexeme) :
    (place = .chain ∧ readDotted? input = some lexeme) ∨
      ((place = .chain → readDotted? input = none) ∧ Reads input lexeme) := by
  cases place with
  | gap => exact .inr ⟨nofun, reads_of_read input lexeme accepted⟩
  | finished => exact .inr ⟨nofun, reads_of_read input lexeme accepted⟩
  | chain =>
      cases dotted : readDotted? input with
      | some found =>
          rw [read_at_of_dotted input found dotted] at accepted
          exact .inl ⟨rfl, congrArg some (Except.ok.inj accepted)⟩
      | none =>
          rw [read_at_of_undotted .chain input fun _ => dotted] at accepted
          exact .inr ⟨fun _ => rfl, reads_of_read input lexeme accepted⟩

theorem read_at_append (place : Place) (input : List Char) (lexeme : Lexeme) (accepted : readAt place input = .ok lexeme) :
    lexeme.text ++ lexeme.rest = input := by
  rcases read_at_cases place input lexeme accepted with ⟨_, dotted⟩ | ⟨_, reads⟩
  · exact read_dotted_append input lexeme dotted
  · exact reads.append

theorem read_at_token (place : Place) (input : List Char) (lexeme : Lexeme) (accepted : readAt place input = .ok lexeme) :
    lexeme.IsToken ∨ input = [] ∧ lexeme = ⟨.endOfInput, [], [], .finished⟩ := by
  rcases read_at_cases place input lexeme accepted with ⟨_, dotted⟩ | ⟨_, reads⟩
  · exact .inl (dotted_token input lexeme dotted)
  · exact reads_token input lexeme reads

theorem read_at_boundary (place : Place) (input other : List Char) (lexeme : Lexeme)
    (accepted : readAt place input = .ok lexeme) (isToken : lexeme.IsToken) (stays : lexeme.StaysBefore other) :
    readAt place (lexeme.text ++ other) = .ok { lexeme with rest := other } := by
  rcases read_at_cases place input lexeme accepted with ⟨rfl, dotted⟩ | ⟨undotted, reads⟩
  · exact read_at_of_dotted _ _ (dotted_boundary input other lexeme dotted stays)
  · have still : place = .chain → readDotted? (lexeme.text ++ other) = none := by
      intro chain
      have none := undotted chain
      obtain ⟨c, text, written⟩ := List.exists_cons_of_ne_nil isToken.written
      rw [← reads.append, written, List.cons_append, dotted_none_iff] at none
      rw [written, List.cons_append, dotted_none_iff]
      exact none
    rw [read_at_of_undotted place _ still]
    exact read_of_reads _ _ (reads_boundary input other lexeme reads isToken stays)

theorem pending_of_read_at (place : Place) (input : List Char) (lexeme : Lexeme)
    (accepted : readAt place input = .ok lexeme) : Pending input := by
  rcases read_at_cases place input lexeme accepted with ⟨_, dotted⟩ | ⟨_, reads⟩
  · obtain ⟨rest, rfl, _⟩ | ⟨c, rest, rfl, member, _⟩ := (read_dotted_iff input lexeme).mp dotted
    · exact first_holds '.' rest (by decide)
    · exact first_holds c rest (word_char_not_blank c member)
  · exact pending_of_reads input lexeme reads

end Lexeme

theorem blanks_unique (gap other pending rest : List Char) (blank : Blank gap) (otherBlank : Blank other)
    (starts : Pending pending) (otherStarts : Pending rest) (same : gap ++ pending = other ++ rest) :
    gap = other ∧ pending = rest := by
  obtain ⟨front, back⟩ := Lexeme.take_while_members isBlank gap pending blank starts
  obtain ⟨otherFront, otherBack⟩ := Lexeme.take_while_members isBlank other rest otherBlank otherStarts
  rw [same] at front back
  exact ⟨front.symm.trans otherFront, back.symm.trans otherBack⟩

namespace Lexer

def conclude (line : Nat) (pending : List Char) : Except LexError Lexeme → Token × Lexer
  | .ok lexeme => emit line lexeme
  | .error cause => halt line pending cause

theorem after_blanks_of_gap (line : Nat) (gap pending : List Char) (blank : Blank gap) (starts : Pending pending) :
    afterBlanks line (gap ++ pending) = conclude (line + newlines gap) pending (Lexeme.read pending) := by
  obtain ⟨front, back⟩ := Lexeme.take_while_members isBlank gap pending blank starts
  simp only [afterBlanks, front, back]
  cases Lexeme.read pending <;> rfl

theorem next_of_gap (line : Nat) (place : Place) (gap pending : List Char) (unfinished : place ≠ .finished)
    (blank : Blank gap) (starts : Pending pending) :
    next? ⟨gap ++ pending, line, place⟩ =
      some (conclude (line + newlines gap) pending (Lexeme.readAt (place.after gap) pending)) := by
  cases place with
  | finished => contradiction
  | gap =>
      have same : Place.after .gap gap = .gap := by simp [Place.after]
      rw [same]
      exact congrArg some (after_blanks_of_gap line gap pending blank starts)
  | chain =>
      cases gap with
      | nil =>
          have skipped := after_blanks_of_gap line [] pending nofun starts
          cases dotted : Lexeme.readDotted? pending with
          | some lexeme => simp [next?, Place.after, Lexeme.readAt, dotted, conclude, newlines]
          | none => simpa [next?, Place.after, Lexeme.readAt, dotted] using skipped
      | cons c gap =>
          have plain : ∀ c, isBlank c = true → c ≠ '.' ∧ isWordChar c = false := forall_blank (by decide)
          have undotted := (Lexeme.dotted_none_iff c (gap ++ pending)).mpr (plain c (blank c List.mem_cons_self))
          simp only [next?, List.cons_append, undotted]
          exact congrArg some (after_blanks_of_gap line (c :: gap) pending blank starts)

structure Takes (place : Place) (gap : List Char) (lexeme : Lexeme) : Prop where
  unfinished : place ≠ .finished
  blank : Blank gap
  accepted : Lexeme.readAt (place.after gap) (lexeme.text ++ lexeme.rest) = .ok lexeme
  isToken : lexeme.IsToken

structure Fails (place : Place) (gap tail : List Char) (cause : LexError) : Prop where
  unfinished : place ≠ .finished
  blank : Blank gap
  starts : Pending tail
  failed : Lexeme.readAt (place.after gap) tail = .error cause

theorem Takes.replaced {place : Place} {gap : List Char} {lexeme : Lexeme} (takes : Takes place gap lexeme)
    (otherGap other : List Char) (blank : Blank otherGap) (empty : otherGap = [] ↔ gap = [])
    (stays : lexeme.StaysBefore other) : Takes place otherGap { lexeme with rest := other } where
  unfinished := takes.unfinished
  blank := blank
  accepted := by
    rw [place.after_of_empty_iff gap otherGap empty]
    exact Lexeme.read_at_boundary _ _ other lexeme takes.accepted takes.isToken stays
  isToken := ⟨takes.isToken.readable, takes.isToken.inside, takes.isToken.unfinished, takes.isToken.written⟩

theorem Fails.replaced {place : Place} {gap tail : List Char} {cause : LexError} (fails : Fails place gap tail cause)
    (otherGap : List Char) (blank : Blank otherGap) (empty : otherGap = [] ↔ gap = []) : Fails place otherGap tail cause where
  unfinished := fails.unfinished
  blank := blank
  starts := fails.starts
  failed := by
    rw [place.after_of_empty_iff gap otherGap empty]
    exact fails.failed

section Tokens

variable (line : Nat) {place : Place} {gap : List Char}

theorem tokens_of_takes {lexeme : Lexeme} (takes : Takes place gap lexeme) :
    tokens ⟨gap ++ (lexeme.text ++ lexeme.rest), line, place⟩ =
      ⟨lexeme.kind, String.ofList lexeme.text, line + newlines gap + newlines lexeme.text⟩ ::
        tokens ⟨lexeme.rest, line + newlines gap + newlines lexeme.text, lexeme.next⟩ := by
  have starts := Lexeme.pending_of_read_at _ _ _ takes.accepted
  apply tokens_of_some
  rw [next_of_gap line place gap _ takes.unfinished takes.blank starts, takes.accepted]
  rfl

theorem tokens_of_end (unfinished : place ≠ .finished) (blank : Blank gap) :
    tokens ⟨gap, line, place⟩ = [⟨.endOfInput, "", line + newlines gap⟩] := by
  have step := next_of_gap line place gap [] unfinished blank nofun
  have ended : Lexeme.readAt (place.after gap) [] = .ok ⟨.endOfInput, [], [], .finished⟩ :=
    Lexeme.read_at_of_undotted _ [] fun _ => rfl
  rw [List.append_nil, ended] at step
  rw [tokens_of_some _ _ _ step, tokens_of_finished _ rfl]
  rfl

theorem tokens_of_fails {tail : List Char} {cause : LexError} (fails : Fails place gap tail cause) :
    tokens ⟨gap ++ tail, line, place⟩ = [(halt (line + newlines gap) tail cause).1] := by
  have step := next_of_gap line place gap tail fails.unfinished fails.blank fails.starts
  rw [fails.failed] at step
  rw [tokens_of_some _ _ _ step]
  exact congrArg _ (tokens_of_finished _ rfl)

end Tokens

theorem tokens_ne_nil (lexer : Lexer) (unfinished : lexer.place ≠ .finished) : lexer.tokens ≠ [] := by
  obtain ⟨token, following, step⟩ := next_of_unfinished lexer unfinished
  rw [tokens_of_some lexer following token step]
  exact List.cons_ne_nil token following.tokens

theorem advance_cases (input : List Char) (place : Place) (unfinished : place ≠ .finished) :
    (∃ gap lexeme, Takes place gap lexeme ∧ input = gap ++ (lexeme.text ++ lexeme.rest)) ∨
      Blank input ∨ ∃ gap tail cause, Fails place gap tail cause ∧ input = gap ++ tail := by
  have whole := (List.takeWhile_append_dropWhile (p := isBlank) (l := input)).symm
  have blank : Blank (input.takeWhile isBlank) := List.all_eq_true.mp List.all_takeWhile
  have starts := pending_drop_while input
  generalize input.takeWhile isBlank = gap at whole blank
  generalize input.dropWhile isBlank = pending at whole starts
  cases outcome : Lexeme.readAt (place.after gap) pending with
  | error cause => exact .inr (.inr ⟨gap, pending, cause, ⟨unfinished, blank, starts, outcome⟩, whole⟩)
  | ok lexeme =>
      rcases Lexeme.read_at_token _ pending lexeme outcome with isToken | ⟨empty, _⟩
      · have append := Lexeme.read_at_append _ pending lexeme outcome
        rw [← append] at outcome whole
        exact .inl ⟨gap, lexeme, ⟨unfinished, blank, outcome, isToken⟩, whole⟩
      · rw [empty, List.append_nil] at whole
        exact .inr (.inl (whole ▸ blank))

theorem advance_induction {holds : Lexer → Prop} (finished : ∀ lexer, lexer.place = .finished → holds lexer)
    (taken : ∀ gap lexeme line place, Takes place gap lexeme →
      holds ⟨lexeme.rest, line + newlines gap + newlines lexeme.text, lexeme.next⟩ →
      holds ⟨gap ++ (lexeme.text ++ lexeme.rest), line, place⟩)
    (ended : ∀ gap line place, place ≠ .finished → Blank gap → holds ⟨gap, line, place⟩)
    (failed : ∀ gap tail line place cause, Fails place gap tail cause → holds ⟨gap ++ tail, line, place⟩)
    (lexer : Lexer) : holds lexer := by
  by_cases unfinished : lexer.place = .finished
  · exact finished lexer unfinished
  · have shape (input : List Char) (same : lexer.rest = input) : lexer = ⟨input, lexer.line, lexer.place⟩ := same ▸ rfl
    rcases advance_cases lexer.rest lexer.place unfinished with ⟨gap, lexeme, takes, whole⟩ | blank | ⟨gap, tail, cause, fails, whole⟩
    · have shorter : lexeme.rest.length < lexer.rest.length := by
        have written := List.length_pos_iff.mpr takes.isToken.written
        rw [whole, List.length_append, List.length_append]
        omega
      rw [shape _ whole]
      exact taken gap lexeme lexer.line lexer.place takes (advance_induction finished taken ended failed _)
    · exact ended lexer.rest lexer.line lexer.place unfinished blank
    · rw [shape _ whole]
      exact failed gap tail lexer.line lexer.place cause fails
termination_by lexer.rest.length
decreasing_by exact shorter

end Lexer

theorem tokens_from_failed (line : Nat) (input : List Char) (cause : LexError) (starts : Pending input)
    (failed : Lexeme.read input = .error cause) : tokensFrom line input = [(Lexer.halt line input cause).1] := by
  have fails : Lexer.Fails .gap [] input cause := ⟨nofun, nofun, starts, failed⟩
  exact Lexer.tokens_of_fails line fails

end SqlOutline
