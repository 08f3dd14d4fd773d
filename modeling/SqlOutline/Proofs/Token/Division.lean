import SqlOutline.Proofs.Token.Advance
import SqlOutline.Proofs.Token.Lossless

set_option autoImplicit false

namespace SqlOutline

namespace Layout

def written (pieces : List (String × Token)) : String :=
  String.join (pieces.map fun piece => piece.1 ++ piece.2.text)

structure Divides (layout : Layout) (sql : String) : Prop where
  tokens : layout.tokens = tokenize sql
  text : layout.text = sql

theorem written_cons (gap : String) (token : Token) (pieces : List (String × Token)) :
    (written ((gap, token) :: pieces)).toList = gap.toList ++ (token.text.toList ++ (written pieces).toList) := by
  simp [written, String.toList_append]

theorem text_to_list (layout : Layout) :
    layout.text.toList = (written layout.pieces).toList ++ (layout.gap.toList ++ layout.tail.toList) := by
  simp [text, written, String.toList_append]

theorem starts (layout : Layout) : Pending layout.tail.toList := by
  rcases layout.ends with ⟨_, _, empty⟩ | ⟨_, _, starts, _⟩
  · rw [empty]
    exact nofun
  · exact starts

end Layout

namespace Lexer

section Pieces

variable {line : Nat} {place : Place} {gap : List Char}

theorem piece_taken {rest : List Char} {token : Token} {more : List Token} (unfinished : place ≠ .finished)
    (blank : Blank gap) (inside : token.kind ≠ .endOfInput ∧ token.kind ≠ .error)
    (reads : tokens ⟨gap ++ (token.text.toList ++ rest), line, place⟩ = token :: more) :
    ∃ next, Takes place gap ⟨token.kind, token.text.toList, rest, next⟩ ∧
      token.line = line + newlines gap + newlines token.text.toList ∧ more = tokens ⟨rest, token.line, next⟩ := by
  generalize whole : gap ++ (token.text.toList ++ rest) = input at reads
  rcases advance_cases input place unfinished with ⟨front, lexeme, takes, split⟩ | onlyBlanks | failure
  · rw [split, tokens_of_takes line takes] at reads
    obtain ⟨rfl, rfl⟩ := List.cons.inj reads
    rw [String.toList_ofList] at whole ⊢
    have starts := Lexeme.pending_of_read_at _ _ _ takes.accepted
    have otherStarts : Pending (lexeme.text ++ rest) := by
      obtain ⟨c, text, chars⟩ := List.exists_cons_of_ne_nil takes.isToken.written
      rw [chars] at starts ⊢
      exact first_holds c _ (starts c rfl)
    obtain ⟨rfl, same⟩ := blanks_unique gap front _ _ blank takes.blank otherStarts starts (whole.trans split)
    cases List.append_cancel_left same
    exact ⟨lexeme.next, takes, rfl, rfl⟩
  · rw [tokens_of_end line unfinished onlyBlanks] at reads
    obtain ⟨rfl, _⟩ := List.cons.inj reads
    exact absurd rfl inside.1
  · obtain ⟨front, tail, cause, fails, split⟩ := failure
    rw [split, tokens_of_fails line fails] at reads
    obtain ⟨rfl, _⟩ := List.cons.inj reads
    exact absurd rfl inside.2

theorem terminal_taken {tail : List Char} {terminal : Token} (unfinished : place ≠ .finished) (blank : Blank gap)
    (starts : Pending tail) (reads : tokens ⟨gap ++ tail, line, place⟩ = [terminal]) :
    (tail = [] ∧ terminal = ⟨.endOfInput, "", line + newlines gap⟩) ∨
      ∃ cause, Fails place gap tail cause ∧ terminal = (halt (line + newlines gap) tail cause).1 := by
  cases outcome : Lexeme.readAt (place.after gap) tail with
  | error cause =>
      have fails : Fails place gap tail cause := ⟨unfinished, blank, starts, outcome⟩
      rw [tokens_of_fails line fails] at reads
      exact .inr ⟨cause, fails, (List.cons.inj reads).1.symm⟩
  | ok lexeme =>
      rcases Lexeme.read_at_token _ tail lexeme outcome with isToken | ⟨rfl, _⟩
      · have append := Lexeme.read_at_append _ tail lexeme outcome
        rw [← append] at outcome reads
        rw [tokens_of_takes line ⟨unfinished, blank, outcome, isToken⟩] at reads
        exact absurd (List.cons.inj reads).2 (tokens_ne_nil _ isToken.unfinished)
      · rw [List.append_nil, tokens_of_end line unfinished blank] at reads
        exact .inl ⟨rfl, (List.cons.inj reads).1.symm⟩

end Pieces

end Lexer

theorem exists_division (sql : String) : ∃ layout : Layout, layout.Divides sql := by
  obtain ⟨layout, spelled, covered⟩ := Lexer.exists_layout (Lexer.ofString sql) nofun
  exact ⟨layout, spelled, String.toList_inj.mp covered⟩

end SqlOutline
