import SqlOutline.Proofs.TableDefinition.Acceptance
import SqlOutline.Proofs.Token.Extension

set_option autoImplicit false

namespace SqlOutline.TableDefinition

namespace DefinitionForm

def statement (form : DefinitionForm) : List Token :=
  form.before ++ [form.create] ++ form.between ++ [form.table] ++ [form.name, form.opening] ++
    form.columns.tokens ColumnForm.tokens ++ [form.closing]

def followedBy (form : DefinitionForm) (rest : List Token) : DefinitionForm :=
  { form with rest := rest }

theorem tokens_eq (form : DefinitionForm) : form.tokens = form.statement ++ form.rest :=
  rfl

theorem statement_last (form : DefinitionForm) : form.statement.getLast? = some form.closing :=
  List.getLast?_concat

end DefinitionForm

theorem parse_definition_continued (front back : String) (complete : (parse front).error? = none) :
    parse (front ++ back) = ⟨(parse front).value, none⟩ := by
  have accepted : parse front = ⟨(parse front).value, none⟩ := congrArg (Parsed.mk _) complete
  obtain ⟨form, spelled, means⟩ := (of_tokens_iff _ (names_written_tokenize front) _).mp accepted
  rw [form.tokens_eq] at spelled
  -- A closing parenthesis is not the end of a token stream, so there are tokens after it.
  have followed : form.rest ≠ [] := by
    intro none
    rw [none, List.append_nil] at spelled
    have ends := (tokenize_stream front).last_ends form.closing (spelled ▸ form.statement_last)
    rw [form.isClosing] at ends
    contradiction
  have settled : Settled back.toList form.statement form.rest := by
    intro last found
    obtain rfl : form.closing = last := Option.some.inj (form.statement_last.symm.trans found)
    exact .inl (by rw [form.isClosing]; rfl)
  obtain ⟨further, longer⟩ := tokenize_extended front back _ _ spelled.symm followed settled
  rw [← means]
  exact (of_tokens_iff _ (names_written_tokenize _) _).mpr ⟨form.followedBy further, longer, rfl⟩

theorem parse_definition_continued_unread :
    (parse "CREATE TABLE t (a ARRAY<b(1)> (2), c d(3))e").error? = none ∧
      parse ("CREATE TABLE t (a ARRAY<b(1)> (2), c d(3))e" ++ "f ' (") =
        ⟨(parse "CREATE TABLE t (a ARRAY<b(1)> (2), c d(3))e").value, none⟩ :=
  have complete : (parse "CREATE TABLE t (a ARRAY<b(1)> (2), c d(3))e").error? = none :=
    Option.isNone_iff_eq_none.mp (by decide +kernel)
  ⟨complete, parse_definition_continued "CREATE TABLE t (a ARRAY<b(1)> (2), c d(3))e" "f ' (" complete⟩

end SqlOutline.TableDefinition
