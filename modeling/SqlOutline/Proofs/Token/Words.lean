import SqlOutline.Proofs.Keyword.Lookup
import SqlOutline.Proofs.Text.LetterCase
import SqlOutline.Proofs.Token.Reads

set_option autoImplicit false

namespace SqlOutline

structure IsWord (text : String) : Prop where
  written : text ≠ ""
  members : ∀ c ∈ text.toList, isWordChar c = true
  start : ∀ c ∈ text.toList.head?, c.isDigit = false

def KeywordText (text : String) : Prop :=
  ∃ keyword : Keyword, equalIgnoringCase text keyword.text = true

structure BareWord (text : String) : Prop extends IsWord text where
  notKeyword : ∀ keyword : Keyword, equalIgnoringCase text keyword.text = false

-- Between backticks every word stands for itself, also a keyword, one with a leading digit and the
-- empty one.
def Backticked (text : String) : Prop :=
  ∃ word, text.toList = '`' :: word ++ ['`'] ∧ ∀ c ∈ word, isWordChar c = true

def IsName (text : String) : Prop :=
  BareWord text ∨ Backticked text

-- Two operator characters at the start can also open a comment.
structure OperatorText (text : String) : Prop where
  written : text ≠ ""
  members : ∀ c ∈ text.toList, isOperatorChar c = true
  noComment : ¬ ['-', '-'] <+: text.toList ∧ ¬ ['/', '*'] <+: text.toList

def LineComment (text : String) : Prop :=
  ∃ body, text.toList = '-' :: '-' :: body ∧ ∀ c ∈ body, isNewline c = false

def BlockComment (text : String) : Prop :=
  ∃ body, text.toList = '/' :: '*' :: (body ++ ['*', '/']) ∧ ¬ ['*', '/'] <:+: body

def CommentText (text : String) : Prop :=
  LineComment text ∨ BlockComment text

theorem keyword_text_iff (text : String) : KeywordText text ↔ (Keyword.ofString? text).isSome = true := by
  rw [Option.isSome_iff_exists]
  exact exists_congr fun keyword => (Keyword.of_string_iff text keyword).symm

theorem bare_word_iff (text : String) : BareWord text ↔ IsWord text ∧ Keyword.ofString? text = none := by
  have spells (keyword : Keyword) := Keyword.of_string_iff text keyword
  constructor
  · intro bare
    refine ⟨bare.toIsWord, Option.eq_none_iff_forall_ne_some.mpr fun keyword spelled => ?_⟩
    rw [spells, bare.notKeyword keyword] at spelled
    contradiction
  · rintro ⟨isWord, none⟩
    refine ⟨isWord, fun keyword => Bool.eq_false_iff.mpr fun same => ?_⟩
    rw [← spells, none] at same
    contradiction

theorem comment_end_found (body rest : List Char) (unclosed : ¬ ['*', '/'] <:+: body) :
    Lexeme.commentEnd? (body ++ '*' :: '/' :: rest) = some (body ++ ['*', '/'], rest) := by
  induction body with
  | nil => rfl
  | cons c body ih =>
      have inner : ¬ ['*', '/'] <:+: body := fun found => unclosed (List.infix_cons found)
      have notClosing : ¬ (c = '*' ∧ (body ++ '*' :: '/' :: rest).head? = some '/') := by
        rintro ⟨rfl, second⟩
        cases body with
        | nil => exact absurd (Option.some.inj second) (by decide)
        | cons d body =>
            cases (Option.some.inj second : d = '/')
            exact unclosed ⟨[], body, rfl⟩
      rw [List.cons_append, Lexeme.commentEnd?, if_neg notClosing, ih inner]
      rfl

theorem comment_end_none_iff (body : List Char) : Lexeme.commentEnd? body = none ↔ ¬ ['*', '/'] <:+: body := by
  induction body with
  | nil => simp [Lexeme.commentEnd?]
  | cons c rest ih =>
      have opens : ['*', '/'] <+: c :: rest ↔ c = '*' ∧ rest.head? = some '/' := by
        cases rest with
        | nil => simp
        | cons d rest => simp [List.cons_prefix_cons, eq_comm]
      rw [List.infix_cons_iff, opens, not_or, ← ih]
      by_cases closing : c = '*' ∧ rest.head? = some '/'
      · simp [Lexeme.commentEnd?, closing]
      · simp [Lexeme.commentEnd?, closing]

theorem comment_end_first (body text rest : List Char) (found : Lexeme.commentEnd? body = some (text, rest)) :
    ∃ inner, text = inner ++ ['*', '/'] ∧ ¬ ['*', '/'] <:+: inner := by
  induction body generalizing text rest with
  | nil => contradiction
  | cons c tail ih =>
      by_cases closing : c = '*' ∧ tail.head? = some '/'
      · rw [Lexeme.commentEnd?, if_pos closing] at found
        obtain ⟨rfl, rfl⟩ := Prod.mk.inj (Option.some.inj found)
        exact ⟨[], rfl, by simp⟩
      · rw [Lexeme.commentEnd?, if_neg closing] at found
        obtain ⟨⟨further, after⟩, below, same⟩ := Option.map_eq_some_iff.mp found
        obtain ⟨rfl, rfl⟩ := Prod.mk.inj same
        obtain ⟨inner, rfl, unclosed⟩ := ih further after below
        refine ⟨c :: inner, rfl, fun closed => ?_⟩
        rcases List.infix_cons_iff.mp closed with starts | later
        · -- Then the closing would have been found at its first character.
          have whole := Lexeme.comment_end_append tail _ after below
          obtain ⟨isStar, second⟩ := List.cons_prefix_cons.mp starts
          obtain ⟨others, rfl⟩ := second
          exact closing ⟨isStar.symm, by rw [← whole]; rfl⟩
        · exact unclosed later

section Decisions

instance (text : String) : Decidable (IsWord text) :=
  decidable_of_iff
    (text ≠ "" ∧ text.toList.all isWordChar = true ∧ text.toList.head?.all (fun c => !c.isDigit) = true) (by
      rw [List.all_eq_true, Option.all_eq_true]
      simp only [Bool.not_eq_true']
      exact ⟨fun ⟨written, members, start⟩ => ⟨written, members, start⟩,
        fun ⟨written, members, start⟩ => ⟨written, members, start⟩⟩)

instance (text : String) : Decidable (OperatorText text) :=
  decidable_of_iff
    (text ≠ "" ∧ text.toList.all isOperatorChar = true ∧ ¬ ['-', '-'] <+: text.toList ∧ ¬ ['/', '*'] <+: text.toList) (by
      rw [List.all_eq_true]
      exact ⟨fun ⟨written, members, noComment⟩ => ⟨written, members, noComment⟩,
        fun ⟨written, members, noComment⟩ => ⟨written, members, noComment⟩⟩)

-- Lists of characters are compared here because it takes much longer to evaluate the search.
instance (text : String) : Decidable (KeywordText text) :=
  decidable_of_iff
    (∃ keyword ∈ Keyword.all.toList, text.toList.map Char.toLower = keyword.text.toList.map Char.toLower) (by
      have listed (keyword : Keyword) : keyword ∈ Keyword.all.toList := Array.mem_toList_iff.mpr (Keyword.mem_all keyword)
      simp only [KeywordText, equal_ignoring_case_iff, same_case_iff, listed, true_and])

instance (text : String) : Decidable (BareWord text) :=
  decidable_of_iff (IsWord text ∧ ¬ KeywordText text) (by
    rw [bare_word_iff, keyword_text_iff, Option.not_isSome_iff_eq_none])

def decideBody {enclose : List Char → List Char} {holds : List Char → Prop} (test : List Char → Bool)
    (tests : ∀ body, test body = true ↔ holds body) (inside : List Char → List Char)
    (undo : ∀ body, inside (enclose body) = body) (chars : List Char) :
    Decidable (∃ body, chars = enclose body ∧ holds body) :=
  decidable_of_iff (chars = enclose (inside chars) ∧ test (inside chars) = true) (by
    rw [tests]
    constructor
    · exact fun found => ⟨inside chars, found⟩
    · rintro ⟨body, rfl, satisfied⟩
      rw [undo]
      exact ⟨rfl, satisfied⟩)

instance (text : String) : Decidable (Backticked text) :=
  decideBody (fun body => body.all isWordChar) (fun _ => List.all_eq_true) (fun chars => chars.tail.dropLast)
    (fun _ => by simp) text.toList

instance (text : String) : Decidable (LineComment text) :=
  decideBody (fun body => body.all fun c => !isNewline c) (fun _ => by simp) (fun chars => chars.drop 2)
    (fun _ => rfl) text.toList

instance (text : String) : Decidable (BlockComment text) :=
  decideBody (fun body => (Lexeme.commentEnd? body).isNone)
    (fun body => Option.isNone_iff_eq_none.trans (comment_end_none_iff body))
    (fun chars => (chars.drop 2).dropLast.dropLast) (fun _ => by simp) text.toList

instance (text : String) : Decidable (IsName text) :=
  inferInstanceAs (Decidable (_ ∨ _))

instance (text : String) : Decidable (CommentText text) :=
  inferInstanceAs (Decidable (_ ∨ _))

end Decisions

theorem keyword_is_word (keyword : Keyword) : IsWord keyword.text := by
  cases keyword <;> decide +kernel

namespace IsWord

variable {text : String}

theorem exists_head (isWord : IsWord text) :
    ∃ c rest, text.toList = c :: rest ∧ isWordChar c = true ∧ c.isDigit = false := by
  cases chars : text.toList with
  | nil => exact absurd (String.toList_eq_nil_iff.mp chars) isWord.written
  | cons c rest =>
      have member := isWord.members c (by simp [chars])
      have notDigit := isWord.start c (by simp [chars])
      exact ⟨c, rest, rfl, member, notDigit⟩

end IsWord

end SqlOutline
