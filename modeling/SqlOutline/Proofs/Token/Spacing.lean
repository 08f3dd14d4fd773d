import SqlOutline.Proofs.Token.Division
import SqlOutline.Proofs.Token.Respelling

set_option autoImplicit false

namespace SqlOutline

instance (gap : List Char) : Decidable (Blank gap) :=
  decidable_of_iff (gap.all isBlank = true) List.all_eq_true

instance (rest : List Char) : Decidable (BreaksLine rest) :=
  decidable_of_iff (rest.head?.all isNewline = true) (Option.all_eq_true ..)

-- Other blanks for a gap: some for some, and none for none.
structure OtherGap (gap other : String) : Prop where
  blank : Blank other.toList
  empty : other = "" ↔ gap = ""

theorem OtherGap.nil_iff {gap other : String} (fits : OtherGap gap other) : other.toList = [] ↔ gap.toList = [] := by
  rw [String.toList_eq_nil_iff, String.toList_eq_nil_iff]
  exact fits.empty

theorem OtherGap.same_boundary {gap other : String} (fits : OtherGap gap other) (kind : TokenKind)
    (rest otherRest : List Char) (blank : Blank gap.toList) (same : otherRest.head? = rest.head?)
    (newline : kind = .singleLineComment → BreaksLine other.toList) :
    SameBoundary kind (gap.toList ++ rest) (other.toList ++ otherRest) := by
  by_cases empty : gap.toList = []
  · rw [empty, fits.nil_iff.mpr empty]
    exact .inl same
  · have otherWritten : other.toList ≠ [] := fun none => empty (fits.nil_iff.mp none)
    obtain ⟨c, chars, spelled⟩ := List.exists_cons_of_ne_nil empty
    obtain ⟨d, others, otherSpelled⟩ := List.exists_cons_of_ne_nil otherWritten
    have otherBlank := fits.blank
    rw [spelled] at blank ⊢
    rw [otherSpelled] at otherBlank newline ⊢
    exact .inr ⟨first_holds c _ (blank c List.mem_cons_self), first_holds d _ (otherBlank d List.mem_cons_self),
      fun isComment => first_holds d _ (newline isComment d rfl)⟩

instance (gap other : String) : Decidable (OtherGap gap other) :=
  decidable_of_iff (Blank other.toList ∧ (other = "" ↔ gap = ""))
    ⟨fun ⟨blank, empty⟩ => ⟨blank, empty⟩, fun ⟨blank, empty⟩ => ⟨blank, empty⟩⟩

namespace Layout

def gaps (layout : Layout) : List String :=
  layout.pieces.map Prod.fst ++ [layout.gap]

def texts (layout : Layout) : List String :=
  layout.pieces.map (fun piece => piece.2.text) ++ [layout.tail]

def respaced (layout : Layout) (gaps : List String) : String :=
  String.join (List.zipWith (· ++ ·) gaps layout.texts)

-- The gap after each token but the last fits the token: a comment that only a newline ends is ended by it.
structure Respaces (layout : Layout) (gaps : List String) : Prop where
  others : List.Forall₂ OtherGap layout.gaps gaps
  comments : ∀ entry ∈ layout.tokens.zip gaps.tail, entry.1.kind = .singleLineComment → BreaksLine entry.2.toList

instance (layout : Layout) (gaps : List String) : Decidable (layout.Respaces gaps) :=
  decidable_of_iff (List.Forall₂ OtherGap layout.gaps gaps ∧
      ∀ entry ∈ layout.tokens.zip gaps.tail, entry.1.kind = .singleLineComment → BreaksLine entry.2.toList)
    ⟨fun ⟨others, comments⟩ => ⟨others, comments⟩, fun ⟨others, comments⟩ => ⟨others, comments⟩⟩

def cons (gap : String) (token : Token) (layout : Layout) (blank : Blank gap.toList)
    (inside : token.kind ≠ .endOfInput ∧ token.kind ≠ .error) : Layout :=
  { layout with
    pieces := (gap, token) :: layout.pieces
    blank := List.forall_mem_cons.mpr ⟨blank, layout.blank⟩
    inside := List.forall_mem_cons.mpr ⟨inside, layout.inside⟩ }

theorem pieces_induction {holds : Layout → Prop} (nil : ∀ layout : Layout, layout.pieces = [] → holds layout)
    (cons : ∀ gap token layout blank inside, holds layout → holds (cons gap token layout blank inside))
    (layout : Layout) : holds layout := by
  obtain ⟨pieces, gap, tail, terminal, blank, inside, blankEnd, ends⟩ := layout
  induction pieces with
  | nil => exact nil _ rfl
  | cons piece pieces ih =>
      obtain ⟨first, blanks⟩ := List.forall_mem_cons.mp blank
      obtain ⟨kind, kinds⟩ := List.forall_mem_cons.mp inside
      exact cons piece.1 piece.2 _ first kind (ih blanks kinds)

theorem respaces_nil (layout : Layout) (none : layout.pieces = []) (gaps : List String) (respaces : layout.Respaces gaps) :
    ∃ other, gaps = [other] ∧ OtherGap layout.gap other ∧
      layout.text.toList = layout.gap.toList ++ layout.tail.toList ∧
      (layout.respaced gaps).toList = other.toList ++ layout.tail.toList := by
  obtain ⟨fits, _⟩ := respaces
  simp only [Layout.gaps, none, List.map_nil, List.nil_append] at fits
  cases fits with
  | @cons _ other _ others first further =>
      cases further
      refine ⟨other, rfl, first, ?_, ?_⟩
      · simp [text_to_list, none, written]
      · simp [respaced, texts, none, String.toList_append]

section Cons

variable (gap : String) (token : Token) (layout : Layout) (blank : Blank gap.toList)
  (inside : token.kind ≠ .endOfInput ∧ token.kind ≠ .error)

theorem text_cons :
    (layout.cons gap token blank inside).text.toList = gap.toList ++ (token.text.toList ++ layout.text.toList) := by
  rw [text_to_list, text_to_list]
  simp only [cons, written_cons, List.append_assoc]

theorem respaced_cons (other : String) (others : List String) :
    ((layout.cons gap token blank inside).respaced (other :: others)).toList =
      other.toList ++ (token.text.toList ++ (layout.respaced others).toList) := by
  simp [respaced, texts, cons, String.toList_append]

theorem respaces_cons (gaps : List String) (respaces : (layout.cons gap token blank inside).Respaces gaps) :
    ∃ other others, gaps = other :: others ∧ OtherGap gap other ∧ layout.Respaces others ∧
      (token.kind = .singleLineComment → ∀ next ∈ others.head?, BreaksLine next.toList) := by
  obtain ⟨fits, comments⟩ := respaces
  cases fits with
  | @cons _ other _ others first further =>
      refine ⟨other, others, rfl, first, ⟨further, fun entry member => ?_⟩, fun isComment next second => ?_⟩
      · apply comments entry
        cases others with
        | nil => simp at member
        | cons next others => exact List.mem_cons_of_mem _ member
      · obtain ⟨after, rfl⟩ := List.head?_eq_some_iff.mp second
        exact comments (token, next) List.mem_cons_self isComment

end Cons

theorem respaced_gaps (layout : Layout) : layout.respaced layout.gaps = layout.text := by
  induction layout using pieces_induction with
  | nil layout none =>
      rw [← String.toList_inj, text_to_list]
      simp [respaced, texts, gaps, written, none]
  | cons gap token layout blank inside ih =>
      have gaps : (layout.cons gap token blank inside).gaps = gap :: layout.gaps := rfl
      rw [← String.toList_inj, gaps, respaced_cons, text_cons, ih]

theorem respaced_boundary (layout : Layout) (gaps : List String) (kind : TokenKind) (respaces : layout.Respaces gaps)
    (written : ∀ piece ∈ layout.pieces, piece.2.text ≠ "")
    (newline : kind = .singleLineComment → ∀ next ∈ gaps.head?, BreaksLine next.toList) :
    SameBoundary kind layout.text.toList (layout.respaced gaps).toList := by
  induction layout using pieces_induction with
  | nil layout none =>
      obtain ⟨other, rfl, first, text, respaced⟩ := layout.respaces_nil none gaps respaces
      rw [text, respaced]
      exact first.same_boundary kind _ _ layout.blankEnd rfl fun isComment => newline isComment other rfl
  | cons gap token layout blank inside ih =>
      obtain ⟨other, others, rfl, first, _, _⟩ := respaces_cons gap token layout blank inside gaps respaces
      obtain ⟨tokenWritten, _⟩ := List.forall_mem_cons.mp written
      obtain ⟨c, chars, spelled⟩ := List.exists_cons_of_ne_nil (mt String.toList_eq_nil_iff.mp tokenWritten)
      rw [text_cons, respaced_cons]
      refine first.same_boundary kind _ _ blank ?_ fun isComment => newline isComment other rfl
      rw [spelled]
      rfl

end Layout

def Respelling.spacing : Respelling where
  text := id
  line _ := 0
  append _ _ := rfl
  again _ := rfl
  folded _ := rfl
  capitals _ := rfl

namespace Lexer

theorem respaced_tokens (layout : Layout) (gaps : List String) (line otherLine : Nat) (place : Place)
    (unfinished : place ≠ .finished) (respaces : layout.Respaces gaps)
    (reads : tokens ⟨layout.text.toList, line, place⟩ = layout.tokens) :
    List.Forall₂ (Token.Respells .spacing) layout.tokens (tokens ⟨(layout.respaced gaps).toList, otherLine, place⟩) := by
  induction layout using Layout.pieces_induction generalizing gaps line otherLine place with
  | nil layout none =>
      obtain ⟨other, rfl, first, text, respaced⟩ := layout.respaces_nil none gaps respaces
      have listed : layout.tokens = [layout.terminal] := by simp [Layout.tokens, none]
      rw [text, listed] at reads
      rw [respaced, listed]
      rcases terminal_taken unfinished layout.blankEnd layout.starts reads with ⟨ended, isEnd⟩ | ⟨cause, fails, isError⟩
      · rw [ended, List.append_nil, tokens_of_end otherLine unfinished first.blank, isEnd]
        exact .cons ⟨rfl, fun _ => rfl, rfl, rfl⟩ .nil
      · rw [tokens_of_fails otherLine (fails.replaced other.toList first.blank first.nil_iff), isError]
        exact .cons ⟨rfl, fun _ => rfl, rfl, rfl⟩ .nil
  | cons gap token layout blank inside ih =>
      obtain ⟨other, others, rfl, first, further, newline⟩ := Layout.respaces_cons gap token layout blank inside gaps respaces
      have listed : (layout.cons gap token blank inside).tokens = token :: layout.tokens := rfl
      rw [Layout.text_cons, listed] at reads
      obtain ⟨next, takes, _, rests⟩ := piece_taken unfinished blank inside reads
      have written : ∀ piece ∈ layout.pieces, piece.2.text ≠ "" := by
        intro piece member
        have isToken : piece.2 ∈ layout.tokens := List.mem_append_left _ (List.mem_map_of_mem member)
        have kinds := layout.inside piece member
        rw [rests] at isToken
        exact token_text _ piece.2 isToken kinds.1 kinds.2
      have boundary := layout.respaced_boundary others token.kind further written newline
      have replaced := takes.replaced other.toList (layout.respaced others).toList first.blank first.nil_iff (.inr boundary)
      rw [Layout.respaced_cons, listed, tokens_of_takes otherLine replaced]
      refine .cons ⟨rfl, fun _ => String.ofList_toList, String.ofList_toList, rfl⟩ ?_
      exact ih others _ _ next takes.isToken.unfinished further rests.symm

end Lexer

end SqlOutline
