import SqlOutline.Proofs.Parser.Acceptance

set_option autoImplicit false

namespace SqlOutline

def Readable (tokens : List Token) : Prop :=
  ∀ token ∈ tokens, token.kind ≠ .error

def Token.lexError (token : Token) : ParseError :=
  .lex token.line token.text

def ParseError.Own (error : ParseError) : Prop :=
  ∀ token : Token, error ≠ token.lexError

namespace ParseError.Own

theorem unexpected (state : String) (token : Token) : (ParseError.unexpected state token).Own :=
  nofun

theorem unsupported (token : Token) : (ParseError.unsupported token).Own :=
  nofun

theorem not_found (wanted : String) (token : Token) : (notFound wanted token).Own :=
  nofun

theorem ambiguous (name label ident : String) : (ambiguousIdentifier name label ident).Own :=
  nofun

theorem invalid (what : String) : (invalidValue what).Own :=
  nofun

end ParseError.Own

theorem readable_suffix (back front : List Token) (suffix : back <:+ front) (readable : Readable front) : Readable back :=
  fun token member => readable token (suffix.mem member)

namespace Parser

variable {V State : Type}

-- How an action goes on from a value when the tokens `before` have been taken in this step and `seen?` may
-- have been looked at without being taken. It asks for a token only where some continuation of `before` is
-- accepted, and it changes the value only to one that extends it.
inductive Reading (Extends : V → V → Prop) (Viable : List Token → Prop) :
    V → List Token → Option Token → ParseM V (Option State) → Prop where
  | pure (value : V) (before : List Token) (seen? : Option Token) (following? : Option State) :
      Reading Extends Viable value before seen? (pure following?)
  | throw (value : V) (before : List Token) (seen? : Option Token) (error : ParseError) (own : error.Own) :
      Reading Extends Viable value before seen? (throw error)
  | fail (value : V) (before : List Token) (seen? : Option Token) (error : ParseError) (own : error.Own) :
      Reading Extends Viable value before seen? (fail error)
  | next (value : V) (before : List Token) (further : Token → ParseM V (Option State)) (viable : Viable before)
      (each : ∀ token, Reading Extends Viable value (before ++ [token]) none (further token)) :
      Reading Extends Viable value before none (Parses.next >>= further)
  | peek (value : V) (before : List Token) (further : Token → ParseM V (Option State)) (viable : Viable before)
      (each : ∀ token, Reading Extends Viable value before (some token) (further token)) :
      Reading Extends Viable value before none (Parses.peek >>= further)
  | take (value : V) (before : List Token) (token : Token) (further : Token → ParseM V (Option State))
      (taken : Reading Extends Viable value (before ++ [token]) none (further token)) :
      Reading Extends Viable value before (some token) (Parses.next >>= further)
  | change (value : V) (before : List Token) (seen? : Option Token) (update : V → V)
      (further : Unit → ParseM V (Option State)) (grows : Extends value (update value))
      (changed : Reading Extends Viable (update value) before seen? (further ())) :
      Reading Extends Viable value before seen? (Parses.change update >>= further)

section Actions

variable {Extends : V → V → Prop} {Viable : List Token → Prop} {value : V} {before : List Token}

theorem reading_skip {token : Token} {further : Unit → ParseM V (Option State)}
    (taken : Reading Extends Viable value (before ++ [token]) none (further ())) :
    Reading Extends Viable value before (some token) (Parses.skip >>= further) := by
  have reads := Reading.take value before token (fun _ => further ()) taken
  have unfolded : (Parses.skip >>= further : ParseM V (Option State)) = Parses.next >>= fun _ => further () :=
    bind_assoc next (fun _ => pure ()) further
  rwa [unfolded]

theorem reading_commit {what : String} {valid : Bool} {add : V → V} {further : Unit → ParseM V (Option State)}
    (grows : Extends value (add value)) (changed : Reading Extends Viable (add value) before none (further ())) :
    Reading Extends Viable value before none (commit what valid add >>= further) := by
  cases valid with
  | false => exact .throw value before none _ (.invalid what)
  | true => exact .change value before none add further grows changed

end Actions

def valueAfter {α : Type} : EStateM.Result ParseError (Parser V) α → V
  | .ok _ after => after.value
  | .error _ after => after.value

theorem finish_record (parser : Parser V) (error : ParseError) : (parser.record error).finish.value = parser.value := by
  simp only [record]
  split <;> rfl

def Stopped (result : EStateM.Result ParseError (Parser V) (Option State)) (changed : V) (error : ParseError) : Prop :=
  (∃ tokens, result = .error error ⟨changed, tokens, none⟩) ∨
    ∃ following? tokens, result = .ok following? ⟨changed, tokens, some error⟩

-- What is known of an action if `front` comes first and anything can follow: it goes on to a state, it
-- stops, or it asks for the token after `front`.
inductive Looks (Extends : V → V → Prop) (Viable : List Token → Prop) (value : V) (before front : List Token)
    (action : ParseM V (Option State)) : Prop where
  | settled (following? : Option State) (changed : V) (left : List Token) (suffix : left <:+ front)
      (same : ∀ rest consumed, ∃ taken, action ⟨value, ⟨front ++ rest, consumed⟩, none⟩ =
        .ok following? ⟨changed, ⟨left ++ rest, taken⟩, none⟩) : Looks Extends Viable value before front action
  | stopped (changed : V) (error : ParseError) (own : error.Own)
      (same : ∀ rest consumed, Stopped (action ⟨value, ⟨front ++ rest, consumed⟩, none⟩) changed error) :
      Looks Extends Viable value before front action
  | asks (reached : V) (viable : Viable (before ++ front))
      (broken : ∀ error rest consumed, error.kind = .error → ∃ tokens,
        action ⟨value, ⟨front ++ error :: rest, consumed⟩, none⟩ = .error error.lexError ⟨reached, tokens, none⟩)
      (grows : ∀ rest consumed, Extends reached (valueAfter (action ⟨value, ⟨front ++ rest, consumed⟩, none⟩))) :
      Looks Extends Viable value before front action

theorem next_broken {further : Token → ParseM V (Option State)} (value : V) (error : Token) (rest : List Token)
    (consumed : Nat) (broken : error.kind = .error) :
    (Parses.next >>= further) ⟨value, ⟨error :: rest, consumed⟩, none⟩ =
      .error error.lexError ⟨value, ⟨rest, consumed + 1⟩, none⟩ := by
  change EStateM.bind next further _ = _
  simp only [EStateM.bind, next, Cursor.next?, checked, if_pos broken, Token.lexError]

theorem peek_broken {further : Token → ParseM V (Option State)} (value : V) (error : Token) (rest : List Token)
    (consumed : Nat) (broken : error.kind = .error) :
    (Parses.peek >>= further) ⟨value, ⟨error :: rest, consumed⟩, none⟩ =
      .error error.lexError ⟨value, ⟨error :: rest, consumed⟩, none⟩ := by
  change EStateM.bind peek further _ = _
  simp only [EStateM.bind, peek, Cursor.peek?, List.head?_cons, checked, if_pos broken, Token.lexError]

theorem next_empty {further : Token → ParseM V (Option State)} (value : V) (consumed : Nat) :
    (Parses.next >>= further) ⟨value, ⟨[], consumed⟩, none⟩ = .error .noToken ⟨value, ⟨[], consumed⟩, none⟩ :=
  rfl

theorem peek_empty {further : Token → ParseM V (Option State)} (value : V) (consumed : Nat) :
    (Parses.peek >>= further) ⟨value, ⟨[], consumed⟩, none⟩ = .error .noToken ⟨value, ⟨[], consumed⟩, none⟩ :=
  rfl

section Outcome

def StartsWith (seen? : Option Token) (tokens : List Token) : Prop :=
  ∀ token ∈ seen?, tokens.head? = some token

variable {Extends : V → V → Prop} {Viable : List Token → Prop} {value : V} {before : List Token} {seen? : Option Token}
variable {action : ParseM V (Option State)}

theorem reading_grows (refl : ∀ value, Extends value value)
    (trans : ∀ first second third, Extends first second → Extends second third → Extends first third)
    (reads : Reading Extends Viable value before seen? action) (tokens : List Token) (consumed : Nat)
    (starts : StartsWith seen? tokens) : Extends value (valueAfter (action ⟨value, ⟨tokens, consumed⟩, none⟩)) := by
  induction reads generalizing tokens consumed with
  | pure value before seen? following? => exact refl value
  | throw value before seen? error own => exact refl value
  | fail value before seen? error own => exact refl value
  | next value before further viable each ih =>
      cases tokens with
      | nil =>
          rw [next_empty]
          exact refl value
      | cons token rest =>
          by_cases broken : token.kind = .error
          · rw [next_broken _ _ _ _ broken]
            exact refl value
          · rw [next_bind _ _ _ _ _ broken]
            exact ih token rest (consumed + 1) nofun
  | peek value before further viable each ih =>
      cases tokens with
      | nil =>
          rw [peek_empty]
          exact refl value
      | cons token rest =>
          by_cases broken : token.kind = .error
          · rw [peek_broken _ _ _ _ broken]
            exact refl value
          · rw [peek_bind _ _ _ _ _ broken]
            exact ih token (token :: rest) consumed fun _ seen => seen
  | take value before token further taken ih =>
      obtain ⟨rest, rfl⟩ := List.head?_eq_some_iff.mp (starts token rfl)
      by_cases broken : token.kind = .error
      · rw [next_broken _ _ _ _ broken]
        exact refl value
      · rw [next_bind _ _ _ _ _ broken]
        exact ih rest (consumed + 1) nofun
  | change value before seen? update further grows changed ih =>
      rw [change_bind]
      exact trans _ _ _ grows (ih tokens consumed starts)

theorem looks_cons {further : Token → ParseM V (Option State)} (token : Token) (tail : List Token)
    (readable : token.kind ≠ .error) (looks : Looks Extends Viable value (before ++ [token]) tail (further token)) :
    Looks Extends Viable value before (token :: tail) (Parses.next >>= further) := by
  have taken (rest : List Token) (consumed : Nat) :
      (Parses.next >>= further) ⟨value, ⟨token :: (tail ++ rest), consumed⟩, none⟩ =
        further token ⟨value, ⟨tail ++ rest, consumed + 1⟩, none⟩ :=
    next_bind value token (tail ++ rest) consumed none readable
  cases looks with
  | settled following? changed left suffix same =>
      refine .settled following? changed left (suffix.trans (List.suffix_cons token tail)) fun rest consumed => ?_
      rw [List.cons_append, taken]
      exact same rest (consumed + 1)
  | stopped changed error own same =>
      refine .stopped changed error own fun rest consumed => ?_
      rw [List.cons_append, taken]
      exact same rest (consumed + 1)
  | asks reached viable broken grows =>
      rw [List.append_assoc] at viable
      refine .asks reached viable (fun error rest consumed isError => ?_) fun rest consumed => ?_
      · rw [List.cons_append, taken]
        exact broken error rest (consumed + 1) isError
      · rw [List.cons_append, taken]
        exact grows rest (consumed + 1)

theorem looks_peek {further : Token → ParseM V (Option State)} (token : Token) (tail : List Token)
    (readable : token.kind ≠ .error) (looks : Looks Extends Viable value before (token :: tail) (further token)) :
    Looks Extends Viable value before (token :: tail) (Parses.peek >>= further) := by
  have seen (rest : List Token) (consumed : Nat) :
      (Parses.peek >>= further) ⟨value, ⟨token :: (tail ++ rest), consumed⟩, none⟩ =
        further token ⟨value, ⟨token :: (tail ++ rest), consumed⟩, none⟩ :=
    peek_bind value token (tail ++ rest) consumed none readable
  cases looks with
  | settled following? changed left suffix same =>
      refine .settled following? changed left suffix fun rest consumed => ?_
      rw [List.cons_append, seen]
      exact same rest consumed
  | stopped changed error own same =>
      refine .stopped changed error own fun rest consumed => ?_
      rw [List.cons_append, seen]
      exact same rest consumed
  | asks reached viable broken grows =>
      refine .asks reached viable (fun error rest consumed isError => ?_) fun rest consumed => ?_
      · rw [List.cons_append, seen]
        exact broken error rest consumed isError
      · rw [List.cons_append, seen]
        exact grows rest consumed

theorem looks_nil (refl : ∀ value, Extends value value)
    (trans : ∀ first second third, Extends first second → Extends second third → Extends first third)
    (reads : Reading Extends Viable value before none action) (viable : Viable before)
    (broken : ∀ error rest consumed, error.kind = .error → ∃ tokens,
      action ⟨value, ⟨error :: rest, consumed⟩, none⟩ = .error error.lexError ⟨value, tokens, none⟩) :
    Looks Extends Viable value before [] action := by
  refine .asks value ?_ broken fun rest consumed => reading_grows refl trans reads rest consumed nofun
  rwa [List.append_nil]

-- The tokens that come first settle the action, or it asks for the token after them.
theorem reading_looks (refl : ∀ value, Extends value value)
    (trans : ∀ first second third, Extends first second → Extends second third → Extends first third)
    (reads : Reading Extends Viable value before seen? action) (front : List Token) (readable : Readable front)
    (starts : StartsWith seen? front) : Looks Extends Viable value before front action := by
  induction reads generalizing front with
  | pure value before seen? following? =>
      exact .settled following? value front (List.suffix_refl front) fun rest consumed => ⟨consumed, rfl⟩
  | throw value before seen? error own => exact .stopped value error own fun rest consumed => .inl ⟨_, rfl⟩
  | fail value before seen? error own => exact .stopped value error own fun rest consumed => .inr ⟨_, _, rfl⟩
  | next value before further viable each ih =>
      cases front with
      | nil =>
          exact looks_nil refl trans (.next value before further viable each) viable fun error rest consumed broken =>
            ⟨_, next_broken value error rest consumed broken⟩
      | cons token tail =>
          obtain ⟨first, others⟩ := List.forall_mem_cons.mp readable
          exact looks_cons token tail first (ih token tail others nofun)
  | peek value before further viable each ih =>
      cases front with
      | nil =>
          exact looks_nil refl trans (.peek value before further viable each) viable fun error rest consumed broken =>
            ⟨_, peek_broken value error rest consumed broken⟩
      | cons token tail =>
          have first := readable token List.mem_cons_self
          exact looks_peek token tail first (ih token (token :: tail) readable fun _ seen => seen)
  | take value before token further taken ih =>
      obtain ⟨tail, rfl⟩ := List.head?_eq_some_iff.mp (starts token rfl)
      obtain ⟨first, others⟩ := List.forall_mem_cons.mp readable
      exact looks_cons token tail first (ih tail others nofun)
  | change value before seen? update further grows changed ih =>
      cases ih front readable starts with
      | settled following? changed left suffix same => exact .settled following? changed left suffix same
      | stopped changed error own same => exact .stopped changed error own same
      | asks reached viable broken grows => exact .asks reached viable broken grows

end Outcome

end Parser

end SqlOutline
