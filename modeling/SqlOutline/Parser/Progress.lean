import SqlOutline.Parser

set_option autoImplicit false

namespace SqlOutline

section Progress

variable {S α β : Type} (remaining : S → Nat)

-- After success no more is left than before.
def Forward (action : EStateM ParseError S α) : Prop :=
  ∀ (before after : S) (value : α), action before = .ok value after → remaining after ≤ remaining before

def Takes (action : EStateM ParseError S α) : Prop :=
  ∀ (before after : S) (value : α), action before = .ok value after → remaining after < remaining before

variable {remaining}

theorem forward_of_takes {action : EStateM ParseError S α} (takes : Takes remaining action) : Forward remaining action :=
  fun before after value success => Nat.le_of_lt (takes before after value success)

theorem forward_pure (value : α) : Forward remaining (pure value : EStateM ParseError S α) := by
  intro before after result success
  cases success
  exact Nat.le_refl _

theorem forward_throw (error : ParseError) : Forward remaining (throw error : EStateM ParseError S α) := by
  intro before after result success
  contradiction

theorem forward_bind {action : EStateM ParseError S α} {next : α → EStateM ParseError S β}
    (first : Forward remaining action) (second : ∀ value, Forward remaining (next value)) :
    Forward remaining (action >>= next) := by
  intro before after result success
  change EStateM.bind action next before = _ at success
  unfold EStateM.bind at success
  cases outcome : action before with
  | error error middle => simp [outcome] at success
  | ok value middle =>
      simp only [outcome] at success
      exact Nat.le_trans (second value middle after result success) (first before middle value outcome)

theorem takes_bind {action : EStateM ParseError S α} {next : α → EStateM ParseError S β}
    (first : Takes remaining action) (second : ∀ value, Forward remaining (next value)) :
    Takes remaining (action >>= next) := by
  intro before after result success
  change EStateM.bind action next before = _ at success
  unfold EStateM.bind at success
  cases outcome : action before with
  | error error middle => simp [outcome] at success
  | ok value middle =>
      simp only [outcome] at success
      exact Nat.lt_of_le_of_lt (second value middle after result success) (first before middle value outcome)

end Progress

-- The actions get on with what is left. To take a token is the only way to be sure that it gets less.
structure Progress {V S : Type} [Parses V (EStateM ParseError S)] (remaining : S → Nat) : Prop where
  next : Takes remaining (Parses.next : EStateM ParseError S Token)
  peek : Forward remaining (Parses.peek : EStateM ParseError S Token)
  skip : Forward remaining (Parses.skip : EStateM ParseError S Unit)
  fail : ∀ {α : Type} (error : ParseError), Forward remaining (Parses.fail error : EStateM ParseError S (Option α))
  change : ∀ update, Forward remaining (Parses.change update : EStateM ParseError S Unit)
  commit : ∀ what valid add, Forward remaining (Parses.commit what valid add : EStateM ParseError S Unit)

namespace Parser

variable {V α : Type}

theorem takes_next : Takes remaining (next : ParseM V Token) := by
  intro before after token success
  simp only [next] at success
  cases taken : before.tokens.next? with
  | none => simp [taken] at success
  | some result =>
      cases valid : checked result.1 with
      | error error => simp [taken, valid] at success
      | ok checkedToken =>
          simp only [taken, valid] at success
          cases success
          exact Cursor.next_length before.tokens result.2 result.1 taken

theorem forward_peek : Forward remaining (peek : ParseM V Token) := by
  intro before after token success
  simp only [peek] at success
  cases seen : before.tokens.peek? with
  | none => simp [seen] at success
  | some entry =>
      cases valid : checked entry with
      | error error => simp [seen, valid] at success
      | ok checkedToken =>
          simp only [seen, valid] at success
          cases success
          exact Nat.le_refl _

theorem forward_change (update : V → V) : Forward remaining (change update) := by
  intro before after result success
  cases success
  exact Nat.le_refl _

theorem forward_fail (error : ParseError) : Forward remaining (fail error : ParseM V (Option α)) := by
  intro before after result success
  cases success
  simp [remaining, record_tokens]

theorem progress : Progress (remaining : Parser V → Nat) where
  next := takes_next
  peek := forward_peek
  skip := forward_bind (forward_of_takes takes_next) fun _ => forward_pure ()
  fail := forward_fail
  change := forward_change
  commit what valid add := by
    cases valid
    · exact forward_throw _
    · exact forward_change add

end Parser

end SqlOutline
