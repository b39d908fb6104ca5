import ClusterUpgrade.Log.Event

/-!
Programs that talk to a remote side. A dialogue reports events, asks questions whose answers decide
how it goes on, and ends with a value. It is data, so it can be played against any remote side.
-/

namespace ClusterUpgrade

inductive Dialogue (Question : Type) (Answer : Question → Type) (α : Type) where
  | done (value : α)
  | report (event : Event) (rest : Dialogue Question Answer α)
  | ask (question : Question) (next : Answer question → Dialogue Question Answer α)

namespace Dialogue

variable {Question : Type} {Answer : Question → Type} {α β γ : Type}

protected def bind (dialogue : Dialogue Question Answer α)
    (next : α → Dialogue Question Answer β) : Dialogue Question Answer β :=
  match dialogue with
  | .done value => next value
  | .report event rest => .report event (rest.bind next)
  | .ask question continuation => .ask question fun answer => (continuation answer).bind next

instance : Monad (Dialogue Question Answer) where
  pure := .done
  bind := Dialogue.bind

/-- Reports one log event. -/
def log (level : LogLevel) (source : LogSource) (message : String) :
    Dialogue Question Answer Unit :=
  .report (.log { level, source, message }) (.done ())

def logAll (events : List LogEvent) : Dialogue Question Answer Unit :=
  events.foldr (fun event rest => .report (.log event) rest) (.done ())

/-- Writes text to the terminal. -/
def output (text : String) : Dialogue Question Answer Unit := .report (.output text) (.done ())

/-- Asks one question and ends with its answer. -/
def question (question : Question) : Dialogue Question Answer (Answer question) :=
  .ask question .done

/-- Answers every question by a dialogue with another remote side. -/
def interpret {Question' : Type} {Answer' : Question' → Type}
    (exchange : (question : Question) → Dialogue Question' Answer' (Answer question)) :
    Dialogue Question Answer α → Dialogue Question' Answer' α
  | .done value => .done value
  | .report event rest => .report event (rest.interpret exchange)
  | .ask question next =>
    (exchange question).bind fun answer => (next answer).interpret exchange

/-- The same questions, where the user may break off the run instead of an answer. -/
abbrev Interruptible (Answer : Question → Type) (question : Question) : Type :=
  Option (Answer question)

/-- A dialogue that may be broken off at each question; it is abandoned at once, for another one. -/
def interruptible :
    Dialogue Question Answer α → (broken : Dialogue Question (Interruptible Answer) α) →
      Dialogue Question (Interruptible Answer) α
  | .done value, _ => .done value
  | .report event rest, broken => .report event (rest.interruptible broken)
  | .ask question next, broken => .ask question fun answer =>
    match answer with
    | some answer => (next answer).interruptible broken
    | none => broken

/-- What a run leaves: its value, its events, and the questions it asked, each in order. -/
structure Record (Question α : Type) where
  value : α
  events : List Event
  questions : List Question

/-- Plays a dialogue against a remote side with a state of its own. -/
def play {σ : Type} (respond : σ → (question : Question) → Answer question × σ) :
    Dialogue Question Answer α → σ → Record Question α × σ
  | .done value, state => ({ value, events := [], questions := [] }, state)
  | .report event rest, state =>
    let (record, final) := rest.play respond state
    ({ record with events := event :: record.events }, final)
  | .ask question next, state =>
    let (answer, state) := respond state question
    let (record, final) := (next answer).play respond state
    ({ record with questions := question :: record.questions }, final)

@[simp]
theorem bind_done (dialogue : Dialogue Question Answer α) : dialogue.bind .done = dialogue := by
  induction dialogue with
  | done => rfl
  | report event rest ih => simp [Dialogue.bind, ih]
  | ask question next ih => simp [Dialogue.bind, ih]

theorem bind_assoc (dialogue : Dialogue Question Answer α) (f : α → Dialogue Question Answer β)
    (g : β → Dialogue Question Answer γ) :
    (dialogue.bind f).bind g = dialogue.bind fun value => (f value).bind g := by
  induction dialogue with
  | done => rfl
  | report event rest ih => simp [Dialogue.bind, ih]
  | ask question next ih => simp [Dialogue.bind, ih]

instance : LawfulMonad (Dialogue Question Answer) :=
  LawfulMonad.mk' _ bind_done (fun _ _ => rfl) bind_assoc

end Dialogue

end ClusterUpgrade
