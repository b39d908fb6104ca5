import ClusterUpgrade.Dialogue
import Mathlib.Data.List.Basic

/-!
Transcripts of dialogues. A dialogue runs along a transcript to a value if the transcript answers
each of its questions in turn. Every play against a remote side is such a run, and runs of a sequence
of dialogues split where one dialogue hands over to the next, so what a dialogue asks can be told
without a remote side. What a remote side answers is told apart from it, by `Answered`.
-/

namespace ClusterUpgrade.Dialogue

variable {Question : Type} {Answer : Question → Type} {α β σ : Type}

/-- A question with the answer that it was given. -/
abbrev Exchange (Answer : Question → Type) : Type := (question : Question) × Answer question

/-- A dialogue runs along a transcript, whoever gave the answers in it, and ends with a value. -/
inductive Runs : Dialogue Question Answer α → List (Exchange Answer) → α → Prop where
  | done (value : α) : Runs (.done value) [] value
  | report {event : Event} {rest : Dialogue Question Answer α} {transcript : List (Exchange Answer)}
      {value : α} : Runs rest transcript value → Runs (.report event rest) transcript value
  | ask {question : Question} {next : Answer question → Dialogue Question Answer α}
      {transcript : List (Exchange Answer)} {value : α} (answer : Answer question) :
      Runs (next answer) transcript value →
        Runs (.ask question next) (⟨question, answer⟩ :: transcript) value

@[simp]
theorem runs_done_iff {value result : α} {transcript : List (Exchange Answer)} :
    (Dialogue.done value : Dialogue Question Answer α).Runs transcript result ↔
      transcript = [] ∧ result = value := by
  constructor
  · rintro ⟨⟩
    exact ⟨rfl, rfl⟩
  · rintro ⟨rfl, rfl⟩
    exact .done _

@[simp]
theorem runs_report_iff {event : Event} {rest : Dialogue Question Answer α}
    {transcript : List (Exchange Answer)} {value : α} :
    (Dialogue.report event rest).Runs transcript value ↔ rest.Runs transcript value := by
  constructor
  · rintro ⟨⟩
    assumption
  · exact .report

theorem runs_ask_iff {question : Question} {next : Answer question → Dialogue Question Answer α}
    {transcript : List (Exchange Answer)} {value : α} :
    (Dialogue.ask question next).Runs transcript value ↔
      ∃ answer rest, transcript = ⟨question, answer⟩ :: rest ∧ (next answer).Runs rest value := by
  constructor
  · rintro ⟨⟩
    exact ⟨_, _, rfl, by assumption⟩
  · rintro ⟨answer, rest, rfl, hrest⟩
    exact .ask answer hrest

/-- A run of two dialogues in sequence is a run of the first and then one of the second. -/
theorem runs_bind_iff {dialogue : Dialogue Question Answer α}
    {next : α → Dialogue Question Answer β} {transcript : List (Exchange Answer)} {value : β} :
    (dialogue.bind next).Runs transcript value ↔
      ∃ first second result, transcript = first ++ second ∧ dialogue.Runs first result ∧
        (next result).Runs second value := by
  induction dialogue generalizing transcript with
  | done result =>
    constructor
    · intro h
      exact ⟨[], transcript, result, rfl, .done result, h⟩
    · rintro ⟨first, second, result', rfl, hfirst, hsecond⟩
      obtain ⟨rfl, rfl⟩ := runs_done_iff.mp hfirst
      exact hsecond
  | report event rest ih => simpa [Dialogue.bind] using ih
  | ask question continuation ih =>
    simp only [Dialogue.bind, runs_ask_iff, ih]
    constructor
    · rintro ⟨answer, _, rfl, first, second, result, rfl, hfirst, hsecond⟩
      exact ⟨_, second, result, rfl, ⟨answer, first, rfl, hfirst⟩, hsecond⟩
    · rintro ⟨_, second, result, rfl, ⟨answer, first, rfl, hfirst⟩, hsecond⟩
      exact ⟨answer, _, rfl, first, second, result, rfl, hfirst, hsecond⟩

/-! ### Remote sides -/

variable (respond : σ → (question : Question) → Answer question × σ)

/-- The exchanges of a play, in order. -/
def transcript : Dialogue Question Answer α → σ → List (Exchange Answer)
  | .done _, _ => []
  | .report _ rest, state => rest.transcript state
  | .ask question next, state =>
    let (answer, after) := respond state question
    ⟨question, answer⟩ :: (next answer).transcript after

/-- A remote side gives the answers of a transcript one after the other and ends in a state. -/
def Answered : σ → List (Exchange Answer) → σ → Prop
  | state, [], final => final = state
  | state, exchange :: rest, final =>
    exchange.2 = (respond state exchange.1).1 ∧ Answered (respond state exchange.1).2 rest final

variable {respond}

theorem runs_transcript (dialogue : Dialogue Question Answer α) (state : σ) :
    dialogue.Runs (dialogue.transcript respond state) (dialogue.play respond state).1.value := by
  induction dialogue generalizing state with
  | done value => exact .done value
  | report event rest ih => exact .report (ih state)
  | ask question next ih => exact .ask _ (ih _ _)

theorem answered_transcript (dialogue : Dialogue Question Answer α) (state : σ) :
    Answered respond state (dialogue.transcript respond state)
      (dialogue.play respond state).2 := by
  induction dialogue generalizing state with
  | done value => rfl
  | report event rest ih => exact ih state
  | ask question next ih => exact ⟨rfl, ih _ _⟩

theorem map_fst_transcript (dialogue : Dialogue Question Answer α) (state : σ) :
    (dialogue.transcript respond state).map Sigma.fst =
      (dialogue.play respond state).1.questions := by
  induction dialogue generalizing state with
  | done value => rfl
  | report event rest ih => exact ih state
  | ask question next ih => exact congrArg (question :: ·) (ih _ _)

/-- A remote side has only one way to play a dialogue. -/
theorem play_of_runs {dialogue : Dialogue Question Answer α} {state final : σ}
    {transcript : List (Exchange Answer)} {value : α} (hruns : dialogue.Runs transcript value)
    (hanswered : Answered respond state transcript final) :
    (dialogue.play respond state).1.value = value ∧
      (dialogue.play respond state).1.questions = transcript.map Sigma.fst ∧
      (dialogue.play respond state).2 = final := by
  induction hruns generalizing state with
  | done value => exact ⟨rfl, rfl, hanswered.symm⟩
  | report _ ih => exact ih hanswered
  | ask answer _ ih =>
    obtain ⟨hanswer, hrest⟩ := hanswered
    obtain rfl : answer = (respond state _).1 := hanswer
    obtain ⟨hvalue, hquestions, hfinal⟩ := ih hrest
    exact ⟨hvalue, congrArg (List.cons _) hquestions, hfinal⟩

@[simp]
theorem answered_append_iff {state final : σ} {first second : List (Exchange Answer)} :
    Answered respond state (first ++ second) final ↔
      ∃ middle, Answered respond state first middle ∧ Answered respond middle second final := by
  induction first generalizing state with
  | nil => simp [Answered]
  | cons exchange first ih => simp [Answered, ih, and_assoc]

@[simp]
theorem answered_singleton_iff {state final : σ} {exchange : Exchange Answer} :
    Answered respond state [exchange] final ↔
      exchange.2 = (respond state exchange.1).1 ∧ final = (respond state exchange.1).2 :=
  Iff.rfl

/-! ### Plays in sequence -/

variable (respond) in
/-- Plays dialogues one after the other against one remote side; their records, and the state in
which they leave it. -/
def playAll : List (Dialogue Question Answer α) → σ → List (Record Question α) × σ
  | [], state => ([], state)
  | dialogue :: rest, state =>
    let (record, after) := dialogue.play respond state
    let (records, final) := playAll rest after
    (record :: records, final)

/-- Dialogues that all leave a state as it is do so one after the other, too, and each has the record
that it has from the start. -/
theorem playAll_of_unchanged {dialogues : List (Dialogue Question Answer α)} {state : σ}
    {holds : Record Question α → Prop}
    (h : ∀ dialogue ∈ dialogues, (dialogue.play respond state).2 = state ∧
      holds (dialogue.play respond state).1) :
    (playAll respond dialogues state).2 = state ∧
      (playAll respond dialogues state).1.length = dialogues.length ∧
        ∀ record ∈ (playAll respond dialogues state).1, holds record := by
  induction dialogues with
  | nil => exact ⟨rfl, rfl, List.forall_mem_nil _⟩
  | cons dialogue rest ih =>
    obtain ⟨⟨hstate, hrecord⟩, hrest⟩ := List.forall_mem_cons.mp h
    obtain ⟨hfinal, hlength, hrecords⟩ := ih hrest
    simp only [playAll, hstate, List.length_cons, hlength]
    exact ⟨hfinal, trivial, List.forall_mem_cons.mpr ⟨hrecord, hrecords⟩⟩

end ClusterUpgrade.Dialogue
