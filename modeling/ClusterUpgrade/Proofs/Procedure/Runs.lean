import ClusterUpgrade.Proofs.Dialogue.Runs
import ClusterUpgrade.Proofs.Outcome
import ClusterUpgrade.Remote.Call

/-!
Runs of procedures. A procedure runs along a transcript of remote calls to a value or an error; the
lemmas here take such runs apart, from single calls to sequences.
-/

namespace ClusterUpgrade

/-- A remote call with its reply. -/
abbrev RemoteExchange : Type := Dialogue.Exchange RemoteCall.Reply

abbrev Transcript : Type := List RemoteExchange

namespace Procedure

variable {α β : Type} {transcript : Transcript}

/-- A procedure runs along a transcript, whoever gave the replies in it, to its result. -/
def Runs (procedure : Procedure α) (transcript : Transcript) (result : Except UpgradeError α) :
    Prop :=
  Dialogue.Runs procedure.run transcript result

/-- Every play is a run whose calls the remote side has answered. -/
theorem exists_runs {σ : Type} (respond : σ → (call : RemoteCall) → call.Reply × σ)
    (procedure : Procedure α) (remote : σ) :
    ∃ transcript, procedure.Runs transcript (procedure.run.play respond remote).1.value ∧
      transcript.map Sigma.fst = (procedure.run.play respond remote).1.questions ∧
      Dialogue.Answered respond remote transcript (procedure.run.play respond remote).2 := by
  refine ⟨procedure.run.transcript respond remote, ?_, ?_, ?_⟩
  · exact procedure.run.runs_transcript remote
  · exact procedure.run.map_fst_transcript remote
  · exact procedure.run.answered_transcript remote

theorem runs_of_play {σ : Type} {respond : σ → (call : RemoteCall) → call.Reply × σ}
    {procedure : Procedure α} {remote : σ} {result : Except UpgradeError α}
    (h : (procedure.run.play respond remote).1.value = result) :
    ∃ transcript, procedure.Runs transcript result ∧
      transcript.map Sigma.fst = (procedure.run.play respond remote).1.questions ∧
      Dialogue.Answered respond remote transcript (procedure.run.play respond remote).2 := by
  rw [← h]
  exact exists_runs respond procedure remote

/-- A run whose calls the remote side has answered is what comes of a play. -/
theorem play_of_runs {σ : Type} {respond : σ → (call : RemoteCall) → call.Reply × σ}
    {procedure : Procedure α} {remote final : σ} {result : Except UpgradeError α}
    (hruns : procedure.Runs transcript result)
    (hanswered : Dialogue.Answered respond remote transcript final) :
    (procedure.run.play respond remote).1.value = result ∧
      (procedure.run.play respond remote).1.questions = transcript.map Sigma.fst ∧
      (procedure.run.play respond remote).2 = final :=
  Dialogue.play_of_runs hruns hanswered

@[simp]
theorem runs_pure_iff {value : α} {result : Except UpgradeError α} :
    (pure value : Procedure α).Runs transcript result ↔ transcript = [] ∧ result = .ok value :=
  Dialogue.runs_done_iff

@[simp]
theorem runs_throw_iff {error : UpgradeError} {result : Except UpgradeError α} :
    (throw error : Procedure α).Runs transcript result ↔ transcript = [] ∧ result = .error error :=
  Dialogue.runs_done_iff

theorem runs_call_iff {operation subject : String} {call : RemoteCall}
    {result : Except UpgradeError call.Answer} :
    (Procedure.call operation subject call).Runs transcript result ↔
      ∃ reply : call.Reply, transcript = [⟨call, reply⟩] ∧
        result = reply.mapError (.remote operation subject) := by
  constructor
  · intro h
    obtain ⟨reply, rest, rfl, hrest⟩ := Dialogue.runs_ask_iff.mp h
    obtain ⟨rfl, rfl⟩ := Dialogue.runs_done_iff.mp hrest
    exact ⟨reply, rfl, rfl⟩
  · rintro ⟨reply, rfl, rfl⟩
    exact .ask reply (.done _)

/-- A sequence of procedures either ends with the error of the first one, or runs on with its
value. -/
theorem runs_bind_iff {procedure : Procedure α} {next : α → Procedure β}
    {result : Except UpgradeError β} :
    (procedure >>= next).Runs transcript result ↔
      (∃ error, procedure.Runs transcript (.error error) ∧ result = .error error) ∨
        ∃ first second value, transcript = first ++ second ∧ procedure.Runs first (.ok value) ∧
          (next value).Runs second result := by
  refine Dialogue.runs_bind_iff.trans ?_
  constructor
  · rintro ⟨first, second, (error | value), rfl, hfirst, hsecond⟩
    · obtain ⟨rfl, rfl⟩ := Dialogue.runs_done_iff.mp hsecond
      exact .inl ⟨error, (List.append_nil first).symm ▸ hfirst, rfl⟩
    · exact .inr ⟨first, second, value, rfl, hfirst, hsecond⟩
  · rintro (⟨error, hfirst, rfl⟩ | ⟨first, second, value, rfl, hfirst, hsecond⟩)
    · exact ⟨transcript, [], .error error, (List.append_nil _).symm, hfirst, .done _⟩
    · exact ⟨first, second, .ok value, rfl, hfirst, hsecond⟩

theorem runs_attempt_bind_iff {call : RemoteCall} {next : call.Reply → Procedure β}
    {result : Except UpgradeError β} :
    (attempt call >>= next).Runs transcript result ↔
      ∃ (reply : call.Reply) (rest : Transcript),
        transcript = ⟨call, reply⟩ :: rest ∧ (next reply).Runs rest result :=
  Dialogue.runs_ask_iff

@[simp]
theorem runs_log_bind_iff {level : LogLevel} {source : LogSource} {message : String}
    {next : Unit → Procedure β} {result : Except UpgradeError β} :
    (log level source message >>= next).Runs transcript result ↔ (next ()).Runs transcript result :=
  Dialogue.runs_report_iff

@[simp]
theorem runs_logAll_bind_iff {events : List LogEvent} {next : Unit → Procedure β}
    {result : Except UpgradeError β} :
    (logAll events >>= next).Runs transcript result ↔ (next ()).Runs transcript result := by
  induction events with
  | nil => rfl
  | cons event events ih => exact Dialogue.runs_report_iff.trans ih

@[simp]
theorem runs_ofExcept_ok_bind_iff {value : α} {next : α → Procedure β}
    {result : Except UpgradeError β} :
    (ofExcept (.ok value) >>= next).Runs transcript result ↔
      (next value).Runs transcript result :=
  Iff.rfl

@[simp]
theorem runs_ofExcept_error_bind_iff {error : UpgradeError} {next : α → Procedure β}
    {result : Except UpgradeError β} :
    (ofExcept (.error error) >>= next).Runs transcript result ↔
      transcript = [] ∧ result = .error error :=
  Dialogue.runs_done_iff

end Procedure

end ClusterUpgrade
