import ClusterUpgrade.Proofs.Procedure.Transcript

/-!
Calls that a procedure never makes, whatever comes back for the others. A sequence of procedures
avoids what each of them avoids, so what a procedure does not do can be told from its parts.
-/

namespace ClusterUpgrade

/-- A call that does more than look something up. -/
def RemoteCall.isAction : RemoteCall → Bool
  | .deletePolicy .. | .createPolicy .. | .dryRunPolicy .. | .agreeToGate .. => true
  | _ => false

theorem RemoteCall.isAction_of_isReading {call : RemoteCall} (h : call.isReading = true) :
    call.isAction = false := by
  cases call with
  | listPolicies => rfl
  | policyStatus => rfl
  | _ => cases h

namespace Procedure

variable {α β : Type} {kind : RemoteCall → Bool} {procedure : Procedure α} {next : α → Procedure β}
  {call : RemoteCall}

/-- However it runs, the procedure makes no call of a kind. -/
def Avoids (kind : RemoteCall → Bool) (procedure : Procedure α) : Prop :=
  ∀ (transcript : Transcript) result, procedure.Runs transcript result →
    ∀ call ∈ transcript.calls, kind call = false

theorem Avoids.bind (hprocedure : Avoids kind procedure)
    (hnext : ∀ value, Avoids kind (next value)) : Avoids kind (procedure >>= next) := by
  intro transcript result hruns call hcall
  rcases runs_bind_iff.mp hruns with
    ⟨error, hfirst, -⟩ | ⟨first, second, value, rfl, hfirst, hsecond⟩
  · exact hprocedure transcript _ hfirst call hcall
  · rw [Transcript.calls_append] at hcall
    rcases List.mem_append.mp hcall with hcall | hcall
    · exact hprocedure first _ hfirst call hcall
    · exact hnext value second result hsecond call hcall

/-- A procedure that only ever runs along the empty transcript makes no calls at all. -/
theorem avoids_of_silent
    (hsilent : ∀ (transcript : Transcript) result, procedure.Runs transcript result →
      transcript = []) : Avoids kind procedure := by
  intro transcript result hruns
  obtain rfl := hsilent transcript result hruns
  exact List.forall_mem_nil _

theorem avoids_pure {value : α} : Avoids kind (pure value) :=
  avoids_of_silent fun _ _ hruns => (runs_pure_iff.mp hruns).1

theorem avoids_throw {error : UpgradeError} : Avoids kind (throw error : Procedure α) :=
  avoids_of_silent fun _ _ hruns => (runs_throw_iff.mp hruns).1

theorem avoids_ofExcept {result : Except UpgradeError α} : Avoids kind (ofExcept result) :=
  avoids_of_silent fun _ _ hruns => (Dialogue.runs_done_iff.mp hruns).1

theorem avoids_log {level : LogLevel} {source : LogSource} {message : String} :
    Avoids kind (log level source message) :=
  avoids_of_silent fun _ _ hruns =>
    (Dialogue.runs_done_iff.mp (Dialogue.runs_report_iff.mp hruns)).1

theorem avoids_output {text : String} : Avoids kind (output text) :=
  avoids_of_silent fun _ _ hruns =>
    (Dialogue.runs_done_iff.mp (Dialogue.runs_report_iff.mp hruns)).1

theorem avoids_call {operation subject : String} (hkind : kind call = false) :
    Avoids kind (Procedure.call operation subject call) := by
  intro transcript result hruns
  obtain ⟨reply, rfl, -⟩ := runs_call_iff.mp hruns
  exact List.forall_mem_singleton.mpr hkind

end Procedure

end ClusterUpgrade
