import ClusterUpgrade.Proofs.Procedure.Transcript

/-!
Procedures that make the calls of a script. Such a procedure makes all calls in order and ends with
its value, or it breaks off at the first call that fails; `Performs.cons` adds a call in front and
`Performs.append` joins two scripts.
-/

namespace ClusterUpgrade

namespace Procedure

variable {α β : Type} {transcript : Transcript} {result : Except UpgradeError β}

theorem runs_call_bind_iff {operation subject : String} {call : RemoteCall}
    {next : call.Answer → Procedure β} :
    (Procedure.call operation subject call >>= next).Runs transcript result ↔
      (∃ failure, transcript = [⟨call, .error failure⟩] ∧
        result = .error (.remote operation subject failure)) ∨
      ∃ (answer : call.Answer) (rest : Transcript),
        transcript = ⟨call, .ok answer⟩ :: rest ∧ (next answer).Runs rest result := by
  rw [runs_bind_iff]
  constructor
  · rintro (⟨error, hcall, rfl⟩ | ⟨first, second, value, rfl, hcall, hnext⟩)
    · obtain ⟨(failure | answer), rfl, herror⟩ := runs_call_iff.mp hcall
      · cases herror
        exact .inl ⟨failure, rfl, rfl⟩
      · cases herror
    · obtain ⟨(failure | answer), rfl, hvalue⟩ := runs_call_iff.mp hcall
      · cases hvalue
      · cases hvalue
        exact .inr ⟨value, second, rfl, hnext⟩
  · rintro (⟨failure, rfl, rfl⟩ | ⟨answer, rest, rfl, hnext⟩)
    · exact .inl ⟨_, runs_call_iff.mpr ⟨.error failure, rfl, rfl⟩, rfl⟩
    · exact .inr ⟨[⟨call, .ok answer⟩], rest, answer, rfl,
        runs_call_iff.mpr ⟨.ok answer, rfl, rfl⟩, hnext⟩

theorem runs_bind_pure_iff {procedure : Procedure α} {f : α → β} :
    (procedure >>= fun value => pure (f value)).Runs transcript result ↔
      ∃ inner, procedure.Runs transcript inner ∧ result = inner.map f := by
  rw [runs_bind_iff]
  constructor
  · rintro (⟨error, hrun, rfl⟩ | ⟨first, second, value, rfl, hrun, hpure⟩)
    · exact ⟨.error error, hrun, rfl⟩
    · obtain ⟨rfl, rfl⟩ := runs_pure_iff.mp hpure
      exact ⟨.ok value, (List.append_nil first).symm ▸ hrun, rfl⟩
  · rintro ⟨(error | value), hrun, rfl⟩
    · exact .inl ⟨error, hrun, rfl⟩
    · exact .inr ⟨transcript, [], value, (List.append_nil _).symm, hrun, runs_pure_iff.mpr ⟨rfl, rfl⟩⟩

end Procedure

namespace Transcript

variable {α β : Type} {target : Target} {script more : List RemoteCall} {value : α}
  {transcript first second : Transcript} {result : Except UpgradeError α} {error : UpgradeError}

/-- The calls of the transcript are those of the script and all succeed, which leads to the value, or
the transcript breaks off on the way. -/
def Performs (target : Target) (script : List RemoteCall) (value : α) (transcript : Transcript)
    (result : Except UpgradeError α) : Prop :=
  transcript.calls <+: script ∧
    ((result = .ok value ∧ transcript.Settled ∧ transcript.calls = script) ∨
      ∃ error, result = .error error ∧ transcript.BreaksOff target error)

theorem performs_nil (value : α) : Performs target [] value [] (.ok value) :=
  ⟨List.nil_prefix, .inl ⟨rfl, settled_nil, rfl⟩⟩

theorem performs_of_failure {call : RemoteCall} {failure : RemoteFailure} :
    Performs target (call :: script) value [⟨call, .error failure⟩]
      (.error (.remote call.operation target.text failure)) :=
  ⟨List.prefix_append [call] script, .inr ⟨_, rfl, [], call, failure, rfl, settled_nil, rfl⟩⟩

theorem Performs.cons (f : α → β) (call : RemoteCall) (answer : call.Answer)
    (h : Performs target script value transcript result) :
    Performs target (call :: script) (f value) (⟨call, .ok answer⟩ :: transcript) (result.map f) := by
  have hsettled : RemoteExchange.Settled ⟨call, .ok answer⟩ := .inl ⟨answer, rfl⟩
  obtain ⟨hstart, ⟨rfl, hrest, hcalls⟩ | ⟨error, rfl, hbroken⟩⟩ := h
  · refine ⟨List.prefix_cons_inj call |>.mpr hstart, .inl ⟨rfl, ?_, congrArg _ hcalls⟩⟩
    exact settled_cons_iff.mpr ⟨hsettled, hrest⟩
  · refine ⟨List.prefix_cons_inj call |>.mpr hstart, .inr ⟨error, rfl, ?_⟩⟩
    exact hbroken.append (settled_cons_iff.mpr ⟨hsettled, settled_nil⟩)

theorem Performs.ok (h : Performs target script value transcript result) {found : α}
    (hresult : result = .ok found) :
    found = value ∧ transcript.Settled ∧ transcript.calls = script := by
  obtain ⟨-, ⟨hok, hsettled, hcalls⟩ | ⟨error, herror, -⟩⟩ := h
  · cases hresult.symm.trans hok
    exact ⟨rfl, hsettled, hcalls⟩
  · cases hresult.symm.trans herror

theorem Performs.breaksOff (h : Performs target script value transcript (.error error)) :
    transcript.BreaksOff target error := by
  obtain ⟨-, ⟨hok, -⟩ | ⟨_, herror, hbroken⟩⟩ := h
  · cases hok
  · cases herror
    exact hbroken

theorem Performs.extend {other : β} (h : Performs target script value transcript (.error error)) :
    Performs target (script ++ more) other transcript (.error error) :=
  ⟨h.1.trans (List.prefix_append script more), .inr ⟨error, rfl, h.breaksOff⟩⟩

theorem Performs.append {found : β} {result : Except UpgradeError α} {other : β}
    (hfirst : Performs target script other first (.ok found))
    (hsecond : Performs target more value second result) :
    Performs target (script ++ more) value (first ++ second) result := by
  obtain ⟨-, hsettled, rfl⟩ := hfirst.ok rfl
  obtain ⟨hstart, ⟨rfl, hmore, rfl⟩ | ⟨error, rfl, hbroken⟩⟩ := hsecond
  · exact ⟨by simp, .inl ⟨rfl, settled_append_iff.mpr ⟨hsettled, hmore⟩, calls_append⟩⟩
  · refine ⟨?_, .inr ⟨error, rfl, hbroken.append hsettled⟩⟩
    rw [calls_append]
    exact (List.prefix_append_right_inj first.calls).mpr hstart

theorem Performs.mem_script (h : Performs target script value transcript result) {call : RemoteCall}
    (hcall : call ∈ transcript.calls) : call ∈ script :=
  h.1.subset hcall

end Transcript

end ClusterUpgrade
