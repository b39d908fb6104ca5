import ClusterUpgrade.Program
import ClusterUpgrade.Proofs.Http.Exchanges

/-!
From the start of the program to the calls of its command. Main statement: `LeadsTo.carries`, a run
sends nothing, or its requests belong to a run of the command that its configuration holds.
-/

namespace ClusterUpgrade

open Dialogue Http

theorem Run.eq_nil_of_runs_fail {Question : Type} {Answer : Question → Type} {message : String}
    {exchanges : List (Exchange Answer)} {code : Nat}
    (h : (Run.fail message : Dialogue Question Answer Nat).Runs exchanges code) : exchanges = [] :=
  (runs_done_iff.mp (runs_report_iff.mp h)).1

theorem Run.eq_nil_of_runs_interrupted {exchanges : List HttpExchange} {code : Nat}
    (h : Run.interrupted.Runs exchanges code) : exchanges = [] :=
  eq_nil_of_runs_fail (runs_report_iff.mp h)

/-- What a run sends once its configuration has been checked. -/
theorem Run.carries_of_runs_exchanges {isStyled : Bool} {config : Config} {now : Instant}
    {exchanges : List HttpExchange} {code : Nat}
    (h : ((Run.exchanges isStyled config now).interruptible Run.interrupted).Runs exchanges code) :
    ∃ transcript result,
      (config.command.run isStyled config.pageSize now).Runs transcript result ∧
        Client.Carries (Client.ofAddress config.apiUrl config.token) transcript exchanges := by
  refine Client.exists_carries ?_ (fun _ _ => eq_nil_of_runs_interrupted) h
  intro result exchanges code hend
  cases result with
  | ok value => exact (runs_done_iff.mp hend).1
  | error error => exact (runs_done_iff.mp (runs_report_iff.mp hend)).1

namespace Startup

/-- The words, with what surrounds the program, lead to a configuration, and a run is ready. -/
structure LeadsTo (surroundings : Surroundings) (words : List String) (config : Config)
    (logged : LoggedRun) : Prop where
  configured : ∃ arguments, Arguments.parse surroundings.environment words = .ok arguments ∧
    Config.ofArguments surroundings.files arguments = .ok config
  ready : Startup.ofWords surroundings words = .ready logged

variable {surroundings : Surroundings} {words : List String} {config : Config}
  {logged : LoggedRun}

theorem exists_leadsTo_of_ready (h : Startup.ofWords surroundings words = .ready logged) :
    ∃ config, LeadsTo surroundings words config logged := by
  unfold Startup.ofWords at h
  cases harguments : Arguments.parse surroundings.environment words with
  | error error =>
    rw [harguments] at h
    cases h
  | ok arguments =>
    cases hconfig : Config.ofArguments surroundings.files arguments with
    | error error =>
      simp only [harguments, hconfig] at h
      cases h
    | ok config => exact ⟨config, ⟨arguments, harguments, hconfig⟩, h⟩

theorem exists_leadsTo {arguments : Arguments}
    (harguments : Arguments.parse surroundings.environment words = .ok arguments)
    (hconfig : Config.ofArguments surroundings.files arguments = .ok config)
    (hfilter : (filterOf surroundings.environment config.logLevel).isOk = true) :
    ∃ logged, LeadsTo surroundings words config logged := by
  have hready : ∃ logged, Startup.ofWords surroundings words = .ready logged := by
    simp only [Startup.ofWords, harguments, hconfig]
    cases hread : filterOf surroundings.environment config.logLevel with
    | error fault =>
      rw [hread] at hfilter
      cases hfilter
    | ok filter => exact ⟨_, rfl⟩
  obtain ⟨logged, hready⟩ := hready
  exact ⟨logged, ⟨arguments, harguments, hconfig⟩, hready⟩

theorem LeadsTo.config_unique {other : Config} {otherLogged : LoggedRun}
    (h : LeadsTo surroundings words config logged)
    (hother : LeadsTo surroundings words other otherLogged) : config = other := by
  obtain ⟨⟨arguments, harguments, hconfig⟩, -⟩ := h
  obtain ⟨⟨otherArguments, hotherArguments, hotherConfig⟩, -⟩ := hother
  cases harguments.symm.trans hotherArguments
  exact Except.ok.inj (hconfig.symm.trans hotherConfig)

theorem LeadsTo.run_eq (h : LeadsTo surroundings words config logged) :
    logged.run = Run.ofConfig (isStyled surroundings.environment surroundings.isTerminal)
      surroundings.build config surroundings.now := by
  obtain ⟨⟨arguments, harguments, hconfig⟩, hready⟩ := h
  simp only [Startup.ofWords, harguments, hconfig] at hready
  split at hready
  · cases hready
  · cases hready
    rfl

/-- **Runs and their commands.** Whatever the server answers, and wherever the run is broken off. -/
theorem LeadsTo.carries (h : LeadsTo surroundings words config logged)
    {exchanges : List HttpExchange} {code : Nat} (hruns : logged.run.Runs exchanges code) :
    exchanges = [] ∨ ∃ isStyled transcript result,
      (config.command.run isStyled config.pageSize surroundings.now).Runs transcript result ∧
        Client.Carries (Client.ofAddress config.apiUrl config.token) transcript exchanges := by
  rw [h.run_eq] at hruns
  have hruns := runs_report_iff.mp hruns
  cases hvalid : config.validate with
  | ok =>
    rw [hvalid] at hruns
    exact .inr ⟨_, Run.carries_of_runs_exchanges hruns⟩
  | error error =>
    rw [hvalid] at hruns
    exact .inl (Run.eq_nil_of_runs_fail hruns)

end Startup

end ClusterUpgrade
