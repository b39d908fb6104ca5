import ClusterUpgrade.Proofs.Program.Startup
import ClusterUpgrade.Proofs.Schedule.Catalog

/-!
What an upgrade asks before it acts. Main statement: `Startup.LeadsTo.upgrade_validated`, every
request that is not a mere lookup stands behind a successful check of the desired version against
the catalog, whatever the server answers.
-/

namespace ClusterUpgrade

open Http Procedure

/-! ### Remote calls -/

namespace Command

variable {isStyled isDryRun : Bool} {pageSize : Nat} {request : UpgradeRequest} {now : Instant}
  {target : Target} {desired : DesiredVersion} {transcript first others : Transcript}

/-- How the calls of an upgrade begin: with the current version, and only if that is below the
desired one with lookups in the catalog. More follows only if these admit the upgrade. -/
inductive Begins (target : Target) (desired : DesiredVersion) : Transcript → Prop where
  | unsupported : Begins target desired []
  | alone (reply : (RemoteCall.currentVersion target).Reply) :
      Begins target desired [⟨.currentVersion target, reply⟩]
  | refused {currentId : String} {current : Version} {lookups : Transcript}
      (hcurrent : Release.version currentId = .ok current)
      (hbelow : current.isBelow desired.version = true)
      (hlookups : ∀ call ∈ lookups.calls, call.isAction = false) :
      Begins target desired (⟨.currentVersion target, .ok currentId⟩ :: lookups)
  | admitted {supported : Version} {currentId : String} {installed : VersionRecord}
      {found : List VersionRecord} {lookups rest : Transcript}
      (hsupported : Release.supportedVersion desired.rawId = .ok supported)
      (hlookups : ∀ call ∈ lookups.calls, call.isAction = false)
      (hadmits : Admits lookups.Holds desired currentId installed found) :
      Begins target desired (⟨.currentVersion target, .ok currentId⟩ :: (lookups ++ rest))

theorem begins_of_runs {result : Except UpgradeError Unit}
    (h : (runUpgrade isStyled pageSize request isDryRun now).Runs transcript result) :
    Begins request.target request.desired transcript := by
  unfold runUpgrade at h
  dsimp only at h
  cases hsupported : Release.supportedVersion request.desired.rawId with
  | error error =>
    rw [hsupported, runs_ofExcept_error_bind_iff] at h
    obtain ⟨rfl, -⟩ := h
    exact .unsupported
  | ok supported =>
    rw [hsupported, runs_ofExcept_ok_bind_iff, installedVersion, runs_call_bind_iff] at h
    rcases h with ⟨failure, rfl, -⟩ | ⟨currentId, rest, rfl, hrest⟩
    · exact .alone _
    rw [runs_bind_iff] at hrest
    rcases hrest with ⟨error, hcheck, -⟩ | ⟨lookups, more, check, rfl, hcheck, hmore⟩
    · cases validates_of_runs hcheck with
      | unread => exact .alone _
      | refused _ hcurrent hbelow =>
        exact .refused hcurrent hbelow (avoids_isAction_validateUpgrade _ _ hcheck)
    · cases validates_of_runs hcheck with
      | upToDate =>
        have hnone : more = [] := (Dialogue.runs_done_iff.mp (Dialogue.runs_report_iff.mp hmore)).1
        subst hnone
        exact .alone _
      | available hadmits =>
        exact .admitted hsupported
          (avoids_isAction_validateUpgrade _ _ hcheck) hadmits

/-- Only the current version is asked for unless it is below the desired one. -/
theorem Begins.first_or_below {call : RemoteCall} {reply : call.Reply}
    (h : Begins target desired (first ++ ⟨call, reply⟩ :: others)) :
    (first = [] ∧ call = .currentVersion target) ∨
      ∃ currentId current, first.Holds (.currentVersion target) currentId ∧
        Release.version currentId = .ok current ∧ current.isBelow desired.version = true := by
  generalize htranscript : first ++ ⟨call, reply⟩ :: others = transcript at h
  cases first with
  | nil =>
    cases h with
    | unsupported => cases htranscript
    | alone => exact .inl ⟨rfl, (Sigma.mk.inj (List.cons.inj htranscript).1).1⟩
    | refused => exact .inl ⟨rfl, (Sigma.mk.inj (List.cons.inj htranscript).1).1⟩
    | admitted => exact .inl ⟨rfl, (Sigma.mk.inj (List.cons.inj htranscript).1).1⟩
  | cons exchange first =>
    cases h with
    | unsupported => cases htranscript
    | alone =>
      obtain ⟨-, hnil⟩ := List.cons.inj htranscript
      exact absurd hnil (by simp)
    | refused hcurrent hbelow =>
      obtain ⟨rfl, -⟩ := List.cons.inj htranscript
      exact .inr ⟨_, _, List.mem_cons_self, hcurrent, hbelow⟩
    | admitted _ _ hadmits =>
      obtain ⟨rfl, -⟩ := List.cons.inj htranscript
      obtain ⟨current, hcurrent, hbelow⟩ := hadmits.isBelow
      exact .inr ⟨_, current, List.mem_cons_self, hcurrent, hbelow⟩

theorem prefix_of_isAction {call : RemoteCall} {reply : call.Reply} {lookups rest : Transcript}
    (hcall : call.isAction = true) (hlookups : ∀ call ∈ lookups.calls, call.isAction = false)
    (h : lookups ++ rest = first ++ ⟨call, reply⟩ :: others) : lookups <+: first := by
  rcases List.append_eq_append_iff.mp h with ⟨more, rfl, -⟩ | ⟨more, rfl, hmore⟩
  · exact List.prefix_append lookups more
  · cases more with
    | nil => simp
    | cons exchange more =>
      obtain ⟨rfl, -⟩ := List.cons.inj hmore
      cases hcall.symm.trans (hlookups call (by simp))

theorem Begins.admits {call : RemoteCall} {reply : call.Reply}
    (h : Begins target desired (first ++ ⟨call, reply⟩ :: others)) (hcall : call.isAction = true) :
    ∃ supported currentId installed found, Release.supportedVersion desired.rawId = .ok supported ∧
      first.Holds (.currentVersion target) currentId ∧
      Admits first.Holds desired currentId installed found := by
  generalize htranscript : first ++ ⟨call, reply⟩ :: others = transcript at h
  have hmem : call ∈ Transcript.calls (first ++ ⟨call, reply⟩ :: others) := by simp
  rw [htranscript] at hmem
  cases h with
  | unsupported => cases hmem
  | alone =>
    obtain rfl := List.mem_singleton.mp hmem
    cases hcall
  | refused _ _ hlookups =>
    rcases List.mem_cons.mp hmem with rfl | hmem
    · cases hcall
    · cases hcall.symm.trans (hlookups call hmem)
  -- An action cannot be among the lookups, so all of them stand in front of it.
  | @admitted supported currentId installed found lookups rest hsupported hlookups hadmits =>
    have hbefore : (⟨.currentVersion target, .ok currentId⟩ : RemoteExchange) :: lookups <+:
        first :=
      prefix_of_isAction hcall (List.forall_mem_cons.mpr ⟨rfl, hlookups⟩) htranscript.symm
    refine ⟨supported, currentId, installed, found, hsupported, ?_, ?_⟩
    · exact hbefore.subset List.mem_cons_self
    · exact hadmits.mono fun _ _ hholds => hbefore.subset (List.mem_cons_of_mem _ hholds)

end Command

/-! ### Requests -/

/-- The exchanges of an upgrade: no request but a GET is sent before the desired version was found
to be supported, above the current one, and offered by the catalog, and nothing follows on the
current version if that is the desired one. -/
structure Validated (client : Client) (target : Target) (desired : DesiredVersion)
    (exchanges : List HttpExchange) : Prop where
  admitted : ∀ front exchange rest, exchanges = front ++ exchange :: rest →
    exchange.1.method ≠ .get →
      ∃ supported currentId installed found,
        Release.supportedVersion desired.rawId = .ok supported ∧
        client.Receives front (.currentVersion target) currentId ∧
        Admits (client.Receives front) desired currentId installed found
  first : ∀ exchange rest, exchanges = exchange :: rest →
    client.request (.currentVersion target) = .ok exchange.1
  upToDate : ∀ exchange rest currentId, exchanges = exchange :: rest →
    client.Receives [exchange] (.currentVersion target) currentId →
      Release.version currentId = .ok desired.version → rest = []

theorem validated_of_carries {client : Client} {target : Target} {desired : DesiredVersion}
    {transcript : Transcript} {exchanges : List HttpExchange}
    (hbegins : Command.Begins target desired transcript)
    (hcarries : Client.Carries client transcript exchanges) :
    Validated client target desired exchanges where
  admitted := by
    rintro front exchange rest rfl hmethod
    obtain ⟨first, call, reply, others, rfl, hrequest, -, hreceives⟩ := hcarries.exists_call
    have hcall : call.isAction = true :=
      eq_true_of_ne_false (mt (Client.method_eq_get_iff hrequest).mpr hmethod)
    obtain ⟨supported, currentId, installed, found, hsupported, hcurrent, hadmits⟩ :=
      hbegins.admits hcall
    exact ⟨supported, currentId, installed, found, hsupported, hreceives _ _ hcurrent,
      hadmits.mono hreceives⟩
  first := by
    rintro exchange rest rfl
    rw [← List.nil_append (exchange :: rest)] at hcarries
    obtain ⟨first, call, reply, others, rfl, hrequest, -, hreceives⟩ := hcarries.exists_call
    rcases hbegins.first_or_below with ⟨-, rfl⟩ | ⟨currentId, -, hcurrent, -⟩
    · exact hrequest
    · obtain ⟨_, _, -, hmem, -⟩ := hreceives _ _ hcurrent
      cases hmem
  upToDate := by
    rintro exchange rest currentId rfl hcurrent hsame
    cases rest with
    | nil => rfl
    | cons next rest =>
      have hcarries : Client.Carries client transcript ([exchange] ++ next :: rest) := hcarries
      obtain ⟨first, call, reply, others, rfl, -, hlength, hreceives⟩ := hcarries.exists_call
      rcases hbegins.first_or_below with ⟨rfl, -⟩ | ⟨installedId, current, hholds, hversion, hbelow⟩
      · cases hlength
      · obtain rfl := (hreceives _ _ hholds).unique hcurrent
        cases hversion.symm.trans hsame
        exact absurd hbelow (Version.not_isBelow_self _)

/-- **Nothing is changed unchecked.** For every start of the program that asks for an upgrade, and
every way in which the server answers, breaking off included. -/
theorem Startup.LeadsTo.upgrade_validated {surroundings : Surroundings} {words : List String}
    {config : Config} {logged : LoggedRun} {target : Target} {version : String}
    {channelGroup consent : Option String} {isDryRun : Bool} {σ : Type}
    (h : Startup.LeadsTo surroundings words config logged)
    (hcommand : config.command = .upgrade target version channelGroup consent isDryRun)
    (respond : σ → (request : Request) → Dialogue.Interruptible Answer request × σ) (server : σ) :
    logged.run.transcript respond server = [] ∨
      ∃ desired, DesiredVersion.parse version channelGroup = .ok desired ∧
        Validated (Client.ofAddress config.apiUrl config.token) target desired
          (logged.run.transcript respond server) := by
  rcases h.carries (logged.run.runs_transcript server) with
    hnone | ⟨isStyled, transcript, result, hruns, hcarries⟩
  · exact .inl hnone
  rw [hcommand, Command.run] at hruns
  cases hdesired : DesiredVersion.parse version channelGroup with
  | error error =>
    rw [hdesired, runs_ofExcept_error_bind_iff] at hruns
    obtain ⟨rfl, -⟩ := hruns
    exact .inl hcarries.eq_nil
  | ok desired =>
    rw [hdesired, runs_ofExcept_ok_bind_iff] at hruns
    exact .inr ⟨desired, rfl, validated_of_carries (Command.begins_of_runs hruns) hcarries⟩

/-- The last two of the requests, a dry run and a creation, stand behind the record of `4.14.2`. -/
theorem Startup.posted_behind_catalog :
    let surroundings : Surroundings :=
      { environment := fun name => if name = "OCM_TOKEN" then some "secret" else none
        files := fun _ => .error "no such file"
        build := { commit := "", date := "" }
        now := .epoch
        isTerminal := false }
    let url := "http://127.0.0.1"
    let words := ["upgrade", "--cluster", "alpha", "--version", "4.14.2", "--url", url]
    let command : Command := .upgrade (.cluster "alpha") "4.14.2" none none false
    let arguments : Arguments := { command, url := some url, token := some "secret" }
    let config : Config := .merge arguments {}
    let responses : List Response :=
      ["\x7b\"version\": \x7b\"raw_id\": \"4.14.1\"\x7d\x7d",
       "\x7b\"available_upgrades\": [\"4.14.2\"]\x7d",
       "\x7b\"raw_id\": \"4.14.2\", \"rosa_enabled\": true\x7d",
       "\x7b\"items\": []\x7d", "", "\x7b\"id\": \"1\"\x7d"].map fun text =>
        { status := 200, body := some (Text.utf8 text) }
    let respond (left : List Response) (_ : Request) : Option (Option Response) × List Response :=
      (some left.head?, left.tail)
    ∃ logged desired, Startup.LeadsTo surroundings words config logged ∧
      (logged.run.play respond responses).1.questions.map Request.method =
        [.get, .get, .get, .get, .post, .post] ∧
      DesiredVersion.parse "4.14.2" none = .ok desired ∧
      Validated (Client.ofAddress config.apiUrl config.token) (.cluster "alpha") desired
        (logged.run.transcript respond responses) := by
  intro surroundings url words command arguments config responses respond
  have harguments : Arguments.parse surroundings.environment words = .ok arguments :=
    ok_of_toOption_eq_some (by decide +kernel)
  obtain ⟨logged, hlogged⟩ : ∃ logged, LeadsTo surroundings words config logged :=
    exists_leadsTo harguments rfl (by decide +kernel)
  have hmethods : (logged.run.play respond responses).1.questions.map Request.method =
      [.get, .get, .get, .get, .post, .post] := by
    rw [hlogged.run_eq]
    decide +kernel
  rcases hlogged.upgrade_validated rfl respond responses with
    hnone | ⟨desired, hdesired, hvalidated⟩
  · rw [← Dialogue.map_fst_transcript, hnone] at hmethods
    cases hmethods
  · exact ⟨logged, desired, hlogged, hmethods, hdesired, hvalidated⟩

end ClusterUpgrade
