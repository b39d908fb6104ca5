import ClusterUpgrade.Proofs.Http.Routes
import ClusterUpgrade.Proofs.Program.Startup
import ClusterUpgrade.Proofs.Schedule.Catalog
import ClusterUpgrade.Proofs.Schedule.Pass

/-!
Commands that change nothing. Main statement: `Startup.sends_readOnly`, all that they send are
lookups and at most one gate check, whatever the server answers.

Ids stand in URLs as they are, so a mark of a query or a fragment in an id, or in the address of the
server, moves what stands behind it out of the path. The gate check then goes to another resource,
still as a dry run and with the draft of a policy.
-/

namespace ClusterUpgrade

open Http Procedure

variable {α β : Type} {target : Target} {desired : DesiredVersion}

/-! ### Procedures -/

namespace Procedure

variable {m n : Nat} {procedure : Procedure α} {next : α → Procedure β}

/-- However it runs, the procedure makes no other actions than so many gate checks of a target. -/
def OnlyChecks (bound : Nat) (target : Target) (procedure : Procedure α) : Prop :=
  ∀ (transcript : Transcript) result, procedure.Runs transcript result →
    ∃ drafts : List PolicyDraft, drafts.length ≤ bound ∧
      transcript.calls.filter RemoteCall.isAction = drafts.map (.dryRunPolicy target)

theorem Avoids.onlyChecks (h : Avoids RemoteCall.isAction procedure) :
    OnlyChecks n target procedure := by
  intro transcript result hruns
  have hnone : transcript.calls.filter RemoteCall.isAction = [] := by
    rw [List.filter_eq_nil_iff]
    intro call hcall
    rw [h transcript result hruns call hcall]
    exact Bool.false_ne_true
  exact ⟨[], Nat.zero_le n, hnone⟩

theorem OnlyChecks.bind (hprocedure : OnlyChecks m target procedure)
    (hnext : ∀ value, OnlyChecks n target (next value)) :
    OnlyChecks (m + n) target (procedure >>= next) := by
  intro transcript result hruns
  rcases runs_bind_iff.mp hruns with
    ⟨error, hfirst, -⟩ | ⟨first, second, value, rfl, hfirst, hsecond⟩
  · obtain ⟨drafts, hlength, hcalls⟩ := hprocedure transcript _ hfirst
    exact ⟨drafts, Nat.le_add_right_of_le hlength, hcalls⟩
  · obtain ⟨drafts, hlength, hcalls⟩ := hprocedure first _ hfirst
    obtain ⟨others, hothers, hmore⟩ := hnext value second result hsecond
    refine ⟨drafts ++ others, ?_, ?_⟩
    · rw [List.length_append]
      exact Nat.add_le_add hlength hothers
    · rw [Transcript.calls_append, List.filter_append, hcalls, hmore, List.map_append]

/-- What only looks something up does not count. -/
theorem Avoids.bind_onlyChecks (hprocedure : Avoids RemoteCall.isAction procedure)
    (hnext : ∀ value, OnlyChecks n target (next value)) :
    OnlyChecks n target (procedure >>= next) :=
  Nat.zero_add n ▸ hprocedure.onlyChecks.bind hnext

theorem OnlyChecks.bind_avoids (hprocedure : OnlyChecks n target procedure)
    (hnext : ∀ value, Avoids RemoteCall.isAction (next value)) :
    OnlyChecks n target (procedure >>= next) := by
  have hnothing (value : α) : OnlyChecks 0 target (next value) := (hnext value).onlyChecks
  exact hprocedure.bind hnothing

end Procedure

theorem onlyChecks_gateCheck : OnlyChecks 1 target (GateCheck.run target desired) := by
  intro transcript result hruns
  obtain ⟨reply, rfl, -⟩ := GateCheck.runs_run_iff.mp hruns
  exact ⟨[.manual desired.rawId], Nat.le_refl 1, rfl⟩

theorem onlyChecks_explainGates : OnlyChecks 1 target (explainGates target desired) := by
  rw [explainGates]
  refine avoids_ofExcept.bind_onlyChecks fun _ => ?_
  refine onlyChecks_gateCheck.bind_avoids fun check => ?_
  cases check with
  | clear => exact avoids_pure
  | missing gates => exact avoids_pure

theorem avoids_isAction_upgrades {pageSize : Nat} :
    Avoids RemoteCall.isAction (Listing.upgrades target pageSize) := by
  intro transcript result hruns call hcall
  exact RemoteCall.isAction_of_isReading
    (Listing.isReading_of_mem_readingCalls ((Listing.runs_upgrades hruns).mem_script hcall))

/-! ### Commands -/

namespace Command

variable {isStyled : Bool} {pageSize : Nat} {now : Instant}

/-- Whether a command is one of those that change nothing. -/
def isReadOnly : Command → Bool
  | .upgrade _ _ _ _ isDryRun => isDryRun
  | _ => true

/-- Whether a command looks for version gates. -/
def checksGates : Command → Bool
  | .upgrade .. | .gates .. => true
  | _ => false

theorem avoids_isAction_installedVersion :
    Avoids RemoteCall.isAction (installedVersion target) :=
  avoids_call rfl

theorem onlyChecks_showGates : OnlyChecks 1 target (showGates isStyled target desired) := by
  rw [showGates]
  exact onlyChecks_explainGates.bind_avoids fun _ => avoids_output

theorem onlyChecks_previewUpgrade {request : UpgradeRequest} :
    OnlyChecks 1 request.target (previewUpgrade isStyled pageSize request now) := by
  unfold previewUpgrade
  dsimp only
  have hpreview : Avoids RemoteCall.isAction (previewPlan pageSize request.target
      request.desired now) :=
    avoids_previewPlan fun _ => RemoteCall.isAction_of_isReading
  refine hpreview.bind_onlyChecks fun plan => ?_
  refine avoids_output.bind_onlyChecks fun _ => ?_
  split
  · refine onlyChecks_explainGates.bind_avoids fun description => ?_
    split
    · exact avoids_output
    · exact avoids_pure
  · exact avoids_pure.onlyChecks

theorem onlyChecks_runUpgrade {request : UpgradeRequest} :
    OnlyChecks 1 request.target (runUpgrade isStyled pageSize request true now) := by
  unfold runUpgrade
  dsimp only
  refine avoids_ofExcept.bind_onlyChecks fun _ => ?_
  refine avoids_isAction_installedVersion.bind_onlyChecks fun current => ?_
  refine avoids_isAction_validateUpgrade.bind_onlyChecks fun check => ?_
  cases check with
  | upToDate => exact avoids_output.onlyChecks
  | available record => exact onlyChecks_previewUpgrade

theorem avoids_isAction_showVersions :
    Avoids RemoteCall.isAction (showVersions isStyled target) :=
  avoids_isAction_installedVersion.bind fun _ =>
    UpgradeCatalog.avoids_isAction_ofInstalled.bind fun _ =>
      UpgradeCatalog.avoids_isAction_collectOffered.bind fun _ => avoids_output

theorem avoids_isAction_showPolicies :
    Avoids RemoteCall.isAction (showPolicies isStyled pageSize target) :=
  avoids_isAction_upgrades.bind fun _ => avoids_output

/-- How many gate checks a command may make. -/
def checkLimit (command : Command) : Nat := if command.checksGates then 1 else 0

theorem onlyChecks_run {command : Command} (h : command.isReadOnly = true) :
    OnlyChecks command.checkLimit command.target (command.run isStyled pageSize now) := by
  cases command with
  | upgrade target version channelGroup consent isDryRun =>
    obtain rfl : isDryRun = true := h
    exact avoids_ofExcept.bind_onlyChecks fun desired => onlyChecks_runUpgrade
  | gates target version =>
    exact avoids_ofExcept.bind_onlyChecks fun desired => onlyChecks_showGates
  | versions target => exact avoids_isAction_showVersions.onlyChecks
  | policies target => exact avoids_isAction_showPolicies.onlyChecks

end Command

/-! ### Requests -/

namespace Http

/-- The URL that the address of the server spells with the path of a target and of its policies. -/
def Client.policiesUrl? (client : Client) (target : Target) : Option Url :=
  Url.parse? (client.baseUrl ++ "/" ++ (target.path ++ "/upgrade_policies"))

/-- A request that checks the gates of a target: a draft for its policies, with the dry run as the
last of the parameters. -/
structure Client.ChecksGates (client : Client) (target : Target) (request : Request) : Prop where
  method : request.method = .post
  url : ∃ url, client.policiesUrl? target = some url ∧
    request.url = url.withoutCredentials.withParameter "dryRun" "true"
  dryRun : ∃ query, request.url.query = some query ∧
    (Text.splitOn '&' query).getLast? = some "dryRun=true".toList
  body : ∃ draft, request.body = some (Wire.ofDraft draft)

/-- A gate check that reaches the policies of its target. Ids without slashes and dot segments stand
in the path as they are. -/
structure Client.ReachesPolicies (client : Client) (target : Target) (request : Request) :
    Prop where
  method : request.method = .post
  path : ∃ url, client.policiesUrl? target = some url ∧ request.url.path = url.path
  last : "/upgrade_policies".toList <:+ request.url.path
  named : (∀ id ∈ target.ids, IsUrlId id) →
    ("/" ++ target.path ++ "/upgrade_policies").toList <:+ request.url.path
  query : request.url.query = some "dryRun=true".toList

theorem Url.getLast?_query_withParameter (url : Url) :
    ∃ query, (url.withParameter "dryRun" "true").query = some query ∧
      (Text.splitOn '&' query).getLast? = some "dryRun=true".toList := by
  have halone : Text.splitOn '&' "dryRun=true".toList = ["dryRun=true".toList] := by decide
  cases hquery : url.query with
  | none => exact ⟨_, query_withParameter hquery "dryRun" "true", by decide⟩
  | some query =>
    cases query with
    | nil => exact ⟨"dryRun=true".toList, by rw [withParameter, hquery]; rfl, by decide⟩
    | cons c more =>
      refine ⟨c :: more ++ '&' :: "dryRun=true".toList, by rw [withParameter, hquery]; rfl, ?_⟩
      rw [Text.splitOn_append, halone, List.getLast?_concat]

theorem Client.checksGates_of_request {client : Client} {draft : PolicyDraft} {request : Request}
    (h : client.request (.dryRunPolicy target draft) = .ok request) :
    client.ChecksGates target request := by
  obtain ⟨url, hurl, rfl⟩ := request_eq_ok h
  obtain ⟨parsed, hparsed, heq⟩ := Option.bind_eq_some_iff.mp hurl
  cases heq
  exact ⟨rfl, ⟨parsed, hparsed, rfl⟩, Url.getLast?_query_withParameter _, draft, rfl⟩

theorem Url.isPlain_upgradePolicies : IsPlain "upgrade_policies".toList where
  kept := by decide
  encoded := by decide
  undotted := by decide

theorem Client.path_of_policiesUrl? {client : Client} {url : Url}
    (h : client.policiesUrl? target = some url)
    (hquery : '?' ∉ (client.baseUrl ++ target.path).toList)
    (hfragment : '#' ∉ (client.baseUrl ++ target.path).toList) :
    url.query = none ∧ ∃ front, url.path = front ++ "/upgrade_policies".toList := by
  have hletter : 'c' ∈ target.path.toList := by
    cases target with
    | cluster => simp [Target.path]
    | nodePool => simp [Target.path]
  have hends : Url.EndsIn "/upgrade_policies".toList
      (client.baseUrl ++ "/" ++ (target.path ++ "/upgrade_policies")).toList := by
    refine ⟨(client.baseUrl ++ "/" ++ target.path).toList, ?_, ?_⟩
    · simp only [String.toList_append, List.append_assoc]
    · simp [hletter]
  refine Url.path_of_parse h hends Url.isPlain_upgradePolicies ?_ ?_
  · simpa using hquery
  · simpa using hfragment

theorem Client.named_of_policiesUrl? {client : Client} {url : Url}
    (h : client.policiesUrl? target = some url) (hletter : 'c' ∈ client.baseUrl.toList)
    (hquery : '?' ∉ client.baseUrl.toList) (hfragment : '#' ∉ client.baseUrl.toList)
    (hids : ∀ id ∈ target.ids, IsUrlId id) :
    ("/" ++ target.path ++ "/upgrade_policies").toList <:+ url.path := by
  let check : RemoteCall := .dryRunPolicy target default
  have hbelow : ("/" ++ target.path ++ "/upgrade_policies").toList =
      Url.below ((segments check).map String.toList) := by
    rw [← route_eq_below check]
    simp [check, route, policiesPath]
  have htext : (client.baseUrl ++ "/" ++ (target.path ++ "/upgrade_policies")).toList =
      client.baseUrl.toList ++ ("/" ++ target.path ++ "/upgrade_policies").toList := by simp
  have hplain : Url.ArePlain ((segments check).map String.toList) := arePlain_segments hids
  obtain ⟨before, hbefore⟩ := Url.path_of_front hletter hquery hfragment
  rw [policiesUrl?, Url.parse?, htext, hbelow] at h
  rw [hbelow]
  exact ⟨before, (hbefore _ _ hplain h).2.symm⟩

theorem Client.ChecksGates.reachesPolicies {client : Client} {request : Request}
    (h : client.ChecksGates target request) (hletter : 'c' ∈ client.baseUrl.toList)
    (hquery : '?' ∉ (client.baseUrl ++ target.path).toList)
    (hfragment : '#' ∉ (client.baseUrl ++ target.path).toList) :
    client.ReachesPolicies target request := by
  obtain ⟨url, hurl, hrequest⟩ := h.url
  obtain ⟨hnone, front, hfront⟩ := path_of_policiesUrl? hurl hquery hfragment
  obtain ⟨credentials, hstripped⟩ := url.exists_withoutCredentials_eq
  have hpath : request.url.path = url.path := by
    rw [hrequest, hstripped]
    rfl
  have hparameters : request.url.query = some "dryRun=true".toList := by
    rw [hrequest, hstripped]
    exact Url.query_withParameter hnone "dryRun" "true"
  refine ⟨h.method, ⟨url, hurl, hpath⟩, ⟨front, hfront.symm.trans hpath.symm⟩, ?_, hparameters⟩
  rw [String.toList_append, List.mem_append, not_or] at hquery hfragment
  intro hids
  rw [hpath]
  exact named_of_policiesUrl? hurl hletter hquery.1 hfragment.1 hids

end Http

/-- Neither the address of the server nor an id of the target holds the mark of a query or of a
fragment. -/
def Config.IsUnmarked (config : Config) : Prop :=
  ∀ text ∈ config.apiUrl :: config.command.target.ids, '?' ∉ text.toList ∧ '#' ∉ text.toList

instance (config : Config) : Decidable config.IsUnmarked := by
  unfold Config.IsUnmarked
  infer_instance

theorem Config.IsUnmarked.not_mem {config : Config} (h : config.IsUnmarked) (token : String)
    {mark : Char} (hmark : mark = '?' ∨ mark = '#') :
    mark ∉
      ((Client.ofAddress config.apiUrl token).baseUrl ++ config.command.target.path).toList := by
  have hfree : ∀ text ∈ config.apiUrl :: config.command.target.ids, mark ∉ text.toList := by
    intro text htext
    rcases hmark with rfl | rfl
    · exact (h text htext).1
    · exact (h text htext).2
  obtain ⟨haddress, hids⟩ := List.forall_mem_cons.mp hfree
  have hbase : mark ∉ (Client.ofAddress config.apiUrl token).baseUrl.toList := fun hmem => by
    refine (Client.mem_of_mem_baseUrl hmem).elim haddress ?_
    rcases hmark with rfl | rfl <;> decide
  have hpath : mark ∉ config.command.target.path.toList := by
    have hwords : mark ∉ "clusters/".toList ∧ mark ∉ "/node_pools/".toList := by
      rcases hmark with rfl | rfl <;> decide
    cases htarget : config.command.target with
    | cluster id =>
      rw [htarget] at hids
      simp only [Target.ids, List.forall_mem_singleton] at hids
      simp only [Target.path, String.toList_append, List.mem_append, hwords.1, hids, or_self,
        not_false_iff]
    | nodePool id pool =>
      rw [htarget] at hids
      simp only [Target.ids, List.forall_mem_cons] at hids
      simp only [Target.path, String.toList_append, List.mem_append, hwords.1, hwords.2, hids.1,
        hids.2.1, or_self, not_false_iff]
  rw [String.toList_append, List.mem_append, not_or]
  exact ⟨hbase, hpath⟩

/-- What a command sends that changes nothing: lookups, and at most one gate check, by the commands
that look for gates. -/
structure ChangesNothing (client : Client) (command : Command) (requests : List Request) :
    Prop where
  lookup_or_check : ∀ request ∈ requests, request.method = .get ∨
    command.checksGates = true ∧ client.ChecksGates command.target request
  checks_le_one : requests.countP (fun request => request.method == .post) ≤ 1
  no_deletion : ∀ request ∈ requests, request.method ≠ .delete
  no_agreement : ∀ request ∈ requests, ∀ gateId, request.body ≠ some (Wire.agreementDraft gateId)

/-- What such a command sends if paths are what they are meant to be. -/
structure SendsReadOnly (client : Client) (command : Command) (requests : List Request) : Prop where
  lookup_or_check : ∀ request ∈ requests, request.method = .get ∨
    command.checksGates = true ∧ client.ReachesPolicies command.target request
  checks_le_one : requests.countP (fun request => request.method == .post) ≤ 1
  no_deletion : ∀ request ∈ requests, request.method ≠ .delete
  no_agreement : ∀ request ∈ requests, request.method ≠ .get →
    ¬"/gate_agreements".toList <:+ request.url.path

section Carried

variable {client : Client} {command : Command} {transcript : Transcript}
  {exchanges : List HttpExchange} {drafts : List PolicyDraft}

theorem lookup_or_check_of_carries (hcarries : Client.Carries client transcript exchanges)
    (hlimit : drafts.length ≤ command.checkLimit)
    (hactions : transcript.calls.filter RemoteCall.isAction =
      drafts.map (.dryRunPolicy command.target)) :
    ∀ request ∈ exchanges.map Sigma.fst, request.method = .get ∧ request.body = none ∨
      command.checksGates = true ∧ client.ChecksGates command.target request := by
  intro request hmem
  obtain ⟨call, hcall, hrequest⟩ := hcarries.exists_call_of_mem hmem
  cases haction : call.isAction with
  | false =>
    have hbody : request.body = none := by
      obtain ⟨url, -, rfl⟩ := Client.request_eq_ok hrequest
      cases call <;> first | rfl | cases haction
    exact .inl ⟨(Client.method_eq_get_iff hrequest).mpr haction, hbody⟩
  | true =>
    have hcheck : call ∈ drafts.map (.dryRunPolicy command.target) :=
      hactions ▸ List.mem_filter.mpr ⟨hcall, haction⟩
    obtain ⟨draft, hdraft, rfl⟩ := List.mem_map.mp hcheck
    have hlimit : 0 < command.checkLimit :=
      Nat.lt_of_lt_of_le (List.length_pos_of_mem hdraft) hlimit
    refine .inr ⟨?_, Client.checksGates_of_request hrequest⟩
    by_contra hnone
    rw [Command.checkLimit, if_neg hnone] at hlimit
    exact Nat.lt_irrefl 0 hlimit

theorem countP_post_le_of_carries (hcarries : Client.Carries client transcript exchanges) :
    (exchanges.map Sigma.fst).countP (fun request => request.method == .post) ≤
      transcript.calls.countP RemoteCall.isAction := by
  apply hcarries.countP_le
  intro call request hrequest hpost
  refine eq_true_of_ne_false (mt (Client.method_eq_get_iff hrequest).mpr ?_)
  rw [beq_iff_eq.mp hpost]
  nofun

theorem changesNothing_of_carries (hcarries : Client.Carries client transcript exchanges)
    (hlimit : drafts.length ≤ command.checkLimit)
    (hactions : transcript.calls.filter RemoteCall.isAction =
      drafts.map (.dryRunPolicy command.target)) :
    ChangesNothing client command (exchanges.map Sigma.fst) where
  lookup_or_check request hmem :=
    (lookup_or_check_of_carries hcarries hlimit hactions request hmem).imp_left And.left
  checks_le_one :=
    calc (exchanges.map Sigma.fst).countP (fun request => request.method == .post)
      _ ≤ transcript.calls.countP RemoteCall.isAction := countP_post_le_of_carries hcarries
      _ = drafts.length := by rw [List.countP_eq_length_filter, hactions, List.length_map]
      _ ≤ command.checkLimit := hlimit
      _ ≤ 1 := by rw [Command.checkLimit]; split <;> decide
  no_deletion := by
    intro request hmem hdelete
    rcases lookup_or_check_of_carries hcarries hlimit hactions request hmem with
      ⟨hget, -⟩ | ⟨-, hcheck⟩
    · cases hget.symm.trans hdelete
    · cases hcheck.method.symm.trans hdelete
  no_agreement := by
    intro request hmem gateId hagreement
    rcases lookup_or_check_of_carries hcarries hlimit hactions request hmem with
      ⟨-, hnone⟩ | ⟨-, hcheck⟩
    · cases hnone.symm.trans hagreement
    · obtain ⟨draft, hdraft⟩ := hcheck.body
      have hdocuments : Wire.ofDraft draft = Wire.agreementDraft gateId :=
        Option.some.inj (hdraft.symm.trans hagreement)
      simp [Wire.ofDraft, Wire.agreementDraft] at hdocuments

end Carried

theorem ChangesNothing.sendsReadOnly {config : Config} {token : String} {requests : List Request}
    (h : ChangesNothing (Client.ofAddress config.apiUrl token) config.command requests)
    (hmarks : config.IsUnmarked) :
    SendsReadOnly (Client.ofAddress config.apiUrl token) config.command requests := by
  have hreaches {request : Request} (hcheck :
      (Client.ofAddress config.apiUrl token).ChecksGates config.command.target request) :
      (Client.ofAddress config.apiUrl token).ReachesPolicies config.command.target request :=
    hcheck.reachesPolicies Client.letter_mem_baseUrl (hmarks.not_mem token (.inl rfl))
      (hmarks.not_mem token (.inr rfl))
  refine ⟨?_, h.checks_le_one, h.no_deletion, ?_⟩
  · intro request hmem
    exact (h.lookup_or_check request hmem).imp_right (And.imp_right hreaches)
  · intro request hmem hpost hagreements
    obtain ⟨-, hcheck⟩ := (h.lookup_or_check request hmem).resolve_left hpost
    -- One of the two ends would be an end of the other.
    rcases List.suffix_or_suffix_of_suffix (hreaches hcheck).last hagreements with hend | hend
    · exact absurd hend (by decide)
    · exact absurd hend (by decide)

namespace Startup

variable {surroundings : Surroundings} {words : List String} {logged : LoggedRun}

/-- **What changes nothing.** For every command line that leads to a run, and every way in which the
server answers, breaking off included. -/
theorem sends_readOnly (h : Startup.ofWords surroundings words = .ready logged) :
    ∃ config, Startup.LeadsTo surroundings words config logged ∧
      (config.command.isReadOnly = true → ∀ {σ : Type}
        (respond : σ → (request : Request) → Dialogue.Interruptible Answer request × σ)
        (server : σ),
        let client := Client.ofAddress config.apiUrl config.token
        let requests := (logged.run.play respond server).1.questions
        ChangesNothing client config.command requests ∧
          (config.IsUnmarked → SendsReadOnly client config.command requests)) := by
  obtain ⟨config, hleads⟩ := exists_leadsTo_of_ready h
  refine ⟨config, hleads, fun hcommand σ respond server => ?_⟩
  intro client requests
  have hnothing : ChangesNothing client config.command requests := by
    unfold requests
    rw [← Dialogue.map_fst_transcript]
    rcases hleads.carries (logged.run.runs_transcript server) with
      hnone | ⟨isStyled, transcript, result, hruns, hcarries⟩
    · have hunsent : ([] : List PolicyDraft).length ≤ config.command.checkLimit := Nat.zero_le _
      rw [hnone]
      exact changesNothing_of_carries .done hunsent rfl
    · obtain ⟨drafts, hlimit, hactions⟩ := Command.onlyChecks_run hcommand transcript result hruns
      exact changesNothing_of_carries hcarries hlimit hactions
  exact ⟨hnothing, hnothing.sendsReadOnly⟩

/-- Looking for gates sends one request, and goes no further without an answer. -/
theorem checked_once_by_gates :
    let surroundings : Surroundings :=
      { environment := fun name => if name = "OCM_TOKEN" then some "secret" else none
        files := fun _ => .error "no such file"
        build := { commit := "", date := "" }
        now := .epoch
        isTerminal := false }
    let url := "http://127.0.0.1"
    let words := ["gates", "--cluster", "alpha", "--version", "4.14.2", "--url", url]
    let command : Command := .gates (.cluster "alpha") "4.14.2"
    let arguments : Arguments := { command, url := some url, token := some "secret" }
    let config : Config := .merge arguments {}
    let respond (_ : Unit) (_ : Request) : Option (Option Response) × Unit := (some none, ())
    ∃ logged, Startup.LeadsTo surroundings words config logged ∧
      (logged.run.play respond ()).1.questions.map Request.method = [.post] ∧
      SendsReadOnly (Client.ofAddress config.apiUrl config.token) command
        (logged.run.play respond ()).1.questions := by
  intro surroundings url words command arguments config respond
  have harguments : Arguments.parse surroundings.environment words = .ok arguments :=
    ok_of_toOption_eq_some (by decide +kernel)
  obtain ⟨logged, hlogged⟩ : ∃ logged, LeadsTo surroundings words config logged :=
    exists_leadsTo harguments rfl (by decide +kernel)
  have hmethods : (logged.run.play respond ()).1.questions.map Request.method = [.post] := by
    rw [hlogged.run_eq]
    decide +kernel
  obtain ⟨found, hfound, hsends⟩ := sends_readOnly hlogged.ready
  obtain rfl : found = config := hfound.config_unique hlogged
  exact ⟨logged, hlogged, hmethods, (hsends rfl respond ()).2 (by decide)⟩

/-- A mark in an id cuts off the end of the path, so the gate check of one command goes to the gate
agreements of a cluster. -/
theorem not_sendsReadOnly_behindFragment :
    let surroundings : Surroundings :=
      { environment := fun name => if name = "OCM_TOKEN" then some "secret" else none
        files := fun _ => .error "no such file"
        build := { commit := "", date := "" }
        now := .epoch
        isTerminal := false }
    let url := "http://127.0.0.1"
    let cluster := "123/gate_agreements#"
    let words := ["gates", "--cluster", cluster, "--version", "4.14.1", "--url", url]
    let command : Command := .gates (.cluster cluster) "4.14.1"
    let arguments : Arguments := { command, url := some url, token := some "secret" }
    let config : Config := .merge arguments {}
    let respond (_ : Unit) (_ : Request) : Option (Option Response) × Unit := (some none, ())
    ∃ logged, Startup.LeadsTo surroundings words config logged ∧ command.isReadOnly = true ∧
      (logged.run.play respond ()).1.questions.map
        (fun request => (request.method, String.ofList request.url.path)) =
          [(.post, "/api/clusters_mgmt/v1/clusters/123/gate_agreements")] ∧
      ¬SendsReadOnly (Client.ofAddress config.apiUrl config.token) command
        (logged.run.play respond ()).1.questions := by
  intro surroundings url cluster words command arguments config respond
  have harguments : Arguments.parse surroundings.environment words = .ok arguments :=
    ok_of_toOption_eq_some (by decide +kernel)
  obtain ⟨logged, hlogged⟩ : ∃ logged, LeadsTo surroundings words config logged :=
    exists_leadsTo harguments rfl (by decide +kernel)
  have hsent : (logged.run.play respond ()).1.questions.map
      (fun request => (request.method, String.ofList request.url.path)) =
        [(.post, "/api/clusters_mgmt/v1/clusters/123/gate_agreements")] := by
    rw [hlogged.run_eq]
    decide +kernel
  refine ⟨logged, hlogged, rfl, hsent, fun hsends => ?_⟩
  obtain ⟨request, hquestions, hshown⟩ := List.map_eq_singleton_iff.mp hsent
  obtain ⟨hmethod, hpath⟩ := Prod.mk.inj hshown
  have hmem : request ∈ (logged.run.play respond ()).1.questions :=
    hquestions ▸ List.mem_singleton_self request
  have hpost : request.method ≠ .get := by
    rw [hmethod]
    decide
  refine hsends.no_agreement request hmem hpost ?_
  rw [← String.toList_ofList (l := request.url.path), hpath]
  decide

end Startup

end ClusterUpgrade
