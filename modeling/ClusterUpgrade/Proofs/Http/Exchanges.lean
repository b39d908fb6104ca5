import ClusterUpgrade.Http.Client
import ClusterUpgrade.Proofs.Procedure.Calls

/-!
Remote calls behind the requests of a run. A run over HTTP may be broken off at any request. Main
statement: `exists_carries`, what such a run sends belongs to a run of the remote calls, so what is
known of the calls and their replies is known of the requests and their responses.
-/

namespace ClusterUpgrade.Http

open Dialogue

/-- A request with its answer, `none` if the run was broken off instead. -/
abbrev HttpExchange : Type := Exchange (Interruptible Answer)

namespace Client

variable {client : Client} {transcript : Transcript} {exchanges front rest : List HttpExchange}
  {request : Request}

/-! ### Single calls -/

/-- What `send` makes of an answer. -/
def resultOf (request : Request) (answer : Answer request) : Result Response :=
  match answer with
  | none => .error (.transport ("error sending request for url (" ++ request.url.text ++ ")"))
  | some response =>
    if Status.isSuccess response.status then .ok response else .error (.api (errorOf response))

theorem send_ok (request : Request) :
    send (.ok request) = .ask request fun answer => .done (resultOf request answer) :=
  rfl

theorem replyOf_transport (call : RemoteCall) (reason : String) :
    replyOf (.error (.transport reason)) call = .error (.transport reason) := by
  cases call with
  | policyStatus target => cases target <;> rfl
  | _ => rfl

theorem request_eq_ok {call : RemoteCall} (h : client.request call = .ok request) :
    ∃ url, client.url? call = some url ∧ request = client.requestTo call url := by
  unfold Client.request at h
  cases hurl : client.url? call with
  | none =>
    rw [hurl] at h
    cases h
  | some url =>
    simp only [hurl] at h
    split at h
    · cases h
    · split at h
      · cases h
      · cases h
        exact ⟨url, rfl, rfl⟩

/-- The requests that are no GET are those of the calls that do more than look something up. -/
theorem method_eq_get_iff {call : RemoteCall} (h : client.request call = .ok request) :
    request.method = .get ↔ call.isAction = false := by
  obtain ⟨url, -, rfl⟩ := request_eq_ok h
  cases call with
  | policyStatus target =>
    cases target with
    | cluster => exact iff_of_true rfl rfl
    | nodePool => exact iff_of_true rfl rfl
  | _ => simp [requestTo, route, RemoteCall.isAction]

/-- Among the exchanges is one for the call, from whose response the answer was read. -/
def Receives (client : Client) (exchanges : List HttpExchange) (call : RemoteCall)
    (answer : call.Answer) : Prop :=
  ∃ request response, client.request call = .ok request ∧
    ⟨request, some (some response)⟩ ∈ exchanges ∧
    replyOf (resultOf request (some response)) call = .ok answer

/-! ### Whole runs -/

/-- The calls of the transcript are made by the exchanges: each call by the one next in turn, unless
its request cannot be made. A run that is broken off stops at the request of a call. -/
inductive Carries (client : Client) : Transcript → List HttpExchange → Prop where
  | done : Carries client [] []
  | unsent {call : RemoteCall} {fault : RequestFault} {transcript : Transcript}
      {exchanges : List HttpExchange} (hrequest : client.request call = .error fault)
      (hrest : Carries client transcript exchanges) :
      Carries client (⟨call, replyOf (.error (.transport fault.message)) call⟩ :: transcript)
        exchanges
  | answered {call : RemoteCall} {request : Request} (answer : Answer request)
      {transcript : Transcript} {exchanges : List HttpExchange}
      (hrequest : client.request call = .ok request) (hrest : Carries client transcript exchanges) :
      Carries client (⟨call, replyOf (resultOf request answer) call⟩ :: transcript)
        (⟨request, some answer⟩ :: exchanges)
  | broken {call : RemoteCall} {reply : call.Reply} {request : Request} {transcript : Transcript}
      (hrequest : client.request call = .ok request) :
      Carries client (⟨call, reply⟩ :: transcript) [⟨request, none⟩]

theorem Receives.mono {call : RemoteCall} {answer : call.Answer}
    (h : Receives client front call answer) (hsubset : front ⊆ exchanges) :
    Receives client exchanges call answer := by
  obtain ⟨request, response, hrequest, hmem, hreply⟩ := h
  exact ⟨request, response, hrequest, hsubset hmem, hreply⟩

theorem Receives.unique {exchange : HttpExchange} {call : RemoteCall} {answer other : call.Answer}
    (h : Receives client [exchange] call answer) (hother : Receives client [exchange] call other) :
    answer = other := by
  obtain ⟨request, response, -, hmem, hreply⟩ := h
  obtain ⟨_, _, -, hmem', hreply'⟩ := hother
  obtain rfl := List.mem_singleton.mp hmem
  cases List.mem_singleton.mp hmem'
  cases hreply.symm.trans hreply'
  rfl

theorem receives_of_reply {call : RemoteCall} {answer : Answer request} {value : call.Answer}
    (hrequest : client.request call = .ok request)
    (hmem : ⟨request, some answer⟩ ∈ exchanges)
    (hreply : replyOf (resultOf request answer) call = .ok value) :
    Receives client exchanges call value := by
  cases answer with
  | none =>
    cases (replyOf_transport call _).symm.trans hreply
  | some response => exact ⟨request, response, hrequest, hmem, hreply⟩

theorem Carries.eq_nil (h : Carries client [] exchanges) : exchanges = [] := by
  cases h
  rfl

/-- Behind every request is a call, and all answers that calls before it had came over the exchanges
before it. -/
theorem Carries.exists_call {last : HttpExchange}
    (h : Carries client transcript (front ++ last :: rest)) :
    ∃ (first : Transcript) (call : RemoteCall) (reply : call.Reply) (others : Transcript),
      transcript = first ++ ⟨call, reply⟩ :: others ∧ client.request call = .ok last.1 ∧
        front.length ≤ first.length ∧ ∀ (call : RemoteCall) (answer : call.Answer),
          (⟨call, .ok answer⟩ : RemoteExchange) ∈ first → Receives client front call answer := by
  have hnothing (call : RemoteCall) (answer : call.Answer)
      (hmem : (⟨call, .ok answer⟩ : RemoteExchange) ∈ []) : Receives client [] call answer :=
    absurd hmem List.not_mem_nil
  generalize hexchanges : front ++ last :: rest = exchanges at h
  induction h generalizing front with
  | done => simp at hexchanges
  -- A call that was not sent leaves the exchanges as they are, and its reply is a failure.
  | @unsent call fault transcript exchanges hrequest hrest ih =>
    obtain ⟨first, next, reply, others, rfl, hnext, hlength, hreceives⟩ := ih hexchanges
    refine ⟨_ :: first, next, reply, others, rfl, hnext, Nat.le_succ_of_le hlength, ?_⟩
    intro earlier value hmem
    rcases List.mem_cons.mp hmem with heq | hmem
    · rw [replyOf_transport] at heq
      cases heq
    · exact hreceives earlier value hmem
  | @answered call request answer transcript exchanges hrequest hrest ih =>
    cases front with
    | nil =>
      cases hexchanges
      exact ⟨[], call, _, transcript, rfl, hrequest, Nat.zero_le 0, hnothing⟩
    | cons exchange front =>
      cases hexchanges
      obtain ⟨first, next, reply, others, rfl, hnext, hlength, hreceives⟩ := ih rfl
      refine ⟨_ :: first, next, reply, others, rfl, hnext, Nat.succ_le_succ hlength, ?_⟩
      intro earlier value hmem
      rcases List.mem_cons.mp hmem with heq | hmem
      · rw [Sigma.mk.injEq] at heq
        obtain ⟨rfl, hreply⟩ := heq
        exact receives_of_reply hrequest List.mem_cons_self (eq_of_heq hreply).symm
      · exact (hreceives earlier value hmem).mono (List.subset_cons_self _ _)
  | @broken call reply request transcript hrequest =>
    rcases List.append_eq_singleton_iff.mp hexchanges with ⟨rfl, hlast⟩ | ⟨-, hnil⟩
    · cases hlast
      exact ⟨[], call, reply, transcript, rfl, hrequest, Nat.zero_le 0, hnothing⟩
    · cases hnil

theorem Carries.exists_call_of_mem (h : Carries client transcript exchanges)
    (hmem : request ∈ exchanges.map Sigma.fst) :
    ∃ call ∈ transcript.calls, client.request call = .ok request := by
  obtain ⟨exchange, hexchange, rfl⟩ := List.mem_map.mp hmem
  obtain ⟨front, rest, rfl⟩ := List.append_of_mem hexchange
  obtain ⟨first, call, reply, others, rfl, hrequest, -, -⟩ := h.exists_call
  exact ⟨call, by simp, hrequest⟩

theorem Carries.countP_le (h : Carries client transcript exchanges) {kind : Request → Bool}
    {sends : RemoteCall → Bool}
    (hkind : ∀ call request, client.request call = .ok request → kind request = true →
      sends call = true) :
    (exchanges.map Sigma.fst).countP kind ≤ transcript.calls.countP sends := by
  induction h with
  | done => exact Nat.le_refl 0
  | unsent _ _ ih =>
    rw [Transcript.calls_cons, List.countP_cons]
    exact Nat.le_trans ih (Nat.le_add_right _ _)
  | @answered call request _ _ _ hrequest _ ih =>
    have hhead : kind request = true → sends call = true := hkind call request hrequest
    rw [Transcript.calls_cons, List.map_cons, List.countP_cons, List.countP_cons]
    grind
  | @broken call _ request _ hrequest =>
    have hhead : kind request = true → sends call = true := hkind call request hrequest
    rw [Transcript.calls_cons, List.map_singleton, List.countP_singleton, List.countP_cons]
    grind

/-! ### Dialogues -/

theorem runs_interruptible_logAll_bind_iff {α : Type} {events : List LogEvent}
    {next : Unit → HttpDialogue α} {broken : Dialogue Request (Interruptible Answer) α}
    {value : α} :
    ((((Dialogue.logAll events : HttpDialogue Unit).bind next).interruptible broken).Runs exchanges
      value) ↔ ((next ()).interruptible broken).Runs exchanges value := by
  induction events with
  | nil => rfl
  | cons event events ih => exact runs_report_iff.trans ih

theorem exists_runs {α : Type} (dialogue : RemoteDialogue α) :
    ∃ transcript value, dialogue.Runs transcript value := by
  let respond (_ : Unit) (call : RemoteCall) : call.Reply × Unit := (.error (.transport ""), ())
  exact ⟨dialogue.transcript respond (), _, dialogue.runs_transcript ()⟩

theorem exchange_eq (client : Client) (call : RemoteCall) :
    client.exchange call =
      .report (.log { level := .debug, source := .client, message := announcement call })
        ((send (client.request call)).bind fun result =>
          (Dialogue.logAll (afterword result call)).bind fun _ => .done (replyOf result call)) :=
  rfl

variable {α β : Type} {next : α → HttpDialogue β}
  {broken : Dialogue Request (Interruptible Answer) β}

/-- **Requests belong to calls.** A run that asks nothing more behind its calls, nor once it was
broken off, carries a run of these calls. -/
theorem exists_carries {dialogue : RemoteDialogue α} {value : β}
    (hnext : ∀ result exchanges value,
      ((next result).interruptible broken).Runs exchanges value → exchanges = [])
    (hbroken : ∀ exchanges value, broken.Runs exchanges value → exchanges = [])
    (h : (((client.connect dialogue).bind next).interruptible broken).Runs exchanges value) :
    ∃ transcript result, dialogue.Runs transcript result ∧ Carries client transcript exchanges := by
  induction dialogue generalizing exchanges with
  | done result =>
    obtain rfl := hnext result exchanges value h
    exact ⟨[], result, .done result, .done⟩
  | report event rest ih =>
    obtain ⟨transcript, result, hruns, hcarries⟩ := ih (runs_report_iff.mp h)
    exact ⟨transcript, result, .report hruns, hcarries⟩
  | ask call continuation ih =>
    rw [connect, interpret, exchange_eq] at h
    cases hrequest : client.request call with
    | error fault =>
      simp only [hrequest, send, Dialogue.bind, bind_assoc, interruptible, runs_report_iff,
        runs_interruptible_logAll_bind_iff] at h
      obtain ⟨transcript, result, hruns, hcarries⟩ := ih _ h
      exact ⟨_, result, .ask _ hruns, .unsent hrequest hcarries⟩
    | ok request =>
      simp only [hrequest, send_ok, Dialogue.bind, bind_assoc, interruptible, runs_report_iff] at h
      obtain ⟨(_ | answer), rest, rfl, hrest⟩ := runs_ask_iff.mp h
      -- The calls behind the break were never made; any run of them fits.
      · obtain rfl := hbroken rest value hrest
        obtain ⟨transcript, result, hruns⟩ := exists_runs (continuation (.error (.transport "")))
        exact ⟨_, result, .ask _ hruns, .broken hrequest⟩
      · obtain ⟨transcript, result, hruns, hcarries⟩ :=
          ih _ (runs_interruptible_logAll_bind_iff.mp hrest)
        exact ⟨_, result, .ask _ hruns, .answered answer hrequest hcarries⟩

end Client

end ClusterUpgrade.Http
