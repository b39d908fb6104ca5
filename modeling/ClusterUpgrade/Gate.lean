import ClusterUpgrade.Text.Blank
import ClusterUpgrade.Text.Decimal
import ClusterUpgrade.Time.Instant

/-!
Version gates: what an operator has to agree to before a cluster crosses a version boundary, and
when a consent token covers a list of gates.
-/

namespace ClusterUpgrade

structure VersionGate where
  id : String := ""
  versionPrefix : String := ""
  label : String := ""
  value : String := ""
  warning : String := ""
  description : String := ""
  documentationUrl : String := ""
  isAutomatic : Bool := false
  deriving Repr, DecidableEq, Inhabited

/-- A recorded agreement of a cluster to a gate. -/
structure GateAgreement where
  id : String := ""
  gate : VersionGate := {}
  createdAt : Option Instant := none
  deriving Repr, DecidableEq, Inhabited

namespace VersionGate

/-- A gate that does not apply by itself needs the operator's consent. -/
def needsConsent (gate : VersionGate) : Bool := !gate.isAutomatic

/-- The gates that need consent, in order. -/
def outstanding (gates : List VersionGate) : List VersionGate := gates.filter needsConsent

/-- The version that consent to a gate has to name: its own prefix, or a common one. -/
def effectivePrefix (common : String) (gate : VersionGate) : String :=
  if gate.versionPrefix = "" then common else gate.versionPrefix

/-- The entry of one gate in a numbered description. -/
def entry (position : Nat) (gate : VersionGate) : String :=
  "\n" ++ Text.natText position ++ ") " ++ gate.description ++ "\n"
    ++ (if gate.warning = "" then "" else "   Warning:     " ++ gate.warning ++ "\n")
    ++ "   URL:         " ++ gate.documentationUrl ++ "\n"

/-- The numbered entries of gates, counted from `position`. -/
def entries (position : Nat) : List VersionGate → String
  | [] => ""
  | gate :: rest => entry position gate ++ entries (position + 1) rest

/-- What the operator is told about the gates that need consent. -/
def describe (gates : List VersionGate) : String :=
  "\nMissing required acknowledgements to schedule upgrade."
    ++ "\nRead the below description and acknowledge to proceed with upgrade."
    ++ "\nDescription:" ++ entries 1 (outstanding gates)

end VersionGate

/-- The token that an operator really gave: without blanks around it, and not empty. -/
def givenToken (token : Option String) : Option String :=
  (token.map Text.trim).filter (· ≠ "")

/-- A token covers gates if it is the effective prefix of every one of them. -/
def consentCovers (token : Option String) (common : String) (gates : List VersionGate) : Bool :=
  match givenToken token with
  | none => false
  | some given => gates.all fun gate => given == gate.effectivePrefix common

/-- The consent that is asked for before an upgrade can be scheduled. -/
structure ConsentRequest where
  gates : List VersionGate
  token : Option String
  common : String
  deriving Repr, DecidableEq, Inhabited

namespace ConsentRequest

/-- The version to acknowledge: the first prefix that a gate names itself, or the common one. -/
def required (request : ConsentRequest) : String :=
  ((request.gates.map (·.versionPrefix)).find? (· ≠ "")).getD request.common

/-- The description of the gates, then what was given if anything was, then what is required. -/
def description (request : ConsentRequest) : String :=
  VersionGate.describe request.gates
    ++ (match givenToken request.token with
      | none => ""
      | some given =>
        "\nAcknowledgement was given for '" ++ given ++ "' but the upgrade requires '"
          ++ request.required ++ "'.")
    ++ "\nTo acknowledge these items, re-run with acknowledgements for version '"
    ++ request.required ++ "'."

end ConsentRequest

end ClusterUpgrade
