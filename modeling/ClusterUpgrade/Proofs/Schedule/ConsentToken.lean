import ClusterUpgrade.Proofs.Schedule.Consent
import ClusterUpgrade.Proofs.Text.Cutting
import ClusterUpgrade.Proofs.Text.Digits
import ClusterUpgrade.Remote.Memory
import ClusterUpgrade.Report

/-!
The token that consents to a list of gates. Main statements: `required_isOnlyToken`, if any token is
accepted, then exactly the one that the request for consent names; and `suggestedToken_covers_iff`,
the token that the terminal suggests is accepted exactly if no gate names another version.

The required version is the effective prefix of one of the gates, so it is the common one where they
all agree. The suggested one is taken from the desired version alone, whatever the gates say.
-/

namespace ClusterUpgrade

open Text

variable {gates : List VersionGate} {gate : VersionGate} {common text : String}

/-! ### Prefixes -/

namespace Version

theorem gatePrefix_ne_empty (version : Version) : version.gatePrefix ≠ "" := by
  rw [gatePrefix, ne_eq, String.ofList_eq_empty_iff]
  exact List.append_ne_nil_of_left_ne_nil (digits_ne_nil _) _

theorem trim_gatePrefix (version : Version) : trim version.gatePrefix = version.gatePrefix := by
  have hchars : ∀ c ∈ version.gatePrefix.toList, isBlank c = false := by
    intro c hc
    rw [gatePrefix, String.toList_ofList, List.mem_append, List.mem_cons] at hc
    rcases hc with hmajor | rfl | hminor
    · exact isBlank_of_isDigit (isDigit_of_mem_digits _ c hmajor)
    · decide
    · exact isBlank_of_isDigit (isDigit_of_mem_digits _ c hminor)
  rw [trim, trimChars_eq_self_of_forall hchars, String.ofList_toList]

end Version

theorem VersionGate.effectivePrefix_ne_empty (hcommon : common ≠ "") :
    gate.effectivePrefix common ≠ "" := by
  unfold effectivePrefix
  by_cases hown : gate.versionPrefix = ""
  · rwa [if_pos hown]
  · rwa [if_neg hown]

theorem VersionGate.effectivePrefix_eq_common_iff :
    gate.effectivePrefix common = common ↔
      gate.versionPrefix = "" ∨ gate.versionPrefix = common := by
  unfold effectivePrefix
  by_cases hown : gate.versionPrefix = ""
  · simp [hown]
  · simp [hown]

/-- Whatever gates there are, the version that they require is that of one of them. -/
theorem ConsentRequest.exists_effectivePrefix_eq_required {asked : ConsentRequest}
    (hgates : asked.gates ≠ []) :
    ∃ gate ∈ asked.gates, gate.effectivePrefix asked.common = asked.required := by
  unfold required
  cases hfound : (asked.gates.map (·.versionPrefix)).find? (· ≠ "") with
  | none =>
    obtain ⟨gate, hmem⟩ := List.exists_mem_of_ne_nil asked.gates hgates
    have hnone := List.find?_eq_none.mp hfound gate.versionPrefix (List.mem_map_of_mem hmem)
    have hown : gate.versionPrefix = "" := by simpa using hnone
    exact ⟨gate, hmem, if_pos hown⟩
  | some named =>
    have hnamed : named ≠ "" := by simpa using List.find?_some hfound
    obtain ⟨gate, hmem, rfl⟩ := List.mem_map.mp (List.mem_of_find?_eq_some hfound)
    exact ⟨gate, hmem, if_neg hnamed⟩

/-! ### Tokens -/

theorem consentCovers_some_iff :
    consentCovers (some text) common gates = true ↔
      trim text ≠ "" ∧ ∀ gate ∈ gates, gate.effectivePrefix common = trim text := by
  rw [consentCovers_iff]
  constructor
  · rintro ⟨given, hgiven, hnamed⟩
    obtain ⟨_, ⟨⟩, rfl, hne⟩ := givenToken_eq_some_iff.mp hgiven
    exact ⟨hne, fun gate hmem => (hnamed gate hmem).symm⟩
  · rintro ⟨hne, hnamed⟩
    refine ⟨trim text, givenToken_eq_some_iff.mpr ⟨text, rfl, rfl, hne⟩, ?_⟩
    exact fun gate hmem => (hnamed gate hmem).symm

theorem exists_consentCovers_iff (hcommon : common ≠ "") (hgates : gates ≠ []) :
    (∃ token, consentCovers (some token) common gates = true) ↔
      ∃ name : String, HasBareEnds name.toList ∧
        ∀ gate ∈ gates, gate.effectivePrefix common = name := by
  constructor
  · rintro ⟨token, hcovers⟩
    obtain ⟨-, hnamed⟩ := consentCovers_some_iff.mp hcovers
    exact ⟨trim token, trim_eq_self_iff.mp (trim_trim token), hnamed⟩
  · rintro ⟨name, hbare, hnamed⟩
    have htrim : trim name = name := trim_eq_self_iff.mpr hbare
    obtain ⟨gate, hmem⟩ := List.exists_mem_of_ne_nil gates hgates
    have hname : name ≠ "" := hnamed gate hmem ▸ VersionGate.effectivePrefix_ne_empty hcommon
    refine ⟨name, consentCovers_some_iff.mpr ?_⟩
    rw [htrim]
    exact ⟨hname, hnamed⟩

/-- If one token covers the gates, then any other does if it is the required version. -/
theorem consentCovers_iff_eq_required (asked : ConsentRequest) {token : String}
    (hgates : asked.gates ≠ [])
    (hcovers : consentCovers (some token) asked.common asked.gates = true) (text : String) :
    consentCovers (some text) asked.common asked.gates = true ↔ trim text = asked.required := by
  obtain ⟨hne, hnamed⟩ := consentCovers_some_iff.mp hcovers
  obtain ⟨gate, hmem, hrequired⟩ := ConsentRequest.exists_effectivePrefix_eq_required hgates
  have htoken : trim token = asked.required := (hnamed gate hmem).symm.trans hrequired
  rw [consentCovers_some_iff]
  constructor
  · rintro ⟨-, hother⟩
    exact (hother gate hmem).symm.trans hrequired
  · intro htext
    rw [htext, ← htoken]
    exact ⟨hne, hnamed⟩

/-- The sentence by which an operator who is asked for consent is told the required version. -/
theorem exists_message_eq (target : Target) (requested : String) (asked : ConsentRequest) :
    ∃ front, (UpgradeError.consentRequired target requested asked).message = front
      ++ "\nTo acknowledge these items, re-run with acknowledgements for version '"
      ++ asked.required ++ "'." := by
  obtain ⟨described, hdescription⟩ : ∃ described, asked.description = described
      ++ "\nTo acknowledge these items, re-run with acknowledgements for version '"
      ++ asked.required ++ "'." := by
    unfold ConsentRequest.description
    exact ⟨_, rfl⟩
  have hmessage : (UpgradeError.consentRequired target requested asked).message =
      "Cannot upgrade " ++ target.text ++ " to " ++ requested ++ ": " ++ asked.description := rfl
  refine ⟨"Cannot upgrade " ++ target.text ++ " to " ++ requested ++ ": " ++ described, ?_⟩
  rw [hmessage, hdescription]
  simp only [← String.append_assoc]

/-- **The required version is the one token.** Its request tells it to the operator, and it is
accepted if anything is: that is, if all gates go by one version that a token can name. -/
theorem required_isOnlyToken (target : Target) (desired : DesiredVersion)
    (gates : List VersionGate) (given : Option String) (hgates : gates ≠ []) :
    let asked : ConsentRequest := { gates, token := given, common := desired.gatePrefix }
    let accepts (token : String) : Prop :=
      consentCovers (some token) desired.gatePrefix gates = true
    (∃ front, (UpgradeError.consentRequired target desired.rawId asked).message = front
        ++ "\nTo acknowledge these items, re-run with acknowledgements for version '"
        ++ asked.required ++ "'.") ∧
      ((∃ token, accepts token) ↔ ∃ name : String, HasBareEnds name.toList ∧
        ∀ gate ∈ gates, gate.effectivePrefix desired.gatePrefix = name) ∧
      ((∃ token, accepts token) → ∀ token, accepts token ↔ trim token = asked.required) := by
  intro asked accepts
  refine ⟨?_, ?_, ?_⟩
  · exact exists_message_eq target desired.rawId asked
  · exact exists_consentCovers_iff desired.version.gatePrefix_ne_empty hgates
  · rintro ⟨known, hknown⟩ token
    exact consentCovers_iff_eq_required asked hgates hknown token

/-- Two gates name the version themselves and one does not, as it is that of the desired release;
the token has blanks around it. -/
theorem required_isOnlyToken_mixedPrefixes :
    let gates : List VersionGate := [{ id := "a" }, { id := "b", versionPrefix := "4.14" },
      { id := "c", versionPrefix := "4.14" }]
    let version : Version := { major := 4, minor := 14, patch := 1, preRelease := [] }
    let desired : DesiredVersion := { rawId := "4.14.1", version, channelGroup := none }
    let asked : ConsentRequest := { gates, token := none, common := desired.gatePrefix }
    asked.required = "4.14" ∧ consentCovers (some " 4.14\n") desired.gatePrefix gates = true ∧
      consentCovers (some "4.1") desired.gatePrefix gates = false := by
  intro gates version desired asked
  have hrequired : asked.required = "4.14" := by decide +kernel
  obtain ⟨-, -, honly⟩ :=
    required_isOnlyToken (.cluster "alpha") desired gates none (List.cons_ne_nil _ _)
  have hcovered : consentCovers (some "4.14") desired.gatePrefix gates = true := by decide +kernel
  have hiff := honly ⟨"4.14", hcovered⟩
  refine ⟨hrequired, (hiff " 4.14\n").mpr ?_, ?_⟩
  · exact Eq.trans (by decide +kernel) hrequired.symm
  · apply Bool.eq_false_iff.mpr
    intro hcovers
    have htrim : trim "4.1" = "4.14" := ((hiff "4.1").mp hcovers).trans hrequired
    exact absurd htrim (by decide +kernel)

/-! ### The suggested token -/

/-- What the terminal shows of gates ends with the token that it suggests. -/
theorem Report.exists_gates_eq (isStyled : Bool) (target : Target) (desired : DesiredVersion)
    (description : String) :
    ∃ front, Report.gates isStyled target desired (some description) = front
      ++ "Re-run upgrade with " ++ paint isStyled .bold ("--ack-for " ++ suggestedToken desired)
      ++ " to acknowledge.\n" := by
  refine ⟨Text.trimEnd description ++ "\n" ++ "\n", ?_⟩
  simp only [gates, lines, List.map_cons, List.map_nil, String.join_cons, String.join_nil,
    String.append_assoc, String.empty_append, String.append_empty]
  rfl

theorem consentCovers_suggestedToken_iff {desired : DesiredVersion} :
    consentCovers (some (Report.suggestedToken desired)) desired.gatePrefix gates = true ↔
      ∀ gate ∈ gates, gate.versionPrefix = "" ∨ gate.versionPrefix = desired.gatePrefix := by
  have htrim : trim (Report.suggestedToken desired) = desired.gatePrefix :=
    desired.version.trim_gatePrefix
  rw [consentCovers_some_iff, htrim]
  constructor
  · rintro ⟨-, hnamed⟩ gate hmem
    exact VersionGate.effectivePrefix_eq_common_iff.mp (hnamed gate hmem)
  · intro hnamed
    refine ⟨desired.version.gatePrefix_ne_empty, fun gate hmem => ?_⟩
    exact VersionGate.effectivePrefix_eq_common_iff.mpr (hnamed gate hmem)

/-- **The suggested token** is the release line of the desired version. It is accepted exactly if no
gate names another version, and where any token is, exactly if it is the required one. -/
theorem suggestedToken_covers_iff (isStyled : Bool) (target : Target) (desired : DesiredVersion)
    (gates : List VersionGate) (given : Option String) (hgates : gates ≠ []) :
    let asked : ConsentRequest := { gates, token := given, common := desired.gatePrefix }
    let suggested := Report.suggestedToken desired
    let accepts (token : String) : Prop :=
      consentCovers (some token) desired.gatePrefix gates = true
    (∃ front, Report.gates isStyled target desired (some (VersionGate.describe gates)) = front
        ++ "Re-run upgrade with " ++ paint isStyled .bold ("--ack-for " ++ suggested)
        ++ " to acknowledge.\n") ∧
      (accepts suggested ↔
        ∀ gate ∈ gates, gate.versionPrefix = "" ∨ gate.versionPrefix = desired.gatePrefix) ∧
      (accepts suggested → suggested = asked.required) ∧
      ((∃ token, accepts token) → suggested = asked.required → accepts suggested) := by
  intro asked suggested accepts
  have htrim : trim suggested = suggested := desired.version.trim_gatePrefix
  have honly : ∀ token, accepts token → (accepts suggested ↔ suggested = asked.required) := by
    intro token htoken
    have hiff := consentCovers_iff_eq_required asked hgates htoken suggested
    rwa [htrim] at hiff
  refine ⟨?_, consentCovers_suggestedToken_iff, ?_, ?_⟩
  · exact Report.exists_gates_eq isStyled target desired (VersionGate.describe gates)
  · exact fun hsuggested => (honly suggested hsuggested).mp hsuggested
  · rintro ⟨token, htoken⟩ hrequired
    exact (honly token htoken).mpr hrequired

/-- One gate names the release line of the desired version and one leaves it open. -/
theorem suggestedToken_covers_ownLine :
    let gates : List VersionGate := [{ id := "a", versionPrefix := "4.14" }, { id := "b" }]
    let version : Version := { major := 4, minor := 14, patch := 1, preRelease := [] }
    let desired : DesiredVersion := { rawId := "4.14.1", version, channelGroup := none }
    let asked : ConsentRequest := { gates, token := none, common := desired.gatePrefix }
    Report.suggestedToken desired = asked.required ∧
      consentCovers (some (Report.suggestedToken desired)) desired.gatePrefix gates = true := by
  intro gates version desired asked
  obtain ⟨-, hiff, hrequired, -⟩ := suggestedToken_covers_iff false (.cluster "alpha") desired gates
    none (List.cons_ne_nil _ _)
  have hcovers : consentCovers (some (Report.suggestedToken desired)) desired.gatePrefix gates =
      true := hiff.mpr (by decide +kernel)
  exact ⟨hrequired hcovers, hcovers⟩

/-- The gate names another version than the release line of the desired one. The terminal suggests
the latter, with which a pass is refused; it is let through with the former, which it requires. -/
theorem suggestedToken_refused :
    let document : Json :=
      .object [("id", .string "999"), ("version_raw_id_prefix", .string "4.15")]
    let failure : RemoteFailure := .api { status := 400, details := some (.array [document]) }
    let remote : MemoryRemote := { failureRules := [{ name := "dry_run", failure }] }
    let version : Version := { major := 4, minor := 14, patch := 1, preRelease := [] }
    let desired : DesiredVersion := { rawId := "4.14.1", version, channelGroup := none }
    let gates : List VersionGate := [{ id := "999", versionPrefix := "4.15" }]
    let asked : ConsentRequest := { gates, token := none, common := desired.gatePrefix }
    let accepts (token : String) : Bool := consentCovers (some token) desired.gatePrefix gates
    let passes (token : String) : Bool :=
      let request : UpgradeRequest :=
        { target := .cluster "123", desired, consent := some token }
      ((reconcile 100 request .epoch).run.play MemoryRemote.respond remote).1.value.isOk
    Report.suggestedToken desired = "4.14" ∧ asked.required = "4.15" ∧
      failure.gates? = some gates ∧ accepts "4.14" = false ∧ accepts "4.15" = true ∧
      passes "4.14" = false ∧ passes "4.15" = true := by
  intro document failure remote version desired gates asked accepts passes
  have hpasses : passes "4.14" = false ∧ passes "4.15" = true := by
    unfold passes reconcile previewPlan Listing.upgrades Listing.policies
    dsimp only
    rw [Listing.drainFrom]
    decide +kernel
  refine ⟨?_, ?_, rfl, ?_, ?_, hpasses⟩
  · decide +kernel
  · decide +kernel
  · decide +kernel
  · decide +kernel

end ClusterUpgrade
