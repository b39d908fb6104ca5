import ClusterUpgrade.Proofs.Json.Reading
import ClusterUpgrade.Proofs.Outcome
import ClusterUpgrade.Proofs.Time.Rfc3339
import ClusterUpgrade.Wire.Policy
import ClusterUpgrade.Wire.Release

/-!
Documents that are read, written and read again. Main statement: `documents_roundTrip`. Whatever
text a document is read from, the text that is written of it reads as the same document.

A document may come from an array, leave out fields, name states that are not known and tell its
instants in any form. It is written in one form only, so the two texts often differ. What can be
read is told apart from what cannot by its instants alone: they have to be on the calendar.
-/

namespace ClusterUpgrade

/-- The run that a policy announces is on the calendar. -/
def UpgradePolicy.IsTimely (policy : UpgradePolicy) : Prop := ∀ time ∈ policy.nextRun, time.IsValid

/-- The time of an agreement is on the calendar. -/
def GateAgreement.IsTimely (agreement : GateAgreement) : Prop :=
  ∀ time ∈ agreement.createdAt, time.IsValid

namespace Wire

/-- The value that a text spells to a reader. -/
def decode? {α : Type} (reader : Reader α) (text : String) : Option α := do
  let json ← Json.parse? text
  (reader json).toOption

/-- What is read from any text is read again from the text that is written of it. -/
structure RoundTrips {α : Type} (isTimely : α → Prop) (reader : Reader α) (write : α → Json) :
    Prop where
  again : ∀ text value,
    decode? reader text = some value → decode? reader (write value).write = some value
  /-- The values that some text spells are the timely ones. -/
  reached : ∀ value, (∃ text, decode? reader text = some value) ↔ isTimely value

theorem RoundTrips.of_reader {α : Type} {isTimely : α → Prop} {reader : Reader α} {write : α → Json}
    (htextual : ∀ value, (write value).isTextual = true)
    (hwritten : ∀ value, isTimely value → reader (write value) = .ok value)
    (hread : ∀ json value, reader json = .ok value → isTimely value) :
    RoundTrips isTimely reader write := by
  have hdecode : ∀ value, isTimely value → decode? reader (write value).write = some value := by
    intro value htimely
    unfold decode?
    rw [Json.parse?_write (htextual value)]
    simp [hwritten value htimely, Except.toOption]
  have htimely : ∀ text value, decode? reader text = some value → isTimely value := by
    intro text value h
    simp only [decode?, Option.bind_eq_bind, Option.bind_eq_some_iff] at h
    obtain ⟨json, -, h⟩ := h
    exact hread json value (ok_of_toOption_eq_some h)
  constructor
  · intro text value h
    exact hdecode value (htimely text value h)
  · intro value
    constructor
    · rintro ⟨text, h⟩
      exact htimely text value h
    · intro h
      exact ⟨(write value).write, hdecode value h⟩

/-! ### Fields -/

theorem stateOfName_stateName (state : PolicyState) : stateOfName (stateName state) = state := by
  cases state <;> decide

theorem kindOfName_kindName (kind : UpgradeKind) : kindOfName (kindName kind) = kind := by
  cases kind <;> decide

theorem scheduleKind_scheduleName (kind : ScheduleKind) :
    scheduleKind (.string (scheduleName kind)) = .ok kind := by
  cases kind <;> rfl

theorem readAll_string (values : List String) :
    readAll string (values.map .string) = .ok values := by
  induction values with
  | nil => rfl
  | cons value values ih =>
    simp only [List.map_cons, readAll, ih]
    rfl

theorem areTextual_map_string (values : List String) :
    Json.areTextual (values.map .string) = true := by
  induction values with
  | nil => rfl
  | cons value values ih => exact ih

theorem optional_string (text : String) : optional string (.string text) = .ok (some text) := rfl

theorem optional_ofInstant {time : Instant} (h : time.IsValid) :
    optional instant (ofInstant time) = .ok (some time) := by
  simp [optional, instant, ofInstant, Instant.parse?_text h, Except.map]

theorem isValid_of_instant {json : Json} {time : Instant} (h : instant json = .ok time) :
    time.IsValid := by
  unfold instant at h
  split at h
  · split at h
    · next hparse =>
      cases h
      exact Instant.isValid_of_parse? hparse
    · cases h
  · cases h

theorem isValid_of_optionalField {fields : Document} {name : String} {found : Option Instant}
    (h : fields.optionalField name instant = .ok found) : ∀ time ∈ found, time.IsValid := by
  intro time htime
  obtain rfl : found = some time := htime
  unfold Document.optionalField Document.field at h
  split at h
  · next json _ =>
    unfold optional at h
    split at h
    · cases h
    · obtain ⟨read, hread, heq⟩ := exists_of_map_eq_ok h
      cases heq
      exact isValid_of_instant hread
  · cases h

/-! ### Documents -/

theorem gate_ofGate (value : VersionGate) : gate (ofGate value) = .ok value := rfl

theorem status_ofStatus (value : PolicyStatus) : status (ofStatus value) = .ok value := by
  have hfields : status (ofStatus value) =
      .ok { value with state := stateOfName (stateName value.state) } := rfl
  rw [hfields, stateOfName_stateName]

theorem record_ofRecord (value : VersionRecord) : record (ofRecord value) = .ok value := by
  obtain ⟨id, rawId, channelGroup, isEnabled, isOffered, isHostedEnabled, upgrades⟩ := value
  cases channelGroup <;>
    simp [record, ofRecord, document, recordFields, repeatedName?, givenFields, objectOf, present,
      presentIf, Document.text, Document.flag, Document.optionalField, Document.field, string, bool,
      list, List.lookup_cons, readAll_string, optional_string, bind, Except.bind, pure, Except.pure]

section

variable {given : GateAgreement} {listed : UpgradePolicy}

theorem agreement_ofAgreement (h : given.IsTimely) : agreement (ofAgreement given) = .ok given := by
  obtain ⟨id, gate, createdAt⟩ := given
  cases createdAt with
  | none => rfl
  | some time =>
    have htime := optional_ofInstant (h time rfl)
    simp [agreement, ofAgreement, document, agreementFields, repeatedName?, givenFields, objectOf,
      present, presentIf, Document.text, Document.optionalField, Document.field, string,
      List.lookup_cons, gate_ofGate, htime, bind, Except.bind, pure, Except.pure]

theorem isTimely_of_agreement {json : Json} (h : agreement json = .ok given) : given.IsTimely := by
  obtain ⟨fields, -, h⟩ := exists_of_bind_eq_ok h
  obtain ⟨id, -, h⟩ := exists_of_bind_eq_ok h
  obtain ⟨gate, -, h⟩ := exists_of_bind_eq_ok h
  obtain ⟨createdAt, hcreatedAt, h⟩ := exists_of_bind_eq_ok h
  cases h
  exact isValid_of_optionalField hcreatedAt

theorem policy_ofPolicy (h : listed.IsTimely) : policy (ofPolicy listed) = .ok listed := by
  obtain ⟨id, clusterId, nodePoolId, version, schedule, nextRun, kind⟩ := listed
  have htime : ∀ time, nextRun = some time → optional instant (ofInstant time) = .ok (some time) :=
    fun time htime => optional_ofInstant (h time htime)
  cases nodePoolId <;> cases nextRun <;>
    simp [policy, ofPolicy, document, policyFields, repeatedName?, givenFields, objectOf, present,
      presentIf, Document.text, Document.optionalField, Document.field, string, name, List.lookup_cons,
      scheduleKind_scheduleName, kindOfName_kindName, optional_string, htime, bind, Except.bind,
      pure, Except.pure, Except.map]

theorem isTimely_of_policy {json : Json} (h : policy json = .ok listed) : listed.IsTimely := by
  obtain ⟨fields, -, h⟩ := exists_of_bind_eq_ok h
  obtain ⟨id, -, h⟩ := exists_of_bind_eq_ok h
  obtain ⟨clusterId, -, h⟩ := exists_of_bind_eq_ok h
  obtain ⟨nodePoolId, -, h⟩ := exists_of_bind_eq_ok h
  obtain ⟨version, -, h⟩ := exists_of_bind_eq_ok h
  obtain ⟨schedule, -, h⟩ := exists_of_bind_eq_ok h
  obtain ⟨nextRun, hnextRun, h⟩ := exists_of_bind_eq_ok h
  obtain ⟨kind, -, h⟩ := exists_of_bind_eq_ok h
  cases h
  exact isValid_of_optionalField hnextRun

end

theorem isTextual_ofAgreement (given : GateAgreement) : (ofAgreement given).isTextual = true := by
  obtain ⟨id, gate, createdAt⟩ := given
  cases createdAt <;> rfl

theorem isTextual_ofPolicy (listed : UpgradePolicy) : (ofPolicy listed).isTextual = true := by
  obtain ⟨id, clusterId, nodePoolId, version, schedule, nextRun, kind⟩ := listed
  cases nodePoolId <;> cases nextRun <;> rfl

theorem isTextual_ofRecord (value : VersionRecord) : (ofRecord value).isTextual = true := by
  have hupgrades := areTextual_map_string value.availableUpgrades
  cases hgroup : value.channelGroup <;>
    simp [ofRecord, objectOf, present, presentIf, hgroup, Json.isTextual, Json.haveTextualValues,
      hupgrades]

/-- **Every document that can be read survives being written.** -/
theorem documents_roundTrip :
    RoundTrips UpgradePolicy.IsTimely policy ofPolicy ∧
      RoundTrips (fun _ => True) status ofStatus ∧
      RoundTrips (fun _ => True) gate ofGate ∧
      RoundTrips GateAgreement.IsTimely agreement ofAgreement ∧
      RoundTrips (fun _ => True) record ofRecord := by
  refine ⟨?_, ?_, ?_, ?_, ?_⟩
  · exact .of_reader isTextual_ofPolicy (fun _ => policy_ofPolicy) fun _ _ => isTimely_of_policy
  · exact .of_reader (fun _ => rfl) (fun value _ => status_ofStatus value) fun _ _ _ => trivial
  · exact .of_reader (fun _ => rfl) (fun value _ => gate_ofGate value) fun _ _ _ => trivial
  · exact .of_reader isTextual_ofAgreement (fun _ => agreement_ofAgreement)
      fun _ _ => isTimely_of_agreement
  · exact .of_reader isTextual_ofRecord (fun value _ => record_ofRecord value)
      fun _ _ _ => trivial

/-- A policy in array form: an escape, a null, an unknown kind, and a leap second before the year 0
by a clock that is ahead. -/
def relaxedPolicy : String :=
  "[\"1\",\"c\\u0041\",null,\"4.14.1\",\"manual\",\" -0001-01-01 00:59:60.5 +01:30 \",\"X\"]"

theorem documents_roundTrip_relaxedPolicy :
    ∃ value,
      decode? policy relaxedPolicy = some value ∧
        decode? policy (ofPolicy value).write = some value := by
  let leap : Instant :=
    { date := { year := -2, month := 12, day := 31 }
      minuteOfDay := 1409
      second := 60
      nanosecond := 500000000 }
  have hread : decode? policy relaxedPolicy =
      some { id := "1", clusterId := "cA", version := "4.14.1", nextRun := some leap } := by
    decide +kernel
  exact ⟨_, hread, documents_roundTrip.1.again _ _ hread⟩

end Wire

end ClusterUpgrade
