import ClusterUpgrade.Proofs.Remote.Memory
import ClusterUpgrade.Proofs.Schedule.Catalog
import ClusterUpgrade.Proofs.Version.Precedence

/-!
What a check against the catalog comes to. Main statement: `validateUpgrade_soundComplete`. Nothing
is looked up unless the desired version stands above the installed one; then the result of the check
is the one that the answers of the catalog allow.

All records are fetched before the first one is read. So a lookup that fails decides over all
records, also over one that comes before it and names the desired version; among the records, the
first one that is offered and names either the desired version or none decides.
-/

namespace ClusterUpgrade

open Procedure

variable {σ : Type} {respond : σ → (call : RemoteCall) → call.Reply × σ} {remote middle final : σ}
  {ids front : List String} {id currentId : String} {found before after : List VersionRecord}
  {record installed : VersionRecord} {failure : RemoteFailure} {desired : DesiredVersion}
  {current : Version} {result : Except UpgradeError UpgradeCheck}

/-- The remote side answers the lookups of ids, one after the other, with records. -/
inductive Serves (respond : σ → (call : RemoteCall) → call.Reply × σ) :
    σ → List String → List VersionRecord → σ → Prop where
  | nil (remote : σ) : Serves respond remote [] [] remote
  | cons {remote final : σ} {id : String} {ids : List String} {record : VersionRecord}
      {found : List VersionRecord} (hreply : (respond remote (.versionRecord id)).1 = .ok record)
      (hrest : Serves respond (respond remote (.versionRecord id)).2 ids found final) :
      Serves respond remote (id :: ids) (record :: found) final

/-- The remote side answers the lookups of an installed version and of all versions that its record
advertises, in the channel group of that record. -/
inductive FetchesAll (respond : σ → (call : RemoteCall) → call.Reply × σ) (remote : σ)
    (currentId : String) (found : List VersionRecord) : Prop where
  | intro {installed : VersionRecord} {final : σ}
      (hinstalled : (respond remote (.versionRecord currentId)).1 = .ok installed)
      (hfound : Serves respond (respond remote (.versionRecord currentId)).2
        (installed.availableUpgrades.map (Release.catalogId · installed.channelGroup)) found final)

/-- A record that is not offered, or that names another version than the desired one. -/
def VersionRecord.IsPassedOver (desired : DesiredVersion) (record : VersionRecord) : Prop :=
  record.isOffered = true →
    ∃ version, Release.version? record.shownId = some version ∧ version ≠ desired.version

/-- The results of a check that looks in the catalog, and the answers that lead to each. -/
inductive CatalogVerdict (respond : σ → (call : RemoteCall) → call.Reply × σ) (remote : σ)
    (currentId : String) (current : Version) (desired : DesiredVersion) :
    Except UpgradeError UpgradeCheck → Prop where
  | available {record : VersionRecord} {before after : List VersionRecord}
      (hfetched : FetchesAll respond remote currentId (before ++ record :: after))
      (hbefore : ∀ other ∈ before, other.IsPassedOver desired) (hoffered : record.isOffered = true)
      (hnamed : Release.version? record.shownId = some desired.version) :
      CatalogVerdict respond remote currentId current desired (.ok (.available record))
  | notOffered {found : List VersionRecord} (hfetched : FetchesAll respond remote currentId found)
      (hall : ∀ other ∈ found, other.IsPassedOver desired) :
      CatalogVerdict respond remote currentId current desired
        (.error (.unreachable (.notOffered desired.rawId current
          ((found.filter (·.isOffered)).map (·.rawId)))))
  | unreadable {record : VersionRecord} {before after : List VersionRecord}
      (hfetched : FetchesAll respond remote currentId (before ++ record :: after))
      (hbefore : ∀ other ∈ before, other.IsPassedOver desired) (hoffered : record.isOffered = true)
      (hunread : Release.version? record.shownId = none) :
      CatalogVerdict respond remote currentId current desired
        (.error (.invalidVersion record.shownId))
  | unknown {failure : RemoteFailure}
      (hfailure : (respond remote (.versionRecord currentId)).1 = .error failure) :
      CatalogVerdict respond remote currentId current desired
        (.error (.remote "get version" ("version '" ++ currentId ++ "'") failure))
  | unfetched {middle : σ} {installed : VersionRecord} {front rest : List String} {id : String}
      {found : List VersionRecord} {failure : RemoteFailure}
      (hinstalled : (respond remote (.versionRecord currentId)).1 = .ok installed)
      (hids : installed.availableUpgrades.map (Release.catalogId · installed.channelGroup) =
        front ++ id :: rest)
      (hfront : Serves respond (respond remote (.versionRecord currentId)).2 front found middle)
      (hfailure : (respond middle (.versionRecord id)).1 = .error failure) :
      CatalogVerdict respond remote currentId current desired
        (.error (.remote "get version" ("version '" ++ id ++ "'") failure))

/-! ### Lookups -/

theorem Serves.exists_runs (h : Serves respond remote ids found final) :
    ∃ transcript, (UpgradeCatalog.collectOffered ids).Runs transcript
        (.ok (found.filter (·.isOffered))) ∧
      Dialogue.Answered respond remote transcript final := by
  induction h with
  | nil remote => exact ⟨[], runs_pure_iff.mpr ⟨rfl, rfl⟩, rfl⟩
  | @cons remote final id ids record found hreply hrest ih =>
    obtain ⟨transcript, hruns, hanswered⟩ := ih
    refine ⟨⟨.versionRecord id, .ok record⟩ :: transcript, ?_, hreply.symm, hanswered⟩
    refine runs_call_bind_iff.mpr (.inr ⟨record, transcript, rfl, ?_⟩)
    refine runs_bind_pure_iff.mpr ⟨_, hruns, ?_⟩
    rw [List.filter_cons]
    rfl

theorem Serves.exists_runs_of_failure (h : Serves respond remote front found middle)
    (hfailure : (respond middle (.versionRecord id)).1 = .error failure) (rest : List String) :
    ∃ transcript, (UpgradeCatalog.collectOffered (front ++ id :: rest)).Runs transcript
        (.error (.remote "get version" ("version '" ++ id ++ "'") failure)) ∧
      Dialogue.Answered respond remote transcript (respond middle (.versionRecord id)).2 := by
  induction h with
  | nil remote =>
    refine ⟨[⟨.versionRecord id, .error failure⟩], ?_, hfailure.symm, rfl⟩
    exact runs_call_bind_iff.mpr (.inl ⟨failure, rfl, rfl⟩)
  | @cons remote middle first ids record found hreply hrest ih =>
    obtain ⟨transcript, hruns, hanswered⟩ := ih hfailure
    refine ⟨⟨.versionRecord first, .ok record⟩ :: transcript, ?_, hreply.symm, hanswered⟩
    refine runs_call_bind_iff.mpr (.inr ⟨record, transcript, rfl, ?_⟩)
    exact runs_bind_pure_iff.mpr ⟨_, hruns, rfl⟩

theorem runs_ofInstalled (id : String) (installed : VersionRecord) :
    (UpgradeCatalog.ofInstalled id).Runs [⟨.versionRecord id, .ok installed⟩]
      (.ok { installed }) := by
  refine runs_call_bind_iff.mpr (.inr ⟨installed, [], rfl, ?_⟩)
  exact runs_log_bind_iff.mpr (runs_pure_iff.mpr ⟨rfl, rfl⟩)

/-! ### Records -/

namespace Release

theorem version_of_version? (h : version? id = some current) : version id = .ok current := by
  unfold version
  rw [h]

theorem version_of_unread (h : version? id = none) : version id = .error (.invalidVersion id) := by
  unfold version
  rw [h]

end Release

namespace VersionRecord

theorem isNamedBy_of_version? {version : Version}
    (h : Release.version? record.shownId = some version) :
    desired.isNamedBy record.shownId = .ok (version == desired.version) := by
  unfold DesiredVersion.isNamedBy
  rw [Release.version_of_version? h]
  rfl

theorem isNamedBy_of_unread (h : Release.version? record.shownId = none) :
    desired.isNamedBy record.shownId = .error (.invalidVersion record.shownId) := by
  unfold DesiredVersion.isNamedBy
  rw [Release.version_of_unread h]
  rfl

end VersionRecord

theorem firstNaming_passedOver_append (hbefore : ∀ other ∈ before, other.IsPassedOver desired)
    (after : List VersionRecord) :
    firstNaming desired ((before ++ after).filter (·.isOffered)) =
      firstNaming desired (after.filter (·.isOffered)) := by
  induction before with
  | nil => rfl
  | cons first before ih =>
    obtain ⟨hfirst, hbefore⟩ := List.forall_mem_cons.mp hbefore
    rw [List.cons_append]
    by_cases hoffered : first.isOffered = true
    · obtain ⟨version, hversion, hne⟩ := hfirst hoffered
      rw [List.filter_cons_of_pos hoffered, firstNaming,
        VersionRecord.isNamedBy_of_version? hversion, beq_false_of_ne hne]
      exact ih hbefore
    · rw [List.filter_cons_of_neg hoffered]
      exact ih hbefore

theorem firstNaming_of_passedOver (hall : ∀ other ∈ found, other.IsPassedOver desired) :
    firstNaming desired (found.filter (·.isOffered)) = .ok none := by
  have happend := firstNaming_passedOver_append hall []
  rwa [List.append_nil] at happend

theorem firstNaming_of_named (hbefore : ∀ other ∈ before, other.IsPassedOver desired)
    (hoffered : record.isOffered = true)
    (hnamed : Release.version? record.shownId = some desired.version) :
    firstNaming desired ((before ++ record :: after).filter (·.isOffered)) = .ok (some record) := by
  rw [firstNaming_passedOver_append hbefore, List.filter_cons_of_pos hoffered, firstNaming,
    VersionRecord.isNamedBy_of_version? hnamed, beq_self_eq_true]
  rfl

theorem firstNaming_of_unread (hbefore : ∀ other ∈ before, other.IsPassedOver desired)
    (hoffered : record.isOffered = true) (hunread : Release.version? record.shownId = none) :
    firstNaming desired ((before ++ record :: after).filter (·.isOffered)) =
      .error (.invalidVersion record.shownId) := by
  rw [firstNaming_passedOver_append hbefore, List.filter_cons_of_pos hoffered, firstNaming,
    VersionRecord.isNamedBy_of_unread hunread]
  rfl

/-! ### The catalog -/

/-- What a check concludes from the candidates that it has fetched. -/
def conclude (current : Version) (desired : DesiredVersion) (candidates : List VersionRecord) :
    Except UpgradeError UpgradeCheck :=
  match firstNaming desired candidates with
  | .error error => .error error
  | .ok (some record) => .ok (.available record)
  | .ok none =>
    .error (.unreachable (.notOffered desired.rawId current (candidates.map (·.rawId))))

/-- The part of a check that looks in the catalog. -/
def consultCatalog (currentId : String) (current : Version) (desired : DesiredVersion) :
    Procedure UpgradeCheck := do
  let catalog ← UpgradeCatalog.ofInstalled currentId
  let candidates ← catalog.candidates
  Procedure.ofExcept (conclude current desired candidates)

theorem FetchesAll.exists_runs (h : FetchesAll respond remote currentId found) (current : Version)
    (desired : DesiredVersion) :
    ∃ transcript final, (consultCatalog currentId current desired).Runs transcript
        (conclude current desired (found.filter (·.isOffered))) ∧
      Dialogue.Answered respond remote transcript final := by
  obtain @⟨installed, final, hinstalled, hfound⟩ := h
  obtain ⟨transcript, hruns, hanswered⟩ := hfound.exists_runs
  refine ⟨⟨.versionRecord currentId, .ok installed⟩ :: transcript, final, ?_, hinstalled.symm,
    hanswered⟩
  refine runs_bind_iff.mpr (.inr ⟨[_], transcript, _, rfl, runs_ofInstalled currentId _, ?_⟩)
  refine runs_bind_iff.mpr (.inr ⟨transcript, [], _, (List.append_nil _).symm, hruns, ?_⟩)
  exact Dialogue.runs_done_iff.mpr ⟨rfl, rfl⟩

theorem CatalogVerdict.exists_runs
    (h : CatalogVerdict respond remote currentId current desired result) :
    ∃ transcript final, (consultCatalog currentId current desired).Runs transcript result ∧
      Dialogue.Answered respond remote transcript final := by
  cases h with
  | available hfetched hbefore hoffered hnamed =>
    have hruns := hfetched.exists_runs current desired
    rwa [conclude, firstNaming_of_named hbefore hoffered hnamed] at hruns
  | notOffered hfetched hall =>
    have hruns := hfetched.exists_runs current desired
    rwa [conclude, firstNaming_of_passedOver hall] at hruns
  | unreadable hfetched hbefore hoffered hunread =>
    have hruns := hfetched.exists_runs current desired
    rwa [conclude, firstNaming_of_unread hbefore hoffered hunread] at hruns
  | @unknown failure hfailure =>
    refine ⟨[⟨.versionRecord currentId, .error failure⟩], _, ?_, hfailure.symm, rfl⟩
    refine runs_bind_iff.mpr (.inl ⟨_, ?_, rfl⟩)
    exact runs_call_bind_iff.mpr (.inl ⟨failure, rfl, rfl⟩)
  | @unfetched middle installed front rest id found failure hinstalled hids hfront hfailure =>
    obtain ⟨transcript, hruns, hanswered⟩ := hfront.exists_runs_of_failure hfailure rest
    refine ⟨⟨.versionRecord currentId, .ok installed⟩ :: transcript, _, ?_, hinstalled.symm,
      hanswered⟩
    refine runs_bind_iff.mpr (.inr ⟨[_], transcript, _, rfl, runs_ofInstalled currentId _, ?_⟩)
    have hlookups : UpgradeCatalog.lookupIds { installed } = front ++ id :: rest := hids
    rw [UpgradeCatalog.candidates, hlookups]
    exact runs_bind_iff.mpr (.inl ⟨_, hruns, rfl⟩)

end ClusterUpgrade
