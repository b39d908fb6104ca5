import ClusterUpgrade.Proofs.Procedure.Calls
import ClusterUpgrade.Proofs.Procedure.Script
import ClusterUpgrade.Proofs.Version.Order
import ClusterUpgrade.Schedule.Catalog
import Mathlib.Data.List.Forall2

/-!
Checking a desired version against the catalog. Main statement: `validates_of_runs`, the check only
looks versions up, and it passes only if a candidate of the installed version was answered that is
offered and names the desired version.
-/

namespace ClusterUpgrade

open Procedure

variable {transcript : Transcript} {desired : DesiredVersion} {currentId : String}

/-- A call was answered in the transcript. -/
def Transcript.Holds (transcript : Transcript) (call : RemoteCall) (answer : call.Answer) : Prop :=
  (⟨call, .ok answer⟩ : RemoteExchange) ∈ transcript

namespace UpgradeCatalog

variable {ids : List String}

theorem avoids_isAction_fetch {id : String} : Avoids RemoteCall.isAction (fetch id) :=
  avoids_call rfl

theorem avoids_isAction_ofInstalled {id : String} :
    Avoids RemoteCall.isAction (ofInstalled id) :=
  avoids_isAction_fetch.bind fun _ =>
    avoids_log.bind fun _ => avoids_pure

theorem eq_of_runs_ofInstalled {id : String} {catalog : UpgradeCatalog}
    (h : (ofInstalled id).Runs transcript (.ok catalog)) :
    transcript = [⟨.versionRecord id, .ok catalog.installed⟩] := by
  rw [ofInstalled, fetch] at h
  rcases runs_call_bind_iff.mp h with ⟨_, -, herror⟩ | ⟨record, rest, rfl, hrest⟩
  · cases herror
  · rw [runs_log_bind_iff, runs_pure_iff] at hrest
    obtain ⟨rfl, hcatalog⟩ := hrest
    cases hcatalog
    rfl

theorem avoids_isAction_collectOffered :
    Avoids RemoteCall.isAction (collectOffered ids) := by
  induction ids with
  | nil => exact avoids_pure
  | cons id rest ih =>
    exact avoids_isAction_fetch.bind fun record =>
      ih.bind fun others => avoids_pure

/-- One record comes for every id, and those that are offered are kept. -/
theorem exists_found_of_runs {records : List VersionRecord}
    (h : (collectOffered ids).Runs transcript (.ok records)) :
    ∃ found, records = found.filter VersionRecord.isOffered ∧
      List.Forall₂ (fun id record => transcript.Holds (.versionRecord id) record) ids found := by
  induction ids generalizing transcript records with
  | nil =>
    obtain ⟨-, hrecords⟩ := runs_pure_iff.mp h
    cases hrecords
    exact ⟨[], rfl, .nil⟩
  | cons id rest ih =>
    rw [collectOffered, fetch] at h
    rcases runs_call_bind_iff.mp h with ⟨_, -, herror⟩ | ⟨record, more, rfl, hmore⟩
    · cases herror
    · obtain ⟨(_ | others), hothers, hrecords⟩ := runs_bind_pure_iff.mp hmore
      · cases hrecords
      · obtain ⟨found, rfl, hfound⟩ := ih hothers
        cases hrecords
        refine ⟨record :: found, (List.filter_cons ..).symm, .cons List.mem_cons_self ?_⟩
        exact hfound.imp fun _ _ => List.mem_cons_of_mem _

end UpgradeCatalog

theorem mem_of_firstNaming {records : List VersionRecord} {record : VersionRecord}
    (h : firstNaming desired records = .ok (some record)) :
    record ∈ records ∧ desired.isNamedBy record.shownId = .ok true := by
  induction records with
  | nil => cases h
  | cons first rest ih =>
    rw [firstNaming] at h
    cases hnamed : desired.isNamedBy first.shownId with
    | error error =>
      rw [hnamed] at h
      cases h
    | ok isNamed =>
      rw [hnamed] at h
      cases isNamed with
      | true =>
        cases h
        exact ⟨List.mem_cons_self, hnamed⟩
      | false =>
        obtain ⟨hmem, hrecord⟩ := ih h
        exact ⟨List.mem_cons_of_mem first hmem, hrecord⟩

/-! ### The check -/

/-- A desired version is above an installed one, a record was answered for each version that the
installed one advertises, and one of the records is offered and names the desired version. -/
structure Admits (answered : (call : RemoteCall) → call.Answer → Prop) (desired : DesiredVersion)
    (currentId : String) (installed : VersionRecord) (found : List VersionRecord) : Prop where
  isBelow : ∃ current, Release.version currentId = .ok current ∧
    current.isBelow desired.version = true
  recorded : answered (.versionRecord currentId) installed
  fetched : List.Forall₂ (fun rawId record =>
      answered (.versionRecord (Release.catalogId rawId installed.channelGroup)) record)
    installed.availableUpgrades found
  offered : ∃ record ∈ found, record.isOffered = true ∧
    desired.isNamedBy record.shownId = .ok true

theorem Admits.mono {answered known : (call : RemoteCall) → call.Answer → Prop}
    {installed : VersionRecord} {found : List VersionRecord}
    (h : Admits answered desired currentId installed found)
    (himp : ∀ call answer, answered call answer → known call answer) :
    Admits known desired currentId installed found where
  isBelow := h.isBelow
  recorded := himp _ _ h.recorded
  fetched := h.fetched.imp fun _ _ => himp _ _
  offered := h.offered

theorem admits_of_naming {catalog : UpgradeCatalog} {found : List VersionRecord}
    {record : VersionRecord}
    (hbelow : ∃ current, Release.version currentId = .ok current ∧
      current.isBelow desired.version = true)
    (hfound : List.Forall₂ (fun id record => transcript.Holds (.versionRecord id) record)
      catalog.lookupIds found)
    (hnaming : firstNaming desired (found.filter VersionRecord.isOffered) = .ok (some record)) :
    Admits (Transcript.Holds (⟨.versionRecord currentId, .ok catalog.installed⟩ :: transcript))
      desired currentId catalog.installed found where
  isBelow := hbelow
  recorded := List.mem_cons_self
  fetched := (List.forall₂_map_left_iff.mp hfound).imp fun _ _ => List.mem_cons_of_mem _
  offered := by
    obtain ⟨hmem, hnamed⟩ := mem_of_firstNaming hnaming
    obtain ⟨hrecord, hoffered⟩ := List.mem_filter.mp hmem
    exact ⟨record, hrecord, hoffered, hnamed⟩

/-- How a check ends: before the first call, or with a refusal, or with a candidate. -/
inductive Validates (desired : DesiredVersion) (currentId : String) :
    Transcript → Except UpgradeError UpgradeCheck → Prop where
  | upToDate (hcurrent : Release.version currentId = .ok desired.version) :
      Validates desired currentId [] (.ok .upToDate)
  | unread (error : UpgradeError) : Validates desired currentId [] (.error error)
  | refused {transcript : Transcript} {current : Version} (error : UpgradeError)
      (hcurrent : Release.version currentId = .ok current)
      (hbelow : current.isBelow desired.version = true) :
      Validates desired currentId transcript (.error error)
  | available {transcript : Transcript} {installed record : VersionRecord}
      {found : List VersionRecord}
      (hadmits : Admits transcript.Holds desired currentId installed found) :
      Validates desired currentId transcript (.ok (.available record))

theorem avoids_isAction_validateUpgrade :
    Avoids RemoteCall.isAction (validateUpgrade currentId desired) := by
  rw [validateUpgrade]
  refine avoids_ofExcept.bind fun current => ?_
  split
  · exact avoids_log.bind fun _ => avoids_pure
  · split
    · exact avoids_throw
    · refine UpgradeCatalog.avoids_isAction_ofInstalled.bind fun catalog => ?_
      refine UpgradeCatalog.avoids_isAction_collectOffered.bind fun candidates => ?_
      refine avoids_ofExcept.bind fun naming => ?_
      cases naming with
      | none => exact avoids_throw
      | some record => exact avoids_pure

theorem validates_of_runs {result : Except UpgradeError UpgradeCheck}
    (h : (validateUpgrade currentId desired).Runs transcript result) :
    Validates desired currentId transcript result := by
  rw [validateUpgrade] at h
  cases hcurrent : Release.version currentId with
  | error error =>
    rw [hcurrent, runs_ofExcept_error_bind_iff] at h
    obtain ⟨rfl, rfl⟩ := h
    exact .unread error
  | ok current =>
    rw [hcurrent, runs_ofExcept_ok_bind_iff] at h
    by_cases hsame : current = desired.version
    · rw [if_pos (beq_iff_eq.mpr hsame), runs_log_bind_iff, runs_pure_iff] at h
      obtain ⟨rfl, rfl⟩ := h
      exact .upToDate (hsame ▸ hcurrent)
    · rw [if_neg (mt beq_iff_eq.mp hsame)] at h
      by_cases habove : desired.version.isBelow current = true
      · rw [if_pos habove, runs_throw_iff] at h
        obtain ⟨rfl, rfl⟩ := h
        exact .unread _
      · rw [if_neg habove] at h
        have hbelow := Version.isBelow_of_ne hsame habove
        cases result with
        | error error => exact .refused error hcurrent hbelow
        | ok check =>
          obtain ⟨_, -, hnone⟩ | ⟨first, rest, catalog, rfl, hfirst, hrest⟩ := runs_bind_iff.mp h
          · cases hnone
          obtain ⟨_, -, hnone⟩ | ⟨second, last, candidates, rfl, hsecond, hlast⟩ :=
            runs_bind_iff.mp hrest
          · cases hnone
          obtain rfl := UpgradeCatalog.eq_of_runs_ofInstalled hfirst
          obtain ⟨found, rfl, hfound⟩ := UpgradeCatalog.exists_found_of_runs hsecond
          cases hnaming : firstNaming desired (found.filter VersionRecord.isOffered) with
          | error error =>
            rw [hnaming, runs_ofExcept_error_bind_iff] at hlast
            cases hlast.2
          | ok naming =>
            rw [hnaming, runs_ofExcept_ok_bind_iff] at hlast
            cases naming with
            | none => cases (runs_throw_iff.mp hlast).2
            | some record =>
              obtain ⟨rfl, hcheck⟩ := runs_pure_iff.mp hlast
              cases hcheck
              rw [List.append_nil]
              exact .available (admits_of_naming ⟨current, hcurrent, hbelow⟩ hfound hnaming)

end ClusterUpgrade
