import ClusterUpgrade.Proofs.Schedule.Validation

/-!
Passes over the candidates of an installed version. Main statement: `passes_deliver`. As long as the
remote side answers the lookup of a version always alike, the candidates are one fixed sequence, and
every pass looks up no more of it than it has to, from the first version on, whatever passes there
were before.

What a pass looks up is told as the shortest part of the ids whose elements are enough for it, which
is all ids if no part is. `LookedUp.cons` is the step along the ids.
-/

namespace ClusterUpgrade.UpgradeCatalog

open Procedure

/-- How the lookup of each version is answered. -/
abbrev Answers : Type := String → Except RemoteFailure VersionRecord

/-! ### The sequence of candidates -/

section Elements

variable (answers : Answers)

/-- What the lookup of a version comes to. -/
def lookup (id : String) : Element :=
  (answers id).mapError (.remote "get version" ("version '" ++ id ++ "'"))

/-- Failures belong to the sequence, and so do versions that are offered. -/
def isKept : Element → Bool
  | .error _ => true
  | .ok record => record.isOffered

/-- The elements behind ids, in order. -/
def elements (ids : List String) : List Element := (ids.map (lookup answers)).filter isKept

/-- The shortest part in front of the ids whose elements are enough, or all ids if no part is. -/
structure LookedUp (enough : List Element → Prop) (ids front : List String) : Prop where
  isPrefix : front <+: ids
  enough_or_all : enough (elements answers front) ∨ front = ids
  shortest : ∀ shorter, shorter <+: front → enough (elements answers shorter) → shorter = front

/-- All records of a sequence, or its first failure. -/
inductive Collects : List Element → Except UpgradeError (List VersionRecord) → Prop where
  | all (records : List VersionRecord) : Collects (records.map .ok) (.ok records)
  | failed (records : List VersionRecord) (error : UpgradeError) (rest : List Element) :
      Collects (records.map .ok ++ .error error :: rest) (.error error)

end Elements

variable {answers : Answers} {enough more : List Element → Prop} {ids front : List String}
  {id : String} {count : Nat} {failure : RemoteFailure} {record : VersionRecord}

theorem elements_cons (answers : Answers) (id : String) (ids : List String) :
    elements answers (id :: ids) =
      if isKept (lookup answers id) then lookup answers id :: elements answers ids
      else elements answers ids :=
  List.filter_cons

theorem lookup_of_error (h : answers id = .error failure) :
    lookup answers id = .error (.remote "get version" ("version '" ++ id ++ "'") failure) := by
  rw [lookup, h]
  rfl

theorem lookup_of_ok (h : answers id = .ok record) : lookup answers id = .ok record := by
  rw [lookup, h]
  rfl

theorem lookedUp_of_enough (h : enough []) (ids : List String) :
    LookedUp answers enough ids [] where
  isPrefix := List.nil_prefix
  enough_or_all := .inl h
  shortest := fun _ hshorter _ => List.prefix_nil.mp hshorter

theorem lookedUp_nil : LookedUp answers enough [] [] where
  isPrefix := List.nil_prefix
  enough_or_all := .inr rfl
  shortest := fun _ hshorter _ => List.prefix_nil.mp hshorter

/-- One id in front: what is enough with its element is told by what is enough behind it. -/
theorem LookedUp.cons (h : LookedUp answers more ids front) (hnot : ¬enough [])
    (hstep : ∀ ids, enough (elements answers (id :: ids)) ↔ more (elements answers ids)) :
    LookedUp answers enough (id :: ids) (id :: front) where
  isPrefix := (List.prefix_cons_inj id).mpr h.isPrefix
  enough_or_all := h.enough_or_all.imp (hstep front).mpr (congrArg (id :: ·))
  shortest := by
    intro shorter hshorter henough
    cases shorter with
    | nil => exact absurd henough hnot
    | cons first rest =>
      obtain ⟨rfl, hrest⟩ := List.cons_prefix_cons.mp hshorter
      rw [h.shortest rest hrest ((hstep rest).mp henough)]

theorem Collects.cons {found : List Element} {result : Except UpgradeError (List VersionRecord)}
    (h : Collects found result) (record : VersionRecord) :
    Collects (.ok record :: found) (result.map (record :: ·)) := by
  cases h with
  | all records => exact .all (record :: records)
  | failed records error rest => exact .failed (record :: records) error rest

/-! ### Single passes -/

/-- The lookups of ids with the answers to them. -/
def lookups (answers : Answers) (ids : List String) : Transcript :=
  ids.map fun id => ⟨.versionRecord id, answers id⟩

theorem takeElements_cons (count : Nat) (id : String) (ids : List String) :
    takeElements (count + 1) (id :: ids) = .ask (.versionRecord id) fun reply =>
      let element : Element := reply.mapError (.remote "get version" ("version '" ++ id ++ "'"))
      if isKept element then
        (takeElements count ids).bind fun others => .done (element :: others)
      else takeElements (count + 1) ids := by
  rw [takeElements]
  refine congrArg (Dialogue.ask (RemoteCall.versionRecord id)) (funext fun reply => ?_)
  cases reply <;> rfl

theorem runs_takeElements (answers : Answers) (count : Nat) (ids : List String) :
    ∃ front, LookedUp answers (count ≤ List.length ·) ids front ∧
      (takeElements count ids).Runs (lookups answers front)
        ((elements answers ids).take count) := by
  induction ids generalizing count with
  | nil =>
    refine ⟨[], lookedUp_nil, ?_⟩
    cases count <;> exact .done []
  | cons id rest ih =>
    cases count with
    | zero => exact ⟨[], lookedUp_of_enough (Nat.zero_le _) _, .done []⟩
    | succ count =>
      have hnot : ¬count + 1 ≤ ([] : List Element).length := Nat.not_succ_le_zero count
      rw [takeElements_cons, elements_cons]
      by_cases hkept : isKept (lookup answers id) = true
      · obtain ⟨front, hfront, hruns⟩ := ih count
        refine ⟨id :: front, hfront.cons hnot fun ids => ?_, ?_⟩
        · rw [elements_cons, if_pos hkept, List.length_cons, Nat.succ_le_succ_iff]
        · rw [if_pos hkept, List.take_succ_cons]
          refine Dialogue.runs_ask_iff.mpr ⟨answers id, lookups answers front, rfl, ?_⟩
          change Dialogue.Runs (if isKept (lookup answers id) then _ else _) _ _
          rw [if_pos hkept, Dialogue.runs_bind_iff]
          exact ⟨_, [], _, (List.append_nil _).symm, hruns, .done _⟩
      -- A version that is not offered costs a lookup and yields nothing.
      · obtain ⟨front, hfront, hruns⟩ := ih (count + 1)
        refine ⟨id :: front, hfront.cons hnot fun ids => ?_, ?_⟩
        · rw [elements_cons, if_neg hkept]
        · rw [if_neg hkept]
          refine Dialogue.runs_ask_iff.mpr ⟨answers id, lookups answers front, rfl, ?_⟩
          change Dialogue.Runs (if isKept (lookup answers id) then _ else _) _ _
          rwa [if_neg hkept]

theorem runs_collectOffered (answers : Answers) (ids : List String) :
    ∃ front result, LookedUp answers (fun found => ∃ error, .error error ∈ found) ids front ∧
      Collects (elements answers ids) result ∧
      (collectOffered ids).Runs (lookups answers front) result := by
  induction ids with
  | nil => exact ⟨[], .ok [], lookedUp_nil, .all [], runs_pure_iff.mpr ⟨rfl, rfl⟩⟩
  | cons id rest ih =>
    have hnot : ¬∃ error, .error error ∈ ([] : List Element) := by
      rintro ⟨error, hmem⟩
      cases hmem
    cases hreply : answers id with
    | error failure =>
      have hlookup := lookup_of_error hreply
      have hkept : isKept (lookup answers id) = true := by rw [hlookup]; rfl
      have hfirst : LookedUp answers (fun _ => True) rest [] := lookedUp_of_enough trivial rest
      have hcons (ids : List String) : elements answers (id :: ids) =
          .error (.remote "get version" ("version '" ++ id ++ "'") failure) ::
            elements answers ids := by
        rw [elements_cons, if_pos hkept, hlookup]
      refine ⟨[id], .error (.remote "get version" ("version '" ++ id ++ "'") failure),
        hfirst.cons hnot fun ids => ?_, ?_, ?_⟩
      · exact iff_of_true ⟨_, hcons ids ▸ List.mem_cons_self⟩ trivial
      · rw [hcons]
        exact .failed [] _ _
      · rw [lookups, List.map_singleton, hreply]
        exact runs_call_bind_iff.mpr (.inl ⟨failure, rfl, rfl⟩)
    | ok record =>
      obtain ⟨front, result, hfront, hcollects, hruns⟩ := ih
      have hlookup := lookup_of_ok hreply
      have hcons (ids : List String) : elements answers (id :: ids) =
          if record.isOffered then .ok record :: elements answers ids
          else elements answers ids := by
        rw [elements_cons, hlookup]
        rfl
      refine ⟨id :: front,
        result.map fun others => if record.isOffered then record :: others else others,
        hfront.cons hnot fun ids => ?_, ?_, ?_⟩
      · rw [hcons]
        split <;> simp
      · rw [hcons]
        split
        · exact hcollects.cons record
        · cases result <;> exact hcollects
      · rw [lookups, List.map_cons, hreply]
        refine runs_call_bind_iff.mpr (.inr ⟨record, lookups answers front, rfl, ?_⟩)
        exact runs_bind_pure_iff.mpr ⟨result, hruns, rfl⟩

/-! ### Remote sides -/

variable {σ : Type} {respond : σ → (call : RemoteCall) → call.Reply × σ} {remote : σ}

/-- The remote side behind lookups of ids, one after the other. -/
def afterLookups (respond : σ → (call : RemoteCall) → call.Reply × σ) (remote : σ)
    (ids : List String) : σ :=
  ids.foldl (fun remote id => (respond remote (.versionRecord id)).2) remote

/-- Whatever was looked up before, the remote side gives these answers. -/
def AnswersAlike (respond : σ → (call : RemoteCall) → call.Reply × σ) (remote : σ)
    (answers : Answers) : Prop :=
  ∀ asked id, (respond (afterLookups respond remote asked) (.versionRecord id)).1 = answers id

theorem AnswersAlike.after (h : AnswersAlike respond remote answers) (ids : List String) :
    AnswersAlike respond (afterLookups respond remote ids) answers := by
  intro asked id
  have hboth : afterLookups respond (afterLookups respond remote ids) asked =
      afterLookups respond remote (ids ++ asked) := List.foldl_append.symm
  rw [hboth]
  exact h (ids ++ asked) id

theorem AnswersAlike.answered (h : AnswersAlike respond remote answers) (ids : List String) :
    Dialogue.Answered respond remote (lookups answers ids) (afterLookups respond remote ids) := by
  induction ids generalizing remote with
  | nil => rfl
  | cons id rest ih => exact ⟨(h [] id).symm, ih (h.after [id])⟩

theorem answersAlike_of_memory (remote : MemoryRemote) :
    AnswersAlike MemoryRemote.respond remote fun id => (remote.respond (.versionRecord id)).1 := by
  intro asked id
  induction asked with
  | nil => rfl
  | cons first rest ih =>
    have hunchanged : (remote.respond (.versionRecord first)).2 = remote :=
      MemoryRemote.respond_snd rfl rfl
    rwa [afterLookups, List.foldl_cons, hunchanged]

/-! ### Passes in sequence -/

/-- A way through the candidates: to take so many elements, or to collect all records. -/
inductive Pass where
  | taking (count : Nat)
  | collecting

/-- What a pass ends with. -/
inductive Pass.Yield where
  | taken (found : List Element)
  | collected (result : Except UpgradeError (List VersionRecord))

def pass (catalog : UpgradeCatalog) : Pass → RemoteDialogue Pass.Yield
  | .taking count => (catalog.take count).bind fun found => .done (.taken found)
  | .collecting => catalog.candidates.run.bind fun result => .done (.collected result)

/-- What a pass is to leave: the first elements of the sequence, or all of its records, behind the
lookups without which they cannot be told. -/
def Delivers (answers : Answers) (ids : List String) :
    Pass → Dialogue.Record RemoteCall Pass.Yield → Prop
  | .taking count, record => ∃ front, LookedUp answers (count ≤ List.length ·) ids front ∧
      record.questions = front.map .versionRecord ∧
      record.value = .taken ((elements answers ids).take count)
  | .collecting, record => ∃ front result,
      LookedUp answers (fun found => ∃ error, .error error ∈ found) ids front ∧
      record.questions = front.map .versionRecord ∧
      Collects (elements answers ids) result ∧ record.value = .collected result

theorem map_fst_lookups (ids : List String) :
    (lookups answers ids).map Sigma.fst = ids.map .versionRecord := by
  rw [lookups, List.map_map]
  rfl

theorem AnswersAlike.delivers (h : AnswersAlike respond remote answers) (catalog : UpgradeCatalog)
    (pass : Pass) :
    ∃ front, Delivers answers catalog.lookupIds pass ((catalog.pass pass).play respond remote).1 ∧
      ((catalog.pass pass).play respond remote).2 = afterLookups respond remote front := by
  cases pass with
  | taking count =>
    obtain ⟨front, hfront, hruns⟩ := runs_takeElements answers count catalog.lookupIds
    have hpass : (catalog.pass (.taking count)).Runs (lookups answers front)
        (.taken ((elements answers catalog.lookupIds).take count)) :=
      Dialogue.runs_bind_iff.mpr ⟨_, [], _, (List.append_nil _).symm, hruns, .done _⟩
    obtain ⟨hvalue, hquestions, hfinal⟩ := Dialogue.play_of_runs hpass (h.answered front)
    rw [map_fst_lookups] at hquestions
    exact ⟨front, ⟨front, hfront, hquestions, hvalue⟩, hfinal⟩
  | collecting =>
    obtain ⟨front, result, hfront, hcollects, hruns⟩ :=
      runs_collectOffered answers catalog.lookupIds
    have hpass : (catalog.pass .collecting).Runs (lookups answers front) (.collected result) :=
      Dialogue.runs_bind_iff.mpr ⟨_, [], _, (List.append_nil _).symm, hruns, .done _⟩
    obtain ⟨hvalue, hquestions, hfinal⟩ := Dialogue.play_of_runs hpass (h.answered front)
    rw [map_fst_lookups] at hquestions
    exact ⟨front, ⟨front, result, hfront, hquestions, hcollects, hvalue⟩, hfinal⟩

theorem AnswersAlike.all_deliver (h : AnswersAlike respond remote answers)
    (catalog : UpgradeCatalog) (passes : List Pass) :
    List.Forall₂ (Delivers answers catalog.lookupIds) passes
      (Dialogue.playAll respond (passes.map catalog.pass) remote).1 := by
  induction passes generalizing remote with
  | nil => exact .nil
  | cons first rest ih =>
    obtain ⟨front, hdelivers, hfinal⟩ := h.delivers catalog first
    refine .cons hdelivers ?_
    rw [hfinal]
    exact ih (h.after front)

/-- **Candidates come lazily, in order, and anew in every pass.** To open the catalog costs the
lookup of the installed version only; then any passes may follow one another. -/
theorem passes_deliver (h : AnswersAlike respond remote answers) {installed : VersionRecord}
    (hinstalled : answers id = .ok installed) (passes : List Pass) :
    let opened := (ofInstalled id).run.play respond remote
    let catalog : UpgradeCatalog := { installed }
    opened.1.value = .ok catalog ∧ opened.1.questions = [.versionRecord id] ∧
      List.Forall₂ (Delivers answers catalog.lookupIds) passes
        (Dialogue.playAll respond (passes.map catalog.pass) opened.2).1 := by
  intro opened catalog
  have hanswered : Dialogue.Answered respond remote [⟨.versionRecord id, .ok installed⟩]
      (afterLookups respond remote [id]) := ⟨(hinstalled ▸ h [] id).symm, rfl⟩
  obtain ⟨hvalue, hquestions, hfinal⟩ := play_of_runs (runs_ofInstalled id installed) hanswered
  refine ⟨hvalue, hquestions, ?_⟩
  rw [show opened.2 = afterLookups respond remote [id] from hfinal]
  exact (h.after [id]).all_deliver catalog passes

/-- A version that is advertised twice is looked up twice, one that is not offered yields nothing,
and one that is missing yields its failure, behind which the sequence goes on. -/
theorem passes_deliver_beyondMissing :
    let installed : VersionRecord :=
      { id := "openshift-v4.14.0-fast"
        channelGroup := some "fast"
        availableUpgrades := ["4.14.1", "4.14.2", "4.14.x", "4.14.1"] }
    let offered : VersionRecord := { id := "openshift-v4.14.1-fast", isOffered := true }
    let hidden : VersionRecord := { id := "openshift-v4.14.2-fast" }
    let remote : MemoryRemote := { records := [installed, offered, hidden] }
    let answers : Answers := fun id => (remote.respond (.versionRecord id)).1
    let catalog : UpgradeCatalog := { installed }
    let passes : List Pass := [.taking 2, .collecting, .taking 0, .taking 9]
    let opened := (ofInstalled installed.id).run.play MemoryRemote.respond remote
    let records :=
      (Dialogue.playAll MemoryRemote.respond (passes.map catalog.pass) opened.2).1
    AnswersAlike MemoryRemote.respond remote answers ∧ answers installed.id = .ok installed ∧
      List.Forall₂ (Delivers answers catalog.lookupIds) passes records ∧
      records.map (·.questions.length) = [3, 3, 0, 4] := by
  intro installed offered hidden remote answers catalog passes opened records
  have halike : AnswersAlike MemoryRemote.respond remote answers := answersAlike_of_memory remote
  have hinstalled : answers installed.id = .ok installed := rfl
  obtain ⟨-, -, hdelivers⟩ := passes_deliver halike hinstalled passes
  exact ⟨halike, hinstalled, hdelivers, by decide +kernel⟩

end ClusterUpgrade.UpgradeCatalog
