import ClusterUpgrade.Proofs.Version.Precedence
import ClusterUpgrade.Report

/-!
The order in which upgrades are shown. Main statements: `Release.isOldestFirst_iff`, candidates are
sorted by the versions that their ids name, what names no version comes first, candidates that name
the same keep their order, and no other list is sorted so; and `Report.versions_oldestFirst`, the one
that is marked as the latest stands below no other.
-/

namespace ClusterUpgrade

namespace Version

variable {a b c : Version}

theorem not_precedes_of_precedes (h : a.Precedes b) : ¬b.Precedes a := fun hback => by
  rw [← compare_eq_lt_iff] at h
  rw [← compare_eq_gt_iff, h] at hback
  cases hback

theorem precedes_or_eq_of_not_precedes (h : ¬b.Precedes a) : a.Precedes b ∨ a = b := by
  rw [← isBelow_iff] at h ⊢
  by_cases heq : a = b
  · exact .inr heq
  · exact .inl (isBelow_of_ne heq h)

/-- Not standing above another version is transitive, as the order is total. -/
theorem not_precedes_trans (hab : ¬b.Precedes a) (hbc : ¬c.Precedes b) : ¬c.Precedes a := by
  intro hca
  rcases precedes_or_eq_of_not_precedes hab with hless | rfl
  · exact hbc (hca.trans hless)
  · exact hbc hca

end Version

namespace Release

variable {α : Type} {idOf : α → String} {items sorted : List α} {a b c : Option Version}

theorem isAtMost_iff :
    isAtMost a b = true ↔
      ∀ first, a = some first → ∃ second, b = some second ∧ ¬second.Precedes first := by
  cases a with
  | none => simp [isAtMost]
  | some first =>
    cases b with
    | none => simp [isAtMost]
    | some second => simp [isAtMost, ← Version.compare_eq_gt_iff]

theorem isAtMost_self (a : Option Version) : isAtMost a a = true :=
  isAtMost_iff.mpr fun first hfirst =>
    ⟨first, hfirst, fun hprecedes => Version.not_precedes_of_precedes hprecedes hprecedes⟩

theorem isAtMost_total (a b : Option Version) : (isAtMost a b || isAtMost b a) = true := by
  cases a with
  | none => rfl
  | some first =>
    cases b with
    | none => rfl
    | some second =>
      rw [Bool.or_eq_true, isAtMost_iff, isAtMost_iff]
      by_cases hprecedes : second.Precedes first
      · right
        rintro _ ⟨⟩
        exact ⟨first, rfl, Version.not_precedes_of_precedes hprecedes⟩
      · left
        rintro _ ⟨⟩
        exact ⟨second, rfl, hprecedes⟩

theorem isAtMost_trans (hab : isAtMost a b = true) (hbc : isAtMost b c = true) :
    isAtMost a c = true := by
  rw [isAtMost_iff] at hab hbc ⊢
  intro first hfirst
  obtain ⟨second, hsecond, hnot⟩ := hab first hfirst
  obtain ⟨third, hthird, hnot'⟩ := hbc second hsecond
  exact ⟨third, hthird, Version.not_precedes_trans hnot hnot'⟩

/-- Whether an item may stand in front of another one. -/
def mayPrecede (idOf : α → String) (a b : α) : Bool :=
  isAtMost (version? (idOf a)) (version? (idOf b))

/-- Whether the id of an item names this version, or none. -/
def isOfKey (idOf : α → String) (key : Option Version) (item : α) : Bool :=
  version? (idOf item) = key

/-- The same items in the order of the versions that their ids name. What names no version comes
first, and items that name the same version, or none, are in the order in which they came. -/
structure IsOldestFirst (idOf : α → String) (items sorted : List α) : Prop where
  perm : sorted.Perm items
  unread_first : sorted.Pairwise fun a b =>
    version? (idOf b) = none → version? (idOf a) = none
  ascending : sorted.Pairwise fun a b =>
    ∀ first second, version? (idOf a) = some first → version? (idOf b) = some second →
      ¬second.Precedes first
  stable : ∀ key, sorted.filter (isOfKey idOf key) = items.filter (isOfKey idOf key)

theorem isOfKey_iff {key : Option Version} {item : α} :
    isOfKey idOf key item = true ↔ version? (idOf item) = key :=
  decide_eq_true_iff

theorem mayPrecede_total (a b : α) : (mayPrecede idOf a b || mayPrecede idOf b a) = true :=
  isAtMost_total _ _

theorem mayPrecede_trans (a b c : α) (hab : mayPrecede idOf a b = true)
    (hbc : mayPrecede idOf b c = true) : mayPrecede idOf a c = true :=
  isAtMost_trans hab hbc

theorem version?_eq_of_mayPrecede {a b : α} (hab : mayPrecede idOf a b = true)
    (hba : mayPrecede idOf b a = true) : version? (idOf a) = version? (idOf b) := by
  cases hfirst : version? (idOf a) with
  | none =>
    cases hsecond : version? (idOf b) with
    | none => rfl
    | some second =>
      obtain ⟨first, hother, -⟩ := isAtMost_iff.mp hba second hsecond
      cases hfirst.symm.trans hother
  | some first =>
    obtain ⟨second, hsecond, hnot⟩ := isAtMost_iff.mp hab first hfirst
    obtain ⟨third, hthird, hnot'⟩ := isAtMost_iff.mp hba second hsecond
    obtain rfl : first = third := Option.some.inj (hfirst.symm.trans hthird)
    rcases Version.precedes_or_eq_of_not_precedes hnot with hless | rfl
    · exact absurd hless hnot'
    · exact hsecond.symm

/-! ### The sorted list -/

theorem pairwise_oldestFirst (idOf : α → String) (items : List α) :
    (oldestFirst idOf items).Pairwise fun a b => mayPrecede idOf a b = true :=
  List.pairwise_mergeSort mayPrecede_trans mayPrecede_total items

/-- The items of one key are sorted as they came, and what is sorted stays a sublist. -/
theorem filter_oldestFirst (idOf : α → String) (items : List α) (key : Option Version) :
    (oldestFirst idOf items).filter (isOfKey idOf key) = items.filter (isOfKey idOf key) := by
  have hperm : (oldestFirst idOf items).Perm items := List.mergeSort_perm ..
  have hsame : (items.filter (isOfKey idOf key)).Pairwise fun a b =>
      mayPrecede idOf a b = true := by
    refine List.pairwise_of_forall_mem_list fun a ha b hb => ?_
    rw [mayPrecede, isOfKey_iff.mp (List.mem_filter.mp ha).2,
      isOfKey_iff.mp (List.mem_filter.mp hb).2]
    exact isAtMost_self key
  have hkept : (items.filter (isOfKey idOf key)).Sublist (oldestFirst idOf items) :=
    List.sublist_mergeSort mayPrecede_trans mayPrecede_total hsame List.filter_sublist
  have hfiltered : (items.filter (isOfKey idOf key)).Sublist
      ((oldestFirst idOf items).filter (isOfKey idOf key)) := by
    simpa only [List.filter_filter, Bool.and_self] using hkept.filter (isOfKey idOf key)
  exact (hfiltered.eq_of_length (hperm.filter _).length_eq.symm).symm

theorem isOldestFirst_oldestFirst (idOf : α → String) (items : List α) :
    IsOldestFirst idOf items (oldestFirst idOf items) where
  perm := List.mergeSort_perm ..
  unread_first := (pairwise_oldestFirst idOf items).imp fun {a b} hle hnone => by
    cases hversion : version? (idOf a) with
    | none => rfl
    | some first =>
      obtain ⟨second, hsecond, -⟩ := isAtMost_iff.mp hle first hversion
      cases hnone.symm.trans hsecond
  ascending := (pairwise_oldestFirst idOf items).imp fun {a b} hle first second ha hb => by
    obtain ⟨other, hother, hnot⟩ := isAtMost_iff.mp hle first ha
    obtain rfl : second = other := Option.some.inj (hb.symm.trans hother)
    exact hnot
  stable := filter_oldestFirst idOf items

/-- What comes last in a sorted list may stand behind every item. -/
theorem mayPrecede_last {front : List α} {last item : α}
    (hsorted : (front ++ [last]).Pairwise fun a b => mayPrecede idOf a b = true)
    (hitem : item ∈ front ++ [last]) : mayPrecede idOf item last = true := by
  rcases List.mem_append.mp hitem with hfront | hlast
  · exact (List.pairwise_append.mp hsorted).2.2 item hfront last (List.mem_singleton_self last)
  · rw [List.mem_singleton.mp hlast]
    exact isAtMost_self _

/-! ### No other list is sorted -/

theorem IsOldestFirst.pairwise (h : IsOldestFirst idOf items sorted) :
    sorted.Pairwise fun a b => mayPrecede idOf a b = true := by
  refine (h.unread_first.and h.ascending).imp fun {a b} hpair => isAtMost_iff.mpr ?_
  intro first hfirst
  cases hsecond : version? (idOf b) with
  | none => cases hfirst.symm.trans (hpair.1 hsecond)
  | some second => exact ⟨second, rfl, hpair.2 first second hfirst hsecond⟩

theorem mem_of_filter_eq {other : List α} {item : α}
    (h : ∀ key, sorted.filter (isOfKey idOf key) = other.filter (isOfKey idOf key))
    (hitem : item ∈ sorted) : item ∈ other := by
  have hkept : item ∈ sorted.filter (isOfKey idOf (version? (idOf item))) :=
    List.mem_filter.mpr ⟨hitem, isOfKey_iff.mpr rfl⟩
  exact List.mem_of_mem_filter (h _ ▸ hkept)

/-- Two sorted lists with the same items of each key, in the same order, are the same. -/
theorem eq_of_filter_eq {other : List α}
    (hsorted : sorted.Pairwise fun a b => mayPrecede idOf a b = true)
    (hother : other.Pairwise fun a b => mayPrecede idOf a b = true)
    (h : ∀ key, sorted.filter (isOfKey idOf key) = other.filter (isOfKey idOf key)) :
    sorted = other := by
  have hback := fun key => (h key).symm
  induction sorted generalizing other with
  | nil =>
    cases other with
    | nil => rfl
    | cons b other => cases mem_of_filter_eq hback List.mem_cons_self
  | cons a sorted ih =>
    cases other with
    | nil => cases mem_of_filter_eq h List.mem_cons_self
    | cons b other =>
      obtain ⟨hfirst, hrest⟩ := List.pairwise_cons.mp hsorted
      obtain ⟨hfirst', hrest'⟩ := List.pairwise_cons.mp hother
      have hab : mayPrecede idOf a b = true := by
        rcases List.mem_cons.mp (mem_of_filter_eq hback List.mem_cons_self) with heq | hb
        · exact heq ▸ isAtMost_self _
        · exact hfirst b hb
      have hba : mayPrecede idOf b a = true := by
        rcases List.mem_cons.mp (mem_of_filter_eq h List.mem_cons_self) with heq | ha
        · exact heq ▸ isAtMost_self _
        · exact hfirst' a ha
      -- Heads that may stand in front of each other are of one key, and each is the first of it.
      have hkey : version? (idOf b) = version? (idOf a) := version?_eq_of_mayPrecede hba hab
      have hheads := h (version? (idOf a))
      rw [List.filter_cons_of_pos (isOfKey_iff.mpr rfl),
        List.filter_cons_of_pos (isOfKey_iff.mpr hkey)] at hheads
      obtain rfl := (List.cons.inj hheads).1
      have htails : ∀ key, sorted.filter (isOfKey idOf key) = other.filter (isOfKey idOf key) := by
        intro key
        have hboth := h key
        rw [List.filter_cons, List.filter_cons] at hboth
        split at hboth
        · exact (List.cons.inj hboth).2
        · exact hboth
      rw [ih hrest hrest' htails fun key => (htails key).symm]

theorem isOldestFirst_iff :
    IsOldestFirst idOf items sorted ↔ sorted = oldestFirst idOf items := by
  constructor
  · intro h
    exact eq_of_filter_eq h.pairwise (pairwise_oldestFirst idOf items) fun key =>
      (h.stable key).trans (filter_oldestFirst idOf items key).symm
  · rintro rfl
    exact isOldestFirst_oldestFirst idOf items

end Release

namespace Report

def candidateRow (isStyled : Bool) (label : String) (record : VersionRecord) : String :=
  "  " ++ padEnd 12 record.shownId ++ " " ++ paint isStyled .dimmed label

theorem candidateRows_append_singleton (isStyled : Bool) (front : List VersionRecord)
    (latest : VersionRecord) :
    candidateRows isStyled (front ++ [latest]) =
      front.map (candidateRow isStyled "") ++ [candidateRow isStyled "(latest)" latest] := by
  induction front with
  | nil => rfl
  | cons record rest ih =>
    rw [List.cons_append, candidateRows, ih]
    simp [candidateRow]

/-- **Oldest first, latest last.** Every candidate has its row, and only the last row is marked; the
candidate of that row stands below no other. -/
theorem versions_oldestFirst (isStyled : Bool) (installed : VersionRecord)
    (candidates : List VersionRecord) :
    let sorted := Release.oldestFirst VersionRecord.shownId candidates
    Release.IsOldestFirst VersionRecord.shownId candidates sorted ∧
    (candidates ≠ [] → ∃ front latest, sorted = front ++ [latest] ∧
      versions isStyled installed candidates = lines
        (["", paint isStyled .bold "Installed version:" ++ " " ++ installed.shownId] ++
          paint isStyled .bold "Available upgrades:" ::
            (front.map (candidateRow isStyled "") ++ [candidateRow isStyled "(latest)" latest])) ∧
      ∀ candidate ∈ candidates, ∀ version, Release.version? candidate.shownId = some version →
        ∃ last, Release.version? latest.shownId = some last ∧ ¬last.Precedes version) := by
  intro sorted
  have hsorted : Release.IsOldestFirst VersionRecord.shownId candidates sorted :=
    Release.isOldestFirst_iff.mpr rfl
  refine ⟨hsorted, fun hcandidates => ?_⟩
  have hne : sorted ≠ [] := fun hnil => hcandidates (hnil ▸ hsorted.perm).nil_eq.symm
  obtain ⟨front, latest, hsplit⟩ := sorted.eq_nil_or_concat'.resolve_left hne
  refine ⟨front, latest, hsplit, ?_, fun candidate hcandidate => ?_⟩
  · have hsome : ¬candidates.isEmpty = true := fun hnil => hcandidates (List.isEmpty_iff.mp hnil)
    rw [versions, if_neg hsome, ← candidateRows_append_singleton, ← hsplit]
  · have hpairs := hsorted.pairwise
    have hmem : candidate ∈ sorted := hsorted.perm.mem_iff.mpr hcandidate
    exact Release.isAtMost_iff.mp (Release.mayPrecede_last (hsplit ▸ hpairs) (hsplit ▸ hmem))

/-- The latest is known by its catalog id alone, it came first, and one id names no version. -/
theorem versions_oldestFirst_decorated :
    let record (id rawId : String) : VersionRecord := { id, rawId }
    let latest := record "openshift-v4.14.10-fast" ""
    let candidates :=
      [latest, record "a" "4.14.9", record "b" "next", record "c" "4.14.10-rc.1"]
    candidates ≠ [] ∧ ∃ front,
      Release.oldestFirst VersionRecord.shownId candidates = front ++ [latest] ∧
      versions false (record "d" "4.13.2") candidates = lines
        (["", "Installed version: 4.13.2", "Available upgrades:"] ++
          front.map (candidateRow false "") ++ ["  openshift-v4.14.10-fast (latest)"]) := by
  intro record latest candidates
  have hcandidates : candidates ≠ [] := List.cons_ne_nil _ _
  obtain ⟨hsorted, hshown⟩ := versions_oldestFirst false (record "d" "4.13.2") candidates
  obtain ⟨front, last, hsplit, htext, hlast⟩ := hshown hcandidates
  have hbelow : ∀ candidate ∈ candidates, candidate = latest ∨
      (Release.version? candidate.shownId).all (·.isBelow ⟨4, 14, 10, []⟩) = true := by
    decide +kernel
  have hmem : last ∈ candidates := hsorted.perm.mem_iff.mp (hsplit ▸ by simp)
  have hread : Release.version? latest.shownId = some ⟨4, 14, 10, []⟩ := by decide +kernel
  obtain ⟨version, hversion, hnot⟩ := hlast latest List.mem_cons_self _ hread
  rcases hbelow last hmem with rfl | hless
  · have hrow : candidateRow false "(latest)" latest = "  openshift-v4.14.10-fast (latest)" := by
      decide +kernel
    refine ⟨hcandidates, front, hsplit, ?_⟩
    rw [htext, hrow, List.append_assoc]
    rfl
  · rw [hversion, Option.all_some, Version.isBelow_iff] at hless
    exact absurd hless hnot

end Report

end ClusterUpgrade
