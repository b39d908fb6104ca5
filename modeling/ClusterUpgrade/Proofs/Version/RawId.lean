import ClusterUpgrade.Proofs.Version.CatalogId
import ClusterUpgrade.Proofs.Version.Precedence

/-!
The raw id of a desired version, read once more. Main statement: `isNamedBy_rawId_iff`. A raw id
that ends in a channel group loses it when it is read again, so it names the desired version exactly
if what it loses is no more than the end of a build part.
-/

namespace ClusterUpgrade

open Text

namespace PreRelease

theorem isBlank_of_isPartChar {c : Char} (h : isPartChar c = true) : isBlank c = false := by
  simp only [isPartChar, Bool.or_eq_true, Bool.and_eq_true, decide_eq_true_eq, beq_iff_eq,
    Char.le_def, UInt32.le_iff_toNat_le] at h
  rcases h with ((hdigit | hlower) | hupper) | rfl
  · exact isBlank_of_isDigit hdigit
  · change 97 ≤ c.toNat ∧ c.toNat ≤ 122 at hlower
    exact isBlank_of_printable (by omega) (by omega)
  · change 65 ≤ c.toNat ∧ c.toNat ≤ 90 at hupper
    exact isBlank_of_printable (by omega) (by omega)
  · decide

theorem Spells.chars_eq {part : PreRelease} {run : List Char} (h : part.Spells run) :
    part.chars = run := by
  cases h <;> rfl

end PreRelease

namespace Version

variable {version : Version} {parts : List PreRelease} {text text' front build rest : List Char}
  {c : Char}

/-! ### Characters of a version -/

theorem SpellsBuild.isPartChar_or_mark (h : SpellsBuild text) :
    ∀ c ∈ text, PreRelease.isPartChar c = true ∨ c = '.' ∨ c = '+' := by
  obtain ⟨found, rfl⟩ := h.exists_marked
  cases found with
  | none => simp [marked]
  | some build =>
    refine List.forall_mem_cons.mpr ⟨.inr (.inr rfl), fun c hc => ?_⟩
    rcases h.isPartChar_or_dot c hc with hpart | hdot
    · exact .inl hpart
    · exact .inr (.inl hdot)

theorem Spells.isBlank_eq_false (h : version.Spells text) : ∀ c ∈ text, isBlank c = false := by
  obtain ⟨-, core, preRelease, build, rfl, hcore, hpre, hbuild⟩ := h
  intro c hc
  rcases List.mem_append.mp hc with hc | hc
  · rcases hcore.isDigit_or_dot c hc with hdigit | rfl
    · exact isBlank_of_isDigit hdigit
    · decide
  rcases List.mem_append.mp hc with hc | hc
  · rcases hpre.isPartChar_or_dot c hc with hpart | rfl
    · exact PreRelease.isBlank_of_isPartChar hpart
    · decide
  · rcases hbuild.isPartChar_or_mark c hc with hpart | rfl | rfl
    · exact PreRelease.isBlank_of_isPartChar hpart
    · decide
    · decide

/-- A product mark begins with a letter, and the core of a version has none. -/
theorem Spells.dropMark_eq (h : version.Spells text) : Release.dropMark text = text := by
  unfold Release.dropMark
  cases hdrop : dropPrefix? Release.productMark text with
  | none => rfl
  | some rest =>
    have htext : text = Release.productMark ++ rest := dropPrefix?_eq_some_iff.mp hdrop
    have hletter : 'o' ∈ Version.core text := by
      rw [htext]
      exact List.mem_cons_self
    obtain ⟨-, core, preRelease, build, rfl, hcore, hpre, hbuild⟩ := h
    rw [(hcore.core_append hpre hbuild.takeWhile_isInCore).1] at hletter
    exact absurd (hcore.isDigit_or_dot 'o' hletter) (by decide)

theorem Spells.rawChars_eq (h : version.Spells text) :
    Release.rawChars text = Release.dropGroup text := by
  rw [Release.rawChars, trimChars_eq_self_of_forall h.isBlank_eq_false, h.dropMark_eq]

/-! ### Shortened versions -/

theorem map_chars_eq {runs : List (List Char)} (h : List.Forall₂ PreRelease.Spells parts runs) :
    parts.map PreRelease.chars = runs := by
  induction h with
  | nil => rfl
  | cons hspelled _ ih => rw [List.map_cons, hspelled.chars_eq, ih]

theorem Spells.exists_of_plus_not_mem (h : version.Spells text) (hplus : '+' ∉ text) :
    ∃ core preRelease, text = core ++ preRelease ∧
      SpellsCore version.major version.minor version.patch core ∧
      SpellsPreRelease version.preRelease preRelease := by
  obtain ⟨-, core, preRelease, build, rfl, hcore, hpre, hbuild⟩ := h
  cases hbuild with
  | absent => exact ⟨core, preRelease, by simp, hcore, hpre⟩
  | present => simp at hplus

/-- The parts of a pre-release are spelled in one way only. -/
theorem SpellsPreRelease.unique (h : SpellsPreRelease parts text)
    (h' : SpellsPreRelease parts text') : text = text' := by
  cases h with
  | absent =>
    cases h' with
    | absent => rfl
    | present hne hparts => exact absurd (map_chars_eq hparts).symm hne
  | present hne hparts =>
    cases h' with
    | absent => exact absurd (map_chars_eq hparts).symm hne
    | present hne' hparts' => rw [← map_chars_eq hparts, ← map_chars_eq hparts']

theorem SpellsBuild.exists_concat (h : SpellsBuild ('+' :: build)) :
    ∃ init last, build = init ++ [last] ∧ PreRelease.isPartChar last = true := by
  have hbuild : isBuild (some build) = true := isBuild_iff.mpr h
  have hruns : ∀ run ∈ splitOn '.' build, run ≠ [] := by
    simp only [isBuild, List.all_eq_true, PreRelease.isPart_iff] at hbuild
    exact fun run hrun => (hbuild run hrun).1
  rcases List.eq_nil_or_concat build with rfl | ⟨init, last, rfl⟩
  · exact absurd rfl (hruns [] (by simp [splitOn]))
  · rw [List.concat_eq_append] at *
    refine ⟨init, last, rfl, ?_⟩
    rcases h.isPartChar_or_dot last (by simp) with hpart | rfl
    · exact hpart
    · exact absurd rfl (hruns [] (by simp [splitOn_append, splitOn]))

theorem isPart_of_mem_splitOn_concat {run found : List Char} (hc : PreRelease.isPartChar c = true)
    (hdot : '.' ∉ run) (hrun : ∀ d ∈ run, PreRelease.isPartChar d = true ∨ d = '.')
    (hfound : found ∈ splitOn '.' (run ++ [c])) : PreRelease.isPart found = true := by
  have hpart : ∀ d ∈ run ++ [c], PreRelease.isPartChar d = true := by
    intro d hd
    rcases List.mem_append.mp hd with hd | hd
    · refine (hrun d hd).resolve_right ?_
      rintro rfl
      exact hdot hd
    · rwa [List.mem_singleton.mp hd]
  have hsplit : splitOn '.' (run ++ [c]) = [run ++ [c]] :=
    splitOn_of_not_mem (PreRelease.not_mem_of_forall_isPartChar hpart)
  rw [hsplit, List.mem_singleton] at hfound
  rw [hfound]
  exact PreRelease.isPart_iff.mpr ⟨by simp, hpart⟩

/-- A build part may be cut off inside a run. -/
theorem SpellsBuild.of_append (h : SpellsBuild ('+' :: (build ++ c :: rest)))
    (hc : PreRelease.isPartChar c = true) : SpellsBuild ('+' :: (build ++ [c])) := by
  have hruns : isBuild (some (build ++ c :: rest)) = true := isBuild_iff.mpr h
  have hchars : ∀ d ∈ build, PreRelease.isPartChar d = true ∨ d = '.' :=
    fun d hd => h.isPartChar_or_dot d (List.mem_append_left _ hd)
  suffices hshort : isBuild (some (build ++ [c])) = true from isBuild_iff.mp hshort
  rw [isBuild, List.all_eq_true] at hruns ⊢
  intro found hfound
  by_cases hdot : '.' ∈ build
  · -- Only the run behind the last dot is cut.
    obtain ⟨init, run, rfl, hrun⟩ := exists_append_of_mem hdot
    rw [List.append_assoc, List.cons_append, splitOn_append] at hruns hfound
    rcases List.mem_append.mp hfound with hinit | hlast
    · exact hruns found (List.mem_append_left _ hinit)
    · exact isPart_of_mem_splitOn_concat hc hrun (fun d hd => hchars d (by simp [hd])) hlast
  · exact isPart_of_mem_splitOn_concat hc hdot hchars hfound

end Version

namespace Release

variable {named : Version} {rest text : List Char} {name : String}

theorem plus_not_mem_groupMark (h : name ∈ channelGroups) : '+' ∉ groupMark name := by
  revert h name
  decide

/-- Without a build part, a channel group at the end of a version belongs to its pre-release. -/
theorem not_spells_of_plus_not_mem (hname : name ∈ channelGroups) (hplus : '+' ∉ rest)
    (h : named.Spells (rest ++ groupMark name)) : ¬named.Spells rest := by
  intro hrest
  have hwhole : '+' ∉ rest ++ groupMark name := by
    simp [hplus, plus_not_mem_groupMark hname]
  obtain ⟨core, preRelease, htext, hcore, hpre⟩ := h.exists_of_plus_not_mem hwhole
  obtain ⟨core', preRelease', rfl, hcore', hpre'⟩ := hrest.exists_of_plus_not_mem hplus
  have hlong : preRelease = preRelease' ++ groupMark name := by
    calc preRelease = Version.suffix (core ++ (preRelease ++ [])) := by
          rw [(hcore.core_append hpre rfl).2, List.append_nil]
      _ = Version.suffix (core' ++ (preRelease' ++ groupMark name)) := by
          rw [List.append_nil, ← htext, List.append_assoc]
      _ = preRelease' ++ groupMark name := (hcore'.core_append hpre' rfl).2
  have hshort : preRelease = preRelease' := hpre.unique hpre'
  simp [hshort, groupMark] at hlong

/-- A build part may end with the text, as some run of it has begun. -/
def EndsInBuild (text : List Char) : Prop :=
  ∃ front build last, text = front ++ '+' :: (build ++ [last]) ∧
    PreRelease.isPartChar last = true

/-- Whatever channel group can be stripped from the text is the end of a build part. -/
def KeepsName (text : List Char) : Prop :=
  ∀ name ∈ channelGroups, ∀ rest, text = rest ++ groupMark name → EndsInBuild rest

theorem spells_of_append_groupMark_iff (hname : name ∈ channelGroups)
    (h : named.Spells (rest ++ groupMark name)) :
    named.Spells rest ↔ EndsInBuild rest := by
  constructor
  · intro hrest
    by_cases hplus : '+' ∈ rest
    · obtain ⟨front, build, rfl, -⟩ := List.eq_append_cons_of_mem hplus
      have hbuild := (Version.spells_append_build_iff.mp hrest).2.2
      obtain ⟨init, last, rfl, hlast⟩ := hbuild.exists_concat
      exact ⟨front, init, last, rfl, hlast⟩
    · exact absurd hrest (not_spells_of_plus_not_mem hname hplus h)
  · rintro ⟨front, build, last, rfl, hlast⟩
    have hwhole : front ++ '+' :: (build ++ [last]) ++ groupMark name =
        front ++ '+' :: (build ++ last :: groupMark name) := by simp
    rw [hwhole, Version.spells_append_build_iff] at h
    obtain ⟨hfront, hplus, hbuild⟩ := h
    exact Version.spells_append_build_iff.mpr ⟨hfront, hplus, hbuild.of_append hlast⟩

theorem spells_dropGroup_iff (h : named.Spells text) :
    named.Spells (dropGroup text) ↔ KeepsName text := by
  rcases dropGroup_eq_or text with ⟨name, hname, htext⟩ | ⟨hends, hsame⟩
  · rw [htext] at h
    rw [spells_of_append_groupMark_iff hname h]
    constructor
    · intro hbuild name' hname' rest hrest
      rwa [hrest, dropGroup_append hname'] at hbuild
    · exact fun hkeeps => hkeeps name hname _ htext
  · rw [hsame]
    refine iff_of_true h fun name hname rest hrest => ?_
    exact absurd ⟨name, hname, rest, hrest.symm⟩ hends

theorem version_minimumSupported : version minimumSupported = .ok ⟨4, 10, 0, []⟩ := by
  apply ok_of_toOption_eq_some
  decide +kernel

theorem supportedVersion_eq_ok_iff {id : String} {found : Version} :
    supportedVersion id = .ok found ↔
      version id = .ok found ∧ ¬found.Precedes ⟨4, 10, 0, []⟩ := by
  unfold supportedVersion
  rw [version_minimumSupported]
  constructor
  · intro h
    obtain ⟨read, hread, hchecked⟩ := exists_of_bind_eq_ok h
    by_cases hbelow : read.isBelow ⟨4, 10, 0, []⟩ = true
    · simp [bind, Except.bind, hbelow] at hchecked
    · obtain rfl : read = found := by simpa [bind, Except.bind, hbelow] using hchecked
      exact ⟨hread, fun hless => hbelow (Version.isBelow_iff.mpr hless)⟩
  · rintro ⟨hread, hsupported⟩
    simp [bind, Except.bind, hread, Version.isBelow_iff, hsupported]

end Release

namespace DesiredVersion

variable {id : String} {group : Option String} {desired : DesiredVersion}

theorem version_rawId_iff (h : parse id group = .ok desired) :
    Release.version desired.rawId = .ok desired.version ↔
      Release.KeepsName desired.rawId.toList := by
  obtain ⟨hversion, hraw, -⟩ := parse_eq_ok_iff.mp h
  have hspelled : desired.version.Spells desired.rawId.toList := by
    rw [hraw]
    exact Release.version_eq_ok_iff.mp hversion
  rw [Release.version_eq_ok_iff, Release.rawId, String.toList_ofList, hspelled.rawChars_eq,
    Release.spells_dropGroup_iff hspelled]

/-- **A desired version names itself** unless its raw id loses a channel group that tells it apart.
If it does name itself, then the check of its raw id is the check of the version. -/
theorem isNamedBy_rawId_iff (h : parse id group = .ok desired) :
    (desired.isNamedBy desired.rawId = .ok true ↔ Release.KeepsName desired.rawId.toList) ∧
      (Release.KeepsName desired.rawId.toList → ∀ found,
        Release.supportedVersion desired.rawId = .ok found ↔
          found = desired.version ∧ ¬desired.version.Precedes ⟨4, 10, 0, []⟩) := by
  refine ⟨isNamedBy_eq_ok_true_iff.trans (version_rawId_iff h), fun hkeeps found => ?_⟩
  rw [Release.supportedVersion_eq_ok_iff, (version_rawId_iff h).mpr hkeeps, Except.ok.injEq]
  constructor
  · rintro ⟨rfl, hsupported⟩
    exact ⟨rfl, hsupported⟩
  · rintro ⟨rfl, hsupported⟩
    exact ⟨rfl, hsupported⟩

/-- The raw id ends in a channel group, which belongs to its build part. -/
theorem isNamedBy_rawId_of_build : ∃ desired,
    parse "openshift-v4.14.0-rc.1+gpu-fast-candidate" (some "candidate") = .ok desired ∧
      desired.rawId = "4.14.0-rc.1+gpu-fast" ∧ desired.isNamedBy desired.rawId = .ok true ∧
      Release.supportedVersion desired.rawId = .ok desired.version := by
  have hparse : parse "openshift-v4.14.0-rc.1+gpu-fast-candidate" (some "candidate") =
      .ok ⟨"4.14.0-rc.1+gpu-fast", ⟨4, 14, 0, [.alphanumeric ['r', 'c'], .numeric 1]⟩,
        some "candidate"⟩ := ok_of_toOption_eq_some (by decide +kernel)
  have hkeeps : Release.KeepsName "4.14.0-rc.1+gpu-fast".toList := by
    intro name hname rest hrest
    refine ⟨"4.14.0-rc.1".toList, "gp".toList, 'u', ?_, by decide⟩
    rw [← Release.dropGroup_append hname rest, ← hrest]
    decide +kernel
  obtain ⟨hnamed, hsupported⟩ := isNamedBy_rawId_iff hparse
  refine ⟨_, hparse, rfl, hnamed.mpr hkeeps, (hsupported hkeeps _).mpr ⟨rfl, ?_⟩⟩
  rw [← Version.isBelow_iff]
  decide +kernel

/-- The version stands below the oldest supported one, and its raw id passes the check for it. -/
theorem not_isNamedBy_rawId_of_fast : ∃ desired,
    parse "4.10.0-fast-stable" none = .ok desired ∧ desired.rawId = "4.10.0-fast" ∧
      desired.isNamedBy desired.rawId = .ok false ∧ desired.version.Precedes ⟨4, 10, 0, []⟩ ∧
      Release.supportedVersion desired.rawId = .ok ⟨4, 10, 0, []⟩ := by
  refine ⟨⟨"4.10.0-fast", ⟨4, 10, 0, [.alphanumeric ['f', 'a', 's', 't']]⟩, none⟩,
    ok_of_toOption_eq_some (by decide +kernel), rfl, ok_of_toOption_eq_some (by decide +kernel), ?_,
    ok_of_toOption_eq_some (by decide +kernel)⟩
  rw [← Version.isBelow_iff]
  decide +kernel

end DesiredVersion

end ClusterUpgrade
