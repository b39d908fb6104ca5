import ClusterUpgrade.Proofs.Outcome
import ClusterUpgrade.Proofs.Text.Cutting
import ClusterUpgrade.Proofs.Text.Digits
import ClusterUpgrade.Version.Desired
import Mathlib.Data.List.Forall2

/-!
Which ids name a version. Main statement: `version_followsGrammar`. An id names a version exactly if
its raw id is spelled by the grammar of semantic versions, where the patch number may be left out,
and then it names the version that the grammar says.
-/

namespace ClusterUpgrade

open Text

/-! ### The grammar -/

namespace PreRelease

/-- A part is a numeral without leading zeros, or a run that is not made of digits alone. -/
inductive Spells : PreRelease → List Char → Prop
  | numeric (value : Nat) : Spells (.numeric value) (digits value)
  | alphanumeric {run : List Char} (hchars : ∀ c ∈ run, isPartChar c = true)
      (hother : ∃ c ∈ run, isDigit c = false) : Spells (.alphanumeric run) run

end PreRelease

namespace Version

/-- Numbers with dots between them. -/
def numerals (numbers : List Nat) : List Char := join '.' (numbers.map digits)

/-- `MAJOR.MINOR` or `MAJOR.MINOR.PATCH`. -/
inductive SpellsCore (major minor : Nat) : Nat → List Char → Prop
  | short : SpellsCore major minor 0 (numerals [major, minor])
  | full (patch : Nat) : SpellsCore major minor patch (numerals [major, minor, patch])

inductive SpellsPreRelease : List PreRelease → List Char → Prop
  | absent : SpellsPreRelease [] []
  | present {parts : List PreRelease} {runs : List (List Char)} (hne : runs ≠ [])
      (hparts : List.Forall₂ PreRelease.Spells parts runs) :
      SpellsPreRelease parts ('-' :: join '.' runs)

inductive SpellsBuild : List Char → Prop
  | absent : SpellsBuild []
  | present {runs : List (List Char)} (hne : runs ≠ [])
      (hruns : ∀ run ∈ runs, run ≠ [] ∧ ∀ c ∈ run, PreRelease.isPartChar c = true) :
      SpellsBuild ('+' :: join '.' runs)

/-- The numbers of a version fit into 64 bits. -/
def IsBounded (version : Version) : Prop :=
  version.major < bound64 ∧ version.minor < bound64 ∧ version.patch < bound64

/-- The texts `MAJOR.MINOR[.PATCH][-PRE][+BUILD]` that name a version. -/
def Spells (version : Version) (text : List Char) : Prop :=
  version.IsBounded ∧ ∃ core preRelease build, text = core ++ (preRelease ++ build) ∧
    SpellsCore version.major version.minor version.patch core ∧
    SpellsPreRelease version.preRelease preRelease ∧ SpellsBuild build

end Version

/-! ### Numbers and parts -/

namespace PreRelease

theorem isPlainNumeral_iff {run : List Char} :
    isPlainNumeral run = true ↔ digits (ofDigits run) = run := by
  simp only [isPlainNumeral, Bool.and_eq_true, Bool.or_eq_true, Bool.not_eq_true',
    List.isEmpty_eq_false_iff, List.all_eq_true, beq_iff_eq, bne_iff_ne]
  constructor
  · rintro ⟨⟨hne, hdigits⟩, hlead⟩
    exact digits_ofDigits hne hdigits hlead
  · intro h
    rw [← h]
    refine ⟨⟨digits_ne_nil _, isDigit_of_mem_digits _⟩, ?_⟩
    by_cases hzero : ofDigits run = 0
    · left
      rw [hzero, digits_of_lt (by decide), List.length_singleton]
    · exact .inr (head?_digits_ne_zero (Nat.pos_of_ne_zero hzero))

theorem isPartChar_of_isDigit {c : Char} (h : isDigit c = true) : isPartChar c = true := by
  simp [isPartChar, h]

theorem isPart_iff {run : List Char} :
    isPart run = true ↔ run ≠ [] ∧ ∀ c ∈ run, isPartChar c = true := by
  simp [isPart]

theorem ofChars?_eq_some_iff {run : List Char} {part : PreRelease} :
    ofChars? run = some part ↔ part.Spells run := by
  constructor
  · intro h
    unfold ofChars? at h
    by_cases hpart : isPart run = true
    · by_cases hdigits : run.all isDigit = true
      · by_cases hplain : isPlainNumeral run = true
        · simp only [hpart, hdigits, hplain, Bool.not_true, Bool.false_eq_true, if_false, if_true,
            Option.some.injEq] at h
          subst h
          have hspelled := Spells.numeric (ofDigits run)
          rwa [isPlainNumeral_iff.mp hplain] at hspelled
        · simp [hpart, hdigits, hplain] at h
      · simp only [hpart, hdigits, Bool.not_true, Bool.false_eq_true, if_false,
          Option.some.injEq] at h
        subst h
        refine .alphanumeric (isPart_iff.mp hpart).2 ?_
        simpa using hdigits
    · simp [hpart] at h
  · intro h
    cases h with
    | numeric value =>
      have hdigits : ∀ c ∈ digits value, isDigit c = true := isDigit_of_mem_digits value
      have hpart : isPart (digits value) = true :=
        isPart_iff.mpr ⟨digits_ne_nil value, fun c hc => isPartChar_of_isDigit (hdigits c hc)⟩
      have hplain : isPlainNumeral (digits value) = true :=
        isPlainNumeral_iff.mpr (by rw [ofDigits_digits])
      simp [ofChars?, hpart, List.all_eq_true.mpr hdigits, hplain, ofDigits_digits]
    | alphanumeric hchars hother =>
      obtain ⟨c, hc, hletter⟩ := hother
      have hpart : isPart run = true := isPart_iff.mpr ⟨List.ne_nil_of_mem hc, hchars⟩
      have hdigits : run.all isDigit = false := List.all_eq_false.mpr ⟨c, hc, by simp [hletter]⟩
      simp [ofChars?, hpart, hdigits]

theorem Spells.isPartChar_of_mem {part : PreRelease} {run : List Char} (h : part.Spells run) :
    ∀ c ∈ run, isPartChar c = true := by
  cases h with
  | numeric value => exact fun c hc => isPartChar_of_isDigit (isDigit_of_mem_digits value c hc)
  | alphanumeric hchars hother => exact hchars

theorem not_mem_of_forall_isPartChar {run : List Char} (h : ∀ c ∈ run, isPartChar c = true) :
    '.' ∉ run := by
  intro hmem
  cases h '.' hmem

end PreRelease

namespace Version

theorem number?_eq_some_iff {run : List Char} {n : Nat} :
    number? run = some n ↔ run = digits n ∧ n < bound64 := by
  constructor
  · intro h
    unfold number? at h
    split at h
    · next hplain =>
      cases h
      exact ⟨(PreRelease.isPlainNumeral_iff.mp hplain.1).symm, hplain.2⟩
    · cases h
  · rintro ⟨rfl, hlt⟩
    have hplain : PreRelease.isPlainNumeral (digits n) = true :=
      PreRelease.isPlainNumeral_iff.mpr (by rw [ofDigits_digits])
    simp [number?, hplain, ofDigits_digits, hlt]

/-! ### Pre-releases and builds -/

variable {core text : List Char} {runs : List (List Char)} {major minor patch : Nat}
  {parts : List PreRelease} {found : Option (List Char)}

theorem isPartChar_of_mem_runs (h : List.Forall₂ PreRelease.Spells parts runs) :
    ∀ run ∈ runs, ∀ c ∈ run, PreRelease.isPartChar c = true := by
  induction h with
  | nil => simp
  | cons hspelled _ ih => exact List.forall_mem_cons.mpr ⟨hspelled.isPartChar_of_mem, ih⟩

theorem isPartChar_or_dot_of_mem_join
    (h : ∀ run ∈ runs, ∀ c ∈ run, PreRelease.isPartChar c = true) :
    ∀ c ∈ join '.' runs, PreRelease.isPartChar c = true ∨ c = '.' := by
  intro c hc
  rcases eq_or_mem_of_mem_join hc with hdot | ⟨run, hrun, hmem⟩
  · exact .inr hdot
  · exact .inl (h run hrun c hmem)

theorem splitOn_join_of_isPartChar (hne : runs ≠ [])
    (h : ∀ run ∈ runs, ∀ c ∈ run, PreRelease.isPartChar c = true) :
    splitOn '.' (join '.' runs) = runs :=
  splitOn_join hne fun run hrun => PreRelease.not_mem_of_forall_isPartChar (h run hrun)

theorem mapM_ofChars?_eq_some_iff :
    runs.mapM PreRelease.ofChars? = some parts ↔ List.Forall₂ PreRelease.Spells parts runs := by
  induction runs generalizing parts with
  | nil => simp [eq_comm]
  | cons run rest ih =>
    simp only [List.mapM_cons, Option.pure_def, Option.bind_eq_bind, Option.bind_eq_some_iff,
      PreRelease.ofChars?_eq_some_iff, ih, Option.some.injEq, List.forall₂_cons_right_iff]
    constructor
    · rintro ⟨part, hpart, others, hothers, rfl⟩
      exact ⟨part, others, hpart, hothers, rfl⟩
    · rintro ⟨part, others, hpart, hothers, rfl⟩
      exact ⟨part, hpart, others, hothers, rfl⟩

theorem preRelease?_eq_some_iff :
    preRelease? found = some parts ↔ SpellsPreRelease parts (marked '-' found) := by
  cases found with
  | none =>
    rw [preRelease?, marked, Option.some.injEq]
    constructor
    · rintro rfl
      exact .absent
    · rintro ⟨⟩
      rfl
  | some text =>
    rw [preRelease?, marked, mapM_ofChars?_eq_some_iff]
    constructor
    · intro h
      have hspelled := SpellsPreRelease.present (splitOn_ne_nil '.' text) h
      rwa [join_splitOn] at hspelled
    · rintro (_ | ⟨hne, hparts⟩)
      rwa [splitOn_join_of_isPartChar hne (isPartChar_of_mem_runs hparts)]

theorem isBuild_iff : isBuild found = true ↔ SpellsBuild (marked '+' found) := by
  cases found with
  | none => exact ⟨fun _ => .absent, fun _ => rfl⟩
  | some text =>
    simp only [isBuild, marked, List.all_eq_true, PreRelease.isPart_iff]
    constructor
    · intro h
      have hspelled := SpellsBuild.present (splitOn_ne_nil '.' text) h
      rwa [join_splitOn] at hspelled
    · rintro (_ | ⟨hne, hruns⟩)
      rwa [splitOn_join_of_isPartChar hne fun run hrun => (hruns run hrun).2]

theorem SpellsPreRelease.isPartChar_or_dot (h : SpellsPreRelease parts text) :
    ∀ c ∈ text, PreRelease.isPartChar c = true ∨ c = '.' := by
  cases h with
  | absent => simp
  | present hne hparts =>
    refine List.forall_mem_cons.mpr ⟨.inl (by decide), ?_⟩
    exact isPartChar_or_dot_of_mem_join (isPartChar_of_mem_runs hparts)

theorem SpellsPreRelease.exists_marked (h : SpellsPreRelease parts text) :
    ∃ found, text = marked '-' found := by
  cases h with
  | absent => exact ⟨none, rfl⟩
  | present => exact ⟨some _, rfl⟩

theorem SpellsBuild.exists_marked (h : SpellsBuild text) : ∃ found, text = marked '+' found := by
  cases h with
  | absent => exact ⟨none, rfl⟩
  | present => exact ⟨some _, rfl⟩

/-! ### Cores -/

theorem isDigit_or_dot_of_mem_numerals (numbers : List Nat) :
    ∀ c ∈ numerals numbers, isDigit c = true ∨ c = '.' := by
  intro c hc
  rcases eq_or_mem_of_mem_join hc with hdot | ⟨run, hrun, hmem⟩
  · exact .inr hdot
  · obtain ⟨n, -, rfl⟩ := List.mem_map.mp hrun
    exact .inl (isDigit_of_mem_digits n c hmem)

theorem splitOn_numerals {numbers : List Nat} (hne : numbers ≠ []) :
    splitOn '.' (numerals numbers) = numbers.map digits := by
  apply splitOn_join (by simpa using hne)
  intro run hrun hdot
  obtain ⟨n, -, rfl⟩ := List.mem_map.mp hrun
  cases isDigit_of_mem_digits n '.' hdot

theorem SpellsCore.isDigit_or_dot (h : SpellsCore major minor patch core) :
    ∀ c ∈ core, isDigit c = true ∨ c = '.' := by
  cases h <;> exact isDigit_or_dot_of_mem_numerals _

/-- A core with the patch number that it leaves out. -/
def completed (core : List Char) : List Char :=
  if (splitOn '.' core).length = 2 then core ++ ['.', '0'] else core

theorem spellsCore_iff :
    SpellsCore major minor patch core ↔ completed core = numerals [major, minor, patch] := by
  have hzero : digits 0 = ['0'] := digits_of_lt (by decide)
  unfold completed
  constructor
  · intro h
    cases h with
    | short =>
      rw [if_pos (by simp [splitOn_numerals])]
      simp [numerals, join, hzero]
    | full => rw [if_neg (by simp [splitOn_numerals])]
  · intro h
    split at h
    · next hlength =>
      -- The run that was added is the third, so it is the numeral of the patch number.
      obtain ⟨first, second, hcore⟩ := List.length_eq_two.mp hlength
      have hruns := congrArg (splitOn '.') h
      rw [splitOn_append, hcore, splitOn_numerals (by simp)] at hruns
      obtain ⟨rfl, rfl, hpatch⟩ : first = digits major ∧ second = digits minor ∧
          ['0'] = digits patch := by simpa [splitOn] using hruns
      obtain rfl : patch = 0 := by rw [← ofDigits_digits patch, ← hpatch, ← hzero, ofDigits_digits]
      have hspelled : core = numerals [major, minor] := by
        rw [← join_splitOn '.' core, hcore]
        rfl
      exact hspelled ▸ .short
    · rw [h]
      exact .full patch

/-! ### Versions -/

theorem SpellsCore.plus_not_mem_append (hcore : SpellsCore major minor patch core)
    (hpre : SpellsPreRelease parts text) : '+' ∉ core ++ text := by
  intro hmem
  rcases List.mem_append.mp hmem with hmem | hmem
  · exact absurd (hcore.isDigit_or_dot '+' hmem) (by decide)
  · exact absurd (hpre.isPartChar_or_dot '+' hmem) (by decide)

theorem SpellsCore.cutAt_plus (hcore : SpellsCore major minor patch core)
    (hpre : SpellsPreRelease parts text) :
    cutAt '+' (core ++ (text ++ marked '+' found)) = (core ++ text, found) := by
  rw [cutAt_eq_iff, List.append_assoc]
  exact ⟨hcore.plus_not_mem_append hpre, rfl⟩

theorem SpellsCore.cutAt_hyphen (hcore : SpellsCore major minor patch core) :
    cutAt '-' (core ++ marked '-' found) = (core, found) := by
  rw [cutAt_eq_iff]
  refine ⟨fun hmem => ?_, rfl⟩
  exact absurd (hcore.isDigit_or_dot '-' hmem) (by decide)

theorem ofChars?_eq_some_iff {version : Version} :
    ofChars? text = some version ↔ version.IsBounded ∧ ∃ preRelease build,
      text = numerals [version.major, version.minor, version.patch] ++ (preRelease ++ build) ∧
        SpellsPreRelease version.preRelease preRelease ∧ SpellsBuild build := by
  constructor
  · intro h
    rcases hplus : cutAt '+' text with ⟨front, build⟩
    rcases hhyphen : cutAt '-' front with ⟨core, preRelease⟩
    simp only [ofChars?, hplus, hhyphen] at h
    split at h
    · next first second third hcore =>
      simp only [Option.bind_eq_bind, Option.bind_eq_some_iff, number?_eq_some_iff,
        Option.ite_none_right_eq_some, Option.some.injEq] at h
      obtain ⟨major, ⟨rfl, hmajor⟩, minor, ⟨rfl, hminor⟩, patch, ⟨rfl, hpatch⟩, parts, hparts,
        hbuild, rfl⟩ := h
      refine ⟨⟨hmajor, hminor, hpatch⟩, marked '-' preRelease, marked '+' build, ?_,
        preRelease?_eq_some_iff.mp hparts, isBuild_iff.mp hbuild⟩
      rw [(cutAt_eq_iff.mp hplus).2, (cutAt_eq_iff.mp hhyphen).2, ← join_splitOn '.' core, hcore,
        List.append_assoc]
      rfl
    · cases h
  · rintro ⟨⟨hmajor, hminor, hpatch⟩, preRelease, build, rfl, hpre, hbuild⟩
    obtain ⟨before, rfl⟩ := hpre.exists_marked
    obtain ⟨after, rfl⟩ := hbuild.exists_marked
    have hcore : SpellsCore version.major version.minor version.patch
        (numerals [version.major, version.minor, version.patch]) := .full version.patch
    have hnumber : ∀ n < bound64, number? (digits n) = some n :=
      fun n hn => number?_eq_some_iff.mpr ⟨rfl, hn⟩
    simp [ofChars?, hcore.cutAt_plus hpre, hcore.cutAt_hyphen, splitOn_numerals, hnumber _ hmajor,
      hnumber _ hminor, hnumber _ hpatch, preRelease?_eq_some_iff.mpr hpre, isBuild_iff.mpr hbuild]

/-! ### Ids -/

/-- Whether a character may stand in front of pre-release and build. -/
def isInCore (c : Char) : Bool := c != '-' && c != '+'

theorem isInCore_of_isDigit_or_dot {c : Char} (h : isDigit c = true ∨ c = '.') :
    isInCore c = true := by
  simp only [isInCore, Bool.and_eq_true, bne_iff_ne]
  constructor <;> rintro rfl <;> simp [isDigit] at h

theorem SpellsBuild.takeWhile_isInCore {build : List Char} (h : SpellsBuild build) :
    build.takeWhile isInCore = [] := by
  cases h <;> rfl

theorem takeWhile_isInCore_suffix (text : List Char) :
    (Version.suffix text).takeWhile isInCore = [] := by
  have hhead := List.head?_dropWhile_not isInCore text
  change (text.dropWhile isInCore).takeWhile isInCore = []
  cases hsuffix : text.dropWhile isInCore with
  | nil => rfl
  | cons c rest =>
    rw [hsuffix] at hhead
    exact List.takeWhile_cons_of_neg (by simpa using hhead)

theorem core_append_eq {front back : List Char} (hfront : ∀ c ∈ front, isInCore c = true)
    (hback : back.takeWhile isInCore = []) :
    Version.core (front ++ back) = front ∧ Version.suffix (front ++ back) = back := by
  have hrest : back.dropWhile isInCore = back := by
    have hsplit := List.takeWhile_append_dropWhile (p := isInCore) (l := back)
    rwa [hback] at hsplit
  constructor
  · exact (List.takeWhile_append_of_pos hfront).trans (by rw [hback, List.append_nil])
  · exact (List.dropWhile_append_of_pos hfront).trans hrest

/-- Pre-release and build begin behind the core, if there are any. -/
theorem SpellsCore.core_append {back : List Char} (hcore : SpellsCore major minor patch core)
    (hpre : SpellsPreRelease parts text) (hback : back.takeWhile isInCore = []) :
    Version.core (core ++ (text ++ back)) = core ∧
      Version.suffix (core ++ (text ++ back)) = text ++ back := by
  refine core_append_eq (fun c hc => isInCore_of_isDigit_or_dot (hcore.isDigit_or_dot c hc)) ?_
  cases hpre with
  | absent => exact hback
  | present => rfl

theorem isInCore_of_mem_completed (text : List Char) :
    ∀ c ∈ completed (Version.core text), isInCore c = true := by
  have hcore : ∀ c ∈ Version.core text, isInCore c = true := fun c hc => List.mem_takeWhile_imp hc
  unfold completed
  split
  · intro c hc
    rcases List.mem_append.mp hc with hmem | hmem
    · exact hcore c hmem
    · obtain rfl | rfl : c = '.' ∨ c = '0' := by simpa using hmem
      · rfl
      · rfl
  · exact hcore

theorem completePatch_eq (text : List Char) :
    Release.completePatch text = completed (Version.core text) ++ Version.suffix text := by
  unfold Release.completePatch completed
  dsimp only
  split
  · simp
  · exact List.takeWhile_append_dropWhile.symm

theorem ofChars?_completePatch_iff {version : Version} :
    ofChars? (Release.completePatch text) = some version ↔ version.Spells text := by
  have htext : text = Version.core text ++ Version.suffix text :=
    List.takeWhile_append_dropWhile.symm
  rw [completePatch_eq, ofChars?_eq_some_iff]
  refine and_congr_right fun _ => ?_
  constructor
  · rintro ⟨preRelease, build, hspelled, hpre, hbuild⟩
    -- A completed core has no mark in it either, so both sides are cut at the same place.
    have hleft := core_append_eq (isInCore_of_mem_completed text) (takeWhile_isInCore_suffix text)
    have hfull : SpellsCore version.major version.minor version.patch
        (numerals [version.major, version.minor, version.patch]) := .full version.patch
    have hright := hfull.core_append hpre hbuild.takeWhile_isInCore
    have hcore : completed (Version.core text) =
        numerals [version.major, version.minor, version.patch] := by
      calc completed (Version.core text)
          = Version.core (completed (Version.core text) ++ Version.suffix text) := hleft.1.symm
        _ = numerals [version.major, version.minor, version.patch] := by rw [hspelled, hright.1]
    have hsuffix : Version.suffix text = preRelease ++ build := by
      calc Version.suffix text
          = Version.suffix (completed (Version.core text) ++ Version.suffix text) := hleft.2.symm
        _ = preRelease ++ build := by rw [hspelled, hright.2]
    exact ⟨Version.core text, preRelease, build, hsuffix ▸ htext, spellsCore_iff.mpr hcore, hpre,
      hbuild⟩
  · rintro ⟨core, preRelease, build, heq, hcore, hpre, hbuild⟩
    obtain ⟨hfront, hback⟩ := hcore.core_append hpre hbuild.takeWhile_isInCore
    refine ⟨preRelease, build, ?_, hpre, hbuild⟩
    rw [heq, hfront, hback, spellsCore_iff.mp hcore]

/-! ### Build parts -/

theorem SpellsBuild.isPartChar_or_dot {build : List Char} (h : SpellsBuild ('+' :: build)) :
    ∀ c ∈ build, PreRelease.isPartChar c = true ∨ c = '.' := by
  cases h with
  | present hne hruns =>
    exact isPartChar_or_dot_of_mem_join fun run hrun => (hruns run hrun).2

theorem SpellsBuild.plus_not_mem {build : List Char} (h : SpellsBuild ('+' :: build)) :
    '+' ∉ build :=
  fun hmem => absurd (h.isPartChar_or_dot '+' hmem) (by decide)

variable {version : Version} {front build : List Char}

theorem spells_append_build_iff :
    version.Spells (front ++ '+' :: build) ↔
      version.Spells front ∧ '+' ∉ front ∧ SpellsBuild ('+' :: build) := by
  constructor
  · rintro ⟨hbounded, core, preRelease, tail, htext, hcore, hpre, hbuild⟩
    rw [← List.append_assoc] at htext
    cases hbuild with
    | absent =>
      have hmem : '+' ∈ core ++ preRelease := by
        rw [← List.append_nil (core ++ preRelease), ← htext]
        simp
      exact absurd hmem (hcore.plus_not_mem_append hpre)
    | present hne hruns =>
      have hplain := hcore.plus_not_mem_append hpre
      have hbuild := SpellsBuild.present hne hruns
      obtain ⟨rfl, -, rfl⟩ :=
        (List.append_cons_inj_of_notMem hplain hbuild.plus_not_mem).mp htext.symm
      exact ⟨⟨hbounded, core, preRelease, [], by simp, hcore, hpre, .absent⟩, hplain, hbuild⟩
  · rintro ⟨⟨hbounded, core, preRelease, tail, rfl, hcore, hpre, htail⟩, hfront, hbuild⟩
    cases htail with
    | absent => exact ⟨hbounded, core, preRelease, _, by simp, hcore, hpre, hbuild⟩
    | present => simp at hfront

end Version

namespace Release

theorem version_eq_ok_iff {id : String} {found : Version} :
    version id = .ok found ↔ found.Spells (rawId id).toList := by
  have hread : version? id = some found ↔ found.Spells (rawId id).toList := by
    rw [version?, Version.ofChars?_completePatch_iff, rawId, String.toList_ofList]
  rw [← hread]
  unfold version
  cases version? id <;> simp

theorem version_eq_error_iff {id : String} {error : UpgradeError} :
    version id = .error error ↔
      (∀ found, version id ≠ .ok found) ∧ error = .invalidVersion id := by
  unfold version
  cases version? id <;> simp [eq_comm]

/-- **The grammar.** An id that names no version is refused as it stands, decorated or not. -/
theorem version_followsGrammar (id : String) :
    (∀ found, version id = .ok found ↔ found.Spells (rawId id).toList) ∧
      ∀ error, version id = .error error ↔
        (∀ found : Version, ¬found.Spells (rawId id).toList) ∧ error = .invalidVersion id := by
  refine ⟨fun found => version_eq_ok_iff, fun error => ?_⟩
  simp only [version_eq_error_iff, ne_eq, version_eq_ok_iff]

/-- Dots behind the core do not count when a patch number is missing. -/
example : version? "openshift-v4.14-rc.1+build.07" =
    some ⟨4, 14, 0, [.alphanumeric ['r', 'c'], .numeric 1]⟩ := by decide +kernel

end Release

namespace DesiredVersion

variable {desired : DesiredVersion} {id : String} {group : Option String}

theorem parse_eq_ok_iff : parse id group = .ok desired ↔
    Release.version id = .ok desired.version ∧ desired.rawId = Release.rawId id ∧
      desired.channelGroup = group.filter (· ≠ "") := by
  constructor
  · intro h
    obtain ⟨named, hversion, hrest⟩ := exists_of_bind_eq_ok h
    cases hrest
    exact ⟨hversion, rfl, rfl⟩
  · rintro ⟨hversion, hraw, hgroup⟩
    rw [parse, hversion, ← hraw, ← hgroup]
    rfl

theorem isNamedBy_eq_ok_true_iff :
    desired.isNamedBy id = .ok true ↔ Release.version id = .ok desired.version := by
  unfold isNamedBy
  cases Release.version id with
  | error error => simp [bind, Except.bind]
  | ok found => simp [bind, Except.bind, pure, Except.pure]

end DesiredVersion

end ClusterUpgrade
