import ClusterUpgrade.Proofs.Version.Grammar

/-!
Catalog ids. Main statement: `catalogId_roundTrips`. The catalog id of a raw id and a channel group
gives back both, so two releases share an id only if they are the same release of the same group.

The last hyphen of an id tells where a channel group begins, as no group has a hyphen in its name.
For the same reason at most one group ends a text, and it does not matter which is looked for first.
-/

namespace ClusterUpgrade

namespace Release

open Text

variable {raw other : String} {group group' : Option String} {name : String} {text : List Char}

/-! ### Decoration -/

/-- What a channel group adds to the end of an id. -/
def groupMark (name : String) : List Char := '-' :: name.toList

def EndsInGroup (text : List Char) : Prop := ∃ name ∈ channelGroups, groupMark name <:+ text

theorem hyphen_not_mem_of_mem_channelGroups (h : name ∈ channelGroups) : '-' ∉ name.toList := by
  revert h name
  decide

/-- Whatever group is found behind a text, the text in front of it is the same. -/
theorem dropGroup_append (h : name ∈ channelGroups) (text : List Char) :
    dropGroup (text ++ groupMark name) = text := by
  unfold dropGroup
  cases hfound : channelGroups.findSome? fun found =>
      dropSuffix? ('-' :: found.toList) (text ++ groupMark name) with
  | none =>
    have hnone := List.findSome?_eq_none_iff.mp hfound name h
    have hsome : dropSuffix? ('-' :: name.toList) (text ++ groupMark name) = some text :=
      dropSuffix?_eq_some_iff.mpr rfl
    cases hnone.symm.trans hsome
  | some front =>
    -- Neither name has a hyphen, so both stand behind the last one.
    obtain ⟨found, hmem, hdrop⟩ := List.exists_of_findSome?_eq_some hfound
    have hsame : text ++ groupMark name = front ++ groupMark found :=
      dropSuffix?_eq_some_iff.mp hdrop
    exact (append_separator_inj (hyphen_not_mem_of_mem_channelGroups h)
      (hyphen_not_mem_of_mem_channelGroups hmem) hsame).1.symm

theorem dropGroup_of_not_endsInGroup (h : ¬EndsInGroup text) : dropGroup text = text := by
  have hnone :
      (channelGroups.findSome? fun found => dropSuffix? ('-' :: found.toList) text) = none := by
    rw [List.findSome?_eq_none_iff]
    intro found hmem
    cases hdrop : dropSuffix? ('-' :: found.toList) text with
    | none => rfl
    | some front =>
      exact absurd ⟨found, hmem, front, (dropSuffix?_eq_some_iff.mp hdrop).symm⟩ h
  rw [dropGroup, hnone, Option.getD_none]

theorem dropGroup_eq_or (text : List Char) :
    (∃ name ∈ channelGroups, text = dropGroup text ++ groupMark name) ∨
      ¬EndsInGroup text ∧ dropGroup text = text := by
  by_cases h : EndsInGroup text
  · obtain ⟨name, hmem, front, rfl⟩ := h
    exact .inl ⟨name, hmem, by rw [dropGroup_append hmem]⟩
  · exact .inr ⟨h, dropGroup_of_not_endsInGroup h⟩

theorem dropGroup_sublist (text : List Char) : (dropGroup text).Sublist text := by
  rcases dropGroup_eq_or text with ⟨name, -, htext⟩ | ⟨-, htext⟩
  · conv => rhs; rw [htext]
    exact List.sublist_append_left _ _
  · rw [htext]

theorem dropMark_append (text : List Char) : dropMark (productMark ++ text) = text := by
  rw [dropMark, dropPrefix?_eq_some_iff.mpr rfl, Option.getD_some]

theorem dropMark_sublist (text : List Char) : (dropMark text).Sublist text := by
  unfold dropMark
  cases hdrop : dropPrefix? productMark text with
  | none => exact List.Sublist.refl _
  | some rest =>
    rw [dropPrefix?_eq_some_iff.mp hdrop]
    exact List.sublist_append_right _ _

/-! ### Undecorated ids -/

/-- Nothing can be stripped from an undecorated id, at no stage. -/
theorem stages_of_rawChars_eq (h : rawChars text = text) :
    trimChars text = text ∧ dropGroup text = text := by
  -- Every stage returns a part of what it is given, and the last one returns all of the text.
  have hstages : text.Sublist (dropMark (trimChars text)) := by
    conv => lhs; rw [← h]
    exact dropGroup_sublist _
  have htrimmed : trimChars text = text :=
    (trimChars_sublist text).antisymm (hstages.trans (dropMark_sublist _))
  have hunmarked : dropMark text = text := by
    rw [htrimmed] at hstages
    exact (dropMark_sublist text).antisymm hstages
  refine ⟨htrimmed, ?_⟩
  rw [rawChars, htrimmed, hunmarked] at h
  exact h

theorem rawId_eq_iff : rawId raw = other ↔ rawChars raw.toList = other.toList := by
  rw [rawId, ← String.toList_inj, String.toList_ofList]

/-! ### Catalog ids -/

/-- The channel group that an optional name stands for. -/
def groupOf : Option String → String
  | none => defaultGroup
  | some name => if name = "" then defaultGroup else name

/-- No channel group, or the name of a known one. -/
def IsKnownGroup (group : Option String) : Prop :=
  ∀ name, group = some name → name = "" ∨ name ∈ channelGroups

theorem IsKnownGroup.groupOf_mem (h : IsKnownGroup group) : groupOf group ∈ channelGroups := by
  have hdefault : defaultGroup ∈ channelGroups := by decide
  cases group with
  | none => exact hdefault
  | some name =>
    by_cases hname : name = ""
    · simp [groupOf, hname, hdefault]
    · simpa [groupOf, hname] using h name rfl

/-- The end of a catalog id. -/
def trail (name : String) : List Char := if name = defaultGroup then [] else groupMark name

theorem trail_inj {first second : String} (h : trail first = trail second) : first = second := by
  unfold trail groupMark at h
  by_cases hfirst : first = defaultGroup <;> by_cases hsecond : second = defaultGroup
  · exact hfirst.trans hsecond.symm
  · simp [hfirst, hsecond] at h
  · simp [hfirst, hsecond] at h
  · simpa [hfirst, hsecond, String.toList_inj] using h

theorem toList_catalogId (raw : String) (group : Option String) :
    (catalogId raw group).toList = productMark ++ (raw.toList ++ trail (groupOf group)) := by
  cases group with
  | none => simp [catalogId, groupOf, trail]
  | some name =>
    by_cases hempty : name = ""
    · simp [catalogId, groupOf, trail, hempty]
    · by_cases hdefault : name = defaultGroup
      · simp [catalogId, groupOf, trail, hdefault]
      · simp [catalogId, groupOf, trail, groupMark, hempty, hdefault]

theorem rawChars_catalogChars (htext : rawChars text = text) (h : name ∈ channelGroups) :
    rawChars (productMark ++ (text ++ trail name)) = text := by
  obtain ⟨htrimmed, hungrouped⟩ := stages_of_rawChars_eq htext
  have htrail : dropSuffixWhile isBlank (trail name) = trail name := by
    revert h name
    decide
  have hend : dropSuffixWhile isBlank (productMark ++ (text ++ trail name)) =
      productMark ++ (text ++ trail name) := by
    apply dropSuffixWhile_append_eq_self (by decide)
    exact dropSuffixWhile_append_eq_self (dropSuffixWhile_eq_self_of_trimChars htrimmed) htrail
  have hkept : trimChars (productMark ++ (text ++ trail name)) =
      productMark ++ (text ++ trail name) := hend
  rw [rawChars, hkept, dropMark_append]
  by_cases hdefault : name = defaultGroup
  · rw [trail, if_pos hdefault, List.append_nil, hungrouped]
  · rw [trail, if_neg hdefault, dropGroup_append h]

theorem rawChars_catalogId (hraw : rawId raw = raw) (hgroup : IsKnownGroup group) :
    rawChars (catalogId raw group).toList = raw.toList := by
  rw [toList_catalogId]
  exact rawChars_catalogChars (rawId_eq_iff.mp hraw) hgroup.groupOf_mem

theorem rawId_blank_catalogId (hraw : rawId raw = raw) (hgroup : IsKnownGroup group)
    {before after : String} (hbefore : isAllBlank before = true)
    (hafter : isAllBlank after = true) :
    rawId (before ++ catalogId raw group ++ after) = raw := by
  rw [rawId_eq_iff, ← rawChars_catalogId hraw hgroup, rawChars, rawChars, String.toList_append,
    String.toList_append]
  congr 2
  exact trimChars_append (List.all_eq_true.mp hbefore) (List.all_eq_true.mp hafter) _

theorem version_catalogId (hraw : rawId raw = raw) (hgroup : IsKnownGroup group) {found : Version} :
    version (catalogId raw group) = .ok found ↔ version raw = .ok found := by
  have hrawId : rawId (catalogId raw group) = raw :=
    rawId_eq_iff.mpr (rawChars_catalogId hraw hgroup)
  rw [version_eq_ok_iff, version_eq_ok_iff, hrawId, hraw]

theorem catalogId_filter (raw : String) (group : Option String) :
    catalogId raw (group.filter (· ≠ "")) = catalogId raw group := by
  cases group with
  | none => rfl
  | some name =>
    by_cases hempty : name = ""
    · simp [hempty, catalogId, Option.filter]
    · simp [hempty, Option.filter]

theorem catalogId_inj (hraw : rawId raw = raw) (hother : rawId other = other)
    (hgroup : IsKnownGroup group) (hgroup' : IsKnownGroup group')
    (h : catalogId raw group = catalogId other group') :
    raw = other ∧ groupOf group = groupOf group' := by
  have hsame : raw = other := by
    rw [← String.toList_inj, ← rawChars_catalogId hraw hgroup, h]
    exact rawChars_catalogId hother hgroup'
  refine ⟨hsame, trail_inj ?_⟩
  have hchars := congrArg String.toList h
  rw [toList_catalogId, toList_catalogId, hsame] at hchars
  exact List.append_cancel_left (List.append_cancel_left hchars)

/-- **Round trip.** Blank characters around a catalog id make no difference. -/
theorem catalogId_roundTrips (hraw : rawId raw = raw) (hgroup : IsKnownGroup group) :
    (∀ before after, isAllBlank before = true → isAllBlank after = true →
      rawId (before ++ catalogId raw group ++ after) = raw) ∧
    (∀ found, version (catalogId raw group) = .ok found ↔ version raw = .ok found) ∧
    (∀ found, version raw = .ok found → ∃ desired,
      DesiredVersion.parse (catalogId raw group) group = .ok desired ∧ desired.rawId = raw ∧
        desired.version = found ∧ desired.catalogId = catalogId raw group) ∧
    ∀ other group', rawId other = other → IsKnownGroup group' →
      catalogId raw group = catalogId other group' →
        raw = other ∧ groupOf group = groupOf group' := by
  refine ⟨fun before after => rawId_blank_catalogId hraw hgroup,
    fun found => version_catalogId hraw hgroup, ?_,
    fun other group' hother hgroup' => catalogId_inj hraw hother hgroup hgroup'⟩
  intro found hfound
  have hrawId : rawId (catalogId raw group) = raw :=
    rawId_eq_iff.mpr (rawChars_catalogId hraw hgroup)
  refine ⟨⟨raw, found, group.filter (· ≠ "")⟩, ?_, rfl, rfl, catalogId_filter raw group⟩
  exact DesiredVersion.parse_eq_ok_iff.mpr
    ⟨(version_catalogId hraw hgroup).mpr hfound, hrawId.symm, rfl⟩

/-- The raw id ends in a part of its own behind a hyphen. -/
theorem catalogId_roundTrips_candidate :
    rawId "4.14.0-rc.1" = "4.14.0-rc.1" ∧ IsKnownGroup (some "candidate") ∧
      rawId "\t openshift-v4.14.0-rc.1-candidate\n" = "4.14.0-rc.1" ∧
      (∃ desired,
        DesiredVersion.parse "openshift-v4.14.0-rc.1-candidate" (some "candidate") = .ok desired ∧
        desired.rawId = "4.14.0-rc.1" ∧
        desired.version = ⟨4, 14, 0, [.alphanumeric ['r', 'c'], .numeric 1]⟩ ∧
        desired.catalogId = "openshift-v4.14.0-rc.1-candidate") ∧
      ∀ other group', rawId other = other → IsKnownGroup group' →
        "openshift-v4.14.0-rc.1-candidate" = catalogId other group' →
        "4.14.0-rc.1" = other ∧ "candidate" = groupOf group' := by
  have hraw : rawId "4.14.0-rc.1" = "4.14.0-rc.1" := by decide +kernel
  have hgroup : IsKnownGroup (some "candidate") := by
    rintro name ⟨⟩
    decide
  have hid : catalogId "4.14.0-rc.1" (some "candidate") = "openshift-v4.14.0-rc.1-candidate" := by
    decide +kernel
  have hversion : version "4.14.0-rc.1" =
      .ok ⟨4, 14, 0, [.alphanumeric ['r', 'c'], .numeric 1]⟩ :=
    ok_of_toOption_eq_some (by decide +kernel)
  obtain ⟨hblank, -, hparse, hcollide⟩ := catalogId_roundTrips hraw hgroup
  rw [hid] at hparse hcollide
  refine ⟨hraw, hgroup, ?_, hparse _ hversion, hcollide⟩
  simpa [hid] using hblank "\t " "\n" (by decide) (by decide)

end Release

end ClusterUpgrade
