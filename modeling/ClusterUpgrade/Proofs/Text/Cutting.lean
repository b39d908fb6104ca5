import ClusterUpgrade.Text.Blank
import ClusterUpgrade.Text.Split
import Mathlib.Data.List.Basic
import Mathlib.Data.List.TakeWhile

/-!
Texts that are cut up. Blank characters at the ends make no difference to a trimmed text, and a text
falls apart at a separator in one way only.
-/

namespace ClusterUpgrade.Text

variable {separator : Char} {p : Char → Bool} {text front back rest : List Char}

/-! ### Trimming -/

theorem dropSuffixWhile_isPrefix (p : Char → Bool) (text : List Char) :
    dropSuffixWhile p text <+: text := by
  induction text with
  | nil => exact List.nil_prefix
  | cons c rest ih =>
    rw [dropSuffixWhile]
    cases hkept : dropSuffixWhile p rest with
    | nil => cases p c <;> simp
    | cons d kept =>
      rw [hkept] at ih
      exact (List.prefix_cons_inj c).mpr ih

theorem dropSuffixWhile_sublist (p : Char → Bool) (text : List Char) :
    (dropSuffixWhile p text).Sublist text :=
  (dropSuffixWhile_isPrefix p text).sublist

theorem dropSuffixWhile_eq_nil_iff : dropSuffixWhile p text = [] ↔ ∀ c ∈ text, p c = true := by
  induction text with
  | nil => simp [dropSuffixWhile]
  | cons c rest ih =>
    rw [List.forall_mem_cons, ← ih, dropSuffixWhile]
    cases dropSuffixWhile p rest with
    | nil => cases p c <;> simp
    | cons d kept => simp

theorem dropSuffixWhile_append_of_pos (h : ∀ c ∈ back, p c = true) (text : List Char) :
    dropSuffixWhile p (text ++ back) = dropSuffixWhile p text := by
  induction text with
  | nil => exact dropSuffixWhile_eq_nil_iff.mpr h
  | cons c rest ih => rw [List.cons_append, dropSuffixWhile, ih, dropSuffixWhile]

/-- What stands in front of a kept character is kept. -/
theorem dropSuffixWhile_append_of_ne_nil (h : dropSuffixWhile p text ≠ []) (front : List Char) :
    dropSuffixWhile p (front ++ text) = front ++ dropSuffixWhile p text := by
  induction front with
  | nil => rfl
  | cons c rest ih =>
    rw [List.cons_append, dropSuffixWhile, ih]
    cases hkept : rest ++ dropSuffixWhile p text with
    | nil => exact absurd (List.append_eq_nil_iff.mp hkept).2 h
    | cons d kept => rw [List.cons_append, hkept]

theorem dropSuffixWhile_append_eq_self (hfront : dropSuffixWhile p front = front)
    (htext : dropSuffixWhile p text = text) :
    dropSuffixWhile p (front ++ text) = front ++ text := by
  by_cases hempty : text = []
  · rw [hempty, List.append_nil, hfront]
  · rw [dropSuffixWhile_append_of_ne_nil (by rwa [htext]), htext]

theorem trimChars_sublist (text : List Char) : (trimChars text).Sublist text :=
  (dropSuffixWhile_sublist _ _).trans (List.dropWhile_sublist _)

theorem dropSuffixWhile_eq_self_of_trimChars (h : trimChars text = text) :
    dropSuffixWhile isBlank text = text := by
  have hsublist : text.Sublist (text.dropWhile isBlank) := by
    conv => lhs; rw [← h]
    exact dropSuffixWhile_sublist isBlank (text.dropWhile isBlank)
  have hfront : text.dropWhile isBlank = text :=
    (List.dropWhile_sublist isBlank).antisymm hsublist
  rwa [trimChars, hfront] at h

theorem trimChars_append (hfront : ∀ c ∈ front, isBlank c = true)
    (hback : ∀ c ∈ back, isBlank c = true) (text : List Char) :
    trimChars (front ++ text ++ back) = trimChars text := by
  unfold trimChars
  rw [List.append_assoc, List.dropWhile_append_of_pos hfront, List.dropWhile_append]
  cases hkept : text.dropWhile isBlank with
  | nil =>
    have hnone : back.dropWhile isBlank = [] := List.dropWhile_eq_nil_iff.mpr hback
    simp [hnone]
  | cons c rest => exact dropSuffixWhile_append_of_pos hback (c :: rest)

/-- Neither the first nor the last character is blank. -/
def HasBareEnds (text : List Char) : Prop :=
  (∀ c ∈ text.head?, isBlank c = false) ∧ ∀ c ∈ text.getLast?, isBlank c = false

theorem not_of_mem_getLast?_dropSuffixWhile {c : Char}
    (h : c ∈ (dropSuffixWhile p text).getLast?) : p c = false := by
  induction text with
  | nil => cases h
  | cons d rest ih =>
    rw [dropSuffixWhile] at h
    cases hkept : dropSuffixWhile p rest with
    | nil =>
      rw [hkept] at h
      by_cases hd : p d = true
      · simp [hd] at h
      · obtain rfl : d = c := by simpa [hd] using h
        simpa using hd
    | cons e kept =>
      rw [hkept] at h ih
      exact ih (by simpa [List.getLast?_cons_cons] using h)

theorem hasBareEnds_trimChars (text : List Char) : HasBareEnds (trimChars text) := by
  refine ⟨?_, fun c => not_of_mem_getLast?_dropSuffixWhile⟩
  intro c hc
  obtain ⟨rest, hrest⟩ := List.head?_eq_some_iff.mp hc
  obtain ⟨back, hback⟩ := dropSuffixWhile_isPrefix isBlank (text.dropWhile isBlank)
  have hhead : (text.dropWhile isBlank).head? = some c := by
    rw [← hback, show dropSuffixWhile isBlank (text.dropWhile isBlank) = c :: rest from hrest]
    rfl
  have hnot := List.head?_dropWhile_not isBlank text
  rw [hhead] at hnot
  simpa using hnot

/-- Trimming changes no text but one that begins or ends with a blank character. -/
theorem trimChars_eq_self_iff : trimChars text = text ↔ HasBareEnds text := by
  refine ⟨fun h => h ▸ hasBareEnds_trimChars text, ?_⟩
  rintro ⟨hfirst, hlast⟩
  have hfront : text.dropWhile isBlank = text := by
    cases text with
    | nil => rfl
    | cons c rest => exact List.dropWhile_cons_of_neg (by simp [hfirst c rfl])
  rw [trimChars, hfront]
  rcases List.eq_nil_or_concat text with rfl | ⟨init, last, rfl⟩
  · rfl
  · rw [List.concat_eq_append] at hlast ⊢
    exact dropSuffixWhile_append_of_not (hlast last (by simp)) init

theorem trimChars_eq_self_of_forall (h : ∀ c ∈ text, isBlank c = false) :
    trimChars text = text := by
  refine trimChars_eq_self_iff.mpr ⟨?_, ?_⟩
  · exact fun c hc => h c (List.mem_of_mem_head? hc)
  · exact fun c hc => h c (List.mem_of_mem_getLast? hc)

theorem trim_eq_self_iff {text : String} : trim text = text ↔ HasBareEnds text.toList := by
  rw [← trimChars_eq_self_iff, trim]
  constructor
  · intro h
    rw [← String.toList_ofList (l := trimChars text.toList), h]
  · intro h
    rw [h, String.ofList_toList]

theorem trim_trim (text : String) : trim (trim text) = trim text := by
  rw [trim_eq_self_iff, trim, String.toList_ofList]
  exact hasBareEnds_trimChars text.toList

/-! ### Cuts -/

theorem cutAt_of_not_mem (h : separator ∉ text) : cutAt separator text = (text, none) := by
  have hnone : text.dropWhile (· != separator) = [] := by
    rw [List.dropWhile_eq_nil_iff]
    intro c hc
    exact bne_iff_ne.mpr fun heq => h (heq ▸ hc)
  rw [cutAt, hnone]

theorem cutAt_append (h : separator ∉ front) (rest : List Char) :
    cutAt separator (front ++ separator :: rest) = (front, some rest) := by
  have hfront : ∀ c ∈ front, (c != separator) = true :=
    fun c hc => bne_iff_ne.mpr fun heq => h (heq ▸ hc)
  have hdrop : (front ++ separator :: rest).dropWhile (· != separator) = separator :: rest := by
    rw [List.dropWhile_append_of_pos hfront, List.dropWhile_cons_of_neg (by simp)]
  have htake : (front ++ separator :: rest).takeWhile (· != separator) = front := by
    rw [List.takeWhile_append_of_pos hfront, List.takeWhile_cons_of_neg (by simp), List.append_nil]
  rw [cutAt, hdrop, htake]

/-- What stands behind a cut, with the separator in front of it. -/
def marked (separator : Char) : Option (List Char) → List Char
  | none => []
  | some text => separator :: text

theorem cutAt_eq_iff {after : Option (List Char)} :
    cutAt separator text = (front, after) ↔
      separator ∉ front ∧ text = front ++ marked separator after := by
  constructor
  · intro h
    by_cases hmem : separator ∈ text
    · obtain ⟨before, behind, rfl, hbefore⟩ := List.eq_append_cons_of_mem hmem
      rw [cutAt_append hbefore] at h
      cases h
      exact ⟨hbefore, rfl⟩
    · rw [cutAt_of_not_mem hmem] at h
      cases h
      exact ⟨hmem, (List.append_nil text).symm⟩
  · rintro ⟨hfront, rfl⟩
    cases after with
    | none => rw [marked, List.append_nil, cutAt_of_not_mem hfront]
    | some rest => exact cutAt_append hfront rest

/-- A text splits at its last separator. -/
theorem exists_append_of_mem (h : separator ∈ text) :
    ∃ front back, text = front ++ separator :: back ∧ separator ∉ back := by
  obtain ⟨back, front, hreverse, hback⟩ :=
    List.eq_append_cons_of_mem (List.mem_reverse.mpr h)
  refine ⟨front.reverse, back.reverse, ?_, by simpa using hback⟩
  simpa using congrArg List.reverse hreverse

/-- The last separator of a text stands in one place. -/
theorem append_separator_inj {front' back' : List Char} (hback : separator ∉ back)
    (hback' : separator ∉ back') (h : front ++ separator :: back = front' ++ separator :: back') :
    front = front' ∧ back = back' := by
  have hreverse : back.reverse ++ separator :: front.reverse =
      back'.reverse ++ separator :: front'.reverse := by
    simpa using congrArg List.reverse h
  have hcut := congrArg (cutAt separator) hreverse
  rw [cutAt_append (by simpa using hback), cutAt_append (by simpa using hback')] at hcut
  obtain ⟨hbacks, hfronts⟩ := Prod.mk.inj hcut
  exact ⟨List.reverse_inj.mp (Option.some.inj hfronts), List.reverse_inj.mp hbacks⟩

/-! ### Splits and joins -/

theorem splitOn_append (separator : Char) (front rest : List Char) :
    splitOn separator (front ++ separator :: rest) =
      splitOn separator front ++ splitOn separator rest := by
  induction front with
  | nil => simp [splitOn]
  | cons c more ih =>
    rw [List.cons_append, splitOn, splitOn, ih]
    split
    · rfl
    · cases hruns : splitOn separator more with
      | nil => exact absurd hruns (splitOn_ne_nil separator more)
      | cons run runs => rfl

theorem join_inj {runs others : List (List Char)} (hruns : runs ≠ []) (hothers : others ≠ [])
    (hrunsFree : ∀ run ∈ runs, separator ∉ run) (hothersFree : ∀ run ∈ others, separator ∉ run)
    (h : join separator runs = join separator others) : runs = others := by
  rw [← splitOn_join hruns hrunsFree, h, splitOn_join hothers hothersFree]

theorem eq_or_mem_of_mem_join {c : Char} {runs : List (List Char)} (h : c ∈ join separator runs) :
    c = separator ∨ ∃ run ∈ runs, c ∈ run := by
  induction runs with
  | nil => cases h
  | cons run rest ih =>
    cases rest with
    | nil => exact .inr ⟨run, List.mem_cons_self, h⟩
    | cons next more =>
      rcases List.mem_append.mp h with hrun | hrest
      · exact .inr ⟨run, List.mem_cons_self, hrun⟩
      · rcases List.mem_cons.mp hrest with hseparator | hjoin
        · exact .inl hseparator
        · obtain hseparator | ⟨found, hmem, hc⟩ := ih hjoin
          · exact .inl hseparator
          · exact .inr ⟨found, List.mem_cons_of_mem _ hmem, hc⟩

end ClusterUpgrade.Text
