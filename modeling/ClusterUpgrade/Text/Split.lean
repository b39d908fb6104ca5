/-!
Splitting text at a separator and joining it again. Main statement: `splitOn_join`, the parts that a
join was made of come back when none of them holds the separator.
-/

namespace ClusterUpgrade.Text

/-- The runs between separators; there is always at least one. -/
def splitOn (separator : Char) : List Char → List (List Char)
  | [] => [[]]
  | c :: rest =>
    if c = separator then [] :: splitOn separator rest
    else
      match splitOn separator rest with
      | [] => [[c]]
      | run :: runs => (c :: run) :: runs

/-- The runs with one separator between neighbours. -/
def join (separator : Char) : List (List Char) → List Char
  | [] => []
  | [run] => run
  | run :: runs => run ++ separator :: join separator runs

/-- The part in front of the first separator, and the part after it if there is one. -/
def cutAt (separator : Char) (text : List Char) : List Char × Option (List Char) :=
  match text.dropWhile (· != separator) with
  | [] => (text, none)
  | _ :: after => (text.takeWhile (· != separator), some after)

/-- What remains of a text after a leading part, if it starts with that part. -/
def dropPrefix? : (lead text : List Char) → Option (List Char)
  | [], text => some text
  | _ :: _, [] => none
  | c :: lead, d :: text => if c = d then dropPrefix? lead text else none

/-- What remains of a text before a trailing part, if it ends with that part. -/
def dropSuffix? (trail text : List Char) : Option (List Char) :=
  (dropPrefix? trail.reverse text.reverse).map List.reverse

theorem splitOn_ne_nil (separator : Char) (text : List Char) : splitOn separator text ≠ [] := by
  cases text with
  | nil => simp [splitOn]
  | cons c rest =>
    simp only [splitOn]
    split
    · simp
    · split <;> simp

theorem join_splitOn (separator : Char) (text : List Char) :
    join separator (splitOn separator text) = text := by
  induction text with
  | nil => rfl
  | cons c rest ih =>
    have hne := splitOn_ne_nil separator rest
    rw [splitOn]
    split
    · next heq =>
      subst heq
      cases hruns : splitOn c rest with
      | nil => exact absurd hruns hne
      | cons run runs => simp [join, ← hruns, ih]
    · cases hruns : splitOn separator rest with
      | nil => exact absurd hruns hne
      | cons run runs =>
        rw [hruns] at ih
        cases runs with
        | nil => simpa [join] using ih
        | cons next more => simpa [join] using ih

theorem splitOn_of_not_mem {separator : Char} {run : List Char} (h : separator ∉ run) :
    splitOn separator run = [run] := by
  induction run with
  | nil => rfl
  | cons c rest ih =>
    have hc : c ≠ separator := fun heq => h (heq ▸ List.mem_cons_self)
    simp [splitOn, hc, ih (fun hmem => h (List.mem_cons_of_mem _ hmem))]

theorem splitOn_append_separator {separator : Char} {run : List Char} (h : separator ∉ run)
    (rest : List Char) :
    splitOn separator (run ++ separator :: rest) = run :: splitOn separator rest := by
  induction run with
  | nil => simp [splitOn]
  | cons c more ih =>
    have hc : c ≠ separator := fun heq => h (heq ▸ List.mem_cons_self)
    simp [splitOn, hc, ih (fun hmem => h (List.mem_cons_of_mem _ hmem))]

theorem splitOn_join {separator : Char} {runs : List (List Char)} (hne : runs ≠ [])
    (h : ∀ run ∈ runs, separator ∉ run) : splitOn separator (join separator runs) = runs := by
  induction runs with
  | nil => exact absurd rfl hne
  | cons run rest ih =>
    cases rest with
    | nil => exact splitOn_of_not_mem (h run List.mem_cons_self)
    | cons next more =>
      rw [join, splitOn_append_separator (h run List.mem_cons_self),
        ih (by simp) (fun r hr => h r (List.mem_cons_of_mem _ hr))]
      simp

theorem dropPrefix?_eq_some_iff {lead text rest : List Char} :
    dropPrefix? lead text = some rest ↔ text = lead ++ rest := by
  induction lead generalizing text with
  | nil => simp [dropPrefix?, eq_comm]
  | cons c lead ih =>
    cases text with
    | nil => simp [dropPrefix?]
    | cons d text =>
      by_cases heq : c = d
      · simp [dropPrefix?, heq, ih]
      · simp [dropPrefix?, heq, Ne.symm heq]

theorem dropSuffix?_eq_some_iff {trail text rest : List Char} :
    dropSuffix? trail text = some rest ↔ text = rest ++ trail := by
  simp only [dropSuffix?, Option.map_eq_some_iff, dropPrefix?_eq_some_iff]
  constructor
  · rintro ⟨back, hback, rfl⟩
    have := congrArg List.reverse hback
    simpa using this
  · rintro rfl
    exact ⟨rest.reverse, by simp, by simp⟩

end ClusterUpgrade.Text
