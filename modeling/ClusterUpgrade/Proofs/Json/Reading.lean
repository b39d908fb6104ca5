import ClusterUpgrade.Json.Reader
import ClusterUpgrade.Json.Writer
import Mathlib.Data.List.Basic

/-!
Reading back the JSON texts that are written. Main statement: `parse?_write`, for values without
numbers.

A text, a flag or a bracketed value shows by itself where it ends, so these values are read back in
front of any text. A numeral would not be: it takes in every digit that follows.
-/

namespace ClusterUpgrade.Json

open Text

/-! ### Strings -/

theorem hexValue?_hexDigit : ∀ n < 16, hexValue? (hexDigit n) = some n := by
  decide

theorem unitOfEscape?_of_escapeLetter? {c letter : Char} (h : escapeLetter? c = some letter) :
    unitOfEscape? letter = some (.character c) ∧ letter ≠ 'u' := by
  unfold escapeLetter? at h
  repeat' split at h
  all_goals simp_all
  all_goals
    subst h
    decide

theorem ne_of_escapeLetter?_eq_none {c : Char} (h : escapeLetter? c = none) :
    c ≠ '"' ∧ c ≠ '\\' := by
  constructor <;> rintro rfl <;> simp [escapeLetter?] at h

theorem hex4?_of_control {c : Char} (h : c.toNat < 0x20) :
    hex4? '0' '0' (hexDigit (c.toNat / 16)) (hexDigit (c.toNat % 16)) = some c.toNat := by
  have hhigh := hexValue?_hexDigit (c.toNat / 16) (by omega)
  have hlow := hexValue?_hexDigit (c.toNat % 16) (by omega)
  have hzero : hexValue? '0' = some 0 := rfl
  have hcode : c.toNat / 16 * 16 + c.toNat % 16 = c.toNat := by omega
  simp [hex4?, hzero, hhigh, hlow, hcode]

theorem unitOfCode_of_control {c : Char} (h : c.toNat < 0x20) :
    unitOfCode c.toNat = .character c := by
  rw [unitOfCode, if_neg (by omega), Char.ofNat_toNat]

/-- Each character is read from its own escape, whatever follows it. -/
theorem stringUnits?_escapeChar (c : Char) (rest : List Char) :
    stringUnits? (escapeChar c ++ rest) =
      (stringUnits? rest).map fun found => (.character c :: found.1, found.2) := by
  unfold escapeChar
  cases hletter : escapeLetter? c with
  | some letter =>
    obtain ⟨hunit, hne⟩ := unitOfEscape?_of_escapeLetter? hletter
    simp only [List.cons_append, List.nil_append]
    rw [stringUnits?, hunit]
    · cases stringUnits? rest <;> rfl
    · intro a b d e tail hu
      exact absurd hu hne
  | none =>
    obtain ⟨hquote, hslash⟩ := ne_of_escapeLetter?_eq_none hletter
    by_cases hcontrol : c.toNat < 0x20
    · simp only [if_pos hcontrol, List.cons_append, List.nil_append]
      rw [stringUnits?, hex4?_of_control hcontrol]
      simp only [Option.bind_eq_bind, Option.bind_some, unitOfCode_of_control hcontrol]
      cases stringUnits? rest <;> rfl
    · simp only [if_neg hcontrol, List.cons_append, List.nil_append]
      rw [stringUnits?, if_neg (by simp [hcontrol, hslash])]
      · cases stringUnits? rest <;> rfl
      · exact hquote
      · exact fun _ _ _ _ _ heq => absurd heq hslash
      · exact fun _ _ heq => absurd heq hslash

theorem stringUnits?_flatMap_escapeChar (text rest : List Char) :
    stringUnits? (text.flatMap escapeChar ++ '"' :: rest) =
      some (text.map .character, rest) := by
  induction text with
  | nil => rfl
  | cons c text ih =>
    rw [List.flatMap_cons, List.append_assoc, stringUnits?_escapeChar, ih]
    rfl

theorem charsOfUnits?_map_character (text : List Char) :
    charsOfUnits? (text.map .character) = some text := by
  induction text with
  | nil => rfl
  | cons c text ih => simp [charsOfUnits?, ih]

theorem stringBody?_quoted (text : String) (rest : List Char) :
    stringBody? (text.toList.flatMap escapeChar ++ '"' :: rest) = some (some text, rest) := by
  rw [stringBody?, stringUnits?_flatMap_escapeChar]
  simp [charsOfUnits?_map_character]

theorem quote_append (text : String) (rest : List Char) :
    quote text ++ rest = '"' :: (text.toList.flatMap escapeChar ++ '"' :: rest) := by
  simp [quote, quoteChars]

/-! ### Values -/

mutual
/-- Whether a value is made of texts and flags, in lists and objects. -/
def isTextual : Json → Bool
  | .null | .bool _ | .string _ => true
  | .array elements => areTextual elements
  | .object entries => haveTextualValues entries
  | _ => false

def areTextual : List Json → Bool
  | [] => true
  | element :: rest => isTextual element && areTextual rest

def haveTextualValues : List (String × Json) → Bool
  | [] => true
  | (_, value) :: rest => isTextual value && haveTextualValues rest
end

/-- A written value begins neither with a blank nor with a closing bracket. -/
theorem exists_writeChars_eq_cons {json : Json} (h : json.isTextual = true) :
    ∃ c tail, writeChars json = c :: tail ∧ isInsignificant c = false ∧ c ≠ ']' := by
  cases json with
  | null => exact ⟨'n', _, rfl, by decide, by decide⟩
  | bool value =>
    cases value with
    | true => exact ⟨'t', _, rfl, by decide, by decide⟩
    | false => exact ⟨'f', _, rfl, by decide, by decide⟩
  | string text => exact ⟨'"', _, rfl, by decide, by decide⟩
  | array elements => exact ⟨'[', _, rfl, by decide, by decide⟩
  | object entries => exact ⟨'{', _, rfl, by decide, by decide⟩
  | integer | double | unreadable => cases h

theorem skipInsignificant_cons {c : Char} (h : isInsignificant c = false) (text : List Char) :
    skipInsignificant (c :: text) = c :: text := by
  simp [skipInsignificant, h]

theorem skipInsignificant_writeChars {json : Json} (h : json.isTextual = true) (rest : List Char) :
    skipInsignificant (writeChars json ++ rest) = writeChars json ++ rest := by
  obtain ⟨c, tail, hwritten, hkept, -⟩ := exists_writeChars_eq_cons h
  rw [hwritten, List.cons_append, skipInsignificant_cons hkept]

theorem writeElements_cons (element : Json) (elements : List Json) (rest : List Char) :
    writeElements (element :: elements) ++ ']' :: rest =
      writeChars element ++
        if elements = [] then ']' :: rest else ',' :: (writeElements elements ++ ']' :: rest) := by
  cases elements <;> simp [writeElements]

theorem writeEntries_cons (name : String) (value : Json) (entries : List (String × Json))
    (rest : List Char) :
    writeEntries ((name, value) :: entries) ++ '}' :: rest =
      quote name ++ ':' :: (writeChars value ++
        if entries = [] then '}' :: rest
        else ',' :: (writeEntries entries ++ '}' :: rest)) := by
  cases entries <;> simp [writeEntries]

theorem ofEntries_named (entries : List (String × Json)) :
    ofEntries (entries.map fun entry => (some entry.1, entry.2)) = .object entries := by
  have hnamed : (entries.map fun entry => (some entry.1, entry.2)).mapM
      (fun entry : Option String × Json => entry.1.map (·, entry.2)) = some entries := by
    induction entries with
    | nil => rfl
    | cons entry entries ih => simp [ih]
  rw [ofEntries, hnamed]

theorem value?_bracket {c : Char} (hkept : isInsignificant c = false) (hopen : c ≠ ']')
    (fuel : Nat) (tail : List Char) :
    value? (fuel + 1) ('[' :: c :: tail) =
      (elements? fuel (c :: tail)).map fun found => (.array found.1, found.2) := by
  simp only [value?, skipInsignificant_cons hkept]
  split
  · next heq => exact absurd (List.cons.inj heq).1 hopen
  · cases elements? fuel (c :: tail) <;> rfl

theorem value?_brace (fuel : Nat) (tail : List Char) :
    value? (fuel + 1) ('{' :: '"' :: tail) =
      (entries? fuel ('"' :: tail)).map fun found => (ofEntries found.1, found.2) := by
  simp only [value?, skipInsignificant_cons (show isInsignificant '"' = false from rfl)]
  split
  · next heq => exact absurd (List.cons.inj heq).1 (by decide)
  · cases entries? fuel ('"' :: tail) <;> rfl

section

variable {name : String} {value : Json} {fuel : Nat} {rest : List Char}

theorem entries?_brace (htextual : value.isTextual = true)
    (h : value? fuel (writeChars value ++ '}' :: rest) = some (value, '}' :: rest)) :
    entries? (fuel + 1) (quote name ++ ':' :: (writeChars value ++ '}' :: rest)) =
      some ([(some name, value)], rest) := by
  simp [quote_append, entries?, stringBody?_quoted, skipInsignificant_cons, isInsignificant,
    skipInsignificant_writeChars htextual, h]

theorem entries?_comma (htextual : value.isTextual = true)
    (h : value? fuel (writeChars value ++ ',' :: rest) = some (value, ',' :: rest)) :
    entries? (fuel + 1) (quote name ++ ':' :: (writeChars value ++ ',' :: rest)) =
      (entries? fuel rest).map fun found => ((some name, value) :: found.1, found.2) := by
  cases hrest : entries? fuel rest <;>
    simp [quote_append, entries?, stringBody?_quoted, skipInsignificant_cons, isInsignificant,
      skipInsignificant_writeChars htextual, h, hrest]

end

-- The fuel bounds the length of what is still to be read, so nothing runs out of it before its end.
mutual
theorem value?_writeChars : ∀ (json : Json) (fuel : Nat) (rest : List Char),
    json.isTextual = true → (writeChars json).length ≤ fuel →
      value? fuel (writeChars json ++ rest) = some (json, rest)
  | json, 0, _, htextual, hfuel => by
    obtain ⟨c, tail, hwritten, -⟩ := exists_writeChars_eq_cons htextual
    simp [hwritten] at hfuel
  | .null, _ + 1, _, _, _ => by simp [writeChars, value?]
  | .bool true, _ + 1, _, _, _ => by simp [writeChars, value?]
  | .bool false, _ + 1, _, _, _ => by simp [writeChars, value?]
  | .string text, fuel + 1, rest, _, _ => by
    simp only [writeChars, quote_append, value?, stringBody?_quoted]
    rfl
  | .array [], _ + 1, _, _, _ => rfl
  | .array (element :: elements), fuel + 1, rest, htextual, hfuel => by
    rw [isTextual] at htextual
    have hread := elements?_writeElements element elements fuel rest htextual (by
      simp only [writeChars, List.length_cons, List.length_append, List.length_nil] at hfuel
      omega)
    obtain ⟨c, tail, hwritten, hkept, hopen⟩ :=
      exists_writeChars_eq_cons (Bool.and_eq_true_iff.mp htextual).1
    simp only [writeChars, List.cons_append, List.append_assoc, List.nil_append]
    rw [writeElements_cons, hwritten, List.cons_append] at hread ⊢
    rw [value?_bracket hkept hopen, hread]
    rfl
  | .object [], _ + 1, _, _, _ => rfl
  | .object ((name, value) :: entries), fuel + 1, rest, htextual, hfuel => by
    rw [isTextual] at htextual
    have hread := entries?_writeEntries name value entries fuel rest htextual (by
      simp only [writeChars, List.length_cons, List.length_append, List.length_nil] at hfuel
      omega)
    simp only [writeChars, List.cons_append, List.append_assoc, List.nil_append]
    rw [writeEntries_cons, quote_append] at hread ⊢
    rw [value?_brace, hread, Option.map_some, ofEntries_named]

theorem elements?_writeElements : ∀ (element : Json) (elements : List Json) (fuel : Nat)
    (rest : List Char), areTextual (element :: elements) = true →
      (writeElements (element :: elements)).length < fuel →
        elements? fuel (writeElements (element :: elements) ++ ']' :: rest) =
          some (element :: elements, rest)
  | element, [], fuel + 1, rest, htextual, hfuel => by
    have hfirst : element.isTextual = true := (Bool.and_eq_true_iff.mp htextual).1
    have hread := value?_writeChars element fuel (']' :: rest) hfirst (by
      rw [writeElements] at hfuel
      omega)
    rw [writeElements, elements?, skipInsignificant_writeChars hfirst, hread]
    rfl
  | element, next :: elements, fuel + 1, rest, htextual, hfuel => by
    obtain ⟨hfirst, hothers⟩ := Bool.and_eq_true_iff.mp htextual
    have hlength : (writeElements (element :: next :: elements)).length =
        (writeChars element).length + ((writeElements (next :: elements)).length + 1) := by
      simp [writeElements]
    have hread := value?_writeChars element fuel
      (',' :: (writeElements (next :: elements) ++ ']' :: rest)) hfirst (by omega)
    have hrest := elements?_writeElements next elements fuel rest hothers (by omega)
    rw [writeElements_cons, if_neg (by simp), elements?, skipInsignificant_writeChars hfirst, hread]
    simp [skipInsignificant_cons, isInsignificant, hrest]

theorem entries?_writeEntries : ∀ (name : String) (value : Json) (entries : List (String × Json))
    (fuel : Nat) (rest : List Char), haveTextualValues ((name, value) :: entries) = true →
      (writeEntries ((name, value) :: entries)).length < fuel →
        entries? fuel (writeEntries ((name, value) :: entries) ++ '}' :: rest) =
          some (((name, value) :: entries).map fun entry => (some entry.1, entry.2), rest)
  | name, value, [], fuel + 1, rest, htextual, hfuel => by
    have hvalue : value.isTextual = true := (Bool.and_eq_true_iff.mp htextual).1
    have hread := value?_writeChars value fuel ('}' :: rest) hvalue (by
      simp only [writeEntries, List.length_append, List.length_cons] at hfuel
      omega)
    rw [writeEntries_cons, if_pos rfl, entries?_brace hvalue hread]
    rfl
  | name, value, (next, nextValue) :: entries, fuel + 1, rest, htextual, hfuel => by
    obtain ⟨hvalue, hothers⟩ := Bool.and_eq_true_iff.mp htextual
    have hlength : (writeEntries ((name, value) :: (next, nextValue) :: entries)).length =
        (quote name).length + ((writeChars value).length +
          ((writeEntries ((next, nextValue) :: entries)).length + 1) + 1) := by
      simp [writeEntries]
    have hread := value?_writeChars value fuel
      (',' :: (writeEntries ((next, nextValue) :: entries) ++ '}' :: rest)) hvalue (by omega)
    have hrest := entries?_writeEntries next nextValue entries fuel rest hothers (by omega)
    rw [writeEntries_cons, if_neg (by simp), entries?_comma hvalue hread, hrest]
    rfl
end

theorem parse?_write {json : Json} (h : json.isTextual = true) : parse? json.write = some json := by
  have hskip := skipInsignificant_writeChars h []
  have hread := value?_writeChars json ((writeChars json).length + 1) [] h (Nat.le_succ _)
  rw [List.append_nil] at hskip hread
  simp only [parse?, write, String.toList_ofList, parseChars?, hskip, hread]
  rfl

end ClusterUpgrade.Json
