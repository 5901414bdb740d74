import SoftClock.Proofs.Json.Tokens

/-!
# JSON Values Survive Their Text

Every JSON value is read back from its compact text (`parse?_compact`), with the order of its fields
and with fields that are repeated.

The reader spends fuel on depth and on length. A text of some length needs at most twice as much: an
array or an object spends one for itself and one for each item, and each of these has a bracket or a
comma of its own. With that much fuel values, items and fields are read (`reads_compact`), by
induction on the fuel, since each of the three readers hands one less to the others.
-/

namespace SoftClock.Json

/-! ## How values start -/

theorem skipSpace_cons {c : Char} (hspace : isSpace c = false) (text : List Char) :
    skipSpace (c :: text) = c :: text := by
  rw [skipSpace, List.dropWhile_cons_of_neg (by simp [hspace])]

/-- Whether a number starts with a character. -/
def startsNumber (c : Char) : Bool := c.isDigit || c = '-'

/-- An integer starts as a number does. -/
theorem intChars_eq_cons (n : ℤ) : ∃ c cs, Text.intChars n = c :: cs ∧ startsNumber c := by
  cases n with
  | ofNat n =>
    obtain ⟨c, cs, hchars, hdigit, -⟩ := Text.natChars_eq_cons n
    exact ⟨c, cs, hchars, by simp [startsNumber, hdigit]⟩
  | negSucc n => exact ⟨'-', _, rfl, by decide⟩

/-- What starts a number is no white space and no bracket. -/
theorem isSpace_of_startsNumber {c : Char} (h : startsNumber c) : isSpace c = false := by
  rw [isSpace]
  simp only [Text.ne_of_test h (show startsNumber ' ' = false by decide),
    Text.ne_of_test h (show startsNumber '\t' = false by decide),
    Text.ne_of_test h (show startsNumber '\n' = false by decide),
    Text.ne_of_test h (show startsNumber '\r' = false by decide), decide_false, Bool.or_false]

/-- A value starts with a character that is no white space and does not end an array. -/
theorem compactChars_eq_cons (value : Json) :
    ∃ c cs, value.compactChars = c :: cs ∧ isSpace c = false ∧ c ≠ ']' := by
  have hnumber {text : List Char} (rest : List Char) (h : ∃ c cs, text = c :: cs ∧ startsNumber c) :
      ∃ c cs, text ++ rest = c :: cs ∧ isSpace c = false ∧ c ≠ ']' := by
    obtain ⟨c, cs, rfl, hc⟩ := h
    exact ⟨c, cs ++ rest, rfl, isSpace_of_startsNumber hc, Text.ne_of_test hc (by decide)⟩
  cases value with
  | null => exact ⟨'n', _, rfl, by decide, by decide⟩
  | bool value => cases value <;> exact ⟨_, _, rfl, by decide, by decide⟩
  | integer n => simpa [compactChars] using hnumber [] (intChars_eq_cons n)
  | decimal mantissa exponent => exact hnumber _ (intChars_eq_cons mantissa)
  | string content =>
    exact ⟨'"', bodyChars content, textChars_eq_cons content, by decide, by decide⟩
  | array items => cases items <;> exact ⟨'[', _, rfl, by decide, by decide⟩
  | object fields => cases fields <;> exact ⟨'\x7b', _, rfl, by decide, by decide⟩

theorem skipSpace_compactChars (value : Json) (rest : List Char) :
    skipSpace (value.compactChars ++ rest) = value.compactChars ++ rest := by
  obtain ⟨c, cs, hchars, hspace, -⟩ := compactChars_eq_cons value
  rw [hchars, List.cons_append, skipSpace_cons hspace]

theorem compactChars_length_pos (value : Json) : 0 < value.compactChars.length := by
  obtain ⟨c, cs, hchars, -⟩ := compactChars_eq_cons value
  rw [hchars, List.length_cons]
  exact Nat.succ_pos _

/-- What follows an item does not continue a number. -/
theorem endsNumber_compactItems (items : List Json) (rest : List Char) :
    EndsNumber (compactItems items ++ rest) := by
  intro c hc
  cases items <;> cases hc <;> decide

/-- What follows the value of a field does not continue a number. -/
theorem endsNumber_compactFields (fields : List (JsonText × Json)) (rest : List Char) :
    EndsNumber (compactFields fields ++ rest) := by
  intro c hc
  cases fields <;> cases hc <;> decide

/-! ## One step of each reader -/

/-- Fuel that is enough to read values of its size. -/
def ReadsValues (fuel : ℕ) : Prop :=
  ∀ (value : Json) (rest : List Char), 2 * value.compactChars.length ≤ fuel → EndsNumber rest →
    readValue fuel (value.compactChars ++ rest) = some (value, rest)

/-- Fuel that is enough to read the items of arrays of its size. -/
def ReadsItems (fuel : ℕ) : Prop :=
  ∀ (item : Json) (items : List Json) (rest : List Char),
    2 * (item.compactChars.length + (compactItems items).length) ≤ fuel →
    readItems fuel (item.compactChars ++ (compactItems items ++ rest)) = some (item :: items, rest)

/-- Fuel that is enough to read the fields of objects of its size. -/
def ReadsFields (fuel : ℕ) : Prop :=
  ∀ (key : JsonText) (value : Json) (fields : List (JsonText × Json)) (rest : List Char),
    2 * (value.compactChars.length + (compactFields fields).length) ≤ fuel →
    readFields fuel
        (textChars key ++ ':' :: (value.compactChars ++ (compactFields fields ++ rest))) =
      some ((key, value) :: fields, rest)

/-- A text that starts as a number is read as one. -/
theorem readValue_number {c : Char} (hc : startsNumber c) (fuel : ℕ) (text : List Char) :
    readValue (fuel + 1) (c :: text) = readNumber (c :: text) := by
  have hne {d : Char} (hd : startsNumber d = false) : c ≠ d := Text.ne_of_test hc hd
  rw [readValue, skipSpace_cons (isSpace_of_startsNumber hc)]
  split
  case h_7 => rfl
  -- every other kind of value starts with a mark of its own
  all_goals
    rename_i h
    exact absurd (List.cons.inj h).1 (hne (by decide))

theorem readValue_intChars (n : ℤ) (fuel : ℕ) (rest : List Char) :
    readValue (fuel + 1) (Text.intChars n ++ rest) = readNumber (Text.intChars n ++ rest) := by
  obtain ⟨c, cs, hchars, hc⟩ := intChars_eq_cons n
  rw [hchars, List.cons_append, readValue_number hc]

theorem readsValues_succ {fuel : ℕ} (hitems : ReadsItems fuel) (hfields : ReadsFields fuel) :
    ReadsValues (fuel + 1) := by
  intro value rest hfuel hrest
  cases value with
  | null => rfl
  | bool value => cases value <;> rfl
  | integer n => rw [compactChars, readValue_intChars, readNumber_intChars n hrest]
  | decimal mantissa exponent =>
    rw [compactChars, List.append_assoc, List.cons_append, readValue_intChars,
      readNumber_decimal mantissa exponent fun c => hrest.not_isDigit]
  | string content =>
    rw [compactChars, textChars_eq_cons, List.cons_append, readValue,
      skipSpace_cons (by decide)]
    simp only [readText_bodyChars, Option.map_some]
  | array items =>
    cases items with
    | nil => rfl
    | cons item items =>
      simp only [compactChars, List.length_append, List.length_cons] at hfuel
      have hread := hitems item items rest (by omega)
      obtain ⟨c, cs, hchars, -, hc⟩ := compactChars_eq_cons item
      rw [compactChars, List.append_assoc, List.cons_append, readValue, skipSpace_cons (by decide)]
      simp only [skipSpace_compactChars]
      split
      · -- no item starts with the end of an array
        rename_i h
        rw [hchars, List.cons_append] at h
        exact absurd (List.cons.inj h).1 hc
      · rw [hread]
        rfl
  | object fields =>
    cases fields with
    | nil => rfl
    | cons field fields =>
      obtain ⟨key, value⟩ := field
      simp only [compactChars, List.length_append, List.length_cons] at hfuel
      have hread := hfields key value fields rest (by omega)
      have htext : compactChars (.object ((key, value) :: fields)) ++ rest =
          '\x7b' :: (textChars key ++
            ':' :: (value.compactChars ++ (compactFields fields ++ rest))) := by
        simp only [compactChars, List.append_assoc, List.cons_append]
      rw [textChars_eq_cons, List.cons_append] at htext hread
      rw [htext, readValue, skipSpace_cons (by decide)]
      simp only [skipSpace_cons (show isSpace '"' = false by decide)]
      split
      · -- a key starts with a quotation mark
        rename_i h
        cases h
      · rw [hread]
        rfl

theorem readsItems_succ {fuel : ℕ} (hvalues : ReadsValues fuel) (hitems : ReadsItems fuel) :
    ReadsItems (fuel + 1) := by
  intro item items rest hfuel
  have hpos : 0 < (compactItems items).length := by
    cases items <;> simp [compactItems]
  have hread := hvalues item (compactItems items ++ rest) (by omega)
    (endsNumber_compactItems items rest)
  rw [readItems, hread]
  cases items with
  | nil => rfl
  | cons next items =>
    simp only [compactItems, List.length_append, List.length_cons] at hfuel
    have hrest := hitems next items rest (by omega)
    simp only [compactItems, List.cons_append, List.append_assoc]
    rw [skipSpace_cons (by decide)]
    simp only [hrest, Option.map_some]

/-- The key of a field is read with the colon behind it. -/
theorem readKey_textChars (key : JsonText) (rest : List Char) :
    readKey (textChars key ++ ':' :: rest) = some (key, rest) := by
  rw [textChars_eq_cons, List.cons_append, readKey, skipSpace_cons (by decide)]
  simp only [readText_bodyChars]
  rw [skipSpace_cons (by decide)]
  rfl

theorem readsFields_succ {fuel : ℕ} (hvalues : ReadsValues fuel) (hfields : ReadsFields fuel) :
    ReadsFields (fuel + 1) := by
  intro key value fields rest hfuel
  have hpos : 0 < (compactFields fields).length := by
    cases fields <;> simp [compactFields]
  have hread := hvalues value (compactFields fields ++ rest) (by omega)
    (endsNumber_compactFields fields rest)
  rw [readFields, readKey_textChars]
  simp only [hread]
  cases fields with
  | nil => rfl
  | cons field fields =>
    obtain ⟨nextKey, next⟩ := field
    simp only [compactFields, List.length_append, List.length_cons] at hfuel
    have hrest := hfields nextKey next fields rest (by omega)
    simp only [compactFields, List.cons_append, List.append_assoc]
    rw [skipSpace_cons (by decide)]
    simp only [hrest, Option.map_some]

/-! ## Whole texts -/

/-- Twice the length of a text is enough fuel for each of the three readers. -/
theorem reads_compact (fuel : ℕ) : ReadsValues fuel ∧ ReadsItems fuel ∧ ReadsFields fuel := by
  induction fuel with
  | zero =>
    -- no value is written without a character
    refine ⟨fun value rest hfuel => ?_, fun item items rest hfuel => ?_,
      fun key value fields rest hfuel => ?_⟩
    · have hpos := compactChars_length_pos value
      omega
    · have hpos := compactChars_length_pos item
      omega
    · have hpos := compactChars_length_pos value
      omega
  | succ fuel ih =>
    obtain ⟨hvalues, hitems, hfields⟩ := ih
    exact ⟨readsValues_succ hitems hfields, readsItems_succ hvalues hitems,
      readsFields_succ hvalues hfields⟩

/-- Every value is read back from its compact text. -/
theorem parse?_compact (value : Json) : parse? value.compact = some value := by
  have hread := (reads_compact (2 * value.compactChars.length + 2)).1 value []
    (Nat.le_add_right _ _) (fun c hc => by cases hc)
  rw [List.append_nil] at hread
  rw [parse?, compact, String.toList_ofList, hread]
  rfl

end SoftClock.Json
