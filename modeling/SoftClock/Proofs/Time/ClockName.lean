import SoftClock.Proofs.Text.Blank
import SoftClock.Proofs.Text.Numeral
import SoftClock.Time.ClockId
import Mathlib.Data.List.Basic

/-!
# Texts that Name a Clock

A text is read as an integer if it is one, and as a name otherwise. The two grammars do not overlap:
an integer has no letter, and every name has one.

* `IntegerText` are the integers that are read as such, with nothing around them.
* `ClockName` is the grammar of names: a trimmed text between white space, in capitals and with
  underscores for dashes, behind one `CLOCK_` or with none in front. Every text gives exactly one
  name (`clockName_iff`).
* `parse_of_integerText` and `parse_eq_ok_iff` say what is read by either grammar.
* `ReadAlike` texts name the same clock or none. Texts with the same name are read alike
  (`readAlike_of_sameName`), which is why case, dashes, white space and one `CLOCK_` do not matter
  (`ReadsVariantsAlike`).
* `parse_acceptsClockTexts` puts this together.
-/

namespace SoftClock.ClockId

/-! ## Characters of names -/

/-- The code of a capital letter. -/
theorem toNat_toUpper (c : Char) :
    c.toUpper.toNat = if 97 ≤ c.toNat ∧ c.toNat ≤ 122 then c.toNat - 32 else c.toNat := by
  have hsmall : ('a'.val ≤ c.val ∧ c.val ≤ 'z'.val) ↔ 97 ≤ c.toNat ∧ c.toNat ≤ 122 := Iff.rfl
  unfold Char.toUpper
  split
  · rename_i h
    have hrange := hsmall.mp h
    rw [if_pos hrange]
    -- the distance of the two alphabets wraps around
    show (c.val + ('A'.val - 'a'.val)).toNat = c.toNat - 32
    rw [UInt32.toNat_add]
    change (c.toNat + 4294967264) % 2 ^ 32 = _
    omega
  · rename_i h
    rw [if_neg (mt hsmall.mpr h)]

/-- A dash as names are compared. -/
def dashChar (c : Char) : Char := if c = '-' then '_' else c

/-- A character as names are compared. -/
def nameChar (c : Char) : Char := if c = '-' then '_' else c.toUpper

/-- Only small letters have another capital. -/
theorem toUpper_eq_self {c : Char} (h : ¬ (97 ≤ c.toNat ∧ c.toNat ≤ 122)) : c.toUpper = c := by
  rw [← Char.toNat_inj, toNat_toUpper, if_neg h]

/-- What is no letter is the capital of nothing else. -/
theorem eq_of_toUpper_eq {c d : Char} (h : c.toUpper = d) (hd : d.toNat < 65) : c = d := by
  have hcode := toNat_toUpper c
  rw [h] at hcode
  rw [← h]
  exact (toUpper_eq_self fun hrange => by rw [if_pos hrange] at hcode; omega).symm

/-- Case does not matter in names. -/
theorem nameChar_toUpper (c : Char) : nameChar c.toUpper = nameChar c := by
  have hcode := toNat_toUpper c
  have htwice : c.toUpper.toUpper = c.toUpper := by
    refine toUpper_eq_self fun hrange => ?_
    split at hcode <;> omega
  by_cases hdash : c = '-'
  · subst hdash
    rfl
  · have hupper : c.toUpper ≠ '-' := fun h => hdash (eq_of_toUpper_eq h (by decide))
    rw [nameChar, if_neg hupper, htwice, nameChar, if_neg hdash]

/-- Dashes count as underscores in names. -/
theorem nameChar_dashChar (c : Char) : nameChar (dashChar c) = nameChar c := by
  by_cases hdash : c = '-'
  · subst hdash
    rfl
  · rw [dashChar, if_neg hdash]

/-- White space stays white space, and nothing else becomes white space. -/
theorem isBlank_nameChar (c : Char) : Text.isBlank (nameChar c) = Text.isBlank c := by
  by_cases hdash : c = '-'
  · subst hdash
    decide
  · rw [nameChar, if_neg hdash]
    by_cases hrange : 97 ≤ c.toNat ∧ c.toNat ≤ 122
    · have hcode := toNat_toUpper c
      rw [if_pos hrange] at hcode
      rw [Text.isBlank_of_visible (by omega) (by omega),
        Text.isBlank_of_visible (by omega) (by omega)]
    · rw [toUpper_eq_self hrange]

/-! ## Names -/

/-- What stands in front of the header name of every clock. -/
def clockPrefix : List Char := "CLOCK_".toList

/-- The prefix has a letter. -/
theorem mem_clockPrefix : 'C' ∈ clockPrefix := by
  decide +kernel

/-- The name that a text gives: a trimmed text between white space, in capitals and with underscores
for dashes, where one `CLOCK_` in front does not count. -/
inductive ClockName : List Char → List Char → Prop
  | prefixed {before body after name : List Char} : (∀ c ∈ before, Text.isBlank c) →
    Text.Trimmed body → (∀ c ∈ after, Text.isBlank c) →
    body.map nameChar = clockPrefix ++ name → ClockName (before ++ body ++ after) name
  | bare {before body after : List Char} : (∀ c ∈ before, Text.isBlank c) →
    Text.Trimmed body → (∀ c ∈ after, Text.isBlank c) →
    ¬ clockPrefix <+: body.map nameChar → ClockName (before ++ body ++ after) (body.map nameChar)

/-- A text without one prefix. -/
theorem isPrefixOf?_getD_iff {front text name : List Char} :
    (front.isPrefixOf? text).getD text = name ↔
      text = front ++ name ∨ ¬ front <+: text ∧ text = name := by
  cases hrest : front.isPrefixOf? text with
  | some rest =>
    have htext := List.isPrefixOf?_eq_some_iff_append_eq.mp hrest
    subst htext
    simp
  | none =>
    have hnone : ¬ front <+: text := by
      rintro ⟨rest, htext⟩
      rw [List.isPrefixOf?_eq_some_iff_append_eq.mpr htext] at hrest
      cases hrest
    have hne : text ≠ front ++ name := by
      rintro rfl
      exact hnone (List.prefix_append front name)
    simp [hnone, hne]

theorem canonicalName_eq_iff {text name : List Char} :
    canonicalName text = name ↔
      (Text.trimBlank text).map nameChar = clockPrefix ++ name ∨
        ¬ clockPrefix <+: (Text.trimBlank text).map nameChar ∧
          (Text.trimBlank text).map nameChar = name :=
  isPrefixOf?_getD_iff

/-- Every text gives one name, the form in which it is compared. -/
theorem clockName_iff {text name : List Char} :
    ClockName text name ↔ canonicalName text = name := by
  rw [canonicalName_eq_iff]
  constructor
  · intro h
    cases h with
    | prefixed hbefore hbody hafter hname =>
      rw [Text.trimBlank_of_trimmed hbefore hbody hafter]
      exact .inl hname
    | bare hbefore hbody hafter hnone =>
      rw [Text.trimBlank_of_trimmed hbefore hbody hafter]
      exact .inr ⟨hnone, rfl⟩
  · intro h
    obtain ⟨before, after, htext, hbefore, hbody, hafter⟩ := Text.eq_append_trimBlank text
    rw [htext]
    rcases h with hname | ⟨hnone, rfl⟩
    · exact .prefixed hbefore hbody hafter hname
    · exact .bare hbefore hbody hafter hnone

/-- A capital letter of a name stands for a letter of the text. -/
theorem ClockName.exists_letter {text name : List Char} (h : ClockName text name) {c : Char}
    (hmem : c ∈ name) (hlow : 65 ≤ c.toNat) (hhigh : c.toNat ≤ 90) : ∃ d ∈ text, 65 ≤ d.toNat := by
  obtain ⟨d, hd, rfl⟩ : ∃ d ∈ text, nameChar d = c := by
    cases h with
    | prefixed _ _ _ hname =>
      obtain ⟨d, hd, hc⟩ := List.mem_map.mp (hname ▸ List.mem_append_right clockPrefix hmem)
      exact ⟨d, List.mem_append_left _ (List.mem_append_right _ hd), hc⟩
    | bare _ _ _ _ =>
      obtain ⟨d, hd, hc⟩ := List.mem_map.mp hmem
      exact ⟨d, List.mem_append_left _ (List.mem_append_right _ hd), hc⟩
  refine ⟨d, hd, ?_⟩
  by_cases hdash : d = '-'
  · subst hdash
    exact absurd hhigh (by decide)
  · rw [nameChar, if_neg hdash, toNat_toUpper] at hlow
    split at hlow <;> omega

/-! ## Integers -/

/-- An integer of 32 bits, with nothing around it. -/
def IntegerText (text : List Char) (n : ℤ) : Prop :=
  Text.Numeral text n ∧ -0x80000000 ≤ n ∧ n ≤ 0x7fffffff

/-- A text that is no such integer. -/
def NoInteger (text : String) : Prop := ∀ n, ¬ IntegerText text.toList n

/-- The digits of an integer and its sign stand close together in ASCII, below the letters. -/
theorem range_of_mem_numeral {text : List Char} {n : ℤ} (h : Text.Numeral text n) {c : Char}
    (hmem : c ∈ text) : 43 ≤ c.toNat ∧ c.toNat ≤ 57 := by
  rcases h.isDigit_or_sign hmem with hdigit | rfl | rfl
  · have hrange : 48 ≤ c.toNat ∧ c.toNat ≤ 57 := Char.isDigit_iff_toNat.mp hdigit
    omega
  · decide
  · decide

/-- An integer has no white space. -/
theorem isBlank_of_mem_numeral {text : List Char} {n : ℤ} (h : Text.Numeral text n) {c : Char}
    (hmem : c ∈ text) : Text.isBlank c = false := by
  have hrange := range_of_mem_numeral h hmem
  exact Text.isBlank_of_visible (by omega) (by omega)

/-- An integer has no letter. -/
theorem noInteger_of_letter {text : String} {c : Char} (hmem : c ∈ text.toList)
    (hc : 65 ≤ c.toNat) : NoInteger text := by
  intro n h
  have hrange := range_of_mem_numeral h.1 hmem
  omega

/-- An integer has no white space around it. -/
theorem eq_nil_of_numeral {before text after : List Char} {n : ℤ}
    (h : Text.Numeral (before ++ text ++ after) n) (hbefore : ∀ c ∈ before, Text.isBlank c)
    (hafter : ∀ c ∈ after, Text.isBlank c) : before = [] ∧ after = [] := by
  have hnone {run : List Char} (hblank : ∀ c ∈ run, Text.isBlank c)
      (hsub : ∀ c ∈ run, c ∈ before ++ text ++ after) : run = [] := by
    refine List.eq_nil_iff_forall_not_mem.mpr fun c hc => ?_
    have hvisible := isBlank_of_mem_numeral h (hsub c hc)
    rw [hblank c hc] at hvisible
    cases hvisible
  exact ⟨hnone hbefore (by simp +contextual), hnone hafter (by simp +contextual)⟩

/-! ## Reading -/

theorem mem_all (id : ClockId) : id ∈ all := by
  cases id <;> decide

/-- A clock is found by what tells it from the others. -/
theorem find?_eq_some_iff {α : Type} [BEq α] [LawfulBEq α] {f : ClockId → α}
    (hf : ∀ a b, f a = f b → a = b) {x : α} {id : ClockId} :
    all.find? (fun id => f id == x) = some id ↔ f id = x := by
  constructor
  · intro h
    simpa using List.find?_some h
  · rintro rfl
    cases hfound : all.find? fun other => f other == f id with
    | none => simpa using List.find?_eq_none.mp hfound id (mem_all id)
    | some found => rw [hf found id (by simpa using List.find?_some hfound)]

theorem ofRaw_eq_ok_iff {raw : Int32} {id : ClockId} : ofRaw raw = .ok id ↔ id.raw = raw := by
  have hinj : ∀ a b : ClockId, a.raw = b.raw → a = b := by
    intro a b
    cases a <;> cases b <;> decide
  rw [← find?_eq_some_iff hinj, ofRaw]
  cases all.find? fun id => id.raw == raw <;> simp

theorem ofRaw_eq_error {raw : Int32} (hnone : ∀ id : ClockId, id.raw ≠ raw) :
    ofRaw raw = .error (.invalidClock raw) := by
  cases hfound : ofRaw raw with
  | ok id => exact absurd (ofRaw_eq_ok_iff.mp hfound) (hnone id)
  | error error =>
    rw [ofRaw] at hfound
    split at hfound <;> cases hfound
    rfl

/-- An integer is read as the clock with that identifier. -/
theorem parse_of_integerText {text : String} {n : ℤ} (h : IntegerText text.toList n) :
    parse text = ofRaw (.ofInt n) := by
  rw [parse, (Text.readInteger_eq_ok_iff (by decide) (by decide)).mpr h]

/-- The refusal of a text that names no clock. -/
def unknownName (text : String) : Except ClockError ClockId :=
  .error (.invalidArgument ("unknown clock name " ++ String.ofList (Text.quoted text.toList)))

/-- A text that is no integer is looked up by the name that it gives. -/
theorem parse_of_noInteger {text : String} {name : List Char} (h : NoInteger text)
    (hname : ClockName text.toList name) :
    parse text =
      match all.find? fun id => id.label.toList == name with
      | some id => .ok id
      | none => unknownName text := by
  rw [parse, clockName_iff.mp hname]
  cases hread : Text.readInteger (-2147483648) 2147483647 text.toList with
  | error fault => rfl
  | ok n => exact absurd ((Text.readInteger_eq_ok_iff (by decide) (by decide)).mp hread) (h n)

theorem find?_label_eq_some_iff {name : List Char} {id : ClockId} :
    all.find? (fun id => id.label.toList == name) = some id ↔ id.label.toList = name := by
  have hinj : ∀ a b : ClockId, a.label.toList = b.label.toList → a = b := by
    intro a b
    cases a <;> cases b <;> decide +kernel
  exact find?_eq_some_iff hinj

theorem parse_eq_ok_iff {text : String} {name : List Char} (h : NoInteger text)
    (hname : ClockName text.toList name) {id : ClockId} :
    parse text = .ok id ↔ id.label.toList = name := by
  rw [parse_of_noInteger h hname, ← find?_label_eq_some_iff]
  cases all.find? fun id => id.label.toList == name <;> simp [unknownName]

theorem parse_eq_unknownName {text : String} {name : List Char} (h : NoInteger text)
    (hname : ClockName text.toList name) (hnone : ∀ id : ClockId, id.label.toList ≠ name) :
    parse text = unknownName text := by
  rw [parse_of_noInteger h hname]
  cases hfound : all.find? fun id => id.label.toList == name with
  | none => rfl
  | some id => exact absurd (find?_label_eq_some_iff.mp hfound) (hnone id)

/-! ## Texts that are read alike -/

/-- Two texts name the same clock, or both name none, which the refusal of each says of its own
text. -/
inductive ReadAlike (text other : String) : Prop
  | named {id : ClockId} : parse text = .ok id → parse other = .ok id → ReadAlike text other
  | unknown : parse text = unknownName text → parse other = unknownName other → ReadAlike text other

/-- Texts that give the same name are read alike. -/
theorem readAlike_of_sameName {text other : String} {name : List Char} (h : NoInteger text)
    (h' : NoInteger other) (hname : ClockName text.toList name)
    (hname' : ClockName other.toList name) : ReadAlike text other := by
  by_cases hfound : ∃ id : ClockId, id.label.toList = name
  · obtain ⟨id, hid⟩ := hfound
    exact .named ((parse_eq_ok_iff h hname).mpr hid) ((parse_eq_ok_iff h' hname').mpr hid)
  · have hnone : ∀ id : ClockId, id.label.toList ≠ name := fun id hid => hfound ⟨id, hid⟩
    exact .unknown (parse_eq_unknownName h hname hnone) (parse_eq_unknownName h' hname' hnone)

/-- The name of a text does not tell apart what its characters do not. -/
theorem canonicalName_congr {text other : List Char} (h : text.map nameChar = other.map nameChar) :
    canonicalName text = canonicalName other := by
  rw [canonicalName_eq_iff, ← Text.trimBlank_map isBlank_nameChar, h,
    Text.trimBlank_map isBlank_nameChar, ← canonicalName_eq_iff]

/-- What a change of characters does not tell apart counts the same in names, if each character does
so before and after it. -/
theorem map_nameChar_congr {f : Char → Char} (hf : ∀ c, nameChar (f c) = nameChar c)
    {text other : List Char} (h : text.map f = other.map f) :
    text.map nameChar = other.map nameChar := by
  have hsame (chars : List Char) : (chars.map f).map nameChar = chars.map nameChar := by
    rw [List.map_map]
    exact List.map_congr_left fun c _ => hf c
  rw [← hsame text, h, hsame other]

/-- Texts whose characters count the same in names are read alike. -/
theorem readAlike_of_map {text other : String} (h : NoInteger text) (h' : NoInteger other)
    (hmap : text.toList.map nameChar = other.toList.map nameChar) : ReadAlike text other :=
  readAlike_of_sameName h h' (clockName_iff.mpr rfl)
    (clockName_iff.mpr (canonicalName_congr hmap.symm))

/-- A change of case makes no integer. -/
theorem noInteger_of_sameCase {text other : String} (h : NoInteger text)
    (hcase : other.toList.map Char.toUpper = text.toList.map Char.toUpper) : NoInteger other := by
  intro n hn
  -- the characters of an integer are the capitals of nothing else
  have hself : other.toList.map Char.toUpper = other.toList := by
    refine (List.map_congr_left fun c hc => ?_).trans (List.map_id' _)
    have hrange := range_of_mem_numeral hn.1 hc
    exact toUpper_eq_self (by omega)
  have htext : text.toList.map Char.toUpper = text.toList := by
    refine (List.map_congr_left fun c hc => ?_).trans (List.map_id' _)
    have hmem : c.toUpper ∈ other.toList := by
      rw [← hself, hcase]
      exact List.mem_map_of_mem hc
    have hrange := range_of_mem_numeral hn.1 hmem
    exact (eq_of_toUpper_eq rfl (by omega)).symm
  rw [← hself, hcase, htext] at hn
  exact h n hn

/-- What may change about a text that is no integer without a change of what it names. -/
structure ReadsVariantsAlike (text : String) : Prop where
  /-- The case of ASCII letters. -/
  letterCase : ∀ other : String,
    other.toList.map Char.toUpper = text.toList.map Char.toUpper →
    NoInteger other ∧ ReadAlike text other
  /-- Dashes for underscores, as long as they do not make it an integer. -/
  dashes : ∀ other : String, NoInteger other →
    other.toList.map dashChar = text.toList.map dashChar → ReadAlike text other
  /-- White space at the ends. -/
  blanks : ∀ before after : List Char, (∀ c ∈ before, Text.isBlank c) →
    (∀ c ∈ after, Text.isBlank c) →
    NoInteger (.ofList (before ++ text.toList ++ after)) ∧
      ReadAlike text (.ofList (before ++ text.toList ++ after))
  /-- One `CLOCK_` in front of a text without white space at its ends that has none. -/
  clockPrefix : Text.Trimmed text.toList → ¬ clockPrefix <+: text.toList.map nameChar →
    NoInteger ("CLOCK_" ++ text) ∧ ReadAlike text ("CLOCK_" ++ text)

/-- A prefix of visible characters leaves a trimmed text trimmed. -/
theorem trimmed_clockPrefix_append {text : List Char} (h : Text.Trimmed text) :
    Text.Trimmed (clockPrefix ++ text) := by
  refine ⟨fun c hc => ?_, fun c hc => ?_⟩
  · rw [show clockPrefix = 'C' :: "LOCK_".toList by decide +kernel] at hc
    cases hc
    decide
  · cases hlast : text.getLast? with
    | none =>
      rw [List.getLast?_eq_none_iff.mp hlast, List.append_nil] at hc
      have hc : c = '_' := by
        rw [show clockPrefix.getLast? = some '_' by decide +kernel] at hc
        exact (Option.some.inj hc).symm
      subst hc
      decide
    | some d =>
      rw [List.getLast?_append, hlast, Option.some_or] at hc
      exact h.last c (hlast.trans hc)

theorem readsVariantsAlike {text : String} (h : NoInteger text) : ReadsVariantsAlike text where
  letterCase other hcase := by
    have hother := noInteger_of_sameCase h hcase
    exact ⟨hother, readAlike_of_map h hother (map_nameChar_congr nameChar_toUpper hcase.symm)⟩
  dashes other hother hdashes :=
    readAlike_of_map h hother (map_nameChar_congr nameChar_dashChar hdashes.symm)
  blanks before after hbefore hafter := by
    -- an integer has no white space in it, so there is none around it either
    have hother : NoInteger (.ofList (before ++ text.toList ++ after)) := by
      intro n hn
      rw [String.toList_ofList] at hn
      obtain ⟨rfl, rfl⟩ := eq_nil_of_numeral hn.1 hbefore hafter
      rw [List.nil_append, List.append_nil] at hn
      exact h n hn
    refine ⟨hother, readAlike_of_sameName h hother (clockName_iff.mpr rfl) (clockName_iff.mpr ?_)⟩
    rw [String.toList_ofList, canonicalName_eq_iff, Text.trimBlank_append hbefore _ hafter,
      ← canonicalName_eq_iff]
  clockPrefix htrimmed hnone := by
    have hlist : ("CLOCK_" ++ text).toList = clockPrefix ++ text.toList := String.toList_append
    -- no integer has the letters of the prefix
    have hother : NoInteger ("CLOCK_" ++ text) := by
      refine noInteger_of_letter (c := 'C') ?_ (by decide)
      rw [hlist]
      exact List.mem_append_left _ mem_clockPrefix
    have hname : ClockName text.toList (text.toList.map nameChar) := by
      simpa using ClockName.bare (List.forall_mem_nil _) htrimmed (List.forall_mem_nil _) hnone
    -- behind the prefix stands the same name
    have hprefixed : ClockName ("CLOCK_" ++ text).toList (text.toList.map nameChar) := by
      rw [hlist]
      have hmap : (clockPrefix ++ text.toList).map nameChar =
          clockPrefix ++ text.toList.map nameChar := by
        rw [List.map_append, show clockPrefix.map nameChar = clockPrefix by decide +kernel]
      simpa using ClockName.prefixed (List.forall_mem_nil _)
        (trimmed_clockPrefix_append htrimmed) (List.forall_mem_nil _) hmap
    exact ⟨hother, readAlike_of_sameName h hother hname hprefixed⟩

/-! ## Texts that are refused -/

/-- The header name of every clock has a letter behind its prefix. -/
theorem exists_letter_label (id : ClockId) :
    ∃ c ∈ id.label.toList, 65 ≤ c.toNat ∧ c.toNat ≤ 90 := by
  have hall : ∀ id ∈ all, id.label.toList.any fun c => 65 ≤ c.toNat ∧ c.toNat ≤ 90 := by
    decide +kernel
  simpa using hall id (mem_all id)

/-- The characters of an integer are no letters, also as names are compared. -/
theorem nameChar_of_mem_numeral {text : List Char} {n : ℤ} (h : Text.Numeral text n) {c : Char}
    (hmem : c ∈ text.map nameChar) : ¬ (65 ≤ c.toNat ∧ c.toNat ≤ 90) := by
  obtain ⟨d, hd, rfl⟩ := List.mem_map.mp hmem
  have hrange := range_of_mem_numeral h hd
  by_cases hdash : d = '-'
  · subst hdash
    decide
  · rw [nameChar, if_neg hdash, toUpper_eq_self (by omega)]
    omega

/-- An integer with white space around it names no clock. -/
theorem parse_of_blank_numeral {before digits after : List Char} {n : ℤ}
    (hbefore : ∀ c ∈ before, Text.isBlank c) (hdigits : Text.Numeral digits n)
    (hafter : ∀ c ∈ after, Text.isBlank c) (hne : ¬ (before = [] ∧ after = [])) :
    parse (.ofList (before ++ digits ++ after)) =
      unknownName (.ofList (before ++ digits ++ after)) := by
  have hnone : ¬ clockPrefix <+: digits.map nameChar := by
    intro hfront
    exact nameChar_of_mem_numeral hdigits (hfront.subset mem_clockPrefix) (by decide)
  have hname : ClockName (String.ofList (before ++ digits ++ after)).toList
      (digits.map nameChar) := by
    rw [String.toList_ofList]
    exact .bare hbefore
      (Text.trimmed_of_forall fun c hc => isBlank_of_mem_numeral hdigits hc) hafter hnone
  refine parse_eq_unknownName (fun m hm => hne ?_) hname fun id hid => ?_
  · rw [String.toList_ofList] at hm
    exact eq_nil_of_numeral hm.1 hbefore hafter
  · obtain ⟨c, hc, hletter⟩ := exists_letter_label id
    exact nameChar_of_mem_numeral hdigits (hid ▸ hc) hletter

/-- A name that still has the prefix names no clock. -/
theorem parse_of_two_prefixes {text : String} {rest : List Char}
    (hname : ClockName text.toList (clockPrefix ++ rest)) : parse text = unknownName text := by
  have hone : ∀ id ∈ all, ¬ clockPrefix <+: id.label.toList := by decide +kernel
  obtain ⟨d, hd, hletter⟩ := hname.exists_letter
    (List.mem_append_left rest mem_clockPrefix) (by decide) (by decide)
  refine parse_eq_unknownName (noInteger_of_letter hd hletter) hname fun id hid => ?_
  exact hone id (mem_all id) (hid ▸ List.prefix_append clockPrefix rest)

/-! ## The grammar -/

/-- The name of a clock is its header name without the prefix. -/
theorem label_eq_iff {id : ClockId} {name : List Char} :
    id.label.toList = name ↔ id.name.toList = clockPrefix ++ name := by
  rw [ClockId.name, String.toList_append]
  exact (List.append_right_inj clockPrefix).symm

/-- A text is read as an integer if it is one of 32 bits, and names the clock with that identifier
or is refused with the number. Every other text gives exactly one name, and names the clock whose
header name it is behind the prefix or is refused with the text. Such a text may be varied in case,
dashes, white space and one prefix; but an integer with white space around it is refused, and so is
a name behind two prefixes. -/
theorem parse_acceptsClockTexts :
    (∀ (text : String) (n : ℤ), IntegerText text.toList n →
      (∀ id : ClockId, parse text = .ok id ↔ n = id.raw.toInt) ∧
        ((∀ id : ClockId, n ≠ id.raw.toInt) →
          ∃ raw : Int32, raw.toInt = n ∧ parse text = .error (.invalidClock raw))) ∧
      (∀ text : String, NoInteger text →
        ∃ name, (∀ other, ClockName text.toList other ↔ other = name) ∧
          (∀ id : ClockId, parse text = .ok id ↔ id.name.toList = clockPrefix ++ name) ∧
          ((∀ id : ClockId, id.name.toList ≠ clockPrefix ++ name) →
            parse text = unknownName text) ∧
          ReadsVariantsAlike text) ∧
      (∀ (before digits after : List Char) (n : ℤ), Text.Numeral digits n →
        (∀ c ∈ before, Text.isBlank c) → (∀ c ∈ after, Text.isBlank c) →
        ¬ (before = [] ∧ after = []) →
        parse (.ofList (before ++ digits ++ after)) =
          unknownName (.ofList (before ++ digits ++ after))) ∧
      ∀ (text : String) (rest : List Char), ClockName text.toList (clockPrefix ++ rest) →
        parse text = unknownName text := by
  refine ⟨fun text n h => ?_, fun text h => ?_, ?_, fun text rest => parse_of_two_prefixes⟩
  · have hraw : (Int32.ofInt n).toInt = n :=
      Int32.toInt_ofInt_of_le h.2.1 (Int.lt_of_le_of_lt h.2.2 (by decide))
    have hsame (id : ClockId) : id.raw = .ofInt n ↔ n = id.raw.toInt := by
      rw [← Int32.toInt_inj, hraw, eq_comm]
    rw [parse_of_integerText h]
    refine ⟨fun id => ofRaw_eq_ok_iff.trans (hsame id), fun hnone => ⟨.ofInt n, hraw, ?_⟩⟩
    exact ofRaw_eq_error fun id hid => hnone id ((hsame id).mp hid)
  · have hname : ClockName text.toList (canonicalName text.toList) := clockName_iff.mpr rfl
    refine ⟨canonicalName text.toList, fun other => clockName_iff.trans eq_comm, fun id => ?_,
      fun hnone => ?_, readsVariantsAlike h⟩
    · rw [← label_eq_iff]
      exact parse_eq_ok_iff h hname
    · exact parse_eq_unknownName h hname fun id hid => hnone id (label_eq_iff.mp hid)
  · intro before digits after n hdigits hbefore hafter hne
    exact parse_of_blank_numeral hbefore hdigits hafter hne

/-- A sign is read, and so is a name in mixed case, with dashes, a prefix and white space around it.
White space around the integer is not read, nor a second prefix. -/
theorem looseName_acceptsClockTexts :
    IntegerText "+6".toList 6 ∧ parse "+6" = .ok .monotonic ∧
      NoInteger " clock-Monotonic-RAW\t" ∧
      parse " clock-Monotonic-RAW\t" = .ok .monotonicRaw ∧
      Text.Numeral ['6'] 6 ∧ (∀ c ∈ [' '], Text.isBlank c) ∧ parse " 6" = unknownName " 6" ∧
      ClockName "CLOCK_clock-monotonic".toList (clockPrefix ++ "MONOTONIC".toList) ∧
      parse "CLOCK_clock-monotonic" = unknownName "CLOCK_clock-monotonic" := by
  obtain ⟨hintegers, hnames, hblanks, hprefixes⟩ := parse_acceptsClockTexts
  have hsix : Text.Numeral ['6'] 6 := .unsigned ⟨by decide, List.all_eq_true.mp rfl, rfl⟩
  have hplus : IntegerText "+6".toList 6 :=
    ⟨.plus ⟨by decide, List.all_eq_true.mp rfl, rfl⟩, by decide, by decide⟩
  have hloose : NoInteger " clock-Monotonic-RAW\t" :=
    noInteger_of_letter (c := 'c') (by decide +kernel) (by decide)
  have hblank : ∀ c ∈ [' '], Text.isBlank c := List.all_eq_true.mp rfl
  have htwo : ClockName "CLOCK_clock-monotonic".toList (clockPrefix ++ "MONOTONIC".toList) :=
    clockName_iff.mpr (by decide +kernel)
  obtain ⟨name, hname, hfound, -, -⟩ := hnames _ hloose
  have hraw : "MONOTONIC_RAW".toList = name :=
    (hname _).mp (clockName_iff.mpr (by decide +kernel))
  refine ⟨hplus, ((hintegers _ 6 hplus).1 .monotonic).mpr (by decide), hloose, ?_, hsix, hblank,
    hblanks [' '] ['6'] [] 6 hsix hblank (by simp) (by simp), htwo, hprefixes _ _ htwo⟩
  rw [hfound, ← hraw]
  decide +kernel

end SoftClock.ClockId
