import SoftClock.Proofs.Toml.Scalar
import SoftClock.Toml.Document

/-!
# Documents of Plain Lines

A document of lines `key = value`, each with a key without quotation marks and a scalar, is read as
its entries in order, as long as no key stands there twice (`Toml.parse?_lines`).
-/

namespace SoftClock.Toml

/-- A line with a key and the text of a value, and what the value is read as. -/
structure Line where
  key : String
  text : List Char
  value : Toml

namespace Line

/-- The characters of a line. -/
def chars (line : Line) : List Char := line.key.toList ++ ' ' :: '=' :: ' ' :: line.text ++ ['\n']

/-- The entry that a line adds. -/
def entry (line : Line) : String × Toml := (line.key, line.value)

/-- A line whose key needs no quotation marks, and whose value is the scalar in its text. -/
structure Plain (line : Line) : Prop where
  key : Text.MadeOf isBareKeyChar line.key
  head : ∃ c cs, line.text = c :: cs ∧ c ≠ '[' ∧ c ≠ '\x7b' ∧ isSpace c = false
  read : ∀ rest, readScalar (line.text ++ '\n' :: rest) = some (line.value, '\n' :: rest)

variable {line : Line}

/-- A character of a key starts no other kind of line and no other kind of key. -/
theorem ne_of_isBareKeyChar {c : Char} (hbare : isBareKeyChar c) :
    isSpace c = false ∧ c ≠ '"' ∧ c ≠ '\'' ∧ c ≠ '#' ∧ c ≠ '\n' ∧ c ≠ '\r' ∧ c ≠ '[' ∧
      c ≠ '\ufeff' := by
  have hne {d : Char} (hd : isBareKeyChar d = false) : c ≠ d := Text.ne_of_test hbare hd
  refine ⟨?_, hne (by decide), hne (by decide), hne (by decide), hne (by decide), hne (by decide),
    hne (by decide), hne (by decide)⟩
  simp [isSpace, hne (d := ' ') (by decide), hne (d := '\t') (by decide)]

/-- A line in front of more text. -/
theorem chars_append (line : Line) (rest : List Char) :
    line.chars ++ rest = line.key.toList ++ ' ' :: '=' :: ' ' :: (line.text ++ '\n' :: rest) := by
  simp [chars]

/-- A line starts with a character of its key. -/
theorem chars_eq_cons (hplain : line.Plain) (rest : List Char) :
    ∃ c cs, line.chars ++ rest = c :: cs ∧ isBareKeyChar c := by
  obtain ⟨c, cs, hkey⟩ := List.exists_cons_of_ne_nil hplain.key.ne_nil
  refine ⟨c, cs ++ ' ' :: '=' :: ' ' :: (line.text ++ '\n' :: rest), ?_,
    hplain.key.pass c (by rw [hkey]; exact List.mem_cons_self)⟩
  rw [chars_append, hkey]
  rfl

/-- A line has no space in front. -/
theorem skipSpace_chars (hplain : line.Plain) (rest : List Char) :
    skipSpace (line.chars ++ rest) = line.chars ++ rest := by
  obtain ⟨c, cs, hchars, hbare⟩ := chars_eq_cons hplain rest
  rw [hchars, skipSpace, List.dropWhile_cons_of_neg (by simp [(ne_of_isBareKeyChar hbare).1])]

/-- The key of a line is one part. -/
theorem readKeyPart_chars (hplain : line.Plain) (rest : List Char) :
    readKeyPart (line.chars ++ rest) =
      some (line.key, ' ' :: '=' :: ' ' :: (line.text ++ '\n' :: rest)) := by
  have hstop : ∀ c, (' ' :: '=' :: ' ' :: (line.text ++ '\n' :: rest)).head? = some c →
      isBareKeyChar c = false := by
    intro c hc
    cases hc
    decide
  obtain ⟨htake, hdrop⟩ := Text.span_of_stop hplain.key.pass hstop
  rw [← chars_append] at htake hdrop
  obtain ⟨c, cs, hchars, hbare⟩ := chars_eq_cons hplain rest
  obtain ⟨-, hmark, happos, -⟩ := ne_of_isBareKeyChar hbare
  rw [hchars] at htake hdrop ⊢
  simp [readKeyPart, hmark, happos, htake, hdrop, hplain.key.ne_nil]

/-- The key of a line is read up to its equals sign. -/
theorem readKey_chars (hplain : line.Plain) (rest : List Char) :
    readKey (line.chars ++ rest) =
      some ([], line.key, '=' :: ' ' :: (line.text ++ '\n' :: rest)) := by
  have hparts : readKeyParts (78 + 1) (line.chars ++ rest) =
      some ([line.key], '=' :: ' ' :: (line.text ++ '\n' :: rest)) := by
    have hskip : skipSpace (' ' :: '=' :: ' ' :: (line.text ++ '\n' :: rest)) =
        '=' :: ' ' :: (line.text ++ '\n' :: rest) := by
      simp [skipSpace, isSpace]
    rw [readKeyParts, skipSpace_chars hplain, readKeyPart_chars hplain]
    simp only [hskip]
    rfl
  rw [readKey, show depthLimit - 1 = 78 + 1 from rfl, hparts]
  rfl

/-- The value of a line is read up to the end of the line. -/
theorem readValue_text (hplain : line.Plain) (fuel depth : ℕ) (rest : List Char) :
    readValue (fuel + 1) depth (line.text ++ '\n' :: rest) =
      some (line.value, '\n' :: rest) := by
  obtain ⟨c, cs, htext, hbracket, hbrace, -⟩ := hplain.head
  have hread := hplain.read rest
  rw [htext, List.cons_append] at hread ⊢
  simp [readValue, hbracket, hbrace, hread]

/-- A line is read to its end. -/
theorem readEntry_chars (hplain : line.Plain) (fuel : ℕ) (rest : List Char) :
    readEntry (fuel + 1) (line.chars ++ rest) = some ([], line.key, line.value, rest) := by
  have hskip : skipSpace (' ' :: (line.text ++ '\n' :: rest)) = line.text ++ '\n' :: rest := by
    obtain ⟨c, cs, htext, -, -, hspace⟩ := hplain.head
    rw [htext]
    simp [skipSpace, hspace, show isSpace ' ' = true by decide]
  have hend : endLine? ('\n' :: rest) = some rest := by
    simp [endLine?, skipSpace, isSpace, newLine?]
  rw [readEntry, readKey_chars hplain]
  simp only [hskip, readValue_text hplain, hend]
  rfl

/-- A key that is not there yet is added at the end. -/
theorem addEntry_new {draft : TomlDraft} (hnew : draft.current.lookup line.key = none) :
    draft.addEntry [] line.key line.value =
      some { draft with current := draft.current ++ [line.entry] } := by
  simp [TomlDraft.addEntry, TomlEntries.insert, TomlEntries.descend, hnew, entry]

/-- A line adds its entry, where its key is new. -/
theorem readLines_chars (hplain : line.Plain) (fuel : ℕ) {draft : TomlDraft}
    (hnew : draft.current.lookup line.key = none) (rest : List Char) :
    readLines (fuel + 2) draft (line.chars ++ rest) =
      readLines (fuel + 1) { draft with current := draft.current ++ [line.entry] } rest := by
  have hskip := skipSpace_chars hplain rest
  have hentry := readEntry_chars hplain fuel rest
  obtain ⟨c, cs, hchars, hbare⟩ := chars_eq_cons hplain rest
  obtain ⟨-, -, -, hcomment, hline, hreturn, hbracket, -⟩ := ne_of_isBareKeyChar hbare
  rw [hchars] at hskip hentry ⊢
  rw [readLines, hskip]
  simp [hcomment, hline, hreturn, hbracket, hentry, addEntry_new hnew]

end Line

/-- Plain lines add their entries in order, where their keys are new and differ. -/
theorem readLines_lines {lines : List Line} (hplain : ∀ line ∈ lines, line.Plain) {fuel : ℕ}
    (hfuel : lines.length + 1 < fuel) {draft : TomlDraft}
    (hkeys : (draft.current ++ lines.map Line.entry).Pairwise fun a b => a.1 ≠ b.1) :
    readLines fuel draft (lines.flatMap Line.chars) =
      some { draft with current := draft.current ++ lines.map Line.entry } := by
  induction lines generalizing fuel draft with
  | nil =>
    obtain ⟨fuel, rfl⟩ : ∃ n, fuel = n + 1 := Nat.exists_eq_add_one.mpr (by omega)
    simp [readLines, skipSpace]
  | cons line lines ih =>
    obtain ⟨fuel, rfl⟩ : ∃ n, fuel = n + 2 := ⟨fuel - 2, by omega⟩
    have hnew : draft.current.lookup line.key = none := by
      refine List.lookup_eq_none_iff.mpr fun entry hmem => ?_
      have hne := (List.pairwise_append.mp hkeys).2.2 entry hmem line.entry List.mem_cons_self
      simpa [Line.entry] using Ne.symm hne
    rw [List.flatMap_cons, Line.readLines_chars (hplain line List.mem_cons_self) fuel hnew,
      ih (fun l hl => hplain l (List.mem_cons_of_mem _ hl)) (by simpa using hfuel)
        (by simpa using hkeys)]
    simp

/-- There are no fewer characters than lines. -/
theorem length_le_length_chars (lines : List Line) :
    lines.length ≤ (lines.flatMap Line.chars).length := by
  induction lines with
  | nil => exact Nat.le_refl 0
  | cons line lines ih =>
    simp only [List.flatMap_cons, List.length_cons, List.length_append, Line.chars]
    omega

/-- A document of plain lines with different keys is read as their entries. -/
theorem parse?_lines {text : String} {lines : List Line}
    (htext : text.toList = lines.flatMap Line.chars) (hplain : ∀ line ∈ lines, line.Plain)
    (hkeys : (lines.map Line.entry).Pairwise fun a b => a.1 ≠ b.1) :
    parse? text = some (lines.map Line.entry) := by
  have hmark : dropByteOrderMark text.toList = text.toList := by
    rw [htext]
    -- a line begins with a character of its key, which is no mark
    cases lines with
    | nil => rfl
    | cons line lines =>
      obtain ⟨c, cs, hchars, hbare⟩ :=
        Line.chars_eq_cons (hplain line List.mem_cons_self) (lines.flatMap Line.chars)
      obtain ⟨-, -, -, -, -, -, -, hne⟩ := Line.ne_of_isBareKeyChar hbare
      rw [List.flatMap_cons, hchars]
      simp [dropByteOrderMark, hne]
  have hlength : lines.length ≤ text.toList.length := by
    rw [htext]
    exact length_le_length_chars lines
  have hfuel : lines.length + 1 < text.toList.length + 2 := by omega
  have hempty : (({} : TomlDraft).current ++ lines.map Line.entry).Pairwise
      fun a b => a.1 ≠ b.1 := by
    simpa using hkeys
  have hread := readLines_lines hplain hfuel hempty
  rw [parse?, hmark]
  rw [htext] at hread ⊢
  rw [hread]
  rfl

end SoftClock.Toml
