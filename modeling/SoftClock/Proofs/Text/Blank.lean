import SoftClock.Proofs.Text.Characters

/-!
# White Space at the Ends of a Text

What is left of a text when the white space at its two ends is taken away.

* `Trimmed` texts have none there. Taking it away leaves a trimmed text between runs of white space
  (`eq_append_trimBlank`), and there is only one way to split a text like that
  (`trimBlank_of_trimmed`).
* `trimBlank_map`: replacing characters that are no white space does not change what is taken away.
-/

namespace SoftClock.Text

/-- A visible character of ASCII is no white space. -/
theorem isBlank_of_visible {c : Char} (hlow : 0x21 ≤ c.toNat) (hhigh : c.toNat ≤ 0x7e) :
    isBlank c = false := by
  simp only [isBlank, blankRanges, List.any_cons, List.any_nil, Bool.or_false, Bool.or_eq_false_iff,
    Bool.and_eq_false_iff, decide_eq_false_iff_not]
  omega

/-- No white space stands at either end of a text. -/
structure Trimmed (text : List Char) : Prop where
  head : ∀ c, text.head? = some c → isBlank c = false
  last : ∀ c, text.getLast? = some c → isBlank c = false

theorem trimmed_of_forall {text : List Char} (h : ∀ c ∈ text, isBlank c = false) :
    Trimmed text where
  head c hc := h c (List.mem_of_head? hc)
  last c hc := h c (List.mem_of_getLast? hc)

/-- What is left behind a run of white space does not start with white space. -/
theorem isBlank_head_dropWhile (text : List Char) {c : Char}
    (hc : (text.dropWhile isBlank).head? = some c) : isBlank c = false := by
  have hstop := List.head?_dropWhile_not isBlank text
  rwa [hc] at hstop

/-- Only a trimmed text is left between two runs of white space. -/
theorem trimBlank_of_trimmed {before body after : List Char} (hbefore : ∀ c ∈ before, isBlank c)
    (hbody : Trimmed body) (hafter : ∀ c ∈ after, isBlank c) :
    trimBlank (before ++ body ++ after) = body := by
  have hback : ∀ c ∈ after.reverse, isBlank c := fun c hc => hafter c (List.mem_reverse.mp hc)
  cases hnil : body with
  | nil =>
    have hall : ∀ c ∈ before ++ [] ++ after, isBlank c := by
      intro c hc
      rw [List.append_nil] at hc
      exact (List.mem_append.mp hc).elim (hbefore c) (hafter c)
    have hstop : ∀ c, ([] : List Char).head? = some c → isBlank c = false := by simp
    have hspan := span_of_stop hall hstop
    rw [List.append_nil (before ++ [] ++ after)] at hspan
    rw [trimBlank, hspan.2]
    rfl
  | cons first rest =>
    -- the white space in front stops at the first character, that behind at the last one
    have hfirst : ∀ c, (body ++ after).head? = some c → isBlank c = false := by
      intro c hc
      rw [hnil, List.cons_append, List.head?_cons, Option.some.injEq] at hc
      exact hbody.head c (by rw [hnil, List.head?_cons, hc])
    have hlast : ∀ c, body.reverse.head? = some c → isBlank c = false := by
      intro c hc
      rw [List.head?_reverse] at hc
      exact hbody.last c hc
    rw [← hnil, trimBlank, List.append_assoc, (span_of_stop hbefore hfirst).2, List.reverse_append,
      (span_of_stop hback hlast).2, List.reverse_reverse]

/-- A text is what is left of it between two runs of white space. -/
theorem eq_append_trimBlank (text : List Char) :
    ∃ before after, text = before ++ trimBlank text ++ after ∧ (∀ c ∈ before, isBlank c) ∧
      Trimmed (trimBlank text) ∧ ∀ c ∈ after, isBlank c := by
  have hfront : text.takeWhile isBlank ++ text.dropWhile isBlank = text :=
    List.takeWhile_append_dropWhile
  obtain ⟨rest, hrest⟩ : ∃ rest, rest = text.dropWhile isBlank := ⟨_, rfl⟩
  have hend : rest.reverse.takeWhile isBlank ++ rest.reverse.dropWhile isBlank = rest.reverse :=
    List.takeWhile_append_dropWhile
  have hsplit : rest = trimBlank text ++ (rest.reverse.takeWhile isBlank).reverse := by
    rw [trimBlank, ← hrest, ← List.reverse_append, hend, List.reverse_reverse]
  refine ⟨text.takeWhile isBlank, (rest.reverse.takeWhile isBlank).reverse, ?_, ?_, ⟨?_, ?_⟩, ?_⟩
  · rw [List.append_assoc, ← hsplit, hrest, hfront]
  · exact List.all_eq_true.mp List.all_takeWhile
  · intro c hc
    refine isBlank_head_dropWhile text ?_
    rw [← hrest, hsplit, List.head?_append, hc, Option.some_or]
  · intro c hc
    rw [trimBlank, ← hrest, List.getLast?_reverse] at hc
    exact isBlank_head_dropWhile rest.reverse hc
  · exact fun c hc => List.all_eq_true.mp List.all_takeWhile c (List.mem_reverse.mp hc)

/-- More white space at the ends is taken away as well. -/
theorem trimBlank_append {before after : List Char} (hbefore : ∀ c ∈ before, isBlank c)
    (text : List Char) (hafter : ∀ c ∈ after, isBlank c) :
    trimBlank (before ++ text ++ after) = trimBlank text := by
  obtain ⟨front, back, htext, hfront, hbody, hback⟩ := eq_append_trimBlank text
  have hregroup :
      before ++ text ++ after = (before ++ front) ++ trimBlank text ++ (back ++ after) := by
    calc before ++ text ++ after
        = before ++ (front ++ trimBlank text ++ back) ++ after := by rw [← htext]
      _ = (before ++ front) ++ trimBlank text ++ (back ++ after) := by simp only [List.append_assoc]
  rw [hregroup]
  refine trimBlank_of_trimmed ?_ hbody ?_
  · exact fun c hc => (List.mem_append.mp hc).elim (hbefore c) (hfront c)
  · exact fun c hc => (List.mem_append.mp hc).elim (hback c) (hafter c)

/-- Replacing characters leaves the same part of a text, if white space stays white space. -/
theorem trimBlank_map {f : Char → Char} (hf : ∀ c, isBlank (f c) = isBlank c) (text : List Char) :
    trimBlank (text.map f) = (trimBlank text).map f := by
  have hcomp : isBlank ∘ f = isBlank := funext hf
  rw [trimBlank, trimBlank, List.dropWhile_map, hcomp, ← List.map_reverse, List.dropWhile_map,
    hcomp, ← List.map_reverse]

end SoftClock.Text
