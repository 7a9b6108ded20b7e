import SchemaShift.Text.Case

/-!
# Searching in text

Occurrences of one text in another, at its start or anywhere, and the part in front of a
separator.

* `containsChars_iff`: a text contains another exactly when it is that one with something in front
  and something behind.
-/

namespace SchemaShift.Text

/-- Whether a text starts with another. -/
def startsWith (start text : String) : Bool := start.toList.isPrefixOf text.toList

/-- Whether a text contains another. -/
def containsChars (needle : List Char) : List Char → Bool
  | [] => needle.isEmpty
  | c :: cs => needle.isPrefixOf (c :: cs) || containsChars needle cs

/-- Whether a text contains another. -/
def contains (needle text : String) : Bool := containsChars needle.toList text.toList

/-- The part of a text in front of the first occurrence of a separator, or the whole text. -/
def beforeChars (separator : List Char) : List Char → List Char
  | [] => []
  | c :: cs =>
    if separator.isPrefixOf (c :: cs) then [] else c :: beforeChars separator cs

theorem containsChars_iff {needle text : List Char} :
    containsChars needle text = true ↔ ∃ before after, text = before ++ needle ++ after := by
  induction text with
  | nil =>
    simp only [containsChars, List.isEmpty_iff]
    constructor
    · rintro rfl; exact ⟨[], [], rfl⟩
    · rintro ⟨before, after, h⟩; simp_all
  | cons c cs ih =>
    simp only [containsChars, Bool.or_eq_true, List.isPrefixOf_iff_prefix, ih]
    constructor
    · rintro (⟨after, h⟩ | ⟨before, after, h⟩)
      · exact ⟨[], after, by simpa using h.symm⟩
      · exact ⟨c :: before, after, by simp [h]⟩
    · rintro ⟨before, after, h⟩
      cases before with
      | nil => exact .inl ⟨after, by simpa using h.symm⟩
      | cons d before =>
        simp only [List.cons_append, List.cons.injEq] at h
        exact .inr ⟨before, after, h.2⟩

end SchemaShift.Text
