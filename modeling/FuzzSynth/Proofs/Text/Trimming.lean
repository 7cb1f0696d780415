/-
Trimming.

What trimming leaves has no blanks at its ends, and a text is that with blanks around it
(`exists_blanks_append_trim`).  So blanks around a text make no difference to what trimming
leaves (`trim_append_blanks`), and in front of a text that is not blank nothing is trimmed on
the right.
-/
import Mathlib.Data.List.TakeWhile
import FuzzSynth.Text.Blank

namespace FuzzSynth.Text

/-! ## Texts without blanks at their ends -/

@[simp] theorem trimLeft_cons_blank {c : Char} (h : isBlank c = true) (cs : List Char) :
    trimLeft (c :: cs) = trimLeft cs := by
  simp [trimLeft, h]

theorem trimLeft_eq_self {cs : List Char} (h : ∀ c ∈ cs.head?, isBlank c = false) :
    trimLeft cs = cs := by
  cases cs with
  | nil => rfl
  | cons c rest => simp [trimLeft, h c rfl]

theorem trimRight_eq_self {cs : List Char} (h : ∀ c ∈ cs.getLast?, isBlank c = false) :
    trimRight cs = cs := by
  have hhead : ∀ c ∈ cs.reverse.head?, isBlank c = false := by
    simpa [List.head?_reverse] using h
  have hself : cs.reverse.dropWhile isBlank = cs.reverse := trimLeft_eq_self hhead
  rw [trimRight, hself, List.reverse_reverse]

/-- A text without blanks at its ends is not changed by trimming. -/
theorem trim_eq_self {cs : List Char} (hhead : ∀ c ∈ cs.head?, isBlank c = false)
    (hlast : ∀ c ∈ cs.getLast?, isBlank c = false) : trim cs = cs := by
  rw [trim, trimLeft_eq_self hhead, trimRight_eq_self hlast]

theorem trim_cons_blank {c : Char} (h : isBlank c = true) (cs : List Char) :
    trim (c :: cs) = trim cs := by
  rw [trim, trimLeft_cons_blank h, trim]

/-! ## Blanks around a text -/

/-- A text of blanks only. -/
def IsBlankText (text : List Char) : Prop :=
  ∀ c ∈ text, isBlank c = true

theorem isBlankText_nil : IsBlankText [] := by
  simp [IsBlankText]

theorem IsBlankText.append {s t : List Char} (hs : IsBlankText s) (ht : IsBlankText t) :
    IsBlankText (s ++ t) := by
  intro c hc
  exact (List.mem_append.mp hc).elim (hs c) (ht c)

theorem trimLeft_append_of_isBlankText {front : List Char} (h : IsBlankText front)
    (text : List Char) : trimLeft (front ++ text) = trimLeft text := by
  have hfront : front.dropWhile isBlank = [] := List.dropWhile_eq_nil_iff.mpr h
  rw [trimLeft, List.dropWhile_append, hfront, List.isEmpty_nil, if_pos rfl,
    trimLeft]

theorem trimRight_append_of_isBlankText {back : List Char} (h : IsBlankText back)
    (text : List Char) : trimRight (text ++ back) = trimRight text := by
  have hback : trimLeft (back.reverse ++ text.reverse) = trimLeft text.reverse :=
    trimLeft_append_of_isBlankText (fun c hc => h c (List.mem_reverse.mp hc)) _
  rw [trimRight, List.reverse_append, ← trimLeft, hback, trimLeft, trimRight]

/-- Blanks on the left and on the right are left off independently. -/
theorem trimLeft_append {text : List Char} (h : trimLeft text ≠ []) (back : List Char) :
    trimLeft (text ++ back) = trimLeft text ++ back := by
  rw [trimLeft, List.dropWhile_append, if_neg (by simpa [trimLeft] using h), trimLeft]

theorem trimRight_append {text : List Char} (h : trimRight text ≠ []) (front : List Char) :
    trimRight (front ++ text) = front ++ trimRight text := by
  have hreverse : trimLeft text.reverse ≠ [] := by simpa [trimRight, trimLeft] using h
  rw [trimRight, List.reverse_append, ← trimLeft, trimLeft_append hreverse, List.reverse_append,
    List.reverse_reverse, trimLeft, trimRight]

theorem IsBlankText.trim_eq_nil {text : List Char} (h : IsBlankText text) : trim text = [] := by
  rw [trim, ← List.append_nil text, trimLeft_append_of_isBlankText h]
  rfl

theorem exists_append_trimLeft (text : List Char) :
    ∃ blanks, blanks ++ trimLeft text = text ∧ IsBlankText blanks :=
  ⟨text.takeWhile isBlank, List.takeWhile_append_dropWhile, fun _ hc => List.mem_takeWhile_imp hc⟩

theorem exists_trimRight_append (text : List Char) :
    ∃ blanks, trimRight text ++ blanks = text ∧ IsBlankText blanks := by
  refine ⟨(text.reverse.takeWhile isBlank).reverse, ?_, fun c hc => ?_⟩
  · rw [trimRight, ← List.reverse_append, List.takeWhile_append_dropWhile, List.reverse_reverse]
  · exact List.mem_takeWhile_imp (List.mem_reverse.mp hc)

/-- A text is what trimming leaves of it with blanks around. -/
theorem exists_blanks_append_trim (text : List Char) :
    ∃ front back, IsBlankText front ∧ IsBlankText back ∧ front ++ trim text ++ back = text := by
  obtain ⟨front, hleft, hfront⟩ := exists_append_trimLeft text
  obtain ⟨back, hright, hback⟩ := exists_trimRight_append (trimLeft text)
  exact ⟨front, back, hfront, hback, by rw [trim, List.append_assoc, hright, hleft]⟩

/-- Nothing is left of the blanks in front. -/
theorem trimLeft_trim (text : List Char) : trimLeft (trim text) = trim text := by
  obtain ⟨back, hright, -⟩ := exists_trimRight_append (trimLeft text)
  refine trimLeft_eq_self fun c hc => ?_
  obtain ⟨rest, heq⟩ := List.head?_eq_some_iff.mp hc
  have hhead := List.head?_dropWhile_not isBlank text
  rw [← trimLeft, ← hright, ← trim, heq] at hhead
  exact hhead

theorem isBlankText_of_trim_eq_nil {text : List Char} (h : trim text = []) : IsBlankText text := by
  obtain ⟨front, back, hfront, hback, heq⟩ := exists_blanks_append_trim text
  rw [h, List.append_nil] at heq
  rw [← heq]
  exact fun c hc => (List.mem_append.mp hc).elim (hfront c) (hback c)

/-- Blanks around a text change nothing of what trimming leaves. -/
theorem trim_append_blanks {front back : List Char} (hfront : IsBlankText front)
    (hback : IsBlankText back) (text : List Char) : trim (front ++ text ++ back) = trim text := by
  rw [List.append_assoc, trim, trimLeft_append_of_isBlankText hfront]
  cases htext : trimLeft text with
  | nil =>
      have hblank : IsBlankText text := List.dropWhile_eq_nil_iff.mp htext
      rw [trimLeft_append_of_isBlankText hblank, ← trim, hback.trim_eq_nil, trim, htext]
      rfl
  | cons c rest =>
      rw [trimLeft_append (by simp [htext]), trimRight_append_of_isBlankText hback, trim]

/-- On the right, what trimming leaves is left of a text that is not blank. -/
theorem exists_append_trim_eq_trimRight {text : List Char} (h : trim text ≠ []) :
    ∃ front, IsBlankText front ∧ trimRight text = front ++ trim text := by
  obtain ⟨front, hleft, hfront⟩ := exists_append_trimLeft text
  exact ⟨front, hfront, (congrArg trimRight hleft).symm.trans (trimRight_append h front)⟩

theorem trimLeft_trimRight {text : List Char} (h : trim text ≠ []) :
    trimLeft (trimRight text) = trim text := by
  obtain ⟨front, hfront, heq⟩ := exists_append_trim_eq_trimRight h
  rw [heq, trimLeft_append_of_isBlankText hfront, trimLeft_trim]

theorem trim_trimRight (text : List Char) : trim (trimRight text) = trim text := by
  obtain ⟨back, hright, hback⟩ := exists_trimRight_append text
  have htrim := trim_append_blanks isBlankText_nil hback (trimRight text)
  exact htrim.symm.trans (congrArg trim hright)

theorem head?_trimRight {text : List Char} (h : trim text ≠ []) :
    (trimRight text).head? = text.head? := by
  obtain ⟨back, hright, -⟩ := exists_trimRight_append text
  obtain ⟨front, -, heq⟩ := exists_append_trim_eq_trimRight h
  have hne : trimRight text ≠ [] := by simp [heq, h]
  obtain ⟨c, rest, hcons⟩ := List.exists_cons_of_ne_nil hne
  rw [hcons] at hright ⊢
  rw [← hright]
  rfl

/-- A character that is not blank keeps everything behind it but blanks at the end. -/
theorem trim_cons_append {c : Char} (hc : isBlank c = false) {text : List Char} (h : trim text ≠ [])
    (lead : List Char) : trim (c :: (lead ++ text)) = c :: (lead ++ trimRight text) := by
  obtain ⟨front, -, heq⟩ := exists_append_trim_eq_trimRight h
  have hleft : trimLeft (c :: (lead ++ text)) = c :: (lead ++ text) :=
    trimLeft_eq_self fun d hd => by
      obtain rfl : c = d := by simpa using hd
      exact hc
  rw [trim, hleft, ← List.cons_append, trimRight_append (by simp [heq, h])]
  rfl

end FuzzSynth.Text
