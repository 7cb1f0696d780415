/-
Names and the characters around them.

The characters that may stand in a name are word characters, and no blank is one.  A path
name that was read is read again wherever it stands, as long as what follows cannot continue
it (`pathName?_append`).  An identifier is a path name without `::`
(`isPathName_of_isIdentifier`).
-/
import FuzzSynth.Text.Blank
import FuzzSynth.Text.Digit
import FuzzSynth.Text.PathName
import FuzzSynth.Text.Word

namespace FuzzSynth.Text

/-! ## Classes of characters -/

namespace Ranges

/-- Whether no character lies in ranges of both classes. -/
def apart (r s : Ranges) : Bool :=
  r.all fun a => s.all fun b => decide (a.2 < b.1) || decide (b.2 < a.1)

theorem holds_eq_false_of_apart {r s : Ranges} (h : apart r s = true) {c : Char}
    (hc : r.holds c = true) : s.holds c = false := by
  obtain ⟨a, ha, hmin, hmax⟩ := holds_iff.mp hc
  cases hs : s.holds c with
  | false => rfl
  | true =>
      obtain ⟨b, hb, hmin', hmax'⟩ := holds_iff.mp hs
      have hab := List.all_eq_true.mp (List.all_eq_true.mp h a ha) b hb
      simp only [Bool.or_eq_true, decide_eq_true_eq] at hab
      omega

end Ranges

theorem toNat_lt_of_isIdentChar {c : Char} (h : isIdentChar c = true) : c.toNat < 0x80 := by
  have hval : c.val.toNat = c.toNat := rfl
  simp only [isIdentChar, isIdentStart, isLetter, isAsciiDigit, Bool.or_eq_true, Bool.and_eq_true,
    decide_eq_true_eq, beq_iff_eq, Char.le_def, UInt32.le_iff_toNat_le, hval, Char.reduceVal,
    UInt32.reduceToNat] at h
  rcases h with ((h | h) | rfl) | h
  · omega
  · omega
  · decide
  · omega

/-- What holds of the identifier characters among the first 128 holds of all of them. -/
theorem of_isIdentChar {p : Char → Bool}
    (hascii : ∀ n < 0x80, isIdentChar (Char.ofNat n) = true → p (Char.ofNat n) = true) {c : Char}
    (h : isIdentChar c = true) : p c = true := by
  have hc := hascii c.toNat (toNat_lt_of_isIdentChar h)
  rw [Char.ofNat_toNat] at hc
  exact hc h

theorem isBlank_of_isIdentChar {c : Char} (h : isIdentChar c = true) : isBlank c = false := by
  simpa using of_isIdentChar (p := fun c => !isBlank c) (by decide +kernel) h

theorem isWordChar_of_isIdentChar {c : Char} (h : isIdentChar c = true) : isWordChar c = true :=
  of_isIdentChar (by decide +kernel) h

theorem isBlank_of_isDigit {c : Char} (h : isDigit c = true) : isBlank c = false := by
  rcases Bool.or_eq_true _ _ ▸ h with h | h
  · exact Ranges.holds_eq_false_of_apart (r := decimalRanges) (by decide +kernel) h
  · exact Ranges.holds_eq_false_of_apart (r := formedDigitRanges) (by decide +kernel) h

theorem isWordChar_of_isBlank {c : Char} (h : isBlank c = true) : isWordChar c = false := by
  have hunderscore : c ≠ '_' := by
    rintro rfl
    revert h
    decide
  have hrest : alphanumericRanges.holds c = false :=
    Ranges.holds_eq_false_of_apart (r := blankRanges) (by decide +kernel) h
  simp [isWordChar, hunderscore, hrest]

/-! ## Path names -/

/-- Whether a text is a path name and nothing else. -/
def IsPathName (name : List Char) : Prop :=
  pathName? name = some (name, [])

/-- A text that cannot continue a path name: it begins with a character of no name. -/
def EndsName (rest : List Char) : Prop :=
  ∀ c ∈ rest.head?, isIdentChar c = false ∧ c ≠ ':'

theorem pathTail_of_endsName {rest : List Char} (h : EndsName rest) :
    pathTail rest = ([], rest) := by
  cases rest with
  | nil => rfl
  | cons c tail =>
      obtain ⟨hident, hcolon⟩ := h c rfl
      rw [pathTail.eq_def]
      split
      · simp_all
      · simp_all
      · simp_all

theorem pathTail_append_of_endsName {tail rest : List Char} (h : pathTail tail = (tail, []))
    (hrest : EndsName rest) : pathTail (tail ++ rest) = (tail, rest) := by
  fun_induction pathTail tail with
  | case1 => exact pathTail_of_endsName hrest
  | case2 c tail hc ih =>
      obtain ⟨h₁, h₂⟩ : (pathTail tail).1 = tail ∧ (pathTail tail).2 = [] := by simpa using h
      have htail := ih (Prod.ext h₁ h₂)
      simp [pathTail, hc, htail]
  | case3 c tail hc => simp at h
  | case4 c tail _ hc ih =>
      obtain ⟨h₁, h₂⟩ : (pathTail tail).1 = tail ∧ (pathTail tail).2 = [] := by simpa using h
      have htail := ih (Prod.ext h₁ h₂)
      have hcolon : c ≠ ':' := by
        rintro rfl
        revert hc
        decide
      rw [List.cons_append, pathTail.eq_def]
      split
      · simp_all
      · simp_all
      · simp_all
  | case5 c tail _ hc => simp at h

/-- What was read of a path name is read again when it stands alone. -/
theorem pathTail_fst (cs : List Char) : pathTail (pathTail cs).1 = ((pathTail cs).1, []) := by
  fun_induction pathTail cs with
  | case1 => rfl
  | case2 c rest hc ih => simp [pathTail, hc, ih]
  | case3 => rfl
  | case4 c rest _ hc ih =>
      have hcolon : c ≠ ':' := by
        rintro rfl
        revert hc
        decide
      rw [pathTail.eq_def]
      split <;> simp_all
  | case5 => rfl

theorem isPathName_of_pathName? {cs name rest : List Char} (h : pathName? cs = some (name, rest)) :
    IsPathName name := by
  cases cs with
  | nil => simp [pathName?] at h
  | cons c tail =>
      simp only [pathName?] at h
      split at h
      · next hc =>
          obtain ⟨rfl, rfl⟩ : _ ∧ _ := by simpa using h
          simp [IsPathName, pathName?, hc, pathTail_fst]
      · simp at h

namespace IsPathName

variable {name : List Char}

theorem exists_cons (h : IsPathName name) :
    ∃ c tail, name = c :: tail ∧ isIdentStart c = true ∧ pathTail tail = (tail, []) := by
  cases name with
  | nil => simp [IsPathName, pathName?] at h
  | cons c tail =>
      obtain ⟨hc, h₁, h₂⟩ : isIdentStart c = true ∧ (pathTail tail).1 = tail ∧
          (pathTail tail).2 = [] := by
        simpa [IsPathName, pathName?] using h
      exact ⟨c, tail, rfl, hc, Prod.ext h₁ h₂⟩

/-- A path name is read in front of whatever cannot continue it. -/
theorem pathName?_append (h : IsPathName name) {rest : List Char} (hrest : EndsName rest) :
    pathName? (name ++ rest) = some (name, rest) := by
  obtain ⟨c, tail, rfl, hc, htail⟩ := h.exists_cons
  simp [pathName?, hc, pathTail_append_of_endsName htail hrest]

/-- The characters of a path name. -/
theorem isIdentChar_or_colon (h : IsPathName name) :
    ∀ c ∈ name, isIdentChar c = true ∨ c = ':' := by
  have htail : ∀ cs : List Char, ∀ c ∈ (pathTail cs).1, isIdentChar c = true ∨ c = ':' := by
    intro cs
    fun_induction pathTail cs with
    | case1 => simp
    | case2 c rest hc ih =>
        intro d hd
        simp only [List.mem_cons] at hd
        rcases hd with rfl | rfl | rfl | hd
        · exact .inr rfl
        · exact .inr rfl
        · exact .inl (isIdentChar_of_isIdentStart hc)
        · exact ih d hd
    | case3 => simp
    | case4 c rest _ hc ih =>
        intro d hd
        rcases List.mem_cons.mp hd with rfl | hd
        · exact .inl hc
        · exact ih d hd
    | case5 => simp
  obtain ⟨c, tail, rfl, hc, heq⟩ := h.exists_cons
  intro d hd
  rcases List.mem_cons.mp hd with rfl | hd
  · exact .inl (isIdentChar_of_isIdentStart hc)
  · exact htail tail d (by rw [heq]; exact hd)

end IsPathName

/-! ## Identifiers -/

/-- Whether a text is a path name of one part. -/
def isIdentifier : List Char → Bool
  | [] => false
  | c :: tail => isIdentStart c && tail.all isIdentChar

theorem pathTail_of_isIdentChar {tail : List Char} (h : ∀ c ∈ tail, isIdentChar c = true) :
    pathTail tail = (tail, []) := by
  have hnocolon : isIdentChar ':' = false := by decide
  fun_induction pathTail tail with
  | case1 => rfl
  | case2 | case3 => simp [hnocolon] at h
  | case4 c rest _ _ ih => simp [ih (List.forall_mem_cons.mp h).2]
  | case5 c rest _ hc => exact absurd (h c List.mem_cons_self) hc

theorem isPathName_of_isIdentifier {name : List Char} (h : isIdentifier name = true) :
    IsPathName name := by
  cases name with
  | nil => cases h
  | cons c tail =>
      obtain ⟨hc, htail⟩ := Bool.and_eq_true_iff.mp h
      have htail := pathTail_of_isIdentChar (List.all_eq_true.mp htail)
      simp [IsPathName, pathName?, hc, htail]

theorem isIdentChar_of_mem_identifier {name : List Char} (h : isIdentifier name = true) :
    ∀ c ∈ name, isIdentChar c = true := by
  cases name with
  | nil => cases h
  | cons c tail =>
      obtain ⟨hc, htail⟩ := Bool.and_eq_true_iff.mp h
      exact List.forall_mem_cons.mpr ⟨isIdentChar_of_isIdentStart hc, List.all_eq_true.mp htail⟩

end FuzzSynth.Text
