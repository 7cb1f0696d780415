/-
Escaped texts hold no tags.

`Text.escape` writes before each tag one backslash more than twice the number it found
there, which is odd, and a tag after an odd number of backslashes is no tag.  So the
reader of tags and the escaping go through a text in step: what the one copies as part of
a tag the other skips (`tagsAfter_escapeTags`), and both agree on where tags are
(`tagLength?_escapeTags`, `tagLength?_escapeTags_none`).

What follows the text must not end a tag that the text has only begun, so its first bracket, if
it has any, must be an opening one.  Then the reader of tags goes on behind an escaped text as if
nothing stood there (`exists_tagsAfter_escape`).
-/
import Mathlib.Data.List.Basic
import FuzzSynth.Style.Tags

namespace FuzzSynth.Style

open FuzzSynth.Text

variable {cs suffix : List Char} {n slashes verbatim : Nat}

/-! ## One character -/

@[simp] theorem escapeTags_slash (slashes : Nat) (rest : List Char) :
    escapeTags slashes 0 ('\\' :: rest) = escapeTags (slashes + 1) 0 rest := by
  simp [escapeTags]

theorem escapeTags_tag {rest : List Char} (h : tagLength? rest = some n) (slashes : Nat) :
    escapeTags slashes 0 ('[' :: rest) =
      List.replicate (2 * slashes + 1) '\\' ++ '[' :: escapeTags 0 n rest := by
  simp [escapeTags, h]

theorem escapeTags_bracket {rest : List Char} (h : tagLength? rest = none) (slashes : Nat) :
    escapeTags slashes 0 ('[' :: rest) =
      List.replicate slashes '\\' ++ '[' :: escapeTags 0 0 rest := by
  simp [escapeTags, h]

theorem escapeTags_other {c : Char} (hslash : c ≠ '\\') (hopen : c ≠ '[') (slashes : Nat)
    (rest : List Char) :
    escapeTags slashes 0 (c :: rest) = List.replicate slashes '\\' ++ c :: escapeTags 0 0 rest := by
  simp [escapeTags, hslash, hopen]

/-- Backslashes that were read are written before anything else. -/
theorem exists_escapeTags_succ (slashes : Nat) (cs : List Char) :
    ∃ later, escapeTags (slashes + 1) 0 cs = '\\' :: later := by
  induction cs generalizing slashes with
  | nil => exact ⟨_, rfl⟩
  | cons c rest ih =>
      by_cases hslash : c = '\\'
      · subst hslash
        rw [escapeTags_slash]
        exact ih (slashes + 1)
      · by_cases hopen : c = '['
        · subst hopen
          cases htag : tagLength? rest with
          | none => exact ⟨_, escapeTags_bracket htag _⟩
          | some n => exact ⟨_, escapeTags_tag htag _⟩
        · exact ⟨_, escapeTags_other hslash hopen _ _⟩

/-! ## Where tags end -/

theorem closingDistance?_eq_none (h : ']' ∉ cs) : closingDistance? cs = none := by
  induction cs with
  | nil => rfl
  | cons c rest ih =>
      have hc : c ≠ ']' := fun e => h (e ▸ List.mem_cons_self)
      have hrest := ih fun hmem => h (List.mem_cons_of_mem c hmem)
      simp [closingDistance?, hc, hrest]

/-- Backslashes neither open nor close a tag. -/
theorem closingDistance?_slashes (m : Nat) (h : closingDistance? cs = none) :
    closingDistance? (List.replicate m '\\' ++ cs) = none := by
  induction m with
  | zero => exact h
  | succ m ih => simp [List.replicate_succ, closingDistance?, ih]

/-- A tag that is copied ends where it did. -/
theorem closingDistance?_escapeTags (h : closingDistance? cs = some n) :
    closingDistance? (escapeTags 0 n cs ++ suffix) = some n := by
  induction cs generalizing n with
  | nil => cases h
  | cons c rest ih =>
      unfold closingDistance? at h
      split at h
      · cases h
      · next hopen =>
          split at h
          · next hclose =>
              obtain rfl := Option.some.inj h
              simp [escapeTags, closingDistance?, beq_iff_eq.mp hclose]
          · next hclose =>
              obtain ⟨m, hm, rfl⟩ := Option.map_eq_some_iff.mp h
              simp only [escapeTags, List.cons_append, closingDistance?, hopen, hclose, ih hm]
              rfl

/-- Escaping what follows does not end a tag that had no end. -/
theorem closingDistance?_escapeTags_none (hsuffix : closingDistance? suffix = none)
    (h : closingDistance? cs = none) (slashes : Nat) :
    closingDistance? (escapeTags slashes 0 cs ++ suffix) = none := by
  induction cs generalizing slashes with
  | nil => exact closingDistance?_slashes slashes hsuffix
  | cons c rest ih =>
      by_cases hopen : c = '['
      · -- a bracket that opens keeps what comes before it from being a tag
        subst hopen
        have hstop : ∀ later, closingDistance? ('[' :: later) = none := fun _ => rfl
        cases htag : tagLength? rest with
        | none =>
            rw [escapeTags_bracket htag, List.append_assoc]
            exact closingDistance?_slashes _ (hstop _)
        | some n =>
            rw [escapeTags_tag htag, List.append_assoc]
            exact closingDistance?_slashes _ (hstop _)
      · have hclose : c ≠ ']' := by
          rintro rfl
          simp [closingDistance?] at h
        have hrest : closingDistance? rest = none := by
          simpa [closingDistance?, hopen, hclose] using h
        by_cases hslash : c = '\\'
        · subst hslash
          rw [escapeTags_slash]
          exact ih hrest (slashes + 1)
        · rw [escapeTags_other hslash hopen, List.append_assoc]
          refine closingDistance?_slashes slashes ?_
          simp [closingDistance?, hopen, hclose, ih hrest 0]

/-! ## Where tags begin -/

theorem tagLength?_eq_none (h : closingDistance? cs = none) : tagLength? cs = none := by
  cases cs with
  | nil => rfl
  | cons c rest =>
      by_cases hstart : isTagStart c = true
      · -- what may begin a tag is no bracket
        have hopen : c ≠ '[' := by
          rintro rfl
          exact absurd hstart (by decide)
        have hclose : c ≠ ']' := by
          rintro rfl
          exact absurd hstart (by decide)
        have hrest : closingDistance? rest = none := by
          simpa [closingDistance?, hopen, hclose] using h
        simp [tagLength?, hrest]
      · simp [tagLength?, hstart]

theorem closingDistance?_le_length (h : closingDistance? cs = some n) : n ≤ cs.length := by
  induction cs generalizing n with
  | nil => cases h
  | cons c rest ih =>
      unfold closingDistance? at h
      split at h
      · cases h
      · split at h
        · obtain rfl := Option.some.inj h
          exact Nat.le_add_left 1 rest.length
        · obtain ⟨m, hm, rfl⟩ := Option.map_eq_some_iff.mp h
          exact Nat.succ_le_succ (ih hm)

theorem tagLength?_le_length (h : tagLength? cs = some n) : n ≤ cs.length := by
  cases cs with
  | nil => cases h
  | cons c rest =>
      by_cases hstart : isTagStart c = true
      · rw [tagLength?, if_pos hstart] at h
        obtain ⟨m, hm, rfl⟩ := Option.map_eq_some_iff.mp h
        exact Nat.succ_le_succ (closingDistance?_le_length hm)
      · rw [tagLength?, if_neg hstart] at h
        cases h

/-- A tag that is copied stays a tag. -/
theorem tagLength?_escapeTags (suffix : List Char) (h : tagLength? cs = some n) :
    tagLength? (escapeTags 0 n cs ++ suffix) = some n := by
  cases cs with
  | nil => cases h
  | cons c rest =>
      by_cases hstart : isTagStart c = true
      · rw [tagLength?, if_pos hstart] at h
        obtain ⟨m, hm, rfl⟩ := Option.map_eq_some_iff.mp h
        simp [escapeTags, tagLength?, hstart, closingDistance?_escapeTags hm]
      · rw [tagLength?, if_neg hstart] at h
        cases h

/-- Escaping does not begin a tag where there was none. -/
theorem tagLength?_escapeTags_none (hsuffix : closingDistance? suffix = none) (h : tagLength? cs = none) :
    tagLength? (escapeTags 0 0 cs ++ suffix) = none := by
  have hslashes : ∀ later, tagLength? ('\\' :: later) = none := fun _ => rfl
  cases cs with
  | nil => exact tagLength?_eq_none hsuffix
  | cons c rest =>
      by_cases hslash : c = '\\'
      · subst hslash
        obtain ⟨later, hlater⟩ := exists_escapeTags_succ 0 rest
        rw [escapeTags_slash, hlater]
        exact hslashes _
      · by_cases hopen : c = '['
        · subst hopen
          cases htag : tagLength? rest with
          | none =>
              rw [escapeTags_bracket htag]
              rfl
          | some n =>
              rw [escapeTags_tag htag]
              exact hslashes _
        · rw [escapeTags_other hslash hopen]
          by_cases hstart : isTagStart c = true
          · rw [tagLength?, if_pos hstart] at h
            have hrest := closingDistance?_escapeTags_none hsuffix (Option.map_eq_none_iff.mp h) 0
            simp [tagLength?, hrest]
          · simp [tagLength?, hstart]

/-! ## Reading tags -/

/-- Characters before a tag are passed, and backslashes among them counted. -/
theorem tagsAfter_slashes (before slashes m : Nat) (cs : List Char) :
    tagsAfter before slashes 0 (List.replicate m '\\' ++ cs) =
      tagsAfter (before + m) (slashes + m) 0 cs := by
  induction m generalizing before slashes with
  | zero => rfl
  | succ m ih =>
      rw [List.replicate_succ, List.cons_append]
      simp only [tagsAfter, beq_self_eq_true, if_true]
      rw [ih, Nat.add_right_comm before, Nat.add_right_comm slashes]
      rfl

theorem tagsAfter_plain {pre : List Char} (hopen : '[' ∉ pre) (hslash : '\\' ∉ pre)
    (before : Nat) (cs : List Char) :
    tagsAfter before 0 0 (pre ++ cs) = tagsAfter (before + pre.length) 0 0 cs := by
  induction pre generalizing before with
  | nil => rfl
  | cons c rest ih =>
      have hc : c ≠ '[' := fun e => hopen (e ▸ List.mem_cons_self)
      have hc' : c ≠ '\\' := fun e => hslash (e ▸ List.mem_cons_self)
      have hrest := ih (fun h => hopen (List.mem_cons_of_mem c h))
        (fun h => hslash (List.mem_cons_of_mem c h)) (before + 1)
      rw [List.cons_append]
      simp only [tagsAfter, hc, hc', beq_iff_eq, if_false, hrest, List.length_cons]
      congr 1
      omega

/-- The reader finds no tag in an escaped text: from each state that it comes to, it goes on with
what follows, after some number of backslashes. -/
theorem tagsAfter_escapeTags (hsuffix : closingDistance? suffix = none) (cs : List Char) :
    (∀ before slashes, ∃ before' slashes',
      tagsAfter before 0 0 (escapeTags slashes 0 cs ++ suffix) =
        tagsAfter before' slashes' 0 suffix) ∧
      ∀ before skipped, skipped ≤ cs.length → ∃ before' slashes',
        tagsAfter before 0 skipped (escapeTags 0 skipped cs ++ suffix) =
          tagsAfter before' slashes' 0 suffix := by
  -- the second part is about the inside of a tag that was escaped, which both go through
  induction cs with
  | nil =>
      have hfirst : ∀ before slashes, ∃ before' slashes',
          tagsAfter before 0 0 (escapeTags slashes 0 [] ++ suffix) =
            tagsAfter before' slashes' 0 suffix :=
        fun before slashes => ⟨_, _, tagsAfter_slashes before 0 slashes suffix⟩
      refine ⟨hfirst, fun before skipped hskipped => ?_⟩
      obtain rfl : skipped = 0 := Nat.le_zero.mp hskipped
      exact hfirst before 0
  | cons c rest ih =>
      have hfirst : ∀ before slashes, ∃ before' slashes',
          tagsAfter before 0 0 (escapeTags slashes 0 (c :: rest) ++ suffix) =
            tagsAfter before' slashes' 0 suffix := by
        intro before slashes
        by_cases hslash : c = '\\'
        · subst hslash
          rw [escapeTags_slash]
          exact ih.1 before (slashes + 1)
        by_cases hbracket : c = '['
        · subst hbracket
          cases htag : tagLength? rest with
          | none =>
              have hnone := tagLength?_escapeTags_none hsuffix htag
              rw [escapeTags_bracket htag, List.append_assoc, tagsAfter_slashes]
              simpa [tagsAfter, hnone] using ih.1 (before + slashes + 1) 0
          | some n =>
              -- an odd number of backslashes stands before what reads as a tag
              have hsome := tagLength?_escapeTags suffix htag
              rw [escapeTags_tag htag, List.append_assoc, tagsAfter_slashes]
              simpa [tagsAfter, hsome] using
                ih.2 (before + (2 * slashes + 1) + 1) n (tagLength?_le_length htag)
        · rw [escapeTags_other hslash hbracket, List.append_assoc, tagsAfter_slashes]
          simpa [tagsAfter, hslash, hbracket] using ih.1 (before + slashes + 1) 0
      refine ⟨hfirst, fun before skipped hskipped => ?_⟩
      cases skipped with
      | zero => exact hfirst before 0
      | succ skipped => exact ih.2 (before + 1) skipped (Nat.le_of_succ_le_succ hskipped)

/-! ## Messages -/

theorem exists_closeSlash (cs : List Char) :
    ∃ m, closeSlash cs = cs ++ List.replicate m '\\' := by
  unfold closeSlash
  split
  · exact ⟨0, (List.append_nil cs).symm⟩
  · exact ⟨1, rfl⟩
  · exact ⟨0, (List.append_nil cs).symm⟩

/-- The reader goes on behind an escaped text, after some number of backslashes. -/
theorem exists_tagsAfter_escape (hsuffix : closingDistance? suffix = none) (s : String)
    (before : Nat) :
    ∃ before' slashes', tagsAfter before 0 0 ((escape s).toList ++ suffix) =
      tagsAfter before' slashes' 0 suffix := by
  obtain ⟨m, hm⟩ := exists_closeSlash (escapeTags 0 0 s.toList)
  have htext : (escape s).toList ++ suffix =
      escapeTags 0 0 s.toList ++ (List.replicate m '\\' ++ suffix) := by
    rw [escape, String.toList_ofList, hm, List.append_assoc]
  obtain ⟨before', slashes', htags⟩ :=
    (tagsAfter_escapeTags (closingDistance?_slashes m hsuffix) s.toList).1 before 0
  rw [htext, htags, tagsAfter_slashes]
  exact ⟨_, _, rfl⟩

end FuzzSynth.Style
