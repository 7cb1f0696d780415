/-
Texts with tags of their own.

A styled message is put together from plain texts, escaped ones and tags that open and close a
style.  `Reads` says that the rest of a text has nothing wrong with its tags, given the styles that
are open and the backslashes that stand before it; there is one rule for each kind of piece, and a
message is read by applying them from its beginning to its end.

An escaped text can end in backslashes, and after an odd number of them the tag behind it is no tag.
So what follows an escaped text has to be readable after any number of backslashes, and what follows
a closing tag both with the style closed and with it left open, which is no fault
(`Reads.closing`).
-/
import Mathlib.Data.List.TakeWhile
import FuzzSynth.Proofs.Style.Escape
import FuzzSynth.Proofs.Text.Names
import FuzzSynth.Proofs.Text.Trimming

namespace FuzzSynth.Style

open FuzzSynth.Text

variable {rest content name text : List Char} {slashes : Nat} {opened outer : List OpenTag}

/-! ## One tag -/

/-- A text that can stand between the brackets of a tag. -/
structure IsTagText (content : List Char) : Prop where
  start : ∃ c more, content = c :: more ∧ isTagStart c = true
  opener_not_mem : '[' ∉ content
  closer_not_mem : ']' ∉ content

theorem closingDistance?_append (hopen : '[' ∉ content) (hclose : ']' ∉ content)
    (rest : List Char) :
    closingDistance? (content ++ ']' :: rest) = some (content.length + 1) := by
  induction content with
  | nil => rfl
  | cons c content ih =>
      have hc : c ≠ '[' := fun e => hopen (e ▸ List.mem_cons_self)
      have hc' : c ≠ ']' := fun e => hclose (e ▸ List.mem_cons_self)
      have hcontent := ih (fun h => hopen (List.mem_cons_of_mem c h))
        fun h => hclose (List.mem_cons_of_mem c h)
      rw [List.cons_append, closingDistance?, if_neg (by simpa using hc),
        if_neg (by simpa using hc'), hcontent]
      rfl

theorem IsTagText.tagLength?_eq (h : IsTagText content) (rest : List Char) :
    tagLength? (content ++ ']' :: rest) = some (content.length + 1) := by
  obtain ⟨c, more, rfl, hstart⟩ := h.start
  have hmore := closingDistance?_append (fun hmem => h.opener_not_mem (List.mem_cons_of_mem c hmem))
    (fun hmem => h.closer_not_mem (List.mem_cons_of_mem c hmem)) rest
  rw [List.cons_append, tagLength?, if_pos hstart, hmore]
  rfl

/-- Characters that belong to a tag are passed. -/
theorem tagsAfter_passed (passed : List Char) (before : Nat) (rest : List Char) :
    tagsAfter before 0 passed.length (passed ++ rest) =
      tagsAfter (before + passed.length) 0 0 rest := by
  induction passed generalizing before with
  | nil => rfl
  | cons c passed ih =>
      rw [List.length_cons, List.cons_append, tagsAfter, ih]
      congr 1
      omega

/-- A tag after an even number of backslashes is found, and the reader goes on behind it. -/
theorem IsTagText.tagsAfter_eq (h : IsTagText content) (before slashes : Nat) (rest : List Char) :
    tagsAfter before slashes 0 ('[' :: (content ++ ']' :: rest)) =
      if slashes % 2 = 1 then tagsAfter (before + 1 + (content.length + 1)) 0 0 rest
      else ⟨before, content⟩ :: tagsAfter (before + 1 + (content.length + 1)) 0 0 rest := by
  have hpassed := tagsAfter_passed (content ++ [']']) (before + 1) rest
  rw [List.append_assoc, List.singleton_append, List.length_append, List.length_singleton] at hpassed
  simp only [tagsAfter, h.tagLength?_eq rest, hpassed, beq_self_eq_true, if_true]
  simp

/-! ## Names -/

/-- A name in small letters that names the style of that name. -/
structure IsStyleName (name : List Char) : Prop where
  ne_nil : name ≠ []
  letters : (name.all fun c => decide ('a' ≤ c ∧ c ≤ 'z')) = true
  normal : normalName name = .ok (String.ofList name)

namespace IsStyleName

theorem letter_of_mem (h : IsStyleName name) {c : Char} (hc : c ∈ name) : 'a' ≤ c ∧ c ≤ 'z' :=
  of_decide_eq_true (List.all_eq_true.mp h.letters c hc)

theorem ne_of_mem (h : IsStyleName name) {c d : Char} (hc : c ∈ name)
    (hd : ¬ ('a' ≤ d ∧ d ≤ 'z')) : c ≠ d := by
  rintro rfl
  exact hd (h.letter_of_mem hc)

theorem not_mem (h : IsStyleName name) {d : Char} (hd : ¬ ('a' ≤ d ∧ d ≤ 'z')) : d ∉ name :=
  fun hmem => h.ne_of_mem hmem hd rfl

theorem isTagText (h : IsStyleName name) : IsTagText name where
  start := by
    obtain ⟨c, more, rfl⟩ := List.exists_cons_of_ne_nil h.ne_nil
    refine ⟨c, more, rfl, ?_⟩
    simp [isTagStart, h.letter_of_mem List.mem_cons_self]
  opener_not_mem := h.not_mem (by decide)
  closer_not_mem := h.not_mem (by decide)

theorem isTagText_closing (h : IsStyleName name) : IsTagText ('/' :: name) where
  start := ⟨'/', name, rfl, by decide⟩
  opener_not_mem := List.not_mem_cons_of_ne_of_not_mem (by decide) (h.not_mem (by decide))
  closer_not_mem := List.not_mem_cons_of_ne_of_not_mem (by decide) (h.not_mem (by decide))

theorem trim_eq (h : IsStyleName name) : trim name = name := by
  have hblank : ∀ c ∈ name, isBlank c = false := fun c hc =>
    isBlank_of_isIdentChar (by simp [isIdentChar, isIdentStart, isLetter, h.letter_of_mem hc])
  exact trim_eq_self (fun c hc => hblank c (List.mem_of_mem_head? hc))
    fun c hc => hblank c (List.mem_of_mem_getLast? hc)

/-- A tag that holds the name opens the style. -/
theorem apply_opening (h : IsStyleName name) (before : Nat) (opened : List OpenTag) :
    Tag.apply ⟨before, name⟩ opened = .ok (⟨String.ofList name, []⟩ :: opened) := by
  have hequals : '=' ∉ name := h.not_mem (by decide)
  have hall : ∀ c ∈ name, (c != '=') = true := fun c hc => by
    rw [bne_iff_ne]
    rintro rfl
    exact hequals hc
  have hname : Tag.name ⟨before, name⟩ = name := List.takeWhile_eq_self_iff.mpr hall
  have hparameters : Tag.parameters ⟨before, name⟩ = [] := by
    rw [Tag.parameters, List.dropWhile_eq_nil_iff.mpr hall]
    rfl
  unfold Tag.apply
  rw [hname, hparameters]
  split
  · exact absurd List.mem_cons_self (h.not_mem (by decide))
  · rw [h.normal]
    rfl

/-- A tag that holds the name behind a slash closes the style that was opened last. -/
theorem apply_closing (h : IsStyleName name) (before : Nat) (outer : List OpenTag) :
    Tag.apply ⟨before, '/' :: name⟩ (⟨String.ofList name, []⟩ :: outer) = .ok outer := by
  have hall : ∀ c ∈ '/' :: name, (c != '=') = true := by
    refine List.forall_mem_cons.mpr ⟨by decide, fun c hc => ?_⟩
    exact bne_iff_ne.mpr (h.ne_of_mem hc (by decide))
  have hname : Tag.name ⟨before, '/' :: name⟩ = '/' :: name :=
    List.takeWhile_eq_self_iff.mpr hall
  have hplain : (String.ofList name).startsWith "@" = false := by
    rw [Bool.eq_false_iff]
    intro hstart
    have hat : '@' ∈ (String.ofList name).toList :=
      (String.startsWith_string_iff.mp hstart).subset List.mem_cons_self
    rw [String.toList_ofList] at hat
    exact absurd hat (h.not_mem (by decide))
  have hclose : OpenTag.close ⟨String.ofList name, []⟩ outer = .ok outer := by
    rw [OpenTag.close, hplain]
    rfl
  have hfilled : name.isEmpty = false := by simpa using h.ne_nil
  unfold Tag.apply
  rw [hname]
  simp only [h.trim_eq, hfilled, h.normal]
  simpa [Except.mapError, bind, Except.bind] using hclose

end IsStyleName

/-! ## Reading a text from some point on -/

/-- With these styles open and after `slashes` backslashes, the rest of a text has nothing wrong
with its tags, wherever it stands. -/
def Reads (slashes : Nat) (opened : List OpenTag) (rest : List Char) : Prop :=
  ∀ before, ∃ final,
    (tagsAfter before slashes 0 rest).foldlM (fun opened t => t.apply opened) opened = .ok final

theorem tagFault?_eq_none_of_reads {s : String} (h : Reads 0 [] s.toList) : tagFault? s = none := by
  obtain ⟨final, hfinal⟩ := h 0
  rw [tagFault?, tags, hfinal]

namespace Reads

theorem of_not_mem (h : '[' ∉ text) : Reads slashes opened text := by
  intro before
  rw [tagsAfter_eq_nil h]
  exact ⟨opened, rfl⟩

theorem plain (hopen : '[' ∉ text) (hslash : '\\' ∉ text) (h : Reads 0 opened rest) :
    Reads 0 opened (text ++ rest) := by
  intro before
  rw [tagsAfter_plain hopen hslash]
  exact h _

theorem escaped (s : String) (hclose : closingDistance? rest = none)
    (h : ∀ slashes, Reads slashes opened rest) : Reads 0 opened ((escape s).toList ++ rest) := by
  intro before
  obtain ⟨before', slashes', htags⟩ := exists_tagsAfter_escape hclose s before
  rw [htags]
  exact h slashes' before'

theorem opening (hname : IsStyleName name)
    (h : Reads 0 (⟨String.ofList name, []⟩ :: opened) rest) :
    Reads 0 opened ('[' :: (name ++ ']' :: rest)) := by
  intro before
  have htags := hname.isTagText.tagsAfter_eq before 0 rest
  rw [if_neg (by decide)] at htags
  rw [htags, List.foldlM_cons, hname.apply_opening]
  exact h _

/-- Whether a closing tag closes the style depends on the backslashes before it. -/
theorem closing (hname : IsStyleName name) (hclosed : Reads 0 outer rest)
    (hleft : Reads 0 (⟨String.ofList name, []⟩ :: outer) rest) (slashes : Nat) :
    Reads slashes (⟨String.ofList name, []⟩ :: outer) ('[' :: ('/' :: name ++ ']' :: rest)) := by
  intro before
  rw [hname.isTagText_closing.tagsAfter_eq]
  split
  · exact hleft _
  · rw [List.foldlM_cons, hname.apply_closing]
    exact hclosed _

/-- An escaped text between the tags of a style. -/
theorem styled (hname : IsStyleName name) (s : String)
    (h : ∀ opened, Reads 0 opened rest) :
    Reads 0 opened ('[' :: (name ++ ']' ::
      ((escape s).toList ++ '[' :: ('/' :: name ++ ']' :: rest)))) :=
  opening hname (escaped s rfl (closing hname (h _) (h _)))

end Reads

end FuzzSynth.Style
