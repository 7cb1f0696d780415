/-
Splitting and joining.

`levels` counts the brackets that a text opens less those that it closes, and a text is level if
the running count is never negative and ends at zero.  That is what balance is
(`isLevel_iff`), so splitting at a mark has a result for the level texts, the parts are level and
have the mark only where the count is above zero, and splitting gives back the parts that the mark
joins, with spaces around it and perhaps another mark at the end.

`IsSplitting` puts this together for texts of any letters that are kept in characters: for
characters themselves, and for code points.  The spaces around the mark are blanks other than
the mark: a blank that is the mark cuts like any other mark.  And the mark at the end stands behind
a part, for a mark alone ends a part that is empty.
-/
import Mathlib.Data.List.DropRight
import FuzzSynth.Proofs.Sequence
import FuzzSynth.Proofs.Text.Lists
import FuzzSynth.Ty.Parser

namespace FuzzSynth.Text

section Letters

variable {α : Type} {charOf : α → Char} {isMark : α → Bool} {mark : α}

/-! ## Levels -/

/-- The number of brackets that a text opens less the number of those that it closes. -/
def levels (charOf : α → Char) (text : List α) : Int :=
  (text.countP fun a => isOpener (charOf a)) - (text.countP fun a => isCloser (charOf a))

/-- The running count of levels is never negative, and zero at the end. -/
structure IsLevel (charOf : α → Char) (text : List α) : Prop where
  nonneg : ∀ front, front <+: text → 0 ≤ levels charOf front
  zero : levels charOf text = 0

@[simp] theorem levels_nil : levels charOf [] = 0 := rfl

theorem levels_cons (a : α) (rest : List α) :
    levels charOf (a :: rest) = levels charOf [a] + levels charOf rest := by
  simp only [levels, List.countP_cons, List.countP_nil]
  omega

theorem isCloser_of_isOpener {c : Char} (h : isOpener c = true) : isCloser c = false := by
  have hkind : c = '<' ∨ c = '[' ∨ c = '(' := by simpa [isOpener, or_assoc] using h
  rcases hkind with rfl | rfl | rfl <;> decide

theorem depthStep_eq_some_iff {depth next : Nat} {a : α} :
    depthStep depth (charOf a) = some next ↔ (next : Int) = depth + levels charOf [a] := by
  simp only [levels, List.countP_singleton]
  cases hopener : isOpener (charOf a) with
  | true =>
      simp only [depthStep_opener hopener, isCloser_of_isOpener hopener, Option.some.injEq]
      simp
      omega
  | false =>
      cases hcloser : isCloser (charOf a) with
      | true =>
          cases depth with
          | zero =>
              -- no level is open, and the count would be below zero
              simp [depthStep, hopener, hcloser]
          | succ outer =>
              simp only [depthStep_closer hopener hcloser, Option.some.injEq]
              simp
              omega
      | false =>
          simp only [depthStep_plain hopener hcloser, Option.some.injEq]
          simp
          omega

/-- The depth behind a text is the count, if that is nowhere negative before. The induction is on
the text, for every depth that it may start at. -/
theorem depthAfter_eq_some_iff {depth after : Nat} {text : List α} :
    depthAfter depth (text.map charOf) = some after ↔
      (∀ front, front <+: text → 0 ≤ depth + levels charOf front) ∧
        (after : Int) = depth + levels charOf text := by
  induction text generalizing depth with
  | nil =>
      have hnil : depthAfter depth (([] : List α).map charOf) = some depth := rfl
      simp only [hnil, Option.some.injEq, List.prefix_nil, forall_eq, levels_nil]
      omega
  | cons a rest ih =>
      rw [List.map_cons, depthAfter_cons, Option.bind_eq_some_iff]
      constructor
      · rintro ⟨next, hstep, hrest⟩
        obtain ⟨hfront, hafter⟩ := ih.mp hrest
        rw [depthStep_eq_some_iff] at hstep
        refine ⟨fun front hpre => ?_, ?_⟩
        · rcases List.prefix_cons_iff.mp hpre with rfl | ⟨tail, rfl, htail⟩
          · simp
          · have := hfront tail htail
            rw [levels_cons]
            omega
        · rw [levels_cons]
          omega
      · rintro ⟨hfront, hafter⟩
        -- the first letter alone is in front of the rest, so its depth is there
        have hfirst : 0 ≤ depth + levels charOf [a] := hfront [a] ⟨rest, rfl⟩
        obtain ⟨next, hnext⟩ := Int.eq_ofNat_of_zero_le hfirst
        refine ⟨next, depthStep_eq_some_iff.mpr hnext.symm, ih.mpr ⟨fun front hpre => ?_, ?_⟩⟩
        · have := hfront (a :: front) (List.prefix_cons_iff.mpr (.inr ⟨front, rfl, hpre⟩))
          rw [levels_cons] at this
          omega
        · rw [levels_cons] at hafter
          omega

/-- A text is level exactly if it balances. -/
theorem isLevel_iff {text : List α} : IsLevel charOf text ↔ IsBalanced (text.map charOf) := by
  rw [IsBalanced, depthAfter_eq_some_iff]
  constructor
  · rintro ⟨hnonneg, hzero⟩
    exact ⟨fun front hpre => by simpa using hnonneg front hpre, by simp [hzero]⟩
  · rintro ⟨hnonneg, hzero⟩
    exact ⟨fun front hpre => by simpa using hnonneg front hpre, by simpa using hzero.symm⟩

/-- In a level text, inside brackets is where the count is above zero. -/
theorem standsInside_iff {text : List α} (hlevel : IsLevel charOf text)
    (hmark : ∀ b, isMark b = true ↔ b = mark) : StandsInside charOf isMark 0 text ↔
      ∀ before after, text = before ++ mark :: after → 0 < levels charOf before := by
  have hdepth : ∀ before after, text = before ++ mark :: after →
      (depthAfter 0 (before.map charOf) = some 0 ↔ levels charOf before = 0) := by
    rintro before after rfl
    rw [depthAfter_eq_some_iff]
    constructor
    · rintro ⟨-, hzero⟩
      simpa using hzero.symm
    · intro hzero
      refine ⟨fun front hpre => ?_, by simp [hzero]⟩
      simpa using hlevel.nonneg front (hpre.trans (List.prefix_append _ _))
  constructor
  · intro h before after heq
    have hne := h before mark after heq ((hmark mark).mpr rfl)
    rw [ne_eq, hdepth before after heq] at hne
    have hnonneg := hlevel.nonneg before ⟨mark :: after, heq.symm⟩
    omega
  · intro h before b after heq hb
    obtain rfl := (hmark b).mp hb
    have hpos := h before after heq
    rw [ne_eq, hdepth before after heq]
    omega

/-! ## Blanks around a piece -/

/-- No blank at either end. -/
structure IsTrimmed (charOf : α → Char) (text : List α) : Prop where
  head : ∀ a ∈ text.head?, isBlank (charOf a) = false
  last : ∀ a ∈ text.getLast?, isBlank (charOf a) = false

/-- In front of a list and behind it stand elements of a kind, and none at the ends of what is
left. -/
theorem exists_append_core (p : α → Bool) (text : List α) : ∃ front core back,
    text = front ++ (core ++ back) ∧ (∀ a ∈ front, p a = true) ∧ (∀ a ∈ back, p a = true) ∧
      (∀ a ∈ core.head?, p a = false) ∧ ∀ a ∈ core.getLast?, p a = false := by
  have hback : (text.dropWhile p).rdropWhile p ++ (text.dropWhile p).rtakeWhile p =
      text.dropWhile p := List.rdropWhile_append_rtakeWhile
  refine ⟨text.takeWhile p, (text.dropWhile p).rdropWhile p, (text.dropWhile p).rtakeWhile p, ?_,
    fun _ => List.mem_takeWhile_imp, fun _ => List.mem_rtakeWhile_imp, fun a ha => ?head,
    fun a ha => ?last⟩
  · rw [hback, List.takeWhile_append_dropWhile]
  case head =>
    obtain ⟨rest, hcore⟩ := List.head?_eq_some_iff.mp ha
    have hhead := List.head?_dropWhile_not p text
    rw [← hback, hcore] at hhead
    exact hhead
  case last =>
    have hne : (text.dropWhile p).rdropWhile p ≠ [] := by
      intro hnil
      simp [hnil] at ha
    have hlast := List.rdropWhile_last_not p (text.dropWhile p) hne
    rw [List.getLast?_eq_some_getLast hne, Option.mem_some_iff] at ha
    simpa [← ha] using hlast

/-- A text is a trimmed one with blanks around it. -/
theorem exists_blanks_append_trimmed (charOf : α → Char) (text : List α) :
    ∃ front item back, text = front ++ (item ++ back) ∧ IsBlankText (front.map charOf) ∧
      IsBlankText (back.map charOf) ∧ IsTrimmed charOf item := by
  obtain ⟨front, item, back, heq, hfront, hback, hhead, hlast⟩ :=
    exists_append_core (fun a => isBlank (charOf a)) text
  exact ⟨front, item, back, heq, List.forall_mem_map.mpr hfront, List.forall_mem_map.mpr hback,
    hhead, hlast⟩

theorem depthAfter_of_isBlankText {depth : Nat} {text : List Char} (h : IsBlankText text) :
    depthAfter depth text = some depth := by
  have hzero : depthAfter 0 text = some 0 :=
    isBalanced_of_forall fun c hc => (isPlain_of_isBlank (h c hc)).not_bracket
  simpa using depthAfter_add hzero depth

/-- Blanks around a piece leave it a piece if no mark is among them. -/
theorem isPiece_append_blanks {front item back : List α} (hfront : IsBlankText (front.map charOf))
    (hback : IsBlankText (back.map charOf)) : IsPiece charOf isMark (front ++ (item ++ back)) ↔
      StandsInside charOf isMark 0 front ∧ IsPiece charOf isMark item ∧
        StandsInside charOf isMark 0 back := by
  -- blanks are no brackets, so the depth behind them is the depth in front of them
  have hbalanced : IsBalanced ((front ++ (item ++ back)).map charOf) ↔
      IsBalanced (item.map charOf) := by
    rw [IsBalanced, IsBalanced, List.map_append, List.map_append, depthAfter_append,
      depthAfter_of_isBlankText hfront, Option.bind_some, depthAfter_append]
    cases depthAfter 0 (item.map charOf) with
    | none => simp
    | some depth => simp [depthAfter_of_isBlankText hback]
  constructor
  · rintro ⟨hall, hinside⟩
    have hitem := hbalanced.mp hall
    obtain ⟨hfirst, hrest⟩ := standsInside_append.mp hinside
    obtain ⟨hmiddle, hlast⟩ := standsInside_append.mp (hrest 0 (depthAfter_of_isBlankText hfront))
    exact ⟨hfirst, ⟨hitem, hmiddle⟩, hlast 0 hitem⟩
  · rintro ⟨hfirst, ⟨hitem, hmiddle⟩, hlast⟩
    refine ⟨hbalanced.mpr hitem, standsInside_append.mpr ⟨hfirst, fun next hnext => ?_⟩⟩
    obtain rfl := Option.some.inj ((depthAfter_of_isBlankText hfront).symm.trans hnext)
    refine standsInside_append.mpr ⟨hmiddle, fun next hnext => ?_⟩
    obtain rfl := Option.some.inj (hitem.symm.trans hnext)
    exact hlast

/-! ## Letters that are kept in characters -/

/-- Blanks are kept in blanks, and other letters in other characters, of which there is one. -/
structure KeepsBlanks (charOf : α → Char) (kept : α → List Char) : Prop where
  blank : ∀ a, isBlank (charOf a) = true → IsBlankText (kept a)
  solid : ∀ a, isBlank (charOf a) = false → ∀ c ∈ kept a, isBlank c = false
  ne_nil : ∀ a, kept a ≠ []

variable {kept : α → List Char} (hkept : KeepsBlanks charOf kept)

include hkept

theorem KeepsBlanks.isBlankText {text : List α} (h : IsBlankText (text.map charOf)) :
    IsBlankText (text.flatMap kept) := by
  intro c hc
  obtain ⟨a, ha, hc⟩ := List.mem_flatMap.mp hc
  exact hkept.blank a (h _ (List.mem_map_of_mem ha)) c hc

theorem KeepsBlanks.trim_flatMap {item : List α} (h : IsTrimmed charOf item) :
    trim (item.flatMap kept) = item.flatMap kept := by
  refine trim_eq_self (fun c hc => ?head) (fun c hc => ?last)
  case head =>
    cases item with
    | nil => simp at hc
    | cons a rest =>
        rw [List.flatMap_cons, List.head?_append_of_ne_nil _ (hkept.ne_nil a)] at hc
        exact hkept.solid a (h.head a rfl) c (List.mem_of_mem_head? hc)
  case last =>
    rcases List.eq_nil_or_concat item with rfl | ⟨init, a, rfl⟩
    · simp at hc
    · rw [List.concat_eq_append, List.flatMap_append, List.flatMap_singleton,
        List.getLast?_append_of_ne_nil _ (hkept.ne_nil a)] at hc
      exact hkept.solid a (h.last a (by simp)) c (List.mem_of_getLast? hc)

theorem KeepsBlanks.trim_append_blanks {front item back : List α}
    (hfront : IsBlankText (front.map charOf)) (hback : IsBlankText (back.map charOf))
    (h : IsTrimmed charOf item) :
    trim ((front ++ (item ++ back)).flatMap kept) = item.flatMap kept := by
  rw [List.flatMap_append, List.flatMap_append, ← List.append_assoc,
    Text.trim_append_blanks (hkept.isBlankText hfront) (hkept.isBlankText hback),
    hkept.trim_flatMap h]

omit hkept

/-! ## Splitting -/

/-- A trimmed and level text with the mark only where the count is above zero. -/
structure IsTrimmedPiece (charOf : α → Char) (mark : α) (text : List α) : Prop where
  trimmed : IsTrimmed charOf text
  level : IsLevel charOf text
  inside : ∀ before after, text = before ++ mark :: after → 0 < levels charOf before

/-- Blanks, none of them the mark. -/
def IsSpacing (charOf : α → Char) (mark : α) (text : List α) : Prop :=
  ∀ a ∈ text, isBlank (charOf a) = true ∧ a ≠ mark

/-- The second text is the first with spaces around it. -/
def IsSpaced (charOf : α → Char) (mark : α) (item piece : List α) : Prop :=
  ∃ front back, IsSpacing charOf mark front ∧ IsSpacing charOf mark back ∧
    piece = front ++ (item ++ back)

/-- What splitting at a mark does to texts whose letters stand for the characters `charOf`, and
which are kept in characters by `keep`. -/
structure IsSplitting (charOf : α → Char) (keep : List α → List Char) (mark : α)
    (split : List α → Option (List (List Char))) : Prop where
  /-- It succeeds exactly for the level texts. -/
  succeeds : ∀ text, (∃ parts, split text = some parts) ↔ IsLevel charOf text
  /-- The parts are trimmed, level, and have the mark only where the count is above zero. -/
  part : ∀ text parts, split text = some parts → ∀ part ∈ parts,
    ∃ item, part = keep item ∧ IsTrimmedPiece charOf mark item
  /-- Such parts, not empty, are given back when the mark joins them with spaces around it, and if
  there are any, when one more mark stands behind them. -/
  join : ∀ items pieces tail, (∀ item ∈ items, item ≠ [] ∧ IsTrimmedPiece charOf mark item) →
    List.Forall₂ (IsSpaced charOf mark) items pieces →
    (tail = [] ∨ items ≠ [] ∧ ∃ spaces, IsSpacing charOf mark spaces ∧ tail = mark :: spaces) →
    split ([mark].intercalate pieces ++ tail) = some (items.map keep)

instance [DecidableEq α] (text : List α) : Decidable (IsSpacing charOf mark text) :=
  inferInstanceAs (Decidable (∀ a ∈ text, isBlank (charOf a) = true ∧ a ≠ mark))

theorem IsSpacing.isBlankText {text : List α} (h : IsSpacing charOf mark text) :
    IsBlankText (text.map charOf) :=
  List.forall_mem_map.mpr fun a ha => (h a ha).1

section Marks

variable (hmark : ∀ b, isMark b = true ↔ b = mark)

include hmark

theorem isTrimmedPiece_iff {text : List α} : IsTrimmedPiece charOf mark text ↔
    IsTrimmed charOf text ∧ IsPiece charOf isMark text := by
  constructor
  · rintro ⟨htrimmed, hlevel, hinside⟩
    exact ⟨htrimmed, isLevel_iff.mp hlevel, (standsInside_iff hlevel hmark).mpr hinside⟩
  · rintro ⟨htrimmed, hbalanced, hinside⟩
    have hlevel : IsLevel charOf text := isLevel_iff.mpr hbalanced
    exact ⟨htrimmed, hlevel, (standsInside_iff hlevel hmark).mp hinside⟩

theorem IsSpacing.standsInside {text : List α} (h : IsSpacing charOf mark text) :
    StandsInside charOf isMark 0 text :=
  standsInside_of_forall fun a ha => Bool.eq_false_iff.mpr fun hmarked =>
    (h a ha).2 ((hmark a).mp hmarked)

theorem IsSpaced.isPiece {item piece : List α} (h : IsSpaced charOf mark item piece)
    (hitem : IsTrimmedPiece charOf mark item) : IsPiece charOf isMark piece := by
  obtain ⟨front, back, hfront, hback, rfl⟩ := h
  exact (isPiece_append_blanks hfront.isBlankText hback.isBlankText).mpr
    ⟨hfront.standsInside hmark, ((isTrimmedPiece_iff hmark).mp hitem).2, hback.standsInside hmark⟩

end Marks

instance (text : List α) : Decidable (IsTrimmed charOf text) :=
  decidable_of_iff ((∀ a ∈ text.head?, isBlank (charOf a) = false) ∧
      ∀ a ∈ text.getLast?, isBlank (charOf a) = false)
    ⟨fun h => ⟨h.1, h.2⟩, fun h => ⟨h.head, h.last⟩⟩

instance (text : List α) : Decidable (IsPiece charOf isMark text) :=
  decidable_of_iff (depthAfter 0 (text.map charOf) = some 0 ∧ StandsInside charOf isMark 0 text)
    ⟨fun h => ⟨h.1, h.2⟩, fun h => ⟨h.balanced, h.inside⟩⟩

instance [DecidableEq α] (text : List α) : Decidable (IsTrimmedPiece charOf mark text) :=
  decidable_of_iff _ (isTrimmedPiece_iff fun _ => beq_iff_eq).symm

theorem mem_trimChunks {chunks : List (List Char)} {part : List Char}
    (h : part ∈ trimChunks chunks) : ∃ chunk ∈ chunks, part = trim chunk := by
  rcases List.eq_nil_or_concat chunks with rfl | ⟨init, last, rfl⟩
  · simp [trimChunks] at h
  · rw [List.concat_eq_append, trimChunks_concat] at h
    have hmem : part ∈ (init ++ [last]).map trim := by
      split at h
      · simp [h]
      · simpa using h
    simpa [eq_comm] using hmem

theorem KeepsBlanks.map_trim_eq (hkept : KeepsBlanks charOf kept) {items pieces : List (List α)}
    (h : List.Forall₂ (IsSpaced charOf mark) items pieces)
    (hitems : ∀ item ∈ items, IsTrimmed charOf item) :
    (pieces.map (·.flatMap kept)).map trim = items.map (·.flatMap kept) := by
  induction h with
  | nil => rfl
  | cons hspaced _ ih =>
      obtain ⟨hitem, hitems⟩ := List.forall_mem_cons.mp hitems
      obtain ⟨front, back, hfront, hback, rfl⟩ := hspaced
      rw [List.map_cons, List.map_cons, List.map_cons, ih hitems,
        hkept.trim_append_blanks hfront.isBlankText hback.isBlankText hitem]

/-- The trimmed chunks of a text, kept in characters, without a last one that is empty. -/
def splitLetters (charOf : α → Char) (kept : α → List Char) (isMark : α → Bool) (text : List α) :
    Option (List (List Char)) :=
  (chunks charOf isMark 0 text).map fun pieces => trimChunks (pieces.map (·.flatMap kept))

section Split

variable (hkept : KeepsBlanks charOf kept) (hmark : ∀ b, isMark b = true ↔ b = mark)
  (hopener : isOpener (charOf mark) = false) (hcloser : isCloser (charOf mark) = false)

include hmark hopener hcloser

theorem exists_splitLetters_iff {text : List α} :
    (∃ parts, splitLetters charOf kept isMark text = some parts) ↔ IsLevel charOf text := by
  rw [isLevel_iff, IsBalanced, ← isSome_chunks_iff hmark hopener hcloser,
    ← Option.isSome_iff_exists, splitLetters, Option.isSome_map]

include hkept

theorem exists_trimmedPiece_of_splitLetters {text : List α} {parts : List (List Char)}
    (h : splitLetters charOf kept isMark text = some parts) {part : List Char}
    (hpart : part ∈ parts) :
    ∃ item, part = item.flatMap kept ∧ IsTrimmedPiece charOf mark item := by
  obtain ⟨pieces, hpieces, rfl⟩ := Option.map_eq_some_iff.mp h
  obtain ⟨chunk, hchunk, rfl⟩ := mem_trimChunks hpart
  obtain ⟨piece, hpiece, rfl⟩ := List.mem_map.mp hchunk
  obtain ⟨-, -, hall⟩ := isCut_zero.mp ((chunks_eq_some_iff_isCut hmark hopener hcloser).mp hpieces)
  obtain ⟨front, item, back, rfl, hfront, hback, htrimmed⟩ :=
    exists_blanks_append_trimmed charOf piece
  obtain ⟨-, hitem, -⟩ := (isPiece_append_blanks hfront hback).mp (hall _ hpiece)
  exact ⟨item, hkept.trim_append_blanks hfront hback htrimmed,
    (isTrimmedPiece_iff hmark).mpr ⟨htrimmed, hitem⟩⟩

theorem splitLetters_join {items pieces : List (List α)} {tail : List α}
    (hitems : ∀ item ∈ items, item ≠ [] ∧ IsTrimmedPiece charOf mark item)
    (hspaced : List.Forall₂ (IsSpaced charOf mark) items pieces)
    (htail : tail = [] ∨
      items ≠ [] ∧ ∃ spaces, IsSpacing charOf mark spaces ∧ tail = mark :: spaces) :
    splitLetters charOf kept isMark ([mark].intercalate pieces ++ tail) =
      some (items.map (·.flatMap kept)) := by
  have hpieces : ∀ piece ∈ pieces, IsPiece charOf isMark piece := by
    intro piece hpiece
    obtain ⟨item, hitem, hspace⟩ := Sequence.exists_left_of_forall₂ hspaced hpiece
    exact hspace.isPiece hmark (hitems item hitem).2
  have hmap : (pieces.map (·.flatMap kept)).map trim = items.map (·.flatMap kept) :=
    hkept.map_trim_eq hspaced fun item hitem => (hitems item hitem).2.trimmed
  -- there is one piece for each item
  have hnil : pieces = [] ↔ items = [] := by
    rw [← List.length_eq_zero_iff, ← List.length_eq_zero_iff, hspaced.length_eq]
  rw [splitLetters]
  rcases htail with rfl | ⟨hne, spaces, hspaces, rfl⟩
  · rw [List.append_nil]
    by_cases hempty : pieces = []
    · -- nothing joined is the empty text, which is one empty chunk
      obtain rfl := hempty
      obtain rfl := hnil.mp rfl
      rfl
    · rw [chunks_intercalate_pieces hmark hopener hcloser hempty hpieces, Option.map_some,
        trimChunks_eq_map, hmap]
      -- no part is lost, for none is empty
      intro chunk hchunk
      obtain ⟨item, hitem, heq⟩ := List.mem_map.mp (hmap ▸ List.mem_map_of_mem hchunk)
      obtain ⟨a, rest, rfl⟩ := List.exists_cons_of_ne_nil (hitems item hitem).1
      simp [← heq, hkept.ne_nil a]
  · have hall : ∀ piece ∈ pieces ++ [spaces], IsPiece charOf isMark piece := by
      have hlast : IsPiece charOf isMark spaces :=
        ⟨depthAfter_of_isBlankText hspaces.isBlankText, hspaces.standsInside hmark⟩
      simpa [or_imp, forall_and] using ⟨hpieces, hlast⟩
    have hblank : trim (spaces.flatMap kept) = [] :=
      (hkept.isBlankText hspaces.isBlankText).trim_eq_nil
    rw [← intercalate_concat fun hempty => hne (hnil.mp hempty),
      chunks_intercalate_pieces hmark hopener hcloser (by simp) hall, Option.map_some,
      List.map_append, List.map_singleton, trimChunks_concat, if_pos hblank, hmap]

theorem isSplitting_splitLetters :
    IsSplitting charOf (·.flatMap kept) mark (splitLetters charOf kept isMark) where
  succeeds _ := exists_splitLetters_iff hmark hopener hcloser
  part _ _ h _ hpart := exists_trimmedPiece_of_splitLetters hkept hmark hopener hcloser h hpart
  join _ _ _ hitems hspaced htail :=
    splitLetters_join hkept hmark hopener hcloser hitems hspaced htail

end Split

end Letters

/-! ## Characters and code points -/

theorem keepsBlanks_char : KeepsBlanks id fun c => [c] where
  blank _ hc _ hd := List.mem_singleton.mp hd ▸ hc
  solid _ hc _ hd := List.mem_singleton.mp hd ▸ hc
  ne_nil c := List.cons_ne_nil c []

theorem toNat_le_of_isBlank {c : Char} (h : isBlank c = true) : c.toNat ≤ 0x3000 := by
  obtain ⟨range, hrange, -, hle⟩ := Ranges.holds_iff.mp h
  have hlast : ∀ range ∈ blankRanges, range.2 ≤ 0x3000 := by decide
  exact Nat.le_trans hle (hlast range hrange)

/-- No code point that is kept as a pair is blank, nor is anything in the pair. -/
theorem not_isBlank_of_isPaired {n : Nat} (h : isPaired n = true) :
    isBlank (Char.ofNat n) = false ∧ ∀ c ∈ ofPoint n, isBlank c = false := by
  -- the surrogates, and what they are kept as, lie above the last blank
  have hbig : ∀ {m : Nat}, m.isValidChar → 0x3000 < m → isBlank (Char.ofNat m) = false := by
    intro m hvalid hm
    refine Bool.eq_false_iff.mpr fun hblank => ?_
    have hle := toNat_le_of_isBlank hblank
    rw [toNat_ofNat hvalid] at hle
    omega
  obtain ⟨hlow, hhigh⟩ : 0xD800 ≤ n ∧ n ≤ 0xE000 := by simpa [isPaired] using h
  constructor
  · by_cases hvalid : n.isValidChar
    · exact hbig hvalid (by omega)
    · -- a surrogate is no character
      rw [Char.ofNat, dif_neg hvalid]
      decide
  · have hpair : ofPoint n = [pairMark, Char.ofNat (n + 0x800)] := by simp [ofPoint, h]
    have hsecond : (n + 0x800).isValidChar := by
      simp only [Nat.isValidChar]
      omega
    rw [hpair, List.forall_mem_cons]
    exact ⟨by decide, List.forall_mem_singleton.mpr (hbig hsecond (by omega))⟩

theorem keepsBlanks_point : KeepsBlanks Char.ofNat ofPoint where
  blank n hn := by
    cases hpaired : isPaired n with
    | true => simp [(not_isBlank_of_isPaired hpaired).1] at hn
    | false => simpa [ofPoint, hpaired, IsBlankText] using hn
  solid n hn := by
    cases hpaired : isPaired n with
    | true => exact (not_isBlank_of_isPaired hpaired).2
    | false => simpa [ofPoint, hpaired] using hn
  ne_nil n := by
    unfold ofPoint
    split <;> simp

theorem isSplitting_char {mark : Char} (hopener : isOpener mark = false)
    (hcloser : isCloser mark = false) : IsSplitting id id mark (splitOutside (· == mark)) := by
  have hkeep : (fun text : List Char => text.flatMap fun c => [c]) = id := by
    funext text
    simp
  have hsplit : splitLetters id (fun c => [c]) (· == mark) = splitOutside (· == mark) := by
    funext text
    simp [splitLetters, splitOutside]
  have hletters := isSplitting_splitLetters keepsBlanks_char (fun _ => beq_iff_eq) hopener hcloser
  rwa [hkeep, hsplit] at hletters

theorem isSplitting_point {mark : Nat} (hopener : isOpener (Char.ofNat mark) = false)
    (hcloser : isCloser (Char.ofNat mark) = false) :
    IsSplitting Char.ofNat ofPoints mark (splitPointsOutside (some mark)) := by
  have hmark : ∀ n, (some mark == some n) = true ↔ n = mark := fun n => by
    rw [beq_iff_eq, Option.some.injEq, eq_comm]
  exact isSplitting_splitLetters keepsBlanks_point hmark hopener hcloser

theorem splitOutside_eq_none_iff {mark : Char} (hopener : isOpener mark = false)
    (hcloser : isCloser mark = false) {text : List Char} :
    splitOutside (· == mark) text = none ↔ ¬ IsLevel id text := by
  rw [← (isSplitting_char hopener hcloser).succeeds, Option.eq_none_iff_forall_ne_some, not_exists]

/-- Splitting at a mark that is no bracket, be it a character or a code point: it succeeds exactly
for the level texts, its parts are trimmed and level with the mark only where the count is above
zero, and it gives back such parts that the mark joins.  Where it fails, the parts of a type are an
error. -/
theorem isSplitting_splitOutside :
    (∀ mark : Char, isOpener mark = false → isCloser mark = false →
      IsSplitting id id mark (splitOutside (· == mark))) ∧
    (∀ mark : Nat, isOpener (Char.ofNat mark) = false → isCloser (Char.ofNat mark) = false →
      IsSplitting Char.ofNat ofPoints mark (splitPointsOutside (some mark))) ∧
    ∀ inside, (Ty.commaParts inside = .error (.unbalanced inside) ↔ ¬ IsLevel id inside) ∧
      (Ty.semicolonParts inside = .error (.unbalanced inside) ↔ ¬ IsLevel id inside) := by
  refine ⟨fun _ => isSplitting_char, fun _ => isSplitting_point, fun inside => ⟨?comma, ?semicolon⟩⟩
  case comma =>
    have hnone := @splitOutside_eq_none_iff ',' (by decide) (by decide) inside
    rw [← hnone, Ty.commaParts]
    cases splitOutside (· == ',') inside <;> simp
  case semicolon =>
    have hnone := @splitOutside_eq_none_iff ';' (by decide) (by decide) inside
    rw [← hnone, Ty.semicolonParts]
    cases splitOutside (· == ';') inside <;> simp

/-- A list with spaces around its commas and a comma at the end; and two code points that are cut
at a surrogate, which is no character. -/
theorem isSplitting_splitOutside_spacedList :
    isOpener ',' = false ∧ isCloser ',' = false ∧
    (∀ item ∈ ["K".toList, "Vec<V, W>".toList, "(A, B)".toList],
      item ≠ [] ∧ IsTrimmedPiece id ',' item) ∧
    splitOutside (· == ',') "K ,Vec<V, W>,  (A, B), ".toList =
      some ["K".toList, "Vec<V, W>".toList, "(A, B)".toList] ∧
    isOpener (Char.ofNat 0xD800) = false ∧ isCloser (Char.ofNat 0xD800) = false ∧
    splitPointsOutside (some 0xD800) [0x61, 0x20, 0xD800, 0xD801] =
      some [ofPoints [0x61], ofPoints [0xD801]] := by
  have hitems : ∀ item ∈ ["K".toList, "Vec<V, W>".toList, "(A, B)".toList],
      item ≠ [] ∧ IsTrimmedPiece id ',' item := by decide
  have hpoints : ∀ item ∈ [[0x61], [0xD801]],
      item ≠ [] ∧ IsTrimmedPiece Char.ofNat 0xD800 item := by decide
  obtain ⟨hchar, hpoint, -⟩ := isSplitting_splitOutside
  refine ⟨by decide, by decide, hitems, ?list, by decide, by decide, ?points⟩
  case list =>
    have hspaced : List.Forall₂ (IsSpaced id ',') ["K".toList, "Vec<V, W>".toList, "(A, B)".toList]
        ["K ".toList, "Vec<V, W>".toList, "  (A, B)".toList] :=
      .cons ⟨[], [' '], by decide, by decide, by decide⟩ <|
        .cons ⟨[], [], by decide, by decide, by decide⟩ <|
          .cons ⟨[' ', ' '], [], by decide, by decide, by decide⟩ .nil
    have htext : "K ,Vec<V, W>,  (A, B), ".toList =
        [','].intercalate ["K ".toList, "Vec<V, W>".toList, "  (A, B)".toList] ++ [',', ' '] := by
      decide
    rw [htext]
    exact (hchar ',' (by decide) (by decide)).join _ _ _ hitems hspaced
      (.inr ⟨List.cons_ne_nil _ _, [' '], by decide, rfl⟩)
  case points =>
    have hspaced : List.Forall₂ (IsSpaced Char.ofNat 0xD800) [[0x61], [0xD801]]
        [[0x61, 0x20], [0xD801]] :=
      .cons ⟨[], [0x20], by decide, by decide, rfl⟩ (.cons ⟨[], [], by decide, by decide, rfl⟩ .nil)
    exact (hpoint 0xD800 (by decide) (by decide)).join _ _ [] hpoints hspaced (.inl rfl)

/-- The parts are not given back if the spaces around the mark are the mark itself, nor if there
are none and the mark stands alone. -/
theorem splitOutside_join_fails :
    (isOpener ' ' = false ∧ isCloser ' ' = false ∧
      (∀ item ∈ [['a'], ['b']], item ≠ [] ∧ IsTrimmedPiece id ' ' item) ∧
      splitOutside (· == ' ') ([' '].intercalate [['a', ' '], [' ', 'b']]) ≠ some [['a'], ['b']]) ∧
    isOpener ',' = false ∧ isCloser ',' = false ∧
      splitOutside (· == ',') ([','].intercalate [] ++ [',']) ≠ some [] := by
  decide

end FuzzSynth.Text
