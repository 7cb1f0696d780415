/-
Cutting at a mark.

The letters of a text need not be characters: `charOf` gives the character that a letter stands
for, which may be a bracket, and a letter of its own, the mark, is what is cut at.  The pieces of a
text are balanced, have the mark only inside brackets and are joined by the mark (`IsCut`), and
`chunks` gives these pieces and nothing else (`chunks_eq_some_iff_isCut`).  There are such pieces
if and only if the text balances (`isSome_chunks_iff`).
-/
import FuzzSynth.Proofs.Text.Balance

namespace FuzzSynth.Text

section Pieces

variable {α : Type} {charOf : α → Char} {isMark : α → Bool} {mark a : α} {depth : Nat}
  {rest : List α} {pieces : List (List α)}

/-- A balanced text in which marks stand only inside brackets. -/
structure IsPiece (charOf : α → Char) (isMark : α → Bool) (text : List α) : Prop where
  balanced : IsBalanced (text.map charOf)
  inside : StandsInside charOf isMark 0 text

/-- Pieces of a text that starts at depth `depth`: `mark` joins them, the first brings the depth
down to zero, and the others balance. -/
def IsCut (charOf : α → Char) (isMark : α → Bool) (mark : α) (depth : Nat) (text : List α)
    (pieces : List (List α)) : Prop :=
  ∃ first others, pieces = first :: others ∧ [mark].intercalate pieces = text ∧
    depthAfter depth (first.map charOf) = some 0 ∧ StandsInside charOf isMark depth first ∧
    ∀ piece ∈ others, IsPiece charOf isMark piece

theorem standsInside_of_forall {text : List α} (h : ∀ b ∈ text, isMark b = false) :
    StandsInside charOf isMark depth text := by
  rintro before b after rfl hb
  simp [h b (by simp)] at hb

theorem standsInside_nil : StandsInside charOf isMark depth [] :=
  standsInside_of_forall (by simp)

instance decidableStandsInside : (depth : Nat) → (text : List α) →
    Decidable (StandsInside charOf isMark depth text)
  | _, [] => isTrue standsInside_nil
  | _, _ :: rest =>
      let _ := fun next => decidableStandsInside next rest
      decidable_of_iff _ standsInside_cons.symm

/-- The induction is on the first text. -/
theorem standsInside_append {s t : List α} : StandsInside charOf isMark depth (s ++ t) ↔
    StandsInside charOf isMark depth s ∧
      ∀ next, depthAfter depth (s.map charOf) = some next → StandsInside charOf isMark next t := by
  induction s generalizing depth with
  | nil => simp [standsInside_nil, depthAfter]
  | cons a s ih =>
      rw [List.cons_append, standsInside_cons, standsInside_cons, List.map_cons, depthAfter_cons]
      cases depthStep depth (charOf a) with
      | none => simp
      | some next => simp [ih, and_assoc]

theorem intercalate_consChunk (mark a : α) (pieces : List (List α)) :
    [mark].intercalate (consChunk a pieces) = a :: [mark].intercalate pieces := by
  cases pieces with
  | nil => simp [consChunk]
  | cons first others =>
      cases others with
      | nil => simp [consChunk]
      | cons second others => simp [consChunk, List.intercalate_cons_cons]

theorem isCut_nil : IsCut charOf isMark mark depth [] pieces ↔ depth = 0 ∧ pieces = [[]] := by
  constructor
  · rintro ⟨first, others, rfl, hjoin, hdepth, -, -⟩
    cases others with
    | nil =>
        obtain rfl : first = [] := by simpa using hjoin
        exact ⟨Option.some.inj hdepth, rfl⟩
    | cons second others => simp [List.intercalate_cons_cons] at hjoin
  · rintro ⟨rfl, rfl⟩
    exact ⟨[], [], rfl, rfl, rfl, standsInside_nil, by simp⟩

theorem isCut_zero {text : List α} : IsCut charOf isMark mark 0 text pieces ↔
    pieces ≠ [] ∧ [mark].intercalate pieces = text ∧
      ∀ piece ∈ pieces, IsPiece charOf isMark piece := by
  constructor
  · rintro ⟨first, others, rfl, hjoin, hdepth, hinside, hothers⟩
    exact ⟨List.cons_ne_nil _ _, hjoin, List.forall_mem_cons.mpr ⟨⟨hdepth, hinside⟩, hothers⟩⟩
  · rintro ⟨hne, hjoin, hpieces⟩
    obtain ⟨first, others, rfl⟩ := List.exists_cons_of_ne_nil hne
    obtain ⟨hfirst, hothers⟩ := List.forall_mem_cons.mp hpieces
    exact ⟨first, others, rfl, hjoin, hfirst.balanced, hfirst.inside, hothers⟩

/-- Outside brackets, the mark ends the first piece. -/
theorem isCut_mark (hmark : isMark mark = true) : IsCut charOf isMark mark 0 (mark :: rest) pieces ↔
    ∃ inner, IsCut charOf isMark mark 0 rest inner ∧ [] :: inner = pieces := by
  constructor
  · rintro ⟨first, others, rfl, hjoin, -, hinside, hothers⟩
    cases first with
    | cons b first =>
        -- the first piece would begin with the mark
        rw [← consChunk, intercalate_consChunk] at hjoin
        obtain ⟨rfl, -⟩ := List.cons.inj hjoin
        exact absurd rfl ((standsInside_cons.mp hinside).1 hmark)
    | nil =>
        cases others with
        | nil => simp at hjoin
        | cons second others =>
            have hjoin : [mark].intercalate (second :: others) = rest := by
              simpa [List.intercalate_cons_cons] using hjoin
            exact ⟨second :: others, isCut_zero.mpr ⟨List.cons_ne_nil _ _, hjoin, hothers⟩, rfl⟩
  · rintro ⟨inner, hinner, rfl⟩
    obtain ⟨hne, hjoin, hpieces⟩ := isCut_zero.mp hinner
    obtain ⟨first, others, rfl⟩ := List.exists_cons_of_ne_nil hne
    refine ⟨[], first :: others, rfl, ?_, rfl, standsInside_nil, hpieces⟩
    rw [List.intercalate_cons_cons, hjoin]
    rfl

/-- Any other letter, and the mark inside brackets, belongs to the first piece. -/
theorem isCut_cons (hmark : ∀ b, isMark b = true ↔ b = mark) (hdepth : a = mark → depth ≠ 0) :
    IsCut charOf isMark mark depth (a :: rest) pieces ↔
      ∃ next, depthStep depth (charOf a) = some next ∧
        ∃ inner, IsCut charOf isMark mark next rest inner ∧ consChunk a inner = pieces := by
  constructor
  · rintro ⟨first, others, rfl, hjoin, hfirst, hinside, hothers⟩
    cases first with
    | nil =>
        -- so the text would begin with the mark, outside brackets
        obtain rfl : depth = 0 := Option.some.inj hfirst
        cases others with
        | nil => simp at hjoin
        | cons second others =>
            rw [List.intercalate_cons_cons] at hjoin
            obtain ⟨rfl, -⟩ := List.cons.inj hjoin
            exact absurd rfl (hdepth rfl)
    | cons b first =>
        rw [← consChunk, intercalate_consChunk] at hjoin
        obtain ⟨rfl, hrest⟩ := List.cons.inj hjoin
        rw [List.map_cons, depthAfter_cons, Option.bind_eq_some_iff] at hfirst
        obtain ⟨next, hstep, hfirst⟩ := hfirst
        have hinside := (standsInside_cons.mp hinside).2 next hstep
        exact ⟨next, hstep, first :: others,
          ⟨first, others, rfl, hrest, hfirst, hinside, hothers⟩, rfl⟩
  · rintro ⟨next, hstep, inner, ⟨first, others, rfl, hjoin, hfirst, hinside, hothers⟩, rfl⟩
    refine ⟨a :: first, others, rfl, ?_, ?_, ?_, hothers⟩
    · rw [intercalate_consChunk, hjoin]
    · rw [List.map_cons, depthAfter_cons, hstep]
      exact hfirst
    · refine standsInside_cons.mpr ⟨fun ha => hdepth ((hmark a).mp ha), fun next' hnext => ?_⟩
      obtain rfl := Option.some.inj (hstep.symm.trans hnext)
      exact hinside

/-! ## Chunks -/

variable (hmark : ∀ b, isMark b = true ↔ b = mark) (hopener : isOpener (charOf mark) = false)
  (hcloser : isCloser (charOf mark) = false)

include hmark hopener hcloser

theorem chunks_mark (rest : List α) : chunks charOf isMark 0 (mark :: rest) =
    (chunks charOf isMark 0 rest).map ([] :: ·) := by
  rw [chunks.eq_def]
  simp [hopener, hcloser, (hmark mark).mpr rfl]

omit hopener hcloser in
/-- Any other letter, and the mark inside brackets, goes to the first chunk. -/
theorem chunks_cons_eq (hdepth : a = mark → depth ≠ 0) (rest : List α) :
    chunks charOf isMark depth (a :: rest) = (depthStep depth (charOf a)).bind fun next =>
      (chunks charOf isMark next rest).map (consChunk a) := by
  have hgo : ¬ (isMark a && depth == 0) = true := by
    simp only [Bool.and_eq_true, beq_iff_eq, hmark, not_and]
    exact hdepth
  rw [chunks.eq_def, depthStep.eq_def]
  cases hopen : isOpener (charOf a) with
  | true => simp [hopen]
  | false =>
      cases hclose : isCloser (charOf a) with
      | true => cases depth <;> simp [hopen, hclose]
      | false => simp [hopen, hclose, hgo]

/-- A text is cut into the pieces that the mark joins, and into nothing else. -/
theorem chunks_eq_some_iff_isCut {text : List α} : chunks charOf isMark depth text = some pieces ↔
    IsCut charOf isMark mark depth text pieces := by
  induction text generalizing depth pieces with
  | nil =>
      rw [isCut_nil]
      cases depth with
      | zero => simp [chunks, eq_comm]
      | succ depth => simp [chunks]
  | cons a rest ih =>
      -- the mark outside brackets ends a piece, all else goes on with it
      by_cases houtside : a = mark ∧ depth = 0
      · obtain ⟨rfl, rfl⟩ := houtside
        rw [chunks_mark hmark hopener hcloser, isCut_mark ((hmark a).mpr rfl),
          Option.map_eq_some_iff]
        simp only [ih]
      · have hdepth : a = mark → depth ≠ 0 := fun ha hzero => houtside ⟨ha, hzero⟩
        rw [chunks_cons_eq hmark hdepth, isCut_cons hmark hdepth, Option.bind_eq_some_iff]
        simp only [Option.map_eq_some_iff, ih]

theorem chunks_intercalate_pieces (hne : pieces ≠ [])
    (h : ∀ piece ∈ pieces, IsPiece charOf isMark piece) :
    chunks charOf isMark 0 ([mark].intercalate pieces) = some pieces :=
  (chunks_eq_some_iff_isCut hmark hopener hcloser).mpr (isCut_zero.mpr ⟨hne, rfl, h⟩)

/-- Exactly the texts that bring the depth down to zero are cut. -/
theorem isSome_chunks_iff {text : List α} : (chunks charOf isMark depth text).isSome = true ↔
    depthAfter depth (text.map charOf) = some 0 := by
  induction text generalizing depth with
  | nil => cases depth <;> simp [chunks, depthAfter]
  | cons a rest ih =>
      by_cases houtside : a = mark ∧ depth = 0
      · obtain ⟨rfl, rfl⟩ := houtside
        rw [chunks_mark hmark hopener hcloser, Option.isSome_map, ih, List.map_cons,
          depthAfter_cons, depthStep_plain hopener hcloser, Option.bind_some]
      · rw [chunks_cons_eq hmark fun ha hzero => houtside ⟨ha, hzero⟩, List.map_cons,
          depthAfter_cons]
        cases depthStep depth (charOf a) with
        | none => simp
        | some next => rw [Option.bind_some, Option.bind_some, Option.isSome_map, ih]

end Pieces

end FuzzSynth.Text
