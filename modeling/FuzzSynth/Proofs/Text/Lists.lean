/-
Lists and their items.

Cutting a text at a mark gives the items that the mark joins: the pieces that balance and have
the mark only inside brackets (`chunks_eq_some_iff`).  `ListText` adds what the parts of a list
may leave out, a mark behind the last item.  The parts of a text are the items of a list, trimmed
(`exists_listText_of_splitOutside`), and cutting a list gives its items back
(`ListText.splitOutside_eq`).
-/
import FuzzSynth.Proofs.Text.Cutting

namespace FuzzSynth.Text

/-! ## Items -/

/-- A balanced text in which `mark` stands only inside brackets. -/
structure IsItem (mark : Char) (text : List Char) : Prop where
  balanced : IsBalanced text
  inside : OnlyInside (· == mark) 0 text

theorem isItem_iff_isPiece {mark : Char} {text : List Char} :
    IsItem mark text ↔ IsPiece id (· == mark) text :=
  ⟨fun h => ⟨(List.map_id text).symm ▸ h.balanced, onlyInside_iff.mp h.inside⟩, fun h =>
    ⟨List.map_id text ▸ h.balanced, onlyInside_iff.mpr h.inside⟩⟩

theorem IsItem.isWhole {mark : Char} {text : List Char} (h : IsItem mark text) :
    IsWhole (· == mark) text :=
  h.balanced.isWhole h.inside

theorem isItem_of_isPlain {text : List Char} (h : ∀ c ∈ text, IsPlain c) : IsItem ',' text where
  balanced := isBalanced_of_forall fun c hc => (h c hc).not_bracket
  inside := onlyInside_of_forall fun c hc => beq_eq_false_iff_ne.mpr fun hcomma =>
    h c hc (hcomma ▸ by decide)

/-- Behind a balanced text, an item does not go on with the mark or a closing bracket. -/
theorem IsItem.not_append {mark c : Char} {text rest : List Char} (h : IsItem mark (text ++ c :: rest))
    (hbalanced : IsBalanced text) : c ≠ mark ∧ depthStep 0 c ≠ none := by
  constructor
  · rintro rfl
    exact h.inside text c rest rfl (by simp) hbalanced
  · intro hnone
    have hall := h.balanced
    rw [IsBalanced, depthAfter_append, hbalanced, Option.bind_some, depthAfter_cons, hnone] at hall
    cases hall

/-- An item ends where the mark or a closing bracket stands behind it, and nowhere else. -/
theorem IsItem.eq_of_append {mark c d : Char} {s t x y : List Char} (hs : IsItem mark s)
    (ht : IsItem mark t) (hc : c = mark ∨ depthStep 0 c = none) (hd : d = mark ∨ depthStep 0 d = none)
    (h : s ++ c :: x = t ++ d :: y) : s = t := by
  -- otherwise the longer of the two goes on where the shorter one ends
  rcases List.append_eq_append_iff.mp h with ⟨u, rfl, hu⟩ | ⟨u, rfl, hu⟩
  · cases u with
    | nil => exact (List.append_nil s).symm
    | cons e u =>
        obtain ⟨rfl, -⟩ := List.cons.inj hu
        obtain ⟨hmark, hstep⟩ := ht.not_append hs.balanced
        exact absurd hc (not_or.mpr ⟨hmark, hstep⟩)
  · cases u with
    | nil => exact List.append_nil t
    | cons e u =>
        obtain ⟨rfl, -⟩ := List.cons.inj hu
        obtain ⟨hmark, hstep⟩ := hs.not_append ht.balanced
        exact absurd hd (not_or.mpr ⟨hmark, hstep⟩)

/-! ## Lists -/

/-- Pieces with `mark` between them; if there are any, it may stand behind the last as well. -/
inductive ListText (mark : Char) : List (List Char) → List Char → Prop
  | empty {blanks : List Char} (h : IsBlankText blanks) : ListText mark [] blanks
  | plain {pieces : List (List Char)} (h : pieces ≠ []) :
      ListText mark pieces ([mark].intercalate pieces)
  | trailing {pieces : List (List Char)} {blanks : List Char} (h : pieces ≠ [])
      (hblanks : IsBlankText blanks) :
      ListText mark pieces ([mark].intercalate pieces ++ mark :: blanks)

theorem intercalate_concat {α : Type} {mark : α} {pieces : List (List α)} (h : pieces ≠ [])
    (last : List α) : [mark].intercalate (pieces ++ [last]) =
      [mark].intercalate pieces ++ mark :: last := by
  induction pieces with
  | nil => exact absurd rfl h
  | cons first rest ih =>
      cases rest with
      | nil => simp
      | cons second rest =>
          rw [List.cons_append, List.cons_append, List.intercalate_cons_cons, ← List.cons_append,
            ih (List.cons_ne_nil _ _), List.intercalate_cons_cons, List.append_assoc,
            List.append_assoc, List.append_assoc]

/-- What holds of the pieces, of the mark and of blanks, and of two texts together if it holds of
each, holds of a list. -/
theorem ListText.of_forall {P : List Char → Prop} {mark : Char} {pieces : List (List Char)}
    {text : List Char} (h : ListText mark pieces text) (happend : ∀ {s t}, P s → P t → P (s ++ t))
    (hmark : P [mark]) (hblanks : ∀ {blanks}, IsBlankText blanks → P blanks)
    (hpieces : ∀ piece ∈ pieces, P piece) : P text := by
  have hjoin : ∀ {pieces : List (List Char)}, (∀ piece ∈ pieces, P piece) →
      P ([mark].intercalate pieces) := by
    intro pieces hpieces
    induction pieces with
    | nil => exact hblanks isBlankText_nil
    | cons first rest ih =>
        have hfirst := hpieces first List.mem_cons_self
        cases rest with
        | nil => rwa [List.intercalate_singleton]
        | cons second rest =>
            rw [List.intercalate_cons_cons]
            exact happend (happend hfirst hmark)
              (ih fun piece hp => hpieces piece (List.mem_cons_of_mem first hp))
  cases h with
  | empty hblank => exact hblanks hblank
  | plain => exact hjoin hpieces
  | trailing _ hblank => exact happend (hjoin hpieces) (happend hmark (hblanks hblank))

/-- Behind the last piece of a list stands nothing, or a mark and blanks. -/
theorem listText_iff {mark : Char} {pieces : List (List Char)} {text : List Char}
    (hne : pieces ≠ []) : ListText mark pieces text ↔
      ∃ tail, (tail = [] ∨ ∃ blanks, IsBlankText blanks ∧ tail = mark :: blanks) ∧
        text = [mark].intercalate pieces ++ tail := by
  constructor
  · rintro (_ | _ | ⟨_, hblanks⟩)
    · exact absurd rfl hne
    · exact ⟨[], .inl rfl, (List.append_nil _).symm⟩
    · exact ⟨_, .inr ⟨_, hblanks, rfl⟩, rfl⟩
  · rintro ⟨_, rfl | ⟨blanks, hblanks, rfl⟩, rfl⟩
    · rw [List.append_nil]
      exact .plain hne
    · exact .trailing hne hblanks

/-- In front of a piece of a list stands nothing or a mark, and behind it too. -/
theorem ListText.exists_append {mark : Char} {pieces : List (List Char)} {text : List Char}
    (h : ListText mark pieces text) {piece : List Char} (hpiece : piece ∈ pieces) :
    ∃ front back, text = front ++ (piece ++ back) ∧
      (front = [] ∨ ∃ others, front = others ++ [mark]) ∧
      (back = [] ∨ ∃ others, back = mark :: others) := by
  have hne : pieces ≠ [] := List.ne_nil_of_mem hpiece
  obtain ⟨tail, htail, rfl⟩ := (listText_iff hne).mp h
  have hend : tail = [] ∨ ∃ others, tail = mark :: others :=
    htail.imp_right fun ⟨blanks, _, heq⟩ => ⟨blanks, heq⟩
  clear h htail
  induction pieces with
  | nil => exact absurd rfl hne
  | cons first rest ih =>
      cases rest with
      | nil =>
          obtain rfl := List.mem_singleton.mp hpiece
          exact ⟨[], tail, by simp, .inl rfl, hend⟩
      | cons second rest =>
          rw [List.intercalate_cons_cons]
          rcases List.mem_cons.mp hpiece with rfl | hpiece
          · exact ⟨[], mark :: ([mark].intercalate (second :: rest) ++ tail), by simp, .inl rfl,
              .inr ⟨_, rfl⟩⟩
          · obtain ⟨front, back, heq, hfront, hback⟩ := ih hpiece (List.cons_ne_nil _ _)
            refine ⟨first ++ mark :: front, back, ?_, .inr ?_, hback⟩
            · rw [List.append_assoc, heq]
              simp
            · rcases hfront with rfl | ⟨others, rfl⟩
              · exact ⟨first, rfl⟩
              · exact ⟨first ++ mark :: others, by simp⟩

/-! ## Cutting at a mark -/

/-- Trimming leaves out the last chunk if nothing is left of it. -/
theorem trimChunks_concat (init : List (List Char)) (last : List Char) :
    trimChunks (init ++ [last]) =
      if trim last = [] then init.map trim else init.map trim ++ [trim last] := by
  induction init with
  | nil => simp [trimChunks]
  | cons first rest ih =>
      have hcons : trimChunks (first :: (rest ++ [last])) =
          trim first :: trimChunks (rest ++ [last]) := by
        cases rest <;> rfl
      rw [List.cons_append, hcons, ih]
      split <;> simp

section Marks

variable {mark : Char} (hopener : isOpener mark = false) (hcloser : isCloser mark = false)

include hopener hcloser

/-- A text is cut into the items that the mark joins, and into nothing else. -/
theorem chunks_eq_some_iff {text : List Char} {pieces : List (List Char)} :
    chunks id (· == mark) 0 text = some pieces ↔
      pieces ≠ [] ∧ [mark].intercalate pieces = text ∧ ∀ piece ∈ pieces, IsItem mark piece := by
  rw [chunks_eq_some_iff_isCut (fun _ => beq_iff_eq) hopener hcloser, isCut_zero]
  simp only [isItem_iff_isPiece]

theorem IsWhole.isItem {text : List Char} (h : IsWhole (· == mark) text) : IsItem mark text := by
  obtain ⟨-, -, hitems⟩ := (chunks_eq_some_iff hopener hcloser).mp h.chunks_eq
  exact hitems text (List.mem_singleton.mpr rfl)

theorem chunks_intercalate {pieces : List (List Char)} (hne : pieces ≠ [])
    (h : ∀ piece ∈ pieces, IsWhole (· == mark) piece) :
    chunks id (· == mark) 0 ([mark].intercalate pieces) = some pieces :=
  (chunks_eq_some_iff hopener hcloser).mpr
    ⟨hne, rfl, fun piece hpiece => (h piece hpiece).isItem hopener hcloser⟩

/-- The parts of a text are the trimmed items of a list. -/
theorem exists_listText_of_splitOutside {text : List Char} {parts : List (List Char)}
    (h : splitOutside (· == mark) text = some parts) :
    ∃ pieces, pieces.map trim = parts ∧ ListText mark pieces text ∧
      ∀ piece ∈ pieces, IsItem mark piece := by
  obtain ⟨raw, hraw, rfl⟩ := Option.map_eq_some_iff.mp h
  obtain ⟨hne, hjoin, hitems⟩ := (chunks_eq_some_iff hopener hcloser).mp hraw
  obtain ⟨init, last, rfl⟩ : ∃ init last, raw = init ++ [last] :=
    ⟨_, _, (List.dropLast_concat_getLast hne).symm⟩
  rw [trimChunks_concat]
  split
  · next hlast =>
      -- nothing is left of the last chunk, so it ends a list or is all there is
      have hblank := isBlankText_of_trim_eq_nil hlast
      refine ⟨init, rfl, ?_, fun piece hp => hitems piece (by simp [hp])⟩
      cases init with
      | nil =>
          obtain rfl : last = text := by simpa using hjoin
          exact .empty hblank
      | cons first rest =>
          rw [intercalate_concat (List.cons_ne_nil _ _)] at hjoin
          exact hjoin ▸ .trailing (List.cons_ne_nil _ _) hblank
  · exact ⟨init ++ [last], by simp, hjoin ▸ .plain hne, hitems⟩

/-- Cutting a list at its marks gives its items trimmed, if each is whole and not blank. -/
theorem ListText.splitOutside_eq {text : List Char} {pieces : List (List Char)}
    (h : ListText mark pieces text) (hmark : isBlank mark = false)
    (hwhole : ∀ piece ∈ pieces, IsWhole (· == mark) piece)
    (hsolid : ∀ piece ∈ pieces, trim piece ≠ []) :
    splitOutside (· == mark) text = some (pieces.map trim) := by
  have hblank : ∀ {blanks : List Char}, IsBlankText blanks → IsWhole (· == mark) blanks := by
    refine fun hblanks => hblanks.isWhole fun c hc => beq_eq_false_iff_ne.mpr ?_
    rintro rfl
    exact Bool.false_ne_true (hmark.symm.trans hc)
  cases h with
  | empty hblanks =>
      rw [splitOutside, (hblank hblanks).chunks_eq]
      simp [trimChunks, hblanks.trim_eq_nil]
  | plain hne =>
      rw [splitOutside, chunks_intercalate hopener hcloser hne hwhole, Option.map_some,
        trimChunks_eq_map hsolid]
  | @trailing _ blanks hne hblanks =>
      have hall : ∀ piece ∈ pieces ++ [blanks], IsWhole (· == mark) piece := by
        simpa [or_imp, forall_and] using ⟨hwhole, hblank hblanks⟩
      rw [splitOutside, ← intercalate_concat hne, chunks_intercalate hopener hcloser (by simp) hall,
        Option.map_some, trimChunks_concat, if_pos hblanks.trim_eq_nil]

end Marks

end FuzzSynth.Text
