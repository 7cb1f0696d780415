/-
Texts that are cut in pieces.

A text is whole when cutting at separators outside brackets never cuts inside it, whatever
stands around it (`IsWhole`); it is nested when that holds at least inside brackets
(`IsNested`).  So brackets around a nested text make it whole (`IsNested.bracketed`), and
whole texts with commas between them are the parts that cutting at commas gives back
(`splitOutside_commaJoin`).
-/
import FuzzSynth.Proofs.Text.Trimming
import FuzzSynth.Text.Brackets
import FuzzSynth.Ty.Printer

namespace FuzzSynth.Text

/-! ## Plain characters -/

/-- Brackets, and the marks between the items of lists. -/
def structureMarks : List Char :=
  [',', ';', '<', '[', '(', '>', ']', ')']

/-- A character that is no bracket, no comma and no semicolon. -/
def IsPlain (c : Char) : Prop :=
  c ∉ structureMarks

instance (c : Char) : Decidable (IsPlain c) :=
  inferInstanceAs (Decidable (c ∉ structureMarks))

/-- The characters of a class are plain if no mark of structure belongs to it. -/
theorem isPlain_of_class {p : Char → Bool} (h : structureMarks.all (fun d => !p d) = true) {c : Char}
    (hc : p c = true) : IsPlain c := by
  intro hmem
  simpa [hc] using List.all_eq_true.mp h c hmem

theorem isPlain_of_isBlank {c : Char} (h : isBlank c = true) : IsPlain c :=
  isPlain_of_class (by decide) h

theorem IsPlain.not_bracket {c : Char} (h : IsPlain c) : isOpener c = false ∧ isCloser c = false := by
  simp only [IsPlain, structureMarks, List.mem_cons, List.not_mem_nil, or_false, not_or] at h
  simp [isOpener, isCloser, h]

/-! ## Cutting -/

/-- The chunks with a text in front of the first of them. -/
def prependTo (text : List Char) (pieces : List (List Char)) : List (List Char) :=
  text.foldr consChunk pieces

@[simp] theorem prependTo_cons (text piece : List Char) (pieces : List (List Char)) :
    prependTo text (piece :: pieces) = (text ++ piece) :: pieces := by
  induction text with
  | nil => rfl
  | cons c rest ih =>
      rw [prependTo, List.foldr_cons]
      rw [prependTo] at ih
      rw [ih]
      rfl

theorem prependTo_append (s t : List Char) : prependTo (s ++ t) = prependTo s ∘ prependTo t := by
  funext pieces
  exact List.foldr_append ..

variable {isSeparator : Char → Bool}

theorem chunks_opener {c : Char} (h : isOpener c = true) (depth : Nat) (rest : List Char) :
    chunks id isSeparator depth (c :: rest) =
      (chunks id isSeparator (depth + 1) rest).map (consChunk c) := by
  rw [chunks.eq_def]
  simp [h]

theorem chunks_closer {c : Char} (hopener : isOpener c = false) (h : isCloser c = true) (depth : Nat)
    (rest : List Char) : chunks id isSeparator (depth + 1) (c :: rest) =
      (chunks id isSeparator depth rest).map (consChunk c) := by
  rw [chunks.eq_def]
  simp [hopener, h]

/-- A character that is no bracket, and no separator or not at depth zero. -/
theorem chunks_plain {c : Char} (hopener : isOpener c = false) (hcloser : isCloser c = false)
    {depth : Nat} (h : isSeparator c = false ∨ depth ≠ 0) (rest : List Char) :
    chunks id isSeparator depth (c :: rest) =
      (chunks id isSeparator depth rest).map (consChunk c) := by
  rw [chunks.eq_def]
  simp only [id_eq, hopener, hcloser, Bool.false_eq_true, if_false]
  split
  · next hmark =>
      simp only [Bool.and_eq_true, beq_iff_eq] at hmark
      rcases h with h | h
      · simp [h] at hmark
      · exact absurd hmark.2 h
  · rfl

theorem chunks_separator {c : Char} (hopener : isOpener c = false) (hcloser : isCloser c = false)
    (h : isSeparator c = true) (rest : List Char) :
    chunks id isSeparator 0 (c :: rest) = (chunks id isSeparator 0 rest).map ([] :: ·) := by
  rw [chunks.eq_def]
  simp [hopener, hcloser, h]

/-- Nothing is cut inside the text, at any depth. -/
def IsWhole (isSeparator : Char → Bool) (text : List Char) : Prop :=
  ∀ depth rest, chunks id isSeparator depth (text ++ rest) =
    (chunks id isSeparator depth rest).map (prependTo text)

/-- Nothing is cut inside the text when it stands in brackets. -/
def IsNested (isSeparator : Char → Bool) (text : List Char) : Prop :=
  ∀ depth rest, chunks id isSeparator (depth + 1) (text ++ rest) =
    (chunks id isSeparator (depth + 1) rest).map (prependTo text)

theorem isWhole_nil : IsWhole isSeparator [] := by
  intro depth rest
  have hid : prependTo [] = id := rfl
  simp [hid]

theorem IsWhole.isNested {text : List Char} (h : IsWhole isSeparator text) :
    IsNested isSeparator text :=
  fun depth rest => h (depth + 1) rest

theorem IsWhole.append {s t : List Char} (hs : IsWhole isSeparator s) (ht : IsWhole isSeparator t) :
    IsWhole isSeparator (s ++ t) := by
  intro depth rest
  rw [List.append_assoc, hs, ht, Option.map_map, prependTo_append]

theorem IsNested.append {s t : List Char} (hs : IsNested isSeparator s)
    (ht : IsNested isSeparator t) : IsNested isSeparator (s ++ t) := by
  intro depth rest
  rw [List.append_assoc, hs, ht, Option.map_map, prependTo_append]

/-- A character that is no bracket and no separator. -/
theorem isWhole_singleton {c : Char} (hopener : isOpener c = false) (hcloser : isCloser c = false)
    (hseparator : isSeparator c = false) : IsWhole isSeparator [c] :=
  fun _ rest => chunks_plain hopener hcloser (.inl hseparator) rest

/-- A character that is no bracket. -/
theorem isNested_singleton {c : Char} (hopener : isOpener c = false) (hcloser : isCloser c = false) :
    IsNested isSeparator [c] :=
  fun depth rest => chunks_plain hopener hcloser (.inr (Nat.succ_ne_zero depth)) rest

theorem isWhole_of_forall {text : List Char}
    (h : ∀ c ∈ text, isOpener c = false ∧ isCloser c = false ∧ isSeparator c = false) :
    IsWhole isSeparator text := by
  induction text with
  | nil => exact isWhole_nil
  | cons c rest ih =>
      obtain ⟨hopener, hcloser, hseparator⟩ := h c List.mem_cons_self
      exact (isWhole_singleton hopener hcloser hseparator).append
        (ih fun d hd => h d (List.mem_cons_of_mem c hd))

/-- Brackets make a nested text whole. -/
theorem IsNested.bracketed {text : List Char} (h : IsNested isSeparator text) {opener closer : Char}
    (hopener : isOpener opener = true) (hcloser : isCloser closer = true)
    (hneither : isOpener closer = false) : IsWhole isSeparator (opener :: text ++ [closer]) := by
  intro depth rest
  have hsplit : opener :: text ++ [closer] ++ rest = opener :: (text ++ closer :: rest) := by simp
  rw [hsplit, chunks_opener hopener, h, chunks_closer hneither hcloser, Option.map_map,
    Option.map_map]
  congr 1
  funext pieces
  simp [prependTo]

/-- A separator behind a whole text ends its chunk. -/
theorem IsWhole.chunks_append {text : List Char} (h : IsWhole isSeparator text) {mark : Char}
    (hopener : isOpener mark = false) (hcloser : isCloser mark = false)
    (hmark : isSeparator mark = true) (rest : List Char) :
    chunks id isSeparator 0 (text ++ mark :: rest) =
      (chunks id isSeparator 0 rest).map (text :: ·) := by
  rw [h, chunks_separator hopener hcloser hmark, Option.map_map]
  simp [Function.comp_def]

theorem IsWhole.chunks_eq {text : List Char} (h : IsWhole isSeparator text) :
    chunks id isSeparator 0 text = some [text] := by
  have hall := h 0 []
  rw [List.append_nil] at hall
  rw [hall]
  simp [chunks]

/-! ## Parts -/

/-- A whole text that is not empty and has no blanks at its ends. -/
structure IsPart (isSeparator : Char → Bool) (text : List Char) : Prop where
  whole : IsWhole isSeparator text
  trimmed : trim text = text
  ne_nil : text ≠ []

theorem splitOutside_nil : splitOutside isSeparator [] = some [] := by
  simp [splitOutside, chunks, trimChunks, trim, trimLeft, trimRight]

theorem IsPart.splitOutside_eq {text : List Char} (h : IsPart isSeparator text) :
    splitOutside isSeparator text = some [text] := by
  simp [splitOutside, h.whole.chunks_eq, trimChunks, h.trimmed, h.ne_nil]

/-- A separator at the end makes no further part. -/
theorem IsPart.splitOutside_concat {text : List Char} (h : IsPart isSeparator text) {mark : Char}
    (hopener : isOpener mark = false) (hcloser : isCloser mark = false)
    (hmark : isSeparator mark = true) : splitOutside isSeparator (text ++ [mark]) = some [text] := by
  have htrim : trim [] = [] := rfl
  rw [splitOutside, h.whole.chunks_append hopener hcloser hmark]
  simp [chunks, trimChunks, h.trimmed, htrim]

/-- If something is left of each chunk, the parts are the trimmed chunks. -/
theorem trimChunks_eq_map {pieces : List (List Char)} (h : ∀ piece ∈ pieces, trim piece ≠ []) :
    trimChunks pieces = pieces.map trim := by
  fun_induction trimChunks pieces with
  | case1 => rfl
  | case2 last hlast => exact absurd hlast (h last List.mem_cons_self)
  | case3 last _ => rfl
  | case4 chunk rest _ ih =>
      rw [ih fun piece hp => h piece (List.mem_cons_of_mem chunk hp), List.map_cons]

/-- Two parts with a separator and a blank between them. -/
theorem IsPart.splitOutside_pair {s t : List Char} (hs : IsPart isSeparator s)
    (ht : IsPart isSeparator t) {mark : Char} (hopener : isOpener mark = false)
    (hcloser : isCloser mark = false) (hmark : isSeparator mark = true)
    (hblank : isSeparator ' ' = false) :
    splitOutside isSeparator (s ++ mark :: ' ' :: t) = some [s, t] := by
  have hspace : IsWhole isSeparator (' ' :: t) :=
    (isWhole_singleton (by decide) (by decide) hblank).append ht.whole
  have htrim : trim (' ' :: t) = t := (trim_cons_blank (by decide) t).trans ht.trimmed
  rw [splitOutside, hs.whole.chunks_append hopener hcloser hmark, hspace.chunks_eq]
  simp [trimChunks_eq_map, hs.trimmed, htrim, hs.ne_nil, ht.ne_nil]

/-! ## Lists -/

/-- The parts joined by commas are nested if they are. -/
theorem isNested_commaJoin {parts : List (List Char)} (h : ∀ part ∈ parts, IsNested isSeparator part) :
    IsNested isSeparator (commaJoin parts) := by
  fun_induction commaJoin parts with
  | case1 => exact isWhole_nil.isNested
  | case2 only => exact h only List.mem_cons_self
  | case3 first rest _ ih =>
      have hcomma : IsNested isSeparator [','] := isNested_singleton (by decide) (by decide)
      have hspace : IsNested isSeparator [' '] := isNested_singleton (by decide) (by decide)
      exact (h first List.mem_cons_self).append
        (hcomma.append (hspace.append (ih fun part hp => h part (List.mem_cons_of_mem first hp))))

theorem chunks_commaJoin {first : List Char} {rest : List (List Char)}
    (h : ∀ part ∈ first :: rest, IsWhole (· == ',') part) :
    chunks id (· == ',') 0 (commaJoin (first :: rest)) = some (first :: rest.map (' ' :: ·)) := by
  induction rest generalizing first with
  | nil => exact (h first List.mem_cons_self).chunks_eq
  | cons second rest ih =>
      -- the blank behind the comma belongs to the next chunk
      have hjoin : commaJoin (first :: second :: rest) =
          first ++ ',' :: ' ' :: commaJoin (second :: rest) := by
        rw [commaJoin]
        simp
      have hspace : IsWhole (· == ',') [' '] :=
        isWhole_singleton (by decide) (by decide) (by decide)
      have htail := ih fun part hp => h part (List.mem_cons_of_mem first hp)
      have hnext := hspace 0 (commaJoin (second :: rest))
      rw [List.singleton_append, htail] at hnext
      rw [hjoin, (h first List.mem_cons_self).chunks_append (by decide) (by decide) (by decide), hnext]
      rfl

/-- Cutting at commas gives back the parts that commas join. -/
theorem splitOutside_commaJoin {parts : List (List Char)}
    (h : ∀ part ∈ parts, IsPart (· == ',') part) :
    splitOutside (· == ',') (commaJoin parts) = some parts := by
  cases parts with
  | nil => exact splitOutside_nil
  | cons first rest =>
      have htrim : ∀ part ∈ rest, (trim ∘ (' ' :: ·)) part = part := fun part hp =>
        (trim_cons_blank (by decide) part).trans (h part (List.mem_cons_of_mem first hp)).trimmed
      have hmap : (first :: rest.map (' ' :: ·)).map trim = first :: rest := by
        rw [List.map_cons, (h first List.mem_cons_self).trimmed, List.map_map,
          List.map_congr_left htrim, List.map_id']
      rw [splitOutside, chunks_commaJoin fun part hp => (h part hp).whole, Option.map_some,
        trimChunks_eq_map, hmap]
      -- nothing is lost by trimming, so no chunk is blank
      intro piece hpiece
      have hmem : trim piece ∈ first :: rest := hmap ▸ List.mem_map_of_mem hpiece
      exact (h _ hmem).ne_nil

end FuzzSynth.Text
