/-
Brackets that balance.

`depthAfter` counts the levels that a text leaves open, all kinds of brackets together.  A text
is balanced if it closes what it opens and nothing else; in brackets such a text is never cut
(`IsBalanced.isNested`), and nowhere if its separators stand inside brackets of its own.

The count does not see which bracket closes which.  `openAfter` does: it keeps the brackets that
are still open, and a text is matched if each is closed by one of its own kind.
-/
import FuzzSynth.Proofs.Text.Pieces

namespace FuzzSynth.Text

/-! ## Depth -/

/-- The bracket depth behind a character; `none` if it closes a level that was never opened. -/
def depthStep (depth : Nat) (c : Char) : Option Nat :=
  if isOpener c then some (depth + 1)
  else if isCloser c then
    match depth with
    | 0 => none
    | outer + 1 => some outer
  else some depth

/-- The bracket depth behind a text that starts at depth `depth`. -/
def depthAfter (depth : Nat) (text : List Char) : Option Nat :=
  text.foldlM depthStep depth

/-- As many brackets are closed as opened, and none before one is open. -/
def IsBalanced (text : List Char) : Prop :=
  depthAfter 0 text = some 0

/-- The separators in a text that starts at depth `depth` stand at other depths than zero. -/
def OnlyInside (isSeparator : Char → Bool) (depth : Nat) (text : List Char) : Prop :=
  ∀ before c after, text = before ++ c :: after → isSeparator c = true →
    depthAfter depth before ≠ some 0

/-- The same of a text whose letters stand for characters. -/
def StandsInside {α : Type} (charOf : α → Char) (isMark : α → Bool) (depth : Nat)
    (text : List α) : Prop :=
  ∀ before a after, text = before ++ a :: after → isMark a = true →
    depthAfter depth (before.map charOf) ≠ some 0

theorem depthAfter_cons {depth : Nat} {c : Char} {rest : List Char} :
    depthAfter depth (c :: rest) = (depthStep depth c).bind (depthAfter · rest) := by
  rw [depthAfter, List.foldlM_cons]
  rfl

theorem depthAfter_append {depth : Nat} {s t : List Char} :
    depthAfter depth (s ++ t) = (depthAfter depth s).bind (depthAfter · t) := by
  rw [depthAfter, List.foldlM_append]
  rfl

theorem depthStep_opener {c : Char} (h : isOpener c = true) (depth : Nat) :
    depthStep depth c = some (depth + 1) := by
  simp [depthStep, h]

theorem depthStep_closer {c : Char} (hopener : isOpener c = false) (h : isCloser c = true)
    (depth : Nat) : depthStep (depth + 1) c = some depth := by
  simp [depthStep, hopener, h]

theorem depthStep_plain {c : Char} (hopener : isOpener c = false) (hcloser : isCloser c = false)
    (depth : Nat) : depthStep depth c = some depth := by
  simp [depthStep, hopener, hcloser]

/-- A step is the same inside further brackets. -/
theorem depthStep_add {depth after : Nat} {c : Char} (h : depthStep depth c = some after)
    (outer : Nat) : depthStep (depth + outer) c = some (after + outer) := by
  unfold depthStep at h ⊢
  split
  · next hopener =>
      obtain rfl : depth + 1 = after := by simpa [hopener] using h
      exact congrArg some (Nat.add_right_comm ..)
  · next hopener =>
      split
      · next hcloser =>
          cases depth with
          | zero => simp [hopener, hcloser] at h
          | succ inner =>
              obtain rfl : inner = after := by simpa [hopener, hcloser] using h
              rw [Nat.add_right_comm]
      · next hcloser =>
          obtain rfl : depth = after := by simpa [hopener, hcloser] using h
          rfl

theorem depthAfter_add {depth after : Nat} {text : List Char}
    (h : depthAfter depth text = some after) (outer : Nat) :
    depthAfter (depth + outer) text = some (after + outer) := by
  induction text generalizing depth with
  | nil =>
      obtain rfl := Option.some.inj h
      rfl
  | cons c rest ih =>
      rw [depthAfter_cons, Option.bind_eq_some_iff] at h
      obtain ⟨between, hstep, hrest⟩ := h
      rw [depthAfter_cons, depthStep_add hstep, Option.bind_some, ih hrest]

theorem isBalanced_of_forall {text : List Char}
    (h : ∀ c ∈ text, isOpener c = false ∧ isCloser c = false) : IsBalanced text := by
  induction text with
  | nil => rfl
  | cons c rest ih =>
      obtain ⟨hopener, hcloser⟩ := h c List.mem_cons_self
      rw [IsBalanced, depthAfter_cons, depthStep_plain hopener hcloser]
      exact ih fun d hd => h d (List.mem_cons_of_mem c hd)

section Separators

variable {isSeparator : Char → Bool} {depth : Nat} {c : Char} {rest : List Char}

theorem onlyInside_iff {text : List Char} :
    OnlyInside isSeparator depth text ↔ StandsInside id isSeparator depth text := by
  simp [OnlyInside, StandsInside]

theorem standsInside_cons {α : Type} {charOf : α → Char} {isMark : α → Bool} {a : α}
    {rest : List α} : StandsInside charOf isMark depth (a :: rest) ↔
    (isMark a = true → depth ≠ 0) ∧
      ∀ next, depthStep depth (charOf a) = some next → StandsInside charOf isMark next rest := by
  constructor
  · refine fun h => ⟨fun ha => ?_, fun next hnext before d after heq hd => ?_⟩
    · have hfirst := h [] a rest rfl ha
      exact fun hdepth => hfirst (congrArg some hdepth)
    · have hbehind := h (a :: before) d after (by rw [heq]; rfl) hd
      rwa [List.map_cons, depthAfter_cons, hnext] at hbehind
  · rintro ⟨hfirst, hrest⟩ before d after heq hd
    cases before with
    | nil =>
        obtain ⟨rfl, rfl⟩ := List.cons.inj heq
        exact fun hdepth => hfirst hd (Option.some.inj hdepth)
    | cons b before =>
        obtain ⟨rfl, rfl⟩ := List.cons.inj heq
        rw [List.map_cons, depthAfter_cons]
        cases hnext : depthStep depth (charOf a) with
        | none => simp
        | some next => exact hrest next hnext before d after rfl hd

theorem onlyInside_cons : OnlyInside isSeparator depth (c :: rest) ↔
    (isSeparator c = true → depth ≠ 0) ∧
      ∀ next, depthStep depth c = some next → OnlyInside isSeparator next rest := by
  simp only [onlyInside_iff, standsInside_cons, id]

theorem onlyInside_of_forall {text : List Char} (h : ∀ c ∈ text, isSeparator c = false) :
    OnlyInside isSeparator depth text := by
  rintro before c after rfl hc
  simp [h c (by simp)] at hc

/-- Inside brackets every separator is. -/
theorem IsBalanced.onlyInside {text : List Char} (h : IsBalanced text) :
    OnlyInside isSeparator 1 text := by
  rintro before c after rfl -
  rw [IsBalanced, depthAfter_append, Option.bind_eq_some_iff] at h
  obtain ⟨between, hbefore, -⟩ := h
  have hinner : depthAfter 1 before = some (between + 1) :=
    Nat.zero_add 1 ▸ depthAfter_add hbefore 1
  rw [hinner]
  simp

/-! ## Cutting -/

/-- Where no cut is made, the chunks go on. -/
theorem chunks_cons {next : Nat} (hstep : depthStep depth c = some next)
    (hinside : isSeparator c = true → depth ≠ 0) :
    chunks id isSeparator depth (c :: rest) =
      (chunks id isSeparator next rest).map (consChunk c) := by
  cases hopener : isOpener c with
  | true =>
      obtain rfl : depth + 1 = next := by simpa [depthStep_opener hopener] using hstep
      exact chunks_opener hopener depth rest
  | false =>
      cases hcloser : isCloser c with
      | true =>
          cases depth with
          | zero => simp [depthStep, hopener, hcloser] at hstep
          | succ outer =>
              obtain rfl : outer = next := by
                simpa [depthStep_closer hopener hcloser] using hstep
              exact chunks_closer hopener hcloser outer rest
      | false =>
          obtain rfl : depth = next := by simpa [depthStep_plain hopener hcloser] using hstep
          have hplain : isSeparator c = false ∨ depth ≠ 0 := by
            cases hc : isSeparator c with
            | false => exact .inl rfl
            | true => exact .inr (hinside hc)
          exact chunks_plain hopener hcloser hplain rest

/-- The induction is on the text, inside any further brackets. -/
theorem chunks_append_of_depthAfter {after : Nat} {text : List Char}
    (h : depthAfter depth text = some after) (hinside : OnlyInside isSeparator depth text)
    (outer : Nat) (rest : List Char) :
    chunks id isSeparator (depth + outer) (text ++ rest) =
      (chunks id isSeparator (after + outer) rest).map (prependTo text) := by
  induction text generalizing depth with
  | nil =>
      obtain rfl := Option.some.inj h
      exact isWhole_nil _ rest
  | cons c text ih =>
      obtain ⟨hfirst, hrest⟩ := onlyInside_cons.mp hinside
      rw [depthAfter_cons, Option.bind_eq_some_iff] at h
      obtain ⟨next, hstep, hafter⟩ := h
      have hdepth : isSeparator c = true → depth + outer ≠ 0 := fun hc hzero =>
        hfirst hc (Nat.eq_zero_of_add_eq_zero_right hzero)
      rw [List.cons_append, chunks_cons (depthStep_add hstep outer) hdepth,
        ih hafter (hrest next hstep), Option.map_map]
      rfl

theorem IsBalanced.isNested {text : List Char} (h : IsBalanced text) :
    IsNested isSeparator text := by
  intro outer rest
  -- one level further in, where no separator is outside
  have hinner : depthAfter 1 text = some 1 := depthAfter_add h 1
  rw [Nat.add_comm outer 1]
  exact chunks_append_of_depthAfter hinner h.onlyInside outer rest

theorem IsBalanced.isWhole {text : List Char} (h : IsBalanced text)
    (hinside : OnlyInside isSeparator 0 text) : IsWhole isSeparator text := by
  intro outer rest
  have hcut := chunks_append_of_depthAfter h hinside outer rest
  rwa [Nat.zero_add] at hcut

theorem IsBlankText.isWhole {text : List Char} (h : IsBlankText text)
    (hseparator : ∀ c, isBlank c = true → isSeparator c = false) : IsWhole isSeparator text := by
  refine isWhole_of_forall fun c hc => ?_
  obtain ⟨hopener, hcloser⟩ := (isPlain_of_isBlank (h c hc)).not_bracket
  exact ⟨hopener, hcloser, hseparator c (h c hc)⟩

end Separators

/-! ## Kinds of brackets -/

/-- The bracket that closes an opening one. -/
def closerOf : Char → Char
  | '<' => '>'
  | '[' => ']'
  | _ => ')'

theorem isCloser_closerOf {opener : Char} (h : isOpener opener = true) :
    isCloser (closerOf opener) = true ∧ isOpener (closerOf opener) = false := by
  have hkind : opener = '<' ∨ opener = '[' ∨ opener = '(' := by simpa [isOpener, or_assoc] using h
  rcases hkind with rfl | rfl | rfl <;> decide

/-- The open brackets behind a character, innermost first; `none` if it closes another one than
the innermost. -/
def openStep (opened : List Char) (c : Char) : Option (List Char) :=
  if isOpener c then some (c :: opened)
  else if isCloser c then
    match opened with
    | [] => none
    | opener :: outer => if closerOf opener = c then some outer else none
  else some opened

/-- The open brackets behind a text. -/
def openAfter (opened : List Char) (text : List Char) : Option (List Char) :=
  text.foldlM openStep opened

/-- Brackets are properly nested, and each is closed by one of its own kind. -/
def IsMatched (text : List Char) : Prop :=
  openAfter [] text = some []

instance (text : List Char) : Decidable (IsMatched text) :=
  inferInstanceAs (Decidable (openAfter [] text = some []))

theorem openAfter_append {opened s t : List Char} :
    openAfter opened (s ++ t) = (openAfter opened s).bind (openAfter · t) := by
  rw [openAfter, List.foldlM_append]
  rfl

theorem openAfter_cons {opened rest : List Char} {c : Char} :
    openAfter opened (c :: rest) = (openStep opened c).bind (openAfter · rest) := by
  rw [openAfter, List.foldlM_cons]
  rfl

theorem openStep_outer {opened after : List Char} {c : Char} (h : openStep opened c = some after)
    (outer : List Char) : openStep (opened ++ outer) c = some (after ++ outer) := by
  unfold openStep at h ⊢
  split
  · next hopener =>
      obtain rfl : c :: opened = after := by simpa [hopener] using h
      rfl
  · next hopener =>
      split
      · next hcloser =>
          cases opened with
          | nil => simp [hopener, hcloser] at h
          | cons opener opened =>
              obtain ⟨hkind, rfl⟩ : closerOf opener = c ∧ opened = after := by
                simpa [hopener, hcloser] using h
              simp [hkind]
      · next hcloser =>
          obtain rfl : opened = after := by simpa [hopener, hcloser] using h
          rfl

theorem openAfter_outer {opened after text : List Char} (h : openAfter opened text = some after)
    (outer : List Char) : openAfter (opened ++ outer) text = some (after ++ outer) := by
  induction text generalizing opened with
  | nil =>
      obtain rfl := Option.some.inj h
      rfl
  | cons c rest ih =>
      rw [openAfter_cons, Option.bind_eq_some_iff] at h
      obtain ⟨between, hstep, hrest⟩ := h
      rw [openAfter_cons, openStep_outer hstep, Option.bind_some, ih hrest]

namespace IsMatched

theorem nil : IsMatched [] :=
  rfl

theorem append {s t : List Char} (hs : IsMatched s) (ht : IsMatched t) : IsMatched (s ++ t) := by
  rw [IsMatched, openAfter_append, hs]
  exact ht

theorem of_forall {text : List Char} (h : ∀ c ∈ text, isOpener c = false ∧ isCloser c = false) :
    IsMatched text := by
  induction text with
  | nil => exact nil
  | cons c rest ih =>
      obtain ⟨hopener, hcloser⟩ := h c List.mem_cons_self
      have hstep : openStep [] c = some [] := by simp [openStep, hopener, hcloser]
      rw [IsMatched, openAfter_cons, hstep]
      exact ih fun d hd => h d (List.mem_cons_of_mem c hd)

/-- Brackets of one kind around a matched text. -/
theorem bracketed {text : List Char} (h : IsMatched text) {opener : Char}
    (hopener : isOpener opener = true) : IsMatched (opener :: text ++ [closerOf opener]) := by
  have hopen : openStep [] opener = some [opener] := by simp [openStep, hopener]
  have hclose : openStep [opener] (closerOf opener) = some [] := by
    obtain ⟨hcloser, hneither⟩ := isCloser_closerOf hopener
    simp [openStep, hcloser, hneither]
  have hinside : openAfter [opener] text = some [opener] := openAfter_outer h [opener]
  rw [IsMatched, List.cons_append, openAfter_cons, hopen, Option.bind_some, openAfter_append, hinside,
    Option.bind_some, openAfter_cons, hclose]
  rfl

end IsMatched

end FuzzSynth.Text
