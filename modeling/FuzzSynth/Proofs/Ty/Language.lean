/-
The language of the reader.

Two things let the reader accept what the strict grammar does not have: it skips any type argument
that begins with an apostrophe, and a semicolon in front of `]` makes no part.  Tidy texts have
neither (`IsTidy`), and what is read from them is written strictly (`Written.strict_of_isTidy`).
-/
import Mathlib
import FuzzSynth.Proofs.Ty.Acceptance

namespace FuzzSynth
namespace Ty

open FuzzSynth.Text

variable {params : List String}

/-! ## Tidy texts -/

/-- Whatever the reader skips as a lifetime is one, and no semicolon stands in front of `]`: an
apostrophe behind `<` or a comma begins a lifetime that is all of the argument. -/
structure IsTidy (text : List Char) : Prop where
  lifetime : ∀ {before after blanks : List Char} {c : Char},
    text = before ++ c :: (blanks ++ '\'' :: after) → c = '<' ∨ c = ',' → IsBlankText blanks →
      ∃ name back d rest, after = name ++ (back ++ d :: rest) ∧ IsIdentifier name ∧
        IsBlankText back ∧ (d = ',' ∨ d = '>')
  length : ∀ {before after blanks : List Char},
    text = before ++ ';' :: (blanks ++ ']' :: after) → ¬IsBlankText blanks

theorem IsLifetimeName.trim_eq {text : List Char} (h : IsLifetimeName text) : trim text = text := by
  obtain ⟨_, ⟨first, rest, rfl, hfirst, hrest⟩, rfl⟩ := h
  have hsolid : ∀ c ∈ '\'' :: first :: rest, isBlank c = false := by
    intro c hc
    rcases List.mem_cons.mp hc with rfl | hc
    · decide
    · rcases List.mem_cons.mp hc with rfl | hc
      · exact isBlank_of_isIdentChar (isIdentChar_of_isIdentStart hfirst)
      · exact isBlank_of_isIdentChar (hrest c hc)
  exact trim_eq_self (fun c hc => hsolid c (List.mem_of_mem_head? hc))
    fun c hc => hsolid c (List.mem_of_mem_getLast? hc)

/-- An item that begins like a lifetime is one if the lifetime is followed by what ends an item. -/
theorem isLifetimeName_of_tidy {item front rest after : List Char} (hitem : IsItem ',' item)
    (hquote : item = front ++ '\'' :: rest) (hfront : IsBlankText front) {e : Char}
    (he : e = ',' ∨ e = '>')
    (htidy : ∃ name back d others, rest ++ e :: after = name ++ (back ++ d :: others) ∧
      IsIdentifier name ∧ IsBlankText back ∧ (d = ',' ∨ d = '>')) : IsLifetimeName (trim item) := by
  obtain ⟨name, back, d, others, hrest, hname, hback, hd⟩ := htidy
  have hlifetime : IsLifetimeName ('\'' :: name) := ⟨name, hname, rfl⟩
  have hplain : ∀ c ∈ front ++ '\'' :: name ++ back, IsPlain c := by
    intro c hc
    rw [List.mem_append, List.mem_append] at hc
    rcases hc with (hc | hc) | hc
    · exact isPlain_of_isBlank (hfront c hc)
    · exact isPlain_of_mem_lifetimeName hlifetime c hc
    · exact isPlain_of_isBlank (hback c hc)
  have hends {c : Char} (hc : c = ',' ∨ c = '>') : c = ',' ∨ depthStep 0 c = none := by
    rcases hc with rfl | rfl <;> decide
  have hsame : item ++ e :: after = (front ++ '\'' :: name ++ back) ++ d :: others := by
    rw [hquote]
    simp [hrest]
  have heq := hitem.eq_of_append (isItem_of_isPlain hplain) (hends he) (hends hd) hsame
  rw [heq, trim_append_blanks hfront hback, hlifetime.trim_eq]
  exact hlifetime

/-- What is skipped among the type arguments in a tidy text is a lifetime: in front of it stands
`<` or a comma, and behind it a comma or `>`. -/
theorem IsTidy.isLifetimeName {whole before inside after : List Char} (htidy : IsTidy whole)
    (hwhole : whole = before ++ ('<' :: inside ++ '>' :: after)) {pieces : List (List Char)}
    (hlist : ListText ',' pieces inside) {item : List Char} (hmem : item ∈ pieces)
    (hskips : Dialect.lenient.skips item) : IsLifetimeName (trim item) := by
  obtain ⟨hquote, hitem⟩ := hskips
  obtain ⟨front, back, hinside, hfront, hback⟩ := hlist.exists_append hmem
  obtain ⟨left, right, hleft, -, heq⟩ := exists_blanks_append_trim item
  obtain ⟨others, htrim⟩ := List.head?_eq_some_iff.mp hquote
  have hbegins : item = left ++ '\'' :: (others ++ right) := by
    rw [← heq, htrim]
    simp
  -- the characters next to the item on either side
  obtain ⟨c, start, hc, hstart⟩ : ∃ c start, (c = '<' ∨ c = ',') ∧ '<' :: front = start ++ [c] := by
    rcases hfront with rfl | ⟨more, rfl⟩
    · exact ⟨'<', [], .inl rfl, rfl⟩
    · exact ⟨',', '<' :: more, .inr rfl, rfl⟩
  obtain ⟨e, stop, he, hstop⟩ : ∃ e stop, (e = ',' ∨ e = '>') ∧
      back ++ '>' :: after = e :: stop := by
    rcases hback with rfl | ⟨more, rfl⟩
    · exact ⟨'>', after, .inr rfl, rfl⟩
    · exact ⟨',', more ++ '>' :: after, .inl rfl, rfl⟩
  have hsplit : '<' :: inside ++ '>' :: after =
      ('<' :: front) ++ (item ++ (back ++ '>' :: after)) := by
    rw [hinside]
    simp
  have hplace : whole =
      (before ++ start) ++ c :: (left ++ '\'' :: (others ++ right ++ e :: stop)) := by
    rw [hwhole, hsplit, hstart, hstop, hbegins]
    simp
  exact isLifetimeName_of_tidy hitem hbegins hleft he (htidy.lifetime hplace hc hleft)

/-- The induction is on the derivation, for a written text that stands anywhere in a tidy one. -/
theorem Written.strict_of_isTidy {text : List Char} {t : Ty} (h : Written .lenient params text t)
    {whole : List Char} (htidy : IsTidy whole) (before after : List Char)
    (hwhole : whole = before ++ (text ++ after)) : Written .strict params text t := by
  have hcloses {tail : List Char} (hclose : Dialect.lenient.closes tail) (before after : List Char)
      (hwhole : whole = before ++ (tail ++ ']' :: after)) : Dialect.strict.closes tail := by
    rcases hclose with rfl | ⟨blanks, hblanks, rfl⟩
    · rfl
    · exact absurd hblanks (htidy.length hwhole)
  induction h generalizing before after with
  | @spaced front text back t hfront hback _ ih =>
      exact .spaced hfront hback (ih (before ++ front) (back ++ after) (by simp [hwhole]))
  | @ref lead text t hlead hmut _ ih =>
      exact .ref hlead hmut (ih (before ++ '&' :: lead) after (by simp [hwhole]))
  | @refMut lead blanks text t hblanks hlead hends _ ih =>
      exact .refMut hblanks hlead hends
        (ih (before ++ '&' :: (lead ++ (blanks ++ ['m', 'u', 't']))) after (by simp [hwhole]))
  | @slice text tail t hclose _ ih =>
      exact .slice (hcloses hclose (before ++ '[' :: text) after (by simp [hwhole]))
        (ih (before ++ ['[']) (tail ++ ']' :: after) (by simp [hwhole]))
  | @array text length tail t hlength hclose _ ih =>
      exact .array hlength
        (hcloses hclose (before ++ '[' :: (text ++ ';' :: length)) after (by simp [hwhole]))
        (ih (before ++ ['[']) (';' :: (length ++ (tail ++ ']' :: after))) (by simp [hwhole]))
  | @tuple items inside hlist _ ih =>
      refine .tuple hlist fun item hitem => ?_
      obtain ⟨front, back, hinside, -, -⟩ := hlist.exists_append (List.mem_map_of_mem hitem)
      exact ih item hitem (before ++ '(' :: front) (back ++ ')' :: after) (by simp [hwhole, hinside])
  | bare hname => exact .bare hname
  | @applied name blanks inside items hname hblanks hlist hskipped hparam _ ih =>
      refine .applied hname hblanks hlist (fun item hitem hnone => ?_) hparam fun item hitem t ht => ?_
      · have hplace : whole = (before ++ (name ++ blanks)) ++ ('<' :: inside ++ '>' :: after) := by
          simp [hwhole]
        exact htidy.isLifetimeName hplace hlist (List.mem_map_of_mem hitem)
          (hskipped item hitem hnone)
      · obtain ⟨front, back, hinside, -, -⟩ := hlist.exists_append (List.mem_map_of_mem hitem)
        exact ih item hitem t ht (before ++ (name ++ (blanks ++ '<' :: front))) (back ++ '>' :: after)
          (by simp [hwhole, hinside])

/-! ## What is read -/

/-- A text is read as exactly the types it is written for in the lenient dialect, and every other
text is an error.  What is written strictly is read as such, with matched brackets, and what is
read from a tidy text is written strictly. -/
theorem parse_eq_ok_iff_written (params : List String) (text : String) :
    (∀ t, parse params text = .ok t ↔ Written .lenient params text.toList t) ∧
      ((∃ e, parse params text = .error e) ↔ ∀ t, ¬Written .lenient params text.toList t) ∧
      (∀ t, Written .strict params text.toList t →
        parse params text = .ok t ∧ IsMatched text.toList) ∧
      (IsTidy text.toList → ∀ t, parse params text = .ok t →
        Written .strict params text.toList t) := by
  have hiff (t : Ty) : parse params text = .ok t ↔ Written .lenient params text.toList t :=
    parseChars_eq_ok_iff
  refine ⟨hiff, ?_, fun t h => ⟨(hiff t).mpr h.lenient_of_strict, h.isMatched⟩, fun htidy t h => ?_⟩
  · simp only [← hiff]
    cases parse params text <;> simp
  · exact ((hiff t).mp h).strict_of_isTidy htidy [] [] (by simp)

theorem Written.exists_of_slice {dialect : Dialect} {text : List Char} {a : Ty}
    (h : Written dialect params text (Ty.slice a)) : ∃ inner tail,
      trim text = '[' :: (inner ++ tail) ++ [']'] ∧ dialect.closes tail ∧
        Written dialect params inner a := by
  generalize ht : Ty.slice a = t at h
  induction h with
  | spaced hfront hback _ ih => rw [trim_append_blanks hfront hback]; exact ih ht
  | @slice text tail t hclose h =>
      obtain rfl : a = t := by simpa using ht
      have hends : HasSolidEnds ('[' :: (text ++ tail) ++ [']']) :=
        hasSolidEnds_cons_concat ⟨by decide, by decide⟩ ⟨by decide, by decide⟩ _
      exact ⟨text, tail, hends.trim_eq, hclose, h⟩
  | _ => simp [Former.ofLength, pathNode] at ht

/-- A text without lists is tidy, whatever stands behind `&`. -/
theorem isTidy_of_not_mem {text : List Char} (hangle : '<' ∉ text) (hcomma : ',' ∉ text)
    (hsemicolon : ';' ∉ text) : IsTidy text where
  lifetime := by
    rintro before after blanks c rfl (rfl | rfl) -
    · exact absurd (by simp) hangle
    · exact absurd (by simp) hcomma
  length := by
    rintro before after blanks rfl -
    exact absurd (by simp) hsemicolon

/-- A semicolon in front of `]`, and a bracket behind an apostrophe: both are read, and neither is
written strictly. -/
theorem parse_eq_ok_iff_written_slips :
    (parse ["K"] "&'a (K)" = .ok (ref (tuple [param "K"])) ∧ IsTidy "&'a (K)".toList ∧
      Written .strict ["K"] "&'a (K)".toList (ref (tuple [param "K"])) ∧
      IsMatched "&'a (K)".toList) ∧
    (parse [] "[u8;]" = .ok (slice (named "u8" [])) ∧ ∀ t, ¬Written .strict [] "[u8;]".toList t) ∧
    (parse [] "Vec<'(]>" = .ok (named "Vec" []) ∧ ∀ t, ¬Written .strict [] "Vec<'(]>".toList t) := by
  refine ⟨?_, ?_, ?_⟩
  · have hread : parse ["K"] "&'a (K)" = .ok (ref (tuple [param "K"])) := by cbv
    have htidy : IsTidy "&'a (K)".toList :=
      isTidy_of_not_mem (by decide) (by decide) (by decide)
    obtain ⟨-, -, hmatched, hstrict⟩ := parse_eq_ok_iff_written ["K"] "&'a (K)"
    have hwritten := hstrict htidy _ hread
    exact ⟨hread, htidy, hwritten, (hmatched _ hwritten).2⟩
  · have hread : parse [] "[u8;]" = .ok (slice (named "u8" [])) := by cbv
    refine ⟨hread, fun t h => ?_⟩
    obtain ⟨-, -, hstrict, -⟩ := parse_eq_ok_iff_written [] "[u8;]"
    obtain rfl := Except.ok.inj ((hstrict t h).1.symm.trans hread)
    obtain ⟨inner, tail, htrim, rfl, hinner⟩ := h.exists_of_slice
    -- what stands between the brackets would be cut at its semicolon
    have hself : trim "[u8;]".toList = '[' :: ['u', '8', ';'] ++ [']'] := by decide
    rw [hself, List.append_nil] at htrim
    obtain rfl : ['u', '8', ';'] = inner :=
      List.append_cancel_right (List.cons.inj htrim).2
    have hcut := (hinner.lenient_of_strict.isWhole separatesParts_semicolon).chunks_eq
    exact absurd hcut (by decide)
  · have hread : parse [] "Vec<'(]>" = .ok (named "Vec" []) := by cbv
    refine ⟨hread, fun t h => ?_⟩
    exact absurd h.isMatched (by decide)

end Ty
end FuzzSynth
