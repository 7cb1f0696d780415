/-
Writing a type and reading it again.

The notation of a spelled type is one part of whatever list it stands in (`Spelled.isPart`).
So the reader, which cuts a text at its outer brackets, finds again what the writer put
between them, and gives the type back (`Spelled.parseChars_chars`).  The one thing that can
go wrong is a shared reference to a path that begins with `mut`, which reads as a mutable
reference or not at all.
-/
import Mathlib
import FuzzSynth.Proofs.Text.Pieces
import FuzzSynth.Proofs.Ty.Spelling

namespace FuzzSynth
namespace Ty

open FuzzSynth.Text

variable {params : List String} {t : Ty}

/-! ## Notation -/

/-- What stands between the parentheses of a tuple. -/
def membersText : List Ty → List Char
  | [member] => member.chars ++ [',']
  | members => commaJoin (members.map chars)

theorem chars_tuple (members : List Ty) :
    (tuple members).chars = '(' :: membersText members ++ [')'] := by
  match members with
  | [] => rfl
  | [member] => simp [chars, membersText]
  | first :: second :: rest => simp [chars, membersText, eachChars_eq]

theorem chars_param (name : String) : (param name).chars = name.toList := rfl

theorem chars_bare (name : String) : (named name []).chars = name.toList := rfl

theorem chars_named {name : String} {args : List Ty} (hargs : args ≠ []) :
    (named name args).chars = name.toList ++ ('<' :: commaJoin (args.map chars) ++ ['>']) := by
  match args, hargs with
  | first :: rest, _ => simp [chars, eachChars_eq]

theorem chars_array (length : List Char) (element : Ty) :
    (node (.ofLength length) false [element]).chars =
      '[' :: (element.chars ++ ';' :: ' ' :: length) ++ [']'] := by
  simp [chars, firstChars, Former.ofLength]

/-! ### The ends of a notation -/

/-- A character that is neither blank nor the beginning of a lifetime. -/
def IsSolid (c : Char) : Prop :=
  isBlank c = false ∧ c ≠ '\''

theorem isSolid_of_isIdentChar {c : Char} (h : isIdentChar c = true) : IsSolid c := by
  refine ⟨isBlank_of_isIdentChar h, ?_⟩
  rintro rfl
  revert h
  decide

theorem isSolid_of_mem_pathName {name : List Char} (h : IsPathName name) : ∀ c ∈ name, IsSolid c := by
  intro c hc
  rcases h.isIdentChar_or_colon c hc with hident | rfl
  · exact isSolid_of_isIdentChar hident
  · exact ⟨by decide, by decide⟩

/-- A notation has no blank and no apostrophe at its ends. -/
structure HasSolidEnds (text : List Char) : Prop where
  ne_nil : text ≠ []
  head : ∀ c ∈ text.head?, IsSolid c
  last : ∀ c ∈ text.getLast?, IsSolid c

theorem hasSolidEnds_pathName {name : List Char} (h : IsPathName name) : HasSolidEnds name := by
  obtain ⟨c, tail, heq, -⟩ := h.exists_cons
  refine ⟨by simp [heq], fun d hd => ?_, fun d hd => ?_⟩
  · exact isSolid_of_mem_pathName h d (List.mem_of_mem_head? hd)
  · exact isSolid_of_mem_pathName h d (List.mem_of_mem_getLast? hd)

/-- Putting solid characters around a text. -/
theorem hasSolidEnds_cons_concat {c d : Char} (hc : IsSolid c) (hd : IsSolid d) (text : List Char) :
    HasSolidEnds (c :: text ++ [d]) := by
  refine ⟨by simp, fun e he => ?_, fun e he => ?_⟩
  · obtain rfl : c = e := by simpa using he
    exact hc
  · obtain rfl : d = e := by
      rw [List.getLast?_concat] at he
      exact Option.some.inj he
    exact hd

theorem HasSolidEnds.append {front text : List Char} (h : HasSolidEnds text) (hne : front ≠ [])
    (hfront : ∀ c ∈ front.head?, IsSolid c) : HasSolidEnds (front ++ text) := by
  refine ⟨by simp [hne], fun c hc => ?_, fun c hc => ?_⟩
  · rw [List.head?_append_of_ne_nil _ hne] at hc
    exact hfront c hc
  · rw [List.getLast?_append_of_ne_nil _ h.ne_nil] at hc
    exact h.last c hc

theorem HasSolidEnds.trim_eq {text : List Char} (h : HasSolidEnds text) : trim text = text :=
  trim_eq_self (fun c hc => (h.head c hc).1) fun c hc => (h.last c hc).1

theorem Spelled.hasSolidEnds (h : Spelled params t) : HasSolidEnds t.chars := by
  have hand : IsSolid '&' := ⟨by decide, by decide⟩
  induction h with
  | param hname => simpa [chars, Former.label] using hasSolidEnds_pathName hname
  | ref _ ih =>
      show HasSolidEnds (['&'] ++ _)
      exact ih.append (by simp) (by simpa using hand)
  | refMut _ ih =>
      show HasSolidEnds (['&', 'm', 'u', 't', ' '] ++ _)
      exact ih.append (by simp) (by simpa using hand)
  | slice _ ih => exact hasSolidEnds_cons_concat ⟨by decide, by decide⟩ ⟨by decide, by decide⟩ _
  | array _ _ ih =>
      rw [chars_array]
      exact hasSolidEnds_cons_concat ⟨by decide, by decide⟩ ⟨by decide, by decide⟩ _
  | tuple =>
      rw [chars_tuple]
      exact hasSolidEnds_cons_concat ⟨by decide, by decide⟩ ⟨by decide, by decide⟩ _
  | @named name args hname _ _ _ =>
      by_cases hargs : args = []
      · simpa [hargs, chars] using hasSolidEnds_pathName hname
      · rw [chars_named hargs]
        have hbrackets := hasSolidEnds_cons_concat (c := '<') (d := '>') ⟨by decide, by decide⟩
          ⟨by decide, by decide⟩ (commaJoin (args.map chars))
        have hends := hasSolidEnds_pathName hname
        exact hbrackets.append hends.ne_nil hends.head

/-! ### Notations as parts -/

theorem isPlain_of_mem_pathName {name : List Char} (h : IsPathName name) : ∀ c ∈ name, IsPlain c := by
  intro c hc
  rcases h.isIdentChar_or_colon c hc with hident | rfl
  · exact isPlain_of_class (by decide) hident
  · decide

theorem isPlain_of_mem_numeral {length : List Char} (h : isNumeral length = true) :
    ∀ c ∈ length, IsPlain c := by
  simp only [isNumeral, Bool.and_eq_true, List.all_eq_true] at h
  exact fun c hc => isPlain_of_class (by decide +kernel) (h.2 c hc)

/-- Separators are commas and semicolons, if anything. -/
def SeparatesParts (isSeparator : Char → Bool) : Prop :=
  ∀ c, isSeparator c = true → c = ',' ∨ c = ';'

section Parts

variable {isSeparator : Char → Bool} (hseparator : SeparatesParts isSeparator)

include hseparator

theorem SeparatesParts.eq_false {c : Char} (hcomma : c ≠ ',') (hsemicolon : c ≠ ';') :
    isSeparator c = false := by
  cases hc : isSeparator c with
  | false => rfl
  | true => rcases hseparator c hc with h | h <;> contradiction

theorem isWhole_of_isPlain {text : List Char} (h : ∀ c ∈ text, IsPlain c) :
    IsWhole isSeparator text := by
  refine isWhole_of_forall fun c hc => ?_
  obtain ⟨hopener, hcloser⟩ := (h c hc).not_bracket
  refine ⟨hopener, hcloser, hseparator.eq_false ?_ ?_⟩
  all_goals
    rintro rfl
    exact h _ hc (by decide)

theorem isWhole_pathName {name : List Char} (h : IsPathName name) : IsWhole isSeparator name :=
  isWhole_of_isPlain hseparator (isPlain_of_mem_pathName h)

theorem isWhole_numeral {length : List Char} (h : isNumeral length = true) :
    IsWhole isSeparator length :=
  isWhole_of_isPlain hseparator (isPlain_of_mem_numeral h)

/-- A notation is not cut at commas or semicolons: those in it stand inside brackets. -/
theorem Spelled.isWhole (h : Spelled params t) : IsWhole isSeparator t.chars := by
  have hplain : ∀ c ∈ ['&', 'm', 'u', 't', ' '], IsWhole isSeparator [c] := by
    intro c hc
    have hclear : IsPlain c := by
      simp only [List.mem_cons, List.not_mem_nil, or_false] at hc
      rcases hc with rfl | rfl | rfl | rfl | rfl <;> decide
    refine isWhole_of_isPlain hseparator fun d hd => ?_
    exact List.mem_singleton.mp hd ▸ hclear
  have hnested : ∀ c ∈ [',', ';', ' '], IsNested isSeparator [c] := by
    intro c hc
    have hclear : isOpener c = false ∧ isCloser c = false := by
      simp only [List.mem_cons, List.not_mem_nil, or_false] at hc
      rcases hc with rfl | rfl | rfl <;> decide
    exact isNested_singleton hclear.1 hclear.2
  have hjoin : ∀ {as : List Ty}, (∀ a ∈ as, IsWhole isSeparator a.chars) →
      IsNested isSeparator (commaJoin (as.map chars)) := by
    intro as has
    refine isNested_commaJoin fun part hpart => ?_
    obtain ⟨a, ha, rfl⟩ := List.mem_map.mp hpart
    exact (has a ha).isNested
  induction h with
  | param hname => simpa [chars, Former.label] using isWhole_pathName hseparator hname
  | ref _ ih => exact (hplain '&' (by simp)).append ih
  | refMut _ ih =>
      exact (hplain '&' (by simp)).append ((hplain 'm' (by simp)).append
        ((hplain 'u' (by simp)).append ((hplain 't' (by simp)).append
          ((hplain ' ' (by simp)).append ih))))
  | slice _ ih => exact ih.isNested.bracketed (by decide) (by decide) (by decide)
  | array hlength _ ih =>
      rw [chars_array]
      have hinside := ih.isNested.append ((hnested ';' (by simp)).append
        ((hnested ' ' (by simp)).append (isWhole_numeral hseparator hlength).isNested))
      exact hinside.bracketed (by decide) (by decide) (by decide)
  | @tuple members _ ih =>
      rw [chars_tuple]
      refine IsNested.bracketed ?_ (by decide) (by decide) (by decide)
      unfold membersText
      split
      · exact (ih _ (by simp)).isNested.append (hnested ',' (by simp))
      · exact hjoin ih
  | @named name args hname _ _ ih =>
      by_cases hargs : args = []
      · simpa [hargs, chars] using isWhole_pathName hseparator hname
      · rw [chars_named hargs]
        exact (isWhole_pathName hseparator hname).append
          ((hjoin ih).bracketed (by decide) (by decide) (by decide))

theorem Spelled.isPart (h : Spelled params t) : IsPart isSeparator t.chars where
  whole := h.isWhole hseparator
  trimmed := h.hasSolidEnds.trim_eq
  ne_nil := h.hasSolidEnds.ne_nil

end Parts

theorem separatesParts_comma : SeparatesParts (· == ',') :=
  fun _ hc => .inl (by simpa using hc)

theorem separatesParts_semicolon : SeparatesParts (· == ';') :=
  fun _ hc => .inr (by simpa using hc)

/-! ## Cutting at the outer brackets -/

theorem before?_concat (close : Char) (inside : List Char) :
    before? close (inside ++ [close]) = some inside := by
  simp [before?]

theorem commaParts_commaJoin {as : List Ty} (h : ∀ a ∈ as, Spelled params a) :
    commaParts (commaJoin (as.map chars)) = .ok (as.map chars) := by
  have hparts : ∀ part ∈ as.map chars, IsPart (· == ',') part := by
    intro part hpart
    obtain ⟨a, ha, rfl⟩ := List.mem_map.mp hpart
    exact (h a ha).isPart separatesParts_comma
  rw [commaParts, splitOutside_commaJoin hparts]

theorem commaParts_membersText {members : List Ty} (h : ∀ a ∈ members, Spelled params a) :
    commaParts (membersText members) = .ok (members.map chars) := by
  unfold membersText
  split
  · next member =>
      -- the comma behind a single member makes no further part
      have hpart := (h member List.mem_cons_self).isPart separatesParts_comma
      rw [commaParts, hpart.splitOutside_concat (by decide) (by decide) (by decide)]
      rfl
  · exact commaParts_commaJoin h

theorem semicolonParts_slice (h : Spelled params t) : semicolonParts t.chars = .ok [t.chars] := by
  rw [semicolonParts, (h.isPart separatesParts_semicolon).splitOutside_eq]

theorem semicolonParts_array (h : Spelled params t) {length : List Char}
    (hlength : isNumeral length = true) :
    semicolonParts (t.chars ++ ';' :: ' ' :: length) = .ok [t.chars, length] := by
  have hdigits : length ≠ [] ∧ ∀ c ∈ length, isDigit c = true := by
    simpa [isNumeral] using hlength
  have hnumeral : IsPart (· == ';') length :=
    { whole := isWhole_numeral separatesParts_semicolon hlength
      trimmed := trim_eq_self
        (fun c hc => isBlank_of_isDigit (hdigits.2 c (List.mem_of_mem_head? hc)))
        fun c hc => isBlank_of_isDigit (hdigits.2 c (List.mem_of_mem_getLast? hc))
      ne_nil := hdigits.1 }
  rw [semicolonParts, (h.isPart separatesParts_semicolon).splitOutside_pair hnumeral (by decide)
    (by decide) (by decide) (by decide)]

/-! ## The reader by shapes -/

section Reader

variable {text rest inside element length name : List Char} {parts : List (List Char)} {args : List Ty}

theorem parseChars_refMut (htrim : trim text = '&' :: rest)
    (hmut : afterMut? (dropLifetime (trimLeft rest)) = some inside) :
    parseChars params text = (parseChars params inside).map refMut := by
  rw [parseChars]
  -- one branch of the reader meets the hypotheses, and the others contradict them
  repeat' split
  all_goals simp_all

theorem parseChars_ref (htrim : trim text = '&' :: rest)
    (hmut : afterMut? (dropLifetime (trimLeft rest)) = none) :
    parseChars params text = (parseChars params (dropLifetime (trimLeft rest))).map ref := by
  rw [parseChars]
  repeat' split
  all_goals simp_all

theorem parseChars_slice (htrim : trim text = '[' :: inside ++ [']'])
    (hcut : semicolonParts inside = .ok [element]) :
    parseChars params text = (parseChars params element).map slice := by
  have hclosed := before?_concat ']' inside
  rw [parseChars]
  repeat' split
  all_goals simp_all

theorem parseChars_array (htrim : trim text = '[' :: inside ++ [']'])
    (hcut : semicolonParts inside = .ok [element, length]) (hlength : isNumeral length = true) :
    parseChars params text =
      (parseChars params element).map fun t => node (.ofLength length) false [t] := by
  have hclosed := before?_concat ']' inside
  rw [parseChars]
  repeat' split
  all_goals simp_all

theorem parseChars_tuple (htrim : trim text = '(' :: inside ++ [')'])
    (hcut : commaParts inside = .ok parts) :
    parseChars params text = (parts.mapM (parseChars params)).map tuple := by
  have hclosed := before?_concat ')' inside
  rw [parseChars]
  repeat' split
  all_goals simp_all

theorem ne_bracket_of_isIdentStart {c : Char} (h : isIdentStart c = true) :
    '&' ≠ c ∧ '[' ≠ c ∧ '(' ≠ c := by
  refine ⟨?_, ?_, ?_⟩ <;> rintro rfl <;> revert h <;> decide

theorem parseChars_bare (htrim : trim text = name) (hname : IsPathName name) :
    parseChars params text =
      .ok (node (.path (String.ofList name)) (params.contains (String.ofList name)) []) := by
  obtain ⟨c, tail, rfl, hc, -⟩ := hname.exists_cons
  have hne := ne_bracket_of_isIdentStart hc
  have hnamed : pathName? (c :: tail) = some (c :: tail, []) := hname
  have hbare : pathEnd [] = .bare := rfl
  rw [parseChars]
  repeat' split
  all_goals simp_all

theorem endsName_arguments (inside : List Char) : EndsName ('<' :: inside ++ ['>']) := by
  intro c hc
  obtain rfl : '<' = c := by simpa using hc
  decide

theorem pathEnd_arguments (inside : List Char) :
    pathEnd ('<' :: inside ++ ['>']) = .arguments inside := by
  have htrim : trimLeft ('<' :: inside ++ ['>']) = '<' :: (inside ++ ['>']) :=
    trimLeft_eq_self fun c hc => by
      obtain rfl : '<' = c := by simpa using hc
      decide
  rw [pathEnd, htrim]
  simp only [before?_concat]

/-- A path with type arguments; the lifetimes among them are left out. -/
theorem parseChars_arguments (htrim : trim text = name ++ rest) (hname : IsPathName name)
    (hends : EndsName rest) (hend : pathEnd rest = .arguments inside)
    (hcut : commaParts inside = .ok parts)
    (hargs : (parts.filter fun part => !isLifetime part).mapM (parseChars params) = .ok args)
    (hparam : params.contains (String.ofList name) = true → args = []) :
    parseChars params text =
      .ok (node (.path (String.ofList name)) (params.contains (String.ofList name)) args) := by
  have hnamed := hname.pathName?_append hends
  obtain ⟨c, tail, heq, hc, -⟩ := hname.exists_cons
  have hne := ne_bracket_of_isIdentStart hc
  have hcons : trim text = c :: (tail ++ rest) := by
    rw [htrim, heq]
    rfl
  rw [htrim.symm.trans hcons] at hnamed
  -- what is left says how the text begins and how it ends, and that decides the branch
  clear htrim hends heq hname
  rw [parseChars]
  repeat' split
  all_goals simp_all

theorem parseChars_applied (htrim : trim text = name ++ ('<' :: inside ++ ['>']))
    (hname : IsPathName name) (hfree : params.contains (String.ofList name) = false)
    (hcut : commaParts inside = .ok parts) (htypes : ∀ part ∈ parts, isLifetime part = false)
    (hargs : parts.mapM (parseChars params) = .ok args) :
    parseChars params text = .ok (named (String.ofList name) args) := by
  have hkept : parts.filter (fun part => !isLifetime part) = parts :=
    List.filter_eq_self.mpr fun part hpart => by simp [htypes part hpart]
  rw [← hkept] at hargs
  have hread := parseChars_arguments htrim hname (endsName_arguments inside) (pathEnd_arguments inside)
    hcut hargs fun hparam => absurd (hfree.symm.trans hparam) Bool.false_ne_true
  rwa [hfree] at hread

end Reader

/-! ## Round trip -/

theorem isLifetime_of_hasSolidEnds {text : List Char} (h : HasSolidEnds text) :
    isLifetime text = false := by
  have htrim : trimLeft text = text := trimLeft_eq_self fun c hc => (h.head c hc).1
  rw [isLifetime, htrim, beq_eq_false_iff_ne]
  exact fun hhead => (h.head _ hhead).2 rfl

/-- Behind `&` nothing is dropped from a notation. -/
theorem dropLifetime_of_hasSolidEnds {text : List Char} (h : HasSolidEnds text) :
    dropLifetime (trimLeft text) = text := by
  have htrim : trimLeft text = text := trimLeft_eq_self fun c hc => (h.head c hc).1
  rw [htrim]
  unfold dropLifetime
  split
  · exact absurd rfl (h.head _ rfl).2
  · rfl

/-- Only a path that begins with `mut` is taken for the keyword. -/
theorem afterMut?_pathName {name rest : List Char} (hname : IsPathName name) (hrest : EndsName rest)
    (hfirst : name.takeWhile (· != ':') ≠ ['m', 'u', 't']) : afterMut? (name ++ rest) = none := by
  have hends : ∀ {c : Char} {cs : List Char}, rest = c :: cs → isIdentChar c = true → False := by
    rintro c cs rfl hc
    exact Bool.false_ne_true ((hrest c rfl).1.symm.trans hc)
  unfold afterMut?
  split
  · next tail heq =>
      -- the name is as long as the keyword, since `rest` does not continue it
      match name, heq with
      | [], heq => exact (hends heq (by decide)).elim
      | [_], heq => exact (hends (List.cons.inj heq).2 (by decide)).elim
      | [_, _], heq => exact (hends (List.cons.inj (List.cons.inj heq).2).2 (by decide)).elim
      | _ :: _ :: _ :: more, heq =>
          simp only [List.cons_append, List.cons.injEq] at heq
          obtain ⟨rfl, rfl, rfl, rfl⟩ := heq
          cases more with
          | nil => exact absurd (by decide) hfirst
          | cons c more =>
              rcases hname.isIdentChar_or_colon c (by simp) with hc | rfl
              · simp [endsWord, isWordChar_of_isIdentChar hc]
              · exact absurd (by simp) hfirst
  · rfl

theorem Spelled.afterMut?_eq_none (h : Spelled params t) (hmut : t.namesMut = false) :
    afterMut? t.chars = none := by
  have hnothing : EndsName [] := by simp [EndsName]
  cases h with
  | param hname =>
      rw [chars_param, ← List.append_nil (String.toList _)]
      exact afterMut?_pathName hname hnothing (by simpa [namesMut, firstName] using hmut)
  | ref | refMut | slice | array => rfl
  | tuple =>
      rw [chars_tuple]
      rfl
  | @named name args hname =>
      have hfirst : name.toList.takeWhile (· != ':') ≠ ['m', 'u', 't'] := by
        simpa [namesMut, firstName] using hmut
      by_cases hargs : args = []
      · rw [hargs, chars_bare, ← List.append_nil (String.toList _)]
        exact afterMut?_pathName hname hnothing hfirst
      · rw [chars_named hargs]
        exact afterMut?_pathName hname (endsName_arguments _) hfirst

theorem mapM_parseChars {as : List Ty} (h : ∀ a ∈ as, parseChars params a.chars = .ok a) :
    (as.map chars).mapM (parseChars params) = .ok as := by
  rw [mapM_eq_ok_iff, List.map_map]
  exact List.map_congr_left h

/-- The induction is on the spelling; the text may have blanks around the notation. -/
theorem Spelled.parseChars_chars (h : Spelled params t) (hmut : t.refersToMut = false)
    {text : List Char} (htext : trim text = t.chars) : parseChars params text = .ok t := by
  induction h generalizing text with
  | @param name hname hmem =>
      rw [chars_param] at htext
      rw [parseChars_bare htext hname, String.ofList_toList, List.contains_iff_mem.mpr hmem]
  | @ref inner hinner ih =>
      obtain ⟨hnames, hrest⟩ := refersToMut_eq_false_iff.mp hmut
      have hends := hinner.hasSolidEnds
      have hdrop := dropLifetime_of_hasSolidEnds hends
      have hnone := hinner.afterMut?_eq_none hnames
      rw [parseChars_ref htext (by rw [firstChars, hdrop, hnone]), firstChars, hdrop,
        ih (hrest inner List.mem_cons_self) hends.trim_eq]
      rfl
  | @refMut inner hinner ih =>
      obtain ⟨-, hrest⟩ := refersToMut_eq_false_iff.mp hmut
      have hkeyword : dropLifetime (trimLeft ('m' :: 'u' :: 't' :: ' ' :: inner.chars)) =
          'm' :: 'u' :: 't' :: ' ' :: inner.chars := rfl
      have hafter : afterMut? ('m' :: 'u' :: 't' :: ' ' :: inner.chars) =
          some (' ' :: inner.chars) := by
        have hspace : isWordChar ' ' = false := isWordChar_of_isBlank (by decide)
        simp [afterMut?, endsWord, hspace]
      have hblank : trim (' ' :: inner.chars) = inner.chars :=
        (trim_cons_blank (by decide) _).trans hinner.hasSolidEnds.trim_eq
      rw [parseChars_refMut htext (by rw [firstChars, hkeyword, hafter]),
        ih (hrest inner List.mem_cons_self) hblank]
      rfl
  | @slice element helement ih =>
      obtain ⟨-, hrest⟩ := refersToMut_eq_false_iff.mp hmut
      rw [parseChars_slice htext (semicolonParts_slice helement),
        ih (hrest element List.mem_cons_self) helement.hasSolidEnds.trim_eq]
      rfl
  | @array length element hlength helement ih =>
      obtain ⟨-, hrest⟩ := refersToMut_eq_false_iff.mp hmut
      rw [chars_array] at htext
      rw [parseChars_array htext (semicolonParts_array helement hlength) hlength,
        ih (hrest element List.mem_cons_self) helement.hasSolidEnds.trim_eq]
      rfl
  | @tuple members hmembers ih =>
      obtain ⟨-, hrest⟩ := refersToMut_eq_false_iff.mp hmut
      rw [chars_tuple] at htext
      rw [parseChars_tuple htext (commaParts_membersText hmembers),
        mapM_parseChars fun a ha => ih a ha (hrest a ha) (hmembers a ha).hasSolidEnds.trim_eq]
      rfl
  | @named name args hname hfree hargs ih =>
      obtain ⟨-, hrest⟩ := refersToMut_eq_false_iff.mp hmut
      by_cases hnil : args = []
      · subst hnil
        rw [chars_bare] at htext
        rw [parseChars_bare htext hname, String.ofList_toList,
          Bool.eq_false_iff.mpr (mt List.contains_iff_mem.mp hfree)]
      · rw [chars_named hnil] at htext
        have hlifetime : ∀ part ∈ args.map chars, isLifetime part = false := by
          intro part hpart
          obtain ⟨a, ha, rfl⟩ := List.mem_map.mp hpart
          exact isLifetime_of_hasSolidEnds (hargs a ha).hasSolidEnds
        rw [parseChars_applied htext hname (by simpa using hfree) (commaParts_commaJoin hargs)
          hlifetime (mapM_parseChars fun a ha =>
            ih a ha (hrest a ha) (hargs a ha).hasSolidEnds.trim_eq), String.ofList_toList]

/-! ## Types that were read -/

theorem spelled_of_parse {text : String} (h : parse params text = .ok t) : Spelled params t :=
  spelled_of_parseChars h

theorem Spelled.parse_render (h : Spelled params t) (hmut : t.refersToMut = false) :
    parse params t.render = .ok t := by
  rw [parse, render, String.toList_ofList]
  exact h.parseChars_chars hmut h.hasSolidEnds.trim_eq

/-- A type that was read is read again from its notation, so that no other type of the same
scope has this notation.  If its parameters are replaced by types that were read without
parameters, the result is read again from its notation, unless there is a shared reference to
a path in it that begins with `mut`. -/
theorem parse_render_of_parse {text : String} (h : parse params text = .ok t) :
    parse params t.render = .ok t ∧
      (∀ {other : String} {u : Ty}, parse params other = .ok u → u.render = t.render → u = t) ∧
      ∀ {fill : String → Option Ty},
        (∀ name ∈ t.slots, ∃ written u, parse [] written = .ok u ∧ fill name = some u) →
          (parse [] (t.subst fill).render = .ok (t.subst fill) ↔
            (t.subst fill).refersToMut = false) := by
  have hread : ∀ {text : String} {u : Ty}, parse params text = .ok u →
      parse params u.render = .ok u :=
    fun hu => (spelled_of_parse hu).parse_render (refersToMut_of_parseChars hu)
  refine ⟨hread h, fun hu hrender => ?_, fun hfill => ⟨refersToMut_of_parseChars, fun hmut => ?_⟩⟩
  · have hboth := hread hu
    rw [hrender, hread h] at hboth
    exact (Except.ok.inj hboth).symm
  · refine Spelled.parse_render ((spelled_of_parse h).subst fun name hname => ?_) hmut
    obtain ⟨written, u, hu, hfilled⟩ := hfill name hname
    exact ⟨u, hfilled, spelled_of_parse hu⟩

/-- A reference to a map whose keys and values are parameters. -/
def mapReference : Ty :=
  ref (named "Map" [param "K", node (.ofLength ['4']) false [param "V"]])

/-- Keys of the type `mut` and values that are tuples of one member. -/
def mapTypes (name : String) : Option Ty :=
  if name = "K" then some (named "mut" []) else some (tuple [named "u8" []])

/-- A name in brackets may well be `mut`. -/
theorem parse_render_of_parse_mapReference :
    parse ["K", "V"] "& 'a Map < K, [V;4], >" = .ok mapReference ∧
      (∀ name ∈ mapReference.slots,
        ∃ written u, parse [] written = .ok u ∧ mapTypes name = some u) ∧
      mapReference.render = "&Map<K, [V; 4]>" ∧
      parse ["K", "V"] "&Map<K, [V; 4]>" = .ok mapReference ∧
      (mapReference.subst mapTypes).render = "&Map<mut, [(u8,); 4]>" ∧
      parse [] "&Map<mut, [(u8,); 4]>" = .ok (mapReference.subst mapTypes) := by
  have hread : parse ["K", "V"] "& 'a Map < K, [V;4], >" = .ok mapReference := by cbv
  have hfill : ∀ name ∈ mapReference.slots,
      ∃ written u, parse [] written = .ok u ∧ mapTypes name = some u := by
    intro name _
    unfold mapTypes
    split
    · exact ⟨"mut", _, by cbv, rfl⟩
    · exact ⟨"(u8)", _, by cbv, rfl⟩
  have hwritten : mapReference.render = "&Map<K, [V; 4]>" := by cbv
  have hfilled : (mapReference.subst mapTypes).render = "&Map<mut, [(u8,); 4]>" := by cbv
  obtain ⟨hagain, -, hsubst⟩ := parse_render_of_parse hread
  have hconcrete := (hsubst hfill).mpr (by decide +kernel)
  exact ⟨hread, hfill, hwritten, hwritten ▸ hagain, hfilled, hfilled ▸ hconcrete⟩

end Ty
end FuzzSynth
