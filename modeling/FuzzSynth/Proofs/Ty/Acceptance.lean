/-
What is read is what is written.

The reader accepts exactly what is written in the lenient dialect of the grammar, and gives the
type that is written (`parseChars_eq_ok_iff`).  One direction follows the calls of the reader
(`Reads.written`), the other the derivation (`Written.parseChars_eq`).
-/
import FuzzSynth.Proofs.Ty.Grammar

namespace FuzzSynth
namespace Ty

open FuzzSynth.Text

variable {params : List String}

/-! ## What the pieces of the reader find -/

theorem commaParts_eq_ok_iff {inside : List Char} {parts : List (List Char)} :
    commaParts inside = .ok parts ↔ splitOutside (· == ',') inside = some parts := by
  unfold commaParts
  split <;> simp_all

theorem semicolonParts_eq_ok_iff {inside : List Char} {parts : List (List Char)} :
    semicolonParts inside = .ok parts ↔ splitOutside (· == ';') inside = some parts := by
  unfold semicolonParts
  split <;> simp_all

theorem append_of_afterMut? {cs rest : List Char} (h : afterMut? cs = some rest) :
    cs = 'm' :: 'u' :: 't' :: rest ∧ endsWord rest = true := by
  unfold afterMut? at h
  split at h
  · split at h
    · next hends =>
        obtain rfl := Option.some.inj h
        exact ⟨rfl, hends⟩
    · cases h
  · cases h

theorem endsIdentifier_of_endsWord {rest : List Char} (h : endsWord rest = true) :
    EndsIdentifier rest := by
  cases rest with
  | nil => simp [EndsIdentifier]
  | cons c rest =>
      intro d hd
      obtain rfl : c = d := by simpa using hd
      cases hident : isIdentChar c with
      | false => rfl
      | true => simp [endsWord, isWordChar_of_isIdentChar hident] at h

theorem exists_blanks_of_pathEnd {rest inside : List Char} (h : pathEnd rest = .arguments inside) :
    ∃ blanks, IsBlankText blanks ∧ blanks ++ ('<' :: inside ++ ['>']) = rest := by
  obtain ⟨blanks, heq, hblanks⟩ := exists_append_trimLeft rest
  refine ⟨blanks, hblanks, ?_⟩
  unfold pathEnd at h
  split at h
  · cases h
  · next tail htrim =>
      split at h
      · next hclosed =>
          obtain rfl := PathEnd.arguments.inj h
          rw [← heq, htrim, append_of_before? hclosed]
          rfl
      · cases h
  · cases h

theorem isBlankText_of_pathEnd {rest : List Char} (h : pathEnd rest = .bare) : IsBlankText rest := by
  unfold pathEnd at h
  split at h
  · next htrim => exact List.dropWhile_eq_nil_iff.mp htrim
  · split at h <;> cases h
  · cases h

/-- What is dropped behind `&` is a lifetime and blanks, or blanks alone. -/
theorem exists_isLead (text : List Char) :
    ∃ lead blanks, IsBlankText blanks ∧
      IsLead (blanks ++ dropLifetime (trimLeft text)) lead ∧
      lead ++ (blanks ++ dropLifetime (trimLeft text)) = text := by
  obtain ⟨front, htext, hfront⟩ := exists_append_trimLeft text
  generalize trimLeft text = cs at htext ⊢
  fun_cases dropLifetime cs with
  | case1 c rest hc =>
      -- the identifier goes on as far as it can, and blanks may follow
      obtain ⟨back, hrest, hback⟩ := exists_append_trimLeft (rest.dropWhile isIdentChar)
      have hname : IsLifetimeName ('\'' :: c :: rest.takeWhile isIdentChar) :=
        ⟨_, ⟨c, _, rfl, hc, fun d hd => List.mem_takeWhile_imp hd⟩, rfl⟩
      have hends : EndsIdentifier (back ++ trimLeft (rest.dropWhile isIdentChar)) := by
        rw [hrest]
        intro d hd
        have hfirst := List.head?_dropWhile_not isIdentChar rest
        rw [Option.mem_def.mp hd] at hfirst
        exact hfirst
      refine ⟨_, back, hback, .lifetime hfront hname hends, ?_⟩
      rw [← trimLeft, hrest, ← htext]
      simp [List.takeWhile_append_dropWhile]
  | case2 => exact ⟨[], front, hfront, .none, htext⟩
  | case3 => exact ⟨[], front, hfront, .none, htext⟩

/-! ## What is read is written -/

/-- Pieces and what is read of those that are kept, put together. -/
theorem exists_items_of_filter {α β γ : Type} {key : α → γ} {kept : γ → Bool} {R : γ → β → Prop}
    {pieces : List α} {read : List β} (h : List.Forall₂ R ((pieces.map key).filter kept) read) :
    ∃ items : List (α × Option β), items.map Prod.fst = pieces ∧ items.filterMap Prod.snd = read ∧
      (∀ item ∈ items, item.2 = none → kept (key item.1) = false) ∧
      ∀ item ∈ items, ∀ b, item.2 = some b → R (key item.1) b := by
  induction pieces generalizing read with
  | nil =>
      cases h
      exact ⟨[], by simp⟩
  | cons piece rest ih =>
      rw [List.map_cons, List.filter_cons] at h
      cases hkept : kept (key piece) with
      | false =>
          rw [hkept, if_neg Bool.false_ne_true] at h
          obtain ⟨items, hpieces, hread, hskipped, hall⟩ := ih h
          exact ⟨(piece, none) :: items, by simp [hpieces], by simpa using hread,
            List.forall_mem_cons.mpr ⟨fun _ => hkept, hskipped⟩,
            List.forall_mem_cons.mpr ⟨fun _ => (nomatch ·), hall⟩⟩
      | true =>
          rw [hkept, if_pos rfl] at h
          obtain ⟨b, bs, hb, hbs, rfl⟩ := List.forall₂_cons_left_iff.mp h
          obtain ⟨items, hpieces, hread, hskipped, hall⟩ := ih hbs
          exact ⟨(piece, some b) :: items, by simp [hpieces], by simpa using hread,
            List.forall_mem_cons.mpr ⟨(nomatch ·), hskipped⟩,
            List.forall_mem_cons.mpr ⟨fun _ hsome => Option.some.inj hsome ▸ hb, hall⟩⟩

section Forms

variable {text rest inside element name : List Char} {t : Ty}

theorem written_ref (htrim : trim text = '&' :: rest) (hnames : t.namesMut = false)
    (h : Written .lenient params (dropLifetime (trimLeft rest)) t) :
    Written .lenient params text (ref t) := by
  obtain ⟨lead, blanks, hblanks, hlead, heq⟩ := exists_isLead rest
  -- the blanks dropped with the lifetime belong to the inner type
  have hinner : Written .lenient params (blanks ++ dropLifetime (trimLeft rest)) t := by
    have hspaced := Written.spaced hblanks isBlankText_nil h
    rwa [List.append_nil] at hspaced
  refine .of_trim ?_
  rw [htrim, ← heq]
  exact .ref hlead hnames hinner

theorem written_refMut (htrim : trim text = '&' :: rest)
    (hmut : afterMut? (dropLifetime (trimLeft rest)) = some inside)
    (h : Written .lenient params inside t) : Written .lenient params text (refMut t) := by
  obtain ⟨lead, blanks, hblanks, hlead, heq⟩ := exists_isLead rest
  obtain ⟨hkeyword, hends⟩ := append_of_afterMut? hmut
  rw [hkeyword] at hlead heq
  refine .of_trim ?_
  rw [htrim, ← heq]
  exact .refMut hblanks hlead (endsIdentifier_of_endsWord hends) h

theorem written_slice (htrim : trim text = '[' :: inside ++ [']'])
    (hcut : semicolonParts inside = .ok [element]) (h : Written .lenient params element t) :
    Written .lenient params text (slice t) := by
  obtain ⟨pieces, hpieces, hlist, -⟩ := exists_listText_of_splitOutside (by decide) (by decide)
    (semicolonParts_eq_ok_iff.mp hcut)
  obtain ⟨piece, rfl, rfl⟩ := List.map_eq_singleton_iff.mp hpieces
  obtain ⟨tail, htail, hinside⟩ := (listText_iff (by simp)).mp hlist
  rw [List.intercalate_singleton] at hinside
  refine .of_trim ?_
  rw [htrim, hinside]
  exact .slice htail (.of_trim h)

theorem written_array {length : List Char} (htrim : trim text = '[' :: inside ++ [']'])
    (hcut : semicolonParts inside = .ok [element, length]) (hlength : isNumeral length = true)
    (h : Written .lenient params element t) :
    Written .lenient params text (node (.ofLength length) false [t]) := by
  obtain ⟨pieces, hpieces, hlist, -⟩ := exists_listText_of_splitOutside (by decide) (by decide)
    (semicolonParts_eq_ok_iff.mp hcut)
  obtain ⟨piece, others, rfl, rfl, hothers⟩ := List.map_eq_cons_iff.mp hpieces
  obtain ⟨digits, rfl, rfl⟩ := List.map_eq_singleton_iff.mp hothers
  obtain ⟨tail, htail, hinside⟩ := (listText_iff (by simp)).mp hlist
  rw [List.intercalate_cons_cons, List.intercalate_singleton, List.append_assoc piece] at hinside
  refine .of_trim ?_
  rw [htrim, hinside]
  exact .array hlength htail (.of_trim h)

theorem written_tuple {items : List (List Char × Ty)} (htrim : trim text = '(' :: inside ++ [')'])
    (hcut : commaParts inside = .ok (items.map Prod.fst))
    (h : ∀ item ∈ items, Written .lenient params item.1 item.2) :
    Written .lenient params text (tuple (items.map Prod.snd)) := by
  obtain ⟨pieces, hpieces, hlist, -⟩ := exists_listText_of_splitOutside (by decide) (by decide)
    (commaParts_eq_ok_iff.mp hcut)
  have hread := forall₂_of_items h
  rw [← hpieces] at hread
  obtain ⟨written, rfl, htypes, hwritten⟩ := exists_items (List.forall₂_map_left_iff.mp hread)
  refine .of_trim ?_
  rw [htrim, ← htypes]
  exact .tuple hlist fun item hitem => .of_trim (hwritten item hitem)

theorem written_bare (hname : pathName? (trim text) = some (name, rest))
    (hend : pathEnd rest = .bare) : Written .lenient params text (pathNode params name []) := by
  refine .of_trim ?_
  rw [← append_of_pathName? hname, ← List.nil_append name]
  exact .spaced isBlankText_nil (isBlankText_of_pathEnd hend)
    (.bare (isPathName_iff_isPath.mp (isPathName_of_pathName? hname)))

/-- The arguments of a path are read or skipped. -/
theorem written_applied {parts : List (List Char)} {items : List (List Char × Ty)}
    (hname : pathName? (trim text) = some (name, rest)) (hend : pathEnd rest = .arguments inside)
    (hcut : commaParts inside = .ok parts)
    (hkept : parts.filter (fun part => !isLifetime part) = items.map Prod.fst)
    (hparam : String.ofList name ∈ params → items = [])
    (h : ∀ item ∈ items, Written .lenient params item.1 item.2) :
    Written .lenient params text (pathNode params name (items.map Prod.snd)) := by
  obtain ⟨blanks, hblanks, hrest⟩ := exists_blanks_of_pathEnd hend
  obtain ⟨pieces, rfl, hlist, hpieces⟩ := exists_listText_of_splitOutside (by decide) (by decide)
    (commaParts_eq_ok_iff.mp hcut)
  have hread := forall₂_of_items h
  rw [← hkept] at hread
  obtain ⟨written, rfl, htypes, hskipped, hwritten⟩ := exists_items_of_filter hread
  refine .of_trim ?_
  rw [← append_of_pathName? hname, ← hrest, ← htypes]
  refine .applied (isPathName_iff_isPath.mp (isPathName_of_pathName? hname)) hblanks hlist
    (fun item hitem hnone => ?_) (fun hmem => ?_) fun item hitem t ht =>
      .of_trim (hwritten item hitem t ht)
  · -- a skipped piece begins with an apostrophe, and it is an item as every piece is
    have hlifetime : isLifetime (trim item.1) = true := by simpa using hskipped item hitem hnone
    rw [isLifetime, trimLeft_trim, beq_iff_eq] at hlifetime
    exact ⟨hlifetime, hpieces item.1 (List.mem_map_of_mem hitem)⟩
  · rw [htypes, hparam hmem, List.map_nil]

end Forms

/-- What is read is written, form by form. -/
theorem Reads.written {text : List Char} {t : Ty} (h : Reads params text t) :
    Written .lenient params text t := by
  induction h with
  | @ref _ rest _ htrim hmut h ih =>
      exact written_ref htrim (h.namesMut_eq_false (trimLeft_dropLifetime rest) hmut) ih
  | refMut htrim hmut _ ih => exact written_refMut htrim hmut ih
  | slice htrim hcut _ ih => exact written_slice htrim hcut ih
  | array htrim hcut hlength _ ih => exact written_array htrim hcut hlength ih
  | tuple htrim hcut _ ih => exact written_tuple htrim hcut ih
  | bare hname hend => exact written_bare hname hend
  | applied hname hend hcut hkept hparam _ ih =>
      exact written_applied hname hend hcut hkept hparam ih

/-! ## What is written is read -/

/-- Blanks at the ends make no difference to what is read. -/
theorem parseChars_congr {a b : List Char} {t : Ty} (h : trim a = trim b)
    (ha : parseChars params a = .ok t) : parseChars params b = .ok t := by
  -- both go by the trimmed text, and only errors show the text as it was given
  rw [parseChars] at ha ⊢
  rw [← h]
  revert ha
  repeat' split
  all_goals simp_all

theorem IsLead.congr {behind other lead : List Char} (h : IsLead behind lead)
    (hhead : other.head? = behind.head?) : IsLead other lead := by
  cases h with
  | none => exact .none
  | lifetime hblanks hname hends =>
      exact .lifetime hblanks hname fun c hc => hends c (hhead ▸ hc)

/-- Exactly the lifetime is dropped. -/
theorem IsLead.dropLifetime_eq {behind lead : List Char} (h : IsLead behind lead)
    (hhead : ∀ c ∈ (trimLeft behind).head?, c ≠ '\'') :
    dropLifetime (trimLeft (lead ++ behind)) = trimLeft behind := by
  cases h with
  | none =>
      rw [List.nil_append]
      unfold dropLifetime
      split
      · next heq => exact absurd rfl (hhead '\'' (by simp [heq]))
      · rfl
  | lifetime hblanks hname hends =>
      obtain ⟨_, ⟨c, rest, rfl, hc, hrest⟩, rfl⟩ := hname
      have hstop : (rest ++ behind).dropWhile isIdentChar = behind := by
        rw [List.dropWhile_append, List.dropWhile_eq_nil_iff.mpr hrest, List.isEmpty_nil, if_pos rfl]
        cases behind with
        | nil => rfl
        | cons d behind => simp [hends d rfl]
      have hquote : trimLeft ('\'' :: c :: rest ++ behind) = '\'' :: c :: rest ++ behind :=
        trimLeft_eq_self fun d hd => by
          obtain rfl : '\'' = d := by simpa using hd
          decide
      rw [List.append_assoc, trimLeft_append_of_isBlankText hblanks, hquote]
      simp [dropLifetime, hc, hstop, trimLeft]

theorem endsWord_congr {a b : List Char} (h : a.head? = b.head?) : endsWord a = endsWord b := by
  cases a <;> cases b <;> simp_all [endsWord]

theorem afterMut?_trim_cons {c : Char} (hblank : isBlank c = false) (hc : c ≠ 'm') {rest : List Char} :
    afterMut? (trim (c :: rest)) = none := by
  have hleft : trimLeft (c :: rest) = c :: rest := by simp [trimLeft, hblank]
  obtain ⟨back, hright, -⟩ := exists_trimRight_append (c :: rest)
  rw [trim, hleft]
  unfold afterMut?
  split
  · next heq =>
      rw [heq] at hright
      exact absurd (List.cons.inj hright).1.symm hc
  · rfl

/-- Blanks may stand between a path and its arguments. -/
theorem endsName_blanks_arguments {blanks : List Char} (h : IsBlankText blanks) (inside : List Char) :
    EndsName (blanks ++ ('<' :: inside ++ ['>'])) := by
  cases blanks with
  | nil => exact endsName_arguments inside
  | cons b blanks =>
      intro c hc
      obtain rfl : b = c := by simpa using hc
      have hb := h b List.mem_cons_self
      refine ⟨?_, ?_⟩
      · cases hident : isIdentChar b with
        | false => rfl
        | true => exact absurd ((isBlank_of_isIdentChar hident).symm.trans hb) Bool.false_ne_true
      · rintro rfl
        revert hb
        decide

theorem pathEnd_blanks_arguments {blanks : List Char} (h : IsBlankText blanks) (inside : List Char) :
    pathEnd (blanks ++ ('<' :: inside ++ ['>'])) = .arguments inside := by
  rw [pathEnd, trimLeft_append_of_isBlankText h, ← pathEnd, pathEnd_arguments]

namespace Written

variable {dialect : Dialect} {text : List Char} {t : Ty}

/-- How a written text begins. -/
theorem exists_cons (h : Written dialect params text t) : ∃ c rest, text = c :: rest ∧
    (isBlank c = true ∨ c = '&' ∨ c = '[' ∨ c = '(' ∨ isIdentStart c = true) := by
  induction h with
  | @spaced front text back t hfront _ _ ih =>
      cases front with
      | nil =>
          obtain ⟨c, rest, rfl, hc⟩ := ih
          exact ⟨c, rest ++ back, rfl, hc⟩
      | cons c front => exact ⟨c, _, rfl, .inl (hfront c List.mem_cons_self)⟩
  | ref | refMut => exact ⟨'&', _, rfl, by decide⟩
  | slice | array => exact ⟨'[', _, rfl, by decide⟩
  | tuple => exact ⟨'(', _, rfl, by decide⟩
  | bare hname =>
      obtain ⟨c, rest, rfl, hc, -⟩ := (isPathName_iff_isPath.mpr hname).exists_cons
      exact ⟨c, rest, rfl, by simp [hc]⟩
  | applied hname =>
      obtain ⟨c, rest, rfl, hc, -⟩ := (isPathName_iff_isPath.mpr hname).exists_cons
      exact ⟨c, _, rfl, by simp [hc]⟩

/-- A written text that does not continue an identifier does not continue a word either. -/
theorem endsWord (h : Written dialect params text t) (hends : EndsIdentifier text) :
    endsWord text = true := by
  obtain ⟨c, rest, rfl, hc⟩ := h.exists_cons
  have hword : isWordChar c = false := by
    rcases hc with hc | rfl | rfl | rfl | hc
    · exact isWordChar_of_isBlank hc
    · decide +kernel
    · decide +kernel
    · decide +kernel
    · exact absurd (isIdentChar_of_isIdentStart hc) (by simp [hends c rfl])
  simp [Text.endsWord, hword]

theorem afterMut?_eq_none (h : Written dialect params text t) (hmut : t.namesMut = false) :
    afterMut? (trim text) = none := by
  have hfirst {name : List Char} {args : List Ty}
      (hnames : (pathNode params name args).namesMut = false) :
      name.takeWhile (· != ':') ≠ ['m', 'u', 't'] := by
    simpa [pathNode, namesMut, firstName] using hnames
  induction h with
  | spaced hfront hback _ ih => rw [trim_append_blanks hfront hback, ih hmut]
  | ref | refMut | slice | array | tuple => exact afterMut?_trim_cons (by decide) (by decide)
  | @bare name hname =>
      have hpath := isPathName_iff_isPath.mpr hname
      have hnothing : EndsName [] := by simp [EndsName]
      have hnone := afterMut?_pathName hpath hnothing (hfirst hmut)
      rwa [(hasSolidEnds_pathName hpath).trim_eq, ← List.append_nil name]
  | applied hname hblanks =>
      have hpath := isPathName_iff_isPath.mpr hname
      rw [(hasSolidEnds_applied hpath _ _).trim_eq]
      exact afterMut?_pathName hpath (endsName_blanks_arguments hblanks _) (hfirst hmut)

/-- The parts of a list are its items, read or skipped. -/
theorem commaParts_eq {pieces : List (List Char)} {inside : List Char}
    (hlist : ListText ',' pieces inside) (hwhole : ∀ piece ∈ pieces, IsWhole (· == ',') piece)
    (hsolid : ∀ piece ∈ pieces, trim piece ≠ []) : commaParts inside = .ok (pieces.map trim) :=
  commaParts_eq_ok_iff.mpr (hlist.splitOutside_eq (by decide) (by decide) (by decide) hwhole hsolid)

/-- The parts between semicolons, whether or not one stands behind the last. -/
theorem semicolonParts_eq (pieces : List (List Char)) {tail : List Char} (hne : pieces ≠ [])
    (htail : Dialect.lenient.closes tail) (hwhole : ∀ piece ∈ pieces, IsWhole (· == ';') piece)
    (hsolid : ∀ piece ∈ pieces, trim piece ≠ []) :
    semicolonParts ([';'].intercalate pieces ++ tail) = .ok (pieces.map trim) := by
  have hlist : ListText ';' pieces ([';'].intercalate pieces ++ tail) :=
    (listText_iff hne).mpr ⟨tail, htail, rfl⟩
  exact semicolonParts_eq_ok_iff.mpr
    (hlist.splitOutside_eq (by decide) (by decide) (by decide) hwhole hsolid)

/-- Reading the arguments that are not skipped. -/
theorem mapM_parseChars_items (items : List (List Char × Option Ty))
    (hskipped : ∀ item ∈ items, item.2 = none → isLifetime (trim item.1) = true)
    (hread : ∀ item ∈ items, ∀ t, item.2 = some t →
      isLifetime (trim item.1) = false ∧ parseChars params (trim item.1) = .ok t) :
    (((items.map Prod.fst).map trim).filter fun part => !isLifetime part).mapM (parseChars params) =
      .ok (items.filterMap Prod.snd) := by
  rw [mapM_eq_ok_iff]
  induction items with
  | nil => rfl
  | cons item items ih =>
      have hrest := ih (fun other hother => hskipped other (List.mem_cons_of_mem item hother))
        fun other hother => hread other (List.mem_cons_of_mem item hother)
      obtain ⟨piece, found⟩ := item
      cases found with
      | none =>
          have hlifetime := hskipped _ List.mem_cons_self rfl
          simpa [hlifetime] using hrest
      | some t =>
          obtain ⟨htype, hok⟩ := hread _ List.mem_cons_self t rfl
          simpa [htype, hok] using hrest

theorem trim_brackets {opener closer : Char} (inside : List Char) (hopener : IsSolid opener)
    (hcloser : IsSolid closer) :
    trim (opener :: inside ++ [closer]) = opener :: inside ++ [closer] :=
  (hasSolidEnds_cons_concat hopener hcloser inside).trim_eq

/-- Blanks at the ends of a part make no difference. -/
theorem parseChars_trim (h : Written dialect params text t)
    (hread : parseChars params text = .ok t) : parseChars params (trim text) = .ok t :=
  parseChars_congr h.hasSolidEnds.trim_eq.symm hread

section Forms

variable {lead blanks inside name tail length : List Char}

theorem read_ref (hlead : IsLead text lead) (hmut : t.namesMut = false)
    (h : Written .lenient params text t) (hread : parseChars params text = .ok t) :
    parseChars params ('&' :: (lead ++ text)) = .ok (Ty.ref t) := by
  -- the blanks behind the inner type are trimmed with the whole
  have hends := h.hasSolidEnds
  have hcore := trimLeft_trimRight hends.ne_nil
  have hdrop := (hlead.congr (head?_trimRight hends.ne_nil)).dropLifetime_eq
    fun c hc => (hends.head c (hcore ▸ hc)).2
  rw [hcore] at hdrop
  rw [parseChars_ref (trim_cons_append (by decide) hends.ne_nil lead)
    (by rw [hdrop, h.afterMut?_eq_none hmut]), hdrop, h.parseChars_trim hread]
  rfl

theorem read_refMut (hblanks : IsBlankText blanks)
    (hlead : IsLead (blanks ++ 'm' :: 'u' :: 't' :: text) lead) (hends : EndsIdentifier text)
    (h : Written .lenient params text t) (hread : parseChars params text = .ok t) :
    parseChars params ('&' :: (lead ++ (blanks ++ 'm' :: 'u' :: 't' :: text))) =
      .ok (Ty.refMut t) := by
  -- what remains behind the lifetime begins with the keyword
  have hne := h.hasSolidEnds.ne_nil
  have hkeyword : trimLeft (blanks ++ 'm' :: 'u' :: 't' :: trimRight text) =
      'm' :: 'u' :: 't' :: trimRight text := by
    rw [trimLeft_append_of_isBlankText hblanks, trimLeft_eq_self fun c hc => ?_]
    obtain rfl : 'm' = c := by simpa using hc
    decide
  have hbehind : (blanks ++ 'm' :: 'u' :: 't' :: trimRight text).head? =
      (blanks ++ 'm' :: 'u' :: 't' :: text).head? := by
    cases blanks <;> rfl
  have hdrop := (hlead.congr hbehind).dropLifetime_eq (by simp [hkeyword])
  rw [hkeyword] at hdrop
  have hafter : afterMut? ('m' :: 'u' :: 't' :: trimRight text) = some (trimRight text) := by
    rw [afterMut?, endsWord_congr (head?_trimRight hne), h.endsWord hends, if_pos rfl]
  have htrim : trim ('&' :: (lead ++ (blanks ++ 'm' :: 'u' :: 't' :: text))) =
      '&' :: (lead ++ (blanks ++ 'm' :: 'u' :: 't' :: trimRight text)) := by
    have hcons := trim_cons_append (by decide : isBlank '&' = false) hne
      (lead ++ (blanks ++ ['m', 'u', 't']))
    simpa using hcons
  rw [parseChars_refMut htrim (hdrop ▸ hafter), parseChars_congr (trim_trimRight text).symm hread]
  rfl

theorem read_slice (hclose : Dialect.lenient.closes tail) (h : Written .lenient params text t)
    (hread : parseChars params text = .ok t) :
    parseChars params ('[' :: (text ++ tail) ++ [']']) = .ok (Ty.slice t) := by
  have hcut := semicolonParts_eq [text] (by simp) hclose
    (by simpa using h.isWhole separatesParts_semicolon) (by simpa using h.hasSolidEnds.ne_nil)
  rw [List.intercalate_singleton] at hcut
  rw [parseChars_slice (trim_brackets _ ⟨by decide, by decide⟩ ⟨by decide, by decide⟩) hcut,
    h.parseChars_trim hread]
  rfl

theorem read_array (hlength : isNumeral (trim length) = true)
    (hclose : Dialect.lenient.closes tail) (h : Written .lenient params text t)
    (hread : parseChars params text = .ok t) :
    parseChars params ('[' :: (text ++ ';' :: length ++ tail) ++ [']']) =
      .ok (node (.ofLength (trim length)) false [t]) := by
  have hdigits : ∀ c ∈ length, IsPlain c := isPlain_of_mem_trim (isPlain_of_mem_numeral hlength)
  have hnumeral : trim length ≠ [] := by
    intro hnil
    simp [hnil, isNumeral] at hlength
  have hcut := semicolonParts_eq [text, length] (by simp) hclose
    (by simpa using ⟨h.isWhole separatesParts_semicolon,
      isWhole_of_isPlain separatesParts_semicolon hdigits⟩)
    (by simpa using ⟨h.hasSolidEnds.ne_nil, hnumeral⟩)
  rw [List.intercalate_cons_cons, List.intercalate_singleton, List.append_assoc text,
    List.singleton_append] at hcut
  rw [parseChars_array (trim_brackets _ ⟨by decide, by decide⟩ ⟨by decide, by decide⟩) hcut
    hlength, h.parseChars_trim hread]
  rfl

theorem read_tuple {items : List (List Char × Ty)} (hlist : ListText ',' (items.map Prod.fst) inside)
    (hitems : ∀ item ∈ items, Written .lenient params item.1 item.2)
    (hread : ∀ item ∈ items, parseChars params item.1 = .ok item.2) :
    parseChars params ('(' :: inside ++ [')']) = .ok (Ty.tuple (items.map Prod.snd)) := by
  have hcut := commaParts_eq hlist
    (by simpa using fun text t hitem => (hitems (text, t) hitem).isWhole separatesParts_comma)
    (by simpa using fun text t hitem => (hitems (text, t) hitem).hasSolidEnds.ne_nil)
  have hparts : ((items.map Prod.fst).map trim).mapM (parseChars params) =
      .ok (items.map Prod.snd) := by
    rw [mapM_eq_ok_iff, List.map_map, List.map_map, List.map_map]
    exact List.map_congr_left fun item hitem =>
      (hitems item hitem).parseChars_trim (hread item hitem)
  rw [parseChars_tuple (trim_brackets _ ⟨by decide, by decide⟩ ⟨by decide, by decide⟩) hcut, hparts]
  rfl

theorem read_bare (hname : IsPath name) :
    parseChars params name = .ok (pathNode params name []) := by
  have hpath := isPathName_iff_isPath.mpr hname
  exact parseChars_bare (hasSolidEnds_pathName hpath).trim_eq hpath

/-- No item of a list of arguments is cut, be it a type or skipped, and none is blank. -/
theorem isWhole_of_mem_items {items : List (List Char × Option Ty)}
    (hskipped : ∀ item ∈ items, item.2 = none → Dialect.lenient.skips item.1)
    (hitems : ∀ item ∈ items, ∀ t, item.2 = some t → Written .lenient params item.1 t) :
    ∀ piece ∈ items.map Prod.fst, IsWhole (· == ',') piece ∧ trim piece ≠ [] := by
  intro piece hpiece
  obtain ⟨item, hitem, rfl⟩ := List.mem_map.mp hpiece
  cases hfound : item.2 with
  | none =>
      obtain ⟨hquote, hinside⟩ := hskipped item hitem hfound
      exact ⟨hinside.isWhole, fun hnil => by simp [hnil] at hquote⟩
  | some t =>
      have hwritten := hitems item hitem t hfound
      exact ⟨hwritten.isWhole separatesParts_comma, hwritten.hasSolidEnds.ne_nil⟩

theorem read_applied {items : List (List Char × Option Ty)} (hname : IsPath name)
    (hblanks : IsBlankText blanks) (hlist : ListText ',' (items.map Prod.fst) inside)
    (hskipped : ∀ item ∈ items, item.2 = none → Dialect.lenient.skips item.1)
    (hparam : String.ofList name ∈ params → items.filterMap Prod.snd = [])
    (hitems : ∀ item ∈ items, ∀ t, item.2 = some t → Written .lenient params item.1 t)
    (hread : ∀ item ∈ items, ∀ t, item.2 = some t → parseChars params item.1 = .ok t) :
    parseChars params (name ++ (blanks ++ ('<' :: inside ++ ['>']))) =
      .ok (pathNode params name (items.filterMap Prod.snd)) := by
  have hpath := isPathName_iff_isPath.mpr hname
  have hwhole := isWhole_of_mem_items hskipped hitems
  have hcut := commaParts_eq hlist (fun piece hp => (hwhole piece hp).1)
    fun piece hp => (hwhole piece hp).2
  have hlifetime : ∀ item ∈ items, item.2 = none → isLifetime (trim item.1) = true := by
    intro item hi hnone
    rw [isLifetime, trimLeft_trim, (hskipped item hi hnone).1]
    rfl
  have hparts := mapM_parseChars_items items hlifetime fun item hi t ht =>
    ⟨isLifetime_of_hasSolidEnds (hitems item hi t ht).hasSolidEnds,
      (hitems item hi t ht).parseChars_trim (hread item hi t ht)⟩
  exact parseChars_arguments (hasSolidEnds_applied hpath blanks inside).trim_eq hpath
    (endsName_blanks_arguments hblanks inside) (pathEnd_blanks_arguments hblanks inside) hcut
    hparts fun hmem => hparam (List.contains_iff_mem.mp hmem)

end Forms

/-- What is written is read, form by form. -/
theorem parseChars_eq (h : Written .lenient params text t) : parseChars params text = .ok t := by
  induction h with
  | @spaced front text back t hfront hback _ ih =>
      exact parseChars_congr (trim_append_blanks hfront hback text).symm ih
  | ref hlead hmut h ih => exact read_ref hlead hmut h ih
  | refMut hblanks hlead hends h ih => exact read_refMut hblanks hlead hends h ih
  | slice hclose h ih => exact read_slice hclose h ih
  | array hlength hclose h ih => exact read_array hlength hclose h ih
  | tuple hlist hitems ih => exact read_tuple hlist hitems ih
  | bare hname => exact read_bare hname
  | applied hname hblanks hlist hskipped hparam hitems ih =>
      exact read_applied hname hblanks hlist hskipped hparam hitems ih

end Written

/-! ## Both -/

theorem parseChars_eq_ok_iff {text : List Char} {t : Ty} :
    parseChars params text = .ok t ↔ Written .lenient params text t :=
  ⟨fun h => (reads_of_parseChars h).written, Written.parseChars_eq⟩

end Ty
end FuzzSynth
