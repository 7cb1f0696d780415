/-
The grammar of types.

`Written dialect params text t` says that a text is a way to write a type: it has a derivation by
the rules of the notation, with blanks around tokens where one likes.  The rules leave open two
things, and a `Dialect` settles them: which type arguments are skipped, and what may stand in
front of the bracket that closes a slice or an array.  In the strict dialect these are lifetimes
and nothing.

A written text begins with a character of the notation, is not cut at commas and semicolons
(`Written.isWhole`), and in the strict dialect its brackets are matched (`Written.isMatched`).
-/
import FuzzSynth.Proofs.Text.Lists
import FuzzSynth.Proofs.Ty.RoundTrip

namespace FuzzSynth
namespace Ty

open FuzzSynth.Text

/-! ## Tokens -/

/-- An identifier. -/
def IsIdentifier (name : List Char) : Prop :=
  ∃ c rest, name = c :: rest ∧ isIdentStart c = true ∧ ∀ d ∈ rest, isIdentChar d = true

/-- Identifiers joined by `::`. -/
def IsPath (name : List Char) : Prop :=
  ∃ names, names ≠ [] ∧ (∀ n ∈ names, IsIdentifier n) ∧ [':', ':'].intercalate names = name

/-- An apostrophe and an identifier. -/
def IsLifetimeName (text : List Char) : Prop :=
  ∃ name, IsIdentifier name ∧ text = '\'' :: name

/-- A text that does not continue an identifier. -/
def EndsIdentifier (rest : List Char) : Prop :=
  ∀ c ∈ rest.head?, isIdentChar c = false

/-- What may stand between `&` and the text behind it: nothing or a lifetime. -/
inductive IsLead (behind : List Char) : List Char → Prop
  | none : IsLead behind []
  | lifetime {blanks name : List Char} (hblanks : IsBlankText blanks) (hname : IsLifetimeName name)
      (hends : EndsIdentifier behind) : IsLead behind (blanks ++ name)

/-! ### Paths -/

theorem pathTail_identChars {front : List Char} (h : ∀ c ∈ front, isIdentChar c = true)
    (rest : List Char) :
    pathTail (front ++ rest) = (front ++ (pathTail rest).1, (pathTail rest).2) := by
  induction front with
  | nil => rfl
  | cons c front ih =>
      have hc := h c List.mem_cons_self
      have hcolon : c ≠ ':' := by
        rintro rfl
        revert hc
        decide
      have htail := ih fun d hd => h d (List.mem_cons_of_mem c hd)
      rw [List.cons_append, pathTail.eq_def]
      split <;> simp_all

/-- The induction is on the number of identifiers. -/
theorem isPathName_intercalate {names : List (List Char)} (hne : names ≠ [])
    (h : ∀ n ∈ names, IsIdentifier n) : IsPathName ([':', ':'].intercalate names) := by
  induction names with
  | nil => exact absurd rfl hne
  | cons first rest ih =>
      obtain ⟨c, tail, rfl, hc, htail⟩ := h first List.mem_cons_self
      have hplain := pathTail_identChars htail
      cases rest with
      | nil =>
          have hall := hplain []
          rw [List.append_nil] at hall
          simp [IsPathName, pathName?, hc, hall, pathTail]
      | cons second rest =>
          have hrest := ih (List.cons_ne_nil _ _) fun n hn => h n (List.mem_cons_of_mem _ hn)
          obtain ⟨d, more, heq, hd, hmore⟩ := hrest.exists_cons
          simp [IsPathName, pathName?, hc, hplain, heq, pathTail, hd, hmore]

/-- The induction follows the reader of paths, with what was read of the current identifier. -/
theorem isPath_append_of_pathTail {tail : List Char} (h : pathTail tail = (tail, []))
    {name : List Char} (hname : IsIdentifier name) : IsPath (name ++ tail) := by
  fun_induction pathTail tail generalizing name with
  | case1 => exact ⟨[name], by simp, by simpa using hname, by simp⟩
  | case2 c rest hc ih =>
      have hrest : pathTail rest = (rest, []) := by
        obtain ⟨h₁, h₂⟩ : (pathTail rest).1 = rest ∧ (pathTail rest).2 = [] := by simpa using h
        exact Prod.ext h₁ h₂
      obtain ⟨names, hne, hall, heq⟩ := ih hrest ⟨c, [], rfl, hc, by simp⟩
      refine ⟨name :: names, by simp, by simpa using ⟨hname, hall⟩, ?_⟩
      cases names with
      | nil => exact absurd rfl hne
      | cons second others =>
          rw [List.intercalate_cons_cons, heq]
          simp
  | case3 c rest _ => simp at h
  | case4 c rest _ hc ih =>
      have hrest : pathTail rest = (rest, []) := by
        obtain ⟨h₁, h₂⟩ : (pathTail rest).1 = rest ∧ (pathTail rest).2 = [] := by simpa using h
        exact Prod.ext h₁ h₂
      obtain ⟨d, more, rfl, hd, hmore⟩ := hname
      have hlonger : IsIdentifier (d :: more ++ [c]) := by
        refine ⟨d, more ++ [c], rfl, hd, fun e he => ?_⟩
        rcases List.mem_append.mp he with he | he
        · exact hmore e he
        · obtain rfl := List.mem_singleton.mp he
          exact hc
      have hall := ih hrest hlonger
      rwa [List.append_assoc, List.singleton_append] at hall
  | case5 c rest _ => simp at h

/-- The reader of path names reads exactly the paths. -/
theorem isPathName_iff_isPath {name : List Char} : IsPathName name ↔ IsPath name := by
  constructor
  · intro h
    obtain ⟨c, tail, rfl, hc, htail⟩ := h.exists_cons
    have hfirst : IsIdentifier [c] := ⟨c, [], rfl, hc, by simp⟩
    exact isPath_append_of_pathTail htail hfirst
  · rintro ⟨names, hne, hall, rfl⟩
    exact isPathName_intercalate hne hall

/-! ### Ends -/

/-- Behind a solid character, a text whose ends are solid apart from blanks. -/
theorem hasSolidEnds_trim_cons_append {c : Char} (hc : IsSolid c) {text : List Char}
    (h : HasSolidEnds (trim text)) (lead : List Char) :
    HasSolidEnds (trim (c :: (lead ++ text))) := by
  obtain ⟨front, -, heq⟩ := exists_append_trim_eq_trimRight h.ne_nil
  have happend : HasSolidEnds (c :: (lead ++ front) ++ trim text) :=
    h.append (by simp) (by simpa using hc)
  rw [trim_cons_append hc.1 h.ne_nil, heq]
  simpa using happend

theorem hasSolidEnds_applied {name : List Char} (h : IsPathName name) (blanks inside : List Char) :
    HasSolidEnds (name ++ (blanks ++ ('<' :: inside ++ ['>']))) := by
  have hbrackets : HasSolidEnds ('<' :: inside ++ ['>']) :=
    hasSolidEnds_cons_concat ⟨by decide, by decide⟩ ⟨by decide, by decide⟩ inside
  have hends := hasSolidEnds_pathName h
  have hhead : ∀ c ∈ (name ++ blanks).head?, IsSolid c := by
    rw [List.head?_append_of_ne_nil _ hends.ne_nil]
    exact hends.head
  have happend := hbrackets.append (by simp [hends.ne_nil]) hhead
  rwa [List.append_assoc] at happend

/-! ## Derivations -/

/-- What the rules leave open. -/
structure Dialect where
  /-- The type arguments that are skipped. -/
  skips : List Char → Prop
  /-- What may stand in front of the bracket that closes a slice or an array. -/
  closes : List Char → Prop

/-- Lifetimes are skipped, and nothing stands in front of a closing bracket. -/
def Dialect.strict : Dialect where
  skips item := IsLifetimeName (trim item)
  closes tail := tail = []

/-- Whatever begins with an apostrophe is skipped, and a semicolon may stand in front of a closing
bracket. -/
def Dialect.lenient : Dialect where
  skips item := (trim item).head? = some '\'' ∧ IsItem ',' item
  closes tail := tail = [] ∨ ∃ blanks, IsBlankText blanks ∧ tail = ';' :: blanks

/-- The ways to write a type when these parameters are in scope.  Lists pair each item with what
it stands for; among type arguments that is a type, or nothing for one that is skipped. -/
inductive Written (dialect : Dialect) (params : List String) : List Char → Ty → Prop
  | spaced {front text back : List Char} {t : Ty} (hfront : IsBlankText front)
      (hback : IsBlankText back) (h : Written dialect params text t) :
      Written dialect params (front ++ text ++ back) t
  /-- Behind `&` the word `mut` is a keyword and begins no path. -/
  | ref {lead text : List Char} {t : Ty} (hlead : IsLead text lead) (hmut : t.namesMut = false)
      (h : Written dialect params text t) : Written dialect params ('&' :: (lead ++ text)) (ref t)
  | refMut {lead blanks text : List Char} {t : Ty} (hblanks : IsBlankText blanks)
      (hlead : IsLead (blanks ++ 'm' :: 'u' :: 't' :: text) lead) (hends : EndsIdentifier text)
      (h : Written dialect params text t) :
      Written dialect params ('&' :: (lead ++ (blanks ++ 'm' :: 'u' :: 't' :: text))) (refMut t)
  | slice {text tail : List Char} {t : Ty} (hclose : dialect.closes tail)
      (h : Written dialect params text t) :
      Written dialect params ('[' :: (text ++ tail) ++ [']']) (slice t)
  | array {text length tail : List Char} {t : Ty} (hlength : isNumeral (trim length) = true)
      (hclose : dialect.closes tail) (h : Written dialect params text t) :
      Written dialect params ('[' :: (text ++ ';' :: length ++ tail) ++ [']'])
        (node (.ofLength (trim length)) false [t])
  | tuple {items : List (List Char × Ty)} {inside : List Char}
      (hlist : ListText ',' (items.map Prod.fst) inside)
      (h : ∀ item ∈ items, Written dialect params item.1 item.2) :
      Written dialect params ('(' :: inside ++ [')']) (tuple (items.map Prod.snd))
  | bare {name : List Char} (hname : IsPath name) :
      Written dialect params name (pathNode params name [])
  /-- A parameter has no type arguments, though it may have lifetimes. -/
  | applied {name blanks inside : List Char} {items : List (List Char × Option Ty)}
      (hname : IsPath name) (hblanks : IsBlankText blanks)
      (hlist : ListText ',' (items.map Prod.fst) inside)
      (hskipped : ∀ item ∈ items, item.2 = none → dialect.skips item.1)
      (hparam : String.ofList name ∈ params → items.filterMap Prod.snd = [])
      (h : ∀ item ∈ items, ∀ t, item.2 = some t → Written dialect params item.1 t) :
      Written dialect params (name ++ (blanks ++ ('<' :: inside ++ ['>'])))
        (pathNode params name (items.filterMap Prod.snd))

namespace Written

variable {dialect : Dialect} {params : List String} {text : List Char} {t : Ty}

theorem of_trim (h : Written dialect params (trim text) t) : Written dialect params text t := by
  obtain ⟨front, back, hfront, hback, heq⟩ := exists_blanks_append_trim text
  rw [← heq]
  exact .spaced hfront hback h

/-- What is written in a dialect is written in one that skips and closes no less. -/
theorem mono {wider : Dialect} (h : Written dialect params text t)
    (hskips : ∀ item, dialect.skips item → wider.skips item)
    (hcloses : ∀ tail, dialect.closes tail → wider.closes tail) : Written wider params text t := by
  induction h with
  | spaced hfront hback _ ih => exact .spaced hfront hback ih
  | ref hlead hmut _ ih => exact .ref hlead hmut ih
  | refMut hblanks hlead hends _ ih => exact .refMut hblanks hlead hends ih
  | slice hclose _ ih => exact .slice (hcloses _ hclose) ih
  | array hlength hclose _ ih => exact .array hlength (hcloses _ hclose) ih
  | tuple hlist _ ih => exact .tuple hlist ih
  | bare hname => exact .bare hname
  | applied hname hblanks hlist hskipped hparam _ ih =>
      exact .applied hname hblanks hlist (fun item hitem hnone => hskips _ (hskipped item hitem hnone))
        hparam ih

/-! ### The ends of a written text -/

theorem hasSolidEnds (h : Written dialect params text t) : HasSolidEnds (trim text) := by
  have hand : IsSolid '&' := ⟨by decide, by decide⟩
  have hsquare (inside : List Char) : HasSolidEnds ('[' :: inside ++ [']']) :=
    hasSolidEnds_cons_concat ⟨by decide, by decide⟩ ⟨by decide, by decide⟩ inside
  induction h with
  | spaced hfront hback _ ih => rwa [trim_append_blanks hfront hback]
  | ref _ _ _ ih => exact hasSolidEnds_trim_cons_append hand ih _
  | @refMut lead blanks inner _ _ _ _ _ ih =>
      -- all in front of the inner type counts as its lead here
      have hkeyword : lead ++ (blanks ++ 'm' :: 'u' :: 't' :: inner) =
          (lead ++ (blanks ++ ['m', 'u', 't'])) ++ inner := by simp
      rw [hkeyword]
      exact hasSolidEnds_trim_cons_append hand ih _
  | slice => rw [(hsquare _).trim_eq]; exact hsquare _
  | array => rw [(hsquare _).trim_eq]; exact hsquare _
  | @tuple _ inside =>
      have hends : HasSolidEnds ('(' :: inside ++ [')']) :=
        hasSolidEnds_cons_concat ⟨by decide, by decide⟩ ⟨by decide, by decide⟩ inside
      rwa [hends.trim_eq]
  | bare hname =>
      have hends := hasSolidEnds_pathName (isPathName_iff_isPath.mpr hname)
      rwa [hends.trim_eq]
  | @applied name blanks inside _ hname =>
      have hends := hasSolidEnds_applied (isPathName_iff_isPath.mpr hname) blanks inside
      rwa [hends.trim_eq]

end Written

/-! ### Properties of written texts -/

/-- Two properties of texts that the rules of a dialect keep: `outer` of what is written, and
`inner` of what stands between brackets. -/
structure Dialect.Keeps (dialect : Dialect) (outer inner : List Char → Prop) : Prop where
  plain {text : List Char} : (∀ c ∈ text, IsPlain c) → outer text
  append {s t : List Char} : outer s → outer t → outer (s ++ t)
  inside {text : List Char} : outer text → inner text
  mark : ∀ c ∈ [',', ';'], inner [c]
  join {s t : List Char} : inner s → inner t → inner (s ++ t)
  brackets {opener : Char} {text : List Char} : isOpener opener = true → inner text →
    outer (opener :: text ++ [closerOf opener])
  skips {item : List Char} : dialect.skips item → inner item
  closes {tail : List Char} : dialect.closes tail → inner tail

section Characters

theorem isPlain_of_mem_trim {text : List Char} (h : ∀ c ∈ trim text, IsPlain c) :
    ∀ c ∈ text, IsPlain c := by
  obtain ⟨front, back, hfront, hback, heq⟩ := exists_blanks_append_trim text
  intro c hc
  rw [← heq, List.mem_append, List.mem_append] at hc
  rcases hc with (hc | hc) | hc
  · exact isPlain_of_isBlank (hfront c hc)
  · exact h c hc
  · exact isPlain_of_isBlank (hback c hc)

theorem isPlain_of_mem_lifetimeName {text : List Char} (h : IsLifetimeName text) :
    ∀ c ∈ text, IsPlain c := by
  obtain ⟨_, ⟨first, rest, rfl, hfirst, hrest⟩, rfl⟩ := h
  have hident {c : Char} (hc : isIdentChar c = true) : IsPlain c := isPlain_of_class (by decide) hc
  intro c hc
  rcases List.mem_cons.mp hc with rfl | hc
  · decide
  · rcases List.mem_cons.mp hc with rfl | hc
    · exact hident (isIdentChar_of_isIdentStart hfirst)
    · exact hident (hrest c hc)

theorem IsLead.isPlain {behind lead : List Char} (h : IsLead behind lead) : ∀ c ∈ lead, IsPlain c := by
  cases h with
  | none => simp
  | lifetime hblanks hname =>
      intro c hc
      rcases List.mem_append.mp hc with hc | hc
      · exact isPlain_of_isBlank (hblanks c hc)
      · exact isPlain_of_mem_lifetimeName hname c hc

end Characters

namespace Written

variable {dialect : Dialect} {params : List String} {text : List Char} {t : Ty}

theorem of_keeps {outer inner : List Char → Prop} (hkeeps : dialect.Keeps outer inner)
    (h : Written dialect params text t) : outer text := by
  have hblank {blanks : List Char} (h : IsBlankText blanks) : outer blanks :=
    hkeeps.plain fun c hc => isPlain_of_isBlank (h c hc)
  have hand : outer ['&'] := hkeeps.plain (by simpa using (by decide : IsPlain '&'))
  have hlist {pieces : List (List Char)} {inside : List Char} (hlist : ListText ',' pieces inside)
      (hpieces : ∀ piece ∈ pieces, inner piece) : inner inside :=
    hlist.of_forall hkeeps.join (hkeeps.mark ',' (by simp)) (fun hb => hkeeps.inside (hblank hb))
      hpieces
  induction h with
  | spaced hfront hback _ ih => exact hkeeps.append (hkeeps.append (hblank hfront) ih) (hblank hback)
  | ref hlead _ _ ih => exact hkeeps.append hand (hkeeps.append (hkeeps.plain hlead.isPlain) ih)
  | @refMut _ blanks inner _ hblanks hlead _ _ ih =>
      have hmut : outer ['m', 'u', 't'] :=
        hkeeps.plain fun c hc => isPlain_of_class (p := isIdentChar) (by decide) (by
          simp only [List.mem_cons, List.not_mem_nil, or_false] at hc
          rcases hc with rfl | rfl | rfl <;> decide)
      exact hkeeps.append hand (hkeeps.append (hkeeps.plain hlead.isPlain)
        (hkeeps.append (hblank hblanks) (hkeeps.append hmut ih)))
  | slice hclose _ ih =>
      exact hkeeps.brackets (by decide) (hkeeps.join (hkeeps.inside ih) (hkeeps.closes hclose))
  | @array _ length _ _ hlength hclose _ ih =>
      have hnumeral : outer length :=
        hkeeps.plain (isPlain_of_mem_trim (isPlain_of_mem_numeral hlength))
      have hinside := hkeeps.join (hkeeps.inside ih)
        (hkeeps.join (hkeeps.mark ';' (by simp)) (hkeeps.inside hnumeral))
      exact hkeeps.brackets (by decide) (hkeeps.join hinside (hkeeps.closes hclose))
  | tuple hitems _ ih =>
      refine hkeeps.brackets (by decide) (hlist hitems fun piece hpiece => ?_)
      obtain ⟨item, hitem, rfl⟩ := List.mem_map.mp hpiece
      exact hkeeps.inside (ih item hitem)
  | bare hname => exact hkeeps.plain (isPlain_of_mem_pathName (isPathName_iff_isPath.mpr hname))
  | applied hname hblanks hitems hskipped _ _ ih =>
      have hpath := hkeeps.plain (isPlain_of_mem_pathName (isPathName_iff_isPath.mpr hname))
      refine hkeeps.append hpath (hkeeps.append (hblank hblanks)
        (hkeeps.brackets (by decide) (hlist hitems fun piece hpiece => ?_)))
      obtain ⟨item, hitem, rfl⟩ := List.mem_map.mp hpiece
      cases htype : item.2 with
      | none => exact hkeeps.skips (hskipped item hitem htype)
      | some t => exact hkeeps.inside (ih item hitem t htype)

/-- A written text is not cut at commas or semicolons: those in it stand inside brackets. -/
theorem isWhole {isSeparator : Char → Bool} (hseparator : SeparatesParts isSeparator)
    (h : Written .lenient params text t) : IsWhole isSeparator text := by
  have hmark : ∀ c ∈ [',', ';'], IsNested isSeparator [c] := by
    intro c hc
    simp only [List.mem_cons, List.not_mem_nil, or_false] at hc
    rcases hc with rfl | rfl <;> exact isNested_singleton (by decide) (by decide)
  have hkeeps : Dialect.lenient.Keeps (IsWhole isSeparator) (IsNested isSeparator) := by
    refine
      { plain := isWhole_of_isPlain hseparator
        append := IsWhole.append
        inside := IsWhole.isNested
        mark := hmark
        join := IsNested.append
        brackets := fun hopener hinside => ?_
        skips := fun hskips => hskips.2.balanced.isNested
        closes := ?_ }
    · obtain ⟨hcloser, hneither⟩ := isCloser_closerOf hopener
      exact hinside.bracketed hopener hcloser hneither
    · rintro tail (rfl | ⟨blanks, hblanks, rfl⟩)
      · exact isWhole_nil.isNested
      · -- a semicolon that makes no part stands inside the brackets all the same
        have hrest : IsWhole isSeparator blanks :=
          isWhole_of_isPlain hseparator fun c hc => isPlain_of_isBlank (hblanks c hc)
        exact (hmark ';' (by simp)).append hrest.isNested
  exact h.of_keeps hkeeps

/-- In the strict dialect the brackets are properly nested, with matching kinds. -/
theorem isMatched (h : Written .strict params text t) : IsMatched text := by
  have hplain {text : List Char} (htext : ∀ c ∈ text, IsPlain c) : IsMatched text :=
    .of_forall fun c hc => (htext c hc).not_bracket
  have hkeeps : Dialect.strict.Keeps IsMatched IsMatched := by
    refine
      { plain := hplain
        append := IsMatched.append
        inside := id
        mark := fun c hc => ?_
        join := IsMatched.append
        brackets := fun hopener hinside => hinside.bracketed hopener
        skips := fun hskips => hplain (isPlain_of_mem_trim (isPlain_of_mem_lifetimeName hskips))
        closes := ?_ }
    · simp only [List.mem_cons, List.not_mem_nil, or_false] at hc
      rcases hc with rfl | rfl <;> decide
    · rintro tail rfl
      exact .nil
  exact h.of_keeps hkeeps

/-- What is written strictly is written leniently. -/
theorem lenient_of_strict (h : Written .strict params text t) : Written .lenient params text t := by
  refine h.mono (fun item hskips => ?_) fun tail htail => .inl htail
  have hplain := isPlain_of_mem_trim (isPlain_of_mem_lifetimeName hskips)
  obtain ⟨name, -, htrim⟩ := hskips
  exact ⟨by rw [htrim]; rfl, isItem_of_isPlain hplain⟩

end Written

end Ty
end FuzzSynth
