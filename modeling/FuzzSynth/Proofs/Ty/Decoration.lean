/-
Ways to write a type that are read alike.

`Decorated t text` says that a text is the notation of a type with additions that carry no
meaning: blanks around tokens, a lifetime behind `&`, lifetimes among type arguments or in
brackets of their own, and a comma behind the last item of a list.  It follows the printer shape by
shape, and the notation itself is one of the ways (`Spelled.decorated_chars`).

Reading a type back from any of them gives the type (`parse_of_decorated`).  The texts are
written strictly in the grammar (`Decorated.written`), where each addition has its place.
-/
import FuzzSynth.Proofs.Ty.Acceptance

namespace FuzzSynth
namespace Ty

open FuzzSynth.Text

variable {params : List String} {t : Ty} {text : List Char}

/-! ## What may be added -/

/-- What may be added behind `&`: a lifetime with a blank behind it, and blanks in front. -/
inductive IsAddedLead : List Char → Prop
  | none : IsAddedLead []
  | lifetime {front name : List Char} {blank : Char} (hfront : IsBlankText front)
      (hname : IsLifetimeName name) (hblank : isBlank blank = true) :
      IsAddedLead (front ++ name ++ [blank])

/-- The ways to write a type that add nothing but what is skipped.  Lists pair each text with its
type; among type arguments a lifetime has none. -/
inductive Decorated : Ty → List Char → Prop
  | spaced {t : Ty} {front text back : List Char} (hfront : IsBlankText front)
      (hback : IsBlankText back) (h : Decorated t text) : Decorated t (front ++ text ++ back)
  | ref {inner : Ty} {lead text : List Char} (hlead : IsAddedLead lead) (h : Decorated inner text) :
      Decorated (ref inner) ('&' :: (lead ++ text))
  | refMut {inner : Ty} {lead blanks text : List Char} (hlead : IsAddedLead lead)
      (hblanks : IsBlankText blanks) (h : Decorated inner text) :
      Decorated (refMut inner) ('&' :: (lead ++ (blanks ++ 'm' :: 'u' :: 't' :: ' ' :: text)))
  | slice {element : Ty} {text : List Char} (h : Decorated element text) :
      Decorated (slice element) ('[' :: text ++ [']'])
  | array {element : Ty} {text front length back : List Char} (hfront : IsBlankText front)
      (hback : IsBlankText back) (h : Decorated element text) :
      Decorated (node (.ofLength length) false [element])
        ('[' :: (text ++ ';' :: (front ++ length ++ back)) ++ [']'])
  | tuple {items : List (List Char × Ty)} {inside : List Char}
      (hlist : ListText ',' (items.map Prod.fst) inside)
      (h : ∀ item ∈ items, Decorated item.2 item.1) :
      Decorated (tuple (items.map Prod.snd)) ('(' :: inside ++ [')'])
  | bare {name : String} {isParam : Bool} : Decorated (node (.path name) isParam []) name.toList
  | applied {name : String} {isParam : Bool} {items : List (List Char × Option Ty)}
      {blanks inside : List Char} (hblanks : IsBlankText blanks)
      (hlist : ListText ',' (items.map Prod.fst) inside)
      (hlifetime : ∀ item ∈ items, item.2 = none → IsLifetimeName (trim item.1))
      (h : ∀ item ∈ items, ∀ t, item.2 = some t → Decorated t item.1) :
      Decorated (node (.path name) isParam (items.filterMap Prod.snd))
        (name.toList ++ (blanks ++ ('<' :: inside ++ ['>'])))

/-! ## The parts of a spelled type -/

namespace Spelled

variable {f : Former} {isParam : Bool} {args : List Ty}

theorem of_mem_args (h : Spelled params (node f isParam args)) :
    ∀ a ∈ args, Spelled params a := by
  cases h with
  | param => simp
  | ref h | refMut h | slice h | array _ h => simpa using h
  | tuple h | named _ _ h => exact h

theorem isNumeral_of_array {length : List Char} {element : Ty}
    (h : Spelled params (node (.ofLength length) false [element])) : isNumeral length = true := by
  generalize hformer : Former.ofLength length = f at h
  cases h with
  | array hlength =>
      obtain rfl := List.append_cancel_right (String.ofList_injective (Former.array.inj hformer))
      exact hlength
  | _ => simp [Former.ofLength] at hformer

/-- A path that is a parameter has no arguments. -/
theorem path_eq_pathNode {name : String} (h : Spelled params (node (.path name) isParam args)) :
    IsPath name.toList ∧ node (.path name) isParam args = pathNode params name.toList args ∧
      (name ∈ params → args = []) := by
  cases h with
  | param hname hmem =>
      refine ⟨isPathName_iff_isPath.mp hname, ?_, fun _ => rfl⟩
      simp [pathNode, hmem]
  | named hname hfree =>
      refine ⟨isPathName_iff_isPath.mp hname, ?_, fun hmem => absurd hmem hfree⟩
      simp [pathNode, hfree]

end Spelled

/-! ## Decorated texts are written -/

theorem isBlankText_space : IsBlankText [' '] := by
  simpa [IsBlankText] using (by decide : isBlank ' ' = true)

/-- Behind an added lifetime the rest begins with a blank. -/
theorem IsAddedLead.exists_isLead {lead : List Char} (h : IsAddedLead lead) :
    ∃ before blanks, lead = before ++ blanks ∧ IsBlankText blanks ∧
      ∀ behind, IsLead (blanks ++ behind) before := by
  cases h with
  | none => exact ⟨[], [], rfl, isBlankText_nil, fun _ => .none⟩
  | @lifetime front name blank hfront hname hblank =>
      have hends : isIdentChar blank = false := by
        cases hident : isIdentChar blank with
        | false => rfl
        | true => exact absurd hblank (by simp [isBlank_of_isIdentChar hident])
      refine ⟨front ++ name, [blank], rfl, by simpa [IsBlankText] using hblank, fun behind => ?_⟩
      exact .lifetime hfront hname (by simpa [EndsIdentifier] using hends)

theorem trim_numeral {front length back : List Char} (hfront : IsBlankText front)
    (hback : IsBlankText back) (h : isNumeral length = true) :
    trim (front ++ length ++ back) = length := by
  have hdigits : ∀ c ∈ length, isDigit c = true := by
    have : length ≠ [] ∧ ∀ c ∈ length, isDigit c = true := by simpa [isNumeral] using h
    exact this.2
  rw [trim_append_blanks hfront hback]
  exact trim_eq_self (fun c hc => isBlank_of_isDigit (hdigits c (List.mem_of_mem_head? hc)))
    fun c hc => isBlank_of_isDigit (hdigits c (List.mem_of_mem_getLast? hc))

/-- The induction is on the ways to write a type; what is known of the type passes to its parts. -/
theorem Decorated.written (h : Decorated t text) (hspelled : Spelled params t)
    (hmut : t.refersToMut = false) : Written .strict params text t := by
  induction h with
  | spaced hfront hback _ ih => exact .spaced hfront hback (ih hspelled hmut)
  | ref hlead _ ih =>
      obtain ⟨before, blanks, rfl, hblanks, hbefore⟩ := hlead.exists_isLead
      obtain ⟨hnames, hinner⟩ := refersToMut_eq_false_iff.mp hmut
      have hwritten := ih (hspelled.of_mem_args _ (by simp)) (hinner _ (by simp))
      -- the blanks behind the lifetime belong to the inner type
      have hspaced := hwritten.spaced hblanks isBlankText_nil
      rw [List.append_nil] at hspaced
      rw [List.append_assoc]
      exact .ref (hbefore _) hnames hspaced
  | @refMut inner lead blanks text hlead hblanks _ ih =>
      obtain ⟨before, more, rfl, hmore, hbefore⟩ := hlead.exists_isLead
      obtain ⟨-, hinner⟩ := refersToMut_eq_false_iff.mp hmut
      have hwritten := ih (hspelled.of_mem_args _ (by simp)) (hinner _ (by simp))
      have hspaced := hwritten.spaced isBlankText_space isBlankText_nil
      rw [List.append_nil] at hspaced
      have hends : EndsIdentifier ([' '] ++ text) := by
        simpa [EndsIdentifier] using (by decide : isIdentChar ' ' = false)
      have hlead := hbefore (blanks ++ 'm' :: 'u' :: 't' :: ([' '] ++ text))
      rw [← List.append_assoc] at hlead
      have hall := Written.refMut (hmore.append hblanks) hlead hends hspaced
      rwa [List.append_assoc, ← List.append_assoc before] at hall
  | slice _ ih =>
      obtain ⟨-, hinner⟩ := refersToMut_eq_false_iff.mp hmut
      have hwritten := ih (hspelled.of_mem_args _ (by simp)) (hinner _ (by simp))
      have hslice : Written .strict params _ _ := .slice rfl hwritten
      rwa [List.append_nil] at hslice
  | array hfront hback _ ih =>
      obtain ⟨-, hinner⟩ := refersToMut_eq_false_iff.mp hmut
      have hwritten := ih (hspelled.of_mem_args _ (by simp)) (hinner _ (by simp))
      have hlength := hspelled.isNumeral_of_array
      have htrim := trim_numeral hfront hback hlength
      have harray : Written .strict params _ _ := .array (htrim.symm ▸ hlength) rfl hwritten
      rwa [List.append_nil, htrim] at harray
  | tuple hlist _ ih =>
      obtain ⟨-, hinner⟩ := refersToMut_eq_false_iff.mp hmut
      refine .tuple hlist fun item hitem => ?_
      have hmember := List.mem_map_of_mem (f := Prod.snd) hitem
      exact ih item hitem (hspelled.of_mem_args _ hmember) (hinner _ hmember)
  | bare =>
      obtain ⟨hname, heq, -⟩ := hspelled.path_eq_pathNode
      rw [heq]
      exact .bare hname
  | applied hblanks hlist hlifetime _ ih =>
      obtain ⟨hname, heq, hparam⟩ := hspelled.path_eq_pathNode
      obtain ⟨-, hinner⟩ := refersToMut_eq_false_iff.mp hmut
      rw [heq]
      refine .applied hname hblanks hlist hlifetime (by simpa using hparam) ?_
      intro item hitem a ha
      have harg := List.mem_filterMap.mpr ⟨item, hitem, ha⟩
      exact ih item hitem a ha (hspelled.of_mem_args a harg) (hinner a harg)

/-! ## The notation itself -/

/-- The blank behind a comma goes to the piece that follows. -/
theorem commaJoin_cons (first : List Char) (rest : List (List Char)) :
    commaJoin (first :: rest) = [','].intercalate (first :: rest.map (' ' :: ·)) := by
  induction rest generalizing first with
  | nil => simp [commaJoin]
  | cons second others ih =>
      have hblank : ∀ pieces : List (List Char),
          [','].intercalate ((' ' :: second) :: pieces) =
            ' ' :: [','].intercalate (second :: pieces) := by
        intro pieces
        cases pieces <;> simp [List.intercalate_cons_cons]
      rw [commaJoin, ih second, List.map_cons, List.intercalate_cons_cons, hblank,
        List.append_assoc]
      · rfl
      · simp

/-- The notations of some types, joined, are a list of ways to write them. -/
theorem exists_items_commaJoin {args : List Ty} (h : ∀ a ∈ args, Decorated a a.chars) :
    ∃ items : List (List Char × Ty), items.map Prod.snd = args ∧
      (∀ item ∈ items, Decorated item.2 item.1) ∧
      ListText ',' (items.map Prod.fst) (commaJoin (args.map chars)) := by
  cases args with
  | nil => exact ⟨[], rfl, by simp, .empty isBlankText_nil⟩
  | cons first rest =>
      obtain ⟨hfirst, hrest⟩ := List.forall_mem_cons.mp h
      refine ⟨(first.chars, first) :: rest.map fun a => (' ' :: a.chars, a), ?_, ?_, ?_⟩
      · simp [Function.comp_def]
      · refine List.forall_mem_cons.mpr ⟨hfirst, fun item hitem => ?_⟩
        obtain ⟨a, ha, rfl⟩ := List.mem_map.mp hitem
        have hspaced := (hrest a ha).spaced isBlankText_space isBlankText_nil
        rwa [List.append_nil] at hspaced
      · have hplain : ListText ',' (first.chars :: (rest.map chars).map (' ' :: ·))
            ([','].intercalate (first.chars :: (rest.map chars).map (' ' :: ·))) :=
          .plain (List.cons_ne_nil _ _)
        rw [List.map_cons (f := chars), commaJoin_cons]
        simpa [Function.comp_def] using hplain

/-- A path is written with its arguments alone: no lifetime stands among them. -/
theorem Decorated.of_args {name : String} {items : List (List Char × Ty)} {inside : List Char}
    (hlist : ListText ',' (items.map Prod.fst) inside)
    (h : ∀ item ∈ items, Decorated item.2 item.1) :
    Decorated (named name (items.map Prod.snd)) (name.toList ++ ('<' :: inside ++ ['>'])) := by
  let marked := items.map fun item => (item.1, some item.2)
  have hmarked : ∀ item ∈ marked, ∃ a, item.2 = some a ∧ Decorated a item.1 := by
    intro item hitem
    obtain ⟨⟨text, a⟩, hmem, rfl⟩ := List.mem_map.mp hitem
    exact ⟨a, rfl, h _ hmem⟩
  have hargs : marked.filterMap Prod.snd = items.map Prod.snd := by
    rw [List.filterMap_map, ← List.filterMap_eq_map]
    rfl
  have happlied : Decorated (node (.path name) false (marked.filterMap Prod.snd))
      (name.toList ++ ([] ++ ('<' :: inside ++ ['>']))) := by
    refine .applied isBlankText_nil (by simpa [marked, Function.comp_def] using hlist)
      (fun item hitem hnone => ?_) fun item hitem t ht => ?_
    · obtain ⟨a, ha, -⟩ := hmarked item hitem
      cases ha.symm.trans hnone
    · obtain ⟨a, ha, hdecorated⟩ := hmarked item hitem
      obtain rfl := Option.some.inj (ha.symm.trans ht)
      exact hdecorated
  rwa [hargs, List.nil_append] at happlied

/-- Nothing has to be added. -/
theorem Spelled.decorated_chars (h : Spelled params t) : Decorated t t.chars := by
  induction h with
  | param => exact .bare
  | ref _ ih => exact .ref .none ih
  | refMut _ ih => exact .refMut .none isBlankText_nil ih
  | slice _ ih => exact .slice ih
  | @array length element _ _ ih =>
      have harray : Decorated (node (.ofLength length) false [element]) _ :=
        .array isBlankText_space isBlankText_nil ih
      rw [chars_array]
      rwa [List.append_nil] at harray
  | @tuple members _ ih =>
      have hmany :
          Decorated (Ty.tuple members) ('(' :: commaJoin (members.map chars) ++ [')']) := by
        obtain ⟨items, hitems, hdecorated, hlist⟩ := exists_items_commaJoin ih
        rw [← hitems] at hlist ⊢
        exact .tuple hlist hdecorated
      rw [chars_tuple]
      match members, hmany with
      | [member], _ =>
          -- the comma of a single member is the one that may stand behind the last
          have hlist : ListText ',' ([(member.chars, member)].map Prod.fst)
              (member.chars ++ [',']) := by
            simpa using ListText.trailing (List.cons_ne_nil member.chars []) isBlankText_nil
          exact .tuple hlist (by simpa using ih)
      | [], hmany | _ :: _ :: _, hmany => exact hmany
  | @named name args _ _ _ ih =>
      by_cases hargs : args = []
      · rw [hargs]
        exact .bare
      · obtain ⟨items, rfl, hdecorated, hlist⟩ := exists_items_commaJoin ih
        rw [chars_named hargs]
        exact .of_args hlist hdecorated

/-! ## Reading -/

/-- A type that can be read is read from each way to write it, and its notation is one of them. -/
theorem parse_of_decorated (h : Spelled params t) (hmut : t.refersToMut = false) :
    Decorated t t.render.toList ∧
      ∀ text : String, Decorated t text.toList → parse params text = .ok t := by
  constructor
  · rw [render, String.toList_ofList]
    exact h.decorated_chars
  · intro text hdecorated
    exact parseChars_eq_ok_iff.mpr (hdecorated.written h hmut).lenient_of_strict

/-- Two lifetimes, a comma behind the last argument and many blanks say nothing. -/
theorem parse_of_decorated_mapReference :
    Spelled ["K", "V"] mapReference ∧ mapReference.refersToMut = false ∧
      Decorated mapReference "& 'a Map < 'b , K, [V ; 4 ],>".toList ∧
      parse ["K", "V"] "& 'a Map < 'b , K, [V ; 4 ],>" = .ok mapReference := by
  have hspelled : Spelled ["K", "V"] mapReference :=
    spelled_of_parse (by cbv : parse ["K", "V"] "&Map<K, [V; 4]>" = .ok mapReference)
  have hmut : mapReference.refersToMut = false := by decide +kernel
  have hlifetime : ∀ c, isIdentStart c = true → IsLifetimeName ['\'', c] :=
    fun c hc => ⟨[c], ⟨c, [], rfl, hc, by simp⟩, rfl⟩
  have hlead : IsAddedLead " 'a ".toList :=
    .lifetime isBlankText_space (hlifetime 'a' (by decide +kernel)) (by decide +kernel)
  have hkey : Decorated (param "K") " K".toList :=
    .spaced isBlankText_space isBlankText_nil .bare
  have hvalue : Decorated (node (.ofLength ['4']) false [param "V"]) " [V ; 4 ]".toList :=
    .spaced isBlankText_space isBlankText_nil
      (.array isBlankText_space isBlankText_space (.spaced isBlankText_nil isBlankText_space .bare))
  let items := [(" 'b ".toList, none), (" K".toList, some (param "K")),
    (" [V ; 4 ]".toList, some (node (.ofLength ['4']) false [param "V"]))]
  have hlist : ListText ',' (items.map Prod.fst) " 'b , K, [V ; 4 ],".toList :=
    .trailing (List.cons_ne_nil _ _) isBlankText_nil
  have hmap : Decorated (named "Map" (items.filterMap Prod.snd))
      ("Map".toList ++ (" ".toList ++ ('<' :: " 'b , K, [V ; 4 ],".toList ++ ['>']))) := by
    refine .applied isBlankText_space hlist ?_ ?_
    · suffices IsLifetimeName (trim " 'b ".toList) by simpa [items]
      exact hlifetime 'b' (by decide +kernel)
    · simpa [items] using And.intro hkey hvalue
  have hdecorated : Decorated mapReference "& 'a Map < 'b , K, [V ; 4 ],>".toList :=
    .ref hlead hmap
  exact ⟨hspelled, hmut, hdecorated, (parse_of_decorated hspelled hmut).2 _ hdecorated⟩

end Ty
end FuzzSynth
