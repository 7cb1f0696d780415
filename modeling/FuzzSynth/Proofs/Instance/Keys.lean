/-
Keys tell instances apart.

A key is the path of the function with the types put in, `demo::pair<T=(u8, i32), U=bool>`, so
commas and blanks stand between the parameters as well as inside the types.  The key can still be
read back: no equals sign stands in the notation of a type that was read
(`Ty.equals_not_mem_chars`), so the first one behind a type is that of the next parameter
(`Substitution.types_eq_of_render_eq`).  The substitutions in a window all differ in the types that
they put in (`Pool.nodup_types_window`), and so no two instances of a function have the same key
(`Pool.nodup_keys_of_instantiate`).

A path without an opening bracket ends where the key has its first one (`Instance.takeWhile_key`).
-/
import FuzzSynth.Proofs.Instance.Outcome
import FuzzSynth.Proofs.Ty.RoundTrip

namespace FuzzSynth

open FuzzSynth.Text

/-! ## Reading up to a mark -/

namespace Text

variable {mark : Char} {front s t x y : List Char}

theorem takeWhile_append_of_mem (h : mark ∈ front) (x : List Char) :
    (front ++ x).takeWhile (· != mark) = front.takeWhile (· != mark) := by
  have hshort : ¬ (front.takeWhile (· != mark)).length = front.length := by
    intro hlength
    have hall := List.takeWhile_eq_self_iff.mp
      ((List.takeWhile_prefix (· != mark)).eq_of_length hlength)
    simpa using hall mark h
  rw [List.takeWhile_append, if_neg hshort]

theorem takeWhile_append_of_not_mem (h : mark ∉ s) (x : List Char) :
    (s ++ x).takeWhile (· != mark) = s ++ x.takeWhile (· != mark) := by
  refine List.takeWhile_append_of_pos fun c hc => ?_
  rw [bne_iff_ne]
  rintro rfl
  exact h hc

/-- Texts without the mark can be told from what stands behind them, if that has the mark. -/
theorem eq_of_append_front (hs : mark ∉ s) (ht : mark ∉ t) (hfront : mark ∈ front)
    (h : s ++ (front ++ x) = t ++ (front ++ y)) : s = t ∧ x = y := by
  have hread := congrArg (List.takeWhile (· != mark)) h
  rw [takeWhile_append_of_not_mem hs, takeWhile_append_of_not_mem ht,
    takeWhile_append_of_mem hfront, takeWhile_append_of_mem hfront] at hread
  obtain rfl := List.append_cancel_right hread
  exact ⟨rfl, List.append_cancel_left (List.append_cancel_left h)⟩

end Text

/-! ## Notations -/

namespace Ty

variable {params : List String} {t u : Ty}

/-- The characters of a notation that belong to no name and to no numeral. -/
def notationMarks : List Char :=
  ['&', ' ', '[', ']', ';', '(', ')', ',', '<', '>', ':']

/-- The characters of notations. -/
def IsNotationChar (c : Char) : Prop :=
  isIdentChar c = true ∨ isDigit c = true ∨ c ∈ notationMarks

theorem isNotationChar_of_mark {c : Char} (h : c ∈ notationMarks) : IsNotationChar c :=
  .inr (.inr h)

theorem isNotationChar_of_mem_pathName {name : List Char} (h : IsPathName name) :
    ∀ c ∈ name, IsNotationChar c := by
  intro c hc
  rcases h.isIdentChar_or_colon c hc with hident | rfl
  · exact .inl hident
  · exact isNotationChar_of_mark (by decide)

theorem isNotationChar_of_mem_commaJoin {parts : List (List Char)}
    (h : ∀ part ∈ parts, ∀ c ∈ part, IsNotationChar c) :
    ∀ c ∈ commaJoin parts, IsNotationChar c := by
  fun_induction commaJoin parts with
  | case1 => simp
  | case2 only => exact h only List.mem_cons_self
  | case3 first rest _ ih =>
      obtain ⟨hfirst, hrest⟩ := List.forall_mem_cons.mp h
      refine List.forall_mem_append.mpr ⟨hfirst, List.forall_mem_cons.mpr ⟨?_, ?_⟩⟩
      · exact isNotationChar_of_mark (by decide)
      · exact List.forall_mem_cons.mpr ⟨isNotationChar_of_mark (by decide), ih hrest⟩

theorem isNotationChar_of_bracketed {opener closer : Char} (hopener : opener ∈ notationMarks)
    (hcloser : closer ∈ notationMarks) {text : List Char} (h : ∀ c ∈ text, IsNotationChar c) :
    ∀ c ∈ opener :: text ++ [closer], IsNotationChar c := by
  refine List.forall_mem_append.mpr ⟨List.forall_mem_cons.mpr ⟨?_, h⟩, ?_⟩
  · exact isNotationChar_of_mark hopener
  · exact List.forall_mem_singleton.mpr (isNotationChar_of_mark hcloser)

/-- The types of a list joined by commas, with one behind a single type if it is a tuple. -/
theorem isNotationChar_of_mem_members {members : List Ty}
    (h : ∀ a ∈ members, ∀ c ∈ a.chars, IsNotationChar c) :
    (∀ c ∈ commaJoin (members.map chars), IsNotationChar c) ∧
      ∀ c ∈ membersText members, IsNotationChar c := by
  have hjoin : ∀ c ∈ commaJoin (members.map chars), IsNotationChar c := by
    refine isNotationChar_of_mem_commaJoin fun part hpart => ?_
    obtain ⟨a, ha, rfl⟩ := List.mem_map.mp hpart
    exact h a ha
  refine ⟨hjoin, ?_⟩
  unfold membersText
  split
  · next member =>
      refine List.forall_mem_append.mpr ⟨h member List.mem_cons_self, ?_⟩
      exact List.forall_mem_singleton.mpr (isNotationChar_of_mark (by decide))
  · exact hjoin

theorem Spelled.isNotationChar_of_mem_chars (h : Spelled params t) :
    ∀ c ∈ t.chars, IsNotationChar c := by
  have hand : IsNotationChar '&' := isNotationChar_of_mark (by decide)
  induction h with
  | param hname => exact isNotationChar_of_mem_pathName hname
  | ref _ ih => exact List.forall_mem_cons.mpr ⟨hand, ih⟩
  | @refMut inner _ ih =>
      have hletters : ∀ c ∈ ['m', 'u', 't'], isIdentChar c = true :=
        List.all_eq_true.mp (by decide)
      show ∀ c ∈ '&' :: (['m', 'u', 't'] ++ ' ' :: inner.chars), IsNotationChar c
      refine List.forall_mem_cons.mpr ⟨hand, List.forall_mem_append.mpr ⟨fun c hc => ?_, ?_⟩⟩
      · exact .inl (hletters c hc)
      · exact List.forall_mem_cons.mpr ⟨isNotationChar_of_mark (by decide), ih⟩
  | slice _ ih => exact isNotationChar_of_bracketed (by decide) (by decide) ih
  | @array length _ hlength _ ih =>
      rw [chars_array]
      refine isNotationChar_of_bracketed (by decide) (by decide)
        (List.forall_mem_append.mpr ⟨ih, List.forall_mem_cons.mpr ⟨?_, List.forall_mem_cons.mpr
          ⟨?_, fun c hc => ?_⟩⟩⟩)
      · exact isNotationChar_of_mark (by decide)
      · exact isNotationChar_of_mark (by decide)
      · simp only [isNumeral, Bool.and_eq_true, List.all_eq_true] at hlength
        exact .inr (.inl (hlength.2 c hc))
  | tuple _ ih =>
      rw [chars_tuple]
      exact isNotationChar_of_bracketed (by decide) (by decide) (isNotationChar_of_mem_members ih).2
  | @named name args hname _ _ ih =>
      have hpath := isNotationChar_of_mem_pathName hname
      by_cases hargs : args = []
      · subst hargs
        exact hpath
      · rw [chars_named hargs]
        refine List.forall_mem_append.mpr ⟨hpath, ?_⟩
        exact isNotationChar_of_bracketed (by decide) (by decide) (isNotationChar_of_mem_members ih).1

/-- A type that was read without parameters in scope. -/
def IsRead (t : Ty) : Prop :=
  ∃ text, parse [] text = .ok t

theorem IsRead.equals_not_mem_chars (h : t.IsRead) : '=' ∉ t.chars := by
  obtain ⟨text, hparse⟩ := h
  intro hmem
  rcases (spelled_of_parse hparse).isNotationChar_of_mem_chars _ hmem with h | h | h
  · exact absurd h (by decide +kernel)
  · exact absurd h (by decide +kernel)
  · exact absurd h (by decide)

/-- Types that were read are written differently, since their notation gives them back. -/
theorem IsRead.eq_of_chars_eq (ht : t.IsRead) (hu : u.IsRead) (h : t.chars = u.chars) : t = u := by
  obtain ⟨text, htext⟩ := ht
  obtain ⟨other, hother⟩ := hu
  have hparse := (spelled_of_parse htext).parse_render (refersToMut_of_parseChars htext)
  have hparse' := (spelled_of_parse hother).parse_render (refersToMut_of_parseChars hother)
  rw [render, h] at hparse
  exact Except.ok.inj (hparse.symm.trans hparse')

end Ty

/-! ## Substitutions -/

namespace Substitution

variable {pairs others : List (GenericParam × Candidate)} {σ τ : Substitution}

/-- A parameter with its type, as it stands in a key. -/
def pairText (pair : GenericParam × Candidate) : List Char :=
  pair.1.name.toList ++ '=' :: pair.2.type.chars

theorem toList_render (σ : Substitution) :
    σ.render.toList = [',', ' '].intercalate (σ.pairs.map pairText) := by
  have htext : ∀ pair : GenericParam × Candidate,
      (pair.1.name ++ "=" ++ pair.2.key).toList = pairText pair := by
    simp [pairText, Candidate.key, Ty.render]
  rw [render, String.toList_intercalate, List.map_map]
  exact congrArg _ (List.map_congr_left fun pair _ => htext pair)

/-- Behind the first equals sign of joined pairs stands the first type. -/
theorem exists_intercalate_cons (pair : GenericParam × Candidate)
    (pairs : List (GenericParam × Candidate)) :
    ∃ rest, [',', ' '].intercalate ((pair :: pairs).map pairText) =
      pair.1.name.toList ++ ['='] ++ rest := by
  cases pairs with
  | nil => exact ⟨pair.2.type.chars, by simp [pairText]⟩
  | cons next pairs =>
      refine ⟨pair.2.type.chars ++ [',', ' '] ++ [',', ' '].intercalate ((next :: pairs).map pairText), ?_⟩
      rw [List.map_cons, List.map_cons, List.intercalate_cons_cons, ← List.map_cons]
      simp [pairText]

/-- Joined pairs of the same parameters give the types back. -/
theorem types_eq_of_intercalate_eq (hparams : pairs.map Prod.fst = others.map Prod.fst)
    (hpairs : ∀ pair ∈ pairs, pair.2.type.IsRead) (hothers : ∀ pair ∈ others, pair.2.type.IsRead)
    (h : [',', ' '].intercalate (pairs.map pairText) = [',', ' '].intercalate (others.map pairText)) :
    pairs.map (fun pair => pair.2.type) = others.map fun pair => pair.2.type := by
  induction pairs generalizing others with
  | nil =>
      obtain rfl : others = [] := by simpa using hparams.symm
      rfl
  | cons pair pairs ih =>
      obtain ⟨other, others, rfl⟩ : ∃ other rest, others = other :: rest :=
        List.exists_cons_of_ne_nil (by rintro rfl; simp at hparams)
      obtain ⟨hparam, hparams⟩ := List.cons.inj hparams
      obtain ⟨hpair, hpairs⟩ := List.forall_mem_cons.mp hpairs
      obtain ⟨hother, hothers⟩ := List.forall_mem_cons.mp hothers
      cases pairs with
      | nil =>
          obtain rfl : others = [] := by simpa using hparams.symm
          have hchars : pair.2.type.chars = other.2.type.chars := by
            simpa [pairText, hparam] using h
          rw [List.map_singleton, List.map_singleton, hpair.eq_of_chars_eq hother hchars]
      | cons next pairs =>
          obtain ⟨next', others, rfl⟩ : ∃ next' rest, others = next' :: rest :=
            List.exists_cons_of_ne_nil (by rintro rfl; simp at hparams)
          have hname : next.1 = next'.1 := (List.cons.inj hparams).1
          obtain ⟨rest, hrest⟩ := exists_intercalate_cons next pairs
          obtain ⟨rest', hrest'⟩ := exists_intercalate_cons next' others
          -- what stands behind the first type begins with the name of the next parameter
          have hsplit : pair.2.type.chars ++ (([',', ' '] ++ next.1.name.toList ++ ['=']) ++ rest) =
              other.2.type.chars ++ (([',', ' '] ++ next.1.name.toList ++ ['=']) ++ rest') := by
            rw [List.map_cons, List.map_cons, List.intercalate_cons_cons, ← List.map_cons, hrest,
              List.map_cons, List.map_cons, List.intercalate_cons_cons, ← List.map_cons, hrest',
              pairText, pairText, hparam, hname] at h
            simpa [hname] using h
          obtain ⟨hchars, htail⟩ := Text.eq_of_append_front hpair.equals_not_mem_chars
            hother.equals_not_mem_chars (by simp) hsplit
          have hjoined : [',', ' '].intercalate ((next :: pairs).map pairText) =
              [',', ' '].intercalate ((next' :: others).map pairText) := by
            rw [hrest, hrest', htail, hname]
          have hrestTypes := ih hparams hpairs hothers hjoined
          rw [List.map_cons, hpair.eq_of_chars_eq hother hchars, hrestTypes]
          rfl

theorem Resolves.isRead {pool : Pool} {params : List GenericParam} (hpool : pool.IsRead)
    (h : σ.Resolves pool params) : ∀ pair ∈ σ.pairs, pair.2.type.IsRead :=
  fun pair hpair => hpool pair.2 (h.registered pair hpair)

theorem types_eq_of_render_eq {pool : Pool} {params : List GenericParam} (hpool : pool.IsRead)
    (hσ : σ.Resolves pool params) (hτ : τ.Resolves pool params) (h : σ.render = τ.render) :
    σ.types = τ.types := by
  have hparams := hσ.params_eq.trans hτ.params_eq.symm
  have hjoined := congrArg String.toList h
  rw [toList_render, toList_render] at hjoined
  exact types_eq_of_intercalate_eq hparams (hσ.isRead hpool) (hτ.isRead hpool) hjoined

end Substitution

/-! ## Keys -/

namespace Instance

variable {m other : Instance}

theorem toList_key (m : Instance) :
    m.key.toList = if m.substitution.pairs.isEmpty then m.path.toList
      else m.path.toList ++ ('<' :: (m.substitution.render.toList ++ ['>'])) := by
  unfold key
  split <;> simp

/-- The path is what stands in front of the first opening bracket. -/
theorem takeWhile_key (h : '<' ∉ m.path.toList) :
    m.key.toList.takeWhile (· != '<') = m.path.toList := by
  have hpath := takeWhile_append_of_not_mem h []
  rw [List.takeWhile_nil, List.append_nil] at hpath
  rw [toList_key]
  split
  · exact hpath
  · rw [takeWhile_append_of_not_mem h, List.takeWhile_cons_of_neg (by simp), List.append_nil]

theorem path_eq_of_key_eq (hm : '<' ∉ m.path.toList) (hother : '<' ∉ other.path.toList)
    (h : m.key = other.key) : m.path = other.path := by
  have hread := congrArg (fun key : String => key.toList.takeWhile (· != '<')) h
  rw [takeWhile_key hm, takeWhile_key hother] at hread
  exact String.toList_injective hread

end Instance

/-- Instances of one function with the same key have the same types put in. -/
theorem Substitution.types_eq_of_key_eq {pool : Pool} (hpool : pool.IsRead) {api : Signature}
    {σ τ : Substitution} (hσ : σ.Resolves pool api.generics) (hτ : τ.Resolves pool api.generics)
    (h : (api.instanceOf σ).key = (api.instanceOf τ).key) : σ.types = τ.types := by
  have hlength : σ.pairs.length = τ.pairs.length := by
    have hparams := congrArg List.length (hσ.params_eq.trans hτ.params_eq.symm)
    rwa [List.length_map, List.length_map] at hparams
  have hkey := congrArg String.toList h
  rw [Instance.toList_key, Instance.toList_key] at hkey
  by_cases hnone : σ.pairs = []
  · have hnone' : τ.pairs = [] := List.length_eq_zero_iff.mp (by rw [← hlength, hnone]; rfl)
    rw [types, types, hnone, hnone']
  · have hsome : τ.pairs ≠ [] := by
      rintro hnone'
      exact hnone (List.length_eq_zero_iff.mp (by rw [hlength, hnone']; rfl))
    rw [if_neg (by simpa [Signature.instanceOf] using hnone),
      if_neg (by simpa [Signature.instanceOf] using hsome)] at hkey
    -- both begin with the path and the bracket, and end with the other bracket
    have hjoined := List.append_cancel_right (List.cons.inj (List.append_cancel_left hkey)).2
    exact types_eq_of_render_eq hpool hσ hτ (String.toList_injective hjoined)

/-! ## Instances -/

namespace Pool

variable {pool : Pool} {api : Signature} {limits : InstanceLimits} {part : Instantiation}

/-- The instances of a function have different keys. -/
theorem nodup_keys_of_instantiate (hpool : pool.IsRead)
    (h : pool.instantiate limits api = .ok part) : (part.instances.map Instance.key).Nodup :=
  nodup_map_of_instantiate h fun hσ hτ hkey => Substitution.types_eq_of_key_eq hpool hσ hτ hkey

end Pool
end FuzzSynth
