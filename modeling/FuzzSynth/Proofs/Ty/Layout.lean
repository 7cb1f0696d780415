/-
The layouts of seeds.

A layout is of fixed width or of varying length, and takes at least one byte either way
(`hasRegularLayout`).  Only references and `Option` can bring in a varying length, and a tuple
holds neither, so the layouts of its members are of fixed width and add up
(`layoutAll?_eq_fixed`).  References and `Option` around a type change nothing, provided that a
seed fills the type itself: then it is neither a slice nor `str`, which a reference would look
through (`WrappedIn.seedLayout_eq`).

`isConsistent_seedLayout` puts this together for the concrete types that can be read.
-/
import FuzzSynth.Proofs.Ty.Shape

namespace FuzzSynth

/-! ## Layouts -/

namespace SeedLayout

/-- The parts of a layout agree: it takes a byte, it is of fixed width exactly if nothing in it
varies and exactly if all of it is fixed, and otherwise there is one part that varies and no
other. -/
structure IsConsistent (l : SeedLayout) : Prop where
  minLength : 1 ≤ l.minLength
  fixed_iff_dynamicParams : l.fixedLength = true ↔ l.dynamicParams = 0
  fixed_iff_fixedPart : l.fixedLength = true ↔ l.fixedPart = l.minLength
  varying (h : l.fixedLength = false) : l.dynamicParams = 1 ∧ l.fixedPart = 0

/-- A layout of fixed width or of varying length that takes at least one byte. -/
inductive IsRegular : SeedLayout → Prop
  | fixed {size : Nat} (h : 1 ≤ size) : IsRegular (.fixed size)
  | varying {least : Nat} (h : 1 ≤ least) : IsRegular (.varying least)

theorem IsRegular.isConsistent {l : SeedLayout} (h : l.IsRegular) : l.IsConsistent := by
  cases h with
  | fixed h =>
      exact ⟨h, by simp [SeedLayout.fixed], by simp [SeedLayout.fixed],
        by simp [SeedLayout.fixed]⟩
  | @varying least h =>
      refine ⟨h, by simp [SeedLayout.varying], ?_, fun _ => ⟨rfl, rfl⟩⟩
      -- no byte is fixed, and that is not all of them
      simp only [SeedLayout.varying, Bool.false_eq_true, false_iff]
      omega

theorem IsRegular.minLength_pos {l : SeedLayout} (h : l.IsRegular) : 1 ≤ l.minLength :=
  h.isConsistent.minLength

end SeedLayout

namespace Ty

variable {t u : Ty} {l : SeedLayout}

/-! ## Types and their layouts -/

theorem one_le_of_lookup_primitiveSizes {name : String} {size : Nat}
    (h : primitiveSizes.lookup name = some size) : 1 ≤ size := by
  have hall : ∀ entry ∈ primitiveSizes, 1 ≤ entry.2 := by decide
  obtain ⟨before, after, heq, -⟩ := List.lookup_eq_some_iff.mp h
  exact hall (name, size) (heq ▸ List.mem_append_right before List.mem_cons_self)

/-- A shared reference to anything but a slice and `str` is laid out like what it refers to. -/
theorem layout?_ref {p : Bool} {inner : Ty} {rest : List Ty}
    (hslice : ∀ q element others, inner = node .slice q (element :: others) → False) :
    (node .ref p (inner :: rest)).layout? =
      if inner == str then some (.varying 1) else inner.layout? := by
  rw [layout?]
  exact hslice

theorem layout?_refMut {p : Bool} {inner : Ty} {rest : List Ty}
    (hslice : ∀ q element others, inner = node .slice q (element :: others) → False) :
    (node .refMut p (inner :: rest)).layout? = inner.layout? := by
  rw [layout?]
  exact hslice

/-- Members that have layouts one after the other each have one and are held by value. -/
theorem layoutAll?_cons_eq_some {member : Ty} {members : List Ty}
    (h : layoutAll? (member :: members) = some l) :
    member.isByValue = true ∧ ∃ first rest, member.layout? = some first ∧
      layoutAll? members = some rest ∧ l = first.append rest := by
  rw [layoutAll?] at h
  split at h
  · next hvalue =>
      split at h
      · next first rest hfirst hrest =>
          exact ⟨hvalue, first, rest, hfirst, hrest, (Option.some.inj h).symm⟩
      · cases h
  · cases h

/-- A type with a layout takes at least one byte, and its layout is of fixed width if it is held by
value. -/
def HasRegularLayout (t : Ty) : Prop :=
  ∀ l, t.layout? = some l → l.IsRegular ∧ (t.isByValue = true → l = .fixed l.minLength)

/-- The layouts of members, which are held by value, are of fixed width and add up. -/
theorem layoutAll?_eq_fixed {members : List Ty} (hmembers : ∀ m ∈ members, m.HasRegularLayout)
    (h : layoutAll? members = some l) :
    ∃ layouts : List SeedLayout, members.map layout? = layouts.map some ∧
      (∀ part ∈ layouts, part = .fixed part.minLength ∧ 1 ≤ part.minLength) ∧
      l = .fixed (Sequence.total (layouts.map SeedLayout.minLength)) := by
  induction members generalizing l with
  | nil => exact ⟨[], rfl, by simp, (Option.some.inj h).symm⟩
  | cons member members ih =>
      obtain ⟨hvalue, first, rest, hfirst, hrest, rfl⟩ := layoutAll?_cons_eq_some h
      obtain ⟨hmember, hothers⟩ := List.forall_mem_cons.mp hmembers
      obtain ⟨hregular, hfixed⟩ := hmember first hfirst
      obtain ⟨layouts, hlayouts, hall, rfl⟩ := ih hothers hrest
      refine ⟨first :: layouts, by simp [hfirst, hlayouts],
        List.forall_mem_cons.mpr ⟨⟨hfixed hvalue, hregular.minLength_pos⟩, hall⟩, ?_⟩
      rw [hfixed hvalue]
      rfl

/-- The members of a tuple with a layout have layouts of fixed width, which add up to it. -/
theorem layout?_tuple_eq_fixed {p : Bool} {members : List Ty}
    (hmembers : ∀ m ∈ members, m.HasRegularLayout)
    (h : (node .tuple p members).layout? = some l) :
    1 ≤ l.minLength ∧ ∃ layouts : List SeedLayout, members.map layout? = layouts.map some ∧
      (∀ part ∈ layouts, part = .fixed part.minLength) ∧
      l = .fixed (Sequence.total (layouts.map SeedLayout.minLength)) := by
  cases members with
  | nil => cases h
  | cons member rest =>
      obtain ⟨layouts, hlayouts, hall, rfl⟩ := layoutAll?_eq_fixed hmembers h
      refine ⟨?_, layouts, hlayouts, fun part hpart => (hall part hpart).1, rfl⟩
      -- there is a first member, and it takes a byte
      cases layouts with
      | nil => cases hlayouts
      | cons first others =>
          have hfirst := (hall first List.mem_cons_self).2
          show 1 ≤ first.minLength + _
          omega

/-- The induction is on the questions that `decodes` asks, which are those of `layout?`. -/
theorem hasRegularLayout (t : Ty) : t.HasRegularLayout := by
  -- neither kind of reference is held by value
  have href : ∀ {p as}, (node .ref p as).isByValue = false := rfl
  have hrefMut : ∀ {p as}, (node .refMut p as).isByValue = false := rfl
  apply decodes.induct HasRegularLayout (fun members => ∀ m ∈ members, m.HasRegularLayout)
  case case1 =>
    intro name p l h
    obtain ⟨size, hsize, rfl⟩ := Option.map_eq_some_iff.mp h
    exact ⟨.fixed (one_le_of_lookup_primitiveSizes hsize), fun _ => rfl⟩
  case case2 =>
    intro name p inner ih l h
    rw [layout?] at h
    split at h
    · next hoption =>
        exact ⟨(ih l h).1, by simp [isByValue, isOption, List.contains_iff_mem.mp hoption]⟩
    · cases h
  -- references to slices, to `str` and to other types
  case case3 =>
    intro p q element _ _ ih l h
    obtain ⟨part, hpart, rfl⟩ := Option.map_eq_some_iff.mp h
    exact ⟨.varying (ih part hpart).1.minLength_pos, by simp [href]⟩
  case case4 =>
    intro p inner _ hslice ih l h
    rw [layout?_ref hslice] at h
    split at h
    · obtain rfl := Option.some.inj h
      exact ⟨.varying (Nat.le_refl 1), by simp [href]⟩
    · exact ⟨(ih l h).1, by simp [href]⟩
  case case5 =>
    intro p q element _ _ ih l h
    obtain ⟨part, hpart, rfl⟩ := Option.map_eq_some_iff.mp h
    exact ⟨.varying (ih part hpart).1.minLength_pos, by simp [hrefMut]⟩
  case case6 =>
    intro p inner _ hslice ih l h
    rw [layout?_refMut hslice] at h
    exact ⟨(ih l h).1, by simp [hrefMut]⟩
  case case7 =>
    intro p member members ih ihs l h
    obtain ⟨hpos, layouts, -, -, rfl⟩ :=
      layout?_tuple_eq_fixed (List.forall_mem_cons.mpr ⟨ih, ihs⟩) h
    exact ⟨.fixed hpos, fun _ => rfl⟩
  -- nothing else has a layout
  case case8 =>
    intro t _ _ _ _ _ _ _ l h
    simp_all [layout?]
  case case9 => simp
  case case10 => exact fun member members ih ihs => List.forall_mem_cons.mpr ⟨ih, ihs⟩

/-! ## References and `Option` around a type -/

/-- References and `Option` around a type, nested in any way. -/
inductive WrappedIn (t : Ty) : Ty → Prop
  | bare : WrappedIn t t
  | ref {u : Ty} (h : WrappedIn t u) : WrappedIn t (ref u)
  | refMut {u : Ty} (h : WrappedIn t u) : WrappedIn t (refMut u)
  | option {path : String} {u : Ty} (hpath : path ∈ optionPaths) (h : WrappedIn t u) :
      WrappedIn t (named path [u])

theorem WrappedIn.isConcrete (h : t.WrappedIn u) (ht : t.IsConcrete) : u.IsConcrete := by
  induction h with
  | bare => exact ht
  | ref _ ih => exact .ref ih
  | refMut _ ih => exact .refMut ih
  | option _ _ ih => exact .named fun a ha => List.mem_singleton.mp ha ▸ ih

theorem not_slice_of_decodes (h : t.decodes = true) :
    ∀ q element others, t = node .slice q (element :: others) → False := by
  rintro q element others rfl
  cases h

theorem ne_str_of_decodes (h : t.decodes = true) : t ≠ str := by
  rintro rfl
  revert h
  decide

/-- A reference to a type that a seed fills, or an `Option` of it, is laid out like the type. -/
theorem layout?_wrapped (h : t.decodes = true) :
    (ref t).layout? = t.layout? ∧ (refMut t).layout? = t.layout? ∧
      ∀ path ∈ optionPaths, (named path [t]).layout? = t.layout? := by
  have hslice := not_slice_of_decodes h
  have hstr : ¬ (t == str) = true := by simpa using ne_str_of_decodes h
  refine ⟨?_, layout?_refMut hslice, fun path hpath => ?_⟩
  · rw [layout?_ref hslice, if_neg hstr]
  · rw [layout?, if_pos (List.contains_iff_mem.mpr hpath)]

/-- Whatever is around it, a type that a seed fills is filled by a seed of the same layout. -/
theorem WrappedIn.seedLayout_eq (h : t.WrappedIn u) (ht : t.isFuzzable = true) :
    u.isFuzzable = true ∧ u.seedLayout = t.seedLayout := by
  -- one more wrapper keeps whether a type has parameters, and its layout
  have hwrap : ∀ {u v : Ty}, v.isGeneric = u.isGeneric → v.layout? = u.layout? →
      u.isFuzzable = true ∧ u.seedLayout = t.seedLayout →
        v.isFuzzable = true ∧ v.seedLayout = t.seedLayout := by
    intro u v hgeneric hlayout hu
    rw [← isSome_seedLayout, seedLayout, hgeneric, hlayout]
    rwa [← isSome_seedLayout, seedLayout] at hu
  have hdecodes : ∀ {u : Ty}, u.isFuzzable = true → u.decodes = true := fun hu =>
    (Bool.and_eq_true_iff.mp hu).2
  induction h with
  | bare => exact ⟨ht, rfl⟩
  | ref _ ih =>
      exact hwrap (by simp [isGeneric, anyGeneric]) (layout?_wrapped (hdecodes ih.1)).1 ih
  | refMut _ ih =>
      exact hwrap (by simp [isGeneric, anyGeneric]) (layout?_wrapped (hdecodes ih.1)).2.1 ih
  | option hpath _ ih =>
      exact hwrap (by simp [isGeneric, anyGeneric])
        ((layout?_wrapped (hdecodes ih.1)).2.2 _ hpath) ih

/-! ## Types that were read -/

theorem layout?_eq_of_seedLayout (h : t.seedLayout = some l) :
    t.isGeneric = false ∧ t.layout? = some l := by
  unfold seedLayout at h
  split at h
  · cases h
  · next hplain => exact ⟨by simpa using hplain, h⟩

theorem isConsistent_of_seedLayout (h : t.seedLayout = some l) : l.IsConsistent :=
  (hasRegularLayout t l (layout?_eq_of_seedLayout h).2).1.isConsistent

/-- The layout of a tuple is of fixed width, and its members add up to it. -/
theorem exists_layouts_of_tuple {members : List Ty} (h : (tuple members).seedLayout = some l) :
    l.fixedLength = true ∧ ∃ layouts : List SeedLayout, members.map seedLayout = layouts.map some ∧
      l.minLength = Sequence.total (layouts.map SeedLayout.minLength) ∧
      l.fixedPart = Sequence.total (layouts.map SeedLayout.fixedPart) := by
  obtain ⟨hplain, hlayout⟩ := layout?_eq_of_seedLayout h
  obtain ⟨-, layouts, hlayouts, hfixed, rfl⟩ :=
    layout?_tuple_eq_fixed (fun m _ => hasRegularLayout m) hlayout
  simp only [isGeneric, anyGeneric_eq, Bool.false_or, List.any_eq_false] at hplain
  have hmembers : members.map seedLayout = members.map layout? :=
    List.map_congr_left fun m hm => if_neg (hplain m hm)
  have hparts : layouts.map SeedLayout.fixedPart = layouts.map SeedLayout.minLength :=
    List.map_congr_left fun part hpart => by rw [hfixed part hpart]; rfl
  exact ⟨rfl, layouts, hmembers.trans hlayouts, rfl, by rw [hparts]; rfl⟩

/-- A concrete type that was read has a layout exactly if a seed can fill it, and asking for it
meets no gap.  The layout is consistent, references and `Option` around the type do not change it,
and that of a tuple is of fixed width and the sum of those of its members. -/
theorem isConsistent_seedLayout {params : List String} {text : String}
    (h : parse params text = .ok t) (hplain : t.isGeneric = false) :
    t.seedLayout? = .ok t.seedLayout ∧ (t.seedLayout.isSome = true ↔ t.isFuzzable = true) ∧
      (∀ l, t.seedLayout = some l → l.IsConsistent) ∧
      (t.isFuzzable = true → ∀ u, t.WrappedIn u →
        u.isFuzzable = true ∧ u.seedLayout? = .ok t.seedLayout) ∧
      ∀ members, t = tuple members → ∀ l, t.seedLayout = some l →
        l.fixedLength = true ∧
          ∃ layouts : List SeedLayout, members.map seedLayout = layouts.map some ∧
            l.minLength = Sequence.total (layouts.map SeedLayout.minLength) ∧
            l.fixedPart = Sequence.total (layouts.map SeedLayout.fixedPart) := by
  have hconcrete : t.IsConcrete := (over_of_parse h).isConcrete hplain
  refine ⟨hconcrete.seedLayout?_eq, by rw [isSome_seedLayout],
    fun l hl => isConsistent_of_seedLayout hl, fun hfuzz u hu => ?_, ?_⟩
  · obtain ⟨hfilled, hlayout⟩ := hu.seedLayout_eq hfuzz
    exact ⟨hfilled, hlayout ▸ (hu.isConcrete hconcrete).seedLayout?_eq⟩
  · rintro members rfl l hl
    exact exists_layouts_of_tuple hl

/-- A tuple in a tuple. -/
def nestedTuple : Ty :=
  tuple [named "u8" [], tuple [named "bool" [], named "char" []]]

/-- One byte, and one and four; `&mut Option<&(u8, (bool, char))>` takes as many. -/
theorem isConsistent_seedLayout_nestedTuple :
    parse ["T"] "(u8, (bool, char))" = .ok nestedTuple ∧ nestedTuple.isGeneric = false ∧
      nestedTuple.seedLayout = some (.fixed 6) ∧ (SeedLayout.fixed 6).IsConsistent ∧
      (refMut (named "Option" [ref nestedTuple])).seedLayout? = .ok (some (.fixed 6)) ∧
      ∃ layouts : List SeedLayout,
        [named "u8" [], tuple [named "bool" [], named "char" []]].map seedLayout =
            layouts.map some ∧
          6 = Sequence.total (layouts.map SeedLayout.minLength) ∧
          6 = Sequence.total (layouts.map SeedLayout.fixedPart) := by
  have hread : parse ["T"] "(u8, (bool, char))" = .ok nestedTuple := by decide +kernel
  have hplain : nestedTuple.isGeneric = false := by decide
  have hlayout : nestedTuple.seedLayout = some (.fixed 6) := by decide +kernel
  have hwrapped : nestedTuple.WrappedIn (refMut (named "Option" [ref nestedTuple])) :=
    .refMut (.option (by decide) (.ref .bare))
  obtain ⟨-, hfilled, hconsistent, hwrap, htuple⟩ := isConsistent_seedLayout hread hplain
  have hfuzz : nestedTuple.isFuzzable = true := hfilled.mp (by rw [hlayout]; rfl)
  exact ⟨hread, hplain, hlayout, hconsistent _ hlayout, hlayout ▸ (hwrap hfuzz _ hwrapped).2,
    (htuple _ rfl _ hlayout).2⟩

end Ty
end FuzzSynth
