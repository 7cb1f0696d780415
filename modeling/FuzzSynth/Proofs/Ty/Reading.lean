/-
The calls of the reader.

`Reads params text t` says how a text comes to be read as a type: which form the reader finds, and
what it reads in the parts of that form.  Whatever the reader accepts comes about like that
(`reads_of_parseChars`).  So what holds of all types that are read is proved by induction on
`Reads`, with one case for each form, and only `reads_of_parseChars` goes through the reader itself.
-/
import Mathlib.Data.List.Forall2
import FuzzSynth.Ty.Parser

namespace FuzzSynth
namespace Ty

open FuzzSynth.Text

/-! ## Results of calls -/

theorem mapM_eq_ok_iff {ε α β : Type} {f : α → Except ε β} {xs : List α} {ys : List β} :
    xs.mapM f = .ok ys ↔ xs.map f = ys.map .ok := by
  induction xs generalizing ys with
  | nil => cases ys <;> simp [pure, Except.pure]
  | cons x xs ih =>
      rw [List.mapM_cons]
      cases ys with
      | nil => cases f x <;> cases xs.mapM f <;> simp [bind, Except.bind, pure, Except.pure]
      | cons y ys =>
          rw [List.map_cons, List.map_cons, List.cons.injEq, ← ih]
          cases f x <;> cases xs.mapM f <;> simp [bind, Except.bind, pure, Except.pure]

/-- A `mapM` that succeeds gives the result of each element, in order. -/
theorem mapM_eq_ok_iff_forall₂ {ε α β : Type} {f : α → Except ε β} {xs : List α} {ys : List β} :
    xs.mapM f = .ok ys ↔ List.Forall₂ (fun x y => f x = .ok y) xs ys := by
  rw [mapM_eq_ok_iff, ← congrFun₂ List.forall₂_eq_eq_eq (xs.map f) (ys.map .ok),
    List.forall₂_map_left_iff, List.forall₂_map_right_iff]

/-- Each result of a `mapM` that succeeds is the result of some element. -/
theorem exists_of_mem_mapM_ok {ε α β : Type} {f : α → Except ε β} {xs : List α} {ys : List β}
    (h : xs.mapM f = .ok ys) : ∀ y ∈ ys, ∃ x ∈ xs, f x = .ok y := by
  intro y hy
  have hmem : Except.ok y ∈ xs.map f := by
    rw [mapM_eq_ok_iff.mp h]
    exact List.mem_map_of_mem hy
  exact List.mem_map.mp hmem

/-- A `mapM` over other elements that has another result for each gives these results. -/
theorem mapM_map_of_mapM_ok {ε α β γ δ : Type} {f : α → Except ε β} {g : γ → Except ε δ}
    {before : α → γ} {after : β → δ} {xs : List α} {ys : List β} (h : xs.mapM f = .ok ys)
    (hresult : ∀ x, ∀ y ∈ ys, f x = .ok y → g (before x) = .ok (after y)) :
    (xs.map before).mapM g = .ok (ys.map after) := by
  have hall := mapM_eq_ok_iff.mp h
  have hsame : ∀ x ∈ xs, g (before x) = (f x).map after := by
    intro x hx
    have hmem : f x ∈ ys.map .ok := hall ▸ List.mem_map_of_mem hx
    obtain ⟨y, hy, hok⟩ := List.mem_map.mp hmem
    rw [hresult x y hy hok.symm, ← hok]
    rfl
  rw [mapM_eq_ok_iff, List.map_map]
  calc xs.map (g ∘ before) = (xs.map f).map (Except.map after) := by
        rw [List.map_map]
        exact List.map_congr_left hsame
    _ = (ys.map after).map .ok := by
        rw [hall, List.map_map, List.map_map]
        rfl

/-- A `mapM` that fails does so at the first element that fails. -/
theorem exists_split_of_mapM_error {ε α β : Type} {f : α → Except ε β} {xs : List α} {e : ε}
    (h : xs.mapM f = .error e) :
    ∃ before x after, xs = before ++ x :: after ∧ f x = .error e ∧
      ∀ y ∈ before, ∃ b, f y = .ok b := by
  induction xs with
  | nil => cases h
  | cons x xs ih =>
      rw [List.mapM_cons] at h
      cases hx : f x with
      | error e' =>
          rw [hx] at h
          obtain rfl : e' = e := Except.error.inj h
          exact ⟨[], x, xs, rfl, hx, by simp⟩
      | ok y =>
          cases hxs : xs.mapM f with
          | error e' =>
              rw [hx, hxs] at h
              obtain rfl : e' = e := Except.error.inj h
              obtain ⟨before, z, after, rfl, hz, hbefore⟩ := ih hxs
              exact ⟨x :: before, z, after, rfl, hz, List.forall_mem_cons.mpr ⟨⟨y, hx⟩, hbefore⟩⟩
          | ok ys =>
              rw [hx, hxs] at h
              cases h

theorem exists_of_mapM_error {ε α β : Type} {f : α → Except ε β} {xs : List α} {e : ε}
    (h : xs.mapM f = .error e) : ∃ x ∈ xs, f x = .error e := by
  obtain ⟨before, x, after, rfl, hx, -⟩ := exists_split_of_mapM_error h
  exact ⟨x, List.mem_append_right before List.mem_cons_self, hx⟩

theorem mapError_mapM {ε δ α β : Type} (f : α → Except ε β) (e : ε → δ) (xs : List α) :
    (xs.mapM f).mapError e = (xs.map fun x => (f x).mapError e).mapM id := by
  induction xs with
  | nil => rfl
  | cons x rest ih =>
      rw [List.mapM_cons, List.map_cons, List.mapM_cons, ← ih]
      cases f x with
      | error err => rfl
      | ok y => cases rest.mapM f <;> rfl

theorem map_eq_ok_iff {ε α β : Type} {f : α → β} {x : Except ε α} {b : β} :
    x.map f = .ok b ↔ ∃ a, x = .ok a ∧ f a = b := by
  cases x <;> simp [Except.map]

theorem map_eq_error_iff {ε α β : Type} {f : α → β} {x : Except ε α} {e : ε} :
    x.map f = .error e ↔ x = .error e := by
  cases x <;> simp [Except.map]

/-! ## The forms -/

/-- A path as a type; the name of a parameter stands for the parameter. -/
def pathNode (params : List String) (name : List Char) (args : List Ty) : Ty :=
  node (.path (String.ofList name)) (params.contains (String.ofList name)) args

/-- It is a parameter, which has no arguments, or a type of that name. -/
theorem pathNode_eq {params : List String} {name : List Char} {args : List Ty}
    (hparam : String.ofList name ∈ params → args = []) :
    (String.ofList name ∈ params ∧ pathNode params name args = param (String.ofList name)) ∨
      (String.ofList name ∉ params ∧
        pathNode params name args = named (String.ofList name) args) := by
  rw [pathNode, ← List.contains_iff_mem]
  cases hname : params.contains (String.ofList name) with
  | true =>
      obtain rfl := hparam (List.contains_iff_mem.mp hname)
      exact .inl ⟨rfl, rfl⟩
  | false => exact .inr ⟨Bool.false_ne_true, rfl⟩

/-- A text is read as a type, by one of the forms and by what is read in its parts. -/
inductive Reads (params : List String) : List Char → Ty → Prop
  | ref {text rest : List Char} {t : Ty} (htrim : trim text = '&' :: rest)
      (hmut : afterMut? (dropLifetime (trimLeft rest)) = none)
      (h : Reads params (dropLifetime (trimLeft rest)) t) : Reads params text (ref t)
  | refMut {text rest inside : List Char} {t : Ty} (htrim : trim text = '&' :: rest)
      (hmut : afterMut? (dropLifetime (trimLeft rest)) = some inside)
      (h : Reads params inside t) : Reads params text (refMut t)
  | slice {text inside element : List Char} {t : Ty} (htrim : trim text = '[' :: inside ++ [']'])
      (hcut : semicolonParts inside = .ok [element]) (h : Reads params element t) :
      Reads params text (slice t)
  | array {text inside element length : List Char} {t : Ty}
      (htrim : trim text = '[' :: inside ++ [']'])
      (hcut : semicolonParts inside = .ok [element, length]) (hlength : isNumeral length = true)
      (h : Reads params element t) : Reads params text (node (.ofLength length) false [t])
  /-- The members with what is read of each. -/
  | tuple {text inside : List Char} {items : List (List Char × Ty)}
      (htrim : trim text = '(' :: inside ++ [')'])
      (hcut : commaParts inside = .ok (items.map Prod.fst))
      (h : ∀ item ∈ items, Reads params item.1 item.2) :
      Reads params text (tuple (items.map Prod.snd))
  | bare {text name rest : List Char} (hname : pathName? (trim text) = some (name, rest))
      (hend : pathEnd rest = .bare) : Reads params text (pathNode params name [])
  /-- The arguments that are no lifetimes, with what is read of each. -/
  | applied {text name rest inside : List Char} {parts : List (List Char)}
      {items : List (List Char × Ty)} (hname : pathName? (trim text) = some (name, rest))
      (hend : pathEnd rest = .arguments inside) (hcut : commaParts inside = .ok parts)
      (hkept : parts.filter (fun part => !isLifetime part) = items.map Prod.fst)
      (hparam : String.ofList name ∈ params → items = [])
      (h : ∀ item ∈ items, Reads params item.1 item.2) :
      Reads params text (pathNode params name (items.map Prod.snd))

theorem append_of_before? {close : Char} {cs inside : List Char}
    (h : before? close cs = some inside) : cs = inside ++ [close] := by
  unfold before? at h
  split at h
  · next hlast =>
      obtain rfl := Option.some.inj h
      exact (List.dropLast_append_getLast? close hlast).symm
  · cases h

theorem trim_eq_of_before? {text rest inside : List Char} {opener close : Char}
    (htrim : trim text = opener :: rest) (hclosed : before? close rest = some inside) :
    trim text = opener :: inside ++ [close] := by
  rw [htrim, append_of_before? hclosed]
  rfl

/-- Parts and what is read of them, put together. -/
theorem exists_items {α β : Type} {R : α → β → Prop} {parts : List α} {read : List β}
    (h : List.Forall₂ R parts read) :
    ∃ items : List (α × β), items.map Prod.fst = parts ∧ items.map Prod.snd = read ∧
      ∀ item ∈ items, R item.1 item.2 := by
  obtain ⟨hlength, hread⟩ := List.forall₂_iff_zip.mp h
  exact ⟨parts.zip read, List.map_fst_zip (Nat.le_of_eq hlength),
    List.map_snd_zip (Nat.le_of_eq hlength.symm), fun _ => hread⟩

theorem forall₂_of_items {α β : Type} {R : α → β → Prop} {items : List (α × β)}
    (h : ∀ item ∈ items, R item.1 item.2) :
    List.Forall₂ R (items.map Prod.fst) (items.map Prod.snd) :=
  List.forall₂_map_left_iff.mpr (List.forall₂_map_right_iff.mpr (List.forall₂_same.mpr h))

theorem forall₂_of_attach {α β : Type} {R : α → β → Prop} {xs : List α} {ys : List β}
    (h : List.Forall₂ (fun x y => R x.1 y) xs.attach ys) : List.Forall₂ R xs ys := by
  have hmap := List.forall₂_map_left_iff.mpr h
  rwa [List.attach_map_subtype_val] at hmap

/-- The parts that were read one by one. -/
theorem exists_items_of_mapM {params : List String} {parts : List (List Char)} {args : List Ty}
    (h : (parts.attach.mapM fun part => parseChars params part.1) = .ok args)
    (ih : ∀ part : { part // part ∈ parts }, ∀ {t : Ty}, parseChars params part.1 = .ok t →
      Reads params part.1 t) :
    ∃ items : List (List Char × Ty), items.map Prod.fst = parts ∧ items.map Prod.snd = args ∧
      ∀ item ∈ items, Reads params item.1 item.2 :=
  exists_items (forall₂_of_attach ((mapM_eq_ok_iff_forall₂.mp h).imp fun part _ => ih part))

/-- What is accepted is read by one of the forms.  The induction is on the calls of the reader. -/
theorem reads_of_parseChars {params : List String} {text : List Char} {t : Ty}
    (h : parseChars params text = .ok t) : Reads params text t := by
  fun_induction parseChars params text generalizing t with
  -- references, mutable and shared
  | case2 text rest htrim inner hmut ih =>
      obtain ⟨a, ha, rfl⟩ := map_eq_ok_iff.mp h
      exact .refMut htrim hmut (ih ha)
  | case3 text rest htrim hmut ih =>
      obtain ⟨a, ha, rfl⟩ := map_eq_ok_iff.mp h
      exact .ref htrim hmut (ih ha)
  -- slices and arrays
  | case6 text rest htrim inside hclosed element hcut ih =>
      obtain ⟨a, ha, rfl⟩ := map_eq_ok_iff.mp h
      exact .slice (trim_eq_of_before? htrim hclosed) hcut (ih ha)
  | case7 text rest htrim inside hclosed element length hcut hlength ih =>
      obtain ⟨a, ha, rfl⟩ := map_eq_ok_iff.mp h
      exact .array (trim_eq_of_before? htrim hclosed) hcut hlength (ih ha)
  | case12 text rest htrim inside hclosed parts hcut ih =>
      obtain ⟨args, hargs, rfl⟩ := map_eq_ok_iff.mp h
      obtain ⟨items, rfl, rfl, hitems⟩ := exists_items_of_mapM hargs ih
      exact .tuple (trim_eq_of_before? htrim hclosed) hcut hitems
  -- a name alone
  | case15 text _ _ _ _ _ htrim name rest hname hend =>
      obtain rfl := Except.ok.inj h
      exact .bare (htrim ▸ hname) hend
  -- a name with arguments, of which a parameter has none
  | case18 text _ _ _ _ _ htrim name _ hname inside hend parts hcut args hargs hparam hnone ih =>
      obtain rfl := Except.ok.inj h
      obtain ⟨items, hkept, rfl, hitems⟩ := exists_items_of_mapM hargs ih
      obtain rfl := List.map_eq_nil_iff.mp (List.isEmpty_iff.mp hnone)
      have hread := Reads.applied (htrim ▸ hname) hend hcut hkept.symm (fun _ => rfl) hitems
      rwa [pathNode, hparam] at hread
  | case20 text _ _ _ _ _ htrim name _ hname inside hend parts hcut args hargs hparam ih =>
      obtain rfl := Except.ok.inj h
      obtain ⟨items, hkept, rfl, hitems⟩ := exists_items_of_mapM hargs ih
      have hread := Reads.applied (htrim ▸ hname) hend hcut hkept.symm
        (fun hmem => absurd (List.contains_iff_mem.mpr hmem) hparam) hitems
      rwa [pathNode, Bool.eq_false_iff.mpr hparam] at hread
  -- in all other cases nothing is read
  | _ => simp at h

end Ty
end FuzzSynth
