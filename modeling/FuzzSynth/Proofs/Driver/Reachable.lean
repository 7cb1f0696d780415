/-
Functions that no driver calls.

The graph reports the inputs that nothing can fill.  `unreachableInputs` looks at the graph
alone, while a search decides from its caps, from the order of producers and from what
else waits in the queue what is tried for an input.  `forall_call_ne_of_unreachable` ties the
two together: whatever the search does, a branch that has a call with such an input is
never finished, so the function is in no driver and is itself the target of none.

The argument is that a finished branch has something in each slot, and that nothing gets
into a slot which the graph does not offer for it.
-/
import FuzzSynth.Proofs.Driver.Typed

namespace FuzzSynth

/-! ## What is reported -/

namespace Graph

variable {graph : Graph} {n : Node} {i : Nat}

/-- The inputs that are reported are those without a producer whose type no seed can fill. -/
theorem mem_unreachableInputs :
    (n, i) ∈ graph.unreachableInputs ↔
      n ∈ graph.nodes ∧ ∃ t, n.api.inputTypes[i]? = some t ∧ graph.producersFor n i = [] ∧
        t.isFuzzable = false := by
  have hplace : ∀ {m : Node} {j : Nat} {t : Ty},
      (j, t) ∈ m.api.inputTypes.mapIdx (fun i t => (i, t)) ↔ m.api.inputTypes[j]? = some t := by
    intro m j t
    simp [List.mem_iff_getElem?, List.getElem?_mapIdx]
  simp only [unreachableInputs, List.mem_flatMap, List.mem_map, List.mem_filter, Prod.exists,
    hplace, Bool.and_eq_true, List.isEmpty_iff, Bool.not_eq_true', Prod.mk.injEq]
  constructor
  · rintro ⟨m, hm, j, t, ⟨hinput, hnone, hseed⟩, rfl, rfl⟩
    exact ⟨hm, t, hinput, hnone, hseed⟩
  · rintro ⟨hn, t, hinput, hnone, hseed⟩
    exact ⟨n, hn, i, t, ⟨hinput, hnone, hseed⟩, rfl, rfl⟩

/-- For an input that is reported nothing is offered. -/
theorem not_offers_of_unreachable {item : Pending}
    (hitem : (item.consumer, item.slot.input) ∈ graph.unreachableInputs)
    (htype : item.consumer.api.inputTypes[item.slot.input]? = some item.type)
    (choice : Option Edge) : ¬ graph.Offers item choice := by
  obtain ⟨-, t, ht, hnone, hseed⟩ := mem_unreachableInputs.mp hitem
  obtain rfl : t = item.type := Option.some.inj (ht.symm.trans htype)
  intro hoffers
  cases choice with
  | none => exact Bool.false_ne_true (hseed.symm.trans hoffers)
  | some e =>
      have he : e ∈ graph.producersFor item.consumer item.slot.input := hoffers
      rw [hnone] at he
      exact List.not_mem_nil he

end Graph

/-! ## What a finished branch calls -/

namespace Branch

variable {ok : Pending → Option Edge → Prop} {target : Node} {b : Branch}

/-- What fills an input was allowed. -/
theorem Fills.exists_ok {item : Pending} {f : Filling} (h : b.Fills ok item f) :
    ∃ choice, ok item choice := by
  cases f with
  | seed index => exact ⟨none, h.1⟩
  | call id adapter =>
      obtain ⟨e, hok, -⟩ := h
      exact ⟨some e, hok⟩

/-- A finished branch has no call with an input that nothing can fill. -/
theorem Grown.forall_call_ne {graph : Graph} {n : Node} {i : Nat}
    (h : b.Grown graph.Offers target) (hpending : b.pending = [])
    (hunreachable : (n, i) ∈ graph.unreachableInputs) : ∀ c ∈ b.calls, c.1 ≠ n := by
  rintro ⟨node, depth⟩ hc rfl
  obtain ⟨id, hcall⟩ := List.mem_iff_getElem?.mp hc
  -- the input is one of the branch, so something fills it, and that was offered
  obtain ⟨-, t, ht, -⟩ := Graph.mem_unreachableInputs.mp hunreachable
  obtain ⟨name, hitem⟩ := exists_mem_inputs hcall ht
  obtain ⟨f, -, hfills⟩ := h.coherent.exists_filling hpending hitem
  obtain ⟨choice, hoffers⟩ := hfills.exists_ok
  exact Graph.not_offers_of_unreachable hunreachable ht choice hoffers

end Branch

/-! ## The drivers of a search -/

namespace SearchSettings

variable {graph : Graph} {n : Node} {i : Nat}

/-- A function with an input that nothing can fill is called by no driver, whatever the
settings and the target; with it as the target nothing is accepted. -/
theorem forall_call_ne_of_unreachable (h : (n, i) ∈ graph.unreachableInputs)
    (settings : SearchSettings) (target : Node) :
    (settings.search graph target).accepted.map (·.driver? target) =
        (settings.search graph target).drivers.map some ∧
      (∀ d ∈ (settings.search graph target).drivers, ∀ c ∈ d.calls, c.node ≠ n) ∧
        (settings.search graph n).accepted = [] := by
  refine ⟨settings.map_driver?_accepted graph target, ?_, ?_⟩
  · intro d hd c hc
    obtain ⟨b, ⟨hgrown, hpending⟩, hbecomes⟩ :=
      settings.exists_becomes_of_mem_drivers graph target hd
    obtain ⟨p, hp⟩ := List.mem_iff_getElem?.mp hc
    obtain ⟨id, depth, -, hcall, -⟩ := hbecomes.call hp
    exact hgrown.forall_call_ne hpending h _ (List.mem_of_getElem? hcall)
  · -- every branch for `n` begins with a call of it
    rw [List.eq_nil_iff_forall_not_mem]
    intro b hb
    obtain ⟨hgrown, hpending⟩ := settings.grown_of_mem_accepted graph n hb
    have hhead : (n, 0) ∈ b.calls := List.mem_of_getElem? hgrown.coherent.head
    exact hgrown.forall_call_ne hpending h _ hhead rfl

/-! ### A small case -/

/-- `mend(gadget: Gadget) -> Widget`, which takes what nothing makes. -/
def mendWidget : Instance :=
  let mend : Signature := ⟨"mend", [], [("gadget", .named "Gadget" [])], .named "Widget" []⟩
  ⟨mend, .empty, mend⟩

/-- `feed` could take what `mend` gives, but its only driver takes what `make` gives. -/
theorem forall_call_ne_of_unreachable_mendWidget :
    (⟨2, mendWidget⟩, 0) ∈
        (Graph.build ⟨true, true⟩ [makeWidget, feedWidget, mendWidget]).unreachableInputs ∧
      ((Graph.build ⟨true, true⟩ [makeWidget, feedWidget, mendWidget]).producersFor
          ⟨1, feedWidget⟩ 0).map Edge.producer = [⟨0, makeWidget⟩, ⟨2, mendWidget⟩] ∧
      (∃ d, (search ⟨3, 10, 4, 8, 100, .diversity, true, true⟩
          (Graph.build ⟨true, true⟩ [makeWidget, feedWidget, mendWidget])
          ⟨1, feedWidget⟩).drivers = [d] ∧ ∀ c ∈ d.calls, c.node ≠ ⟨2, mendWidget⟩) ∧
      (search ⟨3, 10, 4, 8, 100, .diversity, true, true⟩
          (Graph.build ⟨true, true⟩ [makeWidget, feedWidget, mendWidget])
          ⟨2, mendWidget⟩).accepted = [] := by
  have hreport : (⟨2, mendWidget⟩, 0) ∈
      (Graph.build ⟨true, true⟩ [makeWidget, feedWidget, mendWidget]).unreachableInputs := by
    decide +kernel
  have hone : (search ⟨3, 10, 4, 8, 100, .diversity, true, true⟩
      (Graph.build ⟨true, true⟩ [makeWidget, feedWidget, mendWidget])
      ⟨1, feedWidget⟩).drivers.length = 1 := by
    decide +kernel
  obtain ⟨d, hd⟩ := List.length_eq_one_iff.mp hone
  obtain ⟨-, hcalls, hnone⟩ := forall_call_ne_of_unreachable hreport
    ⟨3, 10, 4, 8, 100, .diversity, true, true⟩ ⟨1, feedWidget⟩
  exact ⟨hreport, by decide +kernel, ⟨d, hd, hcalls d (hd ▸ List.mem_singleton_self d)⟩, hnone⟩

end SearchSettings
end FuzzSynth
