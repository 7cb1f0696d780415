/-
What becomes of the values in a driver.

Each binding of a driver takes the value of one call or of one seed.  A search gives a
new number to every call and every seed that it makes, and fills one input with it, so
the calls that are named by the bindings of a driver are all but the last, each once, and
the seeds that are named are all of them, each once (`Becomes.namedCalls_perm`,
`Becomes.namedSeeds_perm`).  No value is taken twice and no call is made for nothing: the
calls are a tree with the target at its root (`SearchSettings.isTree_of_mem_drivers`).
-/
import Mathlib.Data.List.Perm.Basic
import Mathlib.Logic.Relation
import FuzzSynth.Proofs.Driver.Tree
import FuzzSynth.Proofs.Driver.Typed

namespace FuzzSynth

namespace Binding

/-- The call whose value is taken. -/
def call? : Binding → Option Int
  | seed _ => none
  | call index _ => some index

/-- The seed whose value is taken. -/
def seed? : Binding → Option Int
  | seed index => some index
  | call _ _ => none

end Binding

namespace Driver

/-- The bindings of all inputs of all calls, in order. -/
def bindings (d : Driver) : List Binding :=
  d.calls.flatMap DriverCall.bindings

/-- The calls that bindings name, with an entry for every binding that does. -/
def namedCalls (d : Driver) : List Int :=
  d.bindings.filterMap Binding.call?

/-- The seeds that bindings name, with an entry for every binding that does. -/
def namedSeeds (d : Driver) : List Int :=
  d.bindings.filterMap Binding.seed?

/-- The value of call `k` is taken by an input of call `p`. -/
def Feeds (d : Driver) (k p : Nat) : Prop :=
  ∃ c, d.calls[p]? = some c ∧ ∃ adapter, Binding.call k adapter ∈ c.bindings

/-- A driver whose calls are a tree with the target at its root: each call but the last is
taken by one binding of a later call, and from every call the values lead to the last. -/
structure IsTree (d : Driver) (target : Node) : Prop where
  valid : d.isValid = true
  root : d.calls.getLast?.map DriverCall.node = some target
  used_once {k : Nat} (hk : k + 1 < d.calls.length) : d.namedCalls.count (k : Int) = 1
  root_unused : d.namedCalls.count ((d.calls.length : Int) - 1) = 0
  leads {k : Nat} (hk : k < d.calls.length) :
    Relation.ReflTransGen d.Feeds k (d.calls.length - 1)
  seed_once {k : Nat} (hk : k < d.seeds.length) : d.namedSeeds.count (k : Int) = 1
  length_namedCalls : d.namedCalls.length + 1 = d.calls.length
  length_namedSeeds : d.namedSeeds.length = d.seeds.length

end Driver

namespace Branch

variable {ok : Pending → Option Edge → Prop} {target : Node} {b : Branch} {d : Driver}

/-! ## The bindings in the order in which they were made -/

/-- What fills an input, as the driver binds it. -/
def boundAt (b : Branch) (item : Pending) : Option Binding :=
  (b.filling? item.slot).map b.bindingOf

/-- The bindings of one call are what fills its inputs, one by one. -/
theorem map_some_bindings {id depth : Nat} {node : Node} {c : DriverCall}
    (hlength : c.bindings.length = node.api.inputTypes.length)
    (hbindings : ∀ {i binding}, c.bindings[i]? = some binding →
      ∃ f, b.filling? ⟨id, i⟩ = some f ∧ binding = b.bindingOf f) :
    c.bindings.map some = (Pending.ofCall id node depth).map b.boundAt := by
  refine List.ext_getElem (by simp [hlength]) fun i hi hi' => ?_
  rw [List.length_map] at hi hi'
  obtain ⟨f, hf, hbinding⟩ := hbindings (List.getElem?_eq_getElem hi)
  rw [List.getElem_map, List.getElem_map, boundAt, slot_getElem_ofCall hi', hf, hbinding]
  rfl

/-- The calls of the driver, last one first, bind what fills the inputs of the branch. -/
theorem Becomes.map_bindings_reverse (hbecomes : b.Becomes target d) :
    d.calls.reverse.map (fun c => c.bindings.map some) =
      b.calls.mapIdx fun id c => (Pending.ofCall id c.1 c.2).map b.boundAt := by
  refine List.ext_getElem (by simp [hbecomes.length_calls]) fun id hid hid' => ?_
  rw [List.length_mapIdx] at hid'
  -- call number `id` of the branch stands at place `id` from the end
  obtain ⟨c, hc, -, hlength, hbindings⟩ := hbecomes.exists_call (List.getElem?_eq_getElem hid')
  obtain ⟨_, hget⟩ := List.getElem?_eq_some_iff.mp hc
  rw [List.getElem_map, List.getElem_mapIdx, List.getElem_reverse]
  simp only [hbecomes.length_calls, hget]
  exact map_some_bindings hlength hbindings

/-- Input by input, a finished branch is filled by its bindings. -/
theorem Coherent.map_boundAt_inputs (h : b.Coherent ok target) (hpending : b.pending = []) :
    b.inputs.map b.boundAt = b.bindings.map fun binding => some (b.bindingOf binding.2) := by
  refine List.ext_getElem (by simp [h.length_bindings hpending]) fun place hplace hplace' => ?_
  rw [List.length_map] at hplace hplace'
  have hfilling := (h.filling?_eq hpending (List.getElem?_eq_getElem hplace)
    (List.getElem?_eq_getElem hplace')).1
  rw [List.getElem_map, List.getElem_map, boundAt, hfilling]
  rfl

theorem map_inputs {β : Type} (b : Branch) (f : Pending → β) :
    b.inputs.map f = (b.calls.mapIdx fun id c => (Pending.ofCall id c.1 c.2).map f).flatten := by
  rw [inputs, inputsOf, List.map_flatten]
  congr 1
  refine List.ext_getElem (by simp) fun id hid hid' => ?_
  rw [List.getElem_mapIdx, List.getElem_map, List.getElem_mapIdx]

/-- The calls of the driver, last one first, bind what was bound in the branch, in order. -/
theorem Becomes.flatMap_reverse_calls (hbecomes : b.Becomes target d) (h : b.Coherent ok target)
    (hpending : b.pending = []) :
    d.calls.reverse.flatMap DriverCall.bindings =
      b.bindings.map fun binding => b.bindingOf binding.2 := by
  apply List.map_injective_iff.mpr fun x y => Option.some.inj
  rw [List.map_flatMap, List.flatMap_def, hbecomes.map_bindings_reverse, ← map_inputs,
    h.map_boundAt_inputs hpending, List.map_map]
  rfl

/-- The driver binds what the branch binds, in another order. -/
theorem Becomes.bindings_perm (hbecomes : b.Becomes target d) (h : b.Coherent ok target)
    (hpending : b.pending = []) :
    d.bindings.Perm (b.bindings.map fun binding => b.bindingOf binding.2) := by
  rw [← hbecomes.flatMap_reverse_calls h hpending]
  exact (List.reverse_perm d.calls).symm.flatMap_right _

/-! ## What is named, and how often -/

/-- The bindings of the driver name all calls but the last, each once. -/
theorem Becomes.namedCalls_perm (hbecomes : b.Becomes target d) (h : b.Coherent ok target)
    (hpending : b.pending = []) :
    d.namedCalls.Perm ((List.range (d.calls.length - 1)).map fun k : Nat => (k : Int)) := by
  -- calls get their numbers in turn, and their places are counted from the end
  have hnumbers : (b.bindings.map fun binding => b.bindingOf binding.2).filterMap Binding.call? =
      (List.range' 1 (b.calls.length - 1)).map b.position := by
    rw [← h.callIds, List.filterMap_map, List.map_filterMap]
    congr 1
    funext ⟨slot, f⟩
    cases f <;> rfl
  have hplaces : (List.range' 1 (b.calls.length - 1)).map b.position =
      ((List.range (b.calls.length - 1)).map fun k : Nat => (k : Int)).reverse := by
    refine List.ext_getElem (by simp) fun i hi hi' => ?_
    simp only [List.length_map, List.length_range'] at hi
    simp only [List.getElem_map, List.getElem_range', List.getElem_reverse, List.getElem_range,
      List.length_map, List.length_range, position]
    omega
  rw [hbecomes.length_calls]
  refine ((hbecomes.bindings_perm h hpending).filterMap _).trans ?_
  rw [hnumbers, hplaces]
  exact List.reverse_perm _

/-- The bindings of the driver name all seeds, each once. -/
theorem Becomes.namedSeeds_perm (hbecomes : b.Becomes target d) (h : b.Coherent ok target)
    (hpending : b.pending = []) :
    d.namedSeeds.Perm ((List.range d.seeds.length).map fun k : Nat => (k : Int)) := by
  rw [hbecomes.length_seeds, ← h.seedIds]
  refine ((hbecomes.bindings_perm h hpending).filterMap _).trans (.of_eq ?_)
  rw [List.filterMap_map, List.map_filterMap]
  congr 1
  funext ⟨slot, f⟩
  cases f <;> rfl

/-! ## The tree -/

theorem count_natCast_range {n k : Nat} (hk : k < n) :
    ((List.range n).map fun k : Nat => (k : Int)).count (k : Int) = 1 := by
  refine List.count_eq_one_of_mem (List.nodup_range.map fun _ _ => Int.ofNat.inj) ?_
  exact List.mem_map_of_mem (List.mem_range.mpr hk)

end Branch

namespace Driver

/-- A binding that names a call makes it feed the call that has the binding. -/
theorem exists_feeds {d : Driver} {k : Nat} (h : (k : Int) ∈ d.namedCalls) : ∃ p, d.Feeds k p := by
  obtain ⟨binding, hbinding, hk⟩ := List.mem_filterMap.mp h
  obtain ⟨c, hc, hbinding⟩ := List.mem_flatMap.mp hbinding
  obtain ⟨p, hp⟩ := List.mem_iff_getElem?.mp hc
  cases binding with
  | seed index => cases hk
  | call index adapter =>
      obtain rfl : index = k := Option.some.inj hk
      exact ⟨p, c, hp, adapter, hbinding⟩

/-- In a valid driver a value is taken by a later call. -/
theorem Feeds.lt {d : Driver} (hvalid : d.isValid = true) {k p : Nat} (h : d.Feeds k p) :
    k < p ∧ p < d.calls.length := by
  obtain ⟨c, hc, adapter, hbinding⟩ := h
  have hdefined := isDefined_of_isValid hvalid hc _ hbinding
  simp only [Binding.isDefined, Bool.and_eq_true, decide_eq_true_eq] at hdefined
  exact ⟨by omega, (List.getElem?_eq_some_iff.mp hc).1⟩

/-- If every call but the last is taken, then values lead from every call to the last.  The
induction is on how far a call stands from the end. -/
theorem leads_of_named {d : Driver} (hvalid : d.isValid = true)
    (hnamed : ∀ {k : Nat}, k + 1 < d.calls.length → (k : Int) ∈ d.namedCalls) (distance : Nat) :
    ∀ {k : Nat}, k < d.calls.length → d.calls.length - 1 - k = distance →
      Relation.ReflTransGen d.Feeds k (d.calls.length - 1) := by
  induction distance using Nat.strongRecOn with
  | ind distance ih =>
      intro k hk hdistance
      by_cases hlast : k + 1 < d.calls.length
      · obtain ⟨p, hp⟩ := exists_feeds (hnamed hlast)
        obtain ⟨hkp, hplast⟩ := hp.lt hvalid
        exact .head hp (ih _ (by omega) hplast rfl)
      · obtain rfl : k = d.calls.length - 1 := by omega
        exact .refl

end Driver

namespace Branch

variable {ok : Pending → Option Edge → Prop} {target : Node} {b : Branch} {d : Driver}

/-- A finished branch becomes a tree. -/
theorem Becomes.isTree (hbecomes : b.Becomes target d) (h : b.Coherent ok target)
    (hpending : b.pending = []) : d.IsTree target := by
  have hvalid := hbecomes.isValid h hpending
  have hcalls := hbecomes.namedCalls_perm h hpending
  have hseeds := hbecomes.namedSeeds_perm h hpending
  have hpos : 0 < d.calls.length := hbecomes.length_calls ▸ h.length_pos
  have honce : ∀ {k : Nat}, k + 1 < d.calls.length → d.namedCalls.count (k : Int) = 1 := by
    intro k hk
    rw [hcalls.count_eq, count_natCast_range (by omega)]
  constructor
  case valid => exact hvalid
  case root =>
    -- the target is call number zero of the branch
    obtain ⟨c, hc, hnode, -⟩ := hbecomes.exists_call h.head
    rw [List.getLast?_eq_getElem?, hbecomes.length_calls]
    rw [Nat.sub_zero] at hc
    rw [hc, Option.map_some, hnode]
  case used_once => exact honce
  case root_unused =>
    rw [hcalls.count_eq, List.count_eq_zero]
    intro hmem
    obtain ⟨k, hk, heq⟩ := List.mem_map.mp hmem
    have := List.mem_range.mp hk
    omega
  case leads =>
    intro k hk
    refine Driver.leads_of_named hvalid (fun hk => ?_) _ hk rfl
    exact List.count_pos_iff.mp (by rw [honce hk]; exact Nat.one_pos)
  case seed_once =>
    intro k hk
    rw [hseeds.count_eq, count_natCast_range hk]
  case length_namedCalls =>
    rw [hcalls.length_eq, List.length_map, List.length_range]
    omega
  case length_namedSeeds =>
    rw [hseeds.length_eq, List.length_map, List.length_range]

end Branch

/-! ## The drivers of a search -/

namespace SearchSettings

/-- Every accepted branch of a search becomes a driver for its target, and every driver is a
tree. -/
theorem isTree_of_mem_drivers (settings : SearchSettings) (graph : Graph) (target : Node) :
    (settings.search graph target).accepted.map (·.driver? target) =
        (settings.search graph target).drivers.map some ∧
      ∀ d ∈ (settings.search graph target).drivers, d.target = target ∧ d.IsTree target := by
  refine ⟨settings.map_driver?_accepted graph target, fun d hd => ?_⟩
  obtain ⟨b, ⟨hgrown, hpending⟩, hbecomes⟩ := settings.exists_becomes_of_mem_drivers graph target hd
  exact ⟨hbecomes.target_eq, hbecomes.isTree hgrown.coherent hpending⟩

/-- `join(left: Widget, right: Widget)`, which takes two values that one function makes. -/
def joinWidgets : Instance :=
  let widget : Ty := .named "Widget" []
  let join : Signature := ⟨"join", [], [("left", widget), ("right", widget)], .unit⟩
  ⟨join, .empty, join⟩

/-- A driver for `join` calls `make` twice, since no value is taken twice. -/
theorem isTree_of_mem_drivers_joinWidgets :
    ∃ d, (search ⟨3, 10, 4, 8, 100, .diversity, false, true⟩
      (Graph.build ⟨true, true⟩ [makeWidget, joinWidgets]) ⟨1, joinWidgets⟩).drivers = [d] ∧
        d.calls.length = 3 ∧ d.IsTree ⟨1, joinWidgets⟩ := by
  have hcalls : ((search ⟨3, 10, 4, 8, 100, .diversity, false, true⟩
      (Graph.build ⟨true, true⟩ [makeWidget, joinWidgets]) ⟨1, joinWidgets⟩).drivers.map
        fun d => d.calls.length) = [3] := by
    decide +kernel
  obtain ⟨d, hd, hlength⟩ := List.map_eq_singleton_iff.mp hcalls
  refine ⟨d, hd, hlength, ?_⟩
  exact ((isTree_of_mem_drivers _ _ _).2 d (hd ▸ List.mem_singleton_self d)).2

end SearchSettings
end FuzzSynth
