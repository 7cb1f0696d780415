/-
What a finished branch becomes.

A finished branch has something in every slot (`Coherent.exists_filling`), so it becomes
a driver (`Coherent.exists_driver`): no lookup on the way fails.  `Branch.Becomes` says
which driver that is.  Call number `id` of the branch stands at the place counted from the
end, its bindings are the fillings of its slots, and the seeds keep their numbers.
-/
import FuzzSynth.Proofs.Search.Growth

namespace FuzzSynth

/-! ## Lookups that all succeed -/

theorem mapM_eq_some_iff {α β : Type} {f : α → Option β} {xs : List α} {ys : List β} :
    xs.mapM f = some ys ↔ xs.map f = ys.map some := by
  induction xs generalizing ys with
  | nil => cases ys <;> simp
  | cons x xs ih =>
      cases ys with
      | nil => simp [Option.bind_eq_some_iff]
      | cons y ys => simp [Option.bind_eq_some_iff, ih]

theorem exists_mapM_eq_some {α β : Type} {f : α → Option β} {xs : List α}
    (h : ∀ x ∈ xs, (f x).isSome = true) : ∃ ys, xs.mapM f = some ys := by
  induction xs with
  | nil => exact ⟨[], rfl⟩
  | cons x xs ih =>
      obtain ⟨y, hy⟩ := Option.isSome_iff_exists.mp (h x List.mem_cons_self)
      obtain ⟨ys, hys⟩ := ih fun z hz => h z (List.mem_cons_of_mem x hz)
      exact ⟨y :: ys, by simp [hy, hys]⟩

theorem exists_getElem?_of_mapM {α β : Type} {f : α → Option β} {xs : List α} {ys : List β}
    (h : xs.mapM f = some ys) {i : Nat} {y : β} (hy : ys[i]? = some y) :
    ∃ x, xs[i]? = some x ∧ f x = some y := by
  have hi : (xs.map f)[i]? = some (some y) := by
    rw [mapM_eq_some_iff.mp h, List.getElem?_map, hy]
    rfl
  rwa [List.getElem?_map, Option.map_eq_some_iff] at hi

theorem length_of_mapM {α β : Type} {f : α → Option β} {xs : List α} {ys : List β}
    (h : xs.mapM f = some ys) : ys.length = xs.length := by
  simpa using (congrArg List.length (mapM_eq_some_iff.mp h)).symm

theorem isSome_bind_of_exists {α β : Type} {x : Option α} {f : α → Option β}
    (hx : ∃ a, x = some a) (hf : ∀ a, (f a).isSome = true) : (x.bind f).isSome = true := by
  obtain ⟨a, rfl⟩ := hx
  exact hf a

namespace Branch

variable {ok : Pending → Option Edge → Prop} {target : Node} {b : Branch} {d : Driver}

/-! ## Every slot is filled -/

/-- What stands at the place of an input is found by its slot, which no other input has. -/
theorem find?_of_forall₂ {items : List Pending} {bindings : List (Slot × Filling)}
    {P : Pending → Filling → Prop}
    (h : List.Forall₂ (fun item binding => binding.1 = item.slot ∧ P item binding.2) items bindings)
    (hnodup : (items.map Pending.slot).Nodup) {place : Nat} {item : Pending}
    {binding : Slot × Filling} (hitem : items[place]? = some item)
    (hbinding : bindings[place]? = some binding) :
    bindings.find? (fun binding => binding.1 == item.slot) = some binding ∧ P item binding.2 := by
  induction h generalizing place with
  | nil => simp at hitem
  | @cons first other items bindings hfirst _ ih =>
      rw [List.map_cons, List.nodup_cons] at hnodup
      cases place with
      | zero =>
          -- the first binding is found at once
          obtain rfl : first = item := by simpa using hitem
          obtain rfl : other = binding := by simpa using hbinding
          exact ⟨by simp [hfirst.1], hfirst.2⟩
      | succ place =>
          rw [List.getElem?_cons_succ] at hitem hbinding
          obtain ⟨hfind, hP⟩ := ih hnodup.2 hitem hbinding
          -- the first binding is passed, since its slot occurs only once
          have hne : first.slot ≠ item.slot := fun heq =>
            hnodup.1 (heq ▸ List.mem_map_of_mem (List.mem_of_getElem? hitem))
          refine ⟨?_, hP⟩
          rw [List.find?_cons_of_neg (by simpa [hfirst.1] using hne)]
          exact hfind

/-- In a finished branch the bindings fill the inputs one by one. -/
theorem Coherent.filling?_eq (h : b.Coherent ok target) (hpending : b.pending = []) {place : Nat}
    {item : Pending} {binding : Slot × Filling} (hitem : b.inputs[place]? = some item)
    (hbinding : b.bindings[place]? = some binding) :
    b.filling? item.slot = some binding.2 ∧ b.Fills ok item binding.2 := by
  obtain ⟨filled, hrow, hfilled⟩ := h.row
  rw [hpending, List.append_nil] at hrow
  have hnodup : (filled.map Pending.slot).Nodup := hrow ▸ nodup_slots b.calls
  obtain ⟨hfind, hfills⟩ := find?_of_forall₂ hfilled hnodup (hrow ▸ hitem) hbinding
  refine ⟨?_, hfills⟩
  rw [filling?, hfind]
  rfl

theorem Coherent.length_bindings (h : b.Coherent ok target) (hpending : b.pending = []) :
    b.bindings.length = b.inputs.length := by
  obtain ⟨filled, hrow, hfilled⟩ := h.row
  rw [hrow, hpending, List.append_nil]
  exact hfilled.length_eq.symm

/-- In a finished branch every input is filled, in a way that is allowed. -/
theorem Coherent.exists_filling (h : b.Coherent ok target) (hpending : b.pending = [])
    {item : Pending} (hitem : item ∈ b.inputs) :
    ∃ f, b.filling? item.slot = some f ∧ b.Fills ok item f := by
  obtain ⟨place, hplace⟩ := List.mem_iff_getElem?.mp hitem
  have hlt : place < b.bindings.length := by
    rw [h.length_bindings hpending]
    exact (List.getElem?_eq_some_iff.mp hplace).1
  exact ⟨_, h.filling?_eq hpending hplace (List.getElem?_eq_getElem hlt)⟩

/-- In a finished branch every binding is found by its slot. -/
theorem Coherent.filling?_of_mem (h : b.Coherent ok target) (hpending : b.pending = [])
    {binding : Slot × Filling} (hbinding : binding ∈ b.bindings) :
    ∃ item ∈ b.inputs, binding.1 = item.slot ∧ b.Fills ok item binding.2 ∧
      b.filling? item.slot = some binding.2 := by
  obtain ⟨place, hplace⟩ := List.mem_iff_getElem?.mp hbinding
  have hlt : place < b.inputs.length := by
    rw [← h.length_bindings hpending]
    exact (List.getElem?_eq_some_iff.mp hplace).1
  obtain ⟨hfilling, hfills⟩ := h.filling?_eq hpending (List.getElem?_eq_getElem hlt) hplace
  refine ⟨b.inputs[place], List.getElem_mem hlt, ?_, hfills, hfilling⟩
  obtain ⟨filled, hrow, hfilled⟩ := h.row
  obtain ⟨hlt', rfl⟩ := List.getElem?_eq_some_iff.mp hplace
  simp only [hrow, hpending, List.append_nil]
  exact (hfilled.get (hfilled.length_eq ▸ hlt') hlt').1

theorem mem_bindings_of_filling? {slot : Slot} {f : Filling} (h : b.filling? slot = some f) :
    (slot, f) ∈ b.bindings := by
  obtain ⟨⟨s, g⟩, hfind, rfl⟩ := Option.map_eq_some_iff.mp h
  obtain rfl : s = slot := by simpa using List.find?_some hfind
  exact List.mem_of_find?_eq_some hfind

/-- In a finished branch every seed fills the slot that it is kept for. -/
theorem Coherent.filling?_of_seed (h : b.Coherent ok target) (hpending : b.pending = [])
    {index : Nat} {slot : Slot} (hslot : b.seeds[index]? = some slot) :
    ∃ item ∈ b.inputs, item.slot = slot ∧ b.filling? slot = some (.seed index) := by
  obtain ⟨item, hitem, rfl, -, hfilling⟩ := h.filling?_of_mem hpending (h.mem_bindings_of_seed hslot)
  exact ⟨item, hitem, rfl, hfilling⟩

/-- The inputs of a call, by their types. -/
theorem exists_mem_inputs {id depth i : Nat} {node : Node} {t : Ty}
    (hcall : b.calls[id]? = some (node, depth)) (ht : node.api.inputTypes[i]? = some t) :
    ∃ name, (⟨⟨id, i⟩, node, name, t, depth⟩ : Pending) ∈ b.inputs := by
  obtain ⟨⟨name, u⟩, hinput, rfl⟩ := Option.map_eq_some_iff.mp (List.getElem?_map .. ▸ ht)
  exact ⟨name, mem_inputsOf.mpr ⟨hcall, hinput⟩⟩

/-- An input has the type that its function gives it. -/
theorem inputType_of_mem_inputs {item : Pending} (hitem : item ∈ b.inputs) :
    item.consumer.api.inputTypes[item.slot.input]? = some item.type := by
  have hinput := congrArg (Option.map Prod.snd) (mem_inputsOf.mp hitem).2
  rwa [← List.getElem?_map] at hinput

/-! ## The driver of a branch -/

/-- The driver `d` is what the branch `b` becomes: the calls stand the other way around, and
the fillings become bindings. -/
structure Becomes (b : Branch) (target : Node) (d : Driver) : Prop where
  target_eq : d.target = target
  length_calls : d.calls.length = b.calls.length
  length_seeds : d.seeds.length = b.seeds.length
  call {p : Nat} {c : DriverCall} (h : d.calls[p]? = some c) :
    ∃ id depth, p + id + 1 = b.calls.length ∧ b.calls[id]? = some (c.node, depth) ∧
      c.bindings.length = c.node.api.inputTypes.length ∧
      ∀ {i binding}, c.bindings[i]? = some binding →
        ∃ f, b.filling? ⟨id, i⟩ = some f ∧ binding = b.bindingOf f
  seed {index : Nat} {point : SeedPoint} (h : d.seeds[index]? = some point) :
    ∃ slot node depth type, b.seeds[index]? = some slot ∧
      b.calls[slot.call]? = some (node, depth) ∧ node.api.inputTypes[slot.input]? = some type ∧
      point = ⟨index, type, b.position slot.call, slot.input, type.seedLayout⟩

theorem becomes_of_driver? (h : b.driver? target = some d) : b.Becomes target d := by
  obtain ⟨calls, hcalls, h⟩ := Option.bind_eq_some_iff.mp h
  obtain ⟨seeds, hseeds, h⟩ := Option.bind_eq_some_iff.mp h
  obtain rfl : ⟨target, calls, seeds⟩ = d := Option.some.inj h
  constructor
  case target_eq => rfl
  case length_calls => simpa using length_of_mapM hcalls
  case length_seeds => simpa using length_of_mapM hseeds
  case call =>
    intro p c hc
    -- the call at place `p` is the one that stands `p` places from the end of the branch
    obtain ⟨⟨id, node⟩, hid, hc⟩ := exists_getElem?_of_mapM hcalls hc
    obtain ⟨fillings, hfillings, hc⟩ := Option.bind_eq_some_iff.mp hc
    obtain rfl : ⟨node, fillings.map b.bindingOf⟩ = c := Option.some.inj hc
    have hp := (List.getElem?_eq_some_iff.mp hid).1
    rw [List.length_reverse, List.length_mapIdx] at hp
    rw [List.getElem?_reverse (by simpa using hp), List.getElem?_mapIdx, List.length_mapIdx] at hid
    obtain ⟨⟨node', depth⟩, hcall, heq⟩ := Option.map_eq_some_iff.mp hid
    obtain ⟨rfl, rfl⟩ := Prod.mk.inj heq
    refine ⟨b.calls.length - 1 - p, depth, by omega, hcall, ?_, ?_⟩
    · simpa using length_of_mapM hfillings
    · intro i binding hbinding
      obtain ⟨f, hf, rfl⟩ := Option.map_eq_some_iff.mp (List.getElem?_map .. ▸ hbinding)
      obtain ⟨j, hj, hfilling⟩ := exists_getElem?_of_mapM hfillings hf
      obtain ⟨hi, rfl⟩ := List.getElem?_eq_some_iff.mp hj
      rw [List.getElem_range] at hfilling
      exact ⟨f, hfilling, rfl⟩
  case seed =>
    intro index point hpoint
    obtain ⟨⟨index', slot⟩, hslot, hpoint⟩ := exists_getElem?_of_mapM hseeds hpoint
    rw [List.getElem?_mapIdx] at hslot
    obtain ⟨kept, hkept, heq⟩ := Option.map_eq_some_iff.mp hslot
    obtain ⟨rfl, rfl⟩ := Prod.mk.inj heq
    obtain ⟨⟨node, depth⟩, hcall, hpoint⟩ := Option.bind_eq_some_iff.mp hpoint
    obtain ⟨type, htype, hpoint⟩ := Option.bind_eq_some_iff.mp hpoint
    exact ⟨kept, node, depth, type, hkept, hcall, htype, (Option.some.inj hpoint).symm⟩

/-- Every input of a call of a finished branch is found. -/
theorem Coherent.isSome_driverCall? (h : b.Coherent ok target) (hpending : b.pending = [])
    {id depth : Nat} {node : Node} (hcall : b.calls[id]? = some (node, depth)) :
    (b.driverCall? id node).isSome = true := by
  obtain ⟨fillings, hfillings⟩ : ∃ fillings,
      (List.range node.api.inputTypes.length).mapM (fun i => b.filling? ⟨id, i⟩) =
        some fillings := by
    refine exists_mapM_eq_some fun i hi => ?_
    have ht := List.getElem?_eq_getElem (List.mem_range.mp hi)
    obtain ⟨name, hitem⟩ := exists_mem_inputs hcall ht
    obtain ⟨f, hf, -⟩ := h.exists_filling hpending hitem
    exact Option.isSome_iff_exists.mpr ⟨f, hf⟩
  rw [driverCall?, hfillings]
  rfl

/-- Every seed of a finished branch is found. -/
theorem Coherent.isSome_seedPoint? (h : b.Coherent ok target) (hpending : b.pending = [])
    {index : Nat} {slot : Slot} (hslot : b.seeds[index]? = some slot) :
    (b.seedPoint? index slot).isSome = true := by
  obtain ⟨item, hitem, rfl, -⟩ := h.filling?_of_seed hpending hslot
  simp [seedPoint?, (mem_inputsOf.mp hitem).1, inputType_of_mem_inputs hitem]

/-- A finished branch becomes a driver: no lookup fails. -/
theorem Coherent.isSome_driver? (h : b.Coherent ok target) (hpending : b.pending = []) :
    (b.driver? target).isSome = true := by
  unfold driver?
  refine isSome_bind_of_exists (exists_mapM_eq_some fun entry hentry => ?_) fun calls =>
    isSome_bind_of_exists (exists_mapM_eq_some fun entry hentry => ?_) fun seeds => rfl
  · obtain ⟨id, hid⟩ := List.mem_iff_getElem?.mp (List.mem_reverse.mp hentry)
    obtain ⟨⟨node, depth⟩, hcall, rfl⟩ :=
      Option.map_eq_some_iff.mp (List.getElem?_mapIdx .. ▸ hid)
    exact h.isSome_driverCall? hpending hcall
  · obtain ⟨index, hindex⟩ := List.mem_iff_getElem?.mp hentry
    obtain ⟨slot, hslot, rfl⟩ := Option.map_eq_some_iff.mp (List.getElem?_mapIdx .. ▸ hindex)
    exact h.isSome_seedPoint? hpending hslot

/-- Every seed of what a finished branch becomes has a layout, if seeds fill only inputs that
they can fill. -/
theorem Becomes.isSome_layout (hbecomes : b.Becomes target d) (h : b.Coherent ok target)
    (hpending : b.pending = []) (hseed : ∀ {item}, ok item none → item.type.isFuzzable = true)
    {point : SeedPoint} (hpoint : point ∈ d.seeds) : point.layout.isSome = true := by
  obtain ⟨index, hindex⟩ := List.mem_iff_getElem?.mp hpoint
  obtain ⟨slot, node, depth, type, hslot, hcall, htype, rfl⟩ := hbecomes.seed hindex
  obtain ⟨item, hitem, rfl, hfilling⟩ := h.filling?_of_seed hpending hslot
  obtain ⟨f, hf, hfills⟩ := h.exists_filling hpending hitem
  obtain rfl : f = .seed index := Option.some.inj (hf.symm.trans hfilling)
  -- the seed has the type of the input that it fills
  obtain ⟨rfl, -⟩ := Prod.mk.inj (Option.some.inj (hcall.symm.trans (mem_inputsOf.mp hitem).1))
  obtain rfl : type = item.type :=
    Option.some.inj (htype.symm.trans (inputType_of_mem_inputs hitem))
  exact (Ty.isSome_seedLayout _).trans (hseed hfills.1)

theorem Coherent.exists_driver (h : b.Coherent ok target) (hpending : b.pending = []) :
    ∃ d, b.driver? target = some d ∧ b.Becomes target d := by
  obtain ⟨d, hd⟩ := Option.isSome_iff_exists.mp (h.isSome_driver? hpending)
  exact ⟨d, hd, becomes_of_driver? hd⟩

end Branch

/-! ## The drivers of a search -/

namespace SearchSettings

variable (settings : SearchSettings) (graph : Graph) (target : Node)

/-- The accepted branches of a search are finished and have grown from its target by what
the graph offers. -/
theorem grown_of_mem_accepted {b : Branch} (hb : b ∈ (settings.search graph target).accepted) :
    b.Grown graph.Offers target ∧ b.pending = [] := by
  obtain ⟨last, hlast, -, hfinal⟩ := exists_reaches_final settings graph target
  rw [accepted_search, hfinal, conclude_accepted] at hb
  exact hlast.grown.2.2 b hb

/-- Finished branches that grew from the target are drivers: none is lost when they are written. -/
theorem map_driver?_of_grown {branches : List Branch}
    (h : ∀ b ∈ branches, b.Grown graph.Offers target ∧ b.pending = []) :
    branches.map (·.driver? target) = (branches.filterMap (·.driver? target)).map some := by
  induction branches with
  | nil => rfl
  | cons b bs ih =>
      obtain ⟨⟨hgrown, hpending⟩, hrest⟩ := List.forall_mem_cons.mp h
      obtain ⟨d, hd, -⟩ := hgrown.coherent.exists_driver hpending
      simp [hd, ih hrest]

/-- Every accepted branch is a driver: none is lost when drivers are written. -/
theorem map_driver?_accepted :
    (settings.search graph target).accepted.map (·.driver? target) =
      (settings.search graph target).drivers.map some :=
  map_driver?_of_grown graph target fun _ hb => settings.grown_of_mem_accepted graph target hb

theorem length_drivers :
    (settings.search graph target).drivers.length =
      (settings.search graph target).accepted.length := by
  have hlength := congrArg List.length (settings.map_driver?_accepted graph target)
  rw [List.length_map, List.length_map] at hlength
  exact hlength.symm

/-- A driver of a search is what an accepted branch becomes. -/
theorem exists_becomes_of_mem_drivers {d : Driver} (hd : d ∈ (settings.search graph target).drivers) :
    ∃ b : Branch, (b.Grown graph.Offers target ∧ b.pending = []) ∧ b.Becomes target d := by
  obtain ⟨b, hb, hdriver⟩ := List.mem_filterMap.mp hd
  exact ⟨b, settings.grown_of_mem_accepted graph target hb, Branch.becomes_of_driver? hdriver⟩

/-- Every seed of a driver has a layout. -/
theorem isSome_layout_of_mem_drivers {d : Driver} (hd : d ∈ (settings.search graph target).drivers)
    {point : SeedPoint} (hpoint : point ∈ d.seeds) : point.layout.isSome = true := by
  obtain ⟨b, ⟨hgrown, hpending⟩, hbecomes⟩ := settings.exists_becomes_of_mem_drivers graph target hd
  exact hbecomes.isSome_layout hgrown.coherent hpending (fun hok => hok) hpoint

/-- So it has an exported form. -/
theorem isSome_toJson?_of_mem_drivers {d : Driver}
    (hd : d ∈ (settings.search graph target).drivers) : d.toJson?.isSome = true := by
  refine isSome_bind_of_exists (exists_mapM_eq_some fun point hpoint => ?_) fun _ => rfl
  rw [SeedPoint.toJson?, Option.isSome_map]
  exact settings.isSome_layout_of_mem_drivers graph target hd hpoint

end SearchSettings
end FuzzSynth
