/-
Drivers are well typed.

`Driver.IsTyped` says what makes a driver one that can be compiled: it is valid, each
binding of each call gives a value of the type of its input, and each seed is taken by
exactly one input.  `isTyped_of_mem_drivers` says that a search gives no other drivers,
on any graph of concrete instances.

The argument is about one branch.  What fills its slots is known from its growth, and a
driver is its branch turned around: call number `id` stands at the place that is counted
from the end, for the calls as for the bindings and the seeds that name them.
-/
import FuzzSynth.Proofs.Search.Finish

namespace FuzzSynth

namespace Driver

/-- The binding of an input of the call at some place. -/
def bindingAt? (d : Driver) (p i : Nat) : Option Binding :=
  d.calls[p]?.bind fun c => c.bindings[i]?

/-- The binding gives a value of the type `wanted` to input `i` of the call at place `p`. -/
def Gives (d : Driver) (p i : Nat) (wanted : Ty) : Binding → Prop
  | .call index adapter => ∃ k : Nat, index = k ∧ ∃ producer, d.calls[k]? = some producer ∧
      adapter.Fits producer.node.api.output wanted ∧ producer.node.api.output.isUnit = false
  | .seed index => ∃ k : Nat, index = k ∧
      d.seeds[k]? = some ⟨k, wanted, p, i, wanted.seedLayout⟩ ∧
      wanted.isFuzzable = true ∧ wanted.seedLayout.isSome = true

/-- A valid driver whose bindings all give what their inputs take. -/
structure IsTyped (d : Driver) : Prop where
  valid : d.isValid = true
  gives {p i : Nat} {c : DriverCall} {binding : Binding} (hc : d.calls[p]? = some c)
    (hbinding : c.bindings[i]? = some binding) :
    ∃ wanted, c.node.api.inputTypes[i]? = some wanted ∧ d.Gives p i wanted binding
  seed_once {k : Nat} (hk : k < d.seeds.length) :
    ∃! place : Nat × Nat, d.bindingAt? place.1 place.2 = some (.seed k)

/-- A seed that gives what an input takes says which input that is. -/
theorem Gives.eq_of_seed {d : Driver} {k p q i j : Nat} {wanted other : Ty}
    (h : d.Gives p i wanted (.seed k)) (h' : d.Gives q j other (.seed k)) : (p, i) = (q, j) := by
  obtain ⟨n, hn, hpoint, -⟩ := h
  obtain ⟨m, hm, hpoint', -⟩ := h'
  obtain rfl : n = m := by omega
  have heq := SeedPoint.mk.inj (Option.some.inj (hpoint.symm.trans hpoint'))
  obtain ⟨-, -, hp, hi, -⟩ := heq
  rw [Int.ofNat.inj hp, Int.ofNat.inj hi]

end Driver

namespace Branch

variable {ok : Pending → Option Edge → Prop} {target : Node} {b : Branch} {d : Driver}

/-! ## Places -/

/-- The call of the driver that a call of the branch becomes. -/
theorem Becomes.exists_call (h : b.Becomes target d) {id depth : Nat} {node : Node}
    (hcall : b.calls[id]? = some (node, depth)) :
    ∃ c, d.calls[b.calls.length - 1 - id]? = some c ∧ c.node = node ∧
      c.bindings.length = node.api.inputTypes.length ∧
      ∀ {i binding}, c.bindings[i]? = some binding →
        ∃ f, b.filling? ⟨id, i⟩ = some f ∧ binding = b.bindingOf f := by
  -- the driver has as many calls, in the opposite order
  have hid := (List.getElem?_eq_some_iff.mp hcall).1
  have hp : b.calls.length - 1 - id < d.calls.length := by
    rw [h.length_calls]
    omega
  have hc := List.getElem?_eq_getElem hp
  obtain ⟨id', depth', hplace, hcall', hlength, hbinding⟩ := h.call hc
  obtain rfl : id' = id := by omega
  obtain ⟨hnode, -⟩ := Prod.mk.inj (Option.some.inj (hcall'.symm.trans hcall))
  exact ⟨_, hc, hnode, hnode ▸ hlength, hbinding⟩

/-- Each binding of the driver is what fills an input of the branch. -/
theorem Becomes.exists_input (hbecomes : b.Becomes target d) (h : b.Coherent ok target)
    (hpending : b.pending = []) {p i : Nat} {c : DriverCall} {binding : Binding}
    (hc : d.calls[p]? = some c) (hbinding : c.bindings[i]? = some binding) :
    ∃ item ∈ b.inputs, item.consumer = c.node ∧ item.slot.input = i ∧
      p + item.slot.call + 1 = b.calls.length ∧
      ∃ f, b.Fills ok item f ∧ binding = b.bindingOf f := by
  obtain ⟨id, depth, hplace, hcall, hlength, hbindings⟩ := hbecomes.call hc
  obtain ⟨f, hf, rfl⟩ := hbindings hbinding
  have hi : i < c.node.api.inputTypes.length :=
    hlength ▸ (List.getElem?_eq_some_iff.mp hbinding).1
  obtain ⟨name, hitem⟩ := exists_mem_inputs hcall (List.getElem?_eq_getElem hi)
  obtain ⟨g, hg, hfills⟩ := h.exists_filling hpending hitem
  obtain rfl : f = g := Option.some.inj (hf.symm.trans hg)
  exact ⟨_, hitem, rfl, rfl, hplace, f, hfills, rfl⟩

theorem position_of_lt {id : Nat} (h : id < b.calls.length) :
    b.position id = ((b.calls.length - 1 - id : Nat) : Int) := by
  unfold position
  omega

/-! ## Validity -/

/-- What fills an input is defined before the call that takes it. -/
theorem Fills.isDefined {item : Pending} {f : Filling} {p : Nat} (hfills : b.Fills ok item f)
    (hplace : p + item.slot.call + 1 = b.calls.length) :
    (b.bindingOf f).isDefined p b.seeds.length = true := by
  cases f with
  | seed index =>
      have hlt := (List.getElem?_eq_some_iff.mp hfills.2).1
      simp only [bindingOf, Binding.isDefined, Bool.and_eq_true, decide_eq_true_eq]
      omega
  | call id adapter =>
      -- a producer was added after its consumer, so it stands in front of it
      obtain ⟨e, -, -, hcall, hlt⟩ := hfills
      have hid := (List.getElem?_eq_some_iff.mp hcall).1
      simp only [bindingOf, Binding.isDefined, position_of_lt hid, Bool.and_eq_true,
        decide_eq_true_eq]
      omega

/-- What a finished branch becomes is valid. -/
theorem Becomes.isValid (hbecomes : b.Becomes target d) (h : b.Coherent ok target)
    (hpending : b.pending = []) : d.isValid = true := by
  rw [Driver.isValid, Bool.and_eq_true]
  constructor
  · -- the target is call number zero of the branch, so it stands at the last place
    obtain ⟨c, hc, hnode, -⟩ := hbecomes.exists_call h.head
    have hlast : d.calls.getLast? = some c := by
      rw [List.getLast?_eq_getElem?, hbecomes.length_calls]
      simpa using hc
    rw [hlast, Option.any_some, hnode, hbecomes.target_eq, beq_self_eq_true]
  · refine List.all_eq_true.mpr fun valid hvalid => ?_
    obtain ⟨p, hp⟩ := List.mem_iff_getElem?.mp hvalid
    obtain ⟨c, hc, rfl⟩ := Option.map_eq_some_iff.mp (List.getElem?_mapIdx .. ▸ hp)
    obtain ⟨id, depth, -, -, hlength, -⟩ := hbecomes.call hc
    rw [id_eq, Driver.callIsValid, hlength, beq_self_eq_true, Bool.true_and, List.all_eq_true]
    intro binding hbinding
    obtain ⟨i, hi⟩ := List.mem_iff_getElem?.mp hbinding
    obtain ⟨item, -, -, -, hplace, f, hfills, rfl⟩ := hbecomes.exists_input h hpending hc hi
    rw [hbecomes.length_seeds]
    exact hfills.isDefined hplace

/-! ## Types -/

/-- The calls of a branch have every property that passes along the edges it grew by. -/
theorem Grown.forall_call {P : Node → Prop} (h : b.Grown ok target) (htarget : P target)
    (hedge : ∀ {item e}, P item.consumer → ok item (some e) → P e.producer) :
    ∀ c ∈ b.calls, P c.1 := by
  induction h with
  | root =>
      intro c hc
      obtain rfl := List.mem_singleton.mp hc
      exact htarget
  | @fill b id item later choice h hpending hok ih =>
      cases choice with
      | none => exact ih
      | some e =>
          -- the consumer is a call of the branch, so the edge leads from one that has `P`
          have hitem : item ∈ b.pending := by
            rw [hpending]
            exact List.mem_cons_self
          have hconsumer :=
            (mem_inputsOf.mp (h.coherent.mem_inputs_of_pending hitem)).1
          intro c hc
          rcases List.mem_append.mp hc with hc | hc
          · exact ih c hc
          · obtain rfl := List.mem_singleton.mp hc
            exact hedge (ih _ (List.mem_of_getElem? hconsumer)) hok

/-- What fills an input gives a value of its type, if the edges that are allowed do. -/
theorem Becomes.gives (hbecomes : b.Becomes target d)
    (hseed : ∀ {item}, item ∈ b.inputs → ok item none → item.type.isFuzzable = true)
    (hedge : ∀ {item e}, item ∈ b.inputs → ok item (some e) →
      e.adapter.Fits e.producer.api.output item.type ∧ e.producer.api.output.isUnit = false)
    {item : Pending} {f : Filling} {p : Nat} (hitem : item ∈ b.inputs) (hfills : b.Fills ok item f)
    (hplace : p + item.slot.call + 1 = b.calls.length) :
    d.Gives p item.slot.input item.type (b.bindingOf f) := by
  cases f with
  | call id adapter =>
      obtain ⟨e, hok, rfl, hcall, -⟩ := hfills
      have hid := (List.getElem?_eq_some_iff.mp hcall).1
      obtain ⟨c, hc, hnode, -⟩ := hbecomes.exists_call hcall
      refine ⟨b.calls.length - 1 - id, position_of_lt hid, c, hc, ?_⟩
      rw [hnode]
      exact hedge hitem hok
  | seed index =>
      -- the seed point was made from the slot that this seed is kept for
      have hfuzz := hseed hitem hfills.1
      have hlt := (List.getElem?_eq_some_iff.mp hfills.2).1
      have hpoint := List.getElem?_eq_getElem (hbecomes.length_seeds ▸ hlt)
      obtain ⟨slot, node, depth, type, hslot, hcall, htype, heq⟩ := hbecomes.seed hpoint
      obtain rfl : slot = item.slot := Option.some.inj (hslot.symm.trans hfills.2)
      have hconsumer := (mem_inputsOf.mp hitem).1
      obtain ⟨rfl, -⟩ := Prod.mk.inj (Option.some.inj (hcall.symm.trans hconsumer))
      obtain rfl : type = item.type :=
        Option.some.inj (htype.symm.trans (inputType_of_mem_inputs hitem))
      have hposition : b.position item.slot.call = (p : Int) := by
        rw [position_of_lt (by omega)]
        omega
      refine ⟨index, rfl, ?_, hfuzz, (Ty.isSome_seedLayout _).trans hfuzz⟩
      rw [hpoint, heq, hposition]

/-- What fills an input of the branch is what the call of the driver takes for it. -/
theorem Becomes.exists_call_of_filling (hbecomes : b.Becomes target d) {item : Pending}
    {f : Filling} (hitem : item ∈ b.inputs) (hfilling : b.filling? item.slot = some f) :
    ∃ c, d.calls[b.calls.length - 1 - item.slot.call]? = some c ∧ c.node = item.consumer ∧
      c.bindings[item.slot.input]? = some (b.bindingOf f) := by
  obtain ⟨c, hc, hnode, hlength, hbindings⟩ := hbecomes.exists_call (mem_inputsOf.mp hitem).1
  have hi : item.slot.input < c.bindings.length := by
    rw [hlength]
    exact (List.getElem?_eq_some_iff.mp (inputType_of_mem_inputs hitem)).1
  obtain ⟨f', hf', hbinding⟩ := hbindings (List.getElem?_eq_getElem hi)
  obtain rfl : f' = f := Option.some.inj (hf'.symm.trans hfilling)
  exact ⟨c, hc, hnode, by rw [List.getElem?_eq_getElem hi, hbinding]⟩

/-- Each seed of the driver is taken by an input. -/
theorem Becomes.exists_seed_place (hbecomes : b.Becomes target d) (h : b.Coherent ok target)
    (hpending : b.pending = []) {k : Nat} (hk : k < d.seeds.length) :
    ∃ p i, d.bindingAt? p i = some (.seed k) := by
  have hslot := List.getElem?_eq_getElem (hbecomes.length_seeds ▸ hk : k < b.seeds.length)
  obtain ⟨item, hitem, heq, hfilling⟩ := h.filling?_of_seed hpending hslot
  rw [← heq] at hfilling
  obtain ⟨c, hc, -, hbinding⟩ := hbecomes.exists_call_of_filling hitem hfilling
  refine ⟨b.calls.length - 1 - item.slot.call, item.slot.input, ?_⟩
  rw [Driver.bindingAt?, hc]
  exact hbinding

end Branch

/-! ## The drivers of a search -/

namespace SearchSettings

variable {instances : List Instance} {choice : AdapterChoice} {target : Node} {b : Branch}

/-- The calls of a branch that grows in the graph of some instances are nodes of it. -/
theorem mem_nodes_of_grown (htarget : target ∈ (Graph.build choice instances).nodes)
    (h : b.Grown (Graph.build choice instances).Offers target) :
    ∀ c ∈ b.calls, c.1 ∈ nodesOf instances :=
  h.forall_call htarget fun hconsumer hedge =>
    Graph.producer_mem_of_mem_producersFor hconsumer hedge

/-- The calls of the drivers that are found in the graph of some instances are nodes of it. -/
theorem mem_nodes_of_mem_drivers (htarget : target ∈ (Graph.build choice instances).nodes)
    {settings : SearchSettings} {d : Driver}
    (hd : d ∈ (settings.search (Graph.build choice instances) target).drivers) :
    ∀ c ∈ d.calls, c.node ∈ nodesOf instances := by
  intro c hc
  obtain ⟨b, ⟨hgrown, -⟩, hbecomes⟩ := settings.exists_becomes_of_mem_drivers _ target hd
  obtain ⟨p, hp⟩ := List.mem_iff_getElem?.mp hc
  obtain ⟨id, depth, -, hcall, -⟩ := hbecomes.call hp
  exact mem_nodes_of_grown htarget hgrown _ (List.mem_of_getElem? hcall)

/-- Every accepted branch of a search among concrete instances is a driver for its target,
and every driver is well typed. -/
theorem isTyped_of_mem_drivers (hconcrete : ∀ m ∈ instances, m.IsConcrete)
    (htarget : target ∈ (Graph.build choice instances).nodes) (settings : SearchSettings) :
    (settings.search (Graph.build choice instances) target).accepted.map (·.driver? target) =
        (settings.search (Graph.build choice instances) target).drivers.map some ∧
      ∀ d ∈ (settings.search (Graph.build choice instances) target).drivers,
        d.target = target ∧ d.IsTyped := by
  refine ⟨settings.map_driver?_accepted _ target, fun d hd => ?_⟩
  obtain ⟨b, ⟨hgrown, hpending⟩, hbecomes⟩ := settings.exists_becomes_of_mem_drivers _ target hd
  have h := hgrown.coherent
  have hnode : ∀ {item}, item ∈ b.inputs → item.consumer ∈ nodesOf instances := fun hitem =>
    mem_nodes_of_grown htarget hgrown _ (List.mem_of_getElem? (Branch.mem_inputsOf.mp hitem).1)
  -- every binding gives what its input takes
  have hgives : ∀ {p i c binding}, d.calls[p]? = some c → c.bindings[i]? = some binding →
      ∃ wanted, c.node.api.inputTypes[i]? = some wanted ∧ d.Gives p i wanted binding := by
    intro p i c binding hc hbinding
    obtain ⟨item, hitem, hc, rfl, hplace, f, hfills, rfl⟩ :=
      hbecomes.exists_input h hpending hc hbinding
    refine ⟨item.type, hc ▸ Branch.inputType_of_mem_inputs hitem, ?_⟩
    refine hbecomes.gives (fun _ hok => hok) (fun hitem hok => ?_) hitem hfills hplace
    exact Graph.fits_of_mem_producersFor hconcrete (hnode hitem) hok
      (Branch.inputType_of_mem_inputs hitem)
  refine ⟨hbecomes.target_eq, hbecomes.isValid h hpending, hgives, fun hk => ?_⟩
  -- a seed point names its input, so two inputs with one seed are the same
  obtain ⟨p, i, hplace⟩ := hbecomes.exists_seed_place h hpending hk
  refine ⟨(p, i), hplace, fun other hother => ?_⟩
  obtain ⟨c, hc, hbinding⟩ := Option.bind_eq_some_iff.mp hplace
  obtain ⟨c', hc', hbinding'⟩ := Option.bind_eq_some_iff.mp hother
  obtain ⟨wanted, -, hseed⟩ := hgives hc hbinding
  obtain ⟨wanted', -, hseed'⟩ := hgives hc' hbinding'
  exact hseed'.eq_of_seed hseed

/-! ### A small case -/

/-- `make() -> Widget`, which makes what `feed` takes. -/
def makeWidget : Instance :=
  let make : Signature := ⟨"make", [], [], .named "Widget" []⟩
  ⟨make, .empty, make⟩

/-- `feed(widget: &Widget, level: u8)`, which takes a widget and a seed. -/
def feedWidget : Instance :=
  let feed : Signature :=
    ⟨"feed", [], [("widget", .ref (.named "Widget" [])), ("level", .named "u8" [])], .unit⟩
  ⟨feed, .empty, feed⟩

theorem isConcrete_widgets : ∀ m ∈ [makeWidget, feedWidget], m.IsConcrete := by
  have hwidget : (Ty.named "Widget" []).IsConcrete := .named (by simp)
  intro m hm t ht
  simp only [List.mem_cons, List.not_mem_nil, or_false] at hm
  rcases hm with rfl | rfl
  · simp only [makeWidget, Signature.types, Signature.inputTypes, List.map_nil, List.nil_append,
      List.mem_singleton] at ht
    rw [ht]
    exact hwidget
  · simp only [feedWidget, Signature.types, Signature.inputTypes, List.map_cons, List.map_nil,
      List.cons_append, List.nil_append, List.mem_cons, List.not_mem_nil, or_false] at ht
    rcases ht with rfl | rfl | rfl
    · exact .ref hwidget
    · exact .named (by simp)
    · exact .tuple (by simp)

/-- There is a driver for `feed`, and it is well typed. -/
theorem isTyped_of_mem_drivers_feedWidget :
    (∀ m ∈ [makeWidget, feedWidget], m.IsConcrete) ∧
      ⟨1, feedWidget⟩ ∈ (Graph.build ⟨true, true⟩ [makeWidget, feedWidget]).nodes ∧
      ∃ d, (search ⟨3, 10, 4, 8, 100, .diversity, true, true⟩
        (Graph.build ⟨true, true⟩ [makeWidget, feedWidget]) ⟨1, feedWidget⟩).drivers = [d] ∧
          d.target = ⟨1, feedWidget⟩ ∧ d.IsTyped := by
  have htarget : ⟨1, feedWidget⟩ ∈ (Graph.build ⟨true, true⟩ [makeWidget, feedWidget]).nodes := by
    decide +kernel
  have hone : (search ⟨3, 10, 4, 8, 100, .diversity, true, true⟩
      (Graph.build ⟨true, true⟩ [makeWidget, feedWidget]) ⟨1, feedWidget⟩).drivers.length = 1 := by
    decide +kernel
  obtain ⟨d, hd⟩ := List.length_eq_one_iff.mp hone
  refine ⟨isConcrete_widgets, htarget, d, hd, ?_⟩
  exact (isTyped_of_mem_drivers isConcrete_widgets htarget _).2 d (hd ▸ List.mem_singleton_self d)

end SearchSettings
end FuzzSynth
