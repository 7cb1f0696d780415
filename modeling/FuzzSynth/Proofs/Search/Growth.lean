/-
How branches grow.

`Branch.Grown ok target` are the branches that grow from the call of the target by
filling, each time, the input in front of the queue: by a new call of the producer of an
edge, or by a seed, as far as `ok` allows it.  Every branch of a search grows like that
(`Reaches.grown`), whatever the caps and the order of producers.

`Branch.Coherent` is what such growth keeps.  All inputs of all calls stand in one row,
in the order in which their calls were made; the bindings fill a first part of the row
and the queue is the rest.  Each binding fills its input in a way that `ok` allows, and
bindings to calls and to seeds name the calls below the target and the seeds in turn.
-/
import Mathlib.Data.List.Forall2
import Mathlib.Data.List.Induction
import FuzzSynth.Proofs.Graph.Producers
import FuzzSynth.Proofs.Search.Trace
import FuzzSynth.Proofs.Sequence

namespace FuzzSynth

namespace Filling

/-- The call that a filling takes the value from. -/
def call? : Filling → Option Nat
  | seed _ => none
  | call id _ => some id

/-- The seed that a filling takes the value from. -/
def seed? : Filling → Option Nat
  | seed index => some index
  | call _ _ => none

@[simp] theorem call?_seed (index : Nat) : (seed index).call? = none := rfl

@[simp] theorem call?_call (id : Nat) (a : Adapter) : (call id a).call? = some id := rfl

@[simp] theorem seed?_seed (index : Nat) : (seed index).seed? = some index := rfl

@[simp] theorem seed?_call (id : Nat) (a : Adapter) : (call id a).seed? = none := rfl

end Filling

namespace Branch

/-! ## The inputs of a branch -/

/-- The inputs of calls that were made in this order. -/
def inputsOf (calls : List (Node × Nat)) : List Pending :=
  (calls.mapIdx fun id c => Pending.ofCall id c.1 c.2).flatten

/-- Every input of every call of a branch, in the order in which it came into the queue. -/
def inputs (b : Branch) : List Pending :=
  inputsOf b.calls

@[simp] theorem inputsOf_concat (calls : List (Node × Nat)) (c : Node × Nat) :
    inputsOf (calls ++ [c]) = inputsOf calls ++ Pending.ofCall calls.length c.1 c.2 := by
  simp [inputsOf, List.mapIdx_append]

@[simp] theorem length_ofCall (id depth : Nat) (node : Node) :
    (Pending.ofCall id node depth).length = node.api.inputTypes.length := by
  simp [Pending.ofCall, Instance.inputTypes, Signature.inputTypes, Instance.inputs]

theorem mem_ofCall {id depth : Nat} {node : Node} {item : Pending} :
    item ∈ Pending.ofCall id node depth ↔
      (item.slot.call = id ∧ item.consumer = node ∧ item.depth = depth) ∧
        node.api.inputs[item.slot.input]? = some (item.name, item.type) := by
  obtain ⟨⟨call, input⟩, consumer, name, type, d⟩ := item
  simp only [Pending.ofCall, List.mem_iff_getElem?, List.getElem?_mapIdx, Option.map_eq_some_iff,
    Pending.mk.injEq, Slot.mk.injEq]
  constructor
  · rintro ⟨i, ⟨n, t⟩, hi, ⟨rfl, rfl⟩, rfl, rfl, rfl, rfl⟩
    exact ⟨⟨rfl, rfl, rfl⟩, hi⟩
  · rintro ⟨⟨rfl, rfl, rfl⟩, hi⟩
    exact ⟨input, (name, type), hi, ⟨rfl, rfl⟩, rfl, rfl, rfl, rfl⟩

/-- The inputs of a call stand in their order. -/
theorem slot_getElem_ofCall {id depth i : Nat} {node : Node}
    (hi : i < (Pending.ofCall id node depth).length) :
    (Pending.ofCall id node depth)[i].slot = ⟨id, i⟩ := by
  simp [Pending.ofCall]

/-- The inputs of a branch are the inputs of its calls. -/
theorem mem_inputsOf {calls : List (Node × Nat)} {item : Pending} :
    item ∈ inputsOf calls ↔
      calls[item.slot.call]? = some (item.consumer, item.depth) ∧
        item.consumer.api.inputs[item.slot.input]? = some (item.name, item.type) := by
  simp only [inputsOf, List.mem_flatten, List.mem_iff_getElem? (l := List.mapIdx _ _),
    List.getElem?_mapIdx, Option.map_eq_some_iff]
  constructor
  · rintro ⟨_, ⟨id, ⟨node, depth⟩, hc, rfl⟩, hitem⟩
    obtain ⟨⟨rfl, rfl, rfl⟩, hinput⟩ := mem_ofCall.mp hitem
    exact ⟨hc, hinput⟩
  · rintro ⟨hc, hinput⟩
    exact ⟨_, ⟨_, _, hc, rfl⟩, mem_ofCall.mpr ⟨⟨rfl, rfl, rfl⟩, hinput⟩⟩

/-- No two inputs of a branch have the same slot. -/
theorem nodup_slots (calls : List (Node × Nat)) :
    ((inputsOf calls).map Pending.slot).Nodup := by
  induction calls using List.reverseRecOn with
  | nil => simp [inputsOf]
  | append_singleton calls c ih =>
      -- the inputs of the last call have its number, which no earlier call has
      rw [inputsOf_concat, List.map_append]
      refine ih.append ?_ fun slot hold hnew => ?_
      · have hslots : (Pending.ofCall calls.length c.1 c.2).map Pending.slot =
            (List.range c.1.api.inputs.length).map (Slot.mk calls.length) := by
          apply List.ext_getElem?
          intro i
          by_cases h : i < c.1.api.inputs.length <;> simp [Pending.ofCall, h]
        rw [hslots]
        exact List.nodup_range.map fun i j h => (Slot.mk.inj h).2
      · obtain ⟨item, hitem, rfl⟩ := List.mem_map.mp hold
        obtain ⟨other, hother, heq⟩ := List.mem_map.mp hnew
        have hlt := (List.getElem?_eq_some_iff.mp (mem_inputsOf.mp hitem).1).1
        have hid := (mem_ofCall.mp hother).1.1
        rw [heq] at hid
        omega

/-! ## Growth -/

/-- Fills the input in front of the queue `later` by the producer of an edge, or by a seed
if there is no edge. -/
def fill (b : Branch) (id : Nat) (item : Pending) (later : List Pending) : Option Edge → Branch
  | none => b.withSeed id item later
  | some e => b.withProducer id item later e

/-- The branches that grow from the call of a target when `ok` says which inputs may be
filled by a seed (`none`) and by which edges. -/
inductive Grown (ok : Pending → Option Edge → Prop) (target : Node) : Branch → Prop
  | root : Grown ok target (.root target)
  | fill {b : Branch} {id : Nat} {item : Pending} {later : List Pending} {choice : Option Edge}
      (h : Grown ok target b) (hpending : b.pending = item :: later) (hok : ok item choice) :
      Grown ok target (b.fill id item later choice)

/-- What fills an input of a branch is there, and `ok` allows it. -/
def Fills (ok : Pending → Option Edge → Prop) (b : Branch) (item : Pending) : Filling → Prop
  | .seed index => ok item none ∧ b.seeds[index]? = some item.slot
  | .call id adapter => ∃ e, ok item (some e) ∧ e.adapter = adapter ∧
      b.calls[id]? = some (e.producer, item.depth + 1) ∧ item.slot.call < id

/-- What growth keeps. -/
structure Coherent (ok : Pending → Option Edge → Prop) (target : Node) (b : Branch) : Prop where
  head : b.calls[0]? = some (target, 0)
  /-- The bindings fill the inputs in front of the queue. -/
  row : ∃ filled, b.inputs = filled ++ b.pending ∧
    List.Forall₂ (fun item binding => binding.1 = item.slot ∧ b.Fills ok item binding.2)
      filled b.bindings
  /-- Each call below the target fills one input. -/
  callIds : b.bindings.filterMap (fun binding => binding.2.call?) =
    List.range' 1 (b.calls.length - 1)
  /-- Each seed fills one input. -/
  seedIds : b.bindings.filterMap (fun binding => binding.2.seed?) = List.range b.seeds.length

variable {ok : Pending → Option Edge → Prop} {target : Node} {b : Branch}

theorem coherent_root : (root target).Coherent ok target where
  head := rfl
  row := ⟨[], by simp [inputs, inputsOf, root], .nil⟩
  callIds := rfl
  seedIds := rfl

theorem Coherent.length_pos (h : b.Coherent ok target) : 0 < b.calls.length :=
  (List.getElem?_eq_some_iff.mp h.head).1

/-- A pending input is an input of a call of the branch. -/
theorem Coherent.mem_inputs_of_pending (h : b.Coherent ok target) {item : Pending}
    (hitem : item ∈ b.pending) : item ∈ b.inputs := by
  obtain ⟨filled, hrow, -⟩ := h.row
  rw [hrow]
  exact List.mem_append_right _ hitem

/-- Each binding of a branch fills one of its inputs. -/
theorem Coherent.exists_item (h : b.Coherent ok target) {binding : Slot × Filling}
    (hbinding : binding ∈ b.bindings) :
    ∃ item ∈ b.inputs, binding.1 = item.slot ∧ b.Fills ok item binding.2 := by
  obtain ⟨filled, hrow, hfilled⟩ := h.row
  obtain ⟨item, hitem, hfills⟩ := Sequence.exists_left_of_forall₂ hfilled hbinding
  refine ⟨item, ?_, hfills⟩
  rw [hrow]
  exact List.mem_append_left _ hitem

/-- Each call below the target stands in a binding. -/
theorem Coherent.exists_binding_of_call (h : b.Coherent ok target) {id : Nat} (hpos : 0 < id)
    (hlt : id < b.calls.length) : ∃ binding ∈ b.bindings, binding.2.call? = some id := by
  have hid : id ∈ b.bindings.filterMap fun binding => binding.2.call? := by
    rw [h.callIds, List.mem_range'_1]
    omega
  exact List.mem_filterMap.mp hid

/-- Each seed stands in the binding of the slot that it is kept for. -/
theorem Coherent.mem_bindings_of_seed (h : b.Coherent ok target) {index : Nat} {slot : Slot}
    (hslot : b.seeds[index]? = some slot) : (slot, .seed index) ∈ b.bindings := by
  -- each number of a seed stands in some binding
  have hindex : index ∈ b.bindings.filterMap fun binding => binding.2.seed? := by
    rw [h.seedIds, List.mem_range]
    exact (List.getElem?_eq_some_iff.mp hslot).1
  obtain ⟨⟨s, f⟩, hbinding, hf⟩ := List.mem_filterMap.mp hindex
  obtain rfl : f = .seed index := by cases f <;> simp_all
  -- and the seed is kept for the input that this binding fills
  obtain ⟨item, -, rfl, hfills⟩ := h.exists_item hbinding
  obtain rfl : slot = item.slot := Option.some.inj (hslot.symm.trans hfills.2)
  exact hbinding

/-- What fills an input still does so when calls and seeds are added behind the others. -/
theorem Fills.mono {c : Branch} {item : Pending} {f : Filling} {calls : List (Node × Nat)}
    {seeds : List Slot} (hcalls : c.calls = b.calls ++ calls) (hseeds : c.seeds = b.seeds ++ seeds)
    (h : b.Fills ok item f) : c.Fills ok item f := by
  cases f with
  | seed index =>
      refine ⟨h.1, ?_⟩
      rw [hseeds, List.getElem?_append_left (List.getElem?_eq_some_iff.mp h.2).1]
      exact h.2
  | call id adapter =>
      obtain ⟨e, hok, hadapter, hcall, hlt⟩ := h
      refine ⟨e, hok, hadapter, ?_, hlt⟩
      rw [hcalls, List.getElem?_append_left (List.getElem?_eq_some_iff.mp hcall).1]
      exact hcall

/-- The row of inputs after one more of them is filled. -/
theorem row_concat {c : Branch} {item : Pending} {later new filled : List Pending} {f : Filling}
    {calls : List (Node × Nat)} {seeds : List Slot}
    (hrow : b.inputs = filled ++ b.pending)
    (hfilled : List.Forall₂ (fun item binding => binding.1 = item.slot ∧ b.Fills ok item binding.2)
      filled b.bindings)
    (hpending : b.pending = item :: later) (hcalls : c.calls = b.calls ++ calls)
    (hseeds : c.seeds = b.seeds ++ seeds) (hinputs : c.inputs = b.inputs ++ new)
    (hqueue : c.pending = later ++ new) (hbindings : c.bindings = b.bindings ++ [(item.slot, f)])
    (hf : c.Fills ok item f) :
    ∃ filled, c.inputs = filled ++ c.pending ∧
      List.Forall₂ (fun item binding => binding.1 = item.slot ∧ c.Fills ok item binding.2)
        filled c.bindings := by
  refine ⟨filled ++ [item], ?_, ?_⟩
  · rw [hinputs, hrow, hpending, hqueue]
    simp
  · rw [hbindings]
    refine List.rel_append (hfilled.imp fun x y hxy => ⟨hxy.1, hxy.2.mono hcalls hseeds⟩) ?_
    exact .cons ⟨rfl, hf⟩ .nil

theorem Coherent.withProducer (h : b.Coherent ok target) {id : Nat} {item : Pending}
    {later : List Pending} {e : Edge} (hpending : b.pending = item :: later)
    (hok : ok item (some e)) : (b.withProducer id item later e).Coherent ok target where
  head := by
    rw [Branch.withProducer, List.getElem?_append_left h.length_pos]
    exact h.head
  row := by
    obtain ⟨filled, hrow, hfilled⟩ := h.row
    have hitem : item ∈ b.inputs :=
      h.mem_inputs_of_pending (by rw [hpending]; exact List.mem_cons_self)
    have hlt := (List.getElem?_eq_some_iff.mp (mem_inputsOf.mp hitem).1).1
    refine row_concat hrow hfilled hpending rfl (List.append_nil _).symm
      (inputsOf_concat _ _) rfl rfl ⟨e, hok, rfl, ?_, hlt⟩
    simp [Branch.withProducer]
  callIds := by
    -- the new call gets the next number
    have hpos := h.length_pos
    have hlength : (b.calls ++ [(e.producer, item.depth + 1)]).length - 1 =
        b.calls.length - 1 + 1 := by
      rw [List.length_append, List.length_singleton]
      omega
    rw [Branch.withProducer, List.filterMap_append, h.callIds, hlength, List.range'_concat]
    simp [Nat.add_sub_cancel' hpos]
  seedIds := by
    rw [Branch.withProducer, List.filterMap_append, h.seedIds]
    simp

theorem Coherent.withSeed (h : b.Coherent ok target) {id : Nat} {item : Pending}
    {later : List Pending} (hpending : b.pending = item :: later) (hok : ok item none) :
    (b.withSeed id item later).Coherent ok target where
  head := h.head
  row := by
    obtain ⟨filled, hrow, hfilled⟩ := h.row
    refine row_concat hrow hfilled hpending (List.append_nil _).symm rfl
      (List.append_nil _).symm (List.append_nil _).symm rfl ⟨hok, ?_⟩
    simp [Branch.withSeed]
  callIds := by
    rw [Branch.withSeed, List.filterMap_append, h.callIds]
    simp
  seedIds := by
    rw [Branch.withSeed, List.filterMap_append, h.seedIds]
    simp [List.range_succ]

/-- What grows is coherent. -/
theorem Grown.coherent (h : b.Grown ok target) : b.Coherent ok target := by
  induction h with
  | root => exact coherent_root
  | @fill b id item later choice _ hpending hok ih =>
      cases choice with
      | none => exact ih.withSeed hpending hok
      | some e => exact ih.withProducer hpending hok

end Branch

/-! ## The branches of a search -/

/-- What the graph offers for an input: any edge into it, and a seed if its type allows. -/
def Graph.Offers (graph : Graph) (item : Pending) : Option Edge → Prop
  | none => item.type.isFuzzable = true
  | some e => e ∈ graph.producersFor item.consumer item.slot.input

namespace SearchSettings

variable {settings : SearchSettings} {graph : Graph} {target : Node} {s : SearchState}
  {usage : Usage} {id : Nat} {b : Branch} {item : Pending} {later : List Pending}

/-- Whether calls are tried for the first pending input of a branch. -/
def triesCalls (settings : SearchSettings) (graph : Graph) (b : Branch) (item : Pending) : Bool :=
  !(graph.producersFor item.consumer item.slot.input).isEmpty && settings.allowsCall b item

/-- The edges that are tried for an input when calls are. -/
def tried (settings : SearchSettings) (graph : Graph) (usage : Usage) (item : Pending) : List Edge :=
  Sequence.cut settings.maxBranching
    (settings.order usage (graph.producersFor item.consumer item.slot.input))

/-- What is tried for the first pending input of a branch, in order: edges, and `none` for
a seed. -/
def choices (settings : SearchSettings) (graph : Graph) (usage : Usage) (b : Branch)
    (item : Pending) : List (Option Edge) :=
  if settings.triesCalls graph b item then
    (settings.tried graph usage item).map some ++
      if item.type.isFuzzable && settings.offerSeed then [none] else []
  else if item.type.isFuzzable then [none] else []

theorem expand_eq : settings.expand graph usage id b item later =
    if settings.triesCalls graph b item then
      .ok ((settings.tried graph usage item).map (b.withProducer id item later) ++
        if item.type.isFuzzable && settings.offerSeed then [b.withSeed id item later] else [])
    else if item.type.isFuzzable then .ok [b.withSeed id item later]
    else if (graph.producersFor item.consumer item.slot.input).isEmpty then
      .error (.unfillable item)
    else .error (.outOfBudget item settings.maxDepth settings.maxCalls) := rfl

/-- A branch is replaced by one branch for each choice. -/
theorem expand_ok {children : List Branch}
    (h : settings.expand graph usage id b item later = .ok children) :
    children = (settings.choices graph usage b item).map (b.fill id item later) := by
  rw [expand_eq] at h
  unfold choices
  split at h
  · next hcall =>
      obtain rfl := Except.ok.inj h
      rw [if_pos hcall, List.map_append, List.map_map]
      congr 1
      split <;> rfl
  · next hcall =>
      rw [if_neg hcall]
      split at h
      · next hseed =>
          obtain rfl := Except.ok.inj h
          rw [if_pos hseed]
          rfl
      · split at h <;> cases h

/-- At a dead end there is no choice. -/
theorem expand_error {d : DeadEnd}
    (h : settings.expand graph usage id b item later = .error d) :
    settings.choices graph usage b item = [] := by
  rw [expand_eq] at h
  unfold choices
  split at h
  · cases h
  · next hcall =>
      rw [if_neg hcall]
      split at h
      · cases h
      · next hseed => rw [if_neg hseed]

theorem order_perm (settings : SearchSettings) (usage : Usage) (edges : List Edge) :
    (settings.order usage edges).Perm edges := by
  unfold order
  split
  · exact List.Perm.refl _
  · exact Sequence.rankSort_perm _ _
  · exact Sequence.rankSort_perm _ _

/-- Only one policy looks at how often functions were used. -/
theorem order_eq_of_ne_diversity (hpolicy : settings.tieBreak ≠ .diversity) (usage other : Usage) :
    settings.order usage = settings.order other := by
  funext edges
  unfold order
  split
  · rfl
  · rfl
  · next h => exact absurd h hpolicy

theorem mem_order {edges : List Edge} {e : Edge} : e ∈ settings.order usage edges ↔ e ∈ edges :=
  (settings.order_perm usage edges).mem_iff

/-- Nothing is tried twice for an input. -/
theorem nodup_choices (hnodup : (graph.producersFor item.consumer item.slot.input).Nodup) :
    (settings.choices graph usage b item).Nodup := by
  have htried : (settings.tried graph usage item).Nodup :=
    ((settings.order_perm usage _).nodup_iff.mpr hnodup).sublist (Sequence.cut_sublist _ _)
  have hsome : ((settings.tried graph usage item).map some).Nodup :=
    htried.map fun _ _ h => Option.some.inj h
  unfold choices
  split
  · split
    · refine hsome.append (List.nodup_singleton none) ?_
      simp
    · simpa using hsome
  · split
    · exact List.nodup_singleton none
    · exact List.nodup_nil

/-- Nothing is tried that the graph does not offer. -/
theorem offers_of_mem_choices {choice : Option Edge}
    (h : choice ∈ settings.choices graph usage b item) : graph.Offers item choice := by
  -- both lists of choices end with a seed under a condition
  have hseed : ∀ p : Bool, choice ∈ (if p then [none] else []) → choice = none ∧ p = true := by
    intro p hp
    cases p <;> simp_all
  unfold choices at h
  split at h
  · rcases List.mem_append.mp h with h | h
    · obtain ⟨e, he, rfl⟩ := List.mem_map.mp h
      exact mem_order.mp ((Sequence.cut_sublist _ _).subset he)
    · obtain ⟨rfl, hfuzz⟩ := hseed _ h
      exact (Bool.and_eq_true_iff.mp hfuzz).1
  · obtain ⟨rfl, hfuzz⟩ := hseed _ h
    exact hfuzz

/-- Every branch of a search grows from its target by what the graph offers. -/
theorem Reaches.grown (h : Reaches settings graph target s) :
    (∀ b ∈ s.arena.toList, b.Grown graph.Offers target) ∧
      (∀ b ∈ s.waiting, b.Grown graph.Offers target) ∧
        ∀ b ∈ s.accepted.toList, b.Grown graph.Offers target ∧ b.pending = [] := by
  refine h.forall_branch .root ?_
  intro id b item later usage children _ hb hpending hexpand c hc
  rw [expand_ok hexpand] at hc
  obtain ⟨choice, hchoice, rfl⟩ := List.mem_map.mp hc
  exact hb.fill hpending (offers_of_mem_choices hchoice)

end SearchSettings
end FuzzSynth
