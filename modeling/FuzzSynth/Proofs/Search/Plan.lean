/-
Branches as plans.

The decisions of a branch are what fills its inputs, in the order in which the inputs left
the queue.  A tree of supplies can be taken apart in the same order: each decision takes
the first supply of a queue and puts what is below it at the end (`Supply.follow`).  So a
branch stands for the trees that its decisions can be followed in, and two branches that
differ in one decision have no such tree in common.

`Grown.follow_eq` says what is left in the queue: the supplies of the pending inputs.  A
finished branch leaves nothing, which makes its tree the only one
(`Supply.follow_injective`), and that tree is the one its driver is read as
(`Grown.exists_tree`).
-/
import FuzzSynth.Proofs.Driver.Tree
import FuzzSynth.Proofs.Driver.Typed

namespace FuzzSynth

namespace Supply

/-! ## Following decisions -/

/-- The number of supplies below an edge. -/
def arity : Option Edge → Nat
  | none => 0
  | some e => e.producer.api.inputTypes.length

/-- Takes the first supply of a queue if it is the one that was decided on. -/
def advance (queue : List Supply) (choice : Option Edge) : Option (List Supply) :=
  match queue with
  | [] => none
  | s :: rest =>
      if s.edge? = choice ∧ s.slots.length = arity choice then some (rest ++ s.slots) else none

/-- What is left of a queue of supplies after some decisions. -/
def follow (queue : List Supply) (choices : List (Option Edge)) : Option (List Supply) :=
  choices.foldlM advance queue

@[simp] theorem follow_nil (queue : List Supply) : follow queue [] = some queue := rfl

theorem follow_concat (queue : List Supply) (cs : List (Option Edge)) (c : Option Edge) :
    follow queue (cs ++ [c]) = (follow queue cs).bind (advance · c) := by
  simp [follow, List.foldlM_append]

theorem advance_eq_some {queue left : List Supply} {c : Option Edge} :
    advance queue c = some left ↔
      ∃ s rest, queue = s :: rest ∧ (s.edge? = c ∧ s.slots.length = arity c) ∧
        left = rest ++ s.slots := by
  cases queue with
  | nil => simp [advance]
  | cons s rest => by_cases h : s.edge? = c ∧ s.slots.length = arity c <;> simp [advance, h, eq_comm]

theorem eq_of_edge?_of_slots {s s' : Supply} (hedge : s.edge? = s'.edge?)
    (hslots : s.slots = s'.slots) : s = s' := by
  cases s <;> cases s' <;> simp_all [edge?, slots]

/-- Queues of the same length in which the same decisions leave the same are the same. -/
theorem follow_injective {cs : List (Option Edge)} {queue queue' left : List Supply}
    (h : follow queue cs = some left) (h' : follow queue' cs = some left)
    (hlength : queue.length = queue'.length) : queue = queue' := by
  induction cs generalizing queue queue' with
  | nil => exact Option.some.inj (h.trans h'.symm)
  | cons c cs ih =>
      obtain ⟨next, hnext, h⟩ := Option.bind_eq_some_iff.mp h
      obtain ⟨next', hnext', h'⟩ := Option.bind_eq_some_iff.mp h'
      obtain ⟨s, rest, rfl, ⟨hedge, harity⟩, rfl⟩ := advance_eq_some.mp hnext
      obtain ⟨s', rest', rfl, ⟨hedge', harity'⟩, rfl⟩ := advance_eq_some.mp hnext'
      -- both heads were taken by the same decision, so as much was put behind both rests
      have hslots : s.slots.length = s'.slots.length := harity.trans harity'.symm
      have hrest : rest.length = rest'.length := Nat.succ.inj hlength
      have hnext : rest ++ s.slots = rest' ++ s'.slots :=
        ih h h' (by rw [List.length_append, List.length_append, hslots, hrest])
      obtain ⟨rfl, hslots⟩ := List.append_inj hnext hrest
      rw [eq_of_edge?_of_slots (hedge.trans hedge'.symm) hslots]

/-- There is a seed in a queue if one of the decisions is for a seed, or if one is left. -/
theorem anySeed_of_follow {cs : List (Option Edge)} {queue left : List Supply}
    (h : follow queue cs = some left) :
    anySeed queue = true ↔ none ∈ cs ∨ anySeed left = true := by
  induction cs generalizing queue with
  | nil =>
      obtain rfl := Option.some.inj h
      simp
  | cons c cs ih =>
      obtain ⟨next, hnext, h⟩ := Option.bind_eq_some_iff.mp h
      obtain ⟨s, rest, rfl, ⟨rfl, -⟩, rfl⟩ := advance_eq_some.mp hnext
      -- the seeds below the head are among those that are looked at later
      have hrest := ih h
      have hhead : none = s.edge? ↔ s.edge?.isNone = true := by
        rw [Option.isNone_iff_eq_none, eq_comm]
      rw [anySeed_append, Bool.or_eq_true] at hrest
      rw [anySeed, hasSeed_eq, Bool.or_eq_true, Bool.or_eq_true, List.mem_cons, hhead]
      tauto

end Supply

/-- The edge as a way to fill an input: what its producer gives goes there. -/
def Edge.into (e : Edge) (item : Pending) : Edge :=
  ⟨e.producer, item.consumer, item.slot.input, e.adapter⟩

namespace Branch

/-! ## The decisions of a branch -/

/-- What was decided on for the input that a binding fills. -/
def decision (b : Branch) (binding : Slot × Filling) : Option Edge :=
  match binding.2 with
  | .seed _ => none
  | .call id adapter => do
      let producer ← b.calls[id]?
      let consumer ← b.calls[binding.1.call]?
      pure ⟨producer.1, consumer.1, binding.1.input, adapter⟩

/-- The decisions of a branch, in the order in which they were made. -/
def decisions (b : Branch) : List (Option Edge) :=
  b.bindings.map b.decision

/-- A tree in which the decisions of a branch can be followed. -/
def Follows (b : Branch) (tree : List Supply) : Prop :=
  (Supply.follow tree b.decisions).isSome = true

variable {ok : Pending → Option Edge → Prop} {target : Node} {b : Branch}

/-- The edges that are allowed for an input lead to it. -/
def LeadsTo (ok : Pending → Option Edge → Prop) : Prop :=
  ∀ {item e}, ok item (some e) → e.consumer = item.consumer ∧ e.input = item.slot.input

/-- What fills an input was decided on, and the decision was allowed. -/
theorem Fills.ok_decision (hleads : LeadsTo ok) {item : Pending} {f : Filling}
    (hitem : item ∈ b.inputs) (hfills : b.Fills ok item f) :
    ok item (b.decision (item.slot, f)) := by
  cases f with
  | seed index => exact hfills.1
  | call id adapter =>
      -- the decision is read off from the calls, and gives back the edge
      obtain ⟨e, hok, rfl, hcall, -⟩ := hfills
      obtain ⟨hconsumer, hinput⟩ := hleads hok
      have hdecision : b.decision (item.slot, .call id e.adapter) = some e := by
        simp only [decision, hcall, (mem_inputsOf.mp hitem).1, Option.bind_eq_bind,
          Option.bind_some, ← hconsumer, ← hinput]
        rfl
      rw [hdecision]
      exact hok

/-- Decisions stay the same when calls are added behind the others. -/
theorem Fills.decision_mono {c : Branch} {calls : List (Node × Nat)} {item : Pending} {f : Filling}
    (hitem : item ∈ b.inputs) (hfills : b.Fills ok item f) (hcalls : c.calls = b.calls ++ calls) :
    c.decision (item.slot, f) = b.decision (item.slot, f) := by
  cases f with
  | seed index => rfl
  | call id adapter =>
      obtain ⟨e, -, -, hcall, -⟩ := hfills
      have hid := (List.getElem?_eq_some_iff.mp hcall).1
      have hslot := (List.getElem?_eq_some_iff.mp (mem_inputsOf.mp hitem).1).1
      simp only [decision, hcalls, List.getElem?_append_left hid,
        List.getElem?_append_left hslot]

theorem Coherent.decision_mono (h : b.Coherent ok target) {c : Branch} {calls : List (Node × Nat)}
    {binding : Slot × Filling} (hbinding : binding ∈ b.bindings)
    (hcalls : c.calls = b.calls ++ calls) : c.decision binding = b.decision binding := by
  obtain ⟨item, hitem, hslot, hfills⟩ := h.exists_item hbinding
  have heq : binding = (item.slot, binding.2) := Prod.ext hslot rfl
  rw [heq]
  exact hfills.decision_mono hitem hcalls

/-- An edge that leads to an input fills it as it is. -/
theorem LeadsTo.into_eq (hleads : LeadsTo ok) {item : Pending} {e : Edge} (hok : ok item (some e)) :
    e.into item = e := by
  obtain ⟨hconsumer, hinput⟩ := hleads hok
  rw [Edge.into, ← hconsumer, ← hinput]

/-- For an input that a new producer fills its edge was decided on. -/
theorem Coherent.decision_withProducer (h : b.Coherent ok target) {id : Nat} {item : Pending}
    {later : List Pending} {e : Edge} (hpending : b.pending = item :: later) :
    (b.withProducer id item later e).decision (item.slot, .call b.calls.length e.adapter) =
      some (e.into item) := by
  have hitem : item ∈ b.inputs :=
    h.mem_inputs_of_pending (by rw [hpending]; exact List.mem_cons_self)
  -- the producer is the last call now, and the consumer is where it was
  have hcall := (mem_inputsOf.mp hitem).1
  have hslot := (List.getElem?_eq_some_iff.mp hcall).1
  have hcalls : (b.withProducer id item later e).calls =
      b.calls ++ [(e.producer, item.depth + 1)] := rfl
  simp only [decision, hcalls, List.getElem?_concat_length, List.getElem?_append_left hslot,
    hcall, Option.bind_eq_bind, Option.bind_some]
  rfl

/-- Filling an input adds one decision. -/
theorem decisions_fill_into (h : b.Coherent ok target) {id : Nat} {item : Pending}
    {later : List Pending} {choice : Option Edge} (hpending : b.pending = item :: later) :
    (b.fill id item later choice).decisions = b.decisions ++ [choice.map (·.into item)] := by
  cases choice with
  | none =>
      -- a seed adds no call, so the decisions made before are read as they were
      have hold : ∀ binding ∈ b.bindings,
          (b.withSeed id item later).decision binding = b.decision binding := fun binding hb =>
        h.decision_mono hb (List.append_nil _).symm
      calc (b.withSeed id item later).decisions
        _ = b.bindings.map (b.withSeed id item later).decision ++ [none] := List.map_append
        _ = b.decisions ++ [none] := by rw [List.map_congr_left hold]; rfl
  | some e =>
      have hold : ∀ binding ∈ b.bindings,
          (b.withProducer id item later e).decision binding = b.decision binding := fun binding hb =>
        h.decision_mono hb rfl
      have hnew : (b.withProducer id item later e).decision
          (item.slot, .call b.calls.length e.adapter) = some (e.into item) :=
        h.decision_withProducer hpending
      calc (b.withProducer id item later e).decisions
        _ = b.bindings.map (b.withProducer id item later e).decision ++
              [(b.withProducer id item later e).decision
                (item.slot, .call b.calls.length e.adapter)] := List.map_append
        _ = b.decisions ++ [some (e.into item)] := by rw [List.map_congr_left hold, hnew]; rfl

/-- Where edges lead to their inputs, what was chosen is what was decided on. -/
theorem decisions_fill (h : b.Coherent ok target) (hleads : LeadsTo ok) {id : Nat} {item : Pending}
    {later : List Pending} {choice : Option Edge} (hpending : b.pending = item :: later)
    (hok : ok item choice) : (b.fill id item later choice).decisions = b.decisions ++ [choice] := by
  have hchoice : choice.map (·.into item) = choice := by
    cases choice with
    | none => rfl
    | some e => exact congrArg some (hleads.into_eq hok)
  rw [decisions_fill_into h hpending, hchoice]

/-- A branch has seeds if some of its decisions are for seeds. -/
theorem Coherent.none_mem_decisions (h : b.Coherent ok target) :
    none ∈ b.decisions ↔ b.seeds ≠ [] := by
  constructor
  · intro hnone
    obtain ⟨⟨slot, f⟩, hbinding, hdecision⟩ := List.mem_map.mp hnone
    obtain ⟨item, hitem, hslot, hfills⟩ := h.exists_item hbinding
    obtain rfl : slot = item.slot := hslot
    cases f with
    | seed index => exact List.ne_nil_of_mem (List.mem_of_getElem? hfills.2)
    | call id adapter =>
        obtain ⟨e, -, -, hcall, -⟩ := hfills
        simp [decision, hcall, (mem_inputsOf.mp hitem).1] at hdecision
  · -- the first seed stands in some binding
    intro hseeds
    have hfirst := List.getElem?_eq_getElem (List.length_pos_iff.mpr hseeds)
    exact List.mem_map.mpr ⟨_, h.mem_bindings_of_seed hfirst, rfl⟩

/-- A tree that a branch stands for is one that the branch it grew from stands for. -/
theorem Follows.of_fill (h : b.Coherent ok target) (hleads : LeadsTo ok) {id : Nat} {item : Pending}
    {later : List Pending} {choice : Option Edge} (hpending : b.pending = item :: later)
    (hok : ok item choice) {tree : List Supply}
    (hfollows : (b.fill id item later choice).Follows tree) : b.Follows tree := by
  rw [Follows, decisions_fill h hleads hpending hok, Supply.follow_concat] at hfollows
  obtain ⟨left, hleft⟩ := Option.isSome_iff_exists.mp hfollows
  obtain ⟨queue, hqueue, -⟩ := Option.bind_eq_some_iff.mp hleft
  exact Option.isSome_iff_exists.mpr ⟨queue, hqueue⟩

/-- Branches that differ in what fills an input stand for no common tree. -/
theorem Follows.choice_eq (h : b.Coherent ok target) (hleads : LeadsTo ok) {id : Nat}
    {item : Pending} {later : List Pending} {choice choice' : Option Edge}
    (hpending : b.pending = item :: later) (hok : ok item choice) (hok' : ok item choice')
    {tree : List Supply} (hfollows : (b.fill id item later choice).Follows tree)
    (hfollows' : (b.fill id item later choice').Follows tree) : choice = choice' := by
  rw [Follows, decisions_fill h hleads hpending hok, Supply.follow_concat] at hfollows
  rw [Follows, decisions_fill h hleads hpending hok', Supply.follow_concat] at hfollows'
  obtain ⟨left, hleft⟩ := Option.isSome_iff_exists.mp hfollows
  obtain ⟨left', hleft'⟩ := Option.isSome_iff_exists.mp hfollows'
  obtain ⟨queue, hqueue, hleft⟩ := Option.bind_eq_some_iff.mp hleft
  obtain ⟨queue', hqueue', hleft'⟩ := Option.bind_eq_some_iff.mp hleft'
  -- both were decided on at the head of one queue, which has one supply
  obtain rfl : queue = queue' := Option.some.inj (hqueue.symm.trans hqueue')
  obtain ⟨s, rest, rfl, ⟨hedge, -⟩, -⟩ := Supply.advance_eq_some.mp hleft
  obtain ⟨s', rest', hcons, ⟨hedge', -⟩, -⟩ := Supply.advance_eq_some.mp hleft'
  obtain ⟨rfl, -⟩ := List.cons.inj hcons
  exact hedge.symm.trans hedge'

/-! ## What is left to decide -/

/-- The supply of a slot, by what fills the inputs of each call. -/
def supplyAt (sub : Nat → List Supply) (slot : Slot) : Supply :=
  ((sub slot.call)[slot.input]?).getD .seed

/-- What a filling gives, by what fills the inputs of each call. -/
def supplyOf (b : Branch) (sub : Nat → List Supply) (binding : Slot × Filling) : Supply :=
  match binding.2 with
  | .seed _ => .seed
  | .call id _ => .ofEdge? (b.decision binding) (sub id)

/-- The supplies `sub` of the inputs of each call are those that the bindings of a branch
give, as many as the calls take. -/
structure Supplies (b : Branch) (sub : Nat → List Supply) : Prop where
  length_eq {id depth : Nat} {node : Node} (hcall : b.calls[id]? = some (node, depth)) :
    (sub id).length = node.api.inputTypes.length
  supplyAt_eq {binding : Slot × Filling} (hbinding : binding ∈ b.bindings) :
    supplyAt sub binding.1 = b.supplyOf sub binding

theorem map_supplyAt_ofCall {sub : Nat → List Supply} {id depth : Nat} {node : Node}
    (h : (sub id).length = node.api.inputTypes.length) :
    (Pending.ofCall id node depth).map (fun item => supplyAt sub item.slot) = sub id := by
  have hlength : (sub id).length = node.api.inputs.length :=
    h.trans (List.length_map _)
  apply List.ext_getElem
  · rw [List.length_map, Pending.ofCall, List.length_mapIdx, hlength]
  · intro i _ hi
    simp [Pending.ofCall, supplyAt, List.getElem?_eq_getElem hi]

/-- What was supplied to a branch was supplied to the branch it grew from. -/
theorem Supplies.of_append {c : Branch} {sub : Nat → List Supply} {calls : List (Node × Nat)}
    {bindings : List (Slot × Filling)} (h : c.Supplies sub) (hb : b.Coherent ok target)
    (hcalls : c.calls = b.calls ++ calls) (hbindings : c.bindings = b.bindings ++ bindings) :
    b.Supplies sub where
  length_eq := by
    intro id depth node hcall
    have hold : c.calls[id]? = some (node, depth) := by
      rw [hcalls, List.getElem?_append_left (List.getElem?_eq_some_iff.mp hcall).1]
      exact hcall
    exact h.length_eq hold
  supplyAt_eq := by
    intro binding hbinding
    rw [h.supplyAt_eq (hbindings ▸ List.mem_append_left _ hbinding), supplyOf, supplyOf,
      hb.decision_mono hbinding hcalls]

/-- Following the decisions of a branch in the supplies of its target leaves the supplies of
its pending inputs, in order. -/
theorem Grown.follow_eq (h : b.Grown ok target) {sub : Nat → List Supply}
    (hsub : b.Supplies sub) :
    Supply.follow (sub 0) b.decisions = some (b.pending.map fun item => supplyAt sub item.slot) := by
  induction h with
  | root =>
      -- nothing is decided, and all inputs of the target are pending
      rw [Branch.root, map_supplyAt_ofCall (hsub.length_eq rfl)]
      rfl
  | @fill b id item later choice h hpending hok ih =>
      rw [decisions_fill_into h.coherent hpending, Supply.follow_concat]
      cases choice with
      | none =>
          -- a seed is taken off the front and leaves nothing behind
          have hold : b.Supplies sub :=
            hsub.of_append h.coherent (List.append_nil _).symm rfl
          have hmem : (item.slot, .seed b.seeds.length) ∈ (b.withSeed id item later).bindings := by
            simp [withSeed]
          have hitem : supplyAt sub item.slot = .seed := hsub.supplyAt_eq hmem
          rw [ih hold, hpending, Option.bind_some, Supply.advance_eq_some]
          refine ⟨_, _, List.map_cons, ?_, ?_⟩
          · rw [hitem]
            exact ⟨rfl, rfl⟩
          · rw [hitem]
            exact (List.append_nil _).symm
      | some e =>
          -- the supplies of the new call go to the end, as its inputs do
          have hold : b.Supplies sub := hsub.of_append h.coherent rfl rfl
          have hcall : (b.withProducer id item later e).calls[b.calls.length]? =
              some (e.producer, item.depth + 1) := by
            simp [withProducer]
          have hlength : (sub b.calls.length).length = e.producer.api.inputTypes.length :=
            hsub.length_eq hcall
          have hmem : (item.slot, .call b.calls.length e.adapter) ∈
              (b.withProducer id item later e).bindings := by
            simp [withProducer]
          have hitem : supplyAt sub item.slot = .call (e.into item) (sub b.calls.length) := by
            rw [hsub.supplyAt_eq hmem, supplyOf]
            dsimp only [Branch.fill]
            rw [h.coherent.decision_withProducer hpending]
            rfl
          rw [ih hold, hpending, Option.bind_some, Supply.advance_eq_some]
          refine ⟨_, _, List.map_cons, ?_, ?_⟩
          · rw [hitem]
            exact ⟨rfl, hlength⟩
          · rw [hitem, Supply.slots, Branch.fill, withProducer, List.map_append,
              map_supplyAt_ofCall hlength]

/-! ## The tree of a finished branch -/

/-- What a binding of the driver gives, by the table of its calls, is what the filling of the
branch gives. -/
theorem Becomes.supply?_eq {d : Driver} {table : SupplyTable} (hbecomes : b.Becomes target d)
    (hlists : Driver.Lists d.calls table) {sub : Nat → List Supply}
    (hsub : ∀ id, sub id = ((table[b.calls.length - 1 - id]?).map Prod.snd).getD [])
    {item : Pending} {f : Filling} (hitem : item ∈ b.inputs) (hfills : b.Fills ok item f) :
    (b.bindingOf f).supply? table item.consumer item.slot.input =
      some (b.supplyOf sub (item.slot, f)) := by
  cases f with
  | seed index => rfl
  | call id adapter =>
      obtain ⟨e, -, rfl, hcall, -⟩ := hfills
      obtain ⟨c, hc, hnode, -⟩ := hbecomes.exists_call hcall
      obtain ⟨slots, hslots, -⟩ := hlists.supplies hc
      have hid := (List.getElem?_eq_some_iff.mp hcall).1
      have hsubid : sub id = slots := by rw [hsub, hslots]; rfl
      have hdecision : b.decision (item.slot, .call id e.adapter) =
          some ⟨e.producer, item.consumer, item.slot.input, e.adapter⟩ := by
        simp only [decision, hcall, (mem_inputsOf.mp hitem).1, Option.bind_eq_bind,
          Option.bind_some]
        rfl
      rw [bindingOf, position_of_lt hid]
      show (table[b.calls.length - 1 - id]?).map _ =
        some (Supply.ofEdge? (b.decision (item.slot, .call id e.adapter)) (sub id))
      rw [hslots, Option.map_some, hnode, hdecision, hsubid]
      rfl

/-- A finished branch becomes a driver that is a tree, and the decisions of the branch can be
followed in it to the end. -/
theorem Grown.exists_tree (h : b.Grown ok target) (hpending : b.pending = []) :
    ∃ d sub, b.driver? target = some d ∧ d.tree? = some (sub 0) ∧ b.Supplies sub ∧
      Supply.follow (sub 0) b.decisions = some [] := by
  have hb := h.coherent
  obtain ⟨d, hd, hbecomes⟩ := hb.exists_driver hpending
  obtain ⟨table, slots, hlists, hlast, htree⟩ :=
    Driver.exists_lists_of_isValid (hbecomes.isValid hb hpending)
  -- the driver turns the calls around, so the supplies of a call are looked up from the end
  let sub : Nat → List Supply := fun id =>
    ((table[b.calls.length - 1 - id]?).map Prod.snd).getD []
  have hsub : b.Supplies sub := by
    constructor
    case length_eq =>
      intro id depth node hcall
      obtain ⟨c, hc, hnode, hlength, -⟩ := hbecomes.exists_call hcall
      obtain ⟨slots, hslots, hlength', -⟩ := hlists.supplies hc
      have hsubid : sub id = slots := by simp only [sub, hslots]; rfl
      rw [hsubid, hlength', hlength]
    case supplyAt_eq =>
      rintro ⟨slot, f⟩ hbinding
      obtain ⟨item, hitem, rfl, hfills, hfilling⟩ := hb.filling?_of_mem hpending hbinding
      -- the binding of the driver at this slot is made from the filling of the branch
      obtain ⟨c, hc, hnode, hlength, hbindings⟩ := hbecomes.exists_call (mem_inputsOf.mp hitem).1
      have hi : item.slot.input < c.bindings.length := by
        rw [hlength]
        exact (List.getElem?_eq_some_iff.mp (inputType_of_mem_inputs hitem)).1
      obtain ⟨g, hg, hgiven⟩ := hbindings (List.getElem?_eq_getElem hi)
      obtain rfl : f = g := Option.some.inj (hfilling.symm.trans hg)
      obtain ⟨slots, hslots, -, hsupplies⟩ := hlists.supplies hc
      obtain ⟨s, hs, hat⟩ := hsupplies (List.getElem?_eq_getElem hi)
      rw [hgiven, hnode, hbecomes.supply?_eq hlists (fun _ => rfl) hitem hfills] at hs
      have hsubid : sub item.slot.call = slots := by simp only [sub, hslots]; rfl
      rw [supplyAt, hsubid, hat]
      exact (Option.some.inj hs).symm
  have hzero : sub 0 = slots := by
    rw [hbecomes.length_calls] at hlast
    simp only [sub, Nat.sub_zero, hlast]
    rfl
  refine ⟨d, sub, hd, hzero ▸ htree, hsub, ?_⟩
  rw [h.follow_eq hsub, hpending]
  rfl

end Branch
end FuzzSynth
