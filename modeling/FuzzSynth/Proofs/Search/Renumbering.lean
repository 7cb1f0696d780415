/-
The search does not care how nodes are numbered.

Moving every node to another place (`renumber`) changes nothing else of a node.  Where one
graph has the edges of another, moved in this way and in the same order (`Graph.IsRenumbered`),
every stage of the search commutes with the move: ordering producers, filling an input, looking
at a branch, and so the whole loop (`SearchSettings.search_renumber`).  What is exported of a
driver, and every message, is about functions and not about places.
-/
import FuzzSynth.Proofs.Sequence
import FuzzSynth.Search.Run

namespace FuzzSynth

/-! ## Moving nodes -/

section Renumber

variable (f : Nat → Nat)

/-- The same instance at another place. -/
def Node.renumber (n : Node) : Node :=
  ⟨f n.place, n.api⟩

def Edge.renumber (e : Edge) : Edge :=
  ⟨e.producer.renumber f, e.consumer.renumber f, e.input, e.adapter⟩

def Pending.renumber (item : Pending) : Pending :=
  { item with consumer := item.consumer.renumber f }

def Branch.renumber (b : Branch) : Branch :=
  { b with
    calls := b.calls.map fun c => (c.1.renumber f, c.2)
    pending := b.pending.map (Pending.renumber f) }

def DeadEnd.renumber : DeadEnd → DeadEnd
  | outOfBudget item maxDepth maxCalls => outOfBudget (item.renumber f) maxDepth maxCalls
  | unfillable item => unfillable (item.renumber f)

def SearchState.renumber (s : SearchState) : SearchState :=
  { s with
    arena := s.arena.map (Branch.renumber f)
    stack := s.stack.map fun entry => (entry.1, entry.2.renumber f)
    accepted := s.accepted.map (Branch.renumber f) }

def Outcome.renumber (o : Outcome) : Outcome :=
  { o with target := o.target.renumber f, accepted := o.accepted.map (Branch.renumber f) }

def DriverCall.renumber (c : DriverCall) : DriverCall :=
  { c with node := c.node.renumber f }

def Driver.renumber (d : Driver) : Driver :=
  { d with target := d.target.renumber f, calls := d.calls.map (DriverCall.renumber f) }

end Renumber

/-- The graph has the edges of the other one, with each node moved to its new place. -/
def Graph.IsRenumbered (f : Nat → Nat) (moved graph : Graph) : Prop :=
  ∀ (n : Node) (i : Nat),
    moved.producersFor (n.renumber f) i = (graph.producersFor n i).map (Edge.renumber f)

variable {f : Nat → Nat} {settings : SearchSettings} {moved graph : Graph}

/-! ## Branches -/

theorem Pending.map_ofCall (id : Nat) (node : Node) (depth : Nat) :
    (ofCall id node depth).map (Pending.renumber f) = ofCall id (node.renumber f) depth := by
  rw [ofCall, ofCall, List.mapIdx_eq_zipIdx_map, List.mapIdx_eq_zipIdx_map, List.map_map]
  rfl

namespace Branch

theorem keys_renumber (b : Branch) : (b.renumber f).keys = b.keys := by
  rw [keys, keys, renumber, List.map_map]
  rfl

theorem renumber_root (target : Node) : (root target).renumber f = root (target.renumber f) := by
  simp only [renumber, root, Pending.map_ofCall, List.map_cons, List.map_nil]

theorem renumber_withSeed (b : Branch) (id : Nat) (item : Pending) (rest : List Pending) :
    (b.withSeed id item rest).renumber f =
      (b.renumber f).withSeed id (item.renumber f) (rest.map (Pending.renumber f)) := rfl

theorem renumber_withProducer (b : Branch) (id : Nat) (item : Pending) (rest : List Pending)
    (e : Edge) :
    (b.withProducer id item rest e).renumber f =
      (b.renumber f).withProducer id (item.renumber f) (rest.map (Pending.renumber f))
        (e.renumber f) := by
  simp only [renumber, withProducer, List.map_append, Pending.map_ofCall, List.length_map,
    List.map_cons, List.map_nil]
  rfl

end Branch

/-! ## Steps -/

namespace SearchSettings

theorem order_renumber (usage : Usage) (edges : List Edge) :
    settings.order usage (edges.map (Edge.renumber f)) =
      (settings.order usage edges).map (Edge.renumber f) := by
  unfold order
  -- the ranks are of the producing function and of its uses, which know nothing of places
  cases settings.tieBreak with
  | declaration => rfl
  | shortest | diversity => exact Sequence.rankSort_map _ _ _

theorem allowsCall_renumber (b : Branch) (item : Pending) :
    settings.allowsCall (b.renumber f) (item.renumber f) = settings.allowsCall b item := by
  simp only [allowsCall, Branch.renumber, List.length_map]
  rfl

/-- An input is filled in the same ways, or it is the same dead end. -/
theorem expand_renumber (h : moved.IsRenumbered f graph) (usage : Usage) (id : Nat) (b : Branch)
    (item : Pending) (rest : List Pending) :
    settings.expand moved usage id (b.renumber f) (item.renumber f)
        (rest.map (Pending.renumber f)) =
      match settings.expand graph usage id b item rest with
      | .ok branches => .ok (branches.map (Branch.renumber f))
      | .error d => .error (d.renumber f) := by
  have hedges : moved.producersFor (item.renumber f).consumer (item.renumber f).slot.input =
      (graph.producersFor item.consumer item.slot.input).map (Edge.renumber f) :=
    h item.consumer item.slot.input
  have htype : (item.renumber f).type = item.type := rfl
  unfold expand
  -- all tests agree on both sides, so a split of one is a split of the other
  simp only [hedges, htype, allowsCall_renumber, List.isEmpty_map, order_renumber, Sequence.cut_map]
  split
  · simp only [List.map_append, List.map_map, apply_ite (List.map (Branch.renumber f)),
      Branch.renumber_withSeed, List.map_cons, List.map_nil]
    congr 2
    exact List.map_congr_left fun e _ => (b.renumber_withProducer id item rest e).symm
  · split
    · rfl
    · split <;> rfl

end SearchSettings

namespace SearchState

theorem renumber_start (target : Node) :
    (start target).renumber f = start (target.renumber f) := by
  simp only [renumber, start, List.map_toArray, List.map_cons, List.map_nil, Branch.renumber_root]

theorem renumber_push (b : Branch) (s : SearchState) :
    (s.push b).renumber f = (s.renumber f).push (b.renumber f) := by
  simp only [renumber, push, Array.map_push, List.map_cons, Array.size_map]

theorem renumber_pushAll (bs : List Branch) (s : SearchState) :
    (s.pushAll bs).renumber f = (s.renumber f).pushAll (bs.map (Branch.renumber f)) := by
  induction bs with
  | nil => rfl
  | cons b bs ih =>
      rw [List.map_cons]
      exact (renumber_push b (s.pushAll bs)).trans (congrArg (push (b.renumber f)) ih)

end SearchState

namespace SearchSettings

theorem finish_renumber (target : Node) (b : Branch) (s : SearchState) :
    settings.finish (target.renumber f) (b.renumber f) (s.renumber f) =
      (settings.finish target b s).renumber f := by
  have hseeds : (b.renumber f).seeds = b.seeds := rfl
  unfold finish
  rw [hseeds, Branch.keys_renumber]
  split
  · rfl
  · simp only [SearchState.renumber, Array.map_push]

theorem visit_renumber (h : moved.IsRenumbered f graph) (target : Node) (id : Nat) (b : Branch)
    (s : SearchState) :
    settings.visit moved (target.renumber f) id (b.renumber f) (s.renumber f) =
      (settings.visit graph target id b s).renumber f := by
  have hpending : (b.renumber f).pending = b.pending.map (Pending.renumber f) := rfl
  have husage : (s.renumber f).usage = s.usage := rfl
  unfold visit
  rw [hpending]
  cases b.pending with
  | nil => exact finish_renumber target b s
  | cons item rest =>
      simp only [List.map_cons, husage, expand_renumber h]
      cases settings.expand graph s.usage id b item rest with
      | ok branches => exact (SearchState.renumber_pushAll branches s).symm
      | error d => cases d <;> rfl

theorem loop_renumber (h : moved.IsRenumbered f graph) (target : Node) (budget : Nat)
    (s : SearchState) :
    settings.loop moved (target.renumber f) budget (s.renumber f) =
      (settings.loop graph target budget s).renumber f := by
  have henough : ∀ s : SearchState, settings.hasEnough (s.renumber f) = settings.hasEnough s :=
    fun s => by simp only [hasEnough, SearchState.renumber, Array.size_map]
  have hstack : (s.renumber f).stack = s.stack.map fun entry => (entry.1, entry.2.renumber f) := rfl
  -- along the budget, as the loop itself: the next state is again a moved one
  induction budget generalizing s with
  | zero =>
      unfold loop
      rw [hstack, henough]
      cases s.stack with
      | nil => rfl
      | cons entry rest =>
          simp only [List.map_cons]
          split <;> rfl
  | succ budget ih =>
      unfold loop
      rw [hstack, henough]
      cases s.stack with
      | nil => rfl
      | cons entry rest =>
          simp only [List.map_cons]
          split
          · rfl
          · exact (congrArg _ (visit_renumber h target entry.1 entry.2
              { s with stack := rest, expansions := s.expansions + 1 })).trans (ih _ rfl)

/-- The search for a target that was moved finds the same, with every node moved. -/
theorem search_renumber (h : moved.IsRenumbered f graph) (target : Node) :
    settings.search moved (target.renumber f) = (settings.search graph target).renumber f := by
  have hloop : settings.loop moved (target.renumber f) settings.maxExpansions.toNat
      (.start (target.renumber f)) =
        (settings.loop graph target settings.maxExpansions.toNat (.start target)).renumber f := by
    rw [← SearchState.renumber_start, loop_renumber h]
  simp only [search, hloop, Outcome.renumber, SearchState.renumber, Array.toList_map, Array.size_map]
  rfl

end SearchSettings

/-! ## Drivers -/

/-- Reading moved things and moving what was read are the same. -/
theorem mapM_map_of_forall {α β γ δ : Type} {read : α → Option β} {read' : γ → Option δ}
    {move : α → γ} {move' : β → δ} (h : ∀ a, read' (move a) = (read a).map move') (xs : List α) :
    (xs.map move).mapM read' = (xs.mapM read).map (List.map move') := by
  induction xs with
  | nil => rfl
  | cons a rest ih =>
      rw [List.map_cons, List.mapM_cons, List.mapM_cons, ih, h]
      cases read a with
      | none => rfl
      | some b => cases rest.mapM read <;> rfl

namespace Branch

theorem position_renumber (b : Branch) (id : Nat) : (b.renumber f).position id = b.position id := by
  simp only [position, renumber, List.length_map]

theorem bindingOf_renumber (b : Branch) (filling : Filling) :
    (b.renumber f).bindingOf filling = b.bindingOf filling := by
  cases filling with
  | seed index => rfl
  | call id adapter => rw [bindingOf, bindingOf, position_renumber]

theorem driverCall?_renumber (b : Branch) (id : Nat) (node : Node) :
    (b.renumber f).driverCall? id (node.renumber f) =
      (b.driverCall? id node).map (DriverCall.renumber f) := by
  have hfilling : (b.renumber f).filling? = b.filling? := rfl
  have hinputs : (node.renumber f).api = node.api := rfl
  simp only [driverCall?, hfilling, hinputs, funext b.bindingOf_renumber]
  cases (List.range node.api.inputTypes.length).mapM fun i => b.filling? ⟨id, i⟩ <;> rfl

theorem seedPoint?_renumber (b : Branch) (index : Nat) (slot : Slot) :
    (b.renumber f).seedPoint? index slot = b.seedPoint? index slot := by
  have hcall : (b.renumber f).calls[slot.call]? =
      b.calls[slot.call]?.map fun c => (c.1.renumber f, c.2) := List.getElem?_map
  simp only [seedPoint?, hcall, position_renumber]
  cases b.calls[slot.call]? <;> rfl

/-- The driver of a moved branch is the moved driver. -/
theorem driver?_renumber (b : Branch) (target : Node) :
    (b.renumber f).driver? (target.renumber f) = (b.driver? target).map (Driver.renumber f) := by
  -- a call keeps its number in the branch, so moving commutes with numbering the calls
  have hcalls : ((b.renumber f).calls.mapIdx fun id c => (id, c.1)).reverse =
      ((b.calls.mapIdx fun id c => (id, c.1)).reverse).map fun c => (c.1, c.2.renumber f) := by
    rw [renumber, List.map_reverse, List.mapIdx_eq_zipIdx_map, List.mapIdx_eq_zipIdx_map,
      List.zipIdx_map, List.map_map, List.map_map]
    rfl
  have hseeds : (b.renumber f).seeds = b.seeds := rfl
  rw [driver?, driver?, hcalls, hseeds,
    mapM_map_of_forall (fun c : Nat × Node => b.driverCall?_renumber c.1 c.2)]
  simp only [seedPoint?_renumber]
  cases (b.calls.mapIdx fun id c => (id, c.1)).reverse.mapM fun c => b.driverCall? c.1 c.2 with
  | none => rfl
  | some calls =>
      simp only [Option.map_some, Option.bind_eq_bind, Option.bind_some]
      cases (b.seeds.mapIdx fun index slot => (index, slot)).mapM fun entry =>
        b.seedPoint? entry.1 entry.2 <;> rfl

end Branch

theorem Outcome.drivers_renumber (o : Outcome) :
    (o.renumber f).drivers = o.drivers.map (Driver.renumber f) := by
  rw [drivers, drivers, renumber, List.filterMap_map, List.map_filterMap]
  exact congrArg (List.filterMap · o.accepted) (funext fun b => b.driver?_renumber o.target)

namespace Driver

/-- What is exported of a driver does not show places. -/
theorem toJson?_renumber (d : Driver) : (d.renumber f).toJson? = d.toJson? := by
  have hcalls : (d.renumber f).calls.map DriverCall.toJson = d.calls.map DriverCall.toJson := by
    rw [renumber, List.map_map]
    rfl
  rw [toJson?, toJson?, hcalls]
  rfl

theorem describe_renumber (d : Driver) : (d.renumber f).describe = d.describe := by
  rw [describe, describe, renumber, List.mapIdx_eq_zipIdx_map, List.mapIdx_eq_zipIdx_map,
    List.zipIdx_map, List.map_map]
  rfl

end Driver

end FuzzSynth
