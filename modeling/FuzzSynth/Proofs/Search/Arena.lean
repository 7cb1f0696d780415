/-
What holds of every branch that a search makes.

Whatever becomes of it, a branch has its books in order (`Branch.IsInOrder`): its bindings and its
queue share out the slots of its calls, every call below the target and every seed fills one slot,
and the calls stand by their distance to the target.  All but the last follows from the row of
inputs that growth keeps.  The distances are those of a queue: the row is in order if the calls are
(`pairwise_depth_inputsOf`), and each call is one level below an input that was filled before, so
none is more than one level below the input in front (`Coherent.depth_le_of_mem_calls`).

From the arena nothing is taken away (`Step.arena_isPrefix`).  Each branch in it but the first goes
back to an earlier one, and has one binding more than that (`Branch.GoesBack`).
-/
import FuzzSynth.Proofs.Search.Refusal

namespace FuzzSynth

/-! ## One branch -/

namespace Branch

/-- The slots that something fills and those that wait. -/
def slots (b : Branch) : List Slot :=
  b.bindings.map Prod.fst ++ b.pending.map Pending.slot

/-- The books of a branch are in order. -/
structure IsInOrder (b : Branch) : Prop where
  /-- No slot is filled twice, waits twice, or is filled and waits. -/
  nodup_slots : b.slots.Nodup
  /-- The slots are those of the inputs of the calls. -/
  mem_slots_iff (slot : Slot) : slot ∈ b.slots ↔
    ∃ c, b.calls[slot.call]? = some c ∧ slot.input < c.1.api.inputTypes.length
  /-- Each call below the target fills one slot. -/
  fills_one {id : Nat} (hpos : 0 < id) (hlt : id < b.calls.length) :
    ∃! binding, binding ∈ b.bindings ∧ binding.2.call? = some id
  /-- What fills a slot was called after the call that has the slot. -/
  fills_earlier {slot : Slot} {id : Nat} {adapter : Adapter}
    (h : (slot, .call id adapter) ∈ b.bindings) : slot.call < id
  /-- Each seed is kept with the one slot that it fills. -/
  seeds_iff (index : Nat) (slot : Slot) :
    b.seeds[index]? = some slot ↔ (slot, .seed index) ∈ b.bindings
  /-- The calls go away from the target. -/
  depths : b.calls.Pairwise fun c d => c.2 ≤ d.2
  /-- An input waits at the depth of its call. -/
  depth_of_pending {item : Pending} (h : item ∈ b.pending) :
    b.calls[item.slot.call]? = some (item.consumer, item.depth)

variable {ok : Pending → Option Edge → Prop} {target : Node} {b : Branch}

theorem mem_slots_inputsOf {calls : List (Node × Nat)} {slot : Slot} :
    slot ∈ (inputsOf calls).map Pending.slot ↔
      ∃ c, calls[slot.call]? = some c ∧ slot.input < c.1.api.inputTypes.length := by
  have hlength : ∀ node : Node, node.api.inputTypes.length = node.api.inputs.length := fun node =>
    List.length_map ..
  rw [List.mem_map]
  constructor
  · rintro ⟨item, hitem, rfl⟩
    obtain ⟨hcall, hinput⟩ := mem_inputsOf.mp hitem
    refine ⟨_, hcall, ?_⟩
    rw [hlength]
    exact (List.getElem?_eq_some_iff.mp hinput).1
  · rintro ⟨⟨node, depth⟩, hcall, hlt⟩
    rw [hlength] at hlt
    have hinput := List.getElem?_eq_getElem hlt
    exact ⟨⟨slot, node, _, _, depth⟩, mem_inputsOf.mpr ⟨hcall, hinput⟩, rfl⟩

/-- The slots are those of the row of inputs, in order. -/
theorem Coherent.slots_eq (h : b.Coherent ok target) : b.slots = b.inputs.map Pending.slot := by
  obtain ⟨filled, hrow, hfilled⟩ := h.row
  have hslots : b.bindings.map Prod.fst = filled.map Pending.slot := by
    rw [← List.forall₂_eq_eq_eq, List.forall₂_map_left_iff, List.forall₂_map_right_iff]
    exact hfilled.flip.imp fun binding item hslot => hslot.1
  rw [slots, hslots, hrow, List.map_append]

/-! ### Distances -/

/-- The inputs stand by their depth if the calls do.  The induction is over the calls as they were
made: the inputs of the last one come last. -/
theorem pairwise_depth_inputsOf {calls : List (Node × Nat)}
    (h : calls.Pairwise fun c d => c.2 ≤ d.2) :
    (inputsOf calls).Pairwise fun x y => x.depth ≤ y.depth := by
  induction calls using List.reverseRecOn with
  | nil => exact List.Pairwise.nil
  | append_singleton calls c ih =>
      obtain ⟨hcalls, -, hlast⟩ := List.pairwise_append.mp h
      have hdepth : ∀ x ∈ Pending.ofCall calls.length c.1 c.2, x.depth = c.2 := fun x hx =>
        (mem_ofCall.mp hx).1.2.2
      rw [inputsOf_concat, List.pairwise_append]
      refine ⟨ih hcalls, ?_, ?_⟩
      · refine List.pairwise_of_forall_mem_list fun x hx y hy => ?_
        rw [hdepth x hx, hdepth y hy]
      · intro x hx y hy
        have hcall := List.mem_of_getElem? (mem_inputsOf.mp hx).1
        rw [hdepth y hy]
        exact hlast _ hcall c (List.mem_singleton_self c)

/-- No call is more than one level below the input in front of the queue. -/
theorem Coherent.depth_le_of_mem_calls (h : b.Coherent ok target)
    (hdepths : b.calls.Pairwise fun c d => c.2 ≤ d.2) {item : Pending} {later : List Pending}
    (hpending : b.pending = item :: later) : ∀ c ∈ b.calls, c.2 ≤ item.depth + 1 := by
  intro c hc
  obtain ⟨id, hid⟩ := List.mem_iff_getElem?.mp hc
  rcases Nat.eq_zero_or_pos id with rfl | hpos
  · -- the target is at depth zero
    obtain rfl := Option.some.inj (hid.symm.trans h.head)
    exact Nat.zero_le _
  · -- any other call fills an input, and that came before the one in front of the queue
    have hlt := (List.getElem?_eq_some_iff.mp hid).1
    obtain ⟨⟨slot, f⟩, hbinding, hf⟩ := h.exists_binding_of_call hpos hlt
    obtain ⟨filled, hrow, hfilled⟩ := h.row
    obtain ⟨x, hx, -, hfills⟩ := Sequence.exists_left_of_forall₂ hfilled hbinding
    have hbefore : x.depth ≤ item.depth := by
      have hinputs := pairwise_depth_inputsOf hdepths
      rw [← inputs, hrow, hpending] at hinputs
      exact (List.pairwise_append.mp hinputs).2.2 x hx item List.mem_cons_self
    cases f with
    | seed index => cases hf
    | call callId adapter =>
        obtain rfl : callId = id := Option.some.inj hf
        obtain ⟨e, -, -, hcall, -⟩ := hfills
        obtain rfl := Option.some.inj (hid.symm.trans hcall)
        exact Nat.succ_le_succ hbefore

/-- The calls of what grows stand by their distance to the target. -/
theorem Grown.pairwise_depth (h : b.Grown ok target) :
    b.calls.Pairwise fun c d => c.2 ≤ d.2 := by
  induction h with
  | root => exact List.pairwise_singleton _ _
  | @fill b id item later choice hgrown hpending _ ih =>
      cases choice with
      | none => exact ih
      | some e =>
          show (b.calls ++ [(e.producer, item.depth + 1)]).Pairwise _
          rw [List.pairwise_append]
          refine ⟨ih, List.pairwise_singleton _ _, fun c hc d hd => ?_⟩
          rw [List.mem_singleton.mp hd]
          exact hgrown.coherent.depth_le_of_mem_calls ih hpending c hc

/-! ### The books -/

/-- What grows has its books in order. -/
theorem Grown.isInOrder (h : b.Grown ok target) : b.IsInOrder := by
  have hcoherent := h.coherent
  constructor
  case nodup_slots =>
    rw [hcoherent.slots_eq]
    exact Branch.nodup_slots b.calls
  case mem_slots_iff =>
    intro slot
    rw [hcoherent.slots_eq]
    exact mem_slots_inputsOf
  case fills_one =>
    -- the numbers of calls that stand in the bindings are all different
    intro id hpos hlt
    have hnodup : (b.bindings.filterMap fun binding => binding.2.call?).Nodup := by
      rw [hcoherent.callIds]
      exact List.nodup_range'
    obtain ⟨binding, hbinding, hf⟩ := hcoherent.exists_binding_of_call hpos hlt
    exact ⟨binding, ⟨hbinding, hf⟩, fun other hother =>
      Sequence.eq_of_nodup_filterMap hnodup hother.1 hbinding hother.2 hf⟩
  case fills_earlier =>
    intro slot id adapter hbinding
    obtain ⟨item, -, rfl, e, -, -, -, hlt⟩ := hcoherent.exists_item hbinding
    exact hlt
  case seeds_iff =>
    intro index slot
    constructor
    · exact hcoherent.mem_bindings_of_seed
    · intro hbinding
      obtain ⟨item, -, rfl, hfills⟩ := hcoherent.exists_item hbinding
      exact hfills.2
  case depths => exact h.pairwise_depth
  case depth_of_pending =>
    intro item hitem
    exact (mem_inputsOf.mp (hcoherent.mem_inputs_of_pending hitem)).1

/-! ## The arena -/

/-- The branch at this place of an arena is the call of the target alone, at the first place, or
goes back to an earlier branch and has one binding more than that. -/
def GoesBack (arena : Array Branch) (target : Node) (place : Nat) (b : Branch) : Prop :=
  (place = 0 ∧ b = .root target ∧ b.parent = none) ∨
    ∃ p a binding, b.parent = some p ∧ p < place ∧ arena[p]? = some a ∧
      b.bindings = a.bindings ++ [binding]

/-- Branches that are added behind the others do not matter. -/
theorem GoesBack.mono {arena arena' : Array Branch} {place : Nat}
    (h : b.GoesBack arena target place) (hbegins : arena.toList <+: arena'.toList) :
    b.GoesBack arena' target place := by
  rcases h with hroot | ⟨p, a, binding, hparent, hlt, ha, hbindings⟩
  · exact .inl hroot
  · refine .inr ⟨p, a, binding, hparent, hlt, ?_, hbindings⟩
    obtain ⟨later, hlater⟩ := hbegins
    rw [← Array.getElem?_toList] at ha ⊢
    rw [← hlater, List.getElem?_append_left (List.getElem?_eq_some_iff.mp ha).1]
    exact ha

theorem goesBack_fill {arena : Array Branch} {place id : Nat} {item : Pending}
    {later : List Pending} {choice : Option Edge} (hb : arena[id]? = some b) (hlt : id < place) :
    (b.fill id item later choice).GoesBack arena target place := by
  cases choice with
  | none => exact .inr ⟨id, b, _, rfl, hlt, hb, rfl⟩
  | some e => exact .inr ⟨id, b, _, rfl, hlt, hb, rfl⟩

end Branch

namespace SearchSettings

variable {settings : SearchSettings} {graph : Graph} {target : Node} {s s' : SearchState}

theorem arena_isPrefix_visit (id : Nat) (b : Branch) (s : SearchState) :
    s.arena.toList <+: (settings.visit graph target id b s).arena.toList := by
  unfold visit
  split
  · unfold finish
    split <;> exact List.prefix_rfl
  · split
    · rw [SearchState.arena_pushAll]
      exact List.prefix_append _ _
    · exact List.prefix_rfl

/-- A step adds branches to the arena and takes none away. -/
theorem Step.arena_isPrefix (h : Step settings graph target s s') :
    s.arena.toList <+: s'.arena.toList := by
  obtain ⟨id, b, rest, -, -, rfl⟩ := h.exists_visit
  exact arena_isPrefix_visit id b (s.popTo rest)

/-- All through a search each branch of the arena goes back to an earlier one. -/
theorem Reaches.goesBack (h : Reaches settings graph target s) :
    ∀ place (b : Branch), s.arena[place]? = some b → b.GoesBack s.arena target place := by
  induction h with
  | start =>
      intro place b hb
      obtain ⟨hlt, rfl⟩ := Array.getElem?_eq_some_iff.mp hb
      obtain rfl : place = 0 := Nat.lt_one_iff.mp hlt
      exact .inl ⟨rfl, rfl, rfl⟩
  | @step s s' hs hstep ih =>
      have hbegins := hstep.arena_isPrefix
      cases hstep with
      | refuse | accept | reject => exact ih
      | @grow id b rest item later children _ hstack hpending hexpand =>
          intro place c hc
          have hparent : s.arena[id]? = some b := hs.isNumbered _ (hstack ▸ List.mem_cons_self)
          rw [← Array.getElem?_toList, SearchState.arena_pushAll] at hc
          by_cases hlt : place < s.arena.size
          · -- it was there before the step
            refine (ih place c ?_).mono hbegins
            rw [← Array.getElem?_toList]
            exact (List.getElem?_append_left hlt).symm.trans hc
          · -- it fills an input of the branch that was on top of the stack
            have hid := (Array.getElem?_eq_some_iff.mp hparent).1
            have hnew : c ∈ children.reverse :=
              List.mem_of_getElem? ((List.getElem?_append_right (Nat.le_of_not_lt hlt)).symm.trans hc)
            rw [List.mem_reverse, expand_ok hexpand] at hnew
            obtain ⟨choice, -, rfl⟩ := List.mem_map.mp hnew
            exact (Branch.goesBack_fill hparent (by omega)).mono hbegins

/-- The arena of each state that a search comes through is a beginning of the last one. -/
theorem Reaches.arena_isPrefix (h : Reaches settings graph target s) :
    s.arena.toList <+: (settings.final graph target).arena.toList := by
  rw [loop_of_reaches h]
  exact prefix_loop (fun _ _ => List.prefix_rfl) arena_isPrefix_visit
    (fun _ _ => List.prefix_rfl) _ s

theorem conclude_arena : (settings.conclude target s).arena = s.arena := by
  unfold conclude
  split <;> rfl

/-- Every branch that a search ever makes is in the arena that it ends with.  There each has its
books in order, and goes back to an earlier one that it has one binding more than. -/
theorem isInOrder_of_arena (settings : SearchSettings) (graph : Graph) (target : Node) :
    (∀ s, Reaches settings graph target s →
        s.arena.toList <+: (settings.final graph target).arena.toList) ∧
      ∀ (place : Nat) (b : Branch), (settings.final graph target).arena[place]? = some b →
        b.IsInOrder ∧ b.GoesBack (settings.final graph target).arena target place := by
  refine ⟨fun s hs => hs.arena_isPrefix, fun place b hb => ?_⟩
  obtain ⟨last, hlast, -, hfinal⟩ := exists_reaches_final settings graph target
  rw [hfinal, conclude_arena] at hb ⊢
  have hmem : b ∈ last.arena.toList :=
    List.mem_of_getElem? (Array.getElem?_toList.trans hb)
  exact ⟨(hlast.grown.1 b hmem).isInOrder, hlast.goesBack place b hb⟩

/-- With two inputs to fill, each by a call or by a seed, the search makes seven branches.  The last
of them has filled both. -/
theorem isInOrder_of_arena_mixLevels :
    (SearchState.start ⟨1, mixLevels⟩).arena.toList <+:
        (mixSettings.final (Graph.build ⟨true, true⟩ [readLevel, mixLevels])
          ⟨1, mixLevels⟩).arena.toList ∧
      ∃ b : Branch,
        (mixSettings.final (Graph.build ⟨true, true⟩ [readLevel, mixLevels])
          ⟨1, mixLevels⟩).arena[6]? = some b ∧ b.bindings.length = 2 ∧ b.IsInOrder ∧
        b.GoesBack (mixSettings.final (Graph.build ⟨true, true⟩ [readLevel, mixLevels])
          ⟨1, mixLevels⟩).arena ⟨1, mixLevels⟩ 6 := by
  obtain ⟨hbegins, hall⟩ := isInOrder_of_arena mixSettings
    (Graph.build ⟨true, true⟩ [readLevel, mixLevels]) ⟨1, mixLevels⟩
  have hlast : (mixSettings.final (Graph.build ⟨true, true⟩ [readLevel, mixLevels])
      ⟨1, mixLevels⟩).arena[6]?.map (fun b => b.bindings.length) = some 2 := by decide +kernel
  obtain ⟨b, hb, hlength⟩ := Option.map_eq_some_iff.mp hlast
  obtain ⟨hbooks, hback⟩ := hall 6 b hb
  exact ⟨hbegins _ .start, b, hb, hlength, hbooks, hback⟩

end SearchSettings
end FuzzSynth
