/-
A search that runs to its end finds every admitted tree once.

`Admitted` is what the settings of a search allow, as a recursive definition on trees of
supplies: it says for one input which edges may fill it, and whether a seed may.  A search
does not build trees.  It takes the inputs of all calls in the order of a queue, drops
branches at dead ends and stops at caps.

`Explores` is the invariant that ties both: of the branches that wait or are accepted no
two stand for a common tree, and every admitted tree is one that some of them stands for.
A step keeps this because what is tried for an input is what is admitted there
(`mem_choices_iff`), as long as the cap on calls does not bite and the order of producers
does not depend on what was found before.  At the end no branch waits, so the accepted ones
stand for the admitted trees, one each (`mem_trees_iff_admitted`).
-/
import FuzzSynth.Proofs.Search.Plan

namespace FuzzSynth
namespace SearchSettings

/-! ## Admitted trees -/

/-- What may fill an input of a call at some depth: an edge, or a seed (`none`). -/
def Admits (settings : SearchSettings) (graph : Graph) (consumer : Node) (input : Nat) (type : Ty)
    (depth : Nat) (choice : Option Edge) : Prop :=
  if graph.producersFor consumer input ≠ [] ∧ (depth : Int) + 1 ≤ settings.maxDepth then
    (∃ e ∈ (settings.order [] (graph.producersFor consumer input)).take
        settings.maxBranching.toNat, choice = some e) ∨
      choice = none ∧ settings.offerSeed = true ∧ type.isFuzzable = true
  else choice = none ∧ type.isFuzzable = true

/-- What may fill the inputs of a call at some depth, each with all that is below it. -/
inductive Admitted (settings : SearchSettings) (graph : Graph) : Node → Nat → List Supply → Prop
  | intro {consumer : Node} {depth : Nat} {slots : List Supply}
      (hlength : slots.length = consumer.api.inputTypes.length)
      (hadmits : ∀ {i s t}, slots[i]? = some s → consumer.api.inputTypes[i]? = some t →
        settings.Admits graph consumer i t depth s.edge?)
      (hbelow : ∀ {i : Nat} {e : Edge} {below : List Supply}, slots[i]? = some (.call e below) →
        Admitted settings graph e.producer (depth + 1) below) :
      Admitted settings graph consumer depth slots

/-- The tie-break gives the producers of an input the same order, or tries all of them,
whatever was found before. -/
def IsSteady (settings : SearchSettings) (graph : Graph) : Prop :=
  settings.tieBreak ≠ .diversity ∨
    ∀ n ∈ graph.nodes, ∀ i, ((graph.producersFor n i).length : Int) ≤ settings.maxBranching

variable {settings : SearchSettings} {graph : Graph} {target : Node} {s s' : SearchState}
  {usage : Usage} {id : Nat} {b : Branch} {item : Pending} {later : List Pending}
  {choice : Option Edge}

/-! ## What is tried -/

/-- The edges that are tried do not depend on what was found before. -/
theorem mem_tried_iff (hbranching : 1 ≤ settings.maxBranching) (hsteady : settings.IsSteady graph)
    (hconsumer : item.consumer ∈ graph.nodes) {e : Edge} :
    e ∈ settings.tried graph usage item ↔
      e ∈ (settings.order [] (graph.producersFor item.consumer item.slot.input)).take
        settings.maxBranching.toNat := by
  have hcut : settings.tried graph usage item =
      (settings.order usage (graph.producersFor item.consumer item.slot.input)).take
        settings.maxBranching.toNat := by
    rw [tried, Sequence.cut, if_pos (by omega)]
  rw [hcut]
  rcases hsteady with hpolicy | hfew
  · rw [order_eq_of_ne_diversity hpolicy usage []]
  · have hlength := hfew _ hconsumer item.slot.input
    have hall : ∀ usage', (settings.order usage'
        (graph.producersFor item.consumer item.slot.input)).take settings.maxBranching.toNat =
          settings.order usage' (graph.producersFor item.consumer item.slot.input) := by
      intro usage'
      refine List.take_of_length_le ?_
      rw [(settings.order_perm usage' _).length_eq]
      omega
    rw [hall, hall, mem_order, mem_order]

/-- What is tried for an input is what is admitted there, while the cap on calls allows one
more. -/
theorem mem_choices_iff (hbranching : 1 ≤ settings.maxBranching)
    (hsteady : settings.IsSteady graph) (hconsumer : item.consumer ∈ graph.nodes)
    (hcalls : (b.calls.length : Int) < settings.maxCalls) :
    choice ∈ settings.choices graph usage b item ↔
      settings.Admits graph item.consumer item.slot.input item.type item.depth choice := by
  have htries : settings.triesCalls graph b item = true ↔
      graph.producersFor item.consumer item.slot.input ≠ [] ∧
        (item.depth : Int) + 1 ≤ settings.maxDepth := by
    simp [triesCalls, allowsCall, hcalls]
  unfold choices Admits
  by_cases h : settings.triesCalls graph b item = true
  · rw [if_pos h, if_pos (htries.mp h), List.mem_append, List.mem_map]
    refine or_congr ⟨?_, ?_⟩ ?_
    · rintro ⟨e, he, rfl⟩
      exact ⟨e, (mem_tried_iff hbranching hsteady hconsumer).mp he, rfl⟩
    · rintro ⟨e, he, rfl⟩
      exact ⟨e, (mem_tried_iff hbranching hsteady hconsumer).mpr he, rfl⟩
    · by_cases hseed : item.type.isFuzzable = true <;> cases settings.offerSeed <;> simp [hseed]
  · rw [if_neg h, if_neg fun h' => h (htries.mpr h')]
    by_cases hseed : item.type.isFuzzable = true <;> simp [hseed]

/-! ## What pending inputs are served by -/

/-- The supply is admitted for the input, with all that is below it. -/
structure Serves (settings : SearchSettings) (graph : Graph) (item : Pending) (s : Supply) :
    Prop where
  admits : settings.Admits graph item.consumer item.slot.input item.type item.depth s.edge?
  below : ∀ e, s.edge? = some e → settings.Admitted graph e.producer (item.depth + 1) s.slots

/-- Admitted supplies of a call serve its inputs. -/
theorem Admitted.serves {consumer : Node} {depth : Nat} {slots : List Supply} (id : Nat)
    (h : settings.Admitted graph consumer depth slots) :
    List.Forall₂ (settings.Serves graph) (Pending.ofCall id consumer depth) slots := by
  obtain ⟨hlength, hadmits, hbelow⟩ := h
  refine List.forall₂_iff_get.mpr ⟨by rw [Branch.length_ofCall, hlength], fun i hi hi' => ?_⟩
  rw [List.get_eq_getElem, List.get_eq_getElem]
  have hitem := List.getElem_mem hi
  have hslot := Branch.slot_getElem_ofCall hi
  generalize (Pending.ofCall id consumer depth)[i] = item at hitem hslot ⊢
  obtain ⟨⟨-, rfl, rfl⟩, hinput⟩ := Branch.mem_ofCall.mp hitem
  rw [hslot] at hinput
  have htype : item.consumer.api.inputTypes[i]? = some item.type := by
    have := congrArg (Option.map Prod.snd) hinput
    rwa [← List.getElem?_map] at this
  have hs := List.getElem?_eq_getElem hi'
  constructor
  case admits =>
    rw [hslot]
    exact hadmits hs htype
  case below =>
    intro e he
    cases hsupply : slots[i] with
    | seed => simp [hsupply, Supply.edge?] at he
    | call e' below =>
        rw [hsupply] at hs he
        obtain rfl : e' = e := Option.some.inj he
        exact hbelow hs

theorem Serves.length_slots {s : Supply} (h : settings.Serves graph item s) :
    s.slots.length = Supply.arity s.edge? := by
  cases s with
  | seed => rfl
  | call e slots =>
      obtain ⟨hlength, -, -⟩ := h.below e rfl
      exact hlength

/-! ## Branches of the search -/

/-- What an input of a node may be filled by. -/
def Plans (settings : SearchSettings) (graph : Graph) (item : Pending) (choice : Option Edge) :
    Prop :=
  item.consumer ∈ graph.nodes ∧
    settings.Admits graph item.consumer item.slot.input item.type item.depth choice

/-- No cap but those on depth and branching bites, and the order of producers is steady. -/
structure Unhindered (settings : SearchSettings) (graph : Graph) (target : Node) : Prop where
  branching : 1 ≤ settings.maxBranching
  steady : settings.IsSteady graph
  /-- No branch that is looked at with an input pending has as many calls as are allowed. -/
  calls {b : Branch} (hvisits : Visits settings graph target b) (hpending : b.pending ≠ []) :
    (b.calls.length : Int) < settings.maxCalls

theorem mem_producersFor_of_admits {consumer : Node} {input depth : Nat} {type : Ty} {e : Edge}
    (h : settings.Admits graph consumer input type depth (some e)) :
    e ∈ graph.producersFor consumer input := by
  unfold Admits at h
  split at h
  · obtain ⟨e', he', heq⟩ := h.resolve_right fun hnone => by simp at hnone
    obtain rfl : e = e' := Option.some.inj heq
    exact mem_order.mp (List.mem_of_mem_take he')
  · simp at h

section Build

variable {instances : List Instance} {adapters : AdapterChoice}

theorem leadsTo_plans : Branch.LeadsTo (settings.Plans (Graph.build adapters instances)) := by
  rintro item e ⟨hconsumer, hadmits⟩
  obtain ⟨_, -, hleads, -⟩ :=
    (Graph.mem_producersFor_build hconsumer).mp (mem_producersFor_of_admits hadmits)
  exact hleads

theorem mem_nodes_of_grown_plans (htarget : target ∈ (Graph.build adapters instances).nodes)
    (h : b.Grown (settings.Plans (Graph.build adapters instances)) target)
    (hitem : item ∈ b.inputs) : item.consumer ∈ (Graph.build adapters instances).nodes := by
  have hcalls := h.forall_call htarget fun hconsumer hplans =>
    Graph.producer_mem_of_mem_producersFor hconsumer (mem_producersFor_of_admits hplans.2)
  exact hcalls _ (List.mem_of_getElem? (Branch.mem_inputsOf.mp hitem).1)

/-- What is tried for the first pending input of a branch that is looked at is what is
admitted there. -/
theorem Visits.mem_choices_iff (htarget : target ∈ (Graph.build adapters instances).nodes)
    (hfree : settings.Unhindered (Graph.build adapters instances) target)
    (hvisits : Visits settings (Graph.build adapters instances) target b)
    (hb : b.Grown (settings.Plans (Graph.build adapters instances)) target)
    (hpending : b.pending = item :: later) :
    choice ∈ settings.choices (Graph.build adapters instances) usage b item ↔
      settings.Plans (Graph.build adapters instances) item choice := by
  have hmem : item ∈ b.pending := by
    rw [hpending]
    exact List.mem_cons_self
  have hconsumer :=
    mem_nodes_of_grown_plans htarget hb (hb.coherent.mem_inputs_of_pending hmem)
  have hcalls := hfree.calls hvisits (List.ne_nil_of_mem hmem)
  rw [SearchSettings.mem_choices_iff hfree.branching hfree.steady hconsumer hcalls]
  exact (and_iff_right hconsumer).symm

/-- Every branch of the search grows by what is admitted. -/
theorem Reaches.grown_plans (htarget : target ∈ (Graph.build adapters instances).nodes)
    (hfree : settings.Unhindered (Graph.build adapters instances) target)
    (h : Reaches settings (Graph.build adapters instances) target s) :
    (∀ b ∈ s.waiting, b.Grown (settings.Plans (Graph.build adapters instances)) target) ∧
      ∀ b ∈ s.accepted.toList,
        b.Grown (settings.Plans (Graph.build adapters instances)) target ∧ b.pending = [] := by
  refine (h.forall_branch .root ?_).2
  intro id b item later usage children hvisits hb hpending hexpand c hc
  rw [expand_ok hexpand] at hc
  obtain ⟨choice, hchoice, rfl⟩ := List.mem_map.mp hc
  exact hb.fill hpending ((hvisits.mem_choices_iff htarget hfree hb hpending).mp hchoice)

/-- An admitted tree serves the pending inputs of a branch that stands for it by what its
decisions leave. -/
theorem serves_of_follow (h : b.Grown (settings.Plans (Graph.build adapters instances)) target)
    {tree queue : List Supply}
    (htree : settings.Admitted (Graph.build adapters instances) target 0 tree)
    (hqueue : Supply.follow tree b.decisions = some queue) :
    List.Forall₂ (settings.Serves (Graph.build adapters instances)) b.pending queue := by
  induction h generalizing queue with
  | root =>
      obtain rfl := Option.some.inj hqueue
      exact htree.serves 0
  | @fill b id item later choice h hpending hok ih =>
      rw [Branch.decisions_fill h.coherent leadsTo_plans hpending hok,
        Supply.follow_concat] at hqueue
      obtain ⟨left, hleft, hqueue⟩ := Option.bind_eq_some_iff.mp hqueue
      obtain ⟨s, rest, rfl, ⟨hedge, -⟩, rfl⟩ := Supply.advance_eq_some.mp hqueue
      have hserves := ih hleft
      rw [hpending] at hserves
      obtain ⟨hs, hrest⟩ := List.forall₂_cons.mp hserves
      cases s with
      | seed =>
          obtain rfl : none = choice := hedge
          rw [Supply.slots, List.append_nil]
          exact hrest
      | call e slots =>
          obtain rfl : some e = choice := hedge
          exact List.rel_append hrest ((hs.below e rfl).serves b.calls.length)

/-- A branch that stands for an admitted tree is replaced by one that does. -/
theorem exists_choice_of_follows
    (h : b.Grown (settings.Plans (Graph.build adapters instances)) target)
    (hpending : b.pending = item :: later)
    (hconsumer : item.consumer ∈ (Graph.build adapters instances).nodes) {tree : List Supply}
    (htree : settings.Admitted (Graph.build adapters instances) target 0 tree)
    (hfollows : b.Follows tree) :
    ∃ choice, settings.Plans (Graph.build adapters instances) item choice ∧
      (b.fill id item later choice).Follows tree := by
  obtain ⟨queue, hqueue⟩ := Option.isSome_iff_exists.mp hfollows
  have hserves := serves_of_follow h htree hqueue
  rw [hpending] at hserves
  obtain ⟨s, rest, hs, -, rfl⟩ := List.forall₂_cons_left_iff.mp hserves
  have hplans : settings.Plans (Graph.build adapters instances) item s.edge? :=
    ⟨hconsumer, hs.admits⟩
  refine ⟨s.edge?, hplans, ?_⟩
  rw [Branch.Follows, Branch.decisions_fill h.coherent leadsTo_plans hpending hplans,
    Supply.follow_concat, hqueue, Option.bind_some]
  exact Option.isSome_iff_exists.mpr
    ⟨_, Supply.advance_eq_some.mpr ⟨s, rest, rfl, ⟨rfl, hs.length_slots⟩, rfl⟩⟩

/-- A tree that a finished branch stands for has no more to decide. -/
theorem follow_eq_nil_of_finished
    (h : b.Grown (settings.Plans (Graph.build adapters instances)) target)
    (hpending : b.pending = []) {tree : List Supply}
    (htree : settings.Admitted (Graph.build adapters instances) target 0 tree)
    (hfollows : b.Follows tree) : Supply.follow tree b.decisions = some [] := by
  obtain ⟨queue, hqueue⟩ := Option.isSome_iff_exists.mp hfollows
  have hserves := serves_of_follow h htree hqueue
  rw [hpending] at hserves
  obtain rfl := List.forall₂_nil_left_iff.mp hserves
  exact hqueue

/-! ## The run -/

/-- Of the branches that are held no two stand for a common tree, and every admitted tree is
one that some of them stands for. -/
structure Explores (settings : SearchSettings) (graph : Graph) (target : Node) (s : SearchState) :
    Prop where
  disjoint : s.live.Pairwise fun b c => ∀ tree, b.Follows tree → ¬ c.Follows tree
  complete {tree : List Supply} (htree : settings.Admitted graph target 0 tree)
    (hseed : settings.requireSeed = true → Supply.anySeed tree = true) :
    ∃ b ∈ s.live, b.Follows tree
  seeded {b : Branch} (hb : b ∈ s.accepted.toList) (hrequire : settings.requireSeed = true) :
    b.seeds ≠ []

/-- What is explored stays so if a branch is replaced by branches that share its admitted
trees among them. -/
theorem Explores.replace (h : settings.Explores graph target s) {others children : List Branch}
    (hlive : s.live = b :: others) (hlive' : s'.live = children ++ others)
    (haccepted : s'.accepted = s.accepted)
    (hdisjoint : children.Pairwise fun c d => ∀ tree, c.Follows tree → ¬ d.Follows tree)
    (hparent : ∀ c ∈ children, ∀ tree, c.Follows tree → b.Follows tree)
    (hshared : ∀ tree, settings.Admitted graph target 0 tree →
      (settings.requireSeed = true → Supply.anySeed tree = true) → b.Follows tree →
        ∃ c ∈ children, c.Follows tree) :
    settings.Explores graph target s' := by
  have hold := h.disjoint
  rw [hlive, List.pairwise_cons] at hold
  constructor
  case disjoint =>
    -- a tree of a child is one of its parent, which no other branch stands for
    rw [hlive', List.pairwise_append]
    exact ⟨hdisjoint, hold.2, fun c hc other hother tree hfollows =>
      hold.1 other hother tree (hparent c hc tree hfollows)⟩
  case complete =>
    intro tree htree hseed
    obtain ⟨c, hc, hfollows⟩ := h.complete htree hseed
    rw [hlive, List.mem_cons] at hc
    rw [hlive']
    rcases hc with rfl | hc
    · obtain ⟨child, hchild, hfollows⟩ := hshared tree htree hseed hfollows
      exact ⟨child, List.mem_append_left _ hchild, hfollows⟩
    · exact ⟨c, List.mem_append_right _ hc, hfollows⟩
  case seeded =>
    intro c hc
    exact h.seeded (haccepted ▸ hc)

/-- A finished branch without a seed stands for no tree that has one. -/
theorem anySeed_eq_false_of_finished
    (h : b.Grown (settings.Plans (Graph.build adapters instances)) target)
    (hpending : b.pending = []) (hseeds : b.seeds = []) {tree : List Supply}
    (htree : settings.Admitted (Graph.build adapters instances) target 0 tree)
    (hfollows : b.Follows tree) : Supply.anySeed tree ≠ true := by
  intro hany
  have hnil := follow_eq_nil_of_finished h hpending htree hfollows
  rcases (Supply.anySeed_of_follow hnil).mp hany with hdecided | hleft
  · exact h.coherent.none_mem_decisions.mp hdecided hseeds
  · simp [Supply.anySeed] at hleft

/-- A step keeps what the search explores. -/
theorem Explores.step (htarget : target ∈ (Graph.build adapters instances).nodes)
    (hfree : settings.Unhindered (Graph.build adapters instances) target)
    (hs : Reaches settings (Graph.build adapters instances) target s)
    (h : settings.Explores (Graph.build adapters instances) target s)
    (hstep : Step settings (Graph.build adapters instances) target s s') :
    settings.Explores (Graph.build adapters instances) target s' := by
  have hgrown := (hs.grown_plans htarget hfree).1
  cases hstep with
  | @refuse id b rest hgo hstack hpending hseeds =>
      have hb := hgrown b (by simp [SearchState.waiting, hstack])
      refine h.replace (live_of_stack hstack) (List.nil_append _).symm rfl .nil (by simp) ?_
      -- the trees that the branch stands for have no seed, and one is required
      intro tree htree hseed hfollows
      exact absurd (hseed hseeds.1)
        (anySeed_eq_false_of_finished hb hpending hseeds.2 htree hfollows)
  | @accept id b rest hgo hstack hpending hseeds =>
      have hperm := live_perm_of_stack hstack
      constructor
      case disjoint =>
        exact (hperm.pairwise_iff fun hbc tree hc hb => hbc tree hb hc).mp h.disjoint
      case complete =>
        intro tree htree hseed
        obtain ⟨c, hc, hfollows⟩ := h.complete htree hseed
        exact ⟨c, hperm.mem_iff.mp hc, hfollows⟩
      case seeded =>
        intro c hc hrequire
        rcases List.mem_append.mp (Array.toList_push .. ▸ hc) with hc | hc
        · exact h.seeded hc hrequire
        · obtain rfl := List.mem_singleton.mp hc
          exact hseeds hrequire
  | @grow id b rest item later children hgo hstack hpending hexpand =>
      have hb := hgrown b (by simp [SearchState.waiting, hstack])
      have hitem : item ∈ b.inputs := hb.coherent.mem_inputs_of_pending (by rw [hpending]; simp)
      have hconsumer := mem_nodes_of_grown_plans htarget hb hitem
      have hvisits : Visits settings (Graph.build adapters instances) target b :=
        ⟨s, id, rest, hs, hgo, hstack⟩
      have hplans : ∀ choice,
          choice ∈ settings.choices (Graph.build adapters instances) s.usage b item ↔
            settings.Plans (Graph.build adapters instances) item choice := fun choice =>
        hvisits.mem_choices_iff htarget hfree hb hpending
      obtain rfl := expand_ok hexpand
      refine h.replace (live_of_stack hstack) (SearchState.live_pushAll _ _)
        (SearchState.accepted_pushAll _ _) ?_ ?_ ?_
      · -- a tree tells what its branches chose, and no two chose the same
        have hnodup : (settings.choices (Graph.build adapters instances) s.usage b item).Nodup :=
          nodup_choices (Graph.nodup_producersFor_build hconsumer)
        refine List.pairwise_map.mpr (hnodup.imp_of_mem ?_)
        intro x y hx hy hne tree hfollows hfollows'
        exact hne (hfollows.choice_eq hb.coherent leadsTo_plans hpending ((hplans x).mp hx)
          ((hplans y).mp hy) hfollows')
      · intro c hc tree hfollows
        obtain ⟨choice, hchoice, rfl⟩ := List.mem_map.mp hc
        exact hfollows.of_fill hb.coherent leadsTo_plans hpending ((hplans choice).mp hchoice)
      · intro tree htree _ hfollows
        obtain ⟨choice, hplan, hnew⟩ :=
          exists_choice_of_follows hb hpending hconsumer htree hfollows
        exact ⟨_, List.mem_map_of_mem ((hplans choice).mpr hplan), hnew⟩
  | @reject id b rest item later d hgo hstack hpending hexpand =>
      have hb := hgrown b (by simp [SearchState.waiting, hstack])
      have hitem : item ∈ b.inputs := hb.coherent.mem_inputs_of_pending (by rw [hpending]; simp)
      have hconsumer := mem_nodes_of_grown_plans htarget hb hitem
      have hvisits : Visits settings (Graph.build adapters instances) target b :=
        ⟨s, id, rest, hs, hgo, hstack⟩
      refine h.replace (live_of_stack hstack) (List.nil_append _).symm rfl .nil (by simp) ?_
      -- a branch that stands for an admitted tree has a choice, so it is not at a dead end
      intro tree htree _ hfollows
      obtain ⟨choice, hplan, -⟩ : ∃ choice,
          settings.Plans (Graph.build adapters instances) item choice ∧
            (b.fill id item later choice).Follows tree :=
        exists_choice_of_follows hb hpending hconsumer htree hfollows
      have hchoice : choice ∈ settings.choices (Graph.build adapters instances) s.usage b item :=
        (hvisits.mem_choices_iff htarget hfree hb hpending).mpr hplan
      rw [expand_error hexpand] at hchoice
      cases hchoice

/-- A search explores all along its run. -/
theorem Reaches.explores (htarget : target ∈ (Graph.build adapters instances).nodes)
    (hfree : settings.Unhindered (Graph.build adapters instances) target)
    (h : Reaches settings (Graph.build adapters instances) target s) :
    settings.Explores (Graph.build adapters instances) target s := by
  induction h with
  | start =>
      refine ⟨List.pairwise_singleton _ _, fun {tree} _ _ => ?_, fun hb => by
        simp [SearchState.start] at hb⟩
      exact ⟨.root target, by simp [SearchState.live, SearchState.waiting, SearchState.start], rfl⟩
  | step hs hstep ih => exact ih.step htarget hfree hs hstep

/-! ## The trees found -/

/-- What fills the inputs of the calls of a finished branch is admitted.  The induction is on
the number of calls that come after, since a producer is always called after its consumer. -/
theorem admitted_of_supplies
    (h : b.Grown (settings.Plans (Graph.build adapters instances)) target)
    (hpending : b.pending = []) {sub : Nat → List Supply} (hsub : b.Supplies sub) {id depth : Nat}
    {node : Node} (hcall : b.calls[id]? = some (node, depth)) :
    settings.Admitted (Graph.build adapters instances) node depth (sub id) := by
  induction hn : b.calls.length - id using Nat.strongRecOn generalizing id depth node with
  | _ n ih =>
      subst hn
      -- what is supplied to an input is what was decided on, with the supplies of that call
      have hsupply : ∀ {i s t}, (sub id)[i]? = some s → node.api.inputTypes[i]? = some t →
          ∃ name, ∃ f, b.Fills (settings.Plans (Graph.build adapters instances))
              ⟨⟨id, i⟩, node, name, t, depth⟩ f ∧
            s = b.supplyOf sub (⟨id, i⟩, f) ∧
              settings.Plans (Graph.build adapters instances) ⟨⟨id, i⟩, node, name, t, depth⟩
                (b.decision (⟨id, i⟩, f)) := by
        intro i s t hs ht
        obtain ⟨name, hitem⟩ := Branch.exists_mem_inputs hcall ht
        obtain ⟨f, hf, hfills⟩ := h.coherent.exists_filling hpending hitem
        have hbinding := hsub.supplyAt_eq (Branch.mem_bindings_of_filling? hf)
        rw [Branch.supplyAt, hs, Option.getD_some] at hbinding
        exact ⟨name, f, hfills, hbinding, hfills.ok_decision leadsTo_plans hitem⟩
      have hlength := hsub.length_eq hcall
      refine .intro hlength (fun {i s t} hs ht => ?_) fun {i e below} hs => ?_
      · obtain ⟨name, f, -, rfl, hplans⟩ := hsupply hs ht
        cases f with
        | seed index => exact hplans.2
        | call id' adapter =>
            rw [Branch.supplyOf, Supply.edge?_ofEdge?]
            exact hplans.2
      · have hi : i < node.api.inputTypes.length := hlength ▸ (List.getElem?_eq_some_iff.mp hs).1
        obtain ⟨name, f, hfills, heq, -⟩ := hsupply hs (List.getElem?_eq_getElem hi)
        cases f with
        | seed index => cases heq
        | call id' adapter =>
            obtain ⟨e', hok, -, hcall', hlt⟩ := hfills
            have hid := (List.getElem?_eq_some_iff.mp hcall').1
            have hdecision : b.decision (⟨id, i⟩, .call id' adapter) =
                some ⟨e'.producer, node, i, adapter⟩ := by
              simp [Branch.decision, hcall', hcall]
            rw [Branch.supplyOf, hdecision] at heq
            obtain ⟨rfl, rfl⟩ := Supply.call.inj heq
            have hlt : id < id' := hlt
            exact ih _ (by omega) hcall' rfl

/-- The tree of an accepted branch: its driver is read as that tree, which is admitted, has a
seed if seeds are required, and is the only one that the branch stands for. -/
theorem exists_tree_of_mem_accepted (htarget : target ∈ (Graph.build adapters instances).nodes)
    (hfree : settings.Unhindered (Graph.build adapters instances) target)
    (hs : Reaches settings (Graph.build adapters instances) target s)
    (hb : b ∈ s.accepted.toList) :
    ∃ d tree, b.driver? target = some d ∧ d.tree? = some tree ∧ b.Follows tree ∧
      settings.Admitted (Graph.build adapters instances) target 0 tree ∧
      (settings.requireSeed = true → Supply.anySeed tree = true) ∧
      ∀ other, settings.Admitted (Graph.build adapters instances) target 0 other →
        b.Follows other → other = tree := by
  obtain ⟨hgrown, hpending⟩ := (hs.grown_plans htarget hfree).2 b hb
  obtain ⟨d, sub, hd, htree, hsub, hnil⟩ := hgrown.exists_tree hpending
  have hadmitted := admitted_of_supplies hgrown hpending hsub hgrown.coherent.head
  refine ⟨d, sub 0, hd, htree, Option.isSome_iff_exists.mpr ⟨_, hnil⟩, hadmitted,
    fun hrequire => ?_, fun other hother hfollows => ?_⟩
  · have hseeds := (hs.explores htarget hfree).seeded hb hrequire
    exact (Supply.anySeed_of_follow hnil).mpr
      (.inl (hgrown.coherent.none_mem_decisions.mpr hseeds))
  · have hnil' := follow_eq_nil_of_finished hgrown hpending hother hfollows
    obtain ⟨hlength, -, -⟩ := hother
    exact Supply.follow_injective hnil' hnil (hlength.trans (hsub.length_eq hgrown.coherent.head).symm)

/-- The drivers read as trees are the accepted branches read as trees. -/
theorem map_tree?_drivers (settings : SearchSettings) (graph : Graph) (target : Node) :
    (settings.search graph target).drivers.map Driver.tree? =
      (settings.search graph target).accepted.map fun b => (b.driver? target).bind Driver.tree? := by
  have hmap := congrArg (List.map fun d : Option Driver => d.bind Driver.tree?)
    (settings.map_driver?_accepted graph target)
  rw [List.map_map, List.map_map] at hmap
  exact hmap.symm

/-- A search that ends with nothing on its stack finds every admitted tree exactly once, if no
cap but those on depth and branching bites and the order of producers is steady. -/
theorem mem_trees_iff_admitted (htarget : target ∈ (Graph.build adapters instances).nodes)
    (hfree : settings.Unhindered (Graph.build adapters instances) target)
    (hends : (settings.final (Graph.build adapters instances) target).stack = []) :
    ∃ trees : List (List Supply), (settings.search (Graph.build adapters instances) target).drivers.map Driver.tree? =
        trees.map some ∧
      trees.Nodup ∧
      ∀ tree, tree ∈ trees ↔
        settings.Admitted (Graph.build adapters instances) target 0 tree ∧
          (settings.requireSeed = true → Supply.anySeed tree = true) := by
  obtain ⟨last, hlast, -, hfinal⟩ :=
    exists_reaches_final settings (Graph.build adapters instances) target
  rw [hfinal, conclude_stack] at hends
  have haccepted : (settings.search (Graph.build adapters instances) target).accepted =
      last.accepted.toList := by
    rw [accepted_search, hfinal, conclude_accepted]
  have hexplores := hlast.explores htarget hfree
  have hlive : last.live = last.accepted.toList := by
    simp [SearchState.live, SearchState.waiting, hends]
  have hdrivers := map_tree?_drivers settings (Graph.build adapters instances) target
  rw [haccepted] at hdrivers
  have hread : ∀ b ∈ last.accepted.toList,
      ((b.driver? target).bind Driver.tree?).isSome = true := by
    intro b hb
    obtain ⟨d, tree, hd, htree, -⟩ := exists_tree_of_mem_accepted htarget hfree hlast hb
    rw [hd, Option.bind_some, htree]
    rfl
  obtain ⟨trees, htrees⟩ := exists_mapM_eq_some hread
  rw [mapM_eq_some_iff] at htrees
  have hmem : ∀ tree, tree ∈ trees ↔
      ∃ b ∈ last.accepted.toList, (b.driver? target).bind Driver.tree? = some tree := by
    intro tree
    rw [← List.mem_map, htrees]
    simp
  refine ⟨trees, hdrivers.trans htrees, ?_, fun tree => ?_⟩
  · -- two branches with one tree would stand for a common one
    refine List.Nodup.of_map some (htrees ▸ ?_)
    refine List.pairwise_map.mpr ((hlive ▸ hexplores.disjoint).imp_of_mem ?_)
    intro b c hb hc hdisjoint heq
    obtain ⟨d, tree, hd, htree, hfollows, -⟩ := exists_tree_of_mem_accepted htarget hfree hlast hb
    obtain ⟨d', tree', hd', htree', hfollows', -⟩ :=
      exists_tree_of_mem_accepted htarget hfree hlast hc
    rw [hd, hd', Option.bind_some, Option.bind_some, htree, htree'] at heq
    exact hdisjoint tree hfollows (Option.some.inj heq ▸ hfollows')
  · rw [hmem]
    constructor
    · rintro ⟨b, hb, hbtree⟩
      obtain ⟨d, tree', hd, htree, -, hadmitted, hseed, -⟩ :=
        exists_tree_of_mem_accepted htarget hfree hlast hb
      rw [hd, Option.bind_some, htree] at hbtree
      obtain rfl := Option.some.inj hbtree
      exact ⟨hadmitted, hseed⟩
    · -- some branch stands for the tree, and it is the only one it stands for
      rintro ⟨hadmitted, hseed⟩
      obtain ⟨b, hb, hfollows⟩ := hexplores.complete hadmitted hseed
      rw [hlive] at hb
      obtain ⟨d, tree', hd, htree, -, -, -, honly⟩ :=
        exists_tree_of_mem_accepted htarget hfree hlast hb
      refine ⟨b, hb, ?_⟩
      rw [hd, Option.bind_some, htree, honly tree hadmitted hfollows]

end Build

/-! ## When the cap on calls does not bite -/

/-- A branch has at most one call more than steps were taken. -/
theorem Reaches.length_calls_le (h : Reaches settings graph target s) :
    ∀ b ∈ s.waiting, b.calls.length ≤ s.expansions + 1 := by
  induction h with
  | start =>
      intro b hb
      obtain rfl := List.mem_singleton.mp hb
      simp [Branch.root]
  | @step s s' hs hstep ih =>
      have hexpansions := hstep.expansions_eq
      intro c hc
      cases hstep with
      | refuse _ hstack | accept _ hstack | reject _ hstack =>
          have := ih c (by rw [SearchState.waiting, hstack]; exact List.mem_cons_of_mem _ hc)
          omega
      | @grow id b rest item later children _ hstack _ hexpand =>
          rw [SearchState.waiting_pushAll] at hc
          rcases List.mem_append.mp hc with hc | hc
          · rw [expand_ok hexpand] at hc
            obtain ⟨choice, -, rfl⟩ := List.mem_map.mp hc
            have hb := ih b (by simp [SearchState.waiting, hstack])
            have hfill : (b.fill id item later choice).calls.length ≤ b.calls.length + 1 := by
              cases choice <;> simp [Branch.fill, Branch.withSeed, Branch.withProducer]
            omega
          · have := ih c (by rw [SearchState.waiting, hstack]; exact List.mem_cons_of_mem _ hc)
            omega

/-- The cap on calls does not bite if it lies above the number of steps. -/
theorem unhindered_of_maxExpansions_lt (hbranching : 1 ≤ settings.maxBranching)
    (hsteady : settings.IsSteady graph) (hcalls : settings.maxExpansions < settings.maxCalls) :
    settings.Unhindered graph target := by
  refine ⟨hbranching, hsteady, ?_⟩
  rintro b ⟨s, id, rest, hs, hgo, hstack⟩ -
  have hlength := hs.length_calls_le b (by simp [SearchState.waiting, hstack])
  have := hgo.2
  omega

/-! ### A small case -/

/-- Settings under which a search for `feed` runs to its end. -/
def widgetSearch : SearchSettings :=
  ⟨3, 10, 4, 200, 100, .declaration, true, true⟩

/-- There is one tree for `feed`, whose widget is made and whose level is a seed. -/
theorem mem_trees_iff_admitted_feedWidget :
    ⟨1, feedWidget⟩ ∈ (Graph.build ⟨true, true⟩ [makeWidget, feedWidget]).nodes ∧
      widgetSearch.Unhindered (Graph.build ⟨true, true⟩ [makeWidget, feedWidget]) ⟨1, feedWidget⟩ ∧
      (widgetSearch.final (Graph.build ⟨true, true⟩ [makeWidget, feedWidget])
        ⟨1, feedWidget⟩).stack = [] ∧
      ∃ trees : List (List Supply), trees.length = 1 ∧
        (widgetSearch.search (Graph.build ⟨true, true⟩ [makeWidget, feedWidget])
          ⟨1, feedWidget⟩).drivers.map Driver.tree? = trees.map some ∧
        trees.Nodup ∧
        ∀ tree, tree ∈ trees ↔
          widgetSearch.Admitted (Graph.build ⟨true, true⟩ [makeWidget, feedWidget])
              ⟨1, feedWidget⟩ 0 tree ∧
            (widgetSearch.requireSeed = true → Supply.anySeed tree = true) := by
  have htarget : ⟨1, feedWidget⟩ ∈ (Graph.build ⟨true, true⟩ [makeWidget, feedWidget]).nodes := by
    decide +kernel
  have hfree : widgetSearch.Unhindered (Graph.build ⟨true, true⟩ [makeWidget, feedWidget])
      ⟨1, feedWidget⟩ :=
    unhindered_of_maxExpansions_lt (by decide) (.inl (by decide)) (by decide)
  have hends : (widgetSearch.final (Graph.build ⟨true, true⟩ [makeWidget, feedWidget])
      ⟨1, feedWidget⟩).stack = [] := by
    decide +kernel
  have hone : (widgetSearch.search (Graph.build ⟨true, true⟩ [makeWidget, feedWidget])
      ⟨1, feedWidget⟩).drivers.length = 1 := by
    decide +kernel
  obtain ⟨trees, htrees, hnodup, hmem⟩ := mem_trees_iff_admitted htarget hfree hends
  have hlength := congrArg List.length htrees
  rw [List.length_map, List.length_map, hone] at hlength
  exact ⟨htarget, hfree, hends, trees, hlength.symm, htrees, hnodup, hmem⟩

end SearchSettings
end FuzzSynth
