/-
No driver is found twice.

Two accepted branches go back to one branch that was replaced, and were told apart there
by what filled an input.  `Branch.Diverges` keeps that difference: neither branch decided
on all that the other did, in the same order.  All branches that are held diverge from one
another (`Reaches.pairwise_diverges`), for whatever is tried for an input is tried once.
It does not matter how many ways are tried and in which order, and so neither does what was
accepted before, nor where the search is stopped.

A driver does not hold the decisions of its branch, and its calls are numbered the other
way around.  But it is read as a tree in which the decisions can be followed to the end,
and only those (`Supply.follow_unique`).  So branches that diverge become drivers that
differ (`Diverges.differs`).
-/
import FuzzSynth.Proofs.Graph.Comparison
import FuzzSynth.Proofs.Search.Plan

namespace FuzzSynth

/-! ## One tree, one list of decisions -/

/-- The decisions that lead to the end of a queue of supplies are the only ones that do. -/
theorem Supply.follow_unique {queue : List Supply} {cs cs' : List (Option Edge)}
    (h : follow queue cs = some []) (h' : follow queue cs' = some []) : cs = cs' := by
  induction cs generalizing queue cs' with
  | nil =>
      obtain rfl : queue = [] := Option.some.inj h
      cases cs' with
      | nil => rfl
      | cons c' cs' =>
          -- nothing can be decided on where nothing is left
          have hnone : follow [] (c' :: cs') = none := rfl
          rw [hnone] at h'
          cases h'
  | cons c cs ih =>
      obtain ⟨next, hnext, h⟩ := Option.bind_eq_some_iff.mp h
      obtain ⟨s, rest, rfl, ⟨hedge, -⟩, rfl⟩ := advance_eq_some.mp hnext
      cases cs' with
      | nil => cases h'
      | cons c' cs' =>
          obtain ⟨next', hnext', h'⟩ := Option.bind_eq_some_iff.mp h'
          obtain ⟨s', rest', hcons, ⟨hedge', -⟩, rfl⟩ := advance_eq_some.mp hnext'
          obtain ⟨rfl, rfl⟩ := List.cons.inj hcons
          rw [ih h h', ← hedge, ← hedge']

/-! ## Drivers that differ -/

namespace Driver

/-- The drivers differ in the number of their calls, in the function called at some place, or
in what some input of a call is bound to. -/
def Differs (d e : Driver) : Prop :=
  d.calls.length ≠ e.calls.length ∨
    (∃ (p : Nat) (c c' : DriverCall), d.calls[p]? = some c ∧ e.calls[p]? = some c' ∧
      c.node ≠ c'.node) ∨
    ∃ (p i : Nat) (x y : Binding), d.bindingAt? p i = some x ∧ e.bindingAt? p i = some y ∧ x ≠ y

/-- Every call binds each of its inputs. -/
def BindsAll (d : Driver) : Prop :=
  ∀ c ∈ d.calls, c.bindings.length = c.node.api.inputTypes.length

/-- Drivers that bind all inputs and do not differ have the same calls. -/
theorem calls_eq_of_not_differs {d e : Driver} (hd : d.BindsAll) (he : e.BindsAll)
    (h : ¬ d.Differs e) : d.calls = e.calls := by
  obtain ⟨hlength, h⟩ := not_or.mp h
  obtain ⟨hnodes, hbindings⟩ := not_or.mp h
  apply List.ext_getElem (not_not.mp hlength)
  intro p hp hp'
  have hc := List.getElem?_eq_getElem hp
  have hc' := List.getElem?_eq_getElem hp'
  have hnode : d.calls[p].node = e.calls[p].node := by
    by_contra hne
    exact hnodes ⟨p, _, _, hc, hc', hne⟩
  have hbound : d.calls[p].bindings = e.calls[p].bindings := by
    apply List.ext_getElem
    · rw [hd _ (List.getElem_mem hp), he _ (List.getElem_mem hp'), hnode]
    · intro i hi hi'
      by_contra hne
      refine hbindings ⟨p, i, _, _, ?_, ?_, hne⟩
      · rw [bindingAt?, hc, Option.bind_some, List.getElem?_eq_getElem hi]
      · rw [bindingAt?, hc', Option.bind_some, List.getElem?_eq_getElem hi']
  calc d.calls[p]
    _ = ⟨d.calls[p].node, d.calls[p].bindings⟩ := rfl
    _ = ⟨e.calls[p].node, e.calls[p].bindings⟩ := by rw [hnode, hbound]

/-- How a driver is read depends on its calls only. -/
theorem tree?_eq_of_calls_eq {d e : Driver} (h : d.calls = e.calls) : d.tree? = e.tree? := by
  unfold tree?
  rw [h]

end Driver

namespace Branch

/-! ## Branches that diverge -/

/-- The branches have decided differently on some input: neither goes on from the other. -/
def Diverges (b c : Branch) : Prop :=
  ¬ b.decisions <+: c.decisions ∧ ¬ c.decisions <+: b.decisions

variable {ok : Pending → Option Edge → Prop} {target : Node} {b c : Branch}

theorem Diverges.symm (h : b.Diverges c) : c.Diverges b :=
  ⟨h.2, h.1⟩

/-- A branch that goes on from another one diverges from all that this one does. -/
theorem Diverges.of_concat (h : b.Diverges c) {child : Branch} {x : Option Edge}
    (hchild : child.decisions = b.decisions ++ [x]) : child.Diverges c := by
  have hparent : b.decisions <+: child.decisions := by
    rw [hchild]
    exact List.prefix_append _ _
  constructor
  · intro hbegins
    exact h.1 (hparent.trans hbegins)
  · intro hbegins
    rw [hchild, List.prefix_concat_iff] at hbegins
    rcases hbegins with heq | hbegins
    · exact h.1 (heq ▸ List.prefix_append _ _)
    · exact h.2 hbegins

/-- Branches that go on differently from the same one diverge. -/
theorem diverges_of_concat {parent : Branch} {x y : Option Edge} (hne : x ≠ y)
    (hb : b.decisions = parent.decisions ++ [x]) (hc : c.decisions = parent.decisions ++ [y]) :
    b.Diverges c := by
  have hlength : b.decisions.length = c.decisions.length := by
    rw [hb, hc, List.length_append, List.length_append, List.length_singleton,
      List.length_singleton]
  have hdecisions : b.decisions ≠ c.decisions := by
    intro heq
    rw [hb, hc] at heq
    obtain ⟨-, hlast⟩ := List.append_inj' heq rfl
    exact hne (List.singleton_inj.mp hlast)
  constructor
  · intro hbegins
    exact hdecisions (hbegins.eq_of_length hlength)
  · intro hbegins
    exact hdecisions (hbegins.eq_of_length hlength.symm).symm

/-- What a finished branch becomes binds all inputs of its calls. -/
theorem Becomes.bindsAll {d : Driver} (h : b.Becomes target d) : d.BindsAll := by
  intro call hcall
  obtain ⟨p, hp⟩ := List.mem_iff_getElem?.mp hcall
  obtain ⟨id, depth, -, -, hlength, -⟩ := h.call hp
  exact hlength

/-- Finished branches that diverge become drivers that differ. -/
theorem Diverges.differs (h : b.Diverges c) (hb : b.Grown ok target) (hc : c.Grown ok target)
    (hbpending : b.pending = []) (hcpending : c.pending = []) {d e : Driver}
    (hd : b.driver? target = some d) (he : c.driver? target = some e) : d.Differs e := by
  by_contra hsame
  have hcalls : d.calls = e.calls :=
    Driver.calls_eq_of_not_differs (becomes_of_driver? hd).bindsAll
      (becomes_of_driver? he).bindsAll hsame
  obtain ⟨d', sub, hd', htree, -, hfollow⟩ := hb.exists_tree hbpending
  obtain ⟨e', sub', he', htree', -, hfollow'⟩ := hc.exists_tree hcpending
  obtain rfl : d = d' := Option.some.inj (hd.symm.trans hd')
  obtain rfl : e = e' := Option.some.inj (he.symm.trans he')
  -- both are read as one tree, and the decisions of both branches lead through it
  have hsub : sub 0 = sub' 0 := by
    rw [Driver.tree?_eq_of_calls_eq hcalls, htree'] at htree
    exact (Option.some.inj htree).symm
  rw [← hsub] at hfollow'
  have hdecisions := Supply.follow_unique hfollow hfollow'
  exact h.1 (hdecisions ▸ List.prefix_rfl)

end Branch

/-! ## What is tried for an input -/

namespace Graph

variable {instances : List Instance} {choice : AdapterChoice} {consumer : Node} {i : Nat} {e : Edge}

/-- Edges lead to a node of the graph at the place that is asked for. -/
theorem exists_consumer_of_mem_producersFor
    (he : e ∈ (build choice instances).producersFor consumer i) :
    ∃ n ∈ nodesOf instances, (build choice instances).producersFor consumer i =
      (build choice instances).producersFor n i := by
  have hrows := producersFor_eq_rows (build choice instances) consumer i
  rw [rows_build, List.getElem?_map, getElem?_nodesOf] at hrows
  cases hplace : instances[consumer.place]? with
  | none =>
      rw [hrows, hplace] at he
      simp at he
  | some m => exact ⟨⟨consumer.place, m⟩, mem_nodesOf.mpr hplace, rfl⟩

/-- No edge stands twice among those into one input. -/
theorem nodup_producersFor (choice : AdapterChoice) (instances : List Instance) (consumer : Node)
    (i : Nat) : ((build choice instances).producersFor consumer i).Nodup := by
  cases hedges : (build choice instances).producersFor consumer i with
  | nil => exact List.nodup_nil
  | cons e rest =>
      have he : e ∈ (build choice instances).producersFor consumer i := by
        rw [hedges]
        exact List.mem_cons_self
      obtain ⟨n, hn, hsame⟩ := exists_consumer_of_mem_producersFor he
      rw [← hedges, hsame]
      exact nodup_producersFor_build hn

/-- The edges into one input differ in the producer or in the adapter. -/
theorem eq_of_into_eq {item : Pending} {e e' : Edge}
    (he : e ∈ (build choice instances).producersFor item.consumer item.slot.input)
    (he' : e' ∈ (build choice instances).producersFor item.consumer item.slot.input)
    (h : e.into item = e'.into item) : e = e' := by
  obtain ⟨n, hn, hsame⟩ := exists_consumer_of_mem_producersFor he
  rw [hsame] at he he'
  obtain ⟨_, -, ⟨hconsumer, hinput⟩, -⟩ := (mem_producersFor_build hn).mp he
  obtain ⟨_, -, ⟨hconsumer', hinput'⟩, -⟩ := (mem_producersFor_build hn).mp he'
  obtain ⟨hproducer, -, -, hadapter⟩ := Edge.mk.inj h
  calc e
    _ = ⟨e.producer, e.consumer, e.input, e.adapter⟩ := rfl
    _ = ⟨e'.producer, e'.consumer, e'.input, e'.adapter⟩ := by
        rw [hproducer, hadapter, hconsumer, hconsumer', hinput, hinput']

end Graph

/-! ## The run -/

namespace SearchSettings

variable {settings : SearchSettings} {adapters : AdapterChoice} {instances : List Instance}
  {target : Node} {s s' : SearchState} {usage : Usage} {id : Nat} {b : Branch} {item : Pending}
  {later : List Pending}

/-- The branches that replace a branch diverge from one another. -/
theorem pairwise_diverges_fill {ok : Pending → Option Edge → Prop} (hb : b.Coherent ok target)
    (hpending : b.pending = item :: later) :
    ((settings.choices (Graph.build adapters instances) usage b item).map
      (b.fill id item later)).Pairwise Branch.Diverges := by
  have hnodup : (settings.choices (Graph.build adapters instances) usage b item).Nodup :=
    nodup_choices (Graph.nodup_producersFor adapters instances _ _)
  refine List.pairwise_map.mpr (hnodup.imp_of_mem ?_)
  intro x y hx hy hne
  have hdecided : x.map (·.into item) ≠ y.map (·.into item) := by
    intro heq
    cases x with
    | none => cases y with
      | none => exact hne rfl
      | some e => cases heq
    | some e => cases y with
      | none => cases heq
      | some e' =>
          have hinto : e.into item = e'.into item := Option.some.inj heq
          have he := offers_of_mem_choices hx
          have he' := offers_of_mem_choices hy
          exact hne (congrArg some (Graph.eq_of_into_eq he he' hinto))
  exact Branch.diverges_of_concat hdecided (Branch.decisions_fill_into hb hpending)
    (Branch.decisions_fill_into hb hpending)

/-- All along a search the branches that are held diverge from one another. -/
theorem Reaches.pairwise_diverges
    (h : Reaches settings (Graph.build adapters instances) target s) :
    s.live.Pairwise Branch.Diverges := by
  induction h with
  | start => exact List.pairwise_singleton _ _
  | @step s s' hs hstep ih =>
      cases hstep with
      | refuse _ hstack | reject _ hstack =>
          rw [live_of_stack hstack, List.pairwise_cons] at ih
          exact ih.2
      | accept _ hstack =>
          exact ((live_perm_of_stack hstack).pairwise_iff fun hbc => hbc.symm).mp ih
      | @grow id b rest item later children _ hstack hpending hexpand =>
          have hb := (hs.grown.2.1 b (by simp [SearchState.waiting, hstack])).coherent
          rw [live_of_stack hstack, List.pairwise_cons] at ih
          rw [SearchState.live_pushAll, expand_ok hexpand, List.pairwise_append]
          refine ⟨pairwise_diverges_fill hb hpending, ih.2, ?_⟩
          -- what goes on from the branch on top diverges from what that did
          intro child hchild other hother
          obtain ⟨choice, -, rfl⟩ := List.mem_map.mp hchild
          exact (ih.1 other hother).of_concat (Branch.decisions_fill_into hb hpending)

/-- Every accepted branch of a search is a driver, and any two of the drivers differ, whatever
the settings. -/
theorem pairwise_differs_drivers (settings : SearchSettings) (adapters : AdapterChoice)
    (instances : List Instance) (target : Node) :
    (settings.search (Graph.build adapters instances) target).accepted.map (·.driver? target) =
        (settings.search (Graph.build adapters instances) target).drivers.map some ∧
      (settings.search (Graph.build adapters instances) target).drivers.Pairwise Driver.Differs := by
  refine ⟨settings.map_driver?_accepted _ target, ?_⟩
  obtain ⟨last, hlast, -, hfinal⟩ :=
    exists_reaches_final settings (Graph.build adapters instances) target
  have haccepted : (settings.search (Graph.build adapters instances) target).accepted.Pairwise
      Branch.Diverges := by
    rw [accepted_search, hfinal, conclude_accepted]
    exact (List.pairwise_append.mp hlast.pairwise_diverges).2.1
  rw [Outcome.drivers, List.pairwise_filterMap]
  refine haccepted.imp_of_mem ?_
  intro b c hb hc hdiverges d hd e he
  obtain ⟨hbgrown, hbpending⟩ := settings.grown_of_mem_accepted _ target hb
  obtain ⟨hcgrown, hcpending⟩ := settings.grown_of_mem_accepted _ target hc
  exact hdiverges.differs hbgrown hcgrown hbpending hcpending hd he

end SearchSettings
end FuzzSynth
