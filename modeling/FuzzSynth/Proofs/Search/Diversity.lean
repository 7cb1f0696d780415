/-
Producers in the order of diversity.

The order puts a producer before those that more of the drivers accepted so far call, and keeps the
order of the graph among equals (`Sequence.pair_sublist_rankSort_iff`).  What is counted, though, is
keys: `callers` is the number of drivers that call some function of a key, and the counters of a
search are these numbers in each of its states (`Reaches.count_usage_eq`).

So a producer that no driver calls may stand behind one that is called, if it shares its key with
another function that is called (`IsSpread.preferred`).  If all keys differ, that does not happen
(`Reaches.isSpread_order`).
-/
import FuzzSynth.Proofs.Driver.Consumption
import FuzzSynth.Proofs.Search.Caps
import FuzzSynth.Proofs.Search.Usage
import FuzzSynth.Proofs.Sequence

namespace FuzzSynth

/-! ## Who is called -/

/-- Some driver calls the node. -/
def IsCalled (drivers : List Driver) (n : Node) : Prop :=
  ∃ d ∈ drivers, ∃ c ∈ d.calls, c.node = n

instance (drivers : List Driver) (n : Node) : Decidable (IsCalled drivers n) :=
  inferInstanceAs (Decidable (∃ d ∈ drivers, ∃ c ∈ d.calls, c.node = n))

/-- The number of drivers that call a function of this key. -/
def callers (drivers : List Driver) (key : String) : Nat :=
  drivers.countP fun d => key ∈ d.apisUsed

theorem Driver.mem_apisUsed_iff {d : Driver} {key : String} :
    key ∈ d.apisUsed ↔ ∃ c ∈ d.calls, c.node.api.key = key := by
  rw [apisUsed, Text.mem_sortedNames, List.mem_map]

theorem callers_pos_iff {drivers : List Driver} {key : String} :
    0 < callers drivers key ↔ ∃ n, IsCalled drivers n ∧ n.api.key = key := by
  simp only [callers, List.countP_pos_iff, decide_eq_true_eq, Driver.mem_apisUsed_iff]
  constructor
  · rintro ⟨d, hd, c, hc, hkey⟩
    exact ⟨c.node, ⟨d, hd, c, hc, rfl⟩, hkey⟩
  · rintro ⟨_, ⟨d, hd, c, hc, rfl⟩, hkey⟩
    exact ⟨d, hd, c, hc, hkey⟩

theorem Branch.Becomes.mem_apisUsed_iff {b : Branch} {target : Node} {d : Driver}
    (h : b.Becomes target d) {key : String} : key ∈ d.apisUsed ↔ key ∈ b.keys := by
  rw [Driver.mem_apisUsed_iff, Branch.mem_keys_iff]
  constructor
  · rintro ⟨c, hc, hkey⟩
    obtain ⟨p, hp⟩ := List.mem_iff_getElem?.mp hc
    obtain ⟨id, depth, -, hcall, -⟩ := h.call hp
    exact ⟨_, List.mem_of_getElem? hcall, hkey⟩
  · rintro ⟨⟨node, depth⟩, hc, hkey⟩
    obtain ⟨id, hid⟩ := List.mem_iff_getElem?.mp hc
    obtain ⟨c, hcall, rfl, -⟩ := h.exists_call hid
    exact ⟨c, List.mem_of_getElem? hcall, hkey⟩

/-- The drivers that a search has accepted so far. -/
def SearchState.drivers (s : SearchState) (target : Node) : List Driver :=
  s.accepted.toList.filterMap (·.driver? target)

namespace SearchSettings

variable {settings : SearchSettings} {graph : Graph} {target : Node} {s : SearchState}

theorem Reaches.map_driver?_accepted (h : Reaches settings graph target s) :
    s.accepted.toList.map (·.driver? target) = (s.drivers target).map some :=
  map_driver?_of_grown graph target h.grown.2.2

/-- All through a search the count of a key is the number of the drivers accepted so far that call
a function of that key. -/
theorem Reaches.count_usage_eq (h : Reaches settings graph target s) (key : String) :
    s.usage.count key = callers (s.drivers target) key := by
  -- a driver calls what its branch calls
  have hbranch : ∀ b ∈ s.accepted.toList,
      (key ∈ b.keys ↔ (b.driver? target).any (fun d => key ∈ d.apisUsed) = true) := by
    intro b hb
    obtain ⟨hgrown, hpending⟩ := h.grown.2.2 b hb
    obtain ⟨d, hd, hbecomes⟩ := hgrown.coherent.exists_driver hpending
    simp [hd, hbecomes.mem_apisUsed_iff]
  calc s.usage.count key
      = s.accepted.toList.countP fun b => key ∈ b.keys := h.count_usage key
    _ = (s.accepted.toList.map (·.driver? target)).countP
          fun found => found.any fun d => key ∈ d.apisUsed := by
        rw [List.countP_map]
        exact List.countP_congr fun b hb => by simpa using hbranch b hb
    _ = callers (s.drivers target) key := by
        rw [h.map_driver?_accepted, List.countP_map]
        rfl

/-! ## The order of producers -/

/-- Edges are put in the order of how many drivers call a function with the key of their
producer. -/
structure IsSpread (drivers : List Driver) (edges ordered : List Edge) : Prop where
  perm : ordered.Perm edges
  /-- One edge stands before another one exactly if the key of its producer has fewer callers, or if
  it has as many and the edge stood before the other. -/
  before_iff : ∀ e f : Edge, [e, f].Sublist ordered ↔
    (e ∈ edges ∧ f ∈ edges ∧
        callers drivers e.producer.api.key < callers drivers f.producer.api.key) ∨
      (callers drivers e.producer.api.key = callers drivers f.producer.api.key ∧
        [e, f].Sublist edges)
  /-- Behind a producer that is called stand only those with the key of a function that is
  called. -/
  preferred : ∀ e f : Edge, [e, f].Sublist ordered → IsCalled drivers e.producer →
    ∃ n, IsCalled drivers n ∧ n.api.key = f.producer.api.key

theorem Reaches.isSpread_order_of_diversity (h : Reaches settings graph target s)
    (hpolicy : settings.tieBreak = .diversity) (edges : List Edge) :
    IsSpread (s.drivers target) edges (settings.order s.usage edges) := by
  have horder : settings.order s.usage edges =
      Sequence.rankSort (fun e => callers (s.drivers target) e.producer.api.key) edges := by
    simp only [order, hpolicy, h.count_usage_eq]
  have hbefore : ∀ e f : Edge, [e, f].Sublist (settings.order s.usage edges) ↔ _ := fun e f =>
    horder ▸ Sequence.pair_sublist_rankSort_iff
  refine ⟨settings.order_perm s.usage edges, hbefore, fun e f hsublist hcalled => ?_⟩
  have hpos : 0 < callers (s.drivers target) e.producer.api.key :=
    callers_pos_iff.mpr ⟨e.producer, hcalled, rfl⟩
  refine callers_pos_iff.mp ?_
  rcases (hbefore e f).mp hsublist with ⟨-, -, hlt⟩ | ⟨heq, -⟩
  · exact hpos.trans hlt
  · exact heq ▸ hpos

variable {instances : List Instance} {choice : AdapterChoice}

/-- The drivers accepted so far call nodes of the graph. -/
theorem Reaches.mem_nodes_of_isCalled (htarget : target ∈ (Graph.build choice instances).nodes)
    (h : Reaches settings (Graph.build choice instances) target s) {n : Node}
    (hcalled : IsCalled (s.drivers target) n) : n ∈ nodesOf instances := by
  obtain ⟨d, hd, c, hc, rfl⟩ := hcalled
  obtain ⟨b, hb, hdriver⟩ := List.mem_filterMap.mp hd
  obtain ⟨p, hp⟩ := List.mem_iff_getElem?.mp hc
  obtain ⟨id, depth, -, hcall, -⟩ := (Branch.becomes_of_driver? hdriver).call hp
  exact mem_nodes_of_grown htarget (h.grown.2.2 b hb).1 _ (List.mem_of_getElem? hcall)

/-- In each state of a search under diversity, the producers of an input stand in the order of how
many of the drivers accepted so far call a function of their key.  If all instances have different
keys, then no producer that is not called yet stands behind one that is. -/
theorem Reaches.isSpread_order (hpolicy : settings.tieBreak = .diversity)
    (htarget : target ∈ (Graph.build choice instances).nodes)
    (h : Reaches settings (Graph.build choice instances) target s) {consumer : Node}
    (hconsumer : consumer ∈ (Graph.build choice instances).nodes) (input : Nat) :
    IsSpread (s.drivers target) ((Graph.build choice instances).producersFor consumer input)
        (settings.order s.usage ((Graph.build choice instances).producersFor consumer input)) ∧
      ((instances.map Instance.key).Nodup → ∀ e f : Edge,
        [e, f].Sublist
          (settings.order s.usage ((Graph.build choice instances).producersFor consumer input)) →
        IsCalled (s.drivers target) e.producer → IsCalled (s.drivers target) f.producer) := by
  have hspread := h.isSpread_order_of_diversity hpolicy
    ((Graph.build choice instances).producersFor consumer input)
  refine ⟨hspread, fun hkeys e f hsublist hcalled => ?_⟩
  have hnodes : ((nodesOf instances).map fun n => n.api.key).Nodup := by
    rw [← map_api_nodesOf instances, List.map_map] at hkeys
    exact hkeys
  have hf : f ∈ (Graph.build choice instances).producersFor consumer input :=
    mem_order.mp (hsublist.subset (by simp))
  have hproducer := Graph.producer_mem_of_mem_producersFor hconsumer hf
  obtain ⟨n, hn, hkey⟩ := hspread.preferred e f hsublist hcalled
  have hnode := h.mem_nodes_of_isCalled htarget hn
  obtain rfl := List.inj_on_of_nodup_map hnodes hnode hproducer hkey
  exact hn

/-! ### A small case -/

/-- `other() -> Widget`. -/
def otherWidget : Instance :=
  let other : Signature := ⟨"other", [], [], .named "Widget" []⟩
  ⟨other, .empty, other⟩

/-- `make(size: u8) -> Widget`, which has the path of another function. -/
def sizedWidget : Instance :=
  let make : Signature := ⟨"make", [], [("size", .named "u8" [])], .named "Widget" []⟩
  ⟨make, .empty, make⟩

/-- A function that takes two widgets, and three that give one. -/
def widgetMakers : Graph :=
  Graph.build ⟨false, false⟩ [joinWidgets, makeWidget, otherWidget, sizedWidget]

/-- Two producers are tried for an input, and three drivers are accepted. -/
def spreadSettings : SearchSettings := ⟨5, 3, 2, 16, 100, .diversity, false, false⟩

/-- The same without the second `make`, so that all keys are different. -/
def twoMakers : Graph :=
  Graph.build ⟨false, false⟩ [joinWidgets, makeWidget, otherWidget]

/-- A search for three drivers comes through the state in which a search for two ends. -/
theorem reaches_after_two {graph : Graph}
    (h : (spreadSettings.capped 2 100).IsSettled
      ((spreadSettings.capped 2 100).final graph ⟨0, joinWidgets⟩)) :
    Reaches spreadSettings graph ⟨0, joinWidgets⟩
      ((spreadSettings.capped 2 100).final graph ⟨0, joinWidgets⟩) :=
  (reaches_final h).mono (by decide) (Int.le_refl 100)

/-- After two drivers the second input of `join` is looked at.  The second `make` is called in
neither of them, but stands behind `other`, since both call the first `make`.  Without it the keys
are different, and what stands behind `other`, which is called, is called as well. -/
theorem Reaches.isSpread_order_widgetMakers :
    (∃ s, spreadSettings.tieBreak = .diversity ∧
      (⟨0, joinWidgets⟩ : Node) ∈ widgetMakers.nodes ∧
      Reaches spreadSettings widgetMakers ⟨0, joinWidgets⟩ s ∧
      (s.waiting.map fun b => b.pending.map fun item => (item.consumer, item.slot.input)) =
        [[(⟨0, joinWidgets⟩, 1)]] ∧
      (spreadSettings.order s.usage (widgetMakers.producersFor ⟨0, joinWidgets⟩ 1)).map
        Edge.producer = [⟨2, otherWidget⟩, ⟨1, makeWidget⟩, ⟨3, sizedWidget⟩] ∧
      IsCalled (s.drivers ⟨0, joinWidgets⟩) ⟨2, otherWidget⟩ ∧
      ¬ IsCalled (s.drivers ⟨0, joinWidgets⟩) ⟨3, sizedWidget⟩ ∧
      IsSpread (s.drivers ⟨0, joinWidgets⟩) (widgetMakers.producersFor ⟨0, joinWidgets⟩ 1)
        (spreadSettings.order s.usage (widgetMakers.producersFor ⟨0, joinWidgets⟩ 1))) ∧
    ([joinWidgets, makeWidget, otherWidget].map Instance.key).Nodup ∧
      ∃ s, Reaches spreadSettings twoMakers ⟨0, joinWidgets⟩ s ∧
        (spreadSettings.order s.usage (twoMakers.producersFor ⟨0, joinWidgets⟩ 1)).map
          Edge.producer = [⟨2, otherWidget⟩, ⟨1, makeWidget⟩] ∧
        ∀ e f : Edge,
          [e, f].Sublist (spreadSettings.order s.usage
            (twoMakers.producersFor ⟨0, joinWidgets⟩ 1)) →
          e.producer = ⟨2, otherWidget⟩ →
          IsCalled (s.drivers ⟨0, joinWidgets⟩) e.producer ∧
            IsCalled (s.drivers ⟨0, joinWidgets⟩) f.producer := by
  have hnode : (⟨0, joinWidgets⟩ : Node) ∈ widgetMakers.nodes := by decide +kernel
  have hnode' : (⟨0, joinWidgets⟩ : Node) ∈ twoMakers.nodes := by decide +kernel
  have hkeys : ([joinWidgets, makeWidget, otherWidget].map Instance.key).Nodup := by decide +kernel
  constructor
  · have hreaches := @reaches_after_two widgetMakers (.inr (by decide +kernel))
    have hspread := (Reaches.isSpread_order rfl hnode hreaches hnode 1).1
    exact ⟨_, rfl, hnode, hreaches, by decide +kernel, by decide +kernel, by decide +kernel,
      by decide +kernel, hspread⟩
  · have hreaches := @reaches_after_two twoMakers (.inr (by decide +kernel))
    have hcalled := (Reaches.isSpread_order rfl hnode' hreaches hnode' 1).2 hkeys
    refine ⟨hkeys, _, hreaches, by decide +kernel, fun e f hsublist he => ?_⟩
    have hother : IsCalled (((spreadSettings.capped 2 100).final twoMakers
        ⟨0, joinWidgets⟩).drivers ⟨0, joinWidgets⟩) e.producer := by
      rw [he]
      decide +kernel
    exact ⟨hother, hcalled e f hsublist hother⟩

end SearchSettings
end FuzzSynth
