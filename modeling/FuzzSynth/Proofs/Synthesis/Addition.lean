/-
A declaration that feeds nothing.

A further declaration whose instances feed no instance of another one changes nothing for the
others: each of their targets has the drivers and the diagnostics it had
(`Synthesis.outcomes_eq_of_feedsNothing`).  The nodes of the others are moved past the new ones
and the graph among them stays as it was (`Graph.isRenumbered_build`), so every search takes the
same course.  That there is a result at all is another matter: a scan window that does not fit a
machine word is never looked at while nothing is generic, and stops the run as soon as the
further declaration is, and its own diagnostics may state a cap that cannot be written
(`Synthesis.exists_unaffected_run_iff`).
-/
import Mathlib
import FuzzSynth.Proofs.Graph.Insertion
import FuzzSynth.Proofs.Synthesis.Accounting

namespace FuzzSynth

/-- The document with one more declaration, put in at a position. -/
def Document.insert (document : Document) (position : Nat) (extra : ApiFact) : Document :=
  { document with apis := document.apis.take position ++ extra :: document.apis.drop position }

namespace Synthesis

/-! ## Targets -/

theorem targetsAmong_filter (wanted : List String) (nodes : List Node) (keep : Node → Bool) :
    targetsAmong wanted (nodes.filter keep) = (targetsAmong wanted nodes).filter keep := by
  unfold targetsAmong
  split
  · rfl
  · rw [List.filter_filter, List.filter_filter]
    exact List.filter_congr fun n _ => Bool.and_comm _ _

theorem targetsAmong_renumber (f : Nat → Nat) (wanted : List String) (nodes : List Node) :
    targetsAmong wanted (nodes.map (Node.renumber f)) =
      (targetsAmong wanted nodes).map (Node.renumber f) := by
  unfold targetsAmong
  split
  · rfl
  · rw [List.filter_map]
    rfl

/-! ## What a further declaration adds -/

variable (config : Config) (document : Document) (position : Nat) (extra : ApiFact)

/-- The number of instances in front of those of the further declaration. -/
def insertionPlace : Nat :=
  ((document.apis.take position).flatMap (instancesOf config document)).length

/-- The number of instances of the further declaration. -/
def insertionCount : Nat :=
  (instancesOf config document extra).length

/-- The node is an instance of the further declaration. -/
def IsInserted (n : Node) : Prop :=
  IsWithin (insertionPlace config document position) (insertionCount config document extra) n.place

instance (n : Node) : Decidable (IsInserted config document position extra n) :=
  inferInstanceAs (Decidable (IsWithin _ _ _))

/-- The node where it comes to be in the larger graph. -/
def movedPlace : Nat → Nat :=
  past (insertionPlace config document position) (insertionCount config document extra)

/-- In the run over the larger document no edge leads from an instance of the further declaration
to an instance of another one. -/
def FeedsNothing : Prop :=
  ∀ t, run config (poolOf document) (.ofDocument (document.insert position extra)) = .ok t →
    ∀ e ∈ t.graph.edges, IsInserted config document position extra e.producer →
      IsInserted config document position extra e.consumer

variable {config document position extra} {s t : Synthesis}

theorem Ran.graph_eq_build (h : Ran config (poolOf document) (.ofDocument document) s) :
    s.graph = Graph.build config.adapters (document.apis.flatMap (instancesOf config document)) := by
  have hparts := h.parts
  rw [Surface.apis_ofDocument] at hparts
  rw [h.graph_eq, ← flatten_instancesOf hparts, List.flatMap_def]

/-- The graph over the larger document has the new instances between the others. -/
theorem Ran.graph_eq_insert
    (h : Ran config (poolOf document) (.ofDocument (document.insert position extra)) t) :
    t.graph = Graph.build config.adapters
      ((document.apis.take position).flatMap (instancesOf config document) ++
        instancesOf config document extra ++
        (document.apis.drop position).flatMap (instancesOf config document)) := by
  -- both documents have the same pool
  have h : Ran config (poolOf (document.insert position extra))
      (.ofDocument (document.insert position extra)) t := h
  have hgraph : t.graph = Graph.build config.adapters
      ((document.insert position extra).apis.flatMap (instancesOf config document)) :=
    h.graph_eq_build
  rw [hgraph, Document.insert, List.flatMap_append, List.flatMap_cons, List.append_assoc]

theorem Ran.graph_eq_append (h : Ran config (poolOf document) (.ofDocument document) s)
    (position : Nat) :
    s.graph = Graph.build config.adapters
      ((document.apis.take position).flatMap (instancesOf config document) ++
        (document.apis.drop position).flatMap (instancesOf config document)) := by
  rw [h.graph_eq_build, ← List.flatMap_append, List.take_append_drop]

/-- The nodes that are not new are those of the other declarations, at their new places. -/
theorem filter_not_isInserted :
    (nodesOf ((document.apis.take position).flatMap (instancesOf config document) ++
        instancesOf config document extra ++
        (document.apis.drop position).flatMap (instancesOf config document))).filter
          (fun n => ¬ IsInserted config document position extra n) =
      (nodesOf ((document.apis.take position).flatMap (instancesOf config document) ++
        (document.apis.drop position).flatMap (instancesOf config document))).map
          (Node.renumber (movedPlace config document position extra)) :=
  filter_nodesOf_insert _ _ _

theorem filter_nodes_eq
    (hs : Ran config (poolOf document) (.ofDocument document) s)
    (ht : Ran config (poolOf document) (.ofDocument (document.insert position extra)) t) :
    t.graph.nodes.filter (fun n => ¬ IsInserted config document position extra n) =
      s.graph.nodes.map (Node.renumber (movedPlace config document position extra)) := by
  rw [ht.graph_eq_insert, hs.graph_eq_append position]
  exact filter_not_isInserted

/-- The instances of the further declaration are the new nodes. -/
theorem map_api_inserted
    (ht : Ran config (poolOf document) (.ofDocument (document.insert position extra)) t) :
    (t.graph.nodes.filter fun n => IsInserted config document position extra n).map Node.api =
      instancesOf config document extra := by
  rw [ht.graph_eq_insert]
  exact map_api_filter_isWithin _ _ _

/-- The targets of the others have what they had, with every node at its new place. -/
theorem outcomes_eq_of_feedsNothing
    (hs : Ran config (poolOf document) (.ofDocument document) s)
    (ht : Ran config (poolOf document) (.ofDocument (document.insert position extra)) t)
    (hfeeds : ∀ e ∈ t.graph.edges, IsInserted config document position extra e.producer →
      IsInserted config document position extra e.consumer) :
    (t.outcomes.filter fun o => ¬ IsInserted config document position extra o.target) =
      s.outcomes.map (Outcome.renumber (movedPlace config document position extra)) := by
  have hmoved : t.graph.IsRenumbered (movedPlace config document position extra) s.graph := by
    rw [ht.graph_eq_insert] at hfeeds ⊢
    rw [hs.graph_eq_append position]
    exact Graph.isRenumbered_build hfeeds
  -- outcomes are those of the targets in order, so it is the targets that are compared
  rw [ht.outcomes_eq, hs.outcomes_eq, List.filter_map, List.map_map]
  show ((targetsAmong config.targets t.graph.nodes).filter
      fun n => ¬ IsInserted config document position extra n).map _ = _
  rw [← targetsAmong_filter, filter_nodes_eq hs ht, targetsAmong_renumber, List.map_map]
  exact List.map_congr_left fun target _ => SearchSettings.search_renumber hmoved target

/-! ## Whether anything changes -/

/-- The other outcome is for the same target, seen at its new place: it has the same drivers,
which are exported and outlined alike, and the same diagnostics. -/
structure Agrees (f : Nat → Nat) (o other : Outcome) : Prop where
  target : other.target = o.target.renumber f
  drivers : other.drivers = o.drivers.map (Driver.renumber f)
  exported : other.drivers.map Driver.toJson? = o.drivers.map Driver.toJson?
  described : other.drivers.map Driver.describe = o.drivers.map Driver.describe
  report : other.report = o.report

theorem agrees_renumber (f : Nat → Nat) (o : Outcome) : Agrees f o (o.renumber f) := by
  have hdrivers := o.drivers_renumber (f := f)
  refine ⟨rfl, hdrivers, ?_, ?_, rfl⟩
  · rw [hdrivers, List.map_map]
    exact List.map_congr_left fun d _ => d.toJson?_renumber
  · rw [hdrivers, List.map_map]
    exact List.map_congr_left fun d _ => d.describe_renumber

/-- A further declaration that feeds nothing leaves the targets of all others their drivers, in
their order, and their diagnostics, exactly if there is a result with it and without it: if the scan
window fits a machine word or no function is generic, the further one included, and every cap that
either run comes to state can be written. -/
theorem exists_unaffected_run_iff (hfeeds : FeedsNothing config document position extra) :
    (∃ s t, run config (poolOf document) (.ofDocument document) = .ok s ∧
        run config (poolOf document) (.ofDocument (document.insert position extra)) = .ok t ∧
        (t.graph.nodes.filter fun n => IsInserted config document position extra n).map Node.api =
          instancesOf config document extra ∧
        List.Forall₂ (Agrees (movedPlace config document position extra)) s.outcomes
          (t.outcomes.filter fun o => ¬ IsInserted config document position extra o.target)) ↔
      HasResult config (poolOf document) (.ofDocument document) ∧
        HasResult config (poolOf document) (.ofDocument (document.insert position extra)) := by
  simp only [← exists_run_iff]
  constructor
  · rintro ⟨s, t, hs, ht, -⟩
    exact ⟨⟨s, hs⟩, t, ht⟩
  · rintro ⟨⟨s, hs⟩, t, ht⟩
    refine ⟨s, t, hs, ht, map_api_inserted (ran_of_run ht), ?_⟩
    rw [outcomes_eq_of_feedsNothing (ran_of_run hs) (ran_of_run ht) (hfeeds t ht),
      List.forall₂_map_right_iff]
    exact List.forall₂_same.mpr fun o _ => agrees_renumber _ o

/-! ### A small case -/

/-- An edge leads to an input. -/
theorem exists_wanted_of_mem_edges {choice : AdapterChoice} {instances : List Instance} {e : Edge}
    (he : e ∈ (Graph.build choice instances).edges) :
    ∃ wanted, e.consumer.api.inputTypes[e.input]? = some wanted := by
  have hnode := (Graph.mem_nodes_of_mem_edges choice instances he).2
  have hproducer : e ∈ (Graph.build choice instances).producersFor e.consumer e.input := by
    rw [Graph.producersFor_build_eq_filter]
    exact List.mem_filter.mpr ⟨he, by simp⟩
  obtain ⟨wanted, hwanted, -⟩ := (Graph.mem_producersFor_build hnode).mp hproducer
  exact ⟨wanted, hwanted⟩

/-- Functions that take nothing are fed by nothing. -/
theorem feedsNothing_of_forall_inputs
    (h : ∀ m ∈ document.apis.flatMap (instancesOf config document), m.inputTypes = []) :
    FeedsNothing config document position extra := by
  intro t ht e he _
  rw [(ran_of_run ht).graph_eq_insert] at he
  have hnode := (Graph.mem_nodes_of_mem_edges _ _ he).2
  by_contra hother
  -- the consumer is one of the others, so it has no input that the edge could lead to
  have hmem : e.consumer ∈ (nodesOf _).filter fun n => ¬ IsInserted config document position extra n :=
    List.mem_filter.mpr ⟨hnode, decide_eq_true hother⟩
  rw [filter_not_isInserted, ← List.flatMap_append, List.take_append_drop] at hmem
  obtain ⟨m, hm, hconsumer⟩ := List.mem_map.mp hmem
  have hinputs : e.consumer.api.inputTypes = [] := hconsumer ▸ h m.api (api_mem_of_mem_nodesOf hm)
  obtain ⟨wanted, hwanted⟩ := exists_wanted_of_mem_edges he
  rw [hinputs] at hwanted
  cases hwanted

/-- A library with the one function `make() -> Widget`. -/
def makeDocument : Document where
  crate := "demo"
  apis := [⟨"demo::make", [], [], some "Widget"⟩]
  candidates := []

/-- `keep<T: Copy>(value: T) -> T`, which feeds nothing but itself there. -/
def keepFact : ApiFact :=
  ⟨"demo::keep", [⟨"T", ["Copy"]⟩], [⟨"value", "T"⟩], some "T"⟩

/-- `take(w: Widget)`, which is fed by `make`. -/
def takeFact : ApiFact :=
  ⟨"demo::take", [], [⟨"w", "Widget"⟩], none⟩

theorem feedsNothing_make (config : Config) (extra : ApiFact) :
    FeedsNothing config makeDocument 1 extra := by
  apply feedsNothing_of_forall_inputs
  have hsignature : ApiFact.signature ⟨"demo::make", [], [], some "Widget"⟩ =
      .ok ⟨"demo::make", [], [], .named "Widget" []⟩ := by
    cbv
  intro m hm
  rw [makeDocument, List.flatMap_singleton, instancesOf_eq hsignature rfl] at hm
  rw [List.mem_singleton.mp hm]
  rfl

/-- With the caps that are given `make` keeps its driver beside `keep`.  With a window one too
large for a machine word it has one alone, and beside `keep` there is no result; and neither is
there one beside `take`, where a cap that cannot be written has to be stated. -/
theorem exists_unaffected_run_keep :
    (FeedsNothing {} makeDocument 1 keepFact ∧ FeedsNothing wideConfig makeDocument 1 keepFact ∧
        FeedsNothing longConfig makeDocument 1 takeFact) ∧
      (∃ s, run wideConfig (poolOf makeDocument) (.ofDocument makeDocument) = .ok s) ∧
      (∃ s t, run {} (poolOf makeDocument) (.ofDocument makeDocument) = .ok s ∧
        run {} (poolOf makeDocument) (.ofDocument (makeDocument.insert 1 keepFact)) = .ok t ∧
        (t.graph.nodes.filter fun n => IsInserted {} makeDocument 1 keepFact n).map Node.api =
          instancesOf {} makeDocument keepFact ∧
        List.Forall₂ (Agrees (movedPlace {} makeDocument 1 keepFact)) s.outcomes
          (t.outcomes.filter fun o => ¬ IsInserted {} makeDocument 1 keepFact o.target)) ∧
      (¬ ∃ s t, run wideConfig (poolOf makeDocument) (.ofDocument makeDocument) = .ok s ∧
        run wideConfig (poolOf makeDocument) (.ofDocument (makeDocument.insert 1 keepFact)) = .ok t ∧
        (t.graph.nodes.filter fun n => IsInserted wideConfig makeDocument 1 keepFact n).map Node.api =
          instancesOf wideConfig makeDocument keepFact ∧
        List.Forall₂ (Agrees (movedPlace wideConfig makeDocument 1 keepFact)) s.outcomes
          (t.outcomes.filter fun o => ¬ IsInserted wideConfig makeDocument 1 keepFact o.target)) ∧
      ¬ ∃ s t, run longConfig (poolOf makeDocument) (.ofDocument makeDocument) = .ok s ∧
        run longConfig (poolOf makeDocument) (.ofDocument (makeDocument.insert 1 takeFact)) = .ok t ∧
        (t.graph.nodes.filter fun n => IsInserted longConfig makeDocument 1 takeFact n).map Node.api =
          instancesOf longConfig makeDocument takeFact ∧
        List.Forall₂ (Agrees (movedPlace longConfig makeDocument 1 takeFact)) s.outcomes
          (t.outcomes.filter fun o => ¬ IsInserted longConfig makeDocument 1 takeFact o.target) := by
  have hfeeds := feedsNothing_make {} keepFact
  have hwide := feedsNothing_make wideConfig keepFact
  have hlong := feedsNothing_make longConfig takeFact
  have hcaps : ∀ n ∈ ({} : Config).statedCaps, Text.isWritable n = true := by decide +kernel
  refine ⟨⟨hfeeds, hwide, hlong⟩, ?_, ?_, fun h => ?_, fun h => ?_⟩
  · exact (exists_run_iff ..).mpr (hasResult_of_statedCaps (.inr (by decide +kernel)) hcaps)
  · have hfits : ∀ document, HasResult {} (poolOf makeDocument) (.ofDocument document) :=
      fun _ => hasResult_of_statedCaps (.inl (by decide)) hcaps
    exact (exists_unaffected_run_iff hfeeds).mpr ⟨hfits _, hfits _⟩
  · rcases ((exists_unaffected_run_iff hwide).mp h).2.window with hfits | hplain
    · exact absurd hfits (by decide)
    · exact absurd hplain (by decide +kernel)
  · exact not_hasResult_take ((exists_unaffected_run_iff hlong).mp h).2

end Synthesis
end FuzzSynth
