/-
Graphs with nodes put in.

Instances that are put in between others push those behind them on (`past`), and the edges
among the others are listed as before, in the same order, as long as the new ones feed none of
them: the graph without the new instances is, moved, the rest of the graph that has them
(`isRenumbered_build`).
-/
import FuzzSynth.Proofs.Graph.Comparison
import FuzzSynth.Proofs.Search.Renumbering

namespace FuzzSynth

/-- Where a place comes to be when `count` places are put in at `start`. -/
def past (start count place : Nat) : Nat :=
  if place < start then place else place + count

/-- One of the `count` places from `start` on. -/
def IsWithin (start count place : Nat) : Prop :=
  start ≤ place ∧ place < start + count

instance (start count place : Nat) : Decidable (IsWithin start count place) :=
  inferInstanceAs (Decidable (_ ∧ _))

theorem past_of_lt {start count place : Nat} (h : place < start) : past start count place = place :=
  if_pos h

theorem past_of_le {start count place : Nat} (h : start ≤ place) :
    past start count place = place + count :=
  if_neg (by omega)

theorem not_isWithin_past (start count place : Nat) : ¬ IsWithin start count (past start count place) := by
  unfold IsWithin past
  split <;> omega

/-! ## Nodes -/

section Nodes

variable (before added after : List Instance)

theorem nodesOf_append (before after : List Instance) :
    nodesOf (before ++ after) =
      nodesOf before ++ (nodesOf after).map (Node.renumber (· + before.length)) := by
  rw [nodesOf, List.mapIdx_append, nodesOf, nodesOf, List.mapIdx_eq_zipIdx_map (l := after),
    List.mapIdx_eq_zipIdx_map (l := after), List.map_map]
  rfl

theorem place_lt_of_mem_nodesOf {instances : List Instance} {n : Node} (h : n ∈ nodesOf instances) :
    n.place < instances.length :=
  (List.getElem?_eq_some_iff.mp (mem_nodesOf.mp h)).1

variable {before added after}

theorem not_isWithin_of_mem_before {n : Node} (h : n ∈ nodesOf before) :
    ¬ IsWithin before.length added.length n.place := by
  have := place_lt_of_mem_nodesOf h
  unfold IsWithin
  omega

theorem isWithin_of_mem_added {n : Node}
    (h : n ∈ (nodesOf added).map (Node.renumber (· + before.length))) :
    IsWithin before.length added.length n.place := by
  obtain ⟨m, hm, rfl⟩ := List.mem_map.mp h
  have := place_lt_of_mem_nodesOf hm
  simp only [IsWithin, Node.renumber]
  omega

theorem not_isWithin_of_mem_after {n : Node}
    (h : n ∈ (nodesOf after).map (Node.renumber (· + (before ++ added).length))) :
    ¬ IsWithin before.length added.length n.place := by
  obtain ⟨m, -, rfl⟩ := List.mem_map.mp h
  simp only [IsWithin, Node.renumber, List.length_append]
  omega

variable (before added after)

/-- The nodes that are not new are the old ones at their new places. -/
theorem filter_nodesOf_insert :
    (nodesOf (before ++ added ++ after)).filter
        (fun n => ¬ IsWithin before.length added.length n.place) =
      (nodesOf (before ++ after)).map (Node.renumber (past before.length added.length)) := by
  have hbefore : (nodesOf before).map (Node.renumber (past before.length added.length)) =
      nodesOf before := by
    have hsame : ∀ n ∈ nodesOf before, n.renumber (past before.length added.length) = n := by
      intro n hn
      rw [Node.renumber, past_of_lt (place_lt_of_mem_nodesOf hn)]
    rw [List.map_congr_left hsame, List.map_id']
  have hafter : ((nodesOf after).map (Node.renumber (· + before.length))).map
        (Node.renumber (past before.length added.length)) =
      (nodesOf after).map (Node.renumber (· + (before ++ added).length)) := by
    rw [List.map_map]
    refine List.map_congr_left fun n _ => ?_
    rw [Function.comp_apply, Node.renumber, Node.renumber, past_of_le (Nat.le_add_left _ _),
      Node.renumber, List.length_append, Nat.add_assoc]
  have hadded : ∀ n ∈ (nodesOf added).map (Node.renumber (· + before.length)),
      ¬ decide (¬ IsWithin before.length added.length n.place) = true := fun n hn h =>
    (of_decide_eq_true h : ¬ IsWithin _ _ _) (isWithin_of_mem_added hn)
  rw [nodesOf_append, nodesOf_append, nodesOf_append, List.filter_append, List.filter_append,
    List.map_append, hbefore, hafter,
    List.filter_eq_self.mpr fun n hn => decide_eq_true (not_isWithin_of_mem_before hn),
    List.filter_eq_self.mpr fun n hn => decide_eq_true (not_isWithin_of_mem_after hn),
    List.filter_eq_nil_iff.mpr hadded, List.append_nil]

/-- The nodes that are new are those of the instances put in. -/
theorem map_api_filter_isWithin :
    ((nodesOf (before ++ added ++ after)).filter
      fun n => IsWithin before.length added.length n.place).map Node.api = added := by
  have hadded : ((nodesOf added).map (Node.renumber (· + before.length))).map Node.api = added := by
    rw [List.map_map]
    exact map_api_nodesOf added
  rw [nodesOf_append, nodesOf_append, List.filter_append, List.filter_append,
    List.filter_eq_nil_iff.mpr fun n hn h => not_isWithin_of_mem_before hn (of_decide_eq_true h),
    List.filter_eq_nil_iff.mpr fun n hn h => not_isWithin_of_mem_after hn (of_decide_eq_true h),
    List.filter_eq_self.mpr fun n hn => decide_eq_true (isWithin_of_mem_added hn),
    List.nil_append, List.append_nil, hadded]

end Nodes

/-! ## Edges into one input -/

section Edges

variable {f : Nat → Nat} {nodes : List Node} {choice : AdapterChoice} {consumer : Node}
  {input : Nat} {wanted : Ty} {keep : Node → Bool}

theorem groupInto_cons (p : Node) (group : List Adapter) :
    groupInto (p :: nodes) consumer input wanted group =
      ((group.filter fun a => p.isProducer && a.fills p.api.output wanted).map fun a =>
        ⟨p, consumer, input, a⟩) ++ groupInto nodes consumer input wanted group :=
  List.flatMap_cons

/-- Nodes that feed the input nothing may be left out. -/
theorem groupInto_filter {group : List Adapter}
    (h : ∀ e ∈ groupInto nodes consumer input wanted group, keep e.producer = true) :
    groupInto (nodes.filter keep) consumer input wanted group =
      groupInto nodes consumer input wanted group := by
  induction nodes with
  | nil => rfl
  | cons p rest ih =>
      rw [groupInto_cons] at h ⊢
      have hrest := ih fun e he => h e (List.mem_append_right _ he)
      rw [List.filter_cons]
      cases hkeep : keep p with
      | true => rw [if_pos rfl, groupInto_cons, hrest]
      | false =>
          -- an edge from this node would have to be kept
          have hnone : (group.filter fun a => p.isProducer && a.fills p.api.output wanted) = [] := by
            rw [List.eq_nil_iff_forall_not_mem]
            intro a ha
            have := h ⟨p, consumer, input, a⟩ (List.mem_append_left _ (List.mem_map_of_mem ha))
            rw [hkeep] at this
            cases this
          rw [hnone, if_neg Bool.false_ne_true]
          exact hrest

theorem comparedInto_filter
    (h : ∀ e ∈ comparedInto nodes choice consumer input wanted, keep e.producer = true) :
    comparedInto (nodes.filter keep) choice consumer input wanted =
      comparedInto nodes choice consumer input wanted := by
  rw [comparedInto, comparedInto]
  refine List.flatMap_congr fun group hgroup => groupInto_filter fun e he => h e ?_
  exact List.mem_flatMap.mpr ⟨group, hgroup, he⟩

theorem groupInto_renumber (group : List Adapter) :
    groupInto (nodes.map (Node.renumber f)) (consumer.renumber f) input wanted group =
      (groupInto nodes consumer input wanted group).map (Edge.renumber f) := by
  rw [groupInto, groupInto, List.flatMap_map, List.map_flatMap]
  refine List.flatMap_congr fun p _ => ?_
  rw [List.map_map]
  rfl

theorem comparedInto_renumber :
    comparedInto (nodes.map (Node.renumber f)) choice (consumer.renumber f) input wanted =
      (comparedInto nodes choice consumer input wanted).map (Edge.renumber f) := by
  rw [comparedInto, comparedInto, List.map_flatMap]
  exact List.flatMap_congr fun group _ => groupInto_renumber group

end Edges

/-! ## Graphs -/

namespace Graph

variable {choice : AdapterChoice} {before added after : List Instance}

theorem producersFor_build_of_le {instances : List Instance} {n : Node}
    (h : instances.length ≤ n.place) (i : Nat) : (build choice instances).producersFor n i = [] := by
  have hnone : (build choice instances).rows[n.place]? = none := by
    rw [rows_build, List.getElem?_map, getElem?_nodesOf, List.getElem?_eq_none h]
    rfl
  rw [producersFor_eq_rows, hnone]
  rfl

theorem producersFor_build_eq_comparedInto {instances : List Instance} {n : Node}
    (hn : n ∈ nodesOf instances) (i : Nat) :
    (build choice instances).producersFor n i =
      match n.api.inputTypes[i]? with
      | some wanted => comparedInto (nodesOf instances) choice n i wanted
      | none => [] := by
  rw [producersFor_build hn]
  cases n.api.inputTypes[i]? with
  | none => rfl
  | some wanted => exact edgesInto_eq_comparedInto _ _ _ _ _

/-- A node keeps its edges where the instances that are put in feed none of the others. -/
theorem producersFor_build_insert
    (hfeeds : ∀ e ∈ (build choice (before ++ added ++ after)).edges,
      IsWithin before.length added.length e.producer.place →
        IsWithin before.length added.length e.consumer.place)
    {n : Node} (hn : n ∈ nodesOf (before ++ after)) (i : Nat) :
    (build choice (before ++ added ++ after)).producersFor
        (n.renumber (past before.length added.length)) i =
      ((build choice (before ++ after)).producersFor n i).map
        (Edge.renumber (past before.length added.length)) := by
  have hmoved : n.renumber (past before.length added.length) ∈ nodesOf (before ++ added ++ after) := by
    have hmem := List.mem_map_of_mem (f := Node.renumber (past before.length added.length)) hn
    rw [← filter_nodesOf_insert] at hmem
    exact (List.mem_filter.mp hmem).1
  have hproducers : (build choice (before ++ added ++ after)).producersFor
      (n.renumber (past before.length added.length)) i = _ :=
    producersFor_build_eq_comparedInto hmoved i
  have hapi : (n.renumber (past before.length added.length)).api = n.api := rfl
  rw [hproducers, producersFor_build_eq_comparedInto hn]
  rw [hapi] at hproducers ⊢
  cases hwanted : n.api.inputTypes[i]? with
  | none => rfl
  | some wanted =>
      simp only [hwanted] at hproducers ⊢
      rw [← comparedInto_renumber, ← filter_nodesOf_insert, comparedInto_filter]
      -- no edge to a node that was moved comes from a new one
      intro e he
      rw [← hproducers, producersFor_build_eq_filter, List.mem_filter] at he
      have hconsumer : e.consumer.place = past before.length added.length n.place :=
        (of_decide_eq_true he.2).1
      rw [decide_eq_true_iff]
      intro hproducer
      exact not_isWithin_past _ _ _ (hconsumer ▸ hfeeds e he.1 hproducer)

/-- Where the instances that are put in feed none of the others, the others have the edges they
had. -/
theorem isRenumbered_build
    (hfeeds : ∀ e ∈ (build choice (before ++ added ++ after)).edges,
      IsWithin before.length added.length e.producer.place →
        IsWithin before.length added.length e.consumer.place) :
    IsRenumbered (past before.length added.length) (build choice (before ++ added ++ after))
      (build choice (before ++ after)) := by
  intro n i
  by_cases hlt : n.place < (before ++ after).length
  · -- producers are looked up by place, so the node may be taken to be the one that is there
    obtain ⟨m, hm⟩ : ∃ m, (before ++ after)[n.place]? = some m :=
      ⟨_, List.getElem?_eq_getElem hlt⟩
    have hnode : (⟨n.place, m⟩ : Node) ∈ nodesOf (before ++ after) := mem_nodesOf.mpr hm
    exact producersFor_build_insert hfeeds hnode i
  · -- behind the last node there are no edges
    have hle : (before ++ after).length ≤ n.place := by omega
    have hle' : (before ++ added ++ after).length ≤ (n.renumber (past before.length added.length)).place := by
      simp only [List.length_append, Node.renumber, past] at hle ⊢
      split <;> omega
    rw [producersFor_build_of_le hle, producersFor_build_of_le hle', List.map_nil]

end Graph
end FuzzSynth
