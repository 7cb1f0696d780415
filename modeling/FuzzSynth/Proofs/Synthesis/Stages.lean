/-
The stages of a run.

`Ran` collects what is known of the stages of a run that gives a result: what came of each
function, that the nodes of the graph are the instances, in order, and that all of them
are concrete.  The counters always have an exported form (`Ran.isSome_toJson?`): a function
that is not generic has one instance, and a generic one at most as many as the window has
room for.
-/
import FuzzSynth.Proofs.Instance.Outcome
import FuzzSynth.Proofs.Search.Report
import FuzzSynth.Proofs.Sequence
import FuzzSynth.Proofs.Statistics
import FuzzSynth.Synthesis

namespace FuzzSynth

namespace Sequence

theorem total_length_le {α : Type} {n : Nat} {xss : List (List α)}
    (h : ∀ xs ∈ xss, xs.length ≤ n) :
    total (xss.map List.length) ≤ (xss.countP fun xs => !xs.isEmpty) * n := by
  induction xss with
  | nil => simp
  | cons xs xss ih =>
      have hrest := ih fun ys hys => h ys (List.mem_cons_of_mem xs hys)
      have hxs := h xs List.mem_cons_self
      rw [List.map_cons, total_cons]
      cases xs with
      | nil => simpa using hrest
      | cons x xs =>
          rw [List.countP_cons_of_pos (by simp), Nat.add_mul, Nat.one_mul]
          omega

end Sequence

namespace Synthesis

variable {config : Config} {pool : Pool} {surface : Surface} {s : Synthesis}

/-! ## What a result consists of -/

/-- A run gives what its stages give, if all that is reported can be written. -/
theorem run_eq_ok_iff : run config pool surface = .ok s ↔
    ∃ parts, pool.instantiateEach config.limits surface.apis = .ok parts ∧
      ofParts config surface parts = s ∧ s.canReport = true := by
  unfold run
  cases pool.instantiateEach config.limits surface.apis with
  | error e => simp
  | ok parts => by_cases h : (ofParts config surface parts).canReport = true <;> grind

/-- The result `s` is that of a run over `surface`. -/
structure Ran (config : Config) (pool : Pool) (surface : Surface) (s : Synthesis) : Prop where
  surface_eq : s.surface = surface
  /-- What came of each function. -/
  parts : List.Forall₂ (fun api part => pool.instantiate config.limits api = .ok part)
    surface.apis s.parts
  graph_eq : s.graph = Graph.build config.adapters (s.parts.flatMap Instantiation.instances)
  outcomes_eq : s.outcomes =
    (targetsAmong config.targets s.graph.nodes).map (config.settings.search s.graph)

theorem ran_of_run (h : run config pool surface = .ok s) : Ran config pool surface s := by
  obtain ⟨parts, hparts, rfl, -⟩ := run_eq_ok_iff.mp h
  exact ⟨rfl, (Pool.instantiateEach_eq_ok_iff.mp hparts).1, rfl, rfl⟩

namespace Ran

theorem nodes_eq (h : Ran config pool surface s) :
    s.graph.nodes = nodesOf (s.parts.flatMap Instantiation.instances) := by
  rw [h.graph_eq]
  rfl

/-- The instances of a run are all that came of its functions. -/
theorem instances_eq (h : Ran config pool surface s) :
    s.instances = s.parts.flatMap Instantiation.instances := by
  rw [instances, h.nodes_eq, map_api_nodesOf]

theorem nodup_nodes (h : Ran config pool surface s) : s.graph.nodes.Nodup := by
  rw [h.nodes_eq]
  exact nodup_nodesOf _

/-- Each part came of a function. -/
theorem exists_api_of_mem_parts (h : Ran config pool surface s) {part : Instantiation}
    (hpart : part ∈ s.parts) :
    ∃ api ∈ surface.apis, pool.instantiate config.limits api = .ok part :=
  Sequence.exists_left_of_forall₂ h.parts hpart

/-- Each function came to a part. -/
theorem exists_part_of_mem_apis (h : Ran config pool surface s) {api : Signature}
    (hapi : api ∈ surface.apis) :
    ∃ part ∈ s.parts, pool.instantiate config.limits api = .ok part :=
  Sequence.exists_left_of_forall₂ h.parts.flip hapi

/-- The instances that are counted as generic came of a generic function. -/
theorem exists_api_of_mem_genericParts (h : Ran config pool surface s) {instances : List Instance}
    (hinstances : instances ∈ s.genericParts) :
    ∃ api part, api.isGeneric = true ∧ pool.instantiate config.limits api = .ok part ∧
      instances = part.instances := by
  obtain ⟨⟨api, part⟩, hentry, rfl⟩ := List.mem_map.mp hinstances
  obtain ⟨hzip, hgeneric⟩ := List.mem_filter.mp hentry
  have hpart := (List.forall₂_iff_zip.mp (h.surface_eq ▸ h.parts)).2 hzip
  exact ⟨api, part, hgeneric, hpart, rfl⟩

/-- The instances of scoped functions are concrete. -/
theorem isConcrete_instances (h : Ran config pool surface s) (hpool : pool.IsConcrete)
    (hscoped : ∀ api ∈ surface.apis, api.IsScoped) :
    ∀ m ∈ s.parts.flatMap Instantiation.instances, m.IsConcrete := by
  intro m hm
  obtain ⟨part, hpart, hm⟩ := List.mem_flatMap.mp hm
  obtain ⟨api, hapi, hinstantiate⟩ := h.exists_api_of_mem_parts hpart
  exact Pool.isConcrete_of_instantiate hpool (hscoped api hapi) hinstantiate m hm

theorem mem_targets_iff {n : Node} : n ∈ targetsAmong config.targets s.graph.nodes ↔
    n ∈ s.graph.nodes ∧ (config.targets = [] ∨ n.api.path ∈ config.targets) := by
  unfold targetsAmong
  by_cases hnone : config.targets = []
  · simp [hnone]
  · simp [hnone]

/-- What a search reports is in the report of the run. -/
theorem mem_report_of_search (h : Ran config pool surface s) {target : Node} {d : Diagnostic}
    (htarget : target ∈ targetsAmong config.targets s.graph.nodes)
    (hd : d ∈ (config.settings.search s.graph target).report) : d ∈ s.report := by
  refine List.mem_append_right _ (List.mem_flatMap.mpr ⟨_, ?_, hd⟩)
  rw [h.outcomes_eq]
  exact List.mem_map_of_mem htarget

/-- The drivers that a search finds are drivers of the run. -/
theorem mem_drivers_iff (h : Ran config pool surface s) {d : Driver} :
    d ∈ s.drivers ↔ ∃ target ∈ targetsAmong config.targets s.graph.nodes,
      d ∈ (config.settings.search s.graph target).drivers := by
  rw [drivers, h.outcomes_eq, List.mem_flatMap]
  constructor
  · rintro ⟨outcome, houtcome, hd⟩
    obtain ⟨target, htarget, rfl⟩ := List.mem_map.mp houtcome
    exact ⟨target, htarget, hd⟩
  · rintro ⟨target, htarget, hd⟩
    exact ⟨_, List.mem_map_of_mem htarget, hd⟩

/-- The target of a driver is a node. -/
theorem target_mem_nodes (h : Ran config pool surface s) {d : Driver} (hd : d ∈ s.drivers) :
    d.target ∈ s.graph.nodes := by
  obtain ⟨target, htarget, hd⟩ := h.mem_drivers_iff.mp hd
  obtain ⟨b, -, hbecomes⟩ := config.settings.exists_becomes_of_mem_drivers s.graph target hd
  rw [hbecomes.target_eq]
  exact (mem_targets_iff.mp htarget).1

/-- What came of a function is reported with the run. -/
theorem mem_report_of_part {part : Instantiation} (hpart : part ∈ s.parts) {d : Diagnostic}
    (hd : d ∈ part.report) : d ∈ s.report :=
  List.mem_append_left _ (List.mem_append_right _ (List.mem_flatMap.mpr ⟨part, hpart, hd⟩))

end Ran

/-! ## Runs over documents -/

/-- The pool that a run over a document has. -/
def poolOf (document : Document) : Pool :=
  (Pool.ofFacts document.candidates true).pool

/-- A fact that declares no signature is reported with the run. -/
theorem Ran.mem_report_of_malformed {document : Document}
    (h : Ran config pool (.ofDocument document) s) {fact : ApiFact} (hfact : fact ∈ document.apis)
    {e : SignatureError} (he : fact.signature = .error e) : fact.diagnostic e ∈ s.report := by
  refine List.mem_append_left _ (List.mem_append_left _ ?_)
  rw [h.surface_eq, Surface.rejected_ofDocument]
  exact List.mem_filterMap.mpr ⟨fact, hfact, by simp [ApiFact.rejection?, he]⟩

/-! ## The exported form -/

/-- Where every other function has one instance, the instances of the generic ones are all
instances without those. -/
theorem total_genericParts {apis : List Signature} {parts : List Instantiation}
    (h : List.Forall₂ (fun api part => api.isGeneric = false → part.instances.length = 1)
      apis parts) :
    Sequence.total (parts.map fun part => part.instances.length) +
        ((apis.zip parts).filter fun entry => entry.1.isGeneric).length =
      Sequence.total ((((apis.zip parts).filter fun entry => entry.1.isGeneric).map
        fun entry => entry.2.instances).map List.length) + apis.length := by
  induction h with
  | nil => rfl
  | @cons api part apis parts hfirst _ ih =>
      cases hgeneric : api.isGeneric with
      | true =>
          -- its instances count on both sides
          simp only [List.map_cons, List.zip_cons_cons, Sequence.total_cons, List.length_cons,
            List.filter_cons, hgeneric, if_true]
          omega
      | false =>
          -- its one instance stands against the function itself
          have hone := hfirst hgeneric
          simp only [List.map_cons, List.zip_cons_cons, Sequence.total_cons, List.length_cons,
            List.filter_cons, hgeneric, Bool.false_eq_true, if_false]
          omega

namespace Ran

theorem genericInstances_eq (h : Ran config pool surface s) :
    s.statistics.genericInstances = (Sequence.total (s.genericParts.map List.length) : Nat) := by
  have hone : List.Forall₂ (fun api part => api.isGeneric = false → part.instances.length = 1)
      surface.apis s.parts := by
    refine h.parts.imp fun api part hpart hplain => ?_
    rw [Pool.instantiate_plain hplain hpart]
    rfl
  have htotal := total_genericParts hone
  rw [← h.surface_eq] at htotal
  simp only [Statistics.genericInstances, statistics, genericParts, List.length_map] at htotal ⊢
  omega

/-- The counters of a run have an exported form. -/
theorem isSome_toJson?_statistics (h : Ran config pool surface s) :
    s.statistics.toJson?.isSome = true := by
  have hwindow : (maxWindow.toNat : Int) = maxWindow := rfl
  -- no generic function has more instances than fit into a window
  have hlength : ∀ part ∈ s.genericParts, part.length ≤ maxWindow.toNat := by
    intro instances hinstances
    obtain ⟨api, part, hgeneric, hpart, rfl⟩ := h.exists_api_of_mem_genericParts hinstances
    have hle := Pool.length_instances_le hgeneric hpart
    omega
  refine Statistics.isSome_toJson? h.genericInstances_eq rfl ?_
  have hle := Sequence.total_length_le hlength
  rw [← hwindow]
  exact_mod_cast hle

/-- A run has an exported form: every driver and the counters have one. -/
theorem isSome_toJson? (h : Ran config pool surface s) : s.toJson?.isSome = true := by
  refine isSome_bind_of_exists (exists_mapM_eq_some fun d hd => ?_) fun drivers => ?_
  · obtain ⟨target, -, hd⟩ := h.mem_drivers_iff.mp hd
    exact config.settings.isSome_toJson?_of_mem_drivers s.graph target hd
  · exact isSome_bind_of_exists (Option.isSome_iff_exists.mp h.isSome_toJson?_statistics)
      fun _ => rfl

end Ran
end Synthesis
end FuzzSynth
