/-
Keys name the nodes of a run.

The instances of one function have different keys, and a path without an opening bracket can be
read off from a key.  So if the paths of a library differ and have no such bracket, all instances of
a run have different keys (`nodup_keys_of_run`), and wherever a key stands for a node it stands for
that node alone: in the lookup of drivers by their target, in the counters of a search and in the
exported calls (`IsNamed`).

Both conditions are needed: a function declared as `keep<T=i32>` has the key of an instance of
`keep<T>`, and functions declared twice have their keys twice.
-/
import FuzzSynth.Proofs.Driver.Typed
import FuzzSynth.Proofs.Instance.Keys
import FuzzSynth.Proofs.Search.Usage
import FuzzSynth.Proofs.Synthesis.Result

namespace FuzzSynth

/-! ## All functions -/

/-- Every instance of a function has its path. -/
theorem Pool.path_of_instantiate {pool : Pool} {limits : InstanceLimits} {api : Signature}
    {part : Instantiation} (h : pool.instantiate limits api = .ok part) :
    ∀ m ∈ part.instances, m.path = api.path := by
  intro m hm
  obtain ⟨σ, -, rfl⟩ := Pool.exists_resolves_of_instantiate h m hm
  rfl

/-- The induction is over the functions: the keys of the first one can be told from all later ones
by their path. -/
theorem Pool.nodup_keys {pool : Pool} (hpool : pool.IsRead) {limits : InstanceLimits}
    {apis : List Signature} {parts : List Instantiation}
    (h : List.Forall₂ (fun api part => pool.instantiate limits api = .ok part) apis parts)
    (hpaths : (apis.map Signature.path).Nodup) (hplain : ∀ api ∈ apis, '<' ∉ api.path.toList) :
    ((parts.flatMap Instantiation.instances).map Instance.key).Nodup := by
  induction h with
  | nil => exact List.nodup_nil
  | @cons api part apis parts hfirst hothers ih =>
      obtain ⟨hfresh, hpaths⟩ := List.nodup_cons.mp hpaths
      obtain ⟨hapi, hplain⟩ := List.forall_mem_cons.mp hplain
      rw [List.flatMap_cons, List.map_append, List.nodup_append]
      refine ⟨Pool.nodup_keys_of_instantiate hpool hfirst, ih hpaths hplain, ?_⟩
      intro key hkey other hother heq
      obtain ⟨m, hm, rfl⟩ := List.mem_map.mp hkey
      obtain ⟨m', hm', rfl⟩ := List.mem_map.mp hother
      obtain ⟨later, hlater, hm'⟩ := List.mem_flatMap.mp hm'
      obtain ⟨declared, hdeclared, hinstantiate⟩ := Sequence.exists_left_of_forall₂ hothers hlater
      have hpath := Pool.path_of_instantiate hfirst m hm
      have hpath' := Pool.path_of_instantiate hinstantiate m' hm'
      have hsame := Instance.path_eq_of_key_eq (hpath ▸ hapi) (hpath' ▸ hplain declared hdeclared) heq
      refine hfresh (List.mem_map.mpr ⟨declared, hdeclared, ?_⟩)
      rw [← hpath', ← hsame, hpath]

/-- The functions of a surface stand in the order of the facts, so their paths do. -/
theorem Surface.paths_sublist (document : Document) :
    ((ofDocument document).apis.map Signature.path).Sublist (document.apis.map ApiFact.path) := by
  rw [apis_ofDocument]
  induction document.apis with
  | nil => exact List.Sublist.refl _
  | cons fact facts ih =>
      cases hsignature : fact.signature? with
      | none =>
          rw [List.filterMap_cons_none hsignature]
          exact ih.cons _
      | some api =>
          have hpath := ApiFact.path_of_signature (ApiFact.signature?_eq_some_iff.mp hsignature)
          rw [List.filterMap_cons_some hsignature, List.map_cons, List.map_cons, hpath]
          exact ih.cons_cons _

/-! ## One run -/

/-- The name of the function in the exported form of a call. -/
def DriverCall.exportedApi? (c : DriverCall) : Option Json :=
  match c.toJson with
  | .object members => Json.member? "api" members
  | _ => none

theorem DriverCall.exportedApi?_eq_some_iff {c : DriverCall} {name : String} :
    c.exportedApi? = some (.string name) ↔ c.node.api.key = name := by
  simp [exportedApi?, toJson, Json.member?]

namespace Synthesis

variable {config : Config} {document : Document} {s : Synthesis}

/-- Every key stands for one node. -/
structure IsNamed (config : Config) (s : Synthesis) : Prop where
  /-- The drivers found by a key are those of the node with that key. -/
  driversFor : ∀ n ∈ s.graph.nodes,
    s.driversFor n.api.key = s.drivers.filter fun d => d.target = n
  /-- The count of a key in any state of a search is the number of the drivers accepted so far
  that call the node with that key. -/
  usage : ∀ target ∈ targetsAmong config.targets s.graph.nodes,
    ∀ st, config.settings.Reaches s.graph target st → ∀ n ∈ s.graph.nodes,
      st.usage.count n.api.key = st.accepted.toList.countP fun b => n ∈ b.calls.map Prod.fst
  /-- The name under which a call is exported is the key of the node that is called, and of no
  other. -/
  exported : ∀ d ∈ s.drivers, ∀ c ∈ d.calls, c.node ∈ s.graph.nodes ∧
    ∀ n ∈ s.graph.nodes, c.exportedApi? = some (.string n.api.key) ↔ n = c.node

/-- Nodes of a run that have one key are one node. -/
theorem eq_of_key_eq (hkeys : (s.instances.map Instance.key).Nodup) :
    ∀ n ∈ s.graph.nodes, ∀ n' ∈ s.graph.nodes, n.api.key = n'.api.key → n = n' := by
  intro n hn n' hn' hkey
  have hnodes : (s.graph.nodes.map fun n => n.api.key).Nodup := by
    rwa [instances, List.map_map] at hkeys
  exact List.inj_on_of_nodup_map hnodes hn hn' hkey

/-- Different keys are enough for every use of a key. -/
theorem Ran.isNamed {pool : Pool} {surface : Surface} (h : Ran config pool surface s)
    (hkeys : (s.instances.map Instance.key).Nodup) : s.IsNamed config := by
  have hone := eq_of_key_eq hkeys
  have htargets : ∀ target ∈ targetsAmong config.targets s.graph.nodes,
      target ∈ s.graph.nodes := fun target htarget => (Ran.mem_targets_iff.mp htarget).1
  constructor
  case driversFor =>
    intro n hn
    refine List.filter_congr fun d hd => ?_
    obtain ⟨target, htarget, hd⟩ := h.mem_drivers_iff.mp hd
    obtain ⟨b, -, hbecomes⟩ := config.settings.exists_becomes_of_mem_drivers _ target hd
    rw [hbecomes.target_eq, Bool.eq_iff_iff, beq_iff_eq, decide_eq_true_iff]
    exact ⟨hone target (htargets target htarget) n hn, fun heq => heq ▸ rfl⟩
  case usage =>
    intro target htarget st hst n hn
    rw [hst.count_usage]
    refine List.countP_congr fun b hb => ?_
    have hcalls : ∀ c ∈ b.calls, c.1 ∈ s.graph.nodes := by
      have hgrown := (hst.grown.2.2 b hb).1
      have hnode := htargets target htarget
      rw [h.graph_eq] at hgrown hnode ⊢
      exact SearchSettings.mem_nodes_of_grown hnode hgrown
    rw [decide_eq_true_iff, decide_eq_true_iff, Branch.mem_keys_iff, List.mem_map]
    constructor
    · rintro ⟨c, hc, hkey⟩
      exact ⟨c, hc, hone c.1 (hcalls c hc) n hn hkey⟩
    · rintro ⟨c, hc, rfl⟩
      exact ⟨c, hc, rfl⟩
  case exported =>
    intro d hd c hc
    obtain ⟨target, htarget, hd⟩ := h.mem_drivers_iff.mp hd
    have hnode : c.node ∈ s.graph.nodes := by
      have htarget := htargets target htarget
      rw [h.graph_eq] at hd htarget
      rw [h.nodes_eq]
      exact SearchSettings.mem_nodes_of_mem_drivers htarget hd c hc
    refine ⟨hnode, fun n hn => ?_⟩
    rw [DriverCall.exportedApi?_eq_some_iff]
    exact ⟨fun hkey => hone n hn c.node hnode hkey.symm, fun heq => heq ▸ rfl⟩

/-- If the paths of a document differ and none has an opening bracket, the instances of a run over
it have different keys, whatever candidates are given, and every key stands for one node. -/
theorem nodup_keys_of_run {candidates : List CandidateFact} {builtins : Bool}
    (hpaths : (document.apis.map ApiFact.path).Nodup)
    (hplain : ∀ fact ∈ document.apis, '<' ∉ fact.path.toList)
    (h : run config (Pool.ofFacts candidates builtins).pool (.ofDocument document) = .ok s) :
    (s.instances.map Instance.key).Nodup ∧ s.IsNamed config := by
  have hran := ran_of_run h
  have hsurface : ∀ api ∈ (Surface.ofDocument document).apis, '<' ∉ api.path.toList := by
    intro api hapi
    obtain ⟨fact, hfact, hsignature⟩ := Surface.mem_apis_ofDocument_iff.mp hapi
    rw [ApiFact.path_of_signature hsignature]
    exact hplain fact hfact
  have hkeys : (s.instances.map Instance.key).Nodup := by
    rw [instances, hran.nodes_eq, map_api_nodesOf]
    exact Pool.nodup_keys (Pool.isRead_ofFacts candidates builtins) hran.parts
      (hpaths.sublist (Surface.paths_sublist document)) hsurface
  exact ⟨hkeys, hran.isNamed hkeys⟩

/-! ### A small case -/

/-- `make(first: u8, second: i32) -> (u8, i32)` and `pair<T: Copy, U: Copy>(first: T, second: U)`. -/
def pairDocument : Document where
  crate := "demo"
  apis := [⟨"make", [], [⟨"first", "u8"⟩, ⟨"second", "i32"⟩], some "(u8, i32)"⟩,
    ⟨"pair", [⟨"T", ["Copy"]⟩, ⟨"U", ["Copy"]⟩], [⟨"first", "T"⟩, ⟨"second", "U"⟩], none⟩]
  candidates := [⟨"u8", ["Copy"]⟩, ⟨"(u8,i32)", ["Copy"]⟩]

/-- The keys of `pair` have commas between the parameters and inside the types. -/
theorem nodup_keys_of_run_pairDocument :
    (pairDocument.apis.map ApiFact.path).Nodup ∧
      (∀ fact ∈ pairDocument.apis, '<' ∉ fact.path.toList) ∧
      ∃ s, run {} (Pool.ofFacts pairDocument.candidates false).pool (.ofDocument pairDocument) = .ok s ∧
        s.instances.map Instance.key = ["make", "pair<T=u8, U=(u8, i32)>",
          "pair<T=(u8, i32), U=u8>", "pair<T=u8, U=u8>"] ∧
        (s.instances.map Instance.key).Nodup ∧ s.IsNamed {} := by
  have hpaths : (pairDocument.apis.map ApiFact.path).Nodup := by decide
  have hplain : ∀ fact ∈ pairDocument.apis, '<' ∉ fact.path.toList := by decide +kernel
  obtain ⟨s, hs⟩ := exists_run_default (Pool.ofFacts pairDocument.candidates false).pool
    (.ofDocument pairDocument)
  have hkeys : (run {} (Pool.ofFacts pairDocument.candidates false).pool
      (.ofDocument pairDocument)).toOption.map (fun s => s.instances.map Instance.key) =
        some ["make", "pair<T=u8, U=(u8, i32)>", "pair<T=(u8, i32), U=u8>", "pair<T=u8, U=u8>"] := by
    decide +kernel
  rw [hs] at hkeys
  exact ⟨hpaths, hplain, s, hs, Option.some.inj hkeys, nodup_keys_of_run hpaths hplain hs⟩

end Synthesis
end FuzzSynth
