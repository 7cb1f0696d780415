/-
Runs are total.

A run looks many things up without asking first whether they are there: the inner types of
a type, the branch of a number, the call and the input that a pending input is of, what
fills a slot, the layout of a seed.  `Synthesis.IsTotal` says that all of them are there,
whatever texts the facts of a document hold, and `Synthesis.Records` that each entry,
function and branch that is given up is a diagnostic of the report.

What ends a run is a scan window that does not fit a machine word, once there is a generic
function to scan for, or a cap that has to be stated and cannot be written; nothing else does
(`exists_total_run_iff`).
-/
import FuzzSynth.Proofs.Driver.Typed
import FuzzSynth.Proofs.Style.Sound
import FuzzSynth.Proofs.Synthesis.Result

namespace FuzzSynth

/-! ## What a step of a search looks up -/

/-- What a search needs to fill an input of a branch is there. -/
structure Branch.Finds (graph : Graph) (b : Branch) (item : Pending) : Prop where
  call : b.calls[item.slot.call]? = some (item.consumer, item.depth)
  input : item.consumer.api.inputs[item.slot.input]? = some (item.name, item.type)
  edges : ∃ inputs edges, graph.slots[item.consumer.place]? = some inputs ∧
    inputs[item.slot.input]? = some edges
  type : item.type.Answers

namespace SearchSettings

variable {settings : SearchSettings} {instances : List Instance} {choice : AdapterChoice}
  {target : Node} {s : SearchState} {id : Nat} {b : Branch} {rest : List (Nat × Branch)}

/-- In each state that a search comes to, the branch on top is there and whatever is needed
to fill its inputs. -/
theorem Reaches.finds (hconcrete : ∀ m ∈ instances, m.IsConcrete)
    (htarget : target ∈ (Graph.build choice instances).nodes)
    (h : Reaches settings (Graph.build choice instances) target s)
    (hstack : s.stack = (id, b) :: rest) :
    s.arena[id]? = some b ∧ ∀ item ∈ b.pending, b.Finds (Graph.build choice instances) item := by
  refine ⟨h.isNumbered (id, b) (hstack ▸ List.mem_cons_self), fun item hitem => ?_⟩
  -- the branch has grown in the graph, so its calls are nodes and the input is one of theirs
  have hwaiting : b ∈ s.waiting := by simp [SearchState.waiting, hstack]
  have hgrown := h.grown.2.1 b hwaiting
  have hinput := hgrown.coherent.mem_inputs_of_pending hitem
  obtain ⟨hcall, hinputs⟩ := Branch.mem_inputsOf.mp hinput
  have hnode := mem_nodes_of_grown htarget hgrown _ (List.mem_of_getElem? hcall)
  have htype := Branch.inputType_of_mem_inputs hinput
  have hlt := (List.getElem?_eq_some_iff.mp htype).1
  have hwanted := (hconcrete _ (api_mem_of_mem_nodesOf hnode)).of_inputTypes htype
  exact ⟨hcall, hinputs, Graph.exists_edges_build choice hnode hlt, hwanted.answers⟩

end SearchSettings

namespace Synthesis

/-! ## What a run asks for -/

/-- Whatever the run `s` over a document asks for is there. -/
structure IsTotal (config : Config) (document : Document) (s : Synthesis) : Prop where
  /-- The signatures of the surface can be written down. -/
  declared {api : Signature} (hapi : api ∈ s.surface.apis) {t : Ty} (ht : t ∈ api.types) :
    t.render? = .ok t.render
  candidates {c : Candidate} (hc : c ∈ (poolOf document).entries) : c.type.Answers
  /-- So can the instances that are tried, those that are refused among them. -/
  tried {api : Signature} (hapi : api ∈ s.surface.apis) {size : Nat} {window : List Substitution}
    (hwindow : (poolOf document).window size api = .ok window) {σ : Substitution} (hσ : σ ∈ window)
    {t : Ty} (ht : t ∈ (api.subst σ).types) : t.Answers
  nodes {n : Node} (hn : n ∈ s.graph.nodes) {t : Ty} (ht : t ∈ n.api.signature.types) : t.Answers
  lookups {target : Node} (htarget : target ∈ targetsAmong config.targets s.graph.nodes)
    {st : SearchState} (hst : config.settings.Reaches s.graph target st) {id : Nat} {b : Branch}
    {rest : List (Nat × Branch)} (hstack : st.stack = (id, b) :: rest) :
    st.arena[id]? = some b ∧ ∀ item ∈ b.pending, b.Finds s.graph item
  /-- Every accepted branch becomes a driver. -/
  finished {outcome : Outcome} (houtcome : outcome ∈ s.outcomes) :
    outcome.accepted.map (·.driver? outcome.target) = outcome.drivers.map some
  layouts {d : Driver} (hd : d ∈ s.drivers) {point : SeedPoint} (hpoint : point ∈ d.seeds) :
    point.layout.isSome = true
  exported : s.toJson?.isSome = true
  /-- The warnings can be shown, whoever reads their tags. -/
  warnings {markup : Markup} (hmarkup : markup.IsSound) {path : String}
    (hpath : path ∈ s.unknownTargets) :
    markup.isFaulty (unknownTargetEntry markup path).text = false

/-- Whatever the run `s` over a document gives up is in its report. -/
structure Records (config : Config) (document : Document) (s : Synthesis) : Prop where
  malformed {fact : ApiFact} (hfact : fact ∈ document.apis) {e : SignatureError}
    (he : fact.signature = .error e) : fact.diagnostic e ∈ s.report
  unsatisfiable {api : Signature} (hapi : api ∈ s.surface.apis) {size : Nat}
    (hsize : windowSize config.limits.maxProductScan = .ok size) {u : Unsatisfiable}
    (hu : (poolOf document).window size api = .error u) : u.diagnostic ∈ s.report
  tooDeep {api : Signature} (hapi : api ∈ s.surface.apis) (hgeneric : api.isGeneric = true)
    {size : Nat} (hsize : windowSize config.limits.maxProductScan = .ok size)
    {window : List Substitution} (hwindow : (poolOf document).window size api = .ok window)
    (hdeep : ∀ σ ∈ window, (api.instanceOf σ).isTooDeep config.limits.maxTypeDepth = true) :
    depthDiagnostic api.path config.limits.maxTypeDepth ∈ s.report
  deadEnd {target : Node} (htarget : target ∈ targetsAmong config.targets s.graph.nodes)
    {st : SearchState} (hst : config.settings.Reaches s.graph target st)
    (hgo : config.settings.MayStep st) {id : Nat} {b : Branch} {rest : List (Nat × Branch)}
    (hstack : st.stack = (id, b) :: rest) {item : Pending} {later : List Pending}
    (hpending : b.pending = item :: later) {d : DeadEnd}
    (hd : config.settings.expand s.graph st.usage id b item later = .error d) :
    d.diagnostic target ∈ s.report
  noSeed {target : Node} (htarget : target ∈ targetsAmong config.targets s.graph.nodes)
    {st : SearchState} (hst : config.settings.Reaches s.graph target st)
    (hgo : config.settings.MayStep st) {id : Nat} {b : Branch} {rest : List (Nat × Branch)}
    (hstack : st.stack = (id, b) :: rest) (hpending : b.pending = [])
    (hseeds : config.settings.requireSeed = true ∧ b.seeds = []) :
    noSeedDiagnostic target ∈ s.report

variable {config : Config} {document : Document} {s : Synthesis}

/-- The warning about an unknown target can be shown, whatever its path. -/
theorem isFaulty_unknownTargetEntry {markup : Markup} (hmarkup : markup.IsSound) (path : String) :
    markup.isFaulty (unknownTargetEntry markup path).text = false := by
  have htext : (unknownTargetEntry markup path).text =
      (Level.warning.sign ++ "Target '") ++ markup.escape path ++
        "' has no monomorphic instance; ignoring it." := by
    simp [unknownTargetEntry, LogEntry.notice, String.append_assoc]
  have hfront : Markup.IsClosed (Level.warning.sign ++ "Target '") := .plain (by decide) (by decide)
  rw [htext]
  exact hmarkup.escaped hfront (by decide) (by decide) path

/-- A run over a document asks for nothing that is not there. -/
theorem Ran.isTotal (h : Ran config (poolOf document) (.ofDocument document) s) :
    s.IsTotal config document := by
  -- what was read is over the parameters in scope, and what was put in is concrete
  have hpool : (poolOf document).IsConcrete := Pool.isConcrete_ofFacts document.candidates true
  have hscoped : ∀ api ∈ s.surface.apis, api.IsScoped := fun api hapi =>
    Surface.isScoped_of_mem_apis (h.surface_eq ▸ hapi)
  have hconcrete := h.isConcrete_instances hpool (h.surface_eq ▸ hscoped)
  constructor
  case declared =>
    intro api hapi t ht
    exact (hscoped api hapi t ht).render?_eq
  case candidates =>
    intro c hc
    exact (hpool c hc).answers
  case tried =>
    intro api hapi size window hwindow σ hσ t ht
    exact ((hscoped api hapi).isConcrete_of_mem_window hpool hwindow hσ t ht).answers
  case nodes =>
    intro n hn t ht
    exact (hconcrete _ (api_mem_of_mem_nodesOf (h.nodes_eq ▸ hn)) t ht).answers
  case lookups =>
    intro target htarget st hst id b rest hstack
    have hnode := (Ran.mem_targets_iff.mp htarget).1
    rw [h.graph_eq] at hst hnode ⊢
    exact hst.finds hconcrete hnode hstack
  case finished =>
    intro outcome houtcome
    obtain ⟨target, -, rfl⟩ := List.mem_map.mp (h.outcomes_eq ▸ houtcome)
    exact config.settings.map_driver?_accepted s.graph target
  case layouts =>
    intro d hd point hpoint
    obtain ⟨target, -, hd⟩ := h.mem_drivers_iff.mp hd
    exact config.settings.isSome_layout_of_mem_drivers s.graph target hd hpoint
  case exported => exact h.isSome_toJson?
  case warnings =>
    intro markup hmarkup path _
    exact isFaulty_unknownTargetEntry hmarkup path

/-- Whatever a run over a document gives up is in its report. -/
theorem Ran.records (h : Ran config (poolOf document) (.ofDocument document) s) :
    s.Records config document := by
  constructor
  case malformed =>
    intro fact hfact e he
    exact h.mem_report_of_malformed hfact he
  case unsatisfiable =>
    intro api hapi size hsize u hu
    obtain ⟨part, hpart, hinstantiate⟩ := h.exists_part_of_mem_apis (h.surface_eq ▸ hapi)
    exact Ran.mem_report_of_part hpart (Pool.mem_report_of_unsatisfiable hsize hu hinstantiate)
  case tooDeep =>
    intro api hapi hgeneric size hsize window hwindow hdeep
    obtain ⟨part, hpart, hinstantiate⟩ := h.exists_part_of_mem_apis (h.surface_eq ▸ hapi)
    exact Ran.mem_report_of_part hpart
      (Pool.mem_report_of_tooDeep hgeneric hsize hwindow hdeep hinstantiate)
  case deadEnd =>
    intro target htarget st hst hgo id b rest hstack item later hpending d hd
    exact h.mem_report_of_search htarget (hst.mem_report_of_deadEnd hgo hstack hpending hd)
  case noSeed =>
    intro target htarget st hst hgo id b rest hstack hpending hseeds
    exact h.mem_report_of_search htarget (hst.mem_report_of_noSeed hgo hstack hpending hseeds)

/-- A run over a document gives a result exactly if its scan window fits a machine word or
no function is generic, and every cap that it comes to state can be written; and then nothing
that it asks for is missing and whatever it gives up is reported. -/
theorem exists_total_run_iff (config : Config) (document : Document) :
    (∃ s, run config (poolOf document) (.ofDocument document) = .ok s ∧
        s.IsTotal config document ∧ s.Records config document) ↔
      HasResult config (poolOf document) (.ofDocument document) := by
  rw [← exists_run_iff]
  constructor
  · rintro ⟨s, hs, -⟩
    exact ⟨s, hs⟩
  · rintro ⟨s, hs⟩
    have h := ran_of_run hs
    exact ⟨s, hs, h.isTotal, h.records⟩

end Synthesis
end FuzzSynth
