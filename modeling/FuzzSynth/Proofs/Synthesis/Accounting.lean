/-
Every function is accounted for.

Where every function is a target, a run either reports why a function has no instances, or
it has a driver or a diagnostic for each of them (`exists_accounted_run_iff`).  Each stage
gives its part: a fact is read or rejected, a function has instances or leaves a diagnostic
(`Pool.exists_diagnostic_of_no_instances`), and a search never runs dry in silence
(`SearchSettings.exists_driver_or_diagnostic`).

The nodes of the graph are the instances of the facts one after the other, so each fact has
its share of them (`Ran.exists_shares`).
-/
import FuzzSynth.Proofs.Synthesis.Result

namespace FuzzSynth

/-- A list that is mapped to groups consists of shares that are mapped to each group. -/
theorem exists_shares_of_map_eq {α β : Type} {f : α → β} {xs : List α} {groups : List (List β)}
    (h : xs.map f = groups.flatten) :
    ∃ shares : List (List α), shares.flatten = xs ∧ shares.map (List.map f) = groups := by
  induction groups generalizing xs with
  | nil => exact ⟨[], (List.map_eq_nil_iff.mp h).symm, rfl⟩
  | cons group groups ih =>
      rw [List.flatten_cons] at h
      obtain ⟨share, others, rfl, hshare, hothers⟩ := List.map_eq_append_iff.mp h
      obtain ⟨shares, rfl, hshares⟩ := ih hothers
      exact ⟨share :: shares, rfl, by rw [List.map_cons, hshare, hshares]⟩

namespace Synthesis

variable {config : Config} {document : Document} {s : Synthesis}

/-! ## The instances of facts -/

/-- The instances of the function that a fact declares; there are none if it declares none. -/
def instancesOf (config : Config) (document : Document) (fact : ApiFact) : List Instance :=
  match fact.signature with
  | .error _ => []
  | .ok api =>
      match (poolOf document).instantiate config.limits api with
      | .error _ => []
      | .ok part => part.instances

theorem instancesOf_malformed {fact : ApiFact} {e : SignatureError} (h : fact.signature = .error e) :
    instancesOf config document fact = [] := by
  simp [instancesOf, h]

theorem instancesOf_eq {fact : ApiFact} {api : Signature} {part : Instantiation}
    (h : fact.signature = .ok api)
    (hpart : (poolOf document).instantiate config.limits api = .ok part) :
    instancesOf config document fact = part.instances := by
  simp [instancesOf, h, hpart]

/-- The instances of all facts are those that came of the functions of the surface. -/
theorem flatten_instancesOf {facts : List ApiFact} {parts : List Instantiation}
    (h : List.Forall₂ (fun api part => (poolOf document).instantiate config.limits api = .ok part)
      (facts.filterMap ApiFact.signature?) parts) :
    (facts.map (instancesOf config document)).flatten = parts.flatMap Instantiation.instances := by
  induction facts generalizing parts with
  | nil =>
      obtain rfl := List.forall₂_nil_left_iff.mp h
      rfl
  | cons fact facts ih =>
      rw [List.map_cons, List.flatten_cons]
      cases hsignature : fact.signature with
      | error e =>
          -- a fact that is rejected has no part
          rw [List.filterMap_cons_none (ApiFact.signature?_eq_none_of_error hsignature)] at h
          rw [instancesOf_malformed hsignature, ih h]
          rfl
      | ok api =>
          rw [List.filterMap_cons_some (ApiFact.signature?_eq_some_iff.mpr hsignature)] at h
          obtain ⟨part, others, hpart, hothers, rfl⟩ := List.forall₂_cons_left_iff.mp h
          rw [instancesOf_eq hsignature hpart, ih hothers]
          rfl

/-- Each fact has its share of the nodes. -/
theorem Ran.exists_shares (h : Ran config (poolOf document) (.ofDocument document) s) :
    ∃ shares : List (List Node), shares.flatten = s.graph.nodes ∧
      List.Forall₂ (fun fact share => share.map Node.api = instancesOf config document fact)
        document.apis shares := by
  have hparts := h.parts
  rw [Surface.apis_ofDocument] at hparts
  have hnodes : s.graph.nodes.map Node.api =
      (document.apis.map (instancesOf config document)).flatten := by
    rw [h.nodes_eq, map_api_nodesOf, flatten_instancesOf hparts]
  obtain ⟨shares, hflatten, hshares⟩ := exists_shares_of_map_eq hnodes
  refine ⟨shares, hflatten, ?_⟩
  have heq : List.Forall₂ (fun fact share => share = instancesOf config document fact)
      document.apis (shares.map (List.map Node.api)) := by
    rw [hshares, List.forall₂_map_right_iff]
    exact List.forall₂_same.mpr fun _ _ => rfl
  rwa [List.forall₂_map_right_iff] at heq

/-! ## What becomes of a fact -/

/-- The run accounts for a fact and its share of the nodes: either there are none and the
report says why, or each of them has a driver or a diagnostic. -/
structure Accounts (config : Config) (document : Document) (s : Synthesis) (fact : ApiFact)
    (share : List Node) : Prop where
  api_eq : share.map Node.api = instancesOf config document fact
  traced : (share = [] ∧ ∃ d ∈ s.report, d.subject = fact.path ∧
        d.kind ∈ [.malformedSignature, .unsatisfiableBounds, .budgetExceeded]) ∨
      share ≠ [] ∧ ∀ n ∈ share, (∃ driver ∈ s.drivers, driver.target = n) ∨
        ∃ d ∈ s.report, d.subject = n.api.key

/-- Every target has a driver or a diagnostic. -/
theorem Ran.exists_driver_or_diagnostic (h : Ran config (poolOf document) (.ofDocument document) s)
    {n : Node} (hn : n ∈ targetsAmong config.targets s.graph.nodes) :
    (∃ driver ∈ s.drivers, driver.target = n) ∨ ∃ d ∈ s.report, d.subject = n.api.key := by
  have hdrivers : 1 ≤ config.settings.maxDrivers := Int.ofNat_le.mpr config.maxDrivers.pos
  have hbranching : 1 ≤ config.settings.maxBranching := Int.ofNat_le.mpr config.maxBranching.pos
  rcases SearchSettings.exists_driver_or_diagnostic s.graph n hdrivers hbranching with
    ⟨d, hd, htarget⟩ | ⟨d, hd, hsubject⟩
  · exact .inl ⟨d, h.mem_drivers_iff.mpr ⟨n, hn, hd⟩, htarget⟩
  · exact .inr ⟨d, h.mem_report_of_search hn hd, hsubject⟩

/-- Where every function is a target, a run accounts for each fact that has a path. -/
theorem Ran.accounts (h : Ran config (poolOf document) (.ofDocument document) s)
    (htargets : config.targets = []) {fact : ApiFact} (hfact : fact ∈ document.apis)
    (hpath : fact.path ≠ "") {share : List Node} (hshare : ∀ n ∈ share, n ∈ s.graph.nodes)
    (hapi : share.map Node.api = instancesOf config document fact) :
    s.Accounts config document fact share := by
  refine ⟨hapi, ?_⟩
  cases hsignature : fact.signature with
  | error e =>
      -- it was rejected when it was read
      rw [instancesOf_malformed hsignature] at hapi
      exact .inl ⟨List.map_eq_nil_iff.mp hapi, _, h.mem_report_of_malformed hfact hsignature, rfl,
        by simp [ApiFact.diagnostic]⟩
  | ok api =>
      have hmem := Surface.mem_apis_ofDocument_iff.mpr ⟨fact, hfact, hsignature⟩
      obtain ⟨part, hpart, hinstantiate⟩ := h.exists_part_of_mem_apis hmem
      rw [instancesOf_eq hsignature hinstantiate] at hapi
      by_cases hnone : part.instances = []
      · -- it was given up when it was instantiated, with a diagnostic that names its path
        rw [hnone] at hapi
        have hapiPath := ApiFact.path_of_signature hsignature
        have howner : ∀ param ∈ api.generics, param.owner = api.path := by
          rw [hapiPath]
          exact ApiFact.owner_of_signature hsignature
        have hcap : 0 < config.limits.maxInstances := Int.natCast_pos.mpr config.maxInstances.pos
        obtain ⟨d, hd, hsubject, hkind⟩ :=
          Pool.exists_diagnostic_of_no_instances hcap (hapiPath ▸ hpath) howner hinstantiate hnone
        refine .inl ⟨List.map_eq_nil_iff.mp hapi, d, Ran.mem_report_of_part hpart hd, ?_, ?_⟩
        · rw [hsubject, hapiPath]
        · rcases hkind with hkind | hkind <;> simp [hkind]
      · -- each of its instances is a target
        refine .inr ⟨fun hempty => hnone (by simpa [hempty] using hapi.symm), fun n hn => ?_⟩
        exact h.exists_driver_or_diagnostic (mem_targets_iff.mpr ⟨hshare n hn, .inl htargets⟩)

/-- Where every function is a target and has a path, a run that accounts for every fact is
there exactly if the scan window fits a machine word or no function is generic, and every cap
that comes to be stated can be written. -/
theorem exists_accounted_run_iff (config : Config) (document : Document)
    (htargets : config.targets = []) (hpaths : ∀ fact ∈ document.apis, fact.path ≠ "") :
    (∃ s, run config (poolOf document) (.ofDocument document) = .ok s ∧
        ∃ shares : List (List Node), shares.flatten = s.graph.nodes ∧
          List.Forall₂ (s.Accounts config document) document.apis shares) ↔
      HasResult config (poolOf document) (.ofDocument document) := by
  rw [← exists_run_iff]
  constructor
  · rintro ⟨s, hs, -⟩
    exact ⟨s, hs⟩
  · rintro ⟨s, hs⟩
    have h := ran_of_run hs
    obtain ⟨shares, hflatten, hshares⟩ := h.exists_shares
    refine ⟨s, hs, shares, hflatten, ?_⟩
    obtain ⟨hlength, hzip⟩ := List.forall₂_iff_zip.mp hshares
    refine List.forall₂_iff_zip.mpr ⟨hlength, fun hentry => ?_⟩
    obtain ⟨hfact, hshare⟩ := List.of_mem_zip hentry
    refine h.accounts htargets hfact (hpaths _ hfact) (fun n hn => ?_) (hzip hentry)
    exact hflatten ▸ List.mem_flatten_of_mem hshare hn

/-! ### A small case -/

/-- A library with the one function `keep<T: Copy>(value: T) -> T`. -/
def keepDocument : Document where
  crate := "demo"
  apis := [⟨"demo::keep", [⟨"T", ["Copy"]⟩], [⟨"value", "T"⟩], some "T"⟩]
  candidates := []

/-- The caps that are given, but for a scan window that is one too large for a machine word. -/
def wideConfig : Config where
  maxProductScan := 9223372036854775808

theorem hasResult_keep : HasResult {} (poolOf keepDocument) (.ofDocument keepDocument) :=
  hasResult_of_statedCaps (.inl (by decide)) (by decide +kernel)

/-- A library with `make() -> Widget` and `take(w: Widget)`. -/
def takeDocument : Document where
  crate := "demo"
  apis := [⟨"demo::make", [], [], some "Widget"⟩, ⟨"demo::take", [], [⟨"w", "Widget"⟩], none⟩]
  candidates := []

/-- No call below a target, and a cap on calls that cannot be written. -/
def longConfig : Config where
  maxDepth := 0
  maxCalls := ⟨leastUnwritable, by decide +kernel⟩

/-- The one input of `take` needs `make`, which the caps forbid; to report that, both are stated. -/
theorem not_hasResult_take :
    ¬ HasResult longConfig (poolOf takeDocument) (.ofDocument takeDocument) := by
  intro h
  obtain ⟨s, hs⟩ := (exists_run_iff ..).mpr h
  have hnone : (run longConfig (poolOf takeDocument) (.ofDocument takeDocument)).toOption.isSome =
      false := by decide +kernel
  simp [hs, Except.toOption] at hnone

/-- With the caps that are given `keep` is accounted for.  With the larger window it is not, and
neither is `take` where a cap that is to be reported cannot be written. -/
theorem exists_accounted_run_keep :
    (({} : Config).targets = [] ∧ wideConfig.targets = [] ∧ longConfig.targets = [] ∧
        (∀ fact ∈ keepDocument.apis, fact.path ≠ "") ∧
        ∀ fact ∈ takeDocument.apis, fact.path ≠ "") ∧
      (∃ s, run {} (poolOf keepDocument) (.ofDocument keepDocument) = .ok s ∧
        ∃ shares : List (List Node), shares.flatten = s.graph.nodes ∧
          List.Forall₂ (s.Accounts {} keepDocument) keepDocument.apis shares) ∧
      (¬ ∃ s, run wideConfig (poolOf keepDocument) (.ofDocument keepDocument) = .ok s ∧
        ∃ shares : List (List Node), shares.flatten = s.graph.nodes ∧
          List.Forall₂ (s.Accounts wideConfig keepDocument) keepDocument.apis shares) ∧
      ¬ ∃ s, run longConfig (poolOf takeDocument) (.ofDocument takeDocument) = .ok s ∧
        ∃ shares : List (List Node), shares.flatten = s.graph.nodes ∧
          List.Forall₂ (s.Accounts longConfig takeDocument) takeDocument.apis shares := by
  have hkeep : ∀ fact ∈ keepDocument.apis, fact.path ≠ "" := by decide
  have htake : ∀ fact ∈ takeDocument.apis, fact.path ≠ "" := by decide
  refine ⟨⟨rfl, rfl, rfl, hkeep, htake⟩, ?_, fun h => ?_, fun h => ?_⟩
  · exact (exists_accounted_run_iff {} keepDocument rfl hkeep).mpr hasResult_keep
  · rcases ((exists_accounted_run_iff wideConfig keepDocument rfl hkeep).mp h).window with
      hfits | hplain
    · exact absurd hfits (by decide)
    · exact absurd hplain (by decide +kernel)
  · exact not_hasResult_take ((exists_accounted_run_iff longConfig takeDocument rfl htake).mp h)

end Synthesis
end FuzzSynth
