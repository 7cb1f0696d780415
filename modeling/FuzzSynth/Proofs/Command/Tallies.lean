/-
What the table of instances tells.

Every row of the table shows how many edges lead into its instance, how many lead out of it, and how
many drivers were found for it.  The edges are looked up by node.  So each edge counts in the row of
its consumer and in the row of its producer, and in no other: both columns add up to the number of
edges (`producerCount_build`, `length_consumersOf_build`).

The drivers are looked up by the key of their target, and instances can have the same key.  Each of
them has all drivers for any of them in its row, so drivers count more than once.  The column shows
the drivers of each instance, and adds up to all drivers, exactly if no other instance has the key of
a target with a driver (`TellsTargets`).
-/
import FuzzSynth.Command.Inspect
import FuzzSynth.Proofs.Graph.Comparison
import FuzzSynth.Proofs.Graph.Exclusive
import FuzzSynth.Proofs.Synthesis.Keys

namespace FuzzSynth

/-! ## Numbers in cells -/

namespace Text

theorem digitChar_inj {m n : Nat} (h : digitChar m = digitChar n) : m % 10 = n % 10 := by
  have hall : ∀ i j : Fin 10, Char.ofNat (0x30 + i) = Char.ofNat (0x30 + j) → i = j := by decide
  have hlt : ∀ n, n % 10 < 10 := fun n => Nat.mod_lt n (by decide)
  exact congrArg Fin.val (hall ⟨m % 10, hlt m⟩ ⟨n % 10, hlt n⟩ h)

theorem decimalDigits_ne_nil (n : Nat) : decimalDigits n ≠ [] := by
  unfold decimalDigits
  split <;> simp

/-- Different numbers have different digits.  The induction drops the last digit of both. -/
theorem decimalDigits_inj {m n : Nat} (h : decimalDigits m = decimalDigits n) : m = n := by
  -- a number of one digit is told from a longer one by the length
  have hlonger : ∀ {k : Nat} {c d : Char}, [c] ≠ decimalDigits k ++ [d] := by
    intro k c d heq
    have hlength := congrArg List.length heq
    simp [decimalDigits_ne_nil] at hlength
  induction m using Nat.strong_induction_on generalizing n with
  | h m ih =>
      rw [decimalDigits, decimalDigits.eq_def n] at h
      split at h <;> split at h
      · have hdigit := digitChar_inj (List.singleton_inj.mp h)
        omega
      · exact absurd h hlonger
      · exact absurd h.symm hlonger
      · obtain ⟨hfront, hlast⟩ := List.append_inj' h rfl
        have hdigit := digitChar_inj (List.singleton_inj.mp hlast)
        have hrest := ih (m / 10) (by omega) hfront
        omega

end Text

theorem Json.intText_inj {m n : Nat} (h : intText m = intText n) : m = n := by
  have hnonneg : ∀ n : Nat, ¬ ((n : Int) < 0) := fun n => by omega
  rw [intText, intText, if_neg (hnonneg m), if_neg (hnonneg n)] at h
  exact Text.decimalDigits_inj (String.ofList_injective h)

namespace Table

/-- The cells below a header, from top to bottom. -/
def cellsUnder (t : Table) (header : String) : List String :=
  t.rows.filterMap fun row => row[t.columns.idxOf header]?

/-- Below the header stand these numbers. -/
def Shows (t : Table) (header : String) (ns : List Nat) : Prop :=
  t.cellsUnder header = ns.map fun n : Nat => Json.intText n

/-- A column shows only what it shows. -/
theorem Shows.eq {t : Table} {header : String} {ms ns : List Nat} (hms : t.Shows header ms)
    (hns : t.Shows header ns) : ms = ns :=
  List.map_injective_iff.mpr (fun _ _ => Json.intText_inj) (hms.symm.trans hns)

end Table

/-! ## Edges -/

namespace Graph

variable {choice : AdapterChoice} {instances : List Instance} {n : Node}

/-- The edges into a node are those of which it is the consumer. -/
theorem producerCount_build (hn : n ∈ nodesOf instances) :
    (build choice instances).producerCount n =
      (build choice instances).edges.countP fun e => e.consumer = n := by
  set graph := build choice instances with hgraph
  have hplace : ∀ e ∈ graph.edges, e.consumer.place = n.place ↔ e.consumer = n := by
    intro e he
    have hconsumer := (mem_nodes_of_mem_edges choice instances he).2
    exact ⟨eq_of_place_eq hconsumer hn, fun h => h ▸ rfl⟩
  -- each of these edges leads into one of the inputs
  have hinput : ∀ e ∈ graph.edges.filter fun e => e.consumer = n,
      e.input ∈ List.range n.api.inputTypes.length := by
    intro e he
    obtain ⟨he, hconsumer⟩ := List.mem_filter.mp he
    obtain ⟨-, wanted, hwanted, -⟩ := of_mem_edges_build choice instances he
    rw [of_decide_eq_true hconsumer] at hwanted
    exact List.mem_range.mpr (List.getElem?_eq_some_iff.mp hwanted).1
  rw [producerCount, Sequence.total_eq_sum, List.countP_eq_length_filter,
    ← Sequence.sum_tally List.nodup_range hinput, Sequence.tally]
  congr 1
  refine List.map_congr_left fun input _ => ?_
  rw [hgraph, producersFor_build_eq_filter, ← List.countP_eq_length_filter, List.countP_filter]
  refine List.countP_congr fun e he => ?_
  simp [hplace e he, and_comm]

/-- The edges out of a node are those of which it is the producer. -/
theorem length_consumersOf_build (hn : n ∈ nodesOf instances) :
    ((build choice instances).consumersOf n).length =
      (build choice instances).edges.countP fun e => e.producer = n := by
  rw [consumersOf_build_eq_filter, ← List.countP_eq_length_filter]
  refine List.countP_congr fun e he => ?_
  have hproducer := (mem_nodes_of_mem_edges choice instances he).1
  rw [decide_eq_true_iff, decide_eq_true_iff]
  exact ⟨eq_of_place_eq hproducer hn, fun h => h ▸ rfl⟩

end Graph

/-! ## The table -/

open Command Sequence

namespace Synthesis

variable {config : Config} {pool : Pool} {surface : Surface} {s : Synthesis} (markup : Markup)

/-- Below a header stand the cells of the nodes at its place. -/
theorem cellsUnder_instanceTable {header : String} {i : Nat} {cell : Node → String}
    (hheader : (instanceTable markup s).columns.idxOf header = i)
    (hcell : ∀ n, (instanceRow markup s.graph (s.drivers.map fun d => d.target.api.key) n)[i]? =
      some (cell n)) :
    (instanceTable markup s).cellsUnder header = s.graph.nodes.map cell := by
  have hcells : (fun row : List String => row[i]?) ∘
      instanceRow markup s.graph (s.drivers.map fun d => d.target.api.key) = some ∘ cell :=
    funext hcell
  rw [Table.cellsUnder, hheader, instanceTable, List.filterMap_map, hcells, List.filterMap_eq_map]

/-- A column of numbers shows the numbers of the nodes. -/
theorem shows_instanceTable {header : String} {i : Nat} {number count : Node → Nat}
    (hheader : (instanceTable markup s).columns.idxOf header = i)
    (hcell : ∀ n, (instanceRow markup s.graph (s.drivers.map fun d => d.target.api.key) n)[i]? =
      some (Json.intText (number n)))
    (hnumber : ∀ n ∈ s.graph.nodes, number n = count n) :
    (instanceTable markup s).Shows header (s.graph.nodes.map count) := by
  rw [Table.Shows, cellsUnder_instanceTable markup hheader hcell, List.map_map]
  refine List.map_congr_left fun n hn => ?_
  rw [hnumber n hn]
  rfl

/-! ### Drivers -/

/-- The drivers that count in the row of a node. -/
def listedDrivers (s : Synthesis) (n : Node) : Nat :=
  s.drivers.countP fun d => d.target.api.key = n.api.key

/-- No other node has the key of the target of a driver. -/
def TellsTargets (s : Synthesis) : Prop :=
  ∀ d ∈ s.drivers, ∀ n ∈ s.graph.nodes, n.api.key = d.target.api.key → n = d.target

/-- Where all instances have different keys, a key tells the target. -/
theorem tellsTargets_of_nodup (h : Ran config pool surface s)
    (hkeys : (s.instances.map Instance.key).Nodup) : s.TellsTargets :=
  fun d hd n hn hkey => eq_of_key_eq hkeys n hn d.target (h.target_mem_nodes hd) hkey

/-- A row counts the drivers for its node, and no others, exactly if a key tells the target. -/
theorem forall_countP_eq_listedDrivers_iff :
    (∀ n ∈ s.graph.nodes, (s.drivers.countP fun d => d.target = n) = s.listedDrivers n) ↔
      s.TellsTargets := by
  have hrow : ∀ n, (s.drivers.countP fun d => d.target = n) = s.listedDrivers n ↔
      ∀ d ∈ s.drivers, d.target.api.key = n.api.key → d.target = n := by
    intro n
    rw [listedDrivers, countP_eq_countP_iff]
    · simp only [decide_eq_true_eq]
    · intro d hd
      rw [decide_eq_true_eq] at hd ⊢
      rw [hd]
  constructor
  · intro h d hd n hn hkey
    exact ((hrow n).mp (h n hn) d hd hkey.symm).symm
  · intro h n hn
    exact (hrow n).mpr fun d hd hkey => (h d hd n hn hkey.symm).symm

/-- The rows count all drivers together, and none more than once, exactly if a key tells the
target. -/
theorem sum_listedDrivers_eq_iff (h : Ran config pool surface s) :
    (s.graph.nodes.map s.listedDrivers).sum = s.drivers.length ↔ s.TellsTargets := by
  have hall := sum_tally h.nodup_nodes fun d hd => h.target_mem_nodes hd
  -- each row counts at least the drivers for its node
  have hle : ∀ n ∈ s.graph.nodes, (s.drivers.countP fun d => d.target = n) ≤ s.listedDrivers n := by
    intro n _
    refine List.countP_mono_left fun d _ hd => ?_
    rw [decide_eq_true_eq] at hd ⊢
    rw [hd]
  rw [← hall, ← forall_countP_eq_listedDrivers_iff, ← sum_map_eq_iff hle]
  exact eq_comm

/-! ### All columns -/

/-- What a table of the nodes tells of a run, in which keys are escaped. -/
structure IsTallied (s : Synthesis) (escape : String → String) (t : Table) : Prop where
  /-- The rows are those of the nodes, in order. -/
  nodes : t.cellsUnder "API" = s.graph.nodes.map fun n => escape n.api.key
  /-- The edges into each node are shown. -/
  producers : t.Shows "Producers" (tally s.graph.nodes Edge.consumer s.graph.edges)
  sum_producers : (tally s.graph.nodes Edge.consumer s.graph.edges).sum = s.graph.edges.length
  /-- The edges out of each node are shown. -/
  consumers : t.Shows "Consumers" (tally s.graph.nodes Edge.producer s.graph.edges)
  sum_consumers : (tally s.graph.nodes Edge.producer s.graph.edges).sum = s.graph.edges.length
  /-- The drivers are shown by the key of their target. -/
  listed : t.Shows "Drivers" (s.graph.nodes.map s.listedDrivers)
  /-- They are the drivers of each node exactly if a key tells the target. -/
  drivers_iff : t.Shows "Drivers" (tally s.graph.nodes Driver.target s.drivers) ↔ s.TellsTargets
  /-- They add up to all drivers exactly if a key tells the target. -/
  sum_drivers_iff : (∃ ns, t.Shows "Drivers" ns ∧ ns.sum = s.drivers.length) ↔ s.TellsTargets
  /-- Different keys tell the targets. -/
  tellsTargets : (s.instances.map Instance.key).Nodup → s.TellsTargets

/-- The table of instances shows the edges of each node, and accounts for each of them once in both
columns.  It shows the drivers of each node, and accounts for each of them once, if and only if no
other node has the key of the target of a driver.  All that is so however texts are escaped. -/
theorem isTallied_instanceTable (hrun : run config pool surface = .ok s) :
    s.IsTallied markup.escape (instanceTable markup s) := by
  have h := ran_of_run hrun
  have hedges : ∀ e ∈ s.graph.edges, e.producer ∈ s.graph.nodes ∧ e.consumer ∈ s.graph.nodes := by
    intro e he
    rw [h.nodes_eq]
    exact Graph.mem_nodes_of_mem_edges _ _ (h.graph_eq ▸ he)
  have hlisted : (instanceTable markup s).Shows "Drivers" (s.graph.nodes.map s.listedDrivers) := by
    refine shows_instanceTable markup rfl (fun _ => rfl) fun n _ => ?_
    rw [List.count_eq_countP, List.countP_map]
    rfl
  constructor
  case nodes => exact cellsUnder_instanceTable markup rfl fun _ => rfl
  case producers =>
    refine shows_instanceTable markup rfl (fun _ => rfl) fun n hn => ?_
    rw [h.graph_eq]
    exact Graph.producerCount_build (h.nodes_eq ▸ hn)
  case sum_producers => exact sum_tally h.nodup_nodes fun e he => (hedges e he).2
  case consumers =>
    refine shows_instanceTable markup rfl (fun _ => rfl) fun n hn => ?_
    rw [h.graph_eq]
    exact Graph.length_consumersOf_build (h.nodes_eq ▸ hn)
  case sum_consumers => exact sum_tally h.nodup_nodes fun e he => (hedges e he).1
  case listed => exact hlisted
  case drivers_iff =>
    rw [← forall_countP_eq_listedDrivers_iff]
    constructor
    · intro hshows
      exact List.map_inj_left.mp (hshows.eq hlisted)
    · intro hsame
      have hcolumns : tally s.graph.nodes Driver.target s.drivers =
          s.graph.nodes.map s.listedDrivers := List.map_congr_left hsame
      exact hcolumns ▸ hlisted
  case sum_drivers_iff =>
    rw [← sum_listedDrivers_eq_iff h]
    constructor
    · rintro ⟨ns, hshows, hsum⟩
      rw [← hlisted.eq hshows] at hsum
      exact hsum
    · exact fun hsum => ⟨_, hlisted, hsum⟩
  case tellsTargets => exact tellsTargets_of_nodup h

/-- Two functions of one name, `make() -> Widget` and `make(size: u8) -> Widget`. -/
def makersDocument : Document where
  crate := "demo"
  apis := [⟨"demo::make", [], [], some "Widget"⟩,
    ⟨"demo::make", [], [⟨"size", "u8"⟩], some "Widget"⟩]
  candidates := []

/-- Each of the two functions has one driver, and each of the two rows shows both drivers. -/
theorem isTallied_instanceTable_makersDocument :
    ∃ s, run {} (poolOf makersDocument) (.ofDocument makersDocument) = .ok s ∧
      s.IsTallied Text.escape (instanceTable .standard s) ∧
      (instanceTable .standard s).Shows "Drivers" [2, 2] ∧
      tally s.graph.nodes Driver.target s.drivers = [1, 1] ∧ ¬ s.TellsTargets := by
  obtain ⟨s, hs⟩ := exists_run_default (poolOf makersDocument) (.ofDocument makersDocument)
  have hcounts : (run {} (poolOf makersDocument) (.ofDocument makersDocument)).toOption.map
      (fun s => (s.graph.nodes.map s.listedDrivers,
        tally s.graph.nodes Driver.target s.drivers)) = some ([2, 2], [1, 1]) := by
    decide +kernel
  rw [hs] at hcounts
  obtain ⟨hlisted, hdrivers⟩ := Prod.mk.inj (Option.some.inj hcounts)
  have h := isTallied_instanceTable .standard hs
  have hshows : (instanceTable .standard s).Shows "Drivers" [2, 2] := hlisted ▸ h.listed
  refine ⟨s, hs, h, hshows, hdrivers, fun htells => ?_⟩
  -- a table that told the drivers of each node would show one in either row
  have hone := (h.drivers_iff.mpr htells).eq hshows
  rw [hdrivers] at hone
  exact absurd hone (by decide)

end Synthesis
end FuzzSynth
