/-
Searches end by themselves.

The number of steps is capped, so the loop stops in any case.  But the cap is not what
ends a search: `exists_outcome_of_enough_steps` says that for each graph and target there
is a number of steps that the search never uses up, cycles in the graph or not, and that
with this many steps or more it finds the same, reports the same and says nothing about
the number of steps.

The measure has three layers.  An input weighs more than all inputs of one more call below
it together (`inputWeight_eq`), as long as the cap on the depth allows such a call.  So a
branch gets lighter when an input of it is filled (`queueWeight_fill_lt`).  A branch counts
on the stack as much more than a branch that is lighter as there are ways to fill an input,
so the stack gets lighter with every step (`Step.stackWeight_lt`).  Which producers are
tried, and in which order, does not matter: only how many there can be.
-/
import Mathlib.Algebra.Group.Action.Defs
import Mathlib.Algebra.Order.BigOperators.Group.List
import Mathlib.Algebra.Order.Ring.Nat
import FuzzSynth.Proofs.Driver.Typed
import FuzzSynth.Proofs.Graph.Comparison
import FuzzSynth.Proofs.Search.Report

namespace FuzzSynth

/-! ## The size of a graph -/

namespace Graph

variable {graph : Graph} {consumer : Node} {input : Nat} {e : Edge}

/-- The inputs of the producers of all edges together.  No producer takes more. -/
def producerInputs (graph : Graph) : Nat :=
  (graph.edges.map fun e => e.producer.api.inputTypes.length).sum

theorem length_inputTypes_le (he : e ∈ graph.edges) :
    e.producer.api.inputTypes.length ≤ graph.producerInputs :=
  List.le_sum_of_mem (List.mem_map_of_mem he)

/-- The edges into one input are among all edges. -/
theorem producersFor_sublist_edges (graph : Graph) (consumer : Node) (input : Nat) :
    (graph.producersFor consumer input).Sublist graph.edges := by
  rw [producersFor_eq_rows]
  cases hrow : graph.rows[consumer.place]? with
  | none => exact List.nil_sublist _
  | some row =>
      rw [Option.getD_some]
      cases hslot : row[input]? with
      | none => exact List.nil_sublist _
      | some slot =>
          have hmem : slot ∈ graph.rows.flatten :=
            List.mem_flatten.mpr ⟨row, List.mem_of_getElem? hrow, List.mem_of_getElem? hslot⟩
          exact List.sublist_flatten_of_mem hmem

end Graph

namespace SearchSettings

variable {settings : SearchSettings} {graph : Graph} {target : Node} {s s' : SearchState}
  {usage : Usage} {id depth : Nat} {b : Branch} {item : Pending} {later : List Pending}
  {choice : Option Edge}

/-! ## What is tried -/

/-- There are no more choices than edges and a seed. -/
theorem length_choices_le (settings : SearchSettings) (graph : Graph) (usage : Usage) (b : Branch)
    (item : Pending) :
    (settings.choices graph usage b item).length ≤ graph.edges.length + 1 := by
  have hedges : (settings.tried graph usage item).length ≤ graph.edges.length := by
    have hcut := (Sequence.cut_sublist settings.maxBranching
      (settings.order usage (graph.producersFor item.consumer item.slot.input))).length_le
    rw [(settings.order_perm usage _).length_eq] at hcut
    exact hcut.trans (graph.producersFor_sublist_edges _ _).length_le
  have hseed : ∀ p : Bool, (if p then [(none : Option Edge)] else []).length ≤ 1 := by
    intro p
    cases p <;> simp
  unfold choices
  split
  · rw [List.length_append, List.length_map]
    exact Nat.add_le_add hedges (hseed _)
  · exact (hseed _).trans (Nat.le_add_left 1 _)

/-- A call is tried only where the caps allow one more. -/
theorem allowsCall_of_mem_choices {e : Edge} (h : some e ∈ settings.choices graph usage b item) :
    (item.depth : Int) + 1 ≤ settings.maxDepth ∧ (b.calls.length : Int) < settings.maxCalls := by
  unfold choices at h
  split at h
  · next htries =>
      obtain ⟨-, hallows⟩ := Bool.and_eq_true_iff.mp htries
      obtain ⟨hdepth, hcalls⟩ := Bool.and_eq_true_iff.mp hallows
      exact ⟨of_decide_eq_true hdepth, of_decide_eq_true hcalls⟩
  · split at h <;> simp at h

/-! ## Weights -/

/-- The levels of calls that the caps allow below an input at some depth. -/
def levelsBelow (settings : SearchSettings) (depth : Nat) : Nat :=
  (settings.maxDepth - depth).toNat

/-- The weight of an input at some depth. -/
def inputWeight (settings : SearchSettings) (graph : Graph) (depth : Nat) : Nat :=
  (graph.producerInputs + 1) ^ settings.levelsBelow depth

/-- The weight of inputs that wait in a queue. -/
def queueWeight (settings : SearchSettings) (graph : Graph) (queue : List Pending) : Nat :=
  (queue.map fun item => settings.inputWeight graph item.depth).sum

/-- What a branch counts on the stack. -/
def branchWeight (settings : SearchSettings) (graph : Graph) (b : Branch) : Nat :=
  (graph.edges.length + 2) ^ settings.queueWeight graph b.pending

/-- The weight of all branches on the stack. -/
def stackWeight (settings : SearchSettings) (graph : Graph) (s : SearchState) : Nat :=
  (s.waiting.map (settings.branchWeight graph)).sum

theorem inputWeight_pos (settings : SearchSettings) (graph : Graph) (depth : Nat) :
    0 < settings.inputWeight graph depth :=
  Nat.pow_pos (Nat.succ_pos _)

theorem branchWeight_pos (settings : SearchSettings) (graph : Graph) (b : Branch) :
    0 < settings.branchWeight graph b :=
  Nat.pow_pos (Nat.succ_pos _)

/-- An input weighs as much as all inputs that a call below it can have, and one more. -/
theorem inputWeight_eq (h : (depth : Int) + 1 ≤ settings.maxDepth) :
    settings.inputWeight graph depth =
      (graph.producerInputs + 1) * settings.inputWeight graph (depth + 1) := by
  have hlevels : settings.levelsBelow depth = settings.levelsBelow (depth + 1) + 1 := by
    unfold levelsBelow
    omega
  rw [inputWeight, hlevels, Nat.pow_succ', inputWeight]

@[simp] theorem queueWeight_cons (item : Pending) (later : List Pending) :
    settings.queueWeight graph (item :: later) =
      settings.inputWeight graph item.depth + settings.queueWeight graph later := by
  rw [queueWeight, List.map_cons, List.sum_cons, queueWeight]

@[simp] theorem queueWeight_append (queue more : List Pending) :
    settings.queueWeight graph (queue ++ more) =
      settings.queueWeight graph queue + settings.queueWeight graph more := by
  rw [queueWeight, List.map_append, List.sum_append, queueWeight, queueWeight]

/-- The inputs of a call weigh the same each. -/
theorem queueWeight_ofCall (id : Nat) (node : Node) (depth : Nat) :
    settings.queueWeight graph (Pending.ofCall id node depth) =
      node.api.inputTypes.length * settings.inputWeight graph depth := by
  have hsame : ∀ w ∈ (Pending.ofCall id node depth).map fun item =>
      settings.inputWeight graph item.depth, w = settings.inputWeight graph depth := by
    intro w hw
    obtain ⟨item, hitem, rfl⟩ := List.mem_map.mp hw
    rw [(Branch.mem_ofCall.mp hitem).1.2.2]
  rw [queueWeight, List.sum_eq_card_nsmul _ _ hsame, List.length_map, Branch.length_ofCall,
    smul_eq_mul]

/-- Filling an input leaves less to fill. -/
theorem queueWeight_fill_lt (id : Nat) (hpending : b.pending = item :: later)
    (hchoice : choice ∈ settings.choices graph usage b item) :
    settings.queueWeight graph (b.fill id item later choice).pending <
      settings.queueWeight graph b.pending := by
  rw [hpending, queueWeight_cons]
  cases choice with
  | none =>
      have hpos := settings.inputWeight_pos graph item.depth
      show settings.queueWeight graph later < _
      omega
  | some e =>
      have he : e ∈ graph.edges :=
        (graph.producersFor_sublist_edges _ _).subset (offers_of_mem_choices hchoice)
      have hinputs := Graph.length_inputTypes_le he
      have hpos := settings.inputWeight_pos graph (item.depth + 1)
      -- the inputs of the new call, one level down, weigh less than the one that it fills
      have hcall : e.producer.api.inputTypes.length * settings.inputWeight graph (item.depth + 1) <
          settings.inputWeight graph item.depth := by
        rw [inputWeight_eq (allowsCall_of_mem_choices hchoice).1]
        exact Nat.mul_lt_mul_of_pos_right (Nat.lt_succ_of_le hinputs) hpos
      show settings.queueWeight graph
        (later ++ Pending.ofCall b.calls.length e.producer (item.depth + 1)) < _
      rw [queueWeight_append, queueWeight_ofCall]
      omega

/-- The branches that replace a branch weigh less than it together. -/
theorem sum_branchWeight_lt (hpending : b.pending = item :: later) {children : List Branch}
    (hexpand : settings.expand graph usage id b item later = .ok children) :
    (children.map (settings.branchWeight graph)).sum < settings.branchWeight graph b := by
  rw [expand_ok hexpand]
  obtain ⟨w, hw⟩ : ∃ w, settings.queueWeight graph b.pending = w + 1 := by
    have hpos := settings.inputWeight_pos graph item.depth
    refine Nat.exists_eq_add_one.mpr ?_
    rw [hpending, queueWeight_cons]
    omega
  have hpos : 0 < (graph.edges.length + 2) ^ w := Nat.pow_pos (Nat.succ_pos _)
  have heach : ∀ x ∈ ((settings.choices graph usage b item).map (b.fill id item later)).map
      (settings.branchWeight graph), x ≤ (graph.edges.length + 2) ^ w := by
    intro x hx
    obtain ⟨c, hc, rfl⟩ := List.mem_map.mp hx
    obtain ⟨choice, hchoice, rfl⟩ := List.mem_map.mp hc
    have hlt := queueWeight_fill_lt id hpending hchoice
    exact Nat.pow_le_pow_right (Nat.succ_pos _) (by omega)
  calc (((settings.choices graph usage b item).map (b.fill id item later)).map
          (settings.branchWeight graph)).sum
    _ ≤ (settings.choices graph usage b item).length * (graph.edges.length + 2) ^ w := by
        have hsum := List.sum_le_card_nsmul _ _ heach
        rwa [List.length_map, List.length_map, smul_eq_mul] at hsum
    _ ≤ (graph.edges.length + 1) * (graph.edges.length + 2) ^ w :=
        Nat.mul_le_mul_right _ (settings.length_choices_le graph usage b item)
    _ < (graph.edges.length + 2) * (graph.edges.length + 2) ^ w :=
        Nat.mul_lt_mul_of_pos_right (Nat.lt_succ_self _) hpos
    _ = settings.branchWeight graph b := by rw [branchWeight, hw, Nat.pow_succ']

theorem stackWeight_of_stack {rest : List (Nat × Branch)} (hstack : s.stack = (id, b) :: rest) :
    settings.stackWeight graph s =
      settings.branchWeight graph b +
        ((rest.map Prod.snd).map (settings.branchWeight graph)).sum := by
  rw [stackWeight, SearchState.waiting, hstack, List.map_cons, List.map_cons, List.sum_cons]

/-- Every step makes the stack lighter. -/
theorem Step.stackWeight_lt (h : Step settings graph target s s') :
    settings.stackWeight graph s' < settings.stackWeight graph s := by
  cases h with
  | @refuse _ b rest _ hstack | @accept _ b rest _ hstack | @reject _ b rest _ _ _ _ hstack =>
      -- the branch on top is gone
      have hpos := settings.branchWeight_pos graph b
      rw [stackWeight_of_stack hstack]
      show ((rest.map Prod.snd).map (settings.branchWeight graph)).sum < _
      omega
  | @grow _ b rest _ _ children _ hstack hpending hexpand =>
      have hlt := sum_branchWeight_lt hpending hexpand
      rw [stackWeight_of_stack hstack, stackWeight, SearchState.waiting_pushAll, List.map_append,
        List.sum_append]
      exact Nat.add_lt_add_right hlt _

/-- The steps that a search can take. -/
def stepBound (settings : SearchSettings) (graph : Graph) (target : Node) : Nat :=
  settings.stackWeight graph (.start target)

/-- The steps taken and the weight of the stack stay within the bound together. -/
theorem Reaches.expansions_add_le (h : Reaches settings graph target s) :
    s.expansions + settings.stackWeight graph s ≤ settings.stepBound graph target := by
  induction h with
  | start => exact Nat.le_of_eq (Nat.zero_add _)
  | step hs hstep ih =>
      have hlt := hstep.stackWeight_lt
      rw [hstep.expansions_eq]
      omega

/-- A stack that weighs nothing is empty. -/
theorem stack_eq_nil_of_stackWeight (settings : SearchSettings) (graph : Graph)
    (h : settings.stackWeight graph s = 0) : s.stack = [] := by
  cases hstack : s.stack with
  | nil => rfl
  | cons entry rest =>
      have hpos := settings.branchWeight_pos graph entry.2
      rw [stackWeight_of_stack hstack] at h
      omega

/-! ## Ends that are not due to the number of steps -/

/-- The search is over, however many steps are left. -/
def IsSettled (settings : SearchSettings) (s : SearchState) : Prop :=
  s.stack = [] ∨ settings.hasEnough s = true

/-- With as many steps as the bound, a search ends by itself. -/
theorem Ended.isSettled (hsteps : (settings.stepBound graph target : Int) ≤ settings.maxExpansions)
    (hs : Reaches settings graph target s) (h : settings.Ended s) : settings.IsSettled s := by
  rcases h with hstack | hstop
  · exact .inl hstack
  · cases henough : settings.hasEnough s with
    | true => exact .inr henough
    | false =>
        -- all steps are used up, so nothing is left on the stack
        have hall : ¬ s.expansions < settings.maxExpansions.toNat := fun hlt =>
          hstop ⟨henough, hlt⟩
        have hbound := hs.expansions_add_le
        have hlight : settings.stackWeight graph s = 0 := by omega
        exact .inl (stack_eq_nil_of_stackWeight settings graph hlight)

theorem head?_message_outOfBudget (item : Pending) (maxDepth maxCalls : Int) :
    (DeadEnd.outOfBudget item maxDepth maxCalls).message.toList.head? = some 'I' := by
  show ("Input " ++ DeadEnd.inputText item ++ " needs a producer beyond depth " ++
    Json.intText maxDepth ++ " or " ++ Json.intText maxCalls ++ " calls").toList.head? = _
  simp

theorem head?_message_exhausted (target : Node) (n : Int) :
    (exhaustedDiagnostic target n).message.toList.head? = some 'E' := by
  show ("Expansion budget of " ++ Json.intText n ++ " steps exhausted").toList.head? = _
  simp

/-- A dead end is not reported as the end of the steps. -/
theorem diagnostic_ne_exhausted (d : DeadEnd) (target : Node) (n : Int) :
    d.diagnostic target ≠ exhaustedDiagnostic target n := by
  intro h
  cases d with
  | unfillable item =>
      have hkind := congrArg Diagnostic.kind h
      simp [DeadEnd.diagnostic, DeadEnd.kind, exhaustedDiagnostic] at hkind
  | outOfBudget item maxDepth maxCalls =>
      -- the kind is the same, but the messages begin differently
      have hmessage : (DeadEnd.outOfBudget item maxDepth maxCalls).message =
          (exhaustedDiagnostic target n).message := congrArg Diagnostic.message h
      have hfirst := head?_message_exhausted target n
      rw [← hmessage, head?_message_outOfBudget] at hfirst
      simp at hfirst

theorem noSeedDiagnostic_ne_exhausted (target : Node) (n : Int) :
    noSeedDiagnostic target ≠ exhaustedDiagnostic target n := by
  intro h
  obtain ⟨hkind, -⟩ := Diagnostic.mk.inj h
  cases hkind

/-- No step reports that the steps are used up. -/
theorem Reaches.exhausted_not_mem (h : Reaches settings graph target s) (n : Int) :
    exhaustedDiagnostic target n ∉ s.report.toList := by
  induction h with
  | start => simp [SearchState.start]
  | @step s s' hs hstep ih =>
      have hnew : ∀ d : Diagnostic, d ≠ exhaustedDiagnostic target n →
          exhaustedDiagnostic target n ∉ (s.report.push d).toList := by
        intro d hd hmem
        rcases List.mem_append.mp (Array.toList_push .. ▸ hmem) with hmem | hmem
        · exact ih hmem
        · exact hd (List.mem_singleton.mp hmem).symm
      cases hstep with
      | refuse => exact hnew _ (noSeedDiagnostic_ne_exhausted target n)
      | accept => exact ih
      | grow =>
          rw [SearchState.report_pushAll]
          exact ih
      | @reject _ _ _ _ _ d => exact hnew _ (diagnostic_ne_exhausted d target n)

/-! ## The same search with more steps -/

/-- The settings with another cap on the number of steps. -/
def withSteps (settings : SearchSettings) (steps : Int) : SearchSettings :=
  { settings with maxExpansions := steps }

/-- Once a search is over, it does nothing with the steps that are left. -/
theorem IsSettled.loop_eq (h : settings.IsSettled s) (graph : Graph) (target : Node)
    (budget : Nat) : settings.loop graph target budget s = s := by
  unfold loop
  cases hstack : s.stack with
  | nil => rfl
  | cons entry rest =>
      have henough : settings.hasEnough s = true := h.resolve_left (by rw [hstack]; simp)
      simp [henough]

/-- Without a step left, a search that is over was over before. -/
theorem isSettled_of_loop_zero (h : settings.IsSettled (settings.loop graph target 0 s)) :
    settings.IsSettled s := by
  unfold loop at h
  cases hstack : s.stack with
  | nil => exact .inl hstack
  | cons entry rest =>
      cases henough : settings.hasEnough s with
      | true => exact .inr henough
      | false =>
          -- what is reported changes neither the stack nor what is accepted
          simp only [hstack, henough] at h
          exact h

/-- A search that is not over looks at the branch on top. -/
theorem exists_loop_succ (graph : Graph) (target : Node) (h : ¬ settings.IsSettled s) :
    ∃ next, ∀ (steps : Int) (budget : Nat),
      (settings.withSteps steps).loop graph target (budget + 1) s =
        (settings.withSteps steps).loop graph target budget next := by
  obtain ⟨hstack, henough⟩ := not_or.mp h
  obtain ⟨⟨id, b⟩, rest, hcons⟩ := List.exists_cons_of_ne_nil hstack
  refine ⟨settings.visit graph target id b (s.popTo rest), fun steps budget => ?_⟩
  have hgo : (settings.withSteps steps).hasEnough s = false := Bool.eq_false_of_not_eq_true henough
  rw [loop, hcons]
  simp only [hgo]
  rfl

theorem IsSettled.withSteps (h : settings.IsSettled s) (steps : Int) :
    (settings.withSteps steps).IsSettled s := h

/-- A search that ends by itself does the same with more steps. -/
theorem loop_withSteps {steps more : Int} {budget extra : Nat} (hle : budget ≤ extra)
    (h : settings.IsSettled ((settings.withSteps steps).loop graph target budget s)) :
    (settings.withSteps more).loop graph target extra s =
      (settings.withSteps steps).loop graph target budget s := by
  induction budget generalizing s extra with
  | zero =>
      have hover : (settings.withSteps steps).IsSettled s :=
        isSettled_of_loop_zero (h.withSteps steps)
      have hs : settings.IsSettled s := hover
      rw [(hs.withSteps more).loop_eq, (hs.withSteps steps).loop_eq]
  | succ budget ih =>
      obtain ⟨extra, rfl⟩ : ∃ k, extra = k + 1 := ⟨extra - 1, by omega⟩
      by_cases hs : settings.IsSettled s
      · rw [(hs.withSteps more).loop_eq, (hs.withSteps steps).loop_eq]
      · -- both take the same step
        obtain ⟨next, hnext⟩ := exists_loop_succ graph target hs
        rw [hnext] at h
        rw [hnext, hnext]
        exact ih (Nat.le_of_succ_le_succ hle) h

theorem search_eq_of_final_eq {other : SearchSettings}
    (h : settings.final graph target = other.final graph target) :
    settings.search graph target = other.search graph target := by
  unfold final at h
  unfold search
  rw [h]

/-- For each graph, target and settings there is a number of steps that a search never uses
up: with this many steps or more it goes on until no branch is left or enough drivers are
accepted, gives the same, and does not report that the steps are used up.  This leaves out that a
run fails if its report states a cap that is too long to be written (`Report.isWritable`). -/
theorem exists_outcome_of_enough_steps (settings : SearchSettings) (graph : Graph) (target : Node) :
    ∃ (bound : Nat) (outcome : Outcome), outcome.expansions ≤ bound ∧
      (∀ n, exhaustedDiagnostic target n ∉ outcome.report) ∧
        ∀ steps : Int, bound ≤ steps →
          settings.IsSettled ((settings.withSteps steps).final graph target) ∧
            (settings.withSteps steps).search graph target = outcome := by
  let bound := settings.stepBound graph target
  obtain ⟨last, hlast, hended, hfinal⟩ := exists_reaches_final (settings.withSteps bound) graph target
  have hsettled : (settings.withSteps bound).IsSettled last := hended.isSettled (Int.le_refl _) hlast
  have hconclude : (settings.withSteps bound).conclude target last = last := if_pos hsettled
  rw [hconclude] at hfinal
  refine ⟨bound, (settings.withSteps bound).search graph target, ?_, ?_, ?_⟩
  · have hbound : last.expansions + settings.stackWeight graph last ≤ bound :=
      hlast.expansions_add_le
    show ((settings.withSteps bound).final graph target).expansions ≤ bound
    rw [hfinal]
    omega
  · intro n
    rw [report_search, hfinal]
    exact hlast.exhausted_not_mem n
  · intro steps hsteps
    have hbudget : (bound : Int).toNat ≤ steps.toNat := by omega
    have hover : settings.IsSettled ((settings.withSteps bound).final graph target) := by
      rw [hfinal]
      exact hsettled
    have hsame : (settings.withSteps steps).final graph target =
        (settings.withSteps bound).final graph target := loop_withSteps hbudget hover
    exact ⟨hsame ▸ hover, search_eq_of_final_eq hsame⟩

/-! ### A small case -/

/-- `copy(widget: &Widget) -> Widget`, which can take what it gives. -/
def copyWidget : Instance :=
  let copy : Signature := ⟨"copy", [], [("widget", .ref (.named "Widget" []))], .named "Widget" []⟩
  ⟨copy, .empty, copy⟩

/-- With three levels of calls the copies come to an end, after a driver with one copy, with
two and with three. -/
example : ((search ⟨3, 10, 4, 8, 100, .declaration, false, false⟩
    (Graph.build ⟨true, true⟩ [makeWidget, copyWidget]) ⟨1, copyWidget⟩).drivers.map
      fun d => d.calls.length) = [2, 3, 4] := by
  decide +kernel

end SearchSettings
end FuzzSynth
