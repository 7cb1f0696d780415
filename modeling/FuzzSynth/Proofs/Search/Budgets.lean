/-
The budgets of a search.

The search compares the depth of a waiting input with the cap on the depth, and the calls
of a branch with the cap on calls, before it makes one more call.  So a branch keeps both
caps as it grows (`Reaches.isWithinCaps`).  In the driver that it becomes, calls stand in
another order and have other numbers, but a value still goes up by one level: a call that
feeds a call at some depth is itself one level deeper (`Becomes.standsAt_of_feeds`).  By
induction the length of a chain of calls from the target down is the depth of its last
call, which the cap bounds.

`search_isWithinBudgets` puts this together with what holds of the whole run: the numbers
of drivers and steps, the seeds that are required, and the one diagnostic that says that
the steps are used up.
-/
import FuzzSynth.Proofs.Driver.Consumption
import FuzzSynth.Proofs.Search.Termination

namespace FuzzSynth

/-! ## Chains of calls in a driver -/

/-- Calls that lead away from the target: the first feeds the target, and each of the others
feeds the one before it.  There are as many links as calls. -/
def Driver.IsChain (d : Driver) (chain : List Nat) : Prop :=
  ((d.calls.length - 1) :: chain).IsChain fun p k => d.Feeds k p

namespace Branch

variable {ok : Pending → Option Edge → Prop} {target : Node} {b : Branch} {d : Driver}
  {settings : SearchSettings}

/-- The call that gets this place in the driver is so far below the target. -/
def StandsAt (b : Branch) (place depth : Nat) : Prop :=
  ∃ id node, place + id + 1 = b.calls.length ∧ b.calls[id]? = some (node, depth)

/-- The target stands last. -/
theorem Coherent.standsAt_last (h : b.Coherent ok target) :
    b.StandsAt (b.calls.length - 1) 0 := by
  have hpos := h.length_pos
  exact ⟨0, target, by omega, h.head⟩

/-- A call that feeds another one is one level deeper. -/
theorem Becomes.standsAt_of_feeds (hbecomes : b.Becomes target d) (h : b.Coherent ok target)
    (hpending : b.pending = []) {k p depth : Nat} (hfeeds : d.Feeds k p)
    (hp : b.StandsAt p depth) : b.StandsAt k (depth + 1) := by
  obtain ⟨c, hc, adapter, hbinding⟩ := hfeeds
  obtain ⟨id, depth', hid, hcall, hlength, hbindings⟩ := hbecomes.call hc
  obtain ⟨id', node, hid', hcall'⟩ := hp
  obtain rfl : id' = id := by omega
  obtain ⟨-, rfl⟩ := Prod.mk.inj (Option.some.inj (hcall'.symm.trans hcall))
  -- the binding comes from what fills an input of that call
  obtain ⟨i, hi⟩ := List.mem_iff_getElem?.mp hbinding
  obtain ⟨f, hf, heq⟩ := hbindings hi
  have hlt : i < c.node.api.inputTypes.length :=
    hlength ▸ (List.getElem?_eq_some_iff.mp hi).1
  obtain ⟨name, hitem⟩ := exists_mem_inputs hcall (List.getElem?_eq_getElem hlt)
  obtain ⟨f', hf', hfills⟩ := h.exists_filling hpending hitem
  obtain rfl : f' = f := Option.some.inj (hf'.symm.trans hf)
  cases f' with
  | seed index => cases heq
  | call callId _ =>
      obtain ⟨e, -, -, hproducer, -⟩ := hfills
      have hposition : (k : Int) = b.position callId := by
        injection heq
      have hcallId := (List.getElem?_eq_some_iff.mp hproducer).1
      refine ⟨callId, e.producer, ?_, hproducer⟩
      unfold position at hposition
      omega

/-! ## Caps on a branch -/

/-- A branch keeps the caps on calls and on depth.  The target is called whatever the caps are. -/
structure IsWithinCaps (settings : SearchSettings) (b : Branch) : Prop where
  calls : (b.calls.length : Int) ≤ max 1 settings.maxCalls
  depth : ∀ c ∈ b.calls, (c.2 : Int) ≤ max 0 settings.maxDepth

theorem isWithinCaps_root (settings : SearchSettings) (target : Node) :
    (root target).IsWithinCaps settings where
  calls := Int.le_max_left 1 settings.maxCalls
  depth := by
    intro c hc
    rw [List.mem_singleton.mp hc]
    exact Int.le_max_left 0 settings.maxDepth

/-- A branch keeps the caps when an input is filled in a way that is tried. -/
theorem IsWithinCaps.fill (h : b.IsWithinCaps settings) {graph : Graph} {usage : Usage} {id : Nat}
    {item : Pending} {later : List Pending} {choice : Option Edge}
    (hchoice : choice ∈ settings.choices graph usage b item) :
    (b.fill id item later choice).IsWithinCaps settings := by
  cases choice with
  | none => exact ⟨h.calls, h.depth⟩
  | some e =>
      obtain ⟨hdepth, hcalls⟩ := SearchSettings.allowsCall_of_mem_choices hchoice
      constructor
      case calls =>
        show ((b.calls ++ [(e.producer, item.depth + 1)]).length : Int) ≤ _
        rw [List.length_append, List.length_singleton]
        omega
      case depth =>
        intro c hc
        rcases List.mem_append.mp hc with hc | hc
        · exact h.depth c hc
        · rw [List.mem_singleton.mp hc]
          show ((item.depth + 1 : Nat) : Int) ≤ _
          omega

/-- A chain that starts at some depth ends within the cap. -/
theorem Becomes.depth_add_length_le (hbecomes : b.Becomes target d) (h : b.Coherent ok target)
    (hpending : b.pending = []) (hcaps : b.IsWithinCaps settings) {chain : List Nat}
    {p depth : Nat} (hp : b.StandsAt p depth)
    (hchain : (p :: chain).IsChain fun p k => d.Feeds k p) :
    (depth : Int) + chain.length ≤ max 0 settings.maxDepth := by
  -- each link goes one level down, so depth and links left over add up to the same
  induction chain generalizing p depth with
  | nil =>
      obtain ⟨id, node, -, hcall⟩ := hp
      have := hcaps.depth _ (List.mem_of_getElem? hcall)
      simpa using this
  | cons k rest ih =>
      obtain ⟨hfeeds, hrest⟩ := List.isChain_cons_cons.mp hchain
      have := ih (hbecomes.standsAt_of_feeds h hpending hfeeds hp) hrest
      rw [List.length_cons]
      omega

/-- In what a finished branch becomes, no chain of calls is longer than the cap on the depth. -/
theorem Becomes.length_chain_le (hbecomes : b.Becomes target d) (h : b.Coherent ok target)
    (hpending : b.pending = []) (hcaps : b.IsWithinCaps settings) {chain : List Nat}
    (hchain : d.IsChain chain) : (chain.length : Int) ≤ max 0 settings.maxDepth := by
  have hlast := h.standsAt_last
  rw [← hbecomes.length_calls] at hlast
  have := hbecomes.depth_add_length_le h hpending hcaps hlast hchain
  omega

end Branch

/-! ## Caps on a search -/

namespace SearchSettings

variable {settings : SearchSettings} {graph : Graph} {target : Node} {s s' : SearchState}

/-- Every branch that is accepted keeps the caps. -/
theorem Reaches.isWithinCaps (h : Reaches settings graph target s) :
    ∀ b ∈ s.accepted.toList, b.IsWithinCaps settings := by
  have hall := h.forall_branch (Q := fun b => b.IsWithinCaps settings)
    (Branch.isWithinCaps_root settings target) ?_
  · exact fun b hb => (hall.2.2 b hb).1
  · intro id b item later usage children _ hb _ hexpand c hc
    rw [expand_ok hexpand] at hc
    obtain ⟨choice, hchoice, rfl⟩ := List.mem_map.mp hc
    exact hb.fill hchoice

theorem Step.mayStep (h : Step settings graph target s s') : settings.MayStep s := by
  obtain ⟨_, _, _, hgo, -⟩ := h.exists_visit
  exact hgo

/-- A step is only taken while steps are left. -/
theorem Reaches.expansions_le (h : Reaches settings graph target s) :
    (s.expansions : Int) ≤ max 0 settings.maxExpansions := by
  induction h with
  | start => exact Int.le_max_left 0 settings.maxExpansions
  | step _ hstep _ =>
      have hleft := hstep.mayStep.2
      rw [hstep.expansions_eq]
      omega

/-- A branch is only accepted while drivers are wanted. -/
theorem Reaches.size_accepted_le (h : Reaches settings graph target s) :
    (s.accepted.size : Int) ≤ max 0 settings.maxDrivers := by
  induction h with
  | start => exact Int.le_max_left 0 settings.maxDrivers
  | step _ hstep ih =>
      cases hstep with
      | refuse | reject => exact ih
      | grow => simpa [SearchState.popTo] using ih
      | accept hgo =>
          have hwanted := of_decide_eq_false hgo.1
          show ((Array.push _ _).size : Int) ≤ _
          rw [Array.size_push]
          omega

/-- A branch without seeds is not accepted where one is required. -/
theorem Reaches.seeds_ne_nil (h : Reaches settings graph target s)
    (hrequire : settings.requireSeed = true) : ∀ b ∈ s.accepted.toList, b.seeds ≠ [] := by
  induction h with
  | start => simp [SearchState.start]
  | step _ hstep ih =>
      cases hstep with
      | refuse | reject => exact ih
      | grow => simpa [SearchState.popTo] using ih
      | accept _ _ _ hseeds =>
          intro c hc
          rcases List.mem_append.mp (Array.toList_push .. ▸ hc) with hc | hc
          · exact ih c hc
          · rw [List.mem_singleton.mp hc]
            exact hseeds hrequire

/-- The report of a search is that of its steps, followed by the record that the steps are used
up if a branch still waits and more drivers are wanted. -/
theorem report_eq_of_final (hfinal : settings.final graph target = settings.conclude target s) :
    (settings.search graph target).report = s.report.toList ++
      if s.stack ≠ [] ∧ (s.accepted.size : Int) < settings.maxDrivers then
        [exhaustedDiagnostic target settings.maxExpansions] else [] := by
  have hcut : ¬ (s.stack = [] ∨ settings.hasEnough s = true) ↔
      s.stack ≠ [] ∧ (s.accepted.size : Int) < settings.maxDrivers := by
    simp [hasEnough]
  rw [report_search, hfinal, conclude]
  by_cases h : s.stack = [] ∨ settings.hasEnough s = true
  · rw [if_pos h, if_neg fun hopen => hcut.mpr hopen h, List.append_nil]
  · rw [if_neg h, if_pos (hcut.mp h), SearchState.record, Array.toList_push]

end SearchSettings

/-! ## The budgets -/

/-- A driver keeps the budgets: the numbers of its calls and of the links in each of its chains
are capped, and it has a seed if one is required. -/
structure Driver.IsWithinBudgets (settings : SearchSettings) (d : Driver) : Prop where
  calls : (d.calls.length : Int) ≤ max 1 settings.maxCalls
  links {chain : List Nat} (h : d.IsChain chain) : (chain.length : Int) ≤ max 0 settings.maxDepth
  seeds (h : settings.requireSeed = true) : d.seeds ≠ []

namespace SearchSettings

variable (settings : SearchSettings) (graph : Graph) (target : Node)

theorem isWithinBudgets_of_mem_drivers {d : Driver}
    (hd : d ∈ (settings.search graph target).drivers) : d.IsWithinBudgets settings := by
  obtain ⟨b, hb, hdriver⟩ := List.mem_filterMap.mp hd
  obtain ⟨hgrown, hpending⟩ := settings.grown_of_mem_accepted graph target hb
  have hbecomes := Branch.becomes_of_driver? hdriver
  obtain ⟨last, hlast, -, hfinal⟩ := exists_reaches_final settings graph target
  rw [accepted_search, hfinal, conclude_accepted] at hb
  have hcaps := hlast.isWithinCaps b hb
  constructor
  case calls =>
    rw [hbecomes.length_calls]
    exact hcaps.calls
  case links => exact hbecomes.length_chain_le hgrown.coherent hpending hcaps
  case seeds =>
    intro hrequire
    have hlength := hbecomes.length_seeds
    have hpos := List.length_pos_of_ne_nil (hlast.seeds_ne_nil hrequire b hb)
    exact List.ne_nil_of_length_pos (by omega)

/-- Budgets hold: those of each driver, the numbers of drivers and of steps, and that the steps
are used up is reported once at most, as the last record, exactly when the search stops with a
branch on the stack and fewer drivers than are wanted.  A run whose report states a cap that is too
long to be written (`Report.isWritable`) fails instead, and is left out. -/
theorem search_isWithinBudgets :
    (∀ d ∈ (settings.search graph target).drivers, d.IsWithinBudgets settings) ∧
      ((settings.search graph target).drivers.length : Int) ≤ max 0 settings.maxDrivers ∧
      ((settings.search graph target).expansions : Int) ≤ max 0 settings.maxExpansions ∧
      ∃ before : Report, (∀ n, exhaustedDiagnostic target n ∉ before) ∧
        (settings.search graph target).report = before ++
          if (settings.final graph target).stack ≠ [] ∧
              ((settings.search graph target).drivers.length : Int) < settings.maxDrivers then
            [exhaustedDiagnostic target settings.maxExpansions] else [] := by
  obtain ⟨last, hlast, -, hfinal⟩ := exists_reaches_final settings graph target
  -- there is a driver for every branch that is accepted
  have hdrivers : (settings.search graph target).drivers.length = last.accepted.size := by
    have hlength := congrArg List.length (settings.map_driver?_accepted graph target)
    rw [List.length_map, List.length_map, accepted_search, hfinal, conclude_accepted] at hlength
    exact hlength.symm
  have hexpansions : (settings.search graph target).expansions = last.expansions := by
    show (settings.final graph target).expansions = last.expansions
    rw [hfinal, conclude]
    split <;> rfl
  refine ⟨fun d hd => settings.isWithinBudgets_of_mem_drivers graph target hd, ?_, ?_, ?_⟩
  · rw [hdrivers]
    exact hlast.size_accepted_le
  · rw [hexpansions]
    exact hlast.expansions_le
  · refine ⟨last.report.toList, hlast.exhausted_not_mem, ?_⟩
    rw [report_eq_of_final hfinal, hdrivers, hfinal, conclude_stack]

/-! ### A small case -/

/-- Two levels of calls below the target, three calls and four steps. -/
def tightSettings : SearchSettings := ⟨2, 10, 4, 3, 4, .declaration, false, false⟩

/-- Copies of a widget, with room for a driver of two calls and one of three.  The search stops
with a branch left that calls `copy` on two levels and can only be a dead end. -/
theorem search_isWithinBudgets_copyWidget :
    ((tightSettings.search (Graph.build ⟨true, true⟩ [makeWidget, copyWidget])
        ⟨1, copyWidget⟩).drivers.map fun d => d.calls.length) = [2, 3] ∧
      (∀ d ∈ (tightSettings.search (Graph.build ⟨true, true⟩ [makeWidget, copyWidget])
        ⟨1, copyWidget⟩).drivers, ∀ chain, d.IsChain chain → (chain.length : Int) ≤ 2) ∧
      (tightSettings.search (Graph.build ⟨true, true⟩ [makeWidget, copyWidget])
        ⟨1, copyWidget⟩).report.getLast? = some (exhaustedDiagnostic ⟨1, copyWidget⟩ 4) := by
  obtain ⟨hdrivers, -, -, before, -, hreport⟩ := search_isWithinBudgets tightSettings
    (Graph.build ⟨true, true⟩ [makeWidget, copyWidget]) ⟨1, copyWidget⟩
  refine ⟨by decide +kernel, fun d hd chain hchain => (hdrivers d hd).links hchain, ?_⟩
  rw [hreport, if_pos ⟨by decide +kernel, by decide +kernel⟩, List.getLast?_concat]
  rfl

end SearchSettings
end FuzzSynth
