/-
What offering seeds changes.

A search that offers seeds tries, behind the calls for an input, a seed as well.  A search that does
not falls back on a seed only where no call may be tried.  So the branches that fill an input in the
second search also do in the first one, in the same order, and at most one is added to them, which
takes a seed although the input has producers (`interleaves_offspring`).

If both searches come to the end of their stacks, the same goes for all branches that they look at
(`looked_interleaves`): one search looks at those of the other in the same order, and in between at
branches that grew from added ones.  Branches that belong together have different numbers, so they
also differ in where they come from, but in nothing else (`Branch.Alike`).
-/
import FuzzSynth.Proofs.Search.Refusal

namespace FuzzSynth

/-! ## Lists with more in between -/

namespace Sequence

variable {α β γ : Type} {R : α → β → Prop} {P : β → Prop} {xs xs' : List α} {ys ys' : List β}

/-- The second list holds what belongs to the elements of the first, in order, and in between
elements of which `P` holds. -/
inductive Interleaves (R : α → β → Prop) (P : β → Prop) : List α → List β → Prop
  | nil : Interleaves R P [] []
  | both {a : α} {b : β} {xs : List α} {ys : List β} (h : R a b) (hrest : Interleaves R P xs ys) :
      Interleaves R P (a :: xs) (b :: ys)
  | more {b : β} {xs : List α} {ys : List β} (h : P b) (hrest : Interleaves R P xs ys) :
      Interleaves R P xs (b :: ys)

namespace Interleaves

theorem append (h : Interleaves R P xs ys) (h' : Interleaves R P xs' ys') :
    Interleaves R P (xs ++ xs') (ys ++ ys') := by
  induction h with
  | nil => exact h'
  | both hab _ ih => exact .both hab ih
  | more hb _ ih => exact .more hb ih

/-- Nothing corresponds to elements of which `P` holds. -/
theorem of_forall (h : ∀ b ∈ ys, P b) : Interleaves R P [] ys := by
  induction ys with
  | nil => exact .nil
  | cons b ys ih =>
      obtain ⟨hb, hys⟩ := List.forall_mem_cons.mp h
      exact .more hb (ih hys)

/-- What is made of the same elements corresponds one by one. -/
theorem of_map {f : γ → α} {g : γ → β} {zs : List γ} (h : ∀ c ∈ zs, R (f c) (g c)) :
    Interleaves R P (zs.map f) (zs.map g) := by
  induction zs with
  | nil => exact .nil
  | cons c zs ih =>
      obtain ⟨hc, hzs⟩ := List.forall_mem_cons.mp h
      exact .both hc (ih hzs)

theorem eq_nil (h : Interleaves R P xs []) : xs = [] := by
  cases h
  rfl

/-- An element of the second list belongs to the first one of the other, or is in between. -/
theorem cons_right {b : β} (h : Interleaves R P xs (b :: ys)) :
    (∃ a rest, xs = a :: rest ∧ R a b ∧ Interleaves R P rest ys) ∨ P b ∧ Interleaves R P xs ys := by
  cases h with
  | both hab hrest => exact .inl ⟨_, _, rfl, hab, hrest⟩
  | more hb hrest => exact .inr ⟨hb, hrest⟩

/-- If the same values are made of elements that belong together, then there are more values in
between, those of the elements in between. -/
theorem filterMap {f : α → Option γ} {g : β → Option γ} {Q : γ → Prop}
    (h : Interleaves R P xs ys) (hboth : ∀ a b, R a b → f a = g b)
    (hmore : ∀ b y, P b → g b = some y → Q y) :
    Interleaves Eq Q (xs.filterMap f) (ys.filterMap g) := by
  induction h with
  | nil => exact .nil
  | @both a b _ _ hab _ ih =>
      rw [List.filterMap_cons, List.filterMap_cons, hboth a b hab]
      cases g b with
      | none => exact ih
      | some y => exact .both rfl ih
  | @more b _ _ hb _ ih =>
      rw [List.filterMap_cons]
      cases hy : g b with
      | none => exact ih
      | some y => exact .more (hmore b y hb hy) ih

/-- None of the elements is lost, and those that are added are in between. -/
theorem exists_more {xs ys : List β} (h : Interleaves Eq P xs ys) :
    ∃ more, xs.Sublist ys ∧ ys.Perm (xs ++ more) ∧ ∀ b ∈ more, P b := by
  induction h with
  | nil => exact ⟨[], List.Sublist.slnil, List.Perm.nil, by simp⟩
  | @both a b _ _ hab _ ih =>
      obtain ⟨more, hsublist, hperm, hmore⟩ := ih
      obtain rfl := hab
      exact ⟨more, hsublist.cons_cons a, hperm.cons a, hmore⟩
  | @more b xs ys hb _ ih =>
      obtain ⟨more, hsublist, hperm, hmore⟩ := ih
      refine ⟨b :: more, hsublist.cons b, ?_, List.forall_mem_cons.mpr ⟨hb, hmore⟩⟩
      exact (hperm.cons b).trans List.perm_middle.symm

end Interleaves
end Sequence

open Sequence (Interleaves)

/-! ## Branches of the two searches -/

/-- Some call takes a seed for an input that has producers. -/
def Driver.PrefersSeed (graph : Graph) (d : Driver) : Prop :=
  ∃ c ∈ d.calls, ∃ (input : Nat) (index : Int),
    c.bindings[input]? = some (.seed index) ∧ graph.producersFor c.node input ≠ []

namespace Branch

variable {ok : Pending → Option Edge → Prop} {graph : Graph} {target : Node} {b c : Branch}
  {d : Driver} {id id' : Nat} {item : Pending} {later : List Pending} {choice : Option Edge}

/-- The branches differ at most in where they come from. -/
structure Alike (b c : Branch) : Prop where
  calls : b.calls = c.calls
  pending : b.pending = c.pending
  bindings : b.bindings = c.bindings
  seeds : b.seeds = c.seeds

theorem Alike.fill (h : b.Alike c) :
    (b.fill id item later choice).Alike (c.fill id' item later choice) := by
  obtain ⟨calls, pending, bindings, seeds, parent⟩ := b
  obtain ⟨rfl, rfl, rfl, rfl⟩ := h
  cases choice with
  | none => exact ⟨rfl, rfl, rfl, rfl⟩
  | some e => exact ⟨rfl, rfl, rfl, rfl⟩

theorem Alike.driver?_eq (h : b.Alike c) : b.driver? target = c.driver? target := by
  obtain ⟨calls, pending, bindings, seeds, parent⟩ := b
  obtain ⟨rfl, rfl, rfl, rfl⟩ := h
  rfl

/-- Some input that has producers is filled by a seed. -/
def PrefersSeed (graph : Graph) (b : Branch) : Prop :=
  ∃ item ∈ b.inputs, ∃ index, (item.slot, .seed index) ∈ b.bindings ∧
    graph.producersFor item.consumer item.slot.input ≠ []

/-- An input of a branch is one when another input is filled. -/
theorem mem_inputs_fill {other : Pending} (h : other ∈ b.inputs) :
    other ∈ (b.fill id item later choice).inputs := by
  cases choice with
  | none => exact h
  | some e =>
      show other ∈ inputsOf (b.calls ++ [(e.producer, item.depth + 1)])
      rw [inputsOf_concat]
      exact List.mem_append_left _ h

/-- A binding of a branch is one when another input is filled. -/
theorem mem_bindings_fill {binding : Slot × Filling} (h : binding ∈ b.bindings) :
    binding ∈ (b.fill id item later choice).bindings := by
  cases choice <;> exact List.mem_append_left _ h

theorem PrefersSeed.fill (h : b.PrefersSeed graph) :
    (b.fill id item later choice).PrefersSeed graph := by
  obtain ⟨other, hother, index, hbinding, hproducers⟩ := h
  exact ⟨other, mem_inputs_fill hother, index, mem_bindings_fill hbinding, hproducers⟩

/-- To fill an input that has producers by a seed is to prefer it. -/
theorem Coherent.prefersSeed_fill (h : b.Coherent ok target) (hpending : b.pending = item :: later)
    (hproducers : graph.producersFor item.consumer item.slot.input ≠ []) :
    (b.fill id item later none).PrefersSeed graph := by
  have hitem : item ∈ b.inputs := h.mem_inputs_of_pending (hpending ▸ List.mem_cons_self)
  refine ⟨item, mem_inputs_fill hitem, b.seeds.length, ?_, hproducers⟩
  exact List.mem_append_right _ (List.mem_singleton_self _)

/-- What a finished branch becomes prefers a seed where the branch does. -/
theorem Becomes.prefersSeed (hbecomes : b.Becomes target d) (h : b.Coherent ok target)
    (hpending : b.pending = []) (hb : b.PrefersSeed graph) : d.PrefersSeed graph := by
  obtain ⟨item, hitem, index, hbinding, hproducers⟩ := hb
  obtain ⟨_, -, hslot, -, hfilling⟩ := h.filling?_of_mem hpending hbinding
  rw [← hslot] at hfilling
  obtain ⟨c, hc, hnode, hbound⟩ := hbecomes.exists_call_of_filling hitem hfilling
  refine ⟨c, List.mem_of_getElem? hc, item.slot.input, index, hbound, ?_⟩
  rw [hnode]
  exact hproducers

end Branch

/-! ## The two searches -/

namespace SearchSettings

variable {settings : SearchSettings} {graph : Graph} {target : Node} {s s' : SearchState}
  {usage usage' : Usage} {id id' : Nat} {b c : Branch} {item : Pending} {budget budget' : Nat}

/-- The settings with seeds offered or not. -/
def offering (settings : SearchSettings) (seeds : Bool) : SearchSettings :=
  { settings with offerSeed := seeds }

/-! ### What waits after a step -/

/-- The branches that fill the input in front of the queue of a branch. -/
def offspring (settings : SearchSettings) (graph : Graph) (usage : Usage) (id : Nat) (b : Branch) :
    List Branch :=
  match b.pending with
  | [] => []
  | item :: later => (settings.choices graph usage b item).map (b.fill id item later)

/-- Looking at a branch puts its offspring on the stack. -/
theorem waiting_visit (settings : SearchSettings) (graph : Graph) (target : Node) (id : Nat)
    (b : Branch) (s : SearchState) :
    (settings.visit graph target id b s).waiting =
      settings.offspring graph s.usage id b ++ s.waiting := by
  unfold visit offspring
  cases b.pending with
  | nil =>
      show (settings.finish target b s).waiting = s.waiting
      unfold finish
      split <;> rfl
  | cons item later =>
      simp only
      cases hexpand : settings.expand graph s.usage id b item later with
      | ok branches =>
          rw [← expand_ok hexpand]
          exact SearchState.waiting_pushAll branches s
      | error d =>
          rw [expand_error hexpand]
          rfl

/-- Where seeds are offered, at most a seed is tried that is not tried elsewhere. -/
theorem choices_of_offering (hpolicy : settings.tieBreak ≠ .diversity) (usage usage' : Usage)
    (hcalls : b.calls.length = c.calls.length) :
    (settings.offering true).choices graph usage' c item =
      (settings.offering false).choices graph usage b item ++
        if settings.triesCalls graph b item && item.type.isFuzzable then [none] else [] := by
  have htries : settings.triesCalls graph c item = settings.triesCalls graph b item := by
    rw [triesCalls, triesCalls, allowsCall, allowsCall, hcalls]
  have htried : settings.tried graph usage' item = settings.tried graph usage item := by
    rw [tried, tried, order_eq_of_ne_diversity hpolicy usage' usage]
  unfold choices
  show (if settings.triesCalls graph c item then (settings.tried graph usage' item).map some ++ _
    else _) = (if settings.triesCalls graph b item then (settings.tried graph usage item).map some ++ _
      else _) ++ _
  rw [htries, htried]
  cases settings.triesCalls graph b item <;> simp [offering]

/-- The branches of two searches belong together. -/
def Matches (graph : Graph) (target : Node) (b c : Branch) : Prop :=
  b.Alike c ∧ c.Grown graph.Offers target

/-- The branch grew from one that is only there because seeds are offered. -/
def IsAdded (graph : Graph) (target : Node) (b : Branch) : Prop :=
  b.Grown graph.Offers target ∧ b.PrefersSeed graph

/-- Branches that belong together have offspring that does, and where seeds are offered there may be
one more. -/
theorem interleaves_offspring (hpolicy : settings.tieBreak ≠ .diversity)
    (h : Matches graph target b c) :
    Interleaves (Matches graph target) (IsAdded graph target)
      ((settings.offering false).offspring graph usage id b)
      ((settings.offering true).offspring graph usage' id' c) := by
  obtain ⟨halike, hgrown⟩ := h
  unfold offspring
  rw [halike.pending]
  cases hpending : c.pending with
  | nil => exact .nil
  | cons item later =>
      have hcalls : b.calls.length = c.calls.length := congrArg List.length halike.calls
      show Interleaves _ _ (List.map _ _) (List.map _ _)
      rw [choices_of_offering hpolicy usage usage' hcalls, List.map_append]
      rw [← List.append_nil (List.map (b.fill id item later) _)]
      refine .append (.of_map fun choice hchoice => ?_) (.of_forall fun child hchild => ?_)
      · exact ⟨halike.fill, hgrown.fill hpending (offers_of_mem_choices hchoice)⟩
      · -- the seed that is added fills an input for which calls are tried
        obtain ⟨choice, hchoice, rfl⟩ := List.mem_map.mp hchild
        split at hchoice
        · next hoffered =>
            obtain ⟨htries, hfuzzable⟩ := Bool.and_eq_true_iff.mp hoffered
            obtain rfl := List.mem_singleton.mp hchoice
            have hproducers : graph.producersFor item.consumer item.slot.input ≠ [] := by
              simpa using (Bool.and_eq_true_iff.mp htries).1
            exact ⟨hgrown.fill hpending hfuzzable,
              hgrown.coherent.prefersSeed_fill hpending hproducers⟩
        · cases hchoice

/-- The offspring of an added branch is added too. -/
theorem isAdded_of_mem_offspring (h : IsAdded graph target b) :
    ∀ child ∈ settings.offspring graph usage id b, IsAdded graph target child := by
  intro child hchild
  unfold offspring at hchild
  split at hchild
  · cases hchild
  · next hpending =>
      obtain ⟨choice, hchoice, rfl⟩ := List.mem_map.mp hchild
      exact ⟨h.1.fill hpending (offers_of_mem_choices hchoice), h.2.fill⟩

/-! ### What is looked at -/

theorem looked_of_stack_eq_nil (hstack : s.stack = []) :
    settings.looked graph target budget s = [] := by
  unfold looked
  rw [hstack]

/-- A loop that comes to the end of its stack looks at the branch on top of it. -/
theorem looked_of_stack_eq_cons {rest : List (Nat × Branch)} (hstack : s.stack = (id, b) :: rest)
    (hended : (settings.loop graph target budget s).stack = []) :
    ∃ left, budget = left + 1 ∧
      (settings.loop graph target left (settings.visit graph target id b (s.popTo rest))).stack =
        [] ∧
      settings.looked graph target budget s =
        b :: settings.looked graph target left (settings.visit graph target id b (s.popTo rest)) := by
  have hwaits : s.stack ≠ [] := hstack ▸ List.cons_ne_nil _ _
  cases henough : settings.hasEnough s with
  | true =>
      have hsame : settings.loop graph target budget s = s := by
        unfold loop
        simp [hstack, henough]
      rw [hsame] at hended
      exact absurd hended hwaits
  | false =>
      cases budget with
      | zero =>
          unfold loop at hended
          simp only [hstack, henough] at hended
          exact absurd hended hwaits
      | succ left =>
          refine ⟨left, rfl, ?_, ?_⟩
          · rw [loop, hstack] at hended
            simp only [henough] at hended
            exact hended
          · rw [looked, hstack]
            simp only [henough]
            rfl

/-- If both loops come to the end of their stacks, then the branches that they look at belong
together as far as those on the stacks do.  The induction is on the steps of the loop that offers
seeds: with an added branch it takes a step alone. -/
theorem looked_interleaves (hpolicy : settings.tieBreak ≠ .diversity)
    (h : Interleaves (Matches graph target) (IsAdded graph target) s.waiting s'.waiting)
    (hended : ((settings.offering false).loop graph target budget s).stack = [])
    (hended' : ((settings.offering true).loop graph target budget' s').stack = []) :
    Interleaves (Matches graph target) (IsAdded graph target)
      ((settings.offering false).looked graph target budget s)
      ((settings.offering true).looked graph target budget' s') := by
  induction budget' using Nat.strong_induction_on generalizing s s' budget with
  | h budget' ih =>
      cases hstack' : s'.stack with
      | nil =>
          -- nothing waits in the one search, so nothing waits in the other one
          rw [SearchState.waiting, SearchState.waiting, hstack'] at h
          rw [looked_of_stack_eq_nil hstack', looked_of_stack_eq_nil (List.map_eq_nil_iff.mp h.eq_nil)]
          exact .nil
      | cons entry' rest' =>
          obtain ⟨left', rfl, hended', hlooked'⟩ := looked_of_stack_eq_cons hstack' hended'
          have hwaiting' : s'.waiting = entry'.2 :: rest'.map Prod.snd := by
            rw [SearchState.waiting, hstack', List.map_cons]
          rw [hwaiting'] at h
          rw [hlooked']
          rcases h.cons_right with ⟨b, waiting, hwaiting, hmatches, hrest⟩ | ⟨hadded, hrest⟩
          · -- both searches look at branches that belong together
            obtain ⟨entry, rest, hstack, rfl, rfl⟩ := List.map_eq_cons_iff.mp hwaiting
            obtain ⟨left, rfl, hended, hlooked⟩ := looked_of_stack_eq_cons hstack hended
            rw [hlooked]
            refine .both hmatches (ih left' (Nat.lt_succ_self _) ?_ hended hended')
            rw [waiting_visit, waiting_visit]
            exact (interleaves_offspring hpolicy hmatches).append hrest
          · -- the search that offers seeds looks at one that the other has not got
            refine .more hadded (ih left' (Nat.lt_succ_self _) ?_ hended hended')
            rw [waiting_visit]
            exact (Interleaves.of_forall (isAdded_of_mem_offspring hadded)).append hrest

/-! ## Offering seeds -/

theorem prefersSeed_of_isAdded {d : Driver} (h : IsAdded graph target b)
    (hkeeps : settings.keeps b = true) (hdriver : b.driver? target = some d) :
    d.PrefersSeed graph := by
  have hpending : b.pending = [] := List.isEmpty_iff.mp (Bool.and_eq_true_iff.mp hkeeps).1
  exact (Branch.becomes_of_driver? hdriver).prefersSeed h.1.coherent hpending h.2

/-- Offering seeds never loses a driver.  If the searches with and without come to the end of their
stacks, then the drivers of the one without stand in the same order among those of the other, and
each further driver has a seed for an input that has producers. -/
theorem drivers_of_offering (hpolicy : settings.tieBreak ≠ .diversity) (graph : Graph)
    (target : Node) (hwithout : ((settings.offering false).final graph target).stack = [])
    (hwith : ((settings.offering true).final graph target).stack = []) :
    ∃ more : List Driver,
      ((settings.offering false).search graph target).drivers.Sublist
          ((settings.offering true).search graph target).drivers ∧
        ((settings.offering true).search graph target).drivers.Perm
          (((settings.offering false).search graph target).drivers ++ more) ∧
        ∀ d ∈ more, d.PrefersSeed graph := by
  have hstart : Interleaves (Matches graph target) (IsAdded graph target)
      (SearchState.start target).waiting (SearchState.start target).waiting :=
    .both ⟨⟨rfl, rfl, rfl, rfl⟩, .root⟩ .nil
  have hlooked := looked_interleaves hpolicy hstart hwithout hwith
  rw [drivers_eq_filterMap, drivers_eq_filterMap, List.filterMap_filter, List.filterMap_filter]
  refine (hlooked.filterMap (fun b c hmatches => ?_) fun b d hadded hd => ?_).exists_more
  · -- what is kept depends on nothing in which the branches or the searches differ
    have hkeeps : (settings.offering false).keeps b = (settings.offering true).keeps c := by
      show (b.pending.isEmpty && !(settings.requireSeed && b.seeds.isEmpty)) =
        (c.pending.isEmpty && !(settings.requireSeed && c.seeds.isEmpty))
      rw [hmatches.1.pending, hmatches.1.seeds]
    rw [hkeeps, hmatches.1.driver?_eq]
  · split at hd
    · next hkeeps => exact prefersSeed_of_isAdded hadded hkeeps hd
    · cases hd

/-- Without seeds there is one driver, which reads both levels; with them there are four, and these
are that one and three more. -/
theorem drivers_of_offering_mixLevels :
    let graph := Graph.build ⟨true, true⟩ [readLevel, mixLevels]
    let without := ((mixSettings.offering false).search graph ⟨1, mixLevels⟩).drivers
    let offered := ((mixSettings.offering true).search graph ⟨1, mixLevels⟩).drivers
    mixSettings.tieBreak ≠ .diversity ∧ without.length = 1 ∧ offered.length = 4 ∧
      ∃ more : List Driver, more.length = 3 ∧ without.Sublist offered ∧
        offered.Perm (without ++ more) ∧ ∀ d ∈ more, d.PrefersSeed graph := by
  intro graph without offered
  have hpolicy : mixSettings.tieBreak ≠ .diversity := by decide
  obtain ⟨more, hsublist, hperm, hmore⟩ := drivers_of_offering hpolicy graph ⟨1, mixLevels⟩
    (by decide +kernel) (by decide +kernel)
  have hone : without.length = 1 := by decide +kernel
  have hfour : offered.length = 4 := by decide +kernel
  have hlength : offered.length = without.length + more.length :=
    hperm.length_eq.trans List.length_append
  exact ⟨hpolicy, hone, hfour, more, by omega, hsublist, hperm, hmore⟩

end SearchSettings
end FuzzSynth
