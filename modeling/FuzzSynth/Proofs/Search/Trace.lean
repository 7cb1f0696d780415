/-
The run of a search, step by step.

`Step` says all that one step can do with the branch on top of the stack: refuse or
accept a finished one, replace another one by the branches that fill its first pending
input, or reject a dead end.  `Reaches` are the states that a search comes through.
`exists_reaches_loop` ties both to the loop: it stops in a state it reaches, and adds
one diagnostic there if it was the number of steps that stopped it.

`Reaches.forall_branch` is the induction that invariants of branches use: what holds of
the root and passes from a branch to the branches it is replaced by holds of every
branch on the stack, in the arena and among the accepted ones.
-/
import FuzzSynth.Search.Run

namespace FuzzSynth

namespace SearchState

/-- The branches on the stack, the next one first. -/
def waiting (s : SearchState) : List Branch :=
  s.stack.map Prod.snd

/-- The branches that wait or are accepted. -/
def live (s : SearchState) : List Branch :=
  s.waiting ++ s.accepted.toList

/-- The state after the branch on top has been taken off, with `rest` left on the stack. -/
def popTo (rest : List (Nat × Branch)) (s : SearchState) : SearchState :=
  { s with stack := rest, expansions := s.expansions + 1 }

/-! ## What pushing does to a state -/

@[simp] theorem pushAll_nil (s : SearchState) : s.pushAll [] = s := rfl

@[simp] theorem pushAll_cons (b : Branch) (bs : List Branch) (s : SearchState) :
    s.pushAll (b :: bs) = (s.pushAll bs).push b := rfl

@[simp] theorem waiting_pushAll (bs : List Branch) (s : SearchState) :
    (s.pushAll bs).waiting = bs ++ s.waiting := by
  induction bs with
  | nil => rfl
  | cons b bs ih => simpa [waiting, push] using ih

@[simp] theorem arena_pushAll (bs : List Branch) (s : SearchState) :
    (s.pushAll bs).arena.toList = s.arena.toList ++ bs.reverse := by
  induction bs with
  | nil => simp
  | cons b bs ih => simp [push, ih]

@[simp] theorem accepted_pushAll (bs : List Branch) (s : SearchState) :
    (s.pushAll bs).accepted = s.accepted := by
  induction bs with
  | nil => rfl
  | cons b bs ih => simpa [push] using ih

@[simp] theorem usage_pushAll (bs : List Branch) (s : SearchState) :
    (s.pushAll bs).usage = s.usage := by
  induction bs with
  | nil => rfl
  | cons b bs ih => simpa [push] using ih

@[simp] theorem report_pushAll (bs : List Branch) (s : SearchState) :
    (s.pushAll bs).report = s.report := by
  induction bs with
  | nil => rfl
  | cons b bs ih => simpa [push] using ih

@[simp] theorem expansions_pushAll (bs : List Branch) (s : SearchState) :
    (s.pushAll bs).expansions = s.expansions := by
  induction bs with
  | nil => rfl
  | cons b bs ih => simpa [push] using ih

theorem live_pushAll (bs : List Branch) (s : SearchState) : (s.pushAll bs).live = bs ++ s.live := by
  rw [live, waiting_pushAll, accepted_pushAll, List.append_assoc, live]

/-! ## Numbers of branches -/

/-- Each branch on the stack stands in the arena at its number. -/
def IsNumbered (s : SearchState) : Prop :=
  ∀ entry ∈ s.stack, s.arena[entry.1]? = some entry.2

theorem IsNumbered.push {s : SearchState} (h : s.IsNumbered) (b : Branch) :
    (s.push b).IsNumbered := by
  intro entry hentry
  have harena : (s.push b).arena = s.arena.push b := rfl
  rw [harena, Array.getElem?_push]
  rcases List.mem_cons.mp hentry with rfl | hentry
  · exact if_pos rfl
  · -- numbers in use lie below the size of the arena, which pushing leaves as they were
    have hold := h entry hentry
    have hlt := (Array.getElem?_eq_some_iff.mp hold).1
    rw [if_neg (by omega)]
    exact hold

theorem IsNumbered.pushAll {s : SearchState} (h : s.IsNumbered) (bs : List Branch) :
    (s.pushAll bs).IsNumbered := by
  induction bs with
  | nil => exact h
  | cons b bs ih => exact ih.push b

end SearchState

namespace SearchSettings

variable {settings : SearchSettings} {graph : Graph} {target : Node} {s s' : SearchState}

theorem live_of_stack {id : Nat} {b : Branch} {rest : List (Nat × Branch)}
    (hstack : s.stack = (id, b) :: rest) : s.live = b :: (rest.map Prod.snd ++ s.accepted.toList) := by
  rw [SearchState.live, SearchState.waiting, hstack]
  rfl

/-- An accepted branch is still held, only among the accepted ones. -/
theorem live_perm_of_stack {id : Nat} {b : Branch} {rest : List (Nat × Branch)}
    (hstack : s.stack = (id, b) :: rest) :
    s.live.Perm (rest.map Prod.snd ++ (s.accepted.push b).toList) := by
  rw [live_of_stack hstack, Array.toList_push, ← List.append_assoc]
  exact (List.perm_append_singleton b _).symm

/-! ## One step -/

/-- The caps allow another step. -/
def MayStep (settings : SearchSettings) (s : SearchState) : Prop :=
  settings.hasEnough s = false ∧ s.expansions < settings.maxExpansions.toNat

/-- What one step of a search does. -/
inductive Step (settings : SearchSettings) (graph : Graph) (target : Node) (s : SearchState) :
    SearchState → Prop
  /-- A finished branch is refused for having no seed. -/
  | refuse {id : Nat} {b : Branch} {rest : List (Nat × Branch)}
      (hgo : settings.MayStep s) (hstack : s.stack = (id, b) :: rest) (hpending : b.pending = [])
      (hseeds : settings.requireSeed = true ∧ b.seeds = []) :
      Step settings graph target s ((s.popTo rest).record (noSeedDiagnostic target))
  /-- A finished branch is accepted. -/
  | accept {id : Nat} {b : Branch} {rest : List (Nat × Branch)}
      (hgo : settings.MayStep s) (hstack : s.stack = (id, b) :: rest) (hpending : b.pending = [])
      (hseeds : settings.requireSeed = true → b.seeds ≠ []) :
      Step settings graph target s
        { s.popTo rest with
          accepted := s.accepted.push b, usage := s.usage.bumpAll b.keys }
  /-- A branch is replaced by those that fill its first pending input. -/
  | grow {id : Nat} {b : Branch} {rest : List (Nat × Branch)} {item : Pending}
      {later : List Pending} {children : List Branch}
      (hgo : settings.MayStep s) (hstack : s.stack = (id, b) :: rest)
      (hpending : b.pending = item :: later)
      (hexpand : settings.expand graph s.usage id b item later = .ok children) :
      Step settings graph target s ((s.popTo rest).pushAll children)
  /-- A branch whose first pending input cannot be filled is rejected. -/
  | reject {id : Nat} {b : Branch} {rest : List (Nat × Branch)} {item : Pending}
      {later : List Pending} {d : DeadEnd}
      (hgo : settings.MayStep s) (hstack : s.stack = (id, b) :: rest)
      (hpending : b.pending = item :: later)
      (hexpand : settings.expand graph s.usage id b item later = .error d) :
      Step settings graph target s
        (((s.popTo rest).record (d.diagnostic target)).note (rejectionEntry target id b d))

/-- Looking at the branch on top is a step. -/
theorem step_visit {id : Nat} {b : Branch} {rest : List (Nat × Branch)}
    (hgo : settings.MayStep s) (hstack : s.stack = (id, b) :: rest) :
    Step settings graph target s (settings.visit graph target id b (s.popTo rest)) := by
  unfold visit
  split
  · next hpending =>
      unfold finish
      split
      · next hseeds => exact .refuse hgo hstack hpending (by simpa using hseeds)
      · next hseeds =>
          exact .accept hgo hstack hpending fun hrequire hnone =>
            hseeds (by simp [hrequire, hnone])
  · next hpending =>
      split
      · next hexpand => exact .grow hgo hstack hpending hexpand
      · next hexpand => exact .reject hgo hstack hpending hexpand

/-- Every step counts. -/
theorem Step.expansions_eq (h : Step settings graph target s s') :
    s'.expansions = s.expansions + 1 := by
  cases h <;> simp [SearchState.popTo, SearchState.record, SearchState.note]

/-! ## The whole run -/

/-- The states that a search comes through. -/
inductive Reaches (settings : SearchSettings) (graph : Graph) (target : Node) :
    SearchState → Prop
  | start : Reaches settings graph target (.start target)
  | step {s s' : SearchState} (h : Reaches settings graph target s)
      (hstep : Step settings graph target s s') : Reaches settings graph target s'

/-- The state in which a search ends. -/
def final (settings : SearchSettings) (graph : Graph) (target : Node) : SearchState :=
  settings.loop graph target settings.maxExpansions.toNat (.start target)

/-- A state from which there is no step. -/
def Ended (settings : SearchSettings) (s : SearchState) : Prop :=
  s.stack = [] ∨ ¬ settings.MayStep s

/-- What the search adds to the state it ends in. -/
def conclude (settings : SearchSettings) (target : Node) (s : SearchState) : SearchState :=
  if s.stack = [] ∨ settings.hasEnough s = true then s
  else s.record (exhaustedDiagnostic target settings.maxExpansions)

theorem loop_zero : settings.loop graph target 0 s = settings.conclude target s := by
  unfold loop conclude
  cases hstack : s.stack with
  | nil => simp
  | cons entry rest => cases settings.hasEnough s <;> simp

/-- The loop takes steps until there is none, and concludes. -/
theorem exists_reaches_loop {budget : Nat} (hbudget : s.expansions + budget = settings.maxExpansions.toNat)
    (hs : Reaches settings graph target s) :
    ∃ last, Reaches settings graph target last ∧ settings.Ended last ∧
      settings.loop graph target budget s = settings.conclude target last := by
  induction budget generalizing s with
  | zero =>
      -- no step is left, so the search ends here
      refine ⟨s, hs, .inr fun hgo => ?_, loop_zero⟩
      have := hgo.2
      omega
  | succ budget ih =>
      unfold loop
      cases hstack : s.stack with
      | nil => exact ⟨s, hs, .inl hstack, by simp [conclude, hstack]⟩
      | cons entry rest =>
          cases henough : settings.hasEnough s with
          | true =>
              refine ⟨s, hs, .inr fun hgo => ?_, by simp [conclude, henough]⟩
              simp [hgo.1] at henough
          | false =>
              -- the loop looks at the branch on top, which is a step
              have hstep : Step settings graph target s
                  (settings.visit graph target entry.1 entry.2 (s.popTo rest)) :=
                step_visit ⟨henough, by omega⟩ hstack
              have hnext : (settings.visit graph target entry.1 entry.2
                  (s.popTo rest)).expansions + budget = settings.maxExpansions.toNat := by
                rw [hstep.expansions_eq]
                omega
              exact ih hnext (.step hs hstep)

/-- A search ends in a state that it reaches, and concludes there. -/
theorem exists_reaches_final (settings : SearchSettings) (graph : Graph) (target : Node) :
    ∃ last, Reaches settings graph target last ∧ settings.Ended last ∧
      settings.final graph target = settings.conclude target last :=
  exists_reaches_loop (by simp [SearchState.start]) .start

@[simp] theorem conclude_stack : (settings.conclude target s).stack = s.stack := by
  unfold conclude
  split <;> rfl

@[simp] theorem conclude_accepted : (settings.conclude target s).accepted = s.accepted := by
  unfold conclude
  split <;> rfl

theorem accepted_search (settings : SearchSettings) (graph : Graph) (target : Node) :
    (settings.search graph target).accepted = (settings.final graph target).accepted.toList := rfl

theorem report_search (settings : SearchSettings) (graph : Graph) (target : Node) :
    (settings.search graph target).report = (settings.final graph target).report.toList := rfl

/-! ## Invariants of branches -/

/-- All through a search each branch on the stack is in the arena at its number. -/
theorem Reaches.isNumbered (h : Reaches settings graph target s) : s.IsNumbered := by
  induction h with
  | start => simp [SearchState.IsNumbered, SearchState.start]
  | @step s s' hs hstep ih =>
      have hpop : ∀ {entry rest}, s.stack = entry :: rest → (s.popTo rest).IsNumbered := by
        intro entry rest hstack other hother
        exact ih other (hstack ▸ List.mem_cons_of_mem entry hother)
      cases hstep with
      | refuse _ hstack => exact hpop hstack
      | accept _ hstack => exact hpop hstack
      | grow _ hstack => exact (hpop hstack).pushAll _
      | reject _ hstack => exact hpop hstack

/-- The search comes to look at a branch. -/
def Visits (settings : SearchSettings) (graph : Graph) (target : Node) (b : Branch) : Prop :=
  ∃ s id rest, Reaches settings graph target s ∧ settings.MayStep s ∧ s.stack = (id, b) :: rest

/-- What holds of the root and passes from a branch that is looked at to the branches that
fill its first pending input holds of every branch of the search, and the accepted ones are
finished. -/
theorem Reaches.forall_branch {Q : Branch → Prop} (hroot : Q (.root target))
    (hchild : ∀ {id b item later usage children}, Visits settings graph target b → Q b →
      b.pending = item :: later →
      settings.expand graph usage id b item later = .ok children → ∀ c ∈ children, Q c)
    (h : Reaches settings graph target s) :
    (∀ b ∈ s.arena.toList, Q b) ∧ (∀ b ∈ s.waiting, Q b) ∧
      ∀ b ∈ s.accepted.toList, Q b ∧ b.pending = [] := by
  induction h with
  | start => simp [SearchState.start, SearchState.waiting, hroot]
  | @step s s' hs hstep ih =>
      obtain ⟨harena, hwaiting, haccepted⟩ := ih
      cases hstep with
      | refuse _ hstack =>
          simp only [SearchState.waiting, hstack, List.map_cons, List.forall_mem_cons] at hwaiting
          exact ⟨harena, hwaiting.2, haccepted⟩
      | @accept id b rest _ hstack hpending =>
          -- the branch moves from the stack to the accepted ones
          simp only [SearchState.waiting, hstack, List.map_cons, List.forall_mem_cons] at hwaiting
          refine ⟨harena, hwaiting.2, fun c hc => ?_⟩
          rcases List.mem_append.mp (Array.toList_push .. ▸ hc) with hc | hc
          · exact haccepted c hc
          · obtain rfl := List.mem_singleton.mp hc
            exact ⟨hwaiting.1, hpending⟩
      | grow hgo hstack hpending hexpand =>
          -- what is new comes from the branch on top, which has the property
          simp only [SearchState.waiting, hstack, List.map_cons, List.forall_mem_cons] at hwaiting
          have hchildren := hchild ⟨s, _, _, hs, hgo, hstack⟩ hwaiting.1 hpending hexpand
          refine ⟨fun c hc => ?_, fun c hc => ?_, by simpa [SearchState.popTo] using haccepted⟩
          · rw [SearchState.arena_pushAll, List.mem_append, List.mem_reverse] at hc
            exact hc.elim (harena c) (hchildren c)
          · rw [SearchState.waiting_pushAll, List.mem_append] at hc
            exact hc.elim (hchildren c) (hwaiting.2 c)
      | reject _ hstack =>
          simp only [SearchState.waiting, hstack, List.map_cons, List.forall_mem_cons] at hwaiting
          exact ⟨harena, hwaiting.2, haccepted⟩

end SearchSettings

end FuzzSynth
