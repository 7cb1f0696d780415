/-
Expanding in any order.

Bound sets are ordered by inclusion, and `union` is their join.  Above every set there is a least
closed one, which is what `expand` gives (`isLeast_expand`); so expanding is a closure operator
(`expansion`), and since a union of closed sets is closed it goes through unions
(`expand_union`).

The worklist of `expand` takes the names of its frontier in one order.  `Turn` is a turn of a
worklist that may take any of them.  It keeps what the worklist keeps (`Turn.expands`), so all
that such a worklist can end with is the expanded set (`endsIn_expand`), and it cannot go on for
ever (`wellFounded_turn`).
-/
import Mathlib.Order.Closure
import FuzzSynth.Proofs.Bound.Closure

namespace FuzzSynth
namespace BoundSet

variable {b c closed : BoundSet} {frontier : List String}

/-! ## Inclusion -/

/-- Sets with the same names are the same. -/
theorem eq_of_mem_iff (h : ∀ n, n ∈ b ↔ n ∈ c) : b = c := by
  obtain ⟨names, sorted⟩ := b
  obtain ⟨others, sorted'⟩ := c
  -- both lists are sorted, so what is a permutation is the same list
  have hne : ∀ {m n : String}, m < n → m ≠ n := fun hlt heq => String.lt_irrefl _ (heq ▸ hlt)
  have hperm : names.Perm others :=
    (List.perm_ext_iff_of_nodup (sorted.imp hne) (sorted'.imp hne)).mpr h
  have hasymm : ∀ m n : String, m ∈ names → n ∈ others → m < n → n < m → m = n :=
    fun m _ _ _ hmn hnm => absurd (String.lt_trans hmn hnm) (String.lt_irrefl m)
  have heq : names = others := hperm.eq_of_pairwise hasymm sorted sorted'
  subst heq
  rfl

/-- Bound sets by inclusion. -/
instance : SemilatticeSup BoundSet where
  le b c := ∀ n ∈ b, n ∈ c
  le_refl _ _ h := h
  le_trans _ _ _ hbc hcd n hn := hcd n (hbc n hn)
  le_antisymm _ _ hbc hcb := eq_of_mem_iff fun n => ⟨hbc n, hcb n⟩
  sup := union
  le_sup_left _ _ _ hn := mem_union.mpr (.inl hn)
  le_sup_right _ _ _ hn := mem_union.mpr (.inr hn)
  sup_le _ _ _ hbd hcd n hn := (mem_union.mp hn).elim (hbd n) (hcd n)

theorem le_iff : b ≤ c ↔ ∀ n ∈ b, n ∈ c := Iff.rfl

/-! ## Closed sets -/

theorem IsClosed.union (hb : b.IsClosed) (hc : c.IsClosed) : (b.union c).IsClosed := by
  intro n hn parent hparent
  rcases mem_union.mp hn with hn | hn
  · exact mem_union.mpr (.inl (hb n hn parent hparent))
  · exact mem_union.mpr (.inr (hc n hn parent hparent))

theorem le_expand (b : BoundSet) : b ≤ b.expand :=
  (expands_expand b).base

/-- A closed set above `b` holds all that `b` implies. -/
theorem expand_le (hbc : b ≤ c) (hc : c.IsClosed) : b.expand ≤ c :=
  fun _ hn => hc.mem_of_implies hbc (mem_expand.mp hn)

/-- Expanding gives the least closed set that holds the set. -/
theorem isLeast_expand (b : BoundSet) : IsLeast {c | b ≤ c ∧ c.IsClosed} b.expand :=
  ⟨⟨le_expand b, isClosed_expand b⟩, fun _ h => expand_le h.1 h.2⟩

/-- Expanding, as a closure operator whose closed sets are those that hold their supertraits. -/
def expansion : ClosureOperator BoundSet :=
  .ofPred expand IsClosed le_expand isClosed_expand fun _ _ => expand_le

theorem expand_mono (h : b ≤ c) : b.expand ≤ c.expand :=
  expansion.monotone h

theorem expand_expand (b : BoundSet) : b.expand.expand = b.expand :=
  expansion.idempotent b

theorem expand_union (b c : BoundSet) : (b.union c).expand = b.expand.union c.expand := by
  apply le_antisymm
  · have hle : b.union c ≤ b.expand.union c.expand := sup_le_sup (le_expand b) (le_expand c)
    exact expand_le hle ((isClosed_expand b).union (isClosed_expand c))
  · exact expansion.closure_sup_closure_le b c

/-! ## Worklists in any order -/

/-- A turn of a worklist: some name of the frontier is looked at, whichever it is. -/
inductive Turn : List String × BoundSet → List String × BoundSet → Prop
  | look (before : List String) (name : String) (after : List String) (closed : BoundSet) :
      Turn (before ++ name :: after, closed)
        (addParents (supertraits name) (before ++ after) closed)

variable {s t : List String × BoundSet}

/-- What the worklist keeps does not depend on the order of the frontier. -/
theorem Expands.perm {other : List String} (h : Expands b frontier closed)
    (hperm : frontier.Perm other) : Expands b other closed where
  base := h.base
  implied := h.implied
  waiting n hn := h.waiting n (hperm.mem_iff.mpr hn)
  done n hn := (h.done n hn).imp_left hperm.mem_iff.mp

theorem Turn.expands (hturn : Turn s t) (h : Expands b s.1 s.2) : Expands b t.1 t.2 := by
  cases hturn with
  | look before name after closed => exact (h.perm List.perm_middle).step

/-- The induction is on the run. -/
theorem Expands.run (h : Expands b s.1 s.2) (hrun : Relation.ReflTransGen Turn s t) :
    Expands b t.1 t.2 := by
  induction hrun with
  | refl => exact h
  | tail _ hturn ih => exact hturn.expands ih

theorem Turn.ne_nil (hturn : Turn s t) : s.1 ≠ [] := by
  cases hturn with
  | look => simp

/-- As long as a name waits, there is a next turn. -/
theorem exists_turn (h : frontier ≠ []) (closed : BoundSet) : ∃ t, Turn (frontier, closed) t := by
  obtain ⟨name, rest, rfl⟩ := List.exists_cons_of_ne_nil h
  exact ⟨_, .look [] name rest closed⟩

/-- The worklist of `expand` is one of them. -/
theorem run_close (frontier : List String) (closed : BoundSet) :
    Relation.ReflTransGen Turn (frontier, closed) ([], close frontier closed) := by
  fun_induction close frontier closed with
  | case1 => exact .refl
  | case2 closed name rest ih => exact .head (.look [] name rest closed) ih

/-- With each turn, fewer names are missing or wait. -/
theorem Turn.lt (hturn : Turn s t) : t.2.missing + t.1.length < s.2.missing + s.1.length := by
  cases hturn with
  | look before name after closed =>
      -- a parent that now waits was missing before, and `name` waits no more
      have hle : (addParents (supertraits name) (before ++ after) closed).2.missing +
          (addParents (supertraits name) (before ++ after) closed).1.length ≤
            closed.missing + (before ++ after).length :=
        addParents_measure fun _ hparent => mem_impliedNames hparent
      simp only [List.length_append, List.length_cons] at hle ⊢
      omega

/-- No worklist goes on for ever. -/
theorem wellFounded_turn : WellFounded fun t s => Turn s t :=
  Subrelation.wf (fun hturn => Turn.lt hturn)
    (InvImage.wf (fun s : List String × BoundSet => s.2.missing + s.1.length) Nat.lt_wfRel.wf)

/-- Where the worklist has nothing left to look at, it holds all that is implied. -/
theorem Expands.eq_expand (h : Expands b [] closed) : closed = b.expand :=
  eq_of_mem_iff fun n =>
    ⟨fun hn => mem_expand.mpr (h.implied n hn), fun hn =>
      IsClosed.mem_of_implies (fun m hm => (h.done m hm).resolve_left List.not_mem_nil) h.base
        (mem_expand.mp hn)⟩

/-- Every run of a worklist from `s` comes to an end, which is that nothing waits and the set is
`c`; and there is such a run. -/
structure EndsIn (s : List String × BoundSet) (c : BoundSet) : Prop where
  ends : Acc (fun next last => Turn last next) s
  last : ∀ t, Relation.ReflTransGen Turn s t → (∀ next, ¬ Turn t next) → t = ([], c)
  reached : Relation.ReflTransGen Turn s ([], c)

theorem endsIn_expand (hperm : frontier.Perm b.names) : EndsIn (frontier, b) b.expand := by
  have hstart : Expands b frontier b := (expands_start b).perm hperm.symm
  refine ⟨wellFounded_turn.apply _, fun t hrun hlast => ?last, ?reached⟩
  case last =>
    have hend : Expands b t.1 t.2 := hstart.run hrun
    -- the run goes on as long as a name waits
    obtain ⟨waiting, closed⟩ := t
    obtain rfl : waiting = [] := by
      by_contra hne
      obtain ⟨next, hturn⟩ := exists_turn hne closed
      exact hlast next hturn
    exact congrArg (Prod.mk []) hend.eq_expand
  case reached =>
    have hclose : close frontier b = b.expand := hstart.close.eq_expand
    exact hclose ▸ run_close frontier b

/-! ## The closure -/

/-- Expanding gives the least closed set above a set, whatever order the worklist starts in and
takes its names in; so it is extensive, monotone and idempotent and goes through unions. -/
theorem expand_isLeast_in_any_order (b : BoundSet) :
    IsLeast {c | b ≤ c ∧ c.IsClosed} b.expand ∧
    (∀ frontier : List String, frontier.Perm b.names → EndsIn (frontier, b) b.expand) ∧
    b ≤ b.expand ∧ (∀ c, b ≤ c → b.expand ≤ c.expand) ∧ b.expand.expand = b.expand ∧
    ∀ c, (b.union c).expand = b.expand.union c.expand :=
  ⟨isLeast_expand b, fun _ => endsIn_expand, le_expand b, fun _ => expand_mono, expand_expand b,
    expand_union b⟩

/-- A worklist that starts with the unknown name and looks at it second; `PartialEq` is a supertrait
of two names and waits once. -/
theorem expand_isLeast_in_any_order_ordWidget :
    ["Widget", "Ord"].Perm (ofNames ["Ord", "Widget"]).names ∧
    (ofNames ["Ord", "Widget"]).expand =
      ofNames ["Ord", "Widget", "Eq", "PartialOrd", "PartialEq"] ∧
    ofNames ["Ord", "Widget"] ≤ ofNames ["Eq", "Ord", "Widget"] ∧
    (ofNames ["Ord", "Widget"]).expand ≤ (ofNames ["Eq", "Ord", "Widget"]).expand := by
  have hperm : ["Widget", "Ord"].Perm (ofNames ["Ord", "Widget"]).names := by decide
  have hle : ofNames ["Ord", "Widget"] ≤ ofNames ["Eq", "Ord", "Widget"] := by
    simp [le_iff]
  have hord : Turn (["Widget", "Ord"], ofNames ["Ord", "Widget"])
      (["PartialOrd", "Eq", "Widget"], ofNames ["Ord", "Widget", "Eq", "PartialOrd"]) :=
    .look ["Widget"] "Ord" [] _
  have hwidget : Turn
      (["PartialOrd", "Eq", "Widget"], ofNames ["Ord", "Widget", "Eq", "PartialOrd"])
      (["PartialOrd", "Eq"], ofNames ["Ord", "Widget", "Eq", "PartialOrd"]) :=
    .look ["PartialOrd", "Eq"] "Widget" [] _
  have heq : Turn (["PartialOrd", "Eq"], ofNames ["Ord", "Widget", "Eq", "PartialOrd"])
      (["PartialEq", "PartialOrd"], ofNames ["Ord", "Widget", "Eq", "PartialOrd", "PartialEq"]) :=
    .look ["PartialOrd"] "Eq" [] _
  have hpartial : Turn
      (["PartialEq", "PartialOrd"], ofNames ["Ord", "Widget", "Eq", "PartialOrd", "PartialEq"])
      (["PartialEq"], ofNames ["Ord", "Widget", "Eq", "PartialOrd", "PartialEq"]) :=
    .look ["PartialEq"] "PartialOrd" [] _
  have hlast : Turn (["PartialEq"], ofNames ["Ord", "Widget", "Eq", "PartialOrd", "PartialEq"])
      ([], ofNames ["Ord", "Widget", "Eq", "PartialOrd", "PartialEq"]) :=
    .look [] "PartialEq" [] _
  have hrun := Relation.ReflTransGen.refl.tail hord |>.tail hwidget |>.tail heq |>.tail hpartial
    |>.tail hlast
  obtain ⟨-, hany, -, hmono, -, -⟩ := expand_isLeast_in_any_order (ofNames ["Ord", "Widget"])
  have hend := (hany _ hperm).last _ hrun fun _ hturn => hturn.ne_nil rfl
  exact ⟨hperm, (congrArg Prod.snd hend).symm, hle, hmono _ hle⟩

end BoundSet
end FuzzSynth
