/-
Drivers read as trees.

Each input of a call is filled by a seed, or by the output of another call, along an edge
and with what fills the inputs of that call below it: a `Supply`.  `Driver.tree?` reads
the supplies of the last call of a driver, which is its target, from the calls in order.
Every call must use only what stands before it, else the driver is no tree.

`Driver.Lists` says what the table of that reading is, place by place; a driver that is
valid has one (`exists_lists_of_isValid`).
-/
import FuzzSynth.Proofs.Search.Finish

namespace FuzzSynth

/-- What fills an input of a call. -/
inductive Supply where
  | seed
  /-- The output of a call along an edge, and what fills the inputs of that call. -/
  | call (edge : Edge) (slots : List Supply)
  deriving Inhabited

namespace Supply

/-- The edge along which a value comes; a seed has none. -/
def edge? : Supply → Option Edge
  | seed => none
  | call e _ => some e

/-- What fills the inputs of the call that gives the value. -/
def slots : Supply → List Supply
  | seed => []
  | call _ slots => slots

/-- The supply with these supplies below it that comes along an edge, or is a seed. -/
def ofEdge? : Option Edge → List Supply → Supply
  | none, _ => seed
  | some e, slots => call e slots

@[simp] theorem edge?_ofEdge? (e : Option Edge) (slots : List Supply) :
    (ofEdge? e slots).edge? = e := by
  cases e <;> rfl

mutual

/-- Whether there is a seed in a supply. -/
def hasSeed : Supply → Bool
  | seed => true
  | call _ slots => anySeed slots

/-- Whether there is a seed in some of these supplies. -/
def anySeed : List Supply → Bool
  | [] => false
  | s :: rest => s.hasSeed || anySeed rest

end

@[simp] theorem anySeed_append (xs ys : List Supply) :
    anySeed (xs ++ ys) = (anySeed xs || anySeed ys) := by
  induction xs with
  | nil => simp [anySeed]
  | cons s rest ih => simp [anySeed, ih, Bool.or_assoc]

/-- There is a seed in a supply if it is one, or if there is one below it. -/
theorem hasSeed_eq (s : Supply) : s.hasSeed = (s.edge?.isNone || anySeed s.slots) := by
  cases s <;> simp [hasSeed, edge?, slots]

end Supply

/-- Calls with what fills their inputs. -/
abbrev SupplyTable := List (Node × List Supply)

/-- What a binding gives to an input of `consumer`, by the calls before it. -/
def Binding.supply? (done : SupplyTable) (consumer : Node) (input : Nat) : Binding → Option Supply
  | .seed _ => some .seed
  | .call (.ofNat k) adapter =>
      done[k]?.map fun producer => .call ⟨producer.1, consumer, input, adapter⟩ producer.2
  | .call (.negSucc _) _ => none

/-- What fills the inputs of a call, by the calls before it. -/
def DriverCall.supplies? (done : SupplyTable) (c : DriverCall) : Option (List Supply) :=
  (c.bindings.mapIdx fun i binding => binding.supply? done c.node i).mapM id

namespace Driver

/-- Reads calls after those that were read. -/
def readCalls? : SupplyTable → List DriverCall → Option SupplyTable
  | done, [] => some done
  | done, c :: rest => do
      let slots ← c.supplies? done
      readCalls? (done ++ [(c.node, slots)]) rest

/-- What fills the inputs of the last call of a driver. -/
def tree? (d : Driver) : Option (List Supply) := do
  let table ← readCalls? [] d.calls
  let last ← table.getLast?
  pure last.2

/-- The table holds the calls, each with what its bindings give. -/
structure Lists (calls : List DriverCall) (table : SupplyTable) : Prop where
  length_eq : table.length = calls.length
  supplies {p : Nat} {c : DriverCall} (hc : calls[p]? = some c) :
    ∃ slots, table[p]? = some (c.node, slots) ∧ slots.length = c.bindings.length ∧
      ∀ {i : Nat} {binding : Binding}, c.bindings[i]? = some binding →
        ∃ s, binding.supply? table c.node i = some s ∧ slots[i]? = some s

end Driver

/-! ## Reading -/

/-- What was read does not change when more calls are read. -/
theorem Binding.supply?_append {done more : SupplyTable} {consumer : Node} {input : Nat}
    {binding : Binding} {s : Supply} (h : binding.supply? done consumer input = some s) :
    binding.supply? (done ++ more) consumer input = some s := by
  match binding, h with
  | .seed _, h => exact h
  | .call (.ofNat k) adapter, h =>
      obtain ⟨producer, hproducer, rfl⟩ := Option.map_eq_some_iff.mp h
      have hk := (List.getElem?_eq_some_iff.mp hproducer).1
      rw [supply?, List.getElem?_append_left hk, hproducer]
      rfl

/-- A binding that is defined gives something. -/
theorem Binding.isSome_supply? {done : SupplyTable} {consumer : Node} {input p seeds : Nat}
    {binding : Binding} (h : binding.isDefined p seeds = true) (hp : p ≤ done.length) :
    (binding.supply? done consumer input).isSome = true := by
  match binding, h with
  | .seed _, _ => rfl
  | .call (.ofNat k) adapter, h =>
      simp only [isDefined, Bool.and_eq_true, decide_eq_true_eq] at h
      have hk : k < done.length := by
        have := Int.ofNat_lt.mp h.2
        omega
      rw [supply?, List.getElem?_eq_getElem hk]
      rfl
  | .call (.negSucc k) adapter, h =>
      simp only [isDefined, Bool.and_eq_true, decide_eq_true_eq] at h
      omega

namespace Driver

variable {calls : List DriverCall} {table : SupplyTable} {c : DriverCall}

/-- Reading one more call lists it too. -/
theorem Lists.concat (h : Lists calls table) {slots : List Supply}
    (hslots : c.supplies? table = some slots) :
    Lists (calls ++ [c]) (table ++ [(c.node, slots)]) where
  length_eq := by simp [h.length_eq]
  supplies := by
    intro p other hother
    rcases Nat.lt_trichotomy p calls.length with hp | rfl | hp
    · -- what was listed before does not change when the table grows
      rw [List.getElem?_append_left hp] at hother
      obtain ⟨old, hold, hlength, hbindings⟩ := h.supplies hother
      refine ⟨old, ?_, hlength, fun hi => ?_⟩
      · rw [List.getElem?_append_left (h.length_eq ▸ hp)]
        exact hold
      · obtain ⟨s, hs, hi⟩ := hbindings hi
        exact ⟨s, Binding.supply?_append hs, hi⟩
    · -- the new call is listed with what its bindings gave
      rw [List.getElem?_concat_length] at hother
      obtain rfl := Option.some.inj hother
      refine ⟨slots, ?_, ?_, fun {i binding} hi => ?_⟩
      · rw [← h.length_eq, List.getElem?_concat_length]
      · simpa using length_of_mapM hslots
      · have hi' : i < slots.length := by
          rw [length_of_mapM hslots, List.length_mapIdx]
          exact (List.getElem?_eq_some_iff.mp hi).1
        obtain ⟨s, hs, hsome⟩ := exists_getElem?_of_mapM hslots (List.getElem?_eq_getElem hi')
        rw [List.getElem?_mapIdx, hi, Option.map_some] at hs
        obtain rfl := Option.some.inj hs
        exact ⟨slots[i], Binding.supply?_append hsome, List.getElem?_eq_getElem hi'⟩
    · have hlength : (calls ++ [c]).length ≤ p := by
        rw [List.length_append, List.length_singleton]
        omega
      rw [List.getElem?_eq_none hlength] at hother
      cases hother

/-- Calls that use only what stands before them are read and listed.  The induction is on
the calls that are left, with those read in front of them. -/
theorem exists_lists {seeds : Nat} {rest : List DriverCall} (h : Lists calls table)
    (hrest : ∀ {i : Nat} {c : DriverCall}, rest[i]? = some c → ∀ binding ∈ c.bindings,
      binding.isDefined (calls.length + i) seeds = true) :
    ∃ all, readCalls? table rest = some all ∧ Lists (calls ++ rest) all := by
  induction rest generalizing calls table with
  | nil => exact ⟨table, rfl, by simpa using h⟩
  | cons c rest ih =>
      have hc : ∀ binding ∈ c.bindings, binding.isDefined calls.length seeds = true :=
        hrest (i := 0) rfl
      -- the next call uses only calls that are in the table already
      obtain ⟨slots, hslots⟩ : ∃ slots, c.supplies? table = some slots := by
        refine exists_mapM_eq_some fun s hs => ?_
        obtain ⟨i, hi⟩ := List.mem_iff_getElem?.mp hs
        obtain ⟨binding, hbinding, rfl⟩ :=
          Option.map_eq_some_iff.mp (List.getElem?_mapIdx .. ▸ hi)
        exact Binding.isSome_supply? (hc binding (List.mem_of_getElem? hbinding))
          (Nat.le_of_eq h.length_eq.symm)
      obtain ⟨all, hall, hlists⟩ := ih (h.concat hslots) fun {i c'} hc' binding hbinding => by
        have hdefined := hrest (i := i + 1) hc' binding hbinding
        rwa [List.length_append, List.length_singleton, Nat.add_right_comm]
      refine ⟨all, ?_, by simpa using hlists⟩
      rw [readCalls?, hslots, Option.bind_eq_bind, Option.bind_some]
      exact hall

/-- In a valid driver every binding is defined where it stands. -/
theorem isDefined_of_isValid {d : Driver} (h : d.isValid = true) {p : Nat} {c : DriverCall}
    (hc : d.calls[p]? = some c) :
    ∀ binding ∈ c.bindings, binding.isDefined p d.seeds.length = true := by
  intro binding hbinding
  rw [isValid, Bool.and_eq_true, List.all_eq_true] at h
  have hvalid := h.2 (callIsValid d.seeds.length p c)
    (List.mem_iff_getElem?.mpr ⟨p, by rw [List.getElem?_mapIdx, hc]; rfl⟩)
  rw [id_eq, callIsValid, Bool.and_eq_true, List.all_eq_true] at hvalid
  exact hvalid.2 binding hbinding

/-- A valid driver is a tree, which stands at the end of the table of its calls. -/
theorem exists_lists_of_isValid {d : Driver} (h : d.isValid = true) :
    ∃ table slots, Lists d.calls table ∧
      table[d.calls.length - 1]?.map Prod.snd = some slots ∧ d.tree? = some slots := by
  have hdefined : ∀ {i : Nat} {c : DriverCall}, d.calls[i]? = some c → ∀ binding ∈ c.bindings,
      binding.isDefined (([] : List DriverCall).length + i) d.seeds.length = true := by
    intro i c hc binding hbinding
    simpa using isDefined_of_isValid h hc binding hbinding
  rw [isValid, Bool.and_eq_true] at h
  have hlast := h.1
  have hnone : Lists [] [] := ⟨rfl, by simp⟩
  obtain ⟨table, htable, hlists⟩ := exists_lists hnone hdefined
  rw [List.nil_append] at hlists
  -- a valid driver has a last call, so the table has a last entry
  have hpos : 0 < d.calls.length := by
    cases hd : d.calls with
    | nil => simp [hd] at hlast
    | cons _ _ => simp
  have hlt : d.calls.length - 1 < table.length := by
    rw [hlists.length_eq]
    omega
  obtain ⟨entry, hentry⟩ : ∃ entry, table[d.calls.length - 1]? = some entry :=
    ⟨_, List.getElem?_eq_getElem hlt⟩
  refine ⟨table, entry.2, hlists, by rw [hentry]; rfl, ?_⟩
  rw [tree?, htable, Option.bind_eq_bind, Option.bind_some, List.getLast?_eq_getElem?,
    hlists.length_eq, hentry]
  rfl

end Driver
end FuzzSynth
