/-
How often functions were used.

A driver counts for each function that it calls, and only once however often it calls it
(`Usage.count_bumpAll`).  Nothing but accepting a driver changes the counters, so all through a
search the count of a key is the number of the branches accepted so far that call a function of
that key (`Reaches.count_usage`).
-/
import FuzzSynth.Proofs.Search.Trace

namespace FuzzSynth

/-- Counting different keys adds one to each of them and leaves the others. -/
theorem Usage.count_bumpAll {keys : List String} (h : keys.Nodup) (key : String) (usage : Usage) :
    count (bumpAll keys usage) key = count usage key + if key ∈ keys then 1 else 0 := by
  induction keys generalizing usage with
  | nil => rfl
  | cons k rest ih =>
      obtain ⟨hk, hrest⟩ := List.nodup_cons.mp h
      have hcons : bumpAll (k :: rest) usage = bumpAll rest (bump k usage) := rfl
      rw [hcons, ih hrest, count_bump]
      by_cases hkey : k = key
      · -- the key is counted now, so it is none of the others
        subst hkey
        rw [if_pos rfl, if_neg hk, if_pos List.mem_cons_self]
      · have hmem : key ∈ k :: rest ↔ key ∈ rest := by simp [Ne.symm hkey]
        rw [if_neg hkey]
        simp only [hmem]

theorem Branch.mem_keys_iff {b : Branch} {key : String} :
    key ∈ b.keys ↔ ∃ c ∈ b.calls, c.1.api.key = key := by
  rw [keys, Sequence.mem_distinct, List.mem_map]

/-- All through a search each key is counted once for each accepted branch that calls it. -/
theorem SearchSettings.Reaches.count_usage {settings : SearchSettings} {graph : Graph}
    {target : Node} {s : SearchState} (h : Reaches settings graph target s) (key : String) :
    s.usage.count key = s.accepted.toList.countP fun b => key ∈ b.keys := by
  induction h with
  | start => rfl
  | @step s s' _ hstep ih =>
      cases hstep with
      | refuse => exact ih
      | @accept id b =>
          have hkeys : b.keys.Nodup := Sequence.nodup_distinct _
          have hcount := Usage.count_bumpAll hkeys key s.usage
          rw [Array.toList_push, List.countP_append, List.countP_singleton, ← ih]
          simpa using hcount
      | grow =>
          rw [SearchState.usage_pushAll, SearchState.accepted_pushAll]
          exact ih
      | reject => exact ih

end FuzzSynth
