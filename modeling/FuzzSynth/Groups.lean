/-
Grouping by key.

`Groups` collects values under keys and keeps the values of one key in the order in
which they came in.  Looking a key up in the groups of a list gives the same values
as searching the list.
-/
namespace FuzzSynth

/-- Values collected under keys. -/
abbrev Groups (κ α : Type) := List (κ × List α)

namespace Groups

variable {κ α : Type} [DecidableEq κ]

/-- The values of a key. -/
def find (groups : Groups κ α) (key : κ) : List α :=
  match groups with
  | [] => []
  | (k, values) :: rest => if k = key then values else find rest key

/-- Adds a value in front of those of its key. -/
def insert (key : κ) (value : α) : Groups κ α → Groups κ α
  | [] => [(key, [value])]
  | (k, values) :: rest =>
      if k = key then (k, value :: values) :: rest else (k, values) :: insert key value rest

/-- The groups of a list of keyed values. -/
def ofList (pairs : List (κ × α)) : Groups κ α :=
  pairs.foldr (fun pair groups => insert pair.1 pair.2 groups) []

theorem find_insert (key k : κ) (value : α) (groups : Groups κ α) :
    find (insert key value groups) k = if key = k then value :: find groups k else find groups k := by
  induction groups with
  | nil => simp [insert, find]
  | cons entry rest ih =>
      obtain ⟨k', values⟩ := entry
      by_cases h : k' = key
      · subst h
        by_cases hk : k' = k <;> simp [insert, find, hk]
      · by_cases hk : k' = k
        · subst hk
          simp [insert, find, h, Ne.symm h]
        · simp [insert, find, h, hk, ih]

/-- A group holds the values of its key, in order. -/
theorem find_ofList (key : κ) (pairs : List (κ × α)) :
    find (ofList pairs) key = (pairs.filter fun pair => pair.1 = key).map Prod.snd := by
  induction pairs with
  | nil => simp [ofList, find]
  | cons pair rest ih =>
      have step : ofList (pair :: rest) = insert pair.1 pair.2 (ofList rest) := rfl
      rw [step, find_insert, ih]
      by_cases h : pair.1 = key <;> simp [h]

end Groups

end FuzzSynth
