/-
Increasing lists of names.

Names are ordered by code points.  `insertName` keeps a list of names strictly
increasing, and `sortedNames` lists given names in order, each once.
-/
namespace FuzzSynth.Text

/-- Inserts a name into an increasing list, if it is not there yet. -/
def insertName (name : String) : List String → List String
  | [] => [name]
  | n :: rest =>
      if name = n then n :: rest
      else if name < n then name :: n :: rest
      else n :: insertName name rest

@[simp] theorem mem_insertName {a name : String} {names : List String} :
    a ∈ insertName name names ↔ a = name ∨ a ∈ names := by
  induction names with
  | nil => simp [insertName]
  | cons n rest ih =>
      simp only [insertName]
      split
      · next h => simp [h]
      · split
        · simp
        · simp only [List.mem_cons, ih]
          grind

theorem pairwise_insertName {name : String} {names : List String} (h : names.Pairwise (· < ·)) :
    (insertName name names).Pairwise (· < ·) := by
  induction names with
  | nil => simp [insertName]
  | cons n rest ih =>
      obtain ⟨hn, hrest⟩ := List.pairwise_cons.mp h
      simp only [insertName]
      split
      · exact h
      · next hne =>
          split
          · next hlt =>
              refine List.pairwise_cons.mpr ⟨fun a ha => ?_, h⟩
              rcases List.mem_cons.mp ha with rfl | ha
              · exact hlt
              · exact String.lt_trans hlt (hn a ha)
          · next hge =>
              refine List.pairwise_cons.mpr ⟨fun a ha => ?_, ih hrest⟩
              rcases mem_insertName.mp ha with rfl | ha
              · rcases Std.lt_trichotomy a n with hlt | heq | hgt
                · exact absurd hlt hge
                · exact absurd heq hne
                · exact hgt
              · exact hn a ha

/-- The given names in increasing order, each once. -/
def sortedNames (names : List String) : List String :=
  names.foldr insertName []

@[simp] theorem mem_sortedNames {a : String} {names : List String} :
    a ∈ sortedNames names ↔ a ∈ names := by
  induction names with
  | nil => simp [sortedNames]
  | cons n rest ih =>
      have : sortedNames (n :: rest) = insertName n (sortedNames rest) := rfl
      simp [this, ih]

end FuzzSynth.Text
