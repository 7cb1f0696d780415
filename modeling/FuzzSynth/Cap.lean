/-
Caps.

A cap limits how much of something there may be and always leaves room for one.
-/
namespace FuzzSynth

/-- A cap of at least one. -/
structure Cap where
  value : Nat
  pos : 0 < value := by decide
  deriving DecidableEq, Repr

instance : Inhabited Cap := ⟨⟨1, by decide⟩⟩

/-- Caps are written as numbers. -/
instance {n : Nat} : OfNat Cap (n + 1) := ⟨⟨n + 1, Nat.succ_pos n⟩⟩

end FuzzSynth
