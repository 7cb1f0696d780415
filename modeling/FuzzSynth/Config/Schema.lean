/-
Configurations as structured values.

Each member of a configuration has a name, a way to write it and a way to read it;
`table` lists them in order.  `check` reads a configuration from the members of an
object: one that is not there keeps its default, and one that is unknown is an issue
that comes after those of all the others.  `members` is the way back.
-/
import FuzzSynth.Config.Basic
import FuzzSynth.Validation.Scalar

namespace FuzzSynth.Config

open Validation

/-- A member of a configuration. -/
structure Member where
  name : String
  write : Config → Json
  read : Json → Checked (Config → Config)

namespace Member

/-- A cap. -/
def cap (name : String) (get : Config → Cap) (set : Cap → Config → Config) : Member :=
  ⟨name, fun c => .int (get c).value, fun value => (checkCap value).map set⟩

/-- A number that may be zero. -/
def nat (name : String) (get : Config → Nat) (set : Nat → Config → Config) : Member :=
  ⟨name, fun c => .int (get c), fun value => (checkNat value).map set⟩

/-- A flag. -/
def flag (name : String) (get : Config → Bool) (set : Bool → Config → Config) : Member :=
  ⟨name, fun c => .bool (get c), fun value => (checkFlag value).map set⟩

/-- What the given members change in a configuration. -/
def change (m : Member) (given : List (String × Json)) : Checked (Config → Config) :=
  optional m.name id m.read given

end Member

/-- The names of the tie-break policies, for a message. -/
def tieBreakNames : String :=
  "'diversity', 'shortest' or 'declaration'"

/-- The tie-break policy. -/
def tieBreakMember : Member :=
  ⟨"producer_tie_break", fun c => .string c.tieBreak.name,
   fun value => (checkChoice TieBreak.ofName? tieBreakNames value).map fun p c => { c with tieBreak := p }⟩

/-- The target paths. -/
def targetsMember : Member :=
  ⟨"targets", fun c => .array (c.targets.map .string),
   fun value => (checkOneOrMore value).map fun paths c => { c with targets := paths }⟩

/-- The members of a configuration, in order. -/
def table : List Member :=
  [.cap "max_instantiations_per_api" maxInstances fun n c => { c with maxInstances := n },
   .nat "max_driver_call_depth" maxDepth fun n c => { c with maxDepth := n },
   .cap "max_drivers_per_target" maxDrivers fun n c => { c with maxDrivers := n },
   tieBreakMember,
   .cap "max_branching" maxBranching fun n c => { c with maxBranching := n },
   .cap "max_driver_calls" maxCalls fun n c => { c with maxCalls := n },
   .cap "max_expansions" maxExpansions fun n c => { c with maxExpansions := n },
   .cap "max_type_depth" maxTypeDepth fun n c => { c with maxTypeDepth := n },
   .cap "max_product_scan" maxProductScan fun n c => { c with maxProductScan := n },
   .flag "allow_borrow_adapters" borrow fun b c => { c with borrow := b },
   .flag "allow_unwrap_adapters" unwrap fun b c => { c with unwrap := b },
   .flag "require_seed_input" requireSeed fun b c => { c with requireSeed := b },
   .flag "always_offer_seed" offerSeed fun b c => { c with offerSeed := b },
   .cap "workers" workers fun n c => { c with workers := n },
   targetsMember]

/-- The members of a configuration as values. -/
def members (c : Config) : List (String × Json) :=
  table.map fun m => (m.name, m.write c)

/-- The keys of members that are unknown. -/
def unknownKeys (given : List (String × Json)) : List String :=
  (given.map Prod.fst).filter fun key => !table.any fun m => m.name == key

/-- No member is unknown. -/
def checkKnown (given : List (String × Json)) : Checked Unit :=
  let issues := (unknownKeys given).map fun key => ⟨[.key key], .unknownKey⟩
  if issues.isEmpty then .ok () else .error issues

/-- A configuration from the given members.  A key that is no text at all is the only
issue, whatever else is wrong. -/
def checkMembers (given : List (String × Json)) : Checked Config :=
  if (unknownKeys given).any Text.hasUnpaired then refuse .brokenString
  else
    (both (checkAll (table.map fun m => m.change given)) (checkKnown given)).map
      fun (changes, _) => changes.foldl (fun c change => change c) {}

/-- The name that messages call a configuration by. -/
def modelName : String := "RuntimeConfig"

/-- A configuration from a structured value. -/
def check : Json → Checked Config :=
  checkModel modelName checkMembers

end FuzzSynth.Config
