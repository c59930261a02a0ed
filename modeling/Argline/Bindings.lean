/-
**Bindings.**

What is bound to names, in the order in which the names were first bound.

* `Bindings.insert`: binding a name anew puts the new binding in the place of the old one;
* `Bindings.ofPairs`: pairs bound one after another, so that of two with one name the later one holds;
* `Bindings.get`: what is bound to a name, or the failure to find it.
-/

import Argline.Breakage

namespace Argline

/-- What is bound to names. -/
abbrev Bindings (α : Type) := List (String × α)

namespace Bindings

variable {α : Type}

/-- Bind a name, in the place of its binding if it has one, and behind all others if it has none. -/
def insert (name : String) (item : α) : Bindings α → Bindings α
  | [] => [(name, item)]
  | (other, bound) :: rest =>
    if other = name then (name, item) :: rest else (other, bound) :: insert name item rest

/-- The pairs of a list, bound one after another. -/
def ofPairs (pairs : List (String × α)) : Bindings α :=
  pairs.foldl (fun bindings pair => insert pair.1 pair.2 bindings) []

/-- What is bound to a name. -/
def get (bindings : Bindings α) (name : String) : Except Breakage α :=
  match bindings.lookup name with
  | some item => .ok item
  | none => .error (.missingKey (Text.quoted name))

end Bindings

end Argline
