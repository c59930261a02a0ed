/-
**Slots.**

While a command line is read, each value is stored in a slot that bears the name of its parameter. The
simulator that is selected has a slot of its own, and a few names belong to the store itself, so a
parameter of such a name shares its slot.

* `reservedAttributes`: what stands under the names that belong to the store;
* `Slots.contains`: is something stored under a name? Under a reserved name there always is;
* `Slots.insert`, `Slots.get`: storing a value, and the value stored;
* `Slots.surplus`: the values that a parameter of one name adds to the tokens left over.
-/

import Argline.Value.Basic

namespace Argline

/-- What the store says of itself. -/
def storeDescription : String :=
  "Simple object for storing attributes.\n\n"
    ++ "    Implements equality by attribute names and values, and provides a simple\n"
    ++ "    string representation.\n    "

/-- A method of the store that is written for it. -/
def storeMethod (path : String) : Value :=
  .object "method" (.ok ("<bound method " ++ path ++ " of Namespace(...)>"))

/-- An operation that every object has. -/
def storeOperation (name : String) : Value :=
  .object "method-wrapper" (.ok ("<method-wrapper '" ++ name ++ "' of Namespace object>"))

/-- A function that every object has, or that its class has. -/
def storeFunction (name owner : String) : Value :=
  .object "builtin_function_or_method"
    (.ok ("<built-in method " ++ name ++ " of " ++ owner ++ " object>"))

/-- The names that belong to the store, with what stands under them. Of the objects there, the text that
shows them is given without what the store holds and without the place of an object in memory. -/
def reservedAttributes : List (String × Value) := [
  ("__class__", .object "type" (.ok "<class 'argparse.Namespace'>")),
  ("__contains__", storeMethod "Namespace.__contains__"),
  ("__delattr__", storeOperation "__delattr__"),
  ("__dict__", .object "dict" (.ok "\x7b...\x7d")),
  ("__dir__", storeFunction "__dir__" "Namespace"),
  ("__doc__", .text storeDescription),
  ("__eq__", storeMethod "Namespace.__eq__"),
  ("__format__", storeFunction "__format__" "Namespace"),
  ("__ge__", storeOperation "__ge__"),
  ("__getattribute__", storeOperation "__getattribute__"),
  ("__getstate__", storeFunction "__getstate__" "Namespace"),
  ("__gt__", storeOperation "__gt__"),
  ("__hash__", .unit),
  ("__init__", storeMethod "Namespace.__init__"),
  ("__init_subclass__", storeFunction "__init_subclass__" "type"),
  ("__le__", storeOperation "__le__"),
  ("__lt__", storeOperation "__lt__"),
  ("__module__", .text "argparse"),
  ("__ne__", storeOperation "__ne__"),
  ("__new__", storeFunction "__new__" "type"),
  ("__reduce__", storeFunction "__reduce__" "Namespace"),
  ("__reduce_ex__", storeFunction "__reduce_ex__" "Namespace"),
  ("__repr__", storeMethod "_AttributeHolder.__repr__"),
  ("__setattr__", storeOperation "__setattr__"),
  ("__sizeof__", storeFunction "__sizeof__" "Namespace"),
  ("__str__", storeOperation "__str__"),
  ("__subclasshook__", storeFunction "__subclasshook__" "type"),
  ("__weakref__", .unit),
  ("_get_args", storeMethod "_AttributeHolder._get_args"),
  ("_get_kwargs", storeMethod "_AttributeHolder._get_kwargs")]

/-- The names that belong to the store. -/
def reservedNames : List String := reservedAttributes.map Prod.fst

/-- The name of the slot of the simulator that is selected. -/
def simulatorSlot : String := "_builtin_simulator"

/-- The name of the slot whose value is taken apart and added to the tokens left over. -/
def surplusSlot : String := "_unrecognized_args"

/-- The values stored, in the order in which they came. -/
structure Slots where
  entries : List (String × Value)

namespace Slots

/-- No values. -/
def empty : Slots := ⟨[]⟩

/-- The value stored under a name. -/
def get? (slots : Slots) (name : String) : Option Value := slots.entries.lookup name

/-- Is something stored under a name? -/
def contains (slots : Slots) (name : String) : Bool :=
  reservedNames.contains name || (slots.get? name).isSome

/-- Store a value under a name that is free. -/
def insert (slots : Slots) (name : String) (value : Value) : Slots :=
  ⟨slots.entries ++ [(name, value)]⟩

/-- Drop what is stored under a name. -/
def erase (slots : Slots) (name : String) : Slots :=
  ⟨slots.entries.filter fun entry => entry.1 != name⟩

/-- The value under a name: the one that is stored there, and under a reserved name, where nothing can
be stored, what the store has there itself. A call is made only if there is a value under every other
name. -/
def get (slots : Slots) (name : String) : Value :=
  match slots.get? name, reservedAttributes.lookup name with
  | some value, _ => value
  | none, some own => own
  | none, none => .unit

end Slots

/-- The parts that a value is taken apart into: the characters of a text, the items of a sequence, the
members of a range. Of a range the first member tells enough, as only texts can be joined. -/
def Value.parts : Value → Except Breakage (List Value)
  | .text content => .ok (content.toList.map fun c => .text (String.singleton c))
  | .list items => .ok items
  | .tuple items => .ok items
  | .bytes content => .ok (content.map fun byte => .int byte.toNat)
  | .progression numbers => .ok ((numbers.take 1).map .int)
  | .range interval => (interval.members 1).map fun members => members.map .int
  | value => .error (.notIterable value.typeName)

namespace Slots

/-- What the surplus slot adds to the tokens left over. -/
def surplus (slots : Slots) : Except Breakage (List Value) :=
  match slots.get? surplusSlot with
  | none => .ok []
  | some value => value.parts

end Slots

/-- Values as texts, which are counted from an index on; the first value that is no text breaks the
run off. -/
def textsFrom : Nat → List Value → Except Breakage (List String)
  | _, [] => .ok []
  | index, .text content :: rest => (textsFrom (index + 1) rest).map (content :: ·)
  | index, value :: _ => .error (.notText index value.typeName)

end Argline
