/-
**What a runner is made of.**

* `Runner.isBuilt_of_ofEntry`: a runner has the entry point it is made for, the simulators that are
  registered and a schema for the parameters;
* `Runner.simulator_eq_ok_iff`: the simulator on which a call runs;
* `Parameter.IsFree`: a parameter with a slot of its own;
* `Runner.coins`, `Entry.echo`, `Entry.constant`, `Entry.raising`: small runners and entry points, for
  examples.
-/

import Argline.Proofs.CommandLine.Slots
import Argline.Proofs.Schema.Names
import Argline.Run.Runner

namespace Argline

/-- A parameter whose name is none of those that the store keeps for itself. -/
structure Parameter.IsFree (parameter : Parameter) : Prop where
  simulator : parameter.name ≠ simulatorSlot
  surplus : parameter.name ≠ surplusSlot
  reserved : parameter.name ∉ reservedNames

namespace Runner

variable {m : Type → Type}

/-- A runner made for an entry point. -/
structure IsBuilt (runner : Runner m) (entry : Entry m) (settings : Settings)
    (simulators : List (String × Simulator m)) : Prop where
  schema : runner.command.schema.IsBuilt entry.parameters Builtin.standard settings.beginning
  names : runner.command.simulators = runner.simulators.map Prod.fst
  default : runner.command.defaultSimulator = settings.defaultSimulator
  registered : settings.defaultSimulator ∈ runner.command.simulators
  simulators : runner.simulators = Bindings.ofPairs simulators
  entry : runner.entry = entry

/-- The simulator of a call is the one that is registered under the name in its slot. -/
theorem simulator_eq_ok_iff {runner : Runner m} {key : Value} {name : String}
    {simulator : Simulator m} : runner.simulator key = .ok (name, simulator) ↔
      key = .text name ∧ runner.simulators.lookup name = some simulator := by
  unfold Runner.simulator
  split
  · next selected =>
    rw [map_eq_ok_iff, Bindings.get, Value.text.injEq]
    constructor
    · rintro ⟨registered, found, same⟩
      split at found <;> cases found
      cases same
      exact ⟨rfl, by assumption⟩
    · rintro ⟨rfl, found⟩
      exact ⟨simulator, by rw [found], rfl⟩
  · simp
  · simp
  · next other _ _ =>
    refine iff_of_false (fun found => ?_) fun named => other name named.1
    obtain ⟨shown, _, missing⟩ := bind_eq_ok_iff.mp found
    cases missing

variable [Monad m] {entry : Entry m} {settings : Settings} {simulators : List (String × Simulator m)}
  {runner : Runner m}

/-- A runner has the schema of the parameters and the standard built-in options. -/
theorem schema_of_ofEntry (made : ofEntry entry settings simulators = .ok runner) :
    Schema.ofParameters entry.parameters Builtin.standard settings.policy settings.beginning =
      .ok runner.command.schema := by
  unfold ofEntry at made
  dsimp only at made
  split at made
  · cases made
  · obtain ⟨schema, built, same⟩ := bind_eq_ok_iff.mp made
    cases same
    exact built

/-- A runner has the standard built-in options, in their order. -/
theorem map_builtin_of_ofEntry (made : ofEntry entry settings simulators = .ok runner) :
    runner.command.schema.builtins.map BuiltinOption.builtin = Builtin.standard :=
  Schema.map_builtin_of_ofParameters (schema_of_ofEntry made)

/-- **A runner is made of its entry point, the simulators and a schema.** -/
theorem isBuilt_of_ofEntry (made : ofEntry entry settings simulators = .ok runner) :
    runner.IsBuilt entry settings simulators := by
  unfold ofEntry at made
  dsimp only at made
  split at made
  · cases made
  · next registered =>
    obtain ⟨schema, built, same⟩ := bind_eq_ok_iff.mp made
    cases same
    exact {
      schema := Schema.isBuilt_of_ofParameters built
      names := rfl
      default := rfl
      registered := by simpa using registered
      simulators := rfl
      entry := rfl }

end Runner

/-! ### Small runners -/

/-- An entry point that takes the number of coins to flip, and whether they are fair. -/
def Entry.coins : Entry Id where
  name := "Flip"
  parameters := [{ name := "coinCount", type := .scalar .int },
    { name := "fair", type := .scalar .bool }]
  body _ := .ok .unit

/-- The runner of the entry point, with its options `--coin-count` and `--fair`. -/
def Runner.coins : Runner Id where
  entry := .coins
  simulators := Simulator.standard
  command := {
    program := "Flip"
    version := libraryVersion
    summary := ""
    schema := {
      parameters := [
        ⟨{ name := "coinCount", type := .scalar .int }, ⟨"coin-count", some "c"⟩⟩,
        ⟨{ name := "fair", type := .scalar .bool }, ⟨"fair", some "f"⟩⟩]
      builtins := [⟨.help, some ⟨"help", some "h"⟩⟩, ⟨.version, some ⟨"version", none⟩⟩,
        ⟨.simulator, some ⟨"simulator", some "s"⟩⟩] }
    simulators := [Simulator.inProcessName]
    defaultSimulator := Simulator.inProcessName
    columns := 0 }

theorem Runner.ofEntry_coins : Runner.ofEntry .coins = .ok .coins := by
  rfl

theorem Entry.isFree_coins : ∀ parameter ∈ Entry.coins.parameters, parameter.IsFree := by
  intro parameter member
  simp only [Entry.coins, List.mem_cons, List.not_mem_nil, or_false] at member
  rcases member with rfl | rfl
  · exact ⟨by decide, by decide, by decide⟩
  · exact ⟨by decide, by decide, by decide⟩

/-- An entry point that returns the value of its one parameter. -/
def Entry.echo (name : String) (type : Ty) : Entry Id where
  name := "Echo"
  parameters := [{ name, type }]
  result := some type
  body arguments := .ok ((arguments.lookup name).getD .unit)

/-- An entry point that returns one value. -/
def Entry.constant (type : Ty) (value : Value) : Entry Id where
  name := "Constant"
  result := some type
  body _ := .ok value

/-- An entry point that raises something. -/
def Entry.raising (raised : Raised) : Entry Id where
  name := "Raise"
  body _ := .error raised

/-- A failure that has no text, as another one of its sort is raised whenever it is asked for, and so
on to some depth. -/
def Raised.mute : Nat → Raised
  | 0 => .foreign "Mute" ""
  | depth + 1 => .textless "Mute" (mute depth)

end Argline
