/-
**Tokens that are read as options.**

* `Mark.spelling_of_ofToken?`: such a token is a flag, or a flag, an equals sign and the inline
  argument;
* `Mark.ofToken?_flag`, `Mark.ofToken?_inline`: flags without an equals sign are read in both ways;
* `Schema.equals_notMem_flags`: no flag has one, if renamed options do not begin with one;
* `Schema.IsBuilt.isOptionLike`: such a token can be told by its first two characters.
-/

import Argline.Proofs.CommandLine.Flags
import Argline.Proofs.Fronts

namespace Argline

/-! ### The equals sign -/

theorem beforeEquals_of_notMem {flag : String} (plain : '=' ∉ flag.toList) :
    beforeEquals flag = flag := by
  rw [beforeEquals, takeWhile_ne_of_notMem plain, String.ofList_toList]

/-- A token without an argument behind an equals sign is its own first part. -/
theorem beforeEquals_eq_of_dropWhile {token : String}
    (rest : token.toList.dropWhile (· != '=') = []) : beforeEquals token = token :=
  beforeEquals_of_notMem (dropWhile_ne_eq_nil_iff.mp rest)

/-- A token is its two parts with the equals sign between them. -/
theorem beforeEquals_append_behindEquals {token : String} (split : beforeEquals token ≠ token) :
    beforeEquals token ++ "=" ++ behindEquals token = token := by
  obtain ⟨c, rest, equal⟩ :=
    List.exists_cons_of_ne_nil fun nil => split (beforeEquals_eq_of_dropWhile nil)
  have head : c = '=' := eq_of_head?_dropWhile_ne c (by rw [equal]; rfl)
  have whole := List.takeWhile_append_dropWhile (p := (· != '=')) (l := token.toList)
  rw [← String.toList_inj]
  rw [equal, head] at whole
  simpa [beforeEquals, behindEquals, equal] using whole

section Inline

variable {flag : String} (plain : '=' ∉ flag.toList) (argument : String)

theorem toList_inline :
    (flag ++ "=" ++ argument).toList = flag.toList ++ '=' :: argument.toList := by simp

include plain

theorem beforeEquals_inline : beforeEquals (flag ++ "=" ++ argument) = flag := by
  rw [beforeEquals, toList_inline, takeWhile_append_of_stops (bne_of_notMem plain) (by simp),
    String.ofList_toList]

theorem behindEquals_inline : behindEquals (flag ++ "=" ++ argument) = argument := by
  rw [behindEquals, toList_inline, dropWhile_append_of_stops (bne_of_notMem plain) (by simp),
    List.drop_succ_cons, List.drop_zero, String.ofList_toList]

end Inline

/-! ### Marks -/

namespace Mark

variable {table : List (String × Target)}

/-- A mark as a token: its flag, and its inline argument behind an equals sign. -/
def spelling (mark : Mark) : String :=
  match mark.inline with
  | none => mark.flag
  | some argument => mark.flag ++ "=" ++ argument

/-- **A token that is read as an option is a flag of the option, or that flag, an equals sign and the
inline argument.** -/
theorem spelling_of_ofToken? {token : String} {mark : Mark}
    (marked : ofToken? table token = some mark) :
    mark.spelling = token ∧ table.lookup mark.flag = some mark.target := by
  unfold ofToken? at marked
  split at marked
  · cases marked
  · next target found =>
    split at marked
    · next whole flag =>
      cases marked
      exact ⟨rfl, flag⟩
    · next free =>
      cases marked
      refine ⟨beforeEquals_append_behindEquals fun same => ?_, found⟩
      rw [same, free] at found
      cases found

section Flag

variable {flag : String} {target : Target} (plain : '=' ∉ flag.toList)
  (found : table.lookup flag = some target)

include plain found

/-- A flag without an equals sign is read as itself. -/
theorem ofToken?_flag : ofToken? table flag = some ⟨flag, target, none⟩ := by
  simp only [ofToken?, beforeEquals_of_notMem plain, found]

/-- A flag with an argument behind an equals sign is read as the two, unless the whole is a flag. -/
theorem ofToken?_inline {argument : String} (free : table.lookup (flag ++ "=" ++ argument) = none) :
    ofToken? table (flag ++ "=" ++ argument) = some ⟨flag, target, some argument⟩ := by
  simp only [ofToken?, beforeEquals_inline plain, found, free, behindEquals_inline plain]

end Flag

end Mark

namespace Schema

variable {schema : Schema} {parameters : List Parameter} {beginning : String}

/-- Every token that is read as an option begins like a flag. -/
theorem IsBuilt.isOptionLike (built : schema.IsBuilt parameters Builtin.standard beginning)
    {token : String} {mark : Mark} (marked : Mark.ofToken? schema.table token = some mark) :
    IsOptionLike token := by
  obtain ⟨rfl, found⟩ := Mark.spelling_of_ofToken? marked
  obtain ⟨c, rest, shape, code⟩ := (built.isFlag found).shape
  unfold Mark.spelling
  split
  · exact ⟨c, rest, shape, code⟩
  · next argument _ => exact ⟨c, rest ++ '=' :: argument.toList, by simp [shape], code⟩

/-- No flag of a parameter has an equals sign. -/
theorem IsBuilt.equals_notMem_flags_of_parameter
    (built : schema.IsBuilt parameters Builtin.standard beginning) {option : ParameterOption}
    (member : option ∈ schema.parameters) {flag : String} (flags : flag ∈ option.flags) :
    '=' ∉ flag.toList :=
  built.notMem_flags_of_parameter Text.isSign_equals member flags

/-- **No flag has an equals sign, if no renamed option begins with one.** -/
theorem IsBuilt.equals_notMem_flags
    (built : schema.IsBuilt parameters Builtin.standard beginning)
    (plain : '=' ∉ beginning.toList) {target : Target} (inTargets : target ∈ schema.targets)
    {flag : String} (flags : flag ∈ target.flags) : '=' ∉ flag.toList :=
  built.notMem_flags Text.isSign_equals plain inTargets flags

/-- So no flag with an inline argument is a flag as a whole. -/
theorem IsBuilt.lookup_inline (built : schema.IsBuilt parameters Builtin.standard beginning)
    (plain : '=' ∉ beginning.toList) (flag argument : String) :
    schema.table.lookup (flag ++ "=" ++ argument) = none := by
  refine Option.eq_none_iff_forall_ne_some.mpr fun target whole => ?_
  obtain ⟨inTargets, member⟩ := (built.lookup_eq_some_iff _ _).mp whole
  exact built.equals_notMem_flags plain inTargets member (by simp)

end Schema

end Argline
