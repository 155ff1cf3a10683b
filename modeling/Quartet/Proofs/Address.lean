import Quartet.Address
import Mathlib.Data.List.Basic

namespace Quartet.Address

/-!
# The order of addresses

Addresses are in a total order, in which all registers come before all memory cells.  So a list of
addresses has only one order, and sorting finds it.

* `Address.le_total`, `Address.le_trans`, `Address.le_antisymm` — the order.
* `Address.exists_split` — a list in order is one of registers and then one of cells.
* `Address.sort_spec` — what sorting does to a list.
-/

/-! ### The order -/

theorem le_total (first second : Address) : (first.le second || second.le first) = true := by
  cases first <;> cases second <;> simp [le, UInt64.le_iff_toNat_le, Nat.le_total]

theorem le_trans {first second third : Address} (h : first.le second = true)
    (h' : second.le third = true) : first.le third = true := by
  cases first <;> cases second <;> cases third <;> simp_all [le, UInt64.le_iff_toNat_le] <;> omega

theorem le_antisymm {first second : Address} (h : first.le second = true)
    (h' : second.le first = true) : first = second := by
  cases first <;> cases second <;>
    simp_all [le, UInt64.le_iff_toNat_le, ← UInt64.toNat_inj] <;> omega

/-! ### Lists in order -/

/-- In a list in order, all registers come before all cells, and both are in ascending order. -/
theorem exists_split {ordered : List Address}
    (h : ordered.Pairwise fun first second => first.le second = true) :
    ∃ registers cells : List UInt64,
      ordered = registers.map register ++ cells.map memory ∧
        registers.Pairwise (· ≤ ·) ∧ cells.Pairwise (· ≤ ·) := by
  induction ordered with
  | nil => exact ⟨[], [], rfl, .nil, .nil⟩
  | cons address rest ih =>
    obtain ⟨hfirst, hrest⟩ := List.pairwise_cons.mp h
    obtain ⟨registers, cells, rfl, hregisters, hcells⟩ := ih hrest
    have hcell : ∀ cell ∈ cells, address.le (memory cell) = true := fun cell hmem =>
      hfirst _ (List.mem_append_right _ (List.mem_map_of_mem hmem))
    have hregister : ∀ other ∈ registers, address.le (register other) = true := fun other hmem =>
      hfirst _ (List.mem_append_left _ (List.mem_map_of_mem hmem))
    cases address with
    | register index =>
      refine ⟨index :: registers, cells, rfl, List.pairwise_cons.mpr ⟨?_, hregisters⟩, hcells⟩
      exact fun other hmem => of_decide_eq_true (hregister other hmem)
    | memory index =>
      -- no register comes after a cell
      have hnone : registers = [] := List.eq_nil_iff_forall_not_mem.mpr fun other hmem =>
        Bool.false_ne_true (hregister other hmem)
      subst hnone
      refine ⟨[], index :: cells, rfl, .nil, List.pairwise_cons.mpr ⟨?_, hcells⟩⟩
      exact fun cell hmem => of_decide_eq_true (hcell cell hmem)

/-- Sorting puts the addresses of a list, each as often as it is there, in the one order that they
    have: first the registers and then the cells, both in ascending order. -/
theorem sort_spec (addresses : List Address) :
    (sort addresses).Perm addresses ∧
      (∃ registers cells : List UInt64,
        sort addresses = registers.map register ++ cells.map memory ∧
          registers.Pairwise (· ≤ ·) ∧ cells.Pairwise (· ≤ ·)) ∧
      ∀ ordered : List Address, ordered.Perm addresses →
        (ordered.Pairwise fun first second => first.le second = true) →
          ordered = sort addresses := by
  have hperm : (sort addresses).Perm addresses := List.mergeSort_perm _ _
  have hsorted : (sort addresses).Pairwise fun first second => first.le second = true :=
    @List.pairwise_mergeSort _ le (fun _ _ _ => le_trans) le_total addresses
  refine ⟨hperm, exists_split hsorted, fun ordered hsame hordered => ?_⟩
  exact (hsame.trans hperm.symm).eq_of_pairwise (fun _ _ _ _ => le_antisymm) hordered hsorted

end Quartet.Address
