import Mathlib.Data.List.Perm.Basic

/-! # Removal that does not keep the order
`Vec::swap_remove` takes an item out of a vector and puts the last one in its place. The order is
lost, but nothing else: the item and what remains are a permutation of what was there. -/

namespace Reactive

variable {α : Type*}

/-- `Vec::swap_remove` of an index that is in bounds: the vector without the item. -/
def swapRemove (l : List α) (i : Nat) : List α :=
  match l.getLast? with
  | none => []
  | some z => (l.set i z).dropLast

/-- **Nothing else is lost.** -/
theorem perm_swapRemove {l : List α} {i : Nat} {a : α} (h : l[i]? = some a) :
    (a :: swapRemove l i).Perm l := by
  rcases List.eq_nil_or_concat l with rfl | ⟨l', z, rfl⟩
  · cases h
  · rw [List.concat_eq_append] at h ⊢
    have hswap : swapRemove (l' ++ [z]) i = ((l' ++ [z]).set i z).dropLast := by
      rw [swapRemove, List.getLast?_concat]
    rw [hswap]
    by_cases hi : i < l'.length
    · -- the last item takes the place of `a`
      rw [List.getElem?_append_left hi] at h
      obtain ⟨hlt, rfl⟩ := List.getElem?_eq_some_iff.mp h
      rw [List.set_append_left _ _ hi, List.dropLast_concat]
      calc (l'[i] :: l'.set i z).Perm (l'[i] :: z :: l'.eraseIdx i) :=
            (List.set_perm_cons_eraseIdx hi z).cons _
        List.Perm _ (z :: l'[i] :: l'.eraseIdx i) := List.Perm.swap _ _ _
        List.Perm _ (z :: l') := (List.getElem_cons_eraseIdx_perm hi).cons _
        List.Perm _ (l' ++ [z]) := (List.perm_append_singleton z l').symm
    · -- `a` is the last item
      obtain rfl : i = l'.length := by
        have hlt := (List.getElem?_eq_some_iff.mp h).1
        rw [List.length_append, List.length_singleton] at hlt
        omega
      rw [List.getElem?_concat_length] at h
      cases h
      rw [List.set_append_right _ _ (Nat.le_refl _), Nat.sub_self, List.set_cons_zero,
        List.dropLast_concat]
      exact (List.perm_append_singleton a l').symm

end Reactive
