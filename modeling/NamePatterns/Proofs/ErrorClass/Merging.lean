import NamePatterns.ErrorClass
import NamePatterns.Proofs.Results

/-!
# Merged Orders

What the ancestors of a class have to do with the orders that they are merged from.

A merge takes one name after the other. The name that is taken stands in front of an order
and further back in none, so once it is taken it stands in none at all. For that reason no
name is taken twice, and each order is found again in the result, in its own order.

The fuel of a merge bounds how many names are left in the orders together. A
step takes one of these at least, so enough fuel lasts to the end, and what is
merged is not just a front part of the orders.

## Theorems

* `ErrorClass.merge_ok`: What one step of a merge that succeeds does.
* `ErrorClass.merge_sublist`: Each order is kept.
* `ErrorClass.exists_mem_of_merge`: Nothing is added.
* `ErrorClass.merge_nodup`: Nothing is repeated.
* `ErrorClass.derive_ok`: What this means for a class and its bases.
-/

namespace NamePatterns

namespace ErrorClass

variable {fuel : Nat} {orders : List (List String)} {name : String} {names : List String}

/-- A merge that succeeds is at its end, or takes a name that stands in front of an order and
    further back in none. -/
theorem merge_ok (h : merge (fuel + 1) orders = .ok names) :
    (names = [] ∧ ∀ order ∈ orders, order = []) ∨
    ∃ name rest, names = name :: rest ∧ (∃ order ∈ orders, order.head? = some name) ∧
      (∀ order ∈ orders, name ∉ order.tail) ∧ merge fuel (dropHead name orders) = .ok rest := by
  rw [merge] at h
  cases hnext : (heads orders).find? (isFree orders) with
  | none =>
      left
      rw [hnext] at h
      -- Without a name to take the merge is at its end, or the orders contradict each other.
      by_cases hempty : (heads orders).isEmpty
      · rw [if_pos hempty] at h
        refine ⟨(Except.ok.inj h).symm, fun order horder => ?_⟩
        rw [List.isEmpty_iff, heads, List.filterMap_eq_nil_iff] at hempty
        exact List.head?_eq_none_iff.mp (hempty order horder)
      · rw [if_neg hempty] at h
        cases h
  | some name =>
      right
      rw [hnext] at h
      obtain ⟨order, horder, hhead⟩ := List.mem_filterMap.mp (List.mem_of_find?_eq_some hnext)
      have hfree := List.find?_some hnext
      rw [isFree, List.all_eq_true] at hfree
      obtain ⟨rest, hrest, rfl⟩ := Except.map_ok.mp h
      refine ⟨name, rest, rfl, ⟨order, horder, hhead⟩, fun other hother hmem => ?_, hrest⟩
      have hnot := hfree other hother
      rw [List.contains_iff_mem.mpr hmem] at hnot
      cases hnot

/-- What is left of an order when a name is taken. -/
theorem mem_dropHead {order : List String} :
    order ∈ dropHead name orders ↔
      ∃ whole ∈ orders, (if whole.head? = some name then whole.tail else whole) = order :=
  List.mem_map

/-- A name that is taken stands in no order any more. -/
theorem not_mem_of_mem_dropHead (hfree : ∀ order ∈ orders, name ∉ order.tail)
    {order : List String} (h : order ∈ dropHead name orders) : name ∉ order := by
  obtain ⟨whole, hwhole, rfl⟩ := mem_dropHead.mp h
  split
  · exact hfree whole hwhole
  · next hhead =>
      cases whole with
      | nil => exact List.not_mem_nil
      | cons first rest =>
          refine List.not_mem_cons_of_ne_of_not_mem ?_ (hfree _ hwhole)
          rintro rfl
          exact hhead rfl

/-- Orders get no longer when a name is taken. -/
theorem length_dropHead_le (name : String) (orders : List (List String)) :
    (dropHead name orders).flatten.length ≤ orders.flatten.length := by
  induction orders with
  | nil => exact Nat.le_refl _
  | cons order orders ih =>
      have horder : (if order.head? = some name then order.tail else order).length
          ≤ order.length := by
        split
        · rw [List.length_tail]
          exact Nat.sub_le _ _
        · exact Nat.le_refl _
      simp only [dropHead, List.map_cons, List.flatten_cons, List.length_append] at ih ⊢
      omega

/-- Orders get shorter when a name in front of one of them is taken. -/
theorem length_dropHead_lt (h : ∃ order ∈ orders, order.head? = some name) :
    (dropHead name orders).flatten.length < orders.flatten.length := by
  obtain ⟨order, horder, hhead⟩ := h
  obtain ⟨before, after, rfl⟩ := List.append_of_mem horder
  have hbefore := length_dropHead_le name before
  have hafter := length_dropHead_le name after
  have hshorter : order.tail.length < order.length := by
    cases order with
    | nil => cases hhead
    | cons first rest => exact Nat.lt_succ_self _
  simp only [dropHead, List.map_append, List.map_cons, if_pos hhead, List.flatten_append,
    List.flatten_cons, List.length_append] at hbefore hafter ⊢
  omega

/-- Each order is found again in what is merged. -/
theorem merge_sublist (hfuel : orders.flatten.length < fuel) (h : merge fuel orders = .ok names) :
    ∀ order ∈ orders, order.Sublist names := by
  induction fuel generalizing orders names with
  | zero => exact absurd hfuel (Nat.not_lt_zero _)
  | succ fuel ih =>
      intro order horder
      rcases merge_ok h with ⟨_, hempty⟩ | ⟨name, rest, rfl, hfront, _, hrest⟩
      · rw [hempty order horder]
        exact List.nil_sublist _
      · have hshorter := length_dropHead_lt hfront
        -- The orders that are left are shorter together, so the fuel that is left is enough.
        have hkept := ih (by omega) hrest _ (mem_dropHead.mpr ⟨order, horder, rfl⟩)
        split at hkept
        · next hhead =>
            obtain ⟨tail, rfl⟩ := List.head?_eq_some_iff.mp hhead
            exact hkept.cons_cons name
        · exact hkept.cons name

/-- Each name that is merged is from one of the orders. -/
theorem exists_mem_of_merge (h : merge fuel orders = .ok names) :
    ∀ n ∈ names, ∃ order ∈ orders, n ∈ order := by
  induction fuel generalizing orders names with
  | zero =>
      obtain rfl : [] = names := Except.ok.inj h
      exact nofun
  | succ fuel ih =>
      intro n hn
      rcases merge_ok h with ⟨rfl, _⟩ | ⟨name, rest, rfl, ⟨order, horder, hhead⟩, _, hrest⟩
      · cases hn
      · rcases List.mem_cons.mp hn with rfl | hn
        · exact ⟨order, horder, List.mem_of_mem_head? (Option.mem_def.mpr hhead)⟩
        · obtain ⟨left, hleft, hmem⟩ := ih hrest n hn
          obtain ⟨whole, hwhole, rfl⟩ := mem_dropHead.mp hleft
          refine ⟨whole, hwhole, ?_⟩
          split at hmem
          · exact List.mem_of_mem_tail hmem
          · exact hmem

/-- No name is merged twice. -/
theorem merge_nodup (h : merge fuel orders = .ok names) : names.Nodup := by
  induction fuel generalizing orders names with
  | zero =>
      obtain rfl : [] = names := Except.ok.inj h
      exact .nil
  | succ fuel ih =>
      rcases merge_ok h with ⟨rfl, _⟩ | ⟨name, rest, rfl, _, hfree, hrest⟩
      · exact .nil
      · refine List.nodup_cons.mpr ⟨fun hmem => ?_, ih hrest⟩
        obtain ⟨order, horder, hname⟩ := exists_mem_of_merge hrest name hmem
        exact not_mem_of_mem_dropHead hfree horder hname

/-- The ancestors of a class that is made from bases: each base with its own ancestors, in
    their order, and nothing else and nothing twice. -/
theorem derive_ok {bases : List ErrorClass} {c : ErrorClass} (h : derive name bases = .ok c) :
    c.name = name ∧ (∀ b ∈ bases, b.lineage.Sublist c.ancestors) ∧
      (∀ n ∈ c.ancestors, ∃ b ∈ bases, n ∈ b.lineage) ∧ c.ancestors.Nodup := by
  unfold derive at h
  dsimp only at h
  split at h
  · cases h
  · split at h
    · next ancestors hmerge =>
        obtain rfl := Except.ok.inj h
        refine ⟨rfl, fun b hb => ?_, fun n hn => ?_, merge_nodup hmerge⟩
        · exact merge_sublist (Nat.lt_succ_self _) hmerge _
            (List.mem_append_left _ (List.mem_map_of_mem hb))
        · obtain ⟨order, horder, hmem⟩ := exists_mem_of_merge hmerge n hn
          rcases List.mem_append.mp horder with horder | horder
          · obtain ⟨b, hb, rfl⟩ := List.mem_map.mp horder
            exact ⟨b, hb, hmem⟩
          · -- The order of the bases has nothing but their own names.
            obtain rfl := List.mem_singleton.mp horder
            obtain ⟨b, hb, rfl⟩ := List.mem_map.mp hmem
            exact ⟨b, hb, List.mem_cons_self⟩
    · cases h

end ErrorClass

end NamePatterns
