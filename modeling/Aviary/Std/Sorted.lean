import Aviary.Std.Sort

/-!
# `std::sort` sorts

When the comparator is a strict weak order on the elements, as `std::sort` requires, its result
is sorted: no element is `comp`-before one ahead of it (`stdSort_sorted`), so any relation that
holds wherever that is so holds along the result (`pairwise_stdSort`). With `stdSort_perm` it is a
sorted permutation of the vector.

The order comes from the last pass, `__final_insertion_sort`. Its guarded insertion sort on the
first 16 elements and its unguarded one after them each insert the next element into the sorted
prefix, whatever order the introsort loop left (`finalInsertionSort_eq_foldl`). An unguarded walk
that reaches the front compares the element with itself there and stops. libstdc++ instead relies
on the introsort loop having left an element no greater among the first 16, and under a strict
weak order the walk stops at the same place either way.
-/

namespace Aviary

/-! ## Strict weak orders -/

namespace StrictWeakOrderOn

variable {α : Type} {comp : α → α → Bool} {S : List α} (h : StrictWeakOrderOn comp S)
include h

theorem mono {T : List α} (hT : T ⊆ S) : StrictWeakOrderOn comp T :=
  ⟨fun a ha => h.1 a (hT ha), fun a ha b hb c hc => h.2.1 a (hT ha) b (hT hb) c (hT hc),
    fun a ha b hb c hc => h.2.2 a (hT ha) b (hT hb) c (hT hc)⟩

theorem asymm {a b : α} (ha : a ∈ S) (hb : b ∈ S) (hab : comp a b = true) : comp b a = false := by
  cases hba : comp b a
  · rfl
  · simpa [h.1 a ha] using h.2.1 a ha b hb a ha hab hba

/-- Not before and not before chain: if `a` is not before `b` and `b` not before `c`, then `a` is
not before `c`. -/
theorem negTrans {a b c : α} (ha : a ∈ S) (hb : b ∈ S) (hc : c ∈ S) (hab : comp a b = false)
    (hbc : comp b c = false) : comp a c = false := by
  cases hac : comp a c
  · rfl
  exfalso
  cases hba : comp b a
  · cases hcb : comp c b
    · simpa [hac] using (h.2.2 a ha b hb c hc hab hba hbc hcb).1
    · simpa [hab] using h.2.1 a ha c hc b hb hac hcb
  · simpa [hbc] using h.2.1 b hb a ha c hc hba hac

end StrictWeakOrderOn

namespace StdSort

variable {α : Type} (comp : α → α → Bool)

/-! ## The insertion passes as folds -/

/-- One step of `__unguarded_insertion_sort` on the sorted prefix. -/
def insertUnguarded (sorted : List α) (x : α) : List α :=
  (insertReversed comp x sorted.reverse).reverse

theorem insertUnguarded_perm (sorted : List α) (x : α) :
    (insertUnguarded comp sorted x).Perm (x :: sorted) :=
  (List.reverse_perm _).trans ((insertReversed_perm comp x _).trans
    ((List.reverse_perm sorted).cons x))

theorem insertSorted_perm (sorted : List α) (x : α) :
    (insertSorted comp sorted x).Perm (x :: sorted) := by
  cases sorted with
  | nil => exact .refl _
  | cons first rest =>
    show List.Perm (if comp x first then x :: first :: rest
      else insertUnguarded comp (first :: rest) x) _
    split
    · exact .refl _
    · exact insertUnguarded_perm comp _ x

/-- A fold of steps that each add their element keeps every element. -/
theorem foldl_perm {step : List α → α → List α} (hstep : ∀ s x, (step s x).Perm (x :: s)) :
    ∀ (l s : List α), (l.foldl step s).Perm (s ++ l)
  | [], s => by simp
  | x :: l, s => (foldl_perm hstep l _).trans (((hstep s x).append_right l).trans List.perm_middle.symm)

/-- `__unguarded_insertion_sort` from the end of the sorted prefix: each element is inserted by
`insertUnguarded`. -/
theorem unguardedInsertionSort_append :
    ∀ fuel (sorted rest : List α) last, last = sorted.length + rest.length →
      rest.length ≤ fuel → (∀ a ∈ rest, comp a a = false) →
      unguardedInsertionSort comp last fuel (sorted ++ rest) sorted.length =
        rest.foldl (insertUnguarded comp) sorted
  | fuel, sorted, [], last, hlast, _, _ => by
    subst hlast
    cases fuel <;> simp [unguardedInsertionSort]
  | fuel + 1, sorted, x :: rest, last, hlast, hfuel, hirr => by
    have h := unguardedLinearInsert_reverse_append comp (hirr x (List.mem_cons_self x rest)) rest
      sorted.reverse (sorted ++ x :: rest).length (by simp)
    rw [List.length_reverse, List.reverse_reverse] at h
    have hlen : (insertReversed comp x sorted.reverse).reverse.length = sorted.length + 1 := by
      simp [length_insertReversed]
    rw [unguardedInsertionSort, if_pos (by simp [hlast]), h, List.foldl_cons, ← hlen]
    exact unguardedInsertionSort_append fuel _ rest last
      (by simp only [hlen, hlast, List.length_append, List.length_cons]; omega)
      (by simp at hfuel; omega) fun a ha => hirr a (List.mem_cons_of_mem x ha)

theorem length_foldl_insertSorted (l s : List α) :
    (l.foldl (insertSorted comp) s).length = s.length + l.length :=
  by simpa using (foldl_perm (insertSorted_perm comp) l s).length_eq

/-- `__final_insertion_sort` of a whole vector is an insertion sort: guarded steps over its first
16 elements, unguarded ones after them. -/
theorem finalInsertionSort_eq_foldl (a : α) (t : List α) (hirr : ∀ x ∈ a :: t, comp x x = false) :
    finalInsertionSort comp 0 (a :: t).length (a :: t) =
      (t.drop 15).foldl (insertUnguarded comp) ((t.take 15).foldl (insertSorted comp) [a]) := by
  have hirrT : ∀ x ∈ t, comp x x = false := fun x hx => hirr x (List.mem_cons_of_mem a hx)
  have hhead := insertionSort_append comp (a :: t).length [a] (t.take 15) (t.drop 15)
    (min 16 (t.length + 1)) (by simp) (by simp; omega) (by simp)
    fun x hx => hirrT x (List.mem_of_mem_take hx)
  rw [List.append_assoc, List.take_append_drop, List.singleton_append, List.length_singleton]
    at hhead
  unfold finalInsertionSort
  simp only [Nat.zero_add]
  split
  · next hlong =>
    simp only [List.length_cons, Nat.sub_zero] at hlong
    rw [show min 16 (t.length + 1) = 16 by omega] at hhead
    rw [hhead]
    have hlen : ((t.take 15).foldl (insertSorted comp) [a]).length = 16 := by
      rw [length_foldl_insertSorted, List.length_take]; simp; omega
    rw [← hlen]
    exact unguardedInsertionSort_append comp _ _ _ _ (by simp [hlen]; omega) (by simp; omega)
      fun x hx => hirrT x (List.mem_of_mem_drop hx)
  · next hshort =>
    simp only [List.length_cons, Nat.sub_zero, not_lt] at hshort
    rw [List.drop_eq_nil_of_le (by omega), List.take_of_length_le (by omega), List.foldl_nil]
    rw [show min 16 (t.length + 1) = t.length + 1 by omega, List.drop_eq_nil_of_le (by omega),
      List.append_nil, List.take_of_length_le (by omega)] at hhead
    exact hhead

/-! ## Each insertion keeps the prefix sorted -/

section Sortedness

variable {comp}

/-- The unguarded walk keeps the prefix sorted; the prefix is kept reversed, so no element is
before one behind it. -/
theorem pairwise_insertReversed {x : α} {rp : List α} (h : StrictWeakOrderOn comp (x :: rp))
    (hrp : rp.Pairwise fun a b => comp a b = false) :
    (insertReversed comp x rp).Pairwise fun a b => comp a b = false := by
  induction rp with
  | nil => simp [insertReversed]
  | cons y ys ih =>
    obtain ⟨hy, hys⟩ := List.pairwise_cons.mp hrp
    have hx : x ∈ x :: y :: ys := List.mem_cons_self _ _
    have hy' : y ∈ x :: y :: ys := List.mem_cons_of_mem _ (List.mem_cons_self _ _)
    unfold insertReversed
    split
    · next hxy =>
      refine List.pairwise_cons.mpr ⟨fun z hz => ?_,
        ih (h.mono (List.cons_subset_cons x (List.subset_cons_self y ys))) hys⟩
      rcases List.mem_cons.mp ((insertReversed_perm comp x ys).mem_iff.mp hz) with rfl | hz
      · exact h.asymm hx hy' hxy
      · exact hy z hz
    · next hxy =>
      refine List.pairwise_cons.mpr ⟨fun z hz => ?_, hrp⟩
      rcases List.mem_cons.mp hz with rfl | hz
      · simpa using hxy
      · exact h.negTrans hx hy' (List.mem_cons_of_mem _ (List.mem_cons_of_mem _ hz))
          (by simpa using hxy) (hy z hz)

theorem sorted_insertUnguarded {s : List α} {x : α} (h : StrictWeakOrderOn comp (x :: s))
    (hs : s.Pairwise fun a b => comp b a = false) :
    (insertUnguarded comp s x).Pairwise fun a b => comp b a = false := by
  unfold insertUnguarded
  rw [List.pairwise_reverse]
  exact pairwise_insertReversed (h.mono fun a ha => by simpa using ha)
    (List.pairwise_reverse.mpr hs)

theorem sorted_insertSorted {s : List α} {x : α} (h : StrictWeakOrderOn comp (x :: s))
    (hs : s.Pairwise fun a b => comp b a = false) :
    (insertSorted comp s x).Pairwise fun a b => comp b a = false := by
  cases s with
  | nil => exact List.pairwise_singleton _ x
  | cons first rest =>
    show List.Pairwise _ (if comp x first then x :: first :: rest
      else insertUnguarded comp (first :: rest) x)
    split
    · next hxf =>
      have hx : x ∈ x :: first :: rest := List.mem_cons_self _ _
      have hf : first ∈ x :: first :: rest := List.mem_cons_of_mem _ (List.mem_cons_self _ _)
      refine List.pairwise_cons.mpr ⟨fun y hy => ?_, hs⟩
      rcases List.mem_cons.mp hy with rfl | hy
      · exact h.asymm hx hf hxf
      · refine Bool.eq_false_iff.mpr fun hyx => ?_
        have hyf := h.2.1 y (List.mem_cons_of_mem _ (List.mem_cons_of_mem _ hy)) x hx first hf
          hyx hxf
        simp [(List.pairwise_cons.mp hs).1 y hy] at hyf
    · exact sorted_insertUnguarded h hs

/-- A fold of steps that each insert their element into a sorted prefix ends sorted. -/
theorem sorted_foldl {S : List α} (hS : StrictWeakOrderOn comp S) {step : List α → α → List α}
    (hperm : ∀ s x, (step s x).Perm (x :: s))
    (hstep : ∀ s x, StrictWeakOrderOn comp (x :: s) → (s.Pairwise fun a b => comp b a = false) →
      (step s x).Pairwise fun a b => comp b a = false) :
    ∀ (l s : List α), l ⊆ S → s ⊆ S → (s.Pairwise fun a b => comp b a = false) →
      (l.foldl step s).Pairwise fun a b => comp b a = false
  | [], _, _, _, hs => hs
  | x :: l, s, hl, hsS, hs =>
    have hxs : x :: s ⊆ S := List.cons_subset.mpr ⟨hl (List.mem_cons_self x l), hsS⟩
    sorted_foldl hS hperm hstep l _ (fun _ ha => hl (List.mem_cons_of_mem x ha))
      ((hperm s x).subset.trans hxs) (hstep s x (hS.mono hxs) hs)

theorem sorted_finalInsertionSort (l : List α) (h : StrictWeakOrderOn comp l) :
    (finalInsertionSort comp 0 l.length l).Pairwise fun a b => comp b a = false := by
  cases l with
  | nil => simp [finalInsertionSort, insertionSort]
  | cons a t =>
    rw [finalInsertionSort_eq_foldl comp a t h.1]
    have hsub : ∀ {l : List α}, l ⊆ t → l ⊆ a :: t := fun hl => hl.trans (List.subset_cons_self a t)
    refine sorted_foldl h (insertUnguarded_perm comp) (fun _ _ => sorted_insertUnguarded) _ _
      (hsub (List.drop_subset _ _)) ?_
      (sorted_foldl h (insertSorted_perm comp) (fun _ _ => sorted_insertSorted) _ _
        (hsub (List.take_subset _ _)) (by simp) (List.pairwise_singleton _ a))
    exact (foldl_perm (insertSorted_perm comp) _ _).subset.trans
      (List.append_subset.mpr ⟨by simp, hsub (List.take_subset _ _)⟩)

end Sortedness

end StdSort

open StdSort in
/-- Under a strict weak order on its elements, any relation that holds between two of them whenever
the second is not `comp`-before the first holds along `std::sort`'s result. -/
theorem pairwise_stdSort {α : Type} (comp : α → α → Bool) (l : List α) {R : α → α → Prop}
    (h : StrictWeakOrderOn comp l) (hR : ∀ a ∈ l, ∀ b ∈ l, comp b a = false → R a b) :
    (stdSort comp l).Pairwise R := by
  have hsorted : (stdSort comp l).Pairwise fun a b => comp b a = false := by
    unfold stdSort
    split
    · next hnil => simp [List.eq_nil_of_length_eq_zero hnil]
    · have hperm := introsortLoop_perm comp (l.length + 1) l 0 l.length (2 * lg l.length)
      generalize introsortLoop comp (l.length + 1) l 0 l.length (2 * lg l.length) = loop at hperm ⊢
      rw [← hperm.length_eq]
      exact sorted_finalInsertionSort _ (h.mono hperm.subset)
  have hmem := (stdSort_perm comp l).subset
  exact hsorted.imp_of_mem fun ha hb hab => hR _ (hmem ha) _ (hmem hb) hab

/-- Under a strict weak order on its elements, `std::sort` returns them sorted: no element is
`comp`-before one ahead of it. -/
theorem stdSort_sorted {α : Type} (comp : α → α → Bool) (l : List α)
    (h : StrictWeakOrderOn comp l) : (stdSort comp l).Pairwise fun a b => comp b a = false :=
  pairwise_stdSort comp l h fun _ _ _ _ => id

theorem stdSort_sorted_nat :
    StrictWeakOrderOn (fun a b : Nat => decide (a < b)) [3, 1, 2] ∧
      (stdSort (fun a b : Nat => decide (a < b)) [3, 1, 2]).Pairwise fun a b => decide (b < a) = false :=
  ⟨by decide, stdSort_sorted _ _ (by decide)⟩

end Aviary
