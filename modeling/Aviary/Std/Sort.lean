import Mathlib.Data.List.FinRange
import Mathlib.Data.List.Perm.Basic

/-!
# `std::sort`

`absl::c_sort` is `std::sort`, and the server is built with GCC 9 and its libstdc++ (the base
image of `Dockerfile` installs it). This module gives libstdc++'s introsort as it sorts a
`std::vector`: `__introsort_loop` partitions around a median of three until the ranges are at
most `_S_threshold = 16` long, falling back to heap sort (`__partial_sort`) once the depth limit
`2 ⌊log₂ n⌋` is spent, and `__final_insertion_sort` finishes with an insertion sort.

libstdc++ moves elements through a hole; the model performs the swaps those moves amount to,
which leaves the same vector after each loop and makes the same comparisons. Its scans are
unguarded: they rely on a sentinel and would run off the range without one. Here a comparison
with a position outside the vector is false, so a scan stops at the vector's ends; the loops run
on `fuel`, which each caller sets to the vector's length. Every step is a swap, so every result
is a permutation of the input (`stdSort_perm`). On at most 16 elements it is an insertion sort
(`stdSort_eq_foldl`) and stable (`stdSort_filter_of_length_le`); above that, ties can move.
-/

namespace Aviary

namespace StdSort

variable {α : Type} (comp : α → α → Bool)

/-- `std::iter_swap` of two positions. -/
def swapAt (l : List α) (i j : Nat) : List α :=
  match l[i]?, l[j]? with
  | some a, some b => (l.set i b).set j a
  | _, _ => l

/-- `comp(*i, *j)`, false when a position is outside the vector. -/
def compAt (l : List α) (i j : Nat) : Bool :=
  match l[i]?, l[j]? with
  | some a, some b => comp a b
  | _, _ => false

/-- `std::__lg`: `⌊log₂ n⌋`. -/
def lg (n : Nat) : Nat := go n n
where
  go : Nat → Nat → Nat
    | 0, _ => 0
    | fuel + 1, n => if 2 ≤ n then go fuel (n / 2) + 1 else 0

/-- `__move_median_to_first(result, a, b, c)`. -/
def moveMedianToFirst (l : List α) (result a b c : Nat) : List α :=
  if compAt comp l a b then
    if compAt comp l b c then swapAt l result b
    else if compAt comp l a c then swapAt l result c
    else swapAt l result a
  else if compAt comp l a c then swapAt l result a
  else if compAt comp l b c then swapAt l result c
  else swapAt l result b

/-- `while (comp(*first, *pivot)) ++first;` -/
def scanForward (l : List α) (pivot : Nat) : Nat → Nat → Nat
  | 0, first => first
  | fuel + 1, first => if compAt comp l first pivot then scanForward l pivot fuel (first + 1) else first

/-- `while (comp(*pivot, *last)) --last;` -/
def scanBackward (l : List α) (pivot : Nat) : Nat → Nat → Nat
  | 0, last => last
  | fuel + 1, last => if compAt comp l pivot last then scanBackward l pivot fuel (last - 1) else last

/-- `__unguarded_partition(first, last, pivot)`: the vector and the cut. -/
def unguardedPartition (pivot : Nat) : Nat → List α → Nat → Nat → List α × Nat
  | 0, l, first, _ => (l, first)
  | fuel + 1, l, first, last =>
    let first := scanForward comp l pivot l.length first
    let last := scanBackward comp l pivot l.length (last - 1)
    if first < last then unguardedPartition pivot fuel (swapAt l first last) (first + 1) last
    else (l, first)

/-- `__unguarded_partition_pivot(first, last)`. -/
def unguardedPartitionPivot (l : List α) (first last : Nat) : List α × Nat :=
  let mid := first + (last - first) / 2
  let l := moveMedianToFirst comp l first (first + 1) mid (last - 1)
  unguardedPartition comp first l.length l (first + 1) last

/-! ## Heap sort -/

/-- `__push_heap(first, holeIndex, topIndex, value)`, the value sitting at `holeIndex`. -/
def pushHeap (first topIndex : Nat) : Nat → List α → Nat → List α
  | 0, l, _ => l
  | fuel + 1, l, holeIndex =>
    let parent := (holeIndex - 1) / 2
    if topIndex < holeIndex ∧ compAt comp l (first + parent) (first + holeIndex) = true then
      pushHeap first topIndex fuel (swapAt l (first + holeIndex) (first + parent)) parent
    else l

/-- The loop of `__adjust_heap` that moves the larger child up into the hole. -/
def siftDown (first len : Nat) : Nat → List α → Nat → List α × Nat
  | 0, l, holeIndex => (l, holeIndex)
  | fuel + 1, l, holeIndex =>
    if holeIndex < (len - 1) / 2 then
      let secondChild := 2 * (holeIndex + 1)
      let child :=
        if compAt comp l (first + secondChild) (first + (secondChild - 1)) then secondChild - 1
        else secondChild
      siftDown first len fuel (swapAt l (first + holeIndex) (first + child)) child
    else (l, holeIndex)

/-- `__adjust_heap(first, holeIndex, len, value)`, the value sitting at `holeIndex`. -/
def adjustHeap (first holeIndex len : Nat) (l : List α) : List α :=
  let (l, hole) := siftDown comp first len l.length l holeIndex
  let (l, hole) :=
    if len % 2 = 0 ∧ hole = (len - 2) / 2 then
      (swapAt l (first + hole) (first + (2 * hole + 1)), 2 * hole + 1)
    else (l, hole)
  pushHeap comp first holeIndex l.length l hole

/-- `__make_heap(first, last)`. -/
def makeHeap (first last : Nat) (l : List α) : List α :=
  if last - first < 2 then l
  else
    ((List.range ((last - first - 2) / 2 + 1)).reverse).foldl
      (fun l parent => adjustHeap comp first parent (last - first) l) l

/-- `__sort_heap(first, last)`: each `__pop_heap` swaps the root to the end and re-adjusts. -/
def sortHeap (first : Nat) : Nat → List α → Nat → List α
  | 0, l, _ => l
  | fuel + 1, l, last =>
    if 1 < last - first then
      sortHeap first fuel (adjustHeap comp first 0 (last - 1 - first) (swapAt l (last - 1) first))
        (last - 1)
    else l

/-- `__partial_sort(first, last, last)`: `__heap_select` builds the heap, `__sort_heap` sorts it. -/
def partialSort (first last : Nat) (l : List α) : List α :=
  sortHeap comp first l.length (makeHeap comp first last l) last

/-! ## Introsort -/

/-- `__introsort_loop(first, last, depth_limit)`. -/
def introsortLoop : Nat → List α → Nat → Nat → Nat → List α
  | 0, l, _, _, _ => l
  | fuel + 1, l, first, last, depthLimit =>
    if 16 < last - first then
      if depthLimit = 0 then partialSort comp first last l
      else
        let (l, cut) := unguardedPartitionPivot comp l first last
        let l := introsortLoop fuel l cut last (depthLimit - 1)
        introsortLoop fuel l first cut (depthLimit - 1)
    else l

/-- `__unguarded_linear_insert(last)`. -/
def unguardedLinearInsert : Nat → List α → Nat → List α
  | 0, l, _ => l
  | fuel + 1, l, last =>
    if compAt comp l last (last - 1) then
      unguardedLinearInsert fuel (swapAt l last (last - 1)) (last - 1)
    else l

/-- `std::move_backward(first, i, i + 1)` followed by `*first = val`: the element at `i` moves to
`first`. -/
def moveToFront (first : Nat) : Nat → List α → Nat → List α
  | 0, l, _ => l
  | fuel + 1, l, i => if first < i then moveToFront first fuel (swapAt l i (i - 1)) (i - 1) else l

/-- The loop of `__insertion_sort(first, last)` from position `i`. -/
def insertionSort (first last : Nat) : Nat → List α → Nat → List α
  | 0, l, _ => l
  | fuel + 1, l, i =>
    if i < last then
      let l :=
        if compAt comp l i first then moveToFront first l.length l i
        else unguardedLinearInsert comp l.length l i
      insertionSort first last fuel l (i + 1)
    else l

/-- `__unguarded_insertion_sort(first, last)` from position `i`. -/
def unguardedInsertionSort (last : Nat) : Nat → List α → Nat → List α
  | 0, l, _ => l
  | fuel + 1, l, i =>
    if i < last then unguardedInsertionSort last fuel (unguardedLinearInsert comp l.length l i) (i + 1)
    else l

/-- `__final_insertion_sort(first, last)`. -/
def finalInsertionSort (first last : Nat) (l : List α) : List α :=
  if 16 < last - first then
    unguardedInsertionSort comp last l.length
      (insertionSort comp first (first + 16) l.length l (first + 1)) (first + 16)
  else insertionSort comp first last l.length l (first + 1)

end StdSort

/-- The requirement of `std::sort` on its comparator over the elements it sorts: `comp` is a
strict weak order, irreflexive and transitive, and so is incomparability. -/
def StrictWeakOrderOn {α : Type} (comp : α → α → Bool) (l : List α) : Prop :=
  (∀ a ∈ l, comp a a = false) ∧
    (∀ a ∈ l, ∀ b ∈ l, ∀ c ∈ l, comp a b = true → comp b c = true → comp a c = true) ∧
    ∀ a ∈ l, ∀ b ∈ l, ∀ c ∈ l, comp a b = false → comp b a = false →
      comp b c = false → comp c b = false → comp a c = false ∧ comp c a = false

instance {α : Type} (comp : α → α → Bool) (l : List α) : Decidable (StrictWeakOrderOn comp l) :=
  inferInstanceAs (Decidable (_ ∧ _ ∧ _))

open StdSort in
/-- `std::sort(v.begin(), v.end(), comp)`, which `absl::c_sort(v, comp)` calls. -/
def stdSort {α : Type} (comp : α → α → Bool) (l : List α) : List α :=
  if l.length = 0 then l
  else
    finalInsertionSort comp 0 l.length
      (introsortLoop comp (l.length + 1) l 0 l.length (2 * lg l.length))


/-! ## Permutation -/

namespace StdSort

variable {α : Type} (comp : α → α → Bool)

theorem swapAt_perm (l : List α) (i j : Nat) : (swapAt l i j).Perm l := by
  unfold swapAt
  rcases hi : l[i]? with _ | a
  · simp
  rcases hj : l[j]? with _ | b
  · simp
  obtain ⟨hi', rfl⟩ := List.getElem?_eq_some_iff.mp hi
  obtain ⟨hj', rfl⟩ := List.getElem?_eq_some_iff.mp hj
  have key : (l.set i l[j]).set j l[i] =
      List.ofFn (l.get ∘ Equiv.swap ⟨i, hi'⟩ ⟨j, hj'⟩) := by
    apply List.ext_getElem (by simp)
    intro k hk _
    simp only [List.getElem_set, List.getElem_ofFn, Function.comp_apply, List.get_eq_getElem]
    by_cases hkj : j = k
    · subst hkj; simp [Equiv.swap_apply_right]
    · by_cases hki : i = k
      · subst hki; simp [hkj, Equiv.swap_apply_left]
      · rw [if_neg hkj, if_neg hki, Equiv.swap_apply_of_ne_of_ne] <;> simp [Fin.ext_iff] <;> omega
  simp only [key]
  exact (Equiv.Perm.ofFn_comp_perm _ _).trans (by simp)

theorem moveMedianToFirst_perm (l : List α) (result a b c : Nat) :
    (moveMedianToFirst comp l result a b c).Perm l := by
  have hswap := swapAt_perm l result
  unfold moveMedianToFirst
  split <;> split <;> (try split) <;> apply hswap

theorem unguardedPartition_perm (pivot : Nat) :
    ∀ fuel (l : List α) first last, (unguardedPartition comp pivot fuel l first last).1.Perm l
  | 0, _, _, _ => .refl _
  | fuel + 1, l, first, last => by
    unfold unguardedPartition
    dsimp only
    split
    · exact (unguardedPartition_perm pivot fuel _ _ _).trans (swapAt_perm _ _ _)
    · exact .refl _

theorem unguardedPartitionPivot_perm (l : List α) (first last : Nat) :
    (unguardedPartitionPivot comp l first last).1.Perm l :=
  (unguardedPartition_perm comp _ _ _ _ _).trans (moveMedianToFirst_perm comp _ _ _ _ _)

theorem pushHeap_perm (first topIndex : Nat) :
    ∀ fuel (l : List α) holeIndex, (pushHeap comp first topIndex fuel l holeIndex).Perm l
  | 0, _, _ => .refl _
  | fuel + 1, l, holeIndex => by
    unfold pushHeap
    dsimp only
    split
    · exact (pushHeap_perm first topIndex fuel _ _).trans (swapAt_perm _ _ _)
    · exact .refl _

theorem siftDown_perm (first len : Nat) :
    ∀ fuel (l : List α) holeIndex, (siftDown comp first len fuel l holeIndex).1.Perm l
  | 0, _, _ => .refl _
  | fuel + 1, l, holeIndex => by
    unfold siftDown
    dsimp only
    split
    · exact (siftDown_perm first len fuel _ _).trans (swapAt_perm _ _ _)
    · exact .refl _

theorem adjustHeap_perm (first holeIndex len : Nat) (l : List α) :
    (adjustHeap comp first holeIndex len l).Perm l := by
  unfold adjustHeap
  have hs := siftDown_perm comp first len l.length l holeIndex
  generalize siftDown comp first len l.length l holeIndex = s at hs
  obtain ⟨l₁, hole⟩ := s
  dsimp only
  split
  · exact (pushHeap_perm comp _ _ _ _ _).trans ((swapAt_perm _ _ _).trans hs)
  · exact (pushHeap_perm comp _ _ _ _ _).trans hs

theorem makeHeap_perm (first last : Nat) (l : List α) : (makeHeap comp first last l).Perm l := by
  unfold makeHeap
  split
  · exact .refl _
  · generalize (List.range ((last - first - 2) / 2 + 1)).reverse = parents
    induction parents generalizing l with
    | nil => exact .refl _
    | cons parent parents ih => exact (ih _).trans (adjustHeap_perm comp _ _ _ _)

theorem sortHeap_perm (first : Nat) :
    ∀ fuel (l : List α) last, (sortHeap comp first fuel l last).Perm l
  | 0, _, _ => .refl _
  | fuel + 1, l, last => by
    unfold sortHeap
    split
    · exact (sortHeap_perm first fuel _ _).trans
        ((adjustHeap_perm comp _ _ _ _).trans (swapAt_perm _ _ _))
    · exact .refl _

theorem partialSort_perm (first last : Nat) (l : List α) : (partialSort comp first last l).Perm l :=
  (sortHeap_perm comp _ _ _ _).trans (makeHeap_perm comp _ _ _)

theorem introsortLoop_perm : ∀ fuel (l : List α) first last depthLimit,
    (introsortLoop comp fuel l first last depthLimit).Perm l
  | 0, _, _, _, _ => .refl _
  | fuel + 1, l, first, last, depthLimit => by
    unfold introsortLoop
    dsimp only
    split
    · split
      · exact partialSort_perm comp _ _ _
      · have hp := unguardedPartitionPivot_perm comp l first last
        generalize unguardedPartitionPivot comp l first last = p at hp
        obtain ⟨l₁, cut⟩ := p
        exact (introsortLoop_perm fuel _ _ _ _).trans ((introsortLoop_perm fuel _ _ _ _).trans hp)
    · exact .refl _

theorem unguardedLinearInsert_perm : ∀ fuel (l : List α) last,
    (unguardedLinearInsert comp fuel l last).Perm l
  | 0, _, _ => .refl _
  | fuel + 1, l, last => by
    unfold unguardedLinearInsert
    split
    · exact (unguardedLinearInsert_perm fuel _ _).trans (swapAt_perm _ _ _)
    · exact .refl _

theorem moveToFront_perm (first : Nat) : ∀ fuel (l : List α) i, (moveToFront first fuel l i).Perm l
  | 0, _, _ => .refl _
  | fuel + 1, l, i => by
    unfold moveToFront
    split
    · exact (moveToFront_perm first fuel _ _).trans (swapAt_perm _ _ _)
    · exact .refl _

theorem insertionSort_perm (first last : Nat) : ∀ fuel (l : List α) i,
    (insertionSort comp first last fuel l i).Perm l
  | 0, _, _ => .refl _
  | fuel + 1, l, i => by
    unfold insertionSort
    dsimp only
    split
    · refine (insertionSort_perm first last fuel _ _).trans ?_
      split
      · exact moveToFront_perm _ _ _ _
      · exact unguardedLinearInsert_perm comp _ _ _
    · exact .refl _

theorem unguardedInsertionSort_perm (last : Nat) : ∀ fuel (l : List α) i,
    (unguardedInsertionSort comp last fuel l i).Perm l
  | 0, _, _ => .refl _
  | fuel + 1, l, i => by
    unfold unguardedInsertionSort
    split
    · exact (unguardedInsertionSort_perm last fuel _ _).trans (unguardedLinearInsert_perm comp _ _ _)
    · exact .refl _

theorem finalInsertionSort_perm (first last : Nat) (l : List α) :
    (finalInsertionSort comp first last l).Perm l := by
  unfold finalInsertionSort
  split
  · exact (unguardedInsertionSort_perm comp _ _ _ _).trans (insertionSort_perm comp _ _ _ _ _)
  · exact insertionSort_perm comp _ _ _ _ _

end StdSort

/-- `std::sort` rearranges the vector: whatever the comparator, it returns a permutation. -/
theorem stdSort_perm {α : Type} (comp : α → α → Bool) (l : List α) : (stdSort comp l).Perm l := by
  unfold stdSort
  split
  · exact .refl _
  · exact (StdSort.finalInsertionSort_perm comp _ _ _).trans (StdSort.introsortLoop_perm comp _ _ _ _ _)


/-! ## Small vectors

On at most `_S_threshold` elements `std::sort` is `__insertion_sort` alone. `insertSorted` is its
step on the sorted prefix, and `insertReversed` the unguarded walk, over the prefix reversed. -/

namespace StdSort

variable {α : Type} (comp : α → α → Bool)

/-- `__unguarded_linear_insert` on the sorted prefix, kept reversed: the new element moves past
every element it is `comp`-before. -/
def insertReversed (x : α) : List α → List α
  | [] => [x]
  | y :: ys => if comp x y then y :: insertReversed x ys else x :: y :: ys

/-- One step of `__insertion_sort`: an element `comp`-before the first moves to the front,
any other one is inserted unguarded. -/
def insertSorted (sorted : List α) (x : α) : List α :=
  match sorted with
  | [] => [x]
  | first :: _ => if comp x first then x :: sorted else (insertReversed comp x sorted.reverse).reverse

theorem compAt_append_pair (q rest : List α) (y x : α) :
    compAt comp (q ++ y :: x :: rest) (q.length + 1) q.length = comp x y := by
  rw [compAt, List.getElem?_append_right (Nat.le_succ _), List.getElem?_append_right (le_refl _)]
  simp

theorem swapAt_append_pair (q rest : List α) (y x : α) :
    swapAt (q ++ y :: x :: rest) (q.length + 1) q.length = q ++ x :: y :: rest := by
  rw [swapAt, List.getElem?_append_right (Nat.le_succ _), List.getElem?_append_right (le_refl _)]
  simp [List.set_append_right]

/-- The walk of `__unguarded_linear_insert` over the sorted prefix, for an element that is not
before itself. -/
theorem unguardedLinearInsert_reverse_append {x : α} (hx : comp x x = false) (rest : List α) :
    ∀ (rp : List α) fuel, rp.length ≤ fuel →
      unguardedLinearInsert comp fuel (rp.reverse ++ x :: rest) rp.length =
        (insertReversed comp x rp).reverse ++ rest
  | [], 0, _ => rfl
  | [], fuel + 1, _ => by simp [unguardedLinearInsert, compAt, hx, insertReversed]
  | y :: rq, fuel + 1, h => by
    have hq := compAt_append_pair comp rq.reverse rest y x
    have hs := swapAt_append_pair rq.reverse rest y x
    simp only [List.length_reverse] at hq hs
    simp only [List.reverse_cons, List.append_assoc, List.singleton_append, List.length_cons,
      unguardedLinearInsert, hq, Nat.add_sub_cancel, insertReversed]
    split
    · rw [hs, unguardedLinearInsert_reverse_append hx (y :: rest) rq fuel (by simp at h; omega)]
      simp
    · simp

theorem moveToFront_eq (x : α) (rest : List α) :
    ∀ (rp : List α) fuel, rp.length ≤ fuel →
      moveToFront 0 fuel (rp.reverse ++ x :: rest) rp.length = x :: rp.reverse ++ rest
  | [], 0, _ => rfl
  | [], fuel + 1, _ => by simp [moveToFront]
  | y :: rq, fuel + 1, h => by
    have hs := swapAt_append_pair rq.reverse rest y x
    simp only [List.length_reverse] at hs
    simp only [List.reverse_cons, List.append_assoc, List.singleton_append, List.length_cons,
      moveToFront, Nat.zero_lt_succ, if_true, Nat.add_sub_cancel, hs]
    rw [moveToFront_eq x (y :: rest) rq fuel (by simp at h; omega)]
    simp

theorem length_insertReversed (x : α) (rp : List α) :
    (insertReversed comp x rp).length = rp.length + 1 := by
  induction rp with
  | nil => rfl
  | cons y ys ih => unfold insertReversed; split <;> simp [ih]

/-- `__insertion_sort` up to `last`: each element is inserted into the sorted prefix by
`insertSorted`, and what lies after `last` is left alone. -/
theorem insertionSort_append :
    ∀ fuel (sorted rest tail : List α) last, sorted ≠ [] → last = sorted.length + rest.length →
      rest.length ≤ fuel → (∀ a ∈ rest, comp a a = false) →
      insertionSort comp 0 last fuel (sorted ++ rest ++ tail) sorted.length =
        rest.foldl (insertSorted comp) sorted ++ tail
  | fuel, sorted, [], tail, last, _, hlast, _, _ => by
    subst hlast
    cases fuel <;> simp [insertionSort]
  | fuel + 1, first :: sorted, x :: rest, tail, last, _, hlast, hfuel, hirr => by
    have hguard : compAt comp ((first :: sorted) ++ x :: rest ++ tail) (first :: sorted).length 0 =
        comp x first := by
      rw [compAt, List.append_assoc, List.getElem?_append_right (le_refl _)]
      simp
    have hlist : (first :: sorted) ++ x :: rest ++ tail =
        (first :: sorted).reverse.reverse ++ x :: (rest ++ tail) := by simp
    rw [insertionSort, if_pos (by simp [hlast]), hguard, List.foldl_cons, insertSorted]
    have hrest : rest.length ≤ fuel := by simp at hfuel; omega
    have hirr' : ∀ a ∈ rest, comp a a = false := fun a ha => hirr a (List.mem_cons_of_mem x ha)
    split
    · have h := moveToFront_eq x (rest ++ tail) (first :: sorted).reverse
        ((first :: sorted) ++ x :: rest ++ tail).length (by simp)
      rw [List.length_reverse, ← hlist] at h
      dsimp only
      rw [h, List.reverse_reverse, ← List.append_assoc]
      exact insertionSort_append fuel (x :: first :: sorted) rest tail last (by simp)
        (by simp [hlast]; omega) hrest hirr'
    · have h := unguardedLinearInsert_reverse_append comp (hirr x (List.mem_cons_self x rest))
        (rest ++ tail) (first :: sorted).reverse ((first :: sorted) ++ x :: rest ++ tail).length
        (by simp)
      rw [List.length_reverse, ← hlist] at h
      have hlen : (insertReversed comp x (first :: sorted).reverse).reverse.length =
          (first :: sorted).length + 1 := by simp [length_insertReversed]
      rw [h, ← hlen, ← List.append_assoc]
      exact insertionSort_append fuel _ rest tail last (List.ne_nil_of_length_pos (by omega))
        (by simp only [hlen, hlast, List.length_cons]; omega) hrest hirr'

theorem insertReversed_perm (x : α) (rp : List α) : (insertReversed comp x rp).Perm (x :: rp) := by
  induction rp with
  | nil => exact .refl _
  | cons y ys ih =>
    unfold insertReversed
    split
    · exact (ih.cons y).trans (.swap x y ys)
    · exact .refl _

/-- The walk of an unguarded insertion stops at an element it is not `comp`-before. -/
theorem insertReversed_append_singleton (x f : α) (hf : comp x f = false) (rp : List α) :
    insertReversed comp x (rp ++ [f]) = insertReversed comp x rp ++ [f] := by
  induction rp with
  | nil => simp [insertReversed, hf]
  | cons y ys ih =>
    simp only [List.cons_append, insertReversed]
    split <;> simp [ih]

/-- Nothing after the first element of the sorted prefix is `comp`-before it. -/
def FirstIsTop : List α → Prop
  | [] => True
  | first :: rest => ∀ y ∈ rest, comp y first = false

theorem insertSorted_cons (first x : α) (rest : List α) :
    insertSorted comp (first :: rest) x =
      if comp x first then x :: first :: rest
      else first :: (insertReversed comp x rest.reverse).reverse := by
  show (if comp x first then _ else _) = _
  split
  · rfl
  · next h =>
    rw [List.reverse_cons, insertReversed_append_singleton comp x first (by simpa using h)]
    simp

theorem firstIsTop_insertSorted (hirr : ∀ a, comp a a = false)
    (hneg : ∀ x y z, comp x z = true → comp y z = false → comp y x = false)
    (s : List α) (hs : FirstIsTop comp s) (x : α) : FirstIsTop comp (insertSorted comp s x) := by
  cases s with
  | nil => simp [insertSorted, FirstIsTop]
  | cons first rest =>
    rw [insertSorted_cons]
    split
    · next h =>
      simp only [FirstIsTop, List.mem_cons, forall_eq_or_imp]
      exact ⟨hneg x first first h (hirr first), fun y hy => hneg x y first h (hs y hy)⟩
    · next h =>
      intro y hy
      rcases (insertReversed_perm comp x rest.reverse).mem_iff.mp (List.mem_reverse.mp hy)
        with _ | ⟨_, hy⟩
      · simpa using h
      · exact hs y (List.mem_reverse.mp hy)

/-! ## Stability

Insertion sort keeps the order of the elements of a class `p` whose members `comp` never orders
among themselves and orders alike against everything else, for every irreflexive comparator with
`comp x z`, `comp y z = false` giving `comp y x = false`. No strict weak order is needed. -/

section Stability

variable (p : α → Bool)

theorem filter_insertReversed (hclass : ∀ x y, p x → p y → comp x y = false) (x : α)
    (rp : List α) : (insertReversed comp x rp).filter p = (x :: rp).filter p := by
  induction rp with
  | nil => rfl
  | cons y ys ih =>
    unfold insertReversed
    split
    · next hxy =>
      by_cases hx : p x <;> by_cases hy : p y
      · simp [hclass x y hx hy] at hxy
      all_goals simp_all [List.filter_cons]
    · rfl

theorem filter_insertSorted (hirr : ∀ a, comp a a = false)
    (hclass : ∀ x y, p x → p y → comp x y = false)
    (hsame : ∀ x y z, p x → p y → comp x z = comp y z)
    (s : List α) (hs : FirstIsTop comp s) (x : α) :
    (insertSorted comp s x).filter p = (s ++ [x]).filter p := by
  cases s with
  | nil => rfl
  | cons first rest =>
    rw [insertSorted_cons]
    split
    · next h =>
      by_cases hx : p x
      · have hnone : (first :: rest).filter p = [] := by
          refine List.filter_eq_nil_iff.mpr fun y hy hpy => ?_
          have hyx : comp y first = true := (hsame y x first hpy hx).trans h
          rcases List.mem_cons.mp hy with rfl | hy
          · simp [hirr] at hyx
          · simp [hs y hy] at hyx
        rw [List.filter_append, List.filter_cons_of_pos hx, hnone]
        simp [hx]
      · rw [List.filter_append, List.filter_cons_of_neg (by simpa using hx)]
        simp [hx]
    · rw [List.filter_cons, List.filter_reverse, filter_insertReversed comp p hclass,
        List.filter_append, List.filter_cons]
      by_cases hf : p first <;> by_cases hx : p x <;> simp [hf, hx, List.filter_reverse]

theorem filter_foldl_insertSorted (hirr : ∀ a, comp a a = false)
    (hclass : ∀ x y, p x → p y → comp x y = false)
    (hsame : ∀ x y z, p x → p y → comp x z = comp y z)
    (hneg : ∀ x y z, comp x z = true → comp y z = false → comp y x = false) :
    ∀ (l s : List α), FirstIsTop comp s →
      (l.foldl (insertSorted comp) s).filter p = (s ++ l).filter p
  | [], s, _ => by simp
  | x :: l, s, hs => by
    rw [List.foldl_cons, filter_foldl_insertSorted hirr hclass hsame hneg l _
      (firstIsTop_insertSorted comp hirr hneg s hs x), List.filter_append,
      filter_insertSorted comp p hirr hclass hsame s hs x, ← List.filter_append]
    simp

end Stability

end StdSort

open StdSort in
/-- A vector of at most `_S_threshold = 16` elements is insertion sorted. -/
theorem stdSort_eq_foldl {α : Type} (comp : α → α → Bool) (hirr : ∀ a, comp a a = false)
    (l : List α) (hl : l.length ≤ 16) : stdSort comp l = l.foldl (insertSorted comp) [] := by
  cases l with
  | nil => rfl
  | cons a t =>
    have hloop : ∀ depthLimit, introsortLoop comp (t.length + 2) (a :: t) 0 (t.length + 1)
        depthLimit = a :: t := by
      intro depthLimit
      rw [introsortLoop, if_neg (by simp at hl; omega)]
    simp only [stdSort, List.length_cons, Nat.add_one_ne_zero, if_false, hloop, finalInsertionSort]
    rw [if_neg (by simp at hl; omega)]
    simpa only [List.append_nil] using
      insertionSort_append comp _ [a] t [] _ (by simp) (by simp; omega) (by simp) fun x _ => hirr x

/-- On at most 16 elements `std::sort` is stable: the members of a class that the comparator never
orders among themselves, and orders alike against the rest, keep their order. -/
theorem stdSort_filter_of_length_le {α : Type} (comp : α → α → Bool) (p : α → Bool)
    (hirr : ∀ a, comp a a = false) (hclass : ∀ x y, p x → p y → comp x y = false)
    (hsame : ∀ x y z, p x → p y → comp x z = comp y z)
    (hneg : ∀ x y z, comp x z = true → comp y z = false → comp y x = false)
    (l : List α) (hl : l.length ≤ 16) : (stdSort comp l).filter p = l.filter p := by
  rw [stdSort_eq_foldl comp hirr l hl,
    StdSort.filter_foldl_insertSorted comp p hirr hclass hsame hneg l [] trivial]
  simp

end Aviary
