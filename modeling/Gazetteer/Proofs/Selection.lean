/-!
# The first of an order

A stable sort orders a list by a comparison and, among ties, by who came earlier
(`pairwise_mergeSort_ahead`). Its beginning is then a selection that needs no sort to be described:
so many of the list, once each, and **ahead of everything left out** (`firstOf_take`).

What such a sort is can be said without sorting too: the elements in order, and those that tie as
they stood. A list has one such order (`stableSort_iff`). Where only equal elements tie, any
reordering of the list has the same sort (`mergeSort_eq_of_perm`).
-/

namespace Gazetteer

variable {α : Type}

/-- One element goes ahead of another: it may stand before it, and if the other may stand before it
too, it came earlier. -/
def Ahead (le : α → α → Bool) (earlier : α → α → Prop) (a b : α) : Prop :=
  le a b = true ∧ (le b a = true → earlier a b)

/-- What is earlier in a list is so by places. Places tell apart elements that are equal. -/
theorem earlier_of_mem_zipIdx {l : List α} {earlier : α → α → Prop} (h : l.Pairwise earlier)
    {a b : α × Nat} (ha : a ∈ l.zipIdx) (hb : b ∈ l.zipIdx) (hplace : a.2 < b.2) :
    earlier a.1 b.1 := by
  obtain ⟨-, hi, hvalueA⟩ := List.mem_zipIdx (x := a.1) (i := a.2) ha
  obtain ⟨-, hj, hvalueB⟩ := List.mem_zipIdx (x := b.1) (i := b.2) hb
  rw [hvalueA, hvalueB]
  exact List.pairwise_iff_getElem.mp h _ _ _ _ (by omega)

/-- **A stable sort puts ahead what came earlier** among ties. The elements are sorted with their
places, where no two tie, and the places are dropped again. -/
theorem pairwise_mergeSort_ahead {le : α → α → Bool} {earlier : α → α → Prop}
    (trans : ∀ a b c, le a b = true → le b c = true → le a c = true)
    (total : ∀ a b, (le a b || le b a) = true) {l : List α} (h : l.Pairwise earlier) :
    (l.mergeSort le).Pairwise (Ahead le earlier) := by
  rw [← List.mergeSort_zipIdx, List.pairwise_map]
  have hsorted :=
    List.pairwise_mergeSort (List.zipIdxLE_trans trans) (List.zipIdxLE_total total) l.zipIdx
  have hperm := List.mergeSort_perm l.zipIdx (List.zipIdxLE le)
  have hplaces : (l.zipIdx.mergeSort (List.zipIdxLE le)).Pairwise fun a b => a.2 ≠ b.2 := by
    refine List.pairwise_map.mp (((hperm.map Prod.snd).nodup_iff).mpr ?_)
    rw [List.zipIdx_map_snd]
    exact List.nodup_range'
  refine (hsorted.and hplaces).imp_of_mem fun ha hb hab => ?_
  obtain ⟨hle, hne⟩ := hab
  simp only [List.zipIdxLE] at hle
  split at hle
  next hbefore =>
    refine ⟨hbefore, fun hafter => ?_⟩
    simp only [hafter, if_true, decide_eq_true_eq] at hle
    exact earlier_of_mem_zipIdx h (hperm.mem_iff.mp ha) (hperm.mem_iff.mp hb) (by omega)
  · cases hle

/-- **The first of a list under an order**: so many of them, or all where there are fewer, once each
and each ahead of every one left out. -/
structure FirstOf (ahead : α → α → Prop) (count : Nat) (all chosen : List α) : Prop where
  subset : ∀ a ∈ chosen, a ∈ all
  nodup : chosen.Nodup
  length_eq : chosen.length = min count all.length
  ahead : ∀ a ∈ chosen, ∀ b ∈ all, b ∉ chosen → ahead a b

/-- The beginning of a sorted list is the first of the list. Nothing is said of how the list was
sorted, so this does for every sort. -/
theorem firstOf_take {ahead : α → α → Prop} {all sorted : List α} (hperm : sorted.Perm all)
    (hnodup : all.Nodup) (hsorted : sorted.Pairwise ahead) (count : Nat) :
    FirstOf ahead count all (sorted.take count) where
  subset _ h := hperm.mem_iff.mp (List.mem_of_mem_take h)
  nodup := (hperm.nodup_iff.mpr hnodup).sublist (List.take_sublist _ _)
  length_eq := by rw [List.length_take, hperm.length_eq]
  ahead a ha b hb hleft := by
    rw [← List.take_append_drop count sorted] at hsorted
    have hb : b ∈ sorted.take count ++ sorted.drop count := by
      rw [List.take_append_drop]
      exact hperm.mem_iff.mpr hb
    exact (List.pairwise_append.mp hsorted).2.2 a ha b
      ((List.mem_append.mp hb).resolve_left hleft)

/-! ## Stable sorts -/

/-- Two elements tie: each may stand before the other. -/
def ties (le : α → α → Bool) (a b : α) : Bool :=
  le a b && le b a

/-- **A stable sort of a list**: its elements in order, and those that tie as they stood. -/
structure StableSort (le : α → α → Bool) (l sorted : List α) : Prop where
  perm : sorted.Perm l
  pairwise : sorted.Pairwise fun a b => le a b = true
  filter_ties : ∀ a, sorted.filter (ties le a) = l.filter (ties le a)

section

variable {le : α → α → Bool} (trans : ∀ a b c, le a b = true → le b c = true → le a c = true)
  (total : ∀ a b, (le a b || le b a) = true)

include total in
theorem ties_self (a : α) : ties le a a = true := by
  have h := total a a
  rw [Bool.or_self] at h
  rw [ties, h, Bool.and_self]

include trans total in
/-- **Merge sort is a stable sort**: those that tie with one element are in order already, and merge
sort leaves such a sublist as it is. -/
theorem stableSort_mergeSort (l : List α) : StableSort le l (l.mergeSort le) where
  perm := List.mergeSort_perm l le
  pairwise := List.pairwise_mergeSort trans total l
  filter_ties a := by
    have htied : (l.filter (ties le a)).Pairwise fun b c => le b c = true := by
      refine List.Pairwise.imp_of_mem ?_ (List.pairwise_of_forall fun _ _ => trivial)
      intro b c hb hc _
      have hba := (Bool.and_eq_true_iff.mp (List.mem_filter.mp hb).2).2
      have hac := (Bool.and_eq_true_iff.mp (List.mem_filter.mp hc).2).1
      exact trans b a c hba hac
    have hsublist :=
      (List.sublist_mergeSort trans total htied List.filter_sublist).filter (ties le a)
    rw [List.filter_filter, List.filter_congr (fun b _ => Bool.and_self _)] at hsublist
    exact (hsublist.eq_of_length ((List.mergeSort_perm l le).filter _).length_eq.symm).symm

include total in
/-- Lists with the same ties have the same members, since each ties with itself. -/
theorem mem_iff_of_filter_ties {first second : List α}
    (h : ∀ a, first.filter (ties le a) = second.filter (ties le a)) (a : α) :
    a ∈ first ↔ a ∈ second := by
  have ha : a ∈ first.filter (ties le a) ↔ a ∈ second.filter (ties le a) := by rw [h a]
  simpa only [List.mem_filter, ties_self total, and_true] using ha

include total in
/-- **An order and its ties determine a list.** The induction is on both lists: their first elements
tie, and the first of all that tie with them is the same in both. -/
theorem eq_of_filter_ties {first second : List α} (hfirst : first.Pairwise fun a b => le a b = true)
    (hsecond : second.Pairwise fun a b => le a b = true)
    (h : ∀ a, first.filter (ties le a) = second.filter (ties le a)) : first = second := by
  have hmem := mem_iff_of_filter_ties total h
  induction first generalizing second with
  | nil =>
    exact (List.eq_nil_iff_forall_not_mem.mpr fun a ha => List.not_mem_nil ((hmem a).mpr ha)).symm
  | cons a first ih =>
    cases second with
    | nil => exact absurd ((hmem a).mp List.mem_cons_self) List.not_mem_nil
    | cons b second =>
      -- Each head stands before all of its list, and so before the other head: the two tie.
      obtain ⟨hafter, hfirst⟩ := List.pairwise_cons.mp hfirst
      obtain ⟨hbefore, hsecond⟩ := List.pairwise_cons.mp hsecond
      have hself : ∀ c, le c c = true := fun c => by simpa using total c c
      have hab : le a b = true := by
        rcases List.mem_cons.mp ((hmem b).mpr List.mem_cons_self) with heq | hrest
        · exact heq ▸ hself b
        · exact hafter b hrest
      have hba : le b a = true := by
        rcases List.mem_cons.mp ((hmem a).mp List.mem_cons_self) with heq | hrest
        · exact heq ▸ hself a
        · exact hbefore a hrest
      have htie : ties le a b = true := by rw [ties, hab, hba, Bool.and_self]
      have hheads := h a
      rw [List.filter_cons_of_pos (ties_self total a), List.filter_cons_of_pos htie] at hheads
      have hhead : a = b := (List.cons.inj hheads).1
      have hrest : ∀ c, first.filter (ties le c) = second.filter (ties le c) := by
        intro c
        have hc := h c
        rw [← hhead, List.filter_cons, List.filter_cons] at hc
        split at hc
        · exact (List.cons.inj hc).2
        · exact hc
      rw [← hhead, ih hfirst hsecond hrest (mem_iff_of_filter_ties total hrest)]

include trans total in
/-- **A list has one stable sort**, and that is what merge sort gives. A claim that something is
sorted in a stable way determines it. -/
theorem stableSort_iff {l sorted : List α} : StableSort le l sorted ↔ sorted = l.mergeSort le := by
  have hsort := stableSort_mergeSort trans total l
  constructor
  · intro h
    exact eq_of_filter_ties total h.pairwise hsort.pairwise fun a =>
      (h.filter_ties a).trans (hsort.filter_ties a).symm
  · rintro rfl
    exact hsort

end

/-! ## Sorts by a comparison -/

section

open Std

variable {cmp : α → α → Ordering}

theorem isLE_total [OrientedCmp cmp] (a b : α) : ((cmp a b).isLE || (cmp b a).isLE) = true := by
  rw [@OrientedCmp.eq_swap _ cmp _ b a]
  cases cmp a b <;> rfl

/-- A sort by a comparison is in its order. -/
theorem pairwise_mergeSort_isLE [TransCmp cmp] (l : List α) :
    (l.mergeSort fun a b => (cmp a b).isLE).Pairwise fun a b => (cmp a b).isLE = true := by
  apply List.pairwise_mergeSort
  · intro a b c hab hbc
    exact TransCmp.isLE_trans hab hbc
  · exact isLE_total

/-- **A sort forgets how a list was ordered before** where only equal elements tie. -/
theorem mergeSort_eq_of_perm [TransCmp cmp] {first second : List α} (hperm : first.Perm second)
    (hties : ∀ a ∈ first, ∀ b ∈ first, cmp a b = .eq → a = b) :
    first.mergeSort (fun a b => (cmp a b).isLE) = second.mergeSort fun a b => (cmp a b).isLE := by
  apply @List.Perm.eq_of_pairwise α fun a b => (cmp a b).isLE = true
  · intro a b ha hb hab hba
    exact hties a (List.mem_mergeSort.mp ha) b (hperm.mem_iff.mpr (List.mem_mergeSort.mp hb))
      (OrientedCmp.isLE_antisymm hab hba)
  · exact pairwise_mergeSort_isLE first
  · exact pairwise_mergeSort_isLE second
  · exact (List.mergeSort_perm first _).trans (hperm.trans (List.mergeSort_perm second _).symm)

end

end Gazetteer
