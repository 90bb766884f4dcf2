import Gazetteer.Proofs.Hit.Union

/-!
# Merging again

A merged list may be merged again, with nothing, with itself, or with any hits that have gone into
it: **it stays as it is** (`merge_absorbs_merged`). Scores may be anything for that. What is no
number neither exceeds nor is exceeded, so that of one identity the first hit may stay although
another has a number for its score, and both zeros are as good as each other; but no hit that has
gone into a merge exceeds the one that stayed.

The law is one of all merges by a key under a strict order (`Merging.Lawful.merge_merge`). Hits are
one case of it. Another are hits scored by **any** pattern of 32 bits, of which many are no number,
and these also rank in places of their own.
-/

namespace Gazetteer.Hit

open Std

/-! ## Scores as patterns -/

/-- A hit behind the pattern of 32 bits that scores it, whatever its own score. -/
abbrev Patterned := UInt32 × Hit

/-- A hit behind the pattern of its score. -/
def patterned (hit : Hit) : Patterned :=
  (hit.score.toBits, hit)

/-- Patterned hits are merged as hits are, by the two orders of all patterns. -/
def patternMerging : Merging Patterned Identity where
  key entry := entry.2.identity
  beats new seen := Score.exceedsPatterns new.1 seen.1
  before a b := Score.comparePatterns b.1 a.1 != .gt

/-- The orders of all patterns are strict weak orders, so merging by them has the laws of a lawful
merge. -/
theorem lawful_patternMerging : patternMerging.Lawful where
  beats_self entry := Score.exceedsPatterns_self entry.1
  beats_trans _ _ _ := Score.exceedsPatterns_trans
  before_trans a b c hab hbc := by
    simp only [patternMerging, bne_iff_ne, ne_eq, ← Ordering.isLE_iff_ne_gt] at hab hbc ⊢
    exact TransCmp.isLE_trans hbc hab
  before_total a b := by
    have htotal := @isLE_total _ Score.comparePatterns _ b.1 a.1
    simpa only [patternMerging, Bool.or_eq_true, bne_iff_ne, ne_eq,
      ← Ordering.isLE_iff_ne_gt] using htotal

/-- **Hits are merged as their patterns are.** A score that is no number has many patterns, but hits
are compared by what all these have in common, so that looking at a pattern decides nothing else. -/
theorem map_patterned_merge (structured suggested : List Hit) :
    (merge structured suggested).map patterned =
      patternMerging.merge (structured.map patterned) (suggested.map patterned) := by
  rw [merge_eq_merging]
  refine Merging.map_merge (m := merging) (n := patternMerging) (f := patterned)
    (fun _ => rfl) (fun a b => ?_) (fun a b => ?_) structured suggested
  · exact (Score.exceeds_eq_exceedsPatterns a.score b.score).symm
  · simp only [merging, patternMerging, patterned, ranksBefore,
      Score.compareTotal_eq_comparePatterns]

/-! ## Hits -/

/-- The merge that runs is lawful too: no score exceeds itself or what exceeds it, and exceeding is
passed on, even where some of the scores are no numbers. -/
theorem lawful_merging : merging.Lawful where
  beats_self hit := Score.exceeds_self hit.score
  beats_trans a b c hab hbc := by
    simp only [merging, Score.exceeds_eq_exceedsPatterns] at hab hbc ⊢
    exact Score.exceedsPatterns_trans hab hbc
  before_trans := ranksBefore_trans
  before_total := ranksBefore_total

/-- **A merged list absorbs hits that it was merged from**, and its own, in whatever order and
however often; so merging it with nothing or with itself leaves it as it is. The same holds of hits
scored by any patterns of 32 bits, of which hits are a part.

The hits of a merged list have identities of their own, and each is exceeded by none of its identity
that went in. So absorbing any of these replaces nothing and adds nothing, and sorting what is
sorted leaves it as it is. Scores that are no numbers need no exception. -/
theorem merge_absorbs_merged (structured suggested : List Hit) :
    (∀ more, (∀ hit ∈ more, hit ∈ merge structured suggested ∨ hit ∈ structured ∨ hit ∈ suggested) →
      merge (merge structured suggested) more = merge structured suggested) ∧
    merge (merge structured suggested) [] = merge structured suggested ∧
    merge (merge structured suggested) (merge structured suggested) = merge structured suggested ∧
    (merge structured suggested).map patterned =
      patternMerging.merge (structured.map patterned) (suggested.map patterned) ∧
    ∀ first second more : List Patterned,
      (∀ entry ∈ more, entry ∈ patternMerging.merge first second ∨ entry ∈ first ∨ entry ∈ second) →
        patternMerging.merge (patternMerging.merge first second) more =
          patternMerging.merge first second := by
  have habsorbs :
    ∀ more, (∀ hit ∈ more, hit ∈ merge structured suggested ∨ hit ∈ structured ∨ hit ∈ suggested) →
      merge (merge structured suggested) more = merge structured suggested := by
    intro more hmore
    simp only [merge_eq_merging] at hmore ⊢
    exact lawful_merging.merge_merge hmore
  refine ⟨habsorbs, habsorbs [] (List.forall_mem_nil _), habsorbs _ fun hit hhit => Or.inl hhit,
    map_patterned_merge structured suggested, fun first second more hmore => ?_⟩
  exact lawful_patternMerging.merge_merge hmore

/-- One address with a score that is no number before a better one, another with the zeros of either
sign: merged once more with all of them in another order, the list stays. -/
theorem merge_absorbs_merged_edges :
    merge (merge [suggestion (some "a") "1 a" (Float32.ofBits 0x7FC00000),
      suggestion (some "b") "2 b" 0]
        [suggestion (some "b") "2 b" (Float32.ofBits 0x80000000), suggestion (some "a") "1 a" 5])
      [suggestion (some "a") "1 a" 5, suggestion (some "b") "2 b" (Float32.ofBits 0x80000000),
        suggestion (some "a") "1 a" (Float32.ofBits 0x7FC00000), suggestion (some "a") "1 a" 5] =
    merge [suggestion (some "a") "1 a" (Float32.ofBits 0x7FC00000), suggestion (some "b") "2 b" 0]
      [suggestion (some "b") "2 b" (Float32.ofBits 0x80000000), suggestion (some "a") "1 a" 5] :=
  (merge_absorbs_merged _ _).1 _ (by simp)

end Gazetteer.Hit
