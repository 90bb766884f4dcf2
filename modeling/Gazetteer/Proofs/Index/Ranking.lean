import Gazetteer.Index.Ranking
import Gazetteer.Proofs.Score.Order
import Gazetteer.Proofs.Selection
import Gazetteer.Proofs.Text.Order
import Mathlib.Data.List.Nodup

/-!
# The order of candidates is an order

Every comparison that ranking is made of is oriented and transitive: of naturals and number keys, of
texts, of scores, and so of candidates **under any sort keys** (`transCmp_compareCandidates`), by
induction on the keys. Ranked lists are therefore sorted, whatever the query asked for. The last
thing compared is the id, so that candidates with ids of their own have one ranked list
(`rank_eq_of_perm`).

None of this depends on what a score is, only on the order of scores being one. It is therefore said
of any scores (`compareScored`), of which candidates are one case and addresses scored by **any**
pattern of 32 bits, every one that is no number included, another (`ranking_lawful`).
-/

namespace Gazetteer

open Std

namespace Index

/-! ## Sort keys -/

/-- Naturals are compared in their usual order, for which the laws are known. -/
theorem compareNat_eq_compare : compareNat = compare := by
  funext a b
  simp only [compareNat, compare, compareOfLessAndEq]
  repeat' split
  all_goals first | rfl | omega

instance : TransCmp compareNat := by
  rw [compareNat_eq_compare]
  infer_instance

instance : TransCmp compareKeys where
  eq_swap {a b} := by
    cases a <;> cases b
    case some.some a b => exact @OrientedCmp.eq_swap _ compareNat _ a b
    all_goals rfl
  isLE_trans {a b c} hab hbc := by
    cases a <;> cases b <;> cases c
    case some.some.some a b c => exact @TransCmp.isLE_trans _ compareNat _ a b c hab hbc
    all_goals simp_all [compareKeys]

instance (field : SortField) : TransCmp (compareField field) := by
  cases field with
  | streetNumber => exact transCmp_on compareKeys fun a : Address => numberKey a.numberFirst
  | flatNumber => exact transCmp_on compareKeys fun a : Address => numberKey a.flatNumber
  | streetName =>
    exact transCmp_on Text.compareText fun a : Address => Text.lowercase a.streetName

instance (key : SortKey) : TransCmp (compareKey key) := by
  obtain ⟨field, direction⟩ := key
  cases direction with
  | ascending => exact inferInstanceAs (TransCmp (compareField field))
  | descending =>
    have hopposite : compareKey ⟨field, .descending⟩ = fun a b => compareField field b a := by
      funext a b
      exact OrientedCmp.eq_swap.symm
    rw [hopposite]
    infer_instance

/-- A key ties what its field ties, in either direction: turning an order around keeps its ties. -/
theorem compareKey_eq_eq_iff {key : SortKey} {a b : Address} :
    compareKey key a b = .eq ↔ compareField key.field a b = .eq := by
  obtain ⟨field, direction⟩ := key
  cases direction with
  | ascending => exact Iff.rfl
  | descending => exact Ordering.swap_eq_eq

/-! ## Under any order of scores -/

/-- **The order of scored addresses** under sort keys, whatever scores are and however they
compare. -/
def compareScored {S : Type} (compareScores : S → S → Ordering) :
    SortSpec → S × Address → S × Address → Ordering
  | [], a, b => (compareScores b.1 a.1).then (Text.compareText a.2.id b.2.id)
  | key :: rest, a, b => (compareKey key a.2 b.2).then (compareScored compareScores rest a b)

/-- Ranking of scored addresses. -/
def rankScored {S : Type} (compareScores : S → S → Ordering) (sort : SortSpec)
    (scored : List (S × Address)) : List (S × Address) :=
  scored.mergeSort fun a b => (compareScored compareScores sort a b).isLE

/-- The order of candidates is that of addresses scored by scores. -/
theorem compareCandidates_eq_compareScored (sort : SortSpec) :
    compareCandidates sort = compareScored Score.compareTotal sort := by
  induction sort with
  | nil => rfl
  | cons key rest ih =>
    funext a b
    rw [compareCandidates, ih, compareScored]

theorem rank_eq_rankScored (sort : SortSpec) : rank sort = rankScored Score.compareTotal sort := by
  funext candidates
  rw [rank, rankScored, compareCandidates_eq_compareScored]

/-- The order of scored addresses looks at scores only to compare them. Scores may therefore be
replaced by anything that compares alike, such as their bits. -/
theorem compareScored_map {S T : Type} {compareS : S → S → Ordering} {compareT : T → T → Ordering}
    {f : S → T} (h : ∀ x y, compareS x y = compareT (f x) (f y)) (sort : SortSpec)
    (a b : S × Address) :
    compareScored compareS sort a b = compareScored compareT sort (f a.1, a.2) (f b.1, b.2) := by
  induction sort with
  | nil => rw [compareScored, compareScored, h]
  | cons key rest ih => rw [compareScored, compareScored, ih]

section

variable {S : Type} {compareScores : S → S → Ordering} [TransCmp compareScores]

instance transCmp_compareScored (sort : SortSpec) :
    TransCmp (compareScored compareScores sort) := by
  induction sort with
  | nil =>
    have : TransCmp fun a b : S × Address => compareScores b.1 a.1 :=
      transCmp_on (fun x y => compareScores y x) Prod.fst
    have : TransCmp fun a b : S × Address => Text.compareText a.2.id b.2.id :=
      transCmp_on Text.compareText fun a : S × Address => a.2.id
    exact inferInstanceAs (TransCmp (compareLex (fun a b : S × Address => compareScores b.1 a.1) _))
  | cons key rest ih =>
    have : TransCmp fun a b : S × Address => compareKey key a.2 b.2 :=
      transCmp_on (compareKey key) Prod.snd
    exact inferInstanceAs (TransCmp
      (compareLex (fun a b : S × Address => compareKey key a.2 b.2)
        (compareScored compareScores rest)))

/-- **What ties** ties by every key, in its score and in its id. -/
theorem compareScored_eq_eq_iff {sort : SortSpec} {a b : S × Address} :
    compareScored compareScores sort a b = .eq ↔
      (∀ key ∈ sort, compareField key.field a.2 b.2 = .eq) ∧
        compareScores a.1 b.1 = .eq ∧ a.2.id = b.2.id := by
  induction sort with
  | nil =>
    have hscores : compareScores b.1 a.1 = .eq ↔ compareScores a.1 b.1 = .eq := OrientedCmp.eq_comm
    have hids : Text.compareText a.2.id b.2.id = .eq ↔ a.2.id = b.2.id :=
      ⟨Text.eq_of_compareText, fun h => h ▸ ReflCmp.compare_self⟩
    rw [compareScored, Ordering.then_eq_eq, hscores, hids]
    simp
  | cons key rest ih =>
    rw [compareScored, Ordering.then_eq_eq, compareKey_eq_eq_iff, ih,
      List.forall_mem_cons, and_assoc]

/-- **Scored addresses with ids of their own rank alike**, in whatever order they come. The order
has no ties among them, and a sorted list without ties is settled by its members. -/
theorem rankScored_eq_of_perm (sort : SortSpec) {scored others : List (S × Address)}
    (hperm : scored.Perm others) (hids : ∀ a ∈ scored, ∀ b ∈ scored, a.2.id = b.2.id → a = b) :
    rankScored compareScores sort scored = rankScored compareScores sort others := by
  apply mergeSort_eq_of_perm hperm
  intro a ha b hb hties
  exact hids a ha b hb (compareScored_eq_eq_iff.mp hties).2.2

end

/-! ## Candidates -/

/-- **The order of candidates is an order** under any sort keys. -/
instance transCmp_compareCandidates (sort : SortSpec) : TransCmp (compareCandidates sort) := by
  rw [compareCandidates_eq_compareScored]
  infer_instance

/-- Candidates that rank alike have scores of one place, whatever the sort keys. -/
theorem totalRank_eq_of_compareCandidates {sort : SortSpec} {a b : Candidate}
    (h : compareCandidates sort a b = .eq) : Score.totalRank a.1 = Score.totalRank b.1 := by
  rw [compareCandidates_eq_compareScored, compareScored_eq_eq_iff] at h
  exact Score.totalRank_eq_of_compareTotal h.2.1

/-- **Candidates with ids of their own rank alike**, in whatever order they come. The last thing
that is compared is the id, so that nothing ties there. -/
theorem rank_eq_of_perm (sort : SortSpec) {candidates others : List Candidate}
    (hperm : candidates.Perm others)
    (hids : ∀ a ∈ candidates, ∀ b ∈ candidates, a.2.id = b.2.id → a = b) :
    rank sort candidates = rank sort others := by
  rw [rank_eq_rankScored]
  exact rankScored_eq_of_perm sort hperm hids

/-! ## Lawful rankings -/

/-- **The laws of a ranking** of scored addresses under sort keys: its comparison is a total
preorder that ties only what every key, the order of scores and the id tie, and a ranked list is the
list in that order, the same one in whatever order addresses with ids of their own come. -/
structure LawfulRanking {S : Type} (compareScores : S → S → Ordering) (sort : SortSpec)
    (order : S × Address → S × Address → Ordering)
    (ranked : List (S × Address) → List (S × Address)) : Prop where
  self : ∀ a, order a a = .eq
  opposite : ∀ a b, order b a = (order a b).swap
  lt_trans : ∀ a b c, order a b = .lt → order b c = .lt → order a c = .lt
  lt_of_lt_of_eq : ∀ a b c, order a b = .lt → order b c = .eq → order a c = .lt
  lt_of_eq_of_lt : ∀ a b c, order a b = .eq → order b c = .lt → order a c = .lt
  eq_trans : ∀ a b c, order a b = .eq → order b c = .eq → order a c = .eq
  eq_iff : ∀ a b, order a b = .eq ↔
    (∀ key ∈ sort, compareField key.field a.2 b.2 = .eq) ∧
      compareScores a.1 b.1 = .eq ∧ a.2.id = b.2.id
  perm : ∀ scored, (ranked scored).Perm scored
  sorted : ∀ scored, (ranked scored).Pairwise fun a b => order a b ≠ .gt
  order_irrelevant : ∀ scored others : List (S × Address),
    (scored.map fun a => a.2.id).Nodup → scored.Perm others → ranked scored = ranked others

/-- Any order of scores makes lawful rankings, under any sort keys. The laws of comparisons are
those of an oriented and transitive one; what ranking adds is that it sorts by it. -/
theorem lawfulRanking_scored {S : Type} (compareScores : S → S → Ordering) [TransCmp compareScores]
    (sort : SortSpec) :
    LawfulRanking compareScores sort (compareScored compareScores sort)
      (rankScored compareScores sort) where
  self _ := ReflCmp.compare_self
  opposite _ _ := OrientedCmp.eq_swap
  lt_trans _ _ _ := TransCmp.lt_trans
  lt_of_lt_of_eq _ _ _ := TransCmp.lt_of_lt_of_eq
  lt_of_eq_of_lt _ _ _ := TransCmp.lt_of_eq_of_lt
  eq_trans _ _ _ := TransCmp.eq_trans
  eq_iff _ _ := compareScored_eq_eq_iff
  perm scored := List.mergeSort_perm scored _
  sorted scored := (pairwise_mergeSort_isLE scored).imp Ordering.isLE_iff_ne_gt.mp
  order_irrelevant _ _ hids hperm :=
    rankScored_eq_of_perm sort hperm fun _ ha _ hb h => List.inj_on_of_nodup_map hids ha hb h

/-- **Ranking is lawful under any sort keys**, of candidates and, by the same order, of addresses
whose scores are any patterns of 32 bits.

The order compares key by key, then by score and then by id, and each of these is an order; that is
all the laws need (`LawfulRanking`). It is said of patterns as well, because a score that is no
number has many patterns, and they rank by these. -/
theorem ranking_lawful (sort : SortSpec) :
    LawfulRanking Score.compareTotal sort (compareCandidates sort) (rank sort) ∧
    (∀ a b, compareCandidates sort a b =
      compareScored Score.comparePatterns sort (a.1.toBits, a.2) (b.1.toBits, b.2)) ∧
    LawfulRanking Score.comparePatterns sort (compareScored Score.comparePatterns sort)
      (rankScored Score.comparePatterns sort) := by
  refine ⟨?_, ?_, lawfulRanking_scored Score.comparePatterns sort⟩
  · rw [compareCandidates_eq_compareScored, rank_eq_rankScored]
    exact lawfulRanking_scored Score.compareTotal sort
  · intro a b
    rw [compareCandidates_eq_compareScored]
    exact compareScored_map Score.compareTotal_eq_comparePatterns sort a b

/-- The greatest street number first, the same key again the other way, then flats. -/
def mixedKeys : SortSpec :=
  [⟨.streetNumber, .descending⟩, ⟨.streetNumber, .ascending⟩, ⟨.flatNumber, .ascending⟩]

/-- Two candidates that the keys tie, scored with the zeros of either sign, and one whose score is
no number and whose street number is none. -/
def edgeCandidates : List Candidate :=
  [(0, { id := "c", numberFirst := "9b" }),
    (Float32.ofBits 0x80000000, { id := "b", numberFirst := "9" }),
    (Float32.ofBits 0x7FC00000, { id := "a", numberFirst := "b9" })]

/-- Keys that contradict each other, zeros of either sign and a score that is no number: ranking
does not depend on the order here either. -/
theorem ranking_lawful_mixedKeys :
    rank mixedKeys edgeCandidates = rank mixedKeys edgeCandidates.reverse :=
  (ranking_lawful mixedKeys).1.order_irrelevant _ _ (by decide) (List.reverse_perm _).symm

end Index

end Gazetteer
