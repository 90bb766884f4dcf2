import Gazetteer.Index.Relevance
import Gazetteer.Proofs.Number.Written
import Gazetteer.Proofs.Score.Order

/-!
# Sums of scores

A sum of scores that are at least one is at least one, in whatever order its parts are taken
(`atLeastOne_sumScores`): rounding takes no sum below one, and one that is too great is infinity,
never no number. As long as its parts are naturals of at most 24 binary digits in total the sum is
exact (`sumScores_scoreOfNat`).
-/

namespace Gazetteer

open Float.Model Float.Model.UnpackedFloat Number

namespace Score

/-- A score from one up, or infinity. -/
def AtLeastOne (x : Score) : Prop :=
  ∃ u, FromOne u ∧ x = .ofModel (.pack u)

/-- Scores are added by the model of the logic, on their unpacked forms. All facts about sums of
scores come from facts about that addition. -/
theorem add_ofModel_pack (u v : UnpackedFloat) :
    Float32.ofModel (.pack u) + Float32.ofModel (.pack v) =
      .ofModel
        (.pack (add single (unpack single (pack single u)) (unpack single (pack single v)))) := rfl

theorem atLeastOne_one : AtLeastOne 1 :=
  ⟨.finite .positive 8388608 (-23) (by decide), .finite _ (by decide) (by decide), by decide⟩

theorem atLeastOne_two : AtLeastOne 2 :=
  ⟨.finite .positive 8388608 (-22) (by decide), .finite _ (by decide) (by decide), by decide⟩

/-- **Scores from one up are closed under addition.** Rounding does not take a sum below one, and
infinity is one of them. -/
theorem AtLeastOne.add {x y : Score} (hx : AtLeastOne x) (hy : AtLeastOne y) :
    AtLeastOne (x + y) := by
  obtain ⟨u, hu, rfl⟩ := hx
  obtain ⟨v, hv, rfl⟩ := hy
  exact ⟨_, fromOne_add (fromOne_unpack_pack hu) (fromOne_unpack_pack hv), add_ofModel_pack u v⟩

theorem zero_eq_pack : (0 : Score) = .ofModel (.pack (.zero .positive)) := by
  decide

/-- The zero that a sum begins with adds nothing. -/
theorem AtLeastOne.zero_add {x : Score} (hx : AtLeastOne x) : AtLeastOne (0 + x) := by
  obtain ⟨u, hu, rfl⟩ := hx
  have hread := fromOne_unpack_pack hu
  exact ⟨_, hread, by rw [zero_eq_pack, add_ofModel_pack, unpack_pack_zero, Number.zero_add hread]⟩

/-- Adding one after another stays from one up, in whatever order the scores come. -/
theorem AtLeastOne.foldl_add {rest : List Score} (hrest : ∀ y ∈ rest, AtLeastOne y) {x : Score}
    (hx : AtLeastOne x) : AtLeastOne (rest.foldl (· + ·) x) := by
  induction rest generalizing x with
  | nil => exact hx
  | cons y rest ih =>
    obtain ⟨hy, hrest⟩ := List.forall_mem_cons.mp hrest
    exact ih hrest (hx.add hy)

/-- **A sum of scores from one up is one of them**, in whatever order it is taken. It has to have a
part, for the sum of none is zero. -/
theorem atLeastOne_sumScores {scores : List Score} (hne : scores ≠ [])
    (h : ∀ x ∈ scores, AtLeastOne x) : AtLeastOne (Index.sumScores scores) := by
  match scores with
  | [a] => exact h a List.mem_cons_self
  | [a, b] => exact (h a (by simp)).add (h b (by simp))
  | a :: b :: c :: rest =>
    have hrest : AtLeastOne ((c :: rest).foldl (· + ·) 0) := by
      rw [List.foldl_cons]
      exact AtLeastOne.foldl_add (fun y hy => h y (by simp [hy])) (h c (by simp)).zero_add
    exact ((h a (by simp)).add (h b (by simp))).add hrest

/-! ## Comparisons with one -/

/-- The bits of a score from one up lie between those of one and those of infinity. Comparisons of
such scores are comparisons of their bits. -/
theorem AtLeastOne.bits {x : Score} (hx : AtLeastOne x) :
    0x3F800000 ≤ x.toBits.toNat ∧ x.toBits.toNat ≤ 0x7F800000 := by
  obtain ⟨u, hu, rfl⟩ := hx
  exact toNat_pack_fromOne hu

theorem AtLeastOne.magnitude_eq {x : Score} (hx : AtLeastOne x) : magnitude x = x.toBits.toNat := by
  have := hx.bits
  rw [magnitude]
  omega

theorem AtLeastOne.not_negative {x : Score} (hx : AtLeastOne x) : negative x = false := by
  have := hx.bits
  rw [negative, decide_eq_false_iff_not]
  omega

/-- A score from one up is a number, or infinity, which is one here: it compares with all others. -/
theorem AtLeastOne.ordered {x : Score} (hx : AtLeastOne x) : unordered x = false := by
  have := hx.bits
  rw [unordered, hx.magnitude_eq, decide_eq_false_iff_not]
  omega

/-- The rank of a score from one up is its bits. -/
theorem AtLeastOne.numericRank_eq {x : Score} (hx : AtLeastOne x) :
    numericRank x = x.toBits.toNat := by
  rw [numericRank, hx.not_negative, hx.magnitude_eq]
  rfl

theorem AtLeastOne.totalRank_eq {x : Score} (hx : AtLeastOne x) : totalRank x = x.toBits.toNat := by
  rw [totalRank, hx.not_negative, hx.magnitude_eq]
  rfl

theorem toNat_toBits_one : (1 : Score).toBits.toNat = 0x3F800000 := by
  decide

/-- **One exceeds no score from one up**, so that a completion replaces no structured hit of its
identity. -/
theorem AtLeastOne.one_not_exceeds {x : Score} (hx : AtLeastOne x) : exceeds 1 x = false := by
  have := hx.bits
  rw [exceeds_of_ordered atLeastOne_one.ordered hx.ordered, atLeastOne_one.numericRank_eq,
    hx.numericRank_eq, toNat_toBits_one, decide_eq_false_iff_not]
  omega

/-- Nor does one stand after such a score in the total order, so that completions are not sorted
before structured hits. -/
theorem AtLeastOne.compareTotal_one {x : Score} (hx : AtLeastOne x) : compareTotal 1 x ≠ .gt := by
  have := hx.bits
  rw [compareTotal, atLeastOne_one.totalRank_eq, hx.totalRank_eq, toNat_toBits_one]
  split
  · decide
  · rw [if_neg (by omega)]
    decide

/-- Scores with the same bits are the same, as all patterns that are no number are one score. -/
theorem eq_of_toBits_eq {x y : Score} (h : x.toBits = y.toBits) : x = y := by
  obtain ⟨⟨bits, _⟩⟩ := x
  obtain ⟨⟨bits', _⟩⟩ := y
  obtain rfl : bits = bits' := h
  rfl

/-- A score from one up is one, or exceeds it. -/
theorem AtLeastOne.eq_one_or_exceeds {x : Score} (hx : AtLeastOne x) :
    x = 1 ∨ exceeds x 1 = true := by
  by_cases hbits : x.toBits.toNat = 0x3F800000
  · exact Or.inl (eq_of_toBits_eq (UInt32.toNat_inj.mp (hbits.trans toNat_toBits_one.symm)))
  · have := hx.bits
    refine Or.inr ?_
    rw [exceeds_of_ordered hx.ordered atLeastOne_one.ordered, atLeastOne_one.numericRank_eq,
      hx.numericRank_eq, toNat_toBits_one, decide_eq_true_iff]
    omega

/-! ## Naturals -/

/-- Naturals of at most 24 digits in total are added exactly. -/
theorem scoreOfNat_add {m n : Nat} (h : m + n < 2 ^ 24) :
    Index.scoreOfNat m + Index.scoreOfNat n = Index.scoreOfNat (m + n) := by
  simp only [Index.scoreOfNat]
  rw [singleOfInt_eq_whole h, singleOfInt_eq_whole (n := m) (by omega),
    singleOfInt_eq_whole (n := n) (by omega), add_ofModel_pack, unpack_pack_whole (by omega),
    unpack_pack_whole (by omega), add_whole h]

/-- Naturals are added one after another without rounding as long as their total is within 24
digits. -/
theorem foldl_add_scoreOfNat (rest : List Nat) {n : Nat} (h : n + rest.sum < 2 ^ 24) :
    (rest.map Index.scoreOfNat).foldl (· + ·) (Index.scoreOfNat n) =
      Index.scoreOfNat (n + rest.sum) := by
  induction rest generalizing n with
  | nil => simp
  | cons m rest ih =>
    rw [List.sum_cons] at h ⊢
    rw [List.map_cons, List.foldl_cons, scoreOfNat_add (by omega), ih (by omega), Nat.add_assoc]

/-- **A sum of naturals of at most 24 digits in total is exact.** It does not depend on the order of
its parts then. -/
theorem sumScores_scoreOfNat {parts : List Nat} (h : parts.sum < 2 ^ 24) :
    Index.sumScores (parts.map Index.scoreOfNat) = Index.scoreOfNat parts.sum := by
  have hzero : (0 : Score) = Index.scoreOfNat 0 := by decide
  match parts with
  | [] => exact hzero
  | [a] => simp [Index.sumScores]
  | [a, b] =>
    simp only [List.sum_cons, List.sum_nil, Nat.add_zero] at h ⊢
    exact scoreOfNat_add h
  | a :: b :: c :: rest =>
    simp only [List.sum_cons] at h ⊢
    have hrest := foldl_add_scoreOfNat (c :: rest) (n := 0) (by rw [List.sum_cons]; omega)
    rw [Nat.zero_add, List.sum_cons, ← hzero] at hrest
    rw [List.map_cons, List.map_cons, List.map_cons, Index.sumScores, ← List.map_cons, hrest,
      scoreOfNat_add (by omega), scoreOfNat_add (by omega), Nat.add_assoc]
    nofun

end Score

end Gazetteer
