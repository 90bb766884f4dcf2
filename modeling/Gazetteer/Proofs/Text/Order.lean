import Gazetteer.Text.Order

/-!
# The order of texts is an order

Character lists are compared lexicographically by code points, and so texts have an oriented and
transitive order in which only equal texts tie.
-/

namespace Gazetteer

open Std

theorem transCmp_on {α β : Type} (cmp : β → β → Ordering) [TransCmp cmp] (f : α → β) :
    TransCmp fun a b => cmp (f a) (f b) where
  eq_swap := OrientedCmp.eq_swap
  isLE_trans := TransCmp.isLE_trans

namespace Text

/-- Character lists are compared lexicographically by code point, in the terms of the standard
library, whose instances then apply. -/
theorem compareChars_eq_compareLex : compareChars = List.compareLex (compareOn Char.toNat) := by
  funext as bs
  fun_induction compareChars as bs with
  | case1 => rfl
  | case2 b bs => rfl
  | case3 a as => rfl
  | case4 a as b bs hlt =>
    simp [List.compareLex_cons_cons, compareOn, compare, compareOfLessAndEq, hlt]
  | case5 a as b bs hle hlt =>
    have hne : a.toNat ≠ b.toNat := by omega
    simp [List.compareLex_cons_cons, compareOn, compare, compareOfLessAndEq, hle, hne]
  | case6 a as b bs hle hge ih =>
    have heq : a.toNat = b.toNat := by omega
    simp [List.compareLex_cons_cons, compareOn, compare, compareOfLessAndEq, heq, ih]

instance : TransCmp compareChars := by
  rw [compareChars_eq_compareLex]
  infer_instance

instance : TransCmp compareText :=
  transCmp_on compareChars String.toList

/-- Characters with one code point are the same character. -/
instance lawfulEqCmp_compareOn_toNat : LawfulEqCmp (compareOn Char.toNat) where
  eq_of_compare h := Char.toNat_inj.mp (@LawfulEqCmp.eq_of_compare Nat compare _ _ _ h)

instance : LawfulEqCmp compareChars := by
  rw [compareChars_eq_compareLex]
  infer_instance

/-- **Only equal texts tie**, so that a list sorted by text is settled by its members. -/
theorem eq_of_compareText {a b : String} (h : compareText a b = .eq) : a = b :=
  String.toList_inj.mp (LawfulEqCmp.eq_of_compare h)

end Text

end Gazetteer
