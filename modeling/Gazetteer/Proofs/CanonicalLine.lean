import Gazetteer.Proofs.NormalLine

/-!
# The normal form is canonical

Which texts are normal forms can be said without the function: **those in lowercase with single
spaces** (`normalLine_eq_self_iff`). The normal form is one of them, whatever the line, and it is
put together from the normal forms of what stands on either side of some blanks
(`normalLine_append_gap`). With the law on typing all of it is in `normalLine_canonical`.
-/

namespace Gazetteer

open Text

/-- **The normal forms are the texts in lowercase with single spaces.** So they can be told without
taking a normal form. -/
theorem normalLine_eq_self_iff {line : String} :
    normalLine line = line ↔ lowercase line = line ∧ SingleSpaced line.toList := by
  constructor
  · intro h
    rw [← h]
    exact ⟨lowercase_eq_self (settled_normalLine line).2, singleSpaced_normalLine line⟩
  · rintro ⟨hlower, hspaced⟩
    apply String.toList_inj.mp
    rw [toList_normalLine_of_settled (lowercase_eq_self_iff.mp hlower), singleSpaced_iff.mp hspaced]

/-! ## Around blanks -/

/-- **The normal form of two texts with blanks between them** is their normal forms with a space
between them. -/
theorem normalLine_append_gap {before gap after : String} (hne : gap ≠ "")
    (hgap : Blanks gap.toList) (hbefore : ¬ Blanks before.toList) (hafter : ¬ Blanks after.toList) :
    normalLine (before ++ gap ++ after) = normalLine before ++ " " ++ normalLine after := by
  have hnonempty : gap.toList ≠ [] := fun hnil => hne (String.toList_inj.mp hnil)
  have hwords {text : String} (h : ¬ Blanks text.toList) :
      (wordsOf text.toList).map (lowerFrom false) ≠ [] := by
    rw [ne_eq, List.map_eq_nil_iff, wordsOf_eq_nil_iff]
    exact h
  apply String.toList_inj.mp
  simp only [String.toList_append, toList_normalLine, normalChars]
  rw [wordsOf_append_gap hnonempty hgap, List.map_append,
    joinWords_append (hwords hbefore) (hwords hafter), List.append_assoc]
  rfl

/-- **The normal form is canonical.** For all texts: taking it again changes nothing; the normal
form of two texts that are not blank, with blanks between them, is their normal forms with a space
between them; it has single spaces, and the texts in lowercase that have these are their own normal
forms; and if a line has no capital sigma, the normal form of what begins the line begins the normal
form of the line. -/
theorem normalLine_canonical (a b : String) :
    normalLine (normalLine a) = normalLine a ∧
    (∀ gap : String, gap ≠ "" → Blanks gap.toList → ¬ Blanks a.toList → ¬ Blanks b.toList →
      normalLine (a ++ gap ++ b) = normalLine a ++ " " ++ normalLine b) ∧
    SingleSpaced (normalLine a).toList ∧
    (normalLine a = a ↔ lowercase a = a ∧ SingleSpaced a.toList) ∧
    (capitalSigma ∉ b.toList → a.toList <+: b.toList →
      (normalLine a).toList <+: (normalLine b).toList) :=
  ⟨normalLine_normalLine a, fun _ hne hgap => normalLine_append_gap hne hgap,
    singleSpaced_normalLine a,
    normalLine_eq_self_iff, fun hsigma hprefix => normalLine_prefix hprefix hsigma⟩

/-- Typing stops inside a word that begins with a dotted capital, which becomes two characters, and
behind a blank that is no space. -/
theorem normalLine_canonical_dotted :
    (¬ Blanks "12\u00a0 İst".toList ∧ ¬ Blanks "12\u00a0 İstanbul ROAD".toList ∧
      Blanks " \t".toList ∧
      normalLine ("12\u00a0 İst" ++ " \t" ++ "12\u00a0 İstanbul ROAD") =
        normalLine "12\u00a0 İst" ++ " " ++ normalLine "12\u00a0 İstanbul ROAD") ∧
    capitalSigma ∉ "12\u00a0 İstanbul ROAD".toList ∧
    "12\u00a0 İst".toList <+: "12\u00a0 İstanbul ROAD".toList ∧
    (normalLine "12\u00a0 İst").toList <+: (normalLine "12\u00a0 İstanbul ROAD").toList ∧
    normalLine "12\u00a0 İst" = "12 i̇st" := by
  obtain ⟨-, hgap, -, -, htyped⟩ := normalLine_canonical "12\u00a0 İst" "12\u00a0 İstanbul ROAD"
  have hbefore : ¬ Blanks "12\u00a0 İst".toList := by decide
  have hafter : ¬ Blanks "12\u00a0 İstanbul ROAD".toList := by decide
  have hblanks : Blanks " \t".toList := by decide
  have hsigma : capitalSigma ∉ "12\u00a0 İstanbul ROAD".toList := by decide
  have hprefix : "12\u00a0 İst".toList <+: "12\u00a0 İstanbul ROAD".toList := by decide
  refine ⟨⟨hbefore, hafter, hblanks,
    hgap " \t" (by decide) hblanks hbefore hafter⟩, hsigma, hprefix,
    htyped hsigma hprefix, ?_⟩
  decide

end Gazetteer
