import Gazetteer.Text.Alphanumeric
import Gazetteer.Text.Blank
import Gazetteer.Text.Lowercase

/-!
# The case of ASCII letters

What is asked of a character here does not depend on the case of an ASCII letter: whether it is
blank, has case or is passed over, whether it belongs to a term, and its lowercase form. Twenty-six
letters decide each of these (`apply_toLower`). So **a text has the lowercase form of its ASCII
lowercase** (`lowercase_toLower`): the final sigma looks at whether its neighbours have case, and
not at which.
-/

namespace Gazetteer.Text

/-- The capital letters of ASCII. -/
def asciiCapitals : List Char :=
  (List.range 26).map fun n => Char.ofNat ('A'.toNat + n)

/-- Only ASCII capitals have another ASCII lowercase form, so that twenty-six characters are all
there is to look at. -/
theorem mem_asciiCapitals_of_toLower_ne {c : Char} (h : c.toLower ≠ c) : c ∈ asciiCapitals := by
  unfold Char.toLower at h
  split at h
  next hrange =>
    have hfirst : 65 ≤ c.toNat := UInt32.le_iff_toNat_le.mp hrange.1
    have hlast : c.toNat ≤ 90 := UInt32.le_iff_toNat_le.mp hrange.2
    have hplace : 'A'.toNat + (c.toNat - 65) = c.toNat := by
      simp
      omega
    exact List.mem_map.mpr
      ⟨c.toNat - 65, List.mem_range.mpr (by omega), by rw [hplace, Char.ofNat_toNat]⟩
  next => exact absurd rfl h

/-- **What holds of the capitals and their lowercase forms holds of all characters and theirs.**
Whatever a function makes of a character, a test over the capitals of ASCII decides whether it tells
their case. -/
theorem apply_toLower {α : Type} [BEq α] [LawfulBEq α] {f : Char → α}
    (h : (asciiCapitals.all fun c => f c.toLower == f c) = true) (c : Char) :
    f c.toLower = f c := by
  by_cases hc : c.toLower = c
  · rw [hc]
  · exact eq_of_beq (List.all_eq_true.mp h c (mem_asciiCapitals_of_toLower_ne hc))

/-- What is asked of a character when a text is lowercased, trimmed and cut into terms. -/
def traits (c : Char) : Bool × List Char × Bool × Bool × Bool × Bool :=
  (isAlphanumeric c, lowerChar c, isBlank c, isCased c, isCaseIgnorable c, c == capitalSigma)

/-- None of these is a matter of the case of an ASCII letter. They are decided together, as one test
over the capitals; the lemmas below take them apart. -/
theorem traits_toLower (c : Char) : traits c.toLower = traits c :=
  apply_toLower (by decide) c

/-- Letters of either case belong to terms. This and the next lemmas say that tables of characters
do not tell the two cases of an ASCII letter apart. -/
theorem isAlphanumeric_toLower (c : Char) : isAlphanumeric c.toLower = isAlphanumeric c :=
  congrArg (·.1) (traits_toLower c)

/-- Both cases of a letter have one lowercase form. -/
theorem lowerChar_toLower (c : Char) : lowerChar c.toLower = lowerChar c :=
  congrArg (·.2.1) (traits_toLower c)

theorem isBlank_toLower (c : Char) : isBlank c.toLower = isBlank c :=
  congrArg (·.2.2.1) (traits_toLower c)

theorem isCased_toLower (c : Char) : isCased c.toLower = isCased c :=
  congrArg (·.2.2.2.1) (traits_toLower c)

theorem isCaseIgnorable_toLower (c : Char) : isCaseIgnorable c.toLower = isCaseIgnorable c :=
  congrArg (·.2.2.2.2.1) (traits_toLower c)

/-- The capital sigma is no letter of ASCII, and no ASCII letter becomes it. -/
theorem toLower_eq_capitalSigma_iff (c : Char) : c.toLower = capitalSigma ↔ c = capitalSigma := by
  have hsame : (c.toLower == capitalSigma) = (c == capitalSigma) :=
    congrArg (·.2.2.2.2.2) (traits_toLower c)
  rw [← beq_iff_eq, hsame, beq_iff_eq]

/-! ## Texts -/

theorem toList_toLower (s : String) : s.toLower.toList = s.toList.map Char.toLower := by
  show (s.map Char.toLower).toList = _
  rw [String.toList_map]

/-- Looking ahead for a letter with case finds one in the same texts. -/
theorem casedAhead_map_toLower (cs : List Char) :
    casedAhead (cs.map Char.toLower) = casedAhead cs := by
  have hignorable : isCaseIgnorable ∘ Char.toLower = isCaseIgnorable :=
    funext isCaseIgnorable_toLower
  unfold casedAhead
  rw [List.dropWhile_map, hignorable]
  cases cs.dropWhile isCaseIgnorable with
  | nil => rfl
  | cons c rest => exact isCased_toLower c

/-- The whole state of lowercasing, which is whether a letter with case is behind, passes through
the text unchanged. -/
theorem lowerFrom_map_toLower (behind : Bool) (cs : List Char) :
    lowerFrom behind (cs.map Char.toLower) = lowerFrom behind cs := by
  induction cs generalizing behind with
  | nil => rfl
  | cons c rest ih =>
    simp only [List.map_cons, lowerFrom, toLower_eq_capitalSigma_iff, isCaseIgnorable_toLower,
      isCased_toLower, lowerChar_toLower, casedAhead_map_toLower, ih]

/-- **The lowercase form of a text does not depend on the case of its ASCII letters.** A value that
is compared in ASCII lowercase may so be looked for in lowercase terms. -/
theorem lowercase_toLower (s : String) : lowercase s.toLower = lowercase s := by
  rw [lowercase, toList_toLower, lowerFrom_map_toLower, lowercase]

/-- Trimming and ASCII lowercase go together, since no letter becomes a blank or was one. -/
theorem trimChars_map_toLower (cs : List Char) :
    trimChars (cs.map Char.toLower) = (trimChars cs).map Char.toLower := by
  have hblank : isBlank ∘ Char.toLower = isBlank := funext isBlank_toLower
  have hstart :
      ∀ cs : List Char, trimStart (cs.map Char.toLower) = (trimStart cs).map Char.toLower := by
    intro cs
    rw [trimStart, List.dropWhile_map, hblank, trimStart]
  have hend : ∀ cs : List Char, trimEnd (cs.map Char.toLower) = (trimEnd cs).map Char.toLower := by
    intro cs
    rw [trimEnd, ← List.map_reverse, List.dropWhile_map, hblank, ← List.map_reverse, trimEnd]
  rw [trimChars, hstart, hend, trimChars]

theorem trim_toLower (s : String) : trim s.toLower = (trim s).toLower := by
  apply String.toList_inj.mp
  rw [trim, toList_toLower, trimChars_map_toLower, String.toList_ofList, toList_toLower, trim,
    String.toList_ofList]

end Gazetteer.Text
