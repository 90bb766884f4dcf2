import Gazetteer.Index.Pattern
import Gazetteer.Proofs.NormalLine

/-!
# What a completion pattern matches

Escaping is read back: the pattern of a text, **whatever characters it has**, is the text character
by character and then a repeated dot (`readPattern?_completionPattern`). So it can always be read,
and it matches what begins with the text and has no end of line after it. A normal line has no blank
but the space, and so **the query for a text asks for the addresses whose line begins with it**
(`CompletionQuery.accepts_ofAddress_iff`).
-/

namespace Gazetteer.Index

/-! ## Reading what was escaped -/

/-- The piece that stands for one character. -/
def literal (c : Char) : PatternPiece :=
  .once (.only c)

/-- An escaped character is one token: itself. Signs with a meaning of their own are written with a
backslash before them, and all others as they are. -/
theorem tokens?_escapeChar (c : Char) (rest : List Char) :
    tokens? (escapeChar c ++ rest) = (tokens? rest).map (.atom (.only c) :: ·) := by
  by_cases hsign : c ∈ patternSigns
  · rw [escapeChar, if_pos hsign, List.cons_append, List.singleton_append, tokens?, if_pos hsign]
  · rw [escapeChar, if_neg hsign, List.singleton_append]
    -- A character that is no sign is none of the three that are read in a way of their own.
    have hslash : c ≠ '\\' := fun h => hsign (h ▸ by decide)
    have hdot : c ≠ '.' := fun h => hsign (h ▸ by decide)
    have hstar : c ≠ '*' := fun h => hsign (h ▸ by decide)
    rw [tokens?.eq_def]
    split
    next h => cases h
    next h => exact absurd (List.cons.inj h).1 hslash
    next h => exact absurd (List.cons.inj h).1 hdot
    next h => exact absurd (List.cons.inj h).1 hstar
    next h =>
      obtain ⟨rfl, rfl⟩ := List.cons.inj h
      rw [if_neg hsign]

/-- **Escaped characters are read back** as themselves, one by one. Every sign of patterns stands
behind a backslash there, and nothing else does. -/
theorem tokens?_escape (cs rest : List Char) :
    tokens? (cs.flatMap escapeChar ++ rest) =
      (tokens? rest).map (cs.map (fun c => PatternToken.atom (.only c)) ++ ·) := by
  induction cs with
  | nil => simp
  | cons c cs ih =>
    rw [List.flatMap_cons, List.append_assoc, tokens?_escapeChar, ih, Option.map_map]
    rfl

/-- An atom is a piece of its own where no star follows. Escaped characters are never followed by
one of the pattern's own. -/
theorem pieces?_atom (atom : Atom) {more : List PatternToken} (h : more.head? ≠ some .star) :
    pieces? (.atom atom :: more) = (pieces? more).map (.once atom :: ·) := by
  cases more with
  | nil => rfl
  | cons token more =>
    cases token with
    | atom next => rfl
    | star => exact absurd rfl h

/-- Characters are pieces of their own, up to whatever follows them; a star right behind them would
take the last one. -/
theorem pieces?_literals (cs : List Char) {more : List PatternToken} (h : more.head? ≠ some .star) :
    pieces? (cs.map (fun c => PatternToken.atom (.only c)) ++ more) =
      (pieces? more).map (cs.map literal ++ ·) := by
  induction cs with
  | nil => simp
  | cons c cs ih =>
    have hnext : (cs.map (fun c => PatternToken.atom (.only c)) ++ more).head? ≠ some .star := by
      cases cs with
      | nil => exact h
      | cons d cs => simp
    rw [List.map_cons, List.cons_append, pieces?_atom _ hnext, ih, Option.map_map]
    rfl

/-- **The pattern of a text is the text and then a repeated dot.** It is read whatever signs the
text has, so that no query fails for its pattern. -/
theorem readPattern?_completionPattern (start : String) :
    readPattern? (completionPattern start) =
      some (start.toList.map literal ++ [.repeated .dot]) := by
  have htail : tokens? ".*".toList = some [.atom .dot, .star] := by decide
  have htokens : tokens? (completionPattern start).toList =
      some (start.toList.map (fun c => PatternToken.atom (.only c)) ++ [.atom .dot, .star]) := by
    rw [completionPattern, String.toList_append, escape, String.toList_ofList,
      tokens?_escape, htail, Option.map_some]
  rw [readPattern?, htokens, Option.bind_some, pieces?_literals _ (by simp)]
  rfl

/-! ## Matching -/

/-- What is repeated up to the end of a text stands for all that is left of it. -/
theorem acceptsPieces_repeated (atom : Atom) (cs : List Char) :
    acceptsPieces [.repeated atom] cs = cs.all atom.admits := by
  induction cs with
  | nil => rfl
  | cons c cs ih =>
    have hstep : acceptsPieces [.repeated atom] (c :: cs) =
        (atom.admits c && acceptsPieces [.repeated atom] cs) := rfl
    rw [hstep, ih, List.all_cons]

/-- The dot stands for every character but the end of a line. The lines of addresses have none where
they are stored in normal form. -/
theorem all_admits_dot {cs : List Char} : cs.all Atom.dot.admits = true ↔ '\n' ∉ cs := by
  simp only [List.all_eq_true, Atom.admits, bne_iff_ne]
  constructor
  · intro h hmem
    exact h _ hmem rfl
  · intro h c hc hend
    exact h (hend ▸ hc)

/-- Characters match a text that begins with them and goes on as the other pieces do. The induction
is on the characters, which may be any at all. -/
theorem acceptsPieces_literals (start : List Char) (pieces : List PatternPiece) (cs : List Char) :
    acceptsPieces (start.map literal ++ pieces) cs = true ↔
      ∃ rest, cs = start ++ rest ∧ acceptsPieces pieces rest = true := by
  induction start generalizing cs with
  | nil => simp
  | cons c start ih =>
    cases cs with
    | nil => simp [literal, acceptsPieces]
    | cons d cs =>
      rw [List.map_cons, List.cons_append, literal, acceptsPieces, Bool.and_eq_true, ih]
      simp only [Atom.admits, beq_iff_eq, List.cons_append, List.cons.injEq]
      constructor
      · rintro ⟨hd, rest, hcs, hrest⟩
        exact ⟨rest, ⟨hd, hcs⟩, hrest⟩
      · rintro ⟨rest, ⟨hd, hcs⟩, hrest⟩
        exact ⟨hd, rest, hcs, hrest⟩

/-- **The pattern of a text matches what begins with it** and has no end of line after it. -/
theorem acceptsPieces_completion (start cs : List Char) :
    acceptsPieces (start.map literal ++ [.repeated .dot]) cs = true ↔
      ∃ rest, cs = start ++ rest ∧ '\n' ∉ rest := by
  simp only [acceptsPieces_literals, acceptsPieces_repeated, all_admits_dot]

/-! ## Queries -/

namespace CompletionQuery

/-- The query for the lines that begin with a text, as it is read. -/
def forStart (start : String) : CompletionQuery :=
  if start = "" then .everything else .pattern (start.toList.map literal ++ [.repeated .dot])

/-- **Every text has a query**: its pattern is read back, whatever signs it has. An empty text has
no pattern and asks for every line. -/
theorem of?_eq_some (start : String) : of? start = some (forStart start) := by
  rw [of?, forStart, readPattern?_completionPattern]
  split
  · rfl
  · rfl

/-- **A query asks for the lines that begin with its text**, as far as no end of line follows there.
Nothing is asked of a line where the text is empty. -/
theorem accepts_forStart_iff {start : String} {d : Document} :
    (forStart start).accepts d = true ↔
      start = "" ∨ ∃ rest, d.completion.toList = start.toList ++ rest ∧ '\n' ∉ rest := by
  by_cases hempty : start = ""
  · rw [forStart, if_pos hempty]
    exact iff_of_true rfl (Or.inl hempty)
  · rw [forStart, if_neg hempty, or_iff_right hempty]
    exact acceptsPieces_completion _ _

/-- A document that is asked for begins with the text. The converse needs a line without an end of
line in it. -/
theorem prefix_of_accepts {start : String} {d : Document} (h : (forStart start).accepts d = true) :
    start.toList <+: d.completion.toList := by
  rcases accepts_forStart_iff.mp h with rfl | ⟨rest, hline, -⟩
  · exact List.nil_prefix
  · exact ⟨rest, hline.symm⟩

/-- **Of addresses, a query asks for those whose normal line begins with its text.** A normal line
has no blank but the space, and so no end of line that the dot would stop at. -/
theorem accepts_ofAddress_iff {start : String} {a : Address} :
    (forStart start).accepts (.ofAddress a) = true ↔
      start.toList <+: (normalLine a.oneLine).toList := by
  refine ⟨prefix_of_accepts, ?_⟩
  rintro ⟨rest, hline⟩
  refine accepts_forStart_iff.mpr (Or.inr ⟨rest, hline.symm, fun hmem => ?_⟩)
  have hline' : '\n' ∈ (normalLine a.oneLine).toList := hline ▸ List.mem_append_right _ hmem
  exact absurd ((singleSpaced_normalLine _).space _ hline' (by decide)) (by decide)

end CompletionQuery

end Gazetteer.Index
