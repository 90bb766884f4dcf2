import Mathlib.Data.List.Nodup

/-!
# Merging by a key

Entries are merged by going over them once. Each is kept if its key is new, takes the place of the
one kept of its key if it beats that one, and is dropped otherwise; what is kept is then sorted.
`Merging` says what the keys are, which entries beat which and which may stand before which.

**A merged list absorbs whatever it was merged from** (`Lawful.merge_merge`): merging it again with
any of those entries, or with its own, changes nothing. All it takes is that beating is a strict
order and that standing before is a total preorder (`Lawful`). The invariant is `Settles`: for every
entry so far there is one kept of its key that it does not beat. An entry that takes another's place
beats it, and so nothing that the other was settled against beats the new one.
-/

namespace Gazetteer

/-- **A way to merge entries**: the key that entries have in common, which of two with one key is
the better, and which of two may stand before the other. -/
structure Merging (α κ : Type) where
  key : α → κ
  beats : α → α → Bool
  before : α → α → Bool

namespace Merging

variable {α κ : Type} (m : Merging α κ)

/-- **Beating is a strict order, and standing before a total preorder.** Entries that do not beat
each other need not be alike in any way. -/
structure Lawful : Prop where
  beats_self : ∀ a, m.beats a a = false
  beats_trans : ∀ a b c, m.beats a b = true → m.beats b c = true → m.beats a c = true
  before_trans : ∀ a b c, m.before a b = true → m.before b c = true → m.before a c = true
  before_total : ∀ a b, (m.before a b || m.before b a) = true

/-- **Those kept settle entries**: they have keys of their own, and for each entry one of its key
that it does not beat. -/
structure Settles (kept entries : List α) : Prop where
  nodup : (kept.map m.key).Nodup
  unbeaten : ∀ a ∈ entries, ∃ seen ∈ kept, m.key seen = m.key a ∧ m.beats a seen = false

variable {m} in
theorem settles_nil : m.Settles [] [] where
  nodup := List.nodup_nil
  unbeaten := List.forall_mem_nil _

variable {m} in
/-- In what order entries are kept does not matter for what they settle, so that they may be
sorted. -/
theorem Settles.perm {kept entries sorted : List α} (h : m.Settles kept entries)
    (hperm : sorted.Perm kept) :
    m.Settles sorted entries where
  nodup := (hperm.map m.key).nodup_iff.mpr h.nodup
  unbeaten a ha := by
    obtain ⟨seen, hseen, hrest⟩ := h.unbeaten a ha
    exact ⟨seen, hperm.mem_iff.mpr hseen, hrest⟩

variable [DecidableEq κ]

/-- Adds an entry to those kept: the first one of its key stays at its place unless the new one
beats it, and then the new one takes that place. -/
def absorb (new : α) : List α → List α
  | [] => [new]
  | seen :: rest =>
    if m.key seen = m.key new then (if m.beats new seen then new else seen) :: rest
    else seen :: absorb new rest

/-- One entry for each key, at the place where the key first appeared. -/
def distinct (entries : List α) : List α :=
  entries.foldl (fun kept new => m.absorb new kept) []

/-- The entries of two lists, one for each key, in order. -/
def merge (first second : List α) : List α :=
  (m.distinct (first ++ second)).mergeSort m.before

variable {m} {new : α} {kept entries : List α}

/-! ## Keys -/

/-- Absorbing an entry leaves the keys as they are, or adds its own at the end. Which of two entries
with one key stays does not show here. -/
theorem map_key_absorb (new : α) (kept : List α) :
    (m.absorb new kept).map m.key =
      if m.key new ∈ kept.map m.key then kept.map m.key else kept.map m.key ++ [m.key new] := by
  induction kept with
  | nil => rfl
  | cons seen rest ih =>
    by_cases hsame : m.key seen = m.key new
    · have hfirst : m.key (if m.beats new seen then new else seen) = m.key seen := by
        split
        · exact hsame.symm
        · rfl
      simp [absorb, hsame, hfirst]
    · have hother : ¬ m.key new = m.key seen := fun h => hsame h.symm
      simp only [absorb, if_neg hsame, List.map_cons, ih, List.mem_cons, hother, false_or]
      split <;> rfl

theorem nodup_absorb (new : α) (h : (kept.map m.key).Nodup) :
    ((m.absorb new kept).map m.key).Nodup := by
  rw [map_key_absorb]
  split
  · exact h
  next hnew => exact List.nodup_append.mpr ⟨h, List.nodup_singleton _,
    fun i hi j hj hij => hnew <| by
      rwa [← List.mem_singleton.mp hj, ← hij]⟩

theorem absorb_of_new (h : m.key new ∉ kept.map m.key) : m.absorb new kept = kept ++ [new] := by
  induction kept with
  | nil => rfl
  | cons seen rest ih =>
    rw [List.map_cons, List.mem_cons, not_or] at h
    rw [absorb, if_neg fun hsame => h.1 hsame.symm, ih h.2, List.cons_append]

/-- Entries without a key in common are all kept, as they come. The induction is on the entries to
come. -/
theorem foldl_absorb_of_nodup (h : ((kept ++ entries).map m.key).Nodup) :
    entries.foldl (fun kept new => m.absorb new kept) kept = kept ++ entries := by
  induction entries generalizing kept with
  | nil => rw [List.foldl_nil, List.append_nil]
  | cons new rest ih =>
    have hnew : m.key new ∉ kept.map m.key := by
      rw [List.map_append, List.map_cons] at h
      exact fun hold => (List.nodup_append.mp h).2.2 _ hold _ List.mem_cons_self rfl
    have hnext : kept ++ new :: rest = kept ++ [new] ++ rest := by
      rw [List.append_assoc, List.singleton_append]
    rw [hnext] at h ⊢
    rw [List.foldl_cons, absorb_of_new hnew, ih h]

/-- A list without repeated keys is what it keeps. A merged list is one, so that only its order is
left to look at when it is merged again. -/
theorem distinct_eq_self (h : (entries.map m.key).Nodup) : m.distinct entries = entries :=
  foldl_absorb_of_nodup (by rwa [List.nil_append])

/-! ## What entries are settled against -/

/-- Whatever was kept is still kept, or was beaten and replaced by the new entry. Everything else
stays where it is. -/
theorem exists_absorb_of_mem (new : α) {seen : α} (h : seen ∈ kept) :
    ∃ next ∈ m.absorb new kept, m.key next = m.key seen ∧
      (next = seen ∨ next = new ∧ m.beats new seen = true) := by
  induction kept with
  | nil => cases h
  | cons first rest ih =>
    rw [absorb]
    split
    next hsame =>
      rcases List.mem_cons.mp h with rfl | hlater
      · refine ⟨_, List.mem_cons_self, ?_⟩
        cases hbeats : m.beats new seen with
        | true => exact ⟨hsame.symm, Or.inr ⟨rfl, rfl⟩⟩
        | false => exact ⟨rfl, Or.inl rfl⟩
      · exact ⟨seen, List.mem_cons_of_mem _ hlater, rfl, Or.inl rfl⟩
    next =>
      rcases List.mem_cons.mp h with rfl | hlater
      · exact ⟨seen, List.mem_cons_self, rfl, Or.inl rfl⟩
      · obtain ⟨next, hnext, hrest⟩ := ih hlater
        exact ⟨next, List.mem_cons_of_mem _ hnext, hrest⟩

/-- The new entry is kept, or one of its key that it does not beat. -/
theorem exists_absorb_new (new : α) (kept : List α) :
    ∃ next ∈ m.absorb new kept, m.key next = m.key new ∧
    (next = new ∨ m.beats new next = false) := by
  induction kept with
  | nil => exact ⟨new, List.mem_cons_self, rfl, Or.inl rfl⟩
  | cons first rest ih =>
    rw [absorb]
    split
    next hsame =>
      refine ⟨_, List.mem_cons_self, ?_⟩
      cases hbeats : m.beats new first with
      | true => exact ⟨rfl, Or.inl rfl⟩
      | false => exact ⟨hsame, Or.inr hbeats⟩
    next =>
      obtain ⟨next, hnext, hrest⟩ := ih
      exact ⟨next, List.mem_cons_of_mem _ hnext, hrest⟩

/-- **One entry more** is settled too, by what is kept once it is absorbed. An entry that was
settled by one that has been replaced does not beat what replaced it, or it would have beaten that
one. -/
theorem Settles.absorb (hm : m.Lawful) (h : m.Settles kept entries) (new : α) :
    m.Settles (m.absorb new kept) (entries ++ [new]) where
  nodup := nodup_absorb new h.nodup
  unbeaten a ha := by
    rcases List.mem_append.mp ha with hold | hlast
    · obtain ⟨seen, hseen, hkey, hunbeaten⟩ := h.unbeaten a hold
      obtain ⟨next, hnext, hsame, rfl | ⟨rfl, hbeats⟩⟩ := exists_absorb_of_mem (m := m) new hseen
      · exact ⟨next, hnext, hkey, hunbeaten⟩
      · -- What beats the new entry beats the one that it replaced.
        refine ⟨next, hnext, hsame.trans hkey, Bool.eq_false_iff.mpr fun hover => ?_⟩
        rw [hm.beats_trans a next seen hover hbeats] at hunbeaten
        cases hunbeaten
    · obtain rfl := List.mem_singleton.mp hlast
      obtain ⟨next, hnext, hkey, rfl | hunbeaten⟩ := exists_absorb_new (m := m) a kept
      · exact ⟨next, hnext, rfl, hm.beats_self next⟩
      · exact ⟨next, hnext, hkey, hunbeaten⟩

/-- **Entries one after another** are settled by what is kept in the end. -/
theorem Settles.foldl_absorb (hm : m.Lawful) (h : m.Settles kept entries) (more : List α) :
    m.Settles (more.foldl (fun kept new => m.absorb new kept) kept) (entries ++ more) := by
  induction more generalizing kept entries with
  | nil => rwa [List.append_nil]
  | cons new more ih =>
    rw [← List.singleton_append, ← List.append_assoc]
    exact ih (h.absorb hm new)

theorem settles_distinct (hm : m.Lawful) (entries : List α) :
    m.Settles (m.distinct entries) entries :=
  settles_nil.foldl_absorb hm entries

/-! ## What is settled changes nothing -/

/-- **An entry that does not beat the one kept of its key** changes nothing. -/
theorem absorb_eq_self {seen : α} (hnodup : (kept.map m.key).Nodup) (hseen : seen ∈ kept)
    (hkey : m.key seen = m.key new) (hunbeaten : m.beats new seen = false) :
    m.absorb new kept = kept := by
  induction kept with
  | nil => cases hseen
  | cons first rest ih =>
    obtain ⟨hfirst, hrest⟩ := List.nodup_cons.mp hnodup
    rw [absorb]
    split
    next hsame =>
      rcases List.mem_cons.mp hseen with rfl | hlater
      · rw [hunbeaten, if_neg Bool.false_ne_true]
      · rw [hsame, ← hkey] at hfirst
        exact absurd (List.mem_map_of_mem hlater) hfirst
    next hother =>
      rcases List.mem_cons.mp hseen with rfl | hlater
      · exact absurd hkey hother
      · rw [ih hrest hlater]

/-- So entries that are settled change nothing, one after another. What is kept stays the same
throughout, and settles all of them. -/
theorem Settles.foldl_absorb_eq_self (h : m.Settles kept entries) :
    entries.foldl (fun kept new => m.absorb new kept) kept = kept := by
  obtain ⟨hnodup, hunbeaten⟩ := h
  induction entries with
  | nil => rfl
  | cons new rest ih =>
    obtain ⟨⟨seen, hseen, hkey, hnew⟩, hrest⟩ := List.forall_mem_cons.mp hunbeaten
    rw [List.foldl_cons, absorb_eq_self hnodup hseen hkey hnew, ih hrest]

/-- **A merged list absorbs entries that it was merged from**, and its own, however many of them and
in whatever order. -/
theorem Lawful.merge_merge (hm : m.Lawful) {first second more : List α}
    (hmore : ∀ a ∈ more, a ∈ m.merge first second ∨ a ∈ first ∨ a ∈ second) :
    m.merge (m.merge first second) more = m.merge first second := by
  have hsettles : m.Settles (m.merge first second) (first ++ second) :=
    (settles_distinct hm (first ++ second)).perm (List.mergeSort_perm _ _)
  have hmoreSettles : m.Settles (m.merge first second) more := by
    refine ⟨hsettles.nodup, fun a ha => ?_⟩
    rcases hmore a ha with hmerged | hgiven
    · exact ⟨a, hmerged, rfl, hm.beats_self a⟩
    · exact hsettles.unbeaten a (List.mem_append.mpr hgiven)
  have hdistinct : m.distinct (m.merge first second ++ more) = m.merge first second := by
    have hself := distinct_eq_self hsettles.nodup
    rw [distinct] at hself ⊢
    rw [List.foldl_append, hself, hmoreSettles.foldl_absorb_eq_self]
  rw [merge, hdistinct]
  exact List.mergeSort_of_pairwise (List.pairwise_mergeSort hm.before_trans hm.before_total _)

/-! ## Other entries -/

section

variable {β : Type} {n : Merging β κ} {f : α → β}

/-- A map that keeps keys and beating passes through absorbing, which looks at nothing else. -/
theorem map_absorb (hkey : ∀ a, n.key (f a) = m.key a)
    (hbeats : ∀ a b, n.beats (f a) (f b) = m.beats a b)
    (new : α) (kept : List α) : (m.absorb new kept).map f = n.absorb (f new) (kept.map f) := by
  induction kept with
  | nil => rfl
  | cons seen rest ih =>
    rw [List.map_cons, absorb, absorb, hkey, hkey, hbeats]
    split
    · rw [List.map_cons, apply_ite f]
    · rw [List.map_cons, ih]

/-- **A merge looks at entries only for their keys, which beats which and which may stand before
which.** -/
theorem map_merge (hkey : ∀ a, n.key (f a) = m.key a)
    (hbeats : ∀ a b, n.beats (f a) (f b) = m.beats a b)
    (hbefore : ∀ a b, n.before (f a) (f b) = m.before a b) (first second : List α) :
    (m.merge first second).map f = n.merge (first.map f) (second.map f) := by
  have hrun :
    ∀ entries kept : List α, (entries.foldl (fun kept new => m.absorb new kept) kept).map f =
      (entries.map f).foldl (fun kept new => n.absorb new kept) (kept.map f) := by
    intro entries
    induction entries with
    | nil => exact fun _ => rfl
    | cons new rest ih =>
      intro kept
      rw [List.foldl_cons, ih, map_absorb hkey hbeats, List.map_cons, List.foldl_cons]
  rw [merge, List.map_mergeSort fun a _ b _ => (hbefore a b).symm, distinct, hrun, merge, distinct,
    List.map_append]
  rfl

end

end Merging

end Gazetteer
