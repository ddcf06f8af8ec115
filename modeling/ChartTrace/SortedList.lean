namespace ChartTrace

/-!
# Lists sorted by a key

Values by increasing key, at most one for each key.  The order is part of the type, so whoever holds such a
list has it, and no operation needs it as an assumption.

* `SortedList key`: the lists whose values have increasing keys.
* `SortedList.find?`: the value of a key; `mem_iff_find?`, `ext_find?` say that a sorted list holds what
  look-up finds, and that nothing else tells two of them apart.
* `SortedList.insert`: puts a value in its place; a value of the same key is replaced.
* `SortedList.ofList`: the values of any list, the last one of each key; `find?_insert` and `find?_ofList`
  say what is found then.
-/

/-- Values by increasing key, at most one for each key. -/
structure SortedList {α κ : Type} [LT κ] (key : α → κ) where
  /-- The values, those of lesser keys first. -/
  toList : List α
  /-- Each key is less than all keys behind it. -/
  sorted : toList.Pairwise fun a b => key a < key b
deriving DecidableEq, Repr

namespace SortedList

variable {α κ : Type} [LT κ] {key : α → κ}

instance : Membership α (SortedList key) := ⟨fun l a => a ∈ l.toList⟩

instance [DecidableEq α] (a : α) (l : SortedList key) : Decidable (a ∈ l) :=
  inferInstanceAs (Decidable (a ∈ l.toList))

/-- No values. -/
def empty : SortedList key := ⟨[], .nil⟩

/-- Sorted lists with the same values are equal. -/
theorem eq_of_mem_iff [Std.Asymm fun a b : κ => a < b] {as bs : List α}
    (has : as.Pairwise fun a b => key a < key b) (hbs : bs.Pairwise fun a b => key a < key b)
    (h : ∀ a, a ∈ as ↔ a ∈ bs) : as = bs := by
  induction as generalizing bs with
  | nil => exact (List.eq_nil_iff_forall_not_mem.mpr fun a ha => by simpa using (h a).mpr ha).symm
  | cons a as ih =>
    cases bs with
    | nil => exact absurd ((h a).mp List.mem_cons_self) List.not_mem_nil
    | cons b bs =>
      obtain ⟨ha, hastail⟩ := List.pairwise_cons.mp has
      obtain ⟨hb, hbstail⟩ := List.pairwise_cons.mp hbs
      -- Each first value is in the other list; were they different, each key would be the lesser one.
      have hfirst : a = b := by
        rcases List.mem_cons.mp ((h a).mp List.mem_cons_self) with heq | hab
        · exact heq
        · rcases List.mem_cons.mp ((h b).mpr List.mem_cons_self) with heq | hba
          · exact heq.symm
          · exact absurd (hb a hab) (Std.Asymm.asymm _ _ (ha b hba))
      subst hfirst
      refine congrArg (a :: ·) (ih hastail hbstail fun c => ?_)
      -- The first value does not come again, since no key is less than itself.
      have hleft : c ∈ as → c ≠ a := fun hc heq => Std.Irrefl.irrefl (key a) (heq ▸ ha c hc)
      have hright : c ∈ bs → c ≠ a := fun hc heq => Std.Irrefl.irrefl (key a) (heq ▸ hb c hc)
      have hc := h c
      simp only [List.mem_cons] at hc
      constructor
      · exact fun hmem => (hc.mp (Or.inr hmem)).resolve_left (hleft hmem)
      · exact fun hmem => (hc.mpr (Or.inr hmem)).resolve_left (hright hmem)

variable [DecidableEq κ]

/-- The value of a key. -/
def find? (l : SortedList key) (k : κ) : Option α := l.toList.find? fun a => key a == k

/-- A value that look-up finds is there, under the key that was looked for. -/
theorem of_find?_eq_some {l : SortedList key} {k : κ} {a : α} (h : l.find? k = some a) :
    a ∈ l ∧ key a = k :=
  ⟨List.mem_of_find?_eq_some h, by simpa using List.find?_some h⟩

/-! ### What a sorted list holds -/

section Contents

variable [Std.Asymm fun a b : κ => a < b]

/-- Look-up finds each value: the keys before it are less, so none of them is its own. -/
theorem find?_of_mem {l : SortedList key} {a : α} (ha : a ∈ l) : l.find? (key a) = some a := by
  obtain ⟨as, has⟩ := l
  show as.find? (fun b => key b == key a) = some a
  replace ha : a ∈ as := ha
  induction as with
  | nil => exact absurd ha List.not_mem_nil
  | cons b as ih =>
    obtain ⟨hb, hrest⟩ := List.pairwise_cons.mp has
    rcases List.mem_cons.mp ha with rfl | ha
    · simp
    · have hne : key b ≠ key a := fun heq => Std.Irrefl.irrefl (key a) (heq ▸ hb a ha)
      rw [List.find?_cons_of_neg (by simpa using hne)]
      exact ih hrest ha

/-- **Contents.** A sorted list holds what look-up finds. -/
theorem mem_iff_find? {l : SortedList key} {a : α} : a ∈ l ↔ l.find? (key a) = some a :=
  ⟨find?_of_mem, fun h => (of_find?_eq_some h).1⟩

/-- **Extensionality.** Sorted lists in which the same is found are equal. -/
theorem ext_find? {l m : SortedList key} (h : ∀ k, l.find? k = m.find? k) : l = m := by
  have hmem : ∀ a, a ∈ l.toList ↔ a ∈ m.toList := by
    intro a
    show a ∈ l ↔ a ∈ m
    rw [mem_iff_find?, mem_iff_find?, h]
  obtain ⟨as, has⟩ := l
  obtain ⟨bs, hbs⟩ := m
  obtain rfl : as = bs := eq_of_mem_iff has hbs hmem
  rfl

end Contents

/-! ### Insertion -/

variable [DecidableLT κ]

/-- Puts a value in its place among values sorted by key; a value of the same key is replaced. -/
def insertInto (key : α → κ) (a : α) : List α → List α
  | [] => [a]
  | b :: bs =>
    if key a < key b then a :: b :: bs
    else if key a = key b then a :: bs
    else b :: insertInto key a bs

/-- Insertion brings in no value but the new one. -/
theorem of_mem_insertInto {a b : α} {as : List α} (h : b ∈ insertInto key a as) : b = a ∨ b ∈ as := by
  induction as with
  | nil => exact Or.inl (List.mem_singleton.mp h)
  | cons c as ih =>
    unfold insertInto at h
    split at h
    · exact List.mem_cons.mp h
    · split at h
      · -- The new value takes the place of `c`.
        exact (List.mem_cons.mp h).imp_right (List.mem_cons_of_mem c)
      · rcases List.mem_cons.mp h with rfl | hrest
        · exact Or.inr List.mem_cons_self
        · exact (ih hrest).imp_right (List.mem_cons_of_mem c)

/-- A new value is found under its key, and under any other key what was there before.  The order plays no
    part in this: what is replaced has the key of the new value. -/
theorem find?_insertInto (a : α) (as : List α) (k : κ) :
    (insertInto key a as).find? (fun b => key b == k)
      = if key a = k then some a else as.find? (fun b => key b == k) := by
  induction as with
  | nil => by_cases hk : key a = k <;> simp [insertInto, hk]
  | cons c as ih =>
    unfold insertInto
    split
    · by_cases hk : key a = k <;> simp [hk]
    · split
      · next heq =>
        by_cases hk : key a = k
        · simp [hk]
        · simp [hk, heq ▸ hk]
      · next hne =>
        by_cases hc : key c = k
        · have hk : key a ≠ k := fun h => hne (h.trans hc.symm)
          simp [hc, hk]
        · simp [hc, ih]

/-- A value whose key is greater than all others goes to the end. -/
theorem insertInto_of_lt [Std.Asymm fun a b : κ => a < b] {a : α} {as : List α}
    (h : ∀ b ∈ as, key b < key a) : insertInto key a as = as ++ [a] := by
  induction as with
  | nil => rfl
  | cons c as ih =>
    have hc : key c < key a := h c List.mem_cons_self
    have hnot : ¬ key a < key c := Std.Asymm.asymm _ _ hc
    have hne : key a ≠ key c := fun heq => hnot (heq ▸ heq ▸ hc)
    rw [insertInto, if_neg hnot, if_neg hne, ih fun b hb => h b (List.mem_cons_of_mem c hb)]
    rfl

variable [LE κ] [Std.IsLinearOrder κ] [Std.LawfulOrderLT κ]

/-- Insertion keeps the order. -/
theorem pairwise_insertInto {a : α} {as : List α} (has : as.Pairwise fun b c => key b < key c) :
    (insertInto key a as).Pairwise fun b c => key b < key c := by
  induction as with
  | nil => exact List.pairwise_singleton _ _
  | cons c as ih =>
    obtain ⟨hc, hrest⟩ := List.pairwise_cons.mp has
    unfold insertInto
    split
    · next hlt =>
      refine List.pairwise_cons.mpr ⟨fun b hb => ?_, has⟩
      rcases List.mem_cons.mp hb with rfl | hb
      · exact hlt
      · exact Std.lt_trans hlt (hc b hb)
    · split
      · next heq => exact List.pairwise_cons.mpr ⟨fun b hb => heq ▸ hc b hb, hrest⟩
      · next hlt hne =>
        refine List.pairwise_cons.mpr ⟨fun b hb => ?_, ih hrest⟩
        rcases of_mem_insertInto hb with rfl | hb
        · -- The new key is neither less than that of `c` nor equal to it.
          exact Decidable.byContradiction fun hnot => hne (Std.Trichotomous.trichotomous _ _ hlt hnot)
        · exact hc b hb

/-- The list with a value in its place; a value of the same key is replaced. -/
def insert (l : SortedList key) (a : α) : SortedList key :=
  ⟨insertInto key a l.toList, pairwise_insertInto l.sorted⟩

/-- The values of a list given one after the other; the last one of a key counts. -/
def ofList (key : α → κ) (as : List α) : SortedList key := as.foldl insert empty

/-- Insertion brings in no value but the new one. -/
theorem of_mem_insert {l : SortedList key} {a b : α} (h : b ∈ l.insert a) : b = a ∨ b ∈ l :=
  of_mem_insertInto h

/-- **Step lemma.** A new value is found under its key, and under any other key what was there before. -/
theorem find?_insert (l : SortedList key) (a : α) (k : κ) :
    (l.insert a).find? k = if key a = k then some a else l.find? k :=
  find?_insertInto a l.toList k

/-- **Run lemma.** Of the values given, the last one of a key is found, and else what was there before. -/
theorem find?_foldl_insert (as : List α) (l : SortedList key) (k : κ) :
    (as.foldl insert l).find? k = (as.reverse.find? fun a => key a == k).or (l.find? k) := by
  induction as generalizing l with
  | nil => simp
  | cons a as ih =>
    rw [List.foldl_cons, ih, find?_insert, List.reverse_cons, List.find?_append, Option.or_assoc]
    by_cases hk : key a = k <;> simp [hk]

/-- **Last one wins.** -/
theorem find?_ofList (as : List α) (k : κ) :
    (ofList key as).find? k = as.reverse.find? fun a => key a == k := by
  rw [ofList, find?_foldl_insert]
  exact Option.or_none

end SortedList

end ChartTrace
