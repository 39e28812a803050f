/-!
# Parts of a text

A text falls into parts between its separators: the lines of a block between its line feeds, the
segments of a path between its slashes, the labels of a domain between its points. There is always
one part more than there are separators, and no part holds one.
-/

namespace ActivityFeed.Text

/-- The parts of a text between the characters that separate them. -/
def split (separates : Char → Bool) : List Char → List (List Char)
  | [] => [[]]
  | c :: cs =>
    if separates c then [] :: split separates cs
    else
      match split separates cs with
      | [] => [[c]]
      | part :: parts => (c :: part) :: parts

/-- The parts of a text between occurrences of one character. -/
def splitAt (c : Char) : List Char → List (List Char) :=
  split (· == c)

theorem split_ne_nil (separates : Char → Bool) (cs : List Char) : split separates cs ≠ [] := by
  cases cs with
  | nil => simp [split]
  | cons c cs =>
    simp only [split]
    split
    · simp
    · cases split separates cs <;> simp

theorem split_cons_of_separates {separates : Char → Bool} {c : Char} (h : separates c = true)
    (cs : List Char) : split separates (c :: cs) = [] :: split separates cs := by
  simp [split, h]

theorem forall_split (separates : Char → Bool) (cs : List Char) :
    ∀ part ∈ split separates cs, ∀ c ∈ part, separates c = false := by
  induction cs with
  | nil => simp [split]
  | cons c cs ih =>
    by_cases h : separates c = true
    · simpa [split, h] using ih
    · have hne := split_ne_nil separates cs
      cases hs : split separates cs with
      | nil => exact absurd hs hne
      | cons part parts =>
        intro p hp d hd
        simp only [split, h, hs, Bool.false_eq_true, if_false, List.mem_cons] at hp
        rcases hp with rfl | hp
        · rcases List.mem_cons.mp hd with rfl | hd
          · simpa using h
          · exact ih part (by simp [hs]) d hd
        · exact ih p (by simp [hs, hp]) d hd

/-- Parts hold nothing that the text does not hold. -/
theorem mem_of_mem_split {separates : Char → Bool} {cs part : List Char}
    (hpart : part ∈ split separates cs) {c : Char} (hc : c ∈ part) : c ∈ cs := by
  induction cs generalizing part with
  | nil =>
    rw [List.mem_singleton.mp hpart] at hc
    cases hc
  | cons d ds ih =>
    by_cases h : separates d = true
    · rw [split_cons_of_separates h] at hpart
      rcases List.mem_cons.mp hpart with rfl | hlater
      · cases hc
      · exact List.mem_cons_of_mem d (ih hlater hc)
    · have hne := split_ne_nil separates ds
      cases hs : split separates ds with
      | nil => exact absurd hs hne
      | cons first parts =>
        simp only [split, h, hs, Bool.false_eq_true, if_false, List.mem_cons] at hpart
        rcases hpart with rfl | hlater
        · rcases List.mem_cons.mp hc with rfl | hfirst
          · exact List.mem_cons_self ..
          · exact List.mem_cons_of_mem d (ih (by simp [hs]) hfirst)
        · exact List.mem_cons_of_mem d (ih (by simp [hs, hlater]) hc)

/-- With the separator between them, the parts make up the text. -/
theorem intercalate_splitAt (c : Char) (cs : List Char) :
    List.intercalate [c] (splitAt c cs) = cs := by
  unfold splitAt
  induction cs with
  | nil => rfl
  | cons d ds ih =>
    have hne := split_ne_nil (· == c) ds
    cases hs : split (· == c) ds with
    | nil => exact absurd hs hne
    | cons part parts =>
      rw [hs] at ih
      by_cases h : (d == c) = true
      · have hd : d = c := by simpa using h
        subst hd
        simp only [split, h, if_true, hs]
        simpa [List.intercalate, List.intersperse] using ih
      · simp only [split, h, hs, Bool.false_eq_true, if_false]
        cases parts with
        | nil => simpa [List.intercalate, List.intersperse] using ih
        | cons _ _ => simpa [List.intercalate, List.intersperse] using ih

/-- A separator ends the parts before it. -/
theorem splitAt_append_cons (c : Char) (x y : List Char) :
    splitAt c (x ++ c :: y) = splitAt c x ++ splitAt c y := by
  induction x with
  | nil => exact @split_cons_of_separates (· == c) c (beq_self_eq_true c) y
  | cons d x ih =>
    unfold splitAt at ih ⊢
    rw [List.cons_append, split, split]
    split
    · rw [ih, List.cons_append]
    · rw [ih]
      cases hparts : split (· == c) x with
      | nil => exact absurd hparts (split_ne_nil _ x)
      | cons part parts => rfl

theorem splitAt_of_not_mem {c : Char} {part : List Char} (h : c ∉ part) :
    splitAt c part = [part] := by
  unfold splitAt
  induction part with
  | nil => rfl
  | cons d rest ih =>
    have hd : (d == c) = false := by
      simpa using fun heq : d = c => h (heq ▸ List.mem_cons_self ..)
    have hrest := ih fun hmem => h (List.mem_cons_of_mem _ hmem)
    simp only [split, hd, Bool.false_eq_true, if_false, hrest]

/-- The first separator ends the first part. -/
theorem splitAt_append {c : Char} {part : List Char} (h : c ∉ part) (later : List Char) :
    splitAt c (part ++ c :: later) = part :: splitAt c later := by
  rw [splitAt_append_cons, splitAt_of_not_mem h, List.singleton_append]

end ActivityFeed.Text
