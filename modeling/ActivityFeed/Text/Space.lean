/-!
# White space

White space is the Unicode property White_Space: tabulators and line ends, the space, and the blank
characters of typesetting. Every trimmed field of a feed (identifiers, timestamps, retry hints,
configuration values, error bodies) loses white space in this sense at both ends.
-/

namespace ActivityFeed.Text

/-- Whether a character has the property White_Space. -/
def isSpace (c : Char) : Bool :=
  let n := c.toNat
  (9 ≤ n && n ≤ 13) || n == 0x20 || n == 0x85 || n == 0xA0 || n == 0x1680
    || (0x2000 ≤ n && n ≤ 0x200A) || n == 0x2028 || n == 0x2029 || n == 0x202F
    || n == 0x205F || n == 0x3000

/-- The text without the white space it starts with. -/
def trimStart (cs : List Char) : List Char :=
  cs.dropWhile isSpace

/-- The text without the white space it ends with. -/
def trimEnd (cs : List Char) : List Char :=
  (cs.reverse.dropWhile isSpace).reverse

/-- The text without white space at either end. -/
def trim (cs : List Char) : List Char :=
  trimEnd (trimStart cs)

/-- `trim` on strings. -/
def trimmed (s : String) : String :=
  String.ofList (trim s.toList)

/-- Whether nothing but white space is left of a text. -/
def isBlank (s : String) : Bool :=
  s.toList.all isSpace

/-- A text that does not start with white space keeps its start. -/
theorem trimStart_eq_self {cs : List Char} (h : ∀ c ∈ cs.head?, isSpace c = false) :
    trimStart cs = cs := by
  cases cs with
  | nil => rfl
  | cons c cs =>
    have hc : ¬isSpace c = true := by simp [h c rfl]
    exact List.dropWhile_cons_of_neg hc

theorem isSpace_of_head?_trimStart {cs : List Char} {c : Char} (h : c ∈ (trimStart cs).head?) :
    isSpace c = false := by
  have hhead := List.head?_dropWhile_not isSpace cs
  rw [← trimStart, Option.mem_def.mp h] at hhead
  exact hhead

/-- A text that neither starts nor ends with white space is not trimmed. -/
theorem trim_of_ends {cs : List Char} (hfirst : ∀ c ∈ cs.head?, isSpace c = false)
    (hlast : ∀ c ∈ cs.getLast?, isSpace c = false) : trim cs = cs := by
  have hreverse : trimStart cs.reverse = cs.reverse :=
    trimStart_eq_self (by rwa [List.head?_reverse])
  rw [trim, trimStart_eq_self hfirst, trimEnd, ← trimStart, hreverse, List.reverse_reverse]

/-- A text without white space is not trimmed. -/
theorem trim_eq_self {cs : List Char} (h : ∀ c ∈ cs, isSpace c = false) : trim cs = cs :=
  trim_of_ends (fun c hc => h c (List.mem_of_mem_head? hc))
    fun c hc => h c (List.mem_of_mem_getLast? hc)

/-- **What is trimmed is not trimmed again.** -/
theorem trim_trim (cs : List Char) : trim (trim cs) = trim cs := by
  have hprefix : trim cs <+: trimStart cs := by
    rw [trim, trimEnd, ← List.reverse_suffix, List.reverse_reverse]
    exact List.dropWhile_suffix _
  apply trim_of_ends
  · intro c hc
    obtain ⟨rest, hrest⟩ := hprefix
    have hhead : c ∈ (trimStart cs).head? := by
      rw [← hrest, List.head?_append, Option.mem_def.mp hc]
      rfl
    exact isSpace_of_head?_trimStart hhead
  · intro c hc
    rw [trim, trimEnd, List.getLast?_reverse] at hc
    exact isSpace_of_head?_trimStart hc

/-- **White space around a text does not count**, whatever the text. -/
theorem trim_between {before cs after : List Char} (hbefore : ∀ c ∈ before, isSpace c = true)
    (hafter : ∀ c ∈ after, isSpace c = true) : trim (before ++ cs ++ after) = trim cs := by
  have hend : ∀ xs, trimEnd (xs ++ after) = trimEnd xs := by
    intro xs
    rw [trimEnd, List.reverse_append,
      List.dropWhile_append_of_pos fun c hc => hafter c (List.mem_reverse.mp hc), ← trimEnd]
  have hstart : trimStart (before ++ cs ++ after) = trimStart (cs ++ after) := by
    rw [trimStart, List.append_assoc, List.dropWhile_append_of_pos hbefore, ← trimStart]
  rw [trim, hstart, trimStart, List.dropWhile_append]
  split
  next hblank =>
    -- a text of white space only ends where it starts
    have hnone : after.dropWhile isSpace = [] := by
      rw [← List.append_nil after, List.dropWhile_append_of_pos hafter, List.dropWhile_nil]
    rw [hnone, trim, trimStart, List.isEmpty_iff.mp hblank]
  next => exact hend _

/-- Digits are no white space. -/
theorem isSpace_of_isDigit {c : Char} (h : c.isDigit = true) : isSpace c = false := by
  obtain ⟨h0, h9⟩ := Char.isDigit_iff_toNat.mp h
  have hlow : 48 ≤ c.toNat := h0
  have hhigh : c.toNat ≤ 57 := h9
  unfold isSpace
  simp
  omega

end ActivityFeed.Text
