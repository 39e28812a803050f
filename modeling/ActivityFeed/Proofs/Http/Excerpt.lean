import ActivityFeed.Http.Exchange
import ActivityFeed.Proofs.Text.Boundary

/-!
# What is shown of the body of a failure

A failure is described by its status and by the beginning of the body's text, which is cut at the
last place where it fits. Stepping back to that place never goes below zero, cutting there never
breaks a character, and nothing longer would fit (`exists_excerpt`).

Main result: `failureText_of_body`.
-/

namespace ActivityFeed.Http.Response

open Text.Utf8

theorem length_encode_le_of_prefix {p q : List Char} (h : p <+: q) :
    (encode p).length ≤ (encode q).length := by
  obtain ⟨later, rfl⟩ := h
  rw [encode_append, List.length_append]
  exact Nat.le_add_right ..

/-- Of two beginnings of one text the one with fewer octets is the shorter one. -/
theorem prefix_of_length_encode_le {p q text : List Char} (hp : p <+: text) (hq : q <+: text)
    (h : (encode q).length ≤ (encode p).length) : q <+: p := by
  rcases List.prefix_or_prefix_of_prefix hq hp with hqp | hpq
  · exact hqp
  · obtain ⟨later, rfl⟩ := hpq
    cases later with
    | nil => simp
    | cons c later =>
      -- every character has octets
      have hpos : 0 < c.utf8Size := c.utf8Size_pos
      rw [encode_append, encode_cons, List.length_append, List.length_append,
        String.length_utf8EncodeChar] at h
      omega

/-- **Every text has an excerpt**: its longest beginning that fits. -/
theorem exists_excerpt (text : List Char) :
    ∃ i p, boundaryUpTo? (encode text) (min (encode text).length shownOctets) = some i
      ∧ upTo? i text = some p ∧ excerpt? text = some p
      ∧ p <+: text ∧ (encode p).length ≤ shownOctets
      ∧ ∀ q, q <+: text → (encode q).length ≤ shownOctets → q <+: p := by
  obtain ⟨i, hi, hle, hboundary, hlast⟩ :=
    exists_boundaryUpTo? (encode text) (min (encode text).length shownOctets)
  obtain ⟨p, hp, rfl⟩ := isBoundary_encode.mp hboundary
  refine ⟨_, p, hi, upTo?_of_prefix hp, ?_, hp, by omega, fun q hq hfits => ?_⟩
  · show (boundaryUpTo? _ _).bind _ = _
    rw [hi, Option.bind_some, upTo?_of_prefix hp]
  · have hwhole := length_encode_le_of_prefix hq
    exact prefix_of_length_encode_le hp hq
      (hlast _ (by omega) (isBoundary_encode.mpr ⟨q, hq, rfl⟩))

/-- **What is said of a failure.** For every status and every text of a body: if nothing but white
space is in it, the status is all that is said. Otherwise the place to cut the trimmed text is
found, it can be cut there, and what stands before is said behind the status: the longest beginning
of the text that has at most 200 octets. That is the whole text if and only if the text has no more
of them, and it is never empty. -/
theorem failureText_of_body (status : Nat) (body : List Char) :
    let text := Text.trim body
    (text = [] → failureText status body = "HTTP " ++ toString status)
      ∧ (text ≠ [] →
        ∃ i p, boundaryUpTo? (encode text) (min (encode text).length 200) = some i
          ∧ upTo? i text = some p
          ∧ failureText status body = "HTTP " ++ toString status ++ ": " ++ String.ofList p
          ∧ p <+: text ∧ (encode p).length ≤ 200
          ∧ (∀ q, q <+: text → (encode q).length ≤ 200 → q <+: p)
          ∧ (p = text ↔ (encode text).length ≤ 200)
          ∧ p ≠ []) := by
  intro text
  have hsaid : failureText status body = if text.isEmpty then "HTTP " ++ toString status
      else "HTTP " ++ toString status ++ ": " ++ String.ofList ((excerpt? text).getD []) := rfl
  constructor
  · intro hempty
    rw [hsaid, hempty]
    rfl
  · intro hsome
    obtain ⟨i, p, hi, hcut, hexcerpt, hp, hfits, hlongest⟩ := exists_excerpt text
    refine ⟨i, p, hi, hcut, ?_, hp, hfits, hlongest, ⟨?_, fun hall => ?_⟩, ?_⟩
    · rw [hsaid, hexcerpt, if_neg (by simpa using hsome)]
      rfl
    · rintro rfl
      exact hfits
    · exact hp.eq_of_length_le (hlongest text List.prefix_rfl hall).length_le
    · -- one character always fits
      obtain ⟨c, rest, hrest⟩ := List.exists_cons_of_ne_nil hsome
      have hfirst : (encode [c]).length ≤ 200 := by
        rw [encode_cons, encode_nil, List.append_nil, String.length_utf8EncodeChar]
        exact Nat.le_trans c.utf8Size_le_four (by decide)
      obtain ⟨later, hlater⟩ := hlongest [c] (hrest ▸ ⟨rest, rfl⟩) hfirst
      rw [← hlater]
      exact List.cons_ne_nil c later

/-- A character of four octets of which three would fit, and a body of white space. -/
theorem failureText_of_body_straddling :
    let start := List.replicate 197 'a'
    let body := ' ' :: start ++ [Char.ofNat 0x1F600, 'b', '\n']
    failureText 502 body = "HTTP 502: " ++ String.ofList start
      ∧ failureText 404 [' ', '\n'] = "HTTP 404" := by
  intro start body
  obtain ⟨-, hshown⟩ := failureText_of_body 502 body
  obtain ⟨hblank, -⟩ := failureText_of_body 404 [' ', '\n']
  have htrim : Text.trim body = start ++ [Char.ofNat 0x1F600, 'b'] := by decide +kernel
  rw [htrim] at hshown
  generalize htext : start ++ [Char.ofNat 0x1F600, 'b'] = text at hshown
  obtain ⟨i, p, hi, hcut, hsaid, -⟩ := hshown (by simp [← htext])
  have hback : boundaryUpTo? (encode text) (min (encode text).length 200) = some 197 := by
    rw [← htext]
    decide +kernel
  have hstart : upTo? 197 text = some start := by
    rw [← htext]
    decide +kernel
  obtain rfl : 197 = i := Option.some.inj (hback.symm.trans hi)
  obtain rfl : start = p := Option.some.inj (hstart.symm.trans hcut)
  exact ⟨hsaid, hblank (by decide)⟩

end ActivityFeed.Http.Response
