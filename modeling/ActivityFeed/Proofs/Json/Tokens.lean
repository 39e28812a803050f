import ActivityFeed.Json.Reader
import ActivityFeed.Json.Writer
import ActivityFeed.Proofs.Text.Utf8RoundTrip

/-!
# Strings and whole numbers of JSON are read as they were written

Both are read octet by octet by a small machine. `Leads` says that octets take such a machine from
one state to another, each of them being accepted. For a string the invariant is that the machine
holds the octets of the characters so far, whether a character was written as it is or escaped
(`Quotation.leads_escapeChar`); for a whole number that it holds the number of the digits so far
(`Numeral.leads_toDigits`).
-/

namespace ActivityFeed.Json

open Text.Utf8 (encode)

/-- Octets lead from one state to another, one step for each of them. -/
inductive Leads {σ : Type} (step : σ → UInt8 → σ → Prop) : σ → List UInt8 → σ → Prop
  | nil (s : σ) : Leads step s [] s
  | cons {s t u : σ} {b : UInt8} {rest : List UInt8} (first : step s b t)
      (later : Leads step t rest u) : Leads step s (b :: rest) u

namespace Leads

variable {σ τ : Type} {step : σ → UInt8 → σ → Prop} {s t u : σ} {x y : List UInt8}

theorem append (hx : Leads step s x t) (hy : Leads step t y u) : Leads step s (x ++ y) u := by
  induction hx with
  | nil => exact hy
  | cons first _ ih => exact .cons first (ih hy)

theorem single {b : UInt8} (h : step s b t) : Leads step s [b] t :=
  .cons h (.nil t)

/-- What a part of a machine does, the whole machine does. -/
theorem map {step' : τ → UInt8 → τ → Prop} {f : σ → τ}
    (hstep : ∀ {s t b}, step s b t → step' (f s) b (f t)) (h : Leads step s x t) :
    Leads step' (f s) x (f t) := by
  induction h with
  | nil => exact .nil _
  | cons first _ ih => exact .cons (hstep first) ih

end Leads

theorem encode_ascii_cons {c : Char} (h : c.toNat < 0x80) (cs : List Char) :
    encode (c :: cs) = octet c :: encode cs := by
  have hone : String.utf8EncodeChar c = [octet c] :=
    if_pos (show c.val.toNat ≤ 0x7F from Nat.le_of_lt_succ h)
  rw [Text.Utf8.encode_cons, hone, List.singleton_append]

/-! ## Strings -/

theorem encode_stringText (s : String) :
    encode (stringText s)
      = octet '"' :: (encode (s.toList.flatMap escapeChar) ++ [octet '"']) := by
  rw [stringText, List.cons_append, encode_ascii_cons (by decide), Text.Utf8.encode_append]
  rfl

namespace Quotation

/-- A string goes on. -/
def Step (q : Quotation) (b : UInt8) (longer : Quotation) : Prop :=
  q.feed b = .more longer

theorem leads_plain (octets : List UInt8) {x : List UInt8}
    (h : ∀ b ∈ x, b ≠ octet '"' ∧ b ≠ octet '\\' ∧ 0x20 ≤ b.toNat) :
    Leads Step ⟨octets, .none⟩ x ⟨x.reverse ++ octets, .none⟩ := by
  induction x generalizing octets with
  | nil => exact .nil _
  | cons b rest ih =>
    obtain ⟨hquote, hslash, hprinted⟩ := h b (List.mem_cons_self ..)
    have hlow : ¬b < 0x20 := by simpa [UInt8.lt_iff_toNat_lt] using hprinted
    have hstep : Step ⟨octets, .none⟩ b ⟨b :: octets, .none⟩ := by
      simp only [Step, feed, beq_iff_eq, hquote, hslash, hlow, if_false]
    rw [List.reverse_cons, List.append_assoc]
    exact .cons hstep (ih (b :: octets) fun c hc => h c (List.mem_cons_of_mem _ hc))

/-- The control characters without a letter of their own are spelled by their number. -/
theorem leads_unit (octets : List UInt8) {n : Nat} (h : n < 32) :
    Leads Step ⟨octets, .started⟩
      (encode ['u', '0', '0', Nat.digitChar (n / 16), Nat.digitChar (n % 16)])
      (push ⟨octets, .none⟩ (Char.ofNat n)) := by
  have hencode : ∀ n < 32, encode ['u', '0', '0', Nat.digitChar (n / 16), Nat.digitChar (n % 16)]
      = [octet 'u', octet '0', octet '0', octet (Nat.digitChar (n / 16)),
          octet (Nat.digitChar (n % 16))] := by
    decide
  have hunit : ∀ n < 32, unit? [octet '0', octet '0', octet (Nat.digitChar (n / 16)),
      octet (Nat.digitChar (n % 16))] = some n := by
    decide
  have hlast : Step ⟨octets, .unit none [octet (Nat.digitChar (n / 16)), octet '0', octet '0']⟩
      (octet (Nat.digitChar (n % 16))) (push ⟨octets, .none⟩ (Char.ofNat n)) := by
    have hneither : isTrailing n = false ∧ isLeading n = false := by
      simp only [isTrailing, isLeading, Bool.and_eq_false_iff, decide_eq_false_iff_not]
      omega
    simp [Step, feed, hunit n h, pushUnit, hneither, push]
  rw [hencode n h]
  exact .cons rfl (.cons rfl (.cons rfl (.cons rfl (.single hlast))))

/-- **One character**, escaped or not, is the octets of that character. -/
theorem leads_escapeChar (q : Quotation) (hq : q.escape = .none) (c : Char) :
    Leads Step q (encode (escapeChar c)) (q.push c) := by
  obtain ⟨octets, escape⟩ := q
  subst hq
  unfold escapeChar
  split
  · exact .cons rfl (.single rfl)
  · exact .cons rfl (.single rfl)
  · exact .cons rfl (.single rfl)
  · exact .cons rfl (.single rfl)
  · exact .cons rfl (.single rfl)
  next hquote hslash _ _ _ =>
    split
    next h8 =>
      rw [← Char.ofNat_toNat c, h8]
      exact .cons rfl (.single rfl)
    next =>
      split
      next h12 =>
        rw [← Char.ofNat_toNat c, h12]
        exact .cons rfl (.single rfl)
      next =>
        split
        next hlow =>
          have hunit := leads_unit octets hlow
          rw [Char.ofNat_toNat] at hunit
          exact .cons rfl hunit
        next hprinted =>
          -- a character that is not ASCII has no octet that the machine would take for one
          refine leads_plain octets fun b hb => ?_
          rcases Text.Utf8.mem_encodeChar (c := c) (by simpa using hb) with heq | hhigh
          · refine ⟨?_, ?_, by omega⟩
            · rintro rfl
              exact hquote (Char.toNat_inj.mp heq.symm)
            · rintro rfl
              exact hslash (Char.toNat_inj.mp heq.symm)
          · refine ⟨?_, ?_, by omega⟩ <;>
            · rintro rfl
              exact absurd hhigh (by decide)

theorem leads_escapeChars (q : Quotation) (hq : q.escape = .none) (cs : List Char) :
    Leads Step q (encode (cs.flatMap escapeChar)) ⟨(encode cs).reverse ++ q.octets, .none⟩ := by
  induction cs generalizing q with
  | nil =>
    obtain ⟨octets, escape⟩ := q
    subst hq
    exact .nil _
  | cons c cs ih =>
    have hlater := ih (q.push c) rfl
    rw [List.flatMap_cons, Text.Utf8.encode_append, Text.Utf8.encode_cons, List.reverse_append,
      List.append_assoc]
    refine (leads_escapeChar q hq c).append ?_
    simpa [push] using hlater

/-- The state at the end of a string. -/
def holding (s : String) : Quotation :=
  ⟨(Text.Utf8.ofString s).reverse, .none⟩

theorem leads_holding (s : String) :
    Leads Step empty (encode (s.toList.flatMap escapeChar)) (holding s) := by
  have h := leads_escapeChars empty rfl s.toList
  rwa [show empty.octets = [] from rfl, List.append_nil] at h

/-- At its closing quote a string is the text whose octets it holds. -/
theorem feed_quote (s : String) : (holding s).feed (octet '"') = .closed s := by
  have hsound : Text.Utf8.malformedAt (Text.Utf8.ofString s) = none :=
    Text.Utf8.malformedAt_encode s.toList
  show close _ = _
  simp only [holding, close, List.reverse_reverse, hsound, Text.Utf8.toText_ofString]

end Quotation

/-! ## Whole numbers -/

namespace Numeral

/-- A number goes on. -/
def Step (n : Numeral) (b : UInt8) (longer : Numeral) : Prop :=
  n.feed b = .ok (some longer)

/-- A number whose digits so far spell `n`. A zero at its front is all of it. -/
def ofDigits (negative : Bool) (n : Nat) : Numeral :=
  { empty negative with phase := if n = 0 then .zero else .whole, significand := n }

theorem octet_digitChar : ∀ d < 10, encode [Nat.digitChar d] = [octet (Nat.digitChar d)]
    ∧ digitOf? (octet (Nat.digitChar d)) = some d := by
  decide

theorem step_sign (negative : Bool) {b : UInt8} {d : Nat} (h : digitOf? b = some d) :
    Step (empty negative) b (ofDigits negative d) := by
  unfold Step feed
  rw [h]
  cases d with
  | zero => rfl
  | succ d => rfl

theorem step_digit (negative : Bool) {n d : Nat} {b : UInt8} (hn : 0 < n) (h : digitOf? b = some d)
    (hword : n * 10 + d ≤ Text.maxWord) :
    Step (ofDigits negative n) b (ofDigits negative (n * 10 + d)) := by
  have hphase : (ofDigits negative n).phase = .whole := if_neg (by omega)
  unfold Step feed
  rw [hphase, h]
  simp only [ofDigits, empty, if_neg (show ¬n = 0 by omega),
    if_neg (show ¬n * 10 + d = 0 by omega), if_pos hword]

/-- **The digits of a number** spell it, and the first of them is zero only if it is the only
one. -/
theorem leads_toDigits (negative : Bool) (n : Nat) (hword : n ≤ Text.maxWord) :
    ∃ c cs d, Nat.toDigits 10 n = c :: cs ∧ encode [c] = [octet c] ∧ digitOf? (octet c) = some d
      ∧ Leads Step (ofDigits negative d) (encode cs) (ofDigits negative n) := by
  induction n using Nat.strongRecOn with
  | _ n ih =>
    by_cases hsmall : n < 10
    · obtain ⟨hencode, hdigit⟩ := octet_digitChar n hsmall
      exact ⟨_, [], n, Nat.toDigits_of_lt_base hsmall, hencode, hdigit, .nil _⟩
    · -- the digits of `n / 10` are no lone zero, so that one more digit may follow them
      obtain ⟨c, cs, d, hfront, hc, hd, hleads⟩ := ih (n / 10) (by omega) (by omega)
      obtain ⟨hencode, hdigit⟩ := octet_digitChar (n % 10) (by omega)
      have hlast := step_digit negative (n := n / 10) (by omega) hdigit (by omega)
      rw [show n / 10 * 10 + n % 10 = n by omega] at hlast
      refine ⟨c, cs ++ [Nat.digitChar (n % 10)], d, ?_, hc, hd, ?_⟩
      · rw [Nat.toDigits_of_base_le (by decide) (by omega), hfront, List.cons_append]
      · rw [Text.Utf8.encode_append, hencode]
        exact hleads.append (.single hlast)

/-- A number may end after its digits. -/
theorem value?_ofDigits (n : Nat) : (ofDigits false n).value? = some (.integer n) := by
  unfold value? ofDigits
  by_cases hn : n = 0 <;> simp [hn, empty]

theorem value?_ofDigits_negative {n : Nat} (hpos : 0 < n) (hword : n ≤ 9223372036854775808) :
    (ofDigits true n).value? = some (.integer (-n)) := by
  have hlimit : ¬2 ^ (63 : Nat) < n := Nat.not_lt.mpr hword
  have hphase : (ofDigits true n).phase = .whole := if_neg (by omega)
  unfold value?
  rw [hphase]
  simp only [ofDigits, empty, hlimit, Bool.not_true, Bool.false_eq_true, if_false,
    show ¬n = 0 by omega, decide_false, Bool.or_self]

end Numeral

end ActivityFeed.Json
