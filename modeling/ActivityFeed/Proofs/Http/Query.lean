import ActivityFeed.Http.Request
import ActivityFeed.Proofs.Frame.Lines
import ActivityFeed.Proofs.Json.Tokens

/-!
# What a server reads in the query of a request

A server cuts a query at its ampersands and each part at its first `=`, takes a `+` for a blank and
then the escapes for their octets (`parameters`). Names and values are written such that none of
these signs is left in them (`mem_formText`) and that they are read as they were
(`formValue_formText`). So whatever the query of the configured address is, what was appended to it
is read behind it (`parameters_withPairs`), and the request for the stream says from which record on
it is meant.

Main result: `parameters_forStream`.
-/

namespace ActivityFeed.Http

open Text.Utf8 (encode)
open Json (octet)

/-! ## What is read -/

/-- A blank for a `+`. -/
def blankForPlus (b : UInt8) : UInt8 :=
  if b = octet '+' then octet ' ' else b

/-- The octets that a name or value in a query stands for. -/
def formValue (cs : List Char) : List UInt8 :=
  unescape ((encode cs).map blankForPlus)

/-- The name and the value in a part of a query. -/
def parameter (part : List Char) : List UInt8 × List UInt8 :=
  (formValue (part.takeWhile (· != '=')), formValue ((part.dropWhile (· != '=')).drop 1))

/-- The names and values in a query. Parts without anything in them do not count. -/
def parameters (query : List Char) : List (List UInt8 × List UInt8) :=
  ((Text.splitAt '&' query).filter fun part => !part.isEmpty).map parameter

/-! ## Names and values -/

theorem unescape_cons_of_ne {b : UInt8} (h : b ≠ octet '%') (rest : List UInt8) :
    unescape (b :: rest) = b :: unescape rest := by
  have hb : (b == 0x25) = false := beq_eq_false_iff_ne.mpr h
  match rest with
  | [] => rfl
  | [_] => rfl
  | _ :: _ :: _ => rw [unescape, hb]

/-- The octets of an escape. -/
def escapeOctets (b : UInt8) : List UInt8 :=
  [octet '%', octet (upperHexDigit (b.toNat / 16)), octet (upperHexDigit (b.toNat % 16))]

theorem hexValue?_upperHexDigit : ∀ n < 16, hexValue? (octet (upperHexDigit n)) = some n := by
  decide

theorem unescape_escapeOctets (b : UInt8) (rest : List UInt8) :
    unescape (escapeOctets b ++ rest) = b :: unescape rest := by
  have hb : b.toNat < 256 := b.toNat_lt
  simp only [escapeOctets, List.cons_append, List.nil_append]
  rw [unescape, hexValue?_upperHexDigit _ (by omega), hexValue?_upperHexDigit _ (by omega)]
  show UInt8.ofNat (b.toNat / 16 * 16 + b.toNat % 16) :: unescape rest = _
  rw [Nat.div_add_mod', UInt8.ofNat_toNat]

/-- How an octet is written: as what stands for it, or as its escape. -/
theorem octets_formOctet (b : UInt8) :
    (encode (formOctet b)).map blankForPlus = [b] ∧ b ≠ octet '%'
      ∨ (encode (formOctet b)).map blankForPlus = escapeOctets b := by
  have hall : ∀ n < 256, (encode (formOctet (UInt8.ofNat n))).map blankForPlus = [UInt8.ofNat n]
        ∧ UInt8.ofNat n ≠ octet '%'
      ∨ (encode (formOctet (UInt8.ofNat n))).map blankForPlus = escapeOctets (UInt8.ofNat n) := by
    decide +kernel
  simpa using hall b.toNat b.toNat_lt

/-- **Names and values are read as they were.** -/
theorem formValue_formText (s : String) : formValue (formText s) = Text.Utf8.ofString s := by
  unfold formValue formText
  induction Text.Utf8.ofString s with
  | nil => rfl
  | cons b rest ih =>
    rw [List.flatMap_cons, Text.Utf8.encode_append, List.map_append]
    rcases octets_formOctet b with ⟨hplain, hb⟩ | hescape
    · rw [hplain, List.singleton_append, unescape_cons_of_ne hb, ih]
    · rw [hescape, unescape_escapeOctets, ih]

/-- Names and values are written without the signs between them. -/
theorem mem_formText {s : String} {c : Char} (h : c ∈ formText s) : c ≠ '&' ∧ c ≠ '=' := by
  have hall : ∀ n < 256,
      (formOctet (UInt8.ofNat n)).all (fun c => decide (c ≠ '&' ∧ c ≠ '=')) = true := by
    decide +kernel
  obtain ⟨b, -, hc⟩ := List.mem_flatMap.mp h
  have hb := List.all_eq_true.mp (hall b.toNat b.toNat_lt) c (by simpa using hc)
  exact of_decide_eq_true hb

/-! ## Pairs -/

/-- A name and its value in a query. -/
def pairText (pair : String × String) : List Char :=
  formText pair.1 ++ '=' :: formText pair.2

/-- The octets of a name and of its value. -/
def pairOctets (pair : String × String) : List UInt8 × List UInt8 :=
  (Text.Utf8.ofString pair.1, Text.Utf8.ofString pair.2)

theorem parameter_pairText (pair : String × String) :
    parameter (pairText pair) = pairOctets pair := by
  have hname : ∀ c ∈ formText pair.1, (c != '=') = true := fun c hc =>
    bne_iff_ne.mpr (mem_formText hc).2
  unfold parameter pairText
  rw [List.takeWhile_append_of_pos hname, List.dropWhile_append_of_pos hname,
    List.takeWhile_cons_of_neg (by decide), List.dropWhile_cons_of_neg (by decide),
    List.append_nil, List.drop_one, List.tail_cons, formValue_formText, formValue_formText]
  rfl

theorem splitAt_pairText (pair : String × String) :
    Text.splitAt '&' (pairText pair) = [pairText pair] := by
  refine Text.splitAt_of_not_mem fun h => ?_
  rcases List.mem_append.mp h with hname | hvalue
  · exact (mem_formText hname).1 rfl
  · rcases List.mem_cons.mp hvalue with hsign | hvalue
    · exact absurd hsign (by decide)
    · exact (mem_formText hvalue).1 rfl

theorem parameters_pairText (pair : String × String) :
    parameters (pairText pair) = [pairOctets pair] := by
  have hfull : [pairText pair].filter (fun part => !part.isEmpty) = [pairText pair] := by
    simp [pairText]
  rw [parameters, splitAt_pairText, hfull, List.map_singleton, parameter_pairText]

/-- What stands between ampersands is read on its own. -/
theorem parameters_append_cons (x y : List Char) :
    parameters (x ++ '&' :: y) = parameters x ++ parameters y := by
  rw [parameters, Text.splitAt_append_cons, List.filter_append, List.map_append]
  rfl

theorem parameters_intercalate (parts : List (List Char)) :
    parameters (List.intercalate ['&'] parts) = parts.flatMap parameters := by
  induction parts with
  | nil => rfl
  | cons part parts ih =>
    cases parts with
    | nil => simp [List.intercalate]
    | cons next parts =>
      rw [List.intercalate_cons_cons, List.append_assoc, List.singleton_append,
        parameters_append_cons, ih]
      rfl

/-- **What is appended to a query is read behind it.** -/
theorem parameters_withPairs (u : Url) (pairs : List (String × String)) :
    parameters ((u.withPairs pairs).query.getD "").toList
      = parameters (u.query.getD "").toList ++ pairs.map pairOctets := by
  have hpairs : (pairs.map pairText).flatMap parameters = pairs.map pairOctets := by
    rw [List.flatMap_map, List.map_eq_flatMap]
    exact congrArg (pairs.flatMap ·) (funext parameters_pairText)
  have hquery : (u.withPairs pairs).query
      = let given := (u.query.getD "").toList
        let all := if given.isEmpty then pairs.map pairText else given :: pairs.map pairText
        if all.isEmpty then none else some (String.ofList (List.intercalate ['&'] all)) := rfl
  have hall : ∀ all : List (List Char),
      parameters ((if all.isEmpty then none
          else some (String.ofList (List.intercalate ['&'] all))).getD "").toList
        = all.flatMap parameters := by
    intro all
    cases all with
    | nil => rfl
    | cons part parts =>
      rw [if_neg (by simp), Option.getD_some, String.toList_ofList, parameters_intercalate]
  rw [hquery, hall, ← hpairs]
  split
  next hnone => rw [List.isEmpty_iff.mp hnone]; rfl
  next => rfl

/-! ## The request for the stream -/

open Request

/-- A request that can be sent goes to the configured address, with names and values appended. -/
theorem Request.url_of_build {address : String} {token : Option String}
    {pairs headers : List (String × String)} {r : Request}
    (h : Request.build address token pairs headers = .ok r) :
    ∃ url, Url.ofText? address = some url ∧ r.url = url.withoutCredentials.withPairs pairs := by
  unfold Request.build at h
  split at h
  next => cases h
  next url hurl =>
    refine ⟨url, hurl, ?_⟩
    split at h
    next => cases h
    next =>
      cases htoken : Request.tokenHeader token with
      | error flaw =>
        rw [htoken] at h
        cases h
      | ok authorization =>
        rw [htoken] at h
        replace h : (if Request.isUsable (url.withoutCredentials.withPairs pairs) = true then
          Except.ok _ else _) = _ := h
        split at h
        next => cases h; rfl
        next => cases h

/-- **A server reads from which record on the stream is meant**, behind what the configured address
asks for itself. -/
theorem parameters_forStream {c : Config} {since : Option Instant} {r : Request}
    (h : Request.forStream c since = .ok r) :
    ∃ url, Url.ofText? c.streamUrl = some url
      ∧ parameters (r.url.query.getD "").toList
        = parameters (url.query.getD "").toList
          ++ ((since.map fun t => ("since", t.cursor)).toList ++ Request.boardPair c.board).map
            pairOctets := by
  obtain ⟨url, hurl, hr⟩ := Request.url_of_build h
  refine ⟨url, hurl, ?_⟩
  rw [hr, parameters_withPairs]
  rfl

end ActivityFeed.Http
