import WattxCore.Prelude.Primitives
import Mathlib.Data.Nat.Digits

/-!
The address functions of `netaddress.cpp` and `netbase.cpp` that the heartbeat wire format and
the peers file depend on. They are not part of the validator core's sources. Both formats hold
an address as its `ToStringAddrPort` text, so an address travels intact exactly when
`LookupNumeric` reads it back from that text; the library does so for numeric addresses, and
not for the `NET_INTERNAL` ones, which it prints as a name.

* `NetApi.ReadsBack`: an address prints to a non-empty text that `LookupNumeric`, with the
  default port 18888 both formats use, reads back to the address;
* `NetApi.decimal`: an address API modelled from the spec, which prints an address as its
  two numbers in decimal around a colon; `decimal_readsBack`, `decimal_plain`: every address
  reads back, from a text without blanks;
* `NetApi.withInternal`: the decimal API with `NET_INTERNAL` addresses added;
  `withInternal_lookup_internal`: the text of an internal address reads as the default
  address; `withInternal_readsBack`: every other address reads back.
-/

namespace WattxCore

/-- The blanks `std::getline` splits at and `LoadPeersFromConfig` trims. -/
def isBlank (ch : Char) : Bool := ch == ' ' || ch == '\t' || ch == '\r' || ch == '\n'

/-- The address `s` travels as its text: `ToStringAddrPort` prints it to a non-empty text,
which `LookupNumeric(text, 18888)` reads back to `s`. -/
structure NetApi.ReadsBack (net : NetApi) (s : Service) : Prop where
  nonempty : net.toStringAddrPort s ≠ ""
  lookup_print : net.lookupNumeric (net.toStringAddrPort s) 18888 = s

/-! ### Decimal addresses -/

/-- Modelled from the spec: the decimal digits of `n`, most significant first. -/
def decimalDigits (n : Nat) : List Char :=
  if n = 0 then ['0'] else (Nat.digits 10 n).reverse.map fun d => Char.ofNat (48 + d)

/-- Modelled from the spec: the number a non-empty run of decimal digits spells. -/
def readDecimal (cs : List Char) : Option Nat :=
  if cs ≠ [] ∧ ∀ ch ∈ cs, ch.isDigit = true then
    some (Nat.ofDigits 10 (cs.reverse.map fun ch => ch.toNat - 48))
  else none

/-- Modelled from the spec: `LookupNumeric(text, defaultPort)` on `host` or `host:port`, both
decimal numbers; any other text reads as the default address. -/
def lookupDecimal (text : String) (defaultPort : Nat) : Service :=
  match readDecimal (text.data.takeWhile (· != ':')), text.data.dropWhile (· != ':') with
  | some a, [] => ⟨a, defaultPort⟩
  | some a, _ :: port => (readDecimal port).elim Service.none (⟨a, ·⟩)
  | none, _ => Service.none

/-- Modelled from the spec: an address API in which an address prints as `addr:port` in
decimal and reads back from that text; the unspecified address `0` is not valid. -/
def NetApi.decimal : NetApi where
  isValid s := s.addr != 0
  toStringAddrPort s := ⟨decimalDigits s.addr ++ ':' :: decimalDigits s.port⟩
  lookupNumeric := lookupDecimal

/-- The character of a decimal digit `d < 10`: a digit, neither a colon nor a blank, that
reads back as `d`. -/
lemma digitChar_spec : ∀ d < 10, (Char.ofNat (48 + d)).isDigit = true ∧ Char.ofNat (48 + d) ≠ ':' ∧
    isBlank (Char.ofNat (48 + d)) = false ∧ (Char.ofNat (48 + d)).toNat - 48 = d := by
  decide

/-- Every character of a decimal is the character of a digit. -/
lemma mem_decimalDigits {n : Nat} {ch : Char} (h : ch ∈ decimalDigits n) :
    ∃ d < 10, ch = Char.ofNat (48 + d) := by
  unfold decimalDigits at h
  split_ifs at h
  · exact ⟨0, by decide, List.mem_singleton.mp h⟩
  · obtain ⟨d, hd, rfl⟩ := List.mem_map.mp h
    exact ⟨d, Nat.digits_lt_base (by norm_num) (List.mem_reverse.mp hd), rfl⟩

/-- No character of a decimal is a colon or a blank. -/
lemma decimalDigits_plain (n : Nat) : ∀ ch ∈ decimalDigits n, (ch != ':') = true ∧ isBlank ch = false :=
  fun _ h => by
    obtain ⟨d, hd, rfl⟩ := mem_decimalDigits h
    exact ⟨by simpa using (digitChar_spec d hd).2.1, (digitChar_spec d hd).2.2.1⟩

lemma readDecimal_decimalDigits (n : Nat) : readDecimal (decimalDigits n) = some n := by
  have hne : decimalDigits n ≠ [] := by
    unfold decimalDigits; split_ifs with h
    · simp
    · simpa using Nat.digits_ne_nil_iff_ne_zero.mpr h
  have hdig : ∀ ch ∈ decimalDigits n, ch.isDigit = true := fun ch h => by
    obtain ⟨d, hd, rfl⟩ := mem_decimalDigits h
    exact (digitChar_spec d hd).1
  rw [readDecimal, if_pos ⟨hne, hdig⟩, Option.some_inj]
  unfold decimalDigits
  split_ifs with h
  · simp [h]
  · simp only [List.map_map, List.map_reverse, List.reverse_reverse]
    conv_rhs => rw [← Nat.ofDigits_digits 10 n]
    congr 1
    refine (List.map_congr_left fun d hd => ?_).trans (List.map_id _)
    exact (digitChar_spec d (Nat.digits_lt_base (by norm_num) hd)).2.2.2

/-- A decimal address text is a colon between two runs of digits. -/
lemma decimal_text (s : Service) :
    (NetApi.decimal.toStringAddrPort s).data = decimalDigits s.addr ++ ':' :: decimalDigits s.port := rfl

/-- The decimal text of an address has no blank. -/
theorem decimal_plain (s : Service) :
    ∀ ch ∈ (NetApi.decimal.toStringAddrPort s).data, isBlank ch = false := fun ch h => by
  rw [decimal_text, List.mem_append, List.mem_cons] at h
  rcases h with h | rfl | h
  exacts [(decimalDigits_plain _ ch h).2, rfl, (decimalDigits_plain _ ch h).2]

/-- `LookupNumeric` reads a decimal address back from its text, whatever the default port. -/
lemma lookupDecimal_print (s : Service) (port : Nat) :
    lookupDecimal (NetApi.decimal.toStringAddrPort s) port = s := by
  have hcolon : ∀ n, ∀ ch ∈ decimalDigits n, (ch != ':') = true := fun n ch h =>
    (decimalDigits_plain n ch h).1
  have htake : ∀ l, (':' :: l).takeWhile (· != ':') = [] := fun _ => rfl
  have hdrop : ∀ l, (':' :: l).dropWhile (· != ':') = ':' :: l := fun _ => rfl
  simp only [lookupDecimal, decimal_text, List.takeWhile_append_of_pos (hcolon _),
    List.dropWhile_append_of_pos (hcolon _), htake, hdrop, List.append_nil, readDecimal_decimalDigits]
  rfl

/-- **Every decimal address reads back from its text.** -/
theorem decimal_readsBack (s : Service) : NetApi.decimal.ReadsBack s where
  nonempty h := by
    have := congrArg String.length h
    simp [NetApi.decimal] at this
  lookup_print := lookupDecimal_print s 18888

/-! ### Internal addresses -/

/-- Modelled after `netaddress.cpp` and `netbase.cpp`, which are not among the sources: the
addresses `internal` picks are `NET_INTERNAL` ones, which `CNetAddr::SetInternal` makes from a
seed name. `IsValid` is false for them, and `ToStringAddrPort` prints one as a name ending in
`.internal` (the base-32 hash of the seed name in the library, here the address number)
followed by the port. `LookupNumeric` parses numeric hosts only, as `lookupDecimal` does. Every
other address is printed as by `NetApi.decimal`. -/
def NetApi.withInternal (internal : Service → Bool) : NetApi where
  isValid s := s.addr != 0 && !internal s
  toStringAddrPort s :=
    if internal s then ⟨decimalDigits s.addr ++ ".internal:".data ++ decimalDigits s.port⟩
    else NetApi.decimal.toStringAddrPort s
  lookupNumeric := lookupDecimal

section Internal

variable {internal : Service → Bool} {s : Service}

/-- **`LookupNumeric` reads the text of an internal address as the default address**: the host
part of the text is the name, which is not a number. -/
theorem withInternal_lookup_internal (h : internal s = true) (port : Nat) :
    (NetApi.withInternal internal).lookupNumeric ((NetApi.withInternal internal).toStringAddrPort s) port =
      Service.none := by
  have hcolon : ∀ ch ∈ decimalDigits s.addr, (ch != ':') = true := fun ch h =>
    (decimalDigits_plain _ ch h).1
  have hhost : ∀ l, (".internal:".data ++ l).takeWhile (· != ':') = ".internal".data := fun _ => rfl
  have hnum : readDecimal (decimalDigits s.addr ++ ".internal".data) = none := by
    rw [readDecimal, if_neg]
    exact fun h => absurd (h.2 '.' (List.mem_append_right _ (List.mem_cons_self _ _))) (by decide)
  simp only [NetApi.withInternal, h, if_true, lookupDecimal, List.append_assoc,
    List.takeWhile_append_of_pos hcolon, hhost, hnum]

/-- Every address that is not internal reads back from its text. -/
theorem withInternal_readsBack (h : internal s = false) : (NetApi.withInternal internal).ReadsBack s where
  nonempty := by simpa only [NetApi.withInternal, h] using (decimal_readsBack s).nonempty
  lookup_print := by simpa only [NetApi.withInternal, h] using (decimal_readsBack s).lookup_print

end Internal

end WattxCore
