import Mathlib.Data.List.Basic
import Mathlib.Data.List.GetD
import Mathlib.Algebra.Ring.Int.Defs

/-!
# Identifiers, events and the transaction discipline

Both services of the pipeline are built from the same pieces: identifiers that
travel as text and are parsed back with `uuid.Parse`, the two protobuf events,
the status codes of the gRPC surface, and `Repo.WithTx`, which runs a closure
over one Postgres transaction and commits only when the closure returned `nil`.
This module models those pieces once.

## Main definitions

* `Uuid`, `uuidParse` — an identifier and its canonical text; `uuidParse` is
  `uuid.Parse` followed by `UUID.String`, over every spelling the library accepts.
  `uuidParse_text` is the round trip `uuid.Parse(u.String()) = u` every hop of the
  pipeline relies on.
* `PaymentRequested`, `PaymentResult`, `Payload` — the events of the two topics
  and what `proto.Unmarshal` recovers from a message value.
* `TxError`, `roundTrip`, `autocommit`, `withTx` — the errors a transaction body
  returns, one database round trip, a write outside a transaction, and the
  commit-or-rollback discipline of `Repo.WithTx`.
* `toInt32` — Go's `int32(n)`, which the gateway's page token and the outbox
  publisher's batch size go through.
* `flipCount` — how many steps of a run turn a property of the state true;
  `flipCount_le_one` bounds it by one for a property no step takes back, which
  is how every "at most once" law of the pipeline is stated.

## Design notes

**Transactions are atomic steps.**  Every handler runs its statements inside one
`WithTx` (or as one autocommit statement), and the statements that could race —
`INSERT … ON CONFLICT DO NOTHING` on a primary or unique key, and single-row
`UPDATE … RETURNING` — make a concurrent transaction on the same key wait for the
first one to end.  A handler is therefore modelled as a function from the
committed state to the state it commits, and concurrency as the interleaving of
whole transactions.

**Faults are arguments.**  A round trip that the environment makes fail (a lost
connection, a server error) is chosen by a `Bool` the caller passes; the closure
then returns a driver error, and `withTx` rolls everything back.  Fresh
identifiers and timestamps are arguments in the same way.

**A commit can succeed behind an error.**  The reply to the round trip that
commits — `COMMIT`, or a write outside a transaction — can be lost after the
server has committed: the connection drops, or the caller's context is cancelled
(the gateway gives every RPC five seconds).  pgx then returns an error for a
write that stands.  `withTx` and `autocommit` take that as one more `Bool`, and
return the state the server keeps beside what the caller sees.

**`uuid.Parse` reads bytes.**  Go indexes a string by byte, so `uuidParse` runs on
`s.toUTF8`: the 36-byte form, the same with an `urn:uuid:` prefix of either case,
the same inside any two enclosing bytes (the library checks no braces), and 32
bare hex digits, each digit of either case.  `UUID.String` prints the sixteen
bytes back in lower case, so every spelling of an identifier parses to the one
`Uuid` whose text is canonical.  The library is not among the sources; the model
follows `Parse` as the `google/uuid` v1 releases write it.
-/

namespace PaymentsService

/-! ## Identifiers -/

/-- A lower-case hexadecimal digit, as `uuid.UUID.String` prints them. -/
def isHexDigit (c : Char) : Bool := c.isDigit || ('a' ≤ c && c ≤ 'f')

/-- The canonical 36-character text of a UUID: lower-case hex digits in groups of
8-4-4-4-12 separated by `-`.  It is the form `uuid.NewString`, `UUID.String` and
Postgres print, so it is the form every identifier of this pipeline is written in. -/
def isUuidText (s : String) : Bool :=
  let l := s.toList
  l.length == 36 && (l.take 8).all isHexDigit && l.getD 8 ' ' == '-' &&
    ((l.drop 9).take 4).all isHexDigit && l.getD 13 ' ' == '-' &&
    ((l.drop 14).take 4).all isHexDigit && l.getD 18 ' ' == '-' &&
    ((l.drop 19).take 4).all isHexDigit && l.getD 23 ' ' == '-' && (l.drop 24).all isHexDigit

/-- A UUID, kept as its canonical text.  The field makes a malformed identifier
impossible to build, so `uuidParse_text` needs no hypothesis. -/
structure Uuid where
  text : String
  canonical : isUuidText text = true

instance : DecidableEq Uuid := fun a b =>
  decidable_of_iff (a.text = b.text) (by cases a; cases b; simp)

instance : Repr Uuid := ⟨fun u _ => repr u.text⟩

theorem Uuid.text_injective : Function.Injective Uuid.text := by
  rintro ⟨a, _⟩ ⟨b, _⟩ h
  cases h
  rfl

@[simp] theorem Uuid.text_inj {a b : Uuid} : a.text = b.text ↔ a = b :=
  Uuid.text_injective.eq_iff

theorem Uuid.text_ne_empty (u : Uuid) : u.text ≠ "" := by
  intro h
  have := u.canonical
  rw [h] at this
  exact absurd this (by decide)

/-! ### `uuid.Parse` -/

/-- `xvalues`: the value of the hexadecimal digit whose byte is `b`, of either
case; `255` in the library's table, `none` here, for any other byte. -/
def xvalue (b : UInt8) : Option (Fin 16) :=
  if h : 48 ≤ b.toNat ∧ b.toNat ≤ 57 then some ⟨b.toNat - 48, by omega⟩
  else if h : 97 ≤ b.toNat ∧ b.toNat ≤ 102 then some ⟨b.toNat - 87, by omega⟩
  else if h : 65 ≤ b.toNat ∧ b.toNat ≤ 70 then some ⟨b.toNat - 55, by omega⟩
  else none

/-- `xtob(x1, x2)`: the byte two hexadecimal digits spell. -/
def xtob (x1 x2 : UInt8) : Option (Fin 256) := do
  let hi ← xvalue x1
  let lo ← xvalue x2
  pure ⟨hi * 16 + lo, by omega⟩

/-- One `xtob` per pair of consecutive bytes. -/
def hexPairs : List UInt8 → Option (List (Fin 256))
  | [] => some []
  | [_] => none
  | x1 :: x2 :: rest => do
    let b ← xtob x1 x2
    let bs ← hexPairs rest
    pure (b :: bs)

/-- The dashed form `xxxxxxxx-xxxx-xxxx-xxxx-xxxxxxxxxxxx` as `Parse` reads it:
`-` at 8, 13, 18 and 23, then `xtob` at offsets 0, 2, 4, 6 | 9, 11 | 14, 16 |
19, 21 | 24, …, 34, here group by group.  Bytes past the 36th are not read. -/
def parseDashed (s : List UInt8) : Option (List (Fin 256)) :=
  if s.getD 8 0 = 45 ∧ s.getD 13 0 = 45 ∧ s.getD 18 0 = 45 ∧ s.getD 23 0 = 45 then do
    let a ← hexPairs (s.take 8)
    let b ← hexPairs ((s.drop 9).take 4)
    let c ← hexPairs ((s.drop 14).take 4)
    let d ← hexPairs ((s.drop 19).take 4)
    let e ← hexPairs ((s.drop 24).take 12)
    pure (a ++ b ++ c ++ d ++ e)
  else none

/-- The ASCII lower case of a byte. -/
def asciiLower (b : UInt8) : UInt8 := if 65 ≤ b.toNat ∧ b.toNat ≤ 90 then b + 32 else b

/-- `strings.EqualFold(s[:9], "urn:uuid:")`.  No rune outside ASCII folds to one
of `u`, `r`, `n`, `i`, `d`, `:`, so the comparison is the ASCII one. -/
def isUrnPrefix (s : List UInt8) : Bool :=
  (s.take 9).map asciiLower == [117, 114, 110, 58, 117, 117, 105, 100, 58]

/-- **`uuid.Parse`** on the bytes of a string: the sixteen bytes it decodes, or
`none` for the error. -/
def parseUuid (s : List UInt8) : Option (List (Fin 256)) :=
  match s.length with
  | 36 => parseDashed s
  | 38 => parseDashed (s.drop 1)
  | 45 => if isUrnPrefix s then parseDashed (s.drop 9) else none
  | 32 => hexPairs s
  | _ => none

/-- `hextable[n]`: the lower-case hexadecimal digit of `n`. -/
def hexDigit (n : Fin 16) : Char := if n.val < 10 then Char.ofNat (48 + n.val) else Char.ofNat (87 + n.val)

/-- `hex.Encode`: two lower-case digits per byte. -/
def hexEncode (bs : List (Fin 256)) : List Char :=
  bs.flatMap fun b => [hexDigit ⟨b.val / 16, by omega⟩, hexDigit ⟨b.val % 16, by omega⟩]

/-- **`UUID.String`** (`encodeHex`): the bytes in groups of 4, 2, 2, 2 and 6,
separated by `-`. -/
def uuidString (bs : List (Fin 256)) : String :=
  ⟨hexEncode (bs.take 4) ++ '-' :: (hexEncode ((bs.drop 4).take 2) ++ '-' :: (hexEncode ((bs.drop 6).take 2) ++
    '-' :: (hexEncode ((bs.drop 8).take 2) ++ '-' :: hexEncode (bs.drop 10))))⟩

theorem length_hexPairs : ∀ {l : List UInt8} {bs : List (Fin 256)}, hexPairs l = some bs → bs.length = l.length / 2
  | [], bs, h => by cases h; rfl
  | [_], bs, h => by cases h
  | x1 :: x2 :: rest, bs, h => by
    simp only [hexPairs, Option.bind_eq_bind, Option.bind_eq_some, Option.pure_def, Option.some.injEq] at h
    obtain ⟨b, -, bs', hr, rfl⟩ := h
    simp only [List.length_cons, length_hexPairs hr]
    omega

theorem length_parseDashed {s : List UInt8} (hs : 36 ≤ s.length) {bs : List (Fin 256)}
    (h : parseDashed s = some bs) : bs.length = 16 := by
  unfold parseDashed at h
  split at h
  · simp only [Option.bind_eq_bind, Option.bind_eq_some, Option.pure_def, Option.some.injEq] at h
    obtain ⟨a, ha, b, hb, c, hc, d, hd, e, he, rfl⟩ := h
    simp only [List.length_append, length_hexPairs ha, length_hexPairs hb, length_hexPairs hc,
      length_hexPairs hd, length_hexPairs he, List.length_take, List.length_drop]
    omega
  · cases h

/-- `Parse` returns sixteen bytes. -/
theorem length_parseUuid {s : List UInt8} {bs : List (Fin 256)} (h : parseUuid s = some bs) : bs.length = 16 := by
  unfold parseUuid at h
  split at h
  · exact length_parseDashed (by omega) h
  · exact length_parseDashed (by simp; omega) h
  · split at h
    · exact length_parseDashed (by simp; omega) h
    · cases h
  · rw [length_hexPairs h]; omega
  · cases h

theorem isHexDigit_hexDigit : ∀ n : Fin 16, isHexDigit (hexDigit n) = true := by decide

@[simp] theorem length_hexEncode (bs : List (Fin 256)) : (hexEncode bs).length = 2 * bs.length := by
  induction bs with
  | nil => rfl
  | cons b bs ih => simp [hexEncode] at ih ⊢; omega

/-- A canonical text, assembled from its five groups. -/
theorem isUuidText_mk {a b c d e : List Char} (ha : a.length = 8) (hb : b.length = 4) (hc : c.length = 4)
    (hd : d.length = 4) (he : e.length = 12) (hx : (a ++ b ++ c ++ d ++ e).all isHexDigit = true) :
    isUuidText ⟨a ++ '-' :: (b ++ '-' :: (c ++ '-' :: (d ++ '-' :: e)))⟩ = true := by
  simp only [List.all_append, Bool.and_eq_true] at hx
  obtain ⟨⟨⟨⟨ha', hb'⟩, hc'⟩, hd'⟩, he'⟩ := hx
  simp [-List.getD_eq_getElem?_getD, isUuidText, String.toList, ha, hb, hc, hd, he, ha', hb', hc', hd', he',
    List.take_append_eq_append_take, List.drop_append_eq_append_drop, List.getD_append_right,
    List.take_of_length_le, List.drop_eq_nil_of_le]

/-- `UUID.String` prints a canonical text. -/
theorem isUuidText_uuidString {bs : List (Fin 256)} (h : bs.length = 16) : isUuidText (uuidString bs) = true :=
  isUuidText_mk (by simp; omega) (by simp; omega) (by simp; omega) (by simp; omega) (by simp; omega)
    (by simp [hexEncode, isHexDigit_hexDigit])

theorem hexDigit_injective : Function.Injective hexDigit := by
  intro a b h
  revert a b
  decide

theorem hexDigit_ne_dash (n : Fin 16) : hexDigit n ≠ '-' := by
  revert n
  decide

theorem hexEncode_append (a b : List (Fin 256)) : hexEncode (a ++ b) = hexEncode a ++ hexEncode b :=
  List.flatMap_append _ _ _

theorem hexEncode_injective : Function.Injective hexEncode := by
  intro a b h
  induction a generalizing b with
  | nil =>
    cases b with
    | nil => rfl
    | cons => simp [hexEncode] at h
  | cons x a ih =>
    cases b with
    | nil => simp [hexEncode] at h
    | cons y b =>
      simp only [hexEncode, List.flatMap_cons, List.cons_append, List.nil_append, List.cons.injEq] at h
      obtain ⟨h1, h2, h3⟩ := h
      have e1 := Fin.val_eq_of_eq (hexDigit_injective h1)
      have e2 := Fin.val_eq_of_eq (hexDigit_injective h2)
      rw [ih h3, Fin.ext_iff.2 (show x.val = y.val by simp only at e1 e2; omega)]

theorem filter_hexEncode (bs : List (Fin 256)) : (hexEncode bs).filter (· != '-') = hexEncode bs :=
  List.filter_eq_self.2 fun c hc => by
    obtain ⟨b, -, hb⟩ := List.mem_flatMap.1 hc
    simp only [List.mem_cons, List.mem_singleton, List.not_mem_nil, or_false] at hb
    rcases hb with rfl | rfl <;> simp [hexDigit_ne_dash]

/-- Dropping the dashes of `UUID.String` leaves the hex of the bytes. -/
theorem filter_uuidString (bs : List (Fin 256)) : (uuidString bs).toList.filter (· != '-') = hexEncode bs := by
  have h6 : bs.take 4 ++ ((bs.drop 4).take 2 ++ ((bs.drop 6).take 2 ++ ((bs.drop 8).take 2 ++ bs.drop 10))) = bs := by
    rw [show bs.drop 10 = (bs.drop 8).drop 2 by simp [List.drop_drop], List.take_append_drop,
      show bs.drop 8 = (bs.drop 6).drop 2 by simp [List.drop_drop], List.take_append_drop,
      show bs.drop 6 = (bs.drop 4).drop 2 by simp [List.drop_drop], List.take_append_drop, List.take_append_drop]
  conv_rhs => rw [← h6]
  simp only [uuidString, String.toList, List.filter_append, List.filter_cons, filter_hexEncode, hexEncode_append]
  simp

/-- **`UUID.String` tells bytes apart.** -/
theorem uuidString_injective : Function.Injective uuidString := fun a b h =>
  hexEncode_injective (by rw [← filter_uuidString, h, filter_uuidString])

/-- **`uuid.Parse`, then `UUID.String`**: the identifier a string names, when
`Parse` accepts its bytes. -/
def uuidParse (s : String) : Option Uuid :=
  match h : parseUuid s.toUTF8.data.toList with
  | some bs => some ⟨uuidString bs, isUuidText_uuidString (length_parseUuid h)⟩
  | none => none

/-- A spelling with upper-case digits names the identifier of its lower-case text. -/
example : (uuidParse "00000000-0000-0000-0000-00000000000A").map (·.text) =
    some "00000000-0000-0000-0000-00000000000a" := by decide

theorem uuidParse_eq_some {s : String} {u : Uuid} :
    uuidParse s = some u ↔ ∃ bs, parseUuid s.toUTF8.data.toList = some bs ∧ uuidString bs = u.text := by
  unfold uuidParse
  split
  · next bs h =>
    constructor
    · rintro ⟨⟩; exact ⟨bs, h, rfl⟩
    · rintro ⟨bs', h', hu⟩
      obtain rfl : bs = bs' := Option.some.inj (h.symm.trans h')
      exact congrArg some (Uuid.text_injective hu)
  · next h => simp [h]

theorem eq_take_cons_drop {α : Type} {l : List α} {n : Nat} {x d : α} (hn : n < l.length)
    (hx : l.getD n d = x) : l = l.take n ++ x :: l.drop (n + 1) := by
  rw [← hx, List.getD_eq_getElem _ _ hn, List.getElem_cons_drop, List.take_append_drop]

theorem getD_drop {α : Type} (l : List α) (n k : Nat) (d : α) : (l.drop n).getD k d = l.getD (n + k) d := by
  simp [List.getD_eq_getElem?_getD, List.getElem?_drop]

/-- **The five groups of a canonical text.** -/
theorem eq_groups_of_isUuidText {s : String} (h : isUuidText s = true) :
    ∃ a b c d e : List Char, s.toList = a ++ '-' :: (b ++ '-' :: (c ++ '-' :: (d ++ '-' :: e))) ∧
      a.length = 8 ∧ b.length = 4 ∧ c.length = 4 ∧ d.length = 4 ∧ e.length = 12 ∧
      (a ++ b ++ c ++ d ++ e).all isHexDigit = true := by
  simp only [isUuidText, Bool.and_eq_true, beq_iff_eq] at h
  obtain ⟨⟨⟨⟨⟨⟨⟨⟨⟨hl, ha⟩, h8⟩, hb⟩, h13⟩, hc⟩, h18⟩, hd⟩, h23⟩, he⟩ := h
  generalize s.toList = l at *
  refine ⟨l.take 8, (l.drop 9).take 4, (l.drop 14).take 4, (l.drop 19).take 4, l.drop 24, ?_,
    (by simp; omega), (by simp; omega), (by simp; omega), (by simp; omega), (by simp; omega),
    (by simp only [List.all_append, ha, hb, hc, hd, he, Bool.and_self])⟩
  -- each `-` splits what follows it
  have split4 : ∀ n, 4 < (l.drop n).length → ∀ x, l.getD (n + 4) ' ' = x →
      l.drop n = (l.drop n).take 4 ++ x :: l.drop (n + 5) := fun n hn x hx => by
    have h := eq_take_cons_drop hn ((getD_drop l n 4 ' ').trans hx)
    rw [List.drop_drop] at h
    exact h
  rw [← split4 19 (by simp; omega) _ h23, ← split4 14 (by simp; omega) _ h18, ← split4 9 (by simp; omega) _ h13]
  exact eq_take_cons_drop (by omega) h8

/-- Each lower-case digit is `hexDigit` of the value `xvalues` gives its byte. -/
theorem xvalue_of_isHexDigit {c : Char} (h : isHexDigit c = true) :
    ∃ n, xvalue c.val.toUInt8 = some n ∧ hexDigit n = c := by
  have digits : ∀ k < 103, isHexDigit (Char.ofNat k) = true →
      ∃ n ∈ List.finRange 16, xvalue (Char.ofNat k).val.toUInt8 = some n ∧ hexDigit n = Char.ofNat k := by
    decide
  have hc : c.toNat < 103 := by
    simp only [isHexDigit, Char.isDigit, Bool.or_eq_true, Bool.and_eq_true, decide_eq_true_eq] at h
    rcases h with ⟨-, h⟩ | ⟨-, h⟩ <;> exact Nat.lt_of_le_of_lt h (by decide)
  obtain ⟨n, -, hn⟩ := digits c.toNat hc (by rwa [Char.ofNat_toNat])
  rw [Char.ofNat_toNat] at hn
  exact ⟨n, hn⟩

/-- **`xtob` reads back what `hex.Encode` printed**, pair by pair. -/
theorem hexPairs_map : ∀ (a : List Char), a.length % 2 = 0 → a.all isHexDigit = true →
    ∃ A, hexPairs (a.map (·.val.toUInt8)) = some A ∧ hexEncode A = a
  | [], _, _ => ⟨[], rfl, rfl⟩
  | [_], h, _ => absurd h (by simp)
  | x1 :: x2 :: rest, hl, hx => by
    simp only [List.all_cons, Bool.and_eq_true] at hx
    obtain ⟨n1, h1, rfl⟩ := xvalue_of_isHexDigit hx.1
    obtain ⟨n2, h2, rfl⟩ := xvalue_of_isHexDigit hx.2.1
    obtain ⟨A, hA, hE⟩ := hexPairs_map rest (by simp at hl; omega) hx.2.2
    refine ⟨⟨n1 * 16 + n2, by omega⟩ :: A, by simp [hexPairs, xtob, h1, h2, hA], ?_⟩
    have e1 : (⟨(n1 * 16 + n2 : Nat) / 16, by omega⟩ : Fin 16) = n1 := Fin.ext (by simp; omega)
    have e2 : (⟨(n1 * 16 + n2 : Nat) % 16, by omega⟩ : Fin 16) = n2 := Fin.ext (by simp; omega)
    simp only [hexEncode, List.flatMap_cons] at hE ⊢
    rw [e1, e2, hE]
    rfl

theorem toNat_lt_of_isHexDigit {c : Char} (h : isHexDigit c = true) : c.toNat < 128 := by
  simp only [isHexDigit, Char.isDigit, Bool.or_eq_true, Bool.and_eq_true, decide_eq_true_eq] at h
  rcases h with ⟨-, h⟩ | ⟨-, h⟩ <;> exact Nat.lt_of_le_of_lt h (by decide)

/-- An ASCII character is one byte of UTF-8. -/
theorem flatMap_utf8EncodeChar : ∀ {l : List Char}, (∀ c ∈ l, c.toNat < 128) →
    l.flatMap String.utf8EncodeChar = l.map (·.val.toUInt8)
  | [], _ => rfl
  | c :: l, h => by
    have hc : c.val ≤ 0x7f := by
      change c.val.val.val ≤ 127
      exact Nat.le_of_lt_succ (h c (List.mem_cons_self _ _))
    rw [List.flatMap_cons, flatMap_utf8EncodeChar fun x hx => h x (List.mem_cons_of_mem _ hx)]
    simp [String.utf8EncodeChar, hc]

/-- **`uuid.Parse(u.String()) = u`.** -/
@[simp] theorem uuidParse_text (u : Uuid) : uuidParse u.text = some u := by
  obtain ⟨a, b, c, d, e, hs, ha, hb, hc, hd, he, hx⟩ := eq_groups_of_isUuidText u.canonical
  simp only [List.all_append, Bool.and_eq_true] at hx
  obtain ⟨⟨⟨⟨hxa, hxb⟩, hxc⟩, hxd⟩, hxe⟩ := hx
  obtain ⟨A, hA, rfl⟩ := hexPairs_map a (by omega) hxa
  obtain ⟨B, hB, rfl⟩ := hexPairs_map b (by omega) hxb
  obtain ⟨C, hC, rfl⟩ := hexPairs_map c (by omega) hxc
  obtain ⟨D, hD, rfl⟩ := hexPairs_map d (by omega) hxd
  obtain ⟨E, hE, rfl⟩ := hexPairs_map e (by omega) hxe
  simp only [length_hexEncode] at ha hb hc hd he
  replace ha : A.length = 4 := by omega
  replace hb : B.length = 2 := by omega
  replace hc : C.length = 2 := by omega
  replace hd : D.length = 2 := by omega
  replace he : E.length = 6 := by omega
  have hascii : ∀ x ∈ u.text.toList, x.toNat < 128 := by
    rw [hs]
    intro x hx
    simp only [List.mem_append, List.mem_cons] at hx
    rcases hx with hx | rfl | hx | rfl | hx | rfl | hx | rfl | hx
    all_goals first | decide | exact toNat_lt_of_isHexDigit (List.all_eq_true.1 ‹_› x hx)
  rw [uuidParse_eq_some]
  refine ⟨A ++ B ++ C ++ D ++ E, ?_, ?_⟩
  · rw [show u.text.toUTF8.data.toList = u.text.toList.flatMap String.utf8EncodeChar from rfl,
      flatMap_utf8EncodeChar hascii, hs]
    simp [-List.getD_eq_getElem?_getD, parseUuid, parseDashed, ha, hb, hc, hd, he, hA, hB, hC, hD, hE,
      List.take_append_eq_append_take, List.drop_append_eq_append_drop, List.getD_append_right,
      List.take_of_length_le, List.drop_eq_nil_of_le, show UInt32.toUInt8 45 = 45 from rfl]
  · rw [show u.text = ⟨u.text.toList⟩ from rfl, hs]
    simp [uuidString, ha, hb, hc, hd, List.take_append_eq_append_take, List.drop_append_eq_append_drop,
      List.take_of_length_le, List.drop_eq_nil_of_le]

/-- On a canonical text `uuid.Parse` is the identity. -/
theorem eq_text_of_uuidParse {s : String} {u : Uuid} (hs : isUuidText s = true) (h : uuidParse s = some u) :
    s = u.text := by
  have h' := uuidParse_text ⟨s, hs⟩
  rw [show (⟨s, hs⟩ : Uuid).text = s from rfl, h] at h'
  rw [Option.some.inj h']

/-! ## Status codes and errors -/

/-- The gRPC codes the handlers return. -/
inductive Code
  | invalidArgument
  | notFound
  | alreadyExists
  | failedPrecondition
  | internal
deriving DecidableEq, Repr

/-- `status.Error(code, message)`. -/
structure Status where
  code : Code
  message : String
deriving DecidableEq, Repr

/-- The `InvalidArgument` status of a validation failure. -/
def invalidArgument (message : String) : Status := ⟨.invalidArgument, message⟩

/-- What a query of `db.Queries` fails with: `pgx.ErrNoRows` when a `:one` query
finds no row, and any other driver or server error (a lost connection, a
constraint violation, `bigint out of range`). -/
inductive DbError
  | noRows
  | failed
deriving DecidableEq, Repr

/-- The `error` a transaction closure returns: a query's error, a gRPC status
built inside the closure, or a failed `proto.Marshal`. -/
inductive TxError
  | db (e : DbError)
  | status (s : Status)
  | marshal
deriving DecidableEq, Repr

/-- `status.FromError`: the status an error carries, if it is one. -/
def TxError.status? : TxError → Option Status
  | .status s => some s
  | _ => none

/-! ## Events -/

/-- `eventsv1.PaymentResultStatus`. -/
inductive PaymentResultStatus
  | unspecified
  | success
  | failNoAccount
  | failNotEnoughFunds
  | failInternal
deriving DecidableEq, Repr

/-- `eventsv1.PaymentRequested`; `occurred_at` is read by nobody and left out. -/
structure PaymentRequested where
  eventId : String
  orderId : String
  userId : String
  amount : Int
deriving DecidableEq, Repr

/-- `eventsv1.PaymentResult`; `occurred_at` is read by nobody and left out. -/
structure PaymentResult where
  eventId : String
  orderId : String
  userId : String
  status : PaymentResultStatus
  reason : String
deriving DecidableEq, Repr

/-- A message value: the bytes `proto.Marshal` wrote for one of the two events, or
bytes that do not decode. -/
inductive Payload
  | paymentRequested (ev : PaymentRequested)
  | paymentResult (ev : PaymentResult)
  | undecodable
deriving DecidableEq, Repr

/-- `proto.Unmarshal(m.Value, &ev)` into a `PaymentRequested`. -/
def Payload.unmarshalPaymentRequested : Payload → Option PaymentRequested
  | .paymentRequested ev => some ev
  | _ => none

/-- `proto.Unmarshal(m.Value, &ev)` into a `PaymentResult`. -/
def Payload.unmarshalPaymentResult : Payload → Option PaymentResult
  | .paymentResult ev => some ev
  | _ => none

theorem Payload.eq_of_unmarshalPaymentResult {p : Payload} {ev : PaymentResult}
    (h : p.unmarshalPaymentResult = some ev) : p = .paymentResult ev := by
  cases p <;> simp [Payload.unmarshalPaymentResult] at h
  rw [h]

/-- Whether the identifiers an event carries are spelled as `UUID.String` prints
them, as every producer of the pipeline writes them.  Not a function of the
source: what the consumers' `uuid.Parse` turns back into the same text. -/
def Payload.idsCanonical : Payload → Bool
  | .paymentRequested ev => isUuidText ev.eventId && isUuidText ev.orderId
  | .paymentResult ev => isUuidText ev.eventId && isUuidText ev.orderId
  | .undecodable => true

/-- A record on a topic: `kafka.Message{Key, Value}`. -/
structure KafkaMessage where
  key : String
  value : Payload
deriving DecidableEq, Repr

/-! ## Machine integers -/

/-- **Go's `int32(n)`** on an `int`: the low 32 bits, read as a signed number.  The
sign test is made on `Nat`, where it stops at once on a symbolic argument. -/
def toInt32 (n : Int) : Int := if (n % 2 ^ 32).toNat < 2 ^ 31 then n % 2 ^ 32 else n % 2 ^ 32 - 2 ^ 32

theorem toInt32_of_lt {n : Int} (h0 : -2 ^ 31 ≤ n) (h1 : n < 2 ^ 31) : toInt32 n = n := by
  unfold toInt32
  split <;> omega

theorem toInt32_lt (n : Int) : -2 ^ 31 ≤ toInt32 n ∧ toInt32 n < 2 ^ 31 := by
  unfold toInt32
  split <;> omega

/-! ## Transactions -/

section Tx

variable {σ α : Type}

@[simp] theorem except_ok_bind {ε β : Type} (a : α) (f : α → Except ε β) :
    (Except.ok a >>= f) = f a := rfl

@[simp] theorem except_error_bind {ε β : Type} (e : ε) (f : α → Except ε β) :
    (Except.error e >>= f) = Except.error e := rfl

@[simp] theorem except_map_ok {ε β : Type} (g : α → β) (a : α) :
    g <$> (Except.ok a : Except ε α) = Except.ok (g a) := rfl

@[simp] theorem except_map_error {ε β : Type} (g : α → β) (e : ε) :
    g <$> (Except.error e : Except ε α) = Except.error e := rfl

@[simp] theorem except_mapError_ok {ε ε' : Type} (g : ε → ε') (a : α) :
    (Except.ok a : Except ε α).mapError g = Except.ok a := rfl

@[simp] theorem except_mapError_error {ε ε' : Type} (g : ε → ε') (e : ε) :
    (Except.error e : Except ε α).mapError g = Except.error (g e) := rfl

@[simp] theorem except_throw {ε : Type} (e : ε) : (throw e : Except ε α) = Except.error e := rfl

@[simp] theorem except_pure {ε : Type} (a : α) : (pure a : Except ε α) = Except.ok a := rfl

/-- One round trip of a transaction closure: `q` is what the statement does, and
`fails` is the environment's choice to make the round trip fail. -/
def roundTrip (fails : Bool) (q : σ → Except DbError (α × σ)) (db : σ) :
    Except TxError (α × σ) :=
  if fails then .error (.db .failed) else
    match q db with
    | .ok p => .ok p
    | .error e => .error (.db e)

@[simp] theorem roundTrip_true (q : σ → Except DbError (α × σ)) (db : σ) :
    roundTrip true q db = .error (.db .failed) := rfl

@[simp] theorem roundTrip_false (q : σ → Except DbError (α × σ)) (db : σ) :
    roundTrip false q db = match q db with
      | .ok p => .ok p
      | .error e => .error (.db e) := rfl

/-- A round trip fails only with a database error. -/
theorem roundTrip_eq_error {fails : Bool} {q : σ → Except DbError (α × σ)} {db : σ} {e : TxError}
    (h : roundTrip fails q db = .error e) : ∃ d, e = .db d := by
  unfold roundTrip at h
  split at h
  · exact ⟨_, (Except.error.inj h).symm⟩
  · split at h
    · cases h
    · exact ⟨_, (Except.error.inj h).symm⟩

/-- **A statement outside a transaction**, which the server commits on its own.
`fails` makes the round trip fail before the statement runs; `lost` loses the
reply after the server ran it, so the caller sees a driver error while what the
statement wrote stands.  The result is what the caller sees and the state the
server keeps. -/
def autocommit (fails lost : Bool) (q : σ → Except DbError (α × σ)) (db : σ) : Except TxError α × σ :=
  if fails then (.error (.db .failed), db) else
    match q db with
    | .ok (a, db') => (if lost then .error (.db .failed) else .ok a, db')
    | .error e => (.error (.db (if lost then .failed else e)), db)

/-- **What a statement outside a transaction can do**: nothing, answered with an
error; or commit what the statement writes, answered with its row, or with a
driver error when the reply is lost. -/
theorem autocommit_cases (fails lost : Bool) (q : σ → Except DbError (α × σ)) (db : σ) :
    (∃ e, autocommit fails lost q db = (.error e, db) ∧ ∃ d, e = .db d ∧ (lost = true → d = .failed)) ∨
    ∃ a db', fails = false ∧ q db = .ok (a, db') ∧
      autocommit fails lost q db = (if lost then .error (.db .failed) else .ok a, db') := by
  unfold autocommit
  cases fails
  · cases h : q db with
    | ok p => exact .inr ⟨p.1, p.2, rfl, rfl, rfl⟩
    | error e => exact .inl ⟨_, rfl, _, rfl, fun hl => by simp [hl]⟩
  · exact .inl ⟨_, rfl, _, rfl, fun _ => rfl⟩

/-- **`Repo.WithTx`**: begin, run the closure, commit if it returned `nil`.  The
result is what the caller sees and the state the database keeps.  An error at
`Begin` or in the closure, or a `COMMIT` the server refuses (`commitFails`),
rolls the transaction back.  A `COMMIT` the server carries out but whose reply is
lost (`ackLost`) makes `tx.Commit` return an error for a transaction that did
commit. -/
def withTx (beginFails commitFails ackLost : Bool) (fn : σ → Except TxError (α × σ)) (db : σ) :
    Except TxError α × σ :=
  if beginFails then (.error (.db .failed), db) else
    match fn db with
    | .error e => (.error e, db)
    | .ok (a, db') => if commitFails then (.error (.db .failed), db) else (if ackLost then .error (.db .failed) else .ok a, db')

/-- **What a transaction can do**: roll back, answered with the closure's error or
with a driver error; or commit the state its closure built, answered with the
closure's value, or with a driver error when the reply of `COMMIT` is lost. -/
theorem withTx_cases (beginFails commitFails ackLost : Bool) (fn : σ → Except TxError (α × σ)) (db : σ) :
    (∃ e, withTx beginFails commitFails ackLost fn db = (.error e, db) ∧ (fn db = .error e ∨ e = .db .failed)) ∨
    ∃ a db', beginFails = false ∧ commitFails = false ∧ fn db = .ok (a, db') ∧
      withTx beginFails commitFails ackLost fn db = (if ackLost then .error (.db .failed) else .ok a, db') := by
  unfold withTx
  cases beginFails
  · cases h : fn db with
    | error e => exact .inl ⟨e, rfl, .inl rfl⟩
    | ok p =>
      cases commitFails
      · exact .inr ⟨p.1, p.2, rfl, rfl, rfl, rfl⟩
      · exact .inl ⟨_, rfl, .inr rfl⟩
  · exact .inl ⟨_, rfl, .inr rfl⟩

end Tx

/-! ## Runs -/

section Runs

variable {σ ω : Type} (next : σ → ω → σ)

/-- The number of steps of a run of `next` at which the property `p` of the state
turns from `false` to `true`. -/
def flipCount (p : σ → Bool) : σ → List ω → Nat
  | _, [] => 0
  | s, o :: os => (if p s = false ∧ p (next s o) = true then 1 else 0) + flipCount p (next s o) os

-- `p`, once true, stays true across every step.
variable {next} {p : σ → Bool} (hp : ∀ s o, p s = true → p (next s o) = true)
include hp

theorem flipCount_eq_zero : ∀ {s : σ} (os : List ω), p s = true → flipCount next p s os = 0
  | _, [], _ => rfl
  | s, o :: os, h => by simp [flipCount, h, flipCount_eq_zero os (hp s o h)]

/-- **A property no step takes back turns true at most once along any run.** -/
theorem flipCount_le_one : ∀ (s : σ) (os : List ω), flipCount next p s os ≤ 1
  | _, [] => Nat.zero_le _
  | s, o :: os => by
      unfold flipCount
      cases h : p (next s o)
      · simpa [h] using flipCount_le_one (next s o) os
      · rw [flipCount_eq_zero hp os h]; split <;> omega

end Runs

end PaymentsService
