import PaymentsService.Basic

/-!
# The page token of `ListOrders`

A page token is the standard base64 of the decimal text of an `int32` offset:
`encodeOffset` writes one with `strconv.Itoa` and `base64.StdEncoding`, and
`decodeOffset` reads one back with `DecodeString`, `strconv.Atoi` and Go's
`int32(n)` (`toInt32`).  This module models the three library functions, and
proves what a round trip and a foreign token each give.

## Main definitions

* `encodeChar`, `sextet` — the standard alphabet, both ways.
* `base64Encode`, `base64Decode` — `StdEncoding.EncodeToString` and `DecodeString`.
* `decimal`, `itoa`, `digitsValue`, `atoi` — `strconv.Itoa` and `strconv.Atoi`
  on the 64-bit `int`.
* `encodeOffset`, `decodeOffset`.

## Main results

* `base64Decode_base64Encode` — decoding undoes encoding, for every byte string.
* `atoi_itoa` — `Atoi` reads back what `Itoa` wrote, for every 64-bit `int`.
* `decodeOffset_encodeOffset` — a token `encodeOffset` wrote is read back as the
  `int32` it encodes.
* `decodeOffset_itoa` — the token of any 64-bit `int` is read as its `int32`:
  the low 32 bits, so a negative number stays negative and `2 ^ 32` reads as `0`.

## Design notes

**Bytes are `Nat`s.**  A byte string is a list of numbers below `256`; every
place where Go truncates to a byte (`byte(val >> 16)`) is a `% 256`.  The decimal
text is ASCII, so its bytes are its characters.

**`DecodeString` as `decodeQuantum` reads it.**  `decodeQuantum` skips `\n` and
`\r` wherever they stand, so `base64Decode` filters them out first and then reads
quanta of four characters.  `StdEncoding` pads, so the input must end on a
quantum; `=` may only close the last quantum, as `==` after two characters or `=`
after three; and `StdEncoding` is not strict, so the bits a padded quantum drops
are not checked.  Any other input is a `CorruptInputError`, which `decodeOffset`
returns, and whose text nobody reads: both errors are `none` here.
-/

namespace PaymentsService

/-! ## Base64 -/

/-- `encodeStd[i]`: the character of the 6-bit value `i` in the standard alphabet
`A–Z a–z 0–9 + /`. -/
def encodeChar (i : Nat) : Char :=
  if i < 26 then Char.ofNat (65 + i)
  else if i < 52 then Char.ofNat (71 + i)
  else if i < 62 then Char.ofNat (i - 4)
  else if i = 62 then '+' else '/'

/-- `decodeMap[c]`: the 6-bit value of a character of the standard alphabet. -/
def sextet (c : Char) : Option Nat :=
  if 'A' ≤ c ∧ c ≤ 'Z' then some (c.toNat - 65)
  else if 'a' ≤ c ∧ c ≤ 'z' then some (c.toNat - 71)
  else if '0' ≤ c ∧ c ≤ '9' then some (c.toNat + 4)
  else if c = '+' then some 62
  else if c = '/' then some 63
  else none

/-- The four characters of the 24-bit group `v`: `encode[val>>18&0x3F]` and so on. -/
def encodeGroup (v : Nat) : List Char :=
  [encodeChar (v / 262144 % 64), encodeChar (v / 4096 % 64), encodeChar (v / 64 % 64), encodeChar (v % 64)]

/-- **`base64.StdEncoding.EncodeToString`**: three bytes `a b c` become the four
characters of `a<<16 | b<<8 | c`; a last one or two bytes are padded with `=`. -/
def base64Encode : List Nat → List Char
  | a :: b :: c :: rest => encodeGroup (a * 65536 + b * 256 + c) ++ base64Encode rest
  | [a, b] => (encodeGroup (a * 65536 + b * 256)).take 3 ++ ['=']
  | [a] => (encodeGroup (a * 65536)).take 2 ++ ['=', '=']
  | [] => []

/-- The three bytes of the 24-bit group `v`: `byte(val>>16)`, `byte(val>>8)`,
`byte(val)`. -/
def groupBytes (v : Nat) : List Nat := [v / 65536 % 256, v / 256 % 256, v % 256]

/-- `decodeQuantum`, one quantum of four characters at a time, once newlines are
skipped.  A last quantum ending in `==` keeps one byte, one ending in `=` two. -/
def decodeQuanta : List Char → Option (List Nat)
  | [] => some []
  | c₀ :: c₁ :: c₂ :: c₃ :: rest =>
    if rest = [] ∧ c₂ = '=' ∧ c₃ = '=' then do
      let d₀ ← sextet c₀
      let d₁ ← sextet c₁
      pure ((groupBytes (d₀ * 262144 + d₁ * 4096)).take 1)
    else if rest = [] ∧ c₃ = '=' then do
      let d₀ ← sextet c₀
      let d₁ ← sextet c₁
      let d₂ ← sextet c₂
      pure ((groupBytes (d₀ * 262144 + d₁ * 4096 + d₂ * 64)).take 2)
    else do
      let d₀ ← sextet c₀
      let d₁ ← sextet c₁
      let d₂ ← sextet c₂
      let d₃ ← sextet c₃
      let tail ← decodeQuanta rest
      pure (groupBytes (d₀ * 262144 + d₁ * 4096 + d₂ * 64 + d₃) ++ tail)
  | _ => none

/-- **`base64.StdEncoding.DecodeString`**; `none` is the `CorruptInputError`. -/
def base64Decode (s : List Char) : Option (List Nat) :=
  decodeQuanta (s.filter fun c => c != '\n' && c != '\r')

/-- Every value below `64` decodes back from its character. -/
theorem sextet_encodeChar_fin : ∀ i : Fin 64, sextet (encodeChar i) = some i := by decide

theorem sextet_encodeChar {i : Nat} (h : i < 64) : sextet (encodeChar i) = some i :=
  sextet_encodeChar_fin ⟨i, h⟩

/-- A character outside the alphabet is no `encodeChar`. -/
theorem encodeChar_ne {i : Nat} (h : i < 64) {c : Char} (hc : sextet c = none) : encodeChar i ≠ c := by
  rintro rfl
  rw [sextet_encodeChar h] at hc
  cases hc

theorem ne_pad_of_sextet {c : Char} {d : Nat} (h : sextet c = some d) : c ≠ '=' := by
  rintro rfl
  cases h

/-- A quantum of four characters of the alphabet. -/
theorem decodeQuanta_quantum {c₀ c₁ c₂ c₃ : Char} {d₀ d₁ d₂ d₃ : Nat} (h₀ : sextet c₀ = some d₀)
    (h₁ : sextet c₁ = some d₁) (h₂ : sextet c₂ = some d₂) (h₃ : sextet c₃ = some d₃) (rest : List Char) :
    decodeQuanta (c₀ :: c₁ :: c₂ :: c₃ :: rest) =
      (decodeQuanta rest).map (groupBytes (d₀ * 262144 + d₁ * 4096 + d₂ * 64 + d₃) ++ ·) := by
  rw [decodeQuanta, if_neg fun h => ne_pad_of_sextet h₂ h.2.1, if_neg fun h => ne_pad_of_sextet h₃ h.2]
  simp only [h₀, h₁, h₂, h₃, Option.bind_eq_bind, Option.some_bind]
  cases decodeQuanta rest <;> rfl

/-- A last quantum of two characters and `==`. -/
theorem decodeQuanta_pad₂ {c₀ c₁ : Char} {d₀ d₁ : Nat} (h₀ : sextet c₀ = some d₀) (h₁ : sextet c₁ = some d₁) :
    decodeQuanta [c₀, c₁, '=', '='] = some ((groupBytes (d₀ * 262144 + d₁ * 4096)).take 1) := by
  rw [decodeQuanta, if_pos ⟨rfl, rfl, rfl⟩]
  simp only [h₀, h₁, Option.bind_eq_bind, Option.some_bind]
  rfl

/-- A last quantum of three characters and `=`. -/
theorem decodeQuanta_pad₁ {c₀ c₁ c₂ : Char} {d₀ d₁ d₂ : Nat} (h₀ : sextet c₀ = some d₀) (h₁ : sextet c₁ = some d₁)
    (h₂ : sextet c₂ = some d₂) :
    decodeQuanta [c₀, c₁, c₂, '='] = some ((groupBytes (d₀ * 262144 + d₁ * 4096 + d₂ * 64)).take 2) := by
  rw [decodeQuanta, if_neg fun h => ne_pad_of_sextet h₂ h.2.1, if_pos ⟨rfl, rfl⟩]
  simp only [h₀, h₁, h₂, Option.bind_eq_bind, Option.some_bind]
  rfl

theorem sextet_encodeChar_mod (v : Nat) : sextet (encodeChar (v % 64)) = some (v % 64) :=
  sextet_encodeChar (Nat.mod_lt _ (by decide))

/-- Decoding undoes encoding, newlines aside. -/
theorem decodeQuanta_base64Encode : ∀ b : List Nat, (∀ x ∈ b, x < 256) → decodeQuanta (base64Encode b) = some b
  | a :: b :: c :: rest, h => by
    have ha := h a (by simp)
    have hb := h b (by simp)
    have hc := h c (by simp)
    have bytes : groupBytes ((a * 65536 + b * 256 + c) / 262144 % 64 * 262144 +
        (a * 65536 + b * 256 + c) / 4096 % 64 * 4096 + (a * 65536 + b * 256 + c) / 64 % 64 * 64 +
        (a * 65536 + b * 256 + c) % 64) = [a, b, c] := by
      simp only [groupBytes, List.cons.injEq, and_true]
      omega
    rw [base64Encode, encodeGroup, List.cons_append, List.cons_append, List.cons_append, List.cons_append,
      List.nil_append, decodeQuanta_quantum (sextet_encodeChar_mod _) (sextet_encodeChar_mod _)
        (sextet_encodeChar_mod _) (sextet_encodeChar_mod _),
      decodeQuanta_base64Encode rest fun x hx => h x (by simp [hx]), bytes]
    rfl
  | [a, b], h => by
    have ha := h a (by simp)
    have hb := h b (by simp)
    rw [show base64Encode [a, b] = [encodeChar ((a * 65536 + b * 256) / 262144 % 64),
        encodeChar ((a * 65536 + b * 256) / 4096 % 64), encodeChar ((a * 65536 + b * 256) / 64 % 64), '='] from rfl,
      decodeQuanta_pad₁ (sextet_encodeChar_mod _) (sextet_encodeChar_mod _) (sextet_encodeChar_mod _)]
    simp only [groupBytes, List.take, Option.some.injEq, List.cons.injEq, and_true]
    omega
  | [a], h => by
    have ha := h a (by simp)
    rw [show base64Encode [a] = [encodeChar (a * 65536 / 262144 % 64), encodeChar (a * 65536 / 4096 % 64),
        '=', '='] from rfl, decodeQuanta_pad₂ (sextet_encodeChar_mod _) (sextet_encodeChar_mod _)]
    simp only [groupBytes, List.take, Option.some.injEq, List.cons.injEq, and_true]
    omega
  | [], _ => rfl

/-- No character `base64Encode` writes is a newline. -/
theorem base64Encode_newline_free : ∀ b : List Nat, ∀ c ∈ base64Encode b, (c != '\n' && c != '\r') = true := by
  have group : ∀ v, ∀ c ∈ encodeGroup v, (c != '\n' && c != '\r') = true := by
    intro v c hc
    simp only [encodeGroup, List.mem_cons, List.mem_singleton, List.not_mem_nil, or_false] at hc
    rcases hc with rfl | rfl | rfl | rfl <;>
      simp [encodeChar_ne (Nat.mod_lt _ (by decide : 0 < 64)) (c := '\n') rfl,
        encodeChar_ne (Nat.mod_lt _ (by decide : 0 < 64)) (c := '\r') rfl]
  intro b
  induction b using base64Encode.induct with
  | case1 a b c rest ih =>
    intro x hx
    rcases List.mem_append.1 hx with hx | hx
    exacts [group _ x hx, ih x hx]
  | case2 a b =>
    intro x hx
    rcases List.mem_append.1 hx with hx | hx
    · exact group _ x (List.mem_of_mem_take hx)
    · rw [List.mem_singleton.1 hx]; rfl
  | case3 a =>
    intro x hx
    rcases List.mem_append.1 hx with hx | hx
    · exact group _ x (List.mem_of_mem_take hx)
    · simp only [List.mem_cons, List.mem_singleton, List.not_mem_nil, or_false] at hx
      rcases hx with rfl | rfl <;> rfl
  | case4 => intro x hx; cases hx

/-- **Decoding undoes encoding**, for every byte string. -/
theorem base64Decode_base64Encode (b : List Nat) (hb : ∀ x ∈ b, x < 256) :
    base64Decode (base64Encode b) = some b := by
  rw [base64Decode, List.filter_eq_self.2 (base64Encode_newline_free b)]
  exact decodeQuanta_base64Encode b hb

/-! ## Decimal text -/

/-- The digits of `n`, most significant first, in front of `acc`: the loop of
`formatBits` for base 10, which writes `n % 10` and goes on with `n / 10` until
one digit is left.  `fuel` bounds the loop. -/
def decimalDigits : Nat → Nat → List Nat → List Nat
  | 0, _, acc => acc
  | fuel + 1, n, acc => if n < 10 then n :: acc else decimalDigits fuel (n / 10) (n % 10 :: acc)

/-- The ASCII decimal text of `n`, with no leading zero (`n + 1` rounds are more
than `n` has digits). -/
def decimal (n : Nat) : List Nat := (decimalDigits (n + 1) n []).map (· + 48)

/-- **`strconv.Itoa`**: a `-` before the digits of a negative number. -/
def itoa (n : Int) : List Nat := if n < 0 then 45 :: decimal n.natAbs else decimal n.natAbs

/-- One round of `Atoi`'s digit loop: a byte that is no digit is a syntax error;
a digit is appended to the value. -/
def digitStep (acc : Option Nat) (b : Nat) : Option Nat :=
  acc.bind fun v => if 48 ≤ b ∧ b ≤ 57 then some (v * 10 + (b - 48)) else none

/-- The value of a run of decimal digits. -/
def digitsValue (s : List Nat) : Option Nat := s.foldl digitStep (some 0)

/-- `Atoi`'s sign: a leading `-` or `+` is dropped, and `-` negates. -/
def stripSign : List Nat → Bool × List Nat
  | c :: rest => if c = 45 then (true, rest) else if c = 43 then (false, rest) else (false, c :: rest)
  | [] => (false, [])

/-- **`strconv.Atoi`** into the 64-bit `int`: an optional sign, then at least one
digit and nothing else (no `_`, as base 10 allows none); a value outside `int` is
a range error.  The fast path for short texts and `ParseInt` agree on every text
the fast path takes, so one function models both. -/
def atoi (s : List Nat) : Option Int :=
  let (neg, digits) := stripSign s
  if digits = [] then none else
  (digitsValue digits).bind fun n =>
    let v : Int := if neg then -n else n
    if -2 ^ 63 ≤ v ∧ v < 2 ^ 63 then some v else none

/-- The value of a list of digits, most significant first. -/
def digitsNat (ds : List Nat) : Nat := ds.foldl (fun v d => v * 10 + d) 0

theorem digitsNat_append_singleton (ds : List Nat) (d : Nat) : digitsNat (ds ++ [d]) = digitsNat ds * 10 + d := by
  simp only [digitsNat, List.foldl_append, List.foldl_cons, List.foldl_nil]

/-- **The loop writes the digits of `n`**, when it has a round for each. -/
theorem decimalDigits_spec (fuel n : Nat) (acc : List Nat) (h : n < 10 ^ (fuel + 1)) :
    ∃ ds, decimalDigits (fuel + 1) n acc = ds ++ acc ∧ ds ≠ [] ∧ (∀ d ∈ ds, d < 10) ∧ digitsNat ds = n := by
  induction fuel generalizing n acc with
  | zero => exact ⟨[n], by simp [decimalDigits, digitsNat, show n < 10 by simpa using h]⟩
  | succ fuel ih =>
    by_cases h10 : n < 10
    · exact ⟨[n], by simp [decimalDigits, digitsNat, h10]⟩
    obtain ⟨ds, heq, -, hds, hv⟩ :=
      ih (n / 10) (n % 10 :: acc) ((Nat.div_lt_iff_lt_mul (by decide : 0 < 10)).2 (by rwa [← Nat.pow_succ]))
    refine ⟨ds ++ [n % 10], ?_, by simp, ?_, ?_⟩
    · rw [decimalDigits, if_neg h10, heq, List.append_assoc, List.singleton_append]
    · exact List.forall_mem_append.2 ⟨hds, List.forall_mem_singleton.2 (Nat.mod_lt n (by decide))⟩
    · rw [digitsNat_append_singleton, hv, Nat.div_add_mod']

theorem decimal_spec (n : Nat) :
    ∃ ds, decimal n = ds.map (· + 48) ∧ ds ≠ [] ∧ (∀ d ∈ ds, d < 10) ∧ digitsNat ds = n := by
  obtain ⟨ds, h, hne, hds, hv⟩ := decimalDigits_spec n n [] (by have := Nat.lt_pow_self (by decide : 1 < 10) (n + 1); omega)
  exact ⟨ds, by rw [decimal, h, List.append_nil], hne, hds, hv⟩

theorem foldl_digitStep (ds : List Nat) (hds : ∀ d ∈ ds, d < 10) (v : Nat) :
    (ds.map (· + 48)).foldl digitStep (some v) = some (ds.foldl (fun v d => v * 10 + d) v) := by
  induction ds generalizing v with
  | nil => rfl
  | cons d ds ih =>
    have hd := hds d (List.mem_cons_self d ds)
    rw [List.map_cons, List.foldl_cons, List.foldl_cons, digitStep, Option.some_bind,
      if_pos ⟨by omega, by omega⟩, Nat.add_sub_cancel, ih fun x hx => hds x (List.mem_cons_of_mem d hx)]

theorem digitsValue_decimal (n : Nat) : digitsValue (decimal n) = some n := by
  obtain ⟨ds, h, -, hds, hv⟩ := decimal_spec n
  rw [digitsValue, h, foldl_digitStep ds hds, ← hv]
  rfl

theorem decimal_ne_nil (n : Nat) : decimal n ≠ [] := by
  obtain ⟨ds, h, hne, -⟩ := decimal_spec n
  simpa [h] using hne

/-- Every byte of `decimal n` is a digit. -/
theorem decimal_digit (n : Nat) : ∀ b ∈ decimal n, 48 ≤ b ∧ b ≤ 57 := by
  obtain ⟨ds, h, -, hds, -⟩ := decimal_spec n
  intro b hb
  rw [h] at hb
  obtain ⟨d, hd, rfl⟩ := List.mem_map.1 hb
  have := hds d hd
  omega

theorem stripSign_decimal (n : Nat) : stripSign (decimal n) = (false, decimal n) := by
  obtain ⟨c, rest, h⟩ := List.exists_cons_of_ne_nil (decimal_ne_nil n)
  have hc := decimal_digit n c (by simp [h])
  rw [h, stripSign, if_neg (by omega), if_neg (by omega)]

theorem atoi_of_stripSign {s : List Nat} {neg : Bool} {m : Nat} (hs : stripSign s = (neg, decimal m)) :
    atoi s = if -2 ^ 63 ≤ (if neg then -(m : Int) else m) ∧ (if neg then -(m : Int) else m) < 2 ^ 63
      then some (if neg then -(m : Int) else m) else none := by
  unfold atoi
  rw [hs]
  simp only [decimal_ne_nil, if_false, digitsValue_decimal, Option.some_bind]

/-- **`Atoi` reads back what `Itoa` wrote**, for every 64-bit `int`. -/
theorem atoi_itoa (n : Int) (h0 : -2 ^ 63 ≤ n) (h1 : n < 2 ^ 63) : atoi (itoa n) = some n := by
  have habs := Int.natAbs_eq n
  unfold itoa
  split_ifs with hn
  · rw [atoi_of_stripSign (show stripSign (45 :: decimal n.natAbs) = (true, decimal n.natAbs) from rfl)]
    simp only [if_true]
    rw [if_pos ⟨by omega, by omega⟩]
    exact congrArg some (by omega)
  · rw [atoi_of_stripSign (stripSign_decimal _)]
    simp only [Bool.false_eq_true, if_false]
    rw [if_pos ⟨by omega, by omega⟩]
    exact congrArg some (by omega)

theorem itoa_ne_nil (n : Int) : itoa n ≠ [] := by
  unfold itoa
  split_ifs
  exacts [List.cons_ne_nil _ _, decimal_ne_nil _]

/-- Every byte `Itoa` writes is ASCII. -/
theorem itoa_lt_256 (n : Int) : ∀ b ∈ itoa n, b < 256 := by
  intro b hb
  unfold itoa at hb
  split_ifs at hb
  · rcases List.mem_cons.1 hb with rfl | hb
    · decide
    · have := decimal_digit _ b hb; omega
  · have := decimal_digit _ b hb; omega

/-! ## The offset codec -/

/-- **`encodeOffset`**: `base64.StdEncoding.EncodeToString([]byte(strconv.Itoa(int(n))))`. -/
def encodeOffset (n : Int) : String := ⟨base64Encode (itoa n)⟩

/-- **`decodeOffset`**: `DecodeString`, then `strconv.Atoi` on the bytes, then
`int32(n)`; either error is `none`. -/
def decodeOffset (s : String) : Option Int := (base64Decode s.data).bind fun b => (atoi b).map toInt32

/-- **`decodeOffset` reads the token of every 64-bit `int` as its `int32`**. -/
theorem decodeOffset_itoa (n : Int) (h0 : -2 ^ 63 ≤ n) (h1 : n < 2 ^ 63) :
    decodeOffset ⟨base64Encode (itoa n)⟩ = some (toInt32 n) := by
  rw [decodeOffset, base64Decode_base64Encode _ (itoa_lt_256 n), Option.some_bind, atoi_itoa n h0 h1,
    Option.map_some']

theorem decodeOffset_itoa_two_pow_32 :
    -2 ^ 63 ≤ (4294967296 : Int) ∧ (4294967296 : Int) < 2 ^ 63 ∧
      decodeOffset ⟨base64Encode (itoa 4294967296)⟩ = some (toInt32 4294967296) :=
  ⟨by decide, by decide, decodeOffset_itoa 4294967296 (by decide) (by decide)⟩

/-- **A token `encodeOffset` wrote is read back as the `int32` it encodes.** -/
theorem decodeOffset_encodeOffset {n : Int} (h0 : -2 ^ 31 ≤ n) (h1 : n < 2 ^ 31) :
    decodeOffset (encodeOffset n) = some n := by
  rw [encodeOffset, decodeOffset, base64Decode_base64Encode _ (itoa_lt_256 n), Option.some_bind,
    atoi_itoa n (by omega) (by omega), Option.map_some', toInt32_of_lt h0 h1]

theorem encodeOffset_ne_empty (n : Int) : encodeOffset n ≠ "" := by
  intro h
  have hb : base64Encode (itoa n) = [] := congrArg String.data h
  have hd := base64Decode_base64Encode _ (itoa_lt_256 n)
  rw [hb] at hd
  exact itoa_ne_nil n (Option.some.inj (hd : some [] = some (itoa n))).symm

end PaymentsService
