import BrandBlitz.Lib.BigEndian
import BrandBlitz.Lib.Bits
import BrandBlitz.Lib.IsoDate
import BrandBlitz.Referrals.Attribution
import Mathlib.Data.List.DropRight

/-!
# BrandBlitz.Auth.Totp

**Codes of the second factor**: `base32Encode`, `base32Decode` and `computeTotp` of
`apps/api/src/db/queries/totp.ts`. The first two collect bits in a signed integer of 32 bits that
the older ones fall out of; the counter is written in two halves.

What they should compute is stated over lists of bits (`base32`), and over bytes and numbers
(`hotp`).
-/

namespace BrandBlitz.Auth

open BrandBlitz.Lib BrandBlitz.Lib.Bits BrandBlitz.Lib.BigEndian
open BrandBlitz.Lib.IsoDate (digits)
open BrandBlitz.Lib.NumberText (numberText forall_mem_of_all)
open BrandBlitz.Referrals.Attribution (upperChar)

/-! ### Base 32 -/

def base32Alphabet : Text := "ABCDEFGHIJKLMNOPQRSTUVWXYZ234567".toList

/-- `value << n`. -/
def shl (value : BitVec 32) (n : Nat) : BitVec 32 := value <<< (n % 32)

/-- `value >>> n`. -/
def ushr (value : BitVec 32) (n : Nat) : BitVec 32 := value >>> (n % 32)

/-- `alphabet[index & 31]`. -/
def base32Char (index : BitVec 32) : Char := base32Alphabet.getD (index &&& 31).toNat 'A'

/-- The inner loop: the characters, and the number of bits that are left. -/
def emitChars (value : BitVec 32) : Nat → Text × Nat
  | bits + 5 =>
    let rest := emitChars value bits
    (base32Char (ushr value bits) :: rest.1, rest.2)
  | bits => ([], bits)

def base32EncodeFrom (bits : Nat) (value : BitVec 32) : List UInt8 → Text
  | [] => if 0 < bits then [base32Char (shl value (5 - bits))] else []
  | byte :: buf =>
    let value := shl value 8 ||| BitVec.ofNat 32 byte.toNat
    let emitted := emitChars value (bits + 8)
    emitted.1 ++ base32EncodeFrom emitted.2 value buf

def base32Encode (buf : List UInt8) : Text := base32EncodeFrom 0 0 buf

structure DecodeState where
  bits : Nat
  value : BitVec 32
  index : Nat
  output : List UInt8

def decodeChar (s : DecodeState) (char : Char) : Except Text DecodeState :=
  match base32Alphabet.idxOf? char with
  | none => .error ("Invalid base32 character: ".toList ++ [char])
  | some charIndex =>
    let value := shl s.value 5 ||| BitVec.ofNat 32 charIndex
    let bits := s.bits + 5
    if 8 ≤ bits then
      .ok {
        bits := bits - 8
        value
        index := s.index + 1
        -- writing behind the end of a buffer does nothing
        output := s.output.set s.index (UInt8.ofNat (ushr value (bits - 8) &&& 0xff).toNat) }
    else .ok { s with bits, value }

/-- A character of more than one UTF-16 unit is not in the alphabet, so the length of the buffer
does not matter then. -/
def base32Decode (encoded : Text) : Except Text (List UInt8) := do
  let clean := (encoded.flatMap upperChar).rdropWhile (· = '=')
  let s ← clean.foldlM decodeChar ⟨0, 0, 0, List.replicate (clean.length * 5 / 8) 0⟩
  return s.output.take s.index

/-! ### Codes -/

def writeUInt32BE (value : Int) : Except Text (List UInt8) :=
  if 0 ≤ value ∧ value ≤ 0xffffffff then .ok (toBytes 4 value.toNat)
  else .error "The value of \"value\" is out of range.".toList

/-- The halves of the counter are `Math.floor(step / 0x100000000)` and `step >>> 0`. -/
def totpCounter (step : Int) : Except Text (List UInt8) := do
  let high ← writeUInt32BE (step / 0x100000000)
  let low ← writeUInt32BE (step % 0x100000000)
  return high ++ low

/-- What is not in the buffer is read as 0. -/
def truncateHmac (hmac : List UInt8) : Int :=
  let byte := fun i => BitVec.ofNat 32 (hmac.getD i 0).toNat
  let offset := (byte (hmac.length - 1) &&& 0x0f).toNat
  let code := shl (byte offset &&& 0x7f) 24 ||| shl (byte (offset + 1) &&& 0xff) 16 |||
    shl (byte (offset + 2) &&& 0xff) 8 ||| (byte (offset + 3) &&& 0xff)
  code.toInt

section

variable (hmacSha1 : List UInt8 → List UInt8 → Vector UInt8 20)

def computeTotp (secret : Text) (timeStep : Int) : Except Text Text := do
  let counter ← totpCounter timeStep
  let keyBytes ← base32Decode secret
  let code := truncateHmac (hmacSha1 keyBytes counter).toList
  return (numberText (some (code.tmod 1000000))).leftpad 6 '0'

end

/-! ### What they should compute -/

/-- The character of five bits. -/
def base32Digit (group : List Bool) : Char := base32Alphabet.getD (ofBits group) 'A'

def bitsOf (bytes : List UInt8) : List Bool := bytes.flatMap fun b => bits 8 b.toNat

/-- A list of bits in groups of five, the last one filled up with zeros. -/
def base32OfBits (l : List Bool) : Text := (groups 5 (padded 5 l)).map base32Digit

def base32 (bytes : List UInt8) : Text := base32OfBits (bitsOf bytes)

/-- Six digits from a hash, as the four bytes say that begin where its last four bits do. -/
def hotpValue (mac : Vector UInt8 20) : Nat :=
  let offset := mac[19].toNat % 16
  ofBytes ((mac.toList.drop offset).take 4) % 2 ^ 31 % 10 ^ 6

def hotp (hmacSha1 : List UInt8 → List UInt8 → Vector UInt8 20) (key : List UInt8)
    (counter : Nat) : Text :=
  digits 6 (hotpValue (hmacSha1 key (toBytes 8 counter)))

/-! ### Encoding -/

section

variable {width n : Nat} {value : BitVec 32}

/-- More bits shifted in from the right. -/
theorem bits_shl_or (value : BitVec 32) (width k : Nat) (hk : k < 32) (hwidth : width + k ≤ 32) (hn : n < 2 ^ k) :
    bits (width + k) (shl value k ||| BitVec.ofNat 32 n).toNat =
      bits width value.toNat ++ bits k n := by
  have hn32 : n < 2 ^ 32 := hn.trans (Nat.pow_lt_pow_right (by decide) hk)
  rw [bits_add]
  congr 1
  · apply bits_congr
    intro i hi
    have hhigh : n.testBit (k + i) = false :=
      Nat.testBit_lt_two_pow (hn.trans_le (Nat.pow_le_pow_right (by decide) (by omega)))
    rw [Nat.testBit_shiftRight, BitVec.testBit_toNat, BitVec.getLsbD_or, shl, Nat.mod_eq_of_lt hk,
      BitVec.getLsbD_shiftLeft, BitVec.getLsbD_ofNat, hhigh, ← BitVec.testBit_toNat]
    have hlt : k + i < 32 := by omega
    have hge : ¬ k + i < k := by omega
    simp [hlt]
  · apply bits_congr
    intro i hi
    have hlt : i < 32 := by omega
    rw [BitVec.testBit_toNat, BitVec.getLsbD_or, shl, Nat.mod_eq_of_lt hk,
      BitVec.getLsbD_shiftLeft, BitVec.getLsbD_ofNat]
    simp [hlt, hi]

theorem toNat_ushr (hn : n < 32) : (ushr value n).toNat = value.toNat >>> n := by
  rw [ushr, Nat.mod_eq_of_lt hn, BitVec.toNat_ushiftRight]

theorem base32Char_eq (index : BitVec 32) :
    base32Char index = base32Digit (bits 5 index.toNat) := by
  have hmask : (index &&& 31).toNat = index.toNat % 2 ^ 5 := by
    rw [BitVec.toNat_and]
    exact Nat.and_two_pow_sub_one_eq_mod index.toNat 5
  rw [base32Char, base32Digit, ofBits_bits, hmask]

@[simp] theorem base32OfBits_nil : base32OfBits [] = [] := rfl

theorem base32OfBits_append {group : List Bool} (hgroup : group.length = 5) (l : List Bool) :
    base32OfBits (group ++ l) = base32Digit group :: base32OfBits l := by
  rw [base32OfBits, padded_append hgroup, groups_append (by decide) hgroup, List.map_cons,
    base32OfBits]

/-- The characters of the inner loop are those of the first groups. -/
theorem emitChars_spec (value : BitVec 32) (width : Nat) (hwidth : width ≤ 32) (rest : List Bool) :
    (emitChars value width).2 < 5 ∧ base32OfBits (bits width value.toNat ++ rest) =
      (emitChars value width).1 ++
        base32OfBits (bits (emitChars value width).2 value.toNat ++ rest) := by
  induction width using emitChars.induct value with
  | case1 width ih =>
    obtain ⟨hlt, heq⟩ := ih (by omega)
    have hemit : emitChars value (width + 5) =
        (base32Char (ushr value width) :: (emitChars value width).1, (emitChars value width).2) :=
      rfl
    show (emitChars value (width + 5)).2 < 5 ∧ base32OfBits (bits (width + 5) _ ++ rest) = _
    rw [Nat.add_comm width 5, bits_add, List.append_assoc, base32OfBits_append (by simp), heq,
      ← Nat.add_comm width 5]
    rw [hemit, base32Char_eq, toNat_ushr (by omega)]
    exact ⟨hlt, rfl⟩
  | case2 width hshort =>
    have hlt : width < 5 := by
      by_contra hge
      exact hshort (width - 5) (by omega)
    rw [emitChars.eq_2 _ _ hshort]
    exact ⟨hlt, rfl⟩

/-- The last character: the bits that are left, and zeros. -/
theorem base32Char_last (hpos : 0 < width) (hwidth : width < 5) :
    [base32Char (shl value (5 - width))] = base32OfBits (bits width value.toNat) := by
  have hbits : bits 5 (shl value (5 - width)).toNat =
      bits width value.toNat ++ List.replicate (5 - width) false := by
    have hzero : bits (5 - width) 0 = List.replicate (5 - width) false := by
      generalize 5 - width = k
      induction k with
      | zero => rfl
      | succ k ih => rw [bits, ih, Nat.zero_testBit, List.replicate_succ]
    have hshift := bits_shl_or value width (5 - width) (by omega) (by omega) (n := 0)
      (Nat.two_pow_pos _)
    have hor : shl value (5 - width) ||| BitVec.ofNat 32 0 = shl value (5 - width) := by simp
    have hsum : width + (5 - width) = 5 := by omega
    rwa [hor, hsum, hzero] at hshift
  have hpad : padded 5 (bits width value.toNat) =
      (bits width value.toNat ++ List.replicate (5 - width) false) ++ [] := by
    rw [padded, length_bits, Nat.mod_eq_of_lt hwidth, Nat.mod_eq_of_lt (by omega), List.append_nil]
  rw [base32Char_eq, hbits, base32OfBits, hpad,
    groups_append (by decide) (by
      rw [List.length_append, length_bits, List.length_replicate]
      omega)]
  rfl

theorem base32EncodeFrom_eq (bytes : List UInt8) (hwidth : width < 5) :
    base32EncodeFrom width value bytes =
      base32OfBits (bits width value.toNat ++ bitsOf bytes) := by
  induction bytes generalizing width value with
  | nil =>
    rw [base32EncodeFrom, bitsOf, List.flatMap_nil, List.append_nil]
    split
    next hpos => exact base32Char_last hpos hwidth
    next hzero =>
      obtain rfl : width = 0 := by omega
      rw [bits, base32OfBits_nil]
  | cons byte bytes ih =>
    have hbits := bits_shl_or value width 8 (by decide) (by omega) byte.toNat_lt
    generalize hnext : shl value 8 ||| BitVec.ofNat 32 byte.toNat = next at hbits
    obtain ⟨hlt, heq⟩ := emitChars_spec next (width + 8) (by omega) (bitsOf bytes)
    have hcons : bitsOf (byte :: bytes) = bits 8 byte.toNat ++ bitsOf bytes := rfl
    rw [base32EncodeFrom, hnext, ih hlt, ← heq, hbits, hcons, List.append_assoc]

/-- **The encoding is that of the list of bits.** -/
theorem base32Encode_eq (bytes : List UInt8) : base32Encode bytes = base32 bytes :=
  base32EncodeFrom_eq bytes (by decide)

example : base32Encode [0x66, 0x6f, 0x6f, 0x62, 0x61, 0x72] = "MZXW6YTBOI".toList := by decide

end

/-! ### Decoding -/

/-- The bits of a character. -/
def charBits (char : Char) : List Bool := bits 5 (base32Alphabet.idxOf char)

/-- The full bytes of a list of bits. -/
def bytesOfBits (l : List Bool) : List UInt8 := (groups 8 l).map fun g => UInt8.ofNat (ofBits g)

theorem bytesOfBits_append {group : List Bool} (hgroup : group.length = 8) (l : List Bool) :
    bytesOfBits (group ++ l) = UInt8.ofNat (ofBits group) :: bytesOfBits l := by
  rw [bytesOfBits, groups_append (by decide) hgroup, List.map_cons, bytesOfBits]

/-- What is left is no byte. -/
theorem bytesOfBits_bitsOf (bytes : List UInt8) {rest : List Bool} (hrest : rest.length < 8) :
    bytesOfBits (bitsOf bytes ++ rest) = bytes := by
  induction bytes with
  | nil =>
    rw [bitsOf, List.flatMap_nil, List.nil_append, bytesOfBits, groups_of_short hrest]
    rfl
  | cons byte bytes ih =>
    have hcons : bitsOf (byte :: bytes) ++ rest = bits 8 byte.toNat ++ (bitsOf bytes ++ rest) := by
      rw [bitsOf, List.flatMap_cons, List.append_assoc]
      rfl
    rw [hcons, bytesOfBits_append (by simp), ih, ofBits_bits, Nat.mod_eq_of_lt byte.toNat_lt,
      UInt8.ofNat_toNat]

theorem idxOf?_base32Alphabet :
    ∀ char ∈ base32Alphabet, base32Alphabet.idxOf? char = some (base32Alphabet.idxOf char) :=
  forall_mem_of_all (by decide)

theorem base32Digit_spec {group : List Bool} (hgroup : group.length = 5) :
    base32Digit group ∈ base32Alphabet ∧ charBits (base32Digit group) = group := by
  have hlt : ofBits group < base32Alphabet.length := by
    have hbits := ofBits_lt group
    rwa [hgroup] at hbits
  have hchar : base32Digit group = base32Alphabet[ofBits group] := by
    rw [base32Digit, List.getD_eq_getElem?_getD, List.getElem?_eq_getElem hlt]
    rfl
  have hindex : base32Alphabet.idxOf base32Alphabet[ofBits group] = ofBits group :=
    List.Nodup.idxOf_getElem (by decide) _ hlt
  constructor
  · rw [hchar]
    exact List.getElem_mem hlt
  · rw [charBits, hchar, hindex, ← hgroup, bits_ofBits]

theorem mem_base32 {bytes : List UInt8} {char : Char} (h : char ∈ base32 bytes) :
    char ∈ base32Alphabet := by
  obtain ⟨group, hgroup, rfl⟩ := List.mem_map.mp h
  exact (base32Digit_spec (length_of_mem_groups hgroup)).1

/-- The characters have the bits that they were made of. -/
theorem flatMap_charBits (l : List Bool) : (base32OfBits l).flatMap charBits = padded 5 l := by
  have hgroups : (groups 5 (padded 5 l)).map (fun g => charBits (base32Digit g)) =
      groups 5 (padded 5 l) := by
    rw [List.map_congr_left fun g hg => (base32Digit_spec (length_of_mem_groups hg)).2, List.map_id']
  rw [base32OfBits, List.flatMap_map, List.flatMap_def, hgroups,
    flatten_groups (by decide) (dvd_length_padded (by decide) l)]

theorem upperChar_base32Alphabet : ∀ char ∈ base32Alphabet, upperChar char = [char] :=
  forall_mem_of_all (by decide)

theorem take_set_succ {α : Type} {l : List α} {i : Nat} (h : i < l.length) (a : α) :
    (l.set i a).take (i + 1) = l.take i ++ [a] := by
  rw [List.take_add_one, List.take_set_of_le (Nat.le_refl i), List.getElem?_set_self h]
  rfl

/-- The loop, from any state: the bytes of the bits that are there and of the characters. -/
theorem decode_loop (chars : Text) (hchars : ∀ char ∈ chars, char ∈ base32Alphabet)
    (s : DecodeState) (hbits : s.bits < 8)
    (hroom : s.index + (s.bits + 5 * chars.length) / 8 ≤ s.output.length) :
    ∃ s', chars.foldlM decodeChar s = .ok s' ∧ s'.output.take s'.index =
      s.output.take s.index ++ bytesOfBits (bits s.bits s.value.toNat ++ chars.flatMap charBits) := by
  induction chars generalizing s with
  | nil =>
    refine ⟨s, rfl, ?_⟩
    rw [List.flatMap_nil, List.append_nil, bytesOfBits, groups_of_short (by simpa using hbits)]
    simp
  | cons char chars ih =>
    rw [List.length_cons] at hroom
    obtain ⟨hchar, hrest⟩ := List.forall_mem_cons.mp hchars
    have hindex : base32Alphabet.idxOf char < 32 := List.idxOf_lt_length_iff.mpr hchar
    have hshift := bits_shl_or s.value s.bits 5 (by decide) (by omega)
      (n := base32Alphabet.idxOf char) hindex
    generalize hvalue : shl s.value 5 ||| BitVec.ofNat 32 (base32Alphabet.idxOf char) = value
      at hshift
    have hjoin : bits s.bits s.value.toNat ++ (char :: chars).flatMap charBits =
        bits (s.bits + 5) value.toNat ++ chars.flatMap charBits := by
      rw [hshift, List.flatMap_cons, charBits, List.append_assoc]
    have hfound := idxOf?_base32Alphabet char hchar
    rw [List.foldlM_cons, hjoin, decodeChar, hfound]
    simp only [hvalue]
    split
    next hbyte =>
      obtain ⟨s', hs', htake⟩ := ih hrest ⟨s.bits + 5 - 8, value, s.index + 1,
        s.output.set s.index (UInt8.ofNat (ushr value (s.bits + 5 - 8) &&& 0xff).toNat)⟩
        (by simp only; omega) (by simp only [List.length_set]; omega)
      refine ⟨s', hs', ?_⟩
      have hwidth : s.bits + 5 = 8 + (s.bits + 5 - 8) := by omega
      have hmask : (ushr value (s.bits + 5 - 8) &&& 0xff).toNat =
          ofBits (bits 8 (value.toNat >>> (s.bits + 5 - 8))) := by
        rw [BitVec.toNat_and, toNat_ushr (by omega), ofBits_bits]
        exact Nat.and_two_pow_sub_one_eq_mod _ 8
      have hgroup : (bits 8 (value.toNat >>> (s.bits + 5 - 8))).length = 8 := by simp
      have hbytes := bytesOfBits_append hgroup
        (bits (s.bits + 5 - 8) value.toNat ++ chars.flatMap charBits)
      rw [← List.append_assoc, ← bits_add, ← hwidth] at hbytes
      rw [htake, hbytes, ← hmask, take_set_succ (by omega), List.append_assoc]
      rfl
    next hfew =>
      obtain ⟨s', hs', htake⟩ := ih hrest ⟨s.bits + 5, value, s.index, s.output⟩
        (by simp only; omega) (by simp only; omega)
      exact ⟨s', hs', htake⟩

/-- **What was encoded is decoded.** -/
theorem base32Decode_base32 (bytes : List UInt8) : base32Decode (base32 bytes) = .ok bytes := by
  have hupper : (base32 bytes).flatMap upperChar = base32 bytes := by
    rw [List.flatMap_congr fun char hchar => upperChar_base32Alphabet char (mem_base32 hchar)]
    simp
  have hclean : (base32 bytes).rdropWhile (fun c => decide (c = '=')) = base32 bytes := by
    rw [List.rdropWhile_eq_self_iff]
    intro hne hlast
    have hmem := mem_base32 (List.getLast_mem hne)
    rw [of_decide_eq_true hlast] at hmem
    exact absurd hmem (by decide)
  obtain ⟨s', hloop, htake⟩ := decode_loop (base32 bytes) (fun _ => mem_base32)
    ⟨0, 0, 0, List.replicate ((base32 bytes).length * 5 / 8) 0⟩ (Nat.succ_pos 7) (by
      simp only [List.length_replicate]
      omega)
  have hpad : ((5 - (bitsOf bytes).length % 5) % 5) < 8 := by omega
  rw [base32Decode]
  simp only [hupper, hclean]
  rw [hloop]
  show Except.ok (s'.output.take s'.index) = _
  rw [htake, base32, flatMap_charBits, padded]
  show Except.ok (bytesOfBits (bitsOf bytes ++ _)) = _
  rw [bytesOfBits_bitsOf bytes (by simpa using hpad)]

/-! ### The code -/

theorem writeUInt32BE_ofNat {n : Nat} (h : n < 2 ^ 32) : writeUInt32BE n = .ok (toBytes 4 n) := by
  rw [writeUInt32BE, if_pos (by omega), Int.toNat_natCast]

/-- The two halves are the eight bytes. -/
theorem totpCounter_eq {step : Nat} (h : step < 2 ^ 64) :
    totpCounter step = .ok (toBytes 8 step) := by
  have hhigh : writeUInt32BE ((step : Int) / 0x100000000) =
      .ok (toBytes 4 (step / 256 ^ 4)) := writeUInt32BE_ofNat (n := step / 256 ^ 4) (by omega)
  have hlow : writeUInt32BE ((step : Int) % 0x100000000) = .ok (toBytes 4 step) := by
    rw [← toBytes_mod 4 step]
    exact writeUInt32BE_ofNat (n := step % 256 ^ 4) (by omega)
  rw [totpCounter, hhigh, hlow, toBytes_add 4 4 step]
  rfl

/-- Disjoint bits are added. -/
theorem shiftLeft_or {a b k : Nat} (h : b < 2 ^ k) : a <<< k ||| b = a * 2 ^ k + b := by
  rw [← Nat.shiftLeft_add_eq_or_of_lt h, Nat.shiftLeft_eq]

theorem toNat_code (b₀ b₁ b₂ b₃ : UInt8) :
    (shl (BitVec.ofNat 32 b₀.toNat &&& 0x7f) 24 ||| shl (BitVec.ofNat 32 b₁.toNat &&& 0xff) 16 |||
        shl (BitVec.ofNat 32 b₂.toNat &&& 0xff) 8 ||| (BitVec.ofNat 32 b₃.toNat &&& 0xff)).toNat =
      ofBytes [b₀, b₁, b₂, b₃] % 2 ^ 31 := by
  have hb₀ := b₀.toNat_lt
  have hb₁ := b₁.toNat_lt
  have hb₂ := b₂.toNat_lt
  have hb₃ := b₃.toNat_lt
  have hbyte (b : UInt8) : (BitVec.ofNat 32 b.toNat &&& 0xff).toNat = b.toNat := by
    have hb := b.toNat_lt
    rw [BitVec.toNat_and, BitVec.toNat_ofNat, Nat.mod_eq_of_lt (by omega)]
    exact (Nat.and_two_pow_sub_one_eq_mod _ 8).trans (Nat.mod_eq_of_lt hb)
  have hhead : (BitVec.ofNat 32 b₀.toNat &&& 0x7f).toNat = b₀.toNat % 128 := by
    rw [BitVec.toNat_and, BitVec.toNat_ofNat, Nat.mod_eq_of_lt (by omega)]
    exact Nat.and_two_pow_sub_one_eq_mod _ 7
  have hshl (value : BitVec 32) (n : Nat) (hn : n < 32) (hfits : value.toNat * 2 ^ n < 2 ^ 32) :
      (shl value n).toNat = value.toNat <<< n := by
    rw [shl, Nat.mod_eq_of_lt hn, BitVec.toNat_shiftLeft, Nat.shiftLeft_eq,
      Nat.mod_eq_of_lt hfits]
  have hbytes : ofBytes [b₀, b₁, b₂, b₃] =
      ((b₀.toNat * 256 + b₁.toNat) * 256 + b₂.toNat) * 256 + b₃.toNat := by
    simp only [ofBytes, List.foldl_cons, List.foldl_nil]
    omega
  simp only [BitVec.toNat_or]
  rw [hshl _ 24 (by decide) (by omega), hshl _ 16 (by decide) (by rw [hbyte]; omega),
    hshl _ 8 (by decide) (by rw [hbyte]; omega), hhead, hbyte, hbyte, hbyte, hbytes]
  generalize hx : b₀.toNat % 128 = x
  -- from the left, each byte goes below those before
  have hfirst : x <<< 24 ||| b₁.toNat <<< 16 = (x * 256 + b₁.toNat) <<< 16 := by
    rw [shiftLeft_or (by rw [Nat.shiftLeft_eq]; omega), Nat.shiftLeft_eq, Nat.shiftLeft_eq]
    omega
  have hsecond : (x * 256 + b₁.toNat) <<< 16 ||| b₂.toNat <<< 8 =
      ((x * 256 + b₁.toNat) * 256 + b₂.toNat) <<< 8 := by
    rw [shiftLeft_or (by rw [Nat.shiftLeft_eq]; omega), Nat.shiftLeft_eq, Nat.shiftLeft_eq]
    omega
  rw [hfirst, hsecond, shiftLeft_or (by omega)]
  omega

theorem take_four {l : List UInt8} {i : Nat} (h : i + 4 ≤ l.length) :
    (l.drop i).take 4 = [l.getD i 0, l.getD (i + 1) 0, l.getD (i + 2) 0, l.getD (i + 3) 0] := by
  have hget (j : Nat) (hj : j < l.length) : l.getD j 0 = l[j] := by
    rw [List.getD_eq_getElem?_getD, List.getElem?_eq_getElem hj]
    rfl
  rw [hget i (by omega), hget (i + 1) (by omega), hget (i + 2) (by omega), hget (i + 3) (by omega),
    List.drop_eq_getElem_cons (by omega), List.drop_eq_getElem_cons (by omega),
    List.drop_eq_getElem_cons (by omega), List.drop_eq_getElem_cons (by omega)]
  rfl

/-- The dynamic truncation. -/
theorem truncateHmac_eq (mac : Vector UInt8 20) :
    (truncateHmac mac.toList).tmod 1000000 = hotpValue mac := by
  have hlength : mac.toList.length = 20 := Vector.length_toList
  have hlast : mac.toList.getD (mac.toList.length - 1) 0 = mac[19] := by
    rw [hlength, List.getD_eq_getElem?_getD, List.getElem?_eq_getElem (by omega)]
    rfl
  have hoffset : (BitVec.ofNat 32 mac[19].toNat &&& 0x0f).toNat = mac[19].toNat % 16 := by
    have hbyte := mac[19].toNat_lt
    rw [BitVec.toNat_and, BitVec.toNat_ofNat, Nat.mod_eq_of_lt (by omega)]
    exact Nat.and_two_pow_sub_one_eq_mod _ 4
  unfold truncateHmac hotpValue
  simp only [hlast, hoffset]
  generalize hi : mac[19].toNat % 16 = i
  rw [take_four (by omega)]
  have hcode := toNat_code (mac.toList.getD i 0) (mac.toList.getD (i + 1) 0)
    (mac.toList.getD (i + 2) 0) (mac.toList.getD (i + 3) 0)
  rw [BitVec.toInt_eq_toNat_of_lt (by omega), hcode]
  exact (Int.ofNat_tmod _ _).symm

/-- **Codes follow the standards.** A secret is the base 32 text of its bytes and is read back; the
code for it is the one of these bytes and of the number of the time step in eight bytes. -/
theorem totp_follows_standard (hmacSha1 : List UInt8 → List UInt8 → Vector UInt8 20)
    (key : List UInt8) (step : Nat) (hstep : step < 2 ^ 53) :
    base32Encode key = base32 key ∧ base32Decode (base32Encode key) = .ok key ∧
      totpCounter step = .ok (toBytes 8 step) ∧
      computeTotp hmacSha1 (base32Encode key) step = .ok (hotp hmacSha1 key step) := by
  have hdecode : base32Decode (base32Encode key) = .ok key := by
    rw [base32Encode_eq, base32Decode_base32]
  have hcounter : totpCounter step = .ok (toBytes 8 step) := totpCounter_eq (by omega)
  refine ⟨base32Encode_eq key, hdecode, hcounter, ?_⟩
  rw [computeTotp, hcounter, hdecode]
  show Except.ok ((numberText (some ((truncateHmac _).tmod 1000000))).leftpad 6 '0') = _
  rw [truncateHmac_eq]
  rfl

/-- The text `12345678901234567890`. -/
def rfcKey : List UInt8 :=
  [0x31, 0x32, 0x33, 0x34, 0x35, 0x36, 0x37, 0x38, 0x39, 0x30, 0x31, 0x32, 0x33, 0x34, 0x35, 0x36,
    0x37, 0x38, 0x39, 0x30]

/-- The hash of the counter 0 with this key. -/
def zeroHmac : Vector UInt8 20 :=
  #v[0xcc, 0x93, 0xcf, 0x18, 0x50, 0x8d, 0x94, 0x93, 0x4c, 0x64, 0xb6, 0x5d, 0x8b, 0xa7, 0x66, 0x7f,
    0xb7, 0xcd, 0xe4, 0xb0]

theorem code_755224 : computeTotp (fun _ _ => zeroHmac)
    (base32Encode rfcKey) ((0 : Nat) : Int) = .ok "755224".toList :=
  (totp_follows_standard (fun _ _ => zeroHmac) rfcKey 0
    (by decide)).2.2.2.trans (by decide)

end BrandBlitz.Auth
