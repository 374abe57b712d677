/-
# Padded base64

Three bytes are written as four characters of an alphabet of 64, the last one or two bytes with
padding. A decoder is strict when it takes nothing but such groups; a canonical one also wants
the bits that a padded group does not need to be zero. Both read back what is encoded, the
length of a text follows from that of its bytes, and a canonical decoder takes no text but the
encoded ones.
-/

import Mathlib

namespace LLMRouting.Data.Base64

/-- The characters for 0 to 63. -/
def alphabet : List Char :=
  "ABCDEFGHIJKLMNOPQRSTUVWXYZabcdefghijklmnopqrstuvwxyz0123456789+/".toList

/-- The character for a six-bit value. -/
def toChar (value : ℕ) : Char := alphabet.getD value '='

/-- The value of a character; padding has none. -/
def ofChar (c : Char) : Option ℕ := alphabet.idxOf? c

def encode : List UInt8 → List Char
  | [] => []
  | [a] => [toChar (a.toNat / 4), toChar (a.toNat % 4 * 16), '=', '=']
  | [a, b] =>
      [toChar (a.toNat / 4), toChar (a.toNat % 4 * 16 + b.toNat / 16),
        toChar (b.toNat % 16 * 4), '=']
  | a :: b :: c :: rest =>
      toChar (a.toNat / 4) :: toChar (a.toNat % 4 * 16 + b.toNat / 16) ::
        toChar (b.toNat % 16 * 4 + c.toNat / 64) :: toChar (c.toNat % 64) :: encode rest

theorem encode_one (a : UInt8) :
    encode [a] = [toChar (a.toNat / 4), toChar (a.toNat % 4 * 16), '=', '='] := rfl

theorem encode_two (a b : UInt8) :
    encode [a, b] = [toChar (a.toNat / 4), toChar (a.toNat % 4 * 16 + b.toNat / 16),
      toChar (b.toNat % 16 * 4), '='] := rfl

theorem encode_three (a b c : UInt8) :
    encode [a, b, c] = [toChar (a.toNat / 4), toChar (a.toNat % 4 * 16 + b.toNat / 16),
      toChar (b.toNat % 16 * 4 + c.toNat / 64), toChar (c.toNat % 64)] := rfl

/-- Three bytes are written by themselves. -/
theorem encode_append (a b c : UInt8) (rest : List UInt8) :
    encode (a :: b :: c :: rest) = encode [a, b, c] ++ encode rest := rfl

/-- The byte with the given high part and low part. -/
def byte (high low : ℕ) : UInt8 := UInt8.ofNat (high + low)

/-- A group without padding. -/
def decodeGroup (w x y z : Char) : Option (List UInt8) := do
  let first ← ofChar w
  let second ← ofChar x
  let third ← ofChar y
  let fourth ← ofChar z
  return [byte (first * 4) (second / 16), byte (second % 16 * 16) (third / 4),
    byte (third % 4 * 64) fourth]

/-- A group that ends with padding, given without its last character. -/
def decodeLast (canonical : Bool) (w x y : Char) : Option (List UInt8) := do
  let first ← ofChar w
  let second ← ofChar x
  if y = '=' then
    if canonical ∧ second % 16 ≠ 0 then none else return [byte (first * 4) (second / 16)]
  else
    let third ← ofChar y
    if canonical ∧ third % 4 ≠ 0 then none
    else return [byte (first * 4) (second / 16), byte (second % 16 * 16) (third / 4)]

/-- The strict decoder. -/
def decode (canonical : Bool) : List Char → Option (List UInt8)
  | [] => some []
  | w :: x :: y :: z :: rest =>
      if z = '=' ∧ rest = [] then decodeLast canonical w x y
      else do
        let bytes ← decodeGroup w x y z
        let more ← decode canonical rest
        return bytes ++ more
  | _ => none

theorem length_alphabet : alphabet.length = 64 := by decide

theorem nodup_alphabet : alphabet.Nodup := by decide

theorem toChar_eq_getElem {value : ℕ} (h : value < alphabet.length) :
    toChar value = alphabet[value] :=
  List.getD_eq_getElem alphabet '=' h

/-- Characters and six-bit values correspond. -/
theorem ofChar_eq_some_iff {c : Char} {value : ℕ} :
    ofChar c = some value ↔ value < 64 ∧ toChar value = c := by
  rw [ofChar, List.idxOf?, List.findIdx?_eq_some_iff_getElem, ← length_alphabet]
  constructor
  · rintro ⟨hvalue, hc, -⟩
    exact ⟨hvalue, (toChar_eq_getElem hvalue).trans (eq_of_beq hc)⟩
  · rintro ⟨hvalue, rfl⟩
    rw [toChar_eq_getElem hvalue]
    refine ⟨hvalue, beq_self_eq_true _, ?_⟩
    intro earlier hearlier hsame
    have hindex : earlier = value := (nodup_alphabet.getElem_inj_iff).mp (eq_of_beq hsame)
    omega

theorem ofChar_toChar {value : ℕ} (h : value < 64) : ofChar (toChar value) = some value :=
  ofChar_eq_some_iff.mpr ⟨h, rfl⟩

theorem ofChar_padding : ofChar '=' = none := by decide

theorem ne_padding_of_ofChar {c : Char} {value : ℕ} (h : ofChar c = some value) : c ≠ '=' := by
  rintro rfl
  rw [ofChar_padding] at h
  cases h

theorem toChar_ne_padding {value : ℕ} (h : value < 64) : toChar value ≠ '=' :=
  ne_padding_of_ofChar (ofChar_toChar h)

theorem toNat_byte {high low : ℕ} (h : high + low < 256) : (byte high low).toNat = high + low := by
  rw [byte, UInt8.toNat_ofNat', Nat.mod_eq_of_lt h]

theorem byte_eq {a : UInt8} {high low : ℕ} (h : high + low = a.toNat) : byte high low = a := by
  rw [byte, h, UInt8.ofNat_toNat]

/-- A group without padding stands for three bytes, and is how they are written. -/
theorem decodeGroup_eq_some_iff {w x y z : Char} {bytes : List UInt8} :
    decodeGroup w x y z = some bytes ↔
      ∃ a b c, bytes = [a, b, c] ∧ encode [a, b, c] = [w, x, y, z] := by
  constructor
  · intro h
    obtain ⟨first, hfirst, hrest₁⟩ := Option.bind_eq_some_iff.mp h
    obtain ⟨second, hsecond, hrest₂⟩ := Option.bind_eq_some_iff.mp hrest₁
    obtain ⟨third, hthird, hrest₃⟩ := Option.bind_eq_some_iff.mp hrest₂
    obtain ⟨fourth, hfourth, hbytes⟩ := Option.bind_eq_some_iff.mp hrest₃
    obtain ⟨hlt₁, rfl⟩ := ofChar_eq_some_iff.mp hfirst
    obtain ⟨hlt₂, rfl⟩ := ofChar_eq_some_iff.mp hsecond
    obtain ⟨hlt₃, rfl⟩ := ofChar_eq_some_iff.mp hthird
    obtain ⟨hlt₄, rfl⟩ := ofChar_eq_some_iff.mp hfourth
    refine ⟨_, _, _, (Option.some.inj hbytes).symm, ?_⟩
    have ha : (byte (first * 4) (second / 16)).toNat = first * 4 + second / 16 :=
      toNat_byte (by omega)
    have hb : (byte (second % 16 * 16) (third / 4)).toNat = second % 16 * 16 + third / 4 :=
      toNat_byte (by omega)
    have hc : (byte (third % 4 * 64) fourth).toNat = third % 4 * 64 + fourth :=
      toNat_byte (by omega)
    have h₁ : (first * 4 + second / 16) / 4 = first := by omega
    have h₂ : (first * 4 + second / 16) % 4 * 16 + (second % 16 * 16 + third / 4) / 16 =
      second := by
      omega
    have h₃ : (second % 16 * 16 + third / 4) % 16 * 4 + (third % 4 * 64 + fourth) / 64 = third := by
      omega
    have h₄ : (third % 4 * 64 + fourth) % 64 = fourth := by omega
    rw [encode_three, ha, hb, hc, h₁, h₂, h₃, h₄]
  · rintro ⟨a, b, c, rfl, hencode⟩
    have ha := a.toNat_lt
    have hb := b.toNat_lt
    have hc := c.toNat_lt
    obtain ⟨rfl, rfl, rfl, rfl⟩ : toChar (a.toNat / 4) = w ∧
        toChar (a.toNat % 4 * 16 + b.toNat / 16) = x ∧
        toChar (b.toNat % 16 * 4 + c.toNat / 64) = y ∧ toChar (c.toNat % 64) = z := by
      simpa [encode_three] using hencode
    rw [decodeGroup, ofChar_toChar (by omega), ofChar_toChar (by omega), ofChar_toChar (by omega),
      ofChar_toChar (by omega)]
    show some [byte _ _, byte _ _, byte _ _] = some [a, b, c]
    rw [@byte_eq a _ _ (by omega), @byte_eq b _ _ (by omega), @byte_eq c _ _ (by omega)]

/-- A padded group stands for one or two bytes. -/
theorem decodeLast_eq_some {canonical : Bool} {w x y : Char} {bytes : List UInt8}
    (h : decodeLast canonical w x y = some bytes) :
    (bytes.length = 1 ∨ bytes.length = 2) ∧ (canonical = true → encode bytes = [w, x, y, '=']) := by
  obtain ⟨first, hfirst, hrest₁⟩ := Option.bind_eq_some_iff.mp h
  obtain ⟨second, hsecond, hrest₂⟩ := Option.bind_eq_some_iff.mp hrest₁
  obtain ⟨hlt₁, rfl⟩ := ofChar_eq_some_iff.mp hfirst
  obtain ⟨hlt₂, rfl⟩ := ofChar_eq_some_iff.mp hsecond
  have ha : (byte (first * 4) (second / 16)).toNat = first * 4 + second / 16 :=
    toNat_byte (by omega)
  have h₁ : (first * 4 + second / 16) / 4 = first := by omega
  by_cases hpadding : y = '='
  · subst hpadding
    rw [if_pos rfl] at hrest₂
    split at hrest₂
    · cases hrest₂
    · rename_i hbits
      cases hrest₂
      refine ⟨.inl rfl, ?_⟩
      intro hcanonical
      have hzero : second % 16 = 0 := by
        by_contra hne
        exact hbits ⟨hcanonical, hne⟩
      have h₂ : (first * 4 + second / 16) % 4 * 16 = second := by omega
      rw [encode_one, ha, h₁, h₂]
  · rw [if_neg hpadding] at hrest₂
    obtain ⟨third, hthird, hrest₃⟩ := Option.bind_eq_some_iff.mp hrest₂
    obtain ⟨hlt₃, rfl⟩ := ofChar_eq_some_iff.mp hthird
    have hb : (byte (second % 16 * 16) (third / 4)).toNat = second % 16 * 16 + third / 4 :=
      toNat_byte (by omega)
    split at hrest₃
    · cases hrest₃
    · rename_i hbits
      cases hrest₃
      refine ⟨.inr rfl, ?_⟩
      intro hcanonical
      have hzero : third % 4 = 0 := by
        by_contra hne
        exact hbits ⟨hcanonical, hne⟩
      have h₂ : (first * 4 + second / 16) % 4 * 16 + (second % 16 * 16 + third / 4) / 16 =
        second := by
        omega
      have h₃ : (second % 16 * 16 + third / 4) % 16 * 4 = third := by omega
      rw [encode_two, ha, hb, h₁, h₂, h₃]

theorem decodeLast_one (canonical : Bool) (a : UInt8) :
    decodeLast canonical (toChar (a.toNat / 4)) (toChar (a.toNat % 4 * 16)) '=' = some [a] := by
  have ha := a.toNat_lt
  have hbits : ¬ (canonical = true ∧ a.toNat % 4 * 16 % 16 ≠ 0) := by omega
  rw [decodeLast, ofChar_toChar (by omega), ofChar_toChar (by omega)]
  simp only [Option.bind_eq_bind, Option.bind_some, if_true]
  rw [if_neg hbits, @byte_eq a _ _ (by omega)]
  rfl

theorem decodeLast_two (canonical : Bool) (a b : UInt8) :
    decodeLast canonical (toChar (a.toNat / 4)) (toChar (a.toNat % 4 * 16 + b.toNat / 16))
      (toChar (b.toNat % 16 * 4)) = some [a, b] := by
  have ha := a.toNat_lt
  have hb := b.toNat_lt
  have hbits : ¬ (canonical = true ∧ b.toNat % 16 * 4 % 4 ≠ 0) := by omega
  rw [decodeLast, ofChar_toChar (by omega), ofChar_toChar (by omega)]
  simp only [Option.bind_eq_bind, Option.bind_some]
  rw [if_neg (toChar_ne_padding (by omega)), ofChar_toChar (by omega), Option.bind_some,
    if_neg hbits, @byte_eq a _ _ (by omega), @byte_eq b _ _ (by omega)]
  rfl

/-- What is encoded is read back. -/
theorem decode_encode (canonical : Bool) (bytes : List UInt8) :
    decode canonical (encode bytes) = some bytes := by
  induction bytes using encode.induct with
  | case1 => rfl
  | case2 a =>
      rw [encode_one, decode, if_pos ⟨rfl, rfl⟩]
      exact decodeLast_one canonical a
  | case3 a b =>
      rw [encode_two, decode, if_pos ⟨rfl, rfl⟩]
      exact decodeLast_two canonical a b
  | case4 a b c rest ih =>
      have hlast : toChar (c.toNat % 64) ≠ '=' := toChar_ne_padding (by omega)
      have hgroup := decodeGroup_eq_some_iff.mpr ⟨a, b, c, rfl, encode_three a b c⟩
      rw [encode_append, encode_three, List.cons_append, List.cons_append, List.cons_append,
        List.cons_append, List.nil_append, decode, if_neg fun h => hlast h.1, hgroup, ih]
      rfl

/-- The text has four characters for three bytes, rounded up; a canonical decoder takes no text
but the encoded one. -/
theorem decode_eq_some {canonical : Bool} {text : List Char} {bytes : List UInt8}
    (h : decode canonical text = some bytes) :
    text.length = 4 * ((bytes.length + 2) / 3) ∧ (canonical = true → encode bytes = text) := by
  fun_induction decode canonical text generalizing bytes with
  | case1 =>
      cases h
      exact ⟨rfl, fun _ => rfl⟩
  | case2 w x y z rest hlast =>
      obtain ⟨rfl, rfl⟩ := hlast
      obtain ⟨hlength, hencode⟩ := decodeLast_eq_some h
      refine ⟨?_, hencode⟩
      simp only [List.length_cons, List.length_nil]
      omega
  | case3 w x y z rest hlast ih =>
      obtain ⟨group, hgroup, hrest⟩ := Option.bind_eq_some_iff.mp h
      obtain ⟨more, hmore, hbytes⟩ := Option.bind_eq_some_iff.mp hrest
      cases hbytes
      obtain ⟨a, b, c, rfl, hencode⟩ := decodeGroup_eq_some_iff.mp hgroup
      obtain ⟨hlength, hcanonical⟩ := ih hmore
      constructor
      · simp only [List.length_cons, List.length_append, List.length_nil]
        omega
      · intro htrue
        rw [List.cons_append, List.cons_append, List.cons_append, List.nil_append, encode_append,
          hencode, hcanonical htrue]
        rfl
  | case4 => cases h

theorem length_of_decode {canonical : Bool} {text : List Char} {bytes : List UInt8}
    (h : decode canonical text = some bytes) : text.length = 4 * ((bytes.length + 2) / 3) :=
  (decode_eq_some h).1

/-- A canonical decoder takes exactly the encoded texts. -/
theorem decode_canonical_iff {text : List Char} {bytes : List UInt8} :
    decode true text = some bytes ↔ encode bytes = text := by
  constructor
  · intro h
    exact (decode_eq_some h).2 rfl
  · rintro rfl
    exact decode_encode true bytes

example : decode true "QQ==".toList = some [0x41] ∧ decode true "QR==".toList = none ∧
    decode false "QR==".toList = some [0x41] := by decide

end LLMRouting.Data.Base64
