import Mathlib.Data.List.Basic

/-!
# Base64

The standard alphabet with padding. Three bytes are four digits of six bits; one or
two bytes at the end are padded. The decoder is strict: it takes padding only at the
end, and only after digits whose spare bits are zero.

Main results:

* `decode_encode`: what was encoded is read back.
* `length_encode`, `isText_of_mem_encode`: the size of the text, and its characters.
-/

namespace Base64

-- ---------------------------------------------------------------------------
-- Digits
-- ---------------------------------------------------------------------------

/-- The digit with a value. -/
def digit (n : Nat) : Char :=
  Char.ofNat (if n < 26 then 65 + n else if n < 52 then 71 + n else if n < 62 then n - 4
    else if n = 62 then 43 else 47)

/-- The value of a digit. -/
def value (c : Char) : Option Nat :=
  if 65 ≤ c.toNat ∧ c.toNat ≤ 90 then some (c.toNat - 65)
  else if 97 ≤ c.toNat ∧ c.toNat ≤ 122 then some (c.toNat - 71)
  else if 48 ≤ c.toNat ∧ c.toNat ≤ 57 then some (c.toNat + 4)
  else if c = '+' then some 62
  else if c = '/' then some 63
  else none

/-- A digit, or the padding. -/
def isText (c : Char) : Bool := (value c).isSome || c == '='

theorem value_digit {n : Nat} (hn : n < 64) : value (digit n) = some n := by
  have hAll : ∀ m < 64, value (digit m) = some m := by decide
  exact hAll n hn

theorem digit_ne_padding {n : Nat} (hn : n < 64) : digit n ≠ '=' := by
  intro hIs
  have hValue := value_digit hn
  rw [hIs] at hValue
  cases hValue

theorem isText_digit {n : Nat} (hn : n < 64) : isText (digit n) = true := by
  rw [isText, value_digit hn]
  rfl

/-- The characters are visible. -/
theorem visible_of_isText {c : Char} (h : isText c = true) : 43 ≤ c.toNat ∧ c.toNat ≤ 122 := by
  unfold isText value at h
  split at h
  · omega
  · split at h
    · omega
    · split at h
      · omega
      · split at h
        · rename_i hPlus
          rw [hPlus]
          decide
        · split at h
          · rename_i hSlash
            rw [hSlash]
            decide
          · have hPad : c = '=' := by simpa using h
            rw [hPad]
            decide

-- ---------------------------------------------------------------------------
-- Texts
-- ---------------------------------------------------------------------------

def encode : List UInt8 → List Char
  | [] => []
  | [a] => [digit (a.toNat / 4), digit (a.toNat % 4 * 16), '=', '=']
  | [a, b] =>
    [digit (a.toNat / 4), digit (a.toNat % 4 * 16 + b.toNat / 16), digit (b.toNat % 16 * 4), '=']
  | a :: b :: c :: rest =>
    digit (a.toNat / 4) :: digit (a.toNat % 4 * 16 + b.toNat / 16) ::
      digit (b.toNat % 16 * 4 + c.toNat / 64) :: digit (c.toNat % 64) :: encode rest

/-- The bytes of four digits, the last two of which may be padding. -/
def decodeGroup (w x : Nat) : Option Nat → Option Nat → Option (List UInt8)
  | none, none => if x % 16 = 0 then some [UInt8.ofNat (w * 4 + x / 16)] else none
  | some y, none =>
    if y % 4 = 0 then some [UInt8.ofNat (w * 4 + x / 16), UInt8.ofNat (x % 16 * 16 + y / 4)]
    else none
  | some y, some z =>
    some [UInt8.ofNat (w * 4 + x / 16), UInt8.ofNat (x % 16 * 16 + y / 4),
      UInt8.ofNat (y % 4 * 64 + z)]
  | none, some _ => none

def decode : List Char → Option (List UInt8)
  | [] => some []
  | w :: x :: y :: z :: rest =>
    (value w).bind fun w => (value x).bind fun x =>
      if z = '=' then
        if rest = [] then
          if y = '=' then decodeGroup w x none none
          else (value y).bind fun y => decodeGroup w x (some y) none
        else none
      else (value y).bind fun y => (value z).bind fun z =>
        (decodeGroup w x (some y) (some z)).bind fun bytes => (decode rest).map (bytes ++ ·)
  | _ => none

theorem ofNat_eq {n : Nat} {a : UInt8} (h : n = a.toNat) : UInt8.ofNat n = a := by
  rw [h, UInt8.ofNat_toNat]

/-- **Round trip.** -/
theorem decode_encode (bytes : List UInt8) : decode (encode bytes) = some bytes := by
  induction bytes using encode.induct with
  | case1 => rfl
  | case2 a =>
    have hA := a.toNat_lt
    rw [encode, decode, value_digit (by omega), value_digit (by omega)]
    simp only [Option.bind_some, if_true, decodeGroup]
    rw [if_pos (by omega), ofNat_eq (a := a) (by omega)]
  | case3 a b =>
    have hA := a.toNat_lt
    have hB := b.toNat_lt
    rw [encode, decode, value_digit (by omega), value_digit (by omega), value_digit (by omega)]
    simp only [Option.bind_some, if_true, decodeGroup]
    rw [if_neg (digit_ne_padding (by omega)), if_pos (by omega), ofNat_eq (a := a) (by omega),
      ofNat_eq (a := b) (by omega)]
  | case4 a b c rest ih =>
    have hA := a.toNat_lt
    have hB := b.toNat_lt
    have hC := c.toNat_lt
    rw [encode, decode, value_digit (by omega), value_digit (by omega), value_digit (by omega),
      value_digit (by omega)]
    simp only [Option.bind_some, decodeGroup]
    rw [if_neg (digit_ne_padding (by omega)), ih, ofNat_eq (a := a) (by omega),
      ofNat_eq (a := b) (by omega), ofNat_eq (a := c) (by omega)]
    rfl

/-- Four characters for each three bytes that were begun. -/
theorem length_encode (bytes : List UInt8) :
    (encode bytes).length = (bytes.length + 2) / 3 * 4 := by
  induction bytes using encode.induct with
  | case1 => rfl
  | case2 a => simp [encode]
  | case3 a b => simp [encode]
  | case4 a b c rest ih =>
    simp only [encode, List.length_cons, ih]
    omega

theorem isText_of_mem_encode {bytes : List UInt8} {c : Char} (h : c ∈ encode bytes) :
    isText c = true := by
  induction bytes using encode.induct with
  | case1 => exact absurd h List.not_mem_nil
  | case2 a =>
    have hA := a.toNat_lt
    simp only [encode, List.mem_cons, List.not_mem_nil, or_false] at h
    rcases h with rfl | rfl | rfl | rfl
    · exact isText_digit (by omega)
    · exact isText_digit (by omega)
    · rfl
    · rfl
  | case3 a b =>
    have hA := a.toNat_lt
    have hB := b.toNat_lt
    simp only [encode, List.mem_cons, List.not_mem_nil, or_false] at h
    rcases h with rfl | rfl | rfl | rfl
    · exact isText_digit (by omega)
    · exact isText_digit (by omega)
    · exact isText_digit (by omega)
    · rfl
  | case4 a b c' rest ih =>
    have hA := a.toNat_lt
    have hB := b.toNat_lt
    have hC := c'.toNat_lt
    simp only [encode, List.mem_cons] at h
    rcases h with rfl | rfl | rfl | rfl | hRest
    · exact isText_digit (by omega)
    · exact isText_digit (by omega)
    · exact isText_digit (by omega)
    · exact isText_digit (by omega)
    · exact ih hRest

end Base64
