import Mathlib.Algebra.Ring.Nat
import Mathlib.Data.List.Basic

/-!
# Percent encoding

A byte string cut at its escapes, from left to right: a percent sign takes the
two bytes after it, whatever they are. A decoder is then a way to read two bytes
as one, applied to every piece.

Main results:

* `decode_eq`: what a decoder returns, when it reads the pieces of one kind.
* `pieces_encode`: every encoding of a byte string is made of pieces that stand
  for its bytes.
-/

namespace Percent

def percent : UInt8 := 37

-- ---------------------------------------------------------------------------
-- Digits
-- ---------------------------------------------------------------------------

def isHexDigit (b : UInt8) : Bool :=
  (48 ≤ b.toNat && b.toNat ≤ 57) || (65 ≤ b.toNat && b.toNat ≤ 70) ||
    (97 ≤ b.toNat && b.toNat ≤ 102)

/-- The value of a digit. -/
def hexValue (b : UInt8) : Nat :=
  if b.toNat ≤ 57 then b.toNat - 48 else if b.toNat ≤ 70 then b.toNat - 55 else b.toNat - 87

/-- The digit with a value, in either case. -/
def hexDigit (upper : Bool) (n : Nat) : UInt8 :=
  UInt8.ofNat (if n < 10 then 48 + n else if upper then 55 + n else 87 + n)

/-- A digit is below ten, or one of the letters of its case. -/
theorem toNat_hexDigit (upper : Bool) {n : Nat} (hn : n < 16) :
    n < 10 ∧ (hexDigit upper n).toNat = 48 + n ∨
      10 ≤ n ∧ ((hexDigit upper n).toNat = 55 + n ∨ (hexDigit upper n).toNat = 87 + n) := by
  have hOfNat : ∀ m < 256, (UInt8.ofNat m).toNat = m := by
    intro m hm
    rw [UInt8.toNat_ofNat', Nat.mod_eq_of_lt hm]
  by_cases hSmall : n < 10
  · left
    rw [hexDigit, if_pos hSmall]
    exact ⟨hSmall, hOfNat _ (by omega)⟩
  · right
    refine ⟨Nat.le_of_not_lt hSmall, ?_⟩
    rw [hexDigit, if_neg hSmall]
    by_cases hUpper : upper = true
    · rw [if_pos hUpper]
      exact .inl (hOfNat _ (by omega))
    · rw [if_neg hUpper]
      exact .inr (hOfNat _ (by omega))

theorem isHexDigit_hexDigit (upper : Bool) {n : Nat} (hn : n < 16) :
    isHexDigit (hexDigit upper n) = true := by
  have hNat := toNat_hexDigit upper hn
  simp only [isHexDigit, Bool.or_eq_true, Bool.and_eq_true, decide_eq_true_eq]
  omega

theorem hexValue_hexDigit (upper : Bool) {n : Nat} (hn : n < 16) :
    hexValue (hexDigit upper n) = n := by
  have hNat := toNat_hexDigit upper hn
  rw [hexValue]
  split
  · omega
  · split <;> omega

-- ---------------------------------------------------------------------------
-- Pieces
-- ---------------------------------------------------------------------------

inductive Piece
  | plain (b : UInt8)
  | escape (hi lo : UInt8)
  /-- a percent sign with fewer than two bytes after it -/
  | cut
  deriving DecidableEq

/-- The pieces of a byte string, from left to right. -/
def pieces : List UInt8 → List Piece
  | [] => []
  | [b] => if b = percent then [.cut] else [.plain b]
  | [b, c] => if b = percent then [.cut] else .plain b :: pieces [c]
  | b :: hi :: lo :: rest =>
    if b = percent then .escape hi lo :: pieces rest else .plain b :: pieces (hi :: lo :: rest)

theorem pieces_plain {b : UInt8} (hb : b ≠ percent) (rest : List UInt8) :
    pieces (b :: rest) = .plain b :: pieces rest := by
  match rest with
  | [] => exact if_neg hb
  | [c] => exact if_neg hb
  | hi :: lo :: rest => exact if_neg hb

theorem pieces_escape (hi lo : UInt8) (rest : List UInt8) :
    pieces (percent :: hi :: lo :: rest) = .escape hi lo :: pieces rest := if_pos rfl

namespace Piece

/-- The escape has two digits. -/
def isEncoded : Piece → Bool
  | plain _ => true
  | escape hi lo => isHexDigit hi && isHexDigit lo
  | cut => false

/-- The byte a piece stands for. -/
def byte : Piece → UInt8
  | plain b => b
  | escape hi lo => UInt8.ofNat (16 * hexValue hi + hexValue lo)
  | cut => percent

/-- The byte a decoder finds, given how it reads the two bytes of an escape. -/
def read (byte? : UInt8 → UInt8 → Option UInt8) : Piece → Option UInt8
  | plain b => some b
  | escape hi lo => byte? hi lo
  | cut => none

end Piece

/-- A decoder for a way to read escapes. -/
def decode (byte? : UInt8 → UInt8 → Option UInt8) (bytes : List UInt8) : Option (List UInt8) :=
  (pieces bytes).mapM (Piece.read byte?)

/-- A decoder that reads the pieces with a property, as given, returns what it
reads when all pieces have the property, and nothing otherwise. -/
theorem decode_eq {byte? : UInt8 → UInt8 → Option UInt8} {good : Piece → Bool}
    {value : Piece → UInt8}
    (hRead : ∀ p, Piece.read byte? p = if good p then some (value p) else none)
    (bytes : List UInt8) :
    decode byte? bytes =
      if (pieces bytes).all good then some ((pieces bytes).map value) else none := by
  rw [decode]
  induction pieces bytes with
  | nil => rfl
  | cons p ps ih =>
    rw [List.mapM_cons, hRead, ih, List.all_cons, List.map_cons]
    cases good p with
    | false => rfl
    | true =>
      rw [Bool.true_and, if_pos rfl]
      cases ps.all good with
      | false => rfl
      | true => rfl

/-- Decoding that leaves a percent sign without two digits as it is. -/
def decodeAll : List UInt8 → List UInt8
  | [] => []
  | [b] => [b]
  | [b, c] => [b, c]
  | b :: hi :: lo :: rest =>
    if b = percent ∧ isHexDigit hi = true ∧ isHexDigit lo = true then
      Piece.byte (.escape hi lo) :: decodeAll rest
    else b :: decodeAll (hi :: lo :: rest)

theorem decodeAll_plain {b : UInt8} (hb : b ≠ percent) (rest : List UInt8) :
    decodeAll (b :: rest) = b :: decodeAll rest := by
  match rest with
  | [] => rfl
  | [c] => rfl
  | hi :: lo :: rest => exact if_neg fun h => hb h.1

theorem decodeAll_escape {hi lo : UInt8} (h : (Piece.escape hi lo).isEncoded = true)
    (rest : List UInt8) :
    decodeAll (percent :: hi :: lo :: rest) = Piece.byte (.escape hi lo) :: decodeAll rest := by
  rw [Piece.isEncoded, Bool.and_eq_true] at h
  exact if_pos ⟨rfl, h.1, h.2⟩

/-- A percent sign without a digit after it stays. -/
theorem decodeAll_percent {hi : UInt8} (h : isHexDigit hi = false) (lo : UInt8)
    (rest : List UInt8) :
    decodeAll (percent :: hi :: lo :: rest) = percent :: decodeAll (hi :: lo :: rest) := by
  refine if_neg ?_
  rintro ⟨-, hDigit, -⟩
  rw [h] at hDigit
  cases hDigit

-- ---------------------------------------------------------------------------
-- Encodings
-- ---------------------------------------------------------------------------

/-- How to spell one byte: as an escape or not, and the case of its digits. -/
structure Spelling where
  escaped : Bool
  upperHi : Bool
  upperLo : Bool

/-- A percent sign is always escaped. -/
def encodeByte (spelling : Spelling) (b : UInt8) : List UInt8 :=
  if b = percent ∨ spelling.escaped = true then
    [percent, hexDigit spelling.upperHi (b.toNat / 16), hexDigit spelling.upperLo (b.toNat % 16)]
  else [b]

/-- The bytes with each spelled as chosen for its place. -/
def encode (choice : Nat → Spelling) : List UInt8 → List UInt8
  | [] => []
  | b :: rest => encodeByte (choice 0) b ++ encode (fun i => choice (i + 1)) rest

/-- A spelling of a byte is one piece that stands for it. -/
theorem pieces_encodeByte (spelling : Spelling) (b : UInt8) (rest : List UInt8) :
    ∃ p, pieces (encodeByte spelling b ++ rest) = p :: pieces rest ∧ p.isEncoded = true ∧
      p.byte = b := by
  have hLt : b.toNat < 256 := b.toNat_lt
  have hHi : b.toNat / 16 < 16 := by omega
  have hLo : b.toNat % 16 < 16 := Nat.mod_lt _ (by decide)
  rw [encodeByte]
  split
  · refine ⟨_, pieces_escape _ _ rest, ?_, ?_⟩
    · rw [Piece.isEncoded, isHexDigit_hexDigit _ hHi, isHexDigit_hexDigit _ hLo]
      rfl
    · rw [Piece.byte, hexValue_hexDigit _ hHi, hexValue_hexDigit _ hLo, Nat.div_add_mod,
        UInt8.ofNat_toNat]
  · rename_i hPlain
    exact ⟨_, pieces_plain (fun hb => hPlain (.inl hb)) rest, rfl, rfl⟩

/-- **Every encoding of a byte string is made of pieces that stand for its
bytes.** The induction is on the bytes. -/
theorem pieces_encode (choice : Nat → Spelling) (bytes : List UInt8) :
    (pieces (encode choice bytes)).all Piece.isEncoded = true ∧
      (pieces (encode choice bytes)).map Piece.byte = bytes := by
  induction bytes generalizing choice with
  | nil => exact ⟨rfl, rfl⟩
  | cons b rest ih =>
    obtain ⟨hEncoded, hBytes⟩ := ih fun i => choice (i + 1)
    obtain ⟨p, hPieces, hPiece, hByte⟩ :=
      pieces_encodeByte (choice 0) b (encode (fun i => choice (i + 1)) rest)
    rw [encode, hPieces, List.all_cons, List.map_cons, hPiece, hByte, hEncoded, hBytes]
    exact ⟨rfl, rfl⟩

end Percent
