import GatewayProxy.Lib.Percent
import GatewayProxy.Source.RestProxy

/-!
# What `percent_decode` accepts

Decoding a segment against the grammar of percent encoding: a percent sign is
followed by two hexadecimal digits. `u8::from_str_radix` reads more than that: a
plus sign and one digit.

Main results:

* `percentDecode_eq_some_iff`, `percentDecode_plain`: decoding, byte by byte.
* `percentDecodeBytes_eq`: the bytes that decoding returns, for all bytes.
* `decodeLoop_eq`: the loop as it is written ends, with these bytes.
* `percent_decode_exact_iff`: decoding is exact on a segment if and only if it
  has no escape that is read with a plus sign, or is refused for another reason.
* `percent_decode_plus`: a segment that is accepted without being an encoding.
-/

namespace GatewayProxy

open Utf8 Percent

-- ---------------------------------------------------------------------------
-- Segments and their bytes
-- ---------------------------------------------------------------------------

/-- Decoding yields the string with the decoded bytes. -/
theorem percentDecode_eq_some_iff {segment decoded : Str} :
    percentDecode segment = some decoded ↔
      percentDecodeBytes (toBytes segment) = some (toBytes decoded) := by
  unfold percentDecode
  constructor
  · intro h
    obtain ⟨bytes, hBytes, hDecoded⟩ := Option.bind_eq_some_iff.mp h
    rw [hBytes, toBytes_of_fromBytes hDecoded]
  · intro h
    rw [h, Option.bind_some, fromBytes_toBytes]

theorem percentDecodeBytes_plain {bytes : List UInt8} (h : ∀ b ∈ bytes, b ≠ 37) :
    percentDecodeBytes bytes = some bytes := by
  fun_induction percentDecodeBytes bytes with
  | case1 => rfl
  | case2 => exact absurd rfl (h 37 (by simp))
  | case3 b hb => rfl
  | case4 => exact absurd rfl (h 37 (by simp))
  | case5 b c hb ih => rw [ih fun x hx => h x (List.mem_cons_of_mem _ hx), Option.map_some]
  | case6 => exact absurd rfl (h 37 (by simp))
  | case7 b hi lo rest hb ih =>
    rw [ih fun x hx => h x (List.mem_cons_of_mem _ hx), Option.map_some]

/-- No byte of a string without `%` is that of `%`. -/
theorem ne_percent_of_mem_toBytes {s : Str} (h : '%' ∉ s) : ∀ b ∈ toBytes s, b ≠ 37 := by
  rintro b hb rfl
  obtain ⟨c, hc, hCode⟩ := toNat_of_mem_toBytes hb (by decide)
  have hPercent : c = '%' := Char.toNat_inj.mp hCode
  exact h (hPercent ▸ hc)

/-- A segment without escapes denotes itself. -/
theorem percentDecode_plain {segment : Str} (h : '%' ∉ segment) :
    percentDecode segment = some segment :=
  percentDecode_eq_some_iff.mpr (percentDecodeBytes_plain (ne_percent_of_mem_toBytes h))

theorem percentDecode_at (rest : Str) (h : '%' ∉ rest) :
    percentDecode ("%40".toList ++ rest) = some ('@' :: rest) := by
  rw [percentDecode_eq_some_iff]
  have hBytes : toBytes ("%40".toList ++ rest) = 37 :: 52 :: 48 :: toBytes rest := rfl
  have hByte : hexByte? 52 48 = some 64 := by decide
  rw [hBytes, percentDecodeBytes, if_pos rfl, hByte, Option.bind_some,
    percentDecodeBytes_plain (ne_percent_of_mem_toBytes h), Option.map_some]
  rfl

/-- A segment is judged by what it decodes to. -/
theorem isCanonicalSegment_of_decoded {segment decoded : Str}
    (hDecoded : percentDecode segment = some decoded)
    (hPlain : (decoded ≠ [] && decoded ≠ ['.'] && decoded ≠ ['.', '.'] &&
      !decoded.any fun c => c == '/' || c == '\\') = true) :
    isCanonicalSegment segment = true := by
  rw [isCanonicalSegment, hDecoded]
  exact hPlain

-- ---------------------------------------------------------------------------
-- The bytes that decoding returns
-- ---------------------------------------------------------------------------

/-- Decoding is reading every piece. -/
theorem percentDecodeBytes_eq_decode (bytes : List UInt8) :
    percentDecodeBytes bytes = decode hexByte? bytes := by
  fun_induction percentDecodeBytes bytes with
  | case1 => rfl
  | case2 => rfl
  | case3 b hb =>
    rw [decode, pieces_plain hb]
    rfl
  | case4 => rfl
  | case5 b c hb ih =>
    rw [ih, decode, decode, pieces_plain hb, List.mapM_cons]
    cases (pieces [c]).mapM (Piece.read hexByte?) <;> rfl
  | case6 hi lo rest ih =>
    have hPieces : pieces (37 :: hi :: lo :: rest) = .escape hi lo :: pieces rest :=
      pieces_escape hi lo rest
    rw [decode, hPieces, List.mapM_cons]
    show (hexByte? hi lo).bind _ = (hexByte? hi lo).bind _
    congr 1
    funext byte
    rw [ih, decode]
    cases (pieces rest).mapM (Piece.read hexByte?) <;> rfl
  | case7 b hi lo rest hb ih =>
    rw [ih, decode, decode, pieces_plain hb, List.mapM_cons]
    cases (pieces (hi :: lo :: rest)).mapM (Piece.read hexByte?) <;> rfl

theorem hexDigit?_eq (b : UInt8) :
    hexDigit? b = if isHexDigit b then some (hexValue b) else none := by
  unfold hexDigit? isHexDigit hexValue
  simp only [Bool.or_eq_true, Bool.and_eq_true, decide_eq_true_eq]
  split
  · rw [if_pos (by omega), if_pos (by omega)]
  · split
    · rw [if_pos (by omega), if_neg (by omega), if_pos (by omega)]
    · split
      · rw [if_pos (by omega), if_neg (by omega), if_neg (by omega)]
      · rw [if_neg (by omega)]

/-- An escape that is a plus sign and one digit. -/
def isPlusEscape : Piece → Bool
  | .escape hi lo => hi == 43 && isHexDigit lo
  | _ => false

/-- The byte that is found for a piece that is read. -/
def foundByte : Piece → UInt8
  | .escape hi lo => if hi = 43 then UInt8.ofNat (hexValue lo) else Piece.byte (.escape hi lo)
  | p => p.byte

theorem read_hexByte? (p : Piece) :
    p.read hexByte? = if p.isEncoded || isPlusEscape p then some (foundByte p) else none := by
  cases p with
  | plain b => rfl
  | cut => rfl
  | escape hi lo =>
    rw [Piece.read, hexByte?, hexDigit?_eq, hexDigit?_eq, isPlusEscape, foundByte, Piece.isEncoded,
      Piece.byte]
    by_cases hPlus : hi = 43
    · subst hPlus
      have hNot : isHexDigit 43 = false := by decide
      rw [if_pos rfl, if_pos rfl, hNot, Bool.false_and, Bool.false_or, beq_self_eq_true,
        Bool.true_and]
      cases isHexDigit lo <;> rfl
    · rw [if_neg hPlus, if_neg hPlus, beq_eq_false_iff_ne.mpr hPlus, Bool.false_and, Bool.or_false]
      cases isHexDigit hi <;> cases isHexDigit lo <;> rfl

/-- **The bytes that decoding returns.** -/
theorem percentDecodeBytes_eq (bytes : List UInt8) :
    percentDecodeBytes bytes =
      if (pieces bytes).all fun p => p.isEncoded || isPlusEscape p then
        some ((pieces bytes).map foundByte)
      else none :=
  (percentDecodeBytes_eq_decode bytes).trans (decode_eq read_hexByte? bytes)

-- ---------------------------------------------------------------------------
-- The loop
-- ---------------------------------------------------------------------------

/-- The loop of `percent_decode` from an index on, with the bytes pushed so far.
The result is none when the fuel runs out, and `some none` where the function
returns `None`. -/
def decodeLoop : Nat → List UInt8 → Nat → List UInt8 → Option (Option (List UInt8))
  | 0, _, _, _ => none
  | fuel + 1, bytes, index, decoded =>
    match bytes[index]? with
    | none => some (some decoded)
    | some b =>
      if b = 37 then
        match bytes[index + 1]?, bytes[index + 2]? with
        | some hi, some lo =>
          match hexByte? hi lo with
          | none => some none
          | some byte => decodeLoop fuel bytes (index + 3) (decoded ++ [byte])
        | _, _ => some none
      else decodeLoop fuel bytes (index + 1) (decoded ++ [b])

theorem percentDecodeBytes_cons {b : UInt8} (hb : b ≠ 37) (rest : List UInt8) :
    percentDecodeBytes (b :: rest) = (percentDecodeBytes rest).map (b :: ·) := by
  match rest with
  | [] => exact if_neg hb
  | [c] => exact if_neg hb
  | hi :: lo :: rest => exact if_neg hb

/-- **The loop ends, with the decoded bytes.** Every turn goes on by one byte or
by three, so that the length bounds the turns; the induction is on these. -/
theorem decodeLoop_eq {fuel : Nat} {bytes : List UInt8} {index : Nat} (decoded : List UInt8)
    (hIndex : index ≤ bytes.length) (hFuel : bytes.length < fuel + index) :
    decodeLoop fuel bytes index decoded =
      some ((percentDecodeBytes (bytes.drop index)).map (decoded ++ ·)) := by
  induction fuel generalizing index decoded with
  | zero => omega
  | succ fuel ih =>
    -- the bytes that the turn looks at are the first of the rest
    have hGet : ∀ k, bytes[index + k]? = (bytes.drop index)[k]? := by
      intro k
      rw [List.getElem?_drop]
    have hDrop : ∀ k, bytes.drop (index + k) = (bytes.drop index).drop k := by
      intro k
      rw [List.drop_drop]
    have hLength : (bytes.drop index).length = bytes.length - index := List.length_drop
    have h0 := hGet 0
    rw [Nat.add_zero] at h0
    rw [decodeLoop, h0, hGet 1, hGet 2]
    cases hRest : bytes.drop index with
    | nil =>
      show some (some decoded) = some (some (decoded ++ []))
      rw [List.append_nil]
    | cons b rest =>
      rw [hRest, List.length_cons] at hLength
      have hNext := hDrop 1
      rw [hRest, List.drop_one, List.tail_cons] at hNext
      dsimp only [List.getElem?_cons_zero, List.getElem?_cons_succ]
      by_cases hb : b = 37
      · subst hb
        rw [if_pos rfl]
        match rest, hRest, hLength with
        | [], _, _ => rfl
        | [_], _, _ => rfl
        | hi :: lo :: rest, hRest, hLength =>
          have hSkip := hDrop 3
          rw [hRest] at hSkip
          rw [List.length_cons, List.length_cons] at hLength
          dsimp only [List.getElem?_cons_zero, List.getElem?_cons_succ]
          rw [percentDecodeBytes, if_pos rfl]
          cases hexByte? hi lo with
          | none => rfl
          | some byte =>
            dsimp only
            rw [ih _ (by omega) (by omega), hSkip, Option.bind_some, Option.map_map]
            congr 2
            funext tail
            exact List.append_assoc ..
      · rw [if_neg hb, ih _ (by omega) (by omega), hNext, percentDecodeBytes_cons hb,
          Option.map_map]
        congr 2
        funext tail
        exact List.append_assoc ..

-- ---------------------------------------------------------------------------
-- Exactness
-- ---------------------------------------------------------------------------

/-- The segment is an encoding of the string: every percent sign that starts an
escape is followed by two digits, and the bytes are those of the string. -/
def EncodingOf (segment decoded : Str) : Prop :=
  (∀ p ∈ pieces (toBytes segment), p.isEncoded = true) ∧
    (pieces (toBytes segment)).map Piece.byte = toBytes decoded

/-- The segment is accepted with an escape that is no encoding: there is a plus
sign and a digit, no other escape is malformed, and the bytes with the digit in
place of the escape are those of a string. -/
def ReadsPlus (segment : Str) : Prop :=
  (∃ p ∈ pieces (toBytes segment), isPlusEscape p = true) ∧
    (∀ p ∈ pieces (toBytes segment), p.isEncoded = true ∨ isPlusEscape p = true) ∧
    (fromBytes ((pieces (toBytes segment)).map foundByte)).isSome

instance (segment : Str) : Decidable (ReadsPlus segment) := inferInstanceAs (Decidable (_ ∧ _))

theorem not_isEncoded_of_isPlusEscape {p : Piece} (h : isPlusEscape p = true) :
    p.isEncoded = false := by
  cases p with
  | plain b => cases h
  | cut => cases h
  | escape hi lo =>
    rw [isPlusEscape, Bool.and_eq_true, beq_iff_eq] at h
    obtain ⟨rfl, -⟩ := h
    rfl

theorem foundByte_of_isEncoded {p : Piece} (hEncoded : p.isEncoded = true) :
    foundByte p = p.byte := by
  cases p with
  | plain b => rfl
  | cut => rfl
  | escape hi lo =>
    rw [foundByte, if_neg]
    rintro rfl
    cases hEncoded

/-- What is accepted, and as what. -/
theorem percentDecode_eq_some {segment decoded : Str} :
    percentDecode segment = some decoded ↔
      (∀ p ∈ pieces (toBytes segment), p.isEncoded = true ∨ isPlusEscape p = true) ∧
        (pieces (toBytes segment)).map foundByte = toBytes decoded := by
  rw [percentDecode_eq_some_iff, percentDecodeBytes_eq]
  by_cases hAll : (pieces (toBytes segment)).all fun p => p.isEncoded || isPlusEscape p
  · have hPieces := List.all_eq_true.mp hAll
    simp only [Bool.or_eq_true] at hPieces
    rw [if_pos hAll, Option.some.injEq]
    exact ⟨fun h => ⟨hPieces, h⟩, fun h => h.2⟩
  · rw [if_neg hAll]
    constructor
    · intro h
      cases h
    · rintro ⟨hPieces, -⟩
      refine absurd (List.all_eq_true.mpr fun p hp => ?_) hAll
      rw [Bool.or_eq_true]
      exact hPieces p hp

/-- Without a plus sign in an escape, exactly the encodings are accepted. -/
theorem percentDecode_exact {segment : Str}
    (hPlus : ∀ p ∈ pieces (toBytes segment), isPlusEscape p = false) (decoded : Str) :
    percentDecode segment = some decoded ↔ EncodingOf segment decoded := by
  rw [percentDecode_eq_some, EncodingOf]
  have hSame : (∀ p ∈ pieces (toBytes segment), p.isEncoded = true) →
      (pieces (toBytes segment)).map foundByte = (pieces (toBytes segment)).map Piece.byte :=
    fun h => List.map_congr_left fun p hp => foundByte_of_isEncoded (h p hp)
  constructor
  · rintro ⟨hPieces, hBytes⟩
    have hEncoded : ∀ p ∈ pieces (toBytes segment), p.isEncoded = true := by
      intro p hp
      rcases hPieces p hp with hEncoded | hIsPlus
      · exact hEncoded
      · rw [hPlus p hp] at hIsPlus
        cases hIsPlus
    exact ⟨hEncoded, (hSame hEncoded).symm.trans hBytes⟩
  · rintro ⟨hEncoded, hBytes⟩
    exact ⟨fun p hp => .inl (hEncoded p hp), (hSame hEncoded).trans hBytes⟩

/-- **When decoding accepts exactly percent encoding.** For every segment:
decoding returns a string exactly when the segment is an encoding of it, if and
only if the segment is not one that is accepted with a plus sign in an escape.
For every string and every choice of which of its bytes to escape, in either
case, decoding the encoding gives the string back; and the loop ends for every
input. -/
theorem percent_decode_exact_iff (segment : Str) :
    ((∀ decoded, percentDecode segment = some decoded ↔ EncodingOf segment decoded) ↔
      ¬ ReadsPlus segment) ∧
    (∀ (decoded : Str) (choice : Nat → Spelling),
      toBytes segment = encode choice (toBytes decoded) → percentDecode segment = some decoded) ∧
    ∀ bytes, decodeLoop (bytes.length + 1) bytes 0 [] = some (percentDecodeBytes bytes) := by
  refine ⟨⟨?_, ?_⟩, ?_, ?_⟩
  · rintro hExact ⟨⟨p, hp, hPlus⟩, hPieces, hString⟩
    obtain ⟨decoded, hDecoded⟩ := Option.isSome_iff_exists.mp hString
    have hAccepted : percentDecode segment = some decoded :=
      percentDecode_eq_some.mpr ⟨hPieces, (toBytes_of_fromBytes hDecoded).symm⟩
    have hEncoded := ((hExact decoded).mp hAccepted).1 p hp
    rw [not_isEncoded_of_isPlusEscape hPlus] at hEncoded
    cases hEncoded
  · intro hReads decoded
    by_cases hPlus : ∃ p ∈ pieces (toBytes segment), isPlusEscape p = true
    · -- neither side holds: the segment is refused for another reason
      have hNot : ¬ EncodingOf segment decoded := by
        rintro ⟨hEncoded, -⟩
        obtain ⟨p, hp, hIsPlus⟩ := hPlus
        have hPiece := hEncoded p hp
        rw [not_isEncoded_of_isPlusEscape hIsPlus] at hPiece
        cases hPiece
      refine iff_of_false ?_ hNot
      intro hAccepted
      obtain ⟨hPieces, hBytes⟩ := percentDecode_eq_some.mp hAccepted
      refine hReads ⟨hPlus, hPieces, ?_⟩
      rw [hBytes, fromBytes_toBytes]
      rfl
    · apply percentDecode_exact
      intro p hp
      rw [← Bool.not_eq_true]
      exact fun hIsPlus => hPlus ⟨p, hp, hIsPlus⟩
  · intro decoded choice hSegment
    obtain ⟨hEncoded, hBytes⟩ := pieces_encode choice (toBytes decoded)
    have hPieces := List.all_eq_true.mp hEncoded
    rw [percentDecode_eq_some, hSegment]
    refine ⟨fun p hp => .inl (hPieces p hp), ?_⟩
    rw [List.map_congr_left fun p hp => foundByte_of_isEncoded (hPieces p hp), hBytes]
  · intro bytes
    rw [decodeLoop_eq [] (Nat.zero_le _) (by omega), List.drop_zero]
    cases percentDecodeBytes bytes <;> rfl

/-- A line feed written with a plus sign is accepted, though it is no
encoding. -/
theorem percent_decode_plus :
    percentDecode "%+a".toList = some ['\n'] ∧ ¬ EncodingOf "%+a".toList ['\n'] := by
  refine ⟨percentDecode_eq_some_iff.mpr (by decide +kernel), ?_⟩
  rintro ⟨hEncoded, -⟩
  have hPiece := hEncoded (.escape 43 97) (by decide +kernel)
  cases hPiece

/-- A slash can be spelled as an escape in either case. -/
theorem percent_decode_exact_slash :
    percentDecode "a%2Fb".toList = some "a/b".toList ∧ ¬ ReadsPlus "a%2Fb".toList := by
  obtain ⟨hExact, hEncoded, -⟩ := percent_decode_exact_iff "a%2Fb".toList
  refine ⟨hEncoded "a/b".toList (fun i => ⟨i == 1, true, true⟩) (by decide +kernel), ?_⟩
  exact hExact.mp (percentDecode_exact (by decide +kernel))

end GatewayProxy
