import GatewayProxy.Lib.UrlPath
import GatewayProxy.Rest.PercentDecode
import GatewayProxy.Rest.Scope

/-!
# A canonical path is the path that is requested

`is_canonical_path` decodes every segment and compares it, the URL parser of the
upstream client has a grammar of its own for dots and separators. What the first
accepts, the second leaves as it is.

Main results:

* `CanonicalSegment`: what an accepted segment decodes to, by anyone's decoder.
* `segments_of_isCanonicalPath`: the parser finds the segments of the check.
* `routeScope_map`: a route keeps its scope under what keeps its names and
  numbers.
* `canonical_path_is_requested`: both, and the scope of the requested path.
-/

namespace GatewayProxy

open Utf8 Percent

-- ---------------------------------------------------------------------------
-- Accepted segments
-- ---------------------------------------------------------------------------

/-- The bytes that a decoder leaves of a piece that is accepted. -/
def literalBytes : Piece → List UInt8
  | .escape hi lo => if hi = 43 then [percent, hi, lo] else [Piece.byte (.escape hi lo)]
  | p => [p.byte]

/-- Every decoder finds the accepted pieces, the ones with a plus sign as they
are spelled. The induction is on the pieces. -/
theorem decodeAll_eq {bytes : List UInt8}
    (h : ∀ p ∈ pieces bytes, p.isEncoded = true ∨ isPlusEscape p = true) :
    decodeAll bytes = (pieces bytes).flatMap literalBytes := by
  fun_induction pieces bytes with
  | case1 => rfl
  | case2 =>
    rcases h .cut (.head _) with hCut | hCut <;> cases hCut
  | case3 b hb => rfl
  | case4 c =>
    rcases h .cut (.head _) with hCut | hCut <;> cases hCut
  | case5 b c hb ih =>
    rw [decodeAll_plain hb, ih fun p hp => h p (.tail _ hp)]
    rfl
  | case6 hi lo rest ih =>
    have hRest := ih fun p hp => h p (.tail _ hp)
    rcases h _ (.head _) with hEncoded | hPlus
    · have hNot : hi ≠ 43 := by
        rintro rfl
        cases hEncoded
      rw [decodeAll_escape hEncoded, hRest, List.flatMap_cons, literalBytes, if_neg hNot]
      rfl
    · rw [isPlusEscape, Bool.and_eq_true, beq_iff_eq] at hPlus
      obtain ⟨rfl, hDigit⟩ := hPlus
      have hLo : lo ≠ percent := by
        rintro rfl
        cases hDigit
      rw [decodeAll_percent rfl, decodeAll_plain (by decide), decodeAll_plain hLo, hRest]
      rfl
  | case7 b hi lo rest hb ih =>
    rw [decodeAll_plain hb, ih fun p hp => h p (.tail _ hp)]
    rfl

/-- What an accepted segment decodes to: it is neither empty nor a dot segment,
and no separator is in it, spelled or decoded. -/
structure CanonicalSegment (segment : Str) : Prop where
  ne_nil : segment ≠ []
  spelled : UrlPath.isDoubleDot segment = false ∧ UrlPath.isSingleDot segment = false
  no_backslash : '\\' ∉ segment
  decoded_ne : decodeAll (toBytes segment) ≠ [] ∧ decodeAll (toBytes segment) ≠ toBytes ['.'] ∧
    decodeAll (toBytes segment) ≠ toBytes ['.', '.']
  no_separator : ∀ b ∈ decodeAll (toBytes segment), b ≠ 47 ∧ b ≠ 92

/-- What the check found out about a segment. -/
theorem decoded_of_isCanonicalSegment {segment : Str} (h : isCanonicalSegment segment = true) :
    ∃ decoded, percentDecode segment = some decoded ∧ decoded ≠ [] ∧ decoded ≠ ['.'] ∧
      decoded ≠ ['.', '.'] ∧ '/' ∉ decoded ∧ '\\' ∉ decoded := by
  rw [isCanonicalSegment] at h
  cases hDecoded : percentDecode segment with
  | none =>
    rw [hDecoded] at h
    cases h
  | some decoded =>
    rw [hDecoded] at h
    simp only [Bool.and_eq_true, decide_eq_true_eq, Bool.not_eq_true', List.any_eq_false,
      Bool.or_eq_true, beq_iff_eq, not_or] at h
    obtain ⟨⟨⟨hNil, hDot⟩, hDots⟩, hChars⟩ := h
    exact ⟨decoded, rfl, hNil, hDot, hDots, fun hMem => (hChars _ hMem).1 rfl,
      fun hMem => (hChars _ hMem).2 rfl⟩

/-- A byte of a character below 128 in a string is that character. -/
theorem mem_of_byte_mem {s : Str} {c : Char} {b : UInt8} (hb : b ∈ toBytes s)
    (hCode : b.toNat = c.toNat) (hSmall : b.toNat < 128) : c ∈ s := by
  obtain ⟨x, hx, hxCode⟩ := toNat_of_mem_toBytes hb hSmall
  have hSame : x = c := Char.toNat_inj.mp (hxCode.trans hCode)
  exact hSame ▸ hx

/-- The bytes of accepted pieces. -/
theorem mem_pieces {bytes : List UInt8}
    (h : ∀ p ∈ pieces bytes, p.isEncoded = true ∨ isPlusEscape p = true) {x : UInt8}
    (hx : x ∈ bytes) :
    .plain x ∈ pieces bytes ∨ x = percent ∨ x = 43 ∨ isHexDigit x = true := by
  fun_induction pieces bytes with
  | case1 => cases hx
  | case2 => exact .inr (.inl (List.mem_singleton.mp hx))
  | case3 b hb =>
    rw [List.mem_singleton.mp hx]
    exact .inl (.head _)
  | case4 c =>
    rcases h .cut (.head _) with hCut | hCut <;> cases hCut
  | case5 b c hb ih =>
    rcases List.mem_cons.mp hx with rfl | hTail
    · exact .inl (.head _)
    · exact (ih (fun p hp => h p (.tail _ hp)) hTail).imp_left (.tail _)
  | case6 hi lo rest ih =>
    rcases List.mem_cons.mp hx with rfl | hTail
    · exact .inr (.inl rfl)
    · have hDigits : (hi = 43 ∨ isHexDigit hi = true) ∧ isHexDigit lo = true := by
        rcases h _ (.head _) with hEncoded | hPlus
        · rw [Piece.isEncoded, Bool.and_eq_true] at hEncoded
          exact ⟨.inr hEncoded.1, hEncoded.2⟩
        · rw [isPlusEscape, Bool.and_eq_true, beq_iff_eq] at hPlus
          exact ⟨.inl hPlus.1, hPlus.2⟩
      rcases List.mem_cons.mp hTail with rfl | hTail
      · exact .inr (.inr hDigits.1)
      · rcases List.mem_cons.mp hTail with rfl | hTail
        · exact .inr (.inr (.inr hDigits.2))
        · exact (ih (fun p hp => h p (.tail _ hp)) hTail).imp_left (.tail _)
  | case7 b hi lo rest hb ih =>
    rcases List.mem_cons.mp hx with rfl | hTail
    · exact .inl (.head _)
    · exact (ih (fun p hp => h p (.tail _ hp)) hTail).imp_left (.tail _)

/-- Every spelling of dots is decoded as dots. -/
theorem percentDecode_dotSpellings :
    (∀ a ∈ UrlPath.dotSpellings, percentDecode a = some ['.']) ∧
      ∀ a ∈ UrlPath.dotSpellings, ∀ b ∈ UrlPath.dotSpellings,
        percentDecode (a ++ b) = some ['.', '.'] := by
  have hOne : ∀ a ∈ UrlPath.dotSpellings,
      percentDecodeBytes (toBytes a) = some (toBytes ['.']) := by decide +kernel
  have hTwo : ∀ a ∈ UrlPath.dotSpellings, ∀ b ∈ UrlPath.dotSpellings,
      percentDecodeBytes (toBytes (a ++ b)) = some (toBytes ['.', '.']) := by decide +kernel
  exact ⟨fun a ha => percentDecode_eq_some_iff.mpr (hOne a ha),
    fun a ha b hb => percentDecode_eq_some_iff.mpr (hTwo a ha b hb)⟩

theorem literalBytes_of_isPlusEscape {p : Piece} (h : isPlusEscape p = true) :
    ∃ lo, literalBytes p = [percent, 43, lo] ∧ isHexDigit lo = true := by
  cases p with
  | plain b => cases h
  | cut => cases h
  | escape hi lo =>
    rw [isPlusEscape, Bool.and_eq_true, beq_iff_eq] at h
    obtain ⟨rfl, hDigit⟩ := h
    exact ⟨lo, rfl, hDigit⟩

theorem literalBytes_of_isEncoded {p : Piece} (h : p.isEncoded = true) :
    literalBytes p = [foundByte p] := by
  cases p with
  | plain b => rfl
  | cut => rfl
  | escape hi lo =>
    have hNot : hi ≠ 43 := by
      rintro rfl
      cases h
    rw [literalBytes, foundByte, if_neg hNot, if_neg hNot]

/-- A decoded byte is one that the check saw, or one of a plus sign's escape. -/
theorem mem_decodeAll {bytes : List UInt8}
    (h : ∀ p ∈ pieces bytes, p.isEncoded = true ∨ isPlusEscape p = true) {x : UInt8}
    (hx : x ∈ decodeAll bytes) :
    x ∈ (pieces bytes).map foundByte ∨ x = percent ∨ x = 43 ∨ isHexDigit x = true := by
  rw [decodeAll_eq h] at hx
  obtain ⟨p, hp, hIn⟩ := List.mem_flatMap.mp hx
  rcases h p hp with hEncoded | hPlus
  · rw [literalBytes_of_isEncoded hEncoded, List.mem_singleton] at hIn
    exact .inl (List.mem_map.mpr ⟨p, hp, hIn.symm⟩)
  · obtain ⟨lo, hLiteral, hDigit⟩ := literalBytes_of_isPlusEscape hPlus
    rw [hLiteral, List.mem_cons, List.mem_cons, List.mem_singleton] at hIn
    rcases hIn with rfl | rfl | rfl
    · exact .inr (.inl rfl)
    · exact .inr (.inr (.inl rfl))
    · exact .inr (.inr (.inr hDigit))

/-- Without a percent sign in the result, a decoder finds what the check saw. -/
theorem decodeAll_eq_found {bytes : List UInt8}
    (h : ∀ p ∈ pieces bytes, p.isEncoded = true ∨ isPlusEscape p = true)
    (hNone : percent ∉ decodeAll bytes) : decodeAll bytes = (pieces bytes).map foundByte := by
  rw [decodeAll_eq h] at hNone ⊢
  rw [List.map_eq_flatMap]
  apply List.flatMap_congr
  intro p hp
  rcases h p hp with hEncoded | hPlus
  · exact literalBytes_of_isEncoded hEncoded
  · obtain ⟨lo, hLiteral, -⟩ := literalBytes_of_isPlusEscape hPlus
    refine absurd (List.mem_flatMap.mpr ⟨p, hp, ?_⟩) hNone
    rw [hLiteral]
    exact .head _

/-- **What the check accepts is canonical for every decoder.** -/
theorem canonicalSegment_of_isCanonicalSegment {segment : Str}
    (h : isCanonicalSegment segment = true) : CanonicalSegment segment := by
  obtain ⟨decoded, hDecoded, hNil, hDot, hDots, hSlash, hBackslash⟩ :=
    decoded_of_isCanonicalSegment h
  obtain ⟨hPieces, hBytes⟩ := percentDecode_eq_some.mp hDecoded
  have hFound : ∀ text : Str, percent ∉ toBytes text →
      decodeAll (toBytes segment) = toBytes text → decoded = text := by
    intro text hNone hEq
    have hSame := decodeAll_eq_found hPieces (hEq ▸ hNone)
    have hString : fromBytes (toBytes decoded) = fromBytes (toBytes text) := by
      rw [← hBytes, ← hSame, hEq]
    rw [fromBytes_toBytes, fromBytes_toBytes] at hString
    exact Option.some.inj hString
  constructor
  · rintro rfl
    exact hNil (Option.some.inj (hDecoded.symm.trans (percentDecode_plain List.not_mem_nil)))
  · constructor
    · rw [← Bool.not_eq_true]
      intro hDouble
      obtain ⟨a, ha, hRest⟩ := List.any_eq_true.mp hDouble
      obtain ⟨b, hb, hEq⟩ := List.any_eq_true.mp hRest
      rw [← beq_iff_eq.mp hEq, percentDecode_dotSpellings.2 a ha b hb] at hDecoded
      exact hDots (Option.some.inj hDecoded).symm
    · rw [← Bool.not_eq_true]
      intro hSingle
      obtain ⟨a, ha, hEq⟩ := List.any_eq_true.mp hSingle
      rw [← beq_iff_eq.mp hEq, percentDecode_dotSpellings.1 a ha] at hDecoded
      exact hDot (Option.some.inj hDecoded).symm
  · intro hMem
    have hByte : (92 : UInt8) ∈ toBytes segment :=
      List.mem_flatMap.mpr ⟨'\\', hMem, by decide⟩
    rcases mem_pieces hPieces hByte with hPlain | hOther
    · have hIn : (92 : UInt8) ∈ toBytes decoded := by
        rw [← hBytes]
        exact List.mem_map.mpr ⟨_, hPlain, rfl⟩
      exact hBackslash (mem_of_byte_mem hIn (by decide) (by decide))
    · exact absurd hOther (by decide)
  · exact ⟨fun hEq => hNil (hFound [] (by decide) hEq),
      fun hEq => hDot (hFound ['.'] (by decide) hEq),
      fun hEq => hDots (hFound ['.', '.'] (by decide) hEq)⟩
  · intro x hx
    rcases mem_decodeAll hPieces hx with hIn | hOther
    · rw [hBytes] at hIn
      constructor
      · rintro rfl
        exact hSlash (mem_of_byte_mem hIn (by decide) (by decide))
      · rintro rfl
        exact hBackslash (mem_of_byte_mem hIn (by decide) (by decide))
    · constructor
      · rintro rfl
        exact absurd hOther (by decide)
      · rintro rfl
        exact absurd hOther (by decide)

-- ---------------------------------------------------------------------------
-- Accepted paths
-- ---------------------------------------------------------------------------

/-- The characters of a request path: visible, and neither a query nor a fragment
starts. -/
def IsPathChar (c : Char) : Prop := 0x21 ≤ c.toNat ∧ c.toNat ≤ 0x7E ∧ c ≠ '?' ∧ c ≠ '#'

instance (c : Char) : Decidable (IsPathChar c) := inferInstanceAs (Decidable (_ ∧ _))

theorem isRemoved_of_isPathChar {c : Char} (h : IsPathChar c) :
    UrlPath.isRemoved c = false ∧ UrlPath.endsPath c = false := by
  obtain ⟨hVisible, -, hQuery, hFragment⟩ := h
  have hBlank : ∀ x : Char, x.toNat < 0x21 → c ≠ x := by
    rintro x hx rfl
    omega
  constructor
  · rw [UrlPath.isRemoved, beq_eq_false_iff_ne.mpr (hBlank '\t' (by decide)),
      beq_eq_false_iff_ne.mpr (hBlank '\n' (by decide)),
      beq_eq_false_iff_ne.mpr (hBlank '\r' (by decide))]
    rfl
  · rw [UrlPath.endsPath, beq_eq_false_iff_ne.mpr hQuery, beq_eq_false_iff_ne.mpr hFragment]
    rfl

/-- An accepted path is a slash and segments that are accepted. -/
theorem isCanonicalPath_eq {path : Str} (h : isCanonicalPath path = true) :
    ∃ rest, path = '/' :: rest ∧
      ∀ segment ∈ rest.splitOn '/', isCanonicalSegment segment = true := by
  rw [isCanonicalPath] at h
  cases hPrefix : stripPrefix ['/'] path with
  | none =>
    rw [hPrefix] at h
    cases h
  | some rest =>
    rw [hPrefix] at h
    rw [stripPrefix] at hPrefix
    split at hPrefix
    · rename_i hStart
      obtain ⟨tail, rfl⟩ := List.isPrefixOf_iff_prefix.mp hStart
      obtain rfl : tail = rest := Option.some.inj hPrefix
      exact ⟨tail, rfl, List.all_eq_true.mp h⟩
    · cases hPrefix

/-- The segments that the scope is resolved from. -/
theorem pathSegments_of_ne_nil {rest : Str} (h : ∀ segment ∈ rest.splitOn '/', segment ≠ []) :
    pathSegments ('/' :: rest) = rest.splitOn '/' := by
  have hHead : rest.dropWhile (· == '/') = rest := by
    cases rest with
    | nil => rfl
    | cons c rest =>
      have hc : (c == '/') = false := by
        rw [beq_eq_false_iff_ne]
        rintro rfl
        refine h [] ?_ rfl
        rw [List.splitOn_cons_eq_if_modifyHead, beq_self_eq_true, if_pos rfl]
        exact .head _
      rw [List.dropWhile_cons, hc, if_neg Bool.false_ne_true]
  have hDrop : ('/' :: rest).dropWhile (· == '/') = rest := by
    rw [List.dropWhile_cons, beq_self_eq_true, if_pos rfl, hHead]
  rw [pathSegments, hDrop, split]
  exact List.filter_eq_self.mpr fun segment hMem => decide_eq_true (h segment hMem)

/-- **The parser finds the segments of the check.** -/
theorem segments_of_isCanonicalPath {path : Str} (hChars : ∀ c ∈ path, IsPathChar c)
    (h : isCanonicalPath path = true) :
    UrlPath.segments path = pathSegments path ∧
      ∀ segment ∈ pathSegments path, CanonicalSegment segment ∧ '/' ∉ segment := by
  obtain ⟨rest, rfl, hSegments⟩ := isCanonicalPath_eq h
  have hCanonical : ∀ segment ∈ rest.splitOn '/', CanonicalSegment segment :=
    fun segment hMem => canonicalSegment_of_isCanonicalSegment (hSegments segment hMem)
  have hPath := pathSegments_of_ne_nil fun segment hMem => (hCanonical segment hMem).ne_nil
  have hText : ∀ c ∈ rest,
      UrlPath.isRemoved c = false ∧ UrlPath.endsPath c = false ∧ c ≠ '\\' := by
    intro c hc
    obtain ⟨hRemoved, hEnds⟩ := isRemoved_of_isPathChar (hChars c (.tail _ hc))
    refine ⟨hRemoved, hEnds, ?_⟩
    rintro rfl
    rcases UrlPath.mem_splitOnP (p := (· == '/')) hc with hSlash | ⟨segment, hMem, hIn⟩
    · exact absurd hSlash (by decide)
    · exact (hCanonical segment hMem).no_backslash hIn
  have hParsed := UrlPath.segments_eq hText fun segment hMem => (hCanonical segment hMem).spelled
  rw [hPath]
  refine ⟨hParsed, fun segment hMem => ⟨hCanonical segment hMem, fun hIn => ?_⟩⟩
  have hNot := UrlPath.not_mem_of_mem_splitOnP hMem hIn
  cases hNot

-- ---------------------------------------------------------------------------
-- The scope of the requested path
-- ---------------------------------------------------------------------------

/-- The names in routes. -/
def routeNames : List Str :=
  ["api".toList, "v10".toList, "gateway".toList, "bot".toList, "users".toList, "@me".toList,
    "interactions".toList, "webhooks".toList, "guilds".toList, "channels".toList,
    "applications".toList]

/-- What changes no name, number or empty segment, and makes none. -/
structure KeepsRoutes (f : Str → Str) : Prop where
  name : ∀ segment, ∀ name ∈ routeNames, f segment = name ↔ segment = name
  number : ∀ segment, parseSnowflake (f segment) = parseSnowflake segment
  empty : ∀ segment, f segment = [] ↔ segment = []

section Routes

variable {f : Str → Str}

theorem KeepsRoutes.pair (h : KeepsRoutes f) {a b : Str} (ha : a ∈ routeNames)
    (hb : b ∈ routeNames) (route : List Str) : route.map f = [a, b] ↔ route = [a, b] := by
  rcases route with - | ⟨x, - | ⟨y, - | ⟨z, rest⟩⟩⟩
  · simp
  · simp
  · simp [h.name x a ha, h.name y b hb]
  · simp

theorem KeepsRoutes.at (h : KeepsRoutes f) {a : Str} (ha : a ∈ routeNames) (route : List Str)
    (i : Nat) : (route.map f)[i]? = some a ↔ route[i]? = some a := by
  rw [List.getElem?_map]
  cases route[i]? with
  | none => simp
  | some x => simp [h.name x a ha]

theorem KeepsRoutes.empty_at (h : KeepsRoutes f) (route : List Str) (i : Nat) :
    (route.map f)[i]? = some [] ↔ route[i]? = some [] := by
  rw [List.getElem?_map]
  cases route[i]? with
  | none => simp
  | some x => simp [h.empty x]

theorem KeepsRoutes.number_at (h : KeepsRoutes f) (route : List Str) (i : Nat) :
    (route.map f)[i]?.bind parseSnowflake = route[i]?.bind parseSnowflake := by
  rw [List.getElem?_map]
  cases route[i]? with
  | none => rfl
  | some x => exact h.number x

/-- **A route keeps its scope.** -/
theorem routeScope_map (h : KeepsRoutes f) (route : List Str) :
    routeScope (route.map f) = routeScope route := by
  unfold routeScope
  simp only [List.length_map, h.pair (by decide : "gateway".toList ∈ routeNames)
    (by decide : "bot".toList ∈ routeNames), h.pair (by decide : "users".toList ∈ routeNames)
    (by decide : "@me".toList ∈ routeNames), h.at (by decide : "interactions".toList ∈ routeNames),
    h.at (by decide : "webhooks".toList ∈ routeNames),
    h.at (by decide : "guilds".toList ∈ routeNames),
    h.at (by decide : "channels".toList ∈ routeNames),
    h.at (by decide : "applications".toList ∈ routeNames), h.empty_at, h.number_at]

/-- A path with these segments has the scope of the path before. -/
theorem resolveRouteScope_map (h : KeepsRoutes f) {path path' : Str}
    (hSegments : pathSegments path' = (pathSegments path).map f) :
    resolveRouteScope path' = resolveRouteScope path := by
  unfold resolveRouteScope
  rw [hSegments]
  rcases pathSegments path with - | ⟨first, - | ⟨second, rest⟩⟩
  · rfl
  · rfl
  · have hRoute := routeScope_map h (second :: rest)
    rw [List.map_cons] at hRoute
    simp only [List.map_cons, List.map_eq_nil_iff, routeScope_map h, hRoute,
      h.name first _ (by decide : "api".toList ∈ routeNames),
      h.name first _ (by decide : "v10".toList ∈ routeNames),
      h.name second _ (by decide : "v10".toList ∈ routeNames)]

end Routes

/-- Escaping keeps names and numbers: none has a character that is escaped, and
none has a percent sign. -/
theorem keepsRoutes_encodeSegment (set : UrlPath.EncodeSet) :
    KeepsRoutes (UrlPath.encodeSegment set) := by
  have hKept : ∀ {c : Char}, set.mem c = true →
      ¬ (c.isAlphanum = true ∨ c ∈ ['@', '+', '.', '%']) := by
    intro c hMem hKept
    rw [set.kept c hKept] at hMem
    cases hMem
  have hNames : ∀ name ∈ routeNames, '%' ∉ name ∧
      ∀ c ∈ name, c.isAlphanum = true ∨ c ∈ ['@', '+', '.', '%'] := by
    -- by `all`: every character would be tried for a quantifier
    have hAll : (routeNames.all fun name => name.all fun c =>
        c != '%' && (c.isAlphanum || ['@', '+', '.', '%'].contains c)) = true := by decide +kernel
    intro name hName
    have hChars := List.all_eq_true.mp (List.all_eq_true.mp hAll name hName)
    refine ⟨fun hPercent => ?_, fun c hMem => ?_⟩
    · have hFalse := hChars '%' hPercent
      simp at hFalse
    · have hChar := hChars c hMem
      rw [Bool.and_eq_true, Bool.or_eq_true, List.contains_iff_mem] at hChar
      exact hChar.2
  refine ⟨fun segment name hName => ?_, fun segment => ?_, fun segment => ?_⟩
  · rcases UrlPath.encodeSegment_cases set segment with hSame | ⟨⟨c, hc, hMem⟩, hPercent⟩
    · rw [hSame]
    · obtain ⟨hNoPercent, hChars⟩ := hNames name hName
      refine iff_of_false ?_ ?_
      · intro hEq
        exact hNoPercent (hEq ▸ hPercent)
      · rintro rfl
        exact hKept hMem (hChars c hc)
  · rcases UrlPath.encodeSegment_cases set segment with hSame | ⟨⟨c, hc, hMem⟩, hPercent⟩
    · rw [hSame]
    · have hNotDigit : c.isDigit = false := by
        rw [← Bool.not_eq_true]
        intro hDigit
        refine hKept hMem (.inl ?_)
        rw [Char.isAlphanum, hDigit, Bool.or_true]
      have hPlus : c ≠ '+' := by
        rintro rfl
        exact hKept hMem (.inr (by decide))
      have hEncoded := parseU64_of_not_digit hPercent (by decide) (by decide)
      have hSegment := parseU64_of_not_digit hc hPlus hNotDigit
      exact hEncoded.trans hSegment.symm
  · constructor
    · intro hEmpty
      by_contra hNe
      exact UrlPath.encodeSegment_ne_nil set hNe hEmpty
    · rintro rfl
      rfl

/-- **A canonical path is the path upstream sees.** For every path of visible
characters without a query or a fragment that is accepted: the URL parser finds
in it the segments that the scope is resolved from, none dropped, taken back or
split further; nor would be any after decoding; and whatever the parser escapes
in them, the scope of the path it requests is the scope that was checked. -/
theorem canonical_path_is_requested {path : Str} (hChars : ∀ c ∈ path, IsPathChar c)
    (hCanonical : isCanonicalPath path = true) :
    UrlPath.segments path = pathSegments path ∧
      (∀ segment ∈ pathSegments path, decodeAll (toBytes segment) ≠ [] ∧
        decodeAll (toBytes segment) ≠ toBytes ['.'] ∧
        decodeAll (toBytes segment) ≠ toBytes ['.', '.'] ∧
        ∀ b ∈ decodeAll (toBytes segment), b ≠ '/'.toUInt8 ∧ b ≠ '\\'.toUInt8) ∧
      ∀ set : UrlPath.EncodeSet,
        resolveRouteScope (UrlPath.requestedPath set path) = resolveRouteScope path := by
  obtain ⟨hParsed, hSegments⟩ := segments_of_isCanonicalPath hChars hCanonical
  refine ⟨hParsed, ?_, fun set => ?_⟩
  · intro segment hMem
    obtain ⟨hCanonicalSegment, -⟩ := hSegments segment hMem
    obtain ⟨hNil, hDot, hDots⟩ := hCanonicalSegment.decoded_ne
    exact ⟨hNil, hDot, hDots, hCanonicalSegment.no_separator⟩
  · apply resolveRouteScope_map (keepsRoutes_encodeSegment set)
    have hNoSlash : ∀ segment ∈ (pathSegments path).map (UrlPath.encodeSegment set),
        '/' ∉ segment := by
      intro segment hMem
      obtain ⟨raw, hRaw, rfl⟩ := List.mem_map.mp hMem
      exact UrlPath.not_mem_encodeSegment set (hSegments raw hRaw).2
    have hNe : (pathSegments path).map (UrlPath.encodeSegment set) ≠ [] := by
      obtain ⟨rest, rfl, hAll⟩ := isCanonicalPath_eq hCanonical
      rw [pathSegments_of_ne_nil fun segment hMem =>
        (canonicalSegment_of_isCanonicalSegment (hAll segment hMem)).ne_nil, Ne,
        List.map_eq_nil_iff]
      exact List.splitOn_ne_nil _ _
    have hSplit := List.splitOn_intercalate '/' hNoSlash hNe
    rw [UrlPath.requestedPath, hParsed, pathSegments_of_ne_nil]
    · exact hSplit
    · rw [hSplit]
      intro segment hMem
      obtain ⟨raw, hRaw, rfl⟩ := List.mem_map.mp hMem
      exact UrlPath.encodeSegment_ne_nil set (hSegments raw hRaw).1.ne_nil

namespace SamplePath

/-- Angle brackets are escaped by the parser. -/
def brackets : UrlPath.EncodeSet where
  mem c := c == '<' || c == '>'
  kept := by
    intro c hKept
    rw [Bool.or_eq_false_iff, beq_eq_false_iff_ne, beq_eq_false_iff_ne]
    constructor <;> rintro rfl <;> exact absurd hKept (by decide)

def path : Str := "/api/v10/guilds/7/<a>".toList

theorem canonical : isCanonicalPath path = true := by
  have hStrip : stripPrefix ['/'] path = some "api/v10/guilds/7/<a>".toList := by decide +kernel
  have hSplit : split '/' "api/v10/guilds/7/<a>".toList =
      ["api".toList, "v10".toList, "guilds".toList, "7".toList, "<a>".toList] := by decide +kernel
  rw [isCanonicalPath, hStrip]
  dsimp only
  rw [hSplit, List.all_eq_true]
  intro segment hMem
  have hPlain : '%' ∉ segment ∧ (segment ≠ [] && segment ≠ ['.'] && segment ≠ ['.', '.'] &&
      !segment.any fun c => c == '/' || c == '\\') = true := by
    revert segment
    decide +kernel
  exact isCanonicalSegment_of_decoded (percentDecode_plain hPlain.1) hPlain.2

theorem pathChars : ∀ c ∈ path, IsPathChar c := by
  have hAll : (path.all fun c => decide (IsPathChar c)) = true := by decide +kernel
  exact fun c hMem => of_decide_eq_true (List.all_eq_true.mp hAll c hMem)

end SamplePath

theorem canonical_path_is_requested_guild :
    UrlPath.requestedPath SamplePath.brackets SamplePath.path =
        "/api/v10/guilds/7/%3Ca%3E".toList ∧
      resolveRouteScope (UrlPath.requestedPath SamplePath.brackets SamplePath.path) =
        .guild 7 := by
  refine ⟨by decide +kernel, ?_⟩
  rw [(canonical_path_is_requested SamplePath.pathChars SamplePath.canonical).2.2
    SamplePath.brackets]
  decide +kernel

end GatewayProxy
