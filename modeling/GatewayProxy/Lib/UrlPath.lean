import GatewayProxy.Lib.Percent
import GatewayProxy.Lib.Utf8

/-!
# The path of a URL

How a URL parser reads the path of an `http` or `https` URL: it removes tabs and
line breaks, stops at a query or a fragment, splits at slashes and backslashes,
drops the segments that are one dot, takes back a segment at each that is two
dots, however these are spelled, and escapes the characters of a set.

Main results:

* `segments_eq`: a path without any of these is split at its slashes.
* `encodeSegment_cases`: escaping leaves a segment as it is, or a percent sign
  in it.
-/

namespace UrlPath

open Utf8

def isSeparator (c : Char) : Bool := c == '/' || c == '\\'

/-- Tabs and line breaks are removed, wherever they are. -/
def isRemoved (c : Char) : Bool := c == '\t' || c == '\n' || c == '\r'

/-- A query or a fragment starts. -/
def endsPath (c : Char) : Bool := c == '?' || c == '#'

/-- The spellings of a dot. -/
def dotSpellings : List Str := [".".toList, "%2e".toList, "%2E".toList]

def isSingleDot (segment : Str) : Bool := dotSpellings.any fun a => a == segment

def isDoubleDot (segment : Str) : Bool :=
  dotSpellings.any fun a => dotSpellings.any fun b => a ++ b == segment

/-- What is left of the segments. One dot is dropped and two dots take back the
segment before; the last leaves an empty segment in its place. -/
def resolveDots : List Str → List Str → List Str
  | done, [] => done
  | done, segment :: rest =>
    if isDoubleDot segment then
      resolveDots (done.dropLast ++ if rest = [] then [[]] else []) rest
    else if isSingleDot segment then resolveDots (done ++ if rest = [] then [[]] else []) rest
    else resolveDots (done ++ [segment]) rest

/-- The text of the path. -/
def pathText (text : Str) : Str := (text.filter (!isRemoved ·)).takeWhile (!endsPath ·)

/-- The path without the separator it starts with. -/
def dropSeparator : Str → Str
  | [] => []
  | c :: rest => if isSeparator c then rest else c :: rest

def segments (text : Str) : List Str :=
  resolveDots [] ((dropSeparator (pathText text)).splitOnP isSeparator)

/-- The characters that a parser escapes in a path. Dots and percent signs are
not among them, so that it does not matter which is done first. -/
structure EncodeSet where
  mem : Char → Bool
  kept : ∀ c, c.isAlphanum = true ∨ c ∈ ['@', '+', '.', '%'] → mem c = false

def hexChar (n : Nat) : Char := Char.ofNat (Percent.hexDigit true n).toNat

def encodeChar (set : EncodeSet) (c : Char) : Str :=
  if set.mem c then
    (toBytes [c]).flatMap fun b => ['%', hexChar (b.toNat / 16), hexChar (b.toNat % 16)]
  else [c]

def encodeSegment (set : EncodeSet) (segment : Str) : Str := segment.flatMap (encodeChar set)

/-- The path that is requested for a text. -/
def requestedPath (set : EncodeSet) (text : Str) : Str :=
  '/' :: List.intercalate ['/'] ((segments text).map (encodeSegment set))

-- ---------------------------------------------------------------------------
-- Splitting
-- ---------------------------------------------------------------------------

theorem splitOnP_congr {p q : Char → Bool} {s : Str} (h : ∀ c ∈ s, p c = q c) :
    s.splitOnP p = s.splitOnP q := by
  induction s with
  | nil => rfl
  | cons c s ih =>
    have hRest := ih fun x hx => h x (.tail _ hx)
    rw [List.splitOnP_cons_eq_if_modifyHead, List.splitOnP_cons_eq_if_modifyHead, h c (.head _),
      hRest]

/-- A character is a separator or belongs to a segment. -/
theorem mem_splitOnP {p : Char → Bool} {s : Str} {c : Char} (hc : c ∈ s) :
    p c = true ∨ ∃ segment ∈ s.splitOnP p, c ∈ segment := by
  induction s with
  | nil => cases hc
  | cons x s ih =>
    by_cases hx : p x = true
    · rw [List.splitOnP_cons_eq_if_modifyHead, if_pos hx]
      rcases List.mem_cons.mp hc with rfl | hTail
      · exact .inl hx
      · rcases ih hTail with hSep | ⟨segment, hMem, hIn⟩
        · exact .inl hSep
        · exact .inr ⟨segment, .tail _ hMem, hIn⟩
    · rw [List.splitOnP_cons_eq_if_modifyHead, if_neg hx]
      cases hSplit : s.splitOnP p with
      | nil => exact absurd hSplit (List.splitOnP_ne_nil _ _)
      | cons first others =>
        rw [List.modifyHead_cons]
        rcases List.mem_cons.mp hc with rfl | hTail
        · exact .inr ⟨_, .head _, .head _⟩
        · rw [hSplit] at ih
          rcases ih hTail with hSep | ⟨segment, hMem, hIn⟩
          · exact .inl hSep
          · rcases List.mem_cons.mp hMem with rfl | hOther
            · exact .inr ⟨_, .head _, .tail _ hIn⟩
            · exact .inr ⟨segment, .tail _ hOther, hIn⟩

theorem not_mem_of_mem_splitOnP {p : Char → Bool} {s segment : Str} (h : segment ∈ s.splitOnP p)
    {c : Char} (hc : c ∈ segment) : p c = false := by
  induction s generalizing segment with
  | nil =>
    rw [List.splitOnP_nil, List.mem_singleton] at h
    rw [h] at hc
    exact absurd hc List.not_mem_nil
  | cons x s ih =>
    rw [List.splitOnP_cons_eq_if_modifyHead] at h
    split at h
    · rcases List.mem_cons.mp h with rfl | hOther
      · exact absurd hc List.not_mem_nil
      · exact ih hOther hc
    · rename_i hx
      cases hSplit : s.splitOnP p with
      | nil => exact absurd hSplit (List.splitOnP_ne_nil _ _)
      | cons first others =>
        rw [hSplit, List.modifyHead_cons] at h
        rw [hSplit] at ih
        rcases List.mem_cons.mp h with rfl | hOther
        · rcases List.mem_cons.mp hc with rfl | hFirst
          · exact Bool.not_eq_true _ ▸ hx
          · exact ih (.head _) hFirst
        · exact ih (.tail _ hOther) hc

theorem resolveDots_of_plain {rest : List Str}
    (h : ∀ segment ∈ rest, isDoubleDot segment = false ∧ isSingleDot segment = false)
    (done : List Str) : resolveDots done rest = done ++ rest := by
  induction rest generalizing done with
  | nil => exact (List.append_nil done).symm
  | cons segment rest ih =>
    obtain ⟨hDouble, hSingle⟩ := h segment (.head _)
    rw [resolveDots, hDouble, hSingle, if_neg Bool.false_ne_true, if_neg Bool.false_ne_true,
      ih fun x hx => h x (.tail _ hx), List.append_assoc, List.singleton_append]

/-- **A path without dot segments and backslashes is split at its slashes.** -/
theorem segments_eq {rest : Str}
    (hText : ∀ c ∈ rest, isRemoved c = false ∧ endsPath c = false ∧ c ≠ '\\')
    (hDots : ∀ segment ∈ rest.splitOn '/',
      isDoubleDot segment = false ∧ isSingleDot segment = false) :
    segments ('/' :: rest) = rest.splitOn '/' := by
  have hAll : ∀ c ∈ '/' :: rest, isRemoved c = false ∧ endsPath c = false := by
    intro c hc
    rcases List.mem_cons.mp hc with rfl | hTail
    · exact ⟨rfl, rfl⟩
    · exact ⟨(hText c hTail).1, (hText c hTail).2.1⟩
  have hFilter : ('/' :: rest).filter (!isRemoved ·) = '/' :: rest :=
    List.filter_eq_self.mpr fun c hc => by rw [(hAll c hc).1]; rfl
  have hTake : ('/' :: rest).takeWhile (!endsPath ·) = '/' :: rest :=
    List.takeWhile_eq_self_iff.mpr fun c hc => by rw [(hAll c hc).2]; rfl
  have hSplit : rest.splitOnP isSeparator = rest.splitOn '/' := by
    rw [List.splitOn_eq_splitOnP]
    apply splitOnP_congr
    intro c hc
    rw [isSeparator, beq_eq_false_iff_ne.mpr (hText c hc).2.2, Bool.or_false]
  have hDrop : dropSeparator ('/' :: rest) = rest := rfl
  rw [segments, pathText, hFilter, hTake, hDrop, hSplit, resolveDots_of_plain hDots]
  rfl

-- ---------------------------------------------------------------------------
-- Escaping
-- ---------------------------------------------------------------------------

/-- An escaped character starts with a percent sign. -/
theorem encodeChar_of_mem (set : EncodeSet) {c : Char} (h : set.mem c = true) :
    ∃ rest, encodeChar set c = '%' :: rest := by
  rw [encodeChar, if_pos h]
  cases hBytes : toBytes [c] with
  | nil =>
    have hString := fromBytes_toBytes [c]
    have hEmpty : fromBytes [] = some [] := fromBytes_toBytes []
    rw [hBytes, hEmpty] at hString
    cases hString
  | cons b bytes => exact ⟨_, rfl⟩

theorem encodeSegment_cons (set : EncodeSet) (c : Char) (segment : Str) :
    encodeSegment set (c :: segment) = encodeChar set c ++ encodeSegment set segment :=
  List.flatMap_cons

/-- Escaping leaves a segment as it is, or there is a character of the set in it
and a percent sign in the result. -/
theorem encodeSegment_cases (set : EncodeSet) (segment : Str) :
    encodeSegment set segment = segment ∨
      (∃ c ∈ segment, set.mem c = true) ∧ '%' ∈ encodeSegment set segment := by
  induction segment with
  | nil => exact .inl rfl
  | cons c segment ih =>
    rw [encodeSegment_cons]
    by_cases hMem : set.mem c = true
    · obtain ⟨rest, hRest⟩ := encodeChar_of_mem set hMem
      rw [hRest]
      exact .inr ⟨⟨c, .head _, hMem⟩, .head _⟩
    · have hKept : encodeChar set c = [c] := if_neg hMem
      rw [hKept]
      rcases ih with hSame | ⟨⟨x, hx, hxMem⟩, hPercent⟩
      · rw [hSame]
        exact .inl rfl
      · exact .inr ⟨⟨x, .tail _ hx, hxMem⟩, .tail _ hPercent⟩

theorem encodeSegment_ne_nil (set : EncodeSet) {segment : Str} (h : segment ≠ []) :
    encodeSegment set segment ≠ [] := by
  rcases encodeSegment_cases set segment with hSame | ⟨-, hPercent⟩
  · rw [hSame]
    exact h
  · exact List.ne_nil_of_mem hPercent

theorem hexChar_ne_slash : ∀ n < 16, hexChar n ≠ '/' := by decide

/-- No slash comes from escaping. -/
theorem not_mem_encodeSegment (set : EncodeSet) {segment : Str} (h : '/' ∉ segment) :
    '/' ∉ encodeSegment set segment := by
  intro hMem
  obtain ⟨c, hc, hIn⟩ := List.mem_flatMap.mp hMem
  rw [encodeChar] at hIn
  split at hIn
  · obtain ⟨b, -, hByte⟩ := List.mem_flatMap.mp hIn
    have hLt : b.toNat < 256 := b.toNat_lt
    simp only [List.mem_cons, List.not_mem_nil, or_false] at hByte
    rcases hByte with hPercent | hHi | hLo
    · cases hPercent
    · exact hexChar_ne_slash _ (by omega) hHi.symm
    · exact hexChar_ne_slash _ (by omega) hLo.symm
  · rw [List.mem_singleton] at hIn
    exact h (hIn ▸ hc)

end UrlPath
