import Mathlib.Algebra.Ring.Nat
import Mathlib.Data.List.DropRight
import Mathlib.Data.List.Infix

/-!
# Strings with byte offsets

Rust's `str` operations over lists of characters. Offsets count UTF-8 bytes,
so an offset inside a character is not a boundary and `get` fails there. The
searches return the offset of the first match; `FirstSplit` says the same
without offsets, as a split of the string around the match, and
`find_eq_some_iff`, `getFrom_byteLen` turn a search followed by a slice into
that split. Number parsing follows `FromStr` for the unsigned types: an
optional `+`, at least one decimal digit, no overflow.
-/

namespace Utf8

abbrev Str := List Char

/-- The length in bytes. -/
def byteLen (s : Str) : Nat := (s.map Char.utf8Size).sum

/-- A range of byte offsets, `start..stop`. -/
structure Range where
  start : Nat
  stop : Nat
  deriving DecidableEq, Repr

/-- `s.get(n..)`: none when `n` is past the end or inside a character. -/
def getFrom : Str → Nat → Option Str
  | s, 0 => some s
  | [], _ + 1 => none
  | c :: cs, n + 1 => if c.utf8Size ≤ n + 1 then getFrom cs (n + 1 - c.utf8Size) else none

/-- `s.get(..n)`. -/
def getTo : Str → Nat → Option Str
  | _, 0 => some []
  | [], _ + 1 => none
  | c :: cs, n + 1 =>
    if c.utf8Size ≤ n + 1 then (getTo cs (n + 1 - c.utf8Size)).map (c :: ·) else none

/-- `s.get(start..stop)`. -/
def getRange (s : Str) (r : Range) : Option Str :=
  if r.start ≤ r.stop then (getFrom s r.start).bind fun t => getTo t (r.stop - r.start) else none

/-- `s.replace_range(start..stop, new)`; none where Rust panics. -/
def replaceRange (s : Str) (r : Range) (new : Str) : Option Str :=
  if r.start ≤ r.stop then
    (getTo s r.start).bind fun a => (getFrom s r.stop).map fun b => a ++ new ++ b
  else none

/-- `s.find(pat)` for a string pattern. -/
def find (pat : Str) : Str → Option Nat
  | [] => if pat = [] then some 0 else none
  | c :: cs =>
    if pat.isPrefixOf (c :: cs) then some 0 else (find pat cs).map (c.utf8Size + ·)

/-- `s.find(p)` for a character test. -/
def findChar (p : Char → Bool) : Str → Option Nat
  | [] => none
  | c :: cs => if p c then some 0 else (findChar p cs).map (c.utf8Size + ·)

/-- `char::is_whitespace`, the Unicode property `White_Space`. -/
def isWhitespace (c : Char) : Bool :=
  (0x09 ≤ c.toNat && c.toNat ≤ 0x0D) || c.toNat == 0x20 || c.toNat == 0x85 ||
    c.toNat == 0xA0 || c.toNat == 0x1680 || (0x2000 ≤ c.toNat && c.toNat ≤ 0x200A) ||
    c.toNat == 0x2028 || c.toNat == 0x2029 || c.toNat == 0x202F || c.toNat == 0x205F ||
    c.toNat == 0x3000

/-- The value of a decimal digit. -/
def digit? (c : Char) : Option Nat :=
  if c.isDigit then some (c.toNat - '0'.toNat) else none

/-- A nonempty run of decimal digits. -/
def decimal? (s : Str) : Option Nat :=
  if s = [] then none else s.foldlM (fun acc c => (digit? c).map (10 * acc + ·)) 0

/-- `FromStr` for an unsigned integer type with values below `bound`. -/
def parseUnsigned (bound : Nat) (s : Str) : Option Nat :=
  (decimal? (match s with | '+' :: rest => rest | s => s)).filter (· < bound)

def u8Bound : Nat := 2 ^ 8

def u64Bound : Nat := 2 ^ 64

/-- `s.parse::<u64>().ok()`. -/
def parseU64 (s : Str) : Option Nat := parseUnsigned u64Bound s

/-- The decimal text of a number, as `itoa` writes it. -/
def formatNat (n : Nat) : Str := Nat.toDigits 10 n

/-- `s.split_once(c)`. -/
def splitOnce (c : Char) (s : Str) : Option (Str × Str) :=
  match s with
  | [] => none
  | x :: xs => if x = c then some ([], xs) else (splitOnce c xs).map fun p => (x :: p.1, p.2)

/-- `s.splitn(n, c)`: at most `n` parts, the last with the rest of the text. -/
def splitN (c : Char) : Nat → Str → List Str
  | 0, _ => []
  | 1, s => [s]
  | n + 2, s =>
    match splitOnce c s with
    | none => [s]
    | some (part, rest) => part :: splitN c (n + 1) rest

/-- `s.trim()`. -/
def trim (s : Str) : Str := (s.dropWhile isWhitespace).rdropWhile isWhitespace

/-- `s.split_whitespace()`. -/
def splitWhitespace (s : Str) : List Str :=
  (s.splitOnP isWhitespace).filter (· ≠ [])

/-- `s.strip_prefix(pre)`. -/
def stripPrefix (pre s : Str) : Option Str :=
  if pre.isPrefixOf s then some (s.drop pre.length) else none

/-- `s.replace(pat, new)` for a nonempty pattern: the matches are taken from
left to right and do not overlap; `skip` counts the rest of a match. -/
def replaceFrom (pat new : Str) : Nat → Str → Str
  | _, [] => []
  | skip + 1, _ :: cs => replaceFrom pat new skip cs
  | 0, c :: cs =>
    if pat.isPrefixOf (c :: cs) then new ++ replaceFrom pat new (pat.length - 1) cs
    else c :: replaceFrom pat new 0 cs

def replace (pat new s : Str) : Str := replaceFrom pat new 0 s

/-- `s.as_bytes()`. -/
def toBytes (s : Str) : List UInt8 := s.flatMap String.utf8EncodeChar

/-- `String::from_utf8`. -/
def fromBytes (bytes : List UInt8) : Option Str :=
  bytes.toByteArray.utf8Decode?.map Array.toList

/-- `a.eq_ignore_ascii_case(b)`. -/
def eqIgnoreAsciiCase (a b : Str) : Bool := a.map Char.toLower == b.map Char.toLower

/-- `s.split(c)`. -/
def split (c : Char) (s : Str) : List Str := s.splitOn c

-- ---------------------------------------------------------------------------
-- Lengths and slices
-- ---------------------------------------------------------------------------

@[simp] theorem byteLen_nil : byteLen [] = 0 := rfl

@[simp] theorem byteLen_cons (c : Char) (s : Str) :
    byteLen (c :: s) = c.utf8Size + byteLen s := by
  simp [byteLen]

@[simp] theorem byteLen_append (a b : Str) : byteLen (a ++ b) = byteLen a + byteLen b := by
  simp [byteLen]

/-- Slicing from the end of a prefix. -/
theorem getFrom_byteLen (a b : Str) : getFrom (a ++ b) (byteLen a) = some b := by
  induction a with
  | nil => cases b <;> rfl
  | cons c cs ih =>
    have hPos := c.utf8Size_pos
    obtain ⟨m, hm⟩ : ∃ m, byteLen (c :: cs) = m + 1 := ⟨byteLen (c :: cs) - 1, by
      rw [byteLen_cons]; omega⟩
    rw [List.cons_append, hm, getFrom, if_pos (by rw [byteLen_cons] at hm; omega),
      show m + 1 - c.utf8Size = byteLen cs by rw [byteLen_cons] at hm; omega]
    exact ih

/-- Slicing up to the end of a prefix. -/
theorem getTo_byteLen (a b : Str) : getTo (a ++ b) (byteLen a) = some a := by
  induction a with
  | nil => cases b <;> rfl
  | cons c cs ih =>
    have hPos := c.utf8Size_pos
    obtain ⟨m, hm⟩ : ∃ m, byteLen (c :: cs) = m + 1 := ⟨byteLen (c :: cs) - 1, by
      rw [byteLen_cons]; omega⟩
    rw [List.cons_append, hm, getTo, if_pos (by rw [byteLen_cons] at hm; omega),
      show m + 1 - c.utf8Size = byteLen cs by rw [byteLen_cons] at hm; omega, ih,
      Option.map_some]

/-- A slice from an offset starts at a character boundary. -/
theorem getFrom_eq_some {s b : Str} {n : Nat} (h : getFrom s n = some b) :
    ∃ a, s = a ++ b ∧ byteLen a = n := by
  induction s generalizing n with
  | nil =>
    cases n with
    | zero =>
      rw [getFrom, Option.some.injEq] at h
      exact ⟨[], h, rfl⟩
    | succ n => simp [getFrom] at h
  | cons c cs ih =>
    cases n with
    | zero =>
      rw [getFrom, Option.some.injEq] at h
      exact ⟨[], h, rfl⟩
    | succ n =>
      rw [getFrom] at h
      split at h
      · obtain ⟨a, ha, hLen⟩ := ih h
        refine ⟨c :: a, by rw [ha, List.cons_append], ?_⟩
        rw [byteLen_cons, hLen]
        omega
      · simp at h

/-- A slice up to an offset ends at a character boundary. -/
theorem getTo_eq_some {s a : Str} {n : Nat} (h : getTo s n = some a) :
    ∃ b, s = a ++ b ∧ byteLen a = n := by
  induction s generalizing n a with
  | nil =>
    cases n with
    | zero =>
      rw [getTo, Option.some.injEq] at h
      exact ⟨[], by rw [← h]; rfl, by rw [← h]; rfl⟩
    | succ n => simp [getTo] at h
  | cons c cs ih =>
    cases n with
    | zero =>
      rw [getTo, Option.some.injEq] at h
      exact ⟨c :: cs, by rw [← h]; rfl, by rw [← h]; rfl⟩
    | succ n =>
      rw [getTo] at h
      split at h
      · obtain ⟨a', ha', rfl⟩ := Option.map_eq_some_iff.mp h
        obtain ⟨b, hb, hLen⟩ := ih ha'
        refine ⟨b, by rw [hb, List.cons_append], ?_⟩
        rw [byteLen_cons, hLen]
        omega
      · simp at h

/-- A slice of a range splits the string in three. -/
theorem getRange_eq_some {s m : Str} {r : Range} (h : getRange s r = some m) :
    ∃ a b, s = a ++ m ++ b ∧ byteLen a = r.start ∧ byteLen a + byteLen m = r.stop := by
  rw [getRange] at h
  split at h
  · rename_i hLe
    obtain ⟨t, hFrom, hTo⟩ := Option.bind_eq_some_iff.mp h
    obtain ⟨a, rfl, hA⟩ := getFrom_eq_some hFrom
    obtain ⟨b, rfl, hM⟩ := getTo_eq_some hTo
    exact ⟨a, b, by rw [List.append_assoc], hA, by omega⟩
  · simp at h

/-- Slicing the middle of three parts. -/
theorem getRange_append (a m b : Str) :
    getRange (a ++ m ++ b) ⟨byteLen a, byteLen a + byteLen m⟩ = some m := by
  have hFrom : getFrom (a ++ m ++ b) (byteLen a) = some (m ++ b) := by
    rw [List.append_assoc]
    exact getFrom_byteLen a (m ++ b)
  rw [getRange, if_pos (Nat.le_add_right _ _), hFrom, Option.bind_some, Nat.add_sub_cancel_left]
  exact getTo_byteLen m b

/-- Replacing a slice of the string keeps what is around it. -/
theorem replaceRange_append (a m b new : Str) :
    replaceRange (a ++ m ++ b) ⟨byteLen a, byteLen a + byteLen m⟩ new = some (a ++ new ++ b) := by
  have hFrom : getFrom (a ++ m ++ b) (byteLen a + byteLen m) = some b := by
    rw [← byteLen_append]
    exact getFrom_byteLen (a ++ m) b
  have hTo : getTo (a ++ m ++ b) (byteLen a) = some a := by
    rw [List.append_assoc]
    exact getTo_byteLen a (m ++ b)
  rw [replaceRange, if_pos (Nat.le_add_right _ _), hTo, Option.bind_some, hFrom,
    Option.map_some]

-- ---------------------------------------------------------------------------
-- Searches
-- ---------------------------------------------------------------------------

/-- The first occurrence of a pattern splits the string around it. -/
structure FirstSplit (pat s a b : Str) : Prop where
  eq : s = a ++ (pat ++ b)
  first : ∀ a' b', s = a' ++ (pat ++ b') → a.length ≤ a'.length

theorem FirstSplit.unique {pat s a b a' b' : Str} (h : FirstSplit pat s a b)
    (h' : FirstSplit pat s a' b') : a = a' ∧ b = b' := by
  have hLen : a.length = a'.length :=
    Nat.le_antisymm (h.first a' b' h'.eq) (h'.first a b h.eq)
  have hEq : a ++ (pat ++ b) = a' ++ (pat ++ b') := h.eq.symm.trans h'.eq
  obtain ⟨rfl, hRest⟩ := List.append_inj hEq hLen
  exact ⟨rfl, List.append_cancel_left hRest⟩

/-- What comes after the first occurrence does not matter for it. -/
theorem FirstSplit.replace_tail {pat a b : Str} (h : FirstSplit pat (a ++ (pat ++ b)) a b)
    (b' : Str) : FirstSplit pat (a ++ (pat ++ b')) a b' := by
  refine ⟨rfl, fun x y hEq => ?_⟩
  by_contra hLt
  -- an earlier occurrence would lie inside `a ++ pat`
  have hPrefix : x ++ pat <+: a ++ pat := by
    have hx : x ++ pat <+: a ++ (pat ++ b') := ⟨y, by rw [hEq, List.append_assoc]⟩
    have ha : a ++ pat <+: a ++ (pat ++ b') := ⟨b', by rw [List.append_assoc]⟩
    apply List.prefix_of_prefix_length_le hx ha
    simp only [List.length_append]
    omega
  obtain ⟨rest, hRest⟩ := hPrefix
  have hFirst := h.first x (rest ++ b) (by
    rw [← List.append_assoc a, ← hRest]
    simp only [List.append_assoc])
  omega

theorem find_eq_some {pat s : Str} {n : Nat} (h : find pat s = some n) :
    ∃ a b, FirstSplit pat s a b ∧ n = byteLen a := by
  induction s generalizing n with
  | nil =>
    rw [find] at h
    split at h
    · rename_i hPat
      rw [Option.some.injEq] at h
      exact ⟨[], [], ⟨by rw [hPat]; rfl, fun _ _ _ => Nat.zero_le _⟩, h.symm⟩
    · simp at h
  | cons c cs ih =>
    rw [find] at h
    split at h
    · rename_i hPre
      rw [Option.some.injEq] at h
      obtain ⟨b, hb⟩ := List.isPrefixOf_iff_prefix.mp hPre
      exact ⟨[], b, ⟨hb.symm, fun _ _ _ => Nat.zero_le _⟩, h.symm⟩
    · rename_i hPre
      obtain ⟨m, hm, rfl⟩ := Option.map_eq_some_iff.mp h
      obtain ⟨a, b, hSplit, rfl⟩ := ih hm
      refine ⟨c :: a, b, ⟨by rw [hSplit.eq, List.cons_append], ?_⟩, by rw [byteLen_cons]⟩
      intro a' b' hEq
      cases a' with
      | nil =>
        exact absurd (List.isPrefixOf_iff_prefix.mpr ⟨b', hEq.symm⟩) hPre
      | cons x a' =>
        rw [List.cons_append, List.cons.injEq] at hEq
        have := hSplit.first a' b' hEq.2
        simp only [List.length_cons]
        omega

theorem find_eq_none {pat s : Str} (h : find pat s = none) (a b : Str) :
    s ≠ a ++ (pat ++ b) := by
  induction s generalizing a with
  | nil =>
    intro hEq
    have hPat : pat = [] := by
      simp only [List.nil_eq, List.append_eq_nil_iff] at hEq
      exact hEq.2.1
    rw [find, if_pos hPat] at h
    simp at h
  | cons c cs ih =>
    rw [find] at h
    split at h
    · simp at h
    · rename_i hPre
      rw [Option.map_eq_none_iff] at h
      intro hEq
      cases a with
      | nil => exact hPre (List.isPrefixOf_iff_prefix.mpr ⟨b, hEq.symm⟩)
      | cons x a =>
        rw [List.cons_append, List.cons.injEq] at hEq
        exact ih h a hEq.2

/-- A search finds the first occurrence. -/
theorem find_of_firstSplit {pat s a b : Str} (h : FirstSplit pat s a b) :
    find pat s = some (byteLen a) := by
  cases hFind : find pat s with
  | none => exact absurd h.eq (find_eq_none hFind a b)
  | some n =>
    obtain ⟨a', b', hSplit, rfl⟩ := find_eq_some hFind
    rw [(h.unique hSplit).1]

/-- The text from the first occurrence of a pattern on. -/
def seek (pat s : Str) : Option Str := (find pat s).bind (getFrom s)

theorem seek_nil {pat : Str} (hPat : pat ≠ []) : seek pat [] = none := by
  rw [seek, find, if_neg hPat, Option.bind_none]

/-- A search goes on at the next character unless the pattern starts here. -/
theorem seek_cons (pat : Str) (c : Char) (s : Str) :
    seek pat (c :: s) = if pat.isPrefixOf (c :: s) then some (c :: s) else seek pat s := by
  rw [seek, find]
  split
  · rfl
  · cases hFind : find pat s with
    | none => rw [seek, hFind, Option.map_none, Option.bind_none, Option.bind_none]
    | some n =>
      obtain ⟨a, b, hSplit, rfl⟩ := find_eq_some hFind
      obtain rfl : s = a ++ (pat ++ b) := hSplit.eq
      rw [seek, hFind, Option.map_some, Option.bind_some, Option.bind_some, getFrom_byteLen,
        ← byteLen_cons, ← List.cons_append, getFrom_byteLen]

/-- Where a search lands is the first occurrence. -/
theorem firstSplit_of_seek {pat a b : Str} (h : seek pat (a ++ (pat ++ b)) = some (pat ++ b)) :
    FirstSplit pat (a ++ (pat ++ b)) a b := by
  obtain ⟨n, hFind, hFrom⟩ := Option.bind_eq_some_iff.mp h
  obtain ⟨a', b', hSplit, rfl⟩ := find_eq_some hFind
  have hRest : getFrom (a' ++ (pat ++ b')) (byteLen a') = some (pat ++ b) := hSplit.eq ▸ hFrom
  rw [getFrom_byteLen, Option.some.injEq] at hRest
  obtain rfl : b' = b := List.append_cancel_left hRest
  obtain rfl : a = a' := List.append_cancel_right hSplit.eq
  exact hSplit

/-- The text after the first occurrence of a pattern. -/
theorem find_bind_getFrom (pat s : Str) :
    ((find pat s).bind fun n => getFrom s (n + byteLen pat)) =
      (seek pat s).map (List.drop pat.length) := by
  cases hFind : find pat s with
  | none => rw [seek, hFind, Option.bind_none, Option.bind_none, Option.map_none]
  | some n =>
    obtain ⟨a, b, hSplit, rfl⟩ := find_eq_some hFind
    obtain rfl : s = a ++ (pat ++ b) := hSplit.eq
    rw [seek, hFind, Option.bind_some, Option.bind_some, getFrom_byteLen, Option.map_some,
      List.drop_left, ← byteLen_append, ← List.append_assoc, getFrom_byteLen]

/-- The text that follows the first occurrence of a pattern. -/
theorem drop_seek_iff {pat s rest : Str} :
    (seek pat s).map (List.drop pat.length) = some rest ↔ ∃ a, FirstSplit pat s a rest := by
  rw [← find_bind_getFrom, Option.bind_eq_some_iff]
  constructor
  · rintro ⟨n, hFind, hFrom⟩
    obtain ⟨a, b, hSplit, rfl⟩ := find_eq_some hFind
    obtain rfl := hSplit.eq
    rw [← byteLen_append, ← List.append_assoc, getFrom_byteLen, Option.some.injEq] at hFrom
    exact ⟨a, hFrom ▸ hSplit⟩
  · rintro ⟨a, hSplit⟩
    obtain rfl := hSplit.eq
    refine ⟨byteLen a, find_of_firstSplit hSplit, ?_⟩
    rw [← byteLen_append, ← List.append_assoc, getFrom_byteLen]

theorem findChar_eq_some {p : Char → Bool} {s : Str} {n : Nat} (h : findChar p s = some n) :
    ∃ a c b, s = a ++ c :: b ∧ p c = true ∧ (∀ x ∈ a, p x = false) ∧ n = byteLen a := by
  induction s generalizing n with
  | nil => simp [findChar] at h
  | cons c cs ih =>
    rw [findChar] at h
    split at h
    · rename_i hc
      rw [Option.some.injEq] at h
      exact ⟨[], c, cs, rfl, hc, by simp, h.symm⟩
    · rename_i hc
      obtain ⟨m, hm, rfl⟩ := Option.map_eq_some_iff.mp h
      obtain ⟨a, x, b, rfl, hx, hBefore, rfl⟩ := ih hm
      refine ⟨c :: a, x, b, rfl, hx, ?_, by rw [byteLen_cons]⟩
      intro y hy
      rcases List.mem_cons.mp hy with rfl | hy
      · simpa using hc
      · exact hBefore y hy

theorem findChar_append {p : Char → Bool} {a : Str} {c : Char} {b : Str}
    (hBefore : ∀ x ∈ a, p x = false) (hc : p c = true) :
    findChar p (a ++ c :: b) = some (byteLen a) := by
  induction a with
  | nil => rw [List.nil_append, findChar, if_pos hc, byteLen_nil]
  | cons x a ih =>
    rw [List.cons_append, findChar, if_neg (by simp [hBefore x (List.mem_cons_self ..)]),
      ih fun y hy => hBefore y (List.mem_cons_of_mem _ hy), Option.map_some, byteLen_cons]

/-- A search for a character ends at its first occurrence. -/
theorem findChar_of_notMem {a : Str} {c : Char} (h : c ∉ a) (b : Str) :
    findChar (· == c) (a ++ c :: b) = some (byteLen a) := by
  refine findChar_append (fun x hx => ?_) (beq_self_eq_true c)
  rw [beq_eq_false_iff_ne]
  rintro rfl
  exact h hx

/-- A search for what is no white space passes over white space. -/
theorem findChar_skip {blank : Str} (hBlank : ∀ x ∈ blank, isWhitespace x = true) {c : Char}
    (hc : isWhitespace c = false) (b : Str) :
    findChar (!isWhitespace ·) (blank ++ c :: b) = some (byteLen blank) :=
  findChar_append (fun x hx => by rw [hBlank x hx, Bool.not_true]) (by rw [hc, Bool.not_false])

theorem findChar_eq_none {p : Char → Bool} {s : Str} :
    findChar p s = none ↔ ∀ x ∈ s, p x = false := by
  induction s with
  | nil => simp [findChar]
  | cons c cs ih =>
    rw [findChar]
    by_cases hc : p c = true
    · simp [hc]
    · simp [hc, ih]

-- ---------------------------------------------------------------------------
-- Splitting and trimming
-- ---------------------------------------------------------------------------

theorem splitOnce_append {c : Char} {a : Str} (h : c ∉ a) (b : Str) :
    splitOnce c (a ++ c :: b) = some (a, b) := by
  induction a with
  | nil => rw [List.nil_append, splitOnce, if_pos rfl]
  | cons x a ih =>
    rw [List.mem_cons, not_or] at h
    rw [List.cons_append, splitOnce, if_neg (Ne.symm h.1), ih h.2]
    rfl

theorem splitOnce_eq_none {c : Char} {s : Str} (h : c ∉ s) : splitOnce c s = none := by
  induction s with
  | nil => rfl
  | cons x s ih =>
    rw [List.mem_cons, not_or] at h
    rw [splitOnce, if_neg (Ne.symm h.1), ih h.2]
    rfl

/-- A text that trimming leaves alone starts with no white space. -/
theorem dropWhile_of_trim {s : Str} (h : trim s = s) : s.dropWhile isWhitespace = s := by
  have hPrefix : trim s <+: s.dropWhile isWhitespace := List.rdropWhile_prefix _ _
  have hSuffix : s.dropWhile isWhitespace <:+ s := List.dropWhile_suffix _
  rw [h] at hPrefix
  exact hSuffix.eq_of_length (Nat.le_antisymm hSuffix.length_le hPrefix.length_le)

/-- White space behind a trimmed text is dropped. -/
theorem trim_append_blank {a b : Str} (hTrim : trim a = a) (hNe : a ≠ [])
    (hBlank : ∀ c ∈ b, isWhitespace c = true) : trim (a ++ b) = a := by
  have hStart := dropWhile_of_trim hTrim
  have hDrop : (a ++ b).dropWhile isWhitespace = a ++ b := by
    rw [List.dropWhile_append, hStart, if_neg (by simpa using hNe)]
  have hEnd : a.rdropWhile isWhitespace = a := by
    have hTrim := hTrim
    rw [trim, hStart] at hTrim
    exact hTrim
  rw [trim, hDrop]
  induction b using List.reverseRecOn with
  | nil => rw [List.append_nil, hEnd]
  | append_singleton b c ih =>
    rw [← List.append_assoc, List.rdropWhile_concat_pos _ _ _ (hBlank c (by simp))]
    refine ih (fun x hx => hBlank x (List.mem_append_left _ hx)) ?_
    rw [List.dropWhile_append, hStart, if_neg (by simpa using hNe)]

/-- Dropping from the end stops at a character of the second part. -/
theorem rdropWhile_append {p : Char → Bool} (a : Str) {b : Str} (hStop : ∃ c ∈ b, p c = false) :
    (a ++ b).rdropWhile p = a ++ b.rdropWhile p := by
  have hRest : (b.reverse.dropWhile p).isEmpty = false := by
    obtain ⟨c, hc, hNot⟩ := hStop
    rw [← Bool.not_eq_true, List.isEmpty_iff, List.dropWhile_eq_nil_iff]
    intro hAll
    rw [hAll c (List.mem_reverse.mpr hc)] at hNot
    cases hNot
  rw [List.rdropWhile, List.reverse_append, List.dropWhile_append, hRest,
    if_neg (by decide), List.reverse_append, List.reverse_reverse]
  rfl

/-- Behind a trimmed text, trimming works on the rest. -/
theorem trim_append {a b : Str} (hTrim : trim a = a) (hNe : a ≠ [])
    (hText : ∃ c ∈ b, isWhitespace c = false) :
    trim (a ++ b) = a ++ b.rdropWhile isWhitespace := by
  have hDrop : (a ++ b).dropWhile isWhitespace = a ++ b := by
    rw [List.dropWhile_append, dropWhile_of_trim hTrim, if_neg (by simpa using hNe)]
  rw [trim, hDrop, rdropWhile_append a hText]

/-- A trimmed text has a character that is not white space, and ends in one. -/
theorem text_of_trim {s : Str} (hTrim : trim s = s) (hNe : s ≠ []) :
    (∃ c ∈ s, isWhitespace c = false) ∧ s.rdropWhile isWhitespace = s := by
  have hEnd : s.rdropWhile isWhitespace = s := by
    rw [trim, dropWhile_of_trim hTrim] at hTrim
    exact hTrim
  refine ⟨⟨s.getLast hNe, List.getLast_mem hNe, ?_⟩, hEnd⟩
  have hLast := List.rdropWhile_eq_self_iff.mp hEnd hNe
  simpa using hLast

-- ---------------------------------------------------------------------------
-- Numbers
-- ---------------------------------------------------------------------------

theorem digit?_of_isDigit {c : Char} (h : c.isDigit = true) :
    digit? c = some (c.toNat - '0'.toNat) := if_pos h

/-- A run of digits denotes the number that Lean's own reader computes. -/
theorem foldlM_digits {s : Str} (h : ∀ c ∈ s, c.isDigit = true) (acc : Nat) :
    s.foldlM (fun acc c => (digit? c).map (10 * acc + ·)) acc =
      some (Nat.ofDigitChars 10 s acc) := by
  induction s generalizing acc with
  | nil => rfl
  | cons c cs ih =>
    rw [List.foldlM_cons, digit?_of_isDigit (h c (List.mem_cons_self ..)), Option.map_some,
      Nat.ofDigitChars_cons]
    exact ih (fun d hd => h d (List.mem_cons_of_mem _ hd)) _

theorem decimal?_of_digits {s : Str} (hNe : s ≠ []) (h : ∀ c ∈ s, c.isDigit = true) :
    decimal? s = some (Nat.ofDigitChars 10 s 0) := by
  rw [decimal?, if_neg hNe]
  exact foldlM_digits h 0

theorem isDigit_of_foldlM {s : Str} {acc n : Nat}
    (h : s.foldlM (fun acc c => (digit? c).map (10 * acc + ·)) acc = some n) :
    ∀ c ∈ s, c.isDigit = true := by
  induction s generalizing acc with
  | nil => simp
  | cons c cs ih =>
    rw [List.foldlM_cons, Option.bind_eq_bind, Option.bind_eq_some_iff] at h
    obtain ⟨next, hNext, hRest⟩ := h
    obtain ⟨d, hDigit, -⟩ := Option.map_eq_some_iff.mp hNext
    intro x hx
    rcases List.mem_cons.mp hx with rfl | hx
    · unfold digit? at hDigit
      split at hDigit
      · assumption
      · simp at hDigit
    · exact ih hRest x hx

/-- What parses as a number is made of digits, after an optional plus. -/
theorem mem_of_parseUnsigned {bound n : Nat} {s : Str} (h : parseUnsigned bound s = some n) :
    ∀ c ∈ s, c = '+' ∨ c.isDigit = true := by
  have hDecimal : ∀ t, decimal? t = some n → ∀ c ∈ t, c.isDigit = true := by
    intro t ht
    unfold decimal? at ht
    split at ht
    · simp at ht
    · exact isDigit_of_foldlM ht
  unfold parseUnsigned at h
  have hNumber := (Option.filter_eq_some_iff.mp h).1
  intro c hc
  split at hNumber
  · rcases List.mem_cons.mp hc with rfl | hc
    · exact .inl rfl
    · exact .inr (hDecimal _ hNumber c hc)
  · exact .inr (hDecimal _ hNumber c hc)

theorem parseU64_nil : parseU64 [] = none := by decide

theorem parseU64_of_not_digit {s : Str} {c : Char} (hMem : c ∈ s) (hPlus : c ≠ '+')
    (hDigit : c.isDigit = false) : parseU64 s = none := by
  cases hParse : parseU64 s with
  | none => rfl
  | some k =>
    obtain rfl | h := mem_of_parseUnsigned hParse c hMem
    · exact absurd rfl hPlus
    · rw [hDigit] at h
      cases h

theorem isDigit_of_mem_formatNat {n : Nat} {c : Char} (h : c ∈ formatNat n) :
    c.isDigit = true :=
  Nat.isDigit_of_mem_toDigits (by decide) (by decide) h

theorem formatNat_ne_nil (n : Nat) : formatNat n ≠ [] := Nat.toDigits_ne_nil

/-- Reading a number back from its decimal text. -/
theorem parseUnsigned_formatNat {bound n : Nat} (h : n < bound) :
    parseUnsigned bound (formatNat n) = some n := by
  have hPlus : ∀ rest, formatNat n = '+' :: rest → False := by
    intro rest hEq
    have hDigit := isDigit_of_mem_formatNat (n := n) (c := '+') (by rw [hEq]; simp)
    simp at hDigit
  have hDecimal : decimal? (formatNat n) = some n := by
    rw [decimal?_of_digits (formatNat_ne_nil n) fun c hc => isDigit_of_mem_formatNat hc, formatNat,
      Nat.ofDigitChars_ten_toDigits]
  rw [parseUnsigned, hDecimal, Option.filter_some_pos (by simpa using h)]
  exact hPlus

/-- A character that is not a lower case letter is nobody's lower case. -/
theorem eq_of_toLower {c d : Char} (h : c.toLower = d) (hd : d.toNat < 97) : c = d := by
  unfold Char.toLower at h
  split at h
  · rename_i hUpper
    subst h
    have hGe : 65 ≤ c.val.toNat := hUpper.1
    have hLe : c.val.toNat ≤ 90 := hUpper.2
    have hSum : (c.val + 32).toNat = c.val.toNat + 32 := by
      rw [UInt32.toNat_add]
      show (c.val.toNat + 32) % 2 ^ 32 = c.val.toNat + 32
      omega
    have hLower : (c.val + 32).toNat < 97 := hd
    omega
  · exact h

-- ---------------------------------------------------------------------------
-- Bytes
-- ---------------------------------------------------------------------------

theorem fromBytes_toBytes (s : Str) : fromBytes (toBytes s) = some s := by
  have hDecode : (toBytes s).toByteArray.utf8Decode? = some s.toArray :=
    List.utf8Decode?_utf8Encode
  rw [fromBytes, hDecode, Option.map_some, List.toList_toArray]

/-- A decoded string has the bytes it was decoded from. -/
theorem toBytes_of_fromBytes {bytes : List UInt8} {s : Str} (h : fromBytes bytes = some s) :
    toBytes s = bytes := by
  obtain ⟨decoded, hDecode, rfl⟩ := Option.map_eq_some_iff.mp h
  have hSome : bytes.toByteArray.utf8Decode?.isSome := by rw [hDecode]; rfl
  have hEncode := ByteArray.utf8Encode_get_utf8Decode? (h := hSome)
  have hGet : bytes.toByteArray.utf8Decode?.get hSome = decoded := by
    simp only [hDecode, Option.get_some]
  rw [hGet] at hEncode
  have hList := congrArg (fun b => b.data.toList) hEncode
  simpa [toBytes, List.utf8Encode] using hList

/-- A byte below 128 encodes the ASCII character with that code. -/
theorem toNat_of_mem_utf8EncodeChar {c : Char} {b : UInt8}
    (hMem : b ∈ String.utf8EncodeChar c) (hAscii : b.toNat < 128) : c.toNat = b.toNat := by
  have hOfNat : ∀ n < 256, (UInt8.ofNat n).toNat = n := fun n hn => UInt8.toNat_ofNat_of_lt' hn
  -- every byte of a longer character is 128 or more
  have hLong : ∀ n, 128 ≤ n → n < 256 → b ≠ UInt8.ofNat n := by
    rintro n hGe hLt rfl
    rw [hOfNat n hLt] at hAscii
    omega
  unfold String.utf8EncodeChar at hMem
  dsimp only at hMem
  split at hMem
  · rename_i hOne
    obtain rfl := List.mem_singleton.mp hMem
    exact (hOfNat c.toNat (Nat.lt_of_le_of_lt hOne (by decide))).symm
  · split at hMem
    · simp only [List.mem_cons, List.not_mem_nil, or_false] at hMem
      rcases hMem with hB | hB <;> exact absurd hB (hLong _ (by omega) (by omega))
    · split at hMem
      · simp only [List.mem_cons, List.not_mem_nil, or_false] at hMem
        rcases hMem with hB | hB | hB <;> exact absurd hB (hLong _ (by omega) (by omega))
      · simp only [List.mem_cons, List.not_mem_nil, or_false] at hMem
        rcases hMem with hB | hB | hB | hB <;> exact absurd hB (hLong _ (by omega) (by omega))

theorem toNat_of_mem_toBytes {s : Str} {b : UInt8} (hMem : b ∈ toBytes s)
    (hAscii : b.toNat < 128) : ∃ c ∈ s, c.toNat = b.toNat := by
  obtain ⟨c, hc, hb⟩ := List.mem_flatMap.mp hMem
  exact ⟨c, hc, toNat_of_mem_utf8EncodeChar hb hAscii⟩

end Utf8
