import GatewayProxy.Gateway.Opcode

/-!
# Which guild an event belongs to

`find_guild_id` searches the text of an event for a quoted name. Against it
stands the guild of a dispatch as a JSON value: the `guild_id` of its own data,
or for an event about a guild its own `id`. The texts are those of every JSON
object with a member `d`, with any members around it and any layout, nesting and
spelling.

Main results:

* `findDataFieldU64_text`: the search reads the number after the first mention of
  the name in the data or behind it, be it the name of an own member or not.
* `readAfterKeyU64_iff`, `readAfterKeyU64_member`: the number that is read, by the
  text alone, and after the name of a member.
* `guild_attribution_iff`: the scan succeeds with the right guild exactly when the
  opcode is written where it is looked for, and the first mention is the own
  member's name or what follows it spells the same number.
* `guild_attribution_fails`: a message whose text misleads the search.
-/

namespace GatewayProxy

open Utf8 JsonText

def dName : Str := "d".toList

def guildIdName : Str := "guild_id".toList

def idName : Str := "id".toList

/-- The number a value stands for, if it is a snowflake. -/
def snowflake : Value → Option Nat
  | .string l => l.decode.bind parseU64
  | .scalar s => parseU64 s.text
  | _ => none

/-- A dispatch: an object with `t`, `s` and `op` before its member `d`, an object. -/
structure Dispatch where
  start : Blank
  /-- `t`, `s` and `op`, in any order -/
  head : Members
  layout : Layout
  name : Literal
  name_eq : name.decode = some dName
  inner : Blank
  data : Members
  /-- the members after `d` -/
  tail : Members
  finish : Blank
  guildId_unique : (data.named guildIdName).length ≤ 1
  id_unique : (data.named idName).length ≤ 1

namespace Dispatch

/-- What follows the members of the data. -/
def close (p : Dispatch) : List Token :=
  closeBrace :: (p.layout.after.tokens ++ (p.tail.separator ++
    (p.tail.tokens ++ closeBrace :: p.finish.tokens)))

/-- What follows the name `d`. -/
def afterName (p : Dispatch) : List Token :=
  p.layout.afterName.tokens ++ colon :: (p.layout.beforeValue.tokens ++
    openBrace :: (p.inner.tokens ++ (p.data.tokens ++ p.close)))

def tokens (p : Dispatch) : List Token :=
  p.start.tokens ++ openBrace :: (p.head.tokens ++ (p.head.separator ++
    (p.layout.before.tokens ++ .string p.name :: p.afterName)))

def text (p : Dispatch) : Str := render p.tokens

-- ---------------------------------------------------------------------------
-- The guild of the value
-- ---------------------------------------------------------------------------

/-- The snowflake in the data's own member. -/
def own (p : Dispatch) (n : Str) : Option Nat := (p.data.named n).head?.bind snowflake

/-- `t` is one of the three events about a guild. -/
def isLifecycle (p : Dispatch) : Bool :=
  (p.head.named "t".toList).head?.any fun
    | .string l => l.decode == some "GUILD_CREATE".toList ||
        l.decode == some "GUILD_DELETE".toList || l.decode == some "GUILD_UPDATE".toList
    | _ => false

/-- The guild the event belongs to. -/
def guildId (p : Dispatch) : Option Nat :=
  (p.own guildIdName).or (if p.isLifecycle then p.own idName else none)

-- ---------------------------------------------------------------------------
-- Where the search lands
-- ---------------------------------------------------------------------------

/-- The tokens after the first `"d":`, from the colon on. -/
def searched (p : Dispatch) : Option (List Token) := afterMention dName ":".toList p.tokens

/-- The first `"d":` in the text is the name of the data. -/
def DataFound (p : Dispatch) : Prop := p.searched.map List.length = some p.afterName.length

instance (p : Dispatch) : Decidable p.DataFound := inferInstanceAs (Decidable (_ = _))

/-- The first mention of a name in the data or behind it, or in whatever is searched
instead. -/
def firstMention (p : Dispatch) (n : Str) : Option Mention :=
  if p.DataFound then p.data.firstMention n p.close
  else (p.searched.bind (afterMention n [])).map .foreign

end Dispatch

/-- The number of a value that is spelled without escapes. -/
def plainNumber : Value → Option Nat
  | .string l => if l.isPlain then parseU64 l.text else none
  | .scalar s => parseU64 s.text
  | _ => none

/-- The text starts with a number: digits in quotes, or bare digits up to a comma,
a closing brace, white space or the end. -/
inductive StartsWithNumber (k : Nat) : Str → Prop
  | quoted (digits rest : Str) (hInside : '"' ∉ digits) (hDigits : parseU64 digits = some k) :
    StartsWithNumber k ('"' :: (digits ++ '"' :: rest))
  | bare (digits rest : Str) (hDigits : parseU64 digits = some k)
    (hEnd : ∀ c ∈ rest.head?, c = ',' ∨ c = '}' ∨ isWhitespace c = true) :
    StartsWithNumber k (digits ++ rest)

/-- The first colon of the text is followed by white space and a number. -/
def NumberFollows (text : Str) (k : Nat) : Prop :=
  ∃ before blank value, text = before ++ ':' :: (blank ++ value) ∧ ':' ∉ before ∧
    (∀ c ∈ blank, isWhitespace c = true) ∧ StartsWithNumber k value

/-- The number after a mention: the value of an own member, or what the text says
after another mention. -/
def MentionNumber (k : Nat) : Mention → Prop
  | .own _ value _ => plainNumber value = some k
  | .foreign following => NumberFollows (render following) k

namespace Dispatch

/-- A number stands after the first mention of a name. -/
def PointsTo (p : Dispatch) (n : Str) (k : Nat) : Prop :=
  ∃ mention, p.firstMention n = some mention ∧ MentionNumber k mention

/-- The first `"t":` of the text is followed by the name in quotes. -/
def TypeWritten (p : Dispatch) (name : Str) : Prop :=
  ∃ rest blank after, afterMention "t".toList ":".toList p.tokens = some rest ∧
    render rest = ':' :: (blank ++ '"' :: (name ++ '"' :: after)) ∧
    (∀ c ∈ blank, isWhitespace c = true) ∧ '"' ∉ name

/-- The event type in the text is one of those whose `d.id` is the guild. -/
def LifecycleWritten (p : Dispatch) : Prop :=
  p.TypeWritten "GUILD_CREATE".toList ∨ p.TypeWritten "GUILD_DELETE".toList ∨
    p.TypeWritten "GUILD_UPDATE".toList

/-- The first `"op":` of the text is followed by an opcode without white space. -/
def OpcodeWritten (p : Dispatch) : Prop :=
  ∃ rest op, afterMention opName ":".toList p.tokens = some rest ∧
    NumberAfterColon u8Bound (render rest) op

/-- The dispatches whose guild is found. -/
inductive Attributed (p : Dispatch) : Prop
  /-- `guild_id` is mentioned first as the name of the own member -/
  | ownGuildId (layout : Layout) (value : Value) (following : List Token) (k : Nat)
    (hMention : p.firstMention guildIdName = some (.own layout value following))
    (hNumber : plainNumber value = some k)
  /-- it is mentioned first elsewhere, and the number there is the same -/
  | foreignGuildId (following : List Token) (k : Nat)
    (hMention : p.firstMention guildIdName = some (.foreign following))
    (hNumber : NumberFollows (render following) k) (hSame : p.guildId = some k)
  /-- no number follows it, and `id` is mentioned first as the name of the own
  member, which is the guild -/
  | ownId (layout : Layout) (value : Value) (following : List Token) (k : Nat)
    (hNone : ∀ j, ¬ p.PointsTo guildIdName j) (hType : p.LifecycleWritten)
    (hMention : p.firstMention idName = some (.own layout value following))
    (hNumber : plainNumber value = some k)
    (hGuild : p.own guildIdName = none ∧ p.isLifecycle = true ∨ p.own guildIdName = some k)
  /-- `id` is mentioned first elsewhere, and the number there is the same -/
  | foreignId (following : List Token) (k : Nat) (hNone : ∀ j, ¬ p.PointsTo guildIdName j)
    (hType : p.LifecycleWritten)
    (hMention : p.firstMention idName = some (.foreign following))
    (hNumber : NumberFollows (render following) k) (hSame : p.guildId = some k)
  /-- no number follows either, and there is no guild -/
  | nothing (hNone : ∀ j, ¬ p.PointsTo guildIdName j)
    (hId : p.LifecycleWritten → ∀ j, ¬ p.PointsTo idName j) (hSame : p.guildId = none)

end Dispatch

-- ---------------------------------------------------------------------------
-- Reading the value of a member
-- ---------------------------------------------------------------------------

section Reading

/-- A value that starts with no quote, digit or plus is no number. -/
theorem readValueU64_of_head {c : Char} (hQuote : c ≠ '"') (hPlus : c ≠ '+')
    (hDigit : c.isDigit = false) (s : Str) : GatewayEvent.readValueU64 (c :: s) = none := by
  unfold GatewayEvent.readValueU64
  rw [List.head?_cons]
  split
  · rfl
  · rename_i hEq
    exact absurd (Option.some.inj hEq) hQuote
  · rfl
  · simp only [Option.bind_eq_bind]
    cases hTo : getTo (c :: s) _ with
    | none => rfl
    | some a =>
      obtain ⟨b, hSplit, -⟩ := getTo_eq_some hTo
      rw [Option.bind_some]
      cases a with
      | nil => exact parseU64_nil
      | cons x a =>
        obtain ⟨rfl, -⟩ := List.cons.inj hSplit
        exact parseU64_of_not_digit (.head _) hPlus hDigit

/-- Up to the first quote after a literal with an escape there is a backslash. -/
theorem mem_of_not_isPlain {l : Literal} (hPlain : l.isPlain = false) {r a b : Str}
    (hSplit : l.text ++ '"' :: r = a ++ '"' :: b) : '\\' ∈ a := by
  induction l generalizing a with
  | nil => cases hPlain
  | cons item l ih =>
    cases item with
    | plain c hc =>
      cases a with
      | nil =>
        obtain ⟨rfl, -⟩ := List.cons.inj hSplit
        cases hc
      | cons x a => exact .tail _ (ih hPlain (List.cons.inj hSplit).2)
    | escape c stands hc =>
      cases a with
      | nil => exact absurd (List.cons.inj hSplit).1 (by decide)
      | cons x a =>
        obtain ⟨rfl, -⟩ := List.cons.inj hSplit
        exact .head _
    | unicode digits hd =>
      cases a with
      | nil => exact absurd (List.cons.inj hSplit).1 (by decide)
      | cons x a =>
        obtain ⟨rfl, -⟩ := List.cons.inj hSplit
        exact .head _

/-- A quoted number is read up to the first quote. -/
theorem readValueU64_quoted {a : Str} (hInside : '"' ∉ a) (b : Str) :
    GatewayEvent.readValueU64 ('"' :: (a ++ '"' :: b)) = parseU64 a := by
  have hFrom : getFrom ('"' :: (a ++ '"' :: b)) 1 = some (a ++ '"' :: b) :=
    getFrom_byteLen ['"'] _
  have hRange : getRange ('"' :: (a ++ '"' :: b)) ⟨1, byteLen a + 1⟩ = some a := by
    have hAt := getRange_append ['"'] a ('"' :: b)
    have hOne : byteLen ['"'] = 1 := rfl
    rw [hOne, Nat.add_comm 1] at hAt
    exact hAt
  unfold GatewayEvent.readValueU64
  rw [List.head?_cons]
  simp only [Option.bind_eq_bind]
  rw [hFrom, Option.bind_some, findChar_of_notMem hInside b, Option.bind_some, hRange,
    Option.bind_some]

/-- A string is read up to the first quote after it, which ends it only when it is
spelled plainly. -/
theorem readValueU64_string (l : Literal) (r : Str) :
    GatewayEvent.readValueU64 ('"' :: (l.text ++ '"' :: r)) =
      if l.isPlain then parseU64 l.text else none := by
  cases hPlain : l.isPlain with
  | true => rw [if_pos rfl, readValueU64_quoted (Literal.not_mem_text_of_isPlain hPlain)]
  | false =>
    rw [if_neg Bool.false_ne_true]
    obtain ⟨n, hn⟩ : ∃ n, findChar (· == '"') (l.text ++ '"' :: r) = some n := by
      cases hFind : findChar (· == '"') (l.text ++ '"' :: r) with
      | some n => exact ⟨n, rfl⟩
      | none =>
        have hAll := findChar_eq_none.mp hFind '"' (List.mem_append_right _ (.head _))
        cases hAll
    obtain ⟨a, c, b, hSplit, hc, hBefore, -⟩ := findChar_eq_some hn
    obtain rfl : c = '"' := by simpa using hc
    rw [hSplit, readValueU64_quoted fun hMem => absurd (hBefore _ hMem) (by decide)]
    exact parseU64_of_not_digit (mem_of_not_isPlain hPlain hSplit) (by decide) (by decide)

theorem isWhitespace_of_isBlank {c : Char} (h : isBlank c = true) : isWhitespace c = true := by
  simp only [isBlank, Bool.or_eq_true, beq_iff_eq] at h
  rcases h with ((rfl | rfl) | rfl) | rfl <;> decide

/-- The letters and digits lie between `0` and `z`. -/
theorem toNat_of_isAlphanum {c : Char} (h : c.isAlphanum = true) :
    0x30 ≤ c.toNat ∧ c.toNat ≤ 0x7A := by
  have hVal : c.toNat = c.val.toNat := rfl
  obtain (hLetter | hLetter) | hDigit :
      ((65 ≤ c.val ∧ c.val ≤ 90) ∨ (97 ≤ c.val ∧ c.val ≤ 122)) ∨ (48 ≤ c.val ∧ c.val ≤ 57) := by
    change ((decide (65 ≤ c.val ∧ c.val ≤ 90) ||
      (decide (97 ≤ c.val) && decide (c.val ≤ 122))) ||
        (decide (48 ≤ c.val) && decide (c.val ≤ 57))) = true at h
    simpa only [Bool.or_eq_true, Bool.and_eq_true, decide_eq_true_eq] using h
  all_goals
    simp only [UInt32.le_iff_toNat_le, UInt32.reduceToNat] at *
    omega

/-- No white space outside ASCII is among the characters of a scalar. -/
theorem isWhitespace_of_isScalarChar {c : Char} (h : isScalarChar c = true) :
    isWhitespace c = false := by
  have hRange : 0x21 ≤ c.toNat ∧ c.toNat < 0x7F := by
    simp only [isScalarChar, Bool.or_eq_true, beq_iff_eq] at h
    obtain ((hAlphanum | rfl) | rfl) | rfl := h
    · have hBounds := toNat_of_isAlphanum hAlphanum
      omega
    all_goals decide
  simp only [isWhitespace, Bool.or_eq_false_iff, Bool.and_eq_false_iff, decide_eq_false_iff_not,
    beq_eq_false_iff_ne]
  omega

/-- A word without quotes is read up to what ends it. -/
theorem readValueU64_bare {x : Char} {word rest : Str} (hQuote : x ≠ '"')
    (hWord : ∀ c ∈ x :: word, (c == ',' || c == '\x7d' || isWhitespace c) = false)
    (hEnd : ∀ c ∈ rest.head?, (c == ',' || c == '\x7d' || isWhitespace c) = true) :
    GatewayEvent.readValueU64 ((x :: word) ++ rest) = parseU64 (x :: word) := by
  have hStop : (findChar (fun c => c == ',' || c == '\x7d' || isWhitespace c)
      ((x :: word) ++ rest)).getD (byteLen ((x :: word) ++ rest)) = byteLen (x :: word) := by
    cases rest with
    | nil => rw [List.append_nil, findChar_eq_none.mpr hWord, Option.getD_none]
    | cons c rest => rw [findChar_append hWord (hEnd c rfl), Option.getD_some]
  have hTo := getTo_byteLen (x :: word) rest
  unfold GatewayEvent.readValueU64
  rw [List.cons_append] at hStop hTo ⊢
  rw [List.head?_cons]
  split
  · rename_i hEq
    cases hEq
  · rename_i hEq
    exact absurd (Option.some.inj hEq) hQuote
  · rename_i hEq
    rw [Option.some.inj hEq]
    exact (parseU64_of_not_digit (.head _) (by decide) (by decide)).symm
  · simp only [Option.bind_eq_bind]
    rw [hStop, hTo, Option.bind_some]

/-- A number is read up to what ends the value. -/
theorem readValueU64_scalar (s : Scalar) {c : Char} (r : Str)
    (hEnd : isBlank c = true ∨ c = ',' ∨ c = '\x7d') :
    GatewayEvent.readValueU64 (s.text ++ c :: r) = parseU64 s.text := by
  obtain ⟨text, hNe, hChars⟩ := s
  dsimp only
  have hAt : (c == ',' || c == '\x7d' || isWhitespace c) = true := by
    obtain hBlank | rfl | rfl := hEnd
    · rw [isWhitespace_of_isBlank hBlank, Bool.or_true]
    · rfl
    · rfl
  cases text with
  | nil => exact absurd rfl hNe
  | cons x text =>
    refine readValueU64_bare ?_ (fun y hy => ?_) (by rintro _ ⟨⟩; exact hAt)
    · rintro rfl
      exact absurd (List.all_eq_true.mp hChars '"' (.head _)) (by decide)
    · have hChar := List.all_eq_true.mp hChars y hy
      rw [isWhitespace_of_isScalarChar hChar, Bool.or_false, Bool.or_eq_false_iff,
        beq_eq_false_iff_ne, beq_eq_false_iff_ne]
      constructor <;> rintro rfl <;> cases hChar

/-- The text of a value starts with its first character, which is not white
space, and reading it gives the number it plainly stands for. -/
theorem readValueU64_value (value : Value) {following : List Token} (hEnds : EndsValue following) :
    (∃ c s, render value.tokens = c :: s ∧ isWhitespace c = false) ∧
      GatewayEvent.readValueU64 (render value.tokens ++ render following) = plainNumber value := by
  cases value with
  | string l =>
    refine ⟨⟨'"', _, rfl, by decide⟩, ?_⟩
    have hText : render (Value.string l).tokens ++ render following =
        '"' :: (l.text ++ '"' :: render following) := by
      show '"' :: (l.text ++ ['"'] ++ [] ++ render following) = _
      rw [List.append_nil, List.append_assoc]
      rfl
    rw [hText]
    exact readValueU64_string l _
  | scalar s =>
    obtain ⟨c, r, hFollowing, hEnd⟩ := hEnds
    rw [Value.tokens, Scalar.render_tokens, hFollowing]
    refine ⟨?_, readValueU64_scalar s r hEnd⟩
    obtain ⟨text, hNe, hChars⟩ := s
    cases text with
    | nil => exact absurd rfl hNe
    | cons x text => exact ⟨x, text, rfl, isWhitespace_of_isScalarChar
      (List.all_eq_true.mp hChars x (.head _))⟩
  | array blank elems =>
    exact ⟨⟨'[', _, rfl, by decide⟩, readValueU64_of_head (by decide) (by decide) (by decide) _⟩
  | object blank members =>
    exact ⟨⟨'\x7b', _, rfl, by decide⟩, readValueU64_of_head (by decide) (by decide) (by decide) _⟩

/-- The characters of a number end no value and are no quote. -/
theorem not_end_of_parseU64 {digits : Str} {k : Nat} (h : parseU64 digits = some k) :
    ∀ c ∈ digits, (c == ',' || c == '}' || isWhitespace c) = false ∧ c ≠ '"' := by
  intro c hc
  obtain rfl | hDigit := mem_of_parseUnsigned h c hc
  · decide
  · have hScalar : isScalarChar c = true := by
      rw [isScalarChar, Char.isAlphanum, hDigit, Bool.or_true, Bool.true_or, Bool.true_or,
        Bool.true_or]
    have hNe : ∀ x : Char, x.isDigit = false → c ≠ x := by
      rintro x hx rfl
      rw [hx] at hDigit
      cases hDigit
    rw [isWhitespace_of_isScalarChar hScalar, Bool.or_false, Bool.or_eq_false_iff,
      beq_eq_false_iff_ne, beq_eq_false_iff_ne]
    exact ⟨⟨hNe _ (by decide), hNe _ (by decide)⟩, hNe _ (by decide)⟩

/-- What is read as a number is one in quotes or a bare one. -/
theorem startsWithNumber_of_readValueU64 {value : Str} {k : Nat}
    (h : GatewayEvent.readValueU64 value = some k) : StartsWithNumber k value := by
  unfold GatewayEvent.readValueU64 at h
  split at h
  · cases h
  · rename_i hHead
    cases value with
    | nil => cases hHead
    | cons c rest =>
      obtain rfl : c = '"' := Option.some.inj hHead
      have hFrom : getFrom ('"' :: rest) 1 = some rest := getFrom_byteLen ['"'] rest
      simp only [Option.bind_eq_bind, hFrom, Option.bind_some, Option.bind_eq_some_iff] at h
      obtain ⟨stop, hStop, digits, hDigits, hParse⟩ := h
      obtain ⟨inside, c, after, rfl, hc, hInside, rfl⟩ := findChar_eq_some hStop
      obtain rfl : c = '"' := by simpa using hc
      have hRange := getRange_append ['"'] inside ('"' :: after)
      have hOne : byteLen ['"'] = 1 := rfl
      rw [hOne, Nat.add_comm 1] at hRange
      obtain rfl : inside = digits := Option.some.inj (hRange.symm.trans hDigits)
      exact .quoted inside after (fun hMem => absurd (hInside _ hMem) (by decide)) hParse
  · cases h
  · simp only [Option.bind_eq_bind, Option.bind_eq_some_iff] at h
    obtain ⟨digits, hDigits, hParse⟩ := h
    cases hStop : findChar (fun c => c == ',' || c == '\x7d' || isWhitespace c) value with
    | none =>
      have hAll := getTo_byteLen value []
      rw [hStop, Option.getD_none] at hDigits
      rw [List.append_nil, hDigits] at hAll
      obtain rfl := Option.some.inj hAll
      have hBare := StartsWithNumber.bare digits [] hParse fun c hc => by cases hc
      rwa [List.append_nil] at hBare
    | some stop =>
      rw [hStop, Option.getD_some] at hDigits
      obtain ⟨inside, c, after, rfl, hc, -, rfl⟩ := findChar_eq_some hStop
      rw [getTo_byteLen] at hDigits
      obtain rfl := Option.some.inj hDigits
      refine .bare inside (c :: after) hParse fun x hx => ?_
      obtain rfl := Option.some.inj hx
      simpa only [Bool.or_eq_true, beq_iff_eq, or_assoc] using hc

/-- What the value is read as, by the text alone. -/
theorem readValueU64_iff {value : Str} {k : Nat} :
    GatewayEvent.readValueU64 value = some k ↔ StartsWithNumber k value := by
  refine ⟨startsWithNumber_of_readValueU64, fun h => ?_⟩
  cases h with
  | quoted digits rest hInside hDigits => rw [readValueU64_quoted hInside, hDigits]
  | bare digits rest hDigits hEnd =>
    have hChars := not_end_of_parseU64 hDigits
    cases digits with
    | nil => cases (parseU64_nil.symm.trans hDigits)
    | cons x digits =>
      rw [readValueU64_bare (hChars x (.head _)).2 (fun c hc => (hChars c hc).1) fun c hc => ?_,
        hDigits]
      simpa only [Bool.or_eq_true, beq_iff_eq, or_assoc] using hEnd c hc

/-- The text after the first colon. -/
theorem getFrom_colon (before rest : Str) :
    getFrom (before ++ ':' :: rest) (byteLen before + 1) = some rest := by
  have hAt := getFrom_byteLen (before ++ [':']) rest
  rw [byteLen_append, List.append_assoc] at hAt
  exact hAt

/-- The value is read after the first colon and the white space behind it. -/
theorem readAfterKeyU64_colon {before blank : Str} (hBefore : ':' ∉ before)
    (hBlank : ∀ x ∈ blank, isWhitespace x = true) {c : Char} (hc : isWhitespace c = false)
    (s : Str) :
    GatewayEvent.readAfterKeyU64 (before ++ ':' :: (blank ++ c :: s)) =
      GatewayEvent.readValueU64 (c :: s) := by
  unfold GatewayEvent.readAfterKeyU64
  simp only [Option.bind_eq_bind]
  rw [findChar_of_notMem hBefore, Option.bind_some, getFrom_colon, Option.bind_some,
    findChar_skip hBlank hc, Option.bind_some, getFrom_byteLen, Option.bind_some]

/-- A number starts with a character that is no white space. -/
theorem StartsWithNumber.head {k : Nat} {value : Str} (h : StartsWithNumber k value) :
    ∃ c s, value = c :: s ∧ isWhitespace c = false := by
  cases h with
  | quoted digits rest => exact ⟨'"', _, rfl, by decide⟩
  | bare digits rest hDigits =>
    cases digits with
    | nil => cases (parseU64_nil.symm.trans hDigits)
    | cons c digits =>
      have hc := (not_end_of_parseU64 hDigits c (.head _)).1
      exact ⟨c, _, rfl, (Bool.or_eq_false_iff.mp hc).2⟩

/-- **What is read after a name, by the text alone.** -/
theorem readAfterKeyU64_iff {text : Str} {k : Nat} :
    GatewayEvent.readAfterKeyU64 text = some k ↔ NumberFollows text k := by
  constructor
  · intro h
    simp only [GatewayEvent.readAfterKeyU64, Option.bind_eq_bind, Option.bind_eq_some_iff] at h
    obtain ⟨colonPos, hColon, rest, hRest, skip, hSkip, value, hValue, hRead⟩ := h
    obtain ⟨before, c, after, rfl, hc, hBefore, rfl⟩ := findChar_eq_some hColon
    obtain rfl : c = ':' := by simpa using hc
    obtain rfl : after = rest := Option.some.inj ((getFrom_colon before after).symm.trans hRest)
    obtain ⟨blank, c, s, rfl, -, hBlank, rfl⟩ := findChar_eq_some hSkip
    obtain rfl : c :: s = value :=
      Option.some.inj ((getFrom_byteLen blank (c :: s)).symm.trans hValue)
    exact ⟨before, blank, c :: s, rfl, fun hMem => absurd (hBefore _ hMem) (by decide),
      fun x hx => by simpa using hBlank x hx, readValueU64_iff.mp hRead⟩
  · rintro ⟨before, blank, value, rfl, hBefore, hBlank, hNumber⟩
    obtain ⟨c, s, rfl, hc⟩ := hNumber.head
    rw [readAfterKeyU64_colon hBefore hBlank hc, readValueU64_iff.mpr hNumber]

/-- **After the name of a member its value is read.** -/
theorem readAfterKeyU64_member (layout : Layout) (value : Value) {following : List Token}
    (hEnds : EndsValue following) :
    GatewayEvent.readAfterKeyU64 (render (Mention.own layout value following).rest) =
      plainNumber value := by
  obtain ⟨⟨c, s, hValue, hFirst⟩, hRead⟩ := readValueU64_value value hEnds
  have hColon : ':' ∉ layout.afterName.text := by
    intro hMem
    cases List.all_eq_true.mp layout.afterName.blank ':' hMem
  have hSpace : ∀ x ∈ layout.beforeValue.text, isWhitespace x = true := fun x hx =>
    isWhitespace_of_isBlank (List.all_eq_true.mp layout.beforeValue.blank x hx)
  have hText : render (Mention.own layout value following).rest =
      layout.afterName.text ++ ':' :: (layout.beforeValue.text ++
        (render value.tokens ++ render following)) := by
    rw [Mention.rest, render_append, Blank.render_tokens, render_cons, render_append,
      Blank.render_tokens, render_append]
    rfl
  rw [hValue, List.cons_append] at hText hRead
  rw [hText, readAfterKeyU64_colon hColon hSpace hFirst, hRead]

end Reading

-- ---------------------------------------------------------------------------
-- The search in the text
-- ---------------------------------------------------------------------------

namespace Dispatch

variable {p : Dispatch}

theorem separated_close (p : Dispatch) : Delimited p.close ∧ Separated p.close := by
  refine ⟨rfl, ?_⟩
  have hFinish : Separated (p.finish.tokens ++ []) := p.finish.separated trivial
  rw [List.append_nil] at hFinish
  exact p.layout.after.separated (p.tail.separated_separator (p.tail.separated rfl hFinish))

theorem endsValue_close (p : Dispatch) : EndsValue p.close := ⟨'\x7d', _, rfl, .inr (.inr rfl)⟩

/-- Every string of the payload is followed by a delimiter. -/
theorem separated_tokens (p : Dispatch) : Separated p.tokens := by
  obtain ⟨hDelimited, hClose⟩ := p.separated_close
  have hData : Separated (p.data.tokens ++ p.close) := p.data.separated hDelimited hClose
  have hAfterName : Delimited p.afterName ∧ Separated p.afterName :=
    ⟨p.layout.afterName.delimited rfl,
      p.layout.afterName.separated (p.layout.beforeValue.separated (p.inner.separated hData))⟩
  have hName : Separated (p.layout.before.tokens ++ .string p.name :: p.afterName) :=
    p.layout.before.separated hAfterName
  have hHead := p.head.separated_separator hName
  cases hMembers : p.head with
  | nil =>
    rw [tokens, hMembers]
    exact p.start.separated hName
  | cons layout name value rest =>
    rw [hMembers] at hHead
    have hAll : Separated ((Members.cons layout name value rest).tokens ++ comma ::
        (p.layout.before.tokens ++ .string p.name :: p.afterName)) :=
      Members.separated _ rfl hHead
    rw [tokens, hMembers]
    exact p.start.separated hAll

/-- What is searched is what follows the name of the data, if that is found. -/
theorem searched_of_dataFound (h : p.DataFound) : p.searched = some p.afterName := by
  obtain ⟨rest, hRest, hLength⟩ := Option.map_eq_some_iff.mp h
  have hSuffix : rest <:+ p.tokens := afterMention_suffix hRest
  have hAfterName : p.afterName <:+ p.tokens := by
    refine ⟨p.start.tokens ++ openBrace :: (p.head.tokens ++ (p.head.separator ++
      (p.layout.before.tokens ++ [.string p.name]))), ?_⟩
    simp [tokens]
  have hPrefix := List.suffix_of_suffix_length_le hSuffix hAfterName (Nat.le_of_eq hLength)
  rw [hRest, hPrefix.eq_of_length hLength]

/-- The first mention is where the search lands. -/
theorem searched_bind_afterMention (p : Dispatch) (n : Str) :
    p.searched.bind (afterMention n []) = (p.firstMention n).map Mention.rest := by
  rw [firstMention]
  split
  · rename_i hFound
    rw [searched_of_dataFound hFound, Option.bind_some, ← Members.afterMention_tokens, afterName,
      afterMention_blank]
    show afterMention n [] (p.layout.beforeValue.tokens ++ openBrace :: _) = _
    rw [afterMention_blank]
    show afterMention n [] (p.inner.tokens ++ _) = _
    rw [afterMention_blank]
  · rw [Option.map_map]
    exact Option.map_id'.symm

/-- What is read after the first mention is the number that stands there. -/
theorem readAfterKeyU64_firstMention {n : Str} {mention : Mention} {k : Nat}
    (h : p.firstMention n = some mention) :
    GatewayEvent.readAfterKeyU64 (render mention.rest) = some k ↔ MentionNumber k mention := by
  cases mention with
  | foreign following => exact readAfterKeyU64_iff
  | own layout value following =>
    rw [firstMention] at h
    split at h
    · rw [readAfterKeyU64_member layout value
        (Members.endsValue_of_firstMention p.endsValue_close h)]
      rfl
    · obtain ⟨_, -, hEq⟩ := Option.map_eq_some_iff.mp h
      cases hEq

/-- **The search reads the number after the first mention of the name.** -/
theorem findDataFieldU64_text (p : Dispatch) {n : Str} (hn : isName n = true) (hd : n ≠ dName) :
    GatewayEvent.findDataFieldU64 p.text n = (p.firstMention n).bind fun mention =>
      GatewayEvent.readAfterKeyU64 (render mention.rest) := by
  have hSearch : seek (pattern dName ":".toList) p.text =
      p.searched.map fun rest => pattern dName (render rest) :=
    seek_render _ (by decide) p.separated_tokens
  have hKey : ∀ rest, p.searched = some rest →
      (seek (pattern n []) (pattern dName (render rest))).map (List.drop (pattern n []).length) =
        (afterMention n [] rest).map render := by
    intro rest hRest
    have hSeparated : Separated (.string (.ofText dName rfl) :: rest) :=
      separated_of_afterMention p.separated_tokens hRest
    have hFind := seek_render [] hn hSeparated
    have hName : (Literal.ofText dName rfl).mentions n = false := by
      have hText : (Literal.ofText dName rfl).text = dName := Literal.text_ofText ..
      rw [Literal.mentions, hText, beq_eq_false_iff_ne.mpr (Ne.symm hd)]
      rfl
    rw [afterMention, hName, Bool.false_and, if_neg Bool.false_ne_true] at hFind
    have hText : render (.string (.ofText dName rfl) :: rest) =
        pattern dName (render rest) := rfl
    rw [hText] at hFind
    rw [hFind, Option.map_map]
    congr 1
    funext following
    exact drop_pattern n (render following)
  have hSlice : (find "\"d\":".toList p.text).bind (getFrom p.text) =
      p.searched.map fun rest => pattern dName (render rest) := hSearch
  unfold GatewayEvent.findDataFieldU64
  simp only [Option.bind_eq_bind]
  rw [← Option.bind_assoc, hSlice]
  cases hRest : p.searched with
  | none =>
    have hNone := searched_bind_afterMention p n
    rw [hRest, Option.bind_none, eq_comm, Option.map_eq_none_iff] at hNone
    rw [hNone]
    rfl
  | some rest =>
    have hMention := searched_bind_afterMention p n
    rw [hRest, Option.bind_some] at hMention
    rw [Option.map_some, Option.bind_some, ← Option.bind_assoc]
    show ((find (pattern n []) _).bind fun keyStart => getFrom _ (keyStart +
      byteLen (pattern n []))).bind _ = _
    rw [find_bind_getFrom, hKey rest hRest, hMention, Option.map_map]
    cases p.firstMention n <;> rfl

/-- The search in the data finds the number that the first mention points to. -/
theorem findDataFieldU64_iff (p : Dispatch) {n : Str} (hn : isName n = true) (hd : n ≠ dName)
    {k : Nat} : GatewayEvent.findDataFieldU64 p.text n = some k ↔ p.PointsTo n k := by
  rw [p.findDataFieldU64_text hn hd, Option.bind_eq_some_iff]
  constructor
  · rintro ⟨mention, hMention, hRead⟩
    exact ⟨mention, hMention, (readAfterKeyU64_firstMention hMention).mp hRead⟩
  · rintro ⟨mention, hMention, hNumber⟩
    exact ⟨mention, hMention, (readAfterKeyU64_firstMention hMention).mpr hNumber⟩

/-- The event type that is found is the one written in the text. -/
theorem findEventType_iff (p : Dispatch) (name : Str) :
    (∃ info, GatewayEvent.findEventType p.text = some info ∧ info.name = name) ↔
      p.TypeWritten name := by
  have hSeek : seek "\"t\":".toList p.text =
      (afterMention "t".toList ":".toList p.tokens).map fun rest =>
        pattern "t".toList (render rest) :=
    seek_render (n := "t".toList) ":".toList (by decide) p.separated_tokens
  rw [GatewayEvent.findEventType_name_iff, hSeek, Option.map_map]
  constructor
  · rintro ⟨blank, after, hText, hBlank, hName⟩
    obtain ⟨rest, hRest, hDrop⟩ := Option.map_eq_some_iff.mp hText
    refine ⟨rest, blank, after, hRest, ?_, hBlank, hName⟩
    rw [colon_of_afterMention hRest]
    exact congrArg (':' :: ·) hDrop
  · rintro ⟨rest, blank, after, hRest, hText, hBlank, hName⟩
    refine ⟨blank, after, ?_, hBlank, hName⟩
    rw [hRest, Option.map_some]
    show some ((render rest).drop 1) = _
    rw [hText]
    rfl

theorem isGuildLifecycle_iff {name : Str} :
    GatewayEvent.isGuildLifecycle name = true ↔
      name = "GUILD_CREATE".toList ∨ name = "GUILD_DELETE".toList ∨
        name = "GUILD_UPDATE".toList := by
  rw [GatewayEvent.isGuildLifecycle, List.contains_iff_mem]
  simp only [List.mem_cons, List.not_mem_nil, or_false]

theorem lifecycleWritten_iff (p : Dispatch) :
    p.LifecycleWritten ↔ ∃ info, GatewayEvent.findEventType p.text = some info ∧
      GatewayEvent.isGuildLifecycle info.name = true := by
  simp only [LifecycleWritten, ← findEventType_iff, isGuildLifecycle_iff]
  constructor
  · rintro (⟨info, hInfo, hName⟩ | ⟨info, hInfo, hName⟩ | ⟨info, hInfo, hName⟩)
    · exact ⟨info, hInfo, .inl hName⟩
    · exact ⟨info, hInfo, .inr (.inl hName)⟩
    · exact ⟨info, hInfo, .inr (.inr hName)⟩
  · rintro ⟨info, hInfo, hName | hName | hName⟩
    · exact .inl ⟨info, hInfo, hName⟩
    · exact .inr (.inl ⟨info, hInfo, hName⟩)
    · exact .inr (.inr ⟨info, hInfo, hName⟩)

/-- **The guild that is found**, by the text alone. -/
theorem findGuildId_iff (p : Dispatch) {k : Nat} :
    GatewayEvent.findGuildId p.text (GatewayEvent.findEventType p.text) = some k ↔
      p.PointsTo guildIdName k ∨
        (∀ j, ¬ p.PointsTo guildIdName j) ∧ p.LifecycleWritten ∧ p.PointsTo idName k := by
  have hGuildId : ∀ j, GatewayEvent.findDataFieldU64 p.text "guild_id".toList = some j ↔
      p.PointsTo guildIdName j := fun j => p.findDataFieldU64_iff (by decide) (by decide)
  have hId : GatewayEvent.findDataFieldU64 p.text "id".toList = some k ↔ p.PointsTo idName k :=
    p.findDataFieldU64_iff (by decide) (by decide)
  rw [lifecycleWritten_iff, ← hId, ← hGuildId k]
  simp only [← hGuildId]
  unfold GatewayEvent.findGuildId
  cases GatewayEvent.findDataFieldU64 p.text "guild_id".toList with
  | some j => simp
  | none =>
    cases GatewayEvent.findEventType p.text with
    | none => simp
    | some info =>
      dsimp only
      cases hType : GatewayEvent.isGuildLifecycle info.name with
      | false => simp [hType]
      | true => simp [hType]

/-- The scan succeeds when an opcode stands where it is looked for. -/
theorem opcodeWritten_iff (p : Dispatch) :
    (∃ op, GatewayEvent.findOpcode p.text = some op) ↔ p.OpcodeWritten := by
  have hSeek : seek "\"op\":".toList p.text =
      (afterMention opName ":".toList p.tokens).map fun rest => pattern opName (render rest) :=
    seek_render (n := opName) ":".toList (by decide) p.separated_tokens
  have hFst := GatewayEvent.findInteger_fst u8Bound p.text "\"op\":".toList
  rw [hSeek, Option.map_map] at hFst
  have hFound : (∃ op, GatewayEvent.findOpcode p.text = some op) ↔
      ∃ n, (GatewayEvent.findInteger u8Bound p.text "\"op\":".toList).map Prod.fst = some n := by
    rw [GatewayEvent.findOpcode]
    cases GatewayEvent.findInteger u8Bound p.text "\"op\":".toList <;> simp
  rw [hFound, hFst]
  constructor
  · rintro ⟨n, hNumber⟩
    obtain ⟨following, hMap, hLeading⟩ := Option.bind_eq_some_iff.mp hNumber
    obtain ⟨rest, hRest, rfl⟩ := Option.map_eq_some_iff.mp hMap
    refine ⟨rest, n, hRest, ?_⟩
    rw [colon_of_afterMention hRest]
    exact leadingNumber_iff.mp hLeading
  · rintro ⟨rest, n, hRest, hNumber⟩
    rw [colon_of_afterMention hRest] at hNumber
    refine ⟨n, ?_⟩
    rw [hRest]
    exact leadingNumber_iff.mpr hNumber

-- ---------------------------------------------------------------------------
-- Own members
-- ---------------------------------------------------------------------------

/-- A number that is read plainly is what the value stands for. -/
theorem snowflake_of_plainNumber {value : Value} {k : Nat} (h : plainNumber value = some k) :
    snowflake value = some k := by
  cases value with
  | string l =>
    rw [plainNumber] at h
    split at h
    · rename_i hPlain
      rw [snowflake, Literal.decode_of_isPlain hPlain]
      exact h
    · cases h
  | scalar s => exact h
  | array blank elems => cases h
  | object blank members => cases h

/-- An own mention is the one own member of that name. -/
theorem own_of_firstMention {n : Str} {layout : Layout} {value : Value} {following : List Token}
    {k : Nat} (hn : isName n = true) (hUnique : (p.data.named n).length ≤ 1)
    (hMention : p.firstMention n = some (.own layout value following))
    (hNumber : plainNumber value = some k) : p.own n = some k := by
  have hMem : value ∈ p.data.named n := by
    rw [firstMention] at hMention
    split at hMention
    · exact Members.named_of_firstMention hn hMention
    · obtain ⟨_, -, hEq⟩ := Option.map_eq_some_iff.mp hMention
      cases hEq
  rw [own]
  cases hNamed : p.data.named n with
  | nil =>
    rw [hNamed] at hMem
    cases hMem
  | cons first rest =>
    rw [hNamed] at hMem hUnique
    obtain rfl : rest = [] := List.eq_nil_of_length_eq_zero (by
      rw [List.length_cons] at hUnique
      omega)
    rw [List.mem_singleton.mp hMem] at hNumber
    exact snowflake_of_plainNumber hNumber

/-- The number of the own `id` is the guild when there is no `guild_id` and the
event is about a guild. -/
theorem guildId_eq_some_iff {k : Nat} (hId : p.own idName = some k) :
    p.guildId = some k ↔
      p.own guildIdName = none ∧ p.isLifecycle = true ∨ p.own guildIdName = some k := by
  rw [guildId, hId]
  cases p.own guildIdName with
  | some j => simp
  | none => cases p.isLifecycle <;> simp

/-- A dispatch whose guild is found is one of the five kinds. -/
theorem attributed_of_eq
    (h : GatewayEvent.findGuildId p.text (GatewayEvent.findEventType p.text) = p.guildId) :
    p.Attributed := by
  by_cases hPoints : ∃ k, p.PointsTo guildIdName k
  · obtain ⟨k, hk⟩ := hPoints
    have hSame : p.guildId = some k := h.symm.trans (p.findGuildId_iff.mpr (.inl hk))
    obtain ⟨mention, hMention, hNumber⟩ := hk
    cases mention with
    | own layout value following => exact .ownGuildId layout value following k hMention hNumber
    | foreign following => exact .foreignGuildId following k hMention hNumber hSame
  · have hNone : ∀ j, ¬ p.PointsTo guildIdName j := fun j hj => hPoints ⟨j, hj⟩
    by_cases hId : p.LifecycleWritten ∧ ∃ k, p.PointsTo idName k
    · obtain ⟨hType, k, hk⟩ := hId
      have hSame : p.guildId = some k :=
        h.symm.trans (p.findGuildId_iff.mpr (.inr ⟨hNone, hType, hk⟩))
      obtain ⟨mention, hMention, hNumber⟩ := hk
      cases mention with
      | own layout value following =>
        have hOwn := own_of_firstMention (by decide) p.id_unique hMention hNumber
        exact .ownId layout value following k hNone hType hMention hNumber
          ((guildId_eq_some_iff hOwn).mp hSame)
      | foreign following => exact .foreignId following k hNone hType hMention hNumber hSame
    · refine .nothing hNone (fun hType j hj => hId ⟨hType, j, hj⟩) ?_
      rw [← h, Option.eq_none_iff_forall_ne_some]
      intro k hFound
      rcases p.findGuildId_iff.mp hFound with hk | ⟨-, hType, hk⟩
      · exact hNone k hk
      · exact hId ⟨hType, k, hk⟩

/-- In each of the five kinds the guild is found. -/
theorem eq_of_attributed (h : p.Attributed) :
    GatewayEvent.findGuildId p.text (GatewayEvent.findEventType p.text) = p.guildId := by
  cases h with
  | ownGuildId layout value following k hMention hNumber =>
    have hOwn := own_of_firstMention (by decide) p.guildId_unique hMention hNumber
    rw [p.findGuildId_iff.mpr (.inl ⟨_, hMention, hNumber⟩), guildId, hOwn]
    rfl
  | foreignGuildId following k hMention hNumber hSame =>
    rw [p.findGuildId_iff.mpr (.inl ⟨_, hMention, hNumber⟩), hSame]
  | ownId layout value following k hNone hType hMention hNumber hGuild =>
    have hOwn := own_of_firstMention (by decide) p.id_unique hMention hNumber
    rw [p.findGuildId_iff.mpr (.inr ⟨hNone, hType, _, hMention, hNumber⟩),
      (guildId_eq_some_iff hOwn).mpr hGuild]
  | foreignId following k hNone hType hMention hNumber hSame =>
    rw [p.findGuildId_iff.mpr (.inr ⟨hNone, hType, _, hMention, hNumber⟩), hSame]
  | nothing hNone hId hSame =>
    rw [hSame, Option.eq_none_iff_forall_ne_some]
    intro k hFound
    rcases p.findGuildId_iff.mp hFound with hk | ⟨-, hType, hk⟩
    · exact hNone k hk
    · exact hId hType k hk

/-- **When an event is attributed to its guild.** For every dispatch, whatever the
layout, the members around its data, their order and nesting and the contents of
its strings: the scan succeeds and gives the guild of the dispatch if and only if
an opcode stands right after the first `"op":` of the text, and the first mention
of `guild_id` in the data or behind it is the name of the own member with its
number spelled plainly, or the number written after another first mention is the
same, or, where no number is written there, that holds of `id` for an event about
a guild, or there is no guild and no number is written. -/
theorem guild_attribution_iff (p : Dispatch) :
    (∃ event, GatewayEvent.fromJson p.text = some event ∧ event.guildId = p.guildId) ↔
      p.OpcodeWritten ∧ p.Attributed := by
  rw [← opcodeWritten_iff]
  constructor
  · rintro ⟨event, hEvent, hGuild⟩
    simp only [GatewayEvent.fromJson, Option.bind_eq_bind, Option.bind_eq_some_iff,
      Option.pure_def, Option.some.injEq] at hEvent
    obtain ⟨op, hOp, rfl⟩ := hEvent
    exact ⟨⟨op, hOp⟩, attributed_of_eq hGuild⟩
  · rintro ⟨⟨op, hOp⟩, hAttributed⟩
    exact ⟨_, GatewayEvent.fromJson_of_findOpcode hOp, eq_of_attributed hAttributed⟩

namespace Sample

def d : Literal := .ofText dName rfl

def head : Members :=
  .cons .tight (.ofText "t".toList rfl) (.string (.ofText "MESSAGE_CREATE".toList rfl))
    (.cons .tight (.ofText "s".toList rfl) (.scalar ⟨"1".toList, by decide, rfl⟩)
      (.cons .tight (.ofText "op".toList rfl) (.scalar ⟨"0".toList, by decide, rfl⟩)
        .nil))

/-- A message whose text is the word `guild_id`. -/
def data : Members :=
  .cons .tight (.ofText "content".toList rfl) (.string (.ofText guildIdName rfl))
    (.cons .tight (.ofText idName rfl) (.string (.ofText "5".toList rfl))
      (.cons .tight (.ofText guildIdName rfl) (.string (.ofText "7".toList rfl))
        .nil))

def message : Dispatch where
  start := .none
  head := head
  layout := .tight
  name := d
  name_eq := by decide +kernel
  inner := .none
  data := data
  tail := .nil
  finish := .none
  guildId_unique := by decide +kernel
  id_unique := by decide +kernel

end Sample

/-- A message of guild 7 with the id 5, whose text is the word `guild_id`, is
attributed to a guild 5. -/
theorem guild_attribution_fails :
    Sample.message.text =
        "\x7b\"t\":\"MESSAGE_CREATE\",\"s\":1,\"op\":0,\"d\":\x7b\"content\":\"guild_id\",\"id\":\"5\",\"guild_id\":\"7\"\x7d\x7d".toList ∧
      (GatewayEvent.fromJson Sample.message.text).map GatewayEvent.guildId = some (some 5) ∧
      Sample.message.guildId = some 7 :=
  ⟨by decide +kernel, by decide +kernel, by decide +kernel⟩

end Dispatch

end GatewayProxy
