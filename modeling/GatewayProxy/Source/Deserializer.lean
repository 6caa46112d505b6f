import GatewayProxy.Lib.Utf8
import Mathlib.Data.Option.Basic

/-!
# Scanning a gateway payload

`deserializer.rs`. `GatewayEvent.fromJson` reads five things out of a JSON
text without parsing it: each is found by searching the text for a quoted
name and reading what follows. The range of the sequence number is kept, so
that it can be replaced in place later.
-/

namespace GatewayProxy

open Utf8

structure OpInfo where
  op : Nat
  range : Range
  deriving DecidableEq

structure EventTypeInfo where
  name : Str
  range : Range
  deriving DecidableEq

structure SequenceInfo where
  sequence : Nat
  range : Range
  deriving DecidableEq

structure GatewayEvent where
  eventType : Option EventTypeInfo
  op : OpInfo
  sequence : Option SequenceInfo
  guildId : Option Nat
  channelId : Option Nat
  deriving DecidableEq

namespace GatewayEvent

/-- The byte at the offset is the ASCII character `c`. No byte of a longer
character equals it, so the offset is then a boundary. -/
def byteIs (input : Str) (offset : Nat) (c : Char) : Bool :=
  (getFrom input offset).bind List.head? == some c

def findEventType (input : Str) : Option EventTypeInfo := do
  let key := "\"t\":".toList
  let fromPos := (← find key input) + 4
  let start := (← findChar (!isWhitespace ·) (← getFrom input fromPos)) + fromPos + 1
  -- a value that is no string means that there is no event type
  guard (byteIs input (start - 1) '"')
  let toPos ← findChar (· == '"') (← getFrom input start)
  let range : Range := ⟨start, start + toPos⟩
  let eventType ← getRange input range
  return ⟨eventType, range⟩

/-- `T::from_str` for the unsigned type with values below `bound`. -/
def findInteger (bound : Nat) (input key : Str) : Option (Nat × Range) := do
  let fromPos := (← find key input) + byteLen key
  let toPos ← findChar (fun c => c == ',' || c == '}') (← getFrom input fromPos)
  let range : Range := ⟨fromPos, fromPos + toPos⟩
  let clean ← getRange input range
  let int ← parseUnsigned bound clean
  return (int, range)

def findOpcode (input : Str) : Option OpInfo :=
  (findInteger u8Bound input "\"op\":".toList).map fun p => ⟨p.1, p.2⟩

def findSequence (input : Str) : Option SequenceInfo :=
  (findInteger u64Bound input "\"s\":".toList).map fun p => ⟨p.1, p.2⟩

/-- The number that starts a value: a quoted number or a bare one. -/
def readValueU64 (value : Str) : Option Nat :=
  match value.head? with
  | none => none
  | some '"' => do
    let valueEnd := (← findChar (· == '"') (← getFrom value 1)) + 1
    parseU64 (← getRange value ⟨1, valueEnd⟩)
  | some 'n' => none
  | some _ => do
    let valueEnd := (findChar (fun c => c == ',' || c == '}' || isWhitespace c) value).getD
      (byteLen value)
    parseU64 (← getTo value valueEnd)

/-- What follows a name in the text: a colon, whitespace and the value. -/
def readAfterKeyU64 (afterKey : Str) : Option Nat := do
  let colonPos ← findChar (· == ':') afterKey
  let afterColon ← getFrom afterKey (colonPos + 1)
  let wsOffset ← findChar (!isWhitespace ·) afterColon
  readValueU64 (← getFrom afterColon wsOffset)

/-- The name of a field in quotes. -/
def quoted (field : Str) : Str := '"' :: field ++ ['"']

def findDataFieldU64 (input field : Str) : Option Nat := do
  let dataStart ← find "\"d\":".toList input
  let dataSlice ← getFrom input dataStart
  let key := quoted field
  let keyStart ← find key dataSlice
  readAfterKeyU64 (← getFrom dataSlice (keyStart + byteLen key))

/-- Events whose `d.id` is the guild. -/
def isGuildLifecycle (eventName : Str) : Bool :=
  ["GUILD_CREATE".toList, "GUILD_DELETE".toList, "GUILD_UPDATE".toList].contains eventName

def findGuildId (input : Str) (eventType : Option EventTypeInfo) : Option Nat :=
  match findDataFieldU64 input "guild_id".toList with
  | some guildId => some guildId
  | none => match eventType with
    | none => none
    | some info =>
      if isGuildLifecycle info.name then findDataFieldU64 input "id".toList else none

/-- Events whose `d.id` is the channel. -/
def isChannelLifecycle (eventName : Str) : Bool :=
  ["CHANNEL_CREATE".toList, "CHANNEL_UPDATE".toList, "CHANNEL_DELETE".toList,
    "THREAD_CREATE".toList, "THREAD_UPDATE".toList, "THREAD_DELETE".toList].contains eventName

def findChannelId (input : Str) (eventType : Option EventTypeInfo) : Option Nat :=
  match findDataFieldU64 input "channel_id".toList with
  | some channelId => some channelId
  | none => match eventType with
    | none => none
    | some info =>
      if isChannelLifecycle info.name then findDataFieldU64 input "id".toList else none

def fromJson (input : Str) : Option GatewayEvent := do
  let op ← findOpcode input
  let eventType := findEventType input
  let sequence := findSequence input
  let guildId := findGuildId input eventType
  let channelId := findChannelId input eventType
  return ⟨eventType, op, sequence, guildId, channelId⟩

-- ---------------------------------------------------------------------------
-- The range of the sequence number
-- ---------------------------------------------------------------------------

theorem findInteger_range {bound : Nat} {input key : Str} {n : Nat} {range : Range}
    (h : findInteger bound input key = some (n, range)) :
    ∃ clean, getRange input range = some clean ∧ parseUnsigned bound clean = some n := by
  simp only [findInteger, Option.bind_eq_bind, Option.bind_eq_some_iff, Option.pure_def,
    Option.some.injEq, Prod.mk.injEq] at h
  obtain ⟨_, _, _, _, _, _, clean, hClean, int, hInt, rfl, rfl⟩ := h
  exact ⟨clean, hClean, hInt⟩

/-- The number up to the next comma or brace. -/
def leadingNumber (bound : Nat) (s : Str) : Option Nat := do
  let toPos ← findChar (fun c => c == ',' || c == '}') s
  parseUnsigned bound (← getTo s toPos)

theorem leadingNumber_append {bound : Nat} {a : Str} {c : Char} {b : Str}
    (hBefore : ∀ x ∈ a, (x == ',' || x == '}') = false) (hc : (c == ',' || c == '}') = true) :
    leadingNumber bound (a ++ c :: b) = parseUnsigned bound a := by
  rw [leadingNumber, findChar_append hBefore hc]
  show (getTo (a ++ c :: b) (byteLen a)).bind _ = _
  rw [getTo_byteLen, Option.bind_some]

/-- The number that is found is the one after the first occurrence of the key. -/
theorem findInteger_fst (bound : Nat) (input key : Str) :
    (findInteger bound input key).map Prod.fst =
      ((seek key input).map (List.drop key.length)).bind (leadingNumber bound) := by
  rw [← find_bind_getFrom, findInteger]
  simp only [Option.bind_eq_bind, Option.pure_def]
  cases find key input with
  | none => rfl
  | some keyPos =>
    rw [Option.bind_some, Option.bind_some]
    cases hRest : getFrom input (keyPos + byteLen key) with
    | none => rfl
    | some rest =>
      rw [Option.bind_some, Option.bind_some, leadingNumber]
      simp only [Option.bind_eq_bind]
      cases findChar (fun c => c == ',' || c == '}') rest with
      | none => rfl
      | some toPos =>
        rw [Option.bind_some, Option.bind_some, getRange, if_pos (Nat.le_add_right _ _), hRest,
          Option.bind_some, Nat.add_sub_cancel_left]
        cases getTo rest toPos with
        | none => rfl
        | some clean =>
          rw [Option.bind_some, Option.bind_some]
          cases parseUnsigned bound clean <;> rfl

/-- The search reads a number after the first occurrence of the key. -/
theorem findInteger_of_firstSplit {bound : Nat} {key a b : Str} {m : Nat} {c : Char}
    (hSplit : FirstSplit key (a ++ (key ++ (formatNat m ++ c :: b))) a (formatNat m ++ c :: b))
    (hc : (c == ',' || c == '}') = true) (hm : m < bound) :
    findInteger bound (a ++ (key ++ (formatNat m ++ c :: b))) key =
      some (m, ⟨byteLen (a ++ key), byteLen (a ++ key) + byteLen (formatNat m)⟩) := by
  have hDigits : ∀ x ∈ formatNat m, (x == ',' || x == '}') = false := by
    intro x hx
    have hDigit := isDigit_of_mem_formatNat hx
    rw [Bool.or_eq_false_iff, beq_eq_false_iff_ne, beq_eq_false_iff_ne]
    constructor <;> rintro rfl <;> simp at hDigit
  have hRange := getRange_append (a ++ key) (formatNat m) (c :: b)
  rw [findInteger, find_of_firstSplit hSplit]
  simp only [Option.bind_eq_bind, Option.bind_some, Option.pure_def]
  rw [← byteLen_append, ← List.append_assoc, getFrom_byteLen, Option.bind_some,
    findChar_append hDigits hc, Option.bind_some, ← List.append_assoc, hRange,
    Option.bind_some, parseUnsigned_formatNat hm]
  rfl

/-- Writing another number over the one that was found: the search finds the
new number, in the same place. -/
theorem findInteger_rewrite {bound : Nat} {input key : Str} {n : Nat} {range : Range}
    (h : findInteger bound input key = some (n, range)) {m : Nat} (hm : m < bound) :
    ∃ text, replaceRange input range (formatNat m) = some text ∧
      (findInteger bound text key).map Prod.fst = some m := by
  simp only [findInteger, Option.bind_eq_bind, Option.bind_eq_some_iff, Option.pure_def,
    Option.some.injEq, Prod.mk.injEq] at h
  obtain ⟨keyPos, hKey, rest, hRest, toPos, hTo, clean, hClean, int, hInt, rfl, rfl⟩ := h
  obtain ⟨a, after, hSplit, rfl⟩ := find_eq_some hKey
  obtain rfl : input = a ++ (key ++ after) := hSplit.eq
  rw [← byteLen_append, ← List.append_assoc, getFrom_byteLen, Option.some.injEq] at hRest
  obtain rfl : after = rest := hRest
  obtain ⟨number, c, b, rfl, hc, hNumber, rfl⟩ := findChar_eq_some hTo
  have hNew : FirstSplit key (a ++ (key ++ (formatNat m ++ c :: b))) a (formatNat m ++ c :: b) :=
    hSplit.replace_tail _
  refine ⟨a ++ (key ++ (formatNat m ++ c :: b)), ?_, ?_⟩
  · have hReplace := replaceRange_append (a ++ key) number (c :: b) (formatNat m)
    rw [byteLen_append] at hReplace
    rw [show a ++ (key ++ (number ++ c :: b)) = a ++ key ++ number ++ c :: b by
      simp only [List.append_assoc], hReplace]
    simp only [List.append_assoc]
  · rw [findInteger_of_firstSplit hNew hc hm, Option.map_some]

/-- The event type is the string after the first occurrence of its key. -/
theorem findEventType_of_firstSplit {key a blank name b : Str} (hKey : key = "\"t\":".toList)
    (hSplit : FirstSplit key (a ++ (key ++ (blank ++ '"' :: (name ++ '"' :: b)))) a
      (blank ++ '"' :: (name ++ '"' :: b)))
    (hBlank : ∀ c ∈ blank, isWhitespace c = true) (hName : '"' ∉ name) :
    findEventType (a ++ (key ++ (blank ++ '"' :: (name ++ '"' :: b)))) =
      some ⟨name, byteLen (a ++ (key ++ blank)) + 1,
        byteLen (a ++ (key ++ blank)) + 1 + byteLen name⟩ := by
  have hLength : byteLen key = 4 := by rw [hKey]; decide
  have hSkip : findChar (!isWhitespace ·) (blank ++ '"' :: (name ++ '"' :: b)) =
      some (byteLen blank) := findChar_skip hBlank (by decide) _
  have hTo : findChar (· == '"') (name ++ '"' :: b) = some (byteLen name) :=
    findChar_of_notMem hName b
  -- the offsets in the input, as lengths of what comes before
  have hValue : byteLen blank + (byteLen a + 4) = byteLen (a ++ (key ++ blank)) := by
    rw [byteLen_append, byteLen_append, hLength]
    omega
  have hOpen : byteLen (a ++ (key ++ blank)) + 1 = byteLen (a ++ (key ++ (blank ++ ['"']))) := by
    simp only [byteLen_append]
    rfl
  have hRest : getFrom (a ++ (key ++ (blank ++ '"' :: (name ++ '"' :: b)))) (byteLen a + 4) =
      some (blank ++ '"' :: (name ++ '"' :: b)) := by
    rw [← hLength, ← byteLen_append, ← List.append_assoc, getFrom_byteLen]
  have hQuote : byteIs (a ++ (key ++ (blank ++ '"' :: (name ++ '"' :: b))))
      (byteLen (a ++ (key ++ blank))) '"' = true := by
    have hFrom := getFrom_byteLen (a ++ (key ++ blank)) ('"' :: (name ++ '"' :: b))
    simp only [List.append_assoc] at hFrom
    rw [byteIs, hFrom]
    rfl
  have hText : getFrom (a ++ (key ++ (blank ++ '"' :: (name ++ '"' :: b))))
      (byteLen (a ++ (key ++ blank)) + 1) = some (name ++ '"' :: b) := by
    have hFrom := getFrom_byteLen (a ++ (key ++ (blank ++ ['"']))) (name ++ '"' :: b)
    rw [hOpen]
    simpa only [List.append_assoc, List.cons_append, List.nil_append] using hFrom
  have hRange : getRange (a ++ (key ++ (blank ++ '"' :: (name ++ '"' :: b))))
      ⟨byteLen (a ++ (key ++ blank)) + 1, byteLen (a ++ (key ++ blank)) + 1 + byteLen name⟩ =
        some name := by
    have hAppend := getRange_append (a ++ (key ++ (blank ++ ['"']))) name ('"' :: b)
    rw [← hOpen] at hAppend
    simpa only [List.append_assoc, List.cons_append, List.nil_append] using hAppend
  rw [findEventType, ← hKey, find_of_firstSplit hSplit]
  simp only [Option.bind_eq_bind, Option.bind_some, Option.pure_def, hRest, hSkip, hValue,
    Nat.add_sub_cancel, hQuote, guard, if_true, hText, hTo, hRange]

/-- Where an event type is found, it is a string that follows its key. -/
theorem firstSplit_of_findEventType {input : Str} {info : EventTypeInfo}
    (h : findEventType input = some info) :
    ∃ a blank after, FirstSplit "\"t\":".toList input a
        (blank ++ '"' :: (info.name ++ '"' :: after)) ∧
      (∀ c ∈ blank, isWhitespace c = true) ∧ '"' ∉ info.name := by
  obtain ⟨keyPos, hFind, h⟩ := Option.bind_eq_some_iff.mp h
  obtain ⟨rest, hRest, h⟩ := Option.bind_eq_some_iff.mp h
  obtain ⟨skip, hSkip, h⟩ := Option.bind_eq_some_iff.mp h
  obtain ⟨_, hQuote, h⟩ := Option.bind_eq_some_iff.mp h
  obtain ⟨text, hText, h⟩ := Option.bind_eq_some_iff.mp h
  obtain ⟨toPos, hTo, h⟩ := Option.bind_eq_some_iff.mp h
  obtain ⟨type, hRange, h⟩ := Option.bind_eq_some_iff.mp h
  obtain rfl := Option.some.inj h
  obtain ⟨a, b, hSplit, rfl⟩ := find_eq_some hFind
  obtain rfl := hSplit.eq
  -- offsets in what follows the key are offsets in the input
  have hFrom : ∀ c d : Str, getFrom (a ++ ("\"t\":".toList ++ (c ++ d)))
      (byteLen c + (byteLen a + 4)) = some d := by
    intro c d
    have hAt := getFrom_byteLen (a ++ ("\"t\":".toList ++ c)) d
    have hLength : byteLen "\"t\":".toList = 4 := by decide
    rw [byteLen_append, byteLen_append, ← Nat.add_assoc, Nat.add_comm, hLength] at hAt
    simpa only [List.append_assoc] using hAt
  obtain rfl : b = rest := Option.some.inj ((hFrom [] b).symm.trans (by simpa using hRest))
  rw [Nat.add_sub_cancel] at hQuote
  obtain ⟨blank, c, tail, rfl, hc, hBlank, rfl⟩ := findChar_eq_some hSkip
  obtain rfl : c = '"' := by
    by_contra hNe
    have hByte : byteIs (a ++ ("\"t\":".toList ++ (blank ++ c :: tail)))
        (byteLen blank + (byteLen a + 4)) '"' = false := by
      rw [byteIs, hFrom]
      simpa using hNe
    rw [hByte, guard, if_neg Bool.false_ne_true] at hQuote
    cases hQuote
  have hOpen : byteLen (blank ++ ['"']) + (byteLen a + 4) =
      byteLen blank + (byteLen a + 4) + 1 := by
    rw [byteLen_append]
    show byteLen blank + 1 + (byteLen a + 4) = _
    omega
  have hTail := hFrom (blank ++ ['"']) tail
  rw [hOpen, List.append_assoc, List.singleton_append] at hTail
  obtain rfl : tail = text := Option.some.inj (hTail.symm.trans hText)
  obtain ⟨found, c, after, rfl, hc, hFound, rfl⟩ := findChar_eq_some hTo
  obtain rfl : c = '"' := by simpa using hc
  have hType := getRange_append (a ++ ("\"t\":".toList ++ (blank ++ ['"']))) found ('"' :: after)
  have hStart : byteLen (a ++ ("\"t\":".toList ++ (blank ++ ['"']))) =
      byteLen blank + (byteLen a + 4) + 1 := by
    rw [← hOpen, byteLen_append, byteLen_append]
    show byteLen a + (4 + _) = _
    omega
  rw [hStart] at hType
  simp only [List.append_assoc, List.cons_append, List.nil_append] at hType
  obtain rfl : found = type := Option.some.inj (hType.symm.trans hRange)
  refine ⟨a, blank, after, hSplit, fun x hx => by simpa using hBlank x hx, fun hMem => ?_⟩
  exact absurd (hFound '"' hMem) (by decide)

/-- The name of the event type, by what follows the key. -/
theorem findEventType_name_iff (input name : Str) :
    (∃ info, findEventType input = some info ∧ info.name = name) ↔
      ∃ blank after, (seek "\"t\":".toList input).map (List.drop 4) =
          some (blank ++ '"' :: (name ++ '"' :: after)) ∧
        (∀ c ∈ blank, isWhitespace c = true) ∧ '"' ∉ name := by
  constructor
  · rintro ⟨info, hInfo, rfl⟩
    obtain ⟨a, blank, after, hSplit, hBlank, hName⟩ := firstSplit_of_findEventType hInfo
    exact ⟨blank, after, drop_seek_iff.mpr ⟨a, hSplit⟩, hBlank, hName⟩
  · rintro ⟨blank, after, hSeek, hBlank, hName⟩
    obtain ⟨a, hSplit⟩ := drop_seek_iff.mp hSeek
    obtain rfl := hSplit.eq
    exact ⟨_, findEventType_of_firstSplit rfl hSplit hBlank hName, rfl⟩

/-- A payload whose sequence number was overwritten carries the new number. -/
theorem findSequence_rewrite {input : Str} {info : SequenceInfo}
    (h : findSequence input = some info) {m : Nat} (hm : m < u64Bound) :
    ∃ text, replaceRange input info.range (formatNat m) = some text ∧
      (findSequence text).map SequenceInfo.sequence = some m := by
  obtain ⟨⟨n, range⟩, hInt, rfl⟩ := Option.map_eq_some_iff.mp h
  obtain ⟨text, hText, hFound⟩ := findInteger_rewrite hInt hm
  refine ⟨text, hText, ?_⟩
  rw [findSequence, Option.map_map]
  exact hFound

/-- The search in the data sees nothing of the text before it. -/
theorem findDataFieldU64_congr {a b : Str}
    (h : seek "\"d\":".toList a = seek "\"d\":".toList b) (field : Str) :
    findDataFieldU64 a field = findDataFieldU64 b field := by
  unfold findDataFieldU64
  simp only [Option.bind_eq_bind]
  rw [← Option.bind_assoc, ← Option.bind_assoc]
  show (seek "\"d\":".toList a).bind _ = (seek "\"d\":".toList b).bind _
  rw [h]

theorem findGuildId_congr {a b : Str} (h : seek "\"d\":".toList a = seek "\"d\":".toList b)
    {x y : Option EventTypeInfo} (hName : x.map EventTypeInfo.name = y.map EventTypeInfo.name) :
    findGuildId a x = findGuildId b y := by
  unfold findGuildId
  rw [findDataFieldU64_congr h, findDataFieldU64_congr h]
  rcases x with - | x <;> rcases y with - | y
  · rfl
  · cases hName
  · cases hName
  · have hSame : x.name = y.name := Option.some.inj hName
    dsimp only
    rw [hSame]

theorem findChannelId_congr {a b : Str} (h : seek "\"d\":".toList a = seek "\"d\":".toList b)
    {x y : Option EventTypeInfo} (hName : x.map EventTypeInfo.name = y.map EventTypeInfo.name) :
    findChannelId a x = findChannelId b y := by
  unfold findChannelId
  rw [findDataFieldU64_congr h, findDataFieldU64_congr h]
  rcases x with - | x <;> rcases y with - | y
  · rfl
  · cases hName
  · cases hName
  · have hSame : x.name = y.name := Option.some.inj hName
    dsimp only
    rw [hSame]

/-- What the scan returns, each part found by itself. -/
theorem fromJson_of_findOpcode {input : Str} {op : OpInfo} (h : findOpcode input = some op) :
    fromJson input = some ⟨findEventType input, op, findSequence input,
      findGuildId input (findEventType input), findChannelId input (findEventType input)⟩ := by
  rw [fromJson, h]
  rfl

theorem fromJson_sequence {input : Str} {event : GatewayEvent}
    (h : fromJson input = some event) : event.sequence = findSequence input := by
  simp only [fromJson, Option.bind_eq_bind, Option.bind_eq_some_iff, Option.pure_def,
    Option.some.injEq] at h
  obtain ⟨op, -, rfl⟩ := h
  rfl

/-- The scan of the sample payload: the guild and the channel of the message,
and the sequence number with its place. -/
example :
    fromJson
        "\x7b\"t\":\"MESSAGE_CREATE\",\"s\":1,\"op\":0,\"d\":\x7b\"id\":\"9\",\"channel_id\":\"154\",\"guild_id\":\"142\"\x7d\x7d".toList =
      some ⟨some ⟨"MESSAGE_CREATE".toList, ⟨6, 20⟩⟩, ⟨0, ⟨33, 34⟩⟩, some ⟨1, ⟨26, 27⟩⟩,
        some 142, some 154⟩ := by
  decide +kernel

end GatewayEvent

end GatewayProxy
