import GatewayProxy.Lib.JsonText
import GatewayProxy.Source.Deserializer

/-!
# The header of a payload and its sequence number

`forward_shard` writes its own sequence number over the one of the payload, at
the range that the scan of the payload found. Here stand the payloads that
Discord sends, compact objects whose `t`, `s` and `op` come in any order before
the data, and what the scan finds in them before and after the number is
replaced.

Main results:

* `findSequence_split`: for every text, the range of the sequence number is a
  part of the text on character boundaries, and the part reads as the number.
* `CompactPayload.fromJson_text`: the scan of a payload finds its header as it is.
* `CompactPayload.replaceRange_text`: replacing the number gives the same payload with
  the new number.
* `header_round_trip`: both together, with the scan of the result.
-/

namespace GatewayProxy

open Utf8 JsonText

-- ---------------------------------------------------------------------------
-- The range of the sequence number in any text
-- ---------------------------------------------------------------------------

/-- The range is a part of the text, so that anything can be written over it. -/
theorem findSequence_split {input : Str} {info : SequenceInfo}
    (h : GatewayEvent.findSequence input = some info) :
    ∃ a clean b, input = a ++ clean ++ b ∧ info.range = ⟨byteLen a, byteLen a + byteLen clean⟩ ∧
      parseU64 clean = some info.sequence ∧
      ∀ new, replaceRange input info.range new = some (a ++ new ++ b) := by
  obtain ⟨⟨n, range⟩, hInt, rfl⟩ := Option.map_eq_some_iff.mp h
  obtain ⟨clean, hClean, hParse⟩ := GatewayEvent.findInteger_range hInt
  obtain ⟨a, b, rfl, hStart, hStop⟩ := getRange_eq_some hClean
  obtain ⟨start, stop⟩ := range
  obtain rfl : byteLen a = start := hStart
  obtain rfl : byteLen a + byteLen clean = stop := hStop
  exact ⟨a, clean, b, rfl, rfl, hParse, fun new => replaceRange_append a clean b new⟩

-- ---------------------------------------------------------------------------
-- Payloads
-- ---------------------------------------------------------------------------

/-- The members before the data. -/
inductive HeaderField
  | eventType
  | sequence
  | op
  deriving DecidableEq

def HeaderField.name : HeaderField → Str
  | eventType => "t".toList
  | sequence => "s".toList
  | op => "op".toList

/-- The characters of event names. -/
def isEventChar (c : Char) : Bool := (0x41 ≤ c.toNat && c.toNat ≤ 0x5A) || c == '_'

/-- A payload of the gateway: an object with nothing between its tokens, whose
last member is the data. -/
structure CompactPayload where
  eventType : Str
  sequence : Nat
  op : Nat
  order : List HeaderField
  data : Value
  eventType_chars : eventType.all isEventChar = true
  sequence_lt : sequence < u64Bound
  op_lt : op < u8Bound
  order_perm : order.Perm [.eventType, .sequence, .op]

theorem isPlain_of_isEventChar {c : Char} (h : isEventChar c = true) : isPlain c = true := by
  have hBounds : 0x41 ≤ c.toNat ∧ c.toNat ≤ 0x5A ∨ c = '_' := by
    simpa only [isEventChar, Bool.or_eq_true, Bool.and_eq_true, decide_eq_true_eq, beq_iff_eq]
      using h
  simp only [isPlain, Bool.and_eq_true, decide_eq_true_eq]
  rcases hBounds with hLetter | rfl
  · refine ⟨⟨?_, ?_⟩, by omega⟩
    · rintro rfl
      exact absurd hLetter (by decide)
    · rintro rfl
      exact absurd hLetter (by decide)
  · decide

namespace CompactPayload

theorem eventType_plain (p : CompactPayload) : p.eventType.all isPlain = true := by
  rw [List.all_eq_true]
  intro c hc
  exact isPlain_of_isEventChar (List.all_eq_true.mp p.eventType_chars c hc)

theorem name_plain (f : HeaderField) : f.name.all isPlain = true := by
  cases f <;> decide

def value (p : CompactPayload) : HeaderField → List Token
  | .eventType => [.string (.ofText p.eventType p.eventType_plain)]
  | .sequence => (Scalar.ofNat p.sequence).tokens
  | .op => (Scalar.ofNat p.op).tokens

/-- A member of the header with the comma after it. -/
def member (p : CompactPayload) (f : HeaderField) : List Token :=
  .string (.ofText f.name (name_plain f)) :: colon :: (p.value f ++ [comma])

def dataTokens (p : CompactPayload) : List Token :=
  .string (.ofText "d".toList (by decide)) :: colon :: (p.data.tokens ++ [closeBrace])

def tokens (p : CompactPayload) : List Token :=
  openBrace :: (p.order.flatMap p.member ++ p.dataTokens)

def text (p : CompactPayload) : Str := render p.tokens

/-- The same payload with another sequence number. -/
def withSequence (p : CompactPayload) (n : Nat) (hn : n < u64Bound) : CompactPayload :=
  { p with sequence := n, sequence_lt := hn }

-- ---------------------------------------------------------------------------
-- The first mention of a name
-- ---------------------------------------------------------------------------

theorem separated_dataTokens (p : CompactPayload) : Separated p.dataTokens := by
  have hData : Separated (p.data.tokens ++ [closeBrace]) := p.data.separated rfl trivial
  exact ⟨rfl, hData⟩

/-- The members of a header keep what follows them separated. -/
theorem separated_members (p : CompactPayload) (fs : List HeaderField) {rest : List Token}
    (hRest : Separated rest) : Separated (fs.flatMap p.member ++ rest) := by
  induction fs with
  | nil => exact hRest
  | cons f fs ih =>
    rw [List.flatMap_cons, List.append_assoc]
    have hValue : Separated (p.value f ++ comma :: (fs.flatMap p.member ++ rest)) := by
      cases f with
      | eventType => exact ⟨rfl, ih⟩
      | sequence => exact separated_charTokens ih
      | op => exact separated_charTokens ih
    rw [member, List.cons_append, List.cons_append, List.append_assoc]
    exact ⟨rfl, hValue⟩

theorem separated_tokens (p : CompactPayload) : Separated p.tokens :=
  p.separated_members p.order p.separated_dataTokens

/-- No member of another name is mentioned with a colon after it: its value is
followed by a comma. -/
theorem afterMention_members (p : CompactPayload) {n : Str} {fs : List HeaderField}
    (hNames : ∀ f ∈ fs, f.name ≠ n) (rest : List Token) :
    afterMention n ":".toList (fs.flatMap p.member ++ rest) = afterMention n ":".toList rest := by
  induction fs with
  | nil => rfl
  | cons f fs ih =>
    have hName : (Literal.ofText f.name (name_plain f)).mentions n = false := by
      rw [Literal.mentions_of_isPlain (Literal.isPlain_ofText _ _), Literal.text_ofText,
        beq_eq_false_iff_ne]
      exact hNames f (.head _)
    have hRest := ih fun g hg => hNames g (.tail _ hg)
    rw [List.flatMap_cons, List.append_assoc, member, List.cons_append, afterMention, hName,
      Bool.false_and, if_neg Bool.false_ne_true, List.cons_append, colon, afterMention,
      List.append_assoc]
    rw [← hRest]
    cases f with
    | eventType =>
      show (if Literal.mentions n _ && false then _ else _) = _
      rw [Bool.and_false, if_neg Bool.false_ne_true]
      rfl
    | sequence => exact afterMention_charTokens
    | op => exact afterMention_charTokens

theorem nodup_order (p : CompactPayload) : p.order.Nodup := p.order_perm.nodup_iff.mpr (by decide)

/-- Where a member stands in the header. -/
theorem order_split (p : CompactPayload) (f : HeaderField) :
    ∃ before after, p.order = before ++ f :: after ∧ f ∉ before ∧ f ∉ after := by
  have hMem : f ∈ p.order := p.order_perm.mem_iff.mpr (by cases f <;> decide)
  obtain ⟨before, after, hOrder⟩ := List.append_of_mem hMem
  have hNodup : (before ++ f :: after).Nodup := hOrder ▸ p.nodup_order
  obtain ⟨-, hAfter, hDisjoint⟩ := List.nodup_append.mp hNodup
  exact ⟨before, after, hOrder, fun h => hDisjoint f h f (.head _) rfl,
    (List.nodup_cons.mp hAfter).1⟩

theorem name_injective {f g : HeaderField} (h : f.name = g.name) : f = g := by
  cases f <;> cases g <;> first | rfl | cases h

-- ---------------------------------------------------------------------------
-- The text around a member
-- ---------------------------------------------------------------------------

/-- The text before a member, the members before it given. -/
def front (p : CompactPayload) (before : List HeaderField) : Str :=
  '\x7b' :: render (before.flatMap p.member)

/-- The text after a member and its comma, the members after it given. -/
def back (p : CompactPayload) (after : List HeaderField) : Str :=
  render (after.flatMap p.member ++ p.dataTokens)

/-- The quoted name of a member with its colon. -/
def key (f : HeaderField) : Str := pattern f.name ":".toList

theorem text_split (p : CompactPayload) {f : HeaderField} {before after : List HeaderField}
    (hOrder : p.order = before ++ f :: after) :
    p.text = p.front before ++ (key f ++ (render (p.value f) ++ ',' :: p.back after)) := by
  have hMember : render (p.member f) = key f ++ (render (p.value f) ++ [',']) := by
    show '"' :: ((Literal.ofText f.name _).text ++ ['"'] ++ ':' :: render (p.value f ++ [comma])) =
      '"' :: (f.name ++ ['"', ':'] ++ (render (p.value f) ++ [',']))
    rw [Literal.text_ofText, render_append, List.append_assoc, List.append_assoc]
    rfl
  have hTokens : p.text = '\x7b' :: render (p.order.flatMap p.member ++ p.dataTokens) := rfl
  rw [hTokens, hOrder, List.flatMap_append, List.flatMap_cons]
  simp only [front, back, render_append, hMember, List.cons_append, List.append_assoc]
  rfl

/-- **The search for the name of a member stops at the member.** -/
theorem firstSplit_member (p : CompactPayload) {f : HeaderField} {before after : List HeaderField}
    (hOrder : p.order = before ++ f :: after) (hBefore : f ∉ before) :
    FirstSplit (key f)
      (p.front before ++ (key f ++ (render (p.value f) ++ ',' :: p.back after)))
      (p.front before) (render (p.value f) ++ ',' :: p.back after) := by
  apply firstSplit_of_seek
  rw [← p.text_split hOrder, text, key]
  have hName : isName f.name = true := by cases f <;> decide
  have hOthers : ∀ g ∈ before, g.name ≠ f.name := by
    intro g hg hEq
    exact hBefore (name_injective hEq ▸ hg)
  have hOwn : (Literal.ofText f.name (name_plain f)).mentions f.name = true := by
    rw [Literal.mentions_of_isPlain (Literal.isPlain_ofText _ _), Literal.text_ofText,
      beq_self_eq_true]
  rw [seek_render _ hName p.separated_tokens]
  have hMention : afterMention f.name ":".toList p.tokens =
      some (colon :: (p.value f ++ comma :: (after.flatMap p.member ++ p.dataTokens))) := by
    have hTokens : p.order.flatMap p.member ++ p.dataTokens =
        before.flatMap p.member ++ .string (.ofText f.name (name_plain f)) :: colon ::
          (p.value f ++ comma :: (after.flatMap p.member ++ p.dataTokens)) := by
      rw [hOrder, List.flatMap_append, List.flatMap_cons]
      simp only [member, List.append_assoc, List.cons_append, List.nil_append]
    rw [tokens, openBrace, afterMention, hTokens, p.afterMention_members hOthers, afterMention,
      hOwn, Bool.true_and]
    exact if_pos rfl
  rw [hMention, Option.map_some, back, Option.some.injEq]
  show '"' :: (f.name ++ '"' :: ':' :: render (p.value f ++ comma :: _)) =
    '"' :: (f.name ++ ['"', ':'] ++ (render (p.value f) ++ ',' :: _))
  rw [render_append, List.append_assoc]
  rfl

-- ---------------------------------------------------------------------------
-- What the scan finds
-- ---------------------------------------------------------------------------

/-- The place of a number, given the members before it. -/
def numberRange (p : CompactPayload) (before : List HeaderField) (f : HeaderField) (n : Nat) :
    Range :=
  ⟨byteLen (p.front before ++ key f), byteLen (p.front before ++ key f) + byteLen (formatNat n)⟩

theorem findInteger_text (p : CompactPayload) {f : HeaderField} {before after : List HeaderField}
    (hOrder : p.order = before ++ f :: after) (hBefore : f ∉ before) {bound n : Nat}
    (hValue : p.value f = (Scalar.ofNat n).tokens) (hn : n < bound) :
    GatewayEvent.findInteger bound p.text (key f) = some (n, p.numberRange before f n) := by
  have hSplit := p.firstSplit_member hOrder hBefore
  rw [hValue, Scalar.render_tokens] at hSplit
  rw [p.text_split hOrder, hValue, Scalar.render_tokens]
  exact GatewayEvent.findInteger_of_firstSplit hSplit rfl hn

theorem findOpcode_text (p : CompactPayload) :
    (GatewayEvent.findOpcode p.text).map OpInfo.op = some p.op := by
  obtain ⟨before, after, hOrder, hBefore, -⟩ := p.order_split .op
  have hFound := p.findInteger_text hOrder hBefore rfl p.op_lt
  have hKey : key .op = "\"op\":".toList := by decide
  rw [hKey] at hFound
  rw [GatewayEvent.findOpcode, hFound]
  rfl

theorem findSequence_text (p : CompactPayload) {before after : List HeaderField}
    (hOrder : p.order = before ++ .sequence :: after) (hBefore : .sequence ∉ before) :
    GatewayEvent.findSequence p.text =
      some ⟨p.sequence, p.numberRange before .sequence p.sequence⟩ := by
  have hFound := p.findInteger_text hOrder hBefore rfl p.sequence_lt
  have hKey : key .sequence = "\"s\":".toList := by decide
  rw [hKey] at hFound
  rw [GatewayEvent.findSequence, hFound]
  rfl

theorem not_mem_eventType (p : CompactPayload) : '"' ∉ p.eventType := by
  intro hMem
  have hChar := List.all_eq_true.mp p.eventType_chars '"' hMem
  exact absurd hChar (by decide)

theorem findEventType_text (p : CompactPayload) :
    (GatewayEvent.findEventType p.text).map EventTypeInfo.name = some p.eventType := by
  obtain ⟨before, after, hOrder, hBefore, -⟩ := p.order_split .eventType
  have hSplit := p.firstSplit_member hOrder hBefore
  have hValue : render (p.value .eventType) = '"' :: (p.eventType ++ ['"']) := by
    show '"' :: ((Literal.ofText p.eventType _).text ++ ['"']) ++ [] = _
    rw [Literal.text_ofText, List.append_nil]
  have hText := p.text_split hOrder
  rw [hValue, List.cons_append, List.append_assoc, List.singleton_append] at hSplit hText
  have hKey : key .eventType = "\"t\":".toList := by decide
  have hFound := @GatewayEvent.findEventType_of_firstSplit _ _ [] _ _ hKey hSplit nofun
    p.not_mem_eventType
  rw [List.nil_append] at hFound
  rw [hText, hFound]
  rfl

/-- The data is found where it is, whatever its contents. -/
theorem seek_data (p : CompactPayload) :
    seek "\"d\":".toList p.text = some (render p.dataTokens) := by
  have hSeek := seek_render ":".toList (n := "d".toList) (by decide) p.separated_tokens
  have hNames : ∀ f ∈ p.order, f.name ≠ "d".toList := by
    intro f _
    cases f <;> decide
  have hMention : afterMention "d".toList ":".toList p.tokens =
      some (colon :: (p.data.tokens ++ [closeBrace])) := by
    rw [tokens, openBrace, afterMention, p.afterMention_members hNames, dataTokens, afterMention]
    exact if_pos rfl
  rw [hMention] at hSeek
  exact hSeek

-- ---------------------------------------------------------------------------
-- The number replaced
-- ---------------------------------------------------------------------------

/-- The other members are written as before. -/
theorem render_withSequence (p : CompactPayload) {n : Nat} (hn : n < u64Bound)
    {fs : List HeaderField} (h : .sequence ∉ fs) :
    fs.flatMap (p.withSequence n hn).member = fs.flatMap p.member := by
  apply List.flatMap_congr
  intro f hf
  cases f with
  | sequence => exact absurd hf h
  | eventType => rfl
  | op => rfl

/-- **Replacing the number gives the same payload with the new number.** -/
theorem replaceRange_text (p : CompactPayload) {n : Nat} (hn : n < u64Bound) :
    ∃ info, GatewayEvent.findSequence p.text = some info ∧ info.sequence = p.sequence ∧
      replaceRange p.text info.range (formatNat n) = some (p.withSequence n hn).text := by
  obtain ⟨before, after, hOrder, hBefore, hAfter⟩ := p.order_split .sequence
  refine ⟨_, p.findSequence_text hOrder hBefore, rfl, ?_⟩
  have hOld := p.text_split hOrder
  have hNew := (p.withSequence n hn).text_split hOrder
  have hFront : (p.withSequence n hn).front before = p.front before := by
    rw [front, front, p.render_withSequence hn hBefore]
  have hBack : (p.withSequence n hn).back after = p.back after := by
    rw [back, back, p.render_withSequence hn hAfter]
    rfl
  have hReplace := replaceRange_append (p.front before ++ key .sequence) (formatNat p.sequence)
    (',' :: p.back after) (formatNat n)
  rw [hFront, hBack] at hNew
  rw [hOld, hNew]
  simp only [List.append_assoc] at hReplace
  show replaceRange
      (p.front before ++ (key .sequence ++ (render ((Scalar.ofNat p.sequence).tokens) ++ _)))
      (p.numberRange before .sequence p.sequence) (formatNat n) =
      some (p.front before ++ (key .sequence ++ (render ((Scalar.ofNat n).tokens) ++ _)))
  rw [Scalar.render_tokens, Scalar.render_tokens]
  exact hReplace

/-- **The scan of a payload finds its header.** -/
theorem fromJson_text (p : CompactPayload) :
    ∃ event, GatewayEvent.fromJson p.text = some event ∧ event.op.op = p.op ∧
      event.eventType.map EventTypeInfo.name = some p.eventType ∧
      event.sequence = GatewayEvent.findSequence p.text := by
  obtain ⟨op, hOp, hOpcode⟩ := Option.map_eq_some_iff.mp p.findOpcode_text
  exact ⟨_, GatewayEvent.fromJson_of_findOpcode hOp, hOpcode, p.findEventType_text, rfl⟩

/-- Neither the data nor the names around it change with the number. -/
theorem fromJson_withSequence (p : CompactPayload) {n : Nat} (hn : n < u64Bound)
    {event : GatewayEvent} (hEvent : GatewayEvent.fromJson p.text = some event) :
    ∃ event', GatewayEvent.fromJson (p.withSequence n hn).text = some event' ∧
      event'.op.op = event.op.op ∧
      event'.eventType.map EventTypeInfo.name = event.eventType.map EventTypeInfo.name ∧
      event'.sequence.map SequenceInfo.sequence = some n ∧ event'.guildId = event.guildId ∧
      event'.channelId = event.channelId := by
  obtain ⟨op, hOp, hOpcode⟩ := Option.map_eq_some_iff.mp p.findOpcode_text
  rw [GatewayEvent.fromJson_of_findOpcode hOp, Option.some.injEq] at hEvent
  obtain rfl := hEvent
  obtain ⟨op', hOp', hOpcode'⟩ := Option.map_eq_some_iff.mp (p.withSequence n hn).findOpcode_text
  obtain ⟨before, after, hOrder, hBefore, -⟩ := (p.withSequence n hn).order_split .sequence
  have hSequence := (p.withSequence n hn).findSequence_text hOrder hBefore
  have hName := (p.withSequence n hn).findEventType_text.trans p.findEventType_text.symm
  have hData := (p.withSequence n hn).seek_data.trans p.seek_data.symm
  refine ⟨_, GatewayEvent.fromJson_of_findOpcode hOp', ?_, hName, ?_,
    GatewayEvent.findGuildId_congr hData hName, GatewayEvent.findChannelId_congr hData hName⟩
  · exact hOpcode'.trans hOpcode.symm
  · show (GatewayEvent.findSequence _).map SequenceInfo.sequence = some n
    rw [hSequence]
    rfl

end CompactPayload

/-- **The header of a payload survives the rewrite of its sequence number.** For
every text with a sequence number, its range is a part of the text on character
boundaries that reads as the number, so that writing over it cannot fail. For
every compact payload whose data comes last, whatever the data is, the scan finds
its opcode, name and number as they are; writing another number over the range
gives the payload with that number; and the scan of the result finds the new
number with the same opcode, name, guild and channel. -/
theorem header_round_trip :
    (∀ input event info, GatewayEvent.fromJson input = some event → event.sequence = some info →
      ∃ a clean b, input = a ++ clean ++ b ∧
        info.range = ⟨byteLen a, byteLen a + byteLen clean⟩ ∧
        parseU64 clean = some info.sequence ∧
        ∀ new, replaceRange input info.range new = some (a ++ new ++ b)) ∧
    ∀ (p : CompactPayload) (n : Nat) (hn : n < u64Bound), ∃ event info,
      GatewayEvent.fromJson p.text = some event ∧ event.op.op = p.op ∧
      event.eventType.map EventTypeInfo.name = some p.eventType ∧
      event.sequence = some info ∧ info.sequence = p.sequence ∧
      replaceRange p.text info.range (formatNat n) = some (p.withSequence n hn).text ∧
      ∃ event', GatewayEvent.fromJson (p.withSequence n hn).text = some event' ∧
        event'.op.op = event.op.op ∧
        event'.eventType.map EventTypeInfo.name = event.eventType.map EventTypeInfo.name ∧
        event'.sequence.map SequenceInfo.sequence = some n ∧ event'.guildId = event.guildId ∧
        event'.channelId = event.channelId := by
  constructor
  · intro input event info hEvent hInfo
    apply findSequence_split
    rw [← GatewayEvent.fromJson_sequence hEvent, hInfo]
  · intro p n hn
    obtain ⟨event, hEvent, hOp, hName, hSequence⟩ := p.fromJson_text
    obtain ⟨info, hInfo, hOld, hReplace⟩ := p.replaceRange_text hn
    exact ⟨event, info, hEvent, hOp, hName, hSequence.trans hInfo, hOld, hReplace,
      p.fromJson_withSequence hn hEvent⟩

namespace CompactPayload.Sample

theorem s_isPlain : ("s".toList : Str).all isPlain = true := by decide

theorem op_isPlain : ("op".toList : Str).all isPlain = true := by decide

/-- A message whose data has members of the same names. -/
def message : CompactPayload where
  eventType := "MESSAGE_CREATE".toList
  sequence := 9
  op := 0
  order := [.op, .eventType, .sequence]
  data := .object .none
    (.cons .tight (.ofText "s".toList s_isPlain) (.scalar (.ofNat 1))
      (.cons .tight (.ofText "op".toList op_isPlain) (.scalar (.ofNat 2)) .nil))
  eventType_chars := by decide
  sequence_lt := by decide +kernel
  op_lt := by decide
  order_perm := by decide

def event : GatewayEvent :=
  ⟨some ⟨"MESSAGE_CREATE".toList, ⟨13, 27⟩⟩, ⟨0, ⟨6, 7⟩⟩, some ⟨9, ⟨33, 34⟩⟩, none, none⟩

end CompactPayload.Sample

open CompactPayload in
theorem header_round_trip_message :
    Sample.message.text =
        "\x7b\"op\":0,\"t\":\"MESSAGE_CREATE\",\"s\":9,\"d\":\x7b\"s\":1,\"op\":2\x7d\x7d".toList ∧
      (∃ a clean b, Sample.message.text = a ++ clean ++ b ∧ parseU64 clean = some 9) ∧
      ∃ event, GatewayEvent.fromJson (Sample.message.withSequence 1000 (by decide +kernel)).text =
        some event ∧ event.sequence.map SequenceInfo.sequence = some 1000 := by
  refine ⟨by decide +kernel, ?_, ?_⟩
  · obtain ⟨a, clean, b, hSplit, -, hParse, -⟩ :=
      header_round_trip.1 Sample.message.text Sample.event ⟨9, ⟨33, 34⟩⟩ (by decide +kernel) rfl
    exact ⟨a, clean, b, hSplit, hParse⟩
  · obtain ⟨-, -, -, -, -, -, -, -, event, hEvent, -, -, hSequence, -⟩ :=
      header_round_trip.2 Sample.message 1000 (by decide +kernel)
    exact ⟨event, hEvent, hSequence⟩

end GatewayProxy
