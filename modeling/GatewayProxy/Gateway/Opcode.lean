import GatewayProxy.Lib.JsonText
import GatewayProxy.Source.Deserializer

/-!
# Which opcode a message is read as

`handle_client` dispatches a message by the opcode that `from_json` finds, and
`from_json` searches the text for the quoted name with its colon. Against it
stand the texts of every JSON object with one member `op`, whatever their order,
layout, nesting and spelling.

Main results:

* `ClientMessage.firstKey_eq`: where the search lands.
* `ClientMessage.leadingNumber_own`: at the member's own key its number is read
  exactly when there is no white space around it.
* `opcode_read_iff`: the messages whose opcode is read.
* `opcode_not_read`: a message that is dropped for a space.
-/

namespace GatewayProxy

open Utf8 JsonText

def opName : Str := "op".toList

/-- A colon and then, up to the next comma or closing brace, the digits of a number
below the bound and nothing else. -/
def NumberAfterColon (bound : Nat) (text : Str) (n : Nat) : Prop :=
  ∃ number c after, text = ':' :: (number ++ c :: after) ∧ ',' ∉ number ∧ '}' ∉ number ∧
    (c = ',' ∨ c = '}') ∧ parseUnsigned bound number = some n

/-- That number is the one read after the colon. -/
theorem leadingNumber_iff {bound n : Nat} {s : Str} :
    GatewayEvent.leadingNumber bound s = some n ↔ NumberAfterColon bound (':' :: s) n := by
  constructor
  · intro h
    rw [GatewayEvent.leadingNumber] at h
    simp only [Option.bind_eq_bind, Option.bind_eq_some_iff] at h
    obtain ⟨toPos, hTo, number, hNumber, hParse⟩ := h
    obtain ⟨number', c, after, rfl, hc, hInside, rfl⟩ := findChar_eq_some hTo
    rw [getTo_byteLen] at hNumber
    obtain rfl := Option.some.inj hNumber
    refine ⟨number', c, after, rfl, fun hMem => ?_, fun hMem => ?_, by simpa using hc, hParse⟩
    · exact absurd (hInside _ hMem) (by decide)
    · exact absurd (hInside _ hMem) (by decide)
  · rintro ⟨number, c, after, hText, hComma, hBrace, hc, hParse⟩
    obtain rfl := (List.cons.inj hText).2
    have hInside : ∀ x ∈ number, (x == ',' || x == '}') = false := by
      intro x hx
      rw [Bool.or_eq_false_iff, beq_eq_false_iff_ne, beq_eq_false_iff_ne]
      constructor
      · rintro rfl
        exact hComma hx
      · rintro rfl
        exact hBrace hx
    rw [GatewayEvent.leadingNumber_append hInside (by simpa using hc)]
    exact hParse

/-- A colon follows the key that is found. -/
theorem colon_of_afterMention {n : Str} {ts rest : List Token}
    (h : afterMention n ":".toList ts = some rest) :
    render rest = ':' :: (render rest).drop 1 := by
  have hFollow : [':'].isPrefixOf (render rest) = true := follow_of_afterMention h
  cases hRest : render rest with
  | nil =>
    rw [hRest] at hFollow
    cases hFollow
  | cons c s =>
    rw [hRest, List.isPrefixOf_cons_cons, Bool.and_eq_true, beq_iff_eq] at hFollow
    obtain rfl := hFollow.1
    rfl

/-- A message of a client: an object with one member `op`, the number of its
opcode. -/
structure ClientMessage where
  start : Blank
  /-- the members before `op` -/
  head : Members
  layout : Layout
  name : Literal
  op : Nat
  /-- the members after it -/
  tail : Members
  finish : Blank
  name_eq : name.decode = some opName
  op_lt : op < u8Bound
  head_unique : head.named opName = []
  tail_unique : tail.named opName = []

namespace ClientMessage

/-- What follows the number. -/
def afterValue (p : ClientMessage) : List Token :=
  p.layout.after.tokens ++ (p.tail.separator ++ (p.tail.tokens ++ closeBrace :: p.finish.tokens))

/-- What follows the name. -/
def afterName (p : ClientMessage) : List Token :=
  p.layout.afterName.tokens ++
    colon :: (p.layout.beforeValue.tokens ++ ((Scalar.ofNat p.op).tokens ++ p.afterValue))

/-- What follows the members before `op`. -/
def afterHead (p : ClientMessage) : List Token :=
  p.head.separator ++ (p.layout.before.tokens ++ .string p.name :: p.afterName)

def tokens (p : ClientMessage) : List Token :=
  p.start.tokens ++ openBrace :: (p.head.tokens ++ p.afterHead)

def text (p : ClientMessage) : Str := render p.tokens

-- ---------------------------------------------------------------------------
-- The messages whose opcode is read
-- ---------------------------------------------------------------------------

/-- The member's own key is spelled as it is searched for. -/
def OwnKey (p : ClientMessage) : Prop := p.name.text = opName ∧ p.layout.afterName.text = []

instance (p : ClientMessage) : Decidable p.OwnKey := inferInstanceAs (Decidable (_ ∧ _))

/-- What follows another key that is found first: one among the members before,
or one after the value if the own key is not spelled so. -/
def strayKey (p : ClientMessage) : Option (List Token) :=
  match afterMention opName ":".toList p.head.tokens with
  | some inside => some (inside ++ p.afterHead)
  | none => if p.OwnKey then none else afterMention opName ":".toList p.afterValue

/-- The messages whose opcode is read. -/
inductive OpcodeRead (p : ClientMessage) : Prop
  /-- the own key comes first, without white space around its colon and number -/
  | own (hFirst : p.strayKey = none) (hKey : p.OwnKey)
    (hBefore : p.layout.beforeValue.text = []) (hAfter : p.layout.after.text = [])
  /-- another key comes first, and its number is the same -/
  | stray (following : List Token) (hStray : p.strayKey = some following)
    (hSame : NumberAfterColon u8Bound (render following) p.op)

-- ---------------------------------------------------------------------------
-- Where the search lands
-- ---------------------------------------------------------------------------

variable {p : ClientMessage}

theorem separated_tokens (p : ClientMessage) : Separated p.tokens := by
  have hClose : Separated (closeBrace :: (p.finish.tokens ++ [])) := p.finish.separated trivial
  rw [List.append_nil] at hClose
  have hTail : Separated (p.tail.tokens ++ closeBrace :: p.finish.tokens) :=
    p.tail.separated rfl hClose
  have hAfterValue : Separated p.afterValue :=
    p.layout.after.separated (p.tail.separated_separator hTail)
  have hValue : Separated ((Scalar.ofNat p.op).tokens ++ p.afterValue) :=
    separated_charTokens hAfterValue
  have hName : Separated (.string p.name :: p.afterName) :=
    ⟨p.layout.afterName.delimited rfl,
      p.layout.afterName.separated (p.layout.beforeValue.separated hValue)⟩
  have hMember : Separated (p.layout.before.tokens ++ .string p.name :: p.afterName) :=
    p.layout.before.separated hName
  have hAfterHead : Separated p.afterHead := p.head.separated_separator hMember
  cases hHead : p.head with
  | nil =>
    rw [afterHead, hHead] at hAfterHead
    rw [tokens, afterHead, hHead]
    exact p.start.separated hAfterHead
  | cons layout name value rest =>
    rw [afterHead, hHead] at hAfterHead
    rw [tokens, afterHead, hHead]
    exact p.start.separated (Members.separated _ rfl hAfterHead)

/-- White space keeps a text from starting with a colon. -/
theorem not_colon_of_blank {b : Blank} (hNe : b.text ≠ []) (ts : List Token) :
    ":".toList.isPrefixOf (render (b.tokens ++ ts)) = false := by
  rw [render_append, Blank.render_tokens]
  obtain ⟨text, hBlank⟩ := b
  cases text with
  | nil => exact absurd rfl hNe
  | cons c text =>
    have hc : (':' == c) = false := by
      rw [beq_eq_false_iff_ne]
      rintro rfl
      cases List.all_eq_true.mp hBlank ':' (.head _)
    show (':' == c && _) = false
    rw [hc, Bool.false_and]

theorem not_colon_afterHead (p : ClientMessage) :
    ":".toList.isPrefixOf (render p.afterHead) = false := by
  rw [afterHead]
  cases p.head with
  | cons layout name value rest => rfl
  | nil =>
    by_cases hBlank : p.layout.before.text = []
    · show ":".toList.isPrefixOf (render (p.layout.before.tokens ++ _)) = false
      rw [render_append, Blank.render_tokens, hBlank]
      rfl
    · exact not_colon_of_blank hBlank _

/-- **Where the search lands**: at a stray key, or else at the own one. -/
theorem afterMention_tokens (p : ClientMessage) :
    afterMention opName ":".toList p.tokens =
      p.strayKey.or (if p.OwnKey then some p.afterName else none) := by
  have hEnds : p.name.endsIn opName = false :=
    Literal.endsIn_eq_false_of_decode p.name_eq (by decide) opName
  rw [tokens, afterMention_blank, openBrace, afterMention,
    afterMention_append_colon _ _ p.not_colon_afterHead, strayKey]
  cases afterMention opName ":".toList p.head.tokens with
  | some inside => rfl
  | none =>
    have hMember : afterMention opName ":".toList p.afterHead =
        afterMention opName ":".toList (.string p.name :: p.afterName) := by
      rw [afterHead]
      cases p.head with
      | nil => exact afterMention_blank _
      | cons layout name value rest => exact afterMention_blank _
    have hLater : afterMention opName ":".toList p.afterName =
        afterMention opName ":".toList p.afterValue := by
      rw [afterName, afterMention_blank, colon, afterMention, afterMention_blank]
      exact afterMention_charTokens
    dsimp only
    rw [hMember, afterMention, Literal.mentions, hEnds, Bool.or_false, hLater]
    by_cases hOwn : p.OwnKey
    · have hColon : ":".toList.isPrefixOf (render p.afterName) = true := by
        rw [afterName, render_append, Blank.render_tokens, hOwn.2]
        rfl
      rw [if_pos hOwn, if_pos hOwn, hColon, hOwn.1, beq_self_eq_true]
      rfl
    · rw [if_neg hOwn, if_neg hOwn, Option.or_none, if_neg]
      rw [Bool.and_eq_true, beq_iff_eq]
      rintro ⟨hName, hColon⟩
      refine hOwn ⟨hName, ?_⟩
      by_contra hBlank
      rw [afterName, not_colon_of_blank hBlank] at hColon
      cases hColon

-- ---------------------------------------------------------------------------
-- The number that is read
-- ---------------------------------------------------------------------------

/-- The opcode that is read is the number after the key that is found. -/
theorem findOpcode_text (p : ClientMessage) :
    (GatewayEvent.findOpcode p.text).map OpInfo.op =
      (afterMention opName ":".toList p.tokens).bind fun rest =>
        GatewayEvent.leadingNumber u8Bound ((render rest).drop 1) := by
  have hSeek : seek "\"op\":".toList p.text =
      (afterMention opName ":".toList p.tokens).map fun rest => pattern opName (render rest) :=
    seek_render (n := opName) ":".toList (by decide) p.separated_tokens
  have hFst := GatewayEvent.findInteger_fst u8Bound p.text "\"op\":".toList
  rw [hSeek, Option.map_map] at hFst
  rw [GatewayEvent.findOpcode, Option.map_map]
  show (GatewayEvent.findInteger u8Bound p.text "\"op\":".toList).map Prod.fst = _
  rw [hFst]
  cases afterMention opName ":".toList p.tokens with
  | none => rfl
  | some rest => rfl

/-- What follows the value starts with a comma or a brace. -/
theorem render_afterTail (p : ClientMessage) :
    ∃ c rest, render (p.tail.separator ++ (p.tail.tokens ++ closeBrace :: p.finish.tokens)) =
      c :: rest ∧ (c == ',' || c == '}') = true := by
  cases p.tail with
  | nil => exact ⟨'}', _, rfl, rfl⟩
  | cons layout name value rest => exact ⟨',', _, rfl, rfl⟩

/-- White space is no part of a number. -/
theorem not_blank_of_parseUnsigned {bound n : Nat} {s : Str} (h : parseUnsigned bound s = some n)
    (b : Blank) (hSub : ∀ c ∈ b.text, c ∈ s) : b.text = [] := by
  rw [List.eq_nil_iff_forall_not_mem]
  intro c hc
  have hBlank := List.all_eq_true.mp b.blank c hc
  simp only [isBlank, Bool.or_eq_true, beq_iff_eq] at hBlank
  have hNumber := mem_of_parseUnsigned h c (hSub c hc)
  obtain ((rfl | rfl) | rfl) | rfl := hBlank
  all_goals exact absurd hNumber (by decide)

/-- **The own number is read exactly when there is no white space around it.** -/
theorem leadingNumber_own (hOwn : p.OwnKey) :
    GatewayEvent.leadingNumber u8Bound ((render p.afterName).drop 1) = some p.op ↔
      p.layout.beforeValue.text = [] ∧ p.layout.after.text = [] := by
  obtain ⟨c, rest, hRest, hc⟩ := p.render_afterTail
  have hText : (render p.afterName).drop 1 =
      (p.layout.beforeValue.text ++ formatNat p.op ++ p.layout.after.text) ++ c :: rest := by
    rw [afterName, render_append, Blank.render_tokens, hOwn.2, List.nil_append, render_cons]
    show render _ = _
    rw [render_append, render_append, Blank.render_tokens, Scalar.render_tokens, afterValue,
      render_append, Blank.render_tokens, hRest]
    simp only [Scalar.ofNat, List.append_assoc]
  have hInside : ∀ x ∈ p.layout.beforeValue.text ++ formatNat p.op ++ p.layout.after.text,
      (x == ',' || x == '}') = false := by
    intro x hx
    have hKind : isBlank x = true ∨ x.isDigit = true := by
      rcases List.mem_append.mp hx with hFront | hAfter
      · rcases List.mem_append.mp hFront with hBefore | hDigit
        · exact .inl (List.all_eq_true.mp p.layout.beforeValue.blank x hBefore)
        · exact .inr (isDigit_of_mem_formatNat hDigit)
      · exact .inl (List.all_eq_true.mp p.layout.after.blank x hAfter)
    rw [Bool.or_eq_false_iff, beq_eq_false_iff_ne, beq_eq_false_iff_ne]
    constructor
    · rintro rfl
      exact absurd hKind (by decide)
    · rintro rfl
      exact absurd hKind (by decide)
  rw [hText, GatewayEvent.leadingNumber_append hInside hc]
  constructor
  · intro hParse
    exact ⟨not_blank_of_parseUnsigned hParse _ fun x hx =>
        List.mem_append_left _ (List.mem_append_left _ hx),
      not_blank_of_parseUnsigned hParse _ fun x hx => List.mem_append_right _ hx⟩
  · rintro ⟨hBefore, hAfter⟩
    rw [hBefore, hAfter, List.nil_append, List.append_nil]
    exact parseUnsigned_formatNat p.op_lt

/-- The scan succeeds with the opcode that is found. -/
theorem fromJson_op (input : Str) :
    (GatewayEvent.fromJson input).map (fun event => event.op.op) =
      (GatewayEvent.findOpcode input).map OpInfo.op := by
  rw [GatewayEvent.fromJson]
  cases GatewayEvent.findOpcode input <;> rfl

/-- **When the opcode of a message is read.** For every JSON object with one
member `op` whose value is a number below 256, whatever the order of its members,
its layout, nesting and spelling: the scan succeeds with that number if and only
if the first key in the text that is spelled `"op":` is the object's own and no
white space stands around its number, or another such key comes first and its
number is the same. -/
theorem opcode_read_iff (p : ClientMessage) :
    (∃ event, GatewayEvent.fromJson p.text = some event ∧ event.op.op = p.op) ↔
      p.OpcodeRead := by
  have hFound : (∃ event, GatewayEvent.fromJson p.text = some event ∧ event.op.op = p.op) ↔
      (afterMention opName ":".toList p.tokens).bind (fun rest =>
        GatewayEvent.leadingNumber u8Bound ((render rest).drop 1)) = some p.op := by
    rw [← findOpcode_text, ← fromJson_op, Option.map_eq_some_iff]
  have hNumber : ∀ following, p.strayKey = some following →
      (GatewayEvent.leadingNumber u8Bound ((render following).drop 1) = some p.op ↔
        NumberAfterColon u8Bound (render following) p.op) := by
    intro following hStray
    have hLands := p.afterMention_tokens
    rw [hStray, Option.some_or] at hLands
    rw [leadingNumber_iff, ← colon_of_afterMention hLands]
  rw [hFound, afterMention_tokens]
  constructor
  · intro hRead
    cases hStray : p.strayKey with
    | some following =>
      rw [hStray, Option.some_or, Option.bind_some] at hRead
      exact .stray following hStray ((hNumber following hStray).mp hRead)
    | none =>
      rw [hStray, Option.none_or] at hRead
      split at hRead
      · rename_i hOwn
        rw [Option.bind_some] at hRead
        obtain ⟨hBefore, hAfter⟩ := (leadingNumber_own hOwn).mp hRead
        exact .own hStray hOwn hBefore hAfter
      · cases hRead
  · intro hRead
    cases hRead with
    | own hFirst hKey hBefore hAfter =>
      rw [hFirst, Option.none_or, if_pos hKey, Option.bind_some]
      exact (leadingNumber_own hKey).mpr ⟨hBefore, hAfter⟩
    | stray following hStray hSame =>
      rw [hStray, Option.some_or, Option.bind_some]
      exact (hNumber following hStray).mpr hSame

namespace Sample

def space : Blank := ⟨[' '], rfl⟩

theorem d_isPlain : ("d".toList : Str).all isPlain = true := by decide

/-- A heartbeat with a space after the colon of `op`. -/
def heartbeat : ClientMessage where
  start := .none
  head := .nil
  layout := ⟨.none, .none, space, .none⟩
  name := .ofText opName (by decide)
  op := 1
  tail := .cons ⟨.none, .none, space, .none⟩ (.ofText "d".toList d_isPlain)
    (.scalar ⟨"null".toList, by decide, rfl⟩) .nil
  finish := .none
  name_eq := by decide +kernel
  op_lt := by decide
  head_unique := rfl
  tail_unique := by decide +kernel

end Sample

/-- A heartbeat whose opcode has a space before it is not read at all. -/
theorem opcode_not_read :
    Sample.heartbeat.text = "\x7b\"op\": 1,\"d\": null\x7d".toList ∧
      GatewayEvent.fromJson Sample.heartbeat.text = none :=
  ⟨by decide +kernel, by decide +kernel⟩

end ClientMessage

end GatewayProxy
