import GatewayProxy.Lib.Utf8

/-!
# JSON texts and searching them

The texts of JSON values, with every layout and every spelling of a string, and
what a textual search for a quoted name finds in them. A text is rendered from
tokens: string literals, and single characters that are no quotes. A quoted name
occurs in such a text exactly where a literal can be read as the name: where the
literal is the name, or ends in it after an escaped quote.

Main results:

* `seek_render`: the search finds the first literal that mentions the name.
* `separated_tokens`: the tokens of every value are such that it does.
-/

namespace JsonText

open Utf8

-- ---------------------------------------------------------------------------
-- Literals
-- ---------------------------------------------------------------------------

/-- What may stand for itself in a string. -/
def isPlain (c : Char) : Bool := c ≠ '"' && c ≠ '\\' && 0x20 ≤ c.toNat

/-- The characters with a short escape, and what each stands for. -/
def escapes : List (Char × Char) :=
  [('"', '"'), ('\\', '\\'), ('/', '/'), ('b', '\x08'), ('f', '\x0c'), ('n', '\n'), ('r', '\r'),
    ('t', '\t')]

def hexValue (c : Char) : Nat :=
  if c.isDigit then c.toNat - '0'.toNat else c.toLower.toNat - 'a'.toNat + 10

def isHex (c : Char) : Bool := c.isDigit || ('a' ≤ c.toLower && c.toLower ≤ 'f')

/-- One character of a string as it is spelled. -/
inductive Item
  | plain (c : Char) (h : isPlain c = true)
  | escape (c stands : Char) (h : (c, stands) ∈ escapes)
  | unicode (digits : List Char) (h : digits.length = 4 ∧ ∀ c ∈ digits, isHex c = true)

def Item.text : Item → Str
  | plain c _ => [c]
  | escape c _ _ => ['\\', c]
  | unicode digits _ => '\\' :: 'u' :: digits

/-- The character an item stands for; none for half of a surrogate pair, which
stands for no character of its own. -/
def Item.value : Item → Option Char
  | plain c _ => some c
  | escape _ stands _ => some stands
  | unicode digits _ =>
    let code := digits.foldl (fun acc c => 16 * acc + hexValue c) 0
    if 0xD800 ≤ code ∧ code < 0xE000 then none else some (Char.ofNat code)

/-- A string literal without its quotes. -/
abbrev Literal := List Item

namespace Literal

def text (l : Literal) : Str := l.flatMap Item.text

/-- What the literal stands for, if it has no surrogate pair. -/
def decode (l : Literal) : Option Str := l.mapM Item.value

def isPlain : Literal → Bool
  | [] => true
  | .plain _ _ :: l => isPlain l
  | _ :: _ => false

/-- The literal ends in the name after an escaped quote. -/
def endsIn (n : Str) : Literal → Bool
  | [] => false
  | .escape c _ _ :: l => (c == '"' && text l == n) || endsIn n l
  | _ :: l => endsIn n l

/-- The quoted name can be read in the literal with its quotes. -/
def mentions (n : Str) (l : Literal) : Bool := text l == n || endsIn n l

@[simp] theorem text_nil : text [] = [] := rfl

@[simp] theorem text_cons (item : Item) (l : Literal) : text (item :: l) = item.text ++ text l :=
  rfl

/-- The literal of a text that needs no escapes. -/
def ofText (s : Str) (h : s.all JsonText.isPlain = true) : Literal :=
  s.pmap (fun c hc => .plain c hc) (List.all_eq_true.mp h)

theorem text_ofText (s : Str) (h : s.all JsonText.isPlain = true) : text (ofText s h) = s := by
  induction s with
  | nil => rfl
  | cons c s ih =>
    have hRest : s.all JsonText.isPlain = true := by
      rw [List.all_cons, Bool.and_eq_true] at h
      exact h.2
    show c :: text (ofText s hRest) = c :: s
    rw [ih]

theorem isPlain_ofText (s : Str) (h : s.all JsonText.isPlain = true) :
    (ofText s h).isPlain = true := by
  induction s with
  | nil => rfl
  | cons c s ih =>
    have hRest : s.all JsonText.isPlain = true := by
      rw [List.all_cons, Bool.and_eq_true] at h
      exact h.2
    exact ih hRest

/-- A plain literal mentions nothing but its own text. -/
theorem mentions_of_isPlain {l : Literal} (h : l.isPlain = true) (n : Str) :
    l.mentions n = (l.text == n) := by
  have hEnds : ∀ {l : Literal}, l.isPlain = true → l.endsIn n = false := by
    intro l
    induction l with
    | nil => exact fun _ => rfl
    | cons item l ih =>
      intro hPlain
      cases item with
      | plain c hc => exact ih hPlain
      | escape c stands hc => cases hPlain
      | unicode digits hd => cases hPlain
  rw [mentions, hEnds h, Bool.or_false]

/-- A plain literal stands for its text. -/
theorem decode_of_isPlain {l : Literal} (h : l.isPlain = true) : l.decode = some l.text := by
  induction l with
  | nil => rfl
  | cons item l ih =>
    cases item with
    | plain c hc =>
      have hRest : decode l = some (text l) := ih h
      rw [decode] at hRest ⊢
      rw [List.mapM_cons, hRest]
      rfl
    | escape c stands hc => cases h
    | unicode digits hd => cases h

/-- A text without backslashes is spelled plainly. -/
theorem isPlain_of_text {l : Literal} (h : '\\' ∉ l.text) : l.isPlain = true := by
  induction l with
  | nil => rfl
  | cons item l ih =>
    rw [text_cons, List.mem_append, not_or] at h
    cases item with
    | plain c hc => exact ih h.2
    | escape c stands hc => exact absurd (.head _) h.1
    | unicode digits hd => exact absurd (.head _) h.1

/-- A literal that stands for a text without quotes has no escaped quote. -/
theorem endsIn_eq_false_of_decode {l : Literal} {s : Str} (hDecode : l.decode = some s)
    (hQuote : '"' ∉ s) (n : Str) : l.endsIn n = false := by
  induction l generalizing s with
  | nil => rfl
  | cons item l ih =>
    rw [decode, List.mapM_cons] at hDecode
    obtain ⟨c, hItem, hRest⟩ := Option.bind_eq_some_iff.mp hDecode
    obtain ⟨rest, hTail, hEq⟩ := Option.bind_eq_some_iff.mp hRest
    obtain rfl : c :: rest = s := Option.some.inj hEq
    rw [List.mem_cons, not_or] at hQuote
    have hLater : endsIn n l = false := ih hTail hQuote.2
    cases item with
    | plain x hx => exact hLater
    | unicode digits hd => exact hLater
    | escape x stands hx =>
      rw [endsIn, hLater, Bool.or_false]
      have hStands : stands = c := Option.some.inj hItem
      have hOnly : ∀ e ∈ escapes, e.1 = '"' → e.2 = '"' := by decide
      have hNot : x ≠ '"' := by
        intro hEscaped
        have hSame : stands = '"' := hOnly _ hx hEscaped
        exact hQuote.1 (hSame.symm.trans hStands)
      rw [beq_eq_false_iff_ne.mpr hNot, Bool.false_and]

/-- The text of a plain literal has no quotes. -/
theorem not_mem_text_of_isPlain {l : Literal} (h : l.isPlain = true) : '"' ∉ l.text := by
  induction l with
  | nil => exact List.not_mem_nil
  | cons item l ih =>
    cases item with
    | plain c hc =>
      rw [text_cons, Item.text, List.singleton_append, List.mem_cons, not_or]
      refine ⟨?_, ih h⟩
      rintro rfl
      cases hc
    | escape c stands hc => cases h
    | unicode digits hd => cases h

end Literal

-- ---------------------------------------------------------------------------
-- Tokens
-- ---------------------------------------------------------------------------

inductive Token
  | string (l : Literal)
  | char (c : Char) (h : c ≠ '"')

def Token.text : Token → Str
  | string l => '"' :: (l.text ++ ['"'])
  | char c _ => [c]

def render (ts : List Token) : Str := ts.flatMap Token.text

@[simp] theorem render_nil : render [] = [] := rfl

@[simp] theorem render_cons (t : Token) (ts : List Token) :
    render (t :: ts) = t.text ++ render ts := rfl

@[simp] theorem render_append (ts us : List Token) : render (ts ++ us) = render ts ++ render us :=
  List.flatMap_append

/-- What may follow a string: the end, white space or punctuation. -/
def isDelimiter (c : Char) : Bool := [' ', '\t', '\n', '\r', ',', ':', '}', ']'].contains c

def Delimited : List Token → Prop
  | [] => True
  | .string _ :: _ => False
  | .char c _ :: _ => isDelimiter c = true

/-- Every string is followed by a delimiter. -/
def Separated : List Token → Prop
  | [] => True
  | .string _ :: ts => Delimited ts ∧ Separated ts
  | .char _ _ :: ts => Separated ts

/-- A name that is searched for. -/
def isName (n : Str) : Bool := n.all fun c => c.isAlphanum || c == '_'

/-- The tokens after the first literal that mentions the name and is followed by
the given text. -/
def afterMention (n follow : Str) : List Token → Option (List Token)
  | [] => none
  | .string l :: ts =>
    if l.mentions n && follow.isPrefixOf (render ts) then some ts else afterMention n follow ts
  | .char _ _ :: ts => afterMention n follow ts

/-- The quoted name with what must follow it. -/
def pattern (n follow : Str) : Str := '"' :: (n ++ '"' :: follow)

section Search

variable {n follow : Str}

theorem not_mem_of_isName (hn : isName n = true) {c : Char}
    (hc : (c.isAlphanum || c == '_') = false) : c ∉ n := by
  intro hMem
  have hChar := List.all_eq_true.mp hn c hMem
  rw [hc] at hChar
  cases hChar

/-- A text that starts with another character is not the name, and does not go on
as the name. -/
theorem prefix_of_head_ne (follow : Str) {c : Char} (hHead : n.head? ≠ some c) (hQuote : c ≠ '"')
    (s : Str) :
    (n ++ '"' :: follow).isPrefixOf (c :: s) = false ∧ ((c :: s) == n) = false := by
  cases n with
  | nil =>
    have hNe : ('"' == c) = false := beq_eq_false_iff_ne.mpr (Ne.symm hQuote)
    rw [List.nil_append, List.isPrefixOf_cons_cons, hNe, Bool.false_and]
    exact ⟨rfl, rfl⟩
  | cons x n =>
    have hNe : x ≠ c := fun hEq => hHead (congrArg some hEq)
    rw [List.cons_append, List.isPrefixOf_cons_cons, beq_eq_false_iff_ne.mpr hNe, Bool.false_and]
    refine ⟨rfl, ?_⟩
    rw [beq_eq_false_iff_ne]
    intro hEq
    exact hNe (List.cons.inj hEq).1.symm

theorem head?_ne_of_not_mem {c : Char} (h : c ∉ n) : n.head? ≠ some c :=
  fun hHead => h (List.mem_of_mem_head? hHead)

theorem prefix_escaped (hBackslash : '\\' ∉ n) (s t : Str) :
    (n ++ '"' :: follow).isPrefixOf ('\\' :: s ++ '"' :: t) =
      ('\\' :: s == n && follow.isPrefixOf t) := by
  have hHead := head?_ne_of_not_mem hBackslash
  have hPrefix := (prefix_of_head_ne follow hHead (by decide) (s ++ '"' :: t)).1
  have hSame := (prefix_of_head_ne follow hHead (by decide) s).2
  rw [List.cons_append, hPrefix, hSame, Bool.false_and]

/-- Where a literal goes on as the name and is closed. -/
theorem prefix_literal (follow : Str) (hQuote : '"' ∉ n) (hBackslash : '\\' ∉ n) (l : Literal)
    (r : Str) :
    (n ++ '"' :: follow).isPrefixOf (l.text ++ '"' :: r) =
      (l.text == n && follow.isPrefixOf r) := by
  induction l generalizing n with
  | nil =>
    cases n with
    | nil =>
      rw [List.nil_append, Literal.text_nil, List.nil_append, List.isPrefixOf_cons_cons]
      rfl
    | cons x n =>
      have hNe : x ≠ '"' := by
        rintro rfl
        exact hQuote (.head _)
      rw [Literal.text_nil, List.nil_append, List.cons_append, List.isPrefixOf_cons_cons,
        beq_eq_false_iff_ne.mpr hNe, Bool.false_and]
      rfl
  | cons item l ih =>
    cases item with
    | plain c hc =>
      have hcQuote : c ≠ '"' := by
        rintro rfl
        cases hc
      by_cases hHead : n.head? = some c
      · obtain ⟨n, rfl⟩ := List.head?_eq_some_iff.mp hHead
        have hTail := ih (fun h => hQuote (.tail _ h)) (fun h => hBackslash (.tail _ h))
        show ((c :: n) ++ '"' :: follow).isPrefixOf (c :: (Literal.text l ++ '"' :: r)) =
          (c :: Literal.text l == c :: n && follow.isPrefixOf r)
        rw [List.cons_append, List.isPrefixOf_cons_cons, beq_self_eq_true, Bool.true_and, hTail,
          List.cons_beq_cons, beq_self_eq_true, Bool.true_and]
      · have hPrefix := (prefix_of_head_ne follow hHead hcQuote
          (Literal.text l ++ '"' :: r)).1
        have hSame := (prefix_of_head_ne follow hHead hcQuote (Literal.text l)).2
        show (n ++ '"' :: follow).isPrefixOf (c :: (Literal.text l ++ '"' :: r)) =
          (c :: Literal.text l == n && follow.isPrefixOf r)
        rw [hPrefix, hSame, Bool.false_and]
    | escape c stands hc => exact prefix_escaped hBackslash _ _
    | unicode digits hd => exact prefix_escaped hBackslash _ _

theorem isDelimiter_not_name {c : Char} (h : isDelimiter c = true) :
    (c.isAlphanum || c == '_') = false := by
  simp only [isDelimiter, List.contains_eq_mem, List.mem_cons, List.not_mem_nil, or_false,
    decide_eq_true_eq] at h
  rcases h with rfl | rfl | rfl | rfl | rfl | rfl | rfl | rfl <;> decide

theorem seek_of_ne {c : Char} (hc : c ≠ '"') (s : Str) :
    seek (pattern n follow) (c :: s) = seek (pattern n follow) s := by
  have hNe : ('"' == c) = false := beq_eq_false_iff_ne.mpr (Ne.symm hc)
  rw [seek_cons, pattern, List.isPrefixOf_cons_cons, hNe, Bool.false_and]
  rfl

theorem seek_of_not_mem {s : Str} (hs : '"' ∉ s) (t : Str) :
    seek (pattern n follow) (s ++ t) = seek (pattern n follow) t := by
  induction s with
  | nil => rfl
  | cons c s ih =>
    rw [List.mem_cons, not_or] at hs
    rw [List.cons_append, seek_of_ne (Ne.symm hs.1), ih hs.2]

theorem seek_quote (s : Str) :
    seek (pattern n follow) ('"' :: s) =
      if (n ++ '"' :: follow).isPrefixOf s then some ('"' :: s)
      else seek (pattern n follow) s := by
  rw [seek_cons, pattern, List.isPrefixOf_cons_cons, beq_self_eq_true, Bool.true_and]

/-- No name starts at the closing quote of a literal. -/
theorem seek_close (hn : isName n = true) {ts : List Token} (hDelimited : Delimited ts) :
    seek (pattern n follow) ('"' :: render ts) = seek (pattern n follow) (render ts) := by
  rw [seek_quote, if_neg]
  cases ts with
  | nil =>
    rw [render_nil]
    cases n <;> exact Bool.false_ne_true
  | cons t ts =>
    cases t with
    | string l => exact absurd hDelimited not_false
    | char c hc =>
      have hDelimiter : isDelimiter c = true := hDelimited
      have hNotName : c ∉ n := not_mem_of_isName hn (isDelimiter_not_name hDelimiter)
      have hPrefix := (prefix_of_head_ne follow (head?_ne_of_not_mem hNotName) hc (render ts)).1
      rw [render_cons, Token.text, List.singleton_append, hPrefix]
      exact Bool.false_ne_true

/-- The search inside a literal, up to its end. -/
theorem seek_literal (hn : isName n = true) (l : Literal) {ts : List Token}
    (hDelimited : Delimited ts) :
    seek (pattern n follow) (l.text ++ '"' :: render ts) =
      if l.endsIn n && follow.isPrefixOf (render ts) then some (pattern n (render ts))
      else seek (pattern n follow) (render ts) := by
  induction l with
  | nil => exact seek_close hn hDelimited
  | cons item l ih =>
    cases item with
    | plain c hc =>
      have hQuote : '"' ∉ [c] := by
        rw [List.mem_singleton]
        rintro rfl
        cases hc
      rw [Literal.text_cons, List.append_assoc, Item.text, seek_of_not_mem hQuote, ih]
      rfl
    | unicode digits hd =>
      have hQuote : '"' ∉ '\\' :: 'u' :: digits := by
        rw [List.mem_cons, List.mem_cons, not_or, not_or]
        refine ⟨by decide, by decide, ?_⟩
        intro hMem
        exact absurd (hd.2 _ hMem) (by decide)
      rw [Literal.text_cons, List.append_assoc, Item.text, seek_of_not_mem hQuote, ih]
      rfl
    | escape c stands hc =>
      rw [Literal.text_cons, List.append_assoc, Item.text]
      by_cases hQuote : c = '"'
      · -- the pattern may start at an escaped quote
        subst hQuote
        have hPrefix := prefix_literal follow (not_mem_of_isName hn (by decide))
          (not_mem_of_isName hn (by decide)) l (render ts)
        rw [List.cons_append, seek_of_ne (by decide), List.singleton_append, seek_quote, hPrefix,
          ih, Literal.endsIn, beq_self_eq_true, Bool.true_and]
        by_cases hText : Literal.text l = n
        · rw [hText, beq_self_eq_true, Bool.true_and, Bool.true_or, Bool.true_and]
          by_cases hFollow : follow.isPrefixOf (render ts) = true
          · rw [if_pos hFollow, if_pos hFollow]
            rfl
          · rw [if_neg hFollow, if_neg hFollow, if_neg (by simp [hFollow])]
        · rw [beq_eq_false_iff_ne.mpr hText, Bool.false_and, Bool.false_or]
          exact if_neg Bool.false_ne_true
      · have hNot : '"' ∉ ['\\', c] := by
          rw [List.mem_cons, List.mem_singleton, not_or]
          exact ⟨by decide, Ne.symm hQuote⟩
        rw [seek_of_not_mem hNot, ih, Literal.endsIn, beq_eq_false_iff_ne.mpr hQuote,
          Bool.false_and, Bool.false_or]

/-- **The search for a quoted name finds the first literal that mentions it.** -/
theorem seek_render (follow : Str) (hn : isName n = true) {ts : List Token}
    (hSeparated : Separated ts) :
    seek (pattern n follow) (render ts) =
      (afterMention n follow ts).map fun rest => pattern n (render rest) := by
  induction ts with
  | nil => exact seek_nil (by rw [pattern]; exact List.cons_ne_nil _ _)
  | cons t ts ih =>
    cases t with
    | char c hc =>
      rw [render_cons, Token.text, List.singleton_append, seek_of_ne hc]
      exact ih hSeparated
    | string l =>
      obtain ⟨hDelimited, hRest⟩ := hSeparated
      have hText : render (.string l :: ts) = '"' :: (l.text ++ '"' :: render ts) := by
        show '"' :: (l.text ++ ['"'] ++ render ts) = '"' :: (l.text ++ '"' :: render ts)
        rw [List.append_assoc]
        rfl
      have hPrefix := prefix_literal follow (not_mem_of_isName hn (by decide))
        (not_mem_of_isName hn (by decide)) l (render ts)
      rw [hText, seek_quote, hPrefix, seek_literal hn l hDelimited, ih hRest, afterMention,
        Literal.mentions]
      by_cases hSame : l.text = n
      · rw [hSame, beq_self_eq_true, Bool.true_and, Bool.true_or, Bool.true_and]
        by_cases hFollow : follow.isPrefixOf (render ts) = true
        · rw [if_pos hFollow, if_pos hFollow]
          rfl
        · rw [if_neg hFollow, if_neg hFollow, if_neg (by simp [hFollow])]
      · rw [beq_eq_false_iff_ne.mpr hSame, Bool.false_and, Bool.false_or,
          if_neg Bool.false_ne_true]
        split <;> rfl

/-- What follows a mention is delimited from it, and separated itself. -/
theorem separated_of_afterMention {ts rest : List Token} (hSeparated : Separated ts)
    (h : afterMention n follow ts = some rest) : Delimited rest ∧ Separated rest := by
  induction ts with
  | nil => cases h
  | cons t ts ih =>
    cases t with
    | char c hc => exact ih hSeparated h
    | string l =>
      rw [afterMention] at h
      split at h
      · obtain rfl := Option.some.inj h
        exact hSeparated
      · exact ih hSeparated.2 h

theorem afterMention_suffix {ts rest : List Token} (h : afterMention n follow ts = some rest) :
    rest <:+ ts := by
  induction ts with
  | nil => cases h
  | cons t ts ih =>
    cases t with
    | char c hc => exact (ih h).trans (List.suffix_cons _ _)
    | string l =>
      rw [afterMention] at h
      split at h
      · obtain rfl := Option.some.inj h
        exact List.suffix_cons _ _
      · exact (ih h).trans (List.suffix_cons _ _)

/-- What follows a mention starts with the text that was asked for. -/
theorem follow_of_afterMention {ts rest : List Token} (h : afterMention n follow ts = some rest) :
    follow.isPrefixOf (render rest) = true := by
  induction ts with
  | nil => cases h
  | cons t ts ih =>
    cases t with
    | char c hc => exact ih h
    | string l =>
      rw [afterMention] at h
      split at h
      · rename_i hMention
        obtain rfl : ts = rest := Option.some.inj h
        exact (Bool.and_eq_true_iff.mp hMention).2
      · exact ih h

theorem drop_pattern (n r : Str) : (pattern n r).drop (pattern n []).length = r := by
  have hSplit : pattern n r = pattern n [] ++ r := by
    rw [pattern, pattern, List.cons_append, List.append_assoc]
    rfl
  rw [hSplit, List.drop_left]

end Search

-- ---------------------------------------------------------------------------
-- Values
-- ---------------------------------------------------------------------------

def isBlank (c : Char) : Bool := c == ' ' || c == '\t' || c == '\n' || c == '\r'

/-- The characters of numbers, true, false and null. -/
def isScalarChar (c : Char) : Bool := c.isAlphanum || c == '+' || c == '-' || c == '.'

/-- White space. -/
structure Blank where
  text : Str
  blank : text.all isBlank = true

def Blank.none : Blank := ⟨[], rfl⟩

/-- A number, true, false or null. -/
structure Scalar where
  text : Str
  ne_nil : text ≠ []
  chars : text.all isScalarChar = true

/-- A number. -/
def Scalar.ofNat (n : Nat) : Scalar where
  text := formatNat n
  ne_nil := formatNat_ne_nil n
  chars := by
    rw [List.all_eq_true]
    intro c hc
    rw [isScalarChar, Char.isAlphanum, isDigit_of_mem_formatNat hc, Bool.or_true, Bool.true_or,
      Bool.true_or, Bool.true_or]

/-- The white space of a member: before it, around its colon and after it. -/
structure Layout where
  before : Blank
  afterName : Blank
  beforeValue : Blank
  after : Blank

/-- A member without white space. -/
def Layout.tight : Layout := ⟨.none, .none, .none, .none⟩

mutual

inductive Value
  | string (l : Literal)
  | scalar (s : Scalar)
  | array (blank : Blank) (elems : Elems)
  | object (blank : Blank) (members : Members)

inductive Elems
  | nil
  | cons (before : Blank) (value : Value) (after : Blank) (rest : Elems)

inductive Members
  | nil
  | cons (layout : Layout) (name : Literal) (value : Value) (rest : Members)

end

/-- A text without quotes, as tokens. -/
def charTokens (s : Str) (h : ∀ c ∈ s, c ≠ '"') : List Token := s.pmap (fun c hc => .char c hc) h

def Blank.tokens (b : Blank) : List Token :=
  charTokens b.text fun c hc => by
    rintro rfl
    cases List.all_eq_true.mp b.blank _ hc

def Scalar.tokens (s : Scalar) : List Token :=
  charTokens s.text fun c hc => by
    rintro rfl
    cases List.all_eq_true.mp s.chars _ hc

def comma : Token := .char ',' (by decide)

def colon : Token := .char ':' (by decide)

def openBrace : Token := .char '\x7b' (by decide)

def closeBrace : Token := .char '\x7d' (by decide)

def Elems.separator : Elems → List Token
  | nil => []
  | cons _ _ _ _ => [comma]

def Members.separator : Members → List Token
  | nil => []
  | cons _ _ _ _ => [comma]

mutual

def Value.tokens : Value → List Token
  | .string l => [.string l]
  | .scalar s => s.tokens
  | .array blank elems =>
    .char '[' (by decide) :: (blank.tokens ++ (elems.tokens ++ [.char ']' (by decide)]))
  | .object blank members => openBrace :: (blank.tokens ++ (members.tokens ++ [closeBrace]))

def Elems.tokens : Elems → List Token
  | .nil => []
  | .cons before value after rest =>
    before.tokens ++ (value.tokens ++ (after.tokens ++ (rest.separator ++ rest.tokens)))

def Members.tokens : Members → List Token
  | .nil => []
  | .cons layout name value rest =>
    layout.before.tokens ++ .string name :: (layout.afterName.tokens ++
      colon :: (layout.beforeValue.tokens ++ (value.tokens ++ (layout.after.tokens ++
        (rest.separator ++ rest.tokens)))))

end

theorem render_charTokens (s : Str) (h : ∀ c ∈ s, c ≠ '"') : render (charTokens s h) = s := by
  induction s with
  | nil => rfl
  | cons c s ih =>
    show c :: render (charTokens s fun x hx => h x (.tail _ hx)) = c :: s
    rw [ih]

@[simp] theorem Blank.render_tokens (b : Blank) : render b.tokens = b.text := render_charTokens ..

@[simp] theorem Scalar.render_tokens (s : Scalar) : render s.tokens = s.text := render_charTokens ..

-- ---------------------------------------------------------------------------
-- Every string of a value is followed by a delimiter
-- ---------------------------------------------------------------------------

theorem separated_charTokens {s : Str} {h : ∀ c ∈ s, c ≠ '"'} {rest : List Token}
    (hRest : Separated rest) : Separated (charTokens s h ++ rest) := by
  induction s with
  | nil => exact hRest
  | cons c s ih => exact ih (h := fun x hx => h x (.tail _ hx))

theorem isDelimiter_of_isBlank {c : Char} (h : isBlank c = true) : isDelimiter c = true := by
  simp only [isBlank, Bool.or_eq_true, beq_iff_eq] at h
  rcases h with ((rfl | rfl) | rfl) | rfl <;> decide

theorem Blank.delimited (b : Blank) {rest : List Token} (hRest : Delimited rest) :
    Delimited (b.tokens ++ rest) := by
  obtain ⟨text, hText⟩ := b
  cases text with
  | nil => exact hRest
  | cons c text => exact isDelimiter_of_isBlank (List.all_eq_true.mp hText c (.head _))

theorem Blank.separated (b : Blank) {rest : List Token} (hRest : Separated rest) :
    Separated (b.tokens ++ rest) := separated_charTokens hRest

theorem Elems.delimited (elems : Elems) {rest : List Token} (hRest : Delimited rest) :
    Delimited (elems.separator ++ (elems.tokens ++ rest)) := by
  cases elems with
  | nil => exact hRest
  | cons before value after elems => exact rfl

theorem Members.delimited (members : Members) {rest : List Token} (hRest : Delimited rest) :
    Delimited (members.separator ++ (members.tokens ++ rest)) := by
  cases members with
  | nil => exact hRest
  | cons layout name value members => exact rfl

theorem Elems.separated_separator (elems : Elems) {rest : List Token} (hRest : Separated rest) :
    Separated (elems.separator ++ rest) := by
  cases elems <;> exact hRest

theorem Members.separated_separator (members : Members) {rest : List Token}
    (hRest : Separated rest) : Separated (members.separator ++ rest) := by
  cases members <;> exact hRest

mutual

/-- The induction is on the value, with its members and elements. -/
theorem Value.separated (value : Value) {rest : List Token} (hDelimited : Delimited rest)
    (hRest : Separated rest) : Separated (value.tokens ++ rest) := by
  cases value with
  | string l => exact ⟨hDelimited, hRest⟩
  | scalar s => exact separated_charTokens hRest
  | array blank elems =>
    rw [Value.tokens, List.cons_append, List.append_assoc, List.append_assoc]
    exact blank.separated (elems.separated rfl hRest)
  | object blank members =>
    rw [Value.tokens, List.cons_append, List.append_assoc, List.append_assoc]
    exact blank.separated (members.separated rfl hRest)

theorem Elems.separated (elems : Elems) {rest : List Token} (hDelimited : Delimited rest)
    (hRest : Separated rest) : Separated (elems.tokens ++ rest) := by
  cases elems with
  | nil => exact hRest
  | cons before value after elems =>
    have hAfter := after.delimited (elems.delimited hDelimited)
    simp only [Elems.tokens, List.append_assoc]
    exact before.separated (value.separated hAfter (after.separated
      (elems.separated_separator (elems.separated hDelimited hRest))))

theorem Members.separated (members : Members) {rest : List Token} (hDelimited : Delimited rest)
    (hRest : Separated rest) : Separated (members.tokens ++ rest) := by
  cases members with
  | nil => exact hRest
  | cons layout name value members =>
    have hAfter := layout.after.delimited (members.delimited hDelimited)
    have hValue := value.separated hAfter (layout.after.separated
      (members.separated_separator (members.separated hDelimited hRest)))
    simp only [Members.tokens, List.append_assoc, List.cons_append]
    exact layout.before.separated ⟨layout.afterName.delimited rfl,
      layout.afterName.separated (layout.beforeValue.separated hValue)⟩

end

-- ---------------------------------------------------------------------------
-- The first mention of a name among the members of an object
-- ---------------------------------------------------------------------------

/-- Where a name is mentioned first: as the name of an own member, or anywhere
else. -/
inductive Mention
  | own (layout : Layout) (value : Value) (following : List Token)
  | foreign (following : List Token)

/-- The tokens after the mention. -/
def Mention.rest : Mention → List Token
  | own layout value following =>
    layout.afterName.tokens ++ colon :: (layout.beforeValue.tokens ++ (value.tokens ++ following))
  | foreign following => following

/-- In document order; `close` is what follows the members. -/
def Members.firstMention (n : Str) (close : List Token) : Members → Option Mention
  | .nil => (afterMention n [] close).map .foreign
  | .cons layout name value rest =>
    let following := layout.after.tokens ++ (rest.separator ++ (rest.tokens ++ close))
    if name.text = n then some (.own layout value following)
    else if name.endsIn n then some (.foreign (Mention.own layout value following).rest)
    else match afterMention n [] value.tokens with
      | some inside => some (.foreign (inside ++ following))
      | none => rest.firstMention n close

/-- The values of the members with a name, in order. -/
def Members.named (n : Str) : Members → List Value
  | .nil => []
  | .cons _ name value rest =>
    if name.decode = some n then value :: rest.named n else rest.named n

theorem afterMention_charTokens {n follow s : Str} {h : ∀ c ∈ s, c ≠ '"'} {rest : List Token} :
    afterMention n follow (charTokens s h ++ rest) = afterMention n follow rest := by
  induction s with
  | nil => rfl
  | cons c s ih => exact ih (h := fun x hx => h x (.tail _ hx))

@[simp] theorem afterMention_blank {n follow : Str} (b : Blank) {rest : List Token} :
    afterMention n follow (b.tokens ++ rest) = afterMention n follow rest :=
  afterMention_charTokens

/-- A mention in the first part, or else in the second. -/
theorem afterMention_append (n : Str) (ts us : List Token) :
    afterMention n [] (ts ++ us) =
      match afterMention n [] ts with
      | some rest => some (rest ++ us)
      | none => afterMention n [] us := by
  induction ts with
  | nil => rfl
  | cons t ts ih =>
    cases t with
    | char c hc => exact ih
    | string l =>
      rw [List.cons_append, afterMention, afterMention]
      by_cases hMentions : l.mentions n = true
      · rw [hMentions]
        rfl
      · rw [Bool.not_eq_true] at hMentions
        rw [hMentions, Bool.false_and, Bool.false_and, if_neg Bool.false_ne_true,
          if_neg Bool.false_ne_true]
        exact ih

theorem isPrefixOf_colon (t : Token) (ts us : List Token) :
    ":".toList.isPrefixOf (render (t :: ts ++ us)) = ":".toList.isPrefixOf (render (t :: ts)) := by
  cases t <;> rfl

/-- A mention with a colon after it in the first part, or else in the second,
which starts with no colon itself. -/
theorem afterMention_append_colon (n : Str) (ts : List Token) {us : List Token}
    (hStart : ":".toList.isPrefixOf (render us) = false) :
    afterMention n ":".toList (ts ++ us) =
      match afterMention n ":".toList ts with
      | some rest => some (rest ++ us)
      | none => afterMention n ":".toList us := by
  induction ts with
  | nil => rfl
  | cons t ts ih =>
    cases t with
    | char c hc => exact ih
    | string l =>
      have hColon : ":".toList.isPrefixOf (render (ts ++ us)) =
          ":".toList.isPrefixOf (render ts) := by
        cases ts with
        | nil => exact hStart
        | cons t ts => exact isPrefixOf_colon t ts us
      rw [List.cons_append, afterMention, afterMention, hColon]
      cases l.mentions n && ":".toList.isPrefixOf (render ts) with
      | true => rfl
      | false =>
        rw [if_neg Bool.false_ne_true, if_neg Bool.false_ne_true]
        exact ih

/-- **The first mention among the members is the first in their tokens.** The
induction is on the members. -/
theorem Members.afterMention_tokens (n : Str) (close : List Token) : ∀ members : Members,
    afterMention n [] (members.tokens ++ close) =
      (members.firstMention n close).map Mention.rest
  | .nil => by
    rw [Members.tokens, List.nil_append, Members.firstMention, Option.map_map]
    exact Option.map_id'.symm
  | .cons layout name value rest => by
    have ih := Members.afterMention_tokens n close rest
    rw [Members.firstMention]
    simp only [Members.tokens, List.append_assoc, List.cons_append, afterMention_blank]
    rw [afterMention, Literal.mentions]
    by_cases hName : name.text = n
    · rw [if_pos hName, beq_iff_eq.mpr hName]
      rfl
    · rw [if_neg hName, beq_eq_false_iff_ne.mpr hName, Bool.false_or]
      cases hEnds : name.endsIn n with
      | true => rfl
      | false =>
        rw [Bool.false_and, if_neg Bool.false_ne_true, if_neg Bool.false_ne_true,
          afterMention_blank, colon, afterMention, afterMention_blank, afterMention_append]
        cases hInside : afterMention n [] value.tokens with
        | some inside => rfl
        | none =>
          dsimp only
          rw [afterMention_blank, ← ih]
          cases rest with
          | nil => rfl
          | cons layout name value rest => rfl

/-- An own mention is the name of a member, and a value follows it. -/
theorem Members.named_of_firstMention {n : Str} {close : List Token} {layout : Layout}
    {value : Value} {following : List Token} (hn : isName n = true) : ∀ {members : Members},
    members.firstMention n close = some (.own layout value following) → value ∈ members.named n
  | .nil, h => by
    rw [Members.firstMention] at h
    obtain ⟨_, -, hEq⟩ := Option.map_eq_some_iff.mp h
    cases hEq
  | .cons layout' name value' rest, h => by
    rw [Members.firstMention] at h
    rw [Members.named]
    by_cases hName : name.text = n
    · rw [if_pos hName] at h
      obtain ⟨-, rfl, -⟩ := Mention.own.inj (Option.some.inj h)
      have hPlain : name.isPlain = true := by
        apply Literal.isPlain_of_text
        rw [hName]
        exact not_mem_of_isName hn (by decide)
      rw [if_pos (by rw [Literal.decode_of_isPlain hPlain, hName])]
      exact .head _
    · rw [if_neg hName] at h
      have hRest : value ∈ rest.named n := by
        split at h
        · cases Option.some.inj h
        · split at h
          · cases Option.some.inj h
          · exact Members.named_of_firstMention hn h
      split
      · exact .tail _ hRest
      · exact hRest

/-- What ends a value in an object. -/
def EndsValue (ts : List Token) : Prop :=
  ∃ c s, render ts = c :: s ∧ (isBlank c = true ∨ c = ',' ∨ c = '\x7d')

theorem Blank.endsValue (b : Blank) {rest : List Token} (hRest : EndsValue rest) :
    EndsValue (b.tokens ++ rest) := by
  obtain ⟨text, hText⟩ := b
  cases text with
  | nil => exact hRest
  | cons c text =>
    refine ⟨c, text ++ render rest, ?_, .inl (List.all_eq_true.mp hText c (.head _))⟩
    rw [render_append, Blank.render_tokens]
    rfl

theorem Members.endsValue_of_firstMention {n : Str} {close : List Token} {layout : Layout}
    {value : Value} {following : List Token} (hClose : EndsValue close) : ∀ {members : Members},
    members.firstMention n close = some (.own layout value following) → EndsValue following
  | .nil, h => by
    rw [Members.firstMention] at h
    obtain ⟨_, -, hEq⟩ := Option.map_eq_some_iff.mp h
    cases hEq
  | .cons layout' name value' rest, h => by
    rw [Members.firstMention] at h
    split at h
    · obtain ⟨-, -, rfl⟩ := Mention.own.inj (Option.some.inj h)
      apply Blank.endsValue
      cases rest with
      | nil => exact hClose
      | cons layout name value rest => exact ⟨',', _, rfl, .inr (.inl rfl)⟩
    · split at h
      · cases Option.some.inj h
      · split at h
        · cases Option.some.inj h
        · exact Members.endsValue_of_firstMention hClose h

end JsonText
