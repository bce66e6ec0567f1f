import FieldRules.Value

namespace FieldRules.Value

/-! JSON text, written and read. In written text there are no blanks, members are in order, and in
strings only the quote, the backslash and the control characters below the blank are escaped.
Reading is strict: blanks are the space, the tab and the two line ends, and a string holds no raw
control character and no lone surrogate. Of two members with one name the last value is kept, in the
place of the first. -/

def escapeChar (c : Char) : List Char :=
  if c = '"' then ['\\', '"']
  else if c = '\\' then ['\\', '\\']
  else if c = '\x08' then ['\\', 'b']
  else if c = '\x0c' then ['\\', 'f']
  else if c = '\n' then ['\\', 'n']
  else if c = '\r' then ['\\', 'r']
  else if c = '\t' then ['\\', 't']
  else if c.toNat < 0x20 then
    ['\\', 'u', '0', '0', Digits.hexDigit (c.toNat / 16), Digits.hexDigit (c.toNat % 16)]
  else [c]

def quote (text : String) : List Char :=
  '"' :: (text.toList.flatMap escapeChar ++ ['"'])

mutual
def write : Value → List Char
  | .null => "null".toList
  | .bool true => "true".toList
  | .bool false => "false".toList
  | .num n => n.write
  | .str s => quote s
  | .arr items => '[' :: (writeItems items ++ [']'])
  | .obj members => '\x7b' :: (writeMembers members ++ ['\x7d'])

def writeItems : List Value → List Char
  | [] => []
  | [item] => write item
  | item :: next :: items => write item ++ ',' :: writeItems (next :: items)

def writeMembers : List (String × Value) → List Char
  | [] => []
  | [(name, value)] => quote name ++ ':' :: write value
  | (name, value) :: next :: members =>
      quote name ++ ':' :: (write value ++ ',' :: writeMembers (next :: members))
end

def text (value : Value) : String := String.ofList value.write

inductive Token where
  | openArray
  | closeArray
  | openObject
  | closeObject
  | comma
  | colon
  | string (value : String)
  | literal (value : Value)

namespace Token

open Digits

def isBlank (c : Char) : Bool :=
  c == ' ' || c == '\t' || c == '\n' || c == '\r'

def scanUnit? : List Char → Option (Nat × List Char)
  | a :: b :: c :: d :: rest => do
      let a ← hexDigit? a
      let b ← hexDigit? b
      let c ← hexDigit? c
      let d ← hexDigit? d
      return (((a * 16 + b) * 16 + c) * 16 + d, rest)
  | _ => none

/-- The character that starts with the code unit `unit`: a surrogate pair takes another unit. -/
def completeUnit? (unit : Nat) (rest : List Char) : Option (Char × List Char) :=
  if 0xD800 ≤ unit ∧ unit < 0xDC00 then
    match rest with
    | '\\' :: 'u' :: text =>
        (scanUnit? text).bind fun (low, rest) =>
          if 0xDC00 ≤ low ∧ low < 0xE000 then
            some (Char.ofNat (0x10000 + (unit - 0xD800) * 0x400 + (low - 0xDC00)), rest)
          else none
    | _ => none
  else if 0xDC00 ≤ unit ∧ unit < 0xE000 then none
  else some (Char.ofNat unit, rest)

def simpleEscape? (c : Char) : Option Char :=
  match c with
  | '"' => some '"'
  | '\\' => some '\\'
  | '/' => some '/'
  | 'b' => some '\x08'
  | 'f' => some '\x0c'
  | 'n' => some '\n'
  | 'r' => some '\r'
  | 't' => some '\t'
  | _ => none

def scanChar? : List Char → Option (Char × List Char)
  | '\\' :: 'u' :: text => (scanUnit? text).bind fun (unit, rest) => completeUnit? unit rest
  | '\\' :: c :: rest => (simpleEscape? c).map (·, rest)
  | ['\\'] | [] => none
  | c :: rest => if c.toNat < 0x20 then none else some (c, rest)

theorem length_of_scanUnit? {text rest : List Char} {unit : Nat}
    (h : scanUnit? text = some (unit, rest)) : rest.length < text.length := by
  unfold scanUnit? at h
  split at h
  · simp only [Option.bind_eq_bind, Option.bind_eq_some_iff] at h
    obtain ⟨_, _, _, _, _, _, _, _, heq⟩ := h
    cases heq
    simp only [List.length_cons]
    omega
  · cases h

theorem length_of_completeUnit? {text rest : List Char} {unit : Nat} {c : Char}
    (h : completeUnit? unit text = some (c, rest)) : rest.length ≤ text.length := by
  unfold completeUnit? at h
  split at h
  · split at h
    · obtain ⟨⟨low, last⟩, hlow, h⟩ := Option.bind_eq_some_iff.1 h
      have hlast := length_of_scanUnit? hlow
      dsimp only at h
      split at h
      · have hrest : last = rest := congrArg Prod.snd (Option.some.inj h)
        subst hrest
        simp only [List.length_cons]
        omega
      · cases h
    · cases h
  · split at h
    · cases h
    · have hrest : text = rest := congrArg Prod.snd (Option.some.inj h)
      exact Nat.le_of_eq (congrArg List.length hrest.symm)

theorem length_of_scanChar? {text rest : List Char} {c : Char}
    (h : scanChar? text = some (c, rest)) : rest.length < text.length := by
  unfold scanChar? at h
  split at h
  · obtain ⟨⟨unit, after⟩, hunit, h⟩ := Option.bind_eq_some_iff.1 h
    have hafter := length_of_scanUnit? hunit
    have hrest := length_of_completeUnit? h
    simp only [List.length_cons]
    omega
  · obtain ⟨_, _, heq⟩ := Option.map_eq_some_iff.1 h
    cases heq
    simp only [List.length_cons]
    omega
  · cases h
  · cases h
  · split at h
    · cases h
    · cases h
      simp

def scanString? (text : List Char) : Option (List Char × List Char) :=
  match text with
  | '"' :: rest => some ([], rest)
  | text =>
      match h : scanChar? text with
      | none => none
      | some (c, rest) =>
          have := length_of_scanChar? h
          (scanString? rest).map fun (chars, rest) => (c :: chars, rest)
termination_by text.length
decreasing_by assumption

theorem length_of_scanString? {text chars rest : List Char}
    (h : scanString? text = some (chars, rest)) : rest.length < text.length := by
  fun_induction scanString? text generalizing chars with
  | case1 tail =>
      cases h
      simp
  | case2 => cases h
  | case3 text _ c after hchar _ ih =>
      obtain ⟨⟨more, last⟩, hmore, heq⟩ := Option.map_eq_some_iff.1 h
      cases heq
      exact Nat.lt_trans (ih hmore) (length_of_scanChar? hchar)

def scan? : List Char → Option (Token × List Char)
  | '[' :: rest => some (.openArray, rest)
  | ']' :: rest => some (.closeArray, rest)
  | '\x7b' :: rest => some (.openObject, rest)
  | '\x7d' :: rest => some (.closeObject, rest)
  | ',' :: rest => some (.comma, rest)
  | ':' :: rest => some (.colon, rest)
  | 'n' :: 'u' :: 'l' :: 'l' :: rest => some (.literal .null, rest)
  | 't' :: 'r' :: 'u' :: 'e' :: rest => some (.literal (.bool true), rest)
  | 'f' :: 'a' :: 'l' :: 's' :: 'e' :: rest => some (.literal (.bool false), rest)
  | '"' :: text =>
      (scanString? text).map fun (chars, rest) => (.string (String.ofList chars), rest)
  | text =>
      (NumberLiteral.scan? text).bind fun (scanned, rest) =>
        scanned.number?.map fun number => (.literal (.num number), rest)

theorem length_of_scan? {text rest : List Char} {token : Token}
    (h : scan? text = some (token, rest)) : rest.length < text.length := by
  unfold scan? at h
  split at h
  case h_10 =>
    obtain ⟨⟨chars, after⟩, hstring, heq⟩ := Option.map_eq_some_iff.1 h
    cases heq
    exact Nat.lt_succ_of_lt (length_of_scanString? hstring)
  case h_11 =>
    obtain ⟨⟨scanned, after⟩, hscanned, h⟩ := Option.bind_eq_some_iff.1 h
    obtain ⟨number, _, heq⟩ := Option.map_eq_some_iff.1 h
    cases heq
    exact NumberLiteral.length_of_scan? hscanned
  all_goals
    cases h
    simp only [List.length_cons]
    omega

end Token

def tokens? (text : List Char) : Option (List Token) :=
  match text with
  | [] => some []
  | c :: text =>
      if Token.isBlank c then tokens? text
      else
        match h : Token.scan? (c :: text) with
        | none => none
        | some (token, rest) =>
            have := Token.length_of_scan? h
            (tokens? rest).map (token :: ·)
termination_by text.length
decreasing_by
  · exact Nat.lt_succ_self _
  · assumption

/-- An array or object that is open around the value being read. -/
inductive Frame where
  | array (reversed : List Value)
  | object (members : List (String × Value)) (name : String)

/-- What has been read of the innermost open array or object, and what may come next. -/
inductive Phase where
  | value
  | firstItem
  | afterItem (reversed : List Value)
  | firstName
  | name (members : List (String × Value))
  | colon (members : List (String × Value)) (name : String)
  | afterMember (members : List (String × Value))
  | complete (value : Value)

structure Reader where
  outer : List Frame
  phase : Phase

namespace Reader

def start : Reader := ⟨[], .value⟩

def place (value : Value) : List Frame → Reader
  | [] => ⟨[], .complete value⟩
  | .array reversed :: outer => ⟨outer, .afterItem (value :: reversed)⟩
  | .object members name :: outer => ⟨outer, .afterMember (Entries.insert name value members)⟩

/-- Reads the first token of a value; at most `limit` arrays and objects may be open at once. -/
def begin? (limit : Nat) (outer : List Frame) : Token → Option Reader
  | .literal value => some (place value outer)
  | .string value => some (place (.str value) outer)
  | .openArray => if outer.length < limit then some ⟨outer, .firstItem⟩ else none
  | .openObject => if outer.length < limit then some ⟨outer, .firstName⟩ else none
  | _ => none

def step? (limit : Nat) (reader : Reader) (token : Token) : Option Reader :=
  match reader.phase, token with
  | .value, token => begin? limit reader.outer token
  | .firstItem, .closeArray => some (place (.arr []) reader.outer)
  | .firstItem, token => begin? limit (.array [] :: reader.outer) token
  | .afterItem reversed, .comma => some ⟨.array reversed :: reader.outer, .value⟩
  | .afterItem reversed, .closeArray => some (place (.arr reversed.reverse) reader.outer)
  | .firstName, .closeObject => some (place (.obj []) reader.outer)
  | .firstName, .string name => some ⟨reader.outer, .colon [] name⟩
  | .name members, .string name => some ⟨reader.outer, .colon members name⟩
  | .colon members name, .colon => some ⟨.object members name :: reader.outer, .value⟩
  | .afterMember members, .comma => some ⟨reader.outer, .name members⟩
  | .afterMember members, .closeObject => some (place (.obj members) reader.outer)
  | _, _ => none

theorem step?_firstItem {limit : Nat} {outer : List Frame} {token : Token}
    (hopen : token ≠ .closeArray) :
    step? limit ⟨outer, .firstItem⟩ token = begin? limit (.array [] :: outer) token := by
  cases token with
  | closeArray => exact absurd rfl hopen
  | _ => rfl

def value? (reader : Reader) : Option Value :=
  match reader.phase with
  | .complete value => some value
  | _ => none

end Reader

/-- The value of a JSON text in which at most `limit` arrays and objects are nested. -/
def read? (limit : Nat) (text : String) : Option Value := do
  let tokens ← tokens? text.toList
  let reader ← tokens.foldlM (Reader.step? limit) Reader.start
  reader.value?

end FieldRules.Value
