import FieldRules.Value.Text

namespace FieldRules

/-! JSON text by its grammar: the texts of tokens, the tokens of a text with blanks anywhere between
them, and the tokens of a value. A text that is read as a value is such a text. -/

namespace NumberLiteral

open Digits

variable {text rest digits : List Char}

def IsDigits (digits : List Char) : Prop := digits ≠ [] ∧ ∀ c ∈ digits, c.isDigit = true

def IsFraction (text : List Char) : Prop :=
  text = [] ∨ ∃ digits, IsDigits digits ∧ text = '.' :: digits

def IsExponent (text : List Char) : Prop :=
  text = [] ∨ ∃ mark sign digits, (mark = 'e' ∨ mark = 'E') ∧
    (sign = [] ∨ sign = ['+'] ∨ sign = ['-']) ∧ IsDigits digits ∧ text = mark :: (sign ++ digits)

/-- A number: perhaps a sign, digits without a needless leading zero, perhaps a fraction and perhaps
an exponent. -/
def IsNumberText (text : List Char) : Prop :=
  ∃ sign whole fraction exponent, text = sign ++ (whole ++ (fraction ++ exponent)) ∧
    (sign = [] ∨ sign = ['-']) ∧ (IsDigits whole ∧ ∀ c more, whole ≠ '0' :: c :: more) ∧
      IsFraction fraction ∧ IsExponent exponent

theorem eq_append_of_scanDigits (hscan : scanDigits text = (digits, rest)) (hne : digits ≠ []) :
    text = digits ++ rest ∧ IsDigits digits := by
  cases hscan
  exact ⟨List.takeWhile_append_dropWhile.symm, hne, List.all_eq_true.mp List.all_takeWhile⟩

theorem eq_append_of_scanSign (text : List Char) :
    ∃ sign, text = sign ++ (scanSign text).2 ∧ (sign = [] ∨ sign = ['-']) := by
  unfold scanSign
  split
  next => exact ⟨['-'], rfl, .inr rfl⟩
  next => exact ⟨[], rfl, .inl rfl⟩

theorem eq_append_of_scanWhole? (h : scanWhole? text = some (digits, rest)) :
    text = digits ++ rest ∧ IsDigits digits ∧ ∀ c more, digits ≠ '0' :: c :: more := by
  unfold scanWhole? at h
  split at h
  next => cases h
  next => cases h
  next hnil hzero hscan =>
    cases h
    obtain ⟨htext, hdigits⟩ := eq_append_of_scanDigits hscan hnil
    exact ⟨htext, hdigits, hzero⟩

theorem eq_append_of_scanFraction? {fraction : Option (List Char)}
    (h : scanFraction? text = some (fraction, rest)) :
    ∃ word, text = word ++ rest ∧ IsFraction word := by
  unfold scanFraction? at h
  split at h
  next =>
    split at h
    next => cases h
    next digits _ hnil hscan =>
      cases h
      obtain ⟨rfl, hdigits⟩ := eq_append_of_scanDigits hscan hnil
      exact ⟨'.' :: digits, rfl, .inr ⟨digits, hdigits, rfl⟩⟩
  next =>
    cases h
    exact ⟨[], rfl, .inl rfl⟩

theorem eq_append_of_scanExponentDigits? {negative : Bool} {exponent : Option Int} {mark : Char}
    {sign : List Char} (h : scanExponentDigits? negative text = some (exponent, rest))
    (hmark : mark = 'e' ∨ mark = 'E') (hsign : sign = [] ∨ sign = ['+'] ∨ sign = ['-']) :
    ∃ word, mark :: (sign ++ text) = word ++ rest ∧ IsExponent word := by
  unfold scanExponentDigits? at h
  split at h
  next => cases h
  next digits _ hnil hscan =>
    cases h
    obtain ⟨rfl, hdigits⟩ := eq_append_of_scanDigits hscan hnil
    exact ⟨mark :: (sign ++ digits), by simp, .inr ⟨mark, sign, digits, hmark, hsign, hdigits, rfl⟩⟩

theorem eq_append_of_scanExponent? {exponent : Option Int}
    (h : scanExponent? text = some (exponent, rest)) :
    ∃ word, text = word ++ rest ∧ IsExponent word := by
  unfold scanExponent? at h
  split at h
  next => exact eq_append_of_scanExponentDigits? h (.inl rfl) (.inr (.inr rfl))
  next => exact eq_append_of_scanExponentDigits? h (.inr rfl) (.inr (.inr rfl))
  next => exact eq_append_of_scanExponentDigits? h (.inl rfl) (.inr (.inl rfl))
  next => exact eq_append_of_scanExponentDigits? h (.inr rfl) (.inr (.inl rfl))
  next => exact eq_append_of_scanExponentDigits? h (.inl rfl) (.inl rfl)
  next => exact eq_append_of_scanExponentDigits? h (.inr rfl) (.inl rfl)
  next =>
    cases h
    exact ⟨[], rfl, .inl rfl⟩

theorem eq_append_of_scan? {literal : NumberLiteral} (h : scan? text = some (literal, rest)) :
    ∃ word, text = word ++ rest ∧ IsNumberText word := by
  unfold scan? at h
  obtain ⟨⟨whole, afterWhole⟩, hwhole, h⟩ := Option.bind_eq_some_iff.1 h
  obtain ⟨⟨fraction, afterFraction⟩, hfraction, h⟩ := Option.bind_eq_some_iff.1 h
  obtain ⟨⟨exponent, afterExponent⟩, hexponent, h⟩ := Option.bind_eq_some_iff.1 h
  cases h
  obtain ⟨sign, htext, hsign⟩ := eq_append_of_scanSign text
  obtain ⟨hafter, hdigits⟩ := eq_append_of_scanWhole? hwhole
  obtain ⟨fractionText, rfl, hfractionText⟩ := eq_append_of_scanFraction? hfraction
  obtain ⟨exponentText, rfl, hexponentText⟩ := eq_append_of_scanExponent? hexponent
  refine ⟨sign ++ (whole ++ (fractionText ++ exponentText)), ?_, sign, whole, fractionText,
    exponentText, rfl, hsign, hdigits, hfractionText, hexponentText⟩
  rw [htext, hafter]
  simp

end NumberLiteral

namespace Value

open Digits Token

variable {text rest : List Char} {c : Char} {token : Token} {tokens : List Token}

/-- The four hexadecimal digits of a code unit. -/
def IsUnitText (digits : List Char) (unit : Nat) : Prop :=
  digits.length = 4 ∧ hexValue? digits = some unit

/-- One character inside a string: as itself, behind a backslash, or by the code units of its
UTF-16 form. -/
inductive IsCharText : List Char → Prop
  | plain {c : Char} (hcontrol : 0x20 ≤ c.toNat) (hquote : c ≠ '"') (hbackslash : c ≠ '\\') :
      IsCharText [c]
  | escape {c : Char} (hmem : c ∈ ['"', '\\', '/', 'b', 'f', 'n', 'r', 't']) :
      IsCharText ['\\', c]
  | unit {digits : List Char} {unit : Nat} (hdigits : IsUnitText digits unit)
      (hscalar : ¬ (0xD800 ≤ unit ∧ unit < 0xE000)) : IsCharText ('\\' :: 'u' :: digits)
  | pair {high low : List Char} {first second : Nat} (hhigh : IsUnitText high first)
      (hlow : IsUnitText low second) (hfirst : 0xD800 ≤ first ∧ first < 0xDC00)
      (hsecond : 0xDC00 ≤ second ∧ second < 0xE000) :
      IsCharText ('\\' :: 'u' :: (high ++ '\\' :: 'u' :: low))

theorem eq_append_of_scanUnit? {unit : Nat} (h : scanUnit? text = some (unit, rest)) :
    ∃ digits, text = digits ++ rest ∧ IsUnitText digits unit := by
  unfold scanUnit? at h
  split at h
  next a b c d _ =>
    simp only [Option.bind_eq_bind, Option.bind_eq_some_iff] at h
    obtain ⟨_, ha, _, hb, _, hc, _, hd, heq⟩ := h
    cases heq
    refine ⟨[a, b, c, d], rfl, rfl, ?_⟩
    simp [hexValue?, ha, hb, hc, hd]
    omega
  next => cases h

theorem eq_append_of_completeUnit? {digits : List Char} {unit : Nat}
    (hdigits : IsUnitText digits unit) (h : completeUnit? unit text = some (c, rest)) :
    ∃ word, '\\' :: 'u' :: (digits ++ text) = word ++ rest ∧ IsCharText word := by
  unfold completeUnit? at h
  split at h
  next hfirst =>
    split at h
    next =>
      obtain ⟨⟨low, after⟩, hlow, hpair⟩ := Option.bind_eq_some_iff.1 h
      obtain ⟨lowDigits, rfl, hlowDigits⟩ := eq_append_of_scanUnit? hlow
      dsimp only at hpair
      split at hpair
      next hsecond =>
        obtain ⟨-, rfl⟩ := Prod.mk.inj (Option.some.inj hpair)
        exact ⟨_, by simp, .pair hdigits hlowDigits hfirst hsecond⟩
      next => cases hpair
    next => cases h
  next hfirst =>
    split at h
    next => cases h
    next hsecond =>
      cases h
      exact ⟨_, by simp, .unit hdigits (by omega)⟩

theorem mem_of_simpleEscape? {d : Char} (h : simpleEscape? d = some c) :
    d ∈ ['"', '\\', '/', 'b', 'f', 'n', 'r', 't'] := by
  unfold simpleEscape? at h
  split at h
  case h_9 => cases h
  all_goals simp

theorem eq_append_of_scanChar? (hquote : ∀ rest, text ≠ '"' :: rest)
    (h : scanChar? text = some (c, rest)) : ∃ word, text = word ++ rest ∧ IsCharText word := by
  unfold scanChar? at h
  split at h
  next text =>
    obtain ⟨⟨unit, after⟩, hunit, hcomplete⟩ := Option.bind_eq_some_iff.1 h
    obtain ⟨digits, rfl, hdigits⟩ := eq_append_of_scanUnit? hunit
    exact eq_append_of_completeUnit? hdigits hcomplete
  next d _ _ =>
    obtain ⟨_, hsimple, heq⟩ := Option.map_eq_some_iff.1 h
    cases heq
    exact ⟨['\\', d], rfl, .escape (mem_of_simpleEscape? hsimple)⟩
  next => cases h
  next => cases h
  next hunit hescape hbackslash =>
    split at h
    next => cases h
    next hcontrol =>
      cases h
      refine ⟨[c], rfl, .plain (Nat.le_of_not_lt hcontrol) (fun heq => hquote rest (heq ▸ rfl))
        fun heq => ?_⟩
      cases rest with
      | nil => exact hbackslash heq rfl
      | cons d rest => exact hescape d rest heq rfl

def IsStringText (text : List Char) : Prop :=
  ∃ units : List (List Char), (∀ unit ∈ units, IsCharText unit) ∧
    text = '"' :: (units.flatten ++ ['"'])

theorem eq_append_of_scanString? {chars : List Char} (h : scanString? text = some (chars, rest)) :
    ∃ units : List (List Char), text = units.flatten ++ '"' :: rest ∧
      ∀ unit ∈ units, IsCharText unit := by
  fun_induction scanString? text generalizing chars with
  | case1 tail =>
      cases h
      exact ⟨[], rfl, List.forall_mem_nil _⟩
  | case2 => cases h
  | case3 text hquote c after hchar _ ih =>
      obtain ⟨⟨more, last⟩, hmore, heq⟩ := Option.map_eq_some_iff.1 h
      cases heq
      obtain ⟨units, rfl, hunits⟩ := ih hmore
      obtain ⟨unit, rfl, hunit⟩ := eq_append_of_scanChar? hquote hchar
      exact ⟨unit :: units, by simp, List.forall_mem_cons.mpr ⟨hunit, hunits⟩⟩

inductive Token.IsText : Token → List Char → Prop
  | openArray : IsText .openArray ['[']
  | closeArray : IsText .closeArray [']']
  | openObject : IsText .openObject ['\x7b']
  | closeObject : IsText .closeObject ['\x7d']
  | comma : IsText .comma [',']
  | colon : IsText .colon [':']
  | null : IsText (.literal .null) "null".toList
  | true : IsText (.literal (.bool true)) "true".toList
  | false : IsText (.literal (.bool false)) "false".toList
  | string {text : List Char} (value : String) (h : IsStringText text) :
      IsText (.string value) text
  | number {text : List Char} (n : Number) (h : NumberLiteral.IsNumberText text) :
      IsText (.literal (.num n)) text

theorem eq_append_of_scan? (h : Token.scan? text = some (token, rest)) :
    ∃ word, text = word ++ rest ∧ token.IsText word := by
  unfold Token.scan? at h
  split at h
  case h_10 =>
    obtain ⟨⟨chars, after⟩, hstring, heq⟩ := Option.map_eq_some_iff.1 h
    cases heq
    obtain ⟨units, rfl, hunits⟩ := eq_append_of_scanString? hstring
    exact ⟨_, by simp, .string _ ⟨units, hunits, rfl⟩⟩
  case h_11 =>
    obtain ⟨⟨scanned, after⟩, hscanned, h⟩ := Option.bind_eq_some_iff.1 h
    obtain ⟨number, _, heq⟩ := Option.map_eq_some_iff.1 h
    cases heq
    obtain ⟨word, htext, hword⟩ := NumberLiteral.eq_append_of_scan? hscanned
    exact ⟨word, htext, .number number hword⟩
  all_goals
    cases h
    exact ⟨_, rfl, by constructor⟩

/-- The tokens of a text, with blanks anywhere between them. -/
inductive Spells : List Token → List Char → Prop
  | done : Spells [] []
  | blank {c : Char} {tokens : List Token} {text : List Char} (hblank : isBlank c = true)
      (hrest : Spells tokens text) : Spells tokens (c :: text)
  | token {token : Token} {word text : List Char} {tokens : List Token}
      (hword : token.IsText word) (hrest : Spells tokens text) :
      Spells (token :: tokens) (word ++ text)

theorem spells_of_tokens? (h : tokens? text = some tokens) : Spells tokens text := by
  fun_induction tokens? text generalizing tokens with
  | case1 =>
      cases h
      exact .done
  | case2 c text hblank ih => exact .blank hblank (ih h)
  | case3 => cases h
  | case4 c text _ token rest hscan _ ih =>
      obtain ⟨more, hmore, rfl⟩ := Option.map_eq_some_iff.1 h
      obtain ⟨word, htext, hword⟩ := eq_append_of_scan? hscan
      rw [htext]
      exact .token hword (ih hmore)

/-- The tokens of a member of an object, of its name and of the tokens of its value. -/
def memberTokens (member : String × List Token) : List Token :=
  .string member.1 :: .colon :: member.2

/-- The tokens of a value: items and members have commas between them. -/
inductive IsValue : List Token → Prop
  | literal (value : Value) : IsValue [.literal value]
  | string (text : String) : IsValue [.string text]
  | array {items : List (List Token)} (hitems : ∀ item ∈ items, IsValue item) :
      IsValue (.openArray :: ([Token.comma].intercalate items ++ [.closeArray]))
  | object {members : List (String × List Token)}
      (hmembers : ∀ member ∈ members, IsValue member.2) :
      IsValue
        (.openObject :: ([Token.comma].intercalate (members.map memberTokens) ++ [.closeObject]))

/-- Whether a text is JSON text. -/
def IsJson (text : List Char) : Prop := ∃ tokens, Spells tokens text ∧ IsValue tokens

def commaAfter (parts : List (List Token)) : List Token := parts.flatMap (· ++ [.comma])

theorem intercalate_concat (parts : List (List Token)) (part : List Token) :
    [Token.comma].intercalate (parts ++ [part]) = commaAfter parts ++ part := by
  induction parts with
  | nil => simp [commaAfter]
  | cons first parts ih =>
      obtain ⟨next, more, hparts⟩ : ∃ next more, parts ++ [part] = next :: more :=
        List.exists_cons_of_ne_nil (by simp)
      rw [hparts] at ih
      rw [List.cons_append, hparts, List.intercalate_cons_cons, ih]
      simp [commaAfter]

theorem commaAfter_concat (parts : List (List Token)) (part : List Token) :
    commaAfter (parts ++ [part]) = commaAfter parts ++ (part ++ [.comma]) := by
  simp [commaAfter]

namespace Reader

variable {limit : Nat} {outer : List Frame} {before after : Reader} {value : Value}

/-- What has been read where a value is expected inside of arrays and objects that are open. -/
inductive Opens : List Frame → List Token → Prop
  | none : Opens [] []
  | array {outer : List Frame} {tokens : List Token} {items : List (List Token)}
      (reversed : List Value) (houter : Opens outer tokens) (hitems : ∀ item ∈ items, IsValue item) :
      Opens (.array reversed :: outer) (tokens ++ .openArray :: commaAfter items)
  | object {outer : List Frame} {tokens : List Token} {members : List (String × List Token)}
      (read : List (String × Value)) (name : String) (houter : Opens outer tokens)
      (hmembers : ∀ member ∈ members, IsValue member.2) :
      Opens (.object read name :: outer)
        (tokens ++ .openObject :: (commaAfter (members.map memberTokens) ++ [.string name, .colon]))

/-- What has been read when a reader is reached. -/
inductive Reached : Reader → List Token → Prop
  | value {outer : List Frame} {tokens : List Token} (houter : Opens outer tokens) :
      Reached ⟨outer, .value⟩ tokens
  | firstItem {outer : List Frame} {tokens : List Token} (houter : Opens outer tokens) :
      Reached ⟨outer, .firstItem⟩ (tokens ++ [.openArray])
  | afterItem {outer : List Frame} {tokens item : List Token} {items : List (List Token)}
      (reversed : List Value) (houter : Opens outer tokens) (hitems : ∀ item ∈ items, IsValue item)
      (hitem : IsValue item) :
      Reached ⟨outer, .afterItem reversed⟩ (tokens ++ .openArray :: (commaAfter items ++ item))
  | firstName {outer : List Frame} {tokens : List Token} (houter : Opens outer tokens) :
      Reached ⟨outer, .firstName⟩ (tokens ++ [.openObject])
  | name {outer : List Frame} {tokens : List Token} {members : List (String × List Token)}
      (read : List (String × Value)) (houter : Opens outer tokens)
      (hmembers : ∀ member ∈ members, IsValue member.2) :
      Reached ⟨outer, .name read⟩ (tokens ++ .openObject :: commaAfter (members.map memberTokens))
  | colon {outer : List Frame} {tokens : List Token} {members : List (String × List Token)}
      (read : List (String × Value)) (name : String) (houter : Opens outer tokens)
      (hmembers : ∀ member ∈ members, IsValue member.2) :
      Reached ⟨outer, .colon read name⟩
        (tokens ++ .openObject :: (commaAfter (members.map memberTokens) ++ [.string name]))
  | afterMember {outer : List Frame} {tokens : List Token} {member : String × List Token}
      {members : List (String × List Token)} (read : List (String × Value))
      (houter : Opens outer tokens) (hmembers : ∀ member ∈ members, IsValue member.2)
      (hmember : IsValue member.2) :
      Reached ⟨outer, .afterMember read⟩
        (tokens ++ .openObject :: (commaAfter (members.map memberTokens) ++ memberTokens member))
  | complete {tokens : List Token} (value : Value) (h : IsValue tokens) :
      Reached ⟨[], .complete value⟩ tokens

theorem reached_place {opened : List Token} (houter : Opens outer opened) (hvalue : IsValue tokens)
    (value : Value) : Reached (place value outer) (opened ++ tokens) := by
  cases houter with
  | none => exact .complete value hvalue
  | array reversed houter hitems =>
      have hreached := Reached.afterItem (value :: reversed) houter hitems hvalue
      rwa [List.append_assoc, List.cons_append]
  | @object _ _ _ read name houter hmembers =>
      have hreached := @Reached.afterMember _ _ (name, tokens) _
        (Entries.insert name value read) houter hmembers hvalue
      rw [List.append_assoc, List.cons_append, List.append_assoc]
      exact hreached

theorem reached_begin? {opened : List Token} (houter : Opens outer opened)
    (hbegin : begin? limit outer token = some after) : Reached after (opened ++ [token]) := by
  unfold begin? at hbegin
  split at hbegin
  next value =>
    cases hbegin
    exact reached_place houter (.literal value) value
  next text =>
    cases hbegin
    exact reached_place houter (.string text) (.str text)
  next =>
    split at hbegin
    next =>
      cases hbegin
      exact .firstItem houter
    next => cases hbegin
  next =>
    split at hbegin
    next =>
      cases hbegin
      exact .firstName houter
    next => cases hbegin
  next => cases hbegin

section

variable {opened item : List Token} {items : List (List Token)} {member : String × List Token}
  {members : List (String × List Token)} {reversed : List Value} {read : List (String × Value)}

theorem reached_of_firstItem (houter : Opens outer opened)
    (hstep : step? limit ⟨outer, .firstItem⟩ token = some after) :
    Reached after (opened ++ [.openArray] ++ [token]) := by
  by_cases htoken : token = .closeArray
  · subst htoken
    cases hstep
    rw [List.append_assoc]
    exact reached_place houter (@IsValue.array [] nofun) (.arr [])
  · rw [step?_firstItem htoken] at hstep
    exact reached_begin? (@Opens.array outer opened [] [] houter nofun) hstep

theorem reached_of_afterItem (houter : Opens outer opened) (hitems : ∀ item ∈ items, IsValue item)
    (hitem : IsValue item) (hstep : step? limit ⟨outer, .afterItem reversed⟩ token = some after) :
    Reached after (opened ++ .openArray :: (commaAfter items ++ item) ++ [token]) := by
  have hall : ∀ other ∈ items ++ [item], IsValue other :=
    List.forall_mem_append.mpr ⟨hitems, List.forall_mem_singleton.mpr hitem⟩
  cases token with
  | comma =>
      cases hstep
      have hopens := Opens.array reversed houter hall
      rw [commaAfter_concat] at hopens
      simpa using Reached.value hopens
  | closeArray =>
      cases hstep
      have hvalue := IsValue.array hall
      rw [intercalate_concat] at hvalue
      simpa using reached_place houter hvalue (.arr reversed.reverse)
  | _ => cases hstep

theorem reached_of_firstName (houter : Opens outer opened)
    (hstep : step? limit ⟨outer, .firstName⟩ token = some after) :
    Reached after (opened ++ [.openObject] ++ [token]) := by
  rw [List.append_assoc]
  cases token with
  | closeObject =>
      cases hstep
      exact reached_place houter (@IsValue.object [] nofun) (.obj [])
  | string name =>
      cases hstep
      exact @Reached.colon outer opened [] [] name houter nofun
  | _ => cases hstep

theorem reached_of_afterMember (houter : Opens outer opened)
    (hmembers : ∀ member ∈ members, IsValue member.2) (hmember : IsValue member.2)
    (hstep : step? limit ⟨outer, .afterMember read⟩ token = some after) :
    Reached after (opened ++
      .openObject :: (commaAfter (members.map memberTokens) ++ memberTokens member) ++
        [token]) := by
  have hall : ∀ other ∈ members ++ [member], IsValue other.2 :=
    List.forall_mem_append.mpr ⟨hmembers, List.forall_mem_singleton.mpr hmember⟩
  cases token with
  | comma =>
      cases hstep
      have hreached := Reached.name read houter hall
      rw [List.map_append, List.map_singleton, commaAfter_concat] at hreached
      simpa using hreached
  | closeObject =>
      cases hstep
      have hvalue := IsValue.object hall
      rw [List.map_append, List.map_singleton, intercalate_concat] at hvalue
      simpa using reached_place houter hvalue (.obj read)
  | _ => cases hstep

end

theorem reached_step? (hreached : Reached before tokens)
    (hstep : step? limit before token = some after) : Reached after (tokens ++ [token]) := by
  cases hreached with
  | value houter => exact reached_begin? houter hstep
  | firstItem houter => exact reached_of_firstItem houter hstep
  | afterItem _ houter hitems hitem => exact reached_of_afterItem houter hitems hitem hstep
  | firstName houter => exact reached_of_firstName houter hstep
  | name read houter hmembers =>
      cases token with
      | string name =>
          cases hstep
          simpa using Reached.colon read name houter hmembers
      | _ => cases hstep
  | colon read name houter hmembers =>
      cases token with
      | colon =>
          cases hstep
          simpa using Reached.value (Opens.object read name houter hmembers)
      | _ => cases hstep
  | afterMember _ houter hmembers hmember =>
      exact reached_of_afterMember houter hmembers hmember hstep
  | complete value h => cases hstep

theorem reached_foldlM {read : List Token} (hreached : Reached before read)
    (hfold : tokens.foldlM (step? limit) before = some after) : Reached after (read ++ tokens) := by
  induction tokens generalizing before read with
  | nil =>
      cases hfold
      rwa [List.append_nil]
  | cons token tokens ih =>
      rw [List.foldlM_cons] at hfold
      obtain ⟨between, hstep, hrest⟩ := Option.bind_eq_some_iff.1 hfold
      rw [List.append_cons]
      exact ih (reached_step? hreached hstep) hrest

end Reader

theorem isJson_of_read? {limit : Nat} {text : String} {value : Value}
    (h : read? limit text = some value) : IsJson text.toList := by
  obtain ⟨tokens, htokens, h⟩ := Option.bind_eq_some_iff.1 h
  obtain ⟨reader, hfold, hvalue⟩ := Option.bind_eq_some_iff.1 h
  refine ⟨tokens, spells_of_tokens? htokens, ?_⟩
  cases Reader.reached_foldlM (.value .none) hfold with
  | complete _ h => exact h
  | _ => cases hvalue

theorem read?_eq_none {limit : Nat} {text : String} (h : ¬ IsJson text.toList) :
    read? limit text = none :=
  Option.eq_none_iff_forall_ne_some.mpr fun _ hread => h (isJson_of_read? hread)

end Value

end FieldRules
