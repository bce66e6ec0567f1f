import FieldRules.Value.Text

namespace FieldRules

namespace NumberLiteral

open Digits

variable {c : Char} {digits text rest : List Char}

theorem decimalValue_toDigits (n : Nat) : decimalValue (Nat.toDigits 10 n) = n := by
  rw [decimalValue, ← Nat.ofDigitChars_eq_foldl, Nat.ofDigitChars_ten_toDigits]

theorem toDigits_ne_zero_cons (n : Nat) (c : Char) (more : List Char) :
    Nat.toDigits 10 n ≠ '0' :: c :: more := by
  induction n using Nat.base_induction 10 (by decide) generalizing c more with
  | single m hm => simp [Nat.toDigits_of_lt_base hm]
  | digit m k hk hm ih =>
      rw [← Nat.toDigits_append_toDigits (by decide) hm hk, Nat.toDigits_of_lt_base hk]
      intro heq
      match hdigits : Nat.toDigits 10 m with
      | [] => exact Nat.toDigits_ne_nil hdigits
      | [d] =>
          rw [hdigits] at heq
          obtain rfl : d = '0' := (List.cons.inj heq).1
          have hvalue := decimalValue_toDigits m
          rw [hdigits] at hvalue
          exact Nat.ne_of_gt hm hvalue.symm
      | d :: d' :: ds =>
          rw [hdigits] at heq
          obtain rfl : d = '0' := (List.cons.inj heq).1
          exact ih d' ds hdigits

/-- What may follow a value in written JSON text; none of it continues a number. -/
inductive Stops : List Char → Prop
  | done : Stops []
  | comma (rest : List Char) : Stops (',' :: rest)
  | bracket (rest : List Char) : Stops (']' :: rest)
  | brace (rest : List Char) : Stops ('\x7d' :: rest)

theorem scanDigits_append (hdigits : ∀ c ∈ digits, c.isDigit = true) (hrest : Stops rest) :
    scanDigits (digits ++ rest) = (digits, rest) := by
  have hstop : rest.takeWhile Char.isDigit = [] ∧ rest.dropWhile Char.isDigit = rest := by
    cases hrest <;> exact ⟨rfl, rfl⟩
  rw [scanDigits, List.takeWhile_append_of_pos hdigits, List.dropWhile_append_of_pos hdigits,
    hstop.1, hstop.2, List.append_nil]

theorem scanWhole?_toDigits (n : Nat) (hrest : Stops rest) :
    scanWhole? (Nat.toDigits 10 n ++ rest) = some (Nat.toDigits 10 n, rest) := by
  have hdigits : ∀ c ∈ Nat.toDigits 10 n, c.isDigit = true :=
    fun c hc => Nat.isDigit_of_mem_toDigits (by decide) (by decide) hc
  rw [scanWhole?, scanDigits_append hdigits hrest]
  split
  next heq => exact absurd (Prod.mk.inj heq).1 Nat.toDigits_ne_nil
  next heq => exact absurd (Prod.mk.inj heq).1 (toDigits_ne_zero_cons n _ _)
  next heq => rw [heq]

theorem scanFraction?_of_stops (hrest : Stops rest) : scanFraction? rest = some (none, rest) := by
  cases hrest <;> rfl

theorem scanExponent?_of_stops (hrest : Stops rest) : scanExponent? rest = some (none, rest) := by
  cases hrest <;> rfl

theorem scanSign_toDigits (n : Nat) :
    scanSign (Nat.toDigits 10 n ++ rest) = (false, Nat.toDigits 10 n ++ rest) := by
  match hdigits : Nat.toDigits 10 n with
  | [] => exact absurd hdigits Nat.toDigits_ne_nil
  | c :: more =>
      have hc : c.isDigit = true :=
        Nat.isDigit_of_mem_toDigits (by decide) (by decide) (hdigits ▸ List.mem_cons_self)
      rw [List.cons_append, scanSign]
      rintro _ heq
      obtain rfl := (List.cons.inj heq).1
      cases hc

def ofInt (n : Int) : NumberLiteral := ⟨decide (n < 0), Nat.toDigits 10 n.natAbs, none, none⟩

theorem scan?_write {n : Int} (lower : -0x8000000000000000 ≤ n) (upper : n < 0x10000000000000000)
    (hrest : Stops rest) :
    scan? ((Number.int n lower upper).write ++ rest) = some (ofInt n, rest) := by
  have hscan : ∀ negative, scanSign ((Number.int n lower upper).write ++ rest) =
      (negative, Nat.toDigits 10 n.natAbs ++ rest) →
        scan? ((Number.int n lower upper).write ++ rest) =
          some (⟨negative, Nat.toDigits 10 n.natAbs, none, none⟩, rest) := by
    intro negative hsign
    rw [scan?, hsign]
    simp [scanWhole?_toDigits _ hrest, scanFraction?_of_stops hrest, scanExponent?_of_stops hrest]
  rw [Number.write] at hscan ⊢
  by_cases hn : n < 0
  · rw [if_pos hn] at hscan ⊢
    rw [hscan true rfl, ofInt, decide_eq_true hn]
  · rw [if_neg hn] at hscan ⊢
    rw [hscan false (scanSign_toDigits _), ofInt, decide_eq_false hn]

theorem number?_ofInt {n : Int} (lower : -0x8000000000000000 ≤ n)
    (upper : n < 0x10000000000000000) : (ofInt n).number? = some (.int n lower upper) := by
  simp only [number?, ofInt, decimalValue_toDigits,
    Option.isSome_none, Bool.false_eq_true, or_self, if_false, decide_eq_true_eq]
  split
  next hn =>
    have habs : -(n.natAbs : Int) = n := by omega
    rw [if_neg (by omega), habs, Number.ofInt?_eq_some lower upper]
    rfl
  next hn =>
    have habs : (n.natAbs : Int) = n := by omega
    rw [habs, Number.ofInt?_eq_some lower upper]
    rfl

theorem start_of_scan? {literal : NumberLiteral} (h : scan? (c :: text) = some (literal, rest)) :
    c.isDigit = true ∨ c = '-' := by
  by_cases hsign : c = '-'
  · exact .inr hsign
  · refine .inl (Decidable.byContradiction fun hdigit => ?_)
    have hscan : scanSign (c :: text) = (false, c :: text) := by
      rw [scanSign]
      rintro _ heq
      exact hsign (List.cons.inj heq).1
    rw [scan?, hscan] at h
    simp [scanWhole?, scanDigits, hdigit] at h

end NumberLiteral

end FieldRules

namespace FieldRules.Value

open Token NumberLiteral Digits

variable {c : Char} {chars text rest : List Char} {token : Token}

theorem hexDigit?_hexDigit {n : Nat} (h : n < 16) : hexDigit? (hexDigit n) = some n := by
  revert n
  decide

/-- The three ways in which a character stands in a string: behind a backslash, by its code, or as
itself. -/
theorem escapeChar_cases (c : Char) :
    (∃ d, escapeChar c = ['\\', d] ∧ simpleEscape? d = some c) ∨
      (c.toNat < 0x20 ∧ escapeChar c =
        ['\\', 'u', '0', '0', hexDigit (c.toNat / 16), hexDigit (c.toNat % 16)]) ∨
      (c ≠ '"' ∧ c ≠ '\\' ∧ 0x20 ≤ c.toNat ∧ escapeChar c = [c]) := by
  by_cases hsimple :
    c = '"' ∨ c = '\\' ∨ c = '\x08' ∨ c = '\x0c' ∨ c = '\n' ∨ c = '\r' ∨ c = '\t'
  · rcases hsimple with rfl | rfl | rfl | rfl | rfl | rfl | rfl <;> exact .inl ⟨_, rfl, rfl⟩
  · simp only [not_or] at hsimple
    obtain ⟨hquote, hbackslash, hb, hf, hn, hr, ht⟩ := hsimple
    rw [escapeChar, if_neg hquote, if_neg hbackslash, if_neg hb, if_neg hf, if_neg hn, if_neg hr,
      if_neg ht]
    split
    next hcontrol => exact .inr (.inl ⟨hcontrol, rfl⟩)
    next hplain => exact .inr (.inr ⟨hquote, hbackslash, Nat.le_of_not_lt hplain, rfl⟩)

theorem scanUnit?_control (h : c.toNat < 0x20) :
    scanUnit? ('0' :: '0' :: hexDigit (c.toNat / 16) :: hexDigit (c.toNat % 16) :: rest) =
      some (c.toNat, rest) := by
  have hhigh : hexDigit? (hexDigit (c.toNat / 16)) = some (c.toNat / 16) :=
    hexDigit?_hexDigit (by omega)
  have hlow : hexDigit? (hexDigit (c.toNat % 16)) = some (c.toNat % 16) :=
    hexDigit?_hexDigit (by omega)
  have hvalue : ((0 * 16 + 0) * 16 + c.toNat / 16) * 16 + c.toNat % 16 = c.toNat := by omega
  rw [scanUnit?, hhigh, hlow]
  exact congrArg (fun unit => some (unit, rest)) hvalue

theorem scanChar?_escapeChar (c : Char) (rest : List Char) :
    scanChar? (escapeChar c ++ rest) = some (c, rest) := by
  rcases escapeChar_cases c with ⟨d, hescape, hsimple⟩ | ⟨hcontrol, hescape⟩ |
    ⟨-, hbackslash, hplain, hescape⟩
  · have hunit : d ≠ 'u' := by
      rintro rfl
      cases hsimple
    rw [hescape, List.cons_append, List.singleton_append, scanChar?, hsimple]
    · rfl
    · rintro rfl
      exact hunit rfl
  · have hsurrogate : ¬ (0xD800 ≤ c.toNat ∧ c.toNat < 0xDC00) := by omega
    have hlow : ¬ (0xDC00 ≤ c.toNat ∧ c.toNat < 0xE000) := by omega
    rw [hescape]
    change (scanUnit? ('0' :: '0' :: hexDigit _ :: hexDigit _ :: rest)).bind _ = _
    rw [scanUnit?_control hcontrol, Option.bind_some]
    change completeUnit? c.toNat rest = _
    unfold completeUnit?
    rw [if_neg hsurrogate, if_neg hlow, Char.ofNat_toNat]
  · rw [hescape, List.singleton_append, scanChar?, if_neg (Nat.not_lt.mpr hplain)]
    all_goals
      intros
      contradiction

theorem scanString?_cons (c : Char) (text : List Char) :
    scanString? (escapeChar c ++ text) =
      (scanString? text).map fun (chars, rest) => (c :: chars, rest) := by
  have hscan := scanChar?_escapeChar c text
  rw [scanString?]
  · split
    next hnone => 
      rw [hscan] at hnone
      cases hnone
    next c' rest' hsome =>
      rw [hscan] at hsome
      cases hsome
      rfl
  · rintro rest heq
    rcases escapeChar_cases c with ⟨d, hescape, -⟩ | ⟨-, hescape⟩ | ⟨hquote, -, -, hescape⟩
    · rw [hescape] at heq
      cases heq
    · rw [hescape] at heq
      cases heq
    · rw [hescape] at heq
      exact hquote (List.cons.inj heq).1

theorem scanString?_escaped (chars rest : List Char) :
    scanString? (chars.flatMap escapeChar ++ '"' :: rest) = some (chars, rest) := by
  induction chars with
  | nil => simp [scanString?]
  | cons c chars ih =>
      rw [List.flatMap_cons, List.append_assoc, scanString?_cons, ih]
      rfl

theorem scan?_quote (name : String) (rest : List Char) :
    Token.scan? (quote name ++ rest) = some (.string name, rest) := by
  have hchars := scanString?_escaped name.toList rest
  rw [quote, List.cons_append, List.append_assoc, List.singleton_append]
  change (scanString? (name.toList.flatMap escapeChar ++ '"' :: rest)).map _ = _
  rw [hchars]
  simp

theorem scan?_number {literal : NumberLiteral} {n : Number}
    (hscan : NumberLiteral.scan? text = some (literal, rest)) (hnumber : literal.number? = some n) :
    Token.scan? text = some (.literal (.num n), rest) := by
  cases text with
  | nil => cases hscan
  | cons c text =>
      have hstart := start_of_scan? hscan
      unfold Token.scan?
      split
      case h_11 =>
        rw [hscan, Option.bind_some]
        change literal.number?.map _ = _
        rw [hnumber]
        rfl
      all_goals
        next heq =>
          obtain ⟨rfl, -⟩ := List.cons.inj heq
          cases hstart with
          | inl h => cases h
          | inr h => cases h

theorem scan?_blank (hblank : isBlank c = true) : Token.scan? (c :: text) = none := by
  simp only [isBlank, Bool.or_eq_true, beq_iff_eq] at hblank
  rcases hblank with ((rfl | rfl) | rfl) | rfl <;> rfl

theorem tokens?_of_scan? (hscan : Token.scan? text = some (token, rest)) :
    tokens? text = (tokens? rest).map (token :: ·) := by
  cases text with
  | nil => cases hscan
  | cons c text =>
      have hblank : ¬ isBlank c = true := by
        intro hblank
        rw [scan?_blank hblank] at hscan
        cases hscan
      rw [tokens?, if_neg hblank]
      split
      next hnone =>
        rw [hscan] at hnone
        cases hnone
      next hsome =>
        rw [hscan] at hsome
        cases hsome
        rfl

/-- Whether all numbers inside a value are integers. -/
inductive FloatFree : Value → Prop
  | null : FloatFree .null
  | bool (b : Bool) : FloatFree (.bool b)
  | int (n : Int) (lower : -0x8000000000000000 ≤ n) (upper : n < 0x10000000000000000) :
      FloatFree (.num (.int n lower upper))
  | str (text : String) : FloatFree (.str text)
  | arr {items : List Value} (item : ∀ item ∈ items, FloatFree item) : FloatFree (.arr items)
  | obj {members : List (String × Value)} (member : ∀ member ∈ members, FloatFree member.2) :
      FloatFree (.obj members)

mutual
def tokens : Value → List Token
  | .str text => [.string text]
  | .arr items => .openArray :: (itemsTokens items ++ [.closeArray])
  | .obj members => .openObject :: (membersTokens members ++ [.closeObject])
  | value => [.literal value]

def itemsTokens : List Value → List Token
  | [] => []
  | [item] => tokens item
  | item :: next :: items => tokens item ++ .comma :: itemsTokens (next :: items)

def membersTokens : List (String × Value) → List Token
  | [] => []
  | [(name, value)] => .string name :: .colon :: tokens value
  | (name, value) :: next :: members =>
      .string name :: .colon :: (tokens value ++ .comma :: membersTokens (next :: members))
end

/-- Whether the text of a value is read as its tokens, whatever comes after it. -/
def ReadsTokens (value : Value) : Prop :=
  ∀ rest, Stops rest → tokens? (value.write ++ rest) = (tokens? rest).map (value.tokens ++ ·)

theorem tokens?_writeItems {items : List Value} (hitems : ∀ item ∈ items, ReadsTokens item)
    (hrest : Stops rest) :
    tokens? (writeItems items ++ rest) = (tokens? rest).map (itemsTokens items ++ ·) := by
  match items with
  | [] => simp [writeItems, itemsTokens]
  | [item] => exact hitems item List.mem_cons_self rest hrest
  | item :: next :: items =>
      obtain ⟨hitem, hitems⟩ := List.forall_mem_cons.mp hitems
      rw [writeItems, List.append_assoc, List.cons_append, hitem _ (.comma _),
        tokens?_of_scan? rfl, tokens?_writeItems hitems hrest]
      simp [itemsTokens, Function.comp_def]

theorem tokens?_member {name : String} {value : Value} (hvalue : ReadsTokens value)
    (hrest : Stops rest) :
    tokens? (quote name ++ ':' :: (value.write ++ rest)) =
      (tokens? rest).map (.string name :: .colon :: value.tokens ++ ·) := by
  rw [tokens?_of_scan? (scan?_quote name _), tokens?_of_scan? rfl, hvalue rest hrest]
  simp [Function.comp_def]

theorem tokens?_writeMembers {members : List (String × Value)}
    (hmembers : ∀ member ∈ members, ReadsTokens member.2) (hrest : Stops rest) :
    tokens? (writeMembers members ++ rest) = (tokens? rest).map (membersTokens members ++ ·) := by
  match members with
  | [] => simp [writeMembers, membersTokens]
  | [(name, value)] =>
      rw [writeMembers, List.append_assoc, List.cons_append,
        tokens?_member (hmembers _ List.mem_cons_self) hrest, membersTokens]
  | (name, value) :: next :: members =>
      obtain ⟨hvalue, hmembers⟩ := List.forall_mem_cons.mp hmembers
      rw [writeMembers, List.append_assoc, List.cons_append, List.append_assoc, List.cons_append,
        tokens?_member hvalue (.comma _), tokens?_of_scan? rfl, tokens?_writeMembers hmembers hrest]
      simp [membersTokens, Function.comp_def]

theorem readsTokens_of_scan? {value : Value} (htokens : value.tokens = [token])
    (hscan : ∀ rest, Stops rest → Token.scan? (value.write ++ rest) = some (token, rest)) :
    ReadsTokens value := by
  intro rest hrest
  rw [tokens?_of_scan? (hscan rest hrest), htokens]
  rfl

theorem FloatFree.readsTokens {value : Value} (hvalue : FloatFree value) : ReadsTokens value := by
  induction hvalue with
  | null => exact readsTokens_of_scan? rfl fun _ _ => rfl
  | bool b => cases b <;> exact readsTokens_of_scan? rfl fun _ _ => rfl
  | int n lower upper =>
      exact readsTokens_of_scan? rfl fun _ hrest =>
        scan?_number (scan?_write lower upper hrest) (number?_ofInt lower upper)
  | str text => exact readsTokens_of_scan? rfl fun rest _ => scan?_quote text rest
  | @arr items _ ih =>
      intro rest _
      rw [write, List.cons_append, List.append_assoc, List.singleton_append,
        tokens?_of_scan? rfl, tokens?_writeItems ih (.bracket _), tokens?_of_scan? rfl]
      simp [tokens, Function.comp_def]
  | @obj members _ ih =>
      intro rest _
      rw [write, List.cons_append, List.append_assoc, List.singleton_append,
        tokens?_of_scan? rfl, tokens?_writeMembers ih (.brace _), tokens?_of_scan? rfl]
      simp [tokens, Function.comp_def]

theorem tokens?_write {value : Value} (hvalue : FloatFree value) :
    tokens? value.write = some value.tokens := by
  have hreads := hvalue.readsTokens [] .done
  rw [List.append_nil] at hreads
  simpa [tokens?] using hreads

open Reader

variable {limit : Nat} {outer : List Frame} {item value : Value} {items : List Value}
  {name : String} {members : List (String × Value)} {before between after : Reader}
  {token : Token} {more : List Token}

theorem itemsDepth_le_iff {bound : Nat} :
    itemsDepth items ≤ bound ↔ ∀ item ∈ items, item.depth ≤ bound := by
  induction items with
  | nil => simp [itemsDepth]
  | cons item items ih => rw [itemsDepth, Nat.max_le, ih, List.forall_mem_cons]

theorem membersDepth_le_iff {bound : Nat} :
    membersDepth members ≤ bound ↔ ∀ member ∈ members, member.2.depth ≤ bound := by
  induction members with
  | nil => simp [membersDepth]
  | cons member members ih => rw [membersDepth, Nat.max_le, ih, List.forall_mem_cons]

def Reads (limit : Nat) (before : Reader) (tokens : List Token) (after : Reader) : Prop :=
  tokens.foldlM (step? limit) before = some after

theorem Reads.nil : Reads limit before [] before := rfl

theorem Reads.step (hstep : step? limit before token = some between)
    (hrest : Reads limit between more after) : Reads limit before (token :: more) after := by
  rw [Reads, List.foldlM_cons, hstep]
  exact hrest

theorem Reads.append {tokens : List Token} (hfirst : Reads limit before tokens between)
    (hrest : Reads limit between more after) : Reads limit before (tokens ++ more) after := by
  rw [Reads, List.foldlM_append, hfirst]
  exact hrest

/-- Whether the tokens of a value put it in its place. -/
def ReadsBack (limit : Nat) (outer : List Frame) (value : Value) : Prop :=
  Reads limit ⟨outer, .value⟩ value.tokens (place value outer)

theorem tokens_eq_cons (value : Value) : ∃ token more, value.tokens = token :: more ∧
    token ≠ .closeArray := by
  cases value <;> exact ⟨_, _, rfl, nofun⟩

theorem Reads.firstItem
    (h : Reads limit ⟨.array [] :: outer, .value⟩ (itemsTokens (item :: items)) after) :
    Reads limit ⟨outer, .firstItem⟩ (itemsTokens (item :: items)) after := by
  obtain ⟨token, more, htokens, hopen⟩ := tokens_eq_cons item
  obtain ⟨more, htokens⟩ : ∃ more, itemsTokens (item :: items) = token :: more := by
    cases items with
    | nil => exact ⟨more, htokens⟩
    | cons next items => exact ⟨_, by rw [itemsTokens, htokens, List.cons_append]⟩
  rw [htokens, Reads, List.foldlM_cons] at h ⊢
  rwa [step?_firstItem hopen]

theorem reads_items
    (hitems : ∀ item' ∈ item :: items, ∀ frame, ReadsBack limit (frame :: outer) item')
    (reversed : List Value) :
    Reads limit ⟨.array reversed :: outer, .value⟩ (itemsTokens (item :: items))
      ⟨outer, .afterItem ((item :: items).reverse ++ reversed)⟩ := by
  induction items generalizing item reversed with
  | nil => exact hitems item List.mem_cons_self (.array reversed)
  | cons next items ih =>
      obtain ⟨hitem, hrest⟩ := List.forall_mem_cons.mp hitems
      rw [List.reverse_cons, List.append_assoc, List.singleton_append]
      exact Reads.append (hitem (.array reversed)) (.step rfl (ih hrest (item :: reversed)))

theorem reads_member (hvalue : ReadsBack limit (.object members name :: outer) value)
    (hfresh : name ∉ Entries.keys members) :
    Reads limit ⟨outer, .name members⟩ (.string name :: .colon :: value.tokens)
      ⟨outer, .afterMember (members ++ [(name, value)])⟩ := by
  rw [← Entries.insert_of_not_mem hfresh]
  exact .step rfl (.step rfl hvalue)

theorem reads_members {member : String × Value} {read : List (String × Value)}
    (hmembers : ∀ member' ∈ member :: members, ∀ frame,
      ReadsBack limit (frame :: outer) member'.2)
    (hnames : (Entries.keys (read ++ member :: members)).Nodup) :
    Reads limit ⟨outer, .name read⟩ (membersTokens (member :: members))
      ⟨outer, .afterMember (read ++ member :: members)⟩ := by
  induction members generalizing member read with
  | nil =>
      exact reads_member (hmembers member List.mem_cons_self _)
        (Entries.not_mem_keys_of_nodup hnames)
  | cons next members ih =>
      obtain ⟨hmember, hrest⟩ := List.forall_mem_cons.mp hmembers
      have hfresh := Entries.not_mem_keys_of_nodup hnames
      rw [List.append_cons] at hnames ⊢
      exact Reads.append (reads_member (hmember _) hfresh) (.step rfl (ih hrest hnames))

theorem Reads.firstName {member : String × Value}
    (h : Reads limit ⟨outer, .name []⟩ (membersTokens (member :: members)) after) :
    Reads limit ⟨outer, .firstName⟩ (membersTokens (member :: members)) after := by
  cases members <;> exact h

theorem reads_tokens (hnames : value.NamesDistinct) (hdepth : outer.length + value.depth ≤ limit) :
    ReadsBack limit outer value := by
  induction value using inductionOnParts generalizing outer with
  | arr items ih =>
      rw [namesDistinct_arr] at hnames
      rw [depth] at hdepth
      have hopen : outer.length < limit := by omega
      have hitems : ∀ item ∈ items, ∀ frame, ReadsBack limit (frame :: outer) item := by
        intro item hitem frame
        have hle := itemsDepth_le_iff.mp (Nat.le_refl _) item hitem
        apply ih item hitem (hnames item hitem)
        rw [List.length_cons]
        omega
      have hstep : step? limit ⟨outer, .value⟩ .openArray = some ⟨outer, .firstItem⟩ := if_pos hopen
      rw [ReadsBack, tokens]
      refine .step hstep ?_
      cases items with
      | nil => exact .step rfl .nil
      | cons item items =>
          refine .append (Reads.firstItem (reads_items hitems [])) (.step ?_ .nil)
          rw [List.append_nil]
          change some (place (.arr (item :: items).reverse.reverse) outer) = _
          rw [List.reverse_reverse]
  | obj members ih =>
      rw [namesDistinct_obj] at hnames
      rw [depth] at hdepth
      have hopen : outer.length < limit := by omega
      have hmembers : ∀ member ∈ members, ∀ frame, ReadsBack limit (frame :: outer) member.2 := by
        intro member hmember frame
        have hle := membersDepth_le_iff.mp (Nat.le_refl _) member hmember
        apply ih member hmember (hnames.2 member hmember)
        rw [List.length_cons]
        omega
      have hstep : step? limit ⟨outer, .value⟩ .openObject = some ⟨outer, .firstName⟩ :=
        if_pos hopen
      rw [ReadsBack, tokens]
      refine .step hstep ?_
      cases members with
      | nil => exact .step rfl .nil
      | cons member members =>
          refine .append (Reads.firstName (reads_members hmembers ?_)) (.step rfl .nil)
          exact hnames.1
  | _ => exact rfl

theorem read?_text (hfloat : value.FloatFree) (hnames : value.NamesDistinct)
    (hdepth : value.depth ≤ limit) : read? limit value.text = some value := by
  have hreads : Reads limit start value.tokens ⟨[], .complete value⟩ :=
    reads_tokens hnames (by simpa using hdepth)
  rw [Reads] at hreads
  rw [read?, text, String.toList_ofList, tokens?_write hfloat]
  simp [hreads, Reader.value?]

theorem text_inj {a b : Value} (ha : a.FloatFree) (ha' : a.NamesDistinct) (hb : b.FloatFree)
    (hb' : b.NamesDistinct) : a.text = b.text ↔ a = b := by
  constructor
  · intro htext
    have hread := read?_text ha ha' (Nat.le_max_left a.depth b.depth)
    rw [htext, read?_text hb hb' (Nat.le_max_right a.depth b.depth)] at hread
    exact (Option.some.inj hread).symm
  · exact congrArg text

end FieldRules.Value
