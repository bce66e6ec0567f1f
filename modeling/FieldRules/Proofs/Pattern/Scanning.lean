import FieldRules.Pattern.Token

namespace FieldRules.Pattern

/-- What follows a pattern that is put between `^(?:` and `)$`. -/
def ending : List Char := [')', '$']

/-- A scan that does not look past the end of a text it takes something from. -/
def Local {α : Type} (scan : List Char → Option (α × List Char)) : Prop :=
  ∀ text a rest, scan text = some (a, rest) → scan (text ++ ending) = some (a, rest ++ ending)

theorem not_isPrefix_append_ending {front text : List Char} (hfront : ')' ∉ front)
    (h : ∀ more, text = front ++ more → False) : ¬ front <+: text ++ ending := by
  intro hprefix
  obtain ⟨more, heq⟩ := hprefix
  rcases List.append_eq_append_iff.mp heq with ⟨middle, htext, -⟩ | ⟨middle, hsplit, hending⟩
  · exact h middle htext
  · cases middle with
    | nil => exact h [] (by rw [hsplit, List.append_nil, List.append_nil])
    | cons c middle =>
        rw [(List.cons.inj hending).1] at hfront
        exact hfront (hsplit ▸ List.mem_append_right text List.mem_cons_self)

theorem append_ending_ne {c : Char} {text : List Char} (hc : c ≠ ')')
    (h : ∀ more, text ≠ c :: more) {more : List Char} : text ++ ending ≠ c :: more := by
  intro heq
  cases text with
  | nil => exact hc (List.cons.inj heq).1.symm
  | cons d text => exact h text (congrArg (· :: text) (List.cons.inj heq).1)

theorem takeWhile_append_of_dropWhile {p : Char → Bool} {text rest : List Char} {c : Char}
    (h : text.dropWhile p = c :: rest) (more : List Char) :
    (text ++ more).takeWhile p = text.takeWhile p ∧
      (text ++ more).dropWhile p = c :: (rest ++ more) := by
  induction text with
  | nil => cases h
  | cons d text ih =>
      rw [List.cons_append, List.takeWhile_cons, List.takeWhile_cons, List.dropWhile_cons]
      rw [List.dropWhile_cons] at h
      split at h
      next hd =>
        obtain ⟨htake, hdrop⟩ := ih h
        rw [if_pos hd, if_pos hd, if_pos hd, htake]
        exact ⟨rfl, hdrop⟩
      next hd =>
        cases h
        rw [if_neg hd, if_neg hd, if_neg hd]
        exact ⟨rfl, rfl⟩

@[simp] theorem skip_false (text : List Char) : skip false text = text := rfl

namespace Token

theorem local_scanBraced? : Local (scanBraced? false false) := by
  intro text chars rest h
  induction text generalizing chars with
  | nil => cases h
  | cons c text ih =>
      simp only [scanBraced?, Bool.false_and, Bool.false_eq_true, if_false, List.cons_append] at h ⊢
      split at h
      next hbrace =>
        cases h
        rw [if_pos hbrace]
      next hbrace =>
        obtain ⟨⟨inner, _⟩, hinner, heq⟩ := Option.map_eq_some_iff.mp h
        cases heq
        rw [if_neg hbrace, ih _ hinner]
        rfl

theorem local_scanCount? (count : Nat) : Local (scanCount? false count) := by
  intro text chars rest h
  induction count generalizing text chars with
  | zero =>
      cases h
      rfl
  | succ count ih =>
      cases text with
      | nil => cases h
      | cons c text =>
          obtain ⟨⟨inner, _⟩, hinner, heq⟩ := Option.map_eq_some_iff.mp h
          cases heq
          exact Option.map_eq_some_iff.mpr ⟨_, ih _ _ hinner, rfl⟩

theorem map_codePoint?_ending {digits rest rest' : List Char} {asByte : Bool} {token : Token}
    (h : (((Digits.hexValue? digits).bind codePoint?).map fun c =>
      (literal ⟨c, asByte⟩, rest)) = some (token, rest')) :
    (((Digits.hexValue? digits).bind codePoint?).map fun c =>
      (literal ⟨c, asByte⟩, rest ++ ending)) = some (token, rest' ++ ending) := by
  obtain ⟨c, hc, heq⟩ := Option.map_eq_some_iff.mp h
  cases heq
  exact Option.map_eq_some_iff.mpr ⟨c, hc, rfl⟩

theorem local_scanHex? (count : Nat) : Local (scanHex? false count) := by
  intro text token rest h
  rw [scanHex?, skip_false] at h ⊢
  split at h
  next =>
    obtain ⟨⟨digits, middle⟩, hdigits, h⟩ := Option.bind_eq_some_iff.mp h
    refine Option.bind_eq_some_iff.mpr ⟨_, local_scanBraced? _ _ _ hdigits, ?_⟩
    dsimp only at h ⊢
    split at h
    next => cases h
    next hdigit =>
      rw [if_neg hdigit]
      exact map_codePoint?_ending h
  next hother =>
    split
    next heq => exact absurd heq (append_ending_ne (by decide) hother)
    next =>
      obtain ⟨⟨digits, middle⟩, hdigits, h⟩ := Option.bind_eq_some_iff.mp h
      exact Option.bind_eq_some_iff.mpr
        ⟨_, local_scanCount? count _ _ _ hdigits, map_codePoint?_ending h⟩

theorem local_scanProperty? (negated : Bool) : Local (scanProperty? false negated) := by
  intro text token rest h
  cases text with
  | nil => cases h
  | cons c text =>
      by_cases hc : c = '\x7b'
      · subst hc
        obtain ⟨⟨name, middle⟩, hname, heq⟩ := Option.map_eq_some_iff.mp h
        cases heq
        exact Option.map_eq_some_iff.mpr ⟨_, local_scanBraced? _ _ _ hname, rfl⟩
      · have hplain (text : List Char) : scanProperty? false negated (c :: text) =
            if c = '\\' then none else some (.property [c] negated, text) := by
          simp only [scanProperty?, skip_false]
        rw [hplain] at h
        rw [List.cons_append, hplain]
        split at h
        next => cases h
        next hother =>
          cases h
          rw [if_neg hother]

theorem local_scanBoundary? : Local (scanBoundary? false) := by
  intro text token rest h
  unfold scanBoundary? at h
  split at h
  next inner =>
    cases inner with
    | nil => cases h
    | cons c inner =>
        dsimp only [skip_false] at h
        change (if _ then _ else _) = _
        split at h
        next hname =>
          rw [if_pos hname]
          obtain ⟨⟨name, middle⟩, hname, h⟩ := Option.bind_eq_some_iff.mp h
          refine Option.bind_eq_some_iff.mpr ⟨_, local_scanBraced? _ _ _ hname, ?_⟩
          dsimp only at h ⊢
          split at h <;> cases h <;> rfl
        next hname =>
          cases h
          rw [if_neg hname]
  next hother =>
    cases h
    unfold scanBoundary?
    split
    next heq => exact absurd heq (append_ending_ne (by decide) hother)
    next => rfl

theorem local_plain (c : Char) : Local (plain c) := by
  intro text token rest h
  cases h
  rfl

theorem local_scanEscape? : Local (scanEscape? false) := by
  intro text token rest h
  cases text with
  | nil => cases h
  | cons c text =>
      rw [List.cons_append]
      simp only [scanEscape?] at h ⊢
      split at h
      case h_1 | h_2 | h_3 => exact local_scanHex? _ _ _ _ h
      case h_4 | h_5 => exact local_scanProperty? _ _ _ _ h
      case h_14 => exact local_scanBoundary? _ _ _ h
      case h_24 =>
        split at h
        next hascii =>
          rw [if_pos hascii]
          exact local_plain _ _ _ _ h
        next => cases h
      all_goals
        cases h
        rfl

theorem local_scanGroupName? : Local scanGroupName? := by
  intro text token rest h
  simp only [scanGroupName?] at h ⊢
  split at h
  next c more hdrop =>
    split at h
    next hname =>
      cases h
      obtain ⟨htake, hdrop⟩ := takeWhile_append_of_dropWhile hdrop ending
      rw [hdrop, htake]
      dsimp only
      rw [if_pos hname]
    next => cases h
  next => cases h

theorem local_scanFlags? : Local scanFlags? := by
  intro text token rest h
  simp only [scanFlags?] at h ⊢
  split at h
  next more hdrop =>
    obtain ⟨htake, hdrop⟩ := takeWhile_append_of_dropWhile hdrop ending
    rw [hdrop, htake]
    obtain ⟨changes, hchanges, heq⟩ := Option.map_eq_some_iff.mp h
    cases heq
    exact Option.map_eq_some_iff.mpr ⟨changes, hchanges, rfl⟩
  next c more hcolon hdrop =>
    obtain ⟨htake, hdrop⟩ := takeWhile_append_of_dropWhile hdrop ending
    rw [hdrop, htake]
    split at h
    next => cases h
    next hinner =>
      obtain ⟨changes, hchanges, heq⟩ := Option.map_eq_some_iff.mp h
      cases heq
      split
      next heq => exact absurd (List.cons.inj heq).1 hcolon
      next heq =>
        cases heq
        rw [if_neg hinner, hchanges]
        rfl
      next heq => cases heq
  next => cases h

theorem scanGroup?_flags {text : List Char}
    (h : ∀ front ∈ [['='], ['!'], ['<'], ['P', '<']], ¬ front <+: text) :
    scanGroup? false ('?' :: text) = scanFlags? text := by
  simp only [List.forall_mem_cons] at h
  obtain ⟨hahead, hnotAhead, hname, hname', -⟩ := h
  simp only [scanGroup?, skip_false]
  split
  next heq => exact absurd ⟨_, (List.cons.inj heq).2.symm⟩ hahead
  next heq => exact absurd ⟨_, (List.cons.inj heq).2.symm⟩ hnotAhead
  next heq => exact absurd ⟨_, (List.cons.inj heq).2.symm⟩ hname
  next heq => exact absurd ⟨_, (List.cons.inj heq).2.symm⟩ hname
  next heq => exact absurd ⟨_, (List.cons.inj heq).2.symm⟩ hname'
  next heq => exact absurd ⟨_, (List.cons.inj heq).2.symm⟩ hname
  next heq => rw [(List.cons.inj heq).2]
  next hother => exact absurd rfl (hother text)

theorem scanGroup?_name {text : List Char} (hahead : ¬ ['='] <+: text)
    (hnotAhead : ¬ ['!'] <+: text) :
    scanGroup? false ('?' :: '<' :: text) = scanGroupName? text := by
  simp only [scanGroup?, skip_false]
  split
  next heq => cases heq
  next heq => cases heq
  next heq => exact absurd ⟨_, (List.cons.inj (List.cons.inj heq).2).2.symm⟩ hahead
  next heq => exact absurd ⟨_, (List.cons.inj (List.cons.inj heq).2).2.symm⟩ hnotAhead
  next heq => cases heq
  next heq => rw [(List.cons.inj (List.cons.inj heq).2).2]
  next hother heq => exact absurd (List.cons.inj heq).2.symm (hother _)
  next hother => exact absurd rfl (hother _)

theorem scanGroup?_capture {text : List Char} (h : ¬ ['?'] <+: text) :
    scanGroup? false text = some (.openGroup (.capture none), text) := by
  simp only [scanGroup?, skip_false]
  split
  case h_8 => rfl
  all_goals exact absurd ⟨_, rfl⟩ h

theorem local_scanGroup? : Local (scanGroup? false) := by
  intro text token rest h
  unfold scanGroup? at h
  rw [skip_false] at h
  split at h
  case h_1 | h_2 | h_3 | h_4 => cases h
  case h_5 => exact local_scanGroupName? _ _ _ h
  case h_6 text hbehind hnotBehind =>
    rw [List.cons_append, List.cons_append, scanGroup?_name]
    · exact local_scanGroupName? _ _ _ h
    · exact not_isPrefix_append_ending (by decide) hbehind
    · exact not_isPrefix_append_ending (by decide) hnotBehind
  case h_7 text hahead hnotAhead _ _ hname' hname =>
    rw [List.cons_append, scanGroup?_flags]
    · exact local_scanFlags? _ _ _ h
    · simp only [List.forall_mem_cons]
      refine ⟨?ahead, ?notAhead, ?name, ?name', nofun⟩
      case ahead => exact not_isPrefix_append_ending (by decide) hahead
      case notAhead => exact not_isPrefix_append_ending (by decide) hnotAhead
      case name => exact not_isPrefix_append_ending (by decide) hname
      case name' => exact not_isPrefix_append_ending (by decide) hname'
  case h_8 hplain =>
    cases h
    exact scanGroup?_capture (not_isPrefix_append_ending (by decide) hplain)

theorem scanHyphens_append_ending (count : Nat) (text : List Char) :
    scanHyphens false false count (text ++ ending) =
      ((scanHyphens false false count text).1, (scanHyphens false false count text).2 ++ ending) := by
  induction text generalizing count with
  | nil => rfl
  | cons c text ih =>
      simp only [scanHyphens, List.cons_append, Bool.false_and, Bool.false_eq_true, if_false]
      split
      next => exact ih (count + 1)
      next => rfl

theorem behindCircumflex_append_ending (c : Char) (text : List Char) :
    (if c == '^' then text ++ ending else c :: (text ++ ending)) =
      (if c == '^' then text else c :: text) ++ ending := by
  split <;> rfl

theorem scanOpenClass_cons (c : Char) (text : List Char) :
    scanOpenClass false (c :: text) =
      let negated := c == '^'
      match scanHyphens false false 0 (if negated then text else c :: text) with
      | (0, ']' :: rest) => (.openClass negated [']'], rest)
      | (count, rest) => (.openClass negated (List.replicate count '-'), rest) := by
  rfl

theorem scanOpenClass_append_ending (text : List Char) :
    scanOpenClass false (text ++ ending) =
      ((scanOpenClass false text).1, (scanOpenClass false text).2 ++ ending) := by
  cases text with
  | nil => rfl
  | cons c text =>
      rw [List.cons_append, scanOpenClass_cons, scanOpenClass_cons]
      dsimp only
      rw [behindCircumflex_append_ending, scanHyphens_append_ending]
      generalize scanHyphens false false 0 (if c == '^' then text else c :: text) = scanned
      obtain ⟨count, rest⟩ := scanned
      cases count with
      | succ count => rfl
      | zero => cases rest with
        | nil => rfl
        | cons d rest =>
            by_cases hd : d = ']'
            · subst hd
              rfl
            · dsimp only [List.cons_append]
              split
              next heq => exact absurd (List.cons.inj (Prod.mk.inj heq).2).1 hd
              next heq =>
                cases heq
                split
                next heq => exact absurd (List.cons.inj (Prod.mk.inj heq).2).1 hd
                next heq =>
                  cases heq
                  rfl

/-- The name of a POSIX class, behind the circumflex that negates it if there is one. -/
def scanPosixName? (negated : Bool) (text : List Char) : Option (Token × List Char) :=
  match text.dropWhile (· != ':') with
  | ':' :: ']' :: rest =>
      (posixClass? (String.ofList (text.takeWhile (· != ':')))).map fun name =>
        (.posix name negated, rest)
  | _ => none

theorem scanPosix?_cons (c : Char) (text : List Char) :
    scanPosix? (c :: text) = scanPosixName? (c == '^') (if c == '^' then text else c :: text) :=
  rfl

theorem scanPosixName?_append_ending (negated : Bool) (text : List Char) :
    scanPosixName? negated (text ++ ending) =
      (scanPosixName? negated text).map fun (token, rest) => (token, rest ++ ending) := by
  rw [scanPosixName?, scanPosixName?]
  cases hdrop : text.dropWhile (· != ':') with
  | nil =>
      rw [List.dropWhile_append, hdrop]
      rfl
  | cons c rest =>
      obtain ⟨htake, hdrop⟩ := takeWhile_append_of_dropWhile hdrop ending
      rw [hdrop, htake]
      split
      next heq =>
        cases rest with
        | nil => cases heq
        | cons d rest =>
            cases heq
            cases posixClass? (String.ofList (text.takeWhile (· != ':'))) <;> rfl
      next hother =>
        split
        next heq =>
          cases heq
          exact absurd rfl (hother _)
        next => rfl

theorem scanPosix?_append_ending (text : List Char) :
    scanPosix? (text ++ ending) =
      (scanPosix? text).map fun (token, rest) => (token, rest ++ ending) := by
  cases text with
  | nil => rfl
  | cons c text =>
      rw [List.cons_append, scanPosix?_cons, scanPosix?_cons, behindCircumflex_append_ending,
        scanPosixName?_append_ending]

theorem local_scanClassItem? : Local (scanClassItem? false) := by
  intro text token rest h
  unfold scanClassItem? at h
  split at h
  next => cases h
  next text =>
    rw [List.cons_append, scanClassItem?]
    split at h
    next => cases h
    next hanchor =>
      rw [local_scanEscape? _ _ _ h]
      split
      next heq =>
        cases heq
        exact absurd h (hanchor _ _)
      next => rfl
  next c text hc =>
    cases h
    rw [List.cons_append]
    unfold scanClassItem?
    split
    next heq => cases heq
    next heq => exact absurd (List.cons.inj heq).1 hc
    next heq =>
      cases heq
      rfl

theorem local_scanRange? : Local (scanRange? false) := by
  intro text token rest h
  obtain ⟨⟨first, middle⟩, hfirst, h⟩ := Option.bind_eq_some_iff.mp h
  refine Option.bind_eq_some_iff.mpr ⟨_, local_scanClassItem? _ _ _ hfirst, ?_⟩
  dsimp only [skip_false] at h ⊢
  split at h
  next text =>
    cases text with
    | nil => cases h
    | cons d text =>
        have hpeek : peek false (d :: text ++ ending) = peek false (d :: text) := rfl
        change (if peek false (d :: text ++ ending) == some ']' ||
          peek false (d :: text ++ ending) == some '-' then _ else _) = _
        rw [hpeek]
        split at h
        next hrange =>
          cases h
          exact if_pos hrange
        next hrange =>
          rw [if_neg hrange]
          obtain ⟨⟨last, more⟩, hlast, h⟩ := Option.bind_eq_some_iff.mp h
          refine Option.bind_eq_some_iff.mpr ⟨_, local_scanClassItem? _ _ _ hlast, ?_⟩
          dsimp only at h ⊢
          split at h
          next =>
            split at h
            next hle =>
              cases h
              exact if_pos hle
            next => cases h
          next => cases h
  next hother =>
    cases h
    split
    next heq => exact absurd heq (append_ending_ne (by decide) hother)
    next => rfl

theorem scanInner?_range {text : List Char}
    (h : ∀ front ∈ [['['], [']'], ['&', '&'], ['-', '-'], ['~', '~']], ¬ front <+: text) :
    scanInner? false text = scanRange? false text := by
  simp only [List.forall_mem_cons] at h
  obtain ⟨hopen, hclose, hinter, hdiff, hsymmDiff, -⟩ := h
  unfold scanInner?
  split
  case h_1 => exact absurd ⟨_, rfl⟩ hopen
  case h_2 => exact absurd ⟨_, rfl⟩ hclose
  case h_3 => exact absurd ⟨_, rfl⟩ hinter
  case h_4 => exact absurd ⟨_, rfl⟩ hdiff
  case h_5 => exact absurd ⟨_, rfl⟩ hsymmDiff
  case h_6 => rfl

theorem scanInner?_open {text : List Char} (h : ¬ [':'] <+: text) :
    scanInner? false ('[' :: text) = some (scanOpenClass false text) := by
  simp only [scanInner?]
  split
  next => exact absurd ⟨_, rfl⟩ h
  next => rfl

theorem local_scanInner? : Local (scanInner? false) := by
  intro text token rest h
  unfold scanInner? at h
  split at h
  case h_1 text =>
    split at h
    next inner =>
      change ((scanPosix? (inner ++ ending)).or
        (some (scanOpenClass false (':' :: inner ++ ending)))) = _
      rw [scanPosix?_append_ending, scanOpenClass_append_ending]
      cases hposix : scanPosix? inner with
      | none =>
          rw [hposix, Option.none_or] at h
          rw [Option.some.inj h]
          rfl
      | some =>
          rw [hposix] at h
          cases h
          rfl
    next hcolon =>
      rw [List.cons_append, scanInner?_open, scanOpenClass_append_ending, Option.some.inj h]
      exact not_isPrefix_append_ending (by decide) hcolon
  case h_2 | h_3 | h_4 | h_5 =>
    cases h
    rfl
  case h_6 hopen hclose hinter hdiff hsymmDiff =>
    rw [scanInner?_range]
    · exact local_scanRange? _ _ _ h
    · simp only [List.forall_mem_cons]
      refine ⟨?opens, ?closes, ?inter, ?diff, ?symmDiff, nofun⟩
      case opens => exact not_isPrefix_append_ending (by decide) hopen
      case closes => exact not_isPrefix_append_ending (by decide) hclose
      case inter => exact not_isPrefix_append_ending (by decide) hinter
      case diff => exact not_isPrefix_append_ending (by decide) hdiff
      case symmDiff => exact not_isPrefix_append_ending (by decide) hsymmDiff

theorem withBounds_greedy {text : List Char} (h : ¬ ['?'] <+: text) (least : Nat)
    (most : Option Nat) : withBounds least most text = (.quantifier least most false, text) := by
  unfold withBounds
  split
  next => exact absurd ⟨_, rfl⟩ h
  next => rfl

theorem withBounds_append_ending (least : Nat) (most : Option Nat) (text : List Char) :
    withBounds least most (text ++ ending) =
      ((withBounds least most text).1, (withBounds least most text).2 ++ ending) := by
  by_cases h : ['?'] <+: text
  · obtain ⟨text, rfl⟩ := h
    rfl
  · rw [withBounds_greedy h, withBounds_greedy]
    exact not_isPrefix_append_ending (by decide) fun more heq => h ⟨more, heq.symm⟩

theorem local_scanCounted? : Local (scanCounted? false) := by
  intro text token rest h
  obtain ⟨⟨inner, more⟩, hinner, h⟩ := Option.bind_eq_some_iff.mp h
  refine Option.bind_eq_some_iff.mpr ⟨_, local_scanBraced? _ _ _ hinner, ?_⟩
  obtain ⟨⟨least, most⟩, hbounds, h⟩ := Option.map_eq_some_iff.mp h
  refine Option.map_eq_some_iff.mpr ⟨_, hbounds, ?_⟩
  dsimp only [skip_false] at h ⊢
  rw [withBounds_append_ending, h]

theorem local_scanOuter? : Local (scanOuter? false) := by
  intro text token rest h
  cases text with
  | nil => cases h
  | cons c text =>
      rw [List.cons_append]
      simp only [scanOuter?] at h ⊢
      split at h
      case h_1 => exact local_scanGroup? _ _ _ h
      case h_4 => rw [scanOpenClass_append_ending, Option.some.inj h]
      case h_5 | h_6 | h_7 => rw [withBounds_append_ending, Option.some.inj h]
      case h_8 => exact local_scanCounted? _ _ _ h
      case h_9 => exact local_scanEscape? _ _ _ h
      all_goals
        cases h
        rfl

end Token

end FieldRules.Pattern
