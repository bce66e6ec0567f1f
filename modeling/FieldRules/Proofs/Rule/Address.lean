import FieldRules.Pattern.Program
import FieldRules.Proofs.Pattern.Search
import FieldRules.Rule.Checker
import Mathlib

namespace FieldRules.Email

open FieldRules.Pattern FieldRules.Pattern.Expr FieldRules.Unicode

def IsWordChar (c : Char) : Prop := c.isAlphanum = true ∨ c = '_'

def IsJoint (c : Char) : Prop := c = '.' ∨ c = '-'

structure IsWord (word : List Char) : Prop where
  nonempty : word ≠ []
  chars : ∀ c ∈ word, IsWordChar c

/-- Words one after the other, each but the first with the joint before it. -/
structure Labels where
  first : List Char
  more : List (Char × List Char)
  isWord_first : IsWord first
  isJoint_more : ∀ part ∈ more, IsJoint part.1
  isWord_more : ∀ part ∈ more, IsWord part.2

def partText (part : Char × List Char) : List Char := part.1 :: part.2

namespace Labels

def text (labels : Labels) : List Char := labels.first ++ labels.more.flatMap partText

def cons (word : List Char) (joint : Char) (labels : Labels) (hword : IsWord word)
    (hjoint : IsJoint joint) : Labels where
  first := word
  more := (joint, labels.first) :: labels.more
  isWord_first := hword
  isJoint_more := List.forall_mem_cons.mpr ⟨hjoint, labels.isJoint_more⟩
  isWord_more := List.forall_mem_cons.mpr ⟨labels.isWord_first, labels.isWord_more⟩

theorem text_cons (word : List Char) (joint : Char) (labels : Labels) (hword : IsWord word)
    (hjoint : IsJoint joint) :
    (cons word joint labels hword hjoint).text = word ++ joint :: labels.text := by
  simp [text, cons, partText]

end Labels

def IsAddress (text : List Char) : Prop :=
  ∃ name domain : Labels, text = name.text ++ '@' :: domain.text ∧
    '@' ∉ name.text ∧ '@' ∉ domain.text ∧
      ∃ word, domain.more.getLast? = some ('.', word) ∧ (word.length = 2 ∨ word.length = 3)

variable {c : Char} {before word after text : List Char} {least : Nat} {extra : Option Nat}

theorem contains_asciiWord : CharSet.asciiWord.contains c = true ↔ IsWordChar c := by
  have hunderscore : c = '_' ↔ c.toNat = 0x5F := by
    rw [← Char.toNat_inj]
    rfl
  simp only [CharSet.contains, CharSet.asciiWord, CharSet.within, IsWordChar, hunderscore,
    Char.isAlphanum, Char.isAlpha, Char.isUpper, Char.isLower, Char.isDigit, List.any_cons,
    List.any_nil, Bool.or_false, Bool.or_eq_true, Bool.and_eq_true, decide_eq_true_eq, ge_iff_le,
    UInt32.le_iff_toNat_le, Char.toNat, Char.reduceVal, UInt32.reduceToNat]
  omega

theorem contains_joint :
    (CharSet.unionAll [.single '.', .single '-']).contains c = true ↔ IsJoint c := by
  simp [CharSet.contains_single, IsJoint]

theorem matches_wordChars :
    Matches (.rep wordChar least extra) before word after ↔
      Allows least extra word.length ∧ ∀ c ∈ word, IsWordChar c := by
  simp only [wordChar, matches_rep_chars, contains_asciiWord]

theorem matches_wordChar_plus : Matches wordChar.plus before word after ↔ IsWord word := by
  rw [Expr.plus, matches_wordChars, allows_none, Nat.one_le_iff_ne_zero, ne_eq,
    List.length_eq_zero_iff]
  exact ⟨fun ⟨hword, hchars⟩ => ⟨hword, hchars⟩, fun ⟨hword, hchars⟩ => ⟨hword, hchars⟩⟩

theorem matches_joint_optional :
    Matches joint.optional before word after ↔ word = [] ∨ ∃ c, IsJoint c ∧ word = [c] := by
  simp only [Expr.optional, joint, matches_rep_chars, contains_joint, allows_some]
  constructor
  · rintro ⟨⟨-, hlength⟩, hjoints⟩
    match word, hlength with
    | [], _ => exact .inl rfl
    | [c], _ => exact .inr ⟨c, hjoints c List.mem_cons_self, rfl⟩
  · rintro (rfl | ⟨c, hjoint, rfl⟩)
    · exact ⟨⟨Nat.le_refl _, Nat.zero_le _⟩, nofun⟩
    · exact ⟨⟨Nat.zero_le _, Nat.le_refl _⟩, List.forall_mem_singleton.mpr hjoint⟩

/-- What one round of the repetition after the first word reads. -/
inductive IsPiece : List Char → Prop
  | word {word : List Char} (hword : IsWord word) : IsPiece word
  | joined {c : Char} {word : List Char} (hjoint : IsJoint c) (hword : IsWord word) :
      IsPiece (c :: word)

theorem matches_piece :
    Matches (.seq joint.optional wordChar.plus) before word after ↔ IsPiece word := by
  simp only [matches_seq, matches_joint_optional, matches_wordChar_plus]
  constructor
  · rintro ⟨_, v, rfl, rfl | ⟨c, hjoint, rfl⟩, hword⟩
    · exact .word hword
    · exact .joined hjoint hword
  · rintro (hword | ⟨hjoint, hword⟩)
    · exact ⟨[], word, rfl, .inl rfl, hword⟩
    · exact ⟨[_], _, rfl, .inr ⟨_, hjoint, rfl⟩, hword⟩

theorem IsWord.append {u v : List Char} (hu : IsWord u) (hv : IsWord v) : IsWord (u ++ v) :=
  ⟨List.append_ne_nil_of_left_ne_nil hu.nonempty v,
    List.forall_mem_append.mpr ⟨hu.chars, hv.chars⟩⟩

/-- Pieces without a joint continue the word before them. -/
theorem exists_labels_of_pieces {pieces : List (List Char)} (hpieces : ∀ p ∈ pieces, IsPiece p)
    (hword : IsWord word) : ∃ labels : Labels, labels.text = word ++ pieces.flatMap id := by
  induction pieces generalizing word with
  | nil => exact ⟨⟨word, [], hword, nofun, nofun⟩, rfl⟩
  | cons p pieces ih =>
      obtain ⟨hp, hpieces⟩ := List.forall_mem_cons.mp hpieces
      cases hp with
      | word hp =>
          obtain ⟨labels, hlabels⟩ := ih ‹_› (hword.append hp)
          exact ⟨labels, by simpa using hlabels⟩
      | joined hjoint hp =>
          obtain ⟨labels, hlabels⟩ := ih ‹_› hp
          exact ⟨.cons word _ labels hword hjoint, by simp [Labels.text_cons, hlabels]⟩

theorem matches_words :
    Matches words before word after ↔ ∃ labels : Labels, labels.text = word := by
  have hpiece : ∀ before word after,
      Matches (.seq joint.optional wordChar.plus) before word after ↔
        ∃ p, IsPiece p ∧ id p = word := by
    simp [matches_piece]
  simp only [words, Expr.star, matches_seq, matches_wordChar_plus, matches_rep_iff_flatMap hpiece]
  constructor
  · rintro ⟨u, _, rfl, hword, pieces, -, hpieces, rfl⟩
    exact exists_labels_of_pieces hpieces hword
  · rintro ⟨labels, rfl⟩
    refine ⟨labels.first, _, rfl, labels.isWord_first, labels.more.map partText,
      allows_none.mpr (Nat.zero_le _), ?_, by simp [List.flatMap_map]⟩
    rw [List.forall_mem_map]
    intro part hpart
    exact .joined (labels.isJoint_more part hpart) (labels.isWord_more part hpart)

/-- A dot and a word of two or three characters. -/
def IsEnding (part : Char × List Char) : Prop :=
  part.1 = '.' ∧ IsWord part.2 ∧ (part.2.length = 2 ∨ part.2.length = 3)

theorem matches_ending :
    Matches ending before word after ↔ ∃ part, IsEnding part ∧ partText part = word := by
  simp only [ending, matches_seq, matches_chars, matches_wordChars, CharSet.contains_single,
    beq_iff_eq, allows_some]
  constructor
  · rintro ⟨_, v, rfl, ⟨c, rfl, rfl⟩, ⟨hleast, hmost⟩, hchars⟩
    have hword : v ≠ [] := List.ne_nil_of_length_pos (Nat.lt_of_lt_of_le Nat.two_pos hleast)
    have hlength : v.length = 2 ∨ v.length = 3 := by omega
    exact ⟨('.', v), ⟨rfl, ⟨hword, hchars⟩, hlength⟩, rfl⟩
  · rintro ⟨⟨_, v⟩, ⟨rfl, hword, hlength⟩, rfl⟩
    have hlength : 2 ≤ v.length ∧ v.length ≤ 2 + 1 := by
      dsimp only at hlength
      omega
    exact ⟨['.'], v, rfl, ⟨'.', rfl, rfl⟩, hlength, hword.chars⟩

theorem matches_endings :
    Matches ending.plus before word after ↔
      ∃ endings, endings ≠ [] ∧ (∀ part ∈ endings, IsEnding part) ∧
        endings.flatMap partText = word := by
  rw [Expr.plus, matches_rep_iff_flatMap fun _ _ _ => matches_ending]
  simp only [allows_none, Nat.one_le_iff_ne_zero, ne_eq, List.length_eq_zero_iff]

/-- The rounds for the endings give up all but the last of their parts to the words before them. -/
theorem exists_labels_and_endings :
    (∃ (labels : Labels) (endings : List (Char × List Char)), endings ≠ [] ∧
        (∀ part ∈ endings, IsEnding part) ∧ labels.text ++ endings.flatMap partText = text) ↔
      ∃ domain : Labels, domain.text = text ∧ ∃ word, domain.more.getLast? = some ('.', word) ∧
        (word.length = 2 ∨ word.length = 3) := by
  constructor
  · rintro ⟨⟨first, more, hfirst, hjoints, hwords⟩, endings, hne, hendings, rfl⟩
    obtain ⟨init, ⟨joint, word⟩, rfl⟩ : ∃ init last, endings = init ++ [last] :=
      ⟨_, _, (List.dropLast_concat_getLast hne).symm⟩
    obtain ⟨rfl, -, hlength⟩ := hendings (joint, word) (by simp)
    refine ⟨⟨first, more ++ (init ++ [('.', word)]), hfirst, ?_, ?_⟩, by simp [Labels.text], word,
      by simp, hlength⟩
    · exact List.forall_mem_append.mpr ⟨hjoints, fun part hpart => .inl (hendings part hpart).1⟩
    · exact List.forall_mem_append.mpr ⟨hwords, fun part hpart => (hendings part hpart).2.1⟩
  · rintro ⟨⟨first, more, hfirst, hjoints, hwords⟩, rfl, word, hlast, hlength⟩
    obtain ⟨init, rfl⟩ := List.getLast?_eq_some_iff.mp hlast
    obtain ⟨hjoints, -⟩ := List.forall_mem_append.mp hjoints
    obtain ⟨hwords, hword⟩ := List.forall_mem_append.mp hwords
    refine ⟨⟨first, init, hfirst, hjoints, hwords⟩, [('.', word)], List.cons_ne_nil _ _, ?_, ?_⟩
    · exact List.forall_mem_singleton.mpr ⟨rfl, hword _ List.mem_cons_self, hlength⟩
    · simp [Labels.text]

theorem not_isWordChar_at : ¬ IsWordChar '@' := by
  rw [← contains_asciiWord]
  decide

theorem not_isJoint_at : ¬ IsJoint '@' := by
  unfold IsJoint
  decide

theorem Labels.chars (labels : Labels) : ∀ c ∈ labels.text, IsWordChar c ∨ IsJoint c := by
  intro c hc
  simp only [text, partText, List.mem_append, List.mem_flatMap, List.mem_cons] at hc
  rcases hc with hfirst | ⟨part, hpart, rfl | hword⟩
  · exact .inl (labels.isWord_first.chars c hfirst)
  · exact .inr (labels.isJoint_more part hpart)
  · exact .inl ((labels.isWord_more part hpart).chars c hword)

theorem Labels.at_not_mem (labels : Labels) : '@' ∉ labels.text := fun h =>
  (labels.chars '@' h).elim not_isWordChar_at not_isJoint_at

theorem matches_address :
    Matches address before word after ↔ before = [] ∧ after = [] ∧ IsAddress word := by
  simp only [address, seqAll, List.foldr, matches_seq, matches_look, matches_empty, matches_words,
    matches_chars, matches_endings, CharSet.contains_single, beq_iff_eq, Look.holds]
  constructor
  · rintro ⟨_, _, rfl, ⟨rfl, hbefore⟩, _, _, rfl, ⟨name, rfl⟩, _, _, rfl, ⟨_, rfl, rfl⟩, _, _, rfl,
      ⟨labels, rfl⟩, _, _, rfl, ⟨endings, hne, hendings, rfl⟩, _, _, rfl, ⟨rfl, hafter⟩, rfl⟩
    obtain ⟨domain, hdomain, hlast⟩ :=
      exists_labels_and_endings.mp ⟨labels, endings, hne, hendings, rfl⟩
    refine ⟨by simpa using hbefore, by simpa using hafter, name, domain, ?_, name.at_not_mem,
      domain.at_not_mem, hlast⟩
    simp [hdomain]
  · rintro ⟨rfl, rfl, name, domain, rfl, -, -, hlast⟩
    obtain ⟨labels, endings, hne, hendings, hdomain⟩ :=
      exists_labels_and_endings.mpr ⟨domain, rfl, hlast⟩
    refine ⟨[], _, rfl, ⟨rfl, rfl⟩, name.text, _, rfl, ⟨name, rfl⟩, ['@'], _, rfl, ⟨'@', rfl, rfl⟩,
      labels.text, _, hdomain.symm, ⟨labels, rfl⟩, _, [], (List.append_nil _).symm,
      ⟨endings, hne, hendings, rfl⟩, [], [], rfl, ⟨rfl, rfl⟩, rfl⟩

theorem search_address : address.search text = true ↔ IsAddress text := by
  simp only [search_iff, matches_address, List.reverse_eq_nil_iff]
  constructor
  · rintro ⟨_, word, _, rfl, rfl, rfl, haddress⟩
    simpa using haddress
  · exact fun haddress => ⟨[], text, [], by simp, rfl, rfl, haddress⟩

theorem IsAddress.chars (haddress : IsAddress text) :
    ∀ c ∈ text, IsWordChar c ∨ IsJoint c ∨ c = '@' := by
  obtain ⟨name, domain, rfl, -⟩ := haddress
  intro c hc
  rcases List.mem_append.mp hc with hname | hdomain
  · exact (name.chars c hname).imp_right .inl
  · rcases List.mem_cons.mp hdomain with hat | hdomain
    · exact .inr (.inr hat)
    · exact (domain.chars c hdomain).imp_right .inl

theorem IsAddress.count_at (haddress : IsAddress text) : text.count '@' = 1 := by
  obtain ⟨name, domain, rfl, hname, hdomain, -⟩ := haddress
  rw [List.count_append, List.count_cons_self, List.count_eq_zero.mpr hname,
    List.count_eq_zero.mpr hdomain]

def source : String :=
  "^[A-Za-z0-9_]+([.-]?[A-Za-z0-9_]+)*@[A-Za-z0-9_]+([.-]?[A-Za-z0-9_]+)*" ++
    "(\\.[A-Za-z0-9_]\x7b2,3\x7d)+$"

def wordsTerms : List Term :=
  let word : Term := .repeated (.chars .asciiWord true) 1 none false
  let joint : Term := .repeated (.chars ⟨[(0x2D, 0x2E)]⟩ true) 0 (some 1) false
  [word, .repeated (.capture (.concat [joint, word])) 0 none false]

def endingTerm : Term :=
  .concat [.chars (.single '.') true, .repeated (.chars .asciiWord true) 2 (some 3) false]

def sourceTerm : Term :=
  .concat (.look .textStart :: (wordsTerms ++ .chars (.single '@') true ::
    (wordsTerms ++ [.repeated (.capture endingTerm) 1 none false, .look .textEnd])))

set_option maxRecDepth 10000 in
theorem term?_source [Engine] :
    ((Tree.ofText? source.toList).bind fun tree =>
      (tree.term? Flags.initial).map fun (term, _) => (tree.depth, term)) =
        some (7, sourceTerm) := by
  cbv

theorem ofText?_source [Engine] (hbuilds : Engine.builds sourceTerm = true) :
    Pattern.ofText? source = some ⟨sourceTerm.expr⟩ := by
  obtain ⟨tree, htree, hread⟩ := Option.bind_eq_some_iff.mp term?_source
  obtain ⟨⟨term, _⟩, hterm, heq⟩ := Option.map_eq_some_iff.mp hread
  obtain ⟨hdepth, rfl⟩ := Prod.mk.inj heq
  rw [Pattern.ofText?, htree, Option.bind_eq_bind, Option.bind_some, hterm, Option.bind_eq_bind,
    Option.bind_some]
  exact if_pos ⟨hdepth ▸ by decide, hbuilds⟩

theorem hasPrograms_source : (Plan.ofTerm sourceTerm).hasPrograms = true := by
  decide +kernel

theorem builds_source : Engine.listed.builds sourceTerm = true :=
  Bool.or_eq_true_iff.mpr (.inr hasPrograms_source)

def wordsThen (rest : Expr) : Expr :=
  .seq wordChar.plus (.seq (.star (.seq joint.optional (.seq wordChar.plus .empty))) rest)

def sourceExpr : Expr :=
  let ending : Expr := .seq (.chars (.single '.')) (.seq (.rep wordChar 2 (some 1)) .empty)
  .seq (.look .textStart) (wordsThen (.seq (.chars (.single '@'))
    (wordsThen (.seq ending.plus (.seq (.look .textEnd) .empty)))))

theorem expr_sourceTerm : sourceTerm.expr = sourceExpr := by
  cbv

theorem words_sameWords {rest rest' : Expr} (hrest : SameWords rest rest') :
    SameWords (.seq words rest) (wordsThen rest') := by
  have hpiece : SameWords (.seq joint.optional wordChar.plus)
      (.seq joint.optional (.seq wordChar.plus .empty)) :=
    .seq (.refl _) (SameWords.seq_empty.symm)
  exact .trans .seq_assoc (.seq (.refl _) (.seq hpiece.rep hrest))

theorem address_sameWords : SameWords address sourceTerm.expr := by
  rw [expr_sourceTerm]
  have hending : SameWords ending
      (.seq (.chars (.single '.')) (.seq (.rep wordChar 2 (some 1)) .empty)) :=
    .seq (.refl _) (SameWords.seq_empty.symm)
  refine .seq (.refl _) (words_sameWords (.seq (.refl _) (words_sameWords ?_)))
  exact .seq hending.rep (.refl _)

theorem passes_eq_true_iff {checker : Checker} {value : Value} (htest : checker.test = .email) :
    checker.passes value = true ↔ ∃ text, value = .str text ∧ IsAddress text.toList := by
  rw [Checker.passes, htest]
  cases value with
  | str text =>
      change address.search text.toList = true ↔ _
      simp only [search_address, Value.str.injEq, exists_eq_left']
  | _ =>
      constructor
      · nofun
      · rintro ⟨_, ⟨⟩, -⟩

/-- An email rule compiles, with any operand or none, and its checker accepts the addresses and
nothing else: it searches for the written pattern. -/
theorem passes_iff_isAddress [Engine] (operand : Option Value) (message : Message) :
    ∃ checker, (Rule.mk .email operand message).compile = .ok checker ∧
      (∀ value, checker.passes value = true ↔ ∃ text, value = .str text ∧ IsAddress text.toList) ∧
      (∀ text, checker.passes (.str text) = true → text.toList.count '@' = 1 ∧
        ∀ c ∈ text.toList, IsWordChar c ∨ IsJoint c ∨ c = '@') ∧
      ∃ written, @Pattern.ofText? .listed source = some written ∧
        ∀ value, checker.passes value = Test.search written value := by
  refine ⟨⟨.email, _⟩, rfl, fun value => passes_eq_true_iff rfl, fun text hpasses => ?_,
    ⟨sourceTerm.expr⟩, @ofText?_source .listed builds_source, fun value => ?_⟩
  · obtain ⟨_, heq, haddress⟩ := (passes_eq_true_iff rfl).mp hpasses
    cases heq
    exact ⟨haddress.count_at, haddress.chars⟩
  · cases value with
    | str text => exact address_sameWords.search text.toList
    | _ => rfl

end FieldRules.Email
