import FieldRules.Pattern.Program
import FieldRules.Proofs.CompiledField
import FieldRules.Proofs.Pattern.Plain
import FieldRules.Proofs.Pattern.Search

namespace FieldRules

namespace Pattern

section

variable [Engine]

/-- The language of a pattern text, where it has a meaning. -/
def language? (text : List Char) : Option (Language Char) := do
  let tree ← Tree.ofText? text
  let (term, _) ← tree.term? Flags.initial
  return term.language

theorem ofText?_eq_some_iff {text : String} {pattern : Pattern} :
    ofText? text = some pattern ↔
      ∃ tree term flags, Tree.ofText? text.toList = some tree ∧
        tree.term? Flags.initial = some (term, flags) ∧ tree.depth ≤ greatestDepth ∧
          Engine.builds term = true ∧ ⟨term.expr⟩ = pattern := by
  simp [ofText?, Option.bind_eq_some_iff, and_assoc]

end

namespace Term

variable {expr : Expr} {language : Language Char} {text : List Char}

theorem Denotes.search_iff (h : Denotes expr language) :
    expr.search text = true ↔
      ∃ before word after, text = before ++ word ++ after ∧ word ∈ language := by
  simp only [Expr.search_iff, h _ _ _]

theorem Denotes.matches_anchored_iff {term : Term} (h : Denotes term.expr language)
    {before word after : List Char} :
    term.anchored.expr.Matches before word after ↔ before = [] ∧ after = [] ∧ word ∈ language := by
  simp only [anchored, expr, concatExpr, Expr.matches_seq, Expr.matches_look, Expr.matches_empty,
    Look.holds, h _ _ _]
  constructor
  · intro hmatches
    obtain ⟨_, _, rfl, ⟨rfl, hbefore⟩, word, _, rfl, hword, _, _, rfl, ⟨rfl, hafter⟩, rfl⟩ := hmatches
    simp only [List.append_nil, List.nil_append] at *
    exact ⟨by simpa using hbefore, by simpa using hafter, hword⟩
  · intro hmem
    obtain ⟨rfl, rfl, hword⟩ := hmem
    exact ⟨[], word, rfl, ⟨rfl, rfl⟩, word, [], (List.append_nil word).symm, hword, [], [], rfl,
      ⟨rfl, rfl⟩, rfl⟩

theorem Denotes.search_anchored_iff {term : Term} (h : Denotes term.expr language) :
    term.anchored.expr.search text = true ↔ text ∈ language := by
  simp only [Expr.search_iff, h.matches_anchored_iff, List.reverse_eq_nil_iff]
  constructor
  · intro hsearch
    obtain ⟨_, word, _, rfl, rfl, rfl, hword⟩ := hsearch
    simpa using hword
  · intro htext
    exact ⟨[], text, [], by simp, rfl, rfl, htext⟩

end Term

theorem exists_language [Engine] {text text' : String} {pattern pattern' : Pattern}
    (hplain : IsPlain text.toList) (htext : text'.toList = anchored text.toList)
    (h : ofText? text = some pattern) (h' : ofText? text' = some pattern') :
    ∃ language, language? text.toList = some language ∧
      (∀ subject, pattern.occursIn subject = true ↔
        ∃ before word after, subject.toList = before ++ word ++ after ∧ word ∈ language) ∧
      ∀ subject, pattern'.occursIn subject = true ↔ subject.toList ∈ language := by
  obtain ⟨tree, term, flags, htree, hterm, -, -, rfl⟩ := ofText?_eq_some_iff.mp h
  obtain ⟨tree', term', flags', htree', hterm', -, -, rfl⟩ := ofText?_eq_some_iff.mp h'
  have hextended : ∀ tokens, tokens? text.toList = some tokens →
      ∀ token ∈ tokens, ⟨.extended, true⟩ ∉ token.changes :=
    fun tokens htokens token htoken => (hplain tokens htokens token htoken).no_extended
  rw [htext, Tree.ofText?_anchored hextended htree] at htree'
  cases htree'
  rw [Tree.term?_anchored hterm] at hterm'
  cases hterm'
  have hdenotes := ((hplain.tree htree).term? _ _ _ hterm).denotes
  refine ⟨term.language, ?_, fun _ => hdenotes.search_iff, fun _ => hdenotes.search_anchored_iff⟩
  rw [language?, htree]
  simp [hterm]

end Pattern

namespace Rule

open Pattern

theorem exists_part_iff {p : List Char → Prop} {subject : String} :
    (∃ before part after, subject.toList = before ++ part ++ after ∧ p part) ↔
      ∃ before part after : String, subject = before ++ part ++ after ∧ p part.toList := by
  constructor
  · intro h
    obtain ⟨before, part, after, hsubject, hpart⟩ := h
    refine ⟨.ofList before, .ofList part, .ofList after, ?_, ?_⟩
    · rw [← String.toList_inj, hsubject]
      simp
    · rwa [String.toList_ofList]
  · intro h
    obtain ⟨before, part, after, rfl, hpart⟩ := h
    exact ⟨before.toList, part.toList, after.toList, by simp, hpart⟩

theorem search_eq_true_iff {pattern : Pattern} {value : Value} :
    Test.search pattern value = true ↔ ∃ text, value = .str text ∧ pattern.occursIn text = true := by
  cases value <;> simp [Test.search]

section

variable [Engine]

theorem exists_pattern_of_compile {text : String} {message : Message} {checker : Checker}
    (h : (Rule.mk .pattern (some (.str text)) message).compile = .ok checker) :
    ∃ pattern, Pattern.ofText? text = some pattern ∧
      ∀ value, checker.passes value = Test.search pattern value := by
  obtain ⟨test, _⟩ := checker
  obtain ⟨htest, -⟩ := compile_eq_ok_iff.mp h
  cases htest with
  | @pattern _ pattern hread => exact ⟨pattern, hread, fun _ => rfl⟩

/-- A pattern without assertions is searched for: a value passes when it is a text with a part that
passes the anchored pattern, and that passes the words of the language and nothing else. So text
around what passes does not matter. -/
theorem pattern_passes_iff_part_passes_anchored {text : String} {message message' : Message}
    {checker anchored : Checker} (hplain : IsPlain text.toList)
    (hcompile : (Rule.mk .pattern (some (.str text)) message).compile = .ok checker)
    (hanchored : (Rule.mk .pattern (some (.str ("^(?:" ++ text ++ ")$"))) message').compile =
      .ok anchored) :
    (∀ value, checker.passes value = true ↔
      ∃ subject, value = .str subject ∧ ∃ before part after, subject = before ++ part ++ after ∧
        anchored.passes (.str part) = true) ∧
    (∃ language, Pattern.language? text.toList = some language ∧
      ∀ part : String, anchored.passes (.str part) = true ↔ part.toList ∈ language) ∧
    ∀ before subject after : String, checker.passes (.str subject) = true →
      checker.passes (.str (before ++ subject ++ after)) = true := by
  obtain ⟨pattern, hpattern, hpasses⟩ := exists_pattern_of_compile hcompile
  obtain ⟨pattern', hpattern', hpasses'⟩ := exists_pattern_of_compile hanchored
  have htext : ("^(?:" ++ text ++ ")$").toList = Pattern.anchored text.toList := by
    simp [Pattern.anchored, ending]
  obtain ⟨language, hlanguage, hsearch, hwhole⟩ :=
    exists_language hplain htext hpattern hpattern'
  have hpart (part : String) : anchored.passes (.str part) = true ↔ part.toList ∈ language := by
    rw [hpasses']
    exact hwhole part
  have hchecker (value : Value) : checker.passes value = true ↔
      ∃ subject, value = .str subject ∧ ∃ before part after, subject = before ++ part ++ after ∧
        anchored.passes (.str part) = true := by
    rw [hpasses, search_eq_true_iff]
    simp only [hsearch, hpart, exists_part_iff]
  refine ⟨hchecker, ⟨language, hlanguage, hpart⟩, ?_⟩
  intro before subject after hsubject
  obtain ⟨_, heq, front, part, back, rfl, hpasses⟩ := (hchecker _).mp hsubject
  cases heq
  refine (hchecker _).mpr ⟨_, rfl, before ++ front, part, back ++ after, ?_, hpasses⟩
  simp [String.append_assoc]

theorem exists_compile_eq_ok {text : String} (h : (Pattern.ofText? text).isSome = true) :
    ∃ checker, (Rule.mk .pattern (some (.str text)) .default).compile = .ok checker := by
  obtain ⟨pattern, hpattern⟩ := Option.isSome_iff_exists.mp h
  exact ⟨⟨.pattern pattern, _⟩, compile_eq_ok_iff.mpr ⟨.pattern hpattern, rfl⟩⟩

end

theorem plain_literal (letter : Letter) : (Token.literal letter).Plain := by
  constructor
  · intro anchor h
    cases h
  · exact List.not_mem_nil

theorem plain_bar : Token.bar.Plain := by
  constructor
  · intro anchor h
    cases h
  · exact List.not_mem_nil

theorem isPlain_branches : IsPlain "a|bc".toList := by
  have htokens : tokens? "a|bc".toList =
      some [.literal ⟨'a', false⟩, .bar, .literal ⟨'b', false⟩, .literal ⟨'c', false⟩] := by
    cbv
  intro tokens h
  rw [htokens] at h
  cases h
  simp only [List.forall_mem_cons]
  exact ⟨plain_literal _, plain_bar, plain_literal _, plain_literal _, List.forall_mem_nil _⟩

def branchesTerm : Term :=
  .alternation [.chars (.single 'a') true,
    .concat [.chars (.single 'b') true, .chars (.single 'c') true]]

theorem language?_branches : Pattern.language? "a|bc".toList = some branchesTerm.language := by
  have hread : ((Tree.ofText? "a|bc".toList).bind fun tree =>
      (tree.term? Flags.initial).map fun (term, _) => term) = some branchesTerm := by
    cbv
  obtain ⟨tree, htree, hterm⟩ := Option.bind_eq_some_iff.mp hread
  obtain ⟨⟨term, _⟩, hterm, rfl⟩ := Option.map_eq_some_iff.mp hterm
  rw [Pattern.language?, htree, Option.bind_eq_bind, Option.bind_some, hterm]
  rfl

theorem pattern_passes_iff_part_passes_anchored_branches :
    IsPlain "a|bc".toList ∧ ∃ checker anchored,
      (Rule.mk .pattern (some (.str "a|bc")) .default).compile = .ok checker ∧
      (Rule.mk .pattern (some (.str ("^(?:" ++ "a|bc" ++ ")$"))) .default).compile = .ok anchored ∧
      anchored.passes (.str "bc") = true ∧ checker.passes (.str "xbcy") = true := by
  obtain ⟨checker, hchecker⟩ : ∃ checker,
      (Rule.mk .pattern (some (.str "a|bc")) .default).compile = .ok checker :=
    exists_compile_eq_ok (by decide +kernel)
  obtain ⟨anchored, hanchored⟩ : ∃ anchored,
      (Rule.mk .pattern (some (.str ("^(?:" ++ "a|bc" ++ ")$"))) .default).compile = .ok anchored :=
    exists_compile_eq_ok (by decide +kernel)
  obtain ⟨hpart, ⟨language, hlanguage, hwhole⟩, -⟩ :=
    pattern_passes_iff_part_passes_anchored isPlain_branches hchecker hanchored
  rw [language?_branches] at hlanguage
  cases hlanguage
  have hword : "bc".toList ∈ branchesTerm.language :=
    .inr (.inl ⟨['b'], ⟨'b', rfl, rfl⟩, ['c'], ⟨['c'], ⟨'c', rfl, rfl⟩, [], rfl, rfl⟩, rfl⟩)
  have hpasses : anchored.passes (.str "bc") = true := (hwhole "bc").mpr hword
  exact ⟨isPlain_branches, checker, anchored, hchecker, hanchored, hpasses,
    (hpart (.str "xbcy")).mpr ⟨"xbcy", rfl, "x", "bc", "y", rfl, hpasses⟩⟩

end Rule

end FieldRules
