import FieldRules.Pattern.Search
import FieldRules.Proofs.Pattern.Language

namespace FieldRules.Pattern.Expr

/-! A search decides whether a text has a part that an expression matches. What is left to match
after a character, and after first parts that match nothing, is again described by expressions. -/

variable {expr first second left right body rest head : Expr} {least : Nat} {extra : Option Nat}
  {before after word text u v : List Char} {c : Char} {place : Place}

theorem nullable_iff :
    expr.nullable ⟨before.head?, after.head?⟩ = true ↔ Matches expr before [] after := by
  induction expr with
  | empty => simp [nullable]
  | chars set => simp [nullable]
  | look assertion => simp [nullable]
  | seq first second ihFirst ihSecond =>
      rw [nullable, Bool.and_eq_true, ihFirst, ihSecond, matches_seq]
      constructor
      · rintro ⟨hfirst, hsecond⟩
        exact ⟨[], [], rfl, hfirst, hsecond⟩
      · rintro ⟨u, v, hword, hfirst, hsecond⟩
        obtain ⟨rfl, rfl⟩ := List.append_eq_nil_iff.mp hword.symm
        exact ⟨hfirst, hsecond⟩
  | alt left right ihLeft ihRight =>
      rw [nullable, Bool.or_eq_true, ihLeft, ihRight, matches_alt]
  | rep body least extra ih =>
      rw [nullable, Bool.or_eq_true, beq_iff_eq, ih, matches_rep]
      constructor
      · rintro (rfl | hbody)
        · exact ⟨0, ⟨Nat.le_refl _, fun _ _ => Nat.zero_le _⟩, .done⟩
        · exact ⟨least, ⟨Nat.le_refl _, fun _ _ => Nat.le_add_right _ _⟩, rounds_nil hbody least⟩
      · rintro ⟨n, ⟨hleast, -⟩, hrounds⟩
        cases n with
        | zero => exact .inl (Nat.le_zero.mp hleast)
        | succ n =>
            obtain ⟨u, v, hword, hbody, -⟩ := rounds_succ.mp hrounds
            obtain ⟨rfl, rfl⟩ := List.append_eq_nil_iff.mp hword.symm
            exact .inr hbody

theorem matches_andThen :
    Matches (first.andThen second) before word after ↔
      ∃ u v, word = u ++ v ∧ Matches first before u (v ++ after) ∧
        Matches second (u.reverse ++ before) v after := by
  unfold andThen
  split
  · simp
  · exact matches_seq

/-- A word of `expr` that starts with the character `c`, and a word of `rest` after it. -/
def ReadsThen (expr rest : Expr) (c : Char) (before word after : List Char) : Prop :=
  ∃ u v, word = u ++ v ∧ Matches expr before (c :: u) (v ++ after) ∧
    Matches rest (u.reverse ++ c :: before) v after

theorem readsThen_seq :
    ReadsThen (.seq first second) rest c before word after ↔
      ReadsThen first (second.andThen rest) c before word after ∨
        Matches first before [] (c :: (word ++ after)) ∧
          ReadsThen second rest c before word after := by
  constructor
  · rintro ⟨u, v, rfl, hseq, hrest⟩
    obtain ⟨p, q, hword, hfirst, hsecond⟩ := matches_seq.mp hseq
    cases p with
    | nil =>
        obtain rfl : c :: u = q := hword
        exact .inr ⟨by simpa using hfirst, u, v, rfl, hsecond, hrest⟩
    | cons d p =>
        obtain ⟨rfl, rfl⟩ := List.cons.inj hword
        refine .inl ⟨p, q ++ v, by simp, by simpa using hfirst, matches_andThen.mpr ?_⟩
        exact ⟨q, v, rfl, by simpa using hsecond, by simpa using hrest⟩
  · rintro (⟨p, w, rfl, hfirst, hthen⟩ | ⟨hfirst, u, v, rfl, hsecond, hrest⟩)
    · obtain ⟨q, v, rfl, hsecond, hrest⟩ := matches_andThen.mp hthen
      refine ⟨p ++ q, v, by simp, matches_seq.mpr ⟨c :: p, q, rfl, by simpa using hfirst, ?_⟩, ?_⟩
      · simpa using hsecond
      · simpa using hrest
    · refine ⟨u, v, rfl, matches_seq.mpr ⟨[], c :: u, rfl, ?_, hsecond⟩, hrest⟩
      simpa using hfirst

theorem readsThen_alt :
    ReadsThen (.alt left right) rest c before word after ↔
      ReadsThen left rest c before word after ∨ ReadsThen right rest c before word after := by
  simp only [ReadsThen, matches_alt]
  constructor
  · rintro ⟨u, v, hword, h | h, hrest⟩
    · exact .inl ⟨u, v, hword, h, hrest⟩
    · exact .inr ⟨u, v, hword, h, hrest⟩
  · rintro (⟨u, v, hword, h, hrest⟩ | ⟨u, v, hword, h, hrest⟩)
    · exact ⟨u, v, hword, .inl h, hrest⟩
    · exact ⟨u, v, hword, .inr h, hrest⟩

/-- Before the round that reads a character, rounds may pass that match nothing. -/
theorem rounds_cons {n : Nat} :
    Rounds body n before (c :: word) after ↔
      ∃ i m, n = i + 1 + m ∧ (0 < i → Matches body before [] (c :: (word ++ after))) ∧
        ∃ u v, word = u ++ v ∧ Matches body before (c :: u) (v ++ after) ∧
          Rounds body m (u.reverse ++ c :: before) v after := by
  induction n with
  | zero =>
      rw [rounds_zero]
      constructor
      · intro h
        cases h
      · rintro ⟨i, m, hn, -⟩
        omega
  | succ n ih =>
      constructor
      · intro h
        obtain ⟨u, v, hword, hbody, hrounds⟩ := rounds_succ.mp h
        cases u with
        | nil =>
            obtain rfl : c :: word = v := hword
            obtain ⟨i, m, rfl, -, hread⟩ := ih.mp hrounds
            exact ⟨i + 1, m, by omega, fun _ => hbody, hread⟩
        | cons d u =>
            obtain ⟨rfl, rfl⟩ := List.cons.inj hword
            exact ⟨0, n, by omega, nofun, u, v, rfl, hbody, by simpa using hrounds⟩
      · rintro ⟨i, m, hn, hnull, u, v, rfl, hbody, hrounds⟩
        cases i with
        | zero =>
            obtain rfl : n = m := by omega
            exact rounds_succ.mpr ⟨c :: u, v, rfl, hbody, by simpa using hrounds⟩
        | succ i =>
            have hbody' := hnull (Nat.succ_pos i)
            exact rounds_succ.mpr ⟨[], c :: (u ++ v), rfl, hbody',
              ih.mpr ⟨i, m, by omega, fun _ => hbody', u, v, rfl, hbody, hrounds⟩⟩

theorem matches_afterRound? :
    (∃ again, afterRound? body least extra = some again ∧ Matches again before word after) ↔
      ∃ m, Allows least extra (m + 1) ∧ Rounds body m before word after := by
  cases least with
  | succ least => simp [afterRound?, matches_rep, Allows, Nat.add_right_comm least 1]
  | zero => cases extra with
    | none => simp [afterRound?, matches_rep, Allows]
    | some more => cases more with
      | zero => simp [afterRound?, Allows]
      | succ more => simp [afterRound?, matches_rep, Allows]

/-- The rounds that may follow the one that reads a character: when rounds may match nothing before
it, none of those that follow is needed. -/
theorem matches_again? {nullable : Bool} :
    (∃ again, (if nullable then afterRound? body 0 (extra.map (· + least))
        else afterRound? body least extra) = some again ∧ Matches again before word after) ↔
      ∃ i m, Allows least extra (i + 1 + m) ∧ (0 < i → nullable = true) ∧
        Rounds body m before word after := by
  cases nullable with
  | false =>
      rw [if_neg Bool.false_ne_true, matches_afterRound?]
      constructor
      · rintro ⟨m, hallows, hrounds⟩
        exact ⟨0, m, by rwa [Nat.zero_add, Nat.add_comm], nofun, hrounds⟩
      · rintro ⟨i, m, hallows, hnull, hrounds⟩
        obtain rfl : i = 0 := Nat.eq_zero_of_not_pos fun hi => Bool.false_ne_true (hnull hi)
        exact ⟨m, by rwa [Nat.zero_add, Nat.add_comm] at hallows, hrounds⟩
  | true =>
      rw [if_pos rfl, matches_afterRound?]
      constructor
      · rintro ⟨m, ⟨-, hmost⟩, hrounds⟩
        refine ⟨least - (m + 1), m, ⟨by omega, fun more hmore => ?_⟩, fun _ => rfl, hrounds⟩
        have := hmost (more + least) (by rw [hmore]; rfl)
        omega
      · rintro ⟨i, m, ⟨-, hmost⟩, -, hrounds⟩
        refine ⟨m, ⟨Nat.zero_le _, fun total htotal => ?_⟩, hrounds⟩
        obtain ⟨more, hmore, rfl⟩ := Option.map_eq_some_iff.mp htotal
        have := hmost more hmore
        omega

theorem matches_nil_iff (hplace : place = ⟨before.head?, some c⟩) :
    Matches expr before [] (c :: text) ↔ expr.nullable place = true := by
  rw [hplace]
  exact nullable_iff.symm

theorem readsThen_rep (hplace : place = ⟨before.head?, some c⟩) :
    ReadsThen (.rep body least extra) rest c before word after ↔
      ∃ again, (if body.nullable place then afterRound? body 0 (extra.map (· + least))
          else afterRound? body least extra) = some again ∧
        ReadsThen body (again.andThen rest) c before word after := by
  constructor
  · rintro ⟨w, q, rfl, hrep, hrest⟩
    obtain ⟨n, hallows, hrounds⟩ := matches_rep.mp hrep
    obtain ⟨i, m, rfl, hempty, u, p, rfl, hbody, hrounds⟩ := rounds_cons.mp hrounds
    rw [matches_nil_iff hplace] at hempty
    obtain ⟨again, hagain, hmatches⟩ := matches_again?.mpr ⟨i, m, hallows, hempty, hrounds⟩
    refine ⟨again, hagain, u, p ++ q, by simp, by simpa using hbody, matches_andThen.mpr ?_⟩
    exact ⟨p, q, rfl, hmatches, by simpa using hrest⟩
  · rintro ⟨again, hagain, u, w, rfl, hbody, hthen⟩
    obtain ⟨p, q, rfl, hmatches, hrest⟩ := matches_andThen.mp hthen
    obtain ⟨i, m, hallows, hempty, hrounds⟩ := matches_again?.mp ⟨again, hagain, hmatches⟩
    refine ⟨u ++ p, q, by simp, matches_rep.mpr ⟨i + 1 + m, hallows, rounds_cons.mpr ?_⟩, ?_⟩
    · refine ⟨i, m, rfl, fun hi => (matches_nil_iff hplace).mpr (hempty hi), u, p, rfl, ?_, hrounds⟩
      simpa using hbody
    · simpa using hrest

theorem exists_mem_residuals (hplace : place = ⟨before.head?, some c⟩) :
    (∃ left ∈ expr.residuals place c rest, Matches left (c :: before) word after) ↔
      ReadsThen expr rest c before word after := by
  induction expr generalizing rest word after with
  | empty => simp [residuals, ReadsThen]
  | chars set =>
      rw [residuals]
      constructor
      · intro h
        split at h
        next hc =>
          obtain ⟨left, hleft, hmatches⟩ := h
          cases List.mem_singleton.mp hleft
          exact ⟨[], word, rfl, .chars hc, hmatches⟩
        next =>
          obtain ⟨left, hleft, -⟩ := h
          cases hleft
      · rintro ⟨u, v, rfl, hchars, hrest⟩
        obtain ⟨d, hd, hword⟩ := matches_chars.mp hchars
        cases hword
        exact ⟨rest, by simp [hd], hrest⟩
  | look assertion => simp [residuals, ReadsThen]
  | seq first second ihFirst ihSecond =>
      rw [residuals, readsThen_seq, ← ihFirst, ← ihSecond, matches_nil_iff hplace]
      simp only [List.mem_append, or_and_right, exists_or]
      split
      next h => simp [h]
      next h => simp [h]
  | alt left right ihLeft ihRight =>
      rw [residuals, readsThen_alt, ← ihLeft, ← ihRight]
      simp only [List.mem_append, or_and_right, exists_or]
  | rep body least extra ih =>
      rw [residuals, readsThen_rep hplace]
      split
      next again hagain => simp only [ih, hagain, Option.some.injEq, exists_eq_left']
      next hagain => simp [hagain]

/-- Induction that groups sequences to the right and goes past their first parts. -/
@[elab_as_elim] theorem headInduction {motive : Expr → Prop}
    (regroup : ∀ first second third, motive (.seq first (.seq second third)) →
      motive (.seq (.seq first second) third))
    (skip : ∀ first second, (∀ first' second', first ≠ .seq first' second') → motive second →
      motive (.seq first second))
    (other : ∀ expr, (∀ first second, expr ≠ .seq first second) → motive expr) (expr : Expr) :
    motive expr := by
  induction hweight : expr.weight using Nat.strongRecOn generalizing expr with
  | ind n ih =>
      subst hweight
      cases expr with
      | seq first third =>
          cases first with
          | seq first second =>
              exact regroup first second third (ih _ (by simp only [weight]; omega) _ rfl)
          | _ => exact skip _ third nofun (ih _ (by simp only [weight]; omega) _ rfl)
      | _ => exact other _ nofun

theorem exists_done_head :
    (∃ head, LeadsTo place expr head ∧ done place head = true) ↔ expr.nullable place = true := by
  induction expr using headInduction with
  | regroup first second third ih =>
      simp only [LeadsTo.regroup_iff, ih, nullable, Bool.and_assoc]
  | skip first second hfirst ih =>
      simp only [LeadsTo.seq_iff hfirst, or_and_right, exists_or, exists_eq_left', and_assoc,
        exists_and_left, ih, nullable, Bool.and_eq_true]
      exact or_iff_right Bool.false_ne_true
  | other expr hexpr =>
      simp only [LeadsTo.single_iff hexpr, exists_eq_left']
      cases expr with
      | seq => exact absurd rfl (hexpr _ _)
      | _ => rfl

theorem readsThen_empty :
    ReadsThen expr .empty c before word after ↔ Matches expr before (c :: word) after := by
  constructor
  · rintro ⟨u, v, rfl, hexpr, hempty⟩
    obtain rfl := matches_empty.mp hempty
    simpa using hexpr
  · exact fun h => ⟨word, [], by simp, h, .empty⟩

theorem exists_head_advance (hplace : place = ⟨before.head?, some c⟩) :
    (∃ head, LeadsTo place expr head ∧
        ∃ left ∈ advance place c head, Matches left (c :: before) word after) ↔
      Matches expr before (c :: word) after := by
  induction expr using headInduction with
  | regroup first second third ih =>
      simp only [LeadsTo.regroup_iff, ih, matches_seq_assoc]
  | skip first second hfirst ih =>
      rw [← readsThen_empty, readsThen_seq, readsThen_empty, ← ih, matches_nil_iff hplace,
        ← exists_mem_residuals hplace]
      simp only [LeadsTo.seq_iff hfirst, or_and_right, exists_or, exists_eq_left', and_assoc,
        exists_and_left]
      rfl
  | other expr hexpr =>
      have hadvance : advance place c expr = expr.residuals place c .empty := by
        unfold advance
        split
        next => exact absurd rfl (hexpr _ _)
        next => rfl
      simp only [LeadsTo.single_iff hexpr, exists_eq_left', hadvance]
      rw [exists_mem_residuals hplace, readsThen_empty]

theorem any_done_heads {exprs : List Expr} (hplace : place = ⟨before.head?, text.head?⟩) :
    (heads place exprs).any (done place) = true ↔ ∃ expr ∈ exprs, Matches expr before [] text := by
  simp only [List.any_eq_true, mem_heads, ← nullable_iff, ← hplace, ← exists_done_head]
  constructor
  · rintro ⟨head, ⟨expr, hexpr, hleads⟩, hdone⟩
    exact ⟨expr, hexpr, head, hleads, hdone⟩
  · rintro ⟨expr, hexpr, head, hleads, hdone⟩
    exact ⟨head, ⟨expr, hexpr, hleads⟩, hdone⟩

theorem exists_mem_advance_heads {exprs : List Expr} (hplace : place = ⟨before.head?, some c⟩) :
    (∃ left ∈ (heads place exprs).flatMap (advance place c), Matches left (c :: before) word after) ↔
      ∃ expr ∈ exprs, Matches expr before (c :: word) after := by
  simp only [List.mem_flatMap, mem_heads, ← exists_head_advance hplace]
  constructor
  · rintro ⟨left, ⟨head, ⟨expr, hexpr, hleads⟩, hleft⟩, hmatches⟩
    exact ⟨expr, hexpr, head, hleads, left, hleft, hmatches⟩
  · rintro ⟨expr, hexpr, head, hleads, left, hleft, hmatches⟩
    exact ⟨left, ⟨head, ⟨expr, hexpr, hleads⟩, hleft⟩, hmatches⟩

def MatchesFront (expr : Expr) (before text : List Char) : Prop :=
  ∃ word after, text = word ++ after ∧ Matches expr before word after

def MatchesWithin (expr : Expr) (before text : List Char) : Prop :=
  ∃ skipped rest, text = skipped ++ rest ∧ MatchesFront expr (skipped.reverse ++ before) rest

theorem matchesFront_nil : MatchesFront expr before [] ↔ Matches expr before [] [] := by
  constructor
  · rintro ⟨word, after, htext, h⟩
    obtain ⟨rfl, rfl⟩ := List.append_eq_nil_iff.mp htext.symm
    exact h
  · exact fun h => ⟨[], [], rfl, h⟩

theorem matchesFront_cons :
    MatchesFront expr before (c :: text) ↔
      Matches expr before [] (c :: text) ∨
        ∃ word after, text = word ++ after ∧ Matches expr before (c :: word) after := by
  constructor
  · rintro ⟨word, after, htext, h⟩
    cases word with
    | nil =>
        obtain rfl : c :: text = after := htext
        exact .inl h
    | cons d word =>
        obtain ⟨rfl, rfl⟩ := List.cons.inj htext
        exact .inr ⟨word, after, rfl, h⟩
  · rintro (h | ⟨word, after, rfl, h⟩)
    · exact ⟨[], c :: text, rfl, h⟩
    · exact ⟨c :: word, after, rfl, h⟩

theorem matchesWithin_nil : MatchesWithin expr before [] ↔ Matches expr before [] [] := by
  rw [← matchesFront_nil]
  constructor
  · rintro ⟨skipped, rest, htext, h⟩
    obtain ⟨rfl, rfl⟩ := List.append_eq_nil_iff.mp htext.symm
    exact h
  · exact fun h => ⟨[], [], rfl, h⟩

theorem matchesWithin_cons :
    MatchesWithin expr before (c :: text) ↔
      MatchesFront expr before (c :: text) ∨ MatchesWithin expr (c :: before) text := by
  constructor
  · rintro ⟨skipped, rest, htext, h⟩
    cases skipped with
    | nil =>
        obtain rfl : c :: text = rest := htext
        exact .inl h
    | cons d skipped =>
        obtain ⟨rfl, rfl⟩ := List.cons.inj htext
        exact .inr ⟨skipped, rest, rfl, by simpa using h⟩
  · rintro (h | ⟨skipped, rest, rfl, h⟩)
    · exact ⟨[], c :: text, rfl, h⟩
    · exact ⟨c :: skipped, rest, rfl, by simpa using h⟩

theorem searchFrom_iff {pending : List Expr} :
    expr.searchFrom before.head? pending text = true ↔
      (∃ other ∈ pending, MatchesFront other before text) ∨ MatchesWithin expr before text := by
  induction text generalizing before pending with
  | nil =>
      have hdone : (heads ⟨before.head?, none⟩ (expr :: pending)).any
          (done ⟨before.head?, none⟩) = true ↔
            ∃ other ∈ expr :: pending, Matches other before [] [] := any_done_heads rfl
      rw [searchFrom, hdone, matchesWithin_nil]
      simp only [matchesFront_nil, List.mem_cons, exists_eq_or_imp]
      exact or_comm
  | cons c text ih =>
      have hdone : (heads ⟨before.head?, some c⟩ (expr :: pending)).any
          (done ⟨before.head?, some c⟩) = true ↔
            ∃ other ∈ expr :: pending, Matches other before [] (c :: text) := any_done_heads rfl
      have hadvance : (∃ left ∈ (heads ⟨before.head?, some c⟩ (expr :: pending)).flatMap
          (advance ⟨before.head?, some c⟩ c), MatchesFront left (c :: before) text) ↔
            ∃ other ∈ expr :: pending, ∃ word after, text = word ++ after ∧
              Matches other before (c :: word) after := by
        constructor
        · rintro ⟨left, hleft, word, after, htext, hmatches⟩
          obtain ⟨other, hother, h⟩ :=
            (exists_mem_advance_heads rfl).mp ⟨left, hleft, hmatches⟩
          exact ⟨other, hother, word, after, htext, h⟩
        · rintro ⟨other, hother, word, after, htext, h⟩
          obtain ⟨left, hleft, hmatches⟩ :=
            (exists_mem_advance_heads rfl).mpr ⟨other, hother, h⟩
          exact ⟨left, hleft, word, after, htext, hmatches⟩
      have hrest := @ih (c :: before) ((heads ⟨before.head?, some c⟩ (expr :: pending)).flatMap
        (advance ⟨before.head?, some c⟩ c))
      rw [List.head?_cons, hadvance] at hrest
      have hfront : (∃ other ∈ expr :: pending, Matches other before [] (c :: text)) ∨
          (∃ other ∈ expr :: pending, ∃ word after, text = word ++ after ∧
            Matches other before (c :: word) after) ↔
          ∃ other ∈ expr :: pending, MatchesFront other before (c :: text) := by
        simp only [matchesFront_cons, and_or_left, exists_or]
      rw [searchFrom, Bool.or_eq_true, hdone, hrest, ← or_assoc, hfront, matchesWithin_cons,
        or_left_comm]
      simp only [List.mem_cons, exists_eq_or_imp, or_assoc]

/-- A search finds a match wherever one starts. -/
theorem search_iff :
    expr.search text = true ↔
      ∃ before word after, text = before ++ word ++ after ∧
        Matches expr before.reverse word after := by
  have hsearch : expr.searchFrom ([] : List Char).head? [] text = true ↔ _ := searchFrom_iff
  rw [search]
  refine hsearch.trans ?_
  simp only [List.not_mem_nil, false_and, exists_false, false_or, MatchesWithin, MatchesFront,
    List.append_nil]
  constructor
  · rintro ⟨before, _, rfl, word, after, rfl, h⟩
    exact ⟨before, word, after, (List.append_assoc ..).symm, h⟩
  · rintro ⟨before, word, after, rfl, h⟩
    exact ⟨before, word ++ after, List.append_assoc .., word, after, rfl, h⟩

theorem SameWords.search {other : Expr} (h : SameWords expr other) (text : List Char) :
    expr.search text = other.search text := by
  rw [Bool.eq_iff_iff, search_iff, search_iff]
  simp only [h _ _ _]

end FieldRules.Pattern.Expr
