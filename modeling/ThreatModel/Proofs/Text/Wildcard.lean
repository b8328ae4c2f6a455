import Mathlib.Data.List.Forall2
import ThreatModel.Proofs.Risk.Identity
import ThreatModel.Text.Wildcard

/-!
# What patterns match

A text fills a pattern if it is the pattern with every star replaced by a run of characters, at
least one and none of them `@`, and every other character left as it is (`Fills`). The matcher reads
a text character by character; `Covers` is the same relation seen from there, since a star either
ends with a character or goes on behind it. What fills a pattern as a whole fills it segment by
segment (`Covers.iff_forall₂_splitOn`): no star takes in a separator.

A pattern may as well be written as a regular expression: escape it, and put `[^@]+` wherever the
escaped text now has `\*`. It is not obvious that this touches the stars only, as a pattern may have
backslashes before them; `patch_escape` says so, and by it the expression stands for the same texts.
-/

namespace ThreatModel.Text

/-! ## Filling a pattern -/

/-- What a character of a pattern may become: a star any run without the separator, another
character only itself. -/
def StandsFor (c : Char) (piece : List Char) : Prop :=
  if c = '*' then piece ≠ [] ∧ '@' ∉ piece else piece = [c]

/-- A text is a pattern with every character replaced by what it may become. -/
def Fills (pattern text : String) : Prop :=
  ∃ pieces, List.Forall₂ StandsFor pattern.toList pieces ∧ pieces.flatten = text.toList

/-- A text covers a pattern, character by character: a star ends with a character or goes on. -/
inductive Covers : List Char → List Char → Prop
  | nil : Covers [] []
  | literal {c p t} (hc : c ≠ '*') (h : Covers p t) : Covers (c :: p) (c :: t)
  | last {c p t} (hc : c ≠ '@') (h : Covers p t) : Covers ('*' :: p) (c :: t)
  | more {c p t} (hc : c ≠ '@') (h : Covers ('*' :: p) t) : Covers ('*' :: p) (c :: t)

variable {p p' t t' : List Char} {c : Char}

namespace Covers

theorem nil_right : Covers p [] ↔ p = [] := by
  constructor
  · intro h
    cases h
    rfl
  · rintro rfl
    exact .nil

theorem star_cons : Covers ('*' :: p) (c :: t) ↔ c ≠ '@' ∧ (Covers ('*' :: p) t ∨ Covers p t) := by
  constructor
  · intro h
    cases h with
    | literal hne => contradiction
    | last hc h => exact ⟨hc, .inr h⟩
    | more hc h => exact ⟨hc, .inl h⟩
  · rintro ⟨hc, h | h⟩
    · exact .more hc h
    · exact .last hc h

theorem literal_cons {d : Char} (hd : d ≠ '*') :
    Covers (d :: p) (c :: t) ↔ d = c ∧ Covers p t := by
  constructor
  · intro h
    cases h with
    | literal _ h => exact ⟨rfl, h⟩
    | last => contradiction
    | more => contradiction
  · rintro ⟨rfl, h⟩
    exact .literal hd h

/-- A star takes a run at once. -/
theorem star {run : List Char} (hne : run ≠ []) (hfree : '@' ∉ run) (h : Covers p t) :
    Covers ('*' :: p) (run ++ t) := by
  induction run with
  | nil => exact absurd rfl hne
  | cons c run ih =>
    rw [List.mem_cons, not_or] at hfree
    by_cases hrun : run = []
    · subst hrun
      exact .last (Ne.symm hfree.1) h
    · exact .more (Ne.symm hfree.1) (ih hrun hfree.2)

theorem iff_exists_pieces :
    Covers p t ↔ ∃ pieces, List.Forall₂ StandsFor p pieces ∧ pieces.flatten = t := by
  constructor
  · intro h
    induction h with
    | nil => exact ⟨[], .nil, rfl⟩
    | @literal c p t hc _ ih =>
      obtain ⟨pieces, hpieces, rfl⟩ := ih
      exact ⟨[c] :: pieces, .cons (by simp [StandsFor, hc]) hpieces, rfl⟩
    | @last c p t hc _ ih =>
      obtain ⟨pieces, hpieces, rfl⟩ := ih
      exact ⟨[c] :: pieces, .cons (by simp [StandsFor, Ne.symm hc]) hpieces, rfl⟩
    | @more c p t hc _ ih =>
      -- The character joins the run that the star stands for already.
      obtain ⟨pieces, hpieces, rfl⟩ := ih
      cases hpieces with
      | @cons _ piece _ pieces hpiece hpieces =>
        rw [StandsFor, if_pos rfl] at hpiece
        have hlonger : StandsFor '*' (c :: piece) := by simp [StandsFor, Ne.symm hc, hpiece.2]
        exact ⟨(c :: piece) :: pieces, .cons hlonger hpieces, rfl⟩
  · rintro ⟨pieces, hpieces, rfl⟩
    induction hpieces with
    | nil => exact .nil
    | @cons c piece p pieces hpiece _ ih =>
      unfold StandsFor at hpiece
      split at hpiece
      · next hc =>
        subst hc
        exact star hpiece.1 hpiece.2 ih
      · next hc =>
        subst hpiece
        exact .literal hc ih

theorem append (h : Covers p t) (h' : Covers p' t') : Covers (p ++ p') (t ++ t') := by
  induction h with
  | nil => exact h'
  | literal hc _ ih => exact .literal hc ih
  | last hc _ ih => exact .last hc ih
  | more hc _ ih => exact .more hc ih

/-! ## Segments -/

theorem splitOn_cons_self : ('@' :: p).splitOn '@' = [] :: p.splitOn '@' := by
  simp [List.splitOn, List.splitOnP_cons_eq_if_modifyHead]

theorem splitOn_cons_of_ne (hc : c ≠ '@') :
    (c :: p).splitOn '@' = (p.splitOn '@').modifyHead (c :: ·) := by
  simp [List.splitOn, List.splitOnP_cons_eq_if_modifyHead, hc]

/-- Where neither text begins with a separator, the first characters join the first segments. -/
theorem forall₂_splitOn_cons {d : Char} (hc : c ≠ '@') (hd : d ≠ '@')
    (hstep : ∀ {q u}, Covers q u → Covers (c :: q) (d :: u))
    (h : List.Forall₂ Covers (p.splitOn '@') (t.splitOn '@')) :
    List.Forall₂ Covers ((c :: p).splitOn '@') ((d :: t).splitOn '@') := by
  rw [splitOn_cons_of_ne hc, splitOn_cons_of_ne hd]
  generalize p.splitOn '@' = ps, t.splitOn '@' = ts at h ⊢
  cases h with
  | nil => exact .nil
  | cons hfirst hrest => exact .cons (hstep hfirst) hrest

theorem forall₂_splitOn (h : Covers p t) :
    List.Forall₂ Covers (p.splitOn '@') (t.splitOn '@') := by
  induction h with
  | nil => exact .cons .nil .nil
  | @literal c p t hc _ ih =>
    by_cases hat : c = '@'
    · subst hat
      rw [splitOn_cons_self, splitOn_cons_self]
      exact .cons .nil ih
    · exact forall₂_splitOn_cons hat hat (.literal hc) ih
  | last hc _ ih => exact forall₂_splitOn_cons (by decide) hc (.last hc) ih
  | @more c p t hc _ ih =>
    -- The star stays, so the first segment of the pattern is what it was.
    obtain ⟨q, ps, hp⟩ := List.exists_cons_of_ne_nil (List.splitOn_ne_nil '@' p)
    obtain ⟨u, ts, ht⟩ := List.exists_cons_of_ne_nil (List.splitOn_ne_nil '@' t)
    rw [splitOn_cons_of_ne (by decide), hp] at ih ⊢
    rw [ht] at ih
    rw [splitOn_cons_of_ne hc, ht]
    cases ih with
    | cons hfirst hrest => exact .cons (.more hc hfirst) hrest

theorem intercalate {ps ts : List (List Char)} (h : List.Forall₂ Covers ps ts) :
    Covers (['@'].intercalate ps) (['@'].intercalate ts) := by
  induction h with
  | nil => exact .nil
  | @cons p t ps ts hfirst hrest ih =>
    cases hrest with
    | nil => simpa using hfirst
    | cons _ _ =>
      rw [List.intercalate_cons_cons, List.intercalate_cons_cons, List.append_assoc,
        List.append_assoc]
      exact hfirst.append (.literal (by decide) ih)

/-- A pattern is covered as a whole if and only if it is covered segment by segment. -/
theorem iff_forall₂_splitOn :
    Covers p t ↔ List.Forall₂ Covers (p.splitOn '@') (t.splitOn '@') := by
  refine ⟨forall₂_splitOn, fun h => ?_⟩
  have hwhole := intercalate h
  rwa [List.intercalate_splitOn, List.intercalate_splitOn] at hwhole

/-- Without a star a pattern is covered by itself only. -/
theorem iff_eq (hp : '*' ∉ p) : Covers p t ↔ t = p := by
  constructor
  · intro h
    induction h with
    | nil => rfl
    | literal _ _ ih => rw [ih fun hmem => hp (List.mem_cons_of_mem _ hmem)]
    | last => exact absurd (List.mem_cons_self ..) hp
    | more => exact absurd (List.mem_cons_self ..) hp
  · rintro rfl
    induction t with
    | nil => exact .nil
    | cons c t ih =>
      rw [List.mem_cons, not_or] at hp
      exact .literal (Ne.symm hp.1) (ih hp.2)

end Covers

theorem fills_iff {pattern text : String} :
    Fills pattern text ↔ Covers pattern.toList text.toList :=
  Covers.iff_exists_pieces.symm

theorem forall₂_fills_segments {pattern text : String} :
    List.Forall₂ Fills (Risk.segments pattern) (Risk.segments text) ↔
      Covers pattern.toList text.toList := by
  rw [Covers.iff_forall₂_splitOn, Risk.segments, Risk.segments, List.forall₂_map_left_iff,
    List.forall₂_map_right_iff]
  simp only [fills_iff, String.toList_ofList]

/-! ## The matcher -/

/-- No step leads out of a pattern that is read to its end. -/
theorem advance_eq_nil {i : Nat} (hi : p.length ≤ i) : advance p.toArray c i = [] := by
  rw [advance, List.getElem?_toArray, List.getElem?_eq_none hi]

theorem advance_star {i : Nat} (hi : p[i]? = some '*') :
    advance p.toArray c i = if c = '@' then [] else [i, i + 1] := by
  rw [advance, List.getElem?_toArray, hi]
  rfl

theorem advance_literal {i : Nat} {d : Char} (hi : p[i]? = some d) (hd : d ≠ '*') :
    advance p.toArray c i = if d = c then [i + 1] else [] := by
  rw [advance, List.getElem?_toArray, hi]
  split
  · contradiction
  · next heq => exact absurd (Option.some.inj heq) hd
  · next heq => rw [Option.some.inj heq]

theorem matchesAny_cons {i : Nat} :
    matchesAny p.toArray [i] (c :: t) = true ↔
      ∃ j ∈ advance p.toArray c i, matchesAny p.toArray [j] t = true := by
  rw [matchesAny, matchesAny_eq_true_iff]
  simp only [mem_eraseReps, List.flatMap_singleton]

/-- From a position of the pattern a text is matched if it covers what is left of the pattern. -/
theorem matchesAny_singleton {i : Nat} (hi : i ≤ p.length) :
    matchesAny p.toArray [i] t = true ↔ Covers (p.drop i) t := by
  induction t generalizing i with
  | nil =>
    rw [matchesAny, List.contains_iff_mem, List.mem_singleton, List.size_toArray, Covers.nil_right,
      List.drop_eq_nil_iff]
    exact ⟨Nat.le_of_eq, fun h => Nat.le_antisymm h hi⟩
  | cons c t ih =>
    rw [matchesAny_cons]
    obtain hlt | rfl := Nat.lt_or_eq_of_le hi
    · have hget := List.getElem?_eq_getElem hlt
      have hdrop := List.drop_eq_getElem_cons hlt
      generalize p[i] = d at hget hdrop
      rw [hdrop]
      by_cases hstar : d = '*'
      · subst hstar
        rw [advance_star hget, Covers.star_cons, ← hdrop, ← ih hi, ← ih hlt]
        by_cases hc : c = '@' <;> simp [hc]
      · rw [advance_literal hget hstar, Covers.literal_cons hstar, ← ih hlt]
        by_cases hc : d = c <;> simp [hc]
    · rw [advance_eq_nil (Nat.le_refl _), List.drop_length]
      constructor
      · rintro ⟨_, hmem, -⟩
        cases hmem
      · intro h
        cases h

theorem wildcardMatches_iff_fills {pattern text : String} :
    wildcardMatches pattern text = true ↔ Fills pattern text := by
  rw [wildcardMatches, matchesAny_singleton (Nat.zero_le _), List.drop_zero, fills_iff]

/-! ## The expression of a pattern -/

/-- The characters that an expression does not read as themselves. -/
def isMeta (c : Char) : Bool :=
  ['\\', '.', '+', '*', '?', '(', ')', '|', '[', ']', '\x7b', '\x7d', '^', '$', '#', '&', '-',
    '~'].contains c

/-- A text with a backslash before every character that would not be read as itself. -/
def escape (cs : List Char) : List Char := cs.flatMap fun c => if isMeta c then ['\\', c] else [c]

/-- A text with `[^@]+` in place of every `\*`, from left to right. -/
def patch : List Char → List Char
  | '\\' :: '*' :: cs => '[' :: '^' :: '@' :: ']' :: '+' :: patch cs
  | c :: cs => c :: patch cs
  | [] => []

/-- The regular expression of a pattern. -/
def expression (pattern : String) : String :=
  String.ofList ('^' :: (patch (escape pattern.toList) ++ ['$']))

/-- What expressions of this kind match, read from left to right: a character after a backslash and
any that is none of the special ones match themselves, `[^@]+` a run without `@`, and `$` only the
end. -/
inductive Reads : List Char → List Char → Prop
  | stop : Reads ['$'] []
  | escaped {c e t} (hc : isMeta c = true) (h : Reads e t) : Reads ('\\' :: c :: e) (c :: t)
  | run {piece e t} (hne : piece ≠ []) (hfree : '@' ∉ piece) (h : Reads e t) :
      Reads ('[' :: '^' :: '@' :: ']' :: '+' :: e) (piece ++ t)
  | plain {c e t} (hc : isMeta c = false) (h : Reads e t) : Reads (c :: e) (c :: t)

/-- Whether an expression matches a whole text. -/
def ExpressionMatches (expression text : String) : Prop :=
  ∃ rest, expression.toList = '^' :: rest ∧ Reads rest text.toList

/-- What the expression of a pattern has for each of its characters. -/
def translate (c : Char) : List Char :=
  if c = '*' then ['[', '^', '@', ']', '+'] else if isMeta c then ['\\', c] else [c]

theorem patch_cons (hc : c ≠ '\\') : patch (c :: p) = c :: patch p := by
  rw [patch]
  rintro - rfl
  exact absurd rfl hc

theorem patch_backslash (hp : p.head? ≠ some '*') : patch ('\\' :: p) = '\\' :: patch p := by
  rw [patch]
  rintro cs - rfl
  exact hp rfl

/-- A star is never the first of an escaped text, as a backslash stands before it. -/
theorem head?_escape_ne : (escape p).head? ≠ some '*' := by
  cases p with
  | nil => nofun
  | cons c p =>
    rw [escape, List.flatMap_cons]
    by_cases hc : isMeta c = true
    · rw [if_pos hc]
      nofun
    · rw [if_neg hc]
      rintro heq
      obtain rfl : c = '*' := by simpa using heq
      exact hc (by decide)

/-- Only the stars of a pattern are patched: a backslash of the pattern is escaped itself, and the
backslash that escapes it is not followed by a star. -/
theorem patch_escape : patch (escape p) = p.flatMap translate := by
  induction p with
  | nil => rfl
  | cons c p ih =>
    have hrest : escape (c :: p) = (if isMeta c then ['\\', c] else [c]) ++ escape p :=
      List.flatMap_cons
    rw [hrest, List.flatMap_cons, translate, ← ih]
    by_cases hstar : c = '*'
    · subst hstar
      rfl
    · rw [if_neg hstar]
      by_cases hc : isMeta c = true
      · rw [if_pos hc]
        have houter : patch ('\\' :: c :: escape p) = '\\' :: patch (c :: escape p) :=
          patch_backslash (by simpa using hstar)
        by_cases hslash : c = '\\'
        · subst hslash
          exact houter.trans (congrArg _ (patch_backslash head?_escape_ne))
        · exact houter.trans (congrArg _ (patch_cons hslash))
      · rw [if_neg hc]
        refine patch_cons ?_
        rintro rfl
        exact hc (by decide)

namespace Reads

/-- What an expression has for a character of the pattern is read as what that character stands
for. -/
theorem translate_append {e : List Char} :
    Reads (translate c ++ e) t ↔
      ∃ piece rest, StandsFor c piece ∧ Reads e rest ∧ piece ++ rest = t := by
  unfold StandsFor
  by_cases hstar : c = '*'
  · subst hstar
    simp only [if_true]
    constructor
    · intro h
      cases h with
      | @run piece _ rest hne hfree h => exact ⟨piece, rest, ⟨hne, hfree⟩, h, rfl⟩
      | plain hc => exact absurd hc (by decide)
    · rintro ⟨piece, rest, ⟨hne, hfree⟩, h, rfl⟩
      exact .run hne hfree h
  · simp only [translate, if_neg hstar]
    by_cases hc : isMeta c = true
    · rw [if_pos hc]
      constructor
      · intro h
        cases h with
        | @escaped _ _ rest _ h => exact ⟨[c], rest, rfl, h, rfl⟩
        | plain hslash => exact absurd hslash (by decide)
      · rintro ⟨piece, rest, rfl, h, rfl⟩
        exact .escaped hc h
    · rw [if_neg hc]
      constructor
      · intro h
        cases h with
        | stop => exact absurd rfl hc
        | escaped => exact absurd rfl hc
        | run => exact absurd rfl hc
        | @plain _ _ rest _ h => exact ⟨[c], rest, rfl, h, rfl⟩
      · rintro ⟨piece, rest, rfl, h, rfl⟩
        exact .plain (by simpa using hc) h

theorem flatMap_translate :
    Reads (p.flatMap translate ++ ['$']) t ↔
      ∃ pieces, List.Forall₂ StandsFor p pieces ∧ pieces.flatten = t := by
  induction p generalizing t with
  | nil =>
    constructor
    · intro h
      cases h with
      | stop => exact ⟨[], .nil, rfl⟩
      | plain hc => exact absurd hc (by decide)
    · rintro ⟨pieces, hpieces, rfl⟩
      cases hpieces
      exact .stop
  | cons c p ih =>
    rw [List.flatMap_cons, List.append_assoc, translate_append]
    constructor
    · rintro ⟨piece, rest, hpiece, hrest, rfl⟩
      obtain ⟨pieces, hpieces, rfl⟩ := ih.1 hrest
      exact ⟨piece :: pieces, .cons hpiece hpieces, rfl⟩
    · rintro ⟨pieces, hpieces, rfl⟩
      cases hpieces with
      | @cons _ piece _ pieces hpiece hpieces =>
        exact ⟨piece, pieces.flatten, hpiece, ih.2 ⟨pieces, hpieces, rfl⟩, rfl⟩

end Reads

theorem expressionMatches_iff {pattern text : String} :
    ExpressionMatches (expression pattern) text ↔ Fills pattern text := by
  rw [Fills, ← Reads.flatMap_translate, ExpressionMatches, expression, String.toList_ofList,
    patch_escape]
  constructor
  · rintro ⟨rest, heq, h⟩
    obtain rfl := List.tail_eq_of_cons_eq heq
    exact h
  · intro h
    exact ⟨_, rfl, h⟩

/-- A pattern, its expression and the matcher are about the same texts: those that have as many
segments as the pattern, each the segment of the pattern with runs in place of the stars. -/
theorem wildcardMatches_segmentwise (pattern text : String) :
    (wildcardMatches pattern text = true ↔ ExpressionMatches (expression pattern) text) ∧
      (wildcardMatches pattern text = true ↔
        List.Forall₂ Fills (Risk.segments pattern) (Risk.segments text)) ∧
      (hasWildcard pattern = false → (wildcardMatches pattern text = true ↔ text = pattern)) := by
  refine ⟨?_, ?_, fun hfree => ?_⟩
  · rw [wildcardMatches_iff_fills, expressionMatches_iff]
  · rw [wildcardMatches_iff_fills, forall₂_fills_segments, fills_iff]
  · have hstar : '*' ∉ pattern.toList := by simpa [hasWildcard] using hfree
    rw [wildcardMatches_iff_fills, fills_iff, Covers.iff_eq hstar, String.toList_inj]

theorem wildcardMatches_segmentwise_dotted :
    hasWildcard "xss@app.1" = false ∧ wildcardMatches "xss@app.1" "xss@app.1" = true ∧
      wildcardMatches "xss@app.1" "xss@app-1" = false := by
  have hfree : hasWildcard "xss@app.1" = false := by decide
  have hself (text : String) := (wildcardMatches_segmentwise "xss@app.1" text).2.2 hfree
  refine ⟨hfree, (hself "xss@app.1").2 rfl, Bool.eq_false_iff.2 fun h => ?_⟩
  exact absurd ((hself "xss@app-1").1 h) (by decide)

example : expression "a\\*.b" = "^a\\\\[^@]+\\.b$" := by decide

example : wildcardMatches "a\\**@b" "a\\xyz@b" = true := by decide

example : wildcardMatches "a*b" "a@b" = false := by decide

end ThreatModel.Text
