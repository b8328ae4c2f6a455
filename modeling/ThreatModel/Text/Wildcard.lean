/-!
# Wildcard patterns

Ids are built from segments that `@` separates. In a pattern a `*` stands for one or more characters
other than `@`, every other character for itself, so a match never crosses a segment. The matcher
keeps the positions in the pattern from which the text may still be matched, in order and each once; each
character of the text moves them on. So the work grows with the length of the pattern times that of the
text, whatever the pattern.
-/

namespace ThreatModel.Text

/-- Where in a pattern one may be after one more character of the text. -/
def advance (pattern : Array Char) (c : Char) (i : Nat) : List Nat :=
  match pattern[i]? with
  | none => []
  | some '*' => if c = '@' then [] else [i, i + 1]
  | some p => if p = c then [i + 1] else []

/-- Whether a text is matched from one of several positions to the end of a pattern. -/
def matchesAny (pattern : Array Char) (pending : List Nat) : List Char → Bool
  | [] => pending.contains pattern.size
  | c :: cs => matchesAny pattern (pending.flatMap (advance pattern c)).eraseReps cs

/-- Whether a pattern matches a whole text. -/
def wildcardMatches (pattern text : String) : Bool :=
  matchesAny pattern.toList.toArray [0] text.toList

/-- Whether a pattern holds a wildcard. -/
def hasWildcard (pattern : String) : Bool := pattern.toList.contains '*'

theorem mem_eraseRepsBy_loop {i j : Nat} {is acc : List Nat} :
    j ∈ List.eraseRepsBy.loop (· == ·) i is acc ↔ j = i ∨ j ∈ is ∨ j ∈ acc := by
  induction is generalizing i acc with
  | nil => simp [List.eraseRepsBy.loop, or_comm]
  | cons k is ih =>
    by_cases h : i = k
    · subst h; simp only [List.eraseRepsBy.loop, beq_self_eq_true, ih, List.mem_cons]; grind
    · have hk : (i == k) = false := by simpa using h
      simp only [List.eraseRepsBy.loop, hk, ih, List.mem_cons]; grind

/-- No position is lost with the repetitions. -/
theorem mem_eraseReps {j : Nat} {is : List Nat} : j ∈ is.eraseReps ↔ j ∈ is := by
  cases is with
  | nil => simp [List.eraseReps, List.eraseRepsBy]
  | cons i is => simp [List.eraseReps, List.eraseRepsBy, mem_eraseRepsBy_loop]

/-- Matching from several positions is matching from one of them. -/
theorem matchesAny_eq_true_iff {pattern : Array Char} {is : List Nat} {cs : List Char} :
    matchesAny pattern is cs = true ↔ ∃ i ∈ is, matchesAny pattern [i] cs = true := by
  induction cs generalizing is with
  | nil => simp [matchesAny]
  | cons c cs ih =>
    simp only [matchesAny]
    rw [ih]
    constructor
    · rintro ⟨j, hj, hm⟩
      obtain ⟨i, hi, hij⟩ := List.mem_flatMap.1 (mem_eraseReps.1 hj)
      refine ⟨i, hi, ih.2 ⟨j, ?_, hm⟩⟩
      rw [mem_eraseReps]; simpa using hij
    · rintro ⟨i, hi, hm⟩
      obtain ⟨j, hj, hm⟩ := ih.1 hm
      have hj : j ∈ advance pattern c i := by simpa using mem_eraseReps.1 hj
      exact ⟨j, mem_eraseReps.2 (List.mem_flatMap.2 ⟨i, hi, hj⟩), hm⟩

end ThreatModel.Text
