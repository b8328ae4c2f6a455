import ThreatModel.Proofs.Json.Numeral

/-!
# Doubles of JSON texts

A double is written with the fewest digits that stand for it, but read by one operation on its first
digits, so that it may come back as a neighbour. Whether it comes back as itself (`ReadsBack`) can be
computed. If it does, then wherever it stands, and as a double: a written double has a point or an
exponent, hence is not taken for a whole number (`ReadsBack.denotes`).
-/

namespace ThreatModel.Json

/-- The text of a double is read as this double. -/
def ReadsBack (x : Float) : Prop := (parse? (ofFloat x).render).bind float? = some x

instance : DecidablePred ReadsBack := fun _ => inferInstanceAs (Decidable (_ = _))

/-! ## The characters of a double -/

theorem numberChar_of_isDigit {c : Char} (h : c.isDigit = true) : NumberChar c :=
  .inr (.inr (.inr h))

theorem numberChars_intChars (i : Int) : ∀ c ∈ intChars i, NumberChar c :=
  fun _ hc => (mem_intChars hc).elim .inl numberChar_of_isDigit

theorem numberChars_digitChars (d : Decimal) : ∀ c ∈ d.digitChars, NumberChar c :=
  fun _ hc => numberChar_of_isDigit (Text.isDigit_of_mem_toDigits hc)

theorem numberChars_positional (d : Decimal) : ∀ c ∈ d.positional, NumberChar c := by
  have hdigits := numberChars_digitChars d
  have hzeros (n : Nat) : ∀ c ∈ List.replicate n '0', NumberChar c := by
    intro c hc
    rw [List.eq_of_mem_replicate hc]
    decide
  simp only [Decimal.positional]
  split
  · exact List.forall_mem_append.2 ⟨hdigits, hzeros _⟩
  · split
    · exact List.forall_mem_append.2 ⟨fun c hc => hdigits c (List.mem_of_mem_take hc),
        List.forall_mem_cons.2 ⟨by decide, fun c hc => hdigits c (List.mem_of_mem_drop hc)⟩⟩
    · exact List.forall_mem_cons.2 ⟨by decide, List.forall_mem_cons.2 ⟨by decide,
        List.forall_mem_append.2 ⟨hzeros _, hdigits⟩⟩⟩

theorem numberChars_decimalChars (d : Decimal) : ∀ c ∈ decimalChars d, NumberChar c := by
  have hexponent (i : Int) : ∀ c ∈ 'e' :: intChars i, NumberChar c :=
    List.forall_mem_cons.2 ⟨by decide, numberChars_intChars i⟩
  have hdigits := numberChars_digitChars d
  simp only [decimalChars]
  split
  · simp [NumberChar]
  · split
    · exact List.forall_mem_append.2 ⟨numberChars_positional d, by simp [NumberChar]⟩
    · split
      · exact numberChars_positional d
      · split
        · simp
        · next first hfirst =>
          rw [hfirst] at hdigits
          exact List.forall_mem_append.2 ⟨hdigits, hexponent _⟩
        · next first rest _ hrest =>
          rw [hrest, List.forall_mem_cons] at hdigits
          exact List.forall_mem_cons.2 ⟨hdigits.1, List.forall_mem_cons.2 ⟨by decide,
            List.forall_mem_append.2 ⟨hdigits.2, hexponent _⟩⟩⟩

theorem numberChars_floatChars (x : Float) : ∀ c ∈ floatChars x, NumberChar c := by
  simp only [floatChars]
  split
  · exact List.forall_mem_cons.2 ⟨by decide, numberChars_decimalChars _⟩
  · exact numberChars_decimalChars _

theorem mem_decimalChars (d : Decimal) : '.' ∈ decimalChars d ∨ 'e' ∈ decimalChars d := by
  simp only [decimalChars]
  split
  · exact .inl (by decide)
  · split
    · exact .inl (List.mem_append_right _ (by decide))
    · next hfraction =>
      split
      · next hpoint =>
        simp only [Bool.and_eq_true, decide_eq_true_eq] at hfraction hpoint
        have hnegative : ¬ 0 ≤ d.exponent := fun h => hfraction ⟨h, hpoint.2⟩
        simp only [Decimal.positional, if_neg hnegative]
        split <;> exact .inl (by simp)
      · split
        · next hdigits => exact absurd hdigits Nat.toDigits_ne_nil
        · exact .inr (by simp)
        · exact .inl (by simp)

/-- A written double has a point or an exponent. -/
theorem mem_floatChars (x : Float) : '.' ∈ floatChars x ∨ 'e' ∈ floatChars x := by
  simp only [floatChars]
  split
  · exact (mem_decimalChars _).imp (List.mem_cons_of_mem _) (List.mem_cons_of_mem _)
  · exact mem_decimalChars _

/-! ## Doubles that read back -/

/-- A number that is a double and not a whole number denotes no other double. -/
theorem Numeral.value_eq_float {n : Numeral} {x : Float}
    (h : n.fraction.isSome = true ∨ n.exponent.isSome = true) (hx : n.value.float? = some x) :
    n.value = .float x := by
  have hinexact : (n.fraction.isSome || n.exponent.isSome) = true := by simpa using h
  simp only [Numeral.value, hinexact, if_true] at hx ⊢
  cases hfloat : n.toFloat with
  | none => simp [hfloat, float?] at hx
  | some y => simpa [hfloat, float?] using hx

/-- What is left of a text of number characters holds no space. -/
theorem skipSpace_numberChars {cs : List Char} (h : ∀ c ∈ cs, NumberChar c) :
    skipSpace cs = cs := by
  cases cs with
  | nil => rfl
  | cons c cs => exact skipSpace_cons (h c (List.mem_cons_self ..)).isSpace

/-- Only finite doubles are written as numbers. -/
theorem ReadsBack.ofFloat_eq {x : Float} (h : ReadsBack x) : ofFloat x = .float x := by
  rw [ofFloat, if_pos]
  by_contra hinfinite
  have hnull : parse? (render .null) = some .null := rfl
  rw [ReadsBack, ofFloat, if_neg hinfinite, hnull] at h
  cases h

/-- If the text of a double reads back, it does so as a double and not as a whole number. -/
theorem ReadsBack.denotes {x : Float} (h : ReadsBack x) : Denotes (floatChars x) (.float x) := by
  have hchars := numberChars_floatChars x
  have hne : floatChars x ≠ [] := by
    rcases mem_floatChars x with hmem | hmem <;> exact List.ne_nil_of_mem hmem
  refine ⟨hne, hchars, ?_⟩
  have hfinite := h.ofFloat_eq
  rw [ReadsBack, hfinite, Option.bind_eq_some_iff] at h
  obtain ⟨j, hj, hx⟩ := h
  simp only [parse?, render, chars, String.toList_ofList] at hj
  obtain ⟨c, cs, hcs⟩ := List.exists_cons_of_ne_nil hne
  rw [hcs, value_number (hchars c (hcs ▸ List.mem_cons_self ..)), ← hcs] at hj
  cases hn : numeral (floatChars x) with
  | none => simp [hn] at hj
  | some r =>
    obtain ⟨n, rest⟩ := r
    simp only [hn, Option.map_some, Option.ite_none_right_eq_some, Option.some.injEq] at hj
    obtain ⟨hrest, rfl⟩ := hj
    obtain ⟨used, hused, hwhole⟩ := numeral_spec hn
    -- The number reaches to the end, since no space is left.
    have hnil : rest = [] := by
      rw [skipSpace_numberChars] at hrest
      · exact hrest
      · exact fun c hc => hchars c (hused ▸ List.mem_append_right _ hc)
    subst hnil
    rw [List.append_nil] at hused
    refine ⟨n, rfl, Numeral.value_eq_float ?_ hx⟩
    by_contra hnone
    simp only [not_or, Bool.not_eq_true, Option.isSome_eq_false_iff, Option.isNone_iff_eq_none]
      at hnone
    have hdigits := hwhole hnone.1 hnone.2
    rw [← hused] at hdigits
    rcases mem_floatChars x with hmem | hmem <;> exact absurd (hdigits _ hmem) (by decide)

end ThreatModel.Json
