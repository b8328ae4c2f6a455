import ThreatModel.Proofs.Validation.Acceptance

/-!
# What a check fails with

The first failing check ends validation with its fault. `FailsOnly P c` says that the check `c` ends
with no other faults than those that `P` holds of. A sequence of checks is taken apart by
`FailsOnly.bind`, a loop by `failsOnly_foldlM`: the round that fails comes after rounds that have
succeeded, so what these have built is known. For single checks one lemma each says what is the case
when they fail.
-/

namespace ThreatModel.Validation

variable {α β ι σ : Type} {P : Fault → Prop}

/-- Whatever fault a check ends with, it has the property `P`. -/
def FailsOnly (P : Fault → Prop) (c : Except Fault α) : Prop := ∀ fault, c = .error fault → P fault

/-! ## Sequences of checks -/

theorem failsOnly_ok (a : α) : FailsOnly P (.ok a) := fun _ h => nomatch h

theorem failsOnly_pure (a : α) : FailsOnly P (pure a : Except Fault α) := failsOnly_ok a

theorem failsOnly_error {fault : Fault} (h : P fault) :
    FailsOnly P (.error fault : Except Fault α) := by
  intro _ heq
  cases heq
  exact h

theorem FailsOnly.bind {c : Except Fault α} {next : α → Except Fault β} (hc : FailsOnly P c)
    (hnext : ∀ a, c = .ok a → FailsOnly P (next a)) : FailsOnly P (c >>= next) := by
  cases c with
  | error fault => exact failsOnly_error (hc fault rfl)
  | ok a => exact hnext a rfl

/-- A loop fails in a round that comes after successful ones. -/
theorem failsOnly_foldlM {step : σ → ι → Except Fault σ} {l : List ι} {s : σ}
    (h : ∀ before x after s', l = before ++ x :: after → before.foldlM step s = .ok s' →
      FailsOnly P (step s' x)) : FailsOnly P (l.foldlM step s) := by
  induction l generalizing s with
  | nil => exact failsOnly_pure s
  | cons x l ih =>
    rw [List.foldlM_cons]
    refine .bind (h [] x l s rfl rfl) fun s₁ hs₁ => ih fun before y after s' hl hbefore => ?_
    -- The rounds before a later one begin with this one.
    refine h (x :: before) y after s' (by rw [hl, List.cons_append]) ?_
    rw [List.foldlM_cons, hs₁]
    exact hbefore

theorem failsOnly_forM {f : ι → Except Fault Unit} {l : List ι} (h : ∀ x ∈ l, FailsOnly P (f x)) :
    FailsOnly P (l.forM f) := by
  induction l with
  | nil => exact failsOnly_pure ()
  | cons x l ih =>
    rw [List.forall_mem_cons] at h
    exact .bind h.1 fun _ _ => ih h.2

theorem failsOnly_mapM {f : ι → Except Fault β} {l : List ι} (h : ∀ x ∈ l, FailsOnly P (f x)) :
    FailsOnly P (l.mapM f) := by
  induction l with
  | nil => exact failsOnly_pure []
  | cons x l ih =>
    rw [List.forall_mem_cons] at h
    rw [List.mapM_cons]
    exact .bind h.1 fun _ _ => .bind (ih h.2) fun _ _ => failsOnly_pure _

/-! ## Single checks -/

theorem failsOnly_require {ok : Bool} {fault : Fault} (h : ok = false → P fault) :
    FailsOnly P (require ok fault) := by
  cases ok with
  | false => exact failsOnly_error (h rfl)
  | true => exact failsOnly_ok ()

theorem failsOnly_value [ValueSet α] {field element text : String}
    (h : ¬ IsWord α text → P (.unknownValue field element text)) :
    FailsOnly P (value field element text : Except Fault α) := by
  unfold value
  split
  · exact failsOnly_ok _
  · next hnone =>
    refine failsOnly_error (h fun hword => ?_)
    obtain ⟨v, hv⟩ := exists_reads_iff.2 hword
    rw [Reads, hnone] at hv
    cases hv

theorem failsOnly_valueOr [ValueSet α] {default : α} {field element text : String}
    (h : ¬ IsWordOrBlank α text → P (.unknownValue field element text)) :
    FailsOnly P (valueOr default field element text) := by
  unfold valueOr
  split
  · exact failsOnly_ok _
  · next hblank =>
    refine failsOnly_value fun hword => h fun hor => ?_
    rcases hor with hempty | hor
    · exact hblank (Text.blank_eq_true_iff.2 hempty)
    · exact hword hor

theorem failsOnly_checkId {id : String} (h : ¬ IsId id → P (.invalidId id)) :
    FailsOnly P (checkId id) := by
  refine failsOnly_require fun hfalse => h fun hid => ?_
  rw [isId_eq_true_iff.2 hid] at hfalse
  cases hfalse

theorem failsOnly_checkNew {taken : Dict α} {id : String}
    (h : taken.contains id = true → P (.duplicateId id)) : FailsOnly P (checkNew taken id) :=
  failsOnly_require fun hfalse => h (by simpa using hfalse)

theorem failsOnly_checkReferences {elements : Dict α} {kind location : String} {ids : List String}
    (h : ∀ id ∈ ids, elements.contains id = false → P (.missingReference kind location id)) :
    FailsOnly P (checkReferences elements kind location ids) :=
  failsOnly_forM fun id hid => failsOnly_require (h id hid)

theorem failsOnly_checkTags {available tags : List String} {location : String}
    (h : ∀ tag ∈ tags, Text.fold tag ∉ available →
      P (.missingReference "tag in overall tag list" location (Text.fold tag))) :
    FailsOnly P (checkTags available location tags) := by
  unfold checkTags
  dsimp only
  split
  · next t ht =>
    obtain ⟨tag, htag, rfl⟩ := List.mem_map.1 (List.mem_of_find?_eq_some ht)
    exact failsOnly_error (h tag htag (by simpa using List.find?_some ht))
  · exact failsOnly_ok _

theorem failsOnly_date? {fault : Fault} {text : String} (h : ¬ IsDateOrBlank text → P fault) :
    FailsOnly P (date? fault text) := by
  unfold date?
  split
  · exact failsOnly_ok _
  · next hblank =>
    split
    · exact failsOnly_ok _
    · next hnone =>
      refine failsOnly_error (h fun hor => ?_)
      rcases hor with hempty | hdate
      · exact hblank (Text.blank_eq_true_iff.2 hempty)
      · rw [hnone] at hdate
        cases hdate

theorem failsOnly_reference {found : String → Bool} {kind location text : String}
    (h : Text.trim text ≠ "" → found (Text.trim text) = false →
      P (.missingReference kind location (Text.trim text))) :
    FailsOnly P (reference found kind location text) := by
  unfold reference
  dsimp only
  split
  · exact failsOnly_ok _
  · next hempty =>
    split
    · exact failsOnly_ok _
    · next hmissing => exact failsOnly_error (h (by simpa using hempty) (by simpa using hmissing))

end ThreatModel.Validation
