/-!
# What was not seen yet

A walk that visits nothing twice ends because each visit leaves less that was not seen yet.
-/

namespace ThreatModel

/-- A stronger condition that some member fails leaves fewer members. -/
theorem length_filter_lt {α : Type} {p q : α → Bool} {l : List α} (h : ∀ x, p x = true → q x = true)
    {a : α} (ha : a ∈ l) (hq : q a = true) (hp : p a = false) :
    (l.filter p).length < (l.filter q).length := by
  have hle (l : List α) : (l.filter p).length ≤ (l.filter q).length := by
    simpa [List.countP_eq_length_filter] using List.countP_mono_left fun x _ => h x
  induction l with
  | nil => cases ha
  | cons x l ih =>
    have hx := h x
    rcases List.mem_cons.1 ha with rfl | ha
    · simpa [hp, hq] using Nat.lt_succ_of_le (hle l)
    · have := ih ha
      cases hpx : p x
      · cases hqx : q x
        · simpa [hpx, hqx] using this
        · simpa [hpx, hqx] using Nat.lt_succ_of_lt this
      · simpa [hpx, hx hpx] using this

/-- Marking one more member as seen leaves fewer unseen ones. -/
theorem length_filter_unseen_lt {α : Type} {f : α → String} {l : List α} {seen : List String} {a : α}
    (ha : a ∈ l) (hseen : seen.contains (f a) = false) :
    (l.filter fun x => !(f a :: seen).contains (f x)).length
      < (l.filter fun x => !seen.contains (f x)).length :=
  length_filter_lt (fun x hx => by simp_all) ha (by simpa using hseen) (by simp)

end ThreatModel
