import ThreatModel.Text.LowerCase

/-!
# Slugs

A slug is the part of an id that is made from a title: the runs of ASCII letters and digits of the
lower-cased title, joined by single hyphens.
-/

namespace ThreatModel.Text

/-- The maximal runs of characters with a property, `run` being the run read so far. -/
def runsFrom (p : Char → Bool) (run : List Char) : List Char → List (List Char)
  | [] => if run.isEmpty then [] else [run]
  | c :: cs =>
    if p c then runsFrom p (run ++ [c]) cs
    else if run.isEmpty then runsFrom p [] cs
    else run :: runsFrom p [] cs

/-- The maximal runs of characters with a property. -/
def runs (p : Char → Bool) (cs : List Char) : List (List Char) := runsFrom p [] cs

/-- The runs of letters and digits that a slug is made of. -/
def slugRuns (s : String) : List (List Char) := runs Char.isAlphanum (lowerChars s.toList)

/-- The slug of a text. -/
def slug (s : String) : String := String.ofList (['-'].intercalate (slugRuns s))

@[simp] theorem runsFrom_nil_nil (p : Char → Bool) : runsFrom p [] [] = [] := rfl

/-- Every character of a run has the property. -/
theorem forall_of_mem_runsFrom {p : Char → Bool} {run cs r : List Char}
    (hrun : ∀ c ∈ run, p c = true) (h : r ∈ runsFrom p run cs) : ∀ c ∈ r, p c = true := by
  induction cs generalizing run with
  | nil =>
    cases run with
    | nil => simp [runsFrom] at h
    | cons c run => simp only [runsFrom, List.isEmpty_cons] at h; simp_all
  | cons c cs ih =>
    simp only [runsFrom] at h
    split at h
    · next hc =>
      exact ih (fun x hx => by
        rcases List.mem_append.1 hx with hx | hx
        · exact hrun x hx
        · rw [List.mem_singleton.1 hx]; exact hc) h
    · split at h
      · exact ih (fun x hx => by cases hx) h
      · rcases List.mem_cons.1 h with rfl | h
        · exact hrun
        · exact ih (fun x hx => by cases hx) h

/-- A slug has only letters, digits and hyphens. -/
theorem mem_slug {s : String} {c : Char} (h : c ∈ (slug s).toList) :
    c.isAlphanum = true ∨ c = '-' := by
  have hrun : ∀ r ∈ slugRuns s, ∀ c ∈ r, c.isAlphanum = true :=
    fun r hr => forall_of_mem_runsFrom (by simp) hr
  rw [slug, String.toList_ofList] at h
  generalize slugRuns s = runs at h hrun
  induction runs with
  | nil => simp at h
  | cons r runs ih =>
    cases runs with
    | nil =>
      rw [List.intercalate_singleton] at h
      exact .inl (hrun r (by simp) c h)
    | cons next runs =>
      rw [List.intercalate_cons_cons, List.append_assoc, List.mem_append, List.singleton_append,
        List.mem_cons] at h
      rcases h with h | h | h
      · exact .inl (hrun r (by simp) c h)
      · exact .inr h
      · exact ih h fun r hr => hrun r (List.mem_cons_of_mem _ hr)

end ThreatModel.Text
