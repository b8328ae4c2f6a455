import ThreatModel.Text.Blank
import ThreatModel.Text.CaseTable

/-!
# Lower-casing

Ids, tags and tracking keys are compared in lower case. A character goes to its lower-case partner;
two have a rule of their own: `İ` becomes `i` with a combining dot, and a capital sigma becomes the
final form `ς` when a letter with case stands before it and none after it, marks being passed over.
-/

namespace ThreatModel.Text

/-- The lower-case partner of a character, itself when it has none. -/
def lowerChar (c : Char) : Char :=
  if c.toNat < 0x80 then c.toLower
  else match caseRuns.find? (·.covers c.toNat) with
    | some r => Char.ofNat (c.toNat + r.shift).toNat
    | none => c

/-- Whether the first character that is not passed over has case. -/
def casedNext (cs : List Char) : Bool :=
  match cs.dropWhile (fun c => inRanges caseIgnorableRanges c.toNat) with
  | [] => false
  | c :: _ => inRanges casedRanges c.toNat

/-- The lower-case form of a text whose characters before this point are `before`, last first. -/
def lowerAfter (before : List Char) : List Char → List Char
  | [] => []
  | c :: cs =>
    if c = 'Σ' then
      (if casedNext before && !casedNext cs then 'ς' else 'σ') :: lowerAfter (c :: before) cs
    else if c = 'İ' then 'i' :: '\u0307' :: lowerAfter (c :: before) cs
    else lowerChar c :: lowerAfter (c :: before) cs

/-- The lower-case form of a list of characters. -/
def lowerChars (cs : List Char) : List Char := lowerAfter [] cs

/-- The lower-case form of a text. -/
def lower (s : String) : String := String.ofList (lowerChars s.toList)

/-- Trimmed and lower-cased, the form in which tags and tracking keys are compared. -/
def fold (s : String) : String := lower (trim s)

@[simp] theorem toList_lower (s : String) : (lower s).toList = lowerChars s.toList := by
  simp [lower]

/-- An ASCII character goes to its ASCII lower-case form. -/
theorem lowerChar_ascii {c : Char} (h : c.toNat < 0x80) : lowerChar c = c.toLower := by
  simp [lowerChar, h]

/-- A text of ASCII characters is lower-cased character by character. -/
theorem lowerAfter_ascii (before : List Char) {cs : List Char} (h : ∀ c ∈ cs, c.toNat < 0x80) :
    lowerAfter before cs = cs.map Char.toLower := by
  induction cs generalizing before with
  | nil => rfl
  | cons c cs ih =>
    have hc := h c (List.mem_cons_self ..)
    have h1 : c ≠ 'Σ' := by rintro rfl; exact absurd hc (by decide)
    have h2 : c ≠ 'İ' := by rintro rfl; exact absurd hc (by decide)
    simp [lowerAfter, h1, h2, lowerChar_ascii hc,
      ih (c :: before) fun x hx => h x (List.mem_cons_of_mem _ hx)]

theorem lowerChars_ascii {cs : List Char} (h : ∀ c ∈ cs, c.toNat < 0x80) :
    lowerChars cs = cs.map Char.toLower := lowerAfter_ascii [] h

end ThreatModel.Text
