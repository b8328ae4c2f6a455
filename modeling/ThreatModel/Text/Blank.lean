/-!
# Blank characters and trimming

Texts of a model are compared after trimming. Blank is every character with the Unicode property
White_Space, all 25 of them; `trim` takes the longest blank run from both ends.
-/

namespace ThreatModel.Text

/-- The characters with the property White_Space, as inclusive ranges. -/
def blankRanges : List (Nat × Nat) :=
  [(0x09, 0x0D), (0x20, 0x20), (0x85, 0x85), (0xA0, 0xA0), (0x1680, 0x1680), (0x2000, 0x200A),
    (0x2028, 0x2029), (0x202F, 0x202F), (0x205F, 0x205F), (0x3000, 0x3000)]

/-- Whether a code point lies in one of some inclusive ranges. -/
def inRanges (ranges : List (Nat × Nat)) (n : Nat) : Bool :=
  ranges.any fun r => r.1 ≤ n && n ≤ r.2

/-- Whether a character is white space. -/
def isBlank (c : Char) : Bool := inRanges blankRanges c.toNat

/-- The characters left once blank ones are taken from both ends. -/
def trimChars (cs : List Char) : List Char :=
  ((cs.dropWhile isBlank).reverse.dropWhile isBlank).reverse

/-- The text without blank characters at its ends. -/
def trim (s : String) : String := String.ofList (trimChars s.toList)

/-- Whether nothing is left of a text after trimming. -/
def blank (s : String) : Bool := s.toList.all isBlank

@[simp] theorem toList_trim (s : String) : (trim s).toList = trimChars s.toList := by
  simp [trim]

theorem dropWhile_isBlank_eq_nil_iff {cs : List Char} :
    cs.dropWhile isBlank = [] ↔ ∀ c ∈ cs, isBlank c = true := by
  induction cs with
  | nil => simp
  | cons c cs ih => by_cases h : isBlank c = true <;> simp [h, ih]

theorem trimChars_eq_nil_iff {cs : List Char} : trimChars cs = [] ↔ ∀ c ∈ cs, isBlank c = true := by
  constructor
  · intro h c hc
    have hrev : ∀ x ∈ cs.dropWhile isBlank, isBlank x = true := by
      have h' := congrArg List.reverse h
      simp only [trimChars, List.reverse_reverse, List.reverse_nil,
        dropWhile_isBlank_eq_nil_iff] at h'
      exact fun x hx => h' x (List.mem_reverse.2 hx)
    rw [← List.takeWhile_append_dropWhile (p := isBlank) (l := cs)] at hc
    rcases List.mem_append.1 hc with h1 | h1
    · exact List.all_eq_true.1 List.all_takeWhile c h1
    · exact hrev c h1
  · intro h
    have : cs.dropWhile isBlank = [] := dropWhile_isBlank_eq_nil_iff.2 h
    simp [trimChars, this]

/-- A text is blank exactly when trimming leaves nothing. -/
theorem blank_eq_true_iff {s : String} : blank s = true ↔ trim s = "" := by
  rw [← String.toList_inj, toList_trim, blank, List.all_eq_true]
  exact trimChars_eq_nil_iff.symm

end ThreatModel.Text
