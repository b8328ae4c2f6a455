import ThreatModel.Proofs.Json.Double
import ThreatModel.Proofs.Json.Quoted

/-!
# Written values are read back

Every tree has a text, but not every tree is the one that its text denotes: a whole number may be too
large, a double may come back as a neighbour. `Exact` excludes these at the leaves. The reader takes
one step for each value and one more for each item and member, which the length of the text allows for
twice over (`Reading.step`); so `parse?` gives back every exact tree (`parse?_render`).
-/

namespace ThreatModel.Json

/-- A tree that its text denotes, as far as its numbers go. -/
inductive Exact : Json → Prop where
  | null : Exact .null
  | bool (b : Bool) : Exact (.bool b)
  | int {i : Int} (h : IsWord64 i) : Exact (.int i)
  | float {x : Float} (h : ReadsBack x) : Exact (.float x)
  | string (s : String) : Exact (.string s)
  | array {items : List Json} (h : ∀ j ∈ items, Exact j) : Exact (.array items)
  | object {members : List (String × Json)} (h : ∀ m ∈ members, Exact m.2) : Exact (.object members)

theorem exact_object_iff {members : List (String × Json)} :
    Exact (.object members) ↔ ∀ m ∈ members, Exact m.2 :=
  ⟨fun h => by cases h; assumption, .object⟩

/-! ## Where tokens begin -/

/-- A text that starts with a value: no space and no closing bracket stands in front. -/
def StartsValue (cs : List Char) : Prop := ∃ c rest, cs = c :: rest ∧ isSpace c = false ∧ c ≠ ']'

theorem startsValue_cons {c : Char} {cs : List Char} (h : isSpace c = false ∧ c ≠ ']') :
    StartsValue (c :: cs) := ⟨c, cs, rfl, h⟩

theorem Denotes.startsValue {cs : List Char} {j : Json} (h : Denotes cs j) : StartsValue cs := by
  obtain ⟨c, cs, rfl⟩ := List.exists_cons_of_ne_nil h.1
  have hc := h.2.1 c (List.mem_cons_self ..)
  exact startsValue_cons ⟨hc.isSpace, fun heq => absurd (heq ▸ hc) (by decide)⟩

theorem Exact.startsValue {j : Json} (h : Exact j) : StartsValue j.chars := by
  cases h with
  | null => exact startsValue_cons (by decide)
  | bool b => cases b <;> exact startsValue_cons (by decide)
  | int h => exact (denotes_intChars h).startsValue
  | float h => exact h.denotes.startsValue
  | string s => exact startsValue_cons (by decide)
  | array h => cases ‹List Json› <;> exact startsValue_cons (by decide)
  | object h => cases ‹List (String × Json)› <;> exact startsValue_cons (by decide)

theorem StartsValue.skipSpace {cs rest : List Char} (h : StartsValue cs) :
    skipSpace (cs ++ rest) = cs ++ rest := by
  obtain ⟨c, cs, rfl, hspace, -⟩ := h
  exact skipSpace_cons hspace

theorem StartsValue.append {cs : List Char} (h : StartsValue cs) (rest : List Char) :
    StartsValue (cs ++ rest) := by
  obtain ⟨c, cs, rfl, hc⟩ := h
  exact startsValue_cons hc

theorem StartsValue.length_pos {cs : List Char} (h : StartsValue cs) : 0 < cs.length := by
  obtain ⟨c, cs, rfl, -⟩ := h
  exact Nat.succ_pos _

/-! ## One step of the reader -/

theorem value_string (steps : Nat) (s : String) (rest : List Char) :
    value (steps + 1) (quoted s ++ rest) = some (.string s, rest) := by
  have hbody := stringBody_quoted s rest
  simp [value, quoted, skipSpace_cons, isSpace, hbody]

theorem value_array (steps : Nat) {cs : List Char} (h : StartsValue cs) (rest : List Char) :
    value (steps + 1) ('[' :: (cs ++ rest)) =
      (items steps (cs ++ rest)).map fun r => (.array r.1, r.2) := by
  have hstart : Json.skipSpace (cs ++ rest) = cs ++ rest := h.skipSpace
  obtain ⟨c, cs, rfl, -, hc⟩ := h
  rw [List.cons_append] at hstart
  simp [value, skipSpace_cons, isSpace, hstart, hc]

theorem value_object (steps : Nat) (cs : List Char) :
    value (steps + 1) ('{' :: '"' :: cs) =
      (members steps ('"' :: cs)).map fun r => ((r.1.map Json.object).getD .unreadable, r.2) := by
  simp [value, skipSpace_cons, isSpace]

theorem items_cons {steps : Nat} {cs : List Char} {j : Json} (js : List Json) {rest : List Char}
    (h : value steps cs = some (j, itemsChars js ++ rest)) :
    items (steps + 1) cs = match js with
      | [] => some ([j], rest)
      | k :: ks => (items steps (k.chars ++ itemsChars ks ++ rest)).map fun r => (j :: r.1, r.2) := by
  cases js with
  | nil => simp [items, h, itemsChars, skipSpace_cons, isSpace]
  | cons k ks => simp [items, h, itemsChars, skipSpace_cons, isSpace]

theorem members_cons {steps : Nat} {name : String} {cs : List Char} {j : Json}
    (ms : List (String × Json)) {rest : List Char}
    (h : value steps cs = some (j, membersChars ms ++ rest)) :
    members (steps + 1) (quoted name ++ ':' :: cs) = match ms with
      | [] => some (some [(name, j)], rest)
      | (name', k) :: ks =>
        (members steps (quoted name' ++ ':' :: (k.chars ++ membersChars ks) ++ rest)).map
          fun r => (r.1.map ((name, j) :: ·), r.2) := by
  have hbody := stringBody_quoted name (':' :: cs)
  cases ms with
  | nil => simp [members, quoted, hbody, h, membersChars, skipSpace_cons, isSpace]
  | cons m ms => simp [members, quoted, hbody, h, membersChars, skipSpace_cons, isSpace]

/-! ## Reading what was written -/

/-- With so many steps everything is read back that is written in half as many characters. -/
structure Reading (steps : Nat) : Prop where
  value : ∀ {j : Json}, Exact j → 2 * j.chars.length ≤ steps → ∀ {rest}, Stops rest →
    value steps (j.chars ++ rest) = some (j, rest)
  items : ∀ {j : Json} {js : List Json}, Exact j → (∀ k ∈ js, Exact k) →
    2 * (j.chars ++ itemsChars js).length < steps → ∀ rest,
      items steps (j.chars ++ itemsChars js ++ rest) = some (j :: js, rest)
  members : ∀ (name : String) {j : Json} {ms : List (String × Json)}, Exact j →
    (∀ m ∈ ms, Exact m.2) →
    2 * (quoted name ++ ':' :: (j.chars ++ membersChars ms)).length < steps → ∀ rest,
      members steps (quoted name ++ ':' :: (j.chars ++ membersChars ms) ++ rest) =
        some (some ((name, j) :: ms), rest)

theorem stops_itemsChars (js : List Json) (rest : List Char) : Stops (itemsChars js ++ rest) := by
  cases js <;> exact stops_cons (by decide)

theorem stops_membersChars (ms : List (String × Json)) (rest : List Char) :
    Stops (membersChars ms ++ rest) := by
  cases ms <;> exact stops_cons (by decide)

theorem Reading.zero : Reading 0 where
  value h hlength := by
    have := h.startsValue.length_pos
    omega
  items _ _ hlength := absurd hlength (Nat.not_lt_zero _)
  members _ _ _ _ _ hlength := absurd hlength (Nat.not_lt_zero _)

theorem Reading.step {steps : Nat} (ih : Reading steps) : Reading (steps + 1) where
  value {j} h hlength {rest} hrest := by
    cases h with
    | null => rfl
    | bool b => cases b <;> rfl
    | int h => exact (denotes_intChars h).value hrest steps
    | float h => exact h.denotes.value hrest steps
    | string s => exact value_string steps s rest
    | @array js h =>
      cases js with
      | nil => rfl
      | cons j js =>
        obtain ⟨hj, hjs⟩ := List.forall_mem_cons.1 h
        have hstart : StartsValue (j.chars ++ itemsChars js) := hj.startsValue.append _
        simp only [chars, List.length_cons] at hlength
        rw [chars, List.cons_append, value_array steps hstart, ih.items hj hjs (by omega)]
        rfl
    | @object ms h =>
      cases ms with
      | nil => rfl
      | cons m ms =>
        obtain ⟨hm, hms⟩ := List.forall_mem_cons.1 h
        simp only [chars, List.length_cons] at hlength
        have hmembers := ih.members m.1 hm hms (by omega) rest
        rw [chars, List.cons_append, quoted, List.cons_append, List.cons_append, value_object]
        rw [quoted, List.cons_append, List.cons_append] at hmembers
        rw [hmembers]
        rfl
  items {j js} hj hjs hlength rest := by
    simp only [List.length_append] at hlength
    have hvalue : Json.value steps (j.chars ++ (itemsChars js ++ rest)) =
        some (j, itemsChars js ++ rest) :=
      ih.value hj (by omega) (stops_itemsChars js rest)
    rw [List.append_assoc, items_cons js hvalue]
    cases js with
    | nil => rfl
    | cons k ks =>
      simp only [itemsChars, List.length_cons, List.length_append] at hlength
      obtain ⟨hk, hks⟩ := List.forall_mem_cons.1 hjs
      have hitems := ih.items hk hks (by rw [List.length_append]; omega) rest
      simp only [hitems, Option.map_some]
  members name j ms hj hms hlength rest := by
    simp only [List.length_append, List.length_cons] at hlength
    have hvalue : Json.value steps (j.chars ++ (membersChars ms ++ rest)) =
        some (j, membersChars ms ++ rest) :=
      ih.value hj (by omega) (stops_membersChars ms rest)
    rw [List.append_assoc, List.cons_append, List.append_assoc, members_cons ms hvalue]
    cases ms with
    | nil => rfl
    | cons m ms =>
      simp only [membersChars, List.length_cons, List.length_append] at hlength
      obtain ⟨hm, hms⟩ := List.forall_mem_cons.1 hms
      have hmembers :=
        ih.members m.1 hm hms (by simp only [List.length_append, List.length_cons]; omega) rest
      simp only [hmembers, Option.map_some]

/-- Every exact tree is the value of its text, with blanks behind it or not. -/
theorem parse?_render_append {j : Json} (h : Exact j) {rest : String} (hstops : Stops rest.toList)
    (hblank : skipSpace rest.toList = []) : parse? (j.render ++ rest) = some j := by
  have hreading (steps : Nat) : Reading steps := by
    induction steps with
    | zero => exact .zero
    | succ steps ih => exact ih.step
  have hsteps : 2 * j.chars.length ≤ 2 * (j.chars ++ rest.toList).length + 2 := by
    rw [List.length_append]
    omega
  have hvalue := (hreading _).value h hsteps hstops
  simp only [parse?, render, String.toList_append, String.toList_ofList, hvalue, hblank, if_true]

theorem parse?_render {j : Json} (h : Exact j) : parse? j.render = some j := by
  have hempty : parse? (j.render ++ "") = some j := parse?_render_append h stops_nil rfl
  rwa [String.append_empty] at hempty

end ThreatModel.Json
