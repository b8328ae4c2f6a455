import ThreatModel.Analysis.Reconciliation
import ThreatModel.Proofs.Rule.Finding

/-!
# Reconciliation decides by the right record

Reconciliation goes through the tracking records twice, first those about single ids, then the
patterns, and stops at the first orphan unless orphans are ignored. What such a run does is said by
`Yields`: the orphans that come up in it, and the entry that decides about each risk id in the end.
`Yields.bind` puts runs together, so the two loops are two inductions with one step each.
-/

namespace ThreatModel

namespace Reconciliation

variable {f g : String → Option (String × TrackingRecord)} {d : Decisions} {ignore : Bool}
  {ids : List String}

/-! ## Decisions as a function -/

/-- The decisions are those that a function makes: about an id decides the record of an entry, and
the key of the entry is noted. -/
def Agrees (d : Decisions) (f : String → Option (String × TrackingRecord)) : Prop :=
  ∀ id, d.records.get? id = (f id).map (·.2) ∧ d.applied.get? id = (f id).map (·.1)

theorem agrees_empty : Agrees {} fun _ => none := fun _ => ⟨rfl, rfl⟩

theorem Agrees.settle (h : Agrees d f) (e : String × TrackingRecord) (id : String) :
    Agrees (d.settle id e.1 e.2) fun k => if k = id then some e else f k := by
  intro k
  by_cases hk : k = id
  · simp [Decisions.settle, hk]
  · simpa [Decisions.settle, hk] using h k

theorem Agrees.contains (h : Agrees d f) (id : String) :
    d.records.contains id = (f id).isSome := by
  rw [Dict.contains, (h id).1, Option.isSome_map]

/-- The same function may be said in another way. -/
theorem Agrees.congr (h : Agrees d f) (hfg : ∀ id, f id = g id) : Agrees d g :=
  (funext hfg : f = g) ▸ h

/-! ## Runs -/

/-- A run comes to the orphans `os`, having noted some before. It ends at the first one unless
orphans are ignored; else it ends with the decisions of `f`. -/
def Yields (ignore : Bool) (os : List Orphan) (f : String → Option (String × TrackingRecord))
    (noted : List String) (x : Except Orphan Decisions) : Prop :=
  match ignore, os with
  | false, o :: _ => x = .error o
  | _, _ => ∃ d, x = .ok d ∧ d.orphans = noted ++ os.map (·.key) ∧ Agrees d f

theorem yields_ok (h : Agrees d f) : Yields ignore [] f d.orphans (.ok d) := by
  cases ignore <;> exact ⟨d, rfl, by simp, h⟩

theorem yields_orphan (h : Agrees d f) (o : Orphan) :
    Yields ignore [o] f d.orphans (d.orphan ignore o) := by
  cases ignore
  · rfl
  · exact ⟨_, rfl, rfl, h⟩

theorem Yields.cases {os : List Orphan} {noted : List String} {x : Except Orphan Decisions}
    (h : Yields ignore os f noted x) :
    (ignore = false ∧ ∃ o os', os = o :: os' ∧ x = .error o) ∨
      ((ignore = true ∨ os = []) ∧
        ∃ d, x = .ok d ∧ d.orphans = noted ++ os.map (·.key) ∧ Agrees d f) := by
  match ignore, os, h with
  | false, o :: os, h => exact .inl ⟨rfl, o, os, rfl, h⟩
  | false, [], h => exact .inr ⟨.inr rfl, h⟩
  | true, os, h => exact .inr ⟨.inl rfl, h⟩

/-- One run after another. -/
theorem Yields.bind {os os' : List Orphan} {noted : List String} {x : Except Orphan Decisions}
    {k : Decisions → Except Orphan Decisions} (hx : Yields ignore os f noted x)
    (hk : ∀ d, Agrees d f → Yields ignore os' g d.orphans (k d)) :
    Yields ignore (os ++ os') g noted (x >>= k) := by
  match ignore, os, hx with
  | false, o :: os, hx =>
    obtain rfl : x = .error o := hx
    rfl
  | false, [], ⟨d, hd, horphans, hagrees⟩ =>
    subst hd
    have hrest := hk d hagrees
    rw [horphans, List.map_nil, List.append_nil] at hrest
    exact hrest
  | true, os, ⟨d, hd, horphans, hagrees⟩ =>
    subst hd
    obtain ⟨d', hd', horphans', hagrees'⟩ := hk d hagrees
    exact ⟨d', hd', by simp [horphans', horphans], hagrees'⟩

/-- The same function may be said in another way. -/
theorem Yields.congr {os : List Orphan} {noted : List String} {x : Except Orphan Decisions}
    (h : Yields ignore os f noted x) (hfg : ∀ id, f id = g id) : Yields ignore os g noted x :=
  (funext hfg : f = g) ▸ h

/-! ## Records about single ids -/

/-- The last entry about an id decides about it; an entry about an id that no risk has is an
orphan. -/
theorem yields_direct (l : List (String × TrackingRecord)) (h : Agrees d f) :
    Yields ignore ((l.filter fun e => !ids.contains e.1).map fun e => .id e.1)
      (fun id => if id ∈ ids then (l.reverse.find? (·.1 = id)).or (f id) else f id) d.orphans
      (l.foldlM (applyDirect ids ignore) d) := by
  induction l generalizing d f with
  | nil => exact (yields_ok h).congr fun id => by simp
  | cons e l ih =>
    rw [List.foldlM_cons, List.filter_cons]
    by_cases hmem : e.1 ∈ ids
    · have hstep : Yields ignore [] (fun id => if id = e.1 then some e else f id) d.orphans
          (applyDirect ids ignore d e) := by
        rw [applyDirect, if_pos (by simpa using hmem)]
        exact yields_ok (h.settle e e.1)
      rw [if_neg (by simpa using hmem)]
      -- Of several entries about an id a later one is tried first, so `e` is the last resort.
      refine (hstep.bind fun d' hd' => ih hd').congr fun id => ?_
      by_cases hsame : id = e.1
      · simp [hsame, hmem]
      · simp [hsame, Ne.symm hsame]
    · have hstep : Yields ignore [.id e.1] f d.orphans (applyDirect ids ignore d e) := by
        rw [applyDirect, if_neg (by simpa using hmem)]
        exact yields_orphan h _
      rw [if_pos (by simpa using hmem), List.map_cons]
      refine (hstep.bind fun d' hd' => ih hd').congr fun id => ?_
      by_cases hsame : id = e.1
      · simp [hsame, hmem]
      · simp [Ne.symm hsame]

/-! ## Records about patterns -/

/-- The entry that a pattern contributes to what is known about some ids. -/
def offers (e : String × TrackingRecord) (ids : List String) (id : String) :
    Option (String × TrackingRecord) :=
  if id ∈ ids ∧ Text.wildcardMatches e.1 id = true then some e else none

/-- Comparing a pattern with an id lets it decide, unless something has been decided. -/
theorem agrees_applyPattern (e : String × TrackingRecord) (id : String) {s : Decisions × Bool}
    (h : Agrees s.1 f) : Agrees (applyPattern e s id).1 fun k => (f k).or (offers e [id] k) := by
  unfold applyPattern offers
  by_cases hmatch : Text.wildcardMatches e.1 id = true
  · rw [if_pos hmatch]
    by_cases hdone : (f id).isSome = true
    · rw [if_pos (by rw [h.contains, hdone])]
      obtain ⟨e', he'⟩ := Option.isSome_iff_exists.1 hdone
      refine h.congr fun k => ?_
      by_cases hk : k = id
      · simp [hk, he']
      · simp [hk]
    · rw [if_neg (by rw [h.contains]; exact hdone)]
      have hnone : f id = none := by simpa using hdone
      refine (h.settle e id).congr fun k => ?_
      by_cases hk : k = id
      · simp [hk, hnone, hmatch]
      · simp [hk]
  · rw [if_neg hmatch]
    refine h.congr fun k => ?_
    by_cases hk : k = id
    · simp [hk, hmatch]
    · simp [hk]

theorem agrees_foldl_applyPattern (e : String × TrackingRecord) (ids : List String)
    {s : Decisions × Bool} (h : Agrees s.1 f) :
    Agrees (ids.foldl (applyPattern e) s).1 fun k => (f k).or (offers e ids k) := by
  induction ids generalizing s f with
  | nil => exact h.congr fun k => by simp [offers]
  | cons id ids ih =>
    rw [List.foldl_cons]
    refine (ih (agrees_applyPattern e id h)).congr fun k => ?_
    rw [Option.or_assoc]
    by_cases hk : k = id
    · subst hk
      by_cases hmatch : Text.wildcardMatches e.1 k = true <;> simp [offers, hmatch]
    · simp [offers, hk]

/-- Any match counts as use of a pattern; nothing is noted as an orphan yet. -/
theorem foldl_applyPattern (e : String × TrackingRecord) (ids : List String)
    (s : Decisions × Bool) :
    (ids.foldl (applyPattern e) s).2 = (s.2 || ids.any (Text.wildcardMatches e.1)) ∧
      (ids.foldl (applyPattern e) s).1.orphans = s.1.orphans := by
  induction ids generalizing s with
  | nil => simp
  | cons id ids ih =>
    obtain ⟨hused, horphans⟩ := ih (applyPattern e s id)
    rw [List.foldl_cons, hused, horphans, List.any_cons]
    unfold applyPattern Decisions.settle
    constructor
    · split <;> simp_all
    · split
      · split <;> rfl
      · rfl

theorem yields_applyWildcard (e : String × TrackingRecord) (h : Agrees d f) :
    Yields ignore (if ids.any (Text.wildcardMatches e.1) then [] else [.pattern e.1])
      (fun id => (f id).or (offers e ids id)) d.orphans (applyWildcard ids ignore d e) := by
  obtain ⟨hused, horphans⟩ := foldl_applyPattern e ids (d, false)
  have hagrees : Agrees (ids.foldl (applyPattern e) (d, false)).1 fun id =>
      (f id).or (offers e ids id) := agrees_foldl_applyPattern e ids h
  rw [Bool.false_or] at hused
  simp only [applyWildcard, hused]
  rw [← show _ = d.orphans from horphans]
  split
  · exact yields_ok hagrees
  · exact yields_orphan hagrees _

/-- The first pattern that matches an id decides about it if nothing has been decided; a pattern
that matches no id is an orphan. -/
theorem yields_wildcards (l : List (String × TrackingRecord)) (h : Agrees d f) :
    Yields ignore
      ((l.filter fun e => !ids.any (Text.wildcardMatches e.1)).map fun e => .pattern e.1)
      (fun id => (f id).or
        (if id ∈ ids then l.find? fun e => Text.wildcardMatches e.1 id else none)) d.orphans
      (l.foldlM (applyWildcard ids ignore) d) := by
  induction l generalizing d f with
  | nil => exact (yields_ok h).congr fun id => by simp
  | cons e l ih =>
    have horphans : ((e :: l).filter fun e => !ids.any (Text.wildcardMatches e.1)).map
          (fun e => Orphan.pattern e.1) =
        (if ids.any (Text.wildcardMatches e.1) then [] else [Orphan.pattern e.1]) ++
          (l.filter fun e => !ids.any (Text.wildcardMatches e.1)).map fun e => .pattern e.1 := by
      rw [List.filter_cons]
      cases ids.any (Text.wildcardMatches e.1) <;> rfl
    rw [List.foldlM_cons, horphans]
    refine ((yields_applyWildcard e h).bind fun d' hd' => ih hd').congr fun id => ?_
    rw [Option.or_assoc, List.find?_cons]
    by_cases hid : id ∈ ids
    · cases hmatch : Text.wildcardMatches e.1 id <;> simp [offers, hid, hmatch]
    · simp [offers, hid]

/-! ## All records -/

/-- The entries that concern none of some risk ids, those about single ids first. -/
def orphans (tracking : Dict TrackingRecord) (ids : List String) : List Orphan :=
  ((direct tracking).filter fun e => !ids.contains e.1).map (fun e => .id e.1) ++
    ((wildcards tracking).filter fun e =>
      !(openIds tracking ids).any (Text.wildcardMatches e.1)).map fun e => .pattern e.1

/-- The entry that decides about a risk id. -/
def entryFor (tracking : Dict TrackingRecord) (id : String) : Option (String × TrackingRecord) :=
  ((direct tracking).reverse.find? (·.1 = id)).or
    ((wildcards tracking).find? fun e => Text.wildcardMatches e.1 id)

theorem mem_openIds {tracking : Dict TrackingRecord} {id : String} :
    id ∈ openIds tracking ids ↔
      id ∈ ids ∧ (direct tracking).reverse.find? (·.1 = id) = none := by
  simp [openIds]

/-- The run over all records comes to all orphans and decides about every risk id. -/
theorem yields_decisions (tracking : Dict TrackingRecord) :
    Yields ignore (orphans tracking ids) (fun id => if id ∈ ids then entryFor tracking id else none)
      [] (decisions tracking ignore ids) := by
  refine ((yields_direct (direct tracking) agrees_empty).bind fun d hd =>
    yields_wildcards (wildcards tracking) hd).congr fun id => ?_
  unfold entryFor
  by_cases hid : id ∈ ids
  · cases hdirect : (direct tracking).reverse.find? (·.1 = id) with
    | none => simp [hid, mem_openIds, hdirect]
    | some e => simp [hid]
  · simp [hid, mem_openIds]

/-- The status that the records give to a risk. -/
def statusOf (tracking : Dict TrackingRecord) (r : Risk) : RiskStatus :=
  ((entryFor tracking (trackedId r)).map (·.2.status)).getD .unchecked

theorem mem_riskIds {risks : List Risk} {id : String} :
    id ∈ riskIds risks ↔ ∃ r ∈ risks, trackedId r = id := by
  rw [riskIds, mem_sortedUnique, List.mem_map]

/-- Statuses are set after the last record, so an orphan that ends the run leaves all risks
alone. -/
theorem run_update (risks : List Risk) (tracking : Dict TrackingRecord) (ignore : Bool) :
    (update tracking ignore).run.run risks =
      match decisions tracking ignore (riskIds risks) with
      | .ok d => (.ok d, risks.map (withStatus d))
      | .error o => (.error o, risks) := by
  show (do
    let d ← decisions tracking ignore (riskIds risks)
    modify (·.map (withStatus d))
    return d : ExceptT Orphan (StateM (List Risk)) Decisions).run.run risks = _
  cases decisions tracking ignore (riskIds risks) <;> rfl

theorem map_withStatus {risks : List Risk} {tracking : Dict TrackingRecord}
    (h : Agrees d fun id => if id ∈ riskIds risks then entryFor tracking id else none) :
    risks.map (withStatus d) = risks.map fun r => { r with status := statusOf tracking r } := by
  refine List.map_congr_left fun r hr => ?_
  have hrecord : d.records.get? (trackedId r) = (entryFor tracking (trackedId r)).map (·.2) := by
    rw [(h (trackedId r)).1]
    exact congrArg _ (if_pos (mem_riskIds.2 ⟨r, hr, rfl⟩))
  rw [withStatus, hrecord, statusOf, Option.map_map]
  rfl

/-- What reconciliation in place does, for any records. -/
theorem update_cases (risks : List Risk) (tracking : Dict TrackingRecord) (ignore : Bool) :
    (ignore = false ∧ ∃ o os, orphans tracking (riskIds risks) = o :: os ∧
        (update tracking ignore).run.run risks = (.error o, risks)) ∨
      ((ignore = true ∨ orphans tracking (riskIds risks) = []) ∧
        ∃ d, (update tracking ignore).run.run risks =
            (.ok d, risks.map fun r => { r with status := statusOf tracking r }) ∧
          d.orphans = (orphans tracking (riskIds risks)).map (·.key) ∧
          ∀ id, d.applied.get? id =
            if id ∈ riskIds risks then (entryFor tracking id).map (·.1) else none) := by
  rw [run_update]
  have hrun : Yields ignore (orphans tracking (riskIds risks)) _ [] _ := yields_decisions tracking
  rcases hrun.cases with ⟨hignore, o, os, hos, hx⟩ | ⟨hfree, d, hx, horphans, hagrees⟩
  · refine .inl ⟨hignore, o, os, hos, ?_⟩
    rw [hx]
  · refine .inr ⟨hfree, d, ?_, horphans, fun id => ?_⟩
    · rw [hx]
      exact congrArg _ (map_withStatus hagrees)
    · by_cases hid : id ∈ riskIds risks <;> simp [(hagrees id).2, hid]

/-! ## The specification -/

section Specification

variable (tracking : Dict TrackingRecord) (risks : List Risk)

/-- A key that is about a single id. -/
def Single (key : String) : Prop := tracking.contains key = true ∧ Text.hasWildcard key = false

/-- A key that is a pattern. -/
def Pattern (key : String) : Prop := tracking.contains key = true ∧ Text.hasWildcard key = true

/-- Some risk has an id, without regard to case. -/
def Occurs (id : String) : Prop := ∃ r ∈ risks, trackedId r = id

instance (key : String) : Decidable (Single tracking key) := inferInstanceAs (Decidable (_ ∧ _))

instance (key : String) : Decidable (Pattern tracking key) := inferInstanceAs (Decidable (_ ∧ _))

instance (id : String) : Decidable (Occurs risks id) :=
  inferInstanceAs (Decidable (∃ r ∈ risks, trackedId r = id))

/-- A key concerns no risk: none has the single id, or all ids that the pattern matches are decided
about by records of their own. -/
def IsOrphan : Orphan → Prop
  | .id key => Single tracking key ∧ ¬ Occurs risks key
  | .pattern key => Pattern tracking key ∧
      ∀ id, Occurs risks id → Text.wildcardMatches key id = true → Single tracking id

/-- The record of a key decides about an id: it is about just this id, or there is no such record
and the key is the first pattern that matches. -/
inductive Decides : String → String → TrackingRecord → Prop where
  | single {id : String} {record : TrackingRecord} (hget : tracking.get? id = some record)
    (hid : Text.hasWildcard id = false) : Decides id id record
  | pattern {id key : String} {record : TrackingRecord} (hget : tracking.get? key = some record)
    (hkey : Text.hasWildcard key = true) (hopen : ¬ Single tracking id)
    (hmatch : Text.wildcardMatches key id = true)
    (hfirst : ∀ k < key, Pattern tracking k → Text.wildcardMatches k id = false) :
    Decides id key record

/-- The status that a risk should have. -/
inductive HasStatus (r : Risk) : RiskStatus → Prop where
  | decided {key : String} {record : TrackingRecord}
    (h : Decides tracking (trackedId r) key record) : HasStatus r record.status
  | undecided (h : ∀ key record, ¬ Decides tracking (trackedId r) key record) :
    HasStatus r .unchecked

/-- Single ids come before patterns, and otherwise keys are in order. -/
def Before : Orphan → Orphan → Prop
  | .id k, .id k' => k < k'
  | .id _, .pattern _ => True
  | .pattern _, .id _ => False
  | .pattern k, .pattern k' => k < k'

/-- Risks have been reconciled: nothing but statuses has changed, and these are right; it is known
which key decided about which id, and which keys are orphans. -/
structure Reconciles (d : Decisions) (risks' : List Risk) : Prop where
  statuses : List.Forall₂ (fun r r' => ∃ s, HasStatus tracking r s ∧ r' = { r with status := s })
    risks risks'
  applied : ∀ id key, d.applied.get? id = some key ↔
    Occurs risks id ∧ ∃ record, Decides tracking id key record
  orphans : ∃ os : List Orphan, (∀ o, o ∈ os ↔ IsOrphan tracking risks o) ∧ os.Pairwise Before ∧
    d.orphans = os.map (·.key)

end Specification

/-! ## Entries of checked records -/

section Canonical

variable {tracking : Dict TrackingRecord} {risks : List Risk}

/-- Keys are in lower case, and records are about their keys, as validation leaves them. -/
def Canonical (tracking : Dict TrackingRecord) : Prop :=
  ∀ e ∈ tracking.entries, Text.lower e.1 = e.1 ∧ e.2.syntheticRiskId = e.1

theorem Canonical.entries_eq (h : Canonical tracking) : entries tracking = tracking.entries := by
  rw [entries, List.map_congr_left fun e he => by rw [(h e he).1], List.map_id']

theorem Canonical.isWildcard (h : Canonical tracking) {e : String × TrackingRecord}
    (he : e ∈ tracking.entries) : e.2.isWildcard = Text.hasWildcard e.1 := by
  rw [TrackingRecord.isWildcard, (h e he).2]

theorem Canonical.mem_direct (h : Canonical tracking) {e : String × TrackingRecord} :
    e ∈ direct tracking ↔ tracking.get? e.1 = some e.2 ∧ Text.hasWildcard e.1 = false := by
  rw [direct, h.entries_eq, List.mem_filter, Dict.get?_eq_some_iff]
  refine and_congr_right fun he => ?_
  rw [h.isWildcard he, Bool.not_eq_true']

theorem Canonical.mem_wildcards (h : Canonical tracking) {e : String × TrackingRecord} :
    e ∈ wildcards tracking ↔ tracking.get? e.1 = some e.2 ∧ Text.hasWildcard e.1 = true := by
  rw [wildcards, h.entries_eq, List.mem_filter, Dict.get?_eq_some_iff]
  exact and_congr_right fun he => by rw [h.isWildcard he]

theorem Canonical.pairwise_direct (h : Canonical tracking) :
    (direct tracking).Pairwise (·.1 < ·.1) := by
  rw [direct, h.entries_eq]
  exact tracking.sorted.sublist List.filter_sublist

theorem Canonical.pairwise_wildcards (h : Canonical tracking) :
    (wildcards tracking).Pairwise (·.1 < ·.1) := by
  rw [wildcards, h.entries_eq]
  exact tracking.sorted.sublist List.filter_sublist

/-- Keys of one kind are the keys of the entries of that kind. -/
theorem exists_entry_iff {l : List (String × TrackingRecord)} {wildcard : Bool} {key : String}
    (hl : ∀ e, e ∈ l ↔ tracking.get? e.1 = some e.2 ∧ Text.hasWildcard e.1 = wildcard) :
    (tracking.contains key = true ∧ Text.hasWildcard key = wildcard) ↔ ∃ e ∈ l, e.1 = key := by
  rw [Dict.contains_eq_true_iff]
  constructor
  · rintro ⟨⟨record, hget⟩, hkind⟩
    exact ⟨(key, record), (hl _).2 ⟨hget, hkind⟩, rfl⟩
  · rintro ⟨e, he, rfl⟩
    obtain ⟨hget, hkind⟩ := (hl e).1 he
    exact ⟨⟨e.2, hget⟩, hkind⟩

theorem Canonical.single_iff (h : Canonical tracking) {id : String} :
    Single tracking id ↔ ∃ e ∈ direct tracking, e.1 = id :=
  exists_entry_iff fun _ => h.mem_direct

theorem Canonical.pattern_iff (h : Canonical tracking) {key : String} :
    Pattern tracking key ↔ ∃ e ∈ wildcards tracking, e.1 = key :=
  exists_entry_iff fun _ => h.mem_wildcards

/-- The first entry with a property, in entries that are sorted by key. -/
theorem find?_eq_some_iff_of_sorted {l : List (String × TrackingRecord)}
    (hl : l.Pairwise (·.1 < ·.1)) {p : String × TrackingRecord → Bool}
    {e : String × TrackingRecord} :
    l.find? p = some e ↔ e ∈ l ∧ p e = true ∧ ∀ e' ∈ l, e'.1 < e.1 → p e' = false := by
  induction l with
  | nil => simp
  | cons x l ih =>
    rw [List.pairwise_cons] at hl
    rw [List.find?_cons]
    cases hx : p x with
    | true =>
      simp only [Option.some.injEq]
      constructor
      · rintro rfl
        refine ⟨List.mem_cons_self .., hx, fun e' he' hlt => ?_⟩
        rcases List.mem_cons.1 he' with rfl | he'
        · exact absurd hlt (String.lt_irrefl _)
        · exact absurd hlt (String.lt_asymm (hl.1 e' he'))
      · rintro ⟨he, -, hfirst⟩
        rcases List.mem_cons.1 he with rfl | he
        · rfl
        · have := hfirst x (List.mem_cons_self ..) (hl.1 e he)
          rw [hx] at this
          cases this
    | false =>
      simp only [ih hl.2, List.mem_cons, forall_eq_or_imp]
      constructor
      · rintro ⟨he, hp, hfirst⟩
        exact ⟨.inr he, hp, fun _ => hx, hfirst⟩
      · rintro ⟨rfl | he, hp, -, hfirst⟩
        · rw [hx] at hp
          cases hp
        · exact ⟨he, hp, hfirst⟩

/-- Keys differ, so the last direct entry about an id is the only one. -/
theorem Canonical.find?_direct_eq_some_iff (h : Canonical tracking) {id : String}
    {e : String × TrackingRecord} :
    (direct tracking).reverse.find? (·.1 = id) = some e ↔ e ∈ direct tracking ∧ e.1 = id := by
  constructor
  · intro hfound
    exact ⟨List.mem_reverse.1 (List.mem_of_find?_eq_some hfound),
      by simpa using List.find?_some hfound⟩
  · rintro ⟨he, rfl⟩
    obtain ⟨e', hfound⟩ : ∃ e', (direct tracking).reverse.find? (·.1 = e.1) = some e' := by
      rw [← Option.isSome_iff_exists, List.find?_isSome]
      exact ⟨e, List.mem_reverse.2 he, by simp⟩
    have he' : e' ∈ direct tracking := List.mem_reverse.1 (List.mem_of_find?_eq_some hfound)
    have hkey : e'.1 = e.1 := by simpa using List.find?_some hfound
    have hrecord : e'.2 = e.2 := by
      have hget := (h.mem_direct.1 he').1
      rw [hkey, (h.mem_direct.1 he).1, Option.some.injEq] at hget
      exact hget.symm
    rw [hfound, Prod.ext hkey hrecord]

theorem Canonical.find?_direct_eq_none_iff (h : Canonical tracking) {id : String} :
    (direct tracking).reverse.find? (·.1 = id) = none ↔ ¬ Single tracking id := by
  rw [h.single_iff, List.find?_eq_none]
  simp only [List.mem_reverse, decide_eq_true_eq, not_exists, not_and]

/-- The entry that decides is the one that should. -/
theorem Canonical.entryFor_eq_some_iff (h : Canonical tracking) {id key : String}
    {record : TrackingRecord} :
    entryFor tracking id = some (key, record) ↔ Decides tracking id key record := by
  rw [entryFor]
  constructor
  · intro hfound
    cases hdirect : (direct tracking).reverse.find? (·.1 = id) with
    | some e =>
      rw [hdirect, Option.some_or, Option.some.injEq] at hfound
      subst hfound
      obtain ⟨he, hid⟩ := h.find?_direct_eq_some_iff.1 hdirect
      obtain rfl : key = id := hid
      exact .single (h.mem_direct.1 he).1 (h.mem_direct.1 he).2
    | none =>
      rw [hdirect, Option.none_or, find?_eq_some_iff_of_sorted h.pairwise_wildcards] at hfound
      obtain ⟨he, hmatch, hfirst⟩ := hfound
      refine .pattern (h.mem_wildcards.1 he).1 (h.mem_wildcards.1 he).2
        (h.find?_direct_eq_none_iff.1 hdirect) hmatch fun k hk hpattern => ?_
      obtain ⟨e, he, rfl⟩ := h.pattern_iff.1 hpattern
      exact hfirst e he hk
  · rintro (⟨hget, hid⟩ | ⟨hget, hkey, hopen, hmatch, hfirst⟩)
    · have he : (id, record) ∈ direct tracking := h.mem_direct.2 ⟨hget, hid⟩
      rw [h.find?_direct_eq_some_iff.2 ⟨he, rfl⟩, Option.some_or]
    · rw [h.find?_direct_eq_none_iff.2 hopen, Option.none_or,
        find?_eq_some_iff_of_sorted h.pairwise_wildcards]
      exact ⟨h.mem_wildcards.2 ⟨hget, hkey⟩, hmatch, fun e he hlt =>
        hfirst e.1 hlt (h.pattern_iff.2 ⟨e, he, rfl⟩)⟩

theorem Canonical.hasStatus (h : Canonical tracking) (r : Risk) :
    HasStatus tracking r (statusOf tracking r) := by
  rw [statusOf]
  cases hentry : entryFor tracking (trackedId r) with
  | some e => exact .decided (h.entryFor_eq_some_iff.1 hentry)
  | none =>
    refine .undecided fun key record hdecides => ?_
    rw [h.entryFor_eq_some_iff.2 hdecides] at hentry
    cases hentry

theorem Canonical.mem_orphans_iff (h : Canonical tracking) {o : Orphan} :
    o ∈ orphans tracking (riskIds risks) ↔ IsOrphan tracking risks o := by
  rw [orphans, List.mem_append, List.mem_map, List.mem_map]
  cases o with
  | id key =>
    simp only [List.mem_filter, Bool.not_eq_true', List.contains_eq_mem, decide_eq_false_iff_not,
      mem_riskIds, Orphan.id.injEq, reduceCtorEq, and_false, exists_false, or_false, IsOrphan,
      h.single_iff]
    constructor
    · rintro ⟨e, ⟨he, hfree⟩, rfl⟩
      exact ⟨⟨e, he, rfl⟩, hfree⟩
    · rintro ⟨⟨e, he, rfl⟩, hfree⟩
      exact ⟨e, ⟨he, hfree⟩, rfl⟩
  | pattern key =>
    -- Ids with a record of their own are not open, so a match with one of them does not count.
    have hfree (e : String × TrackingRecord) :
        (openIds tracking (riskIds risks)).any (Text.wildcardMatches e.1) = false ↔
          ∀ id, Occurs risks id → Text.wildcardMatches e.1 id = true → Single tracking id := by
      simp only [List.any_eq_false, mem_openIds, mem_riskIds, h.find?_direct_eq_none_iff, and_imp]
      exact forall_congr' fun id => ⟨fun hid hocc hm => by_contra fun hs => hid hocc hs hm,
        fun hid hocc hs hm => hs (hid hocc hm)⟩
    simp only [List.mem_filter, Bool.not_eq_true', hfree, Orphan.pattern.injEq, reduceCtorEq,
      and_false, exists_false, false_or, IsOrphan, h.pattern_iff]
    constructor
    · rintro ⟨e, ⟨he, hfree⟩, rfl⟩
      exact ⟨⟨e, he, rfl⟩, hfree⟩
    · rintro ⟨⟨e, he, rfl⟩, hfree⟩
      exact ⟨e, ⟨he, hfree⟩, rfl⟩

theorem Canonical.pairwise_orphans (h : Canonical tracking) (ids : List String) :
    (orphans tracking ids).Pairwise Before := by
  refine List.pairwise_append.2 ⟨?_, ?_, ?_⟩
  · exact List.pairwise_map.2 (h.pairwise_direct.sublist List.filter_sublist)
  · exact List.pairwise_map.2 (h.pairwise_wildcards.sublist List.filter_sublist)
  · intro o ho o' ho'
    obtain ⟨e, -, rfl⟩ := List.mem_map.1 ho
    obtain ⟨e', -, rfl⟩ := List.mem_map.1 ho'
    trivial

/-- The orphan that ends a run is the head of a list that is in order. -/
theorem Canonical.isOrphan_of_orphans_eq_cons (h : Canonical tracking) {o : Orphan}
    {os : List Orphan} (hos : orphans tracking (riskIds risks) = o :: os) :
    IsOrphan tracking risks o ∧ ∀ o', IsOrphan tracking risks o' → o' = o ∨ Before o o' := by
  refine ⟨h.mem_orphans_iff.1 (hos ▸ List.mem_cons_self ..), fun o' ho' => ?_⟩
  have hsorted := h.pairwise_orphans (riskIds risks)
  rw [hos, List.pairwise_cons] at hsorted
  have ho' := h.mem_orphans_iff.2 ho'
  rw [hos, List.mem_cons] at ho'
  exact ho'.imp_right (hsorted.1 o')

theorem Canonical.orphans_eq_nil_iff (h : Canonical tracking) :
    orphans tracking (riskIds risks) = [] ↔ ∀ o, ¬ IsOrphan tracking risks o := by
  simp only [List.eq_nil_iff_forall_not_mem, h.mem_orphans_iff]

end Canonical

/-- Reconciliation in place ends with the first orphan and all risks as they were, or it gives every
risk the status that the records call for. -/
theorem update_spec (risks : List Risk) (tracking : Dict TrackingRecord) (ignore : Bool)
    (h : Canonical tracking) :
    (ignore = false → (∃ o, IsOrphan tracking risks o) →
      ∃ o, IsOrphan tracking risks o ∧ (∀ o', IsOrphan tracking risks o' → o' = o ∨ Before o o') ∧
        (update tracking ignore).run.run risks = (.error o, risks)) ∧
    ((ignore = true ∨ ∀ o, ¬ IsOrphan tracking risks o) →
      ∃ d risks', (update tracking ignore).run.run risks = (.ok d, risks') ∧
        Reconciles tracking risks d risks') := by
  rcases update_cases risks tracking ignore with
    ⟨hignore, o, os, hos, hrun⟩ | ⟨hfree, d, hrun, horphans, happlied⟩
  · obtain ⟨hmem, hfirst⟩ := h.isOrphan_of_orphans_eq_cons hos
    refine ⟨fun _ _ => ⟨o, hmem, hfirst, hrun⟩, ?_⟩
    · rintro (htrue | hnone)
      · rw [hignore] at htrue
        cases htrue
      · exact absurd hmem (hnone o)
  · constructor
    · rintro hignore ⟨o, ho⟩
      rcases hfree with htrue | hnone
      · rw [hignore] at htrue
        cases htrue
      · have := h.mem_orphans_iff.2 ho
        rw [hnone] at this
        cases this
    · refine fun _ => ⟨d, _, hrun, ?_, fun id key => ?_, ?_⟩
      · exact List.forall₂_map_right_iff.2 (List.forall₂_same.2 fun r _ => ⟨_, h.hasStatus r, rfl⟩)
      · rw [happlied, Occurs, ← mem_riskIds]
        by_cases hid : id ∈ riskIds risks
        · simp [hid, h.entryFor_eq_some_iff]
        · simp [hid]
      · exact ⟨_, fun o => h.mem_orphans_iff, h.pairwise_orphans _, horphans⟩

/-- One record about a risk, one about a risk that was found earlier, and a pattern. -/
def ledger : Dict TrackingRecord :=
  .ofList ([("xss@shop", .mitigated), ("sqli@shop", .accepted), ("xss@*", .inDiscussion)].map
    fun e => (e.1, ⟨e.1, "", "", "", e.2, none⟩))

/-- Two findings, written with capitals in one case. -/
def findings : List Risk :=
  ["XSS@Shop", "xss@store"].map fun id =>
    { Risk.new "xss" .likely .medium "Cross-Site Scripting" with syntheticId := id }

theorem update_spec_ledger :
    (∃ o, IsOrphan ledger findings o ∧
        (∀ o', IsOrphan ledger findings o' → o' = o ∨ Before o o') ∧
        (update ledger false).run.run findings = (.error o, findings)) ∧
      ∃ d risks, (update ledger true).run.run findings = (.ok d, risks) ∧
        Reconciles ledger findings d risks := by
  have hledger : Canonical ledger := by
    unfold Canonical
    decide +kernel
  have horphan : IsOrphan ledger findings (.id "sqli@shop") :=
    ⟨by decide +kernel, by decide +kernel⟩
  exact ⟨(update_spec findings ledger false hledger).1 rfl ⟨_, horphan⟩,
    (update_spec findings ledger true hledger).2 (.inl rfl)⟩

end Reconciliation

end ThreatModel
