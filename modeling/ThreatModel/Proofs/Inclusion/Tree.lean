import Mathlib.Data.List.Basic
import ThreatModel.Inclusion.Basic

/-!
# What model files include

What a file includes is known from the files alone. `Preorder` lists the files on some paths with
all that they include, each file before the files it includes; no file is left out because it was
met before, so there is no such list when files include each other in a circle. `follow` goes from a
file down a route to one that it includes. If no file is listed twice then different routes lead to
different files (`Preorder.route_unique`).
-/

namespace ThreatModel.Inclusion

/-- A file as it is found on a path. -/
structure Part where
  path : String
  /-- The name that all paths to the file share. -/
  key : String
  input : ModelInput

/-- The file that a path leads to, if it can be read. -/
def part? (s : FileStore) (path : String) : Option Part := do
  let key ← s.key? path
  let text ← s.files.get? key
  let input ← ModelInput.parse? text
  return ⟨path, key, input⟩

/-- The paths that a pattern stands for, seen from a directory, in order. -/
def found (s : FileStore) (dir pattern : String) : List String :=
  ((s.expand (Path.join dir pattern)).getD []).mergeSort Path.le

namespace Part

/-- The directory from which the patterns of a file are seen. -/
def dir (p : Part) : String := Path.parent p.path

/-- The paths that a file includes. -/
def included (s : FileStore) (p : Part) : List String := p.input.includes.flatMap (found s p.dir)

/-- Every pattern of a file stands for something. -/
def Matched (s : FileStore) (p : Part) : Prop :=
  ∀ pattern ∈ p.input.includes, found s p.dir pattern ≠ []

end Part

/-- The files on some paths, each followed by what it includes, to any depth. -/
inductive Preorder (s : FileStore) : List String → List Part → Prop
  | nil : Preorder s [] []
  | cons {path : String} {rest : List String} {p : Part} {parts : List Part}
      (hp : part? s path = some p) (h : Preorder s (p.included s ++ rest) parts) :
      Preorder s (path :: rest) (p :: parts)

/-- The path at the end of a route: which of the paths that a file includes to take, which of those
that the file there includes, and so on. -/
def follow (s : FileStore) : String → List Nat → Option String
  | path, [] => some path
  | path, i :: route => do
    let p ← part? s path
    let next ← (p.included s)[i]?
    follow s next route

variable {s : FileStore} {path : String} {paths paths' : List String} {p p' : Part}
  {parts parts' : List Part}

theorem part?_eq_some_iff : part? s path = some p ↔ p.path = path ∧ s.key? path = some p.key ∧
    ∃ text, s.files.get? p.key = some text ∧ ModelInput.parse? text = some p.input := by
  simp only [part?, Option.bind_eq_bind, Option.bind_eq_some_iff, Option.pure_def,
    Option.some.injEq]
  constructor
  · rintro ⟨_, hkey, text, htext, _, hinput, rfl⟩
    exact ⟨rfl, hkey, text, htext, hinput⟩
  · rintro ⟨rfl, hkey, text, htext, hinput⟩
    exact ⟨p.key, hkey, text, htext, p.input, hinput, rfl⟩

/-! ## Lists of files -/

namespace Preorder

theorem append (h : Preorder s paths parts) (h' : Preorder s paths' parts') :
    Preorder s (paths ++ paths') (parts ++ parts') := by
  induction h with
  | nil => exact h'
  | cons hp _ ih =>
    rw [List.append_assoc] at ih
    exact .cons hp ih

/-- The files of some paths come before those of the paths behind. -/
theorem split (h : Preorder s (paths ++ paths') parts) :
    ∃ before after, parts = before ++ after ∧ Preorder s paths before ∧
      Preorder s paths' after := by
  generalize hall : paths ++ paths' = all at h
  -- What the first path includes joins `paths`, which therefore vary along the listing.
  induction h generalizing paths with
  | nil =>
    obtain ⟨rfl, rfl⟩ := List.append_eq_nil_iff.1 hall
    exact ⟨[], [], rfl, .nil, .nil⟩
  | @cons path rest p parts hp h ih =>
    cases paths with
    | nil =>
      obtain rfl : paths' = path :: rest := hall
      exact ⟨[], p :: parts, rfl, .nil, .cons hp h⟩
    | cons first paths =>
      obtain ⟨rfl, rfl⟩ := List.cons_eq_cons.1 hall
      obtain ⟨before, after, rfl, hbefore, hafter⟩ := ih (List.append_assoc ..)
      exact ⟨p :: before, after, rfl, .cons hp hbefore, hafter⟩

theorem unique (h : Preorder s paths parts) (h' : Preorder s paths parts') : parts = parts' := by
  induction h generalizing parts' with
  | nil =>
    cases h'
    rfl
  | cons hp _ ih =>
    cases h' with
    | cons hp' h' =>
      obtain rfl := Option.some.inj (hp.symm.trans hp')
      rw [ih h']

/-! ## Routes to files -/

/-- A route from a list of paths either ends at once at the first path or goes on in the list that
has what is included there in place of it. -/
theorem route_cons {rest : List String} {i : Nat} {first last : String} {route : List Nat}
    (hp : part? s path = some p) (hfirst : (path :: rest)[i]? = some first)
    (hlast : follow s first route = some last) :
    (i = 0 ∧ route = [] ∧ last = path) ∨
      ∃ j route' next, (p.included s ++ rest)[j]? = some next ∧ follow s next route' = some last ∧
        (i = 0 ∧ route = j :: route' ∧ j < (p.included s).length ∨
          j = (p.included s).length + (i - 1) ∧ 0 < i ∧ route = route') := by
  cases i with
  | zero =>
    obtain rfl : path = first := Option.some.inj hfirst
    cases route with
    | nil => exact .inl ⟨rfl, rfl, (Option.some.inj hlast).symm⟩
    | cons j route =>
      simp only [follow, hp, Option.bind_eq_bind, Option.bind_some,
        Option.bind_eq_some_iff] at hlast
      obtain ⟨next, hnext, hlast⟩ := hlast
      obtain ⟨hj, -⟩ := List.getElem?_eq_some_iff.1 hnext
      refine .inr ⟨j, route, next, ?_, hlast, .inl ⟨rfl, rfl, hj⟩⟩
      rwa [List.getElem?_append_left hj]
  | succ i =>
    refine .inr ⟨(p.included s).length + i, route, first, ?_, hlast, .inr ⟨rfl, by omega, rfl⟩⟩
    rw [List.getElem?_append_right (by omega)]
    simpa using hfirst

/-- Where a route ends is a file of the list. -/
theorem mem_of_route (h : Preorder s paths parts) {i : Nat} {first last : String}
    {route : List Nat} (hfirst : paths[i]? = some first)
    (hlast : follow s first route = some last) : ∃ p ∈ parts, part? s last = some p := by
  induction h generalizing i first route with
  | nil => simp at hfirst
  | @cons path rest p parts hp _ ih =>
    rcases route_cons hp hfirst hlast with ⟨-, -, rfl⟩ | ⟨j, route', next, hnext, hlast', -⟩
    · exact ⟨p, List.mem_cons_self .., hp⟩
    · obtain ⟨q, hq, hpart⟩ := ih hnext hlast'
      exact ⟨q, List.mem_cons_of_mem _ hq, hpart⟩

/-- If no file is listed twice, only one route leads to a file. -/
theorem route_unique (h : Preorder s paths parts) (hnodup : (parts.map (·.key)).Nodup) {i i' : Nat}
    {first first' last last' : String} {route route' : List Nat} (hfirst : paths[i]? = some first)
    (hlast : follow s first route = some last) (hfirst' : paths[i']? = some first')
    (hlast' : follow s first' route' = some last') (hp : part? s last = some p)
    (hp' : part? s last' = some p') (hkey : p.key = p'.key) : i = i' ∧ route = route' := by
  induction h generalizing i i' first first' route route' with
  | nil => simp at hfirst
  | @cons path rest q parts hq h ih =>
    rw [List.map_cons, List.nodup_cons] at hnodup
    -- A route that goes on leads to a file behind the first one.
    have hgoesOn {j : Nat} {next : String} {r : List Nat} {end' : String} {x : Part}
        (hnext : (q.included s ++ rest)[j]? = some next) (hend : follow s next r = some end')
        (hx : part? s end' = some x) : x.key ≠ q.key := by
      obtain ⟨y, hy, hpart⟩ := h.mem_of_route hnext hend
      obtain rfl := Option.some.inj (hx.symm.trans hpart)
      exact fun heq => hnodup.1 (heq ▸ List.mem_map_of_mem hy)
    rcases route_cons hq hfirst hlast with ⟨rfl, rfl, rfl⟩ | ⟨j, r, next, hnext, hend, hroute⟩
    · obtain rfl := Option.some.inj (hq.symm.trans hp)
      rcases route_cons hq hfirst' hlast' with ⟨rfl, rfl, -⟩ | ⟨j, r, next, hnext, hend, -⟩
      · exact ⟨rfl, rfl⟩
      · exact absurd hkey.symm (hgoesOn hnext hend hp')
    · rcases route_cons hq hfirst' hlast' with ⟨-, -, rfl⟩ | ⟨j', r', next', hnext', hend', hroute'⟩
      · obtain rfl := Option.some.inj (hq.symm.trans hp')
        exact absurd hkey (hgoesOn hnext hend hp)
      · obtain ⟨rfl, rfl⟩ := ih hnodup.2 hnext hend hnext' hend'
        -- A place below the number of included paths is inside the first file, others behind it.
        rcases hroute with ⟨rfl, rfl, hj⟩ | ⟨hj, hi, rfl⟩ <;>
          rcases hroute' with ⟨rfl, rfl, hj'⟩ | ⟨hj', hi', rfl⟩
        · exact ⟨rfl, rfl⟩
        · omega
        · omega
        · exact ⟨by omega, rfl⟩

end Preorder

end ThreatModel.Inclusion
