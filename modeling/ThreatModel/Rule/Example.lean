import ThreatModel.Rule.Finding

/-!
# Examples

A rule about the model as a whole names one asset as an example. The search goes through candidates and
keeps an impact, low at first: as long as it is low each candidate replaces the one before, and it
rises to medium with the first sensitive candidate. At any time a more sensitive asset takes the place.
-/

namespace ThreatModel

/-- How far the search for an example has come. -/
structure Example where
  asset : Option TechnicalAsset
  impact : Impact

namespace Example

/-- Nothing has been looked at. -/
def start : Example := ⟨none, .low⟩

/-- The example if its asset is at least as sensitive, else with a rival in its place. -/
def challenge (e : Example) (rival : TechnicalAsset) : Example :=
  match e.asset with
  | none => { e with asset := some rival }
  | some current => if current.sensitivity < rival.sensitivity then { e with asset := some rival } else e

/-- Takes a candidate into account, and then a rival of which only the sensitivity counts. -/
def consider (e : Example) (m : Model) (candidate rival : TechnicalAsset) : Example :=
  let e := if e.impact = .low then
      { asset := some candidate, impact := if (candidate.rating m).isHigh then .medium else .low }
    else e
  let e := if candidate.ownRating.isHigh then { e with impact := .medium } else e
  e.challenge rival

/-- The first of the most sensitive assets of a list. -/
def mostSensitive (assets : List TechnicalAsset) : Option TechnicalAsset :=
  (assets.foldl challenge start).asset

/-- The finding that names the example. -/
def finding (e : Example) (c : Category) (what : String) : List Risk :=
  (e.asset.map fun a =>
    c.finding .unlikely e.impact (what ++ " (referencing asset " ++ a.title ++ " as an example)")
      |>.onAsset a |>.withBreach .improbable [] |>.identifiedBy [a.id]).toList

end Example

end ThreatModel
