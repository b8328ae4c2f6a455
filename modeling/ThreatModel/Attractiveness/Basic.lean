import ThreatModel.Model.Protection

/-!
# Attractiveness

How attractive a technical asset is for attackers follows from its own ratings, from the data that it
holds and transfers and from what it is. The scores are relative to the least and the most attractive
asset of the model, in percent, and an asset with links to more attractive ones gets a share of the
difference. The calculation is written for any number type, so that it can be run on `Float` and
reasoned about on `Rat`.
-/

namespace ThreatModel

/-- A type of numbers to calculate scores with. -/
class Scalar (ν : Type) extends Add ν, Sub ν, Mul ν, Div ν where
  ofNat : Nat → ν
  less : ν → ν → Bool
  atMost : ν → ν → Bool

instance : Scalar Float where
  ofNat := Float.ofNat
  less a b := a < b
  atMost a b := a ≤ b

instance : Scalar Rat where
  ofNat n := n
  less a b := decide (a < b)
  atMost a b := decide (a ≤ b)

namespace Attractiveness

variable {ν : Type} [Scalar ν]

open Scalar

/-- The smaller of two numbers. -/
def least (a b : ν) : ν := if less a b then a else b

/-- The greater of two numbers. -/
def greatest (a b : ν) : ν := if less a b then b else a

/-- Whether a number is a percentage. -/
def isPercentage (v : ν) : Bool := atMost (ofNat 0) v && atMost v (ofNat 100)

/-! ## The attractiveness of an asset by itself -/

/-- The weight of a data asset that is held. -/
def heldWeight (d : DataAsset) : Nat :=
  d.confidentiality.attractionOfHeldData * d.quantity.factor +
    d.integrity.attractionOfHeldData * d.quantity.factor + d.availability.attractionOfHeldData

/-- The weight of a data asset that is transferred. -/
def transferredWeight (d : DataAsset) : Nat :=
  d.confidentiality.attractionOfTransferredData * d.quantity.factor +
    d.integrity.attractionOfTransferredData * d.quantity.factor +
    d.availability.attractionOfTransferredData

/-- The weight of an asset with its data. -/
def weight (m : Model) (a : TechnicalAsset) : Nat :=
  let held := (m.dataOf a.heldData).foldl (fun n d => n + heldWeight d) a.sensitivity
  (m.dataOf (a.links.flatMap (·.data))).foldl (fun n d => n + transferredWeight d) held

/-- Whether a technology keeps identities, which is a factor of its own. -/
def keepsIdentities : Technology → Bool
  | .identityProvider | .identityStoreDatabase | .identityStoreLdap => true
  | _ => false

/-- The factor of a technology. -/
def technologyFactor : Technology → ν
  | .loadBalancer | .reverseProxy => ofNat 1 / (ofNat 11 / ofNat 2)
  | .monitoring => ofNat 1 / ofNat 5
  | .containerPlatform => ofNat 5
  | .vault | .buildPipeline | .sourcecodeRepository | .artifactRegistry => ofNat 2
  | .identityProvider | .identityStoreDatabase | .identityStoreLdap => ofNat 5 / ofNat 2
  | _ => ofNat 1

/-- The factor of an asset: datastores count twice, if they do not keep identities, and assets of
several tenants one and a half times. -/
def factor (a : TechnicalAsset) : ν :=
  let f : ν := technologyFactor a.technology
  let f := if a.kind = .datastore && !keepsIdentities a.technology then f * ofNat 2 else f
  if a.multiTenant then f * (ofNat 3 / ofNat 2) else f

/-- The attractiveness of an asset by itself, none if it is out of scope. -/
def own (m : Model) (a : TechnicalAsset) : ν :=
  if a.outOfScope then ofNat 0 else ofNat (weight m a) * factor a

/-- The attractiveness of all assets by their ids. -/
def owns (m : Model) : Dict ν := .ofList (m.technicalAssets.values.map fun a => (a.id, own m a))

/-! ## Relative attractiveness -/

/-- The range of values that is mapped to percents. -/
structure Scale (ν : Type) where
  lowest : ν
  spread : ν

namespace Scale

/-- The range of some values; values that are all the same have the spread one. -/
def spanning : List ν → Scale ν
  | [] => ⟨ofNat 0, ofNat 1⟩
  | v :: vs =>
    let low := vs.foldl least v
    let high := vs.foldl greatest v
    if less low high then ⟨low, high - low⟩ else ⟨low, ofNat 1⟩

/-- The place of a value in a range in percent, which is one at the lower end. -/
def relative (s : Scale ν) (v : ν) : ν :=
  let percent := (v - s.lowest) / s.spread * ofNat 100
  if less (ofNat 0) percent then percent else ofNat 1

end Scale

/-- A third of the greatest gain over the links of an asset that has a value by itself. -/
def pivot (owns : Dict ν) (s : Scale ν) (a : TechnicalAsset) (value : ν) : ν :=
  let gains := (a.links.filterMap fun l => owns.get? l.targetId).map fun target =>
    (s.relative target - s.relative value) / ofNat 3
  (gains.filter (less (ofNat 0) ·)).foldl greatest (ofNat 0)

/-- The score of an asset in percent. -/
def score (owns : Dict ν) (s : Scale ν) (a : TechnicalAsset) : ν :=
  let value := (owns.get? a.id).getD (ofNat 0)
  let bonus := if a.outOfScope then ofNat 0 else pivot owns s a value
  least (s.relative (value + bonus)) (ofNat 100)

/-- The scores of all assets. -/
def scores (m : Model) : Dict ν :=
  let owns : Dict ν := owns m
  let scale := Scale.spanning owns.values
  .ofList (m.technicalAssets.values.map fun a => (a.id, score owns scale a))

end Attractiveness

end ThreatModel
