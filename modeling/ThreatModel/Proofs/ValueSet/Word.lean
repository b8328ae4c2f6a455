import Mathlib.Data.List.Nodup
import ThreatModel.ValueSet.Asset
import ThreatModel.ValueSet.Boundary
import ThreatModel.ValueSet.Link
import ThreatModel.ValueSet.Protocol
import ThreatModel.ValueSet.Rating
import ThreatModel.ValueSet.Risk
import ThreatModel.ValueSet.Technology

/-!
# Words tell values apart

A value set lists all values of its type, and no word stands for two of them (`ValueSet.Lawful`). So
the word of a value is read as the value.
-/

namespace ThreatModel

/-- A value set that lists all values, each with a word of its own. -/
class ValueSet.Lawful (α : Type) [ValueSet α] : Prop where
  mem_all : ∀ v : α, v ∈ (ValueSet.all : List α)
  nodup_words : ((ValueSet.all : List α).map ValueSet.word).Nodup

namespace ValueSet

variable {α : Type} [ValueSet α] [Lawful α]

theorem word_injective {v w : α} (h : word v = word w) : v = w :=
  List.inj_on_of_nodup_map Lawful.nodup_words (Lawful.mem_all v) (Lawful.mem_all w) h

/-- The word of a value is read as the value. -/
@[simp] theorem ofWord?_word (v : α) : ofWord? (word v) = some v := by
  obtain ⟨w, hw⟩ := Option.isSome_iff_exists.1 (ofWord?_isSome (Lawful.mem_all v))
  rw [hw, word_injective (word_of_ofWord? hw)]

instance : Lawful Quantity := ⟨Quantity.mem_all, by decide⟩
instance : Lawful Confidentiality := ⟨Confidentiality.mem_all, by decide⟩
instance : Lawful Criticality := ⟨Criticality.mem_all, by decide⟩
instance : Lawful Technology := ⟨Technology.mem_all, by decide +kernel⟩
instance : Lawful BoundaryKind := ⟨BoundaryKind.mem_all, by decide⟩
instance : Lawful AssetKind := ⟨AssetKind.mem_all, by decide⟩
instance : Lawful AssetSize := ⟨AssetSize.mem_all, by decide⟩
instance : Lawful Machine := ⟨Machine.mem_all, by decide⟩
instance : Lawful Encryption := ⟨Encryption.mem_all, by decide⟩
instance : Lawful Usage := ⟨Usage.mem_all, by decide⟩
instance : Lawful DataFormat := ⟨DataFormat.mem_all, by decide⟩
instance : Lawful Authentication := ⟨Authentication.mem_all, by decide⟩
instance : Lawful Authorization := ⟨Authorization.mem_all, by decide⟩
instance : Lawful BreachProbability := ⟨BreachProbability.mem_all, by decide⟩
instance : Lawful Severity := ⟨Severity.mem_all, by decide⟩
instance : Lawful Likelihood := ⟨Likelihood.mem_all, by decide⟩
instance : Lawful Impact := ⟨Impact.mem_all, by decide⟩
instance : Lawful Responsibility := ⟨Responsibility.mem_all, by decide⟩
instance : Lawful Stride := ⟨Stride.mem_all, by decide⟩
instance : Lawful RiskStatus := ⟨RiskStatus.mem_all, by decide⟩
instance : Lawful Protocol := ⟨Protocol.mem_all, by decide +kernel⟩

end ValueSet

end ThreatModel
