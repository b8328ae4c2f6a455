import ThreatModel.Proofs.Model.Neighbours
import ThreatModel.Proofs.Rule.Finding

/-!
# Overload behind a forwarder

An asset that has to be available may be overloaded over a link from another network. In place of a
forwarder its own callers count: the link between the forwarder and the asset is not looked at. So an
asset is passed over although it is reached from another network if only forwarders reach it from there
and none of these, nor any other forwarder in front of it, is itself reached in such a way
(`Shielded`). That is all that is passed over.
-/

namespace ThreatModel

namespace BuiltinRule

variable {m : Model} {a : TechnicalAsset} {r : Risk}

/-- Only forwarders may overload an asset over their links, and nothing may overload a forwarder that
has a link to the asset. -/
structure Shielded (m : Model) (a : TechnicalAsset) : Prop where
  relayed : ∀ s ∈ m.technicalAssets.values, ∀ l ∈ s.links, l.targetId = a.id →
    isOverloading m l → s.technology.isTrafficForwarding
  quiet : ∀ s ∈ m.technicalAssets.values, s.technology.isTrafficForwarding →
    (∃ l ∈ s.links, l.targetId = a.id) →
      ∀ c ∈ m.technicalAssets.values, ∀ l ∈ c.links, l.targetId = s.id → ¬isOverloading m l

theorem overloads_eq_nil_iff (hm : m.Coherent) : overloads m a = [] ↔ Shielded m a := by
  rw [overloads, List.flatMap_eq_nil_iff]
  constructor
  · intro h
    constructor
    · intro s hs l hl htarget hover
      have hx := h ⟨l, s⟩ (hm.mem_accesses_iff.2 ⟨hs, hl, htarget⟩)
      by_contra hforwards
      rw [if_neg hforwards, if_pos hover] at hx
      exact List.cons_ne_nil _ _ hx
    · intro s hs hforwards ⟨l, hl, htarget⟩ c hc k hk hto
      have hx := h ⟨l, s⟩ (hm.mem_accesses_iff.2 ⟨hs, hl, htarget⟩)
      rw [if_pos hforwards, List.map_eq_nil_iff, List.filter_eq_nil_iff] at hx
      exact hx ⟨k, c⟩ (hm.mem_accesses_iff.2 ⟨hc, hk, hto⟩)
  · intro h x hx
    obtain ⟨hs, hl, htarget⟩ := hm.mem_accesses hx
    split
    · next hforwards =>
      rw [List.map_eq_nil_iff, List.filter_eq_nil_iff]
      intro y hy
      obtain ⟨hc, hk, hto⟩ := hm.mem_accesses hy
      exact h.quiet _ hs hforwards ⟨_, hl, htarget⟩ _ hc _ hk hto
    · next hforwards => exact if_neg fun hover => hforwards (h.relayed _ hs _ hl htarget hover)

theorem technicalAsset_of_mem_overloads (hr : r ∈ overloads m a) : r.technicalAsset = some a.id := by
  obtain ⟨x, -, hr⟩ := List.mem_flatMap.1 hr
  split at hr
  · obtain ⟨y, -, rfl⟩ := List.mem_map.1 hr
    rfl
  · split at hr
    · rw [List.mem_singleton.1 hr]
      rfl
    · cases hr

theorem exists_dosRiskyAccess_iff (hm : m.Coherent) (ha : a ∈ m.technicalAssets.values) :
    (∃ r ∈ dosRiskyAccessAcrossTrustBoundary.findings m, r.technicalAsset = some a.id) ↔
      a ∈ m.inScope ∧ a.technology ≠ .loadBalancer ∧ .critical ≤ a.availability ∧
        ¬Shielded m a := by
  rw [← overloads_eq_nil_iff hm]
  simp only [dosRiskyAccessAcrossTrustBoundary, List.mem_flatMap, List.mem_filter, Bool.and_eq_true,
    decide_eq_true_eq]
  constructor
  · rintro ⟨r, ⟨b, ⟨hb, hkind, havailability⟩, hr⟩, hasset⟩
    have hid : b.id = a.id :=
      Option.some.inj ((technicalAsset_of_mem_overloads hr).symm.trans hasset)
    obtain rfl := hm.technicalAssets.eq_of_id (mem_values_of_inScope hb) ha hid
    exact ⟨hb, hkind, havailability, List.ne_nil_of_mem hr⟩
  · rintro ⟨hscope, hkind, havailability, hsome⟩
    obtain ⟨r, hr⟩ := List.exists_mem_of_ne_nil _ hsome
    exact ⟨r, ⟨a, ⟨hscope, hkind, havailability⟩, hr⟩, technicalAsset_of_mem_overloads hr⟩

/-- An asset that has to be available is reported unless it is shielded, above all if something other
than a forwarder may overload it. -/
theorem dosRiskyAccess_reports {m : Model} (h : m.Accepted) :
    (∀ a ∈ m.technicalAssets.values,
      (∃ r ∈ dosRiskyAccessAcrossTrustBoundary.findings m, r.technicalAsset = some a.id) ↔
        a ∈ m.inScope ∧ a.technology ≠ .loadBalancer ∧ .critical ≤ a.availability ∧
          ¬Shielded m a) ∧
    ∀ a ∈ m.inScope, a.technology ≠ .loadBalancer → .critical ≤ a.availability →
      ∀ s ∈ m.technicalAssets.values, ∀ l ∈ s.links, l.targetId = a.id → isOverloading m l →
        ¬s.technology.isTrafficForwarding →
          ∃ r ∈ dosRiskyAccessAcrossTrustBoundary.findings m, r.technicalAsset = some a.id := by
  refine ⟨fun a ha => exists_dosRiskyAccess_iff h.coherent ha, ?_⟩
  intro a ha hkind havailability s hs l hl htarget hover hforwards
  refine (exists_dosRiskyAccess_iff h.coherent (mem_values_of_inScope ha)).2
    ⟨ha, hkind, havailability, fun hshielded => ?_⟩
  exact hforwards (hshielded.relayed s hs l hl htarget hover)

/-- Two services that have to be available: a client calls one through a load balancer, a partner sends
jobs to the other, which lies in a network with some more assets. -/
def balancedShop (inside : List String) : ModelInput :=
  let asset (id technology availability : String) (links : List (String × LinkInput)) :
      TechnicalAssetInput :=
    { id := id, kind := "process", usage := "business", size := "service", technology := technology
      machine := "virtual", encryption := "none", confidentiality := "public", integrity := "archive"
      availability := availability, links := .ofList links }
  let link (target : String) : LinkInput :=
    { target := target, protocol := "https", authentication := "none", authorization := "none"
      usage := "business" }
  { title := "Balanced shop"
    businessCriticality := "important"
    technicalAssets := .ofList [("Api", asset "api" "web-service-rest" "critical" []),
      ("Balancer", asset "lb" "load-balancer" "archive" [("Forward", link "api")]),
      ("Client", asset "client" "browser" "archive" [("Call", link "lb")]),
      ("Jobs", asset "jobs" "web-service-rest" "critical" []),
      ("Partner", asset "partner" "web-application" "archive" [("Submit", link "jobs")])]
    trustBoundaries := .ofList [("Inner",
      { id := "inner", kind := "network-cloud-security-group", assetsInside := "jobs" :: inside })] }

/-- With the load balancer in the network, both services are reported. -/
theorem balancedShop_reported :
    ∃ m, Validation.build ⟨2024, 3, 1⟩ (balancedShop ["api", "lb"]) = .ok m ∧
      ∀ id ∈ ["api", "jobs"],
        ∃ r ∈ dosRiskyAccessAcrossTrustBoundary.findings m, r.technicalAsset = some id := by
  have hchecked : (Validation.build ⟨2024, 3, 1⟩ (balancedShop ["api", "lb"])).toOption.map (fun m =>
      decide (
        (∃ a ∈ m.inScope, a.id = "api" ∧ a.technology ≠ .loadBalancer ∧ .critical ≤ a.availability ∧
          ∃ s ∈ m.technicalAssets.values, s.technology.isTrafficForwarding ∧
            (∃ l ∈ s.links, l.targetId = a.id) ∧
            ∃ c ∈ m.technicalAssets.values, ∃ l ∈ c.links, l.targetId = s.id ∧ isOverloading m l) ∧
        ∃ a ∈ m.inScope, a.id = "jobs" ∧ a.technology ≠ .loadBalancer ∧ .critical ≤ a.availability ∧
          ∃ s ∈ m.technicalAssets.values, ∃ l ∈ s.links, l.targetId = a.id ∧ isOverloading m l ∧
            ¬s.technology.isTrafficForwarding)) = some true := by
    decide +kernel
  obtain ⟨m, hm, hchecked⟩ := Model.exists_of_build hchecked
  obtain ⟨⟨api, hapi, hid, hkind, havailability, lb, hlb, hforwards, hlink, client, hclient, call, hcall,
    hto, hover⟩, jobs, hjobs, hid', hkind', havailability', s, hs, submit, hsubmit, hto', hover',
    hdirect⟩ := of_decide_eq_true hchecked
  obtain ⟨hreported, hdirectly⟩ := dosRiskyAccess_reports (.of_build hm)
  refine ⟨m, hm, ?_⟩
  simp only [List.forall_mem_cons, List.not_mem_nil, false_implies, implies_true, and_true]
  constructor
  · rw [← hid]
    refine (hreported api (mem_values_of_inScope hapi)).2
      ⟨hapi, hkind, havailability, fun hshielded => ?_⟩
    exact hshielded.quiet lb hlb hforwards hlink client hclient call hcall hto hover
  · rw [← hid']
    exact hdirectly jobs hjobs hkind' havailability' s hs submit hsubmit hto' hover' hdirect

/-- With the load balancer outside, the service behind it is passed over: its only incoming link comes
from another network, but the rule looks at the call to the load balancer instead. -/
theorem balancedShop_passed_over :
    ∃ m, Validation.build ⟨2024, 3, 1⟩ (balancedShop ["api"]) = .ok m ∧
      ∃ a ∈ m.inScope, a.technology ≠ .loadBalancer ∧ .critical ≤ a.availability ∧
        (∃ l ∈ m.incomingLinks a.id,
          l.crossesNetwork m ∧ ¬l.protocol.isProcessLocal ∧ l.usage ≠ .devOps) ∧
        ∀ r ∈ dosRiskyAccessAcrossTrustBoundary.findings m, r.technicalAsset ≠ some a.id :=
  Model.exists_of_build_decide (by decide +kernel)

end BuiltinRule

end ThreatModel
