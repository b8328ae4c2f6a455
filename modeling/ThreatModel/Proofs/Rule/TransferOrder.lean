import Mathlib.Data.List.Forall2
import ThreatModel.Proofs.Model.Neighbours
import ThreatModel.Proofs.Rule.Finding

/-!
# The order in which transferred data is listed

How bad an unencrypted link is is decided by the first of its data assets that matters, sent data first
(`Link.findSome?_grade_eq_high_iff`). What else is found about a link does not look at its data
(`findings_withTransfer`). So listing the data in another order can change one risk at most, in its
impact and severity; and it changes nothing if all data that matters is equally bad, that is, unless the
link transfers both kinds of sensitive data without authentication and VPN (`Link.Mixes`).
-/

namespace ThreatModel

/-- If all members that a search finds something in lead to the same result, their order does not
matter. -/
theorem findSome?_perm {α β : Type} {f : α → Option β} {xs ys : List α} (h : xs.Perm ys)
    (hsame : ∀ x ∈ xs, ∀ y ∈ xs, ∀ b c, f x = some b → f y = some c → b = c) :
    xs.findSome? f = ys.findSome? f := by
  cases hxs : xs.findSome? f with
  | none =>
    rw [List.findSome?_eq_none_iff] at hxs
    exact (List.findSome?_eq_none_iff.2 fun y hy => hxs y (h.mem_iff.2 hy)).symm
  | some b =>
    obtain ⟨x, hx, hb⟩ := List.exists_of_findSome?_eq_some hxs
    cases hys : ys.findSome? f with
    | none =>
      rw [List.findSome?_eq_none_iff.1 hys x (h.mem_iff.1 hx)] at hb
      cases hb
    | some c =>
      obtain ⟨y, hy, hc⟩ := List.exists_of_findSome?_eq_some hys
      rw [hsame x hx y (h.mem_iff.2 hy) b c hb hc]

/-! ## Other lists of data -/

/-- The link, with other data if it has an id. -/
def Link.withTransfer (l : Link) (id : String) (sent received : List String) : Link :=
  if l.id = id then { l with dataSent := sent, dataReceived := received } else l

theorem Link.exists_withTransfer_eq (l : Link) (id : String) (sent received : List String) :
    ∃ s r, l.withTransfer id sent received = { l with dataSent := s, dataReceived := r } := by
  rw [withTransfer]
  split
  · exact ⟨sent, received, rfl⟩
  · exact ⟨l.dataSent, l.dataReceived, rfl⟩

/-- The asset with other data on the link with an id. -/
def TechnicalAsset.withTransfer (a : TechnicalAsset) (id : String) (sent received : List String) :
    TechnicalAsset := { a with links := a.links.map (·.withTransfer id sent received) }

/-- The model with other data on the link with an id. -/
def Model.withTransfer (m : Model) (id : String) (sent received : List String) : Model :=
  reindex { m with technicalAssets := m.technicalAssets.map (·.withTransfer id sent received) }

/-- Whether two risks are the same or, if they are about a link, differ in impact and severity only. -/
def Risk.SameUpToImpact (l : Link) (r s : Risk) : Prop :=
  s = r ∨ r.link = some l.id ∧ s = { r with impact := s.impact, severity := s.severity }

namespace Model

variable {m : Model} {id : String} {sent received : List String}

theorem inScope_withTransfer : (m.withTransfer id sent received).inScope =
    m.inScope.map (·.withTransfer id sent received) := by
  show (m.technicalAssets.map _).values.filter _ = _
  rw [Dict.values_map, List.filter_map]
  rfl

theorem target?_withTransfer (l : Link) :
    (m.withTransfer id sent received).target? (l.withTransfer id sent received) =
      (m.target? l).map (·.withTransfer id sent received) := by
  obtain ⟨s, r, hl⟩ := l.exists_withTransfer_eq id sent received
  rw [hl]
  exact Dict.get?_mapWithKey ..

/-- Boundaries do not depend on links. -/
theorem networkBoundary_withTransfer (h : m.reindex = m) :
    (m.withTransfer id sent received).networkBoundary = m.networkBoundary := by
  have hdirect : (m.withTransfer id sent received).directBoundary = m.directBoundary := by
    rw [← h]
    funext k
    rw [withTransfer, directBoundary_reindex, directBoundary_reindex]
    rfl
  have hparent : (m.withTransfer id sent received).parentBoundary = m.parentBoundary := by
    rw [← h]
    funext k
    rw [withTransfer, parentBoundary_reindex, parentBoundary_reindex]
    rfl
  funext k
  rw [networkBoundary, networkBoundary, hdirect, hparent]

theorem crossesNetwork_withTransfer (h : m.reindex = m) (l : Link) :
    (l.withTransfer id sent received).crossesNetwork (m.withTransfer id sent received) =
      l.crossesNetwork m := by
  obtain ⟨s, r, hl⟩ := l.exists_withTransfer_eq id sent received
  simp only [hl, Link.crossesNetwork, network, networkBoundary_withTransfer h]
  rfl

end Model

namespace Link

/-! ## How bad a transfer is -/

/-- Whether a data asset is too sensitive to be transferred by a link that does not authenticate: it is
strictly confidential or mission-critical in integrity or, if there is no VPN, confidential or critical
in integrity. -/
def Minds (l : Link) (d : DataAsset) : Prop :=
  d.rating.isTopContent = true ∨
    l.vpn = false ∧ (d.confidentiality = .confidential ∨ d.integrity = .critical)

/-- Whether a link without authentication and VPN transfers both kinds of sensitive data. -/
def Mixes (l : Link) (m : Model) : Prop :=
  l.authentication = .none ∧ l.vpn = false ∧
    (∃ d ∈ m.dataOf l.data, d.rating.isTopContent = true) ∧
    ∃ d ∈ m.dataOf l.data, d.rating.isTopContent = false ∧
      (d.confidentiality = .confidential ∨ d.integrity = .critical)

instance (l : Link) (d : DataAsset) : Decidable (l.Minds d) := inferInstanceAs (Decidable (_ ∨ _))

instance (l : Link) (m : Model) : Decidable (l.Mixes m) := inferInstanceAs (Decidable (_ ∧ _))

variable {l : Link} {d : DataAsset} {ds : List DataAsset} {i : Impact}

theorem grade_eq_high_iff :
    l.grade d = some .high ↔ l.authentication ≠ .none ∨ d.rating.isTopContent = true := by
  by_cases hauth : l.authentication = .none
  · cases htop : d.rating.isTopContent
    · simp [grade, hauth, htop]
    · simp [grade, htop]
  · simp [grade, hauth]

theorem grade_eq_medium_iff : l.grade d = some .medium ↔
    l.authentication = .none ∧ l.vpn = false ∧ d.rating.isTopContent = false ∧
      (d.confidentiality = .confidential ∨ d.integrity = .critical) := by
  by_cases hauth : l.authentication = .none
  · cases htop : d.rating.isTopContent
    · simp [grade, hauth, htop, or_iff_not_imp_left]
    · simp [grade, htop]
  · simp [grade, hauth]

theorem grade_eq_none_iff : l.grade d = none ↔ l.authentication = .none ∧ ¬l.Minds d := by
  by_cases hauth : l.authentication = .none
  · cases htop : d.rating.isTopContent
    · simp [grade, Minds, hauth, htop, or_iff_not_imp_left]
    · simp [grade, Minds, htop]
  · simp [grade, hauth]

theorem high_or_medium_of_grade (h : l.grade d = some i) : i = .high ∨ i = .medium := by
  rw [grade] at h
  split at h
  · exact .inl (Option.some.inj h).symm
  · split at h
    · exact .inr (Option.some.inj h).symm
    · cases h

/-- The first data asset that matters decides; if the link authenticates, every one does. -/
theorem findSome?_grade_eq_high_iff : ds.findSome? l.grade = some .high ↔
    l.authentication ≠ .none ∧ ds ≠ [] ∨
      ∃ before d after, ds = before ++ d :: after ∧ d.rating.isTopContent = true ∧
        ∀ x ∈ before, ¬l.Minds x := by
  rw [List.findSome?_eq_some_iff]
  constructor
  · rintro ⟨before, d, after, rfl, hgrade, hbefore⟩
    rcases grade_eq_high_iff.1 hgrade with hauth | htop
    · exact .inl ⟨hauth, by simp⟩
    · exact .inr ⟨before, d, after, rfl, htop, fun x hx => (grade_eq_none_iff.1 (hbefore x hx)).2⟩
  · intro h
    by_cases hauth : l.authentication = .none
    · obtain ⟨before, d, after, rfl, htop, hbefore⟩ := h.resolve_left fun h => h.1 hauth
      exact ⟨before, d, after, rfl, grade_eq_high_iff.2 (.inr htop),
        fun x hx => grade_eq_none_iff.2 ⟨hauth, hbefore x hx⟩⟩
    · have hne : ds ≠ [] := by
        rcases h with h | ⟨before, d, after, rfl, -⟩
        · exact h.2
        · simp
      obtain ⟨d, ds, rfl⟩ := List.exists_cons_of_ne_nil hne
      exact ⟨[], d, ds, rfl, grade_eq_high_iff.2 (.inl hauth), fun x hx => absurd hx List.not_mem_nil⟩

/-- Two grades of data on a link differ only if it mixes both kinds. -/
theorem mixes_of_grade {m : Model} {d e : DataAsset} (hd : d ∈ m.dataOf l.data)
    (he : e ∈ m.dataOf l.data) (hhigh : l.grade d = some .high) (hmedium : l.grade e = some .medium) :
    l.Mixes m := by
  obtain ⟨hauth, hvpn, he'⟩ := grade_eq_medium_iff.1 hmedium
  have htop := (grade_eq_high_iff.1 hhigh).resolve_left fun h => h hauth
  exact ⟨hauth, hvpn, ⟨d, hd, htop⟩, e, he, he'⟩

theorem grade_eq_of_not_mixes {m : Model} (h : ¬l.Mixes m) :
    ∀ d ∈ m.dataOf l.data, ∀ e ∈ m.dataOf l.data, ∀ i j, l.grade d = some i → l.grade e = some j →
      i = j := by
  intro d hd e he i j hi hj
  rcases high_or_medium_of_grade hi with rfl | rfl <;> rcases high_or_medium_of_grade hj with rfl | rfl
  · rfl
  · exact absurd (mixes_of_grade hd he hi hj) h
  · exact absurd (mixes_of_grade he hd hj hi) h
  · rfl

end Link

namespace BuiltinRule

/-! ## How bad a transfer is in another order -/

section Impact

variable {m : Model} {l : Link} {sent received : List String} {i : Impact}

theorem transferImpact_withTransfer (m : Model) (l : Link) (sent received : List String) :
    transferImpact m (l.withTransfer l.id sent received) =
      (m.dataOf (sent ++ received)).findSome? l.grade := by
  rw [Link.withTransfer, if_pos rfl]
  rfl

theorem isSome_transferImpact_withTransfer (h : (sent ++ received).Perm l.data) :
    (transferImpact m (l.withTransfer l.id sent received)).isSome = (transferImpact m l).isSome := by
  have hdata : (m.dataOf (sent ++ received)).Perm (m.dataOf l.data) := h.filterMap _
  rw [transferImpact_withTransfer, transferImpact, Bool.eq_iff_iff, List.findSome?_isSome_iff,
    List.findSome?_isSome_iff]
  simp only [hdata.mem_iff]

theorem transferImpact_withTransfer_of_not_mixes (h : (sent ++ received).Perm l.data)
    (hmixes : ¬l.Mixes m) :
    transferImpact m (l.withTransfer l.id sent received) = transferImpact m l := by
  rw [transferImpact_withTransfer, transferImpact]
  exact (findSome?_perm (h.symm.filterMap _) (Link.grade_eq_of_not_mixes hmixes)).symm

/-- Every data asset can be listed first. -/
theorem exists_withTransfer {d : DataAsset} (hd : d ∈ m.dataOf l.data) (hi : l.grade d = some i) :
    ∃ sent received : List String, (sent ++ received).Perm l.data ∧
      sent.length = l.dataSent.length ∧
      transferImpact m (l.withTransfer l.id sent received) = some i := by
  obtain ⟨id, hid, hget⟩ := List.mem_filterMap.1 hd
  have hperm : (id :: l.data.erase id).Perm l.data := (List.perm_cons_erase hid).symm
  have hlength : l.dataSent.length ≤ (id :: l.data.erase id).length := by
    rw [hperm.length_eq, Link.data, List.length_append]
    exact Nat.le_add_right ..
  refine ⟨(id :: l.data.erase id).take l.dataSent.length,
    (id :: l.data.erase id).drop l.dataSent.length, ?_, List.length_take_of_le hlength, ?_⟩
  · rw [List.take_append_drop]
    exact hperm
  · rw [transferImpact_withTransfer, List.take_append_drop, Model.dataOf,
      List.filterMap_cons_some hget, List.findSome?_cons, hi]

/-- If a link mixes both kinds of data, some order changes how bad that is. -/
theorem exists_transferImpact_ne (h : l.Mixes m) (other : Impact) :
    ∃ sent received i, (sent ++ received).Perm l.data ∧ sent.length = l.dataSent.length ∧
      transferImpact m (l.withTransfer l.id sent received) = some i ∧ i ≠ other := by
  obtain ⟨hauth, hvpn, ⟨d, hd, htop⟩, e, he, hmedium⟩ := h
  by_cases hother : other = .high
  · obtain ⟨sent, received, hperm, hlength, hi⟩ :=
      exists_withTransfer he (Link.grade_eq_medium_iff.2 ⟨hauth, hvpn, hmedium⟩)
    exact ⟨sent, received, .medium, hperm, hlength, hi, by simp [hother]⟩
  · obtain ⟨sent, received, hperm, hlength, hi⟩ :=
      exists_withTransfer hd (Link.grade_eq_high_iff.2 (.inr htop))
    exact ⟨sent, received, .high, hperm, hlength, hi, fun heq => hother heq.symm⟩

end Impact

/-! ## What is found about a link -/

/-- The target of a link in the clear, unless that is tolerated. -/
def openTarget? (m : Model) (a : TechnicalAsset) (l : Link) : Option TechnicalAsset :=
  if l.protocol.isEncrypted || l.protocol.isProcessLocal then none
  else (m.target? l).filter fun target =>
    !(a.technology.toleratesUnprotectedCommunication ||
      target.technology.toleratesUnprotectedCommunication)

/-- The finding about a link whose transfer is as bad as given. -/
def graded (m : Model) (a : TechnicalAsset) (l : Link) (impact : Option Impact) : Option Risk :=
  (openTarget? m a l).bind fun target => impact.map (clearTransfer m a target l)

section Findings

variable {m : Model} {a target : TechnicalAsset} {l : Link} {r : Risk} {impact : Option Impact}

theorem findings_eq (m : Model) : unencryptedCommunication.findings m =
    m.inScope.flatMap fun a => a.links.filterMap fun l => graded m a l (transferImpact m l) := by
  rw [unencryptedCommunication_findings]
  refine List.flatMap_congr fun a _ => ?_
  rw [List.filterMap_filter]
  refine List.filterMap_congr fun l _ => ?_
  rw [graded, openTarget?]
  cases l.protocol.isEncrypted <;> cases l.protocol.isProcessLocal <;> rfl

theorem graded_eq_some_iff : graded m a l impact = some r ↔
    ∃ target, openTarget? m a l = some target ∧
      ∃ i, impact = some i ∧ clearTransfer m a target l i = r := by
  simp only [graded, Option.bind_eq_some_iff, Option.map_eq_some_iff]

theorem openTarget?_withTransfer (id : String) (sent received : List String) :
    openTarget? (m.withTransfer id sent received) (a.withTransfer id sent received)
        (l.withTransfer id sent received) =
      (openTarget? m a l).map (·.withTransfer id sent received) := by
  obtain ⟨s, r, hl⟩ := l.exists_withTransfer_eq id sent received
  rw [openTarget?, openTarget?, Model.target?_withTransfer, hl]
  split
  · rfl
  · exact Option.filter_map ..

theorem clearTransfer_withTransfer (h : m.reindex = m) (id : String) (sent received : List String) :
    clearTransfer (m.withTransfer id sent received) (a.withTransfer id sent received)
        (target.withTransfer id sent received) (l.withTransfer id sent received) =
      clearTransfer m a target l := by
  obtain ⟨s, r, hl⟩ := l.exists_withTransfer_eq id sent received
  funext i
  rw [clearTransfer, Model.crossesNetwork_withTransfer h, hl]
  rfl

/-- What is found about a link does not depend on its data but for how bad it is. -/
theorem graded_withTransfer (h : m.reindex = m) (id : String) (sent received : List String) :
    graded (m.withTransfer id sent received) (a.withTransfer id sent received)
        (l.withTransfer id sent received) impact = graded m a l impact := by
  rw [graded, openTarget?_withTransfer, Option.bind_map, graded]
  refine congrArg _ (funext fun target => ?_)
  exact congrArg impact.map (clearTransfer_withTransfer h id sent received)

theorem findings_withTransfer (h : m.reindex = m) (id : String) (sent received : List String) :
    unencryptedCommunication.findings (m.withTransfer id sent received) =
      m.inScope.flatMap fun a => a.links.filterMap fun l =>
        graded m a l (transferImpact m (l.withTransfer id sent received)) := by
  rw [findings_eq, Model.inScope_withTransfer, List.flatMap_map]
  refine List.flatMap_congr fun a _ => ?_
  rw [TechnicalAsset.withTransfer, List.filterMap_map]
  exact List.filterMap_congr fun l _ => graded_withTransfer h id sent received

end Findings

/-! ## The findings in another order -/

section Order

variable {m : Model} {l k : Link} {r : Risk} {sent received : List String}

/-- All data that a link names is there. -/
theorem dataOf_ne_nil_iff (h : m.Coherent) (hl : l ∈ m.links) :
    m.dataOf l.data ≠ [] ↔ l.data ≠ [] := by
  refine ⟨fun hne hnil => hne (by rw [hnil]; rfl), fun hne => ?_⟩
  obtain ⟨id, hid⟩ := List.exists_mem_of_ne_nil _ hne
  obtain ⟨d, hd⟩ := Dict.contains_eq_true_iff.1 (h.linkData l hl id hid)
  exact List.ne_nil_of_mem (List.mem_filterMap.2 ⟨id, hid, hd⟩)

/-- A finding about a link is as bad as the transfer. -/
theorem exists_of_mem_findings (h : m.Coherent) (hl : l ∈ m.links)
    (hr : r ∈ unencryptedCommunication.findings m) (hlink : r.link = some l.id) :
    ∃ a ∈ m.inScope, l ∈ a.links ∧ ∃ target, openTarget? m a l = some target ∧
      transferImpact m l = some r.impact := by
  rw [findings_eq] at hr
  obtain ⟨a, ha, hr⟩ := List.mem_flatMap.1 hr
  obtain ⟨k, hk, hr⟩ := List.mem_filterMap.1 hr
  obtain ⟨target, htarget, i, hi, rfl⟩ := graded_eq_some_iff.1 hr
  have hkl : k = l := h.link_eq_of_id (Model.Coherent.mem_links (mem_values_of_inScope ha) hk) hl
    (Option.some.inj hlink)
  subst hkl
  exact ⟨a, ha, hk, target, htarget, hi⟩

theorem rel_graded {a : TechnicalAsset} {i j : Option Impact} (h : j.isSome = i.isSome) :
    Option.Rel (Risk.SameUpToImpact l) (graded m a l i) (graded m a l j) := by
  rw [graded, graded]
  cases openTarget? m a l with
  | none => exact .none
  | some target =>
    cases i with
    | none =>
      cases j with
      | none => exact .none
      | some j => cases h
    | some i =>
      cases j with
      | none => cases h
      | some j => exact .some (.inr ⟨rfl, rfl⟩)

/-- Another order changes one finding at most, in its impact and severity. -/
theorem forall₂_findings_withTransfer (h : m.Coherent) (hl : l ∈ m.links)
    (hperm : (sent ++ received).Perm l.data) :
    List.Forall₂ (Risk.SameUpToImpact l) (unencryptedCommunication.findings m)
      (unencryptedCommunication.findings (m.withTransfer l.id sent received)) := by
  rw [findings_eq, findings_withTransfer h.index]
  refine List.rel_flatMap (R := fun a b => a = b ∧ a ∈ m.inScope)
    (List.forall₂_same.2 fun a ha => ⟨rfl, ha⟩) ?_
  rintro a _ ⟨rfl, ha⟩
  refine List.rel_filterMap (R := fun k k' => k = k' ∧ k ∈ a.links) ?_
    (List.forall₂_same.2 fun k hk => ⟨rfl, hk⟩)
  rintro k _ ⟨rfl, hk⟩
  show Option.Rel _ (graded m a k (transferImpact m k))
    (graded m a k (transferImpact m (k.withTransfer l.id sent received)))
  by_cases hid : k.id = l.id
  · have hkl : k = l :=
      h.link_eq_of_id (Model.Coherent.mem_links (mem_values_of_inScope ha) hk) hl hid
    subst hkl
    exact rel_graded (isSome_transferImpact_withTransfer hperm)
  · have hother : k.withTransfer l.id sent received = k := if_neg hid
    rw [hother]
    cases graded m a k (transferImpact m k) with
    | none => exact .none
    | some r => exact .some (.inl rfl)

theorem findings_withTransfer_of_not_mixes (h : m.Coherent) (hl : l ∈ m.links)
    (hperm : (sent ++ received).Perm l.data) (hmixes : ¬l.Mixes m) :
    unencryptedCommunication.findings (m.withTransfer l.id sent received) =
      unencryptedCommunication.findings m := by
  rw [findings_eq m, findings_withTransfer h.index]
  refine List.flatMap_congr fun a ha => List.filterMap_congr fun k hk => ?_
  by_cases hid : k.id = l.id
  · have hkl : k = l :=
      h.link_eq_of_id (Model.Coherent.mem_links (mem_values_of_inScope ha) hk) hl hid
    subst hkl
    rw [transferImpact_withTransfer_of_not_mixes hperm hmixes]
  · have hother : k.withTransfer l.id sent received = k := if_neg hid
    rw [hother]

/-- If a link with a finding mixes both kinds of data, some order changes the finding. -/
theorem exists_findings_withTransfer_ne (h : m.Coherent) (hl : l ∈ m.links) (hmixes : l.Mixes m)
    (hr : r ∈ unencryptedCommunication.findings m) (hlink : r.link = some l.id) :
    ∃ sent received, (sent ++ received).Perm l.data ∧ sent.length = l.dataSent.length ∧
      unencryptedCommunication.findings (m.withTransfer l.id sent received) ≠
        unencryptedCommunication.findings m := by
  obtain ⟨a, ha, hla, target, htarget, himpact⟩ := exists_of_mem_findings h hl hr hlink
  obtain ⟨sent, received, i, hperm, hlength, hi, hne⟩ := exists_transferImpact_ne hmixes r.impact
  refine ⟨sent, received, hperm, hlength, fun heq => hne ?_⟩
  -- The finding in the other order is found in the first one as well, where it is as bad as that.
  have hother : clearTransfer m a target l i ∈
      unencryptedCommunication.findings (m.withTransfer l.id sent received) := by
    rw [findings_withTransfer h.index]
    refine List.mem_flatMap.2 ⟨a, ha, List.mem_filterMap.2 ⟨l, hla, ?_⟩⟩
    exact graded_eq_some_iff.2 ⟨target, htarget, i, hi, rfl⟩
  rw [heq] at hother
  obtain ⟨-, -, -, -, -, hsame⟩ := exists_of_mem_findings h hl hother rfl
  exact Option.some.inj (hsame.symm.trans himpact)

/-- Without both kinds of data on a link it does not matter which kind comes first. -/
theorem transferImpact_eq_high_iff_of_not_mixes (hmixes : ¬l.Mixes m) :
    transferImpact m l = some .high ↔ l.authentication ≠ .none ∧ m.dataOf l.data ≠ [] ∨
      ∃ d ∈ m.dataOf l.data, d.rating.isTopContent = true := by
  constructor
  · intro h
    rcases Link.findSome?_grade_eq_high_iff.1 h with hauth | ⟨before, d, after, hdata, htop, -⟩
    · exact .inl hauth
    · exact .inr ⟨d, hdata ▸ List.mem_append_right _ List.mem_cons_self, htop⟩
  · rintro (hauth | ⟨d, hd, htop⟩)
    · exact Link.findSome?_grade_eq_high_iff.2 (.inl hauth)
    · have hhigh : l.grade d = some .high := Link.grade_eq_high_iff.2 (.inr htop)
      obtain ⟨i, hi⟩ : ∃ i, transferImpact m l = some i := by
        rw [← Option.isSome_iff_exists, transferImpact, List.findSome?_isSome_iff]
        exact ⟨d, hd, by rw [hhigh]; rfl⟩
      obtain ⟨e, he, hei⟩ := List.exists_of_findSome?_eq_some hi
      rw [hi, Link.grade_eq_of_not_mixes hmixes e he d hd i .high hei hhigh]

end Order

/-- Listing the data of a link in another order changes at most the risk of unencrypted communication
that is about this link, and that only in its impact and severity. It changes nothing unless the link
mixes both kinds of sensitive data; if it does and there is a risk, some order changes it. The impact is
high if and only if there is data and the link authenticates, or the first sensitive data asset, sent
data first, is strictly confidential or mission-critical in integrity. Unless the kinds are mixed, any
such data asset will do. -/
theorem unencryptedCommunication_of_order {m : Model} (h : m.Accepted) {l : Link} (hl : l ∈ m.links) :
    (∀ r ∈ unencryptedCommunication.findings m, r.link = some l.id →
      (r.impact = .high ↔ l.authentication ≠ .none ∧ l.data ≠ [] ∨
        ∃ before d after, m.dataOf l.data = before ++ d :: after ∧ d.rating.isTopContent = true ∧
          ∀ x ∈ before, ¬l.Minds x) ∧
      (¬l.Mixes m → (r.impact = .high ↔ l.authentication ≠ .none ∧ l.data ≠ [] ∨
        ∃ d ∈ m.dataOf l.data, d.rating.isTopContent = true))) ∧
    (∀ sent received, (sent ++ received).Perm l.data →
      List.Forall₂ (Risk.SameUpToImpact l) (unencryptedCommunication.findings m)
        (unencryptedCommunication.findings (m.withTransfer l.id sent received)) ∧
      (¬l.Mixes m → unencryptedCommunication.findings (m.withTransfer l.id sent received) =
        unencryptedCommunication.findings m)) ∧
    (l.Mixes m → (∃ r ∈ unencryptedCommunication.findings m, r.link = some l.id) →
      ∃ sent received, (sent ++ received).Perm l.data ∧ sent.length = l.dataSent.length ∧
        unencryptedCommunication.findings (m.withTransfer l.id sent received) ≠
          unencryptedCommunication.findings m) := by
  refine ⟨fun r hr hlink => ?_, fun sent received hperm => ⟨?_, fun hmixes => ?_⟩, ?_⟩
  · obtain ⟨-, -, -, -, -, himpact⟩ := exists_of_mem_findings h.coherent hl hr hlink
    have hhigh : r.impact = .high ↔ transferImpact m l = some .high := by
      rw [himpact, Option.some.injEq]
    rw [hhigh, ← dataOf_ne_nil_iff h.coherent hl]
    exact ⟨Link.findSome?_grade_eq_high_iff, transferImpact_eq_high_iff_of_not_mixes⟩
  · exact forall₂_findings_withTransfer h.coherent hl hperm
  · exact findings_withTransfer_of_not_mixes h.coherent hl hperm hmixes
  · rintro hmixes ⟨r, hr, hlink⟩
    exact exists_findings_withTransfer_ne h.coherent hl hmixes hr hlink

/-- A shop that exchanges orders and keys with a carrier, and with an archive over a VPN. -/
def parcelShop : ModelInput where
  title := "Parcel shop"
  businessCriticality := "important"
  dataAssets := .ofList [
    ("Orders", {
      id := "orders", quantity := "many", confidentiality := "confidential"
      integrity := "important", availability := "operational" }),
    ("Keys", {
      id := "keys", quantity := "few", confidentiality := "strictly-confidential"
      integrity := "important", availability := "operational" })]
  technicalAssets := .ofList [
    ("Shop", {
      id := "shop", kind := "process", usage := "business", size := "application"
      technology := "web-application", machine := "container", encryption := "none"
      confidentiality := "confidential", integrity := "important", availability := "important"
      links := .ofList [("Tracking", {
        target := "carrier", protocol := "http", authentication := "none", authorization := "none"
        usage := "business", dataSent := ["orders"], dataReceived := ["keys"] })] }),
    ("Carrier", {
      id := "carrier", kind := "process", usage := "business", size := "service"
      technology := "web-service-rest", machine := "container", encryption := "none"
      confidentiality := "confidential", integrity := "important", availability := "important" }),
    ("Archive", {
      id := "archive", kind := "process", usage := "business", size := "service"
      technology := "web-service-rest", machine := "container", encryption := "none"
      confidentiality := "confidential", integrity := "important", availability := "important"
      links := .ofList [("Backup", {
        target := "shop", protocol := "http", authentication := "none", authorization := "none"
        usage := "business", vpn := true, dataSent := ["orders"], dataReceived := ["keys"] })] })]

/-- The carrier gets an order first, so the keys that it sends back do not count; in some other order
they do. On the VPN orders do not count, so the keys always do. -/
theorem parcelShop_transfers :
    ∃ m, Validation.build ⟨2024, 3, 1⟩ parcelShop = .ok m ∧
      ∃ tracking ∈ m.link? "shop>tracking", ∃ backup ∈ m.link? "archive>backup",
        (∃ r ∈ unencryptedCommunication.findings m, r.link = some tracking.id ∧ r.impact ≠ .high) ∧
        (∃ sent received, (sent ++ received).Perm tracking.data ∧
          unencryptedCommunication.findings (m.withTransfer tracking.id sent received) ≠
            unencryptedCommunication.findings m) ∧
        (∃ r ∈ unencryptedCommunication.findings m, r.link = some backup.id ∧ r.impact = .high) ∧
        unencryptedCommunication.findings (m.withTransfer backup.id ["keys"] ["orders"]) =
          unencryptedCommunication.findings m := by
  have hchecked : (Validation.build ⟨2024, 3, 1⟩ parcelShop).toOption.map (fun m => decide (
      ∃ tracking ∈ m.link? "shop>tracking", ∃ backup ∈ m.link? "archive>backup",
        tracking ∈ m.links ∧ tracking.Mixes m ∧
        (∃ d ∈ (m.dataOf tracking.data).head?, d.rating.isTopContent = false ∧ tracking.Minds d) ∧
        (∃ r ∈ unencryptedCommunication.findings m, r.link = some tracking.id) ∧
        backup ∈ m.links ∧ ¬backup.Mixes m ∧
        (∃ d ∈ m.dataOf backup.data, d.rating.isTopContent = true) ∧
        (∃ r ∈ unencryptedCommunication.findings m, r.link = some backup.id) ∧
        backup.data = ["orders", "keys"])) = some true := by
    decide +kernel
  obtain ⟨m, hm, hchecked⟩ := Model.exists_of_build hchecked
  obtain ⟨tracking, htracking, backup, hbackup, hl, hmixes, ⟨d, hd, htop, hminds⟩, ⟨r, hr, hlink⟩,
    hl', hmixes', htop', ⟨r', hr', hlink'⟩, hdata⟩ := of_decide_eq_true hchecked
  obtain ⟨himpact, -, hchange⟩ := unencryptedCommunication_of_order (.of_build hm) hl
  obtain ⟨himpact', hsame, -⟩ := unencryptedCommunication_of_order (.of_build hm) hl'
  have hnot : r.impact ≠ .high := by
    intro hhigh
    rcases (himpact r hr hlink).1.1 hhigh with ⟨hauth, -⟩ | ⟨before, e, after, hsplit, he, hbefore⟩
    · exact hauth hmixes.1
    · rw [hsplit] at hd
      cases before with
      | nil =>
        cases hd
        exact Bool.false_ne_true (htop.symm.trans he)
      | cons x before =>
        cases hd
        exact hbefore d List.mem_cons_self hminds
  obtain ⟨sent, received, hperm, -, hne⟩ := hchange hmixes ⟨r, hr, hlink⟩
  have hperm' : (["keys"] ++ ["orders"] : List String).Perm backup.data := by
    rw [hdata]
    exact .swap ..
  exact ⟨m, hm, tracking, htracking, backup, hbackup, ⟨r, hr, hlink, hnot⟩,
    ⟨sent, received, hperm, hne⟩, ⟨r', hr', hlink', ((himpact' r' hr' hlink').2 hmixes').2 (.inr htop')⟩,
    (hsame ["keys"] ["orders"] hperm').2 hmixes'⟩

/-- Exchanging what is sent with what is received changes the risk list, and a transfer of strictly
confidential data is not of high impact. -/
theorem parcelShop_exchanged :
    ∃ m, Validation.build ⟨2024, 3, 1⟩ parcelShop = .ok m ∧
      ∃ l ∈ m.link? "shop>tracking", l.dataSent = ["orders"] ∧ l.dataReceived = ["keys"] ∧
        (∃ d ∈ m.dataOf l.data, d.confidentiality = .strictlyConfidential) ∧
        (∃ r ∈ unencryptedCommunication.findings m, r.link = some l.id ∧ r.impact = .medium) ∧
        unencryptedCommunication.findings (m.withTransfer l.id ["keys"] ["orders"]) ≠
          unencryptedCommunication.findings m :=
  Model.exists_of_build_decide (by decide +kernel)

end BuiltinRule

end ThreatModel
