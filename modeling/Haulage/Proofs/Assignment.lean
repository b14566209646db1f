import Haulage.Proofs.Filing
import Haulage.Recalculation

/-! The carrier performance that a shipment is priced with: after a recalculation the
shipment is linked to it, it is stored, and it covers the shipment's dates. Of the store
only the groupings can have changed. -/
namespace Haulage

theorem mem_or_of_foldl_best {ps : List CarrierPerformance} {p : CarrierPerformance}
    {best : Option CarrierPerformance}
    (h : ps.foldl (fun best p =>
      if best.all (comparePerformances p · = .lt) then some p else best) best = some p) :
    p ∈ ps ∨ best = some p := by
  induction ps generalizing best with
  | nil => exact .inr h
  | cons q rest ih =>
    rcases ih h with mem | taken
    · exact .inl (List.mem_cons_of_mem _ mem)
    · dsimp only at taken
      split at taken
      · exact .inl (List.mem_cons.2 (.inl (Option.some.inj taken).symm))
      · exact .inr taken

theorem mem_of_best? {ps : List CarrierPerformance} {p : CarrierPerformance}
    (h : best? ps = some p) : p ∈ ps := (mem_or_of_foldl_best h).resolve_right nofun

theorem of_selectBest? {candidates : List PerformanceCandidate} {id : GroupingId}
    {bookDate pickupDate : Date} {p : CarrierPerformance}
    (h : selectBest? candidates id bookDate pickupDate = some p) :
    ∃ c ∈ candidates, c.isEligible id bookDate pickupDate ∧ c.performance = p := by
  obtain ⟨c, mem, rfl⟩ := List.mem_map.1 (mem_of_best? h)
  exact ⟨c, (List.mem_filter.1 mem).1, (List.mem_filter.1 mem).2, rfl⟩

namespace Store
variable {s s' : Store}

theorem selectForGrouping_eq_ok {id : GroupingId} {bookDate pickupDate : Date}
    {p : CarrierPerformance} (h : s.selectForGrouping id bookDate pickupDate = .ok p) :
    p ∈ s.performances.values ∧ p.covers bookDate pickupDate := by
  obtain ⟨c, mem, eligible, rfl⟩ := of_selectBest? (require_eq_ok.1 h)
  obtain ⟨p, stored, rfl⟩ := List.mem_map.1 mem
  simp only [PerformanceCandidate.isEligible, Bool.and_eq_true] at eligible
  exact ⟨(List.mem_filter.1 stored).1, eligible.2⟩

/-- A grouping is found, or inserted under the fresh id. -/
theorem fetchOrCreateGrouping_eq_ok {key : GroupingKey} {fresh : GroupingId} {g : Grouping}
    (h : fetchOrCreateGrouping groupingShelf key fresh s = .ok (g, s')) :
    (s.groupingByKey? key = some g ∧ s' = s) ∨
      (g = ⟨fresh, key⟩ ∧ s.insertGrouping ⟨fresh, key⟩ = .ok s') := by
  simp only [fetchOrCreateGrouping, GroupingFetch.step, groupingShelf] at h
  cases found : s.groupingByKey? key with
  | some g' =>
    simp only [found, GroupingFetch.outcome, bind, Except.bind, pure,
      Except.pure, Except.ok.injEq, Prod.mk.injEq] at h
    exact .inl ⟨congrArg some h.1, h.2.symm⟩
  | none =>
    simp only [found] at h
    cases inserted : s.insertGrouping ⟨fresh, key⟩ with
    | ok s₁ =>
      simp only [inserted, GroupingFetch.outcome, bind, Except.bind, pure,
        Except.pure, Except.ok.injEq, Prod.mk.injEq] at h
      exact .inr ⟨h.1.symm, congrArg _ h.2⟩
    | error e =>
      cases taken : e.isConflict <;>
        simp [inserted, taken, GroupingFetch.outcome, found, require, bind,
          Except.bind] at h

theorem fetchOrCreateGrouping_of_found {key : GroupingKey} {g : Grouping}
    (found : s.groupingByKey? key = some g) (fresh : GroupingId) :
    fetchOrCreateGrouping groupingShelf key fresh s = .ok (g, s) := by
  simp only [fetchOrCreateGrouping, GroupingFetch.step, groupingShelf, found,
    GroupingFetch.outcome, bind, Except.bind, pure, Except.pure]

/-- `s'` has the carriers of `s`, their performances and their groupings. -/
structure SameCarriers (s s' : Store) : Prop where
  carriers : s'.carriers = s.carriers
  performances : s'.performances = s.performances
  groupings : s'.groupings = s.groupings
  groupingIndex : s'.groupingIndex = s.groupingIndex

theorem SameCarriers.refl (s : Store) : s.SameCarriers s := ⟨rfl, rfl, rfl, rfl⟩

theorem SameCarriers.trans {s'' : Store} (first : s.SameCarriers s')
    (second : s'.SameCarriers s'') : s.SameCarriers s'' where
  carriers := second.carriers.trans first.carriers
  performances := second.performances.trans first.performances
  groupings := second.groupings.trans first.groupings
  groupingIndex := second.groupingIndex.trans first.groupingIndex

theorem SameCarriers.groupingByKey?_eq (same : s.SameCarriers s') (key : GroupingKey) :
    s'.groupingByKey? key = s.groupingByKey? key := by
  simp only [groupingByKey?, same.groupings, same.groupingIndex]

theorem SameCarriers.selectForGrouping_eq (same : s.SameCarriers s') (id : GroupingId)
    (bookDate pickupDate : Date) :
    s'.selectForGrouping id bookDate pickupDate = s.selectForGrouping id bookDate pickupDate := by
  simp only [selectForGrouping, candidatesFor, same.performances, same.carriers]

theorem SameCarriers.insertGrouping (same : s.SameCarriers s') (g : Grouping) :
    SameFate SameCarriers (s.insertGrouping g) (s'.insertGrouping g) := by
  unfold Store.insertGrouping
  rw [same.groupingIndex, same.groupings]
  split
  · exact .error _
  · exact .ok { same with groupings := rfl, groupingIndex := rfl }

/-- Stores with the same carriers take a caller equally far. -/
theorem SameCarriers.step (same : s.SameCarriers s') (p : GroupingFetch) (key : GroupingKey)
    (fresh : GroupingId) :
    (p.step groupingShelf key fresh s').1 = (p.step groupingShelf key fresh s).1 ∧
      (p.step groupingShelf key fresh s).2.SameCarriers (p.step groupingShelf key fresh s').2 := by
  cases p with
  | start =>
    simp only [GroupingFetch.step, groupingShelf, same.groupingByKey?_eq]
    cases s.groupingByKey? key with
    | some g => exact ⟨rfl, same⟩
    | none => exact ⟨rfl, same⟩
  | missed =>
    have inserted := same.insertGrouping ⟨fresh, key⟩
    simp only [GroupingFetch.step, groupingShelf]
    generalize s.insertGrouping ⟨fresh, key⟩ = x, s'.insertGrouping ⟨fresh, key⟩ = y at *
    cases inserted with
    | ok same' => exact ⟨rfl, same'⟩
    | error e => exact ⟨rfl, same⟩
  | taken =>
    simp only [GroupingFetch.step, groupingShelf, same.groupingByKey?_eq]
    exact ⟨trivial, same⟩
  | done outcome => exact ⟨rfl, same⟩

theorem SameCarriers.fetchOrCreateGrouping (same : s.SameCarriers s') (key : GroupingKey)
    (fresh : GroupingId) :
    SameFate (fun x y => y.1 = x.1 ∧ x.2.SameCarriers y.2)
      (fetchOrCreateGrouping groupingShelf key fresh s)
      (fetchOrCreateGrouping groupingShelf key fresh s') := by
  obtain ⟨phase₁, same₁⟩ := same.step .start key fresh
  obtain ⟨phase₂, same₂⟩ := same₁.step _ key fresh
  obtain ⟨phase₃, same₃⟩ := same₂.step _ key fresh
  unfold Haulage.fetchOrCreateGrouping
  dsimp only
  rw [phase₁, phase₂, phase₃]
  exact .after _ fun g _ => .ok ⟨rfl, same₃⟩

/-- No performance is for the grouping of this id. -/
def UnusedGrouping (s : Store) (id : GroupingId) : Prop :=
  ∀ p ∈ s.performances.values, p.groupingId ≠ id

instance (s : Store) (id : GroupingId) : Decidable (s.UnusedGrouping id) :=
  inferInstanceAs (Decidable (∀ p ∈ s.performances.values, p.groupingId ≠ id))

theorem UnusedGrouping.congr {id : GroupingId} (unused : s.UnusedGrouping id)
    (performances : s'.performances = s.performances) : s'.UnusedGrouping id := by
  rw [UnusedGrouping, performances]
  exact unused

/-- A grouping that no performance is for has no carrier to select. -/
theorem UnusedGrouping.selectForGrouping_ne_ok {id : GroupingId} (unused : s.UnusedGrouping id)
    {bookDate pickupDate : Date} {p : CarrierPerformance} :
    s.selectForGrouping id bookDate pickupDate ≠ .ok p := by
  intro h
  obtain ⟨c, mem, _, _⟩ := of_selectBest? (require_eq_ok.1 h)
  obtain ⟨p, stored, _⟩ := List.mem_map.1 mem
  rw [List.mem_filter, decide_eq_true_eq] at stored
  exact unused p stored.1 stored.2

end Store

theorem Selector.assignCarrier_eq_ok {c : Selector} {fresh : GroupingId} {shipment : Shipment}
    {store : Store} {a : Assignment} (h : c.assignCarrier fresh shipment store = .ok a) :
    ∃ key groupingId bookDate pickupDate,
      (a.store = store ∨ store.insertGrouping ⟨fresh, key⟩ = .ok a.store) ∧
      shipment.bookDate = some bookDate ∧ shipment.requestedPickupDate = some pickupDate ∧
      a.shipment = { shipment with
        groupingId := some groupingId, performanceId := some a.performance.id } ∧
      a.performance ∈ a.store.performances.values ∧ a.performance.covers bookDate pickupDate := by
  obtain ⟨key, _, h⟩ := bind_eq_ok.1 h
  obtain ⟨⟨grouping, store'⟩, fetched, h⟩ := bind_eq_ok.1 h
  obtain ⟨bookDate, booked, h⟩ := bind_eq_ok.1 h
  obtain ⟨pickupDate, picked, h⟩ := bind_eq_ok.1 h
  obtain ⟨performance, selected, h⟩ := bind_eq_ok.1 h
  obtain rfl := Except.ok.inj h
  obtain ⟨stored, covers⟩ := Store.selectForGrouping_eq_ok selected
  exact ⟨key, grouping.id, bookDate, pickupDate,
    (Store.fetchOrCreateGrouping_eq_ok fetched).imp And.right And.right,
    Shipment.requireBookDate_eq_ok.1 booked, Shipment.requirePickupDate_eq_ok.1 picked, rfl,
    stored, covers⟩

/-- Where no performance is for the new grouping, an assignment that succeeds has found its
grouping, changes nothing of the store, and does the same in every store with the same
carriers, whatever id it has at hand. -/
theorem Selector.assignCarrier_congr {c : Selector} {fresh fresh' : GroupingId}
    {shipment : Shipment} {s s' : Store} {a : Assignment} (unused : s.UnusedGrouping fresh)
    (same : s.SameCarriers s') (h : c.assignCarrier fresh shipment s = .ok a) :
    a.store = s ∧ c.assignCarrier fresh' shipment s' = .ok { a with store := s' } := by
  obtain ⟨key, keyed, h⟩ := bind_eq_ok.1 h
  obtain ⟨⟨grouping, side⟩, fetched, h⟩ := bind_eq_ok.1 h
  obtain ⟨bookDate, booked, h⟩ := bind_eq_ok.1 h
  obtain ⟨pickupDate, picked, h⟩ := bind_eq_ok.1 h
  obtain ⟨performance, selected, h⟩ := bind_eq_ok.1 h
  obtain rfl := Except.ok.inj h
  rcases Store.fetchOrCreateGrouping_eq_ok fetched with ⟨found, rfl⟩ | ⟨rfl, inserted⟩
  · refine ⟨rfl, ?_⟩
    rw [← same.groupingByKey?_eq] at found
    rw [← same.selectForGrouping_eq] at selected
    simp only [assignCarrier, keyed, Store.fetchOrCreateGrouping_of_found found, booked, picked,
      selected, bind, Except.bind, pure, Except.pure]
  · have unused' : side.UnusedGrouping fresh :=
      unused.congr (by rw [Store.insertGrouping_eq_ok inserted])
    exact absurd selected unused'.selectForGrouping_ne_ok

/-- In stores with the same carriers an assignment goes the same way. -/
theorem Selector.assignCarrier_sameFate {c : Selector} {fresh : GroupingId} {shipment : Shipment}
    {s t : Store} (same : s.SameCarriers t) :
    SameFate (fun a b => b.performance = a.performance ∧ b.shipment = a.shipment ∧
        a.store.SameCarriers b.store)
      (c.assignCarrier fresh shipment s) (c.assignCarrier fresh shipment t) := by
  refine .after _ fun key _ => ?_
  refine (same.fetchOrCreateGrouping key fresh).bind ?_
  rintro ⟨grouping, s₁⟩ ⟨_, t₁⟩ - - ⟨rfl, same₁⟩
  refine .after _ fun bookDate _ => .after _ fun pickupDate _ => ?_
  dsimp only
  rw [same₁.selectForGrouping_eq]
  exact .after _ fun performance _ => .ok ⟨rfl, rfl, same₁⟩

namespace Recalculator
variable {r : Recalculator} {fresh : GroupingId} {shipment linked : Shipment} {s s' : Store}
  {discount : DiscountRate}

/-- The links of the shipment and the groupings are all that can change. -/
theorem resolveDiscount_frame
    (h : r.resolveDiscount fresh shipment s = .ok (discount, linked, s')) :
    (∃ groupingId performanceId, linked = { shipment with groupingId, performanceId }) ∧
      (s' = s ∨ ∃ key, s.insertGrouping ⟨fresh, key⟩ = .ok s') := by
  obtain ⟨bookDate, _, h⟩ := bind_eq_ok.1 h
  obtain ⟨pickupDate, _, h⟩ := bind_eq_ok.1 h
  split at h
  · obtain ⟨-, rfl, rfl⟩ := by simpa [pure, Except.pure] using h
    exact ⟨⟨shipment.groupingId, shipment.performanceId, rfl⟩, .inl rfl⟩
  · obtain ⟨a, assigned, h⟩ := bind_eq_ok.1 h
    obtain ⟨-, rfl, rfl⟩ := by simpa [pure, Except.pure] using h
    obtain ⟨key, groupingId, _, _, grouped, _, _, linked, _⟩ :=
      Selector.assignCarrier_eq_ok assigned
    exact ⟨⟨_, _, linked⟩, grouped.imp_right fun inserted => ⟨key, inserted⟩⟩

theorem resolveDiscount_id (h : r.resolveDiscount fresh shipment s = .ok (discount, linked, s')) :
    linked.id = shipment.id := by
  obtain ⟨⟨_, _, links⟩, -⟩ := resolveDiscount_frame h
  rw [links]

theorem resolveDiscount_beside
    (h : r.resolveDiscount fresh shipment s = .ok (discount, linked, s')) :
    s.Beside s' := by
  rcases (resolveDiscount_frame h).2 with rfl | ⟨key, inserted⟩
  · exact .refl _
  · refine ⟨?_, ?_, ?_, fun filed => filed.insertGrouping inserted⟩
    all_goals rw [Store.insertGrouping_eq_ok inserted]

theorem resolveDiscount_sits
    (h : r.resolveDiscount fresh shipment s = .ok (discount, linked, s')) : s'.sits = s.sits := by
  rcases (resolveDiscount_frame h).2 with rfl | ⟨key, inserted⟩
  · rfl
  · rw [Store.insertGrouping_eq_ok inserted]

theorem resolveDiscount_store
    (h : r.resolveDiscount fresh shipment s = .ok (discount, linked, s')) :
    s' = { s with groupings := s'.groupings, groupingIndex := s'.groupingIndex } := by
  rcases (resolveDiscount_frame h).2 with rfl | ⟨key, inserted⟩
  · rfl
  · rw [Store.insertGrouping_eq_ok inserted]

/-- The discount is that of the stored performance which the shipment is linked to, and
the performance covers the shipment's dates. -/
theorem resolveDiscount_linked (filed : s.Filed)
    (h : r.resolveDiscount fresh shipment s = .ok (discount, linked, s')) :
    ∃ bookDate pickupDate id performance,
      linked.bookDate = some bookDate ∧ linked.requestedPickupDate = some pickupDate ∧
      linked.performanceId = some id ∧ s'.performances.get? id = some performance ∧
      performance.covers bookDate pickupDate ∧ discount = performance.linehaulRate := by
  obtain ⟨bookDate, booked, h⟩ := bind_eq_ok.1 h
  obtain ⟨pickupDate, picked, h⟩ := bind_eq_ok.1 h
  have booked := Shipment.requireBookDate_eq_ok.1 booked
  have picked := Shipment.requirePickupDate_eq_ok.1 picked
  split at h
  · next performance reused =>
    obtain ⟨rfl, rfl, rfl⟩ := by simpa [pure, Except.pure] using h
    obtain ⟨stored, covers⟩ := Option.filter_eq_some_iff.1 reused
    obtain ⟨id, link, stored⟩ := Option.bind_eq_some_iff.1 stored
    exact ⟨bookDate, pickupDate, id, performance, booked, picked, link, stored, covers, rfl⟩
  · obtain ⟨a, assigned, h⟩ := bind_eq_ok.1 h
    obtain ⟨rfl, rfl, rfl⟩ := by simpa [pure, Except.pure] using h
    obtain ⟨key, groupingId, bookDate, pickupDate, grouped, booked, picked, linked, stored,
      covers⟩ := Selector.assignCarrier_eq_ok assigned
    have filed' : a.store.Filed := by
      rcases grouped with same | inserted
      · rwa [same]
      · exact filed.insertGrouping inserted
    rw [linked]
    exact ⟨bookDate, pickupDate, a.performance.id, a.performance, booked, picked, rfl,
      filed'.performances.mem_values_iff.1 stored, covers, rfl⟩

/-- A link to a performance that covers the dates is kept. -/
theorem resolveDiscount_of_linked {bookDate pickupDate : Date} {id : PerformanceId}
    {performance : CarrierPerformance} (booked : shipment.bookDate = some bookDate)
    (picked : shipment.requestedPickupDate = some pickupDate)
    (link : shipment.performanceId = some id) (stored : s.performances.get? id = some performance)
    (covers : performance.covers bookDate pickupDate) :
    r.resolveDiscount fresh shipment s = .ok (performance.linehaulRate, shipment, s) := by
  simp only [resolveDiscount, Shipment.requireBookDate_eq_ok.2 booked,
    Shipment.requirePickupDate_eq_ok.2 picked, bind, Except.bind, link, Option.bind_some, stored,
    Option.filter_some, covers, if_true, pure, Except.pure]

/-- With a grouping id that no performance uses, the discount and the links of the shipment
depend on the carriers alone, and the store stays as it is. -/
theorem resolveDiscount_congr {fresh' : GroupingId} {t : Store} (unused : s.UnusedGrouping fresh)
    (same : s.SameCarriers t)
    (h : r.resolveDiscount fresh shipment s = .ok (discount, linked, s')) :
    s' = s ∧ r.resolveDiscount fresh' shipment t = .ok (discount, linked, t) := by
  obtain ⟨bookDate, booked, h⟩ := bind_eq_ok.1 h
  obtain ⟨pickupDate, picked, h⟩ := bind_eq_ok.1 h
  cases link : (shipment.performanceId.bind s.performances.get?).filter
      (·.covers bookDate pickupDate) with
  | some performance =>
    rw [link] at h
    obtain ⟨rfl, rfl, rfl⟩ := by simpa [pure, Except.pure] using h
    refine ⟨rfl, bind_eq_ok.2 ⟨bookDate, booked, bind_eq_ok.2 ⟨pickupDate, picked, ?_⟩⟩⟩
    rw [same.performances, link]
    rfl
  | none =>
    rw [link] at h
    obtain ⟨a, assigned, h⟩ := bind_eq_ok.1 h
    obtain ⟨rfl, rfl, rfl⟩ := by simpa [pure, Except.pure] using h
    obtain ⟨stays, assigned'⟩ := Selector.assignCarrier_congr unused same assigned
    refine ⟨stays, bind_eq_ok.2 ⟨bookDate, booked, bind_eq_ok.2 ⟨pickupDate, picked, ?_⟩⟩⟩
    rw [same.performances, link]
    exact bind_eq_ok.2 ⟨_, assigned', rfl⟩

/-- In stores with the same carriers the discount and the links are the same. -/
theorem resolveDiscount_sameFate {t : Store} (same : s.SameCarriers t) :
    SameFate (fun x y => y.1 = x.1 ∧ y.2.1 = x.2.1 ∧ x.2.2.SameCarriers y.2.2)
      (r.resolveDiscount fresh shipment s) (r.resolveDiscount fresh shipment t) := by
  refine .after _ fun bookDate _ => .after _ fun pickupDate _ => ?_
  rw [same.performances]
  split
  · exact .ok ⟨rfl, rfl, same⟩
  · refine (Selector.assignCarrier_sameFate same).bind fun a b _ _ alike => ?_
    obtain ⟨performance, linked, same⟩ := alike
    rw [performance, linked]
    exact .ok ⟨rfl, rfl, same⟩

end Recalculator
end Haulage
