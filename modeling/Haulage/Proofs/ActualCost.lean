import Haulage.Proofs.ItemOrigins

/-! How the status of an actual-cost item follows its amounts. With nothing but an estimate it
is conditionally approved, with the actual amount it is approved, and an update that adds or
takes away the actual amount moves it from one to the other. -/
namespace Haulage

namespace LineItem

/-- An item of the actual-cost code is conditionally approved without its actual amount only,
and approved with that amount or without an estimate only. -/
def FollowsAmounts (item : LineItem) : Prop :=
  item.tariffCode = actualCostCode →
    (item.status = .conditionallyApproved → item.actualAmount = none) ∧
      (item.status = .approved → item.actualAmount.isSome ∨ item.estimateAmount = none)

instance (item : LineItem) : Decidable item.FollowsAmounts :=
  inferInstanceAs (Decidable (item.tariffCode = actualCostCode → _))

variable {item item' new : LineItem} {now : Timestamp}

theorem FollowsAmounts.congr (follows : item.FollowsAmounts)
    (code : item'.tariffCode = item.tariffCode) (status : item'.status = item.status)
    (estimate : item'.estimateAmount = item.estimateAmount)
    (actual : item'.actualAmount = item.actualAmount) : item'.FollowsAmounts := by
  rw [FollowsAmounts, code, status, estimate, actual]
  exact follows

theorem followsAmounts_of_submitted (waiting : item.status = .submitted) :
    item.FollowsAmounts := by
  intro _
  rw [waiting]
  exact ⟨nofun, nofun⟩

theorem followsAmounts_of_status
    (status : item.status =
      if item.actualAmount.isSome then .approved else .conditionallyApproved) :
    item.FollowsAmounts := by
  intro _
  rw [status]
  split
  · next here => exact ⟨nofun, fun _ => .inl here⟩
  · next missing => exact ⟨fun _ => Option.not_isSome_iff_eq_none.1 missing, nofun⟩

/-- The action that an approval takes leads where the amounts say. -/
theorem followsAmounts_of_apply (h : item.apply item.approval now = .ok new) :
    new.FollowsAmounts := by
  obtain ⟨_, moved, rfl⟩ := apply_eq_ok h
  obtain ⟨rfl, -⟩ := LineItemStatus.transition_eq_ok.1 moved
  intro (actualCost : item.tariffCode = actualCostCode)
  show (item.approval.target = .conditionallyApproved → item.actualAmount = none) ∧
    (item.approval.target = .approved → item.actualAmount.isSome ∨ item.estimateAmount = none)
  cases action : item.approval with
  | conditionallyApprove => exact ⟨fun _ => (approval_eq_conditionallyApprove.1 action).2.2, nofun⟩
  | approve =>
    refine ⟨nofun, fun _ => ?_⟩
    by_contra neither
    rw [not_or, Option.not_isSome_iff_eq_none, ← ne_eq, ← Option.isSome_iff_ne_none] at neither
    obtain ⟨missing, estimated⟩ := neither
    have conditional := approval_eq_conditionallyApprove.2 ⟨actualCost, estimated, missing⟩
    rw [action] at conditional
    contradiction

/-- An item that the action may have moved already comes to the action's status. -/
theorem status_of_mayMove (action : LineItemAction) {status : LineItemStatus}
    (either : item.status = status ∨ item.status = action.target)
    (h : (if item.status = status then item.apply action now else .ok item) = .ok new) :
    new.status = action.target := by
  split at h
  · obtain ⟨_, moved, rfl⟩ := apply_eq_ok h
    exact (LineItemStatus.transition_eq_ok.1 moved).1
  · next elsewhere =>
    obtain rfl := Except.ok.inj h
    exact either.resolve_left elsewhere

end LineItem

namespace Calculator
variable {c : Calculator} {item new : LineItem} {tariff : TariffItem} {shipment : Shipment}
  {s : Store} {now : Timestamp}

/-- An update leaves an approved actual-cost item, conditionally or not, with the status that
its actual amount calls for. -/
theorem settleActualCost_status (approved : item.status.isPriceable)
    (h : c.settleActualCost item shipment s now = .ok new) :
    new.status = if item.actualAmount.isSome then .approved else .conditionallyApproved := by
  have either := LineItemStatus.isPriceable_iff.1 approved
  unfold settleActualCost at h
  split at h
  · next here =>
    rw [if_pos here]
    split at h
    · obtain ⟨mid, priced, h⟩ := bind_eq_ok.1 h
      obtain ⟨_, charge, _, _, same⟩ := price_eq_ok priced
      have kept : mid.status = item.status := by
        rw [same]
        rfl
      exact LineItem.status_of_mayMove .approve (kept ▸ either) h
    · exact LineItem.status_of_mayMove .approve either h
  · next missing =>
    rw [if_neg missing]
    have cleared : (if shipment.status.isPriceable then item.clearPrice else item).status =
        item.status := by split <;> rfl
    exact LineItem.status_of_mayMove .conditionallyApprove (cleared.symm ▸ either.symm) h

/-- Whatever the item was before, and whatever its code, after an update its status follows. -/
theorem followsAmounts_of_reprice (h : c.reprice item tariff shipment s now = .ok new) :
    new.FollowsAmounts := by
  obtain ⟨_, _, _, _, rfl⟩ := reprice_eq h
  unfold reprice at h
  split at h
  · next ready =>
    have status := settleActualCost_status ready.2 h
    exact LineItem.followsAmounts_of_status status
  · next other =>
    -- An actual-cost item that comes here has not been approved yet.
    intro actualCost
    have waiting : item.status = .submitted :=
      LineItemStatus.eq_submitted_of_not_isPriceable fun approved =>
        other ⟨decide_eq_true actualCost, approved⟩
    exact LineItem.followsAmounts_of_submitted ((applyTrigger_status h).trans waiting) actualCost

end Calculator

namespace Services
variable {v : Services} {s : Store} {op : Operation} {before : Option LineItem} {item : LineItem}

theorem Writes.followsAmounts (writes : v.Writes s op before item)
    (follows : ∀ old ∈ before, old.FollowsAmounts) : item.FollowsAmounts := by
  cases writes with
  | request applied =>
    exact LineItem.followsAmounts_of_submitted (RequestForm.applyTo_eq_ok applied).1.status
  | update _ _ _ _ repriced => exact Calculator.followsAmounts_of_reprice repriced
  | approve _ moved => exact (LineItem.followsAmounts_of_apply moved).congr rfl rfl rfl rfl
  | price _ _ changed _ =>
    refine (follows _ rfl).congr changed.tariffCode_eq changed.status_eq ?_ ?_ <;>
      cases changed <;> rfl
  | make _ made _ =>
    cases made
    exact fun _ => ⟨nofun, fun _ => .inr rfl⟩

/-- No operation parts the status of an actual-cost item from its amounts. -/
theorem followsAmounts_commit (follows : s.EachItem LineItem.FollowsAmounts) (op : Operation) :
    (v.commit s op).EachItem LineItem.FollowsAmounts :=
  eachItem_commit follows fun _ _ writes => writes.followsAmounts

/-- The actual amount of a service that was approved and charged is taken back: the service is
conditionally approved again, and not charged. -/
theorem followsAmounts_commit_sample :
    let start := Sample.linked.saveLineItem { Sample.estimate with
      id := Sample.id 2, status := .approved, approvedDate := some Sample.time
      actualAmount := some ⟨7500⟩, amount := some ⟨7500⟩, appliedRate := some ⟨100000⟩ }
    let op := .updateLineItem Sample.time (Sample.id 2)
      { tariffCode := "35A", location := .origin, estimateAmount := some ⟨5000⟩ }
    start.EachItem LineItem.FollowsAmounts ∧
      ((Sample.services.commit start op).lineItems.get? (Sample.id 2)).map
        (fun item => (item.status, item.amount)) = some (.conditionallyApproved, none) ∧
      (Sample.services.commit start op).EachItem LineItem.FollowsAmounts := by
  intro start op
  have follows : start.EachItem LineItem.FollowsAmounts :=
    Store.eachItem_of_forall (by decide +kernel)
  exact ⟨follows, by decide +kernel, followsAmounts_commit follows op⟩

end Services
end Haulage
