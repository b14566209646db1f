import Haulage.Proofs.ItemOrigins

/-! How line items advance. An item that is approved, conditionally or not, has the time of its
first approval, and no operation takes either away again; under any code but that of actual
costs an approval is final, and so is the code. -/
namespace Haulage

namespace LineItem

/-- The item has a time of approval exactly if it is approved, conditionally or not. -/
def Dated (item : LineItem) : Prop := item.approvedDate.isSome ↔ item.status ≠ .submitted

instance (item : LineItem) : Decidable item.Dated :=
  inferInstanceAs (Decidable (_ ↔ _))

/-- `item` is a later state of `old`: the time of approval stays, the item is not submitted
again, and an approval under any other code than that of actual costs is final. -/
structure Advances (old item : LineItem) : Prop where
  approvedDate : ∀ date, old.approvedDate = some date → item.approvedDate = some date
  status : old.status ≠ .submitted → item.status ≠ .submitted
  final : old.status = .approved → old.tariffCode ≠ actualCostCode →
    item.status = .approved ∧ item.tariffCode = old.tariffCode

namespace Advances
variable {old mid item : LineItem}

theorem refl (item : LineItem) : item.Advances item :=
  ⟨fun _ date => date, fun status => status, fun approved _ => ⟨approved, rfl⟩⟩

theorem trans (first : old.Advances mid) (second : mid.Advances item) : old.Advances item where
  approvedDate date dated := second.approvedDate date (first.approvedDate date dated)
  status moved := second.status (first.status moved)
  final approved other := by
    obtain ⟨approved', code⟩ := first.final approved other
    obtain ⟨approved'', code'⟩ := second.final approved' (code ▸ other)
    exact ⟨approved'', code'.trans code⟩

end Advances

/-- From `old` to `item` either nothing is done about the approval, or the item is approved in
one way or the other, at the time of its first approval or now. -/
inductive Considered (old item : LineItem) : Prop
  | kept : item.status = old.status → item.approvedDate = old.approvedDate → Considered old item
  | moved (now : Timestamp) : item.status ≠ .submitted →
      item.approvedDate = some (old.approvedDate.getD now) → Considered old item

namespace Considered
variable {old mid item : LineItem}

theorem of_apply {action : LineItemAction} {now : Timestamp}
    (h : old.apply action now = .ok item) : old.Considered item := by
  obtain ⟨_, moved, rfl⟩ := apply_eq_ok h
  obtain ⟨rfl, -⟩ := LineItemStatus.transition_eq_ok.1 moved
  refine .moved now ?_ rfl
  cases action <;> nofun

theorem trans (first : old.Considered mid) (second : mid.Considered item) :
    old.Considered item := by
  cases second with
  | kept status date =>
    cases first with
    | kept status' date' => exact .kept (status.trans status') (date.trans date')
    | moved now away date' => exact .moved now (status ▸ away) (date.trans date')
  | moved now away date =>
    cases first with
    | kept _ date' => exact .moved now away (date' ▸ date)
    | moved now' _ date' => exact .moved now' away (by rw [date, date', Option.getD_some])

theorem dated (considered : old.Considered item) (dated : old.Dated) : item.Dated := by
  cases considered with
  | kept status date =>
    rw [Dated, status, date]
    exact dated
  | moved now away date =>
    rw [Dated, date]
    exact iff_of_true rfl away

theorem approvedDate_eq (considered : old.Considered item) {date : Timestamp}
    (dated : old.approvedDate = some date) : item.approvedDate = some date := by
  cases considered with
  | kept _ same => exact same.trans dated
  | moved now _ first => rw [first, dated, Option.getD_some]

theorem status_ne (considered : old.Considered item) (moved : old.status ≠ .submitted) :
    item.status ≠ .submitted := by
  cases considered with
  | kept status _ => exact status ▸ moved
  | moved _ away _ => exact away

end Considered
end LineItem

theorem Calculator.Repriced.considered {c : Calculator} {link : Except Error DiscountRate}
    {shipment : Shipment} {item new : LineItem} (repriced : c.Repriced link shipment item new) :
    item.Considered new := by
  induction repriced with
  | priced => exact .kept rfl rfl
  | cleared => exact .kept rfl rfl
  | early => exact .kept rfl rfl
  | moved _ h ih => exact ih.trans (.of_apply h)

theorem RequestForm.applyTo_approvedDate {form : RequestForm} {item item' : LineItem}
    {s s' : Store} (h : form.applyTo item s = .ok (item', s')) :
    item'.approvedDate = item.approvedDate := by
  obtain ⟨_, _, _, _, _, _, _, _, rfl⟩ := applyTo_parts h
  rfl

namespace Services
variable {v : Services} {s : Store} {op : Operation} {key : LineItemId} {old item : LineItem}

theorem Writes.considered (writes : v.Writes s op (some old) item) : old.Considered item := by
  cases writes with
  | update _ mutable_ _ applied repriced =>
    have refilled := (RequestForm.applyTo_eq_ok applied).1
    have opened : old.isInvoiced = false := LineItem.ensureMutable_eq_ok mutable_
    have date := RequestForm.applyTo_approvedDate applied
    have filled : old.Considered _ := .kept refilled.status date
    exact filled.trans
      (Calculator.repriced_reprice (refilled.isInvoiced.trans opened) repriced).considered
  | approve _ moved => exact (LineItem.Considered.of_apply moved).trans (.kept rfl rfl)
  | price _ _ changed _ => cases changed <;> exact .kept rfl rfl

theorem Writes.dated {before : Option LineItem} (writes : v.Writes s op before item)
    (dated : ∀ old ∈ before, old.Dated) : item.Dated := by
  cases before with
  | some old => exact writes.considered.dated (dated old rfl)
  | none =>
    cases writes with
    | request applied =>
      rw [LineItem.Dated, RequestForm.applyTo_approvedDate applied,
        (RequestForm.applyTo_eq_ok applied).1.status]
      exact iff_of_false nofun fun away => away rfl
    | make _ made _ =>
      cases made
      exact iff_of_true rfl nofun

theorem Writes.advances (writes : v.Writes s op (some old) item) : old.Advances item where
  approvedDate _ := writes.considered.approvedDate_eq
  status := writes.considered.status_ne
  final approved other := by
    cases writes with
    | update _ mutable_ =>
      exact absurd (LineItem.actualCost_of_ensureMutable mutable_ approved).1 other
    | approve _ moved =>
      obtain ⟨_, changed, rfl⟩ := LineItem.apply_eq_ok moved
      rcases (LineItemStatus.transition_eq_ok.1 changed).2.2 with waiting | actualCost
      · exact absurd (approved.symm.trans waiting) (by decide)
      · exact absurd actualCost other
    | price _ _ changed _ =>
      exact ⟨changed.status_eq.trans approved, changed.tariffCode_eq⟩

/-- The store has an item under the key all through the operations. -/
def Survives (s : Store) (ops : List (Services × Operation)) (key : LineItemId) : Prop :=
  ∀ done, done <+: ops → ((commitAll s done).lineItems.get? key).isSome

theorem survives_nil : Survives s [] key ↔ (s.lineItems.get? key).isSome := by
  constructor
  · intro survives
    exact survives [] (List.prefix_refl [])
  · intro here done part
    obtain rfl := List.prefix_nil.1 part
    exact here

theorem survives_cons {first : Services × Operation} {rest : List (Services × Operation)} :
    Survives s (first :: rest) key ↔
      (s.lineItems.get? key).isSome ∧ Survives (first.1.commit s first.2) rest key := by
  constructor
  · intro survives
    refine ⟨survives [] List.nil_prefix, fun done part => ?_⟩
    exact survives (first :: done) (List.cons_prefix_cons.2 ⟨rfl, part⟩)
  · rintro ⟨here, survives⟩ done part
    cases done with
    | nil => exact here
    | cons op done =>
      obtain ⟨rfl, within⟩ := List.cons_prefix_cons.1 part
      exact survives done within

theorem Survives.isSome {ops : List (Services × Operation)} (survives : Survives s ops key) :
    (s.lineItems.get? key).isSome := survives [] List.nil_prefix

theorem advances_commit (filed : s.Filed) (fresh : op.IdsFresh s)
    (stored : s.lineItems.get? key = some old)
    (found : (v.commit s op).lineItems.get? key = some item) : old.Advances item := by
  rcases commit_successor filed fresh stored found with rfl | writes
  · exact .refl item
  · exact writes.advances

theorem advances_of_survives (filed : s.Filed) {ops : List (Services × Operation)}
    (fresh : Along (fun _ s op => op.IdsFresh s) s ops) (survives : Survives s ops key)
    (stored : s.lineItems.get? key = some old)
    (found : (commitAll s ops).lineItems.get? key = some item) : old.Advances item := by
  induction ops generalizing s old with
  | nil =>
    obtain rfl := Option.some.inj (stored.symm.trans found)
    exact .refl old
  | cons op rest ih =>
    obtain ⟨here, later⟩ := fresh
    have survives' := (survives_cons.1 survives).2
    obtain ⟨mid, between⟩ := Option.isSome_iff_exists.1 survives'.isSome
    exact (advances_commit filed here stored between).trans
      (ih (filed_commit filed) later survives' between found)

/-- Approvals advance through a run: in every store that it comes to the items that are not
merely submitted are those with a time of approval, and an item that stays advances. -/
theorem advances_commitAll (filed : s.Filed) (dated : s.EachItem LineItem.Dated)
    {ops : List (Services × Operation)} (fresh : Along (fun _ s op => op.IdsFresh s) s ops) :
    (∀ done, done <+: ops → (commitAll s done).EachItem LineItem.Dated) ∧
      ∀ earlier later key old item, earlier ++ later <+: ops →
        (commitAll s earlier).lineItems.get? key = some old →
        Survives (commitAll s earlier) later key →
        (commitAll s (earlier ++ later)).lineItems.get? key = some item → old.Advances item := by
  constructor
  · intro done _
    exact commitAll_of_commit (P := Store.EachItem LineItem.Dated)
      (fun _ _ _ dated => eachItem_commit dated fun _ _ writes => writes.dated) dated done
  · intro earlier later key old item part stored survives found
    obtain ⟨rest, rfl⟩ := part
    obtain ⟨-, fresh'⟩ := along_append.1 (along_append.1 fresh).1
    rw [commitAll_append] at found
    exact advances_of_survives (filed_commitAll filed earlier) fresh' survives stored found

/-- A third party's service is approved on its estimate. Later its actual amount comes in, the
shipment is recalculated, and an attempt to approve it again fails: it is approved, and as of
the day on which it first was. -/
theorem advances_commitAll_sample :
    let form : RequestForm :=
      { tariffCode := "35A", location := .origin, estimateAmount := some ⟨5000⟩ }
    let tomorrow : Timestamp := { Sample.time with date := Sample.day 19001 }
    let earlier : List (Services × Operation) :=
      [(Sample.services, .createRequest (Sample.id 3) Sample.time (Sample.id 1) form),
        (Sample.services, .approveLineItem Sample.time (Sample.id 3))]
    let later : List (Services × Operation) :=
      [(Sample.services,
          .updateLineItem tomorrow (Sample.id 3) { form with actualAmount := some ⟨7500⟩ }),
        (Sample.services, .recalculate Sample.ids tomorrow (Sample.id 1)),
        (Sample.services, .approveLineItem tomorrow (Sample.id 3))]
    Sample.linked.Filed ∧ Sample.linked.EachItem LineItem.Dated ∧
      Along (fun _ s op => op.IdsFresh s) Sample.linked (earlier ++ later) ∧
      Survives (commitAll Sample.linked earlier) later (Sample.id 3) ∧
      (commitAll Sample.linked (earlier ++ later)).EachItem LineItem.Dated ∧
      ∃ old item, (commitAll Sample.linked earlier).lineItems.get? (Sample.id 3) = some old ∧
        (commitAll Sample.linked (earlier ++ later)).lineItems.get? (Sample.id 3) = some item ∧
        old.status = .conditionallyApproved ∧ item.status = .approved ∧
        item.approvedDate = some Sample.time ∧ old.Advances item := by
  intro form tomorrow earlier later
  have filed : Sample.linked.Filed := Sample.filed_store.saveShipment _
  have dated : Sample.linked.EachItem LineItem.Dated := Store.eachItem_of_forall (by decide +kernel)
  have unused : Sample.linked.lineItems.get? (Sample.id 3) = none := by decide +kernel
  have fresh : Along (fun _ s op => op.IdsFresh s) Sample.linked (earlier ++ later) :=
    ⟨unused, trivial, trivial, ⟨by decide +kernel, by decide +kernel⟩, trivial, trivial⟩
  have survives : Survives (commitAll Sample.linked earlier) later (Sample.id 3) := by
    refine survives_cons.2 ⟨?_, survives_cons.2 ⟨?_, survives_cons.2 ⟨?_, survives_nil.2 ?_⟩⟩⟩ <;>
      decide +kernel
  have approved : ((commitAll Sample.linked earlier).lineItems.get? (Sample.id 3)).map (·.status) =
      some .conditionallyApproved := by decide +kernel
  have settled : ((commitAll Sample.linked (earlier ++ later)).lineItems.get? (Sample.id 3)).map
      (fun item => (item.status, item.approvedDate)) = some (.approved, some Sample.time) := by
    decide +kernel
  obtain ⟨old, stored, status⟩ := Option.map_eq_some_iff.1 approved
  obtain ⟨item, found, same⟩ := Option.map_eq_some_iff.1 settled
  obtain ⟨status', date⟩ := Prod.mk.inj same
  obtain ⟨all, advances⟩ := advances_commitAll filed dated fresh
  exact ⟨filed, dated, fresh, survives, all _ (List.prefix_refl _), old, item, stored, found,
    status, status', date, advances earlier later _ old item (List.prefix_refl _) stored survives
      found⟩

end Services
end Haulage
