import Haulage.Main
import Haulage.Proofs.Accounting
import Haulage.Proofs.ActualCost
import Haulage.Proofs.Age
import Haulage.Proofs.Approval
import Haulage.Proofs.ApprovalOrder
import Haulage.Proofs.Assignment
import Haulage.Proofs.BaseCharges
import Haulage.Proofs.BaseVerification
import Haulage.Proofs.Baseline
import Haulage.Proofs.Basket.Alike
import Haulage.Proofs.Basket.Growth
import Haulage.Proofs.Basket.Locality
import Haulage.Proofs.Basket.UpToDate
import Haulage.Proofs.Calendar.Date
import Haulage.Proofs.Calendar.Timestamp
import Haulage.Proofs.CarrierChoice
import Haulage.Proofs.ChargeBounds
import Haulage.Proofs.Charges
import Haulage.Proofs.ConditionalApproval
import Haulage.Proofs.Decimal.Exact
import Haulage.Proofs.Decimal.Nearest
import Haulage.Proofs.Decimal.Number
import Haulage.Proofs.Decimal.Product
import Haulage.Proofs.Decimal.Quotient
import Haulage.Proofs.Decimal.Text
import Haulage.Proofs.Delivery
import Haulage.Proofs.FieldMessages
import Haulage.Proofs.Filing
import Haulage.Proofs.Footprint
import Haulage.Proofs.FreshPrices
import Haulage.Proofs.Groupings.Index
import Haulage.Proofs.Groupings.Race
import Haulage.Proofs.Idempotence
import Haulage.Proofs.Identifier
import Haulage.Proofs.Invoicing
import Haulage.Proofs.ItemOrigins
import Haulage.Proofs.Json.Lexeme
import Haulage.Proofs.Json.Record
import Haulage.Proofs.Json.Text
import Haulage.Proofs.LineItemCharge
import Haulage.Proofs.LinehaulCharge
import Haulage.Proofs.Locality
import Haulage.Proofs.Measurements
import Haulage.Proofs.Operation
import Haulage.Proofs.PricingBasis
import Haulage.Proofs.PricingCarrier
import Haulage.Proofs.PricingGate
import Haulage.Proofs.QuotedCharges
import Haulage.Proofs.Rates.Index
import Haulage.Proofs.Rates.Lookup
import Haulage.Proofs.Rates.Validation
import Haulage.Proofs.Reload
import Haulage.Proofs.RepeatedUpdate
import Haulage.Proofs.Requests
import Haulage.Proofs.Results
import Haulage.Proofs.Sample
import Haulage.Proofs.Seeding
import Haulage.Proofs.Settlement
import Haulage.Proofs.SitLifecycle
import Haulage.Proofs.SitRecords
import Haulage.Proofs.SoundItems
import Haulage.Proofs.StayBilling
import Haulage.Proofs.StayCharges
import Haulage.Proofs.Supply
import Haulage.Proofs.Text.Numeral
import Haulage.Proofs.Units
import Haulage.Proofs.Validation
import Haulage.Proofs.WeighedItems
import Haulage.Proofs.Wire.Records
import Haulage.Proofs.Wire.Values
import Haulage.Proofs.Withdrawal
import Haulage.Warehousing
