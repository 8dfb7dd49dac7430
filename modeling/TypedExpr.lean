import TypedExpr.Evaluation
import TypedExpr.Exchange.Reader
import TypedExpr.Exchange.Writer
import TypedExpr.Inspection
import TypedExpr.Proofs.Negation
import TypedExpr.Proofs.Soundness
import TypedExpr.Standard
import TypedExpr.Proofs.Replacement
import TypedExpr.Proofs.Locality
import TypedExpr.Proofs.Kleene
import TypedExpr.Proofs.OperandOrder
import TypedExpr.Proofs.IdentityAdapter
import TypedExpr.Proofs.Scanning
import TypedExpr.Proofs.JsonText
import TypedExpr.Proofs.CivilDate
import TypedExpr.Proofs.CivilMonth
import TypedExpr.Proofs.DecimalText
import TypedExpr.Proofs.CalendarText
import TypedExpr.Proofs.ExchangeContent
import TypedExpr.Proofs.Exchange
import TypedExpr.Proofs.NullPropagation
import TypedExpr.Proofs.Duality
import TypedExpr.Proofs.TemporalOrder
import TypedExpr.Proofs.Registration
import TypedExpr.Proofs.SecondCount
import TypedExpr.Proofs.IntervalShift
import TypedExpr.Proofs.ShiftOrder
import TypedExpr.Proofs.UniformShift
import TypedExpr.Proofs.NumericOrder
import TypedExpr.Proofs.LongDivision
import TypedExpr.Proofs.ExactDecimal
import TypedExpr.Proofs.IntegerArithmetic
import TypedExpr.Proofs.DecimalArithmetic
import TypedExpr.Proofs.ExactQuotient
import TypedExpr.Proofs.ShortForms
import TypedExpr.Proofs.Flattening
import TypedExpr.Proofs.InstantOrder
import TypedExpr.Proofs.PathSplit
import TypedExpr.Proofs.EpochMillis
import TypedExpr.Proofs.ArgumentBinding
import TypedExpr.Proofs.Coercion
import TypedExpr.Proofs.EntityEquality
import TypedExpr.Proofs.CollectionSize
import TypedExpr.Proofs.Commutativity
import TypedExpr.Proofs.IntervalText
import TypedExpr.Proofs.BindingOrder
import TypedExpr.Proofs.ArgumentHistory
import TypedExpr.Proofs.AssignedCount
