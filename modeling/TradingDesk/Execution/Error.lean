import TradingDesk.Ledger.Row
import TradingDesk.Order.Confirmation

/-!
# Execution Errors

An entry or an exit fails for one of these reasons.  Only two of them leave room for another
attempt: a broken connection, and an order that was turned down.
-/

namespace TradingDesk.Execution

/-- Why an entry or an exit failed. -/
inductive Error where
  | killSwitch (reason : String)
  | unsupportedSymbol (symbol broker : String)
  | invalidRequest (size price : Decimal)
  | alreadyOpen (symbol : String)
  | connection (text : String)
  | refused (refusal : Order.Refusal)
  | immediateLoss (expected actual slippage limit : Decimal)
  | noPosition (user symbol : String)
  | invalidFraction (fraction : Decimal)
  | ledger (error : Ledger.Error)
deriving DecidableEq

namespace Error

/-- The class of a failure. -/
def kind : Error → String
  | killSwitch _ => "kill_switch"
  | unsupportedSymbol _ _ => "unsupported_symbol"
  | invalidRequest _ _ | alreadyOpen _ => "order_rejected"
  | connection _ => "broker"
  | refused refusal => refusal.kind
  | immediateLoss _ _ _ _ => "immediate_loss"
  | noPosition _ _ => "position_not_found"
  | invalidFraction _ => "invalid_exit_fraction"
  | ledger _ => "ledger"

/-- The text of a failure. -/
def message : Error → String
  | killSwitch reason => "Kill switch active: " ++ reason
  | unsupportedSymbol symbol broker =>
    "Symbol " ++ symbol ++ " not supported by broker " ++ broker
  | invalidRequest size price =>
    "Order rejected: invalid order request: size $" ++ size.render ++ " at " ++ price.render
  | alreadyOpen symbol => "Order rejected: position already open for " ++ symbol
  | connection text => "Broker request failed: " ++ text
  | refused refusal => refusal.message
  | immediateLoss expected actual slippage limit =>
    "Immediate loss: slippage " ++ slippage.render ++ " exceeds " ++ limit.render ++
      " (expected " ++ expected.render ++ ", filled " ++ actual.render ++ ")"
  | noPosition user symbol => "No open position for " ++ user ++ " " ++ symbol
  | invalidFraction fraction => "Exit fraction " ++ fraction.render ++ " must be in (0, 1]"
  | ledger error => "Ledger error: " ++ error.message

/-- A failure as data. -/
def toJson (e : Error) : Json :=
  .failure e.kind e.message

/-- Whether a forced exit is tried once more after this failure. -/
def isRetryable : Error → Bool
  | invalidRequest _ _ | alreadyOpen _ | connection _ => true
  | refused refusal => refusal.isRejection
  | _ => false

end Error

end TradingDesk.Execution
