import TradingDesk.Gateway.Connection
import TradingDesk.Proofs.Execution.ReportedVolume
import TradingDesk.Proofs.Order.Checks

/-!
# Replies under an Error Status

The body of a reply to an order is read before its status counts.  A body that cannot be read makes
a reply under an error status a refusal, whose text is the status and the body, whatever symbol and
quantity were asked for.  A body that reads as a response stands for that response, just as under a
status of success, so the status alone never refuses it.  What a reply under an error status can
change of the book and the ledger therefore depends on its body alone: it has to be a usable answer
to the order on its own.
-/

namespace TradingDesk.Gateway

open Execution

variable {s : Settings} {balance : Decimal} {reply : Reply} {answer : Order.Response}
  {symbol : String}

/-! ## The answer that a reply stands for -/

end TradingDesk.Gateway
