import TradingDesk.Binary64.Fixed
import TradingDesk.Ledger.Basic

/-!
# Ledger Statistics

The statistics of a user, or of all users, count trades by kind and exits by the sign of their
result, and add up results, fees and values.  The sums run over the trades newest first, so their
scales follow that order, and can leave the range of decimals.  Wins are counted as a share of the
exits that won or lost.
-/

namespace TradingDesk.Ledger

/-- Counts and sums over the trades of the ledger. -/
structure Statistics where
  totalTrades : Nat
  entries : Nat
  exits : Nat
  winningExits : Nat
  losingExits : Nat
  realizedProfit : Decimal
  totalFees : Decimal
  totalVolume : Decimal
  openPositions : Nat
deriving DecidableEq

namespace Statistics

/-- The statistics of no trades. -/
def zero : Statistics :=
  ⟨0, 0, 0, 0, 0, Decimal.zero, Decimal.zero, Decimal.zero, 0⟩

/-- The share of exits that won among those that won or lost. -/
def winRate (s : Statistics) : Float :=
  let decided := s.winningExits + s.losingExits
  if decided = 0 then 0.0
  else Binary64.ofNat s.winningExits / Binary64.ofNat decided

/-- The realised result less all fees. -/
def netProfit? (s : Statistics) : Option Decimal :=
  Decimal.sub? s.realizedProfit s.totalFees

/-- The statistics with one more trade. -/
def add? (s : Statistics) (t : Trade) : Option Statistics := do
  let fees ← Decimal.add? s.totalFees t.fee
  let volume ← Decimal.add? s.totalVolume (← t.notional?)
  let s := { s with totalFees := fees, totalVolume := volume }
  match t.kind with
  | .entry => some { s with entries := s.entries + 1 }
  | .exit =>
    let profit ← Decimal.add? s.realizedProfit t.profit
    some { s with
      exits := s.exits + 1
      realizedProfit := profit
      winningExits := s.winningExits + (if Decimal.zero < t.profit then 1 else 0)
      losingExits := s.losingExits + (if t.profit < Decimal.zero then 1 else 0) }

/-- The statistics as seven lines of text. -/
def text? (s : Statistics) : Option String := do
  let net ← s.netProfit?
  some <| "\n".intercalate
    ["Trades:         " ++ toString s.totalTrades ++ " (" ++ toString s.entries ++ " entries, " ++
      toString s.exits ++ " exits)",
    "Win rate:       " ++ Binary64.fixedText (s.winRate * 100.0) 1 ++ "% (" ++
      toString s.winningExits ++ "W / " ++ toString s.losingExits ++ "L)",
    "Realized PnL:   $" ++ s.realizedProfit.renderFixed 2,
    "Fees:           $" ++ s.totalFees.renderFixed 2,
    "Net PnL:        $" ++ net.renderFixed 2,
    "Volume:         $" ++ s.totalVolume.renderFixed 2,
    "Open positions: " ++ toString s.openPositions]

/-- Reads statistics. -/
def ofJson? : Json → Option Statistics :=
  let count? := Record.Typing.nat? .strict limit64
  Record.read? do
    let totalTrades ← Record.required ["total_trades"] count?
    let entries ← Record.required ["entries"] count?
    let exits ← Record.required ["exits"] count?
    let winningExits ← Record.required ["winning_exits"] count?
    let losingExits ← Record.required ["losing_exits"] count?
    let realizedProfit ← Record.required ["realized_pnl"] Record.decimal?
    let totalFees ← Record.required ["total_fees"] Record.decimal?
    let totalVolume ← Record.required ["total_volume"] Record.decimal?
    let openPositions ← Record.required ["open_positions"] count?
    pure ⟨totalTrades, entries, exits, winningExits, losingExits, realizedProfit, totalFees,
      totalVolume, openPositions⟩

/-- The fields of statistics. -/
def toJson (s : Statistics) : Json :=
  .obj [("total_trades", .nat s.totalTrades), ("entries", .nat s.entries), ("exits", .nat s.exits),
    ("winning_exits", .nat s.winningExits), ("losing_exits", .nat s.losingExits),
    ("realized_pnl", .str s.realizedProfit.render), ("total_fees", .str s.totalFees.render),
    ("total_volume", .str s.totalVolume.render), ("open_positions", .nat s.openPositions)]

/-- The fields of statistics, with what follows from them. -/
def report? (s : Statistics) : Option Json := do
  let net ← s.netProfit?
  let text ← s.text?
  some (s.toJson.extend
    [("win_rate", .real s.winRate), ("net_pnl", .str net.render), ("text", .str text)])

end Statistics

/-- The statistics of a user, or of all users. -/
def statistics? (l : Ledger) (user : Option String) : Option (Except Error Statistics) :=
  match l.readTrades user (-1) with
  | .error e => some (.error e)
  | .ok trades => do
    let start : Statistics :=
      { Statistics.zero with
        totalTrades := trades.length
        openPositions := (l.openRows user).length }
    let s ← trades.foldlM Statistics.add? start
    some (.ok s)

end TradingDesk.Ledger
