import WirelessMesh.Address.Ether
import WirelessMesh.Address.IPv4
import WirelessMesh.Metric.Basic
import WirelessMesh.Time

/-!
A row of a route table, and what every row has to satisfy. Even sequence numbers come from the
destination itself; a node that finds a route broken marks it with the next odd number.
-/
namespace WirelessMesh

/-- Whether a sequence number marks a broken route. -/
def isOddSeq (seq : UInt32) : Bool := seq.toNat % 2 = 1

/-- A route to a destination. -/
structure RouteRow where
  ip : IPv4
  eth : EtherAddress
  nextHopIp : IPv4
  nextHopEth : EtherAddress
  seq : UInt32
  /-- The number of links to the destination; none if the route is broken. -/
  hops : UInt8
  metric : Metric
  /-- How long the row lasts from its last update. -/
  ttl : Time
  updatedAt : Time
  /-- When the route has settled, so that it may be used. -/
  settledAt : Time
  deriving DecidableEq

/-- Why a row was written. -/
inductive RouteReason where
  | newDest
  | newSeq
  | betterMetric
  | sameNextHop
  | brokenAdvert
  | expired
  | nextHopExpired
  deriving DecidableEq

def RouteReason.name : RouteReason → String
  | newDest => "new_dest"
  | newSeq => "new_seq"
  | betterMetric => "better_metric"
  | sameNextHop => "same_next_hop"
  | brokenAdvert => "broken_advert"
  | expired => "expired"
  | nextHopExpired => "next_hop_expired"

/-- A breach of what a route table promises. -/
inductive RouteViolation where
  /-- A row has hops and an odd sequence number, or neither. -/
  | seqParity (row : IPv4) (hops : UInt8) (seq : UInt32)
  /-- A broken row has a usable metric. -/
  | brokenButGood (row : IPv4)
  /-- A row of one hop has another next hop than its destination. -/
  | indirectOneHop (row : IPv4)
  | broadcastDestination
  /-- A usable row has no timer that will end it. -/
  | noExpiryTimer (row : IPv4)
  /-- A row that is not usable has a timer. -/
  | needlessTimer (row : IPv4)
  /-- The old row of a destination is not older than the current one. -/
  | oldRowNotOlder (row : IPv4)
  /-- A row without a metric where such rows are not kept. -/
  | badMetric
  /-- A row that is not one hop away is to have the metric of a link. -/
  | notOneHop
  /-- The route that ran out was not usable. -/
  | expiredNotGood (row : IPv4)
  deriving DecidableEq

namespace RouteViolation

/-- The promise that was broken, as the message states it. -/
def promise : RouteViolation → String
  | seqParity .. => "(self.num_hops > 0) != (self.seq_no & 1 == 1)"
  | brokenButGood _ => "!self.broken() || !self.metric.good()"
  | indirectOneHop _ => "self.next_hop_ip == self.dest_ip && self.next_hop_eth == self.dest_eth"
  | broadcastDestination => "!self.dest_eth.is_broadcast()"
  | noExpiryTimer _ => "binding.is_some_and(|b| b.dest == *dest && b.timer.is_armed(sim))"
  | needlessTimer _ => "binding.is_none()"
  | oldRowNotOlder _ => "old.seq_no < cur.seq_no"
  | badMetric => "!self.cfg.ignore_invalid_routes || r.metric.good()"
  | notOneHop => "r.num_hops == 1"
  | expiredNotGood _ => "r.as_ref().is_some_and(|r| r.good())"

/-- What the message adds about the row at fault. -/
def detail? : RouteViolation → Option String
  | seqParity row hops seq =>
    some ("dest " ++ row.render ++ " hops " ++ toString hops.toNat ++ " seq " ++ toString seq.toNat)
  | brokenButGood row => some ("dest " ++ row.render)
  | indirectOneHop row => some ("dest " ++ row.render)
  | noExpiryTimer row => some ("good route to " ++ row.render ++ " has no live expiry timer")
  | needlessTimer row => some ("route to " ++ row.render ++ " is not good but has a timer")
  | oldRowNotOlder row => some ("old route to " ++ row.render ++ " is not older")
  | expiredNotGood row => some ("expired route to " ++ row.render ++ " was not good")
  | broadcastDestination | badMetric | notOneHop => none

/-- The message for people. -/
def message (v : RouteViolation) : String :=
  "route table invariant violated: " ++ v.promise
    ++ match v.detail? with
      | some detail => ": " ++ detail
      | none => ""

end RouteViolation

namespace RouteRow

/-- A route to a destination that is the next hop itself. Its metric is still to be found. -/
def oneHop (ip : IPv4) (eth : EtherAddress) (seq : UInt32) (ttl now : Time) : RouteRow :=
  ⟨ip, eth, ip, eth, seq, 1, .bad, ttl, now, now⟩

def isBroken (r : RouteRow) : Bool := r.hops = 0

/-- Whether packets can take this route. -/
def isGood (r : RouteRow) : Bool := !r.isBroken && r.metric.isGood

/-- The row as broken from now on, under an odd sequence number. -/
def invalidate (r : RouteRow) (now : Time) : RouteRow :=
  { r with
    seq := if isOddSeq r.seq then r.seq else r.seq + 1
    hops := 0
    metric := .bad
    updatedAt := now
    settledAt := now }

/-- How much longer the row lasts. -/
def remaining (r : RouteRow) (now : Time) : Time := r.ttl - (now - r.updatedAt)

/-- Checks what every row has to satisfy. -/
def check (r : RouteRow) : Except RouteViolation Unit :=
  if (r.hops != 0) == isOddSeq r.seq then .error (.seqParity r.ip r.hops r.seq)
  else if r.isBroken && r.metric.isGood then .error (.brokenButGood r.ip)
  else if r.hops = 1 ∧ ¬ (r.nextHopIp = r.ip ∧ r.nextHopEth = r.eth) then
    .error (.indirectOneHop r.ip)
  else if r.eth.isBroadcast then .error .broadcastDestination
  else .ok ()

end RouteRow

end WirelessMesh
