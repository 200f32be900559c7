import WirelessMesh.Json.Value
import WirelessMesh.Route.Row

namespace WirelessMesh

/-- What the log says of a row. -/
structure RouteRecord where
  ip : IPv4
  eth : EtherAddress
  nextHopIp : IPv4
  seq : UInt32
  hops : UInt8
  cost : Option UInt32
  deriving DecidableEq

def RouteRecord.ofRow (r : RouteRow) : RouteRecord :=
  ⟨r.ip, r.eth, r.nextHopIp, r.seq, r.hops, r.metric.cost?⟩

/-- What there is to log. -/
inductive RouteLogEvent where
  | addedRoute (route : RouteRecord) (reason : RouteReason)
  | metricUpdate (neighbor : EtherAddress) (cost : Option UInt32)
  | routeDump (routes : List RouteRecord)
  deriving DecidableEq

/-- A line of the log. -/
structure RouteLogRecord where
  time : Time
  node : IPv4
  event : RouteLogEvent
  deriving DecidableEq

/-- The log of one node; the latest line comes first. -/
structure RouteLog where
  node : IPv4
  lines : List RouteLogRecord := []

namespace RouteLog

def write (log : RouteLog) (time : Time) (event : RouteLogEvent) : RouteLog :=
  { log with lines := ⟨time, log.node, event⟩ :: log.lines }

/-- The lines since the last call, in order, and the log without them. -/
def drain (log : RouteLog) : List RouteLogRecord × RouteLog :=
  (log.lines.reverse, { log with lines := [] })

end RouteLog

section Printing

def costJson : Option UInt32 → Json := .ofOption fun cost => .ofNat cost.toNat

def RouteRecord.toJson (r : RouteRecord) : Json :=
  .ofFields [("dest_ip", .ofString r.ip.render), ("dest_eth", .ofString r.eth.render),
    ("next_hop_ip", .ofString r.nextHopIp.render), ("seq_no", .ofNat r.seq.toNat),
    ("num_hops", .ofNat r.hops.toNat), ("metric", costJson r.cost)]

/-- The fields that an event adds to its line. -/
def RouteLogEvent.fields : RouteLogEvent → List (String × Json)
  | addedRoute route reason =>
    [("kind", .ofString "added_route"), ("route", route.toJson), ("reason", .ofString reason.name)]
  | metricUpdate neighbor cost =>
    [("kind", .ofString "metric_update"), ("neighbor", .ofString neighbor.render),
      ("metric", costJson cost)]
  | routeDump routes =>
    [("kind", .ofString "route_dump"), ("routes", .array (routes.map RouteRecord.toJson))]

def RouteLogRecord.toJson (r : RouteLogRecord) : Json :=
  .ofFields ([("t_ns", .ofNat r.time.ns), ("node", .ofString r.node.render)] ++ r.event.fields)

end Printing

end WirelessMesh
