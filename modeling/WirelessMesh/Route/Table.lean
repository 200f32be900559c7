import WirelessMesh.Air.Medium
import WirelessMesh.Config.Settings
import WirelessMesh.Directory
import WirelessMesh.Probing.Rounds
import WirelessMesh.Route.Log
import WirelessMesh.Wire.Advert

/-!
The route table of a node: distance vectors with sequence numbers from the destinations. Of two
routes the one with the newer number is taken, of two with one number the better one. Exactly the
usable rows have a timer that ends them; every write checks this before and after.
-/
namespace WirelessMesh

/-- What a table knows of a destination. -/
structure Route where
  row : RouteRow
  /-- The row before this one, which stays in use until this one has settled. -/
  old : Option RouteRow
  /-- The timer that ends the row. -/
  expiry : TimerSlot

namespace Route

/-- Checks the row, and that it has a timer exactly if it is usable. -/
def check (r : Route) (sim : Simulator MeshEvent) : Except RouteViolation Unit := do
  r.row.check
  if r.row.isGood then
    if r.expiry.isArmed sim then .ok () else .error (.noExpiryTimer r.row.ip)
  else if r.expiry.isNone then .ok ()
  else .error (.needlessTimer r.row.ip)

/-- Checks that the old row is older. -/
def checkOld (r : Route) : Except RouteViolation Unit :=
  match r.old with
  | none => .ok ()
  | some old => if old.seq < r.row.seq then .ok () else .error (.oldRowNotOlder r.row.ip)

/-- Whether the old row is still to be used. -/
def usesOld (r : Route) (now : Time) : Bool :=
  match r.old with
  | none => false
  | some old => r.row.isGood && old.isGood && now < r.row.settledAt && old.seq < r.row.seq

end Route

/-- The routes of a node, its own sequence number, its timers and its log. -/
structure RouteTable where
  node : NodeId
  ip : IPv4
  eth : EtherAddress
  config : RoutingConfig
  seq : UInt32
  routes : Directory IPv4 Route
  random : RandomSource
  advertTimer : TimerSlot
  triggerTimer : TimerSlot
  dumpTimer : TimerSlot
  lastAdvert : Option Time
  log : Option RouteLog

/-- What was there of a destination when a row is written for it. -/
structure Predecessor where
  row : Option RouteRow
  old : Option RouteRow
  expiry : TimerSlot

def Predecessor.ofRoute : Option Route → Predecessor
  | some route => ⟨some route.row, route.old, route.expiry⟩
  | none => ⟨none, none, none⟩

/-- The old row to keep beside a new one: the row it replaces if that is older, else what was kept
before. -/
def Predecessor.kept (p : Predecessor) (useOldRoute : Bool) (seq : UInt32) : Option RouteRow :=
  match p.row with
  | some row => if useOldRoute && row.seq < seq then some row else p.old
  | none => p.old

namespace RouteTable

/-- An empty table. -/
def create (node : NodeId) (ip : IPv4) (eth : EtherAddress) (config : RoutingConfig)
    (random : RandomSource) : Except ConfigError RouteTable := do
  config.validate
  return ⟨node, ip, eth, config, 0, .empty, random, none, none, none, none, none⟩

def setLog (t : RouteTable) (log : RouteLog) : RouteTable := { t with log := some log }

/-- Takes the lines of the log since the last call. -/
def drainLog (t : RouteTable) : List RouteLogRecord × RouteTable :=
  match t.log with
  | none => ([], t)
  | some log =>
    let (lines, log) := log.drain
    (lines, { t with log := some log })

def note (t : RouteTable) (now : Time) (event : RouteLogEvent) : RouteTable :=
  { t with log := t.log.map (·.write now event) }

def row? (t : RouteTable) (ip : IPv4) : Option RouteRow := (t.routes.get? ip).map (·.row)

def old? (t : RouteTable) (ip : IPv4) : Option RouteRow := (t.routes.get? ip).bind (·.old)

/-- The rows in ascending order of their destinations. -/
def rows (t : RouteTable) : List RouteRow := t.routes.values.map (·.row)

/-- The destinations whose row has a timer that is still to fire. -/
def armedDestinations (t : RouteTable) (sim : Simulator MeshEvent) : List IPv4 :=
  (t.routes.entries.filter fun entry => entry.2.expiry.isArmed sim).map (·.1)

/-- The destinations that can be reached. -/
def goodDestinations (t : RouteTable) : List IPv4 :=
  (t.routes.entries.filter fun entry => entry.2.row.isGood).map (·.1)

/-- The row by which packets go now. -/
def served (t : RouteTable) (now : Time) (route : Route) : RouteRow :=
  if t.config.useOldRoute && route.usesOld now then route.old.getD route.row else route.row

/-- Whether the old row of a destination is in use. -/
def servesOld (t : RouteTable) (ip : IPv4) (now : Time) : Bool :=
  t.config.useOldRoute && (t.routes.get? ip).any (·.usesOld now)

/-- The rows in use, one for each destination. -/
def servedRows (t : RouteTable) (now : Time) : List RouteRow :=
  t.routes.values.map (t.served now)

/-- The way to a destination, if there is one. -/
def lookup? (t : RouteTable) (ip : IPv4) (now : Time) : Option RouteRow :=
  ((t.routes.get? ip).map (t.served now)).filter (·.isGood)

/-- Checks every row with its timer, then every old row. -/
def check (t : RouteTable) (sim : Simulator MeshEvent) : Except RouteViolation Unit := do
  t.routes.values.forM (·.check sim)
  t.routes.values.forM (·.checkOld)

/-- Puts a row in place: its timer, the old row beside it, a line in the log. -/
def place (t : RouteTable) (before : Predecessor) (r : RouteRow) (why : RouteReason)
    (sim : Simulator MeshEvent) : RouteTable × Simulator MeshEvent :=
  let sim := before.expiry.disarm sim
  let (expiry, sim) :=
    if r.isGood then
      TimerSlot.rearm none sim (min r.ttl t.config.timeout) (.timer t.node (.expiry r.ip))
    else (none, sim)
  let route : Route := ⟨r, before.kept t.config.useOldRoute r.seq, expiry⟩
  let t := t.note sim.now (.addedRoute (.ofRow r) why)
  ({ t with routes := t.routes.insert r.ip route }, sim)

/-- Writes a row in place of what was there. -/
def write (t : RouteTable) (before : Predecessor) (r : RouteRow) (why : RouteReason)
    (sim : Simulator MeshEvent) : Except RouteViolation (RouteTable × Simulator MeshEvent) := do
  t.check sim
  r.check
  if t.config.ignoreInvalidRoutes && !r.metric.isGood then .error .badMetric else .ok ()
  let (t, sim) := t.place before r why sim
  t.check sim
  return (t, sim)

/-- Writes a row in place of the one that the table has for its destination. -/
def insertRoute (t : RouteTable) (r : RouteRow) (why : RouteReason) (sim : Simulator MeshEvent) :
    Except RouteViolation (RouteTable × Simulator MeshEvent) :=
  t.write (.ofRoute (t.routes.get? r.ip)) r why sim

/-- Takes a destination out of the table. -/
def removeRoute (t : RouteTable) (ip : IPv4) (sim : Simulator MeshEvent) :
    Except RouteViolation (RouteTable × Simulator MeshEvent) := do
  let sim := (Predecessor.ofRoute (t.routes.get? ip)).expiry.disarm sim
  let t := { t with routes := t.routes.erase ip }
  t.check sim
  return (t, sim)

/-- A row as broken from now on. Word of it lasts as long as any route. -/
def brokenRow (t : RouteTable) (r : RouteRow) (now : Time) : RouteRow :=
  { r.invalidate now with ttl := t.config.timeout }

/-- Writes a broken row, or takes its destination out where such rows are not kept. -/
def writeBroken (t : RouteTable) (before : Predecessor) (r : RouteRow) (why : RouteReason)
    (sim : Simulator MeshEvent) : Except RouteViolation (RouteTable × Simulator MeshEvent) :=
  if t.config.ignoreInvalidRoutes then t.removeRoute r.ip sim else t.write before r why sim

/-- Breaks the row that the table has for a destination. -/
def breakRoute (t : RouteTable) (r : RouteRow) (why : RouteReason) (sim : Simulator MeshEvent) :
    Except RouteViolation (RouteTable × Simulator MeshEvent) :=
  t.writeBroken (.ofRoute (t.routes.get? r.ip)) r why sim

/-- Sees to it that an advert goes out soon, but not too soon after the last one. -/
def requestTrigger (t : RouteTable) (sim : Simulator MeshEvent) :
    RouteTable × Simulator MeshEvent :=
  if t.triggerTimer.isArmed sim then (t, sim)
  else
    let earliest :=
      match t.lastAdvert with
      | some sent => sent + t.config.minTriggered
      | none => sim.now
    let (triggerTimer, sim) := t.triggerTimer.rearm sim (earliest - sim.now) (.timer t.node .trigger)
    ({ t with triggerTimer }, sim)

/-- The usable rows that go by way of a neighbour. -/
def rowsVia (t : RouteTable) (ip : IPv4) : List RouteRow :=
  t.rows.filter fun r => r.isGood && r.nextHopIp == ip

/-- Breaks a row whose time is over, and with a neighbour's row all that go by way of it. -/
def expireRow (t : RouteTable) (route : Route) (sim : Simulator MeshEvent) :
    Except RouteViolation (RouteTable × Simulator MeshEvent) := do
  let now := sim.now
  let ip := route.row.ip
  let t := { t with routes := t.routes.erase ip }
  let via := if route.row.hops = 1 then t.rowsVia ip else []
  let (t, sim) ← t.writeBroken ⟨none, route.old, none⟩ (t.brokenRow route.row now) .expired sim
  let (t, sim) ← via.foldlM (fun (t, sim) r =>
    t.breakRoute (t.brokenRow r now) .nextHopExpired sim) (t, sim)
  return t.requestTrigger sim

/-- The timer of a destination has fired. Nothing happens if the destination has no timer or one
that is still to fire. -/
def onExpiry (t : RouteTable) (ip : IPv4) (sim : Simulator MeshEvent) :
    Except RouteViolation (RouteTable × Simulator MeshEvent) :=
  match t.routes.get? ip with
  | none => .ok (t, sim)
  | some route =>
    if route.expiry.isNone || route.expiry.isArmed sim then .ok (t, sim)
    else if !route.row.isGood then .error (.expiredNotGood ip)
    else t.expireRow route sim

/-- The metric of the link to a neighbour becomes the metric of its row. -/
def takeLinkMetric (t : RouteTable) (r : RouteRow) (metric : Metric) (now : Time) :
    Except RouteViolation (RouteRow × RouteTable) :=
  if r.hops = 1 then
    .ok ({ r with metric }, t.note now (.metricUpdate r.eth metric.cost?))
  else .error .notOneHop

/-- The sender's own entry in its advert: no hops and an even number. -/
def entryOfSender? (sender : EtherAddress) (advert : RouteAdvert) : Option AdvertEntry :=
  advert.entries.find? fun e => e.eth == sender && e.hops == 0 && !isOddSeq e.seq

/-- The sender's own entry, if the advert is one to listen to: it comes from another node. -/
def advertiser? (t : RouteTable) (sender : EtherAddress) (advert : RouteAdvert) :
    Option AdvertEntry :=
  (entryOfSender? sender advert).filter fun me => sender != t.eth && me.ip != t.ip

/-- How long a row from an advert lasts. -/
def heardTtl (t : RouteTable) (e : AdvertEntry) : Time :=
  min (.ofMillis e.ttlMillis.toNat) t.config.timeout

/-- The row to the sender of an advert. -/
def neighborRow (t : RouteTable) (me : AdvertEntry) (now : Time) : RouteRow :=
  { RouteRow.oneHop me.ip me.eth me.seq (t.heardTtl me) now with
    settledAt := now + t.config.settle }

/-- One more hop, up to the largest byte. -/
def nextHops (hops : UInt8) : UInt8 := UInt8.ofNat (min (hops.toNat + 1) 255)

/-- The row to a destination by way of the sender of an advert. -/
def relayedRow (t : RouteTable) (me e : AdvertEntry) (link : Metric) (now : Time) : RouteRow where
  ip := e.ip
  eth := e.eth
  nextHopIp := me.ip
  nextHopEth := me.eth
  seq := e.seq
  hops := nextHops e.hops
  metric := link.append (.ofByte e.metric)
  ttl := t.heardTtl e
  updatedAt := now
  settledAt := now + t.config.settle

/-- Whether a row is taken over the current one, and why. A newer number wins; with the same number
the same next hop or a better metric does, and the route keeps the time at which it settles. -/
def verdict (current : Option RouteRow) (r : RouteRow) : Option (RouteReason × RouteRow) :=
  match current with
  | none => some (.newDest, r)
  | some cur =>
    if cur.seq < r.seq then some (.newSeq, r)
    else if cur.seq = r.seq ∧ cur.nextHopIp = r.nextHopIp then
      some (.sameNextHop, { r with settledAt := cur.settledAt })
    else if cur.seq = r.seq ∧ r.metric.betterThan cur.metric then
      some (.betterMetric, { r with settledAt := cur.settledAt })
    else none

/-- Whether a row sends packets another way than the current one, or at another price. -/
def isMove (current : Option RouteRow) (r : RouteRow) : Bool :=
  match current with
  | none => true
  | some cur => cur.nextHopIp != r.nextHopIp || cur.hops != r.hops || cur.metric != r.metric

/-- A table after an advert's entry, and whether the entry changed a row. -/
structure Considered where
  changed : Bool
  table : RouteTable
  sim : Simulator MeshEvent

/-- Takes a row if the table has no better one, and passes on word of a change. -/
def consider (t : RouteTable) (r : RouteRow) (sim : Simulator MeshEvent) :
    Except RouteViolation Considered :=
  if t.config.ignoreInvalidRoutes && !r.metric.isGood then .ok ⟨false, t, sim⟩
  else
    let current := t.row? r.ip
    match verdict current r with
    | none => .ok ⟨false, t, sim⟩
    | some (why, accepted) => do
      let (t, sim) ← t.insertRoute accepted why sim
      let (t, sim) := if isMove current r then t.requestTrigger sim else (t, sim)
      return ⟨true, t, sim⟩

/-- Takes word of a broken route if it is newer than the row, and passes it on. -/
def considerBroken (t : RouteTable) (e : AdvertEntry) (sim : Simulator MeshEvent) :
    Except RouteViolation Considered :=
  match t.row? e.ip with
  | none => .ok ⟨false, t, sim⟩
  | some cur =>
    if e.seq ≤ cur.seq then .ok ⟨false, t, sim⟩
    else do
      let broken := { t.brokenRow cur sim.now with seq := e.seq }
      let (t, sim) ← t.breakRoute broken .brokenAdvert sim
      let (t, sim) := t.requestTrigger sim
      return ⟨true, t, sim⟩

/-- Takes in one entry of an advert. Entries about this node or the sender are passed over, and so
are those whose hops and number do not go together. -/
def takeEntry (t : RouteTable) (me : AdvertEntry) (link : Metric) (e : AdvertEntry)
    (sim : Simulator MeshEvent) : Except RouteViolation Considered :=
  if e.eth = t.eth ∨ e.ip = t.ip ∨ e.eth = me.eth then .ok ⟨false, t, sim⟩
  else if e.hops = 0 ∧ isOddSeq e.seq then t.considerBroken e sim
  else if e.hops ≠ 0 ∧ ¬ isOddSeq e.seq then t.consider (t.relayedRow me e link sim.now) sim
  else .ok ⟨false, t, sim⟩

/-- Takes in the entries of an advert in order. -/
def takeEntries (me : AdvertEntry) (link : Metric) :
    List AdvertEntry → Considered → Except RouteViolation Considered
  | [], sofar => .ok sofar
  | e :: rest, sofar => do
    let next ← sofar.table.takeEntry me link e sofar.sim
    takeEntries me link rest { next with changed := sofar.changed || next.changed }

/-- Takes in an advert, given the metric of the link to its sender. -/
def handleAdvert (t : RouteTable) (sender : EtherAddress) (advert : RouteAdvert) (link : Metric)
    (sim : Simulator MeshEvent) : Except RouteViolation Considered :=
  match t.advertiser? sender advert with
  | none => .ok ⟨false, t, sim⟩
  | some me => do
    let (hop, t) ← t.takeLinkMetric (t.neighborRow me sim.now) link sim.now
    let first ← t.consider hop sim
    takeEntries me link advert.entries first

/-- The largest number of milliseconds that an advert can carry. -/
def maxAdvertMillis : Nat := 0xffff_ffff

/-- The entry for this node itself. -/
def selfEntry (t : RouteTable) : AdvertEntry where
  ip := t.ip
  eth := t.eth
  seq := t.seq
  hops := 0
  metric := (Metric.good 0).quantize
  ttlMillis := UInt32.ofNat (min t.config.timeoutMillis maxAdvertMillis)

/-- The entry for a row in use, unless its time is over. -/
def entryOf (now : Time) (r : RouteRow) : Option AdvertEntry :=
  let ttl := r.remaining now
  if !r.isBroken && ttl = .zero then none
  else some ⟨r.ip, r.eth, r.seq, r.hops, r.metric.quantize,
    UInt32.ofNat (min ttl.millis maxAdvertMillis)⟩

/-- The advert to send: this node, then the rows in use. -/
def buildAdvert (t : RouteTable) (now : Time) : RouteAdvert :=
  ⟨t.selfEntry :: (t.servedRows now).filterMap (entryOf now)⟩

section Sending

variable {μ : Type} [Medium μ]

def sendAdvert (t : RouteTable) (air : Air μ) : RouteTable × Air μ :=
  let payload := (t.buildAdvert air.now).encode
  let draft : Draft := ⟨.broadcast, t.eth, FrameType.advert, payload⟩
  ({ t with lastAdvert := some air.now }, air.announce t.node draft)

/-- Sends the periodic advert, with a new number, and sets the time of the next. -/
def onAdvertTimer (t : RouteTable) (air : Air μ) : RouteTable × Air μ :=
  let (t, air) := { t with seq := t.seq + 2 }.sendAdvert air
  let sim := t.triggerTimer.disarm air.sim
  let (millis, random) := jitteredMillis t.config.periodMillis t.random
  let (advertTimer, sim) := t.advertTimer.rearm sim (.ofMillis millis) (.timer t.node .advert)
  ({ t with random, advertTimer, triggerTimer := none }, { air with sim })

/-- Sends the advert that a change has set off. -/
def onTriggerTimer (t : RouteTable) (air : Air μ) : RouteTable × Air μ := t.sendAdvert air

end Sending

/-- Sets the time of the next entry of the whole table in the log, if there are to be any. -/
def armDump (t : RouteTable) (sim : Simulator MeshEvent) : RouteTable × Simulator MeshEvent :=
  match t.config.logDumpMillis with
  | none => (t, sim)
  | some millis =>
    let (dumpTimer, sim) := t.dumpTimer.rearm sim (.ofMillis millis) (.timer t.node .routeDump)
    ({ t with dumpTimer }, sim)

/-- Starts adverts at some moment within a period. -/
def start (t : RouteTable) (sim : Simulator MeshEvent) : RouteTable × Simulator MeshEvent :=
  let (millis, random) := t.random.below t.config.periodMillis
  let (advertTimer, sim) := t.advertTimer.rearm sim (.ofMillis millis) (.timer t.node .advert)
  { t with random, advertTimer }.armDump sim

/-- Takes back all timers and forgets all routes. -/
def stop (t : RouteTable) (sim : Simulator MeshEvent) : RouteTable × Simulator MeshEvent :=
  let sim := t.dumpTimer.disarm (t.triggerTimer.disarm (t.advertTimer.disarm sim))
  let sim := t.routes.values.foldl (fun sim route => route.expiry.disarm sim) sim
  ({ t with routes := .empty, advertTimer := none, triggerTimer := none, dumpTimer := none }, sim)

/-- Writes the rows in use to the log and sets the time of the next such entry. -/
def onDumpTimer (t : RouteTable) (sim : Simulator MeshEvent) : RouteTable × Simulator MeshEvent :=
  let t := t.note sim.now (.routeDump ((t.servedRows sim.now).map .ofRow))
  t.armDump sim

end RouteTable

end WirelessMesh
