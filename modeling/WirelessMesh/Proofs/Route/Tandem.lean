import WirelessMesh.Proofs.Node.Tandem
import WirelessMesh.Proofs.Route.Scripts

namespace WirelessMesh

namespace Directory

universe u v

variable {κ : Type u} {ν : Type v} [Ranked κ]

private theorem map_insert (d : Directory κ ν) (change : κ → ν → ν) (k : κ) (v : ν) :
    (d.insert k v).map change = (d.map change).insert k (change k v) := by
  apply ext
  show (place k v d.entries).map _ = place k (change k v) (d.entries.map _)
  induction d.entries with
  | nil => rfl
  | cons e rest ih =>
    simp only [place, List.map_cons]
    split
    · rfl
    · split
      · rfl
      · rw [List.map_cons, ih]

private theorem map_erase (d : Directory κ ν) (change : κ → ν → ν) (k : κ) :
    (d.erase k).map change = (d.map change).erase k := by
  apply ext
  show (d.entries.filter _).map _ = (d.entries.map _).filter _
  rw [List.filter_map]
  rfl

end Directory

def Route.plain (route : Route) : Route :=
  { route with expiry := route.expiry.map fun _ => ⟨0, .zero⟩ }

theorem Route.of_plain {route route' : Route} (same : route'.plain = route.plain) :
    route'.row = route.row ∧ route'.old = route.old ∧ route'.expiry.isNone = route.expiry.isNone := by
  have rows : route'.plain.row = route.plain.row := congrArg Route.row same
  have olds : route'.plain.old = route.plain.old := congrArg Route.old same
  have slots : route'.plain.expiry.isNone = route.plain.expiry.isNone :=
    congrArg (fun route => route.expiry.isNone) same
  rw [plain, plain, Option.isNone_map, Option.isNone_map] at slots
  exact ⟨rows, olds, slots⟩

namespace RouteTable

/-- Tables that differ in nothing but the numbers of their timers. -/
structure Twins (t u : RouteTable) : Prop where
  node : u.node = t.node
  ip : u.ip = t.ip
  eth : u.eth = t.eth
  config : u.config = t.config
  seq : u.seq = t.seq
  random : u.random = t.random
  lastAdvert : u.lastAdvert = t.lastAdvert
  log : u.log = t.log
  routes : (u.routes.map fun _ => Route.plain) = t.routes.map fun _ => Route.plain

variable {t u : RouteTable} {ip : IPv4} {r : RouteRow} {me e : AdvertEntry} {now : Time}

namespace Twins

theorem refl (t : RouteTable) : t.Twins t := ⟨rfl, rfl, rfl, rfl, rfl, rfl, rfl, rfl, rfl⟩

theorem get? (twins : t.Twins u) (ip : IPv4) :
    (u.routes.get? ip).map Route.plain = (t.routes.get? ip).map Route.plain := by
  have same := congrArg (·.get? ip) twins.routes
  simpa only [Directory.get?_map] using same

theorem row? (twins : t.Twins u) (ip : IPv4) : u.row? ip = t.row? ip := by
  have same := congrArg (Option.map Route.row) (twins.get? ip)
  rw [Option.map_map, Option.map_map] at same
  exact same

theorem old? (twins : t.Twins u) (ip : IPv4) : u.old? ip = t.old? ip := by
  have same := congrArg (Option.bind · Route.old) (twins.get? ip)
  simp only [Option.bind_map] at same
  exact same

theorem predecessor (twins : t.Twins u) (ip : IPv4) :
    (Predecessor.ofRoute (u.routes.get? ip)).row = (Predecessor.ofRoute (t.routes.get? ip)).row ∧
      (Predecessor.ofRoute (u.routes.get? ip)).old = (Predecessor.ofRoute (t.routes.get? ip)).old := by
  have looked (route : Option Route) :
      (Predecessor.ofRoute route).row = (route.map Route.plain).map Route.row ∧
        (Predecessor.ofRoute route).old = (route.map Route.plain).bind Route.old := by
    cases route <;> exact ⟨rfl, rfl⟩
  rw [(looked _).1, (looked _).1, (looked _).2, (looked _).2, twins.get?]
  exact ⟨rfl, rfl⟩

theorem values (twins : t.Twins u) :
    u.routes.values.map Route.plain = t.routes.values.map Route.plain := by
  have same := congrArg Directory.values twins.routes
  simp only [Directory.values, Directory.map, List.map_map] at same ⊢
  exact same

theorem rows (twins : t.Twins u) : u.rows = t.rows := by
  have same := congrArg (List.map Route.row) twins.values
  rw [List.map_map, List.map_map] at same
  exact same

theorem rowsVia (twins : t.Twins u) (ip : IPv4) : u.rowsVia ip = t.rowsVia ip := by
  rw [RouteTable.rowsVia, RouteTable.rowsVia, twins.rows]

theorem servedRows (twins : t.Twins u) (now : Time) : u.servedRows now = t.servedRows now := by
  have same := congrArg (List.map (t.served now)) twins.values
  have served : u.served now = t.served now := by
    funext route
    rw [served, served, twins.config]
  rw [List.map_map, List.map_map] at same
  rw [RouteTable.servedRows, served]
  exact same

theorem buildAdvert (twins : t.Twins u) (now : Time) : u.buildAdvert now = t.buildAdvert now := by
  simp only [RouteTable.buildAdvert, selfEntry, twins.ip, twins.eth, twins.seq, twins.config,
    twins.servedRows]

theorem insert {route route' : Route} (twins : t.Twins u) (same : route'.plain = route.plain) :
    Twins { t with routes := t.routes.insert ip route }
      { u with routes := u.routes.insert ip route' } := by
  refine { twins with routes := ?_ }
  simp only [Directory.map_insert, same, twins.routes]

theorem without (twins : t.Twins u) (ip : IPv4) : (t.without ip).Twins (u.without ip) := by
  refine { twins with routes := ?_ }
  simp only [RouteTable.without, Directory.map_erase, twins.routes]

theorem note (twins : t.Twins u) (now : Time) (event : RouteLogEvent) :
    (t.note now event).Twins (u.note now event) :=
  { twins with log := congrArg (Option.map _) twins.log }

end Twins

/-- The check of a route, given whether its timer is still to fire. -/
def checkArmed (armed : Bool) (route : Route) : Except RouteViolation Unit := do
  route.row.check
  if route.row.isGood then
    if armed then .ok () else .error (.noExpiryTimer route.row.ip)
  else if route.expiry.isNone then .ok ()
  else .error (.needlessTimer route.row.ip)

private theorem check_eq_armed (route : Route) (sim : Simulator MeshEvent) :
    route.check sim = checkArmed (route.expiry.isArmed sim) route.plain := by
  cases route with
  | mk row old expiry => cases expiry <;> rfl

private theorem forM_map {α β : Type} {f : α → β} {check : β → Except RouteViolation Unit}
    {check' : α → Except RouteViolation Unit} {l : List α}
    (same : ∀ x ∈ l, check (f x) = check' x) : (l.map f).forM check = l.forM check' := by
  induction l with
  | nil => rfl
  | cons x rest ih =>
    show (check (f x) >>= fun _ => (rest.map f).forM check) =
      (check' x >>= fun _ => rest.forM check')
    rw [same x List.mem_cons_self, ih fun y member => same y (List.mem_cons_of_mem _ member)]

/-- What the checks of a table depend on: its plain routes, and which of their timers are set. -/
private theorem check_eq_plain (t : RouteTable) (sim : Simulator MeshEvent) :
    t.check sim = (do
      (t.routes.map fun _ => Route.plain).entries.forM fun e =>
        checkArmed ((t.expiryOf e.1).isArmed sim) e.2
      (t.routes.map fun _ => Route.plain).values.forM (·.checkOld)) := by
  have routes : t.routes.values.forM (·.check sim) =
      t.routes.entries.forM fun e => checkArmed ((t.expiryOf e.1).isArmed sim) e.2.plain := by
    refine forM_map fun e member => ?_
    have present : t.routes.get? e.1 = some e.2 := Directory.get?_eq_some_iff.mpr member
    rw [check_eq_armed, expiryOf, present]
    rfl
  have olds : t.routes.values.forM (·.checkOld) = t.routes.entries.forM (·.2.checkOld) :=
    forM_map fun _ _ => rfl
  have plainRoutes : ((t.routes.map fun _ => Route.plain).entries.forM fun e =>
      checkArmed ((t.expiryOf e.1).isArmed sim) e.2) =
      t.routes.entries.forM fun e => checkArmed ((t.expiryOf e.1).isArmed sim) e.2.plain :=
    forM_map fun _ _ => rfl
  have plainOlds : (t.routes.map fun _ => Route.plain).values.forM (·.checkOld) =
      t.routes.entries.forM (·.2.checkOld) := by
    rw [Directory.values, Directory.map, List.map_map]
    exact forM_map fun _ _ => rfl
  rw [check, routes, olds, plainRoutes, plainOlds]

theorem Twins.check (twins : t.Twins u) {sim sim' : Simulator MeshEvent}
    (armed : ∀ ip, (u.expiryOf ip).isArmed sim' = (t.expiryOf ip).isArmed sim) :
    u.check sim' = t.check sim := by
  rw [check_eq_plain, check_eq_plain, twins.routes]
  simp only [armed]

variable {μ : Type} [Medium μ]

/-- Twin tables of a node, beside its other timers, on desks that no deed tells apart. -/
structure Paired (node : NodeId) (alike : Desk μ → Desk μ → Prop) (others others' : TimerKind → TimerSlot)
    (t : RouteTable) (air : Air μ) (u : RouteTable) (air' : Air μ) : Prop where
  tandem : Tandem node alike
  mine : t.node = node
  twins : t.Twins u
  desks : alike ⟨t.slots others, air⟩ ⟨u.slots others', air'⟩

variable {node : NodeId} {alike : Desk μ → Desk μ → Prop} {others others' : TimerKind → TimerSlot}
  {air air' : Air μ} {sim sim' : Simulator MeshEvent} {medium medium' : μ} {before before' : Predecessor}
  {why : RouteReason} {link : Metric} {entries : List AdvertEntry} {rows : List RouteRow}

def PairedAgain (node : NodeId) (alike : Desk μ → Desk μ → Prop) (others others' : TimerKind → TimerSlot)
    (medium medium' : μ) (next next' : RouteTable × Simulator MeshEvent) : Prop :=
  Paired node alike others others' next.1 ⟨next.2, medium⟩ next'.1 ⟨next'.2, medium'⟩

def PairedConsidered (node : NodeId) (alike : Desk μ → Desk μ → Prop)
    (others others' : TimerKind → TimerSlot) (medium medium' : μ) (after after' : Considered) : Prop :=
  Paired node alike others others' after.table ⟨after.sim, medium⟩ after'.table ⟨after'.sim, medium'⟩

private theorem write_eq (t : RouteTable) (before : Predecessor) (r : RouteRow) (why : RouteReason)
    (sim : Simulator MeshEvent) :
    t.write before r why sim = (t.check sim).bind fun _ => r.check.bind fun _ =>
      (if t.config.ignoreInvalidRoutes && !r.metric.isGood then Except.error .badMetric
        else Except.ok ()).bind fun _ =>
        ((t.place before r why sim).1.check (t.place before r why sim).2).bind fun _ =>
          .ok (t.place before r why sim) := by
  unfold write
  cases t.check sim with
  | error _ => rfl
  | ok _ =>
    cases r.check with
    | error _ => rfl
    | ok _ => cases t.config.ignoreInvalidRoutes && !r.metric.isGood <;> rfl

namespace Paired

theorem now_eq (paired : Paired node alike others others' t air u air') : air'.sim.now = air.sim.now :=
  paired.tandem.now paired.desks

theorem armed (paired : Paired node alike others others' t air u air') (kind : TimerKind) :
    (u.slots others' kind).isArmed air'.sim = (t.slots others kind).isArmed air.sim :=
  paired.tandem.armed paired.desks kind

theorem check (paired : Paired node alike others others' t air u air') :
    u.check air'.sim = t.check air.sim :=
  paired.twins.check fun ip => paired.armed (.expiry ip)

/-- A table that differs from a paired one in what is neither a timer nor its number. -/
theorem resumed {t' u' : RouteTable} (paired : Paired node alike others others' t air u air')
    (twins : t'.Twins u') (mine : t'.node = t.node) (slots : t'.slots others = t.slots others)
    (slots' : u'.slots others' = u.slots others') : Paired node alike others others' t' air u' air' where
  tandem := paired.tandem
  mine := mine.trans paired.mine
  twins := twins
  desks := by
    rw [slots, slots']
    exact paired.desks

theorem arms {t' u' : RouteTable} {slot slot' : TimerSlot} {delay delay' : Time}
    (paired : Paired node alike others others' t air u air') (kind : TimerKind) (same : delay' = delay)
    (twins : t'.Twins u') (mine : t'.node = t.node) (held : t.slots others kind = slot)
    (held' : u.slots others' kind = slot')
    (after : t'.slots others = Function.update (t.slots others) kind
      (slot.rearm air.sim delay (MeshEvent.timer t.node kind)).1)
    (after' : u'.slots others' = Function.update (u.slots others') kind
      (slot'.rearm air'.sim delay' (MeshEvent.timer u.node kind)).1) :
    Paired node alike others others' t'
      { air with sim := (slot.rearm air.sim delay (MeshEvent.timer t.node kind)).2 } u'
      { air' with sim := (slot'.rearm air'.sim delay' (MeshEvent.timer u.node kind)).2 } := by
  have event : MeshEvent.timer t.node kind = .timer node kind := by rw [paired.mine]
  have event' : MeshEvent.timer u.node kind = .timer node kind := by rw [paired.twins.node, event]
  exact ⟨paired.tandem, mine.trans paired.mine, twins,
    paired.tandem.arm paired.desks event event' same held held' after after'⟩

theorem disarms {t' u' : RouteTable} {slot slot' : TimerSlot}
    (paired : Paired node alike others others' t air u air') (kind : TimerKind)
    (twins : t'.Twins u') (mine : t'.node = t.node) (held : t.slots others kind = slot)
    (held' : u.slots others' kind = slot')
    (after : t'.slots others = Function.update (t.slots others) kind none)
    (after' : u'.slots others' = Function.update (u.slots others') kind none) :
    Paired node alike others others' t' { air with sim := slot.disarm air.sim } u'
      { air' with sim := slot'.disarm air'.sim } :=
  ⟨paired.tandem, mine.trans paired.mine, twins,
    paired.tandem.disarm paired.desks held held' after after'⟩

theorem place (paired : Paired node alike others others' t ⟨sim, medium⟩ u ⟨sim', medium'⟩)
    (row : before'.row = before.row) (old : before'.old = before.old)
    (held : before.expiry = t.expiryOf r.ip) (held' : before'.expiry = u.expiryOf r.ip) :
    PairedAgain node alike others others' medium medium' (t.place before r why sim)
      (u.place before' r why sim') := by
  have now : (before'.expiry.disarm sim').now = (before.expiry.disarm sim).now := by
    rw [TimerSlot.now_disarm, TimerSlot.now_disarm]
    exact paired.now_eq
  have kept : before'.kept u.config.useOldRoute r.seq = before.kept t.config.useOldRoute r.seq := by
    rw [Predecessor.kept, Predecessor.kept, row, old, paired.twins.config]
  have slot : t.slots others (.expiry r.ip) = before.expiry := held.symm
  have slot' : u.slots others' (.expiry r.ip) = before'.expiry := held'.symm
  unfold PairedAgain
  cases good : r.isGood with
  | false =>
    rw [place_bad good, place_bad good, now, kept]
    exact paired.disarms (.expiry r.ip) ((paired.twins.note _ _).insert rfl) rfl slot slot'
      (slots_route rfl rfl rfl fun d => expiryOf_insert _ d)
      (slots_route rfl rfl rfl fun d => expiryOf_insert _ d)
  | true =>
    have lasts : min r.ttl u.config.timeout = min r.ttl t.config.timeout := by
      rw [paired.twins.config]
    have sameNow : (before'.expiry.rearm sim' (min r.ttl u.config.timeout)
        (expiryEvent u.node r.ip)).2.now = (before.expiry.rearm sim
        (min r.ttl t.config.timeout) (expiryEvent t.node r.ip)).2.now := now
    rw [place_good good, place_good good, kept]
    simp only [sameNow]
    exact paired.arms (.expiry r.ip) lasts ((paired.twins.note _ _).insert rfl) rfl slot slot'
      (slots_route rfl rfl rfl fun d => expiryOf_insert _ d)
      (slots_route rfl rfl rfl fun d => expiryOf_insert _ d)

theorem write (paired : Paired node alike others others' t ⟨sim, medium⟩ u ⟨sim', medium'⟩)
    (row : before'.row = before.row) (old : before'.old = before.old)
    (held : before.expiry = t.expiryOf r.ip) (held' : before'.expiry = u.expiryOf r.ip) :
    Agree (PairedAgain node alike others others' medium medium') (t.write before r why sim)
      (u.write before' r why sim') := by
  have placed : PairedAgain node alike others others' medium medium' (t.place before r why sim)
      (u.place before' r why sim') := paired.place row old held held'
  have checked : u.check sim' = t.check sim := paired.check
  have again := Paired.check placed
  rw [write_eq, write_eq, checked, paired.twins.config, again]
  cases t.check sim with
  | error cause => exact .error cause
  | ok _ =>
    cases r.check with
    | error cause => exact .error cause
    | ok _ =>
      cases t.config.ignoreInvalidRoutes && !r.metric.isGood with
      | true => exact .error _
      | false =>
        cases (t.place before r why sim).1.check (t.place before r why sim).2 with
        | error cause => exact .error cause
        | ok _ => exact .ok placed

theorem insertRoute (paired : Paired node alike others others' t ⟨sim, medium⟩ u ⟨sim', medium'⟩) :
    Agree (PairedAgain node alike others others' medium medium') (t.insertRoute r why sim)
      (u.insertRoute r why sim') :=
  paired.write (paired.twins.predecessor r.ip).1 (paired.twins.predecessor r.ip).2
    (expiry_ofRoute r.ip) (expiry_ofRoute r.ip)

theorem removeRoute (paired : Paired node alike others others' t ⟨sim, medium⟩ u ⟨sim', medium'⟩)
    (ip : IPv4) :
    Agree (PairedAgain node alike others others' medium medium') (t.removeRoute ip sim)
      (u.removeRoute ip sim') := by
  have removed : PairedAgain node alike others others' medium medium'
      (t.without ip, (t.expiryOf ip).disarm sim) (u.without ip, (u.expiryOf ip).disarm sim') :=
    paired.disarms (.expiry ip) (paired.twins.without ip) rfl rfl rfl
      (slots_route rfl rfl rfl expiryOf_without) (slots_route rfl rfl rfl expiryOf_without)
  have again := Paired.check removed
  have removing (t : RouteTable) (sim : Simulator MeshEvent) : t.removeRoute ip sim =
      ((t.without ip).check ((t.expiryOf ip).disarm sim)).bind fun _ =>
        .ok (t.without ip, (t.expiryOf ip).disarm sim) := by
    rw [← expiry_ofRoute]
    rfl
  rw [removing, removing, again]
  cases (t.without ip).check ((t.expiryOf ip).disarm sim) with
  | error cause => exact .error cause
  | ok _ => exact .ok removed

theorem writeBroken (paired : Paired node alike others others' t ⟨sim, medium⟩ u ⟨sim', medium'⟩)
    (row : before'.row = before.row) (old : before'.old = before.old)
    (held : before.expiry = t.expiryOf r.ip) (held' : before'.expiry = u.expiryOf r.ip) :
    Agree (PairedAgain node alike others others' medium medium') (t.writeBroken before r why sim)
      (u.writeBroken before' r why sim') := by
  rw [RouteTable.writeBroken, RouteTable.writeBroken, paired.twins.config]
  split
  · exact paired.removeRoute r.ip
  · exact paired.write row old held held'

theorem breakRoute (paired : Paired node alike others others' t ⟨sim, medium⟩ u ⟨sim', medium'⟩) :
    Agree (PairedAgain node alike others others' medium medium') (t.breakRoute r why sim)
      (u.breakRoute r why sim') :=
  paired.writeBroken (paired.twins.predecessor r.ip).1 (paired.twins.predecessor r.ip).2
    (expiry_ofRoute r.ip) (expiry_ofRoute r.ip)

theorem requestTrigger (paired : Paired node alike others others' t ⟨sim, medium⟩ u ⟨sim', medium'⟩) :
    PairedAgain node alike others others' medium medium' (t.requestTrigger sim)
      (u.requestTrigger sim') := by
  have armed : u.triggerTimer.isArmed sim' = t.triggerTimer.isArmed sim := paired.armed .trigger
  have now : sim'.now = sim.now := paired.now_eq
  unfold RouteTable.requestTrigger
  rw [armed]
  split
  · exact paired
  · refine paired.arms .trigger ?_ { paired.twins with } rfl rfl rfl slots_trigger slots_trigger
    rw [now, paired.twins.lastAdvert, paired.twins.config]

theorem considered (paired : Paired node alike others others' t ⟨sim, medium⟩ u ⟨sim', medium'⟩) :
    Agree (PairedConsidered node alike others others' medium medium') (.ok ⟨false, t, sim⟩)
      (.ok ⟨false, u, sim'⟩ : Except RouteViolation Considered) := .ok paired

theorem consider (paired : Paired node alike others others' t ⟨sim, medium⟩ u ⟨sim', medium'⟩) :
    Agree (PairedConsidered node alike others others' medium medium') (t.consider r sim)
      (u.consider r sim') := by
  have passes : u.passesOver r = t.passesOver r := by rw [passesOver, passesOver, paired.twins.config]
  rw [consider_eq, consider_eq, passes, paired.twins.row?]
  split
  · exact paired.considered
  · split
    · exact paired.considered
    · split
      · exact (paired.insertRoute.map fun _ _ next => requestTrigger next).map fun _ _ next => next
      · exact paired.insertRoute.map fun _ _ next => next

theorem considerBroken (paired : Paired node alike others others' t ⟨sim, medium⟩ u ⟨sim', medium'⟩) :
    Agree (PairedConsidered node alike others others' medium medium') (t.considerBroken e sim)
      (u.considerBroken e sim') := by
  have now : sim'.now = sim.now := paired.now_eq
  rw [considerBroken_eq, considerBroken_eq, paired.twins.row?]
  split
  · exact paired.considered
  · split
    · exact paired.considered
    · rw [now, brokenRow, brokenRow, paired.twins.config]
      exact (paired.breakRoute.map fun _ _ next => requestTrigger next).map fun _ _ next => next

theorem takeEntry (paired : Paired node alike others others' t ⟨sim, medium⟩ u ⟨sim', medium'⟩) :
    Agree (PairedConsidered node alike others others' medium medium') (t.takeEntry me link e sim)
      (u.takeEntry me link e sim') := by
  have now : sim'.now = sim.now := paired.now_eq
  have row : u.relayedRow me e link sim'.now = t.relayedRow me e link sim.now := by
    rw [now]
    simp only [relayedRow, heardTtl, paired.twins.config]
  unfold RouteTable.takeEntry
  rw [paired.twins.eth, paired.twins.ip, row]
  split
  · exact paired.considered
  · split
    · exact paired.considerBroken
    · split
      · exact paired.consider
      · exact paired.considered

theorem takeEntries : ∀ {sofar sofar' : Considered},
    PairedConsidered node alike others others' medium medium' sofar sofar' →
    Agree (PairedConsidered node alike others others' medium medium')
      (RouteTable.takeEntries me link entries sofar)
      (RouteTable.takeEntries me link entries sofar') := by
  induction entries with
  | nil => exact fun paired => .ok paired
  | cons e rest ih => exact fun paired => (takeEntry paired).bind fun _ _ next => ih next

theorem handleAdvert {sender : EtherAddress} {advert : RouteAdvert}
    (paired : Paired node alike others others' t ⟨sim, medium⟩ u ⟨sim', medium'⟩) :
    Agree (PairedConsidered node alike others others' medium medium')
      (t.handleAdvert sender advert link sim) (u.handleAdvert sender advert link sim') := by
  have now : sim'.now = sim.now := paired.now_eq
  have counts : u.advertiser? sender advert = t.advertiser? sender advert := by
    rw [advertiser?, advertiser?, paired.twins.eth, paired.twins.ip]
  rw [handleAdvert_eq, handleAdvert_eq, counts]
  split
  · exact paired.considered
  · next me _ =>
    have hop : u.hopRow me link sim'.now = t.hopRow me link sim.now := by
      rw [now]
      simp only [hopRow, neighborRow, heardTtl, paired.twins.config]
    have noted : Paired node alike others others' (t.noteLink me link sim.now) ⟨sim, medium⟩
        (u.noteLink me link sim'.now) ⟨sim', medium'⟩ := by
      rw [now]
      exact paired.resumed (paired.twins.note _ _) rfl rfl rfl
    rw [hop]
    exact noted.consider.bind fun _ _ first => takeEntries first

theorem breakAll {now : Time} : ∀ {next next' : RouteTable × Simulator MeshEvent},
    PairedAgain node alike others others' medium medium' next next' →
    Agree (PairedAgain node alike others others' medium medium') (RouteTable.breakAll now rows next)
      (RouteTable.breakAll now rows next') := by
  induction rows with
  | nil => exact fun paired => .ok paired
  | cons r rest ih =>
    rintro ⟨t, sim⟩ ⟨u, sim'⟩ paired
    have broken : u.brokenRow r now = t.brokenRow r now := by
      rw [brokenRow, brokenRow, Twins.config (Paired.twins paired)]
    rw [breakAll_cons, breakAll_cons, broken]
    exact (breakRoute paired).bind fun _ _ next => ih next

theorem expireRow {route route' : Route}
    (paired : Paired node alike others others' t ⟨sim, medium⟩ u ⟨sim', medium'⟩)
    (same : route'.plain = route.plain) (fired : (t.expiryOf route.row.ip).isArmed sim = false) :
    Agree (PairedAgain node alike others others' medium medium') (t.expireRow route sim)
      (u.expireRow route' sim') := by
  have now : sim'.now = sim.now := paired.now_eq
  obtain ⟨row, old, -⟩ := Route.of_plain same
  have past : (t.slots others (.expiry route.row.ip)).isArmed sim = false := fired
  have without : Paired node alike others others' (t.without route.row.ip) ⟨sim, medium⟩
      (u.without route.row.ip) ⟨sim', medium'⟩ :=
    ⟨paired.tandem, paired.mine, paired.twins.without _, paired.tandem.forget paired.desks past
      (slots_route rfl rfl rfl expiryOf_without) (slots_route rfl rfl rfl expiryOf_without)⟩
  have idle (t : RouteTable) :
      (none : TimerSlot) = (t.without route.row.ip).expiryOf route.row.ip := by
    rw [expiryOf_without, if_pos rfl]
  have via : u.brokenBy route' = t.brokenBy route := by
    rw [brokenBy, brokenBy, row, without.twins.rowsVia]
  have broken : u.brokenRow route.row sim.now = t.brokenRow route.row sim.now := by
    rw [brokenRow, brokenRow, paired.twins.config]
  rw [expireRow_eq, expireRow_eq, via, row, old, now, broken]
  have first : Agree (PairedAgain node alike others others' medium medium')
      ((t.without route.row.ip).writeBroken ⟨none, route.old, none⟩
        (t.brokenRow route.row sim.now) .expired sim)
      ((u.without route.row.ip).writeBroken ⟨none, route.old, none⟩
        (t.brokenRow route.row sim.now) .expired sim') :=
    without.writeBroken rfl rfl (idle t) (idle u)
  exact (first.bind fun _ _ next => breakAll next).map fun _ _ next => requestTrigger next

theorem onExpiry (paired : Paired node alike others others' t ⟨sim, medium⟩ u ⟨sim', medium'⟩)
    (keyed : ∀ route, t.routes.get? ip = some route → route.row.ip = ip) :
    Agree (PairedAgain node alike others others' medium medium') (t.onExpiry ip sim)
      (u.onExpiry ip sim') := by
  have known := paired.twins.get? ip
  have armed : (u.expiryOf ip).isArmed sim' = (t.expiryOf ip).isArmed sim := paired.armed (.expiry ip)
  unfold RouteTable.onExpiry
  unfold expiryOf at armed
  cases present : t.routes.get? ip with
  | none =>
    rw [present] at known
    rw [Option.map_eq_none_iff.mp known]
    exact .ok paired
  | some route =>
    rw [present] at known
    obtain ⟨route', present', same⟩ := Option.map_eq_some_iff.mp known
    rw [present, present'] at armed
    have fires : route'.expiry.isArmed sim' = route.expiry.isArmed sim := armed
    obtain ⟨row, -, holds⟩ := Route.of_plain same
    rw [present']
    simp only [fires, row, holds]
    split
    · exact .ok paired
    · next held =>
      split
      · exact .error _
      · simp only [Bool.or_eq_true, not_or, Bool.not_eq_true] at held
        refine paired.expireRow same ?_
        rw [keyed route present, expiryOf, present]
        exact held.2

theorem sendAdvert (paired : Paired node alike others others' t air u air') :
    Paired node alike others others' (t.sendAdvert air).1 (t.sendAdvert air).2 (u.sendAdvert air').1
      (u.sendAdvert air').2 := by
  have now : air'.now = air.now := paired.now_eq
  have draft : u.advertDraft air'.now = t.advertDraft air.now := by
    rw [now, advertDraft, advertDraft, paired.twins.eth, paired.twins.buildAdvert]
  refine ⟨paired.tandem, paired.mine, { paired.twins with lastAdvert := congrArg some now }, ?_⟩
  have sent := paired.tandem.perform paired.desks (.announce (t.advertDraft air.now))
  rw [← paired.mine] at sent
  have told : (u.sendAdvert air').2 = air'.announce t.node (t.advertDraft air.now) := by
    rw [← draft, ← paired.twins.node]
    rfl
  rw [told]
  exact sent

/-- The timer of the advert is set anew, and chance goes on. -/
theorem rearmAdvert {delay delay' : Time} {random random' : RandomSource}
    (paired : Paired node alike others others' t air u air') (same : delay' = delay)
    (chance : random' = random) :
    let event := MeshEvent.timer t.node .advert
    let event' := MeshEvent.timer u.node .advert
    Paired node alike others others'
      { t with random, advertTimer := (t.advertTimer.rearm air.sim delay event).1 }
      { air with sim := (t.advertTimer.rearm air.sim delay event).2 }
      { u with random := random', advertTimer := (u.advertTimer.rearm air'.sim delay' event').1 }
      { air' with sim := (u.advertTimer.rearm air'.sim delay' event').2 } :=
  paired.arms .advert same { paired.twins with random := chance } rfl rfl rfl slots_advert
    slots_advert

theorem onAdvertTimer (paired : Paired node alike others others' t air u air') :
    Paired node alike others others' (t.onAdvertTimer air).1 (t.onAdvertTimer air).2
      (u.onAdvertTimer air').1 (u.onAdvertTimer air').2 := by
  have renewed : Paired node alike others others' { t with seq := t.seq + 2 } air
      { u with seq := u.seq + 2 } air' :=
    paired.resumed { paired.twins with seq := congrArg (· + 2) paired.twins.seq } rfl rfl rfl
  have sent := renewed.sendAdvert
  unfold RouteTable.onAdvertTimer
  generalize { t with seq := t.seq + 2 }.sendAdvert air = first at sent ⊢
  generalize { u with seq := u.seq + 2 }.sendAdvert air' = second at sent ⊢
  obtain ⟨t, air⟩ := first
  obtain ⟨u, air'⟩ := second
  have silent : Paired node alike others others' { t with triggerTimer := none }
      { air with sim := t.triggerTimer.disarm air.sim } { u with triggerTimer := none }
      { air' with sim := u.triggerTimer.disarm air'.sim } :=
    sent.disarms .trigger { sent.twins with } rfl rfl rfl slots_trigger slots_trigger
  have chance : jitteredMillis u.config.periodMillis u.random =
      jitteredMillis t.config.periodMillis t.random := by
    rw [sent.twins.config, sent.twins.random]
  have delay : Time.ofMillis (jitteredMillis u.config.periodMillis u.random).1 =
      .ofMillis (jitteredMillis t.config.periodMillis t.random).1 := by rw [chance]
  exact silent.rearmAdvert delay (congrArg (·.2) chance)

theorem armDump (paired : Paired node alike others others' t ⟨sim, medium⟩ u ⟨sim', medium'⟩) :
    PairedAgain node alike others others' medium medium' (t.armDump sim) (u.armDump sim') := by
  have dumps : u.config.logDumpMillis = t.config.logDumpMillis := by rw [paired.twins.config]
  unfold PairedAgain
  cases given : t.config.logDumpMillis with
  | none =>
    simp only [RouteTable.armDump, dumps, given]
    exact paired
  | some millis =>
    simp only [RouteTable.armDump, dumps, given]
    exact paired.arms .routeDump rfl { paired.twins with } rfl rfl rfl slots_dump slots_dump

theorem onDumpTimer (paired : Paired node alike others others' t ⟨sim, medium⟩ u ⟨sim', medium'⟩) :
    PairedAgain node alike others others' medium medium' (t.onDumpTimer sim) (u.onDumpTimer sim') := by
  have now : sim'.now = sim.now := paired.now_eq
  have noted : Paired node alike others others'
      (t.note sim.now (.routeDump ((t.servedRows sim.now).map .ofRow))) ⟨sim, medium⟩
      (u.note sim'.now (.routeDump ((u.servedRows sim'.now).map .ofRow))) ⟨sim', medium'⟩ := by
    rw [now, paired.twins.servedRows]
    exact paired.resumed (paired.twins.note _ _) rfl rfl rfl
  exact noted.armDump

theorem start (paired : Paired node alike others others' t ⟨sim, medium⟩ u ⟨sim', medium'⟩) :
    PairedAgain node alike others others' medium medium' (t.start sim) (u.start sim') := by
  have chance : u.random.below u.config.periodMillis = t.random.below t.config.periodMillis := by
    rw [paired.twins.config, paired.twins.random]
  have delay : Time.ofMillis (u.random.below u.config.periodMillis).1 =
      .ofMillis (t.random.below t.config.periodMillis).1 := by rw [chance]
  exact armDump (paired.rearmAdvert delay (congrArg (·.2) chance))

end Paired

end RouteTable

end WirelessMesh
