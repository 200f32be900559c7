import WirelessMesh.Proofs.Air.Channels
import WirelessMesh.Proofs.Forwarding.Standing
import WirelessMesh.Proofs.Route.Run

/-!
Where a table has its rows from. A table that is told only what some sources say, by neighbours that
it hears itself, has no row that says more: it copies numbers, and marks broken routes with the odd
number behind an even one. None of this depends on the timers or on the checks.
-/
namespace WirelessMesh

/-- What may be said of a destination, and which neighbours may pass it on. -/
structure Sources where
  tells : IPv4 → EtherAddress → UInt32 → Prop
  via : IPv4 → EtherAddress → Prop

namespace Sources

/-- Sources that say of a route that it may break, and agree on the link address of an address. -/
structure Coherent (S : Sources) : Prop where
  breaks : ∀ {ip eth seq}, S.tells ip eth seq → isOddSeq seq = false → S.tells ip eth (seq + 1)
  agree : ∀ {ip eth eth' seq seq'}, S.tells ip eth seq → S.tells ip eth' seq' → S.tells ip eth seq'

/-- A row says what the sources say and goes by way of a neighbour that passes it on. -/
def Backs (S : Sources) (x : RouteRow) : Prop :=
  S.tells x.ip x.eth x.seq ∧ S.via x.nextHopIp x.nextHopEth

def Allows (S : Sources) (own d : IPv4) (ρ : Route) : Prop :=
  d ≠ own ∧ ∀ x ∈ ρ.rows, x.ip = d ∧ S.Backs x

variable {S : Sources} {r cur : RouteRow} {e : AdvertEntry}

theorem Backs.brokenRow (backs : S.Backs r) (coherent : S.Coherent) (t : RouteTable) (now : Time) :
    S.Backs (t.brokenRow r now) := by
  refine ⟨?_, backs.2⟩
  show S.tells r.ip r.eth (if isOddSeq r.seq then r.seq else r.seq + 1)
  split
  · exact backs.1
  · next even => exact coherent.breaks backs.1 (Bool.not_eq_true _ ▸ even)

theorem Backs.renumbered (backs : S.Backs cur) (coherent : S.Coherent) (t : RouteTable) (now : Time)
    (told : S.tells e.ip e.eth e.seq) (same : cur.ip = e.ip) :
    S.Backs { t.brokenRow cur now with seq := e.seq } :=
  ⟨coherent.agree backs.1 (same ▸ told), backs.2⟩

end Sources

namespace RouteTable

variable {S S' : Sources} {t t' : RouteTable} {r cur : RouteRow} {e me : AdvertEntry} {link : Metric}
  {sim sim' : Simulator MeshEvent} {d ip : IPv4} {ρ : Route} {route : Option Route}
  {entries : List AdvertEntry} {sofar after : Considered} {rows : List RouteRow} {now : Time}

/-- All rows of a table, the old ones too, are about other nodes and say what the sources say. -/
def DrawsOn (t : RouteTable) (S : Sources) : Prop :=
  ∀ d ρ, t.routes.get? d = some ρ → S.Allows t.ip d ρ

namespace DrawsOn

theorem congr (draws : t.DrawsOn S) (ip : t'.ip = t.ip) (routes : t'.routes = t.routes) :
    t'.DrawsOn S := by
  intro d ρ present
  rw [ip]
  exact draws d ρ (routes ▸ present)

theorem mono (draws : t.DrawsOn S) (tells : ∀ {ip eth seq}, S.tells ip eth seq → S'.tells ip eth seq)
    (via : ∀ {ip eth}, S.via ip eth → S'.via ip eth) : t.DrawsOn S' := by
  intro d ρ present
  obtain ⟨other, each⟩ := draws d ρ present
  refine ⟨other, fun x member => ?_⟩
  obtain ⟨here, backs⟩ := each x member
  exact ⟨here, tells backs.1, via backs.2⟩

theorem rewrites (draws : t.DrawsOn S) (rewrites : t.Rewrites t' ip route)
    (allows : ∀ ρ, route = some ρ → S.Allows t.ip ip ρ) : t'.DrawsOn S := by
  intro d ρ present
  rw [rewrites.kept.ip]
  rw [rewrites.get?] at present
  split at present
  · next here =>
    subst here
    exact allows ρ present
  · exact draws d ρ present

theorem erase (draws : t.DrawsOn S) (ip : IPv4) : (t.without ip).DrawsOn S :=
  draws.rewrites (erase_rewrites t ip) nofun

theorem row? (draws : t.DrawsOn S) (present : t.row? d = some cur) :
    d ≠ t.ip ∧ cur.ip = d ∧ S.Backs cur := by
  obtain ⟨ρ, found, rfl⟩ := Option.map_eq_some_iff.mp present
  obtain ⟨other, each⟩ := draws d ρ found
  exact ⟨other, each ρ.row ρ.row_mem_rows⟩

private theorem mem_rows (draws : t.DrawsOn S) (member : r ∈ t.rows) : r.ip ≠ t.ip ∧ S.Backs r := by
  obtain ⟨ρ, value, rfl⟩ := List.mem_map.mp member
  obtain ⟨⟨d, _⟩, entry, rfl⟩ := List.mem_map.mp value
  obtain ⟨other, each⟩ := draws d _ (Directory.get?_eq_some_iff.mpr entry)
  obtain ⟨here, backs⟩ := each _ (Route.row_mem_rows _)
  exact ⟨here ▸ other, backs⟩

/-- The row that is written, beside what is kept of the route that was there. -/
theorem allows_successor (draws : t.DrawsOn S) (backs : S.Backs r) (other : r.ip ≠ t.ip)
    (timer : TimerSlot) :
    S.Allows t.ip r.ip ⟨r, (Predecessor.ofRoute (t.routes.get? r.ip)).kept t.config.useOldRoute r.seq,
      timer⟩ := by
  refine ⟨other, fun x member => ?_⟩
  rcases Route.mem_rows.mp member with rfl | held
  · exact ⟨rfl, backs⟩
  · obtain ⟨ρ, present, before⟩ := Route.mem_rows_of_predecessor held
    exact (draws r.ip ρ present).2 x before

theorem breakRoute (draws : t.DrawsOn S) (backs : S.Backs r) (other : r.ip ≠ t.ip)
    (bad : r.isGood = false) {why : RouteReason}
    (done : t.breakRoute r why sim = .ok (t', sim')) : t'.DrawsOn S ∧ t.Kept t' := by
  have rewrites := writeBroken_rewrites bad done
  refine ⟨draws.rewrites rewrites fun ρ same => ?_, rewrites.kept⟩
  unfold brokenRoute at same
  split at same
  · cases same
  · cases same
    exact draws.allows_successor backs other none

theorem consider (draws : t.DrawsOn S) (backs : S.Backs r) (other : r.ip ≠ t.ip)
    (done : t.consider r sim = .ok after) : after.table.DrawsOn S ∧ t.Kept after.table := by
  rcases consider_ok done with ⟨rfl, -⟩ | ⟨why, accepted, -, taken, rewrites⟩
  · exact ⟨draws, .refl t⟩
  · obtain ⟨settledAt, rfl⟩ := verdict_row taken
    refine ⟨draws.rewrites rewrites fun ρ same => ?_, rewrites.kept⟩
    cases same
    exact draws.allows_successor (r := { r with settledAt }) backs other _

theorem considerBroken (draws : t.DrawsOn S) (coherent : S.Coherent)
    (told : S.tells e.ip e.eth e.seq) (done : t.considerBroken e sim = .ok after) :
    after.table.DrawsOn S ∧ t.Kept after.table := by
  rcases considerBroken_ok done with ⟨rfl, -⟩ | ⟨cur, present, -, rewrites⟩
  · exact ⟨draws, .refl t⟩
  · obtain ⟨other, here, backs⟩ := draws.row? present
    refine ⟨draws.rewrites rewrites fun ρ same => ?_, rewrites.kept⟩
    unfold brokenRoute at same
    split at same
    · cases same
    · cases same
      exact draws.allows_successor (r := { t.brokenRow cur sim.now with seq := e.seq })
        (backs.renumbered coherent t sim.now told here) (here ▸ other) none

theorem takeEntry (draws : t.DrawsOn S) (coherent : S.Coherent) (told : S.tells e.ip e.eth e.seq)
    (via : S.via me.ip me.eth) (done : t.takeEntry me link e sim = .ok after) :
    after.table.DrawsOn S ∧ t.Kept after.table := by
  rcases takeEntry_ok done with ⟨strange, -, -, considered⟩ | ⟨-, -, broken⟩ | rfl
  · have other : e.ip ≠ t.ip := fun mine => strange (.inr (.inl mine))
    exact draws.consider (r := t.relayedRow me e link sim.now) ⟨told, via⟩ other considered
  · exact draws.considerBroken coherent told broken
  · exact ⟨draws, .refl t⟩

theorem takeEntries (coherent : S.Coherent) (told : ∀ e ∈ entries, S.tells e.ip e.eth e.seq)
    (via : S.via me.ip me.eth) : ∀ {sofar : Considered}, sofar.table.DrawsOn S →
      RouteTable.takeEntries me link entries sofar = .ok after →
      after.table.DrawsOn S ∧ sofar.table.Kept after.table := by
  induction entries with
  | nil =>
    intro sofar draws done
    cases done
    exact ⟨draws, .refl _⟩
  | cons e rest ih =>
    intro sofar draws done
    obtain ⟨next, taken, rests⟩ := ok_of_bind done
    obtain ⟨first, kept⟩ := draws.takeEntry coherent (told e List.mem_cons_self) via taken
    have told' : ∀ e ∈ rest, S.tells e.ip e.eth e.seq := fun e member =>
      told e (List.mem_cons_of_mem _ member)
    obtain ⟨draws', kept'⟩ :=
      @ih told' { next with changed := sofar.changed || next.changed } first rests
    exact ⟨draws', kept.trans kept'⟩

/-- An advert that tells what the sources say, from a neighbour, is taken in. -/
theorem handleAdvert (draws : t.DrawsOn S) (coherent : S.Coherent) {sender : EtherAddress}
    {advert : RouteAdvert} (told : ∀ e ∈ advert.entries, S.tells e.ip e.eth e.seq)
    (via : ∀ me, t.advertiser? sender advert = some me → S.via me.ip me.eth)
    (done : t.handleAdvert sender advert link sim = .ok after) :
    after.table.DrawsOn S ∧ t.Kept after.table := by
  rcases handleAdvert_ok done with ⟨-, rfl⟩ | ⟨me, first, counts, hop, rests⟩
  · exact ⟨draws, .refl t⟩
  · obtain ⟨member, -, -, -, -, other⟩ := advertiser?_some counts
    have noted : (t.noteLink me link sim.now).DrawsOn S := draws.congr rfl rfl
    have via := via me counts
    obtain ⟨near, kept⟩ := noted.consider (r := t.hopRow me link sim.now)
      ⟨told me member, via⟩ other hop
    obtain ⟨draws', kept'⟩ := takeEntries coherent told via near rests
    exact ⟨draws', ((noteLink_kept t me link sim.now).trans kept).trans kept'⟩

theorem breakAll (coherent : S.Coherent) :
    ∀ {t : RouteTable} {sim : Simulator MeshEvent}, t.DrawsOn S →
      (∀ r ∈ rows, r.ip ≠ t.ip ∧ S.Backs r) →
      RouteTable.breakAll now rows (t, sim) = .ok (t', sim') → t'.DrawsOn S ∧ t.Kept t' := by
  induction rows with
  | nil =>
    intro t sim draws _ done
    cases done
    exact ⟨draws, .refl _⟩
  | cons r rest ih =>
    intro t sim draws each done
    rw [breakAll_cons] at done
    obtain ⟨⟨mid, midSim⟩, broken, broke⟩ := ok_of_bind done
    obtain ⟨other, backs⟩ := each r List.mem_cons_self
    obtain ⟨first, kept⟩ := draws.breakRoute (r := t.brokenRow r now)
      (backs.brokenRow coherent t now) other rfl broken
    obtain ⟨draws', kept'⟩ := ih first
      (fun r member => kept.ip ▸ each r (List.mem_cons_of_mem _ member)) broke
    exact ⟨draws', kept.trans kept'⟩

theorem expireRow (draws : t.DrawsOn S) (coherent : S.Coherent)
    (present : t.routes.get? d = some ρ) (done : t.expireRow ρ sim = .ok (t', sim')) :
    t'.DrawsOn S ∧ t.Kept t' := by
  obtain ⟨other, each⟩ := draws d ρ present
  obtain ⟨rfl, backs⟩ := each ρ.row ρ.row_mem_rows
  obtain ⟨mid, midSim, last, lastSim, written, fallen, rfl, -⟩ := expireRow_steps done
  have rewrites := writeBroken_rewrites rfl written
  have without := draws.erase ρ.row.ip
  -- The old row stays beside the broken one, which comes back without the one it replaces.
  have first : mid.DrawsOn S := without.rewrites rewrites fun ρ' same => by
    unfold brokenRoute at same
    split at same
    · cases same
    · cases same
      refine ⟨other, fun x member => ?_⟩
      rcases Route.mem_rows.mp member with rfl | held
      · exact ⟨rfl, backs.brokenRow coherent t sim.now⟩
      · exact each x (Route.mem_rows.mpr (.inr held))
  have kept := (without_kept t ρ.row.ip).trans rewrites.kept
  obtain ⟨draws', kept'⟩ := first.breakAll coherent (fun r member => by
    rw [kept.ip]
    exact without.mem_rows (brokenBy_mem member).1) fallen
  have asked := requestTrigger_kept last lastSim
  exact ⟨draws'.congr asked.ip requestTrigger_routes, (kept.trans kept').trans asked⟩

theorem onExpiry (draws : t.DrawsOn S) (coherent : S.Coherent)
    (done : t.onExpiry ip sim = .ok (t', sim')) : t'.DrawsOn S ∧ t.Kept t' := by
  unfold RouteTable.onExpiry at done
  cases present : t.routes.get? ip with
  | none =>
    simp only [present] at done
    cases done
    exact ⟨draws, .refl t⟩
  | some ρ =>
    simp only [present] at done
    split at done
    · cases done
      exact ⟨draws, .refl t⟩
    · split at done
      · cases done
      · exact draws.expireRow coherent present done

theorem told (draws : t.DrawsOn S) (self : S.tells t.ip t.eth t.seq)
    (member : e ∈ (t.buildAdvert now).entries) : S.tells e.ip e.eth e.seq := by
  rcases mem_buildAdvert member with rfl | ⟨d, ρ, present, offered⟩
  · exact self
  · obtain ⟨ip, eth, seq, -⟩ := entryOf_some offered
    obtain ⟨-, tells, -⟩ := (draws d ρ present).2 _ (ρ.served_mem t)
    rw [ip, eth, seq]
    exact tells

end DrawsOn

end RouteTable

end WirelessMesh
