import WirelessMesh.Proofs.Route.Expiry

namespace WirelessMesh

namespace RouteTable

variable {t t' t'' : RouteTable} {sim sim' sim'' : Simulator MeshEvent} {ip : IPv4} {r : RouteRow}
  {why : RouteReason} {before : Predecessor} {after : Considered} {me e : AdvertEntry} {link : Metric}
  {now : Time} {rows : List RouteRow} {entries : List AdvertEntry} {route : Route}

/-- A table gets from one state to another by steps that all concern the timers of its routes and its
trigger. -/
inductive Proceeds : RouteTable → Simulator MeshEvent → RouteTable → Simulator MeshEvent → Prop
  | still (t : RouteTable) (sim : Simulator MeshEvent) : Proceeds t sim t sim
  | noted (t : RouteTable) (log : Option RouteLog) (sim : Simulator MeshEvent) :
      Proceeds t sim { t with log } sim
  | placed {t : RouteTable} {before : Predecessor} {r : RouteRow} (why : RouteReason)
      (sim : Simulator MeshEvent) (held : before.expiry = t.expiryOf r.ip) :
      Proceeds t sim (t.place before r why sim).1 (t.place before r why sim).2
  | removed (t : RouteTable) (ip : IPv4) (sim : Simulator MeshEvent) :
      Proceeds t sim (t.without ip) ((t.expiryOf ip).disarm sim)
  /-- The timer of the destination is no longer to fire, and is let go. -/
  | forgotten {t : RouteTable} {ip : IPv4} {sim : Simulator MeshEvent}
      (idle : (t.expiryOf ip).isArmed sim = false) : Proceeds t sim (t.without ip) sim
  | requested (t : RouteTable) (sim : Simulator MeshEvent) :
      Proceeds t sim (t.requestTrigger sim).1 (t.requestTrigger sim).2
  | trans {t t' t'' : RouteTable} {sim sim' sim'' : Simulator MeshEvent}
      (first : Proceeds t sim t' sim') (second : Proceeds t' sim' t'' sim'') :
      Proceeds t sim t'' sim''

theorem Proceeds.kept (proceeds : t.Proceeds sim t' sim') : t.Kept t' := by
  induction proceeds with
  | still t sim => exact .refl t
  | noted t log sim => exact ⟨rfl, rfl, rfl, rfl, rfl, rfl, rfl, rfl, rfl⟩
  | placed why sim held => exact (place_rewrites _ _ _ why sim).kept
  | removed t ip sim => exact without_kept t ip
  | forgotten idle => exact without_kept _ _
  | requested t sim => exact requestTrigger_kept t sim
  | trans first second ih ih' => exact ih.trans ih'

/-- A usable row is put in place with a timer, which takes the place of the old one. -/
theorem place_good (good : r.isGood = true) : t.place before r why sim =
    let fresh := before.expiry.rearm sim (min r.ttl t.config.timeout) (expiryEvent t.node r.ip)
    ({ t.note fresh.2.now (.addedRoute (.ofRow r) why) with
      routes := t.routes.insert r.ip
        ⟨r, before.kept t.config.useOldRoute r.seq, fresh.1⟩ }, fresh.2) := by
  simp only [place, good, if_true]
  rfl

theorem place_bad (bad : r.isGood = false) : t.place before r why sim =
    ({ t.note (before.expiry.disarm sim).now (.addedRoute (.ofRow r) why) with
      routes := t.routes.insert r.ip ⟨r, before.kept t.config.useOldRoute r.seq, none⟩ },
      before.expiry.disarm sim) := by
  simp only [place, bad, Bool.false_eq_true, if_false]
  rfl

theorem expiryOf_insert (route : Route) (d : IPv4) :
    { t with routes := t.routes.insert ip route }.expiryOf d =
      if d = ip then route.expiry else t.expiryOf d := by
  unfold expiryOf
  rw [get?_insert_route]
  split <;> rfl

theorem expiryOf_without (d : IPv4) :
    (t.without ip).expiryOf d = if d = ip then none else t.expiryOf d := by
  unfold expiryOf without
  rw [get?_erase_route]
  split <;> rfl

theorem proceeds_write (held : before.expiry = t.expiryOf r.ip)
    (done : t.write before r why sim = .ok (t', sim')) : t.Proceeds sim t' sim' := by
  obtain ⟨same, -⟩ := write_ok done
  obtain ⟨rfl, rfl⟩ := Prod.mk.inj same
  exact .placed why sim held

private theorem proceeds_removeRoute (done : t.removeRoute ip sim = .ok (t', sim')) :
    t.Proceeds sim t' sim' := by
  obtain ⟨rfl, rfl⟩ := removeRoute_ok done
  rw [expiry_ofRoute]
  exact .removed t ip sim

theorem proceeds_writeBroken (held : before.expiry = t.expiryOf r.ip)
    (done : t.writeBroken before r why sim = .ok (t', sim')) : t.Proceeds sim t' sim' := by
  unfold writeBroken at done
  split at done
  · exact proceeds_removeRoute done
  · exact proceeds_write held done

theorem proceeds_breakRoute (done : t.breakRoute r why sim = .ok (t', sim')) :
    t.Proceeds sim t' sim' :=
  proceeds_writeBroken (expiry_ofRoute r.ip) done

theorem proceeds_consider (done : t.consider r sim = .ok after) :
    t.Proceeds sim after.table after.sim := by
  rcases consider_steps done with ⟨rfl, -⟩ | ⟨why, accepted, mid, midSim, -, -, inserted, moves⟩
  · exact .still _ _
  · have written : t.Proceeds sim mid midSim := proceeds_write (expiry_ofRoute _) inserted
    rcases moves with ⟨-, rfl⟩ | ⟨-, rfl⟩
    · exact written.trans (.requested mid midSim)
    · exact written

theorem proceeds_considerBroken (done : t.considerBroken e sim = .ok after) :
    t.Proceeds sim after.table after.sim := by
  rcases considerBroken_steps done with ⟨rfl, -⟩ | ⟨cur, mid, midSim, -, -, broken, rfl⟩
  · exact .still _ _
  · exact (proceeds_breakRoute broken).trans (.requested mid midSim)

private theorem proceeds_takeEntry (done : t.takeEntry me link e sim = .ok after) :
    t.Proceeds sim after.table after.sim := by
  rcases takeEntry_ok done with ⟨-, -, -, considered⟩ | ⟨-, -, broken⟩ | rfl
  · exact proceeds_consider considered
  · exact proceeds_considerBroken broken
  · exact .still _ _

theorem proceeds_takeEntries : ∀ sofar : Considered,
    takeEntries me link entries sofar = .ok after →
      sofar.table.Proceeds sofar.sim after.table after.sim := by
  induction entries with
  | nil =>
    intro sofar done
    cases done
    exact .still _ _
  | cons e rest ih =>
    intro sofar done
    obtain ⟨next, taken, rests⟩ := ok_of_bind done
    have later := ih _ rests
    exact (proceeds_takeEntry taken).trans later

theorem proceeds_handleAdvert {sender : EtherAddress} {advert : RouteAdvert}
    (done : t.handleAdvert sender advert link sim = .ok after) :
    t.Proceeds sim after.table after.sim := by
  rcases handleAdvert_ok done with ⟨-, rfl⟩ | ⟨me, first, -, hop, rests⟩
  · exact .still _ _
  · exact ((Proceeds.noted t _ sim).trans (proceeds_consider hop)).trans
      (proceeds_takeEntries first rests)

private theorem proceeds_breakAll : ∀ {t : RouteTable} {sim : Simulator MeshEvent},
    breakAll now rows (t, sim) = .ok (t', sim') → t.Proceeds sim t' sim' := by
  induction rows with
  | nil =>
    intro t sim done
    cases done
    exact .still _ _
  | cons r rest ih =>
    intro t sim done
    rw [breakAll_cons] at done
    obtain ⟨⟨mid, midSim⟩, broken, rests⟩ := ok_of_bind done
    exact (proceeds_breakRoute broken).trans (ih rests)

private theorem proceeds_expireRow (present : t.routes.get? route.row.ip = some route)
    (fired : route.expiry.isArmed sim = false)
    (done : t.expireRow route sim = .ok (t', sim')) : t.Proceeds sim t' sim' := by
  obtain ⟨mid, midSim, last, lastSim, written, fallen, rfl, rfl⟩ := expireRow_steps done
  have slot : t.expiryOf route.row.ip = route.expiry := by
    rw [expiryOf, present]
    rfl
  have without : t.Proceeds sim (t.without route.row.ip) sim := .forgotten (slot ▸ fired)
  have idle : (none : TimerSlot) = (t.without route.row.ip).expiryOf route.row.ip := by
    rw [expiryOf_without, if_pos rfl]
  have first : (t.without route.row.ip).Proceeds sim mid midSim := proceeds_writeBroken idle written
  exact ((without.trans first).trans (proceeds_breakAll fallen)).trans (.requested last lastSim)

theorem proceeds_onExpiry (keyed : ∀ route, t.routes.get? ip = some route → route.row.ip = ip)
    (done : t.onExpiry ip sim = .ok (t', sim')) : t.Proceeds sim t' sim' := by
  unfold onExpiry at done
  split at done
  · cases done
    exact .still _ _
  · next route present =>
    obtain rfl := keyed route present
    split at done
    · cases done
      exact .still _ _
    · next held =>
      split at done
      · cases done
      · simp only [Bool.or_eq_true, not_or, Bool.not_eq_true] at held
        exact proceeds_expireRow present held.2 done

end RouteTable

end WirelessMesh
