import WirelessMesh.Proofs.Route.Listening

namespace WirelessMesh

namespace RouteTable

variable {t : RouteTable} {sim : Simulator MeshEvent} {me : AdvertEntry} {link : Metric}

/-- An entry that offers a row for the broadcast address, which the table accepts. -/
def Strikes (t : RouteTable) (me : AdvertEntry) (link : Metric) (e : AdvertEntry) (now : Time) :
    Prop :=
  ∃ r, t.offer? me link e now = some r ∧ t.accepts r = true ∧ r.eth.isBroadcast = true

private theorem takeEntries_append (before rest : List AdvertEntry) (sofar : Considered) :
    takeEntries me link (before ++ rest) sofar =
      (takeEntries me link before sofar).bind (takeEntries me link rest) := by
  induction before generalizing sofar with
  | nil => rfl
  | cons e more ih =>
    simp only [List.cons_append, takeEntries, bind]
    cases sofar.table.takeEntry me link e sofar.sim with
    | error _ => rfl
    | ok next => exact ih _

theorem Sound.takeEntry_strikes (sound : t.Sound sim) {e : AdvertEntry}
    (strikes : t.Strikes me link e sim.now) :
    t.takeEntry me link e sim = .error .broadcastDestination := by
  obtain ⟨r, offered, accepted, broadcast⟩ := strikes
  rw [takeEntry_eq, offered]
  obtain ⟨rfl, -, far, even⟩ := offer?_some offered
  exact sound.consider_broadcast (relayedRow_coherent far even link) accepted broadcast

theorem Sound.takeEntry_or_strikes (sound : t.Sound sim) (me : AdvertEntry) (link : Metric)
    (e : AdvertEntry) :
    t.Answers sim (t.takeEntry me link e sim) ∨ t.Strikes me link e sim.now := by
  by_cases strikes : t.Strikes me link e sim.now
  · exact .inr strikes
  · refine .inl (sound.takeEntry fun r offered accepted => Bool.eq_false_iff.mpr fun broadcast => ?_)
    exact strikes ⟨r, offered, accepted, broadcast⟩

/-- Where entries strike a table: those before are taken in, and then one strikes. -/
def StruckWithin (me : AdvertEntry) (link : Metric) (entries : List AdvertEntry)
    (sofar : Considered) : Prop :=
  ∃ before e after reached, entries = before ++ e :: after ∧
    takeEntries me link before sofar = .ok reached ∧
    reached.table.Strikes me link e reached.sim.now

private theorem Sound.takeEntries_or_struck {entries : List AdvertEntry} :
    ∀ {sofar : Considered}, sofar.table.Sound sofar.sim →
      sofar.table.Answers sofar.sim (RouteTable.takeEntries me link entries sofar) ∨
        StruckWithin me link entries sofar := by
  induction entries with
  | nil => exact fun sound => .inl ⟨_, rfl, .refl _, sound, .refl _⟩
  | cons e rest ih =>
    intro sofar sound
    rcases sound.takeEntry_or_strikes me link e with answers | strikes
    · obtain ⟨next, done, kept, whole, changes⟩ := answers
      have step : ∀ more, RouteTable.takeEntries me link (e :: more) sofar =
          RouteTable.takeEntries me link more
            { next with changed := sofar.changed || next.changed } := fun more => by
        rw [RouteTable.takeEntries, done]
        rfl
      have rests : next.table.Answers next.sim (RouteTable.takeEntries me link rest
          { next with changed := sofar.changed || next.changed }) ∨ _ := ih whole
      refine rests.imp ?_ ?_
      · intro answers
        obtain ⟨after, done', kept', whole', changes'⟩ := answers
        exact ⟨after, (step rest).trans done', kept.trans kept', whole',
          changes.trans (owned_congr kept.node ▸ changes')⟩
      · intro struck
        obtain ⟨before, hit, after, reached, rfl, done', strikes⟩ := struck
        exact ⟨e :: before, hit, after, reached, rfl, (step before).trans done', strikes⟩
    · exact .inr ⟨[], e, rest, sofar, rfl, rfl, strikes⟩

private theorem Sound.takeEntries_ok {entries : List AdvertEntry} :
    ∀ {sofar reached : Considered}, sofar.table.Sound sofar.sim →
      RouteTable.takeEntries me link entries sofar = .ok reached →
      reached.table.Sound reached.sim := by
  induction entries with
  | nil =>
    intro sofar reached sound done
    cases done
    exact sound
  | cons e rest ih =>
    intro sofar reached sound done
    rcases sound.takeEntry_or_strikes me link e with answers | strikes
    · obtain ⟨next, taken, -, whole, -⟩ := answers
      rw [RouteTable.takeEntries, taken] at done
      have rests : RouteTable.takeEntries me link rest
          { next with changed := sofar.changed || next.changed } = .ok reached := done
      refine ih ?_ rests
      exact whole
    · rw [RouteTable.takeEntries, sound.takeEntry_strikes strikes] at done
      cases done

private theorem Sound.takeEntries_struck {entries : List AdvertEntry} {sofar : Considered}
    (sound : sofar.table.Sound sofar.sim) (struck : StruckWithin me link entries sofar) :
    RouteTable.takeEntries me link entries sofar = .error .broadcastDestination := by
  obtain ⟨before, e, after, reached, rfl, done, strikes⟩ := struck
  have whole := sound.takeEntries_ok done
  rw [takeEntries_append, done]
  simp only [Except.bind, RouteTable.takeEntries, whole.takeEntry_strikes strikes, bind]

/-- Taking in the row that an advert offers to its sender. -/
def hearSender (t : RouteTable) (me : AdvertEntry) (link : Metric) (sim : Simulator MeshEvent) :
    Except RouteViolation Considered :=
  (t.noteLink me link sim.now).consider (t.hopRow me link sim.now) sim

/-- When an advert makes a table fail: it counts, and the row to its sender is accepted under the
broadcast address, or else an entry strikes the table at its turn. -/
def Refuses (t : RouteTable) (sender : EtherAddress) (advert : RouteAdvert) (link : Metric)
    (sim : Simulator MeshEvent) : Prop :=
  ∃ me, t.advertiser? sender advert = some me ∧
    ((t.accepts (t.hopRow me link sim.now) = true ∧ sender.isBroadcast = true) ∨
      ∃ first, t.hearSender me link sim = .ok first ∧ StruckWithin me link advert.entries first)

private theorem Sound.hearSender_broadcast (sound : t.Sound sim) (even : isOddSeq me.seq = false)
    (accepted : t.accepts (t.hopRow me link sim.now) = true)
    (broadcast : me.eth.isBroadcast = true) :
    t.hearSender me link sim = .error .broadcastDestination :=
  (sound.noteLink me link sim.now).consider_broadcast (neighborRow_coherent even link) accepted
    broadcast

theorem Sound.hearSender (sound : t.Sound sim) (even : isOddSeq me.seq = false)
    (unicast : t.accepts (t.hopRow me link sim.now) = true → me.eth.isBroadcast = false) :
    t.Answers sim (t.hearSender me link sim) := by
  obtain ⟨after, done, kept, sound', changes⟩ :=
    (sound.noteLink me link sim.now).consider (neighborRow_coherent even link) unicast
  exact ⟨after, done, (noteLink_kept t me link _).trans kept, sound',
    owned_congr (noteLink_kept t me link sim.now).node ▸ changes⟩

/-- A sound table takes in an advert unless it refuses it. -/
theorem Sound.handleAdvert_or_refuses (sound : t.Sound sim) (sender : EtherAddress)
    (advert : RouteAdvert) (link : Metric) :
    t.Answers sim (t.handleAdvert sender advert link sim) ∨ t.Refuses sender advert link sim := by
  rw [handleAdvert_eq]
  cases counts : t.advertiser? sender advert with
  | none => exact .inl sound.answers_unchanged
  | some me =>
    obtain ⟨-, own, -, even, -⟩ := advertiser?_some counts
    by_cases struck : t.accepts (t.hopRow me link sim.now) = true ∧ sender.isBroadcast = true
    · exact .inr ⟨me, counts, .inl struck⟩
    · have answers : t.Answers sim (t.hearSender me link sim) :=
        sound.hearSender even fun accepted => Bool.eq_false_iff.mpr fun broadcast =>
          struck ⟨accepted, own ▸ broadcast⟩
      obtain ⟨first, done, kept, whole, changes⟩ := answers
      have rests : first.table.Answers first.sim
          (RouteTable.takeEntries me link advert.entries first) ∨ _ := whole.takeEntries_or_struck
      refine rests.imp (fun answers => ?_) fun struck => ⟨me, counts, .inr ⟨first, done, struck⟩⟩
      obtain ⟨after, done', kept', whole', changes'⟩ := answers
      refine ⟨after, ?_, kept.trans kept', whole',
        changes.trans (owned_congr kept.node ▸ changes')⟩
      exact (congrArg (·.bind (RouteTable.takeEntries me link advert.entries)) done).trans done'

/-- What a sound table refuses makes it fail, and it says so. -/
theorem Sound.handleAdvert_refused (sound : t.Sound sim) {sender : EtherAddress}
    {advert : RouteAdvert} (refuses : t.Refuses sender advert link sim) :
    t.handleAdvert sender advert link sim = .error .broadcastDestination := by
  obtain ⟨me, counts, ⟨accepted, broadcast⟩ | ⟨first, done, struck⟩⟩ := refuses
  all_goals
    obtain ⟨-, own, -, even, -⟩ := advertiser?_some counts
    rw [handleAdvert_eq, counts]
  · exact congrArg (·.bind (RouteTable.takeEntries me link advert.entries))
      (sound.hearSender_broadcast even accepted (own ▸ broadcast))
  · have answers : t.Answers sim (t.hearSender me link sim) := by
      apply sound.hearSender even
      intro accepted
      apply Bool.eq_false_iff.mpr
      intro broadcast
      rw [sound.hearSender_broadcast even accepted broadcast] at done
      cases done
    obtain ⟨after, done', -, whole, -⟩ := answers
    cases done.symm.trans done'
    exact (congrArg (·.bind (RouteTable.takeEntries me link advert.entries)) done).trans
      (whole.takeEntries_struck struck)

/-- An advert without the broadcast address is not refused. -/
theorem not_refuses_unicast {sender : EtherAddress} {advert : RouteAdvert}
    (unicast : ∀ e ∈ advert.entries, e.eth.isBroadcast = false) :
    ¬ t.Refuses sender advert link sim := by
  rintro ⟨me, counts, ⟨-, broadcast⟩ | ⟨first, -, before, e, after, reached, split, -, strikes⟩⟩
  · obtain ⟨member, own, -⟩ := advertiser?_some counts
    rw [← own, unicast me member] at broadcast
    cases broadcast
  · obtain ⟨r, offered, -, broadcast⟩ := strikes
    obtain ⟨rfl, -⟩ := offer?_some offered
    have member : e ∈ advert.entries := by
      rw [split]
      exact List.mem_append_right _ List.mem_cons_self
    have single : e.eth.isBroadcast = true := broadcast
    rw [unicast e member] at single
    cases single

/-- A sound table takes in every advert without the broadcast address. -/
theorem Sound.handleAdvert (sound : t.Sound sim) {sender : EtherAddress} {advert : RouteAdvert}
    (link : Metric) (unicast : ∀ e ∈ advert.entries, e.eth.isBroadcast = false) :
    t.Answers sim (t.handleAdvert sender advert link sim) :=
  (sound.handleAdvert_or_refuses sender advert link).resolve_right (not_refuses_unicast unicast)

end RouteTable

end WirelessMesh
