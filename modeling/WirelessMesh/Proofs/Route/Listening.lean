import WirelessMesh.Proofs.Route.Upkeep

namespace WirelessMesh

namespace RouteTable

variable {t t' : RouteTable} {r accepted : RouteRow} {why : RouteReason} {current : Option RouteRow}
  {sim sim' : Simulator MeshEvent} {me e : AdvertEntry}

/-- An accepted row is the one that was offered, or has settled when the current one does. -/
theorem verdict_some (taken : verdict current r = some (why, accepted)) :
    (accepted = r ∨ ∃ cur, current = some cur ∧ accepted = { r with settledAt := cur.settledAt }) ∧
      ∀ cur, current = some cur → cur.seq < r.seq ∨
        (cur.seq = r.seq ∧ accepted.settledAt = cur.settledAt ∧
          (cur.nextHopIp = r.nextHopIp ∨ r.metric.betterThan cur.metric = true)) := by
  cases current with
  | none =>
    cases taken
    exact ⟨.inl rfl, nofun⟩
  | some cur =>
    simp only [verdict] at taken
    split at taken
    · next newer =>
      cases taken
      exact ⟨.inl rfl, fun _ same => Option.some.inj same ▸ .inl newer⟩
    · split at taken
      · next sameHop =>
        cases taken
        refine ⟨.inr ⟨cur, rfl, rfl⟩, fun _ same => ?_⟩
        cases same
        exact .inr ⟨sameHop.1, rfl, .inl sameHop.2⟩
      · split at taken
        · next better =>
          cases taken
          refine ⟨.inr ⟨cur, rfl, rfl⟩, fun _ same => ?_⟩
          cases same
          exact .inr ⟨better.1, rfl, .inr better.2⟩
        · cases taken

theorem verdict_row (taken : verdict current r = some (why, accepted)) :
    ∃ settledAt, accepted = { r with settledAt } := by
  obtain ⟨rfl | ⟨cur, -, rfl⟩, -⟩ := verdict_some taken
  · exact ⟨accepted.settledAt, rfl⟩
  · exact ⟨cur.settledAt, rfl⟩

theorem verdict_ip (taken : verdict current r = some (why, accepted)) : accepted.ip = r.ip := by
  obtain ⟨_, rfl⟩ := verdict_row taken
  rfl

theorem verdict_check (taken : verdict current r = some (why, accepted)) :
    accepted.check = r.check := by
  obtain ⟨_, rfl⟩ := verdict_row taken
  rfl

theorem verdict_metric (taken : verdict current r = some (why, accepted)) :
    accepted.metric = r.metric := by
  obtain ⟨_, rfl⟩ := verdict_row taken
  rfl

theorem verdict_seq (taken : verdict current r = some (why, accepted)) : accepted.seq = r.seq := by
  obtain ⟨_, rfl⟩ := verdict_row taken
  rfl

theorem verdict_later (taken : verdict current r = some (why, accepted)) {cur : RouteRow}
    (present : current = some cur) : cur.seq ≤ accepted.seq := by
  rw [verdict_seq taken]
  rcases (verdict_some taken).2 cur present with newer | ⟨same, -⟩
  · exact UInt32.le_of_lt newer
  · exact same ▸ UInt32.le_refl _

/-- Whether a table takes a row over the one that it has. -/
def accepts (t : RouteTable) (r : RouteRow) : Bool :=
  !t.passesOver r && (verdict (t.row? r.ip) r).isSome

/-- An answer to an advert that leaves the table sound and the events of others alone. -/
def Answers (t : RouteTable) (sim : Simulator MeshEvent)
    (answer : Except RouteViolation Considered) : Prop :=
  ∃ after, answer = .ok after ∧ t.Kept after.table ∧ after.table.Sound after.sim ∧
    sim.Changes t.Owned after.sim

theorem Sound.answers_unchanged (sound : t.Sound sim) : t.Answers sim (.ok ⟨false, t, sim⟩) :=
  ⟨_, rfl, .refl t, sound, .refl sim⟩

theorem Upkeep.answers {answer : Except RouteViolation (RouteTable × Simulator MeshEvent)}
    (upkeep : t.Upkeep sim answer) (changed : Bool) :
    t.Answers sim (answer.map fun next => ⟨changed, next.1, next.2⟩) := by
  obtain ⟨t', sim', rfl, rest⟩ := upkeep
  exact ⟨_, rfl, rest⟩

theorem consider_eq (t : RouteTable) (r : RouteRow) (sim : Simulator MeshEvent) :
    t.consider r sim =
      if t.passesOver r then .ok ⟨false, t, sim⟩
      else match verdict (t.row? r.ip) r with
        | none => .ok ⟨false, t, sim⟩
        | some (why, accepted) =>
          if isMove (t.row? r.ip) r then
            ((t.insertRoute accepted why sim).map fun next =>
              next.1.requestTrigger next.2).map fun next => ⟨true, next.1, next.2⟩
          else (t.insertRoute accepted why sim).map fun next => ⟨true, next.1, next.2⟩ := by
  unfold consider passesOver
  cases t.config.ignoreInvalidRoutes && !r.metric.isGood with
  | true => rfl
  | false =>
    rw [if_neg Bool.false_ne_true, if_neg Bool.false_ne_true]
    simp only [bind, Except.bind]
    cases verdict (t.row? r.ip) r with
    | none => rfl
    | some answer =>
      obtain ⟨why, accepted⟩ := answer
      simp only
      cases t.insertRoute accepted why sim <;> cases isMove (t.row? r.ip) r <;> rfl

/-- A coherent row is answered, unless it is accepted and is for the broadcast address. -/
theorem Sound.consider (sound : t.Sound sim) (coherent : r.Coherent)
    (unicast : t.accepts r = true → r.eth.isBroadcast = false) :
    t.Answers sim (t.consider r sim) := by
  rw [consider_eq]
  cases skipped : t.passesOver r with
  | true => exact sound.answers_unchanged
  | false =>
    rw [if_neg Bool.false_ne_true]
    cases taken : verdict (t.row? r.ip) r with
    | none => exact sound.answers_unchanged
    | some answer =>
      obtain ⟨why, accepted⟩ := answer
      have fine : r.eth.isBroadcast = false := unicast (by rw [accepts, skipped, taken]; rfl)
      have row : accepted.check = .ok () := by
        rw [verdict_check taken]
        exact RouteRow.check_eq_ok_iff.mpr ⟨coherent, fine⟩
      have welcome : t.passesOver accepted = false := by
        rw [passesOver, verdict_metric taken]
        exact skipped
      have inserted := sound.insertRoute why row welcome fun cur present =>
        verdict_later taken (verdict_ip taken ▸ present)
      simp only
      split
      · exact inserted.requestTrigger.answers true
      · exact inserted.answers true

/-- A coherent row for the broadcast address that is accepted makes the table fail. -/
theorem Sound.consider_broadcast (sound : t.Sound sim) (coherent : r.Coherent)
    (accepted : t.accepts r = true) (broadcast : r.eth.isBroadcast = true) :
    t.consider r sim = .error .broadcastDestination := by
  rw [accepts, Bool.and_eq_true, Bool.not_eq_true'] at accepted
  rw [consider_eq, accepted.1, if_neg Bool.false_ne_true]
  obtain ⟨⟨why, row⟩, taken⟩ := Option.isSome_iff_exists.mp accepted.2
  have refused : t.insertRoute row why sim = .error .broadcastDestination := by
    have failed : row.check = .error .broadcastDestination := by
      rw [verdict_check taken, coherent.check, if_pos broadcast]
    simp only [RouteTable.insertRoute, RouteTable.write, sound.check, failed, bind, Except.bind]
  rw [taken]
  simp only [refused]
  split <;> rfl

theorem considerBroken_eq (t : RouteTable) (e : AdvertEntry) (sim : Simulator MeshEvent) :
    t.considerBroken e sim =
      match t.row? e.ip with
      | none => .ok ⟨false, t, sim⟩
      | some cur =>
        if e.seq ≤ cur.seq then .ok ⟨false, t, sim⟩
        else ((t.breakRoute { t.brokenRow cur sim.now with seq := e.seq } .brokenAdvert sim).map
          fun next => next.1.requestTrigger next.2).map fun next => ⟨true, next.1, next.2⟩ := by
  unfold considerBroken
  cases t.row? e.ip with
  | none => rfl
  | some cur =>
    simp only [bind, Except.bind]
    split
    · rfl
    · cases t.breakRoute _ _ sim <;> rfl

/-- Word of a broken route is always taken: the row that breaks is the table's own. -/
theorem Sound.considerBroken (sound : t.Sound sim) (odd : isOddSeq e.seq = true) :
    t.Answers sim (t.considerBroken e sim) := by
  rw [considerBroken_eq]
  cases present : t.row? e.ip with
  | none => exact sound.answers_unchanged
  | some cur =>
    simp only
    split
    · exact sound.answers_unchanged
    · next newer =>
      obtain ⟨route, found, rfl⟩ := Option.map_eq_some_iff.mp present
      have whole := sound.routes e.ip route found
      have row : { t.brokenRow route.row sim.now with seq := e.seq }.check = .ok () := by
        refine RouteRow.check_eq_ok_iff.mpr ⟨brokenRow_renumbered_coherent t _ _ odd, ?_⟩
        exact (RouteRow.check_ok whole.row).2
      have broken := sound.breakRoute .brokenAdvert row fun cur same => by
        have here : t.row? e.ip = some cur := whole.keyed ▸ same
        rw [present] at here
        cases here
        exact UInt32.le_of_lt (UInt32.not_le.mp newer)
      exact broken.requestTrigger.answers true

/-- Whether a table passes over an entry: it is about this node or the sender. -/
def Familiar (t : RouteTable) (me e : AdvertEntry) : Prop :=
  e.eth = t.eth ∨ e.ip = t.ip ∨ e.eth = me.eth

instance (t : RouteTable) (me e : AdvertEntry) : Decidable (t.Familiar me e) :=
  inferInstanceAs (Decidable (_ ∨ _))

/-- The row that an entry offers, if it offers one. -/
def offer? (t : RouteTable) (me : AdvertEntry) (link : Metric) (e : AdvertEntry) (now : Time) :
    Option RouteRow :=
  if ¬ t.Familiar me e ∧ e.hops ≠ 0 ∧ isOddSeq e.seq = false then
    some (t.relayedRow me e link now)
  else none

theorem offer?_some {link : Metric} {now : Time} (offered : t.offer? me link e now = some r) :
    r = t.relayedRow me e link now ∧ ¬ t.Familiar me e ∧ e.hops ≠ 0 ∧ isOddSeq e.seq = false := by
  unfold offer? at offered
  split at offered
  · next terms => exact ⟨(Option.some.inj offered).symm, terms⟩
  · cases offered

/-- An entry offers a row, or brings word of a broken route, or is passed over. -/
theorem takeEntry_eq (t : RouteTable) (me : AdvertEntry) (link : Metric) (e : AdvertEntry)
    (sim : Simulator MeshEvent) :
    t.takeEntry me link e sim =
      match t.offer? me link e sim.now with
      | some r => t.consider r sim
      | none =>
        if ¬ t.Familiar me e ∧ e.hops = 0 ∧ isOddSeq e.seq = true then t.considerBroken e sim
        else .ok ⟨false, t, sim⟩ := by
  unfold takeEntry offer?
  by_cases familiar : t.Familiar me e
  · simp only [familiar, not_true_eq_false, false_and, if_false]
    exact if_pos familiar
  · have strange : ¬ (e.eth = t.eth ∨ e.ip = t.ip ∨ e.eth = me.eth) := familiar
    rw [if_neg strange]
    by_cases near : e.hops = 0 <;> cases isOddSeq e.seq <;> simp [familiar, near]

/-- An entry that has been taken in was considered as a row, or as word of a broken route, or was passed
over. -/
theorem takeEntry_ok {link : Metric} {after : Considered}
    (done : t.takeEntry me link e sim = .ok after) :
    (¬ t.Familiar me e ∧ e.hops ≠ 0 ∧ isOddSeq e.seq = false ∧
        t.consider (t.relayedRow me e link sim.now) sim = .ok after) ∨
      (e.hops = 0 ∧ isOddSeq e.seq = true ∧ t.considerBroken e sim = .ok after) ∨
      after = ⟨false, t, sim⟩ := by
  rw [takeEntry_eq] at done
  cases offered : t.offer? me link e sim.now with
  | some r =>
    obtain ⟨rfl, strange, far, even⟩ := offer?_some offered
    rw [offered] at done
    exact .inl ⟨strange, far, even, done⟩
  | none =>
    simp only [offered] at done
    split at done
    · next broken => exact .inr (.inl ⟨broken.2.1, broken.2.2, done⟩)
    · exact .inr (.inr (Except.ok.inj done).symm)

theorem Sound.takeEntry (sound : t.Sound sim) {link : Metric}
    (unicast : ∀ r, t.offer? me link e sim.now = some r → t.accepts r = true →
      r.eth.isBroadcast = false) :
    t.Answers sim (t.takeEntry me link e sim) := by
  rw [takeEntry_eq]
  cases offered : t.offer? me link e sim.now with
  | none =>
    simp only
    split
    · next broken => exact sound.considerBroken broken.2.2
    · exact sound.answers_unchanged
  | some r =>
    obtain ⟨rfl, -, far, even⟩ := offer?_some offered
    exact sound.consider (relayedRow_coherent far even link) (unicast _ offered)

/-- The sender of an advert that counts: another node, which offers itself in it. -/
theorem advertiser?_some {sender : EtherAddress} {advert : RouteAdvert}
    (counts : t.advertiser? sender advert = some me) :
    me ∈ advert.entries ∧ me.eth = sender ∧ me.hops = 0 ∧ isOddSeq me.seq = false ∧
      me.eth ≠ t.eth ∧ me.ip ≠ t.ip := by
  obtain ⟨found, apart⟩ := Option.filter_eq_some_iff.mp counts
  have own := List.find?_some found
  simp only [Bool.and_eq_true, beq_iff_eq, Bool.not_eq_true', bne_iff_ne, ne_eq] at own apart
  obtain ⟨⟨rfl, near⟩, even⟩ := own
  exact ⟨List.mem_of_find?_eq_some found, rfl, near, even, apart⟩

/-- The row that an advert offers to its sender. -/
def hopRow (t : RouteTable) (me : AdvertEntry) (link : Metric) (now : Time) : RouteRow :=
  { t.neighborRow me now with metric := link }

/-- The table with the metric of a link in its log. -/
def noteLink (t : RouteTable) (me : AdvertEntry) (link : Metric) (now : Time) : RouteTable :=
  t.note now (.metricUpdate me.eth link.cost?)

/-- An advert offers a row to its sender, then what its entries offer. -/
theorem handleAdvert_eq (t : RouteTable) (sender : EtherAddress) (advert : RouteAdvert)
    (link : Metric) (sim : Simulator MeshEvent) :
    t.handleAdvert sender advert link sim =
      match t.advertiser? sender advert with
      | none => .ok ⟨false, t, sim⟩
      | some me =>
        ((t.noteLink me link sim.now).consider (t.hopRow me link sim.now) sim).bind
          (takeEntries me link advert.entries) := by
  unfold handleAdvert
  cases t.advertiser? sender advert <;> rfl

/-- An advert that has been taken in did not count, or offered a row to its sender and then its
entries. -/
theorem handleAdvert_ok {sender : EtherAddress} {advert : RouteAdvert} {link : Metric}
    {after : Considered} (done : t.handleAdvert sender advert link sim = .ok after) :
    (t.advertiser? sender advert = none ∧ after = ⟨false, t, sim⟩) ∨
      ∃ me first, t.advertiser? sender advert = some me ∧
        (t.noteLink me link sim.now).consider (t.hopRow me link sim.now) sim = .ok first ∧
        takeEntries me link advert.entries first = .ok after := by
  rw [handleAdvert_eq] at done
  cases counts : t.advertiser? sender advert with
  | none =>
    rw [counts] at done
    exact .inl ⟨rfl, (Except.ok.inj done).symm⟩
  | some me =>
    rw [counts] at done
    obtain ⟨first, hop, rests⟩ := ok_of_bind done
    exact .inr ⟨me, first, rfl, hop, rests⟩

theorem noteLink_kept (t : RouteTable) (me : AdvertEntry) (link : Metric) (now : Time) :
    t.Kept (t.noteLink me link now) := ⟨rfl, rfl, rfl, rfl, rfl, rfl, rfl, rfl, rfl⟩

theorem Sound.noteLink (sound : t.Sound sim) (me : AdvertEntry) (link : Metric) (now : Time) :
    (t.noteLink me link now).Sound sim :=
  sound.congr rfl rfl sound.advert sound.trigger sound.dump

end RouteTable

end WirelessMesh
