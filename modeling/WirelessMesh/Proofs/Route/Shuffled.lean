import Mathlib
import WirelessMesh.Proofs.Route.Acceptance

/-!
The order of the entries in an advert. An entry looks at nothing but what is known of its own
destination, and beyond that destination it only adds to the answer, the trigger and the log. So
entries for different destinations may change places. Main statement:
`RouteTable.entries_in_any_order`.
-/
namespace WirelessMesh

/-- What an entry of an advert comes to: what is known of its destination from then on, the line
that it adds to the log, whether a row has changed, and whether an advert is asked for. -/
structure Effect where
  known : Knowledge
  line : Option RouteLogEvent
  changed : Bool
  asks : Bool

namespace Knowledge

variable (k : Knowledge) (t : RouteTable) (now : Time)

def untouched : Effect := ⟨k, none, false, false⟩

def replaced (r : RouteRow) (why : RouteReason) (asks : Bool) : Effect where
  known := ⟨some r, k.olderThan t.config.useOldRoute r.seq,
    if r.isGood then some (now + min r.ttl t.config.timeout) else none⟩
  line := some (.addedRoute (.ofRow r) why)
  changed := true
  asks

def offered (r : RouteRow) : Effect :=
  if t.Prevails k.row r then
    k.replaced t now (RouteTable.settledWith k.row r) (RouteTable.reasonOver k.row r)
      (RouteTable.isMove k.row r)
  else k.untouched

def told (e : AdvertEntry) : Effect :=
  match k.row with
  | none => k.untouched
  | some cur =>
    if cur.seq < e.seq then
      if t.config.ignoreInvalidRoutes then ⟨⟨none, none, none⟩, none, true, true⟩
      else k.replaced t now (t.wordOfBreak cur e.seq now) .brokenAdvert true
    else k.untouched

def heard (me : AdvertEntry) (link : Metric) (e : AdvertEntry) : Effect :=
  if e.eth = t.eth ∨ e.ip = t.ip ∨ e.eth = me.eth then k.untouched
  else if e.hops = 0 ∧ isOddSeq e.seq = true then k.told t now e
  else if e.hops ≠ 0 ∧ isOddSeq e.seq = false then k.offered t now (t.relayedRow me e link now)
  else k.untouched

end Knowledge

def RouteLog.contents (log : RouteLog) : IPv4 × Multiset RouteLogRecord := (log.node, log.lines)

theorem RouteLog.contents_write (log : RouteLog) (time : Time) (event : RouteLogEvent) :
    (log.write time event).contents =
      (log.contents.1, ⟨time, log.contents.1, event⟩ ::ₘ log.contents.2) := rfl

/-- What there is to see of a picture if the order of the lines in the log does not count. -/
structure Sight where
  knows : IPv4 → Knowledge
  trigger : Option Time
  log : Option (IPv4 × Multiset RouteLogRecord)
  changed : Bool

def Picture.sight (p : Picture) : Sight where
  knows := p.knows
  trigger := p.trigger
  log := p.log.map RouteLog.contents
  changed := p.changed

namespace Sight

variable (s : Sight) (t : RouteTable) (now : Time)

def take (ip : IPv4) (x : Effect) : Sight where
  knows := Function.update s.knows ip x.known
  trigger := if x.asks then s.trigger.or (some (t.earliestAdvert now)) else s.trigger
  log := s.log.map fun log =>
    (log.1, (x.line.map (RouteLogRecord.mk now log.1)).elim log.2 (· ::ₘ log.2))
  changed := s.changed || x.changed

def hear (me : AdvertEntry) (link : Metric) (e : AdvertEntry) : Sight :=
  s.take t now e.ip ((s.knows e.ip).heard t now me link e)

variable {s t now} {ip ip' : IPv4} {me e e' : AdvertEntry} {link : Metric}

private theorem knows_take_of_ne (x : Effect) (other : ip' ≠ ip) :
    (s.take t now ip x).knows ip' = s.knows ip' :=
  Function.update_of_ne other ..

private theorem take_comm (other : ip ≠ ip') (x y : Effect) :
    (s.take t now ip x).take t now ip' y = (s.take t now ip' y).take t now ip x := by
  simp only [take, Sight.mk.injEq, Option.map_map]
  refine ⟨Function.update_comm other .., ?_, ?_, Bool.or_right_comm ..⟩
  · cases x.asks <;> cases y.asks <;> rfl
  · congr 1
    funext log
    cases x.line with
    | none => rfl
    | some first =>
      cases y.line with
      | none => rfl
      | some second => exact congrArg (Prod.mk log.1) (Multiset.cons_swap ..)

private theorem hear_comm (other : e.ip ≠ e'.ip) :
    (s.hear t now me link e).hear t now me link e' =
      (s.hear t now me link e').hear t now me link e := by
  simp only [hear]
  rw [knows_take_of_ne _ other.symm, knows_take_of_ne _ other, take_comm other]

/-- The entries of an advert that names no destination twice may come in any order. -/
private theorem foldl_hear_perm {entries shuffled : List AdvertEntry} (perm : shuffled.Perm entries)
    (once : (entries.map (·.ip)).Nodup) (s : Sight) :
    shuffled.foldl (fun s e => s.hear t now me link e) s =
      entries.foldl (fun s e => s.hear t now me link e) s := by
  have apart := List.inj_on_of_nodup_map once
  refine perm.foldl_eq' (fun e member e' member' s => ?_) s
  by_cases same : e = e'
  · rw [same]
  · exact hear_comm fun ips =>
      same (apart (perm.mem_iff.mp member) (perm.mem_iff.mp member') ips)

end Sight

namespace Picture

variable {p : Picture} {t : RouteTable} {now : Time} {r : RouteRow} {why : RouteReason}
  {me e : AdvertEntry} {link : Metric}

def Keyed (p : Picture) : Prop := ∀ ip r, (p.knows ip).row = some r → r.ip = ip

theorem sight_untouched (ip : IPv4) :
    p.sight = p.sight.take t now ip (p.knows ip).untouched := by
  cases log : p.log <;> simp [Sight.take, sight, Knowledge.untouched, log]

private theorem sight_write :
    (p.write t now r why).sight =
      p.sight.take t now r.ip ((p.knows r.ip).replaced t now r why false) := by
  cases log : p.log <;>
    simp [Sight.take, sight, write, Knowledge.replaced, RouteLog.contents_write, log]

theorem sight_write_ask :
    ((p.write t now r why).ask t now).sight =
      p.sight.take t now r.ip ((p.knows r.ip).replaced t now r why true) := by
  cases log : p.log <;>
    simp [Sight.take, sight, write, ask, Knowledge.replaced, RouteLog.contents_write, log]

private theorem sight_forget_ask (ip : IPv4) :
    ((p.forget ip).ask t now).sight =
      p.sight.take t now ip ⟨⟨none, none, none⟩, none, true, true⟩ := by
  cases log : p.log <;> simp [Sight.take, sight, forget, ask, log]

private theorem sight_offer :
    (p.offer t now r).sight = p.sight.take t now r.ip ((p.knows r.ip).offered t now r) := by
  unfold offer Knowledge.offered
  dsimp only
  have ip : (RouteTable.settledWith (p.knows r.ip).row r).ip = r.ip := by
    unfold RouteTable.settledWith
    split <;> rfl
  split
  · split
    · next moves => rw [sight_write_ask, ip, moves]
    · next stays => rw [sight_write, ip, Bool.eq_false_iff.mpr stays]
  · exact sight_untouched r.ip

private theorem sight_tell (keyed : p.Keyed) :
    (p.tell t now e).sight = p.sight.take t now e.ip ((p.knows e.ip).told t now e) := by
  unfold tell Knowledge.told
  cases present : (p.knows e.ip).row with
  | none => exact sight_untouched e.ip
  | some cur =>
    have ip : (t.wordOfBreak cur e.seq now).ip = e.ip := keyed e.ip cur present
    dsimp only
    split
    · split
      · exact sight_forget_ask e.ip
      · rw [sight_write_ask, ip]
    · exact sight_untouched e.ip

private theorem sight_hear (keyed : p.Keyed) :
    (p.hear t now me link e).sight = p.sight.hear t now me link e := by
  unfold hear Sight.hear
  rw [show (p.sight.knows e.ip).heard t now me link e = (p.knows e.ip).heard t now me link e from
    rfl]
  unfold Knowledge.heard
  split
  · exact sight_untouched e.ip
  · split
    · exact sight_tell keyed
    · split
      · exact sight_offer
      · exact sight_untouched e.ip

theorem Keyed.write (keyed : p.Keyed) (r : RouteRow) (why : RouteReason) :
    (p.write t now r why).Keyed := by
  intro ip row found
  by_cases here : ip = r.ip
  · subst here
    simp only [Picture.write, Function.update_self, Option.some.injEq] at found
    rw [found]
  · simp only [Picture.write, Function.update_of_ne here] at found
    exact keyed ip row found

theorem Keyed.forget (keyed : p.Keyed) (ip : IPv4) : (p.forget ip).Keyed := by
  intro ip' row found
  by_cases here : ip' = ip
  · subst here
    simp [Picture.forget] at found
  · simp only [Picture.forget, Function.update_of_ne here] at found
    exact keyed ip' row found

theorem Keyed.ask (keyed : p.Keyed) : (p.ask t now).Keyed := keyed

theorem Keyed.offer (keyed : p.Keyed) : (p.offer t now r).Keyed := by
  unfold Picture.offer
  dsimp only
  split
  · split
    · exact (keyed.write _ _).ask
    · exact keyed.write _ _
  · exact keyed

theorem Keyed.tell (keyed : p.Keyed) : (p.tell t now e).Keyed := by
  unfold Picture.tell
  split
  · exact keyed
  · split
    · split
      · exact (keyed.forget e.ip).ask
      · exact (keyed.write _ _).ask
    · exact keyed

theorem Keyed.hear (keyed : p.Keyed) : (p.hear t now me link e).Keyed := by
  unfold Picture.hear
  split
  · exact keyed
  · split
    · exact keyed.tell
    · split
      · exact keyed.offer
      · exact keyed

private theorem sight_foldl_hear {entries : List AdvertEntry} : ∀ {p : Picture}, p.Keyed →
    (entries.foldl (fun p e => p.hear t now me link e) p).sight =
      entries.foldl (fun s e => s.hear t now me link e) p.sight := by
  induction entries with
  | nil =>
    intro p _
    rfl
  | cons e rest ih =>
    intro p keyed
    rw [List.foldl_cons, List.foldl_cons, ih keyed.hear, sight_hear keyed]

/-- Adverts with the same entries in another order are told apart by the order of the log only. -/
private theorem sight_hearAdvert_perm {advert shuffled : RouteAdvert} (keyed : p.Keyed)
    (once : (advert.entries.map (·.ip)).Nodup) (perm : shuffled.entries.Perm advert.entries) :
    (p.hearAdvert t now me link shuffled).sight = (p.hearAdvert t now me link advert).sight := by
  unfold hearAdvert
  extract_lets noted
  have offered : (noted.offer t now (t.hopRow me link now)).Keyed := Keyed.offer keyed
  rw [sight_foldl_hear offered, sight_foldl_hear offered, Sight.foldl_hear_perm perm once]

end Picture

namespace RouteTable

variable {t : RouteTable} {sim : Simulator MeshEvent} {sender : EtherAddress}
  {advert shuffled : RouteAdvert} {link : Metric} {me : AdvertEntry} {after after' : Considered}

/-- The only entry with the address of the sender is found wherever it stands. -/
private theorem entryOfSender?_perm (one : (advert.entries.map (·.eth)).count sender = 1)
    (perm : shuffled.entries.Perm advert.entries) :
    entryOfSender? sender shuffled = entryOfSender? sender advert := by
  let own (e : AdvertEntry) : Bool := e.eth == sender && e.hops == 0 && !isOddSeq e.seq
  have few : (advert.entries.filter own).length ≤ 1 := by
    rw [← List.countP_eq_length_filter, ← one, List.count, List.countP_map]
    refine List.countP_mono_left fun e _ holds => ?_
    simp only [own, Bool.and_eq_true] at holds
    exact holds.1.1
  have same : shuffled.entries.filter own = advert.entries.filter own := by
    have filtered := perm.filter own
    match found : advert.entries.filter own, few with
    | [], _ => rwa [found, List.perm_nil] at filtered
    | [e], _ => rwa [found, List.perm_singleton] at filtered
  show shuffled.entries.find? own = advert.entries.find? own
  rw [← List.head?_filter, ← List.head?_filter, same]

private theorem Sound.picture_keyed (sound : t.Sound sim) (changed : Bool) :
    (t.picture sim changed).Keyed := by
  intro ip row found
  obtain ⟨route, present, rfl⟩ := Option.map_eq_some_iff.mp found
  exact (sound.routes ip route present).keyed

/-- Tables that are told apart by the order of their logs only have the same rows and timers and
the same lines. -/
private theorem same_sight
    (same : (after'.table.picture after'.sim after'.changed).sight =
      (after.table.picture after.sim after.changed).sight) :
    after'.changed = after.changed ∧
    (∀ ip, after'.table.row? ip = after.table.row? ip ∧
      after'.table.old? ip = after.table.old? ip ∧
      (after'.table.expiryOf ip).due? after'.sim = (after.table.expiryOf ip).due? after.sim) ∧
    after'.table.triggerTimer.due? after'.sim = after.table.triggerTimer.due? after.sim ∧
    after'.table.drainLog.1.Perm after.table.drainLog.1 := by
  refine ⟨congrArg Sight.changed same, fun ip => ?_, congrArg Sight.trigger same, ?_⟩
  · have known := congrFun (congrArg Sight.knows same) ip
    exact ⟨congrArg Knowledge.row known, congrArg Knowledge.old known,
      congrArg Knowledge.ends known⟩
  · have logs : after'.table.log.map RouteLog.contents = after.table.log.map RouteLog.contents :=
      congrArg Sight.log same
    unfold drainLog RouteLog.drain
    cases first : after'.table.log with
    | none =>
      rw [first, Option.map_none, eq_comm, Option.map_eq_none_iff] at logs
      rw [logs]
    | some log' =>
      rw [first, Option.map_some, eq_comm, Option.map_eq_some_iff] at logs
      obtain ⟨log, second, pairs⟩ := logs
      rw [second]
      have lines := Multiset.coe_eq_coe.mp (congrArg Prod.snd pairs)
      exact (List.reverse_perm _).trans (lines.symm.trans (List.reverse_perm _).symm)

/-- The order of the entries in an advert does not matter, if the advert has no broadcast address,
one entry with the address of its sender, and no destination twice. A sound table takes the entries
in any order, and its rows, old rows, expiry times, trigger and answer come out the same, and so
does its log but for the order of the lines. -/
theorem entries_in_any_order (sound : t.Sound sim) (sender : EtherAddress) (link : Metric)
    {advert shuffled : RouteAdvert} (unicast : ∀ e ∈ advert.entries, e.eth.isBroadcast = false)
    (one : (advert.entries.map (·.eth)).count sender = 1)
    (once : (advert.entries.map (·.ip)).Nodup) (perm : shuffled.entries.Perm advert.entries) :
    ∃ after after', t.handleAdvert sender advert link sim = .ok after ∧
      t.handleAdvert sender shuffled link sim = .ok after' ∧
      after'.changed = after.changed ∧
      (∀ ip, after'.table.row? ip = after.table.row? ip ∧
        after'.table.old? ip = after.table.old? ip ∧
        (after'.table.expiryOf ip).due? after'.sim = (after.table.expiryOf ip).due? after.sim) ∧
      after'.table.triggerTimer.due? after'.sim = after.table.triggerTimer.due? after.sim ∧
      after'.table.drainLog.1.Perm after.table.drainLog.1 := by
  obtain ⟨after, done, -⟩ := sound.handleAdvert link unicast
  have unicast' : ∀ e ∈ shuffled.entries, e.eth.isBroadcast = false := fun e member =>
    unicast e (perm.mem_iff.mp member)
  obtain ⟨after', done', -⟩ := sound.handleAdvert link unicast'
  refine ⟨after, after', done, done', same_sight ?_⟩
  have own : t.advertiser? sender shuffled = t.advertiser? sender advert := by
    rw [advertiser?, advertiser?, entryOfSender?_perm one perm]
  cases counts : t.advertiser? sender advert with
  | none =>
    rw [handleAdvert_eq, counts] at done
    rw [handleAdvert_eq, own, counts] at done'
    cases done
    cases done'
    rfl
  | some me =>
    rw [sound.picture_handleAdvert counts done,
      sound.picture_handleAdvert (own.trans counts) done']
    exact Picture.sight_hearAdvert_perm (sound.picture_keyed false) once perm

def threeEntries : RouteAdvert :=
  ⟨[⟨.ofIndex 3, .ofIndex 3, 4, 1, 50, 60000⟩, ⟨.ofIndex 1, .ofIndex 1, 2, 0, 0, 60000⟩,
    ⟨.ofIndex 4, .ofIndex 4, 6, 2, 90, 1000⟩]⟩

def threeReversed : RouteAdvert := ⟨threeEntries.entries.reverse⟩

/-- With the entries the other way round the log has other lines first, and that is all. -/
theorem three_entries_reversed :
    let t := blank.setLog { node := .ofIndex 0 }
    ∃ after after', t.handleAdvert (.ofIndex 1) threeEntries (.good 100) .empty = .ok after ∧
      t.handleAdvert (.ofIndex 1) threeReversed (.good 100) .empty = .ok after' ∧
      after.changed = true ∧ after.table.drainLog.1 ≠ after'.table.drainLog.1 ∧
      after'.changed = after.changed ∧
      (∀ ip, after'.table.row? ip = after.table.row? ip ∧
        after'.table.old? ip = after.table.old? ip ∧
        (after'.table.expiryOf ip).due? after'.sim = (after.table.expiryOf ip).due? after.sim) ∧
      after'.table.triggerTimer.due? after'.sim = after.table.triggerTimer.due? after.sim ∧
      after'.table.drainLog.1.Perm after.table.drainLog.1 := by
  intro t
  have empty : blank.Sound .empty := (blank_inUse ({} : Transcript)).sound
  have sound : t.Sound .empty := empty.congr rfl rfl empty.advert empty.trigger empty.dump
  have perm : threeReversed.entries.Perm threeEntries.entries := List.reverse_perm _
  obtain ⟨after, after', done, done', same⟩ :=
    entries_in_any_order sound (.ofIndex 1) (.good 100) (by decide) (by decide) (by decide) perm
  have changed : (t.handleAdvert (.ofIndex 1) threeEntries (.good 100) .empty).toOption.map
      (·.changed) = some true := by decide +kernel
  have lines : (t.handleAdvert (.ofIndex 1) threeEntries (.good 100) .empty).toOption.map
      (·.table.drainLog.1) ≠
      (t.handleAdvert (.ofIndex 1) threeReversed (.good 100) .empty).toOption.map
        (·.table.drainLog.1) := by decide +kernel
  rw [done] at changed
  rw [done, done'] at lines
  refine ⟨after, after', done, done', Option.some.inj changed, fun alike => lines ?_, same⟩
  exact congrArg some alike

end RouteTable

end WirelessMesh
