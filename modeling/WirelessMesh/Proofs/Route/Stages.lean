import WirelessMesh.Proofs.Route.Refusal
import WirelessMesh.Proofs.Route.Steps

/-!
An advert is taken in row by row: first the row to its sender, then its entries in order. The tables on
the way are listed here, each with the simulator, and every one comes from the one before in one of
three ways: it is the same, it has considered a row, or it has considered word of a broken route.
-/
namespace WirelessMesh

universe u

/-- A list that leads from one thing to another, each related to the next. -/
structure Way {α : Type u} (R : α → α → Prop) (l : List α) (first last : α) : Prop where
  chain : l.IsChain R
  starts : l.head? = some first
  ends : l.getLast? = some last

namespace Way

variable {α : Type u} {R S : α → α → Prop} {P : α → Prop} {l : List α} {a b first last : α}

theorem single (R : α → α → Prop) (a : α) : Way R [a] a a := ⟨.singleton a, rfl, rfl⟩

theorem cons (step : R a b) (way : Way R l b last) : Way R (a :: l) a last := by
  constructor
  · apply way.chain.cons
    intro c head
    rw [way.starts] at head
    cases head
    exact step
  · simp
  · rw [List.getLast?_cons, way.ends]
    rfl

/-- What the first thing is and every step keeps, all of them are. -/
theorem all (way : Way R l first last) (start : P first) (keeps : ∀ {a b}, R a b → P a → P b) :
    ∀ a ∈ l, P a := by
  apply way.chain.induction P l
  · intro a b step here
    exact keeps step here
  · intro nonempty
    have head := List.head?_eq_some_head nonempty
    rw [way.starts] at head
    cases head
    exact start

/-- An induction along the way, from its end. -/
theorem induct {motive : List α → α → Prop} (way : Way R l first last) (single : motive [last] last)
    (cons : ∀ {a b : α} {l : List α}, R a b → motive (b :: l) b → motive (a :: b :: l) a) :
    motive l first := by
  induction l generalizing first with
  | nil => cases way.starts
  | cons a rest ih =>
    cases way.starts
    cases rest with
    | nil =>
      cases way.ends
      exact single
    | cons b rest =>
      obtain ⟨step, chain⟩ := List.isChain_cons_cons.mp way.chain
      exact cons step (ih ⟨chain, rfl, way.ends⟩)

theorem last_mem (way : Way R l first last) : last ∈ l := List.mem_of_getLast? way.ends

/-- The steps may be looked at with what is known of all things on the way. -/
theorem imp (way : Way R l first last) (known : ∀ a ∈ l, P a)
    (imp : ∀ {a b}, P a → R a b → S a b) : Way S l first last where
  chain := way.chain.imp_of_mem_imp fun a _ here _ step => imp (known a here) step
  starts := way.starts
  ends := way.ends

end Way

namespace RouteTable

variable {t : RouteTable} {sim : Simulator MeshEvent} {s s' : RouteTable × Simulator MeshEvent}
  {r : RouteRow} {me e : AdvertEntry} {link : Metric} {after first : Considered}
  {entries : List AdvertEntry} {sender : EtherAddress} {advert : RouteAdvert}

/-- The tables on the way through entries: the first, and the one after each entry. -/
def stages (me : AdvertEntry) (link : Metric) :
    List AdvertEntry → RouteTable × Simulator MeshEvent → List (RouteTable × Simulator MeshEvent)
  | [], s => [s]
  | e :: rest, s =>
    s :: match s.1.takeEntry me link e s.2 with
      | .ok next => stages me link rest (next.table, next.sim)
      | .error _ => []

/-- The tables on the way through an advert: the one that hears it, and the one after each row. -/
def hearing (t : RouteTable) (sender : EtherAddress) (advert : RouteAdvert) (link : Metric)
    (sim : Simulator MeshEvent) : List (RouteTable × Simulator MeshEvent) :=
  (t, sim) ::
    match t.advertiser? sender advert with
    | none => []
    | some me =>
      match t.hearSender me link sim with
      | .ok first => stages me link advert.entries (first.table, first.sim)
      | .error _ => []

/-- A row that an advert offers: a route that is whole, to another node, as of now. -/
structure Offered (t : RouteTable) (now : Time) (r : RouteRow) : Prop where
  coherent : r.Coherent
  whole : r.hops ≠ 0
  updated : r.updatedAt = now
  settled : r.settledAt = now + t.config.settle
  foreignIp : r.ip ≠ t.ip
  foreignEth : r.eth ≠ t.eth

/-- The ways in which a table gets from one row of an advert to the next. -/
inductive Hears : RouteTable × Simulator MeshEvent → RouteTable × Simulator MeshEvent → Prop
  | passed (s : RouteTable × Simulator MeshEvent) : Hears s s
  | offered {t : RouteTable} {sim : Simulator MeshEvent} {r : RouteRow} {after : Considered}
      (log : Option RouteLog) (offered : t.Offered sim.now r)
      (done : { t with log }.consider r sim = .ok after) : Hears (t, sim) (after.table, after.sim)
  | told {t : RouteTable} {sim : Simulator MeshEvent} {e : AdvertEntry} {after : Considered}
      (odd : isOddSeq e.seq = true) (done : t.considerBroken e sim = .ok after) :
      Hears (t, sim) (after.table, after.sim)

private theorem offered_relayedRow (strange : ¬ t.Familiar me e) (far : e.hops ≠ 0)
    (even : isOddSeq e.seq = false) (link : Metric) (now : Time) :
    t.Offered now (t.relayedRow me e link now) := by
  have coherent : (t.relayedRow me e link now).Coherent := relayedRow_coherent far even link
  have many : 2 ≤ (t.relayedRow me e link now).hops.toNat := two_le_relayed_hops far link
  constructor
  · exact coherent
  · intro gone
    rw [gone] at many
    exact absurd many (by decide)
  · rfl
  · rfl
  · intro mine
    exact strange (.inr (.inl mine))
  · intro mine
    exact strange (.inl mine)

private theorem offered_hopRow (even : isOddSeq me.seq = false) (foreign : me.eth ≠ t.eth ∧ me.ip ≠ t.ip)
    (link : Metric) (now : Time) : t.Offered now (t.hopRow me link now) :=
  ⟨neighborRow_coherent even link, nofun, rfl, rfl, foreign.2, foreign.1⟩

theorem hears_takeEntry (done : t.takeEntry me link e sim = .ok after) :
    Hears (t, sim) (after.table, after.sim) := by
  rcases takeEntry_ok done with ⟨strange, far, even, considered⟩ | ⟨-, odd, broken⟩ | rfl
  · exact .offered t.log (offered_relayedRow strange far even link sim.now) considered
  · exact .told odd broken
  · exact .passed _

theorem hears_hearSender (counts : t.advertiser? sender advert = some me)
    (done : t.hearSender me link sim = .ok first) : Hears (t, sim) (first.table, first.sim) := by
  obtain ⟨-, -, -, even, foreign⟩ := advertiser?_some counts
  exact .offered _ (offered_hopRow even foreign link sim.now) done

private theorem way_stages : ∀ sofar : Considered, takeEntries me link entries sofar = .ok after →
    Way Hears (stages me link entries (sofar.table, sofar.sim)) (sofar.table, sofar.sim)
      (after.table, after.sim) := by
  induction entries with
  | nil =>
    intro sofar done
    cases done
    exact .single _ _
  | cons e rest ih =>
    intro sofar done
    obtain ⟨next, taken, rests⟩ := ok_of_bind done
    have later := ih _ rests
    rw [stages, taken]
    exact later.cons (hears_takeEntry taken)

/-- The tables on the way through an advert lead from the one that hears it to the one that has. -/
theorem way_hearing (done : t.handleAdvert sender advert link sim = .ok after) :
    Way Hears (t.hearing sender advert link sim) (t, sim) (after.table, after.sim) := by
  unfold hearing
  rcases handleAdvert_ok done with ⟨silent, rfl⟩ | ⟨me, first, counts, hop, rests⟩
  · rw [silent]
    exact .single _ _
  · have heard : t.hearSender me link sim = .ok first := hop
    simp only [counts, heard]
    exact (way_stages first rests).cons (hears_hearSender counts heard)

theorem Hears.proceeds (hears : Hears s s') : s.1.Proceeds s.2 s'.1 s'.2 := by
  cases hears with
  | passed s => exact .still _ _
  | offered log offered done => exact (Proceeds.noted _ log _).trans (proceeds_consider done)
  | told odd done => exact proceeds_considerBroken done

/-- A sound table is sound after each row, and leaves the events of others alone. -/
theorem Hears.sound (hears : Hears s s') (sound : s.1.Sound s.2) :
    s.1.Kept s'.1 ∧ s'.1.Sound s'.2 ∧ s.2.Changes s.1.Owned s'.2 := by
  cases hears with
  | passed s => exact ⟨.refl _, sound, .refl _⟩
  | @offered t sim r after log offered done =>
    have noted : t.Kept { t with log } := (Proceeds.noted t log sim).kept
    have logged : { t with log }.Sound sim :=
      sound.congr rfl rfl sound.advert sound.trigger sound.dump
    by_cases broadcast : { t with log }.accepts r = true ∧ r.eth.isBroadcast = true
    · rw [logged.consider_broadcast offered.coherent broadcast.1 broadcast.2] at done
      cases done
    · have answers := logged.consider offered.coherent fun accepted =>
        Bool.eq_false_iff.mpr fun here => broadcast ⟨accepted, here⟩
      obtain ⟨after', done', kept, sound', changes⟩ := answers
      rw [done] at done'
      cases done'
      exact ⟨noted.trans kept, sound', owned_congr noted.node ▸ changes⟩
  | told odd done =>
    obtain ⟨after', done', rest⟩ := sound.considerBroken odd
    rw [done] at done'
    cases done'
    exact rest

end RouteTable

end WirelessMesh
