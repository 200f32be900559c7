import WirelessMesh.Proofs.Air.Arrivals
import WirelessMesh.Proofs.Wire.Advert
import WirelessMesh.Route.Table

namespace WirelessMesh

/-- The frames on their way from node to node, in the order in which they were sent. -/
structure Channels (n : Nat) where
  queue : Fin n → Fin n → List Frame := fun _ _ => []
  numbered : UInt64 := 0

/-- The entries of the advert in a frame. -/
def Frame.advertised (frame : Frame) : List AdvertEntry :=
  match RouteAdvert.decode frame.payload with
  | .ok advert => advert.entries
  | .error _ => []

namespace Channels

variable {n : Nat}

/-- A frame joins all channels of a node. -/
def carry (c : Channels n) (node : NodeId) (frame : Frame) : Channels n :=
  { c with queue := fun j i => if j.val = node then c.queue j i ++ [frame] else c.queue j i }

/-- Other frames take the place of those on one channel. -/
def leave (c : Channels n) (j i : Fin n) (frames : List Frame) : Channels n :=
  { c with queue := fun a b => if a = j ∧ b = i then frames else c.queue a b }

def entries (c : Channels n) (j i : Fin n) : List AdvertEntry :=
  (c.queue j i).flatMap Frame.advertised

instance : Medium (Channels n) where
  number c draft := (.ofDraft c.numbered draft, { c with numbered := c.numbered + 1 })
  send node frame air := { air with medium := air.medium.carry node frame }
  broadcast node frame air := { air with medium := air.medium.carry node frame }
  reject _ _ c := c

instance : LawfulMedium (Channels n) where
  send _ _ air := .refl air.sim
  broadcast _ _ air := .refl air.sim

variable {c : Channels n} {node : NodeId} {frame : Frame} {j i : Fin n}

theorem queue_carry (j i : Fin n) :
    (c.carry node frame).queue j i = c.queue j i ++ if j.val = node then [frame] else [] := by
  simp only [carry]
  split <;> simp

theorem entries_carry (j i : Fin n) :
    (c.carry node frame).entries j i =
      c.entries j i ++ if j.val = node then frame.advertised else [] := by
  unfold entries
  rw [queue_carry]
  split <;> simp

theorem mem_queue_carry {other : Frame} (member : other ∈ (c.carry node frame).queue j i) :
    other ∈ c.queue j i ∨ (j.val = node ∧ other = frame) := by
  rw [queue_carry] at member
  rcases List.mem_append.mp member with before | fresh
  · exact .inl before
  · split at fresh
    · next mine => exact .inr ⟨mine, List.mem_singleton.mp fresh⟩
    · cases fresh

end Channels

theorem three_ips : Function.Injective fun i : Fin 3 => IPv4.ofIndex i := by decide

theorem three_eths : Function.Injective fun i : Fin 3 => EtherAddress.ofIndex i := by decide

/-- The entries of an advert arrive in order, as many as are announced. -/
theorem Frame.advertised_encode (id : UInt64) (target source : EtherAddress) (type : UInt16)
    (advert : RouteAdvert) :
    Frame.advertised ⟨id, target, source, type, advert.encode⟩ =
      advert.entries.take (advert.entries.length % 0x1_0000) := by
  unfold advertised
  rw [RouteAdvert.decode_encode]

namespace RouteTable

variable {t : RouteTable} {e : AdvertEntry} {r : RouteRow} {now : Time}

theorem entryOf_some (told : entryOf now r = some e) :
    e.ip = r.ip ∧ e.eth = r.eth ∧ e.seq = r.seq ∧ e.hops = r.hops ∧
      e.metric = r.metric.quantize := by
  simp only [entryOf] at told
  split at told
  · cases told
  · cases told
    exact ⟨rfl, rfl, rfl, rfl, rfl⟩

/-- An advert tells of its sender and of the rows in use. -/
theorem mem_buildAdvert (member : e ∈ (t.buildAdvert now).entries) :
    e = t.selfEntry ∨
      ∃ ip ρ, t.routes.get? ip = some ρ ∧ entryOf now (t.served now ρ) = some e := by
  rcases List.mem_cons.mp member with self | row
  · exact .inl self
  · obtain ⟨r, served, told⟩ := List.mem_filterMap.mp row
    obtain ⟨ρ, value, rfl⟩ := List.mem_map.mp served
    obtain ⟨⟨ip, _⟩, entry, rfl⟩ := List.mem_map.mp value
    exact .inr ⟨ip, _, Directory.get?_eq_some_iff.mpr entry, told⟩

end RouteTable

end WirelessMesh
