import Mathlib
import WirelessMesh.Proofs.Node.Creation

/-!
Random sources told apart. Each step of mixing a word can be undone, so mixing loses nothing: different
counters give different words, and what is different of two nodes stays different in all that they are
seeded with. Main statement: `MeshNode.nodes_draw_apart`.
-/
namespace WirelessMesh

private theorem eq_zero_of_shiftRight {z k : UInt64} (moves : 0 < k.toNat % 64) (same : z >>> k = z) :
    z = 0 := by
  have halves : z.toNat / 2 ^ (k.toNat % 64) = z.toNat := by
    rw [← Nat.shiftRight_eq_div_pow, ← UInt64.toNat_shiftRight, same]
  have more : 1 < 2 ^ (k.toNat % 64) := Nat.one_lt_two_pow moves.ne'
  by_contra other
  have positive : 0 < z.toNat := by
    apply Nat.pos_of_ne_zero
    intro zero
    exact other (UInt64.toNat_inj.mp zero)
  exact (Nat.div_lt_self positive more).ne halves

/-- The bits that a word is mixed with by a shift can be told from the result. -/
private theorem xor_shiftRight_injective {k : UInt64} (moves : 0 < k.toNat % 64) :
    Function.Injective fun z : UInt64 => z ^^^ (z >>> k) := by
  intro x y same
  have rest : (x ^^^ y) ^^^ ((x ^^^ y) >>> k) = 0 :=
    calc (x ^^^ y) ^^^ ((x ^^^ y) >>> k)
      _ = (x ^^^ (x >>> k)) ^^^ (y ^^^ (y >>> k)) := by
        rw [UInt64.shiftRight_xor]
        ac_rfl
      _ = 0 := UInt64.xor_eq_zero_iff.mpr same
  have fixed : x ^^^ y = (x ^^^ y) >>> k := UInt64.xor_eq_zero_iff.mp rest
  exact UInt64.xor_eq_zero_iff.mp (eq_zero_of_shiftRight moves fixed.symm)

private theorem mul_right_injective_of_inverse {factor : UInt64} (inverse : UInt64)
    (undoes : factor * inverse = 1) :
    Function.Injective fun z : UInt64 => z * factor := by
  apply Function.LeftInverse.injective (g := fun z => z * inverse)
  intro z
  show z * factor * inverse = z
  rw [UInt64.mul_assoc, undoes, UInt64.mul_one]

theorem mix64_injective : Function.Injective mix64 := by
  have offset : Function.Injective fun z : UInt64 => z + 0x9E3779B97F4A7C15 :=
    fun _ _ same => (UInt64.add_left_inj _).mp same
  have first : Function.Injective fun z : UInt64 => z * 0xBF58476D1CE4E5B9 :=
    mul_right_injective_of_inverse 0x96DE1B173F119089 (by decide)
  have second : Function.Injective fun z : UInt64 => z * 0x94D049BB133111EB :=
    mul_right_injective_of_inverse 0x319642B2D24D8EC3 (by decide)
  have rounds := (second.comp (xor_shiftRight_injective (k := 27) (by decide))).comp
    ((first.comp (xor_shiftRight_injective (k := 30) (by decide))).comp offset)
  exact (xor_shiftRight_injective (k := 31) (by decide)).comp rounds

namespace RandomSource

/-- The word that is drawn after some others. -/
def word : RandomSource → Nat → UInt64
  | source, 0 => source.next.1
  | source, drawn + 1 => source.next.2.word drawn

private theorem word_eq (source : RandomSource) (drawn : Nat) :
    source.word drawn = mix64 (source.counter + UInt64.ofNat drawn) := by
  induction drawn generalizing source with
  | zero => simp [word, next]
  | succ drawn ih =>
    rw [word, ih]
    simp only [next, UInt64.ofNat_add]
    congr 1
    rw [UInt64.add_assoc, UInt64.add_comm 1]
    rfl

/-- A source gives a word again after as many draws as there are words, and no sooner. -/
private theorem word_inj (source : RandomSource) (i j : Nat) :
    source.word i = source.word j ↔ i % 2 ^ 64 = j % 2 ^ 64 := by
  rw [word_eq, word_eq, mix64_injective.eq_iff, UInt64.add_right_inj,
    UInt64.ofNat_eq_iff_mod_eq_toNat, UInt64.toNat_ofNat']

end RandomSource

private theorem EtherAddress.toWord_injective : Function.Injective EtherAddress.toWord := by
  have below (x : EtherAddress) : x.toNat < 2 ^ 64 := by
    have := x.a.toNat_lt; have := x.b.toNat_lt; have := x.c.toNat_lt
    have := x.d.toNat_lt; have := x.e.toNat_lt; have := x.f.toNat_lt
    simp only [EtherAddress.toNat]
    omega
  intro x y same
  rw [toWord, toWord, UInt64.ofNat_eq_iff_mod_eq_toNat, UInt64.toNat_ofNat',
    Nat.mod_eq_of_lt (below x), Nat.mod_eq_of_lt (below y)] at same
  exact toNat_injective same

namespace MeshNode

private theorem baseSeed_injective (seed : UInt64) : Function.Injective (baseSeed seed) := by
  intro x y same
  apply EtherAddress.toWord_injective
  apply mix64_injective
  exact (UInt64.xor_right_inj seed).mp same

private theorem partSeed_injective (part : UInt64) : Function.Injective fun base => partSeed base part := by
  intro base base' same
  apply (UInt64.xor_left_inj part).mp
  apply mix64_injective
  exact congrArg RandomSource.counter same

theorem Made.seeds {id : NodeId} {config : NodeConfig} {n : MeshNode} (made : Made id config n) :
    n.rates.random = partSeed (baseSeed config.seed config.eth) 1 ∧
      n.prober.rounds.random = partSeed (baseSeed config.seed config.eth) 2 ∧
      n.routes.random = partSeed (baseSeed config.seed config.eth) 3 ∧
      n.prober.rounds.salt = baseSeed config.seed config.eth := by
  obtain ⟨eth, -, prober⟩ := Prober.create_eq made.prober
  refine ⟨?_, ?_, ?_, ?_⟩
  · rw [DeliveryRates.create_eq made.rates]
  · rw [prober]
    rfl
  · rw [RouteTable.create_eq made.routes]
  · rw [prober]
    rfl

/-- Mixing takes different words to different words, and to every word some word. So a source gives
no word twice before it has given all, and nodes with one seed and different addresses differ in their
base and in what each of their parts draws from. -/
theorem nodes_draw_apart :
    Function.Bijective mix64 ∧
    (∀ (seed : UInt64) (i j : Nat), (RandomSource.ofSeed seed).word i = (RandomSource.ofSeed seed).word j ↔
      i % 2 ^ 64 = j % 2 ^ 64) ∧
    ∀ (id id' : NodeId) (config config' : NodeConfig) (n n' : MeshNode),
      create id config = .ok n → create id' config' = .ok n' →
      config.seed = config'.seed → config.eth ≠ config'.eth →
        baseSeed config.seed config.eth ≠ baseSeed config'.seed config'.eth ∧
        n.prober.rounds.salt ≠ n'.prober.rounds.salt ∧
        n.rates.random ≠ n'.rates.random ∧
        n.prober.rounds.random ≠ n'.prober.rounds.random ∧
        n.routes.random ≠ n'.routes.random := by
  refine ⟨Finite.injective_iff_bijective.mp mix64_injective, fun seed => RandomSource.word_inj _, ?_⟩
  intro id id' config config' n n' done done' seed other
  have base : baseSeed config.seed config.eth ≠ baseSeed config'.seed config'.eth := by
    rw [← seed]
    exact (baseSeed_injective config.seed).ne other
  have part (k : UInt64) := (partSeed_injective k).ne base
  obtain ⟨rates, prober, routes, salt⟩ := (made_of_create done).seeds
  obtain ⟨rates', prober', routes', salt'⟩ := (made_of_create done').seeds
  rw [rates, prober, routes, salt, rates', prober', routes', salt']
  exact ⟨base, base, part 1, part 2, part 3⟩

/-- The nodes of numbers 0 and 1 are given the same seed and do not draw alike. -/
theorem first_two_draw_apart : ∃ n n' : MeshNode,
    create 0 (.ofIndex 0) = .ok n ∧ create 1 (.ofIndex 1) = .ok n' ∧
      n.prober.rounds.salt ≠ n'.prober.rounds.salt ∧ n.rates.random ≠ n'.rates.random ∧
      n.prober.rounds.random ≠ n'.prober.rounds.random ∧ n.routes.random ≠ n'.routes.random := by
  have first : (create 0 (.ofIndex 0)).isOk = true := by rfl
  have second : (create 1 (.ofIndex 1)).isOk = true := by rfl
  obtain ⟨n, done⟩ := ok_of_isOk first
  obtain ⟨n', done'⟩ := ok_of_isOk second
  have apart := nodes_draw_apart.2.2 0 1 (.ofIndex 0) (.ofIndex 1) n n' done done' rfl (by decide)
  exact ⟨n, n', done, done', apart.2⟩

end MeshNode

end WirelessMesh
