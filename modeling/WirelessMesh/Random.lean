namespace WirelessMesh

/-- Mixes the bits of a word: an offset, then two rounds of shift and multiplication. -/
def mix64 (x : UInt64) : UInt64 :=
  let z := x + 0x9E3779B97F4A7C15
  let z := (z ^^^ (z >>> 30)) * 0xBF58476D1CE4E5B9
  let z := (z ^^^ (z >>> 27)) * 0x94D049BB133111EB
  z ^^^ (z >>> 31)

/-- A source of random words. -/
structure RandomSource where
  counter : UInt64
  deriving DecidableEq, Inhabited

namespace RandomSource

def ofSeed (seed : UInt64) : RandomSource := ⟨seed⟩

/-- The next word. -/
def next (source : RandomSource) : UInt64 × RandomSource :=
  (mix64 source.counter, ⟨source.counter + 1⟩)

/-- A number below `bound`. Below zero there is none: the answer is zero and nothing is drawn. -/
def below (source : RandomSource) (bound : Nat) : Nat × RandomSource :=
  if bound = 0 then (0, source)
  else
    let (word, source) := source.next
    (word.toNat % bound, source)

theorem below_lt (source : RandomSource) {bound : Nat} (positive : 0 < bound) :
    (source.below bound).1 < bound := by
  unfold below
  rw [if_neg (by omega)]
  exact Nat.mod_lt _ positive

end RandomSource

end WirelessMesh
