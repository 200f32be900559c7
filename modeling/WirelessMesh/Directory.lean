namespace WirelessMesh

universe u v

/-- Keys that are ordered by a number, which no two keys share. -/
class Ranked (κ : Type u) where
  rank : κ → Nat
  rank_injective : ∀ {a b : κ}, rank a = rank b → a = b

export Ranked (rank)

theorem Ranked.rank_inj {κ : Type u} [Ranked κ] {a b : κ} : rank a = rank b ↔ a = b :=
  ⟨rank_injective, congrArg rank⟩

/-- Values under keys, in ascending order of the keys, with one value for each key. -/
structure Directory (κ : Type u) (ν : Type v) [Ranked κ] where
  entries : List (κ × ν)
  ascending : entries.Pairwise fun a b => rank a.1 < rank b.1

namespace Directory

variable {κ : Type u} {ν : Type v} [Ranked κ]

def empty : Directory κ ν := ⟨[], .nil⟩

instance : Inhabited (Directory κ ν) := ⟨empty⟩

def size (d : Directory κ ν) : Nat := d.entries.length

def isEmpty (d : Directory κ ν) : Bool := d.entries.isEmpty

/-- The keys in ascending order. -/
def keys (d : Directory κ ν) : List κ := d.entries.map (·.1)

/-- The values in ascending order of their keys. -/
def values (d : Directory κ ν) : List ν := d.entries.map (·.2)

/-- The value of an entry for the key. -/
def find (k : κ) : List (κ × ν) → Option ν
  | [] => none
  | e :: rest => if rank e.1 = rank k then some e.2 else find k rest

/-- The value of a key. -/
def get? (d : Directory κ ν) (k : κ) : Option ν := find k d.entries

def contains (d : Directory κ ν) (k : κ) : Bool := (d.get? k).isSome

/-- Places an entry in ascending order, over an entry of the same key. -/
def place (k : κ) (v : ν) : List (κ × ν) → List (κ × ν)
  | [] => [(k, v)]
  | e :: rest =>
    if rank k < rank e.1 then (k, v) :: e :: rest
    else if rank k = rank e.1 then (k, v) :: rest
    else e :: place k v rest

theorem mem_place {k : κ} {v : ν} {l : List (κ × ν)} {e : κ × ν} (member : e ∈ place k v l) :
    e = (k, v) ∨ e ∈ l := by
  induction l with
  | nil => simpa [place] using member
  | cons head rest ih =>
    unfold place at member
    split at member
    · simpa using member
    · split at member
      · rcases List.mem_cons.1 member with same | later
        · exact .inl same
        · exact .inr (List.mem_cons_of_mem _ later)
      · rcases List.mem_cons.1 member with same | later
        · exact .inr (same ▸ List.mem_cons_self)
        · exact (ih later).imp_right (List.mem_cons_of_mem _)

private theorem place_ascending {k : κ} {v : ν} {l : List (κ × ν)}
    (ordered : l.Pairwise fun a b => rank a.1 < rank b.1) :
    (place k v l).Pairwise fun a b => rank a.1 < rank b.1 := by
  induction l with
  | nil => simp [place]
  | cons head rest ih =>
    obtain ⟨least, tail⟩ := List.pairwise_cons.1 ordered
    unfold place
    split
    · next before =>
      refine List.pairwise_cons.2 ⟨fun e member => ?_, ordered⟩
      rcases List.mem_cons.1 member with same | later
      · exact same ▸ before
      · exact Nat.lt_trans before (least e later)
    · split
      · next same => exact List.pairwise_cons.2 ⟨fun e member => same ▸ least e member, tail⟩
      · next notBefore notSame =>
        refine List.pairwise_cons.2 ⟨fun e member => ?_, ih tail⟩
        rcases mem_place member with same | later
        · subst same; show rank head.1 < rank k; omega
        · exact least e later

/-- Gives a key a value, in place of the one it had. -/
def insert (d : Directory κ ν) (k : κ) (v : ν) : Directory κ ν :=
  ⟨place k v d.entries, place_ascending d.ascending⟩

/-- Keeps the entries that pass a test. -/
def filter (d : Directory κ ν) (keep : κ → ν → Bool) : Directory κ ν :=
  ⟨d.entries.filter fun e => keep e.1 e.2, d.ascending.filter _⟩

/-- Takes a key out. -/
def erase (d : Directory κ ν) (k : κ) : Directory κ ν :=
  d.filter fun key _ => rank key != rank k

/-- Changes every value under its key. -/
def map (d : Directory κ ν) (change : κ → ν → ν) : Directory κ ν :=
  ⟨d.entries.map fun e => (e.1, change e.1 e.2), by
    rw [List.pairwise_map]
    exact d.ascending⟩

/-- Changes the value of one key, if it has one. -/
def modify (d : Directory κ ν) (k : κ) (change : ν → ν) : Directory κ ν :=
  d.map fun key v => if rank key = rank k then change v else v

theorem ext {d e : Directory κ ν} (same : d.entries = e.entries) : d = e := by
  cases d; cases e; cases same; rfl

private theorem find_place (k key : κ) (v : ν) (l : List (κ × ν)) :
    find key (place k v l) = if rank k = rank key then some v else find key l := by
  induction l with
  | nil => simp [place, find]
  | cons head rest ih =>
    unfold place
    split
    · simp [find]
    · split
      · next same =>
        by_cases hit : rank k = rank key
        · simp [find, hit]
        · have missed : ¬ rank head.1 = rank key := by omega
          simp [find, hit, missed]
      · next notSame =>
        by_cases hit : rank head.1 = rank key
        · have other : ¬ rank k = rank key := by omega
          simp [find, hit, other]
        · simp [find, hit, ih]

@[simp] theorem get?_empty (k : κ) : (empty : Directory κ ν).get? k = none := rfl

theorem get?_insert (d : Directory κ ν) (k key : κ) (v : ν) :
    (d.insert k v).get? key = if rank k = rank key then some v else d.get? key :=
  find_place k key v d.entries

@[simp] theorem get?_insert_self (d : Directory κ ν) (k : κ) (v : ν) :
    (d.insert k v).get? k = some v := by
  simp [get?_insert]

/-- A key finds a value exactly when the two are an entry. -/
theorem get?_eq_some_iff {d : Directory κ ν} {k : κ} {v : ν} :
    d.get? k = some v ↔ (k, v) ∈ d.entries := by
  obtain ⟨entries, ascending⟩ := d
  show find k entries = some v ↔ (k, v) ∈ entries
  induction entries with
  | nil => simp [find]
  | cons head rest ih =>
    obtain ⟨least, tail⟩ := List.pairwise_cons.1 ascending
    by_cases hit : rank head.1 = rank k
    · rw [find, if_pos hit]
      constructor
      · intro found
        cases found
        rw [← Ranked.rank_injective hit]
        exact List.mem_cons_self
      · intro member
        rcases List.mem_cons.1 member with same | later
        · rw [← same]
        · have := least _ later
          simp only at this
          omega
    · rw [find, if_neg hit, ih tail]
      constructor
      · exact List.mem_cons_of_mem _
      · intro member
        rcases List.mem_cons.1 member with same | later
        · exact absurd (by rw [← same]) hit
        · exact later

theorem mem_keys_iff {d : Directory κ ν} {k : κ} : k ∈ d.keys ↔ (d.get? k).isSome = true := by
  rw [Option.isSome_iff_exists, keys, List.mem_map]
  constructor
  · rintro ⟨⟨_, v⟩, member, rfl⟩
    exact ⟨v, get?_eq_some_iff.mpr member⟩
  · rintro ⟨v, found⟩
    exact ⟨(k, v), get?_eq_some_iff.mp found, rfl⟩

theorem keys_ascending (d : Directory κ ν) : d.keys.Pairwise fun a b => rank a < rank b :=
  List.pairwise_map.mpr d.ascending

theorem get?_filter (d : Directory κ ν) (keep : κ → ν → Bool) (k : κ) :
    (d.filter keep).get? k = (d.get? k).filter (keep k) := by
  rw [Option.ext_iff]
  intro v
  rw [Option.filter_eq_some_iff, get?_eq_some_iff, get?_eq_some_iff]
  simp [filter]

theorem get?_erase (d : Directory κ ν) (k key : κ) :
    (d.erase k).get? key = if rank k = rank key then none else d.get? key := by
  rw [erase, get?_filter]
  by_cases same : rank k = rank key
  · simp [same]
  · have differs : (rank key != rank k) = true := by simpa using fun h => same h.symm
    cases d.get? key <;> simp [same, differs]

private theorem find_map (change : κ → ν → ν) (k : κ) (l : List (κ × ν)) :
    find k (l.map fun e => (e.1, change e.1 e.2)) = (find k l).map (change k) := by
  induction l with
  | nil => rfl
  | cons head rest ih =>
    by_cases hit : rank head.1 = rank k
    · simp [find, Ranked.rank_injective hit]
    · simp [find, hit, ih]

theorem get?_map (d : Directory κ ν) (change : κ → ν → ν) (k : κ) :
    (d.map change).get? k = (d.get? k).map (change k) :=
  find_map change k d.entries

theorem get?_modify (d : Directory κ ν) (k key : κ) (change : ν → ν) :
    (d.modify k change).get? key =
      if rank k = rank key then (d.get? key).map change else d.get? key := by
  rw [modify, get?_map]
  by_cases same : rank k = rank key
  · simp [same]
  · have differs : ¬ rank key = rank k := fun h => same h.symm
    simp [same, differs]

end Directory

end WirelessMesh
