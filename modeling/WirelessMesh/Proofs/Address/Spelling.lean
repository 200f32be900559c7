import Mathlib
import WirelessMesh.Address.Ether

namespace WirelessMesh

/-- Cutting a text into groups is splitting it where there are separators. -/
private theorem splitGroups_eq_splitOnP (separates : Char → Bool) (text : List Char) :
    splitGroups separates text = text.splitOnP separates := by
  induction text with
  | nil => rfl
  | cons ch rest ih =>
    rw [splitGroups, List.splitOnP_cons_eq_if_modifyHead, ih]
    split
    · rfl
    · cases split : rest.splitOnP separates with
      | nil => exact absurd split (List.splitOnP_ne_nil _ _)
      | cons group later => rfl

private theorem mapM_eq_some_iff {α β : Type} {read : α → Option β} {xs : List α} {ys : List β} :
    xs.mapM read = some ys ↔ List.Forall₂ (fun x y => read x = some y) xs ys := by
  induction xs generalizing ys with
  | nil => simp [eq_comm]
  | cons x xs ih =>
    rw [List.mapM_cons, List.forall₂_cons_left_iff]
    simp only [Option.bind_eq_bind, Option.bind_eq_some_iff, Option.pure_def, Option.some.injEq]
    constructor
    · rintro ⟨y, first, later, rest, rfl⟩
      exact ⟨y, later, first, ih.mp rest, rfl⟩
    · rintro ⟨y, later, first, rest, rfl⟩
      exact ⟨y, first, later, ih.mpr rest, rfl⟩

/-- The digits of hex numbers in lower and in upper case, each in the place of its value. -/
def hexAlphabets : List (List Char) :=
  [['0', '1', '2', '3', '4', '5', '6', '7', '8', '9', 'a', 'b', 'c', 'd', 'e', 'f'],
    ['0', '1', '2', '3', '4', '5', '6', '7', '8', '9', 'A', 'B', 'C', 'D', 'E', 'F']]

/-- A character is a hex digit of that value. -/
def HexDigit (ch : Char) (value : Nat) : Prop :=
  ∃ alphabet ∈ hexAlphabets, alphabet[value]? = some ch

instance (ch : Char) (value : Nat) : Decidable (HexDigit ch value) :=
  inferInstanceAs (Decidable (∃ alphabet ∈ hexAlphabets, alphabet[value]? = some ch))

theorem HexDigit.lt {ch : Char} {value : Nat} (digit : HexDigit ch value) : value < 16 := by
  obtain ⟨alphabet, member, found⟩ := digit
  have sizes : ∀ alphabet ∈ hexAlphabets, alphabet.length = 16 := by decide
  rw [← sizes alphabet member]
  exact (List.getElem?_eq_some_iff.mp found).1

namespace Hex

private theorem value?_range {ch : Char} {value : Nat} (read : value? ch = some value) :
    (value < 10 ∧ ch.toNat = 48 + value) ∨
      (10 ≤ value ∧ value < 16 ∧ (ch.toNat = 87 + value ∨ ch.toNat = 55 + value)) := by
  have codes : 'a'.toNat = 97 ∧ 'f'.toNat = 102 ∧ 'A'.toNat = 65 ∧ 'F'.toNat = 70 ∧
      '0'.toNat = 48 ∧ '9'.toNat = 57 := by decide
  simp only [value?, Char.le_def, UInt32.le_iff_toNat_le, Char.toNat_val, codes] at read
  split at read
  · cases read
    omega
  · split at read
    · cases read
      omega
    · split at read
      · cases read
        omega
      · cases read

/-- Digits are read for what they are worth, and no other character is read. -/
theorem value?_eq_some_iff {ch : Char} {value : Nat} :
    value? ch = some value ↔ HexDigit ch value := by
  constructor
  · intro read
    have same : Char.ofNat ch.toNat = ch := Char.ofNat_toNat ch
    rw [← same]
    rcases value?_range read with ⟨small, code⟩ | ⟨large, small, code | code⟩
    all_goals
      rw [code]
      interval_cases value <;> decide
  · intro digit
    have small := digit.lt
    simp only [HexDigit, hexAlphabets, List.mem_cons, List.not_mem_nil, or_false,
      exists_eq_or_imp, exists_eq_left] at digit
    interval_cases value <;> simp at digit <;> rcases digit with rfl | rfl <;> rfl

end Hex

namespace EtherAddress

private theorem hexNumber?_eq_some_iff {digits : List Char} {start number : Nat} :
    hexNumber? start digits = some number ↔ ∃ values, List.Forall₂ HexDigit digits values ∧
      start * 16 ^ values.length + Nat.ofDigits 16 values.reverse = number := by
  induction digits generalizing start with
  | nil => simp [hexNumber?]
  | cons ch rest ih =>
    have shifted (value : Nat) (values : List Nat) :
        (start * 16 + value) * 16 ^ values.length + Nat.ofDigits 16 values.reverse =
          start * 16 ^ (value :: values).length + Nat.ofDigits 16 (value :: values).reverse := by
      rw [List.reverse_cons, Nat.ofDigits_append, List.length_reverse, Nat.ofDigits_singleton,
        List.length_cons]
      ring
    rw [hexNumber?, Option.bind_eq_some_iff]
    simp only [Hex.value?_eq_some_iff, ih, List.forall₂_cons_left_iff, shifted]
    constructor
    · rintro ⟨value, digit, values, later, sum⟩
      exact ⟨value :: values, ⟨value, values, digit, later, rfl⟩, sum⟩
    · rintro ⟨_, ⟨value, values, digit, later, rfl⟩, sum⟩
      exact ⟨value, digit, values, later, sum⟩

/-- The digits of a byte: one or more, worth what the byte is. -/
def Spells (digits : List Char) (byte : UInt8) : Prop :=
  digits ≠ [] ∧ ∃ values, List.Forall₂ HexDigit digits values ∧
    Nat.ofDigits 16 values.reverse = byte.toNat

/-- What a group of an address stands for: the digits of a byte, with a plus sign in front or not. -/
def Denotes (group : List Char) (byte : UInt8) : Prop :=
  ∃ digits, (group = digits ∨ group = '+' :: digits) ∧ Spells digits byte

private theorem byte_eq_some_iff {value : Nat} {byte : UInt8} :
    (if value ≤ 255 then some (UInt8.ofNat value) else none) = some byte ↔
      value = byte.toNat := by
  have bound := byte.toNat_lt
  by_cases small : value ≤ 255
  · rw [if_pos small, Option.some.injEq, ← UInt8.toNat_inj, UInt8.toNat_ofNat',
      Nat.mod_eq_of_lt (by omega)]
  · rw [if_neg small]
    constructor
    · intro impossible
      cases impossible
    · intro same
      omega

private theorem spells_iff {digits : List Char} {byte : UInt8} :
    (if digits.isEmpty then none
      else (hexNumber? 0 digits).bind fun value =>
        if value ≤ 255 then some (UInt8.ofNat value) else none) = some byte ↔
      Spells digits byte := by
  cases digits with
  | nil => simp [Spells]
  | cons ch rest =>
    simp only [List.isEmpty_cons, Bool.false_eq_true, if_false, Option.bind_eq_some_iff,
      byte_eq_some_iff, hexNumber?_eq_some_iff, Nat.zero_mul, Nat.zero_add, Spells, ne_eq,
      reduceCtorEq, not_false_eq_true, true_and, exists_eq_right]

private theorem not_spells_plus {digits : List Char} {byte : UInt8} : ¬ Spells ('+' :: digits) byte := by
  rintro ⟨-, values, each, -⟩
  obtain ⟨value, -, digit, -, -⟩ := List.forall₂_cons_left_iff.mp each
  have read := Hex.value?_eq_some_iff.mpr digit
  cases read

private theorem octet?_eq_some_iff {group : List Char} {byte : UInt8} :
    octet? group = some byte ↔ Denotes group byte := by
  rw [octet?, spells_iff]
  by_cases signed : group.head? = some '+'
  · obtain ⟨digits, rfl⟩ := List.head?_eq_some_iff.mp signed
    rw [if_pos signed, List.tail_cons]
    constructor
    · intro spelled
      exact ⟨digits, .inr rfl, spelled⟩
    · rintro ⟨others, rfl | same, spelled⟩
      · exact absurd spelled not_spells_plus
      · obtain rfl := List.tail_eq_of_cons_eq same
        exact spelled
  · rw [if_neg signed]
    constructor
    · intro spelled
      exact ⟨group, .inl rfl, spelled⟩
    · rintro ⟨digits, rfl | rfl, spelled⟩
      · exact spelled
      · exact absurd rfl signed

/-- What parts the groups of a written address. -/
def separates (ch : Char) : Bool := ch = ':' || ch = '-'

/-- A text stands for an address: between its separators it has exactly six groups, which denote the
octets in their order. -/
def Writes (text : String) (x : EtherAddress) : Prop :=
  List.Forall₂ Denotes (text.toList.splitOnP separates) x.octets

private theorem ofBytes?_octets (x : EtherAddress) : ofBytes? x.octets = some x := rfl

theorem exists_octets {bytes : List UInt8} (six : bytes.length = 6) :
    ∃ x : EtherAddress, x.octets = bytes := by
  match bytes, six with
  | [a, b, c, d, e, f], _ => exact ⟨⟨a, b, c, d, e, f⟩, rfl⟩

theorem parse?_eq_some_iff {text : String} {x : EtherAddress} :
    parse? text = some x ↔ Writes text x := by
  have groups : splitGroups (fun ch => ch = ':' || ch = '-') text.toList =
      text.toList.splitOnP separates := splitGroups_eq_splitOnP separates _
  have denoted {bytes : List UInt8} :
      (text.toList.splitOnP separates).mapM octet? = some bytes ↔
        List.Forall₂ Denotes (text.toList.splitOnP separates) bytes := by
    simp only [mapM_eq_some_iff, octet?_eq_some_iff]
  simp only [parse?, groups, Writes]
  constructor
  · intro read
    split at read
    · next six =>
      obtain ⟨bytes, each, whole⟩ := Option.bind_eq_some_iff.mp read
      rw [denoted] at each
      obtain ⟨y, rfl⟩ := exists_octets (each.length_eq.symm.trans six)
      rw [ofBytes?_octets, Option.some.injEq] at whole
      rwa [← whole]
    · cases read
  · intro each
    have six : (text.toList.splitOnP separates).length = 6 := each.length_eq
    rw [if_pos six, denoted.mpr each, Option.bind_some, ofBytes?_octets]

/-- A text is read exactly if it stands for an address, and as that address. -/
private theorem parse_eq_ok_iff {text : String} {x : EtherAddress} :
    parse text = .ok x ↔ Writes text x := by
  rw [← parse?_eq_some_iff, parse]
  cases parse? text with
  | none => simp
  | some found => simp

private theorem parse_of_not_writes {text : String} (none : ∀ x, ¬ Writes text x) :
    parse text = .error (.badAddress text) := by
  have refused : parse? text = Option.none := by
    refine Option.eq_none_iff_forall_ne_some.mpr fun x found => ?_
    exact none x (parse?_eq_some_iff.mp found)
  rw [parse, refused]

/-- A character as it was printed, in upper case, or a dash for a colon. -/
def Respells (printed other : Char) : Prop :=
  other = printed ∨ other = printed.toUpper ∨ (printed = ':' ∧ other = '-')

instance (printed other : Char) : Decidable (Respells printed other) :=
  inferInstanceAs (Decidable (_ ∨ _ ∨ _ ∧ _))

/-- A printed digit stays a digit of the same value, however it is respelled. -/
private theorem digit_respelled {value : Nat} {other : Char} (small : value < 16)
    (respelled : Respells (Hex.digit value) other) :
    HexDigit other value ∧ separates other = false := by
  interval_cases value <;> rcases respelled with rfl | rfl | ⟨colon, -⟩
  all_goals first | exact ⟨by decide, rfl⟩ | cases colon

private theorem colon_respelled {other : Char} (respelled : Respells ':' other) :
    separates other = true := by
  rcases respelled with rfl | rfl | ⟨-, rfl⟩ <;> rfl

/-- The two digits that are printed for a byte denote it, however they are respelled. -/
private theorem pair_denotes {byte : UInt8} {high low : Char}
    (first : Respells (Hex.digit (byte.toNat / 16)) high)
    (second : Respells (Hex.digit (byte.toNat % 16)) low) :
    Denotes [high, low] byte ∧ ∀ ch ∈ [high, low], separates ch = false := by
  have bound := byte.toNat_lt
  obtain ⟨highDigit, highInside⟩ := digit_respelled (by omega) first
  obtain ⟨lowDigit, lowInside⟩ := digit_respelled (by omega) second
  constructor
  · refine ⟨_, .inl rfl, List.cons_ne_nil _ _, _, .cons highDigit (.cons lowDigit .nil), ?_⟩
    simp only [List.reverse_cons, List.reverse_nil, List.nil_append, List.cons_append,
      Nat.ofDigits_cons, Nat.ofDigits_nil]
    omega
  · simp [highInside, lowInside]

/-- Bytes printed between colons are denoted by the groups of every respelling. -/
private theorem groups_respelled (byte : UInt8) (bytes : List UInt8) {text : List Char}
    (respelled : List.Forall₂ Respells ([':'].intercalate ((byte :: bytes).map Hex.pair)) text) :
    List.Forall₂ Denotes (text.splitOnP separates) (byte :: bytes) := by
  induction bytes generalizing byte text with
  | nil =>
    obtain ⟨high, _, first, tail, rfl⟩ := List.forall₂_cons_left_iff.mp respelled
    obtain ⟨low, _, second, none, rfl⟩ := List.forall₂_cons_left_iff.mp tail
    obtain rfl := List.forall₂_nil_left_iff.mp none
    obtain ⟨denotes, inside⟩ := pair_denotes first second
    rw [List.splitOnP_eq_singleton inside]
    exact .cons denotes .nil
  | cons next later ih =>
    rw [List.map_cons, List.map_cons, List.intercalate_cons_cons] at respelled
    obtain ⟨high, _, first, tail, rfl⟩ := List.forall₂_cons_left_iff.mp respelled
    obtain ⟨low, _, second, others, rfl⟩ := List.forall₂_cons_left_iff.mp tail
    obtain ⟨separator, rest, between, behind, rfl⟩ := List.forall₂_cons_left_iff.mp others
    obtain ⟨denotes, inside⟩ := pair_denotes first second
    have cut := List.splitOnP_append_cons_of_forall_mem inside separator
      (colon_respelled between) rest
    rw [List.cons_append, List.cons_append, List.nil_append] at cut
    rw [cut]
    exact .cons denotes (ih next behind)

private theorem writes_of_respelled {x : EtherAddress} {text : String}
    (respelled : List.Forall₂ Respells x.render.toList text.toList) : Writes text x := by
  rw [render, String.toList_ofList] at respelled
  exact groups_respelled x.a [x.b, x.c, x.d, x.e, x.f] respelled

private theorem exists_writes_iff {text : String} : (∃ x, Writes text x) ↔
    (text.toList.splitOnP separates).length = 6 ∧
      ∀ group ∈ text.toList.splitOnP separates, ∃ byte, Denotes group byte := by
  constructor
  · rintro ⟨x, each⟩
    obtain ⟨six, denotes⟩ := List.forall₂_iff_get.mp each
    refine ⟨six, fun group member => ?_⟩
    obtain ⟨i, rfl⟩ := List.mem_iff_get.mp member
    exact ⟨_, denotes i i.isLt (six ▸ i.isLt)⟩
  · rintro ⟨six, each⟩
    choose! byte denotes using each
    obtain ⟨x, whole⟩ := exists_octets ((List.length_map byte).trans six)
    refine ⟨x, ?_⟩
    rw [Writes, whole, List.forall₂_map_right_iff, List.forall₂_same]
    exact denotes

/-- Printed addresses are read back, also in upper case and with dashes for any of the colons. A text
is read exactly if there are six groups between its separators and each of them denotes a byte, these
being the octets in their order; every other text is handed back whole. -/
theorem spellings_told_apart (text : String) :
    (∀ x : EtherAddress, List.Forall₂ Respells x.render.toList text.toList → parse text = .ok x) ∧
      (∀ x : EtherAddress, parse text = .ok x ↔
        List.Forall₂ Denotes (text.toList.splitOnP separates) x.octets) ∧
      ((text.toList.splitOnP separates).length = 6 ∧
          (∀ group ∈ text.toList.splitOnP separates, ∃ byte, Denotes group byte) ∨
        parse text = .error (.badAddress text)) := by
  refine ⟨fun x respelled => ?_, fun x => parse_eq_ok_iff, ?_⟩
  · exact parse_eq_ok_iff.mpr (writes_of_respelled respelled)
  · by_cases written : ∃ x, Writes text x
    · exact .inl (exists_writes_iff.mp written)
    · exact .inr (parse_of_not_writes (not_exists.mp written))

/-- An address in which dashes and upper case are mixed, and a text that has too few groups. -/
theorem mixed_spelling_read :
    parse "02-00:AB:00:00-Ff" = .ok ⟨0x02, 0x00, 0xab, 0x00, 0x00, 0xff⟩ ∧
      parse "02:00:00" = .error (.badAddress "02:00:00") := by
  constructor
  · exact (spellings_told_apart _).1 ⟨0x02, 0x00, 0xab, 0x00, 0x00, 0xff⟩ (by decide)
  · have few : ("02:00:00".toList.splitOnP separates).length = 3 := by decide
    exact (spellings_told_apart _).2.2.resolve_left fun written => by omega

end EtherAddress

end WirelessMesh
