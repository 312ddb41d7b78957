import FlightBlocks.Palette.Color
import Mathlib.Data.List.TakeWhile
import Mathlib.Tactic.IntervalCases

/-!
# Which texts are colors

A color is written as three or four pairs of hexadecimal digits, with blanks around them and a number sign in front
or without them. All of these texts are read, and as the color that they write, but they are not all that is read: a
plus sign may stand for the first digit of a pair (`color_texts`). Without plus signs the two agree.
-/

namespace FlightBlocks

/-! ## Blanks around a text -/

namespace Text

/-- The text is the given characters with blanks around them, which end in no blank themselves. -/
def Trims (s : String) (middle : List Char) : Prop :=
  ∃ front back, s.toList = front ++ (middle ++ back) ∧ (∀ c ∈ front, isBlank c = true) ∧
    (∀ c ∈ back, isBlank c = true) ∧ (∀ c ∈ middle.head?, isBlank c = false) ∧
    ∀ c ∈ middle.getLast?, isBlank c = false

theorem dropWhile_eq_iff {p : Char → Bool} {chars rest : List Char} : chars.dropWhile p = rest ↔
    (∃ front, chars = front ++ rest ∧ ∀ c ∈ front, p c = true) ∧ ∀ c ∈ rest.head?, p c = false := by
  constructor
  · rintro rfl
    refine ⟨⟨chars.takeWhile p, List.takeWhile_append_dropWhile.symm, fun c => List.mem_takeWhile_imp⟩, ?_⟩
    intro c first
    have plain := List.head?_dropWhile_not p chars
    rwa [Option.mem_def.mp first] at plain
  · rintro ⟨⟨front, rfl, dropped⟩, plain⟩
    rw [List.dropWhile_append_of_pos dropped]
    cases rest with
    | nil => rfl
    | cons c rest => rw [List.dropWhile_cons_of_neg (by simp [plain c rfl])]

/-- Trimming takes off the blanks around a text and nothing else. -/
theorem trim_eq_iff {s : String} {middle : List Char} : (trim s).toList = middle ↔ Trims s middle := by
  simp only [trim, trimEnd, trimStart, String.toList_ofList, List.reverse_eq_iff]
  constructor
  · intro ends
    obtain ⟨⟨front, split, blank_front⟩, first⟩ := dropWhile_eq_iff.mp (Eq.refl (s.toList.dropWhile isBlank))
    obtain ⟨⟨back, behind, blank_back⟩, last⟩ := dropWhile_eq_iff.mp ends
    rw [List.reverse_eq_iff, List.reverse_append, List.reverse_reverse] at behind
    rw [behind] at split first
    refine ⟨front, back.reverse, split, blank_front, by simpa using blank_back, ?_, by simpa using last⟩
    cases middle with
    | nil => simp
    | cons c rest => simpa using first
  · rintro ⟨front, back, split, blank_front, blank_back, first, last⟩
    cases middle with
    | nil =>
      have all_blank : ∀ c ∈ front ++ back, isBlank c = true :=
        fun c member => (List.mem_append.mp member).elim (blank_front c) (blank_back c)
      have nothing : s.toList.dropWhile isBlank = [] :=
        dropWhile_eq_iff.mpr ⟨⟨front ++ back, by simpa using split, all_blank⟩, by simp⟩
      rw [nothing]
      rfl
    | cons c rest =>
      have start : s.toList.dropWhile isBlank = (c :: rest) ++ back :=
        dropWhile_eq_iff.mpr ⟨⟨front, split, blank_front⟩, by simpa using first⟩
      rw [start, List.reverse_append]
      rw [← List.head?_reverse] at last
      exact dropWhile_eq_iff.mpr ⟨⟨back.reverse, rfl, by simpa using blank_back⟩, last⟩

end Text

namespace Palette.Color

/-! ## Digits -/

/-- The character is the hexadecimal digit of a value, in either case. -/
def IsHex (c : Char) (n : Nat) : Prop :=
  "0123456789abcdef".toList[n]? = some c ∨ "0123456789ABCDEF".toList[n]? = some c

theorem isHex_lt {c : Char} {n : Nat} (hex : IsHex c n) : n < 16 := by
  rcases hex with lower | upper
  · exact (List.getElem?_eq_some_iff.mp lower).1
  · exact (List.getElem?_eq_some_iff.mp upper).1

instance (c : Char) (n : Nat) : Decidable (IsHex c n) := inferInstanceAs (Decidable (_ ∨ _))

/-- The characters of digits to the base sixteen lie in three ranges. -/
theorem ranges_of_digit? {c : Char} {n : Nat} (reads : Text.digit? 16 c = some n) : n < 16 ∧
    (n < 10 ∧ c = Char.ofNat (48 + n) ∨ 10 ≤ n ∧ c = Char.ofNat (87 + n) ∨ 10 ≤ n ∧ c = Char.ofNat (55 + n)) := by
  have char_eq : ∀ m, c.toNat = m → c = Char.ofNat m := fun m same => by rw [← same, Char.ofNat_toNat]
  obtain ⟨value, below⟩ := Option.filter_eq_some_iff.mp reads
  refine ⟨of_decide_eq_true below, ?_⟩
  split at value
  · rename_i digit
    have range : 48 ≤ c.toNat ∧ c.toNat ≤ 57 := Char.isDigit_iff_toNat.mp digit
    have same : c.toNat - 48 = n := Option.some.inj value
    exact .inl ⟨by omega, char_eq _ (by omega)⟩
  split at value
  · rename_i letter
    have range : 97 ≤ c.toNat ∧ c.toNat ≤ 122 := letter
    have same : c.toNat - 97 + 10 = n := Option.some.inj value
    exact .inr (.inl ⟨by omega, char_eq _ (by omega)⟩)
  split at value
  · rename_i letter
    have range : 65 ≤ c.toNat ∧ c.toNat ≤ 90 := letter
    have same : c.toNat - 65 + 10 = n := Option.some.inj value
    exact .inr (.inr ⟨by omega, char_eq _ (by omega)⟩)
  · cases value

/-- The digits to the base sixteen are the hexadecimal digits. -/
theorem digit?_eq_some_iff {c : Char} {n : Nat} : Text.digit? 16 c = some n ↔ IsHex c n := by
  constructor
  · intro reads
    obtain ⟨small, ⟨figure, rfl⟩ | ⟨letter, rfl⟩ | ⟨letter, rfl⟩⟩ := ranges_of_digit? reads
    · exact (by decide : ∀ n < 10, IsHex (Char.ofNat (48 + n)) n) n figure
    · exact (by decide : ∀ n < 16, 10 ≤ n → IsHex (Char.ofNat (87 + n)) n) n small letter
    · exact (by decide : ∀ n < 16, 10 ≤ n → IsHex (Char.ofNat (55 + n)) n) n small letter
  · intro hex
    have small := isHex_lt hex
    unfold IsHex at hex
    interval_cases n <;> rcases hex with same | same <;> cases same <;> rfl

/-! ## Pairs -/

/-- Two hexadecimal digits write a byte. -/
def HexPair (high low : Char) (b : UInt8) : Prop :=
  ∃ m n, IsHex high m ∧ IsHex low n ∧ b.toNat = 16 * m + n

/-- A plus sign and a hexadecimal digit. -/
def SignedDigit (high low : Char) (b : UInt8) : Prop := high = '+' ∧ IsHex low b.toNat

theorem not_isHex_plus (n : Nat) : ¬IsHex '+' n := fun hex => (by decide : ∀ n < 16, ¬IsHex '+' n) n (isHex_lt hex) hex

theorem digits?_one {low : Char} : Text.digits? 16 [low] = Text.digit? 16 low := by simp [Text.digits?]

theorem digits?_two {high low : Char} {v : Nat} : Text.digits? 16 [high, low] = some v ↔
    ∃ m n, IsHex high m ∧ IsHex low n ∧ 16 * m + n = v := by
  simp [Text.digits?, Option.bind_eq_some_iff, digit?_eq_some_iff, Nat.mul_comm]

theorem ofNat_eq_iff {v : Nat} {b : UInt8} (small : v < 256) : UInt8.ofNat v = b ↔ b.toNat = v := by
  rw [← UInt8.toNat_inj, UInt8.toNat_ofNat', Nat.mod_eq_of_lt small, eq_comm]

/-- A byte is read from two digits, or from a plus sign and one. -/
theorem readByte?_eq_some_iff {high low : Char} {b : UInt8} :
    readByte? high low = some b ↔ HexPair high low b ∨ SignedDigit high low b := by
  rw [readByte?, Option.map_eq_some_iff]
  by_cases plus : high = '+'
  · have no_pair : ¬HexPair high low b := fun ⟨m, _, hex, _⟩ => not_isHex_plus m (plus ▸ hex)
    rw [if_pos plus, digits?_one, or_iff_right no_pair, SignedDigit, and_iff_right plus]
    simp only [digit?_eq_some_iff]
    constructor
    · rintro ⟨n, hex, made⟩
      rwa [(ofNat_eq_iff (Nat.lt_trans (isHex_lt hex) (by decide))).mp made]
    · exact fun hex => ⟨b.toNat, hex, UInt8.ofNat_toNat⟩
  · have no_sign : ¬SignedDigit high low b := fun sign => plus sign.1
    rw [if_neg plus, or_iff_left no_sign]
    simp only [digits?_two]
    constructor
    · rintro ⟨_, ⟨m, n, hex_high, hex_low, rfl⟩, made⟩
      have small_high := isHex_lt hex_high
      have small_low := isHex_lt hex_low
      exact ⟨m, n, hex_high, hex_low, (ofNat_eq_iff (by omega)).mp made⟩
    · rintro ⟨m, n, hex_high, hex_low, value⟩
      exact ⟨b.toNat, ⟨m, n, hex_high, hex_low, value.symm⟩, UInt8.ofNat_toNat⟩

/-- The characters are three or four pairs that write the parts of a color, which is opaque if there are three. -/
def SpelledBy (pair : Char → Char → UInt8 → Prop) (c : Color) : List Char → Prop
  | [r, r', g, g', b, b'] => pair r r' c.red ∧ pair g g' c.green ∧ pair b b' c.blue ∧ c.alpha = 255
  | [r, r', g, g', b, b', a, a'] => pair r r' c.red ∧ pair g g' c.green ∧ pair b b' c.blue ∧ pair a a' c.alpha
  | _ => False

theorem readBytes?_eq_some_iff {chars : List Char} {c : Color} :
    readBytes? chars = some c ↔ c.SpelledBy (fun high low b => readByte? high low = some b) chars := by
  obtain ⟨red, green, blue, alpha⟩ := c
  unfold readBytes? SpelledBy
  split
  · simp [Option.bind_eq_some_iff, opaqueOf, eq_comm (a := alpha)]
  · simp [Option.bind_eq_some_iff]
  · simp

/-- What is left of a text without the blanks around it and a number sign in front. -/
def Bare (text : String) (chars : List Char) : Prop :=
  ∃ middle, Text.Trims text middle ∧ (middle = '#' :: chars ∨ middle = chars ∧ chars.head? ≠ some '#')

theorem read?_eq_some_iff {text : String} {c : Color} :
    read? text = some c ↔ ∃ chars, Bare text chars ∧ readBytes? chars = some c := by
  constructor
  · intro reads
    unfold read? at reads
    split at reads
    · rename_i chars marked
      exact ⟨chars, ⟨_, Text.trim_eq_iff.mp rfl, .inl marked⟩, reads⟩
    · rename_i unmarked
      refine ⟨_, ⟨_, Text.trim_eq_iff.mp rfl, .inr ⟨rfl, fun marked => ?_⟩⟩, reads⟩
      obtain ⟨chars, split⟩ := List.head?_eq_some_iff.mp marked
      exact unmarked chars split
  · rintro ⟨chars, ⟨middle, trims, shape⟩, reads⟩
    rw [read?, Text.trim_eq_iff.mpr trims]
    rcases shape with rfl | ⟨rfl, unmarked⟩
    · exact reads
    · split
      · exact absurd rfl unmarked
      · exact reads

/-- Every character of a text is left of it, or is blank, or is a number sign. -/
theorem Bare.mem_or {text : String} {chars : List Char} (bare : Bare text chars) {d : Char}
    (member : d ∈ text.toList) : d ∈ chars ∨ Text.isBlank d = true ∨ d = '#' := by
  obtain ⟨middle, ⟨front, back, split, blank_front, blank_back, -⟩, shape⟩ := bare
  rw [split, List.mem_append, List.mem_append] at member
  rcases member with before | inside | behind
  · exact .inr (.inl (blank_front d before))
  · rcases shape with rfl | ⟨rfl, -⟩
    · exact (List.mem_cons.mp inside).elim (fun sign => .inr (.inr sign)) .inl
    · exact .inl inside
  · exact .inr (.inl (blank_back d behind))

theorem Bare.subset {text : String} {chars : List Char} (bare : Bare text chars) : chars ⊆ text.toList := by
  obtain ⟨middle, ⟨front, back, split, -⟩, shape⟩ := bare
  intro d member
  have inside : d ∈ middle := by
    rcases shape with rfl | ⟨rfl, -⟩
    · exact List.mem_cons_of_mem _ member
    · exact member
  rw [split]
  exact List.mem_append_right _ (List.mem_append_left _ inside)

/-- Pairs that are of one kind wherever they are of another. -/
theorem SpelledBy.imp {pair other : Char → Char → UInt8 → Prop} {chars : List Char} {c : Color}
    (spelled : c.SpelledBy pair chars)
    (weaker : ∀ high ∈ chars, ∀ low ∈ chars, ∀ b, pair high low b → other high low b) : c.SpelledBy other chars := by
  unfold SpelledBy at spelled
  split at spelled
  · obtain ⟨red, green, blue, full⟩ := spelled
    exact ⟨weaker _ (by simp) _ (by simp) _ red, weaker _ (by simp) _ (by simp) _ green,
      weaker _ (by simp) _ (by simp) _ blue, full⟩
  · obtain ⟨red, green, blue, alpha⟩ := spelled
    exact ⟨weaker _ (by simp) _ (by simp) _ red, weaker _ (by simp) _ (by simp) _ green,
      weaker _ (by simp) _ (by simp) _ blue, weaker _ (by simp) _ (by simp) _ alpha⟩
  · exact spelled.elim

/-- There is no plus sign among hexadecimal digits. -/
theorem SpelledBy.plus_not_mem {chars : List Char} {c : Color} (spelled : c.SpelledBy HexPair chars) : '+' ∉ chars := by
  have plain : ∀ {high low b}, HexPair high low b → high ≠ '+' ∧ low ≠ '+' := by
    rintro high low b ⟨m, n, hex_high, hex_low, -⟩
    exact ⟨fun plus => not_isHex_plus m (plus ▸ hex_high), fun plus => not_isHex_plus n (plus ▸ hex_low)⟩
  unfold SpelledBy at spelled
  split at spelled
  · obtain ⟨red, green, blue, -⟩ := spelled
    simp [(plain red).1.symm, (plain red).2.symm, (plain green).1.symm, (plain green).2.symm, (plain blue).1.symm,
      (plain blue).2.symm]
  · obtain ⟨red, green, blue, alpha⟩ := spelled
    simp [(plain red).1.symm, (plain red).2.symm, (plain green).1.symm, (plain green).2.symm, (plain blue).1.symm,
      (plain blue).2.symm, (plain alpha).1.symm, (plain alpha).2.symm]
  · exact spelled.elim

theorem SpelledBy.plus_not_mem_text {text : String} {chars : List Char} {c : Color}
    (spelled : c.SpelledBy HexPair chars) (bare : Bare text chars) : '+' ∉ text.toList := by
  intro plus
  rcases bare.mem_or plus with inside | blank | sign
  · exact spelled.plus_not_mem inside
  · exact absurd blank (by decide)
  · exact absurd sign (by decide)

theorem read?_eq_some_iff_spelled {text : String} {c : Color} : read? text = some c ↔ ∃ chars, Bare text chars ∧
    c.SpelledBy (fun high low b => HexPair high low b ∨ SignedDigit high low b) chars := by
  simp only [read?_eq_some_iff, readBytes?_eq_some_iff, readByte?_eq_some_iff]

end Palette.Color

open Palette Palette.Color in
/-- A text is read as a color exactly when, without the blanks around it and a number sign in front, it consists of
    three or four pairs that write the parts of the color, each of them two hexadecimal digits or a plus sign and
    one. It consists of hexadecimal digits alone exactly when no plus sign is in it. -/
theorem color_texts (text : String) (c : Color) :
    (read? text = some c ↔ ∃ chars, Bare text chars ∧
      c.SpelledBy (fun high low b => HexPair high low b ∨ SignedDigit high low b) chars) ∧
    ((∃ chars, Bare text chars ∧ c.SpelledBy HexPair chars) ↔ read? text = some c ∧ '+' ∉ text.toList) := by
  refine ⟨read?_eq_some_iff_spelled, ?_⟩
  rw [read?_eq_some_iff_spelled]
  constructor
  · rintro ⟨chars, bare, spelled⟩
    exact ⟨⟨chars, bare, spelled.imp fun _ _ _ _ _ pair => .inl pair⟩, spelled.plus_not_mem_text bare⟩
  · rintro ⟨⟨chars, bare, spelled⟩, no_plus⟩
    refine ⟨chars, bare, spelled.imp fun high member low _ b pair => pair.resolve_right fun signed => ?_⟩
    exact no_plus (signed.1 ▸ bare.subset member)

open Palette Palette.Color in
/-- Three digits with a plus sign in front of each are read, though they are not six digits. -/
theorem plus_signs_read : read? "+1+2+3" = some (.opaqueOf 1 2 3) ∧
    ¬∃ (c : Color) (chars : List Char), Bare "+1+2+3" chars ∧ c.SpelledBy HexPair chars := by
  refine ⟨by decide, ?_⟩
  rintro ⟨c, chars, bare, spelled⟩
  exact spelled.plus_not_mem_text bare (by decide)

end FlightBlocks
