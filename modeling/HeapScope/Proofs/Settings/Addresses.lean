import HeapScope.SocketAddress
import Mathlib.Data.List.Basic

/- What a text says as a socket address. A host is four decimal numbers or bracketed groups, behind which
   a zone may follow (`Host.Denotes`), and a port follows the host behind a colon. No digit is a colon, so
   that there is one place only where the port can begin, whatever the host is written with (`port_kept`),
   and the reader finds exactly what a text denotes (`of_chars_iff`). -/
namespace HeapScope

namespace Digits

theorem read_from_append {base limit value : Nat} {front : List Char} {found : Nat}
    (read : readFrom base limit value front = .ok found) (back : List Char) :
    readFrom base limit value (front ++ back) = readFrom base limit found back := by
  induction front generalizing value with
  | nil =>
    cases read
    rfl
  | cons c front ih =>
    rw [List.cons_append, readFrom]
    cases digit : digit? base c with
    | none =>
      simp only [readFrom, digit] at read
      cases read
    | some d =>
      by_cases small : value * base + d < limit
      · simp only [readFrom, digit, if_pos small] at read ⊢
        exact ih read
      · simp only [readFrom, digit, if_neg small] at read
        cases read

theorem digit_char : ∀ d < 10, digit? 10 (Nat.digitChar d) = some d := by decide

theorem read_from_decimal {limit n : Nat} (small : n < limit) :
    readFrom 10 limit 0 (Nat.toDigits 10 n) = .ok n := by
  induction n using Nat.strongRecOn with
  | ind n ih =>
    by_cases short : n < 10
    · have digit := digit_char n short
      rw [Nat.toDigits_of_lt_base short]
      simp [readFrom, digit, small]
    · have front := ih (n / 10) (by omega) (by omega)
      have digit := digit_char (n % 10) (Nat.mod_lt n (by decide))
      have whole : n / 10 * 10 + n % 10 = n := by omega
      rw [Nat.toDigits_of_base_le (by decide) (Nat.not_lt.mp short), read_from_append front]
      simp [readFrom, digit, whole, small]

theorem number_of_decimal {limit n : Nat} (small : n < limit) :
    number? 10 limit (Nat.toDigits 10 n) = some n := by
  have some : ¬(Nat.toDigits 10 n).isEmpty = true := by
    have digits := Nat.length_toDigits_pos (b := 10) (n := n)
    rw [List.isEmpty_iff_length_eq_zero]
    omega
  rw [number?, read, if_neg some, read_from_decimal small]
  rfl

theorem read_from_digits {base limit value n : Nat} {text : List Char}
    (read : readFrom base limit value text = .ok n) : ∀ c ∈ text, (digit? base c).isSome = true := by
  induction text generalizing value with
  | nil =>
    intro c member
    cases member
  | cons first text ih =>
    rw [readFrom] at read
    cases digit : digit? base first with
    | none =>
      simp only [digit] at read
      cases read
    | some d =>
      simp only [digit] at read
      by_cases small : value * base + d < limit
      · rw [if_pos small] at read
        intro c member
        rcases List.mem_cons.mp member with same | behind
        · rw [same, digit]
          rfl
        · exact ih read c behind
      · rw [if_neg small] at read
        cases read

theorem number_digits {base limit n : Nat} {text : List Char} (known : number? base limit text = some n) :
    ∀ c ∈ text, (digit? base c).isSome = true := by
  by_cases empty : text.isEmpty = true
  · rw [number?, read, if_pos empty] at known
    cases known
  · rw [number?, read, if_neg empty] at known
    cases found : readFrom base limit 0 text with
    | error fault =>
      rw [found] at known
      cases known
    | ok value => exact read_from_digits found

theorem hexadecimal_of_decimal {c : Char} (decimal : (digit? 10 c).isSome = true) :
    (digit? 16 c).isSome = true := by
  unfold digit? at decimal ⊢
  grind

end Digits

namespace Host

theorem pieces_split (separator : Char) (text : List Char) :
    pieces separator text = text.splitOn separator := by
  induction text with
  | nil => exact (List.splitOn_nil separator).symm
  | cons c text ih =>
    rw [List.splitOn_cons_eq_if_modifyHead, pieces, ih]
    by_cases cut : c = separator
    · rw [if_pos cut, if_pos (beq_iff_eq.mpr cut)]
    · rw [if_neg cut, if_neg (fun same => cut (beq_iff_eq.mp same))]
      cases rest : text.splitOn separator with
      | nil => exact absurd rest (List.splitOn_ne_nil separator text)
      | cons piece others => rfl

theorem mem_pieces {separator c : Char} {text : List Char} (member : c ∈ text) (apart : c ≠ separator) :
    ∃ piece ∈ pieces separator text, c ∈ piece := by
  induction text with
  | nil => cases member
  | cons first text ih =>
    rw [pieces]
    by_cases cut : first = separator
    · rcases List.mem_cons.mp member with same | behind
      · exact absurd (same.trans cut) apart
      · obtain ⟨piece, found, inside⟩ := ih behind
        rw [if_pos cut]
        exact ⟨piece, List.mem_cons_of_mem _ found, inside⟩
    · rw [if_neg cut]
      cases rest : pieces separator text with
      | nil => exact absurd rest (pieces_split separator text ▸ List.splitOn_ne_nil separator text)
      | cons head others =>
        rcases List.mem_cons.mp member with same | behind
        · exact ⟨first :: head, List.mem_cons_self, same ▸ List.mem_cons_self⟩
        · obtain ⟨piece, found, inside⟩ := ih behind
          rcases List.mem_cons.mp (rest ▸ found) with same | other
          · exact ⟨first :: head, List.mem_cons_self, List.mem_cons_of_mem _ (same ▸ inside)⟩
          · exact ⟨piece, List.mem_cons_of_mem _ other, inside⟩

end Host

namespace Ipv4

theorem octet_digits {piece : List Char} {octet : UInt8} (known : octet? piece = some octet) :
    ∀ c ∈ piece, (Digits.digit? 10 c).isSome = true := by
  by_cases padded : piece.head? = some '0' ∧ 1 < piece.length
  · rw [octet?, if_pos padded] at known
    cases known
  · by_cases long : 3 < piece.length
    · rw [octet?, if_neg padded, if_pos long] at known
      cases known
    · rw [octet?, if_neg padded, if_neg long] at known
      obtain ⟨n, read, _⟩ := Option.map_eq_some_iff.mp known
      exact Digits.number_digits read

theorem letters {text : List Char} {address : Ipv4} (read : ofChars? text = some address) :
    ∀ c ∈ text, c = '.' ∨ (Digits.digit? 10 c).isSome = true := by
  intro c member
  by_cases dot : c = '.'
  · exact .inl dot
  · obtain ⟨piece, found, inside⟩ := Host.mem_pieces member dot
    unfold ofChars? at read
    split at read
    · rename_i a b c d four
      simp only [bind, Option.bind_eq_some_iff] at read
      obtain ⟨_, first, _, second, _, third, _, fourth, _⟩ := read
      simp only [four, List.mem_cons, List.not_mem_nil, or_false] at found
      rcases found with rfl | rfl | rfl | rfl
      · exact .inr (octet_digits first _ inside)
      · exact .inr (octet_digits second _ inside)
      · exact .inr (octet_digits third _ inside)
      · exact .inr (octet_digits fourth _ inside)
    · cases read

end Ipv4

namespace Ipv6

def isLetter (c : Char) : Bool := c = ':' || c = '.' || (Digits.digit? 16 c).isSome

theorem group_letters {piece : List Char} {group : UInt16} (known : group? piece = some group) :
    ∀ c ∈ piece, isLetter c = true := by
  by_cases long : 4 < piece.length
  · rw [group?, if_pos long] at known
    cases known
  · rw [group?, if_neg long] at known
    obtain ⟨n, read, _⟩ := Option.map_eq_some_iff.mp known
    intro c member
    simp [isLetter, Digits.number_digits read c member]

theorem embedded_letters {piece : List Char} {address : Ipv4} (read : Ipv4.ofChars? piece = some address) :
    ∀ c ∈ piece, isLetter c = true := by
  intro c member
  rcases Ipv4.letters read c member with dot | decimal
  · simp [isLetter, dot]
  · simp [isLetter, Digits.hexadecimal_of_decimal decimal]

theorem pieces_letters {pieces : List (List Char)} {groups : List UInt16}
    (read : groupsOfPieces? pieces = some groups) : ∀ piece ∈ pieces, ∀ c ∈ piece, isLetter c = true := by
  fun_induction groupsOfPieces? pieces generalizing groups with
  | case1 =>
    intro piece member
    cases member
  | case2 only address embedded =>
    intro piece member
    rw [List.mem_singleton.mp member]
    exact embedded_letters embedded
  | case3 only other =>
    obtain ⟨group, known, _⟩ := Option.map_eq_some_iff.mp read
    intro piece member
    rw [List.mem_singleton.mp member]
    exact group_letters known
  | case4 first others several ih =>
    simp only [bind, Option.bind_eq_some_iff] at read
    obtain ⟨_, known, _, behind, _⟩ := read
    intro piece member
    rcases List.mem_cons.mp member with rfl | other
    · exact group_letters known
    · exact ih behind piece other

theorem letters_of_pieces {text : List Char}
    (each : ∀ piece ∈ Host.pieces ':' text, ∀ c ∈ piece, isLetter c = true) :
    ∀ c ∈ text, isLetter c = true := by
  intro c member
  by_cases colon : c = ':'
  · simp [isLetter, colon]
  · obtain ⟨piece, found, inside⟩ := Host.mem_pieces member colon
    exact each piece found c inside

theorem groups_letters {text : List Char} {groups : List UInt16} (read : groups? text = some groups) :
    ∀ c ∈ text, isLetter c = true := by
  by_cases empty : text.isEmpty = true
  · rw [List.isEmpty_iff.mp empty]
    nofun
  · rw [groups?, if_neg empty] at read
    exact letters_of_pieces (pieces_letters read)

theorem known_of_all {pieces : List (List Char)} {groups : List UInt16}
    (read : pieces.mapM group? = some groups) : ∀ piece ∈ pieces, ∃ group, group? piece = some group := by
  induction pieces generalizing groups with
  | nil => nofun
  | cons first others ih =>
    rw [List.mapM_cons] at read
    simp only [bind, Option.bind_eq_some_iff] at read
    obtain ⟨group, known, _, behind, _⟩ := read
    intro piece member
    rcases List.mem_cons.mp member with rfl | other
    · exact ⟨group, known⟩
    · exact ih behind piece other

theorem leading_letters {text : List Char} {groups : List UInt16} (read : leadingGroups? text = some groups) :
    ∀ c ∈ text, isLetter c = true := by
  by_cases empty : text.isEmpty = true
  · rw [List.isEmpty_iff.mp empty]
    nofun
  · rw [leadingGroups?, if_neg empty] at read
    refine letters_of_pieces fun piece found => ?_
    obtain ⟨group, known⟩ := known_of_all read piece found
    exact group_letters known

theorem gap_apart {text before after : List Char} (gap : splitAtGap? text = some (before, after)) :
    text = before ++ ':' :: ':' :: after := by
  induction text generalizing before with
  | nil => cases gap
  | cons c text ih =>
    by_cases here : c = ':' ∧ text.head? = some ':'
    · rw [splitAtGap?, if_pos here] at gap
      cases gap
      obtain ⟨rest, is⟩ := List.head?_eq_some_iff.mp here.2
      simp [here.1, is]
    · rw [splitAtGap?, if_neg here] at gap
      obtain ⟨⟨front, back⟩, behind, same⟩ := Option.map_eq_some_iff.mp gap
      cases same
      rw [ih behind]
      rfl

theorem letters {text : List Char} {address : Ipv6} (read : ofChars? text = some address) :
    ∀ c ∈ text, isLetter c = true := by
  unfold ofChars? at read
  split at read
  · simp only [bind, Option.bind_eq_some_iff] at read
    obtain ⟨groups, known, _⟩ := read
    exact groups_letters known
  · rename_i before after gap
    simp only [bind, Option.bind_eq_some_iff] at read
    obtain ⟨front, leading, back, following, _⟩ := read
    rw [gap_apart gap]
    intro c member
    rcases List.mem_append.mp member with ahead | gapped
    · exact leading_letters leading c ahead
    · rcases List.mem_cons.mp gapped with colon | gapped
      · simp [isLetter, colon]
      · rcases List.mem_cons.mp gapped with colon | behind
        · simp [isLetter, colon]
        · exact groups_letters following c behind

end Ipv6

namespace Host

inductive Denotes : List Char → Host → Prop where
  | decimal {text : List Char} {address : Ipv4} (read : Ipv4.ofChars? text = some address) :
    Denotes text (.v4 address)
  | bracketed {groups : List Char} {address : Ipv6} (read : Ipv6.ofChars? groups = some address) :
    Denotes ('[' :: groups ++ [']']) (.v6 address 0)
  | zoned {groups digits : List Char} {address : Ipv6} {zone : UInt32}
    (read : Ipv6.ofChars? groups = some address) (numbered : zone? digits = some zone) :
    Denotes ('[' :: (groups ++ '%' :: digits) ++ [']']) (.v6 address zone)

theorem zone_digits {digits : List Char} {zone : UInt32} (numbered : zone? digits = some zone) :
    '%' ∉ digits := by
  intro member
  obtain ⟨n, read, _⟩ := Option.map_eq_some_iff.mp numbered
  have digit := Digits.number_digits read '%' member
  revert digit
  decide

theorem groups_no_zone {groups : List Char} {address : Ipv6} (read : Ipv6.ofChars? groups = some address) :
    '%' ∉ groups := by
  intro member
  have letter := Ipv6.letters read '%' member
  revert letter
  decide

theorem decimal_no_bracket {text : List Char} {address : Ipv4} (read : Ipv4.ofChars? text = some address) :
    '[' ∉ text := by
  intro member
  rcases Ipv4.letters read '[' member with dot | digit
  · revert dot
    decide
  · revert digit
    decide

theorem bracketed_denotes {inside : List Char} {host : Host} (read : ofBracketed? inside = some host) :
    Denotes ('[' :: inside ++ [']']) host := by
  by_cases marked : '%' ∈ inside
  · obtain ⟨groups, digits, rfl, front⟩ := List.eq_append_cons_of_mem marked
    rw [ofBracketed?, pieces_split, List.splitOn_append_cons_self_of_not_mem front] at read
    by_cases again : '%' ∈ digits
    · obtain ⟨zone, more, rfl, apart⟩ := List.eq_append_cons_of_mem again
      rw [List.splitOn_append_cons_self_of_not_mem apart] at read
      cases rest : more.splitOn '%' with
      | nil => exact absurd rest (List.splitOn_ne_nil '%' more)
      | cons third others =>
        rw [rest] at read
        cases read
    · rw [List.splitOn_eq_singleton again] at read
      simp only [bind, Option.bind_eq_some_iff] at read
      obtain ⟨address, known, zone, numbered, same⟩ := read
      cases same
      exact .zoned known numbered
  · rw [ofBracketed?, pieces_split, List.splitOn_eq_singleton marked] at read
    simp only [bind, Option.bind_eq_some_iff] at read
    obtain ⟨address, known, same⟩ := read
    cases same
    exact .bracketed known

theorem of_chars_bracketed (inside : List Char) :
    ofChars? ('[' :: inside ++ [']']) = ofBracketed? inside := by
  simp [ofChars?]

theorem of_chars_iff {text : List Char} {host : Host} : ofChars? text = some host ↔ Denotes text host := by
  constructor
  · intro read
    unfold ofChars? at read
    split at read
    · rename_i rest
      by_cases closed : rest.getLast? = some ']'
      · rw [if_pos closed] at read
        obtain ⟨inside, rfl⟩ := List.getLast?_eq_some_iff.mp closed
        rw [List.dropLast_concat] at read
        exact bracketed_denotes read
      · rw [if_neg closed] at read
        cases read
    · obtain ⟨address, known, rfl⟩ := Option.map_eq_some_iff.mp read
      exact .decimal known
  · intro denotes
    cases denotes with
    | decimal read =>
      unfold ofChars?
      split
      · exact absurd List.mem_cons_self (decimal_no_bracket read)
      · rw [read]
        rfl
    | bracketed read =>
      rw [of_chars_bracketed, ofBracketed?, pieces_split, List.splitOn_eq_singleton (groups_no_zone read)]
      simp [read]
    | zoned read numbered =>
      rw [of_chars_bracketed, ofBracketed?, pieces_split,
        List.splitOn_append_cons_self_of_not_mem (groups_no_zone read),
        List.splitOn_eq_singleton (zone_digits numbered)]
      simp [read, numbered]

end Host

namespace SocketAddress

def Denotes (text : List Char) (address : SocketAddress) : Prop :=
  ∃ host digits, text = host ++ ':' :: digits ∧ Host.Denotes host address.host ∧
    port? digits = some address.port

theorem port_digits {digits : List Char} {port : UInt16} (read : port? digits = some port) :
    ':' ∉ digits := by
  intro member
  obtain ⟨n, known, _⟩ := Option.map_eq_some_iff.mp read
  have digit := Digits.number_digits known ':' member
  revert digit
  decide

theorem port_of_decimal (port : UInt16) : port? (Nat.toDigits 10 port.toNat) = some port := by
  rw [port?, Digits.number_of_decimal port.toNat_lt, Option.map_some, UInt16.ofNat_toNat]

theorem split_absent {text : List Char} (absent : ':' ∉ text) : splitAtPort? text = none := by
  induction text with
  | nil => rfl
  | cons c text ih =>
    rw [List.mem_cons, not_or] at absent
    rw [splitAtPort?, ih absent.2]
    exact if_neg (Ne.symm absent.1)

theorem split_append (front : List Char) {back : List Char} (absent : ':' ∉ back) :
    splitAtPort? (front ++ ':' :: back) = some (front, back) := by
  induction front with
  | nil =>
    rw [List.nil_append, splitAtPort?, split_absent absent]
    rfl
  | cons c front ih =>
    rw [List.cons_append, splitAtPort?, ih]

-- What is behind the last colon has none, so that a port can begin at one place only.
theorem cut_before_port {host other digits more : List Char}
    (same : host ++ ':' :: digits = other ++ ':' :: more) (plain : ':' ∉ digits) (also : ':' ∉ more) :
    host = other ∧ digits = more := by
  have split := split_append host plain
  rw [same, split_append other also] at split
  cases split
  exact ⟨rfl, rfl⟩

theorem port_kept {text : List Char} {port : UInt16} {address : SocketAddress} :
    Denotes (text ++ ':' :: Nat.toDigits 10 port.toNat) address ↔
      Host.Denotes text address.host ∧ address.port = port := by
  have own := port_of_decimal port
  constructor
  · intro ⟨host, digits, same, denotes, numbered⟩
    obtain ⟨rfl, rfl⟩ := cut_before_port same (port_digits own) (port_digits numbered)
    exact ⟨denotes, Option.some.inj (numbered.symm.trans own)⟩
  · intro ⟨denotes, is⟩
    exact ⟨text, _, rfl, denotes, is ▸ own⟩

theorem split_apart {text front back : List Char} (split : splitAtPort? text = some (front, back)) :
    text = front ++ ':' :: back := by
  induction text generalizing front with
  | nil => cases split
  | cons c text ih =>
    rw [splitAtPort?] at split
    cases behind : splitAtPort? text with
    | some found =>
      rw [behind] at split
      cases split
      rw [ih behind]
      rfl
    | none =>
      simp only [behind] at split
      by_cases colon : c = ':'
      · rw [if_pos colon] at split
        cases split
        rw [colon]
        rfl
      · rw [if_neg colon] at split
        cases split

theorem of_chars_iff {text : List Char} {address : SocketAddress} :
    ofChars? text = some address ↔ Denotes text address := by
  constructor
  · intro read
    simp only [ofChars?, bind, Option.bind_eq_some_iff] at read
    obtain ⟨⟨host, digits⟩, split, found, known, port, numbered, same⟩ := read
    cases same
    exact ⟨host, digits, split_apart split, Host.of_chars_iff.mp known, numbered⟩
  · intro ⟨host, digits, is, denotes, numbered⟩
    have split := split_append host (port_digits numbered)
    simp [ofChars?, is, split, Host.of_chars_iff.mpr denotes, numbered]

end SocketAddress

end HeapScope
