import PublicLighting.ClientAddress.Spelling
import PublicLighting.Foundations.DecimalText

/-! What parsing, range matching and limiter keys say about the numbers that address
texts denote. -/

namespace PublicLighting.ClientAddress

open Foundations.JavaScriptText (isLowerHex isHex isTrimmed)
open Foundations.Words
open Foundations.DecimalText (isDigits)

section Texts

namespace Ipv6

theorem char_cases (address : Ipv6) {c : Char} (member : c ∈ address.text) : isAddressChar c = true := by
  have colon : isAddressChar ':' = true := by decide
  have piece (groups : List HexGroup) (dotted : Option Ipv4) (given : c ∈ coloned
      (groups.map HexGroup.digits ++ dotted.toList.map Ipv4.text)) : isAddressChar c = true := by
    cases mem_intercalate given with
    | inl same => exact same ▸ colon
    | inr inside =>
        obtain ⟨piece, within, here⟩ := inside
        rw [List.mem_append, List.mem_map, List.mem_map] at within
        rcases within with ⟨group, -, rfl⟩ | ⟨tail, -, rfl⟩
        · simp only [isAddressChar, group.hex c here, Bool.true_or]
        · cases tail.char_cases here with
          | inl dot => exact dot ▸ by decide
          | inr digit => simp only [isAddressChar, digit_isHex digit, Bool.true_or]
  cases address with
  | full groups dotted _ => exact piece groups dotted member
  | compressed front back dotted _ =>
      rw [text, List.mem_append, List.mem_cons, List.mem_cons] at member
      rcases member with here | same | same | here
      · refine piece front none ?_
        rw [Option.toList_none, List.map_nil, List.append_nil]
        exact here
      · exact same ▸ colon
      · exact same ▸ colon
      · exact piece back dotted here

theorem has_colon (address : Ipv6) : ':' ∈ address.text := by
  cases address with
  | full groups dotted sized =>
      have few := tailWords_length_le dotted
      match groups, sized with
      | [], sized => simp only [List.length_nil] at sized; omega
      | [_], sized => simp only [List.length_singleton] at sized; omega
      | first :: second :: rest, _ =>
          rw [text, List.map_cons, List.map_cons, List.cons_append, List.cons_append, coloned_cons, colonBefore,
            List.flatMap_cons]
          exact List.mem_append_right _ List.mem_cons_self
  | compressed front back dotted _ => exact List.mem_append_right _ List.mem_cons_self

theorem no_zone (address : Ipv6) : '%' ∉ address.text := by
  intro member
  exact absurd (address.char_cases member) (by decide)

end Ipv6

theorem Denotes.char_cases {text : List Char} {family : Family} {bits : Nat} (denotes : Denotes text family bits) :
    ∀ c ∈ text, isAddressChar c = true := by
  cases denotes with
  | four address =>
      intro c member
      cases address.char_cases member with
      | inl dot => exact dot ▸ by decide
      | inr digit => simp only [isAddressChar, digit_isHex digit, Bool.true_or]
  | mapped address _ => exact fun c member => address.char_cases member
  | six address _ => exact fun c member => address.char_cases member

theorem Denotes.filled {text : List Char} {family : Family} {bits : Nat} (denotes : Denotes text family bits) :
    text ≠ [] := by
  cases denotes with
  | four address => exact List.ne_nil_of_mem address.has_dot
  | mapped address _ => exact List.ne_nil_of_mem address.has_colon
  | six address _ => exact List.ne_nil_of_mem address.has_colon

theorem Denotes.bits_lt {text : List Char} {family : Family} {bits : Nat} (denotes : Denotes text family bits) :
    bits < 2 ^ family.width := by
  cases denotes with
  | four address => exact address.bits_lt
  | mapped address _ => exact Nat.mod_lt _ (Nat.two_pow_pos 32)
  | six address _ => exact address.bits_lt

end Texts

section Parsing

variable {isIP : List Char → Nat}

theorem mapped_octets (mapped : Nat) :
    ([24, 16, 8, 0].map fun offset => mapped / 2 ^ offset &&& 255) = toWords 256 4 mapped := by
  have low (n : Nat) : n &&& 255 = n % 256 := Nat.and_two_pow_sub_one_eq_mod n 8
  simp only [List.map_cons, List.map_nil, low, toWords, List.nil_append, List.cons_append,
    Nat.div_div_eq_div_mul]
  norm_num

theorem Ipv6.parse (answers : ByGrammar isIP) (address : Ipv6) :
    parseIpv6 isIP address.text =
      some (if address.bits / 2 ^ 32 = 0xffff then parsedAs .four (address.bits % 2 ^ 32)
        else parsedAs .six address.bits) := by
  have accepted : isIP address.text = 6 := (answers.six _ address.no_zone).mpr ⟨address, rfl⟩
  have zoneless : address.text.contains '%' = false := by
    simpa using address.no_zone
  obtain ⟨words, expands, values⟩ := address.expanded_source
  have bits : words.foldl (fun result word => (result <<< 16) ||| ofHex word) 0 = address.bits := by
    rw [← List.foldl_map (f := ofHex), values]
    exact foldl_shift 16 address.words address.words_lt
  have low : address.bits &&& 0xffffffff = address.bits % 2 ^ 32 := Nat.and_two_pow_sub_one_eq_mod _ 32
  rw [parseIpv6, if_neg (by rw [accepted, zoneless]; decide), address.undotted_text answers]
  simp only [Option.bind_eq_bind, Option.bind_some, expands, bits, low, Nat.shiftRight_eq_div_pow]
  by_cases range : address.bits / 2 ^ 32 = 0xffff
  · rw [if_pos range, if_pos range, mapped_octets]
    rfl
  · have text : words.map (fun word => Nat.toDigits 16 (ofHex word)) = address.words.map (Nat.toDigits 16) := by
      rw [← values, List.map_map]
      rfl
    rw [if_neg range, if_neg range, text, parsedAs, normalText, address.words_bits]
    rfl

theorem parse_denotes (answers : ByGrammar isIP) {text : List Char} {family : Family} {bits : Nat}
    (denotes : Denotes text family bits) : parseAddress isIP text = some (parsedAs family bits) := by
  have second (address : Ipv6) : parseIpv4 isIP address.text = none := by
    have accepted : isIP address.text = 6 := (answers.six _ address.no_zone).mpr ⟨address, rfl⟩
    rw [parseIpv4, if_pos (by rw [accepted]; decide)]
  cases denotes with
  | four address => rw [parseAddress, address.parse answers, Option.some_or]
  | mapped address range => rw [parseAddress, second, Option.none_or, address.parse answers, if_pos range]
  | six address outside => rw [parseAddress, second, Option.none_or, address.parse answers, if_neg outside]

theorem accepted_denotes (answers : ByGrammar isIP) {text : List Char} (zoneless : '%' ∉ text)
    (accepted : isIP text = 4 ∨ isIP text = 6) : ∃ family bits, Denotes text family bits := by
  cases accepted with
  | inl four =>
      obtain ⟨address, rfl⟩ := (answers.four text).mp four
      exact ⟨.four, address.bits, .four address⟩
  | inr six =>
      obtain ⟨address, rfl⟩ := (answers.six text zoneless).mp six
      by_cases range : address.bits / 2 ^ 32 = 0xffff
      · exact ⟨.four, _, .mapped address range⟩
      · exact ⟨.six, _, .six address range⟩

/-- The text of eight words without a dotted tail. -/
def Ipv6.ofBits (bits : Nat) : Ipv6 :=
  .full
    ((toWords (2 ^ 16) 8 bits).attach.map fun word => {
      digits := Nat.toDigits 16 word.1
      given := Nat.toDigits_ne_nil
      short := (Nat.length_toDigits_le_iff (by decide) (by decide)).mpr
        (toWords_lt (Nat.two_pow_pos 16) 8 bits word.1 word.2)
      hex := fun c member => lower_isHex (hex_digit word.1 c member) })
    none
    (by rw [List.length_map, List.length_attach, toWords_length]; rfl)

theorem Ipv6.text_ofBits (bits : Nat) : (Ipv6.ofBits bits).text = normalText .six bits := by
  simp only [Ipv6.ofBits, Ipv6.text, Option.toList_none, List.map_nil, List.append_nil, List.map_map, normalText]
  congr 1

theorem Ipv6.bits_ofBits {bits : Nat} (bounded : bits < 2 ^ 128) : (Ipv6.ofBits bits).bits = bits := by
  have words : (Ipv6.ofBits bits).words = toWords (2 ^ 16) 8 bits := by
    simp only [Ipv6.ofBits, Ipv6.words, tailWords, Option.toList_none, List.flatMap_nil, List.append_nil,
      List.map_map]
    have digits : ∀ word : Nat, ofHex (Nat.toDigits 16 word) = word := ofHex_toDigits
    calc _ = (toWords (2 ^ 16) 8 bits).attach.map Subtype.val :=
          List.map_congr_left fun word _ => digits word.1
      _ = toWords (2 ^ 16) 8 bits := List.attach_map_subtype_val _
  rw [Ipv6.bits, words]
  exact ofWords_toWords 8 bits bounded

theorem Denotes.normal {text : List Char} {family : Family} {bits : Nat} (denotes : Denotes text family bits) :
    Denotes (normalText family bits) family bits := by
  have bounded := denotes.bits_lt
  cases denotes with
  | four address => exact address.normal ▸ .four address
  | mapped address _ =>
      have same := Denotes.four (Ipv4.ofBits (address.bits % 2 ^ 32))
      rw [Ipv4.bits_ofBits bounded] at same
      exact same
  | six address outside =>
      have same := Denotes.six (Ipv6.ofBits address.bits) (by rwa [Ipv6.bits_ofBits bounded])
      rw [Ipv6.bits_ofBits bounded, Ipv6.text_ofBits] at same
      exact same

theorem parsed_denotes (answers : ByGrammar isIP) {text : List Char} {parsed : ParsedAddress}
    (read : parseAddress isIP text = some parsed) : ∃ family bits, Denotes text family bits := by
  by_cases four : isIP text = 4
  · obtain ⟨address, rfl⟩ := (answers.four text).mp four
    exact ⟨.four, address.bits, .four address⟩
  · have other : parseIpv4 isIP text = none := if_pos four
    rw [parseAddress, other, Option.none_or, parseIpv6] at read
    by_cases refused : isIP text ≠ 6 ∨ text.contains '%'
    · rw [if_pos refused] at read
      cases read
    · rw [not_or, not_not] at refused
      exact accepted_denotes answers (by simpa using refused.2) (.inr refused.1)

theorem parse_normalized (answers : ByGrammar isIP) {text : List Char} {parsed : ParsedAddress}
    (read : parseAddress isIP text = some parsed) : parseAddress isIP parsed.normalized = some parsed := by
  obtain ⟨family, bits, denotes⟩ := parsed_denotes answers read
  rw [parse_denotes answers denotes, Option.some_inj] at read
  rw [← read]
  exact parse_denotes answers denotes.normal

end Parsing

section Ranges

variable {isIP : List Char → Nat} {text : List Char} {family : Family} {bits : Nat}

theorem networkMask_eq (maxBits hostBits : Nat) : networkMask maxBits hostBits = highMask maxBits hostBits := by
  rw [networkMask, highMask]
  by_cases none : hostBits = 0
  · subst none
    rw [if_pos rfl]
    simp
  · rw [if_neg none]

theorem addressChar_plain {c : Char} (plain : isAddressChar c = true) : c ≠ '/' ∧ isTrimmed c = false := by
  have ascii : c.toNat < 128 := by
    simp only [isAddressChar, Bool.or_eq_true, beq_iff_eq] at plain
    rcases plain with (hex | dot) | colon
    · exact hex_ascii hex
    · exact dot ▸ by decide
    · exact colon ▸ by decide
  have checked : ∀ n < 128, isAddressChar (Char.ofNat n) = true → Char.ofNat n ≠ '/' ∧
      isTrimmed (Char.ofNat n) = false := by decide
  exact ascii_of (p := fun c => isAddressChar c = true → c ≠ '/' ∧ isTrimmed c = false) checked c ascii plain

theorem digit_plain {c : Char} (digit : c.isDigit = true) : c ≠ '/' ∧ isTrimmed c = false := by
  apply addressChar_plain
  simp only [isAddressChar, digit_isHex digit, Bool.true_or]

theorem cidr_parts (denotes : Denotes text family bits) {digits : List Char} (given : digits ≠ [])
    (all : isDigits digits = true) :
    (Foundations.Trimming.trim isTrimmed (text ++ '/' :: digits)).splitOn '/' = [text, digits] := by
  have digit : ∀ c ∈ digits, c.isDigit = true := List.all_eq_true.mp all
  have untouched : Foundations.Trimming.Trimmed isTrimmed (text ++ '/' :: digits) := by
    constructor
    · intro c first
      rw [List.head?_append_of_ne_nil _ denotes.filled] at first
      exact (addressChar_plain (denotes.char_cases c (List.mem_of_mem_head? first))).2
    · intro c last
      rw [List.append_cons, List.getLast?_append_of_ne_nil _ given] at last
      exact (digit_plain (digit c (List.mem_of_mem_getLast? last))).2
  have noSlash : '/' ∉ text := fun member => (addressChar_plain (denotes.char_cases '/' member)).1 rfl
  have noSlashAfter : '/' ∉ digits := fun member => (digit_plain (digit '/' member)).1 rfl
  rw [Foundations.Trimming.trim_eq_self untouched, List.splitOn_append_cons_self_of_not_mem noSlash,
    List.splitOn_eq_singleton noSlashAfter]

theorem parseCidr_denotes (answers : ByGrammar isIP) (denotes : Denotes text family bits) {digits : List Char}
    (given : digits ≠ []) (all : isDigits digits = true) {n : Nat} (value : Nat.ofDigitChars 10 digits 0 = n)
    (fits : n ≤ family.width) :
    parseCidr isIP (text ++ '/' :: digits) =
      .ok { parsedAs family bits with
        bits := bits &&& highMask family.width (family.width - n), prefixLength := n } := by
  have filled : text.isEmpty = false := by simpa using denotes.filled
  have nonempty : digits.isEmpty = false := by simpa using given
  have read : prefixOf family.width (some digits) = n := by
    have accepts : ¬ digits.isEmpty = true ∧ digits.all Char.isDigit = true := ⟨by rw [nonempty]; decide, all⟩
    rw [prefixOf, if_pos accepts, value]
  rw [parseCidr]
  simp only [cidr_parts denotes given all, List.getD_cons_zero, filled]
  rw [if_neg (by simp), parse_denotes answers denotes]
  have second : ([text, digits] : List (List Char))[1]? = some digits := rfl
  have family' : (parsedAs family bits).family = family := rfl
  simp only [second, family', read]
  rw [if_neg (by omega), Int.toNat_natCast, networkMask_eq]
  rfl

theorem addressMatchesCidr_iff (answers : ByGrammar isIP) (denotes : Denotes text family bits)
    {range : Family} {network n : Nat} (fits : n ≤ range.width) :
    addressMatchesCidr isIP text { parsedAs range network with
        bits := network &&& highMask range.width (range.width - n), prefixLength := n } = true ↔
      family = range ∧ ∀ i < n, bits.testBit (family.width - 1 - i) = network.testBit (family.width - 1 - i) := by
  rw [addressMatchesCidr, parse_denotes answers denotes]
  have read : (parsedAs family bits).family = family := rfl
  have own : (parsedAs range network).family = range := rfl
  simp only [read, own]
  by_cases same : family = range
  · subst same
    rw [if_neg (not_not_intro rfl), networkMask_eq, beq_iff_eq]
    exact (mask_eq_iff fits).trans (by simp only [true_and, parsedAs])
  · rw [if_pos same]
    simp only [same, false_and, Bool.false_eq_true]

end Ranges

section LimiterKeys

variable {isIP : List Char → Nat}

theorem normalText_injective {bits other : Nat} (bounded : bits < 2 ^ 32) (otherBounded : other < 2 ^ 32)
    (same : normalText .four bits = normalText .four other) : bits = other := by
  have split := congrArg (fun text => (text.splitOn '.').map fun octet => Nat.ofDigitChars 10 octet 0) same
  simp only [← Ipv4.text_ofBits, Ipv4.split_text] at split
  rw [← Ipv4.bits_ofBits bounded, ← Ipv4.bits_ofBits otherBounded, Ipv4.bits, Ipv4.bits, split]

/-- What two addresses with one limiter key have in common. -/
def SameClient : Family → Nat → Family → Nat → Prop
  | .four, bits, .four, other => bits = other
  | .six, bits, .six, other => bits / 2 ^ 64 = other / 2 ^ 64
  | _, _, _, _ => False

theorem limiter_keys (answers : ByGrammar isIP) {text otherText : List Char} {family otherFamily : Family}
    {bits other : Nat} (denotes : Denotes text family bits) (otherDenotes : Denotes otherText otherFamily other) :
    normalizeLimiterAddress isIP text = normalizeLimiterAddress isIP otherText ↔
      SameClient family bits otherFamily other := by
  have bounded := denotes.bits_lt
  have otherBounded := otherDenotes.bits_lt
  rw [normalizeLimiterAddress, normalizeLimiterAddress, parse_denotes answers denotes,
    parse_denotes answers otherDenotes, Option.map_some, Option.map_some, Option.some_inj]
  cases family with
  | four =>
      cases otherFamily with
      | four =>
          constructor
          · intro same
            simp only [parsedAs, List.cons.injEq, true_and] at same
            exact normalText_injective bounded otherBounded same
          · intro same
            have same : bits = other := same
            rw [same]
      | six => simp [parsedAs, SameClient]
  | six =>
      cases otherFamily with
      | four => simp [parsedAs, SameClient]
      | six =>
          constructor
          · intro same
            simp only [parsedAs, List.cons.injEq, true_and, Nat.shiftRight_eq_div_pow] at same
            exact toDigits_hex_injective same
          · intro same
            have same : bits / 2 ^ 64 = other / 2 ^ 64 := same
            simp only [parsedAs, Nat.shiftRight_eq_div_pow, same]

end LimiterKeys

section Reading

theorem spellings_agree {isIP : List Char → Nat} (answers : ByGrammar isIP) {one other : Ipv6}
    (same : one.words = other.words) : parseAddress isIP one.text = parseAddress isIP other.text := by
  have bits : one.bits = other.bits := congrArg (ofWords (2 ^ 16)) same
  by_cases range : one.bits / 2 ^ 32 = 0xffff
  · rw [parse_denotes answers (.mapped one range), parse_denotes answers (.mapped other (bits ▸ range)), bits]
  · rw [parse_denotes answers (.six one range), parse_denotes answers (.six other (bits ▸ range)), bits]

/-- Addresses, ranges and limiter keys are read as the grammars mean them. -/
theorem addresses_read {isIP : List Char → Nat} (answers : ByGrammar isIP) :
    (∀ text, '%' ∉ text → isIP text = 4 ∨ isIP text = 6 → ∃ family bits, Denotes text family bits) ∧
    (∀ text family bits, Denotes text family bits → parseAddress isIP text = some (parsedAs family bits)) ∧
    (∀ one other : Ipv6, one.words = other.words → parseAddress isIP one.text = parseAddress isIP other.text) ∧
    (∀ text parsed, parseAddress isIP text = some parsed → parseAddress isIP parsed.normalized = some parsed) ∧
    (∀ text family bits range rangeFamily network digits n, Denotes text family bits →
      Denotes range rangeFamily network → digits ≠ [] → isDigits digits = true →
      Nat.ofDigitChars 10 digits 0 = n → n ≤ rangeFamily.width →
      ∃ cidr, parseCidr isIP (range ++ '/' :: digits) = .ok cidr ∧
        (addressMatchesCidr isIP text cidr = true ↔
          family = rangeFamily ∧
            ∀ i < n, bits.testBit (family.width - 1 - i) = network.testBit (family.width - 1 - i))) ∧
    (∀ text family bits other otherFamily otherBits, Denotes text family bits →
      Denotes other otherFamily otherBits →
      (normalizeLimiterAddress isIP text = normalizeLimiterAddress isIP other ↔
        SameClient family bits otherFamily otherBits)) := by
  refine ⟨fun text zoneless accepted => accepted_denotes answers zoneless accepted,
    fun text family bits denotes => parse_denotes answers denotes,
      fun one other same => spellings_agree answers same,
    fun text parsed read => parse_normalized answers read, ?_,
    fun text family bits other otherFamily otherBits denotes otherDenotes =>
      limiter_keys answers denotes otherDenotes⟩
  intro text family bits range rangeFamily network digits n denotes rangeDenotes given all value fits
  exact ⟨_, parseCidr_denotes answers rangeDenotes given all value fits, addressMatchesCidr_iff answers denotes fits⟩

/-- `net.isIP` on texts without a zone. -/
noncomputable def netIsIP (text : List Char) : Nat :=
  open Classical in
  if ∃ address : Ipv4, address.text = text then 4
  else if ∃ address : Ipv6, address.text = text then 6
  else 0

theorem netIsIP_answers : ByGrammar netIsIP where
  four := by
    intro text
    rw [netIsIP]
    split
    · simp only [true_iff]
      assumption
    · rename_i other
      simp only [other, iff_false]
      split <;> decide
  six := by
    intro text _
    rw [netIsIP]
    by_cases four : ∃ address : Ipv4, address.text = text
    · rw [if_pos four]
      constructor
      · exact nofun
      · intro six
        obtain ⟨address, rfl⟩ := four
        obtain ⟨other, same⟩ := six
        exact absurd (same ▸ other.has_colon) address.no_colon
    · rw [if_neg four]
      by_cases six : ∃ address : Ipv6, address.text = text
      · rw [if_pos six]
        simp only [true_iff]
        exact six
      · rw [if_neg six]
        simp only [six, iff_false]
        decide

/-- 10.0.0.1 in the mapped range, with upper-case digits and a dotted tail. -/
def mappedSpelling : Ipv6 :=
  .compressed [] [⟨"FFFF".toList, by decide, by decide, List.all_eq_true.mp (by decide)⟩]
    (some ⟨[10, 0, 0, 1], rfl, by decide⟩) (by decide)

theorem mappedSpelling_read :
    mappedSpelling.text = "::FFFF:10.0.0.1".toList ∧
      parseAddress netIsIP mappedSpelling.text =
        some { family := .four, bits := 167772161, normalized := "10.0.0.1".toList } :=
  ⟨by decide, (addresses_read netIsIP_answers).2.1 _ _ _ (.mapped mappedSpelling (by decide))⟩

end Reading

end PublicLighting.ClientAddress
