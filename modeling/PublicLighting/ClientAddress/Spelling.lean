import PublicLighting.ClientAddress.Parsing

/-! The textual grammars of addresses, and what a text denotes. -/

namespace PublicLighting.ClientAddress

open Foundations.JavaScriptText (isLowerHex isHex)
open Foundations.Words

def coloned (pieces : List (List Char)) : List Char := [':'].intercalate pieces

structure Ipv4 where
  octets : List Nat
  count : octets.length = 4
  small : ∀ octet ∈ octets, octet < 256

namespace Ipv4

def text (address : Ipv4) : List Char := ['.'].intercalate (address.octets.map (Nat.toDigits 10))

def bits (address : Ipv4) : Nat := ofWords 256 address.octets

theorem bits_lt (address : Ipv4) : address.bits < 2 ^ 32 := by
  have bound := ofWords_lt address.octets address.small
  rw [address.count] at bound
  exact bound

end Ipv4

structure HexGroup where
  digits : List Char
  given : digits ≠ []
  short : digits.length ≤ 4
  hex : ∀ c ∈ digits, isHex c = true

def tailWords (dotted : Option Ipv4) : List Nat :=
  dotted.toList.flatMap fun tail => [tail.bits / 2 ^ 16, tail.bits % 2 ^ 16]

inductive Ipv6
  | full (groups : List HexGroup) (dotted : Option Ipv4)
      (sized : groups.length + (tailWords dotted).length = 8)
  | compressed (front back : List HexGroup) (dotted : Option Ipv4)
      (sized : front.length + back.length + (tailWords dotted).length ≤ 7)

namespace Ipv6

def text : Ipv6 → List Char
  | full groups dotted _ => coloned (groups.map HexGroup.digits ++ dotted.toList.map Ipv4.text)
  | compressed front back dotted _ =>
      coloned (front.map HexGroup.digits) ++ ':' :: ':' ::
        coloned (back.map HexGroup.digits ++ dotted.toList.map Ipv4.text)

def words : Ipv6 → List Nat
  | full groups dotted _ => groups.map (ofHex ·.digits) ++ tailWords dotted
  | compressed front back dotted _ =>
      front.map (ofHex ·.digits) ++
        List.replicate (8 - (front.length + back.length + (tailWords dotted).length)) 0 ++
          (back.map (ofHex ·.digits) ++ tailWords dotted)

def bits (address : Ipv6) : Nat := ofWords (2 ^ 16) address.words

end Ipv6

/-- The family and the number that a text stands for. The range ::ffff:0:0/96 stands for IPv4. -/
inductive Denotes : List Char → Family → Nat → Prop
  | four (address : Ipv4) : Denotes address.text .four address.bits
  | mapped (address : Ipv6) (range : address.bits / 2 ^ 32 = 0xffff) :
      Denotes address.text .four (address.bits % 2 ^ 32)
  | six (address : Ipv6) (outside : address.bits / 2 ^ 32 ≠ 0xffff) :
      Denotes address.text .six address.bits

/-- `isIP` answers by the grammars. A zone only follows an IPv6 address. -/
structure ByGrammar (isIP : List Char → Nat) : Prop where
  four : ∀ text, isIP text = 4 ↔ ∃ address : Ipv4, address.text = text
  six : ∀ text, '%' ∉ text → (isIP text = 6 ↔ ∃ address : Ipv6, address.text = text)

def normalText : Family → Nat → List Char
  | .four, bits => ['.'].intercalate ((toWords 256 4 bits).map (Nat.toDigits 10))
  | .six, bits => coloned ((toWords (2 ^ 16) 8 bits).map (Nat.toDigits 16))

def parsedAs (family : Family) (bits : Nat) : ParsedAddress := ⟨family, bits, normalText family bits⟩

section Characters

def isAddressChar (c : Char) : Bool := isHex c || c == '.' || c == ':'

theorem ascii_of {p : Char → Prop} [DecidablePred p] (all : ∀ n < 128, p (Char.ofNat n)) (c : Char)
    (ascii : c.toNat < 128) : p c := by
  rw [← Char.ofNat_toNat c]
  exact all c.toNat ascii

theorem hex_ascii {c : Char} (hex : isHex c = true) : c.toNat < 128 := by
  simp only [isHex, isLowerHex, Char.isDigit, Bool.or_eq_true, Bool.and_eq_true, decide_eq_true_eq,
    UInt32.le_iff_toNat_le, Char.le_def, ge_iff_le] at hex
  have digit : '9'.val.toNat = 57 := rfl
  have lower : 'f'.val.toNat = 102 := rfl
  have upper : 'F'.val.toNat = 70 := rfl
  have value : c.toNat = c.val.toNat := rfl
  omega

theorem hex_facts : ∀ c : Char, isHex c = true →
    c ≠ ':' ∧ c ≠ '.' ∧ isLowerHex c.toLower = true ∧ nibble c.toLower = nibble c ∧ nibble c < 16 := by
  intro c hex
  have checked : ∀ n < 128, isHex (Char.ofNat n) = true → Char.ofNat n ≠ ':' ∧ Char.ofNat n ≠ '.' ∧
      isLowerHex (Char.ofNat n).toLower = true ∧ nibble (Char.ofNat n).toLower = nibble (Char.ofNat n) ∧
        nibble (Char.ofNat n) < 16 := by decide
  exact ascii_of (p := fun c => isHex c = true → c ≠ ':' ∧ c ≠ '.' ∧ isLowerHex c.toLower = true ∧
    nibble c.toLower = nibble c ∧ nibble c < 16) checked c (hex_ascii hex) hex

theorem toDigits_all {base : Nat} {p : Char → Prop} (large : 1 < base) (digits : ∀ n < base, p n.digitChar)
    (number : Nat) : ∀ c ∈ Nat.toDigits base number, p c := by
  induction number using Nat.strongRecOn with
  | ind number ih =>
      rw [Nat.toDigits_eq_if large]
      intro c member
      by_cases small : number < base
      · rw [if_pos small, List.mem_singleton] at member
        exact member ▸ digits number small
      · rw [if_neg small, List.mem_append, List.mem_singleton] at member
        cases member with
        | inl high => exact ih (number / base) (Nat.div_lt_self (by omega) large) c high
        | inr low => exact low ▸ digits _ (Nat.mod_lt _ (by omega))

theorem decimal_digit (number : Nat) : ∀ c ∈ Nat.toDigits 10 number, c.isDigit = true :=
  toDigits_all (by decide) (by decide) number

theorem hex_digit (number : Nat) : ∀ c ∈ Nat.toDigits 16 number, isLowerHex c = true :=
  toDigits_all (by decide) (by decide) number

theorem digit_isHex {c : Char} (digit : c.isDigit = true) : isHex c = true := by
  simp only [isHex, isLowerHex, digit, Bool.true_or]

theorem lower_isHex {c : Char} (lower : isLowerHex c = true) : isHex c = true := by
  simp only [isHex, lower, Bool.true_or]

theorem lowered_digit {c : Char} (digit : c.isDigit = true) : c.toLower = c := by
  have checked : ∀ n < 128, (Char.ofNat n).isDigit = true → (Char.ofNat n).toLower = Char.ofNat n := by decide
  exact ascii_of (p := fun c => c.isDigit = true → c.toLower = c) checked c (hex_ascii (digit_isHex digit)) digit

theorem mem_intercalate {separator c : Char} {pieces : List (List Char)}
    (member : c ∈ [separator].intercalate pieces) : c = separator ∨ ∃ piece ∈ pieces, c ∈ piece := by
  induction pieces with
  | nil => cases member
  | cons piece rest ih =>
      cases rest with
      | nil =>
          rw [List.intercalate_singleton] at member
          exact .inr ⟨piece, List.mem_singleton_self _, member⟩
      | cons next rest =>
          rw [List.intercalate_cons_of_ne_nil (List.cons_ne_nil _ _), List.append_assoc, List.mem_append,
            List.singleton_append, List.mem_cons] at member
          cases member with
          | inl here => exact .inr ⟨piece, List.mem_cons_self, here⟩
          | inr later =>
              cases later with
              | inl same => exact .inl same
              | inr later =>
                  cases ih later with
                  | inl same => exact .inl same
                  | inr inside =>
                      obtain ⟨found, within, here⟩ := inside
                      exact .inr ⟨found, List.mem_cons_of_mem _ within, here⟩

end Characters

section Dotted

namespace Ipv4

theorem char_cases (address : Ipv4) {c : Char} (member : c ∈ address.text) : c = '.' ∨ c.isDigit = true := by
  apply (mem_intercalate member).imp_right
  intro ⟨piece, within, here⟩
  obtain ⟨octet, -, numeral⟩ := List.mem_map.mp within
  exact decimal_digit octet c (numeral ▸ here)

theorem no_colon (address : Ipv4) : ':' ∉ address.text := by
  intro member
  cases address.char_cases member with
  | inl same => cases same
  | inr digit => exact absurd digit (by decide)

theorem has_dot (address : Ipv4) : '.' ∈ address.text := by
  obtain ⟨octets, count, small⟩ := address
  match octets, count with
  | [a, b, c, d], _ => simp [text, List.intercalate_cons_of_ne_nil]

theorem lowered (address : Ipv4) : address.text.map Char.toLower = address.text := by
  have same : address.text.map Char.toLower = address.text.map id := by
    apply List.map_congr_left
    intro c member
    cases address.char_cases member with
    | inl dot => rw [dot]; rfl
    | inr digit => exact lowered_digit digit
  rw [same, List.map_id]

theorem split_text (address : Ipv4) :
    (address.text.splitOn '.').map (fun octet => Nat.ofDigitChars 10 octet 0) = address.octets := by
  have plain : ∀ piece ∈ address.octets.map (Nat.toDigits 10), '.' ∉ piece := by
    intro piece within dot
    obtain ⟨octet, -, numeral⟩ := List.mem_map.mp within
    exact absurd (decimal_digit octet '.' (numeral ▸ dot)) (by decide)
  have given : address.octets.map (Nat.toDigits 10) ≠ [] := by
    intro none
    have count := congrArg List.length none
    rw [List.length_map, address.count] at count
    cases count
  rw [text, List.splitOn_intercalate '.' plain given, List.map_map]
  apply List.map_id''
  intro octet
  exact Nat.ofDigitChars_ten_toDigits

theorem words_bits (address : Ipv4) : toWords 256 4 address.bits = address.octets := by
  rw [← address.count]
  exact toWords_ofWords (by decide) address.octets address.small

theorem normal (address : Ipv4) : normalText .four address.bits = address.text := by
  rw [normalText, words_bits, text]

theorem parse {isIP : List Char → Nat} (answers : ByGrammar isIP) (address : Ipv4) :
    parseIpv4 isIP address.text = some (parsedAs .four address.bits) := by
  have accepted : isIP address.text = 4 := (answers.four _).mpr ⟨address, rfl⟩
  rw [parseIpv4, if_neg (not_not_intro accepted), split_text]
  simp only [foldl_shift 8 address.octets address.small]
  rw [parsedAs, normal]
  rfl

def ofBits (bits : Nat) : Ipv4 where
  octets := toWords 256 4 bits
  count := toWords_length _ _ _
  small := toWords_lt (by decide) _ _

theorem bits_ofBits {bits : Nat} (bounded : bits < 2 ^ 32) : (ofBits bits).bits = bits :=
  ofWords_toWords 4 bits bounded

theorem text_ofBits (bits : Nat) : (ofBits bits).text = normalText .four bits := rfl

end Ipv4

def colonBefore (pieces : List (List Char)) : List Char := pieces.flatMap (':' :: ·)

theorem coloned_cons (piece : List Char) (rest : List (List Char)) :
    coloned (piece :: rest) = piece ++ colonBefore rest := by
  induction rest generalizing piece with
  | nil => simp only [coloned, List.intercalate_singleton, colonBefore, List.flatMap_nil, List.append_nil]
  | cons next rest ih =>
      have step : coloned (piece :: next :: rest) = piece ++ [':'] ++ coloned (next :: rest) :=
        List.intercalate_cons_of_ne_nil (List.cons_ne_nil _ _)
      rw [step, ih next, List.append_assoc]
      rfl

theorem colonBefore_ne {pieces : List (List Char)} (given : pieces ≠ []) :
    colonBefore pieces = ':' :: coloned pieces := by
  cases pieces with
  | nil => exact absurd rfl given
  | cons piece rest =>
      rw [coloned_cons]
      rfl

theorem colonBefore_append (front back : List (List Char)) :
    colonBefore (front ++ back) = colonBefore front ++ colonBefore back := List.flatMap_append

theorem lastIndexOf_eq (before last : List Char) (plain : ':' ∉ last) :
    lastIndexOf ':' (before ++ ':' :: last) = before.length := by
  have position : (before ++ ':' :: last).reverse.idxOf ':' = last.length := by
    have absent : ':' ∉ last.reverse := by rwa [List.mem_reverse]
    rw [List.reverse_append, List.reverse_cons, List.append_assoc, List.singleton_append,
      List.idxOf_append_of_notMem absent, List.idxOf_cons_self, List.length_reverse, Nat.add_zero]
  rw [lastIndexOf, position, List.length_append, List.length_cons]
  omega

theorem slice_after (before last : List Char) (plain : ':' ∉ last) :
    (before ++ ':' :: last).drop
      (slicePosition (before ++ ':' :: last) (lastIndexOf ':' (before ++ ':' :: last) + 1)) = last := by
  have position : slicePosition (before ++ ':' :: last) (before.length + 1) = (before ++ [':']).length := by
    rw [slicePosition, if_neg (by omega), List.length_append]
    rfl
  rw [lastIndexOf_eq before last plain, position, List.append_cons before ':' last, List.drop_left]

theorem slice_before (before last : List Char) (plain : ':' ∉ last) :
    (before ++ ':' :: last).take (slicePosition (before ++ ':' :: last) (lastIndexOf ':' (before ++ ':' :: last))) =
      before := by
  have position : slicePosition (before ++ ':' :: last) before.length = before.length := by
    rw [slicePosition, if_neg (by omega)]
    rfl
  rw [lastIndexOf_eq before last plain, position, List.take_left]

theorem undotted_plain (isIP : List Char → Nat) (before last : List Char) (plain : ':' ∉ last)
    (dotless : '.' ∉ last) : undotted isIP (before ++ ':' :: last) = some (before ++ ':' :: last) := by
  rw [undotted]
  simp only [slice_after before last plain]
  rw [if_neg (by simpa using dotless)]

theorem undotted_dotted {isIP : List Char → Nat} (answers : ByGrammar isIP) (before : List Char) (tail : Ipv4) :
    undotted isIP (before ++ ':' :: tail.text) =
      some (before ++ colonBefore ((tailWords (some tail)).map (Nat.toDigits 16))) := by
  have high : (tail.bits >>> 16) &&& 0xffff = tail.bits / 2 ^ 16 := by
    rw [Nat.shiftRight_eq_div_pow]
    have bound := tail.bits_lt
    exact (Nat.and_two_pow_sub_one_eq_mod _ 16).trans (Nat.mod_eq_of_lt (by omega))
  have low : tail.bits &&& 0xffff = tail.bits % 2 ^ 16 := Nat.and_two_pow_sub_one_eq_mod _ 16
  rw [undotted]
  simp only [slice_after before tail.text tail.no_colon, slice_before before tail.text tail.no_colon]
  rw [if_pos (by simpa using tail.has_dot), tail.parse answers]
  simp only [Option.bind_eq_bind, Option.bind_some, parsedAs, high, low]
  simp [tailWords, colonBefore]

end Dotted

section Compressed

variable {pieces front back : List (List Char)}

def AllWords (pieces : List (List Char)) : Prop := ∀ piece ∈ pieces, isWord piece = true

theorem word_facts {piece : List Char} (word : isWord piece = true) :
    piece ≠ [] ∧ ∀ c ∈ piece, isLowerHex c = true := by
  simp only [isWord, Bool.and_eq_true, decide_eq_true_eq, List.all_eq_true] at word
  exact ⟨List.ne_nil_of_length_pos word.1.1, word.2⟩

theorem word_no_colon {piece : List Char} (word : isWord piece = true) : ':' ∉ piece := by
  intro member
  exact absurd ((word_facts word).2 ':' member) (by decide)

theorem halvesOf_other {c : Char} (other : c ≠ ':') (rest : List Char) :
    halvesOf (c :: rest) = (halvesOf rest).modifyHead (c :: ·) := by
  apply halvesOf.eq_2
  intro _ same _
  exact other same

theorem halvesOf_colon {c : Char} (other : c ≠ ':') (rest : List Char) :
    halvesOf (':' :: c :: rest) = (halvesOf (c :: rest)).modifyHead (':' :: ·) := by
  apply halvesOf.eq_2
  intro _ _ same
  exact other (List.cons.inj same).1

theorem halvesOf_piece {piece : List Char} (plain : ':' ∉ piece) (rest : List Char) :
    halvesOf (piece ++ rest) = (halvesOf rest).modifyHead (piece ++ ·) := by
  induction piece with
  | nil => exact (List.modifyHead_id).symm ▸ rfl
  | cons c piece ih =>
      have other : c ≠ ':' := fun same => plain (same ▸ List.mem_cons_self)
      rw [List.cons_append, halvesOf_other other, ih fun member => plain (List.mem_cons_of_mem _ member),
        List.modifyHead_modifyHead]
      rfl

theorem halvesOf_colonBefore (words : AllWords pieces) (rest : List Char) :
    halvesOf (colonBefore pieces ++ rest) = (halvesOf rest).modifyHead (colonBefore pieces ++ ·) := by
  induction pieces with
  | nil => exact (List.modifyHead_id).symm ▸ rfl
  | cons piece pieces ih =>
      have word := words piece List.mem_cons_self
      have plain := word_no_colon word
      cases piece with
      | nil => exact absurd rfl (word_facts word).1
      | cons c piece =>
          have other : c ≠ ':' := fun same => plain (same ▸ List.mem_cons_self)
          have shape : colonBefore ((c :: piece) :: pieces) ++ rest =
              ':' :: c :: (piece ++ (colonBefore pieces ++ rest)) := by
            simp only [colonBefore, List.flatMap_cons, List.cons_append, List.append_assoc]
          rw [shape, halvesOf_colon other, ← List.cons_append, halvesOf_piece plain,
            ih fun piece member => words piece (List.mem_cons_of_mem _ member), List.modifyHead_modifyHead,
            List.modifyHead_modifyHead]
          congr 1
          funext half
          simp only [Function.comp_apply, colonBefore, List.flatMap_cons, List.cons_append, List.append_assoc]

theorem halvesOf_coloned (words : AllWords pieces) (rest : List Char) :
    halvesOf (coloned pieces ++ rest) = (halvesOf rest).modifyHead (coloned pieces ++ ·) := by
  cases pieces with
  | nil => exact (List.modifyHead_id).symm ▸ rfl
  | cons piece pieces =>
      have plain := word_no_colon (words piece List.mem_cons_self)
      rw [coloned_cons, List.append_assoc, halvesOf_piece plain,
        halvesOf_colonBefore fun piece member => words piece (List.mem_cons_of_mem _ member),
        List.modifyHead_modifyHead]
      congr 1
      funext half
      rw [Function.comp_apply, List.append_assoc]

theorem halvesOf_full (words : AllWords pieces) : halvesOf (coloned pieces) = [coloned pieces] := by
  have halves := halvesOf_coloned words []
  rw [List.append_nil] at halves
  rw [halves, halvesOf, List.modifyHead_cons, List.append_nil]

theorem halvesOf_compressed (left : AllWords front) (right : AllWords back) :
    halvesOf (coloned front ++ ':' :: ':' :: coloned back) = [coloned front, coloned back] := by
  rw [halvesOf_coloned left, halvesOf, halvesOf_full right, List.modifyHead_cons, List.append_nil]

theorem groupsOf_coloned (words : AllWords pieces) : groupsOf (coloned pieces) = pieces := by
  cases pieces with
  | nil => rfl
  | cons piece pieces =>
      have filled : coloned (piece :: pieces) ≠ [] := by
        rw [coloned_cons]
        exact List.append_ne_nil_of_left_ne_nil (word_facts (words piece List.mem_cons_self)).1 _
      rw [groupsOf, if_neg (by simpa using filled), coloned,
        List.splitOn_intercalate ':' (fun piece member => word_no_colon (words piece member)) (List.cons_ne_nil _ _)]

theorem expanded_words (words : AllWords pieces) (eight : pieces.length = 8) :
    ¬(pieces.length ≠ 8 ∨ pieces.any (!isWord ·) = true) := by
  rw [not_or, not_not, List.any_eq_true]
  refine ⟨eight, ?_⟩
  rintro ⟨piece, member, refused⟩
  rw [words piece member] at refused
  cases refused

theorem expanded_full (words : AllWords pieces) (eight : pieces.length = 8) :
    expanded (coloned pieces) = some pieces := by
  rw [expanded]
  simp only [halvesOf_full words, List.length_singleton, List.getD_cons_zero, groupsOf_coloned words, eight]
  have missing : ((8 : Int) - (8 : Nat) - (0 : Nat)).toNat = 0 := by decide
  simp only [List.length_nil, List.append_nil, Nat.reduceEqDiff, if_false, missing, List.replicate_zero]
  rw [if_neg (by decide), if_neg (by decide)]
  exact if_neg (expanded_words words eight)

theorem expanded_compressed (left : AllWords front) (right : AllWords back)
    (sized : front.length + back.length ≤ 7) :
    expanded (coloned front ++ ':' :: ':' :: coloned back) =
      some (front ++ List.replicate (8 - (front.length + back.length)) ['0'] ++ back) := by
  have missing : ((8 : Int) - front.length - back.length).toNat = 8 - (front.length + back.length) := by omega
  have words : AllWords (front ++ List.replicate (8 - (front.length + back.length)) ['0'] ++ back) := by
    intro piece member
    simp only [List.mem_append, List.mem_replicate] at member
    rcases member with (here | ⟨-, zero⟩) | here
    · exact left piece here
    · exact zero ▸ rfl
    · exact right piece here
  have eight : (front ++ List.replicate (8 - (front.length + back.length)) ['0'] ++ back).length = 8 := by
    simp only [List.length_append, List.length_replicate]
    omega
  rw [expanded]
  simp only [halvesOf_compressed left right, List.length_cons, List.length_nil, List.getD_cons_zero,
    List.getD_cons_succ, groupsOf_coloned left, groupsOf_coloned right, Nat.zero_add, Nat.reduceAdd, if_true]
  rw [if_neg (by decide), if_neg (by omega), missing]
  exact if_neg (expanded_words words eight)

end Compressed

section Sources

theorem coloned_lowered (pieces : List (List Char)) :
    (coloned pieces).map Char.toLower = coloned (pieces.map (List.map Char.toLower)) := by
  cases pieces with
  | nil => rfl
  | cons piece rest =>
      rw [List.map_cons, coloned_cons, coloned_cons, List.map_append, colonBefore, colonBefore, List.map_flatMap,
        List.flatMap_map]
      rfl

namespace HexGroup

def lowered (group : HexGroup) : List Char := group.digits.map Char.toLower

theorem word (group : HexGroup) : isWord group.lowered = true := by
  have given := List.length_pos_of_ne_nil group.given
  have short := group.short
  simp only [isWord, lowered, List.length_map, Bool.and_eq_true, decide_eq_true_eq, List.all_eq_true, List.mem_map]
  refine ⟨⟨given, short⟩, ?_⟩
  rintro c ⟨original, member, rfl⟩
  exact (hex_facts original (group.hex original member)).2.2.1

theorem ofHex_lowered (group : HexGroup) : ofHex group.lowered = ofHex group.digits := by
  rw [ofHex, ofHex, lowered, List.map_map]
  congr 1
  apply List.map_congr_left
  intro c member
  exact (hex_facts c (group.hex c member)).2.2.2.1

theorem ofHex_lt (group : HexGroup) : ofHex group.digits < 2 ^ 16 := by
  have small : ∀ digit ∈ group.digits.map nibble, digit < 16 := by
    intro digit member
    obtain ⟨c, within, rfl⟩ := List.mem_map.mp member
    exact (hex_facts c (group.hex c within)).2.2.2.2
  have bound := ofWords_lt (group.digits.map nibble) small
  rw [List.length_map] at bound
  calc ofHex group.digits < 16 ^ group.digits.length := bound
    _ ≤ 16 ^ 4 := Nat.pow_le_pow_right (by decide) group.short

end HexGroup

/-- The words of a dotted tail, as `undotted` writes them. -/
def hexTail (dotted : Option Ipv4) : List (List Char) := (tailWords dotted).map (Nat.toDigits 16)

theorem tailWords_lt (dotted : Option Ipv4) : ∀ word ∈ tailWords dotted, word < 2 ^ 16 := by
  cases dotted with
  | none => exact nofun
  | some tail =>
      have bound := tail.bits_lt
      intro word member
      simp only [tailWords, Option.toList_some, List.flatMap_singleton, List.mem_cons, List.not_mem_nil,
        or_false] at member
      omega

theorem isWord_numeral {number : Nat} (small : number < 2 ^ 16) : isWord (Nat.toDigits 16 number) = true := by
  have given : 0 < (Nat.toDigits 16 number).length := Nat.length_toDigits_pos
  have short : (Nat.toDigits 16 number).length ≤ 4 := (Nat.length_toDigits_le_iff (by decide) (by decide)).mpr small
  simp only [isWord, Bool.and_eq_true, decide_eq_true_eq, List.all_eq_true]
  exact ⟨⟨given, short⟩, hex_digit number⟩

theorem hexTail_words (dotted : Option Ipv4) : AllWords (hexTail dotted) := by
  intro piece member
  obtain ⟨word, within, rfl⟩ := List.mem_map.mp member
  exact isWord_numeral (tailWords_lt dotted word within)

theorem ofHex_hexTail (dotted : Option Ipv4) : (hexTail dotted).map ofHex = tailWords dotted := by
  rw [hexTail, List.map_map]
  apply List.map_id''
  exact ofHex_toDigits

theorem lowered_words (groups : List HexGroup) : AllWords (groups.map HexGroup.lowered) := by
  intro piece member
  obtain ⟨group, -, rfl⟩ := List.mem_map.mp member
  exact group.word

theorem ofHex_lowered (groups : List HexGroup) :
    (groups.map HexGroup.lowered).map ofHex = groups.map (ofHex ·.digits) := by
  rw [List.map_map]
  exact List.map_congr_left fun group _ => group.ofHex_lowered

theorem pieces_lowered (groups : List HexGroup) (dotted : Option Ipv4) :
    (groups.map HexGroup.digits ++ dotted.toList.map Ipv4.text).map (List.map Char.toLower) =
      groups.map HexGroup.lowered ++ dotted.toList.map Ipv4.text := by
  rw [List.map_append, List.map_map, List.map_map]
  congr 1
  exact List.map_congr_left fun tail _ => tail.lowered

variable {isIP : List Char → Nat}

theorem undotted_pieces (answers : ByGrammar isIP) (head : List Char) {pieces : List (List Char)}
    (words : AllWords pieces) (dotted : Option Ipv4) (given : pieces ++ dotted.toList.map Ipv4.text ≠ []) :
    undotted isIP (head ++ colonBefore (pieces ++ dotted.toList.map Ipv4.text)) =
      some (head ++ colonBefore (pieces ++ hexTail dotted)) := by
  cases dotted with
  | none =>
      rw [Option.toList_none, List.map_nil, List.append_nil] at given ⊢
      have whole : pieces ++ hexTail none = pieces := List.append_nil _
      obtain ⟨before, last, rfl⟩ := (List.eq_nil_or_concat pieces).resolve_left given
      rw [List.concat_eq_append] at words whole ⊢
      have word := words last (List.mem_append_right _ (List.mem_singleton_self _))
      have dotless : '.' ∉ last := fun dot => absurd ((word_facts word).2 '.' dot) (by decide)
      have shape : head ++ colonBefore (before ++ [last]) = (head ++ colonBefore before) ++ ':' :: last := by
        rw [colonBefore_append, colonBefore_ne (List.cons_ne_nil last []), coloned, List.intercalate_singleton,
          List.append_assoc]
      rw [whole, shape]
      exact undotted_plain isIP _ last (word_no_colon word) dotless
  | some tail =>
      have shape : head ++ colonBefore (pieces ++ (some tail).toList.map Ipv4.text) =
          (head ++ colonBefore pieces) ++ ':' :: tail.text := by
        rw [colonBefore_append, ← List.append_assoc]
        simp only [Option.toList_some, List.map_singleton, colonBefore, List.flatMap_singleton]
      rw [shape, undotted_dotted answers, hexTail, colonBefore_append, List.append_assoc]

namespace Ipv6

/-- The pieces of the text in lower case, without dots: before `::`, and after it. -/
def source : Ipv6 → List Char
  | full groups dotted _ => coloned (groups.map HexGroup.lowered ++ hexTail dotted)
  | compressed front back dotted _ =>
      coloned (front.map HexGroup.lowered) ++ ':' :: ':' :: coloned (back.map HexGroup.lowered ++ hexTail dotted)

theorem tailWords_length_le (dotted : Option Ipv4) : (tailWords dotted).length ≤ 2 := by
  cases dotted with
  | none => exact Nat.zero_le _
  | some _ => exact Nat.le_refl _

theorem undotted_text (answers : ByGrammar isIP) (address : Ipv6) :
    undotted isIP (address.text.map Char.toLower) = some address.source := by
  cases address with
  | full groups dotted sized =>
      rw [text, coloned_lowered, pieces_lowered, source]
      have few := tailWords_length_le dotted
      match groups, sized with
      | [], sized => simp only [List.length_nil] at sized; omega
      | [_], sized => simp only [List.length_singleton] at sized; omega
      | first :: second :: rest, _ =>
          have given : (second :: rest).map HexGroup.lowered ++ dotted.toList.map Ipv4.text ≠ [] :=
            List.cons_ne_nil _ _
          rw [List.map_cons, List.cons_append, List.cons_append, coloned_cons, coloned_cons]
          exact undotted_pieces answers _ (lowered_words _) dotted given
  | compressed front back dotted sized =>
      rw [text, List.map_append, List.map_cons, List.map_cons, coloned_lowered, coloned_lowered,
        pieces_lowered, source]
      have lowered : (front.map HexGroup.digits).map (List.map Char.toLower) = front.map HexGroup.lowered := by
        rw [List.map_map]
        rfl
      rw [lowered]
      have colon : Char.toLower ':' = ':' := rfl
      rw [colon]
      by_cases given : back.map HexGroup.lowered ++ dotted.toList.map Ipv4.text = []
      · obtain ⟨noBack, noTail⟩ := List.append_eq_nil_iff.mp given
        have none : dotted = none := by
          cases dotted with
          | none => rfl
          | some tail => cases noTail
        subst none
        rw [noBack]
        have shape : coloned (front.map HexGroup.lowered) ++ ':' :: ':' :: coloned [] =
            (coloned (front.map HexGroup.lowered) ++ [':']) ++ ':' :: [] := by
          rw [List.append_assoc]
          rfl
        exact shape ▸ undotted_plain isIP _ [] (List.not_mem_nil) (List.not_mem_nil)
      · have hexGiven : back.map HexGroup.lowered ++ hexTail dotted ≠ [] := by
          intro none
          obtain ⟨noBack, noTail⟩ := List.append_eq_nil_iff.mp none
          apply given
          rw [noBack, List.nil_append]
          cases dotted with
          | none => rfl
          | some tail => cases noTail
        have pieces := undotted_pieces answers (coloned (front.map HexGroup.lowered) ++ [':']) (lowered_words back)
          dotted given
        rw [colonBefore_ne given, colonBefore_ne hexGiven, List.append_assoc, List.append_assoc] at pieces
        exact pieces

theorem expanded_source (address : Ipv6) :
    ∃ words, expanded address.source = some words ∧ words.map ofHex = address.words := by
  cases address with
  | full groups dotted sized =>
      have all : AllWords (groups.map HexGroup.lowered ++ hexTail dotted) := by
        intro piece member
        exact (List.mem_append.mp member).elim (lowered_words groups piece) (hexTail_words dotted piece)
      refine ⟨_, expanded_full all ?_, ?_⟩
      · rw [List.length_append, List.length_map, hexTail, List.length_map]
        exact sized
      · rw [List.map_append, ofHex_lowered, ofHex_hexTail, words]
  | compressed front back dotted sized =>
      have all : AllWords (back.map HexGroup.lowered ++ hexTail dotted) := by
        intro piece member
        exact (List.mem_append.mp member).elim (lowered_words back piece) (hexTail_words dotted piece)
      have lengths : (front.map HexGroup.lowered).length + (back.map HexGroup.lowered ++ hexTail dotted).length =
          front.length + back.length + (tailWords dotted).length := by
        rw [List.length_append, List.length_map, List.length_map, hexTail, List.length_map]
        omega
      refine ⟨_, expanded_compressed (lowered_words front) all (lengths ▸ sized), ?_⟩
      rw [List.map_append, List.map_append, List.map_append, ofHex_lowered, ofHex_lowered, ofHex_hexTail, lengths,
        List.map_replicate, words]
      rfl

theorem words_length (address : Ipv6) : address.words.length = 8 := by
  cases address with
  | full groups dotted sized =>
      rw [words, List.length_append, List.length_map]
      exact sized
  | compressed front back dotted sized =>
      simp only [words, List.length_append, List.length_map, List.length_replicate]
      omega

theorem words_lt (address : Ipv6) : ∀ word ∈ address.words, word < 2 ^ 16 := by
  have group (groups : List HexGroup) : ∀ word ∈ groups.map (ofHex ·.digits), word < 2 ^ 16 := by
    intro word member
    obtain ⟨found, -, rfl⟩ := List.mem_map.mp member
    exact found.ofHex_lt
  cases address with
  | full groups dotted sized =>
      intro word member
      exact (List.mem_append.mp member).elim (group groups word) (tailWords_lt dotted word)
  | compressed front back dotted sized =>
      intro word member
      simp only [words, List.mem_append, List.mem_replicate] at member
      rcases member with (here | ⟨-, zero⟩) | here | here
      · exact group front word here
      · exact zero ▸ Nat.two_pow_pos 16
      · exact group back word here
      · exact tailWords_lt dotted word here

theorem bits_lt (address : Ipv6) : address.bits < 2 ^ 128 := by
  have bound := ofWords_lt address.words address.words_lt
  rw [address.words_length] at bound
  exact bound

theorem words_bits (address : Ipv6) : toWords (2 ^ 16) 8 address.bits = address.words := by
  rw [← address.words_length]
  exact toWords_ofWords (by decide) address.words address.words_lt

end Ipv6

end Sources

end PublicLighting.ClientAddress
