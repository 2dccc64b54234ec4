import PublicLighting.Foundations.Doubles

/-! JSON values, `JSON.stringify` without white space and `JSON.parse`. -/

namespace PublicLighting.Foundations

open Doubles

inductive Json
  | null
  | bool (value : Bool)
  | number (value : ℚ)
  | string (value : String)
  | array (items : List Json)
  | object (members : List (String × Json))

namespace Json

/-- A property of an object: the last member of that name. -/
def get? (key : String) : Json → Option Json
  | object members => (members.reverse.find? fun member => member.1 = key).map (·.2)
  | _ => none

/-! The UTF-16 units of a text. A lone surrogate stands for no character of a text. -/

def unitsOf (c : Char) : List Nat :=
  if c.toNat < 0x10000 then [c.toNat]
  else [0xD800 + (c.toNat - 0x10000) / 0x400, 0xDC00 + (c.toNat - 0x10000) % 0x400]

def isHigh (unit : Nat) : Bool := 0xD800 ≤ unit && unit < 0xDC00

def isLow (unit : Nat) : Bool := 0xDC00 ≤ unit && unit < 0xE000

def ofUnit (unit : Nat) : Char := if isHigh unit || isLow unit then '\uFFFD' else Char.ofNat unit

def ofUnits : List Nat → List Char
  | [] => []
  | [unit] => [ofUnit unit]
  | high :: low :: units =>
      if isHigh high && isLow low then
        Char.ofNat (0x10000 + (high - 0xD800) * 0x400 + (low - 0xDC00)) :: ofUnits units
      else ofUnit high :: ofUnits (low :: units)

/-! Texts. -/

/-- The letter that stands for a character after a backslash, if there is one. -/
def shortEscape (c : Char) : Option Char :=
  if c = '"' then some '"'
  else if c = '\\' then some '\\'
  else if c.toNat = 0x08 then some 'b'
  else if c.toNat = 0x0C then some 'f'
  else if c.toNat = 0x0A then some 'n'
  else if c.toNat = 0x0D then some 'r'
  else if c.toNat = 0x09 then some 't'
  else none

def escaped (c : Char) : List Char :=
  match shortEscape c with
  | some letter => ['\\', letter]
  | none =>
      if c.toNat < 0x20 then ['\\', 'u', '0', '0', Nat.digitChar (c.toNat / 16), Nat.digitChar (c.toNat % 16)]
      else [c]

def quoted (text : String) : List Char := '"' :: text.toList.flatMap escaped ++ ['"']

def hexValue (c : Char) : Option Nat :=
  if c.isDigit then some (c.toNat - 48)
  else if 'a' ≤ c ∧ c ≤ 'f' then some (c.toNat - 87)
  else if 'A' ≤ c ∧ c ≤ 'F' then some (c.toNat - 55)
  else none

/-- The unit that a letter after a backslash stands for. -/
def unescaped (letter : Char) : Option Nat :=
  if letter = '"' then some 0x22
  else if letter = '\\' then some 0x5C
  else if letter = '/' then some 0x2F
  else if letter = 'b' then some 0x08
  else if letter = 'f' then some 0x0C
  else if letter = 'n' then some 0x0A
  else if letter = 'r' then some 0x0D
  else if letter = 't' then some 0x09
  else none

/-- Behind the opening quotation mark: the units up to the closing one, and what follows it. -/
def readUnits : List Char → Option (List Nat × List Char)
  | [] => none
  | c :: text =>
      if c = '"' then some ([], text)
      else if c = '\\' then
        match text with
        | 'u' :: a :: b :: c :: d :: rest => do
            let a ← hexValue a
            let b ← hexValue b
            let c ← hexValue c
            let d ← hexValue d
            let (units, rest) ← readUnits rest
            return ((((a * 16 + b) * 16 + c) * 16 + d) :: units, rest)
        | letter :: rest => do
            let unit ← unescaped letter
            let (units, rest) ← readUnits rest
            return (unit :: units, rest)
        | [] => none
      else if c.toNat < 0x20 then none
      else do
        let (units, rest) ← readUnits text
        return (unitsOf c ++ units, rest)

def readText (text : List Char) : Option (String × List Char) :=
  (readUnits text).map fun (units, rest) => (String.ofList (ofUnits units), rest)

/-! Values. -/

mutual

def write : Json → List Char
  | null => ['n', 'u', 'l', 'l']
  | bool true => ['t', 'r', 'u', 'e']
  | bool false => ['f', 'a', 'l', 's', 'e']
  | number value => if |value| < infinity then numberText value else ['n', 'u', 'l', 'l']
  | string value => quoted value
  | array items => '[' :: (writeItems items ++ [']'])
  | object members => '{' :: (writeMembers members ++ ['}'])

def writeItems : List Json → List Char
  | [] => []
  | item :: items =>
      match items with
      | [] => item.write
      | _ :: _ => item.write ++ ',' :: writeItems items

def writeMembers : List (String × Json) → List Char
  | [] => []
  | (key, value) :: members =>
      match members with
      | [] => quoted key ++ ':' :: value.write
      | _ :: _ => quoted key ++ ':' :: (value.write ++ ',' :: writeMembers members)

end

def stringify (json : Json) : String := String.ofList json.write

def isSpace (c : Char) : Bool := c = ' ' || c = '\t' || c = '\n' || c = '\r'

def skip (text : List Char) : List Char := text.dropWhile isSpace

def readWord (word : List Char) (value : Json) (text : List Char) : Option (Json × List Char) :=
  if word.isPrefixOf text then some (value, text.drop word.length) else none

mutual

def readValue : Nat → List Char → Option (Json × List Char)
  | 0, _ => none
  | fuel + 1, text =>
      match skip text with
      | [] => none
      | c :: rest =>
          if c = '{' then
            match skip rest with
            | '}' :: rest => some (object [], rest)
            | rest => (readMembers fuel rest).map fun (members, rest) => (object members, rest)
          else if c = '[' then
            match skip rest with
            | ']' :: rest => some (array [], rest)
            | rest => (readItems fuel rest).map fun (items, rest) => (array items, rest)
          else if c = '"' then (readText rest).map fun (value, rest) => (string value, rest)
          else if c = 't' then readWord ['r', 'u', 'e'] (bool true) rest
          else if c = 'f' then readWord ['a', 'l', 's', 'e'] (bool false) rest
          else if c = 'n' then readWord ['u', 'l', 'l'] null rest
          else (readNumber (c :: rest)).map fun (value, rest) => (number value, rest)

def readItems : Nat → List Char → Option (List Json × List Char)
  | 0, _ => none
  | fuel + 1, text => do
      let (item, rest) ← readValue fuel text
      match skip rest with
      | ',' :: rest =>
          let (items, rest) ← readItems fuel rest
          return (item :: items, rest)
      | ']' :: rest => return ([item], rest)
      | _ => none

def readMembers : Nat → List Char → Option (List (String × Json) × List Char)
  | 0, _ => none
  | fuel + 1, text =>
      match skip text with
      | '"' :: rest => do
          let (key, rest) ← readText rest
          match skip rest with
          | ':' :: rest =>
              let (value, rest) ← readValue fuel rest
              match skip rest with
              | ',' :: rest =>
                  let (members, rest) ← readMembers fuel rest
                  return ((key, value) :: members, rest)
              | '}' :: rest => return ([(key, value)], rest)
              | _ => none
          | _ => none
      | _ => none

end

/-- `JSON.parse`, where `none` is a `SyntaxError`. -/
def parse (text : String) : Option Json :=
  match readValue (text.toList.length + 1) text.toList with
  | some (json, rest) => if skip rest = [] then some json else none
  | none => none

/-! What is written is read back. -/

theorem hexValue_digitChar : ∀ digit < 16, hexValue (Nat.digitChar digit) = some digit := by decide

theorem unitsOf_small {c : Char} (small : c.toNat < 0x10000) : unitsOf c = [c.toNat] := if_pos small

theorem unescaped_shortEscape {c letter : Char} (short : shortEscape c = some letter) :
    letter ≠ 'u' ∧ unescaped letter = some c.toNat ∧ c.toNat < 0x10000 := by
  unfold shortEscape at short
  repeat' split at short
  all_goals
    cases short
    try
      rename_i same
      simp [same, unescaped]

theorem readUnits_short {letter : Char} {unit : Nat} (other : letter ≠ 'u') (known : unescaped letter = some unit)
    (text : List Char) :
    readUnits ('\\' :: letter :: text) = (readUnits text).map fun (units, rest) => (unit :: units, rest) := by
  rw [readUnits, if_neg (by decide), if_pos rfl, known]
  · cases readUnits text <;> rfl
  · intro a b c d rest same
    exact absurd same other

theorem readUnits_control {c : Char} (control : c.toNat < 0x20) (text : List Char) :
    readUnits ('\\' :: 'u' :: '0' :: '0' :: Nat.digitChar (c.toNat / 16) :: Nat.digitChar (c.toNat % 16) :: text) =
      (readUnits text).map fun (units, rest) => (c.toNat :: units, rest) := by
  have zero : hexValue '0' = some 0 := rfl
  have value : (((0 * 16 + 0) * 16 + c.toNat / 16) * 16 + c.toNat % 16) = c.toNat := by omega
  rw [readUnits, if_neg (by decide), if_pos rfl]
  simp only [zero, hexValue_digitChar _ (show c.toNat / 16 < 16 by omega),
    hexValue_digitChar _ (show c.toNat % 16 < 16 by omega), Option.bind_eq_bind, Option.bind_some, value]
  cases readUnits text <;> rfl

theorem readUnits_plain {c : Char} (plain : shortEscape c = none) (printable : ¬ c.toNat < 0x20) (text : List Char) :
    readUnits (c :: text) = (readUnits text).map fun (units, rest) => (unitsOf c ++ units, rest) := by
  have quote : c ≠ '"' := by
    intro same
    rw [same] at plain
    cases plain
  have slash : c ≠ '\\' := by
    intro same
    rw [same] at plain
    cases plain
  rw [readUnits.eq_def]
  simp only [quote, slash, printable, if_false]
  cases readUnits text <;> rfl

theorem readUnits_escaped (c : Char) (text : List Char) :
    readUnits (escaped c ++ text) = (readUnits text).map fun (units, rest) => (unitsOf c ++ units, rest) := by
  unfold escaped
  split
  · rename_i letter short
    have known := unescaped_shortEscape short
    rw [unitsOf_small known.2.2]
    exact readUnits_short known.1 known.2.1 text
  · rename_i plain
    split
    · rename_i control
      rw [unitsOf_small (by omega)]
      exact readUnits_control control text
    · rename_i printable
      exact readUnits_plain plain printable text

theorem readUnits_quoted (text : List Char) (rest : List Char) :
    readUnits (text.flatMap escaped ++ '"' :: rest) = some (text.flatMap unitsOf, rest) := by
  induction text with
  | nil =>
      rw [readUnits.eq_def]
      rfl
  | cons c text ih =>
      rw [List.flatMap_cons, List.append_assoc, readUnits_escaped, ih]
      rfl

theorem ofUnits_unitsOf (c : Char) (units : List Nat) : ofUnits (unitsOf c ++ units) = c :: ofUnits units := by
  have valid : c.toNat < 0xD800 ∨ (0xDFFF < c.toNat ∧ c.toNat < 0x110000) := c.valid
  have same : Char.ofNat c.toNat = c := Char.ofNat_toNat c
  unfold unitsOf
  split
  · have high : isHigh c.toNat = false := by
      simp [isHigh]
      omega
    have low : isLow c.toNat = false := by
      simp [isLow]
      omega
    have unit : ofUnit c.toNat = c := by
      simp [ofUnit, high, low, same]
    cases units with
    | nil => simp [ofUnits, unit]
    | cons next units => simp [ofUnits, high, unit]
  · have high : isHigh (0xD800 + (c.toNat - 0x10000) / 0x400) = true := by
      simp [isHigh]
      omega
    have low : isLow (0xDC00 + (c.toNat - 0x10000) % 0x400) = true := by
      simp [isLow]
      omega
    have whole : 0x10000 + (0xD800 + (c.toNat - 0x10000) / 0x400 - 0xD800) * 0x400 +
        (0xDC00 + (c.toNat - 0x10000) % 0x400 - 0xDC00) = c.toNat := by omega
    rw [List.cons_append, List.singleton_append, ofUnits, high, low, whole, same]
    rfl

theorem ofUnits_flatMap (text : List Char) : ofUnits (text.flatMap unitsOf) = text := by
  induction text with
  | nil => rfl
  | cons c text ih => rw [List.flatMap_cons, ofUnits_unitsOf, ih]

theorem readText_quoted (value : String) (rest : List Char) :
    readText (value.toList.flatMap escaped ++ '"' :: rest) = some (value, rest) := by
  rw [readText, readUnits_quoted, Option.map_some]
  simp only [ofUnits_flatMap, String.ofList_toList]

mutual

def Every (p : ℚ → Prop) : Json → Prop
  | number value => p value
  | array items => EveryItem p items
  | object members => EveryMember p members
  | _ => True

def EveryItem (p : ℚ → Prop) : List Json → Prop
  | [] => True
  | item :: items => item.Every p ∧ EveryItem p items

def EveryMember (p : ℚ → Prop) : List (String × Json) → Prop
  | [] => True
  | (_, value) :: members => value.Every p ∧ EveryMember p members

end

mutual

/-- `JSON.stringify` writes `null` for an infinity. -/
def settled : Json → Json
  | number value => if |value| < infinity then number value else null
  | array items => array (settledItems items)
  | object members => object (settledMembers members)
  | json => json

def settledItems : List Json → List Json
  | [] => []
  | item :: items => item.settled :: settledItems items

def settledMembers : List (String × Json) → List (String × Json)
  | [] => []
  | (key, value) :: members => (key, value.settled) :: settledMembers members

end

/-- A value that `JSON.stringify` writes as it is. -/
def Finite (json : Json) : Prop := json.Every IsDouble

def Follows (rest : List Char) : Prop := ∀ c, rest.head? = some c → c = ',' ∨ c = ']' ∨ c = '}'

theorem follows_ends {rest : List Char} (follows : Follows rest) : Ends rest := by
  intro c first
  rcases follows c first with same | same | same <;> subst same <;> decide

theorem skip_of {c : Char} (text : List Char) (plain : isSpace c = false) : skip (c :: text) = c :: text := by
  simp [skip, plain]

theorem readNumber_head {text rest : List Char} {q : ℚ} (read : readNumber text = some (q, rest)) :
    ∃ c tail, text = c :: tail ∧ (c = '-' ∨ c.isDigit = true) := by
  cases text with
  | nil => cases read
  | cons c tail =>
      refine ⟨c, tail, rfl, ?_⟩
      by_cases minus : c = '-'
      · exact Or.inl minus
      · right
        cases digit : c.isDigit with
        | true => rfl
        | false =>
            have nothing : readMagnitude (c :: tail) = none := by
              simp [readMagnitude, takeDigits, digit]
            have unsigned : readNumber (c :: tail) = readMagnitude (c :: tail) := by
              unfold readNumber
              split
              · rename_i same
                cases same
                exact absurd rfl minus
              · rfl
            rw [unsigned, nothing] at read
            cases read

theorem number_head {q : ℚ} (double : IsDouble q) :
    ∃ c tail, numberText q = c :: tail ∧ (c = '-' ∨ c.isDigit = true) := by
  have read : readNumber (numberText q ++ []) = some (q, []) := readNumber_text double nofun
  rw [List.append_nil] at read
  exact readNumber_head read

theorem number_other {c x : Char} (kind : c = '-' ∨ c.isDigit = true)
    (other : x.toNat < 45 ∨ 45 < x.toNat ∧ x.toNat < 48 ∨ 57 < x.toNat) : c ≠ x := by
  intro same
  subst same
  rcases kind with minus | digit
  · subst minus
    revert other
    decide
  · have range := DecimalText.digit_range digit
    omega

theorem number_plain {c : Char} (kind : c = '-' ∨ c.isDigit = true) : isSpace c = false := by
  have other : ∀ x ∈ [' ', '\t', '\n', '\r'], c ≠ x := by
    intro x member
    apply number_other kind
    revert member x
    simp
  simp only [List.mem_cons, List.not_mem_nil, or_false, forall_eq_or_imp, forall_eq] at other
  simp [isSpace, other]

/-- A value begins with no white space, and with nothing that ends another one. -/
theorem write_head (json : Json) (numeric : json.Every IsNumber) :
    ∃ c tail, json.write = c :: tail ∧ isSpace c = false ∧ c ≠ ']' := by
  cases json with
  | null => exact ⟨'n', _, rfl, rfl, by decide⟩
  | bool value => cases value <;> exact ⟨_, _, rfl, rfl, by decide⟩
  | number value =>
      by_cases finite : |value| < infinity
      · obtain ⟨c, tail, same, kind⟩ := number_head ⟨finite, numeric⟩
        refine ⟨c, tail, ?_, number_plain kind, number_other kind (by decide)⟩
        rw [write, if_pos finite, same]
      · exact ⟨'n', _, if_neg finite, rfl, by decide⟩
  | string value => exact ⟨'"', _, rfl, rfl, by decide⟩
  | array items => exact ⟨'[', _, rfl, rfl, by decide⟩
  | object members => exact ⟨'{', _, rfl, rfl, by decide⟩

theorem items_head (item : Json) (items : List Json) (numeric : item.Every IsNumber) (rest : List Char) :
    ∃ c tail, writeItems (item :: items) ++ rest = c :: tail ∧ isSpace c = false ∧ c ≠ ']' := by
  obtain ⟨c, tail, same, plain⟩ := write_head item numeric
  cases items with
  | nil => exact ⟨c, tail ++ rest, by rw [writeItems, same, List.cons_append], plain⟩
  | cons next items =>
      refine ⟨c, tail ++ ',' :: (writeItems (next :: items) ++ rest), ?_, plain⟩
      rw [writeItems, same, List.append_assoc, List.cons_append, List.cons_append]

theorem members_head (member : String × Json) (members : List (String × Json)) (rest : List Char) :
    ∃ text, writeMembers (member :: members) ++ rest = '"' :: text := by
  cases members with
  | nil => exact ⟨_, by rw [writeMembers, quoted, List.cons_append, List.cons_append, List.cons_append]⟩
  | cons next members =>
      exact ⟨_, by rw [writeMembers, quoted, List.cons_append, List.cons_append, List.cons_append]⟩

section Values

variable {fuel : Nat} {rest : List Char}

theorem readValue_null : readValue (fuel + 1) (null.write ++ rest) = some (null, rest) := by
  simp [readValue, write, skip_of, isSpace, readWord]

theorem readValue_bool (value : Bool) :
    readValue (fuel + 1) ((bool value).write ++ rest) = some (bool value, rest) := by
  cases value <;> simp [readValue, write, skip_of, isSpace, readWord]

theorem readValue_string (value : String) :
    readValue (fuel + 1) ((string value).write ++ rest) = some (string value, rest) := by
  simp [readValue, write, quoted, skip_of, isSpace, readText_quoted]

theorem readValue_double {value : ℚ} (double : IsDouble value) (follows : Follows rest) :
    readValue (fuel + 1) ((number value).write ++ rest) = some (number value, rest) := by
  have read := readNumber_text double (follows_ends follows)
  obtain ⟨c, tail, same, kind⟩ := number_head double
  rw [write, if_pos double.1]
  rw [same, List.cons_append] at read ⊢
  have other : ∀ x ∈ ['{', '[', '"', 't', 'f', 'n'], c ≠ x := by
    intro x member
    apply number_other kind
    revert member x
    simp
  simp only [List.mem_cons, List.not_mem_nil, or_false, forall_eq_or_imp, forall_eq] at other
  simp [readValue, skip_of _ (number_plain kind), other, read]

theorem readValue_number {value : ℚ} (numeric : IsNumber value) (follows : Follows rest) :
    readValue (fuel + 1) ((number value).write ++ rest) = some ((number value).settled, rest) := by
  by_cases finite : |value| < infinity
  · rw [settled, if_pos finite]
    exact readValue_double ⟨finite, numeric⟩ follows
  · rw [settled, if_neg finite, write, if_neg finite]
    exact readValue_null

theorem readValue_items {items : List Json} {text : List Char} (first : ∃ c tail, text = c :: tail ∧
    isSpace c = false ∧ c ≠ ']') (read : readItems fuel text = some (items, rest)) :
    readValue (fuel + 1) ('[' :: text) = some (array items, rest) := by
  obtain ⟨c, tail, same, plain, other⟩ := first
  subst same
  have open_bracket : isSpace '[' = false := rfl
  rw [readValue, skip_of _ open_bracket]
  simp only [skip_of _ plain]
  rw [if_neg (by decide), if_pos trivial]
  split
  · rename_i same
    cases same
    exact absurd rfl other
  · rw [read, Option.map_some]

theorem readValue_members {members : List (String × Json)} {text : List Char}
    (read : readMembers fuel ('"' :: text) = some (members, rest)) :
    readValue (fuel + 1) ('{' :: '"' :: text) = some (object members, rest) := by
  simp [readValue, skip_of, isSpace, read]

end Values

mutual

theorem readValue_write (json : Json) (numeric : json.Every IsNumber) (fuel : Nat)
    (enough : json.write.length ≤ fuel)
    (rest : List Char) (follows : Follows rest) :
      readValue fuel (json.write ++ rest) = some (json.settled, rest) := by
  obtain ⟨fuel, same⟩ : ∃ less, fuel = less + 1 := by
    obtain ⟨c, tail, written, _⟩ := write_head json numeric
    rw [written, List.length_cons] at enough
    exact ⟨fuel - 1, by omega⟩
  subst same
  cases json with
  | null => exact readValue_null
  | bool value => exact readValue_bool value
  | number value => exact readValue_number numeric follows
  | string value => exact readValue_string value
  | array items =>
      cases items with
      | nil => simp [readValue, write, writeItems, skip_of, isSpace, settled, settledItems]
      | cons item items =>
          rw [write, List.length_cons, List.length_append, List.length_singleton] at enough
          have read := readItems_write (item :: items) (List.cons_ne_nil _ _) numeric fuel (by omega) rest
          rw [write, List.cons_append, List.append_assoc, List.singleton_append]
          exact readValue_items (items_head item items numeric.1 _) read
  | object members =>
      cases members with
      | nil => simp [readValue, write, writeMembers, skip_of, isSpace, settled, settledMembers]
      | cons member members =>
          rw [write, List.length_cons, List.length_append, List.length_singleton] at enough
          have read := readMembers_write (member :: members) (List.cons_ne_nil _ _) numeric fuel (by omega) rest
          obtain ⟨text, quote⟩ := members_head member members ('}' :: rest)
          rw [write, List.cons_append, List.append_assoc, List.singleton_append, quote]
          rw [quote] at read
          exact readValue_members read

theorem readItems_write (items : List Json) (given : items ≠ []) (numeric : EveryItem IsNumber items) (fuel : Nat)
    (enough : (writeItems items).length < fuel) (rest : List Char) :
    readItems fuel (writeItems items ++ ']' :: rest) = some (settledItems items, rest) := by
  obtain ⟨fuel, same⟩ : ∃ less, fuel = less + 1 := ⟨fuel - 1, by omega⟩
  subst same
  cases items with
  | nil => exact absurd rfl given
  | cons item items =>
      cases items with
      | nil =>
          rw [writeItems] at enough ⊢
          have read := readValue_write item numeric.1 fuel (by omega) (']' :: rest) (by simp [Follows])
          simp [readItems, read, skip_of, isSpace, settledItems]
      | cons next items =>
          rw [writeItems, List.length_append, List.length_cons] at enough
          have read := readValue_write item numeric.1 fuel (by omega)
            (',' :: (writeItems (next :: items) ++ ']' :: rest)) (by simp [Follows])
          have others := readItems_write (next :: items) (List.cons_ne_nil _ _) numeric.2 fuel (by omega) rest
          rw [writeItems]
          simp [readItems, read, others, skip_of, isSpace, settledItems]

theorem readMembers_write (members : List (String × Json)) (given : members ≠ [])
    (numeric : EveryMember IsNumber members)
    (fuel : Nat) (enough : (writeMembers members).length < fuel) (rest : List Char) :
    readMembers fuel (writeMembers members ++ '}' :: rest) = some (settledMembers members, rest) := by
  obtain ⟨fuel, same⟩ : ∃ less, fuel = less + 1 := ⟨fuel - 1, by omega⟩
  subst same
  cases members with
  | nil => exact absurd rfl given
  | cons member members =>
      cases member with
      | mk key value =>
          cases members with
          | nil =>
              rw [writeMembers, List.length_append, List.length_cons] at enough
              have read := readValue_write value numeric.1 fuel (by omega) ('}' :: rest) (by simp [Follows])
              rw [writeMembers]
              simp [readMembers, quoted, readText_quoted, read, skip_of, isSpace, settledMembers]
          | cons next members =>
              rw [writeMembers, List.length_append, List.length_cons, List.length_append, List.length_cons] at enough
              have read := readValue_write value numeric.1 fuel (by omega)
                (',' :: (writeMembers (next :: members) ++ '}' :: rest)) (by simp [Follows])
              have others := readMembers_write (next :: members)
                (List.cons_ne_nil _ _) numeric.2 fuel (by omega) rest
              rw [writeMembers]
              simp [readMembers, quoted, readText_quoted, read, others, skip_of, isSpace, settledMembers]

end

theorem parse_numeric {json : Json} (numeric : json.Every IsNumber) :
    parse (stringify json) = some json.settled := by
  have read := readValue_write json numeric (json.write.length + 1) (Nat.le_succ _) [] nofun
  rw [List.append_nil] at read
  rw [parse, stringify, String.toList_ofList, read]
  rfl

mutual

theorem settled_finite (json : Json) (finite : json.Every IsDouble) :
    json.settled = json ∧ json.Every IsNumber := by
  cases json with
  | number value => exact ⟨if_pos finite.1, finite.2⟩
  | array items =>
      have kept := settledItems_finite items finite
      exact ⟨congrArg array kept.1, kept.2⟩
  | object members =>
      have kept := settledMembers_finite members finite
      exact ⟨congrArg object kept.1, kept.2⟩
  | _ => exact ⟨rfl, trivial⟩

theorem settledItems_finite (items : List Json) (finite : EveryItem IsDouble items) :
    settledItems items = items ∧ EveryItem IsNumber items := by
  cases items with
  | nil => exact ⟨rfl, trivial⟩
  | cons item items =>
      have first := settled_finite item finite.1
      have others := settledItems_finite items finite.2
      exact ⟨by rw [settledItems, first.1, others.1], first.2, others.2⟩

theorem settledMembers_finite (members : List (String × Json)) (finite : EveryMember IsDouble members) :
    settledMembers members = members ∧ EveryMember IsNumber members := by
  cases members with
  | nil => exact ⟨rfl, trivial⟩
  | cons member members =>
      cases member with
      | mk key value =>
          have first := settled_finite value finite.1
          have others := settledMembers_finite members finite.2
          exact ⟨by rw [settledMembers, first.1, others.1], first.2, others.2⟩

end

theorem finite_settled {json : Json} (finite : json.Finite) : json.settled = json := (settled_finite json finite).1

theorem Finite.numeric {json : Json} (finite : json.Finite) : json.Every IsNumber := (settled_finite json finite).2

theorem parse_stringify {json : Json} (finite : json.Finite) : parse (stringify json) = some json := by
  rw [parse_numeric finite.numeric, finite_settled finite]

/-! Properties of an object. -/

theorem everyItem_iff (p : ℚ → Prop) (items : List Json) : EveryItem p items ↔ ∀ item ∈ items, item.Every p := by
  induction items with
  | nil => simp [EveryItem]
  | cons item items ih => simp [EveryItem, ih]

theorem everyMember_iff (p : ℚ → Prop) (members : List (String × Json)) :
    EveryMember p members ↔ ∀ member ∈ members, member.2.Every p := by
  induction members with
  | nil => simp [EveryMember]
  | cons member members ih => simp [EveryMember, ih]

theorem everyMember_append (p : ℚ → Prop) (front back : List (String × Json)) :
    EveryMember p (front ++ back) ↔ EveryMember p front ∧ EveryMember p back := by
  rw [everyMember_iff, everyMember_iff, everyMember_iff, List.forall_mem_append]

theorem settledMembers_map (members : List (String × Json)) :
    settledMembers members = members.map fun member => (member.1, member.2.settled) := by
  induction members with
  | nil => rfl
  | cons member members ih => rw [List.map_cons, ← ih, settledMembers]

theorem get?_every {p : ℚ → Prop} {json value : Json} {key : String} (every : json.Every p)
    (found : json.get? key = some value) : value.Every p := by
  cases json with
  | object members =>
      obtain ⟨member, first, same⟩ := Option.map_eq_some_iff.mp found
      subst same
      exact (everyMember_iff p members).mp every member (List.mem_reverse.mp (List.mem_of_find?_eq_some first))
  | _ => cases found

theorem get?_settled (json : Json) (key : String) : json.settled.get? key = (json.get? key).map settled := by
  cases json with
  | object members =>
      rw [settled, settledMembers_map, get?, get?, ← List.map_reverse, List.find?_map, Option.map_map,
        Option.map_map]
      rfl
  | number value =>
      rw [settled]
      split <;> rfl
  | _ => rfl

/-! What is read holds doubles and infinities only. -/

theorem readWord_numeric {word text rest : List Char} {value json : Json} (plain : value.Every IsNumber)
    (read : readWord word value text = some (json, rest)) : json.Every IsNumber := by
  unfold readWord at read
  split at read
  · cases read
    exact plain
  · cases read

/-- At one level of fuel, what the three readers give. -/
structure Numeric (fuel : Nat) : Prop where
  value : ∀ text json rest, readValue fuel text = some (json, rest) → json.Every IsNumber
  items : ∀ text items rest, readItems fuel text = some (items, rest) → EveryItem IsNumber items
  members : ∀ text members rest, readMembers fuel text = some (members, rest) → EveryMember IsNumber members

theorem value_numeric {fuel : Nat} (inner : Numeric fuel) (text : List Char) (json : Json) (rest : List Char)
    (read : readValue (fuel + 1) text = some (json, rest)) : json.Every IsNumber := by
  rw [readValue] at read
  split at read
  · cases read
  · split_ifs at read
    · split at read
      · cases read
        trivial
      · obtain ⟨answer, inside, same⟩ := Option.map_eq_some_iff.mp read
        cases same
        exact inner.members _ _ _ inside
    · split at read
      · cases read
        trivial
      · obtain ⟨answer, inside, same⟩ := Option.map_eq_some_iff.mp read
        cases same
        exact inner.items _ _ _ inside
    · obtain ⟨answer, _, same⟩ := Option.map_eq_some_iff.mp read
      cases same
      trivial
    · exact readWord_numeric (show (bool true).Every IsNumber from trivial) read
    · exact readWord_numeric (show (bool false).Every IsNumber from trivial) read
    · exact readWord_numeric (show null.Every IsNumber from trivial) read
    · obtain ⟨answer, number, same⟩ := Option.map_eq_some_iff.mp read
      cases same
      exact readNumber_isNumber number

theorem items_numeric {fuel : Nat} (inner : Numeric fuel) (text : List Char) (items : List Json) (rest : List Char)
    (read : readItems (fuel + 1) text = some (items, rest)) : EveryItem IsNumber items := by
  rw [readItems] at read
  obtain ⟨item, first, read⟩ := Option.bind_eq_some_iff.mp read
  have here := inner.value _ _ _ first
  dsimp only at read
  split at read
  · obtain ⟨others, after, read⟩ := Option.bind_eq_some_iff.mp read
    cases read
    exact ⟨here, inner.items _ _ _ after⟩
  · cases read
    exact ⟨here, trivial⟩
  · cases read

theorem members_numeric {fuel : Nat} (inner : Numeric fuel) (text : List Char) (members : List (String × Json))
    (rest : List Char) (read : readMembers (fuel + 1) text = some (members, rest)) :
    EveryMember IsNumber members := by
  rw [readMembers] at read
  split at read
  · obtain ⟨key, _, read⟩ := Option.bind_eq_some_iff.mp read
    dsimp only at read
    split at read
    · obtain ⟨value, first, read⟩ := Option.bind_eq_some_iff.mp read
      have here := inner.value _ _ _ first
      split at read
      · obtain ⟨others, after, read⟩ := Option.bind_eq_some_iff.mp read
        cases read
        exact ⟨here, inner.members _ _ _ after⟩
      · cases read
        exact ⟨here, trivial⟩
      · cases read
    · cases read
  · cases read

theorem numeric_all (fuel : Nat) : Numeric fuel := by
  induction fuel with
  | zero => exact ⟨nofun, nofun, nofun⟩
  | succ fuel inner => exact ⟨value_numeric inner, items_numeric inner, members_numeric inner⟩

theorem parsed_numeric {text : String} {json : Json} (parsed : parse text = some json) : json.Every IsNumber := by
  unfold parse at parsed
  split at parsed
  · rename_i read
    split at parsed
    · cases parsed
      exact (numeric_all _).value _ _ _ read
    · cases parsed
  · cases parsed

/-! What is written has no control character. -/

theorem escaped_printable (c : Char) : Printable (escaped c) := by
  have letters : ∀ {letter : Char}, shortEscape c = some letter → 0x20 ≤ letter.toNat := by
    intro letter short
    unfold shortEscape at short
    split_ifs at short <;> cases short <;> decide
  have hex : ∀ n < 16, 0x20 ≤ (Nat.digitChar n).toNat := by decide
  unfold escaped
  split
  · rename_i letter short
    exact printable_cons (by decide) (printable_cons (letters short) nofun)
  · split
    · exact printable_cons (by decide) (printable_cons (by decide) (printable_cons (by decide)
        (printable_cons (by decide) (printable_cons (hex _ (by omega)) (printable_cons (hex _ (by omega)) nofun)))))
    · exact printable_cons (by omega) nofun

theorem quoted_printable (text : String) : Printable (quoted text) := by
  apply printable_cons (by decide)
  apply printable_append
  · intro c member
    obtain ⟨d, _, escapes⟩ := List.mem_flatMap.mp member
    exact escaped_printable d c escapes
  · exact printable_cons (by decide) nofun

mutual

theorem write_printable (json : Json) : Printable json.write := by
  cases json with
  | null => exact (by decide : Printable ['n', 'u', 'l', 'l'])
  | bool value =>
      cases value with
      | false => exact (by decide : Printable ['f', 'a', 'l', 's', 'e'])
      | true => exact (by decide : Printable ['t', 'r', 'u', 'e'])
  | number value =>
      rw [write]
      split
      · exact printable_number value
      · exact (by decide : Printable ['n', 'u', 'l', 'l'])
  | string value => exact quoted_printable value
  | array items =>
      exact printable_cons (by decide) (printable_append (writeItems_printable items)
        (printable_cons (by decide) nofun))
  | object members =>
      exact printable_cons (by decide)
        (printable_append (writeMembers_printable members) (printable_cons (by decide) nofun))

theorem writeItems_printable (items : List Json) : Printable (writeItems items) := by
  cases items with
  | nil => exact nofun
  | cons item items =>
      cases items with
      | nil => exact write_printable item
      | cons next items =>
          exact printable_append (write_printable item)
            (printable_cons (by decide) (writeItems_printable (next :: items)))

theorem writeMembers_printable (members : List (String × Json)) : Printable (writeMembers members) := by
  cases members with
  | nil => exact nofun
  | cons member members =>
      obtain ⟨key, value⟩ := member
      cases members with
      | nil => exact printable_append (quoted_printable key) (printable_cons (by decide) (write_printable value))
      | cons next members =>
          exact printable_append (quoted_printable key) (printable_cons (by decide)
            (printable_append (write_printable value)
              (printable_cons (by decide) (writeMembers_printable (next :: members)))))

end

end Json

end PublicLighting.Foundations
