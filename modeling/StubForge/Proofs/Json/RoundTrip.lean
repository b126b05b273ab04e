import Mathlib.Data.List.TakeWhile
import Mathlib.Data.Option.Basic
import StubForge.Json.Reader
import StubForge.Json.Writer
import StubForge.Proofs.Decimal.Numeral
import StubForge.Proofs.Text.Quoted

/-! Reading back the text of a tree: what was written comes out again, and what follows it is left
alone. -/
namespace StubForge.Json

/-! ## Numbers -/

/-- A text that does not go on with a number. -/
def Stops (r : List Char) : Prop :=
  ∀ c, r.head? = some c → c.isDigit = false ∧ c ≠ '.' ∧ c ≠ 'e' ∧ c ≠ 'E'

theorem readDigits_append {ds r : List Char} (hne : ds ≠ []) (hds : ∀ c ∈ ds, c.isDigit = true)
    (hr : ∀ c, r.head? = some c → c.isDigit = false) : readDigits (ds ++ r) = some (ds, r) := by
  have htake : (ds ++ r).takeWhile Char.isDigit = ds := by
    rw [List.takeWhile_append_of_pos hds]
    cases r with
    | nil => rw [List.takeWhile_nil, List.append_nil]
    | cons c r => rw [List.takeWhile_cons_of_neg (by simp [hr c rfl]), List.append_nil]
  have hdrop : (ds ++ r).dropWhile Char.isDigit = r := by
    rw [List.dropWhile_append_of_pos hds]
    cases r with
    | nil => rfl
    | cons c r => rw [List.dropWhile_cons_of_neg (by simp [hr c rfl])]
  obtain ⟨d, ds, rfl⟩ := List.exists_cons_of_ne_nil hne
  simp only [readDigits, htake, hdrop]

theorem readWhole_append {n : Numeral} (h : n.WellFormed) {r : List Char}
    (hr : ∀ c, r.head? = some c → c.isDigit = false) :
    readWhole (n.whole ++ r) = some (n.whole, r) := by
  obtain ⟨c, cs, hcs⟩ := List.exists_cons_of_ne_nil h.ne_nil
  by_cases hc : c = '0'
  · have hzero := h.noZeroFirst (by rw [hcs, hc]; rfl)
    rw [hzero]
    rfl
  · rw [← readDigits_append h.ne_nil h.whole hr, hcs, List.cons_append, readWhole]
    rintro r' hr'
    exact hc (List.cons.inj hr').1

/-- The places of a numeral, with the point before them if there are any. -/
def placesText (places : List Char) : List Char := if places = [] then [] else '.' :: places

/-- The exponent of a numeral, if it has one. -/
def exponentText (exponent : Option Int) : List Char :=
  exponent.elim [] fun e => 'e' :: e.repr.toList

theorem readPlaces_append {places r : List Char} (h : ∀ c ∈ places, c.isDigit = true)
    (hr : ∀ c, r.head? = some c → c.isDigit = false ∧ c ≠ '.') :
    readPlaces (placesText places ++ r) = some (places, r) := by
  rw [placesText]
  split
  · rename_i hnone
    rw [hnone, List.nil_append, readPlaces]
    rintro r' rfl
    exact (hr '.' rfl).2 rfl
  · rename_i hsome
    exact readDigits_append hsome h fun c hc => (hr c hc).1

theorem readSign_toDigits (n : Nat) (r : List Char) :
    readSign (Nat.toDigits 10 n ++ r) = (false, Nat.toDigits 10 n ++ r) := by
  obtain ⟨c, cs, hcs⟩ := List.exists_cons_of_ne_nil (Nat.toDigits_ne_nil (n := n) (b := 10))
  have hdigit : c.isDigit = true := Decimal.isDigit_toDigits n c (hcs ▸ List.mem_cons_self)
  rw [hcs, List.cons_append, readSign]
  · rintro r' hr'
    obtain ⟨rfl, -⟩ := List.cons.inj hr'
    exact absurd hdigit (by decide)
  · rintro r' hr'
    obtain ⟨rfl, -⟩ := List.cons.inj hr'
    exact absurd hdigit (by decide)

theorem readExponent_append (exponent : Option Int) {r : List Char} (hr : Stops r) :
    readExponent (exponentText exponent ++ r) = some (exponent, r) := by
  have hdigits (n : Nat) : readDigits (Nat.toDigits 10 n ++ r) = some (Nat.toDigits 10 n, r) :=
    readDigits_append Nat.toDigits_ne_nil (Decimal.isDigit_toDigits n) fun c hc => (hr c hc).1
  cases exponent with
  | none =>
    cases r with
    | nil => rfl
    | cons c r =>
      obtain ⟨-, -, hsmall, hcapital⟩ := hr c rfl
      rw [exponentText, Option.elim_none, List.nil_append, readExponent,
        if_neg (not_or.2 ⟨hsmall, hcapital⟩)]
  | some e =>
    rw [exponentText, Option.elim_some, List.cons_append, readExponent, if_pos (.inl rfl)]
    cases e with
    | ofNat n =>
      have hrepr : (Int.ofNat n).repr.toList = Nat.toDigits 10 n := Nat.toList_repr
      simp only [hrepr, readSign_toDigits, hdigits, Option.map_some, Nat.ofDigitChars_ten_toDigits]
      rfl
    | negSucc n =>
      have hrepr : (Int.negSucc n).repr.toList = '-' :: Nat.toDigits 10 (n + 1) := by
        rw [← Nat.toList_repr]
        exact String.toList_append
      simp only [hrepr, List.cons_append, readSign, hdigits, Option.map_some,
        Nat.ofDigitChars_ten_toDigits]
      rfl

/-- After the digits of a numeral comes no digit. -/
theorem head?_exponentText (exponent : Option Int) {r : List Char} (hr : Stops r) (c : Char)
    (hc : (exponentText exponent ++ r).head? = some c) : c.isDigit = false ∧ c ≠ '.' := by
  cases exponent with
  | none =>
    obtain ⟨hdigit, hpoint, -⟩ := hr c hc
    exact ⟨hdigit, hpoint⟩
  | some e =>
    cases hc
    decide

theorem head?_placesText (places : List Char) (exponent : Option Int) {r : List Char}
    (hr : Stops r) (c : Char)
    (hc : (placesText places ++ (exponentText exponent ++ r)).head? = some c) :
    c.isDigit = false := by
  rw [placesText] at hc
  split at hc
  · exact (head?_exponentText exponent hr c hc).1
  · cases hc
    decide

theorem readNumeral_append {n : Numeral} (h : n.WellFormed) {r : List Char} (hr : Stops r) :
    readNumeral (n.toList ++ r) = some (n, r) := by
  obtain ⟨negative, whole, places, exponent⟩ := n
  have htext : (⟨negative, whole, places, exponent⟩ : Numeral).toList ++ r =
      (if negative then ['-'] else []) ++
        (whole ++ (placesText places ++ (exponentText exponent ++ r))) := by
    simp only [Numeral.toList, placesText, exponentText, List.append_assoc]
  have hwhole := readWhole_append h (head?_placesText places exponent hr)
  have hplaces := readPlaces_append h.places (head?_exponentText exponent hr)
  have hexponent := readExponent_append exponent hr
  rw [htext]
  cases negative with
  | true => simp [readNumeral, hwhole, hplaces, hexponent]
  | false =>
    rw [readNumeral]
    · simp [hwhole, hplaces, hexponent]
    · intro r' hr'
      obtain ⟨d, ds, rfl⟩ := List.exists_cons_of_ne_nil h.ne_nil
      obtain ⟨rfl, -⟩ := List.cons.inj hr'
      exact absurd (h.whole '-' List.mem_cons_self) (by decide)

/-! ## Strings -/

/-- How the reader takes an escape: as its character, or as a code where it has no letter. -/
def pieceOf (c : Char) : Piece :=
  if (shortEscape? c).isNone ∧ c.toNat < 0x20 then .unit c.toNat else .char c

theorem plainEscape?_of_shortEscape? {c letter : Char} (h : shortEscape? c = some letter) :
    letter ≠ 'u' ∧ plainEscape? letter = some c := by
  unfold shortEscape? at h
  split at h <;> cases h <;> exact ⟨by decide, rfl⟩

theorem readPieces_letter {letter c : Char} (hu : letter ≠ 'u') (h : plainEscape? letter = some c)
    (t : List Char) :
    readPieces ('\\' :: letter :: t) = (readPieces t).map fun (p, r) => (.char c :: p, r) := by
  rw [readPieces, h]
  · cases readPieces t <;> rfl
  · intro a b c d r hletter
    exact absurd hletter hu

theorem readPieces_hex {a b c d : Char} {code : Nat} (h : Text.readHex? [a, b, c, d] = some code)
    (t : List Char) : readPieces ('\\' :: 'u' :: a :: b :: c :: d :: t) =
      (readPieces t).map fun (p, r) => (.unit code :: p, r) := by
  rw [readPieces, h]
  cases readPieces t <;> rfl

theorem readPieces_plain {c : Char} (hquote : c ≠ '"') (hslash : c ≠ '\\')
    (hcode : 0x20 ≤ c.toNat) (t : List Char) :
    readPieces (c :: t) = (readPieces t).map fun (p, r) => (.char c :: p, r) := by
  have hguard : (guard (0x20 ≤ c.toNat) : Option Unit) = some () := if_pos hcode
  rw [readPieces]
  · rw [hguard]
    cases readPieces t <;> rfl
  · exact hquote
  · intro a b d e r hcons
    exact absurd hcons hslash
  · intro e r hcons
    exact absurd hcons hslash

theorem readPieces_escape (c : Char) (t : List Char) :
    readPieces (escape c ++ t) = (readPieces t).map fun (p, r) => (pieceOf c :: p, r) := by
  cases hshort : shortEscape? c with
  | some letter =>
    obtain ⟨hu, hletter⟩ := plainEscape?_of_shortEscape? hshort
    have hpiece : pieceOf c = .char c := if_neg (by simp [hshort])
    rw [escape, hshort, hpiece]
    exact readPieces_letter hu hletter t
  | none =>
    rw [escape, pieceOf, hshort]
    by_cases hcode : c.toNat < 0x20
    · have hread : Text.readHex? (Text.hexDigits 4 c.toNat) = some c.toNat := by
        rw [Text.readHex?_hexDigits, Nat.mod_eq_of_lt (by omega)]
      rw [if_pos hcode, if_pos ⟨rfl, hcode⟩]
      exact readPieces_hex hread t
    · have hquote : c ≠ '"' := by
        rintro rfl
        cases hshort
      have hslash : c ≠ '\\' := by
        rintro rfl
        cases hshort
      rw [if_neg hcode, if_neg fun h => hcode h.2]
      exact readPieces_plain hquote hslash (by omega) t

theorem joinPieces_pieceOf (c : Char) (r : List Piece) :
    joinPieces (pieceOf c :: r) = (joinPieces r).map (c :: ·) := by
  rw [pieceOf]
  split
  · rename_i hcode
    have hhigh : isHighSurrogate c.toNat = false := by
      rw [isHighSurrogate, Bool.and_eq_false_iff, decide_eq_false_iff_not]
      exact .inl (by omega)
    have hlow : isLowSurrogate c.toNat = false := by
      rw [isLowSurrogate, Bool.and_eq_false_iff, decide_eq_false_iff_not]
      exact .inl (by omega)
    cases r with
    | nil => simp [joinPieces, hhigh, hlow]
    | cons piece r => cases piece <;> simp [joinPieces, hhigh, hlow]
  · rfl

theorem readString_write (s : String) (r : List Char) :
    readString (s.toList.flatMap escape ++ '"' :: r) = some (some s, r) := by
  have hpieces (t : List Char) : readPieces (t.flatMap escape ++ '"' :: r) =
      some (t.map pieceOf, r) := by
    induction t with
    | nil => rfl
    | cons c t ih =>
      rw [List.flatMap_cons, List.append_assoc, readPieces_escape, ih, Option.map_some,
        List.map_cons]
  have hjoin (t : List Char) : joinPieces (t.map pieceOf) = some t := by
    induction t with
    | nil => rfl
    | cons c t ih => rw [List.map_cons, joinPieces_pieceOf, ih, Option.map_some]
  simp only [readString, hpieces, Option.bind_eq_bind, Option.bind_some, hjoin, Option.map_some,
    String.ofList_toList]

/-! ## Values -/

mutual

/-- All texts of the tree are there, and its numerals are well formed. -/
def Writable : Json → Prop
  | .null | .bool _ => True
  | .number n => n.WellFormed
  | .string text => text.isSome = true
  | .array items => WritableItems items
  | .object members => WritableMembers members

def WritableItems : List Json → Prop
  | [] => True
  | item :: r => Writable item ∧ WritableItems r

def WritableMembers : List (Option String × Json) → Prop
  | [] => True
  | (key, value) :: r => key.isSome = true ∧ Writable value ∧ WritableMembers r

end

theorem skipSpace_cons {c : Char} (h : isSpace c = false) (t : List Char) :
    skipSpace (c :: t) = c :: t := List.dropWhile_cons_of_neg (by simp [h])

theorem Stops.cons {c : Char} (h : c.isDigit = false ∧ c ≠ '.' ∧ c ≠ 'e' ∧ c ≠ 'E')
    (r : List Char) : Stops (c :: r) := by
  rintro d hd
  cases hd
  exact h

/-- What a numeral starts with: its sign or a digit. -/
def IsNumeralHead (c : Char) : Prop := c = '-' ∨ c.isDigit = true

theorem IsNumeralHead.ne {c d : Char} (h : IsNumeralHead c)
    (hd : d ≠ '-' ∧ d.isDigit = false) : c ≠ d := by
  rintro rfl
  rcases h with hminus | hdigit
  · exact hd.1 hminus
  · exact Bool.false_ne_true (hd.2.symm.trans hdigit)

theorem IsNumeralHead.isSpace {c : Char} (h : IsNumeralHead c) : isSpace c = false := by
  simp only [Json.isSpace, Bool.or_eq_false_iff, beq_eq_false_iff_ne]
  exact ⟨⟨⟨h.ne (by decide), h.ne (by decide)⟩, h.ne (by decide)⟩, h.ne (by decide)⟩

theorem exists_numeral_head {n : Numeral} (h : n.WellFormed) :
    ∃ c t, n.toList = c :: t ∧ IsNumeralHead c := by
  obtain ⟨c, cs, hcs⟩ := List.exists_cons_of_ne_nil h.ne_nil
  have hdigit := h.whole c (hcs ▸ List.mem_cons_self)
  rw [Numeral.toList, hcs]
  cases n.negative with
  | true => exact ⟨'-', _, rfl, .inl rfl⟩
  | false => exact ⟨c, _, rfl, .inr hdigit⟩

/-- The text of a value starts with no space, and not as an array ends. -/
theorem exists_write_head {j : Json} (h : j.Writable) :
    ∃ c t, j.write = c :: t ∧ isSpace c = false ∧ c ≠ ']' := by
  cases j with
  | null => exact ⟨'n', _, rfl, by decide, by decide⟩
  | bool b =>
    cases b with
    | true => exact ⟨'t', _, rfl, by decide, by decide⟩
    | false => exact ⟨'f', _, rfl, by decide, by decide⟩
  | number n =>
    obtain ⟨c, t, hc, hstart⟩ := exists_numeral_head h
    exact ⟨c, t, hc, hstart.isSpace, hstart.ne (by decide)⟩
  | string text =>
    cases text with
    | none => exact ⟨'n', _, rfl, by decide, by decide⟩
    | some s => exact ⟨'"', _, rfl, by decide, by decide⟩
  | array items => exact ⟨'[', _, rfl, by decide, by decide⟩
  | object members => exact ⟨'{', _, rfl, by decide, by decide⟩

theorem readWord_of_numeral {c : Char} (h : IsNumeralHead c) (t : List Char) :
    readWord (c :: t) = none := by
  rw [readWord]
  · rintro r hr
    exact h.ne (by decide) (List.cons.inj hr).1
  · rintro r hr
    exact h.ne (by decide) (List.cons.inj hr).1
  · rintro r hr
    exact h.ne (by decide) (List.cons.inj hr).1

theorem readValue_number {n : Numeral} (h : n.WellFormed) (fuel : Nat) {r : List Char}
    (hr : Stops r) : readValue (fuel + 1) (n.toList ++ r) = some (.number n, r) := by
  obtain ⟨c, t, hc, hstart⟩ := exists_numeral_head h
  have hread := readNumeral_append h hr
  rw [hc, List.cons_append] at hread ⊢
  rw [readValue, skipSpace_cons hstart.isSpace]
  split
  · rename_i hcons
    exact absurd (List.cons.inj hcons).1 (hstart.ne (by decide))
  · rename_i hcons
    exact absurd (List.cons.inj hcons).1 (hstart.ne (by decide))
  · rename_i hcons
    exact absurd (List.cons.inj hcons).1 (hstart.ne (by decide))
  · rw [readWord_of_numeral hstart, hread]
    rfl

theorem exists_writeItems_head {item : Json} (h : item.Writable) (items : List Json) :
    ∃ c t, writeItems (item :: items) = c :: t ∧ isSpace c = false ∧ c ≠ ']' := by
  obtain ⟨c, t, hc, hspace, hbracket⟩ := exists_write_head h
  cases items with
  | nil => exact ⟨c, t, by rw [writeItems, hc], hspace, hbracket⟩
  | cons next items =>
    refine ⟨c, t ++ ',' :: writeItems (next :: items), ?_, hspace, hbracket⟩
    rw [writeItems, hc, List.cons_append]

theorem writeMembers_singleton (key : String) (value : Json) (r : List Char) :
    writeMembers [(some key, value)] ++ r =
      '"' :: (key.toList.flatMap escape ++ '"' :: ':' :: (value.write ++ r)) := by
  simp [writeMembers, writeString]

theorem writeMembers_cons_cons (key : String) (value : Json) (next : Option String × Json)
    (members : List (Option String × Json)) (r : List Char) :
    writeMembers ((some key, value) :: next :: members) ++ r =
      '"' :: (key.toList.flatMap escape ++
        '"' :: ':' :: (value.write ++ ',' :: (writeMembers (next :: members) ++ r))) := by
  simp [writeMembers, writeString]

theorem exists_writeMembers_head (member : Option String × Json)
    (members : List (Option String × Json)) :
    ∃ t, writeMembers (member :: members) = '"' :: t := by
  obtain ⟨key, value⟩ := member
  cases members with
  | nil => exact ⟨_, rfl⟩
  | cons next members => exact ⟨_, rfl⟩

theorem exists_fuel {j : Json} (h : j.Writable) {fuel : Nat} (hfuel : 2 * j.write.length ≤ fuel) :
    ∃ m, fuel = m + 1 := by
  obtain ⟨c, t, hc, -⟩ := exists_write_head h
  rw [hc, List.length_cons] at hfuel
  exact ⟨fuel - 1, by omega⟩

mutual

theorem readValue_write : ∀ (j : Json), j.Writable → ∀ (fuel : Nat) (r : List Char),
    2 * j.write.length ≤ fuel → Stops r → readValue fuel (j.write ++ r) = some (j, r)
  | .null, h, fuel, r, hfuel, _ => by
    obtain ⟨m, rfl⟩ := exists_fuel h hfuel
    rfl
  | .bool true, h, fuel, r, hfuel, _ => by
    obtain ⟨m, rfl⟩ := exists_fuel h hfuel
    rfl
  | .bool false, h, fuel, r, hfuel, _ => by
    obtain ⟨m, rfl⟩ := exists_fuel h hfuel
    rfl
  | .number n, h, fuel, r, hfuel, hr => by
    obtain ⟨m, rfl⟩ := exists_fuel (j := .number n) h hfuel
    exact readValue_number h m hr
  | .string none, h, _, _, _, _ => by cases h
  | .string (some s), h, fuel, r, hfuel, _ => by
    obtain ⟨m, rfl⟩ := exists_fuel h hfuel
    rw [write, writeString, List.cons_append, List.append_assoc, readValue,
      skipSpace_cons (by decide)]
    simp only [List.singleton_append, readString_write, Option.map_some]
  | .array [], h, fuel, r, hfuel, _ => by
    obtain ⟨m, rfl⟩ := exists_fuel h hfuel
    rfl
  | .array (item :: items), h, fuel, r, hfuel, _ => by
    obtain ⟨m, rfl⟩ := exists_fuel h hfuel
    simp only [write, List.length_cons, List.length_append, List.length_nil] at hfuel
    have hitems := readItems_write item items h m r (by omega)
    obtain ⟨c, t, hc, hspace, hbracket⟩ := exists_writeItems_head h.1 items
    rw [write, List.cons_append, List.append_assoc, List.singleton_append, readValue,
      skipSpace_cons (by decide)]
    rw [hc, List.cons_append] at hitems ⊢
    simp only [skipSpace_cons hspace]
    split
    · rename_i hcons
      exact absurd (List.cons.inj hcons).1 hbracket
    · rw [hitems, Option.map_some]
  | .object [], h, fuel, r, hfuel, _ => by
    obtain ⟨m, rfl⟩ := exists_fuel h hfuel
    rfl
  | .object (member :: members), h, fuel, r, hfuel, _ => by
    obtain ⟨m, rfl⟩ := exists_fuel h hfuel
    simp only [write, List.length_cons, List.length_append, List.length_nil] at hfuel
    have hmembers := readMembers_write member members h m r (by omega)
    obtain ⟨t, ht⟩ := exists_writeMembers_head member members
    rw [write, List.cons_append, List.append_assoc, List.singleton_append, readValue,
      skipSpace_cons (by decide)]
    rw [ht, List.cons_append] at hmembers ⊢
    simp only [skipSpace_cons (c := '"') (by decide), hmembers, Option.map_some]
    rfl

theorem readItems_write : ∀ (item : Json) (items : List Json), WritableItems (item :: items) →
    ∀ (fuel : Nat) (r : List Char), 2 * (writeItems (item :: items)).length + 1 ≤ fuel →
      readItems fuel (writeItems (item :: items) ++ ']' :: r) = some (item :: items, r)
  | item, [], h, fuel, r, hfuel => by
    rw [writeItems] at hfuel ⊢
    obtain ⟨m, rfl⟩ : ∃ m, fuel = m + 1 := ⟨fuel - 1, by omega⟩
    rw [readItems, readValue_write item h.1 m _ (by omega) (.cons (by decide) r)]
    rfl
  | item, next :: items, h, fuel, r, hfuel => by
    rw [writeItems, List.length_append, List.length_cons] at hfuel
    obtain ⟨m, rfl⟩ : ∃ m, fuel = m + 1 := ⟨fuel - 1, by omega⟩
    have hrest := readItems_write next items h.2 m r (by omega)
    rw [writeItems, List.append_assoc, List.cons_append, readItems,
      readValue_write item h.1 m _ (by omega) (.cons (by decide) _)]
    simp only [skipSpace_cons (c := ',') (by decide), hrest, Option.map_some]

theorem readMembers_write : ∀ (member : Option String × Json)
    (members : List (Option String × Json)), WritableMembers (member :: members) →
    ∀ (fuel : Nat) (r : List Char), 2 * (writeMembers (member :: members)).length + 1 ≤ fuel →
      readMembers fuel (writeMembers (member :: members) ++ '}' :: r) = some (member :: members, r)
  | (none, _), _, h, _, _, _ => by cases h.1
  | (some key, value), [], h, fuel, r, hfuel => by
    have hlength := congrArg List.length (writeMembers_singleton key value [])
    simp only [List.append_nil, List.length_cons, List.length_append] at hlength
    obtain ⟨m, rfl⟩ : ∃ m, fuel = m + 1 := ⟨fuel - 1, by omega⟩
    have hvalue := readValue_write value h.2.1 m ('}' :: r) (by omega) (.cons (by decide) r)
    rw [writeMembers_singleton, readMembers, skipSpace_cons (by decide)]
    simp only [readString_write, skipSpace_cons (c := ':') (by decide), hvalue,
      skipSpace_cons (c := '}') (by decide)]
  | (some key, value), next :: members, h, fuel, r, hfuel => by
    have hlength := congrArg List.length (writeMembers_cons_cons key value next members [])
    simp only [List.append_nil, List.length_cons, List.length_append] at hlength
    obtain ⟨m, rfl⟩ : ∃ m, fuel = m + 1 := ⟨fuel - 1, by omega⟩
    have hvalue := readValue_write value h.2.1 m
      (',' :: (writeMembers (next :: members) ++ '}' :: r)) (by omega) (.cons (by decide) _)
    have hrest := readMembers_write next members h.2.2 m r (by omega)
    rw [writeMembers_cons_cons, readMembers, skipSpace_cons (by decide)]
    simp only [readString_write, skipSpace_cons (c := ':') (by decide), hvalue,
      skipSpace_cons (c := ',') (by decide), hrest, Option.map_some]

end

/-- The text of a tree is read back as the tree. -/
theorem read?_render {j : Json} (h : j.Writable) : read? j.render = some j := by
  have hempty : Stops [] := by
    rintro c hc
    cases hc
  have hvalue := readValue_write j h (2 * j.write.length + 2) [] (by omega) hempty
  rw [List.append_nil] at hvalue
  rw [read?, render, String.toList_ofList, readFront?, hvalue]
  rfl

end StubForge.Json
