import StubForge.Proofs.Text.Quoted

/-! What a string literal stands for, and where it ends. A reader that knows the escapes gets every
text back, and a lexer that knows only that a backslash escapes what comes next finds the closing
quote. -/
namespace StubForge.Text

/-! ## Reading back -/

/-- A number in hexadecimal digits. There is at least one, and a plus sign may stand before them. -/
def readCode? : List Char → Option Nat
  | [] => none
  | '+' :: d :: ds => readHex? (d :: ds)
  | ds => readHex? ds

def charOf? (code : Nat) : Option Char :=
  if code.isValidChar then some (Char.ofNat code) else none

/-- What a text with escapes stands for. A backslash has a meaning before three letters; before `u`
it takes the code that the next four characters give, or as many as there are; and any other
character after it stands for itself. -/
def unescape? : List Char → Option (List Char)
  | [] => some []
  | '\\' :: 'n' :: r => (unescape? r).map ('\n' :: ·)
  | '\\' :: 'r' :: r => (unescape? r).map ('\r' :: ·)
  | '\\' :: 't' :: r => (unescape? r).map ('\t' :: ·)
  | '\\' :: 'u' :: a :: b :: c :: d :: r => do
    let code ← readCode? [a, b, c, d]
    let char ← charOf? code
    (unescape? r).map (char :: ·)
  | '\\' :: 'u' :: ds => do
    let code ← readCode? ds
    (charOf? code).map ([·])
  | '\\' :: c :: r => (unescape? r).map (c :: ·)
  | ['\\'] => none
  | c :: r => (unescape? r).map (c :: ·)

/-- The text of a literal, once a character is taken off at both ends. This has to be a single byte
there. -/
def readBack? (literal : String) : Option String :=
  match literal.toList with
  | first :: rest =>
    if isAscii first ∧ rest.getLast?.any isAscii then
      (unescape? rest.dropLast).map String.ofList
    else none
  | [] => none

example : readBack? "\"a\\\"\\u0041\\\\u\"" = some "a\"A\\u" := by decide +kernel

theorem readCode?_of_plus_notMem {d : Char} {ds : List Char} (h : '+' ∉ d :: ds) :
    readCode? (d :: ds) = readHex? (d :: ds) := by
  have hd : d ≠ '+' := fun heq => h (heq ▸ List.mem_cons_self)
  simp [readCode?, hd]

theorem charOf?_toNat (c : Char) : charOf? c.toNat = some c := by
  have hvalid : c.toNat.isValidChar := c.valid
  simp [charOf?, hvalid]

theorem unescape?_escape (c : Char) (t : List Char) :
    unescape? (escape c ++ t) = (unescape? t).map (c :: ·) := by
  have hmarks : ∀ p ∈ shortEscapes, unescape? ('\\' :: p.2 :: t) = (unescape? t).map (p.1 :: ·) := by
    simp [shortEscapes, unescape?]
  rcases escape_cases c with ⟨mark, hmark, h⟩ | ⟨hcontrol, h⟩ | ⟨-, hbackslash, -, h⟩
  · rw [h]
    exact hmarks _ hmark
  · have hread := readHex?_of_isControl hcontrol
    have hplus : '+' ∉ hexDigits 4 c.toNat := fun hmem => (hexDigit_plain hmem).2.2.1 rfl
    simp only [hexDigits, List.nil_append, List.cons_append] at hread hplus
    rw [← readCode?_of_plus_notMem hplus] at hread
    simp [h, hexDigits, unescape?, hread, charOf?_toNat]
  · simp [h, hbackslash, unescape?]

theorem unescape?_flatMap_escape (t : List Char) : unescape? (t.flatMap escape) = some t := by
  induction t with
  | nil => rfl
  | cons c t ih => rw [List.flatMap_cons, unescape?_escape, ih, Option.map_some]

theorem readBack?_quote (s : String) : readBack? (quote s) = some s := by
  simp [readBack?, quoteChars, isAscii, unescape?_flatMap_escape]

/-! ## Where a literal ends -/

/-- What a lexer takes of a text behind the opening quote of a literal: all up to the first quote
that no backslash escapes, where a backslash escapes whatever comes next. Then there is the rest of
the text. -/
def scanBody : List Char → Option (List Char × List Char)
  | [] => none
  | '"' :: r => some (['"'], r)
  | '\\' :: c :: r => (scanBody r).map fun (taken, rest) => ('\\' :: c :: taken, rest)
  | ['\\'] => none
  | c :: r => (scanBody r).map fun (taken, rest) => (c :: taken, rest)

/-- The literal at the start of a text, with both quotes, and what follows it. -/
def scanLiteral? : List Char → Option (List Char × List Char)
  | '"' :: r => (scanBody r).map fun (taken, rest) => ('"' :: taken, rest)
  | _ => none

theorem scanBody_append {taken : List Char} (h : ∀ c ∈ taken, c ≠ '"' ∧ c ≠ '\\')
    (t : List Char) :
    scanBody (taken ++ t) = (scanBody t).map fun (u, rest) => (taken ++ u, rest) := by
  induction taken with
  | nil => simp
  | cons c taken ih =>
    obtain ⟨⟨hquote, hbackslash⟩, hrest⟩ := List.forall_mem_cons.1 h
    simp [scanBody, hbackslash, ih hrest, Function.comp_def]

/-- The escape of a character ends no literal. -/
theorem scanBody_escape (c : Char) (t : List Char) :
    scanBody (escape c ++ t) = (scanBody t).map fun (u, rest) => (escape c ++ u, rest) := by
  rcases escape_cases c with ⟨mark, -, h⟩ | ⟨-, h⟩ | ⟨hquote, hbackslash, -, h⟩
  · rw [h]
    rfl
  · have hdigits : ∀ d ∈ hexDigits 4 c.toNat, d ≠ '"' ∧ d ≠ '\\' := fun d hd =>
      ⟨(hexDigit_plain hd).1, (hexDigit_plain hd).2.1⟩
    rw [h, List.cons_append, List.cons_append, scanBody, scanBody_append hdigits, Option.map_map]
    rfl
  · rw [h]
    exact scanBody_append (by simp [hquote, hbackslash]) t

theorem scanLiteral?_quoteChars (t rest : List Char) :
    scanLiteral? (quoteChars t ++ rest) = some (quoteChars t, rest) := by
  have hbody : scanBody (t.flatMap escape ++ '"' :: rest) =
      some (t.flatMap escape ++ ['"'], rest) := by
    induction t with
    | nil => rfl
    | cons c t ih =>
      rw [List.flatMap_cons, List.append_assoc, scanBody_escape, ih, Option.map_some,
        List.append_assoc]
  simp [quoteChars, scanLiteral?, hbody]

/-- Where a literal ends can be seen from the literal alone, and what it stands for can be read
back. -/
theorem quoteChars_append_inj {t u r s : List Char}
    (h : quoteChars t ++ r = quoteChars u ++ s) : t = u ∧ r = s := by
  have hread (t : List Char) : unescape? (quoteChars t).tail.dropLast = some t := by
    simp [quoteChars, unescape?_flatMap_escape]
  have hscan := scanLiteral?_quoteChars t r
  rw [h, scanLiteral?_quoteChars, Option.some.injEq, Prod.mk.injEq] at hscan
  obtain ⟨hliteral, hrest⟩ := hscan
  have htext := hread u
  rw [hliteral, hread, Option.some.injEq] at htext
  exact ⟨htext, hrest.symm⟩

/-! ## Control characters -/

theorem isControl_of_mem_escape {x c : Char} (h : c ∈ escape x) : isControl c = false := by
  have hmarks : ∀ p ∈ shortEscapes, isControl p.2 = false := by decide
  rcases escape_cases x with ⟨mark, hmark, hx⟩ | ⟨-, hx⟩ | ⟨-, -, hcontrol, hx⟩
  · simp only [hx, List.mem_cons, List.not_mem_nil, or_false] at h
    rcases h with rfl | rfl
    · rfl
    · exact hmarks _ hmark
  · simp only [hx, List.mem_cons] at h
    rcases h with rfl | rfl | h
    · rfl
    · rfl
    · exact (hexDigit_plain h).2.2.2
  · rw [hx, List.mem_singleton] at h
    rwa [h]

theorem isControl_of_mem_quoteChars {t : List Char} {c : Char} (h : c ∈ quoteChars t) :
    isControl c = false := by
  simp only [quoteChars, List.mem_cons, List.mem_append, List.not_mem_nil, or_false,
    List.mem_flatMap] at h
  rcases h with rfl | ⟨x, -, hx⟩ | rfl
  · rfl
  · exact isControl_of_mem_escape hx
  · rfl

/-- A literal can be read back, and stands for the text that it was made from. It has no control
character in it, and whatever follows it, the first double quote behind the opening one that is not
escaped is its last character. -/
theorem quote_lossless (s rest : String) :
    readBack? (quote s) = some s ∧ (∀ c ∈ (quote s).toList, isControl c = false) ∧
      scanLiteral? (quote s ++ rest).toList = some ((quote s).toList, rest.toList) := by
  refine ⟨readBack?_quote s, fun c hc => ?_, ?_⟩
  · rw [toList_quote] at hc
    exact isControl_of_mem_quoteChars hc
  · rw [String.toList_append, toList_quote]
    exact scanLiteral?_quoteChars _ _

end StubForge.Text
