import Guarded.Text.Quoted

set_option autoImplicit false

/-! # Reading quoted texts

A text between quotes can be read back: what follows a backslash names a character or gives its code
point, and everything else stands for itself. The first quote that is not escaped ends the text, so
a reader who does not know where the text ends finds out. And whatever characters the text has,
those between the quotes show and stay on their line.

Main statement: `quotes_encode`. -/

namespace Guarded.Text.Quoted

/-! ## Reading -/

/-- What a reader is in the middle of, between quotes. -/
inductive Reading where
  /-- Nothing: characters stand for themselves. -/
  | text
  /-- A backslash has come. -/
  | escape
  /-- A code point is announced. -/
  | announced
  /-- The digits of a code point have come that stand for a number. -/
  | code (number : Nat)

/-- The character that a character after a backslash names, as `n` names the end of a line. -/
def named? : Char → Option Char
  | '0' => some '\x00'
  | 't' => some '\t'
  | 'r' => some '\r'
  | 'n' => some '\n'
  | '"' => some '"'
  | '\\' => some '\\'
  | _ => none

/-- The value of a hexadecimal digit of a code point. -/
def digitValue? (c : Char) : Option Nat :=
  if c.isDigit then some (c.toNat - '0'.toNat)
  else if 'a' ≤ c ∧ c ≤ 'f' then some (c.toNat - 'a'.toNat + 10)
  else none

/-- What is read from what stands between quotes. The result is `none` where there is a quote that
    is not escaped, or an escape that names nothing or is not finished. -/
def read? : Reading → List Char → Option (List Char)
  | .text, [] => some []
  | .text, c :: rest =>
    if c = '\\' then read? .escape rest
    else if c = '"' then none
    else (read? .text rest).map (c :: ·)
  | .escape, c :: rest =>
    if c = 'u' then read? .announced rest
    else (named? c).bind fun meant => (read? .text rest).map (meant :: ·)
  | .announced, c :: rest => if c = '\x7b' then read? (.code 0) rest else none
  | .code number, c :: rest =>
    if c = '\x7d' then (read? .text rest).map (Char.ofNat number :: ·)
    else (digitValue? c).bind fun digit => read? (.code (16 * number + digit)) rest
  | _, [] => none

/-- The text that stands between quotes as `body`. -/
def decode (body : List Char) : Option (List Char) := read? .text body

/-- A text up to the first quote that is not escaped, and what follows the quote. -/
def upToQuote? : List Char → Option (List Char × List Char)
  | [] => none
  | '"' :: rest => some ([], rest)
  | '\\' :: c :: rest => (upToQuote? rest).map fun (body, after) => ('\\' :: c :: body, after)
  | c :: rest => (upToQuote? rest).map fun (body, after) => (c :: body, after)

/-! ## Code points -/

theorem digitValue?_digitChar : ∀ digit < 16, digitValue? (Nat.digitChar digit) = some digit := by
  decide

theorem digitChar_ne_closing : ∀ digit < 16, Nat.digitChar digit ≠ '\x7d' := by
  decide

theorem read?_digit {digit : Nat} (h : digit < 16) (number : Nat) (rest : List Char) :
    read? (.code number) (Nat.digitChar digit :: rest) =
      read? (.code (16 * number + digit)) rest := by
  rw [read?, if_neg (digitChar_ne_closing digit h), digitValue?_digitChar digit h, Option.bind_some]

theorem read?_toDigits (number : Nat) (rest : List Char) :
    read? (.code 0) (Nat.toDigits 16 number ++ rest) = read? (.code number) rest := by
  induction number using Nat.strongRecOn generalizing rest with
  | ind number ih =>
    by_cases h : number < 16
    · rw [Nat.toDigits_of_lt_base h, List.singleton_append, read?_digit h, Nat.mul_zero,
        Nat.zero_add]
    · have hless : number / 16 < number := by omega
      have hdigit : number % 16 < 16 := Nat.mod_lt _ (by decide)
      rw [Nat.toDigits_of_base_le (by decide) (by omega), List.append_assoc, ih _ hless,
        List.singleton_append, read?_digit hdigit, Nat.div_add_mod]

/-! ## One character -/

/-- The ways in which a character is written: as a backslash and a name, as a code point, or as it
    is. -/
inductive Written (c : Char) : List Char → Prop
  | name {name : Char} (hname : named? name = some c) : Written c ['\\', name]
  | code : Written c (['\\', 'u', '\x7b'] ++ Nat.toDigits 16 c.toNat ++ ['\x7d'])
  | same (hquote : c ≠ '"') (hslash : c ≠ '\\') (hshown : isHidden c = false) : Written c [c]

theorem written_encodeChar (c : Char) : Written c (encodeChar c) := by
  fun_cases encodeChar c with
  | case7 => exact .code
  | case8 _ _ _ _ hquote hslash hshown => exact .same hquote hslash (Bool.eq_false_iff.mpr hshown)
  | _ =>
    subst_vars
    exact .name rfl

variable {c : Char} {chars : List Char}

theorem Written.read? (h : Written c chars) (rest : List Char) :
    read? .text (chars ++ rest) = (read? .text rest).map (c :: ·) := by
  cases h with
  | @name name hname =>
    have hcode : name ≠ 'u' := by
      rintro rfl
      cases hname
    change Quoted.read? .escape (name :: rest) = _
    rw [Quoted.read?, if_neg hcode, hname, Option.bind_some]
  | code =>
    rw [List.append_assoc, List.append_assoc]
    change Quoted.read? (.code 0) (Nat.toDigits 16 c.toNat ++ '\x7d' :: rest) = _
    rw [read?_toDigits, Quoted.read?, if_pos rfl, Char.ofNat_toNat]
  | same hquote hslash _ =>
    rw [List.singleton_append, Quoted.read?, if_neg hslash, if_neg hquote]

/-! ## The end of the quoted text -/

theorem upToQuote?_cons (hquote : c ≠ '"') (hslash : c ≠ '\\') (rest : List Char) :
    upToQuote? (c :: rest) = (upToQuote? rest).map fun (body, after) => (c :: body, after) := by
  rw [upToQuote?]
  · exact hquote
  · intro _ _ h
    exact absurd h hslash

theorem upToQuote?_append (h : ∀ char ∈ chars, char ≠ '"' ∧ char ≠ '\\') (rest : List Char) :
    upToQuote? (chars ++ rest) =
      (upToQuote? rest).map fun (body, after) => (chars ++ body, after) := by
  induction chars with
  | nil => simp
  | cons char chars ih =>
    obtain ⟨⟨hquote, hslash⟩, hchars⟩ := List.forall_mem_cons.mp h
    rw [List.cons_append, upToQuote?_cons hquote hslash, ih hchars, Option.map_map]
    rfl

theorem digitChar_of_mem_toDigits {number : Nat} {char : Char}
    (h : char ∈ Nat.toDigits 16 number) : ∃ digit < 16, char = Nat.digitChar digit := by
  induction number using Nat.strongRecOn with
  | ind number ih =>
    by_cases hsmall : number < 16
    · rw [Nat.toDigits_of_lt_base hsmall, List.mem_singleton] at h
      exact ⟨number, hsmall, h⟩
    · rw [Nat.toDigits_of_base_le (by decide) (by omega), List.mem_append, List.mem_singleton] at h
      rcases h with h | h
      · exact ih (number / 16) (by omega) h
      · exact ⟨number % 16, Nat.mod_lt _ (by decide), h⟩

/-- The characters of a code point are printing characters, and neither quotes nor backslashes. -/
theorem digitChar_printing : ∀ digit < 16,
    Nat.digitChar digit ≠ '"' ∧ Nat.digitChar digit ≠ '\\' ∧
      0x20 ≤ (Nat.digitChar digit).toNat ∧ (Nat.digitChar digit).toNat < 0x7f := by
  decide

theorem Written.upToQuote? (h : Written c chars) (rest : List Char) :
    upToQuote? (chars ++ rest) =
      (upToQuote? rest).map fun (body, after) => (chars ++ body, after) := by
  cases h with
  | name _ => rfl
  | code =>
    have htail : ∀ char ∈ ['\x7b'] ++ (Nat.toDigits 16 c.toNat ++ ['\x7d']),
        char ≠ '"' ∧ char ≠ '\\' := by
      intro char hchar
      simp only [List.mem_append, List.mem_singleton] at hchar
      rcases hchar with rfl | hchar | rfl
      · decide
      · obtain ⟨digit, hdigit, rfl⟩ := digitChar_of_mem_toDigits hchar
        have hprinting := digitChar_printing digit hdigit
        exact ⟨hprinting.1, hprinting.2.1⟩
      · decide
    have hread := upToQuote?_append htail rest
    rw [List.append_assoc, List.append_assoc] at hread
    rw [List.append_assoc, List.append_assoc]
    change (Quoted.upToQuote?
      (['\x7b'] ++ (Nat.toDigits 16 c.toNat ++ (['\x7d'] ++ rest)))).map _ = _
    rw [hread, Option.map_map]
    rfl
  | same hquote hslash _ =>
    exact upToQuote?_append (List.forall_mem_singleton.mpr ⟨hquote, hslash⟩) rest

/-! ## What shows -/

theorem isHidden_of_printing (hlow : 0x20 ≤ c.toNat) (hhigh : c.toNat < 0x7f) :
    isHidden c = false := by
  have hbeyond : hiddenBeyondAscii.contains c = false := CharSet.contains_of_lt rfl (by omega)
  simp only [isHidden, hbeyond, Bool.or_false, Bool.or_eq_false_iff, decide_eq_false_iff_not]
  omega

theorem isHidden_of_named {name : Char} (h : named? name = some c) : isHidden name = false := by
  unfold named? at h
  split at h
  case h_7 => cases h
  all_goals exact isHidden_of_printing (by decide) (by decide)

theorem Written.isHidden (h : Written c chars) : ∀ char ∈ chars, isHidden char = false := by
  cases h with
  | name hname =>
    intro char hchar
    simp only [List.mem_cons, List.not_mem_nil, or_false] at hchar
    rcases hchar with rfl | rfl
    · exact isHidden_of_printing (by decide) (by decide)
    · exact isHidden_of_named hname
  | code =>
    intro char hchar
    simp only [List.mem_append, List.mem_cons, List.not_mem_nil, or_false] at hchar
    rcases hchar with (hchar | hchar) | rfl
    · rcases hchar with rfl | rfl | rfl <;> exact isHidden_of_printing (by decide) (by decide)
    · obtain ⟨digit, hdigit, rfl⟩ := digitChar_of_mem_toDigits hchar
      have hprinting := digitChar_printing digit hdigit
      exact isHidden_of_printing hprinting.2.2.1 hprinting.2.2.2
    · exact isHidden_of_printing (by decide) (by decide)
  | same _ _ hshown => exact List.forall_mem_singleton.mpr hshown

/-! ## Whole texts -/

theorem decode_encode (text : List Char) : decode (encode text) = some text := by
  unfold decode
  induction text with
  | nil => rfl
  | cons c text ih => rw [encode_cons, (written_encodeChar c).read?, ih, Option.map_some]

theorem upToQuote?_encode (text rest : List Char) :
    upToQuote? (encode text ++ '"' :: rest) = some (encode text, rest) := by
  induction text with
  | nil => rfl
  | cons c text ih =>
    rw [encode_cons, List.append_assoc, (written_encodeChar c).upToQuote?, ih, Option.map_some]

theorem isHidden_of_mem_encode {text : List Char} {char : Char} (h : char ∈ encode text) :
    isHidden char = false := by
  obtain ⟨c, -, hchar⟩ := List.mem_flatMap.mp h
  exact (written_encodeChar c).isHidden char hchar

/-- A text stands between quotes as `body`: its characters show and stay on their line, the quote
    after them is the first that is not escaped, and `decode` reads them back. -/
structure Quotes (text body : List Char) : Prop where
  shown : ∀ char ∈ body, isHidden char = false
  closed : ∀ rest, upToQuote? (body ++ '"' :: rest) = some (body, rest)
  decoded : decode body = some text

/-- **Quoting is faithful**, whatever the text: `encode` writes what `decode` reads. -/
theorem quotes_encode (text : List Char) : Quotes text (encode text) where
  shown _ := isHidden_of_mem_encode
  closed := upToQuote?_encode text
  decoded := decode_encode text

theorem encode_injective {text other : List Char} (h : encode text = encode other) :
    text = other := by
  have hread := congrArg decode h
  rw [decode_encode, decode_encode] at hread
  exact Option.some.inj hread

theorem toList_quote (text : String) :
    (quote text).toList = '"' :: (encode text.toList ++ ['"']) := by
  rw [quote, String.toList_ofList, List.cons_append]

/-- What would set a colour or end the line does neither between quotes. -/
example : quote "\x1b[31m\n" = "\"\\u\x7b1b\x7d[31m\\n\"" := by decide

end Guarded.Text.Quoted
