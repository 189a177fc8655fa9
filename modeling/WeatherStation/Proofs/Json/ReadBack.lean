import Mathlib.Tactic.Ring
import Mathlib.Algebra.Order.Field.Rat
import WeatherStation.Json
import WeatherStation.Proofs.Json.Reader

/-!
# `WeatherStation.Proofs.Json.ReadBack`: a document that was written is read as it was

The two stages of the reader are taken one by one.

* `assemble_value`, `assemble_fields`: the tokens of a value complete it, whatever is open around
  it.
* `numeral?_integer`: a whole number has its value. The digits of `Nat.toDigits` never start with a
  zero that the format does not allow (`toDigits_of_head`).
* `tokens?_escape`, `tokens?_quote`: each escape is read as its character, so that a text in quotes
  is one token whatever is in it, quotes, backslashes and control characters included.
* `Cuts`: a text is cut into given tokens, before anything that none of it goes on in. Each kind of
  value has a lemma that says so from its parts, and `cuts_value` follows the document.

`read?_render` joins them. Binary numbers are the one kind of value that it is not about.
-/

set_option autoImplicit false

namespace WeatherStation.Proofs.Json

open WeatherStation.Json

/-! ### What a document is to a receiver -/

mutual
/-- The document that a receiver should have. Binary numbers are left out: what they are written as
is rounded. -/
def document? : Value → Option Document
  | .null => some .null
  | .integer n => some (.number n)
  | .real _ => none
  | .text s => some (.text s)
  | .object fields => (fields? fields).map .object
/-- The fields that a receiver should have, in order. -/
def fields? : Fields → Option (List (String × Document))
  | .nil => some []
  | .cons key value rest => do
    let value ← document? value
    let rest ← fields? rest
    return (key, value) :: rest
end

mutual
/-- The tokens of a document. -/
def tokensOf : Value → List Token
  | .null => [.plain .null]
  | .integer n => [.plain (.number n)]
  | .real _ => []
  | .text s => [.text s]
  | .object fields => .openObject :: fieldTokens fields ++ [.closeObject]
/-- The tokens of fields. -/
def fieldTokens : Fields → List Token
  | .nil => []
  | .cons key value .nil => .text key :: .colon :: tokensOf value
  | .cons key value (.cons k v rest) =>
    .text key :: .colon :: tokensOf value ++ .comma :: fieldTokens (.cons k v rest)
end

/-! ### The second stage -/

open Assembly

/-- A receiver has the fields that it has of the first one and of the others. -/
theorem fields?_cons {key : String} {v : Value} {more : Fields} {ds : List (String × Document)}
    (h : fields? (.cons key v more) = some ds) :
    ∃ d others, document? v = some d ∧ fields? more = some others ∧ ds = (key, d) :: others := by
  rw [fields?] at h
  obtain ⟨d, hd, h⟩ := Option.bind_eq_some_iff.mp h
  obtain ⟨others, hothers, h⟩ := Option.bind_eq_some_iff.mp h
  exact ⟨d, others, hd, hothers, (Option.some.inj h).symm⟩

/-- A key and its colon open a place for a value. -/
theorem assemble_key (key : String) (before : List (String × Document)) (opened : Bool)
    (frames : List Frame) (rest : List Token) :
    assemble ⟨.key before opened, frames⟩ (.text key :: .colon :: rest) =
      assemble ⟨.value false, .object before key :: frames⟩ rest := by
  cases opened <;> rfl

mutual
/-- The tokens of a value complete it, whatever is open. -/
theorem assemble_value {v : Value} {d : Document} (h : document? v = some d) (opened : Bool)
    (frames : List Frame) (rest : List Token) :
    assemble ⟨.value opened, frames⟩ (tokensOf v ++ rest) = assemble ⟨.done d, frames⟩ rest := by
  cases v with
  | null =>
    obtain rfl := Option.some.inj h
    cases opened <;> rfl
  | integer n =>
    obtain rfl := Option.some.inj h
    cases opened <;> rfl
  | real x => cases h
  | text s =>
    obtain rfl := Option.some.inj h
    cases opened <;> rfl
  | object fields =>
    obtain ⟨ds, hfields, rfl⟩ := Option.map_eq_some_iff.mp h
    have hopen : assemble ⟨.value opened, frames⟩ (tokensOf (.object fields) ++ rest) =
        assemble ⟨.key [] true, frames⟩ (fieldTokens fields ++ .closeObject :: rest) := by
      simp only [tokensOf, List.cons_append, List.append_assoc, List.nil_append]
      cases opened <;> rfl
    rw [hopen]
    -- Without fields the next token closes the object. Otherwise its fields do so, one by one.
    cases fields with
    | nil =>
      obtain rfl := Option.some.inj hfields
      rfl
    | cons key v more => exact assemble_fields hfields [] true frames rest
/-- The tokens of fields complete the object in which they stand. -/
theorem assemble_fields {key : String} {v : Value} {more : Fields} {ds : List (String × Document)}
    (h : fields? (.cons key v more) = some ds) (before : List (String × Document)) (opened : Bool)
    (frames : List Frame) (rest : List Token) :
    assemble ⟨.key before opened, frames⟩
        (fieldTokens (.cons key v more) ++ .closeObject :: rest) =
      assemble ⟨.done (.object (before.reverse ++ ds)), frames⟩ rest := by
  obtain ⟨d, others, hd, hothers, rfl⟩ := fields?_cons h
  cases more with
  | nil =>
    obtain rfl := Option.some.inj hothers
    rw [fieldTokens, List.cons_append, List.cons_append, assemble_key, assemble_value hd]
    show assemble ⟨.done (.object ((key, d) :: before).reverse), frames⟩ rest = _
    rw [List.reverse_cons]
  | cons next w rest' =>
    -- The comma puts the field to those before it, and the others are read with one more of these.
    have hvalue : ∀ later, assemble ⟨.value false, .object before key :: frames⟩
        (tokensOf v ++ .comma :: later) =
        assemble ⟨.key ((key, d) :: before) false, frames⟩ later := by
      intro later
      rw [assemble_value hd]
      rfl
    rw [fieldTokens, List.append_assoc, List.cons_append, List.cons_append, assemble_key,
      List.cons_append, hvalue, assemble_fields hothers, List.reverse_cons, List.append_assoc,
      List.singleton_append]
end

/-! ### Numbers -/

/-- The digits of a number go on with a digit of less value. -/
theorem digitsValue_append_digit (n : Nat) {t : Nat} (ht : t < 10) :
    Decimal.digitsValue (Nat.toDigits 10 n ++ Nat.toDigits 10 t) = 10 * n + t := by
  have hsingle := Decimal.digitsValue_toDigits t
  rw [Nat.toDigits_of_lt_base ht] at hsingle ⊢
  rw [Decimal.digitsValue, List.foldl_append, ← Decimal.digitsValue, Decimal.digitsValue_toDigits]
  simpa [Decimal.digitsValue] using hsingle

/-- A number that starts with a zero is zero. -/
theorem toDigits_of_head {n : Nat} (h : (Nat.toDigits 10 n).head? = some '0') :
    Nat.toDigits 10 n = ['0'] := by
  induction n using Nat.strongRecOn with
  | _ n ih =>
    by_cases hsmall : n < 10
    · rw [Nat.toDigits_of_lt_base hsmall] at h ⊢
      simpa using h
    · -- The number without its last digit starts with a zero too, and it is not zero.
      have hsplit : Nat.toDigits 10 (n / 10) ++ Nat.toDigits 10 (n % 10) = Nat.toDigits 10 n := by
        rw [Nat.toDigits_append_toDigits (by decide) (by omega) (by omega), Nat.div_add_mod]
      obtain ⟨c, others, hcons⟩ :=
        List.exists_cons_of_ne_nil (Nat.toDigits_ne_nil (n := n / 10) (b := 10))
      rw [← hsplit, hcons, List.cons_append, List.head?_cons] at h
      have hzero := Decimal.digitsValue_toDigits (n / 10)
      rw [ih (n / 10) (by omega) (by rw [hcons]; exact h)] at hzero
      have hvalue : Decimal.digitsValue ['0'] = 0 := by decide
      omega

/-- A number is printed in digits. -/
theorem isDigit_of_mem {n : Nat} {c : Char} (h : c ∈ Nat.toDigits 10 n) : c.isDigit = true :=
  Nat.isDigit_of_mem_toDigits (by decide) (by decide) h

/-- The whole part of a number is read up to the first character that is no digit. -/
theorem whole_toDigits (n : Nat) {rest : List Char} (hrest : ∀ c ∈ rest.head?, c.isDigit = false) :
    (Nat.toDigits 10 n ++ rest).takeWhile Char.isDigit = Nat.toDigits 10 n ∧
      (Nat.toDigits 10 n ++ rest).dropWhile Char.isDigit = rest := by
  rw [List.takeWhile_append_of_pos fun c => isDigit_of_mem,
    List.dropWhile_append_of_pos fun c => isDigit_of_mem]
  cases rest with
  | nil => simp
  | cons c rest =>
    have hc : c.isDigit = false := hrest c rfl
    simp [hc]

/-- A number without sign, from what follows its whole part. -/
theorem magnitude?_toDigits (n : Nat) {rest fraction left : List Char} {scale : Int}
    (hrest : ∀ c ∈ rest.head?, c.isDigit = false)
    (hfraction : fraction? rest = some (fraction, left)) (hscale : scale? left = some scale) :
    magnitude? (Nat.toDigits 10 n ++ rest) =
      some ((Decimal.digitsValue (Nat.toDigits 10 n ++ fraction) : ℚ) *
        10 ^ (scale - fraction.length)) := by
  obtain ⟨htake, hdrop⟩ := whole_toDigits n hrest
  have hwhole : ¬((Nat.toDigits 10 n).isEmpty = true ∨
      ((Nat.toDigits 10 n).head? = some '0' ∧ Nat.toDigits 10 n ≠ ['0'])) := by
    rintro (hempty | ⟨hzero, hmore⟩)
    · exact Nat.toDigits_ne_nil (List.isEmpty_iff.mp hempty)
    · exact hmore (toDigits_of_head hzero)
  simp only [magnitude?, htake, hdrop, if_neg hwhole, hfraction, Option.bind_eq_bind,
    Option.bind_some, hscale]
  rfl

/-- A sign is read only where there is one. -/
theorem numeral?_of_head {text : List Char} (h : text.head? ≠ some '-') :
    numeral? text = magnitude? text := by
  cases text with
  | nil => rfl
  | cons c rest =>
    have hc : c ≠ '-' := fun hc => h (congrArg some hc)
    rw [numeral?]
    simpa using hc

/-- A number in digits does not begin with a sign, so the sign of a negative one can be told from
it. -/
theorem head?_toDigits (n : Nat) (rest : List Char) :
    (Nat.toDigits 10 n ++ rest).head? ≠ some '-' := by
  obtain ⟨c, others, hcons⟩ := List.exists_cons_of_ne_nil (Nat.toDigits_ne_nil (n := n) (b := 10))
  have hdigit : c.isDigit = true := isDigit_of_mem (n := n) (by simp [hcons])
  rw [hcons, List.cons_append, List.head?_cons]
  rintro hminus
  rw [Option.some.inj hminus] at hdigit
  exact absurd hdigit (by decide)

/-- A whole number is read as it was written. -/
theorem numeral?_integer (n : Int) : numeral? (Value.integer n).render.toList = some (n : ℚ) := by
  have habs : magnitude? (Nat.toDigits 10 n.natAbs) = some (n.natAbs : ℚ) := by
    have hend : ∀ c ∈ ([] : List Char).head?, c.isDigit = false := by simp
    have h := magnitude?_toDigits n.natAbs hend rfl rfl
    rw [List.append_nil, Decimal.digitsValue_toDigits] at h
    simpa using h
  rw [Value.render]
  by_cases hn : n < 0
  · have hnegated : -(n.natAbs : ℚ) = n := by
      rw [← Int.cast_natCast, show (n.natAbs : Int) = -n by omega, Int.cast_neg, neg_neg]
    rw [if_pos hn, String.toList_append, Nat.toList_repr]
    show (magnitude? (Nat.toDigits 10 n.natAbs)).map (fun value => -value) = _
    rw [habs, Option.map_some, hnegated]
  · have hsame : (n.natAbs : ℚ) = n := by
      rw [← Int.cast_natCast, show (n.natAbs : Int) = n by omega]
    have hhead := head?_toDigits n.natAbs []
    rw [List.append_nil] at hhead
    rw [if_neg hn, Nat.toList_repr, numeral?_of_head hhead, habs, hsame]

/-! ### Texts -/

section
variable {mode next : Mode} {c : Char}

/-- A character that completes no token. -/
theorem tokens?_quiet (h : mode.step? c = some (next, [])) (rest : List Char) :
    tokens? mode (c :: rest) = tokens? next rest := by
  simp [tokens?, h]

/-- A character that completes one token. -/
theorem tokens?_token {token : Token} (h : mode.step? c = some (next, [token]))
    (rest : List Char) :
    tokens? mode (c :: rest) = (tokens? next rest).map (token :: ·) := by
  rw [tokens?, h]
  cases hmore : tokens? next rest <;> simp [hmore]

end

/-- A backslash and a letter for it, a code unit of four digits, or the character itself. -/
theorem escape_cases (c : Char) :
    (∃ letter, letter ≠ 'u' ∧ escape c = ['\\', letter] ∧ escaped? letter = some c) ∨
    (c.toNat < 0x20 ∧ escape c =
      ['\\', 'u', '0', '0', Text.Hex.digit (c.toNat / 16), Text.Hex.digit (c.toNat % 16)]) ∨
    (c ≠ '"' ∧ c ≠ '\\' ∧ ¬c.toNat < 0x20 ∧ escape c = [c]) := by
  have hcode : ∀ {n letter}, c.toNat = n → escaped? letter = some (Char.ofNat n) →
      escaped? letter = some c := by
    rintro n letter rfl hletter
    rwa [Char.ofNat_toNat] at hletter
  -- The cases come in the order in which `escape` asks for them.
  rw [escape]
  by_cases hquote : c = '"'
  · rw [if_pos hquote]
    exact .inl ⟨'"', by decide, rfl, by rw [hquote]; rfl⟩
  rw [if_neg hquote]
  by_cases hslash : c = '\\'
  · rw [if_pos hslash]
    exact .inl ⟨'\\', by decide, rfl, by rw [hslash]; rfl⟩
  rw [if_neg hslash]
  by_cases hback : c.toNat = 0x08
  · rw [if_pos hback]
    exact .inl ⟨'b', by decide, rfl, hcode hback rfl⟩
  rw [if_neg hback]
  by_cases htab : c.toNat = 0x09
  · rw [if_pos htab]
    exact .inl ⟨'t', by decide, rfl, hcode htab rfl⟩
  rw [if_neg htab]
  by_cases hline : c.toNat = 0x0a
  · rw [if_pos hline]
    exact .inl ⟨'n', by decide, rfl, hcode hline rfl⟩
  rw [if_neg hline]
  by_cases hpage : c.toNat = 0x0c
  · rw [if_pos hpage]
    exact .inl ⟨'f', by decide, rfl, hcode hpage rfl⟩
  rw [if_neg hpage]
  by_cases hreturn : c.toNat = 0x0d
  · rw [if_pos hreturn]
    exact .inl ⟨'r', by decide, rfl, hcode hreturn rfl⟩
  rw [if_neg hreturn]
  by_cases hcontrol : c.toNat < 0x20
  · rw [if_pos hcontrol]
    exact .inr (.inl ⟨hcontrol, rfl⟩)
  rw [if_neg hcontrol]
  exact .inr (.inr ⟨hquote, hslash, hcontrol, rfl⟩)

/-- An escape is read as the character it stands for. -/
theorem tokens?_escape (c : Char) (letters rest : List Char) :
    tokens? (.quoted letters .free) (escape c ++ rest) =
      tokens? (.quoted (c :: letters) .free) rest := by
  have hslash : ∀ more, tokens? (.quoted letters .free) ('\\' :: more) =
      tokens? (.quoted letters .escape) more := tokens?_quiet rfl
  rcases escape_cases c with ⟨letter, hletter, hescape, hescaped⟩ | ⟨hcontrol, hescape⟩ |
    ⟨hquote, hplain, hcontrol, hescape⟩
  · rw [hescape, List.cons_append, hslash]
    refine tokens?_quiet ?_ rest
    simp [Mode.step?, quotedStep?, hletter, hescaped]
  · -- The first two of the four digits are zeros, and the others are those of the character.
    have hhigh : Text.Hex.value? (Text.Hex.digit (c.toNat / 16)) = some (c.toNat / 16) :=
      Text.Hex.value?_digit _ (by omega)
    have hlow : Text.Hex.value? (Text.Hex.digit (c.toNat % 16)) = some (c.toNat % 16) :=
      Text.Hex.value?_digit _ (by omega)
    have hzeros : ∀ more, tokens? (.quoted letters .escape) ('u' :: '0' :: '0' :: more) =
        tokens? (.quoted letters (.digits none 2 0)) more := by
      intro more
      rw [tokens?_quiet rfl, tokens?_quiet rfl, tokens?_quiet rfl]
      rfl
    have hthird : (Mode.quoted letters (.digits none 2 0)).step?
        (Text.Hex.digit (c.toNat / 16)) =
        some (.quoted letters (.digits none 3 (c.toNat / 16)), []) := by
      simp [Mode.step?, quotedStep?, hhigh]
    have hunit : afterUnit? letters none c.toNat = some (.quoted (c :: letters) .free) := by
      have hfirst : ¬(0xd800 ≤ c.toNat ∧ c.toNat < 0xdc00) := by omega
      have hsecond : ¬(0xdc00 ≤ c.toNat ∧ c.toNat < 0xe000) := by omega
      simp only [afterUnit?, if_neg hfirst, if_neg hsecond, Char.ofNat_toNat]
    have hfourth : (Mode.quoted letters (.digits none 3 (c.toNat / 16))).step?
        (Text.Hex.digit (c.toNat % 16)) = some (.quoted (c :: letters) .free, []) := by
      simp [Mode.step?, quotedStep?, hlow, Nat.div_add_mod, hunit]
    rw [hescape, List.cons_append, hslash]
    simp only [List.cons_append, List.nil_append]
    rw [hzeros, tokens?_quiet hthird, tokens?_quiet hfourth]
  · rw [hescape, List.singleton_append]
    refine tokens?_quiet ?_ rest
    simp [Mode.step?, quotedStep?, hquote, hplain, hcontrol]

/-- The rest of a text between quotes, with the letters that are read already. -/
theorem tokens?_letters (cs letters rest : List Char) :
    tokens? (.quoted letters .free) (cs.flatMap escape ++ '"' :: rest) =
      (tokens? .between rest).map (.text (String.ofList (letters.reverse ++ cs)) :: ·) := by
  induction cs generalizing letters with
  | nil =>
    rw [List.flatMap_nil, List.nil_append, List.append_nil]
    exact tokens?_token rfl rest
  | cons c cs ih =>
    -- The letters that are read already are kept latest first.
    rw [List.flatMap_cons, List.append_assoc, tokens?_escape, ih, List.reverse_cons,
      List.append_assoc, List.singleton_append]

/-- A text in quotes is one token, whatever is in it. -/
theorem tokens?_quote (s : String) (rest : List Char) :
    tokens? .between ((quote s).toList ++ rest) =
      (tokens? .between rest).map (.text s :: ·) := by
  rw [quote, String.toList_ofList, List.cons_append, List.cons_append, List.append_assoc,
    List.singleton_append, tokens?_quiet rfl, tokens?_letters, List.reverse_nil, List.nil_append,
    String.ofList_toList]

/-! ### Words and numbers -/

/-- A word or a number is over where this follows. -/
def Ends (rest : List Char) : Prop := ∀ c ∈ rest.head?, isPlain c = false

/-- A character of a word or a number begins one. -/
theorem betweenStep?_of_isPlain {c : Char} (h : isPlain c = true) :
    betweenStep? c = some (.plain [c], []) := by
  have hblank : ¬isBlank c = true := by
    intro hblank
    simp only [isBlank, Bool.or_eq_true, beq_iff_eq] at hblank
    rcases hblank with ((rfl | rfl) | rfl) | rfl <;> exact absurd h (by decide)
  have hquote : c ≠ '"' := by
    rintro rfl
    exact absurd h (by decide)
  rw [betweenStep?, if_neg hblank, if_neg hquote, if_pos h]

/-- The rest of a word or a number, with the letters that are read already. -/
theorem tokens?_more {more rest letters : List Char} {value : Document}
    (hmore : ∀ c ∈ more, isPlain c = true) (hrest : Ends rest)
    (hvalue : plain? (letters.reverse ++ more) = some value) :
    tokens? (.plain letters) (more ++ rest) = (tokens? .between rest).map (.plain value :: ·) := by
  induction more generalizing letters with
  | nil =>
    rw [List.append_nil] at hvalue
    rw [List.nil_append]
    cases rest with
    | nil => simp [tokens?, Mode.finish?, hvalue]
    | cons c rest =>
      -- The character that ends the word begins what comes next.
      have hc : isPlain c = false := hrest c rfl
      rw [tokens?, tokens?, Mode.step?, Mode.step?, hc, hvalue]
      cases hnext : betweenStep? c with
      | none => simp
      | some next => cases hlater : tokens? next.1 rest <;> simp [hlater]
  | cons c more ih =>
    obtain ⟨hc, hothers⟩ := List.forall_mem_cons.mp hmore
    have hstep : (Mode.plain letters).step? c = some (.plain (c :: letters), []) := by
      rw [Mode.step?, if_pos hc]
    rw [List.cons_append, tokens?_quiet hstep]
    refine ih hothers ?_
    rwa [List.reverse_cons, List.append_assoc, List.singleton_append]

/-- A word or a number is one token. -/
theorem tokens?_word {word rest : List Char} {value : Document} (hne : word ≠ [])
    (hword : ∀ c ∈ word, isPlain c = true) (hrest : Ends rest) (hvalue : plain? word = some value) :
    tokens? .between (word ++ rest) = (tokens? .between rest).map (.plain value :: ·) := by
  obtain ⟨c, more, rfl⟩ := List.exists_cons_of_ne_nil hne
  obtain ⟨hc, hmore⟩ := List.forall_mem_cons.mp hword
  have hstep : Mode.between.step? c = some (.plain [c], []) := betweenStep?_of_isPlain hc
  rw [List.cons_append, tokens?_quiet hstep]
  exact tokens?_more hmore hrest hvalue

/-- What a whole number is written with. -/
theorem digit_or_minus {n : Int} {c : Char} (h : c ∈ (Value.integer n).render.toList) :
    c.isDigit = true ∨ c = '-' := by
  rw [Value.render] at h
  split at h
  · rw [String.toList_append, List.mem_append, Nat.toList_repr] at h
    rcases h with hsign | hdigit
    · exact .inr (List.mem_singleton.mp hsign)
    · exact .inl (isDigit_of_mem hdigit)
  · rw [Nat.toList_repr] at h
    exact .inl (isDigit_of_mem h)

/-- Digits and signs need no quotes, so a number is one word. -/
theorem isPlain_of_digit_or_minus {c : Char} (h : c.isDigit = true ∨ c = '-') :
    isPlain c = true := by
  rcases h with hdigit | rfl
  · simp [isPlain, Char.isAlphanum, hdigit]
  · decide

/-- A whole number is written with at least one character, which is what makes it a word. -/
theorem render_integer_ne_nil (n : Int) : (Value.integer n).render.toList ≠ [] := by
  rw [Value.render]
  split <;> simp [String.toList_append, Nat.toList_repr, Nat.toDigits_ne_nil]

/-- The text of a whole number is none of the three words. -/
theorem plain?_integer (n : Int) :
    plain? (Value.integer n).render.toList = some (.number n) := by
  have hno : ∀ {c : Char} {word : List Char}, c ∈ word → ¬(c.isDigit = true ∨ c = '-') →
      (Value.integer n).render.toList ≠ word := by
    rintro c word hc hother rfl
    exact hother (digit_or_minus hc)
  rw [plain?, if_neg (hno (c := 'n') (by decide) (by decide)),
    if_neg (hno (c := 't') (by decide) (by decide)),
    if_neg (hno (c := 'f') (by decide) (by decide)), numeral?_integer]
  rfl

/-! ### The first stage -/

/-- After a mark a word or a number is over. -/
theorem ends_cons {c : Char} (h : isPlain c = false) (rest : List Char) : Ends (c :: rest) := by
  rintro d hd
  obtain rfl := Option.some.inj hd
  exact h

/-- A mark is one token. -/
theorem tokens?_mark (c : Char) (token : Token) (h : betweenStep? c = some (.between, [token]))
    (rest : List Char) :
    tokens? .between (c :: rest) = (tokens? .between rest).map (token :: ·) := by
  have hstep : Mode.between.step? c = some (.between, [token]) := h
  exact tokens?_token hstep rest

/-- A key and its colon. -/
theorem tokens?_key (key : String) (rest : List Char) :
    tokens? .between ((quote key).toList ++ ':' :: rest) =
      (tokens? .between rest).map (.text key :: .colon :: ·) := by
  rw [tokens?_quote, tokens?_mark ':' .colon rfl, Option.map_map]
  rfl

/-- A text is cut into these tokens, where none of it goes on in what follows. -/
def Cuts (text : List Char) (tokens : List Token) : Prop :=
  ∀ {rest}, Ends rest →
    tokens? .between (text ++ rest) = (tokens? .between rest).map (tokens ++ ·)

/-- An empty text has no tokens. -/
theorem cuts_nil : Cuts [] [] := by
  intro rest _
  cases h : tokens? .between rest <;> simp [h]

/-- An object, from its fields. -/
theorem cuts_object {fields : Fields} (h : Cuts fields.render.toList (fieldTokens fields)) :
    Cuts (Value.object fields).render.toList (tokensOf (.object fields)) := by
  intro rest _
  have htext : (Value.object fields).render.toList ++ rest =
      '\x7b' :: (fields.render.toList ++ '\x7d' :: rest) := by
    simp [Value.render]
  rw [htext, tokens?_mark '\x7b' .openObject rfl, h (ends_cons (by decide) rest),
    tokens?_mark '\x7d' .closeObject rfl]
  simp only [Option.map_map, Function.comp_def, tokensOf, List.cons_append, List.append_assoc,
    List.nil_append]

/-- The last field, from its value. -/
theorem cuts_last (key : String) {v : Value} (h : Cuts v.render.toList (tokensOf v)) :
    Cuts (Fields.cons key v .nil).render.toList (fieldTokens (.cons key v .nil)) := by
  intro rest hrest
  have htext : (Fields.cons key v .nil).render.toList ++ rest =
      (quote key).toList ++ ':' :: (v.render.toList ++ rest) := by
    simp [Fields.render]
  rw [htext, tokens?_key, h hrest]
  simp only [Option.map_map, Function.comp_def, fieldTokens, List.cons_append]

/-- A field before others, whose comma ends its value. -/
theorem cuts_field (key : String) {v : Value} {next : String} {w : Value} {more : Fields}
    (hv : Cuts v.render.toList (tokensOf v))
    (hmore : Cuts (Fields.cons next w more).render.toList (fieldTokens (.cons next w more))) :
    Cuts (Fields.cons key v (.cons next w more)).render.toList
      (fieldTokens (.cons key v (.cons next w more))) := by
  intro rest hrest
  have htext : (Fields.cons key v (.cons next w more)).render.toList ++ rest =
      (quote key).toList ++ ':' ::
        (v.render.toList ++ ',' :: ((Fields.cons next w more).render.toList ++ rest)) := by
    simp [Fields.render]
  rw [htext, tokens?_key, hv (ends_cons (by decide) _), tokens?_mark ',' .comma rfl, hmore hrest]
  simp only [Option.map_map, Function.comp_def, fieldTokens, List.cons_append, List.append_assoc]

mutual
/-- A value that was written is cut into its tokens. -/
theorem cuts_value {v : Value} {d : Document} (h : document? v = some d) :
    Cuts v.render.toList (tokensOf v) := by
  cases v with
  | null =>
    intro rest hrest
    have htext : Value.null.render.toList = ['n', 'u', 'l', 'l'] := rfl
    have hword : ['n', 'u', 'l', 'l'].all isPlain = true := by decide
    rw [htext]
    exact tokens?_word (List.cons_ne_nil _ _) (List.all_eq_true.mp hword) hrest rfl
  | integer n =>
    intro rest hrest
    have hword : ∀ c ∈ (Value.integer n).render.toList, isPlain c = true :=
      fun c hc => isPlain_of_digit_or_minus (digit_or_minus hc)
    exact tokens?_word (render_integer_ne_nil n) hword hrest (plain?_integer n)
  | real x => cases h
  | text s =>
    intro rest _
    exact tokens?_quote s rest
  | object fields =>
    obtain ⟨ds, hfields, -⟩ := Option.map_eq_some_iff.mp h
    exact cuts_object (cuts_fields hfields)
/-- The fields of an object are cut into their tokens, each key before its value and a comma between
two fields. -/
theorem cuts_fields {fields : Fields} {ds : List (String × Document)}
    (h : fields? fields = some ds) : Cuts fields.render.toList (fieldTokens fields) := by
  cases fields with
  | nil => exact cuts_nil
  | cons key v more =>
    obtain ⟨d, others, hd, hothers, -⟩ := fields?_cons h
    cases more with
    | nil => exact cuts_last key (cuts_value hd)
    | cons next w more => exact cuts_field key (cuts_value hd) (cuts_fields hothers)
end

/-! ### Reading -/

/-- What was written without binary numbers is read as it was. -/
theorem read?_render {v : Value} {d : Document} (h : document? v = some d) :
    read? v.render = some d := by
  have htokens : tokens? .between v.render.toList = some (tokensOf v) := by
    have hend : Ends [] := by simp [Ends]
    have hall := cuts_value h hend
    simpa [tokens?, Mode.finish?] using hall
  have hassemble := assemble_value h false [] []
  rw [List.append_nil] at hassemble
  rw [read?, htokens]
  exact hassemble

end WeatherStation.Proofs.Json
