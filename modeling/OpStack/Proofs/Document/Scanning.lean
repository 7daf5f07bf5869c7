import OpStack.Proofs.Document.Grammar

/-!
# OpStack.Proofs.Document.Scanning

The tokens of a text are those of the lexemes it is written in.

* `textBody?_append`: a character of a text is read off any of its written forms.
* `number?_append`: a number is read up to a blank, a mark or the end.
* `Tree.separated`: behind every lexeme of a value that is no mark stands a mark.
* `run_tokens`: so the machine, over the tokens of a text, runs as over the tokens of the lexemes.
  A number beyond all floats is a bad token, and the machine stops at the first of them.
-/

namespace OpStack.Document.Json

/-! ## Texts -/

/-- Hexadecimal digits are read in both cases. -/
theorem hexValue?_of_digit {d : Char} {n : Nat} (h : HexDigit d n) : hexValue? d = some n := by
  have hlower : ∀ i : Fin 16, hexValue? ("0123456789abcdef".toList[i]) = some i.val := by decide
  have hupper : ∀ i : Fin 16, hexValue? ("0123456789ABCDEF".toList[i]) = some i.val := by decide
  rcases h with h | h <;> obtain ⟨hn, rfl⟩ := List.getElem?_eq_some_iff.mp h
  · exact hlower ⟨n, hn⟩
  · exact hupper ⟨n, hn⟩

/-- Four hexadecimal digits are read as their number. -/
theorem hex4?_of_hex4 {ds : List Char} {n : Nat} (h : Hex4 ds n) :
    ∃ a b c d, ds = [a, b, c, d] ∧ hex4? a b c d = some n := by
  obtain ⟨ha, hb, hc, hd⟩ := h
  refine ⟨_, _, _, _, rfl, ?_⟩
  simp only [hex4?, hexValue?_of_digit ha, hexValue?_of_digit hb, hexValue?_of_digit hc,
    hexValue?_of_digit hd, Option.bind_eq_bind, Option.bind_some, Option.pure_def]
  congr 1
  omega

/-- Short escapes are read, and none of them is that of a code. -/
theorem escaped?_of_mem {e c : Char} (h : (e, c) ∈ shortEscapes) :
    escaped? e = some c ∧ e ≠ 'u' := by
  have hall : ∀ p ∈ shortEscapes, escaped? p.1 = some p.2 ∧ p.1 ≠ 'u' := by decide
  exact hall (e, c) h

/-- A character is no surrogate. -/
theorem toNat_bounds (c : Char) : c.toNat < 0xd800 ∨ 0xe000 ≤ c.toNat ∧ c.toNat < 0x110000 := by
  have hvalid := c.valid
  simp only [UInt32.isValidChar, Nat.isValidChar] at hvalid
  change c.toNat < 0xd800 ∨ 0xdfff < c.toNat ∧ c.toNat < 0x110000 at hvalid
  omega

/-- A character is read off its written form. -/
theorem textBody?_append {c : Char} {w : List Char} (h : Spells c w) (cs : List Char) :
    textBody? (w ++ cs) = (textBody? cs).map fun r => (c :: r.1, r.2) := by
  have hbounds := toNat_bounds c
  cases h with
  | plain hquote hslash hcontrol =>
      rw [List.singleton_append, textBody?]
      · rw [if_neg hcontrol]
      all_goals simp_all
  | short he =>
      obtain ⟨hread, hu⟩ := escaped?_of_mem he
      rw [List.cons_append, List.singleton_append, textBody?]
      · rw [hread]
      · simp_all
  | code hds =>
      obtain ⟨_, _, _, _, rfl, hread⟩ := hex4?_of_hex4 hds
      have hcode : c.toNat < 0xd800 ∨ 0xe000 ≤ c.toNat := by omega
      simp only [List.cons_append, List.nil_append]
      rw [textBody?, hread]
      simp [hcode, Char.ofNat_toNat]
  | @surrogates high low m n hc hn hhigh hlow =>
      obtain ⟨_, _, _, _, rfl, hread⟩ := hex4?_of_hex4 hhigh
      obtain ⟨_, _, _, _, rfl, hread'⟩ := hex4?_of_hex4 hlow
      have hfirst : (decide (0xd800 + m < 0xd800) || decide (0xe000 ≤ 0xd800 + m)) = false := by
        rw [Bool.or_eq_false_iff, decide_eq_false_iff_not, decide_eq_false_iff_not]
        omega
      have hnotLow : ¬ 0xdc00 ≤ 0xd800 + m := by omega
      have hsecond : (decide (0xdc00 ≤ 0xdc00 + n) && decide (0xdc00 + n < 0xe000)) = true := by
        rw [Bool.and_eq_true, decide_eq_true_iff, decide_eq_true_iff]
        omega
      have hboth : Char.ofNat (0x10000 + m * 0x400 + n) = c := by rw [← hc, Char.ofNat_toNat]
      simp only [List.cons_append, List.nil_append]
      rw [textBody?, hread]
      simp only [hfirst, Bool.false_eq_true, if_false, hnotLow, hread', hsecond, if_true,
        Nat.add_sub_cancel_left, hboth]

/-- A text is read up to its quote, however it is spelled. -/
theorem textBody?_of_spellsAll {cs ws : List Char} (h : SpellsAll cs ws) (rest : List Char) :
    textBody? (ws ++ '"' :: rest) = some (cs, rest) := by
  induction h with
  | nil => rw [List.nil_append, textBody?]
  | cons hc _ ih => rw [List.append_assoc, textBody?_append hc, ih, Option.map_some]

/-! ## Numbers -/

/-- A number ends in front of this: in front of a blank, a mark or the end. -/
def Stops : List Char → Prop
  | [] => True
  | c :: _ => isBlank c = true ∨ isMark c = true

/-- The draft of a number. -/
def IsNumber (d : Draft) : Prop := (∃ n, d = .integer n) ∨ ∃ shown, d = .decimal shown

/-- The number without an exponent. -/
def plain? (negative fraction : Bool) (digits : List Char) (s : Significand) : Option Draft :=
  if fraction then decimal? negative s none else integer? negative digits s

/-- The number whose digits are known, up to its end. -/
def ending? (negative fraction : Bool) (digits : List Char) (s : Significand) :
    List Char → Option (Draft × List Char)
  | c :: more =>
    if c = 'e' || c = 'E' then do
      let (down, ds, behind) ← exponent? more
      let d ← decimal? negative s (some (down, ds))
      pure (d, behind)
    else (plain? negative fraction digits s).map (·, c :: more)
  | [] => (plain? negative fraction digits s).map (·, [])

/-- The number whose digits in front of the point are known. -/
def pointed? (negative : Bool) (digits : List Char) (s : Significand) :
    List Char → Option (Draft × List Char)
  | '.' :: more =>
    let fs := more.takeWhile isDigit
    if fs.isEmpty then none
    else ending? negative true digits (fs.foldl (fun s c => s.fraction (digitValue c)) s)
      (more.dropWhile isDigit)
  | rest => ending? negative false digits s rest

def unsigned? (negative : Bool) (cs : List Char) : Option (Draft × List Char) :=
  let digits := cs.takeWhile isDigit
  if digits.isEmpty || (digits.head? = some '0' && 1 < digits.length) then none
  else pointed? negative digits (digits.foldl (fun s c => s.whole (digitValue c)) {})
    (cs.dropWhile isDigit)

def signed : List Char → Bool × List Char
  | '-' :: cs => (true, cs)
  | cs => (false, cs)

/-- What is read in front of a given rest. -/
theorem bind_pair {α β : Type} (o : Option α) (rest : β) :
    (o.bind fun a => some (a, rest)) = o.map (·, rest) := by
  cases o <;> rfl

/-- A number is read in steps. -/
theorem number?_eq (cs : List Char) : number? cs = unsigned? (signed cs).1 (signed cs).2 := by
  unfold number?
  split
  next negative rest hsplit =>
    have hsigned : signed cs = (negative, rest) := hsplit
    rw [hsigned]
    simp only [unsigned?]
    split
    · rfl
    -- Both sides look for a point, and then for an exponent, in what the digits leave.
    · generalize rest.dropWhile isDigit = behind
      by_cases hpoint : ∃ more, behind = '.' :: more
      · obtain ⟨more, rfl⟩ := hpoint
        simp only [pointed?]
        split
        · rfl
        · generalize more.dropWhile isDigit = tail
          cases tail <;> simp [ending?, plain?, bind_pair]
      · rw [pointed?]
        · split
          · next more => exact absurd ⟨more, rfl⟩ hpoint
          · cases behind <;> simp [ending?, plain?, bind_pair]
        · exact fun more hmore => hpoint ⟨more, hmore⟩

theorem isMark_iff {c : Char} : isMark c = true ↔ c ∈ ['[', ']', '\x7b', '\x7d', ',', ':'] :=
  List.contains_iff_mem

theorem isBlank_iff {c : Char} : isBlank c = true ↔ c ∈ [' ', '\n', '\t', '\r'] := by
  simp [isBlank, or_assoc]

/-- Marks are not blanks. -/
theorem isBlank_of_isMark {c : Char} (h : isMark c = true) : isBlank c = false := by
  have hall : ['[', ']', '\x7b', '\x7d', ',', ':'].all (!isBlank ·) = true := by decide
  simpa using List.all_eq_true.mp hall c (isMark_iff.mp h)

/-- Blanks and marks are no part of a number. -/
theorem no_number_of_separator {c : Char} (h : isBlank c = true ∨ isMark c = true) :
    isDigit c = false ∧ c ≠ '-' ∧ c ≠ '.' ∧ c ≠ 'e' ∧ c ≠ 'E' := by
  have hall : ([' ', '\n', '\t', '\r'] ++ ['[', ']', '\x7b', '\x7d', ',', ':']).all
      (fun c => !isDigit c && c != '-' && c != '.' && c != 'e' && c != 'E') = true := by decide
  have hmem := List.mem_append.mpr (h.imp isBlank_iff.mp isMark_iff.mp)
  simpa [and_assoc] using List.all_eq_true.mp hall c hmem

/-- What stops a number cannot go on with it. -/
theorem Stops.head {rest : List Char} (h : Stops rest) :
    ∀ c ∈ rest.head?, isDigit c = false ∧ c ≠ '.' ∧ c ≠ 'e' ∧ c ≠ 'E' := by
  cases rest with
  | nil => exact fun _ hc => absurd hc (by simp)
  | cons c cs =>
      rintro _ ⟨rfl⟩
      obtain ⟨hdigit, -, hrest⟩ := no_number_of_separator h
      exact ⟨hdigit, hrest⟩

/-- An exponent starts with neither digit nor point. -/
theorem ExponentPart.head {e rest : List Char} (he : ExponentPart e) (h : Stops rest) :
    ∀ c ∈ (e ++ rest).head?, isDigit c = false ∧ c ≠ '.' := by
  have hletter : ∀ c, c = 'e' ∨ c = 'E' → isDigit c = false ∧ c ≠ '.' := by
    rintro c (rfl | rfl) <;> decide
  cases he with
  | none => exact fun c hc => ⟨(h.head c hc).1, (h.head c hc).2.1⟩
  | plain he _ => simpa using hletter _ he
  | signed he _ _ => simpa using hletter _ he

/-- A fraction starts with no digit. -/
theorem FractionPart.head {f e rest : List Char} (hf : FractionPart f) (he : ExponentPart e)
    (h : Stops rest) : ∀ c ∈ (f ++ (e ++ rest)).head?, isDigit c = false := by
  cases hf with
  | none => exact fun c hc => (he.head h c hc).1
  | some _ => simp [show isDigit '.' = false from by decide]

/-- A run of digits is taken up to what stops it. -/
theorem takeWhile_digits {ds tail : List Char} (h : Digits ds)
    (htail : ∀ c ∈ tail.head?, isDigit c = false) : (ds ++ tail).takeWhile isDigit = ds := by
  rw [List.takeWhile_append_of_pos h.2]
  cases tail with
  | nil => simp
  | cons c cs => simp [htail c rfl]

/-- What is left is what stands behind the digits. -/
theorem dropWhile_digits {ds tail : List Char} (h : Digits ds)
    (htail : ∀ c ∈ tail.head?, isDigit c = false) : (ds ++ tail).dropWhile isDigit = tail := by
  rw [List.dropWhile_append_of_pos h.2]
  cases tail with
  | nil => rfl
  | cons c cs => simp [htail c rfl]

/-- Whatever may stand behind a number, the outcome for this text is the same. -/
def Settles (f : List Char → Option (Draft × List Char)) (cs : List Char) : Prop :=
  ∃ r : Option Draft, ∀ rest, Stops rest → f (cs ++ rest) = r.map (·, rest)

/-- An exponent without a sign is read in whole. -/
theorem exponent?_append {ds rest : List Char} (hds : Digits ds) (h : Stops rest) :
    exponent? (ds ++ rest) = some (false, ds, rest) := by
  have htail : ∀ c ∈ rest.head?, isDigit c = false := fun c hc => (h.head c hc).1
  obtain ⟨d, ds', rfl⟩ := List.exists_cons_of_ne_nil hds.1
  have hd : isDigit d = true := hds.2 d List.mem_cons_self
  have hplus : d ≠ '+' := by rintro rfl; exact absurd hd (by decide)
  have hminus : d ≠ '-' := by rintro rfl; exact absurd hd (by decide)
  have htake := takeWhile_digits hds htail
  have hdrop := dropWhile_digits hds htail
  rw [List.cons_append] at *
  simp [exponent?, hplus, hminus, htake, hdrop]

/-- An exponent with a sign is read in whole. -/
theorem exponent?_signed {sign : Char} {ds rest : List Char} (hsign : sign = '+' ∨ sign = '-')
    (hds : Digits ds) (h : Stops rest) :
    exponent? (sign :: (ds ++ rest)) = some (sign == '-', ds, rest) := by
  have htail : ∀ c ∈ rest.head?, isDigit c = false := fun c hc => (h.head c hc).1
  rcases hsign with rfl | rfl <;>
    simp [exponent?, takeWhile_digits hds htail, dropWhile_digits hds htail, hds.1]

theorem ending?_settles (negative fraction : Bool) (digits : List Char) (s : Significand)
    {e : List Char} (he : ExponentPart e) : Settles (ending? negative fraction digits s) e := by
  cases he with
  | none =>
      refine ⟨plain? negative fraction digits s, fun rest h => ?_⟩
      cases rest with
      | nil => rfl
      | cons c cs =>
          obtain ⟨-, -, hlower, hupper⟩ := h.head c rfl
          simp [ending?, hlower, hupper]
  | @plain e ds he hds =>
      refine ⟨decimal? negative s (some (false, ds)), fun rest h => ?_⟩
      simp [ending?, he, exponent?_append hds h, bind_pair]
  | @signed e sign ds he hsign hds =>
      refine ⟨decimal? negative s (some (sign == '-', ds)), fun rest h => ?_⟩
      simp [ending?, he, exponent?_signed hsign hds h, bind_pair]

/-- Without a point there is no fraction. -/
theorem pointed?_of_ne {negative : Bool} {digits : List Char} {s : Significand} {cs : List Char}
    (h : ∀ c ∈ cs.head?, c ≠ '.') :
    pointed? negative digits s cs = ending? negative false digits s cs := by
  rw [pointed?]
  rintro more rfl
  exact h '.' rfl rfl

/-- Fraction and exponent are read in whole. -/
theorem pointed?_settles (negative : Bool) (digits : List Char) (s : Significand)
    {f e : List Char} (hf : FractionPart f) (he : ExponentPart e) :
    Settles (pointed? negative digits s) (f ++ e) := by
  cases hf with
  | none =>
      obtain ⟨r, hr⟩ := ending?_settles negative false digits s he
      refine ⟨r, fun rest h => ?_⟩
      rw [List.nil_append, pointed?_of_ne fun c hc => (he.head h c hc).2, hr rest h]
  | @some ds hds =>
      obtain ⟨r, hr⟩ := ending?_settles negative true digits
        (ds.foldl (fun s c => s.fraction (digitValue c)) s) he
      refine ⟨r, fun rest h => ?_⟩
      have hhead : ∀ c ∈ (e ++ rest).head?, isDigit c = false := fun c hc => (he.head h c hc).1
      simp only [List.cons_append, List.append_assoc, pointed?, takeWhile_digits hds hhead,
        dropWhile_digits hds hhead, List.isEmpty_eq_false_iff.mpr hds.1]
      exact hr rest h

/-- Without its sign a number is read in whole. -/
theorem unsigned?_settles (negative : Bool) {whole f e : List Char} (hw : WholePart whole)
    (hf : FractionPart f) (he : ExponentPart e) :
    Settles (unsigned? negative) (whole ++ (f ++ e)) := by
  obtain ⟨r, hr⟩ := pointed?_settles negative whole
    (whole.foldl (fun s c => s.whole (digitValue c)) {}) hf he
  refine ⟨r, fun rest h => ?_⟩
  have hhead : ∀ c ∈ (f ++ (e ++ rest)).head?, isDigit c = false := hf.head he h
  have hproper : (whole.isEmpty || (whole.head? = some '0' && 1 < whole.length)) = false := by
    have hne : whole.isEmpty = false := List.isEmpty_eq_false_iff.mpr hw.1.1
    by_cases hzero : whole.head? = some '0'
    · simp [hw.2 hzero]
    · simp [hne, hzero]
  simp only [List.append_assoc] at hr ⊢
  simp only [unsigned?, takeWhile_digits hw.1 hhead, dropWhile_digits hw.1 hhead, hproper]
  exact hr rest h

/-- Digits have no sign in front of them. -/
theorem signed_of_digits {ds : List Char} (h : Digits ds) (cs : List Char) :
    signed (ds ++ cs) = (false, ds ++ cs) := by
  obtain ⟨d, ds, rfl⟩ := List.exists_cons_of_ne_nil h.1
  have hd : isDigit d = true := h.2 d List.mem_cons_self
  rw [List.cons_append, signed]
  rintro _ ⟨rfl⟩
  exact absurd hd (by decide)

/-- A numeral is read in whole, whatever stops it. -/
theorem number?_settles {n : List Char} (hn : Numeral n) : Settles number? n := by
  cases hn with
  | positive hw hf he =>
      obtain ⟨r, hr⟩ := unsigned?_settles false hw hf he
      refine ⟨r, fun rest h => ?_⟩
      rw [number?_eq, List.append_assoc, signed_of_digits hw.1, ← List.append_assoc]
      exact hr rest h
  | negative hw hf he =>
      obtain ⟨r, hr⟩ := unsigned?_settles true hw hf he
      exact ⟨r, fun rest h => by rw [number?_eq]; exact hr rest h⟩

/-- A number is read up to where it ends. -/
theorem number?_append {n rest : List Char} (hn : Numeral n) (h : Stops rest) :
    number? (n ++ rest) = (number? n).map fun r => (r.1, rest) := by
  obtain ⟨r, hr⟩ := number?_settles hn
  have halone : number? n = r.map (·, []) := by simpa using hr [] trivial
  rw [hr rest h, halone, Option.map_map]
  rfl

/-! ### What a number is read as -/

/-- What is read as a decimal is a number. -/
theorem decimal?_isNumber {negative : Bool} {s : Significand} {e : Option (Bool × List Char)}
    {d : Draft} (h : decimal? negative s e = some d) : IsNumber d := by
  cases e with
  | none =>
      obtain ⟨f, -, rfl⟩ := Option.map_eq_some_iff.mp h
      exact .inr ⟨_, rfl⟩
  | some p =>
      obtain ⟨down, ds⟩ := p
      by_cases hsize : ds.foldl (fun n c => 10 * n + digitValue c) 0 ≤ exponentEnd
      · simp only [decimal?, hsize, if_true] at h
        obtain ⟨f, -, rfl⟩ := Option.map_eq_some_iff.mp h
        exact .inr ⟨_, rfl⟩
      · by_cases hsmall : (s.value = 0 || down) = true
        · simp only [decimal?, hsize, hsmall, if_true, if_false] at h
          exact .inr ⟨_, (Option.some.inj h).symm⟩
        · simp [decimal?, hsize, hsmall] at h

theorem integer?_isNumber {negative : Bool} {digits : List Char} {s : Significand} {d : Draft}
    (h : integer? negative digits s = some d) : IsNumber d := by
  unfold integer? at h
  simp only at h
  split at h
  · split at h
    · exact .inl ⟨_, (Option.some.inj h).symm⟩
    · exact decimal?_isNumber h
  · split at h
    · exact .inl ⟨_, (Option.some.inj h).symm⟩
    · exact decimal?_isNumber h

theorem plain?_isNumber {negative fraction : Bool} {digits : List Char} {s : Significand}
    {d : Draft} (h : plain? negative fraction digits s = some d) : IsNumber d := by
  rw [plain?] at h
  split at h
  · exact decimal?_isNumber h
  · exact integer?_isNumber h

theorem ending?_isNumber {negative fraction : Bool} {digits : List Char} {s : Significand}
    {cs rest : List Char} {d : Draft}
    (h : ending? negative fraction digits s cs = some (d, rest)) : IsNumber d := by
  cases cs with
  | nil =>
      obtain ⟨_, hplain, ⟨rfl⟩⟩ := Option.map_eq_some_iff.mp h
      exact plain?_isNumber hplain
  | cons c cs =>
      rw [ending?] at h
      split at h
      · obtain ⟨p, -, hp⟩ := Option.bind_eq_some_iff.mp h
        obtain ⟨_, hd, ⟨rfl⟩⟩ := Option.bind_eq_some_iff.mp hp
        exact decimal?_isNumber hd
      · obtain ⟨_, hplain, ⟨rfl⟩⟩ := Option.map_eq_some_iff.mp h
        exact plain?_isNumber hplain

/-- What is read as a number is one. -/
theorem number?_isNumber {cs rest : List Char} {d : Draft} (h : number? cs = some (d, rest)) :
    IsNumber d := by
  rw [number?_eq] at h
  unfold unsigned? at h
  simp only at h
  split at h
  · contradiction
  · unfold pointed? at h
    split at h
    · simp only at h
      split at h
      · contradiction
      · exact ending?_isNumber h
    · exact ending?_isNumber h

/-! ## Lexemes -/

/-- The value that the text of a number says; none if it is beyond all floats. -/
def numberDraft? (numeral : List Char) : Option Draft := (number? numeral).map (·.1)

/-- The token of a value, which may be none. -/
def Token.ofDraft? : Option Draft → Token
  | some d => .scalar d
  | none => .bad

def Lexeme.token : Lexeme → Token
  | mark c => .mark c
  | null => .scalar .null
  | flag b => .scalar (.flag b)
  | number numeral => .ofDraft? (numberDraft? numeral)
  | text s => .scalar (.text s)

/-- At the beginning is a mark, or nothing. -/
def Led : List Lexeme → Prop
  | [] => True
  | .mark c :: _ => isMark c = true
  | _ :: _ => False

/-- The marks are marks, and what is no mark has one behind it, or nothing. -/
def Separated : List Lexeme → Prop
  | [] => True
  | .mark c :: ls => isMark c = true ∧ Separated ls
  | _ :: ls => Led ls ∧ Separated ls

/-- Behind a scalar a mark or a blank has to follow. -/
theorem separated_cons_iff {l : Lexeme} (hmark : ∀ c, l ≠ .mark c) {ls : List Lexeme} :
    Separated (l :: ls) ↔ Led ls ∧ Separated ls := by
  cases l with
  | mark c => exact absurd rfl (hmark c)
  | _ => rfl

/-- What follows a scalar stops a number. -/
theorem Laid.stops {ls : List Lexeme} {cs : List Char} (h : Laid ls cs) (hled : Led ls) :
    Stops cs := by
  cases h with
  | nil => trivial
  | blank hc _ => exact .inl (isBlank_iff.mpr hc)
  | lexeme hl _ =>
      cases hl with
      | mark c => exact .inr hled
      | _ => exact hled.elim

/-- A numeral starts with a sign or a digit. -/
theorem Numeral.exists_cons {n : List Char} (hn : Numeral n) :
    ∃ c cs, n = c :: cs ∧ (c = '-' ∨ isDigit c = true) := by
  cases hn with
  | @positive whole f e hw hf he =>
      obtain ⟨c, cs, rfl⟩ := List.exists_cons_of_ne_nil hw.1.1
      exact ⟨c, cs ++ (f ++ e), rfl, .inr (hw.1.2 c List.mem_cons_self)⟩
  | negative _ _ _ => exact ⟨_, _, rfl, .inl rfl⟩

theorem scalar?_of_number {c : Char} {cs : List Char} (h : c = '-' ∨ isDigit c = true) :
    scalar? (c :: cs) = number? (c :: cs) := by
  have hne : c ≠ '"' ∧ c ≠ 'n' ∧ c ≠ 't' ∧ c ≠ 'f' := by
    refine ⟨?_, ?_, ?_, ?_⟩ <;> rintro rfl <;> simp [isDigit] at h
  rw [scalar?] <;> simp_all

/-- A lexeme that is no mark does not begin like a blank or a mark, and is read by itself. -/
theorem Lexeme.Spelled.scalar? {l : Lexeme} {w cs : List Char} (hl : l.Spelled w)
    (hmark : ∀ c, l ≠ .mark c) (h : Stops cs) :
    (∃ c w', w = c :: w' ∧ isBlank c = false ∧ isMark c = false) ∧
      ∃ d?, l.token = .ofDraft? d? ∧ Json.scalar? (w ++ cs) = d?.map (·, cs) := by
  cases hl with
  | mark c => exact absurd rfl (hmark c)
  | null => exact ⟨⟨'n', _, rfl, by decide, by decide⟩, some .null, rfl, rfl⟩
  | flag b =>
      cases b with
      | false => exact ⟨⟨'f', _, rfl, by decide, by decide⟩, some (.flag false), rfl, rfl⟩
      | true => exact ⟨⟨'t', _, rfl, by decide, by decide⟩, some (.flag true), rfl, rfl⟩
  | @number n hn =>
      obtain ⟨c, w', rfl, hc⟩ := hn.exists_cons
      have hseparator : ¬ (isBlank c = true ∨ isMark c = true) := by
        intro hsep
        obtain ⟨hdigit, hminus, -⟩ := no_number_of_separator hsep
        rcases hc with rfl | hc
        · exact hminus rfl
        · exact absurd hc (by simp [hdigit])
      refine ⟨⟨c, w', rfl, by simpa using hseparator⟩, numberDraft? (c :: w'), rfl, ?_⟩
      rw [List.cons_append, scalar?_of_number hc, ← List.cons_append, number?_append hn h,
        numberDraft?, Option.map_map]
      rfl
  | @text s ws hws =>
      refine ⟨⟨'"', _, rfl, by decide, by decide⟩, some (.text s), rfl, ?_⟩
      simp [Json.scalar?, textBody?_of_spellsAll hws]

/-! ## Runs -/

/-- What the machine does over lexemes. -/
def run (s : State) (ls : List Lexeme) : State := (ls.map Lexeme.token).foldl State.step s

@[simp] theorem run_nil (s : State) : run s [] = s := rfl

@[simp] theorem run_cons (s : State) (l : Lexeme) (ls : List Lexeme) :
    run s (l :: ls) = run (s.step l.token) ls := rfl

/-- The machine reads in parts. -/
theorem run_append (s : State) (ls ms : List Lexeme) : run s (ls ++ ms) = run (run s ls) ms := by
  simp [run]

/-- An ended document takes no further token. -/
theorem foldl_ended (doc : Document) (ts : List Token) :
    ts.foldl State.step (.ended doc) = .ended doc := by
  induction ts with
  | nil => rfl
  | cons t ts ih => exact ih

@[simp] theorem run_ended (doc : Document) (ls : List Lexeme) :
    run (.ended doc) ls = .ended doc :=
  foldl_ended doc _

/-- The machine stops at a bad token. -/
theorem exists_step_bad (s : State) : ∃ doc, s.step .bad = .ended doc := by
  cases s with
  | entry first frames =>
      cases frames with
      | nil => exact ⟨_, rfl⟩
      | cons f fs => cases f <;> exact ⟨_, rfl⟩
  | after frames =>
      cases frames with
      | nil => exact ⟨_, rfl⟩
      | cons f fs => cases f <;> exact ⟨_, rfl⟩
  | _ => exact ⟨_, rfl⟩

/-- Blanks are no tokens. -/
theorem tokens_blank {c : Char} (hc : isBlank c = true) (cs : List Char) :
    tokens (c :: cs) = tokens cs := by
  rw [tokens, if_pos hc]

theorem tokens_mark {c : Char} (hc : isMark c = true) (cs : List Char) :
    tokens (c :: cs) = .mark c :: tokens cs := by
  rw [tokens, isBlank_of_isMark hc, if_neg Bool.false_ne_true, if_pos hc]

/-- The machine reads a lexeme off its text. -/
theorem foldl_tokens_lexeme {l : Lexeme} {w cs : List Char} (hl : l.Spelled w)
    (hmark : ∀ c, l ≠ .mark c) (h : Stops cs) (s : State) :
    (tokens (w ++ cs)).foldl State.step s = (tokens cs).foldl State.step (s.step l.token) := by
  obtain ⟨⟨c, w', rfl, hblank, hnomark⟩, d?, htoken, hread⟩ := hl.scalar? hmark h
  rw [List.cons_append] at hread ⊢
  rw [tokens, hblank, hnomark, hread, htoken]
  cases d? with
  | none =>
      -- The tokens end here, the lexemes do not, but the machine no longer minds.
      obtain ⟨doc, hdoc⟩ := exists_step_bad s
      simp [Token.ofDraft?, hdoc, foldl_ended]
  | some d =>
      have hshorter : cs.length < w'.length + cs.length + 1 := by omega
      simp [Token.ofDraft?, hshorter]

/-- The machine reads the lexemes off their text. -/
theorem foldl_tokens {ls : List Lexeme} {cs : List Char} (h : Laid ls cs) (hls : Separated ls)
    (s : State) : (tokens cs).foldl State.step s = run s ls := by
  induction h generalizing s with
  | nil => simp [tokens]
  | blank hc _ ih =>
      rw [tokens_blank (isBlank_iff.mpr hc)]
      exact ih hls s
  | @lexeme l ls w cs hl h ih =>
      by_cases hmark : ∃ c, l = .mark c
      · obtain ⟨c, rfl⟩ := hmark
        cases hl
        rw [List.singleton_append, tokens_mark hls.1, List.foldl_cons]
        exact ih hls.2 _
      · have hmark : ∀ c, l ≠ .mark c := fun c hc => hmark ⟨c, hc⟩
        obtain ⟨hled, hrest⟩ := (separated_cons_iff hmark).mp hls
        rw [foldl_tokens_lexeme hl hmark (h.stops hled)]
        exact ih hrest _

/-! ## The lexemes of a value -/

/-- Behind a value go on lexemes that are separated, and begin with a mark. -/
def Follows (ls : List Lexeme) : Prop := Led ls ∧ Separated ls

theorem Follows.mark {c : Char} (hc : isMark c = true) {ls : List Lexeme} (h : Separated ls) :
    Follows (.mark c :: ls) :=
  ⟨hc, hc, h⟩

mutual

/-- In the lexemes of a tree no scalar meets another. -/
theorem Tree.separated {ls : List Lexeme} (h : Follows ls) :
    ∀ t : Tree, Separated (t.lexemes ++ ls)
  | .null | .flag _ | .number _ | .text _ => h
  | .list [] => ⟨rfl, rfl, h.2⟩
  | .list (t :: ts) => by
      simp only [Tree.lexemes, Tree.listed, List.cons_append, List.append_assoc, List.nil_append]
      exact ⟨rfl, t.separated (follows_listedRest (.mark rfl h.2) ts)⟩
  | .table [] => ⟨rfl, rfl, h.2⟩
  | .table ((name, t) :: ms) => by
      simp only [Tree.lexemes, Tree.entries, List.cons_append, List.append_assoc, List.nil_append]
      exact ⟨rfl, rfl, rfl, t.separated (follows_entriesRest (.mark rfl h.2) ms)⟩

theorem follows_listedRest {ls : List Lexeme} (h : Follows ls) :
    ∀ ts : List Tree, Follows (Tree.listedRest ts ++ ls)
  | [] => h
  | t :: ts => by
      simp only [Tree.listedRest, List.cons_append, List.append_assoc]
      exact .mark rfl (t.separated (follows_listedRest h ts))

theorem follows_entriesRest {ls : List Lexeme} (h : Follows ls) :
    ∀ ms : List (String × Tree), Follows (Tree.entriesRest ms ++ ls)
  | [] => h
  | (name, t) :: ms => by
      simp only [Tree.entriesRest, List.cons_append, List.append_assoc]
      exact .mark rfl ⟨rfl, rfl, t.separated (follows_entriesRest h ms)⟩

end

/-- The machine reads the lexemes of a value off any text that says it. -/
theorem Tree.Written.foldl_tokens {t : Tree} {text : String} (h : t.Written text) (s : State) :
    (tokens text.toList).foldl State.step s = run s t.lexemes := by
  have hend : Follows [] := ⟨trivial, trivial⟩
  have hseparated : Separated t.lexemes := by simpa using t.separated hend
  exact Json.foldl_tokens h hseparated s

end OpStack.Document.Json
