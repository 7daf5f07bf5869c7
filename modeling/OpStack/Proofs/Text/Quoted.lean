import OpStack.Text.Outline

/-!
# OpStack.Proofs.Text.Quoted

Quoted texts can be read, and they say where they end.

* `readChar?` reads one written character, whatever follows it (`readChar?_append`); the closing
  quotation mark is none.
* `ending_quoteChars`: a quoted text in front of anything determines the text and what follows.
* `ending_listed`: so does a list of quoted texts; a comma goes on and a bracket ends, and neither
  can be taken for a part of an item.
-/

namespace OpStack.Text

/-! ## Written forms that say where they end -/

/-- In front of anything, a written form determines what was written, and what follows it. -/
def Ending {α : Type} (write : α → List Char) : Prop :=
  ∀ ⦃a b : α⦄ ⦃x y : List Char⦄, write a ++ x = write b ++ y → a = b ∧ x = y

namespace Ending

variable {α : Type} {write : α → List Char}

/-- Texts that say where they end are different for different things. -/
theorem injective (h : Ending write) {a b : α} (hab : write a = write b) : a = b :=
  (h (congrArg (· ++ []) hab)).1

/-- A fixed text in front changes nothing. -/
theorem after (h : Ending write) (front : List Char) : Ending fun a => front ++ write a := by
  intro a b x y hab
  simp only [List.append_assoc, List.append_cancel_left_eq] at hab
  exact h hab

/-- A fixed text behind changes nothing. -/
theorem before (h : Ending write) (back : List Char) : Ending fun a => write a ++ back := by
  intro a b x y hab
  simp only [List.append_assoc] at hab
  obtain ⟨heq, hrest⟩ := h hab
  exact ⟨heq, List.append_cancel_left hrest⟩

end Ending

/-! ## Characters -/

def hexDigitValue (d : Char) : Nat := "0123456789abcdef".toList.idxOf d

/-- The number that hexadecimal digits stand for. -/
def ofHexDigits (ds : List Char) : Nat := ds.foldl (fun n d => 16 * n + hexDigitValue d) 0

theorem hexDigitValue_digitChar : ∀ n < 16, hexDigitValue (Nat.digitChar n) = n := by
  decide +kernel

theorem digitChar_ne_brace : ∀ n < 16, Nat.digitChar n ≠ '\x7d' := by
  decide

/-- A number is read back from its hexadecimal digits. -/
theorem ofHexDigits_toDigits (n : Nat) : ofHexDigits (Nat.toDigits 16 n) = n := by
  induction n using Nat.strongRecOn with
  | ind n ih =>
      rw [Nat.toDigits_eq_if (by decide)]
      split
      · next hlt => simpa [ofHexDigits] using hexDigitValue_digitChar n hlt
      · next hge =>
          have hdiv : ofHexDigits (Nat.toDigits 16 (n / 16)) = n / 16 := ih _ (by omega)
          have hmod := hexDigitValue_digitChar (n % 16) (by omega)
          rw [ofHexDigits] at hdiv
          rw [ofHexDigits, List.foldl_append, hdiv, List.foldl_cons, List.foldl_nil, hmod]
          omega

/-- No digit closes a code. -/
theorem ne_brace_of_mem_toDigits (n : Nat) : ∀ d ∈ Nat.toDigits 16 n, d ≠ '\x7d' := by
  induction n using Nat.strongRecOn with
  | ind n ih =>
      rw [Nat.toDigits_eq_if (by decide)]
      split
      · next hlt => simp [digitChar_ne_brace n hlt]
      · next hge =>
          intro d hd
          rcases List.mem_append.mp hd with hfront | hlast
          · exact ih _ (by omega) d hfront
          · rw [List.mem_singleton.mp hlast]
            exact digitChar_ne_brace _ (by omega)

/-- The character that is written at the front of a text, and what is behind it.  A quotation
mark by itself is no character but the end. -/
def readChar? : List Char → Option (Char × List Char)
  | [] => none
  | '"' :: _ => none
  | '\\' :: '0' :: cs => some ('\x00', cs)
  | '\\' :: 't' :: cs => some ('\t', cs)
  | '\\' :: 'n' :: cs => some ('\n', cs)
  | '\\' :: 'r' :: cs => some ('\r', cs)
  | '\\' :: '"' :: cs => some ('"', cs)
  | '\\' :: '\\' :: cs => some ('\\', cs)
  | '\\' :: 'u' :: '{' :: cs =>
    let digits := cs.takeWhile (· != '\x7d')
    some (.ofNat (ofHexDigits digits), (cs.drop digits.length).drop 1)
  | '\\' :: _ => none
  | c :: cs => some (c, cs)

theorem readChar?_quote (rest : List Char) : readChar? ('"' :: rest) = none := rfl

/-- A written character is read, whatever follows. -/
theorem readChar?_append (c : Char) (rest : List Char) :
    readChar? (quoteChar c ++ rest) = some (c, rest) := by
  unfold quoteChar
  split
  · next h => rw [h]; rfl
  split
  · next h => rw [h]; rfl
  split
  · next h => rw [h]; rfl
  split
  · next h => rw [h]; rfl
  split
  · next h => rw [h]; rfl
  split
  · next h => rw [h]; rfl
  next hslash =>
  split
  · simp [readChar?, hslash]
  · have hdigits : (hexDigits c ++ '\x7d' :: rest).takeWhile (· != '\x7d') = hexDigits c := by
      rw [List.takeWhile_append_of_pos]
      · simp
      · exact fun d hd => by simpa using ne_brace_of_mem_toDigits _ d hd
    have hvalue : ofHexDigits (hexDigits c) = c.toNat := ofHexDigits_toDigits _
    simp [readChar?, hdigits, hvalue, Char.ofNat_toNat]

/-! ## Texts -/

/-- Behind the opening mark: the characters determine each other up to the closing one. -/
theorem ending_body : Ending fun cs : List Char => cs.flatMap quoteChar ++ ['"'] := by
  intro cs ds x y h
  simp only [List.append_assoc, List.singleton_append] at h
  induction cs generalizing ds with
  | nil =>
      cases ds with
      | nil => exact ⟨rfl, List.cons.inj h |>.2⟩
      | cons d ds =>
          have hread := congrArg readChar? h
          simp [readChar?_append, readChar?_quote] at hread
  | cons c cs ih =>
      have hread := congrArg readChar? h
      cases ds with
      | nil => simp [readChar?_append, readChar?_quote] at hread
      | cons d ds =>
          simp only [List.flatMap_cons, List.append_assoc, readChar?_append, Option.some.injEq,
            Prod.mk.injEq] at hread
          obtain ⟨rfl, hrest⟩ := hread
          obtain ⟨rfl, hxy⟩ := ih hrest
          exact ⟨rfl, hxy⟩

/-- A quoted text determines the text, and what follows it. -/
theorem ending_quoteChars : Ending quoteChars := by
  intro cs ds x y h
  exact ending_body (List.cons.inj h).2

/-! ## Lists of texts -/

/-- The items of a list of texts behind the first one, up to the closing bracket. -/
def listedRest (ss : List String) : List Char :=
  ss.flatMap (fun s => ',' :: ' ' :: quoteChars s.toList) ++ [']']

/-- The rest of a list says where it ends. -/
theorem ending_listedRest : Ending listedRest := by
  intro ss ts x y h
  induction ss generalizing ts with
  | nil =>
      cases ts with
      | nil => simpa [listedRest] using h
      | cons t ts => simp [listedRest] at h
  | cons s ss ih =>
      cases ts with
      | nil => simp [listedRest] at h
      | cons t ts =>
          simp only [listedRest, List.flatMap_cons, List.cons_append, List.append_assoc,
            List.cons.injEq, true_and] at h
          obtain ⟨hst, hrest⟩ := ending_quoteChars h
          obtain ⟨rfl, hxy⟩ := ih (by simpa [listedRest] using hrest)
          exact ⟨by rw [String.toList_inj.mp hst], hxy⟩

theorem intercalate_cons {α : Type} (sep x : List α) (xs : List (List α)) :
    sep.intercalate (x :: xs) = x ++ xs.flatMap (sep ++ ·) := by
  induction xs generalizing x with
  | nil => simp
  | cons y ys ih => rw [List.intercalate_cons_cons, ih, List.flatMap_cons]; simp

namespace Outline

/-- Several outlines are written one by one. -/
theorem compactAll_eq_map (os : List Outline) : compactAll os = os.map compact := by
  induction os with
  | nil => rfl
  | cons o os ih => rw [compactAll, ih, List.map_cons]

/-- What stands between the marks of a list or a record. -/
theorem toList_intercalate_compactAll (o : Outline) (os : List Outline) :
    (", ".intercalate (compactAll (o :: os))).toList =
      o.compact.toList ++ os.flatMap fun p => ", ".toList ++ p.compact.toList := by
  rw [compactAll_eq_map, String.toList_intercalate, List.map_map, List.map_cons, intercalate_cons,
    List.flatMap_map]
  rfl

/-- A record is written with its fields between braces. -/
theorem toList_compact_record (name : String) (o : Outline) (os : List Outline) :
    (record name (o :: os)).compact.toList =
      (name ++ " \x7b ").toList ++ (o.compact.toList
        ++ (os.flatMap (fun p => ", ".toList ++ p.compact.toList) ++ " \x7d".toList)) := by
  rw [compact, String.toList_append, String.toList_append, toList_intercalate_compactAll,
    List.append_assoc, List.append_assoc]

end Outline

/-- The characters of a list of texts. -/
def listed (ss : List String) : List Char := (Outline.texts ss).compact.toList

theorem listed_nil : listed [] = ['[', ']'] := by
  decide

theorem listed_cons (s : String) (ss : List String) :
    listed (s :: ss) = '[' :: quoteChars s.toList ++ listedRest ss := by
  rw [listed, Outline.texts, Outline.compact, String.toList_append, String.toList_append,
    List.map_cons, Outline.toList_intercalate_compactAll]
  simp [listedRest, Outline.compact, quote, List.flatMap_map]

/-- A list of quoted texts determines the texts, and what follows it. -/
theorem ending_listed : Ending listed := by
  intro ss ts x y h
  cases ss with
  | nil =>
      cases ts with
      | nil => simpa [listed_nil] using h
      | cons t ts => simp [listed_nil, listed_cons, quoteChars] at h
  | cons s ss =>
      cases ts with
      | nil => simp [listed_nil, listed_cons, quoteChars] at h
      | cons t ts =>
          simp only [listed_cons, List.cons_append, List.append_assoc, List.cons.injEq,
            true_and] at h
          obtain ⟨hst, hrest⟩ := ending_quoteChars h
          obtain ⟨rfl, hxy⟩ := ending_listedRest hrest
          exact ⟨by rw [String.toList_inj.mp hst], hxy⟩

end OpStack.Text
