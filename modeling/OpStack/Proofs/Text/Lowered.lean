import OpStack.Text.Blank
import OpStack.Text.LetterCase

/-!
# OpStack.Proofs.Text.Lowered

Which texts have an ASCII word for their lower case.

1. Of the ASCII characters, the capital letters become small and the others stay
   (`lowerChar_of_lt`).
2. Of the other characters only two have an ASCII character in their lower case, `i` and `k`
   (`mem_lowerChar_of_le`): the capital `i` with a dot, which leaves the dot behind, and the sign
   for the unit kelvin.
3. So a word with neither letter is the lower case of its variants in ASCII case only
   (`Lowers.eq_iff`).

A capital sigma at the end of a word may also become a final sigma.  `Lowers` allows for that,
wherever it is done: neither sigma is in a word of this kind.
-/

namespace OpStack.Text

/-! ## Characters -/

/-- What holds of all ASCII characters can be seen one by one. -/
theorem forall_ascii {P : Char → Prop} (h : ∀ n < 128, P (Char.ofNat n)) {c : Char}
    (hc : c.toNat < 128) : P c := by
  have hP := h c.toNat hc
  rwa [Char.ofNat_toNat] at hP

/-- Below 128 the mapping is that of single characters. -/
theorem lowerChar_of_lt {c : Char} (hc : c.toNat < 128) : lowerChar c = [c.toLower] :=
  forall_ascii (P := fun c => lowerChar c = [c.toLower]) (by decide +kernel) hc

/-- Only capital letters are another character in lower case, and they are ASCII. -/
theorem toNat_lt_of_toLower {c : Char} (h : c.toLower.toNat < 128) : c.toNat < 128 := by
  unfold Char.toLower at h
  split at h
  · next hupper =>
      have hle : c.val.toNat ≤ 'Z'.val.toNat := UInt32.le_iff_toNat_le.mp hupper.2
      exact Nat.lt_of_le_of_lt hle (by decide)
  · exact h

theorem isBlank_toLower {c : Char} (hc : c.toNat < 128) : isBlank c.toLower = isBlank c :=
  forall_ascii (P := fun c => isBlank c.toLower = isBlank c) (by decide +kernel) hc

/-- A run either stays in ASCII, or leads to characters behind it, or is that of the kelvin. -/
theorem lowerRuns_cases : ∀ r ∈ lowerRuns,
    r.last < 128 ∨ 128 ≤ (r.first : Int) + r.shift ∨ r = ⟨0x212a, 0x212a, 1, -8383⟩ := by
  decide +kernel

/-- No code from 128 on becomes one below it. -/
theorem le_toNat_ofNat {n : Nat} (hn : 128 ≤ n) :
    128 ≤ (Char.ofNat n).toNat ∨ Char.ofNat n = '\x00' := by
  by_cases hvalid : n.isValidChar
  · left
    rwa [Char.ofNat, dif_pos hvalid]
  · right
    rw [Char.ofNat, dif_neg hvalid]
    rfl

/-- The lower case of a character outside of ASCII is outside again, but for two. -/
theorem mem_lowerChar_of_le {c d : Char} (hc : 128 ≤ c.toNat) (hd : d ∈ lowerChar c) :
    128 ≤ d.toNat ∨ d ∈ ['\x00', 'i', 'k'] := by
  unfold lowerChar mapCase at hd
  split at hd
  · next ns hns =>
      obtain rfl : ns = [0x69, 0x307] := by
        simp only [lowerSpecials, List.lookup_cons] at hns
        split at hns
        · exact (Option.some.inj hns).symm
        · contradiction
      simp only [List.map_cons, List.map_nil, List.mem_cons, List.not_mem_nil, or_false] at hd
      rcases hd with rfl | rfl
      · exact .inr (by decide)
      · exact .inl (by decide)
  · split at hd
    · next r hr =>
        have hmem : r ∈ lowerRuns := List.mem_of_find?_eq_some hr
        have hreach : r.reaches c.toNat = true :=
          List.find?_some (p := fun r : CaseRun => r.reaches c.toNat) hr
        simp only [CaseRun.reaches, Bool.and_eq_true, decide_eq_true_eq] at hreach
        obtain ⟨⟨hfirst, hlast⟩, -⟩ := hreach
        rw [List.mem_singleton] at hd
        rcases lowerRuns_cases r hmem with hascii | hbehind | rfl
        · omega
        · have hn : 128 ≤ ((c.toNat : Int) + r.shift).toNat := by omega
          rcases le_toNat_ofNat hn with hle | hnul
          · exact .inl (hd ▸ hle)
          · exact .inr (by rw [hd, hnul]; decide)
        · have hkelvin : c.toNat = 0x212a := by
            dsimp only at hfirst hlast
            omega
          rw [hkelvin] at hd
          exact .inr (by rw [hd]; decide)
    · rw [List.mem_singleton] at hd
      exact .inl (hd ▸ hc)

/-- No character is left out. -/
theorem lowerChar_ne_nil (c : Char) : lowerChar c ≠ [] := by
  unfold lowerChar mapCase
  split
  · next ns hns =>
      simp only [lowerSpecials, List.lookup_cons] at hns
      split at hns
      · cases hns
        simp
      · contradiction
  · split <;> simp

/-! ## Texts -/

/-- The texts differ in the case of ASCII letters at most. -/
def CaseVariant (s word : String) : Prop :=
  s.toList.map Char.toLower = word.toList.map Char.toLower

instance (s word : String) : Decidable (CaseVariant s word) :=
  inferInstanceAs (Decidable (_ = _))

/-- The second text is the first in lower case, where each capital sigma may also become a
final sigma. -/
inductive Lowers : List Char → List Char → Prop
  | nil : Lowers [] []
  | char (c : Char) {cs ds : List Char} (h : Lowers cs ds) : Lowers (c :: cs) (lowerChar c ++ ds)
  | finalSigma {cs ds : List Char} (h : Lowers cs ds) : Lowers ('Σ' :: cs) ('ς' :: ds)

/-- The mapping goes character by character. -/
theorem lowers_lower (s : String) : Lowers s.toList (lower s).toList := by
  rw [lower, String.toList_ofList]
  induction s.toList with
  | nil => exact .nil
  | cons c cs ih =>
      rw [List.flatMap_cons]
      exact .char c ih

/-- Small ASCII letters, without the two that have capitals elsewhere, and other ASCII
characters that show. -/
def Keyword (word : String) : Prop :=
  ∀ d ∈ word.toList,
    d.toNat < 128 ∧ d ∉ ['\x00', 'i', 'k'] ∧ d.toLower = d ∧ isBlank d = false

-- Not the instance for properties of all characters, which looks at each of them.
instance (word : String) : Decidable (Keyword word) :=
  List.decidableBAll _ word.toList

namespace Lowers

variable {cs ds : List Char}

/-- From characters below 128 only the plain mapping comes. -/
theorem eq_of_source (h : Lowers cs ds) (hcs : ∀ c ∈ cs, c.toNat < 128) :
    ds = cs.map Char.toLower := by
  induction h with
  | nil => rfl
  | char c h ih =>
      obtain ⟨hc, hcs⟩ := List.forall_mem_cons.mp hcs
      rw [lowerChar_of_lt hc, ih hcs]
      rfl
  | finalSigma h ih => exact absurd (hcs 'Σ' List.mem_cons_self) (by decide)

/-- Other characters below 128 come only from such. -/
theorem source_ascii (h : Lowers cs ds)
    (hds : ∀ d ∈ ds, d.toNat < 128 ∧ d ∉ ['\x00', 'i', 'k']) : ∀ c ∈ cs, c.toNat < 128 := by
  induction h with
  | nil => simp
  | char c h ih =>
      obtain ⟨hhead, hds⟩ := List.forall_mem_append.mp hds
      refine List.forall_mem_cons.mpr ⟨?_, ih hds⟩
      obtain ⟨d, hd⟩ := List.exists_mem_of_ne_nil _ (lowerChar_ne_nil c)
      refine Nat.lt_of_not_le fun hc => ?_
      rcases mem_lowerChar_of_le hc hd with hle | hother
      · exact absurd (hhead d hd).1 (Nat.not_lt.mpr hle)
      · exact (hhead d hd).2 hother
  | finalSigma h ih => exact absurd (hds 'ς' List.mem_cons_self).1 (by decide)

end Lowers

namespace CaseVariant

variable {s word : String}

/-- The letters of a case variant are those of the word. -/
theorem toLower_mem (h : CaseVariant s word) (hword : Keyword word) {c : Char}
    (hc : c ∈ s.toList) : c.toLower ∈ word.toList := by
  have hmem : c.toLower ∈ s.toList.map Char.toLower := List.mem_map_of_mem hc
  rw [h, List.map_congr_left fun d hd => (hword d hd).2.2.1, List.map_id'] at hmem
  exact hmem

/-- A variant of a keyword has ASCII characters only. -/
theorem ascii (h : CaseVariant s word) (hword : Keyword word) : ∀ c ∈ s.toList, c.toNat < 128 :=
  fun _ hc => toNat_lt_of_toLower (hword _ (h.toLower_mem hword hc)).1

/-- A variant of a keyword has nothing blank in it. -/
theorem not_blank (h : CaseVariant s word) (hword : Keyword word) :
    ∀ c ∈ s.toList, isBlank c = false := by
  intro c hc
  rw [← isBlank_toLower (h.ascii hword c hc)]
  exact (hword _ (h.toLower_mem hword hc)).2.2.2

end CaseVariant

/-- A keyword is the lower case of its variants and of no other text. -/
theorem Lowers.eq_iff {s t word : String} (h : Lowers s.toList t.toList) (hword : Keyword word) :
    t = word ↔ CaseVariant s word := by
  have hself : word.toList.map Char.toLower = word.toList := by
    rw [List.map_congr_left fun d hd => (hword d hd).2.2.1, List.map_id']
  rw [CaseVariant, hself, ← String.toList_inj]
  constructor
  · intro heq
    have hascii := h.source_ascii fun d hd => by
      rw [heq] at hd
      exact ⟨(hword d hd).1, (hword d hd).2.1⟩
    rw [← h.eq_of_source hascii, heq]
  · intro heq
    have hvariant : CaseVariant s word := heq.trans hself.symm
    rw [h.eq_of_source (hvariant.ascii hword), heq]

/-- A keyword is met by its case variants alone. -/
theorem lower_eq_iff {s word : String} (hword : Keyword word) :
    lower s = word ↔ CaseVariant s word :=
  (lowers_lower s).eq_iff hword

/-- The sign for the kelvin is no variant of its lower case. -/
example : lower "\u212a" = "k" ∧ ¬ CaseVariant "\u212a" "k" := by
  decide +kernel

/-! ## Readers of words -/

/-- Without blanks nothing is trimmed. -/
theorem trim_eq_self {cs : List Char} (h : ∀ c ∈ cs, isBlank c = false) : trim cs = cs := by
  have hdrop : ∀ ds : List Char, (∀ c ∈ ds, isBlank c = false) → ds.dropWhile isBlank = ds := by
    intro ds hds
    cases ds with
    | nil => rfl
    | cons d ds => rw [List.dropWhile_cons, hds d List.mem_cons_self]; rfl
  rw [trim, hdrop cs h, hdrop cs.reverse fun c hc => h c (List.mem_reverse.mp hc),
    List.reverse_reverse]

/-- The texts that stand for a value are the variants of its words in ASCII case.  All others
are refused, above all those with other characters, and those with blanks around them. -/
structure Recognises {β : Type} (read? : String → Option β) (words : β → List String) :
    Prop where
  stands_iff (s : String) (b : β) : read? s = some b ↔ ∃ word ∈ words b, CaseVariant s word
  refuses_iff (s : String) :
    read? s = none ↔ ∀ b, ∀ word ∈ words b, ¬ CaseVariant s word
  ascii (s : String) : (∃ c ∈ s.toList, 128 ≤ c.toNat) → read? s = none
  trimmed (s : String) : trim s.toList ≠ s.toList → read? s = none

/-- It is enough to compare the lower case of a text, if the words are keywords. -/
theorem recognises_of_lower {β : Type} {read? : String → Option β} {words : β → List String}
    (hwords : ∀ b, ∀ word ∈ words b, Keyword word)
    (h : ∀ s b, read? s = some b ↔ lower s ∈ words b) : Recognises read? words := by
  have hstands : ∀ s b, read? s = some b ↔ ∃ word ∈ words b, CaseVariant s word := by
    intro s b
    rw [h]
    constructor
    · intro hmem
      exact ⟨_, hmem, (lower_eq_iff (hwords b _ hmem)).mp rfl⟩
    · rintro ⟨word, hword, hvariant⟩
      rwa [(lower_eq_iff (hwords b word hword)).mpr hvariant]
  refine ⟨hstands, fun s => ?_, ?_, ?_⟩
  · simp only [Option.eq_none_iff_forall_ne_some, ne_eq, hstands, not_exists, not_and]
  · rintro s ⟨c, hc, hle⟩
    refine Option.eq_none_iff_forall_ne_some.mpr fun b hb => ?_
    obtain ⟨word, hword, hvariant⟩ := (hstands s b).mp hb
    exact absurd (hvariant.ascii (hwords b word hword) c hc) (Nat.not_lt.mpr hle)
  · intro s htrim
    refine Option.eq_none_iff_forall_ne_some.mpr fun b hb => htrim ?_
    obtain ⟨word, hword, hvariant⟩ := (hstands s b).mp hb
    exact trim_eq_self (hvariant.not_blank (hwords b word hword))

end OpStack.Text
