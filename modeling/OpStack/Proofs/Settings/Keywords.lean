import OpStack.Proofs.Settings.Layering
import OpStack.Proofs.Settings.Variables
import OpStack.Proofs.Text.Lowered

/-!
# OpStack.Proofs.Settings.Keywords

Words that stand for something in settings: truth values and formats of logs in variables, and
the names of the formats of documents.  Each is compared in lower case, by the mapping of all of
Unicode; as the words have neither an `i` nor a `k`, exactly their variants in ASCII case are
taken (`keywords_exact`).
-/

namespace OpStack.Settings

open Text

def flagWords : Bool → List String
  | true => ["true", "1", "yes", "on"]
  | false => ["false", "0", "no", "off"]

/-- The kind of documents with the name. -/
def Dialect.named? (format : String) : Option Dialect :=
  if lower format = "toml" then some .toml
  else if lower format = "json" then some .json
  else none

/-- A flag is spelled by its words, in any case. -/
theorem flag?_eq_some_iff (value : String) (b : Bool) :
    flag? value = some b ↔ lower value ∈ flagWords b := by
  simp only [flag?, Bool.or_eq_true, decide_eq_true_eq, or_assoc]
  generalize lower value = word
  split
  · next h => rcases h with rfl | rfl | rfl | rfl <;> cases b <;> decide
  · next htrue =>
      split
      · next h => rcases h with rfl | rfl | rfl | rfl <;> cases b <;> decide
      · next hfalse =>
          cases b with
          | true => simpa [flagWords] using htrue
          | false => simpa [flagWords] using hfalse

/-- A format is spelled by its word, in any case. -/
theorem format?_eq_some_iff (value : String) (f : LogFormat) :
    format? value = some f ↔ lower value ∈ [f.word] := by
  simp only [format?]
  generalize lower value = word
  split
  · next h => subst h; cases f <;> decide
  · next hjson =>
      split
      · next h => subst h; cases f <;> decide
      · next hpretty => cases f <;> simpa [LogFormat.word]

/-- A dialect is spelled by its name, in any case. -/
theorem named?_eq_some_iff (format : String) (d : Dialect) :
    Dialect.named? format = some d ↔ lower format ∈ [d.name] := by
  rw [Dialect.named?]
  generalize lower format = word
  split
  · next h => subst h; cases d <;> decide
  · next htoml =>
      split
      · next h => subst h; cases d <;> decide
      · next hjson => cases d <;> simpa [Dialect.name]

/-- A document is read in the format with the name. -/
theorem add_document_named (files : FileTree) (l : Loader) (content format : String) :
    l.add files (.document content format) =
      match Dialect.named? format with
      | some d => ((decode d (d.read content)).mapError d.fault).map fun s =>
          { l with settings := s }
      | none => .error (.unsupportedFormat format) := by
  cases hnamed : Dialect.named? format with
  | some d =>
      have hlower := List.mem_singleton.mp ((named?_eq_some_iff format d).mp hnamed)
      rw [Loader.add, ofText_of_lower hlower]
      rfl
  | none =>
      have hother : ∀ d : Dialect, lower format ≠ d.name := fun d hd => by
        have hsome := (named?_eq_some_iff format d).mpr (List.mem_singleton.mpr hd)
        rw [hnamed] at hsome
        contradiction
      rw [Loader.add, ofText, Option.map_some]
      split
      · next h => exact absurd (Option.some.inj h) (hother .toml)
      · next h => exact absurd (Option.some.inj h) (hother .json)
      · rfl

/-- The variable for the format of logs changes it if its text is a word for one. -/
theorem overrideBy_format (lead : String) (s : Settings) (value : String) :
    overrideBy lead s (lead ++ "__LOGGING__FORMAT") value =
      match format? value with
      | some f => .ok ({ s with logging.format := f }, false)
      | none =>
        .error (.badOverride (lead ++ "__LOGGING__FORMAT") "expected 'json' or 'pretty'") := by
  have hname : lead ++ "__LOGGING__FORMAT" = lead ++ "__" ++ Setting.format.suffix := by
    rw [String.append_assoc]
    rfl
  rw [overrideBy_eq, Role.ofName_eq_of_iff.mpr hname]
  dsimp only [Setting.parse?]
  cases format? value <;> rfl

/-- **Keywords are recognised in any ASCII case, and nothing else is.**  For every text,

1. a truth value is read from the variants of `true`, `1`, `yes` and `on`, and of `false`, `0`,
   `no` and `off`;
2. the format of logs is read from the variants of `json` and `pretty`, and the variable for it
   takes just these;
3. the format of a document is named by the variants of `toml` and `json`, and a document is
   read in the format that is named.

None of them takes a text with a character outside of ASCII or with blanks around it.  Whether a
capital sigma becomes a final sigma, as at the end of a word, makes no difference. -/
theorem keywords_exact :
    Recognises flag? flagWords ∧
    Recognises format? (fun f => [f.word]) ∧
    (∀ lead s value, overrideBy lead s (lead ++ "__LOGGING__FORMAT") value =
      match format? value with
      | some f => .ok ({ s with logging.format := f }, false)
      | none =>
        .error (.badOverride (lead ++ "__LOGGING__FORMAT") "expected 'json' or 'pretty'")) ∧
    Recognises Dialect.named? (fun d => [d.name]) ∧
    (∀ files l content format, Loader.add files l (.document content format) =
      match Dialect.named? format with
      | some d => ((decode d (d.read content)).mapError d.fault).map fun s =>
          { l with settings := s }
      | none => .error (.unsupportedFormat format)) ∧
    ∀ word ∈ flagWords true ++ flagWords false ++ ["json", "pretty", "toml"], ∀ s t : String,
      Lowers s.toList t.toList → (t = word ↔ lower s = word) := by
  have hkeyword : ∀ word ∈ flagWords true ++ flagWords false ++ ["json", "pretty", "toml"],
      Keyword word := by
    decide
  refine ⟨recognises_of_lower ?_ flag?_eq_some_iff, recognises_of_lower ?_ format?_eq_some_iff,
    overrideBy_format, recognises_of_lower ?_ named?_eq_some_iff, add_document_named,
    fun word hword s t h =>
      (h.eq_iff (hkeyword word hword)).trans (lower_eq_iff (hkeyword word hword)).symm⟩
  · decide
  · intro f
    cases f <;> decide
  · intro d
    cases d <;> decide

/-- A word in mixed case, one with a long `s`, and one with a final sigma behind it. -/
theorem keywords_exact_mixed :
    flag? "oFf" = some false ∧ flag? "ye\u017f" = none ∧
    Lowers "NOΣ".toList "noς".toList ∧ lower "NOΣ" ≠ "no" := by
  obtain ⟨hflag, -, -, -, -, hsigma⟩ := keywords_exact
  have hlowers : Lowers "NOΣ".toList "noς".toList := .char 'N' (.char 'O' (.finalSigma .nil))
  refine ⟨(hflag.stands_iff "oFf" false).mpr ⟨"off", by decide, by decide⟩,
    hflag.ascii "ye\u017f" ⟨'\u017f', by decide, by decide⟩, hlowers, ?_⟩
  exact fun h => absurd ((hsigma "no" (by decide) _ _ hlowers).mpr h) (by decide)

end OpStack.Settings
