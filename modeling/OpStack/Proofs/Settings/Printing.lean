import OpStack.Proofs.Settings.Sections
import OpStack.Proofs.Text.Quoted
import OpStack.Settings.Printer

/-!
# OpStack.Proofs.Settings.Printing

What is printed is a JSON text: a printed text says the text, a printed table of printed values says
the table (`written_printText`, `written_printTable`).
-/

namespace OpStack

open Document Document.Json

namespace Settings

/-! ## Texts -/

theorem hexDigit_digitChar {n : Nat} (h : n < 16) : HexDigit (Nat.digitChar n) n := by
  have hall : ∀ i : Fin 16, "0123456789abcdef".toList[i.val]? = some (Nat.digitChar i) := by decide
  exact .inl (hall ⟨n, h⟩)

theorem controlDigits_ofNat : ∀ n : Fin 32,
    controlDigits (Char.ofNat n) = ['0', '0', Nat.digitChar (n / 16), Nat.digitChar (n % 16)] := by
  decide

/-- Control characters are printed by their number. -/
theorem hex4_controlDigits {c : Char} (h : c < ' ') : Hex4 (controlDigits c) c.toNat := by
  have hlt : c.toNat < 32 := h
  have hdigits := controlDigits_ofNat ⟨c.toNat, hlt⟩
  simp only [Char.ofNat_toNat] at hdigits
  have hzero : HexDigit '0' 0 := hexDigit_digitChar (by decide)
  have hhex := Hex4.mk hzero hzero (hexDigit_digitChar (n := c.toNat / 16) (by omega))
    (hexDigit_digitChar (n := c.toNat % 16) (by omega))
  have hnumber : 0 * 0x1000 + 0 * 0x100 + c.toNat / 16 * 0x10 + c.toNat % 16 = c.toNat := by omega
  rw [hnumber] at hhex
  rw [hdigits]
  exact hhex

/-- Every character is printed in a way that spells it. -/
theorem spells_printChar (c : Char) : Spells c (printChar c) := by
  unfold printChar
  split
  · next h => exact .short (by rw [h]; decide)
  split
  · next h => exact .short (by rw [h]; decide)
  split
  · next h => exact .short (by rw [h]; decide)
  split
  · next h => exact .short (by rw [h]; decide)
  split
  · next h => exact .short (by rw [h]; decide)
  split
  · next h => exact .short (by rw [h]; decide)
  split
  · next h => exact .short (by rw [h]; decide)
  split
  · next h => exact .code (hex4_controlDigits h)
  · next hquote hslash _ _ _ _ _ hcontrol => exact .plain hquote hslash hcontrol

theorem spellsAll_printChar (cs : List Char) : SpellsAll cs (cs.flatMap printChar) := by
  induction cs with
  | nil => exact .nil
  | cons c cs ih => exact .cons (spells_printChar c) ih

/-- A printed text is one in the sense of the grammar. -/
theorem spelled_printText (s : String) : (Lexeme.text s).Spelled (printText s).toList := by
  rw [printText, String.toList_ofList]
  exact .text (spellsAll_printChar s.toList)

/-- A printed text says the text. -/
theorem written_printText (s : String) : (Tree.text s).Written (printText s) :=
  .of_spelled (spelled_printText s)

/-- A printed truth value says the truth value. -/
theorem written_printFlag (b : Bool) : (Tree.flag b).Written (printFlag b) :=
  .of_spelled (.flag b)

/-! ## Tables -/

def printMember (m : String × String) : List Char := (printText m.1 ++ ":" ++ m.2).toList

theorem toList_printTable_nil : (printTable []).toList = ['\x7b', '\x7d'] := by
  decide

theorem toList_printTable (m : String × String) (ms : List (String × String)) :
    (printTable (m :: ms)).toList =
      '\x7b' :: (printMember m ++ (ms.flatMap fun m => ',' :: printMember m) ++ ['\x7d']) := by
  rw [printTable, String.toList_append, String.toList_append, String.toList_intercalate,
    List.map_cons, List.map_cons, Text.intercalate_cons]
  simp [printMember, List.flatMap_map]

/-- A printed member is laid out as its name, a colon and its value. -/
theorem laid_printMember (name : String) {t : Tree} {w : String} (h : t.Written w) :
    Laid (.text name :: .mark ':' :: t.lexemes) (printMember (name, w)) := by
  rw [printMember, String.toList_append, String.toList_append, List.append_assoc]
  exact .lexeme (spelled_printText name) (.mark ':' h)

variable {α : Type} (name : α → String) {t : α → Tree} {w : α → String}

/-- Members are laid out with a comma before each. -/
theorem laid_printMembers (xs : List α) (h : ∀ x, (t x).Written (w x)) :
    Laid (Tree.entriesRest (xs.map fun x => (name x, t x)))
      ((xs.map fun x => (name x, w x)).flatMap fun m => ',' :: printMember m) := by
  induction xs with
  | nil => exact .nil
  | cons x xs ih =>
      have hx := laid_printMember (name x) (h x)
      simp only [List.map_cons, List.flatMap_cons, Tree.entriesRest, List.cons_append]
      exact .mark ',' (hx.append ih)

/-- A printed table says the table, if its printed values say the values. -/
theorem written_printTable (xs : List α) (h : ∀ x, (t x).Written (w x)) :
    (Tree.table (xs.map fun x => (name x, t x))).Written
      (printTable (xs.map fun x => (name x, w x))) := by
  cases xs with
  | nil =>
      rw [Tree.Written, List.map_nil, List.map_nil, toList_printTable_nil]
      exact .mark '\x7b' (.mark '\x7d' .nil)
  | cons x xs =>
      have hall := (laid_printMember (name x) (h x)).append (laid_printMembers name xs h)
      rw [Tree.Written, List.map_cons, List.map_cons, toList_printTable, Tree.lexemes, Tree.entries]
      exact .mark '\x7b' (hall.append (.of_spelled (.mark '\x7d')))

end Settings

/-! ## Settings -/

/-- How a value is printed. -/
def Setting.print : (i : Setting) → i.Value → String
  | stackId, v | level, v => Settings.printText v
  | instrument, v | enabled, v | ansiEnabled, v | includeLocation, v => Settings.printFlag v
  | format, v => Settings.printText v.word

/-- A printed value says the value. -/
theorem Setting.written_print (i : Setting) (v : i.Value) : (i.tree v).Written (i.print v) := by
  cases i with
  | stackId | level | format => exact Settings.written_printText _
  | instrument | enabled | ansiEnabled | includeLocation => exact Settings.written_printFlag v

namespace Settings

def titled (title : String) : List Setting := Setting.all.filter (·.title = title)

def members (s : Settings) : List (String × Tree) :=
  Setting.titles.map fun title =>
    (title, .table ((titled title).map fun i => (i.field, i.tree (i.get s))))

/-- The settings are printed section by section, each with its settings. -/
theorem print_eq (s : Settings) :
    s.print = printTable (Setting.titles.map fun title =>
      (title, printTable ((titled title).map fun i => (i.field, i.print (i.get s))))) :=
  rfl

/-- Printed settings say the settings. -/
theorem written_print (s : Settings) : (Tree.table s.members).Written s.print := by
  rw [print_eq]
  exact written_printTable _ _ fun title => written_printTable _ _ fun i => i.written_print _

end Settings

end OpStack
