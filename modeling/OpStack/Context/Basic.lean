import OpStack.Payload.Basic

/-!
# OpStack.Context.Basic

The context of an invocation: a deadline, a share in a cancellation flag and
typed extension data.

No clock is kept.  An invocation is taken to last no time, so a deadline has
passed exactly when it is no later than the start.  The extensions hold one cell
per type; a cell is found by its type and its payload is narrowed to that type,
which never fails for cells that the operations made.
-/

namespace OpStack

/-! ## Deadlines -/

/-- Where a deadline comes from, with its distance from the start in milliseconds. -/
inductive Deadline where
  /-- A point in time was given. -/
  | fixed (offset : Nat)
  /-- A time span was given. -/
  | timeout (span : Nat)
  deriving DecidableEq, Repr

/-- The distance of the deadline from the start, in milliseconds. -/
def Deadline.distance : Deadline → Nat
  | fixed offset => offset
  | timeout span => span

/-- The deadline is no later than the start. -/
def Deadline.hasPassed (d : Deadline) : Bool := d.distance == 0

/-- The seconds that the clock cannot reach: its reading is a signed number of 64
bits and is never zero. -/
def clockEnd : Nat := UInt64.size / 2 - 1

/-- The deadline after a time span in milliseconds, if the clock reaches it. -/
def Deadline.after? (span : Nat) : Option Deadline :=
  if span / 1000 < clockEnd then some (timeout span) else none

/-! ## Cancellation flags -/

/-- The flags that were raised.  A flag is shared by all contexts and handles that
know its number, and is never lowered. -/
structure Flags where
  raised : List Nat
  deriving DecidableEq, Repr

namespace Flags

def empty : Flags := ⟨[]⟩

instance : EmptyCollection Flags := ⟨empty⟩

/-- Says whether the flag is raised. -/
def isRaised (f : Flags) (flag : Nat) : Bool := f.raised.contains flag

def raise (f : Flags) (flag : Nat) : Flags := ⟨flag :: f.raised⟩

/-- Raising a flag raises no other. -/
@[simp] theorem isRaised_raise (f : Flags) (flag other : Nat) :
    (f.raise flag).isRaised other = (other == flag || f.isRaised other) := by
  simp only [isRaised, raise, List.contains_cons]

end Flags

variable [Payloads]

/-! ## Extensions -/

/-- One cell per type. -/
structure Extensions where
  cells : List (Payload.Kind × Payload)

namespace Extensions

def empty : Extensions := ⟨[]⟩

instance : EmptyCollection Extensions := ⟨empty⟩

/-- The cell of type `k`, whatever it holds. -/
def cell? (x : Extensions) (k : Payload.Kind) : Option Payload := x.cells.lookup k

/-- The content of type `k`. -/
def get? (x : Extensions) (k : Payload.Kind) : Option k.Content := (x.cell? k).bind (·.as? k)

/-- Says whether there is a cell of type `k`. -/
def contains (x : Extensions) (k : Payload.Kind) : Bool := (x.cell? k).isSome

/-- Takes the cell of type `k` away. -/
def erase (x : Extensions) (k : Payload.Kind) : Extensions := ⟨x.cells.filter (·.1 != k)⟩

/-- Stores a content of type `k`, in place of an earlier one. -/
def set (x : Extensions) (k : Payload.Kind) (content : k.Content) : Extensions :=
  ⟨(k, .of k content) :: (x.erase k).cells⟩

/-- Writes through to the content of type `k`, if there is one. -/
def modify (x : Extensions) (k : Payload.Kind) (f : k.Content → k.Content) : Extensions :=
  match x.get? k with
  | some content => x.set k (f content)
  | none => x

/-- The payload of type `k`. -/
def value? (x : Extensions) (k : Payload.Kind) : Option Payload := (x.get? k).map (.of k)

/-- Stores a payload under its type. -/
def setValue (x : Extensions) (v : Payload) : Extensions := x.set v.kind v.content

/-- Writes a payload over the one of its type, if there is one. -/
def writeValue (x : Extensions) (v : Payload) : Extensions := x.modify v.kind fun _ => v.content

/-- A stored content is found. -/
@[simp] theorem get?_set_self (x : Extensions) (k : Payload.Kind) (content : k.Content) :
    (x.set k content).get? k = some content := by
  simp [get?, cell?, set]

/-- A cell that was taken away is not found. -/
@[simp] theorem cell?_erase_self (x : Extensions) (k : Payload.Kind) : (x.erase k).cell? k = none := by
  simp only [cell?, erase, List.lookup_eq_none_iff, List.mem_filter]
  intro c hc
  have hne : c.1 ≠ k := bne_iff_ne.mp hc.2
  exact bne_iff_ne.mpr hne.symm

/-- Taking a cell away leaves the others. -/
theorem cell?_erase_of_ne (x : Extensions) {k j : Payload.Kind} (h : j ≠ k) :
    (x.erase k).cell? j = x.cell? j := by
  obtain ⟨cells⟩ := x
  induction cells with
  | nil => rfl
  | cons c cells ih =>
    obtain ⟨i, v⟩ := c
    simp only [cell?, erase] at ih ⊢
    by_cases hi : i = k
    · subst hi
      simp [List.lookup_cons, beq_eq_false_iff_ne.mpr h, ih]
    · by_cases hj : j = i
      · subst hj
        simp [hi]
      · simp [List.lookup_cons, hi, beq_eq_false_iff_ne.mpr hj, ih]

/-- Storing leaves the other cells. -/
theorem cell?_set_of_ne (x : Extensions) {k j : Payload.Kind} (content : k.Content) (h : j ≠ k) :
    (x.set k content).cell? j = x.cell? j := by
  rw [← x.cell?_erase_of_ne h]
  simp [cell?, set, List.lookup_cons, beq_eq_false_iff_ne.mpr h]

end Extensions

/-! ## Contexts -/

/-- The context that is handed through the calls of an invocation. -/
structure Context where
  /-- The cancellation flag that the context shares. -/
  flag : Nat := 0
  deadline : Option Deadline := none
  extensions : Extensions := ∅

namespace Context

/-- The deadline has passed. -/
def isExpired (c : Context) : Bool := c.deadline.any (·.hasPassed)

/-- A context that shares the flag and keeps the deadline, without extensions. -/
def clone (c : Context) : Context := { c with extensions := ∅ }

end Context

end OpStack
