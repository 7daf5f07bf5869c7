import OpStack.Fault

/-!
# OpStack.Registry.Basic

The ordered registry behind every step: entries in execution order, each under an
identifier of its own.

* `add` puts an entry at the front or the back, `insert` immediately before or
  after an anchor; a later insert comes closer to the anchor than an earlier one.
* `swap` puts an entry in the place of another, which may change the identifier
  of that place.
* `remove` and `clear` take entries out.

An operation succeeds completely or fails without a change.  A success reports
one `Registry.Event`.
-/

namespace OpStack

/-- Where to place an entry: in front of an anchor (or of all entries) or behind. -/
inductive Position where
  | before
  | after
  deriving DecidableEq, Repr

/-- The name of the position in events. -/
def Position.name : Position → String
  | before => "Before"
  | after => "After"

/-- Entries that know the identifier they are registered under. -/
class Identified (α : Type) where
  id : α → String

/-- A place in a registry: an entry and the identifier that it is found by. -/
structure Slot (α : Type) where
  key : String
  entry : α
  deriving DecidableEq, Repr

/-- Entries in execution order; the first one runs first. -/
structure Registry (α : Type) where
  slots : List (Slot α)
  deriving DecidableEq, Repr

namespace Registry

/-- What a successful change reports. -/
inductive Event where
  | cleared
  | removed (id : String)
  | added (id : String) (position : Position)
  | inserted (id anchor : String) (position : Position)
  /-- The place of `id` has a new entry; `replacement` is its identifier if it is another. -/
  | swapped (id : String) (replacement : Option String)
  deriving DecidableEq, Repr

/-- A change of the places themselves. -/
inductive Edit (α : Type) where
  /-- Opens a place at `index` for a new entry. -/
  | place (index : Nat) (key : String) (entry : α)
  /-- Takes the place at `index` away. -/
  | drop (index : Nat)
  /-- Puts another entry into the place at `index`. -/
  | fill (index : Nat) (entry : α)
  /-- Takes all places away. -/
  | wipe
  deriving DecidableEq, Repr

/-- A successful change: what the caller gets, what is done to the places, the report. -/
structure Change (α β : Type) where
  value : β
  edits : List (Edit α)
  event : Event

variable {α : Type}

def empty : Registry α := ⟨[]⟩

instance : EmptyCollection (Registry α) := ⟨empty⟩

/-! ## Reading -/

def size (r : Registry α) : Nat := r.slots.length

def isEmpty (r : Registry α) : Bool := r.slots.isEmpty

/-- The identifiers in execution order. -/
def ids (r : Registry α) : List String := r.slots.map (·.key)

/-- The entries in execution order. -/
def order (r : Registry α) : List α := r.slots.map (·.entry)

/-- The place of `id`, counted from the front. -/
def indexOf? (r : Registry α) (id : String) : Option Nat := r.slots.findIdx? (·.key == id)

/-- The entry under `id`. -/
def get? (r : Registry α) (id : String) : Option α :=
  (r.slots.find? (·.key == id)).map (·.entry)

/-- Says whether `id` has an entry. -/
def contains (r : Registry α) (id : String) : Bool := r.slots.any (·.key == id)

/-! ## Changing -/

/-- Opens a place at `index` for the entry; what stood there and behind moves back. -/
def placeAt (r : Registry α) (index : Nat) (key : String) (entry : α) : Registry α :=
  ⟨r.slots.insertIdx index ⟨key, entry⟩⟩

/-- Takes away the place at `index`. -/
def dropAt (r : Registry α) (index : Nat) : Registry α := ⟨r.slots.eraseIdx index⟩

/-- Puts the entry into the place at `index`, which keeps its identifier. -/
def fillAt (r : Registry α) (index : Nat) (entry : α) : Registry α :=
  ⟨r.slots.modify index fun s => { s with entry }⟩

/-- Whatever is read off each place, a new place adds its own where it was opened. -/
theorem map_slots_placeAt {β : Type} (f : Slot α → β) (r : Registry α) (index : Nat)
    (key : String) (entry : α) :
    (r.placeAt index key entry).slots.map f = (r.slots.map f).insertIdx index (f ⟨key, entry⟩) := by
  obtain ⟨slots⟩ := r
  simp only [placeAt]
  induction slots generalizing index with
  | nil => cases index <;> simp
  | cons s slots ih => cases index <;> simp [ih]

/-- Whatever is read off each place, dropping a place drops its own. -/
theorem map_slots_dropAt {β : Type} (f : Slot α → β) (r : Registry α) (index : Nat) :
    (r.dropAt index).slots.map f = (r.slots.map f).eraseIdx index := by
  obtain ⟨slots⟩ := r
  simp only [dropAt]
  induction slots generalizing index with
  | nil => rfl
  | cons s slots ih => cases index <;> simp [ih]

/-- The identifier of a new place stands among the others where the place was opened. -/
@[simp] theorem ids_placeAt (r : Registry α) (index : Nat) (key : String) (entry : α) :
    (r.placeAt index key entry).ids = r.ids.insertIdx index key :=
  r.map_slots_placeAt (·.key) index key entry

/-- The entry of a new place stands among the others where the place was opened. -/
@[simp] theorem order_placeAt (r : Registry α) (index : Nat) (key : String) (entry : α) :
    (r.placeAt index key entry).order = r.order.insertIdx index entry :=
  r.map_slots_placeAt (·.entry) index key entry

/-- The identifiers without the one of a dropped place. -/
@[simp] theorem ids_dropAt (r : Registry α) (index : Nat) :
    (r.dropAt index).ids = r.ids.eraseIdx index :=
  r.map_slots_dropAt (·.key) index

/-- The entries without the one of a dropped place. -/
@[simp] theorem order_dropAt (r : Registry α) (index : Nat) :
    (r.dropAt index).order = r.order.eraseIdx index :=
  r.map_slots_dropAt (·.entry) index

/-- Filling a place keeps all identifiers. -/
@[simp] theorem ids_fillAt (r : Registry α) (index : Nat) (entry : α) :
    (r.fillAt index entry).ids = r.ids := by
  obtain ⟨slots⟩ := r
  simp only [ids, fillAt]
  induction slots generalizing index with
  | nil => cases index <;> rfl
  | cons s slots ih => cases index <;> simp_all [List.modify_zero_cons, List.modify_succ_cons]

def edit (r : Registry α) : Edit α → Registry α
  | .place index key entry => r.placeAt index key entry
  | .drop index => r.dropAt index
  | .fill index entry => r.fillAt index entry
  | .wipe => ∅

/-- Makes the edits in order. -/
def edited (r : Registry α) (edits : List (Edit α)) : Registry α := edits.foldl edit r

/-- Takes every entry out. -/
def clear (_ : Registry α) : Change α Unit := ⟨(), [.wipe], .cleared⟩

/-- Takes the entry under `id` out and returns it. -/
def remove (r : Registry α) (id : String) : Except Error (Change α α) :=
  match r.indexOf? id, r.get? id with
  | some index, some entry => .ok ⟨entry, [.drop index], .removed id⟩
  | _, _ => .error (.notFound id)

variable [Identified α]

/-- The identifier under which a new entry can be registered. -/
def newId (r : Registry α) (entry : α) : Except Error String :=
  let id := Identified.id entry
  if id = "" then .error .emptyId
  else if r.contains id then .error (.duplicateId id)
  else .ok id

/-- Adds the entry at the front or the back. -/
def add (r : Registry α) (entry : α) (position : Position) : Except Error (Change α Unit) := do
  let id ← r.newId entry
  let index := match position with
    | .before => 0
    | .after => r.size
  return ⟨(), [.place index id entry], .added id position⟩

/-- Adds the entry immediately before or after the one under `anchor`.  The new
identifier is looked at first, the anchor second. -/
def insert (r : Registry α) (entry : α) (anchor : String) (position : Position) :
    Except Error (Change α Unit) := do
  let id ← r.newId entry
  match r.indexOf? anchor with
  | none => .error (.anchorNotFound anchor)
  | some i =>
    let index := match position with
      | .before => i
      | .after => i + 1
    return ⟨(), [.place index id entry], .inserted id anchor position⟩

/-- Puts the entry in the place of the one under `id`, which is returned.  The new
entry may bring another identifier, unless a different entry has it. -/
def swap (r : Registry α) (id : String) (entry : α) : Except Error (Change α α) :=
  match r.indexOf? id, r.get? id with
  | some index, some old =>
    let new := Identified.id entry
    if new = "" then .error .emptyId
    else if new = id then .ok ⟨old, [.fill index entry], .swapped id none⟩
    else if r.contains new then .error (.duplicateId new)
    else .ok ⟨old, [.drop index, .place index new entry], .swapped id (some new)⟩
  | _, _ => .error (.notFound id)

end Registry

end OpStack
