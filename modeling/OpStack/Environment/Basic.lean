/-!
# OpStack.Environment.Basic

The variables that a program finds set when it runs, by name.
-/

namespace OpStack

/-- Names with their values; of two entries for a name the first counts. -/
abbrev Environment := List (String × String)

namespace Environment

def get? (env : Environment) (name : String) : Option String := env.lookup name

/-- Sets a variable unless it is set already. -/
def define (env : Environment) (name value : String) : Environment :=
  if (env.get? name).isSome then env else env ++ [(name, value)]

/-- Defining keeps what is set and sets the rest. -/
theorem get?_define (env : Environment) (name value other : String) :
    (env.define name value).get? other =
      (env.get? other).or (if other = name then some value else none) := by
  unfold define get?
  split
  next h =>
    split
    next e => subst e; obtain ⟨v, hv⟩ := Option.isSome_iff_exists.mp h; simp [hv]
    next => simp
  next h =>
    rw [List.lookup_append]
    congr 1
    by_cases e : other = name
    · simp [e]
    · simp [List.lookup_cons, beq_eq_false_iff_ne.mpr e, e]

end Environment

end OpStack
