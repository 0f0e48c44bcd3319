/-!
# Fields

Named values in the order in which they were named. `get?_put` says what an update changes.
-/

namespace FtpIntake

/-- Named values. Of several with one name the first one counts. -/
abbrev Fields (α : Type) := List (String × α)

namespace Fields

variable {α : Type}

/-- The value with a name. -/
def get? (fields : Fields α) (name : String) : Option α :=
  fields.lookup name

/-- Gives a name a value, in place of the one it had. A new name comes last. -/
def put (fields : Fields α) (name : String) (value : α) : Fields α :=
  match fields with
  | [] => [(name, value)]
  | (n, v) :: rest => if n = name then (name, value) :: rest else (n, v) :: put rest name value

theorem get?_put (fields : Fields α) (name other : String) (value : α) :
    (fields.put name value).get? other = if other = name then some value else fields.get? other := by
  induction fields with
  | nil => by_cases h : other = name <;> simp [put, get?, List.lookup_cons, h, beq_eq_false_iff_ne.2]
  | cons field rest ih =>
    obtain ⟨n, v⟩ := field
    simp only [get?] at ih
    by_cases hn : n = name
    · subst hn
      by_cases ho : other = n <;> simp [put, get?, List.lookup_cons, ho, beq_eq_false_iff_ne.2]
    · by_cases ho : other = n
      · subst ho
        simp [put, get?, hn]
      · simp [put, get?, List.lookup_cons, hn, ho, beq_eq_false_iff_ne.2, ih]

end Fields

end FtpIntake
