import DocScan.Text.Basic

/-!
# Values under names

A list of named values in the order in which the names came up. Storing a value under a name that is
there already leaves the name at its place.
-/

namespace DocScan.Named

variable {α : Type}

/-- A value stored under a name: in the place of an earlier value of that name, else at the end. -/
def put (name : Text) (value : α) : List (Text × α) → List (Text × α)
  | [] => [(name, value)]
  | (other, old) :: rest =>
    if other = name then (name, value) :: rest else (other, old) :: put name value rest

theorem lookup_put_self (name : Text) (value : α) (named : List (Text × α)) :
    (put name value named).lookup name = some value := by
  induction named with
  | nil => simp [put]
  | cons entry rest ih =>
      obtain ⟨other, old⟩ := entry
      by_cases same : other = name
      · simp [put, same]
      · have different : (name == other) = false := by simp [Ne.symm same]
        simpa [put, same, List.lookup_cons, different] using ih

theorem lookup_put_of_ne (name asked : Text) (value : α) (named : List (Text × α))
    (different : asked ≠ name) : (put name value named).lookup asked = named.lookup asked := by
  induction named with
  | nil =>
      have other : (asked == name) = false := by simp [different]
      simp [put, List.lookup_cons, other]
  | cons entry rest ih =>
      obtain ⟨other, old⟩ := entry
      by_cases same : other = name
      · have unlike : (asked == other) = false := by simp [same, different]
        have unlikeName : (asked == name) = false := by simp [different]
        simp [put, same, List.lookup_cons, unlikeName]
      · simp [put, same, List.lookup_cons, ih]

theorem names_put (name : Text) (value : α) (named : List (Text × α)) :
    (put name value named).map Prod.fst =
      if name ∈ named.map Prod.fst then named.map Prod.fst else named.map Prod.fst ++ [name] := by
  induction named with
  | nil => simp [put]
  | cons entry rest ih =>
      obtain ⟨other, old⟩ := entry
      by_cases same : other = name
      · simp [put, same]
      · have unlike : name ≠ other := fun equal => same equal.symm
        simp only [put, same, if_false, List.map_cons, ih, List.mem_cons, unlike, false_or]
        split <;> simp

def drop (name : Text) (named : List (Text × α)) : List (Text × α) :=
  named.filter (·.1 != name)

end DocScan.Named
