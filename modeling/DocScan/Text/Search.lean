import DocScan.Text.Basic

/-!
# Searching a text

`after` gives what follows the first occurrence of a marker, `beforeLast` what stands in front of
the last occurrence of a character.
-/

namespace DocScan.Text

/-- What follows the first occurrence of the marker, or nothing if the marker does not occur. The
empty marker occurs at the very start. -/
def after (marker : Text) (text : Text) : Option Text :=
  if marker.isPrefixOf text then some (text.drop marker.length)
  else match text with
    | [] => none
    | _ :: rest => after marker rest

def beforeLast (mark : Char) : Text → Option Text
  | [] => none
  | c :: rest =>
    match beforeLast mark rest with
    | some front => some (c :: front)
    | none => if c = mark then some [] else none

theorem beforeLast_eq_none_iff (mark : Char) (text : Text) :
    beforeLast mark text = none ↔ mark ∉ text := by
  induction text with
  | nil => simp [beforeLast]
  | cons c rest ih =>
      cases found : beforeLast mark rest with
      | some front => simp_all [beforeLast]
      | none =>
          by_cases isMark : c = mark
          · simp [beforeLast, found, isMark]
          · simp [beforeLast, found, isMark, Ne.symm isMark, ih.mp found]

end DocScan.Text
