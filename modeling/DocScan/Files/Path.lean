import DocScan.Text.Basic

/-!
# Paths

A path is a root, which relative paths do not have, and the names from there on. Doubled slashes,
slashes at the end and single dots mean nothing and are dropped; two dots stay, because they depend
on what the names before them lead to.
-/

namespace DocScan

structure Path where
  root : Text := []
  names : List Text := []
deriving DecidableEq, Repr

namespace Path

def parentName : Text := ['.', '.']

def isProper (name : Text) : Bool := name ≠ [] ∧ name ≠ ['.']

/-- The root that a text starts with. Exactly two slashes are a root of their own. -/
def rootOf : Text → Text
  | '/' :: '/' :: '/' :: _ => ['/']
  | '/' :: '/' :: _ => ['/', '/']
  | '/' :: _ => ['/']
  | _ => []

def ofText (text : Text) : Path :=
  { root := rootOf text, names := (Text.split '/' text).filter isProper }

/-- The text of a path. The path without root and names is a single dot. -/
def text (path : Path) : Text :=
  if path.root = [] ∧ path.names = [] then ['.'] else path.root ++ Text.join ['/'] path.names

def child (path : Path) (name : Text) : Path := { path with names := path.names ++ [name] }

def parents (path : Path) : List Path :=
  (List.range path.names.length).reverse.map fun count =>
    { path with names := path.names.take count }

theorem split_of_not_mem (mark : Char) (text : Text) (plain : mark ∉ text) :
    Text.split mark text = [text] := by
  induction text with
  | nil => rfl
  | cons c rest ih =>
      simp only [List.mem_cons, not_or] at plain
      simp [Text.split, Ne.symm plain.1, ih plain.2]

theorem text_ofText_name (name : Text) (proper : isProper name = true) (plain : '/' ∉ name) :
    (ofText name).text = name := by
  have noRoot : rootOf name = [] := by
    unfold rootOf
    split <;> simp_all
  simp [ofText, split_of_not_mem '/' name plain, proper, noRoot, text, Text.join]

end Path

end DocScan
