import Spelling.Text.CaseMap

/-!
# Keyboard geometry

Where the keys of a keyboard lie, in single precision.  Corrections are priced by how close two keys
are, or by how far a touch point is from a key; both distances are measured in key sizes.
-/

namespace Spelling

/-- A point of the keyboard, in pixels. -/
structure Point where
  x : Float32
  y : Float32

/-- Whether two points have equal coordinates. -/
def Point.same (a b : Point) : Bool :=
  a.x == b.x && a.y == b.y

/-- Length of the hypotenuse, computed in double precision.  An infinite side makes it infinite
whatever the other side is. -/
def hypotenuse (x y : Float32) : Float32 :=
  if x.isInf || y.isInf then Float32.ofBits 0x7F800000
  else (Float.sqrt (x.toFloat * x.toFloat + y.toFloat * y.toFloat)).toFloat32

/-- How close two keys are. -/
inductive Proximity where
  /-- The same key -/
  | same
  /-- Keys that touch -/
  | adjacent
  /-- Keys further apart -/
  | distant
  /-- One of the characters has no key -/
  | unknown
  deriving DecidableEq, Repr

/-- Centres and size of the keys of a layout. -/
structure Keyboard where
  layout : String
  /-- Centre of each key, one entry per character -/
  keys : List (Char × Point)
  keyWidth : Float32
  keyHeight : Float32

namespace Keyboard

/-- A keyboard without keys. -/
def empty : Keyboard := ⟨"", [], 1, 1⟩

/-- Places a key, unless its character has one already. -/
def place (keys : List (Char × Point)) (c : Char) (p : Point) : List (Char × Point) :=
  if keys.any (·.1 == c) then keys else keys ++ [(c, p)]

/-- Number of keys in the longest row, at least one. -/
def columns (rows : List String) : Nat :=
  max 1 ((rows.map String.length).foldl max 0)

/-- Centre of the key in a column of a row.  Each row is shifted right by half a key more than the
one above it. -/
def centre (keyWidth keyHeight : Float32) (row column : Nat) : Point :=
  { x := Float32.ofNat row * keyWidth / 2 + (Float32.ofNat column + 0.5) * keyWidth
    y := (Float32.ofNat row + 0.5) * keyHeight }

/-- Lays out rows of keys.  Keys share the width of the longest row, and one row more than there are
is left for the space bar. -/
def ofRows (layout : String) (rows : List String) (width height : Float32) : Keyboard :=
  let keyWidth := width / Float32.ofNat (columns rows)
  let keyHeight := height / Float32.ofNat (rows.length + 1)
  let keys := rows.zipIdx.foldl (fun keys (row, i) =>
    row.toList.zipIdx.foldl (fun keys (c, j) =>
      place keys c (centre keyWidth keyHeight i j)) keys) []
  ⟨layout, keys, keyWidth, keyHeight⟩

/-- Centre of the key of exactly this character. -/
def keyOf? (k : Keyboard) (c : Char) : Option Point :=
  k.keys.lookup c

/-- Centre of the key that types a character, its lowercase standing in for it. -/
def centre? (k : Keyboard) (c : Char) : Option Point :=
  (k.keyOf? c).or ((Text.lowerChar c).head?.bind k.keyOf?)

/-- Distance between two points in key sizes. -/
def distance (k : Keyboard) (a b : Point) : Float32 :=
  hypotenuse ((a.x - b.x) / k.keyWidth) ((a.y - b.y) / k.keyHeight)

/-- Distance from a touch point to the key of a character, in key sizes. -/
def distanceTo? (k : Keyboard) (touch : Point) (c : Char) : Option Float32 :=
  (k.centre? c).map (k.distance touch)

/-- How close the keys of two characters are. -/
def proximity (k : Keyboard) (a b : Char) : Proximity :=
  match k.centre? a, k.centre? b with
  | some p, some q =>
    if p.same q then .same
    else if k.distance p q ≤ 1.5 then .adjacent
    else .distant
  | _, _ => .unknown

/-- Whether two keyboards have the same layout name, key sizes and keys. -/
def same (a b : Keyboard) : Bool :=
  a.layout == b.layout && a.keyWidth == b.keyWidth && a.keyHeight == b.keyHeight &&
    a.keys.length == b.keys.length &&
    a.keys.all fun (c, p) => match b.keyOf? c with
      | some q => p.same q
      | none => false

end Keyboard

end Spelling
