import Spelling.Keyboard.Geometry
import Spelling.Locale.Script

/-!
# Keyboard layouts

The alphabet layouts that locales are typed on.  The script of a locale picks its layout; Serbian is
written in two scripts and typed on one layout whatever its script.  A script without layout is a
mistake of the caller, told by a message that names it.
-/

namespace Spelling

/-- A named layout and its rows of letters. -/
structure Layout where
  name : String
  rows : List String
  deriving DecidableEq, Repr

namespace Layout

def qwerty : Layout := ⟨"qwerty", ["qwertyuiop", "asdfghjkl", "zxcvbnm"]⟩
def eastSlavic : Layout := ⟨"east_slavic", ["йцукенгшщзх", "фывапролджэ", "ячсмитьбю"]⟩
def southSlavic : Layout := ⟨"south_slavic", ["љњертзуиопш", "асдфгхјклчћ", "ѕџцвбнмђж"]⟩
def greek : Layout := ⟨"greek", [";ςερτυθιοπ", "ασδφγηξκλ", "ζχψωβνμ"]⟩
def hebrew : Layout := ⟨"hebrew", ["'-קראטוןםפ", "שדגכעיחלךף", "זסבהנמצתץ"]⟩

/-- Every layout. -/
def known : List Layout := [qwerty, eastSlavic, southSlavic, greek, hebrew]

/-- The layout of a script. -/
def ofScript? : Script → Option Layout
  | .latin => some qwerty
  | .cyrillic => some eastSlavic
  | .greek => some greek
  | .hebrew => some hebrew
  | _ => none

/-- The layout a locale is typed on. -/
def ofLocale? (l : Locale) : Option Layout :=
  if l.language == "sr" then some southSlavic else ofScript? l.script

/-- What the caller is told about a locale without layout. -/
def missingMessage (l : Locale) : String :=
  "no keyboard layout for " ++ l.script.name ++ " script of locale " ++ l.display

/-- The layout a locale is typed on, or the message for a locale without one. -/
def ofLocale (l : Locale) : Except String Layout :=
  match ofLocale? l with
  | some layout => .ok layout
  | none => .error (missingMessage l)

end Layout

namespace Keyboard

/-- Width of the keyboard built for spell checking, in pixels. -/
def standardWidth : Float32 := 480

/-- Height of the keyboard built for spell checking, in pixels. -/
def standardHeight : Float32 := 301

/-- A layout in the size used for spell checking. -/
def ofLayout (layout : Layout) : Keyboard :=
  ofRows layout.name layout.rows standardWidth standardHeight

/-- The layout of some name in the size used for spell checking. -/
def named? (name : String) : Option Keyboard :=
  (Layout.known.find? (·.name == name)).map ofLayout

/-- The keyboard a locale is typed on, or the message for a locale without one. -/
def ofLocale (l : Locale) : Except String Keyboard :=
  (Layout.ofLocale l).map ofLayout

end Keyboard

end Spelling
